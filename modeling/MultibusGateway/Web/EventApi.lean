import MultibusGateway.Library.Latest
import MultibusGateway.Services.MqttEvents
import MultibusGateway.Web.Administration

/-! What the event API reports of the ring. The events have the numbers 1, 2, 3 and so on in the
order in which they were accepted, and the ring keeps the latest of them. -/

namespace Events
open ByteString

/-- An emit, as a part of the gateway makes it. -/
structure Emit where
  source : Bytes
  type : Bytes
  severity : EventSeverity := .info
  timestampUnix : UInt32 := 0
  detail : Bytes := []

namespace Emit

/-- What the emit adds to the ring, without a number yet; none if a text does not fit. -/
def record (e : Emit) : Option EventRecord :=
  match setEventText kEventSourceLength e.source, setEventText kEventTypeLength e.type with
  | some source, some type =>
    match if (cStr e.detail).isEmpty then some []
      else setEventText kEventDetailLength e.detail with
    | none => none
    | some detail =>
      some { timestampUnix := e.timestampUnix, severity := e.severity, source, type, detail }
  | _, _ => none

theorem record_sequence (e : Emit) (record : EventRecord) (accepted : e.record = some record) :
    record.sequence = 0 := by
  unfold Emit.record at accepted
  split at accepted
  · split at accepted
    · cases accepted
    · cases accepted
      rfl
  · cases accepted

end Emit

namespace EventBus
variable {capacity : Nat}

def emitOne (bus : EventBus capacity) (e : Emit) : EventBus capacity :=
  (bus.emit e.source e.type e.severity e.timestampUnix e.detail).1

def emitAll (emits : List Emit) : EventBus capacity := emits.foldl emitOne {}

/-- The events that were accepted, the oldest first. -/
def accepted (emits : List Emit) : List EventRecord := emits.filterMap Emit.record

theorem emitOne_eq (bus : EventBus capacity) (e : Emit) : bus.emitOne e =
    e.record.elim bus fun record =>
      bus.push { record with sequence := bus.latestSequence + 1 } := by
  have back : bus.latestSequence + 1 - 1 = bus.latestSequence := by simp
  unfold emitOne emit Emit.record
  cases setEventText kEventSourceLength e.source with
  | none => rfl
  | some source =>
    cases setEventText kEventTypeLength e.type with
    | none => rfl
    | some type =>
      dsimp only
      generalize (if (cStr e.detail).isEmpty then some []
        else setEventText kEventDetailLength e.detail) = detail
      cases detail with
      | none => rfl
      | some detail =>
        simp only [push, back]
        rfl

/-- The ring holds the latest accepted events, each in the place of its number. -/
structure Holds (bus : EventBus capacity) (log : List EventRecord) : Prop where
  latest : bus.latestSequence.toNat = log.length
  count : bus.count = min log.length capacity
  held : ∀ q record, log[q]? = some record → log.length ≤ q + capacity →
    bus.records (q % capacity) = { record with sequence := UInt64.ofNat (q + 1) }

theorem holds_start : Holds ({} : EventBus capacity) [] where
  latest := rfl
  count := (Nat.zero_min capacity).symm
  held := by
    intro q record found
    cases found

section
variable (bus : EventBus capacity) (log : List EventRecord) (holds : Holds bus log)

include holds

theorem Holds.numbered : Numbered bus where
  count := by rw [holds.count, holds.latest]
  held := by
    intro q beyond inside
    have count := holds.count
    have latest := holds.latest
    have bound := bus.latestSequence.toNat_lt
    unfold floor at beyond
    have here : q - 1 < log.length := by omega
    rw [slotOf, holds.held (q - 1) log[q - 1] (List.getElem?_eq_getElem here) (by omega),
      Nat.sub_add_cancel (by omega), UInt64.toNat_ofNat']
    omega

theorem holds_push (record : EventRecord) (more : log.length + 1 < 2 ^ 64) :
    Holds (bus.push { record with sequence := bus.latestSequence + 1 }) (log ++ [record]) := by
  have latest := holds.latest
  have numbered := holds.numbered
  have next := push_latest bus (by omega) { record with sequence := bus.latestSequence + 1 }
  refine ⟨?_, ?_, ?_⟩
  · rw [next, latest, List.length_append, List.length_singleton]
  · rw [push_count bus numbered, latest, List.length_append, List.length_singleton]
  · intro q entry found near
    rw [List.length_append, List.length_singleton] at near
    by_cases last : q = log.length
    · rw [last, List.getElem?_append_right le_rfl, Nat.sub_self] at found
      cases found
      have number : bus.latestSequence + 1 = UInt64.ofNat (log.length + 1) := by
        apply UInt64.toNat_inj.mp
        rw [UInt64.toNat_add, latest, UInt64.toNat_ofNat']
        rfl
      rw [push, last, ← number]
      simp only [latest, if_true]
    · have inside := (List.getElem?_eq_some_iff.mp found).1
      rw [List.length_append, List.length_singleton] at inside
      rw [List.getElem?_append_left (by omega)] at found
      have other : slotOf capacity (q + 1) ≠ slotOf capacity (log.length + 1) :=
        slotOf_ne _ _ (by omega) (by omega) (by omega)
      simp only [slotOf, Nat.add_sub_cancel] at other
      simp only [push, latest, if_neg other]
      exact holds.held q entry found (by omega)

end

theorem holds_emitAll (emits : List Emit) (few : (accepted emits).length < 2 ^ 64) :
    Holds (emitAll emits : EventBus capacity) (accepted emits) := by
  induction emits using List.reverseRecOn with
  | nil => exact holds_start
  | append_singleton emits e ih =>
    have logs : accepted (emits ++ [e]) = accepted emits ++ e.record.toList := by
      rw [accepted, List.filterMap_append]
      cases found : e.record <;> simp [accepted, found]
    rw [logs, List.length_append] at few
    rw [logs, emitAll, List.foldl_append, List.foldl_cons, List.foldl_nil, emitOne_eq]
    rw [emitAll] at ih
    cases found : e.record with
    | none =>
      rw [Option.toList_none, List.append_nil]
      exact ih (by omega)
    | some record =>
      rw [found, Option.toList_some, List.length_singleton] at few
      exact holds_push _ _ (ih (by omega)) record few

end EventBus

end Events

namespace Web
open ByteString Events

def withNumber (event : EventRecord) : EventRecord × ℕ :=
  ({ event with sequence := 0 }, event.sequence.toNat)

/-- The events that a ring of this capacity retains, with their numbers. -/
def retained (capacity : ℕ) (emits : List Emit) : List (EventRecord × ℕ) :=
  ((EventBus.accepted emits).zipIdx 1).rtake capacity

/-- A list reports what is retained after a number, and what was missed before it. -/
structure Reported (capacity : ℕ) (emits : List Emit) (after : UInt64) (list : EventList) :
    Prop where
  events : list.events.map withNumber =
    (retained capacity emits).filter fun event => after.toNat < event.2
  increasing : list.events.Pairwise fun a b => a.sequence < b.sequence
  oldest : list.oldestSequence.toNat = ((retained capacity emits).head?.map (·.2)).getD 0
  missed : list.missedBefore.toNat = (Finset.Ioo after.toNat list.oldestSequence.toNat).card

section
variable {capacity : ℕ} (bus : EventBus capacity) (log : List EventRecord)
  (holds : bus.Holds log) (blank : ∀ record ∈ log, record.sequence = 0)

include holds blank

theorem listEvents_stamp (numbers room : ℕ) (sequence : UInt64)
    (beyond : bus.floor < sequence.toNat) (all : sequence.toNat + numbers = log.length + 1)
    (enough : numbers ≤ room) : (WebService.listEvents bus room numbers sequence).map withNumber =
      (log.drop (sequence.toNat - 1)).zipIdx sequence.toNat := by
  have latest := holds.latest
  have bound := bus.latestSequence.toNat_lt
  induction numbers generalizing room sequence with
  | zero =>
    rw [List.drop_of_length_le (by omega)]
    rfl
  | succ numbers ih =>
    have inside : sequence ≤ bus.latestSequence := by
      rw [UInt64.le_iff_toNat_le]
      omega
    have here : sequence.toNat - 1 < log.length := by omega
    have number : UInt64.ofNat (sequence.toNat - 1 + 1) = sequence := by
      rw [Nat.sub_add_cancel (by omega), UInt64.ofNat_toNat]
    have near : log.length ≤ sequence.toNat - 1 + capacity := by
      have count := holds.count
      unfold EventBus.floor at beyond
      omega
    have read := EventBus.read_held bus holds.numbered sequence beyond inside
    rw [EventBus.slotOf, holds.held _ _ (List.getElem?_eq_getElem here) near, number] at read
    have item : withNumber { log[sequence.toNat - 1] with sequence } =
        (log[sequence.toNat - 1], sequence.toNat) := by
      have own := blank _ (List.getElem_mem here)
      simp only [withNumber, ← own]
    have going : (sequence > bus.latestSequence || decide (room = 0)) = false := by
      simp only [Bool.or_eq_false_iff, decide_eq_false_iff_not]
      exact ⟨UInt64.not_lt.mpr inside, by omega⟩
    rw [List.drop_eq_getElem_cons here, List.zipIdx_cons, WebService.listEvents]
    rw [if_neg (by simpa using going), read]
    dsimp only [Option.toList_some, List.length_singleton]
    split
    · rename_i last
      have most : sequence.toNat = 2 ^ 64 - 1 := by
        rw [last]
        rfl
      rw [List.drop_of_length_le (by omega), List.zipIdx_nil, List.map_singleton, item]
    · rename_i more
      have next : (sequence + 1).toNat = sequence.toNat + 1 := by
        have most : sequence.toNat ≠ 2 ^ 64 - 1 := fun same =>
          more (UInt64.toNat_inj.mp same)
        have small := sequence.toNat_lt
        rw [UInt64.toNat_add, UInt64.toNat_one]
        omega
      have rest := ih (room - 1) (sequence + 1) (by omega) (by omega) (by omega)
      rw [next, Nat.add_sub_cancel] at rest
      rw [List.map_append, List.map_singleton, item, rest, Nat.sub_add_cancel (by omega)]
      rfl

theorem eventList_events (positive : 0 < capacity) (after : UInt64) :
    (WebService.eventList after bus).events.map withNumber =
      ((log.zipIdx 1).rtake capacity).filter fun event => after.toNat < event.2 := by
  have latest := holds.latest
  have count := holds.count
  have floor : bus.floor = log.length - capacity := by
    unfold EventBus.floor
    omega
  have wanted : ((log.zipIdx 1).rtake capacity).filter (fun event => after.toNat < event.2) =
      (log.drop (max bus.floor after.toNat)).zipIdx (max bus.floor after.toNat + 1) := by
    rw [Latest.rtake_zipIdx, Latest.filter_zipIdx, List.rtake, List.drop_drop]
    congr 1
    · congr 1
      omega
    · omega
  rw [wanted, WebService.eventList]
  dsimp only
  by_cases none : log.length = 0
  · have empty : bus.count = 0 := by omega
    rw [EventBus.oldestSequence, if_pos empty, List.drop_of_length_le (by omega)]
    rfl
  · have held : bus.count ≠ 0 := by omega
    have oldest := EventBus.oldestSequence_toNat bus holds.numbered held
    have some_ : (bus.oldestSequence != 0) = true := by
      rw [bne_iff_ne]
      intro zero
      rw [zero, UInt64.toNat_zero] at oldest
      omega
    rw [some_, Bool.true_and]
    by_cases behind : after < bus.latestSequence
    · have less := UInt64.lt_iff_toNat_lt.mp behind
      have bound := bus.latestSequence.toNat_lt
      have inner : after ≠ 0xffffffffffffffff := by
        intro most
        rw [most] at less
        have top : (0xffffffffffffffff : UInt64).toNat = 2 ^ 64 - 1 := rfl
        omega
      have next : (after + 1).toNat = after.toNat + 1 := by
        rw [UInt64.toNat_add, UInt64.toNat_one]
        omega
      rw [if_pos (decide_eq_true behind), if_neg inner]
      have first : (if after + 1 < bus.oldestSequence then bus.oldestSequence
          else after + 1).toNat = max bus.floor after.toNat + 1 := by
        split
        · rename_i early
          rw [UInt64.lt_iff_toNat_lt] at early
          omega
        · rename_i late
          rw [UInt64.lt_iff_toNat_lt] at late
          omega
      generalize (if after + 1 < bus.oldestSequence then bus.oldestSequence
          else after + 1) = sequence at first ⊢
      have within : sequence ≤ bus.latestSequence := by
        rw [UInt64.le_iff_toNat_le]
        omega
      rw [listEvents_stamp bus log holds blank _ _ _ (by omega), first, Nat.add_sub_cancel]
      · rw [UInt64.toNat_sub_of_le _ _ within]
        omega
      · rw [UInt64.toNat_sub_of_le _ _ within]
        unfold EventBus.floor at first
        omega
    · have reached := mt UInt64.lt_iff_toNat_lt.mpr behind
      rw [if_neg (by simpa using behind), List.drop_of_length_le (by omega)]
      rfl

omit blank in
theorem oldestSequence_retained (positive : 0 < capacity) : bus.oldestSequence.toNat =
    (((log.zipIdx 1).rtake capacity).head?.map (·.2)).getD 0 := by
  have count := holds.count
  have latest := holds.latest
  have floor : bus.floor = log.length - capacity := by
    unfold EventBus.floor
    omega
  rw [Latest.rtake_zipIdx, List.rtake]
  by_cases none : log.length = 0
  · have empty : bus.count = 0 := by omega
    rw [EventBus.oldestSequence, if_pos empty, List.drop_of_length_le (by omega)]
    rfl
  · rw [EventBus.oldestSequence_toNat bus holds.numbered (by omega), floor,
      List.drop_eq_getElem_cons (by omega), List.zipIdx_cons, List.head?_cons]
    simp only [Option.map_some, Option.getD_some]
    omega

omit blank in
/-- What was missed is counted right but for the last of all numbers, which is not before any. -/
theorem missedSince_iff (positive : 0 < capacity) (after : UInt64) :
    (bus.missedSince after).toNat = (Finset.Ioo after.toNat bus.oldestSequence.toNat).card ↔
      after ≠ 0xffffffffffffffff ∨ log = [] := by
  have count := holds.count
  have small := after.toNat_lt
  rw [Nat.card_Ioo, EventBus.missedSince]
  by_cases none : log.length = 0
  · have empty : bus.count = 0 := by omega
    rw [if_pos empty, EventBus.oldestSequence, if_pos empty, UInt64.toNat_zero]
    exact iff_of_true (by omega) (Or.inr (List.eq_nil_of_length_eq_zero none))
  · have held : bus.count ≠ 0 := by omega
    have oldest := EventBus.oldestSequence_toNat bus holds.numbered held
    have nonempty : log ≠ [] := fun empty => none (by rw [empty]; rfl)
    have bound := bus.oldestSequence.toNat_lt
    rw [if_neg held]
    dsimp only
    by_cases most : after = 0xffffffffffffffff
    · have wrapped : after + 1 = 0 := by
        rw [most]
        rfl
      have top : after.toNat = 2 ^ 64 - 1 := by
        rw [most]
        rfl
      have before : (0 : UInt64) < bus.oldestSequence := by
        rw [UInt64.lt_iff_toNat_lt, UInt64.toNat_zero]
        omega
      rw [wrapped, if_pos before, UInt64.sub_zero]
      refine iff_of_false (by omega) ?_
      rintro (other | empty)
      · exact other most
      · exact nonempty empty
    · have next : (after + 1).toNat = after.toNat + 1 := by
        have inner : after.toNat ≠ 2 ^ 64 - 1 := fun same => most (UInt64.toNat_inj.mp same)
        rw [UInt64.toNat_add, UInt64.toNat_one]
        omega
      refine iff_of_true ?_ (Or.inl most)
      rw [EventBus.toNat_behind]
      omega

end

theorem accepted_blank (emits : List Emit) (record : EventRecord)
    (member : record ∈ EventBus.accepted emits) : record.sequence = 0 := by
  obtain ⟨e, -, accepted⟩ := List.mem_filterMap.mp member
  exact e.record_sequence record accepted

theorem latest_retained (capacity : ℕ) (positive : 0 < capacity) (emits : List Emit)
    (some_ : 0 < (EventBus.accepted emits).length) :
    ∃ record, (record, (EventBus.accepted emits).length) ∈ retained capacity emits := by
  unfold retained
  generalize EventBus.accepted emits = log at some_
  have here : log.length - 1 < log.length := by omega
  refine ⟨log[log.length - 1], ?_⟩
  have place : ((log.zipIdx 1).rtake capacity)[log.length - 1 - (log.length - capacity)]? =
      some (log[log.length - 1], log.length) := by
    have index : log.length - capacity + (log.length - 1 - (log.length - capacity)) =
        log.length - 1 := by omega
    rw [List.rtake, List.getElem?_drop, List.length_zipIdx, index, List.getElem?_zipIdx,
      List.getElem?_eq_getElem here, Option.map_some, Nat.add_comm, Nat.sub_add_cancel some_]
  exact List.mem_of_getElem? place

theorem reported_iff (capacity : ℕ) (positive : 0 < capacity) (emits : List Emit)
    (after : UInt64) :
    Reported capacity emits after
        (WebService.eventList after (EventBus.emitAll emits : EventBus capacity)) ↔
      (EventBus.accepted emits).length < 2 ^ 64 ∧
        (after ≠ 0xffffffffffffffff ∨ EventBus.accepted emits = []) := by
  constructor
  · intro reported
    have few : (EventBus.accepted emits).length < 2 ^ 64 := by
      by_contra many
      obtain ⟨record, kept⟩ := latest_retained capacity positive emits (by omega)
      have wanted : (record, (EventBus.accepted emits).length) ∈
          (retained capacity emits).filter fun event => after.toNat < event.2 := by
        have bound := after.toNat_lt
        rw [List.mem_filter]
        exact ⟨kept, decide_eq_true (by dsimp only; omega)⟩
      rw [← reported.events] at wanted
      obtain ⟨event, -, same⟩ := List.mem_map.mp wanted
      have number : event.sequence.toNat = (EventBus.accepted emits).length :=
        congrArg Prod.snd same
      have bound := event.sequence.toNat_lt
      omega
    exact ⟨few, (missedSince_iff _ _ (EventBus.holds_emitAll emits few) positive after).mp
      reported.missed⟩
  · rintro ⟨few, right⟩
    have holds : (EventBus.emitAll emits : EventBus capacity).Holds (EventBus.accepted emits) :=
      EventBus.holds_emitAll emits few
    have events := eventList_events _ _ holds (accepted_blank emits) positive after
    refine ⟨events, ?_, oldestSequence_retained _ _ holds positive,
      (missedSince_iff _ _ holds positive after).mpr right⟩
    have ordered : ((WebService.eventList after
        (EventBus.emitAll emits : EventBus capacity)).events.map withNumber).Pairwise
          fun a b => a.2 < b.2 := by
      rw [events, List.rtake]
      exact ((Latest.pairwise_zipIdx _ 1).sublist (List.drop_sublist _ _)).filter _
    exact (List.pairwise_map.mp ordered).imp fun less => UInt64.lt_iff_toNat_lt.mpr less

/-! The requests. -/

/-- The number after which events are asked for. -/
def askedAfter (request : Request) : Option UInt64 :=
  if request.hasArg .after then WebService.parseUint64 (request.arg .after) else some 0

theorem handleEvents_admitted {capacity : ℕ} (bus : EventBus capacity) (request : Request)
    (web : WebService) (admitted : (web.requireAuth request).2 = none) (after : UInt64)
    (asked : askedAfter request = some after) : (web.handleEvents bus request).2 =
      { status := 200, body := .events (WebService.eventList after bus) } := by
  unfold WebService.handleEvents
  rw [askedAfter] at asked
  generalize web.requireAuth request = checked at admitted
  obtain ⟨seen, refusal⟩ := checked
  dsimp only at admitted
  subst admitted
  dsimp only
  rw [asked]

/-- Over every sequence of emits, the answer to a request that is let in reports what is retained
after the number that is asked for, and what was missed before it, exactly if the numbers have
not come to their end and the last number of all is not asked for. -/
theorem events_reported_iff {capacity : ℕ} (positive : 0 < capacity) (emits : List Emit)
    (web : WebService) (request : Request) (admitted : (web.requireAuth request).2 = none)
    (after : UInt64) (asked : askedAfter request = some after) :
    (∃ list, (web.handleEvents (EventBus.emitAll emits : EventBus capacity) request).2 =
        { status := 200, body := .events list } ∧ Reported capacity emits after list) ↔
      (EventBus.accepted emits).length < 2 ^ 64 ∧
        (after ≠ 0xffffffffffffffff ∨ EventBus.accepted emits = []) := by
  rw [handleEvents_admitted _ request web admitted after asked, ← reported_iff capacity positive]
  constructor
  · rintro ⟨list, same, reported⟩
    rw [Response.mk.injEq, Body.events.injEq] at same
    rw [same.2.1]
    exact reported
  · intro reported
    exact ⟨_, rfl, reported⟩

def eventsRequest (after : Bytes) : Request :=
  { route := .events
    cookie := firstCookie
    args := fun name => if name = .after then some after else none }

def bootEmit : Emit := { source := ascii "system", type := ascii "boot" }

theorem events_reported_boot :
    (∃ list, (({ session := firstSession } : WebService).handleEvents
        (EventBus.emitAll [bootEmit, bootEmit, bootEmit] : EventBus 2) (eventsRequest [0x31])).2 =
          { status := 200, body := .events list } ∧
        Reported 2 [bootEmit, bootEmit, bootEmit] 1 list) ↔
      (EventBus.accepted [bootEmit, bootEmit, bootEmit]).length < 2 ^ 64 ∧
        ((1 : UInt64) ≠ 0xffffffffffffffff ∨
          EventBus.accepted [bootEmit, bootEmit, bootEmit] = []) :=
  events_reported_iff (by decide) _ _ _ (by decide +kernel) 1 (by decide +kernel)

/-- After the last number of all one event counts as missed, of which there is none. -/
theorem missed_after_the_last :
    ¬ ∃ list, (({ session := firstSession } : WebService).handleEvents
        (EventBus.emitAll [bootEmit] : EventBus 32)
        (eventsRequest (ascii "18446744073709551615"))).2 =
          { status := 200, body := .events list } ∧
      Reported 32 [bootEmit] 0xffffffffffffffff list := by
  rintro ⟨list, same, reported⟩
  rw [handleEvents_admitted _ _ _ (by decide +kernel) 0xffffffffffffffff (by decide +kernel),
    Response.mk.injEq, Body.events.injEq] at same
  rw [← same.2.1] at reported
  have right := ((reported_iff 32 (by decide) _ _).mp reported).2
  exact absurd right (by decide +kernel)

end Web
