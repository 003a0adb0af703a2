import Mathlib.Data.Nat.ModEq
import MultibusGateway.Core.EventBus
import MultibusGateway.Library.Execution
import MultibusGateway.Library.LossyReader
import MultibusGateway.Library.Preferences

/-! The events that are published over MQTT. The service follows the ring of events with a
cursor of its own. The cursor and the count of missed events have 64 bits, the count of
published ones has 32: the three agree until that one turns over. -/

namespace Events
open ByteString Preferences Execution

/-! The ring. -/

namespace EventBus
variable {capacity : Nat}

def slotOf (capacity sequence : Nat) : Nat := (sequence - 1) % capacity

def floor (bus : EventBus capacity) : Nat := bus.latestSequence.toNat - bus.count

structure Numbered (bus : EventBus capacity) : Prop where
  count : bus.count = min bus.latestSequence.toNat capacity
  held : ∀ q, bus.floor < q → q ≤ bus.latestSequence.toNat →
    (bus.records (slotOf capacity q)).sequence.toNat = q

theorem numbered_start : Numbered ({} : EventBus capacity) where
  count := (Nat.zero_min capacity).symm
  held := by
    intro q beyond inside
    exact absurd beyond (Nat.not_lt.mpr inside)

theorem slotOf_ne (a b : Nat) (first : 0 < a) (less : a < b) (near : b - a < capacity) :
    slotOf capacity a ≠ slotOf capacity b := by
  intro same
  have divides : capacity ∣ (b - 1) - (a - 1) :=
    (Nat.modEq_iff_dvd' (by omega)).mp same
  have small := Nat.le_of_dvd (by omega) divides
  omega

def push (record : EventRecord) (bus : EventBus capacity) : EventBus capacity where
  records := fun slot =>
    if slot = bus.latestSequence.toNat % capacity then record else bus.records slot
  count := if bus.count < capacity then bus.count + 1 else bus.count
  latestSequence := bus.latestSequence + 1

theorem emit_cases (source type : Bytes) (severity : EventSeverity) (timestampUnix : UInt32)
    (detail : Bytes) (bus : EventBus capacity) :
    bus.emit source type severity timestampUnix detail = (bus, false) ∨
    ∃ record : EventRecord, record.sequence = bus.latestSequence + 1 ∧
      bus.emit source type severity timestampUnix detail = (bus.push record, true) := by
  have back : bus.latestSequence + 1 - 1 = bus.latestSequence := by simp
  unfold emit
  split
  · rename_i source' type' _ _
    split
    · exact Or.inl rfl
    · rename_i detail' _
      refine Or.inr ⟨⟨bus.latestSequence + 1, timestampUnix, severity, source', type', detail'⟩,
        rfl, ?_⟩
      simp only [push, back]
  · exact Or.inl rfl

section
variable (bus : EventBus capacity) (numbered : Numbered bus)
  (more : bus.latestSequence.toNat + 1 < 2 ^ 64)

include more in
theorem push_latest (record : EventRecord) :
    (bus.push record).latestSequence.toNat = bus.latestSequence.toNat + 1 := by
  rw [push, UInt64.toNat_add, UInt64.toNat_one, Nat.mod_eq_of_lt more]

include numbered

theorem push_count (record : EventRecord) :
    (bus.push record).count = min (bus.latestSequence.toNat + 1) capacity := by
  have count := numbered.count
  simp only [push]
  split <;> omega

include more in
theorem numbered_push (record : EventRecord)
    (numbering : record.sequence = bus.latestSequence + 1) :
    Numbered (bus.push record) := by
  have latest := push_latest bus more record
  have count := push_count bus numbered record
  refine ⟨by rw [count, latest], fun q beyond inside => ?_⟩
  rw [floor, latest, count] at beyond
  rw [latest] at inside
  have newest : bus.latestSequence.toNat % capacity =
      slotOf capacity (bus.latestSequence.toNat + 1) := by
    rw [slotOf, Nat.add_sub_cancel]
  simp only [push]
  rw [newest]
  by_cases last : q = bus.latestSequence.toNat + 1
  · rw [last, if_pos rfl, numbering, ← latest]
    rfl
  · rw [if_neg (slotOf_ne q _ (by omega) (by omega) (by omega))]
    have before := numbered.count
    exact numbered.held q (by rw [floor]; omega) (by omega)

end

theorem toNat_behind (wanted oldest : UInt64) :
    (if wanted < oldest then oldest - wanted else 0).toNat = oldest.toNat - wanted.toNat := by
  split
  · rename_i behind
    rw [UInt64.lt_iff_toNat_lt] at behind
    exact UInt64.toNat_sub_of_le _ _ (UInt64.le_iff_toNat_le.mpr behind.le)
  · rename_i following
    rw [UInt64.lt_iff_toNat_lt] at following
    rw [UInt64.toNat_zero]
    omega

section
variable (bus : EventBus capacity) (numbered : Numbered bus)

include numbered

theorem oldestSequence_toNat (held : bus.count ≠ 0) :
    bus.oldestSequence.toNat = bus.floor + 1 := by
  have count := numbered.count
  have bound := bus.latestSequence.toNat_lt
  have size : (UInt64.ofNat bus.count).toNat = bus.count := by
    rw [UInt64.toNat_ofNat', Nat.mod_eq_of_lt (by omega)]
  have below : UInt64.ofNat bus.count ≤ bus.latestSequence := by
    rw [UInt64.le_iff_toNat_le, size]
    omega
  rw [oldestSequence, if_neg held, UInt64.toNat_add, UInt64.toNat_sub_of_le _ _ below, size,
    UInt64.toNat_one, floor]
  omega

theorem read_held (target : UInt64) (beyond : bus.floor < target.toNat)
    (inside : target ≤ bus.latestSequence) :
    bus.read target = some (bus.records (slotOf capacity target.toNat)) := by
  have upper := UInt64.le_iff_toNat_le.mp inside
  have held : bus.count ≠ 0 := by
    unfold floor at beyond
    omega
  have oldest := oldestSequence_toNat bus numbered held
  have own := UInt64.toNat_inj.mp (numbered.held target.toNat beyond upper)
  have positive : target ≠ 0 := fun zero => by
    rw [zero, UInt64.toNat_zero] at beyond
    omega
  have first : bus.oldestSequence ≠ 0 := fun zero => by
    rw [zero, UInt64.toNat_zero] at oldest
    omega
  have low : ¬ target < bus.oldestSequence := by
    rw [UInt64.lt_iff_toNat_lt]
    omega
  have slot : (target - 1).toNat % capacity = slotOf capacity target.toNat := by
    have one : (1 : UInt64) ≤ target := by
      rw [UInt64.le_iff_toNat_le, UInt64.toNat_one]
      omega
    rw [slotOf, UInt64.toNat_sub_of_le _ _ one, UInt64.toNat_one]
  have accepted : (target == 0 || bus.oldestSequence == 0 || target < bus.oldestSequence ||
      target > bus.latestSequence) = false := by
    simp [positive, first, low, UInt64.not_lt.mpr inside]
  rw [read]
  simp only [accepted, Bool.false_eq_true, if_false, slot, own, bne_self_eq_false]

def targetOf (cursor : UInt64) (bus : EventBus capacity) : UInt64 :=
  if cursor + 1 < bus.oldestSequence then bus.oldestSequence else cursor + 1

omit numbered in
theorem next_eq (cursor : UInt64) (held : bus.count ≠ 0) :
    bus.next cursor =
      if bus.targetOf cursor > bus.latestSequence then none
      else (bus.read (bus.targetOf cursor)).map fun record => (bus.targetOf cursor, record) := by
  rw [next, if_neg held]
  dsimp only
  rw [← targetOf]
  split
  · rfl
  · cases bus.read (bus.targetOf cursor) <;> rfl

variable (cursor : UInt64) (within : cursor.toNat ≤ bus.latestSequence.toNat)
  (ends : bus.latestSequence.toNat + 1 < 2 ^ 64)

include within ends

theorem next_held (more : max bus.floor cursor.toNat < bus.latestSequence.toNat) :
    ∃ target record, bus.next cursor = some (target, record) ∧
      target.toNat = max bus.floor cursor.toNat + 1 ∧ record.sequence = target := by
  have held : bus.count ≠ 0 := by
    unfold floor at more
    omega
  have oldest := oldestSequence_toNat bus numbered held
  have after : (cursor + 1).toNat = cursor.toNat + 1 := by
    rw [UInt64.toNat_add, UInt64.toNat_one, Nat.mod_eq_of_lt (by omega)]
  have place : (bus.targetOf cursor).toNat = max bus.floor cursor.toNat + 1 := by
    unfold targetOf
    split
    · rename_i skipped
      rw [UInt64.lt_iff_toNat_lt] at skipped
      omega
    · rename_i following
      rw [UInt64.lt_iff_toNat_lt] at following
      omega
  have inside : bus.targetOf cursor ≤ bus.latestSequence := by
    rw [UInt64.le_iff_toNat_le]
    omega
  have found := read_held bus numbered (bus.targetOf cursor) (by omega) inside
  refine ⟨bus.targetOf cursor, bus.records (slotOf capacity (bus.targetOf cursor).toNat), ?_,
    place, ?_⟩
  · rw [next_eq bus cursor held, if_neg (UInt64.not_lt.mpr inside), found]
    rfl
  · exact UInt64.toNat_inj.mp (numbered.held _ (by omega) (UInt64.le_iff_toNat_le.mp inside))

theorem next_none (less : bus.latestSequence.toNat ≤ max bus.floor cursor.toNat) :
    bus.next cursor = none := by
  rw [next]
  split
  · rfl
  · rename_i held
    have oldest := oldestSequence_toNat bus numbered held
    have count := numbered.count
    have after : (cursor + 1).toNat = cursor.toNat + 1 := by
      rw [UInt64.toNat_add, UInt64.toNat_one, Nat.mod_eq_of_lt (by omega)]
    have beyond : ¬ cursor + 1 < bus.oldestSequence := by
      rw [UInt64.lt_iff_toNat_lt]
      unfold floor at less oldest
      omega
    have late : cursor + 1 > bus.latestSequence := by
      rw [gt_iff_lt, UInt64.lt_iff_toNat_lt]
      unfold floor at less
      omega
    simp only [beyond, if_false, late, if_true]

theorem missedSince_toNat (positive : 0 < capacity) :
    (bus.missedSince cursor).toNat = bus.floor - cursor.toNat := by
  rw [missedSince]
  split
  · rename_i empty
    unfold floor
    rw [UInt64.toNat_zero]
    have count := numbered.count
    omega
  · rename_i held
    have oldest := oldestSequence_toNat bus numbered held
    have after : (cursor + 1).toNat = cursor.toNat + 1 := by
      rw [UInt64.toNat_add, UInt64.toNat_one, Nat.mod_eq_of_lt (by omega)]
    dsimp only
    rw [toNat_behind]
    omega

end

end EventBus

/-! The service. -/

def kMaxEventsPerLoop : Nat := 4

structure MqttService (capacity : Nat) where
  bus : EventBus capacity := {}
  eventPublishes : UInt32 := 0
  eventMissed : UInt64 := 0
  eventCursor : UInt64 := 0
  /-- The events published, the oldest first. -/
  log : List EventRecord := []
  /-- The numbers of the events that were overwritten while they lay beyond the cursor. -/
  lost : Finset Nat := ∅

namespace MqttService
variable {capacity : Nat}

def overwritten (bus : EventBus capacity) : Option Nat :=
  if bus.count < capacity then none
  else some (bus.records (bus.latestSequence.toNat % capacity)).sequence.toNat

def emitEvent (source type : Bytes) (severity : EventSeverity) (timestampUnix : UInt32)
    (detail : Bytes) (s : MqttService capacity) : MqttService capacity :=
  let (bus, emitted) := s.bus.emit source type severity timestampUnix detail
  if !emitted then { s with bus := bus }
  else
    { s with
      bus := bus
      lost := s.lost ∪
        ((overwritten s.bus).toFinset.filter fun sequence => s.eventCursor.toNat < sequence) }

def published (candidateCursor : UInt64) (event : EventRecord) (s : MqttService capacity) :
    MqttService capacity :=
  { s with
    eventPublishes := s.eventPublishes + 1
    eventCursor := candidateCursor
    eventMissed := s.eventMissed + s.bus.missedSince s.eventCursor
    log := s.log ++ [event] }

def publishTurns : Nat → List Bool → MqttService capacity → MqttService capacity
  | 0, _, s => s
  | turns + 1, outcomes, s =>
    match s.bus.next s.eventCursor with
    | none => s
    | some (candidateCursor, event) =>
      if !(draw outcomes).1 then s
      else publishTurns turns (draw outcomes).2 (s.published candidateCursor event)

def publishPendingEvents (connected : Bool) (outcomes : List Bool) (s : MqttService capacity) :
    MqttService capacity :=
  if !connected then s else publishTurns kMaxEventsPerLoop outcomes s

end MqttService

inductive EventStep where
  | emit (source type : Bytes) (severity : EventSeverity) (timestampUnix : UInt32)
      (detail : Bytes)
  | publish (connected : Bool) (outcomes : List Bool)

namespace MqttService
variable {capacity : Nat}

def step (s : MqttService capacity) : EventStep → MqttService capacity
  | .emit source type severity timestampUnix detail =>
    s.emitEvent source type severity timestampUnix detail
  | .publish connected outcomes => s.publishPendingEvents connected outcomes

def sequences (s : MqttService capacity) : List Nat := s.log.map fun event => event.sequence.toNat

/-- Every number up to the cursor is accounted for, as published or as missed; the missed ones
are those that were overwritten before they were read. -/
structure Accounted (s : MqttService capacity) : Prop where
  increasing : s.sequences.Pairwise (· < ·)
  counted : s.eventPublishes.toNat + s.eventMissed.toNat = s.eventCursor.toNat
  settled : ∀ sequence, 1 ≤ sequence → sequence ≤ s.eventCursor.toNat →
    (sequence ∈ s.sequences ↔ sequence ∉ s.lost)
  missed : s.eventMissed.toNat =
    (s.lost.filter fun sequence => sequence ≤ s.eventCursor.toNat).card

/-- The numbering of the events does not come to its end. -/
def Numberable (s : MqttService capacity) : EventStep → Prop
  | .emit _ _ _ _ _ => s.bus.latestSequence.toNat + 2 < 2 ^ 64
  | .publish _ _ => True

def RoomInTurns : Nat → List Bool → MqttService capacity → Prop
  | 0, _, _ => True
  | turns + 1, outcomes, s =>
    ∀ candidateCursor event, s.bus.next s.eventCursor = some (candidateCursor, event) →
      (draw outcomes).1 = true →
        s.eventPublishes.toNat + 1 < 2 ^ 32 ∧
          RoomInTurns turns (draw outcomes).2 (s.published candidateCursor event)

def RoomToPublish (s : MqttService capacity) : EventStep → Prop
  | .emit _ _ _ _ _ => True
  | .publish connected outcomes =>
    connected = true → RoomInTurns kMaxEventsPerLoop outcomes s

/-! The service follows the ring as a reader that loses events. -/

def view (s : MqttService capacity) : LossyReader where
  latest := s.bus.latestSequence.toNat
  floor := s.bus.floor
  cursor := s.eventCursor.toNat
  read := s.sequences
  missed := s.eventMissed.toNat
  lost := s.lost

structure Sound (s : MqttService capacity) : Prop where
  numbered : s.bus.Numbered
  ends : s.bus.latestSequence.toNat + 1 < 2 ^ 64
  exact : s.view.Exact
  turns : s.eventPublishes = UInt32.ofNat s.log.length

theorem sound_start : Sound ({} : MqttService capacity) :=
  ⟨EventBus.numbered_start, (by decide : (0 : UInt64).toNat + 1 < 2 ^ 64), LossyReader.exact_start,
    rfl⟩

theorem accounted_iff (s : MqttService capacity) (sound : Sound s) :
    Accounted s ↔ s.log.length < 2 ^ 32 := by
  have counted : s.log.length + s.eventMissed.toNat = s.eventCursor.toNat := by
    have counted := sound.exact.counted
    rwa [view, sequences, List.length_map] at counted
  have turned : s.eventPublishes.toNat = s.log.length % 2 ^ 32 := by
    rw [sound.turns, UInt32.toNat_ofNat']
  constructor
  · intro accounted
    have sum := accounted.counted
    omega
  · intro few
    refine ⟨sound.exact.increasing, ?_, sound.exact.settled, sound.exact.missed_lost⟩
    rw [turned, Nat.mod_eq_of_lt few, counted]

theorem view_published (s : MqttService capacity) (sound : Sound s) (positive : 0 < capacity)
    (candidateCursor : UInt64) (event : EventRecord)
    (place : candidateCursor.toNat = max s.bus.floor s.eventCursor.toNat + 1)
    (own : event.sequence = candidateCursor) :
    (s.published candidateCursor event).view = s.view.take := by
  have behind := EventBus.missedSince_toNat s.bus sound.numbered s.eventCursor
    sound.exact.cursor_le sound.ends positive
  have counted := sound.exact.counted
  have inside := sound.exact.cursor_le
  have floor := sound.exact.floor_le
  dsimp only [view] at counted inside floor
  have missed : (s.eventMissed + s.bus.missedSince s.eventCursor).toNat =
      s.eventMissed.toNat + (s.bus.floor - s.eventCursor.toNat) := by
    rw [UInt64.toNat_add, behind, Nat.mod_eq_of_lt]
    have ends := sound.ends
    omega
  simp only [view, published, LossyReader.take, LossyReader.wanted, sequences, List.map_append,
    List.map_cons, List.map_nil, own, place, missed]

theorem sound_published (s : MqttService capacity) (sound : Sound s) (positive : 0 < capacity)
    (candidateCursor : UInt64) (event : EventRecord)
    (more : max s.bus.floor s.eventCursor.toNat < s.bus.latestSequence.toNat)
    (place : candidateCursor.toNat = max s.bus.floor s.eventCursor.toNat + 1)
    (own : event.sequence = candidateCursor) : Sound (s.published candidateCursor event) := by
  refine ⟨sound.numbered, sound.ends, ?_, ?_⟩
  · rw [view_published s sound positive candidateCursor event place own]
    exact LossyReader.exact_take s.view sound.exact more
  · simp only [published, sound.turns, List.length_append, List.length_singleton]
    rw [UInt32.ofNat_add]
    rfl

/-- The next event is there or not, as the reader sees it. -/
theorem next_cases (s : MqttService capacity) (sound : Sound s) :
    s.bus.next s.eventCursor = none ∨
    ∃ candidateCursor event, s.bus.next s.eventCursor = some (candidateCursor, event) ∧
      max s.bus.floor s.eventCursor.toNat < s.bus.latestSequence.toNat ∧
      candidateCursor.toNat = max s.bus.floor s.eventCursor.toNat + 1 ∧
      event.sequence = candidateCursor := by
  have within := sound.exact.cursor_le
  by_cases more : max s.bus.floor s.eventCursor.toNat < s.bus.latestSequence.toNat
  · obtain ⟨target, event, found, place, own⟩ :=
      EventBus.next_held s.bus sound.numbered s.eventCursor within sound.ends more
    exact Or.inr ⟨target, event, found, more, place, own⟩
  · exact Or.inl (EventBus.next_none s.bus sound.numbered s.eventCursor within sound.ends
      (by omega))

/-- The loop keeps the accounts, and it stays within the 32-bit count exactly if it has room. -/
theorem publishTurns_sound (positive : 0 < capacity) (turns : Nat) (outcomes : List Bool)
    (s : MqttService capacity) (sound : Sound s) :
    Sound (publishTurns turns outcomes s) ∧
    s.log.length ≤ (publishTurns turns outcomes s).log.length ∧
    (s.log.length < 2 ^ 32 →
      (RoomInTurns turns outcomes s ↔ (publishTurns turns outcomes s).log.length < 2 ^ 32)) := by
  induction turns generalizing outcomes s with
  | zero => exact ⟨sound, le_rfl, fun few => iff_of_true trivial few⟩
  | succ turns ih =>
    rcases next_cases s sound with none | ⟨candidateCursor, event, found, more, place, own⟩
    · rw [publishTurns, none]
      refine ⟨sound, le_rfl, fun few => iff_of_true ?_ few⟩
      intro candidateCursor event found
      rw [none] at found
      cases found
    · rw [publishTurns, found]
      dsimp only
      cases outcome : (draw outcomes).1 with
      | false =>
        refine ⟨sound, le_rfl, fun few => iff_of_true ?_ few⟩
        intro _ _ _ succeeded
        rw [outcome] at succeeded
        cases succeeded
      | true =>
        have next := sound_published s sound positive candidateCursor event more place own
        obtain ⟨kept, grown, room⟩ := ih (draw outcomes).2 (s.published candidateCursor event) next
        have one : (s.published candidateCursor event).log.length = s.log.length + 1 := by
          simp [published]
        rw [one] at grown room
        simp only [Bool.not_true, Bool.false_eq_true, if_false]
        refine ⟨kept, by omega, fun few => ?_⟩
        have turned : s.eventPublishes.toNat = s.log.length := by
          rw [sound.turns, UInt32.toNat_ofNat', Nat.mod_eq_of_lt few]
        rw [RoomInTurns]
        simp only [found, Option.some.injEq, Prod.mk.injEq, outcome, true_imp_iff, turned]
        constructor
        · intro rooms
          obtain ⟨fits, rest⟩ := rooms candidateCursor event ⟨rfl, rfl⟩
          exact (room fits).mp rest
        · rintro within _ _ ⟨rfl, rfl⟩
          have fits : s.log.length + 1 < 2 ^ 32 := by omega
          exact ⟨fits, (room fits).mpr within⟩

theorem overwritten_eq (bus : EventBus capacity) (numbered : bus.Numbered)
    (positive : 0 < capacity) :
    overwritten bus = if bus.count < capacity then none else some (bus.floor + 1) := by
  have count := numbered.count
  unfold overwritten
  split
  · rfl
  · rename_i full
    have whole : bus.latestSequence.toNat = bus.floor + capacity := by
      unfold EventBus.floor
      omega
    have slot : bus.latestSequence.toNat % capacity = EventBus.slotOf capacity (bus.floor + 1) := by
      rw [EventBus.slotOf, Nat.add_sub_cancel, whole, Nat.add_mod_right]
    rw [slot, numbered.held (bus.floor + 1) (Nat.lt_succ_self _) (by omega)]

theorem sound_emitEvent (source type : Bytes) (severity : EventSeverity) (timestampUnix : UInt32)
    (detail : Bytes) (s : MqttService capacity) (sound : Sound s) (positive : 0 < capacity)
    (numberable : s.bus.latestSequence.toNat + 2 < 2 ^ 64) :
    Sound (s.emitEvent source type severity timestampUnix detail) := by
  rcases EventBus.emit_cases source type severity timestampUnix detail s.bus with
    refused | ⟨record, numbering, emitted⟩
  · simp only [emitEvent, refused, Bool.not_false, if_true]
    exact sound
  · simp only [emitEvent, emitted, Bool.not_true, Bool.false_eq_true, if_false]
    have more : s.bus.latestSequence.toNat + 1 < 2 ^ 64 := sound.ends
    have latest := EventBus.push_latest s.bus more record
    have count := EventBus.push_count s.bus sound.numbered record
    have before := sound.numbered.count
    have numbered := EventBus.numbered_push s.bus sound.numbered more record numbering
    refine ⟨numbered, by rw [latest]; exact numberable, ?_, sound.turns⟩
    have floor : (s.bus.push record).floor =
        if s.bus.count < capacity then s.bus.floor else s.bus.floor + 1 := by
      unfold EventBus.floor
      rw [latest, count]
      split <;> omega
    have lost : (overwritten s.bus).toFinset.filter (fun sequence =>
        s.eventCursor.toNat < sequence) =
          Finset.Ioc (max s.bus.floor s.eventCursor.toNat) (s.bus.push record).floor := by
      rw [overwritten_eq s.bus sound.numbered positive, floor]
      ext sequence
      split
      · simp
      · simp only [Option.toFinset_some, Finset.mem_filter, Finset.mem_singleton, Finset.mem_Ioc]
        omega
    have view : ({ s with
          bus := s.bus.push record
          lost := s.lost ∪ (overwritten s.bus).toFinset.filter (fun sequence =>
            s.eventCursor.toNat < sequence) } : MqttService capacity).view =
        s.view.append (s.bus.push record).floor := by
      rw [lost]
      simp only [MqttService.view, LossyReader.append, latest, sequences]
    have bound := sound.exact.floor_le
    dsimp only [MqttService.view] at bound
    rw [view]
    refine LossyReader.exact_append s.view sound.exact _ ?_ ?_
    · dsimp only [MqttService.view]
      rw [floor]
      split <;> omega
    · dsimp only [MqttService.view]
      unfold EventBus.floor
      rw [latest]
      omega

/-- Over every run in which the numbering does not come to its end, every number up to the cursor
is accounted for at every moment if and only if no event is published while the count of
published events is at its last value. -/
theorem events_accounted_iff (positive : 0 < capacity) (steps : List EventStep)
    (numberable : Always step (@Numberable capacity) {} steps) :
    Always step (fun s x => Accounted (step s x)) ({} : MqttService capacity) steps ↔
      Always step RoomToPublish ({} : MqttService capacity) steps := by
  have next (s : MqttService capacity) (x : EventStep) (holds : Sound s ∧ s.log.length < 2 ^ 32)
      (among : Numberable s x) :
      Sound (step s x) ∧ ((step s x).log.length < 2 ^ 32 ↔ RoomToPublish s x) := by
    obtain ⟨sound, few⟩ := holds
    cases x with
    | emit source type severity timestampUnix detail =>
      refine ⟨sound_emitEvent _ _ _ _ _ s sound positive among, iff_of_true ?_ trivial⟩
      have same : (s.emitEvent source type severity timestampUnix detail).log = s.log := by
        simp only [emitEvent]
        split <;> rfl
      rw [step, same]
      exact few
    | publish connected outcomes =>
      simp only [step, publishPendingEvents, RoomToPublish]
      cases connected with
      | false => exact ⟨sound, iff_of_true few (fun impossible => by cases impossible)⟩
      | true =>
        obtain ⟨kept, -, room⟩ := publishTurns_sound positive kMaxEventsPerLoop outcomes s sound
        simp only [Bool.not_true, Bool.false_eq_true, if_false, true_imp_iff]
        exact ⟨kept, (room few).symm⟩
  refine always_iff_along step (fun s => Sound s ∧ s.log.length < 2 ^ 32) Numberable _ _ ?_ ?_ _
    steps ⟨sound_start, (by decide : 0 < 2 ^ 32)⟩ numberable
  · intro s x holds among
    obtain ⟨sound, room⟩ := next s x holds among
    rw [accounted_iff _ sound, room]
  · intro s x holds among accounted
    obtain ⟨sound, -⟩ := next s x holds among
    exact ⟨sound, (accounted_iff _ sound).mp accounted⟩

def bootEvent : EventStep := .emit [0x61] [0x62] .info 0 []

theorem events_accounted_boot :
    Always step (fun s x => Accounted (step s x)) ({} : MqttService 32)
        [bootEvent, bootEvent, bootEvent, .publish true []] ↔
      Always step RoomToPublish ({} : MqttService 32)
        [bootEvent, bootEvent, bootEvent, .publish true []] :=
  events_accounted_iff (by decide) _ (by
    refine (always_cons _ _ _ _ _).mpr ⟨?_, (always_cons _ _ _ _ _).mpr ⟨?_,
      (always_cons _ _ _ _ _).mpr ⟨?_, (always_cons _ _ _ _ _).mpr ⟨trivial, always_nil _ _ _⟩⟩⟩⟩
    all_goals
      unfold Numberable bootEvent
      decide +kernel)

def rounds : Nat → List EventStep
  | 0 => []
  | n + 1 => rounds n ++ [bootEvent, .publish true [true]]

theorem round_published (s : MqttService 32) (sound : Sound s) (n : Nat) (small : n < 2 ^ 33)
    (latest : s.bus.latestSequence.toNat = n) (cursor : s.eventCursor.toNat = n) :
    let after := step (step s bootEvent) (.publish true [true])
    Sound after ∧ after.bus.latestSequence.toNat = n + 1 ∧ after.eventCursor.toNat = n + 1 ∧
      after.log.length = s.log.length + 1 := by
  intro after
  have kept := sound_emitEvent [0x61] [0x62] .info 0 [] s sound (by decide) (by omega)
  have accepted : (s.bus.emit [0x61] [0x62] .info 0 []).2 = true := rfl
  rcases EventBus.emit_cases [0x61] [0x62] .info 0 [] s.bus with refused | ⟨record, -, emitted⟩
  · rw [refused] at accepted
    cases accepted
  · have more := sound.ends
    have newest := EventBus.push_latest s.bus more record
    let full := s.emitEvent [0x61] [0x62] .info 0 []
    have bus : full.bus = s.bus.push record := by
      simp only [full, emitEvent, emitted, Bool.not_true, Bool.false_eq_true, if_false]
    have same : full.eventCursor = s.eventCursor ∧ full.log = s.log := by
      simp only [full, emitEvent, emitted, Bool.not_true, Bool.false_eq_true, if_false, and_self]
    have number : full.bus.latestSequence.toNat = n + 1 := by rw [bus, newest, latest]
    have behind : full.eventCursor.toNat = n := by rw [same.1, cursor]
    have floor : full.bus.floor ≤ n := by
      have count := kept.numbered.count
      change full.bus.count = min full.bus.latestSequence.toNat 32 at count
      unfold EventBus.floor
      omega
    rcases next_cases full kept with none | ⟨candidateCursor, event, found, reach, place, own⟩
    · have there := EventBus.next_held full.bus kept.numbered full.eventCursor
        kept.exact.cursor_le kept.ends (by omega)
      obtain ⟨_, _, found, -⟩ := there
      rw [none] at found
      cases found
    · have sent := sound_published full kept (by decide) candidateCursor event reach place own
      have last : (full.published candidateCursor event).bus.next
          (full.published candidateCursor event).eventCursor = none := by
        refine EventBus.next_none _ sent.numbered _ sent.exact.cursor_le sent.ends ?_
        change full.bus.latestSequence.toNat ≤ max full.bus.floor candidateCursor.toNat
        omega
      have done : after = full.published candidateCursor event := by
        change publishTurns 4 [true] full = _
        rw [publishTurns, found]
        change publishTurns 3 [] (full.published candidateCursor event) = _
        rw [publishTurns, last]
      rw [done]
      refine ⟨sent, number, ?_, ?_⟩
      · change candidateCursor.toNat = n + 1
        omega
      · change (full.log ++ [event]).length = s.log.length + 1
        rw [same.2, List.length_append, List.length_singleton]

theorem rounds_published (n : Nat) (small : n < 2 ^ 33) :
    let after := run step ({} : MqttService 32) (rounds n)
    Sound after ∧ after.bus.latestSequence.toNat = n ∧ after.eventCursor.toNat = n ∧
      after.log.length = n := by
  induction n with
  | zero => exact ⟨sound_start, rfl, rfl, rfl⟩
  | succ n ih =>
    obtain ⟨sound, latest, cursor, published⟩ := ih (by omega)
    rw [rounds, run_append]
    obtain ⟨sound', latest', cursor', published'⟩ :=
      round_published _ sound n (by omega) latest cursor
    exact ⟨sound', latest', cursor', published'.trans (by rw [published])⟩

theorem rounds_accounted (n : Nat) (small : n + 1 < 2 ^ 33)
    (accounted : Always step (fun s x => Accounted (step s x)) ({} : MqttService 32)
      (rounds (n + 1))) : n + 1 < 2 ^ 32 := by
  obtain ⟨sound, -, -, published⟩ := rounds_published (n + 1) small
  rw [rounds, always_append] at accounted
  have last := ((always_cons _ _ _ _ _).mp ((always_cons _ _ _ _ _).mp accounted.2).2).1
  rw [← published]
  refine (accounted_iff _ sound).mp ?_
  rw [rounds, run_append]
  exact last

/-- After 2^32 events that were published one by one, the count of published events is zero. -/
theorem published_count_turns_over :
    ¬ ∀ steps : List EventStep,
      Always step (fun s x => Accounted (step s x)) ({} : MqttService 32) steps := by
  intro accounted
  exact absurd (rounds_accounted (2 ^ 32 - 1) (by decide) (accounted (rounds (2 ^ 32 - 1 + 1))))
    (by decide)

end MqttService

end Events
