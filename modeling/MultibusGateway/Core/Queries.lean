import MultibusGateway.Core.Interleaving
import MultibusGateway.Library.Replay

/-! The history query, over any run. The packets of an accepted query carry its records in
their order and each once, as long as no query that is accepted during a packet stays open. -/

namespace Application
open ByteString Modbus Lorawan Reentrancy Execution Replay

/-- The records that the open query still has to send; `none` when no query is open. A packet
of an open query carries the first of them, and the query ends by itself without any left. -/
def openQuery : Machine (Option (List History.HistoricalRecord)) QueryEvent where
  start := none
  next
    | _, .accepted records => some (some records)
    | _, .closed => some none
    | none, .sent _ => some none
    | some remaining, .sent records =>
      if records = remaining.take records.length then some (some (remaining.drop records.length))
      else none
    | none, .finished => some none
    | some remaining, .finished => if remaining = [] then some none else none

namespace HistoryQuery

/-- The records at the cursor and behind it are those that the open query has left. -/
def Sound (query : HistoryQuery) : Prop :=
  ∃ opened, openQuery.replay query.log = some opened ∧
    ∀ remaining, opened = some remaining → query.records.drop query.cursor = remaining

/-- The events of commands: queries are accepted and closed. The last event says what the
query sends; without one it is as before. -/
structure Handles (a : HistoryQuery) (events : List QueryEvent) (b : HistoryQuery) : Prop where
  log : b.log = a.log ++ events
  kinds : ∀ event ∈ events, event = .closed ∨ ∃ records, event = .accepted records
  untouched : events = [] → b.records = a.records ∧ b.cursor = a.cursor
  opened : ∀ before records, events = before ++ [.accepted records] →
    b.records = records ∧ b.cursor = 0

theorem Handles.nothing (a b : HistoryQuery) (log : b.log = a.log) (records : b.records = a.records)
    (cursor : b.cursor = a.cursor) : Handles a [] b where
  log := by simp [log]
  kinds := by simp
  untouched _ := ⟨records, cursor⟩
  opened before found same := by
    have lengths := congrArg List.length same
    simp at lengths

theorem Handles.trans {a b c : HistoryQuery} {first second : List QueryEvent}
    (before : Handles a first b) (after : Handles b second c) : Handles a (first ++ second) c where
  log := by rw [after.log, before.log, List.append_assoc]
  kinds event member := by
    obtain early | late := List.mem_append.mp member
    · exact before.kinds event early
    · exact after.kinds event late
  untouched none := by
    obtain ⟨rfl, rfl⟩ := List.append_eq_nil_iff.mp none
    obtain ⟨records, cursor⟩ := after.untouched rfl
    obtain ⟨records', cursor'⟩ := before.untouched rfl
    exact ⟨records.trans records', cursor.trans cursor'⟩
  opened init records same := by
    obtain rfl | ⟨middle, last, rfl⟩ := List.eq_nil_or_concat' second
    · obtain ⟨records', cursor'⟩ := after.untouched rfl
      rw [List.append_nil] at same
      rw [records', cursor']
      exact before.opened init records same
    · rw [← List.append_assoc] at same
      obtain ⟨-, lasts⟩ := List.append_inj' same rfl
      exact after.opened middle records (by rw [lasts])

theorem Handles.close (a b : HistoryQuery) (log : b.log = a.log ++ [.closed]) :
    Handles a [.closed] b where
  log := log
  kinds event member := .inl (List.mem_singleton.mp member)
  untouched none := by simp at none
  opened init records same := by
    rw [← List.nil_append [_]] at same
    obtain ⟨-, lasts⟩ := List.append_inj' same rfl
    simp at lasts

theorem Handles.accept (a : HistoryQuery) (cursor : a.cursor = 0) :
    Handles a [.accepted a.records] a.noteAccepted where
  log := rfl
  kinds event member := .inr ⟨_, List.mem_singleton.mp member⟩
  untouched none := by simp at none
  opened init records same := by
    rw [← List.nil_append [_]] at same
    obtain ⟨-, lasts⟩ := List.append_inj' same rfl
    simp only [List.cons.injEq, QueryEvent.accepted.injEq, and_true] at lasts
    exact ⟨lasts, cursor⟩

/-- Commands are always allowed. What is open after them was open before all of them, or is
the query of the last one. -/
theorem Handles.replayed {a b : HistoryQuery} {events : List QueryEvent}
    (handles : Handles a events b) (opened : Option (List History.HistoricalRecord)) :
    ∃ later, events.foldlM openQuery.next opened = some later ∧
      ∀ remaining, later = some remaining →
        (events = [] ∧ opened = some remaining) ∨
          ∃ before, events = before ++ [.accepted remaining] := by
  have allowed (events : List QueryEvent)
      (kinds : ∀ event ∈ events, event = .closed ∨ ∃ records, event = .accepted records)
      (opened : Option (List History.HistoricalRecord)) :
      ∃ later, events.foldlM openQuery.next opened = some later := by
    induction events generalizing opened with
    | nil => exact ⟨opened, rfl⟩
    | cons event rest ih =>
      have others := ih fun other member => kinds other (List.mem_cons_of_mem _ member)
      obtain rfl | ⟨records, rfl⟩ := kinds event List.mem_cons_self
      · exact others none
      · exact others (some records)
  obtain rfl | ⟨before, last, rfl⟩ := List.eq_nil_or_concat' events
  · exact ⟨opened, rfl, fun remaining same => .inl ⟨rfl, same⟩⟩
  · obtain ⟨middle, reached⟩ := allowed before
      (fun event member => handles.kinds event (List.mem_append_left _ member)) opened
    have final : (before ++ [last]).foldlM openQuery.next opened =
        openQuery.next middle last := by
      rw [List.foldlM_append, reached]
      simp
    obtain rfl | ⟨records, rfl⟩ := handles.kinds last (by simp)
    · exact ⟨none, final, by simp⟩
    · refine ⟨some records, final, fun remaining same => .inr ⟨before, ?_⟩⟩
      rw [Option.some.inj same]

theorem Handles.sound {a b : HistoryQuery} {events : List QueryEvent}
    (handles : Handles a events b) (sound : Sound a) : Sound b := by
  obtain ⟨opened, replayed, agrees⟩ := sound
  obtain ⟨later, reached, left⟩ := handles.replayed opened
  refine ⟨later, ?_, ?_⟩
  · rw [handles.log, openQuery.replay_append _ _ _ replayed, reached]
  · intro remaining same
    obtain ⟨none, before⟩ | ⟨before, last⟩ := left remaining same
    · obtain ⟨records, cursor⟩ := handles.untouched none
      rw [records, cursor]
      exact agrees remaining before
    · obtain ⟨records, cursor⟩ := handles.opened before remaining last
      rw [records, cursor, List.drop_zero]

theorem sound_advance {a b : HistoryQuery} (sound : Sound a) {events : List QueryEvent}
    (handles : Handles (a.noteSent (packetRecords a.cursor a.records)) events b)
    (settled : ∀ before records, events ≠ before ++ [.accepted records]) :
    Sound (b.advance (packetRecords a.cursor a.records).length) := by
  obtain ⟨opened, replayed, agrees⟩ := sound
  let packet := packetRecords a.cursor a.records
  have sent : openQuery.replay (a.noteSent packet).log =
      some (opened.map fun remaining => remaining.drop packet.length) := by
    rw [noteSent, openQuery.replay_snoc a.log (.sent packet) opened replayed]
    cases opened with
    | none => rfl
    | some remaining =>
      refine if_pos ?_
      rw [← agrees remaining rfl]
      simp [packet, packetRecords, List.take_eq_take_iff]
  obtain ⟨later, reached, left⟩ :=
    handles.replayed (opened.map fun remaining => remaining.drop packet.length)
  have log : openQuery.replay b.log = some later := by
    rw [handles.log, openQuery.replay_append _ _ _ sent, reached]
  have rest : ∀ remaining, later = some remaining →
      b.records.drop (b.cursor + packet.length) = remaining := by
    intro remaining same
    obtain ⟨none, before⟩ | ⟨before, last⟩ := left remaining same
    · obtain ⟨records, cursor⟩ := handles.untouched none
      obtain ⟨whole, open', rfl⟩ := Option.map_eq_some_iff.mp before
      rw [records, cursor, ← agrees whole open', List.drop_drop]
      rfl
    · exact absurd last (settled before remaining)
  unfold advance
  simp only
  split
  · rename_i behind
    refine ⟨none, ?_, by simp⟩
    rw [openQuery.replay_snoc b.log .finished later log]
    cases later with
    | none => rfl
    | some remaining =>
      refine if_pos ?_
      rw [← rest remaining rfl]
      exact List.drop_eq_nil_of_le behind
  · exact ⟨later, log, rest⟩

end HistoryQuery

def OnlyHandles (a b : State) : Prop := ∃ events, HistoryQuery.Handles a.query events b.query

theorem onlyHandles_of_same (a b : State) (same : b.query = a.query) : OnlyHandles a b :=
  ⟨[], .nothing _ _ (by rw [same]) (by rw [same]) (by rw [same])⟩

theorem onlyHandles_of_fields (a b : State) (log : b.query.log = a.query.log)
    (records : b.query.records = a.query.records) (cursor : b.query.cursor = a.query.cursor) :
    OnlyHandles a b := ⟨[], .nothing _ _ log records cursor⟩

theorem onlyHandles_exchanges : KeptByExchanges OnlyHandles where
  refl a := onlyHandles_of_same a a rfl
  trans _ _ _ := fun ⟨_, first⟩ ⟨_, second⟩ => ⟨_, first.trans second⟩
  exchange _ _ a := onlyHandles_of_same a _ rfl

theorem applyHistoryQueryCommand_handles (deliver : Deliver State)
    (respects : Respects OnlyHandles deliver) (command : HistoryQueryCommand) (a : State) :
    OnlyHandles a (applyHistoryQueryCommand deliver command a).1 := by
  have trans := onlyHandles_exchanges.trans
  have rejected (b : State) (queryType status : UInt8) :
      OnlyHandles b (sendHistoryQueryReply deliver id queryType status b).1 :=
    sendHistoryQueryReply_respects onlyHandles_exchanges deliver respects id
      (fun c => onlyHandles_of_same c c rfl) queryType status b
  simp only [applyHistoryQueryCommand]
  split
  · exact ⟨_, .close _ _ rfl⟩
  · split
    · have closed : OnlyHandles a { a with query := a.query.deactivate } := ⟨_, .close _ _ rfl⟩
      exact trans _ _ _ closed (rejected _ _ _)
    · let records := selectRecords command a.scheduler.settings.seconds a.history.ring
      let selected : State := { a with query := a.query.select records }
      have closed : OnlyHandles a selected := ⟨_, .close _ _ rfl⟩
      split
      · have dropped : OnlyHandles selected
            { selected with query := { selected.query with active := false } } :=
          onlyHandles_of_fields _ _ rfl rfl rfl
        exact trans _ _ _ (trans _ _ _ closed dropped) (rejected _ _ _)
      · have answered := sendHistoryQueryReply_cases deliver
          (fun app => { app with query := app.query.noteAccepted })
          (queryReplyType command.kind) 0x00 selected
        obtain ⟨us, radio, unsent | ⟨b, delivered, sent⟩⟩ := answered
        · simp only [selected, records] at unsent
          simp only [unsent, Bool.not_false, if_true]
          exact ⟨_, .close _ _ rfl⟩
        · simp only [selected, records] at sent
          simp only [sent, Bool.not_true, Bool.false_eq_true, if_false]
          have accepted : OnlyHandles (withExchange us radio selected)
              { withExchange us radio selected with
                query := (withExchange us radio selected).query.noteAccepted } :=
            ⟨_, .accept _ rfl⟩
          have handled := delivered_respects onlyHandles_exchanges deliver respects _ b delivered
          have started := trans _ _ _ (onlyHandles_exchanges.exchange us radio selected) accepted
          exact trans _ _ _ (trans _ _ _ (trans _ _ _ closed started) handled)
            (onlyHandles_of_fields b _ rfl rfl rfl)

theorem onlyHandles_kept : KeptByDownlinks OnlyHandles where
  toKeptByExchanges := onlyHandles_exchanges
  command deliver respects a command := by
    cases command with
    | historyQuery command => exact applyHistoryQueryCommand_handles deliver respects command a
    | rs485SettingsEnquiry kind =>
      exact replyToRs485SettingsEnquiry_respects onlyHandles_exchanges deliver respects kind a
    | basicControl control => cases control <;> exact onlyHandles_of_same a _ rfl
    | _ => exact onlyHandles_of_same a _ rfl
  serverMessage a _ := onlyHandles_of_same a _ rfl
  rawRequest a _ := onlyHandles_of_same a _ rfl

/-- Only the sending of a packet does more than handling commands. -/
theorem step_handles (depth : Nat) (a : State) (c : Call) (other : c ≠ .historyQuery) :
    OnlyHandles a (step depth a c) := by
  by_cases reply : c = .ruleReply
  · subst reply
    exact processRuleReply_respects onlyHandles_exchanges _
      (deliverNested_respects onlyHandles_kept depth) (fun b _ => onlyHandles_of_same b _ rfl) a
  · exact step_respects_of_blind onlyHandles_kept
      (fun a b _ same => onlyHandles_of_same a b same) depth a c reply other

/-- Every query that is accepted while a packet of a query is being sent is stopped, or
replaced by another one, before that sending is over. -/
def NoQueryLeftOpenDuringPacket (depth : Nat) (a : State) (c : Call) : Prop :=
  c = .historyQuery → ∀ before records after,
    (step depth a c).query.log.drop a.query.log.length =
      before ++ .accepted records :: after → .closed ∈ after

theorem HistoryQuery.advance_log (query : HistoryQuery) (count : Nat) :
    ∃ finished, (query.advance count).log = query.log ++ finished ∧ .closed ∉ finished := by
  unfold HistoryQuery.advance
  simp only
  split
  · exact ⟨[.finished], rfl, by simp⟩
  · exact ⟨[], by simp, by simp⟩

theorem processHistoryQuery_sound (depth : Nat) (a : State) (sound : a.query.Sound)
    (condition : NoQueryLeftOpenDuringPacket depth a .historyQuery) :
    (step depth a .historyQuery).query.Sound := by
  have respects := deliverNested_respects onlyHandles_kept depth
  have settled := condition rfl
  simp only [step, call, processHistoryQuery] at settled ⊢
  by_cases quiet : (!a.query.active || !a.radio.connected) = true
  · simp only [quiet, if_true]
    exact sound
  by_cases early : (!WrapClock.reached a.clock.millis a.query.nextAtMs) = true
  · simp only [quiet, early, if_true]
    exact sound
  simp only [quiet, early, if_false, Bool.false_eq_true] at settled ⊢
  split
  · rename_i empty
    obtain ⟨opened, replayed, agrees⟩ := sound
    refine ⟨none, ?_, by simp⟩
    rw [openQuery.replay_snoc a.query.log .finished opened replayed]
    cases opened with
    | none => rfl
    | some remaining =>
      refine if_pos ?_
      rw [← agrees remaining rfl]
      have none := List.eq_nil_of_length_eq_zero empty
      rw [packetRecords, List.take_eq_nil_iff] at none
      exact none.resolve_left (by decide)
  · rename_i some
    simp only [some, if_false] at settled
    let later := a.query.waitUntil
      (a.clock.millis + a.history.settings.retrievabilityIntervalSeconds.toUInt32 * 1000)
    have waiting : later.Sound := sound
    obtain ⟨us, radio, unsent | ⟨b, delivered, sent⟩⟩ := send_cases (deliverNested depth)
      (fun app => { app with
        query := app.query.noteSent (packetRecords a.query.cursor a.query.records) })
      kCompatibilityFPort (packetPayload (packetRecords a.query.cursor a.query.records))
      { a with query := later }
    · simp only [later] at unsent
      simp only [unsent, Bool.false_eq_true, if_false]
      exact waiting
    · simp only [later] at sent
      simp only [sent, if_true] at settled ⊢
      obtain ⟨events, handles⟩ := delivered_respects onlyHandles_exchanges _ respects _ b delivered
      refine HistoryQuery.sound_advance (a := later) waiting handles fun before records last => ?_
      obtain ⟨finished, ended, unclosed⟩ := HistoryQuery.advance_log b.query
        (packetRecords a.query.cursor a.query.records).length
      refine unclosed (settled
        (.sent (packetRecords a.query.cursor a.query.records) :: before) records finished ?_)
      rw [ended, handles.log, last]
      simp [HistoryQuery.noteSent, withExchange, later, HistoryQuery.waitUntil]

theorem step_query_sound (depth : Nat) (a : State) (c : Call) (sound : a.query.Sound)
    (condition : NoQueryLeftOpenDuringPacket depth a c) : (step depth a c).query.Sound := by
  by_cases packet : c = .historyQuery
  · subst packet
    exact processHistoryQuery_sound depth a sound condition
  · obtain ⟨events, handles⟩ := step_handles depth a c packet
    exact handles.sound sound

/-- In every run where no query accepted during a packet is left open, the packets of a query
carry its records in order, and it ends by itself only after all of them; what it has left
is what stands at the cursor. -/
theorem queries_delivered_in_order (depth : Nat) (start : State) (calls : List Call)
    (fresh : start.query.log = [])
    (condition : Always (step depth) (NoQueryLeftOpenDuringPacket depth) start calls) :
    let after := (run (step depth) start calls).query
    ∃ opened, openQuery.replay after.log = some opened ∧
      ∀ remaining, opened = some remaining → after.records.drop after.cursor = remaining := by
  have begins : start.query.Sound := by
    refine ⟨none, ?_, by simp⟩
    rw [fresh]
    rfl
  exact invariant_run (step depth) (fun a => a.query.Sound) _
    (fun a c => step_query_sound depth a c) start calls begins condition

def recordAt (timestamp : UInt32) : History.HistoricalRecord :=
  History.HistoricalRecord.readAt ([0x21, 0xce] ++ writeU32 timestamp) 0

def queryOfAll : Downlink :=
  ⟨kCompatibilityFPort, [0xfd, 0x6c, 0, 0, 0, 0, 0xff, 0xff, 0xff, 0xff]⟩

/-- Three records are stored, and the network takes these exchanges. -/
def threeRecords (exchanges : List Exchange) : State :=
  { history := { ring := [1, 2, 3].foldl (fun ring time => ring.push (recordAt time)) default }
    radio := { exchanges := exchanges } }

def queryCalls : List Call :=
  [.downlink queryOfAll, .elapse 60000000, .historyQuery, .elapse 60000000, .historyQuery]

theorem queryCalls_settled :
    Always (step 1) (NoQueryLeftOpenDuringPacket 1) (threeRecords [{}, {}, {}]) queryCalls := by
  have unaccepted (log : List QueryEvent) (none : ∀ records, .accepted records ∉ log)
      (before : List QueryEvent) (records : List History.HistoricalRecord)
      (after : List QueryEvent) (same : log = before ++ .accepted records :: after) :
      .closed ∈ after :=
    absurd (by simp [same]) (none records)
  intro v member packet
  simp only [queryCalls, steps, List.mem_cons, List.not_mem_nil, or_false] at member
  obtain rfl | rfl | rfl | rfl | rfl := member
  · cases packet
  · cases packet
  · refine unaccepted _ fun records accepted => ?_
    obtain same | later := List.mem_cons.mp accepted
    · cases same
    · cases later
  · cases packet
  · refine unaccepted _ fun records accepted => ?_
    obtain same | later := List.mem_cons.mp accepted
    · cases same
    · obtain same | later := List.mem_cons.mp later
      · cases same
      · cases later

theorem queries_delivered_in_order_three :
    ∃ opened,
      openQuery.replay (run (step 1) (threeRecords [{}, {}, {}]) queryCalls).query.log =
        some opened := by
  obtain ⟨opened, same, -⟩ :=
    queries_delivered_in_order 1 (threeRecords [{}, {}, {}]) queryCalls rfl queryCalls_settled
  exact ⟨opened, same⟩

/-- The same query arrives again with the first packet, and its first two records are never
sent. -/
theorem nested_query_skips :
    openQuery.replay (run (step 1) (threeRecords [{}, { downlink := some queryOfAll }, {}, {}])
      queryCalls).query.log = none := by
  decide +kernel

end Application
