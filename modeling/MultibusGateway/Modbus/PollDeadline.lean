import MultibusGateway.Modbus.Bookkeeping

/-! The deadline of the next poll. It is set when a transaction ends, when a frame of others has
been seen and when the component is set up; channels come and go without it. -/

namespace Modbus
open ByteString Execution WrapClock ModbusRtuMaster

namespace ModbusComponent

/-! Which calls set the deadline, and how many milliseconds ahead. -/

def pollRawDelay (nowMs nowUs : UInt32) (c : ModbusComponent) : Option UInt16 :=
  if (c.rtuMaster.pollRaw nowMs nowUs kMaxFrameLength).result = .pending then none else some 0

def pollWriteDelay (nowMs : UInt32) (c : ModbusComponent) : Option UInt16 :=
  if (c.rtuMaster.pollWrite nowMs).result = .pending then none else some 0

def pollReadDelay (nowMs : UInt32) (c : ModbusComponent) : Option UInt16 :=
  match (c.rtuMaster.pollRead nowMs).result with
  | .pending => none
  | .idle => some c.masterSettings.executionIntervalMs
  | _ => c.pollChannel.2.map fun _ => c.masterSettings.executionIntervalMs

def startDelay (nowMs : UInt32) (c : ModbusComponent) : Option UInt16 :=
  if c.pendingRaw.queued then none
  else if c.masterSettings.passThroughMode = .twoWay then none
  else if c.pendingWrite.queued then
    let write := c.pendingWrite
    if (c.rtuMaster.startWrite nowMs write.channel write.registerIndex write.value).2 then none
    else some 0
  else if c.channels.isEmpty then none
  else if !WrapClock.reached nowMs c.nextPollAtMs then none
  else c.pollChannel.2.bind fun channel =>
    if (c.rtuMaster.startRead nowMs channel).2 then none
    else some c.masterSettings.executionIntervalMs

def loopDelay (nowMs nowUs : UInt32) (c : ModbusComponent) : Option UInt16 :=
  if c.mode ≠ .master || !c.active then none
  else if c.rtuMaster.transactionActive then
    match c.rtuMaster.transactionKind with
    | .raw => c.pollRawDelay nowMs nowUs
    | .write => c.pollWriteDelay nowMs
    | _ => c.pollReadDelay nowMs
  else
    let (rtuMaster, result, _) := c.rtuMaster.pollPassiveFrame nowUs kMaxFrameLength
    match result with
    | .frameReady => some 0
    | .overflow => some 0
    | .pending => none
    | .idle =>
      if rtuMaster.passiveCollector.pending then none
      else { c with rtuMaster := rtuMaster }.startDelay nowMs

def callDelay (c : ModbusComponent) : ComponentCall → Option UInt16
  | .begin _ => if c.mode = .master && (c.rtuMaster.begin c.serialConfig).2 then some 0 else none
  | .operation (.loop nowMs nowUs) => c.loopDelay nowMs nowUs
  | .operation (.applyRs485SerialSettings nowMs settings) =>
    if (c.applyRs485SerialSettings nowMs settings).2 then some 0 else none
  | .operation (.applyModbusMasterSettings nowMs settings) =>
    if (c.applyModbusMasterSettings nowMs settings).2 then some 0 else none
  | _ => none

def renewed (nowMs next : UInt32) : Option UInt16 → UInt32
  | none => next
  | some delay => nowMs + delay.toUInt32

theorem renewed_now (nowMs next : UInt32) : renewed nowMs next (some 0) = nowMs := by
  change nowMs + 0 = nowMs
  rw [UInt32.add_zero]

theorem pollRawTransaction_next (nowMs nowUs : UInt32) (c : ModbusComponent) :
    (c.pollRawTransaction nowMs nowUs).nextPollAtMs =
      renewed nowMs c.nextPollAtMs (c.pollRawDelay nowMs nowUs) := by
  unfold pollRawTransaction pollRawDelay
  dsimp only
  split
  · rfl
  · rw [renewed_now]

theorem pollWriteTransaction_next (nowMs : UInt32) (c : ModbusComponent) :
    (c.pollWriteTransaction nowMs).nextPollAtMs =
      renewed nowMs c.nextPollAtMs (c.pollWriteDelay nowMs) := by
  unfold pollWriteTransaction pollWriteDelay
  dsimp only
  split
  · rfl
  · rw [renewed_now]

theorem pollReadTransaction_next (nowMs : UInt32) (c : ModbusComponent) :
    (c.pollReadTransaction nowMs).nextPollAtMs =
      renewed nowMs c.nextPollAtMs (c.pollReadDelay nowMs) := by
  unfold pollReadTransaction pollReadDelay
  dsimp only
  cases (c.rtuMaster.pollRead nowMs).result with
  | pending => rfl
  | idle => rfl
  | success | failure =>
    have turn : ({ c with rtuMaster := (c.rtuMaster.pollRead nowMs).master } :
        ModbusComponent).pollChannel.2 = c.pollChannel.2 := rfl
    rw [← turn]
    dsimp only
    split
    · rename_i same
      rw [same]
      rfl
    · rename_i same
      rw [same]
      rfl

theorem startTransaction_next (nowMs : UInt32) (c : ModbusComponent) :
    (c.startTransaction nowMs).nextPollAtMs =
      renewed nowMs c.nextPollAtMs (c.startDelay nowMs) := by
  unfold startTransaction startDelay
  dsimp only
  cases c.pendingRaw.queued with
  | true =>
    simp only [if_true]
    split <;> rfl
  | false =>
    simp only [Bool.false_eq_true, if_false]
    split
    · rfl
    · cases c.pendingWrite.queued with
      | true =>
        simp only [if_true]
        split
        · rfl
        · rw [renewed_now]
      | false =>
        simp only [Bool.false_eq_true, if_false]
        split
        · rfl
        · split
          · rfl
          · have turn : c.pollChannel = (c.pollChannel.1, c.pollChannel.2) := rfl
            rw [turn]
            cases c.pollChannel.2 with
            | none => rfl
            | some channel =>
              have same : c.pollChannel.1.rtuMaster = c.rtuMaster := rfl
              simp only [Option.bind_some, same]
              split <;> rfl

theorem loop_next (nowMs nowUs : UInt32) (c : ModbusComponent) :
    (c.loop nowMs nowUs).nextPollAtMs =
      renewed nowMs c.nextPollAtMs (c.loopDelay nowMs nowUs) := by
  unfold loop loopDelay
  split
  · rfl
  · split
    · cases c.rtuMaster.transactionKind with
      | raw => exact pollRawTransaction_next nowMs nowUs c
      | write => exact pollWriteTransaction_next nowMs c
      | read => exact pollReadTransaction_next nowMs c
      | none => exact pollReadTransaction_next nowMs c
    · generalize c.rtuMaster.pollPassiveFrame nowUs kMaxFrameLength = polled
      obtain ⟨rtuMaster, result, frame⟩ := polled
      cases result with
      | idle =>
        dsimp only
        split
        · rfl
        · exact startTransaction_next nowMs { c with rtuMaster := rtuMaster }
      | pending => rfl
      | frameReady =>
        rw [renewed_now]
      | overflow =>
        rw [renewed_now]

theorem applySerialConfig_next (nowMs : UInt32) (config : RtuSerialConfig) (c : ModbusComponent) :
    (c.applySerialConfig nowMs config).1.nextPollAtMs =
      if (c.applySerialConfig nowMs config).2 then nowMs else c.nextPollAtMs := by
  obtain ⟨rtuMaster, -, refused | taken⟩ := applySerialConfig_cases nowMs config c
  · rw [refused, if_neg Bool.false_ne_true]
  · rw [taken, if_pos rfl]

theorem applyRs485SerialSettings_next (nowMs : UInt32) (settings : Rs485SerialSettings)
    (c : ModbusComponent) :
    (c.applyRs485SerialSettings nowMs settings).1.nextPollAtMs =
      if (c.applyRs485SerialSettings nowMs settings).2 then nowMs else c.nextPollAtMs := by
  obtain refused | ⟨config, -, ready, applied⟩ := applyRs485SerialSettings_cases nowMs settings c
  · rw [refused, if_neg Bool.false_ne_true]
  · have next := applySerialConfig_next nowMs config c
    rw [ready, if_pos rfl] at next
    rw [applied, if_pos rfl]
    exact next

theorem applyModbusMasterSettings_next (nowMs : UInt32) (settings : ModbusMasterSettings)
    (c : ModbusComponent) :
    (c.applyModbusMasterSettings nowMs settings).1.nextPollAtMs =
      if (c.applyModbusMasterSettings nowMs settings).2 then nowMs else c.nextPollAtMs := by
  obtain refused | ⟨config, -, -, ready, applied⟩ :=
    applyModbusMasterSettings_cases nowMs settings c
  · rw [refused, if_neg Bool.false_ne_true]
  · have next := applySerialConfig_next nowMs config c
    rw [ready, if_pos rfl] at next
    rw [applied, if_pos rfl]
    exact next

end ModbusComponent

def ComponentCall.at (uptimeUs : Nat) : ComponentCall → ComponentCall
  | .begin _ => .begin (stamp (uptimeUs / 1000))
  | .operation (.loop _ _) => .operation (.loop (stamp (uptimeUs / 1000)) (stamp uptimeUs))
  | .operation (.applyRs485SerialSettings _ settings) =>
    .operation (.applyRs485SerialSettings (stamp (uptimeUs / 1000)) settings)
  | .operation (.applyModbusMasterSettings _ settings) =>
    .operation (.applyModbusMasterSettings (stamp (uptimeUs / 1000)) settings)
  | x => x

namespace ModbusComponent

theorem setChannelName_next (slot : UInt8) (name : Bytes) (c : ModbusComponent) :
    (c.setChannelName slot name).1.nextPollAtMs = c.nextPollAtMs := by
  unfold setChannelName
  split <;> rfl

theorem upsertChannel_next (config : ChannelConfig) (c : ModbusComponent) :
    (c.upsertChannel config).1.nextPollAtMs = c.nextPollAtMs := by
  unfold upsertChannel cancelPendingTransaction
  split
  · rfl
  · dsimp only
    split <;> rfl

theorem removeChannel_next (slot : UInt8) (c : ModbusComponent) :
    (c.removeChannel slot).1.nextPollAtMs = c.nextPollAtMs := by
  unfold removeChannel cancelPendingTransaction
  dsimp only
  split <;> split <;> rfl

theorem queueRawRequestInternal_next (payload : Bytes) (origin : RawRequestOrigin)
    (c : ModbusComponent) :
    (c.queueRawRequestInternal payload origin).1.nextPollAtMs = c.nextPollAtMs := by
  obtain refused | queued := queueRawRequestInternal_cases payload origin c
  · rw [refused]
  · rw [queued]

theorem writePoint_next (slot registerIndex : UInt8) (scalar : DecodedScalar)
    (c : ModbusComponent) :
    (c.writePoint slot registerIndex scalar).1.nextPollAtMs = c.nextPollAtMs := by
  obtain refused | ⟨channel, request, -, -, -, -, -, queued⟩ :=
    writePoint_cases slot registerIndex scalar c
  · rw [refused]
  · rw [queued]

theorem call_next (c : ModbusComponent) (uptimeUs : Nat) (x : ComponentCall) :
    (c.call (x.at uptimeUs)).nextPollAtMs =
      renewed (stamp (uptimeUs / 1000)) c.nextPollAtMs (c.callDelay (x.at uptimeUs)) := by
  cases x with
  | setRtuSerialConfig config => rfl
  | begin nowMs =>
    unfold ComponentCall.at call callDelay ModbusComponent.begin
    dsimp only
    cases c.mode with
    | disabled => rfl
    | slave => rfl
    | master =>
      dsimp only
      cases (c.rtuMaster.begin c.serialConfig).2 with
      | false => rfl
      | true => exact (renewed_now _ _).symm
  | setChannelName slot name => exact setChannelName_next slot name c
  | operation operation =>
    cases operation with
    | loop nowMs nowUs => exact loop_next _ _ c
    | applyRs485SerialSettings nowMs settings =>
      unfold ComponentCall.at callDelay
      dsimp only
      refine (applyRs485SerialSettings_next _ settings c).trans ?_
      split
      · rw [renewed_now]
      · rfl
    | applyModbusMasterSettings nowMs settings =>
      unfold ComponentCall.at callDelay
      dsimp only
      refine (applyModbusMasterSettings_next _ settings c).trans ?_
      split
      · rw [renewed_now]
      · rfl
    | writePoint slot registerIndex scalar => exact writePoint_next slot registerIndex scalar c
    | bus port => rfl
    | upsertChannel config => exact upsertChannel_next config c
    | removeChannel slot => exact removeChannel_next slot c
    | queueRawRequest payload =>
      change (c.queueRawRequest payload).1.nextPollAtMs = c.nextPollAtMs
      unfold queueRawRequest
      split
      · rfl
      · exact queueRawRequestInternal_next payload .passThrough c
    | queueRuleRawRequest payload => exact queueRawRequestInternal_next payload .rule c
    | takeRawCompletion => rfl
    | takePassiveFrame => rfl
    | takeCompletedPoll => rfl

/-! The start of a poll. -/

def attemptRead (nowMs : UInt32) (c : ModbusComponent) : ModbusComponent :=
  match c.pollChannel with
  | (_, none) => c
  | (c, some channel) =>
    let (rtuMaster, sent) := c.rtuMaster.startRead nowMs channel
    let c := { c with rtuMaster := rtuMaster }
    if sent then c
    else { finishPollAttempt nowMs channel none c with
      nextPollAtMs := nowMs + c.masterSettings.executionIntervalMs.toUInt32 }

def listened (nowUs : UInt32) (c : ModbusComponent) : ModbusComponent :=
  { c with rtuMaster := (c.rtuMaster.pollPassiveFrame nowUs kMaxFrameLength).1 }

/-- The bus is idle, nothing else waits for it, and there is a channel to poll. -/
structure ReadyToPoll (nowUs : UInt32) (c : ModbusComponent) : Prop where
  master : c.mode = .master
  running : c.active = true
  idle : c.rtuMaster.transactionActive = false
  quiet : (c.rtuMaster.pollPassiveFrame nowUs kMaxFrameLength).2.1 = .idle
  collected : (c.listened nowUs).rtuMaster.passiveCollector.pending = false
  noRaw : c.pendingRaw.queued = false
  polling : c.masterSettings.passThroughMode ≠ .twoWay
  noWrite : c.pendingWrite.queued = false
  channels : c.channels ≠ []

theorem pollChannel_some (c : ModbusComponent) (channels : c.channels ≠ []) :
    ∃ channel, c.pollChannel.2 = some channel := by
  have positive : 0 < c.channels.length := List.length_pos_iff.mpr channels
  have inside : (if c.pollChannelIndex ≥ c.channels.length then 0 else c.pollChannelIndex) <
      c.channels.length := by
    split <;> omega
  exact ⟨_, List.getElem?_eq_getElem inside⟩

theorem ReadyToPoll.loop_eq {nowUs : UInt32} {c : ModbusComponent} (ready : ReadyToPoll nowUs c)
    (nowMs : UInt32) :
    c.loop nowMs nowUs =
      if reached nowMs c.nextPollAtMs then (c.listened nowUs).attemptRead nowMs
      else c.listened nowUs := by
  obtain ⟨master, running, idle, quiet, collected, noRaw, polling, noWrite, channels⟩ := ready
  unfold listened at collected ⊢
  unfold loop
  rw [if_neg (by simp [master, running]), if_neg (by simp [idle])]
  generalize c.rtuMaster.pollPassiveFrame nowUs kMaxFrameLength = polled at quiet collected ⊢
  obtain ⟨rtuMaster, result, frame⟩ := polled
  dsimp only at quiet collected ⊢
  subst quiet
  have filled : c.channels.isEmpty = false := by
    rw [Bool.eq_false_iff]
    exact fun empty => channels (List.isEmpty_iff.mp empty)
  dsimp only
  rw [collected, startTransaction]
  simp only [noRaw, polling, noWrite, filled, Bool.false_eq_true, if_false]
  cases reached nowMs c.nextPollAtMs with
  | true => rfl
  | false => rfl

theorem attemptRead_ne (nowMs : UInt32) (c : ModbusComponent) (channels : c.channels ≠ [])
    (idle : c.rtuMaster.transactionActive = false) : c.attemptRead nowMs ≠ c := by
  obtain ⟨channel, turn⟩ := pollChannel_some c channels
  have polled : c.pollChannel = (c.pollChannel.1, some channel) := Prod.ext rfl turn
  have begun := startRead_begun nowMs channel c.rtuMaster
  have same : c.pollChannel.1.rtuMaster = c.rtuMaster := rfl
  unfold attemptRead
  rw [polled]
  dsimp only
  rw [same]
  split
  · rename_i sent
    rw [if_pos sent] at begun
    obtain ⟨request, -, begun⟩ := begun
    intro unchanged
    have active := congrArg (fun c => c.rtuMaster.transactionActive) unchanged
    dsimp only at active
    rw [begun.active, idle] at active
    cases active
  · intro unchanged
    have retries := congrArg (fun c => c.pollRetryCount) unchanged
    have polls := congrArg (fun c => c.pollsCompleted) unchanged
    unfold finishPollAttempt at retries polls
    dsimp only at retries polls
    split at retries
    · have one := congrArg (fun count : UInt8 => count - c.pollRetryCount) retries
      dsimp only at one
      rw [UInt8.sub_self, show c.pollChannel.1.pollRetryCount = c.pollRetryCount from rfl,
        UInt8.add_comm, UInt8.add_sub_cancel] at one
      cases one
    · rename_i last
      rw [if_neg last] at polls
      unfold advancePollChannel publishPollCompletion at polls
      dsimp only at polls
      split at polls
      · exact absurd polls (Nat.succ_ne_self _)
      · exact absurd polls (Nat.succ_ne_self _)

end ModbusComponent

/-! Runs at true times. -/

structure TimedCall where
  uptimeUs : Nat
  call : ComponentCall

/-- The component, the uptime in milliseconds that its next poll has been set for, and the time
of the last call. -/
structure TimedComponent where
  component : ModbusComponent
  dueMs : Nat := 0
  uptimeUs : Nat := 0

namespace TimedComponent
open ModbusComponent

def step (w : TimedComponent) (x : TimedCall) : TimedComponent where
  component := w.component.call (x.call.at x.uptimeUs)
  dueMs :=
    match w.component.callDelay (x.call.at x.uptimeUs) with
    | none => w.dueMs
    | some delay => x.uptimeUs / 1000 + delay.toNat
  uptimeUs := x.uptimeUs

def LooksForPoll (w : TimedComponent) (x : TimedCall) : Prop :=
  (∃ nowMs nowUs, x.call = .operation (.loop nowMs nowUs)) ∧
    ReadyToPoll (stamp x.uptimeUs) w.component

/-- A read is attempted exactly from the uptime on that the poll was set for. -/
def PollsWhenDue (w : TimedComponent) (x : TimedCall) : Prop :=
  w.LooksForPoll x →
    ((w.step x).component =
        (w.component.listened (stamp x.uptimeUs)).attemptRead (stamp (x.uptimeUs / 1000)) ↔
      w.dueMs ≤ x.uptimeUs / 1000)

/-- The poll is not overdue into the second half of a period of the millisecond counter. -/
def NotLongOverdue (w : TimedComponent) (x : TimedCall) : Prop :=
  w.LooksForPoll x → ¬ (w.dueMs ≤ x.uptimeUs / 1000 ∧
    2 ^ 31 ≤ (x.uptimeUs / 1000 - w.dueMs) % 2 ^ 32)

/-- What the deadline shows is the uptime it was set for, at most the longest interval ahead. -/
structure Shows (w : TimedComponent) : Prop where
  next : w.component.nextPollAtMs = stamp w.dueMs
  near : w.dueMs ≤ w.uptimeUs / 1000 + 65535

theorem Shows.step {w : TimedComponent} (shows : Shows w) (x : TimedCall)
    (later : w.uptimeUs ≤ x.uptimeUs) : Shows (w.step x) := by
  have next := call_next w.component x.uptimeUs x.call
  have passed : w.uptimeUs / 1000 ≤ x.uptimeUs / 1000 := Nat.div_le_div_right later
  have near := shows.near
  unfold TimedComponent.step
  cases delayed : w.component.callDelay (x.call.at x.uptimeUs) with
  | none =>
    rw [delayed] at next
    refine ⟨next.trans shows.next, ?_⟩
    dsimp only
    omega
  | some delay =>
    rw [delayed] at next
    have short := delay.toNat_lt
    refine ⟨?_, ?_⟩
    · have ahead : delay.toUInt32 = UInt32.ofNat delay.toNat := by
        rw [← UInt32.toNat_inj, UInt16.toNat_toUInt32, UInt32.toNat_ofNat_of_lt' (by
          rw [UInt32.size]
          omega)]
      rw [next, renewed, stamp_add, ahead]
    · dsimp only
      omega

theorem Shows.pollsWhenDue_iff {w : TimedComponent} (shows : Shows w) (x : TimedCall)
    (later : w.uptimeUs ≤ x.uptimeUs) : w.PollsWhenDue x ↔ w.NotLongOverdue x := by
  unfold PollsWhenDue NotLongOverdue
  refine imp_congr_right fun looks => ?_
  obtain ⟨⟨nowMs, nowUs, loops⟩, ready⟩ := looks
  have passed : w.uptimeUs / 1000 ≤ x.uptimeUs / 1000 := Nat.div_le_div_right later
  have near := shows.near
  have stepped : (w.step x).component =
      w.component.loop (stamp (x.uptimeUs / 1000)) (stamp x.uptimeUs) := by
    rw [TimedComponent.step, loops]
    rfl
  have idle : (w.component.listened (stamp x.uptimeUs)).rtuMaster.transactionActive = false :=
    (pollPassiveFrame_transaction _ _ _).active.trans ready.idle
  have shown := attemptRead_ne (stamp (x.uptimeUs / 1000))
    (w.component.listened (stamp x.uptimeUs)) ready.channels idle
  have attempted : (w.step x).component =
      (w.component.listened (stamp x.uptimeUs)).attemptRead (stamp (x.uptimeUs / 1000)) ↔
      reached (stamp (x.uptimeUs / 1000)) (stamp w.dueMs) = true := by
    rw [stepped, ready.loop_eq, shows.next]
    cases reached (stamp (x.uptimeUs / 1000)) (stamp w.dueMs) with
    | true => simp
    | false => simpa using fun same => shown same.symm
  rw [attempted]
  exact reached_right_iff (x.uptimeUs / 1000) w.dueMs (by omega)

end TimedComponent

open TimedComponent

def TimedCall.InOrder (calls : List TimedCall) : Prop :=
  calls.Pairwise fun a b => a.uptimeUs ≤ b.uptimeUs

/-- Polls start when they are due in exactly the runs in which no poll becomes possible with its
deadline overdue into the second half of a period. -/
theorem polls_when_due_iff (calls : List TimedCall) (ordered : TimedCall.InOrder calls) :
    Always TimedComponent.step PollsWhenDue { component := ModbusComponent.idleMaster } calls ↔
      Always TimedComponent.step NotLongOverdue { component := ModbusComponent.idleMaster }
        calls :=
  always_iff_along TimedComponent.step Shows (fun w x => w.uptimeUs ≤ x.uptimeUs) PollsWhenDue
    NotLongOverdue (fun _ x shows later => shows.pollsWhenDue_iff x later)
    (fun _ x shows later _ => shows.step x later) _ calls ⟨rfl, Nat.zero_le _⟩
    (always_in_order _ TimedComponent.uptimeUs TimedCall.uptimeUs (fun _ _ => rfl) _ calls ordered
      fun _ _ => Nat.zero_le _)

theorem polls_when_due_sample :
    Always TimedComponent.step PollsWhenDue { component := ModbusComponent.idleMaster }
        [⟨0, .begin 0⟩, ⟨1000, .operation (.upsertChannel {})⟩, ⟨2000, .operation (.loop 0 0)⟩] ↔
      Always TimedComponent.step NotLongOverdue { component := ModbusComponent.idleMaster }
        [⟨0, .begin 0⟩, ⟨1000, .operation (.upsertChannel {})⟩, ⟨2000, .operation (.loop 0 0)⟩] :=
  polls_when_due_iff _ (by simp [TimedCall.InOrder])

/-- The first channel is configured after thirty days of uptime, and is not polled. -/
def lateChannel : List TimedCall :=
  [⟨0, .begin 0⟩, ⟨2592000000000, .operation (.upsertChannel {})⟩,
    ⟨2592000005000, .operation (.loop 0 0)⟩]

theorem late_channel_unpolled : TimedCall.InOrder lateChannel ∧
    ¬ Always TimedComponent.step PollsWhenDue { component := ModbusComponent.idleMaster }
      lateChannel := by
  refine ⟨by simp [TimedCall.InOrder, lateChannel], fun right => ?_⟩
  simp only [lateChannel, always_cons] at right
  have check := right.2.2.1
  have attempted := (check ⟨⟨0, 0, rfl⟩, rfl, by decide +kernel, by decide +kernel,
    by decide +kernel, by decide +kernel, by decide +kernel, by decide +kernel, by decide +kernel,
    by decide +kernel⟩).mpr (by decide +kernel)
  have active := congrArg (fun c => c.rtuMaster.transactionActive) attempted
  revert active
  decide +kernel

end Modbus
