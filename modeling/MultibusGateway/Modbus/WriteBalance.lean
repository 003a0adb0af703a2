import MultibusGateway.Library.Execution
import MultibusGateway.Modbus.Component

/-! The writes that the component has accepted, against the ones that it counts. A write is
queued, then in flight, and then counted as a success or a failure. The operations that change
the channels or the settings drop a write on its way. -/

namespace Modbus
open ByteString Execution

structure WriteTally where
  queued : Bool := false
  inFlight : Bool := false
  successful : UInt32 := 0
  failed : UInt32 := 0
  deriving DecidableEq

namespace ModbusComponent

def tally (c : ModbusComponent) : WriteTally :=
  ⟨c.pendingWrite.queued, c.writeInFlight, c.successfulWrites, c.failedWrites⟩

end ModbusComponent

/-- What becomes of a write in a call of `loop`. -/
inductive WriteEvent where
  | nothing
  | sent
  | unsent
  | ended (success : Bool)
  deriving DecidableEq

namespace WriteTally

def after (t : WriteTally) : WriteEvent → WriteTally
  | .nothing => t
  | .sent => { t with queued := false, inFlight := true }
  | .unsent => { t with queued := false, inFlight := false, failed := t.failed + 1 }
  | .ended true => { t with inFlight := false, successful := t.successful + 1 }
  | .ended false => { t with inFlight := false, failed := t.failed + 1 }

def dropped (t : WriteTally) : WriteTally := { t with queued := false, inFlight := false }

def outstanding (t : WriteTally) : Nat := t.queued.toNat + t.inFlight.toNat

def accounted (t : WriteTally) : Nat :=
  t.successful.toNat + t.failed.toNat + t.outstanding

def Single (t : WriteTally) : Prop := t.queued = true → t.inFlight = false

/-- A queued write can be sent, and one in flight can end. -/
def Fits (t : WriteTally) : WriteEvent → Prop
  | .nothing => True
  | .sent | .unsent => t.queued = true
  | .ended _ => t.inFlight = true

def Wraps (t : WriteTally) : WriteEvent → Prop
  | .nothing | .sent => False
  | .ended true => t.successful = 0xffffffff
  | .unsent | .ended false => t.failed = 0xffffffff

theorem single_after (t : WriteTally) (event : WriteEvent) (single : t.Single)
    (fits : t.Fits event) : (t.after event).Single := by
  cases event with
  | nothing => exact single
  | sent | unsent => exact fun queued => by cases queued
  | ended success => cases success <;> exact fun _ => rfl

theorem succ_toNat_iff (n : UInt32) : (n + 1).toNat = n.toNat + 1 ↔ n ≠ 0xffffffff := by
  have bound := n.toNat_lt
  rw [ne_eq, ← UInt32.toNat_inj, UInt32.toNat_add, UInt32.toNat_one]
  have last : (0xffffffff : UInt32).toNat = 2 ^ 32 - 1 := rfl
  omega

theorem accounted_after_iff (t : WriteTally) (event : WriteEvent) (single : t.Single)
    (fits : t.Fits event) :
    (t.after event).accounted = t.accounted ↔ ¬ t.Wraps event := by
  cases event with
  | nothing => exact iff_of_true rfl id
  | sent =>
    have landed := single fits
    refine iff_of_true ?_ id
    simp only [Fits] at fits
    simp [accounted, outstanding, after, fits, landed]
  | unsent =>
    have landed := single fits
    have counted := succ_toNat_iff t.failed
    simp only [Fits] at fits
    simp only [accounted, outstanding, after, fits, landed, Wraps, Bool.toNat_true,
      Bool.toNat_false]
    rw [← ne_eq, ← counted]
    omega
  | ended success =>
    simp only [Fits] at fits
    cases success with
    | true =>
      have counted := succ_toNat_iff t.successful
      simp only [accounted, outstanding, after, fits, Wraps, Bool.toNat_true, Bool.toNat_false]
      rw [← ne_eq, ← counted]
      omega
    | false =>
      have counted := succ_toNat_iff t.failed
      simp only [accounted, outstanding, after, fits, Wraps, Bool.toNat_true, Bool.toNat_false]
      rw [← ne_eq, ← counted]
      omega

end WriteTally

namespace ModbusComponent

/-! What each operation does to the writes. -/

def pollEvent (nowMs : UInt32) (c : ModbusComponent) : WriteEvent :=
  let polled := c.rtuMaster.pollWrite nowMs
  if polled.result = .pending || !c.writeInFlight then .nothing
  else .ended (polled.result = .success)

def startEvent (nowMs : UInt32) (c : ModbusComponent) : WriteEvent :=
  if c.pendingRaw.queued || c.masterSettings.passThroughMode = .twoWay || !c.pendingWrite.queued
  then .nothing
  else
    let write := c.pendingWrite
    if (c.rtuMaster.startWrite nowMs write.channel write.registerIndex write.value).2 then .sent
    else .unsent

def loopEvent (nowMs nowUs : UInt32) (c : ModbusComponent) : WriteEvent :=
  if c.mode ≠ .master || !c.active then .nothing
  else if c.rtuMaster.transactionActive then
    if c.rtuMaster.transactionKind = .write then c.pollEvent nowMs else .nothing
  else
    let (rtuMaster, result, _) := c.rtuMaster.pollPassiveFrame nowUs kMaxFrameLength
    if result ≠ .idle || rtuMaster.passiveCollector.pending then .nothing
    else { c with rtuMaster := rtuMaster }.startEvent nowMs

theorem tally_finishPollAttempt (nowMs : UInt32) (channel : ChannelConfig)
    (values : Option (List DecodedScalar)) (c : ModbusComponent) :
    (finishPollAttempt nowMs channel values c).tally = c.tally := by
  obtain ⟨_, _, _, _, _, same⟩ := finishPollAttempt_changes nowMs channel values c
  rw [same]
  rfl

theorem tally_pollRawTransaction (nowMs nowUs : UInt32) (c : ModbusComponent) :
    (pollRawTransaction nowMs nowUs c).tally = c.tally := by
  obtain ⟨_, _, _, same⟩ := pollRawTransaction_changes nowMs nowUs c
  rw [same]
  rfl

theorem tally_pollChannel (c : ModbusComponent) : c.pollChannel.1.tally = c.tally := rfl

theorem tally_pollReadTransaction (nowMs : UInt32) (c : ModbusComponent) :
    (pollReadTransaction nowMs c).tally = c.tally := by
  obtain ⟨_, _, _, _, _, _, same⟩ := pollReadTransaction_changes nowMs c
  rw [same]
  rfl

theorem tally_applySuccessfulWriteToCache (nowMs : UInt32) (write : PendingWrite)
    (c : ModbusComponent) : (applySuccessfulWriteToCache nowMs write c).tally = c.tally := by
  obtain ⟨_, same⟩ := applySuccessfulWriteToCache_changes nowMs write c
  rw [same]
  rfl

theorem tally_pollWriteTransaction (nowMs : UInt32) (c : ModbusComponent) :
    (pollWriteTransaction nowMs c).tally = c.tally.after (c.pollEvent nowMs) := by
  unfold pollWriteTransaction pollEvent
  dsimp only
  by_cases pending : (c.rtuMaster.pollWrite nowMs).result = .pending
  · rw [if_pos pending, if_pos (by rw [pending]; rfl)]
    rfl
  · rw [if_neg pending]
    by_cases landed : (!c.writeInFlight) = true
    · rw [if_pos landed, if_pos (by rw [landed, Bool.or_true])]
      rfl
    · have counted : ¬ (decide ((c.rtuMaster.pollWrite nowMs).result = .pending) ||
          !c.writeInFlight) = true := by
        rw [Bool.eq_false_iff.mpr landed, Bool.or_false, decide_eq_true_iff]
        exact pending
      rw [if_neg landed, if_neg counted]
      by_cases success : (c.rtuMaster.pollWrite nowMs).result = .success
      · have cached := tally_applySuccessfulWriteToCache nowMs c.activeWrite
          { c with rtuMaster := (c.rtuMaster.pollWrite nowMs).master }
        simp only [tally, WriteTally.mk.injEq] at cached
        rw [if_pos success, decide_eq_true success]
        simp only [tally, WriteTally.after, cached]
      · rw [if_neg success, decide_eq_false success]
        rfl

theorem tally_startTransaction (nowMs : UInt32) (c : ModbusComponent) :
    (startTransaction nowMs c).tally = c.tally.after (c.startEvent nowMs) := by
  unfold startTransaction startEvent
  dsimp only
  cases raw : c.pendingRaw.queued with
  | true =>
    simp only [Bool.true_or, if_true]
    split <;> rfl
  | false =>
    by_cases twoWay : c.masterSettings.passThroughMode = .twoWay
    · simp only [twoWay, decide_true, Bool.or_true, Bool.true_or, Bool.false_eq_true, if_true,
        if_false]
      rfl
    · cases queued : c.pendingWrite.queued with
      | true =>
        simp only [twoWay, decide_false, Bool.not_true, Bool.or_false, Bool.false_eq_true,
          if_true, if_false]
        cases sent : (c.rtuMaster.startWrite nowMs c.pendingWrite.channel
          c.pendingWrite.registerIndex c.pendingWrite.value).2 with
        | true => simp only [if_true]; rfl
        | false => simp only [Bool.false_eq_true, if_false]; rfl
      | false =>
        simp only [twoWay, decide_false, Bool.not_false, Bool.or_true, Bool.false_eq_true,
          if_true, if_false]
        split
        · rfl
        · split
          · rfl
          · split
            · rfl
            · rename_i polled channel turn
              have same := tally_pollChannel c
              rw [turn] at same
              split
              · exact same
              · exact (tally_finishPollAttempt nowMs channel none
                  { polled with
                    rtuMaster := (polled.rtuMaster.startRead nowMs channel).1 }).trans same

theorem tally_loop (nowMs nowUs : UInt32) (c : ModbusComponent) :
    (c.loop nowMs nowUs).tally = c.tally.after (c.loopEvent nowMs nowUs) := by
  unfold loop loopEvent
  split
  · rfl
  · split
    · split
      · rename_i raw
        simp only [raw, reduceCtorEq, if_false]
        exact tally_pollRawTransaction nowMs nowUs c
      · rename_i write
        simp only [write, if_true]
        exact tally_pollWriteTransaction nowMs c
      · rename_i other
        rw [if_neg other]
        exact tally_pollReadTransaction nowMs c
    · generalize c.rtuMaster.pollPassiveFrame nowUs kMaxFrameLength = polled
      obtain ⟨rtuMaster, result, frame⟩ := polled
      cases result with
      | idle =>
        cases collecting : rtuMaster.passiveCollector.pending with
        | true =>
          simp only [collecting, if_true, Bool.or_true]
          rfl
        | false =>
          simp only [collecting, ne_eq, not_true_eq_false, decide_false, Bool.or_self,
            Bool.false_eq_true, if_false]
          exact tally_startTransaction nowMs { c with rtuMaster := rtuMaster }
      | pending | frameReady | overflow => rfl

theorem fits_pollEvent (nowMs : UInt32) (c : ModbusComponent) :
    c.tally.Fits (c.pollEvent nowMs) := by
  unfold pollEvent
  dsimp only
  split
  · trivial
  · rename_i counted
    rw [Bool.or_eq_true, not_or, Bool.not_eq_true', Bool.not_eq_false] at counted
    exact counted.2

theorem fits_startEvent (nowMs : UInt32) (c : ModbusComponent) :
    c.tally.Fits (c.startEvent nowMs) := by
  unfold startEvent
  dsimp only
  split
  · trivial
  · rename_i taken
    rw [Bool.or_eq_true, not_or, Bool.not_eq_true', Bool.not_eq_false] at taken
    split <;> exact taken.2

theorem fits_loop (nowMs nowUs : UInt32) (c : ModbusComponent) :
    c.tally.Fits (c.loopEvent nowMs nowUs) := by
  unfold loopEvent
  split
  · trivial
  · split
    · split
      · exact fits_pollEvent nowMs c
      · trivial
    · dsimp only
      split
      · trivial
      · exact fits_startEvent nowMs
          { c with rtuMaster := (c.rtuMaster.pollPassiveFrame nowUs kMaxFrameLength).1 }

/-- New serial parameters can be taken over. -/
def takesSerialConfig (config : Option RtuSerialConfig) (c : ModbusComponent) : Bool :=
  match config with
  | none => false
  | some config => !(c.mode = .master && c.active) || (c.rtuMaster.reconfigure config).2

theorem tally_applySerialConfig (nowMs : UInt32) (config : RtuSerialConfig)
    (c : ModbusComponent) :
    (c.applySerialConfig nowMs config).2 = c.takesSerialConfig (some config) ∧
    (c.applySerialConfig nowMs config).1.tally =
      if c.takesSerialConfig (some config) then c.tally.dropped else c.tally := by
  have ready : (if c.mode = .master && c.active then c.rtuMaster.reconfigure config
      else (c.rtuMaster, true)).2 = c.takesSerialConfig (some config) := by
    unfold takesSerialConfig
    cases running : (decide (c.mode = .master) && c.active) with
    | true => simp only [if_true, Bool.not_true, Bool.false_or]
    | false => simp only [Bool.false_eq_true, if_false, Bool.not_false, Bool.true_or]
  rw [← ready]
  unfold applySerialConfig
  dsimp only
  generalize (if c.mode = .master && c.active then c.rtuMaster.reconfigure config
    else (c.rtuMaster, true)) = configured
  obtain ⟨rtuMaster, taken⟩ := configured
  cases taken with
  | true => exact ⟨rfl, rfl⟩
  | false => exact ⟨rfl, rfl⟩

theorem tally_applyRs485SerialSettings (nowMs : UInt32) (settings : Rs485SerialSettings)
    (c : ModbusComponent) :
    (c.applyRs485SerialSettings nowMs settings).1.tally =
      if c.takesSerialConfig
        (makeRtuSerialConfig settings c.masterSettings.maxResponseTimeMs.toUInt32)
      then c.tally.dropped else c.tally := by
  unfold applyRs485SerialSettings
  cases makeRtuSerialConfig settings c.masterSettings.maxResponseTimeMs.toUInt32 with
  | none => rfl
  | some config =>
    obtain ⟨ready, dropped⟩ := tally_applySerialConfig nowMs config c
    dsimp only
    rw [← dropped]
    split <;> rfl

theorem tally_applyModbusMasterSettings (nowMs : UInt32) (settings : ModbusMasterSettings)
    (c : ModbusComponent) :
    (c.applyModbusMasterSettings nowMs settings).1.tally =
      if runtimeSupportsModbusMasterSettings settings && c.takesSerialConfig
        (makeRtuSerialConfig c.rs485Settings settings.maxResponseTimeMs.toUInt32)
      then c.tally.dropped else c.tally := by
  unfold applyModbusMasterSettings
  cases runtimeSupportsModbusMasterSettings settings with
  | false => rfl
  | true =>
    cases makeRtuSerialConfig c.rs485Settings settings.maxResponseTimeMs.toUInt32 with
    | none => rfl
    | some config =>
      obtain ⟨ready, dropped⟩ := tally_applySerialConfig nowMs config c
      simp only [Bool.not_true, Bool.false_eq_true, if_false, Bool.true_and]
      rw [← dropped]
      split <;> rfl

theorem tally_cancelPendingTransaction (c : ModbusComponent) :
    c.cancelPendingTransaction.tally = c.tally := by
  unfold cancelPendingTransaction
  split <;> rfl

theorem tally_upsertChannel (config : ChannelConfig) (c : ModbusComponent) :
    (c.upsertChannel config).1.tally =
      if validChannelConfig config then c.tally.dropped else c.tally := by
  have cancelled := tally_cancelPendingTransaction c
  unfold upsertChannel
  cases validChannelConfig config with
  | false => rfl
  | true =>
    rw [← cancelled]
    rfl

theorem tally_removeChannel (slot : UInt8) (c : ModbusComponent) :
    (c.removeChannel slot).1.tally = c.tally.dropped := by
  rw [← tally_cancelPendingTransaction c]
  unfold removeChannel
  dsimp only
  split <;> rfl

theorem tally_queueRawRequestInternal (payload : Bytes) (origin : RawRequestOrigin)
    (c : ModbusComponent) : (c.queueRawRequestInternal payload origin).1.tally = c.tally := by
  obtain refused | queued := queueRawRequestInternal_cases payload origin c
  · rw [refused]
  · rw [queued]
    rfl

theorem tally_queueRawRequest (payload : Bytes) (c : ModbusComponent) :
    (c.queueRawRequest payload).1.tally = c.tally := by
  obtain refused | queued := queueRawRequest_cases payload c
  · rw [refused]
  · rw [queued]
    rfl

theorem tally_writePoint (slot registerIndex : UInt8) (scalar : DecodedScalar)
    (c : ModbusComponent) :
    if (c.writePoint slot registerIndex scalar).2 then
      c.tally.outstanding = 0 ∧
      (c.writePoint slot registerIndex scalar).1.tally = { c.tally with queued := true }
    else (c.writePoint slot registerIndex scalar).1.tally = c.tally := by
  obtain refused | ⟨channel, request, noneWaits, noneFlies, -, -, -, queued⟩ :=
    writePoint_cases slot registerIndex scalar c
  · rw [refused, if_neg Bool.false_ne_true]
  · rw [queued, if_pos rfl]
    refine ⟨?_, rfl⟩
    rw [WriteTally.outstanding, tally, noneWaits, noneFlies]
    rfl

end ModbusComponent

/-! Runs of the operations, with the number of writes that have been accepted. -/

/-- An operation on the component, or what the bus and the serial port make of it. -/
inductive WriteOperation where
  | writePoint (slot registerIndex : UInt8) (scalar : DecodedScalar)
  | loop (nowMs nowUs : UInt32)
  | bus (port : SerialPort)
  | upsertChannel (config : ChannelConfig)
  | removeChannel (slot : UInt8)
  | applyRs485SerialSettings (nowMs : UInt32) (settings : Rs485SerialSettings)
  | applyModbusMasterSettings (nowMs : UInt32) (settings : ModbusMasterSettings)
  | queueRawRequest (payload : Bytes)
  | queueRuleRawRequest (payload : Bytes)
  | takeRawCompletion
  | takePassiveFrame
  | takeCompletedPoll

structure WriteLedger where
  component : ModbusComponent
  accepted : Nat

namespace WriteLedger
open ModbusComponent

def step (l : WriteLedger) : WriteOperation → WriteLedger
  | .writePoint slot registerIndex scalar =>
    let (component, queued) := l.component.writePoint slot registerIndex scalar
    ⟨component, l.accepted + queued.toNat⟩
  | .loop nowMs nowUs => { l with component := l.component.loop nowMs nowUs }
  | .bus port =>
    { l with component :=
      { l.component with rtuMaster := { l.component.rtuMaster with port := port } } }
  | .upsertChannel config => { l with component := (l.component.upsertChannel config).1 }
  | .removeChannel slot => { l with component := (l.component.removeChannel slot).1 }
  | .applyRs485SerialSettings nowMs settings =>
    { l with component := (l.component.applyRs485SerialSettings nowMs settings).1 }
  | .applyModbusMasterSettings nowMs settings =>
    { l with component := (l.component.applyModbusMasterSettings nowMs settings).1 }
  | .queueRawRequest payload => { l with component := (l.component.queueRawRequest payload).1 }
  | .queueRuleRawRequest payload =>
    { l with component := (l.component.queueRuleRawRequest payload).1 }
  | .takeRawCompletion => { l with component := l.component.takeRawCompletion.1 }
  | .takePassiveFrame => { l with component := l.component.takePassiveFrame.1 }
  | .takeCompletedPoll => { l with component := l.component.takeCompletedPoll.1 }

/-- A component that has not been given a write. -/
def start (c : ModbusComponent) : WriteLedger where
  component :=
    { c with
      pendingWrite := {}
      activeWrite := {}
      writeInFlight := false
      successfulWrites := 0
      failedWrites := 0 }
  accepted := 0

/-- Every write that was accepted is counted, queued or in flight. -/
def Balanced (l : WriteLedger) : Prop := l.accepted = l.component.tally.accounted

def clears (c : ModbusComponent) : WriteOperation → Bool
  | .upsertChannel config => validChannelConfig config
  | .removeChannel _ => true
  | .applyRs485SerialSettings _ settings =>
    c.takesSerialConfig (makeRtuSerialConfig settings c.masterSettings.maxResponseTimeMs.toUInt32)
  | .applyModbusMasterSettings _ settings =>
    runtimeSupportsModbusMasterSettings settings && c.takesSerialConfig
      (makeRtuSerialConfig c.rs485Settings settings.maxResponseTimeMs.toUInt32)
  | _ => false

/-- No write is cleared on its way, and no write ends whose counter is at its last value. -/
def Unharmed (l : WriteLedger) (operation : WriteOperation) : Prop :=
  match operation with
  | .loop nowMs nowUs => ¬ l.component.tally.Wraps (l.component.loopEvent nowMs nowUs)
  | operation => clears l.component operation = true → l.component.tally.outstanding = 0

theorem accounted_dropped (t : WriteTally) :
    t.dropped.accounted = t.accounted ↔ t.outstanding = 0 := by
  simp only [WriteTally.accounted, WriteTally.dropped, WriteTally.outstanding, Bool.toNat_false]
  omega

theorem cleared_iff (t : WriteTally) (cleared : Bool) (accepted : Nat)
    (balanced : accepted = t.accounted) :
    accepted = (if cleared then t.dropped else t).accounted ↔
      (cleared = true → t.outstanding = 0) := by
  have kept := accounted_dropped t
  rw [balanced]
  cases cleared with
  | true => exact ⟨fun same _ => kept.mp same.symm, fun landed => (kept.mpr (landed rfl)).symm⟩
  | false => exact iff_of_true rfl (fun cleared => by cases cleared)

theorem single_cleared (t : WriteTally) (cleared : Bool) (single : t.Single) :
    (if cleared then t.dropped else t).Single := by
  cases cleared with
  | true => exact fun queued => by cases queued
  | false => exact single

def quiet : WriteOperation → Bool
  | .writePoint _ _ _ | .loop _ _ => false
  | _ => true

theorem step_tally (l : WriteLedger) (operation : WriteOperation)
    (still : quiet operation = true) :
    (step l operation).accepted = l.accepted ∧
    (step l operation).component.tally =
      if clears l.component operation then l.component.tally.dropped else l.component.tally := by
  cases operation with
  | writePoint slot registerIndex scalar => cases still
  | loop nowMs nowUs => cases still
  | bus port => exact ⟨rfl, rfl⟩
  | upsertChannel config => exact ⟨rfl, tally_upsertChannel config l.component⟩
  | removeChannel slot => exact ⟨rfl, tally_removeChannel slot l.component⟩
  | applyRs485SerialSettings nowMs settings =>
    exact ⟨rfl, tally_applyRs485SerialSettings nowMs settings l.component⟩
  | applyModbusMasterSettings nowMs settings =>
    exact ⟨rfl, tally_applyModbusMasterSettings nowMs settings l.component⟩
  | queueRawRequest payload => exact ⟨rfl, tally_queueRawRequest payload l.component⟩
  | queueRuleRawRequest payload =>
    exact ⟨rfl, tally_queueRawRequestInternal payload .rule l.component⟩
  | takeRawCompletion => exact ⟨rfl, rfl⟩
  | takePassiveFrame => exact ⟨rfl, rfl⟩
  | takeCompletedPoll => exact ⟨rfl, rfl⟩

theorem single_quiet (l : WriteLedger) (operation : WriteOperation)
    (still : quiet operation = true) (single : l.component.tally.Single) :
    (step l operation).component.tally.Single := by
  rw [(step_tally l operation still).2]
  exact single_cleared _ _ single

theorem balanced_quiet_iff (l : WriteLedger) (operation : WriteOperation)
    (still : quiet operation = true) (balanced : Balanced l) :
    Balanced (step l operation) ↔
      (clears l.component operation = true → l.component.tally.outstanding = 0) := by
  obtain ⟨same, left⟩ := step_tally l operation still
  unfold Balanced
  rw [same, left]
  exact cleared_iff _ _ _ balanced

theorem single_step (l : WriteLedger) (operation : WriteOperation)
    (single : l.component.tally.Single) : (step l operation).component.tally.Single := by
  cases operation with
  | writePoint slot registerIndex scalar =>
    have written := tally_writePoint slot registerIndex scalar l.component
    simp only [step]
    split at written
    · obtain ⟨free, queued⟩ := written
      simp only [WriteTally.outstanding] at free
      rw [queued]
      intro _
      cases flying : l.component.tally.inFlight with
      | false => rfl
      | true => rw [flying, Bool.toNat_true] at free; omega
    · rw [written]
      exact single
  | loop nowMs nowUs =>
    simp only [step]
    rw [tally_loop]
    exact WriteTally.single_after _ _ single (fits_loop nowMs nowUs l.component)
  | _ => exact single_quiet l _ rfl single

/-- An operation keeps the account exactly if it harms no write. -/
theorem balanced_step_iff (l : WriteLedger) (operation : WriteOperation) (balanced : Balanced l)
    (single : l.component.tally.Single) :
    Balanced (step l operation) ↔ Unharmed l operation := by
  cases operation with
  | writePoint slot registerIndex scalar =>
    have written := tally_writePoint slot registerIndex scalar l.component
    refine iff_of_true ?_ (fun cleared => by cases cleared)
    unfold Balanced at balanced ⊢
    simp only [step]
    rw [balanced]
    cases queued : (l.component.writePoint slot registerIndex scalar).2 with
    | true =>
      rw [queued, if_pos rfl] at written
      obtain ⟨free, taken⟩ := written
      rw [taken]
      simp only [WriteTally.outstanding] at free
      simp only [WriteTally.accounted, WriteTally.outstanding, Bool.toNat_true]
      omega
    | false =>
      rw [queued, if_neg Bool.false_ne_true] at written
      rw [written]
      rfl
  | loop nowMs nowUs =>
    have kept := WriteTally.accounted_after_iff _ _ single (fits_loop nowMs nowUs l.component)
    unfold Balanced at balanced ⊢
    simp only [step, Unharmed]
    rw [tally_loop, ← kept, balanced, eq_comm]
  | _ => exact balanced_quiet_iff l _ rfl balanced

/-- The accepted writes of a run are all accounted for after every operation exactly if no
operation of the run harms one. -/
theorem writes_accounted_iff (c : ModbusComponent) (operations : List WriteOperation) :
    Always step (fun l operation => Balanced (step l operation)) (start c) operations ↔
      Always step Unharmed (start c) operations := by
  refine always_iff step (fun l => Balanced l ∧ l.component.tally.Single) _ _ ?_ ?_ _ operations
    ⟨rfl, fun _ => rfl⟩
  · intro l operation kept
    exact balanced_step_iff l operation kept.1 kept.2
  · intro l operation kept balanced
    exact ⟨balanced, single_step l operation kept.2⟩

/-- The removal of a slot without a channel drops the write to another channel. -/
theorem removal_drops_write :
    let master : ModbusComponent := { mode := .master, active := true }
    ¬ Always step (fun l operation => Balanced (step l operation)) (start master)
      [.upsertChannel {}, .writePoint 0 0 (.boolean true), .removeChannel 5] := by
  intro master balanced
  simp only [always_cons] at balanced
  have unbalanced : ¬ Balanced (step (step (step (start master) (.upsertChannel {}))
      (.writePoint 0 0 (.boolean true))) (.removeChannel 5)) := by
    unfold Balanced
    decide +kernel
  exact unbalanced balanced.2.2.1

end WriteLedger

end Modbus
