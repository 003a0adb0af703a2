import MultibusGateway.Library.RoundRobin
import MultibusGateway.Modbus.PollDeadline

/-! The polling of the channels in turn. An attempt ends when its answer has been taken in or
when its request cannot be sent; everything else the component does leaves the turn alone. -/

namespace Modbus
open ByteString Execution WrapClock ModbusRtuMaster

namespace ModbusComponent

def hasValidCache (slot : UInt8) (c : ModbusComponent) : Bool :=
  slot < kCompatibilitySlotCount && (c.cache slot.toNat).valid

def pollTurn (c : ModbusComponent) : Nat :=
  if c.pollChannelIndex ≥ c.channels.length then 0 else c.pollChannelIndex

instance (nowUs : UInt32) (c : ModbusComponent) : Decidable (ReadyToPoll nowUs c) :=
  decidable_of_iff
    (c.mode = .master ∧ c.active = true ∧ c.rtuMaster.transactionActive = false ∧
      (c.rtuMaster.pollPassiveFrame nowUs kMaxFrameLength).2.1 = .idle ∧
      (c.listened nowUs).rtuMaster.passiveCollector.pending = false ∧
      c.pendingRaw.queued = false ∧ c.masterSettings.passThroughMode ≠ .twoWay ∧
      c.pendingWrite.queued = false ∧ c.channels ≠ [])
    ⟨fun ⟨a, b, d, e, f, g, h, i, j⟩ => ⟨a, b, d, e, f, g, h, i, j⟩,
      fun ⟨a, b, d, e, f, g, h, i, j⟩ => ⟨a, b, d, e, f, g, h, i, j⟩⟩

/-- The attempt that a loop ends: the slot that was asked on the bus, or that could not be, and
the outcome. -/
def attemptEnded (nowMs nowUs : UInt32) (c : ModbusComponent) : Option (UInt8 × Bool) :=
  if c.mode ≠ .master || !c.active then none
  else if c.rtuMaster.transactionActive then
    if c.rtuMaster.transactionKind = .read then
      match (c.rtuMaster.pollRead nowMs).result with
      | .success => some (c.rtuMaster.activeChannel.slot, true)
      | .failure => some (c.rtuMaster.activeChannel.slot, false)
      | _ => none
    else none
  else if ReadyToPoll nowUs c ∧ reached nowMs c.nextPollAtMs = true then
    (c.listened nowUs).pollChannel.2.bind fun channel =>
      if ((c.listened nowUs).rtuMaster.startRead nowMs channel).2 then none
      else some (channel.slot, false)
  else none

structure SameTurn (c d : ModbusComponent) : Prop where
  polls : d.pollsCompleted = c.pollsCompleted
  retries : d.pollRetryCount = c.pollRetryCount
  turn : d.pollTurn = c.pollTurn

inductive AttemptTaken (c d : ModbusComponent) (channel : ChannelConfig) (success : Bool) : Prop
  | retried (failed : success = false)
      (more : c.pollRetryCount < c.masterSettings.maxRetryTimes)
      (polls : d.pollsCompleted = c.pollsCompleted)
      (retries : d.pollRetryCount = c.pollRetryCount + 1) (turn : d.pollTurn = c.pollTurn)
  | completed (last : success = false → ¬ c.pollRetryCount < c.masterSettings.maxRetryTimes)
      (polls : d.pollsCompleted = c.pollsCompleted + 1)
      (completion : ∃ completion, d.completedPoll = some completion ∧
        completion.channel = channel ∧ completion.success = success)
      (retries : d.pollRetryCount = 0)
      (turn : d.pollTurn = (c.pollTurn + 1) % c.channels.length)
      (cached : (d.cache channel.slot.toNat).valid = success)

theorem SameTurn.refl (c : ModbusComponent) : SameTurn c c := ⟨rfl, rfl, rfl⟩

theorem pollTurn_current (c : ModbusComponent) (channel : ChannelConfig)
    (current : c.channels[c.pollChannelIndex]? = some channel) :
    c.pollTurn = c.pollChannelIndex := by
  obtain ⟨inside, -⟩ := List.getElem?_eq_some_iff.mp current
  exact if_neg (Nat.not_le.mpr inside)

theorem pollTurn_advanced (c : ModbusComponent) (channels : c.channels ≠ []) :
    c.advancePollChannel.pollTurn = (c.pollChannelIndex + 1) % c.channels.length := by
  have positive : 0 < c.channels.length := List.length_pos_iff.mpr channels
  have filled : c.channels.isEmpty = false := by
    rw [Bool.eq_false_iff]
    exact fun empty => channels (List.isEmpty_iff.mp empty)
  have inside := Nat.mod_lt (c.pollChannelIndex + 1) positive
  rw [advancePollChannel, filled, pollTurn]
  exact if_neg (Nat.not_le.mpr inside)

theorem advancePollChannel_fields (c : ModbusComponent) :
    c.advancePollChannel.pollsCompleted = c.pollsCompleted ∧
      c.advancePollChannel.completedPoll = c.completedPoll ∧
      c.advancePollChannel.pollRetryCount = c.pollRetryCount ∧
      c.advancePollChannel.cache = c.cache := by
  unfold advancePollChannel
  split <;> exact ⟨rfl, rfl, rfl, rfl⟩

theorem finishPollAttempt_taken (nowMs next : UInt32) (channel : ChannelConfig)
    (values : Option (List DecodedScalar)) (c : ModbusComponent)
    (current : c.channels[c.pollChannelIndex]? = some channel) :
    AttemptTaken c { finishPollAttempt nowMs channel values c with nextPollAtMs := next } channel
      values.isSome := by
  have channels : c.channels ≠ [] := by
    intro empty
    rw [empty] at current
    cases current
  have turn := pollTurn_current c channel current
  unfold finishPollAttempt
  cases values with
  | some read =>
    dsimp only
    let published := publishPollCompletion nowMs channel (some read)
      (c.setCache channel.slot { c.cache channel.slot.toNat with
        valid := true
        values := read
        updatedAtMs := nowMs
        lastStatus := .ok
        lastExceptionCode := 0 })
    obtain ⟨polls, completed, retries, cache⟩ :=
      advancePollChannel_fields { published with pollRetryCount := 0 }
    have advanced := pollTurn_advanced { published with pollRetryCount := 0 } channels
    refine .completed (fun failed => by cases failed) polls ⟨_, completed, rfl, rfl⟩ retries ?_ ?_
    · rw [turn]
      exact advanced
    · refine (congrArg (fun cache : Nat → PollCache => (cache channel.slot.toNat).valid)
        cache).trans ?_
      exact congrArg PollCache.valid (setCache_same channel.slot _ c)
  | none =>
    dsimp only
    split
    · rename_i more
      exact .retried rfl more rfl rfl rfl
    · rename_i last
      let published := publishPollCompletion nowMs channel none
        (c.setCache channel.slot { c.cache channel.slot.toNat with
          lastStatus := c.rtuMaster.lastStatus
          lastExceptionCode := c.rtuMaster.lastExceptionCode
          valid := false
          values := [] })
      obtain ⟨polls, completed, retries, cache⟩ :=
        advancePollChannel_fields { published with pollRetryCount := 0 }
      have advanced := pollTurn_advanced { published with pollRetryCount := 0 } channels
      refine .completed (fun _ => last) polls ⟨_, completed, rfl, rfl⟩ retries ?_ ?_
      · rw [turn]
        exact advanced
      · refine (congrArg (fun cache : Nat → PollCache => (cache channel.slot.toNat).valid)
          cache).trans ?_
        exact congrArg PollCache.valid (setCache_same channel.slot _ c)

/-! What leaves the turn alone. -/

theorem pollRawTransaction_turn (nowMs nowUs : UInt32) (c : ModbusComponent) :
    SameTurn c (c.pollRawTransaction nowMs nowUs) := by
  obtain ⟨_, _, _, same⟩ := pollRawTransaction_changes nowMs nowUs c
  rw [same]
  exact ⟨rfl, rfl, rfl⟩

theorem pollWriteTransaction_turn (nowMs : UInt32) (c : ModbusComponent) :
    SameTurn c (c.pollWriteTransaction nowMs) := by
  obtain ⟨_, _, _, _, _, same⟩ := pollWriteTransaction_changes nowMs c
  rw [same]
  exact ⟨rfl, rfl, rfl⟩

theorem startTransaction_turn (nowMs : UInt32) (c : ModbusComponent)
    (waits : c.pendingRaw.queued = true ∨ c.masterSettings.passThroughMode = .twoWay ∨
      c.pendingWrite.queued = true ∨ c.channels = []) :
    SameTurn c (c.startTransaction nowMs) := by
  unfold startTransaction
  dsimp only
  cases raw : c.pendingRaw.queued with
  | true =>
    simp only [if_true]
    split <;> exact ⟨rfl, rfl, rfl⟩
  | false =>
    simp only [Bool.false_eq_true, if_false]
    split
    · exact .refl c
    · rename_i polling
      cases write : c.pendingWrite.queued with
      | true =>
        simp only [if_true]
        split <;> exact ⟨rfl, rfl, rfl⟩
      | false =>
        have empty : c.channels.isEmpty = true := by
          simpa [raw, polling, write] using waits
        simp only [Bool.false_eq_true, if_false, empty, if_true]
        exact .refl c

theorem loop_unready (nowMs nowUs : UInt32) (c : ModbusComponent)
    (running : c.mode = .master ∧ c.active = true) (idle : c.rtuMaster.transactionActive = false)
    (unready : ¬ ReadyToPoll nowUs c) : SameTurn c (c.loop nowMs nowUs) := by
  have waits : (c.rtuMaster.pollPassiveFrame nowUs kMaxFrameLength).2.1 = .idle →
      (c.listened nowUs).rtuMaster.passiveCollector.pending = false →
      c.pendingRaw.queued = true ∨ c.masterSettings.passThroughMode = .twoWay ∨
        c.pendingWrite.queued = true ∨ c.channels = [] := by
    intro quiet collected
    by_contra nothing
    simp only [not_or, Bool.not_eq_true] at nothing
    exact unready ⟨running.1, running.2, idle, quiet, collected, nothing.1, nothing.2.1,
      nothing.2.2.1, nothing.2.2.2⟩
  unfold listened at waits
  unfold loop
  rw [if_neg (by simp [running]), if_neg (by simp [idle])]
  generalize c.rtuMaster.pollPassiveFrame nowUs kMaxFrameLength = polled at waits ⊢
  obtain ⟨rtuMaster, result, frame⟩ := polled
  cases result with
  | idle =>
    dsimp only at waits ⊢
    cases collected : rtuMaster.passiveCollector.pending with
    | true => exact ⟨rfl, rfl, rfl⟩
    | false =>
      obtain ⟨polls, retries, turn⟩ :=
        startTransaction_turn nowMs { c with rtuMaster := rtuMaster } (waits rfl collected)
      exact ⟨polls, retries, turn⟩
  | pending => exact ⟨rfl, rfl, rfl⟩
  | frameReady => exact ⟨rfl, rfl, rfl⟩
  | overflow => exact ⟨rfl, rfl, rfl⟩

def TurnTaken (c d : ModbusComponent) : Option (UInt8 × Bool) → Prop
  | none => SameTurn c d
  | some (slot, success) => ∃ channel, c.channels[c.pollTurn]? = some channel ∧
      channel.slot = slot ∧ AttemptTaken c d channel success ∧
      (success = true → slot < kCompatibilitySlotCount)

theorem AttemptTaken.of_same {c e d : ModbusComponent} {channel : ChannelConfig} {success : Bool}
    (taken : AttemptTaken e d channel success) (polls : e.pollsCompleted = c.pollsCompleted)
    (retries : e.pollRetryCount = c.pollRetryCount) (turn : e.pollTurn = c.pollTurn)
    (settings : e.masterSettings = c.masterSettings) (channels : e.channels = c.channels) :
    AttemptTaken c d channel success := by
  cases taken with
  | retried failed more same count still =>
    rw [retries, settings] at more
    exact .retried failed more (same.trans polls) (count.trans (congrArg (· + 1) retries))
      (still.trans turn)
  | completed last more completion count advanced cached =>
    rw [retries, settings] at last
    rw [turn, channels] at advanced
    exact .completed last (more.trans (congrArg (· + 1) polls)) completion count advanced cached

theorem pollChannel_turn (c : ModbusComponent) (channel : ChannelConfig)
    (turn : c.pollChannel.2 = some channel) :
    c.channels[c.pollTurn]? = some channel ∧
      c.pollChannel.1.channels[c.pollChannel.1.pollChannelIndex]? = some channel ∧
      c.pollChannel.1.pollTurn = c.pollTurn := by
  have current : c.channels[c.pollTurn]? = some channel := turn
  exact ⟨current, current, pollTurn_current c.pollChannel.1 channel current⟩

theorem attemptRead_turn (nowMs : UInt32) (c : ModbusComponent) :
    TurnTaken c (c.attemptRead nowMs) (c.pollChannel.2.bind fun channel =>
      if (c.rtuMaster.startRead nowMs channel).2 then none else some (channel.slot, false)) := by
  have split : c.pollChannel = (c.pollChannel.1, c.pollChannel.2) := rfl
  unfold attemptRead
  rw [split]
  cases turn : c.pollChannel.2 with
  | none => exact .refl c
  | some channel =>
    obtain ⟨current, moved, same⟩ := pollChannel_turn c channel turn
    have master : c.pollChannel.1.rtuMaster = c.rtuMaster := rfl
    rw [Option.bind_some]
    dsimp only
    rw [master]
    cases (c.rtuMaster.startRead nowMs channel).2 with
    | true => exact ⟨rfl, rfl, same⟩
    | false =>
      refine ⟨channel, current, rfl, ?_, fun success => by cases success⟩
      have taken := finishPollAttempt_taken nowMs
        (nowMs + c.masterSettings.executionIntervalMs.toUInt32) channel none
        { c.pollChannel.1 with rtuMaster := (c.rtuMaster.startRead nowMs channel).1 } moved
      exact taken.of_same rfl rfl same rfl rfl

theorem slot_upToName (channel other : ChannelConfig) (alike : UpToName channel other) :
    channel.slot = other.slot := by
  have slots := congrArg ChannelConfig.slot alike
  exact slots

theorem decodeReadResponse_slot (config : ChannelConfig) (frame : Bytes)
    (values : List DecodedScalar) (decoded : decodeReadResponse config frame = .ok values) :
    config.slot < kCompatibilitySlotCount := by
  unfold decodeReadResponse at decoded
  split at decoded
  · cases decoded
  · rename_i valid
    simp only [validChannelConfig, Bool.not_eq_true', Bool.not_eq_false, Bool.and_eq_true,
      decide_eq_true_eq] at valid
    exact valid.1.1.1.1.1

theorem pollReadTransaction_turn (nowMs : UInt32) (c : ModbusComponent) (booked : Booked c)
    (active : c.rtuMaster.transactionActive = true) (read : c.rtuMaster.transactionKind = .read) :
    TurnTaken c (c.pollReadTransaction nowMs)
      (match (c.rtuMaster.pollRead nowMs).result with
        | .success => some (c.rtuMaster.activeChannel.slot, true)
        | .failure => some (c.rtuMaster.activeChannel.slot, false)
        | _ => none) := by
  obtain ⟨⟨channel, current, alike⟩, -⟩ := booked.read active read
  have turn := pollChannel_current { c with rtuMaster := (c.rtuMaster.pollRead nowMs).master }
    channel current
  have asked : c.channels[c.pollTurn]? = some channel := by
    rw [pollTurn_current c channel current]
    exact current
  have taken := fun values => finishPollAttempt_taken nowMs
    (nowMs + c.masterSettings.executionIntervalMs.toUInt32) channel values
    { c with rtuMaster := (c.rtuMaster.pollRead nowMs).master } current
  have ended := pollRead_cases nowMs c.rtuMaster active read
  cases result : (c.rtuMaster.pollRead nowMs).result with
  | pending =>
    simp only [pollReadTransaction, result]
    exact ⟨rfl, rfl, rfl⟩
  | idle =>
    rcases ended with ⟨pending, -⟩ | ⟨ended, -⟩
    · rw [pending] at result
      cases result
    · exact absurd result ended.apart.2
  | failure =>
    simp only [pollReadTransaction, result, turn]
    exact ⟨channel, asked, slot_upToName _ _ alike, (taken none).of_same rfl rfl rfl rfl rfl,
      fun success => by cases success⟩
  | success =>
    simp only [pollReadTransaction, result, turn]
    refine ⟨channel, asked, slot_upToName _ _ alike, (taken _).of_same rfl rfl rfl rfl rfl, fun _ => ?_⟩
    rcases ended with ⟨pending, -⟩ | ⟨-, decoded⟩
    · rw [pending] at result
      cases result
    · obtain ⟨response, decoded⟩ := decoded result
      exact decodeReadResponse_slot _ response _ decoded

/-- A loop leaves the turn alone or ends an attempt for it. -/
theorem loop_turn (nowMs nowUs : UInt32) (c : ModbusComponent) (booked : Booked c) :
    TurnTaken c (c.loop nowMs nowUs) (c.attemptEnded nowMs nowUs) := by
  unfold attemptEnded
  by_cases resting : (c.mode ≠ .master || !c.active) = true
  · rw [if_pos resting, loop, if_pos resting]
    exact .refl c
  · rw [if_neg resting]
    by_cases active : c.rtuMaster.transactionActive = true
    · rw [if_pos active, loop, if_neg resting, if_pos active]
      cases kind : c.rtuMaster.transactionKind with
      | raw => exact pollRawTransaction_turn nowMs nowUs c
      | write => exact pollWriteTransaction_turn nowMs c
      | read => exact pollReadTransaction_turn nowMs c booked active kind
      | none => exact absurd kind (booked.known active)
    · have idle := Bool.not_eq_true _ ▸ active
      have running : c.mode = .master ∧ c.active = true := by simpa using resting
      rw [if_neg active]
      by_cases ready : ReadyToPoll nowUs c
      · rw [ready.loop_eq nowMs]
        cases due : reached nowMs c.nextPollAtMs with
        | false =>
          rw [if_neg (by simp), if_neg (by simp)]
          exact ⟨rfl, rfl, rfl⟩
        | true =>
          rw [if_pos rfl, if_pos ⟨ready, rfl⟩]
          have turn := attemptRead_turn nowMs (c.listened nowUs)
          revert turn
          cases (c.listened nowUs).pollChannel.2.bind fun channel =>
            if ((c.listened nowUs).rtuMaster.startRead nowMs channel).2 then none
            else some (channel.slot, false) with
          | none => exact fun same => ⟨same.polls, same.retries, same.turn⟩
          | some attempt =>
            rintro ⟨channel, asked, own, taken, inside⟩
            exact ⟨channel, asked, own, taken.of_same rfl rfl rfl rfl rfl, inside⟩
      · rw [if_neg (fun both => ready both.1)]
        exact loop_unready nowMs nowUs c running idle ready

/-! The retries of a visit never exceed the setting. -/

def RetriesKept (c d : ModbusComponent) : Prop :=
  d.pollRetryCount = 0 ∨
    (d.pollRetryCount = c.pollRetryCount ∧ d.masterSettings = c.masterSettings)

theorem loop_settings (nowMs nowUs : UInt32) (c : ModbusComponent) :
    (c.loop nowMs nowUs).channels = c.channels ∧
      (c.loop nowMs nowUs).masterSettings = c.masterSettings := by
  have same := configuration_loop nowMs nowUs c
  exact ⟨congrArg ComponentConfiguration.channels same,
    congrArg ComponentConfiguration.masterSettings same⟩

theorem succ_retries (count most : UInt8) (more : count < most) :
    (count + 1).toNat = count.toNat + 1 ∧ count + 1 ≤ most := by
  have room := UInt8.lt_iff_toNat_lt.mp more
  have short := most.toNat_lt
  have sum : (count + 1).toNat = count.toNat + 1 := by
    rw [UInt8.toNat_add]
    exact Nat.mod_eq_of_lt (by change count.toNat + 1 < 2 ^ 8; omega)
  exact ⟨sum, UInt8.le_iff_toNat_le.mpr (by omega)⟩

theorem loop_retries (nowMs nowUs : UInt32) (c : ModbusComponent) (booked : Booked c)
    (bounded : c.pollRetryCount ≤ c.masterSettings.maxRetryTimes) :
    (c.loop nowMs nowUs).pollRetryCount ≤ (c.loop nowMs nowUs).masterSettings.maxRetryTimes := by
  have turn := loop_turn nowMs nowUs c booked
  rw [(loop_settings nowMs nowUs c).2]
  cases ended : c.attemptEnded nowMs nowUs with
  | none =>
    rw [ended] at turn
    rw [turn.retries]
    exact bounded
  | some attempt =>
    rw [ended] at turn
    obtain ⟨channel, -, -, taken, -⟩ := turn
    cases taken with
    | retried failed more polls retries same =>
      rw [retries]
      exact (succ_retries _ _ more).2
    | completed last polls completion retries same cached =>
      rw [retries]
      exact UInt8.zero_le

theorem cancelPendingTransaction_retries (c : ModbusComponent) :
    RetriesKept c c.cancelPendingTransaction := by
  unfold RetriesKept cancelPendingTransaction
  split
  · exact .inl rfl
  · exact .inr ⟨rfl, rfl⟩

theorem applySerialConfig_retries (nowMs : UInt32) (config : RtuSerialConfig)
    (c : ModbusComponent) (ready : (c.applySerialConfig nowMs config).2 = true) :
    (c.applySerialConfig nowMs config).1.pollRetryCount = 0 := by
  obtain ⟨rtuMaster, -, refused | taken⟩ := applySerialConfig_cases nowMs config c
  · rw [refused] at ready
    cases ready
  · rw [taken]

theorem call_retries (c : ModbusComponent) (x : ComponentCall)
    (calm : ∀ nowMs nowUs, x ≠ .operation (.loop nowMs nowUs)) : RetriesKept c (c.call x) := by
  have kept : RetriesKept c c := .inr ⟨rfl, rfl⟩
  cases x with
  | setRtuSerialConfig config => exact kept
  | begin nowMs =>
    unfold call ModbusComponent.begin
    dsimp only
    cases c.mode with
    | disabled => exact kept
    | slave => exact kept
    | master =>
      dsimp only
      split <;> exact .inr ⟨rfl, rfl⟩
  | setChannelName slot name =>
    unfold call setChannelName
    dsimp only
    split
    · exact kept
    · exact .inr ⟨rfl, rfl⟩
  | operation operation =>
    cases operation with
    | loop nowMs nowUs => exact absurd rfl (calm nowMs nowUs)
    | bus port => exact .inr ⟨rfl, rfl⟩
    | takeRawCompletion | takePassiveFrame | takeCompletedPoll => exact .inr ⟨rfl, rfl⟩
    | writePoint slot registerIndex scalar =>
      simp only [call, WriteLedger.step]
      obtain refused | ⟨channel, request, -, -, -, -, -, queued⟩ :=
        writePoint_cases slot registerIndex scalar c
      · rw [refused]
        exact kept
      · rw [queued]
        exact .inr ⟨rfl, rfl⟩
    | queueRawRequest payload =>
      simp only [call, WriteLedger.step]
      obtain refused | queued := queueRawRequest_cases payload c
      · rw [refused]
        exact kept
      · rw [queued]
        exact .inr ⟨rfl, rfl⟩
    | queueRuleRawRequest payload =>
      simp only [call, WriteLedger.step, queueRuleRawRequest]
      obtain refused | queued := queueRawRequestInternal_cases payload .rule c
      · rw [refused]
        exact kept
      · rw [queued]
        exact .inr ⟨rfl, rfl⟩
    | upsertChannel config =>
      simp only [call, WriteLedger.step, upsertChannel]
      split
      · exact kept
      · exact cancelPendingTransaction_retries c
    | removeChannel slot =>
      simp only [call, WriteLedger.step, removeChannel]
      split
      · exact .inl rfl
      · exact cancelPendingTransaction_retries c
    | applyRs485SerialSettings nowMs settings =>
      simp only [call, WriteLedger.step]
      obtain refused | ⟨config, -, ready, applied⟩ :=
        applyRs485SerialSettings_cases nowMs settings c
      · rw [refused]
        exact kept
      · rw [applied]
        exact .inl (applySerialConfig_retries nowMs config c ready)
    | applyModbusMasterSettings nowMs settings =>
      simp only [call, WriteLedger.step]
      obtain refused | ⟨config, -, -, ready, applied⟩ :=
        applyModbusMasterSettings_cases nowMs settings c
      · rw [refused]
        exact kept
      · rw [applied]
        exact .inl (applySerialConfig_retries nowMs config c ready)

structure Polling (c : ModbusComponent) : Prop where
  booked : Booked c
  retries : c.pollRetryCount ≤ c.masterSettings.maxRetryTimes

theorem polling_call (c : ModbusComponent) (x : ComponentCall) (polling : Polling c) :
    Polling (c.call x) := by
  refine ⟨booked_call c x polling.booked, ?_⟩
  by_cases loops : ∃ nowMs nowUs, x = .operation (.loop nowMs nowUs)
  · obtain ⟨nowMs, nowUs, rfl⟩ := loops
    exact loop_retries nowMs nowUs c polling.booked polling.retries
  · have kept := call_retries c x fun nowMs nowUs same => loops ⟨nowMs, nowUs, same⟩
    rcases kept with none | ⟨same, settings⟩
    · rw [none]
      exact UInt8.zero_le
    · rw [same, settings]
      exact polling.retries

theorem polling_run (calls : List ComponentCall) : Polling (run call idleMaster calls) :=
  invariant_run call Polling (fun _ _ => True) (fun c x polling _ => polling_call c x polling)
    idleMaster calls ⟨Booked.idle rfl rfl rfl, UInt8.zero_le⟩ fun _ _ => trivial

end ModbusComponent

/-- An operation that is not about the channels or the settings. -/
def WriteOperation.leavesSetup : WriteOperation → Bool
  | .upsertChannel _ | .removeChannel _ | .applyRs485SerialSettings _ _
  | .applyModbusMasterSettings _ _ => false
  | _ => true

/-- The component with the attempts that have ended and the completions that were published. -/
structure PollLog where
  component : ModbusComponent
  attempts : List (UInt8 × Bool)
  completions : List (ChannelConfig × Bool)

namespace PollLog
open ModbusComponent RoundRobin

def endedBy (c : ModbusComponent) : WriteOperation → List (UInt8 × Bool)
  | .loop nowMs nowUs => (c.attemptEnded nowMs nowUs).toList
  | _ => []

def publishedBy (c d : ModbusComponent) : List (ChannelConfig × Bool) :=
  if d.pollsCompleted = c.pollsCompleted then []
  else d.completedPoll.toList.map fun completion => (completion.channel, completion.success)

def step (l : PollLog) (x : { x : WriteOperation // x.leavesSetup = true }) : PollLog :=
  let component := l.component.call (.operation x.1)
  { component := component
    attempts := l.attempts ++ endedBy l.component x.1
    completions := l.completions ++ publishedBy l.component component }

/-- The channel of the `k`-th visit from here on. -/
def visited (c : ModbusComponent) (k : Nat) : ChannelConfig :=
  c.channels.getD ((c.pollTurn + k) % c.channels.length) {}

/-- The log begins with the failed attempts of the visit that is under way. -/
def start (c : ModbusComponent) : PollLog where
  component := c
  attempts := List.replicate c.pollRetryCount.toNat ((visited c 0).slot, false)
  completions := []

def CachedAsPublished (c d : ModbusComponent) : Prop :=
  d.pollsCompleted ≠ c.pollsCompleted → ∃ completion, d.completedPoll = some completion ∧
    (d.hasValidCache completion.channel.slot = true ↔ completion.success = true)

structure Rounds (c : ModbusComponent) (l : PollLog) (visits : List Visit) : Prop where
  polling : Polling l.component
  channels : l.component.channels = c.channels
  settings : l.component.masterSettings = c.masterSettings
  turn : l.component.pollTurn = (c.pollTurn + visits.length) % c.channels.length
  inTurn : InTurn c.masterSettings.maxRetryTimes.toNat (fun k => (visited c k).slot) (visited c)
    visits l.component.pollRetryCount.toNat l.attempts l.completions

theorem rounds_start (c : ModbusComponent) (polling : Polling c) : Rounds c (start c) [] := by
  refine ⟨polling, rfl, rfl, ?_, InTurn.start (UInt8.le_iff_toNat_le.mp polling.retries)⟩
  change c.pollTurn = c.pollTurn % c.channels.length
  unfold pollTurn
  split
  · exact (Nat.zero_mod _).symm
  · exact (Nat.mod_eq_of_lt (by omega)).symm

theorem operation_turn (c : ModbusComponent) (x : WriteOperation) (setup : x.leavesSetup = true)
    (calm : ∀ nowMs nowUs, x ≠ .loop nowMs nowUs) :
    SameTurn c (c.call (.operation x)) ∧ (c.call (.operation x)).channels = c.channels ∧
      (c.call (.operation x)).masterSettings = c.masterSettings ∧ endedBy c x = [] := by
  cases x with
  | loop nowMs nowUs => exact absurd rfl (calm nowMs nowUs)
  | upsertChannel | removeChannel | applyRs485SerialSettings | applyModbusMasterSettings =>
    cases setup
  | bus port => exact ⟨⟨rfl, rfl, rfl⟩, rfl, rfl, rfl⟩
  | takeRawCompletion | takePassiveFrame | takeCompletedPoll =>
    exact ⟨⟨rfl, rfl, rfl⟩, rfl, rfl, rfl⟩
  | writePoint slot registerIndex scalar =>
    simp only [call, WriteLedger.step]
    obtain refused | ⟨channel, request, -, -, -, -, -, queued⟩ :=
      writePoint_cases slot registerIndex scalar c
    · rw [refused]
      exact ⟨.refl c, rfl, rfl, rfl⟩
    · rw [queued]
      exact ⟨⟨rfl, rfl, rfl⟩, rfl, rfl, rfl⟩
  | queueRawRequest payload =>
    simp only [call, WriteLedger.step]
    obtain refused | queued := queueRawRequest_cases payload c
    · rw [refused]
      exact ⟨.refl c, rfl, rfl, rfl⟩
    · rw [queued]
      exact ⟨⟨rfl, rfl, rfl⟩, rfl, rfl, rfl⟩
  | queueRuleRawRequest payload =>
    simp only [call, WriteLedger.step, queueRuleRawRequest]
    obtain refused | queued := queueRawRequestInternal_cases payload .rule c
    · rw [refused]
      exact ⟨.refl c, rfl, rfl, rfl⟩
    · rw [queued]
      exact ⟨⟨rfl, rfl, rfl⟩, rfl, rfl, rfl⟩

theorem visited_turn (c : ModbusComponent) (l : PollLog) (visits : List Visit)
    (rounds : Rounds c l visits) (channel : ChannelConfig)
    (asked : l.component.channels[l.component.pollTurn]? = some channel) :
    visited c visits.length = channel := by
  rw [rounds.channels, rounds.turn] at asked
  rw [visited, List.getD_eq_getElem?_getD, asked, Option.getD_some]

section
variable {c : ModbusComponent} {l : PollLog} {visits : List Visit}
  {x : { x : WriteOperation // x.leavesSetup = true }} {success : Bool}

theorem rounds_aside (rounds : Rounds c l visits)
    (same : SameTurn l.component (l.component.call (.operation x.1)))
    (channels : (l.component.call (.operation x.1)).channels = l.component.channels)
    (settings : (l.component.call (.operation x.1)).masterSettings = l.component.masterSettings)
    (nothing : endedBy l.component x.1 = []) :
    Rounds c (l.step x) visits ∧ CachedAsPublished l.component (l.step x).component := by
  have polling := polling_call l.component (.operation x.1) rounds.polling
  refine ⟨⟨polling, channels.trans rounds.channels, settings.trans rounds.settings,
    same.turn.trans rounds.turn, ?_⟩, fun published => absurd same.polls published⟩
  have unpublished : publishedBy l.component (l.component.call (.operation x.1)) = [] :=
    if_pos same.polls
  rw [step, nothing, unpublished, List.append_nil, List.append_nil]
  dsimp only
  rw [same.retries]
  exact rounds.inTurn

theorem rounds_retried (rounds : Rounds c l visits)
    (channels : (l.component.call (.operation x.1)).channels = l.component.channels)
    (settings : (l.component.call (.operation x.1)).masterSettings = l.component.masterSettings)
    (ended : endedBy l.component x.1 = [((visited c visits.length).slot, false)])
    (more : l.component.pollRetryCount < l.component.masterSettings.maxRetryTimes)
    (polls : (l.component.call (.operation x.1)).pollsCompleted = l.component.pollsCompleted)
    (retries : (l.component.call (.operation x.1)).pollRetryCount =
      l.component.pollRetryCount + 1)
    (turn : (l.component.call (.operation x.1)).pollTurn = l.component.pollTurn) :
    Rounds c (l.step x) visits ∧ CachedAsPublished l.component (l.step x).component := by
  have polling := polling_call l.component (.operation x.1) rounds.polling
  rw [rounds.settings] at more
  have unpublished : publishedBy l.component (l.component.call (.operation x.1)) = [] :=
    if_pos polls
  refine ⟨⟨polling, channels.trans rounds.channels, settings.trans rounds.settings,
    turn.trans rounds.turn, ?_⟩, fun published => absurd polls published⟩
  rw [step, ended, unpublished, List.append_nil]
  dsimp only
  rw [retries, (succ_retries _ _ more).1]
  exact rounds.inTurn.retry (UInt8.lt_iff_toNat_lt.mp more)

theorem rounds_completed (rounds : Rounds c l visits)
    (channels : (l.component.call (.operation x.1)).channels = l.component.channels)
    (settings : (l.component.call (.operation x.1)).masterSettings = l.component.masterSettings)
    (ended : endedBy l.component x.1 = [((visited c visits.length).slot, success)])
    (last : success = false →
      ¬ l.component.pollRetryCount < l.component.masterSettings.maxRetryTimes)
    (published : publishedBy l.component (l.component.call (.operation x.1)) =
      [(visited c visits.length, success)])
    (retries : (l.component.call (.operation x.1)).pollRetryCount = 0)
    (advanced : (l.component.call (.operation x.1)).pollTurn =
      (l.component.pollTurn + 1) % l.component.channels.length) :
    ∃ v, Rounds c (l.step x) (visits ++ [v]) := by
  have polling := polling_call l.component (.operation x.1) rounds.polling
  have bound : success = false → l.component.pollRetryCount.toNat =
      c.masterSettings.maxRetryTimes.toNat := by
    intro failed
    have most := last failed
    rw [rounds.settings, UInt8.lt_iff_toNat_lt] at most
    have least := rounds.inTurn.waiting
    omega
  obtain ⟨v, -, next⟩ := rounds.inTurn.complete success bound
  refine ⟨v, polling, channels.trans rounds.channels, settings.trans rounds.settings, ?_, ?_⟩
  · change (l.component.call (.operation x.1)).pollTurn = _
    rw [advanced, rounds.turn, rounds.channels, List.length_append, List.length_singleton,
      Nat.mod_add_mod, Nat.add_assoc]
  · rw [step, ended, published]
    dsimp only
    rw [retries]
    exact next

end

theorem rounds_step (c : ModbusComponent) (l : PollLog) (visits : List Visit)
    (x : { x : WriteOperation // x.leavesSetup = true }) (rounds : Rounds c l visits) :
    (∃ visits, Rounds c (l.step x) visits) ∧ CachedAsPublished l.component (l.step x).component := by
  by_cases loops : ∃ nowMs nowUs, x.1 = .loop nowMs nowUs
  · obtain ⟨nowMs, nowUs, loops⟩ := loops
    have called : l.component.call (.operation x.1) = l.component.loop nowMs nowUs := by
      rw [loops]
      rfl
    have ends : endedBy l.component x.1 = (l.component.attemptEnded nowMs nowUs).toList := by
      rw [loops]
      rfl
    have turn := loop_turn nowMs nowUs l.component rounds.polling.booked
    obtain ⟨channels, settings⟩ := loop_settings nowMs nowUs l.component
    rw [← called] at turn channels settings
    cases ended : l.component.attemptEnded nowMs nowUs with
    | none =>
      rw [ended] at turn ends
      obtain ⟨next, cached⟩ := rounds_aside rounds turn channels settings ends
      exact ⟨⟨visits, next⟩, cached⟩
    | some attempt =>
      obtain ⟨slot, success⟩ := attempt
      rw [ended] at turn ends
      obtain ⟨channel, asked, own, taken, inside⟩ := turn
      have here := visited_turn c l visits rounds channel asked
      have ends : endedBy l.component x.1 = [((visited c visits.length).slot, success)] := by
        rw [ends, here, own]
        rfl
      cases taken with
      | retried failed more polls retries same =>
        rw [failed] at ends
        obtain ⟨next, cached⟩ :=
          rounds_retried rounds channels settings ends more polls retries same
        exact ⟨⟨visits, next⟩, cached⟩
      | completed last polls completion retries advanced cached =>
        obtain ⟨completion, completed, ofChannel, ofSuccess⟩ := completion
        have published : publishedBy l.component (l.component.call (.operation x.1)) =
            [(visited c visits.length, success)] := by
          have changed : (l.component.call (.operation x.1)).pollsCompleted ≠
              l.component.pollsCompleted := by omega
          rw [publishedBy, if_neg changed, completed, Option.toList_some, List.map_singleton,
            ofChannel, ofSuccess, here]
        obtain ⟨v, next⟩ :=
          rounds_completed rounds channels settings ends last published retries advanced
        refine ⟨⟨_, next⟩, fun _ => ⟨completion, completed, ?_⟩⟩
        change (l.component.call (.operation x.1)).hasValidCache _ = true ↔ _
        rw [hasValidCache, ofChannel, ofSuccess, cached, Bool.and_eq_true, decide_eq_true_eq, own]
        exact ⟨fun valid => valid.2, fun succeeded => ⟨inside succeeded, succeeded⟩⟩
  · obtain ⟨same, channels, settings, nothing⟩ := operation_turn l.component x.1 x.2
      fun nowMs nowUs loop => loops ⟨nowMs, nowUs, loop⟩
    obtain ⟨next, cached⟩ := rounds_aside rounds same channels settings nothing
    exact ⟨⟨visits, next⟩, cached⟩

end PollLog

open PollLog ModbusComponent

/-- From any component that calls lead to, with any operations that leave channels and settings
as they are, the channels are polled in turn: the attempts are those of bounded visits one after
the other, each visit is published once as it ended, and the cache is valid after it exactly if it
was a success. -/
theorem channels_polled_in_turn (before : List ComponentCall)
    (operations : List { x : WriteOperation // x.leavesSetup = true }) :
    let c := run ModbusComponent.call idleMaster before
    let l := run PollLog.step (PollLog.start c) operations
    (∃ visits, RoundRobin.InTurn c.masterSettings.maxRetryTimes.toNat
      (fun k => (PollLog.visited c k).slot) (PollLog.visited c) visits
      l.component.pollRetryCount.toNat l.attempts l.completions) ∧
    Always PollLog.step (fun l x => CachedAsPublished l.component (l.step x).component)
      (PollLog.start c) operations := by
  intro c l
  have start := rounds_start c (polling_run before)
  have along : Always PollLog.step (fun _ _ => True) (PollLog.start c) operations :=
    fun _ _ => trivial
  have keeps : ∀ (l : PollLog) x, (∃ visits, Rounds c l visits) → True →
      ∃ visits, Rounds c (l.step x) visits := by
    rintro l x ⟨visits, rounds⟩ -
    exact (rounds_step c l visits x rounds).1
  obtain ⟨visits, rounds⟩ := invariant_run PollLog.step (fun l => ∃ visits, Rounds c l visits)
    (fun _ _ => True) keeps (PollLog.start c) operations ⟨[], start⟩ along
  have always := invariant_steps PollLog.step (fun l => ∃ visits, Rounds c l visits)
    (fun _ _ => True) keeps (PollLog.start c) operations ⟨[], start⟩ along
  refine ⟨⟨visits, rounds.inTurn⟩, Always.mono PollLog.step ?_ always⟩
  rintro l x ⟨visits, rounds⟩
  exact (rounds_step c l visits x rounds).2

end Modbus
