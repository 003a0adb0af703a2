import MultibusGateway.Library.WrapClock
import MultibusGateway.Modbus.RtuMaster

/-! The Modbus component: the configured channels with their cached values, the polling of
the channels in turn, queued writes and raw requests, and the frames seen on the bus. -/

namespace Modbus
open ByteString ModbusRtuMaster

inductive ModbusMode where
  | disabled | master | slave
  deriving DecidableEq, Inhabited

/-- A finished poll. `poll` is a ghost: the number of polls completed before it. -/
structure PollCompletion where
  channel : ChannelConfig := {}
  success : Bool := false
  values : List DecodedScalar := []
  status : RtuDecodeStatus := .truncated
  exceptionCode : UInt8 := 0
  completedAtMs : UInt32 := 0
  poll : Nat := 0
  deriving DecidableEq

inductive RawRequestOrigin where
  | passThrough | rule
  deriving DecidableEq, Inhabited

structure RawCompletion where
  origin : RawRequestOrigin := .passThrough
  success : Bool := false
  payload : Bytes := []
  completedAtMs : UInt32 := 0
  deriving DecidableEq

structure PassiveFrame where
  payload : Bytes := []
  completedAtMs : UInt32 := 0
  deriving DecidableEq

structure PendingRaw where
  origin : RawRequestOrigin := .passThrough
  queued : Bool := false
  payload : Bytes := []
  deriving DecidableEq

structure PendingWrite where
  queued : Bool := false
  channel : ChannelConfig := {}
  registerIndex : UInt8 := 0
  value : DecodedScalar := .unsignedInteger 0
  deriving DecidableEq

structure PollCache where
  valid : Bool := false
  values : List DecodedScalar := []
  updatedAtMs : UInt32 := 0
  lastStatus : RtuDecodeStatus := .truncated
  lastExceptionCode : UInt8 := 0
  deriving DecidableEq

/-- The state of the component. A pending completion, raw completion or passive frame is
`some` until it is taken. -/
structure ModbusComponent where
  mode : ModbusMode := .disabled
  active : Bool := false
  rs485Settings : Rs485SerialSettings := {}
  masterSettings : ModbusMasterSettings := {}
  serialConfig : RtuSerialConfig := {}
  rtuMaster : ModbusRtuMaster := {}
  channels : List ChannelConfig := []
  cache : Nat → PollCache := fun _ => {}
  pollChannelIndex : Nat := 0
  pollRetryCount : UInt8 := 0
  nextPollAtMs : UInt32 := 0
  completedPoll : Option PollCompletion := none
  pendingWrite : PendingWrite := {}
  activeWrite : PendingWrite := {}
  writeInFlight : Bool := false
  successfulWrites : UInt32 := 0
  failedWrites : UInt32 := 0
  pendingRaw : PendingRaw := {}
  activeRaw : PendingRaw := {}
  rawInFlight : Bool := false
  rawCompletion : Option RawCompletion := none
  passiveFrame : Option PassiveFrame := none
  pollsCompleted : Nat := 0

namespace ModbusComponent

def setCache (slot : UInt8) (cached : PollCache) (c : ModbusComponent) : ModbusComponent :=
  { c with cache := Function.update c.cache slot.toNat cached }

def clearPendingWrite (c : ModbusComponent) : ModbusComponent :=
  { c with
    pendingWrite := {}
    activeWrite := {}
    writeInFlight := false
    pendingRaw := {}
    activeRaw := {}
    rawInFlight := false
    rawCompletion := none
    passiveFrame := none }

/-- New serial parameters, taken over by the port when the master is running. -/
def applySerialConfig (nowMs : UInt32) (config : RtuSerialConfig) (c : ModbusComponent) :
    ModbusComponent × Bool :=
  let (rtuMaster, ready) :=
    if c.mode = .master && c.active then c.rtuMaster.reconfigure config else (c.rtuMaster, true)
  let c := { c with rtuMaster := rtuMaster }
  if !ready then (c, false)
  else
    ({ c.clearPendingWrite with
       serialConfig := config
       pollRetryCount := 0
       nextPollAtMs := nowMs }, true)

def applyRs485SerialSettings (nowMs : UInt32) (settings : Rs485SerialSettings)
    (c : ModbusComponent) : ModbusComponent × Bool :=
  match makeRtuSerialConfig settings c.masterSettings.maxResponseTimeMs.toUInt32 with
  | none => (c, false)
  | some config =>
    let (applied, ready) := c.applySerialConfig nowMs config
    if ready then ({ applied with rs485Settings := settings }, true) else (applied, false)

def applyModbusMasterSettings (nowMs : UInt32) (settings : ModbusMasterSettings)
    (c : ModbusComponent) : ModbusComponent × Bool :=
  if !runtimeSupportsModbusMasterSettings settings then (c, false)
  else match makeRtuSerialConfig c.rs485Settings settings.maxResponseTimeMs.toUInt32 with
    | none => (c, false)
    | some config =>
      let (applied, ready) := c.applySerialConfig nowMs config
      if ready then ({ applied with masterSettings := settings }, true) else (applied, false)

def channelForSlot (c : ModbusComponent) (slot : UInt8) : Option ChannelConfig :=
  c.channels.find? fun channel => channel.slot == slot

def cancelPendingTransaction (c : ModbusComponent) : ModbusComponent :=
  if c.rtuMaster.transactionActive then
    { c with rtuMaster := c.rtuMaster.cancelTransaction, pollRetryCount := 0 }
  else c

def replaceChannel (config : ChannelConfig) : List ChannelConfig → List ChannelConfig
  | [] => [config]
  | channel :: rest =>
    if channel.slot == config.slot then config :: rest else channel :: replaceChannel config rest

def upsertChannel (config : ChannelConfig) (c : ModbusComponent) : ModbusComponent × Bool :=
  if !validChannelConfig config then (c, false)
  else
    let c := c.cancelPendingTransaction.clearPendingWrite
    ({ c.setCache config.slot {} with channels := replaceChannel config c.channels }, true)

def removeChannel (slot : UInt8) (c : ModbusComponent) : ModbusComponent × Bool :=
  let c := c.cancelPendingTransaction.clearPendingWrite
  if c.channels.any fun channel => channel.slot == slot then
    let channels := c.channels.eraseP fun channel => channel.slot == slot
    ({ c.setCache slot {} with
       channels := channels
       completedPoll := c.completedPoll.filter fun poll => poll.channel.slot != slot
       pollChannelIndex := if c.pollChannelIndex ≥ channels.length then 0 else c.pollChannelIndex
       pollRetryCount := 0 }, true)
  else (c, false)

def advancePollChannel (c : ModbusComponent) : ModbusComponent :=
  if c.channels.isEmpty then { c with pollChannelIndex := 0 }
  else { c with pollChannelIndex := (c.pollChannelIndex + 1) % c.channels.length }

def publishPollCompletion (nowMs : UInt32) (channel : ChannelConfig)
    (values : Option (List DecodedScalar)) (c : ModbusComponent) : ModbusComponent :=
  { c with
    completedPoll := some
      { channel := channel
        success := values.isSome
        values := values.getD []
        status := if values.isSome then .ok else c.rtuMaster.lastStatus
        exceptionCode := if values.isSome then 0 else c.rtuMaster.lastExceptionCode
        completedAtMs := nowMs
        poll := c.pollsCompleted }
    pollsCompleted := c.pollsCompleted + 1 }

/-- The end of an attempt to poll a channel; `values` is `none` after a failure. -/
def finishPollAttempt (nowMs : UInt32) (channel : ChannelConfig)
    (values : Option (List DecodedScalar)) (c : ModbusComponent) : ModbusComponent :=
  let cached := c.cache channel.slot.toNat
  match values with
  | some read =>
    let c := c.setCache channel.slot
      { cached with
        valid := true
        values := read
        updatedAtMs := nowMs
        lastStatus := .ok
        lastExceptionCode := 0 }
    advancePollChannel { publishPollCompletion nowMs channel values c with pollRetryCount := 0 }
  | none =>
    let cached :=
      { cached with
        lastStatus := c.rtuMaster.lastStatus
        lastExceptionCode := c.rtuMaster.lastExceptionCode }
    if c.pollRetryCount < c.masterSettings.maxRetryTimes then
      { c.setCache channel.slot cached with pollRetryCount := c.pollRetryCount + 1 }
    else
      let c := c.setCache channel.slot { cached with valid := false, values := [] }
      advancePollChannel { publishPollCompletion nowMs channel none c with pollRetryCount := 0 }

def applySuccessfulWriteToCache (nowMs : UInt32) (write : PendingWrite) (c : ModbusComponent) :
    ModbusComponent :=
  if write.channel.slot ≥ kCompatibilitySlotCount || write.registerIndex ≥ 2 then c
  else
    let cached := c.cache write.channel.slot.toNat
    -- a full read back fills the cache again on the normal poll path
    if !cached.valid || cached.values.length != write.channel.quantity.toNat then
      c.setCache write.channel.slot { cached with valid := false, values := [] }
    else
      c.setCache write.channel.slot
        { cached with
          values := cached.values.set write.registerIndex.toNat write.value
          updatedAtMs := nowMs
          lastStatus := .ok
          lastExceptionCode := 0 }

def pollChannel (c : ModbusComponent) : ModbusComponent × Option ChannelConfig :=
  let index := if c.pollChannelIndex ≥ c.channels.length then 0 else c.pollChannelIndex
  ({ c with pollChannelIndex := index }, c.channels[index]?)

def pollRawTransaction (nowMs nowUs : UInt32) (c : ModbusComponent) : ModbusComponent :=
  let polled := c.rtuMaster.pollRaw nowMs nowUs kMaxFrameLength
  let c := { c with rtuMaster := polled.master }
  if polled.result = .pending then c
  else
    { c with
      rawCompletion := some
        { origin := c.activeRaw.origin
          success := polled.result = .success
          payload := if polled.result = .success then polled.data else []
          completedAtMs := nowMs }
      rawInFlight := false
      nextPollAtMs := nowMs }

def pollWriteTransaction (nowMs : UInt32) (c : ModbusComponent) : ModbusComponent :=
  let polled := c.rtuMaster.pollWrite nowMs
  let c := { c with rtuMaster := polled.master }
  if polled.result = .pending then c
  else
    let c :=
      if !c.writeInFlight then c
      else if polled.result = .success then
        { applySuccessfulWriteToCache nowMs c.activeWrite c with
          successfulWrites := c.successfulWrites + 1
          writeInFlight := false }
      else { c with failedWrites := c.failedWrites + 1, writeInFlight := false }
    { c with nextPollAtMs := nowMs }

def pollReadTransaction (nowMs : UInt32) (c : ModbusComponent) : ModbusComponent :=
  let polled := c.rtuMaster.pollRead nowMs
  let c := { c with rtuMaster := polled.master }
  let next := nowMs + c.masterSettings.executionIntervalMs.toUInt32
  match polled.result with
  | .pending => c
  | .idle => { c with pollRetryCount := 0, nextPollAtMs := next }
  | result =>
    match c.pollChannel with
    | (_, none) => c
    | (c, some channel) =>
      { finishPollAttempt nowMs channel (if result = .success then some polled.data else none) c with
        nextPollAtMs := next }

def startTransaction (nowMs : UInt32) (c : ModbusComponent) : ModbusComponent :=
  if c.pendingRaw.queued then
    let raw := c.pendingRaw
    let (rtuMaster, sent) := c.rtuMaster.startRaw nowMs raw.payload
    let c := { c with
      rtuMaster := rtuMaster
      activeRaw := raw
      pendingRaw := { raw with queued := false }
      rawInFlight := sent }
    if sent then c
    else { c with rawCompletion := some { origin := raw.origin, completedAtMs := nowMs } }
  else if c.masterSettings.passThroughMode = .twoWay then c
  else if c.pendingWrite.queued then
    let write := c.pendingWrite
    let (rtuMaster, sent) :=
      c.rtuMaster.startWrite nowMs write.channel write.registerIndex write.value
    let c := { c with
      rtuMaster := rtuMaster
      activeWrite := write
      pendingWrite := { write with queued := false }
      writeInFlight := sent }
    if sent then c else { c with failedWrites := c.failedWrites + 1, nextPollAtMs := nowMs }
  else if c.channels.isEmpty then c
  else if !WrapClock.reached nowMs c.nextPollAtMs then c
  else match c.pollChannel with
    | (_, none) => c
    | (c, some channel) =>
      let (rtuMaster, sent) := c.rtuMaster.startRead nowMs channel
      let c := { c with rtuMaster := rtuMaster }
      if sent then c
      else { finishPollAttempt nowMs channel none c with
        nextPollAtMs := nowMs + c.masterSettings.executionIntervalMs.toUInt32 }

def loop (nowMs nowUs : UInt32) (c : ModbusComponent) : ModbusComponent :=
  if c.mode ≠ .master || !c.active then c
  else if c.rtuMaster.transactionActive then
    match c.rtuMaster.transactionKind with
    | .raw => pollRawTransaction nowMs nowUs c
    | .write => pollWriteTransaction nowMs c
    | _ => pollReadTransaction nowMs c
  else
    let (rtuMaster, result, frame) := c.rtuMaster.pollPassiveFrame nowUs kMaxFrameLength
    let c := { c with rtuMaster := rtuMaster }
    match result with
    | .frameReady =>
      { c with passiveFrame := some { payload := frame, completedAtMs := nowMs },
               nextPollAtMs := nowMs }
    | .overflow => { c with nextPollAtMs := nowMs }
    | .pending => c
    | .idle => if c.rtuMaster.passiveCollector.pending then c else startTransaction nowMs c

def queueRawRequestInternal (payload : Bytes) (origin : RawRequestOrigin) (c : ModbusComponent) :
    ModbusComponent × Bool :=
  if c.mode ≠ .master || !c.active || payload.length = 0 || payload.length > kMaxFrameLength ||
      c.pendingRaw.queued || c.rawInFlight then (c, false)
  else ({ c with pendingRaw := { origin := origin, queued := true, payload := payload } }, true)

def queueRawRequest (payload : Bytes) (c : ModbusComponent) : ModbusComponent × Bool :=
  if c.masterSettings.passThroughMode = .disabled then (c, false)
  else c.queueRawRequestInternal payload .passThrough

def queueRuleRawRequest (payload : Bytes) (c : ModbusComponent) : ModbusComponent × Bool :=
  c.queueRawRequestInternal payload .rule

def takeRawCompletion (c : ModbusComponent) : ModbusComponent × Option RawCompletion :=
  ({ c with rawCompletion := none }, c.rawCompletion)

def takePassiveFrame (c : ModbusComponent) : ModbusComponent × Option PassiveFrame :=
  ({ c with passiveFrame := none }, c.passiveFrame)

def takeCompletedPoll (c : ModbusComponent) : ModbusComponent × Option PollCompletion :=
  ({ c with completedPoll := none }, c.completedPoll)

/-- A write of a point of a channel, queued when its request can be built. -/
def writePoint (slot registerIndex : UInt8) (scalar : DecodedScalar) (c : ModbusComponent) :
    ModbusComponent × Bool :=
  if c.mode ≠ .master || !c.active || c.masterSettings.passThroughMode = .twoWay ||
      c.pendingWrite.queued || c.writeInFlight then (c, false)
  else match c.channelForSlot slot with
    | none => (c, false)
    | some channel =>
      if registerIndex ≥ channel.quantity || !writableType channel.dataType then (c, false)
      else match buildWriteRequest channel registerIndex scalar 17 with
        | .error _ => (c, false)
        | .ok _ =>
          ({ c with pendingWrite :=
            { queued := true, channel := channel, registerIndex := registerIndex,
              value := scalar } }, true)

/-! What the calls of others can do. -/

theorem applySerialConfig_cases (nowMs : UInt32) (config : RtuSerialConfig)
    (c : ModbusComponent) :
    ∃ rtuMaster, (¬ (c.mode = .master ∧ c.active = true) ∧ rtuMaster = c.rtuMaster ∨
        rtuMaster = (c.rtuMaster.reconfigure config).1) ∧
      (c.applySerialConfig nowMs config = ({ c with rtuMaster := rtuMaster }, false) ∨
        c.applySerialConfig nowMs config =
          ({ ({ c with rtuMaster := rtuMaster } : ModbusComponent).clearPendingWrite with
             serialConfig := config
             pollRetryCount := 0
             nextPollAtMs := nowMs }, true)) := by
  unfold applySerialConfig
  cases running : decide (c.mode = .master) && c.active with
  | false => exact ⟨c.rtuMaster, .inl ⟨by simpa using running, rfl⟩, .inr rfl⟩
  | true =>
    refine ⟨(c.rtuMaster.reconfigure config).1, .inr rfl, ?_⟩
    rw [if_pos rfl]
    dsimp only
    split
    · exact .inl rfl
    · exact .inr rfl

/-- A write is refused, or it waits with a channel that takes it. -/
theorem writePoint_cases (slot registerIndex : UInt8) (scalar : DecodedScalar)
    (c : ModbusComponent) :
    c.writePoint slot registerIndex scalar = (c, false) ∨
    ∃ channel request, c.pendingWrite.queued = false ∧ c.writeInFlight = false ∧
      c.channelForSlot slot = some channel ∧ writableType channel.dataType = true ∧
      buildWriteRequest channel registerIndex scalar 17 = .ok request ∧
      c.writePoint slot registerIndex scalar = ({ c with pendingWrite :=
        { queued := true, channel := channel, registerIndex := registerIndex,
          value := scalar } }, true) := by
  unfold writePoint
  split
  · exact .inl rfl
  · rename_i free
    simp only [Bool.or_eq_true, not_or, Bool.not_eq_true] at free
    cases looked : c.channelForSlot slot with
    | none => exact .inl rfl
    | some channel =>
      dsimp only
      split
      · exact .inl rfl
      · rename_i register
        simp only [Bool.or_eq_true, not_or, Bool.not_eq_true', Bool.not_eq_false] at register
        cases built : buildWriteRequest channel registerIndex scalar 17 with
        | error status => exact .inl rfl
        | ok request => exact .inr ⟨channel, request, free.1.2, free.2, rfl, register.2, built, rfl⟩

theorem queueRawRequestInternal_cases (payload : Bytes) (origin : RawRequestOrigin)
    (c : ModbusComponent) :
    c.queueRawRequestInternal payload origin = (c, false) ∨
    c.queueRawRequestInternal payload origin =
      ({ c with pendingRaw := { origin := origin, queued := true, payload := payload } }, true) := by
  unfold queueRawRequestInternal
  split
  · exact .inl rfl
  · exact .inr rfl

theorem queueRawRequest_cases (payload : Bytes) (c : ModbusComponent) :
    c.queueRawRequest payload = (c, false) ∨
    c.queueRawRequest payload =
      ({ c with pendingRaw := { origin := .passThrough, queued := true, payload := payload } },
        true) := by
  unfold queueRawRequest
  split
  · exact .inl rfl
  · exact queueRawRequestInternal_cases payload .passThrough c

/-! What the polls change. -/

theorem finishPollAttempt_changes (nowMs : UInt32) (channel : ChannelConfig)
    (values : Option (List DecodedScalar)) (c : ModbusComponent) :
    ∃ cache pollChannelIndex pollRetryCount completedPoll pollsCompleted,
      finishPollAttempt nowMs channel values c =
        { c with cache, pollChannelIndex, pollRetryCount, completedPoll, pollsCompleted } := by
  unfold finishPollAttempt advancePollChannel
  cases values with
  | some read =>
    dsimp only
    split <;> exact ⟨_, _, _, _, _, rfl⟩
  | none =>
    dsimp only
    split
    · exact ⟨_, _, _, _, _, rfl⟩
    · split <;> exact ⟨_, _, _, _, _, rfl⟩

theorem applySuccessfulWriteToCache_changes (nowMs : UInt32) (write : PendingWrite)
    (c : ModbusComponent) : ∃ cache, applySuccessfulWriteToCache nowMs write c = { c with cache } := by
  unfold applySuccessfulWriteToCache
  dsimp only
  split
  · exact ⟨c.cache, rfl⟩
  · split <;> exact ⟨_, rfl⟩

theorem pollRawTransaction_changes (nowMs nowUs : UInt32) (c : ModbusComponent) :
    ∃ rawCompletion rawInFlight nextPollAtMs, pollRawTransaction nowMs nowUs c =
      { c with
        rtuMaster := (c.rtuMaster.pollRaw nowMs nowUs kMaxFrameLength).master
        rawCompletion, rawInFlight, nextPollAtMs } := by
  unfold pollRawTransaction
  dsimp only
  split
  · exact ⟨c.rawCompletion, c.rawInFlight, c.nextPollAtMs, rfl⟩
  · exact ⟨_, _, _, rfl⟩

theorem pollWriteTransaction_changes (nowMs : UInt32) (c : ModbusComponent) :
    ∃ cache successfulWrites failedWrites writeInFlight nextPollAtMs, pollWriteTransaction nowMs c =
      { c with
        rtuMaster := (c.rtuMaster.pollWrite nowMs).master
        cache, successfulWrites, failedWrites, writeInFlight, nextPollAtMs } := by
  obtain ⟨cache, applied⟩ := applySuccessfulWriteToCache_changes nowMs c.activeWrite
    { c with rtuMaster := (c.rtuMaster.pollWrite nowMs).master }
  unfold pollWriteTransaction
  dsimp only
  rw [applied]
  split
  · exact ⟨c.cache, c.successfulWrites, c.failedWrites, c.writeInFlight, c.nextPollAtMs, rfl⟩
  · split
    · exact ⟨c.cache, c.successfulWrites, c.failedWrites, c.writeInFlight, nowMs, rfl⟩
    · split
      · exact ⟨cache, _, c.failedWrites, _, nowMs, rfl⟩
      · exact ⟨c.cache, c.successfulWrites, _, _, nowMs, rfl⟩

theorem pollReadTransaction_changes (nowMs : UInt32) (c : ModbusComponent) :
    ∃ cache pollChannelIndex pollRetryCount completedPoll pollsCompleted nextPollAtMs,
      pollReadTransaction nowMs c =
        { c with
          rtuMaster := (c.rtuMaster.pollRead nowMs).master
          cache, pollChannelIndex, pollRetryCount, completedPoll, pollsCompleted,
          nextPollAtMs } := by
  unfold pollReadTransaction
  dsimp only
  split
  · exact ⟨c.cache, c.pollChannelIndex, c.pollRetryCount, c.completedPoll, c.pollsCompleted,
      c.nextPollAtMs, rfl⟩
  · exact ⟨c.cache, c.pollChannelIndex, 0, c.completedPoll, c.pollsCompleted, _, rfl⟩
  · split
    · exact ⟨c.cache, c.pollChannelIndex, c.pollRetryCount, c.completedPoll, c.pollsCompleted,
        c.nextPollAtMs, rfl⟩
    · rename_i polled channel turn
      obtain ⟨rfl, -⟩ := Prod.mk.inj turn
      obtain ⟨cache, index, retries, completed, polls, finished⟩ := finishPollAttempt_changes nowMs
        channel (if (c.rtuMaster.pollRead nowMs).result = .success
          then some (c.rtuMaster.pollRead nowMs).data else none)
        { c with
          rtuMaster := (c.rtuMaster.pollRead nowMs).master
          pollChannelIndex := if c.pollChannelIndex ≥ c.channels.length then 0
            else c.pollChannelIndex }
      exact ⟨cache, index, retries, completed, polls, _, congrArg
        (fun d : ModbusComponent =>
          { d with nextPollAtMs := nowMs + c.masterSettings.executionIntervalMs.toUInt32 })
        finished⟩

end ModbusComponent

end Modbus
