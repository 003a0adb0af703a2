import MultibusGateway.Library.WrapClock
import MultibusGateway.Modbus.RtuCodec
import MultibusGateway.Rules.State
import MultibusGateway.Time.LocalTime

/-! Execution of rules from their stored frames: which conditions match, which action
an action frame asks for, and the evaluation of a channel condition sample by sample. -/

namespace Rules
open ByteString Modbus WrapClock

inductive ExecutableAction where
  | none | serverMessage | uploadData | rawRs485 | uploadAlarm | reboot | unsupported
  deriving DecidableEq, Inhabited

structure ActionPlan where
  action : ExecutableAction := .none
  delayMs : UInt32 := 0
  payload : Bytes := []
  thresholdReleaseEnabled : Bool := false
  deriving DecidableEq, Inhabited

def ruleFrame (frame : StoredFrame) (subtype : UInt8) : Bool :=
  frame.present && byteAt frame.bytes 0 == 0xf9 && byteAt frame.bytes 1 == 0x7d &&
    byteAt frame.bytes 3 == subtype

def matchesTimeCondition (frame : StoredFrame) (now : Time.LocalDateTime) : Bool :=
  if !ruleFrame frame 0x11 || frame.length != 11 then false
  else
    let mode := byteAt frame.bytes 4
    if mode > 1 || byteAt frame.bytes 9 > 23 || byteAt frame.bytes 10 > 59 then false
    else if now.hour != byteAt frame.bytes 9 || now.minute != byteAt frame.bytes 10 then false
    else
      let mask := readU32 frame.bytes 5
      if mode == 0 then
        if now.weekday < 1 || now.weekday > 7 then false
        else mask &&& (1 <<< (now.weekday - 1).toUInt32) != 0
      else if now.day < 1 || now.day > 31 then false
      else mask &&& (1 <<< (now.day - 1).toUInt32) != 0

def isDeviceRestartCondition (frame : StoredFrame) : Bool :=
  ruleFrame frame 0x16 && frame.length == 4

def allowedServerMessageByte (value : UInt8) : Bool :=
  (value ≥ 0x41 && value ≤ 0x5a) || (value ≥ 0x61 && value ≤ 0x7a) ||
    (value ≥ 0x30 && value ≤ 0x39) ||
    value == 0x2c || value == 0x2e || value == 0x20 || value == 0x21

def validServerMessage (payload : Bytes) : Bool :=
  !(payload.length < 2 || payload.length > 48) && payload.all allowedServerMessageByte

def storesMessage (frame : StoredFrame) (payload : Bytes) : Bool :=
  let expectedLength := byteAt frame.bytes 4
  expectedLength.toNat == payload.length && frame.length.toNat == 5 + expectedLength.toNat &&
    (frame.bytes.drop 5).take payload.length == payload

def matchesServerMessageCondition (frame : StoredFrame) (payload : Bytes) : Bool :=
  if !validServerMessage payload || !ruleFrame frame 0x14 || frame.length < 7 then false
  else storesMessage frame payload

def matchesRs485CommandCondition (frame : StoredFrame) (payload : Bytes) : Bool :=
  if payload.length < 2 || payload.length > 48 || !ruleFrame frame 0x13 || frame.length < 7 then
    false
  else storesMessage frame payload

def kMaxRuleTimeMs : UInt32 := 86400000

def actionOfKind (frame : StoredFrame) (actionKind : UInt8) (delayMs : UInt32) : ActionPlan :=
  let data := frame.bytes
  let unsupported : ActionPlan := { action := .unsupported, delayMs := delayMs }
  if actionKind == 0x01 && frame.length ≥ 10 then
    let messageLength := byteAt data 8
    if messageLength < 1 || messageLength > 48 ||
        frame.length.toNat != 9 + messageLength.toNat then unsupported
    else { action := .serverMessage, delayMs := delayMs,
           payload := (data.drop 9).take messageLength.toNat }
  else if actionKind == 0x03 && frame.length ≥ 11 then
    let messageLength := byteAt data 8
    if messageLength < 2 || messageLength > 48 ||
        frame.length.toNat != 9 + messageLength.toNat then unsupported
    else { action := .rawRs485, delayMs := delayMs,
           payload := (data.drop 9).take messageLength.toNat }
  else if actionKind == 0x04 && frame.length == 8 then
    { action := .uploadData, delayMs := delayMs }
  else if actionKind == 0x05 && frame.length == 9 then
    if byteAt data 8 > 0x01 then unsupported
    else { action := .uploadAlarm, delayMs := delayMs,
           thresholdReleaseEnabled := byteAt data 8 == 0x01 }
  else if actionKind == 0x06 && frame.length == 8 then
    { action := .reboot, delayMs := delayMs }
  else unsupported

def decodeExecutableAction (frame : StoredFrame) : ActionPlan :=
  let data := frame.bytes
  if !frame.present || frame.length < 4 || byteAt data 0 != 0xf9 || byteAt data 1 != 0x7d then {}
  else
    let actionKind := byteAt data 3 &&& 0x0f
    if actionKind == 0x00 then {}
    else if frame.length < 8 then { action := .unsupported }
    else
      let delayMs := readU32 data 4
      if delayMs > kMaxRuleTimeMs then { action := .unsupported, delayMs := delayMs }
      else actionOfKind frame actionKind delayMs

/-! Channel conditions. -/

inductive ChannelThresholdMode where
  | falseValue | trueValue | below | above | within | changeRecent | changeInterval
  deriving DecidableEq, Inhabited

namespace ChannelThresholdMode

def raw : ChannelThresholdMode → UInt8
  | falseValue => 0 | trueValue => 1 | below => 2 | above => 3 | within => 4
  | changeRecent => 6 | changeInterval => 7

/-- The modes that a condition frame may name; there is no mode 5. -/
def ofRaw (value : UInt8) : Option ChannelThresholdMode :=
  [falseValue, trueValue, below, above, within, changeRecent, changeInterval].find?
    fun mode => mode.raw == value

end ChannelThresholdMode

structure ChannelConditionPlan where
  channelId : UInt8 := 0
  continueMode : UInt8 := 0
  mode : ChannelThresholdMode := .falseValue
  continueTimeMs : UInt32 := 0
  lockTimeMs : UInt32 := 0
  minimum : Binary32 := ⟨0⟩
  maximum : Binary32 := ⟨0⟩
  changeIntervalMs : UInt32 := 0
  deriving DecidableEq, Inhabited

structure ChannelConditionRuntime where
  active : Bool := false
  firedForActive : Bool := false
  activeSinceMs : UInt32 := 0
  lockedUntilMs : UInt32 := 0
  havePrevious : Bool := false
  previousValue : Binary64 := ⟨0⟩
  previousAtMs : UInt32 := 0
  deriving DecidableEq, Inhabited

def readFloat32Le (p : Bytes) (k : Nat) : Binary32 := ⟨readU32 p k⟩

def decodeChannelCondition (frame : StoredFrame) : Option ChannelConditionPlan :=
  let data := frame.bytes
  if !ruleFrame frame 0x12 || frame.length != 22 then none
  else
    let channelId := byteAt data 4
    let modeByte := byteAt data 5
    let continueMode := (modeByte >>> 4) &&& 0x0f
    if channelId < 1 || channelId > 32 || continueMode > 1 then none
    else match ChannelThresholdMode.ofRaw (modeByte &&& 0x0f) with
      | none => none
      | some mode =>
        let base : ChannelConditionPlan :=
          { channelId := channelId, continueMode := continueMode, mode := mode,
            continueTimeMs := readU32 data 6, lockTimeMs := readU32 data 10 }
        let plan :=
          if mode = .changeInterval then
            { base with
                changeIntervalMs := readU32 data 14, maximum := readFloat32Le data 18 }
          else
            { base with minimum := readFloat32Le data 14, maximum := readFloat32Le data 18 }
        if plan.continueTimeMs > kMaxRuleTimeMs || plan.lockTimeMs > kMaxRuleTimeMs then none
        else if plan.changeIntervalMs > kMaxRuleTimeMs || !plan.minimum.isFinite ||
            !plan.maximum.isFinite then none
        else some plan

def scalarToDouble : DecodedScalar → Option Binary64
  | .boolean value => some (Binary64.ofInt (if value then 1 else 0))
  | .signedInteger value => some (Binary64.ofInt value.toInt)
  | .unsignedInteger value => some (Binary64.ofInt value.toNat)
  | .floatingPoint value => if !value.isFinite then none else some value

def thresholdPredicate (plan : ChannelConditionPlan) (scalar : DecodedScalar) : Bool :=
  match scalarToDouble scalar with
  | none => false
  | some value =>
    match plan.mode with
    | .falseValue => scalar == .boolean false
    | .trueValue => scalar == .boolean true
    | .below => value.lt plan.minimum.toBinary64
    | .above => plan.maximum.toBinary64.lt value
    | .within => plan.minimum.toBinary64.le value && value.le plan.maximum.toBinary64
    | .changeRecent | .changeInterval => false

def changeReached (plan : ChannelConditionPlan) (value previous : Binary64) : Bool :=
  plan.maximum.toBinary64.le (value.sub previous).abs

def locked (runtime : ChannelConditionRuntime) (nowMs : UInt32) : Bool :=
  !reached nowMs runtime.lockedUntilMs

/-- Outcome of one evaluation. `lockTest` records what the lockout test said, when the
evaluation got to it. -/
structure Evaluation where
  fired : Bool
  runtime : ChannelConditionRuntime
  lockTest : Option Bool := none

def evaluateChangeRecent (plan : ChannelConditionPlan) (value : Binary64) (nowMs : UInt32)
    (runtime : ChannelConditionRuntime) : Evaluation :=
  let lockTest := if runtime.havePrevious then some (locked runtime nowMs) else none
  let fire := runtime.havePrevious && !locked runtime nowMs &&
    changeReached plan value runtime.previousValue
  let noted := { runtime with previousValue := value, previousAtMs := nowMs, havePrevious := true }
  { fired := fire
    runtime := if fire then { noted with lockedUntilMs := nowMs + plan.lockTimeMs } else noted
    lockTest := lockTest }

def evaluateChangeInterval (plan : ChannelConditionPlan) (value : Binary64) (nowMs : UInt32)
    (runtime : ChannelConditionRuntime) : Evaluation :=
  let noted := { runtime with previousValue := value, previousAtMs := nowMs }
  if !runtime.havePrevious then
    { fired := false, runtime := { noted with havePrevious := true } }
  else if nowMs - runtime.previousAtMs < plan.changeIntervalMs then
    { fired := false, runtime := runtime }
  else
    let fire := !locked runtime nowMs && changeReached plan value runtime.previousValue
    { fired := fire
      runtime := if fire then { noted with lockedUntilMs := nowMs + plan.lockTimeMs } else noted
      lockTest := some (locked runtime nowMs) }

def activate (nowMs : UInt32) (runtime : ChannelConditionRuntime) : ChannelConditionRuntime :=
  if !runtime.active then
    { runtime with active := true, activeSinceMs := nowMs, firedForActive := false }
  else runtime

def evaluateThreshold (plan : ChannelConditionPlan) (scalar : DecodedScalar) (nowMs : UInt32)
    (runtime : ChannelConditionRuntime) : Evaluation :=
  let predicate := thresholdPredicate plan scalar
  let released := { runtime with active := false, firedForActive := false }
  let lockTest := some (locked runtime nowMs)
  if locked runtime nowMs then
    { fired := false, runtime := if !predicate then released else runtime, lockTest := lockTest }
  else if !predicate then
    if runtime.active && !runtime.firedForActive && plan.continueMode == 0 &&
        plan.continueTimeMs > 0 && nowMs - runtime.activeSinceMs < plan.continueTimeMs then
      { fired := true
        runtime := { released with lockedUntilMs := nowMs + plan.lockTimeMs }
        lockTest := lockTest }
    else { fired := false, runtime := released, lockTest := lockTest }
  else
    let runtime := activate nowMs runtime
    if runtime.firedForActive then { fired := false, runtime := runtime, lockTest := lockTest }
    else if plan.continueTimeMs == 0 ||
        (plan.continueMode == 1 && nowMs - runtime.activeSinceMs ≥ plan.continueTimeMs) then
      { fired := true
        runtime :=
          { runtime with firedForActive := true, lockedUntilMs := nowMs + plan.lockTimeMs }
        lockTest := lockTest }
    else { fired := false, runtime := runtime, lockTest := lockTest }

def evaluateChannelCondition (plan : ChannelConditionPlan) (scalar : DecodedScalar)
    (nowMs : UInt32) (runtime : ChannelConditionRuntime) : Evaluation :=
  match scalarToDouble scalar with
  | none => { fired := false, runtime := runtime }
  | some value =>
    match plan.mode with
    | .changeRecent => evaluateChangeRecent plan value nowMs runtime
    | .changeInterval => evaluateChangeInterval plan value nowMs runtime
    | _ => evaluateThreshold plan scalar nowMs runtime

/-- Compact key sufficient to suppress duplicate evaluation within one minute. -/
def localMinuteKey (now : Time.LocalDateTime) : UInt32 :=
  (UInt32.ofNat ((now.year - 2000) % 128).toNat <<< 25) |||
    ((now.month &&& 0x0f).toUInt32 <<< 21) ||| ((now.day &&& 0x1f).toUInt32 <<< 16) |||
    ((now.hour &&& 0x1f).toUInt32 <<< 11) ||| ((now.minute &&& 0x3f).toUInt32 <<< 5)

end Rules
