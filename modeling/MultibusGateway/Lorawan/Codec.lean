import MultibusGateway.Modbus.Channel
import MultibusGateway.Modbus.Settings
import MultibusGateway.Rules.State
import MultibusGateway.Time.LocalTime

/-! The FPort 85 downlink commands and their decoders. A decoder gives the command with
the number of bytes it consumed, or the reason for refusing the payload. -/

namespace Lorawan
open ByteString Modbus

def kCompatibilityFPort : UInt8 := 85

inductive DecodeStatus where
  | truncated | unsupported | invalid
  deriving DecidableEq, Inhabited

inductive EncodeStatus where
  | invalid | bufferTooSmall
  deriving DecidableEq, Inhabited

abbrev Decoded (α : Type) := Except DecodeStatus (α × Nat)

inductive ModbusChannelOperation where
  | upsert | remove | setName
  deriving DecidableEq, Inhabited

structure ModbusChannelCommand where
  operation : ModbusChannelOperation := .upsert
  channel : ChannelConfig := {}
  deriving DecidableEq

inductive BasicControlCommand where
  | rejoin | reboot
  deriving DecidableEq, Inhabited

inductive HistoryQueryKind where
  | timePoint | timeRange | stop
  deriving DecidableEq, Inhabited

structure HistoryQueryCommand where
  kind : HistoryQueryKind := .timePoint
  startUnix : UInt32 := 0
  endUnix : UInt32 := 0
  deriving DecidableEq, Inhabited

inductive Rs485SettingsEnquiryKind where
  | serial | modbus
  deriving DecidableEq, Inhabited

def Rs485SettingsEnquiryKind.raw : Rs485SettingsEnquiryKind → UInt8
  | serial => 0x00 | modbus => 0x01

inductive RuleStatusOperation where
  | enable | disable | delete
  deriving DecidableEq, Inhabited

structure RuleStatusCommand where
  ruleMask : UInt16 := 0
  operation : RuleStatusOperation := .enable
  deriving DecidableEq, Inhabited

structure RuleConfigurationCommand where
  ruleId : UInt8 := 0
  enabled : Bool := false
  slot : Rules.RuleFrameSlot := .condition
  subtype : UInt8 := 0
  frame : Bytes := []
  deriving DecidableEq, Inhabited

def kSystemChannel : UInt8 := 0xff
def kModbusChannel : UInt8 := 0xf9
def kReportIntervalType : UInt8 := 0x03
def kRejoinType : UInt8 := 0x04
def kRebootType : UInt8 := 0x10
def kPeriodicReportEnquiryType : UInt8 := 0x28
def kUtcTimezoneType : UInt8 := 0xbd
def kLnsTimeSyncType : UInt8 := 0x4a
def kDstSettingsType : UInt8 := 0x72
def kDataStorageType : UInt8 := 0x68
def kDataRetransmissionType : UInt8 := 0x69
def kRetransmissionIntervalType : UInt8 := 0x0d
def kRetrievabilityIntervalType : UInt8 := 0x0e
def kHistoryQueryChannel : UInt8 := 0xfd
def kHistoryReplyChannel : UInt8 := 0xfc
def kHistoryPointType : UInt8 := 0x6b
def kHistoryRangeType : UInt8 := 0x6c
def kHistoryStopType : UInt8 := 0x6d
def kRs485ConfigType : UInt8 := 0x78
def kModbusGlobalConfigType : UInt8 := 0x79
def kRs485SettingsEnquiryType : UInt8 := 0x7a
def kRuleStatusType : UInt8 := 0x76
def kRuleEnquiryType : UInt8 := 0x77
def kRuleConfigurationType : UInt8 := 0x7d
def kModbusChannelConfigType : UInt8 := 0xef
def kModbusChannelDataType : UInt8 := 0x73
def kCollectionExceptionType : UInt8 := 0x15

/-- Whether the payload starts with the given channel and type bytes. -/
def hasHeader (p : Bytes) (channelId type : UInt8) : Bool :=
  byteAt p 0 == channelId && byteAt p 1 == type

def decodeBasicControlCommand (p : Bytes) : Decoded BasicControlCommand :=
  if p.length < 3 then .error .truncated
  else if byteAt p 0 != kSystemChannel then .error .unsupported
  else if byteAt p 2 != 0xff then .error .invalid
  else if byteAt p 1 == kRejoinType then .ok (.rejoin, 3)
  else if byteAt p 1 == kRebootType then .ok (.reboot, 3)
  else .error .unsupported

def decodePeriodicReportEnquiryCommand (p : Bytes) : Decoded Unit :=
  if p.length < 3 then .error .truncated
  else if !hasHeader p kSystemChannel kPeriodicReportEnquiryType then .error .unsupported
  else if byteAt p 2 != 0xff then .error .invalid
  else .ok ((), 3)

def decodeUtcTimezoneCommand (p : Bytes) : Decoded Int16 :=
  if p.length < 4 then .error .truncated
  else if !hasHeader p kSystemChannel kUtcTimezoneType then .error .unsupported
  else
    let minutes := (readU16 p 2).toInt16
    if minutes < -720 || minutes > 840 then .error .invalid
    else .ok (minutes, 4)

def decodeLnsTimeSyncCommand (p : Bytes) : Decoded Unit :=
  if p.length < 3 then .error .truncated
  else if !hasHeader p kSystemChannel kLnsTimeSyncType then .error .unsupported
  else if byteAt p 2 != 0x00 then .error .invalid
  else .ok ((), 3)

def decodeDstSettingsCommand (p : Bytes) : Decoded Time.DstSettings :=
  if p.length < 11 then .error .truncated
  else if !hasHeader p kModbusChannel kDstSettingsType then .error .unsupported
  else
    let command : Time.DstSettings :=
      { enabled := byteAt p 2 &&& 0x80 != 0
        biasMinutes := byteAt p 2 &&& 0x7f
        start :=
          { month := byteAt p 3
            week := (byteAt p 4 >>> 4) &&& 0x0f
            weekday := byteAt p 4 &&& 0x0f
            minuteOfDay := readU16 p 5 }
        finish :=
          { month := byteAt p 7
            week := (byteAt p 8 >>> 4) &&& 0x0f
            weekday := byteAt p 8 &&& 0x0f
            minuteOfDay := readU16 p 9 } }
    if command.biasMinutes > 120 then .error .invalid
    else if command.enabled && (command.biasMinutes == 0 ||
        !Time.validDstTransition command.start || !Time.validDstTransition command.finish) then
      .error .invalid
    else .ok (command, 11)

/-- The toggles of data storage and of data retransmission. -/
def decodeHistoryToggleCommand (expectedType : UInt8) (p : Bytes) : Decoded Bool :=
  if p.length < 3 then .error .truncated
  else if !hasHeader p kSystemChannel expectedType then .error .unsupported
  else if expectedType != kDataStorageType && expectedType != kDataRetransmissionType then
    .error .unsupported
  else if byteAt p 2 > 0x01 then .error .invalid
  else .ok (byteAt p 2 == 0x01, 3)

def decodeIntervalCommand (type : UInt8) (p : Bytes) : Decoded UInt16 :=
  if p.length < 4 then .error .truncated
  else if !hasHeader p kModbusChannel type then .error .unsupported
  else
    let seconds := readU16 p 2
    if seconds < 30 || seconds > 1200 then .error .invalid
    else .ok (seconds, 4)

def decodeRetransmissionIntervalCommand (p : Bytes) : Decoded UInt16 :=
  decodeIntervalCommand kRetransmissionIntervalType p

def decodeRetrievabilityIntervalCommand (p : Bytes) : Decoded UInt16 :=
  decodeIntervalCommand kRetrievabilityIntervalType p

def decodeHistoryQueryCommand (p : Bytes) : Decoded HistoryQueryCommand :=
  if p.length < 3 then .error .truncated
  else if byteAt p 0 != kHistoryQueryChannel then .error .unsupported
  else if byteAt p 1 == kHistoryPointType then
    if p.length < 6 then .error .truncated
    else .ok ({ kind := .timePoint, startUnix := readU32 p 2 }, 6)
  else if byteAt p 1 == kHistoryRangeType then
    if p.length < 10 then .error .truncated
    else .ok ({ kind := .timeRange, startUnix := readU32 p 2, endUnix := readU32 p 6 }, 10)
  else if byteAt p 1 == kHistoryStopType then
    if byteAt p 2 != 0xff then .error .invalid
    else .ok ({ kind := .stop }, 3)
  else .error .unsupported

def decodeRuleStatusCommand (p : Bytes) : Decoded RuleStatusCommand :=
  if p.length < 5 then .error .truncated
  else if !hasHeader p kModbusChannel kRuleStatusType then .error .unsupported
  else
    let mask := readU16 p 2
    if mask == 0 then .error .invalid
    else if byteAt p 4 == 0x01 then .ok ({ ruleMask := mask, operation := .enable }, 5)
    else if byteAt p 4 == 0x02 then .ok ({ ruleMask := mask, operation := .disable }, 5)
    else if byteAt p 4 == 0x03 then .ok ({ ruleMask := mask, operation := .delete }, 5)
    else .error .invalid

def decodeRuleEnquiryCommand (p : Bytes) : Decoded UInt8 :=
  if p.length < 3 then .error .truncated
  else if !hasHeader p kModbusChannel kRuleEnquiryType then .error .unsupported
  else if byteAt p 2 < 1 || byteAt p 2 > 16 then .error .invalid
  else .ok (byteAt p 2, 3)

/-- Content length of a condition frame of subtypes `0x11` to `0x16`. -/
def conditionLength (p : Bytes) : Except DecodeStatus Nat :=
  let subtype := byteAt p 3
  if subtype == 0x11 then
    if p.length < 11 then .error .truncated
    else if byteAt p 4 > 0x01 || byteAt p 9 > 23 || byteAt p 10 > 59 then .error .invalid
    else .ok 9
  else if subtype == 0x12 then
    if p.length < 22 then .error .truncated
    else if byteAt p 4 < 1 || byteAt p 4 > 32 then .error .invalid
    else if byteAt p 5 &&& 0x0f > 0x07 || (byteAt p 5 >>> 4) &&& 0x0f > 0x01 then .error .invalid
    else .ok 20
  else if subtype == 0x13 || subtype == 0x14 then
    if p.length < 5 then .error .truncated
    else
      let messageLength := byteAt p 4
      if messageLength < 2 || messageLength > 48 then .error .invalid
      else if p.length < 5 + messageLength.toNat then .error .truncated
      else .ok (3 + messageLength.toNat)
  -- proprietary device-to-device condition
  else if subtype == 0x15 then .error .unsupported
  else .ok 2

def actionLength (p : Bytes) : Except DecodeStatus Nat :=
  let actionKind := byteAt p 3 &&& 0x0f
  let message (least : UInt8) : Except DecodeStatus Nat :=
    if p.length < 9 then .error .truncated
    else
      let messageLength := byteAt p 8
      if messageLength < least || messageLength > 48 then .error .invalid
      else .ok (7 + messageLength.toNat)
  if actionKind == 0x00 then .ok 2
  else if actionKind == 0x01 then message 1
  -- proprietary device-to-device action
  else if actionKind == 0x02 then .error .unsupported
  else if actionKind == 0x03 then message 2
  else if actionKind == 0x04 || actionKind == 0x06 then .ok 6
  else if actionKind == 0x05 then .ok 7
  else .error .unsupported

def actionShape (p : Bytes) (slot : Rules.RuleFrameSlot) :
    Except DecodeStatus (Rules.RuleFrameSlot × Nat) :=
  match actionLength p with
  | .error status => .error status
  | .ok contentLength =>
    if p.length < 2 + contentLength then .error .truncated else .ok (slot, contentLength)

def ruleFrameShape (p : Bytes) : Except DecodeStatus (Rules.RuleFrameSlot × Nat) :=
  let subtype := byteAt p 3
  if subtype ≥ 0x11 && subtype ≤ 0x16 then
    match conditionLength p with
    | .error status => .error status
    | .ok contentLength => .ok (.condition, contentLength)
  else if subtype &&& 0xf0 == 0x90 then actionShape p .action1
  else if subtype &&& 0xf0 == 0xa0 then actionShape p .action2
  else if subtype &&& 0xf0 == 0xb0 then actionShape p .action3
  else .error .unsupported

def decodeRuleConfigurationCommand (p : Bytes) : Decoded RuleConfigurationCommand :=
  if p.length < 4 then .error .truncated
  else if !hasHeader p kModbusChannel kRuleConfigurationType then .error .unsupported
  else
    let ruleField := byteAt p 2
    let ruleId := ruleField &&& 0x7f
    if ruleId < 1 || ruleId > 16 then .error .invalid
    else match ruleFrameShape p with
      | .error status => .error status
      | .ok (slot, contentLength) =>
        if contentLength == 0 || contentLength > 55 || p.length < 2 + contentLength then
          .error .invalid
        else .ok
          ({ ruleId := ruleId
             enabled := ruleField &&& 0x80 != 0
             slot := slot
             subtype := byteAt p 3
             frame := p.take (2 + contentLength) }, 2 + contentLength)

def decodeRs485SettingsCommand (p : Bytes) : Decoded Rs485SerialSettings :=
  if p.length < 9 then .error .truncated
  else if !hasHeader p kModbusChannel kRs485ConfigType then .error .unsupported
  else match Rs485StopBits.ofRaw (byteAt p 7), Rs485Parity.ofRaw (byteAt p 8) with
    | some stopBits, some parity =>
      let settings : Rs485SerialSettings :=
        { baudRate := readU32 p 2, dataBits := byteAt p 6, stopBits := stopBits, parity := parity }
      if !validRs485SerialSettings settings then .error .invalid else .ok (settings, 9)
    | _, _ => .error .invalid

def decodeModbusMasterSettingsCommand (p : Bytes) : Decoded ModbusMasterSettings :=
  if p.length < 9 then .error .truncated
  else if !hasHeader p kModbusChannel kModbusGlobalConfigType then .error .unsupported
  else match PassThroughMode.ofRaw (byteAt p 7) with
    | some passThroughMode =>
      let settings : ModbusMasterSettings :=
        { executionIntervalMs := readU16 p 2, maxResponseTimeMs := readU16 p 4,
          maxRetryTimes := byteAt p 6, passThroughMode := passThroughMode,
          passThroughPort := byteAt p 8 }
      if !validModbusMasterSettings settings then .error .invalid else .ok (settings, 9)
    | none => .error .invalid

def decodeRs485SettingsEnquiryCommand (p : Bytes) : Decoded Rs485SettingsEnquiryKind :=
  if p.length < 3 then .error .truncated
  else if !hasHeader p kModbusChannel kRs485SettingsEnquiryType then .error .unsupported
  else if byteAt p 2 == 0x00 then .ok (.serial, 3)
  else if byteAt p 2 == 0x01 then .ok (.modbus, 3)
  else .error .invalid

def downlinkChannelIdToSlot (channelId : UInt8) : Option UInt8 :=
  if channelId < 1 || channelId > kCompatibilitySlotCount then none else some (channelId - 1)

def decodeModbusChannelUpsert (p : Bytes) : Decoded ModbusChannelCommand :=
  if p.length < 9 then .error .truncated
  else match downlinkChannelIdToSlot (byteAt p 3) with
    | none => .error .invalid
    | some slot =>
      if byteAt p 4 == 0 || byteAt p 4 > 247 then .error .invalid
      else match WireDataType.ofRaw (byteAt p 7) with
        | none => .error .invalid
        | some dataType =>
          let quantityAndSign := byteAt p 8
          let quantity := quantityAndSign &&& 0x0f
          if quantityAndSign &&& 0xe0 != 0 then .error .invalid
          else if quantity < 1 || quantity > 2 then .error .invalid
          else
            let channel : ChannelConfig :=
              { slot := slot, slaveId := byteAt p 4, address := readU16 p 5, dataType := dataType,
                quantity := quantity, signedValue := quantityAndSign &&& 0x10 != 0 }
            if validChannelConfig channel then
              .ok ({ operation := .upsert, channel := channel }, 9)
            else .error .invalid

def decodeModbusChannelRemove (p : Bytes) : Decoded ModbusChannelCommand :=
  if p.length < 4 then .error .truncated
  else match downlinkChannelIdToSlot (byteAt p 3) with
    | none => .error .invalid
    | some slot => .ok ({ operation := .remove, channel := { slot := slot } }, 4)

def decodeModbusChannelSetName (p : Bytes) : Decoded ModbusChannelCommand :=
  if p.length < 5 then .error .truncated
  else match downlinkChannelIdToSlot (byteAt p 3) with
    | none => .error .invalid
    | some slot =>
      let nameLength := (byteAt p 4).toNat
      if nameLength == 0 || nameLength > kMaxChannelNameLength then .error .invalid
      else if p.length < 5 + nameLength then .error .truncated
      else match setChannelName { slot := slot } ((p.drop 5).take nameLength) with
        | none => .error .invalid
        | some channel => .ok ({ operation := .setName, channel := channel }, 5 + nameLength)

def decodeModbusChannelCommand (p : Bytes) : Decoded ModbusChannelCommand :=
  if p.length < 3 then .error .truncated
  else if !hasHeader p kSystemChannel kModbusChannelConfigType then .error .unsupported
  else if byteAt p 2 == 0x01 then decodeModbusChannelUpsert p
  else if byteAt p 2 == 0x00 then decodeModbusChannelRemove p
  else if byteAt p 2 == 0x02 then decodeModbusChannelSetName p
  else .error .unsupported

/-! The report interval. -/

def kDefaultReportIntervalSeconds : UInt16 := 20 * 60

def kMinReportIntervalSeconds : UInt16 := 60

def kMaxReportIntervalSeconds : UInt16 := 1080 * 60

structure ReportIntervalSettings where
  seconds : UInt16 := kDefaultReportIntervalSeconds
  deriving DecidableEq, Inhabited

def validReportIntervalSettings (settings : ReportIntervalSettings) : Bool :=
  settings.seconds ≥ kMinReportIntervalSeconds && settings.seconds ≤ kMaxReportIntervalSeconds

def decodeReportIntervalCommand (p : Bytes) : Option (ReportIntervalSettings × Nat) :=
  if p.length < 4 then none
  else if !hasHeader p 0xff 0x03 then none
  else
    let settings : ReportIntervalSettings := { seconds := readU16 p 2 }
    if !validReportIntervalSettings settings then none else some (settings, 4)

end Lorawan
