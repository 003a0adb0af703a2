import MultibusGateway.Lorawan.Codec

/-! The commands of an FPort 85 payload, parsed one after the other before any of them is
applied. -/

namespace Application
open ByteString Modbus Lorawan

inductive ParsedCommand where
  | reportInterval (settings : ReportIntervalSettings)
  | basicControl (command : BasicControlCommand)
  | periodicReportEnquiry
  | utcTimezone (offsetMinutes : Int16)
  | lnsTimeSync
  | dstSettings (settings : Time.DstSettings)
  | dataStorage (enabled : Bool)
  | dataRetransmission (enabled : Bool)
  | retransmissionInterval (seconds : UInt16)
  | retrievabilityInterval (seconds : UInt16)
  | historyQuery (command : HistoryQueryCommand)
  | ruleStatus (command : RuleStatusCommand)
  | ruleEnquiry (ruleId : UInt8)
  | ruleConfiguration (command : RuleConfigurationCommand)
  | modbusChannel (command : ModbusChannelCommand)
  | rs485Settings (settings : Rs485SerialSettings)
  | modbusMasterSettings (settings : ModbusMasterSettings)
  | rs485SettingsEnquiry (kind : Rs485SettingsEnquiryKind)
  deriving DecidableEq

def parsedAs {α : Type} (command : α → ParsedCommand) (decoded : Decoded α) :
    Option (ParsedCommand × Nat) :=
  match decoded with
  | .error _ => none
  | .ok (value, consumed) => if consumed = 0 then none else some (command value, consumed)

def supported {α : Type} (supports : α → Bool) (decoded : Decoded α) : Decoded α :=
  match decoded with
  | .error status => .error status
  | .ok (value, consumed) => if supports value then .ok (value, consumed) else .error .unsupported

def parseHeadedCommand (p : Bytes) : Option (ParsedCommand × Nat) :=
  let header := fun channelId type => hasHeader p channelId type
  if header kSystemChannel kRejoinType || header kSystemChannel kRebootType then
    parsedAs .basicControl (decodeBasicControlCommand p)
  else if header kSystemChannel kUtcTimezoneType then
    parsedAs .utcTimezone (decodeUtcTimezoneCommand p)
  else if header kSystemChannel kLnsTimeSyncType then
    parsedAs (fun _ => .lnsTimeSync) (decodeLnsTimeSyncCommand p)
  else if header kModbusChannel kDstSettingsType then
    parsedAs .dstSettings (decodeDstSettingsCommand p)
  else if header kSystemChannel kDataStorageType then
    parsedAs .dataStorage (decodeHistoryToggleCommand kDataStorageType p)
  else if header kSystemChannel kDataRetransmissionType then
    parsedAs .dataRetransmission (decodeHistoryToggleCommand kDataRetransmissionType p)
  else if header kModbusChannel kRetransmissionIntervalType then
    parsedAs .retransmissionInterval (decodeRetransmissionIntervalCommand p)
  else if header kModbusChannel kRetrievabilityIntervalType then
    parsedAs .retrievabilityInterval (decodeRetrievabilityIntervalCommand p)
  else if header kHistoryQueryChannel kHistoryPointType ||
      header kHistoryQueryChannel kHistoryRangeType ||
      header kHistoryQueryChannel kHistoryStopType then
    parsedAs .historyQuery (decodeHistoryQueryCommand p)
  else if header kModbusChannel kRuleStatusType then
    parsedAs .ruleStatus (decodeRuleStatusCommand p)
  else if header kModbusChannel kRuleEnquiryType then
    parsedAs .ruleEnquiry (decodeRuleEnquiryCommand p)
  else if header kModbusChannel kRuleConfigurationType then
    parsedAs .ruleConfiguration (decodeRuleConfigurationCommand p)
  else if header kSystemChannel kPeriodicReportEnquiryType then
    parsedAs (fun _ => .periodicReportEnquiry) (decodePeriodicReportEnquiryCommand p)
  else if header kSystemChannel kReportIntervalType then
    match decodeReportIntervalCommand p with
    | none => none
    | some (settings, consumed) =>
      if consumed = 0 then none else some (.reportInterval settings, consumed)
  else if header kSystemChannel kModbusChannelConfigType then
    parsedAs .modbusChannel (decodeModbusChannelCommand p)
  else if header kModbusChannel kRs485ConfigType then
    parsedAs .rs485Settings
      (supported esp32SupportsRs485SerialSettings (decodeRs485SettingsCommand p))
  else if header kModbusChannel kModbusGlobalConfigType then
    parsedAs .modbusMasterSettings
      (supported runtimeSupportsModbusMasterSettings (decodeModbusMasterSettingsCommand p))
  else if header kModbusChannel kRs485SettingsEnquiryType then
    parsedAs .rs485SettingsEnquiry (decodeRs485SettingsEnquiryCommand p)
  else none

def parseCommand (p : Bytes) : Option (ParsedCommand × Nat) :=
  if p.length < 2 then none else parseHeadedCommand p

/-- How the parse loop stands: ended with all commands, ended by a command that fails to
decode, or not ended within the turns it was given. -/
inductive ParseResult where
  | parsed (commands : List ParsedCommand)
  | failed
  | unfinished
  deriving DecidableEq

def parseLoop : Nat → Bytes → List ParsedCommand → ParseResult
  | 0, [], commands => .parsed commands
  | 0, _ :: _, _ => .unfinished
  | turns + 1, p, commands =>
    if p.length = 0 then .parsed commands
    else match parseCommand p with
      | none => .failed
      | some (command, consumed) => parseLoop turns (p.drop consumed) (commands ++ [command])

/-- Every turn consumes a byte, so the length of the payload bounds the turns. -/
def parseCommands (p : Bytes) : ParseResult := parseLoop p.length p []

end Application
