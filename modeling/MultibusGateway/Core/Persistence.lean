import MultibusGateway.Core.Downlinks

/-! What the stores read back, and the boot, which starts from it. -/

namespace Application
open ByteString Preferences Modbus Lorawan

namespace Stores

def loadReportSettings (s : Stores) : Option ReportIntervalSettings :=
  match s.report () with
  | none => some {}
  | some seconds =>
    if validReportIntervalSettings { seconds := seconds } then some { seconds := seconds } else none

def timeNumber (s : Stores) (key : TimeKey) : Nat := ((s.time key).getD 0).toNat

/-- Without a time zone nothing has been saved. -/
def loadTimeSettings (s : Stores) : Option Time.Settings :=
  match s.time .timezone with
  | none => some {}
  | some minutes =>
    let settings : Time.Settings :=
      { utcOffsetMinutes := Int16.ofInt minutes
        dst :=
          { enabled := s.timeNumber .dstEnabled != 0
            biasMinutes := UInt8.ofNat (s.timeNumber .dstBias)
            start :=
              { month := UInt8.ofNat (s.timeNumber .dstStartMonth)
                week := UInt8.ofNat (s.timeNumber .dstStartWeek)
                weekday := UInt8.ofNat (s.timeNumber .dstStartWeekday)
                minuteOfDay := UInt16.ofNat (s.timeNumber .dstStartMinute) }
            finish :=
              { month := UInt8.ofNat (s.timeNumber .dstEndMonth)
                week := UInt8.ofNat (s.timeNumber .dstEndWeek)
                weekday := UInt8.ofNat (s.timeNumber .dstEndWeekday)
                minuteOfDay := UInt16.ofNat (s.timeNumber .dstEndMinute) } } }
    if Time.validUtcOffsetMinutes settings.utcOffsetMinutes && Time.validDstSettings settings.dst
    then some settings else none

def loadHistorySettings (s : Stores) : Option History.Settings :=
  let settings : History.Settings :=
    { storageEnabled := (s.historySettings .storage).getD 0 != 0
      retransmissionEnabled := (s.historySettings .retransmission).getD 0 != 0
      retransmissionIntervalSeconds := (s.historySettings .interval).getD 600
      retrievabilityIntervalSeconds := (s.historySettings .retrievabilityInterval).getD 60 }
  if History.validSettings settings then some settings else none

def loadRs485Settings (s : Stores) : Option Rs485SerialSettings :=
  match s.rs485 () with
  | none | some [] => some {}
  | some record =>
    if record.length ≠ 8 || byteAt record 0 ≠ 1 then none
    else match Rs485StopBits.ofRaw (byteAt record 6), Rs485Parity.ofRaw (byteAt record 7) with
      | some stopBits, some parity =>
        let settings : Rs485SerialSettings :=
          { baudRate := readU32 record 1
            dataBits := byteAt record 5
            stopBits := stopBits
            parity := parity }
        if validRs485SerialSettings settings then some settings else none
      | _, _ => none

def loadModbusMasterSettings (s : Stores) : Option ModbusMasterSettings :=
  match s.master () with
  | none | some [] => some {}
  | some record =>
    if record.length ≠ 8 || byteAt record 0 ≠ 1 then none
    else match PassThroughMode.ofRaw (byteAt record 6) with
      | none => none
      | some passThroughMode =>
        let settings : ModbusMasterSettings :=
          { executionIntervalMs := readU16 record 1
            maxResponseTimeMs := readU16 record 3
            maxRetryTimes := byteAt record 5
            passThroughMode := passThroughMode
            passThroughPort := byteAt record 7 }
        if validModbusMasterSettings settings then some settings else none

def kRecordSize : Nat := 23

/-- The bytes of a name in a record. There is room for 15 in it; a 16th byte is read from
what lies behind the buffer. -/
def recordName (beyond : UInt8) (record : Bytes) : Bytes :=
  ((record ++ [beyond]).drop 8).take (byteAt record 7).toNat

def decodeChannelRecord (beyond : UInt8) (record : Bytes) : Option ChannelConfig :=
  match WireDataType.ofRaw (byteAt record 5) with
  | none => none
  | some dataType =>
    if byteAt record 0 ≠ 1 || (byteAt record 7).toNat > kMaxChannelNameLength then none
    else
      let config : ChannelConfig :=
        { slot := byteAt record 1
          slaveId := byteAt record 2
          address := readU16 record 3
          dataType := dataType
          quantity := byteAt record 6 &&& 0x0f
          signedValue := byteAt record 6 &&& 0x10 != 0 }
      match setChannelName config (recordName beyond record) with
      | none => none
      | some config => if validChannelConfig config then some config else none

/-- The channel of a slot, if there is one; `none` when the load fails. -/
def loadSlot (beyond : UInt8) (flash : Flash Nat Bytes) (slot : UInt8) :
    Option (Option ChannelConfig) :=
  match flash slot.toNat with
  | none | some [] => some none
  | some record =>
    if record.length ≠ kRecordSize then none
    else match decodeChannelRecord beyond record with
      | none => none
      | some config => if config.slot ≠ slot then none else some (some config)

def loadSlots (beyond : UInt8) (flash : Flash Nat Bytes) : List UInt8 → Option (List ChannelConfig)
  | [] => some []
  | slot :: rest =>
    match loadSlot beyond flash slot, loadSlots beyond flash rest with
    | some found, some channels => some (found.toList ++ channels)
    | _, _ => none

def kSlots : List UInt8 := (List.range kCompatibilitySlotCount.toNat).map UInt8.ofNat

/-- The rules of the store; a rule without a record is empty. -/
def loadRules (s : Stores) : Rules.RuleState :=
  ⟨fun index => if index < Rules.kRuleCount then (s.rules (index + 1)).getD {} else {}⟩

end Stores

def takeChannels : List ChannelConfig → ModbusComponent → ChannelRegistry →
    Option (ModbusComponent × ChannelRegistry)
  | [], modbus, channels => some (modbus, channels)
  | channel :: rest, modbus, channels =>
    let (modbus, upserted) := modbus.upsertChannel channel
    let (channels, bound) := bindCompatibilityChannel channel channels
    if !upserted || !bound then none else takeChannels rest modbus channels

def loadModbusChannels (beyond : UInt8) (stores : Stores) (modbus : ModbusComponent)
    (channels : ChannelRegistry) : Option (ModbusComponent × ChannelRegistry) := do
  let stored ← Stores.loadSlots beyond stores.channels Stores.kSlots
  takeChannels stored modbus channels

def beginModbus (modbus : ModbusComponent) (nowMs : UInt32) : Option ModbusComponent :=
  match modbus.mode with
  | .master =>
    let (rtuMaster, ready) := modbus.rtuMaster.begin modbus.serialConfig
    if !ready then none
    else some { modbus with rtuMaster := rtuMaster, active := true, nextPollAtMs := nowMs }
  | .slave => some { modbus with active := true }
  | .disabled => some modbus

/-- The history and the state of its retransmission are loaded as they are. -/
def boot (config : DeviceConfig) (clock : Clock) (beyond : UInt8) (ring : History.Ring)
    (retransmission : History.RetransmissionState) (stores : Stores) : Option State := do
  let nowMs := clock.millis
  let rs485 ← stores.loadRs485Settings
  let (modbus, serial) :=
    ModbusComponent.applyRs485SerialSettings nowMs rs485 { mode := config.modbus }
  let master ← if serial then stores.loadModbusMasterSettings else none
  let (modbus, applied) := modbus.applyModbusMasterSettings nowMs master
  let report ← if applied then stores.loadReportSettings else none
  let timeSettings ← stores.loadTimeSettings
  let historySettings ← stores.loadHistorySettings
  let (modbus, channels) ← loadModbusChannels beyond stores modbus {}
  let modbus ← beginModbus modbus nowMs
  return {
    clock := clock
    config := config
    stores := stores
    timeSettings := timeSettings
    scheduler := ReportScheduler.begin report nowMs {}
    modbus := modbus
    channels := channels
    rules := { state := stores.loadRules, bootEvaluationPending := true }
    history :=
      { settings := historySettings
        ring := ring
        nextSnapshotAtMs := nowMs + report.seconds.toUInt32 * 1000
        snapshotDueMs := clock.uptimeMs + report.seconds.toNat * 1000 }
    retransmission := { state := retransmission } }

end Application
