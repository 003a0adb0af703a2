import MultibusGateway.History.Settings
import MultibusGateway.History.Store
import MultibusGateway.Lorawan.Codec

/-! The settings stores of the application over the flash. A save checks its settings and
puts their keys one after the other; a put may be refused, which ends the save. -/

namespace Application
open ByteString Preferences Modbus Lorawan

inductive TimeKey where
  | timezone | dstEnabled | dstBias | dstStartMonth | dstStartWeek | dstStartWeekday
  | dstStartMinute | dstEndMonth | dstEndWeek | dstEndWeekday | dstEndMinute
  deriving DecidableEq

inductive HistorySettingsKey where
  | storage | retransmission | interval | retrievabilityInterval
  deriving DecidableEq

inductive RetransmissionKey where
  | pending | lostAt
  deriving DecidableEq

/-- What the stores have in flash, and the outcomes of the puts to come. -/
structure Stores where
  outcomes : List Bool := []
  report : Flash Unit UInt16 := fun _ => none
  time : Flash TimeKey Int := fun _ => none
  rs485 : Flash Unit Bytes := fun _ => none
  master : Flash Unit Bytes := fun _ => none
  channels : Flash Nat Bytes := fun _ => none
  rules : Flash Nat Rules.RuleRecord := fun _ => none
  historySettings : Flash HistorySettingsKey UInt16 := fun _ => none
  retransmission : Flash RetransmissionKey UInt32 := fun _ => none
  rings : History.PersistentHistoryStore.RingFlash := fun _ => none
  history : History.PersistentHistoryStore := {}

namespace Stores

def saveReportSettings (settings : ReportIntervalSettings) (s : Stores) : Stores × Bool :=
  if !validReportIntervalSettings settings then (s, false)
  else
    let (flash, outcomes, saved) := putAll s.report s.outcomes [((), settings.seconds)]
    ({ s with report := flash, outcomes := outcomes }, saved)

def timePuts (settings : Time.Settings) : List (TimeKey × Int) :=
  [(.timezone, settings.utcOffsetMinutes.toInt),
    (.dstEnabled, if settings.dst.enabled then 1 else 0),
    (.dstBias, settings.dst.biasMinutes.toNat),
    (.dstStartMonth, settings.dst.start.month.toNat),
    (.dstStartWeek, settings.dst.start.week.toNat),
    (.dstStartWeekday, settings.dst.start.weekday.toNat),
    (.dstStartMinute, settings.dst.start.minuteOfDay.toNat),
    (.dstEndMonth, settings.dst.finish.month.toNat),
    (.dstEndWeek, settings.dst.finish.week.toNat),
    (.dstEndWeekday, settings.dst.finish.weekday.toNat),
    (.dstEndMinute, settings.dst.finish.minuteOfDay.toNat)]

def saveTimeSettings (settings : Time.Settings) (s : Stores) : Stores × Bool :=
  if !Time.validUtcOffsetMinutes settings.utcOffsetMinutes ||
      !Time.validDstSettings settings.dst then (s, false)
  else
    let (flash, outcomes, saved) := putAll s.time s.outcomes (timePuts settings)
    ({ s with time := flash, outcomes := outcomes }, saved)

def rs485Record (settings : Rs485SerialSettings) : Bytes :=
  [1] ++ writeU32 settings.baudRate ++
    [settings.dataBits, settings.stopBits.raw, settings.parity.raw]

def saveRs485Settings (settings : Rs485SerialSettings) (s : Stores) : Stores × Bool :=
  if !validRs485SerialSettings settings then (s, false)
  else
    let (flash, outcomes, saved) := putAll s.rs485 s.outcomes [((), rs485Record settings)]
    ({ s with rs485 := flash, outcomes := outcomes }, saved)

def masterRecord (settings : ModbusMasterSettings) : Bytes :=
  [1] ++ writeU16 settings.executionIntervalMs ++ writeU16 settings.maxResponseTimeMs ++
    [settings.maxRetryTimes, settings.passThroughMode.raw, settings.passThroughPort]

def saveModbusMasterSettings (settings : ModbusMasterSettings) (s : Stores) : Stores × Bool :=
  if !validModbusMasterSettings settings then (s, false)
  else
    let (flash, outcomes, saved) := putAll s.master s.outcomes [((), masterRecord settings)]
    ({ s with master := flash, outcomes := outcomes }, saved)

def nameBytes (name : ChannelName) : Bytes :=
  (name.toList.take kMaxChannelNameLength).takeWhile (· != 0)

/-- A record has 23 bytes, of which 15 are there for the name. -/
def channelRecord (config : ChannelConfig) : Bytes :=
  let name := nameBytes config.name
  ([1, config.slot, config.slaveId] ++ writeU16 config.address ++
    [config.dataType.raw,
      (config.quantity &&& 0x0f) ||| (if config.signedValue then 0x10 else 0x00),
      UInt8.ofNat name.length] ++
    name ++ List.replicate (15 - name.length) 0).take 23

def saveModbusChannel (config : ChannelConfig) (s : Stores) : Stores × Bool :=
  if !validChannelConfig config then (s, false)
  else
    let (flash, outcomes, saved) :=
      putAll s.channels s.outcomes [(config.slot.toNat, channelRecord config)]
    ({ s with channels := flash, outcomes := outcomes }, saved)

def removeModbusChannel (slot : UInt8) (s : Stores) : Stores × Bool :=
  if slot ≥ kCompatibilitySlotCount then (s, false)
  else if !isKey s.channels slot.toNat then (s, true)
  else match draw s.outcomes with
    | (false, outcomes) => ({ s with outcomes := outcomes }, false)
    | (true, outcomes) =>
      ({ s with
         channels := Function.update s.channels slot.toNat none
         outcomes := outcomes }, true)

def saveRule (ruleId : UInt8) (record : Rules.RuleRecord) (s : Stores) : Stores × Bool :=
  if ruleId < 1 || ruleId.toNat > Rules.kRuleCount then (s, false)
  else
    let (flash, outcomes, saved) := putAll s.rules s.outcomes [(ruleId.toNat, record)]
    ({ s with rules := flash, outcomes := outcomes }, saved)

def historyPuts (settings : History.Settings) : List (HistorySettingsKey × UInt16) :=
  [(.storage, if settings.storageEnabled then 1 else 0),
    (.retransmission, if settings.retransmissionEnabled then 1 else 0),
    (.interval, settings.retransmissionIntervalSeconds),
    (.retrievabilityInterval, settings.retrievabilityIntervalSeconds)]

def saveHistorySettings (settings : History.Settings) (s : Stores) : Stores × Bool :=
  if !History.validSettings settings then (s, false)
  else
    let (flash, outcomes, saved) := putAll s.historySettings s.outcomes (historyPuts settings)
    ({ s with historySettings := flash, outcomes := outcomes }, saved)

def retransmissionPuts (state : History.RetransmissionState) : List (RetransmissionKey × UInt32) :=
  [(.pending, if state.pending then 1 else 0),
    (.lostAt, if state.pending then state.lostAtUnix else 0)]

def saveRetransmission (state : History.RetransmissionState) (s : Stores) : Stores × Bool :=
  if state.pending && state.lostAtUnix == 0 then (s, false)
  else
    let (flash, outcomes, saved) :=
      putAll s.retransmission s.outcomes (retransmissionPuts state)
    ({ s with retransmission := flash, outcomes := outcomes }, saved)

def saveRing (ring : History.Ring) (s : Stores) : Stores × Bool :=
  let (stored, outcomes) := draw s.outcomes
  let (flash, history, saved) :=
    s.history.save s.rings ring (if stored then .stored else .refused)
  ({ s with rings := flash, history := history, outcomes := outcomes }, saved)

end Stores

end Application
