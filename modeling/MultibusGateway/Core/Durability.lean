import MultibusGateway.Core.ConfigurationCommands
import MultibusGateway.Library.Execution

/-! What a configuration command leaves live is what the next boot reads back. Names of 16
bytes, for which a channel record has no room, are the exception. -/

namespace Application
open ByteString Preferences Modbus Lorawan KeyedList Execution

/-- The settings and the rules that the next boot would load are the live ones. -/
structure SettingsDurable (app : State) : Prop where
  report : app.stores.loadReportSettings = some app.scheduler.settings
  time : app.stores.loadTimeSettings = some app.timeSettings
  history : app.stores.loadHistorySettings = some app.history.settings
  rs485 : app.stores.loadRs485Settings = some app.modbus.rs485Settings
  master : app.stores.loadModbusMasterSettings = some app.modbus.masterSettings
  rules : ∀ index, index < Rules.kRuleCount →
    app.stores.loadRules.rules index = app.rules.state.rules index

/-- The whole configuration that the next boot would load is the live one. -/
structure Durable (app : State) : Prop extends SettingsDurable app where
  channels : ReadBack app.stores app.modbus app.channels

/-- The settings are durable, the channels have their bindings, and the bus can be set up. -/
structure InStep (app : State) : Prop extends SettingsDurable app where
  distinct : Distinct ChannelConfig.slot app.modbus.channels
  bound : Bound app.modbus.channels app.channels
  ready : serialReady app.modbus.rs485Settings app.modbus.masterSettings = true

theorem durable_iff (app : State) (inStep : InStep app) :
    Durable app ↔ ChannelsKept app.stores.channels app.modbus.channels := by
  have channels := readBack_iff app.stores app.modbus app.channels inStep.distinct inStep.bound
  constructor
  · intro durable
    exact channels.mp durable.channels
  · intro kept
    exact ⟨inStep.toSettingsDurable, channels.mpr kept⟩

theorem rulesKept_iff (app : State) :
    RulesKept app.stores.rules app.rules.state ↔
      ∀ index, index < Rules.kRuleCount →
        app.stores.loadRules.rules index = app.rules.state.rules index := by
  refine forall_congr' fun index => imp_congr_right fun inside => ?_
  rw [Stores.loadRules]
  dsimp only
  rw [if_pos inside]

/-! The commands. -/

def isConfiguration : ParsedCommand → Bool
  | .reportInterval _ | .utcTimezone _ | .dstSettings _ | .dataStorage _ | .dataRetransmission _
  | .retransmissionInterval _ | .retrievabilityInterval _ | .ruleStatus _ | .ruleConfiguration _
  | .modbusChannel _ | .rs485Settings _ | .modbusMasterSettings _ => true
  | _ => false

/-- A command at a time, with the outcomes of the puts to the stores that it makes. -/
structure ConfigurationStep where
  clock : Clock
  outcomes : List Bool
  command : ParsedCommand
  configures : isConfiguration command = true

def arrived (app : State) (x : ConfigurationStep) : State :=
  { app with clock := x.clock, stores := { app.stores with outcomes := x.outcomes } }

def configure (deliver : Deliver State) (app : State) (x : ConfigurationStep) : State :=
  (applyCommand deliver (arrived app x) x.command).1

def timeUpdate (settings : Time.Settings) : ParsedCommand → Option Time.Settings
  | .utcTimezone offsetMinutes => some { settings with utcOffsetMinutes := offsetMinutes }
  | .dstSettings dst => some { settings with dst := dst }
  | _ => none

def historyUpdate (settings : History.Settings) : ParsedCommand → Option History.Settings
  | .dataStorage enabled => some { settings with storageEnabled := enabled }
  | .dataRetransmission enabled => some { settings with retransmissionEnabled := enabled }
  | .retransmissionInterval seconds =>
    some { settings with retransmissionIntervalSeconds := seconds }
  | .retrievabilityInterval seconds =>
    some { settings with retrievabilityIntervalSeconds := seconds }
  | _ => none

/-- At most one write to the stores fails, and a save that fails has changed nothing. -/
structure WritesWhole (app : State) (x : ConfigurationStep) : Prop where
  single : x.outcomes.count false ≤ 1
  time : ∀ updated ∈ timeUpdate app.timeSettings x.command,
    TimeSaveWhole updated (arrived app x).stores
  history : ∀ updated ∈ historyUpdate app.history.settings x.command,
    HistorySaveWhole updated (arrived app x).stores

/-- A channel that the command stores has a name of less than 16 bytes. -/
def NamesFit (app : State) (x : ConfigurationStep) : Prop :=
  match x.command with
  | .modbusChannel command =>
    ∀ config ∈ channelToSave command app.modbus, RecordFits config (arrived app x).stores
  | _ => True

/-! One command. -/

def SameChannels (app after : State) : Prop :=
  after.stores.channels = app.stores.channels ∧ after.modbus.channels = app.modbus.channels

theorem inStep_arrived (app : State) (x : ConfigurationStep) (inStep : InStep app) :
    InStep (arrived app x) :=
  ⟨⟨inStep.report, inStep.time, inStep.history, inStep.rs485, inStep.master, inStep.rules⟩,
    inStep.distinct, inStep.bound, inStep.ready⟩

section
variable (deliver : Deliver State) (app : State) (inStep : InStep app)
include inStep

theorem reportInterval_inStep (settings : ReportIntervalSettings) :
    InStep (applyCommand deliver app (.reportInterval settings)).1 ∧
    SameChannels app (applyCommand deliver app (.reportInterval settings)).1 := by
  obtain ⟨scheduler, history, flash, outcomes, same, fixed, loads⟩ :=
    applyReportIntervalCommand_keeps settings app.clock app.scheduler app.history
      app.stores inStep.report
  have stored : app.stores.loadHistorySettings = some history.settings := by
    rw [fixed]
    exact inStep.history
  simp only [applyCommand, same]
  exact ⟨{ inStep with report := loads, history := stored }, rfl, rfl⟩

theorem time_inStep (parts : Time.Settings × Stores)
    (kept : ∃ settings flash outcomes,
      parts = (settings, { app.stores with time := flash, outcomes := outcomes }) ∧
      ({ app.stores with time := flash } : Stores).loadTimeSettings = some settings) :
    InStep { app with timeSettings := parts.1, stores := parts.2 } ∧
    SameChannels app { app with timeSettings := parts.1, stores := parts.2 } := by
  obtain ⟨settings, flash, outcomes, rfl, loads⟩ := kept
  exact ⟨{ inStep with time := loads }, rfl, rfl⟩

theorem utcTimezone_inStep (offsetMinutes : Int16)
    (whole : TimeSaveWhole { app.timeSettings with utcOffsetMinutes := offsetMinutes }
      app.stores) :
    InStep (applyCommand deliver app (.utcTimezone offsetMinutes)).1 ∧
    SameChannels app (applyCommand deliver app (.utcTimezone offsetMinutes)).1 := by
  refine time_inStep app inStep
    (applyUtcTimezoneCommand offsetMinutes app.timeSettings app.stores).1 ?_
  unfold applyUtcTimezoneCommand
  split
  · exact ⟨app.timeSettings, app.stores.time, app.stores.outcomes, rfl, inStep.time⟩
  · exact applyTimeSettings_keeps _ app.timeSettings app.stores inStep.time whole

theorem dstSettings_inStep (dst : Time.DstSettings)
    (whole : TimeSaveWhole { app.timeSettings with dst := dst } app.stores) :
    InStep (applyCommand deliver app (.dstSettings dst)).1 ∧
    SameChannels app (applyCommand deliver app (.dstSettings dst)).1 := by
  refine time_inStep app inStep (applyDstSettingsCommand dst app.timeSettings app.stores).1 ?_
  unfold applyDstSettingsCommand
  split
  · exact ⟨app.timeSettings, app.stores.time, app.stores.outcomes, rfl, inStep.time⟩
  · exact applyTimeSettings_keeps _ app.timeSettings app.stores inStep.time whole

theorem applyHistoryToggle_inStep (updated : History.Settings) (enabled : Bool)
    (whole : HistorySaveWhole updated app.stores) :
    InStep (withToggleParts app (applyHistoryToggle updated enabled (toggleParts app)).1) ∧
    SameChannels app
      (withToggleParts app (applyHistoryToggle updated enabled (toggleParts app)).1) := by
  obtain ⟨flash, marker, outcomes, same, loads⟩ :=
    applyHistoryToggle_keeps updated enabled (toggleParts app) inStep.history whole
  unfold withToggleParts
  rw [same]
  exact ⟨{ inStep with history := loads }, rfl, rfl⟩

theorem applyHistorySettings_inStep (updated : History.Settings)
    (whole : HistorySaveWhole updated app.stores) :
    InStep (withHistorySettings app
      (applyHistorySettings updated app.history.settings app.stores).1) ∧
    SameChannels app (withHistorySettings app
      (applyHistorySettings updated app.history.settings app.stores).1) := by
  obtain ⟨settings, flash, outcomes, same, loads⟩ :=
    applyHistorySettings_keeps updated app.history.settings app.stores inStep.history whole
  rw [same]
  exact ⟨{ inStep with history := loads }, rfl, rfl⟩

theorem rs485Settings_inStep (settings : Rs485SerialSettings) :
    InStep (applyCommand deliver app (.rs485Settings settings)).1 ∧
    SameChannels app (applyCommand deliver app (.rs485Settings settings)).1 := by
  obtain ⟨modbus, taken, flash, outcomes, same, configured, ready, loads⟩ :=
    applyRs485SettingsCommand_keeps settings app.clock.millis app.modbus app.stores
      inStep.rs485 inStep.ready
  simp only [ModbusComponent.configuration, ComponentConfiguration.mk.injEq] at configured
  obtain ⟨_, _, rfl, master, channels⟩ := configured
  simp only [applyCommand, same]
  refine ⟨⟨⟨inStep.report, inStep.time, inStep.history, loads, ?_, inStep.rules⟩, ?_, ?_, ?_⟩,
    rfl, channels⟩
  · dsimp only
    rw [master]
    exact inStep.master
  · dsimp only
    rw [channels]
    exact inStep.distinct
  · dsimp only
    rw [channels]
    exact inStep.bound
  · dsimp only
    rw [master]
    exact ready

theorem modbusMasterSettings_inStep (settings : ModbusMasterSettings) :
    InStep (applyCommand deliver app (.modbusMasterSettings settings)).1 ∧
    SameChannels app (applyCommand deliver app (.modbusMasterSettings settings)).1 := by
  obtain ⟨taken, flash, outcomes, same, configured, scheduler, history, ready, loads⟩ :=
    applyModbusMasterSettingsCommand_keeps settings app.clock.millis (masterParts app)
      inStep.master inStep.ready
  unfold applyCommand
  dsimp only
  generalize applyModbusMasterSettingsCommand settings app.clock.millis (masterParts app) =
    applied at same configured scheduler history ⊢
  obtain ⟨⟨modbus, scheduler', history', frame, stores⟩, done⟩ := applied
  dsimp only at same configured scheduler history ⊢
  simp only [ModbusComponent.configuration, ComponentConfiguration.mk.injEq] at configured
  obtain ⟨_, _, rs485, rfl, channels⟩ := configured
  subst same
  refine ⟨⟨⟨?_, inStep.time, ?_, ?_, loads, inStep.rules⟩, ?_, ?_, ?_⟩, rfl, channels⟩
  · dsimp only
    rw [scheduler]
    exact inStep.report
  · dsimp only
    rw [history]
    exact inStep.history
  · dsimp only
    rw [rs485]
    exact inStep.rs485
  · dsimp only
    rw [channels]
    exact inStep.distinct
  · dsimp only
    rw [channels]
    exact inStep.bound
  · dsimp only
    rw [rs485]
    exact ready

theorem rules_inStep (rules : RuleEngine) (replies : RuleReplies) (stores : Stores)
    (kept : RulesInStep app.stores rules stores) :
    InStep { app with rules := rules, replies := replies, stores := stores } ∧
    SameChannels app { app with rules := rules, replies := replies, stores := stores } := by
  obtain ⟨flash, outcomes, rfl, kept⟩ := kept
  have rulesKept := (rulesKept_iff { app with
    rules := rules
    stores := { app.stores with rules := flash, outcomes := outcomes } }).mp kept
  exact ⟨{ inStep with rules := rulesKept }, rfl, rfl⟩

theorem ruleStatus_inStep (command : RuleStatusCommand)
    (single : app.stores.outcomes.count false ≤ 1) :
    InStep (applyCommand deliver app (.ruleStatus command)).1 ∧
    SameChannels app (applyCommand deliver app (.ruleStatus command)).1 := by
  have start : RulesInStep app.stores app.rules app.stores :=
    ⟨app.stores.rules, app.stores.outcomes, rfl, (rulesKept_iff app).mpr inStep.rules⟩
  exact rules_inStep app inStep _ app.replies _
    (applyRuleStatuses_inStep command.operation app.stores (maskedRules command.ruleMask) []
      app.rules app.stores start single (by simp))

theorem ruleConfiguration_inStep (command : RuleConfigurationCommand) :
    InStep (applyCommand deliver app (.ruleConfiguration command)).1 ∧
    SameChannels app (applyCommand deliver app (.ruleConfiguration command)).1 :=
  rules_inStep app inStep _ _ _
    (applyRuleConfigurationCommand_inStep command (ruleParts app)
      ((rulesKept_iff app).mpr inStep.rules))

theorem modbusChannel_inStep (command : ModbusChannelCommand) :
    InStep (applyCommand deliver app (.modbusChannel command)).1 ∧
    (ChannelsKept app.stores.channels app.modbus.channels →
      (ChannelsKept (applyCommand deliver app (.modbusChannel command)).1.stores.channels
          (applyCommand deliver app (.modbusChannel command)).1.modbus.channels ↔
        ∀ config ∈ channelToSave command app.modbus, RecordFits config app.stores)) := by
  obtain ⟨⟨outcomes, same⟩, configured, scheduler, distinct, bound, kept⟩ :=
    applyModbusChannelCommand_inStep command (channelParts app) inStep.distinct inStep.bound
  unfold applyCommand
  dsimp only
  generalize applyModbusChannelCommand command (channelParts app) = applied
    at same configured scheduler distinct bound kept ⊢
  obtain ⟨⟨modbus, scheduler', channels, stores, samples, log⟩, done⟩ := applied
  dsimp only at same configured scheduler distinct bound kept ⊢
  simp only [ModbusComponent.configuration, ComponentConfiguration.mk.injEq] at configured
  obtain ⟨_, _, rs485, master, _⟩ := configured
  refine ⟨⟨⟨?_, ?_, ?_, ?_, ?_, ?_⟩, distinct, bound, ?_⟩, kept⟩
  · dsimp only
    rw [same, scheduler]
    exact inStep.report
  · dsimp only
    rw [same]
    exact inStep.time
  · dsimp only
    rw [same]
    exact inStep.history
  · dsimp only
    rw [same, rs485]
    exact inStep.rs485
  · dsimp only
    rw [same, master]
    exact inStep.master
  · dsimp only
    rw [same]
    exact inStep.rules
  · dsimp only
    rw [rs485, master]
    exact inStep.ready

end

/-- A command keeps everything in step; the channels stay kept exactly if the names fit. -/
theorem configure_spec (deliver : Deliver State) (app : State) (x : ConfigurationStep)
    (inStep : InStep app) (whole : WritesWhole app x) :
    InStep (configure deliver app x) ∧
    (ChannelsKept app.stores.channels app.modbus.channels →
      (ChannelsKept (configure deliver app x).stores.channels
        (configure deliver app x).modbus.channels ↔ NamesFit app x)) := by
  have start := inStep_arrived app x inStep
  obtain ⟨single, time, history⟩ := whole
  have untouched (fits : NamesFit app x)
      (after : InStep (configure deliver app x) ∧
        SameChannels (arrived app x) (configure deliver app x)) :
      InStep (configure deliver app x) ∧
      (ChannelsKept app.stores.channels app.modbus.channels →
        (ChannelsKept (configure deliver app x).stores.channels
          (configure deliver app x).modbus.channels ↔ NamesFit app x)) := by
    refine ⟨after.1, fun kept => iff_of_true ?_ fits⟩
    rw [after.2.1, after.2.2]
    exact kept
  obtain ⟨clock, outcomes, command, configures⟩ := x
  cases command with
  | reportInterval settings =>
    exact untouched trivial (reportInterval_inStep deliver _ start settings)
  | utcTimezone offsetMinutes =>
    exact untouched trivial (utcTimezone_inStep deliver _ start offsetMinutes (time _ rfl))
  | dstSettings dst => exact untouched trivial (dstSettings_inStep deliver _ start dst (time _ rfl))
  | dataStorage enabled =>
    exact untouched trivial (applyHistoryToggle_inStep _ start _ enabled (history _ rfl))
  | dataRetransmission enabled =>
    exact untouched trivial (applyHistoryToggle_inStep _ start _ enabled (history _ rfl))
  | retransmissionInterval seconds =>
    exact untouched trivial (applyHistorySettings_inStep _ start _ (history _ rfl))
  | retrievabilityInterval seconds =>
    exact untouched trivial (applyHistorySettings_inStep _ start _ (history _ rfl))
  | ruleStatus command => exact untouched trivial (ruleStatus_inStep deliver _ start command single)
  | ruleConfiguration command =>
    exact untouched trivial (ruleConfiguration_inStep deliver _ start command)
  | modbusChannel command => exact modbusChannel_inStep deliver _ start command
  | rs485Settings settings => exact untouched trivial (rs485Settings_inStep deliver _ start settings)
  | modbusMasterSettings settings =>
    exact untouched trivial (modbusMasterSettings_inStep deliver _ start settings)
  | basicControl | periodicReportEnquiry | lnsTimeSync | historyQuery | ruleEnquiry
  | rs485SettingsEnquiry => cases configures

/-! The boot. -/

theorem loadSlot_beyond (beyond other : UInt8) (flash : Flash Nat Bytes) (slot : UInt8)
    (fits : ∀ record, flash slot.toNat = some record → byteAt record 7 ≠ 16) :
    Stores.loadSlot beyond flash slot = Stores.loadSlot other flash slot := by
  unfold Stores.loadSlot
  split
  · rfl
  · rfl
  · rename_i record _ held
    split
    · rfl
    · rename_i whole
      have length : record.length = 23 := not_not.mp whole
      have same : Stores.decodeChannelRecord beyond record =
          Stores.decodeChannelRecord other record := by
        unfold Stores.decodeChannelRecord
        split
        · rfl
        · split
          · rfl
          · rename_i sane
            have most : (byteAt record 7).toNat ≤ 16 := by
              rw [Bool.or_eq_true, not_or, decide_eq_true_eq, decide_eq_true_eq] at sane
              have limit : kMaxChannelNameLength = 16 := rfl
              omega
            have short : (byteAt record 7).toNat ≠ 16 := fun long =>
              fits record held (UInt8.toNat_inj.mp long)
            have name : Stores.recordName beyond record = Stores.recordName other record := by
              have room : (byteAt record 7).toNat ≤ (record.drop 8).length := by
                rw [List.length_drop]
                omega
              rw [Stores.recordName, Stores.recordName,
                List.drop_append_of_le_length (by omega), List.drop_append_of_le_length (by omega),
                List.take_append_of_le_length room, List.take_append_of_le_length room]
            rw [name]
      rw [same]

/-- No record in flash holds a name of 16 bytes. -/
def RecordsFit (stores : Stores) : Prop :=
  ∀ slot record, stores.channels slot = some record → byteAt record 7 ≠ 16

theorem beginModbus_configuration (modbus : ModbusComponent) (nowMs : UInt32)
    (begun : ModbusComponent) (run : beginModbus modbus nowMs = some begun) :
    begun.rs485Settings = modbus.rs485Settings ∧ begun.masterSettings = modbus.masterSettings ∧
    begun.channels = modbus.channels := by
  unfold beginModbus at run
  split at run
  · dsimp only at run
    split at run
    · cases run
    · rw [← Option.some.inj run]
      exact ⟨rfl, rfl, rfl⟩
  · rw [← Option.some.inj run]
    exact ⟨rfl, rfl, rfl⟩
  · rw [← Option.some.inj run]
    exact ⟨rfl, rfl, rfl⟩

theorem loadReportSettings_valid (s : Stores) (settings : ReportIntervalSettings)
    (kept : s.loadReportSettings = some settings) :
    validReportIntervalSettings settings = true := by
  unfold Stores.loadReportSettings at kept
  split at kept
  · rw [← Option.some.inj kept]
    rfl
  · split at kept
    · rename_i valid
      rw [← Option.some.inj kept]
      exact valid
    · cases kept

structure Booted (beyond : UInt8) (stores : Stores) (app : State) : Prop where
  flash : app.stores = stores
  report : stores.loadReportSettings = some app.scheduler.settings
  time : stores.loadTimeSettings = some app.timeSettings
  history : stores.loadHistorySettings = some app.history.settings
  rs485 : stores.loadRs485Settings = some app.modbus.rs485Settings
  master : stores.loadModbusMasterSettings = some app.modbus.masterSettings
  ready : serialReady app.modbus.rs485Settings app.modbus.masterSettings = true
  channels : ∃ modbus taken, modbus.channels = [] ∧
    loadModbusChannels beyond stores modbus {} = some (taken, app.channels) ∧
    app.modbus.channels = taken.channels
  rules : app.rules.state = stores.loadRules

theorem takeChannels_configuration (stored : List ChannelConfig) (modbus : ModbusComponent)
    (channels : ChannelRegistry) (taken : ModbusComponent) (bindings : ChannelRegistry)
    (run : takeChannels stored modbus channels = some (taken, bindings)) :
    taken.rs485Settings = modbus.rs485Settings ∧ taken.masterSettings = modbus.masterSettings := by
  induction stored generalizing modbus channels with
  | nil =>
    obtain ⟨rfl, rfl⟩ := Prod.mk.inj (Option.some.inj run)
    exact ⟨rfl, rfl⟩
  | cons channel rest ih =>
    rw [takeChannels] at run
    dsimp only at run
    split at run
    · cases run
    · obtain ⟨rs485, master⟩ := ih _ _ run
      have same := ModbusComponent.configuration_upsertChannel channel modbus
      split at same
      · exact ⟨rs485.trans (congrArg ComponentConfiguration.rs485Settings same.2),
          master.trans (congrArg ComponentConfiguration.masterSettings same.2)⟩
      · rw [same] at rs485 master
        exact ⟨rs485, master⟩

theorem loadModbusChannels_configuration (beyond : UInt8) (stores : Stores)
    (modbus : ModbusComponent) (channels : ChannelRegistry) (taken : ModbusComponent)
    (bindings : ChannelRegistry)
    (run : loadModbusChannels beyond stores modbus channels = some (taken, bindings)) :
    taken.rs485Settings = modbus.rs485Settings ∧ taken.masterSettings = modbus.masterSettings := by
  obtain ⟨stored, _, run⟩ := Option.bind_eq_some_iff.mp run
  exact takeChannels_configuration stored modbus channels taken bindings run

theorem boot_booted (config : DeviceConfig) (clock : Clock) (beyond : UInt8) (ring : History.Ring)
    (retransmission : History.RetransmissionState) (stores : Stores) (app : State)
    (booted : boot config clock beyond ring retransmission stores = some app) :
    Booted beyond stores app := by
  unfold boot at booted
  dsimp only at booted
  obtain ⟨rs485, loadedRs485, booted⟩ := Option.bind_eq_some_iff.mp booted
  have serial := ModbusComponent.configuration_applyRs485SerialSettings clock.millis rs485
    { mode := config.modbus }
  generalize ModbusComponent.applyRs485SerialSettings clock.millis rs485
    { mode := config.modbus } = applying at serial booted
  obtain ⟨wired, applied⟩ := applying
  dsimp only at serial booted
  split at booted
  case isFalse => cases booted
  rename_i wiring
  subst wiring
  split at serial
  case isFalse => cases serial
  have wiredRs485 : wired.rs485Settings = rs485 :=
    congrArg ComponentConfiguration.rs485Settings serial.2
  have wiredChannels : wired.channels = [] :=
    congrArg ComponentConfiguration.channels serial.2
  obtain ⟨master, loadedMaster, booted⟩ := Option.bind_eq_some_iff.mp booted
  have timed := ModbusComponent.configuration_applyModbusMasterSettings clock.millis master wired
  generalize ModbusComponent.applyModbusMasterSettings clock.millis master wired = applying
    at timed booted
  obtain ⟨set, applied⟩ := applying
  dsimp only at timed booted
  split at booted
  case isFalse => cases booted
  rename_i setting
  subst setting
  split at timed
  case isFalse => cases timed
  rename_i supported
  have setRs485 : set.rs485Settings = rs485 :=
    (congrArg ComponentConfiguration.rs485Settings timed.2).trans wiredRs485
  have setMaster : set.masterSettings = master :=
    congrArg ComponentConfiguration.masterSettings timed.2
  have setChannels : set.channels = [] :=
    (congrArg ComponentConfiguration.channels timed.2).trans wiredChannels
  rw [wiredRs485, Bool.and_eq_true] at supported
  obtain ⟨report, loadedReport, booted⟩ := Option.bind_eq_some_iff.mp booted
  obtain ⟨timeSettings, loadedTime, booted⟩ := Option.bind_eq_some_iff.mp booted
  obtain ⟨historySettings, loadedHistory, booted⟩ := Option.bind_eq_some_iff.mp booted
  obtain ⟨⟨taken, bindings⟩, loadedChannels, booted⟩ := Option.bind_eq_some_iff.mp booted
  obtain ⟨begun, run, booted⟩ := Option.bind_eq_some_iff.mp booted
  obtain rfl := Option.some.inj booted
  obtain ⟨begunRs485, begunMaster, begunChannels⟩ := beginModbus_configuration _ _ begun run
  obtain ⟨takenRs485, takenMaster⟩ :=
    loadModbusChannels_configuration beyond stores set {} taken bindings loadedChannels
  rw [takenRs485, setRs485] at begunRs485
  rw [takenMaster, setMaster] at begunMaster
  have scheduled : (ReportScheduler.begin report clock.millis {}).settings = report := by
    rw [ReportScheduler.begin, loadReportSettings_valid stores report loadedReport]
    rfl
  refine ⟨rfl, ?_, loadedTime, loadedHistory, ?_, ?_, ?_, ⟨set, taken, setChannels,
    loadedChannels, begunChannels⟩, rfl⟩
  · rw [loadedReport, scheduled]
  · rw [loadedRs485, begunRs485]
  · rw [loadedMaster, begunMaster]
  · rw [begunRs485, begunMaster]
    exact supported.2

/-- After a boot everything is in step, and the channels are kept. -/
theorem boot_spec (config : DeviceConfig) (clock : Clock) (beyond : UInt8) (ring : History.Ring)
    (retransmission : History.RetransmissionState) (stores : Stores) (app : State)
    (booted : boot config clock beyond ring retransmission stores = some app)
    (fits : RecordsFit stores) :
    InStep app ∧ ChannelsKept app.stores.channels app.modbus.channels := by
  obtain ⟨same, report, time, history, rs485, master, ready, channels, rules⟩ :=
    boot_booted config clock beyond ring retransmission stores app booted
  obtain ⟨modbus, taken, empty, loaded, list⟩ := channels
  cases held : Stores.loadSlots beyond stores.channels Stores.kSlots with
  | none =>
    rw [loadModbusChannels, held] at loaded
    cases loaded
  | some stored =>
    obtain ⟨distinct, _, within, outside⟩ :=
      Stores.loadSlots_spec beyond stores.channels _ Stores.kSlots_once stored held
    obtain ⟨taken', bindings, loaded', configured, bound⟩ :=
      loadModbusChannels_spec beyond stores stored held modbus empty
    rw [loaded] at loaded'
    obtain ⟨rfl, rfl⟩ := Prod.mk.inj (Option.some.inj loaded')
    have channels : app.modbus.channels = stored :=
      list.trans (congrArg ComponentConfiguration.channels configured)
    have kept : ChannelsKept stores.channels stored := by
      refine ⟨fun other slot member => ?_, outside⟩
      rw [loadSlot_beyond other beyond stores.channels slot fun record held =>
        fits slot.toNat record held, within slot member]
      rfl
    rw [same, channels]
    refine ⟨⟨⟨?_, ?_, ?_, ?_, ?_, ?_⟩, ?_, ?_, ready⟩, kept⟩
    · rw [same, report]
    · rw [same, time]
    · rw [same, history]
    · rw [same, rs485]
    · rw [same, master]
    · rw [same, rules]
      exact fun _ _ => rfl
    · rw [channels]
      exact distinct
    · rw [channels]
      exact bound

/-! Runs. -/

/-- From a boot on, live and stored configuration stay the same exactly if no channel is stored
with a name of 16 bytes. -/
theorem configuration_durable_iff (deliver : Deliver State) (config : DeviceConfig)
    (clock : Clock) (beyond : UInt8) (ring : History.Ring)
    (retransmission : History.RetransmissionState) (stores : Stores) (app : State)
    (steps : List ConfigurationStep)
    (booted : boot config clock beyond ring retransmission stores = some app)
    (fits : RecordsFit stores) (whole : Always (configure deliver) WritesWhole app steps) :
    Always (configure deliver) (fun app x => Durable (configure deliver app x)) app steps ↔
      Always (configure deliver) NamesFit app steps := by
  refine always_iff_along (configure deliver)
    (fun app => InStep app ∧ ChannelsKept app.stores.channels app.modbus.channels) WritesWhole
    _ _ ?_ ?_ app steps (boot_spec _ _ _ _ _ _ app booted fits) whole
  · rintro app x ⟨inStep, kept⟩ whole
    obtain ⟨after, iff⟩ := configure_spec deliver app x inStep whole
    rw [durable_iff _ after, iff kept]
  · rintro app x ⟨inStep, kept⟩ whole durable
    obtain ⟨after, _⟩ := configure_spec deliver app x inStep whole
    exact ⟨after, (durable_iff _ after).mp durable⟩

/-! The first channel is set up on an empty device, and given a name of 16 bytes. -/

def upsertStep : ConfigurationStep where
  clock := {}
  outcomes := []
  command := .modbusChannel { operation := .upsert, channel := {} }
  configures := rfl

def sixteenBytes : Bytes := ascii "sixteen bytes ok"

def nameStep : ConfigurationStep where
  clock := {}
  outcomes := []
  command := .modbusChannel
    { operation := .setName
      channel := { name := Vector.ofFn fun i => byteAt sixteenBytes i } }
  configures := rfl

/-- The two steps as one downlink. -/
example : parseCommands ([0xff, 0xef, 0x01, 0x01, 0x01, 0x00, 0x00, 0x00, 0x01] ++
    [0xff, 0xef, 0x02, 0x01, 0x10] ++ sixteenBytes) =
    .parsed [upsertStep.command, nameStep.command] := by
  decide +kernel

def freshDevice : State := (boot {} {} 0 default {} {}).getD {}

theorem freshDevice_booted : boot {} {} 0 default {} {} = some freshDevice := by
  have some : (boot {} {} 0 default {} {}).isSome = true := by decide +kernel
  obtain ⟨app, booted⟩ := Option.isSome_iff_exists.mp some
  rw [freshDevice, booted, Option.getD_some]

theorem recordsFit_empty : RecordsFit {} := by
  intro slot record held
  cases held

theorem writesWhole_channel (app : State) (x : ConfigurationStep)
    (command : ModbusChannelCommand) (single : x.outcomes.count false ≤ 1)
    (channel : x.command = .modbusChannel command) : WritesWhole app x := by
  refine ⟨single, ?_, ?_⟩
  · intro updated member
    rw [channel] at member
    cases member
  · intro updated member
    rw [channel] at member
    cases member

theorem configuration_durable_upsert :
    Always (configure (deliverNested 0))
        (fun app x => Durable (configure (deliverNested 0) app x)) freshDevice [upsertStep] ↔
      Always (configure (deliverNested 0)) NamesFit freshDevice [upsertStep] := by
  refine configuration_durable_iff (deliverNested 0) {} {} 0 default {} {} freshDevice
    [upsertStep] freshDevice_booted recordsFit_empty ?_
  rw [always_cons]
  exact ⟨writesWhole_channel _ _ _ (by decide) rfl, always_nil _ _ _⟩

/-- The name of 16 bytes is live, and is not what the next boot reads back. -/
theorem long_name_lost :
    boot {} {} 0 default {} {} = some freshDevice ∧ RecordsFit {} ∧
    Always (configure (deliverNested 0)) WritesWhole freshDevice [upsertStep, nameStep] ∧
    ¬ Always (configure (deliverNested 0))
      (fun app x => Durable (configure (deliverNested 0) app x)) freshDevice
      [upsertStep, nameStep] := by
  have first := writesWhole_channel freshDevice upsertStep _ (by decide) rfl
  have second := writesWhole_channel (configure (deliverNested 0) freshDevice upsertStep)
    nameStep _ (by decide) rfl
  refine ⟨freshDevice_booted, recordsFit_empty, ?_, fun always => ?_⟩
  · rw [always_cons, always_cons]
    exact ⟨first, second, always_nil _ _ _⟩
  · simp only [always_cons] at always
    obtain ⟨inStep, kept⟩ := boot_spec _ _ _ _ _ _ _ freshDevice_booted recordsFit_empty
    obtain ⟨between, iff⟩ := configure_spec (deliverNested 0) freshDevice upsertStep inStep first
    obtain ⟨after, last⟩ := configure_spec (deliverNested 0) _ nameStep between second
    have fits := (last ((durable_iff _ between).mp always.1)).mp
      ((durable_iff _ after).mp always.2.1)
    have long : (channelToSave
        { operation := .setName
          channel := { name := Vector.ofFn fun i => byteAt sixteenBytes i } }
        (configure (deliverNested 0) freshDevice upsertStep).modbus).any (fun config =>
          validChannelConfig config && (Stores.nameBytes config.name).length == 16) = true := by
      decide +kernel
    obtain ⟨config, stored, long⟩ := (Option.any_eq_true _ _).mp long
    rw [Bool.and_eq_true, beq_iff_eq] at long
    exact fits config stored long.1 rfl long.2

end Application
