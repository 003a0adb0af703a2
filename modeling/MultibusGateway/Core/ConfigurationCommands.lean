import MultibusGateway.Core.ChannelPersistence
import MultibusGateway.Core.RoundTrips

/-! The commands that configure. Each of them works on one store and on the live part that the
store keeps, and leaves the two in step. -/

namespace Application
open ByteString Preferences Modbus Lorawan KeyedList

/-! Report and time. -/

theorem applyReportIntervalCommand_keeps (settings : ReportIntervalSettings) (clock : Clock)
    (scheduler : ReportScheduler) (history : HistoryLog) (stores : Stores)
    (kept : stores.loadReportSettings = some scheduler.settings) :
    ∃ scheduler' history' flash outcomes,
      (applyReportIntervalCommand settings clock scheduler history stores).1 =
        (scheduler', history', { stores with report := flash, outcomes := outcomes }) ∧
      history'.settings = history.settings ∧
      ({ stores with report := flash } : Stores).loadReportSettings =
        some scheduler'.settings := by
  unfold applyReportIntervalCommand
  cases valid : validReportIntervalSettings settings with
  | false => exact ⟨scheduler, history, stores.report, stores.outcomes, rfl, rfl, kept⟩
  | true =>
    obtain ⟨flash, outcomes, same, loads⟩ := Stores.saveReportSettings_cases settings stores
    generalize stores.saveReportSettings settings = saving at same loads ⊢
    obtain ⟨after, saved⟩ := saving
    dsimp only at same loads ⊢
    rw [same]
    cases saved with
    | false =>
      obtain rfl : flash = stores.report := loads
      exact ⟨scheduler, history, stores.report, outcomes, rfl, rfl, kept⟩
    | true =>
      have applied : scheduler.applySettings settings clock.millis =
          ({ scheduler with
             settings := settings
             nextReportAtMs := clock.millis + settings.seconds.toUInt32 * 1000 }, true) := by
        rw [ReportScheduler.applySettings, valid]
        rfl
      rw [applied]
      exact ⟨_, _, flash, outcomes, rfl, rfl, loads⟩

def TimeSaveWhole (updated : Time.Settings) (stores : Stores) : Prop :=
  (stores.saveTimeSettings updated).2 = false →
    (stores.saveTimeSettings updated).1.time = stores.time

theorem applyTimeSettings_keeps (updated settings : Time.Settings) (stores : Stores)
    (kept : stores.loadTimeSettings = some settings) (whole : TimeSaveWhole updated stores) :
    ∃ settings' flash outcomes,
      (applyTimeSettings updated settings stores).1 =
        (settings', { stores with time := flash, outcomes := outcomes }) ∧
      ({ stores with time := flash } : Stores).loadTimeSettings = some settings' := by
  obtain ⟨flash, outcomes, same, loads⟩ := Stores.saveTimeSettings_cases updated stores
  unfold TimeSaveWhole at whole
  unfold applyTimeSettings
  generalize stores.saveTimeSettings updated = saving at same loads whole ⊢
  obtain ⟨after, saved⟩ := saving
  dsimp only at same loads whole ⊢
  rw [same] at whole ⊢
  refine ⟨_, flash, outcomes, rfl, ?_⟩
  cases saved with
  | true => exact loads rfl
  | false =>
    obtain rfl : flash = stores.time := whole rfl
    exact kept

/-! History. -/

def HistorySaveWhole (updated : History.Settings) (stores : Stores) : Prop :=
  (stores.saveHistorySettings updated).2 = false →
    (stores.saveHistorySettings updated).1.historySettings = stores.historySettings

theorem applyHistorySettings_keeps (updated settings : History.Settings) (stores : Stores)
    (kept : stores.loadHistorySettings = some settings)
    (whole : HistorySaveWhole updated stores) :
    ∃ settings' flash outcomes,
      (applyHistorySettings updated settings stores).1 =
        (settings', { stores with historySettings := flash, outcomes := outcomes }) ∧
      ({ stores with historySettings := flash } : Stores).loadHistorySettings =
        some settings' := by
  unfold applyHistorySettings
  split
  · exact ⟨settings, stores.historySettings, stores.outcomes, rfl, kept⟩
  · obtain ⟨flash, outcomes, same, loads⟩ := Stores.saveHistorySettings_cases updated stores
    unfold HistorySaveWhole at whole
    generalize stores.saveHistorySettings updated = saving at same loads whole ⊢
    obtain ⟨after, saved⟩ := saving
    dsimp only at same loads whole ⊢
    rw [same] at whole ⊢
    refine ⟨_, flash, outcomes, rfl, ?_⟩
    cases saved with
    | true => exact loads rfl
    | false =>
      obtain rfl : flash = stores.historySettings := whole rfl
      exact kept

theorem saveRetransmission_frame (state : History.RetransmissionState) (s : Stores) :
    ∃ flash outcomes, (s.saveRetransmission state).1 =
      { s with retransmission := flash, outcomes := outcomes } := by
  unfold Stores.saveRetransmission
  split
  · exact ⟨s.retransmission, s.outcomes, rfl⟩
  · exact ⟨_, _, rfl⟩

theorem applyHistoryToggle_keeps (updated : History.Settings) (enabled : Bool)
    (parts : ToggleParts) (kept : parts.stores.loadHistorySettings = some parts.settings)
    (whole : HistorySaveWhole updated parts.stores) :
    ∃ flash marker outcomes,
      (applyHistoryToggle updated enabled parts).1.stores =
        { parts.stores with
          historySettings := flash, retransmission := marker, outcomes := outcomes } ∧
      ({ parts.stores with historySettings := flash } : Stores).loadHistorySettings =
        some (applyHistoryToggle updated enabled parts).1.settings := by
  obtain ⟨flash, outcomes, same, loads⟩ :=
    Stores.saveHistorySettings_cases updated parts.stores
  unfold HistorySaveWhole at whole
  unfold applyHistoryToggle
  generalize parts.stores.saveHistorySettings updated = saving at same loads whole ⊢
  obtain ⟨after, saved⟩ := saving
  dsimp only at same loads whole ⊢
  cases saved with
  | false =>
    rw [same] at whole
    obtain rfl : flash = parts.stores.historySettings := whole rfl
    exact ⟨parts.stores.historySettings, parts.stores.retransmission, outcomes, same, kept⟩
  | true =>
    rw [Bool.not_true, if_neg Bool.false_ne_true]
    split
    · obtain ⟨marker, left, cleared⟩ := saveRetransmission_frame {} after
      generalize after.saveRetransmission {} = clearing at cleared ⊢
      obtain ⟨final, done⟩ := clearing
      dsimp only at cleared ⊢
      rw [same] at cleared
      cases done <;> exact ⟨flash, marker, left, cleared, loads rfl⟩
    · exact ⟨flash, parts.stores.retransmission, outcomes, same, loads rfl⟩

/-! The bus. A rollback works because the parameters that were in use can be made again. -/

def serialReady (settings : Rs485SerialSettings) (master : ModbusMasterSettings) : Bool :=
  (makeRtuSerialConfig settings master.maxResponseTimeMs.toUInt32).isSome

theorem applyRs485SettingsCommand_keeps (settings : Rs485SerialSettings) (nowMs : UInt32)
    (modbus : ModbusComponent) (stores : Stores)
    (kept : stores.loadRs485Settings = some modbus.rs485Settings)
    (ready : serialReady modbus.rs485Settings modbus.masterSettings = true) :
    ∃ modbus' settings' flash outcomes,
      (applyRs485SettingsCommand settings nowMs modbus stores).1 =
        (modbus', { stores with rs485 := flash, outcomes := outcomes }) ∧
      modbus'.configuration = { modbus.configuration with rs485Settings := settings' } ∧
      serialReady settings' modbus.masterSettings = true ∧
      ({ stores with rs485 := flash } : Stores).loadRs485Settings = some settings' := by
  unfold applyRs485SettingsCommand
  split
  · exact ⟨modbus, modbus.rs485Settings, stores.rs485, stores.outcomes, rfl, rfl, ready, kept⟩
  · have taken := ModbusComponent.configuration_applyRs485SerialSettings nowMs settings modbus
    split at taken
    · rename_i usable
      obtain ⟨applied, configured⟩ := taken
      generalize modbus.applyRs485SerialSettings nowMs settings = applying at applied configured ⊢
      obtain ⟨changed, done⟩ := applying
      dsimp only at applied configured ⊢
      obtain rfl : done = true := applied
      obtain ⟨flash, outcomes, same, loads⟩ := Stores.saveRs485Settings_cases settings stores
      generalize stores.saveRs485Settings settings = saving at same loads ⊢
      obtain ⟨after, saved⟩ := saving
      dsimp only at same loads ⊢
      rw [same]
      cases saved with
      | true => exact ⟨changed, settings, flash, outcomes, rfl, configured, usable, loads⟩
      | false =>
        have master : changed.masterSettings = modbus.masterSettings :=
          congrArg ComponentConfiguration.masterSettings configured
        have back := ModbusComponent.configuration_applyRs485SerialSettings nowMs
          modbus.rs485Settings changed
        unfold serialReady at ready
        rw [master, if_pos ready, configured] at back
        obtain rfl : flash = stores.rs485 := loads
        exact ⟨_, modbus.rs485Settings, stores.rs485, outcomes, rfl, back.2, ready, kept⟩
    · rw [taken]
      exact ⟨modbus, modbus.rs485Settings, stores.rs485, stores.outcomes, rfl, rfl, ready, kept⟩

theorem Stores.loadModbusMasterSettings_valid (s : Stores) (settings : ModbusMasterSettings)
    (kept : s.loadModbusMasterSettings = some settings) :
    validModbusMasterSettings settings = true := by
  unfold loadModbusMasterSettings at kept
  split at kept
  · rw [← Option.some.inj kept]
    rfl
  · rw [← Option.some.inj kept]
    rfl
  · split at kept
    · cases kept
    · split at kept
      · cases kept
      · dsimp only at kept
        split at kept
        · rename_i valid
          rw [← Option.some.inj kept]
          exact valid
        · cases kept

theorem clearSlots_settings (slots : List UInt8) (s : ReportScheduler) :
    (slots.foldl (fun s slot => s.clearSlot slot) s).settings = s.settings := by
  induction slots generalizing s with
  | nil => rfl
  | cons slot rest ih =>
    rw [List.foldl_cons, ih, ReportScheduler.clearSlot]
    split <;> rfl

theorem applyModbusMasterSettingsCommand_keeps (settings : ModbusMasterSettings) (nowMs : UInt32)
    (parts : MasterParts)
    (kept : parts.stores.loadModbusMasterSettings = some parts.modbus.masterSettings)
    (ready : serialReady parts.modbus.rs485Settings parts.modbus.masterSettings = true) :
    ∃ settings' flash outcomes,
      (applyModbusMasterSettingsCommand settings nowMs parts).1.stores =
        { parts.stores with master := flash, outcomes := outcomes } ∧
      (applyModbusMasterSettingsCommand settings nowMs parts).1.modbus.configuration =
        { parts.modbus.configuration with masterSettings := settings' } ∧
      (applyModbusMasterSettingsCommand settings nowMs parts).1.scheduler.settings =
        parts.scheduler.settings ∧
      (applyModbusMasterSettingsCommand settings nowMs parts).1.history.settings =
        parts.history.settings ∧
      serialReady parts.modbus.rs485Settings settings' = true ∧
      ({ parts.stores with master := flash } : Stores).loadModbusMasterSettings =
        some settings' := by
  unfold applyModbusMasterSettingsCommand
  split
  · exact ⟨parts.modbus.masterSettings, parts.stores.master, parts.stores.outcomes, rfl, rfl, rfl,
      rfl, ready, kept⟩
  · have taken := ModbusComponent.configuration_applyModbusMasterSettings nowMs settings
      parts.modbus
    split at taken
    · rename_i usable
      obtain ⟨applied, configured⟩ := taken
      generalize parts.modbus.applyModbusMasterSettings nowMs settings = applying
        at applied configured ⊢
      obtain ⟨changed, done⟩ := applying
      dsimp only at applied configured ⊢
      obtain rfl : done = true := applied
      obtain ⟨flash, outcomes, same, loads⟩ :=
        Stores.saveModbusMasterSettings_cases settings parts.stores
      generalize parts.stores.saveModbusMasterSettings settings = saving at same loads ⊢
      obtain ⟨after, saved⟩ := saving
      dsimp only at same loads ⊢
      rw [Bool.and_eq_true] at usable
      cases saved with
      | true =>
        simp only [Bool.not_true, Bool.false_eq_true, if_false]
        split
        · exact ⟨settings, flash, outcomes, same, configured,
            clearSlots_settings _ parts.scheduler.abortReport, rfl, usable.2, loads⟩
        · exact ⟨settings, flash, outcomes, same, configured, rfl, rfl, usable.2, loads⟩
      | false =>
        have rs485 : changed.rs485Settings = parts.modbus.rs485Settings :=
          congrArg ComponentConfiguration.rs485Settings configured
        have supported : runtimeSupportsModbusMasterSettings parts.modbus.masterSettings = true :=
          Stores.loadModbusMasterSettings_valid _ _ kept
        have back := ModbusComponent.configuration_applyModbusMasterSettings nowMs
          parts.modbus.masterSettings changed
        unfold serialReady at ready
        rw [rs485, supported, Bool.true_and, if_pos ready, configured] at back
        obtain rfl : flash = parts.stores.master := loads
        exact ⟨parts.modbus.masterSettings, parts.stores.master, outcomes, same, back.2, rfl, rfl,
          ready, kept⟩
    · rw [taken]
      exact ⟨parts.modbus.masterSettings, parts.stores.master, parts.stores.outcomes, rfl, rfl,
        rfl, rfl, ready, kept⟩

/-! The rules. After a save that fails the ones before it are taken back, one by one, and live
and stored records stay in step as long as these saves succeed. -/

def RulesKept (flash : Flash Nat Rules.RuleRecord) (state : Rules.RuleState) : Prop :=
  ∀ index, index < Rules.kRuleCount → (flash (index + 1)).getD {} = state.rules index

def foreignRule (ruleId : UInt8) : Bool := ruleId < 1 || ruleId.toNat > Rules.kRuleCount

theorem foreignRule_of_rule (state : Rules.RuleState) (ruleId : UInt8) (record : Rules.RuleRecord)
    (found : state.rule ruleId = some record) : foreignRule ruleId = false := by
  unfold Rules.RuleState.rule at found
  split at found
  · cases found
  · rename_i own
    exact eq_false_of_ne_true own

def ruleIndex (ruleId : UInt8) : Nat := (ruleId - 1).toNat

theorem ruleIndex_own (ruleId : UInt8) (own : foreignRule ruleId = false) :
    ruleIndex ruleId < Rules.kRuleCount ∧ ruleIndex ruleId + 1 = ruleId.toNat := by
  rw [foreignRule, Bool.or_eq_false_iff, decide_eq_false_iff_not, decide_eq_false_iff_not,
    UInt8.not_lt] at own
  have first := UInt8.le_iff_toNat_le.mp own.1
  rw [ruleIndex, UInt8.toNat_sub_of_le _ _ own.1]
  rw [UInt8.toNat_one] at first ⊢
  omega

theorem rulesKept_setRule (flash : Flash Nat Rules.RuleRecord) (state : Rules.RuleState)
    (kept : RulesKept flash state) (ruleId : UInt8) (record : Rules.RuleRecord)
    (own : foreignRule ruleId = false) :
    RulesKept (Function.update flash ruleId.toNat (some record)) (state.setRule ruleId record) := by
  obtain ⟨-, position⟩ := ruleIndex_own ruleId own
  intro index inside
  change _ = Function.update state.rules (ruleIndex ruleId) record index
  by_cases same : index = ruleIndex ruleId
  · rw [same, position, Function.update_self, Function.update_self, Option.getD_some]
  · rw [Function.update_of_ne (by omega), Function.update_of_ne same]
    exact kept index inside

/-- Only the rules have been written since, and the store keeps the live ones. -/
def RulesInStep (before : Stores) (rules : RuleEngine) (after : Stores) : Prop :=
  ∃ flash outcomes, after = { before with rules := flash, outcomes := outcomes } ∧
    RulesKept flash rules.state

theorem saveRule_inStep (before : Stores) (rules : RuleEngine) (after : Stores)
    (kept : RulesInStep before rules after) (ruleId : UInt8) (record : Rules.RuleRecord)
    (own : foreignRule ruleId = false) :
    if (after.saveRule ruleId record).2 then
      RulesInStep before (rules.setRule ruleId record) (after.saveRule ruleId record).1 ∧
      (after.saveRule ruleId record).1.outcomes.count false = after.outcomes.count false
    else
      RulesInStep before rules (after.saveRule ruleId record).1 ∧
      (after.saveRule ruleId record).1.outcomes.count false + 1 =
        after.outcomes.count false := by
  obtain ⟨flash, outcomes, rfl, kept⟩ := kept
  unfold foreignRule at own
  unfold Stores.saveRule
  rw [own, if_neg Bool.false_ne_true, putAll_single]
  cases outcomes with
  | nil => exact ⟨⟨_, [], rfl, rulesKept_setRule flash rules.state kept ruleId record own⟩, rfl⟩
  | cons stored rest =>
    cases stored with
    | true =>
      exact ⟨⟨_, rest, rfl, rulesKept_setRule flash rules.state kept ruleId record own⟩, rfl⟩
    | false => exact ⟨⟨flash, rest, rfl, kept⟩, List.count_cons_self.symm⟩

theorem rollbackRules_inStep (before : Stores) (originals : List (UInt8 × Rules.RuleRecord))
    (rules : RuleEngine) (after : Stores) (kept : RulesInStep before rules after)
    (reliable : after.outcomes.count false = 0)
    (own : ∀ original ∈ originals, foreignRule original.1 = false) :
    RulesInStep before (rollbackRules originals rules after).1
      (rollbackRules originals rules after).2 := by
  unfold rollbackRules
  induction originals generalizing rules after with
  | nil => exact kept
  | cons original rest ih =>
    obtain ⟨first, others⟩ := List.forall_mem_cons.mp own
    have saved := saveRule_inStep before rules after kept original.1 original.2 first
    split at saved
    · exact ih _ _ saved.1 (saved.2.trans reliable) others
    · omega

theorem applyRuleStatuses_inStep (operation : RuleStatusOperation) (before : Stores)
    (ruleIds : List UInt8) (originals : List (UInt8 × Rules.RuleRecord)) (rules : RuleEngine)
    (after : Stores) (kept : RulesInStep before rules after)
    (reliable : after.outcomes.count false ≤ 1)
    (own : ∀ original ∈ originals, foreignRule original.1 = false) :
    RulesInStep before (applyRuleStatuses operation ruleIds originals rules after).1.1
      (applyRuleStatuses operation ruleIds originals rules after).1.2 := by
  induction ruleIds generalizing originals rules after with
  | nil => exact kept
  | cons ruleId rest ih =>
    unfold applyRuleStatuses
    split
    · exact kept
    · rename_i current found
      have inside := foreignRule_of_rule rules.state ruleId current found
      have saved := saveRule_inStep before rules after kept ruleId
        (updateRuleStatus operation current) inside
      dsimp only
      generalize after.saveRule ruleId (updateRuleStatus operation current) = saving
        at saved ⊢
      obtain ⟨stores, done⟩ := saving
      cases done with
      | true =>
        obtain ⟨kept, count⟩ := saved
        refine ih _ _ stores ?_ (count.le.trans reliable) ?_
        · split
          · exact kept
          · exact kept
        · intro original member
          rcases List.mem_append.mp member with earlier | last
          · exact own original earlier
          · rw [List.mem_singleton.mp last]
            exact inside
      | false =>
        obtain ⟨kept, count⟩ := saved
        dsimp only at count
        exact rollbackRules_inStep before originals rules stores kept (by omega) own

theorem applyRuleConfigurationCommand_inStep (command : RuleConfigurationCommand)
    (parts : RuleParts) (kept : RulesKept parts.stores.rules parts.rules.state) :
    RulesInStep parts.stores (applyRuleConfigurationCommand command parts).1.rules
      (applyRuleConfigurationCommand command parts).1.stores := by
  have start : RulesInStep parts.stores parts.rules parts.stores :=
    ⟨parts.stores.rules, parts.stores.outcomes, rfl, kept⟩
  unfold applyRuleConfigurationCommand
  split
  · exact start
  · rename_i current found
    split
    · exact start
    · rename_i frame accepted
      have saved := saveRule_inStep parts.stores parts.rules parts.stores start command.ruleId
        (({ current with enabled := command.enabled } : Rules.RuleRecord).setFrame
          command.slot frame) (foreignRule_of_rule _ _ current found)
      dsimp only
      generalize parts.stores.saveRule command.ruleId _ = saving at saved ⊢
      obtain ⟨stores, done⟩ := saving
      cases done with
      | true =>
        obtain ⟨kept, _⟩ := saved
        simp only [Bool.not_true, Bool.false_eq_true, if_false]
        split
        · exact kept
        · exact kept
      | false => exact saved.1

/-! The channels. -/

def RecordFits (config : ChannelConfig) (stores : Stores) : Prop :=
  validChannelConfig config = true → (draw stores.outcomes).1 = true →
    (Stores.nameBytes config.name).length ≠ 16

theorem saveModbusChannel_keeps (config : ChannelConfig) (channels : List ChannelConfig)
    (stores : Stores) :
    (∃ outcomes, stores.saveModbusChannel config = ({ stores with outcomes := outcomes }, false) ∧
      RecordFits config stores) ∨
    ∃ flash outcomes,
      stores.saveModbusChannel config =
        ({ stores with channels := flash, outcomes := outcomes }, true) ∧
      validChannelConfig config = true ∧
      (ChannelsKept stores.channels channels →
        (ChannelsKept flash (upsert ChannelConfig.slot config channels) ↔
          RecordFits config stores)) := by
  obtain ⟨flash, outcomes, same, saved, written⟩ := Stores.saveModbusChannel_cases config stores
  cases done : (stores.saveModbusChannel config).2 with
  | false =>
    rw [done, if_neg Bool.false_ne_true] at written
    subst written
    have failed : ¬(validChannelConfig config = true ∧ (draw stores.outcomes).1 = true) := by
      rw [← Bool.and_eq_true, ← saved, done]
      exact Bool.false_ne_true
    exact .inl ⟨outcomes, Prod.ext same done, fun valid drawn => absurd ⟨valid, drawn⟩ failed⟩
  | true =>
    rw [done, if_pos rfl] at written
    rw [done, eq_comm, Bool.and_eq_true] at saved
    refine .inr ⟨flash, outcomes, Prod.ext same done, saved.1, fun kept => ?_⟩
    rw [written, channelsKept_upsert_iff stores.channels channels kept config saved.1]
    exact ⟨fun short _ _ => short, fun fits => fits saved.1 saved.2⟩

def channelToSave (command : ModbusChannelCommand) (modbus : ModbusComponent) :
    Option ChannelConfig :=
  match command.operation with
  | .upsert => some command.channel
  | .remove => none
  | .setName =>
    (modbus.channelForSlot command.channel.slot).bind fun current =>
      setChannelName current (Stores.nameBytes command.channel.name)

/-- The channel parts after a command: the live channels have their bindings, and the store still
keeps them exactly if the record that was asked for fits. -/
structure ChannelsInStep (command : ModbusChannelCommand) (parts after : ChannelParts) : Prop where
  stores : ∃ outcomes, after.stores =
    { parts.stores with channels := after.stores.channels, outcomes := outcomes }
  modbus : after.modbus.configuration =
    { parts.modbus.configuration with channels := after.modbus.channels }
  scheduler : after.scheduler.settings = parts.scheduler.settings
  distinct : Distinct ChannelConfig.slot after.modbus.channels
  bound : Bound after.modbus.channels after.channels
  kept : ChannelsKept parts.stores.channels parts.modbus.channels →
    (ChannelsKept after.stores.channels after.modbus.channels ↔
      ∀ config ∈ channelToSave command parts.modbus, RecordFits config parts.stores)

theorem clearSlot_settings (slot : UInt8) (s : ReportScheduler) :
    (s.clearSlot slot).settings = s.settings := by
  unfold ReportScheduler.clearSlot
  split <;> rfl

section
variable (command : ModbusChannelCommand) (parts : ChannelParts)
variable (distinct : Distinct ChannelConfig.slot parts.modbus.channels)
variable (bound : Bound parts.modbus.channels parts.channels)
include distinct bound

section
variable (config : ChannelConfig) (save : channelToSave command parts.modbus = some config)
include save

theorem unsaved_inStep (outcomes : List Bool) (fits : RecordFits config parts.stores) :
    ChannelsInStep command parts
      { parts with stores := { parts.stores with outcomes := outcomes } } := by
  refine ⟨⟨outcomes, rfl⟩, rfl, rfl, distinct, bound, fun kept => iff_of_true kept ?_⟩
  intro other member
  rw [save] at member
  exact Option.some.inj member ▸ fits

omit bound in
theorem saved_inStep (flash : Flash Nat Bytes) (outcomes : List Bool)
    (valid : validChannelConfig config = true)
    (kept : ChannelsKept parts.stores.channels parts.modbus.channels →
      (ChannelsKept flash (upsert ChannelConfig.slot config parts.modbus.channels) ↔
        RecordFits config parts.stores))
    (after : ChannelParts)
    (stores : after.stores = { parts.stores with channels := flash, outcomes := outcomes })
    (modbus : after.modbus = (parts.modbus.upsertChannel config).1)
    (scheduler : after.scheduler.settings = parts.scheduler.settings)
    (rebound : Bound (upsert ChannelConfig.slot config parts.modbus.channels) after.channels) :
    ChannelsInStep command parts after := by
  have upserted := ModbusComponent.configuration_upsertChannel config parts.modbus
  rw [if_pos valid] at upserted
  obtain ⟨-, configured⟩ := upserted
  have list : (parts.modbus.upsertChannel config).1.channels =
      upsert ChannelConfig.slot config parts.modbus.channels :=
    congrArg ComponentConfiguration.channels configured
  refine ⟨⟨outcomes, by rw [stores]⟩, ?_, scheduler, ?_, ?_, fun held => ?_⟩
  · rw [modbus, configured, list]
  · rw [modbus, list]
    exact distinct_upsert _ _ _ distinct
  · rw [modbus, list]
    exact rebound
  · rw [stores, modbus, list, save]
    refine (kept held).trans ⟨fun fits other member => ?_, fun fits => fits config rfl⟩
    exact Option.some.inj member ▸ fits

end

theorem applyModbusChannelCommand_upsert (asked : command.operation = .upsert) :
    ChannelsInStep command parts (applyModbusChannelCommand command parts).1 := by
  have save : channelToSave command parts.modbus = some command.channel := by
    rw [channelToSave, asked]
  unfold applyModbusChannelCommand
  rw [asked]
  dsimp only
  obtain ⟨outcomes, failed, fits⟩ | ⟨flash, outcomes, saved, valid, kept⟩ :=
    saveModbusChannel_keeps command.channel parts.modbus.channels parts.stores
  · rw [failed]
    exact unsaved_inStep command parts distinct bound command.channel save outcomes fits
  · rw [saved]
    have upserted := ModbusComponent.configuration_upsertChannel command.channel parts.modbus
    rw [if_pos valid] at upserted
    obtain ⟨taken, -⟩ := upserted
    obtain ⟨-, rebound⟩ := bindCompatibilityChannel_bound command.channel
      parts.modbus.channels parts.channels valid bound
    rw [taken]
    simp only [Bool.not_true, Bool.false_eq_true, if_false]
    exact saved_inStep command parts distinct command.channel save flash outcomes valid kept _ rfl
      rfl (clearSlot_settings _ _) rebound

theorem applyModbusChannelCommand_remove (asked : command.operation = .remove) :
    ChannelsInStep command parts (applyModbusChannelCommand command parts).1 := by
  have save : channelToSave command parts.modbus = none := by
    rw [channelToSave, asked]
  have fits : ∀ config ∈ channelToSave command parts.modbus, RecordFits config parts.stores := by
    intro config member
    rw [save] at member
    cases member
  obtain ⟨flash, outcomes, same, written⟩ :=
    Stores.removeModbusChannel_cases command.channel.slot parts.stores
  unfold applyModbusChannelCommand
  rw [asked]
  dsimp only
  generalize parts.stores.removeModbusChannel command.channel.slot = removing
    at same written ⊢
  obtain ⟨stores, done⟩ := removing
  dsimp only at same written ⊢
  subst same
  cases done with
  | false =>
    obtain rfl : flash = parts.stores.channels := written
    exact ⟨⟨outcomes, rfl⟩, rfl, rfl, distinct, bound, fun kept => iff_of_true kept fits⟩
  | true =>
    obtain rfl : flash = Function.update parts.stores.channels command.channel.slot.toNat none :=
      written
    have configured :=
      ModbusComponent.configuration_removeChannel command.channel.slot parts.modbus
    have list : (parts.modbus.removeChannel command.channel.slot).1.channels =
        remove ChannelConfig.slot command.channel.slot parts.modbus.channels :=
      congrArg ComponentConfiguration.channels configured
    simp only [Bool.not_true, Bool.false_eq_true, if_false]
    refine ⟨⟨outcomes, rfl⟩, ?_, clearSlot_settings _ _, ?_, ?_, fun kept => iff_of_true ?_ fits⟩
    · rw [configured]
      dsimp only
      rw [list]
    · dsimp only
      rw [list]
      exact distinct_remove _ _ _ distinct
    · dsimp only
      rw [list]
      exact removeCompatibilitySlot_bound _ _ _ bound
    · dsimp only
      rw [list]
      exact channelsKept_remove _ _ kept distinct _

theorem applyModbusChannelCommand_setName (asked : command.operation = .setName) :
    ChannelsInStep command parts (applyModbusChannelCommand command parts).1 := by
  have save : channelToSave command parts.modbus =
      (parts.modbus.channelForSlot command.channel.slot).bind fun current =>
        setChannelName current (Stores.nameBytes command.channel.name) := by
    rw [channelToSave, asked]
  have refused (nothing : channelToSave command parts.modbus = none) :
      ChannelsInStep command parts parts := by
    refine ⟨⟨parts.stores.outcomes, rfl⟩, rfl, rfl, distinct, bound,
      fun kept => iff_of_true kept fun config member => ?_⟩
    rw [nothing] at member
    cases member
  unfold applyModbusChannelCommand
  rw [asked]
  dsimp only
  cases found : parts.modbus.channelForSlot command.channel.slot with
  | none => exact refused (by rw [save, found, Option.bind_none])
  | some current =>
    rw [found, Option.bind_some] at save
    dsimp only
    cases renamed : setChannelName current (Stores.nameBytes command.channel.name) with
    | none => exact refused (by rw [save, renamed])
    | some updated =>
      rw [renamed] at save
      dsimp only
      have own : updated.slot = current.slot ∧
          compatibilityBinding updated = compatibilityBinding current := by
        unfold setChannelName at renamed
        split at renamed
        · cases renamed
        · rw [← Option.some.inj renamed]
          exact ⟨rfl, compatibilityBinding_named current _⟩
      rw [ModbusComponent.channelForSlot_eq] at found
      have place : lookup ChannelConfig.slot updated.slot parts.modbus.channels = some current := by
        rw [own.1, key_of_lookup _ _ _ _ found]
        exact found
      obtain ⟨outcomes, failed, fits⟩ | ⟨flash, outcomes, saved, valid, kept⟩ :=
        saveModbusChannel_keeps updated parts.modbus.channels parts.stores
      · rw [failed]
        exact unsaved_inStep command parts distinct bound updated save outcomes fits
      · rw [saved]
        -- the bindings are not made again, and the name is no part of them
        have rebound : Bound (upsert ChannelConfig.slot updated parts.modbus.channels)
            parts.channels := by
          unfold Bound at bound ⊢
          rw [bound]
          exact (map_upsert_same ChannelConfig.slot compatibilityBinding updated current own.2
            parts.modbus.channels place).symm
        simp only [Bool.not_true, Bool.false_eq_true, if_false]
        exact saved_inStep command parts distinct updated save flash outcomes valid kept _ rfl rfl
          rfl rebound

theorem applyModbusChannelCommand_inStep :
    ChannelsInStep command parts (applyModbusChannelCommand command parts).1 := by
  cases asked : command.operation with
  | upsert => exact applyModbusChannelCommand_upsert command parts distinct bound asked
  | remove => exact applyModbusChannelCommand_remove command parts distinct bound asked
  | setName => exact applyModbusChannelCommand_setName command parts distinct bound asked

end

end Application
