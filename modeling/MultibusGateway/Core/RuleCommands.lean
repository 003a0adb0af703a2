import MultibusGateway.Core.ConfigurationCommands
import MultibusGateway.Rules.Acceptance

/-! What a rule command leaves behind when it fails, for the configuration of a rule. It is
acknowledged after it has been carried out, and there may be no room for the reply. -/

namespace Application
open ByteString Preferences Modbus Lorawan

/-- The live records, those in flash and the scheduled actions are what they were. -/
structure RulesUntouched (rules : RuleEngine) (stores : Stores) (afterwards : RuleEngine)
    (written : Stores) : Prop where
  records : ∀ index, index < Rules.kRuleCount →
    afterwards.state.rules index = rules.state.rules index
  stored : ∀ index, index < Rules.kRuleCount →
    written.loadRules.rules index = stores.loadRules.rules index
  scheduled : ∀ slot, slot < Rules.kScheduleSlots →
    afterwards.schedule.scheduled slot = rules.schedule.scheduled slot

def NothingScheduled (ruleId : UInt8) (rules : RuleEngine) : Prop :=
  ∀ slot, slot < Rules.kScheduleSlots →
    ((rules.schedule.scheduled slot).pending && (rules.schedule.scheduled slot).ruleId == ruleId) =
      false

/-! One rule. -/

theorem rule_own (state : Rules.RuleState) (ruleId : UInt8) (own : foreignRule ruleId = false) :
    state.rule ruleId = some (state.rules (ruleIndex ruleId)) := by
  unfold foreignRule at own
  rw [Rules.RuleState.rule, own]
  rfl

theorem setRule_rules (ruleId : UInt8) (record : Rules.RuleRecord) (engine : RuleEngine)
    (index : Nat) :
    (engine.setRule ruleId record).state.rules index =
      if index = ruleIndex ruleId then record else engine.state.rules index :=
  Function.update_apply engine.state.rules (ruleIndex ruleId) record index

theorem saveRule_own (s : Stores) (ruleId : UInt8) (record : Rules.RuleRecord)
    (own : foreignRule ruleId = false) :
    s.saveRule ruleId record =
      if (draw s.outcomes).1 then
        ({ s with
           rules := Function.update s.rules ruleId.toNat (some record)
           outcomes := (draw s.outcomes).2 }, true)
      else ({ s with outcomes := (draw s.outcomes).2 }, false) := by
  unfold foreignRule at own
  rw [Stores.saveRule, own, putAll_single]
  cases (draw s.outcomes).1 <;> rfl

theorem loadRules_update (s : Stores) (ruleId : UInt8) (record : Rules.RuleRecord)
    (outcomes : List Bool) (own : foreignRule ruleId = false) (index : Nat)
    (inside : index < Rules.kRuleCount) :
    ({ s with
       rules := Function.update s.rules ruleId.toNat (some record)
       outcomes := outcomes } : Stores).loadRules.rules index =
      if index = ruleIndex ruleId then record else s.loadRules.rules index := by
  obtain ⟨_, position⟩ := ruleIndex_own ruleId own
  simp only [Stores.loadRules, if_pos inside]
  by_cases same : index = ruleIndex ruleId
  · rw [if_pos same, same, position, Function.update_self, Option.getD_some]
  · rw [if_neg same, Function.update_of_ne (by omega)]

theorem cancelled_scheduled (ruleId : UInt8) (rules : RuleEngine) (slot : Nat) :
    (rules.cancelScheduledRuleActions ruleId).schedule.scheduled slot =
      if (rules.schedule.scheduled slot).pending && (rules.schedule.scheduled slot).ruleId == ruleId
      then {} else rules.schedule.scheduled slot := rfl

theorem cancelled_iff (ruleId : UInt8) (rules : RuleEngine) :
    (∀ slot, slot < Rules.kScheduleSlots →
      (rules.cancelScheduledRuleActions ruleId).schedule.scheduled slot =
        rules.schedule.scheduled slot) ↔ NothingScheduled ruleId rules := by
  refine forall_congr' fun slot => imp_congr_right fun _ => ?_
  rw [cancelled_scheduled]
  cases waits : (rules.schedule.scheduled slot).pending &&
      (rules.schedule.scheduled slot).ruleId == ruleId with
  | false => exact iff_of_true rfl rfl
  | true =>
    rw [Bool.and_eq_true] at waits
    refine iff_of_false (fun cleared => ?_) (fun none => by cases none)
    have pending := congrArg Rules.ScheduledRuleAction.pending cleared
    rw [waits.1] at pending
    cases pending

/-! A rule configuration. -/

def configuredRule (command : RuleConfigurationCommand) (current : Rules.RuleRecord)
    (frame : Rules.StoredFrame) : Rules.RuleRecord :=
  ({ current with enabled := command.enabled } : Rules.RuleRecord).setFrame command.slot frame

/-- The rule is live and stored as configured, and one more reply waits, with status zero. -/
def ConfigurationApplied (command : RuleConfigurationCommand) (parts after : RuleParts) : Prop :=
  ∃ current frame ack,
    parts.rules.state.rule command.ruleId = some current ∧
    (current.frames command.slot).set command.frame = some frame ∧
    after.rules.state.rule command.ruleId = some (configuredRule command current frame) ∧
    after.stores.loadRules.rules (ruleIndex command.ruleId) =
      configuredRule command current frame ∧
    after.replies.frames = parts.replies.frames ++ [ack] ∧
    ack.content = [0xf8, kRuleConfigurationType] ++ command.frame.drop 2 ++ [0x00]

/-- The configuration changes nothing: the rule is already as configured, live and in flash, and
no action of it is to be cancelled. -/
def ConfigurationIdle (command : RuleConfigurationCommand) (parts : RuleParts)
    (current : Rules.RuleRecord) (frame : Rules.StoredFrame) : Prop :=
  configuredRule command current frame = current ∧
  parts.stores.loadRules.rules (ruleIndex command.ruleId) = current ∧
  (command.enabled = false → NothingScheduled command.ruleId parts.rules)

/-- A configuration that is stored can be acknowledged, or it changes nothing. -/
def Acknowledgeable (command : RuleConfigurationCommand) (parts : RuleParts) : Prop :=
  ∀ current frame, parts.rules.state.rule command.ruleId = some current →
    (current.frames command.slot).set command.frame = some frame →
    (draw parts.stores.outcomes).1 = true →
    parts.replies.frames.length < RuleReplies.kRuleFrameSlots ∨
      ConfigurationIdle command parts current frame

theorem decodedFrame_length (p : Bytes) (command : RuleConfigurationCommand) (consumed : Nat)
    (decoded : decodeRuleConfigurationCommand p = .ok (command, consumed)) :
    command.frame.length ≤ 57 := by
  obtain ⟨-, -, -, contentLength, -, -, -, short, -, frame⟩ :=
    Rules.decodeRuleConfiguration_cases p command consumed decoded
  rw [frame, List.length_take]
  omega

theorem stageRuleConfigurationAck_iff (command : RuleConfigurationCommand) (replies : RuleReplies)
    (least : 4 ≤ command.frame.length) (most : command.frame.length ≤ 57) :
    if replies.frames.length < RuleReplies.kRuleFrameSlots then
      (replies.stageRuleConfigurationAck command 0x00).2 = true ∧
      ∃ ack, (replies.stageRuleConfigurationAck command 0x00).1.frames = replies.frames ++ [ack] ∧
        ack.content = [0xf8, kRuleConfigurationType] ++ command.frame.drop 2 ++ [0x00]
    else (replies.stageRuleConfigurationAck command 0x00).2 = false := by
  have limit : Rules.kMaxRuleFrameLength = 58 := rfl
  have fits : ¬ (decide (command.frame.length < 4) ||
      decide (command.frame.length + 1 > Rules.kMaxRuleFrameLength)) = true := by
    rw [Bool.or_eq_true, not_or, decide_eq_true_eq, decide_eq_true_eq]
    omega
  unfold RuleReplies.stageRuleConfigurationAck
  rw [if_neg fits]
  split
  · rename_i room
    rw [if_neg (not_le.mpr room)]
    cases stored : (default : Rules.StoredFrame).set
        ([0xf8, kRuleConfigurationType] ++ command.frame.drop 2 ++ [0x00]) with
    | none =>
      unfold Rules.StoredFrame.set at stored
      split at stored
      · rename_i outside
        simp only [List.length_append, List.length_cons, List.length_nil, List.length_drop]
          at outside
        omega
      · cases stored
    | some ack =>
      exact ⟨rfl, ack, rfl, Rules.StoredFrame.set_content _ ack _ stored⟩
  · rename_i full
    rw [if_pos (not_lt.mp full)]

def storedConfiguration (command : RuleConfigurationCommand) (parts : RuleParts)
    (updated : Rules.RuleRecord) : RuleParts where
  rules :=
    if updated.enabled then parts.rules.setRule command.ruleId updated
    else (parts.rules.setRule command.ruleId updated).cancelScheduledRuleActions command.ruleId
  replies := (parts.replies.stageRuleConfigurationAck command 0x00).1
  stores :=
    { parts.stores with
      rules := Function.update parts.stores.rules command.ruleId.toNat (some updated)
      outcomes := (draw parts.stores.outcomes).2 }

section
variable (command : RuleConfigurationCommand) (parts : RuleParts)

theorem configure_unknown (unknown : parts.rules.state.rule command.ruleId = none) :
    applyRuleConfigurationCommand command parts = (parts, false) := by
  rw [applyRuleConfigurationCommand, unknown]

theorem configure_refused (current : Rules.RuleRecord)
    (known : parts.rules.state.rule command.ruleId = some current)
    (refused : (current.frames command.slot).set command.frame = none) :
    applyRuleConfigurationCommand command parts = (parts, false) := by
  rw [applyRuleConfigurationCommand, known]
  dsimp only
  rw [refused]

theorem configure_taken (current : Rules.RuleRecord) (frame : Rules.StoredFrame)
    (known : parts.rules.state.rule command.ruleId = some current)
    (taken : (current.frames command.slot).set command.frame = some frame) :
    applyRuleConfigurationCommand command parts =
      if (draw parts.stores.outcomes).1 then
        (storedConfiguration command parts (configuredRule command current frame),
          (parts.replies.stageRuleConfigurationAck command 0x00).2)
      else
        ({ parts with stores :=
           { parts.stores with outcomes := (draw parts.stores.outcomes).2 } }, false) := by
  have own := foreignRule_of_rule _ _ current known
  rw [applyRuleConfigurationCommand, known]
  dsimp only
  rw [taken]
  dsimp only
  rw [saveRule_own _ _ _ own]
  cases (draw parts.stores.outcomes).1 <;> rfl

end

theorem storedConfiguration_records (command : RuleConfigurationCommand) (parts : RuleParts)
    (updated : Rules.RuleRecord) (index : Nat) :
    (storedConfiguration command parts updated).rules.state.rules index =
      if index = ruleIndex command.ruleId then updated else parts.rules.state.rules index := by
  rw [← setRule_rules]
  unfold storedConfiguration
  dsimp only
  split <;> rfl

theorem storedConfiguration_untouched_iff (command : RuleConfigurationCommand) (parts : RuleParts)
    (current : Rules.RuleRecord) (frame : Rules.StoredFrame)
    (known : parts.rules.state.rule command.ruleId = some current) :
    RulesUntouched parts.rules parts.stores
        (storedConfiguration command parts (configuredRule command current frame)).rules
        (storedConfiguration command parts (configuredRule command current frame)).stores ↔
      ConfigurationIdle command parts current frame := by
  have own := foreignRule_of_rule _ _ current known
  have position := (ruleIndex_own _ own).1
  have held : parts.rules.state.rules (ruleIndex command.ruleId) = current := by
    rw [rule_own _ _ own] at known
    exact Option.some.inj known
  have flag : (configuredRule command current frame).enabled = command.enabled := rfl
  have scheduled : (∀ slot, slot < Rules.kScheduleSlots →
      (storedConfiguration command parts
        (configuredRule command current frame)).rules.schedule.scheduled slot =
          parts.rules.schedule.scheduled slot) ↔
      (command.enabled = false → NothingScheduled command.ruleId parts.rules) := by
    unfold storedConfiguration
    rw [flag]
    cases command.enabled with
    | true => exact iff_of_true (fun _ _ => rfl) (fun disabled => by cases disabled)
    | false =>
      rw [if_neg Bool.false_ne_true]
      exact (cancelled_iff command.ruleId
        (parts.rules.setRule command.ruleId (configuredRule command current frame))).trans
        ⟨fun none _ => none, fun none => none rfl⟩
  constructor
  · rintro ⟨records, stored, kept⟩
    have same := records _ position
    have flash := stored _ position
    rw [storedConfiguration_records, if_pos rfl, held] at same
    rw [storedConfiguration, loadRules_update _ _ _ _ own _ position, if_pos rfl, same] at flash
    exact ⟨same, flash.symm, scheduled.mp kept⟩
  · rintro ⟨same, flash, none⟩
    refine ⟨fun index inside => ?_, fun index inside => ?_, scheduled.mpr none⟩
    · rw [storedConfiguration_records, same]
      split
      · rename_i here
        rw [here, held]
      · rfl
    · rw [storedConfiguration, loadRules_update _ _ _ _ own _ inside, same]
      split
      · rename_i here
        rw [here, flash]
      · rfl

/-- A configuration that was decoded is applied if it reports success and changes nothing if it
does not, exactly if it can be acknowledged where it is stored. -/
theorem ruleConfiguration_applied_iff (p : Bytes) (command : RuleConfigurationCommand)
    (consumed : Nat) (parts : RuleParts)
    (decoded : decodeRuleConfigurationCommand p = .ok (command, consumed)) :
    (if (applyRuleConfigurationCommand command parts).2 then
      ConfigurationApplied command parts (applyRuleConfigurationCommand command parts).1
    else
      RulesUntouched parts.rules parts.stores
        (applyRuleConfigurationCommand command parts).1.rules
        (applyRuleConfigurationCommand command parts).1.stores) ↔
      Acknowledgeable command parts := by
  have untouched : ∀ outcomes, RulesUntouched parts.rules parts.stores parts.rules
      { parts.stores with outcomes := outcomes } :=
    fun _ => ⟨fun _ _ => rfl, fun _ _ => rfl, fun _ _ => rfl⟩
  cases known : parts.rules.state.rule command.ruleId with
  | none =>
    rw [configure_unknown command parts known]
    refine iff_of_true (untouched parts.stores.outcomes) fun current frame found => ?_
    rw [known] at found
    cases found
  | some current =>
    cases taken : (current.frames command.slot).set command.frame with
    | none =>
      rw [configure_refused command parts current known taken]
      refine iff_of_true (untouched parts.stores.outcomes) fun current' frame found set => ?_
      rw [known] at found
      obtain rfl := Option.some.inj found
      rw [taken] at set
      cases set
    | some frame =>
      have asked : Acknowledgeable command parts ↔
          ((draw parts.stores.outcomes).1 = true →
            parts.replies.frames.length < RuleReplies.kRuleFrameSlots ∨
              ConfigurationIdle command parts current frame) := by
        constructor
        · exact fun acknowledgeable => acknowledgeable current frame known taken
        · intro either current' frame' found set
          rw [known] at found
          obtain rfl := Option.some.inj found
          rw [taken] at set
          obtain rfl := Option.some.inj set
          exact either
      have own := foreignRule_of_rule _ _ current known
      have least := (Rules.StoredFrame.set_cases _ _ _ taken).1
      have acknowledged := stageRuleConfigurationAck_iff command parts.replies least
        (decodedFrame_length p command consumed decoded)
      rw [asked, configure_taken command parts current frame known taken]
      cases (draw parts.stores.outcomes).1 with
      | false => exact iff_of_true (untouched _) (fun stored => by cases stored)
      | true =>
        simp only [if_true, true_imp_iff]
        split at acknowledged
        · rename_i room
          obtain ⟨staged, ack, queued, content⟩ := acknowledged
          rw [staged, if_pos rfl]
          refine iff_of_true ⟨current, frame, ack, known, taken, ?_, ?_, queued, content⟩ (.inl room)
          · rw [rule_own _ _ own, storedConfiguration_records, if_pos rfl]
          · rw [storedConfiguration, loadRules_update _ _ _ _ own _ (ruleIndex_own _ own).1,
              if_pos rfl]
        · rename_i full
          rw [acknowledged, if_neg Bool.false_ne_true,
            storedConfiguration_untouched_iff command parts current frame known]
          exact ⟨.inr, fun either => either.resolve_left full⟩

/-- The payload that enables a rule on device restart. -/
def restartRule (ruleId : UInt8) : Bytes := [0xf9, 0x7d, 0x80 ||| ruleId, 0x16]

def restartCommand (ruleId : UInt8) : RuleConfigurationCommand where
  ruleId := ruleId
  enabled := true
  slot := .condition
  subtype := 0x16
  frame := restartRule ruleId

theorem restartCommand_decoded (ruleId : UInt8) (own : ruleId = 1 ∨ ruleId = 5) :
    decodeRuleConfigurationCommand (restartRule ruleId) = .ok (restartCommand ruleId, 4) := by
  rcases own with rfl | rfl <;> rfl

def noRules : RuleParts where
  rules := {}
  replies := {}
  stores := {}

theorem ruleConfiguration_applied_restart :
    (if (applyRuleConfigurationCommand (restartCommand 1) noRules).2 then
      ConfigurationApplied (restartCommand 1) noRules
        (applyRuleConfigurationCommand (restartCommand 1) noRules).1
    else
      RulesUntouched noRules.rules noRules.stores
        (applyRuleConfigurationCommand (restartCommand 1) noRules).1.rules
        (applyRuleConfigurationCommand (restartCommand 1) noRules).1.stores) ↔
      Acknowledgeable (restartCommand 1) noRules :=
  ruleConfiguration_applied_iff (restartRule 1) (restartCommand 1) 4 noRules
    (restartCommand_decoded 1 (.inl rfl))

/-- The rules 1 to 4 have been configured by one payload, and their replies wait. -/
def fourConfigured : RuleParts :=
  [1, 2, 3, 4].foldl
    (fun parts ruleId => (applyRuleConfigurationCommand (restartCommand ruleId) parts).1) noRules

/-- The fifth configuration of the payload is stored and carried out, and reports a failure. -/
theorem fifth_configuration_denied :
    decodeRuleConfigurationCommand (restartRule 5) = .ok (restartCommand 5, 4) ∧
    ¬ (if (applyRuleConfigurationCommand (restartCommand 5) fourConfigured).2 then
      ConfigurationApplied (restartCommand 5) fourConfigured
        (applyRuleConfigurationCommand (restartCommand 5) fourConfigured).1
    else
      RulesUntouched fourConfigured.rules fourConfigured.stores
        (applyRuleConfigurationCommand (restartCommand 5) fourConfigured).1.rules
        (applyRuleConfigurationCommand (restartCommand 5) fourConfigured).1.stores) := by
  refine ⟨restartCommand_decoded 5 (.inr rfl), fun reported => ?_⟩
  have failed : (applyRuleConfigurationCommand (restartCommand 5) fourConfigured).2 = false := by
    decide +kernel
  rw [failed, if_neg Bool.false_ne_true] at reported
  have flags := congrArg Rules.RuleRecord.enabled (reported.records 4 (by decide))
  have changed : ((applyRuleConfigurationCommand (restartCommand 5) fourConfigured).1.rules.state.rules
      4).enabled ≠ (fourConfigured.rules.state.rules 4).enabled := by
    decide +kernel
  exact changed flags

end Application
