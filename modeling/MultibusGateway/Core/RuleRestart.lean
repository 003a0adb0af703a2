import MultibusGateway.Core.ThresholdRules
import MultibusGateway.Core.RuleStatus

/-! Two runs of a rule that differ in their samples before its condition is replaced. The
runtime of a rule lies outside its record and is not reset with it, so the new condition
starts from what the old one left there: the decisions after the replacement agree in both
runs as long as the fields do that the new condition reads. -/

namespace Rules
open ByteString Modbus

def Alike (plan : ChannelConditionPlan) (a b : ChannelConditionRuntime) : Prop :=
  a.lockedUntilMs = b.lockedUntilMs ∧
    if plan.changing then
      a.havePrevious = b.havePrevious ∧
        (a.havePrevious = true → a.previousValue = b.previousValue ∧
          (plan.mode = .changeInterval → a.previousAtMs = b.previousAtMs))
    else
      a.active = b.active ∧ a.firedForActive = b.firedForActive ∧
        (a.active = true → a.firedForActive = false → a.activeSinceMs = b.activeSinceMs)

structure SameOutcome (plan : ChannelConditionPlan) (a b : Evaluation) : Prop where
  fired : a.fired = b.fired
  alike : Alike plan a.runtime b.runtime

section
variable (plan : ChannelConditionPlan) (nowMs : UInt32) (a b : ChannelConditionRuntime)
  (alike : Alike plan a b)

include alike

theorem locked_alike : locked a nowMs = locked b nowMs := by
  unfold locked
  rw [alike.1]

theorem evaluateChangeRecent_alike (value : Binary64) (recent : plan.mode = .changeRecent) :
    SameOutcome plan (evaluateChangeRecent plan value nowMs a)
      (evaluateChangeRecent plan value nowMs b) := by
  have changing : plan.changing = true := by simp [ChannelConditionPlan.changing, recent]
  have lock := locked_alike plan nowMs a b alike
  obtain ⟨deadline, fields⟩ := alike
  rw [if_pos changing] at fields
  have fire : (evaluateChangeRecent plan value nowMs a).fired =
      (evaluateChangeRecent plan value nowMs b).fired := by
    simp only [evaluateChangeRecent, ← lock, ← fields.1]
    cases previous : a.havePrevious with
    | false => simp only [Bool.false_and]
    | true => rw [(fields.2 previous).1]
  refine ⟨fire, ?_, ?_⟩
  · rw [evaluateChangeRecent_deadline plan value nowMs a,
      evaluateChangeRecent_deadline plan value nowMs b, fire, deadline]
  · rw [if_pos changing]
    simp only [evaluateChangeRecent]
    split <;> split <;> simp

theorem evaluateChangeInterval_alike (value : Binary64) (interval : plan.mode = .changeInterval) :
    SameOutcome plan (evaluateChangeInterval plan value nowMs a)
      (evaluateChangeInterval plan value nowMs b) := by
  have changing : plan.changing = true := by simp [ChannelConditionPlan.changing, interval]
  have lock := locked_alike plan nowMs a b alike
  have same := alike
  obtain ⟨deadline, fields⟩ := alike
  rw [if_pos changing] at fields
  cases previous : a.havePrevious with
  | false =>
    have none : b.havePrevious = false := fields.1.symm.trans previous
    simp only [evaluateChangeInterval, previous, none, Bool.not_false, if_true]
    exact ⟨rfl, deadline, by simp [changing]⟩
  | true =>
    obtain ⟨values, times⟩ := fields.2 previous
    have held : b.havePrevious = true := fields.1.symm.trans previous
    simp only [evaluateChangeInterval, previous, held, ← lock, ← times interval, ← values,
      Bool.not_true, Bool.false_eq_true, if_false]
    split
    · exact ⟨rfl, same⟩
    · generalize (!locked a nowMs && changeReached plan value a.previousValue) = fire
      refine ⟨rfl, ?_⟩
      cases fire <;> simp [Alike, changing, deadline]

theorem activate_alike (threshold : plan.changing = false) :
    Alike plan (activate nowMs a) (activate nowMs b) := by
  have same := alike
  obtain ⟨deadline, fields⟩ := alike
  rw [if_neg (by simp [threshold])] at fields
  unfold activate
  rw [← fields.1]
  cases a.active with
  | true => exact same
  | false => simp [Alike, threshold, deadline]

theorem evaluateThreshold_alike (scalar : DecodedScalar) (threshold : plan.changing = false) :
    SameOutcome plan (evaluateThreshold plan scalar nowMs a)
      (evaluateThreshold plan scalar nowMs b) := by
  have lock := locked_alike plan nowMs a b alike
  have started := activate_alike plan nowMs a b alike threshold
  have same := alike
  obtain ⟨deadline, fields⟩ := alike
  rw [if_neg (by simp [threshold])] at fields
  obtain ⟨active, fired, since⟩ := fields
  have released : Alike plan { a with active := false, firedForActive := false }
      { b with active := false, firedForActive := false } := by
    simp [Alike, threshold, deadline]
  simp only [evaluateThreshold, ← lock]
  generalize thresholdPredicate plan scalar = predicate
  cases predicate with
  | false =>
    have early : (a.active && !a.firedForActive && plan.continueMode == 0 &&
          plan.continueTimeMs > 0 && nowMs - a.activeSinceMs < plan.continueTimeMs) =
        (b.active && !b.firedForActive && plan.continueMode == 0 &&
          plan.continueTimeMs > 0 && nowMs - b.activeSinceMs < plan.continueTimeMs) := by
      rw [← active, ← fired]
      cases on : a.active with
      | false => simp only [Bool.false_and]
      | true =>
        cases before : a.firedForActive with
        | true => simp only [Bool.not_true, Bool.and_false, Bool.false_and]
        | false => rw [since on before]
    simp only [Bool.not_false, if_true, ← early]
    split
    · exact ⟨rfl, released⟩
    · split
      · exact ⟨rfl, by simp [Alike, threshold]⟩
      · exact ⟨rfl, released⟩
  | true =>
    simp only [Bool.not_true, Bool.false_eq_true, if_false]
    split
    · exact ⟨rfl, same⟩
    · have fields := started.2
      rw [if_neg (by simp [threshold])] at fields
      rw [← fields.2.1]
      cases before : (activate nowMs a).firedForActive with
      | true => exact ⟨rfl, started⟩
      | false =>
        -- an activated rule that has not fired is held since the same time in both
        have times := fields.2.2 (activate_active nowMs a) before
        simp only [Bool.false_eq_true, if_false, ← times]
        split
        · refine ⟨rfl, ?_⟩
          simp [Alike, threshold, activate_active]
        · exact ⟨rfl, started⟩

theorem evaluateChannelCondition_alike (scalar : DecodedScalar) :
    SameOutcome plan (evaluateChannelCondition plan scalar nowMs a)
      (evaluateChannelCondition plan scalar nowMs b) := by
  have threshold (scalar : DecodedScalar) := evaluateThreshold_alike plan nowMs a b alike scalar
  unfold evaluateChannelCondition
  cases scalarToDouble scalar with
  | none => exact ⟨rfl, alike⟩
  | some value =>
    cases mode : plan.mode with
    | changeRecent => exact evaluateChangeRecent_alike plan nowMs a b alike value mode
    | changeInterval => exact evaluateChangeInterval_alike plan nowMs a b alike value mode
    | falseValue => exact threshold scalar (by simp [ChannelConditionPlan.changing, mode])
    | trueValue => exact threshold scalar (by simp [ChannelConditionPlan.changing, mode])
    | below => exact threshold scalar (by simp [ChannelConditionPlan.changing, mode])
    | above => exact threshold scalar (by simp [ChannelConditionPlan.changing, mode])
    | within => exact threshold scalar (by simp [ChannelConditionPlan.changing, mode])

theorem decisions_alike (x y : Evaluation) (same : SameOutcome plan x y) :
    decisions plan a x = decisions plan b y := by
  unfold decisions
  rw [same.fired]
  cases changing : plan.changing with
  | true => simp
  | false =>
    have before := alike.2
    have after := same.alike.2
    rw [if_neg (by simp [changing])] at before after
    rw [before.2.1, after.1]

end

end Rules

namespace Application
open ByteString Modbus Lorawan Rules Execution

/-- What changes the records of the rules, or their runtimes. -/
inductive RuleStep where
  | sample (nowMs : UInt32) (completion : PollCompletion)
  | configure (command : RuleConfigurationCommand)
  | status (command : RuleStatusCommand)

namespace RuleStep

def commanded : RuleStep → Bool
  | .sample _ _ => false
  | _ => true

end RuleStep

def ruleStep (parts : RuleParts) : RuleStep → RuleParts
  | .sample nowMs completion =>
    { parts with rules := parts.rules.evaluateChannelRules nowMs completion }
  | .configure command => (applyRuleConfigurationCommand command parts).1
  | .status command =>
    let (rules, stores) := (applyRuleStatusCommand command parts.rules parts.stores).1
    { parts with rules := rules, stores := stores }

def stepDecisions (index : Nat) (parts : RuleParts) : RuleStep → List Decision
  | .sample nowMs completion => (parts.rules.verdictAt nowMs completion index).decisions
  | _ => []

/-- The condition of the rule at a place, when it is one on a channel. -/
def conditionAt (index : Nat) (parts : RuleParts) : Option ChannelConditionPlan :=
  decodeChannelCondition ((parts.rules.state.rules index).frames .condition)

def pairStep (pair : RuleParts × RuleParts) (x : RuleStep) : RuleParts × RuleParts :=
  (ruleStep pair.1 x, ruleStep pair.2 x)

def SameDecisions (index : Nat) (pair : RuleParts × RuleParts) (x : RuleStep) : Prop :=
  stepDecisions index pair.1 x = stepDecisions index pair.2 x

def AlikeAt (index : Nat) (pair : RuleParts × RuleParts) : Prop :=
  ∀ plan, conditionAt index pair.1 = some plan →
    Alike plan (pair.1.rules.channelRuntime index) (pair.2.rules.channelRuntime index)

/-- A step that puts another condition in place finds the runtimes alike. -/
def RestartsAlike (index : Nat) (pair : RuleParts × RuleParts) (x : RuleStep) : Prop :=
  conditionAt index (ruleStep pair.1 x) ≠ conditionAt index pair.1 →
    AlikeAt index (pairStep pair x)

structure Twins (p q : RuleParts) : Prop where
  state : p.rules.state = q.rules.state
  stores : p.stores = q.stores

theorem twins_sample (nowMs : UInt32) (completion : PollCompletion) (parts : RuleParts) :
    Twins (ruleStep parts (.sample nowMs completion)) parts :=
  ⟨RuleEngine.evaluateChannelRules_state nowMs completion parts.rules, rfl⟩

theorem storedConfiguration_state (command : RuleConfigurationCommand) (parts : RuleParts)
    (updated : RuleRecord) :
    (storedConfiguration command parts updated).rules.state =
      parts.rules.state.setRule command.ruleId updated := by
  unfold storedConfiguration
  dsimp only
  split <;> rfl

theorem twins_configure (command : RuleConfigurationCommand) (p q : RuleParts)
    (twins : Twins p q) :
    Twins (applyRuleConfigurationCommand command p).1
      (applyRuleConfigurationCommand command q).1 := by
  cases known : p.rules.state.rule command.ruleId with
  | none =>
    rw [configure_unknown command p known,
      configure_unknown command q (by rw [← twins.state, known])]
    exact twins
  | some current =>
    have known' : q.rules.state.rule command.ruleId = some current := by
      rw [← twins.state, known]
    cases taken : (current.frames command.slot).set command.frame with
    | none =>
      rw [configure_refused command p current known taken,
        configure_refused command q current known' taken]
      exact twins
    | some frame =>
      rw [configure_taken command p current frame known taken,
        configure_taken command q current frame known' taken, ← twins.stores]
      split
      · refine ⟨?_, ?_⟩
        · rw [storedConfiguration_state, storedConfiguration_state, twins.state]
        · simp only [storedConfiguration, twins.stores]
      · exact ⟨twins.state, rfl⟩

theorem configure_runtime (command : RuleConfigurationCommand) (parts : RuleParts) :
    (applyRuleConfigurationCommand command parts).1.rules.channelRuntime =
      parts.rules.channelRuntime := by
  cases known : parts.rules.state.rule command.ruleId with
  | none => rw [configure_unknown command parts known]
  | some current =>
    cases taken : (current.frames command.slot).set command.frame with
    | none => rw [configure_refused command parts current known taken]
    | some frame =>
      rw [configure_taken command parts current frame known taken]
      split
      · unfold storedConfiguration
        dsimp only
        split <;> rfl
      · rfl

def SameRecords (a b : RuleEngine × Stores) : Prop := a.1.state = b.1.state ∧ a.2 = b.2

theorem rollbackRules_same (originals : List (UInt8 × RuleRecord)) (a b : RuleEngine)
    (stores : Stores) (same : a.state = b.state) :
    SameRecords (rollbackRules originals a stores) (rollbackRules originals b stores) := by
  induction originals generalizing a b stores with
  | nil => exact ⟨same, rfl⟩
  | cons original rest ih =>
    refine ih (a.setRule original.1 original.2) (b.setRule original.1 original.2)
      (stores.saveRule original.1 original.2).1 ?_
    simp only [RuleEngine.setRule, same]

theorem rollbackRules_runtime (originals : List (UInt8 × RuleRecord)) (rules : RuleEngine)
    (stores : Stores) :
    (rollbackRules originals rules stores).1.channelRuntime = rules.channelRuntime := by
  induction originals generalizing rules stores with
  | nil => rfl
  | cons original rest ih => exact (ih _ _).trans rfl

def statusUpdated (ruleId : UInt8) (updated : RuleRecord) (rules : RuleEngine) : RuleEngine :=
  if updated.enabled then rules.setRule ruleId updated
  else (rules.setRule ruleId updated).cancelScheduledRuleActions ruleId

theorem statusUpdated_state (ruleId : UInt8) (updated : RuleRecord) (rules : RuleEngine) :
    (statusUpdated ruleId updated rules).state = rules.state.setRule ruleId updated := by
  unfold statusUpdated
  split <;> rfl

theorem statusUpdated_runtime (ruleId : UInt8) (updated : RuleRecord) (rules : RuleEngine) :
    (statusUpdated ruleId updated rules).channelRuntime = rules.channelRuntime := by
  unfold statusUpdated
  split <;> rfl

section
variable (operation : RuleStatusOperation)

theorem applyRuleStatuses_same (ruleIds : List UInt8) (originals : List (UInt8 × RuleRecord))
    (a b : RuleEngine) (stores : Stores) (same : a.state = b.state)
    (own : ∀ ruleId ∈ ruleIds, foreignRule ruleId = false) :
    SameRecords (applyRuleStatuses operation ruleIds originals a stores).1
      (applyRuleStatuses operation ruleIds originals b stores).1 := by
  induction ruleIds generalizing originals a b stores with
  | nil => exact ⟨same, rfl⟩
  | cons ruleId rest ih =>
    obtain ⟨here, others⟩ := List.forall_mem_cons.mp own
    rw [applyRuleStatuses_cons operation ruleId rest originals a stores here,
      applyRuleStatuses_cons operation ruleId rest originals b stores here, ← same]
    split
    · refine ih _ (statusUpdated ruleId _ a) (statusUpdated ruleId _ b) _ ?_ others
      rw [statusUpdated_state, statusUpdated_state, same]
    · exact rollbackRules_same originals a b _ same

theorem applyRuleStatuses_runtime (ruleIds : List UInt8) (originals : List (UInt8 × RuleRecord))
    (rules : RuleEngine) (stores : Stores)
    (own : ∀ ruleId ∈ ruleIds, foreignRule ruleId = false) :
    (applyRuleStatuses operation ruleIds originals rules stores).1.1.channelRuntime =
      rules.channelRuntime := by
  induction ruleIds generalizing originals rules stores with
  | nil => rfl
  | cons ruleId rest ih =>
    obtain ⟨here, others⟩ := List.forall_mem_cons.mp own
    rw [applyRuleStatuses_cons operation ruleId rest originals rules stores here]
    split
    · exact (ih _ (statusUpdated ruleId _ rules) _ others).trans (statusUpdated_runtime _ _ _)
    · exact rollbackRules_runtime originals rules _

end

theorem twins_step (p q : RuleParts) (x : RuleStep) (twins : Twins p q) :
    Twins (ruleStep p x) (ruleStep q x) := by
  cases x with
  | sample nowMs completion =>
    have a := twins_sample nowMs completion p
    have b := twins_sample nowMs completion q
    exact ⟨by rw [a.state, b.state, twins.state], by rw [a.stores, b.stores, twins.stores]⟩
  | configure command => exact twins_configure command p q twins
  | status command =>
    have same := applyRuleStatuses_same command.operation (maskedRules command.ruleMask) []
      p.rules q.rules p.stores twins.state (mem_maskedRules command.ruleMask).2
    simp only [ruleStep, applyRuleStatusCommand]
    rw [← twins.stores]
    exact ⟨same.1, same.2⟩

theorem command_runtime (parts : RuleParts) (x : RuleStep) (commanded : x.commanded = true) :
    (ruleStep parts x).rules.channelRuntime = parts.rules.channelRuntime := by
  cases x with
  | sample => cases commanded
  | configure command => exact configure_runtime command parts
  | status command =>
    exact applyRuleStatuses_runtime command.operation (maskedRules command.ruleMask) []
      parts.rules parts.stores (mem_maskedRules command.ruleMask).2

theorem twins_commands (p q : RuleParts) (steps : List RuleStep) (twins : Twins p q) :
    Twins (run ruleStep p steps) (run ruleStep q (steps.filter RuleStep.commanded)) := by
  induction steps generalizing p q with
  | nil => exact twins
  | cons x rest ih =>
    cases commanded : x.commanded with
    | true =>
      rw [List.filter_cons_of_pos commanded]
      exact ih _ _ (twins_step p q x twins)
    | false =>
      rw [List.filter_cons_of_neg (by simp [commanded])]
      cases x with
      | sample nowMs completion =>
        have sampled := twins_sample nowMs completion p
        exact ih _ _ ⟨sampled.state.trans twins.state, sampled.stores.trans twins.stores⟩
      | configure => cases commanded
      | status => cases commanded

theorem twins_runs (start : RuleParts) (before before' : List RuleStep)
    (commands : before.filter RuleStep.commanded = before'.filter RuleStep.commanded) :
    Twins (run ruleStep start before) (run ruleStep start before') := by
  have a := twins_commands start start before ⟨rfl, rfl⟩
  have b := twins_commands start start before' ⟨rfl, rfl⟩
  rw [← commands] at b
  exact ⟨a.state.trans b.state.symm, a.stores.trans b.stores.symm⟩

theorem verdict_alike (record : RuleRecord) (nowMs : UInt32) (channel : ChannelConfig)
    (value : DecodedScalar) (a b : ChannelConditionRuntime)
    (alike : ∀ plan, decodeChannelCondition (record.frames .condition) = some plan →
      Alike plan a b) :
    (verdict record nowMs channel value a).decisions =
        (verdict record nowMs channel value b).decisions ∧
      ∀ plan, decodeChannelCondition (record.frames .condition) = some plan →
        Alike plan (verdict record nowMs channel value a).runtime
          (verdict record nowMs channel value b).runtime := by
  unfold verdict
  cases condition : decodeChannelCondition (record.frames .condition) with
  | none => exact ⟨rfl, fun plan found => by cases found⟩
  | some plan =>
    have here := alike plan condition
    have outcome := evaluateChannelCondition_alike plan nowMs a b here value
    simp only [Option.some.injEq]
    split
    · refine ⟨rfl, ?_⟩
      rintro _ rfl
      exact here
    · refine ⟨decisions_alike plan a b here _ _ outcome, ?_⟩
      rintro _ rfl
      exact outcome.alike

section
variable (index : Nat) (inside : index < kRuleCount)

theorem conditionAt_twins (p q : RuleParts) (twins : Twins p q) :
    conditionAt index p = conditionAt index q := by
  unfold conditionAt
  rw [twins.state]

structure Together (pair : RuleParts × RuleParts) : Prop where
  twins : Twins pair.1 pair.2
  alike : AlikeAt index pair

theorem together_sample (nowMs : UInt32) (completion : PollCompletion)
    (pair : RuleParts × RuleParts) (together : Together index pair) :
    (pair.1.rules.verdictAt nowMs completion index).decisions =
        (pair.2.rules.verdictAt nowMs completion index).decisions ∧
      ∀ plan, conditionAt index pair.1 = some plan →
        Alike plan (pair.1.rules.verdictAt nowMs completion index).runtime
          (pair.2.rules.verdictAt nowMs completion index).runtime := by
  obtain ⟨twins, alike⟩ := together
  unfold RuleEngine.verdictAt
  rw [← twins.state]
  split
  · exact verdict_alike _ nowMs completion.channel _ _ _ alike
  · exact ⟨rfl, alike⟩

include inside

theorem together_step (pair : RuleParts × RuleParts) (x : RuleStep)
    (together : Together index pair) (restarts : RestartsAlike index pair x) :
    Together index (pairStep pair x) := by
  refine ⟨twins_step pair.1 pair.2 x together.twins, ?_⟩
  by_cases replaced : conditionAt index (ruleStep pair.1 x) = conditionAt index pair.1
  · intro plan condition
    rw [pairStep, replaced] at condition
    cases commanded : x.commanded with
    | true =>
      simp only [pairStep, command_runtime _ _ commanded]
      exact together.alike plan condition
    | false =>
      cases x with
      | sample nowMs completion =>
        simp only [pairStep, ruleStep,
          RuleEngine.evaluateChannelRules_runtime nowMs completion _ index inside]
        exact (together_sample index nowMs completion pair together).2 plan condition
      | configure => cases commanded
      | status => cases commanded
  · exact restarts replaced

omit inside in
theorem sameDecisions_command (pair : RuleParts × RuleParts) (x : RuleStep)
    (commanded : x.commanded = true) : SameDecisions index pair x := by
  cases x with
  | sample => cases commanded
  | configure => rfl
  | status => rfl

omit inside in
theorem replaced_commanded (parts : RuleParts) (x : RuleStep)
    (replaced : conditionAt index (ruleStep parts x) ≠ conditionAt index parts) :
    x.commanded = true := by
  cases x with
  | sample nowMs completion =>
    exact absurd (conditionAt_twins index _ _ (twins_sample nowMs completion parts)) replaced
  | configure => rfl
  | status => rfl

/-- Two runs with the same commands, of which one replaces the condition of a rule: where every
replacement from then on finds the runtimes alike, the rule decides the same in both. -/
theorem replaced_rule_decisions (start : RuleParts) (before before' : List RuleStep)
    (x : RuleStep) (later : List RuleStep)
    (commands : before.filter RuleStep.commanded = before'.filter RuleStep.commanded)
    (replaced : conditionAt index (ruleStep (run ruleStep start before) x) ≠
      conditionAt index (run ruleStep start before))
    (restarts : Always pairStep (RestartsAlike index)
      (run ruleStep start before, run ruleStep start before') (x :: later)) :
    Always pairStep (SameDecisions index)
      (run ruleStep start before, run ruleStep start before') (x :: later) := by
  obtain ⟨first, rest⟩ := (always_cons _ _ _ _ _).mp restarts
  have together : Together index
      (pairStep (run ruleStep start before, run ruleStep start before') x) :=
    ⟨twins_step _ _ x (twins_runs start before before' commands), first replaced⟩
  have along := invariant_steps pairStep (Together index) (RestartsAlike index)
    (together_step index inside) _ later together rest
  refine (always_cons _ _ _ _ _).mpr ⟨?_, along.mono pairStep fun pair y together => ?_⟩
  · exact sameDecisions_command index _ x (replaced_commanded index _ x replaced)
  · cases y with
    | sample nowMs completion => exact (together_sample index nowMs completion pair together).1
    | configure => rfl
    | status => rfl

end

/-- The payload that has rule 1 watch channel 1 in a mode with a bound, without times. -/
def watch (mode : UInt8) (bound : UInt32) : Bytes :=
  [0xf9, 0x7d, 0x81, 0x12, 0x01, mode, 0, 0, 0, 0, 0, 0, 0, 0] ++ writeU32 0 ++ writeU32 bound

def configuration (frame : Bytes) : RuleConfigurationCommand where
  ruleId := 1
  enabled := true
  slot := .condition
  subtype := 0x12
  frame := frame

def watchAbove (bound : UInt32) : Bytes := watch 0x03 bound

def watchCommand (bound : UInt32) : RuleConfigurationCommand := configuration (watchAbove bound)

def watchChange (bound : UInt32) : RuleConfigurationCommand := configuration (watch 0x06 bound)

def sampleOf (slot : UInt8) (nowMs : UInt32) : RuleStep :=
  .sample nowMs { channel := { slot := slot }, success := true, values := [.unsignedInteger 20] }

theorem watchCommand_decoded :
    decodeRuleConfigurationCommand (watchAbove 0x41200000) = .ok (watchCommand 0x41200000, 22) ∧
    decodeRuleConfigurationCommand (watchAbove 0x40a00000) = .ok (watchCommand 0x40a00000, 22) := by
  decide +kernel

/-- What a sample leaves for the rule while it watches for changes is not read when it watches for
values above a bound. -/
theorem replaced_rule_decisions_thresholdMode :
    let fresh := run ruleStep noRules [.configure (watchChange 0x41200000)]
    let sampled := run ruleStep noRules [.configure (watchChange 0x41200000), sampleOf 0 5]
    (fresh.rules.channelRuntime 0).havePrevious = false ∧
      (sampled.rules.channelRuntime 0).havePrevious = true ∧
      Always pairStep (SameDecisions 0) (fresh, sampled)
        [.configure (watchCommand 0x40a00000), sampleOf 0 9] := by
  intro fresh sampled
  refine ⟨by decide +kernel, by decide +kernel, ?_⟩
  refine replaced_rule_decisions 0 (by decide) noRules _ _ _ _ rfl (by decide +kernel) ?_
  refine (always_cons _ _ _ _ _).mpr ⟨fun _ plan condition => ?_, (always_cons _ _ _ _ _).mpr
    ⟨fun replaced => absurd (replaced_commanded 0 _ _ replaced) (by decide), always_nil _ _ _⟩⟩
  have threshold : (conditionAt 0 (pairStep (fresh, sampled)
      (.configure (watchCommand 0x40a00000))).1).map ChannelConditionPlan.changing =
        some false := by
    decide +kernel
  rw [condition] at threshold
  have plain : ¬ plan.changing = true := by
    rw [Option.some.inj threshold]
    decide
  unfold Alike
  rw [if_neg plain]
  exact ⟨by decide +kernel, by decide +kernel, by decide +kernel, fun _ _ => by decide +kernel⟩

/-- The rule is put to a lower bound after it has fired: the sample that would have it fire if it
started afresh is taken for more of the same. -/
theorem replaced_rule_remembers :
    ¬ ∀ (index : Nat) (start : RuleParts) (before before' : List RuleStep)
      (command : RuleConfigurationCommand) (payload : Bytes) (consumed : Nat)
      (later : List RuleStep),
      before.filter RuleStep.commanded = before'.filter RuleStep.commanded →
      decodeRuleConfigurationCommand payload = .ok (command, consumed) →
      (applyRuleConfigurationCommand command (run ruleStep start before)).2 = true →
      (applyRuleConfigurationCommand command (run ruleStep start before')).2 = true →
      (conditionAt index (ruleStep (run ruleStep start before) (.configure command))).isSome →
      conditionAt index (ruleStep (run ruleStep start before) (.configure command)) ≠
        conditionAt index (run ruleStep start before) →
      Always pairStep (SameDecisions index)
        (run ruleStep start before, run ruleStep start before') (.configure command :: later) := by
  intro afresh
  have same := afresh 0 noRules [.configure (watchCommand 0x41200000)]
    [.configure (watchCommand 0x41200000), sampleOf 0 5] (watchCommand 0x40a00000)
    (watchAbove 0x40a00000) 22 [sampleOf 0 9] rfl watchCommand_decoded.2 (by decide +kernel)
    (by decide +kernel) (by decide +kernel) (by decide +kernel)
  have decided := ((always_cons _ _ _ _ _).mp ((always_cons _ _ _ _ _).mp same).2).1
  revert decided
  unfold SameDecisions
  decide +kernel

end Application
