import MultibusGateway.Core.ScheduledActions

/-! What a channel rule decides on a sample: to trigger, to release, or nothing. The release is
not decided by the evaluation of the condition but read off from its flags before and after.
The decisions of a rule depend on its own runtime only, so those of all rules can be taken
from the runtimes before the sample. -/

namespace Rules
open ByteString Modbus

inductive Decision where
  | trigger | release
  deriving DecidableEq

/-- The modes that compare a value with the previous one. -/
def ChannelConditionPlan.changing (plan : ChannelConditionPlan) : Bool :=
  plan.mode = .changeRecent || plan.mode = .changeInterval

def decisions (plan : ChannelConditionPlan) (before : ChannelConditionRuntime)
    (evaluation : Evaluation) : List Decision :=
  (if evaluation.fired then [.trigger] else []) ++
    if before.firedForActive && !evaluation.runtime.active && !plan.changing then [.release]
    else []

theorem foldl_decisions {α : Type} (plan : ChannelConditionPlan) (before : ChannelConditionRuntime)
    (evaluation : Evaluation) (step : α → Decision → α) (a : α) :
    (decisions plan before evaluation).foldl step a =
      let a := if evaluation.fired then step a .trigger else a
      if before.firedForActive && !evaluation.runtime.active && !plan.changing then
        step a .release
      else a := by
  simp only [decisions, List.foldl_append]
  split <;> split <;> rfl

structure Verdict where
  runtime : ChannelConditionRuntime
  decisions : List Decision := []

def verdict (record : RuleRecord) (nowMs : UInt32) (channel : ChannelConfig)
    (value : DecodedScalar) (runtime : ChannelConditionRuntime) : Verdict :=
  match decodeChannelCondition (record.frames .condition) with
  | none => { runtime := runtime }
  | some plan =>
    if plan.channelId != channel.slot + 1 then { runtime := runtime }
    else
      let evaluation := evaluateChannelCondition plan value nowMs runtime
      { runtime := evaluation.runtime, decisions := decisions plan runtime evaluation }

def decisionContext (record : RuleRecord) (channel : ChannelConfig) (value : DecodedScalar)
    (runtime : ChannelConditionRuntime) : Decision → AlarmContext
  | .trigger =>
    let changing := (decodeChannelCondition (record.frames .condition)).any
      ChannelConditionPlan.changing
    let changeValue :=
      match runtime.havePrevious, scalarToDouble value with
      | true, some current => (current.sub runtime.previousValue).abs
      | _, _ => ⟨0⟩
    ⟨channel, value, if changing then .change else .threshold, changeValue⟩
  | .release => ⟨channel, value, .thresholdRelease, ⟨0⟩⟩

end Rules

namespace Application
open ByteString Modbus Lorawan Rules

namespace RuleEngine

def carryOut (nowMs : UInt32) (rule : UInt8 × RuleRecord) (context : Decision → AlarmContext)
    (engine : RuleEngine) (decision : Decision) : RuleEngine :=
  engine.scheduleRuleActions nowMs rule.1 rule.2 (some (context decision)) (decision = .release)

def follow (nowMs : UInt32) (channel : ChannelConfig) (value : DecodedScalar)
    (runtimes : Nat → ChannelConditionRuntime) (engine : RuleEngine) (rule : UInt8 × RuleRecord) :
    RuleEngine :=
  let runtime := runtimes (rule.1.toNat - 1)
  let verdict := verdict rule.2 nowMs channel value runtime
  verdict.decisions.foldl
    (carryOut nowMs rule (decisionContext rule.2 channel value runtime))
    (engine.setRuntime rule.1 verdict.runtime)

theorem setRuntime_same (ruleId : UInt8) (engine : RuleEngine) :
    engine.setRuntime ruleId (engine.channelRuntime (ruleId.toNat - 1)) = engine := by
  simp only [setRuntime, Function.update_eq_self]

theorem evaluateChannelRule_follow (nowMs : UInt32) (channel : ChannelConfig)
    (value : DecodedScalar) (engine : RuleEngine) (rule : UInt8 × RuleRecord) :
    engine.evaluateChannelRule nowMs channel value rule =
      follow nowMs channel value engine.channelRuntime engine rule := by
  simp only [evaluateChannelRule, follow, verdict]
  cases condition : decodeChannelCondition (rule.2.frames .condition) with
  | none => exact (setRuntime_same rule.1 engine).symm
  | some plan =>
    by_cases other : (plan.channelId != channel.slot + 1) = true
    · simp only [other, if_true, List.foldl_nil]
      exact (setRuntime_same rule.1 engine).symm
    · simp only [other, Bool.false_eq_true, if_false, foldl_decisions, carryOut, decisionContext,
        condition, Option.any_some]
      rfl

theorem carryOut_runtime (nowMs : UInt32) (rule : UInt8 × RuleRecord)
    (context : Decision → AlarmContext) (engine : RuleEngine) (made : List Decision) :
    (made.foldl (carryOut nowMs rule context) engine).channelRuntime = engine.channelRuntime := by
  induction made generalizing engine with
  | nil => rfl
  | cons decision rest ih => exact (ih _).trans rfl

theorem carryOut_state (nowMs : UInt32) (rule : UInt8 × RuleRecord)
    (context : Decision → AlarmContext) (engine : RuleEngine) (made : List Decision) :
    (made.foldl (carryOut nowMs rule context) engine).state = engine.state := by
  induction made generalizing engine with
  | nil => rfl
  | cons decision rest ih => exact (ih _).trans rfl

theorem evaluateChannelRules_state (nowMs : UInt32) (completion : PollCompletion)
    (engine : RuleEngine) :
    (engine.evaluateChannelRules nowMs completion).state = engine.state := by
  have folded (value : DecodedScalar) (rules : List (UInt8 × RuleRecord)) (engine : RuleEngine) :
      (rules.foldl (evaluateChannelRule nowMs completion.channel value) engine).state =
        engine.state := by
    induction rules generalizing engine with
    | nil => rfl
    | cons rule rest ih =>
      rw [List.foldl_cons, ih, evaluateChannelRule_follow]
      exact carryOut_state nowMs rule _ _ _
  unfold evaluateChannelRules
  split
  · exact folded _ _ _
  · rfl

theorem follow_runtime (nowMs : UInt32) (channel : ChannelConfig) (value : DecodedScalar)
    (runtimes : Nat → ChannelConditionRuntime) (engine : RuleEngine)
    (rule : UInt8 × RuleRecord) :
    (follow nowMs channel value runtimes engine rule).channelRuntime =
      Function.update engine.channelRuntime (rule.1.toNat - 1)
        (verdict rule.2 nowMs channel value (runtimes (rule.1.toNat - 1))).runtime :=
  carryOut_runtime nowMs rule _ _ _

theorem foldl_evaluateChannelRule (nowMs : UInt32) (channel : ChannelConfig)
    (value : DecodedScalar) (rules : List (UInt8 × RuleRecord))
    (apart : rules.Pairwise fun a b => a.1.toNat - 1 ≠ b.1.toNat - 1)
    (runtimes : Nat → ChannelConditionRuntime) (engine : RuleEngine)
    (seen : ∀ rule ∈ rules,
      engine.channelRuntime (rule.1.toNat - 1) = runtimes (rule.1.toNat - 1)) :
    rules.foldl (evaluateChannelRule nowMs channel value) engine =
      rules.foldl (follow nowMs channel value runtimes) engine := by
  induction rules generalizing engine with
  | nil => rfl
  | cons rule rest ih =>
    obtain ⟨first, others⟩ := List.pairwise_cons.mp apart
    have here : engine.evaluateChannelRule nowMs channel value rule =
        follow nowMs channel value runtimes engine rule := by
      rw [evaluateChannelRule_follow]
      simp only [follow, seen rule List.mem_cons_self]
    rw [List.foldl_cons, List.foldl_cons, here]
    refine ih others _ fun other member => ?_
    rw [follow_runtime, Function.update_of_ne (first other member).symm]
    exact seen other (List.mem_cons_of_mem _ member)

theorem enabledRules_apart (engine : RuleEngine) :
    engine.enabledRules.Pairwise fun a b => a.1.toNat - 1 ≠ b.1.toNat - 1 := by
  unfold enabledRules
  refine List.Pairwise.filter _ (List.pairwise_map.mpr ?_)
  refine (List.pairwise_lt_range (n := kRuleCount)).imp_of_mem ?_
  intro a b inA inB less
  have boundA := List.mem_range.mp inA
  have boundB := List.mem_range.mp inB
  simp only [kRuleCount] at boundA boundB
  simp only [UInt8.toNat_ofNat']
  omega

/-- A sample is decided for all rules from the runtimes before it. -/
theorem evaluateChannelRules_follow (nowMs : UInt32) (completion : PollCompletion)
    (engine : RuleEngine) (value : DecodedScalar) (more : List DecodedScalar)
    (success : completion.success = true) (values : completion.values = value :: more) :
    engine.evaluateChannelRules nowMs completion =
      engine.enabledRules.foldl
        (follow nowMs completion.channel value engine.channelRuntime) engine := by
  simp only [evaluateChannelRules, success, values]
  exact foldl_evaluateChannelRule nowMs completion.channel value _ (enabledRules_apart engine)
    engine.channelRuntime engine fun _ _ => rfl

def verdictAt (nowMs : UInt32) (completion : PollCompletion) (engine : RuleEngine)
    (index : Nat) : Verdict :=
  match completion.success, completion.values, (engine.state.rules index).enabled with
  | true, value :: _, true =>
    verdict (engine.state.rules index) nowMs completion.channel value
      (engine.channelRuntime index)
  | _, _, _ => { runtime := engine.channelRuntime index }

theorem foldl_follow_runtime (nowMs : UInt32) (channel : ChannelConfig) (value : DecodedScalar)
    (runtimes : Nat → ChannelConditionRuntime) (records : Nat → RuleRecord) (indices : List Nat)
    (small : ∀ i ∈ indices, i < kRuleCount) (once : indices.Nodup) (engine : RuleEngine)
    (index : Nat) :
    (((indices.map fun i => (UInt8.ofNat (i + 1), records i)).filter
        fun rule => rule.2.enabled).foldl (follow nowMs channel value runtimes)
          engine).channelRuntime index =
      if index ∈ indices ∧ (records index).enabled = true then
        (verdict (records index) nowMs channel value (runtimes index)).runtime
      else engine.channelRuntime index := by
  induction indices generalizing engine with
  | nil => simp
  | cons i rest ih =>
    obtain ⟨here, others⟩ := List.forall_mem_cons.mp small
    obtain ⟨absent, once⟩ := List.nodup_cons.mp once
    have place : (UInt8.ofNat (i + 1)).toNat - 1 = i := by
      simp only [kRuleCount] at here
      simp only [UInt8.toNat_ofNat']
      omega
    rw [List.map_cons, List.filter_cons]
    by_cases enabled : (records i).enabled = true
    · rw [if_pos enabled, List.foldl_cons, ih others once, follow_runtime, place]
      by_cases own : index = i
      · subst own
        simp [absent, enabled]
      · simp [own]
    · rw [if_neg enabled, ih others once]
      by_cases own : index = i
      · subst own
        simp [absent, enabled]
      · simp [own]

theorem evaluateChannelRules_runtime (nowMs : UInt32) (completion : PollCompletion)
    (engine : RuleEngine) (index : Nat) (inside : index < kRuleCount) :
    (engine.evaluateChannelRules nowMs completion).channelRuntime index =
      (engine.verdictAt nowMs completion index).runtime := by
  cases success : completion.success with
  | false => simp only [evaluateChannelRules, verdictAt, success]
  | true =>
    cases values : completion.values with
    | nil => simp only [evaluateChannelRules, verdictAt, success, values]
    | cons value more =>
      rw [evaluateChannelRules_follow nowMs completion engine value more success values]
      unfold enabledRules
      rw [foldl_follow_runtime nowMs completion.channel value engine.channelRuntime
        engine.state.rules (List.range kRuleCount) (fun i member => List.mem_range.mp member)
        List.nodup_range]
      simp only [verdictAt, success, values]
      cases (engine.state.rules index).enabled with
      | true => simp [inside]
      | false => simp

end RuleEngine

end Application
