import MultibusGateway.Core.RuleDecisions
import MultibusGateway.Rules.Lockout

/-! Rules on a threshold, with the predicate of each sample left open. A sample whose value is
not a finite number has no predicate: the evaluation returns before it is asked for. The run
of a rule keeps its decisions and the samples behind it in true time. -/

namespace Rules
open ByteString Modbus WrapClock Execution Application

def evaluatePredicate (plan : ChannelConditionPlan) (predicate : Bool) (nowMs : UInt32)
    (runtime : ChannelConditionRuntime) : Evaluation :=
  let released := { runtime with active := false, firedForActive := false }
  if locked runtime nowMs then
    { fired := false, runtime := if !predicate then released else runtime }
  else if !predicate then
    if runtime.active && !runtime.firedForActive && plan.continueMode == 0 &&
        plan.continueTimeMs > 0 && nowMs - runtime.activeSinceMs < plan.continueTimeMs then
      { fired := true, runtime := { released with lockedUntilMs := nowMs + plan.lockTimeMs } }
    else { fired := false, runtime := released }
  else
    let runtime := activate nowMs runtime
    if runtime.firedForActive then { fired := false, runtime := runtime }
    else if plan.continueTimeMs == 0 ||
        (plan.continueMode == 1 && nowMs - runtime.activeSinceMs ≥ plan.continueTimeMs) then
      { fired := true
        runtime :=
          { runtime with firedForActive := true, lockedUntilMs := nowMs + plan.lockTimeMs } }
    else { fired := false, runtime := runtime }

/-- A sample of a threshold rule at its true uptime. -/
structure Reading where
  uptimeMs : Nat
  predicate : Option Bool
  deriving DecidableEq

def evaluateReading (plan : ChannelConditionPlan) (x : Reading)
    (runtime : ChannelConditionRuntime) : Evaluation :=
  match x.predicate with
  | none => { fired := false, runtime := runtime }
  | some predicate => evaluatePredicate plan predicate (stamp x.uptimeMs) runtime

def reading (plan : ChannelConditionPlan) (x : Sample) : Reading where
  uptimeMs := x.uptimeMs
  predicate := (scalarToDouble x.scalar).map fun _ => thresholdPredicate plan x.scalar

theorem evaluateThreshold_predicate (plan : ChannelConditionPlan) (scalar : DecodedScalar)
    (nowMs : UInt32) (runtime : ChannelConditionRuntime) :
    { evaluateThreshold plan scalar nowMs runtime with lockTest := none } =
      evaluatePredicate plan (thresholdPredicate plan scalar) nowMs runtime := by
  simp only [evaluateThreshold, evaluatePredicate]
  split
  · rfl
  · split
    · split <;> rfl
    · split
      · rfl
      · split <;> rfl

theorem evaluateChannelCondition_reading (plan : ChannelConditionPlan) (x : Sample)
    (runtime : ChannelConditionRuntime) (threshold : plan.changing = false) :
    { evaluateChannelCondition plan x.scalar (stamp x.uptimeMs) runtime with lockTest := none } =
      evaluateReading plan (reading plan x) runtime := by
  unfold evaluateChannelCondition evaluateReading reading
  cases scalarToDouble x.scalar with
  | none => rfl
  | some value =>
    have same := evaluateThreshold_predicate plan x.scalar (stamp x.uptimeMs) runtime
    unfold ChannelConditionPlan.changing at threshold
    cases mode : plan.mode <;> simp_all

theorem verdict_reading (record : RuleRecord) (plan : ChannelConditionPlan)
    (channel : ChannelConfig) (x : Sample) (runtime : ChannelConditionRuntime)
    (condition : decodeChannelCondition (record.frames .condition) = some plan)
    (own : plan.channelId = channel.slot + 1) (threshold : plan.changing = false) :
    verdict record (stamp x.uptimeMs) channel x.scalar runtime =
      { runtime := (evaluateReading plan (reading plan x) runtime).runtime
        decisions := decisions plan runtime (evaluateReading plan (reading plan x) runtime) } := by
  rw [← evaluateChannelCondition_reading plan x runtime threshold]
  simp only [verdict, condition, own, bne_self_eq_false, Bool.false_eq_true, if_false]
  rfl

/-! The run of a rule. -/

structure Course where
  runtime : ChannelConditionRuntime := {}
  /-- The samples so far, the oldest first. -/
  past : List Reading := []
  /-- True uptimes of the triggers, the latest first. -/
  triggers : List Nat := []
  decisions : List Decision := []

def advance (plan : ChannelConditionPlan) (c : Course) (x : Reading) : Course :=
  let evaluation := evaluateReading plan x c.runtime
  { runtime := evaluation.runtime
    past := c.past ++ [x]
    triggers := if evaluation.fired then x.uptimeMs :: c.triggers else c.triggers
    decisions := c.decisions ++ decisions plan c.runtime evaluation }

/-- Triggers and releases in turn, a trigger first. -/
def Alternate (made : List Decision) : Prop :=
  made.IsChain (· ≠ ·) ∧ made.head? ≠ some .release

def HeldSince (sinceMs : Nat) (samples : List Reading) : Prop :=
  ∃ older first later, samples = older ++ first :: later ∧ first.uptimeMs = sinceMs ∧
    ∀ y ∈ first :: later, y.predicate ≠ some false

/-- A trigger comes on a sample that satisfies the predicate, not before the lock time of an
earlier trigger is over, and after the hold time of the second mode. -/
def TriggerJustified (plan : ChannelConditionPlan) (c : Course) (x : Reading) : Prop :=
  Decision.trigger ∈ decisions plan c.runtime (evaluateReading plan x c.runtime) →
    x.predicate = some true ∧
    (∀ earlier ∈ c.triggers, earlier + plan.lockTimeMs.toNat ≤ x.uptimeMs) ∧
    (plan.continueMode = 1 → ∃ sinceMs, HeldSince sinceMs (c.past ++ [x]) ∧
      sinceMs + plan.continueTimeMs.toNat ≤ x.uptimeMs)

inductive Outcome (plan : ChannelConditionPlan) (x : Reading) (runtime : ChannelConditionRuntime) :
    Evaluation → Prop where
  | kept (held : x.predicate ≠ some false) :
      Outcome plan x runtime { fired := false, runtime := runtime }
  | dropped (failed : x.predicate = some false) :
      Outcome plan x runtime
        { fired := false, runtime := { runtime with active := false, firedForActive := false } }
  | held (satisfied : x.predicate = some true) :
      Outcome plan x runtime { fired := false, runtime := activate (stamp x.uptimeMs) runtime }
  | fired (satisfied : x.predicate = some true)
      (unlocked : locked runtime (stamp x.uptimeMs) = false)
      (first : (activate (stamp x.uptimeMs) runtime).firedForActive = false)
      (ripe : plan.continueTimeMs = 0 ∨
        plan.continueTimeMs ≤
          stamp x.uptimeMs - (activate (stamp x.uptimeMs) runtime).activeSinceMs) :
      Outcome plan x runtime
        { fired := true
          runtime :=
            { activate (stamp x.uptimeMs) runtime with
              firedForActive := true
              lockedUntilMs := stamp x.uptimeMs + plan.lockTimeMs } }

section Steady
variable (plan : ChannelConditionPlan) (steady : plan.continueTimeMs = 0 ∨ plan.continueMode = 1)

include steady

theorem evaluateReading_outcome (x : Reading) (runtime : ChannelConditionRuntime) :
    Outcome plan x runtime (evaluateReading plan x runtime) := by
  unfold evaluateReading
  cases sampled : x.predicate with
  | none => exact .kept (by simp [sampled])
  | some predicate =>
    simp only [evaluatePredicate]
    cases predicate with
    | false =>
      split
      · exact .dropped sampled
      · -- the first continue mode fires here, but only with a continue time
        have early : (runtime.active && !runtime.firedForActive && plan.continueMode == 0 &&
            plan.continueTimeMs > 0 &&
            stamp x.uptimeMs - runtime.activeSinceMs < plan.continueTimeMs) = false := by
          rcases steady with none | second
          · simp [none]
          · simp [second]
        simp only [Bool.not_false, if_true, early, Bool.false_eq_true, if_false]
        exact .dropped sampled
    | true =>
      split
      · exact .kept (by simp [sampled])
      · rename_i free
        simp only [Bool.not_true, Bool.false_eq_true, if_false]
        split
        · exact .held sampled
        · rename_i first
          split
          · rename_i ripe
            refine .fired sampled (by simpa using free) (by simpa using first) ?_
            simp only [Bool.or_eq_true, beq_iff_eq, Bool.and_eq_true, decide_eq_true_eq] at ripe
            exact ripe.imp_right And.right
          · exact .held sampled

end Steady

theorem activate_active (nowMs : UInt32) (runtime : ChannelConditionRuntime) :
    (activate nowMs runtime).active = true := by
  unfold activate
  cases active : runtime.active with
  | true => simpa using active
  | false => rfl

theorem activate_lockedUntilMs (nowMs : UInt32) (runtime : ChannelConditionRuntime) :
    (activate nowMs runtime).lockedUntilMs = runtime.lockedUntilMs := by
  unfold activate
  split <;> rfl

theorem activate_fired (nowMs : UInt32) (runtime : ChannelConditionRuntime)
    (sound : runtime.firedForActive = true → runtime.active = true) :
    (activate nowMs runtime).firedForActive = runtime.firedForActive := by
  unfold activate
  cases active : runtime.active with
  | true => simp
  | false =>
    cases fired : runtime.firedForActive with
    | true => simp [active] at sound; simp [sound] at fired
    | false => simp

/-! The invariant of a run. -/

/-- The flags tell the last decision, the stored deadline is the stamp of that of the latest
trigger, and an active rule has been held since the noted time. -/
structure Sound (plan : ChannelConditionPlan) (c : Course) : Prop where
  active : c.runtime.firedForActive = true → c.runtime.active = true
  alternate : Alternate c.decisions
  last : c.runtime.firedForActive = true ↔ c.decisions.getLast? = some .trigger
  latest : ∀ latest, c.triggers.head? = some latest →
    c.runtime.lockedUntilMs = stamp (latest + plan.lockTimeMs.toNat) ∧
      ∀ earlier ∈ c.triggers, earlier ≤ latest
  hold : c.runtime.active = true → ∃ sinceMs, c.runtime.activeSinceMs = stamp sinceMs ∧
    HeldSince sinceMs c.past

def InTurn (c : Course) (x : Reading) : Prop :=
  (∀ y ∈ c.past, y.uptimeMs ≤ x.uptimeMs) ∧ ∀ earlier ∈ c.triggers, earlier ≤ x.uptimeMs

theorem sound_start (plan : ChannelConditionPlan) : Sound plan {} where
  active := by simp
  alternate := ⟨.nil, by simp⟩
  last := by simp
  latest := by simp
  hold := by simp

theorem alternate_append (made : List Decision) (decision : Decision)
    (alternate : Alternate made) (turn : made.getLast? ≠ some decision)
    (first : made = [] → decision = .trigger) : Alternate (made ++ [decision]) := by
  refine ⟨List.isChain_append.mpr ⟨alternate.1, .singleton _, ?_⟩, ?_⟩
  · intro a last b head
    rw [List.head?_cons, Option.mem_some_iff] at head
    subst head
    rintro rfl
    exact turn last
  · cases made with
    | nil => simp [first rfl]
    | cons a rest => exact alternate.2

theorem heldSince_append (sinceMs : Nat) (past : List Reading) (x : Reading)
    (held : x.predicate ≠ some false) (since : HeldSince sinceMs past) :
    HeldSince sinceMs (past ++ [x]) := by
  obtain ⟨older, first, later, rfl, time, satisfied⟩ := since
  refine ⟨older, first, later ++ [x], by simp, time, ?_⟩
  intro y member
  rw [← List.cons_append] at member
  rcases List.mem_append.mp member with before | last
  · exact satisfied y before
  · rw [List.mem_singleton.mp last]
    exact held

theorem heldSince_activate (runtime : ChannelConditionRuntime) (past : List Reading) (x : Reading)
    (satisfied : x.predicate = some true)
    (hold : runtime.active = true → ∃ sinceMs, runtime.activeSinceMs = stamp sinceMs ∧
      HeldSince sinceMs past) :
    ∃ sinceMs, (activate (stamp x.uptimeMs) runtime).activeSinceMs = stamp sinceMs ∧
      HeldSince sinceMs (past ++ [x]) := by
  have held : x.predicate ≠ some false := by simp [satisfied]
  unfold activate
  cases active : runtime.active with
  | true =>
    obtain ⟨sinceMs, stored, since⟩ := hold active
    exact ⟨sinceMs, stored, heldSince_append sinceMs past x held since⟩
  | false => exact ⟨x.uptimeMs, rfl, past, x, [], rfl, rfl, by simpa using held⟩

theorem heldSince_le (sinceMs : Nat) (past : List Reading) (x : Reading)
    (before : ∀ y ∈ past, y.uptimeMs ≤ x.uptimeMs) (since : HeldSince sinceMs (past ++ [x])) :
    sinceMs ≤ x.uptimeMs := by
  obtain ⟨older, first, later, samples, rfl, -⟩ := since
  have member : first ∈ past ++ [x] := by
    rw [samples]
    exact List.mem_append_right _ List.mem_cons_self
  rcases List.mem_append.mp member with old | last
  · exact before first old
  · rw [List.mem_singleton.mp last]

theorem unlocked_after (plan : ChannelConditionPlan) (c : Course) (x : Reading)
    (sound : Sound plan c) (inTurn : InTurn c x) (short : plan.lockTimeMs ≤ kMaxRuleTimeMs)
    (unlocked : locked c.runtime (stamp x.uptimeMs) = false) :
    ∀ earlier ∈ c.triggers, earlier + plan.lockTimeMs.toNat ≤ x.uptimeMs := by
  intro earlier member
  have bound : plan.lockTimeMs.toNat ≤ 86400000 := short
  cases triggers : c.triggers with
  | nil => rw [triggers] at member; cases member
  | cons latest rest =>
    obtain ⟨stored, greatest⟩ := sound.latest latest (by rw [triggers, List.head?_cons])
    have notAfter : latest ≤ x.uptimeMs := inTurn.2 latest (by simp [triggers])
    have order := greatest earlier member
    by_contra early
    have ahead := reached_future x.uptimeMs (latest + plan.lockTimeMs.toNat) (by omega) (by omega)
    rw [locked, stored, ahead] at unlocked
    cases unlocked

section Steps
variable (plan : ChannelConditionPlan) (threshold : plan.changing = false)
  (steady : plan.continueTimeMs = 0 ∨ plan.continueMode = 1) (c : Course) (x : Reading)

include threshold steady

theorem sound_advance (sound : Sound plan c) (inTurn : InTurn c x) :
    Sound plan (advance plan c x) := by
  have outcome := evaluateReading_outcome plan steady x c.runtime
  unfold advance
  generalize evaluateReading plan x c.runtime = evaluation at outcome
  cases outcome with
  | kept held =>
    have none : decisions plan c.runtime { fired := false, runtime := c.runtime } = [] := by
      cases fired : c.runtime.firedForActive with
      | true => simp [decisions, fired, sound.active fired]
      | false => simp [decisions, fired]
    simp only [none, List.append_nil, Bool.false_eq_true, if_false]
    refine ⟨sound.active, sound.alternate, sound.last, sound.latest, fun active => ?_⟩
    obtain ⟨sinceMs, stored, since⟩ := sound.hold active
    exact ⟨sinceMs, stored, heldSince_append sinceMs c.past x held since⟩
  | dropped failed =>
    cases fired : c.runtime.firedForActive with
    | true =>
      have last := sound.last.mp fired
      simp only [decisions, fired, threshold, Bool.false_eq_true, if_false, List.nil_append,
        Bool.not_false, Bool.and_true, if_true]
      refine ⟨by simp, ?_, by simp, sound.latest, by simp⟩
      exact alternate_append _ _ sound.alternate (by simp [last])
        fun empty => by simp [empty] at last
    | false =>
      have last : c.decisions.getLast? ≠ some .trigger := fun trigger => by
        simp [sound.last.mpr trigger] at fired
      simp only [decisions, fired, Bool.false_eq_true, if_false, List.append_nil, Bool.false_and]
      exact ⟨by simp, sound.alternate, by simp [last], sound.latest, by simp⟩
  | held satisfied =>
    have fired := activate_fired (stamp x.uptimeMs) c.runtime sound.active
    have active := activate_active (stamp x.uptimeMs) c.runtime
    have none : decisions plan c.runtime
        { fired := false, runtime := activate (stamp x.uptimeMs) c.runtime } = [] := by
      simp [decisions, active]
    simp only [none, List.append_nil, Bool.false_eq_true, if_false]
    refine ⟨fun _ => active, sound.alternate, ?_, ?_, fun _ => ?_⟩
    · rw [fired]
      exact sound.last
    · rw [activate_lockedUntilMs]
      exact sound.latest
    · exact heldSince_activate c.runtime c.past x satisfied sound.hold
  | fired satisfied unlocked first ripe =>
    have unfired : c.runtime.firedForActive = false := by
      rw [← activate_fired (stamp x.uptimeMs) c.runtime sound.active]
      exact first
    have last : c.decisions.getLast? ≠ some .trigger := fun trigger => by
      simp [sound.last.mpr trigger] at unfired
    simp only [decisions, unfired, if_true, Bool.false_and, Bool.false_eq_true, if_false,
      List.append_nil]
    refine ⟨fun _ => activate_active _ _, ?_, by simp, ?_, fun _ => ?_⟩
    · exact alternate_append _ _ sound.alternate last fun _ => rfl
    · intro latest head
      rw [List.head?_cons, Option.some.injEq] at head
      subst head
      refine ⟨(stamp_add_toNat _ _).symm, fun earlier member => ?_⟩
      rcases List.mem_cons.mp member with rfl | older
      · exact le_rfl
      · exact inTurn.2 earlier older
    · exact heldSince_activate c.runtime c.past x satisfied sound.hold

omit threshold in
theorem trigger_justified (short : plan.lockTimeMs ≤ kMaxRuleTimeMs) (sound : Sound plan c)
    (inTurn : InTurn c x) : TriggerJustified plan c x := by
  have outcome := evaluateReading_outcome plan steady x c.runtime
  unfold TriggerJustified
  generalize evaluateReading plan x c.runtime = evaluation at outcome
  have silent (runtime : ChannelConditionRuntime) :
      Decision.trigger ∉ decisions plan c.runtime { fired := false, runtime := runtime } := by
    simp only [decisions, Bool.false_eq_true, if_false, List.nil_append]
    split <;> simp
  intro triggered
  cases outcome with
  | kept => exact absurd triggered (silent _)
  | dropped => exact absurd triggered (silent _)
  | held => exact absurd triggered (silent _)
  | fired satisfied unlocked first ripe =>
    refine ⟨satisfied, unlocked_after plan c x sound inTurn short unlocked, fun _ => ?_⟩
    obtain ⟨sinceMs, stored, since⟩ :=
      heldSince_activate c.runtime c.past x satisfied sound.hold
    refine ⟨sinceMs, since, ?_⟩
    have order := heldSince_le sinceMs c.past x inTurn.1 since
    rcases ripe with none | elapsed
    · simpa [none] using order
    · -- the elapsed time is read modulo the period, which can only make it smaller
      rw [stored] at elapsed
      have read := elapsed_toNat x.uptimeMs sinceMs order
      have reached : plan.continueTimeMs.toNat ≤ (x.uptimeMs - sinceMs) % 2 ^ 32 := by
        rw [← read]
        exact elapsed
      have wrapped := Nat.mod_le (x.uptimeMs - sinceMs) (2 ^ 32)
      omega

omit threshold steady in
theorem always_inTurn (samples : List Reading)
    (inOrder : samples.Pairwise fun a b => a.uptimeMs ≤ b.uptimeMs)
    (start : ∀ x ∈ samples, InTurn c x) : Always (advance plan) InTurn c samples := by
  induction samples generalizing c with
  | nil => exact always_nil _ _ _
  | cons x xs ih =>
    obtain ⟨first, rest⟩ := List.pairwise_cons.mp inOrder
    refine (always_cons _ _ _ _ _).mpr ⟨start x List.mem_cons_self, ih _ rest ?_⟩
    intro y later
    obtain ⟨past, triggers⟩ := start y (List.mem_cons_of_mem x later)
    refine ⟨fun z member => ?_, fun earlier member => ?_⟩
    · rcases List.mem_append.mp member with old | new
      · exact past z old
      · rw [List.mem_singleton.mp new]
        exact first y later
    · simp only [advance] at member
      split at member
      · rcases List.mem_cons.mp member with rfl | old
        · exact first y later
        · exact triggers earlier old
      · exact triggers earlier member

end Steps

theorem decodeChannelCondition_lockTime (frame : StoredFrame) (plan : ChannelConditionPlan)
    (decoded : decodeChannelCondition frame = some plan) : plan.lockTimeMs ≤ kMaxRuleTimeMs := by
  have checked : ∀ base : ChannelConditionPlan,
      (if base.continueTimeMs > kMaxRuleTimeMs || base.lockTimeMs > kMaxRuleTimeMs then none
        else if base.changeIntervalMs > kMaxRuleTimeMs || !base.minimum.isFinite ||
          !base.maximum.isFinite then none
        else some base) = some plan → plan.lockTimeMs ≤ kMaxRuleTimeMs := by
    intro base accepted
    split at accepted
    · cases accepted
    · rename_i times
      split at accepted
      · cases accepted
      · rw [← Option.some.inj accepted]
        simp only [Bool.or_eq_true, decide_eq_true_eq, not_or] at times
        exact UInt32.not_lt.mp times.2
  unfold decodeChannelCondition at decoded
  dsimp only at decoded
  split at decoded
  · cases decoded
  · split at decoded
    · cases decoded
    · split at decoded
      · cases decoded
      · exact checked _ decoded

/-! The rule among the others. -/

/-- A poll that is completed, at its true uptime. -/
structure TimedPoll where
  uptimeMs : Nat
  completion : PollCompletion

/-- What a rule sees of a poll: nothing of one that failed or is of another channel. -/
def readings (plan : ChannelConditionPlan) (x : TimedPoll) : List Reading :=
  match x.completion.success, x.completion.values with
  | true, value :: _ =>
    if plan.channelId != x.completion.channel.slot + 1 then []
    else [reading plan ⟨x.uptimeMs, value⟩]
  | _, _ => []

structure WatchedRules where
  engine : RuleEngine
  decisions : List Decision := []

def watch (index : Nat) (w : WatchedRules) (x : TimedPoll) : WatchedRules where
  engine := w.engine.evaluateChannelRules (stamp x.uptimeMs) x.completion
  decisions :=
    w.decisions ++ (w.engine.verdictAt (stamp x.uptimeMs) x.completion index).decisions

/-- The rule at the place is enabled under the condition and has run as noted. -/
structure RunsAs (index : Nat) (frame : StoredFrame) (w : WatchedRules) (c : Course) : Prop where
  enabled : (w.engine.state.rules index).enabled = true
  condition : (w.engine.state.rules index).frames .condition = frame
  runtime : w.engine.channelRuntime index = c.runtime
  decisions : w.decisions = c.decisions

/-- The evaluation of all rules decides for the one as its own run does. -/
theorem runsAs_watch (index : Nat) (inside : index < kRuleCount) (frame : StoredFrame)
    (plan : ChannelConditionPlan) (decoded : decodeChannelCondition frame = some plan)
    (threshold : plan.changing = false) (w : WatchedRules) (c : Course) (x : TimedPoll)
    (same : RunsAs index frame w c) :
    RunsAs index frame (watch index w x) (run (advance plan) c (readings plan x)) := by
  have verdict : (w.engine.verdictAt (stamp x.uptimeMs) x.completion index).runtime =
        (run (advance plan) c (readings plan x)).runtime ∧
      w.decisions ++ (w.engine.verdictAt (stamp x.uptimeMs) x.completion index).decisions =
        (run (advance plan) c (readings plan x)).decisions := by
    unfold RuleEngine.verdictAt readings
    rw [same.enabled]
    cases x.completion.success with
    | false => exact ⟨same.runtime, by simpa using same.decisions⟩
    | true =>
      cases x.completion.values with
      | nil => exact ⟨same.runtime, by simpa using same.decisions⟩
      | cons value more =>
        by_cases own : plan.channelId = x.completion.channel.slot + 1
        · have judged := verdict_reading (w.engine.state.rules index) plan x.completion.channel
            ⟨x.uptimeMs, value⟩ c.runtime (same.condition.symm ▸ decoded) own threshold
          simp only [own, bne_self_eq_false, Bool.false_eq_true, if_false, run_cons, run_nil,
            advance, same.runtime, same.decisions]
          dsimp only at judged
          rw [judged]
          exact ⟨rfl, rfl⟩
        · have other : (plan.channelId != x.completion.channel.slot + 1) = true :=
            bne_iff_ne.mpr own
          simp only [Rules.verdict, same.condition, decoded, other, if_true, run_nil]
          exact ⟨same.runtime, by simpa using same.decisions⟩
  have state := RuleEngine.evaluateChannelRules_state (stamp x.uptimeMs) x.completion w.engine
  have runtime :=
    RuleEngine.evaluateChannelRules_runtime (stamp x.uptimeMs) x.completion w.engine index inside
  refine ⟨?_, ?_, runtime.trans verdict.1, verdict.2⟩
  · simp only [watch, state, same.enabled]
  · simp only [watch, state, same.condition]

/-- Over every run of samples in order, triggers and releases alternate, and every trigger is
justified by the predicate, the lock time and the hold time. So it is for a rule that begins
among others, over all polls that give it these samples. -/
theorem threshold_decisions (frame : StoredFrame) (plan : ChannelConditionPlan)
    (samples : List Reading) (decoded : decodeChannelCondition frame = some plan)
    (threshold : plan.changing = false)
    (steady : plan.continueTimeMs = 0 ∨ plan.continueMode = 1)
    (inOrder : samples.Pairwise fun a b => a.uptimeMs ≤ b.uptimeMs) :
    Alternate (run (advance plan) {} samples).decisions ∧
      Always (advance plan) (TriggerJustified plan) {} samples ∧
      ∀ (index : Nat) (engine : RuleEngine) (polls : List TimedPoll), index < kRuleCount →
        RunsAs index frame ⟨engine, []⟩ {} → polls.flatMap (readings plan) = samples →
          (run (watch index) ⟨engine, []⟩ polls).decisions =
            (run (advance plan) {} samples).decisions := by
  have inTurn := always_inTurn plan {} samples inOrder (by simp [InTurn])
  have keeps : ∀ c x, Sound plan c → InTurn c x → Sound plan (advance plan c x) :=
    fun c x => sound_advance plan threshold steady c x
  refine ⟨(invariant_run _ (Sound plan) InTurn keeps {} samples (sound_start plan)
    inTurn).alternate, ?_, ?_⟩
  · have sound := invariant_steps _ (Sound plan) InTurn keeps {} samples (sound_start plan) inTurn
    have short := decodeChannelCondition_lockTime frame plan decoded
    refine (sound.and _ inTurn).mono _ fun c x both => ?_
    exact trigger_justified plan steady c x short both.1 both.2
  · rintro index engine polls inside fresh rfl
    exact (related_run (watch index) (advance plan) (readings plan) (RunsAs index frame)
      (runsAs_watch index inside frame plan decoded threshold) _ _ polls fresh).decisions

/-- Rule 1 alone, on the values of channel 1 above 10.0. -/
def aboveTenEngine : RuleEngine :=
  { state := RuleState.setRule {} 1
      { enabled := true, frames := fun slot => if slot = .condition then aboveTenFrame else default } }

def aboveTenPolls : List TimedPoll :=
  [⟨5, { success := true, values := [.unsignedInteger 20] }⟩, ⟨6, {}⟩,
    ⟨9, { success := true, values := [.unsignedInteger 3] }⟩]

theorem threshold_decisions_aboveTen :
    Alternate (run (advance aboveTenPlan) {} [⟨5, some true⟩, ⟨9, some false⟩]).decisions ∧
      Always (advance aboveTenPlan) (TriggerJustified aboveTenPlan) {}
        [⟨5, some true⟩, ⟨9, some false⟩] ∧
      (run (watch 0) ⟨aboveTenEngine, []⟩ aboveTenPolls).decisions =
        (run (advance aboveTenPlan) {} [⟨5, some true⟩, ⟨9, some false⟩]).decisions := by
  obtain ⟨alternate, justified, follows⟩ := threshold_decisions aboveTenFrame aboveTenPlan
    [⟨5, some true⟩, ⟨9, some false⟩] (by decide) (by decide) (by decide) (by simp)
  exact ⟨alternate, justified, follows 0 aboveTenEngine aboveTenPolls (by decide)
    ⟨rfl, rfl, rfl, rfl⟩ (by decide +kernel)⟩

example : (run (advance aboveTenPlan) {}
    [⟨5, some true⟩, ⟨7, none⟩, ⟨9, some false⟩]).decisions = [.trigger, .release] := by decide

end Rules
