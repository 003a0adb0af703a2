import MultibusGateway.Library.Execution
import MultibusGateway.Rules.Execution

/-! The lockout of a channel rule over true uptime. A run of evaluations is kept with
its true times: the deadline of the last fire as a natural number, of which the stored
deadline is the 32-bit stamp. The lockout test is right exactly while that deadline is
ahead or less than half a counter period old. -/

namespace Rules
open ByteString Modbus WrapClock Execution

structure Sample where
  uptimeMs : Nat
  scalar : DecodedScalar

structure Timeline where
  runtime : ChannelConditionRuntime := {}
  /-- True uptimes of the steps that fired, the latest first. -/
  fires : List Nat := []
  /-- True time until which the latest fire locks the rule; zero before any fire. -/
  deadline : Nat := 0

def evaluate (plan : ChannelConditionPlan) (t : Timeline) (x : Sample) : Evaluation :=
  evaluateChannelCondition plan x.scalar (stamp x.uptimeMs) t.runtime

def observe (plan : ChannelConditionPlan) (t : Timeline) (x : Sample) : Timeline :=
  let evaluation := evaluate plan t x
  if evaluation.fired then
    { runtime := evaluation.runtime
      fires := x.uptimeMs :: t.fires
      deadline := x.uptimeMs + plan.lockTimeMs.toNat }
  else { t with runtime := evaluation.runtime }

/-- Samples arrive at nondecreasing true uptimes. -/
def InOrder (samples : List Sample) : Prop :=
  samples.Pairwise fun a b => a.uptimeMs ≤ b.uptimeMs

/-- The lockout test suppresses the rule only within the lock time of an earlier fire. -/
def LockJustified (plan : ChannelConditionPlan) (t : Timeline) (x : Sample) : Prop :=
  (evaluate plan t x).lockTest = some true →
    ∃ fire ∈ t.fires, x.uptimeMs < fire + plan.lockTimeMs.toNat

def reachesLockTest (plan : ChannelConditionPlan) (scalar : DecodedScalar) (nowMs : UInt32)
    (runtime : ChannelConditionRuntime) : Bool :=
  (scalarToDouble scalar).isSome &&
    match plan.mode with
    | .changeRecent => runtime.havePrevious
    | .changeInterval =>
      runtime.havePrevious && !(nowMs - runtime.previousAtMs < plan.changeIntervalMs)
    | _ => true

/-- The deadline lies ahead, or it passed less than half a counter period ago, counted
modulo the period. -/
def DeadlineReadable (deadline uptimeMs : Nat) : Prop :=
  uptimeMs < deadline ∨ (uptimeMs - deadline) % 2 ^ 32 < 2 ^ 31

def LockReadable (plan : ChannelConditionPlan) (t : Timeline) (x : Sample) : Prop :=
  reachesLockTest plan x.scalar (stamp x.uptimeMs) t.runtime = true →
    DeadlineReadable t.deadline x.uptimeMs

def StoresDeadline (plan : ChannelConditionPlan) (nowMs : UInt32)
    (runtime : ChannelConditionRuntime) (evaluation : Evaluation) : Prop :=
  evaluation.runtime.lockedUntilMs =
    if evaluation.fired then nowMs + plan.lockTimeMs else runtime.lockedUntilMs

theorem evaluateChangeRecent_deadline (plan : ChannelConditionPlan) (value : Binary64)
    (nowMs : UInt32) (runtime : ChannelConditionRuntime) :
    StoresDeadline plan nowMs runtime (evaluateChangeRecent plan value nowMs runtime) := by
  simp only [StoresDeadline, evaluateChangeRecent]
  split <;> rfl

theorem evaluateChangeInterval_deadline (plan : ChannelConditionPlan) (value : Binary64)
    (nowMs : UInt32) (runtime : ChannelConditionRuntime) :
    StoresDeadline plan nowMs runtime (evaluateChangeInterval plan value nowMs runtime) := by
  simp only [StoresDeadline, evaluateChangeInterval]
  split
  · rfl
  · split
    · rfl
    · split <;> rfl

theorem evaluateThreshold_deadline (plan : ChannelConditionPlan) (scalar : DecodedScalar)
    (nowMs : UInt32) (runtime : ChannelConditionRuntime) :
    StoresDeadline plan nowMs runtime (evaluateThreshold plan scalar nowMs runtime) := by
  have activated : (activate nowMs runtime).lockedUntilMs = runtime.lockedUntilMs := by
    unfold activate
    split <;> rfl
  simp only [StoresDeadline, evaluateThreshold]
  split
  · -- locked: nothing fires
    simp only [Bool.false_eq_true, if_false]
    split <;> rfl
  · split
    · split <;> rfl
    · split
      · exact activated
      · split
        · rfl
        · exact activated

theorem evaluate_deadline (plan : ChannelConditionPlan) (t : Timeline) (x : Sample) :
    StoresDeadline plan (stamp x.uptimeMs) t.runtime (evaluate plan t x) := by
  unfold evaluate evaluateChannelCondition
  split
  · rfl
  · split
    · exact evaluateChangeRecent_deadline _ _ _ _
    · exact evaluateChangeInterval_deadline _ _ _ _
    · exact evaluateThreshold_deadline _ _ _ _

theorem evaluateThreshold_lockTest (plan : ChannelConditionPlan) (scalar : DecodedScalar)
    (nowMs : UInt32) (runtime : ChannelConditionRuntime) :
    (evaluateThreshold plan scalar nowMs runtime).lockTest = some (locked runtime nowMs) := by
  simp only [evaluateThreshold]
  split
  · rfl
  · split
    · split <;> rfl
    · split
      · rfl
      · split <;> rfl

theorem evaluate_lockTest (plan : ChannelConditionPlan) (t : Timeline) (x : Sample) :
    (evaluate plan t x).lockTest =
      if reachesLockTest plan x.scalar (stamp x.uptimeMs) t.runtime then
        some (locked t.runtime (stamp x.uptimeMs))
      else none := by
  unfold evaluate evaluateChannelCondition reachesLockTest
  cases scalarToDouble x.scalar with
  | none => rfl
  | some value =>
    cases mode : plan.mode with
    | changeRecent => simp [evaluateChangeRecent]
    | changeInterval =>
      simp only [evaluateChangeInterval]
      by_cases previous : t.runtime.havePrevious = true
      · by_cases early : stamp x.uptimeMs - t.runtime.previousAtMs < plan.changeIntervalMs
        · simp [previous, early]
        · simp [previous, early]
      · simp [previous]
    | falseValue => simp [evaluateThreshold_lockTest]
    | trueValue => simp [evaluateThreshold_lockTest]
    | below => simp [evaluateThreshold_lockTest]
    | above => simp [evaluateThreshold_lockTest]
    | within => simp [evaluateThreshold_lockTest]

/-! The invariant of a run. -/

/-- The stored deadline is the stamp of the true one, and the true one is that of the
latest fire. -/
structure Faithful (plan : ChannelConditionPlan) (t : Timeline) : Prop where
  stored : t.runtime.lockedUntilMs = stamp t.deadline
  latest : ∀ fire ∈ t.fires, fire + plan.lockTimeMs.toNat ≤ t.deadline
  origin : t.deadline = 0 ∨ ∃ fire ∈ t.fires, t.deadline = fire + plan.lockTimeMs.toNat

def NotBefore (t : Timeline) (x : Sample) : Prop := ∀ fire ∈ t.fires, fire ≤ x.uptimeMs

theorem faithful_start (plan : ChannelConditionPlan) : Faithful plan {} :=
  ⟨rfl, by simp, Or.inl rfl⟩

theorem faithful_observe (plan : ChannelConditionPlan) (t : Timeline) (x : Sample)
    (faithful : Faithful plan t) (order : NotBefore t x) : Faithful plan (observe plan t x) := by
  have deadline := evaluate_deadline plan t x
  unfold StoresDeadline at deadline
  unfold observe
  by_cases fired : (evaluate plan t x).fired = true
  · rw [if_pos fired] at deadline
    simp only [fired, if_true]
    refine ⟨?_, ?_, Or.inr ⟨x.uptimeMs, List.mem_cons_self, rfl⟩⟩
    · rw [deadline, stamp_add_toNat]
    · intro fire hf
      rcases List.mem_cons.mp hf with rfl | hf
      · exact le_rfl
      · exact Nat.add_le_add_right (order fire hf) _
  · rw [if_neg fired] at deadline
    simp only [fired, Bool.false_eq_true, if_false]
    exact ⟨deadline.trans faithful.stored, faithful.latest, faithful.origin⟩

theorem always_notBefore (plan : ChannelConditionPlan) (t : Timeline) (samples : List Sample)
    (inOrder : InOrder samples) (start : ∀ x ∈ samples, NotBefore t x) :
    Always (observe plan) NotBefore t samples := by
  induction samples generalizing t with
  | nil => exact always_nil _ _ _
  | cons x xs ih =>
    obtain ⟨first, rest⟩ := List.pairwise_cons.mp inOrder
    refine (always_cons _ _ _ _ _).mpr ⟨start x List.mem_cons_self, ih _ rest ?_⟩
    intro y hy fire hf
    have member : fire = x.uptimeMs ∨ fire ∈ t.fires := by
      simp only [observe] at hf
      split at hf
      · exact List.mem_cons.mp hf
      · exact Or.inr hf
    rcases member with rfl | hf
    · exact first y hy
    · exact start y (List.mem_cons_of_mem x hy) fire hf

/-- One step: the test is justified exactly when the deadline can still be read. -/
theorem justified_iff_readable (plan : ChannelConditionPlan) (t : Timeline) (x : Sample)
    (faithful : Faithful plan t) : LockJustified plan t x ↔ LockReadable plan t x := by
  unfold LockJustified LockReadable DeadlineReadable
  rw [evaluate_lockTest]
  by_cases reaches : reachesLockTest plan x.scalar (stamp x.uptimeMs) t.runtime = true
  · simp only [reaches, if_true, Option.some.injEq, true_imp_iff, locked, faithful.stored,
      Bool.not_eq_true']
    by_cases ahead : x.uptimeMs < t.deadline
    · -- the deadline is ahead, so it comes from a fire and locks the rule
      have source : ∃ fire ∈ t.fires, x.uptimeMs < fire + plan.lockTimeMs.toNat := by
        rcases faithful.origin with zero | ⟨fire, member, value⟩
        · omega
        · exact ⟨fire, member, by omega⟩
      simp [ahead, source]
    · have none : ¬ ∃ fire ∈ t.fires, x.uptimeMs < fire + plan.lockTimeMs.toNat := by
        rintro ⟨fire, member, within⟩
        have := faithful.latest fire member
        omega
      have read := reached_past x.uptimeMs t.deadline (by omega)
      constructor
      · intro justified
        right
        rw [← read]
        by_contra unread
        exact none (justified (by simpa using unread))
      · rintro (late | near) unread
        · exact absurd late ahead
        · rw [read.mpr near] at unread
          cases unread
  · simp [reaches]

/-- Along every run over samples in order of true uptime, the lockout test is justified
at a step if and only if the deadline is readable there. -/
theorem lockout_justified_iff (plan : ChannelConditionPlan) (samples : List Sample)
    (inOrder : InOrder samples) :
    Always (observe plan) (fun t x => LockJustified plan t x ↔ LockReadable plan t x) {}
      samples := by
  have order := always_notBefore plan {} samples inOrder (by simp [NotBefore])
  have faithful := invariant_steps (observe plan) (Faithful plan) NotBefore
    (faithful_observe plan) {} samples (faithful_start plan) order
  exact faithful.mono (observe plan) fun t x h => justified_iff_readable plan t x h

def aboveTenFrame : StoredFrame :=
  ((default : StoredFrame).set ([0xf9, 0x7d, 0x81, 0x12, 0x01, 0x03, 0, 0, 0, 0, 0, 0, 0, 0] ++
    writeU32 0 ++ writeU32 0x41200000)).getD default

def aboveTenPlan : ChannelConditionPlan :=
  { channelId := 1, mode := .above, maximum := ⟨0x41200000⟩ }

theorem lockout_justified_iff_aboveTen :
    Always (observe aboveTenPlan)
      (fun t x => LockJustified aboveTenPlan t x ↔ LockReadable aboveTenPlan t x) {}
      [⟨5, .unsignedInteger 20⟩, ⟨9, .unsignedInteger 3⟩] :=
  lockout_justified_iff aboveTenPlan [⟨5, .unsignedInteger 20⟩, ⟨9, .unsignedInteger 3⟩]
    (by simp [InOrder])

/-- The first sample of a rule that never fired, taken when the counter shows half its
period, is suppressed. -/
theorem unfired_rule_locked :
    ¬ ∀ (frame : StoredFrame) (plan : ChannelConditionPlan) (samples : List Sample),
      decodeChannelCondition frame = some plan → InOrder samples →
      Always (observe plan) (LockJustified plan) {} samples := by
  intro justified
  have always := justified aboveTenFrame aboveTenPlan [⟨2 ^ 31, .unsignedInteger 20⟩] (by decide)
    (by simp [InOrder])
  obtain ⟨fire, member, -⟩ := ((always_cons _ _ _ _ _).mp always).1 rfl
  cases member

end Rules
