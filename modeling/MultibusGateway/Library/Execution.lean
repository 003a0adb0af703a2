import Mathlib.Tactic.TypeStar

/-! Runs of a deterministic step function over a list of inputs. A run is the list of
its steps, each with the state it starts from; a property of steps holds along a run,
and a state property that every step keeps holds wherever the run comes. -/

namespace Execution
variable {σ ι : Type*}

def run (step : σ → ι → σ) (s : σ) (inputs : List ι) : σ := inputs.foldl step s

/-- The steps of a run: the state before each step, and its input. -/
def steps (step : σ → ι → σ) : σ → List ι → List (σ × ι)
  | _, [] => []
  | s, x :: xs => (s, x) :: steps step (step s x) xs

/-- Every step of the run satisfies the property. -/
def Always (step : σ → ι → σ) (P : σ → ι → Prop) (s : σ) (inputs : List ι) : Prop :=
  ∀ v ∈ steps step s inputs, P v.1 v.2

variable (step : σ → ι → σ)

@[simp] theorem run_nil (s : σ) : run step s [] = s := rfl

@[simp] theorem run_cons (s : σ) (x : ι) (xs : List ι) :
    run step s (x :: xs) = run step (step s x) xs := rfl

theorem run_append (s : σ) (xs ys : List ι) :
    run step s (xs ++ ys) = run step (run step s xs) ys := List.foldl_append

@[simp] theorem always_nil (P : σ → ι → Prop) (s : σ) : Always step P s [] := by
  simp [Always, steps]

@[simp] theorem always_cons (P : σ → ι → Prop) (s : σ) (x : ι) (xs : List ι) :
    Always step P s (x :: xs) ↔ P s x ∧ Always step P (step s x) xs := by
  simp [Always, steps]

theorem always_append (P : σ → ι → Prop) (s : σ) (xs ys : List ι) :
    Always step P s (xs ++ ys) ↔ Always step P s xs ∧ Always step P (run step s xs) ys := by
  induction xs generalizing s with
  | nil => simp
  | cons x xs ih => rw [List.cons_append, always_cons, always_cons, ih, run_cons, and_assoc]

theorem Always.mono {P Q : σ → ι → Prop} (imp : ∀ s x, P s x → Q s x) {s : σ} {xs : List ι}
    (always : Always step P s xs) : Always step Q s xs :=
  fun v hv => imp v.1 v.2 (always v hv)

/-- A property that is kept by the steps of the run holds at its end. -/
theorem invariant_run (I : σ → Prop) (P : σ → ι → Prop)
    (keeps : ∀ s x, I s → P s x → I (step s x)) (s : σ) (xs : List ι) (start : I s)
    (always : Always step P s xs) : I (run step s xs) := by
  induction xs generalizing s with
  | nil => exact start
  | cons x xs ih =>
    obtain ⟨first, rest⟩ := (always_cons step P s x xs).mp always
    exact ih (step s x) (keeps s x start first) rest

/-- A property that is kept by the steps of the run holds before each of them. -/
theorem invariant_steps (I : σ → Prop) (P : σ → ι → Prop)
    (keeps : ∀ s x, I s → P s x → I (step s x)) (s : σ) (xs : List ι) (start : I s)
    (always : Always step P s xs) : Always step (fun s _ => I s) s xs := by
  induction xs generalizing s with
  | nil => exact always_nil step _ s
  | cons x xs ih =>
    obtain ⟨first, rest⟩ := (always_cons step P s x xs).mp always
    exact (always_cons step _ s x xs).mpr ⟨start, ih (step s x) (keeps s x start first) rest⟩

theorem always_of_forall (A : ι → Prop) (s : σ) (xs : List ι) (among : ∀ x ∈ xs, A x) :
    Always step (fun _ x => A x) s xs := by
  induction xs generalizing s with
  | nil => exact always_nil step _ s
  | cons x xs ih =>
    obtain ⟨first, rest⟩ := List.forall_mem_cons.mp among
    exact (always_cons step _ s x xs).mpr ⟨first, ih (step s x) rest⟩

theorem always_in_order (clock : σ → Nat) (time : ι → Nat)
    (ticks : ∀ s x, clock (step s x) = time x) (s : σ) (xs : List ι)
    (ordered : xs.Pairwise fun a b => time a ≤ time b) (later : ∀ x ∈ xs, clock s ≤ time x) :
    Always step (fun s x => clock s ≤ time x) s xs := by
  induction xs generalizing s with
  | nil => exact always_nil step _ s
  | cons x xs ih =>
    obtain ⟨first, rest⟩ := List.pairwise_cons.mp ordered
    refine (always_cons step _ s x xs).mpr ⟨later x List.mem_cons_self, ih (step s x) rest ?_⟩
    rw [ticks s x]
    exact first

/-- Two step properties that agree under an invariant, which one of them keeps, hold along the
same runs; it is enough that they do where an assumption about the steps of the run holds. -/
theorem always_iff_along (I : σ → Prop) (A P Q : σ → ι → Prop)
    (agree : ∀ s x, I s → A s x → (P s x ↔ Q s x))
    (keeps : ∀ s x, I s → A s x → P s x → I (step s x)) (s : σ) (xs : List ι) (start : I s)
    (along : Always step A s xs) : Always step P s xs ↔ Always step Q s xs := by
  induction xs generalizing s with
  | nil => simp
  | cons x xs ih =>
    obtain ⟨first, rest⟩ := (always_cons step A s x xs).mp along
    rw [always_cons, always_cons, ← agree s x start first]
    exact and_congr_right fun holds => ih (step s x) (keeps s x start first holds) rest

theorem always_iff (I : σ → Prop) (P Q : σ → ι → Prop) (agree : ∀ s x, I s → (P s x ↔ Q s x))
    (keeps : ∀ s x, I s → P s x → I (step s x)) (s : σ) (xs : List ι) (start : I s) :
    Always step P s xs ↔ Always step Q s xs :=
  always_iff_along step I (fun _ _ => True) P Q (fun s x holds _ => agree s x holds)
    (fun s x holds _ => keeps s x holds) s xs start fun _ _ => trivial

/-- Two runs stay related when every step of the one is followed by what stands for it in the
other. -/
theorem related_run {τ κ : Type*} (other : τ → κ → τ) (image : ι → List κ) (R : σ → τ → Prop)
    (follows : ∀ s t x, R s t → R (step s x) (run other t (image x))) (s : σ) (t : τ)
    (xs : List ι) (start : R s t) : R (run step s xs) (run other t (xs.flatMap image)) := by
  induction xs generalizing s t with
  | nil => exact start
  | cons x xs ih =>
    rw [run_cons, List.flatMap_cons, run_append]
    exact ih (step s x) (run other t (image x)) (follows s t x start)

/-- A part of the state runs as a machine of its own, over what each step of the whole means for it. -/
theorem projected_run {τ κ : Type*} (other : τ → κ → τ) (project : σ → τ)
    (image : σ → ι → List κ)
    (follows : ∀ s x, project (step s x) = run other (project s) (image s x)) (s : σ)
    (xs : List ι) :
    project (run step s xs) =
      run other (project s) ((steps step s xs).flatMap fun v => image v.1 v.2) := by
  induction xs generalizing s with
  | nil => rfl
  | cons x xs ih =>
    rw [run_cons, ih (step s x), follows s x, ← run_append]
    rfl

theorem Always.and {P Q : σ → ι → Prop} {s : σ} {xs : List ι} (p : Always step P s xs)
    (q : Always step Q s xs) : Always step (fun s x => P s x ∧ Q s x) s xs :=
  fun v hv => ⟨p v hv, q v hv⟩

end Execution
