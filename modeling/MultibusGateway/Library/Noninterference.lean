import Mathlib.Data.List.Basic
import MultibusGateway.Library.Execution

/-! What an observer can learn of a machine. The label of an input is what the observer knows of
it, and an input without a label happens out of sight. Where unlabelled inputs change nothing that
the observer could notice, and inputs of one label have the same effects on that, the answers that
the observer sees depend on the labels alone. -/

namespace Noninterference
open Execution
variable {σ ε ο κ : Type*} (step : σ → ε → σ) (see : σ → ε → Option ο)

/-- The answers that are seen along a run, in their order. -/
def seen : σ → List ε → List ο
  | _, [] => []
  | s, x :: xs => (see s x).toList ++ seen (step s x) xs

@[simp] theorem seen_nil (s : σ) : seen step see s [] = [] := rfl

@[simp] theorem seen_cons (s : σ) (x : ε) (xs : List ε) :
    seen step see s (x :: xs) = (see s x).toList ++ seen step see (step s x) xs := rfl

theorem seen_append (s : σ) (xs ys : List ε) :
    seen step see s (xs ++ ys) = seen step see s xs ++ seen step see (run step s xs) ys := by
  induction xs generalizing s with
  | nil => rfl
  | cons x xs ih =>
    rw [List.cons_append, seen_cons, seen_cons, ih, run_cons, List.append_assoc]

/-- The conditions on one step. `may` says which inputs can happen in a state, and `alike` which
states the observer takes for one another. -/
structure Unwinding (label : ε → Option κ) (may : σ → ε → Prop) (alike : σ → σ → Prop) : Prop where
  symm : ∀ s t, alike s t → alike t s
  hidden : ∀ s t x, alike s t → label x = none → may t x → alike s (step t x) ∧ see t x = none
  shared : ∀ s t x y l, alike s t → label x = some l → label y = some l → may s x → may t y →
    alike (step s x) (step t y) ∧ see s x = see t y

namespace Unwinding
variable {step see} {label : ε → Option κ} {may : σ → ε → Prop} {alike : σ → σ → Prop}
variable (unwinding : Unwinding step see label may alike)
include unwinding

theorem unnoticed (s t : σ) (inputs : List ε) (same : alike s t)
    (unlabelled : ∀ x ∈ inputs, label x = none) (can : Always step may t inputs) :
    alike s (run step t inputs) ∧ seen step see t inputs = [] := by
  induction inputs generalizing t with
  | nil => exact ⟨same, rfl⟩
  | cons x xs ih =>
    obtain ⟨first, rest⟩ := (always_cons step may t x xs).mp can
    obtain ⟨here, later⟩ := List.forall_mem_cons.mp unlabelled
    obtain ⟨still, unseen⟩ := unwinding.hidden s t x same here first
    obtain ⟨after, silent⟩ := ih (step t x) still later rest
    exact ⟨after, by rw [seen_cons, unseen, silent]; rfl⟩

/-- Runs with the same labels, from states that look alike, show the same answers. -/
theorem indistinguishable (s t : σ) (inputs others : List ε) (same : alike s t)
    (labels : inputs.filterMap label = others.filterMap label) (can : Always step may s inputs)
    (could : Always step may t others) :
    seen step see s inputs = seen step see t others ∧
      alike (run step s inputs) (run step t others) := by
  induction inputs generalizing s t others with
  | nil =>
    have unlabelled := List.filterMap_eq_nil_iff.mp labels.symm
    obtain ⟨after, silent⟩ := unwinding.unnoticed s t others same unlabelled could
    exact ⟨silent.symm, after⟩
  | cons x xs ih =>
    obtain ⟨first, rest⟩ := (always_cons step may s x xs).mp can
    rw [seen_cons, run_cons]
    cases labelled : label x with
    | none =>
      rw [List.filterMap_cons_none labelled] at labels
      have swapped := unwinding.symm s t same
      obtain ⟨still, unseen⟩ := unwinding.hidden t s x swapped labelled first
      rw [unseen]
      exact ih (step s x) t others (unwinding.symm _ _ still) labels rest could
    | some l =>
      rw [List.filterMap_cons_some labelled] at labels
      obtain ⟨front, y, back, rfl, unlabelled, other, labels⟩ :=
        List.filterMap_eq_cons_iff.mp labels.symm
      obtain ⟨before, now⟩ := (always_append step may t front (y :: back)).mp could
      obtain ⟨second, left⟩ := (always_cons step may (run step t front) y back).mp now
      obtain ⟨still, silent⟩ := unwinding.unnoticed s t front same unlabelled before
      obtain ⟨after, answered⟩ :=
        unwinding.shared s (run step t front) x y l still labelled other first second
      rw [seen_append, silent, List.nil_append, seen_cons, ← answered, run_append, run_cons]
      obtain ⟨shown, ends⟩ :=
        ih (step s x) (step (run step t front) y) back after labels.symm rest left
      exact ⟨by rw [shown], ends⟩

end Unwinding
end Noninterference
