import Mathlib.Tactic.TypeStar

/-! Handlers that are called again while they run. A handler takes one message over a
state; each message it causes in turn goes to the handler of the next depth, and at depth
zero nothing is taken any more. A relation between the states before and after, kept by one
level over any handler that keeps it, is kept at every depth. -/

namespace Reentrancy
variable {σ μ : Type*}

abbrev Handler (σ μ : Type*) := σ → μ → σ × Bool

def nested (handle : Handler σ μ → Handler σ μ) : Nat → Handler σ μ
  | 0 => fun s _ => (s, false)
  | depth + 1 => handle (nested handle depth)

def Respects (R : σ → σ → Prop) (handler : Handler σ μ) : Prop := ∀ s m, R s (handler s m).1

variable (R : σ → σ → Prop)

theorem nested_respects (refl : ∀ s, R s s) (handle : Handler σ μ → Handler σ μ)
    (level : ∀ handler, Respects R handler → Respects R (handle handler)) (depth : Nat) :
    Respects R (nested handle depth) := by
  induction depth with
  | zero =>
    intro s m
    exact refl s
  | succ depth ih => exact level _ ih

/-- A fold whose steps are related is related as a whole. -/
theorem foldl_respects {α : Type*} (refl : ∀ s, R s s)
    (trans : ∀ a b c, R a b → R b c → R a c) (step : σ → α → σ)
    (single : ∀ s x, R s (step s x)) (s : σ) (xs : List α) : R s (xs.foldl step s) := by
  induction xs generalizing s with
  | nil => exact refl s
  | cons x xs ih => exact trans _ _ _ (single s x) (ih (step s x))

end Reentrancy
