import Mathlib.Order.ConditionallyCompleteLattice.Basic
import Mathlib.Data.Int.ConditionallyCompleteOrder

/-! A switch that is turned on and off once in every period. Whether it is on follows from the
latest instant at which it was turned. Who looks at the instants of one period only has to guess
the state with which the period began. -/

namespace Switching
variable (starts ends : ℤ → ℤ)

/-- The latest instant not after `s` is one at which the switch was turned on. -/
def On (s : ℤ) : Prop :=
  ∃ n, starts n ≤ s ∧ (∀ m, starts m ≤ s → starts m ≤ starts n) ∧
    ∀ m, ends m ≤ s → ends m ≤ starts n

theorem on_iff (increasing : StrictMono starts) (rising : StrictMono ends) {s n m : ℤ}
    (started : starts n ≤ s) (next : s < starts (n + 1)) (ended : ends m ≤ s)
    (later : s < ends (m + 1)) : On starts ends s ↔ ends m ≤ starts n := by
  constructor
  · rintro ⟨k, begun, -, all⟩
    have upTo : k < n + 1 := increasing.lt_iff_lt.mp (begun.trans_lt next)
    have before : starts k ≤ starts n := increasing.monotone (by omega)
    exact (all m ended).trans before
  · intro less
    refine ⟨n, started, fun k begun => ?_, fun k stopped => ?_⟩
    · have upTo : k < n + 1 := increasing.lt_iff_lt.mp (begun.trans_lt next)
      exact increasing.monotone (by omega)
    · have upTo : k < m + 1 := rising.lt_iff_lt.mp (stopped.trans_lt later)
      exact (rising.monotone (by omega)).trans less

def within (start finish s : ℤ) : Bool :=
  if start < finish then decide (s ≥ start) && decide (s < finish)
  else decide (s ≥ start) || decide (s < finish)

/-- The periods, with one start in each, and with one end in each when it is moved by the
shift. -/
structure Periodic (period : ℤ → ℤ) (shift : ℤ) : Prop where
  start : ∀ n, period n ≤ starts n ∧ starts n < period (n + 1)
  finish : ∀ n, period n ≤ ends n + shift ∧ ends n + shift < period (n + 1)
  natural : 0 ≤ shift
  long : ∀ n, period n + shift ≤ period (n + 1)

/-- The neighbouring periods do not change what this one says: it begins in the state in which it
turns round, the next end does not come in it after a start that is the later instant, and its
own end is not before the start of the last period. -/
def Settled (n s : ℤ) : Prop :=
  (s < starts n → s < ends n → (ends (n - 1) ≤ starts (n - 1) ↔ ends n ≤ starts n)) ∧
    (starts n ≤ s → ends (n + 1) ≤ s → ends n ≤ starts n → ends (n + 1) ≤ starts n) ∧
    (ends n ≤ s → s < starts n → s < ends (n + 1) → starts (n - 1) < ends n)

variable {starts ends} {period : ℤ → ℤ} {shift : ℤ}

theorem within_iff {start finish s : ℤ} : within start finish s = true ↔
    start < finish ∧ start ≤ s ∧ s < finish ∨ finish ≤ start ∧ (start ≤ s ∨ s < finish) := by
  unfold within
  split
  · rename_i less
    simp [less, Int.not_le.mpr less]
  · rename_i more
    simp [more, Int.not_lt.mp more]

theorem Periodic.increasing (periodic : Periodic starts ends period shift) : StrictMono starts :=
  strictMono_int_of_lt_succ fun n =>
    (periodic.start n).2.trans_le (periodic.start (n + 1)).1

theorem Periodic.rising (periodic : Periodic starts ends period shift) : StrictMono ends := by
  refine strictMono_int_of_lt_succ fun n => ?_
  have here := (periodic.finish n).2
  have next := (periodic.finish (n + 1)).1
  omega

/-- Looking at one period tells the state exactly where its neighbours do not change it. -/
theorem within_iff_on (periodic : Periodic starts ends period shift) {n s : ℤ}
    (begun : period n ≤ s) (unended : s < period (n + 1)) :
    (within (starts n) (ends n) s = true ↔ On starts ends s) ↔ Settled starts ends n s := by
  have increasing := periodic.increasing
  have rising := periodic.rising
  have natural := periodic.natural
  have start := periodic.start n
  have startBefore := periodic.start (n - 1)
  have startNext := periodic.start (n + 1)
  have finish := periodic.finish n
  have finishBefore := periodic.finish (n - 1)
  have finishNext := periodic.finish (n + 1)
  have finishLater := periodic.finish (n + 1 + 1)
  have long := periodic.long n
  have longNext := periodic.long (n + 1)
  have order := rising (show n < n + 1 by omega)
  rw [Int.sub_add_cancel] at startBefore finishBefore
  rw [within_iff, Settled]
  by_cases started : starts n ≤ s
  · have next : s < starts (n + 1) := by omega
    by_cases ended : ends n ≤ s
    · by_cases again : ends (n + 1) ≤ s
      · rw [on_iff starts ends increasing rising started next again (by omega)]
        omega
      · rw [on_iff starts ends increasing rising started next ended (by omega)]
        omega
    · rw [on_iff starts ends increasing rising (m := n - 1) started next (by omega)
        (by rw [Int.sub_add_cancel]; omega)]
      omega
  · have next : s < starts (n - 1 + 1) := by
      rw [Int.sub_add_cancel]
      omega
    have before : starts (n - 1) ≤ s := by omega
    by_cases ended : ends n ≤ s
    · by_cases again : ends (n + 1) ≤ s
      · rw [on_iff starts ends increasing rising before next again (by omega)]
        omega
      · rw [on_iff starts ends increasing rising before next ended (by omega)]
        omega
    · rw [on_iff starts ends increasing rising (m := n - 1) before next (by omega)
        (by rw [Int.sub_add_cancel]; omega)]
      omega

end Switching
