import Mathlib.Data.List.MinMax

/-! Two loops over a list. One looks for the entry of the least measure within a bound, the other
collects what is wanted as long as there is room. -/

namespace Selection
variable {α : Type*}

/-- One turn of the search: an entry out of the bound is passed over, and one that is no better
than the best so far, too. -/
def consider (measure : α → ℕ) (bound : ℕ) (best : Option α) (x : α) : Option α :=
  if measure x > bound then best
  else match best with
    | none => some x
    | some b => if measure x < measure b then some x else best

def search (measure : α → ℕ) (bound : ℕ) (entries : List α) : Option α :=
  entries.foldl (consider measure bound) none

/-- The search finds the first entry of the least measure of all, if that is within the bound. -/
theorem search_eq (measure : α → ℕ) (bound : ℕ) (entries : List α) :
    search measure bound entries =
      (entries.argmin measure).filter fun x => measure x ≤ bound := by
  induction entries using List.reverseRecOn with
  | nil => rfl
  | append_singleton entries x ih =>
    unfold search at ih ⊢
    rw [List.foldl_append, ih, List.argmin_concat, List.foldl_cons, List.foldl_nil]
    cases entries.argmin measure with
    | none =>
      rw [Option.filter_some, Option.filter_none]
      by_cases inside : measure x ≤ bound
      · simp [consider, inside, Nat.not_lt.mpr inside]
      · simp [consider, inside, Nat.not_le.mp inside]
    | some best =>
      dsimp only
      by_cases better : measure x < measure best
      · rw [if_pos better, Option.filter_some, Option.filter_some]
        by_cases inside : measure x ≤ bound
        · by_cases held : measure best ≤ bound <;>
            simp [consider, inside, better, held, Nat.not_lt.mpr inside]
        · have beyond : ¬ measure best ≤ bound := by omega
          simp [consider, inside, beyond, Nat.not_le.mp inside]
      · rw [if_neg better, Option.filter_some]
        by_cases inside : measure x ≤ bound
        · have held : measure best ≤ bound := by omega
          simp [consider, better, held]
        · simp [consider, Nat.not_le.mp inside]

def collect (wanted : α → Bool) (room : ℕ) : List α → List α → List α
  | [], selected => selected
  | x :: rest, selected =>
    if selected.length < room then
      collect wanted room rest (if wanted x then selected ++ [x] else selected)
    else selected

theorem collect_eq (wanted : α → Bool) (room : ℕ) (entries selected : List α) :
    collect wanted room entries selected =
      selected ++ (entries.filter wanted).take (room - selected.length) := by
  induction entries generalizing selected with
  | nil => simp [collect]
  | cons x rest ih =>
    rw [collect]
    by_cases free : selected.length < room
    · rw [if_pos free, ih]
      cases hit : wanted x with
      | false => simp [hit]
      | true =>
        obtain ⟨left, more⟩ : ∃ left, room - selected.length = left + 1 :=
          ⟨room - selected.length - 1, by omega⟩
        have fewer : room - (selected.length + 1) = left := by omega
        simp [hit, more, fewer]
    · rw [if_neg free, Nat.sub_eq_zero_of_le (Nat.not_lt.mp free), List.take_zero, List.append_nil]

end Selection
