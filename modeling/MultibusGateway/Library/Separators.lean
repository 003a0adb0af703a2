import Mathlib.Data.List.TakeWhile

/-! Texts that a separator divides. Between parts that do not have it, the separator is found at one
place only. -/

namespace Separators
variable {α : Type*}

/-- The first separator splits a text in only one way. -/
theorem first_separator (sep : α) (a b x y : List α) (first : sep ∉ a)
    (second : sep ∉ b) (same : a ++ sep :: x = b ++ sep :: y) : a = b ∧ x = y := by
  induction a generalizing b with
  | nil =>
    cases b with
    | nil => exact ⟨rfl, (List.cons.inj same).2⟩
    | cons d b =>
      rw [(List.cons.inj same).1] at second
      exact absurd List.mem_cons_self second
  | cons c a ih =>
    cases b with
    | nil =>
      rw [← (List.cons.inj same).1] at first
      exact absurd List.mem_cons_self first
    | cons d b =>
      obtain ⟨rfl, rest⟩ := List.cons.inj same
      obtain ⟨rfl, tails⟩ := ih b (fun inside => first (List.mem_cons_of_mem _ inside))
        (fun inside => second (List.mem_cons_of_mem _ inside)) rest
      exact ⟨rfl, tails⟩

theorem last_separator (sep : α) (a b x y : List α) (first : sep ∉ x)
    (second : sep ∉ y) (same : a ++ sep :: x = b ++ sep :: y) : a = b ∧ x = y := by
  rcases List.append_eq_append_iff.mp same with ⟨c, front, back⟩ | ⟨c, front, back⟩
  · cases c with
    | nil => exact ⟨(front.trans (List.append_nil a)).symm, (List.cons.inj back).2⟩
    | cons d c =>
      rw [List.cons_append] at back
      have inside : sep ∈ x := by
        rw [(List.cons.inj back).2]
        exact List.mem_append_right _ List.mem_cons_self
      exact absurd inside first
  · cases c with
    | nil => exact ⟨front.trans (List.append_nil b), (List.cons.inj back).2.symm⟩
    | cons d c =>
      rw [List.cons_append] at back
      have inside : sep ∈ y := by
        rw [(List.cons.inj back).2]
        exact List.mem_append_right _ List.mem_cons_self
      exact absurd inside second

/-! What a scanner skips. -/

theorem dropWhile_takeWhile (front inner : α → Bool)
    (within : ∀ c, front c = true → inner c = true) (xs : List α) :
    (xs.takeWhile inner).dropWhile front = (xs.dropWhile front).takeWhile inner := by
  induction xs with
  | nil => rfl
  | cons c xs ih =>
    cases blank : front c with
    | true =>
      rw [List.takeWhile_cons_of_pos (within c blank), List.dropWhile_cons_of_pos blank,
        List.dropWhile_cons_of_pos blank, ih]
    | false =>
      have stays : ¬ front c = true := Bool.eq_false_iff.mp blank
      rw [List.dropWhile_cons_of_neg stays, List.takeWhile_cons]
      split
      · rw [List.dropWhile_cons_of_neg stays]
      · rfl

theorem dropWhile_dropWhile (front inner : α → Bool)
    (within : ∀ c, front c = true → inner c = true) (xs : List α) :
    (xs.dropWhile front).dropWhile inner = xs.dropWhile inner := by
  induction xs with
  | nil => rfl
  | cons c xs ih =>
    rw [List.dropWhile_cons]
    split
    · rename_i blank
      rw [ih, List.dropWhile_cons_of_pos (within c blank)]
    · rfl

end Separators
