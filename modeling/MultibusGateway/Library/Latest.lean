import Mathlib.Data.List.DropRight

/-! The latest entries of a log. A store with room for so many of them keeps the last ones, and
what it keeps after more entries depends on nothing but what it has kept. -/

namespace Latest
variable {α : Type*} (size : ℕ) (log more : List α)

theorem length_rtake : (log.rtake size).length = min log.length size := by
  rw [List.rtake, List.length_drop]
  omega

theorem mem_of_mem_rtake (x : α) (kept : x ∈ log.rtake size) : x ∈ log :=
  List.mem_of_mem_drop kept

theorem rtake_of_length_le (room : log.length ≤ size) : log.rtake size = log := by
  rw [List.rtake, Nat.sub_eq_zero_of_le room, List.drop_zero]

theorem rtake_append : (log.rtake size ++ more).rtake size = (log ++ more).rtake size := by
  have kept := length_rtake size log
  simp only [List.rtake, List.drop_append, List.length_append] at kept ⊢
  rw [kept]
  congr 1
  · rw [List.drop_drop]
    congr 1
    omega
  · congr 1
    omega

theorem rtake_concat_full (x : α) (full : log.length = size) (positive : 0 < size) :
    (log ++ [x]).rtake size = log.tail ++ [x] := by
  rw [List.rtake, List.length_append, full, List.length_singleton, Nat.add_sub_cancel_left,
    List.drop_append_of_le_length (by omega), List.drop_one]

/-! Entries that are numbered in the order in which they came. -/

theorem rtake_zipIdx (n : ℕ) :
    (log.zipIdx n).rtake size = (log.rtake size).zipIdx (n + (log.length - size)) := by
  apply List.ext_getElem?
  intro i
  simp only [List.rtake, List.length_zipIdx, List.getElem?_drop, List.getElem?_zipIdx]
  cases log[log.length - size + i]? with
  | none => rfl
  | some x =>
    simp only [Option.map_some, Nat.add_assoc]

theorem filter_zipIdx (n bound : ℕ) :
    (log.zipIdx n).filter (fun entry => bound < entry.2) =
      (log.drop (bound + 1 - n)).zipIdx (max n (bound + 1)) := by
  induction log generalizing n with
  | nil => simp
  | cons x log ih =>
    rw [List.zipIdx_cons, List.filter_cons]
    by_cases late : bound < n
    · have first : bound + 1 - n = 0 := by omega
      have start : max n (bound + 1) = n := by omega
      have next : bound + 1 - (n + 1) = 0 := by omega
      have start' : max (n + 1) (bound + 1) = n + 1 := by omega
      rw [if_pos (decide_eq_true late), ih, first, start, next, start', List.drop_zero,
        List.drop_zero, List.zipIdx_cons]
    · have first : bound + 1 - n = (bound + 1 - (n + 1)) + 1 := by omega
      have start : max n (bound + 1) = max (n + 1) (bound + 1) := by omega
      rw [if_neg (by simpa using late), ih, first, start, List.drop_succ_cons]

theorem pairwise_zipIdx (n : ℕ) : (log.zipIdx n).Pairwise fun a b => a.2 < b.2 := by
  induction log generalizing n with
  | nil => exact List.Pairwise.nil
  | cons x log ih =>
    rw [List.zipIdx_cons, List.pairwise_cons]
    refine ⟨fun entry later => ?_, ih (n + 1)⟩
    have number := List.le_snd_of_mem_zipIdx later
    exact number

end Latest
