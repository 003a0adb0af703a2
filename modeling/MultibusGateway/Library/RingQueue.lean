import Mathlib.Data.Nat.ModEq
import Mathlib.Tactic.TypeStar

/-! A queue in a circular buffer. An entry goes into the cell at the tail, and the cell of an
entry that is taken from the head is left blank. What the queue holds is the list of its entries
from the head on; on that list `push` appends and `pop` takes the first. -/

structure RingQueue (α : Type*) (capacity : Nat) where
  cells : Vector α capacity
  head : Nat
  tail : Nat
  count : Nat
  head_lt : head < capacity
  count_le : count ≤ capacity
  tail_eq : tail = (head + count) % capacity

namespace RingQueue
variable {α : Type*} {capacity : Nat}

theorem capacity_pos (q : RingQueue α capacity) : 0 < capacity := Nat.zero_lt_of_lt q.head_lt

theorem tail_lt (q : RingQueue α capacity) : q.tail < capacity := by
  rw [q.tail_eq]
  exact Nat.mod_lt _ q.capacity_pos

def empty (blank : α) (positive : 0 < capacity) : RingQueue α capacity where
  cells := Vector.replicate capacity blank
  head := 0
  tail := 0
  count := 0
  head_lt := positive
  count_le := Nat.zero_le capacity
  tail_eq := rfl

def push (x : α) (q : RingQueue α capacity) : Option (RingQueue α capacity) :=
  if room : q.count < capacity then
    some
      { q with
        cells := q.cells.set q.tail x q.tail_lt
        tail := (q.tail + 1) % capacity
        count := q.count + 1
        count_le := room
        tail_eq := by rw [q.tail_eq, Nat.mod_add_mod, Nat.add_assoc] }
  else none

def pop (blank : α) (q : RingQueue α capacity) : Option (α × RingQueue α capacity) :=
  if held : q.count = 0 then none
  else
    have inside := q.head_lt
    some (q.cells[q.head],
      { q with
        cells := q.cells.set q.head blank q.head_lt
        head := (q.head + 1) % capacity
        count := q.count - 1
        head_lt := Nat.mod_lt _ q.capacity_pos
        count_le := Nat.le_trans (Nat.sub_le _ _) q.count_le
        tail_eq := by
          have split : q.head + q.count = q.head + 1 + (q.count - 1) := by omega
          rw [q.tail_eq, Nat.mod_add_mod, split] })

def cell (q : RingQueue α capacity) (i : Nat) : α :=
  have inside : i % capacity < capacity := Nat.mod_lt _ q.capacity_pos
  q.cells[i % capacity]

/-- The entries, the next one to be taken first. -/
def contents (q : RingQueue α capacity) : List α :=
  (List.range q.count).map fun i => q.cell (q.head + i)

@[simp] theorem length_contents (q : RingQueue α capacity) : q.contents.length = q.count := by
  rw [contents, List.length_map, List.length_range]

@[simp] theorem contents_empty (blank : α) (positive : 0 < capacity) :
    (empty blank positive).contents = [] := rfl

theorem push_eq_none_iff (x : α) (q : RingQueue α capacity) :
    q.push x = none ↔ q.contents.length = capacity := by
  have bound := q.count_le
  rw [length_contents]
  unfold push
  split
  · rename_i room
    exact iff_of_false (fun none => by cases none) (by omega)
  · exact iff_of_true rfl (by omega)

theorem index_injective (h i j : Nat) (bi : i < capacity) (bj : j < capacity)
    (same : (h + i) % capacity = (h + j) % capacity) : i = j := by
  have congruent : i ≡ j [MOD capacity] := Nat.ModEq.add_left_cancel' h same
  rw [Nat.ModEq, Nat.mod_eq_of_lt bi, Nat.mod_eq_of_lt bj] at congruent
  exact congruent

theorem contents_push (x : α) (q pushed : RingQueue α capacity) (taken : q.push x = some pushed) :
    pushed.contents = q.contents ++ [x] := by
  unfold push at taken
  split at taken
  · rename_i room
    obtain rfl := Option.some.inj taken
    simp only [contents, List.range_succ, List.map_append, List.map_cons, List.map_nil]
    congr 1
    · refine List.map_congr_left fun i member => ?_
      have bound := List.mem_range.mp member
      have apart : q.tail ≠ (q.head + i) % capacity := by
        rw [q.tail_eq]
        intro same
        have equal := index_injective q.head q.count i room (by omega) same
        omega
      simp only [cell]
      exact Vector.getElem_set_ne _ _ apart
    · have place : (q.head + q.count) % capacity = q.tail := q.tail_eq.symm
      simp only [cell, place, Vector.getElem_set_self]
  · cases taken

theorem contents_pop (blank x : α) (q popped : RingQueue α capacity)
    (taken : q.pop blank = some (x, popped)) : q.contents = x :: popped.contents := by
  unfold pop at taken
  split at taken
  · cases taken
  · rename_i held
    obtain ⟨rfl, rfl⟩ := Prod.mk.inj (Option.some.inj taken)
    have bound := q.count_le
    obtain ⟨count, counted⟩ := Nat.exists_eq_succ_of_ne_zero held
    simp only [contents, counted, List.range_succ_eq_map, List.map_cons, List.map_map,
      Nat.succ_eq_add_one, Nat.add_sub_cancel]
    congr 1
    · simp only [cell, Nat.add_zero, Nat.mod_eq_of_lt q.head_lt]
    · refine List.map_congr_left fun i member => ?_
      have inside := List.mem_range.mp member
      have place : ((q.head + 1) % capacity + i) % capacity = (q.head + (i + 1)) % capacity := by
        rw [Nat.mod_add_mod, Nat.add_assoc, Nat.add_comm 1 i]
      have apart : q.head ≠ (q.head + (i + 1)) % capacity := by
        intro same
        rw [← Nat.mod_eq_of_lt q.head_lt] at same
        have equal := index_injective q.head 0 (i + 1) q.capacity_pos (by omega)
          (by rw [Nat.add_zero]; simpa only [Nat.mod_mod, Nat.mod_add_mod] using same)
        omega
      simp only [Function.comp_apply, cell, place]
      exact (Vector.getElem_set_ne _ _ apart).symm

theorem pop_eq_none_iff (blank : α) (q : RingQueue α capacity) :
    q.pop blank = none ↔ q.contents = [] := by
  rw [← List.length_eq_zero_iff, length_contents]
  unfold pop
  split
  · rename_i none
    exact iff_of_true rfl none
  · rename_i held
    exact iff_of_false (fun taken => by cases taken) held

end RingQueue
