import Mathlib.Data.List.Chain
import Mathlib.Data.List.Nodup
import Mathlib.Order.Defs.PartialOrder

/-! A filter that lets an item pass unless its key is that of the last item that has passed.
Over items that come in order, and whose keys tell each from the next, each item passes once. -/

namespace LastSeen
variable {α κ : Type*}

def passed [DecidableEq κ] (key : α → κ) (last : κ) : List α → List α
  | [] => []
  | x :: xs => if key x = last then passed key last xs else x :: passed key (key x) xs

section
variable {β : Type*} [PartialOrder β] (key : α → κ) (rank : α → β)

/-- Items in the order of their ranks, which tell them apart. Their keys tell an item from the one
that follows it. -/
structure Ordered (xs : List α) : Prop where
  sorted : xs.Pairwise fun a b => rank a ≤ rank b
  ranks : ∀ a ∈ xs, ∀ b ∈ xs, rank a = rank b → a = b
  keys : xs.IsChain fun a b => key a = key b → a = b

variable {key rank}

theorem Ordered.tail {x : α} {xs : List α} (ordered : Ordered key rank (x :: xs)) :
    Ordered key rank xs where
  sorted := (List.pairwise_cons.mp ordered.sorted).2
  ranks a inA b inB :=
    ordered.ranks a (List.mem_cons_of_mem x inA) b (List.mem_cons_of_mem x inB)
  keys := ordered.keys.tail

variable [DecidableEq κ]

theorem passed_after (x : α) (xs : List α) (ordered : Ordered key rank (x :: xs)) :
    (passed key (key x) xs).Nodup ∧ ∀ y, y ∈ passed key (key x) xs ↔ y ∈ xs ∧ y ≠ x := by
  induction xs generalizing x with
  | nil => simp [passed]
  | cons next rest ih =>
    have adjacent : key x = key next → x = next := (List.isChain_cons_cons.mp ordered.keys).1
    rw [passed]
    split
    · rename_i same
      have again : x = next := adjacent same.symm
      subst again
      obtain ⟨once, members⟩ := ih x ordered.tail
      refine ⟨once, fun y => ?_⟩
      rw [members, List.mem_cons, or_and_right]
      simp
    · rename_i other
      have differ : next ≠ x := fun same => other (congrArg key same)
      obtain ⟨once, members⟩ := ih next ordered.tail
      have gone : x ∉ rest := by
        intro later
        obtain ⟨first, second⟩ := List.pairwise_cons.mp ordered.sorted
        have back := (List.pairwise_cons.mp second).1 x later
        have equal := le_antisymm (first next (by simp)) back
        exact differ (ordered.ranks next (by simp) x (by simp) equal.symm)
      refine ⟨List.nodup_cons.mpr ⟨fun member => ((members next).mp member).2 rfl, once⟩,
        fun y => ?_⟩
      rw [List.mem_cons, members, List.mem_cons]
      constructor
      · rintro (rfl | ⟨inRest, -⟩)
        · exact ⟨Or.inl rfl, differ⟩
        · exact ⟨Or.inr inRest, fun same => gone (same ▸ inRest)⟩
      · rintro ⟨rfl | inRest, -⟩
        · exact Or.inl rfl
        · by_cases same : y = next
          · exact Or.inl same
          · exact Or.inr ⟨inRest, same⟩

/-- From a key that is none of theirs on, every item passes once. -/
theorem passed_once (last : κ) (xs : List α) (ordered : Ordered key rank xs)
    (fresh : ∀ x ∈ xs, key x ≠ last) :
    (passed key last xs).Nodup ∧ ∀ y, y ∈ passed key last xs ↔ y ∈ xs := by
  cases xs with
  | nil => simp [passed]
  | cons x rest =>
    obtain ⟨once, members⟩ := passed_after x rest ordered
    rw [passed, if_neg (fresh x (by simp))]
    refine ⟨List.nodup_cons.mpr ⟨fun member => ((members x).mp member).2 rfl, once⟩, fun y => ?_⟩
    rw [List.mem_cons, members, List.mem_cons]
    constructor
    · rintro (rfl | ⟨inRest, -⟩)
      · exact Or.inl rfl
      · exact Or.inr inRest
    · rintro (rfl | inRest)
      · exact Or.inl rfl
      · by_cases same : y = x
        · exact Or.inl same
        · exact Or.inr ⟨inRest, same⟩

end

end LastSeen
