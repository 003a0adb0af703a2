import Mathlib.Tactic.TypeStar

/-! Items sent in packets. A packet carries some items that are next, each of them whole, and
at least one; what has not been sent stays behind in its order. -/

namespace Packing
variable {α : Type*}

inductive Packed (items : List (List α)) : List (List α) → List (List α) → Prop where
  | none : Packed items [] items
  | packet (packets group rest : List (List α)) (before : Packed items packets (group ++ rest))
      (carries : group ≠ []) : Packed items (packets ++ [group.flatten]) rest

variable {items packets rest : List (List α)}

/-- What is sent and what is left is everything, in its order. -/
theorem Packed.flatten (packed : Packed items packets rest) :
    packets.flatten ++ rest.flatten = items.flatten := by
  induction packed with
  | none => simp
  | packet packets group rest _ _ ih => simpa using ih

theorem Packed.length (packed : Packed items packets rest) :
    packets.length + rest.length ≤ items.length := by
  induction packed with
  | none => simp
  | packet packets group rest _ carries ih =>
    have some := List.length_pos_iff.mpr carries
    simp only [List.length_append, List.length_singleton] at ih ⊢
    omega

end Packing
