import Mathlib.Order.Interval.Finset.Nat

/-! A numbered stream of which only the latest entries are kept, and a reader that follows it
with a cursor. Entries up to the floor are gone. A reader that has fallen behind goes on with
the oldest entry that is kept, and counts what it has missed: the entries that were given up
before it came to them. -/

structure LossyReader where
  latest : Nat := 0
  floor : Nat := 0
  cursor : Nat := 0
  /-- The entries read, the oldest first. -/
  read : List Nat := []
  missed : Nat := 0
  /-- The entries that were given up before they were read. -/
  lost : Finset Nat := ∅

namespace LossyReader

def append (floor : Nat) (r : LossyReader) : LossyReader :=
  { r with
    latest := r.latest + 1
    floor := floor
    lost := r.lost ∪ Finset.Ioc (max r.floor r.cursor) floor }

def wanted (r : LossyReader) : Nat := max r.floor r.cursor + 1

def take (r : LossyReader) : LossyReader :=
  { r with
    cursor := r.wanted
    read := r.read ++ [r.wanted]
    missed := r.missed + (r.floor - r.cursor) }

/-- Every entry up to the cursor was read or is counted as missed, and those missed are the lost
ones. -/
structure Exact (r : LossyReader) : Prop where
  floor_le : r.floor ≤ r.latest
  cursor_le : r.cursor ≤ r.latest
  increasing : r.read.Pairwise (· < ·)
  read_le : ∀ q ∈ r.read, q ≤ r.cursor
  counted : r.read.length + r.missed = r.cursor
  lost_le : ∀ q ∈ r.lost, q ≤ r.floor
  settled : ∀ q, 1 ≤ q → q ≤ r.cursor → (q ∈ r.read ↔ q ∉ r.lost)
  behind : ∀ q, r.cursor < q → q ≤ r.floor → q ∈ r.lost
  missed_lost : r.missed = (r.lost.filter (· ≤ r.cursor)).card

theorem exact_start : Exact {} := by
  refine ⟨le_rfl, le_rfl, .nil, by simp, rfl, by simp, ?_, ?_, rfl⟩
  · intro q first last
    dsimp only at last
    omega
  · intro q first last
    dsimp only at first last
    omega

theorem exact_append (r : LossyReader) (exact : Exact r) (floor : Nat) (low : r.floor ≤ floor)
    (high : floor ≤ r.latest + 1) : Exact (r.append floor) := by
  have ahead (q : Nat) (reached : q ≤ r.cursor) :
      q ∉ Finset.Ioc (max r.floor r.cursor) floor := by
    rw [Finset.mem_Ioc]
    omega
  refine ⟨high, Nat.le_succ_of_le exact.cursor_le, exact.increasing, exact.read_le,
    exact.counted, ?_, ?_, ?_, ?_⟩
  · intro q member
    rcases Finset.mem_union.mp member with old | new
    · exact Nat.le_trans (exact.lost_le q old) low
    · exact (Finset.mem_Ioc.mp new).2
  · intro q first reached
    simp only [append, Finset.mem_union, ahead q reached, or_false]
    exact exact.settled q first reached
  · intro q beyond given
    simp only [append, Finset.mem_union, Finset.mem_Ioc]
    by_cases old : q ≤ r.floor
    · exact Or.inl (exact.behind q beyond old)
    · right
      dsimp only [append] at beyond given
      omega
  · have same : (r.append floor).lost.filter (· ≤ r.cursor) = r.lost.filter (· ≤ r.cursor) := by
      ext q
      simp only [append, Finset.mem_filter, Finset.mem_union]
      refine and_congr_left fun reached => ?_
      simp only [ahead q reached, or_false]
    exact exact.missed_lost.trans (congrArg Finset.card same).symm

theorem exact_take (r : LossyReader) (exact : Exact r) (kept : r.wanted ≤ r.latest) :
    Exact r.take := by
  have later : r.cursor < r.wanted := by
    unfold wanted
    omega
  have free : r.wanted ∉ r.lost := fun member => by
    have := exact.lost_le _ member
    unfold wanted at this
    omega
  refine ⟨exact.floor_le, kept, ?_, ?_, ?_, exact.lost_le, ?_, ?_, ?_⟩
  · refine List.pairwise_append.mpr ⟨exact.increasing, List.pairwise_singleton _ _, ?_⟩
    intro q member next last
    rw [List.mem_singleton.mp last]
    exact Nat.lt_of_le_of_lt (exact.read_le q member) later
  · intro q member
    rcases List.mem_append.mp member with old | new
    · exact Nat.le_trans (exact.read_le q old) later.le
    · exact (List.mem_singleton.mp new).le
  · have counted := exact.counted
    simp only [take, List.length_append, List.length_singleton, wanted]
    omega
  · intro q first reached
    simp only [take, List.mem_append, List.mem_singleton]
    by_cases old : q ≤ r.cursor
    · have apart : q ≠ r.wanted := by omega
      simp only [apart, or_false]
      exact exact.settled q first old
    · have unread : q ∉ r.read := fun member => old (exact.read_le q member)
      by_cases here : q = r.wanted
      · subst here
        simp [free]
      · have passed : q ∈ r.lost := by
          refine exact.behind q (by omega) ?_
          dsimp only [take] at reached
          unfold wanted at reached here
          omega
        simp [here, unread, passed]
  · intro q beyond given
    dsimp only [take, wanted] at beyond given
    omega
  · -- the entries that are skipped are the lost ones beyond the cursor
    have parts : r.lost.filter (· ≤ r.wanted) =
        r.lost.filter (· ≤ r.cursor) ∪ Finset.Ioc r.cursor r.floor := by
      ext q
      simp only [Finset.mem_filter, Finset.mem_union, Finset.mem_Ioc]
      constructor
      · rintro ⟨member, reached⟩
        have given := exact.lost_le q member
        by_cases old : q ≤ r.cursor
        · exact Or.inl ⟨member, old⟩
        · exact Or.inr ⟨by omega, given⟩
      · rintro (⟨member, old⟩ | ⟨beyond, given⟩)
        · exact ⟨member, by omega⟩
        · refine ⟨exact.behind q beyond given, ?_⟩
          unfold wanted
          omega
    have apart : Disjoint (r.lost.filter (· ≤ r.cursor)) (Finset.Ioc r.cursor r.floor) := by
      rw [Finset.disjoint_left]
      intro q member skipped
      have old := (Finset.mem_filter.mp member).2
      have beyond := (Finset.mem_Ioc.mp skipped).1
      omega
    change r.missed + (r.floor - r.cursor) = (r.lost.filter (· ≤ r.wanted)).card
    rw [parts, Finset.card_union_of_disjoint apart, Nat.card_Ioc, exact.missed_lost]

end LossyReader
