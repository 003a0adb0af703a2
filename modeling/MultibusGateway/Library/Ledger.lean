import Mathlib.Tactic.TypeStar

/-! The book of a queue. Every entry that is accepted is written down and stays; at each time it
waits, was taken or was cleared away. The first entry that waits is the next to be taken, so those
that were taken stand in the order in which they were accepted. -/

namespace Ledger

inductive Fate where
  | waiting | taken | cleared
  deriving DecidableEq

structure Entry (α : Type*) where
  item : α
  fate : Fate := .waiting

variable {α : Type*}

def having (fate : Fate) (ledger : List (Entry α)) : List α :=
  (ledger.filter fun entry => entry.fate = fate).map Entry.item

def accept (x : α) (ledger : List (Entry α)) : List (Entry α) := ledger ++ [{ item := x }]

def take : List (Entry α) → List (Entry α)
  | [] => []
  | entry :: rest =>
    if entry.fate = .waiting then { entry with fate := .taken } :: rest else entry :: take rest

def clear (ledger : List (Entry α)) : List (Entry α) :=
  ledger.map fun entry => if entry.fate = .waiting then { entry with fate := .cleared } else entry

/-- Behind an entry that waits all others wait. -/
def InOrder (ledger : List (Entry α)) : Prop :=
  ledger.Pairwise fun first later => first.fate = .waiting → later.fate = .waiting

@[simp] theorem having_nil (fate : Fate) : having fate ([] : List (Entry α)) = [] := rfl

@[simp] theorem having_cons (fate : Fate) (entry : Entry α) (rest : List (Entry α)) :
    having fate (entry :: rest) =
      if entry.fate = fate then entry.item :: having fate rest else having fate rest := by
  rw [having, List.filter_cons]
  by_cases same : entry.fate = fate <;> simp [same, having]

theorem having_accept (fate : Fate) (x : α) (ledger : List (Entry α)) :
    having fate (accept x ledger) =
      having fate ledger ++ if fate = .waiting then [x] else [] := by
  induction ledger with
  | nil => cases fate <;> rfl
  | cons entry rest ih =>
    have behind : accept x (entry :: rest) = entry :: accept x rest := rfl
    rw [behind, having_cons, having_cons, ih]
    split <;> rfl

theorem InOrder.accept {ledger : List (Entry α)} (ordered : InOrder ledger) (x : α) :
    InOrder (accept x ledger) := by
  rw [InOrder, Ledger.accept, List.pairwise_append]
  refine ⟨ordered, List.pairwise_singleton _ _, ?_⟩
  intro first _ later last _
  rw [List.mem_singleton.mp last]

theorem having_waiting_take (ledger : List (Entry α)) :
    having .waiting (take ledger) = (having .waiting ledger).tail := by
  induction ledger with
  | nil => rfl
  | cons entry rest ih =>
    rw [take, having_cons]
    by_cases waits : entry.fate = .waiting
    · simp [waits]
    · simp [waits, ih]

theorem having_taken_take (ledger : List (Entry α)) (ordered : InOrder ledger) :
    having .taken (take ledger) = having .taken ledger ++ (having .waiting ledger).head?.toList := by
  induction ledger with
  | nil => rfl
  | cons entry rest ih =>
    rw [InOrder, List.pairwise_cons] at ordered
    rw [take]
    by_cases waits : entry.fate = .waiting
    · have none : having .taken rest = [] := by
        rw [having, List.map_eq_nil_iff, List.filter_eq_nil_iff]
        intro later member
        simp [ordered.1 later member waits]
      simp [waits, none]
    · rw [if_neg waits, having_cons, having_cons, having_cons, if_neg waits, ih ordered.2]
      split <;> rfl

theorem InOrder.take {ledger : List (Entry α)} (ordered : InOrder ledger) :
    InOrder (take ledger) := by
  induction ledger with
  | nil => exact ordered
  | cons entry rest ih =>
    rw [InOrder, List.pairwise_cons] at ordered
    rw [Ledger.take]
    split
    · rw [InOrder, List.pairwise_cons]
      refine ⟨?_, ordered.2⟩
      intro later _ waits
      cases waits
    · rename_i settled
      rw [InOrder, List.pairwise_cons]
      refine ⟨?_, ih ordered.2⟩
      intro later _ waits
      exact absurd waits settled

theorem having_clear (fate : Fate) (settled : fate ≠ .cleared) (ledger : List (Entry α)) :
    having fate (clear ledger) = if fate = .waiting then [] else having fate ledger := by
  induction ledger with
  | nil => cases fate <;> rfl
  | cons entry rest ih =>
    have behind : clear (entry :: rest) =
        (if entry.fate = .waiting then { entry with fate := .cleared } else entry) ::
          clear rest := rfl
    rw [behind, having_cons, having_cons, ih]
    cases waits : entry.fate <;> cases fate <;> simp_all

theorem inOrder_clear (ledger : List (Entry α)) : InOrder (clear ledger) := by
  rw [InOrder, clear, List.pairwise_map]
  apply List.pairwise_of_forall
  intro first later waits
  split at waits
  · cases waits
  · rename_i settled
    exact absurd waits settled

theorem map_item_accept (x : α) (ledger : List (Entry α)) :
    (accept x ledger).map Entry.item = ledger.map Entry.item ++ [x] := by
  rw [accept, List.map_append, List.map_singleton]

theorem map_item_take (ledger : List (Entry α)) :
    (take ledger).map Entry.item = ledger.map Entry.item := by
  induction ledger with
  | nil => rfl
  | cons entry rest ih =>
    rw [take]
    split
    · rfl
    · rw [List.map_cons, List.map_cons, ih]

theorem map_item_clear (ledger : List (Entry α)) :
    (clear ledger).map Entry.item = ledger.map Entry.item := by
  rw [clear, List.map_map]
  apply List.map_congr_left
  intro entry _
  rw [Function.comp_apply]
  split <;> rfl

end Ledger
