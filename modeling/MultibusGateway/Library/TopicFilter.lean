import Mathlib.Tactic.TypeStar

/-! Filters over topics of levels: a level of a filter is one of the topic, any one, or, at the end
of the filter, any number of them. Texts are split into their levels at the slashes. -/

namespace TopicFilter

inductive Level (α : Type*) where
  | exact (x : α)
  | single
  | multi
  deriving DecidableEq

section
variable {α : Type*} [DecidableEq α]

def covers : List (Level α) → List α → Bool
  | [], [] => true
  | [.multi], _ => true
  | .exact x :: filter, y :: topic => x == y && covers filter topic
  | .single :: filter, _ :: topic => covers filter topic
  | _, _ => false

theorem covers_exact_cons (x : α) (filter : List (Level α)) (topic : List α) :
    covers (.exact x :: filter) topic = true ↔
      ∃ rest, topic = x :: rest ∧ covers filter rest = true := by
  cases topic with
  | nil => simp [covers]
  | cons y topic =>
    simp only [covers, Bool.and_eq_true, beq_iff_eq, List.cons.injEq]
    constructor
    · rintro ⟨rfl, covered⟩
      exact ⟨topic, ⟨rfl, rfl⟩, covered⟩
    · rintro ⟨rest, ⟨rfl, rfl⟩, covered⟩
      exact ⟨rfl, covered⟩

theorem covers_single_cons (filter : List (Level α)) (topic : List α) :
    covers (.single :: filter) topic = true ↔
      ∃ level rest, topic = level :: rest ∧ covers filter rest = true := by
  cases topic with
  | nil => simp [covers]
  | cons level topic =>
    simp only [covers, List.cons.injEq]
    constructor
    · intro covered
      exact ⟨level, topic, ⟨rfl, rfl⟩, covered⟩
    · rintro ⟨-, rest, ⟨-, rfl⟩, covered⟩
      exact covered

theorem covers_nil (topic : List α) : covers [] topic = true ↔ topic = [] := by
  cases topic <;> simp [covers]

/-- A filter that begins with exact levels covers the topics that begin so. -/
theorem covers_exact_append (front : List α) (filter : List (Level α)) (topic : List α) :
    covers (front.map .exact ++ filter) topic = true ↔
      ∃ rest, topic = front ++ rest ∧ covers filter rest = true := by
  induction front generalizing topic with
  | nil => simp
  | cons x front ih =>
    rw [List.map_cons, List.cons_append, covers_exact_cons]
    constructor
    · rintro ⟨rest, rfl, covered⟩
      obtain ⟨more, rfl, behind⟩ := (ih rest).mp covered
      exact ⟨more, rfl, behind⟩
    · rintro ⟨more, rfl, covered⟩
      exact ⟨front ++ more, rfl, (ih _).mpr ⟨more, rfl, covered⟩⟩

end

def slash : UInt8 := 0x2f

def levels (text : List UInt8) : List (List UInt8) := text.splitOn slash

def levelOf (text : List UInt8) : Level (List UInt8) :=
  if text = [0x2b] then .single else if text = [0x23] then .multi else .exact text

/-- A topic reaches a subscription; no wildcard stands for a first level with a dollar sign. -/
def delivers (filter topic : List UInt8) : Bool :=
  let filter := (levels filter).map levelOf
  covers filter (levels topic) &&
    (match filter.head? with
      | some (.exact _) => true
      | _ => topic.head? != some 0x24)

theorem levels_append (front rest : List UInt8) :
    levels (front ++ slash :: rest) = levels front ++ levels rest :=
  List.splitOn_append_cons_self front rest

theorem levels_singleton (text : List UInt8) (unsplit : slash ∉ text) : levels text = [text] :=
  List.splitOn_eq_singleton unsplit

theorem text_of_levels (text : List UInt8) : [slash].intercalate (levels text) = text :=
  List.intercalate_splitOn slash

theorem levels_injective : Function.Injective levels := by
  intro text text' same
  rw [← text_of_levels text, ← text_of_levels text']
  exact congrArg _ same

theorem levels_ne_nil (text : List UInt8) : levels text ≠ [] := List.splitOn_ne_nil slash text

theorem slash_not_mem (text level : List UInt8) (member : level ∈ levels text) :
    slash ∉ level := by
  induction text generalizing level with
  | nil =>
    rw [levels, List.splitOn_nil, List.mem_singleton] at member
    rw [member]
    exact List.not_mem_nil
  | cons c text ih =>
    rw [levels, List.splitOn_cons_eq_if_modifyHead, ← levels] at member
    cases split : levels text with
    | nil => exact absurd split (levels_ne_nil text)
    | cons first rest =>
      rw [split] at member ih
      split at member
      · rcases List.mem_cons.mp member with rfl | later
        · exact List.not_mem_nil
        · exact ih level later
      · rename_i other
        rw [List.modifyHead_cons] at member
        rcases List.mem_cons.mp member with rfl | later
        · rw [List.mem_cons, not_or]
          exact ⟨fun same => other (beq_iff_eq.mpr same.symm), ih first List.mem_cons_self⟩
        · exact ih level (List.mem_cons_of_mem _ later)

theorem mem_of_mem_levels (text level : List UInt8) (member : level ∈ levels text) (c : UInt8)
    (inside : c ∈ level) : c ∈ text := by
  rw [← text_of_levels text]
  generalize levels text = split at member
  induction split with
  | nil => cases member
  | cons first rest ih =>
    cases rest with
    | nil =>
      rw [List.mem_singleton] at member
      rwa [List.intercalate_singleton, ← member]
    | cons second rest =>
      rw [List.intercalate_cons_cons, List.mem_append, List.mem_append]
      rcases List.mem_cons.mp member with rfl | later
      · exact Or.inl (Or.inl inside)
      · exact Or.inr (ih later)

theorem map_levelOf (text : List UInt8) (single : (0x2b : UInt8) ∉ text)
    (multi : (0x23 : UInt8) ∉ text) : (levels text).map levelOf = (levels text).map .exact := by
  apply List.map_congr_left
  intro level member
  have inside := mem_of_mem_levels text level member
  rw [levelOf, if_neg, if_neg]
  · rintro rfl
    exact multi (inside _ List.mem_cons_self)
  · rintro rfl
    exact single (inside _ List.mem_cons_self)

end TopicFilter
