import Mathlib.Data.List.Nodup
import Mathlib.Tactic.TypeStar

/-! Lists whose entries are found by a key. An entry that is put in takes the place of the first
one with its key, or goes last. -/

namespace KeyedList
variable {α β κ : Type*} [DecidableEq κ] (key : α → κ)

def lookup (k : κ) (entries : List α) : Option α := entries.find? fun x => decide (key x = k)

def upsert (x : α) : List α → List α
  | [] => [x]
  | y :: ys => if key y = key x then x :: ys else y :: upsert x ys

def remove (k : κ) (entries : List α) : List α := entries.eraseP fun x => decide (key x = k)

def Distinct (entries : List α) : Prop := (entries.map key).Nodup

@[simp] theorem lookup_nil (k : κ) : lookup key k [] = none := rfl

theorem lookup_cons (k : κ) (x : α) (xs : List α) :
    lookup key k (x :: xs) = if key x = k then some x else lookup key k xs := by
  rw [lookup, List.find?_cons]
  by_cases same : key x = k
  · rw [if_pos same, decide_eq_true same]
  · rw [if_neg same, decide_eq_false same]
    rfl

theorem key_of_lookup (k : κ) (x : α) (entries : List α) (found : lookup key k entries = some x) :
    key x = k := by
  have fits := List.find?_some found
  exact of_decide_eq_true fits

theorem lookup_eq_none_iff (k : κ) (entries : List α) :
    lookup key k entries = none ↔ k ∉ entries.map key := by
  simp only [lookup, List.find?_eq_none, decide_eq_true_eq, List.mem_map, not_exists, not_and]

theorem lookup_upsert (k : κ) (x : α) (entries : List α) :
    lookup key k (upsert key x entries) = if key x = k then some x else lookup key k entries := by
  induction entries with
  | nil => rw [upsert, lookup_cons]
  | cons y ys ih =>
    rw [upsert]
    by_cases same : key y = key x
    · rw [if_pos same, lookup_cons, lookup_cons, same]
      by_cases asked : key x = k
      · rw [if_pos asked, if_pos asked]
      · rw [if_neg asked, if_neg asked, if_neg asked]
    · rw [if_neg same, lookup_cons, lookup_cons, ih]
      by_cases asked : key y = k
      · rw [if_pos asked, if_pos asked, if_neg fun other => same (asked.trans other.symm)]
      · rw [if_neg asked, if_neg asked]

theorem keys_upsert (x : α) (entries : List α) :
    (upsert key x entries).map key =
      if key x ∈ entries.map key then entries.map key else entries.map key ++ [key x] := by
  induction entries with
  | nil => rfl
  | cons y ys ih =>
    rw [upsert]
    by_cases same : key y = key x
    · rw [if_pos same, List.map_cons, List.map_cons, same, if_pos List.mem_cons_self]
    · rw [if_neg same, List.map_cons, List.map_cons, ih]
      by_cases among : key x ∈ ys.map key
      · rw [if_pos among, if_pos (List.mem_cons_of_mem _ among)]
      · have absent : key x ∉ key y :: ys.map key := by
          rw [List.mem_cons, not_or]
          exact ⟨fun equal => same equal.symm, among⟩
        rw [if_neg among, if_neg absent, List.cons_append]

theorem distinct_upsert (x : α) (entries : List α) (distinct : Distinct key entries) :
    Distinct key (upsert key x entries) := by
  unfold Distinct at distinct ⊢
  rw [keys_upsert]
  split
  · exact distinct
  · rename_i absent
    rw [List.nodup_append]
    refine ⟨distinct, List.nodup_singleton _, ?_⟩
    rintro k among _ last rfl
    rw [List.mem_singleton.mp last] at among
    exact absent among

theorem upsert_new (x : α) (entries : List α) (absent : key x ∉ entries.map key) :
    upsert key x entries = entries ++ [x] := by
  induction entries with
  | nil => rfl
  | cons y ys ih =>
    rw [List.map_cons, List.mem_cons, not_or] at absent
    rw [upsert, if_neg fun same => absent.1 same.symm, ih absent.2, List.cons_append]

theorem lookup_remove (k asked : κ) (entries : List α) (distinct : Distinct key entries) :
    lookup key asked (remove key k entries) =
      if asked = k then none else lookup key asked entries := by
  unfold Distinct at distinct
  induction entries with
  | nil => split <;> rfl
  | cons y ys ih =>
    rw [List.map_cons, List.nodup_cons] at distinct
    unfold remove at ih ⊢
    rw [List.eraseP_cons]
    by_cases same : key y = k
    · rw [decide_eq_true same, cond_true]
      by_cases equal : asked = k
      · rw [if_pos equal, lookup_eq_none_iff, equal, ← same]
        exact distinct.1
      · rw [if_neg equal, lookup_cons, if_neg fun other => equal (other.symm.trans same)]
    · rw [decide_eq_false same, cond_false, lookup_cons, ih distinct.2, lookup_cons]
      by_cases equal : key y = asked
      · rw [if_pos equal, if_pos equal, if_neg fun other => same (equal.trans other)]
      · rw [if_neg equal, if_neg equal]

theorem distinct_remove (k : κ) (entries : List α) (distinct : Distinct key entries) :
    Distinct key (remove key k entries) :=
  List.Nodup.sublist (List.Sublist.map key List.eraseP_sublist) distinct

/-! The image of a list under a function that keeps the keys apart. -/

/-- Entries are put into an image of the list as into the list. -/
theorem map_upsert {ι : Type*} [DecidableEq ι] (other : β → ι) (f : α → β)
    (matching : ∀ x y, other (f x) = other (f y) ↔ key x = key y) (x : α) (entries : List α) :
    (upsert key x entries).map f = upsert other (f x) (entries.map f) := by
  induction entries with
  | nil => rfl
  | cons y ys ih =>
    rw [upsert, List.map_cons, upsert, ← ih]
    by_cases same : key y = key x
    · rw [if_pos same, if_pos ((matching y x).mpr same), List.map_cons]
    · rw [if_neg same, if_neg fun equal => same ((matching y x).mp equal), List.map_cons]

theorem map_upsert_same (f : α → β) (x y : α) (same : f x = f y) (entries : List α)
    (found : lookup key (key x) entries = some y) :
    (upsert key x entries).map f = entries.map f := by
  induction entries with
  | nil => cases found
  | cons z zs ih =>
    rw [lookup_cons] at found
    rw [upsert]
    by_cases own : key z = key x
    · rw [if_pos own] at found
      rw [if_pos own, List.map_cons, List.map_cons, same, Option.some.inj found]
    · rw [if_neg own] at found
      rw [if_neg own, List.map_cons, List.map_cons, ih found]

theorem lookup_map (other : β → κ) (f : α → β) (matching : ∀ x, other (f x) = key x) (k : κ)
    (entries : List α) :
    lookup other k (entries.map f) = (lookup key k entries).map f := by
  induction entries with
  | nil => rfl
  | cons y ys ih =>
    rw [List.map_cons, lookup_cons, lookup_cons, matching, ih]
    split <;> rfl

omit [DecidableEq κ] in
theorem distinct_map (other : β → κ) (f : α → β) (matching : ∀ x, other (f x) = key x)
    (entries : List α) (distinct : Distinct key entries) : Distinct other (entries.map f) := by
  have keys : (entries.map f).map other = entries.map key := by
    rw [List.map_map]
    exact List.map_congr_left fun x _ => matching x
  unfold Distinct at distinct ⊢
  rw [keys]
  exact distinct

/-! The entries of a list without two of one key. -/

theorem mem_iff_lookup (entries : List α) (distinct : Distinct key entries) (x : α) :
    x ∈ entries ↔ lookup key (key x) entries = some x := by
  refine ⟨?_, List.mem_of_find?_eq_some⟩
  unfold Distinct at distinct
  intro among
  induction entries with
  | nil => cases among
  | cons y ys ih =>
    rw [List.map_cons, List.nodup_cons] at distinct
    rw [lookup_cons]
    rcases List.mem_cons.mp among with rfl | later
    · exact if_pos rfl
    · have apart : key y ≠ key x := by
        intro equal
        rw [equal] at distinct
        exact distinct.1 (List.mem_map_of_mem later)
      rw [if_neg apart]
      exact ih distinct.2 later

theorem eq_of_key (entries : List α) (distinct : Distinct key entries) (x y : α)
    (first : x ∈ entries) (second : y ∈ entries) (same : key x = key y) : x = y := by
  rw [mem_iff_lookup key entries distinct] at first second
  rw [same, second] at first
  exact (Option.some.inj first).symm

theorem mem_upsert (x : α) (entries : List α) (distinct : Distinct key entries) (y : α) :
    y ∈ upsert key x entries ↔ y = x ∨ y ∈ entries ∧ key y ≠ key x := by
  rw [mem_iff_lookup key _ (distinct_upsert key x entries distinct), lookup_upsert,
    mem_iff_lookup key entries distinct]
  by_cases same : key x = key y
  · rw [if_pos same]
    simp [same, eq_comm]
  · rw [if_neg same]
    have apart : key y ≠ key x := fun equal => same equal.symm
    have other : y ≠ x := fun equal => apart (congrArg key equal)
    simp [other, apart]

theorem mem_remove (k : κ) (entries : List α) (distinct : Distinct key entries) (y : α) :
    y ∈ remove key k entries ↔ y ∈ entries ∧ key y ≠ k := by
  rw [mem_iff_lookup key _ (distinct_remove key k entries distinct),
    lookup_remove key k _ entries distinct, mem_iff_lookup key entries distinct]
  by_cases same : key y = k <;> simp [same]

theorem perm_of_lookup (a b : List α) (distinctA : Distinct key a) (distinctB : Distinct key b)
    (same : ∀ k, lookup key k a = lookup key k b) : a.Perm b := by
  rw [List.perm_ext_iff_of_nodup (List.Nodup.of_map key distinctA)
    (List.Nodup.of_map key distinctB)]
  intro x
  rw [mem_iff_lookup key a distinctA, mem_iff_lookup key b distinctB, same]

end KeyedList
