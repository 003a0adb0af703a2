import Mathlib.Data.List.Nodup
import Mathlib.Logic.Function.Basic

/-! A map of keys to the values retained under them, which its writer keeps in step with a list of
wanted ones: it clears keys and then writes the wanted values. -/

namespace RetainedMap
variable {Key Value : Type*} [DecidableEq Key]

def writeAll (retained : Key → Option Value) (writes : List (Key × Option Value)) :
    Key → Option Value :=
  writes.foldl (fun map write => Function.update map write.1 write.2) retained

@[simp] theorem writeAll_nil (retained : Key → Option Value) : writeAll retained [] = retained :=
  rfl

@[simp] theorem writeAll_cons (retained : Key → Option Value) (write : Key × Option Value)
    (writes : List (Key × Option Value)) :
    writeAll retained (write :: writes) =
      writeAll (Function.update retained write.1 write.2) writes := rfl

theorem writeAll_append (retained : Key → Option Value) (first second : List (Key × Option Value)) :
    writeAll retained (first ++ second) = writeAll (writeAll retained first) second :=
  List.foldl_append

theorem writeAll_other (retained : Key → Option Value) (writes : List (Key × Option Value))
    (key : Key) (other : key ∉ writes.map Prod.fst) : writeAll retained writes key = retained key := by
  induction writes generalizing retained with
  | nil => rfl
  | cons write rest ih =>
    rw [List.map_cons, List.mem_cons, not_or] at other
    rw [writeAll_cons, ih _ other.2, Function.update_of_ne other.1]

theorem writeAll_written (retained : Key → Option Value) (writes : List (Key × Option Value))
    (key : Key) (written : key ∈ writes.map Prod.fst) :
    (key, writeAll retained writes key) ∈ writes := by
  induction writes generalizing retained with
  | nil => cases written
  | cons write rest ih =>
    rw [writeAll_cons]
    by_cases again : key ∈ rest.map Prod.fst
    · exact List.mem_cons_of_mem _ (ih _ again)
    · have same : key = write.1 := (List.mem_cons.mp written).resolve_right again
      rw [writeAll_other _ rest key again, same, Function.update_self]
      exact List.mem_cons_self

theorem writeAll_once (retained : Key → Option Value) (writes : List (Key × Option Value))
    (once : (writes.map Prod.fst).Nodup) (key : Key) (value : Option Value)
    (written : (key, value) ∈ writes) : writeAll retained writes key = value := by
  have held := writeAll_written retained writes key (List.mem_map_of_mem written)
  exact congrArg Prod.snd (List.inj_on_of_nodup_map once held written rfl)

theorem writeAll_concat (retained : Key → Option Value) (writes : List (Key × Option Value))
    (last : Key × Option Value) (key : Key) :
    writeAll retained (writes ++ [last]) key =
      if key = last.1 then last.2 else writeAll retained writes key := by
  rw [writeAll_append, writeAll_cons, writeAll_nil, Function.update_apply]

def mirror (clears : List Key) (wanted : List (Key × Value)) : List (Key × Option Value) :=
  clears.map (fun key => (key, none)) ++ wanted.map fun entry => (entry.1, some entry.2)

/-- If every key that is held is cleared or wanted, then a key holds nothing after the writes, or
it is wanted with the value it holds. -/
theorem mirror_wanted (retained : Key → Option Value) (clears : List Key)
    (wanted : List (Key × Value)) (key : Key)
    (known : retained key ≠ none → key ∈ clears ∨ key ∈ wanted.map Prod.fst) :
    writeAll retained (mirror clears wanted) key = none ∨
      ∃ value, (key, value) ∈ wanted ∧
        writeAll retained (mirror clears wanted) key = some value := by
  have keys : (wanted.map fun entry => (entry.1, some entry.2)).map Prod.fst =
      wanted.map Prod.fst := by
    rw [List.map_map]
    rfl
  rw [mirror, writeAll_append]
  by_cases put : key ∈ wanted.map Prod.fst
  · have held := writeAll_written (writeAll retained (clears.map fun key => (key, none)))
      (wanted.map fun entry => (entry.1, some entry.2)) key (by rw [keys]; exact put)
    obtain ⟨⟨_, value⟩, isWanted, same⟩ := List.mem_map.mp held
    obtain ⟨rfl, there⟩ := Prod.mk.inj same
    exact Or.inr ⟨value, isWanted, there.symm⟩
  · rw [writeAll_other _ _ key (by rw [keys]; exact put)]
    refine Or.inl ?_
    by_cases cleared : key ∈ clears
    · have held := writeAll_written retained (clears.map fun key => (key, none)) key
        (by rw [List.map_map]; exact List.mem_map.mpr ⟨key, cleared, rfl⟩)
      obtain ⟨_, -, same⟩ := List.mem_map.mp held
      exact (Prod.mk.inj same).2.symm
    · have other : key ∉ (clears.map fun key => (key, (none : Option Value))).map Prod.fst := by
        intro found
        rw [List.map_map] at found
        obtain ⟨_, member, same⟩ := List.mem_map.mp found
        exact cleared (same ▸ member)
      rw [writeAll_other _ _ key other]
      by_contra held
      exact (known held).elim cleared put

theorem mirror_held (retained : Key → Option Value) (clears : List Key)
    (wanted : List (Key × Value)) (once : (wanted.map Prod.fst).Nodup) (key : Key) (value : Value)
    (isWanted : (key, value) ∈ wanted) :
    writeAll retained (mirror clears wanted) key = some value := by
  have keys : (wanted.map fun entry => (entry.1, some entry.2)).map Prod.fst =
      wanted.map Prod.fst := by
    rw [List.map_map]
    rfl
  rw [mirror, writeAll_append]
  exact writeAll_once _ _ (by rw [keys]; exact once) key (some value)
    (List.mem_map.mpr ⟨(key, value), isWanted, rfl⟩)

end RetainedMap
