import MultibusGateway.Library.Preferences

/-! Saves of several keys that are cut short. A put that is refused ends the save, and its caller
is told; a loss of power between two puts ends everything. Either way the first puts have been
made and the others have not. -/

namespace Preferences
variable {Key Value : Type} [DecidableEq Key]

/-- The outcomes of the puts of a save, or their number before the power is lost. -/
inductive Ending where
  | returns (outcomes : List Bool)
  | powerLoss (count : Nat)

namespace Ending

def outcomes : Ending → List Bool
  | .returns outcomes => outcomes
  | .powerLoss count => List.replicate count true ++ [false]

def told (saved : Bool) : Ending → Option Bool
  | .returns _ => some saved
  | .powerLoss _ => none

end Ending

def storedOf (outcomes : List Bool) : Nat → Nat
  | 0 => 0
  | puts + 1 =>
    match draw outcomes with
    | (true, outcomes) => storedOf outcomes puts + 1
    | (false, _) => 0

theorem storedOf_le (outcomes : List Bool) (puts : Nat) : storedOf outcomes puts ≤ puts := by
  induction puts generalizing outcomes with
  | zero => exact Nat.le_refl 0
  | succ puts ih =>
    rw [storedOf]
    obtain ⟨drawn, left⟩ := draw outcomes
    cases drawn with
    | true => exact Nat.succ_le_succ (ih left)
    | false => exact Nat.zero_le _

theorem putAll_stored (flash : Flash Key Value) (outcomes : List Bool)
    (puts : List (Key × Value)) :
    (putAll flash outcomes puts).1 =
      putEach (fun _ => true) flash (puts.take (storedOf outcomes puts.length)) ∧
    (putAll flash outcomes puts).2.2 = (storedOf outcomes puts.length == puts.length) := by
  induction puts generalizing flash outcomes with
  | nil => exact ⟨rfl, rfl⟩
  | cons first rest ih =>
    rw [putAll, List.length_cons, storedOf]
    obtain ⟨drawn, left⟩ := draw outcomes
    cases drawn with
    | true =>
      obtain ⟨flashes, results⟩ := ih (put flash first.1 first.2 .stored).1 left
      refine ⟨flashes, results.trans ?_⟩
      simp
    | false => exact ⟨rfl, rfl⟩

/-- Where each key is put once, it has its new value exactly if it is among the first ones. -/
theorem putAll_written (flash : Flash Key Value) (outcomes : List Bool)
    (puts : List (Key × Value)) (once : (puts.map Prod.fst).Nodup) (key : Key) (value : Value)
    (member : (key, value) ∈ puts) :
    (putAll flash outcomes puts).1 key =
      if key ∈ (puts.map Prod.fst).take (storedOf outcomes puts.length) then some value
      else flash key := by
  have reached := putEach_reached
    { powerLoss := some (storedOf outcomes puts.length) } flash puts once key value member
  rw [(putAll_stored flash outcomes puts).1]
  simpa [Faults.reached, Faults.written, List.contains_iff_mem] using reached

end Preferences
