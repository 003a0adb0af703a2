import Mathlib.Data.List.GetD
import Mathlib.Logic.Function.Iterate
import Mathlib.Tactic.Common

/-! A shift register with feedback, as the bitwise loops of cyclic redundancy checks run it: the
low bit goes first, and the polynomial is added when the bit that leaves is set. The register is
linear, and where the polynomial has its top bit no content but zero leads to zero. So a word
that is fed to the register and is zero but for a window of its width always leaves a trace. -/

namespace ShiftRegister
variable {w : Nat} (poly : BitVec w)

def shift (c : BitVec w) : BitVec w := if c.getLsbD 0 then (c >>> 1) ^^^ poly else c >>> 1

def bit (b : Bool) : BitVec w := if b then 1#w else 0#w

def feed (c : BitVec w) (b : Bool) : BitVec w := shift poly (c ^^^ bit b)

def feedAll (c : BitVec w) (bits : List Bool) : BitVec w := bits.foldl (feed poly) c

theorem xor_swap (a b c d : BitVec w) : (a ^^^ b) ^^^ (c ^^^ d) = (a ^^^ c) ^^^ (b ^^^ d) := by
  ac_rfl

/-! Linearity. -/

theorem shift_xor (c d : BitVec w) : shift poly (c ^^^ d) = shift poly c ^^^ shift poly d := by
  unfold shift
  rw [BitVec.getLsbD_xor, BitVec.ushiftRight_xor_distrib]
  cases c.getLsbD 0 <;> cases d.getLsbD 0
  · rfl
  · exact BitVec.xor_assoc _ _ _
  · simp only [Bool.true_bne, Bool.not_false, if_true, Bool.false_eq_true, if_false]
    ac_rfl
  · have cancels := xor_swap (c >>> 1) poly (d >>> 1) poly
    rw [BitVec.xor_self, BitVec.xor_zero] at cancels
    simpa using cancels.symm

theorem bit_xor (a b : Bool) : (bit (a ^^ b) : BitVec w) = bit a ^^^ bit b := by
  cases a <;> cases b <;> simp [bit]

theorem feed_xor (c d : BitVec w) (a b : Bool) :
    feed poly (c ^^^ d) (a ^^ b) = feed poly c a ^^^ feed poly d b := by
  rw [feed, bit_xor, xor_swap, shift_xor]
  rfl

theorem feedAll_xor (c d : BitVec w) (xs ys : List Bool) (same : xs.length = ys.length) :
    feedAll poly (c ^^^ d) (List.zipWith xor xs ys) = feedAll poly c xs ^^^ feedAll poly d ys := by
  induction xs generalizing c d ys with
  | nil =>
    rw [List.eq_nil_of_length_eq_zero same.symm]
    rfl
  | cons x xs ih =>
    cases ys with
    | nil => cases same
    | cons y ys =>
      rw [List.zipWith_cons_cons, feedAll, List.foldl_cons, feed_xor]
      exact ih (feed poly c x) (feed poly d y) ys (Nat.succ.inj same)

@[simp] theorem shift_zero : shift poly 0#w = 0#w := by
  simp [shift]

theorem feedAll_append (c : BitVec w) (xs ys : List Bool) :
    feedAll poly c (xs ++ ys) = feedAll poly (feedAll poly c xs) ys := List.foldl_append

theorem feedAll_zeros (c : BitVec w) (n : Nat) :
    feedAll poly c (List.replicate n false) = (shift poly)^[n] c := by
  induction n generalizing c with
  | zero => rfl
  | succ n ih =>
    have first : feed poly c false = shift poly c := by
      rw [feed, bit, if_neg Bool.false_ne_true, BitVec.xor_zero]
    rw [List.replicate_succ, feedAll, List.foldl_cons, first, Function.iterate_succ_apply]
    exact ih (shift poly c)

theorem iterate_shift_xor (n : Nat) (c d : BitVec w) :
    (shift poly)^[n] (c ^^^ d) = (shift poly)^[n] c ^^^ (shift poly)^[n] d := by
  induction n generalizing c d with
  | zero => rfl
  | succ n ih => rw [Function.iterate_succ_apply, shift_xor, ih]; rfl

theorem iterate_shift_zero (n : Nat) : (shift poly)^[n] 0#w = 0#w :=
  Function.iterate_fixed (shift_zero poly) n

/-! Nothing but zero leads to zero. -/

section
variable (top : poly.getLsbD (w - 1) = true)

include top

theorem shift_eq_zero (c : BitVec w) (zero : shift poly c = 0#w) : c = 0#w := by
  have width : 0 < w := by
    by_contra none
    rw [BitVec.getLsbD_of_ge poly _ (by omega)] at top
    cases top
  unfold shift at zero
  cases low : c.getLsbD 0 with
  | true =>
    -- the polynomial's top bit would have to come from above the register
    rw [low, if_pos rfl, BitVec.xor_eq_zero_iff] at zero
    have above := congrArg (fun v : BitVec w => v.getLsbD (w - 1)) zero
    rw [top, BitVec.getLsbD_ushiftRight, BitVec.getLsbD_of_ge c _ (by omega)] at above
    cases above
  | false =>
    rw [low, if_neg Bool.false_ne_true] at zero
    apply BitVec.eq_of_getLsbD_eq
    intro i _
    cases i with
    | zero => rw [low, BitVec.getLsbD_zero]
    | succ i =>
      have next := congrArg (fun v : BitVec w => v.getLsbD i) zero
      rw [BitVec.getLsbD_ushiftRight, Nat.add_comm] at next
      exact next.trans (by rw [BitVec.getLsbD_zero, BitVec.getLsbD_zero])

theorem iterate_shift_eq_zero (n : Nat) (c : BitVec w) (zero : (shift poly)^[n] c = 0#w) :
    c = 0#w := by
  induction n with
  | zero => exact zero
  | succ n ih =>
    rw [Function.iterate_succ_apply'] at zero
    exact ih (shift_eq_zero poly top _ zero)

theorem iterate_shift_injective (n : Nat) : Function.Injective (shift poly)^[n] := by
  intro c d same
  apply BitVec.xor_eq_zero_iff.mp
  apply iterate_shift_eq_zero poly top n
  rw [iterate_shift_xor, same, BitVec.xor_self]

end

/-! Bits as a number. -/

/-- The number that bits make, from the lowest one on. -/
def value : List Bool → BitVec w
  | [] => 0#w
  | b :: bits => (value bits <<< 1) ^^^ bit b

theorem getLsbD_bit (b : Bool) (i : Nat) (width : 0 < w) :
    (bit b : BitVec w).getLsbD i = (b && decide (i = 0)) := by
  cases b with
  | false => exact BitVec.getLsbD_zero
  | true => simp [bit, BitVec.getLsbD_one, width]

theorem getLsbD_value (bits : List Bool) (fits : bits.length ≤ w) (i : Nat) :
    (value bits : BitVec w).getLsbD i = bits.getD i false := by
  induction bits generalizing i with
  | nil => exact BitVec.getLsbD_zero
  | cons b bits ih =>
    rw [List.length_cons] at fits
    rw [value, BitVec.getLsbD_xor, BitVec.getLsbD_shiftLeft, getLsbD_bit b i (by omega)]
    cases i with
    | zero => simp
    | succ i =>
      rw [Nat.add_sub_cancel, ih (by omega) i, List.getD_cons_succ]
      by_cases inside : i + 1 < w
      · simp [inside]
      · have beyond : bits.getD i false = false := List.getD_eq_default _ _ (by omega)
        rw [beyond]
        simp

theorem value_ne_zero (bits : List Bool) (fits : bits.length ≤ w) (set : true ∈ bits) :
    (value bits : BitVec w) ≠ 0#w := by
  intro zero
  obtain ⟨i, inside, here⟩ := List.getElem_of_mem set
  have read := getLsbD_value bits fits i
  rw [zero, BitVec.getLsbD_zero, List.getD_eq_getElem _ _ inside, here] at read
  cases read

theorem feedAll_eq_iterate (c : BitVec w) (bits : List Bool) (fits : bits.length ≤ w) :
    feedAll poly c bits = (shift poly)^[bits.length] (c ^^^ value bits) := by
  induction bits generalizing c with
  | nil => rw [value, BitVec.xor_zero]; rfl
  | cons b bits ih =>
    rw [List.length_cons] at fits
    have room : (value bits : BitVec w).getLsbD (w - 1) = false := by
      rw [getLsbD_value bits (by omega)]
      exact List.getD_eq_default _ _ (by omega)
    have back : shift poly (value bits <<< 1) = value bits := by
      unfold shift
      have low : (value bits <<< 1 : BitVec w).getLsbD 0 = false := by
        simp
      rw [low, if_neg Bool.false_ne_true]
      apply BitVec.eq_of_getLsbD_eq
      intro i inside
      rw [BitVec.getLsbD_ushiftRight, BitVec.getLsbD_shiftLeft]
      by_cases last : i = w - 1
      · rw [last, room]
        simp
        omega
      · simp
        omega
    have together : c ^^^ value (b :: bits) = (c ^^^ bit b) ^^^ value bits <<< 1 := by
      rw [value, BitVec.xor_comm (value bits <<< 1), BitVec.xor_assoc]
    rw [feedAll, List.foldl_cons, List.length_cons, Function.iterate_succ_apply, together,
      shift_xor, back]
    exact ih (feed poly c b) (by omega)

/-- A word that is zero but for a window of the register's width, which is not, leaves a trace in
a register that was zero. -/
theorem feedAll_burst (top : poly.getLsbD (w - 1) = true) (before after : Nat)
    (burst : List Bool) (fits : burst.length ≤ w) (set : true ∈ burst) :
    feedAll poly 0#w (List.replicate before false ++ burst ++ List.replicate after false) ≠
      0#w := by
  intro zero
  rw [feedAll_append, feedAll_append, feedAll_zeros, feedAll_zeros, iterate_shift_zero,
    feedAll_eq_iterate poly _ burst fits, BitVec.zero_xor] at zero
  exact value_ne_zero burst fits set
    (iterate_shift_eq_zero poly top _ _ (iterate_shift_eq_zero poly top _ _ zero))

theorem feedAll_eq_residue_iff (top : poly.getLsbD (w - 1) = true) (c left : BitVec w)
    (bits : List Bool) (fits : bits.length = w) :
    feedAll poly c bits = (shift poly)^[w] left ↔ c ^^^ value bits = left := by
  rw [feedAll_eq_iterate poly c bits (Nat.le_of_eq fits), fits]
  exact (iterate_shift_injective poly top w).eq_iff

theorem feedAll_eq_zero_iff (top : poly.getLsbD (w - 1) = true) (c : BitVec w)
    (bits : List Bool) (fits : bits.length = w) :
    feedAll poly c bits = 0#w ↔ c = value bits := by
  rw [← iterate_shift_zero poly w, feedAll_eq_residue_iff poly top c _ bits fits,
    BitVec.xor_eq_zero_iff]

/-- A burst takes a register away from where the word without it leaves it. -/
theorem feedAll_ne_of_burst (top : poly.getLsbD (w - 1) = true) (c : BitVec w)
    (word : List Bool) (before after : Nat) (burst : List Bool) (fits : burst.length ≤ w)
    (set : true ∈ burst) (same : word.length = before + burst.length + after) :
    feedAll poly c (List.zipWith xor word
      (List.replicate before false ++ burst ++ List.replicate after false)) ≠
        feedAll poly c word := by
  intro unseen
  have sum := feedAll_xor poly c 0#w word
    (List.replicate before false ++ burst ++ List.replicate after false) (by simp [same, Nat.add_assoc])
  rw [BitVec.xor_zero, unseen] at sum
  apply feedAll_burst poly top before after burst fits set
  rw [← BitVec.xor_right_inj (feedAll poly c word), ← sum, BitVec.xor_zero]

end ShiftRegister
