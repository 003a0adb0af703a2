import Mathlib.Tactic.NormNum
import Mathlib.Tactic.Positivity
import Mathlib.Tactic.Ring

/-! IEEE 754 binary interchange formats on their bit patterns. A finite magnitude
pattern denotes a natural number of units, the unit being the least subnormal of
the format, so order and rounding are natural-number arithmetic. Conversions and
arithmetic round to nearest, ties to even. -/

namespace BinaryFloat

/-- `fracBits` trailing fraction bits and the all-ones biased exponent `expMax`. -/
structure Format where
  fracBits : Nat
  expMax : Nat

def binary32 : Format := ⟨23, 255⟩

def binary64 : Format := ⟨52, 2047⟩

def infinity (f : Format) : Nat := f.expMax * 2 ^ f.fracBits

def units (f : Format) (mag : Nat) : Nat :=
  let exponent := mag / 2 ^ f.fracBits
  let fraction := mag % 2 ^ f.fracBits
  if exponent = 0 then fraction else (2 ^ f.fracBits + fraction) * 2 ^ (exponent - 1)

/-- `n / 2^shift` to the nearest integer, ties to even. -/
def roundShift (n shift : Nat) : Nat :=
  let q := n / 2 ^ shift
  let r := n % 2 ^ shift
  if 2 ^ shift < 2 * r ∨ (2 * r = 2 ^ shift ∧ q % 2 = 1) then q + 1 else q

/-- Trailing bits of `n / 2^down` that do not fit a significand. -/
def excess (f : Format) (n down : Nat) : Nat := Nat.log2 n - down - f.fracBits

/-- Magnitude pattern nearest to `n / 2^down` units; overflow gives infinity. -/
def roundMagnitude (f : Format) (n down : Nat) : Nat :=
  let k := excess f n down
  min (infinity f) (k * 2 ^ f.fracBits + roundShift n (down + k))

theorem roundShift_exact (q shift : Nat) : roundShift (q * 2 ^ shift) shift = q := by
  have hp : 0 < 2 ^ shift := by positivity
  have hz : 0 ≠ 2 ^ shift := by omega
  simp [roundShift, Nat.mul_div_cancel _ hp, hz]

theorem units_normal (f : Format) (k m : Nat) (lower : 2 ^ f.fracBits ≤ m)
    (upper : m < 2 ^ (f.fracBits + 1)) : units f (k * 2 ^ f.fracBits + m) = m * 2 ^ k := by
  have hp : 0 < 2 ^ f.fracBits := by positivity
  have hs : k * 2 ^ f.fracBits + m = (m - 2 ^ f.fracBits) + 2 ^ f.fracBits * (k + 1) := by
    rw [Nat.mul_add, Nat.mul_comm k]
    omega
  have small : m - 2 ^ f.fracBits < 2 ^ f.fracBits := by
    rw [pow_succ] at upper
    omega
  have exponent : (k * 2 ^ f.fracBits + m) / 2 ^ f.fracBits = k + 1 := by
    rw [hs, Nat.add_mul_div_left _ _ hp, Nat.div_eq_of_lt small, Nat.zero_add]
  have fraction : (k * 2 ^ f.fracBits + m) % 2 ^ f.fracBits = m - 2 ^ f.fracBits := by
    rw [hs, Nat.add_mul_mod_self_left, Nat.mod_eq_of_lt small]
  have join : 2 ^ f.fracBits + (m - 2 ^ f.fracBits) = m := by omega
  simp only [units, exponent, fraction, join, Nat.add_sub_cancel]
  simp

theorem units_subnormal (f : Format) (m : Nat) (small : m < 2 ^ f.fracBits) :
    units f m = m := by
  simp [units, Nat.div_eq_of_lt small, Nat.mod_eq_of_lt small]

theorem units_split (f : Format) (mag : Nat) :
    (mag < 2 ^ f.fracBits ∧ units f mag = mag) ∨
    ∃ k m, mag = k * 2 ^ f.fracBits + m ∧ 2 ^ f.fracBits ≤ m ∧ m < 2 ^ (f.fracBits + 1) ∧
      units f mag = m * 2 ^ k := by
  have hp : 0 < 2 ^ f.fracBits := by positivity
  by_cases small : mag < 2 ^ f.fracBits
  · exact Or.inl ⟨small, units_subnormal f mag small⟩
  · right
    have whole := Nat.div_add_mod mag (2 ^ f.fracBits)
    have rem := Nat.mod_lt mag hp
    have quot : 1 ≤ mag / 2 ^ f.fracBits := (Nat.one_le_div_iff hp).mpr (by omega)
    obtain ⟨k, hk⟩ := Nat.exists_eq_add_of_le' quot
    have shape : mag = k * 2 ^ f.fracBits + (2 ^ f.fracBits + mag % 2 ^ f.fracBits) := by
      rw [hk, Nat.mul_add, Nat.mul_comm _ k] at whole
      omega
    refine ⟨k, 2 ^ f.fracBits + mag % 2 ^ f.fracBits, shape, by omega, ?_, ?_⟩
    · rw [pow_succ]
      omega
    · conv_lhs => rw [shape]
      apply units_normal f k _ (by omega)
      rw [pow_succ]
      omega

theorem excess_normal (f : Format) (m k down : Nat) (lower : 2 ^ f.fracBits ≤ m)
    (upper : m < 2 ^ (f.fracBits + 1)) : excess f (m * 2 ^ k * 2 ^ down) down = k := by
  have hd : 0 < 2 ^ (k + down) := by positivity
  have hp : 0 < 2 ^ f.fracBits := by positivity
  have nonzero : m * 2 ^ (k + down) ≠ 0 := Nat.mul_ne_zero (by omega) (by omega)
  have size : Nat.log2 (m * 2 ^ (k + down)) = f.fracBits + (k + down) := by
    rw [Nat.log2_eq_iff nonzero, Nat.add_right_comm, pow_add _ _ (k + down),
      pow_add _ _ (k + down)]
    exact ⟨Nat.mul_le_mul_right _ lower, Nat.mul_lt_mul_of_pos_right upper hd⟩
  rw [Nat.mul_assoc, ← pow_add, excess, size]
  omega

theorem excess_subnormal (f : Format) (m down : Nat) (small : m < 2 ^ (f.fracBits + 1)) :
    excess f (m * 2 ^ down) down = 0 := by
  by_cases zero : m = 0
  · subst zero
    simp [excess]
  · have hd : 0 < 2 ^ down := by positivity
    have size : Nat.log2 (m * 2 ^ down) < f.fracBits + 1 + down := by
      rw [Nat.log2_lt (Nat.mul_ne_zero zero (by omega)), pow_add]
      exact Nat.mul_lt_mul_of_pos_right small hd
    rw [excess]
    omega

/-- Rounding the value of a finite pattern gives the pattern back. -/
theorem roundMagnitude_units (f : Format) (mag down : Nat) (finite : mag < infinity f) :
    roundMagnitude f (units f mag * 2 ^ down) down = mag := by
  rcases units_split f mag with ⟨small, value⟩ | ⟨k, m, shape, lower, upper, value⟩
  · have none := excess_subnormal f mag down (by rw [pow_succ]; omega)
    rw [value, roundMagnitude, none, Nat.add_zero, roundShift_exact]
    simp only [Nat.zero_mul, Nat.zero_add]
    omega
  · have scale := excess_normal f m k down lower upper
    rw [value, roundMagnitude, scale, Nat.mul_assoc, ← pow_add, Nat.add_comm k down,
      roundShift_exact]
    omega

theorem excess_split (f : Format) (m s : Nat) (nonzero : m ≠ 0)
    (short : m < 2 ^ (f.fracBits + 1)) :
    ∃ rest, s = rest + excess f (m * 2 ^ s) 0 ∧ m * 2 ^ rest < 2 ^ (f.fracBits + 1) ∧
      (excess f (m * 2 ^ s) 0 = 0 ∨ 2 ^ f.fracBits ≤ m * 2 ^ rest) := by
  have hs : 0 < 2 ^ s := by positivity
  have product : m * 2 ^ s ≠ 0 := Nat.mul_ne_zero nonzero (by omega)
  have size : Nat.log2 (m * 2 ^ s) < f.fracBits + 1 + s := by
    rw [Nat.log2_lt product, pow_add]
    exact Nat.mul_lt_mul_of_pos_right short hs
  obtain ⟨rest, hrest⟩ : ∃ rest, s = rest + excess f (m * 2 ^ s) 0 :=
    ⟨s - excess f (m * 2 ^ s) 0, by rw [excess]; omega⟩
  generalize hk : excess f (m * 2 ^ s) 0 = k at hrest ⊢
  rw [excess] at hk
  have hk2 : 0 < 2 ^ k := by positivity
  have quotient : m * 2 ^ s = m * 2 ^ rest * 2 ^ k := by
    rw [hrest, pow_add, Nat.mul_assoc]
  refine ⟨rest, hrest, ?_, ?_⟩
  · have upper : Nat.log2 (m * 2 ^ s) < f.fracBits + 1 + k := by omega
    rw [Nat.log2_lt product, quotient, pow_add] at upper
    exact Nat.lt_of_mul_lt_mul_right upper
  · by_cases hz : k = 0
    · exact Or.inl hz
    · right
      have lower : f.fracBits + k ≤ Nat.log2 (m * 2 ^ s) := by omega
      rw [Nat.le_log2 product, quotient, pow_add] at lower
      exact Nat.le_of_mul_le_mul_right lower hk2

/-- A value with a short significand below infinity is represented exactly. -/
theorem units_roundMagnitude (f : Format) (m s : Nat) (short : m < 2 ^ (f.fracBits + 1))
    (range : s + 1 < f.expMax) :
    roundMagnitude f (m * 2 ^ s) 0 < infinity f ∧
      units f (roundMagnitude f (m * 2 ^ s) 0) = m * 2 ^ s := by
  have hp : 0 < 2 ^ f.fracBits := by positivity
  by_cases zero : m = 0
  · subst zero
    have pos : 0 < infinity f := Nat.mul_pos (by omega) hp
    simp [roundMagnitude, excess, roundShift, units, pos]
  obtain ⟨rest, hrest, upper, lower⟩ := excess_split f m s zero short
  generalize hk : excess f (m * 2 ^ s) 0 = k at hrest lower
  have quotient : m * 2 ^ s = m * 2 ^ rest * 2 ^ k := by
    rw [hrest, pow_add, Nat.mul_assoc]
  have below : k * 2 ^ f.fracBits + m * 2 ^ rest < infinity f := by
    calc
      _ < k * 2 ^ f.fracBits + 2 * 2 ^ f.fracBits := by
        rw [pow_succ] at upper
        omega
      _ = (k + 2) * 2 ^ f.fracBits := by ring
      _ ≤ infinity f := Nat.mul_le_mul_right _ (by omega)
  have rounded : roundMagnitude f (m * 2 ^ s) 0 = k * 2 ^ f.fracBits + m * 2 ^ rest := by
    simp only [roundMagnitude, hk, Nat.zero_add]
    rw [quotient, roundShift_exact]
    exact Nat.min_eq_right below.le
  refine ⟨rounded ▸ below, ?_⟩
  rw [rounded, quotient]
  rcases lower with hz | lower
  · subst hz
    simp only [Nat.zero_mul, Nat.zero_add, pow_zero, Nat.mul_one]
    by_cases small : m * 2 ^ rest < 2 ^ f.fracBits
    · exact units_subnormal f _ small
    · simpa using units_normal f 0 (m * 2 ^ rest) (by omega) upper
  · exact units_normal f k (m * 2 ^ rest) lower upper

theorem roundMagnitude_le (f : Format) (n down : Nat) : roundMagnitude f n down ≤ infinity f :=
  Nat.min_le_left _ _

def quiet (payload : Nat) : Nat := if payload < 2 ^ 22 then payload + 2 ^ 22 else payload

/-- `float` to `double` on magnitudes: exact; a NaN keeps its payload and turns quiet. -/
def widen (mag : Nat) : Nat :=
  if infinity binary32 < mag then infinity binary64 + quiet (mag - infinity binary32) * 2 ^ 29
  else if mag = infinity binary32 then infinity binary64
  else roundMagnitude binary64 (units binary32 mag * 2 ^ 925) 0

/-- `double` to `float` on magnitudes. -/
def narrow (mag : Nat) : Nat :=
  if infinity binary64 < mag then
    infinity binary32 + quiet ((mag - infinity binary64) / 2 ^ 29)
  else if mag = infinity binary64 then infinity binary32
  else roundMagnitude binary32 (units binary64 mag) 925

def Settled (mag : Nat) : Prop := mag ≤ infinity binary32 ∨ infinity binary32 + 2 ^ 22 ≤ mag

theorem narrow_settled (mag : Nat) : Settled (narrow mag) := by
  unfold narrow Settled
  split
  · right
    unfold quiet
    split <;> omega
  · left
    split
    · exact le_rfl
    · exact roundMagnitude_le _ _ _

theorem infinity_binary32 : infinity binary32 = 255 * 2 ^ 23 := rfl

theorem narrow_lt (mag : Nat) (h : mag < 2 ^ 63) : narrow mag < 2 ^ 31 := by
  have rounded := roundMagnitude_le binary32 (units binary64 mag) 925
  rw [infinity_binary32] at rounded
  unfold narrow
  split
  · have payload : (mag - infinity binary64) / 2 ^ 29 < 2 ^ 23 := by
      rw [Nat.div_lt_iff_lt_mul (by positivity)]
      have : infinity binary64 = 2047 * 2 ^ 52 := rfl
      omega
    rw [infinity_binary32]
    unfold quiet
    split <;> omega
  · split
    · decide
    · omega

theorem widen_finite (mag : Nat) (finite : mag < infinity binary32) :
    widen mag < infinity binary64 ∧ units binary64 (widen mag) = units binary32 mag * 2 ^ 925 := by
  have skip : widen mag = roundMagnitude binary64 (units binary32 mag * 2 ^ 925) 0 := by
    rw [widen, if_neg (by omega), if_neg (by omega)]
  rw [skip]
  rcases units_split binary32 mag with ⟨small, value⟩ | ⟨k, m, shape, lower, upper, value⟩
  · rw [value]
    exact units_roundMagnitude binary64 mag 925
      (small.trans (by norm_num [binary32, binary64])) (by norm_num [binary64])
  · have range : k < 255 := by
      simp only [infinity, binary32] at finite shape lower
      omega
    rw [value, Nat.mul_assoc, ← pow_add]
    exact units_roundMagnitude binary64 m (k + 925)
      (upper.trans (by norm_num [binary32, binary64])) (by simp only [binary64]; omega)

theorem widen_lt (mag : Nat) (h : mag < 2 ^ 31) : widen mag < 2 ^ 63 := by
  have wide : infinity binary64 = 2047 * 2 ^ 52 := rfl
  have rounded := roundMagnitude_le binary64 (units binary32 mag * 2 ^ 925) 0
  unfold widen
  split
  · rw [wide]
    rw [infinity_binary32]
    unfold quiet
    split <;> omega
  · split <;> omega

/-- Narrowing undoes widening on every pattern that is not a signalling NaN. -/
theorem narrow_widen (mag : Nat) (bound : mag < 2 ^ 31) (h : Settled mag) :
    narrow (widen mag) = mag := by
  by_cases nan : infinity binary32 < mag
  · have quietBit : quiet (mag - infinity binary32) = mag - infinity binary32 := by
      rw [quiet, if_neg]
      rcases h with h | h <;> omega
    have wide : widen mag = infinity binary64 + (mag - infinity binary32) * 2 ^ 29 := by
      rw [widen, if_pos nan, quietBit]
    have above : infinity binary64 < widen mag := by
      rw [wide]
      omega
    rw [narrow, if_pos above, wide, Nat.add_sub_cancel_left,
      Nat.mul_div_cancel _ (by norm_num), quietBit]
    omega
  by_cases inf : mag = infinity binary32
  · subst inf
    decide
  have finite : mag < infinity binary32 := by omega
  obtain ⟨below, value⟩ := widen_finite mag finite
  rw [narrow, if_neg (by omega), if_neg (by omega), value]
  exact roundMagnitude_units binary32 mag 925 finite

end BinaryFloat

/-! `float` and `double`, held as their bit patterns. -/

structure Binary32 where
  bits : UInt32
  deriving DecidableEq, Inhabited

structure Binary64 where
  bits : UInt64
  deriving DecidableEq, Inhabited

namespace Binary32
open BinaryFloat

def sign (x : Binary32) : Nat := x.bits.toNat / 2 ^ 31

def magnitude (x : Binary32) : Nat := x.bits.toNat % 2 ^ 31

def isFinite (x : Binary32) : Bool := x.magnitude < infinity binary32

def toBinary64 (x : Binary32) : Binary64 :=
  ⟨UInt64.ofNat (x.sign * 2 ^ 63 + widen x.magnitude)⟩

end Binary32

namespace Binary64
open BinaryFloat

def sign (x : Binary64) : Nat := x.bits.toNat / 2 ^ 63

def magnitude (x : Binary64) : Nat := x.bits.toNat % 2 ^ 63

def isFinite (x : Binary64) : Bool := x.magnitude < infinity binary64

def isNaN (x : Binary64) : Bool := infinity binary64 < x.magnitude

def toBinary32 (x : Binary64) : Binary32 :=
  ⟨UInt32.ofNat (x.sign * 2 ^ 31 + narrow x.magnitude)⟩

def rank (x : Binary64) : Int := if x.sign = 0 then x.magnitude else -x.magnitude

def lt (x y : Binary64) : Bool := !x.isNaN && !y.isNaN && decide (x.rank < y.rank)

def le (x y : Binary64) : Bool := !x.isNaN && !y.isNaN && decide (x.rank ≤ y.rank)

/-- `fabs`: the sign bit cleared. -/
def abs (x : Binary64) : Binary64 := ⟨UInt64.ofNat x.magnitude⟩

def value (x : Binary64) : Int :=
  if x.sign = 0 then units binary64 x.magnitude else -units binary64 x.magnitude

def ofUnits (n : Int) : Binary64 :=
  ⟨UInt64.ofNat ((if n < 0 then 2 ^ 63 else 0) + roundMagnitude binary64 n.natAbs 0)⟩

def quietNaN : Binary64 := ⟨0x7ff8000000000000⟩

def sub (x y : Binary64) : Binary64 :=
  if x.isNaN || y.isNaN then quietNaN
  else if !x.isFinite && !y.isFinite && decide (x.sign = y.sign) then quietNaN
  else if !x.isFinite then x
  else if !y.isFinite then ⟨y.bits ^^^ 0x8000000000000000⟩
  -- an exact zero difference is positive unless it is (-0) - (+0)
  else if x.value = y.value then
    if x.magnitude = 0 && x.sign = 1 && y.sign = 0 then x else ⟨0⟩
  else ofUnits (x.value - y.value)

/-- Conversion of an integer, one being `2^1074` units. -/
def ofInt (n : Int) : Binary64 := ofUnits (n * 2 ^ 1074)

theorem narrow_pattern (x : Binary64) :
    x.toBinary32.sign = x.sign ∧ x.toBinary32.magnitude = narrow x.magnitude := by
  have hx := x.bits.toNat_lt
  have small := narrow_lt x.magnitude (Nat.mod_lt _ (by norm_num))
  have hs : x.sign < 2 := by
    rw [sign]
    omega
  simp only [toBinary32, Binary32.sign, Binary32.magnitude, UInt32.toNat_ofNat']
  constructor <;> omega

theorem widen_pattern (x : Binary32) (h : Settled x.magnitude) :
    x.toBinary64.toBinary32 = x := by
  have hx := x.bits.toNat_lt
  have bound : x.magnitude < 2 ^ 31 := Nat.mod_lt _ (by norm_num)
  have wide := widen_lt x.magnitude bound
  have hs : x.sign < 2 := by
    rw [Binary32.sign]
    omega
  have sign : x.toBinary64.sign = x.sign := by
    simp only [Binary32.toBinary64, Binary64.sign, UInt64.toNat_ofNat']
    omega
  have magnitude : x.toBinary64.magnitude = widen x.magnitude := by
    simp only [Binary32.toBinary64, Binary64.magnitude, UInt64.toNat_ofNat']
    omega
  have whole : x.sign * 2 ^ 31 + x.magnitude = x.bits.toNat := by
    rw [Binary32.sign, Binary32.magnitude]
    omega
  rw [toBinary32, sign, magnitude, narrow_widen _ bound h, whole, UInt32.ofNat_toNat]

end Binary64
