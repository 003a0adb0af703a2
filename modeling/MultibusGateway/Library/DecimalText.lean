import Mathlib.Data.Nat.Notation
import MultibusGateway.Library.ByteString

/-! Numbers as texts of decimal digits. The value of a text only grows with its digits, so a reader
that gives up as soon as it is past a bound refuses exactly the texts whose value is past it. -/

namespace DecimalText
open ByteString

def isDigit (c : UInt8) : Bool := 0x30 ≤ c && c ≤ 0x39

def shifted (value : ℕ) (c : UInt8) : ℕ := value * 10 + (c.toNat - 48)

def valueFrom (value : ℕ) (digits : Bytes) : ℕ := digits.foldl shifted value

@[simp] theorem valueFrom_nil (value : ℕ) : valueFrom value [] = value := rfl

@[simp] theorem valueFrom_cons (value : ℕ) (c : UInt8) (digits : Bytes) :
    valueFrom value (c :: digits) = valueFrom (shifted value c) digits := by
  rw [valueFrom, List.foldl_cons, valueFrom]

theorem le_valueFrom (value : ℕ) (digits : Bytes) : value ≤ valueFrom value digits := by
  induction digits generalizing value with
  | nil => exact le_rfl
  | cons c digits ih =>
    have more := ih (shifted value c)
    rw [valueFrom_cons]
    rw [shifted] at more ⊢
    omega

theorem isDigit_iff (c : UInt8) : isDigit c = true ↔ 48 ≤ c.toNat ∧ c.toNat ≤ 57 := by
  rw [isDigit, Bool.and_eq_true, decide_eq_true_eq, decide_eq_true_eq, UInt8.le_iff_toNat_le,
    UInt8.le_iff_toNat_le]
  rfl

def text (n : ℕ) : Bytes := (Nat.toDigits 10 n).map fun c => UInt8.ofNat c.toNat

theorem toNat_digit (n : ℕ) (c : Char) (digit : c ∈ Nat.toDigits 10 n) :
    (UInt8.ofNat c.toNat).toNat = c.toNat ∧ 48 ≤ c.toNat ∧ c.toNat ≤ 57 := by
  have bounds := Nat.isDigit_of_mem_toDigits (by decide) (by decide) digit
  rw [Char.isDigit_iff_toNat] at bounds
  have zero : '0'.toNat = 48 := rfl
  have nine : '9'.toNat = 57 := rfl
  rw [UInt8.toNat_ofNat']
  omega

theorem isDigit_text (n : ℕ) (c : UInt8) (member : c ∈ text n) : isDigit c = true := by
  obtain ⟨digit, inside, rfl⟩ := List.mem_map.mp member
  have bounds := toNat_digit n digit inside
  rw [isDigit_iff]
  omega

theorem text_ne_nil (n : ℕ) : text n ≠ [] := by
  intro none
  exact Nat.toDigits_ne_nil (List.map_eq_nil_iff.mp none)

theorem length_text_le (n digits : ℕ) (positive : 0 < digits) (small : n < 10 ^ digits) :
    (text n).length ≤ digits := by
  rw [text, List.length_map]
  exact (Nat.length_toDigits_le_iff (by decide) positive).mpr small

theorem valueFrom_text (n : ℕ) : valueFrom 0 (text n) = n := by
  have digits : ∀ (chars : List Char) (value : ℕ), (∀ c ∈ chars, c ∈ Nat.toDigits 10 n) →
      valueFrom value (chars.map fun c => UInt8.ofNat c.toNat) =
        Nat.ofDigitChars 10 chars value := by
    intro chars
    induction chars with
    | nil =>
      intro value _
      rfl
    | cons c chars ih =>
      intro value inside
      have zero : '0'.toNat = 48 := rfl
      rw [List.map_cons, valueFrom_cons, shifted, (toNat_digit n c (inside c List.mem_cons_self)).1,
        ih _ fun d member => inside d (List.mem_cons_of_mem _ member), Nat.ofDigitChars_cons,
        zero, Nat.mul_comm]
  rw [text, digits _ 0 fun c member => member, Nat.ofDigitChars_ten_toDigits]

end DecimalText
