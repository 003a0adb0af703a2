import MultibusGateway.Library.ByteString
import Mathlib.Data.List.TakeWhile

/-! Base64 with padding: three bytes are four symbols of six bits each, and a last group of one or
two bytes is padded. A text is decoded to the bytes that it encodes. -/

namespace Base64
open ByteString

def alphabet : Bytes := ascii "ABCDEFGHIJKLMNOPQRSTUVWXYZabcdefghijklmnopqrstuvwxyz0123456789+/"

def padding : UInt8 := 0x3d

def symbol (sextet : Nat) : UInt8 := byteAt alphabet sextet

def sextet (symbol : UInt8) : Option Nat :=
  if symbol ∈ alphabet then some (alphabet.idxOf symbol) else none

def encode : Bytes → Bytes
  | [] => []
  | [a] => [symbol (a.toNat / 4), symbol (a.toNat % 4 * 16), padding, padding]
  | [a, b] =>
    [symbol (a.toNat / 4), symbol (a.toNat % 4 * 16 + b.toNat / 16), symbol (b.toNat % 16 * 4),
      padding]
  | a :: b :: c :: rest =>
    symbol (a.toNat / 4) :: symbol (a.toNat % 4 * 16 + b.toNat / 16) ::
      symbol (b.toNat % 16 * 4 + c.toNat / 64) :: symbol (c.toNat % 64) :: encode rest

def one (p q : UInt8) : Option Bytes := do
  let p ← sextet p
  let q ← sextet q
  return [UInt8.ofNat (p * 4 + q / 16)]

def two (p q r : UInt8) : Option Bytes := do
  let first ← one p q
  let q ← sextet q
  let r ← sextet r
  return first ++ [UInt8.ofNat (q % 16 * 16 + r / 4)]

def three (p q r s : UInt8) : Option Bytes := do
  let first ← two p q r
  let r ← sextet r
  let s ← sextet s
  return first ++ [UInt8.ofNat (r % 4 * 64 + s)]

/-- Only the last group may be padded. -/
def decode : Bytes → Option Bytes
  | [] => some []
  | [p, q, r, s] =>
    if s ≠ padding then three p q r s else if r ≠ padding then two p q r else one p q
  | p :: q :: r :: s :: rest => do
    let group ← three p q r s
    let rest ← decode rest
    return group ++ rest
  | _ => none

theorem sextet_symbol (n : Nat) (less : n < 64) : sextet (symbol n) = some n := by
  decide +revert +kernel

theorem symbol_ne_padding (n : Nat) (less : n < 64) : symbol n ≠ padding := by
  decide +revert +kernel

theorem symbol_ne_zero (n : Nat) (less : n < 64) : symbol n ≠ 0 := by
  decide +revert +kernel

section
variable (a b c : UInt8)

theorem one_symbols (low : Nat) (less : low < 16) :
    one (symbol (a.toNat / 4)) (symbol (a.toNat % 4 * 16 + low)) = some [a] := by
  have bound := a.toNat_lt
  have whole : a.toNat / 4 * 4 + (a.toNat % 4 * 16 + low) / 16 = a.toNat := by omega
  rw [one, sextet_symbol _ (by omega), sextet_symbol _ (by omega)]
  simp only [Option.bind_eq_bind, Option.bind_some, Option.pure_def, whole, UInt8.ofNat_toNat]

theorem two_symbols (low : Nat) (less : low < 4) :
    two (symbol (a.toNat / 4)) (symbol (a.toNat % 4 * 16 + b.toNat / 16))
      (symbol (b.toNat % 16 * 4 + low)) = some [a, b] := by
  have bound := b.toNat_lt
  have whole : (a.toNat % 4 * 16 + b.toNat / 16) % 16 * 16 + (b.toNat % 16 * 4 + low) / 4 =
      b.toNat := by omega
  rw [two, one_symbols a _ (by omega), sextet_symbol _ (by omega), sextet_symbol _ (by omega)]
  simp only [Option.bind_eq_bind, Option.bind_some, Option.pure_def, whole, UInt8.ofNat_toNat,
    List.singleton_append]

theorem three_symbols :
    three (symbol (a.toNat / 4)) (symbol (a.toNat % 4 * 16 + b.toNat / 16))
      (symbol (b.toNat % 16 * 4 + c.toNat / 64)) (symbol (c.toNat % 64)) = some [a, b, c] := by
  have bound := c.toNat_lt
  have whole : (b.toNat % 16 * 4 + c.toNat / 64) % 4 * 64 + c.toNat % 64 = c.toNat := by omega
  rw [three, two_symbols a b _ (by omega), sextet_symbol _ (by omega), sextet_symbol _ (by omega)]
  simp only [Option.bind_eq_bind, Option.bind_some, Option.pure_def, whole, UInt8.ofNat_toNat,
    List.cons_append, List.nil_append]

end

theorem encode_length (bytes : Bytes) :
    (encode bytes).length = (bytes.length + 2) / 3 * 4 := by
  fun_induction encode bytes with
  | case1 => rfl
  | case2 a => simp
  | case3 a b => simp
  | case4 a b c rest ih =>
    simp only [List.length_cons, ih]
    omega

theorem encode_eq_nil (bytes : Bytes) : encode bytes = [] ↔ bytes = [] := by
  rw [← List.length_eq_zero_iff, ← List.length_eq_zero_iff, encode_length]
  omega

theorem encode_printed (bytes : Bytes) : (encode bytes).all (· != 0) = true := by
  fun_induction encode bytes with
  | case1 => simp
  | case2 a =>
    have bound := a.toNat_lt
    simp [symbol_ne_zero (a.toNat / 4) (by omega), symbol_ne_zero (a.toNat % 4 * 16) (by omega),
      padding]
  | case3 a b =>
    have bound := a.toNat_lt
    have bound' := b.toNat_lt
    simp [symbol_ne_zero (a.toNat / 4) (by omega),
      symbol_ne_zero (a.toNat % 4 * 16 + b.toNat / 16) (by omega),
      symbol_ne_zero (b.toNat % 16 * 4) (by omega), padding]
  | case4 a b c rest ih =>
    have bound := a.toNat_lt
    have bound' := b.toNat_lt
    have bound'' := c.toNat_lt
    simpa [symbol_ne_zero (a.toNat / 4) (by omega),
      symbol_ne_zero (a.toNat % 4 * 16 + b.toNat / 16) (by omega),
      symbol_ne_zero (b.toNat % 16 * 4 + c.toNat / 64) (by omega),
      symbol_ne_zero (c.toNat % 64) (by omega)] using ih

theorem cStr_encode (bytes : Bytes) : cStr (encode bytes) = encode bytes :=
  List.takeWhile_eq_self_iff.mpr (List.all_eq_true.mp (encode_printed bytes))

theorem decode_group (p q r s : UInt8) (rest group : Bytes)
    (whole : three p q r s = some group) (unpadded : s ≠ padding) :
    decode (p :: q :: r :: s :: rest) = (decode rest).map (group ++ ·) := by
  cases rest with
  | nil => simp [decode, whole, unpadded]
  | cons t rest =>
    rw [decode, whole]
    · cases decode (t :: rest) <;> rfl
    · intro ends
      cases ends

theorem decode_encode (bytes : Bytes) : decode (encode bytes) = some bytes := by
  fun_induction encode bytes with
  | case1 => rfl
  | case2 a =>
    have group := one_symbols a 0 (by decide)
    rw [Nat.add_zero] at group
    simpa [decode] using group
  | case3 a b =>
    have bound := b.toNat_lt
    have group := two_symbols a b 0 (by decide)
    rw [Nat.add_zero] at group
    simpa [decode, symbol_ne_padding (b.toNat % 16 * 4) (by omega)] using group
  | case4 a b c rest ih =>
    refine (decode_group _ _ _ _ _ _ (three_symbols a b c) ?_).trans ?_
    · exact symbol_ne_padding _ (Nat.mod_lt _ (by decide))
    · rw [ih]
      rfl

example : encode (ascii "light wor") = ascii "bGlnaHQgd29y" ∧
    encode (ascii "light wo") = ascii "bGlnaHQgd28=" ∧
    encode (ascii "light w") = ascii "bGlnaHQgdw==" := by
  decide +kernel

end Base64
