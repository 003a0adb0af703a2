import Mathlib.Data.List.Basic
import Mathlib.Data.Nat.Digits.Defs
import Mathlib.Tactic.Positivity
import Mathlib.Tactic.Ring

/-! Byte strings with a total read, and the fixed-width integer layouts of
little-endian and big-endian wire formats. Multi-byte reads use the shifts and
ors of the usual C code; their values are stated over natural numbers. -/

namespace ByteString

abbrev Bytes := List UInt8

/-- The bytes of a text of single-byte characters. -/
def ascii (text : String) : Bytes := text.toList.map fun c => UInt8.ofNat c.toNat

def cStr (s : Bytes) : Bytes := s.takeWhile (· != 0)

/-- Total read; callers guard the index by a length check. -/
def byteAt (p : Bytes) (k : Nat) : UInt8 := p.getD k 0

theorem byteAt_append_left (p q : Bytes) (k : Nat) (h : k < p.length) :
    byteAt (p ++ q) k = byteAt p k := by
  simp [byteAt, List.getElem?_append_left h]

theorem byteAt_append_right (p q : Bytes) (k : Nat) :
    byteAt (p ++ q) (p.length + k) = byteAt q k := by
  simp [byteAt, List.getElem?_append_right]

theorem byteAt_take (p : Bytes) (n k : Nat) (h : k < n) :
    byteAt (p.take n) k = byteAt p k := by
  simp [byteAt, h]

def overwrite (p : Bytes) (offset : Nat) (data : Bytes) : Bytes :=
  p.take offset ++ data ++ p.drop (offset + data.length)

theorem overwrite_middle (first old new last : Bytes) (same : old.length = new.length) :
    overwrite (first ++ (old ++ last)) first.length new = first ++ (new ++ last) := by
  rw [overwrite, List.take_left, ← List.drop_drop, List.drop_left, ← same, List.drop_left,
    List.append_assoc]

/-- Reading in a sequence of fields of one width. -/
theorem byteAt_flatMap {α : Type*} (field : α → Bytes) (width : Nat)
    (fixed : ∀ x, (field x).length = width) (xs : List α) (i k : Nat) (hi : i < xs.length)
    (hk : k < width) : byteAt (xs.flatMap field) (i * width + k) = byteAt (field xs[i]) k := by
  induction xs generalizing i with
  | nil => simp at hi
  | cons x rest ih =>
    rw [List.flatMap_cons]
    cases i with
    | zero =>
      rw [Nat.zero_mul, Nat.zero_add, byteAt_append_left _ _ _ (by rw [fixed]; exact hk)]
      rfl
    | succ i =>
      have offset : (i + 1) * width + k = (field x).length + (i * width + k) := by
        rw [fixed]
        ring
      rw [offset, byteAt_append_right, ih i (by simpa using hi)]
      rfl

theorem byteAt_eq_getElem (p : Bytes) (k : Nat) (h : k < p.length) : byteAt p k = p[k] := by
  simp [byteAt, h]

@[simp] theorem byteAt_cons_zero (b : UInt8) (p : Bytes) : byteAt (b :: p) 0 = b := rfl

@[simp] theorem byteAt_cons_succ (b : UInt8) (p : Bytes) (k : Nat) :
    byteAt (b :: p) (k + 1) = byteAt p k := rfl

/-- `p[k] | p[k+1] << 8` -/
def readU16 (p : Bytes) (k : Nat) : UInt16 :=
  (byteAt p k).toUInt16 ||| ((byteAt p (k + 1)).toUInt16 <<< 8)

/-- `p[k] | p[k+1] << 8 | p[k+2] << 16 | p[k+3] << 24` -/
def readU32 (p : Bytes) (k : Nat) : UInt32 :=
  (byteAt p k).toUInt32 ||| ((byteAt p (k + 1)).toUInt32 <<< 8) |||
    ((byteAt p (k + 2)).toUInt32 <<< 16) ||| ((byteAt p (k + 3)).toUInt32 <<< 24)

def writeU16 (value : UInt16) : Bytes := [value.toUInt8, (value >>> 8).toUInt8]

def writeU32 (value : UInt32) : Bytes :=
  [value.toUInt8, (value >>> 8).toUInt8, (value >>> 16).toUInt8, (value >>> 24).toUInt8]

@[simp] theorem writeU16_length (value : UInt16) : (writeU16 value).length = 2 := rfl

@[simp] theorem writeU32_length (value : UInt32) : (writeU32 value).length = 4 := rfl

theorem shift_or (a b i : Nat) (h : b < 2 ^ i) : b ||| a <<< i = a * 2 ^ i + b := by
  rw [Nat.or_comm, ← Nat.shiftLeft_add_eq_or_of_lt h, Nat.shiftLeft_eq]

theorem readU16_toNat (p : Bytes) (k : Nat) :
    (readU16 p k).toNat = (byteAt p k).toNat + 256 * (byteAt p (k + 1)).toNat := by
  have h0 := (byteAt p k).toNat_lt
  have h1 := (byteAt p (k + 1)).toNat_lt
  simp only [readU16, UInt16.toNat_or, UInt16.toNat_shiftLeft, UInt8.toNat_toUInt16]
  have hs : (byteAt p (k + 1)).toNat <<< ((8 : UInt16).toNat % 16) % 2 ^ 16 =
      (byteAt p (k + 1)).toNat <<< 8 := by
    rw [Nat.mod_eq_of_lt] <;> simp [Nat.shiftLeft_eq]
    omega
  rw [hs, shift_or _ _ 8 (by omega)]
  omega

theorem readU32_toNat (p : Bytes) (k : Nat) :
    (readU32 p k).toNat = (byteAt p k).toNat + 256 * (byteAt p (k + 1)).toNat +
      65536 * (byteAt p (k + 2)).toNat + 16777216 * (byteAt p (k + 3)).toNat := by
  have h0 := (byteAt p k).toNat_lt
  have h1 := (byteAt p (k + 1)).toNat_lt
  have h2 := (byteAt p (k + 2)).toNat_lt
  have h3 := (byteAt p (k + 3)).toNat_lt
  simp only [readU32, UInt32.toNat_or, UInt32.toNat_shiftLeft, UInt8.toNat_toUInt32]
  have shift : ∀ (b : UInt8) (s : Nat), s ≤ 24 →
      b.toNat <<< s % 2 ^ 32 = b.toNat <<< s := by
    intro b s hs
    have hb := b.toNat_lt
    apply Nat.mod_eq_of_lt
    rw [Nat.shiftLeft_eq]
    calc
      _ < 2 ^ 8 * 2 ^ s := Nat.mul_lt_mul_of_pos_right hb (by positivity)
      _ ≤ 2 ^ 8 * 2 ^ 24 := Nat.mul_le_mul_left _ (Nat.pow_le_pow_right (by omega) hs)
      _ = 2 ^ 32 := by norm_num
  change (byteAt p k).toNat ||| (byteAt p (k + 1)).toNat <<< 8 % 2 ^ 32 |||
    (byteAt p (k + 2)).toNat <<< 16 % 2 ^ 32 ||| (byteAt p (k + 3)).toNat <<< 24 % 2 ^ 32 = _
  rw [shift _ 8 (by omega), shift _ 16 (by omega), shift _ 24 (by omega),
    shift_or _ _ 8 (by omega), shift_or _ _ 16 (by omega), shift_or _ _ 24 (by omega)]
  omega

theorem readU16_congr (p q : Bytes) (k : Nat) (h0 : byteAt p k = byteAt q k)
    (h1 : byteAt p (k + 1) = byteAt q (k + 1)) : readU16 p k = readU16 q k := by
  simp only [readU16, h0, h1]

theorem readU32_congr (p q : Bytes) (k : Nat)
    (h : ∀ i < 4, byteAt p (k + i) = byteAt q (k + i)) : readU32 p k = readU32 q k := by
  have h0 := h 0 (by omega)
  simp only [Nat.add_zero] at h0
  simp only [readU32, h0, h 1 (by omega), h 2 (by omega), h 3 (by omega)]

theorem readU16_append_right (p q : Bytes) (k : Nat) :
    readU16 (p ++ q) (p.length + k) = readU16 q k := by
  simp only [readU16, Nat.add_assoc, byteAt_append_right]

theorem readU32_append_right (p q : Bytes) (k : Nat) :
    readU32 (p ++ q) (p.length + k) = readU32 q k := by
  simp only [readU32, Nat.add_assoc, byteAt_append_right]

theorem readU16_writeU16 (value : UInt16) (rest : Bytes) :
    readU16 (writeU16 value ++ rest) 0 = value := by
  apply UInt16.toNat_inj.mp
  have bound := value.toNat_lt
  rw [readU16_toNat]
  simp [writeU16, Nat.shiftRight_eq_div_pow]
  omega

theorem readU32_writeU32 (value : UInt32) (rest : Bytes) :
    readU32 (writeU32 value ++ rest) 0 = value := by
  apply UInt32.toNat_inj.mp
  have bound := value.toNat_lt
  rw [readU32_toNat]
  simp [writeU32, Nat.shiftRight_eq_div_pow]
  omega

/-- `p[k] << 8 | p[k+1]` -/
def readU16BE (p : Bytes) (k : Nat) : UInt16 :=
  ((byteAt p k).toUInt16 <<< 8) ||| (byteAt p (k + 1)).toUInt16

/-- `p[k] << 24 | p[k+1] << 16 | p[k+2] << 8 | p[k+3]` -/
def readU32BE (p : Bytes) (k : Nat) : UInt32 :=
  ((byteAt p k).toUInt32 <<< 24) ||| ((byteAt p (k + 1)).toUInt32 <<< 16) |||
    ((byteAt p (k + 2)).toUInt32 <<< 8) ||| (byteAt p (k + 3)).toUInt32

def writeU16BE (value : UInt16) : Bytes := [(value >>> 8).toUInt8, value.toUInt8]

/-- The low `8 * width` bits, most significant byte first. -/
def bigEndian (raw : UInt64) (width : Nat) : Bytes :=
  (List.range width).map fun i => (raw >>> UInt64.ofNat (8 * (width - 1 - i))).toUInt8

/-- `integer = (integer << 8) | byte` over the string. -/
def accumulate (integer : UInt64) (p : Bytes) : UInt64 :=
  p.foldl (fun acc b => acc <<< 8 ||| b.toUInt64) integer

def ofBigEndian (p : Bytes) : UInt64 := accumulate 0 p

/-- The low `8 * width` bits, least significant byte first. -/
def littleEndian (value : UInt64) (width : Nat) : Bytes :=
  (List.range width).map fun i => (value >>> UInt64.ofNat (8 * i)).toUInt8

@[simp] theorem writeU16BE_length (value : UInt16) : (writeU16BE value).length = 2 := rfl

theorem readU16BE_reverse (a b : UInt8) : readU16BE [a, b] 0 = readU16 [b, a] 0 :=
  UInt16.or_comm _ _

theorem readU16BE_writeU16BE (value : UInt16) : readU16BE (writeU16BE value) 0 = value := by
  rw [writeU16BE, readU16BE_reverse]
  simpa [writeU16] using readU16_writeU16 value []

theorem writeU16BE_readU16BE (a b : UInt8) : writeU16BE (readU16BE [a, b] 0) = [a, b] := by
  have value := readU16_toNat [b, a] 0
  have ha := a.toNat_lt
  have hb := b.toNat_lt
  simp only [byteAt_cons_zero, byteAt_cons_succ] at value
  rw [readU16BE_reverse, writeU16BE]
  congr 1
  · apply UInt8.toNat_inj.mp
    simp [value, Nat.shiftRight_eq_div_pow]
    omega
  · congr 1
    apply UInt8.toNat_inj.mp
    simp [value]

theorem readU32BE_reverse (a b c d : UInt8) :
    readU32BE [a, b, c, d] 0 = readU32 [d, c, b, a] 0 := by
  have flip : ∀ x y z w : UInt32, x ||| y ||| z ||| w = w ||| z ||| y ||| x := by
    intro x y z w
    ac_rfl
  exact flip (a.toUInt32 <<< 24) (b.toUInt32 <<< 16) (c.toUInt32 <<< 8) d.toUInt32

@[simp] theorem bigEndian_length (raw : UInt64) (width : Nat) :
    (bigEndian raw width).length = width := by simp [bigEndian]

@[simp] theorem littleEndian_length (value : UInt64) (width : Nat) :
    (littleEndian value width).length = width := by simp [littleEndian]

def ofLittleEndian (p : Bytes) : Nat := Nat.ofDigits 256 (p.map UInt8.toNat)

theorem shifted_byte_toNat (value : UInt64) (i : Nat) (small : i < 8) :
    (value >>> UInt64.ofNat (8 * i)).toUInt8.toNat = value.toNat / 256 ^ i % 256 := by
  have shift : 8 * i % 2 ^ 64 % 64 = 8 * i := by omega
  have power : (2 : Nat) ^ (8 * i) = 256 ^ i := by
    rw [pow_mul]
    rfl
  simp only [UInt64.toNat_toUInt8, UInt64.toNat_shiftRight, UInt64.toNat_ofNat']
  rw [shift, Nat.shiftRight_eq_div_pow, power]

theorem ofLittleEndian_littleEndian (value : UInt64) (width : Nat) (most : width ≤ 8) :
    ofLittleEndian (littleEndian value width) = value.toNat % 256 ^ width := by
  induction width with
  | zero => simp [ofLittleEndian, littleEndian, Nat.mod_one]
  | succ width ih =>
    have front := ih (by omega)
    have last := shifted_byte_toNat value width (by omega)
    have split : littleEndian value (width + 1) =
        littleEndian value width ++ [(value >>> UInt64.ofNat (8 * width)).toUInt8] := by
      simp only [littleEndian, List.range_succ, List.map_append, List.map_cons, List.map_nil]
    rw [ofLittleEndian] at front ⊢
    rw [split, List.map_append, Nat.ofDigits_append, front, List.length_map, littleEndian_length,
      List.map_cons, List.map_nil, Nat.ofDigits_singleton, last, pow_succ, Nat.mod_mul]

theorem bigEndian_succ (raw : UInt64) (width : Nat) :
    bigEndian raw (width + 1) =
      (raw >>> UInt64.ofNat (8 * width)).toUInt8 :: bigEndian raw width := by
  rw [bigEndian, List.range_succ_eq_map, List.map_cons, List.map_map]
  congr 1
  apply List.map_congr_left
  intro i _
  have hi : width + 1 - 1 - (i + 1) = width - 1 - i := by omega
  simp only [Function.comp, Nat.succ_eq_add_one, hi]

theorem push_byte_toNat (integer : UInt64) (b : UInt8) :
    (integer <<< 8 ||| b.toUInt64).toNat = (integer.toNat * 256 + b.toNat) % 2 ^ 64 := by
  have hb := b.toNat_lt
  have hm : integer.toNat <<< 8 % 2 ^ 64 = (integer.toNat % 2 ^ 56) <<< 8 := by
    simp only [Nat.shiftLeft_eq]
    omega
  simp only [UInt64.toNat_or, UInt64.toNat_shiftLeft, UInt8.toNat_toUInt64]
  change integer.toNat <<< 8 % 2 ^ 64 ||| b.toNat = _
  rw [hm, Nat.or_comm, shift_or _ _ 8 (by omega)]
  omega

theorem accumulate_lt (integer : UInt64) (p : Bytes) :
    (accumulate integer p).toNat < (integer.toNat + 1) * 256 ^ p.length := by
  induction p generalizing integer with
  | nil => simp [accumulate]
  | cons b p ih =>
    have byte := b.toNat_lt
    have pushed : (integer <<< 8 ||| b.toUInt64).toNat + 1 ≤ (integer.toNat + 1) * 256 := by
      rw [push_byte_toNat]
      omega
    calc (accumulate integer (b :: p)).toNat
        < ((integer <<< 8 ||| b.toUInt64).toNat + 1) * 256 ^ p.length := ih _
      _ ≤ (integer.toNat + 1) * 256 * 256 ^ p.length := Nat.mul_le_mul_right _ pushed
      _ = (integer.toNat + 1) * 256 ^ (b :: p).length := by
        rw [List.length_cons, pow_succ']
        ring

theorem ofBigEndian_lt (p : Bytes) : (ofBigEndian p).toNat < 256 ^ p.length := by
  simpa [ofBigEndian] using accumulate_lt 0 p

theorem accumulate_bigEndian (raw integer : UInt64) (width : Nat) (hw : width ≤ 8) :
    (accumulate integer (bigEndian raw width)).toNat =
      (integer.toNat * 256 ^ width + raw.toNat % 256 ^ width) % 2 ^ 64 := by
  induction width generalizing integer with
  | zero =>
    have := integer.toNat_lt
    simp [accumulate, bigEndian, Nat.mod_one]
  | succ width ih =>
    have top := shifted_byte_toNat raw width (by omega)
    have split : raw.toNat % 256 ^ (width + 1) =
        raw.toNat % 256 ^ width + 256 ^ width * (raw.toNat / 256 ^ width % 256) := by
      rw [pow_succ, Nat.mod_mul]
    rw [bigEndian_succ]
    change (accumulate (integer <<< 8 ||| _) (bigEndian raw width)).toNat = _
    rw [ih _ (by omega), push_byte_toNat, top, split, Nat.add_mod, Nat.mod_mul_mod]
    rw [← Nat.add_mod, pow_succ]
    congr 1
    ring

/-- Reading back the bytes of a value that fits the width. -/
theorem ofBigEndian_bigEndian (raw : UInt64) (width : Nat) (hw : width ≤ 8)
    (fits : raw.toNat < 256 ^ width) : ofBigEndian (bigEndian raw width) = raw := by
  apply UInt64.toNat_inj.mp
  have bound := raw.toNat_lt
  rw [ofBigEndian, accumulate_bigEndian raw 0 width hw, Nat.mod_eq_of_lt fits]
  simp only [UInt64.toNat_zero, Nat.zero_mul, Nat.zero_add]
  exact Nat.mod_eq_of_lt bound

theorem bit_ofNat (n k : Nat) (h : k < 8) :
    ((UInt8.ofNat n >>> UInt8.ofNat k) &&& 0x01 != 0) = n.testBit k := by
  have small : k % 256 % 8 = k := by omega
  have low : (n % 2 ^ 8).testBit k = n.testBit k := by
    rw [Nat.testBit_mod_two_pow]
    simp [h]
  have value : ((UInt8.ofNat n >>> UInt8.ofNat k) &&& 0x01).toNat = (n.testBit k).toNat := by
    rw [← low, Nat.toNat_testBit]
    simp [small, Nat.shiftRight_eq_div_pow]
  cases bit : n.testBit k
  · rw [bit] at value
    simpa [← UInt8.toNat_inj] using value
  · rw [bit] at value
    simp [← UInt8.toNat_inj, value]

theorem bigEndian_four (value : UInt32) :
    bigEndian value.toUInt64 4 = (writeU32 value).reverse := by
  have bytes : ∀ s ≤ 24, (value.toUInt64 >>> UInt64.ofNat s).toUInt8 =
      (value >>> UInt32.ofNat s).toUInt8 := by
    intro s hs
    apply UInt8.toNat_inj.mp
    have hs64 : s % 18446744073709551616 % 64 = s := by omega
    have hs32 : s % 4294967296 % 32 = s := by omega
    simp [hs64, hs32]
  simp only [bigEndian, List.range_succ, List.range_zero, List.nil_append, List.cons_append,
    List.map_cons, List.map_nil, writeU32, List.reverse_cons, List.reverse_nil]
  rw [bytes _ (by omega), bytes _ (by omega), bytes _ (by omega), bytes _ (by omega)]
  have zero : value >>> 0 = value := by
    apply UInt32.toNat_inj.mp
    simp
  simp [zero]

theorem readU32BE_bigEndian (value : UInt32) :
    readU32BE (bigEndian value.toUInt64 4) 0 = value := by
  rw [bigEndian_four, writeU32]
  simp only [List.reverse_cons, List.reverse_nil, List.nil_append, List.cons_append]
  rw [readU32BE_reverse]
  simpa [writeU32] using readU32_writeU32 value []

end ByteString
