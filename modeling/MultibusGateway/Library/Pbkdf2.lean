import Mathlib.Logic.Function.Iterate
import MultibusGateway.Library.ByteString

/-! The key derivation PBKDF2 over any keyed hash of a fixed length. A block of the key is the xor
of the iterates of the hash, the first of them that of the salt with the number of the block. A
loop that keeps the last iterate and the xor so far computes a block. -/

namespace Pbkdf2
open ByteString

section
variable {n : ℕ}

def xorBytes (a b : Vector UInt8 n) : Vector UInt8 n := Vector.zipWith (· ^^^ ·) a b

def xorAll (blocks : List (Vector UInt8 n)) : Vector UInt8 n :=
  blocks.foldr xorBytes (Vector.replicate n 0)

theorem xorBytes_assoc (a b c : Vector UInt8 n) :
    xorBytes (xorBytes a b) c = xorBytes a (xorBytes b c) := by
  ext i inside
  simp only [xorBytes, Vector.getElem_zipWith, UInt8.xor_assoc]

theorem xorBytes_zero (a : Vector UInt8 n) : xorBytes a (Vector.replicate n 0) = a := by
  ext i inside
  simp only [xorBytes, Vector.getElem_zipWith, Vector.getElem_replicate, UInt8.xor_zero]

theorem zero_xorBytes (a : Vector UInt8 n) : xorBytes (Vector.replicate n 0) a = a := by
  ext i inside
  simp only [xorBytes, Vector.getElem_zipWith, Vector.getElem_replicate, UInt8.zero_xor]

theorem xorAll_concat (blocks : List (Vector UInt8 n)) (last : Vector UInt8 n) :
    xorAll (blocks ++ [last]) = xorBytes (xorAll blocks) last := by
  induction blocks with
  | nil =>
    change xorBytes last (Vector.replicate n 0) = xorBytes (Vector.replicate n 0) last
    rw [xorBytes_zero, zero_xorBytes]
  | cons first blocks ih =>
    change xorBytes first (xorAll (blocks ++ [last])) =
      xorBytes (xorBytes first (xorAll blocks)) last
    rw [ih, xorBytes_assoc]

end

section
variable {n : ℕ} (prf : Bytes → Vector UInt8 n) (salt : Bytes)

def blockNumber (index : ℕ) : Bytes :=
  [UInt8.ofNat (index / 2 ^ 24), UInt8.ofNat (index / 2 ^ 16), UInt8.ofNat (index / 2 ^ 8),
    UInt8.ofNat index]

def U (index : ℕ) : ℕ → Vector UInt8 n
  | 0 => Vector.replicate n 0
  | 1 => prf (salt ++ blockNumber index)
  | i + 2 => prf (U index (i + 1)).toList

def block (iterations index : ℕ) : Vector UInt8 n :=
  xorAll ((List.range' 1 iterations).map (U prf salt index))

def derivedKey (iterations length : ℕ) : Bytes :=
  ((List.range' 1 ((length + n - 1) / n)).flatMap fun index =>
    (block prf salt iterations index).toList).take length

theorem U_succ (index i : ℕ) (first : 1 ≤ i) :
    U prf salt index (i + 1) = prf (U prf salt index i).toList := by
  obtain ⟨i, rfl⟩ := Nat.exists_eq_add_of_le' first
  rfl

theorem block_one (index : ℕ) : block prf salt 1 index = U prf salt index 1 :=
  xorBytes_zero _

theorem block_succ (iterations index : ℕ) : block prf salt (iterations + 1) index =
    xorBytes (block prf salt iterations index) (U prf salt index (iterations + 1)) := by
  rw [block, List.range'_1_concat, List.map_append, List.map_singleton, xorAll_concat,
    Nat.add_comm 1 iterations, block]

/-- A key as long as the hash is the first block. -/
theorem derivedKey_block (positive : 0 < n) (iterations : ℕ) :
    derivedKey prf salt iterations n = (block prf salt iterations 1).toList := by
  have single : (n + n - 1) / n = 1 := by
    apply Nat.div_eq_of_lt_le <;> omega
  rw [derivedKey, single, List.range'_one, List.flatMap_singleton]
  apply List.take_of_length_le
  rw [Vector.length_toList]

def turn (last : Vector UInt8 n × Vector UInt8 n) : Vector UInt8 n × Vector UInt8 n :=
  (prf last.1.toList, xorBytes last.2 (prf last.1.toList))

theorem turns_eq (index turns : ℕ) :
    (turn prf)^[turns] (U prf salt index 1, U prf salt index 1) =
      (U prf salt index (turns + 1), block prf salt (turns + 1) index) := by
  induction turns with
  | zero => rw [Function.iterate_zero, id_eq, block_one]
  | succ turns ih =>
    rw [Function.iterate_succ_apply', ih, turn, block_succ prf salt (turns + 1),
      U_succ prf salt index (turns + 1) (by omega)]

end

end Pbkdf2
