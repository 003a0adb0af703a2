import MultibusGateway.Library.Sha256
import Mathlib.Data.List.Zip

/-! Password hashes: PBKDF2 over a keyed hash of 32 bytes that may fail, written out in
hexadecimal, and the policy for the algorithm and the iterations of a stored hash. -/

namespace Security
open ByteString
open Sha256 (Digest)

abbrev Hmac := Bytes → Bytes → Option Digest

namespace PasswordKdfPolicy

def kAlgorithm : Bytes := ascii "pbkdf2-sha256"

def kCurrentIterations : UInt32 := 120000

def kLegacyIterations : UInt32 := 120000

def kMinAcceptedIterations : UInt32 := 10000

def kMaxAcceptedIterations : UInt32 := 500000

def isSupported (algorithm : Bytes) (iterations : UInt32) : Bool :=
  algorithm == kAlgorithm && iterations ≥ kMinAcceptedIterations &&
    iterations ≤ kMaxAcceptedIterations

def storedOrLegacyIterations (storedIterations : UInt32) : UInt32 :=
  if storedIterations == 0 then kLegacyIterations else storedIterations

def storedOrLegacyAlgorithm (storedAlgorithm : Bytes) : Bytes :=
  if storedAlgorithm.isEmpty then kAlgorithm else storedAlgorithm

theorem isSupported_current :
    isSupported (storedOrLegacyAlgorithm kAlgorithm)
      (storedOrLegacyIterations kCurrentIterations) = true := by
  decide +kernel

theorem isSupported_split (algorithm algorithm' : Bytes) (iterations iterations' : UInt32)
    (supported : isSupported algorithm iterations = true)
    (supported' : isSupported algorithm' iterations' = true) :
    isSupported algorithm iterations' = true := by
  simp only [isSupported, Bool.and_eq_true] at supported supported' ⊢
  exact ⟨⟨supported.1.1, supported'.1.2⟩, supported'.2⟩

end PasswordKdfPolicy

def hex : Bytes := ascii "0123456789abcdef"

def hexOf (bytes : Bytes) : Bytes :=
  bytes.flatMap fun (value : UInt8) =>
    [byteAt hex (value >>> 4).toNat, byteAt hex (value &&& 0x0f).toNat]

theorem hexOf_eq_nil (bytes : Bytes) : hexOf bytes = [] ↔ bytes = [] := by
  cases bytes <;> simp [hexOf]

theorem hexOf_length (bytes : Bytes) : (hexOf bytes).length = 2 * bytes.length := by
  induction bytes with
  | nil => rfl
  | cons value bytes ih =>
    rw [hexOf, List.flatMap_cons, List.length_append, ← hexOf, ih, List.length_cons]
    simp only [List.length_cons, List.length_nil]
    omega

def stretch (hmac : Hmac) (password : Bytes) : Nat → Digest → Digest → Option Digest
  | 0, _, t => some t
  | rounds + 1, u, t =>
    match hmac password u.toList with
    | none => none
    | some next => stretch hmac password rounds next (Vector.zipWith (· ^^^ ·) t next)

/-- No text stands for a hash that could not be computed. -/
def pbkdf2Sha256 (hmac : Hmac) (password salt : Bytes) (iterations : UInt32) : Bytes :=
  if salt.length > 64 then []
  else match hmac password (salt ++ [0, 0, 0, 1]) with
    | none => []
    | some u =>
      match stretch hmac password (iterations.toNat - 1) u u with
      | none => []
      | some t => hexOf t.toList

theorem stretch_works (hmac : Hmac) (works : ∀ key message, (hmac key message).isSome)
    (password : Bytes) (rounds : Nat) (u t : Digest) :
    (stretch hmac password rounds u t).isSome := by
  induction rounds generalizing u t with
  | zero => rfl
  | succ rounds ih =>
    obtain ⟨next, hashed⟩ := Option.isSome_iff_exists.mp (works password u.toList)
    rw [stretch, hashed]
    exact ih next _

theorem pbkdf2Sha256_works (hmac : Hmac) (works : ∀ key message, (hmac key message).isSome)
    (password salt : Bytes) (iterations : UInt32) (short : salt.length ≤ 64) :
    pbkdf2Sha256 hmac password salt iterations ≠ [] := by
  obtain ⟨u, first⟩ := Option.isSome_iff_exists.mp (works password (salt ++ [0, 0, 0, 1]))
  obtain ⟨t, last⟩ := Option.isSome_iff_exists.mp
    (stretch_works hmac works password (iterations.toNat - 1) u u)
  rw [pbkdf2Sha256, if_neg (by omega), first]
  simp only [last]
  rw [ne_eq, hexOf_eq_nil]
  exact fun empty => by simpa using congrArg List.length empty

def constantTimeEquals (a b : Bytes) : Bool :=
  if a.length != b.length then false
  else (List.zipWith (· ^^^ ·) a b).foldl (· ||| ·) 0 == 0

theorem foldl_or_eq_zero (bytes : Bytes) (diff : UInt8) :
    bytes.foldl (· ||| ·) diff = 0 ↔ diff = 0 ∧ ∀ x ∈ bytes, x = 0 := by
  induction bytes generalizing diff with
  | nil => simp
  | cons x bytes ih =>
    rw [List.foldl_cons, ih, UInt8.or_eq_zero_iff, List.forall_mem_cons, and_assoc]

theorem constantTimeEquals_iff (a b : Bytes) : constantTimeEquals a b = true ↔ a = b := by
  unfold constantTimeEquals
  by_cases same : a.length = b.length
  · simp only [same, bne_self_eq_false, Bool.false_eq_true, if_false, beq_iff_eq,
      foldl_or_eq_zero, true_and]
    induction a generalizing b with
    | nil => simp [List.length_eq_zero_iff.mp same.symm]
    | cons x a ih =>
      cases b with
      | nil => cases same
      | cons y b =>
        rw [List.zipWith_cons_cons, List.forall_mem_cons, UInt8.xor_eq_zero_iff, List.cons.injEq,
          ih b (Nat.succ.inj same)]
  · have apart : a ≠ b := fun equal => same (congrArg List.length equal)
    simp [same, apart]

end Security
