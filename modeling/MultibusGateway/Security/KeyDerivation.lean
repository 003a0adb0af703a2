import MultibusGateway.Library.Pbkdf2
import MultibusGateway.Security.PasswordHash

/-! The two functions that derive a key from a password, with their buffers for the salt and the
counter of their loop: that of the backup and that of the security store. Both compute PBKDF2. -/

namespace Security.Buffers
open ByteString Pbkdf2
open Sha256 (Digest)

def saltBlock (size : ℕ) (salt : Bytes) : Bytes :=
  (overwrite (List.replicate size 0) 0 salt).set (salt.length + 3) 1

theorem toNat_succ_of_lt (i bound : UInt32) (less : i < bound) : (i + 1).toNat = i.toNat + 1 := by
  have inside := UInt32.lt_iff_toNat_lt.mp less
  have most := bound.toNat_lt
  rw [UInt32.toNat_add, UInt32.toNat_one, Nat.mod_eq_of_lt (by omega)]

def stretchFrom (hmac : Hmac) (password : Bytes) (iterations i : UInt32) (u t : Digest) :
    Option Digest :=
  if i < iterations then
    match hmac password u.toList with
    | none => none
    | some next =>
      stretchFrom hmac password iterations (i + 1) next (Vector.zipWith (· ^^^ ·) t next)
  else some t
termination_by iterations.toNat - i.toNat
decreasing_by
  rename_i less
  have inside := UInt32.lt_iff_toNat_lt.mp less
  rw [toNat_succ_of_lt i iterations less]
  omega

/-- `BackupCrypto::deriveKey`; the output is written at the end only. -/
def deriveKey (hmac : Hmac) (passphrase : Bytes) (salt : Option Bytes) (iterations : UInt32)
    (output : Digest) : Digest × Bool :=
  match salt with
  | none => (output, false)
  | some salt =>
    if salt.length == 0 || iterations == 0 then (output, false)
    else
      match hmac passphrase (saltBlock (salt.length + 4) salt) with
      | none => (output, false)
      | some u =>
        match stretchFrom hmac passphrase iterations 1 u u with
        | none => (output, false)
        | some t => (t, true)

/-- `SecurityStore::pbkdf2Sha256`; of the buffer only the salt and four bytes are hashed. -/
def pbkdf2Sha256 (hmac : Hmac) (password salt : Bytes) (iterations : UInt32) : Bytes :=
  if salt.length > 64 then []
  else
    match hmac password ((saltBlock 68 salt).take (salt.length + 4)) with
    | none => []
    | some u =>
      match stretchFrom hmac password iterations 1 u u with
      | none => []
      | some t => hexOf t.toList

def lowercaseHex (bytes : Bytes) : Bytes :=
  bytes.flatMap fun value => [UInt8.ofNat (Nat.digitChar (value.toNat / 16)).toNat,
    UInt8.ofNat (Nat.digitChar (value.toNat % 16)).toNat]

theorem byteAt_hex (nibble : ℕ) (less : nibble < 16) :
    byteAt hex nibble = UInt8.ofNat (Nat.digitChar nibble).toNat := by
  decide +revert +kernel

theorem hexOf_eq (bytes : Bytes) : hexOf bytes = lowercaseHex bytes := by
  rw [hexOf, lowercaseHex]
  congr 1
  funext value
  have high : (value >>> 4).toNat = value.toNat / 16 := by
    rw [UInt8.toNat_shiftRight, Nat.shiftRight_eq_div_pow]
    rfl
  have low : (value &&& 0x0f).toNat = value.toNat % 16 := by
    rw [UInt8.toNat_and]
    exact Nat.and_two_pow_sub_one_eq_mod value.toNat 4
  have most := value.toNat_lt
  rw [high, low, byteAt_hex _ (by omega), byteAt_hex _ (by omega)]

/-! The buffers and the loop. -/

theorem take_saltBlock (size : ℕ) (salt : Bytes) (room : salt.length + 4 ≤ size) :
    (saltBlock size salt).take (salt.length + 4) = salt ++ blockNumber 1 := by
  obtain ⟨rest, rfl⟩ := Nat.exists_eq_add_of_le room
  have zeros : List.replicate (salt.length + 4 + rest) (0 : UInt8) =
      List.replicate salt.length 0 ++ (List.replicate 4 0 ++ List.replicate rest 0) := by
    rw [Nat.add_assoc, List.replicate_add, List.replicate_add]
  have written : overwrite (List.replicate (salt.length + 4 + rest) 0) 0 salt =
      salt ++ (List.replicate 4 0 ++ List.replicate rest 0) := by
    rw [zeros]
    exact overwrite_middle [] _ salt _ List.length_replicate
  have marked : (List.replicate 4 (0 : UInt8) ++ List.replicate rest 0).set 3 1 =
      blockNumber 1 ++ List.replicate rest 0 := rfl
  rw [saltBlock, written, List.set_append_right _ _ (by omega), Nat.add_sub_cancel_left, marked,
    List.take_length_add_append]
  rfl

theorem saltBlock_exact (salt : Bytes) :
    saltBlock (salt.length + 4) salt = salt ++ blockNumber 1 := by
  have length : (saltBlock (salt.length + 4) salt).length = salt.length + 4 := by
    simp [saltBlock, overwrite]
  calc
    _ = (saltBlock (salt.length + 4) salt).take (salt.length + 4) :=
      (List.take_of_length_le length.le).symm
    _ = _ := take_saltBlock (salt.length + 4) salt le_rfl

theorem stretchFrom_eq (hmac : Hmac) (password : Bytes) (iterations i : UInt32) (u t : Digest) :
    stretchFrom hmac password iterations i u t =
      stretch hmac password (iterations.toNat - i.toNat) u t := by
  have rounds (i : UInt32) (less : i < iterations) :
      iterations.toNat - i.toNat = iterations.toNat - (i + 1).toNat + 1 := by
    have inside := UInt32.lt_iff_toNat_lt.mp less
    rw [toNat_succ_of_lt i iterations less]
    omega
  fun_induction stretchFrom hmac password iterations i u t with
  | case1 i u t less failed => rw [rounds i less, stretch, failed]
  | case2 i u t less next hashed ih =>
    rw [rounds i less, stretch, hashed]
    exact ih
  | case3 i u t past =>
    have outside := UInt32.le_iff_toNat_le.mp (UInt32.not_lt.mp past)
    rw [Nat.sub_eq_zero_of_le outside]
    rfl

theorem stretch_turns (hmac : Bytes → Bytes → Digest) (password : Bytes) (rounds : ℕ)
    (u t : Digest) : stretch (fun key message => some (hmac key message)) password rounds u t =
      some ((turn (hmac password))^[rounds] (u, t)).2 := by
  induction rounds generalizing u t with
  | zero => rfl
  | succ rounds ih =>
    rw [stretch, Function.iterate_succ_apply]
    exact ih _ _

/-- The loop as a whole computes the first block of the derived key. -/
theorem stretchFrom_block (hmac : Bytes → Bytes → Digest) (password salt : Bytes)
    (iterations : UInt32) (counted : 1 ≤ iterations) :
    stretchFrom (fun key message => some (hmac key message)) password iterations 1
      (hmac password (salt ++ blockNumber 1)) (hmac password (salt ++ blockNumber 1)) =
        some (block (hmac password) salt iterations.toNat 1) := by
  have positive := UInt32.le_iff_toNat_le.mp counted
  have one : (1 : UInt32).toNat = 1 := rfl
  have first : hmac password (salt ++ blockNumber 1) = U (hmac password) salt 1 1 := rfl
  rw [stretchFrom_eq, stretch_turns, first, turns_eq, one, Nat.sub_add_cancel (one ▸ positive)]

/-! Where the salt ends in its buffer and how the loop counts is of no account for the hash that
the store keeps. -/

theorem pbkdf2Sha256_eq (hmac : Hmac) (password salt : Bytes) (iterations : UInt32) :
    pbkdf2Sha256 hmac password salt iterations =
      Security.pbkdf2Sha256 hmac password salt iterations := by
  have one : (1 : UInt32).toNat = 1 := rfl
  have number : blockNumber 1 = [0, 0, 0, 1] := rfl
  rw [pbkdf2Sha256, Security.pbkdf2Sha256]
  by_cases long : salt.length > 64
  · rw [if_pos long, if_pos long]
  · rw [if_neg long, if_neg long, take_saltBlock 68 salt (by omega), number]
    cases hmac password (salt ++ [0, 0, 0, 1]) with
    | none => rfl
    | some u =>
      dsimp only
      rewrite [stretchFrom_eq, one]
      rfl

/-! What the two functions compute over a hash that does not fail. -/

theorem deriveKey_block (hmac : Bytes → Bytes → Digest) (passphrase salt : Bytes)
    (iterations : UInt32) (output : Digest) (salted : 1 ≤ salt.length)
    (counted : 1 ≤ iterations) :
    deriveKey (fun key message => some (hmac key message)) passphrase (some salt) iterations
      output = (block (hmac passphrase) salt iterations.toNat 1, true) := by
  have length : salt.length ≠ 0 := by omega
  have positive : iterations ≠ 0 := by
    rintro rfl
    exact absurd counted (by decide)
  have accepted : (salt.length == 0 || iterations == 0) = false := by
    rw [Bool.or_eq_false_iff, beq_eq_false_iff_ne, beq_eq_false_iff_ne]
    exact ⟨length, positive⟩
  simp only [deriveKey, accepted, Bool.false_eq_true, if_false, saltBlock_exact,
    stretchFrom_block hmac passphrase salt iterations counted]

theorem pbkdf2Sha256_block (hmac : Bytes → Bytes → Digest) (password salt : Bytes)
    (iterations : UInt32) (short : salt.length ≤ 64) (counted : 1 ≤ iterations) :
    pbkdf2Sha256 (fun key message => some (hmac key message)) password salt iterations =
      lowercaseHex (block (hmac password) salt iterations.toNat 1).toList := by
  have fits : ¬salt.length > 64 := by omega
  simp only [pbkdf2Sha256, fits, if_false, take_saltBlock 68 salt (by omega),
    stretchFrom_block hmac password salt iterations counted, hexOf_eq]

example : lowercaseHex (block (Sha256.hmac (ascii "password")) (ascii "salt") 2 1).toList =
    ascii "ae4d0c95af6b46d32d0adff928f06dd02a303f8ef3c251dfd6e2d85a95474c43" := by
  decide +kernel

/-- For the same password, salt and count, the two functions compute the same key: the xor of the
iterates of the hash, which are as many as counted. The store keeps this key. -/
theorem derived_keys_standard (hmac : Bytes → Bytes → Digest) (password salt : Bytes)
    (iterations : UInt32) (salted : 1 ≤ salt.length) (short : salt.length ≤ 64)
    (counted : 1 ≤ iterations) (output : Digest) :
    let key := xorAll ((List.range' 1 iterations.toNat).map (U (hmac password) salt 1))
    deriveKey (fun key message => some (hmac key message)) password (some salt) iterations output =
        (key, true) ∧
      pbkdf2Sha256 (fun key message => some (hmac key message)) password salt iterations =
        lowercaseHex key.toList ∧
      Security.pbkdf2Sha256 (fun key message => some (hmac key message)) password salt
        iterations = lowercaseHex key.toList ∧
      U (hmac password) salt 1 1 = hmac password (salt ++ [0, 0, 0, 1]) ∧
      (∀ i, 1 ≤ i → U (hmac password) salt 1 (i + 1) =
        hmac password (U (hmac password) salt 1 i).toList) ∧
      key.toList = derivedKey (hmac password) salt iterations.toNat 32 := by
  intro key
  have hashed := pbkdf2Sha256_block hmac password salt iterations short counted
  refine ⟨?_, hashed, ?_, rfl, ?_, ?_⟩
  · exact deriveKey_block hmac password salt iterations output salted counted
  · exact (pbkdf2Sha256_eq _ password salt iterations).symm.trans hashed
  · exact U_succ (hmac password) salt 1
  · exact (derivedKey_block (hmac password) salt (by decide) iterations.toNat).symm

/-- At the hash of the source, with the longest salt and as many iterations as a new password. -/
theorem derived_keys_standard_longest :
    let salt : Bytes := List.replicate 64 0x5a
    let key := xorAll ((List.range' 1 120000).map (U (Sha256.hmac (ascii "correct horse")) salt 1))
    salt.length = 64 ∧
      deriveKey (fun key message => some (Sha256.hmac key message)) (ascii "correct horse")
        (some salt) 120000 (Vector.replicate 32 0) = (key, true) ∧
      pbkdf2Sha256 (fun key message => some (Sha256.hmac key message)) (ascii "correct horse")
        salt 120000 = lowercaseHex key.toList := by
  intro salt key
  have length : salt.length = 64 := List.length_replicate
  have counted : (1 : UInt32) ≤ 120000 := by decide
  have derived := derived_keys_standard Sha256.hmac (ascii "correct horse") salt 120000
    (by rw [length]; decide) length.le counted (Vector.replicate 32 0)
  exact ⟨length, derived.1, derived.2.1⟩

end Security.Buffers
