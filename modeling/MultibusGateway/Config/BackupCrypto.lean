import Mathlib.Data.List.TakeWhile
import MultibusGateway.Config.BackupService
import MultibusGateway.Library.Aes
import MultibusGateway.Library.Base64
import MultibusGateway.Security.KeyDerivation
import MultibusGateway.Security.SecurityStore

/-! The encryption of a backup: a document with a salt, a nonce, a tag and a ciphertext, under a key
from a passphrase. The cryptography is that of a library; what is proved of the documents rests on
its functions being those of their standards. -/

namespace Config
open ByteString Security
open Sha256 (Digest)

/-- The functions of the library that a backup needs. A call that fails has no result. -/
structure MbedTls where
  hmac : Hmac
  cryptAndTag : (key nonce aad text : Bytes) → Option (Bytes × Bytes)
  authDecrypt : (key nonce aad tag ciphertext : Bytes) → Option Bytes
  base64Encode : (capacity : Nat) → Bytes → Option Bytes
  base64Decode : (capacity : Nat) → Bytes → Option Bytes

namespace BackupCrypto

def kIterations : UInt32 := 150000

def kSaltLength : Nat := 16

def kNonceLength : Nat := 12

def kTagLength : Nat := 16

def kKeyLength : Nat := 32

def kMinimumPassphraseLength : Nat := 12

def kAad : Bytes := ascii "esp32-multibus-gateway:backup:v1"

def fillRandom (random : Random) (first length : Nat) : Bytes :=
  (List.range length).map fun i => (random (first + i)).toUInt8

def encodeBase64 (tls : MbedTls) (input : Bytes) : Option Bytes :=
  if input.isEmpty then none
  else tls.base64Encode ((input.length + 2) / 3 * 4 + 1) input

def decodeBase64 (tls : MbedTls) (input : Bytes) : Option Bytes :=
  if input.isEmpty then none
  else
    match tls.base64Decode (input.length / 4 * 3 + 3) input with
    | none => none
    | some output => if output.length > 0 then some output else none

def envelopeMembers (salt64 nonce64 tag64 ciphertext64 : Bytes) : List (String × Json) :=
  [("format", .text (ascii "multibus-backup-encrypted")),
    ("version", .integer 1),
    ("kdf", .text (ascii "pbkdf2-hmac-sha256")),
    ("iterations", .integer kIterations.toNat),
    ("cipher", .text (ascii "aes-256-gcm")),
    ("salt", .text salt64),
    ("nonce", .text nonce64),
    ("tag", .text tag64),
    ("ciphertext", .text ciphertext64)]

def envelope (salt64 nonce64 tag64 ciphertext64 : Bytes) : Json :=
  .object (envelopeMembers salt64 nonce64 tag64 ciphertext64)

/-- The encrypted text, or the error; a document without a text is an error that says nothing. -/
def encrypt (tls : MbedTls) (library : Json.Library) (plaintext passphrase : Bytes)
    (random : Random) : Except Bytes Bytes :=
  if plaintext.isEmpty then .error (ascii "empty-backup")
  else if passphrase.length < kMinimumPassphraseLength then
    .error (ascii "passphrase-too-short")
  else
    let salt := fillRandom random 0 kSaltLength
    let nonce := fillRandom random kSaltLength kNonceLength
    match Buffers.deriveKey tls.hmac passphrase (some salt) kIterations (Vector.replicate 32 0) with
    | (_, false) => .error (ascii "key-derivation-failed")
    | (key, true) =>
      match tls.cryptAndTag key.toList nonce kAad plaintext with
      | none => .error (ascii "encryption-failed")
      | some (ciphertext, tag) =>
        match encodeBase64 tls salt, encodeBase64 tls nonce, encodeBase64 tls tag,
          encodeBase64 tls ciphertext with
        | some salt64, some nonce64, some tag64, some ciphertext64 =>
          let output := library.serializeJsonPretty (envelope salt64 nonce64 tag64 ciphertext64)
          if output.isEmpty then .error [] else .ok output
        | _, _, _, _ => .error (ascii "base64-encode-failed")

def supported (doc : Json) : Bool :=
  (doc.get "format").textOr "" == ascii "multibus-backup-encrypted" &&
    (doc.get "version").uint32Or 0 == 1 &&
    (doc.get "kdf").textOr "" == ascii "pbkdf2-hmac-sha256" &&
    (doc.get "cipher").textOr "" == ascii "aes-256-gcm"

def bytesOf (tls : MbedTls) (doc : Json) (name : String) : Option Bytes :=
  decodeBase64 tls ((doc.get name).textOr "")

def decryptFields (tls : MbedTls) (passphrase : Bytes) (iterations : UInt32)
    (salt nonce tag ciphertext : Bytes) : Except Bytes Bytes :=
  if salt.length != kSaltLength || nonce.length != kNonceLength || tag.length != kTagLength ||
      ciphertext.isEmpty then
    .error (ascii "invalid-encrypted-fields")
  else
    match Buffers.deriveKey tls.hmac passphrase (some salt) iterations (Vector.replicate 32 0) with
    | (_, false) => .error (ascii "key-derivation-failed")
    | (key, true) =>
      match tls.authDecrypt key.toList nonce kAad tag ciphertext with
      | none => .error (ascii "authentication-failed")
      | some plaintext => if plaintext.isEmpty then .error [] else .ok plaintext

def decryptDocument (tls : MbedTls) (doc : Json) (passphrase : Bytes) : Except Bytes Bytes :=
  if !supported doc then .error (ascii "unsupported-encrypted-backup")
  else
    let iterations := (doc.get "iterations").uint32Or 0
    if iterations < 100000 || iterations > 1000000 then .error (ascii "invalid-kdf-iterations")
    else
      match bytesOf tls doc "salt", bytesOf tls doc "nonce", bytesOf tls doc "tag",
        bytesOf tls doc "ciphertext" with
      | some salt, some nonce, some tag, some ciphertext =>
        decryptFields tls passphrase iterations salt nonce tag ciphertext
      | _, _, _, _ => .error (ascii "invalid-encrypted-fields")

def decrypt (tls : MbedTls) (library : Json.Library) (input passphrase : Bytes) :
    Except Bytes Bytes :=
  if passphrase.length < kMinimumPassphraseLength then .error (ascii "passphrase-too-short")
  else
    match library.deserializeJson input with
    | .error _ => .error (ascii "invalid-encrypted-json")
    | .ok doc => decryptDocument tls doc passphrase

def isEncryptedEnvelope (input : Bytes) : Bool :=
  decide (ascii "\"format\"" <:+: cStr input) &&
    decide (ascii "multibus-backup-encrypted" <:+: cStr input)

/-- The library computes the functions of the standards, over a keyed hash and a block cipher. -/
structure Documented (tls : MbedTls) (hmac : Bytes → Bytes → Digest)
    (cipher : Bytes → Gcm.Block → Gcm.Block) : Prop where
  hashes : ∀ key message, tls.hmac key message = some (hmac key message)
  seals : ∀ key nonce aad text, key.length = kKeyLength → nonce ≠ [] →
    tls.cryptAndTag key nonce aad text = some (Gcm.encrypt (cipher key) nonce aad text)
  opens : ∀ key nonce aad tag ciphertext, key.length = kKeyLength → nonce ≠ [] →
    tag.length = kTagLength →
      tls.authDecrypt key nonce aad tag ciphertext =
        Gcm.decrypt (cipher key) nonce aad tag ciphertext
  encodes : ∀ capacity bytes, (Base64.encode bytes).length < capacity →
    tls.base64Encode capacity bytes = some (Base64.encode bytes)
  decodes : ∀ capacity bytes, bytes.length ≤ capacity →
    tls.base64Decode capacity (Base64.encode bytes) = some bytes

variable {tls : MbedTls} {hmac : Bytes → Bytes → Digest} {cipher : Bytes → Gcm.Block → Gcm.Block}

def keyOf (hmac : Bytes → Bytes → Digest) (passphrase salt : Bytes) (iterations : UInt32) :
    Bytes :=
  (Pbkdf2.block (hmac passphrase) salt iterations.toNat 1).toList

def sealOf (hmac : Bytes → Bytes → Digest) (cipher : Bytes → Gcm.Block → Gcm.Block)
    (passphrase : Bytes) (iterations : UInt32) (salt nonce text : Bytes) : Bytes × Bytes :=
  Gcm.encrypt (cipher (keyOf hmac passphrase salt iterations)) nonce kAad text

/-- A document carries a text under a passphrase. -/
def Carries (tls : MbedTls) (hmac : Bytes → Bytes → Digest)
    (cipher : Bytes → Gcm.Block → Gcm.Block) (doc : Json) (passphrase text : Bytes) : Prop :=
  let iterations := (doc.get "iterations").uint32Or 0
  supported doc = true ∧ 100000 ≤ iterations ∧ iterations ≤ 1000000 ∧
    ∃ salt nonce, bytesOf tls doc "salt" = some salt ∧ salt.length = kSaltLength ∧
      bytesOf tls doc "nonce" = some nonce ∧ nonce.length = kNonceLength ∧
      bytesOf tls doc "ciphertext" =
        some (sealOf hmac cipher passphrase iterations salt nonce text).1 ∧
      bytesOf tls doc "tag" = some (sealOf hmac cipher passphrase iterations salt nonce text).2

theorem keyOf_length (hmac : Bytes → Bytes → Digest) (passphrase salt : Bytes)
    (iterations : UInt32) : (keyOf hmac passphrase salt iterations).length = kKeyLength :=
  Vector.length_toList

section
variable (hmac : Bytes → Bytes → Digest) (cipher : Bytes → Gcm.Block → Gcm.Block)
  (passphrase : Bytes) (iterations : UInt32) (salt nonce text : Bytes)

theorem sealOf_length :
    (sealOf hmac cipher passphrase iterations salt nonce text).1.length = text.length :=
  Gcm.encrypt_length _ nonce kAad text

theorem sealOf_tag_length :
    (sealOf hmac cipher passphrase iterations salt nonce text).2.length = kTagLength :=
  Gcm.encrypt_tag_length _ nonce kAad text

theorem sealOf_ne_nil (some : text ≠ []) :
    (sealOf hmac cipher passphrase iterations salt nonce text).1 ≠ [] := by
  intro empty
  have length := sealOf_length hmac cipher passphrase iterations salt nonce text
  rw [empty] at length
  exact some (List.length_eq_zero_iff.mp length.symm)

end

theorem deriveKey_documented (documented : Documented tls hmac cipher) (passphrase salt : Bytes)
    (iterations : UInt32) (output : Digest) (salted : 1 ≤ salt.length)
    (counted : 1 ≤ iterations) :
    Buffers.deriveKey tls.hmac passphrase (some salt) iterations output =
      (Pbkdf2.block (hmac passphrase) salt iterations.toNat 1, true) := by
  have total : tls.hmac = fun key message => some (hmac key message) := by
    funext key message
    exact documented.hashes key message
  rw [total]
  exact Buffers.deriveKey_block hmac passphrase salt iterations output salted counted

theorem encodeBase64_documented (documented : Documented tls hmac cipher) (bytes : Bytes)
    (some : bytes ≠ []) : encodeBase64 tls bytes = .some (Base64.encode bytes) := by
  have filled : bytes.isEmpty = false := List.isEmpty_eq_false_iff.mpr some
  rw [encodeBase64, filled]
  exact documented.encodes _ bytes (by rw [Base64.encode_length]; omega)

theorem decodeBase64_documented (documented : Documented tls hmac cipher) (bytes : Bytes)
    (some : bytes ≠ []) : decodeBase64 tls (Base64.encode bytes) = .some bytes := by
  have filled : (Base64.encode bytes).isEmpty = false := by
    rw [List.isEmpty_eq_false_iff, ne_eq, Base64.encode_eq_nil]
    exact some
  have room : bytes.length ≤ (Base64.encode bytes).length / 4 * 3 + 3 := by
    rw [Base64.encode_length]
    omega
  have long : bytes.length > 0 := List.length_pos_of_ne_nil some
  rw [decodeBase64, filled, documented.decodes _ bytes room]
  simp only [Bool.false_eq_true, if_false, if_pos long]

theorem bytesOf_text (documented : Documented tls hmac cipher) (doc : Json) (name : String)
    (bytes : Bytes) (member : doc.get name = .text (Base64.encode bytes)) (some : bytes ≠ []) :
    bytesOf tls doc name = .some bytes := by
  rw [bytesOf, member, Json.textOr_text, Base64.cStr_encode]
  exact decodeBase64_documented documented bytes some

theorem decryptFields_iff (documented : Documented tls hmac cipher) (passphrase : Bytes)
    (iterations : UInt32) (counted : 1 ≤ iterations) (salt nonce tag ciphertext text : Bytes) :
    decryptFields tls passphrase iterations salt nonce tag ciphertext = .ok text ↔
      salt.length = kSaltLength ∧ nonce.length = kNonceLength ∧ text ≠ [] ∧
        sealOf hmac cipher passphrase iterations salt nonce text = (ciphertext, tag) := by
  have sent := Gcm.decrypt_eq_some_iff (cipher (keyOf hmac passphrase salt iterations)) nonce kAad
    tag ciphertext text
  unfold decryptFields
  split
  · rename_i malformed
    simp only [Bool.or_eq_true, bne_iff_ne, List.isEmpty_iff] at malformed
    constructor
    · intro accepted
      cases accepted
    · rintro ⟨salted, numbered, some, carried⟩
      have tagged := sealOf_tag_length hmac cipher passphrase iterations salt nonce text
      have filled := sealOf_ne_nil hmac cipher passphrase iterations salt nonce text some
      rw [carried] at tagged filled
      simp [salted, numbered, tagged, filled] at malformed
  · rename_i formed
    simp only [Bool.or_eq_true, bne_iff_ne, List.isEmpty_iff, not_or, not_not] at formed
    obtain ⟨⟨⟨salted, numbered⟩, tagged⟩, filled⟩ := formed
    have named : nonce ≠ [] := by
      rintro rfl
      cases numbered
    rw [deriveKey_documented documented passphrase salt iterations _ (by rw [salted]; decide)
      counted]
    dsimp only
    rw [← keyOf, documented.opens _ _ _ _ _ (keyOf_length _ _ _ _) named tagged]
    cases opened : Gcm.decrypt (cipher (keyOf hmac passphrase salt iterations)) nonce kAad tag
        ciphertext with
    | none =>
      rw [opened] at sent
      simp only [reduceCtorEq, false_iff] at sent ⊢
      exact fun carried => sent carried.2.2.2
    | some plaintext =>
      rw [opened, Option.some.injEq] at sent
      unfold sealOf
      rw [← sent]
      dsimp only
      split
      · rename_i empty
        simp only [reduceCtorEq, false_iff]
        rintro ⟨-, -, some, rfl⟩
        exact some (List.isEmpty_iff.mp empty)
      · rename_i some
        rw [Except.ok.injEq]
        constructor
        · rintro rfl
          exact ⟨salted, numbered, fun empty => some (List.isEmpty_iff.mpr empty), rfl⟩
        · exact fun carried => carried.2.2.2

theorem decryptDocument_iff (documented : Documented tls hmac cipher) (doc : Json)
    (passphrase text : Bytes) :
    decryptDocument tls doc passphrase = .ok text ↔
      text ≠ [] ∧ Carries tls hmac cipher doc passphrase text := by
  unfold decryptDocument Carries
  cases supported doc with
  | false => simp
  | true =>
    simp only [Bool.not_true, Bool.false_eq_true, if_false, true_and]
    split
    · rename_i outside
      simp only [Bool.or_eq_true, decide_eq_true_eq] at outside
      constructor
      · intro accepted
        cases accepted
      · rintro ⟨-, least, most, -⟩
        rcases outside with less | more
        · exact absurd least (UInt32.not_le.mpr less)
        · exact absurd most (UInt32.not_le.mpr more)
    · rename_i inside
      simp only [Bool.or_eq_true, decide_eq_true_eq, not_or, UInt32.not_lt, gt_iff_lt] at inside
      have counted : 1 ≤ (doc.get "iterations").uint32Or 0 :=
        UInt32.le_trans (by decide) inside.1
      cases bytesOf tls doc "salt" with
      | none => simp
      | some salt =>
        cases bytesOf tls doc "nonce" with
        | none => simp
        | some nonce =>
          cases bytesOf tls doc "tag" with
          | none => simp
          | some tag =>
            cases bytesOf tls doc "ciphertext" with
            | none => simp
            | some ciphertext =>
              dsimp only
              rw [decryptFields_iff documented passphrase _ counted salt nonce tag ciphertext text]
              simp only [Option.some.injEq, inside, true_and]
              constructor
              · rintro ⟨salted, numbered, some, carried⟩
                exact ⟨some, salt, nonce, rfl, salted, rfl, numbered, by rw [carried],
                  by rw [carried]⟩
              · rintro ⟨some, _, _, rfl, salted, rfl, numbered, sent, tagged⟩
                exact ⟨salted, numbered, some, Prod.ext sent.symm tagged.symm⟩

/-- A decryption accepts a document exactly if it carries the text. -/
theorem decrypt_iff (documented : Documented tls hmac cipher) (library : Json.Library)
    (input passphrase text : Bytes) :
    decrypt tls library input passphrase = .ok text ↔
      kMinimumPassphraseLength ≤ passphrase.length ∧ text ≠ [] ∧
        ∃ doc, library.deserializeJson input = .ok doc ∧
          Carries tls hmac cipher doc passphrase text := by
  unfold decrypt
  split
  · rename_i short
    constructor
    · intro accepted
      cases accepted
    · rintro ⟨long, -⟩
      exact absurd long (Nat.not_le.mpr short)
  · rename_i long
    rw [Nat.not_lt] at long
    cases library.deserializeJson input with
    | error message => simp
    | ok doc =>
      simp only [Except.ok.injEq, exists_eq_left']
      rw [decryptDocument_iff documented doc passphrase text]
      exact ⟨fun accepted => ⟨long, accepted⟩, fun accepted => accepted.2⟩

/-- The members of the document that a text is encrypted to. -/
def sealedMembers (hmac : Bytes → Bytes → Digest) (cipher : Bytes → Gcm.Block → Gcm.Block)
    (plaintext passphrase : Bytes) (random : Random) : List (String × Json) :=
  let salt := fillRandom random 0 kSaltLength
  let nonce := fillRandom random kSaltLength kNonceLength
  let sent := sealOf hmac cipher passphrase kIterations salt nonce plaintext
  envelopeMembers (Base64.encode salt) (Base64.encode nonce) (Base64.encode sent.2)
    (Base64.encode sent.1)

theorem fillRandom_length (random : Random) (first length : Nat) :
    (fillRandom random first length).length = length := by
  rw [fillRandom, List.length_map, List.length_range]

theorem ne_nil_of_length {bytes : Bytes} {n : Nat} (length : bytes.length = n) (positive : 0 < n) :
    bytes ≠ [] :=
  List.ne_nil_of_length_pos (length ▸ positive)

section
variable (documented : Documented tls hmac cipher) (library : Json.Library)
  (plaintext passphrase : Bytes) (random : Random) (some : plaintext ≠ [])
include documented some

theorem encrypt_sealed (long : kMinimumPassphraseLength ≤ passphrase.length)
    (written : library.serializeJsonPretty
      (.object (sealedMembers hmac cipher plaintext passphrase random)) ≠ []) :
    encrypt tls library plaintext passphrase random = .ok (library.serializeJsonPretty
      (.object (sealedMembers hmac cipher plaintext passphrase random))) := by
  have filled : plaintext.isEmpty = false := List.isEmpty_eq_false_iff.mpr some
  have salted := fillRandom_length random 0 kSaltLength
  have numbered := fillRandom_length random kSaltLength kNonceLength
  have tagged := sealOf_tag_length hmac cipher passphrase kIterations
    (fillRandom random 0 kSaltLength) (fillRandom random kSaltLength kNonceLength) plaintext
  have carried := sealOf_ne_nil hmac cipher passphrase kIterations
    (fillRandom random 0 kSaltLength) (fillRandom random kSaltLength kNonceLength) plaintext some
  unfold encrypt
  rw [filled, if_neg Bool.false_ne_true, if_neg (Nat.not_lt.mpr long)]
  dsimp only
  rw [deriveKey_documented documented _ _ _ _ (by rw [salted]; decide) (by decide)]
  dsimp only
  rw [← keyOf, documented.seals _ _ _ _ (keyOf_length _ _ _ _)
    (ne_nil_of_length numbered (by decide)), ← sealOf]
  dsimp only
  rw [encodeBase64_documented documented _ (ne_nil_of_length salted (by decide)),
    encodeBase64_documented documented _ (ne_nil_of_length numbered (by decide)),
    encodeBase64_documented documented _ (ne_nil_of_length tagged (by decide)),
    encodeBase64_documented documented _ carried]
  exact if_neg (mt List.isEmpty_iff.mp written)

theorem carries_sealed :
    Carries tls hmac cipher (.object (sealedMembers hmac cipher plaintext passphrase random))
      passphrase plaintext := by
  have salted := fillRandom_length random 0 kSaltLength
  have numbered := fillRandom_length random kSaltLength kNonceLength
  have counted : ((Json.object (sealedMembers hmac cipher plaintext passphrase random)).get
      "iterations").uint32Or 0 = kIterations := Json.uint32Or_toNat 0 kIterations
  refine ⟨?_, ?_, ?_, fillRandom random 0 kSaltLength,
    fillRandom random kSaltLength kNonceLength, ?_, salted, ?_, numbered, ?_, ?_⟩
  · change (cStr (ascii "multibus-backup-encrypted") == ascii "multibus-backup-encrypted" &&
      Json.uint32Or 0 (.integer 1) == 1 &&
      cStr (ascii "pbkdf2-hmac-sha256") == ascii "pbkdf2-hmac-sha256" &&
      cStr (ascii "aes-256-gcm") == ascii "aes-256-gcm") = true
    decide +kernel
  · rw [counted]
    decide
  · rw [counted]
    decide
  · exact bytesOf_text documented _ _ _ rfl (ne_nil_of_length salted (by decide))
  · exact bytesOf_text documented _ _ _ rfl (ne_nil_of_length numbered (by decide))
  · rw [counted]
    exact bytesOf_text documented _ _ _ rfl (sealOf_ne_nil _ _ _ _ _ _ _ some)
  · rw [counted]
    exact bytesOf_text documented _ _ _ rfl
      (ne_nil_of_length (sealOf_tag_length _ _ _ _ _ _ _) (by decide))

end

theorem isEncryptedEnvelope_sealed (library : Json.Library) (plaintext passphrase : Bytes)
    (random : Random)
    (spelled : library.Spells (sealedMembers hmac cipher plaintext passphrase random)) :
    isEncryptedEnvelope (library.serializeJsonPretty
      (.object (sealedMembers hmac cipher plaintext passphrase random))) = true := by
  obtain ⟨ends, shown⟩ := spelled
  have whole : cStr (library.serializeJsonPretty
      (.object (sealedMembers hmac cipher plaintext passphrase random))) =
      library.serializeJsonPretty
        (.object (sealedMembers hmac cipher plaintext passphrase random)) := by
    rw [cStr, List.takeWhile_eq_self_iff]
    intro c member
    rw [bne_iff_ne]
    rintro rfl
    exact ends member
  obtain ⟨name, value⟩ := shown "format" (ascii "multibus-backup-encrypted")
    List.mem_cons_self (by decide +kernel) (by decide +kernel)
  have quoted : ascii "\"" ++ ascii "format" ++ ascii "\"" = ascii "\"format\"" := by
    decide +kernel
  rw [isEncryptedEnvelope, whole, Bool.and_eq_true, decide_eq_true_eq, decide_eq_true_eq, ← quoted]
  exact ⟨name, value⟩

/-- A backup is decrypted with the passphrase that it was encrypted with; and whatever is accepted
with a passphrase is the text whose ciphertext and tag are there. -/
theorem backup_sealed (documented : Documented tls hmac cipher) (library : Json.Library)
    (passphrase : Bytes) :
    (∀ plaintext random, plaintext ≠ [] → kMinimumPassphraseLength ≤ passphrase.length →
      library.Faithful (.object (sealedMembers hmac cipher plaintext passphrase random)) →
      ∃ output, encrypt tls library plaintext passphrase random = .ok output ∧
        decrypt tls library output passphrase = .ok plaintext) ∧
    (∀ input text, decrypt tls library input passphrase = .ok text →
      ∃ doc, library.deserializeJson input = .ok doc ∧
        Carries tls hmac cipher doc passphrase text) := by
  constructor
  · intro plaintext random some long faithful
    refine ⟨_, encrypt_sealed documented library plaintext passphrase random some long faithful.1,
      ?_⟩
    rw [decrypt_iff documented]
    exact ⟨long, some, _, faithful.2,
      carries_sealed documented plaintext passphrase random some⟩
  · intro input text accepted
    rw [decrypt_iff documented] at accepted
    exact accepted.2.2

/-! The library of the device, as far as its functions are those of their standards. -/

def mbedTls : MbedTls where
  hmac := sha256Hmac
  cryptAndTag key nonce aad text := some (Gcm.encrypt (Aes.encryptBlock key) nonce aad text)
  authDecrypt key nonce aad tag ciphertext :=
    Gcm.decrypt (Aes.encryptBlock key) nonce aad tag ciphertext
  base64Encode capacity bytes :=
    if (Base64.encode bytes).length < capacity then some (Base64.encode bytes) else none
  base64Decode capacity text :=
    (Base64.decode text).filter fun bytes => decide (bytes.length ≤ capacity)

theorem mbedTls_documented : Documented mbedTls Sha256.hmac Aes.encryptBlock where
  hashes key message := rfl
  seals key nonce aad text _ _ := rfl
  opens key nonce aad tag ciphertext _ _ _ := rfl
  encodes capacity bytes room := if_pos room
  decodes capacity bytes room := by
    change (Base64.decode (Base64.encode bytes)).filter _ = some bytes
    rw [Base64.decode_encode, Option.filter_some, if_pos (decide_eq_true room)]

def textLine (name : String) (value : Bytes) : Bytes :=
  ascii "  " ++ (ascii "\"" ++ ascii name ++ ascii "\"") ++ ascii ": \"" ++ value ++ ascii "\""

def envelopeText (salt64 nonce64 tag64 ciphertext64 : Bytes) : Bytes :=
  0x7b :: List.flatMap (fun line => ascii "\r\n" ++ line)
    [textLine "format" (ascii "multibus-backup-encrypted") ++ ascii ",",
      ascii "  \"version\": 1,",
      textLine "kdf" (ascii "pbkdf2-hmac-sha256") ++ ascii ",",
      ascii "  \"iterations\": 150000,",
      textLine "cipher" (ascii "aes-256-gcm") ++ ascii ",",
      textLine "salt" salt64 ++ ascii ",",
      textLine "nonce" nonce64 ++ ascii ",",
      textLine "tag" tag64 ++ ascii ",",
      textLine "ciphertext" ciphertext64,
      ascii "\x7d"]

def sealedText (hmac : Bytes → Bytes → Digest) (cipher : Bytes → Gcm.Block → Gcm.Block)
    (plaintext passphrase : Bytes) (random : Random) : Bytes :=
  let salt := fillRandom random 0 kSaltLength
  let nonce := fillRandom random kSaltLength kNonceLength
  let sent := sealOf hmac cipher passphrase kIterations salt nonce plaintext
  envelopeText (Base64.encode salt) (Base64.encode nonce) (Base64.encode sent.2)
    (Base64.encode sent.1)

/-- A text comes back, over random numbers that count. -/
theorem backup_sealed_counted :
    let library := BackupService.libraryOf
      (.object (sealedMembers Sha256.hmac Aes.encryptBlock (ascii "settings")
        (ascii "correct horse") UInt32.ofNat))
      (sealedText Sha256.hmac Aes.encryptBlock (ascii "settings") (ascii "correct horse")
        UInt32.ofNat)
    ∃ output, encrypt mbedTls library (ascii "settings") (ascii "correct horse") UInt32.ofNat =
        .ok output ∧
      decrypt mbedTls library output (ascii "correct horse") = .ok (ascii "settings") := by
  intro library
  exact (backup_sealed mbedTls_documented library (ascii "correct horse")).1 (ascii "settings")
    UInt32.ofNat (by decide +kernel) (by decide +kernel)
    (BackupService.libraryOf_faithful _ _ (List.cons_ne_nil _ _))

end BackupCrypto

end Config
