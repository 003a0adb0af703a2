import MultibusGateway.Library.Preferences
import MultibusGateway.Security.PasswordHash

/-! The store of the access point's password and of the hash of the administrator's password,
and what is left of it when a change of the password is cut short. -/

namespace Security
open ByteString Preferences
open Sha256 (Digest)

inductive SecurityKey where
  | apPass | adminSalt | adminHash | adminKdf | adminIter | adminInit
  deriving DecidableEq

abbrev SecurityFlash := Flash SecurityKey Entry

/-- The numbers that `esp_random` is going to return. -/
abbrev Random := Nat → UInt32

def alphabet : Bytes := ascii "ABCDEFGHJKLMNPQRSTUVWXYZabcdefghijkmnopqrstuvwxyz23456789"

def generateSecret (length : Nat) (random : Random) : Bytes × Random :=
  ((List.range length).map fun i => byteAt alphabet ((random i).toNat % alphabet.length),
    fun i => random (i + length))

def generateHex (bytes : Nat) (random : Random) : Bytes × Random :=
  (hexOf ((List.range bytes).map fun i => (random i &&& 0xff).toUInt8),
    fun i => random (i + bytes))

theorem generateHex_length (bytes : Nat) (random : Random) :
    (generateHex bytes random).1.length = 2 * bytes := by
  rw [generateHex, hexOf_length, List.length_map, List.length_range]

structure SecurityStore where
  prefs : SecurityFlash := fun _ => none
  initialAdminPassword : Bytes := []

namespace SecurityStore
variable (hmac : Hmac)

def adminInitialized (s : SecurityStore) : Bool := getBool s.prefs .adminInit false

def hasInitialAdminPasswordForDisplay (s : SecurityStore) : Bool :=
  !s.initialAdminPassword.isEmpty && !s.adminInitialized

def adminPuts (salt hash : Bytes) (initialized : Bool) : List (SecurityKey × Entry) :=
  [(.adminSalt, .text salt), (.adminHash, .text hash),
    (.adminKdf, .text PasswordKdfPolicy.kAlgorithm),
    (.adminIter, .uint PasswordKdfPolicy.kCurrentIterations), (.adminInit, .flag initialized)]

/-- The store is opened or not, and no put fails. -/
def begin (opens : Bool) (random : Random) (s : SecurityStore) : SecurityStore × Bool :=
  if !opens then (s, false)
  else
    let (generated, random) := generateSecret 12 random
    let prefs :=
      if isKey s.prefs .apPass then s.prefs
      else (put s.prefs .apPass (.text generated) .stored).1
    if isKey prefs .adminHash then ({ s with prefs := prefs }, true)
    else
      let (initial, random) := generateSecret 16 random
      let salt := (generateHex 16 random).1
      let hash := pbkdf2Sha256 hmac initial salt PasswordKdfPolicy.kCurrentIterations
      if hash.isEmpty then (⟨prefs, initial⟩, false)
      else (⟨putEach (fun _ => true) prefs (adminPuts salt hash false), initial⟩, true)

def verifyAdminPassword (password : Bytes) (s : SecurityStore) : Bool :=
  let salt := getString s.prefs .adminSalt []
  let expected := getString s.prefs .adminHash []
  let storedAlgorithm := getString s.prefs .adminKdf []
  let storedIterations := getUInt s.prefs .adminIter 0
  if salt.isEmpty || expected.isEmpty then false
  else
    let algorithm := PasswordKdfPolicy.storedOrLegacyAlgorithm storedAlgorithm
    let iterations := PasswordKdfPolicy.storedOrLegacyIterations storedIterations
    if !PasswordKdfPolicy.isSupported algorithm iterations then false
    else constantTimeEquals (pbkdf2Sha256 hmac password salt iterations) expected

/-- The store afterwards, and what the call returned unless the power was lost in it. -/
def setAdminPassword (password : Bytes) (random : Random) (faults : Faults SecurityKey) (s : SecurityStore) :
    SecurityStore × Option Bool :=
  if password.length < 10 then (s, some false)
  else
    let salt := (generateHex 16 random).1
    let hash := pbkdf2Sha256 hmac password salt PasswordKdfPolicy.kCurrentIterations
    if hash.isEmpty then (s, some false)
    else
      let puts := faults.reached (adminPuts salt hash true)
      (⟨putEach faults.completes s.prefs puts, []⟩, faults.powerLoss.elim (some true) fun _ => none)

def clear (_ : SecurityStore) : SecurityStore := ⟨fun _ => none, []⟩

end SecurityStore

/-! What a password is checked against. -/

def iterationsOf (prefs : SecurityFlash) : UInt32 :=
  PasswordKdfPolicy.storedOrLegacyIterations (getUInt prefs .adminIter 0)

def supported (prefs : SecurityFlash) : Bool :=
  PasswordKdfPolicy.isSupported
    (PasswordKdfPolicy.storedOrLegacyAlgorithm (getString prefs .adminKdf [])) (iterationsOf prefs)

theorem verifyAdminPassword_iff (hmac : Hmac) (password : Bytes) (s : SecurityStore) :
    s.verifyAdminPassword hmac password = true ↔
      getString s.prefs .adminSalt [] ≠ [] ∧ getString s.prefs .adminHash [] ≠ [] ∧
      supported s.prefs = true ∧
      pbkdf2Sha256 hmac password (getString s.prefs .adminSalt []) (iterationsOf s.prefs) =
        getString s.prefs .adminHash [] := by
  unfold SecurityStore.verifyAdminPassword supported iterationsOf
  dsimp only
  rw [← constantTimeEquals_iff]
  split
  · rename_i missing
    simp only [Bool.or_eq_true, List.isEmpty_iff] at missing
    simp only [Bool.false_eq_true, false_iff]
    intro present
    rcases missing with missing | missing
    · exact present.1 missing
    · exact present.2.1 missing
  · rename_i present
    simp only [Bool.or_eq_true, List.isEmpty_iff, not_or] at present
    split
    · rename_i unsupported
      rw [Bool.not_eq_true'] at unsupported
      simp [unsupported]
    · rename_i known
      rw [Bool.not_eq_true', Bool.not_eq_false] at known
      simp [present, known]

def adminWritten (faults : Faults SecurityKey) (key : SecurityKey) : Bool :=
  faults.written [.adminSalt, .adminHash, .adminKdf, .adminIter, .adminInit] key

def nextSalt (random : Random) : Bytes := (generateHex 16 random).1

theorem nextSalt_ne_nil (random : Random) : nextSalt random ≠ [] := by
  intro empty
  have length := generateHex_length 16 random
  rw [show (generateHex 16 random).1 = [] from empty] at length
  cases length

def Hashes (hmac : Hmac) (password : Bytes) (random : Random) : Prop :=
  pbkdf2Sha256 hmac password (nextSalt random) PasswordKdfPolicy.kCurrentIterations ≠ []

theorem hashes_of_works (hmac : Hmac) (works : ∀ key message, (hmac key message).isSome)
    (password : Bytes) (random : Random) : Hashes hmac password random := by
  refine pbkdf2Sha256_works hmac works password _ _ ?_
  rw [nextSalt, generateHex_length]
  decide

theorem setAdminPassword_eq (hmac : Hmac) (s : SecurityStore) (q : Bytes) (random : Random)
    (faults : Faults SecurityKey) (long : 10 ≤ q.length) (hashes : Hashes hmac q random) :
    s.setAdminPassword hmac q random faults =
      (⟨putEach faults.completes s.prefs (faults.reached (SecurityStore.adminPuts (nextSalt random)
          (pbkdf2Sha256 hmac q (nextSalt random) PasswordKdfPolicy.kCurrentIterations) true)), []⟩,
        faults.powerLoss.elim (some true) fun _ => none) := by
  have computed : (pbkdf2Sha256 hmac q (generateHex 16 random).1
      PasswordKdfPolicy.kCurrentIterations).isEmpty = false := by
    rw [← Bool.not_eq_true, List.isEmpty_iff]
    exact hashes
  unfold SecurityStore.setAdminPassword
  rw [if_neg (by omega)]
  simp only [computed, Bool.false_eq_true, if_false]
  rfl

theorem setAdminPassword_prefs (hmac : Hmac) (s : SecurityStore) (q : Bytes) (random : Random)
    (faults : Faults SecurityKey) (long : 10 ≤ q.length) (hashes : Hashes hmac q random)
    (key : SecurityKey) (value : Entry)
    (member : (key, value) ∈ SecurityStore.adminPuts (nextSalt random)
      (pbkdf2Sha256 hmac q (nextSalt random) PasswordKdfPolicy.kCurrentIterations) true) :
    (s.setAdminPassword hmac q random faults).1.prefs key =
      if adminWritten faults key then some value else s.prefs key := by
  rw [setAdminPassword_eq hmac s q random faults long hashes]
  exact putEach_reached faults s.prefs _ (by simp [SecurityStore.adminPuts]) key value member

theorem setAdminPassword_result (hmac : Hmac) (s : SecurityStore) (q : Bytes) (random : Random)
    (faults : Faults SecurityKey) (long : 10 ≤ q.length) (hashes : Hashes hmac q random) :
    (s.setAdminPassword hmac q random faults).2 = some true ↔ faults.powerLoss = none := by
  rw [setAdminPassword_eq hmac s q random faults long hashes]
  cases faults.powerLoss <;> simp

/-! The salt, the iterations and the hash after a change that may have been cut short, where `p`
is the password before it and `q` the new one. -/

def saltAfter (s : SecurityStore) (random : Random) (faults : Faults SecurityKey) : Bytes :=
  if adminWritten faults .adminSalt then nextSalt random else getString s.prefs .adminSalt []

def iterationsAfter (s : SecurityStore) (faults : Faults SecurityKey) : UInt32 :=
  if adminWritten faults .adminIter then PasswordKdfPolicy.kCurrentIterations else iterationsOf s.prefs

def hashAfter (hmac : Hmac) (s : SecurityStore) (p q : Bytes) (random : Random)
    (faults : Faults SecurityKey) : Bytes :=
  if adminWritten faults .adminHash then
    pbkdf2Sha256 hmac q (nextSalt random) PasswordKdfPolicy.kCurrentIterations
  else pbkdf2Sha256 hmac p (getString s.prefs .adminSalt []) (iterationsOf s.prefs)

theorem verify_after_iff (hmac : Hmac) (s : SecurityStore) (p q x : Bytes) (random : Random)
    (faults : Faults SecurityKey) (stored : s.verifyAdminPassword hmac p = true) (long : 10 ≤ q.length)
    (hashes : Hashes hmac q random) :
    (s.setAdminPassword hmac q random faults).1.verifyAdminPassword hmac x = true ↔
      pbkdf2Sha256 hmac x (saltAfter s random faults) (iterationsAfter s faults) =
        hashAfter hmac s p q random faults := by
  have after := setAdminPassword_prefs hmac s q random faults long hashes
  obtain ⟨salted, hashed, known, expected⟩ := (verifyAdminPassword_iff hmac p s).mp stored
  have salt := getString_written
    (after .adminSalt (.text (nextSalt random)) (by simp [SecurityStore.adminPuts])) []
  have hash := getString_written (after .adminHash
    (.text (pbkdf2Sha256 hmac q (nextSalt random) PasswordKdfPolicy.kCurrentIterations))
    (by simp [SecurityStore.adminPuts])) []
  have kdf := getString_written
    (after .adminKdf (.text PasswordKdfPolicy.kAlgorithm) (by simp [SecurityStore.adminPuts])) []
  have iter := getUInt_written (after .adminIter
    (.uint PasswordKdfPolicy.kCurrentIterations) (by simp [SecurityStore.adminPuts])) 0
  have iterations : iterationsOf (s.setAdminPassword hmac q random faults).1.prefs =
      iterationsAfter s faults := by
    rw [iterationsOf, iter, iterationsAfter]
    cases adminWritten faults .adminIter <;> rfl
  have saltPresent : saltAfter s random faults ≠ [] := by
    unfold saltAfter
    split
    · exact nextSalt_ne_nil random
    · exact salted
  have hashPresent : hashAfter hmac s p q random faults ≠ [] := by
    unfold hashAfter
    split
    · exact hashes
    · rw [expected]
      exact hashed
  have stillKnown : PasswordKdfPolicy.isSupported
      (PasswordKdfPolicy.storedOrLegacyAlgorithm (if adminWritten faults .adminKdf
        then PasswordKdfPolicy.kAlgorithm else getString s.prefs .adminKdf []))
      (iterationsAfter s faults) = true := by
    have current := PasswordKdfPolicy.isSupported_current
    unfold iterationsAfter
    cases adminWritten faults .adminKdf <;> cases adminWritten faults .adminIter
    · exact known
    · exact PasswordKdfPolicy.isSupported_split _ _ _ _ known current
    · exact PasswordKdfPolicy.isSupported_split _ _ _ _ current known
    · exact current
  rw [verifyAdminPassword_iff, supported, salt, hash, kdf, iterations, ← expected]
  exact ⟨fun accepted => accepted.2.2.2, fun equal => ⟨saltPresent, hashPresent, stillKnown, equal⟩⟩

/-- The old password or the new one is accepted, and the new one where the change returned
true. -/
def PasswordKept (hmac : Hmac) (p q : Bytes) (result : SecurityStore × Option Bool) : Prop :=
  (result.1.verifyAdminPassword hmac p = true ∨ result.1.verifyAdminPassword hmac q = true) ∧
    (result.2 = some true → result.1.verifyAdminPassword hmac q = true)

/-- Salt and hash were written both or neither; where the stored iterations are not the current
ones, the iterations were written with them; and where the power was not lost and the password
is another one, the salt was written. -/
def WrittenTogether (s : SecurityStore) (p q : Bytes) (faults : Faults SecurityKey) : Prop :=
  adminWritten faults .adminHash = adminWritten faults .adminSalt ∧
  (iterationsOf s.prefs = PasswordKdfPolicy.kCurrentIterations ∨
    adminWritten faults .adminIter = adminWritten faults .adminSalt) ∧
  (faults.powerLoss = none → adminWritten faults .adminSalt = true ∨ q = p)

def AtHand (s : SecurityStore) (p q : Bytes) (random : Random) (password salt : Bytes)
    (iterations : UInt32) : Prop :=
  (password = p ∨ password = q) ∧
  (salt = nextSalt random ∨ salt = getString s.prefs .adminSalt []) ∧
  (iterations = PasswordKdfPolicy.kCurrentIterations ∨ iterations = iterationsOf s.prefs)

/-- The new salt is fresh, and no two hashes of the passwords at hand collide. -/
def NoCollision (hmac : Hmac) (s : SecurityStore) (p q : Bytes) (random : Random) : Prop :=
  nextSalt random ≠ getString s.prefs .adminSalt [] ∧
  ∀ x salt iterations y salt' iterations', AtHand s p q random x salt iterations →
    AtHand s p q random y salt' iterations' →
    pbkdf2Sha256 hmac x salt iterations = pbkdf2Sha256 hmac y salt' iterations' →
    x = y ∧ salt = salt' ∧ iterations = iterations'

theorem iterationsAfter_together (s : SecurityStore) (faults : Faults SecurityKey)
    (together : iterationsOf s.prefs = PasswordKdfPolicy.kCurrentIterations ∨
      adminWritten faults .adminIter = adminWritten faults .adminSalt) :
    iterationsAfter s faults = if adminWritten faults .adminSalt then
      PasswordKdfPolicy.kCurrentIterations else iterationsOf s.prefs := by
  rw [iterationsAfter]
  rcases together with current | written
  · rw [current, ite_self, ite_self]
  · rw [written]

theorem kept_of_writtenTogether (hmac : Hmac) (s : SecurityStore) (p q : Bytes) (random : Random)
    (faults : Faults SecurityKey) (stored : s.verifyAdminPassword hmac p = true) (long : 10 ≤ q.length)
    (hashes : Hashes hmac q random) (together : WrittenTogether s p q faults) :
    PasswordKept hmac p q (s.setAdminPassword hmac q random faults) := by
  obtain ⟨hash, iter, another⟩ := together
  have after := fun x => verify_after_iff hmac s p q x random faults stored long hashes
  rw [PasswordKept, after p, after q, setAdminPassword_result hmac s q random faults long hashes,
    iterationsAfter_together s faults iter, saltAfter, hashAfter, hash]
  cases salt : adminWritten faults .adminSalt with
  | true => exact ⟨Or.inr rfl, fun _ => rfl⟩
  | false =>
    refine ⟨Or.inl rfl, fun finished => ?_⟩
    rcases another finished with written | same
    · rw [salt] at written
      cases written
    · rw [same]
      rfl

/-- A password that is accepted without a collision is the one whose hash is there, and its salt
and iterations are there too. -/
theorem together_of_accepted (hmac : Hmac) (s : SecurityStore) (p q x : Bytes) (random : Random)
    (faults : Faults SecurityKey) (either : x = p ∨ x = q) (apart : NoCollision hmac s p q random)
    (equal : pbkdf2Sha256 hmac x (saltAfter s random faults) (iterationsAfter s faults) =
      hashAfter hmac s p q random faults) :
    adminWritten faults .adminHash = adminWritten faults .adminSalt ∧
    (iterationsOf s.prefs = PasswordKdfPolicy.kCurrentIterations ∨
      adminWritten faults .adminIter = adminWritten faults .adminSalt) ∧
    (adminWritten faults .adminSalt = true ∨ x = p) := by
  have atHand : AtHand s p q random x (saltAfter s random faults) (iterationsAfter s faults) :=
    ⟨either, ite_eq_or_eq .., ite_eq_or_eq ..⟩
  cases hash : adminWritten faults .adminHash with
  | true =>
    rw [hashAfter, hash, if_pos rfl] at equal
    obtain ⟨-, sameSalt, sameIterations⟩ :=
      apart.2 _ _ _ _ _ _ atHand ⟨Or.inr rfl, Or.inl rfl, Or.inl rfl⟩ equal
    have salt : adminWritten faults .adminSalt = true := by
      by_contra unwritten
      rw [saltAfter, if_neg unwritten] at sameSalt
      exact apart.1 sameSalt.symm
    rw [salt]
    refine ⟨rfl, ?_, Or.inl rfl⟩
    by_cases iter : adminWritten faults .adminIter = true
    · exact Or.inr iter
    · rw [iterationsAfter, if_neg iter] at sameIterations
      exact Or.inl sameIterations
  | false =>
    rw [hashAfter, hash, if_neg Bool.false_ne_true] at equal
    obtain ⟨same, sameSalt, sameIterations⟩ :=
      apart.2 _ _ _ _ _ _ atHand ⟨Or.inl rfl, Or.inr rfl, Or.inr rfl⟩ equal
    have salt : adminWritten faults .adminSalt = false := by
      rw [← Bool.not_eq_true]
      intro written
      rw [saltAfter, if_pos written] at sameSalt
      exact apart.1 sameSalt
    rw [salt]
    refine ⟨rfl, ?_, Or.inr same⟩
    cases iter : adminWritten faults .adminIter with
    | true =>
      rw [iterationsAfter, if_pos iter] at sameIterations
      exact Or.inl sameIterations.symm
    | false => exact Or.inr rfl

theorem writtenTogether_of_kept (hmac : Hmac) (s : SecurityStore) (p q : Bytes) (random : Random)
    (faults : Faults SecurityKey) (stored : s.verifyAdminPassword hmac p = true) (long : 10 ≤ q.length)
    (hashes : Hashes hmac q random) (apart : NoCollision hmac s p q random)
    (kept : PasswordKept hmac p q (s.setAdminPassword hmac q random faults)) :
    WrittenTogether s p q faults := by
  have after := fun x => verify_after_iff hmac s p q x random faults stored long hashes
  rw [PasswordKept, after p, after q,
    setAdminPassword_result hmac s q random faults long hashes] at kept
  have together : adminWritten faults .adminHash = adminWritten faults .adminSalt ∧
      (iterationsOf s.prefs = PasswordKdfPolicy.kCurrentIterations ∨
        adminWritten faults .adminIter = adminWritten faults .adminSalt) := by
    rcases kept.1 with old | new
    · have accepted := together_of_accepted hmac s p q p random faults (Or.inl rfl) apart old
      exact ⟨accepted.1, accepted.2.1⟩
    · have accepted := together_of_accepted hmac s p q q random faults (Or.inr rfl) apart new
      exact ⟨accepted.1, accepted.2.1⟩
  refine ⟨together.1, together.2, fun finished => ?_⟩
  exact (together_of_accepted hmac s p q q random faults (Or.inr rfl) apart (kept.2 finished)).2.2

/-- A change of the password leaves one of the two passwords accepted if what it wrote was
written together, and only if, unless hashes collide. -/
theorem password_kept_iff (hmac : Hmac) (s : SecurityStore) (p q : Bytes) (random : Random)
    (faults : Faults SecurityKey) (stored : s.verifyAdminPassword hmac p = true) (long : 10 ≤ q.length)
    (hashes : Hashes hmac q random) :
    (WrittenTogether s p q faults →
      PasswordKept hmac p q (s.setAdminPassword hmac q random faults)) ∧
    (NoCollision hmac s p q random →
      PasswordKept hmac p q (s.setAdminPassword hmac q random faults) →
      WrittenTogether s p q faults) :=
  ⟨kept_of_writtenTogether hmac s p q random faults stored long hashes,
    writtenTogether_of_kept hmac s p q random faults stored long hashes⟩

theorem adminPuts_stored (prefs : SecurityFlash) (salt hash : Bytes) (initialized : Bool)
    (key : SecurityKey) (value : Entry)
    (member : (key, value) ∈ SecurityStore.adminPuts salt hash initialized) :
    putEach (fun _ => true) prefs (SecurityStore.adminPuts salt hash initialized) key =
      some value := by
  rw [putEach_apply _ _ _ (by simp [SecurityStore.adminPuts]) key value member]
  rfl

/-- A hash whose puts are all stored makes its password accepted, whatever was stored. -/
theorem verify_adminPuts (hmac : Hmac) (prefs : SecurityFlash) (password : Bytes)
    (random : Random) (hashes : Hashes hmac password random) (initialized : Bool)
    (s : SecurityStore)
    (stored : s.prefs = putEach (fun _ => true) prefs (SecurityStore.adminPuts (nextSalt random)
      (pbkdf2Sha256 hmac password (nextSalt random) PasswordKdfPolicy.kCurrentIterations)
      initialized)) :
    s.verifyAdminPassword hmac password = true := by
  have after := adminPuts_stored prefs (nextSalt random)
    (pbkdf2Sha256 hmac password (nextSalt random) PasswordKdfPolicy.kCurrentIterations) initialized
  rw [← stored] at after
  rw [verifyAdminPassword_iff, supported, iterationsOf, getString, getString, getString, getUInt,
    after .adminSalt (.text (nextSalt random)) (by simp [SecurityStore.adminPuts]),
    after .adminHash (.text _) (by simp [SecurityStore.adminPuts]; rfl),
    after .adminKdf (.text PasswordKdfPolicy.kAlgorithm) (by simp [SecurityStore.adminPuts]),
    after .adminIter (.uint PasswordKdfPolicy.kCurrentIterations)
      (by simp [SecurityStore.adminPuts])]
  exact ⟨nextSalt_ne_nil random, hashes, PasswordKdfPolicy.isSupported_current, rfl⟩

theorem verify_setAdminPassword (hmac : Hmac) (s : SecurityStore) (q : Bytes) (random : Random)
    (long : 10 ≤ q.length) (hashes : Hashes hmac q random) :
    (s.setAdminPassword hmac q random {}).1.verifyAdminPassword hmac q = true := by
  refine verify_adminPuts hmac s.prefs q random hashes true _ ?_
  rw [setAdminPassword_eq hmac s q random {} long hashes]
  rfl

theorem setAdminPassword_stored (hmac : Hmac) (s : SecurityStore) (q : Bytes) (random : Random)
    (long : 10 ≤ q.length) (hashes : Hashes hmac q random) :
    getString (s.setAdminPassword hmac q random {}).1.prefs .adminSalt [] = nextSalt random ∧
      iterationsOf (s.setAdminPassword hmac q random {}).1.prefs =
        PasswordKdfPolicy.kCurrentIterations := by
  have after := setAdminPassword_prefs hmac s q random {} long hashes
  have salt := getString_written
    (after .adminSalt (.text (nextSalt random)) (by simp [SecurityStore.adminPuts])) []
  have iter := getUInt_written (after .adminIter
    (.uint PasswordKdfPolicy.kCurrentIterations) (by simp [SecurityStore.adminPuts])) 0
  have written (key : SecurityKey) : adminWritten {} key = true := by
    cases key <;> rfl
  rw [written, if_pos rfl] at salt iter
  rw [iterationsOf, iter]
  exact ⟨salt, rfl⟩

def sha256Hmac : Hmac := fun key message => some (Sha256.hmac key message)

/-! A keyed hash for runs on fixed inputs, that later iterations leave as the first one made it. -/

def firstHmac : Hmac := fun key message =>
  some (if message.length = 32 then Vector.replicate 32 0
    else Vector.ofFn fun i => if i.val < 16 then byteAt message i else byteAt key (i - 16))

theorem stretch_firstHmac (password : Bytes) (rounds : Nat) (u t : Digest) :
    stretch firstHmac password rounds u t = some t := by
  induction rounds generalizing u t with
  | zero => rfl
  | succ rounds ih =>
    have unchanged : Vector.zipWith (· ^^^ ·) t (Vector.replicate 32 (0 : UInt8)) = t := by
      ext i bound
      simp
    rw [stretch, firstHmac]
    simp only [Vector.length_toList, if_true, unchanged]
    exact ih _ t

theorem pbkdf2Sha256_firstHmac (password salt : Bytes) (iterations : UInt32) :
    pbkdf2Sha256 firstHmac password salt iterations = pbkdf2Sha256 firstHmac password salt 1 := by
  simp only [pbkdf2Sha256, stretch_firstHmac, firstHmac]

theorem noCollision_firstHmac (s : SecurityStore)
    (oldSalt : getString s.prefs .adminSalt [] = nextSalt fun _ => 0)
    (current : iterationsOf s.prefs = PasswordKdfPolicy.kCurrentIterations) :
    NoCollision firstHmac s (ascii "first password") (ascii "second password") fun _ => 17 := by
  have apart : ∀ x ∈ [ascii "first password", ascii "second password"],
      ∀ salt ∈ [nextSalt fun _ => 17, nextSalt fun _ => 0],
      ∀ y ∈ [ascii "first password", ascii "second password"],
      ∀ salt' ∈ [nextSalt fun _ => 17, nextSalt fun _ => 0],
      pbkdf2Sha256 firstHmac x salt 1 = pbkdf2Sha256 firstHmac y salt' 1 →
        x = y ∧ salt = salt' := by
    decide +kernel
  rw [NoCollision, oldSalt]
  refine ⟨by decide +kernel, fun x salt iterations y salt' iterations' first second same => ?_⟩
  rw [AtHand, oldSalt, current, or_self] at first second
  rw [pbkdf2Sha256_firstHmac x, pbkdf2Sha256_firstHmac y] at same
  obtain ⟨password, salts⟩ := apart x (by simpa using first.1) salt (by simpa using first.2.1) y
    (by simpa using second.1) salt' (by simpa using second.2.1) same
  exact ⟨password, salts, first.2.2.trans second.2.2.symm⟩

/-- The power is lost between the salt and the hash of a second password. -/
theorem password_kept_iff_firstHmac :
    let p := ascii "first password"
    let q := ascii "second password"
    let s := (({} : SecurityStore).setAdminPassword firstHmac p (fun _ => 0) {}).1
    let faults : Faults SecurityKey := { powerLoss := some 1 }
    PasswordKept firstHmac p q (s.setAdminPassword firstHmac q (fun _ => 17) faults) ↔
      WrittenTogether s p q faults := by
  intro p q s faults
  have hashes := hashes_of_works firstHmac fun _ _ => rfl
  have stored := verify_setAdminPassword firstHmac {} p (fun _ => 0) (by decide) (hashes _ _)
  have old := setAdminPassword_stored firstHmac {} p (fun _ => 0) (by decide) (hashes _ _)
  obtain ⟨enough, needed⟩ := password_kept_iff firstHmac s p q (fun _ => 17) faults stored
    (by decide) (hashes _ _)
  exact ⟨needed (noCollision_firstHmac s old.1 old.2), enough⟩

/-- The power is lost between the new salt and the new hash, and neither password is accepted. -/
theorem salt_without_hash :
    let p := ascii "first password"
    let q := ascii "second password"
    let s := (({} : SecurityStore).setAdminPassword firstHmac p (fun _ => 0) {}).1
    s.verifyAdminPassword firstHmac p = true ∧ 10 ≤ q.length ∧
      Hashes firstHmac q (fun _ => 17) ∧
      ¬ PasswordKept firstHmac p q
        (s.setAdminPassword firstHmac q (fun _ => 17) { powerLoss := some 1 }) := by
  intro p q s
  have hashes := hashes_of_works firstHmac fun _ _ => rfl
  have stored := verify_setAdminPassword firstHmac {} p (fun _ => 0) (by decide) (hashes _ _)
  refine ⟨stored, by decide, hashes _ _, ?_⟩
  have oldSalt : getString s.prefs .adminSalt [] = nextSalt fun _ => 0 :=
    (setAdminPassword_stored firstHmac {} p (fun _ => 0) (by decide) (hashes _ _)).1
  have after := fun x => verify_after_iff firstHmac s p q x (fun _ => 17) { powerLoss := some 1 }
    stored (by decide) (hashes _ _)
  have salt : adminWritten { powerLoss := some 1 } .adminSalt = true := by decide
  have hash : adminWritten { powerLoss := some 1 } .adminHash = false := by decide
  have rejected : ∀ x ∈ [p, q], pbkdf2Sha256 firstHmac x (nextSalt fun _ => 17) 1 ≠
      pbkdf2Sha256 firstHmac p (nextSalt fun _ => 0) 1 := by
    decide +kernel
  rintro ⟨accepted, -⟩
  simp only [after, hashAfter, saltAfter, oldSalt, salt, hash, if_true, Bool.false_eq_true,
    if_false] at accepted
  rw [pbkdf2Sha256_firstHmac p _ (iterationsAfter _ _),
    pbkdf2Sha256_firstHmac q _ (iterationsAfter _ _), pbkdf2Sha256_firstHmac p _ (iterationsOf _)]
    at accepted
  rcases accepted with old | new
  · exact rejected p List.mem_cons_self old
  · exact rejected q (List.mem_cons_of_mem _ List.mem_cons_self) new

end Security
