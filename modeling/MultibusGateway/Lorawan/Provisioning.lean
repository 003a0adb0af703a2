import MultibusGateway.Config.BackupService

/-! The provisioning of the radio: its EUIs and its key from the texts of the configuration, with
what is put in the place of texts that are no good. -/

namespace Lorawan
open ByteString Config

/-! Texts of hexadecimal digits. -/

def hexNibble (c : UInt8) : Option UInt8 :=
  if c ≥ 0x30 && c ≤ 0x39 then some (c - 0x30)
  else if c ≥ 0x61 && c ≤ 0x66 then some (c - 0x61 + 10)
  else if c ≥ 0x41 && c ≤ 0x46 then some (c - 0x41 + 10)
  else none

/-- `value = (value << 4) | nibble` over the digits. -/
def pushNibbles (value : UInt64) : Bytes → Option UInt64
  | [] => some value
  | c :: rest =>
    match hexNibble c with
    | some nibble => pushNibbles (value <<< 4 ||| nibble.toUInt64) rest
    | none => none

def parseEui (text : Bytes) : Option UInt64 :=
  if isHexString text 16 then pushNibbles 0 text else none

def keyBytes : Bytes → Option Bytes
  | [] => some []
  | [_] => none
  | high :: low :: rest =>
    match hexNibble high, hexNibble low with
    | some high, some low => (keyBytes rest).map ((high <<< 4 ||| low) :: ·)
    | _, _ => none

def parseKey (text : Bytes) : Option Bytes :=
  if isHexString text 32 then keyBytes text else none

/-- `"0123456789ABCDEF"` -/
def hexDigits : Bytes := ascii "0123456789ABCDEF"

def upperHex (bytes : Bytes) : Bytes :=
  bytes.flatMap fun b : UInt8 =>
    [byteAt hexDigits (b >>> 4).toNat, byteAt hexDigits (b &&& 0x0f).toNat]

/-- The random bytes are a parameter. -/
def generateAppKey (random : Vector UInt8 16) : Bytes := upperHex random.toList

/-- The three fields are looked at one by one; the flag says whether one was replaced. -/
def ensureLoRaWanConfig (random : Vector UInt8 16) (config : LoRaWanConfig) :
    LoRaWanConfig × Bool :=
  let joinValid := isHexString config.joinEui 16
  let keyValid := isHexString config.appKey 32
  let portValid :=
    !(config.extensionFPort == 0 || config.extensionFPort == LORAWAN_COMPATIBILITY_FPORT)
  ({ config with
      joinEui := if joinValid then config.joinEui else MULTIBUS_DEFAULT_JOIN_EUI
      appKey := if keyValid then config.appKey else generateAppKey random
      extensionFPort :=
        if portValid then config.extensionFPort else LORAWAN_DEFAULT_EXTENSION_FPORT },
    !joinValid || !keyValid || !portValid)

/-! The identity of the device. -/

def hardwareMac48 (efuseMac : UInt64) : UInt64 := efuseMac &&& 0x0000ffffffffffff

def devEuiBytes (mac : UInt64) : Bytes :=
  [0x02, (mac >>> 40).toUInt8, (mac >>> 32).toUInt8, (mac >>> 24).toUInt8, (mac >>> 16).toUInt8,
    (mac >>> 8).toUInt8, mac.toUInt8, 0x01]

def devEui (efuseMac : UInt64) : Bytes := upperHex (devEuiBytes (hardwareMac48 efuseMac))

structure Credentials where
  joinEui : UInt64
  devEui : UInt64
  appKey : Bytes
  deriving DecidableEq

def parseProvisioning (config : LoRaWanConfig) (devEuiText : Bytes) : Option Credentials :=
  if !validateLoRaWanConfig config || !isHexString devEuiText 16 then none
  else
    match parseEui config.joinEui, parseEui devEuiText, parseKey config.appKey with
    | some joinEui, some devEui, some appKey => some ⟨joinEui, devEui, appKey⟩
    | _, _, _ => none

/-! The fingerprint that the state in flash is kept under. -/

def mixByte (hash : UInt32) (value : UInt8) : UInt32 := (hash ^^^ value.toUInt32) * 16777619

def mix (hash : UInt32) (value : Bytes) : UInt32 := mixByte (value.foldl mixByte hash) 0xff

def identityFingerprint (config : LoRaWanConfig) (devEui : Bytes) : UInt32 :=
  mix (mix (mix (mix 2166136261 (ascii "lorawan-state-v1")) devEui) config.joinEui) config.appKey

theorem hexNibble_isSome (c : UInt8) : (hexNibble c).isSome = isHexDigit c := by
  unfold hexNibble isHexDigit
  by_cases digit : (c ≥ 0x30 && c ≤ 0x39) = true
  · simp only [digit, if_true, Option.isSome_some, Bool.true_or]
  · by_cases lower : (c ≥ 0x61 && c ≤ 0x66) = true
    · simp only [digit, lower, Bool.false_eq_true, if_false, if_true, Option.isSome_some,
        Bool.true_or, Bool.or_true]
    · by_cases upper : (c ≥ 0x41 && c ≤ 0x46) = true <;>
        simp only [digit, lower, upper, Bool.false_eq_true, if_false, if_true,
          Option.isSome_some, Option.isSome_none, Bool.or_true, Bool.or_false]

theorem pushNibbles_isSome (text : Bytes) (value : UInt64) (hex : text.all isHexDigit = true) :
    (pushNibbles value text).isSome = true := by
  induction text generalizing value with
  | nil => rfl
  | cons c rest ih =>
    obtain ⟨first, others⟩ := Bool.and_eq_true_iff.mp (List.all_cons.symm.trans hex)
    rw [← hexNibble_isSome] at first
    obtain ⟨nibble, read⟩ := Option.isSome_iff_exists.mp first
    rw [pushNibbles, read]
    exact ih _ others

theorem keyBytes_isSome (text : Bytes) (even : text.length % 2 = 0)
    (hex : text.all isHexDigit = true) : (keyBytes text).isSome = true := by
  induction text using keyBytes.induct with
  | case1 => rfl
  | case2 c => simp at even
  | case3 high low rest h l readHigh readLow ih =>
    have others := (Bool.and_eq_true_iff.mp (Bool.and_eq_true_iff.mp hex).2).2
    have left : rest.length % 2 = 0 := by
      simp only [List.length_cons] at even
      omega
    rw [keyBytes, readHigh, readLow]
    simpa using ih left others
  | case4 high low rest unread =>
    obtain ⟨first, next⟩ := Bool.and_eq_true_iff.mp hex
    have second := (Bool.and_eq_true_iff.mp next).1
    rw [← hexNibble_isSome] at first second
    obtain ⟨h, readHigh⟩ := Option.isSome_iff_exists.mp first
    obtain ⟨l, readLow⟩ := Option.isSome_iff_exists.mp second
    exact absurd readLow (unread h l readHigh)

theorem parseEui_isSome (text : Bytes) : (parseEui text).isSome = isHexString text 16 := by
  unfold parseEui
  cases hex : isHexString text 16 with
  | false => rfl
  | true => exact pushNibbles_isSome text 0 (Bool.and_eq_true_iff.mp hex).2

theorem parseKey_isSome (text : Bytes) : (parseKey text).isSome = isHexString text 32 := by
  unfold parseKey
  cases hex : isHexString text 32 with
  | false => rfl
  | true =>
    obtain ⟨size, digits⟩ := Bool.and_eq_true_iff.mp hex
    have length : text.length = 32 := beq_iff_eq.mp size
    exact keyBytes_isSome text (by omega) digits

/-! What is written as digits is read back. -/

theorem hexNibble_digit : ∀ n < 16, hexNibble (byteAt hexDigits n) = some (UInt8.ofNat n) := by
  decide +kernel

theorem hexDigit_digit (n : Nat) (small : n < 16) : isHexDigit (byteAt hexDigits n) = true := by
  rw [← hexNibble_isSome, hexNibble_digit n small]
  rfl

theorem high_lt (b : UInt8) : (b >>> 4).toNat < 16 := by
  have bound := b.toNat_lt
  rw [UInt8.toNat_shiftRight]
  change b.toNat >>> 4 < 16
  rw [Nat.shiftRight_eq_div_pow]
  omega

theorem low_lt (b : UInt8) : (b &&& 0x0f).toNat < 16 := by
  rw [UInt8.toNat_and]
  exact Nat.lt_succ_of_le Nat.and_le_right

theorem join_nibbles (b : UInt8) : (b >>> 4) <<< 4 ||| (b &&& 0x0f) = b := by
  apply UInt8.eq_of_toBitVec_eq
  simp only [UInt8.toBitVec_or, UInt8.toBitVec_shiftLeft, UInt8.toBitVec_shiftRight,
    UInt8.toBitVec_and]
  generalize b.toBitVec = v
  revert v
  decide +kernel

theorem upperHex_length (bytes : Bytes) : (upperHex bytes).length = 2 * bytes.length := by
  induction bytes with
  | nil => rfl
  | cons b rest ih =>
    rw [upperHex, List.flatMap_cons, List.length_append, ← upperHex, ih]
    simp only [List.length_cons, List.length_nil]
    omega

theorem upperHex_digits (bytes : Bytes) : (upperHex bytes).all isHexDigit = true := by
  rw [upperHex, List.all_flatMap, List.all_eq_true]
  intro b _
  rw [List.all_cons, List.all_cons, hexDigit_digit _ (high_lt b), hexDigit_digit _ (low_lt b)]
  rfl

theorem isHexString_upperHex (bytes : Bytes) (length : Nat) (size : 2 * bytes.length = length) :
    isHexString (upperHex bytes) length = true := by
  simp [isHexString, upperHex_digits, upperHex_length, size]

theorem keyBytes_upperHex (bytes : Bytes) : keyBytes (upperHex bytes) = some bytes := by
  induction bytes with
  | nil => rfl
  | cons b rest ih =>
    rw [upperHex, List.flatMap_cons, ← upperHex]
    change keyBytes (_ :: _ :: upperHex rest) = _
    rw [keyBytes, hexNibble_digit _ (high_lt b), hexNibble_digit _ (low_lt b)]
    simp only [ih, Option.map_some, UInt8.ofNat_toNat, join_nibbles]

theorem isHexString_generateAppKey (random : Vector UInt8 16) :
    isHexString (generateAppKey random) 32 = true :=
  isHexString_upperHex _ 32 (by simp)

theorem parseKey_generateAppKey (random : Vector UInt8 16) :
    parseKey (generateAppKey random) = some random.toList := by
  rw [parseKey, isHexString_generateAppKey, if_pos rfl]
  exact keyBytes_upperHex random.toList

theorem push_nibble_toNat (value : UInt64) (nibble : UInt8) (small : nibble.toNat < 16) :
    (value <<< 4 ||| nibble.toUInt64).toNat = value.toNat * 16 % 2 ^ 64 + nibble.toNat := by
  have split : value.toNat * 16 % 2 ^ 64 = (value.toNat % 2 ^ 60) <<< 4 := by
    rw [Nat.shiftLeft_eq]
    omega
  rw [UInt64.toNat_or, UInt64.toNat_shiftLeft, UInt8.toNat_toUInt64]
  change value.toNat <<< 4 % 2 ^ 64 ||| nibble.toNat = _
  rw [Nat.shiftLeft_eq]
  change value.toNat * 16 % 2 ^ 64 ||| nibble.toNat = _
  rw [split, Nat.or_comm, shift_or _ _ 4 small, Nat.shiftLeft_eq]

theorem push_nibbles (value : UInt64) (b : UInt8) :
    (value <<< 4 ||| (b >>> 4).toUInt64) <<< 4 ||| (b &&& 0x0f).toUInt64 =
      value <<< 8 ||| b.toUInt64 := by
  have high : (b >>> 4).toNat = b.toNat / 16 := by
    rw [UInt8.toNat_shiftRight]
    exact Nat.shiftRight_eq_div_pow _ 4
  have low : (b &&& 0x0f).toNat = b.toNat % 16 := by
    rw [UInt8.toNat_and]
    exact Nat.and_two_pow_sub_one_eq_mod _ 4
  apply UInt64.toNat_inj.mp
  rw [push_nibble_toNat _ _ (low_lt b), push_nibble_toNat _ _ (high_lt b), push_byte_toNat,
    high, low]
  omega

theorem pushNibbles_upperHex (bytes : Bytes) (value : UInt64) :
    pushNibbles value (upperHex bytes) = some (accumulate value bytes) := by
  induction bytes generalizing value with
  | nil => rfl
  | cons b rest ih =>
    rw [upperHex, List.flatMap_cons, ← upperHex]
    change pushNibbles value (_ :: _ :: upperHex rest) = _
    simp only [pushNibbles, hexNibble_digit _ (high_lt b), hexNibble_digit _ (low_lt b),
      UInt8.ofNat_toNat, push_nibbles, ih]
    rfl

theorem parseEui_upperHex (bytes : Bytes) (size : bytes.length = 8) :
    parseEui (upperHex bytes) = some (ofBigEndian bytes) := by
  rw [parseEui, isHexString_upperHex bytes 16 (by omega), if_pos rfl]
  exact pushNibbles_upperHex bytes 0

theorem parseEui_devEui (efuseMac : UInt64) :
    parseEui (devEui efuseMac) = some (ofBigEndian (devEuiBytes (hardwareMac48 efuseMac))) :=
  parseEui_upperHex _ rfl

/-- The parsers find nothing wrong that the checks before them have let through. -/
theorem parseProvisioning_isSome (config : LoRaWanConfig) (devEuiText : Bytes) :
    (parseProvisioning config devEuiText).isSome =
      (validateLoRaWanConfig config && isHexString devEuiText 16) := by
  unfold parseProvisioning
  cases valid : validateLoRaWanConfig config with
  | false => rfl
  | true =>
    cases hex : isHexString devEuiText 16 with
    | false => rfl
    | true =>
      simp only [validateLoRaWanConfig, Bool.and_eq_true] at valid
      obtain ⟨⟨⟨join, key⟩, _⟩, _⟩ := valid
      rw [← parseEui_isSome] at join hex
      rw [← parseKey_isSome] at key
      obtain ⟨joinEui, readJoin⟩ := Option.isSome_iff_exists.mp join
      obtain ⟨devEui, readDev⟩ := Option.isSome_iff_exists.mp hex
      obtain ⟨appKey, readKey⟩ := Option.isSome_iff_exists.mp key
      rw [readJoin, readDev, readKey]
      rfl

theorem isHexString_defaultJoinEui : isHexString MULTIBUS_DEFAULT_JOIN_EUI 16 = true := by
  decide +kernel

theorem validate_ensured (random : Vector UInt8 16) (config : LoRaWanConfig) :
    validateLoRaWanConfig (ensureLoRaWanConfig random config).1 = true := by
  have join : isHexString (ensureLoRaWanConfig random config).1.joinEui 16 = true := by
    unfold ensureLoRaWanConfig
    dsimp only
    split
    case isTrue valid => exact valid
    case isFalse => exact isHexString_defaultJoinEui
  have key : isHexString (ensureLoRaWanConfig random config).1.appKey 32 = true := by
    unfold ensureLoRaWanConfig
    dsimp only
    split
    case isTrue valid => exact valid
    case isFalse => exact isHexString_generateAppKey random
  have port : ((ensureLoRaWanConfig random config).1.extensionFPort == 0) = false ∧
      ((ensureLoRaWanConfig random config).1.extensionFPort == LORAWAN_COMPATIBILITY_FPORT) =
        false := by
    unfold ensureLoRaWanConfig
    dsimp only
    split
    case isTrue valid =>
      exact Bool.or_eq_false_iff.mp ((Bool.not_eq_true' _).mp valid)
    case isFalse => exact ⟨rfl, rfl⟩
  rw [validateLoRaWanConfig, join, key, bne, bne, port.1, port.2]
  rfl

theorem parseEui_ensured (random : Vector UInt8 16) (config : LoRaWanConfig) :
    parseEui (ensureLoRaWanConfig random config).1.joinEui =
      (parseEui config.joinEui).or (parseEui MULTIBUS_DEFAULT_JOIN_EUI) := by
  unfold ensureLoRaWanConfig
  have same := parseEui_isSome config.joinEui
  dsimp only
  cases read : parseEui config.joinEui with
  | none =>
    rw [read] at same
    rw [← same, Option.isSome_none, if_neg Bool.false_ne_true, Option.none_or]
  | some value =>
    rw [read] at same
    rw [← same, if_pos Option.isSome_some, read, Option.some_or]

theorem parseKey_ensured (random : Vector UInt8 16) (config : LoRaWanConfig) :
    parseKey (ensureLoRaWanConfig random config).1.appKey =
      (parseKey config.appKey).or (some random.toList) := by
  unfold ensureLoRaWanConfig
  have same := parseKey_isSome config.appKey
  dsimp only
  cases read : parseKey config.appKey with
  | none =>
    rw [read] at same
    rw [← same, Option.isSome_none, if_neg Bool.false_ne_true, Option.none_or,
      parseKey_generateAppKey]
  | some value =>
    rw [read] at same
    rw [← same, if_pos Option.isSome_some, read, Option.some_or]

theorem ensureLoRaWanConfig_unchanged (random : Vector UInt8 16) (config : LoRaWanConfig) :
    (ensureLoRaWanConfig random config).2 = false ↔ validateLoRaWanConfig config = true := by
  simp only [ensureLoRaWanConfig, validateLoRaWanConfig, bne]
  cases isHexString config.joinEui 16 <;> cases isHexString config.appKey 32 <;>
    cases config.extensionFPort == 0 <;>
    cases config.extensionFPort == LORAWAN_COMPATIBILITY_FPORT <;> simp

theorem ensureLoRaWanConfig_valid (random : Vector UInt8 16) (config : LoRaWanConfig)
    (valid : validateLoRaWanConfig config = true) :
    (ensureLoRaWanConfig random config).1 = config := by
  simp only [validateLoRaWanConfig, Bool.and_eq_true, bne_iff_ne, ne_eq] at valid
  obtain ⟨⟨⟨join, key⟩, zero⟩, compatibility⟩ := valid
  simp [ensureLoRaWanConfig, join, key, zero, compatibility]

/-- What the application makes sure of at its start is what the radio needs: whatever is stored,
the radio is provisioned, under the EUI of its hardware address, with the join EUI and the key
that the texts say, or the default and the random bytes where they say nothing; and the
configuration is replaced just when it would not be let through. -/
theorem radio_provisioned (random : Vector UInt8 16) (config : LoRaWanConfig)
    (efuseMac : UInt64) :
    (∃ credentials,
      parseProvisioning (ensureLoRaWanConfig random config).1 (devEui efuseMac) =
          some credentials ∧
        credentials.devEui = ofBigEndian (devEuiBytes (hardwareMac48 efuseMac)) ∧
        some credentials.joinEui =
          (parseEui config.joinEui).or (parseEui MULTIBUS_DEFAULT_JOIN_EUI) ∧
        some credentials.appKey = (parseKey config.appKey).or (some random.toList)) ∧
      ((ensureLoRaWanConfig random config).2 = false ↔ validateLoRaWanConfig config = true) ∧
      (validateLoRaWanConfig config = true → (ensureLoRaWanConfig random config).1 = config) := by
  refine ⟨?_, ensureLoRaWanConfig_unchanged random config,
    ensureLoRaWanConfig_valid random config⟩
  have hex : isHexString (devEui efuseMac) 16 = true := isHexString_upperHex _ 16 rfl
  have parsed := parseProvisioning_isSome (ensureLoRaWanConfig random config).1 (devEui efuseMac)
  rw [validate_ensured, hex] at parsed
  unfold parseProvisioning at parsed ⊢
  rw [validate_ensured, hex, parseEui_devEui, parseEui_ensured, parseKey_ensured] at parsed ⊢
  cases join : (parseEui config.joinEui).or (parseEui MULTIBUS_DEFAULT_JOIN_EUI) with
  | none =>
    rw [join] at parsed
    cases parsed
  | some joinEui =>
    cases key : (parseKey config.appKey).or (some random.toList) with
    | none =>
      rw [join, key] at parsed
      cases parsed
    | some appKey => exact ⟨_, rfl, rfl, rfl, rfl⟩

end Lorawan
