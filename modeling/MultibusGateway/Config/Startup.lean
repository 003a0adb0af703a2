import Mathlib.Data.List.TakeWhile
import MultibusGateway.Config.ConfigStore
import MultibusGateway.Library.Execution
import MultibusGateway.Lorawan.Provisioning

/-! The configuration at the start of the application. A boot loads it, or starts with the defaults,
replaces what the radio cannot use, and saves it if anything is new. Boots settle: once a save was
whole, later boots run the same configuration and write nothing. -/

namespace Config
open ByteString Preferences Execution Lorawan

/-- The last three bytes of the hardware address. -/
def deviceSuffix (efuseMac : UInt64) : Bytes :=
  upperHex [(efuseMac >>> 16).toUInt8, (efuseMac >>> 8).toUInt8, efuseMac.toUInt8]

def toLowerCase (text : Bytes) : Bytes :=
  text.map fun c => if 0x41 ≤ c ∧ c ≤ 0x5a then c + 0x20 else c

def defaultHostname (efuseMac : UInt64) : Bytes :=
  toLowerCase (ascii "multibus-" ++ deviceSuffix efuseMac)

def initialConfig (efuseMac : UInt64) : DeviceConfig where
  network :=
    { hostname := defaultHostname efuseMac
      friendlyName := ascii "MultiBus Gateway" }

/-- A boot: the random bytes that it would make a key of, and what goes wrong in its save. -/
structure Boot where
  random : Vector UInt8 16
  faults : Faults ConfigKey := {}

def loadOrCreate (efuseMac : UInt64) (random : Vector UInt8 16) (prefs : ConfigFlash) :
    DeviceConfig × ConfigStore × Bool :=
  let (loaded, store, succeeded) := ({ prefs := prefs } : ConfigStore).load {}
  let config := if succeeded then loaded else initialConfig efuseMac
  let (lorawan, ensured) := ensureLoRaWanConfig random config.lorawan
  ({ config with lorawan := lorawan }, store, !succeeded || ensured || store.needsSave)

/-- The flash after the start of the application, and the configuration that it goes on with, unless
the start failed or the power was lost in it. -/
def beginConfig (efuseMac : UInt64) (boot : Boot) (prefs : ConfigFlash) :
    ConfigFlash × Option DeviceConfig :=
  let (config, store, configChanged) := loadOrCreate efuseMac boot.random prefs
  let (store, saved) := if configChanged then store.save config boot.faults else (store, some true)
  (store.prefs,
    if saved = some true ∧ validateConfig config.components = .ok ∧
        validateLoRaWanConfig config.lorawan = true
    then some config else none)

def step (efuseMac : UInt64) (prefs : ConfigFlash) (boot : Boot) : ConfigFlash :=
  (beginConfig efuseMac boot prefs).1

def Ready (config : DeviceConfig) : Prop :=
  saveable config = true ∧ validateLoRaWanConfig config.lorawan = true

def Adopted (prefs : ConfigFlash) (config : DeviceConfig) : Prop :=
  (({ prefs := prefs } : ConfigStore).load {}) = (config, { prefs := prefs }, true) ∧ Ready config

theorem Adopted.beginConfig {prefs : ConfigFlash} {config : DeviceConfig}
    (adopted : Adopted prefs config) (efuseMac : UInt64) (boot : Boot) :
    Config.beginConfig efuseMac boot prefs = (prefs, some config) := by
  obtain ⟨loads, valid, radio⟩ := adopted
  have unchanged := (ensureLoRaWanConfig_unchanged boot.random config.lorawan).mpr radio
  have same := ensureLoRaWanConfig_valid boot.random config.lorawan radio
  have components : validateConfig config.components = .ok := by
    simp only [saveable, Bool.and_eq_true, beq_iff_eq] at valid
    exact valid.1.2
  have created : loadOrCreate efuseMac boot.random prefs = (config, { prefs := prefs }, false) := by
    rw [loadOrCreate, loads]
    simp [unchanged, same]
  rw [Config.beginConfig, created]
  simp [components, radio]

/-! What a boot makes usable. -/

/-- The texts in flash end where their first zero byte would be. -/
def Plain (prefs : ConfigFlash) : Prop :=
  ∀ key text, prefs key = some (.text text) → (0 : UInt8) ∉ text

def PlainFields (config : DeviceConfig) : Prop := ∀ key, cut (field config key) = field config key

theorem cStr_of_plain (text : Bytes) (plain : (0 : UInt8) ∉ text) : cStr text = text := by
  rw [cStr, List.takeWhile_eq_self_iff]
  intro c member
  rw [bne_iff_ne]
  rintro rfl
  exact plain member

theorem plain_of_isHexString (text : Bytes) (length : ℕ) (hex : isHexString text length = true) :
    (0 : UInt8) ∉ text := by
  simp only [isHexString, Bool.and_eq_true, List.all_eq_true] at hex
  intro member
  exact absurd (hex.2 0 member) (by decide)

theorem plain_default : PlainFields {} := by
  intro key
  cases key <;> decide +kernel

theorem plain_initialConfig (efuseMac : UInt64) : PlainFields (initialConfig efuseMac) := by
  have digits (bytes : Bytes) : ∀ c ∈ upperHex bytes, isHexDigit c = true :=
    List.all_eq_true.mp (upperHex_digits bytes)
  have lower (c : UInt8) (some_ : c ≠ 0) :
      (if 0x41 ≤ c ∧ c ≤ 0x5a then c + 0x20 else c) ≠ 0 := by
    split
    · rename_i letter
      have small := UInt8.le_iff_toNat_le.mp letter.2
      rw [← UInt8.toNat_inj.ne, UInt8.toNat_add]
      simp at small ⊢
      omega
    · exact some_
  have host : cStr (defaultHostname efuseMac) = defaultHostname efuseMac := by
    apply cStr_of_plain
    rw [defaultHostname, toLowerCase, List.mem_map]
    rintro ⟨c, among, zero⟩
    refine lower c ?_ zero
    rintro rfl
    rcases List.mem_append.mp among with text | suffix_
    · revert text
      decide +kernel
    · exact absurd (digits _ 0 suffix_) (by decide)
  intro key
  cases key with
  | hostname => exact congrArg Entry.text host
  | friendly =>
    have text : cStr (ascii "MultiBus Gateway") = ascii "MultiBus Gateway" := by decide +kernel
    exact congrArg Entry.text text
  | lwJoinEui => exact plain_default .lwJoinEui
  | mqPrefix => exact plain_default .mqPrefix
  | mqHaPref => exact plain_default .mqHaPref
  | _ => rfl

theorem plain_readConfig (schema : UInt32) (prefs : ConfigFlash) (plain : Plain prefs)
    (known : 1 ≤ schema) : PlainFields (readConfig schema prefs) := by
  intro key
  by_cases number : key = .schema
  · rw [number]
    rfl
  · rw [field_readConfig schema prefs key number known]
    split
    · have same := plain_default key
      cases otherwise : field {} key with
      | text bytes =>
        rw [otherwise] at same
        cases held : prefs key with
        | none => simpa [readAs, getString, held] using same
        | some entry =>
          cases entry with
          | text stored =>
            have clean := cStr_of_plain stored (plain key stored held)
            simp [readAs, getString, held, cut, string, clean]
          | _ => simpa [readAs, getString, held] using same
      | _ => rfl
    · exact plain_default key

theorem plain_ensured (random : Vector UInt8 16) (config : DeviceConfig)
    (plain : PlainFields config) :
    PlainFields { config with lorawan := (ensureLoRaWanConfig random config.lorawan).1 } := by
  have valid := validate_ensured random config.lorawan
  simp only [validateLoRaWanConfig, Bool.and_eq_true] at valid
  obtain ⟨⟨⟨join, appKey⟩, -⟩, -⟩ := valid
  intro key
  cases key with
  | lwJoinEui => exact congrArg Entry.text (cStr_of_plain _ (plain_of_isHexString _ _ join))
  | lwAppKey => exact congrArg Entry.text (cStr_of_plain _ (plain_of_isHexString _ _ appKey))
  | wifiSsid => exact plain .wifiSsid
  | wifiPass => exact plain .wifiPass
  | hostname => exact plain .hostname
  | friendly => exact plain .friendly
  | mqHost => exact plain .mqHost
  | mqUser => exact plain .mqUser
  | mqPass => exact plain .mqPass
  | mqPrefix => exact plain .mqPrefix
  | mqHaPref => exact plain .mqHaPref
  | mqCa => exact plain .mqCa
  | _ => rfl

theorem load_store (s : ConfigStore) (config : DeviceConfig)
    (known : KnownSchema (storedSchema s.prefs)) :
    (s.load config).2.1 =
      { s with needsSave := storedSchema s.prefs != DEVICE_CONFIG_SCHEMA_VERSION } := by
  unfold ConfigStore.load
  dsimp only
  split
  · rename_i missing
    have zero : storedSchema s.prefs = 0 := by
      cases held : s.prefs .schema with
      | none => rw [storedSchema, getUInt, held]
      | some entry => simp [isKey, held] at missing
    rw [zero] at known
    exact absurd known.1 (by decide)
  · split
    · rename_i outside
      rw [Bool.or_eq_true, decide_eq_true_iff, decide_eq_true_iff] at outside
      rcases outside with low | high
      · exact absurd known.1 (UInt32.not_le.mpr low)
      · exact absurd known.2 (UInt32.not_le.mpr high)
    · rfl

def loadedOrInitial (efuseMac : UInt64) (prefs : ConfigFlash) : DeviceConfig :=
  if (({ prefs := prefs } : ConfigStore).load {}).2.2 then
    (({ prefs := prefs } : ConfigStore).load {}).1
  else initialConfig efuseMac

section
variable (efuseMac : UInt64) (random : Vector UInt8 16) (prefs : ConfigFlash)

theorem loadOrCreate_config :
    (loadOrCreate efuseMac random prefs).1 =
      { loadedOrInitial efuseMac prefs with
        lorawan := (ensureLoRaWanConfig random (loadedOrInitial efuseMac prefs).lorawan).1 } := rfl

theorem loadOrCreate_changed :
    (loadOrCreate efuseMac random prefs).2.2 =
      (!(({ prefs := prefs } : ConfigStore).load {}).2.2 ||
        (ensureLoRaWanConfig random (loadedOrInitial efuseMac prefs).lorawan).2 ||
        (({ prefs := prefs } : ConfigStore).load {}).2.1.needsSave) := rfl

theorem saveable_loadedOrInitial : saveable (loadedOrInitial efuseMac prefs) = true := by
  rw [loadedOrInitial]
  split
  · rename_i loads
    obtain ⟨same, succeeds⟩ := load_known { prefs := prefs } {}
      (known_of_load { prefs := prefs } {} loads)
    rw [same, ← succeeds, loads]
  · have mqtt : MqttConfig.valid {} = true := by decide +kernel
    simp [saveable, initialConfig, mqtt, validateConfig, LoRaMode.disabled, LoRaMode.meshtastic]

theorem ready_created : Ready (loadOrCreate efuseMac random prefs).1 := by
  rw [loadOrCreate_config]
  exact ⟨saveable_loadedOrInitial efuseMac prefs, validate_ensured random _⟩

theorem plain_created (plain : Plain prefs) :
    PlainFields (loadOrCreate efuseMac random prefs).1 := by
  rw [loadOrCreate_config]
  refine plain_ensured random _ ?_
  rw [loadedOrInitial]
  split
  · rename_i loads
    have known := known_of_load { prefs := prefs } {} loads
    rw [(load_known { prefs := prefs } {} known).1]
    exact plain_readConfig _ prefs plain known.1
  · exact plain_initialConfig efuseMac

theorem loadOrCreate_store : (loadOrCreate efuseMac random prefs).2.1.prefs = prefs := by
  rw [loadOrCreate]
  unfold ConfigStore.load
  dsimp only
  split
  · rfl
  · split <;> rfl

end

theorem plain_save (s : ConfigStore) (config : DeviceConfig) (faults : Faults ConfigKey)
    (plain : Plain s.prefs) : Plain (s.save config faults).1.prefs := by
  intro key text held
  by_cases valid : saveable config = true
  · rw [save_prefs s config faults valid key] at held
    split at held
    · have put := Option.some.inj held
      cases value : field config key with
      | text bytes =>
        rw [value] at put
        rw [← Entry.text.inj put]
        intro member
        have holds := List.mem_takeWhile_imp member
        exact absurd holds (by decide)
      | _ =>
        rw [value] at put
        cases put
    · exact plain key text held
  · rw [ConfigStore.save, Bool.eq_false_iff.mpr valid] at held
    exact plain key text held

/-- A boot goes on with what it has made usable, and saves just this. -/
theorem beginConfig_cases (efuseMac : UInt64) (boot : Boot) (prefs : ConfigFlash) :
    let created := loadOrCreate efuseMac boot.random prefs
    (created.2.2 = false ∧ beginConfig efuseMac boot prefs = (prefs, some created.1)) ∨
    (created.2.2 = true ∧ beginConfig efuseMac boot prefs =
      ((created.2.1.save created.1 boot.faults).1.prefs,
        if (created.2.1.save created.1 boot.faults).2 = some true then some created.1
        else none)) := by
  have ready := ready_created efuseMac boot.random prefs
  have kept := loadOrCreate_store efuseMac boot.random prefs
  unfold beginConfig
  generalize loadOrCreate efuseMac boot.random prefs = created at ready kept ⊢
  obtain ⟨config, store, changed⟩ := created
  obtain ⟨valid, radio⟩ := ready
  dsimp only at valid radio kept ⊢
  have components : validateConfig config.components = .ok := by
    simp only [saveable, Bool.and_eq_true, beq_iff_eq] at valid
    exact valid.1.2
  cases changed with
  | false =>
    refine Or.inl ⟨rfl, ?_⟩
    simp [components, radio, kept]
  | true =>
    refine Or.inr ⟨rfl, ?_⟩
    simp [components, radio]

def Boot.Whole (boot : Boot) : Prop :=
  (∀ key, boot.faults.completes key = true) ∧ boot.faults.powerLoss = none

theorem adopted_of_whole (efuseMac : UInt64) (boot : Boot) (prefs : ConfigFlash)
    (plain : Plain prefs) (whole : boot.Whole) :
    ∃ config, (beginConfig efuseMac boot prefs).2 = some config ∧
      Adopted (beginConfig efuseMac boot prefs).1 config := by
  have ready := ready_created efuseMac boot.random prefs
  rcases beginConfig_cases efuseMac boot prefs with ⟨unchanged, same⟩ | ⟨-, same⟩
  · refine ⟨_, by rw [same], ?_⟩
    rw [same]
    rw [loadOrCreate_changed, Bool.or_eq_false_iff, Bool.or_eq_false_iff, Bool.not_eq_false']
      at unchanged
    obtain ⟨⟨loads, usable⟩, current⟩ := unchanged
    have known := known_of_load { prefs := prefs } {} loads
    have store := load_store { prefs := prefs } {} known
    have radio := (ensureLoRaWanConfig_unchanged boot.random _).mp usable
    have created : (loadOrCreate efuseMac boot.random prefs).1 =
        (({ prefs := prefs } : ConfigStore).load {}).1 := by
      rw [loadOrCreate_config, ensureLoRaWanConfig_valid boot.random _ radio, loadedOrInitial,
        if_pos loads]
    refine ⟨?_, ready⟩
    rw [store] at current
    dsimp only at current
    rw [current] at store
    rw [created]
    exact Prod.ext rfl (Prod.ext store loads)
  · obtain ⟨completes, uninterrupted⟩ := whole
    obtain ⟨random, ⟨puts, powerLoss⟩⟩ := boot
    obtain rfl := uninterrupted
    dsimp only at completes ready same
    obtain ⟨told, found, loads⟩ := load_saved (loadOrCreate efuseMac random prefs).2.1
      (loadOrCreate efuseMac random prefs).1 puts completes ready.1
      (plain_created efuseMac random prefs plain)
    have schema := storedSchema_save (loadOrCreate efuseMac random prefs).2.1
      (loadOrCreate efuseMac random prefs).1 { completes := puts } ready.1
    have written : configWritten { completes := puts } .schema = true := by
      rw [configWritten, Faults.written, Option.all_none, Bool.and_true]
      exact completes .schema
    rw [schemaAfter, written, if_pos rfl] at schema
    have clean : ((loadOrCreate efuseMac random prefs).2.1.save
        (loadOrCreate efuseMac random prefs).1 { completes := puts }).1.needsSave = false := by
      rw [ConfigStore.save, ready.1]
      rfl
    refine ⟨(loadOrCreate efuseMac random prefs).1, ?_, ?_⟩
    · rw [same, if_pos told]
    · rw [same]
      generalize ((loadOrCreate efuseMac random prefs).2.1.save
        (loadOrCreate efuseMac random prefs).1 { completes := puts }).1 = store
        at found loads schema clean ⊢
      obtain ⟨flash, needsSave⟩ := store
      obtain rfl := clean
      have known : KnownSchema (storedSchema flash) := by
        rw [schema]
        constructor <;> decide
      have kept := load_store { prefs := flash } {} known
      rw [schema] at kept
      exact ⟨Prod.ext found (Prod.ext kept loads), ready⟩

/-! Runs of boots. -/

theorem plain_step (efuseMac : UInt64) (prefs : ConfigFlash) (boot : Boot) (plain : Plain prefs) :
    Plain (step efuseMac prefs boot) := by
  have kept := loadOrCreate_store efuseMac boot.random prefs
  rw [step]
  rcases beginConfig_cases efuseMac boot prefs with ⟨-, same⟩ | ⟨-, same⟩
  · rw [same]
    exact plain
  · rw [same]
    exact plain_save _ _ _ (by rw [kept]; exact plain)

theorem Adopted.run {prefs : ConfigFlash} {config : DeviceConfig} (adopted : Adopted prefs config)
    (efuseMac : UInt64) (boots : List Boot) :
    Execution.run (step efuseMac) prefs boots = prefs := by
  induction boots with
  | nil => rfl
  | cons boot rest ih =>
    rw [run_cons, step, adopted.beginConfig]
    exact ih

/-- Boots settle. Whatever the flash holds, every boot that goes on does so with a configuration that
can be stored and used as it is; and from the first boot on whose puts complete, every boot goes on
with the same configuration and leaves the flash alone, whatever it would make a new key of and
whatever would go wrong in a save. -/
theorem configuration_settles (efuseMac : UInt64) (prefs : ConfigFlash) (plain : Plain prefs)
    (before : List Boot) (boot : Boot) :
    let found := run (step efuseMac) prefs before
    (∀ config, (beginConfig efuseMac boot found).2 = some config → Ready config) ∧
    (boot.Whole → ∃ config, (beginConfig efuseMac boot found).2 = some config ∧
      ∀ after next, beginConfig efuseMac next
          (run (step efuseMac) prefs (before ++ boot :: after)) =
        ((beginConfig efuseMac boot found).1, some config)) := by
  intro found
  have clean : Plain found :=
    invariant_run (step efuseMac) Plain (fun _ _ => True)
      (fun flash x holds _ => plain_step efuseMac flash x holds) prefs before plain
      fun _ _ => trivial
  constructor
  · intro config started
    have ready := ready_created efuseMac boot.random found
    rcases beginConfig_cases efuseMac boot found with ⟨-, same⟩ | ⟨-, same⟩
    · rw [same] at started
      rw [← Option.some.inj started]
      exact ready
    · rw [same] at started
      dsimp only at started
      split at started
      · rw [← Option.some.inj started]
        exact ready
      · cases started
  · intro whole
    obtain ⟨config, started, adopted⟩ := adopted_of_whole efuseMac boot found clean whole
    refine ⟨config, started, fun after next => ?_⟩
    rw [run_append, run_cons]
    change beginConfig efuseMac next
      (run (step efuseMac) (beginConfig efuseMac boot found).1 after) = _
    rw [adopted.run efuseMac after, adopted.beginConfig efuseMac next]

/-- The first boot of a device loses its power when the schema is stored, and the second one finds a
configuration without a key. -/
theorem configuration_settles_interrupted :
    let lost : Boot := { random := Vector.replicate 16 1, faults := { powerLoss := some 1 } }
    let whole : Boot := { random := Vector.replicate 16 2 }
    let found := run (step 0) (fun _ => none) [lost]
    ∃ config, (beginConfig 0 whole found).2 = some config ∧
      ∀ after next, beginConfig 0 next (run (step 0) (fun _ => none) ([lost] ++ whole :: after)) =
        ((beginConfig 0 whole found).1, some config) := by
  intro lost whole found
  have plain : Plain fun _ => none := by
    intro key text held
    cases held
  exact (configuration_settles 0 (fun _ => none) plain [lost] whole).2 ⟨fun _ => rfl, rfl⟩

/-! Boots whose saves fail. -/

/-- The flash holds what makes a configuration, whole or in part: of the schema that is stored, and
with nothing under the keys of a later one that a read would not give for a missing key. -/
structure Carries (prefs : ConfigFlash) (config : DeviceConfig) : Prop where
  schema : 2 ≤ storedSchema prefs ∧ storedSchema prefs ≤ DEVICE_CONFIG_SCHEMA_VERSION
  later : ∀ key ≠ ConfigKey.schema, ¬ since key ≤ storedSchema prefs →
    readAs prefs key (field {} key) = field {} key
  loads : saveable (readConfig (storedSchema prefs) prefs) = true
  created : ∀ random, config =
    { readConfig (storedSchema prefs) prefs with
      lorawan :=
        (ensureLoRaWanConfig random (readConfig (storedSchema prefs) prefs).lorawan).1 }

theorem Carries.known {prefs : ConfigFlash} {config : DeviceConfig}
    (carries : Carries prefs config) : KnownSchema (storedSchema prefs) :=
  ⟨UInt32.le_trans (by decide) carries.schema.1, carries.schema.2⟩

theorem Carries.field {prefs : ConfigFlash} {config : DeviceConfig}
    (carries : Carries prefs config) (key : ConfigKey) (other : key ≠ .schema) :
    Config.field (readConfig (storedSchema prefs) prefs) key =
      readAs prefs key (Config.field {} key) := by
  rw [field_readConfig _ prefs key other carries.known.1]
  split
  · rfl
  · rename_i newer
    exact (carries.later key other newer).symm

theorem Carries.loadedOrInitial {prefs : ConfigFlash} {config : DeviceConfig}
    (carries : Carries prefs config) (efuseMac : UInt64) :
    loadedOrInitial efuseMac prefs = readConfig (storedSchema prefs) prefs := by
  obtain ⟨same, succeeds⟩ := load_known { prefs := prefs } {} carries.known
  rw [Config.loadedOrInitial, succeeds, carries.loads, if_pos rfl]
  exact same

theorem Carries.config {prefs : ConfigFlash} {config : DeviceConfig}
    (carries : Carries prefs config) (efuseMac : UInt64) (random : Vector UInt8 16) :
    (loadOrCreate efuseMac random prefs).1 = config := by
  rw [loadOrCreate_config, carries.loadedOrInitial efuseMac, ← carries.created random]

theorem ensureLoRaWanConfig_mixed (random : Vector UInt8 16) (old mixed : LoRaWanConfig)
    (join : mixed.joinEui = (ensureLoRaWanConfig random old).1.joinEui ∨
      mixed.joinEui = old.joinEui)
    (key : mixed.appKey = (ensureLoRaWanConfig random old).1.appKey ∨ mixed.appKey = old.appKey)
    (port : mixed.extensionFPort = (ensureLoRaWanConfig random old).1.extensionFPort ∨
      mixed.extensionFPort = old.extensionFPort)
    (classC : mixed.classC = old.classC) :
    (ensureLoRaWanConfig random mixed).1 = (ensureLoRaWanConfig random old).1 := by
  have made := validate_ensured random old
  have again := ensureLoRaWanConfig_valid random _ made
  generalize usable : (ensureLoRaWanConfig random old).1 = new at *
  have joins : (ensureLoRaWanConfig random mixed).1.joinEui = new.joinEui := by
    rcases join with same | same
    · rw [← congrArg LoRaWanConfig.joinEui again, ensureLoRaWanConfig, ensureLoRaWanConfig]
      dsimp only
      rw [same]
    · rw [← usable, ensureLoRaWanConfig, ensureLoRaWanConfig]
      dsimp only
      rw [same]
  have keys : (ensureLoRaWanConfig random mixed).1.appKey = new.appKey := by
    rcases key with same | same
    · rw [← congrArg LoRaWanConfig.appKey again, ensureLoRaWanConfig, ensureLoRaWanConfig]
      dsimp only
      rw [same]
    · rw [← usable, ensureLoRaWanConfig, ensureLoRaWanConfig]
      dsimp only
      rw [same]
  have ports : (ensureLoRaWanConfig random mixed).1.extensionFPort = new.extensionFPort := by
    rcases port with same | same
    · rw [← congrArg LoRaWanConfig.extensionFPort again, ensureLoRaWanConfig, ensureLoRaWanConfig]
      dsimp only
      rw [same]
    · rw [← usable, ensureLoRaWanConfig, ensureLoRaWanConfig]
      dsimp only
      rw [same]
  have classes : (ensureLoRaWanConfig random mixed).1.classC = new.classC := by
    rw [← usable]
    exact classC
  generalize (ensureLoRaWanConfig random mixed).1 = left at joins keys ports classes ⊢
  cases left
  cases new
  dsimp only at joins keys ports classes
  rw [joins, keys, ports, classes]

def ofRadio : ConfigKey → Bool
  | .lwJoinEui | .lwAppKey | .lwClassC | .lwExtPort => true
  | _ => false

theorem field_lorawan (config : DeviceConfig) (lorawan : LoRaWanConfig) (key : ConfigKey)
    (other : ofRadio key = false) :
    field { config with lorawan := lorawan } key = field config key := by
  cases key <;> first | rfl | cases other

section
variable {prefs : ConfigFlash} {config : DeviceConfig} (faults : Faults ConfigKey)

theorem Carries.read (carries : Carries prefs config) (plain : PlainFields config)
    (s : ConfigStore) (same : s.prefs = prefs) (valid : saveable config = true)
    (key : ConfigKey) (other : key ≠ .schema) :
    readAs (s.save config faults).1.prefs key (Config.field {} key) =
      if configWritten faults key then Config.field config key
      else Config.field (readConfig (storedSchema prefs) prefs) key := by
  have typed : (cut (Config.field config key)).sameType (Config.field {} key) = true := by
    cases key <;> rfl
  rw [readAs_written (save_prefs s config faults valid key) _ typed, plain key, same,
    carries.field key other]

theorem Carries.save (carries : Carries prefs config) (plain : PlainFields config)
    (s : ConfigStore) (same : s.prefs = prefs) (valid : saveable config = true) :
    Carries (s.save config faults).1.prefs config := by
  have read := carries.read faults plain s same valid
  have stored := storedSchema_save s config faults valid
  rw [same] at stored
  obtain ⟨grows, known⟩ := schemaAfter_ge prefs faults carries.known
  rw [← stored] at grows known
  generalize (s.save config faults).1.prefs = after at read stored grows known ⊢
  have second := UInt32.le_trans carries.schema.1 grows
  have unread (key : ConfigKey) (other : ofRadio key = false) :
      Config.field config key = Config.field (readConfig (storedSchema prefs) prefs) key := by
    rw [carries.created (Vector.replicate 16 0), field_lorawan _ _ key other]
  have later : ∀ key ≠ ConfigKey.schema, ¬ since key ≤ storedSchema after →
      readAs after key (Config.field {} key) = Config.field {} key := by
    intro key other newer
    have beside : ofRadio key = false := by
      cases key <;> first | rfl | exact absurd second newer
    rw [read key other, unread key beside, ite_self, carries.field key other]
    exact carries.later key other fun older => newer (UInt32.le_trans older grows)
  have fields (key : ConfigKey) (other : key ≠ .schema) :
      Config.field (readConfig (storedSchema after) after) key =
        if configWritten faults key then Config.field config key
        else Config.field (readConfig (storedSchema prefs) prefs) key := by
    rw [field_readConfig _ after key other known.1, ← read key other]
    split
    · rfl
    · rename_i newer
      exact (later key other newer).symm
  suffices both : saveable (readConfig (storedSchema after) after) = true ∧ ∀ random, config =
      { readConfig (storedSchema after) after with
        lorawan :=
          (ensureLoRaWanConfig random (readConfig (storedSchema after) after).lorawan).1 } from
    ⟨⟨second, known.2⟩, later, both.1, both.2⟩
  have created := carries.created
  have loads := carries.loads
  have number : (readConfig (storedSchema after) after).schemaVersion =
      (readConfig (storedSchema prefs) prefs).schemaVersion := rfl
  generalize readConfig (storedSchema after) after = new at fields number ⊢
  generalize readConfig (storedSchema prefs) prefs = old at unread fields created loads number
  have rest : { new with lorawan := old.lorawan } = old := by
    refine eq_of_field _ _ fun key => ?_
    by_cases schema : key = .schema
    · rw [schema]
      exact congrArg Entry.uint number
    · cases beside : ofRadio key with
      | false => rw [field_lorawan new _ key beside, fields key schema, unread key beside, ite_self]
      | true => cases key <;> first | rfl | cases beside
  have sameRest (lorawan : LoRaWanConfig) :
      { new with lorawan := lorawan } = { old with lorawan := lorawan } := by
    rw [← rest]
  refine ⟨?_, fun random => ?_⟩
  · rw [← loads, ← rest]
    rfl
  · have join := fields .lwJoinEui (by decide)
    have key := fields .lwAppKey (by decide)
    have port := fields .lwExtPort (by decide)
    have classC := fields .lwClassC (by decide)
    rw [created random] at join key port classC
    rw [created random, ← sameRest]
    dsimp only
    rw [ensureLoRaWanConfig_mixed random old.lorawan new.lorawan]
    · split at join
      · exact Or.inl (Entry.text.inj join)
      · exact Or.inr (Entry.text.inj join)
    · split at key
      · exact Or.inl (Entry.text.inj key)
      · exact Or.inr (Entry.text.inj key)
    · split at port
      · exact Or.inl (Entry.uchar.inj port)
      · exact Or.inr (Entry.uchar.inj port)
    · split at classC
      · exact Entry.flag.inj classC
      · exact Entry.flag.inj classC

end

theorem Carries.step {prefs : ConfigFlash} {config : DeviceConfig}
    (carries : Carries prefs config) (plain : Plain prefs) (efuseMac : UInt64) (boot : Boot) :
    Carries (Config.step efuseMac prefs boot) config := by
  have made := carries.config efuseMac boot.random
  have valid := (ready_created efuseMac boot.random prefs).1
  have fields := plain_created efuseMac boot.random prefs plain
  have kept := loadOrCreate_store efuseMac boot.random prefs
  rw [made] at valid fields
  rw [Config.step]
  rcases beginConfig_cases efuseMac boot prefs with ⟨-, same⟩ | ⟨-, same⟩
  · rw [same]
    exact carries
  · rw [same, made]
    exact carries.save boot.faults fields _ kept valid

/-- A device that has a key keeps its configuration, also while it is taken over from the schema
before: whatever writes fail in the saves of its boots, and whenever the power is lost in them,
every boot that goes on does so with the configuration that was there at first, made usable. -/
theorem configuration_kept (efuseMac : UInt64) (prefs : ConfigFlash) (plain : Plain prefs)
    (second : 2 ≤ storedSchema prefs)
    (fresh : ∀ key ≠ ConfigKey.schema, ¬ since key ≤ storedSchema prefs → prefs key = none)
    (loads : (({ prefs := prefs } : ConfigStore).load {}).2.2 = true)
    (keyed : isHexString (({ prefs := prefs } : ConfigStore).load {}).1.lorawan.appKey 32 = true)
    (boots : List Boot) (boot : Boot) (config : DeviceConfig)
    (started : (beginConfig efuseMac boot (run (step efuseMac) prefs boots)).2 = some config) :
    let loaded := (({ prefs := prefs } : ConfigStore).load {}).1
    config = { loaded with lorawan := config.lorawan } ∧
      config.lorawan.appKey = loaded.lorawan.appKey ∧
      config.lorawan = (ensureLoRaWanConfig boot.random loaded.lorawan).1 := by
  intro loaded
  have known := known_of_load { prefs := prefs } {} loads
  obtain ⟨same, succeeds⟩ := load_known { prefs := prefs } {} known
  have keeps (random : Vector UInt8 16) : (ensureLoRaWanConfig random loaded.lorawan).1 =
      (ensureLoRaWanConfig boot.random loaded.lorawan).1 := by
    rw [ensureLoRaWanConfig, ensureLoRaWanConfig]
    dsimp only
    rw [keyed, if_pos rfl, if_pos rfl]
  have carries : Carries prefs
      { loaded with lorawan := (ensureLoRaWanConfig boot.random loaded.lorawan).1 } := by
    refine ⟨⟨second, known.2⟩, ?_, ?_, fun random => ?_⟩
    · intro key other newer
      have missing := fresh key other newer
      cases otherwise : field {} key <;>
        simp [readAs, getUInt, getUShort, getUChar, getBool, getString, missing]
    · rw [← succeeds]
      exact loads
    · have read : loaded = readConfig (storedSchema prefs) prefs := same
      rw [← keeps random, ← read]
  obtain ⟨kept, -⟩ := invariant_run (step efuseMac)
    (fun flash => Carries flash
        { loaded with lorawan := (ensureLoRaWanConfig boot.random loaded.lorawan).1 } ∧ Plain flash)
    (fun _ _ => True)
    (fun flash x holds _ => ⟨holds.1.step holds.2 efuseMac x, plain_step efuseMac flash x holds.2⟩)
    prefs boots ⟨carries, plain⟩ fun _ _ => trivial
  have made := kept.config efuseMac boot.random
  have going : config =
      { loaded with lorawan := (ensureLoRaWanConfig boot.random loaded.lorawan).1 } := by
    rcases beginConfig_cases efuseMac boot (run (step efuseMac) prefs boots) with
      ⟨-, ends⟩ | ⟨-, ends⟩
    · rw [ends] at started
      exact (Option.some.inj started).symm.trans made
    · rw [ends] at started
      dsimp only at started
      split at started
      · exact (Option.some.inj started).symm.trans made
      · cases started
  rw [going]
  refine ⟨rfl, ?_, rfl⟩
  change (if isHexString loaded.lorawan.appKey 32 then loaded.lorawan.appKey else _) = _
  rw [keyed, if_pos rfl]

def secondSchema : ConfigFlash
  | .schema => some (.uint 2)
  | .lora => some (.uchar 0x57)
  | .lwAppKey => some (.text (ascii "000102030405060708090a0b0c0d0e0f"))
  | _ => none

/-- The power is lost in the first boot under the new schema, and some puts of the second fail. -/
theorem configuration_kept_upgraded :
    let lost : Boot := { random := Vector.replicate 16 1, faults := { powerLoss := some 12 } }
    let torn : Boot :=
      { random := Vector.replicate 16 2, faults := { completes := fun key => key != .mqPort } }
    ∃ config, (beginConfig 0 torn (run (step 0) secondSchema [lost])).2 = some config ∧
      config.lorawan.appKey = ascii "000102030405060708090a0b0c0d0e0f" := by
  intro lost torn
  have started : ((beginConfig 0 torn (run (step 0) secondSchema [lost])).2).isSome = true := by
    decide +kernel
  obtain ⟨config, going⟩ := Option.isSome_iff_exists.mp started
  have plain : Plain secondSchema := by
    intro key text held
    cases key <;> cases held
    decide +kernel
  have fresh : ∀ key ≠ ConfigKey.schema, ¬ since key ≤ storedSchema secondSchema →
      secondSchema key = none := by
    intro key _ newer
    cases key <;> first | rfl | exact absurd (by decide) newer
  obtain ⟨-, kept, -⟩ := configuration_kept 0 secondSchema plain (by decide) fresh
    (by decide +kernel) (by decide +kernel) [lost] torn config going
  refine ⟨config, going, kept.trans ?_⟩
  decide +kernel

end Config
