import MultibusGateway.Library.Preferences
import MultibusGateway.Config.DeviceConfig

/-! The configuration in flash, one key for each field. A save puts every key and looks at none
of the results; a load reads the fields that the stored schema has. -/

namespace Config
open ByteString Preferences

inductive ConfigKey where
  | schema | victron | lora | modbus | gnss
  | wifiSsid | wifiPass | hostname | friendly
  | lwJoinEui | lwAppKey | lwClassC | lwExtPort
  | mqEn | mqHost | mqPort | mqUser | mqPass | mqPrefix | mqPubS | mqRetain | mqHa | mqHaPref
  | mqTls | mqCa
  deriving DecidableEq

abbrev ConfigFlash := Flash ConfigKey Entry

structure ConfigStore where
  prefs : ConfigFlash := fun _ => none
  needsSave : Bool := false

def readConfig (storedSchema : UInt32) (prefs : ConfigFlash) : DeviceConfig where
  schemaVersion := DEVICE_CONFIG_SCHEMA_VERSION
  components :=
    { victron := ⟨getUChar prefs .victron 0⟩
      lora := ⟨getUChar prefs .lora 0⟩
      modbus := ⟨getUChar prefs .modbus 0⟩
      gnss := ⟨getUChar prefs .gnss 0⟩ }
  network :=
    { ssid := getString prefs .wifiSsid []
      password := getString prefs .wifiPass []
      hostname := getString prefs .hostname []
      friendlyName := getString prefs .friendly [] }
  lorawan :=
    if storedSchema ≥ 2 then
      { joinEui := getString prefs .lwJoinEui MULTIBUS_DEFAULT_JOIN_EUI
        appKey := getString prefs .lwAppKey []
        classC := getBool prefs .lwClassC true
        extensionFPort := getUChar prefs .lwExtPort LORAWAN_DEFAULT_EXTENSION_FPORT }
    else {}
  mqtt :=
    if storedSchema ≥ 3 then
      { enabled := getBool prefs .mqEn false
        host := getString prefs .mqHost []
        port := getUShort prefs .mqPort 1883
        username := getString prefs .mqUser []
        password := getString prefs .mqPass []
        topicPrefix := getString prefs .mqPrefix (ascii "multibus")
        publishIntervalSeconds := getUShort prefs .mqPubS 30
        retainState := getBool prefs .mqRetain true
        homeAssistantDiscovery := getBool prefs .mqHa false
        homeAssistantPrefix := getString prefs .mqHaPref (ascii "homeassistant")
        tlsEnabled := getBool prefs .mqTls false
        caCertificate := getString prefs .mqCa [] }
    else {}

/-- `putString` takes a text as far as its first zero byte. -/
def string (s : Bytes) : Entry := .text (cStr s)

def configPuts (config : DeviceConfig) : List (ConfigKey × Entry) :=
  [(.schema, .uint config.schemaVersion),
    (.victron, .uchar config.components.victron.raw),
    (.lora, .uchar config.components.lora.raw),
    (.modbus, .uchar config.components.modbus.raw),
    (.gnss, .uchar config.components.gnss.raw),
    (.wifiSsid, string config.network.ssid),
    (.wifiPass, string config.network.password),
    (.hostname, string config.network.hostname),
    (.friendly, string config.network.friendlyName),
    (.lwJoinEui, string config.lorawan.joinEui),
    (.lwAppKey, string config.lorawan.appKey),
    (.lwClassC, .flag config.lorawan.classC),
    (.lwExtPort, .uchar config.lorawan.extensionFPort),
    (.mqEn, .flag config.mqtt.enabled),
    (.mqHost, string config.mqtt.host),
    (.mqPort, .ushort config.mqtt.port),
    (.mqUser, string config.mqtt.username),
    (.mqPass, string config.mqtt.password),
    (.mqPrefix, string config.mqtt.topicPrefix),
    (.mqPubS, .ushort config.mqtt.publishIntervalSeconds),
    (.mqRetain, .flag config.mqtt.retainState),
    (.mqHa, .flag config.mqtt.homeAssistantDiscovery),
    (.mqHaPref, string config.mqtt.homeAssistantPrefix),
    (.mqTls, .flag config.mqtt.tlsEnabled),
    (.mqCa, string config.mqtt.caCertificate)]

def saveable (config : DeviceConfig) : Bool :=
  config.schemaVersion == DEVICE_CONFIG_SCHEMA_VERSION &&
    validateConfig config.components == .ok && config.mqtt.valid

namespace ConfigStore

/-- The configuration and the store after a load, and whether the load succeeded. -/
def load (config : DeviceConfig) (s : ConfigStore) : DeviceConfig × ConfigStore × Bool :=
  if !isKey s.prefs .schema then (config, s, false)
  else
    let storedSchema := getUInt s.prefs .schema 0
    if storedSchema < 1 || storedSchema > DEVICE_CONFIG_SCHEMA_VERSION then (config, s, false)
    else
      let config := readConfig storedSchema s.prefs
      (config, { s with needsSave := storedSchema != DEVICE_CONFIG_SCHEMA_VERSION },
        validateConfig config.components == .ok && config.mqtt.valid)

/-- The store after a save, and what the call returned unless the power was lost in it. -/
def save (config : DeviceConfig) (faults : Faults ConfigKey) (s : ConfigStore) :
    ConfigStore × Option Bool :=
  if !saveable config then (s, some false)
  else
    let prefs := putEach faults.completes s.prefs (faults.reached (configPuts config))
    (⟨prefs, false⟩, faults.powerLoss.elim
      (some (getUInt prefs .schema 0 == DEVICE_CONFIG_SCHEMA_VERSION)) fun _ => none)

def clear (_ : ConfigStore) : ConfigStore := {}

end ConfigStore

/-! The configuration key by key. -/

def since : ConfigKey → UInt32
  | .lwJoinEui | .lwAppKey | .lwClassC | .lwExtPort => 2
  | .mqEn | .mqHost | .mqPort | .mqUser | .mqPass | .mqPrefix | .mqPubS | .mqRetain | .mqHa
  | .mqHaPref | .mqTls | .mqCa => 3
  | _ => 1

def field (config : DeviceConfig) : ConfigKey → Entry
  | .schema => .uint config.schemaVersion
  | .victron => .uchar config.components.victron.raw
  | .lora => .uchar config.components.lora.raw
  | .modbus => .uchar config.components.modbus.raw
  | .gnss => .uchar config.components.gnss.raw
  | .wifiSsid => .text config.network.ssid
  | .wifiPass => .text config.network.password
  | .hostname => .text config.network.hostname
  | .friendly => .text config.network.friendlyName
  | .lwJoinEui => .text config.lorawan.joinEui
  | .lwAppKey => .text config.lorawan.appKey
  | .lwClassC => .flag config.lorawan.classC
  | .lwExtPort => .uchar config.lorawan.extensionFPort
  | .mqEn => .flag config.mqtt.enabled
  | .mqHost => .text config.mqtt.host
  | .mqPort => .ushort config.mqtt.port
  | .mqUser => .text config.mqtt.username
  | .mqPass => .text config.mqtt.password
  | .mqPrefix => .text config.mqtt.topicPrefix
  | .mqPubS => .ushort config.mqtt.publishIntervalSeconds
  | .mqRetain => .flag config.mqtt.retainState
  | .mqHa => .flag config.mqtt.homeAssistantDiscovery
  | .mqHaPref => .text config.mqtt.homeAssistantPrefix
  | .mqTls => .flag config.mqtt.tlsEnabled
  | .mqCa => .text config.mqtt.caCertificate

def cut : Entry → Entry
  | .text bytes => string bytes
  | entry => entry

theorem configPuts_mem (config : DeviceConfig) (key : ConfigKey) :
    (key, cut (field config key)) ∈ configPuts config := by
  cases key <;> simp [configPuts, field, cut]

theorem eq_of_field (c c' : DeviceConfig) (same : ∀ key, field c key = field c' key) : c = c' := by
  obtain ⟨schema, ⟨⟨victron⟩, ⟨lora⟩, ⟨modbus⟩, ⟨gnss⟩⟩, network, lorawan, mqtt⟩ := c
  obtain ⟨schema', ⟨⟨victron'⟩, ⟨lora'⟩, ⟨modbus'⟩, ⟨gnss'⟩⟩, network', lorawan', mqtt'⟩ := c'
  have schemas := Entry.uint.inj (same .schema)
  have victrons := Entry.uchar.inj (same .victron)
  have loras := Entry.uchar.inj (same .lora)
  have modbuses := Entry.uchar.inj (same .modbus)
  have gnsses := Entry.uchar.inj (same .gnss)
  have networks : network = network' := by
    cases network
    cases network'
    congr
    · exact Entry.text.inj (same .wifiSsid)
    · exact Entry.text.inj (same .wifiPass)
    · exact Entry.text.inj (same .hostname)
    · exact Entry.text.inj (same .friendly)
  have lorawans : lorawan = lorawan' := by
    cases lorawan
    cases lorawan'
    congr
    · exact Entry.text.inj (same .lwJoinEui)
    · exact Entry.text.inj (same .lwAppKey)
    · exact Entry.flag.inj (same .lwClassC)
    · exact Entry.uchar.inj (same .lwExtPort)
  have mqtts : mqtt = mqtt' := by
    cases mqtt
    cases mqtt'
    congr
    · exact Entry.flag.inj (same .mqEn)
    · exact Entry.text.inj (same .mqHost)
    · exact Entry.ushort.inj (same .mqPort)
    · exact Entry.text.inj (same .mqUser)
    · exact Entry.text.inj (same .mqPass)
    · exact Entry.text.inj (same .mqPrefix)
    · exact Entry.ushort.inj (same .mqPubS)
    · exact Entry.flag.inj (same .mqRetain)
    · exact Entry.flag.inj (same .mqHa)
    · exact Entry.text.inj (same .mqHaPref)
    · exact Entry.flag.inj (same .mqTls)
    · exact Entry.text.inj (same .mqCa)
  dsimp only [field] at schemas victrons loras modbuses gnsses
  rw [schemas, victrons, loras, modbuses, gnsses, networks, lorawans, mqtts]

theorem field_readConfig (storedSchema : UInt32) (prefs : ConfigFlash) (key : ConfigKey)
    (other : key ≠ .schema) (known : 1 ≤ storedSchema) :
    field (readConfig storedSchema prefs) key =
      if since key ≤ storedSchema then readAs prefs key (field {} key) else field {} key := by
  cases key with
  | schema => exact absurd rfl other
  | victron | lora | modbus | gnss | wifiSsid | wifiPass | hostname | friendly =>
    exact (if_pos known).symm
  | lwJoinEui | lwAppKey | lwClassC | lwExtPort =>
    by_cases second : storedSchema ≥ 2 <;> simp [field, readConfig, since, readAs, second]
  | mqEn | mqHost | mqPort | mqUser | mqPass | mqPrefix | mqPubS | mqRetain | mqHa | mqHaPref |
    mqTls | mqCa =>
    by_cases third : storedSchema ≥ 3 <;> simp [field, readConfig, since, readAs, third]

/-! A load, and the next load after a save that may have been cut short. -/

def storedSchema (prefs : ConfigFlash) : UInt32 := getUInt prefs .schema 0

def KnownSchema (schema : UInt32) : Prop := 1 ≤ schema ∧ schema ≤ DEVICE_CONFIG_SCHEMA_VERSION

theorem load_known (s : ConfigStore) (config : DeviceConfig)
    (known : KnownSchema (storedSchema s.prefs)) :
    (s.load config).1 = readConfig (storedSchema s.prefs) s.prefs ∧
    (s.load config).2.2 = saveable (readConfig (storedSchema s.prefs) s.prefs) := by
  have present : isKey s.prefs .schema = true := by
    cases schema : s.prefs .schema with
    | some entry => rw [isKey, schema, Option.isSome_some]
    | none =>
      have zero : storedSchema s.prefs = 0 := by rw [storedSchema, getUInt, schema]
      rw [zero] at known
      exact absurd known.1 (by decide)
  have inside : (storedSchema s.prefs < 1 || storedSchema s.prefs > DEVICE_CONFIG_SCHEMA_VERSION) =
      false := by
    rw [Bool.or_eq_false_iff, decide_eq_false_iff_not, decide_eq_false_iff_not, UInt32.not_lt,
      gt_iff_lt, UInt32.not_lt]
    exact known
  unfold storedSchema at inside ⊢
  unfold ConfigStore.load
  simp only [present, inside, Bool.not_true, Bool.false_eq_true, if_false, saveable, true_and]
  rfl

theorem known_of_load (s : ConfigStore) (config : DeviceConfig)
    (loads : (s.load config).2.2 = true) : KnownSchema (storedSchema s.prefs) := by
  unfold ConfigStore.load at loads
  dsimp only at loads
  split at loads
  · cases loads
  · split at loads
    · cases loads
    · rename_i inside
      rw [Bool.or_eq_true, not_or, decide_eq_true_iff, decide_eq_true_iff, UInt32.not_lt,
        gt_iff_lt, UInt32.not_lt] at inside
      exact inside

def configWritten (faults : Faults ConfigKey) (key : ConfigKey) : Bool :=
  faults.written ((configPuts {}).map Prod.fst) key

def schemaAfter (prefs : ConfigFlash) (faults : Faults ConfigKey) : UInt32 :=
  if configWritten faults .schema then DEVICE_CONFIG_SCHEMA_VERSION else storedSchema prefs

theorem save_prefs (s : ConfigStore) (next : DeviceConfig) (faults : Faults ConfigKey)
    (valid : saveable next = true) (key : ConfigKey) :
    (s.save next faults).1.prefs key =
      if configWritten faults key then some (cut (field next key)) else s.prefs key := by
  rw [ConfigStore.save, valid]
  exact putEach_reached faults s.prefs (configPuts next) (by simp [configPuts]) key _
    (configPuts_mem next key)

theorem schemaVersion_of_saveable (config : DeviceConfig) (valid : saveable config = true) :
    config.schemaVersion = DEVICE_CONFIG_SCHEMA_VERSION := by
  simp only [saveable, Bool.and_eq_true, beq_iff_eq] at valid
  exact valid.1.1

theorem storedSchema_save (s : ConfigStore) (next : DeviceConfig) (faults : Faults ConfigKey)
    (valid : saveable next = true) :
    storedSchema (s.save next faults).1.prefs = schemaAfter s.prefs faults := by
  have current : cut (field next .schema) = .uint DEVICE_CONFIG_SCHEMA_VERSION := by
    rw [← schemaVersion_of_saveable next valid]
    rfl
  have put := save_prefs s next faults valid .schema
  rw [current] at put
  exact getUInt_written put 0

/-- The next load finds the new value of a key that was written, and the old one otherwise. -/
theorem field_after (s : ConfigStore) (next : DeviceConfig) (faults : Faults ConfigKey)
    (valid : saveable next = true) (known : KnownSchema (schemaAfter s.prefs faults))
    (key : ConfigKey) (other : key ≠ .schema) :
    field (readConfig (schemaAfter s.prefs faults) (s.save next faults).1.prefs) key =
      if since key ≤ schemaAfter s.prefs faults then
        if configWritten faults key then cut (field next key)
        else readAs s.prefs key (field {} key)
      else field {} key := by
  have typed : (cut (field next key)).sameType (field {} key) = true := by
    cases key <;> rfl
  rw [field_readConfig _ _ _ other known.1,
    readAs_written (save_prefs s next faults valid key) _ typed]

theorem save_result (s : ConfigStore) (next : DeviceConfig) (faults : Faults ConfigKey)
    (valid : saveable next = true) :
    (s.save next faults).2 = some true ↔ faults.powerLoss = none ∧
      schemaAfter s.prefs faults = DEVICE_CONFIG_SCHEMA_VERSION := by
  have schema := storedSchema_save s next faults valid
  rw [← schema]
  unfold storedSchema ConfigStore.save
  rw [valid]
  cases faults.powerLoss <;> simp

theorem schemaAfter_ge (prefs : ConfigFlash) (faults : Faults ConfigKey)
    (known : KnownSchema (storedSchema prefs)) :
    storedSchema prefs ≤ schemaAfter prefs faults ∧ KnownSchema (schemaAfter prefs faults) := by
  unfold schemaAfter
  split
  · exact ⟨known.2, by decide, by decide⟩
  · exact ⟨UInt32.le_refl _, known⟩

/-- A save of which every put completes returns true, and the next load finds what was saved. -/
theorem load_saved (s : ConfigStore) (next : DeviceConfig) (completes : ConfigKey → Bool)
    (all : ∀ key, completes key = true) (valid : saveable next = true)
    (plain : ∀ key, cut (field next key) = field next key) :
    (s.save next { completes := completes }).2 = some true ∧
      ((s.save next { completes := completes }).1.load {}).1 = next ∧
      ((s.save next { completes := completes }).1.load {}).2.2 = true := by
  have written (key : ConfigKey) : configWritten { completes := completes } key = true := by
    rw [configWritten, Faults.written, Option.all_none, Bool.and_true]
    exact all key
  have schema : schemaAfter s.prefs { completes := completes } = DEVICE_CONFIG_SCHEMA_VERSION := by
    rw [schemaAfter, written, if_pos rfl]
  have known : KnownSchema DEVICE_CONFIG_SCHEMA_VERSION := by
    constructor <;> decide
  have stored := storedSchema_save s next { completes := completes } valid
  have after := field_after s next { completes := completes } valid (schema ▸ known)
  rw [schema] at stored after
  have found : readConfig DEVICE_CONFIG_SCHEMA_VERSION
      (s.save next { completes := completes }).1.prefs = next := by
    refine eq_of_field _ _ fun key => ?_
    by_cases number : key = .schema
    · rw [number, field, field, schemaVersion_of_saveable next valid]
      rfl
    · have since : since key ≤ DEVICE_CONFIG_SCHEMA_VERSION := by
        cases key <;> decide
      rw [after key number, if_pos since, written, if_pos rfl]
      exact plain key
  obtain ⟨loaded, succeeds⟩ := load_known (s.save next { completes := completes }).1 {}
    (stored ▸ known)
  rw [stored, found] at loaded succeeds
  exact ⟨(save_result s next _ valid).mpr ⟨rfl, schema⟩, loaded, succeeds.trans valid⟩

/-- The next load succeeds with the old configuration or the new one, and with the new one where
the save returned true. -/
def Atomic (old next : DeviceConfig) (result : ConfigStore × Option Bool) : Prop :=
  let (loaded, _, succeeded) := ({ prefs := result.1.prefs } : ConfigStore).load {}
  succeeded = true ∧ (loaded = old ∨ loaded = next) ∧ (result.2 = some true → loaded = next)

/-- Every key of the next schema has the value of the old configuration: the new value, where
it was written, and the one that was there otherwise. -/
def NoneReplaced (prefs : ConfigFlash) (old next : DeviceConfig) (faults : Faults ConfigKey) :
    Prop :=
  ∀ key ≠ ConfigKey.schema, since key ≤ schemaAfter prefs faults →
    if configWritten faults key then cut (field next key) = field old key
    else readAs prefs key (field {} key) = field old key

/-- Every key has the value of the new configuration: without a zero byte, where it was written;
the one that was there otherwise; and the default, where the next schema lacks the key. -/
def AllReplaced (prefs : ConfigFlash) (next : DeviceConfig) (faults : Faults ConfigKey) : Prop :=
  ∀ key ≠ ConfigKey.schema,
    if since key ≤ schemaAfter prefs faults then
      if configWritten faults key then cut (field next key) = field next key
      else readAs prefs key (field {} key) = field next key
    else field {} key = field next key

theorem ite_eq_iff_branches {α : Type} (p : Prop) [Decidable p] (a b x : α) :
    (if p then a else b) = x ↔ if p then a = x else b = x := by
  split <;> rfl

theorem loads_old_iff (s : ConfigStore) (next : DeviceConfig) (faults : Faults ConfigKey)
    (known : KnownSchema (storedSchema s.prefs)) (valid : saveable next = true) :
    readConfig (schemaAfter s.prefs faults) (s.save next faults).1.prefs =
        readConfig (storedSchema s.prefs) s.prefs ↔
      NoneReplaced s.prefs (readConfig (storedSchema s.prefs) s.prefs) next faults := by
  obtain ⟨later, knownAfter⟩ := schemaAfter_ge s.prefs faults known
  have after := field_after s next faults valid knownAfter
  constructor
  · intro same key other current
    rw [← ite_eq_iff_branches, ← same, after key other, if_pos current]
  · intro none
    refine eq_of_field _ _ fun key => ?_
    by_cases schema : key = .schema
    · rw [schema]
      rfl
    · rw [after key schema]
      by_cases current : since key ≤ schemaAfter s.prefs faults
      · rw [if_pos current, ite_eq_iff_branches]
        exact none key schema current
      · have unread : ¬ since key ≤ storedSchema s.prefs := fun read =>
          current (UInt32.le_trans read later)
        rw [if_neg current, field_readConfig _ _ _ schema known.1, if_neg unread]

theorem loads_new_iff (s : ConfigStore) (next : DeviceConfig) (faults : Faults ConfigKey)
    (known : KnownSchema (storedSchema s.prefs)) (valid : saveable next = true) :
    readConfig (schemaAfter s.prefs faults) (s.save next faults).1.prefs = next ↔
      AllReplaced s.prefs next faults := by
  have after := field_after s next faults valid (schemaAfter_ge s.prefs faults known).2
  constructor
  · intro same key other
    rw [← ite_eq_iff_branches, ← ite_eq_iff_branches, ← after key other, same]
  · intro all
    refine eq_of_field _ _ fun key => ?_
    by_cases schema : key = .schema
    · rw [schema, field, field, schemaVersion_of_saveable next valid]
      rfl
    · rw [after key schema, ite_eq_iff_branches, ite_eq_iff_branches]
      exact all key schema

/-- A save is atomic exactly if no key or every key is replaced, and every key where the power is
not lost and the schema ends up as the current one. -/
theorem config_atomic_iff (s : ConfigStore) (next : DeviceConfig) (faults : Faults ConfigKey)
    (loads : (s.load {}).2.2 = true) (valid : saveable next = true) :
    Atomic (s.load {}).1 next (s.save next faults) ↔
      (NoneReplaced s.prefs (s.load {}).1 next faults ∨ AllReplaced s.prefs next faults) ∧
      (faults.powerLoss = none → schemaAfter s.prefs faults = DEVICE_CONFIG_SCHEMA_VERSION →
        AllReplaced s.prefs next faults) := by
  have known := known_of_load s {} loads
  have schema := storedSchema_save s next faults valid
  have before := load_known s {} known
  have after := load_known { prefs := (s.save next faults).1.prefs } {}
    (by rw [schema]; exact (schemaAfter_ge s.prefs faults known).2)
  dsimp only at after
  rw [schema] at after
  rw [before.2] at loads
  unfold Atomic
  dsimp only
  rw [before.1, after.1, after.2, save_result s next faults valid, and_imp,
    loads_old_iff s next faults known valid, loads_new_iff s next faults known valid]
  refine and_iff_right_of_imp fun condition => ?_
  rcases condition.1 with none | all
  · rw [(loads_old_iff s next faults known valid).mpr none]
    exact loads
  · rw [(loads_new_iff s next faults known valid).mpr all]
    exact valid

def savedDefaults : ConfigStore := (({} : ConfigStore).save {} {}).1

/-- The power is lost between the name of a network and its password. -/
theorem config_atomic_iff_network :
    let next : DeviceConfig := { network := { ssid := ascii "net", password := ascii "secret" } }
    let faults : Faults ConfigKey := { powerLoss := some 6 }
    Atomic (savedDefaults.load {}).1 next (savedDefaults.save next faults) ↔
      (NoneReplaced savedDefaults.prefs (savedDefaults.load {}).1 next faults ∨
        AllReplaced savedDefaults.prefs next faults) ∧
      (faults.powerLoss = none →
        schemaAfter savedDefaults.prefs faults = DEVICE_CONFIG_SCHEMA_VERSION →
        AllReplaced savedDefaults.prefs next faults) :=
  config_atomic_iff savedDefaults _ _ (by decide +kernel) (by decide +kernel)

/-- The power is lost when MQTT has been enabled and its host is not there yet, and the whole
configuration is rejected at the next boot. -/
theorem enabled_without_host :
    let next : DeviceConfig := { mqtt := { enabled := true, host := ascii "broker" } }
    (savedDefaults.load {}).2.2 = true ∧ saveable next = true ∧
      ¬ Atomic (savedDefaults.load {}).1 next (savedDefaults.save next { powerLoss := some 14 }) := by
  refine ⟨by decide +kernel, by decide +kernel, fun atomic => ?_⟩
  have rejected : (({ prefs := (savedDefaults.save
      { mqtt := { enabled := true, host := ascii "broker" } } { powerLoss := some 14 }).1.prefs } :
      ConfigStore).load {}).2.2 = false := by
    decide +kernel
  exact Bool.false_ne_true (rejected.symm.trans atomic.1)

end Config
