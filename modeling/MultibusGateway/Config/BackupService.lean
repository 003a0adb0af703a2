import MultibusGateway.Config.ConfigStore
import MultibusGateway.Library.Json

/-! Backups of the configuration: the document that is written, and what is read from a document.
A restore takes every field from the document or its own default for it, and then makes the
checks that a save makes, and those of the LoRaWAN settings. -/

namespace Config
open ByteString Preferences

def LORAWAN_COMPATIBILITY_FPORT : UInt8 := 85

def isHexDigit (c : UInt8) : Bool :=
  (c ≥ 0x30 && c ≤ 0x39) || (c ≥ 0x61 && c ≤ 0x66) || (c ≥ 0x41 && c ≤ 0x46)

def isHexString (value : Bytes) (length : Nat) : Bool :=
  value.length == length && value.all isHexDigit

def validateLoRaWanConfig (config : LoRaWanConfig) : Bool :=
  isHexString config.joinEui 16 && isHexString config.appKey 32 &&
    config.extensionFPort != 0 && config.extensionFPort != LORAWAN_COMPATIBILITY_FPORT

def ConfigValidationResult.toString : ConfigValidationResult → String
  | .ok => "ok"
  | .meshtasticNotImplemented => "meshtastic-not-implemented"

/-! The codes of the modes. -/

def VictronMode.modeValue (mode : VictronMode) : String := if mode = .enabled then "1" else "0"

def LoRaMode.modeValue (mode : LoRaMode) : String :=
  if mode = .loRaWan then "W" else if mode = .meshtastic then "M" else "0"

def ModbusMode.modeValue (mode : ModbusMode) : String :=
  if mode = .master then "M" else if mode = .slave then "S" else "0"

def GnssMode.modeValue (mode : GnssMode) : String := if mode = .enabled then "1" else "0"

def parseVictron (value : Bytes) : Option VictronMode :=
  if value = ascii "0" then some .disabled
  else if value = ascii "1" then some .enabled
  else none

def parseLoRa (value : Bytes) : Option LoRaMode :=
  if value = ascii "0" then some .disabled
  else if value = ascii "W" then some .loRaWan
  else if value = ascii "M" then some .meshtastic
  else none

def parseModbus (value : Bytes) : Option ModbusMode :=
  if value = ascii "0" then some .disabled
  else if value = ascii "M" then some .master
  else if value = ascii "S" then some .slave
  else none

def parseGnss (value : Bytes) : Option GnssMode :=
  if value = ascii "0" then some .disabled
  else if value = ascii "1" then some .enabled
  else none

/-! A mode without a name is written as disabled. -/

def VictronMode.named (mode : VictronMode) : VictronMode :=
  if mode = .enabled then .enabled else .disabled

def LoRaMode.named (mode : LoRaMode) : LoRaMode :=
  if mode = .loRaWan then .loRaWan else if mode = .meshtastic then .meshtastic else .disabled

def ModbusMode.named (mode : ModbusMode) : ModbusMode :=
  if mode = .master then .master else if mode = .slave then .slave else .disabled

def GnssMode.named (mode : GnssMode) : GnssMode := if mode = .enabled then .enabled else .disabled

theorem parseVictron_modeValue (mode : VictronMode) :
    parseVictron (cStr (ascii mode.modeValue)) = some mode.named := by
  unfold VictronMode.modeValue VictronMode.named
  split <;> decide

theorem parseLoRa_modeValue (mode : LoRaMode) :
    parseLoRa (cStr (ascii mode.modeValue)) = some mode.named := by
  unfold LoRaMode.modeValue LoRaMode.named
  split
  · decide
  · split <;> decide

theorem parseModbus_modeValue (mode : ModbusMode) :
    parseModbus (cStr (ascii mode.modeValue)) = some mode.named := by
  unfold ModbusMode.modeValue ModbusMode.named
  split
  · decide
  · split <;> decide

theorem parseGnss_modeValue (mode : GnssMode) :
    parseGnss (cStr (ascii mode.modeValue)) = some mode.named := by
  unfold GnssMode.modeValue GnssMode.named
  split <;> decide

namespace BackupService

def BACKUP_SCHEMA_VERSION : UInt32 := 3

def componentsObject (components : AppConfig) : Json :=
  .object
    [("victron", .text (ascii components.victron.modeValue)),
      ("lora", .text (ascii components.lora.modeValue)),
      ("modbus", .text (ascii components.modbus.modeValue)),
      ("gnss", .text (ascii components.gnss.modeValue))]

def networkObject (network : NetworkConfig) : Json :=
  .object
    [("ssid", .text network.ssid), ("password", .text network.password),
      ("hostname", .text network.hostname), ("friendly_name", .text network.friendlyName)]

def lorawanObject (lorawan : LoRaWanConfig) : Json :=
  .object
    [("join_eui", .text lorawan.joinEui), ("app_key", .text lorawan.appKey),
      ("class_c", .bool lorawan.classC),
      ("extension_fport", .integer lorawan.extensionFPort.toNat)]

def mqttObject (mqtt : MqttConfig) : Json :=
  .object
    [("enabled", .bool mqtt.enabled), ("host", .text mqtt.host),
      ("port", .integer mqtt.port.toNat), ("username", .text mqtt.username),
      ("password", .text mqtt.password), ("topic_prefix", .text mqtt.topicPrefix),
      ("publish_interval_seconds", .integer mqtt.publishIntervalSeconds.toNat),
      ("retain_state", .bool mqtt.retainState),
      ("home_assistant_discovery", .bool mqtt.homeAssistantDiscovery),
      ("home_assistant_prefix", .text mqtt.homeAssistantPrefix),
      ("tls_enabled", .bool mqtt.tlsEnabled), ("ca_certificate", .text mqtt.caCertificate)]

def exportDocument (config : DeviceConfig) : Json :=
  .object
    [("format", .text (ascii "multibus-backup")),
      ("backup_schema", .integer BACKUP_SCHEMA_VERSION.toNat),
      ("config_schema", .integer config.schemaVersion.toNat),
      ("device_family", .text (ascii "esp32-multibus-gateway")),
      ("board", .text (ascii "HTIT-WB32LAF-V4.2")),
      ("contains_secrets", .bool true),
      ("encrypted", .bool false),
      ("components", componentsObject config.components),
      ("network", networkObject config.network),
      ("lorawan", lorawanObject config.lorawan),
      ("mqtt", mqttObject config.mqtt)]

/-- The text of a backup, and whether there is one. -/
def exportConfig (library : Json.Library) (config : DeviceConfig) : Bytes × Bool :=
  let output := library.serializeJsonPretty (exportDocument config)
  (output, !output.isEmpty)

def importComponents (components : Json) : Option AppConfig := do
  let victron ← parseVictron ((components.get "victron").textOr "0")
  let lora ← parseLoRa ((components.get "lora").textOr "0")
  let modbus ← parseModbus ((components.get "modbus").textOr "0")
  let gnss ← parseGnss ((components.get "gnss").textOr "0")
  return { victron := victron, lora := lora, modbus := modbus, gnss := gnss }

def importNetwork (network : Json) : NetworkConfig where
  ssid := (network.get "ssid").textOr ""
  password := (network.get "password").textOr ""
  hostname := (network.get "hostname").textOr ""
  friendlyName := (network.get "friendly_name").textOr ""

def importLorawan (lorawan : Json) : LoRaWanConfig where
  joinEui := (lorawan.get "join_eui").textOr ""
  appKey := (lorawan.get "app_key").textOr ""
  classC := (lorawan.get "class_c").boolOr true
  extensionFPort := (lorawan.get "extension_fport").uint8Or LORAWAN_DEFAULT_EXTENSION_FPORT

/-- The numbers are read as `int` and cut to their fields. -/
def importMqtt (mqtt : Json) : MqttConfig where
  enabled := (mqtt.get "enabled").boolOr false
  host := (mqtt.get "host").textOr ""
  port := UInt16.ofInt ((mqtt.get "port").intOr 1883)
  username := (mqtt.get "username").textOr ""
  password := (mqtt.get "password").textOr ""
  topicPrefix := (mqtt.get "topic_prefix").textOr "multibus"
  publishIntervalSeconds := UInt16.ofInt ((mqtt.get "publish_interval_seconds").intOr 30)
  retainState := (mqtt.get "retain_state").boolOr true
  homeAssistantDiscovery := (mqtt.get "home_assistant_discovery").boolOr false
  homeAssistantPrefix := (mqtt.get "home_assistant_prefix").textOr "homeassistant"
  tlsEnabled := (mqtt.get "tls_enabled").boolOr false
  caCertificate := (mqtt.get "ca_certificate").textOr ""

/-- The configuration after a restore, the error, and whether the restore succeeded. -/
def importConfig (library : Json.Library) (input : Bytes) (output : DeviceConfig) :
    DeviceConfig × Bytes × Bool :=
  match library.deserializeJson input with
  | .error parseError => (output, ascii "invalid-json: " ++ parseError, false)
  | .ok doc =>
    let backupSchema := (doc.get "backup_schema").uint32Or 0
    let configSchema := (doc.get "config_schema").uint32Or 0
    let components := doc.get "components"
    let network := doc.get "network"
    let lorawan := doc.get "lorawan"
    let mqtt := doc.get "mqtt"
    if (doc.get "format").textOr "" ≠ ascii "multibus-backup" then
      (output, ascii "unsupported-format", false)
    else if backupSchema < 2 || backupSchema > BACKUP_SCHEMA_VERSION then
      (output, ascii "unsupported-backup-schema", false)
    else if configSchema < 2 || configSchema > DEVICE_CONFIG_SCHEMA_VERSION then
      (output, ascii "unsupported-config-schema", false)
    else if (doc.get "device_family").textOr "" ≠ ascii "esp32-multibus-gateway" then
      (output, ascii "wrong-device-family", false)
    else if (doc.get "board").textOr "" ≠ ascii "HTIT-WB32LAF-V4.2" then
      (output, ascii "unsupported-board", false)
    else if !components.isObject || !network.isObject || !lorawan.isObject ||
        (backupSchema ≥ 3 && !mqtt.isObject) then
      (output, ascii "missing-configuration-section", false)
    else match importComponents components with
      | none => (output, ascii "invalid-component-mode", false)
      | some modes =>
        let next : DeviceConfig :=
          { schemaVersion := DEVICE_CONFIG_SCHEMA_VERSION
            components := modes
            network := importNetwork network
            lorawan := importLorawan lorawan
            mqtt := if backupSchema ≥ 3 then importMqtt mqtt else {} }
        let validation := validateConfig next.components
        if validation ≠ .ok then (output, ascii validation.toString, false)
        else if !validateLoRaWanConfig next.lorawan then
          (output, ascii "invalid-lorawan-config", false)
        else if !next.mqtt.valid then (output, ascii "invalid-mqtt-config", false)
        else (next, [], true)

/-! What comes back from a backup. -/

def namedModes (components : AppConfig) : AppConfig where
  victron := components.victron.named
  lora := components.lora.named
  modbus := components.modbus.named
  gnss := components.gnss.named

def restored (config : DeviceConfig) : DeviceConfig where
  components := namedModes config.components
  network :=
    { ssid := cStr config.network.ssid
      password := cStr config.network.password
      hostname := cStr config.network.hostname
      friendlyName := cStr config.network.friendlyName }
  lorawan :=
    { config.lorawan with
      joinEui := cStr config.lorawan.joinEui
      appKey := cStr config.lorawan.appKey }
  mqtt :=
    { config.mqtt with
      host := cStr config.mqtt.host
      username := cStr config.mqtt.username
      password := cStr config.mqtt.password
      topicPrefix := cStr config.mqtt.topicPrefix
      homeAssistantPrefix := cStr config.mqtt.homeAssistantPrefix
      caCertificate := cStr config.mqtt.caCertificate }

theorem importComponents_exported (components : AppConfig) :
    importComponents (componentsObject components) = some (namedModes components) := by
  simp [importComponents, componentsObject, namedModes, parseVictron_modeValue,
    parseLoRa_modeValue, parseModbus_modeValue, parseGnss_modeValue]

theorem importNetwork_exported (network : NetworkConfig) :
    importNetwork (networkObject network) =
      ⟨cStr network.ssid, cStr network.password, cStr network.hostname,
        cStr network.friendlyName⟩ := by
  simp [importNetwork, networkObject]

theorem importLorawan_exported (lorawan : LoRaWanConfig) :
    importLorawan (lorawanObject lorawan) =
      { lorawan with joinEui := cStr lorawan.joinEui, appKey := cStr lorawan.appKey } := by
  simp [importLorawan, lorawanObject]

theorem importMqtt_exported (mqtt : MqttConfig) :
    importMqtt (mqttObject mqtt) =
      { mqtt with
        host := cStr mqtt.host
        username := cStr mqtt.username
        password := cStr mqtt.password
        topicPrefix := cStr mqtt.topicPrefix
        homeAssistantPrefix := cStr mqtt.homeAssistantPrefix
        caCertificate := cStr mqtt.caCertificate } := by
  have whole (n : UInt16) : UInt16.ofInt n.toNat = n := by
    have bound := n.toNat_lt
    rw [UInt16.ofInt, Int.emod_eq_of_lt (by omega) (by omega), Int.toNat_natCast,
      UInt16.ofNat_toNat]
  simp [importMqtt, mqttObject, whole]

structure Exported (config : DeviceConfig) (doc : Json) : Prop where
  format : doc.get "format" = .text (ascii "multibus-backup")
  backupSchema : doc.get "backup_schema" = .integer BACKUP_SCHEMA_VERSION.toNat
  configSchema : doc.get "config_schema" = .integer config.schemaVersion.toNat
  family : doc.get "device_family" = .text (ascii "esp32-multibus-gateway")
  board : doc.get "board" = .text (ascii "HTIT-WB32LAF-V4.2")
  components : doc.get "components" = componentsObject config.components
  network : doc.get "network" = networkObject config.network
  lorawan : doc.get "lorawan" = lorawanObject config.lorawan
  mqtt : doc.get "mqtt" = mqttObject config.mqtt

theorem exported (config : DeviceConfig) : Exported config (exportDocument config) := by
  constructor <;> rfl

theorem cStr_headers :
    cStr (ascii "multibus-backup") = ascii "multibus-backup" ∧
    cStr (ascii "esp32-multibus-gateway") = ascii "esp32-multibus-gateway" ∧
    cStr (ascii "HTIT-WB32LAF-V4.2") = ascii "HTIT-WB32LAF-V4.2" := by
  decide +kernel

theorem importConfig_exported (library : Json.Library) (input : Bytes) (doc : Json)
    (config output : DeviceConfig) (parsed : library.deserializeJson input = .ok doc)
    (found : Exported config doc)
    (current : config.schemaVersion = DEVICE_CONFIG_SCHEMA_VERSION) :
    importConfig library input output =
      if validateConfig (restored config).components ≠ .ok then
        (output, ascii (validateConfig (restored config).components).toString, false)
      else if !validateLoRaWanConfig (restored config).lorawan then
        (output, ascii "invalid-lorawan-config", false)
      else if !(restored config).mqtt.valid then (output, ascii "invalid-mqtt-config", false)
      else (restored config, [], true) := by
  obtain ⟨format, family, board⟩ := cStr_headers
  have known : (BACKUP_SCHEMA_VERSION < 2 || BACKUP_SCHEMA_VERSION > BACKUP_SCHEMA_VERSION) =
      false := by decide
  have stored : (DEVICE_CONFIG_SCHEMA_VERSION < 2 ||
      DEVICE_CONFIG_SCHEMA_VERSION > DEVICE_CONFIG_SCHEMA_VERSION) = false := by decide
  have third : BACKUP_SCHEMA_VERSION ≥ 3 := by decide
  unfold importConfig
  rw [parsed]
  dsimp only
  rw [found.format, found.backupSchema, found.configSchema, found.family, found.board,
    found.components, found.network, found.lorawan, found.mqtt, Json.uint32Or_toNat,
    Json.uint32Or_toNat, current, Json.textOr_text, Json.textOr_text, Json.textOr_text,
    if_neg (not_not.mpr format), known, if_neg Bool.false_ne_true, stored,
    if_neg Bool.false_ne_true, if_neg (not_not.mpr family), if_neg (not_not.mpr board),
    importComponents_exported, importNetwork_exported, importLorawan_exported,
    importMqtt_exported, if_pos third]
  rfl

/-- A restore has failed and left its output alone, or it has succeeded with a configuration that
may be saved. -/
def Settled (output : DeviceConfig) (result : DeviceConfig × Bytes × Bool) : Prop :=
  (result.2.2 = false ∧ result.1 = output) ∨ (result.2.2 = true ∧ saveable result.1 = true)

theorem settled_check (output : DeviceConfig) (p : Prop) [Decidable p] (error : Bytes)
    (rest : DeviceConfig × Bytes × Bool) (settled : ¬ p → Settled output rest) :
    Settled output (if p then (output, error, false) else rest) := by
  split
  · exact Or.inl ⟨rfl, rfl⟩
  · rename_i passed
    exact settled passed

/-- A restore makes the checks of a save, and writes its output after all of them. -/
theorem importConfig_settled (library : Json.Library) (input : Bytes) (output : DeviceConfig) :
    Settled output (importConfig library input output) := by
  unfold importConfig
  cases library.deserializeJson input with
  | error parseError => exact Or.inl ⟨rfl, rfl⟩
  | ok doc =>
    refine settled_check _ _ _ _ fun _ => settled_check _ _ _ _ fun _ => settled_check _ _ _ _
      fun _ => settled_check _ _ _ _ fun _ => settled_check _ _ _ _ fun _ => settled_check _ _ _ _
      fun _ => ?_
    cases importComponents (doc.get "components") with
    | none => exact Or.inl ⟨rfl, rfl⟩
    | some modes =>
      refine settled_check _ _ _ _ fun accepted => settled_check _ _ _ _ fun _ =>
        settled_check _ _ _ _ fun valid => Or.inr ⟨rfl, ?_⟩
      rw [not_not] at accepted
      rw [Bool.not_eq_true', Bool.not_eq_false] at valid
      rw [saveable, accepted, valid]
      rfl

def Named (components : AppConfig) : Prop :=
  components.victron ∈ [VictronMode.disabled, .enabled] ∧
  components.lora ∈ [LoRaMode.disabled, .loRaWan, .meshtastic] ∧
  components.modbus ∈ [ModbusMode.disabled, .master, .slave] ∧
  components.gnss ∈ [GnssMode.disabled, .enabled]

def Plain (config : DeviceConfig) : Prop := ∀ key, cut (field config key) = field config key

theorem namedModes_eq (components : AppConfig) (named : Named components) :
    namedModes components = components := by
  obtain ⟨victron, lora, modbus, gnss⟩ := components
  obtain ⟨victrons, loras, modbuses, gnsses⟩ := named
  simp only [List.mem_cons, List.not_mem_nil, or_false] at victrons loras modbuses gnsses
  have victron' : victron.named = victron := by
    rcases victrons with rfl | rfl <;> rfl
  have lora' : lora.named = lora := by
    rcases loras with rfl | rfl | rfl <;> rfl
  have modbus' : modbus.named = modbus := by
    rcases modbuses with rfl | rfl | rfl <;> rfl
  have gnss' : gnss.named = gnss := by
    rcases gnsses with rfl | rfl <;> rfl
  rw [namedModes, victron', lora', modbus', gnss']

theorem field_restored (config : DeviceConfig) (key : ConfigKey)
    (other : key ∉ [ConfigKey.schema, .victron, .lora, .modbus, .gnss]) :
    field (restored config) key = cut (field config key) := by
  cases key with
  | schema | victron | lora | modbus | gnss => exact absurd (by decide) other
  | _ => rfl

theorem restored_eq (config : DeviceConfig)
    (current : config.schemaVersion = DEVICE_CONFIG_SCHEMA_VERSION)
    (named : Named config.components) (plain : Plain config) : restored config = config := by
  refine eq_of_field _ _ fun key => ?_
  have modes := namedModes_eq config.components named
  cases key with
  | schema => rw [field, field, current]; rfl
  | victron | lora | modbus | gnss =>
    rw [field, field, restored]
    dsimp only
    rw [modes]
  | _ => exact (field_restored config _ (by decide)).trans (plain _)

/-- A backup of a valid configuration is made, and restored as it was. -/
def Returns (library : Json.Library) (config output : DeviceConfig) : Prop :=
  config.schemaVersion = DEVICE_CONFIG_SCHEMA_VERSION → validateConfig config.components = .ok →
  validateLoRaWanConfig config.lorawan = true → config.mqtt.valid = true →
  library.Faithful (exportDocument config) →
    (exportConfig library config).2 = true ∧
    importConfig library (exportConfig library config).1 output = (config, [], true)

/-- A backup of a valid configuration, with named modes and without zero bytes in its texts, is
restored as it was; what is accepted may be saved; and a failed restore changes nothing. -/
theorem backup_restored (library : Json.Library) :
    (∀ config output, Named config.components → Plain config →
      Returns library config output) ∧
    (∀ input output, (importConfig library input output).2.2 = true →
      saveable (importConfig library input output).1 = true) ∧
    (∀ input output, (importConfig library input output).2.2 = false →
      (importConfig library input output).1 = output) := by
  refine ⟨?_, fun input output accepted => ?_, fun input output refused => ?_⟩
  · intro config output named plain current components lorawan mqtt faithful
    have whole := restored_eq config current named plain
    have text : (exportConfig library config).1 =
      library.serializeJsonPretty (exportDocument config) := rfl
    refine ⟨by rw [exportConfig]; simpa using faithful.1, ?_⟩
    rw [text, importConfig_exported library _ _ config output faithful.2 (exported config) current,
      whole, if_neg (not_not.mpr components), lorawan, mqtt]
    rfl
  · rcases importConfig_settled library input output with ⟨refused, -⟩ | ⟨-, valid⟩
    · exact absurd (refused.symm.trans accepted) Bool.false_ne_true
    · exact valid
  · rcases importConfig_settled library input output with ⟨-, kept⟩ | ⟨accepted, -⟩
    · exact kept
    · exact absurd (refused.symm.trans accepted) Bool.false_ne_true

structure Transferable (config : DeviceConfig) : Prop where
  current : config.schemaVersion = DEVICE_CONFIG_SCHEMA_VERSION
  components : validateConfig config.components = .ok
  lorawan : validateLoRaWanConfig config.lorawan = true
  mqtt : config.mqtt.valid = true
  named : Named config.components
  plain : Plain config

theorem Transferable.saveable {config : DeviceConfig} (transferable : Transferable config) :
    Config.saveable config = true := by
  rw [Config.saveable, transferable.current, transferable.components, transferable.mqtt]
  rfl

theorem Transferable.imported {config : DeviceConfig} (transferable : Transferable config)
    (library : Json.Library) (input : Bytes) (output : DeviceConfig)
    (parsed : library.deserializeJson input = .ok (exportDocument config)) :
    importConfig library input output = (config, [], true) := by
  have whole := restored_eq config transferable.current transferable.named
    transferable.plain
  rw [importConfig_exported library input _ config output parsed
    (exported config) transferable.current, whole,
    if_neg (not_not.mpr transferable.components), transferable.lorawan, transferable.mqtt]
  rfl

/-! Backups of fixed configurations. -/

/-- A configuration with the defaults, but for the name of its network and its key. -/
def keyed (ssid : Bytes) : DeviceConfig where
  network := { ssid := ssid }
  lorawan := { appKey := ascii "000102030405060708090A0B0C0D0E0F" }

theorem keyed_transferable : Transferable (keyed (ascii "net")) where
  current := rfl
  components := rfl
  lorawan := by decide +kernel
  mqtt := by decide +kernel
  named := by
    unfold Named
    decide
  plain := by
    intro key
    cases key <;> decide +kernel

def keyedBackup (ssid : Bytes) : Bytes :=
  0x7b :: List.flatMap (fun line => ascii "\r\n" ++ line)
    [ascii "  \"format\": \"multibus-backup\",",
      ascii "  \"backup_schema\": 3,",
      ascii "  \"config_schema\": 3,",
      ascii "  \"device_family\": \"esp32-multibus-gateway\",",
      ascii "  \"board\": \"HTIT-WB32LAF-V4.2\",",
      ascii "  \"contains_secrets\": true,",
      ascii "  \"encrypted\": false,",
      ascii "  \"components\": \x7b",
      ascii "    \"victron\": \"0\",",
      ascii "    \"lora\": \"0\",",
      ascii "    \"modbus\": \"0\",",
      ascii "    \"gnss\": \"0\"",
      ascii "  \x7d,",
      ascii "  \"network\": \x7b",
      ascii "    \"ssid\": \"" ++ ssid ++ ascii "\",",
      ascii "    \"password\": \"\",",
      ascii "    \"hostname\": \"\",",
      ascii "    \"friendly_name\": \"\"",
      ascii "  \x7d,",
      ascii "  \"lorawan\": \x7b",
      ascii "    \"join_eui\": \"024D554C54494255\",",
      ascii "    \"app_key\": \"000102030405060708090A0B0C0D0E0F\",",
      ascii "    \"class_c\": true,",
      ascii "    \"extension_fport\": 86",
      ascii "  \x7d,",
      ascii "  \"mqtt\": \x7b",
      ascii "    \"enabled\": false,",
      ascii "    \"host\": \"\",",
      ascii "    \"port\": 1883,",
      ascii "    \"username\": \"\",",
      ascii "    \"password\": \"\",",
      ascii "    \"topic_prefix\": \"multibus\",",
      ascii "    \"publish_interval_seconds\": 30,",
      ascii "    \"retain_state\": true,",
      ascii "    \"home_assistant_discovery\": false,",
      ascii "    \"home_assistant_prefix\": \"homeassistant\",",
      ascii "    \"tls_enabled\": false,",
      ascii "    \"ca_certificate\": \"\"",
      ascii "  \x7d",
      ascii "\x7d"]

theorem keyedBackup_ne_nil (ssid : Bytes) : keyedBackup ssid ≠ [] := List.cons_ne_nil _ _

def libraryOf (doc : Json) (written : Bytes) : Json.Library where
  serializeJsonPretty _ := written
  deserializeJson input :=
    if input = written then .ok doc else .error (ascii "InvalidInput")

theorem libraryOf_faithful (doc : Json) (written : Bytes) (some : written ≠ []) :
    (libraryOf doc written).Faithful doc := ⟨some, if_pos rfl⟩

/-- The defaults with a key come back. -/
theorem backup_restored_keyed :
    importConfig (libraryOf (exportDocument (keyed (ascii "net"))) (keyedBackup (ascii "net")))
        (exportConfig (libraryOf (exportDocument (keyed (ascii "net"))) (keyedBackup (ascii "net")))
          (keyed (ascii "net"))).1 {} =
      (keyed (ascii "net"), [], true) := by
  have some := keyedBackup_ne_nil (ascii "net")
  generalize keyedBackup (ascii "net") = written at some ⊢
  have named : Named (keyed (ascii "net")).components := by
    unfold Named
    decide
  have plain : Plain (keyed (ascii "net")) := by
    intro key
    cases key <;> decide +kernel
  exact ((backup_restored (libraryOf (exportDocument (keyed (ascii "net"))) written)).1
    (keyed (ascii "net")) {} named plain rfl rfl (by decide +kernel) (by decide +kernel)
    (libraryOf_faithful _ _ some)).2

/-- The name of a network comes back as far as its zero byte only. -/
theorem zero_byte_lost : ¬ ∀ library config output, Returns library config output := by
  intro returns
  have some := keyedBackup_ne_nil (ascii "a\\u0000b")
  generalize keyedBackup (ascii "a\\u0000b") = written at some
  have back := (returns (libraryOf (exportDocument (keyed [0x61, 0x00, 0x62])) written)
    (keyed [0x61, 0x00, 0x62]) {} rfl rfl (by decide +kernel) (by decide +kernel)
    (libraryOf_faithful _ _ some)).2
  rw [importConfig_exported _ _ _ (keyed [0x61, 0x00, 0x62]) {} (if_pos rfl) (exported _) rfl]
    at back
  revert back
  decide +kernel

/-- A mode that has no name, such as a byte in flash may stand for, comes back as disabled. -/
theorem unnamed_mode_lost :
    ¬ ∀ library config output, Plain config → Returns library config output := by
  intro returns
  have some := keyedBackup_ne_nil []
  generalize keyedBackup [] = written at some
  have plain : Plain { keyed [] with components := { victron := ⟨2⟩ } } := by
    intro key
    cases key <;> decide +kernel
  have back := (returns (libraryOf (exportDocument
      { keyed [] with components := { victron := ⟨2⟩ } }) written)
    { keyed [] with components := { victron := ⟨2⟩ } } {} plain rfl rfl (by decide +kernel)
    (by decide +kernel) (libraryOf_faithful _ _ some)).2
  rw [importConfig_exported _ _ _ { keyed [] with components := { victron := ⟨2⟩ } } {}
    (if_pos rfl) (exported _) rfl] at back
  revert back
  decide +kernel

end BackupService

end Config
