import MultibusGateway.Library.ByteString

/-! The configuration of the device and what makes it valid. An enumeration is kept as its
underlying byte, as a byte from flash is cast to it without a check. -/

namespace Config
open ByteString

structure VictronMode where
  raw : UInt8
  deriving DecidableEq

structure LoRaMode where
  raw : UInt8
  deriving DecidableEq

structure ModbusMode where
  raw : UInt8
  deriving DecidableEq

structure GnssMode where
  raw : UInt8
  deriving DecidableEq

def VictronMode.disabled : VictronMode := ⟨0⟩

def VictronMode.enabled : VictronMode := ⟨1⟩

def LoRaMode.disabled : LoRaMode := ⟨0⟩

/-- `'W'` -/
def LoRaMode.loRaWan : LoRaMode := ⟨0x57⟩

/-- `'M'` -/
def LoRaMode.meshtastic : LoRaMode := ⟨0x4d⟩

def ModbusMode.disabled : ModbusMode := ⟨0⟩

/-- `'M'` -/
def ModbusMode.master : ModbusMode := ⟨0x4d⟩

/-- `'S'` -/
def ModbusMode.slave : ModbusMode := ⟨0x53⟩

def GnssMode.disabled : GnssMode := ⟨0⟩

def GnssMode.enabled : GnssMode := ⟨1⟩

structure AppConfig where
  victron : VictronMode := .disabled
  lora : LoRaMode := .disabled
  modbus : ModbusMode := .disabled
  gnss : GnssMode := .disabled
  deriving DecidableEq

inductive ConfigValidationResult where
  | ok | meshtasticNotImplemented
  deriving DecidableEq

def validateConfig (config : AppConfig) : ConfigValidationResult :=
  if config.lora = .meshtastic then .meshtasticNotImplemented else .ok

/-- The characters of a topic from one on, `length` of them before it. -/
def validTopicFrom (first lastSlash : Bool) (length : Nat) : Bytes → Bool
  | [] => !lastSlash
  | c :: rest =>
    if length + 1 > 64 then false
    else if c == 0x23 || c == 0x2b || c == 0x5c || c == 0x20 then false
    else if c == 0x2f then
      if first || lastSlash then false else validTopicFrom false true (length + 1) rest
    else validTopicFrom false false (length + 1) rest

/-- No `#`, `+`, backslash or space, and no `/` at an end or after another. -/
def validTopicPrefix (topic : Bytes) : Bool :=
  let topic := cStr topic
  if topic.isEmpty then false else validTopicFrom true false 0 topic

def DEVICE_CONFIG_SCHEMA_VERSION : UInt32 := 3

def LORAWAN_DEFAULT_EXTENSION_FPORT : UInt8 := 86

def MULTIBUS_DEFAULT_JOIN_EUI : Bytes := ascii "024D554C54494255"

structure NetworkConfig where
  ssid : Bytes := []
  password : Bytes := []
  hostname : Bytes := []
  friendlyName : Bytes := []
  deriving DecidableEq

structure LoRaWanConfig where
  joinEui : Bytes := MULTIBUS_DEFAULT_JOIN_EUI
  appKey : Bytes := []
  classC : Bool := true
  extensionFPort : UInt8 := LORAWAN_DEFAULT_EXTENSION_FPORT
  deriving DecidableEq

structure MqttConfig where
  enabled : Bool := false
  host : Bytes := []
  port : UInt16 := 1883
  username : Bytes := []
  password : Bytes := []
  topicPrefix : Bytes := ascii "multibus"
  publishIntervalSeconds : UInt16 := 30
  retainState : Bool := true
  homeAssistantDiscovery : Bool := false
  homeAssistantPrefix : Bytes := ascii "homeassistant"
  tlsEnabled : Bool := false
  caCertificate : Bytes := []
  deriving DecidableEq

def MqttConfig.valid (mqtt : MqttConfig) : Bool :=
  if mqtt.port == 0 || mqtt.publishIntervalSeconds < 1 || mqtt.publishIntervalSeconds > 3600 then
    false
  else if mqtt.topicPrefix.isEmpty || mqtt.topicPrefix.length > 64 ||
      !validTopicPrefix mqtt.topicPrefix then false
  else if mqtt.homeAssistantPrefix.isEmpty || mqtt.homeAssistantPrefix.length > 64 ||
      !validTopicPrefix mqtt.homeAssistantPrefix then false
  else if mqtt.enabled && mqtt.host.isEmpty then false
  else if mqtt.caCertificate.length > 4095 then false
  else if mqtt.enabled && mqtt.tlsEnabled && mqtt.caCertificate.isEmpty then false
  else true

structure DeviceConfig where
  schemaVersion : UInt32 := DEVICE_CONFIG_SCHEMA_VERSION
  components : AppConfig := {}
  network : NetworkConfig := {}
  lorawan : LoRaWanConfig := {}
  mqtt : MqttConfig := {}
  deriving DecidableEq

instance : Inhabited DeviceConfig := ⟨{}⟩

end Config
