import MultibusGateway.Config.ConfigStore
import MultibusGateway.Core.EventBus
import MultibusGateway.Web.LoginThrottle
import MultibusGateway.Web.Session

/-! The web service: its routes, the checks that each of them makes, and what it does to the
configuration, the password and the session. The texts of the pages are left out. -/

namespace Web
open ByteString Preferences Config Security Events

inductive Route where
  | root | login | logout | changePasswordPage | changePassword | status | events
  | componentConfig | networkConfig | mqttConfig | backupDownload | backupRestore | reboot
  | notFound
  deriving DecidableEq

inductive Arg where
  | password | confirm | csrf | after | plain
  | victron | lora | modbus | gnss
  | ssid | hostname | friendly
  | enabled | host | port | username | topicPrefix | publishInterval | retainState
  | haDiscovery | haPrefix | tlsEnabled | caCertificate
  deriving DecidableEq

/-- A request, with what it finds at the device: the uptime when it arrives and when its work
is done, the random numbers, the puts that complete, and the state of the network. -/
structure Request where
  route : Route
  cookie : Bytes := []
  csrfHeader : Bytes := []
  backupPassphrase : Bytes := []
  args : Arg → Option Bytes := fun _ => none
  nowMs : UInt32 := 0
  doneMs : UInt32 := 0
  random : Random := fun _ => 0
  passwordPuts : SecurityKey → Bool := fun _ => true
  configPuts : ConfigKey → Bool := fun _ => true
  apActive : Bool := false
  address : Bytes := []

def Request.hasArg (name : Arg) (request : Request) : Bool := (request.args name).isSome

def Request.arg (name : Arg) (request : Request) : Bytes := (request.args name).getD []

structure EventList where
  oldestSequence : UInt64
  latestSequence : UInt64
  missedBefore : UInt64
  events : List EventRecord

inductive Body where
  | text (message : String)
  | failed (message : String) (error : Bytes)
  | loginPage
  | mainPage (config : DeviceConfig) (csrf : Bytes)
  | passwordPage (csrf : Bytes)
  | json (document : Bytes)
  | events (list : EventList)
  | backup (encrypted : Bytes)

structure Response where
  status : Nat
  body : Body
  location : Option String := none
  setCookie : Option Bytes := none
  retryAfter : Option UInt32 := none

structure Backup where
  exportConfig : DeviceConfig → Option Bytes
  encrypt : Bytes → Bytes → Random → Except Bytes Bytes
  isEncryptedEnvelope : Bytes → Bool
  decrypt : Bytes → Bytes → Except Bytes Bytes
  importConfig : Bytes → Except Bytes DeviceConfig

def kMinimumPassphraseLength : Nat := 12

structure WebService where
  config : DeviceConfig := {}
  configStore : ConfigStore := {}
  security : SecurityStore := {}
  session : Session := {}
  loginThrottle : LoginThrottle := {}
  rebootAt : UInt32 := 0

namespace WebService

def authenticated (request : Request) (web : WebService) : WebService × Bool :=
  let (session, valid) := web.session.authenticated request.nowMs request.cookie
  ({ web with session := session }, valid)

/-- The answer to a request that is not let in. -/
def requireAuth (request : Request) (web : WebService) : WebService × Option Response :=
  match web.authenticated request with
  | (web, true) => (web, none)
  | (web, false) => (web, some { status := 401, body := .text "Authentication required" })

def suppliedToken (request : Request) : Bytes :=
  if request.csrfHeader.isEmpty && request.hasArg .csrf then request.arg .csrf
  else request.csrfHeader

def requireCsrf (request : Request) (web : WebService) : WebService × Option Response :=
  match web.requireAuth request with
  | (web, some refusal) => (web, some refusal)
  | (web, none) =>
    if web.session.csrfToken.isEmpty ||
        !WebSessionPolicy.csrfMatches (suppliedToken request) web.session.csrfToken then
      (web, some { status := 403, body := .text "CSRF validation failed" })
    else (web, none)

def sessionCookie (session : Session) : Bytes :=
  ascii "MBSESSION=" ++ session.sessionToken ++ ascii "; HttpOnly; SameSite=Strict; Path=/"

def clearedCookie : Bytes := ascii "MBSESSION=; Max-Age=0; HttpOnly; SameSite=Strict; Path=/"

def scheduleReboot (request : Request) (web : WebService) : WebService :=
  { web with rebootAt := request.doneMs + 750 }

def saveConfig (config : DeviceConfig) (request : Request) (web : WebService) :
    WebService × Bool :=
  let (configStore, saved) := web.configStore.save config { completes := request.configPuts }
  ({ web with configStore := configStore }, saved == some true)

def handleRoot (request : Request) (web : WebService) : WebService × Response :=
  match web.authenticated request with
  | (web, false) => (web, { status := 200, body := .loginPage })
  | (web, true) =>
    if !web.security.adminInitialized then
      (web, { status := 303, body := .text "Password change required",
              location := some "/change-password" })
    else (web, { status := 200, body := .mainPage web.config web.session.csrfToken })

def handleLogin (hmac : Hmac) (request : Request) (web : WebService) : WebService × Response :=
  if !web.loginThrottle.allowed request.nowMs then
    (web, { status := 429, body := .text "Too many attempts; try again later.",
            retryAfter := some (web.loginThrottle.retryAfterSeconds request.nowMs) })
  else if !request.hasArg .password ||
      !web.security.verifyAdminPassword hmac (request.arg .password) then
    ({ web with loginThrottle := web.loginThrottle.recordFailure request.nowMs },
      { status := 401, body := .text "Invalid credentials" })
  else
    let session := Session.createSession request.doneMs request.random
    ({ web with loginThrottle := web.loginThrottle.recordSuccess, session := session },
      { status := 303, body := .text "OK", setCookie := some (sessionCookie session),
        location := some (if web.security.adminInitialized then "/" else "/change-password") })

def handleLogout (request : Request) (web : WebService) : WebService × Response :=
  match web.requireCsrf request with
  | (web, some refusal) => (web, refusal)
  | (web, none) =>
    ({ web with session := {} },
      { status := 303, body := .text "Logged out", location := some "/",
        setCookie := some clearedCookie })

def handleChangePasswordPage (request : Request) (web : WebService) : WebService × Response :=
  match web.requireAuth request with
  | (web, some refusal) => (web, refusal)
  | (web, none) => (web, { status := 200, body := .passwordPage web.session.csrfToken })

/-- The random numbers of the tokens follow the sixteen of the salt. -/
def handleChangePassword (hmac : Hmac) (request : Request) (web : WebService) :
    WebService × Response :=
  match web.requireCsrf request with
  | (web, some refusal) => (web, refusal)
  | (web, none) =>
    let refusal : Response :=
      { status := 400, body := .text "Password must match and contain at least 10 characters." }
    if !request.hasArg .password || !request.hasArg .confirm ||
        request.arg .password != request.arg .confirm then (web, refusal)
    else
      match web.security.setAdminPassword hmac (request.arg .password) request.random
        { completes := request.passwordPuts } with
      | (security, some true) =>
        let session := Session.createSession request.doneMs fun i => request.random (i + 16)
        ({ web with security := security, session := session },
          { status := 303, body := .text "Password changed", location := some "/",
            setCookie := some (sessionCookie session) })
      | (security, _) => ({ web with security := security }, refusal)

def replaceAll (c : UInt8) (text s : Bytes) : Bytes :=
  s.flatMap fun (x : UInt8) => if x == c then text else [x]

def jsonEscape (value : Bytes) : Bytes :=
  replaceAll 0x0a (ascii "\\n") (replaceAll 0x0d (ascii "\\r")
    (replaceAll 0x22 (ascii "\\\"") (replaceAll 0x5c (ascii "\\\\") value)))

def loraName (mode : LoRaMode) : String :=
  if mode = .loRaWan then "lorawan" else if mode = .meshtastic then "meshtastic" else "disabled"

def modbusName (mode : ModbusMode) : String :=
  if mode = .master then "master" else if mode = .slave then "slave" else "disabled"

def onOff (enabled : Bool) : String := if enabled then "enabled" else "disabled"

def statusDocument (request : Request) (web : WebService) : Bytes :=
  ascii "\x7b\"network_mode\":\"" ++ ascii (if request.apActive then "ap" else "client") ++
    ascii "\",\"ip\":\"" ++ request.address ++
    ascii "\",\"hostname\":\"" ++ jsonEscape web.config.network.hostname ++
    ascii "\",\"victron\":\"" ++ ascii (onOff (web.config.components.victron = .enabled)) ++
    ascii "\",\"lora\":\"" ++ ascii (loraName web.config.components.lora) ++
    ascii "\",\"modbus\":\"" ++ ascii (modbusName web.config.components.modbus) ++
    ascii "\",\"gnss\":\"" ++ ascii (onOff (web.config.components.gnss = .enabled)) ++
    ascii "\",\"mqtt_enabled\":" ++ ascii (if web.config.mqtt.enabled then "true" else "false") ++
    ascii ",\"mqtt_host\":\"" ++ jsonEscape web.config.mqtt.host ++ ascii "\"\x7d"

def handleStatus (request : Request) (web : WebService) : WebService × Response :=
  match web.requireAuth request with
  | (web, some refusal) => (web, refusal)
  | (web, none) => (web, { status := 200, body := .json (web.statusDocument request) })

def parseUint64From (parsed : UInt64) : Bytes → Option UInt64
  | [] => some parsed
  | ch :: rest =>
    if ch < 0x30 || ch > 0x39 then none
    else
      let digit := (ch - 0x30).toUInt64
      if parsed > (0xffffffffffffffff - digit) / 10 then none
      else parseUint64From (parsed * 10 + digit) rest

def parseUint64 (value : Bytes) : Option UInt64 := parseUint64From 0 value

def listEvents {capacity : Nat} (bus : EventBus capacity) (room : Nat) : Nat → UInt64 → List EventRecord
  | 0, _ => []
  | numbers + 1, sequence =>
    if sequence > bus.latestSequence || room = 0 then []
    else
      let item := (bus.read sequence).toList
      if sequence = 0xffffffffffffffff then item
      else item ++ listEvents bus (room - item.length) numbers (sequence + 1)

def eventList {capacity : Nat} (after : UInt64) (bus : EventBus capacity) : EventList where
  oldestSequence := bus.oldestSequence
  latestSequence := bus.latestSequence
  missedBefore := bus.missedSince after
  events :=
    if bus.oldestSequence != 0 && after < bus.latestSequence then
      let sequence := if after = 0xffffffffffffffff then after else after + 1
      let sequence := if sequence < bus.oldestSequence then bus.oldestSequence else sequence
      listEvents bus capacity ((bus.latestSequence - sequence).toNat + 1) sequence
    else []

def handleEvents {capacity : Nat} (bus : EventBus capacity) (request : Request)
    (web : WebService) : WebService × Response :=
  match web.requireAuth request with
  | (web, some refusal) => (web, refusal)
  | (web, none) =>
    match if request.hasArg .after then parseUint64 (request.arg .after) else some 0 with
    | none => (web, { status := 400, body := .text "Invalid after sequence" })
    | some after => (web, { status := 200, body := .events (eventList after bus) })

def handleComponentConfig (request : Request) (web : WebService) : WebService × Response :=
  match web.requireCsrf request with
  | (web, some refusal) => (web, refusal)
  | (web, none) =>
    let next : AppConfig :=
      { victron := if request.arg .victron = ascii "1" then .enabled else .disabled
        lora := if request.arg .lora = ascii "W" then .loRaWan else .disabled
        modbus := if request.arg .modbus = ascii "M" then .master
          else if request.arg .modbus = ascii "S" then .slave else .disabled
        gnss := if request.arg .gnss = ascii "1" then .enabled else .disabled }
    if validateConfig next != .ok then
      (web, { status := 400, body := .text "Invalid component configuration" })
    else
      let web := { web with config := { web.config with components := next } }
      match web.saveConfig web.config request with
      | (web, false) => (web, { status := 500, body := .text "Failed to persist configuration" })
      | (web, true) =>
        (web, { status := 200,
                body := .text "Saved. Reboot required to activate component changes." })

def handleNetworkConfig (request : Request) (web : WebService) : WebService × Response :=
  match web.requireCsrf request with
  | (web, some refusal) => (web, refusal)
  | (web, none) =>
    if (request.arg .ssid).isEmpty then
      (web, { status := 400, body := .text "SSID is required" })
    else
      let network := web.config.network
      let next : NetworkConfig :=
        { ssid := request.arg .ssid
          password := if (request.arg .password).isEmpty then network.password
            else request.arg .password
          hostname := (request.args .hostname).getD network.hostname
          friendlyName := (request.args .friendly).getD network.friendlyName }
      let web := { web with config := { web.config with network := next } }
      match web.saveConfig web.config request with
      | (web, false) =>
        (web, { status := 500, body := .text "Failed to persist network configuration" })
      | (web, true) =>
        (web.scheduleReboot request, { status := 200, body := .text "Saved. Rebooting..." })

def parseUint16From (maximum : UInt16) (parsed : UInt32) : Bytes → Option UInt32
  | [] => some parsed
  | ch :: rest =>
    if ch < 0x30 || ch > 0x39 then none
    else
      let parsed := parsed * 10 + (ch - 0x30).toUInt32
      if parsed > maximum.toUInt32 then none else parseUint16From maximum parsed rest

def parseUint16Arg (value : Bytes) (minimum maximum : UInt16) : Option UInt16 :=
  if value.isEmpty then none
  else match parseUint16From maximum 0 value with
    | none => none
    | some parsed =>
      if parsed < minimum.toUInt32 || parsed > maximum.toUInt32 then none
      else some parsed.toUInt16

def isChecked (name : Arg) (request : Request) : Bool :=
  request.hasArg name && request.arg name == ascii "1"

def handleMqttConfig (request : Request) (web : WebService) : WebService × Response :=
  match web.requireCsrf request with
  | (web, some refusal) => (web, refusal)
  | (web, none) =>
    match parseUint16Arg (request.arg .port) 1 65535,
      parseUint16Arg (request.arg .publishInterval) 1 3600 with
    | some port, some publishInterval =>
      let mqtt := web.config.mqtt
      let next : MqttConfig :=
        { enabled := isChecked .enabled request
          host := request.arg .host
          port := port
          username := request.arg .username
          password := if (request.arg .password).isEmpty then mqtt.password
            else request.arg .password
          topicPrefix := request.arg .topicPrefix
          publishIntervalSeconds := publishInterval
          retainState := isChecked .retainState request
          homeAssistantDiscovery := isChecked .haDiscovery request
          homeAssistantPrefix := request.arg .haPrefix
          tlsEnabled := isChecked .tlsEnabled request
          caCertificate := (request.args .caCertificate).getD mqtt.caCertificate }
      if !next.valid then (web, { status := 400, body := .text "Invalid MQTT configuration" })
      else
        let web := { web with config := { web.config with mqtt := next } }
        match web.saveConfig web.config request with
        | (web, false) =>
          (web, { status := 500, body := .text "Failed to persist MQTT configuration" })
        | (web, true) =>
          (web.scheduleReboot request, { status := 200, body := .text "Saved. Rebooting..." })
    | _, _ => (web, { status := 400, body := .text "Invalid MQTT port or publish interval" })

def handleBackupDownload (backup : Backup) (request : Request) (web : WebService) :
    WebService × Response :=
  match web.requireCsrf request with
  | (web, some refusal) => (web, refusal)
  | (web, none) =>
    if request.backupPassphrase.length < kMinimumPassphraseLength then
      (web, { status := 400,
              body := .text "Backup passphrase must contain at least 12 characters" })
    else match backup.exportConfig web.config with
      | none => (web, { status := 500, body := .text "Failed to generate backup" })
      | some plaintext =>
        match backup.encrypt plaintext request.backupPassphrase request.random with
        | .error error =>
          (web, { status := 500, body := .failed "Failed to encrypt backup: " error })
        | .ok encrypted => (web, { status := 200, body := .backup encrypted })

/-- The random numbers of the session are the first ones, as a restore draws none before. -/
def handleBackupRestore (backup : Backup) (request : Request) (web : WebService) :
    WebService × Response :=
  match web.requireCsrf request with
  | (web, some refusal) => (web, refusal)
  | (web, none) =>
    let body := request.arg .plain
    if body.isEmpty then (web, { status := 400, body := .text "Backup payload is empty" })
    else
      match if backup.isEncryptedEnvelope body then backup.decrypt body request.backupPassphrase
        else .ok body with
      | .error error =>
        (web, { status := 400, body := .failed "Encrypted backup rejected: " error })
      | .ok plaintext =>
        match backup.importConfig plaintext with
        | .error error => (web, { status := 400, body := .failed "Backup rejected: " error })
        | .ok restored =>
          match web.saveConfig restored request with
          | (web, false) =>
            (web, { status := 500, body := .text "Validated backup could not be persisted" })
          | (web, true) =>
            let session := Session.createSession request.doneMs request.random
            (({ web with config := restored, session := session }).scheduleReboot request,
              { status := 200, body := .text "Backup restored successfully. Rebooting...",
                setCookie := some (sessionCookie session) })

def handleReboot (request : Request) (web : WebService) : WebService × Response :=
  match web.requireCsrf request with
  | (web, some refusal) => (web, refusal)
  | (web, none) =>
    (web.scheduleReboot request, { status := 200, body := .text "Rebooting..." })

def handleNotFound (request : Request) (web : WebService) : WebService × Response :=
  if request.apActive then (web, { status := 302, body := .text "", location := some "/" })
  else (web, { status := 404, body := .text "Not found" })

def handleClient (hmac : Hmac) (backup : Backup) (bus : EventBus 32) (request : Request)
    (web : WebService) : WebService × Response :=
  match request.route with
  | .root => web.handleRoot request
  | .login => web.handleLogin hmac request
  | .logout => web.handleLogout request
  | .changePasswordPage => web.handleChangePasswordPage request
  | .changePassword => web.handleChangePassword hmac request
  | .status => web.handleStatus request
  | .events => web.handleEvents bus request
  | .componentConfig => web.handleComponentConfig request
  | .networkConfig => web.handleNetworkConfig request
  | .mqttConfig => web.handleMqttConfig request
  | .backupDownload => web.handleBackupDownload backup request
  | .backupRestore => web.handleBackupRestore backup request
  | .reboot => web.handleReboot request
  | .notFound => web.handleNotFound request

end WebService

end Web
