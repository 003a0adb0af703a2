import MultibusGateway.Web.Administration

/-! What a request leaves of the running configuration when it is not answered with success. A
restore saves first and takes the configuration over afterwards. The three forms take their
values over first, and do not take them back when the save fails. -/

namespace Web
open ByteString Preferences Config Security Events Execution

/-- A request that is not answered with success has left the configuration in memory and the
time of the next restart as they were. -/
def LeavesAlone (hmac : Hmac) (backup : Backup) (bus : EventBus 32) (web : WebService)
    (request : Request) : Prop :=
  (web.handleClient hmac backup bus request).2.status ≠ 200 →
    (web.handleClient hmac backup bus request).1.config = web.config ∧
    (web.handleClient hmac backup bus request).1.rebootAt = web.rebootAt

instance (hmac : Hmac) (backup : Backup) (bus : EventBus 32) (web : WebService)
    (request : Request) : Decidable (LeavesAlone hmac backup bus web request) :=
  inferInstanceAs (Decidable (_ → _ ∧ _))

/-! The values in the three forms, where they are accepted. -/

section forms
variable (request : Request)

def componentValues : AppConfig where
  victron := if request.arg .victron = ascii "1" then .enabled else .disabled
  lora := if request.arg .lora = ascii "W" then .loRaWan else .disabled
  modbus := if request.arg .modbus = ascii "M" then .master
    else if request.arg .modbus = ascii "S" then .slave else .disabled
  gnss := if request.arg .gnss = ascii "1" then .enabled else .disabled

def componentForm : Option AppConfig :=
  if validateConfig (componentValues request) = .ok then some (componentValues request) else none

def networkValues (network : NetworkConfig) : NetworkConfig where
  ssid := request.arg .ssid
  password := if (request.arg .password).isEmpty then network.password else request.arg .password
  hostname := (request.args .hostname).getD network.hostname
  friendlyName := (request.args .friendly).getD network.friendlyName

def networkForm (network : NetworkConfig) : Option NetworkConfig :=
  if (request.arg .ssid).isEmpty then none else some (networkValues request network)

def mqttValues (port publishInterval : UInt16) (mqtt : MqttConfig) : MqttConfig where
  enabled := WebService.isChecked .enabled request
  host := request.arg .host
  port := port
  username := request.arg .username
  password := if (request.arg .password).isEmpty then mqtt.password else request.arg .password
  topicPrefix := request.arg .topicPrefix
  publishIntervalSeconds := publishInterval
  retainState := WebService.isChecked .retainState request
  homeAssistantDiscovery := WebService.isChecked .haDiscovery request
  homeAssistantPrefix := request.arg .haPrefix
  tlsEnabled := WebService.isChecked .tlsEnabled request
  caCertificate := (request.args .caCertificate).getD mqtt.caCertificate

def mqttForm (mqtt : MqttConfig) : Option MqttConfig :=
  match WebService.parseUint16Arg (request.arg .port) 1 65535,
    WebService.parseUint16Arg (request.arg .publishInterval) 1 3600 with
  | some port, some publishInterval =>
    if (mqttValues request port publishInterval mqtt).valid then
      some (mqttValues request port publishInterval mqtt)
    else none
  | _, _ => none

def requestedConfig (config : DeviceConfig) : Option DeviceConfig :=
  match request.route with
  | .componentConfig => (componentForm request).map fun next => { config with components := next }
  | .networkConfig =>
    (networkForm request config.network).map fun next => { config with network := next }
  | .mqttConfig => (mqttForm request config.mqtt).map fun next => { config with mqtt := next }
  | _ => none

end forms

/-- A form that is let in with values other than the present ones is saved. -/
def FormsSaved (web : WebService) (request : Request) : Prop :=
  (web.requireCsrf request).2 = none →
    ∀ next, requestedConfig request web.config = some next → next ≠ web.config →
      (web.saveConfig next request).2 = true

section responses
variable (hmac : Hmac) (backup : Backup) (bus : EventBus 32) (request : Request)
  (web : WebService)

theorem leavesAlone_of_unadministered
    (unadministered : Unadministered web (web.handleClient hmac backup bus request).1
      (web.handleClient hmac backup bus request).2) :
    LeavesAlone hmac backup bus web request :=
  fun _ => ⟨unadministered.config, unadministered.reboot⟩

theorem leavesAlone_of_refused (administrative : request.route.administrative = true)
    (refusal : Response) (refused : (web.requireCsrf request).2 = some refusal) :
    LeavesAlone hmac backup bus web request := by
  apply leavesAlone_of_unadministered
  rw [handleClient_refused hmac backup bus request web administrative refusal refused]
  exact unadministered_of_untouched _ _ _ (requireCsrf_untouched request web)
    (requireCsrf_refusal request web refusal refused)

theorem leavesAlone_of_other (other : request.route.administrative = false) :
    LeavesAlone hmac backup bus web request := by
  apply leavesAlone_of_unadministered
  by_cases account : request.route ∈ [Route.login, .logout, .changePassword]
  · exact handleClient_account hmac backup bus request web account
  · have page := Route.page_of_other request.route other account
    obtain ⟨untouched, kept⟩ := handleClient_page hmac backup bus request web page
    exact unadministered_of_untouched _ _ _ untouched kept

end responses

/-- How a form is answered once it is let in: the values that are accepted are taken over, and
then saved. -/
structure FormAnswers where
  refused : Response
  failed : Response
  done : Response
  finish : WebService → WebService
  refusal : refused.status = 400
  failure : failed.status = 500
  success : done.status = 200
  uncookied : refused.setCookie = none ∧ failed.setCookie = none ∧ done.setCookie = none
  finished : ∀ web, (finish web).session = web.session

def FormAnswers.answer (answers : FormAnswers) (request : Request) (admitted : WebService) :
    Option DeviceConfig → WebService × Response
  | none => (admitted, answers.refused)
  | some next =>
    match ({ admitted with config := next }).saveConfig next request with
    | (after, false) => (after, answers.failed)
    | (after, true) => (answers.finish after, answers.done)

def componentAnswers : FormAnswers where
  refused := { status := 400, body := .text "Invalid component configuration" }
  failed := { status := 500, body := .text "Failed to persist configuration" }
  done := { status := 200,
            body := .text "Saved. Reboot required to activate component changes." }
  finish := id
  refusal := rfl
  failure := rfl
  success := rfl
  uncookied := ⟨rfl, rfl, rfl⟩
  finished _ := rfl

def networkAnswers (request : Request) : FormAnswers where
  refused := { status := 400, body := .text "SSID is required" }
  failed := { status := 500, body := .text "Failed to persist network configuration" }
  done := { status := 200, body := .text "Saved. Rebooting..." }
  finish := WebService.scheduleReboot request
  refusal := rfl
  failure := rfl
  success := rfl
  uncookied := ⟨rfl, rfl, rfl⟩
  finished _ := by rw [WebService.scheduleReboot]

def mqttAnswers (request : Request) (message : String) : FormAnswers where
  refused := { status := 400, body := .text message }
  failed := { status := 500, body := .text "Failed to persist MQTT configuration" }
  done := { status := 200, body := .text "Saved. Rebooting..." }
  finish := WebService.scheduleReboot request
  refusal := rfl
  failure := rfl
  success := rfl
  uncookied := ⟨rfl, rfl, rfl⟩
  finished _ := by rw [WebService.scheduleReboot]

/-! A request that is let in. -/

section admitted
variable (hmac : Hmac) (backup : Backup) (bus : EventBus 32) (request : Request)
  (web admitted : WebService) (letIn : web.requireCsrf request = (admitted, none))

include letIn

theorem admitted_kept : ∃ session, admitted = { web with session := session } := by
  obtain ⟨session, -, same⟩ := requireCsrf_untouched request web
  rw [letIn] at same
  exact ⟨session, same⟩

theorem leavesAlone_restore (route : request.route = .backupRestore) :
    LeavesAlone hmac backup bus web request := by
  obtain ⟨session, rfl⟩ := admitted_kept request web admitted letIn
  unfold LeavesAlone WebService.handleClient
  rw [route]
  dsimp only
  rw [WebService.handleBackupRestore, letIn]
  dsimp only
  split
  · exact fun _ => ⟨rfl, rfl⟩
  · split
    · exact fun _ => ⟨rfl, rfl⟩
    · split
      · exact fun _ => ⟨rfl, rfl⟩
      · rw [WebService.saveConfig]
        dsimp only
        split
        · rename_i unsaved
          obtain ⟨rfl, -⟩ := Prod.mk.inj unsaved
          exact fun _ => ⟨rfl, rfl⟩
        · exact fun failed => absurd rfl failed

theorem leavesAlone_unconfigured
    (route : request.route = .backupDownload ∨ request.route = .reboot) :
    LeavesAlone hmac backup bus web request := by
  obtain ⟨session, rfl⟩ := admitted_kept request web admitted letIn
  unfold LeavesAlone WebService.handleClient
  rcases route with route | route <;> rw [route] <;> dsimp only
  · rw [WebService.handleBackupDownload, letIn]
    dsimp only
    split
    · exact fun _ => ⟨rfl, rfl⟩
    · split
      · exact fun _ => ⟨rfl, rfl⟩
      · split <;> exact fun _ => ⟨rfl, rfl⟩
  · rw [WebService.handleReboot, letIn]
    exact fun failed => absurd rfl failed

theorem handleComponentConfig_admitted :
    web.handleComponentConfig request = componentAnswers.answer request admitted
      ((componentForm request).map fun next => { admitted.config with components := next }) := by
  rw [WebService.handleComponentConfig, letIn, componentForm]
  by_cases valid : validateConfig (componentValues request) = .ok
  · have accepted : ¬ (validateConfig (componentValues request) != .ok) = true := by
      rw [valid]
      decide
    rw [if_pos valid]
    exact if_neg accepted
  · rw [if_neg valid]
    exact if_pos (bne_iff_ne.mpr valid)

theorem handleNetworkConfig_admitted :
    web.handleNetworkConfig request = (networkAnswers request).answer request admitted
      ((networkForm request admitted.config.network).map fun next =>
        { admitted.config with network := next }) := by
  rw [WebService.handleNetworkConfig, letIn, networkForm]
  by_cases unnamed : (request.arg .ssid).isEmpty = true
  · rw [if_pos unnamed]
    exact if_pos unnamed
  · rw [if_neg unnamed]
    exact if_neg unnamed

theorem handleMqttConfig_admitted :
    ∃ message, web.handleMqttConfig request = (mqttAnswers request message).answer request admitted
      ((mqttForm request admitted.config.mqtt).map fun next =>
        { admitted.config with mqtt := next }) := by
  rw [WebService.handleMqttConfig, letIn]
  unfold mqttForm
  dsimp only
  cases WebService.parseUint16Arg (request.arg .port) 1 65535 with
  | none => exact ⟨"Invalid MQTT port or publish interval", rfl⟩
  | some port =>
    cases WebService.parseUint16Arg (request.arg .publishInterval) 1 3600 with
    | none => exact ⟨"Invalid MQTT port or publish interval", rfl⟩
    | some publishInterval =>
      refine ⟨"Invalid MQTT configuration", ?_⟩
      dsimp only
      by_cases valid : (mqttValues request port publishInterval admitted.config.mqtt).valid = true
      · have accepted : ¬ (!(mqttValues request port publishInterval
            admitted.config.mqtt).valid) = true := by
          rw [valid]
          decide
        rw [if_pos valid]
        exact if_neg accepted
      · rw [if_neg valid]
        exact if_pos ((Bool.not_eq_true' _).mpr (Bool.eq_false_iff.mpr valid))

/-- A form that is let in is answered according to the values in it. -/
theorem handleClient_form
    (form : request.route ∈ [Route.componentConfig, .networkConfig, .mqttConfig]) :
    ∃ answers : FormAnswers, web.handleClient hmac backup bus request =
      answers.answer request admitted (requestedConfig request admitted.config) := by
  unfold WebService.handleClient requestedConfig
  simp only [List.mem_cons, List.not_mem_nil, or_false] at form
  rcases form with route | route | route <;> rw [route] <;> dsimp only
  · exact ⟨_, handleComponentConfig_admitted request web admitted letIn⟩
  · exact ⟨_, handleNetworkConfig_admitted request web admitted letIn⟩
  · obtain ⟨message, answered⟩ := handleMqttConfig_admitted request web admitted letIn
    exact ⟨_, answered⟩

end admitted

theorem answer_leavesAlone (answers : FormAnswers) (request : Request) (admitted : WebService)
    (requested : Option DeviceConfig) :
    ((answers.answer request admitted requested).2.status ≠ 200 →
      (answers.answer request admitted requested).1.config = admitted.config ∧
      (answers.answer request admitted requested).1.rebootAt = admitted.rebootAt) ↔
    ∀ next, requested = some next → next ≠ admitted.config →
      (admitted.saveConfig next request).2 = true := by
  cases requested with
  | none => exact ⟨fun _ _ asked => (nomatch asked), fun _ _ => ⟨rfl, rfl⟩⟩
  | some next =>
    have stored : (({ admitted with config := next }).saveConfig next request).2 =
      (admitted.saveConfig next request).2 := rfl
    have config : (({ admitted with config := next }).saveConfig next request).1.config = next :=
      rfl
    have reboot : (({ admitted with config := next }).saveConfig next request).1.rebootAt =
      admitted.rebootAt := rfl
    simp only [Option.some.injEq, forall_eq', FormAnswers.answer, ← stored]
    generalize ({ admitted with config := next }).saveConfig next request = result at *
    obtain ⟨after, _ | _⟩ := result
    · dsimp only at config reboot ⊢
      rw [answers.failure, config, reboot]
      simp
    · simp [answers.success]

theorem leavesAlone_of_admitted (hmac : Hmac) (backup : Backup) (bus : EventBus 32)
    (request : Request) (web admitted : WebService)
    (letIn : web.requireCsrf request = (admitted, none))
    (form : request.route ∈ [Route.componentConfig, .networkConfig, .mqttConfig]) :
    LeavesAlone hmac backup bus web request ↔ FormsSaved web request := by
  obtain ⟨answers, answered⟩ := handleClient_form hmac backup bus request web admitted letIn form
  have alone := answer_leavesAlone answers request admitted
    (requestedConfig request admitted.config)
  unfold LeavesAlone FormsSaved
  rw [answered, letIn]
  obtain ⟨session, rfl⟩ := admitted_kept request web admitted letIn
  rw [alone]
  exact ⟨fun saved _ => saved, fun saved => saved rfl⟩

theorem leavesAlone_of_formless (hmac : Hmac) (backup : Backup) (bus : EventBus 32)
    (request : Request) (web : WebService)
    (formless : request.route ∉ [Route.componentConfig, .networkConfig, .mqttConfig]) :
    LeavesAlone hmac backup bus web request := by
  cases administrative : request.route.administrative with
  | false => exact leavesAlone_of_other hmac backup bus request web administrative
  | true =>
    cases refused : (web.requireCsrf request).2 with
    | some refusal =>
      exact leavesAlone_of_refused hmac backup bus request web administrative refusal refused
    | none =>
      have letIn : web.requireCsrf request = ((web.requireCsrf request).1, none) :=
        Prod.ext rfl refused
      cases route : request.route with
      | backupRestore => exact leavesAlone_restore hmac backup bus request web _ letIn route
      | backupDownload =>
        exact leavesAlone_unconfigured hmac backup bus request web _ letIn (Or.inl route)
      | reboot => exact leavesAlone_unconfigured hmac backup bus request web _ letIn (Or.inr route)
      | componentConfig | networkConfig | mqttConfig =>
        rw [route] at formless
        exact absurd (by decide) formless
      | root | login | logout | changePasswordPage | changePassword | status | events | notFound =>
        rw [route] at administrative
        cases administrative

theorem requestedConfig_of_formless (request : Request) (config : DeviceConfig)
    (formless : request.route ∉ [Route.componentConfig, .networkConfig, .mqttConfig]) :
    requestedConfig request config = none := by
  unfold requestedConfig
  split <;> first
    | rfl
    | rename_i route
      rw [route] at formless
      exact absurd (by decide) formless

/-- A request that fails leaves the configuration and the restart alone exactly if it is not a
form that is let in with new values whose save fails. -/
theorem leavesAlone_iff (hmac : Hmac) (backup : Backup) (bus : EventBus 32) (request : Request)
    (web : WebService) :
    LeavesAlone hmac backup bus web request ↔ FormsSaved web request := by
  by_cases form : request.route ∈ [Route.componentConfig, .networkConfig, .mqttConfig]
  · cases refused : (web.requireCsrf request).2 with
    | none =>
      exact leavesAlone_of_admitted hmac backup bus request web _ (Prod.ext rfl refused) form
    | some refusal =>
      have administrative : request.route.administrative = true := by
        generalize request.route = route at form ⊢
        revert form
        cases route <;> decide
      have alone := leavesAlone_of_refused hmac backup bus request web administrative refusal refused
      exact iff_of_true alone fun letIn => nomatch refused.symm.trans letIn
  · have unasked := requestedConfig_of_formless request web.config form
    refine iff_of_true (leavesAlone_of_formless hmac backup bus request web form) fun _ next asked => ?_
    exact nomatch unasked.symm.trans asked

/-! Runs on fixed inputs. -/

def networkRequest : Request where
  route := .networkConfig
  cookie := firstCookie
  csrfHeader := firstSession.csrfToken
  args := fun name => if name = .ssid then some (ascii "net") else none
  configPuts := fun _ => false

/-- The name of a network that could not be saved stays in the running configuration. -/
theorem unsaved_network_kept :
    ¬ LeavesAlone sha256Hmac noBackup {} { session := firstSession } networkRequest := by
  decide +kernel

end Web
