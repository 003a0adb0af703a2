import MultibusGateway.Library.Execution
import MultibusGateway.Security.Provisioning
import MultibusGateway.Web.WebService

/-! What a request does to the device before the administrator's password has been set. The
routes of the administration ask for a session and its token only, so nothing happens exactly
as far as no request brings both. -/

namespace Web
open ByteString Preferences Config Security Events Execution

def Route.administrative : Route → Bool
  | .componentConfig | .networkConfig | .mqttConfig | .backupDownload | .backupRestore
  | .reboot => true
  | _ => false

def SessionKept (before after : Session) : Prop :=
  after = {} ∨ after.sessionToken = before.sessionToken ∧ after.csrfToken = before.csrfToken ∧
    after.sessionCreatedAt = before.sessionCreatedAt

/-- Only the session may have been looked at. -/
def Untouched (before after : WebService) : Prop :=
  ∃ session, SessionKept before.session session ∧ after = { before with session := session }

/-- The configuration is what it was, in memory and in flash, no restart is due that was not, and
no backup is handed out. -/
structure Unadministered (before after : WebService) (response : Response) : Prop where
  config : after.config = before.config
  stored : after.configStore = before.configStore
  reboot : after.rebootAt = before.rebootAt
  kept : ∀ encrypted, response.body ≠ .backup encrypted

theorem Session.authenticated_kept (now : UInt32) (cookie : Bytes) (session : Session) :
    SessionKept session (session.authenticated now cookie).1 := by
  unfold Session.authenticated
  split
  · exact Or.inr ⟨rfl, rfl, rfl⟩
  · split
    · exact Or.inl rfl
    · split <;> exact Or.inr ⟨rfl, rfl, rfl⟩

section checks
variable (request : Request) (web : WebService)

theorem authenticated_untouched : Untouched web (web.authenticated request).1 :=
  ⟨_, Session.authenticated_kept request.nowMs request.cookie web.session, rfl⟩

theorem requireAuth_untouched : Untouched web (web.requireAuth request).1 := by
  have untouched := authenticated_untouched request web
  unfold WebService.requireAuth
  generalize web.authenticated request = checked at *
  obtain ⟨after, _ | _⟩ := checked <;> exact untouched

theorem requireAuth_refusal (refusal : Response)
    (refused : (web.requireAuth request).2 = some refusal) (encrypted : Bytes) :
    refusal.body ≠ .backup encrypted := by
  unfold WebService.requireAuth at refused
  generalize web.authenticated request = checked at *
  obtain ⟨after, _ | _⟩ := checked
  · obtain rfl := Option.some.inj refused
    exact fun backup => by cases backup
  · cases refused

theorem requireCsrf_untouched : Untouched web (web.requireCsrf request).1 := by
  have untouched := requireAuth_untouched request web
  unfold WebService.requireCsrf
  generalize web.requireAuth request = checked at *
  obtain ⟨after, _ | refusal⟩ := checked
  · dsimp only
    split <;> exact untouched
  · exact untouched

theorem requireCsrf_refusal (refusal : Response)
    (refused : (web.requireCsrf request).2 = some refusal) (encrypted : Bytes) :
    refusal.body ≠ .backup encrypted := by
  have unauthorized := requireAuth_refusal request web
  unfold WebService.requireCsrf at refused
  generalize web.requireAuth request = checked at *
  obtain ⟨after, _ | unauthenticated⟩ := checked
  · dsimp only at refused
    split at refused
    · obtain rfl := Option.some.inj refused
      exact fun backup => by cases backup
    · cases refused
  · obtain rfl := Option.some.inj refused
    exact unauthorized unauthenticated rfl encrypted

end checks

theorem Route.page_of_other (route : Route) (other : route.administrative = false)
    (unaccounted : route ∉ [Route.login, .logout, .changePassword]) :
    route ∈ [Route.root, .changePasswordPage, .status, .events, .notFound] := by
  revert other unaccounted
  cases route <;> decide

theorem unadministered_of_untouched (before after : WebService) (response : Response)
    (untouched : Untouched before after) (kept : ∀ encrypted, response.body ≠ .backup encrypted) :
    Unadministered before after response := by
  obtain ⟨session, -, rfl⟩ := untouched
  exact ⟨rfl, rfl, rfl, kept⟩

/-- A request of the administration that is not let in is answered by its refusal. -/
theorem handleClient_refused (hmac : Hmac) (backup : Backup) (bus : EventBus 32)
    (request : Request) (web : WebService) (administrative : request.route.administrative = true)
    (refusal : Response) (refused : (web.requireCsrf request).2 = some refusal) :
    web.handleClient hmac backup bus request = ((web.requireCsrf request).1, refusal) := by
  have whole : web.requireCsrf request = ((web.requireCsrf request).1, some refusal) :=
    Prod.ext rfl refused
  unfold WebService.handleClient
  cases route : request.route with
  | componentConfig => rw [WebService.handleComponentConfig, whole]
  | networkConfig => rw [WebService.handleNetworkConfig, whole]
  | mqttConfig => rw [WebService.handleMqttConfig, whole]
  | backupDownload => rw [WebService.handleBackupDownload, whole]
  | backupRestore => rw [WebService.handleBackupRestore, whole]
  | reboot => rw [WebService.handleReboot, whole]
  | root | login | logout | changePasswordPage | changePassword | status | events | notFound =>
    rw [route] at administrative
    cases administrative

theorem handleClient_page (hmac : Hmac) (backup : Backup) (bus : EventBus 32)
    (request : Request) (web : WebService)
    (page : request.route ∈ [Route.root, .changePasswordPage, .status, .events, .notFound]) :
    Untouched web (web.handleClient hmac backup bus request).1 ∧
    ∀ encrypted, (web.handleClient hmac backup bus request).2.body ≠ .backup encrypted := by
  have authenticated := authenticated_untouched request web
  have untouched := requireAuth_untouched request web
  have refusals := requireAuth_refusal request web
  unfold WebService.handleClient
  simp only [List.mem_cons, List.not_mem_nil, or_false] at page
  rcases page with route | route | route | route | route <;> rw [route] <;> dsimp only
  · unfold WebService.handleRoot
    generalize web.authenticated request = checked at *
    obtain ⟨after, _ | _⟩ := checked
    · exact ⟨authenticated, fun _ backup => by cases backup⟩
    · dsimp only
      split <;> exact ⟨authenticated, fun _ backup => by cases backup⟩
  · unfold WebService.handleChangePasswordPage
    generalize web.requireAuth request = checked at *
    obtain ⟨after, _ | refusal⟩ := checked
    · exact ⟨untouched, fun _ backup => by cases backup⟩
    · exact ⟨untouched, refusals refusal rfl⟩
  · unfold WebService.handleStatus
    generalize web.requireAuth request = checked at *
    obtain ⟨after, _ | refusal⟩ := checked
    · exact ⟨untouched, fun _ backup => by cases backup⟩
    · exact ⟨untouched, refusals refusal rfl⟩
  · unfold WebService.handleEvents
    generalize web.requireAuth request = checked at *
    obtain ⟨after, _ | refusal⟩ := checked
    · dsimp only
      split <;> exact ⟨untouched, fun _ backup => by cases backup⟩
    · exact ⟨untouched, refusals refusal rfl⟩
  · unfold WebService.handleNotFound
    split <;> exact ⟨⟨web.session, Or.inr ⟨rfl, rfl, rfl⟩, rfl⟩, fun _ backup => by cases backup⟩

theorem handleClient_account (hmac : Hmac) (backup : Backup) (bus : EventBus 32)
    (request : Request) (web : WebService)
    (account : request.route ∈ [Route.login, .logout, .changePassword]) :
    Unadministered web (web.handleClient hmac backup bus request).1
      (web.handleClient hmac backup bus request).2 := by
  have untouched := requireCsrf_untouched request web
  have refusals := requireCsrf_refusal request web
  unfold WebService.handleClient
  simp only [List.mem_cons, List.not_mem_nil, or_false] at account
  rcases account with route | route | route <;> rw [route] <;> dsimp only
  · unfold WebService.handleLogin
    split
    · exact ⟨rfl, rfl, rfl, fun _ backup => by cases backup⟩
    · split <;> exact ⟨rfl, rfl, rfl, fun _ backup => by cases backup⟩
  · unfold WebService.handleLogout
    generalize web.requireCsrf request = checked at *
    obtain ⟨after, _ | refusal⟩ := checked
    · obtain ⟨session, -, rfl⟩ := untouched
      exact ⟨rfl, rfl, rfl, fun _ backup => by cases backup⟩
    · exact unadministered_of_untouched _ _ _ untouched (refusals refusal rfl)
  · unfold WebService.handleChangePassword
    generalize web.requireCsrf request = checked at *
    obtain ⟨after, _ | refusal⟩ := checked
    · obtain ⟨session, -, rfl⟩ := untouched
      dsimp only
      split
      · exact ⟨rfl, rfl, rfl, fun _ backup => by cases backup⟩
      · split <;> exact ⟨rfl, rfl, rfl, fun _ backup => by cases backup⟩
    · exact unadministered_of_untouched _ _ _ untouched (refusals refusal rfl)

/-- While the password has not been set, a request administers nothing, and only a login, a
logout and a change of the password do more than to keep the session alive or to end it. -/
def PasswordFirst (hmac : Hmac) (backup : Backup) (bus : EventBus 32) (web : WebService)
    (request : Request) : Prop :=
  web.security.adminInitialized = false →
    Unadministered web (web.handleClient hmac backup bus request).1
      (web.handleClient hmac backup bus request).2 ∧
    (request.route ∉ [Route.login, .logout, .changePassword] →
      Untouched web (web.handleClient hmac backup bus request).1)

/-- While the password has not been set, no request to a route of the administration brings the
cookie and the token of a session. -/
def Unadmitted (web : WebService) (request : Request) : Prop :=
  web.security.adminInitialized = false → request.route.administrative = true →
    (web.requireCsrf request).2 ≠ none

theorem passwordFirst_of_unadmitted (hmac : Hmac) (backup : Backup) (bus : EventBus 32)
    (web : WebService) (request : Request) (unadmitted : Unadmitted web request) :
    PasswordFirst hmac backup bus web request := by
  intro unset
  cases administrative : request.route.administrative with
  | true =>
    obtain ⟨refusal, refused⟩ :=
      Option.ne_none_iff_exists'.mp (unadmitted unset administrative)
    rw [handleClient_refused hmac backup bus request web administrative refusal refused]
    have untouched := requireCsrf_untouched request web
    exact ⟨unadministered_of_untouched _ _ _ untouched (requireCsrf_refusal request web _ refused),
      fun _ => untouched⟩
  | false =>
    by_cases account : request.route ∈ [Route.login, .logout, .changePassword]
    · exact ⟨handleClient_account hmac backup bus request web account,
        fun other => absurd account other⟩
    · have page := Route.page_of_other request.route administrative account
      obtain ⟨untouched, kept⟩ := handleClient_page hmac backup bus request web page
      exact ⟨unadministered_of_untouched _ _ _ untouched kept, fun _ => untouched⟩

/-- Along any run of requests, before the password has been set nothing is administered, as far
as no request to the administration is let in. -/
theorem password_first (hmac : Hmac) (backup : Backup) (bus : Request → EventBus 32)
    (web : WebService) (requests : List Request)
    (unadmitted : Always (fun web request => (web.handleClient hmac backup (bus request) request).1)
      Unadmitted web requests) :
    Always (fun web request => (web.handleClient hmac backup (bus request) request).1)
      (fun web request => PasswordFirst hmac backup (bus request) web request) web requests :=
  unadmitted.mono _ fun web request => passwordFirst_of_unadmitted hmac backup _ web request

/-! Runs on fixed inputs. -/

def noBackup : Backup where
  exportConfig _ := none
  encrypt _ _ _ := .error []
  isEncryptedEnvelope _ := false
  decrypt _ _ := .error []
  importConfig _ := .error []

def firstSession : Session := Session.createSession 0 fun _ => 0

def firstCookie : Bytes := ascii "MBSESSION=" ++ firstSession.sessionToken

/-- A restart asked for in a session without its token is refused. -/
theorem password_first_unadmitted :
    let requests : List Request :=
      [{ route := .root, cookie := firstCookie }, { route := .reboot, cookie := firstCookie },
        { route := .status }]
    Always (fun web request => (web.handleClient sha256Hmac noBackup {} request).1)
      (fun web request => PasswordFirst sha256Hmac noBackup {} web request)
      { session := firstSession } requests := by
  refine password_first sha256Hmac noBackup (fun _ => {}) _ _ ?_
  unfold Always Unadmitted
  decide +kernel

theorem requireCsrf_admits (request : Request) (web : WebService) (session : Session)
    (valid : web.session.authenticated request.nowMs request.cookie = (session, true))
    (present : session.csrfToken.isEmpty = false)
    (supplied :
      WebSessionPolicy.csrfMatches (WebService.suppliedToken request) session.csrfToken = true) :
    web.requireCsrf request = ({ web with session := session }, none) := by
  unfold WebService.requireCsrf WebService.requireAuth WebService.authenticated
  simp only [valid, present, supplied, Bool.not_true, Bool.or_false, Bool.false_eq_true, if_false]

theorem handleLogin_accepts (hmac : Hmac) (request : Request) (web : WebService)
    (password : Bytes) (allowed : web.loginThrottle.allowed request.nowMs = true)
    (given : request.args .password = some password)
    (verified : web.security.verifyAdminPassword hmac password = true) :
    (web.handleLogin hmac request).1 =
      { web with
        loginThrottle := web.loginThrottle.recordSuccess
        session := Session.createSession request.doneMs request.random } := by
  unfold WebService.handleLogin Request.hasArg Request.arg
  simp only [allowed, given, verified, Option.isSome_some, Option.getD_some, Bool.not_true,
    Bool.or_self, Bool.false_eq_true, if_false]

def loginWith (password : Bytes) : Request :=
  { route := .login, args := fun name => if name = .password then some password else none }

def rebootRequest : Request :=
  { route := .reboot, cookie := firstCookie, csrfHeader := firstSession.csrfToken }

theorem reboot_due (hmac : Hmac) (web : WebService) (session : web.session = firstSession) :
    (web.handleClient hmac noBackup {} rebootRequest).1.rebootAt = 750 := by
  have admitted := requireCsrf_admits rebootRequest web firstSession
    (by rw [session]; decide +kernel) (by decide +kernel) (by decide +kernel)
  rw [WebService.handleClient, rebootRequest]
  rw [rebootRequest] at admitted
  dsimp only
  rw [WebService.handleReboot, admitted]
  rfl

theorem login_then_reboot (hmac : Hmac) (security : SecurityStore)
    (unset : security.adminInitialized = false)
    (accepted : security.verifyAdminPassword hmac security.initialAdminPassword = true) :
    let web : WebService := { security := security }
    ¬ PasswordFirst hmac noBackup {}
      (web.handleClient hmac noBackup {} (loginWith security.initialAdminPassword)).1
      rebootRequest := by
  intro web first
  have login : (web.handleClient hmac noBackup {} (loginWith security.initialAdminPassword)).1 =
      { web with loginThrottle := web.loginThrottle.recordSuccess, session := firstSession } :=
    handleLogin_accepts hmac (loginWith security.initialAdminPassword) web
      security.initialAdminPassword rfl rfl accepted
  rw [login] at first
  have due : (750 : UInt32) = 0 := (reboot_due hmac _ rfl).symm.trans (first unset).1.reboot
  exact absurd due (by decide)

/-- A login with the initial password is enough to restart the device. -/
theorem initial_login_reboots :
    let provisioned := (SecurityStore.begin sha256Hmac true (fun _ => 0) {}).1
    ¬ Always (fun web request => (web.handleClient sha256Hmac noBackup {} request).1)
      (fun web request => PasswordFirst sha256Hmac noBackup {} web request)
      { security := provisioned } [loginWith provisioned.initialAdminPassword, rebootRequest] := by
  intro provisioned first
  have begun := begin_fresh sha256Hmac (fun _ => 0) (fun _ => none) rfl
    (begin_succeeds sha256Hmac (fun _ _ => rfl) _ _)
  have second := ((always_cons _ _ _ _ _).mp ((always_cons _ _ _ _ _).mp first).2).1
  exact login_then_reboot sha256Hmac provisioned begun.2.1 begun.2.2.2 second

end Web
