import MultibusGateway.Library.Noninterference
import MultibusGateway.Web.SessionLifetime

/-! What somebody can do and learn who has neither a session nor the password. A request of such an
outsider changes the throttle of the login at most, and the answers to an outsider do not depend on
the configuration, on the password, on the session, on the events, or on what is done in a session
meanwhile. -/

namespace Web
open ByteString Preferences Config Security Events Execution Noninterference

/-- A request, the events that there are, whether it comes from an outsider, and, of a login, whether
the password is the right one. -/
structure Approach where
  request : Request
  bus : EventBus 32 := {}
  outsider : Bool
  verified : Bool := false

/-- What an outsider may know of a request: the parts of its own ones that count, and of the logins
of others when they come and whether the password was right. -/
inductive Glimpse where
  | asked (route : Route) (nowMs : UInt32) (apActive : Bool)
  | loggedIn (nowMs : UInt32) (verified : Bool)

namespace Approach
variable (hmac : Hmac) (backup : Backup)

def serve (web : WebService) (a : Approach) : WebService × Response :=
  web.handleClient hmac backup a.bus a.request

def step (web : WebService) (a : Approach) : WebService := (serve hmac backup web a).1

def answer (web : WebService) (a : Approach) : Option Response :=
  if a.outsider then some (serve hmac backup web a).2 else none

def glimpse (a : Approach) : Option Glimpse :=
  if a.outsider then some (.asked a.request.route a.request.nowMs a.request.apActive)
  else if a.request.route = .login then some (.loggedIn a.request.nowMs a.verified)
  else none

def Unused (nowMs : UInt32) (before after : Session) : Prop :=
  after = before ∨ after = {} ∧
    WebSessionPolicy.expired before.sessionCreatedAt before.sessionLastActivityAt nowMs = true

/-- An outsider brings neither the cookie of a session that is open nor the right password. -/
structure Fits (web : WebService) (a : Approach) : Prop where
  verified : a.request.route = .login → a.verified =
    (a.request.hasArg .password && web.security.verifyAdminPassword hmac (a.request.arg .password))
  outside : a.outsider = true →
    (web.authenticated a.request).2 = false ∧ (a.request.route = .login → a.verified = false)

/-- The configuration, in memory and in flash, the password and a restart that is due are what they
were, and so is the session, unless its time is over and it has ended. -/
def LeavesAlone (nowMs : UInt32) (before after : WebService) : Prop :=
  ∃ session, Unused nowMs before.session session ∧
    after = { before with session := session, loginThrottle := after.loginThrottle }

end Approach

/-! The answers to an outsider. -/

def loginRefusal (nowMs : UInt32) (throttle : LoginThrottle) : Response :=
  if throttle.allowed nowMs then { status := 401, body := .text "Invalid credentials" }
  else
    { status := 429, body := .text "Too many attempts; try again later.",
      retryAfter := some (throttle.retryAfterSeconds nowMs) }

def outsiderAnswer (nowMs : UInt32) (apActive : Bool) (throttle : LoginThrottle) :
    Route → Response
  | .root => { status := 200, body := .loginPage }
  | .login => loginRefusal nowMs throttle
  | .notFound =>
    if apActive then { status := 302, body := .text "", location := some "/" }
    else { status := 404, body := .text "Not found" }
  | _ => { status := 401, body := .text "Authentication required" }

theorem Session.unauthenticated_unused (nowMs : UInt32) (cookie : Bytes) (session : Session)
    (unauthenticated : (session.authenticated nowMs cookie).2 = false) :
    Approach.Unused nowMs session (session.authenticated nowMs cookie).1 := by
  unfold Session.authenticated at unauthenticated ⊢
  cases closed : session.sessionToken.isEmpty with
  | true =>
    rw [if_pos rfl]
    exact .inl rfl
  | false =>
    rw [closed, if_neg Bool.false_ne_true] at unauthenticated
    rw [if_neg Bool.false_ne_true]
    cases ended : WebSessionPolicy.expired session.sessionCreatedAt session.sessionLastActivityAt
        nowMs with
    | true =>
      rw [if_pos rfl]
      exact .inr ⟨rfl, ended⟩
    | false =>
      rw [ended, if_neg Bool.false_ne_true] at unauthenticated
      rw [if_neg Bool.false_ne_true]
      cases carried : WebSessionPolicy.hasSessionCookie cookie session.sessionToken with
      | false =>
        rw [Bool.not_false, if_pos rfl]
        exact .inl rfl
      | true =>
        rw [carried, Bool.not_true, if_neg Bool.false_ne_true] at unauthenticated
        cases unauthenticated

section requests
variable (hmac : Hmac) (backup : Backup) (bus : EventBus 32) (request : Request)
variable (web : WebService)

theorem handleLogin_throttle (verified : Bool)
    (credentials : verified =
      (request.hasArg .password && web.security.verifyAdminPassword hmac (request.arg .password))) :
    (web.handleLogin hmac request).1.loginThrottle =
      (web.loginThrottle.attempt request.nowMs verified).1 := by
  unfold WebService.handleLogin LoginThrottle.attempt
  cases web.loginThrottle.allowed request.nowMs with
  | false => rfl
  | true =>
    rw [← Bool.not_and, ← credentials]
    cases verified <;> rfl

theorem handleLogin_refused
    (credentials : (request.hasArg .password &&
      web.security.verifyAdminPassword hmac (request.arg .password)) = false) :
    web.handleLogin hmac request =
      ({ web with loginThrottle := (web.loginThrottle.attempt request.nowMs false).1 },
        loginRefusal request.nowMs web.loginThrottle) := by
  unfold WebService.handleLogin LoginThrottle.attempt loginRefusal
  cases web.loginThrottle.allowed request.nowMs with
  | false => rfl
  | true =>
    rw [← Bool.not_and, credentials]
    rfl

/-- The answer to an outsider, and what is left behind. -/
theorem handleClient_outsider (unauthenticated : (web.authenticated request).2 = false)
    (unverified : request.route = .login → (request.hasArg .password &&
      web.security.verifyAdminPassword hmac (request.arg .password)) = false) :
    (web.handleClient hmac backup bus request).2 =
      outsiderAnswer request.nowMs request.apActive web.loginThrottle request.route ∧
    (web.handleClient hmac backup bus request).1.loginThrottle =
      (if request.route = .login then (web.loginThrottle.attempt request.nowMs false).1
        else web.loginThrottle) ∧
    Approach.LeavesAlone request.nowMs web (web.handleClient hmac backup bus request).1 := by
  have kept := Session.unauthenticated_unused request.nowMs request.cookie web.session
    unauthenticated
  have whole : web.authenticated request =
      ({ web with session := (web.session.authenticated request.nowMs request.cookie).1 }, false) :=
    Prod.ext rfl unauthenticated
  generalize (web.session.authenticated request.nowMs request.cookie).1 = session at kept whole
  have auth : web.requireAuth request = ({ web with session := session },
      some { status := 401, body := .text "Authentication required" }) := by
    rw [WebService.requireAuth, whole]
  have csrf : web.requireCsrf request = ({ web with session := session },
      some { status := 401, body := .text "Authentication required" }) := by
    rw [WebService.requireCsrf, auth]
  have alone : Approach.LeavesAlone request.nowMs web { web with session := session } :=
    ⟨session, kept, rfl⟩
  have still : Approach.Unused request.nowMs web.session web.session := .inl rfl
  unfold WebService.handleClient
  cases route : request.route with
  | root =>
    dsimp only
    rw [WebService.handleRoot, whole]
    exact ⟨rfl, rfl, alone⟩
  | login =>
    dsimp only
    rw [handleLogin_refused hmac request web (unverified route), if_pos rfl]
    exact ⟨rfl, rfl, web.session, still, rfl⟩
  | logout =>
    dsimp only
    rw [WebService.handleLogout, csrf]
    exact ⟨rfl, rfl, alone⟩
  | changePasswordPage =>
    dsimp only
    rw [WebService.handleChangePasswordPage, auth]
    exact ⟨rfl, rfl, alone⟩
  | changePassword =>
    dsimp only
    rw [WebService.handleChangePassword, csrf]
    exact ⟨rfl, rfl, alone⟩
  | status =>
    dsimp only
    rw [WebService.handleStatus, auth]
    exact ⟨rfl, rfl, alone⟩
  | events =>
    dsimp only
    rw [WebService.handleEvents, auth]
    exact ⟨rfl, rfl, alone⟩
  | componentConfig =>
    dsimp only
    rw [WebService.handleComponentConfig, csrf]
    exact ⟨rfl, rfl, alone⟩
  | networkConfig =>
    dsimp only
    rw [WebService.handleNetworkConfig, csrf]
    exact ⟨rfl, rfl, alone⟩
  | mqttConfig =>
    dsimp only
    rw [WebService.handleMqttConfig, csrf]
    exact ⟨rfl, rfl, alone⟩
  | backupDownload =>
    dsimp only
    rw [WebService.handleBackupDownload, csrf]
    exact ⟨rfl, rfl, alone⟩
  | backupRestore =>
    dsimp only
    rw [WebService.handleBackupRestore, csrf]
    exact ⟨rfl, rfl, alone⟩
  | reboot =>
    dsimp only
    rw [WebService.handleReboot, csrf]
    exact ⟨rfl, rfl, alone⟩
  | notFound =>
    dsimp only
    unfold WebService.handleNotFound outsiderAnswer
    cases request.apActive <;> exact ⟨rfl, rfl, web.session, still, rfl⟩

/-! Only a login changes the throttle. -/

theorem authenticated_throttle :
    (web.authenticated request).1.loginThrottle = web.loginThrottle := rfl

theorem guarded_page (proceed : WebService → WebService × Response)
    (keeps : ∀ admitted, (proceed admitted).1.loginThrottle = admitted.loginThrottle) :
    (match web.requireAuth request with
      | (web, some refusal) => (web, refusal)
      | (web, none) => proceed web).1.loginThrottle = web.loginThrottle := by
  rcases requireAuth_cases request web with ⟨refusal, refused, -⟩ | ⟨passed, -⟩
  · rw [refused]
    rfl
  · rw [passed]
    exact keeps _

theorem guarded_throttle (proceed : WebService → WebService × Response)
    (keeps : ∀ admitted, (proceed admitted).1.loginThrottle = admitted.loginThrottle) :
    (match web.requireCsrf request with
      | (web, some refusal) => (web, refusal)
      | (web, none) => proceed web).1.loginThrottle = web.loginThrottle := by
  rcases requireCsrf_cases request web with ⟨refusal, refused, -⟩ | ⟨passed, -⟩
  · rw [refused]
    rfl
  · rw [passed]
    exact keeps _

theorem saving_throttle (config : DeviceConfig) (failed done : Response)
    (finish : WebService → WebService)
    (finished : ∀ after, (finish after).loginThrottle = after.loginThrottle) :
    (match web.saveConfig config request with
      | (after, false) => (after, failed)
      | (after, true) => (finish after, done)).1.loginThrottle = web.loginThrottle := by
  have kept : (web.saveConfig config request).1.loginThrottle = web.loginThrottle := rfl
  generalize web.saveConfig config request = result at kept ⊢
  obtain ⟨after, _ | _⟩ := result
  · exact kept
  · exact (finished after).trans kept

theorem scheduleReboot_throttle :
    (web.scheduleReboot request).loginThrottle = web.loginThrottle := by
  unfold WebService.scheduleReboot
  rfl

theorem either_throttle (refused : Prop) [Decidable refused]
    (refusal accepted : WebService × Response) (first : refusal.1.loginThrottle = web.loginThrottle)
    (second : accepted.1.loginThrottle = web.loginThrottle) :
    (if refused then refusal else accepted).1.loginThrottle = web.loginThrottle := by
  split
  · exact first
  · exact second

theorem handleClient_throttle (other : request.route ≠ .login) :
    (web.handleClient hmac backup bus request).1.loginThrottle = web.loginThrottle := by
  unfold WebService.handleClient
  cases route : request.route with
  | login => exact absurd route other
  | root =>
    dsimp only
    unfold WebService.handleRoot
    have kept := authenticated_throttle request web
    generalize web.authenticated request = checked at kept ⊢
    obtain ⟨after, _ | _⟩ := checked
    · exact kept
    · dsimp only
      split <;> exact kept
  | logout => exact guarded_throttle request web _ fun _ => rfl
  | changePasswordPage => exact guarded_page request web _ fun _ => rfl
  | changePassword =>
    refine guarded_throttle request web _ fun admitted => ?_
    split
    · rfl
    · split <;> rfl
  | status => exact guarded_page request web _ fun _ => rfl
  | events =>
    refine guarded_page request web _ fun admitted => ?_
    split <;> rfl
  | componentConfig =>
    refine guarded_throttle request web _ fun admitted => ?_
    refine either_throttle admitted _ _ _ rfl ?_
    exact saving_throttle request _ _ _ _ (fun after => after) fun _ => rfl
  | networkConfig =>
    refine guarded_throttle request web _ fun admitted => ?_
    refine either_throttle admitted _ _ _ rfl ?_
    exact saving_throttle request _ _ _ _ _ (scheduleReboot_throttle request)
  | mqttConfig =>
    refine guarded_throttle request web _ fun admitted => ?_
    dsimp only
    cases WebService.parseUint16Arg (request.arg .port) 1 65535 with
    | none => rfl
    | some port =>
      cases WebService.parseUint16Arg (request.arg .publishInterval) 1 3600 with
      | none => rfl
      | some publishInterval =>
        refine either_throttle admitted _ _ _ rfl ?_
        exact saving_throttle request _ _ _ _ _ (scheduleReboot_throttle request)
  | backupDownload =>
    refine guarded_throttle request web _ fun admitted => ?_
    split
    · rfl
    · split
      · rfl
      · split <;> rfl
  | backupRestore =>
    refine guarded_throttle request web _ fun admitted => ?_
    dsimp only
    split
    · rfl
    · split
      · rfl
      · split
        · rfl
        · exact saving_throttle request _ _ _ _ _ fun after => scheduleReboot_throttle request _
  | reboot => exact guarded_throttle request web _ (scheduleReboot_throttle request)
  | notFound =>
    dsimp only
    unfold WebService.handleNotFound
    cases request.apActive <;> rfl

end requests

namespace Approach
variable (hmac : Hmac) (backup : Backup)

theorem glimpse_cases (a : Approach) (known : Glimpse) (label : a.glimpse = some known) :
    (a.outsider = true ∧ known = .asked a.request.route a.request.nowMs a.request.apActive) ∨
    (a.outsider = false ∧ a.request.route = .login ∧
      known = .loggedIn a.request.nowMs a.verified) := by
  unfold glimpse at label
  cases outsider : a.outsider with
  | true =>
    rw [outsider, if_pos rfl] at label
    exact .inl ⟨rfl, (Option.some.inj label).symm⟩
  | false =>
    rw [outsider, if_neg Bool.false_ne_true] at label
    split at label
    · rename_i login
      exact .inr ⟨rfl, login, (Option.some.inj label).symm⟩
    · cases label

theorem turnedAway (web : WebService) (a : Approach) (fits : Fits hmac web a)
    (outsider : a.outsider = true) :
    answer hmac backup web a = some (outsiderAnswer a.request.nowMs a.request.apActive
      web.loginThrottle a.request.route) ∧
    (step hmac backup web a).loginThrottle =
      (if a.request.route = .login then (web.loginThrottle.attempt a.request.nowMs false).1
        else web.loginThrottle) ∧
    LeavesAlone a.request.nowMs web (step hmac backup web a) := by
  obtain ⟨unauthenticated, unverified⟩ := fits.outside outsider
  obtain ⟨answered, throttled, alone⟩ :=
    handleClient_outsider hmac backup a.bus a.request web unauthenticated fun login =>
      (fits.verified login).symm.trans (unverified login)
  refine ⟨?_, throttled, alone⟩
  unfold answer serve
  rw [outsider, if_pos rfl, answered]

theorem answer_inside (web : WebService) (a : Approach) (inside : a.outsider = false) :
    answer hmac backup web a = none := by
  unfold answer
  rw [inside, if_neg Bool.false_ne_true]

theorem step_login (web : WebService) (a : Approach) (fits : Fits hmac web a)
    (login : a.request.route = .login) :
    (step hmac backup web a).loginThrottle =
      (web.loginThrottle.attempt a.request.nowMs a.verified).1 := by
  unfold step serve WebService.handleClient
  rw [login]
  exact handleLogin_throttle hmac a.request web a.verified (fits.verified login)

/-- States are alike to an outsider when the throttle is the same in them. -/
theorem unwinding : Unwinding (step hmac backup) (answer hmac backup) glimpse (Fits hmac)
    fun web other => web.loginThrottle = other.loginThrottle where
  symm _ _ same := same.symm
  hidden web other a same unlabelled fits := by
    unfold glimpse at unlabelled
    cases outsider : a.outsider with
    | true =>
      rw [outsider, if_pos rfl] at unlabelled
      cases unlabelled
    | false =>
      rw [outsider, if_neg Bool.false_ne_true] at unlabelled
      have elsewhere : a.request.route ≠ .login := by
        intro login
        rw [if_pos login] at unlabelled
        cases unlabelled
      have kept := handleClient_throttle hmac backup a.bus a.request other elsewhere
      exact ⟨same.trans kept.symm, answer_inside hmac backup other a outsider⟩
  shared web other a b known same first second fits fits' := by
    obtain ⟨outsider, asked⟩ | ⟨inside, login, tried⟩ := glimpse_cases a known first
    · obtain ⟨outsider', asked'⟩ | ⟨-, -, tried⟩ := glimpse_cases b known second
      · obtain ⟨route, now, apActive⟩ := Glimpse.asked.inj (asked.symm.trans asked')
        obtain ⟨answered, throttled, -⟩ := turnedAway hmac backup web a fits outsider
        obtain ⟨answered', throttled', -⟩ := turnedAway hmac backup other b fits' outsider'
        rw [answered, answered', throttled, throttled', same, route, now, apActive]
        exact ⟨rfl, rfl⟩
      · rw [asked] at tried
        cases tried
    · obtain ⟨-, asked⟩ | ⟨inside', login', tried'⟩ := glimpse_cases b known second
      · rw [tried] at asked
        cases asked
      · obtain ⟨now, verified⟩ := Glimpse.loggedIn.inj (tried.symm.trans tried')
        rw [step_login hmac backup web a fits login, step_login hmac backup other b fits' login',
          answer_inside hmac backup web a inside, answer_inside hmac backup other b inside', same,
          now, verified]
        exact ⟨rfl, rfl⟩

/-- An outsider learns nothing and changes nothing. Take any two runs of the service, with any
configuration, passwords, sessions, events and requests in a session, in which the outsiders ask
the same and the logins of others end the same: the answers to the outsiders are the same in both.
And in every run the requests of the outsiders leave everything alone but the throttle. -/
theorem outsider_blind (web other : WebService) (approaches others : List Approach)
    (throttle : web.loginThrottle = other.loginThrottle)
    (known : approaches.filterMap glimpse = others.filterMap glimpse)
    (fits : Always (step hmac backup) (Fits hmac) web approaches)
    (fits' : Always (step hmac backup) (Fits hmac) other others) :
    seen (step hmac backup) (answer hmac backup) web approaches =
      seen (step hmac backup) (answer hmac backup) other others ∧
    Always (step hmac backup)
      (fun web a => a.outsider = true →
        LeavesAlone a.request.nowMs web (step hmac backup web a)) web approaches := by
  constructor
  · exact ((unwinding hmac backup).indistinguishable web other approaches others throttle known
      fits fits').1
  · exact fits.mono _ fun web a fits outsider => (turnedAway hmac backup web a fits outsider).2.2

/-! Runs on fixed inputs. -/

def asks (route : Route) : Approach := { request := { route := route }, outsider := true }

def homeService : WebService :=
  { config := { network := { ssid := ascii "home" } }, session := firstSession }

def statusInSession : Approach :=
  { request := { route := .status, cookie := firstCookie }, outsider := false }

theorem asks_fits (web : WebService) (route : Route)
    (unauthenticated : (web.authenticated { route := route }).2 = false) :
    Fits sha256Hmac web (asks route) :=
  ⟨fun _ => rfl, fun _ => ⟨unauthenticated, fun _ => rfl⟩⟩

/-- Beside a session that asks for the status, somebody without it sees what a device without
configuration shows. -/
theorem outsider_blind_session :
    let inSession := [asks .root, statusInSession, asks .login, asks .events, asks .notFound]
    let alone := [asks .root, asks .login, asks .events, asks .notFound]
    seen (step sha256Hmac noBackup) (answer sha256Hmac noBackup) homeService inSession =
      seen (step sha256Hmac noBackup) (answer sha256Hmac noBackup) {} alone ∧
    Always (step sha256Hmac noBackup)
      (fun web a => a.outsider = true →
        LeavesAlone a.request.nowMs web (step sha256Hmac noBackup web a)) homeService inSession := by
  refine outsider_blind sha256Hmac noBackup homeService {} _ _ rfl rfl ?_ ?_
  · simp only [always_cons, always_nil, and_true]
    refine ⟨asks_fits _ _ (by decide +kernel), ⟨?_, ?_⟩, asks_fits _ _ (by decide +kernel),
      asks_fits _ _ (by decide +kernel), asks_fits _ _ (by decide +kernel)⟩
    · intro login
      cases login
    · intro outside
      cases outside
  · simp only [always_cons, always_nil, and_true]
    exact ⟨asks_fits _ _ (by decide +kernel), asks_fits _ _ (by decide +kernel),
      asks_fits _ _ (by decide +kernel), asks_fits _ _ (by decide +kernel)⟩

end Approach

end Web
