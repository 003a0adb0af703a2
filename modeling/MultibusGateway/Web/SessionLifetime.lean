import MultibusGateway.Library.WrapClock
import MultibusGateway.Web.ConfigurationForms
import MultibusGateway.Web.CookieGrammar

/-! The session of the administrator in true time. The device compares differences of a clock
that wraps, and only when a request arrives, so a session that nobody has looked at for a whole
period of the clock may be taken for one that has just been used. -/

namespace Web
open ByteString Preferences Config Security Events Execution WrapClock

/-! What a request does to the session. -/

def Route.checksSession : Route → Bool
  | .login | .notFound => false
  | _ => true

/-- The session and the cookie after a request: the session that the check has left, a new one,
or none after a logout. -/
inductive SessionServed (request : Request) (valid : Bool) (checked : Session) :
    Session → Option Bytes → Prop
  | kept : SessionServed request valid checked checked none
  | made (random : Random) (cookie : Bytes) (other : request.route ≠ .logout)
      (admitted : request.route = .login ∨ valid = true) :
      SessionServed request valid checked (Session.createSession request.doneMs random)
        (some cookie)
  | ended (cookie : Bytes) (logout : request.route = .logout) :
      SessionServed request valid checked {} (some cookie)

section served
variable (request : Request) (web : WebService)

theorem requireAuth_cases :
    (∃ refusal : Response, web.requireAuth request =
        ((web.authenticated request).1, some refusal) ∧ refusal.setCookie = none) ∨
    web.requireAuth request = ((web.authenticated request).1, none) ∧
      (web.authenticated request).2 = true := by
  unfold WebService.requireAuth
  generalize web.authenticated request = checked
  obtain ⟨after, _ | _⟩ := checked
  · exact Or.inl ⟨_, rfl, rfl⟩
  · exact Or.inr ⟨rfl, rfl⟩

theorem requireCsrf_cases :
    (∃ refusal : Response, web.requireCsrf request =
        ((web.authenticated request).1, some refusal) ∧ refusal.setCookie = none) ∨
    web.requireCsrf request = ((web.authenticated request).1, none) ∧
      (web.authenticated request).2 = true := by
  unfold WebService.requireCsrf
  rcases requireAuth_cases request web with ⟨refusal, refused, uncookied⟩ | ⟨passed, valid⟩
  · rw [refused]
    exact Or.inl ⟨refusal, rfl, uncookied⟩
  · rw [passed]
    dsimp only
    split
    · exact Or.inl ⟨_, rfl, rfl⟩
    · exact Or.inr ⟨rfl, valid⟩

def Serves (valid : Bool) (checked : Session) (result : WebService × Response) : Prop :=
  SessionServed request valid checked result.1.session result.2.setCookie

theorem serves_form (valid : Bool) (checked : WebService) (answers : FormAnswers)
    (requested : Option DeviceConfig) :
    Serves request valid checked.session (answers.answer request checked requested) := by
  obtain ⟨refusal, failure, success⟩ := answers.uncookied
  cases requested with
  | none =>
    rw [FormAnswers.answer, Serves, refusal]
    exact .kept
  | some next =>
    have session : (({ checked with config := next }).saveConfig next request).1.session =
      checked.session := rfl
    rw [FormAnswers.answer, Serves]
    generalize ({ checked with config := next }).saveConfig next request = result at session ⊢
    obtain ⟨after, _ | _⟩ := result
    · rw [failure, ← session]
      exact .kept
    · rw [success, answers.finished, ← session]
      exact .kept

theorem serves_root : Serves request (web.authenticated request).2
    (web.authenticated request).1.session (web.handleRoot request) := by
  unfold WebService.handleRoot
  generalize web.authenticated request = checked
  obtain ⟨after, _ | _⟩ := checked
  · exact .kept
  · dsimp only
    split <;> exact .kept

theorem serves_login (hmac : Hmac) (route : request.route = .login) (valid : Bool) :
    Serves request valid web.session (web.handleLogin hmac request) := by
  unfold WebService.handleLogin
  split
  · exact .kept
  · split
    · exact .kept
    · exact .made _ _ (by rw [route]; decide) (Or.inl route)

theorem serves_guarded (proceed : WebService → WebService × Response)
    (passes : (web.authenticated request).2 = true →
      Serves request (web.authenticated request).2 (web.authenticated request).1.session
        (proceed (web.authenticated request).1)) :
    Serves request (web.authenticated request).2 (web.authenticated request).1.session
      (match web.requireCsrf request with
        | (web, some refusal) => (web, refusal)
        | (web, none) => proceed web) := by
  rcases requireCsrf_cases request web with ⟨refusal, refused, uncookied⟩ | ⟨passed, valid⟩
  · rw [refused, Serves, uncookied]
    exact .kept
  · rw [passed]
    exact passes valid

theorem serves_logout (route : request.route = .logout) :
    Serves request (web.authenticated request).2
      (web.authenticated request).1.session (web.handleLogout request) := by
  unfold WebService.handleLogout
  refine serves_guarded request web _ fun _ => ?_
  exact .ended _ route

theorem serves_pages (bus : EventBus 32) :
    let checked := (web.authenticated request).1.session
    let valid := (web.authenticated request).2
    Serves request valid checked (web.handleChangePasswordPage request) ∧
    Serves request valid checked (web.handleStatus request) ∧
    Serves request valid checked (web.handleEvents bus request) := by
  unfold WebService.handleChangePasswordPage WebService.handleStatus WebService.handleEvents
  rcases requireAuth_cases request web with ⟨refusal, refused, uncookied⟩ | ⟨passed, -⟩
  · rw [refused]
    simp only [Serves, uncookied]
    exact ⟨.kept, .kept, .kept⟩
  · rw [passed]
    refine ⟨.kept, .kept, ?_⟩
    dsimp only
    split <;> exact .kept

theorem serves_changePassword (hmac : Hmac) (route : request.route = .changePassword) :
    Serves request (web.authenticated request).2
      (web.authenticated request).1.session (web.handleChangePassword hmac request) := by
  unfold WebService.handleChangePassword
  refine serves_guarded request web _ fun valid => ?_
  dsimp only
  split
  · exact .kept
  · split
    · exact .made _ _ (by rw [route]; decide) (Or.inr valid)
    · exact .kept

theorem serves_download (backup : Backup) :
    Serves request (web.authenticated request).2
      (web.authenticated request).1.session (web.handleBackupDownload backup request) := by
  unfold WebService.handleBackupDownload
  refine serves_guarded request web _ fun _ => ?_
  split
  · exact .kept
  · split
    · exact .kept
    · split <;> exact .kept

theorem serves_restore (backup : Backup) (route : request.route = .backupRestore) :
    Serves request (web.authenticated request).2
      (web.authenticated request).1.session (web.handleBackupRestore backup request) := by
  unfold WebService.handleBackupRestore
  refine serves_guarded request web _ fun valid => ?_
  dsimp only
  split
  · exact .kept
  · split
    · exact .kept
    · split
      · exact .kept
      · rename_i restored _
        have session : ((web.authenticated request).1.saveConfig restored request).1.session =
          (web.authenticated request).1.session := rfl
        generalize (web.authenticated request).1.saveConfig restored request = result
          at session ⊢
        obtain ⟨after, _ | _⟩ := result
        · rw [← session]
          exact .kept
        · exact .made _ _ (by rw [route]; decide) (Or.inr valid)

theorem serves_reboot :
    Serves request (web.authenticated request).2
      (web.authenticated request).1.session (web.handleReboot request) := by
  unfold WebService.handleReboot
  refine serves_guarded request web _ fun _ => ?_
  exact .kept

def checkedSession : Session :=
  if request.route.checksSession then (web.authenticated request).1.session else web.session

theorem handleClient_serves (hmac : Hmac) (backup : Backup) (bus : EventBus 32) :
    Serves request (web.authenticated request).2 (checkedSession request web)
      (web.handleClient hmac backup bus request) := by
  have pages := serves_pages request web bus
  have forms (form : request.route ∈ [Route.componentConfig, .networkConfig, .mqttConfig]) :
      Serves request (web.authenticated request).2 (web.authenticated request).1.session
        (web.handleClient hmac backup bus request) := by
    have administrative : request.route.administrative = true := by
      generalize request.route = route at form ⊢
      revert form
      cases route <;> decide
    rcases requireCsrf_cases request web with ⟨refusal, refused, uncookied⟩ | ⟨passed, -⟩
    · rw [handleClient_refused hmac backup bus request web administrative refusal
        (congrArg Prod.snd refused), refused, Serves, uncookied]
      exact .kept
    · obtain ⟨answers, answered⟩ := handleClient_form hmac backup bus request web _ passed form
      rw [answered]
      exact serves_form request _ _ answers _
  unfold checkedSession
  cases route : request.route with
  | componentConfig | networkConfig | mqttConfig => exact forms (by rw [route]; decide)
  | root => rw [WebService.handleClient, route]; exact serves_root request web
  | login =>
    rw [WebService.handleClient, route]
    exact serves_login request web hmac route _
  | logout => rw [WebService.handleClient, route]; exact serves_logout request web route
  | changePasswordPage => rw [WebService.handleClient, route]; exact pages.1
  | changePassword =>
    rw [WebService.handleClient, route]
    exact serves_changePassword request web hmac route
  | status => rw [WebService.handleClient, route]; exact pages.2.1
  | events => rw [WebService.handleClient, route]; exact pages.2.2
  | backupDownload => rw [WebService.handleClient, route]; exact serves_download request web backup
  | backupRestore =>
    rw [WebService.handleClient, route]
    exact serves_restore request web backup route
  | reboot => rw [WebService.handleClient, route]; exact serves_reboot request web
  | notFound =>
    rw [WebService.handleClient, route]
    dsimp only
    unfold WebService.handleNotFound
    cases request.apActive <;> exact .kept

end served

/-! Requests in true time. -/

/-- A request, the events that there are, the time since the request before it was done, and the
time that its own work takes. -/
structure Visit where
  request : Request
  bus : EventBus 32 := {}
  idleMs : Nat := 0
  workMs : Nat := 0

structure OpenSession where
  token : Bytes
  createdMs : Nat
  activeMs : Nat

/-- The service at a true uptime, and the session that was created last, unless it was logged
out. -/
structure Watch where
  web : WebService
  uptimeMs : Nat := 0
  current : Option OpenSession := none

namespace Watch

def arrival (w : Watch) (v : Visit) : Nat := w.uptimeMs + v.idleMs

def done (w : Watch) (v : Visit) : Nat := w.arrival v + v.workMs

def timed (w : Watch) (v : Visit) : Request :=
  { v.request with nowMs := stamp (w.arrival v), doneMs := stamp (w.done v) }

/-- The request passes the check for a session. -/
def passes (w : Watch) (v : Visit) : Bool :=
  v.request.route.checksSession && (w.web.authenticated (w.timed v)).2

/-- A cookie with the answer is a new session, but for a logout. -/
def visit (hmac : Hmac) (backup : Backup) (w : Watch) (v : Visit) : Watch :=
  let (web, response) := w.web.handleClient hmac backup v.bus (w.timed v)
  { web := web
    uptimeMs := w.done v
    current :=
      if response.setCookie.isSome then
        if v.request.route = .logout then none
        else some ⟨web.session.sessionToken, w.done v, w.done v⟩
      else if w.passes v then
        w.current.map fun session => { session with activeMs := w.arrival v }
      else w.current }

/-- The session cookie of a request is the token of a session. -/
def Carries (v : Visit) (session : OpenSession) : Prop :=
  WebSessionPolicy.Granted (cStr session.token) (cStr v.request.cookie)

/-- A request that passes is one of the session that was created last and not logged out, within
twelve hours after that and half an hour after its last activity. Without its token a request
leaves the session as it is or ends it, unless it is a login. -/
structure Timely (hmac : Hmac) (backup : Backup) (w : Watch) (v : Visit) : Prop where
  passed : w.passes v = true → ∃ session, w.current = some session ∧ Carries v session ∧
    w.arrival v ≤ session.createdMs + 12 * 60 * 60 * 1000 ∧
    w.arrival v ≤ session.activeMs + 30 * 60 * 1000
  foreign : (∀ session, w.current = some session → ¬ Carries v session) →
    (w.visit hmac backup v).web.session = w.web.session ∨
    (w.visit hmac backup v).web.session = {} ∨ v.request.route = .login

/-- No request of a session that is still held comes after a whole period of the clock without
one, shortly after a multiple of the period. -/
def WithinPeriod (w : Watch) (v : Visit) : Prop :=
  ∀ session, w.current = some session → w.web.session.sessionToken ≠ [] →
    v.request.route.checksSession = true →
    WebSessionPolicy.hasSessionCookie v.request.cookie session.token = true →
    2 ^ 32 ≤ w.arrival v - session.activeMs →
    ¬ ((w.arrival v - session.createdMs) % 2 ^ 32 ≤ 12 * 60 * 60 * 1000 ∧
      (w.arrival v - session.activeMs) % 2 ^ 32 ≤ 30 * 60 * 1000)

structure Held (w : Watch) (session : OpenSession) : Prop where
  current : w.current = some session
  token : w.web.session.sessionToken = session.token
  created : w.web.session.sessionCreatedAt = stamp session.createdMs
  active : w.web.session.sessionLastActivityAt = stamp session.activeMs
  ordered : session.createdMs ≤ session.activeMs ∧ session.activeMs ≤ w.uptimeMs
  lifetime : session.activeMs ≤ session.createdMs + 12 * 60 * 60 * 1000

def InTime (w : Watch) : Prop :=
  w.web.session.sessionToken ≠ [] → ∃ session, Held w session

end Watch

/-! One request. -/

theorem Session.authenticated_cases (now : UInt32) (cookie : Bytes) (session : Session) :
    session.authenticated now cookie = ({ session with sessionLastActivityAt := now }, true) ∧
      session.sessionToken ≠ [] ∧
      WebSessionPolicy.expired session.sessionCreatedAt session.sessionLastActivityAt now = false ∧
      WebSessionPolicy.hasSessionCookie cookie session.sessionToken = true ∨
    (session.authenticated now cookie).2 = false ∧
      ((session.authenticated now cookie).1 = session ∨
        (session.authenticated now cookie).1 = {}) := by
  unfold Session.authenticated
  split
  · exact Or.inr ⟨rfl, Or.inl rfl⟩
  · rename_i opened
    split
    · exact Or.inr ⟨rfl, Or.inr rfl⟩
    · rename_i live
      split
      · exact Or.inr ⟨rfl, Or.inl rfl⟩
      · rename_i carried
        refine Or.inl ⟨rfl, ?_, Bool.eq_false_iff.mpr live, ?_⟩
        · exact fun empty => opened (List.isEmpty_iff.mpr empty)
        · simpa using carried

namespace Watch
variable (hmac : Hmac) (backup : Backup) (w : Watch) (v : Visit)

theorem expired_held (session : OpenSession) (held : Held w session) :
    WebSessionPolicy.expired w.web.session.sessionCreatedAt w.web.session.sessionLastActivityAt
        (w.timed v).nowMs = false ↔
      (w.arrival v - session.createdMs) % 2 ^ 32 ≤ 12 * 60 * 60 * 1000 ∧
      (w.arrival v - session.activeMs) % 2 ^ 32 ≤ 30 * 60 * 1000 := by
  obtain ⟨first, second⟩ := held.ordered
  have later : w.uptimeMs ≤ w.arrival v := Nat.le_add_right _ _
  have lifetime : WebSessionPolicy.kMaxLifetimeMs.toNat = 12 * 60 * 60 * 1000 := by decide
  have idle : WebSessionPolicy.kIdleTimeoutMs.toNat = 30 * 60 * 1000 := by decide
  unfold WebSessionPolicy.expired
  rw [held.created, held.active, Bool.or_eq_false_iff, decide_eq_false_iff_not,
    decide_eq_false_iff_not, gt_iff_lt, gt_iff_lt, UInt32.not_lt, UInt32.not_lt,
    UInt32.le_iff_toNat_le, UInt32.le_iff_toNat_le, lifetime, idle]
  dsimp only [timed]
  rw [elapsed_toNat _ _ (by omega), elapsed_toNat _ _ (by omega)]

/-- What it takes to pass. -/
theorem passes_iff (inTime : InTime w) :
    w.passes v = true ↔ v.request.route.checksSession = true ∧
      w.web.session.sessionToken ≠ [] ∧
      ∃ session, Held w session ∧
        WebSessionPolicy.hasSessionCookie v.request.cookie session.token = true ∧
        (w.arrival v - session.createdMs) % 2 ^ 32 ≤ 12 * 60 * 60 * 1000 ∧
        (w.arrival v - session.activeMs) % 2 ^ 32 ≤ 30 * 60 * 1000 := by
  have cases := Session.authenticated_cases (w.timed v).nowMs (w.timed v).cookie w.web.session
  unfold passes WebService.authenticated
  rw [Bool.and_eq_true]
  refine and_congr_right fun _ => ⟨fun valid => ?_, fun admitted => ?_⟩
  · rcases cases with ⟨-, opened, live, carried⟩ | ⟨invalid, -⟩
    · obtain ⟨session, held⟩ := inTime opened
      rw [held.token] at carried
      exact ⟨opened, session, held, carried, (expired_held w v session held).mp live⟩
    · exact absurd (invalid.symm.trans valid) Bool.false_ne_true
  · obtain ⟨opened, session, held, carried, times⟩ := admitted
    have live := (expired_held w v session held).mpr times
    rw [← held.token] at carried
    unfold Session.authenticated
    rw [if_neg (by simpa using opened), if_neg (by rw [live]; exact Bool.false_ne_true)]
    change (if !WebSessionPolicy.hasSessionCookie v.request.cookie w.web.session.sessionToken then
      _ else _ : Session × Bool).2 = true
    rw [carried]
    rfl

theorem timely_passed (inTime : InTime w) (within : WithinPeriod w v)
    (passed : w.passes v = true) :
    ∃ session, w.current = some session ∧ Carries v session ∧
      w.arrival v ≤ session.createdMs + 12 * 60 * 60 * 1000 ∧
      w.arrival v ≤ session.activeMs + 30 * 60 * 1000 := by
  obtain ⟨checks, opened, session, held, carried, times⟩ := (passes_iff w v inTime).mp passed
  have recent : ¬ 2 ^ 32 ≤ w.arrival v - session.activeMs := fun period =>
    within session held.current opened checks carried period times
  have ordered := held.ordered
  have lifetime := held.lifetime
  have later : w.uptimeMs ≤ w.arrival v := Nat.le_add_right _ _
  refine ⟨session, held.current, WebSessionPolicy.granted_of_hasSessionCookie _ _ carried, ?_, ?_⟩
  all_goals omega

theorem serves : Serves (w.timed v) (w.web.authenticated (w.timed v)).2
    (checkedSession (w.timed v) w.web)
    (w.web.handleClient hmac backup v.bus (w.timed v)) :=
  handleClient_serves (w.timed v) w.web hmac backup v.bus

theorem unauthenticated_of_foreign (inTime : InTime w)
    (foreign : ∀ session, w.current = some session → ¬ Carries v session) :
    (w.web.authenticated (w.timed v)).2 = false ∧
    ((w.web.authenticated (w.timed v)).1.session = w.web.session ∨
      (w.web.authenticated (w.timed v)).1.session = {}) := by
  rcases Session.authenticated_cases (w.timed v).nowMs (w.timed v).cookie w.web.session with
    ⟨-, opened, -, carried⟩ | invalid
  · obtain ⟨session, held⟩ := inTime opened
    rw [held.token] at carried
    exact absurd (WebSessionPolicy.granted_of_hasSessionCookie _ _ carried)
      (foreign session held.current)
  · exact invalid

theorem timely_foreign (inTime : InTime w)
    (foreign : ∀ session, w.current = some session → ¬ Carries v session) :
    (w.visit hmac backup v).web.session = w.web.session ∨
    (w.visit hmac backup v).web.session = {} ∨ v.request.route = .login := by
  obtain ⟨invalid, unextended⟩ := unauthenticated_of_foreign w v inTime foreign
  have served := serves hmac backup w v
  have after : (w.visit hmac backup v).web =
    (w.web.handleClient hmac backup v.bus (w.timed v)).1 := rfl
  rw [after]
  unfold Serves at served
  generalize (w.web.handleClient hmac backup v.bus (w.timed v)).1.session = session at served ⊢
  generalize (w.web.handleClient hmac backup v.bus (w.timed v)).2.setCookie = cookie at served
  cases served with
  | kept =>
    unfold checkedSession
    split
    · exact unextended.imp_right Or.inl
    · exact Or.inl rfl
  | made random cookie other admitted =>
    rcases admitted with login | valid
    · exact Or.inr (Or.inr login)
    · exact absurd (invalid.symm.trans valid) Bool.false_ne_true
  | ended cookie logout => exact Or.inr (Or.inl rfl)

theorem withinPeriod_of_timely (inTime : InTime w) (timely : Timely hmac backup w v) :
    WithinPeriod w v := by
  intro session current opened checks carried period times
  obtain ⟨session', held⟩ := inTime opened
  obtain rfl := Option.some.inj (current.symm.trans held.current)
  obtain ⟨other, current', -, -, recent⟩ := timely.passed
    ((passes_iff w v inTime).mpr ⟨checks, opened, session, held, carried, times⟩)
  obtain rfl := Option.some.inj (current.symm.trans current')
  omega

theorem inTime_checked (inTime : InTime w)
    (timely : w.passes v = true → ∃ session, w.current = some session ∧ Carries v session ∧
      w.arrival v ≤ session.createdMs + 12 * 60 * 60 * 1000 ∧
      w.arrival v ≤ session.activeMs + 30 * 60 * 1000)
    (after : Watch) (uptime : after.uptimeMs = w.done v)
    (session : after.web.session = checkedSession (w.timed v) w.web)
    (current : after.current = if w.passes v then
      w.current.map fun session => { session with activeMs := w.arrival v } else w.current) :
    InTime after := by
  intro opened
  have later : w.arrival v ≤ after.uptimeMs := by
    rw [uptime]
    exact Nat.le_add_right _ _
  have before : w.uptimeMs ≤ w.arrival v := Nat.le_add_right _ _
  have route : (w.timed v).route = v.request.route := rfl
  have same (unchanged : after.web.session = w.web.session) (failed : w.passes v = false) :
      ∃ session, Held after session := by
    rw [unchanged] at opened
    obtain ⟨session, held⟩ := inTime opened
    rw [failed] at current
    refine ⟨session, current.trans held.current, ?_, ?_, ?_, ⟨held.ordered.1, ?_⟩, held.lifetime⟩
    · rw [unchanged, held.token]
    · rw [unchanged, held.created]
    · rw [unchanged, held.active]
    · have ordered := held.ordered.2
      omega
  unfold checkedSession at session
  rw [route] at session
  cases checks : v.request.route.checksSession with
  | false =>
    rw [checks] at session
    exact same session (by rw [passes, checks, Bool.false_and])
  | true =>
    rw [checks, if_pos rfl] at session
    rcases Session.authenticated_cases (w.timed v).nowMs (w.timed v).cookie w.web.session with
      ⟨valid, alive, -, -⟩ | ⟨invalid, unextended⟩
    · have passed : w.passes v = true := by
        rw [passes, checks, WebService.authenticated, valid]
        rfl
      have extended : after.web.session =
          { w.web.session with sessionLastActivityAt := stamp (w.arrival v) } := by
        rw [session, WebService.authenticated, valid]
        rfl
      obtain ⟨known, held⟩ := inTime alive
      obtain ⟨known', current', -, lifetime, -⟩ := timely passed
      obtain rfl := Option.some.inj (held.current.symm.trans current')
      rw [passed, if_pos rfl, held.current] at current
      have ordered := held.ordered
      refine ⟨{ known with activeMs := w.arrival v }, current, ?_, ?_, ?_, ⟨?_, later⟩, lifetime⟩
      · rw [extended, ← held.token]
      · rw [extended, ← held.created]
      · rw [extended]
      · dsimp only
        omega
    · have failed : w.passes v = false := by
        rw [passes, WebService.authenticated]
        dsimp only
        rw [invalid, Bool.and_false]
      rcases unextended with kept | ended
      · exact same (session.trans kept) failed
      · exact absurd (congrArg Session.sessionToken (session.trans ended)) opened

/-- The session that is held stays the one that was created last. -/
theorem inTime_visit (inTime : InTime w) (timely : Timely hmac backup w v) :
    InTime (w.visit hmac backup v) := by
  have served := serves hmac backup w v
  have session : (w.visit hmac backup v).web.session =
    (w.web.handleClient hmac backup v.bus (w.timed v)).1.session := rfl
  have current : (w.visit hmac backup v).current =
    if (w.web.handleClient hmac backup v.bus (w.timed v)).2.setCookie.isSome then
      if v.request.route = .logout then none
      else some ⟨(w.visit hmac backup v).web.session.sessionToken, w.done v, w.done v⟩
    else if w.passes v then
      w.current.map fun session => { session with activeMs := w.arrival v }
    else w.current := rfl
  unfold Serves at served
  generalize (w.web.handleClient hmac backup v.bus (w.timed v)).1.session = left
    at served session
  generalize (w.web.handleClient hmac backup v.bus (w.timed v)).2.setCookie = cookie
    at served current
  cases served with
  | kept => exact inTime_checked w v inTime timely.passed _ rfl session current
  | made random cookie other admitted =>
    intro _
    have unended : v.request.route ≠ .logout := other
    rw [Option.isSome_some, if_pos rfl, if_neg unended] at current
    refine ⟨_, current, rfl, ?_, ?_, ⟨Nat.le_refl _, Nat.le_refl _⟩, Nat.le_add_right _ _⟩
    · rw [session]
      rfl
    · rw [session]
      rfl
  | ended cookie logout =>
    intro opened
    rw [session] at opened
    exact absurd rfl opened

def booted (web : WebService) : Watch where
  web := { web with session := {} }

/-- Along every run of requests, sessions end in time exactly as far as no request comes a period
of the clock after the last one of a session that is still held. -/
theorem sessions_timely_iff (web : WebService) (visits : List Visit) :
    Always (visit hmac backup) (Timely hmac backup) (booted web) visits ↔
      Always (visit hmac backup) WithinPeriod (booted web) visits := by
  refine always_iff (visit hmac backup) InTime _ _ (fun w v inTime => ?_)
    (fun w v inTime timely => inTime_visit hmac backup w v inTime timely) _ _
    fun opened => absurd rfl opened
  constructor
  · exact withinPeriod_of_timely hmac backup w v inTime
  · exact fun within => ⟨timely_passed w v inTime within, timely_foreign hmac backup w v inTime⟩

/-! A run on fixed inputs. -/

theorem active_of_first (web : WebService) (v : Visit) (session : OpenSession)
    (current : ((booted web).visit hmac backup v).current = some session) :
    session.activeMs = (booted web).done v := by
  unfold visit at current
  dsimp only at current
  split at current
  · split at current
    · cases current
    · rw [← Option.some.inj current]
  · split at current <;> cases current

def periodLater : Visit where
  request := { route := .root, cookie := firstCookie }
  idleMs := 2 ^ 32

theorem passes_later (w : Watch) (session : w.web.session = firstSession)
    (start : w.uptimeMs = 0) : w.passes periodLater = true := by
  have now : stamp (w.arrival periodLater) = 0 := by
    rw [arrival, start, periodLater]
    decide
  have valid : (firstSession.authenticated 0 firstCookie).2 = true := by
    decide +kernel
  rw [passes, WebService.authenticated, session, timed, now, Bool.and_eq_true]
  exact ⟨rfl, valid⟩

theorem login_then_period (hmac : Hmac) (security : SecurityStore)
    (accepted : security.verifyAdminPassword hmac security.initialAdminPassword = true) :
    ¬ Always (visit hmac noBackup) (Timely hmac noBackup) (booted { security := security })
      [{ request := loginWith security.initialAdminPassword }, periodLater] := by
  intro always
  have timely := ((always_cons _ _ _ _ _).mp ((always_cons _ _ _ _ _).mp always).2).1
  have login : ((booted { security := security }).visit hmac noBackup
      { request := loginWith security.initialAdminPassword }).web.session = firstSession :=
    congrArg WebService.session (handleLogin_accepts hmac
      (loginWith security.initialAdminPassword) { security := security }
      security.initialAdminPassword rfl rfl accepted)
  have later : ((booted { security := security }).visit hmac noBackup
      { request := loginWith security.initialAdminPassword }).arrival periodLater = 2 ^ 32 :=
    Nat.zero_add _
  obtain ⟨session, current, -, -, recent⟩ := timely.passed (passes_later _ login rfl)
  have active : session.activeMs = 0 := active_of_first hmac noBackup _ _ session current
  rw [active, later] at recent
  omega

/-- A login lets a request pass again after forty-nine days without one. -/
theorem session_outlives_period :
    let provisioned := (SecurityStore.begin sha256Hmac true (fun _ => 0) {}).1
    ¬ Always (visit sha256Hmac noBackup) (Timely sha256Hmac noBackup)
      (booted { security := provisioned })
      [{ request := loginWith provisioned.initialAdminPassword }, periodLater] := by
  intro provisioned
  have begun := begin_fresh sha256Hmac (fun _ => 0) (fun _ => none) rfl
    (begin_succeeds sha256Hmac (fun _ _ => rfl) _ _)
  exact login_then_period sha256Hmac provisioned begun.2.2.2

end Watch

end Web
