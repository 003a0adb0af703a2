import MultibusGateway.Library.Execution
import MultibusGateway.Library.WrapClock

/-! The throttle of the login. Five failures in a row start a lockout, the lockouts grow until
a login succeeds, and the end of a lockout is kept as a value of the wrapping clock, where
zero stands for no lockout. -/

namespace Web
open WrapClock Execution

structure LoginThrottle where
  failureCount : UInt8 := 0
  lockTier : UInt8 := 0
  lockUntilMs : UInt32 := 0
  deriving DecidableEq, Inhabited

namespace LoginThrottle

def kFailuresBeforeLock : UInt8 := 5

def kMaxLockTier : UInt8 := 5

def kInitialLockMs : UInt32 := 30000

def kMaximumLockMs : UInt32 := 15 * 60 * 1000

def allowed (nowMs : UInt32) (throttle : LoginThrottle) : Bool :=
  throttle.lockUntilMs == 0 || WrapClock.reached nowMs throttle.lockUntilMs

def retryAfterSeconds (nowMs : UInt32) (throttle : LoginThrottle) : UInt32 :=
  if throttle.allowed nowMs then 0 else (throttle.lockUntilMs - nowMs + 999) / 1000

def lockMs (lockTier : UInt8) : UInt32 :=
  let tier := if lockTier < kMaxLockTier then lockTier else kMaxLockTier
  let lockMs := kInitialLockMs <<< tier.toUInt32
  if lockMs > kMaximumLockMs then kMaximumLockMs else lockMs

def recordFailure (nowMs : UInt32) (throttle : LoginThrottle) : LoginThrottle :=
  if !throttle.allowed nowMs then throttle
  else
    let failureCount :=
      if throttle.failureCount < 255 then throttle.failureCount + 1 else throttle.failureCount
    if failureCount < kFailuresBeforeLock then { throttle with failureCount := failureCount }
    else
      { failureCount := 0
        lockTier :=
          if throttle.lockTier < kMaxLockTier then throttle.lockTier + 1 else throttle.lockTier
        lockUntilMs := nowMs + lockMs throttle.lockTier }

def recordSuccess (throttle : LoginThrottle) : LoginThrottle :=
  { throttle with failureCount := 0, lockTier := 0, lockUntilMs := 0 }

def attempt (nowMs : UInt32) (verified : Bool) (throttle : LoginThrottle) : LoginThrottle × Bool :=
  if !throttle.allowed nowMs then (throttle, false)
  else if verified then (throttle.recordSuccess, true)
  else (throttle.recordFailure nowMs, true)

end LoginThrottle

/-! Logins in true time. -/

structure Attempt where
  afterMs : Nat
  verified : Bool

/-- The throttle at a true uptime, with what has happened so far: the failures in a row since
the last lockout or success, the lockouts since the last success, the failure that started the
last lockout and the time that this one is to last, and its end while no login succeeded. -/
structure Login where
  throttle : LoginThrottle := {}
  uptimeMs : Nat := 0
  failures : Nat := 0
  lockouts : Nat := 0
  lastLockout : Option Nat := none
  lockedUntil : Nat := 0
  unlockAt : Option Nat := none

def lockoutMs (lockouts : Nat) : Nat := min (30000 * 2 ^ min lockouts 5) (15 * 60 * 1000)

def login (l : Login) (a : Attempt) : Login :=
  let now := l.uptimeMs + a.afterMs
  let (throttle, performed) := l.throttle.attempt (stamp now) a.verified
  let l := { l with throttle := throttle, uptimeMs := now }
  if !performed then l
  else if a.verified then { l with failures := 0, lockouts := 0, unlockAt := none }
  else if l.failures + 1 < 5 then { l with failures := l.failures + 1 }
  else
    { l with
      failures := 0
      lockouts := l.lockouts + 1
      lastLockout := some now
      lockedUntil := now + lockoutMs l.lockouts
      unlockAt := some (now + lockoutMs l.lockouts) }

theorem lockMs_toNat (tier : UInt8) (lockouts : Nat) (same : tier.toNat = min lockouts 5) :
    (LoginThrottle.lockMs tier).toNat = lockoutMs lockouts := by
  have tiers : ∀ n < 6, (LoginThrottle.lockMs (UInt8.ofNat n)).toNat =
      min (30000 * 2 ^ n) (15 * 60 * 1000) := by
    decide
  rw [← UInt8.ofNat_toNat (x := tier), tiers tier.toNat (by omega), same, lockoutMs]

theorem lockoutMs_le (lockouts : Nat) : lockoutMs lockouts ≤ 15 * 60 * 1000 := min_le_right _ _

/-- The throttle knows what has happened, and the end of a lockout by its stamp. -/
structure Tracks (l : Login) : Prop where
  failures : l.throttle.failureCount.toNat = l.failures
  few : l.failures < 5
  tier : l.throttle.lockTier.toNat = min l.lockouts 5
  deadline : l.throttle.lockUntilMs = (l.unlockAt.map stamp).getD 0
  unlock : ∀ u ∈ l.unlockAt, u = l.lockedUntil
  known : l.lastLockout = none → l.unlockAt = none ∧ l.lockedUntil = 0
  span : ∀ t ∈ l.lastLockout, t ≤ l.uptimeMs ∧ l.lockedUntil ≤ t + 15 * 60 * 1000

theorem tracks_start : Tracks {} where
  failures := rfl
  few := by decide
  tier := rfl
  deadline := rfl
  unlock := by simp
  known _ := ⟨rfl, rfl⟩
  span := by simp

theorem tracks_login (l : Login) (a : Attempt) (tracks : Tracks l) : Tracks (login l a) := by
  obtain ⟨failures, few, tier, deadline, unlock, known, span⟩ := tracks
  have later : ∀ t ∈ l.lastLockout, t ≤ l.uptimeMs + a.afterMs ∧
      l.lockedUntil ≤ t + 15 * 60 * 1000 :=
    fun t member => ⟨(span t member).1.trans (Nat.le_add_right _ _), (span t member).2⟩
  unfold login LoginThrottle.attempt
  dsimp only
  by_cases allowed : l.throttle.allowed (stamp (l.uptimeMs + a.afterMs)) = true
  · cases verified : a.verified with
    | true =>
      simp only [allowed, Bool.not_true, Bool.false_eq_true, if_false, if_true]
      exact ⟨rfl, Nat.succ_pos 4, rfl, rfl, by simp, fun none => ⟨rfl, (known none).2⟩, later⟩
    | false =>
      have next : (l.throttle.failureCount + 1).toNat = l.failures + 1 := by
        rw [UInt8.toNat_add, failures, UInt8.toNat_one]
        omega
      have room : l.throttle.failureCount < 255 := by
        rw [UInt8.lt_iff_toNat_lt, failures]
        exact lt_trans few (by decide)
      have full : l.throttle.failureCount + 1 < LoginThrottle.kFailuresBeforeLock ↔
          l.failures + 1 < 5 := by
        rw [UInt8.lt_iff_toNat_lt, next]
        rfl
      simp only [allowed, LoginThrottle.recordFailure, room, full, Bool.not_true,
        Bool.false_eq_true, if_false, if_true]
      by_cases fewer : l.failures + 1 < 5
      · simp only [fewer, if_true]
        exact ⟨next, fewer, tier, deadline, unlock, known, later⟩
      · simp only [fewer, if_false]
        refine ⟨rfl, Nat.succ_pos 4, ?_, ?_, by simp, by simp, ?_⟩
        · have low : l.throttle.lockTier < LoginThrottle.kMaxLockTier ↔ min l.lockouts 5 < 5 := by
            rw [UInt8.lt_iff_toNat_lt, tier]
            rfl
          dsimp only
          by_cases below : min l.lockouts 5 < 5
          · rw [if_pos (low.mpr below), UInt8.toNat_add, tier, UInt8.toNat_one]
            omega
          · rw [if_neg fun less => below (low.mp less), tier]
            omega
        · rw [Option.map_some, Option.getD_some, ← lockMs_toNat l.throttle.lockTier l.lockouts tier,
            stamp_add_toNat]
        · intro t member
          obtain rfl := Option.some.inj member
          exact ⟨le_rfl, Nat.add_le_add_left (lockoutMs_le _) _⟩
  · simp only [allowed, Bool.not_false, if_true]
    exact ⟨failures, few, tier, deadline, unlock, known, later⟩

/-! The end of a lockout. -/

def LockoutLifted (l : Login) (nowMs : Nat) : Prop :=
  ∀ t ∈ l.lastLockout, t + 15 * 60 * 1000 < nowMs →
    l.throttle.allowed (stamp nowMs) = true ∧ l.throttle.retryAfterSeconds (stamp nowMs) = 0

/-- A login has succeeded since then, or the stamp of the end stands for no lockout, or the
clock still shows that the end is past. -/
def UnlockReadable (l : Login) (nowMs : Nat) : Prop :=
  ∀ t ∈ l.lastLockout, t + 15 * 60 * 1000 < nowMs →
    ∀ u ∈ l.unlockAt, u % 2 ^ 32 = 0 ∨ (nowMs - u) % 2 ^ 32 < 2 ^ 31

theorem stamp_eq_zero (t : Nat) : stamp t = 0 ↔ t % 2 ^ 32 = 0 := by
  rw [← UInt32.toNat_inj, stamp_toNat, UInt32.toNat_zero]

/-- After any logins and at any later time, the lockout is lifted if and only if its end can
still be read. -/
theorem lockout_lifted_iff (attempts : List Attempt) (laterMs : Nat) :
    let l := run login {} attempts
    LockoutLifted l (l.uptimeMs + laterMs) ↔ UnlockReadable l (l.uptimeMs + laterMs) := by
  intro l
  have tracks : Tracks l := invariant_run login Tracks (fun _ _ => True)
    (fun l a tracks _ => tracks_login l a tracks) {} attempts tracks_start fun _ _ => trivial
  refine forall_congr' fun t => forall_congr' fun member => forall_congr' fun after => ?_
  have allowed_iff : l.throttle.allowed (stamp (l.uptimeMs + laterMs)) = true ↔
      ∀ u ∈ l.unlockAt, u % 2 ^ 32 = 0 ∨ (l.uptimeMs + laterMs - u) % 2 ^ 32 < 2 ^ 31 := by
    rw [LoginThrottle.allowed, tracks.deadline]
    cases unlock : l.unlockAt with
    | none => simp
    | some u =>
      have past : u ≤ l.uptimeMs + laterMs := by
        have same := tracks.unlock u unlock
        have span := (tracks.span t member).2
        omega
      simp [stamp_eq_zero, reached_past _ u past]
  rw [← allowed_iff]
  constructor
  · exact And.left
  · intro allowed
    exact ⟨allowed, by rw [LoginThrottle.retryAfterSeconds, if_pos allowed]⟩

def fiveFailures : List Attempt := List.replicate 5 ⟨0, false⟩

/-- Half a period after its end a lockout starts again. -/
theorem lockout_returns :
    let l := run login {} fiveFailures
    ¬ LockoutLifted l (l.uptimeMs + (2 ^ 31 + 30000)) := by
  intro l lifted
  have locked : l.throttle.allowed (stamp (l.uptimeMs + (2 ^ 31 + 30000))) = false := by
    decide +kernel
  have allowed := (lifted 0 (by decide +kernel) (by decide +kernel)).1
  rw [locked] at allowed
  cases allowed

/-! The bound on guessing. -/

/-- While a lockout is to last, no password is looked at, and the throttle stays as it is. -/
def NotGuessed (l : Login) (a : Attempt) : Prop :=
  let now := l.uptimeMs + a.afterMs
  now < l.lockedUntil →
    l.throttle.attempt (stamp now) a.verified = (l.throttle, false)

/-- No login is tried in a lockout whose end has the stamp that stands for no lockout. -/
def NotCollided (l : Login) (a : Attempt) : Prop :=
  l.uptimeMs + a.afterMs < l.lockedUntil → l.lockedUntil % 2 ^ 32 ≠ 0

def SucceededLate (l : Login) : Prop := l.unlockAt = none → l.lockedUntil ≤ l.uptimeMs

theorem notGuessed_iff (l : Login) (a : Attempt) (tracks : Tracks l) (late : SucceededLate l) :
    NotGuessed l a ↔ NotCollided l a := by
  refine forall_congr' fun ahead => ?_
  obtain ⟨u, unlock⟩ : ∃ u, l.unlockAt = some u := by
    refine Option.ne_none_iff_exists'.mp fun none => ?_
    have past := late none
    omega
  obtain ⟨t, known⟩ : ∃ t, l.lastLockout = some t := by
    refine Option.ne_none_iff_exists'.mp fun none => ?_
    rw [(tracks.known none).1] at unlock
    cases unlock
  obtain rfl := tracks.unlock u unlock
  obtain ⟨before, span⟩ := tracks.span t known
  have unreached := reached_future (l.uptimeMs + a.afterMs) l.lockedUntil ahead (by omega)
  have allowed : l.throttle.allowed (stamp (l.uptimeMs + a.afterMs)) =
      (stamp l.lockedUntil == 0) := by
    rw [LoginThrottle.allowed, tracks.deadline, unlock, Option.map_some, Option.getD_some,
      unreached, Bool.or_false]
  unfold LoginThrottle.attempt
  rw [allowed]
  by_cases collided : l.lockedUntil % 2 ^ 32 = 0
  · rw [(stamp_eq_zero _).mpr collided]
    cases a.verified <;> simpa using collided
  · have apart : (stamp l.lockedUntil == 0) = false := by
      rw [beq_eq_false_iff_ne, ne_eq, stamp_eq_zero]
      exact collided
    simpa [apart] using collided

theorem succeededLate_login (l : Login) (a : Attempt) (late : SucceededLate l)
    (unguessed : NotGuessed l a) : SucceededLate (login l a) := by
  unfold login LoginThrottle.attempt SucceededLate
  unfold NotGuessed LoginThrottle.attempt at unguessed
  dsimp only at unguessed ⊢
  by_cases allowed : l.throttle.allowed (stamp (l.uptimeMs + a.afterMs)) = true
  · cases verified : a.verified with
    | true =>
      simp only [allowed, verified, Bool.not_true, Bool.false_eq_true, if_false, if_true,
        Prod.mk.injEq, reduceCtorEq, and_false, imp_false, not_lt] at unguessed ⊢
      exact fun _ => unguessed
    | false =>
      simp only [allowed, Bool.not_true, Bool.false_eq_true, if_false]
      split
      · exact fun none => (late none).trans (Nat.le_add_right _ _)
      · intro none
        cases none
  · simp only [allowed, Bool.not_false, if_true]
    exact fun none => (late none).trans (Nat.le_add_right _ _)

/-- Along any run of logins from boot, no password is looked at in a lockout, if and only if
none is tried in a lockout whose end is a multiple of the period. -/
theorem guessing_bounded_iff (attempts : List Attempt) :
    Always login NotGuessed {} attempts ↔ Always login NotCollided {} attempts := by
  refine always_iff login (fun l => Tracks l ∧ SucceededLate l) NotGuessed NotCollided ?_ ?_ {}
    attempts ⟨tracks_start, fun _ => le_rfl⟩
  · exact fun l a invariant => notGuessed_iff l a invariant.1 invariant.2
  · exact fun l a invariant unguessed =>
      ⟨tracks_login l a invariant.1, succeededLate_login l a invariant.2 unguessed⟩

/-- The fifth failure comes half a minute before the clock wraps, and a sixth password is
looked at a second later. -/
theorem collided_lockout_guessed :
    ¬ Always login NotGuessed {}
      (⟨2 ^ 32 - 30000, false⟩ :: List.replicate 4 ⟨0, false⟩ ++ [⟨1000, false⟩]) := by
  intro unguessed
  have guess := unguessed
    (run login {} (⟨2 ^ 32 - 30000, false⟩ :: List.replicate 4 ⟨0, false⟩), ⟨1000, false⟩)
    (by simp [steps, run])
  have performed := congrArg Prod.snd (guess (by decide +kernel))
  revert performed
  decide +kernel

end Web
