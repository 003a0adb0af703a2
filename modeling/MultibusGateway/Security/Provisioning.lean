import MultibusGateway.Library.Execution
import MultibusGateway.Security.SecurityStore

/-! The initial password over boots. Its hash is kept in flash and its text in memory only, so
the text is there to be shown from the boot that makes it to the next one. -/

namespace Security
open ByteString Preferences Execution

/-- The device, and whether the store has been opened since it was switched on or cleared. -/
structure Device where
  store : SecurityStore
  begun : Bool

inductive DeviceEvent where
  | boot (opens : Bool) (random : Random)
  | failedLogin (password : Bytes)
  | changePassword (password : Bytes) (random : Random)
  | clear

/-- A boot starts without what was in memory. A failed login changes nothing, and a reset by the
button clears the store and restarts the device. -/
def step (hmac : Hmac) (d : Device) : DeviceEvent → Device
  | .boot opens random =>
    let (store, begun) := SecurityStore.begin hmac opens random ⟨d.store.prefs, []⟩
    ⟨store, begun⟩
  | .failedLogin _ => d
  | .changePassword password random =>
    if !d.begun then d
    else { d with store := (d.store.setAdminPassword hmac password random {}).1 }
  | .clear => if !d.begun then d else ⟨d.store.clear, false⟩

/-- While no password has been set, there is one to show, and it is accepted. -/
def Displayable (hmac : Hmac) (d : Device) : Prop :=
  d.begun = true → d.store.adminInitialized = false →
    d.store.hasInitialAdminPasswordForDisplay = true ∧
    d.store.verifyAdminPassword hmac d.store.initialAdminPassword = true

/-- A boot finds no hash, or a password that has been set. -/
def FreshOrSet (d : Device) : DeviceEvent → Prop
  | .boot opens _ =>
    opens = true → d.store.prefs .adminHash = none ∨ d.store.adminInitialized = true
  | _ => True

theorem apPass_other (prefs : SecurityFlash) (generated : Bytes) (key : SecurityKey)
    (other : key ≠ .apPass) :
    (if isKey prefs .apPass then prefs
      else (put prefs .apPass (.text generated) .stored).1) key = prefs key := by
  split
  · rfl
  · exact put_other _ _ _ _ _ other

theorem begin_known (hmac : Hmac) (random : Random) (prefs : SecurityFlash)
    (known : prefs .adminHash ≠ none) :
    (SecurityStore.begin hmac true random ⟨prefs, []⟩).2 = true ∧
    (SecurityStore.begin hmac true random ⟨prefs, []⟩).1.initialAdminPassword = [] ∧
    (SecurityStore.begin hmac true random ⟨prefs, []⟩).1.adminInitialized =
      getBool prefs .adminInit false := by
  have other := apPass_other prefs (generateSecret 12 random).1
  unfold SecurityStore.begin SecurityStore.adminInitialized
  simp only [Bool.not_true, Bool.false_eq_true, if_false]
  generalize (if isKey prefs .apPass then prefs
    else (put prefs .apPass (.text (generateSecret 12 random).1) .stored).1) = opened at *
  have present : isKey opened .adminHash = true := by
    rw [isKey, other .adminHash (by decide)]
    exact Option.isSome_iff_ne_none.mpr known
  simp only [present, if_true, getBool, other .adminInit (by decide), and_self]

theorem begin_fresh (hmac : Hmac) (random : Random) (prefs : SecurityFlash)
    (fresh : prefs .adminHash = none)
    (begun : (SecurityStore.begin hmac true random ⟨prefs, []⟩).2 = true) :
    let s := (SecurityStore.begin hmac true random ⟨prefs, []⟩).1
    s.prefs .adminHash ≠ none ∧ s.adminInitialized = false ∧ s.initialAdminPassword ≠ [] ∧
      s.verifyAdminPassword hmac s.initialAdminPassword = true := by
  have other := apPass_other prefs (generateSecret 12 random).1
  revert begun
  unfold SecurityStore.begin
  simp only [Bool.not_true, Bool.false_eq_true, if_false]
  generalize (if isKey prefs .apPass then prefs
    else (put prefs .apPass (.text (generateSecret 12 random).1) .stored).1) = opened at *
  have absent : isKey opened .adminHash = false := by
    rw [isKey, other .adminHash (by decide), fresh]
    rfl
  simp only [absent, Bool.false_eq_true, if_false]
  split
  · exact fun begun => by cases begun
  · rename_i computed
    intro _
    rw [List.isEmpty_iff] at computed
    refine ⟨?_, ?_, ?_, verify_adminPuts hmac opened _ _ computed false _ rfl⟩
    · dsimp only
      rw [adminPuts_stored _ _ _ _ .adminHash (.text _) (by simp [SecurityStore.adminPuts]; rfl)]
      exact Option.some_ne_none _
    · rw [SecurityStore.adminInitialized, getBool]
      dsimp only
      rw [adminPuts_stored _ _ _ _ .adminInit (.flag false) (by simp [SecurityStore.adminPuts])]
    · exact fun empty => by simpa [generateSecret] using congrArg List.length empty

theorem begin_succeeds (hmac : Hmac) (works : ∀ key message, (hmac key message).isSome)
    (random : Random) (prefs : SecurityFlash) :
    (SecurityStore.begin hmac true random ⟨prefs, []⟩).2 = true := by
  have computed := hashes_of_works hmac works (generateSecret 16 (generateSecret 12 random).2).1
    (generateSecret 16 (generateSecret 12 random).2).2
  rw [Hashes, nextSalt, ne_eq, ← List.isEmpty_iff, Bool.not_eq_true] at computed
  unfold SecurityStore.begin
  simp only [Bool.not_true, Bool.false_eq_true, if_false, computed]
  generalize (if isKey prefs .apPass then prefs
    else (put prefs .apPass (.text (generateSecret 12 random).1) .stored).1) = opened
  split <;> rfl

theorem displayable_boot (hmac : Hmac) (d : Device) (opens : Bool) (random : Random) :
    Displayable hmac (step hmac d (.boot opens random)) ↔ FreshOrSet d (.boot opens random) := by
  unfold Displayable FreshOrSet step
  dsimp only
  cases opens with
  | false => simp [SecurityStore.begin]
  | true =>
    by_cases fresh : d.store.prefs .adminHash = none
    · have made := begin_fresh hmac random d.store.prefs fresh
      refine ⟨fun _ _ => Or.inl fresh, fun _ begun unset => ?_⟩
      obtain ⟨-, -, text, accepted⟩ := made begun
      refine ⟨?_, accepted⟩
      simp [SecurityStore.hasInitialAdminPasswordForDisplay, unset, text]
    · obtain ⟨begun, text, set⟩ := begin_known hmac random d.store.prefs fresh
      have unset : d.store.adminInitialized = getBool d.store.prefs .adminInit false := rfl
      simp only [begun, set, unset, SecurityStore.hasInitialAdminPasswordForDisplay, text, fresh,
        false_or, true_imp_iff, List.isEmpty_nil, Bool.not_true, Bool.false_and,
        Bool.false_eq_true, false_and, imp_false, Bool.not_eq_false]

/-- A change of the password is refused, or the password has been set. -/
theorem setAdminPassword_cases (hmac : Hmac) (s : SecurityStore) (q : Bytes) (random : Random) :
    (s.setAdminPassword hmac q random {}).1 = s ∨
      (s.setAdminPassword hmac q random {}).1.adminInitialized = true := by
  by_cases short : q.length < 10
  · left
    rw [SecurityStore.setAdminPassword, if_pos short]
  · by_cases hashes : Hashes hmac q random
    · right
      rw [setAdminPassword_eq hmac s q random {} (by omega) hashes, SecurityStore.adminInitialized,
        getBool]
      dsimp only
      rw [reached_all, adminPuts_stored _ _ _ _ .adminInit (.flag true) (by simp [SecurityStore.adminPuts])]
    · left
      have empty : (pbkdf2Sha256 hmac q (generateHex 16 random).1
          PasswordKdfPolicy.kCurrentIterations).isEmpty = true :=
        List.isEmpty_iff.mpr (not_not.mp hashes)
      unfold SecurityStore.setAdminPassword
      rw [if_neg short]
      simp only [empty, if_true]

theorem displayable_step_iff (hmac : Hmac) (d : Device) (e : DeviceEvent)
    (displayable : Displayable hmac d) :
    Displayable hmac (step hmac d e) ↔ FreshOrSet d e := by
  cases e with
  | boot opens random => exact displayable_boot hmac d opens random
  | failedLogin password => exact iff_of_true displayable trivial
  | changePassword password random =>
    refine iff_of_true ?_ trivial
    simp only [step]
    split
    · exact displayable
    · rcases setAdminPassword_cases hmac d.store password random with same | set
      · rw [same]
        exact displayable
      · exact fun _ unset => absurd (set.symm.trans unset) (by decide)
  | clear =>
    refine iff_of_true ?_ trivial
    simp only [step]
    split
    · exact displayable
    · exact fun begun => by cases begun

/-- Along any run, whatever the flash held before it, there is a password to show until one has
been set, if and only if each boot finds no hash or a password that has been set. -/
theorem initial_password_shown_iff (hmac : Hmac) (prefs : SecurityFlash)
    (events : List DeviceEvent) :
    Always (step hmac) (fun d e => Displayable hmac (step hmac d e)) ⟨⟨prefs, []⟩, false⟩ events ↔
      Always (step hmac) FreshOrSet ⟨⟨prefs, []⟩, false⟩ events := by
  refine always_iff (step hmac) (Displayable hmac) _ _ ?_ ?_ _ events (fun begun => by cases begun)
  · exact fun d e displayable => displayable_step_iff hmac d e displayable
  · exact fun d e _ displayable => displayable

theorem second_boot (hmac : Hmac) (works : ∀ key message, (hmac key message).isSome)
    (random random' : Random) :
    ¬ Displayable hmac (step hmac (step hmac ⟨{}, false⟩ (.boot true random))
      (.boot true random')) := by
  obtain ⟨known, unset, -⟩ := begin_fresh hmac random (fun _ => none) rfl
    (begin_succeeds hmac works random _)
  intro displayable
  rcases (displayable_boot hmac _ true random').mp displayable rfl with fresh | set
  · exact known fresh
  · exact Bool.false_ne_true (unset.symm.trans set)

/-- A second boot before the first login has no password to show. -/
theorem second_boot_shows_nothing :
    ¬ Always (step sha256Hmac) (fun d e => Displayable sha256Hmac (step sha256Hmac d e))
      ⟨{}, false⟩ [.boot true fun _ => 0, .boot true fun _ => 1] := by
  intro shown
  have second := ((always_cons _ _ _ _ _).mp ((always_cons _ _ _ _ _).mp shown).2).1
  exact second_boot sha256Hmac (fun _ _ => rfl) _ _ second

end Security
