import MultibusGateway.Lorawan.RadioFlash

/-! The numbers of join requests. The nonces hold the number of the next one; they are saved after
every attempt, and found again at a boot as long as the flash can be read. -/

namespace Lorawan
open ByteString Config Execution Numbering

namespace LoRaWanStateStore
variable {noncesSize sessionSize : ℕ} {identity : UInt32} {calls : StateCalls}

/-- The nonces in flash are not replaced, and under their own identity they stay. -/
structure Spares (identity : UInt32) (s after : LoRaWanStateStore noncesSize sessionSize) :
    Prop where
  nonces : after.keys.nonces = none ∨ after.keys.nonces = s.keys.nonces
  labelled : s.Labelled identity →
    after.Labelled identity ∧ after.keys.nonces = s.keys.nonces

variable {s : LoRaWanStateStore noncesSize sessionSize}

theorem Spares.of_keys {after : LoRaWanStateStore noncesSize sessionSize}
    (label : after.keys.identity = s.keys.identity)
    (nonces : after.keys.nonces = s.keys.nonces) : Spares identity s after := by
  refine ⟨.inr nonces, fun labelled => ⟨?_, nonces⟩⟩
  unfold Labelled at labelled ⊢
  rw [label]
  exact labelled

theorem Spares.trans {middle after : LoRaWanStateStore noncesSize sessionSize}
    (first : Spares identity s middle) (second : Spares identity middle after) :
    Spares identity s after := by
  refine ⟨?_, fun labelled => ?_⟩
  · obtain gone | kept := second.nonces
    · exact .inl gone
    · rw [kept]
      exact first.nonces
  · obtain ⟨still, same⟩ := first.labelled labelled
    obtain ⟨last, kept⟩ := second.labelled still
    exact ⟨last, kept.trans same⟩

theorem ensureIdentity_spares (reads : calls.getIdentity = true) :
    Spares identity s (s.ensureIdentity identity calls).1 := by
  by_cases labelled : s.Labelled identity
  · rw [ensureIdentity_labelled reads labelled]
    exact .of_keys rfl rfl
  · unfold ensureIdentity
    rw [storedIdentity_read reads, if_neg (beq_iff_eq.not.mpr labelled)]
    refine ⟨?_, fun same => absurd same labelled⟩
    dsimp only
    split
    · exact .inl rfl
    · exact .inr rfl

theorem saveSession_spares (reads : calls.getIdentity = true) (session : Buffer sessionSize) :
    Spares identity s (s.saveSessionIfChanged identity (some session) calls).1 := by
  have ensured : Spares identity s (s.ensureIdentity identity calls).1 :=
    ensureIdentity_spares reads
  unfold saveSessionIfChanged
  cases s.isOpen with
  | false => exact .of_keys rfl rfl
  | true =>
    dsimp only
    split
    · exact .of_keys rfl rfl
    · generalize s.ensureIdentity identity calls = result at ensured ⊢
      obtain ⟨store, done⟩ := result
      cases done with
      | false => exact ensured
      | true =>
        dsimp only
        cases calls.putSession with
        | false => exact ensured
        | true => exact ⟨ensured.nonces, ensured.labelled⟩

theorem clearSession_keys (identity : UInt32) (calls : StateCalls)
    (s : LoRaWanStateStore noncesSize sessionSize) :
    (s.clearSession identity calls).1.keys.identity = s.keys.identity ∧
      (s.clearSession identity calls).1.keys.nonces = s.keys.nonces := by
  unfold clearSession
  split
  · exact ⟨rfl, rfl⟩
  · split
    · exact ⟨rfl, rfl⟩
    · split
      · split <;> exact ⟨rfl, rfl⟩
      · exact ⟨rfl, rfl⟩

theorem saveNonces_spares (reads : calls.getIdentity = true) (nonces : Buffer noncesSize)
    (unsaved : (s.saveNonces identity (some nonces) calls).2 = false) :
    Spares identity s (s.saveNonces identity (some nonces) calls).1 := by
  have ensured : Spares identity s (s.ensureIdentity identity calls).1 :=
    ensureIdentity_spares reads
  unfold saveNonces at unsaved ⊢
  cases opened : s.isOpen with
  | false => exact .of_keys rfl rfl
  | true =>
    rw [opened] at unsaved
    dsimp only at unsaved ⊢
    generalize s.ensureIdentity identity calls = result at ensured unsaved ⊢
    obtain ⟨store, done⟩ := result
    cases done with
    | false => exact ensured
    | true =>
      dsimp only at unsaved ⊢
      cases put : calls.putNonces with
      | false => exact ensured
      | true =>
        rw [put] at unsaved
        cases unsaved

theorem load_finds (reads : calls.getIdentity = true ∧ calls.lengthNonces = true ∧
    calls.getNonces = true) (opened : s.isOpen = true) (labelled : s.Labelled identity)
    (nonces : Buffer noncesSize) (present : s.keys.nonces = some nonces.val) :
    (s.load identity calls).2.2.nonces = some nonces := by
  have same : (s.keys.identity.getD 0 != identity) = false := bne_eq_false_iff_eq.mpr labelled
  unfold load
  rw [opened, storedIdentity_read reads.1, same, present, reads.2.1, reads.2.2]
  exact StateHistory.readBuffer_stored nonces

end LoRaWanStateStore

namespace LoRaWanRadio
variable {noncesSize sessionSize : ℕ} (devNonce : Bytes → ℕ) (identity : UInt32)

def joinRequests (log : List (Transmitted noncesSize sessionSize)) : List (Use Unit) :=
  log.filterMap fun
    | .joinRequest nonces saved => some ⟨(), devNonce nonces.val, saved⟩
    | _ => none

def joinBook (r : LoRaWanRadio noncesSize sessionSize) : Book Unit where
  live := if r.persistenceHealthy then some ((), devNonce r.node.nonces.val) else none
  stored := r.stateStore.keys.nonces.map fun nonces => ((), devNonce nonces)
  uses := joinRequests devNonce r.log

structure Numbered (r : LoRaWanRadio noncesSize sessionSize) : Prop where
  sound : Sound (joinBook devNonce r)
  same : r.stateIdentity = identity
  own : r.stateStore.Own identity
  kept : (∃ u ∈ joinRequests devNonce r.log, u.saved = true) →
    r.stateStore.Labelled identity ∧
      ∃ nonces : Buffer noncesSize, r.stateStore.keys.nonces = some nonces.val

/-! What the radio library documents: every join request takes the next number, and no call puts it
back. -/

def From (node after : Node noncesSize sessionSize) : Prop :=
  devNonce node.nonces.val ≤ devNonce after.nonces.val

def Tries (node : Node noncesSize sessionSize) (activated : Activated noncesSize sessionSize) :
    Prop :=
  if activated.requested then devNonce node.nonces.val < devNonce activated.node.nonces.val
  else From devNonce node activated.node

def JoinTries (node : Node noncesSize sessionSize) (answers : JoinAnswers noncesSize sessionSize) :
    Prop :=
  Tries devNonce node answers.activated ∧
    From devNonce answers.activated.node answers.setClass.node

def SessionTries (answers : BeginAnswers noncesSize sessionSize)
    (node : Node noncesSize sessionSize) (session : Buffer sessionSize) : Prop :=
  From devNonce node (answers.setSession session).node ∧
    Tries devNonce (answers.setSession session).node answers.activated ∧
    From devNonce (answers.setSession session).node answers.cleared

def NoncesTries (answers : BeginAnswers noncesSize sessionSize)
    (sessions : Option (Buffer sessionSize)) (nonces : Buffer noncesSize) : Prop :=
  ((answers.setNonces nonces).done = true →
    devNonce nonces.val ≤ devNonce (answers.setNonces nonces).node.nonces.val) ∧
    JoinTries devNonce (answers.setNonces nonces).node answers.join ∧
    ∀ session ∈ sessions, SessionTries devNonce answers (answers.setNonces nonces).node session

def BeginTries (answers : BeginAnswers noncesSize sessionSize) (keys : StateKeys) : Prop :=
  JoinTries devNonce answers.node answers.join ∧
    (∀ nonces ∈ keys.noncesBuffer noncesSize,
      NoncesTries devNonce answers (keys.sessionBuffer sessionSize) nonces) ∧
    From devNonce answers.activated.node answers.setClass.node ∧
    JoinTries devNonce answers.cleared answers.join

/-- The numbers go on, and a boot is under the same credentials and reads the nonces. -/
def Continued (r : LoRaWanRadio noncesSize sessionSize) : Event noncesSize sessionSize → Prop
  | .boot config devEui none _ => identityFingerprint config devEui = identity
  | .boot config devEui (some answers) _ =>
    identityFingerprint config devEui = identity ∧
      answers.load.lengthNonces = true ∧ answers.load.getNonces = true ∧
      BeginTries devNonce answers r.stateStore.keys
  | .rejoin answers => From devNonce r.node answers.cleared
  | .timeSync answers =>
    From devNonce r.node answers.request.node ∧
      From devNonce answers.request.node answers.exchange.node
  | .classC answers => From devNonce r.node answers.node
  | .join _ answers => JoinTries devNonce r.node answers
  | .request (.send _ answers) =>
    From devNonce r.node answers.node ∧ From devNonce answers.node answers.cleared
  | .request .requestRejoin | .request .requestNetworkTimeSync => True

section
variable (node : Node noncesSize sessionSize)

instance (activated : Activated noncesSize sessionSize) :
    Decidable (Tries devNonce node activated) :=
  inferInstanceAs (Decidable (if activated.requested then _ < _ else _ ≤ _))

instance (answers : JoinAnswers noncesSize sessionSize) :
    Decidable (JoinTries devNonce node answers) :=
  inferInstanceAs (Decidable (Tries devNonce node answers.activated ∧ _ ≤ _))

instance (answers : BeginAnswers noncesSize sessionSize) (session : Buffer sessionSize) :
    Decidable (SessionTries devNonce answers node session) :=
  inferInstanceAs (Decidable (_ ≤ _ ∧ Tries devNonce _ _ ∧ _ ≤ _))

instance (answers : BeginAnswers noncesSize sessionSize)
    (sessions : Option (Buffer sessionSize)) (nonces : Buffer noncesSize) :
    Decidable (NoncesTries devNonce answers sessions nonces) :=
  inferInstanceAs (Decidable ((_ → _ ≤ _) ∧ JoinTries devNonce _ _ ∧
    ∀ session ∈ sessions, SessionTries devNonce _ _ session))

instance (answers : BeginAnswers noncesSize sessionSize) (keys : StateKeys) :
    Decidable (BeginTries devNonce answers keys) :=
  inferInstanceAs (Decidable (JoinTries devNonce _ _ ∧
    (∀ nonces ∈ keys.noncesBuffer noncesSize, NoncesTries devNonce _ _ nonces) ∧ _ ≤ _ ∧
    JoinTries devNonce _ _))

instance (r : LoRaWanRadio noncesSize sessionSize) : DecidablePred (Continued devNonce identity r)
  | .boot _ _ none _ => inferInstanceAs (Decidable (_ = identity))
  | .boot _ _ (some _) _ =>
    inferInstanceAs (Decidable (_ = identity ∧ _ = true ∧ _ = true ∧ BeginTries devNonce _ _))
  | .rejoin _ | .classC _ => inferInstanceAs (Decidable (_ ≤ _))
  | .timeSync _ | .request (.send _ _) => inferInstanceAs (Decidable (_ ≤ _ ∧ _ ≤ _))
  | .join _ _ => inferInstanceAs (Decidable (JoinTries devNonce _ _))
  | .request .requestRejoin | .request .requestNetworkTimeSync => inferInstanceAs (Decidable True)

end

variable {devNonce identity} {r : LoRaWanRadio noncesSize sessionSize}

theorem joinBook_healthy (healthy : r.persistenceHealthy = true) :
    (joinBook devNonce r).live = some ((), devNonce r.node.nonces.val) := if_pos healthy

theorem joinBook_unhealthy (failed : r.persistenceHealthy = false) :
    (joinBook devNonce r).live = none := by
  refine if_neg ?_
  rw [failed]
  exact Bool.false_ne_true

theorem Numbered.moved {after : LoRaWanRadio noncesSize sessionSize}
    (numbered : Numbered devNonce identity r)
    (log : joinRequests devNonce after.log = joinRequests devNonce r.log)
    (same : after.stateIdentity = identity) (own : after.stateStore.Own identity)
    (live : Origin (joinBook devNonce r) (joinBook devNonce after).live)
    (stored : Origin (joinBook devNonce r) (joinBook devNonce after).stored)
    (kept : r.stateStore.Labelled identity → after.stateStore.Labelled identity ∧
      (after.stateStore.keys.nonces = r.stateStore.keys.nonces ∨
        ∃ nonces : Buffer noncesSize, after.stateStore.keys.nonces = some nonces.val)) :
    Numbered devNonce identity after := by
  refine ⟨?_, same, own, ?_⟩
  · have moved := (Numbering.Step.move _ _ _ live stored).sound numbered.sound
    change Sound ⟨(joinBook devNonce after).live, (joinBook devNonce after).stored,
      joinRequests devNonce after.log⟩
    rw [log]
    exact moved
  · intro saved
    rw [log] at saved
    obtain ⟨labelled, nonces, present⟩ := numbered.kept saved
    obtain ⟨still, unchanged | replaced⟩ := kept labelled
    · exact ⟨still, nonces, unchanged.trans present⟩
    · exact ⟨still, replaced⟩

theorem Spares.origin {after : LoRaWanRadio noncesSize sessionSize}
    (spares : LoRaWanStateStore.Spares identity r.stateStore after.stateStore) :
    Origin (joinBook devNonce r) (joinBook devNonce after).stored := by
  obtain gone | kept := spares.nonces
  · unfold joinBook
    dsimp only
    rw [gone]
    exact .none
  · have same : (joinBook devNonce after).stored = (joinBook devNonce r).stored := by
      unfold joinBook
      dsimp only
      rw [kept]
    rw [same]
    exact Origin.self_stored _

theorem Numbered.quiet {after : LoRaWanRadio noncesSize sessionSize}
    (numbered : Numbered devNonce identity r)
    (log : joinRequests devNonce after.log = joinRequests devNonce r.log)
    (same : after.stateIdentity = r.stateIdentity) (own : after.stateStore.Own identity)
    (spares : LoRaWanStateStore.Spares identity r.stateStore after.stateStore)
    (node : after.persistenceHealthy = true →
      r.persistenceHealthy = true ∧ From devNonce r.node after.node) :
    Numbered devNonce identity after := by
  refine numbered.moved log (same.trans numbered.same) own ?_ (Spares.origin spares) ?_
  · cases healthy : after.persistenceHealthy with
    | false =>
      rw [joinBook_unhealthy healthy]
      exact .none
    | true =>
      obtain ⟨before, onwards⟩ := node healthy
      rw [joinBook_healthy healthy]
      exact .live () _ _ (joinBook_healthy before) onwards
  · intro labelled
    obtain ⟨still, unchanged⟩ := spares.labelled labelled
    exact ⟨still, .inl unchanged⟩

/-- What an attempt to join leaves in flash: the nonces of the node, or, not saved, what was
there. -/
def LeftBehind (identity : UInt32) (saved : Bool) (r after : LoRaWanRadio noncesSize sessionSize) :
    Prop :=
  (after.stateStore.Labelled identity ∧
      after.stateStore.keys.nonces = some after.node.nonces.val) ∨
    saved = false ∧ LoRaWanStateStore.Spares identity r.stateStore after.stateStore

/-- After a join request what is in hand is gone or the next number, and what is in flash is the
next number if it was saved. -/
theorem Numbered.requested {after : LoRaWanRadio noncesSize sessionSize}
    (numbered : Numbered devNonce identity r) (healthy : r.persistenceHealthy = true)
    (saved : Bool) (log : after.log = r.log ++ [.joinRequest r.node.nonces saved])
    (same : after.stateIdentity = identity) (own : after.stateStore.Own identity)
    (less : devNonce r.node.nonces.val < devNonce after.node.nonces.val)
    (left : LeftBehind identity saved r after) : Numbered devNonce identity after := by
  have uses : joinRequests devNonce after.log =
      joinRequests devNonce r.log ++ [⟨(), devNonce r.node.nonces.val, saved⟩] := by
    rw [log]
    simp [joinRequests]
  have hand : (joinBook devNonce after).live = none ∨
      (joinBook devNonce after).live = some ((), devNonce after.node.nonces.val) := by
    cases healthy : after.persistenceHealthy with
    | false => exact .inl (joinBook_unhealthy healthy)
    | true => exact .inr (joinBook_healthy healthy)
  have store : (joinBook devNonce after).stored = none ∨
      (joinBook devNonce after).stored = some ((), devNonce after.node.nonces.val) ∨
      saved = false ∧ (joinBook devNonce after).stored = (joinBook devNonce r).stored := by
    unfold joinBook
    dsimp only
    obtain ⟨_, next⟩ | ⟨unsaved, spares⟩ := left
    · rw [next]
      exact .inr (.inl rfl)
    · obtain gone | kept := spares.nonces
      · rw [gone]
        exact .inl rfl
      · rw [kept]
        exact .inr (.inr ⟨unsaved, rfl⟩)
  refine ⟨?_, same, own, ?_⟩
  · have sound := numbered.sound.attempt (joinBook_healthy healthy) less hand store
    change Sound ⟨(joinBook devNonce after).live, (joinBook devNonce after).stored,
      joinRequests devNonce after.log⟩
    rw [uses]
    exact sound
  · intro ⟨u, member, marked⟩
    rw [uses] at member
    obtain ⟨labelled, next⟩ | ⟨unsaved, spares⟩ := left
    · exact ⟨labelled, after.node.nonces, next⟩
    · rcases List.mem_append.mp member with before | last
      · obtain ⟨labelled, nonces, present⟩ := numbered.kept ⟨u, before, marked⟩
        obtain ⟨still, unchanged⟩ := spares.labelled labelled
        exact ⟨still, nonces, unchanged.trans present⟩
      · obtain rfl := List.mem_singleton.mp last
        cases unsaved.symm.trans marked

theorem Numbered.unrequested {after : LoRaWanRadio noncesSize sessionSize}
    (numbered : Numbered devNonce identity r) (healthy : r.persistenceHealthy = true)
    (saved : Bool) (log : after.log = r.log) (same : after.stateIdentity = identity)
    (own : after.stateStore.Own identity) (onwards : From devNonce r.node after.node)
    (left : LeftBehind identity saved r after) : Numbered devNonce identity after := by
  have next : Origin (joinBook devNonce r) (some ((), devNonce after.node.nonces.val)) :=
    .live () _ _ (joinBook_healthy healthy) onwards
  refine numbered.moved (congrArg _ log) same own ?_ ?_ ?_
  · cases healthy : after.persistenceHealthy with
    | false =>
      rw [joinBook_unhealthy healthy]
      exact .none
    | true =>
      rw [joinBook_healthy healthy]
      exact next
  · obtain ⟨_, there⟩ | ⟨_, spares⟩ := left
    · unfold joinBook at next ⊢
      dsimp only
      rw [there]
      exact next
    · exact Spares.origin spares
  · intro labelled
    obtain ⟨still, there⟩ | ⟨_, spares⟩ := left
    · exact ⟨still, .inr ⟨_, there⟩⟩
    · obtain ⟨still, unchanged⟩ := spares.labelled labelled
      exact ⟨still, .inl unchanged⟩

theorem persistJoinState_left {nonces session : StateCalls}
    (readsNonces : nonces.getIdentity = true) (readsSession : session.getIdentity = true)
    (own : r.stateStore.Own r.stateIdentity) :
    ∃ store, (r.persistJoinState nonces session).1 = { r with stateStore := store } ∧
      store.Own r.stateIdentity ∧
      ((store.Labelled r.stateIdentity ∧ store.keys.nonces = some r.node.nonces.val) ∨
        (r.persistJoinState nonces session).2 = false ∧
          LoRaWanStateStore.Spares r.stateIdentity r.stateStore store) := by
  have first := LoRaWanStateStore.saveNonces_read readsNonces own r.node.nonces
  have spares : (r.stateStore.saveNonces r.stateIdentity (some r.node.nonces) nonces).2 = false →
      LoRaWanStateStore.Spares r.stateIdentity r.stateStore
        (r.stateStore.saveNonces r.stateIdentity (some r.node.nonces) nonces).1 :=
    LoRaWanStateStore.saveNonces_spares readsNonces r.node.nonces
  unfold persistJoinState
  dsimp only
  generalize r.stateStore.saveNonces r.stateIdentity (some r.node.nonces) nonces = result
    at first spares ⊢
  obtain ⟨store, done⟩ := result
  cases done with
  | false => exact ⟨store, rfl, first.1, .inr ⟨rfl, spares rfl⟩⟩
  | true =>
    obtain ⟨labelled, here⟩ := first.2 rfl
    cases joined : r.joined with
    | false => exact ⟨store, rfl, first.1, .inl ⟨labelled, here⟩⟩
    | true =>
      have second := LoRaWanStateStore.saveSession_read readsSession first.1 r.node.session
      have kept : LoRaWanStateStore.Spares r.stateIdentity store
          (store.saveSessionIfChanged r.stateIdentity (some r.node.session) session).1 :=
        LoRaWanStateStore.saveSession_spares readsSession r.node.session
      obtain ⟨still, same⟩ := kept.labelled labelled
      exact ⟨_, rfl, second.1, .inl ⟨still, same.trans here⟩⟩

theorem activate_tries (answers : JoinAnswers noncesSize sessionSize)
    (tries : JoinTries devNonce r.node answers) :
    (if answers.activated.requested then
        devNonce r.node.nonces.val < devNonce (r.activate answers).node.nonces.val
      else From devNonce r.node (r.activate answers).node) ∧
      (r.activate answers).stateStore = r.stateStore ∧
      (r.activate answers).stateIdentity = r.stateIdentity ∧ (r.activate answers).log = r.log := by
  obtain ⟨tried, classSet⟩ := tries
  have further : From devNonce answers.activated.node (r.activate answers).node ∧
      (r.activate answers).stateStore = r.stateStore ∧
      (r.activate answers).stateIdentity = r.stateIdentity ∧
      (r.activate answers).log = r.log := by
    unfold activate applyConfiguredClass
    cases answers.activated.state with
    | failed => exact ⟨Nat.le_refl _, rfl, rfl, rfl⟩
    | newSession | sessionRestored =>
      cases answers.setClass.done <;> exact ⟨classSet, rfl, rfl, rfl⟩
  refine ⟨?_, further.2⟩
  unfold Tries at tried
  split at tried
  case isTrue requested =>
    rw [if_pos requested]
    exact Nat.lt_of_lt_of_le tried further.1
  case isFalse requested =>
    rw [if_neg requested]
    exact Nat.le_trans tried further.1

theorem tryJoin_numbered (answers : JoinAnswers noncesSize sessionSize)
    (reads : answers.saveNonces.getIdentity = true ∧ answers.saveSession.getIdentity = true)
    (tries : JoinTries devNonce r.node answers) (numbered : Numbered devNonce identity r) :
    Numbered devNonce identity (r.tryJoin answers).1 := by
  obtain ⟨tried, store, same, log⟩ := activate_tries answers tries
  unfold tryJoin
  cases ready : r.ready with
  | false => exact numbered
  | true =>
    rw [Bool.not_true, if_neg Bool.false_ne_true]
    have healthy : r.persistenceHealthy = true := (Bool.and_eq_true_iff.mp ready).2
    generalize r.activate answers = active at tried store same log ⊢
    have mine : active.stateIdentity = identity := same.trans numbered.same
    have own : active.stateStore.Own active.stateIdentity := by
      rw [store, mine]
      exact numbered.own
    obtain ⟨kept, saved, still, left⟩ := persistJoinState_left reads.1 reads.2 own
    generalize active.persistJoinState answers.saveNonces answers.saveSession = result
      at saved left ⊢
    obtain ⟨after, done⟩ := result
    dsimp only at saved
    subst saved
    rw [mine] at still left
    rw [store] at left
    have ends : ∀ final : LoRaWanRadio noncesSize sessionSize,
        final.stateIdentity = active.stateIdentity → final.stateStore = kept →
        final.node = active.node →
        final.log = (if answers.activated.requested then
          active.log ++ [.joinRequest r.node.nonces done] else active.log) →
        Numbered devNonce identity final := by
      intro final sameIdentity sameStore sameNode sameLog
      rw [← sameStore] at still
      have left : LeftBehind identity done r final := by
        unfold LeftBehind
        rw [sameStore, sameNode]
        exact left
      cases requested : answers.activated.requested with
      | false =>
        rw [requested, if_neg Bool.false_ne_true, ← sameNode] at tried
        rw [requested, if_neg Bool.false_ne_true, log] at sameLog
        exact numbered.unrequested healthy done sameLog (sameIdentity.trans mine) still tried left
      | true =>
        rw [requested, if_pos rfl, ← sameNode] at tried
        rw [requested, if_pos rfl, log] at sameLog
        exact numbered.requested healthy done sameLog (sameIdentity.trans mine) still tried left
    generalize answers.activated.requested = requested at ends ⊢
    cases requested <;> cases done <;> cases active.joined <;> exact ends _ rfl rfl rfl rfl

theorem beginJoin_numbered (answers : BeginAnswers noncesSize sessionSize)
    (reads : BeginAnswers.Reads answers) (tries : JoinTries devNonce r.node answers.join)
    (numbered : Numbered devNonce identity r)
    (next : Origin (joinBook devNonce r) (some ((), devNonce r.node.nonces.val))) :
    Numbered devNonce identity (r.beginJoin answers).1 := by
  have healthy : Numbered devNonce identity { r with persistenceHealthy := true } :=
    numbered.moved rfl numbered.same numbered.own next (Origin.self_stored _)
      fun labelled => ⟨labelled, .inl rfl⟩
  exact tryJoin_numbered answers.join reads.2.2 tries healthy

theorem Numbered.fresh (numbered : Numbered devNonce identity r)
    (absent : r.stateStore.Labelled identity → ∀ nonces : Buffer noncesSize,
      r.stateStore.keys.nonces ≠ some nonces.val) :
    Origin (joinBook devNonce r) (some ((), devNonce r.node.nonces.val)) := by
  refine .fresh () _ fun u member saved => ?_
  obtain ⟨labelled, nonces, present⟩ := numbered.kept ⟨u, member, saved⟩
  exact absurd present (absent labelled nonces)

theorem tries_from {node : Node noncesSize sessionSize}
    {activated : Activated noncesSize sessionSize} (tries : Tries devNonce node activated) :
    From devNonce node activated.node := by
  unfold Tries at tries
  split at tries
  · exact Nat.le_of_lt tries
  · exact tries

theorem persistSession_numbered {calls : StateCalls} (reads : calls.getIdentity = true)
    (numbered : Numbered devNonce identity r) :
    Numbered devNonce identity (r.persistSession calls).1 := by
  have saved := LoRaWanStateStore.saveSession_read reads numbered.own r.node.session
  have spares : LoRaWanStateStore.Spares identity r.stateStore
      (r.stateStore.saveSessionIfChanged identity (some r.node.session) calls).1 :=
    LoRaWanStateStore.saveSession_spares reads r.node.session
  unfold persistSession
  rw [numbered.same]
  generalize r.stateStore.saveSessionIfChanged identity (some r.node.session) calls = result
    at saved spares ⊢
  obtain ⟨store, done⟩ := result
  cases done with
  | false =>
    exact numbered.quiet rfl numbered.same.symm saved.1 spares fun healthy => by cases healthy
  | true =>
    exact numbered.quiet rfl numbered.same.symm saved.1 spares fun healthy =>
      ⟨healthy, Nat.le_refl _⟩

theorem beginSession_numbered (answers : BeginAnswers noncesSize sessionSize)
    (nonces : Buffer noncesSize) (session : Buffer sessionSize)
    (reads : BeginAnswers.Reads answers) (unhealthy : r.persistenceHealthy = false)
    (tries : NoncesTries devNonce answers (some session) nonces)
    (classSet : From devNonce answers.activated.node answers.setClass.node)
    (join : JoinTries devNonce answers.cleared answers.join)
    (taken : (answers.setNonces nonces).done = true)
    (present : r.stateStore.keys.nonces = some nonces.val)
    (numbered : Numbered devNonce identity r) :
    Numbered devNonce identity (r.beginSession answers session).1 := by
  obtain ⟨loaded, _, sessions⟩ := tries
  obtain ⟨set, activated, cleared⟩ := sessions session rfl
  have next : ∀ number, devNonce (answers.setNonces nonces).node.nonces.val ≤ number →
      Origin (joinBook devNonce r) (some ((), number)) := by
    intro number more
    refine .stored () (devNonce nonces.val) number ?_ (Nat.le_trans (loaded taken) more)
    unfold joinBook
    dsimp only
    rw [present]
    rfl
  have inHand : ∀ after : LoRaWanRadio noncesSize sessionSize,
      after.log = r.log → after.stateIdentity = r.stateIdentity →
      after.stateStore = r.stateStore → From devNonce (answers.setNonces nonces).node after.node →
      Numbered devNonce identity after := by
    intro after log same store onwards
    refine numbered.moved (congrArg _ log) (same.trans numbered.same) ?_ ?_ ?_ ?_
    · rw [store]
      exact numbered.own
    · cases healthy : after.persistenceHealthy with
      | false =>
        rw [joinBook_unhealthy healthy]
        exact .none
      | true =>
        rw [joinBook_healthy healthy]
        exact next _ onwards
    · refine Spares.origin (?_ : LoRaWanStateStore.Spares identity _ _)
      rw [store]
      exact .of_keys rfl rfl
    · intro labelled
      rw [store]
      exact ⟨labelled, .inl rfl⟩
  unfold beginSession
  cases (answers.setSession session).done with
  | true =>
    rw [if_pos rfl]
    dsimp only
    have reached : From devNonce (answers.setNonces nonces).node answers.activated.node :=
      Nat.le_trans set (tries_from activated)
    split
    · have classed : From devNonce (answers.setNonces nonces).node answers.setClass.node :=
        Nat.le_trans reached classSet
      unfold applyConfiguredClass
      cases answers.setClass.done with
      | false => exact inHand _ rfl rfl rfl classed
      | true => exact persistSession_numbered reads.2.1 (inHand _ rfl rfl rfl classed)
    · split
      case isTrue requested =>
        have before : Numbered devNonce identity
            { r with node := (answers.setSession session).node, persistenceHealthy := true } :=
          inHand _ rfl rfl rfl set
        unfold Tries at activated
        rw [if_pos requested] at activated
        exact before.requested rfl false rfl numbered.same numbered.own activated
          (.inr ⟨rfl, .of_keys rfl rfl⟩)
      case isFalse => exact inHand _ rfl rfl rfl reached
  | false =>
    rw [if_neg Bool.false_ne_true]
    have own : (r.stateStore.clearSession r.stateIdentity answers.clear).1.Own identity := by
      rw [numbered.same]
      exact LoRaWanStateStore.clearSession_own numbered.own
    have keys := LoRaWanStateStore.clearSession_keys r.stateIdentity answers.clear r.stateStore
    unfold clearStored
    dsimp only
    generalize r.stateStore.clearSession r.stateIdentity answers.clear = result at own keys ⊢
    obtain ⟨store, done⟩ := result
    have left : ∀ node : Node noncesSize sessionSize,
        Numbered devNonce identity { r with node := node, stateStore := store } := by
      intro node
      refine numbered.quiet rfl rfl own (.of_keys keys.1 keys.2) fun healthy => ?_
      cases unhealthy.symm.trans healthy
    cases done with
    | false => exact left _
    | true =>
      refine beginJoin_numbered answers reads join (left answers.cleared) ?_
      refine .stored () (devNonce nonces.val) _ ?_
        (Nat.le_trans (loaded taken) (Nat.le_trans set cleared))
      unfold joinBook
      dsimp only
      rw [keys.2, present]
      rfl

theorem beginNode_numbered (answers : BeginAnswers noncesSize sessionSize)
    (reads : BeginAnswers.Reads answers) (lengths : answers.load.lengthNonces = true)
    (gets : answers.load.getNonces = true) (opened : r.stateStore.isOpen = true)
    (unhealthy : r.persistenceHealthy = false) (node : r.node = answers.node)
    (tries : BeginTries devNonce answers r.stateStore.keys)
    (numbered : Numbered devNonce identity r) :
    Numbered devNonce identity (r.beginNode answers).1 := by
  obtain rfl := numbered.same
  have read := LoRaWanStateStore.load_read reads.1 numbered.own
  have finds : r.stateStore.Labelled r.stateIdentity → ∀ nonces : Buffer noncesSize,
      r.stateStore.keys.nonces = some nonces.val →
      (r.stateStore.load r.stateIdentity answers.load).2.2.nonces = some nonces :=
    LoRaWanStateStore.load_finds ⟨reads.1, lengths, gets⟩ opened
  have keys := LoRaWanStateStore.load_keys r.stateIdentity answers.load r.stateStore
  have buffers := LoRaWanStateStore.load_buffers r.stateIdentity answers.load r.stateStore
  unfold beginNode
  generalize r.stateStore.load r.stateIdentity answers.load = result
    at read finds keys buffers ⊢
  obtain ⟨store, found, nonces, session⟩ := result
  dsimp only at read finds keys buffers
  have loaded : ∀ node : Node noncesSize sessionSize,
      Numbered devNonce r.stateIdentity { r with node := node, stateStore := store } := by
    intro node
    refine numbered.quiet rfl rfl read.1 (.of_keys (by rw [keys]) (by rw [keys]))
      fun healthy => ?_
    cases unhealthy.symm.trans healthy
  cases found with
  | false => exact loaded _
  | true =>
    cases nonces with
    | none =>
      refine beginJoin_numbered answers reads ?_ (loaded _) ((loaded _).fresh ?_)
      · rw [node]
        exact tries.1
      · intro labelled nonces present
        unfold LoRaWanStateStore.Labelled at labelled finds
        dsimp only at labelled present
        rw [keys] at labelled present
        cases finds labelled nonces present
    | some nonces =>
      obtain ⟨labelled, present⟩ := read.2 nonces rfl
      have tried := tries.2.1 nonces (buffers.1 nonces rfl)
      dsimp only
      cases taken : (answers.setNonces nonces).done with
      | false => exact loaded _
      | true =>
        cases session with
        | none =>
          refine beginJoin_numbered answers reads tried.2.1 (loaded _) ?_
          refine .stored () (devNonce nonces.val) _ ?_ (tried.1 taken)
          unfold joinBook
          dsimp only
          rw [keys, present]
          rfl
        | some session =>
          rw [Option.mem_def.mp (buffers.2 session rfl)] at tried
          refine beginSession_numbered answers nonces session reads unhealthy tried tries.2.2.1
            tries.2.2.2 taken ?_ (loaded _)
          dsimp only
          rw [keys, present]

theorem begin_numbered (answers : BeginAnswers noncesSize sessionSize)
    (reads : BeginAnswers.Reads answers) (lengths : answers.load.lengthNonces = true)
    (gets : answers.load.getNonces = true)
    (tries : BeginTries devNonce answers r.stateStore.keys)
    (numbered : Numbered devNonce identity r) :
    Numbered devNonce identity (r.begin answers).1 := by
  have own := LoRaWanStateStore.begin_own answers.opens numbered.own
  have keys := LoRaWanStateStore.begin_keys answers.opens r.stateStore
  have down : ∀ (ready : Bool) (store : LoRaWanStateStore noncesSize sessionSize)
      (node : Node noncesSize sessionSize), store.Own identity → store.keys = r.stateStore.keys →
      Numbered devNonce identity
        { r with
          joined := false
          radioReady := ready
          persistenceHealthy := false
          stateStore := store
          node := node } := by
    intro ready store node own keys
    refine numbered.quiet rfl rfl own (.of_keys (by rw [keys]) (by rw [keys])) ?_
    intro healthy
    cases healthy
  unfold begin
  dsimp only
  split
  · exact down false r.stateStore r.node numbered.own rfl
  · generalize r.stateStore.begin answers.opens = store at own keys ⊢
    split
    case isTrue => exact down false store r.node own keys
    case isFalse proceeds =>
      have opened : store.isOpen = true := by
        cases opened : store.isOpen with
        | true => rfl
        | false =>
          rw [opened] at proceeds
          exact absurd rfl proceeds
      refine beginNode_numbered answers reads lengths gets opened rfl rfl ?_
        (down true store answers.node own keys)
      dsimp only
      rw [keys]
      exact tries

theorem boot_numbered (config : LoRaWanConfig) (devEui : Bytes)
    (begins : Option (BeginAnswers noncesSize sessionSize)) (node : Node noncesSize sessionSize)
    (reads : Event.Reads (.boot config devEui begins node))
    (continued : Continued devNonce identity r (.boot config devEui begins node))
    (numbered : Numbered devNonce identity r) :
    Numbered devNonce identity (r.boot config devEui begins node) := by
  have same : identityFingerprint config devEui = identity := by
    cases begins with
    | none => exact continued
    | some answers => exact continued.1
  have uses : joinRequests devNonce (r.log ++ [.boot]) = joinRequests devNonce r.log := by
    simp [joinRequests]
  have booted : Numbered devNonce identity
      (configure config devEui
        { node := node
          stateStore := { keys := r.stateStore.keys }
          log := r.log ++ [.boot] }) := by
    refine numbered.moved uses same (LoRaWanStateStore.own_none rfl) .none ?_ ?_
    · refine Spares.origin (?_ : LoRaWanStateStore.Spares identity _ _)
      exact .of_keys rfl rfl
    · exact fun labelled => ⟨labelled, .inl rfl⟩
  unfold boot
  cases begins with
  | none => exact booted
  | some answers =>
    exact begin_numbered answers reads continued.2.1 continued.2.2.1 continued.2.2.2 booted

theorem exchange_numbered (answers : SendAnswers noncesSize sessionSize)
    (reads : answers.save.getIdentity = true) (onwards : From devNonce r.node answers.node)
    (numbered : Numbered devNonce identity r) :
    Numbered devNonce identity (r.exchange answers).1 := by
  have exchanged : Numbered devNonce identity { r with node := answers.node } :=
    numbered.quiet rfl rfl numbered.own (.of_keys rfl rfl) fun healthy => ⟨healthy, onwards⟩
  have persisted := persistSession_numbered reads exchanged
  unfold exchange
  dsimp only
  split
  · refine persisted.quiet ?_ rfl persisted.own (.of_keys rfl rfl)
      fun healthy => ⟨healthy, Nat.le_refl _⟩
    simp [joinRequests]
  · exact persisted

theorem clearStored_numbered (calls : StateCalls) (numbered : Numbered devNonce identity r) :
    Numbered devNonce identity (r.clearStored calls).1 := by
  obtain rfl := numbered.same
  have keys := LoRaWanStateStore.clearSession_keys r.stateIdentity calls r.stateStore
  exact numbered.quiet rfl rfl (LoRaWanStateStore.clearSession_own numbered.own)
    (.of_keys keys.1 keys.2) fun healthy => ⟨healthy, Nat.le_refl _⟩

theorem Numbered.flags {after : LoRaWanRadio noncesSize sessionSize}
    (numbered : Numbered devNonce identity r) (log : after.log = r.log)
    (same : after.stateIdentity = r.stateIdentity) (store : after.stateStore = r.stateStore)
    (node : after.node = r.node)
    (healthy : after.persistenceHealthy = true → r.persistenceHealthy = true) :
    Numbered devNonce identity after := by
  refine numbered.quiet (congrArg _ log) same ?_ ?_ fun still => ⟨healthy still, ?_⟩
  · rw [store]
    exact numbered.own
  · rw [store]
    exact .of_keys rfl rfl
  · rw [node]
    exact Nat.le_refl _

theorem send_numbered (envelope : TransportEnvelope) (answers : SendAnswers noncesSize sessionSize)
    (reads : answers.save.getIdentity = true)
    (continued : From devNonce r.node answers.node ∧ From devNonce answers.node answers.cleared)
    (numbered : Numbered devNonce identity r) :
    Numbered devNonce identity (send afterwards envelope answers r).1 := by
  have exchanged := exchange_numbered answers reads continued.1 numbered
  have node : (r.exchange answers).1.node = answers.node := by
    unfold exchange
    dsimp only
    split <;> rfl
  unfold send
  split
  · exact numbered
  · generalize r.exchange answers = result at exchanged node ⊢
    obtain ⟨after, saved⟩ := result
    cases saved with
    | false => exact exchanged
    | true =>
      cases answers.state with
      | done =>
        dsimp only
        rw [dispatch_afterwards]
        exact exchanged
      | failed => exact exchanged
      | sessionLost =>
        dsimp only at node exchanged ⊢
        have lost : Numbered devNonce identity
            { after with joined := false, node := answers.cleared } := by
          refine exchanged.quiet rfl rfl exchanged.own (.of_keys rfl rfl)
            fun healthy => ⟨healthy, ?_⟩
          rw [node]
          exact continued.2
        have cleared := clearStored_numbered answers.clear lost
        generalize { after with joined := false, node := answers.cleared }.clearStored
          answers.clear = result at cleared ⊢
        obtain ⟨left, done⟩ := result
        cases done with
        | false => exact cleared.flags rfl rfl rfl rfl fun healthy => by cases healthy
        | true => exact cleared.flags rfl rfl rfl rfl fun healthy => healthy

theorem performNetworkTimeSync_numbered (answers : TimeSyncAnswers noncesSize sessionSize)
    (reads : answers.exchange.save.getIdentity = true)
    (continued : Continued devNonce identity r (.timeSync answers))
    (numbered : Numbered devNonce identity r) :
    Numbered devNonce identity (performNetworkTimeSync afterwards answers r) := by
  have requested : Numbered devNonce identity { r with node := answers.request.node } :=
    numbered.quiet rfl rfl numbered.own (.of_keys rfl rfl)
      fun healthy => ⟨healthy, continued.1⟩
  have exchanged := exchange_numbered answers.exchange reads continued.2 requested
  unfold performNetworkTimeSync
  dsimp only
  split
  · exact requested
  · generalize exchange answers.exchange { r with node := answers.request.node } = result
      at exchanged ⊢
    obtain ⟨after, saved⟩ := result
    cases saved with
    | false => exact exchanged
    | true =>
      dsimp only
      rw [dispatch_afterwards, ite_self]
      exact exchanged

theorem pollClassCDownlink_numbered (answers : ClassCAnswers noncesSize sessionSize)
    (reads : answers.save.getIdentity = true) (onwards : From devNonce r.node answers.node)
    (numbered : Numbered devNonce identity r) :
    Numbered devNonce identity (pollClassCDownlink afterwards answers r) := by
  have received : Numbered devNonce identity { r with node := answers.node } :=
    numbered.quiet rfl rfl numbered.own (.of_keys rfl rfl) fun healthy => ⟨healthy, onwards⟩
  have persisted := persistSession_numbered reads received
  unfold pollClassCDownlink
  dsimp only
  split
  · exact received
  · generalize persistSession answers.save { r with node := answers.node } = result
      at persisted ⊢
    obtain ⟨after, saved⟩ := result
    cases saved with
    | false => exact persisted
    | true =>
      dsimp only
      rw [dispatch_afterwards]
      exact persisted

theorem rejoin_numbered (answers : RejoinAnswers noncesSize sessionSize)
    (onwards : From devNonce r.node answers.cleared) (numbered : Numbered devNonce identity r) :
    Numbered devNonce identity (r.rejoin answers).1 := by
  have lost : Numbered devNonce identity
      { r with rejoinRequested := false, joined := false, node := answers.cleared } :=
    numbered.quiet rfl rfl numbered.own (.of_keys rfl rfl) fun healthy => ⟨healthy, onwards⟩
  have cleared := clearStored_numbered answers.clear lost
  unfold rejoin
  dsimp only
  generalize clearStored answers.clear
    { r with rejoinRequested := false, joined := false, node := answers.cleared } = result
    at cleared ⊢
  obtain ⟨left, done⟩ := result
  cases done with
  | false => exact cleared.flags rfl rfl rfl rfl fun healthy => by cases healthy
  | true => exact cleared.flags rfl rfl rfl rfl fun healthy => healthy

theorem step_numbered (r : LoRaWanRadio noncesSize sessionSize)
    (event : Event noncesSize sessionSize) (numbered : Numbered devNonce identity r)
    (reads : event.Reads) (continued : Continued devNonce identity r event) :
    Numbered devNonce identity (r.step event) := by
  cases event with
  | boot config devEui begins node =>
    exact boot_numbered config devEui begins node reads continued numbered
  | rejoin answers =>
    unfold step
    dsimp only
    split
    · exact rejoin_numbered answers continued numbered
    · exact numbered
  | timeSync answers =>
    unfold step
    dsimp only
    split
    · exact performNetworkTimeSync_numbered answers reads continued
        (numbered.flags rfl rfl rfl rfl fun healthy => healthy)
    · exact numbered
  | classC answers =>
    unfold step
    dsimp only
    split
    · exact pollClassCDownlink_numbered answers reads continued numbered
    · exact numbered
  | join nowMs answers =>
    unfold step
    dsimp only
    split
    · exact tryJoin_numbered answers reads continued numbered
    · exact numbered
  | request request =>
    cases request with
    | send envelope answers => exact send_numbered envelope answers reads continued numbered
    | requestRejoin =>
      unfold step serve requestRejoin
      dsimp only
      split
      · exact numbered
      · exact numbered.flags rfl rfl rfl rfl fun healthy => healthy
    | requestNetworkTimeSync =>
      unfold step serve requestNetworkTimeSync
      dsimp only
      split
      · exact numbered
      · exact numbered.flags rfl rfl rfl rfl fun healthy => healthy

/-- As long as the credentials stay the same and the flash can be read, whatever fails to be
written: once the nonces and, after a join, the session have been saved after a join request, its
number is not used again, nor a lower one, across resets and power losses. -/
theorem devNonces_once (devNonce : Bytes → ℕ) (config : LoRaWanConfig) (devEui : Bytes)
    (node : Node noncesSize sessionSize) (keys : StateKeys)
    (events : List (Event noncesSize sessionSize)) (reads : ∀ event ∈ events, event.Reads)
    (continued : Always step (Continued devNonce (identityFingerprint config devEui))
      (configure config devEui { node := node, stateStore := { keys := keys } }) events) :
    Once (joinRequests devNonce
      (run step (configure config devEui { node := node, stateStore := { keys := keys } })
        events).log) := by
  have start : Numbered devNonce (identityFingerprint config devEui)
      (configure config devEui
        ({ node := node, stateStore := { keys := keys } } :
          LoRaWanRadio noncesSize sessionSize)) := by
    refine ⟨?_, rfl, LoRaWanStateStore.own_none rfl, fun ⟨u, member, _⟩ => ?_⟩
    · exact once_of_run _ _ .refl
    · cases member
  exact (invariant_run step (Numbered devNonce (identityFingerprint config devEui))
    (fun r event => Event.Reads event ∧ Continued devNonce _ r event)
    (fun r event numbered holds => step_numbered r event numbered holds.1 holds.2) _ events start
    ((always_of_forall step Event.Reads _ events reads).and step continued)).sound.once

def interruptedJoins : List (Event 1 2) :=
  [.boot smallConfig (devEui 0)
      (some (smallBegin 0 (smallNode 0 0 0) false (smallNode 1 7 0))) (smallNode 0 0 0),
    .request .requestRejoin, .rejoin { cleared := smallNode 1 0 0 },
    .join 0
      { activated := ⟨.failed, true, smallNode 2 0 0⟩
        setClass := ⟨true, smallNode 2 0 0⟩
        saveNonces := { putNonces := false } },
    .boot smallConfig (devEui 0)
      (some (smallBegin 1 (smallNode 1 0 0) false (smallNode 2 8 0))) (smallNode 0 0 0)]

theorem devNonces_once_interrupted :
    let log := (run step (configure smallConfig (devEui 0)
      { node := smallNode 0 0 0, stateStore := { keys := {} } }) interruptedJoins).log
    (joinRequests (fun nonces => (byteAt nonces 0).toNat) log).map
        (fun u => (u.number, u.saved)) = [(0, true), (1, false), (1, true)] ∧
      Once (joinRequests (fun nonces => (byteAt nonces 0).toNat) log) :=
  ⟨by decide +kernel, devNonces_once (fun nonces => (byteAt nonces 0).toNat) smallConfig
    (devEui 0) (smallNode 0 0 0) {} interruptedJoins
    (by simp [interruptedJoins, smallBegin, Event.Reads, BeginAnswers.Reads])
    (by unfold Always; decide +kernel)⟩

end LoRaWanRadio
end Lorawan
