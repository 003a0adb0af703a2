import MultibusGateway.Lorawan.RadioNumbers

/-! The flash of a radio that has joined. As long as the label of the state can be read, whatever
fails to be written, a radio that is joined and has saved everything finds its node again at the
next boot, as it is now. -/

namespace Lorawan
open ByteString Config Execution

namespace LoRaWanStateStore
variable {noncesSize sessionSize : ℕ} {s : LoRaWanStateStore noncesSize sessionSize}
  {identity : UInt32} {calls : StateCalls}

def Labelled (identity : UInt32) (s : LoRaWanStateStore noncesSize sessionSize) : Prop :=
  s.keys.identity.getD 0 = identity

def Own (identity : UInt32) (s : LoRaWanStateStore noncesSize sessionSize) : Prop :=
  ∀ session, s.lastSession = some session →
    s.keys.session = some session.val ∧ s.Labelled identity

theorem own_none (gone : s.lastSession = none) : s.Own identity := by
  intro session kept
  rw [gone] at kept
  cases kept

theorem storedIdentity_read (reads : calls.getIdentity = true) :
    s.storedIdentity calls = s.keys.identity.getD 0 := if_pos reads

theorem ensureIdentity_labelled (reads : calls.getIdentity = true)
    (labelled : s.Labelled identity) :
    s.ensureIdentity identity calls = (s, true) := by
  unfold ensureIdentity
  rw [storedIdentity_read reads, if_pos (beq_iff_eq.mpr labelled)]

theorem ensureIdentity_read (reads : calls.getIdentity = true) (own : s.Own identity) :
    (s.ensureIdentity identity calls).1.Own identity ∧
      ((s.ensureIdentity identity calls).2 = true →
        (s.ensureIdentity identity calls).1.Labelled identity) := by
  by_cases labelled : s.Labelled identity
  · rw [ensureIdentity_labelled reads labelled]
    exact ⟨own, fun _ => labelled⟩
  · unfold ensureIdentity
    rw [storedIdentity_read reads, if_neg (beq_iff_eq.not.mpr labelled)]
    refine ⟨own_none rfl, fun put => ?_⟩
    dsimp only [Labelled] at put ⊢
    rw [if_pos put]
    rfl

theorem saveNonces_read (reads : calls.getIdentity = true) (own : s.Own identity)
    (nonces : Buffer noncesSize) :
    (s.saveNonces identity (some nonces) calls).1.Own identity ∧
      ((s.saveNonces identity (some nonces) calls).2 = true →
        (s.saveNonces identity (some nonces) calls).1.Labelled identity ∧
          (s.saveNonces identity (some nonces) calls).1.keys.nonces = some nonces.val) := by
  have ensured := ensureIdentity_read reads own
  unfold saveNonces
  cases s.isOpen with
  | false => exact ⟨own, fun saved => by cases saved⟩
  | true =>
    dsimp only
    generalize s.ensureIdentity identity calls = result at ensured ⊢
    obtain ⟨store, done⟩ := result
    cases done with
    | false => exact ⟨ensured.1, fun saved => by cases saved⟩
    | true =>
      dsimp only
      cases calls.putNonces with
      | false => exact ⟨ensured.1, fun saved => by cases saved⟩
      | true => exact ⟨ensured.1, fun _ => ⟨ensured.2 rfl, rfl⟩⟩

theorem saveSession_read (reads : calls.getIdentity = true) (own : s.Own identity)
    (session : Buffer sessionSize) :
    (s.saveSessionIfChanged identity (some session) calls).1.Own identity ∧
      ((s.saveSessionIfChanged identity (some session) calls).2 = true →
        (s.saveSessionIfChanged identity (some session) calls).1.Labelled identity ∧
          (s.saveSessionIfChanged identity (some session) calls).1.keys.session =
            some session.val) ∧
      (s.Labelled identity →
        (s.saveSessionIfChanged identity (some session) calls).1.keys.nonces =
          s.keys.nonces) := by
  have ensured := ensureIdentity_read reads own
  have kept : s.Labelled identity → (s.ensureIdentity identity calls).1.keys.nonces =
      s.keys.nonces := by
    intro labelled
    rw [ensureIdentity_labelled reads labelled]
  unfold saveSessionIfChanged
  cases s.isOpen with
  | false => exact ⟨own, (fun saved => by cases saved), fun _ => rfl⟩
  | true =>
    dsimp only
    split
    case isTrue same =>
      exact ⟨own, fun _ => ⟨(own session same).2, (own session same).1⟩, fun _ => rfl⟩
    case isFalse =>
      generalize s.ensureIdentity identity calls = result at ensured kept ⊢
      obtain ⟨store, done⟩ := result
      cases done with
      | false => exact ⟨ensured.1, (fun saved => by cases saved), kept⟩
      | true =>
        dsimp only
        cases calls.putSession with
        | false => exact ⟨ensured.1, (fun saved => by cases saved), kept⟩
        | true =>
          refine ⟨fun other same => ?_, fun _ => ⟨ensured.2 rfl, rfl⟩, kept⟩
          cases same
          exact ⟨rfl, ensured.2 rfl⟩

theorem clearSession_own (own : s.Own identity) :
    (s.clearSession identity calls).1.Own identity := by
  unfold clearSession
  split
  · exact own
  · split
    · exact own_none rfl
    · split
      · split
        · exact own_none rfl
        · exact own
      · exact own_none rfl

theorem begin_own (opens : Bool) (own : s.Own identity) : (s.begin opens).Own identity := by
  unfold begin
  split <;> exact own

theorem load_read (reads : calls.getIdentity = true) (own : s.Own identity) :
    (s.load identity calls).1.Own identity ∧
      ∀ nonces, (s.load identity calls).2.2.nonces = some nonces →
        s.Labelled identity ∧ s.keys.nonces = some nonces.val := by
  unfold load
  split
  · exact ⟨own, fun nonces found => by cases found⟩
  · split
    · exact ⟨own, fun nonces found => by cases found⟩
    case isFalse same =>
      have labelled : s.Labelled identity := by
        rw [storedIdentity_read reads] at same
        simpa [Labelled] using same
      exact ⟨fun session read => ⟨StateHistory.readBuffer_eq_some read, labelled⟩,
        fun nonces read => ⟨labelled, StateHistory.readBuffer_eq_some read⟩⟩

end LoRaWanStateStore

namespace LoRaWanRadio
variable {noncesSize sessionSize : ℕ} (classC : Bytes → Bool)

/-! The calls read the label, whatever becomes of what they write. -/

def BeginAnswers.Reads (answers : BeginAnswers noncesSize sessionSize) : Prop :=
  answers.load.getIdentity = true ∧ answers.save.getIdentity = true ∧
    answers.join.saveNonces.getIdentity = true ∧ answers.join.saveSession.getIdentity = true

def Event.Reads : Event noncesSize sessionSize → Prop
  | .boot _ _ none _ | .rejoin _ => True
  | .boot _ _ (some answers) _ => BeginAnswers.Reads answers
  | .timeSync answers => answers.exchange.save.getIdentity = true
  | .classC answers => answers.save.getIdentity = true
  | .join _ answers =>
    answers.saveNonces.getIdentity = true ∧ answers.saveSession.getIdentity = true
  | .request (.send _ answers) => answers.save.getIdentity = true
  | .request .requestRejoin | .request .requestNetworkTimeSync => True

/-! What the radio library documents: only an activation changes the nonces, only `setClass` the
class, and a call that gives nothing leaves the session as it is. -/

def SameState (node after : Node noncesSize sessionSize) : Prop :=
  after.nonces = node.nonces ∧ classC after.session.val = classC node.session.val

def SetsClass (config : LoRaWanConfig) (answer : NodeAnswer noncesSize sessionSize) : Prop :=
  answer.done = true → classC answer.node.session.val = config.classC

def BeginKeeps (config : LoRaWanConfig) (answers : BeginAnswers noncesSize sessionSize)
    (nonces : Buffer noncesSize) (sessions : Option (Buffer sessionSize)) : Prop :=
  (answers.setNonces nonces).node.nonces = nonces ∧
    (∀ session ∈ sessions,
      (answers.setSession session).node.nonces = (answers.setNonces nonces).node.nonces ∧
      answers.activated.node.nonces = (answers.setSession session).node.nonces) ∧
    answers.setClass.node.nonces = answers.activated.node.nonces ∧
    SetsClass classC config answers.setClass

def Keeps (r : LoRaWanRadio noncesSize sessionSize) : Event noncesSize sessionSize → Prop
  | .boot _ _ none _ | .rejoin _ => True
  | .boot config _ (some answers) _ =>
    (∀ nonces ∈ r.stateStore.keys.noncesBuffer noncesSize,
      (answers.setNonces nonces).done = true →
        BeginKeeps classC config answers nonces (r.stateStore.keys.sessionBuffer sessionSize)) ∧
      SetsClass classC config answers.join.setClass
  | .timeSync answers =>
    SameState classC r.node answers.request.node ∧
      (answers.request.done = false → answers.request.node = r.node) ∧
      SameState classC answers.request.node answers.exchange.node
  | .classC answers =>
    SameState classC r.node answers.node ∧ (answers.received = false → answers.node = r.node)
  | .join _ answers => SetsClass classC r.config answers.setClass
  | .request (.send _ answers) => SameState classC r.node answers.node
  | .request .requestRejoin | .request .requestNetworkTimeSync => True

section
variable (config : LoRaWanConfig) (nonces : Buffer noncesSize)
  (sessions : Option (Buffer sessionSize))

instance (answer : NodeAnswer noncesSize sessionSize) :
    Decidable (SetsClass classC config answer) := inferInstanceAs (Decidable (_ → _))

instance (node after : Node noncesSize sessionSize) : Decidable (SameState classC node after) :=
  inferInstanceAs (Decidable (_ ∧ _))

instance (answers : BeginAnswers noncesSize sessionSize) :
    Decidable (BeginKeeps classC config answers nonces sessions) :=
  inferInstanceAs (Decidable (_ ∧ (∀ session ∈ sessions, _ ∧ _) ∧ _ ∧ _))

instance (r : LoRaWanRadio noncesSize sessionSize) : DecidablePred (Keeps classC r)
  | .boot _ _ none _ | .rejoin _ | .request .requestRejoin | .request .requestNetworkTimeSync =>
    inferInstanceAs (Decidable True)
  | .boot _ _ (some _) _ =>
    inferInstanceAs (Decidable ((∀ nonces ∈ _, _ → BeginKeeps classC _ _ nonces _) ∧ _))
  | .timeSync _ => inferInstanceAs (Decidable (_ ∧ (_ → _) ∧ _))
  | .classC _ => inferInstanceAs (Decidable (_ ∧ (_ → _)))
  | .join _ _ => inferInstanceAs (Decidable (SetsClass classC _ _))
  | .request (.send _ _) => inferInstanceAs (Decidable (SameState classC _ _))

end

/-- The flash holds the node under its identity, and the node is of the configured class. -/
structure Held (r : LoRaWanRadio noncesSize sessionSize) : Prop where
  labelled : r.stateStore.Labelled r.stateIdentity
  nonces : r.stateStore.keys.nonces = some r.node.nonces.val
  session : r.stateStore.keys.session = some r.node.session.val
  inClass : classC r.node.session.val = r.config.classC

structure InFlash (r : LoRaWanRadio noncesSize sessionSize) : Prop where
  own : r.stateStore.Own r.stateIdentity
  held : r.joined = true → r.persistenceHealthy = true → Held classC r

variable {classC} {r : LoRaWanRadio noncesSize sessionSize}

theorem InFlash.idle (own : r.stateStore.Own r.stateIdentity) (away : r.joined = false) :
    InFlash classC r := by
  refine ⟨own, fun joined => ?_⟩
  rw [away] at joined
  cases joined

theorem InFlash.unhealthy (own : r.stateStore.Own r.stateIdentity)
    (failed : r.persistenceHealthy = false) : InFlash classC r := by
  refine ⟨own, fun _ healthy => ?_⟩
  rw [failed] at healthy
  cases healthy

theorem persistSession_inFlash {calls : StateCalls} (reads : calls.getIdentity = true)
    (own : r.stateStore.Own r.stateIdentity)
    (kept : r.joined = true → r.persistenceHealthy = true →
      r.stateStore.Labelled r.stateIdentity ∧ r.stateStore.keys.nonces = some r.node.nonces.val ∧
        classC r.node.session.val = r.config.classC) :
    InFlash classC (r.persistSession calls).1 := by
  have saved := LoRaWanStateStore.saveSession_read reads own r.node.session
  unfold persistSession
  generalize r.stateStore.saveSessionIfChanged r.stateIdentity (some r.node.session) calls =
    result at saved ⊢
  obtain ⟨store, done⟩ := result
  cases done with
  | false => exact .unhealthy saved.1 rfl
  | true =>
    refine ⟨saved.1, fun joined healthy => ?_⟩
    obtain ⟨labelled, nonces, inClass⟩ := kept joined healthy
    obtain ⟨labelled', session⟩ := saved.2.1 rfl
    exact ⟨labelled', (saved.2.2 labelled).trans nonces, session, inClass⟩

theorem persistJoinState_read {nonces session : StateCalls}
    (readsNonces : nonces.getIdentity = true) (readsSession : session.getIdentity = true)
    (own : r.stateStore.Own r.stateIdentity) :
    ∃ store, (r.persistJoinState nonces session).1 = { r with stateStore := store } ∧
      store.Own r.stateIdentity ∧
      ((r.persistJoinState nonces session).2 = true → r.joined = true →
        store.Labelled r.stateIdentity ∧ store.keys.nonces = some r.node.nonces.val ∧
          store.keys.session = some r.node.session.val) := by
  have first := LoRaWanStateStore.saveNonces_read readsNonces own r.node.nonces
  unfold persistJoinState
  dsimp only
  generalize r.stateStore.saveNonces r.stateIdentity (some r.node.nonces) nonces = result
    at first ⊢
  obtain ⟨store, done⟩ := result
  cases done with
  | false => exact ⟨store, rfl, first.1, fun saved => by cases saved⟩
  | true =>
    cases joined : r.joined with
    | false => exact ⟨store, rfl, first.1, fun _ away => by cases away⟩
    | true =>
      obtain ⟨labelled, here⟩ := first.2 rfl
      have second := LoRaWanStateStore.saveSession_read readsSession first.1 r.node.session
      refine ⟨_, rfl, second.1, fun saved _ => ?_⟩
      obtain ⟨still, there⟩ := second.2.1 saved
      exact ⟨still, (second.2.2 labelled).trans here, there⟩

theorem activate_class (answers : JoinAnswers noncesSize sessionSize)
    (r : LoRaWanRadio noncesSize sessionSize)
    (sets : SetsClass classC r.config answers.setClass) :
    (r.activate answers).stateStore = r.stateStore ∧
      (r.activate answers).stateIdentity = r.stateIdentity ∧
      (r.activate answers).config = r.config ∧
      ((r.activate answers).joined = true →
        classC (r.activate answers).node.session.val = r.config.classC) := by
  unfold activate applyConfiguredClass
  cases answers.activated.state with
  | failed => exact ⟨rfl, rfl, rfl, fun joined => by cases joined⟩
  | newSession | sessionRestored =>
    cases done : answers.setClass.done with
    | false => exact ⟨rfl, rfl, rfl, fun joined => by cases joined⟩
    | true => exact ⟨rfl, rfl, rfl, fun _ => sets done⟩

theorem tryJoin_inFlash (answers : JoinAnswers noncesSize sessionSize)
    (reads : answers.saveNonces.getIdentity = true ∧ answers.saveSession.getIdentity = true)
    (sets : SetsClass classC r.config answers.setClass) (inFlash : InFlash classC r) :
    InFlash classC (r.tryJoin answers).1 := by
  have activated := activate_class answers r sets
  unfold tryJoin
  split
  · exact inFlash
  · generalize r.activate answers = active at activated ⊢
    obtain ⟨same, identity, config, inClass⟩ := activated
    have own : active.stateStore.Own active.stateIdentity := by
      rw [same, identity]
      exact inFlash.own
    obtain ⟨store, kept, still, held⟩ := persistJoinState_read reads.1 reads.2 own
    generalize active.persistJoinState answers.saveNonces answers.saveSession = result
      at kept held ⊢
    obtain ⟨after, saved⟩ := result
    dsimp only at kept
    subst kept
    cases saved with
    | false => cases answers.activated.requested <;> exact .idle still rfl
    | true =>
      cases joined : active.joined with
      | false => cases answers.activated.requested <;> exact .idle still rfl
      | true =>
        obtain ⟨labelled, nonces, session⟩ := held rfl joined
        have inClass := inClass joined
        rw [← config] at inClass
        cases answers.activated.requested <;>
          exact ⟨still, fun _ _ => ⟨labelled, nonces, session, inClass⟩⟩

theorem beginJoin_inFlash (answers : BeginAnswers noncesSize sessionSize)
    (reads : BeginAnswers.Reads answers) (sets : SetsClass classC r.config answers.join.setClass)
    (own : r.stateStore.Own r.stateIdentity) (away : r.joined = false) :
    InFlash classC (r.beginJoin answers).1 :=
  tryJoin_inFlash answers.join reads.2.2
    (r := { r with persistenceHealthy := true }) sets (.idle own away)

theorem beginSession_inFlash (answers : BeginAnswers noncesSize sessionSize)
    (nonces : Buffer noncesSize) (session : Buffer sessionSize)
    (reads : BeginAnswers.Reads answers) (sets : SetsClass classC r.config answers.join.setClass)
    (own : r.stateStore.Own r.stateIdentity) (away : r.joined = false)
    (labelled : r.stateStore.Labelled r.stateIdentity)
    (present : r.stateStore.keys.nonces = some nonces.val)
    (keeps : BeginKeeps classC r.config answers nonces (some session)) :
    InFlash classC (r.beginSession answers session).1 := by
  obtain ⟨loaded, sessions, classSet, sets'⟩ := keeps
  obtain ⟨set, activated⟩ := sessions session rfl
  have nonces : r.stateStore.keys.nonces = some answers.setClass.node.nonces.val := by
    rw [present, classSet, activated, set, loaded]
  unfold beginSession
  cases (answers.setSession session).done with
  | true =>
    rw [if_pos rfl]
    dsimp only
    split
    · unfold applyConfiguredClass
      cases done : answers.setClass.done with
      | false => exact .idle own rfl
      | true =>
        exact persistSession_inFlash reads.2.1 own fun _ _ => ⟨labelled, nonces, sets' done⟩
    · split <;> exact .idle own away
  | false =>
    rw [if_neg Bool.false_ne_true]
    have cleared :
        (r.stateStore.clearSession r.stateIdentity answers.clear).1.Own r.stateIdentity :=
      LoRaWanStateStore.clearSession_own own
    unfold clearStored
    dsimp only
    generalize r.stateStore.clearSession r.stateIdentity answers.clear = result at cleared ⊢
    obtain ⟨store, done⟩ := result
    cases done with
    | false => exact .idle cleared away
    | true => exact beginJoin_inFlash answers reads sets cleared away

theorem beginNode_inFlash (answers : BeginAnswers noncesSize sessionSize)
    (reads : BeginAnswers.Reads answers) (own : r.stateStore.Own r.stateIdentity)
    (away : r.joined = false)
    (keeps : (∀ nonces ∈ r.stateStore.keys.noncesBuffer noncesSize,
      (answers.setNonces nonces).done = true →
        BeginKeeps classC r.config answers nonces (r.stateStore.keys.sessionBuffer sessionSize)) ∧
      SetsClass classC r.config answers.join.setClass) :
    InFlash classC (r.beginNode answers).1 := by
  obtain ⟨loaded, found⟩ := LoRaWanStateStore.load_read reads.1 own
  have keys := LoRaWanStateStore.load_keys r.stateIdentity answers.load r.stateStore
  have buffers := LoRaWanStateStore.load_buffers r.stateIdentity answers.load r.stateStore
  unfold beginNode
  generalize r.stateStore.load r.stateIdentity answers.load = result at loaded keys found buffers ⊢
  obtain ⟨store, opened, nonces, session⟩ := result
  dsimp only at loaded keys found
  cases opened with
  | false => exact .idle loaded away
  | true =>
    cases nonces with
    | none => exact beginJoin_inFlash answers reads keeps.2 loaded away
    | some nonces =>
      obtain ⟨labelled, present⟩ := found nonces rfl
      dsimp only
      cases done : (answers.setNonces nonces).done with
      | false => exact .idle loaded away
      | true =>
        cases session with
        | none => exact beginJoin_inFlash answers reads keeps.2 loaded away
        | some session =>
          have kept := keeps.1 nonces (buffers.1 nonces rfl) done
          rw [Option.mem_def.mp (buffers.2 session rfl)] at kept
          refine beginSession_inFlash answers nonces session reads keeps.2 loaded away ?_ ?_ kept
          · unfold LoRaWanStateStore.Labelled at labelled ⊢
            dsimp only
            rw [keys]
            exact labelled
          · dsimp only
            rw [keys]
            exact present

theorem begin_inFlash (answers : BeginAnswers noncesSize sessionSize)
    (reads : BeginAnswers.Reads answers) (own : r.stateStore.Own r.stateIdentity)
    (keeps : (∀ nonces ∈ r.stateStore.keys.noncesBuffer noncesSize,
      (answers.setNonces nonces).done = true →
        BeginKeeps classC r.config answers nonces (r.stateStore.keys.sessionBuffer sessionSize)) ∧
      SetsClass classC r.config answers.join.setClass) :
    InFlash classC (r.begin answers).1 := by
  have begun := LoRaWanStateStore.begin_own answers.opens own
  have keys := LoRaWanStateStore.begin_keys answers.opens r.stateStore
  unfold begin
  dsimp only
  split
  · exact .idle own rfl
  · generalize r.stateStore.begin answers.opens = store at begun keys ⊢
    split
    · exact .idle begun rfl
    · refine beginNode_inFlash answers reads begun rfl ?_
      dsimp only
      rw [keys]
      exact keeps

theorem boot_inFlash (config : LoRaWanConfig) (devEui : Bytes)
    (begins : Option (BeginAnswers noncesSize sessionSize)) (node : Node noncesSize sessionSize)
    (reads : Event.Reads (.boot config devEui begins node))
    (keeps : Keeps classC r (.boot config devEui begins node)) :
    InFlash classC (r.boot config devEui begins node) := by
  unfold boot
  cases begins with
  | none => exact .idle (LoRaWanStateStore.own_none rfl) rfl
  | some answers => exact begin_inFlash answers reads (LoRaWanStateStore.own_none rfl) keeps

theorem exchange_inFlash (answers : SendAnswers noncesSize sessionSize)
    (reads : answers.save.getIdentity = true) (same : SameState classC r.node answers.node)
    (own : r.stateStore.Own r.stateIdentity)
    (held : r.joined = true → r.persistenceHealthy = true →
      r.stateStore.Labelled r.stateIdentity ∧ r.stateStore.keys.nonces = some r.node.nonces.val ∧
        classC r.node.session.val = r.config.classC) :
    InFlash classC (r.exchange answers).1 := by
  have persisted : InFlash classC
      ({ r with node := answers.node }.persistSession answers.save).1 := by
    refine persistSession_inFlash reads own fun joined healthy => ?_
    obtain ⟨labelled, nonces, inClass⟩ := held joined healthy
    exact ⟨labelled, by rw [nonces, same.1], same.2.trans inClass⟩
  unfold exchange
  dsimp only
  split
  · exact ⟨persisted.own, fun joined healthy =>
      have held := persisted.held joined healthy
      ⟨held.labelled, held.nonces, held.session, held.inClass⟩⟩
  · exact persisted

theorem InFlash.kept (inFlash : InFlash classC r) (joined : r.joined = true)
    (healthy : r.persistenceHealthy = true) :
    r.stateStore.Labelled r.stateIdentity ∧ r.stateStore.keys.nonces = some r.node.nonces.val ∧
      classC r.node.session.val = r.config.classC :=
  have held := inFlash.held joined healthy
  ⟨held.labelled, held.nonces, held.inClass⟩

theorem send_inFlash (envelope : TransportEnvelope) (answers : SendAnswers noncesSize sessionSize)
    (reads : answers.save.getIdentity = true) (same : SameState classC r.node answers.node)
    (inFlash : InFlash classC r) : InFlash classC (send afterwards envelope answers r).1 := by
  have exchanged := exchange_inFlash answers reads same inFlash.own inFlash.kept
  unfold send
  split
  · exact inFlash
  · generalize r.exchange answers = result at exchanged ⊢
    obtain ⟨after, saved⟩ := result
    cases saved with
    | false => exact exchanged
    | true =>
      cases answers.state with
      | done =>
        dsimp only
        rw [dispatch_afterwards]
        exact exchanged
      | failed => exact exchanged
      | sessionLost =>
        have cleared :
            (after.stateStore.clearSession after.stateIdentity answers.clear).1.Own
              after.stateIdentity :=
          LoRaWanStateStore.clearSession_own exchanged.own
        dsimp only at cleared ⊢
        unfold clearStored
        dsimp only
        generalize after.stateStore.clearSession after.stateIdentity answers.clear = result
          at cleared ⊢
        obtain ⟨store, done⟩ := result
        cases done <;> exact .idle cleared rfl

theorem performNetworkTimeSync_inFlash (answers : TimeSyncAnswers noncesSize sessionSize)
    (reads : answers.exchange.save.getIdentity = true)
    (keeps : Keeps classC r (.timeSync answers)) (inFlash : InFlash classC r) :
    InFlash classC (performNetworkTimeSync afterwards answers r) := by
  obtain ⟨requested, refused, same⟩ := keeps
  unfold performNetworkTimeSync
  dsimp only
  cases done : answers.request.done with
  | false =>
    rw [refused done]
    exact inFlash
  | true =>
    rw [Bool.not_true, if_neg Bool.false_ne_true]
    have exchanged : InFlash classC
        (exchange answers.exchange { r with node := answers.request.node }).1 := by
      refine exchange_inFlash answers.exchange reads same inFlash.own fun joined healthy => ?_
      obtain ⟨labelled, nonces, inClass⟩ := inFlash.kept joined healthy
      exact ⟨labelled, by rw [nonces, requested.1], requested.2.trans inClass⟩
    generalize exchange answers.exchange { r with node := answers.request.node } = result
      at exchanged ⊢
    obtain ⟨after, saved⟩ := result
    cases saved with
    | false => exact exchanged
    | true =>
      dsimp only
      rw [dispatch_afterwards, ite_self]
      exact exchanged

theorem pollClassCDownlink_inFlash (answers : ClassCAnswers noncesSize sessionSize)
    (reads : answers.save.getIdentity = true) (keeps : Keeps classC r (.classC answers))
    (inFlash : InFlash classC r) : InFlash classC (pollClassCDownlink afterwards answers r) := by
  obtain ⟨same, nothing⟩ := keeps
  unfold pollClassCDownlink
  dsimp only
  cases received : answers.received with
  | false =>
    rw [nothing received]
    exact inFlash
  | true =>
    rw [Bool.not_true, if_neg Bool.false_ne_true]
    have persisted : InFlash classC
        (persistSession answers.save { r with node := answers.node }).1 := by
      refine persistSession_inFlash reads inFlash.own fun joined healthy => ?_
      obtain ⟨labelled, nonces, inClass⟩ := inFlash.kept joined healthy
      exact ⟨labelled, by rw [nonces, same.1], same.2.trans inClass⟩
    generalize persistSession answers.save { r with node := answers.node } = result
      at persisted ⊢
    obtain ⟨after, saved⟩ := result
    cases saved with
    | false => exact persisted
    | true =>
      dsimp only
      rw [dispatch_afterwards]
      exact persisted

theorem rejoin_inFlash (answers : RejoinAnswers noncesSize sessionSize)
    (inFlash : InFlash classC r) : InFlash classC (r.rejoin answers).1 := by
  have cleared :
      (r.stateStore.clearSession r.stateIdentity answers.clear).1.Own r.stateIdentity :=
    LoRaWanStateStore.clearSession_own inFlash.own
  unfold rejoin clearStored
  dsimp only
  generalize r.stateStore.clearSession r.stateIdentity answers.clear = result at cleared ⊢
  obtain ⟨store, done⟩ := result
  cases done <;> exact .idle cleared rfl

theorem InFlash.flags (inFlash : InFlash classC r) (rejoin timeSync : Bool) :
    InFlash classC { r with rejoinRequested := rejoin, networkTimeSyncRequested := timeSync } :=
  ⟨inFlash.own, fun joined healthy =>
    have held := inFlash.held joined healthy
    ⟨held.labelled, held.nonces, held.session, held.inClass⟩⟩

theorem step_inFlash (r : LoRaWanRadio noncesSize sessionSize)
    (event : Event noncesSize sessionSize) (inFlash : InFlash classC r)
    (reads : event.Reads) (keeps : Keeps classC r event) : InFlash classC (r.step event) := by
  cases event with
  | boot config devEui begins node => exact boot_inFlash config devEui begins node reads keeps
  | rejoin answers =>
    unfold step
    dsimp only
    split
    · exact rejoin_inFlash answers inFlash
    · exact inFlash
  | timeSync answers =>
    unfold step
    dsimp only
    split
    · exact performNetworkTimeSync_inFlash answers reads keeps (inFlash.flags _ false)
    · exact inFlash
  | classC answers =>
    unfold step
    dsimp only
    split
    · exact pollClassCDownlink_inFlash answers reads keeps inFlash
    · exact inFlash
  | join nowMs answers =>
    unfold step
    dsimp only
    split
    · exact tryJoin_inFlash answers reads keeps inFlash
    · exact inFlash
  | request request =>
    cases request with
    | send envelope answers => exact send_inFlash envelope answers reads keeps inFlash
    | requestRejoin =>
      unfold step serve requestRejoin
      dsimp only
      split
      · exact inFlash
      · exact inFlash.flags true _
    | requestNetworkTimeSync =>
      unfold step serve requestNetworkTimeSync
      dsimp only
      split
      · exact inFlash
      · exact inFlash.flags _ true

/-- Whenever the radio has joined and nothing has failed to be saved, a load after a reset would
find the nonces and the session of its node as they are, the session in the class that is
configured; that holds in every order of boots under any credentials, passes of the loop and
calls, and whatever fails to be written, if the label of the state can always be read. -/
theorem joined_restorable (classC : Bytes → Bool) (keys : StateKeys)
    (node : Node noncesSize sessionSize) (events : List (Event noncesSize sessionSize))
    (reads : ∀ event ∈ events, event.Reads)
    (keeps : Always step (Keeps classC) { node := node, stateStore := { keys := keys } } events)
    (r : LoRaWanRadio noncesSize sessionSize)
    (reached : r = run step { node := node, stateStore := { keys := keys } } events)
    (joined : r.joined = true) (healthy : r.persistenceHealthy = true) :
    (LoRaWanStateStore.load r.stateIdentity {}
        { keys := r.stateStore.keys, isOpen := true }).2 =
      (true, ⟨some r.node.nonces, some r.node.session⟩) ∧
      classC r.node.session.val = r.config.classC := by
  have start : InFlash classC ({ node := node, stateStore := { keys := keys } } :
      LoRaWanRadio noncesSize sessionSize) := .idle (LoRaWanStateStore.own_none rfl) rfl
  have inFlash := invariant_run step (InFlash classC)
    (fun r event => Event.Reads event ∧ Keeps classC r event)
    (fun r event inFlash holds => step_inFlash r event inFlash holds.1 holds.2) _ events start
    ((always_of_forall step Event.Reads _ events reads).and step keeps)
  rw [← reached] at inFlash
  obtain ⟨labelled, nonces, session, inClass⟩ := inFlash.held joined healthy
  refine ⟨?_, inClass⟩
  unfold LoRaWanStateStore.load
  rw [LoRaWanStateStore.storedIdentity_read rfl]
  have same : (r.stateStore.keys.identity.getD 0 != r.stateIdentity) = false :=
    bne_eq_false_iff_eq.mpr labelled
  simp only [same, nonces, session]
  rw [StateHistory.readBuffer_stored, StateHistory.readBuffer_stored]
  rfl

/-- After a join and an uplink whose save went well. -/
theorem joined_restorable_uplink :
    let r := run step { node := smallNode 0 0 0, stateStore := { keys := {} } }
      (interruptedUplinks.take 2)
    (LoRaWanStateStore.load r.stateIdentity {}
        { keys := r.stateStore.keys, isOpen := true }).2 =
      (true, ⟨some r.node.nonces, some r.node.session⟩) ∧
      (byteAt r.node.session.val 0 == 7) = r.config.classC :=
  joined_restorable (fun session => byteAt session 0 == 7) {} (smallNode 0 0 0)
    (interruptedUplinks.take 2)
    (List.forall_mem_cons.mpr ⟨⟨rfl, rfl, rfl, rfl⟩, List.forall_mem_singleton.mpr rfl⟩)
    (by unfold Always; decide +kernel) _ rfl (by decide +kernel) (by decide +kernel)

end LoRaWanRadio
end Lorawan
