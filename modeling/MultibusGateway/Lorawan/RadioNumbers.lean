import MultibusGateway.Library.Numbering
import MultibusGateway.Lorawan.Radio

/-! Frame counters of uplinks. A session holds its keys and the counter of the next uplink under
them; the radio keeps the books over the counter in the node and the one in flash. -/

namespace Lorawan
open ByteString Config Execution Numbering

/-! The flash keeps its session, or the one that is given to it, or none. -/

namespace LoRaWanStateStore
variable {noncesSize sessionSize : ℕ}

def Cached (s : LoRaWanStateStore noncesSize sessionSize) : Prop :=
  ∀ session, s.lastSession = some session → s.keys.session = some session.val

structure Keeps (s after : LoRaWanStateStore noncesSize sessionSize) : Prop where
  cached : Cached after
  session : after.keys.session = none ∨ after.keys.session = s.keys.session

theorem Keeps.refl {s : LoRaWanStateStore noncesSize sessionSize} (cached : s.Cached) :
    s.Keeps s := ⟨cached, .inr rfl⟩

theorem cached_none {s : LoRaWanStateStore noncesSize sessionSize} (gone : s.lastSession = none) :
    s.Cached := by
  intro session kept
  rw [gone] at kept
  cases kept

theorem ensureIdentity_keeps (identity : UInt32) (calls : StateCalls)
    {s : LoRaWanStateStore noncesSize sessionSize} (cached : s.Cached) :
    s.Keeps (s.ensureIdentity identity calls).1 := by
  unfold ensureIdentity
  split
  · exact .refl cached
  · refine ⟨cached_none rfl, ?_⟩
    dsimp only
    cases calls.removeSession with
    | false => exact .inr rfl
    | true => exact .inl rfl

theorem saveNonces_keeps (identity : UInt32) (nonces : Option (Buffer noncesSize))
    (calls : StateCalls) {s : LoRaWanStateStore noncesSize sessionSize} (cached : s.Cached) :
    s.Keeps (s.saveNonces identity nonces calls).1 := by
  have ensured := ensureIdentity_keeps identity calls cached
  unfold saveNonces
  split
  · generalize s.ensureIdentity identity calls = result at ensured ⊢
    cases result with
    | mk store done =>
      cases done with
      | false => exact ensured
      | true =>
        dsimp only
        split
        · exact ⟨ensured.cached, ensured.session⟩
        · exact ensured
  · exact .refl cached

def Saves (s : LoRaWanStateStore noncesSize sessionSize) (session : Buffer sessionSize)
    (result : LoRaWanStateStore noncesSize sessionSize × Bool) : Prop :=
  if result.2 then result.1.Cached ∧ result.1.keys.session = some session.val
  else s.Keeps result.1

theorem saveSession_saves (identity : UInt32) (session : Buffer sessionSize)
    (calls : StateCalls) {s : LoRaWanStateStore noncesSize sessionSize} (cached : s.Cached) :
    s.Saves session (s.saveSessionIfChanged identity (some session) calls) := by
  have ensured := ensureIdentity_keeps identity calls cached
  unfold saveSessionIfChanged
  cases s.isOpen with
  | false => exact Keeps.refl cached
  | true =>
    dsimp only
    split
    case isTrue same => exact ⟨cached, cached session same⟩
    case isFalse =>
      generalize s.ensureIdentity identity calls = result at ensured ⊢
      cases result with
      | mk store done =>
        cases done with
        | false => exact ensured
        | true =>
          dsimp only
          cases calls.putSession with
          | false => exact ensured
          | true =>
            refine ⟨fun other kept => ?_, rfl⟩
            cases kept
            rfl

theorem clearSession_keeps (identity : UInt32) (calls : StateCalls)
    {s : LoRaWanStateStore noncesSize sessionSize} (cached : s.Cached) :
    s.Keeps (s.clearSession identity calls).1 := by
  unfold clearSession
  split
  · exact .refl cached
  · split
    · exact ⟨cached_none rfl, .inr rfl⟩
    · split
      · split
        · exact ⟨cached_none rfl, .inl rfl⟩
        · exact .refl cached
      · exact ⟨cached_none rfl, .inr rfl⟩

theorem load_keeps (identity : UInt32) (calls : StateCalls)
    {s : LoRaWanStateStore noncesSize sessionSize} (cached : s.Cached) :
    s.Keeps (s.load identity calls).1 := by
  unfold load
  split
  · exact .refl cached
  · split
    · exact .refl cached
    · exact ⟨fun session read => StateHistory.readBuffer_eq_some read, .inr rfl⟩

theorem begin_keeps (opens : Bool) {s : LoRaWanStateStore noncesSize sessionSize}
    (cached : s.Cached) : s.Keeps (s.begin opens) := by
  unfold begin
  split
  · exact .refl cached
  · exact ⟨cached, .inr rfl⟩

theorem begin_keys (opens : Bool) (s : LoRaWanStateStore noncesSize sessionSize) :
    (s.begin opens).keys = s.keys := by
  unfold begin
  split <;> rfl

theorem load_keys (identity : UInt32) (calls : StateCalls)
    (s : LoRaWanStateStore noncesSize sessionSize) : (s.load identity calls).1.keys = s.keys := by
  unfold load
  split
  · rfl
  · split <;> rfl

/-- What a load gives is in flash. -/
theorem load_buffers (identity : UInt32) (calls : StateCalls)
    (s : LoRaWanStateStore noncesSize sessionSize) :
    (∀ nonces ∈ (s.load identity calls).2.2.nonces, nonces ∈ s.keys.noncesBuffer noncesSize) ∧
      ∀ session ∈ (s.load identity calls).2.2.session,
        session ∈ s.keys.sessionBuffer sessionSize := by
  have stored (size : ℕ) (bytes : Option Bytes) (length get : Bool) (buffer : Buffer size)
      (read : readBuffer size bytes length get = some buffer) :
      readBuffer size bytes true true = some buffer := by
    rw [StateHistory.readBuffer_eq_some read]
    exact StateHistory.readBuffer_stored buffer
  unfold load
  split
  · exact ⟨fun _ found => (by cases found), fun _ found => (by cases found)⟩
  · split
    · exact ⟨fun _ found => (by cases found), fun _ found => (by cases found)⟩
    · exact ⟨fun _ => stored _ _ _ _ _, fun _ => stored _ _ _ _ _⟩

end LoRaWanStateStore

namespace LoRaWanRadio
variable {noncesSize sessionSize : ℕ} {κ : Type*} (usage : Bytes → Next κ)

/-- The uplinks under their session keys, with their frame counters. -/
def uplinks (log : List (Transmitted noncesSize sessionSize)) : List (Use κ) :=
  log.filterMap fun
    | .uplink session saved => (usage session.val).map fun next => ⟨next.1, next.2, saved⟩
    | _ => none

def book (r : LoRaWanRadio noncesSize sessionSize) : Book κ where
  live := usage r.node.session.val
  stored := r.stateStore.keys.session.bind usage
  uses := uplinks usage r.log

/-! What the radio library documents of its calls. -/

def ActivationDocumented (log : List (Transmitted noncesSize sessionSize)) (held : Next κ) :
    Next κ → Prop
  | none => True
  | some next => Continues held (some next) ∨ Fresh next.1 (uplinks usage log)

def JoinDocumented (answers : JoinAnswers noncesSize sessionSize)
    (log : List (Transmitted noncesSize sessionSize)) (held : Next κ) : Prop :=
  ActivationDocumented usage log held (usage answers.activated.node.session.val) ∧
    Continues (usage answers.activated.node.session.val)
      (usage answers.setClass.node.session.val)

def SendDocumented (answers : SendAnswers noncesSize sessionSize) (held : Next κ) : Prop :=
  (if answers.transmitted then Advances held (usage answers.node.session.val)
    else Continues held (usage answers.node.session.val)) ∧
    usage answers.cleared.session.val = none

def SessionDocumented (answers : BeginAnswers noncesSize sessionSize)
    (log : List (Transmitted noncesSize sessionSize)) (session : Buffer sessionSize) : Prop :=
  Continues (usage session.val) (usage (answers.setSession session).node.session.val) ∧
    ActivationDocumented usage log (usage (answers.setSession session).node.session.val)
      (usage answers.activated.node.session.val)

def BeginDocumented (answers : BeginAnswers noncesSize sessionSize)
    (log : List (Transmitted noncesSize sessionSize)) (keys : StateKeys) : Prop :=
  usage answers.node.session.val = none ∧
    (∀ nonces ∈ keys.noncesBuffer noncesSize,
      usage (answers.setNonces nonces).node.session.val = none) ∧
    (∀ session ∈ keys.sessionBuffer sessionSize, SessionDocumented usage answers log session) ∧
    Continues (usage answers.activated.node.session.val)
      (usage answers.setClass.node.session.val) ∧
    usage answers.cleared.session.val = none ∧
    JoinDocumented usage answers.join log none

def Documented (r : LoRaWanRadio noncesSize sessionSize) :
    Event noncesSize sessionSize → Prop
  | .boot _ _ none node => usage node.session.val = none
  | .boot _ _ (some answers) node =>
    usage node.session.val = none ∧
      BeginDocumented usage answers r.log r.stateStore.keys
  | .rejoin answers => usage answers.cleared.session.val = none
  | .timeSync answers =>
    Continues (usage r.node.session.val) (usage answers.request.node.session.val) ∧
      SendDocumented usage answers.exchange (usage answers.request.node.session.val)
  | .classC answers => Continues (usage r.node.session.val) (usage answers.node.session.val)
  | .join _ answers => JoinDocumented usage answers r.log (usage r.node.session.val)
  | .request (.send _ answers) => SendDocumented usage answers (usage r.node.session.val)
  | .request _ => True

section
variable [DecidableEq κ] (log : List (Transmitted noncesSize sessionSize)) (held : Next κ)

instance : (next : Next κ) → Decidable (ActivationDocumented usage log held next)
  | none => inferInstanceAs (Decidable True)
  | some _ => inferInstanceAs (Decidable (_ ∨ _))

instance (answers : JoinAnswers noncesSize sessionSize) :
    Decidable (JoinDocumented usage answers log held) := inferInstanceAs (Decidable (_ ∧ _))

instance (answers : SendAnswers noncesSize sessionSize) :
    Decidable (SendDocumented usage answers held) :=
  inferInstanceAs (Decidable ((if answers.transmitted then Advances held _
    else Continues held _) ∧ _ = none))

instance (answers : BeginAnswers noncesSize sessionSize) (session : Buffer sessionSize) :
    Decidable (SessionDocumented usage answers log session) :=
  inferInstanceAs (Decidable (_ ∧ _))

instance (answers : BeginAnswers noncesSize sessionSize) (keys : StateKeys) :
    Decidable (BeginDocumented usage answers log keys) :=
  inferInstanceAs (Decidable (_ ∧ (∀ nonces ∈ _, _) ∧
    (∀ session ∈ _, SessionDocumented usage answers log session) ∧ _ ∧ _ ∧ _))

instance (r : LoRaWanRadio noncesSize sessionSize) : DecidablePred (Documented usage r)
  | .boot _ _ none _ | .rejoin _ => inferInstanceAs (Decidable (usage _ = none))
  | .boot _ _ (some _) _ =>
    inferInstanceAs (Decidable (usage _ = none ∧ BeginDocumented usage _ _ _))
  | .timeSync _ => inferInstanceAs (Decidable (Continues _ _ ∧ SendDocumented usage _ _))
  | .classC _ => inferInstanceAs (Decidable (Continues _ _))
  | .join _ _ => inferInstanceAs (Decidable (JoinDocumented usage _ _ _))
  | .request (.send _ _) => inferInstanceAs (Decidable (SendDocumented usage _ _))
  | .request .requestRejoin | .request .requestNetworkTimeSync => inferInstanceAs (Decidable True)

end

/-! Every call is a number of steps of the books. -/

def Follows (r after : LoRaWanRadio noncesSize sessionSize) : Prop :=
  r.stateStore.Cached → after.stateStore.Cached ∧
    Relation.ReflTransGen Numbering.Step (book usage r) (book usage after)

variable {usage}

theorem Follows.refl (r : LoRaWanRadio noncesSize sessionSize) : Follows usage r r :=
  fun cached => ⟨cached, .refl⟩

theorem Follows.trans {r middle after : LoRaWanRadio noncesSize sessionSize}
    (first : Follows usage r middle) (second : Follows usage middle after) :
    Follows usage r after := by
  intro cached
  have ⟨cached, former⟩ := first cached
  have ⟨cached, latter⟩ := second cached
  exact ⟨cached, former.trans latter⟩

theorem Follows.of_eq {r after : LoRaWanRadio noncesSize sessionSize}
    (same : book usage after = book usage r) (store : after.stateStore = r.stateStore) :
    Follows usage r after := by
  intro cached
  rw [same, store]
  exact ⟨cached, .refl⟩

theorem Follows.of_fields {r after : LoRaWanRadio noncesSize sessionSize}
    (node : after.node = r.node) (store : after.stateStore = r.stateStore)
    (log : after.log = r.log) : Follows usage r after := by
  refine .of_eq ?_ store
  unfold book
  rw [node, store, log]

theorem ActivationDocumented.origin {r : LoRaWanRadio noncesSize sessionSize} {next : Next κ}
    (documented : ActivationDocumented usage r.log (usage r.node.session.val) next) :
    Origin (book usage r) next := by
  cases next with
  | none => exact .none
  | some next =>
    obtain continues | fresh := documented
    · exact Continues.live continues
    · exact .fresh next.1 next.2 fresh

theorem follows_node {r after : LoRaWanRadio noncesSize sessionSize}
    (origin : Origin (book usage r) (usage after.node.session.val))
    (store : after.stateStore = r.stateStore) (log : after.log = r.log) :
    Follows usage r after := by
  intro cached
  refine ⟨by rw [store]; exact cached, .single ?_⟩
  change Numbering.Step (book usage r) ⟨usage after.node.session.val,
    after.stateStore.keys.session.bind usage, uplinks usage after.log⟩
  rw [store, log]
  exact Numbering.Step.move (book usage r) _ _ origin (Origin.self_stored (book usage r))

theorem follows_store {r after : LoRaWanRadio noncesSize sessionSize}
    (keeps : r.stateStore.Cached → r.stateStore.Keeps after.stateStore)
    (node : after.node = r.node) (log : after.log = r.log) : Follows usage r after := by
  intro cached
  have ⟨cached, session⟩ := keeps cached
  refine ⟨cached, .single ?_⟩
  change Numbering.Step (book usage r) ⟨usage after.node.session.val,
    after.stateStore.keys.session.bind usage, uplinks usage after.log⟩
  rw [node, log]
  refine Numbering.Step.move (book usage r) _ _ (Origin.self_live _) ?_
  obtain gone | same := session
  · rw [gone]
    exact .none
  · rw [same]
    exact Origin.self_stored (book usage r)

theorem follows_save {r after : LoRaWanRadio noncesSize sessionSize}
    {result : LoRaWanStateStore noncesSize sessionSize × Bool}
    (saves : r.stateStore.Cached → r.stateStore.Saves r.node.session result)
    (store : after.stateStore = result.1) (node : after.node = r.node) (log : after.log = r.log) :
    Follows usage r after := by
  unfold LoRaWanStateStore.Saves at saves
  cases saved : result.2 with
  | false =>
    rw [saved, ← store] at saves
    exact follows_store saves node log
  | true =>
    rw [saved, ← store] at saves
    intro cached
    have ⟨cached, session⟩ := saves cached
    refine ⟨cached, .single ?_⟩
    change Numbering.Step (book usage r) ⟨usage after.node.session.val,
      after.stateStore.keys.session.bind usage, uplinks usage after.log⟩
    rw [node, log, session]
    exact Numbering.Step.move (book usage r) _ _ (Origin.self_live _) (Origin.self_live _)

theorem persistSession_follows (calls : StateCalls) (r : LoRaWanRadio noncesSize sessionSize) :
    Follows usage r (r.persistSession calls).1 :=
  follows_save (LoRaWanStateStore.saveSession_saves r.stateIdentity r.node.session calls)
    rfl rfl rfl

theorem persistJoinState_follows (nonces session : StateCalls)
    (r : LoRaWanRadio noncesSize sessionSize) :
    Follows usage r (r.persistJoinState nonces session).1 := by
  have first : Follows usage r
      { r with
        stateStore :=
          (r.stateStore.saveNonces r.stateIdentity (some r.node.nonces) nonces).1 } :=
    follows_store (LoRaWanStateStore.saveNonces_keeps r.stateIdentity _ nonces) rfl rfl
  unfold persistJoinState
  dsimp only
  split
  · exact first
  · split
    · exact first.trans
        (follows_save (LoRaWanStateStore.saveSession_saves _ r.node.session session) rfl rfl rfl)
    · exact first

theorem clearStored_follows (calls : StateCalls) (r : LoRaWanRadio noncesSize sessionSize) :
    Follows usage r (r.clearStored calls).1 :=
  follows_store (LoRaWanStateStore.clearSession_keeps r.stateIdentity calls) rfl rfl

theorem book_joinRequest (r : LoRaWanRadio noncesSize sessionSize) (nonces : Buffer noncesSize)
    (saved : Bool) :
    book usage { r with log := r.log ++ [.joinRequest nonces saved] } = book usage r := by
  simp [book, uplinks]

theorem activate_follows (answers : JoinAnswers noncesSize sessionSize)
    (r : LoRaWanRadio noncesSize sessionSize)
    (documented : JoinDocumented usage answers r.log (usage r.node.session.val)) :
    Follows usage r (r.activate answers) := by
  unfold activate applyConfiguredClass
  have first : Follows usage r
      { r with
        node := answers.activated.node
        joined := answers.activated.state ≠ Activation.failed } :=
    follows_node documented.1.origin rfl rfl
  cases answers.activated.state with
  | failed => exact first
  | newSession | sessionRestored =>
    refine first.trans ?_
    cases answers.setClass.done <;> exact follows_node (Continues.live documented.2) rfl rfl

theorem tryJoin_follows (answers : JoinAnswers noncesSize sessionSize)
    (r : LoRaWanRadio noncesSize sessionSize)
    (documented : JoinDocumented usage answers r.log (usage r.node.session.val)) :
    Follows usage r (r.tryJoin answers).1 := by
  unfold tryJoin
  split
  · exact .refl r
  · refine (activate_follows answers r documented).trans ?_
    have saved : Follows usage (r.activate answers)
        ((r.activate answers).persistJoinState answers.saveNonces answers.saveSession).1 :=
      persistJoinState_follows _ _ _
    generalize (r.activate answers).persistJoinState answers.saveNonces
      answers.saveSession = result at saved ⊢
    cases result with
    | mk persisted done =>
      have logged : Follows usage persisted
          (if answers.activated.requested then
            { persisted with log := persisted.log ++ [.joinRequest r.node.nonces done] }
          else persisted) := by
        split
        · exact .of_eq (book_joinRequest persisted r.node.nonces done) rfl
        · exact .refl persisted
      refine saved.trans (logged.trans ?_)
      dsimp only
      generalize (if answers.activated.requested then
        { persisted with log := persisted.log ++ [.joinRequest r.node.nonces done] }
        else persisted) = after
      cases done with
      | false => exact .of_fields rfl rfl rfl
      | true => cases after.joined <;> exact .of_fields rfl rfl rfl

theorem beginJoin_follows (answers : BeginAnswers noncesSize sessionSize)
    {r : LoRaWanRadio noncesSize sessionSize} (empty : usage r.node.session.val = none)
    (documented : JoinDocumented usage answers.join r.log none) :
    Follows usage r (r.beginJoin answers).1 := by
  have healthy : Follows usage r { r with persistenceHealthy := true } := .of_fields rfl rfl rfl
  exact healthy.trans (tryJoin_follows answers.join _ (by rw [empty]; exact documented))

theorem beginSession_follows (answers : BeginAnswers noncesSize sessionSize)
    (session : Buffer sessionSize) (r : LoRaWanRadio noncesSize sessionSize)
    (present : session ∈ r.stateStore.keys.sessionBuffer sessionSize)
    (documented : BeginDocumented usage answers r.log r.stateStore.keys) :
    Follows usage r (r.beginSession answers session).1 := by
  obtain ⟨_, _, sessions, classSet, cleared, join⟩ := documented
  obtain ⟨set, activated⟩ := sessions session present
  have held : r.stateStore.keys.session.bind usage = usage session.val := by
    rw [StateHistory.readBuffer_eq_some present]
    rfl
  rw [← held] at set
  have first : Follows usage r { r with node := (answers.setSession session).node } :=
    follows_node (Continues.stored set) rfl rfl
  refine first.trans ?_
  unfold beginSession
  cases (answers.setSession session).done with
  | true =>
    rw [if_pos rfl]
    have second : Follows usage { r with node := (answers.setSession session).node }
        { r with node := answers.activated.node } :=
      follows_node (ActivationDocumented.origin activated) rfl rfl
    refine second.trans ?_
    dsimp only
    split
    · have third : Follows usage { r with node := answers.activated.node }
          { r with node := answers.setClass.node } :=
        follows_node (Continues.live classSet) rfl rfl
      refine third.trans ?_
      unfold applyConfiguredClass
      cases answers.setClass.done with
      | false => exact .of_fields rfl rfl rfl
      | true =>
        have flags : Follows usage { r with node := answers.setClass.node }
            { r with
              node := answers.setClass.node
              joined := true
              persistenceHealthy := true } := .of_fields rfl rfl rfl
        exact flags.trans (persistSession_follows answers.save _)
    · split
      · exact .of_eq (book_joinRequest { r with node := answers.activated.node }
          (answers.setSession session).node.nonces false) rfl
      · exact .refl _
  | false =>
    rw [if_neg Bool.false_ne_true]
    let set : LoRaWanRadio noncesSize sessionSize :=
      { r with node := (answers.setSession session).node }
    have second : Follows usage set (set.clearStored answers.clear).1 := clearStored_follows _ _
    have kept : (set.clearStored answers.clear).1.log = r.log := rfl
    generalize set.clearStored answers.clear = result at second kept ⊢
    refine second.trans ?_
    cases result with
    | mk left done =>
      cases done with
      | false => exact .refl left
      | true =>
        have third : Follows usage left { left with node := answers.cleared } := by
          refine follows_node ?_ rfl rfl
          rw [cleared]
          exact .none
        refine third.trans (beginJoin_follows answers cleared ?_)
        rw [kept]
        exact join

theorem beginNode_follows (answers : BeginAnswers noncesSize sessionSize)
    (r : LoRaWanRadio noncesSize sessionSize) (empty : usage r.node.session.val = none)
    (documented : BeginDocumented usage answers r.log r.stateStore.keys) :
    Follows usage r (r.beginNode answers).1 := by
  have first : Follows usage r
      { r with stateStore := (r.stateStore.load r.stateIdentity answers.load).1 } :=
    follows_store (LoRaWanStateStore.load_keeps r.stateIdentity answers.load) rfl rfl
  have keys := LoRaWanStateStore.load_keys r.stateIdentity answers.load r.stateStore
  have buffers := LoRaWanStateStore.load_buffers r.stateIdentity answers.load r.stateStore
  unfold beginNode
  generalize r.stateStore.load r.stateIdentity answers.load = result at first keys buffers ⊢
  refine first.trans ?_
  obtain ⟨store, found, nonces, session⟩ := result
  cases found with
  | false => exact .refl _
  | true =>
    cases nonces with
    | none => exact beginJoin_follows answers empty documented.2.2.2.2.2
    | some nonces =>
      have unset := documented.2.1 nonces (buffers.1 nonces rfl)
      have second : Follows usage { r with stateStore := store }
          { r with stateStore := store, node := (answers.setNonces nonces).node } := by
        refine follows_node ?_ rfl rfl
        rw [unset]
        exact .none
      refine second.trans ?_
      dsimp only
      split
      · exact .refl _
      · cases session with
        | none => exact beginJoin_follows answers unset documented.2.2.2.2.2
        | some session =>
          refine beginSession_follows answers session _ ?_ ?_
          · dsimp only at keys ⊢
            rw [keys]
            exact buffers.2 session rfl
          · dsimp only at keys ⊢
            rw [keys]
            exact documented

theorem begin_follows (answers : BeginAnswers noncesSize sessionSize)
    (r : LoRaWanRadio noncesSize sessionSize)
    (documented : BeginDocumented usage answers r.log r.stateStore.keys) :
    Follows usage r (r.begin answers).1 := by
  have first : Follows usage r
      { r with
        joined := false
        radioReady := false
        persistenceHealthy := false
        stateStore := r.stateStore.begin answers.opens } :=
    follows_store (LoRaWanStateStore.begin_keeps answers.opens) rfl rfl
  unfold begin
  dsimp only
  split
  · exact .of_fields rfl rfl rfl
  · refine first.trans ?_
    split
    · exact .refl _
    · have second : Follows usage
          { r with
            joined := false
            radioReady := false
            persistenceHealthy := false
            stateStore := r.stateStore.begin answers.opens }
          { r with
            joined := false
            radioReady := true
            persistenceHealthy := false
            stateStore := r.stateStore.begin answers.opens
            node := answers.node } := by
        refine follows_node ?_ rfl rfl
        rw [documented.1]
        exact .none
      refine second.trans (beginNode_follows answers _ documented.1 ?_)
      rw [LoRaWanStateStore.begin_keys]
      exact documented

theorem boot_follows (config : LoRaWanConfig) (devEui : Bytes)
    (begins : Option (BeginAnswers noncesSize sessionSize)) (node : Node noncesSize sessionSize)
    (r : LoRaWanRadio noncesSize sessionSize)
    (documented : Documented usage r (.boot config devEui begins node)) :
    Follows usage r (r.boot config devEui begins node) := by
  have empty : usage node.session.val = none := by
    cases begins with
    | none => exact documented
    | some answers => exact documented.1
  have same : uplinks usage (r.log ++ [.boot]) = uplinks usage r.log := by simp [uplinks]
  have first : Follows usage r
      (configure config devEui
        { node := node
          stateStore := { keys := r.stateStore.keys }
          log := r.log ++ [.boot] }) := by
    intro _
    refine ⟨LoRaWanStateStore.cached_none rfl, .single ?_⟩
    change Numbering.Step (book usage r) ⟨usage node.session.val,
      r.stateStore.keys.session.bind usage, uplinks usage (r.log ++ [.boot])⟩
    rw [same, empty]
    exact Numbering.Step.move (book usage r) _ _ .none (Origin.self_stored _)
  refine first.trans ?_
  unfold boot
  cases begins with
  | none => exact .refl _
  | some answers =>
    refine begin_follows answers _ ?_
    have begun := documented.2
    unfold BeginDocumented SessionDocumented JoinDocumented ActivationDocumented at begun ⊢
    rw [← same] at begun
    exact begun

theorem uplinks_append (r : LoRaWanRadio noncesSize sessionSize) (session : Buffer sessionSize)
    (saved : Bool) (key : κ) (number : ℕ) (held : usage session.val = some (key, number)) :
    uplinks usage (r.log ++ [.uplink session saved]) =
      uplinks usage r.log ++ [⟨key, number, saved⟩] := by
  simp [uplinks, held]

/-- An uplink uses the counter of its session; if it is saved, the flash has gone past it. -/
theorem exchange_follows (answers : SendAnswers noncesSize sessionSize)
    (r : LoRaWanRadio noncesSize sessionSize)
    (documented : SendDocumented usage answers (usage r.node.session.val)) :
    Follows usage r (r.exchange answers).1 := by
  unfold exchange
  cases transmitted : answers.transmitted with
  | false =>
    have continues := documented.1
    rw [transmitted] at continues
    have first : Follows usage r { r with node := answers.node } :=
      follows_node (Continues.live continues) rfl rfl
    exact first.trans (persistSession_follows answers.save _)
  | true =>
    have advances := documented.1
    rw [transmitted] at advances
    intro cached
    have saves := LoRaWanStateStore.saveSession_saves r.stateIdentity answers.node.session
      answers.save cached
    unfold persistSession
    dsimp only
    generalize r.stateStore.saveSessionIfChanged r.stateIdentity (some answers.node.session)
      answers.save = result at saves ⊢
    obtain ⟨store, saved⟩ := result
    have kept : store.Cached ∧ (store.keys.session.bind usage = none ∨
        store.keys.session.bind usage = usage answers.node.session.val ∨
        saved = false ∧ store.keys.session.bind usage = (book usage r).stored) := by
      cases saved with
      | true =>
        obtain ⟨cached, session⟩ := saves
        refine ⟨cached, .inr (.inl ?_)⟩
        dsimp only at session
        rw [session]
        rfl
      | false =>
        obtain ⟨cached, gone | same⟩ := saves
        · refine ⟨cached, .inl ?_⟩
          dsimp only at gone
          rw [gone]
          rfl
        · refine ⟨cached, .inr (.inr ⟨rfl, ?_⟩)⟩
          dsimp only at same
          rw [same]
          rfl
    refine ⟨kept.1, .single ?_⟩
    change Numbering.Step (book usage r) ⟨usage answers.node.session.val,
      store.keys.session.bind usage, uplinks usage (r.log ++ [.uplink r.node.session saved])⟩
    cases held : usage r.node.session.val with
    | none =>
      rw [held] at advances
      cases advances
    | some next =>
      rw [held] at advances
      rw [uplinks_append r r.node.session saved next.1 next.2 held]
      exact Numbering.Step.use (book usage r) next.1 next.2 saved _ _ held advances kept.2

theorem send_follows (envelope : TransportEnvelope) (answers : SendAnswers noncesSize sessionSize)
    (r : LoRaWanRadio noncesSize sessionSize)
    (documented : SendDocumented usage answers (usage r.node.session.val)) :
    Follows usage r (send afterwards envelope answers r).1 := by
  have exchanged := exchange_follows answers r documented
  unfold send
  split
  · exact .refl r
  · generalize r.exchange answers = result at exchanged ⊢
    refine exchanged.trans ?_
    cases result with
    | mk after saved =>
      cases saved with
      | false => exact .refl after
      | true =>
        cases answers.state with
        | done =>
          dsimp only
          rw [dispatch_afterwards]
          exact .refl after
        | failed => exact .refl after
        | sessionLost =>
          have lost : Follows usage after
              { after with joined := false, node := answers.cleared } := by
            refine follows_node ?_ rfl rfl
            rw [documented.2]
            exact .none
          have cleared : Follows usage { after with joined := false, node := answers.cleared }
              ({ after with joined := false, node := answers.cleared }.clearStored
                answers.clear).1 := clearStored_follows _ _
          refine lost.trans ?_
          dsimp only
          generalize { after with joined := false, node := answers.cleared }.clearStored
            answers.clear = result at cleared ⊢
          refine cleared.trans ?_
          cases result with
          | mk left done =>
            cases done with
            | false => exact .of_fields rfl rfl rfl
            | true => exact .of_fields rfl rfl rfl

theorem performNetworkTimeSync_follows (answers : TimeSyncAnswers noncesSize sessionSize)
    (r : LoRaWanRadio noncesSize sessionSize)
    (documented : Documented usage r (.timeSync answers)) :
    Follows usage r (performNetworkTimeSync afterwards answers r) := by
  have first : Follows usage r { r with node := answers.request.node } :=
    follows_node (Continues.live documented.1) rfl rfl
  have exchanged : Follows usage { r with node := answers.request.node }
      (exchange answers.exchange { r with node := answers.request.node }).1 :=
    exchange_follows _ _ documented.2
  refine first.trans ?_
  unfold performNetworkTimeSync
  dsimp only
  split
  · exact .refl _
  · generalize exchange answers.exchange { r with node := answers.request.node } = result
      at exchanged ⊢
    refine exchanged.trans ?_
    cases result with
    | mk after saved =>
      cases saved with
      | false => exact .refl after
      | true =>
        dsimp only
        rw [dispatch_afterwards, ite_self]
        exact .refl after

theorem pollClassCDownlink_follows (answers : ClassCAnswers noncesSize sessionSize)
    (r : LoRaWanRadio noncesSize sessionSize)
    (documented : Documented usage r (.classC answers)) :
    Follows usage r (pollClassCDownlink afterwards answers r) := by
  have first : Follows usage r { r with node := answers.node } :=
    follows_node (Continues.live documented) rfl rfl
  have persisted : Follows usage { r with node := answers.node }
      (persistSession answers.save { r with node := answers.node }).1 :=
    persistSession_follows _ _
  refine first.trans ?_
  unfold pollClassCDownlink
  dsimp only
  split
  · exact .refl _
  · generalize persistSession answers.save { r with node := answers.node } = result
      at persisted ⊢
    refine persisted.trans ?_
    cases result with
    | mk after saved =>
      cases saved with
      | false => exact .refl after
      | true =>
        dsimp only
        rw [dispatch_afterwards]
        exact .refl after

theorem rejoin_follows (answers : RejoinAnswers noncesSize sessionSize)
    (r : LoRaWanRadio noncesSize sessionSize)
    (documented : Documented usage r (.rejoin answers)) :
    Follows usage r (r.rejoin answers).1 := by
  have empty : usage answers.cleared.session.val = none := documented
  have first : Follows usage r
      { r with rejoinRequested := false, joined := false, node := answers.cleared } := by
    refine follows_node ?_ rfl rfl
    rw [empty]
    exact .none
  have cleared : Follows usage
      { r with rejoinRequested := false, joined := false, node := answers.cleared }
      (clearStored answers.clear
        { r with rejoinRequested := false, joined := false, node := answers.cleared }).1 :=
    clearStored_follows _ _
  refine first.trans ?_
  unfold rejoin
  dsimp only
  generalize clearStored answers.clear
    { r with rejoinRequested := false, joined := false, node := answers.cleared } = result
    at cleared ⊢
  refine cleared.trans ?_
  cases result with
  | mk left done => cases done <;> exact .of_fields rfl rfl rfl

theorem step_follows (r : LoRaWanRadio noncesSize sessionSize)
    (event : Event noncesSize sessionSize) (documented : Documented usage r event) :
    Follows usage r (r.step event) := by
  cases event with
  | boot config devEui begins node => exact boot_follows config devEui begins node r documented
  | rejoin answers =>
    unfold step
    dsimp only
    split
    · exact rejoin_follows answers r documented
    · exact .refl r
  | timeSync answers =>
    unfold step
    dsimp only
    split
    · have requested : Follows usage r { r with networkTimeSyncRequested := false } :=
        .of_fields rfl rfl rfl
      exact requested.trans (performNetworkTimeSync_follows answers _ documented)
    · exact .refl r
  | classC answers =>
    unfold step
    dsimp only
    split
    · exact pollClassCDownlink_follows answers r documented
    · exact .refl r
  | join nowMs answers =>
    unfold step
    dsimp only
    split
    · exact tryJoin_follows answers r documented
    · exact .refl r
  | request request =>
    cases request with
    | send envelope answers => exact send_follows envelope answers r documented
    | requestRejoin =>
      unfold step serve requestRejoin
      dsimp only
      split <;> exact .of_fields rfl rfl rfl
    | requestNetworkTimeSync =>
      unfold step serve requestNetworkTimeSync
      dsimp only
      split <;> exact .of_fields rfl rfl rfl

theorem run_follows (r : LoRaWanRadio noncesSize sessionSize)
    (events : List (Event noncesSize sessionSize))
    (documented : Always step (Documented usage) r events) :
    Follows usage r (run step r events) :=
  invariant_run step (Follows usage r) (Documented usage)
    (fun s event former documented => former.trans (step_follows s event documented)) r events
    (.refl r) documented

/-- In every order of boots, passes of the loop and calls, whatever the flash fails at: once the
state has been saved after an uplink, its frame counter is not used again under its session keys,
nor a lower one; that holds across resets and power losses too, as an uplink after which nothing
was saved counts as not saved. -/
theorem frameCounters_once (usage : Bytes → Next κ) (r : LoRaWanRadio noncesSize sessionSize)
    (events : List (Event noncesSize sessionSize)) (new : r.log = [])
    (cached : r.stateStore.Cached) (documented : Always step (Documented usage) r events) :
    Once (uplinks usage (run step r events).log) := by
  have steps := (run_follows r events documented cached).2
  rw [book, new] at steps
  exact (once_of_run _ _ steps).once

def smallUsage (session : Bytes) : Next UInt8 :=
  if byteAt session 0 = 0 then none else some (byteAt session 0, (byteAt session 1).toNat)

def smallNode (nonces key counter : UInt8) : Node 1 2 := ⟨⟨[nonces], rfl⟩, ⟨[key, counter], rfl⟩⟩

def smallBegin (nonces : UInt8) (session : Node 1 2) (restored : Bool) (join : Node 1 2) :
    BeginAnswers 1 2 where
  opens := true
  chip := true
  node := smallNode 0 0 0
  setNonces := fun buffer => ⟨true, ⟨buffer, ⟨[0, 0], rfl⟩⟩⟩
  setSession := fun buffer =>
    ⟨restored, ⟨session.nonces, if restored then buffer else session.session⟩⟩
  activated := ⟨if restored then .sessionRestored else .failed, false, session⟩
  setClass := ⟨true, session⟩
  cleared := smallNode nonces 0 0
  join := { activated := ⟨.newSession, true, join⟩, setClass := ⟨true, join⟩ }

def smallSend (counter : UInt8) (saved : Bool) : Request 1 2 :=
  .send ⟨85, some [1], false⟩
    { state := .done
      transmitted := true
      node := smallNode 1 7 counter
      save := { putSession := saved }
      cleared := smallNode 1 0 0 }

def smallConfig : LoRaWanConfig := { appKey := ascii "000102030405060708090A0B0C0D0E0F" }

def interruptedUplinks : List (Event 1 2) :=
  [.boot smallConfig (devEui 0)
      (some (smallBegin 0 (smallNode 0 0 0) false (smallNode 1 7 0))) (smallNode 0 0 0),
    .request (smallSend 1 true), .request (smallSend 2 false),
    .boot smallConfig (devEui 0)
      (some (smallBegin 1 (smallNode 1 7 1) true (smallNode 2 0 0))) (smallNode 0 0 0),
    .request (smallSend 2 true)]

theorem frameCounters_once_interrupted :
    let r : LoRaWanRadio 1 2 := { node := smallNode 0 0 0 }
    (uplinks smallUsage (run step r interruptedUplinks).log).map
        (fun u => (u.key, u.number, u.saved)) = [(7, 0, true), (7, 1, false), (7, 1, true)] ∧
      Once (uplinks smallUsage (run step r interruptedUplinks).log) :=
  ⟨by decide +kernel, frameCounters_once smallUsage _ interruptedUplinks rfl
    (LoRaWanStateStore.cached_none rfl) (by unfold Always; decide +kernel)⟩

end LoRaWanRadio
end Lorawan
