import MultibusGateway.Library.ByteString
import MultibusGateway.Library.Execution

/-! The LoRaWAN state that outlives a boot: nonces and a session in flash, under the fingerprint
of the credentials they belong to. Every call to the flash may fail, and then it changes nothing;
a power loss between two calls is one after which all the others fail. -/

namespace Lorawan
open ByteString Execution

abbrev Buffer (size : ℕ) := {bytes : Bytes // bytes.length = size}

structure StateKeys where
  identity : Option UInt32 := none
  nonces : Option Bytes := none
  session : Option Bytes := none

structure StateCalls where
  getIdentity : Bool := true
  lengthNonces : Bool := true
  getNonces : Bool := true
  lengthSession : Bool := true
  getSession : Bool := true
  isSession : Bool := true
  removeNonces : Bool := true
  removeSession : Bool := true
  putIdentity : Bool := true
  putNonces : Bool := true
  putSession : Bool := true

def readBuffer (size : ℕ) (stored : Option Bytes) (length get : Bool) : Option (Buffer size) :=
  match stored with
  | none => none
  | some bytes =>
    if sized : bytes.length = size then if length && get then some ⟨bytes, sized⟩ else none
    else none

def StateKeys.noncesBuffer (size : ℕ) (keys : StateKeys) : Option (Buffer size) :=
  readBuffer size keys.nonces true true

def StateKeys.sessionBuffer (size : ℕ) (keys : StateKeys) : Option (Buffer size) :=
  readBuffer size keys.session true true

structure LoadedState (noncesSize sessionSize : ℕ) where
  nonces : Option (Buffer noncesSize) := none
  session : Option (Buffer sessionSize) := none

/-- The store, with the session of the last load or save while it is valid. -/
structure LoRaWanStateStore (noncesSize sessionSize : ℕ) where
  keys : StateKeys := {}
  isOpen : Bool := false
  lastSession : Option (Buffer sessionSize) := none

namespace LoRaWanStateStore
variable {noncesSize sessionSize : ℕ}

def begin (opens : Bool) (s : LoRaWanStateStore noncesSize sessionSize) :
    LoRaWanStateStore noncesSize sessionSize :=
  if s.isOpen then s else { s with isOpen := opens }

def storedIdentity (calls : StateCalls) (s : LoRaWanStateStore noncesSize sessionSize) : UInt32 :=
  if calls.getIdentity then s.keys.identity.getD 0 else 0

def load (identity : UInt32) (calls : StateCalls) (s : LoRaWanStateStore noncesSize sessionSize) :
    LoRaWanStateStore noncesSize sessionSize × Bool × LoadedState noncesSize sessionSize :=
  if !s.isOpen then (s, false, {})
  else if s.storedIdentity calls != identity then (s, true, {})
  else
    let nonces := readBuffer noncesSize s.keys.nonces calls.lengthNonces calls.getNonces
    let session := readBuffer sessionSize s.keys.session calls.lengthSession calls.getSession
    ({ s with lastSession := session }, true, ⟨nonces, session⟩)

/-- The removals are not looked at: the new identity is put whatever they did. -/
def ensureIdentity (identity : UInt32) (calls : StateCalls)
    (s : LoRaWanStateStore noncesSize sessionSize) :
    LoRaWanStateStore noncesSize sessionSize × Bool :=
  if s.storedIdentity calls == identity then (s, true)
  else
    ({ s with
        keys :=
          { identity := if calls.putIdentity then some identity else s.keys.identity
            nonces := if calls.removeNonces then none else s.keys.nonces
            session := if calls.removeSession then none else s.keys.session }
        lastSession := none }, calls.putIdentity)

def saveNonces (identity : UInt32) (nonces : Option (Buffer noncesSize)) (calls : StateCalls)
    (s : LoRaWanStateStore noncesSize sessionSize) :
    LoRaWanStateStore noncesSize sessionSize × Bool :=
  match s.isOpen, nonces with
  | true, some bytes =>
    match s.ensureIdentity identity calls with
    | (s, false) => (s, false)
    | (s, true) =>
      if calls.putNonces then ({ s with keys := { s.keys with nonces := some bytes.val } }, true)
      else (s, false)
  | _, _ => (s, false)

def saveSessionIfChanged (identity : UInt32) (session : Option (Buffer sessionSize))
    (calls : StateCalls) (s : LoRaWanStateStore noncesSize sessionSize) :
    LoRaWanStateStore noncesSize sessionSize × Bool :=
  match s.isOpen, session with
  | true, some bytes =>
    if s.lastSession = some bytes then (s, true)
    else
      match s.ensureIdentity identity calls with
      | (s, false) => (s, false)
      | (s, true) =>
        if calls.putSession then
          ({ s with
              keys := { s.keys with session := some bytes.val }
              lastSession := some bytes }, true)
        else (s, false)
  | _, _ => (s, false)

def clearSession (identity : UInt32) (calls : StateCalls)
    (s : LoRaWanStateStore noncesSize sessionSize) :
    LoRaWanStateStore noncesSize sessionSize × Bool :=
  if !s.isOpen then (s, false)
  else if s.storedIdentity calls != identity then ({ s with lastSession := none }, true)
  else if calls.isSession && s.keys.session.isSome then
    if calls.removeSession then
      ({ s with keys := { s.keys with session := none }, lastSession := none }, true)
    else (s, false)
  else ({ s with lastSession := none }, true)

end LoRaWanStateStore

/-! Boots and calls. Beside the store stands what the calls have promised: under which identity
the nonces and the session were saved last, which session the next load has to find, and which one
a load has to find in this boot. -/

abbrev Fingerprint := {identity : UInt32 // identity ≠ 0}

inductive StateEvent (noncesSize sessionSize : ℕ) where
  | boot (identity : Fingerprint)
  | begin (opens : Bool)
  | load (calls : StateCalls)
  | saveNonces (nonces : Option (Buffer noncesSize)) (calls : StateCalls)
  | saveSession (session : Option (Buffer sessionSize)) (calls : StateCalls)
  | clearSession (calls : StateCalls)

structure StateHistory (noncesSize sessionSize : ℕ) where
  store : LoRaWanStateStore noncesSize sessionSize := {}
  identity : Fingerprint
  noncesOwner : Option Fingerprint := none
  sessionOwner : Option Fingerprint := none
  saved : Option (Buffer sessionSize) := none
  promised : Option (Buffer sessionSize) := none

namespace StateHistory
variable {noncesSize sessionSize : ℕ}

def afterSave (session : Option (Buffer sessionSize)) (promise : Option (Buffer sessionSize)) :
    Option (Buffer sessionSize) :=
  match session with
  | none => promise
  | some bytes => promise.filter (· = bytes)

def step (h : StateHistory noncesSize sessionSize) :
    StateEvent noncesSize sessionSize → StateHistory noncesSize sessionSize
  | .boot identity =>
    let kept := if identity = h.identity then h.saved else none
    { h with
      store := { keys := h.store.keys }
      identity := identity
      saved := kept
      promised := kept }
  | .begin opens => { h with store := h.store.begin opens }
  | .load calls => { h with store := (h.store.load h.identity.val calls).1 }
  | .saveNonces nonces calls =>
    let (store, saved) := h.store.saveNonces h.identity.val nonces calls
    { h with
      store := store
      noncesOwner := if saved then some h.identity else h.noncesOwner }
  | .saveSession session calls =>
    let (store, saved) := h.store.saveSessionIfChanged h.identity.val session calls
    { h with
      store := store
      sessionOwner := if saved then some h.identity else h.sessionOwner
      saved := if saved then session else afterSave session h.saved
      promised := afterSave session h.promised }
  | .clearSession calls =>
    { h with
      store := (h.store.clearSession h.identity.val calls).1
      saved := none
      promised := none }

/-- A load gives nothing that was saved under another identity, and it gives the session that was
saved in an earlier boot. -/
def LoadsOwn (h : StateHistory noncesSize sessionSize) :
    StateEvent noncesSize sessionSize → Prop
  | .load calls =>
    let loaded := (h.store.load h.identity.val calls).2.2
    (loaded.nonces.isSome → h.noncesOwner = some h.identity) ∧
      (loaded.session.isSome → h.sessionOwner = some h.identity) ∧
      ∀ session, h.promised = some session → loaded.session = some session
  | _ => True

/-- If the call finds another identity: a label that changes leaves nothing under it that is
neither removed nor overwritten, and a session that a load has to find stays or is put again. -/
def RelabelsCleanly (h : StateHistory noncesSize sessionSize) (calls : StateCalls)
    (putsNonces putsSession : Bool) (promise : Option (Buffer sessionSize)) : Prop :=
  h.store.storedIdentity calls ≠ h.identity.val →
    (h.store.keys.identity ≠ some h.identity.val → calls.putIdentity = true →
      (h.store.keys.nonces.isSome → calls.removeNonces = true ∨ putsNonces = true) ∧
        (h.store.keys.session.isSome → calls.removeSession = true ∨ putsSession = true)) ∧
      (promise.isSome →
        calls.removeSession = false ∨ calls.putIdentity = true ∧ putsSession = true)

/-- The step relabels cleanly, or it is a load that reads what it has to find. -/
def Clean (h : StateHistory noncesSize sessionSize) : StateEvent noncesSize sessionSize → Prop
  | .saveNonces (some _) calls =>
    h.store.isOpen = true → h.RelabelsCleanly calls calls.putNonces false h.saved
  | .saveSession (some bytes) calls =>
    h.store.isOpen = true → h.store.lastSession ≠ some bytes →
      h.RelabelsCleanly calls false calls.putSession (h.saved.filter (· = bytes))
  | .load calls =>
    h.promised.isSome →
      h.store.isOpen = true ∧ calls.getIdentity = true ∧ calls.lengthSession = true ∧
        calls.getSession = true
  | _ => True

instance (h : StateHistory noncesSize sessionSize) (calls : StateCalls)
    (putsNonces putsSession : Bool) (promise : Option (Buffer sessionSize)) :
    Decidable (h.RelabelsCleanly calls putsNonces putsSession promise) :=
  inferInstanceAs (Decidable (_ → (_ → _ → (_ → _) ∧ (_ → _)) ∧ (_ → _ ∨ _ ∧ _)))

instance (h : StateHistory noncesSize sessionSize) : DecidablePred h.Clean
  | .saveNonces (some _) _ => inferInstanceAs (Decidable (_ → _))
  | .saveSession (some _) _ => inferInstanceAs (Decidable (_ → _ → _))
  | .load _ => inferInstanceAs (Decidable (_ → _ ∧ _ ∧ _ ∧ _))
  | .boot _ | .begin _ | .clearSession _ => inferInstanceAs (Decidable True)
  | .saveNonces none _ | .saveSession none _ => inferInstanceAs (Decidable True)

def Holds (identity : Fingerprint) (keys : StateKeys) (session : Buffer sessionSize) : Prop :=
  keys.identity = some identity.val ∧ keys.session = some session.val

/-- What is in flash belongs to its label, and the copy of the session and the promised one are
those in flash. -/
structure Coherent (h : StateHistory noncesSize sessionSize) : Prop where
  nonces : h.store.keys.nonces.isSome → h.store.keys.identity = h.noncesOwner.map Subtype.val
  session : h.store.keys.session.isSome → h.store.keys.identity = h.sessionOwner.map Subtype.val
  cached : ∀ session, h.store.lastSession = some session →
    Holds h.identity h.store.keys session
  saved : ∀ session, h.saved = some session → Holds h.identity h.store.keys session
  promised : ∀ session, h.promised = some session → h.saved = some session

theorem identity_of_stored (s : LoRaWanStateStore noncesSize sessionSize) (calls : StateCalls)
    (identity : Fingerprint) (same : s.storedIdentity calls = identity.val) :
    s.keys.identity = some identity.val := by
  have nonzero := identity.property
  rw [← same] at nonzero ⊢
  unfold LoRaWanStateStore.storedIdentity at nonzero ⊢
  cases present : s.keys.identity <;> cases read : calls.getIdentity <;>
    simp_all

theorem stored_of_identity (s : LoRaWanStateStore noncesSize sessionSize) (calls : StateCalls)
    (identity : UInt32) (label : s.keys.identity = some identity)
    (read : calls.getIdentity = true) : s.storedIdentity calls = identity := by
  simp [LoRaWanStateStore.storedIdentity, label, read]

/-- What making sure of the identity leaves, with the buffers that are put after it. -/
structure Ensured (h : StateHistory noncesSize sessionSize) (putsNonces putsSession : Bool)
    (promise : Option (Buffer sessionSize)) (result : LoRaWanStateStore noncesSize sessionSize)
    (ensured : Bool) : Prop where
  isOpen : result.isOpen = h.store.isOpen
  label : ensured = true → result.keys.identity = some h.identity.val
  nonces : result.keys.nonces.isSome → (ensured = true → putsNonces = false) →
    result.keys.identity = h.noncesOwner.map Subtype.val
  session : result.keys.session.isSome → (ensured = true → putsSession = false) →
    result.keys.identity = h.sessionOwner.map Subtype.val
  cached : ∀ session, result.lastSession = some session → Holds h.identity result.keys session
  promised : ∀ session, promise = some session → (ensured = true → putsSession = false) →
    Holds h.identity result.keys session

theorem label_owned {α : Type} {stored : Option α} {label owner : Option UInt32}
    {identity : UInt32} {remove put puts : Bool} (owned : stored.isSome → label = owner)
    (clean : label ≠ some identity → put = true → stored.isSome → remove = true ∨ puts = true)
    (present : (if remove then none else stored).isSome) (unput : put = true → puts = false) :
    (if put then some identity else label) = owner := by
  cases remove with
  | true => cases present
  | false =>
    rw [← owned present]
    split
    case isFalse => rfl
    case isTrue changed =>
      by_contra foreign
      obtain removed | written := clean (Ne.symm foreign) changed present
      · cases removed
      · rw [unput changed] at written
        cases written

theorem ensureIdentity_ensured (h : StateHistory noncesSize sessionSize) (coherent : Coherent h)
    (calls : StateCalls) (putsNonces putsSession : Bool) (promise : Option (Buffer sessionSize))
    (part : ∀ session, promise = some session → h.saved = some session)
    (clean : h.RelabelsCleanly calls putsNonces putsSession promise) :
    Ensured h putsNonces putsSession promise (h.store.ensureIdentity h.identity.val calls).1
      (h.store.ensureIdentity h.identity.val calls).2 := by
  unfold LoRaWanStateStore.ensureIdentity
  by_cases same : h.store.storedIdentity calls = h.identity.val
  · rw [if_pos (beq_iff_eq.mpr same)]
    exact
      { isOpen := rfl
        label := fun _ => identity_of_stored h.store calls h.identity same
        nonces := fun present _ => coherent.nonces present
        session := fun present _ => coherent.session present
        cached := coherent.cached
        promised := fun session kept _ => coherent.saved session (part session kept) }
  · obtain ⟨relabels, keeps⟩ := clean same
    rw [if_neg (beq_iff_eq.not.mpr same)]
    refine
      { isOpen := rfl
        label := fun put => if_pos put
        nonces := ?_
        session := ?_
        cached := nofun
        promised := ?_ }
    · exact fun present unput => label_owned coherent.nonces
        (fun foreign put => (relabels foreign put).1) present unput
    · exact fun present unput => label_owned coherent.session
        (fun foreign put => (relabels foreign put).2) present unput
    · intro session kept unput
      obtain ⟨label, there⟩ := coherent.saved session (part session kept)
      obtain stays | ⟨put, written⟩ := keeps (by rw [kept]; rfl)
      · refine ⟨?_, (if_neg (by rw [stays]; nofun)).trans there⟩
        dsimp only
        split
        · rfl
        · exact label
      · rw [unput put] at written
        cases written

theorem readBuffer_eq_some {size : ℕ} {stored : Option Bytes} {length get : Bool}
    {buffer : Buffer size} (read : readBuffer size stored length get = some buffer) :
    stored = some buffer.val := by
  unfold readBuffer at read
  cases stored with
  | none => cases read
  | some bytes =>
    dsimp only at read
    split at read
    · split at read
      · exact congrArg some (congrArg Subtype.val (Option.some.inj read))
      · cases read
    · cases read

theorem readBuffer_stored {size : ℕ} (buffer : Buffer size) :
    readBuffer size (some buffer.val) true true = some buffer := by
  simp [readBuffer, buffer.property]

theorem saveNonces_coherent (h : StateHistory noncesSize sessionSize) (coherent : Coherent h)
    (nonces : Option (Buffer noncesSize)) (calls : StateCalls)
    (clean : h.Clean (.saveNonces nonces calls)) :
    Coherent (h.step (.saveNonces nonces calls)) := by
  rw [step]
  unfold LoRaWanStateStore.saveNonces
  cases opened : h.store.isOpen with
  | false => exact ⟨coherent.nonces, coherent.session, coherent.cached, coherent.saved,
      coherent.promised⟩
  | true =>
    cases nonces with
    | none => exact ⟨coherent.nonces, coherent.session, coherent.cached, coherent.saved,
        coherent.promised⟩
    | some bytes =>
      have ensured := ensureIdentity_ensured h coherent calls calls.putNonces false h.saved
        (fun _ kept => kept) (clean opened)
      dsimp only
      generalize h.store.ensureIdentity h.identity.val calls = result at ensured ⊢
      obtain ⟨store, _ | _⟩ := result
      · exact
          { nonces := fun present => ensured.nonces present nofun
            session := fun present => ensured.session present nofun
            cached := ensured.cached
            saved := fun session kept => ensured.promised session kept nofun
            promised := coherent.promised }
      · dsimp only
        cases put : calls.putNonces with
        | true =>
          exact
            { nonces := fun _ => ensured.label rfl
              session := fun present => ensured.session present fun _ => rfl
              cached := ensured.cached
              saved := fun session kept => ensured.promised session kept fun _ => rfl
              promised := coherent.promised }
        | false =>
          exact
            { nonces := fun present => ensured.nonces present fun _ => put
              session := fun present => ensured.session present fun _ => rfl
              cached := ensured.cached
              saved := fun session kept => ensured.promised session kept fun _ => rfl
              promised := coherent.promised }

theorem afterSave_promised (h : StateHistory noncesSize sessionSize) (coherent : Coherent h)
    (bytes session : Buffer sessionSize) (kept : afterSave (some bytes) h.promised = some session) :
    afterSave (some bytes) h.saved = some session ∧ session = bytes := by
  obtain ⟨was, same⟩ := Option.filter_eq_some_iff.mp kept
  rw [decide_eq_true_eq] at same
  rw [coherent.promised session was, same]
  exact ⟨by simp [afterSave], rfl⟩

theorem saveSession_coherent (h : StateHistory noncesSize sessionSize) (coherent : Coherent h)
    (session : Option (Buffer sessionSize)) (calls : StateCalls)
    (clean : h.Clean (.saveSession session calls)) :
    Coherent (h.step (.saveSession session calls)) := by
  rw [step]
  unfold LoRaWanStateStore.saveSessionIfChanged
  have part (bytes session : Buffer sessionSize)
      (kept : afterSave (some bytes) h.saved = some session) : h.saved = some session :=
    (Option.filter_eq_some_iff.mp kept).1
  cases session with
  | none =>
    cases opened : h.store.isOpen <;>
      exact ⟨coherent.nonces, coherent.session, coherent.cached, coherent.saved,
        coherent.promised⟩
  | some bytes =>
    have promised (session : Buffer sessionSize)
        (kept : afterSave (some bytes) h.promised = some session) := afterSave_promised h coherent
      bytes session kept
    cases opened : h.store.isOpen with
    | false =>
      exact ⟨coherent.nonces, coherent.session, coherent.cached,
        fun session kept => coherent.saved session (part bytes session kept),
        fun session kept => (promised session kept).1⟩
    | true =>
      dsimp only
      by_cases hit : h.store.lastSession = some bytes
      · have held := coherent.cached bytes hit
        rw [if_pos hit]
        exact
          { nonces := coherent.nonces
            session := fun _ => held.1
            cached := coherent.cached
            saved := fun session kept => Option.some.inj kept ▸ held
            promised := fun session kept => congrArg some (promised session kept).2.symm }
      · have ensured := ensureIdentity_ensured h coherent calls false calls.putSession
          (h.saved.filter (· = bytes)) (part bytes) (clean opened hit)
        rw [if_neg hit]
        generalize h.store.ensureIdentity h.identity.val calls = result at ensured ⊢
        obtain ⟨store, _ | _⟩ := result
        · exact
            { nonces := fun present => ensured.nonces present nofun
              session := fun present => ensured.session present nofun
              cached := ensured.cached
              saved := fun session kept => ensured.promised session kept nofun
              promised := fun session kept => (promised session kept).1 }
        · dsimp only
          cases put : calls.putSession with
          | true =>
            exact
              { nonces := fun present => ensured.nonces present fun _ => rfl
                session := fun _ => ensured.label rfl
                cached := fun session kept => Option.some.inj kept ▸ ⟨ensured.label rfl, rfl⟩
                saved := fun session kept => Option.some.inj kept ▸ ⟨ensured.label rfl, rfl⟩
                promised := fun session kept => congrArg some (promised session kept).2.symm }
          | false =>
            exact
              { nonces := fun present => ensured.nonces present fun _ => rfl
                session := fun present => ensured.session present fun _ => put
                cached := ensured.cached
                saved := fun session kept => ensured.promised session kept fun _ => put
                promised := fun session kept => (promised session kept).1 }

theorem load_coherent (h : StateHistory noncesSize sessionSize) (coherent : Coherent h)
    (calls : StateCalls) : Coherent (h.step (.load calls)) := by
  rw [step, LoRaWanStateStore.load]
  split
  · exact ⟨coherent.nonces, coherent.session, coherent.cached, coherent.saved, coherent.promised⟩
  · split
    · exact ⟨coherent.nonces, coherent.session, coherent.cached, coherent.saved,
        coherent.promised⟩
    · rename_i same
      rw [bne_iff_ne, not_not] at same
      exact
        { nonces := coherent.nonces
          session := coherent.session
          cached := fun session read =>
            ⟨identity_of_stored h.store calls h.identity same, readBuffer_eq_some read⟩
          saved := coherent.saved
          promised := coherent.promised }

theorem clearSession_coherent (h : StateHistory noncesSize sessionSize) (coherent : Coherent h)
    (calls : StateCalls) : Coherent (h.step (.clearSession calls)) := by
  rw [step, LoRaWanStateStore.clearSession]
  split
  · exact ⟨coherent.nonces, coherent.session, coherent.cached, nofun, nofun⟩
  · split
    · exact ⟨coherent.nonces, coherent.session, nofun, nofun, nofun⟩
    · split
      · split
        · exact ⟨coherent.nonces, nofun, nofun, nofun, nofun⟩
        · exact ⟨coherent.nonces, coherent.session, coherent.cached, nofun, nofun⟩
      · exact ⟨coherent.nonces, coherent.session, nofun, nofun, nofun⟩

theorem boot_coherent (h : StateHistory noncesSize sessionSize) (coherent : Coherent h)
    (identity : Fingerprint) : Coherent (h.step (.boot identity)) := by
  rw [step]
  by_cases same : identity = h.identity
  · rw [if_pos same, same]
    exact ⟨coherent.nonces, coherent.session, nofun, coherent.saved, fun _ kept => kept⟩
  · rw [if_neg same]
    exact ⟨coherent.nonces, coherent.session, nofun, nofun, nofun⟩

theorem step_coherent (h : StateHistory noncesSize sessionSize)
    (event : StateEvent noncesSize sessionSize) (coherent : Coherent h) (clean : h.Clean event) :
    Coherent (h.step event) := by
  cases event with
  | boot identity => exact boot_coherent h coherent identity
  | begin opens =>
    rw [step, LoRaWanStateStore.begin]
    split <;>
      exact ⟨coherent.nonces, coherent.session, coherent.cached, coherent.saved,
        coherent.promised⟩
  | load calls => exact load_coherent h coherent calls
  | saveNonces nonces calls => exact saveNonces_coherent h coherent nonces calls clean
  | saveSession session calls => exact saveSession_coherent h coherent session calls clean
  | clearSession calls => exact clearSession_coherent h coherent calls

theorem owner_of_label {identity : Fingerprint} {owner : Option Fingerprint}
    (label : some identity.val = owner.map Subtype.val) : owner = some identity :=
  Option.map_injective Subtype.val_injective (label.symm.trans rfl)

theorem load_own (h : StateHistory noncesSize sessionSize)
    (event : StateEvent noncesSize sessionSize) (coherent : Coherent h) (clean : h.Clean event) :
    h.LoadsOwn event := by
  cases event with
  | load calls =>
    rw [LoadsOwn, LoRaWanStateStore.load]
    have opened (session : Buffer sessionSize) (kept : h.promised = some session) :=
      clean (by rw [kept]; rfl)
    have held (session : Buffer sessionSize) (kept : h.promised = some session) :=
      coherent.saved session (coherent.promised session kept)
    split
    · rename_i closed
      refine ⟨nofun, nofun, fun session kept => ?_⟩
      rw [(opened session kept).1] at closed
      cases closed
    · split
      · rename_i other
        refine ⟨nofun, nofun, fun session kept => ?_⟩
        have same := stored_of_identity h.store calls h.identity.val (held session kept).1
          (opened session kept).2.1
        rw [same, bne_self_eq_false] at other
        cases other
      · rename_i same
        rw [bne_iff_ne, not_not] at same
        have label := identity_of_stored h.store calls h.identity same
        refine ⟨fun read => ?_, fun read => ?_, fun session kept => ?_⟩
        · obtain ⟨buffer, read⟩ := Option.isSome_iff_exists.mp read
          have present := coherent.nonces (by rw [readBuffer_eq_some read]; rfl)
          exact owner_of_label (label.symm.trans present)
        · obtain ⟨buffer, read⟩ := Option.isSome_iff_exists.mp read
          have present := coherent.session (by rw [readBuffer_eq_some read]; rfl)
          exact owner_of_label (label.symm.trans present)
        · obtain ⟨-, -, length, get⟩ := opened session kept
          dsimp only
          rw [(held session kept).2, length, get]
          exact readBuffer_stored session
  | _ => trivial

theorem erased_coherent (identity : Fingerprint) :
    Coherent ({ identity := identity } : StateHistory noncesSize sessionSize) :=
  ⟨nofun, nofun, nofun, nofun, nofun⟩

/-- From an erased flash, over any boots, calls and failures: while the steps relabel cleanly, no
load gives what was saved under another identity, and each gives the session it has to find. -/
theorem loads_own (identity : Fingerprint) (events : List (StateEvent noncesSize sessionSize))
    (clean : Always step Clean { identity := identity } events) :
    Always step LoadsOwn { identity := identity } events := by
  have coherent := invariant_steps step Coherent Clean step_coherent _ events
    (erased_coherent identity) clean
  exact Always.mono step (fun h event held => load_own h event held.1 held.2)
    (Always.and step coherent clean)

/-- New credentials whose first save removes nothing but fails before its relabelling, and whose
second one is complete. -/
def changedCredentials : List (StateEvent 2 3) :=
  [.boot ⟨1, by decide⟩, .begin true, .saveNonces (some ⟨[1, 1], rfl⟩) {},
    .saveSession (some ⟨[1, 1, 1], rfl⟩) {}, .boot ⟨2, by decide⟩, .begin true,
    .saveNonces (some ⟨[2, 2], rfl⟩)
      { removeNonces := false, removeSession := false, putIdentity := false },
    .saveSession (some ⟨[2, 2, 2], rfl⟩) {}, .boot ⟨2, by decide⟩, .begin true, .load {}]

theorem loads_own_changed :
    Always step LoadsOwn { identity := ⟨1, by decide⟩ } changedCredentials :=
  loads_own ⟨1, by decide⟩ changedCredentials (by unfold Always; decide +kernel)

/-- The removal of the nonces fails, and the label is put all the same: the next load takes the
nonces of the first credentials for those of the second. -/
theorem nonces_cross_identities :
    ¬ ∀ (identity : Fingerprint) (events : List (StateEvent 2 3)),
      Always step LoadsOwn { identity := identity } events := by
  intro always
  have loads := always ⟨1, by decide⟩ ([.boot ⟨1, by decide⟩, .begin true,
    .saveNonces (some ⟨[1, 1], rfl⟩) {}, .boot ⟨2, by decide⟩, .begin true,
    .saveSession (some ⟨[2, 2, 2], rfl⟩) { removeNonces := false }] ++ [.load {}])
  obtain ⟨own, -⟩ := ((always_cons ..).mp ((always_append ..).mp loads).2).1
  have owner := own (by decide +kernel)
  revert owner
  decide +kernel

end StateHistory

end Lorawan
