import MultibusGateway.Library.WrapClock
import MultibusGateway.Lorawan.Provisioning
import MultibusGateway.Lorawan.StateStore

/-! The radio: joining, uplinks, and what of the node is kept in flash. The node of the radio
library is its two buffers; what its calls do to them is a part of each event. A downlink is
handled last in the call that received it. The log is a ghost. -/

namespace Lorawan
open ByteString Config Execution

structure Node (noncesSize sessionSize : ℕ) where
  nonces : Buffer noncesSize
  session : Buffer sessionSize
  deriving DecidableEq

/-- What went out, with the buffer that it took its number from, and whether the state was saved
after it. -/
inductive Transmitted (noncesSize sessionSize : ℕ) where
  | boot
  | uplink (session : Buffer sessionSize) (saved : Bool)
  | joinRequest (nonces : Buffer noncesSize) (saved : Bool)
  deriving DecidableEq

structure Received where
  fPort : UInt8
  payload : Bytes
  deriving DecidableEq

structure TransportEnvelope where
  endpoint : UInt8
  payload : Option Bytes
  confirmed : Bool := false

/-! The answers of the node, with its buffers after each, and of the flash. Times are true times in
milliseconds since the boot, read at the end of a call. -/

inductive Activation where
  | newSession | sessionRestored | failed
  deriving DecidableEq

structure NodeAnswer (noncesSize sessionSize : ℕ) where
  done : Bool
  node : Node noncesSize sessionSize

structure Activated (noncesSize sessionSize : ℕ) where
  state : Activation
  /-- A join request went out. -/
  requested : Bool
  node : Node noncesSize sessionSize

structure JoinAnswers (noncesSize sessionSize : ℕ) where
  activated : Activated noncesSize sessionSize
  setClass : NodeAnswer noncesSize sessionSize
  classMs : ℕ := 0
  saveNonces : StateCalls := {}
  saveSession : StateCalls := {}
  endMs : ℕ := 0

inductive SendState where
  | done | sessionLost | failed
  deriving DecidableEq

structure SendAnswers (noncesSize sessionSize : ℕ) where
  state : SendState
  transmitted : Bool
  node : Node noncesSize sessionSize
  save : StateCalls := {}
  downlink : Option Received := none
  cleared : Node noncesSize sessionSize
  clear : StateCalls := {}
  endMs : ℕ := 0

structure TimeSyncAnswers (noncesSize sessionSize : ℕ) where
  request : NodeAnswer noncesSize sessionSize
  exchange : SendAnswers noncesSize sessionSize
  /-- The answer holds the time, and the clock takes it. -/
  timed : Bool

structure ClassCAnswers (noncesSize sessionSize : ℕ) where
  received : Bool
  node : Node noncesSize sessionSize
  save : StateCalls := {}
  downlink : Option Received := none

structure RejoinAnswers (noncesSize sessionSize : ℕ) where
  cleared : Node noncesSize sessionSize
  clear : StateCalls := {}
  endMs : ℕ := 0

structure BeginAnswers (noncesSize sessionSize : ℕ) where
  opens : Bool
  /-- Both calls to the radio chip succeed. -/
  chip : Bool
  node : Node noncesSize sessionSize
  load : StateCalls := {}
  /-- What the node makes of a buffer that was loaded. -/
  setNonces : Buffer noncesSize → NodeAnswer noncesSize sessionSize
  setSession : Buffer sessionSize → NodeAnswer noncesSize sessionSize
  activated : Activated noncesSize sessionSize
  setClass : NodeAnswer noncesSize sessionSize
  save : StateCalls := {}
  clear : StateCalls := {}
  cleared : Node noncesSize sessionSize
  join : JoinAnswers noncesSize sessionSize

structure LoopAnswers (noncesSize sessionSize : ℕ) where
  rejoin : RejoinAnswers noncesSize sessionSize
  timeSync : TimeSyncAnswers noncesSize sessionSize
  classC : ClassCAnswers noncesSize sessionSize
  nowMs : ℕ
  join : JoinAnswers noncesSize sessionSize

structure LoRaWanRadio (noncesSize sessionSize : ℕ) where
  config : LoRaWanConfig := {}
  stateIdentity : UInt32 := 0
  credentials : Option Credentials := none
  node : Node noncesSize sessionSize
  stateStore : LoRaWanStateStore noncesSize sessionSize := {}
  radioReady : Bool := false
  joined : Bool := false
  persistenceHealthy : Bool := false
  rejoinRequested : Bool := false
  networkTimeSyncRequested : Bool := false
  nextJoinAtMs : UInt32 := 0
  log : List (Transmitted noncesSize sessionSize) := []

namespace LoRaWanRadio
variable {noncesSize sessionSize : ℕ}

def kJoinRetryMs : UInt32 := 60000

def provisioned (r : LoRaWanRadio noncesSize sessionSize) : Bool := r.credentials.isSome

def configure (config : LoRaWanConfig) (devEui : Bytes)
    (r : LoRaWanRadio noncesSize sessionSize) : LoRaWanRadio noncesSize sessionSize :=
  { r with
    config := config
    stateIdentity := identityFingerprint config devEui
    credentials := parseProvisioning config devEui }

def ready (r : LoRaWanRadio noncesSize sessionSize) : Bool :=
  r.radioReady && r.provisioned && r.persistenceHealthy

def persistSession (calls : StateCalls) (r : LoRaWanRadio noncesSize sessionSize) :
    LoRaWanRadio noncesSize sessionSize × Bool :=
  let (store, saved) :=
    r.stateStore.saveSessionIfChanged r.stateIdentity (some r.node.session) calls
  ({ r with
      stateStore := store
      persistenceHealthy := if saved then r.persistenceHealthy else false }, saved)

def persistJoinState (nonces session : StateCalls) (r : LoRaWanRadio noncesSize sessionSize) :
    LoRaWanRadio noncesSize sessionSize × Bool :=
  let (store, saved) := r.stateStore.saveNonces r.stateIdentity (some r.node.nonces) nonces
  let r := { r with stateStore := store }
  if !saved then (r, false)
  else if r.joined then
    let (store, saved) :=
      r.stateStore.saveSessionIfChanged r.stateIdentity (some r.node.session) session
    ({ r with stateStore := store }, saved)
  else (r, true)

def clearStored (calls : StateCalls) (r : LoRaWanRadio noncesSize sessionSize) :
    LoRaWanRadio noncesSize sessionSize × Bool :=
  let (store, cleared) := r.stateStore.clearSession r.stateIdentity calls
  ({ r with stateStore := store }, cleared)

def applyConfiguredClass (answer : NodeAnswer noncesSize sessionSize)
    (r : LoRaWanRadio noncesSize sessionSize) : LoRaWanRadio noncesSize sessionSize × Bool :=
  if !r.joined then (r, false)
  else ({ r with node := answer.node, joined := answer.done }, answer.done)

def activate (answers : JoinAnswers noncesSize sessionSize)
    (r : LoRaWanRadio noncesSize sessionSize) : LoRaWanRadio noncesSize sessionSize :=
  let r :=
    { r with
      node := answers.activated.node
      joined := answers.activated.state ≠ Activation.failed }
  if r.joined then
    match r.applyConfiguredClass answers.setClass with
    | (r, true) => r
    | (r, false) => { r with nextJoinAtMs := WrapClock.stamp answers.classMs + kJoinRetryMs }
  else r

def tryJoin (answers : JoinAnswers noncesSize sessionSize)
    (r : LoRaWanRadio noncesSize sessionSize) : LoRaWanRadio noncesSize sessionSize × Bool :=
  if !r.ready then (r, false)
  else
    let nonces := r.node.nonces
    let (r, saved) :=
      (r.activate answers).persistJoinState answers.saveNonces answers.saveSession
    let r :=
      if answers.activated.requested then
        { r with log := r.log ++ [Transmitted.joinRequest nonces saved] }
      else r
    if !saved then ({ r with persistenceHealthy := false, joined := false }, false)
    else if !r.joined then
      ({ r with nextJoinAtMs := WrapClock.stamp answers.endMs + kJoinRetryMs }, false)
    else (r, true)

/-- `begin` without a session ends so. -/
def beginJoin (answers : BeginAnswers noncesSize sessionSize)
    (r : LoRaWanRadio noncesSize sessionSize) : LoRaWanRadio noncesSize sessionSize × Bool :=
  let (r, _) := { r with persistenceHealthy := true }.tryJoin answers.join
  (r, r.persistenceHealthy)

/-- `begin` with a session. One that the node does not take is removed. If the activation makes a
new one nothing is saved. -/
def beginSession (answers : BeginAnswers noncesSize sessionSize) (session : Buffer sessionSize)
    (r : LoRaWanRadio noncesSize sessionSize) : LoRaWanRadio noncesSize sessionSize × Bool :=
  let r := { r with node := (answers.setSession session).node }
  if (answers.setSession session).done then
    let nonces := r.node.nonces
    let r := { r with node := answers.activated.node }
    if answers.activated.state = .sessionRestored then
      let r := { r with joined := true, persistenceHealthy := true }
      match r.applyConfiguredClass answers.setClass with
      | (r, false) => (r, false)
      | (r, true) => r.persistSession answers.save
    else if answers.activated.requested then
      ({ r with log := r.log ++ [.joinRequest nonces false] }, false)
    else (r, false)
  else
    match r.clearStored answers.clear with
    | (r, false) => (r, false)
    | (r, true) => { r with node := answers.cleared }.beginJoin answers

def beginNode (answers : BeginAnswers noncesSize sessionSize)
    (r : LoRaWanRadio noncesSize sessionSize) : LoRaWanRadio noncesSize sessionSize × Bool :=
  match r.stateStore.load r.stateIdentity answers.load with
  | (store, false, _) => ({ r with stateStore := store }, false)
  | (store, true, ⟨none, _⟩) => { r with stateStore := store }.beginJoin answers
  | (store, true, ⟨some nonces, session⟩) =>
    let r := { r with stateStore := store, node := (answers.setNonces nonces).node }
    if !(answers.setNonces nonces).done then (r, false)
    else
      match session with
      | none => r.beginJoin answers
      | some session => r.beginSession answers session

def begin (answers : BeginAnswers noncesSize sessionSize)
    (r : LoRaWanRadio noncesSize sessionSize) : LoRaWanRadio noncesSize sessionSize × Bool :=
  let r := { r with joined := false, radioReady := false, persistenceHealthy := false }
  if !r.provisioned then (r, false)
  else
    let r := { r with stateStore := r.stateStore.begin answers.opens }
    if !r.stateStore.isOpen || !answers.chip then (r, false)
    else { r with radioReady := true, node := answers.node }.beginNode answers

/-- Only the flash outlives a reset, and the log. -/
def boot (config : LoRaWanConfig) (devEui : Bytes)
    (begins : Option (BeginAnswers noncesSize sessionSize)) (node : Node noncesSize sessionSize)
    (r : LoRaWanRadio noncesSize sessionSize) : LoRaWanRadio noncesSize sessionSize :=
  let r : LoRaWanRadio noncesSize sessionSize :=
    { node := node
      stateStore := { keys := r.stateStore.keys }
      log := r.log ++ [.boot] }
  let r := r.configure config devEui
  match begins with
  | none => r
  | some answers => (r.begin answers).1

/-- A message for an application, which is on a port and not empty, goes to the handler. -/
def dispatchApplicationDownlink
    (deliver : LoRaWanRadio noncesSize sessionSize → Received →
      LoRaWanRadio noncesSize sessionSize) (downlink : Option Received)
    (r : LoRaWanRadio noncesSize sessionSize) : LoRaWanRadio noncesSize sessionSize :=
  match downlink with
  | none => r
  | some received =>
    if received.payload.isEmpty || received.fPort == 0 then r else deliver r received

/-- `sendReceive`, and the saving of the session after it. -/
def exchange (answers : SendAnswers noncesSize sessionSize)
    (r : LoRaWanRadio noncesSize sessionSize) : LoRaWanRadio noncesSize sessionSize × Bool :=
  let (after, saved) := { r with node := answers.node }.persistSession answers.save
  (if answers.transmitted then
      { after with log := after.log ++ [Transmitted.uplink r.node.session saved] }
    else after, saved)

def accepts (envelope : TransportEnvelope) (r : LoRaWanRadio noncesSize sessionSize) : Bool :=
  match envelope.payload with
  | none => false
  | some payload =>
    r.joined && r.persistenceHealthy && payload.length != 0 && envelope.endpoint != 0 &&
      envelope.endpoint ≤ 223 && payload.length ≤ 242

def send
    (deliver : LoRaWanRadio noncesSize sessionSize → Received →
      LoRaWanRadio noncesSize sessionSize) (envelope : TransportEnvelope)
    (answers : SendAnswers noncesSize sessionSize) (r : LoRaWanRadio noncesSize sessionSize) :
    LoRaWanRadio noncesSize sessionSize × Bool :=
  if !r.accepts envelope then (r, false)
  else
    match r.exchange answers with
    | (r, false) => (r, false)
    | (r, true) =>
      match answers.state with
      | .done => (dispatchApplicationDownlink deliver answers.downlink r, true)
      | .failed => (r, false)
      | .sessionLost =>
        match { r with joined := false, node := answers.cleared }.clearStored answers.clear with
        | (r, false) => ({ r with persistenceHealthy := false }, false)
        | (r, true) =>
          ({ r with nextJoinAtMs := WrapClock.stamp answers.endMs + kJoinRetryMs }, false)

def requestRejoin (r : LoRaWanRadio noncesSize sessionSize) :
    LoRaWanRadio noncesSize sessionSize × Bool :=
  if !r.ready then (r, false) else ({ r with rejoinRequested := true }, true)

def requestNetworkTimeSync (r : LoRaWanRadio noncesSize sessionSize) :
    LoRaWanRadio noncesSize sessionSize × Bool :=
  if !r.joined || !r.persistenceHealthy then (r, false)
  else ({ r with networkTimeSyncRequested := true }, true)

/-- The state of the exchange is not looked at for a lost session here. -/
def performNetworkTimeSync
    (deliver : LoRaWanRadio noncesSize sessionSize → Received →
      LoRaWanRadio noncesSize sessionSize) (answers : TimeSyncAnswers noncesSize sessionSize)
    (r : LoRaWanRadio noncesSize sessionSize) : LoRaWanRadio noncesSize sessionSize :=
  let r := { r with node := answers.request.node }
  if !answers.request.done then r
  else
    match r.exchange answers.exchange with
    | (r, false) => r
    | (r, true) =>
      if answers.exchange.state = .done && answers.timed then
        dispatchApplicationDownlink deliver answers.exchange.downlink r
      else r

def pollClassCDownlink
    (deliver : LoRaWanRadio noncesSize sessionSize → Received →
      LoRaWanRadio noncesSize sessionSize) (answers : ClassCAnswers noncesSize sessionSize)
    (r : LoRaWanRadio noncesSize sessionSize) : LoRaWanRadio noncesSize sessionSize :=
  let r := { r with node := answers.node }
  if !answers.received then r
  else
    match r.persistSession answers.save with
    | (r, false) => r
    | (r, true) => dispatchApplicationDownlink deliver answers.downlink r

def rejoin (answers : RejoinAnswers noncesSize sessionSize)
    (r : LoRaWanRadio noncesSize sessionSize) : LoRaWanRadio noncesSize sessionSize × Bool :=
  let r := { r with rejoinRequested := false, joined := false, node := answers.cleared }
  match r.clearStored answers.clear with
  | (r, false) => ({ r with persistenceHealthy := false }, false)
  | (r, true) => ({ r with nextJoinAtMs := WrapClock.stamp answers.endMs }, true)

/-- The pass of a radio that has joined. Whether it still has is not looked at between the two. -/
def listen
    (deliver : LoRaWanRadio noncesSize sessionSize → Received →
      LoRaWanRadio noncesSize sessionSize) (answers : LoopAnswers noncesSize sessionSize)
    (r : LoRaWanRadio noncesSize sessionSize) : LoRaWanRadio noncesSize sessionSize :=
  let r :=
    if r.networkTimeSyncRequested then
      performNetworkTimeSync deliver answers.timeSync { r with networkTimeSyncRequested := false }
    else r
  if r.config.classC then pollClassCDownlink deliver answers.classC r else r

def loop
    (deliver : LoRaWanRadio noncesSize sessionSize → Received →
      LoRaWanRadio noncesSize sessionSize) (answers : LoopAnswers noncesSize sessionSize)
    (r : LoRaWanRadio noncesSize sessionSize) : LoRaWanRadio noncesSize sessionSize :=
  if !r.ready then r
  else
    let (r, goes) := if r.rejoinRequested then r.rejoin answers.rejoin else (r, true)
    if !goes then r
    else if r.joined then listen deliver answers r
    else if !WrapClock.reached (WrapClock.stamp answers.nowMs) r.nextJoinAtMs then r
    else (r.tryJoin answers.join).1

/-! The radio as a system: boots, what a pass of the loop may do, and the calls of the application.
A call that is made while a downlink is handled is one after the call that received it. -/

inductive Request (noncesSize sessionSize : ℕ) where
  | send (envelope : TransportEnvelope) (answers : SendAnswers noncesSize sessionSize)
  | requestRejoin
  | requestNetworkTimeSync

inductive Event (noncesSize sessionSize : ℕ) where
  | boot (config : LoRaWanConfig) (devEui : Bytes)
    (begins : Option (BeginAnswers noncesSize sessionSize)) (node : Node noncesSize sessionSize)
  | rejoin (answers : RejoinAnswers noncesSize sessionSize)
  | timeSync (answers : TimeSyncAnswers noncesSize sessionSize)
  | classC (answers : ClassCAnswers noncesSize sessionSize)
  | join (nowMs : ℕ) (answers : JoinAnswers noncesSize sessionSize)
  | request (request : Request noncesSize sessionSize)

def afterwards (r : LoRaWanRadio noncesSize sessionSize) (_ : Received) :
    LoRaWanRadio noncesSize sessionSize := r

def serve (r : LoRaWanRadio noncesSize sessionSize) :
    Request noncesSize sessionSize → LoRaWanRadio noncesSize sessionSize
  | .send envelope answers => (send afterwards envelope answers r).1
  | .requestRejoin => r.requestRejoin.1
  | .requestNetworkTimeSync => r.requestNetworkTimeSync.1

def step (r : LoRaWanRadio noncesSize sessionSize) :
    Event noncesSize sessionSize → LoRaWanRadio noncesSize sessionSize
  | .boot config devEui begins node => r.boot config devEui begins node
  | .rejoin answers => if r.ready && r.rejoinRequested then (r.rejoin answers).1 else r
  | .timeSync answers =>
    if r.ready && r.joined && r.networkTimeSyncRequested then
      performNetworkTimeSync afterwards answers { r with networkTimeSyncRequested := false }
    else r
  | .classC answers => if r.config.classC then pollClassCDownlink afterwards answers r else r
  | .join nowMs answers =>
    if r.ready && !r.joined && WrapClock.reached (WrapClock.stamp nowMs) r.nextJoinAtMs then
      (r.tryJoin answers).1
    else r
  | .request request => r.serve request

def Calls (deliver : LoRaWanRadio noncesSize sessionSize → Received →
    LoRaWanRadio noncesSize sessionSize) : Prop :=
  ∀ r received, ∃ requests, deliver r received = run serve r requests

theorem run_requests (r : LoRaWanRadio noncesSize sessionSize)
    (requests : List (Request noncesSize sessionSize)) :
    run step r (requests.map .request) = run serve r requests := by
  induction requests generalizing r with
  | nil => rfl
  | cons request rest ih => exact ih (r.serve request)

theorem dispatch_calls {deliver : LoRaWanRadio noncesSize sessionSize → Received →
      LoRaWanRadio noncesSize sessionSize} (calls : Calls deliver) (downlink : Option Received)
    (r : LoRaWanRadio noncesSize sessionSize) :
    ∃ requests, dispatchApplicationDownlink deliver downlink r = run serve r requests := by
  unfold dispatchApplicationDownlink
  cases downlink with
  | none => exact ⟨[], rfl⟩
  | some received =>
    dsimp only
    split
    · exact ⟨[], rfl⟩
    · exact calls r received

theorem dispatch_afterwards (downlink : Option Received)
    (r : LoRaWanRadio noncesSize sessionSize) :
    dispatchApplicationDownlink afterwards downlink r = r := by
  unfold dispatchApplicationDownlink
  cases downlink with
  | none => rfl
  | some received => exact ite_self r

/-- Only the last thing that a call does is left to the handler. -/
theorem send_calls {deliver : LoRaWanRadio noncesSize sessionSize → Received →
      LoRaWanRadio noncesSize sessionSize} (calls : Calls deliver)
    (envelope : TransportEnvelope) (answers : SendAnswers noncesSize sessionSize)
    (r : LoRaWanRadio noncesSize sessionSize) :
    ∃ requests, (send deliver envelope answers r).1 =
      run serve (send afterwards envelope answers r).1 requests := by
  unfold send
  split
  · exact ⟨[], rfl⟩
  · cases r.exchange answers with
    | mk after saved =>
      cases saved with
      | false => exact ⟨[], rfl⟩
      | true =>
        cases answers.state with
        | done =>
          dsimp only
          rw [dispatch_afterwards]
          exact dispatch_calls calls answers.downlink after
        | failed => exact ⟨[], rfl⟩
        | sessionLost => exact ⟨[], rfl⟩

theorem performNetworkTimeSync_calls {deliver : LoRaWanRadio noncesSize sessionSize → Received →
      LoRaWanRadio noncesSize sessionSize} (calls : Calls deliver)
    (answers : TimeSyncAnswers noncesSize sessionSize)
    (r : LoRaWanRadio noncesSize sessionSize) :
    ∃ requests, performNetworkTimeSync deliver answers r =
      run serve (performNetworkTimeSync afterwards answers r) requests := by
  unfold performNetworkTimeSync
  dsimp only
  split
  · exact ⟨[], rfl⟩
  · cases exchange answers.exchange { r with node := answers.request.node } with
    | mk after saved =>
      cases saved with
      | false => exact ⟨[], rfl⟩
      | true =>
        dsimp only
        split
        · rw [dispatch_afterwards]
          exact dispatch_calls calls answers.exchange.downlink after
        · exact ⟨[], rfl⟩

theorem pollClassCDownlink_calls {deliver : LoRaWanRadio noncesSize sessionSize → Received →
      LoRaWanRadio noncesSize sessionSize} (calls : Calls deliver)
    (answers : ClassCAnswers noncesSize sessionSize) (r : LoRaWanRadio noncesSize sessionSize) :
    ∃ requests, pollClassCDownlink deliver answers r =
      run serve (pollClassCDownlink afterwards answers r) requests := by
  unfold pollClassCDownlink
  dsimp only
  split
  · exact ⟨[], rfl⟩
  · cases persistSession answers.save { r with node := answers.node } with
    | mk after saved =>
      cases saved with
      | false => exact ⟨[], rfl⟩
      | true =>
        dsimp only
        rw [dispatch_afterwards]
        exact dispatch_calls calls answers.downlink after

theorem rejoin_ready (answers : RejoinAnswers noncesSize sessionSize)
    (r : LoRaWanRadio noncesSize sessionSize) (goes : (r.rejoin answers).2 = true) :
    (r.rejoin answers).1.ready = r.ready := by
  unfold rejoin clearStored at goes ⊢
  dsimp only at goes ⊢
  cases cleared : (r.stateStore.clearSession r.stateIdentity answers.clear).2 with
  | false =>
    rw [cleared] at goes
    cases goes
  | true => rfl

def Part (answers : LoopAnswers noncesSize sessionSize) : Event noncesSize sessionSize → Prop
  | .boot _ _ _ _ => False
  | .rejoin rejoin => rejoin = answers.rejoin
  | .timeSync timeSync => timeSync = answers.timeSync
  | .classC classC => classC = answers.classC
  | .join nowMs join => nowMs = answers.nowMs ∧ join = answers.join
  | .request _ => True

theorem part_requests (answers : LoopAnswers noncesSize sessionSize)
    (requests : List (Request noncesSize sessionSize)) :
    ∀ event ∈ requests.map Event.request, Part answers event := by
  intro event member
  obtain ⟨request, _, rfl⟩ := List.mem_map.mp member
  trivial

theorem run_part (answers : LoopAnswers noncesSize sessionSize)
    (r after : LoRaWanRadio noncesSize sessionSize) (event : Event noncesSize sessionSize)
    (part : Part answers event)
    (reached : ∃ requests, after = run serve (r.step event) requests) :
    ∃ events, after = run step r events ∧ ∀ event ∈ events, Part answers event := by
  obtain ⟨requests, rfl⟩ := reached
  refine ⟨event :: requests.map .request, (run_requests _ requests).symm, ?_⟩
  exact List.forall_mem_cons.mpr ⟨part, part_requests answers requests⟩

theorem run_then (answers : LoopAnswers noncesSize sessionSize)
    {r middle after : LoRaWanRadio noncesSize sessionSize}
    (first : ∃ events, middle = run step r events ∧ ∀ event ∈ events, Part answers event)
    (second : ∃ events, after = run step middle events ∧ ∀ event ∈ events, Part answers event) :
    ∃ events, after = run step r events ∧ ∀ event ∈ events, Part answers event := by
  obtain ⟨before, rfl, former⟩ := first
  obtain ⟨rest, rfl, latter⟩ := second
  exact ⟨before ++ rest, (run_append step r before rest).symm,
    List.forall_mem_append.mpr ⟨former, latter⟩⟩

theorem classC_run {deliver : LoRaWanRadio noncesSize sessionSize → Received →
      LoRaWanRadio noncesSize sessionSize} (calls : Calls deliver)
    (answers : ClassCAnswers noncesSize sessionSize) (r : LoRaWanRadio noncesSize sessionSize) :
    ∃ requests, (if r.config.classC then pollClassCDownlink deliver answers r else r) =
      run serve (r.step (.classC answers)) requests := by
  rw [step]
  split
  · exact pollClassCDownlink_calls calls answers r
  · exact ⟨[], rfl⟩

theorem listen_run {deliver : LoRaWanRadio noncesSize sessionSize → Received →
      LoRaWanRadio noncesSize sessionSize} (calls : Calls deliver)
    (answers : LoopAnswers noncesSize sessionSize) (r : LoRaWanRadio noncesSize sessionSize)
    (ready : r.ready = true) (joined : r.joined = true) :
    ∃ events, listen deliver answers r = run step r events ∧
      ∀ event ∈ events, Part answers event := by
  have first := run_part answers r (if r.networkTimeSyncRequested then
      performNetworkTimeSync deliver answers.timeSync { r with networkTimeSyncRequested := false }
    else r) (.timeSync answers.timeSync) rfl
  refine run_then answers (first ?_) (run_part answers _ _ (.classC answers.classC) rfl ?_)
  · rw [step, ready, joined, Bool.and_true, Bool.true_and]
    split
    · exact performNetworkTimeSync_calls calls answers.timeSync _
    · exact ⟨[], rfl⟩
  · exact classC_run calls answers.classC _

theorem pass_run {deliver : LoRaWanRadio noncesSize sessionSize → Received →
      LoRaWanRadio noncesSize sessionSize} (calls : Calls deliver)
    (answers : LoopAnswers noncesSize sessionSize) (r : LoRaWanRadio noncesSize sessionSize)
    (ready : r.ready = true) :
    ∃ events, (if r.joined then listen deliver answers r
      else if !WrapClock.reached (WrapClock.stamp answers.nowMs) r.nextJoinAtMs then r
      else (r.tryJoin answers.join).1) = run step r events ∧
        ∀ event ∈ events, Part answers event := by
  cases joined : r.joined with
  | true =>
    rw [if_pos rfl]
    exact listen_run calls answers r ready joined
  | false =>
    rw [if_neg Bool.false_ne_true]
    refine run_part answers r _ (.join answers.nowMs answers.join) ⟨rfl, rfl⟩ ⟨[], ?_⟩
    rw [step, ready, joined, run_nil]
    cases WrapClock.reached (WrapClock.stamp answers.nowMs) r.nextJoinAtMs <;> rfl

/-- A pass of the loop is a run of its parts, with the calls that the handler makes between
them. -/
theorem loop_run {deliver : LoRaWanRadio noncesSize sessionSize → Received →
      LoRaWanRadio noncesSize sessionSize} (calls : Calls deliver)
    (answers : LoopAnswers noncesSize sessionSize) (r : LoRaWanRadio noncesSize sessionSize) :
    ∃ events, loop deliver answers r = run step r events ∧
      ∀ event ∈ events, Part answers event := by
  unfold loop
  cases ready : r.ready with
  | false => exact ⟨[], rfl, List.forall_mem_nil _⟩
  | true =>
    rw [Bool.not_true, if_neg Bool.false_ne_true]
    cases requested : r.rejoinRequested with
    | false => exact pass_run calls answers r ready
    | true =>
      have first : r.step (.rejoin answers.rejoin) = (r.rejoin answers.rejoin).1 := by
        rw [step, ready, requested]
        rfl
      refine run_then answers
        (run_part answers r _ (.rejoin answers.rejoin) rfl ⟨[], first.symm⟩) ?_
      have kept := rejoin_ready answers.rejoin r
      rw [if_pos rfl]
      generalize r.rejoin answers.rejoin = result at kept ⊢
      cases result with
      | mk after goes =>
        cases goes with
        | false => exact ⟨[], rfl, List.forall_mem_nil _⟩
        | true => exact pass_run calls answers after ((kept rfl).trans ready)

end LoRaWanRadio
end Lorawan
