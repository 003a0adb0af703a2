import MultibusGateway.Services.CommandSubscription
import MultibusGateway.Services.MqttEvents
import MultibusGateway.Services.MqttStates

/-! The loop of the MQTT service. It connects to the broker, and while it is connected it keeps
discovery in step, publishes the events, and publishes all states at a new connection and then at
regular times. Its parts run as they do on their own. -/

namespace Mqtt
open ByteString BinaryFloat Config Execution HomeAssistant
open Events (EventSeverity)

/-- What one pass of the loop is told by the network, the client and the channels, and the times at
which it reads the clock. -/
structure Pass where
  wifi : Bool
  clientConnected : Bool
  atMs : ℕ
  accepted : Bool := true
  refreshConnected : Bool := true
  discoveryOutcomes : List Bool := []
  eventsConnected : Bool := true
  eventOutcomes : List Bool := []
  read : Readings
  stateOutcomes : List Bool := []
  laterMs : ℕ
  inOrder : atMs ≤ laterMs

/-- The two times at which `begin` reads the clock. -/
structure BeginTimes where
  reconnectMs : ℕ
  publishMs : ℕ
  inOrder : reconnectMs ≤ publishMs

/-- What the broker is sent over a new connection, oldest first, beside discovery and the states. -/
inductive Greeting where
  | online (topic : Bytes)
  | subscribe (filter : Bytes)
  deriving DecidableEq

/-- The service with its parts. Beside them stand the time of the last pass, the times of the
attempts to connect, those at which the states were published, with whether the connection was new,
and what was sent over new connections, all oldest first. -/
structure MqttSession where
  discovery : HomeAssistant.MqttService
  events : Events.MqttService 32 := {}
  states : States := {}
  connected : Bool := false
  nextReconnectAtMs : UInt32 := 0
  nextPublishAtMs : UInt32 := 0
  nowMs : ℕ := 0
  attempts : List ℕ := []
  publications : List (ℕ × Bool) := []
  greetings : List Greeting := []

namespace MqttSession
variable (setup : Setup) (printed : Binary64 → Json)

def kReconnectIntervalMs : UInt32 := 5000

/-- Whether the service begins is beside the state; without MQTT there is nothing to do. -/
def begin (start : BeginTimes) (s : MqttSession) : MqttSession × Bool :=
  if !setup.config.valid then (s, false)
  else if !setup.config.enabled then (s, true)
  else if !validTopicPrefix (cStr setup.config.topicPrefix) ||
      !validDeviceId (cStr setup.deviceId) then (s, false)
  else
    ({ s with
        nextReconnectAtMs := WrapClock.stamp start.reconnectMs
        nextPublishAtMs := WrapClock.stamp start.publishMs
        nowMs := start.publishMs }, true)

def publishIntervalMs : UInt32 := setup.config.publishIntervalSeconds.toUInt32 * 1000

/-- All states are published, and the time of the next turn is set. -/
def publishAll (x : Pass) (fresh : Bool) (s : MqttSession) : MqttSession :=
  { s with
    states := ({ s.states with outcomes := x.stateOutcomes }).publishAll setup printed
      s.discovery.table.channels x.read
    nextPublishAtMs := WrapClock.stamp x.laterMs + publishIntervalMs setup
    publications := s.publications ++ [(x.laterMs, fresh)] }

def subscribeCommandTopics : List Greeting :=
  ((makeChannelCommandWildcard (cStr setup.config.topicPrefix) (cStr setup.deviceId) 192).map
    Greeting.subscribe).toList

/-- The results of the first messages are not looked at. -/
def connect (x : Pass) (s : MqttSession) : MqttSession :=
  if setup.config.host.isEmpty then s
  else
    match makeAvailabilityTopic (cStr setup.config.topicPrefix) (cStr setup.deviceId) 192 with
    | none => s
    | some statusTopic =>
      if !x.accepted then s
      else
        publishAll setup printed x true
          { s with
            connected := true
            greetings := s.greetings ++ .online statusTopic :: subscribeCommandTopics setup
            discovery := s.discovery.forgotten.refreshHomeAssistantDiscovery setup true
              x.refreshConnected x.discoveryOutcomes }

def loop (x : Pass) (s : MqttSession) : MqttSession :=
  if !setup.config.enabled then s
  else if !x.wifi then { s with connected := false }
  else if !x.clientConnected then
    let s := { s with connected := false }
    if !WrapClock.reached (WrapClock.stamp x.atMs) s.nextReconnectAtMs then s
    else
      connect setup printed x
        { s with
          nextReconnectAtMs := WrapClock.stamp x.atMs + kReconnectIntervalMs
          attempts := s.attempts ++ [x.atMs] }
  else
    let s :=
      { s with
        connected := true
        discovery := s.discovery.refreshHomeAssistantDiscovery setup false x.refreshConnected
          x.discoveryOutcomes
        events := s.events.publishPendingEvents x.eventsConnected x.eventOutcomes }
    if WrapClock.reached (WrapClock.stamp x.laterMs) s.nextPublishAtMs then
      publishAll setup printed x false s
    else s

end MqttSession

/-- What happens next: a pass of the loop, an event of the gateway, or a change of the channels. -/
inductive SessionEvent where
  | pass (x : Pass)
  | emit (source type : Bytes) (severity : EventSeverity) (timestampUnix : UInt32) (detail : Bytes)
  | change (table : ChannelTable)

namespace MqttSession
variable (setup : Setup) (printed : Binary64 → Json)

def step (s : MqttSession) : SessionEvent → MqttSession
  | .pass x => { loop setup printed x s with nowMs := x.laterMs }
  | .emit source type severity timestampUnix detail =>
    { s with events := s.events.emitEvent source type severity timestampUnix detail }
  | .change table => { s with discovery := { s.discovery with table := table } }

/-! What a pass does. -/

def tries (x : Pass) (s : MqttSession) : Bool :=
  setup.config.enabled && x.wifi && !x.clientConnected &&
    WrapClock.reached (WrapClock.stamp x.atMs) s.nextReconnectAtMs

def serves (x : Pass) : Bool := setup.config.enabled && x.wifi && x.clientConnected

def announces (x : Pass) : Option Bytes :=
  if setup.config.host.isEmpty || !x.accepted then none
  else makeAvailabilityTopic (cStr setup.config.topicPrefix) (cStr setup.deviceId) 192

/-- The ways of a pass: it waits, or tries to connect without success or with it, or serves the
connection, with the states or without. -/
inductive Passed (x : Pass) (s : MqttSession) : MqttSession → Prop where
  | waits (idle : tries setup x s = false) (away : serves setup x = false) (connected : Bool) :
    Passed x s { s with connected := connected }
  | fails (tried : tries setup x s = true) (refused : announces setup x = none) :
    Passed x s
      { s with
        connected := false
        nextReconnectAtMs := WrapClock.stamp x.atMs + kReconnectIntervalMs
        attempts := s.attempts ++ [x.atMs] }
  | connects (tried : tries setup x s = true) (topic : Bytes)
    (taken : announces setup x = some topic) :
    Passed x s (publishAll setup printed x true
      { s with
        connected := true
        nextReconnectAtMs := WrapClock.stamp x.atMs + kReconnectIntervalMs
        attempts := s.attempts ++ [x.atMs]
        greetings := s.greetings ++ .online topic :: subscribeCommandTopics setup
        discovery := s.discovery.forgotten.refreshHomeAssistantDiscovery setup true
          x.refreshConnected x.discoveryOutcomes })
  | serves (present : serves setup x = true)
    (early : WrapClock.reached (WrapClock.stamp x.laterMs) s.nextPublishAtMs = false) :
    Passed x s
      { s with
        connected := true
        discovery := s.discovery.refreshHomeAssistantDiscovery setup false x.refreshConnected
          x.discoveryOutcomes
        events := s.events.publishPendingEvents x.eventsConnected x.eventOutcomes }
  | publishes (present : serves setup x = true)
    (due : WrapClock.reached (WrapClock.stamp x.laterMs) s.nextPublishAtMs = true) :
    Passed x s (publishAll setup printed x false
      { s with
        connected := true
        discovery := s.discovery.refreshHomeAssistantDiscovery setup false x.refreshConnected
          x.discoveryOutcomes
        events := s.events.publishPendingEvents x.eventsConnected x.eventOutcomes })

theorem passed (x : Pass) (s : MqttSession) :
    Passed setup printed x s (loop setup printed x s) := by
  unfold loop
  cases enabled : setup.config.enabled with
  | false => exact .waits (by simp [tries, enabled]) (by simp [serves, enabled]) s.connected
  | true =>
    cases wifi : x.wifi with
    | false => exact .waits (by simp [tries, wifi]) (by simp [serves, wifi]) false
    | true =>
      cases client : x.clientConnected with
      | false =>
        cases due : WrapClock.reached (WrapClock.stamp x.atMs) s.nextReconnectAtMs with
        | false =>
          simp only [Bool.not_true, Bool.false_eq_true, if_false, Bool.not_false, if_true, due]
          exact .waits (by simp [tries, due]) (by simp [serves, client]) false
        | true =>
          have tried : tries setup x s = true := by simp [tries, enabled, wifi, client, due]
          simp only [Bool.not_true, Bool.false_eq_true, if_false, Bool.not_false, if_true, due]
          unfold connect
          cases host : setup.config.host.isEmpty with
          | true => exact .fails tried (by simp [announces, host])
          | false =>
            simp only [Bool.false_eq_true, if_false]
            cases made : makeAvailabilityTopic (cStr setup.config.topicPrefix)
              (cStr setup.deviceId) 192 with
            | none => exact .fails tried (by simp [announces, made])
            | some topic =>
              cases accepted : x.accepted with
              | false => exact .fails tried (by simp [announces, accepted])
              | true => exact .connects tried topic (by simp [announces, host, accepted, made])
      | true =>
        have present : serves setup x = true := by simp [serves, enabled, wifi, client]
        simp only [Bool.not_true, Bool.false_eq_true, if_false]
        split
        · rename_i due
          exact .publishes present due
        · rename_i early
          exact .serves present (Bool.eq_false_iff.mpr early)

/-! The times. -/

def reconnectDueMs (start : BeginTimes) (s : MqttSession) : ℕ :=
  (s.attempts.getLast?.map (· + 5000)).getD start.reconnectMs

def publishDueMs (start : BeginTimes) (s : MqttSession) : ℕ :=
  (s.publications.getLast?.map fun last =>
    last.1 + setup.config.publishIntervalSeconds.toNat * 1000).getD start.publishMs

/-- Attempts are five seconds apart, and publications of all states as far as the configuration
says, unless the connection is new. The timers show when the next ones are due. -/
structure Paced (start : BeginTimes) (s : MqttSession) : Prop where
  started : start.publishMs ≤ s.nowMs
  reconnect : s.nextReconnectAtMs = WrapClock.stamp (reconnectDueMs start s)
  publish : s.nextPublishAtMs = WrapClock.stamp (publishDueMs setup start s)
  tried : ∀ time ∈ s.attempts, time ≤ s.nowMs
  published : ∀ publication ∈ s.publications, publication.1 ≤ s.nowMs
  attempts : s.attempts.IsChain fun first next => first + 5000 ≤ next
  publications : s.publications.IsChain fun first next =>
    next.2 = true ∨ first.1 + setup.config.publishIntervalSeconds.toNat * 1000 ≤ next.1

theorem stamp_publishInterval (t : ℕ) :
    WrapClock.stamp t + publishIntervalMs setup =
      WrapClock.stamp (t + setup.config.publishIntervalSeconds.toNat * 1000) := by
  have small := setup.config.publishIntervalSeconds.toNat_lt
  have size : (publishIntervalMs setup).toNat =
      setup.config.publishIntervalSeconds.toNat * 1000 := by
    rw [publishIntervalMs, UInt32.toNat_mul, UInt16.toNat_toUInt32]
    simp
    omega
  rw [← size, WrapClock.stamp_add_toNat]

section
variable {setup : Setup} {start : BeginTimes} {s : MqttSession}

theorem Paced.reconnectDue_le (paced : Paced setup start s) :
    reconnectDueMs start s ≤ s.nowMs + 5000 := by
  rw [reconnectDueMs]
  cases last : s.attempts.getLast? with
  | none => exact (start.inOrder.trans paced.started).trans (Nat.le_add_right _ _)
  | some time =>
    have early := paced.tried time (List.mem_of_getLast? last)
    simpa using early

theorem Paced.publishDue_le (paced : Paced setup start s) :
    publishDueMs setup start s ≤ s.nowMs + 65536000 := by
  have small := setup.config.publishIntervalSeconds.toNat_lt
  rw [publishDueMs]
  cases last : s.publications.getLast? with
  | none => exact paced.started.trans (Nat.le_add_right _ _)
  | some publication =>
    have early := paced.published publication (List.mem_of_getLast? last)
    simp only [Option.map_some, Option.getD_some]
    omega

/-- A pass tries to connect exactly when it has no connection and an attempt is due. -/
theorem Paced.tries_iff (paced : Paced setup start s) (x : Pass) (later : s.nowMs ≤ x.atMs) :
    tries setup x s = true ↔
      (setup.config.enabled = true ∧ x.wifi = true ∧ x.clientConnected = false) ∧
      reconnectDueMs start s ≤ x.atMs ∧
      (x.atMs - reconnectDueMs start s) % 2 ^ 32 < 2 ^ 31 := by
  have due := paced.reconnectDue_le
  rw [tries, paced.reconnect, Bool.and_eq_true,
    WrapClock.reached_near x.atMs _ (by omega)]
  simp only [Bool.and_eq_true, Bool.not_eq_true', and_assoc]

theorem Paced.due_iff (paced : Paced setup start s) (x : Pass) (later : s.nowMs ≤ x.atMs) :
    WrapClock.reached (WrapClock.stamp x.laterMs) s.nextPublishAtMs = true ↔
      publishDueMs setup start s ≤ x.laterMs ∧
      (x.laterMs - publishDueMs setup start s) % 2 ^ 32 < 2 ^ 31 := by
  have due := paced.publishDue_le
  have inOrder := x.inOrder
  rw [paced.publish, WrapClock.reached_near x.laterMs _ (by omega)]

theorem Paced.attempt (paced : Paced setup start s) (x : Pass) (later : s.nowMs ≤ x.atMs)
    (tried : tries setup x s = true) (connected : Bool) (greetings : List Greeting)
    (discovery : HomeAssistant.MqttService) :
    Paced setup start
      { s with
        connected := connected
        nextReconnectAtMs := WrapClock.stamp x.atMs + kReconnectIntervalMs
        attempts := s.attempts ++ [x.atMs]
        greetings := greetings
        discovery := discovery
        nowMs := x.atMs } := by
  obtain ⟨-, due, -⟩ := (paced.tries_iff x later).mp tried
  obtain ⟨started, reconnect, publish, tries_, published, attempts, publications⟩ := paced
  refine ⟨started.trans later, ?_, publish, ?_, ?_, ?_, publications⟩
  · rw [reconnectDueMs, List.getLast?_concat]
    exact (WrapClock.stamp_add_toNat x.atMs kReconnectIntervalMs).symm
  · intro time member
    rcases List.mem_append.mp member with early | last
    · exact (tries_ time early).trans later
    · exact (List.mem_singleton.mp last).le
  · intro publication member
    exact (published publication member).trans later
  · refine List.isChain_append.mpr ⟨attempts, List.isChain_singleton _, ?_⟩
    intro first last next head
    rw [reconnectDueMs, last] at due
    obtain rfl := Option.some.inj head
    exact due

theorem Paced.publishAll (paced : Paced setup start s) (printed : Binary64 → Json) (x : Pass)
    (fresh : Bool) (later : s.nowMs ≤ x.laterMs)
    (due : fresh = true ∨ publishDueMs setup start s ≤ x.laterMs) :
    Paced setup start
      { MqttSession.publishAll setup printed x fresh s with nowMs := x.laterMs } := by
  obtain ⟨started, reconnect, publish, tries_, published, attempts, publications⟩ := paced
  refine ⟨started.trans later, reconnect, ?_, ?_, ?_, attempts, ?_⟩
  · rw [publishDueMs, MqttSession.publishAll]
    dsimp only
    rw [List.getLast?_concat]
    exact stamp_publishInterval setup x.laterMs
  · intro time member
    exact (tries_ time member).trans later
  · intro publication member
    rcases List.mem_append.mp member with early | last
    · exact (published publication early).trans later
    · rw [List.mem_singleton.mp last]
  · refine List.isChain_append.mpr ⟨publications, List.isChain_singleton _, ?_⟩
    intro first last next head
    obtain rfl := Option.some.inj head
    refine due.imp id fun due => ?_
    rw [publishDueMs, last] at due
    exact due

theorem Paced.later (paced : Paced setup start s) (nowMs : ℕ) (later : s.nowMs ≤ nowMs)
    (connected : Bool) (discovery : HomeAssistant.MqttService) (events : Events.MqttService 32) :
    Paced setup start
      { s with
        connected := connected
        discovery := discovery
        events := events
        nowMs := nowMs } := by
  obtain ⟨started, reconnect, publish, tries_, published, attempts, publications⟩ := paced
  exact ⟨started.trans later, reconnect, publish, fun time member => (tries_ time member).trans later,
    fun publication member => (published publication member).trans later, attempts, publications⟩

theorem Paced.pass (paced : Paced setup start s) (printed : Binary64 → Json) (x : Pass)
    (later : s.nowMs ≤ x.atMs) : Paced setup start (step setup printed s (.pass x)) := by
  have whole := later.trans x.inOrder
  have due := paced.due_iff x later
  have done := passed setup printed x s
  rw [step]
  generalize loop setup printed x s = after at done ⊢
  cases done with
  | waits idle away connected => exact paced.later x.laterMs whole connected _ _
  | fails tried refused =>
    exact (paced.attempt x later tried false s.greetings s.discovery).later x.laterMs x.inOrder
      false _ _
  | connects tried topic taken =>
    exact (paced.attempt x later tried true _ _).publishAll printed x true x.inOrder (Or.inl rfl)
  | serves present early => exact paced.later x.laterMs whole true _ _
  | publishes present reached =>
    exact (paced.later s.nowMs le_rfl true _ _).publishAll printed x false whole
      (Or.inr (due.mp reached).1)

end

/-! Runs. -/

def Shows (nowMs dueMs : ℕ) : Prop := dueMs ≤ nowMs ∧ (nowMs - dueMs) % 2 ^ 32 < 2 ^ 31

instance (nowMs dueMs : ℕ) : Decidable (Shows nowMs dueMs) :=
  inferInstanceAs (Decidable (_ ∧ _))

def Attempts (start : BeginTimes) (s : MqttSession) (x : Pass) : Prop :=
  x.wifi = true ∧ x.clientConnected = false ∧ Shows x.atMs (reconnectDueMs start s)

instance (start : BeginTimes) (s : MqttSession) (x : Pass) : Decidable (Attempts start s x) :=
  inferInstanceAs (Decidable (_ ∧ _))

/-- The pass connects, or finds the connection standing and the states due. -/
def Publishes (start : BeginTimes) (s : MqttSession) (x : Pass) : Prop :=
  if Attempts start s x then (announces setup x).isSome = true
  else x.wifi = true ∧ x.clientConnected = true ∧ Shows x.laterMs (publishDueMs setup start s)

instance (start : BeginTimes) (s : MqttSession) (x : Pass) :
    Decidable (Publishes setup start s x) :=
  inferInstanceAs (Decidable (if Attempts start s x then _ = true else _ ∧ _ ∧ Shows _ _))

section
variable {setup : Setup} {start : BeginTimes} {s : MqttSession} {x : Pass}

theorem publishes_of_attempt (attempt : Attempts start s x) :
    Publishes setup start s x ↔ (announces setup x).isSome = true := by
  rw [Publishes, if_pos attempt]

theorem publishes_of_no_attempt (none : ¬ Attempts start s x) :
    Publishes setup start s x ↔
      x.wifi = true ∧ x.clientConnected = true ∧ Shows x.laterMs (publishDueMs setup start s) := by
  rw [Publishes, if_neg none]

end

/-- What the pass does at its time: an attempt, and after one that was taken the first messages and
all states; and over a connection that stands all states, when they are due. All states are those
of the enabled channels with a valid reading. -/
structure OnTime (start : BeginTimes) (s : MqttSession) (x : Pass) (after : MqttSession) :
    Prop where
  attempts : after.attempts = s.attempts ++ if Attempts start s x then [x.atMs] else []
  greetings : after.greetings = s.greetings ++
    if Attempts start s x then
      ((announces setup x).map fun topic => .online topic :: subscribeCommandTopics setup).getD []
    else []
  publications : after.publications = s.publications ++
    if Attempts start s x then ((announces setup x).map fun _ => (x.laterMs, true)).toList
    else if x.wifi = true ∧ x.clientConnected = true ∧
        Shows x.laterMs (publishDueMs setup start s) then [(x.laterMs, false)]
    else []
  states : after.states.tried.map Prod.fst = s.states.tried.map Prod.fst ++
    if Publishes setup start s x then States.readable s.discovery.table.channels x.read else []

def Forwards (s : MqttSession) : SessionEvent → Prop
  | .pass x => s.nowMs ≤ x.atMs
  | _ => True

section
variable {setup : Setup} {start : BeginTimes} {s : MqttSession}

theorem Paced.onTime (paced : Paced setup start s) (printed : Binary64 → Json)
    (enabled : setup.config.enabled = true) (x : Pass) (later : s.nowMs ≤ x.atMs) :
    OnTime setup start s x (step setup printed s (.pass x)) := by
  have attempts : tries setup x s = true ↔ Attempts start s x := by
    rw [paced.tries_iff x later, enabled]
    simp only [Attempts, Shows, true_and, and_assoc]
  have due := paced.due_iff x later
  have done := passed setup printed x s
  rw [step]
  generalize loop setup printed x s = after at done ⊢
  cases done with
  | waits idle away connected =>
    have none : ¬ Attempts start s x := fun tried =>
      Bool.false_ne_true (idle.symm.trans (attempts.mpr tried))
    have absent : ¬ (x.wifi = true ∧ x.clientConnected = true ∧
        Shows x.laterMs (publishDueMs setup start s)) := by
      rintro ⟨wifi, client, -⟩
      simp [serves, enabled, wifi, client] at away
    constructor
    · rw [if_neg none, List.append_nil]
    · rw [if_neg none, List.append_nil]
    · rw [if_neg none, if_neg absent, List.append_nil]
    · rw [if_neg (mt (publishes_of_no_attempt none).mp absent), List.append_nil]
  | fails tried refused =>
    have some_ := attempts.mp tried
    constructor
    · rw [if_pos some_]
    · rw [if_pos some_, refused, Option.map_none, Option.getD_none, List.append_nil]
    · rw [if_pos some_, refused, Option.map_none, Option.toList_none, List.append_nil]
    · have silent : ¬ Publishes setup start s x := by
        rw [publishes_of_attempt some_, refused]
        exact Bool.false_ne_true
      rw [if_neg silent, List.append_nil]
  | connects tried topic taken =>
    have some_ := attempts.mp tried
    constructor
    · rw [if_pos some_]
      rfl
    · rw [if_pos some_, taken]
      rfl
    · rw [if_pos some_, taken]
      rfl
    · have publishes : Publishes setup start s x := by
        rw [publishes_of_attempt some_, taken]
        rfl
      rw [if_pos publishes, MqttSession.publishAll]
      refine (States.publishAll_tried setup printed _ x.read _).trans ?_
      rw [HomeAssistant.MqttService.refresh_table]
      rfl
  | serves present early =>
    simp only [serves, enabled, Bool.true_and, Bool.and_eq_true] at present
    have none : ¬ Attempts start s x := by
      rintro ⟨-, client, -⟩
      exact Bool.false_ne_true (client.symm.trans present.2)
    have undue : ¬ (x.wifi = true ∧ x.clientConnected = true ∧
        Shows x.laterMs (publishDueMs setup start s)) := by
      rintro ⟨-, -, shows⟩
      exact Bool.false_ne_true (early.symm.trans (due.mpr shows))
    constructor
    · rw [if_neg none, List.append_nil]
    · rw [if_neg none, List.append_nil]
    · rw [if_neg none, if_neg undue, List.append_nil]
    · rw [if_neg (mt (publishes_of_no_attempt none).mp undue), List.append_nil]
  | publishes present reached =>
    simp only [serves, enabled, Bool.true_and, Bool.and_eq_true] at present
    have none : ¬ Attempts start s x := by
      rintro ⟨-, client, -⟩
      exact Bool.false_ne_true (client.symm.trans present.2)
    have shows : x.wifi = true ∧ x.clientConnected = true ∧
        Shows x.laterMs (publishDueMs setup start s) := ⟨present.1, present.2, due.mp reached⟩
    constructor
    · rw [if_neg none, List.append_nil]
      rfl
    · rw [if_neg none, List.append_nil]
      rfl
    · rw [if_neg none, if_pos shows]
      rfl
    · rw [if_pos ((publishes_of_no_attempt none).mpr shows), MqttSession.publishAll]
      refine (States.publishAll_tried setup printed _ x.read _).trans ?_
      rw [HomeAssistant.MqttService.refresh_table]

theorem Paced.step (paced : Paced setup start s) (printed : Binary64 → Json)
    (event : SessionEvent) (forwards : Forwards s event) :
    Paced setup start (MqttSession.step setup printed s event) := by
  cases event with
  | pass x => exact paced.pass printed x forwards
  | emit => exact paced.later s.nowMs le_rfl s.connected _ _
  | change => exact paced.later s.nowMs le_rfl s.connected _ _

end

/-- The service keeps its times, over every run in which the clock goes forwards. Attempts to
connect are at least five seconds apart; all states are published over every new connection and then
no sooner than configured; and every pass does what is due, unless the deadline lies so far back
that it shows as one to come. -/
theorem session_paced (start : BeginTimes) (s : MqttSession) (events : List SessionEvent)
    (enabled : setup.config.enabled = true) (begun : (begin setup start s).2 = true)
    (fresh : s.attempts = [] ∧ s.publications = [])
    (forwards : Always (step setup printed) Forwards (begin setup start s).1 events) :
    let after := run (step setup printed) (begin setup start s).1 events
    (after.attempts.IsChain fun first next => first + 5000 ≤ next) ∧
    (after.publications.IsChain fun first next =>
      next.2 = true ∨ first.1 + setup.config.publishIntervalSeconds.toNat * 1000 ≤ next.1) ∧
    Always (step setup printed) (fun s event => ∀ x, event = .pass x →
      OnTime setup start s x (step setup printed s event)) (begin setup start s).1 events := by
  have initial : Paced setup start (begin setup start s).1 := by
    unfold begin at begun ⊢
    split at begun
    · cases begun
    · split at begun
      · rename_i off
        rw [enabled] at off
        cases off
      · split at begun
        · cases begun
        · rename_i valid on named
          rw [if_neg valid, if_neg on, if_neg named]
          obtain ⟨attempts, publications⟩ := fresh
          exact
            { started := le_rfl
              reconnect := by simp [reconnectDueMs, attempts]
              publish := by simp [publishDueMs, publications]
              tried := by simp [attempts]
              published := by simp [publications]
              attempts := by simp [attempts]
              publications := by simp [publications] }
  have steps := invariant_steps (step setup printed) (Paced setup start) Forwards
    (fun s event paced forwards => paced.step printed event forwards) _ events initial forwards
  have last := invariant_run (step setup printed) (Paced setup start) Forwards
    (fun s event paced forwards => paced.step printed event forwards) _ events initial forwards
  refine ⟨last.attempts, last.publications, ?_⟩
  refine (steps.and _ forwards).mono _ fun s event both x same => ?_
  obtain ⟨paced, forwards⟩ := both
  rw [same] at forwards ⊢
  exact paced.onTime printed enabled x forwards

def firstBegin : BeginTimes := ⟨0, 1, by decide⟩

def connectingPass : Pass where
  wifi := true
  clientConnected := false
  atMs := 10
  laterMs := 20
  read := fun _ => none
  inOrder := by decide

def connectedPass : Pass where
  wifi := true
  clientConnected := true
  atMs := 30030
  laterMs := 30031
  read := fun _ => none
  inOrder := by decide

def firstPasses : List SessionEvent := [.pass connectingPass, .pass connectedPass]

def firstSession : MqttSession where
  discovery :=
    { table :=
        { channels := [{ channelId := 1, sourceId := ascii "modbus", pointId := ascii "compat/1" }]
          describe := fun _ => some { type := .boolean }
          distinct := by decide
          few := by decide } }

theorem session_paced_connected :
    let after := run (step coilSetup fun _ => .null)
      (begin coilSetup firstBegin firstSession).1 firstPasses
    after.publications = [(20, true), (30031, false)] ∧
    (after.publications.IsChain fun first next =>
      next.2 = true ∨ first.1 + coilSetup.config.publishIntervalSeconds.toNat * 1000 ≤ next.1) := by
  obtain ⟨-, spaced, -⟩ := session_paced coilSetup (fun _ => .null) firstBegin firstSession
    firstPasses rfl (by decide +kernel) ⟨rfl, rfl⟩ (by simp [firstPasses, Forwards, step]; decide +kernel)
  exact ⟨by decide +kernel, spaced⟩

/-! The parts. -/

def discoveryEvents (s : MqttSession) : SessionEvent → List DiscoveryEvent
  | .pass x =>
    if tries setup x s then
      if (announces setup x).isSome then [.connect x.refreshConnected x.discoveryOutcomes] else []
    else if serves setup x then [.refresh false x.refreshConnected x.discoveryOutcomes]
    else []
  | .emit _ _ _ _ _ => []
  | .change table => [.change table]

def eventSteps (s : MqttSession) : SessionEvent → List Events.EventStep
  | .pass x =>
    if tries setup x s then []
    else if serves setup x then [.publish x.eventsConnected x.eventOutcomes]
    else []
  | .emit source type severity timestampUnix detail =>
    [.emit source type severity timestampUnix detail]
  | .change _ => []

theorem not_tries_of_serves {x : Pass} (s : MqttSession) (present : serves setup x = true) :
    tries setup x s = false := by
  simp only [serves, Bool.and_eq_true] at present
  simp [tries, present.2]

theorem discovery_step (s : MqttSession) (event : SessionEvent) :
    (step setup printed s event).discovery =
      run (HomeAssistant.MqttService.step setup) s.discovery (discoveryEvents setup s event) := by
  cases event with
  | emit => rfl
  | change => rfl
  | pass x =>
    have done := passed setup printed x s
    rw [step, discoveryEvents]
    generalize loop setup printed x s = after at done ⊢
    cases done with
    | waits idle away connected =>
      rw [idle, away]
      rfl
    | fails tried refused =>
      rw [tried, refused]
      rfl
    | connects tried topic taken =>
      rw [tried, taken]
      rfl
    | serves present early =>
      rw [not_tries_of_serves setup s present, present]
      rfl
    | publishes present reached =>
      rw [not_tries_of_serves setup s present, present]
      rfl

theorem events_step (s : MqttSession) (event : SessionEvent) :
    (step setup printed s event).events =
      run Events.MqttService.step s.events (eventSteps setup s event) := by
  cases event with
  | emit => rfl
  | change => rfl
  | pass x =>
    have done := passed setup printed x s
    rw [step, eventSteps]
    generalize loop setup printed x s = after at done ⊢
    cases done with
    | waits idle away connected =>
      rw [idle, away]
      rfl
    | fails tried refused =>
      rw [tried]
      rfl
    | connects tried topic taken =>
      rw [tried]
      rfl
    | serves present early =>
      rw [not_tries_of_serves setup s present, present]
      rfl
    | publishes present reached =>
      rw [not_tries_of_serves setup s present, present]
      rfl

theorem recorded_step (before : Bytes → Option Bytes) (s : MqttSession) (event : SessionEvent)
    (recorded : Recorded setup printed before s.states) :
    Recorded setup printed before (step setup printed s event).states := by
  have published (x : Pass) (channels : List ChannelBinding) :
      Recorded setup printed before
        (({ s.states with outcomes := x.stateOutcomes }).publishAll setup printed channels
          x.read) :=
    recorded_publishAll setup printed before { s.states with outcomes := x.stateOutcomes }
      ⟨recorded.publishes, recorded.failures, recorded.retained⟩ channels x.read
  cases event with
  | emit => exact recorded
  | change => exact recorded
  | pass x =>
    have done := passed setup printed x s
    rw [step]
    generalize loop setup printed x s = after at done ⊢
    cases done with
    | waits idle away connected => exact recorded
    | fails tried refused => exact recorded
    | connects tried topic taken => exact published x _
    | serves present early => exact recorded
    | publishes present reached => exact published x _

/-- The service is its parts. In every run discovery goes through what it goes through on its own,
over the connections, refreshes and changes of the run, and so do the events; the counters say how
many states were taken and how many were not; and the topic of every channel has the last state of
the channel that was taken, or what was there before. -/
theorem session_composed (s : MqttSession) (events : List SessionEvent)
    (fresh : s.states.tried = [] ∧ s.states.publishes = 0 ∧ s.states.publishFailures = 0) :
    let after := run (step setup printed) s events
    after.discovery = run (HomeAssistant.MqttService.step setup) s.discovery
        ((steps (step setup printed) s events).flatMap fun v => discoveryEvents setup v.1 v.2) ∧
    after.events = run Events.MqttService.step s.events
        ((steps (step setup printed) s events).flatMap fun v => eventSteps setup v.1 v.2) ∧
    after.states.publishes = UInt32.ofNat (after.states.tried.countP fun item => item.2) ∧
    after.states.publishFailures = UInt32.ofNat (after.states.tried.countP fun item => !item.2) ∧
    (setup.config.retainState = true → ∀ channelId topic,
      States.stateTopic setup channelId = some topic →
        after.states.retained topic =
          ((lastTaken channelId after.states.tried).map fun last =>
            some (States.statePayload setup printed last.1 last.2)).getD
              (s.states.retained topic)) := by
  obtain ⟨tried, publishes, failures⟩ := fresh
  have start : Recorded setup printed s.states.retained s.states :=
    ⟨by rw [publishes, tried]; rfl, by rw [failures, tried]; rfl, by rw [tried]; rfl⟩
  have recorded := invariant_run (step setup printed)
    (fun s' => Recorded setup printed s.states.retained s'.states) (fun _ _ => True)
    (fun s' event recorded _ => recorded_step setup printed _ s' event recorded) s events start
    fun _ _ => trivial
  exact ⟨projected_run (step setup printed) _ discovery _ (discovery_step setup printed) s events,
    projected_run (step setup printed) _ MqttSession.events _ (events_step setup printed) s events,
    recorded.publishes, recorded.failures,
    fun retain channelId topic made =>
      recorded.retained_last setup printed retain channelId topic made⟩

theorem session_composed_connected :
    let after := run (step coilSetup fun _ => .null)
      (begin coilSetup firstBegin firstSession).1 firstPasses
    after.states.publishes = UInt32.ofNat (after.states.tried.countP fun item => item.2) ∧
    after.discovery = run (HomeAssistant.MqttService.step coilSetup)
      (begin coilSetup firstBegin firstSession).1.discovery
      ((steps (step coilSetup fun _ => .null) (begin coilSetup firstBegin firstSession).1
        firstPasses).flatMap fun v => discoveryEvents coilSetup v.1 v.2) := by
  obtain ⟨discovery, -, publishes, -⟩ := session_composed coilSetup (fun _ => .null)
    (begin coilSetup firstBegin firstSession).1 firstPasses (by decide +kernel)
  exact ⟨publishes, discovery⟩

end MqttSession

end Mqtt
