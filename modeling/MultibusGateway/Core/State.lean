import MultibusGateway.Core.Stores
import MultibusGateway.Library.Reentrancy
import MultibusGateway.Lorawan.ReportScheduler
import MultibusGateway.Modbus.Component
import MultibusGateway.Rules.Schedule

/-! The state of the application, and the sending of an uplink. A downlink that the network
answers with is handled before `send` returns, over the state as it is at that moment.

The logs are ghosts. They hold what the subsystems have done, oldest first, and nothing
reads them. -/

namespace Application
open ByteString Modbus Lorawan Reentrancy

/-- True time in microseconds since boot, and the Unix time of the boot. -/
structure Clock where
  uptimeUs : Nat := 0
  unixOffset : Int := 0
  deriving DecidableEq, Inhabited

namespace Clock

def millis (clock : Clock) : UInt32 := WrapClock.stamp (clock.uptimeUs / 1000)

def uptimeMs (clock : Clock) : Nat := clock.uptimeUs / 1000

def micros (clock : Clock) : UInt32 := WrapClock.stamp clock.uptimeUs

def unixNow (clock : Clock) : Int := clock.unixOffset + clock.uptimeUs / 1000000

def advance (us : Nat) (clock : Clock) : Clock := { clock with uptimeUs := clock.uptimeUs + us }

end Clock

inductive LoRaMode where
  | disabled | lorawan | meshtastic
  deriving DecidableEq, Inhabited

/-- The parts of the device configuration that the modelled functions read. -/
structure DeviceConfig where
  modbus : ModbusMode := .master
  lora : LoRaMode := .lorawan
  classC : Bool := false
  hardwareMac48 : Vector UInt8 6 := Vector.replicate _ 0

structure Downlink where
  fport : UInt8
  payload : Bytes
  deriving DecidableEq, Inhabited

abbrev Deliver (State : Type) := Handler State Downlink

/-- The end of an exchange with the network: done, or failed with the session lost or kept. -/
inductive ExchangeState where
  | done | sessionLost | failed
  deriving DecidableEq, Inhabited

/-- One exchange with the network: how long it takes, whether the session is saved (and
cleared, when it is lost), and the downlink received with it. -/
structure Exchange where
  elapsedUs : Nat := 0
  sessionSaved : Bool := true
  state : ExchangeState := .done
  sessionCleared : Bool := true
  downlink : Option Downlink := none
  deriving Inhabited

structure Radio where
  active : Bool := true
  provisioned : Bool := true
  radioReady : Bool := true
  joined : Bool := true
  persistenceHealthy : Bool := true
  rejoinRequested : Bool := false
  networkTimeSyncRequested : Bool := false
  nextJoinAtMs : UInt32 := 0
  /-- The exchanges to come; without one an uplink fails. -/
  exchanges : List Exchange := []

namespace Radio

def kJoinRetryMs : UInt32 := 60000

def connected (radio : Radio) : Bool := radio.active && radio.joined

def requestRejoin (radio : Radio) : Radio × Bool :=
  if !radio.active || !radio.radioReady || !radio.provisioned || !radio.persistenceHealthy then
    (radio, false)
  else ({ radio with rejoinRequested := true }, true)

def requestNetworkTimeSync (radio : Radio) : Radio × Bool :=
  if !radio.active || !radio.joined || !radio.persistenceHealthy then (radio, false)
  else ({ radio with networkTimeSyncRequested := true }, true)

def accepts (radio : Radio) (endpoint : UInt8) (payload : Bytes) : Bool :=
  radio.active && radio.joined && radio.persistenceHealthy && payload.length != 0 &&
    endpoint != 0 && endpoint ≤ 223 && payload.length ≤ 242

def conclude (exchange : Exchange) (nowMs : UInt32) (radio : Radio) : Radio :=
  if !exchange.sessionSaved then { radio with persistenceHealthy := false }
  else if exchange.state = .sessionLost then
    if exchange.sessionCleared then
      { radio with joined := false, nextJoinAtMs := nowMs + kJoinRetryMs }
    else { radio with joined := false, persistenceHealthy := false }
  else radio

end Radio

/-! Channel bindings. -/

structure ChannelBinding where
  channelId : UInt16 := 0
  sourceId : String := ""
  pointId : String := ""
  enabled : Bool := true
  writable : Bool := false
  compatibilityMapped : Bool := false
  compatibilitySlot : UInt8 := 0
  deriving DecidableEq

structure ChannelRegistry where
  channels : List ChannelBinding := []

namespace ChannelRegistry

def replace (binding : ChannelBinding) : List ChannelBinding → List ChannelBinding
  | [] => [binding]
  | current :: rest =>
    if current.channelId == binding.channelId then binding :: rest
    else current :: replace binding rest

def upsert (binding : ChannelBinding) (registry : ChannelRegistry) : ChannelRegistry × Bool :=
  if binding.channelId == 0 || binding.sourceId.isEmpty || binding.pointId.isEmpty then
    (registry, false)
  else if binding.compatibilityMapped && binding.compatibilitySlot ≥ kCompatibilitySlotCount then
    (registry, false)
  else if binding.compatibilityMapped && registry.channels.any (fun current =>
      current.compatibilityMapped && current.compatibilitySlot == binding.compatibilitySlot &&
        current.channelId != binding.channelId) then (registry, false)
  else (⟨replace binding registry.channels⟩, true)

def removeCompatibilitySlot (slot : UInt8) (registry : ChannelRegistry) : ChannelRegistry :=
  ⟨registry.channels.eraseP fun current =>
    current.compatibilityMapped && current.compatibilitySlot == slot⟩

end ChannelRegistry

/-! The rules at work. -/

inductive ScheduleEvent where
  /-- An action was scheduled in a slot, or the attempt left the slot empty. -/
  | scheduled (slot : Nat) (pending : Bool)
  | takenUp (slot : Nat)
  | completed (slot : Nat)
  /-- An entry was cancelled, with its rule enabled or not at that moment. -/
  | cancelled (slot : Nat) (enabled : Bool)
  deriving DecidableEq

structure RuleEngine where
  state : Rules.RuleState := {}
  schedule : Rules.Schedule := {}
  lastMinuteKey : Nat → UInt32 := fun _ => 0
  channelRuntime : Nat → Rules.ChannelConditionRuntime := fun _ => {}
  bootEvaluationPending : Bool := false
  /-- The events that tell of a trigger or a release: the rule, and whether it was a release. -/
  triggered : List (UInt8 × Bool) := []
  log : List ScheduleEvent := []

inductive ReplyEvent where
  | staged (frame : Rules.StoredFrame)
  /-- An enquiry puts its frames in the place of the whole queue. -/
  | restaged (frames : List Rules.StoredFrame)
  | sent (frame : Rules.StoredFrame)

structure RuleReplies where
  frames : List Rules.StoredFrame := []
  cursor : Nat := 0
  log : List ReplyEvent := []

/-! The history at work. -/

structure HistoryLog where
  settings : History.Settings := {}
  ring : History.Ring := default
  samples : Nat → Option Sample := fun _ => none
  nextSnapshotAtMs : UInt32 := 0
  /-- The uptime in milliseconds that the next snapshot has been set for, a ghost. -/
  snapshotDueMs : Nat := 0

/-- A marker is set, and a snapshot taken, with the records that are in the ring then. -/
inductive RetransmissionEvent where
  | marked (lostAtUnix : UInt32) (ring : List History.HistoricalRecord)
  /-- The connection is back, and a new snapshot is due. -/
  | restarted
  | snapshot (ring : List History.HistoricalRecord)
  | sent (records : List History.HistoricalRecord)
  | cleared
  /-- The marker is given up because the history or its retransmission is switched off. -/
  | abandoned

structure Retransmission where
  state : History.RetransmissionState := {}
  snapshot : History.Ring := default
  cursor : Nat := 0
  cursorInitialized : Bool := false
  nextAtMs : UInt32 := 0
  networkStateInitialized : Bool := false
  wasConnected : Bool := false
  log : List RetransmissionEvent := []

inductive QueryEvent where
  /-- The reply that accepts a query has been sent. -/
  | accepted (records : List History.HistoricalRecord)
  | sent (records : List History.HistoricalRecord)
  | finished
  /-- A stop, or any new query, ends the query before it. -/
  | closed

structure HistoryQuery where
  records : List History.HistoricalRecord := []
  cursor : Nat := 0
  active : Bool := false
  nextAtMs : UInt32 := 0
  log : List QueryEvent := []

structure BasicInfoState where
  connectionInitialized : Bool := false
  wasConnected : Bool := false
  pending : Bool := false
  resetEventPending : Bool := true

/-- What becomes of the samples of a slot; a sample is named by the number of its poll. -/
inductive SampleEvent where
  /-- The channel of the slot was removed or changed, after so many polls; a sample of it is
  left in the history or not, and a completed poll of it or not. A removal leaves no poll. -/
  | changed (slot : UInt8) (polls : Nat) (inHistory waiting : Bool)
  /-- A completed poll of the slot was taken, and its sample kept. -/
  | captured (slot : UInt8)
  | reported (slot : UInt8) (poll : Nat)
  | stored (slot : UInt8) (poll : Nat)
  | evaluated (slot : UInt8) (poll : Nat)
  deriving DecidableEq

structure State where
  clock : Clock := {}
  config : DeviceConfig := {}
  radio : Radio := {}
  stores : Stores := {}
  timeSettings : Time.Settings := {}
  scheduler : ReportScheduler := {}
  modbus : ModbusComponent := {}
  channels : ChannelRegistry := {}
  rules : RuleEngine := {}
  replies : RuleReplies := {}
  history : HistoryLog := {}
  retransmission : Retransmission := {}
  query : HistoryQuery := {}
  basicInfo : BasicInfoState := {}
  twoWayFrame : Option Bytes := none
  sampleLog : List SampleEvent := []
  rebootRequested : Bool := false

def exchanged (exchange : Exchange) (rest : List Exchange) (app : State) : State :=
  let clock := app.clock.advance exchange.elapsedUs
  { app with
    clock := clock
    radio := { app.radio with exchanges := rest }.conclude exchange clock.millis }

/-- Sends an uplink, and whether it was sent. `note` writes the ghost of a successful one;
the downlink received with it is handled after that. -/
def send (deliver : Deliver State) (note : State → State) (endpoint : UInt8) (payload : Bytes)
    (app : State) : State × Bool :=
  if !app.radio.accepts endpoint payload then (app, false)
  else match app.radio.exchanges with
    | [] => (app, false)
    | exchange :: rest =>
      let app := exchanged exchange rest app
      if !exchange.sessionSaved || exchange.state ≠ .done then (app, false)
      else
        let app := note app
        match exchange.downlink with
        | none => (app, true)
        | some downlink =>
          if downlink.payload.length = 0 || downlink.fport == 0 then (app, true)
          else ((deliver app downlink).1, true)

end Application
