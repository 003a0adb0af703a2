import MultibusGateway.Core.Uplinks
import MultibusGateway.Library.Execution

/-! The application at work: a run is any sequence of calls of its functions, mixed with
what its surroundings do. The loop of the source makes the calls in one fixed order. -/

namespace Application
open ByteString Modbus Lorawan Reentrancy Execution

/-- A call of a function of the application, or something that its surroundings do. -/
inductive Call where
  /-- Time passes. -/
  | elapse (us : Nat)
  /-- The clock is set, so that the boot was at this Unix time. -/
  | setTime (unixOffset : Int)
  /-- The network: a join, a lost session, the exchanges to come. -/
  | network (radio : Radio)
  /-- Bytes arrive on the RS485 bus. -/
  | receive (input : Bytes)
  /-- A downlink outside of an uplink, of class C or with a time synchronisation. -/
  | downlink (message : Downlink)
  | writePoint (slot registerIndex : UInt8) (scalar : DecodedScalar)
  | connectionState
  | networkState
  | modbusLoop
  | passiveFrame
  | passThroughResponse
  | basicInfo
  | twoWayUplink
  | captureSample
  | ruleExecution
  | historyStorage
  | ruleReply
  | historyQuery
  | historyRetransmission
  | compatibilityReport

def receive (input : Bytes) (modbus : ModbusComponent) : ModbusComponent :=
  let port := modbus.rtuMaster.port
  { modbus with
    rtuMaster := { modbus.rtuMaster with port := { port with input := port.input ++ input } } }

/-- One call, with the downlinks of its uplinks handled by `deliver`. -/
def call (deliver : Deliver State) (app : State) : Call → State
  | .elapse us => { app with clock := app.clock.advance us }
  | .setTime unixOffset => { app with clock := { app.clock with unixOffset := unixOffset } }
  | .network radio => { app with radio := radio }
  | .receive input => { app with modbus := receive input app.modbus }
  | .downlink message => (deliver app message).1
  | .writePoint slot registerIndex scalar =>
    { app with modbus := (app.modbus.writePoint slot registerIndex scalar).1 }
  | .connectionState => updateCompatibilityConnectionState app
  | .networkState => processHistoryNetworkState app
  | .modbusLoop => modbusLoop app
  | .passiveFrame => processPassiveRs485Frame app
  | .passThroughResponse => (processModbusPassThroughResponse deliver app).1
  | .basicInfo => (processCompatibilityBasicInfo deliver app).1
  | .twoWayUplink => (processTwoWayPassThroughUplink deliver app).1
  | .captureSample => captureModbusCompatibilitySample app
  | .ruleExecution => processRuleExecution deliver app
  | .historyStorage => processHistoryStorage app
  | .ruleReply => (processRuleReply deliver app).1
  | .historyQuery => (processHistoryQuery deliver app).1
  | .historyRetransmission => (processHistoryRetransmission deliver app).1
  | .compatibilityReport => processModbusCompatibilityReport deliver app

/-- One call, with downlinks nested up to a depth. -/
def step (depth : Nat) : State → Call → State := call (deliverNested depth)

/-! The loop. -/

def unlessHandled (process : State → State × Bool) (turn : State × Bool) : State × Bool :=
  if turn.2 then turn else process turn.1

def lateUplinks (deliver : Deliver State) (turn : State × Bool) : State :=
  let turn := unlessHandled (processRuleReply deliver) turn
  let turn := unlessHandled (processHistoryQuery deliver) turn
  let turn := unlessHandled (processHistoryRetransmission deliver) turn
  if turn.2 then turn.1 else processModbusCompatibilityReport deliver turn.1

/-- One turn of the loop, after its surroundings have done their part. -/
def loop (deliver : Deliver State) (app : State) : State :=
  let app := updateCompatibilityConnectionState app
  let app := processHistoryNetworkState app
  let app := modbusLoop app
  let app := processPassiveRs485Frame app
  let turn := processModbusPassThroughResponse deliver app
  let turn := unlessHandled (processCompatibilityBasicInfo deliver) turn
  let turn := unlessHandled (processTwoWayPassThroughUplink deliver) turn
  let app := captureModbusCompatibilitySample turn.1
  let app := processRuleExecution deliver app
  let app := processHistoryStorage app
  lateUplinks deliver (app, turn.2)

def Reaches (deliver : Deliver State) (a b : State) : Prop :=
  ∃ calls, b = run (call deliver) a calls

theorem reaches_call (deliver : Deliver State) (a b : State) (c : Call) (process : State → State)
    (same : ∀ app, process app = call deliver app c) (reaches : Reaches deliver a b) :
    Reaches deliver a (process b) := by
  obtain ⟨calls, rfl⟩ := reaches
  refine ⟨calls ++ [c], ?_⟩
  rw [run_append, same]
  rfl

theorem reaches_unlessHandled (deliver : Deliver State) (a : State) (c : Call)
    (process : State → State × Bool) (same : ∀ app, (process app).1 = call deliver app c)
    (turn : State × Bool) (reaches : Reaches deliver a turn.1) :
    Reaches deliver a (unlessHandled process turn).1 := by
  unfold unlessHandled
  split
  · exact reaches
  · exact reaches_call deliver a turn.1 c (fun app => (process app).1) same reaches

theorem reaches_lateUplinks (deliver : Deliver State) (a : State) (turn : State × Bool)
    (reaches : Reaches deliver a turn.1) : Reaches deliver a (lateUplinks deliver turn) := by
  have replied := reaches_unlessHandled deliver a .ruleReply (processRuleReply deliver)
    (fun _ => rfl) turn reaches
  have queried := reaches_unlessHandled deliver a .historyQuery (processHistoryQuery deliver)
    (fun _ => rfl) _ replied
  have sent := reaches_unlessHandled deliver a .historyRetransmission
    (processHistoryRetransmission deliver) (fun _ => rfl) _ queried
  unfold lateUplinks
  simp only
  split
  · exact sent
  · exact reaches_call deliver a _ .compatibilityReport _ (fun _ => rfl) sent

/-- A turn of the loop is a run of calls, so what holds of all runs holds of the loop. -/
theorem loop_reaches (deliver : Deliver State) (app : State) :
    Reaches deliver app (loop deliver app) := by
  have start : Reaches deliver app app := ⟨[], rfl⟩
  have connection := reaches_call deliver app _ .connectionState
    updateCompatibilityConnectionState (fun _ => rfl) start
  have network := reaches_call deliver app _ .networkState processHistoryNetworkState
    (fun _ => rfl) connection
  have polled := reaches_call deliver app _ .modbusLoop modbusLoop (fun _ => rfl) network
  have passive := reaches_call deliver app _ .passiveFrame processPassiveRs485Frame
    (fun _ => rfl) polled
  have response := reaches_call deliver app _ .passThroughResponse
    (fun app => (processModbusPassThroughResponse deliver app).1) (fun _ => rfl) passive
  have basic := reaches_unlessHandled deliver app .basicInfo
    (processCompatibilityBasicInfo deliver) (fun _ => rfl)
    (processModbusPassThroughResponse deliver _) response
  have twoWay := reaches_unlessHandled deliver app .twoWayUplink
    (processTwoWayPassThroughUplink deliver) (fun _ => rfl) _ basic
  have captured := reaches_call deliver app _ .captureSample captureModbusCompatibilitySample
    (fun _ => rfl) twoWay
  have executed := reaches_call deliver app _ .ruleExecution (processRuleExecution deliver)
    (fun _ => rfl) captured
  have stored := reaches_call deliver app _ .historyStorage processHistoryStorage
    (fun _ => rfl) executed
  unfold loop
  dsimp only
  apply reaches_lateUplinks
  dsimp only
  exact stored

end Application
