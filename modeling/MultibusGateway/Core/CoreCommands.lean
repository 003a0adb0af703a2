import MultibusGateway.Core.CommandBus
import MultibusGateway.Core.DataSource
import MultibusGateway.Core.EventBus
import MultibusGateway.Library.Execution
import MultibusGateway.Modbus.Configuration

/-! The write commands on their way from the queue to the Modbus component. The loop takes up to
four commands at a time, and the component holds one write. -/

namespace Application
open ByteString BinaryFloat Commands Events Execution Modbus

def ChannelRegistry.find (channelId : UInt16) (registry : ChannelRegistry) :
    Option ChannelBinding :=
  registry.channels.find? fun channel => channel.channelId == channelId

inductive CommandOutcome where
  | missing | targetNotWritable | executionFailed | executed
  deriving DecidableEq

/-- What the handling of the commands works on. The log is a ghost: the commands that have been
taken from the queue, oldest first. -/
structure CommandCore where
  commands : CommandBus 16
  channels : ChannelRegistry := {}
  modbus : ModbusComponent := {}
  events : EventBus 32 := {}
  log : List (ChannelWriteCommand × CommandOutcome) := []

def commandDataType : CommandValueType → DataType
  | .boolean => .boolean
  | .int64 => .int64
  | .uint64 => .uint64
  | .float64 => .float64
  | .text => .text

def commandValue (command : ChannelWriteCommand) : DataValue :=
  let value : DataValue := { valid := true, type := commandDataType command.valueType }
  match command.valueType with
  | .boolean => { value with booleanValue := command.booleanValue }
  | .int64 => { value with intValue := command.intValue }
  | .uint64 => { value with uintValue := command.uintValue }
  | .float64 => { value with floatValue := command.floatValue }
  | .text => { value with textValue := cStr command.textValue.toList }

def executeCommand (command : ChannelWriteCommand) (channels : ChannelRegistry)
    (modbus : ModbusComponent) : ModbusComponent × CommandOutcome :=
  match channels.find command.channelId with
  | none => (modbus, .missing)
  | some binding =>
    if !binding.enabled || !binding.writable then (modbus, .missing)
    else match dataSourceForId binding.sourceId, describeBoundChannel binding modbus with
      | some source, some descriptor =>
        if !descriptor.writable then (modbus, .targetNotWritable)
        else if commandDataType command.valueType ≠ descriptor.type then (modbus, .executionFailed)
        else
          let (modbus, written) :=
            source.writePoint binding.pointId (commandValue command) modbus
          (modbus, if written then .executed else .executionFailed)
      | _, _ => (modbus, .targetNotWritable)

def commandEvent (command : ChannelWriteCommand) (timestampUnix : UInt32)
    (outcome : CommandOutcome) (events : EventBus 32) : EventBus 32 :=
  let target := "seq=" ++ toString command.sequence ++ " channel=" ++ toString command.channelId
  let origin := ascii (target ++ " origin=") ++ cStr command.origin.toList
  let (type, severity, detail) :=
    match outcome with
    | .missing => ("rejected", EventSeverity.warning, ascii (target ++ " missing"))
    | .targetNotWritable => ("rejected", .warning, ascii "target-not-writable")
    | .executionFailed => ("execution-failed", .warning, origin)
    | .executed => ("executed", .info, origin)
  (events.emit (ascii "commands") (ascii type) severity timestampUnix detail).1

def processCommand (command : ChannelWriteCommand) (timestampUnix : UInt32)
    (core : CommandCore) : CommandCore :=
  let (modbus, outcome) := executeCommand command core.channels core.modbus
  { core with
    modbus := modbus
    events := commandEvent command timestampUnix outcome core.events
    log := core.log ++ [(command, outcome)] }

def processCommands (timestampUnix : UInt32) : Nat → CommandCore → CommandCore
  | 0, core => core
  | left + 1, core =>
    match core.commands.dequeue with
    | none => core
    | some (command, commands) =>
      processCommands timestampUnix left
        (processCommand command timestampUnix { core with commands := commands })

def processCoreCommands (timestampUnix : UInt32) (core : CommandCore) : CommandCore :=
  processCommands timestampUnix 4 core

def acceptsValue (pointId : String) (value : DataValue) (modbus : ModbusComponent) : Bool :=
  match resolveWrite pointId value modbus with
  | none => false
  | some (slot, registerIndex, scalar) =>
    match modbus.channelForSlot slot with
    | none => false
    | some channel =>
      registerIndex < channel.quantity && writableType channel.dataType &&
        (buildWriteRequest channel registerIndex scalar 17).isOk

/-- The command is one for a point of its type: its binding is enabled and writable, and the
point takes the value. -/
def deliverable (channels : ChannelRegistry) (modbus : ModbusComponent)
    (command : ChannelWriteCommand) : Bool :=
  match channels.find command.channelId with
  | none => false
  | some binding =>
    binding.enabled && binding.writable &&
      (match describeBoundChannel binding modbus with
        | none => false
        | some descriptor =>
          descriptor.writable && commandDataType command.valueType == descriptor.type) &&
      acceptsValue binding.pointId (commandValue command) modbus

def idle (modbus : ModbusComponent) : Bool :=
  modbus.active && !modbus.pendingWrite.queued && !modbus.writeInFlight

/-! Runs of the two loops, with the commands that have been accepted. -/

/-- What happens next. The bus may do anything between two calls. -/
inductive CommandStep where
  | enqueue (command : ChannelWriteCommand)
  | processCoreCommands (timestampUnix : UInt32)
  | loop (nowMs nowUs : UInt32)
  | bus (port : SerialPort)

structure CommandRun where
  core : CommandCore
  accepted : List ChannelWriteCommand

namespace CommandRun

/-- The commands that wait in the queue are the first to be accounted for. -/
def start (core : CommandCore) : CommandRun :=
  ⟨{ core with log := [] }, core.commands.contents⟩

def step (r : CommandRun) : CommandStep → CommandRun
  | .enqueue command =>
    let (commands, queued) := r.core.commands.enqueue command
    { core := { r.core with commands := commands }
      accepted := r.accepted ++
        if queued then [r.core.commands.numbered command] else [] }
  | .processCoreCommands timestampUnix =>
    { r with core := processCoreCommands timestampUnix r.core }
  | .loop nowMs nowUs =>
    { r with core := { r.core with modbus := r.core.modbus.loop nowMs nowUs } }
  | .bus port =>
    { r with core :=
      { r.core with modbus :=
        { r.core.modbus with rtuMaster := { r.core.modbus.rtuMaster with port := port } } } }

/-- The commands that have been taken and those that wait are the accepted ones in their order,
and each that has been taken was carried out. -/
def Delivered (r : CommandRun) : Prop :=
  r.core.log ++ r.core.commands.contents.map (·, CommandOutcome.executed) =
    r.accepted.map (·, CommandOutcome.executed)

/-- A step for the commands finds none, or it finds one, and an idle component. -/
def Unhurried (r : CommandRun) : CommandStep → Prop
  | .processCoreCommands _ =>
    r.core.commands.contents.length = 0 ∨
    (r.core.commands.contents.length = 1 ∧ idle r.core.modbus = true)
  | _ => True

end CommandRun

end Application
