import MultibusGateway.Core.CoreCommands
import MultibusGateway.Library.Json
import MultibusGateway.Services.CommandTopics

/-! Commands over MQTT, from the message to the queue. A message on a command topic of the device is
for the channel that its topic spells; its value is taken as the type that the point of the channel
has at the time. -/

namespace Application
open ByteString BinaryFloat Commands Events Execution Modbus

/-- A text in a buffer, if it leaves room for its end. -/
def setCommandText (capacity : ℕ) (input : Bytes) (allowEmpty : Bool) :
    Option (Vector UInt8 capacity) :=
  let text := cStr input
  if capacity == 0 || (!allowEmpty && text.isEmpty) || text.length ≥ capacity then none
  else some (Vector.ofFn fun i => byteAt text i)

/-- What a message is read with: the names of the device and the library for documents, with its
value of a number that is not an integer of 64 bits. -/
structure MessageReader where
  topicPrefix : Bytes
  deviceId : Bytes
  library : Json.Library
  real : Json → Binary64

namespace MessageReader

def asDouble (reader : MessageReader) : Json → Option Binary64
  | .integer n =>
    some (if -2 ^ 63 ≤ n ∧ n < 2 ^ 64 then Binary64.ofInt n else reader.real (.integer n))
  | .real digits => some (reader.real (.real digits))
  | _ => none

def readInput (reader : MessageReader) (input : Json) (command : ChannelWriteCommand) :
    DataType → Option ChannelWriteCommand
  | .boolean =>
    input.asBool.map fun value => { command with valueType := .boolean, booleanValue := value }
  | .int64 =>
    input.asInt64.map fun value => { command with valueType := .int64, intValue := value }
  | .uint64 =>
    input.asUInt64.map fun value => { command with valueType := .uint64, uintValue := value }
  | .float64 =>
    (reader.asDouble input).map fun value =>
      { command with valueType := .float64, floatValue := value }
  | .text => do
    let text ← input.asText
    let textValue ← setCommandText kCommandTextLength text true
    return { command with valueType := .text, textValue := textValue }

def readCommand (reader : MessageReader) (channelId : UInt16) (type : DataType)
    (payload : Bytes) : Option ChannelWriteCommand :=
  match reader.library.deserializeJson payload with
  | .error _ => none
  | .ok doc =>
    let input := doc.get "value"
    if input.isNull then none
    else
      match setCommandText kCommandOriginLength (ascii "mqtt") false with
      | none => none
      | some origin => reader.readInput input { channelId := channelId, origin := origin } type

end MessageReader

/-- What became of a message: its topic is none of the commands of the device, its channel takes no
commands, its payload is no command for it, or the queue was full, or had room. -/
inductive MessageFate where
  | foreign | closed | unreadable | crowded | queued
  deriving DecidableEq

structure QueuedMessage where
  topic : Bytes
  payload : Bytes
  command : ChannelWriteCommand

/-- The commands with the counters of the service and of the application. The fates of the messages
and the messages that were queued are ghosts, oldest first. -/
structure MqttCommands where
  core : CommandCore
  commandMessages : UInt32 := 0
  commandFailures : UInt32 := 0
  commandsQueued : UInt32 := 0
  commandQueueFailures : UInt32 := 0
  commandsExecuted : UInt32 := 0
  commandExecutionFailures : UInt32 := 0
  fates : List MessageFate := []
  messages : List QueuedMessage := []

namespace MqttCommands
variable (reader : MessageReader)

def ended (fate : MessageFate) (m : MqttCommands) : MqttCommands :=
  { m with fates := m.fates ++ [fate] }

def writeBoundChannelFromMqtt (binding : ChannelBinding) (topic payload : Bytes)
    (timestampUnix : UInt32) (m : MqttCommands) : MqttCommands × Bool :=
  if !binding.writable || payload.length == 0 || payload.length > 512 then
    (m.ended .unreadable, false)
  else
    match (describeBoundChannel binding m.core.modbus).filter DataPointDescriptor.writable with
    | none => (m.ended .unreadable, false)
    | some descriptor =>
      match reader.readCommand binding.channelId descriptor.type payload with
      | none => (m.ended .unreadable, false)
      | some command =>
        match m.core.commands.enqueue command with
        | (_, false) =>
          let events := (m.core.events.emit (ascii "commands") (ascii "queue-full") .warning
            timestampUnix (ascii "origin=mqtt")).1
          ({ m.ended .crowded with
              core := { m.core with events := events }
              commandQueueFailures := m.commandQueueFailures + 1 }, false)
        | (commands, true) =>
          ({ m.ended .queued with
              core := { m.core with commands := commands }
              commandsQueued := m.commandsQueued + 1
              messages := m.messages ++ [⟨topic, payload, m.core.commands.numbered command⟩] }, true)

def handleMessage (topic payload : Bytes) (timestampUnix : UInt32) (m : MqttCommands) :
    MqttCommands :=
  let parsed := Mqtt.parseChannelCommandTopic reader.topicPrefix reader.deviceId topic
  if !parsed.valid then m.ended .foreign
  else
    match m.core.channels.find parsed.channelId with
    | none => { m.ended .closed with commandFailures := m.commandFailures + 1 }
    | some binding =>
      if !binding.enabled || !binding.writable then
        { m.ended .closed with commandFailures := m.commandFailures + 1 }
      else
        match writeBoundChannelFromMqtt reader binding topic payload timestampUnix
          { m with commandMessages := m.commandMessages + 1 } with
        | (m, true) => m
        | (m, false) => { m with commandFailures := m.commandFailures + 1 }

def processCommand (command : ChannelWriteCommand) (timestampUnix : UInt32) (m : MqttCommands) :
    MqttCommands :=
  let executed := (executeCommand command m.core.channels m.core.modbus).2 = .executed
  { m with
    core := Application.processCommand command timestampUnix m.core
    commandsExecuted := if executed then m.commandsExecuted + 1 else m.commandsExecuted
    commandExecutionFailures :=
      if executed then m.commandExecutionFailures else m.commandExecutionFailures + 1 }

def processCommands (timestampUnix : UInt32) : ℕ → MqttCommands → MqttCommands
  | 0, m => m
  | left + 1, m =>
    match m.core.commands.dequeue with
    | none => m
    | some (command, commands) =>
      processCommands timestampUnix left
        (processCommand command timestampUnix { m with core := { m.core with commands := commands } })

def processCoreCommands (timestampUnix : UInt32) (m : MqttCommands) : MqttCommands :=
  processCommands timestampUnix 4 m

/-- What happens next. Between two calls the registry of the channels, the Modbus component and the
events may change in any way. -/
inductive MqttStep where
  | message (topic payload : Bytes) (timestampUnix : UInt32)
  | processCoreCommands (timestampUnix : UInt32)
  | other (channels : ChannelRegistry) (modbus : ModbusComponent) (events : EventBus 32)

def step (m : MqttCommands) : MqttStep → MqttCommands
  | .message topic payload timestampUnix => m.handleMessage reader topic payload timestampUnix
  | .processCoreCommands timestampUnix => m.processCoreCommands timestampUnix
  | .other channels modbus events =>
    { m with core := { m.core with channels := channels, modbus := modbus, events := events } }

end MqttCommands

/-- The loops do with the commands what they do without the counters. -/
theorem MqttCommands.processCommands_core (timestampUnix : UInt32) (left : ℕ) (m : MqttCommands) :
    (m.processCommands timestampUnix left).core =
      Application.processCommands timestampUnix left m.core := by
  induction left generalizing m with
  | zero => rfl
  | succ left ih =>
    rw [processCommands, Application.processCommands]
    cases m.core.commands.dequeue with
    | none => rfl
    | some taken => exact ih _

end Application
