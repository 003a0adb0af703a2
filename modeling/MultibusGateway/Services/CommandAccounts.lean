import Mathlib.Data.List.GetD
import MultibusGateway.Services.MqttCommands

/-! What becomes of the messages with commands. In every run the commands that were taken from the
queue and those that wait in it are those of the messages that were queued, each once and in the
order of the messages, with the values of the messages; and the counters say how many there were of
each kind. -/

namespace Application
open ByteString BinaryFloat Commands Events Execution Modbus

/-! The value of a message, as the data point is to have it. -/

namespace MessageReader

def inputValue (reader : MessageReader) (input : Json) : DataType → Option DataValue
  | .boolean =>
    input.asBool.map fun value => { type := .boolean, valid := true, booleanValue := value }
  | .int64 => input.asInt64.map fun value => { type := .int64, valid := true, intValue := value }
  | .uint64 =>
    input.asUInt64.map fun value => { type := .uint64, valid := true, uintValue := value }
  | .float64 =>
    (reader.asDouble input).map fun value =>
      { type := .float64, valid := true, floatValue := value }
  | .text =>
    (input.asText.filter fun text => text.length < kCommandTextLength).map fun text =>
      { type := .text, valid := true, textValue := text }

end MessageReader

theorem cStr_ofFn {capacity : ℕ} (text : Bytes) (ends : (0 : UInt8) ∉ text)
    (room : text.length < capacity) :
    cStr (Vector.ofFn fun i : Fin capacity => byteAt text i).toList = text := by
  obtain ⟨rest, rfl⟩ := Nat.exists_eq_add_of_lt room
  have padded : (Vector.ofFn fun i : Fin (text.length + rest + 1) => byteAt text i).toList =
      text ++ List.replicate (rest + 1) 0 := by
    apply List.ext_getElem
    · simp only [Vector.length_toList, List.length_append, List.length_replicate]
      omega
    · intro i inside _
      rw [Vector.getElem_toList, Vector.getElem_ofFn]
      by_cases within : i < text.length
      · rw [List.getElem_append_left within, byteAt_eq_getElem text i within]
      · rw [List.getElem_append_right (Nat.not_lt.mp within), List.getElem_replicate, byteAt,
          List.getD_eq_default _ _ (Nat.not_lt.mp within)]
  have printed : ∀ c ∈ text, (c != 0) = true := by
    intro c member
    rw [bne_iff_ne]
    rintro rfl
    exact ends member
  rw [padded, cStr, List.takeWhile_append_of_pos printed, List.replicate_succ,
    List.takeWhile_cons_of_neg (by decide), List.append_nil]

theorem setCommandText_eq (capacity : ℕ) (input : Bytes) :
    setCommandText capacity input true =
      if (cStr input).length < capacity then
        some (Vector.ofFn fun i => byteAt (cStr input) i) else none := by
  unfold setCommandText
  by_cases room : (cStr input).length < capacity
  · have some_ : (capacity == 0) = false := beq_eq_false_iff_ne.mpr (by omega)
    simp [room, some_]
  · simp [room, Nat.not_lt.mp room]

theorem readInput_value (reader : MessageReader) (input : Json) (command : ChannelWriteCommand)
    (type : DataType) :
    (reader.readInput input command type).map commandValue = reader.inputValue input type := by
  cases type with
  | boolean => cases input <;> rfl
  | int64 =>
    rw [MessageReader.readInput, MessageReader.inputValue, Option.map_map]
    rfl
  | uint64 =>
    rw [MessageReader.readInput, MessageReader.inputValue, Option.map_map]
    rfl
  | float64 =>
    rw [MessageReader.readInput, MessageReader.inputValue, Option.map_map]
    rfl
  | text =>
    cases input with
    | text bytes =>
      simp only [MessageReader.readInput, MessageReader.inputValue, Json.asText, setCommandText_eq,
        Option.bind_eq_bind, Option.bind_some, Option.filter_some, decide_eq_true_eq]
      have clean : (0 : UInt8) ∉ cStr (cStr bytes) := Mqtt.zero_not_mem_cStr _
      have again : cStr (cStr bytes) = cStr bytes :=
        Mqtt.cStr_eq_self _ (Mqtt.zero_not_mem_cStr bytes)
      rw [again] at clean ⊢
      split
      · rename_i room
        simp [commandValue, commandDataType, cStr_ofFn _ clean room]
      · rfl
    | _ => rfl

theorem readInput_kept (reader : MessageReader) (input : Json)
    (command written : ChannelWriteCommand) (type : DataType)
    (read : reader.readInput input command type = some written) :
    written.channelId = command.channelId ∧ written.origin = command.origin := by
  cases type with
  | boolean | int64 | uint64 | float64 =>
    obtain ⟨value, -, rfl⟩ := Option.map_eq_some_iff.mp read
    exact ⟨rfl, rfl⟩
  | text =>
    obtain ⟨text, -, rest⟩ := Option.bind_eq_some_iff.mp read
    obtain ⟨textValue, -, same⟩ := Option.bind_eq_some_iff.mp rest
    obtain rfl := Option.some.inj same
    exact ⟨rfl, rfl⟩

theorem readCommand_eq_some (reader : MessageReader) (channelId : UInt16) (type : DataType)
    (payload : Bytes) (command : ChannelWriteCommand)
    (read : reader.readCommand channelId type payload = some command) :
    command.channelId = channelId ∧ cStr command.origin.toList = ascii "mqtt" ∧
      ∃ doc, reader.library.deserializeJson payload = .ok doc ∧
        reader.inputValue (doc.get "value") type = some (commandValue command) := by
  unfold MessageReader.readCommand at read
  cases parsed : reader.library.deserializeJson payload with
  | error message =>
    rw [parsed] at read
    cases read
  | ok doc =>
    rw [parsed] at read
    dsimp only at read
    split at read
    · cases read
    · split at read
      · cases read
      · rename_i origin named
        have same : cStr origin.toList = ascii "mqtt" := by
          have text : setCommandText kCommandOriginLength (ascii "mqtt") false =
              some (Vector.ofFn fun i => byteAt (ascii "mqtt") i) := by
            decide +kernel
          obtain rfl := Option.some.inj (text.symm.trans named)
          exact cStr_ofFn _ (by decide +kernel) (by decide +kernel)
        obtain ⟨channel, origins⟩ := readInput_kept reader _ _ command type read
        have value := readInput_value reader (doc.get "value")
          { channelId := channelId, origin := origin } type
        rw [read] at value
        exact ⟨channel, by rw [origins]; exact same, doc, rfl, value.symm⟩

/-- The command is that of the message: its topic spells the channel, its payload has the value, and
it says where it comes from. -/
def Carried (reader : MessageReader) (queued : QueuedMessage) : Prop :=
  Mqtt.parseChannelCommandTopic reader.topicPrefix reader.deviceId queued.topic =
      { valid := true, channelId := queued.command.channelId } ∧
    cStr queued.command.origin.toList = ascii "mqtt" ∧
    ∃ doc type, reader.library.deserializeJson queued.payload = .ok doc ∧
      reader.inputValue (doc.get "value") type = some (commandValue queued.command)

def tally (fates : List MessageFate) (kinds : List MessageFate) : UInt32 :=
  UInt32.ofNat (fates.countP fun fate => kinds.contains fate)

theorem tally_append (fates kinds : List MessageFate) (fate : MessageFate) :
    tally (fates ++ [fate]) kinds = tally fates kinds + if kinds.contains fate then 1 else 0 := by
  rw [tally, List.countP_append, List.countP_singleton, UInt32.ofNat_add, tally]
  split <;> rfl

/-- How many of the commands that were taken have been carried out, or not. -/
def outcomes (log : List (ChannelWriteCommand × CommandOutcome)) (executed : Bool) : UInt32 :=
  UInt32.ofNat (log.countP fun entry => decide (entry.2 = .executed) == executed)

theorem outcomes_append (log : List (ChannelWriteCommand × CommandOutcome))
    (entry : ChannelWriteCommand × CommandOutcome) (executed : Bool) :
    outcomes (log ++ [entry]) executed =
      outcomes log executed + if decide (entry.2 = .executed) == executed then 1 else 0 := by
  rw [outcomes, List.countP_append, List.countP_singleton, UInt32.ofNat_add, outcomes]
  split <;> rfl

theorem outcomes_all (log : List (ChannelWriteCommand × CommandOutcome)) :
    outcomes log true + outcomes log false = UInt32.ofNat log.length := by
  have others : (fun entry : ChannelWriteCommand × CommandOutcome =>
      decide (entry.2 = .executed) == false) =
      fun entry => decide ¬ (decide (entry.2 = .executed) == true) = true := by
    funext entry
    cases decide (entry.2 = .executed) <;> rfl
  rw [outcomes, outcomes, ← UInt32.ofNat_add, others, ← List.length_eq_countP_add_countP]

structure Conveyed (reader : MessageReader) (m : MqttCommands) : Prop where
  order : m.core.log.map Prod.fst ++ m.core.commands.contents =
    m.messages.map QueuedMessage.command
  numbers : (m.messages.map QueuedMessage.command).map ChannelWriteCommand.sequence =
    (List.range m.messages.length).map fun line => UInt64.ofNat (line + 1)
  latest : m.core.commands.latestSequence = UInt64.ofNat m.messages.length
  carried : ∀ queued ∈ m.messages, Carried reader queued

structure Counted (m : MqttCommands) : Prop where
  listed : m.fates.countP (fun fate => [MessageFate.queued].contains fate) = m.messages.length
  messages : m.commandMessages = tally m.fates [.unreadable, .crowded, .queued]
  failures : m.commandFailures = tally m.fates [.closed, .unreadable, .crowded]
  queueFailures : m.commandQueueFailures = tally m.fates [.crowded]
  queued : m.commandsQueued = tally m.fates [.queued]

structure Executed (m : MqttCommands) : Prop where
  executed : m.commandsExecuted = outcomes m.core.log true
  failed : m.commandExecutionFailures = outcomes m.core.log false

/-! What one message does. -/

def MqttCommands.queue (topic payload : Bytes) (command : ChannelWriteCommand)
    (m : MqttCommands) : MqttCommands :=
  { m.ended .queued with
    core := { m.core with commands := (m.core.commands.enqueue command).1 }
    commandMessages := m.commandMessages + 1
    commandsQueued := m.commandsQueued + 1
    messages := m.messages ++ [⟨topic, payload, m.core.commands.numbered command⟩] }

inductive Handled (reader : MessageReader) (topic payload : Bytes) (m : MqttCommands) :
    MqttCommands → Prop where
  | foreign : Handled reader topic payload m (m.ended .foreign)
  | closed : Handled reader topic payload m
      { m.ended .closed with commandFailures := m.commandFailures + 1 }
  | unreadable : Handled reader topic payload m
      { m.ended .unreadable with
        commandMessages := m.commandMessages + 1
        commandFailures := m.commandFailures + 1 }
  | crowded (events : EventBus 32) : Handled reader topic payload m
      { m.ended .crowded with
        core := { m.core with events := events }
        commandMessages := m.commandMessages + 1
        commandFailures := m.commandFailures + 1
        commandQueueFailures := m.commandQueueFailures + 1 }
  | queued (command : ChannelWriteCommand)
      (accepted : (m.core.commands.enqueue command).2 = true)
      (carried : Carried reader ⟨topic, payload, m.core.commands.numbered command⟩) :
      Handled reader topic payload m (m.queue topic payload command)

theorem written_cases (reader : MessageReader) (binding : ChannelBinding) (topic payload : Bytes)
    (timestampUnix : UInt32) (m : MqttCommands) :
    m.writeBoundChannelFromMqtt reader binding topic payload timestampUnix =
        (m.ended .unreadable, false) ∨
      (∃ events, m.writeBoundChannelFromMqtt reader binding topic payload timestampUnix =
        ({ m.ended .crowded with
            core := { m.core with events := events }
            commandQueueFailures := m.commandQueueFailures + 1 }, false)) ∨
      ∃ command type, reader.readCommand binding.channelId type payload = some command ∧
        (m.core.commands.enqueue command).2 = true ∧
        m.writeBoundChannelFromMqtt reader binding topic payload timestampUnix =
          ({ m.ended .queued with
              core := { m.core with commands := (m.core.commands.enqueue command).1 }
              commandsQueued := m.commandsQueued + 1
              messages := m.messages ++
                [⟨topic, payload, m.core.commands.numbered command⟩] }, true) := by
  unfold MqttCommands.writeBoundChannelFromMqtt
  split
  · exact Or.inl rfl
  · cases (describeBoundChannel binding m.core.modbus).filter DataPointDescriptor.writable with
    | none => exact Or.inl rfl
    | some descriptor =>
      dsimp only
      cases read : reader.readCommand binding.channelId descriptor.type payload with
      | none => exact Or.inl rfl
      | some command =>
        dsimp only
        cases enqueued : m.core.commands.enqueue command with
        | mk commands accepted =>
          cases accepted with
          | false => exact Or.inr (Or.inl ⟨_, rfl⟩)
          | true =>
            refine Or.inr (Or.inr ⟨command, descriptor.type, read, ?_, ?_⟩)
            · rw [enqueued]
            · rw [enqueued]

/-- A message is handled in one of the ways. -/
theorem handled (reader : MessageReader) (topic payload : Bytes) (timestampUnix : UInt32)
    (m : MqttCommands) :
    Handled reader topic payload m (m.handleMessage reader topic payload timestampUnix) := by
  unfold MqttCommands.handleMessage
  cases parsed : Mqtt.parseChannelCommandTopic reader.topicPrefix reader.deviceId topic with
  | mk valid channelId =>
    cases valid with
    | false => exact .foreign
    | true =>
      dsimp only
      rw [Bool.not_true, if_neg Bool.false_ne_true]
      cases found : m.core.channels.find channelId with
      | none => exact .closed
      | some binding =>
        have number : binding.channelId = channelId := by
          unfold ChannelRegistry.find at found
          have holds := List.find?_some found
          exact beq_iff_eq.mp holds
        dsimp only
        split
        · exact .closed
        · rcases written_cases reader binding topic payload timestampUnix
            { m with commandMessages := m.commandMessages + 1 } with
            same | ⟨events, same⟩ | ⟨command, type, read, accepted, same⟩
          · rw [same]
            exact .unreadable
          · rw [same]
            exact .crowded events
          · rw [same]
            obtain ⟨channel, origin, doc, document, value⟩ :=
              readCommand_eq_some reader binding.channelId type payload command read
            refine .queued command accepted ⟨?_, origin, doc, type, document, value⟩
            rw [parsed, ← number, ← channel]
            rfl

/-! What each step keeps. -/

section
variable {reader : MessageReader} {m after : MqttCommands} {topic payload : Bytes}

theorem Handled.fate (handled : Handled reader topic payload m after) :
    ∃ fate, after.fates = m.fates ++ [fate] ∧
      after.messages.length =
        m.messages.length + (if [MessageFate.queued].contains fate then 1 else 0) ∧
      after.commandMessages = m.commandMessages +
        (if [MessageFate.unreadable, .crowded, .queued].contains fate then 1 else 0) ∧
      after.commandFailures = m.commandFailures +
        (if [MessageFate.closed, .unreadable, .crowded].contains fate then 1 else 0) ∧
      after.commandQueueFailures = m.commandQueueFailures +
        (if [MessageFate.crowded].contains fate then 1 else 0) ∧
      after.commandsQueued = m.commandsQueued +
        (if [MessageFate.queued].contains fate then 1 else 0) := by
  have none (counter : UInt32) : counter = counter + 0 := (UInt32.add_zero counter).symm
  cases handled with
  | foreign => exact ⟨.foreign, rfl, rfl, none _, none _, none _, none _⟩
  | closed => exact ⟨.closed, rfl, rfl, none _, rfl, none _, none _⟩
  | unreadable => exact ⟨.unreadable, rfl, rfl, rfl, rfl, none _, none _⟩
  | crowded events => exact ⟨.crowded, rfl, rfl, rfl, rfl, rfl, none _⟩
  | queued command accepted carried =>
    exact ⟨.queued, rfl, List.length_append, rfl, none _, none _, rfl⟩

theorem Counted.handled (counted : Counted m) (handled : Handled reader topic payload m after) :
    Counted after := by
  obtain ⟨fate, fates, length, messages, failures, queueFailures, queued⟩ := handled.fate
  exact
    { listed := by
        rw [fates, List.countP_append, counted.listed, List.countP_singleton, length]
      messages := by rw [fates, tally_append, ← counted.messages, messages]
      failures := by rw [fates, tally_append, ← counted.failures, failures]
      queueFailures := by rw [fates, tally_append, ← counted.queueFailures, queueFailures]
      queued := by rw [fates, tally_append, ← counted.queued, queued] }

theorem Executed.handled (executed : Executed m) (handled : Handled reader topic payload m after) :
    Executed after := by
  cases handled with
  | _ => exact ⟨executed.executed, executed.failed⟩

theorem Conveyed.handled (conveyed : Conveyed reader m)
    (handled : Handled reader topic payload m after) : Conveyed reader after := by
  cases handled with
  | queued command accepted carried =>
    have contents := CommandBus.contents_enqueue command m.core.commands
    have latest := CommandBus.latestSequence_enqueue command m.core.commands
    rw [accepted, if_pos rfl] at contents latest
    have number : m.core.commands.latestSequence + 1 =
        UInt64.ofNat (m.messages.length + 1) := by
      rw [conveyed.latest, UInt64.ofNat_add]
      rfl
    exact
      { order := by
          rw [MqttCommands.queue, List.map_append, ← conveyed.order, List.append_assoc]
          dsimp only
          rw [contents]
          rfl
        numbers := by
          rw [MqttCommands.queue, List.length_append, List.length_singleton, List.range_succ,
            List.map_append, List.map_append, List.map_append, conveyed.numbers]
          exact congrArg _ (congrArg List.singleton number)
        latest := by
          rw [MqttCommands.queue, List.length_append]
          exact latest.trans number
        carried := by
          intro queued member
          rcases List.mem_append.mp member with before | last
          · exact conveyed.carried queued before
          · rw [List.mem_singleton.mp last]
            exact carried }
  | _ => exact ⟨conveyed.order, conveyed.numbers, conveyed.latest, conveyed.carried⟩

end

def MqttCommands.taking (command : ChannelWriteCommand) (commands : CommandBus 16)
    (timestampUnix : UInt32) (m : MqttCommands) : MqttCommands :=
  MqttCommands.processCommand command timestampUnix
    { m with core := { m.core with commands := commands } }

section
variable {reader : MessageReader} {m : MqttCommands} (command : ChannelWriteCommand)
  (commands : CommandBus 16) (timestampUnix : UInt32)

theorem taking_log : (m.taking command commands timestampUnix).core.log =
    m.core.log ++ [(command, (executeCommand command m.core.channels m.core.modbus).2)] := rfl

theorem Executed.taking (executed : Executed m) :
    Executed (m.taking command commands timestampUnix) := by
  constructor
  · rw [taking_log, outcomes_append, ← executed.executed, MqttCommands.taking,
      MqttCommands.processCommand]
    dsimp only
    by_cases done : (executeCommand command m.core.channels m.core.modbus).2 = .executed <;>
      simp [done]
  · rw [taking_log, outcomes_append, ← executed.failed, MqttCommands.taking,
      MqttCommands.processCommand]
    dsimp only
    by_cases done : (executeCommand command m.core.channels m.core.modbus).2 = .executed <;>
      simp [done]

theorem Conveyed.taking (conveyed : Conveyed reader m)
    (taken : m.core.commands.dequeue = some (command, commands)) :
    Conveyed reader (m.taking command commands timestampUnix) := by
  have contents := CommandBus.contents_dequeue command m.core.commands commands taken
  have latest := CommandBus.latestSequence_dequeue command m.core.commands commands taken
  have order := conveyed.order
  rw [contents] at order
  exact
    { order := by
        rw [taking_log, List.map_append, List.append_assoc]
        exact order
      numbers := conveyed.numbers
      latest := latest.trans conveyed.latest
      carried := conveyed.carried }

end

/-- The queue, the counters of the messages and those of the commands together. -/
structure Accounted (reader : MessageReader) (m : MqttCommands) : Prop where
  conveyed : Conveyed reader m
  counted : Counted m
  executed : Executed m

theorem Accounted.processCommands {reader : MessageReader} {m : MqttCommands}
    (accounted : Accounted reader m) (timestampUnix : UInt32) (left : ℕ) :
    Accounted reader (m.processCommands timestampUnix left) := by
  induction left generalizing m with
  | zero => exact accounted
  | succ left ih =>
    rw [MqttCommands.processCommands]
    cases taken : m.core.commands.dequeue with
    | none => exact accounted
    | some pair =>
      obtain ⟨command, commands⟩ := pair
      obtain ⟨conveyed, counted, executed⟩ := accounted
      exact ih
        { conveyed := conveyed.taking command commands timestampUnix taken
          counted := ⟨counted.listed, counted.messages, counted.failures, counted.queueFailures,
            counted.queued⟩
          executed := executed.taking command commands timestampUnix }

theorem Accounted.step {reader : MessageReader} {m : MqttCommands}
    (accounted : Accounted reader m) (event : MqttCommands.MqttStep) :
    Accounted reader (m.step reader event) := by
  cases event with
  | message topic payload timestampUnix =>
    have done := handled reader topic payload timestampUnix m
    exact ⟨accounted.conveyed.handled done, accounted.counted.handled done,
      accounted.executed.handled done⟩
  | processCoreCommands timestampUnix => exact accounted.processCommands timestampUnix 4
  | other channels modbus events =>
    obtain ⟨conveyed, counted, executed⟩ := accounted
    exact ⟨⟨conveyed.order, conveyed.numbers, conveyed.latest, conveyed.carried⟩,
      ⟨counted.listed, counted.messages, counted.failures, counted.queueFailures, counted.queued⟩,
      ⟨executed.executed, executed.failed⟩⟩

/-- A device that has started, before its first message. -/
def MqttCommands.start (core : CommandCore) : MqttCommands where
  core :=
    { core with
      commands := { queue := RingQueue.empty {} core.commands.queue.capacity_pos }
      log := [] }

/-- What was queued has been carried out, or has failed, or waits. -/
theorem Accounted.balance {reader : MessageReader} {m : MqttCommands}
    (accounted : Accounted reader m) :
    m.commandsQueued = m.commandsExecuted + m.commandExecutionFailures +
      UInt32.ofNat m.core.commands.contents.length := by
  have lengths := congrArg List.length accounted.conveyed.order
  rw [List.length_append, List.length_map, List.length_map, ← accounted.counted.listed] at lengths
  rw [accounted.counted.queued, accounted.executed.executed, accounted.executed.failed,
    outcomes_all, tally, ← lengths, UInt32.ofNat_add]

/-- In every run of messages, of turns of the queue and of changes to the rest of the device, the
commands that were taken and those that wait are those of the messages that were queued, each once,
in the order of the messages and with their values; and every counter says how many there were of
its kind, so that what was queued has been carried out, or has failed, or waits. -/
theorem messages_accounted (reader : MessageReader) (core : CommandCore)
    (events : List MqttCommands.MqttStep) :
    let m := run (MqttCommands.step reader) (.start core) events
    Accounted reader m ∧
      m.commandsQueued = m.commandsExecuted + m.commandExecutionFailures +
        UInt32.ofNat m.core.commands.contents.length := by
  have start : Accounted reader (.start core) :=
    { conveyed := ⟨rfl, rfl, rfl, fun queued member => by cases member⟩
      counted := ⟨rfl, rfl, rfl, rfl, rfl⟩
      executed := ⟨rfl, rfl⟩ }
  have accounted := invariant_run (MqttCommands.step reader) (Accounted reader) (fun _ _ => True)
    (fun m event kept _ => kept.step event) _ events start fun _ _ => trivial
  intro m
  exact ⟨accounted, accounted.balance⟩

end Application
