import MultibusGateway.Services.DiscoveredCommands

/-! The states of the channels over MQTT. Every reading of an enabled channel is published as a
document on the topic of the channel; a broker that retains it has the last reading that it took. The
document of a state is itself a command for the channel. -/

namespace HomeAssistant
open ByteString BinaryFloat Config Mqtt Preferences Execution RetainedMap
open Application (DataType DataValue MessageReader)

def typeName : DataType → Bytes
  | .boolean => ascii "bool"
  | .int64 => ascii "int64"
  | .uint64 => ascii "uint64"
  | .float64 => ascii "float64"
  | .text => ascii "text"

def valueMember (printed : Binary64 → Json) (value : DataValue) : Json :=
  match value.type with
  | .boolean => .bool value.booleanValue
  | .int64 => .integer value.intValue.toInt
  | .uint64 => .integer value.uintValue.toNat
  | .float64 => printed value.floatValue
  | .text => .text value.textValue

def stateDocument (printed : Binary64 → Json) (binding : ChannelBinding) (value : DataValue) : Json :=
  .object [("channel_id", .integer binding.channelId.toNat), ("source", .text binding.sourceId),
    ("point", .text binding.pointId), ("unit", .text binding.unit), ("valid", .bool value.valid),
    ("value", valueMember printed value), ("type", .text (typeName value.type))]

/-- What the broker has of the states, with the counters of the service and the outcomes of the
publishes to come. Beside it stand the publishes that were tried, with their results, oldest
first. -/
structure States where
  retained : Bytes → Option Bytes := fun _ => none
  publishes : UInt32 := 0
  publishFailures : UInt32 := 0
  outcomes : List Bool := []
  tried : List ((ChannelBinding × DataValue) × Bool) := []

abbrev Readings := ChannelBinding → Option DataValue

namespace States
variable (setup : Setup) (printed : Binary64 → Json)

def stateTopic (channelId : UInt16) : Option Bytes :=
  makeChannelStateTopic (cStr setup.config.topicPrefix) (cStr setup.deviceId) channelId 192

def statePayload (binding : ChannelBinding) (value : DataValue) : Bytes :=
  cStr (setup.serializeJson (stateDocument printed binding value))

def publishChannel (binding : ChannelBinding) (value : DataValue) (s : States) : States × Bool :=
  match stateTopic setup binding.channelId with
  | none =>
    ({ s with
        publishFailures := s.publishFailures + 1
        tried := s.tried ++ [((binding, value), false)] }, false)
  | some topic =>
    if !(draw s.outcomes).1 then
      ({ s with
          publishFailures := s.publishFailures + 1
          outcomes := (draw s.outcomes).2
          tried := s.tried ++ [((binding, value), false)] }, false)
    else
      ({ s with
          retained :=
            if setup.config.retainState then
              Function.update s.retained topic (some (statePayload setup printed binding value))
            else s.retained
          publishes := s.publishes + 1
          outcomes := (draw s.outcomes).2
          tried := s.tried ++ [((binding, value), true)] }, true)

def readable (channels : List ChannelBinding) (read : Readings) :
    List (ChannelBinding × DataValue) :=
  channels.filterMap fun binding =>
    if !binding.enabled then none
    else ((read binding).filter DataValue.valid).map fun value => (binding, value)

/-- The results of the publishes are not looked at. -/
def publishAll (channels : List ChannelBinding) (read : Readings) (s : States) : States :=
  (readable channels read).foldl
    (fun s channel => (s.publishChannel setup printed channel.1 channel.2).1) s

theorem publishChannel_tried (binding : ChannelBinding) (value : DataValue) (s : States) :
    (s.publishChannel setup printed binding value).1.tried.map Prod.fst =
      s.tried.map Prod.fst ++ [(binding, value)] := by
  unfold publishChannel
  split
  · exact List.map_append
  · split <;> exact List.map_append

theorem publishAll_tried (channels : List ChannelBinding) (read : Readings) (s : States) :
    (s.publishAll setup printed channels read).tried.map Prod.fst =
      s.tried.map Prod.fst ++ readable channels read := by
  unfold publishAll
  induction readable channels read generalizing s with
  | nil => exact (List.append_nil _).symm
  | cons channel rest ih =>
    rw [List.foldl_cons, ih, publishChannel_tried, List.append_assoc, List.singleton_append]

end States

/-! What is retained. -/

section
variable (setup : Setup) (printed : Binary64 → Json)

def stateWrite (item : (ChannelBinding × DataValue) × Bool) : Option (Bytes × Option Bytes) :=
  if item.2 && setup.config.retainState then
    (States.stateTopic setup item.1.1.channelId).map fun topic =>
      (topic, some (States.statePayload setup printed item.1.1 item.1.2))
  else none

/-- The counters count the publishes, and what is retained is what the taken ones have written over
what was there before. -/
structure Recorded (before : Bytes → Option Bytes) (s : States) : Prop where
  publishes : s.publishes = UInt32.ofNat (s.tried.countP fun item => item.2)
  failures : s.publishFailures = UInt32.ofNat (s.tried.countP fun item => !item.2)
  retained : s.retained = writeAll before (s.tried.filterMap (stateWrite setup printed))

theorem recorded_publishChannel (before : Bytes → Option Bytes) (s : States)
    (recorded : Recorded setup printed before s) (binding : ChannelBinding) (value : DataValue) :
    Recorded setup printed before (s.publishChannel setup printed binding value).1 := by
  obtain ⟨publishes, failures, retained⟩ := recorded
  have one (n : ℕ) : UInt32.ofNat (n + 1) = UInt32.ofNat n + 1 := by
    rw [UInt32.ofNat_add]
    rfl
  unfold States.publishChannel
  cases made : States.stateTopic setup binding.channelId with
  | none =>
    constructor
    · simp [publishes]
    · simp [failures, one]
    · simp [retained, stateWrite]
  | some topic =>
    cases taken : (draw s.outcomes).1 with
    | false =>
      constructor
      · simp [publishes]
      · simp [failures, one]
      · simp [retained, stateWrite]
    | true =>
      constructor
      · simp [publishes, one]
      · simp [failures]
      · by_cases retain : setup.config.retainState = true
        · simp [retained, stateWrite, retain, made, writeAll_append]
        · simp [retained, stateWrite, retain]

theorem recorded_publishAll (before : Bytes → Option Bytes) (s : States)
    (recorded : Recorded setup printed before s) (channels : List ChannelBinding)
    (read : Readings) : Recorded setup printed before (s.publishAll setup printed channels read) := by
  unfold States.publishAll
  induction States.readable channels read generalizing s with
  | nil => exact recorded
  | cons channel rest ih =>
    exact ih _ (recorded_publishChannel setup printed before s recorded channel.1 channel.2)

end

theorem stateTopic_injective (setup : Setup) {first second : UInt16} {topic : Bytes}
    (made : States.stateTopic setup first = some topic)
    (other : States.stateTopic setup second = some topic) : first = second := by
  unfold States.stateTopic makeChannelStateTopic channelTopic at made other
  split at made
  · cases made
  · split at other
    · cases other
    · have same := (printed_eq_some made).symm.trans (printed_eq_some other)
      have ids := List.append_cancel_left (List.append_cancel_left (List.append_cancel_left
        (List.append_cancel_left same)))
      exact UInt16.toNat_inj.mp (decimal_injective (List.append_cancel_right ids))

def lastTaken (channelId : UInt16) (tried : List ((ChannelBinding × DataValue) × Bool)) :
    Option (ChannelBinding × DataValue) :=
  (tried.reverse.find? fun item => item.2 && item.1.1.channelId == channelId).map Prod.fst

theorem lastTaken_concat (channelId : UInt16) (tried : List ((ChannelBinding × DataValue) × Bool))
    (item : (ChannelBinding × DataValue) × Bool) :
    lastTaken channelId (tried ++ [item]) =
      if item.2 = true ∧ item.1.1.channelId = channelId then some item.1
      else lastTaken channelId tried := by
  rw [lastTaken, List.reverse_append, List.reverse_singleton, List.singleton_append,
    List.find?_cons]
  by_cases last : item.2 = true ∧ item.1.1.channelId = channelId
  · simp [last]
  · have other : (item.2 && item.1.1.channelId == channelId) = false := by
      simpa using last
    rw [other, if_neg last]
    rfl

section
variable (setup : Setup) (printed : Binary64 → Json)

theorem stateWrite_topic (retain : setup.config.retainState = true) (channelId : UInt16)
    (topic : Bytes) (made : States.stateTopic setup channelId = some topic)
    (item : (ChannelBinding × DataValue) × Bool) :
    stateWrite setup printed item =
        (if item.2 = true ∧ item.1.1.channelId = channelId then
          some (topic, some (States.statePayload setup printed item.1.1 item.1.2)) else none) ∨
      ∃ other, other ≠ topic ∧ (stateWrite setup printed item).map Prod.fst = some other ∧
        ¬ (item.2 = true ∧ item.1.1.channelId = channelId) := by
  obtain ⟨⟨binding, value⟩, taken⟩ := item
  cases taken with
  | false => exact Or.inl (by simp [stateWrite])
  | true =>
    by_cases own : binding.channelId = channelId
    · subst own
      exact Or.inl (by simp [stateWrite, retain, made])
    · cases topics : States.stateTopic setup binding.channelId with
      | none => exact Or.inl (by simp [stateWrite, topics, own])
      | some other =>
        refine Or.inr ⟨other, ?_, by simp [stateWrite, retain, topics], by simp [own]⟩
        rintro rfl
        exact own (stateTopic_injective setup topics made)

/-- The topic of a channel has its last state that was taken. -/
theorem Recorded.retained_last {before : Bytes → Option Bytes} {s : States}
    (recorded : Recorded setup printed before s) (retain : setup.config.retainState = true)
    (channelId : UInt16) (topic : Bytes) (made : States.stateTopic setup channelId = some topic) :
    s.retained topic =
      ((lastTaken channelId s.tried).map fun last =>
        some (States.statePayload setup printed last.1 last.2)).getD (before topic) := by
  rw [recorded.retained]
  induction s.tried using List.reverseRecOn with
  | nil => rfl
  | append_singleton rest item ih =>
    have last : [item].filterMap (stateWrite setup printed) =
        (stateWrite setup printed item).toList := by
      cases written : stateWrite setup printed item <;> simp [written]
    rw [List.filterMap_append, last, lastTaken_concat]
    rcases stateWrite_topic setup printed retain channelId topic made item with
      same | ⟨other, apart, written, foreign⟩
    · rw [same]
      by_cases own : item.2 = true ∧ item.1.1.channelId = channelId
      · rw [if_pos own, if_pos own, Option.toList_some, writeAll_concat, if_pos rfl]
        rfl
      · rw [if_neg own, if_neg own, Option.toList_none, List.append_nil]
        exact ih
    · obtain ⟨write, writes, rfl⟩ := Option.map_eq_some_iff.mp written
      rw [if_neg foreign, writes, Option.toList_some, writeAll_concat, if_neg apart.symm]
      exact ih

end

/-! A state as a command. -/

def meant (value : DataValue) : DataValue :=
  match value.type with
  | .boolean => { type := .boolean, valid := true, booleanValue := value.booleanValue }
  | .int64 => { type := .int64, valid := true, intValue := value.intValue }
  | .uint64 => { type := .uint64, valid := true, uintValue := value.uintValue }
  | .float64 => { type := .float64, valid := true, floatValue := value.floatValue }
  | .text => { type := .text, valid := true, textValue := value.textValue }

/-- The values that a document keeps: a number with a fraction that is printed as it is, and a text
that fits into a command. -/
def Kept (reader : MessageReader) (printed : Binary64 → Json) (value : DataValue) : Prop :=
  match value.type with
  | .float64 => reader.asDouble (printed value.floatValue) = some value.floatValue
  | .text => (0 : UInt8) ∉ value.textValue ∧ value.textValue.length < Commands.kCommandTextLength
  | _ => True

theorem inputValue_valueMember (reader : MessageReader) (printed : Binary64 → Json)
    (value : DataValue) (kept : Kept reader printed value) :
    reader.inputValue (valueMember printed value) value.type = some (meant value) := by
  unfold Kept at kept
  unfold valueMember meant
  cases type : value.type with
  | boolean => rfl
  | int64 =>
    have low := value.intValue.le_toInt
    have high := value.intValue.toInt_lt
    simp [MessageReader.inputValue, Json.asInt64]
    omega
  | uint64 =>
    have high := value.uintValue.toNat_lt
    simp [MessageReader.inputValue, Json.asUInt64]
    omega
  | float64 =>
    rw [type] at kept
    dsimp only at kept ⊢
    rw [MessageReader.inputValue, kept]
    rfl
  | text =>
    rw [type] at kept
    have same := Mqtt.cStr_eq_self value.textValue kept.1
    simp [MessageReader.inputValue, Json.asText, same, kept.2]

/-- The state of a channel that takes commands, sent to the topic of its commands, is queued as the
command for the same value. -/
theorem state_commands_back (setup : Setup) (printed : Binary64 → Json) (library : Json.Library)
    (real : Json → Binary64) (m : Application.MqttCommands) (binding : Application.ChannelBinding)
    (unit : Bytes) (descriptor : Application.DataPointDescriptor) (value : DataValue)
    (timestampUnix : UInt32) (publishes : Publishes setup) (some_ : binding.channelId ≠ 0)
    (found : m.core.channels.find binding.channelId = some binding)
    (enabled : binding.enabled = true) (writable : binding.writable = true)
    (described : Application.describeBoundChannel binding m.core.modbus = some descriptor)
    (served : descriptor.writable = true) (typed : value.type = descriptor.type)
    (kept : Kept (readerOf setup library real) printed value)
    (room : m.core.commands.contents.length < 16)
    (short : (States.statePayload setup printed (seen binding unit) value).length ≤ 512)
    (reads : library.deserializeJson (States.statePayload setup printed (seen binding unit) value) =
      .ok (stateDocument printed (seen binding unit) value)) :
    ∃ topic payload command,
      makeChannelCommandTopic (cStr setup.config.topicPrefix) (cStr setup.deviceId)
          binding.channelId 192 = some topic ∧
      (∀ s : States, (draw s.outcomes).1 = true → setup.config.retainState = true →
        ∃ stateTopic, States.stateTopic setup binding.channelId = some stateTopic ∧
          (s.publishChannel setup printed (seen binding unit) value).1.retained stateTopic =
            some payload) ∧
      (m.handleMessage (readerOf setup library real) topic payload timestampUnix).messages =
        m.messages ++ [⟨topic, payload, command⟩] ∧
      command.channelId = binding.channelId ∧ Application.commandValue command = meant value := by
  have command := channelTopic_fits _ _ publishes.prefixText publishes.device binding.channelId some_
    (ascii "/set") (by decide +kernel)
  have state := channelTopic_fits _ _ publishes.prefixText publishes.device binding.channelId some_
    (ascii "/state") (by decide +kernel)
  have member : (stateDocument printed (seen binding unit) value).get "value" =
      valueMember printed value := by
    simp [stateDocument]
  have input := inputValue_valueMember (readerOf setup library real) printed value kept
  rw [typed, ← member] at input
  obtain ⟨queued, message, channel, same⟩ := Application.handleMessage_takes
    (readerOf setup library real) m (topicOf setup binding.channelId (ascii "/set"))
    (States.statePayload setup printed (seen binding unit) value) timestampUnix binding descriptor
    (stateDocument printed (seen binding unit) value) (meant value)
    (publishes.commandTopic_parsed library real binding.channelId some_) some_ found enabled
    writable described served (setup.written _) short reads input room
  refine ⟨_, _, queued, command, ?_, message, channel, same⟩
  intro s taken retain
  refine ⟨_, state, ?_⟩
  have made : States.stateTopic setup (seen binding unit).channelId = some _ := state
  unfold States.publishChannel
  rw [made]
  dsimp only
  rw [taken, retain]
  simp

def coilText : Bytes :=
  ascii "\x7b\"channel_id\":1,\"source\":\"modbus\",\"point\":\"compat/1\"," ++
  ascii "\"unit\":\"\",\"valid\":true,\"value\":true,\"type\":\"bool\"\x7d"

def coilBinding : Application.ChannelBinding where
  channelId := 1
  sourceId := "modbus"
  pointId := "compat/1"
  writable := true
  compatibilityMapped := true

def coilOn : DataValue := { type := .boolean, valid := true, booleanValue := true }

def coilSetup : Setup where
  config := { enabled := true, host := ascii "broker" }
  deviceId := ascii "gw"
  serializeJson := fun _ => coilText
  written := fun _ => by decide +kernel

def coilLibrary : Json.Library where
  serializeJsonPretty := fun _ => coilText
  deserializeJson := fun payload =>
    if payload = coilText then .ok (stateDocument (fun _ => .null) (seen coilBinding []) coilOn)
    else .error (ascii "InvalidInput")

theorem state_commands_back_coil :
    ∃ topic payload command,
      makeChannelCommandTopic (cStr coilSetup.config.topicPrefix) (cStr coilSetup.deviceId) 1 192 =
        some topic ∧
      ((Application.MqttCommands.start Application.CommandRun.coilCore).handleMessage
        (readerOf coilSetup coilLibrary fun _ => Binary64.ofInt 0) topic payload 0).messages =
          [⟨topic, payload, command⟩] ∧
      command.channelId = 1 ∧ Application.commandValue command = coilOn := by
  have text : States.statePayload coilSetup (fun _ => .null) (seen coilBinding []) coilOn =
      coilText := by
    decide +kernel
  have reads : coilLibrary.deserializeJson
      (States.statePayload coilSetup (fun _ => .null) (seen coilBinding []) coilOn) =
        .ok (stateDocument (fun _ => .null) (seen coilBinding []) coilOn) := by
    simp [text, coilLibrary]
  obtain ⟨topic, payload, command, made, -, message, channel, same⟩ :=
    state_commands_back coilSetup (fun _ => .null) coilLibrary (fun _ => Binary64.ofInt 0)
      (.start Application.CommandRun.coilCore) coilBinding []
      { id := "compat/1", type := .boolean, writable := true } coilOn 0
      ⟨by decide +kernel, by decide +kernel, by decide +kernel⟩ (by decide +kernel)
      (by decide +kernel) rfl rfl (by decide +kernel) rfl rfl trivial (by decide +kernel)
      (by decide +kernel) reads
  exact ⟨topic, payload, command, made, message, channel, same⟩

end HomeAssistant
