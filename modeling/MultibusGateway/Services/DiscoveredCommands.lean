import MultibusGateway.Core.CommandOrder
import MultibusGateway.Core.WriteDelivery
import MultibusGateway.Services.CommandAccounts
import MultibusGateway.Services.DiscoverySignature

/-! The entities that discovery shows as writable are commanded over the topics and with the payloads
that their documents say. -/

namespace Application
open ByteString BinaryFloat Commands Events Execution Modbus

/-- A message is queued with this value for this channel. -/
def Takes (reader : MessageReader) (topic payload : Bytes) (timestampUnix : UInt32)
    (channelId : UInt16) (value : DataValue) (m : MqttCommands) : Prop :=
  ∃ command, (m.handleMessage reader topic payload timestampUnix).messages =
      m.messages ++ [⟨topic, payload, command⟩] ∧
    command.channelId = channelId ∧ commandValue command = value

theorem origin_mqtt : ∃ origin, setCommandText kCommandOriginLength (ascii "mqtt") false =
    some origin ∧ validCommandText origin false = true :=
  ⟨Vector.ofFn fun i => byteAt (ascii "mqtt") i, by decide +kernel, by decide +kernel⟩

theorem readCommand_takes (reader : MessageReader) (channelId : UInt16) (type : DataType)
    (payload : Bytes) (doc : Json) (value : DataValue)
    (document : reader.library.deserializeJson payload = .ok doc)
    (typed : reader.inputValue (doc.get "value") type = some value) :
    ∃ command, reader.readCommand channelId type payload = some command ∧
      command.channelId = channelId ∧ validCommandText command.origin false = true ∧
      commandValue command = value := by
  obtain ⟨origin, named, valid⟩ := origin_mqtt
  have some_ : (doc.get "value").isNull = false := by
    cases input : doc.get "value" with
    | null =>
      rw [input] at typed
      cases type <;> cases typed
    | _ => rfl
  have read := readInput_value reader (doc.get "value") { channelId := channelId, origin := origin }
    type
  rw [typed] at read
  obtain ⟨command, written, same⟩ := Option.map_eq_some_iff.mp read
  obtain ⟨channel, origins⟩ := readInput_kept reader _ _ command type written
  refine ⟨command, ?_, channel, ?_, same⟩
  · unfold MessageReader.readCommand
    rw [document]
    dsimp only
    rw [some_, if_neg Bool.false_ne_true, named]
    exact written
  · rw [origins]
    exact valid

/-- A message is queued if its channel takes commands, its value is one of the point's type, and the
queue has room. -/
theorem handleMessage_takes (reader : MessageReader) (m : MqttCommands) (topic payload : Bytes)
    (timestampUnix : UInt32) (binding : ChannelBinding) (descriptor : DataPointDescriptor)
    (doc : Json) (value : DataValue)
    (parsed : Mqtt.parseChannelCommandTopic reader.topicPrefix reader.deviceId topic =
      { valid := true, channelId := binding.channelId })
    (some_ : binding.channelId ≠ 0)
    (found : m.core.channels.find binding.channelId = some binding)
    (enabled : binding.enabled = true) (writable : binding.writable = true)
    (described : describeBoundChannel binding m.core.modbus = some descriptor)
    (served : descriptor.writable = true) (filled : payload ≠ []) (short : payload.length ≤ 512)
    (document : reader.library.deserializeJson payload = .ok doc)
    (typed : reader.inputValue (doc.get "value") descriptor.type = some value)
    (room : m.core.commands.contents.length < 16) :
    Takes reader topic payload timestampUnix binding.channelId value m := by
  obtain ⟨command, read, channel, origin, same⟩ :=
    readCommand_takes reader binding.channelId descriptor.type payload doc value document typed
  have accepted : (m.core.commands.enqueue command).2 = true := by
    rw [← Bool.not_eq_false, enqueue_refused_iff]
    rintro (full | zero | unnamed)
    · omega
    · exact some_ (channel.symm.trans zero)
    · exact unnamed ((validCommandText_iff command.origin).mp origin)
  refine ⟨m.core.commands.numbered command, ?_, channel, same⟩
  have sized : (payload.length == 0) = false := by
    rw [beq_eq_false_iff_ne, ne_eq, List.length_eq_zero_iff]
    exact filled
  unfold MqttCommands.handleMessage
  rw [parsed]
  dsimp only
  rw [Bool.not_true, if_neg Bool.false_ne_true, found]
  dsimp only
  rw [enabled, writable]
  unfold MqttCommands.writeBoundChannelFromMqtt
  dsimp only
  rw [writable, sized, decide_eq_false (Nat.not_lt.mpr short), described, Option.filter_some, served,
    if_pos rfl]
  simp only [Bool.not_true, Bool.or_self, Bool.false_eq_true, if_false, read]
  rw [← Prod.eta (m.core.commands.enqueue command), accepted]

end Application

namespace HomeAssistant
open ByteString BinaryFloat Config Mqtt DecimalText
open Application (DataPointDescriptor DataValue MessageReader MqttCommands Takes)

/-- A binding of the application, as discovery reads it. -/
def seen (binding : Application.ChannelBinding) (unit : Bytes) : ChannelBinding where
  channelId := binding.channelId
  sourceId := ascii binding.sourceId
  pointId := ascii binding.pointId
  unit := unit
  enabled := binding.enabled
  writable := binding.writable

/-- What the messages of the device are read with. -/
def readerOf (setup : Setup) (library : Json.Library) (real : Json → Binary64) :
    MessageReader where
  topicPrefix := cStr setup.config.topicPrefix
  deviceId := cStr setup.deviceId
  library := library
  real := real

theorem writable_of_commanded (channel : Described)
    (commanded : discoveryComponent channel = .switch ∨ discoveryComponent channel = .number) :
    channel.1.writable = true ∧ channel.2.writable = true := by
  obtain ⟨binding, descriptor⟩ := channel
  unfold discoveryComponent at commanded
  by_cases both : (binding.writable && descriptor.writable) = true
  · exact Bool.and_eq_true_iff.mp both
  · dsimp only at commanded
    rw [if_neg both] at commanded
    by_cases boolean : descriptor.type = .boolean
    · rw [if_pos boolean] at commanded
      exact absurd commanded (by decide)
    · rw [if_neg boolean] at commanded
      exact absurd commanded (by decide)

theorem boolean_of_switch (channel : Described)
    (switch : discoveryComponent channel = .switch) : channel.2.type = .boolean := by
  obtain ⟨binding, descriptor⟩ := channel
  unfold discoveryComponent at switch
  dsimp only at switch ⊢
  split at switch
  · cases type : descriptor.type <;> simp [type] at switch ⊢
  · split at switch <;> cases switch

theorem commandTopic_shown (setup : Setup) (channel : Described)
    (commanded : discoveryComponent channel = .switch ∨ discoveryComponent channel = .number) :
    (publishedAs setup channel).2.get "command_topic" =
      .text (topicOf setup channel.1.channelId (ascii "/set")) := by
  rw [publishedAs, commandTopicOf, if_pos commanded]
  unfold discoveryDocument
  rcases commanded with component | component <;> rw [component] <;>
    by_cases unit : channel.1.unit.isEmpty = true <;> simp [unit, componentMembers]

theorem payload_shown (setup : Setup) (channel : Described) (on : Bool)
    (switch : discoveryComponent channel = .switch) :
    (publishedAs setup channel).2.get (if on then "payload_on" else "payload_off") =
      .text (ascii (if on then "\x7b\"value\":true\x7d" else "\x7b\"value\":false\x7d")) := by
  rw [publishedAs]
  unfold discoveryDocument
  rw [switch]
  cases on <;> by_cases unit : channel.1.unit.isEmpty = true <;> simp [unit, componentMembers]

theorem Publishes.commandTopic_parsed {setup : Setup} (publishes : Publishes setup)
    (library : Json.Library) (real : Json → Binary64) (channelId : UInt16) (some_ : channelId ≠ 0) :
    parseChannelCommandTopic (readerOf setup library real).topicPrefix
        (readerOf setup library real).deviceId (topicOf setup channelId (ascii "/set")) =
      { valid := true, channelId := channelId } := by
  have made := channelTopic_fits _ _ publishes.prefixText publishes.device channelId some_
    (ascii "/set") (by decide +kernel)
  refine (parseChannelCommandTopic_iff _ _ publishes.states publishes.device _ _).mpr ?_
  exact ⟨some_, DecimalText.text channelId.toNat, text_ne_nil _, isDigit_text _, valueFrom_text _,
    makeChannelCommandTopic_text _ _ publishes.prefixText publishes.device channelId 192 _ made⟩

/-- What discovery shows as writable is taken: an entity for commands is published with the topic of
its channel, and a message on this topic is queued for the channel with any value of the point's
type, and with the payloads of a switch for on and off. -/
theorem discovered_commandable (setup : Setup) (library : Json.Library) (real : Json → Binary64)
    (m : MqttCommands) (binding : Application.ChannelBinding) (unit : Bytes)
    (descriptor : DataPointDescriptor) (timestampUnix : UInt32)
    (publishes : Publishes setup) (some_ : binding.channelId ≠ 0)
    (found : m.core.channels.find binding.channelId = some binding)
    (enabled : binding.enabled = true)
    (described : Application.describeBoundChannel binding m.core.modbus = some descriptor)
    (commanded : discoveryComponent (seen binding unit, descriptor) = .switch ∨
      discoveryComponent (seen binding unit, descriptor) = .number)
    (room : m.core.commands.contents.length < 16) :
    let reader := readerOf setup library real
    ∃ doc topic,
      publication setup (seen binding unit, descriptor) =
        some (discoveryComponent (seen binding unit, descriptor), doc) ∧
      doc.get "command_topic" = .text topic ∧
      (∀ payload sent value, payload ≠ [] → payload.length ≤ 512 →
        library.deserializeJson payload = .ok sent →
        reader.inputValue (sent.get "value") descriptor.type = some value →
        Takes reader topic payload timestampUnix binding.channelId value m) ∧
      (discoveryComponent (seen binding unit, descriptor) = .switch → ∀ on : Bool, ∃ payload,
        doc.get (if on then "payload_on" else "payload_off") = .text payload ∧
        (library.deserializeJson payload = .ok (.object [("value", .bool on)]) →
          Takes reader topic payload timestampUnix binding.channelId
            { type := .boolean, valid := true, booleanValue := on } m)) := by
  intro reader
  obtain ⟨writable, served⟩ := writable_of_commanded _ commanded
  have parsed := publishes.commandTopic_parsed library real binding.channelId some_
  have takes (payload : Bytes) (sent : Json) (value : DataValue) (filled : payload ≠ [])
      (short : payload.length ≤ 512) (document : library.deserializeJson payload = .ok sent)
      (typed : reader.inputValue (sent.get "value") descriptor.type = some value) :
      Takes reader (topicOf setup binding.channelId (ascii "/set")) payload timestampUnix
        binding.channelId value m :=
    Application.handleMessage_takes reader m _ payload timestampUnix binding descriptor sent value
      parsed some_ found enabled writable described served filled short document typed room
  refine ⟨(publishedAs setup (seen binding unit, descriptor)).2, _,
    publishes.publication (seen binding unit, descriptor) some_,
    commandTopic_shown setup _ commanded, takes, fun switch on => ?_⟩
  refine ⟨_, payload_shown setup _ on switch, fun document => ?_⟩
  have boolean : descriptor.type = .boolean := boolean_of_switch _ switch
  refine takes _ _ _ ?_ ?_ document ?_
  · cases on <;> decide +kernel
  · cases on <;> decide +kernel
  · rw [boolean]
    rfl

/-- A library that reads the two payloads of a switch. -/
def switchLibrary : Json.Library where
  serializeJsonPretty := fun _ => []
  deserializeJson := fun payload =>
    if payload = ascii "\x7b\"value\":true\x7d" then .ok (.object [("value", .bool true)])
    else if payload = ascii "\x7b\"value\":false\x7d" then .ok (.object [("value", .bool false)])
    else .error (ascii "InvalidInput")

/-- The coil in the first slot is discovered as a switch, and takes what a switch sends. -/
theorem discovered_commandable_coil :
    ∃ binding descriptor doc topic,
      Application.CommandRun.coilCore.channels.find 1 = some binding ∧
      publication MqttService.gatewaySetup (seen binding [], descriptor) = some (.switch, doc) ∧
      doc.get "command_topic" = .text topic ∧
      ∀ on : Bool, ∃ payload,
        doc.get (if on then "payload_on" else "payload_off") = .text payload ∧
        Takes (readerOf MqttService.gatewaySetup switchLibrary (fun _ => Binary64.ofInt 0)) topic
          payload 0 1 { type := .boolean, valid := true, booleanValue := on }
          (.start Application.CommandRun.coilCore) := by
  let binding : Application.ChannelBinding :=
    { channelId := 1, sourceId := "modbus", pointId := "compat/1", enabled := true, writable := true,
      compatibilityMapped := true }
  let descriptor : DataPointDescriptor :=
    { id := "compat/1", type := .boolean, writable := true }
  have component : discoveryComponent (seen binding [], descriptor) = .switch := by decide +kernel
  have publishes : Publishes MqttService.gatewaySetup :=
    ⟨by decide +kernel, by decide +kernel, by decide +kernel⟩
  obtain ⟨doc, topic, published, commands, -, switches⟩ :=
    discovered_commandable MqttService.gatewaySetup switchLibrary (fun _ => Binary64.ofInt 0)
      (.start Application.CommandRun.coilCore) binding [] descriptor 0 publishes (by decide +kernel)
      (by decide +kernel) rfl (by decide +kernel) (Or.inl component) (by decide +kernel)
  have own := publishes.publication (seen binding [], descriptor) (by decide +kernel)
  have same : doc = (publishedAs MqttService.gatewaySetup (seen binding [], descriptor)).2 :=
    congrArg Prod.snd (Option.some.inj (published.symm.trans own))
  rw [component] at published
  refine ⟨binding, descriptor, doc, topic, by decide +kernel, published, commands, fun on => ?_⟩
  obtain ⟨payload, shown, takes⟩ := switches component on
  have printed := payload_shown MqttService.gatewaySetup _ on component
  rw [← same, shown] at printed
  refine ⟨payload, shown, takes ?_⟩
  rw [Json.text.inj printed]
  cases on <;> rfl

end HomeAssistant
