import MultibusGateway.Core.DataSource
import MultibusGateway.Library.Execution
import MultibusGateway.Library.Json
import MultibusGateway.Library.Preferences
import MultibusGateway.Library.RetainedMap
import MultibusGateway.Services.MqttProtocol

/-! The discovery of Home Assistant. Each channel that is enabled and described has a document
retained on the broker; a refresh clears the documents of entries that are gone and publishes the
others. It keeps a signature of what it has done, whatever became of the attempts. -/

namespace HomeAssistant
open ByteString Preferences Config Mqtt Execution
open Application (DataType DataPointDescriptor)

def kRecommendedMaxChannels : ℕ := 64

/-- The fields of a binding that discovery reads. -/
structure ChannelBinding where
  channelId : UInt16
  sourceId : Bytes := []
  pointId : Bytes := []
  unit : Bytes := []
  enabled : Bool := true
  writable : Bool := false

/-- The bindings in the registry, where an id has one binding, and what the sources say of their
points. -/
structure ChannelTable where
  channels : List ChannelBinding := []
  describe : ChannelBinding → Option DataPointDescriptor
  distinct : (channels.map ChannelBinding.channelId).Nodup
  few : channels.length ≤ kRecommendedMaxChannels

abbrev Described := ChannelBinding × DataPointDescriptor

def ChannelTable.described (table : ChannelTable) : List Described :=
  table.channels.filterMap fun binding =>
    if !binding.enabled then none
    else (table.describe binding).map fun descriptor => (binding, descriptor)

def ChannelTable.wanted (table : ChannelTable) : List Described :=
  table.described.take kRecommendedMaxChannels

/-! The signature of the channels. -/

def hashBytes (hash : UInt32) (data : Bytes) : UInt32 :=
  data.foldl (fun hash byte => (hash ^^^ byte.toUInt32) * 16777619) hash

def typeByte : DataType → UInt8
  | .boolean => 0
  | .int64 => 1
  | .uint64 => 2
  | .float64 => 3
  | .text => 4

def hashChannel (hash : UInt32) : Described → UInt32
  | (binding, descriptor) =>
    let hash := hashBytes hash (writeU16 binding.channelId)
    let hash := hashBytes hash [if binding.writable then 1 else 0, typeByte descriptor.type]
    let hash := hashBytes hash binding.sourceId
    let hash := hashBytes hash binding.pointId
    hashBytes hash binding.unit

/-- That the point itself is writable has no part in it. -/
def ChannelTable.discoverySignature (table : ChannelTable) : UInt32 :=
  table.described.foldl hashChannel 2166136261

/-! The entries and their documents. -/

def discoveryComponent : Described → Component
  | (binding, descriptor) =>
    if binding.writable && descriptor.writable then
      match descriptor.type with
      | .boolean => .switch
      | .int64 | .uint64 | .float64 => .number
      | .text => .sensor
    else if descriptor.type = .boolean then .binarySensor
    else .sensor

structure DiscoveryEntry where
  channelId : UInt16
  component : Component
  deriving DecidableEq

def entryOf (channel : Described) : DiscoveryEntry where
  channelId := channel.1.channelId
  component := discoveryComponent channel

/-- What the service is given at its begin, with the library that writes a document as a text. -/
structure Setup where
  config : MqttConfig
  deviceId : Bytes
  serializeJson : Json → Bytes
  /-- The text of a document is not empty. -/
  written : ∀ doc, cStr (serializeJson doc) ≠ []

section messages
variable (setup : Setup)

def discoveryTopic (entry : DiscoveryEntry) : Option Bytes :=
  makeHomeAssistantDiscoveryTopic (cStr setup.config.homeAssistantPrefix) (cStr setup.deviceId)
    entry.channelId 224 entry.component

def componentMembers (component : Component) (commandTopic : Bytes) : List (String × Json) :=
  match component with
  | .binarySensor =>
    [("value_template", .text (ascii "\x7b\x7b value_json.value | string | lower \x7d\x7d")),
      ("payload_on", .text (ascii "true")), ("payload_off", .text (ascii "false"))]
  | .switch =>
    [("value_template", .text (ascii "\x7b\x7b value_json.value | string | lower \x7d\x7d")),
      ("state_on", .text (ascii "true")), ("state_off", .text (ascii "false")),
      ("command_topic", .text commandTopic),
      ("payload_on", .text (ascii "\x7b\"value\":true\x7d")),
      ("payload_off", .text (ascii "\x7b\"value\":false\x7d"))]
  | .number =>
    [("value_template", .text (ascii "\x7b\x7b value_json.value \x7d\x7d")),
      ("command_topic", .text commandTopic),
      ("command_template", .text (ascii "\x7b\"value\": \x7b\x7b value \x7d\x7d\x7d"))]
  | .sensor => [("value_template", .text (ascii "\x7b\x7b value_json.value \x7d\x7d"))]

def discoveryDocument (channel : Described) (stateTopic availabilityTopic commandTopic : Bytes) :
    Json :=
  let binding := channel.1
  let number := decimal binding.channelId.toNat
  .object ([("name", .text (if binding.pointId.isEmpty then ascii "Channel " ++ number
      else binding.pointId)),
      ("unique_id", .text (setup.deviceId ++ ascii "_ch" ++ number)),
      ("state_topic", .text stateTopic), ("availability_topic", .text availabilityTopic)] ++
    (if binding.unit.isEmpty then [] else [("unit_of_measurement", .text binding.unit)]) ++
    componentMembers (discoveryComponent channel) commandTopic ++
    [("device", .object [("identifiers", .array [.text setup.deviceId]),
      ("name", .text setup.deviceId), ("manufacturer", .text (ascii "MultiBus")),
      ("model", .text (ascii "ESP32 MultiBus Gateway"))])])

def discoveryMessage (channel : Described) : Option (Bytes × Bytes) :=
  let channelId := channel.1.channelId
  let topicPrefix := cStr setup.config.topicPrefix
  let deviceId := cStr setup.deviceId
  let component := discoveryComponent channel
  match discoveryTopic setup (entryOf channel),
    makeChannelStateTopic topicPrefix deviceId channelId 192,
    makeAvailabilityTopic topicPrefix deviceId 192 with
  | some topic, some stateTopic, some availabilityTopic =>
    let commandTopic :=
      if component = .switch ∨ component = .number then
        makeChannelCommandTopic topicPrefix deviceId channelId 192
      else some []
    commandTopic.map fun commandTopic =>
      (topic, cStr (setup.serializeJson
        (discoveryDocument setup channel stateTopic availabilityTopic commandTopic)))
  | _, _, _ => none

end messages

/-! The service and the broker. -/

/-- An attempt to change what is retained for an entry; there is no message if a topic cannot be
made, and an empty payload clears. -/
structure Attempt where
  entry : DiscoveryEntry
  message : Option (Bytes × Bytes)

def clearing (setup : Setup) (entry : DiscoveryEntry) : Attempt where
  entry := entry
  message := (discoveryTopic setup entry).map fun topic => (topic, [])

def publishing (setup : Setup) (channel : Described) : Attempt where
  entry := entryOf channel
  message := discoveryMessage setup channel

/-- The service with the documents that the broker retains. Beside it stand the attempts of the
last refresh with their results, the topics of the documents published in this boot, and the
channels of the last refresh that did its work. -/
structure MqttService where
  table : ChannelTable
  broker : Bytes → Option Bytes := fun _ => none
  discovered : List DiscoveryEntry := []
  discoverySignature : UInt32 := 0
  discoveryFailures : UInt32 := 0
  discoveryPublishes : UInt32 := 0
  /-- Which of the publishes to come succeed; those beyond the list do. -/
  outcomes : List Bool := []
  attempts : List (DiscoveryEntry × Bool) := []
  published : List Bytes := []
  refreshed : List Described := []

namespace MqttService

def publish (topic payload : Bytes) (s : MqttService) : MqttService × Bool :=
  if (draw s.outcomes).1 then
    ({ s with
        broker := Function.update s.broker topic (if payload.isEmpty then none else some payload)
        outcomes := (draw s.outcomes).2 }, true)
  else ({ s with outcomes := (draw s.outcomes).2 }, false)

def failed (entry : DiscoveryEntry) (s : MqttService) : MqttService :=
  { s with
    discoveryFailures := s.discoveryFailures + 1
    attempts := s.attempts ++ [(entry, false)] }

def attempt (attempted : Attempt) (s : MqttService) : MqttService × Bool :=
  match attempted.message with
  | none => (s.failed attempted.entry, false)
  | some (topic, payload) =>
    match s.publish topic payload with
    | (s, false) => (s.failed attempted.entry, false)
    | (s, true) =>
      ({ s with
          attempts := s.attempts ++ [(attempted.entry, true)]
          published := if payload.isEmpty then s.published else topic :: s.published }, true)

def clearHomeAssistantDiscovery (setup : Setup) (entry : DiscoveryEntry) (s : MqttService) :
    MqttService × Bool :=
  s.attempt (clearing setup entry)

def publishHomeAssistantDiscovery (setup : Setup) (channel : Described) (s : MqttService) :
    MqttService × Bool :=
  match s.attempt (publishing setup channel) with
  | (s, false) => (s, false)
  | (s, true) => ({ s with discoveryPublishes := s.discoveryPublishes + 1 }, true)

/-- What both loops of a refresh do: the results of the attempts are not looked at. -/
def refreshAll (setup : Setup) (s : MqttService) : MqttService :=
  let signature := s.table.discoverySignature
  let wanted := s.table.wanted
  let desired := wanted.map entryOf
  let s :=
    if s.table.described.length > kRecommendedMaxChannels then
      { s with discoveryFailures := s.discoveryFailures + 1 }
    else s
  let stale := s.discovered.filter fun entry => !desired.contains entry
  let s := stale.foldl (fun s entry => (s.clearHomeAssistantDiscovery setup entry).1) s
  let s := wanted.foldl (fun s channel => (s.publishHomeAssistantDiscovery setup channel).1) s
  { s with
    discovered := desired
    discoverySignature := signature
    refreshed := wanted }

def ready (outcomes : List Bool) (s : MqttService) : MqttService :=
  { s with outcomes := outcomes, attempts := [] }

def refreshHomeAssistantDiscovery (setup : Setup) (force connected : Bool) (outcomes : List Bool)
    (s : MqttService) : MqttService :=
  let s := s.ready outcomes
  if !setup.config.homeAssistantDiscovery || !connected then s
  else if !force && s.table.discoverySignature == s.discoverySignature then s
  else s.refreshAll setup

end MqttService

/-! What a list of attempts does. -/

def Reliable (items : List Attempt) (outcomes : List Bool) : Prop :=
  (∀ item ∈ items, item.message.isSome) ∧ ∀ ok ∈ outcomes.take items.length, ok = true

instance (items : List Attempt) (outcomes : List Bool) : Decidable (Reliable items outcomes) :=
  inferInstanceAs (Decidable (_ ∧ _))

theorem reliable_append (first second : List Attempt) (outcomes : List Bool) :
    Reliable (first ++ second) outcomes ↔
      Reliable first outcomes ∧ Reliable second (outcomes.drop first.length) := by
  simp only [Reliable, List.forall_mem_append, List.length_append, List.take_add]
  exact and_and_and_comm

def Attempt.write (item : Attempt) : Option (Bytes × Option Bytes) :=
  item.message.map fun message =>
    (message.1, if message.2.isEmpty then none else some message.2)

namespace MqttService
open RetainedMap

structure Worked (items : List Attempt) (s result : MqttService) : Prop where
  table : result.table = s.table
  discovered : result.discovered = s.discovered
  attempts : ∃ made : List (DiscoveryEntry × Bool), result.attempts = s.attempts ++ made ∧
    ((∀ a ∈ made, a.2 = true) ↔ Reliable items s.outcomes)
  outcomes : Reliable items s.outcomes → result.outcomes = s.outcomes.drop items.length
  broker : Reliable items s.outcomes →
    result.broker = writeAll s.broker (items.filterMap Attempt.write)
  published : Reliable items s.outcomes → ∀ topic, topic ∈ result.published ↔
    topic ∈ s.published ∨ ∃ payload ≠ [], ∃ item ∈ items, item.message = some (topic, payload)

theorem worked_nil (s : MqttService) : Worked [] s s where
  table := rfl
  discovered := rfl
  attempts := ⟨[], by simp [Reliable]⟩
  outcomes := fun _ => rfl
  broker := fun _ => rfl
  published := by simp

theorem Worked.append {first second : List Attempt} {s middle result : MqttService}
    (one : Worked first s middle) (two : Worked second middle result) :
    Worked (first ++ second) s result := by
  have split (reliable : Reliable (first ++ second) s.outcomes) :
      Reliable first s.outcomes ∧ Reliable second middle.outcomes := by
    obtain ⟨before, after⟩ := (reliable_append first second s.outcomes).mp reliable
    exact ⟨before, by rw [one.outcomes before]; exact after⟩
  refine
    { table := two.table.trans one.table
      discovered := two.discovered.trans one.discovered
      attempts := ?_
      outcomes := ?_
      broker := ?_
      published := ?_ }
  · obtain ⟨made, attempts, all⟩ := one.attempts
    obtain ⟨more, attempts', all'⟩ := two.attempts
    refine ⟨made ++ more, by rw [attempts', attempts, List.append_assoc], ?_⟩
    rw [List.forall_mem_append, reliable_append, all, all']
    exact and_congr_right fun reliable => by rw [one.outcomes reliable]
  · intro reliable
    rw [two.outcomes (split reliable).2, one.outcomes (split reliable).1, List.drop_drop,
      List.length_append]
  · intro reliable
    rw [two.broker (split reliable).2, one.broker (split reliable).1, List.filterMap_append,
      writeAll_append]
  · intro reliable topic
    rw [two.published (split reliable).2, one.published (split reliable).1]
    simp only [List.mem_append, or_and_right, exists_or, and_or_left, or_assoc]

theorem failed_worked (item : Attempt) (s after : MqttService)
    (unreliable : ¬ Reliable [item] s.outcomes) (table : after.table = s.table)
    (discovered : after.discovered = s.discovered) (attempts : after.attempts = s.attempts) :
    Worked [item] s (after.failed item.entry) where
  table := table
  discovered := discovered
  attempts := by
    refine ⟨[(item.entry, false)], ?_, by simp [unreliable]⟩
    rw [← attempts]
    rfl
  outcomes reliable := absurd reliable unreliable
  broker reliable := absurd reliable unreliable
  published reliable := absurd reliable unreliable

theorem attempt_worked (item : Attempt) (s : MqttService) :
    Worked [item] s (s.attempt item).1 := by
  unfold attempt
  cases message : item.message with
  | none =>
    have unreliable : ¬ Reliable [item] s.outcomes := by simp [Reliable, message]
    exact failed_worked item s s unreliable rfl rfl rfl
  | some pair =>
    obtain ⟨topic, payload⟩ := pair
    have reliable : Reliable [item] s.outcomes ↔ (draw s.outcomes).1 = true := by
      cases s.outcomes <;> simp [Reliable, message, draw]
    dsimp only [publish]
    cases drawn : (draw s.outcomes).1 with
    | false =>
      have unreliable : ¬ Reliable [item] s.outcomes := by
        rw [reliable, drawn]
        exact Bool.false_ne_true
      exact failed_worked item s _ unreliable rfl rfl rfl
    | true =>
      refine
        { table := rfl
          discovered := rfl
          attempts := ⟨[(item.entry, true)], rfl, by simp [reliable, drawn]⟩
          outcomes := fun _ => draw_rest s.outcomes
          broker := fun _ => by simp [Attempt.write, message]
          published := fun _ other => ?_ }
      by_cases empty : payload = []
      · simp [empty, message]
      · rw [if_pos rfl]
        dsimp only
        rw [if_neg (by simpa using empty), List.mem_cons]
        constructor
        · rintro (same | held)
          · exact Or.inr ⟨payload, empty, item, List.mem_singleton_self item, same ▸ message⟩
          · exact Or.inl held
        · rintro (held | ⟨payload', -, item', member, same⟩)
          · exact Or.inr held
          · rw [List.mem_singleton.mp member, message, Option.some_inj] at same
            exact Or.inl (congrArg Prod.fst same).symm

theorem foldl_worked {α : Type} (turn : MqttService → α → MqttService) (item : α → Attempt)
    (once : ∀ s x, Worked [item x] s (turn s x)) (xs : List α) (s : MqttService) :
    Worked (xs.map item) s (xs.foldl turn s) := by
  induction xs generalizing s with
  | nil => exact worked_nil s
  | cons x rest ih => exact (once s x).append (ih (turn s x))

theorem clear_worked (setup : Setup) (s : MqttService) (entry : DiscoveryEntry) :
    Worked [clearing setup entry] s (s.clearHomeAssistantDiscovery setup entry).1 :=
  attempt_worked (clearing setup entry) s

theorem publish_worked (setup : Setup) (s : MqttService) (channel : Described) :
    Worked [publishing setup channel] s (s.publishHomeAssistantDiscovery setup channel).1 := by
  have worked := attempt_worked (publishing setup channel) s
  unfold publishHomeAssistantDiscovery
  generalize s.attempt (publishing setup channel) = result at worked ⊢
  obtain ⟨after, _ | _⟩ := result
  · exact worked
  · exact ⟨worked.table, worked.discovered, worked.attempts, worked.outcomes, worked.broker,
      worked.published⟩

def work (setup : Setup) (s : MqttService) : List Attempt :=
  (s.discovered.filter fun entry => !(s.table.wanted.map entryOf).contains entry).map
    (clearing setup) ++ s.table.wanted.map (publishing setup)

theorem refreshAll_worked (setup : Setup) (s : MqttService) :
    ∃ worked, Worked (s.work setup) s worked ∧
      s.refreshAll setup =
        { worked with
          discovered := s.table.wanted.map entryOf
          discoverySignature := s.table.discoverySignature
          refreshed := s.table.wanted } := by
  let counted : MqttService :=
    if s.table.described.length > kRecommendedMaxChannels then
      { s with discoveryFailures := s.discoveryFailures + 1 }
    else s
  have start : Worked [] s counted := by
    dsimp only [counted]
    split
    · exact ⟨rfl, rfl, ⟨[], by simp [Reliable]⟩, fun _ => rfl, fun _ => rfl, by simp⟩
    · exact worked_nil s
  have done := (start.append (foldl_worked
    (fun s entry => (s.clearHomeAssistantDiscovery setup entry).1) (clearing setup)
    (clear_worked setup)
    (counted.discovered.filter fun entry => !(s.table.wanted.map entryOf).contains entry)
    counted)).append (foldl_worked
    (fun s channel => (s.publishHomeAssistantDiscovery setup channel).1) (publishing setup)
    (publish_worked setup) s.table.wanted _)
  have items : s.work setup = [] ++
      (counted.discovered.filter fun entry => !(s.table.wanted.map entryOf).contains entry).map
        (clearing setup) ++ s.table.wanted.map (publishing setup) := by
    rw [List.nil_append, start.discovered]
    rfl
  rw [← items] at done
  exact ⟨_, done, rfl⟩

theorem refresh_table (setup : Setup) (force connected : Bool) (outcomes : List Bool)
    (s : MqttService) :
    (s.refreshHomeAssistantDiscovery setup force connected outcomes).table = s.table := by
  unfold refreshHomeAssistantDiscovery
  dsimp only
  split
  · rfl
  · split
    · rfl
    · obtain ⟨after, worked, same⟩ := refreshAll_worked setup (s.ready outcomes)
      rw [same]
      exact worked.table

/-! What the broker retains after a refresh. -/

/-- The documents of these channels, with their topics. -/
def messages (setup : Setup) (channels : List Described) : List (Bytes × Bytes) :=
  channels.filterMap (discoveryMessage setup)

theorem discoveryMessage_topic {setup : Setup} {channel : Described} {message : Bytes × Bytes}
    (made : discoveryMessage setup channel = some message) :
    discoveryTopic setup (entryOf channel) = some message.1 ∧ message.2 ≠ [] := by
  unfold discoveryMessage at made
  dsimp only at made
  split at made
  · rename_i topic _ _
    obtain ⟨commandTopic, -, rfl⟩ := Option.map_eq_some_iff.mp made
    exact ⟨topic, setup.written _⟩
  · cases made

theorem work_writes (setup : Setup) (s : MqttService) :
    (s.work setup).filterMap Attempt.write =
      mirror ((s.discovered.filter fun entry =>
          !(s.table.wanted.map entryOf).contains entry).filterMap (discoveryTopic setup))
        (messages setup s.table.wanted) := by
  have clear (entry : DiscoveryEntry) : (clearing setup entry).write =
      (discoveryTopic setup entry).map fun topic => (topic, none) := by
    cases made : discoveryTopic setup entry <;> simp [Attempt.write, clearing, made]
  have put (channel : Described) : (publishing setup channel).write =
      (discoveryMessage setup channel).map fun message => (message.1, some message.2) := by
    cases made : discoveryMessage setup channel with
    | none => simp [Attempt.write, publishing, made]
    | some message => simp [Attempt.write, publishing, made, (discoveryMessage_topic made).2]
  rw [work, List.filterMap_append, List.filterMap_map, List.filterMap_map, mirror, messages,
    List.map_filterMap, List.map_filterMap]
  congr 2
  · funext entry
    exact clear entry
  · funext channel
    exact put channel

theorem wanted_distinct (table : ChannelTable) :
    table.wanted.Pairwise fun a b => a.1.channelId ≠ b.1.channelId := by
  have ids : table.channels.Pairwise fun a b => a.channelId ≠ b.channelId :=
    List.pairwise_map.mp table.distinct
  refine List.Pairwise.sublist (List.take_sublist _ _) (List.pairwise_filterMap.mpr ?_)
  refine ids.imp fun {a b} differ c found d other => ?_
  have own {binding : ChannelBinding} {channel : Described}
      (found : (if !binding.enabled then none
        else (table.describe binding).map fun descriptor => (binding, descriptor)) =
          some channel) : channel.1 = binding := by
    split at found
    · cases found
    · obtain ⟨descriptor, -, rfl⟩ := Option.map_eq_some_iff.mp found
      rfl
  rw [own found, own other]
  exact differ

theorem messages_once (setup : Setup) (table : ChannelTable) :
    ((messages setup table.wanted).map Prod.fst).Nodup := by
  rw [messages, List.Nodup, List.pairwise_map, List.pairwise_filterMap]
  refine (wanted_distinct table).imp fun {a b} differ message made message' made' same => differ ?_
  have topic := (discoveryMessage_topic made).1
  have topic' := (discoveryMessage_topic made').1
  rw [← same] at topic'
  exact (discoveryTopic_injective topic topic').1

/-- What was published in this boot and is retained is a document of the last refresh, and these
are all retained. -/
structure Exact (setup : Setup) (s : MqttService) : Prop where
  held : ∀ topic ∈ s.published, s.broker topic = none ∨
    ∃ payload, (topic, payload) ∈ messages setup s.refreshed ∧ s.broker topic = some payload
  sent : ∀ message ∈ messages setup s.refreshed,
    message.1 ∈ s.published ∧ s.broker message.1 = some message.2
  discovered : s.discovered = s.refreshed.map entryOf

theorem refreshAll_exact (setup : Setup) (s : MqttService) (exact : Exact setup s)
    (reliable : Reliable (s.work setup) s.outcomes) : Exact setup (s.refreshAll setup) := by
  obtain ⟨worked, did, result⟩ := refreshAll_worked setup s
  rw [result]
  have broker := did.broker reliable
  rw [work_writes] at broker
  refine ⟨fun topic isPublished => ?_, fun message member => ?_, rfl⟩
  · dsimp only at isPublished ⊢
    rw [broker]
    refine (mirror_wanted s.broker _ _ topic fun retained => ?_)
    obtain before | ⟨payload, nonempty, item, member, made⟩ :=
      (did.published reliable topic).mp isPublished
    · obtain none | ⟨payload, sent, -⟩ := exact.held topic before
      · exact absurd none retained
      · obtain ⟨channel, member, made⟩ := List.mem_filterMap.mp sent
        have own := (discoveryMessage_topic made).1
        by_cases still : entryOf channel ∈ s.table.wanted.map entryOf
        · obtain ⟨current, isWanted, same⟩ := List.mem_map.mp still
          have can := reliable.1 (publishing setup current)
            (List.mem_append_right _ (List.mem_map_of_mem isWanted))
          obtain ⟨message, made'⟩ := Option.isSome_iff_exists.mp can
          have topics := (discoveryMessage_topic made').1
          rw [same, own, Option.some_inj] at topics
          exact Or.inr (List.mem_map.mpr
            ⟨message, List.mem_filterMap.mpr ⟨current, isWanted, made'⟩, topics.symm⟩)
        · refine Or.inl (List.mem_filterMap.mpr ⟨entryOf channel, List.mem_filter.mpr ⟨?_, ?_⟩, own⟩)
          · rw [exact.discovered]
            exact List.mem_map_of_mem member
          · simpa using still
    · right
      obtain cleared | put := List.mem_append.mp member
      · obtain ⟨entry, -, rfl⟩ := List.mem_map.mp cleared
        obtain ⟨_, -, same⟩ := Option.map_eq_some_iff.mp made
        exact absurd (congrArg Prod.snd same).symm nonempty
      · obtain ⟨channel, isWanted, rfl⟩ := List.mem_map.mp put
        exact List.mem_map.mpr
          ⟨(topic, payload), List.mem_filterMap.mpr ⟨channel, isWanted, made⟩, rfl⟩
  · dsimp only at member ⊢
    refine ⟨(did.published reliable message.1).mpr ?_, ?_⟩
    · obtain ⟨channel, isWanted, made⟩ := List.mem_filterMap.mp member
      exact Or.inr ⟨message.2, (discoveryMessage_topic made).2, publishing setup channel,
        List.mem_append_right _ (List.mem_map_of_mem isWanted), made⟩
    · rw [broker]
      exact mirror_held s.broker _ _ (messages_once setup s.table) message.1 message.2 member

end MqttService

/-! Runs within one boot. -/

inductive DiscoveryEvent where
  | change (table : ChannelTable)
  | refresh (force connected : Bool) (outcomes : List Bool)
  /-- A new connection forgets the signature and forces a refresh. -/
  | connect (connected : Bool) (outcomes : List Bool)

namespace MqttService

def forgotten (s : MqttService) : MqttService := { s with discoverySignature := 0 }

def step (setup : Setup) (s : MqttService) : DiscoveryEvent → MqttService
  | .change table => { s with table := table }
  | .refresh force connected outcomes =>
    s.refreshHomeAssistantDiscovery setup force connected outcomes
  | .connect connected outcomes =>
    s.forgotten.refreshHomeAssistantDiscovery setup true connected outcomes

/-- While the signature is the current one, every document that was published in this boot is
cleared, or it is the current one of an entry that is desired. -/
def Matches (setup : Setup) (s : MqttService) : Prop :=
  s.discoverySignature = s.table.discoverySignature → ∀ topic ∈ s.published,
    s.broker topic = none ∨
      ∃ payload, (topic, payload) ∈ messages setup s.table.wanted ∧ s.broker topic = some payload

def Retries (setup : Setup) (s : MqttService) : Prop :=
  ∀ entry, (entry, false) ∈ s.attempts → ∀ outcomes,
    entry ∈ (s.refreshHomeAssistantDiscovery setup false true outcomes).attempts.map Prod.fst

/-- After a refresh the documents match the channels, and what has failed is retried. -/
def Discovers (setup : Setup) (s : MqttService) : DiscoveryEvent → Prop
  | .change _ => True
  | event => Matches setup (s.step setup event) ∧ Retries setup (s.step setup event)

def performs (setup : Setup) (force connected : Bool) (s : MqttService) : Bool :=
  setup.config.homeAssistantDiscovery && connected &&
    (force || s.table.discoverySignature != s.discoverySignature)

/-- A refresh that does its work makes all its attempts with success. One that leaves it to the
signature finds the documents of the last one still wanted as they were. -/
def Sure (setup : Setup) (force connected : Bool) (outcomes : List Bool) (s : MqttService) :
    Prop :=
  if s.performs setup force connected then Reliable (s.work setup) outcomes
  else
    s.discoverySignature = s.table.discoverySignature →
      ∀ message ∈ messages setup s.refreshed, message ∈ messages setup s.table.wanted

def SureStep (setup : Setup) (s : MqttService) : DiscoveryEvent → Prop
  | .change _ => True
  | .refresh force connected outcomes => s.Sure setup force connected outcomes
  | .connect connected outcomes => s.forgotten.Sure setup true connected outcomes

theorem refresh_eq (setup : Setup) (force connected : Bool) (outcomes : List Bool)
    (s : MqttService) : s.refreshHomeAssistantDiscovery setup force connected outcomes =
      if s.performs setup force connected then (s.ready outcomes).refreshAll setup
      else s.ready outcomes := by
  unfold refreshHomeAssistantDiscovery performs ready
  cases setup.config.homeAssistantDiscovery <;> cases connected <;> cases force <;>
    cases same : s.table.discoverySignature == s.discoverySignature <;> simp [bne, same]

theorem ready_exact (setup : Setup) (outcomes : List Bool) (s : MqttService)
    (exact : Exact setup s) : Exact setup (s.ready outcomes) :=
  ⟨exact.held, exact.sent, exact.discovered⟩

theorem refresh_exact (setup : Setup) (force connected : Bool) (outcomes : List Bool)
    (s : MqttService) (exact : Exact setup s) (sure : s.Sure setup force connected outcomes) :
    Exact setup (s.refreshHomeAssistantDiscovery setup force connected outcomes) := by
  have kept := ready_exact setup outcomes s exact
  rw [refresh_eq]
  unfold Sure at sure
  split at sure
  · rename_i working
    rw [if_pos working]
    exact refreshAll_exact setup _ kept sure
  · rename_i idle
    rw [if_neg idle]
    exact kept

/-- A refresh that has done its work leaves the next one nothing to do. -/
theorem refresh_settled (setup : Setup) (s : MqttService)
    (same : s.discoverySignature = s.table.discoverySignature) (outcomes : List Bool) :
    (s.refreshHomeAssistantDiscovery setup false true outcomes).attempts = [] := by
  have idle : ¬ s.performs setup false true = true := by simp [performs, same]
  rw [refresh_eq, if_neg idle]
  rfl

theorem refresh_discovers_iff (setup : Setup) (force connected : Bool) (outcomes : List Bool)
    (s : MqttService) (exact : Exact setup s) :
    Matches setup (s.refreshHomeAssistantDiscovery setup force connected outcomes) ∧
        Retries setup (s.refreshHomeAssistantDiscovery setup force connected outcomes) ↔
      s.Sure setup force connected outcomes := by
  rw [refresh_eq, Sure]
  have kept := ready_exact setup outcomes s exact
  split
  · obtain ⟨worked, did, result⟩ := refreshAll_worked setup (s.ready outcomes)
    obtain ⟨made, attempts, all⟩ := did.attempts
    have table : ((s.ready outcomes).refreshAll setup).table = s.table := by
      rw [result]
      exact did.table
    have refreshed : ((s.ready outcomes).refreshAll setup).refreshed = s.table.wanted := by
      rw [result]
      rfl
    have tried : ((s.ready outcomes).refreshAll setup).attempts = made := by
      rw [result]
      exact attempts
    constructor
    · rintro ⟨-, retries⟩
      refine all.mp fun attempt member => ?_
      by_contra failed
      have settled := refresh_settled setup ((s.ready outcomes).refreshAll setup)
        (by rw [table, result]; rfl) []
      have again := retries attempt.1 (by
        rw [tried, ← Bool.eq_false_iff.mpr failed]
        exact member) []
      rw [settled] at again
      cases again
    · intro reliable
      have fresh := refreshAll_exact setup _ kept reliable
      refine ⟨fun _ topic isPublished => ?_, fun entry failed => ?_⟩
      · have held := fresh.held topic isPublished
        rw [refreshed] at held
        rw [table]
        exact held
      · rw [tried] at failed
        exact absurd (all.mpr reliable _ failed) Bool.false_ne_true
  · constructor
    · rintro ⟨matching, -⟩ same message member
      obtain ⟨isPublished, retained⟩ := exact.sent message member
      obtain none | ⟨payload, isWanted, held⟩ := matching same message.1 isPublished
      · exact absurd (retained.symm.trans none) (Option.some_ne_none _)
      · rw [← Option.some.inj (retained.symm.trans held)] at isWanted
        exact isWanted
    · intro still
      refine ⟨fun same topic isPublished => ?_, nofun⟩
      obtain none | ⟨payload, member, held⟩ := exact.held topic isPublished
      · exact Or.inl none
      · exact Or.inr ⟨payload, still same _ member, held⟩

theorem step_exact (setup : Setup) (s : MqttService) (event : DiscoveryEvent)
    (exact : Exact setup s) (sure : s.SureStep setup event) : Exact setup (s.step setup event) := by
  have forgotten : Exact setup s.forgotten := ⟨exact.held, exact.sent, exact.discovered⟩
  cases event with
  | change table => exact ⟨exact.held, exact.sent, exact.discovered⟩
  | refresh force connected outcomes =>
    exact refresh_exact setup force connected outcomes s exact sure
  | connect connected outcomes =>
    exact refresh_exact setup true connected outcomes s.forgotten forgotten sure

theorem step_discovers_iff (setup : Setup) (s : MqttService) (event : DiscoveryEvent)
    (exact : Exact setup s) : s.Discovers setup event ↔ s.SureStep setup event := by
  have forgotten : Exact setup s.forgotten := ⟨exact.held, exact.sent, exact.discovered⟩
  cases event with
  | change table => exact Iff.rfl
  | refresh force connected outcomes =>
    exact refresh_discovers_iff setup force connected outcomes s exact
  | connect connected outcomes =>
    exact refresh_discovers_iff setup true connected outcomes s.forgotten forgotten

/-- From a boot on, over any changes of the channels, connections and failures: every refresh
leaves the broker in step with the channels and retries its failures exactly if no attempt of a
refresh fails and none is left to a signature that has missed a change. -/
theorem discovery_matches_iff (setup : Setup) (table : ChannelTable)
    (broker : Bytes → Option Bytes) (events : List DiscoveryEvent) :
    Always (step setup) (Discovers setup) { table := table, broker := broker } events ↔
      Always (step setup) (SureStep setup) { table := table, broker := broker } events :=
  always_iff (step setup) (Exact setup) (Discovers setup) (SureStep setup)
    (fun s event exact => step_discovers_iff setup s event exact)
    (fun s event exact discovers =>
      step_exact setup s event exact ((step_discovers_iff setup s event exact).mp discovers))
    { table := table, broker := broker } events ⟨nofun, nofun, rfl⟩

def sensorText : Bytes :=
  ascii "\x7b\"name\":\"meter\",\"unique_id\":\"gw_ch1\"," ++
  ascii "\"state_topic\":\"multibus/gw/channels/1/state\"," ++
  ascii "\"availability_topic\":\"multibus/gw/status\"," ++
  ascii "\"value_template\":\"\x7b\x7b value_json.value \x7d\x7d\"," ++
  ascii "\"device\":\x7b\"identifiers\":[\"gw\"],\"name\":\"gw\"," ++
  ascii "\"manufacturer\":\"MultiBus\",\"model\":\"ESP32 MultiBus Gateway\"\x7d\x7d"

def gatewaySetup : Setup where
  config := { enabled := true, homeAssistantDiscovery := true }
  deviceId := ascii "gw"
  serializeJson := fun _ => sensorText
  written := fun _ => by decide +kernel

def oneSensor : ChannelTable where
  channels := [{ channelId := 1, sourceId := ascii "modbus", pointId := ascii "meter" }]
  describe := fun _ => some { type := .uint64 }
  distinct := by decide
  few := by decide

def removedSensor : List DiscoveryEvent :=
  [.connect true [],
    .change { oneSensor with channels := [], distinct := by decide, few := by decide }]

/-- The document of a channel that is gone stays on the broker. -/
theorem stale_entry_forgotten :
    ¬ ∀ (setup : Setup) (table : ChannelTable) (broker : Bytes → Option Bytes)
      (events : List DiscoveryEvent),
      Always (step setup) (Discovers setup) { table := table, broker := broker } events := by
  intro always
  have discovers := always gatewaySetup oneSensor (fun _ => none)
    (removedSensor ++ [.refresh false true [false]])
  obtain ⟨matching, -⟩ := ((always_cons ..).mp ((always_append ..).mp discovers).2).1
  obtain none | ⟨payload, member, -⟩ := matching (by decide +kernel)
    (ascii "homeassistant/sensor/gw_ch1/config") (by decide +kernel)
  · revert none
    decide +kernel
  · cases member

end MqttService

end HomeAssistant
