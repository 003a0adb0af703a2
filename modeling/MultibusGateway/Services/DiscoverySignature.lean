import MultibusGateway.Services.CommandTopics
import MultibusGateway.Services.HomeAssistantDiscovery

/-! What the signature of the discovery sees. It is a hash of some fields of the channels, strung
together without separators; what is published of a channel depends on others. -/

namespace HomeAssistant
open ByteString Preferences Config Mqtt
open Application (DataType DataPointDescriptor)

/-- The bindings in the registry, however many, and what the sources say of their points. -/
structure RegistryState where
  channels : List ChannelBinding
  describe : ChannelBinding → Option DataPointDescriptor

namespace RegistryState

def described (state : RegistryState) : List Described :=
  state.channels.filterMap fun binding =>
    if !binding.enabled then none
    else (state.describe binding).map fun descriptor => (binding, descriptor)

def wanted (state : RegistryState) : List Described :=
  state.described.take kRecommendedMaxChannels

def discoverySignature (state : RegistryState) : UInt32 :=
  state.described.foldl hashChannel 2166136261

end RegistryState

def ChannelTable.state (table : ChannelTable) : RegistryState where
  channels := table.channels
  describe := table.describe

theorem state_discoverySignature (table : ChannelTable) :
    table.state.discoverySignature = table.discoverySignature := rfl

/-! The bytes that are hashed. -/

def hashedBytes : Described → Bytes
  | (binding, descriptor) =>
    writeU16 binding.channelId ++
      ([if binding.writable then 1 else 0, typeByte descriptor.type] ++
        (binding.sourceId ++ (binding.pointId ++ binding.unit)))

theorem hashBytes_append (hash : UInt32) (a b : Bytes) :
    hashBytes hash (a ++ b) = hashBytes (hashBytes hash a) b := List.foldl_append

def RegistryState.hashed (state : RegistryState) : Bytes := state.described.flatMap hashedBytes

theorem discoverySignature_eq (state : RegistryState) :
    state.discoverySignature = hashBytes 2166136261 state.hashed := by
  rw [RegistryState.discoverySignature, RegistryState.hashed]
  generalize (2166136261 : UInt32) = hash
  induction state.described generalizing hash with
  | nil => rfl
  | cons channel rest ih =>
    obtain ⟨binding, descriptor⟩ := channel
    rw [List.foldl_cons, ih, List.flatMap_cons, hashBytes_append]
    simp only [hashChannel, hashedBytes, hashBytes_append]

structure HashedFields where
  channelId : UInt16
  writable : Bool
  type : DataType
  sourceId : Bytes
  pointId : Bytes
  unit : Bytes
  deriving DecidableEq

def hashedFields (channel : Described) : HashedFields where
  channelId := channel.1.channelId
  writable := channel.1.writable
  type := channel.2.type
  sourceId := channel.1.sourceId
  pointId := channel.1.pointId
  unit := channel.1.unit

theorem hashed_eq (state : RegistryState) : state.hashed =
    (state.described.map hashedFields).flatMap fun fields =>
      writeU16 fields.channelId ++
        ([if fields.writable then 1 else 0, typeByte fields.type] ++
          (fields.sourceId ++ (fields.pointId ++ fields.unit))) := by
  rw [List.flatMap_map]
  rfl

/-! What is published. -/

/-- The component and the document of a channel, if its topics can be made. -/
def publication (setup : Setup) (channel : Described) : Option (Component × Json) :=
  let channelId := channel.1.channelId
  let topicPrefix := cStr setup.config.topicPrefix
  let deviceId := cStr setup.deviceId
  let component := discoveryComponent channel
  match discoveryTopic setup (entryOf channel),
    makeChannelStateTopic topicPrefix deviceId channelId 192,
    makeAvailabilityTopic topicPrefix deviceId 192 with
  | some _, some stateTopic, some availabilityTopic =>
    let commandTopic :=
      if component = .switch ∨ component = .number then
        makeChannelCommandTopic topicPrefix deviceId channelId 192
      else some []
    commandTopic.map fun commandTopic =>
      (component, discoveryDocument setup channel stateTopic availabilityTopic commandTopic)
  | _, _, _ => none

theorem discoveryMessage_publication (setup : Setup) (channel : Described) :
    (discoveryMessage setup channel).map Prod.snd =
      (publication setup channel).map fun published =>
        cStr (setup.serializeJson published.2) := by
  unfold discoveryMessage publication
  dsimp only
  generalize discoveryTopic setup (entryOf channel) = topic
  generalize makeChannelStateTopic _ _ channel.1.channelId 192 = stateTopic
  generalize makeAvailabilityTopic _ _ 192 = availabilityTopic
  cases topic with
  | none => rfl
  | some topic =>
    cases stateTopic with
    | none => rfl
    | some stateTopic =>
      cases availabilityTopic with
      | none => rfl
      | some availabilityTopic =>
        dsimp only
        rw [Option.map_map, Option.map_map]
        rfl

def RegistryState.publications (setup : Setup) (state : RegistryState) : List (Component × Json) :=
  state.wanted.filterMap (publication setup)

/-- The payloads of the attempts of a refresh. -/
theorem refresh_publications (setup : Setup) (table : ChannelTable) :
    (table.wanted.map (publishing setup)).filterMap (fun item => item.message.map Prod.snd) =
      (table.state.publications setup).map fun published =>
        cStr (setup.serializeJson published.2) := by
  have wanted : table.state.wanted = table.wanted := rfl
  rw [RegistryState.publications, wanted, List.filterMap_map, List.map_filterMap]
  congr 1
  funext channel
  exact discoveryMessage_publication setup channel

structure Publishes (setup : Setup) : Prop where
  discovery : validTopicPrefix (cStr setup.config.homeAssistantPrefix) = true
  states : validTopicPrefix (cStr setup.config.topicPrefix) = true
  device : validDeviceId (cStr setup.deviceId) = true

structure Shown where
  channelId : UInt16
  component : Component
  name : Bytes
  unit : Bytes
  deriving DecidableEq

def shown (channel : Described) : Shown where
  channelId := channel.1.channelId
  component := discoveryComponent channel
  name := if channel.1.pointId.isEmpty then ascii "Channel " ++ decimal channel.1.channelId.toNat
    else channel.1.pointId
  unit := channel.1.unit

section
variable (setup : Setup)

def topicOf (channelId : UInt16) (leaf : Bytes) : Bytes :=
  cStr setup.config.topicPrefix ++ (ascii "/" ++ (cStr setup.deviceId ++
    (ascii "/channels/" ++ (decimal channelId.toNat ++ leaf))))

def commandTopicOf (component : Component) (channelId : UInt16) : Bytes :=
  if component = .switch ∨ component = .number then topicOf setup channelId (ascii "/set") else []

def availabilityTopicOf : Bytes :=
  cStr setup.config.topicPrefix ++ (ascii "/" ++ (cStr setup.deviceId ++ ascii "/status"))

theorem Publishes.prefixText {setup : Setup} (publishes : Publishes setup) :
    PrefixText (cStr setup.config.topicPrefix) where
  valid := publishes.states
  ends := zero_not_mem_cStr _

theorem Publishes.availabilityTopic {setup : Setup} (publishes : Publishes setup) :
    makeAvailabilityTopic (cStr setup.config.topicPrefix) (cStr setup.deviceId) 192 =
      some (availabilityTopicOf setup) := by
  have long := validTopicPrefix_length _ publishes.states
  rw [cStr_eq_self _ publishes.prefixText.ends] at long
  have bound := (validDeviceId_allowed _ publishes.device).1
  have lengths : (ascii "/").length = 1 ∧ (ascii "/status").length = 7 := by decide +kernel
  rw [makeAvailabilityTopic, publishes.states, publishes.device]
  simp only [Bool.not_true, Bool.or_self, Nat.reduceBEq, Bool.false_eq_true, if_false]
  rw [printed, if_pos]
  · rfl
  · simp only [List.length_append, lengths]
    omega

theorem length_name_le (component : Component) : component.name.length ≤ 13 := by
  cases component <;> decide +kernel

theorem Publishes.discoveryTopic {setup : Setup} (publishes : Publishes setup)
    (entry : DiscoveryEntry) (some_ : entry.channelId ≠ 0) :
    (discoveryTopic setup entry).isSome = true := by
  have long := validTopicPrefix_length _ publishes.discovery
  rw [cStr_eq_self _ (zero_not_mem_cStr _)] at long
  have bound := (validDeviceId_allowed _ publishes.device).1
  have name := length_name_le entry.component
  have small := entry.channelId.toNat_lt
  have digits : (decimal entry.channelId.toNat).length ≤ 5 :=
    DecimalText.length_text_le entry.channelId.toNat 5 (by decide) (by omega)
  have lengths : (ascii "/").length = 1 ∧ (ascii "_ch").length = 3 ∧
      (ascii "/config").length = 7 := by decide +kernel
  have zero : (entry.channelId == 0) = false := beq_eq_false_iff_ne.mpr some_
  rw [HomeAssistant.discoveryTopic, makeHomeAssistantDiscoveryTopic, publishes.discovery,
    publishes.device, zero]
  simp only [Bool.not_true, Bool.or_self, Nat.reduceBEq, Bool.false_eq_true, if_false]
  rw [printed, if_pos]
  · rfl
  · simp only [List.length_append, lengths]
    omega

def publishedAs (channel : Described) : Component × Json :=
  (discoveryComponent channel,
    discoveryDocument setup channel (topicOf setup channel.1.channelId (ascii "/state"))
      (availabilityTopicOf setup)
      (commandTopicOf setup (discoveryComponent channel) channel.1.channelId))

theorem Publishes.publication {setup : Setup} (publishes : Publishes setup)
    (channel : Described) (some_ : channel.1.channelId ≠ 0) :
    publication setup channel = some (publishedAs setup channel) := by
  have fits := channelTopic_fits _ _ publishes.prefixText publishes.device channel.1.channelId some_
  obtain ⟨topic, made⟩ := Option.isSome_iff_exists.mp
    (publishes.discoveryTopic (entryOf channel) some_)
  have command : (if discoveryComponent channel = .switch ∨ discoveryComponent channel = .number
      then makeChannelCommandTopic (cStr setup.config.topicPrefix) (cStr setup.deviceId)
        channel.1.channelId 192
      else some []) =
      some (commandTopicOf setup (discoveryComponent channel) channel.1.channelId) := by
    rw [commandTopicOf]
    split
    · exact fits (ascii "/set") (by decide +kernel)
    · rfl
  rw [HomeAssistant.publication, made, makeChannelStateTopic, fits _ (by decide +kernel),
    publishes.availabilityTopic]
  dsimp only
  rw [command]
  rfl

theorem publication_none (channel : Described)
    (silent : ¬ (Publishes setup ∧ channel.1.channelId ≠ 0)) :
    publication setup channel = none := by
  have refused : discoveryTopic setup (entryOf channel) = none ∨
      makeChannelStateTopic (cStr setup.config.topicPrefix) (cStr setup.deviceId)
        channel.1.channelId 192 = none := by
    rw [discoveryTopic, makeHomeAssistantDiscoveryTopic, makeChannelStateTopic, channelTopic]
    by_contra both
    rw [not_or] at both
    obtain ⟨discovery, state⟩ := both
    refine silent ⟨⟨?_, ?_, ?_⟩, ?_⟩
    · by_contra bad
      simp [bad] at discovery
    · by_contra bad
      simp [bad] at state
    · by_contra bad
      simp [bad] at state
    · intro zero
      simp [zero] at state
  rw [publication]
  rcases refused with none | none
  · rw [none]
  · rw [none]
    cases discoveryTopic setup (entryOf channel) <;> rfl

theorem discoveryDocument_shown (x y : Described) (same : shown x = shown y) :
    discoveryDocument setup x = discoveryDocument setup y := by
  simp only [shown, Shown.mk.injEq] at same
  obtain ⟨ids, components, names, units⟩ := same
  funext stateTopic availabilityTopic commandTopic
  simp only [discoveryDocument, ids, components, units] at names ⊢
  rw [names]

theorem shown_discoveryDocument (x y : Described)
    (components : discoveryComponent x = discoveryComponent y)
    (stateTopic stateTopic' availabilityTopic availabilityTopic' : Bytes)
    (same : discoveryDocument setup x stateTopic availabilityTopic
        (commandTopicOf setup (discoveryComponent x) x.1.channelId) =
      discoveryDocument setup y stateTopic' availabilityTopic'
        (commandTopicOf setup (discoveryComponent y) y.1.channelId)) :
    shown x = shown y := by
  simp only [discoveryDocument, Json.object.injEq, List.cons_append, List.nil_append,
    List.cons.injEq, Prod.mk.injEq, Json.text.injEq, true_and, List.append_cancel_left_eq] at same
  obtain ⟨names, digits, -, -, rest⟩ := same
  have ids : x.1.channelId = y.1.channelId := UInt16.toNat_inj.mp (decimal_injective digits)
  rw [components, ids] at rest
  have units := List.append_cancel_right (List.append_cancel_right rest)
  simp only [shown, Shown.mk.injEq]
  refine ⟨ids, components, names, ?_⟩
  cases left : x.1.unit <;> cases right : y.1.unit <;> simp_all

theorem publishedAs_eq_iff (x y : Described) :
    publishedAs setup x = publishedAs setup y ↔ shown x = shown y := by
  rw [publishedAs, publishedAs, Prod.mk.injEq]
  constructor
  · rintro ⟨components, documents⟩
    exact shown_discoveryDocument setup x y components _ _ _ _ documents
  · intro same
    have ids : x.1.channelId = y.1.channelId := congrArg Shown.channelId same
    have components : discoveryComponent x = discoveryComponent y :=
      congrArg Shown.component same
    rw [discoveryDocument_shown setup x y same, ids, components]
    exact ⟨rfl, rfl⟩

end

/-! Two states. -/

def numbered (channels : List Described) : List Described :=
  channels.filter fun channel => channel.1.channelId != 0

theorem numbered_cons (channel : Described) (rest : List Described) :
    numbered (channel :: rest) =
      if channel.1.channelId = 0 then numbered rest else channel :: numbered rest := by
  rw [numbered, List.filter_cons]
  by_cases zero : channel.1.channelId = 0 <;> simp [zero, numbered]

theorem map_eq_map_congr {α β γ : Type} (f : α → β) (g : α → γ)
    (same : ∀ x y, f x = f y ↔ g x = g y) (xs ys : List α) :
    xs.map f = ys.map f ↔ xs.map g = ys.map g := by
  induction xs generalizing ys with
  | nil => cases ys <;> simp
  | cons x xs ih =>
    cases ys with
    | nil => simp
    | cons y ys => simp only [List.map_cons, List.cons.injEq, same, ih]

theorem Publishes.publications {setup : Setup} (publishes : Publishes setup)
    (state : RegistryState) :
    state.publications setup = (numbered state.wanted).map (publishedAs setup) := by
  rw [RegistryState.publications]
  induction state.wanted with
  | nil => rfl
  | cons channel rest ih =>
    rw [numbered_cons]
    by_cases zero : channel.1.channelId = 0
    · have silent : ¬ (Publishes setup ∧ channel.1.channelId ≠ 0) := fun told => told.2 zero
      rw [List.filterMap_cons_none (publication_none setup channel silent), ih, if_pos zero]
    · rw [List.filterMap_cons_some (publishes.publication channel zero), ih, if_neg zero,
        List.map_cons]

theorem publications_eq_iff (setup : Setup) (a b : RegistryState) :
    a.publications setup = b.publications setup ↔
      (Publishes setup →
        (numbered a.wanted).map shown = (numbered b.wanted).map shown) := by
  by_cases publishes : Publishes setup
  · rw [publishes.publications, publishes.publications,
      map_eq_map_congr _ _ (publishedAs_eq_iff setup)]
    exact ⟨fun same _ => same, fun same => same publishes⟩
  · have silent (state : RegistryState) : state.publications setup = [] := by
      rw [RegistryState.publications, List.filterMap_eq_nil_iff]
      exact fun channel _ => publication_none setup channel fun told => publishes told.1
    rw [silent, silent]
    exact ⟨fun _ told => absurd told publishes, fun _ => rfl⟩

/-- Of two channels with the same hashed fields, only the component may differ. -/
theorem shown_eq_iff (x y : Described) (fields : hashedFields x = hashedFields y) :
    shown x = shown y ↔
      (x.1.writable = true → x.2.type ≠ .text → x.2.writable = y.2.writable) := by
  obtain ⟨binding, descriptor⟩ := x
  obtain ⟨binding', descriptor'⟩ := y
  simp only [hashedFields, HashedFields.mk.injEq] at fields
  obtain ⟨ids, writable, type, -, points, units⟩ := fields
  simp only [shown, discoveryComponent, ids, writable, type, points, units, Shown.mk.injEq,
    and_true, true_and]
  cases binding'.writable <;> cases descriptor.writable <;> cases descriptor'.writable <;>
    cases descriptor'.type <;> decide

/-- No channel that a component could be written for has a point that is writable in one state
alone. -/
def WritableAlike (x y : Described) : Prop :=
  x.1.channelId ≠ 0 → x.1.writable = true → x.2.type ≠ .text → x.2.writable = y.2.writable

theorem numbered_shown_iff (xs ys : List Described)
    (fields : xs.map hashedFields = ys.map hashedFields) :
    (numbered xs).map shown = (numbered ys).map shown ↔
      ∀ pair ∈ xs.zip ys, WritableAlike pair.1 pair.2 := by
  induction xs generalizing ys with
  | nil =>
    cases ys with
    | nil => simp
    | cons y ys => cases fields
  | cons x xs ih =>
    cases ys with
    | nil => cases fields
    | cons y ys =>
      rw [List.map_cons, List.map_cons, List.cons.injEq] at fields
      have ids : x.1.channelId = y.1.channelId := congrArg HashedFields.channelId fields.1
      rw [numbered_cons, numbered_cons, ← ids, List.zip_cons_cons, List.forall_mem_cons,
        ← ih ys fields.2]
      by_cases zero : x.1.channelId = 0
      · rw [if_pos zero, if_pos zero]
        exact ⟨fun same => ⟨fun some_ => absurd zero some_, same⟩, And.right⟩
      · rw [if_neg zero, if_neg zero, List.map_cons, List.map_cons, List.cons.injEq,
          shown_eq_iff x y fields.1]
        exact and_congr_left fun _ => ⟨fun same _ => same, fun same => same zero⟩

/-- When the bytes that are hashed see every change of what is published. -/
theorem signature_sees_iff (setup : Setup) (a b : RegistryState) :
    (a.hashed = b.hashed → a.publications setup = b.publications setup) ↔
      (Publishes setup →
        (a.described.map hashedFields = b.described.map hashedFields →
          ∀ pair ∈ a.wanted.zip b.wanted, WritableAlike pair.1 pair.2) ∧
        (a.described.map hashedFields ≠ b.described.map hashedFields → a.hashed = b.hashed →
          (numbered a.wanted).map shown = (numbered b.wanted).map shown)) := by
  have bytes (fields : a.described.map hashedFields = b.described.map hashedFields) :
      a.hashed = b.hashed := by
    rw [hashed_eq, hashed_eq, fields]
  have first (fields : a.described.map hashedFields = b.described.map hashedFields) :
      a.wanted.map hashedFields = b.wanted.map hashedFields := by
    rw [RegistryState.wanted, RegistryState.wanted, List.map_take, List.map_take, fields]
  rw [publications_eq_iff]
  constructor
  · intro sees publishes
    constructor
    · intro fields
      rw [← numbered_shown_iff _ _ (first fields)]
      exact sees (bytes fields) publishes
    · exact fun _ same => sees same publishes
  · intro alike same publishes
    by_cases fields : a.described.map hashedFields = b.described.map hashedFields
    · rw [numbered_shown_iff _ _ (first fields)]
      exact (alike publishes).1 fields
    · exact (alike publishes).2 fields same

def coilState (passThroughMode : Modbus.PassThroughMode) : RegistryState where
  channels :=
    [{ channelId := 1
       sourceId := ascii Application.modbusSourceId
       pointId := ascii "compat/1"
       writable := true }]
  describe := fun _ =>
    Application.describeBoundChannel
      { channelId := 1
        sourceId := Application.modbusSourceId
        pointId := "compat/1"
        writable := true }
      { mode := .master
        masterSettings := { passThroughMode }
        channels := [{}] }

/-- In two-way pass-through a coil is read and no longer switched, and the bytes stay the same. -/
theorem pass_through_unseen :
    ¬ ∀ (setup : Setup) (a b : RegistryState),
      a.hashed = b.hashed → a.publications setup = b.publications setup := by
  intro sees
  have same := sees MqttService.gatewaySetup (coilState .disabled) (coilState .twoWay)
    (by decide +kernel)
  have components := congrArg (List.map Prod.fst) same
  revert components
  decide +kernel

def meterState (pointId unit : Bytes) : RegistryState where
  channels := [{ channelId := 1, sourceId := ascii "modbus", pointId, unit }]
  describe := fun _ => some { type := .uint64 }

/-- Where the point ends and the unit begins is not seen. -/
example :
    (meterState (ascii "compat/1") (ascii "0")).hashed = (meterState (ascii "compat/10") []).hashed ∧
      (numbered (meterState (ascii "compat/1") (ascii "0")).wanted).map shown ≠
        (numbered (meterState (ascii "compat/10") []).wanted).map shown := by
  decide +kernel

end HomeAssistant
