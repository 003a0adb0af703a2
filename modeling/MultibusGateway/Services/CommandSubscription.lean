import MultibusGateway.Library.TopicFilter
import MultibusGateway.Services.CommandTopics

/-! The subscription of a device to the topics of its commands. The broker delivers by levels, where
the device reads a topic as a text; between them no command is lost, and none reaches another
device. -/

namespace Mqtt
open ByteString Config DecimalText TopicFilter

def makeChannelCommandWildcard (topicPrefix deviceId : Bytes) (capacity : ℕ) : Option Bytes :=
  if !validTopicPrefix topicPrefix || !validDeviceId deviceId || capacity == 0 then none
  else
    printed capacity (topicPrefix ++ (ascii "/" ++ (deviceId ++ ascii "/channels/+/set")))

theorem validTopicFrom_plain (topic : Bytes) (first lastSlash : Bool) (length : ℕ)
    (valid : validTopicFrom first lastSlash length topic = true) :
    (0x2b : UInt8) ∉ topic ∧ (0x23 : UInt8) ∉ topic := by
  induction topic generalizing first lastSlash length with
  | nil => exact ⟨List.not_mem_nil, List.not_mem_nil⟩
  | cons c topic ih =>
    rw [validTopicFrom] at valid
    split at valid
    · cases valid
    split at valid
    · cases valid
    rename_i plain
    simp only [Bool.or_eq_true, beq_iff_eq, not_or] at plain
    have rest : (0x2b : UInt8) ∉ topic ∧ (0x23 : UInt8) ∉ topic := by
      split at valid
      · split at valid
        · cases valid
        · exact ih _ _ _ valid
      · exact ih _ _ _ valid
    simp only [List.mem_cons, not_or]
    exact ⟨⟨fun same => plain.1.1.2 same.symm, rest.1⟩, fun same => plain.1.1.1 same.symm, rest.2⟩

theorem PrefixText.plain {topicPrefix : Bytes} (text : PrefixText topicPrefix) :
    (0x2b : UInt8) ∉ topicPrefix ∧ (0x23 : UInt8) ∉ topicPrefix := by
  have valid := text.valid
  rw [validTopicPrefix, cStr_eq_self topicPrefix text.ends] at valid
  split at valid
  · cases valid
  · exact validTopicFrom_plain topicPrefix true false 0 valid

section
variable (topicPrefix deviceId : Bytes)

def commandLevel (level : Bytes) : Bytes :=
  topicPrefix ++ (ascii "/" ++ (deviceId ++ (ascii "/channels/" ++ (level ++ ascii "/set"))))

theorem levels_commandLevel (device : slash ∉ deviceId) (level : Bytes) (whole : slash ∉ level) :
    levels (commandLevel topicPrefix deviceId level) =
      levels topicPrefix ++ [deviceId, ascii "channels", level, ascii "set"] := by
  have mark : ascii "/" = [slash] := by decide +kernel
  have channels : ascii "/channels/" = slash :: (ascii "channels" ++ [slash]) := by decide +kernel
  have set : ascii "/set" = slash :: ascii "set" := by decide +kernel
  have unsplit : slash ∉ ascii "channels" ∧ slash ∉ ascii "set" := by decide +kernel
  rw [commandLevel, mark, channels, set]
  simp only [List.append_assoc, List.cons_append, List.nil_append]
  rw [levels_append, levels_append, levels_append, levels_append, levels_singleton _ device,
    levels_singleton _ unsplit.1, levels_singleton _ whole, levels_singleton _ unsplit.2]
  rfl

variable (text : PrefixText topicPrefix) (device : validDeviceId deviceId = true)
include text device

theorem makeChannelCommandWildcard_text :
    makeChannelCommandWildcard topicPrefix deviceId 192 =
      some (commandLevel topicPrefix deviceId [0x2b]) := by
  have long := validTopicPrefix_length topicPrefix text.valid
  rw [cStr_eq_self topicPrefix text.ends] at long
  have bound := (validDeviceId_allowed deviceId device).1
  have lengths : (ascii "/").length = 1 ∧ (ascii "/channels/+/set").length = 15 := by
    decide +kernel
  have spelled : ascii "/channels/+/set" = ascii "/channels/" ++ ([0x2b] ++ ascii "/set") := by
    decide +kernel
  rw [makeChannelCommandWildcard, text.valid, device]
  simp only [Bool.not_true, Bool.or_self, Nat.reduceBEq, Bool.false_eq_true, if_false]
  rw [printed, if_pos, spelled, commandLevel]
  simp only [List.length_append, lengths]
  omega

/-- The subscription delivers the topics with any level in the place of the channel. -/
theorem delivers_iff (topic : Bytes) :
    delivers (commandLevel topicPrefix deviceId [0x2b]) topic = true ↔
      ∃ level, slash ∉ level ∧ topic = commandLevel topicPrefix deviceId level := by
  have unsplit : slash ∉ deviceId := allowed_ne deviceId device slash (by decide)
  have plain := text.plain
  have words : levelOf (ascii "channels") = .exact (ascii "channels") ∧
      levelOf (ascii "set") = .exact (ascii "set") ∧ levelOf [0x2b] = .single := by
    decide +kernel
  have named : levelOf deviceId = .exact deviceId := by
    rw [levelOf, if_neg, if_neg]
    · rintro rfl
      exact absurd device (by decide)
    · rintro rfl
      exact absurd device (by decide)
  have filter : (levels (commandLevel topicPrefix deviceId [0x2b])).map levelOf =
      (levels topicPrefix).map .exact ++
        [.exact deviceId, .exact (ascii "channels"), .single, .exact (ascii "set")] := by
    rw [levels_commandLevel topicPrefix deviceId unsplit [0x2b] (by decide), List.map_append,
      map_levelOf topicPrefix plain.1 plain.2]
    simp only [List.map_cons, List.map_nil, words, named]
  have head : ∃ level, ((levels topicPrefix).map Level.exact ++
      [Level.exact deviceId, .exact (ascii "channels"), .single, .exact (ascii "set")]).head? =
        some (.exact level) := by
    cases split : levels topicPrefix with
    | nil => exact absurd split (levels_ne_nil topicPrefix)
    | cons first rest => exact ⟨first, rfl⟩
  obtain ⟨first, head⟩ := head
  unfold delivers
  dsimp only
  rw [filter, head, Bool.and_true, covers_exact_append]
  simp only [covers_exact_cons, covers_single_cons, covers_nil]
  constructor
  · rintro ⟨_, split, _, rfl, _, rfl, level, _, rfl, _, rfl, rfl⟩
    have whole : slash ∉ level := by
      refine slash_not_mem topic level ?_
      rw [split]
      simp
    refine ⟨level, whole, levels_injective ?_⟩
    rw [split, levels_commandLevel topicPrefix deviceId unsplit level whole]
  · rintro ⟨level, whole, rfl⟩
    rw [levels_commandLevel topicPrefix deviceId unsplit level whole]
    exact ⟨_, rfl, _, rfl, _, rfl, level, _, rfl, _, rfl, rfl⟩

end

/-- The subscription of a device and its reading of the topics agree: it delivers any topic that is
read as a command for a channel, and only topics with one level in the place of the channel; and of
the topics made for commands of any device it delivers those of the device itself. -/
theorem subscription_exact (topicPrefix topicPrefix' deviceId deviceId' : Bytes)
    (text : PrefixText topicPrefix) (text' : PrefixText topicPrefix')
    (device : validDeviceId deviceId = true) (device' : validDeviceId deviceId' = true) :
    ∃ filter, makeChannelCommandWildcard topicPrefix deviceId 192 = some filter ∧
      (∀ topic, (0 : UInt8) ∉ topic →
        (parseChannelCommandTopic topicPrefix deviceId topic).valid = true →
        delivers filter topic = true) ∧
      (∀ topic, delivers filter topic = true ↔ ∃ level, slash ∉ level ∧
        topic = topicPrefix ++ ascii "/" ++ deviceId ++ ascii "/channels/" ++ level ++
          ascii "/set") ∧
      (∀ channelId capacity topic,
        makeChannelCommandTopic topicPrefix' deviceId' channelId capacity = some topic →
        (delivers filter topic = true ↔ topicPrefix = topicPrefix' ∧ deviceId = deviceId')) := by
  have delivered := delivers_iff topicPrefix deviceId text device
  refine ⟨_, makeChannelCommandWildcard_text topicPrefix deviceId text device, ?_, ?_, ?_⟩
  · intro topic ends valid
    obtain ⟨channelId, parsed⟩ : ∃ channelId, parseChannelCommandTopic topicPrefix deviceId topic =
        { valid := true, channelId } := by
      refine ⟨(parseChannelCommandTopic topicPrefix deviceId topic).channelId, ?_⟩
      rw [← valid]
    obtain ⟨-, digits, -, all, -, spelled⟩ :=
      (parseChannelCommandTopic_iff topicPrefix deviceId text.valid device topic channelId).mp parsed
    rw [delivered]
    refine ⟨digits, slash_not_digit digits all, ?_⟩
    rw [← cStr_eq_self topic ends, spelled, commandBase, cStr_eq_self topicPrefix text.ends,
      cStr_deviceId deviceId device, commandLevel]
    simp only [List.append_assoc]
  · intro topic
    rw [delivered]
    simp only [commandLevel, List.append_assoc]
  · intro channelId capacity topic made
    have spelled : topic = commandLevel topicPrefix' deviceId' (decimal channelId.toNat) := by
      rw [makeChannelCommandTopic, channelTopic] at made
      split at made
      · cases made
      · exact printed_eq_some made
    have whole : slash ∉ decimal channelId.toNat := slash_not_digit _ (isDigit_text _)
    rw [delivered, spelled]
    constructor
    · rintro ⟨level, other, same⟩
      have split := congrArg levels same
      rw [levels_commandLevel topicPrefix' deviceId' (allowed_ne deviceId' device' slash (by decide))
        _ whole, levels_commandLevel topicPrefix deviceId
        (allowed_ne deviceId device slash (by decide)) level other] at split
      obtain ⟨fronts, backs⟩ := List.append_inj' split rfl
      exact ⟨(levels_injective fronts).symm, (List.cons.inj backs).1.symm⟩
    · rintro ⟨rfl, rfl⟩
      exact ⟨decimal channelId.toNat, whole, rfl⟩

/-- Two devices under nested prefixes. -/
theorem subscription_exact_nested :
    ∃ filter, makeChannelCommandWildcard (ascii "site/gw01") (ascii "gw02") 192 = some filter ∧
      (∀ topic, (0 : UInt8) ∉ topic →
        (parseChannelCommandTopic (ascii "site/gw01") (ascii "gw02") topic).valid = true →
        delivers filter topic = true) ∧
      (∀ topic, delivers filter topic = true ↔ ∃ level, slash ∉ level ∧
        topic = ascii "site/gw01" ++ ascii "/" ++ ascii "gw02" ++ ascii "/channels/" ++ level ++
          ascii "/set") ∧
      (∀ channelId capacity topic,
        makeChannelCommandTopic (ascii "site") (ascii "gw01") channelId capacity = some topic →
        (delivers filter topic = true ↔
          ascii "site/gw01" = ascii "site" ∧ ascii "gw02" = ascii "gw01")) :=
  subscription_exact (ascii "site/gw01") (ascii "site") (ascii "gw02") (ascii "gw01")
    ⟨by decide +kernel, by decide +kernel⟩ ⟨by decide +kernel, by decide +kernel⟩
    (by decide +kernel) (by decide +kernel)

end Mqtt
