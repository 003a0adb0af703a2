import Mathlib.Data.List.TakeWhile
import MultibusGateway.Library.DecimalText
import MultibusGateway.Library.Separators
import MultibusGateway.Services.MqttProtocol

/-! The topics of the commands. A topic is that of a command for one channel of one device exactly
if it is spelled so, whatever slashes and digits the topic prefix has. -/

namespace Mqtt
open ByteString Config DecimalText Separators

structure CommandTopic where
  valid : Bool := false
  channelId : UInt16 := 0
  deriving DecidableEq

def scanChannelId (id : UInt32) : Bytes → Option (UInt32 × Bytes)
  | [] => some (id, [])
  | c :: rest =>
    if isDigit c then
      let id := id * 10 + (c - 0x30).toUInt32
      if id > 65535 then none else scanChannelId id rest
    else some (id, c :: rest)

def commandBase (topicPrefix deviceId : Bytes) : Bytes :=
  cStr topicPrefix ++ (ascii "/" ++ (cStr deviceId ++ ascii "/channels/"))

def parseChannelCommandTopic (topicPrefix deviceId topic : Bytes) : CommandTopic :=
  if !validTopicPrefix topicPrefix || !validDeviceId deviceId then {}
  else
    match printed 160 (commandBase topicPrefix deviceId) with
    | none => {}
    | some base =>
      let topic := cStr topic
      if topic.take base.length ≠ base then {}
      else
        let p := topic.drop base.length
        if !p.head?.any isDigit then {}
        else
          match scanChannelId 0 p with
          | none => {}
          | some (id, p) =>
            if id == 0 || p ≠ ascii "/set" then {}
            else { valid := true, channelId := id.toUInt16 }

theorem validTopicFrom_length (topic : Bytes) (first lastSlash : Bool) (length : ℕ)
    (start : length ≤ 64) (valid : validTopicFrom first lastSlash length topic = true) :
    length + topic.length ≤ 64 := by
  induction topic generalizing first lastSlash length with
  | nil => exact start
  | cons c topic ih =>
    rw [List.length_cons]
    simp only [validTopicFrom] at valid
    split at valid
    · cases valid
    split at valid
    · cases valid
    split at valid
    · split at valid
      · cases valid
      · have rest := ih _ _ _ (by omega) valid
        omega
    · have rest := ih _ _ _ (by omega) valid
      omega

theorem validTopicPrefix_length (topicPrefix : Bytes)
    (valid : validTopicPrefix topicPrefix = true) : (cStr topicPrefix).length ≤ 64 := by
  rw [validTopicPrefix] at valid
  split at valid
  · cases valid
  · have length := validTopicFrom_length _ _ _ _ (Nat.zero_le _) valid
    rwa [Nat.zero_add] at length

theorem validDeviceId_allowed (deviceId : Bytes) (valid : validDeviceId deviceId = true) :
    deviceId.length ≤ 64 ∧ ∀ c ∈ deviceId, allowed c = true := by
  simp only [validDeviceId, Bool.and_eq_true, decide_eq_true_eq, List.all_eq_true] at valid
  exact ⟨valid.1.2, valid.2⟩

theorem cStr_eq_self (text : Bytes) (ends : (0 : UInt8) ∉ text) : cStr text = text := by
  rw [cStr, List.takeWhile_eq_self_iff]
  intro c member
  rw [bne_iff_ne]
  rintro rfl
  exact ends member

theorem zero_not_mem_cStr (text : Bytes) : (0 : UInt8) ∉ cStr text := by
  intro inside
  exact absurd (List.mem_takeWhile_imp inside) (by decide)

theorem cStr_deviceId (deviceId : Bytes) (valid : validDeviceId deviceId = true) :
    cStr deviceId = deviceId := by
  apply cStr_eq_self
  intro zero
  have bad := (validDeviceId_allowed deviceId valid).2 0 zero
  exact absurd bad (by decide)

theorem printed_base (topicPrefix deviceId : Bytes)
    (valid : validTopicPrefix topicPrefix = true) (device : validDeviceId deviceId = true) :
    printed 160 (commandBase topicPrefix deviceId) = some (commandBase topicPrefix deviceId) := by
  have long := validTopicPrefix_length topicPrefix valid
  have bound := (validDeviceId_allowed deviceId device).1
  have slash : (ascii "/").length = 1 := rfl
  have channels : (ascii "/channels/").length = 10 := rfl
  rw [printed, if_pos]
  rw [commandBase, cStr_deviceId deviceId device]
  simp only [List.length_append, slash, channels]
  omega

theorem scanChannelId_eq (p : Bytes) (id : UInt32) (small : id.toNat ≤ 65535) :
    scanChannelId id p = if valueFrom id.toNat (p.takeWhile isDigit) ≤ 65535 then
      some (UInt32.ofNat (valueFrom id.toNat (p.takeWhile isDigit)), p.dropWhile isDigit)
      else none := by
  induction p generalizing id with
  | nil =>
    rw [List.takeWhile_nil, valueFrom_nil, if_pos small, UInt32.ofNat_toNat]
    rfl
  | cons c p ih =>
    rw [scanChannelId, List.takeWhile_cons, List.dropWhile_cons]
    cases digit : isDigit c with
    | false =>
      simp only [Bool.false_eq_true, if_false, valueFrom_nil, small, if_true,
        UInt32.ofNat_toNat]
    | true =>
      have bounds := (isDigit_iff c).mp digit
      have number : (c - 0x30).toNat = c.toNat - 48 := by
        have least : (0x30 : UInt8) ≤ c := UInt8.le_iff_toNat_le.mpr bounds.1
        rw [UInt8.toNat_sub_of_le _ _ least]
        rfl
      have next : (id * 10 + (c - 0x30).toUInt32).toNat = shifted id.toNat c := by
        rw [UInt32.toNat_add, UInt32.toNat_mul, UInt8.toNat_toUInt32, number, shifted]
        have ten : (10 : UInt32).toNat = 10 := rfl
        rw [ten]
        omega
      simp only [if_true, valueFrom_cons]
      have grown := le_valueFrom (shifted id.toNat c) (p.takeWhile isDigit)
      have limit : id * 10 + (c - 0x30).toUInt32 > 65535 ↔ 65535 < shifted id.toNat c := by
        rw [gt_iff_lt, UInt32.lt_iff_toNat_lt, next]
        rfl
      by_cases past : 65535 < shifted id.toNat c
      · rw [if_pos (limit.mpr past), if_neg (by omega)]
      · rw [if_neg (mt limit.mp past), ih _ (by omega), next]

theorem span_command (digits : Bytes) (all : ∀ c ∈ digits, isDigit c = true) :
    (digits ++ ascii "/set").takeWhile isDigit = digits ∧
      (digits ++ ascii "/set").dropWhile isDigit = ascii "/set" := by
  have slash : ascii "/set" = 0x2f :: ascii "set" := by decide +kernel
  rw [List.takeWhile_append_of_pos all, List.dropWhile_append_of_pos all, slash,
    List.takeWhile_cons_of_neg (by decide), List.dropWhile_cons_of_neg (by decide)]
  exact ⟨List.append_nil digits, rfl⟩

theorem head_isDigit_iff (p : Bytes) : p.head?.any isDigit = true ↔ p.takeWhile isDigit ≠ [] := by
  cases p with
  | nil => simp
  | cons c p =>
    rw [List.head?_cons, Option.any_some, List.takeWhile_cons]
    cases isDigit c <;> simp

section
variable (topicPrefix deviceId : Bytes) (valid : validTopicPrefix topicPrefix = true)
  (device : validDeviceId deviceId = true)

include valid device

theorem parse_behind_base (topic p : Bytes)
    (text : cStr topic = commandBase topicPrefix deviceId ++ p) (channelId : UInt16) :
    parseChannelCommandTopic topicPrefix deviceId topic = { valid := true, channelId } ↔
      channelId ≠ 0 ∧ p.takeWhile isDigit ≠ [] ∧
        valueFrom 0 (p.takeWhile isDigit) = channelId.toNat ∧
        p.dropWhile isDigit = ascii "/set" := by
  have some_ := head_isDigit_iff p
  have scanned := scanChannelId_eq p 0 (by decide)
  rw [UInt32.toNat_zero] at scanned
  rw [parseChannelCommandTopic, valid, device, printed_base topicPrefix deviceId valid device]
  simp only [Bool.not_true, Bool.or_self, Bool.false_eq_true, if_false, text, List.take_left,
    List.drop_left, ne_eq, not_true_eq_false, scanned]
  cases begun : p.head?.any isDigit with
  | false =>
    rw [begun] at some_
    simp only [Bool.not_false, if_true]
    refine iff_of_false (fun same => by cases same) ?_
    rintro ⟨-, digits, -⟩
    exact Bool.false_ne_true (some_.mpr digits)
  | true =>
    have digits := some_.mp begun
    have small := channelId.toNat_lt
    generalize p.takeWhile isDigit = written at digits ⊢
    generalize p.dropWhile isDigit = tail
    generalize valueFrom 0 written = value
    simp only [Bool.not_true, Bool.false_eq_true, if_false]
    by_cases fits : value ≤ 65535
    · have number : (UInt32.ofNat value).toNat = value := by
        rw [UInt32.toNat_ofNat']
        omega
      have zero : UInt32.ofNat value = 0 ↔ value = 0 := by
        rw [← UInt32.toNat_inj, number]
        rfl
      have channel : (UInt32.ofNat value).toUInt16 = channelId ↔ value = channelId.toNat := by
        rw [← UInt16.toNat_inj, UInt32.toNat_toUInt16, number]
        omega
      have none : channelId = 0 ↔ channelId.toNat = 0 := by
        rw [← UInt16.toNat_inj]
        rfl
      rw [if_pos fits]
      dsimp only
      by_cases refused : value = 0 ∨ tail ≠ ascii "/set"
      · rw [if_pos (by simpa [zero] using refused)]
        refine iff_of_false (fun same => by cases same) ?_
        rintro ⟨nonzero, -, same, ends⟩
        rcases refused with empty | other
        · exact nonzero (none.mpr (same.symm.trans empty))
        · exact other ends
      · rw [if_neg (by simpa [zero] using refused), CommandTopic.mk.injEq, channel, none]
        rw [not_or, not_not] at refused
        constructor
        · rintro ⟨-, same⟩
          exact ⟨fun empty => refused.1 (same.trans empty), digits, same, refused.2⟩
        · rintro ⟨-, -, same, -⟩
          exact ⟨rfl, same⟩
    · rw [if_neg fits]
      refine iff_of_false (fun same => by cases same) ?_
      rintro ⟨-, -, same, -⟩
      omega

/-- The command topics of a channel are those that spell its number in digits. -/
theorem parseChannelCommandTopic_iff (topic : Bytes) (channelId : UInt16) :
    parseChannelCommandTopic topicPrefix deviceId topic = { valid := true, channelId } ↔
      channelId ≠ 0 ∧ ∃ digits, digits ≠ [] ∧ (∀ c ∈ digits, isDigit c = true) ∧
        valueFrom 0 digits = channelId.toNat ∧
        cStr topic = commandBase topicPrefix deviceId ++ (digits ++ ascii "/set") := by
  by_cases based : (cStr topic).take (commandBase topicPrefix deviceId).length =
      commandBase topicPrefix deviceId
  · obtain ⟨p, text⟩ : ∃ p, cStr topic = commandBase topicPrefix deviceId ++ p :=
      ⟨_, (based ▸ (List.take_append_drop _ (cStr topic)).symm)⟩
    rw [parse_behind_base topicPrefix deviceId valid device topic p text, text]
    constructor
    · rintro ⟨nonzero, digits, value, ends⟩
      refine ⟨nonzero, p.takeWhile isDigit, digits, ?_, value, ?_⟩
      · exact fun c member => List.mem_takeWhile_imp member
      · rw [← ends, List.takeWhile_append_dropWhile]
    · rintro ⟨nonzero, digits, some_, all, value, same⟩
      obtain ⟨front, back⟩ := span_command digits all
      rw [List.append_cancel_left same, front, back]
      exact ⟨nonzero, some_, value, rfl⟩
  · constructor
    · intro parsed
      rw [parseChannelCommandTopic, valid, device,
        printed_base topicPrefix deviceId valid device] at parsed
      simp only [Bool.not_true, Bool.or_self, Bool.false_eq_true, if_false, ne_eq, based,
        not_false_eq_true, if_true] at parsed
      cases parsed
    · rintro ⟨-, digits, -, -, -, same⟩
      rw [same, List.take_left] at based
      exact absurd rfl based

end

theorem allowed_ne (deviceId : Bytes) (device : validDeviceId deviceId = true) (c : UInt8)
    (other : allowed c = false) : c ∉ deviceId := by
  intro member
  rw [(validDeviceId_allowed deviceId device).2 c member] at other
  cases other

theorem commandBase_injective (topicPrefix topicPrefix' deviceId deviceId' : Bytes)
    (device : validDeviceId deviceId = true) (device' : validDeviceId deviceId' = true)
    (same : commandBase topicPrefix deviceId = commandBase topicPrefix' deviceId') :
    cStr topicPrefix = cStr topicPrefix' ∧ deviceId = deviceId' := by
  have slash : ascii "/" = [0x2f] := by decide +kernel
  rw [commandBase, commandBase, cStr_deviceId deviceId device, cStr_deviceId deviceId' device',
    slash] at same
  have shorter : cStr topicPrefix ++ 0x2f :: deviceId = cStr topicPrefix' ++ 0x2f :: deviceId' := by
    refine List.append_cancel_right (?_ : _ ++ ascii "/channels/" = _ ++ ascii "/channels/")
    simpa only [List.append_assoc, List.cons_append, List.nil_append] using same
  exact last_separator 0x2f _ _ _ _ (allowed_ne deviceId device _ (by decide))
    (allowed_ne deviceId' device' _ (by decide)) shorter

theorem slash_not_digit (digits : Bytes) (all : ∀ c ∈ digits, isDigit c = true) :
    (0x2f : UInt8) ∉ digits := by
  intro member
  exact absurd (all _ member) (by decide)

theorem command_injective (base base' front front' digits digits' : Bytes)
    (all : ∀ c ∈ digits, isDigit c = true) (all' : ∀ c ∈ digits', isDigit c = true)
    (closed : base = front ++ [0x2f]) (closed' : base' = front' ++ [0x2f])
    (same : base ++ (digits ++ ascii "/set") = base' ++ (digits' ++ ascii "/set")) :
    base = base' ∧ digits = digits' := by
  rw [← List.append_assoc, ← List.append_assoc] at same
  have shorter := List.append_cancel_right same
  rw [closed, closed', List.append_assoc, List.append_assoc, List.singleton_append,
    List.singleton_append] at shorter
  obtain ⟨fronts, texts⟩ := last_separator 0x2f _ _ _ _ (slash_not_digit digits all)
    (slash_not_digit digits' all') shorter
  rw [closed, closed', fronts]
  exact ⟨rfl, texts⟩

theorem commandBase_closed (topicPrefix deviceId : Bytes) :
    ∃ front, commandBase topicPrefix deviceId = front ++ [0x2f] := by
  have channels : ascii "/channels/" = ascii "/channels" ++ [0x2f] := by decide +kernel
  refine ⟨cStr topicPrefix ++ (ascii "/" ++ (cStr deviceId ++ ascii "/channels")), ?_⟩
  rw [commandBase, channels]
  simp only [List.append_assoc]

/-- A text without a zero byte that is a valid topic prefix. -/
structure PrefixText (topicPrefix : Bytes) : Prop where
  valid : validTopicPrefix topicPrefix = true
  ends : (0 : UInt8) ∉ topicPrefix

section
variable (topicPrefix deviceId : Bytes) (text : PrefixText topicPrefix)
  (device : validDeviceId deviceId = true) (channelId : UInt16) (some_ : channelId ≠ 0)

include text device

theorem makeChannelCommandTopic_text (capacity : ℕ) (topic : Bytes)
    (made : makeChannelCommandTopic topicPrefix deviceId channelId capacity = some topic) :
    cStr topic = commandBase topicPrefix deviceId ++
      (DecimalText.text channelId.toNat ++ ascii "/set") := by
  rw [makeChannelCommandTopic, channelTopic] at made
  split at made
  · cases made
  · rw [printed_eq_some made, cStr_eq_self]
    · rw [commandBase, cStr_eq_self topicPrefix text.ends, cStr_deviceId deviceId device]
      simp only [List.append_assoc]
      rfl
    · have digits : (0 : UInt8) ∉ decimal channelId.toNat := by
        intro zero
        exact absurd (isDigit_text _ _ zero) (by decide)
      have parts : (0 : UInt8) ∉ ascii "/" ∧ (0 : UInt8) ∉ ascii "/channels/" ∧
          (0 : UInt8) ∉ ascii "/set" := by decide +kernel
      simp only [List.mem_append, not_or]
      exact ⟨text.ends, parts.1, allowed_ne deviceId device 0 (by decide), parts.2.1, digits,
        parts.2.2⟩

include some_ in
theorem channelTopic_fits (leaf : Bytes) (short : leaf.length ≤ 6) :
    channelTopic topicPrefix deviceId channelId 192 leaf =
      some (topicPrefix ++ (ascii "/" ++ (deviceId ++ (ascii "/channels/" ++
        (decimal channelId.toNat ++ leaf))))) := by
  have long := validTopicPrefix_length topicPrefix text.valid
  rw [cStr_eq_self topicPrefix text.ends] at long
  have bound := (validDeviceId_allowed deviceId device).1
  have small := channelId.toNat_lt
  have digits : (decimal channelId.toNat).length ≤ 5 :=
    length_text_le channelId.toNat 5 (by decide) (by omega)
  have lengths : (ascii "/").length = 1 ∧ (ascii "/channels/").length = 10 := by decide +kernel
  have zero : (channelId == 0) = false := beq_eq_false_iff_ne.mpr some_
  rw [channelTopic, text.valid, device, zero]
  simp only [Bool.not_true, Bool.or_self, Nat.reduceBEq, Bool.false_eq_true, if_false]
  rw [printed, if_pos]
  simp only [List.length_append, lengths]
  omega

end

/-- Command topics are parsed exactly, and never for another device: a topic is taken for a channel
exactly if it is spelled as one of its command topics, so what is made for a channel is parsed as
that channel, and what is made for a device is parsed for no other one. -/
theorem command_topics_exact (topicPrefix topicPrefix' deviceId deviceId' : Bytes)
    (text : PrefixText topicPrefix) (text' : PrefixText topicPrefix')
    (device : validDeviceId deviceId = true) (device' : validDeviceId deviceId' = true)
    (channelId : UInt16) (some_ : channelId ≠ 0) :
    (∀ topic, parseChannelCommandTopic topicPrefix deviceId topic =
        { valid := true, channelId } ↔
      ∃ digits, digits ≠ [] ∧ (∀ c ∈ digits, isDigit c = true) ∧
        valueFrom 0 digits = channelId.toNat ∧
        cStr topic = topicPrefix ++ ascii "/" ++ deviceId ++ ascii "/channels/" ++ digits ++
          ascii "/set") ∧
    (∀ capacity topic,
      makeChannelCommandTopic topicPrefix deviceId channelId capacity = some topic →
        parseChannelCommandTopic topicPrefix deviceId topic = { valid := true, channelId }) ∧
    (∀ capacity topic,
      makeChannelCommandTopic topicPrefix' deviceId' channelId capacity = some topic →
        (parseChannelCommandTopic topicPrefix deviceId topic).valid = true →
          topicPrefix = topicPrefix' ∧ deviceId = deviceId') ∧
    (makeChannelCommandTopic topicPrefix deviceId channelId 192).isSome = true := by
  have base : commandBase topicPrefix deviceId =
      topicPrefix ++ (ascii "/" ++ (deviceId ++ ascii "/channels/")) := by
    rw [commandBase, cStr_eq_self topicPrefix text.ends, cStr_deviceId deviceId device]
  have parsed := parseChannelCommandTopic_iff topicPrefix deviceId text.valid device
  have fits := channelTopic_fits topicPrefix deviceId text device channelId some_ (ascii "/set")
    (by decide +kernel)
  refine ⟨?_, ?_, ?_, Option.isSome_of_eq_some fits⟩
  · intro topic
    rw [parsed topic channelId, base]
    simp only [ne_eq, some_, not_false_eq_true, true_and, List.append_assoc]
  · intro capacity topic made
    rw [parsed topic channelId]
    exact ⟨some_, DecimalText.text channelId.toNat, text_ne_nil _, isDigit_text _,
      valueFrom_text _, makeChannelCommandTopic_text topicPrefix deviceId text device channelId
        capacity topic made⟩
  · intro capacity topic made valid
    have spelled := makeChannelCommandTopic_text topicPrefix' deviceId' text' device' channelId
      capacity topic made
    obtain ⟨found, same⟩ : ∃ found, parseChannelCommandTopic topicPrefix deviceId topic =
        { valid := true, channelId := found } := by
      refine ⟨(parseChannelCommandTopic topicPrefix deviceId topic).channelId, ?_⟩
      rw [← valid]
    obtain ⟨-, digits, -, all, -, other⟩ := (parsed topic found).mp same
    obtain ⟨front, closed⟩ := commandBase_closed topicPrefix deviceId
    obtain ⟨front', closed'⟩ := commandBase_closed topicPrefix' deviceId'
    have bases := (command_injective _ _ front front' digits _ all (isDigit_text _) closed closed'
      (other.symm.trans spelled)).1
    obtain ⟨prefixes, devices⟩ :=
      commandBase_injective topicPrefix topicPrefix' deviceId deviceId' device device' bases
    rw [cStr_eq_self topicPrefix text.ends, cStr_eq_self topicPrefix' text'.ends] at prefixes
    exact ⟨prefixes, devices⟩

/-- A prefix that ends like the base of another device. -/
theorem command_topics_nested :
    let outer := ascii "site"
    let inner := ascii "site/gw01/channels"
    (∀ topic, parseChannelCommandTopic outer (ascii "gw01") topic =
        { valid := true, channelId := 65535 } ↔
      ∃ digits, digits ≠ [] ∧ (∀ c ∈ digits, isDigit c = true) ∧
        valueFrom 0 digits = (65535 : UInt16).toNat ∧
        cStr topic = outer ++ ascii "/" ++ ascii "gw01" ++ ascii "/channels/" ++ digits ++
          ascii "/set") ∧
    (∀ capacity topic, makeChannelCommandTopic outer (ascii "gw01") 65535 capacity = some topic →
      parseChannelCommandTopic outer (ascii "gw01") topic =
        { valid := true, channelId := 65535 }) ∧
    (∀ capacity topic, makeChannelCommandTopic inner (ascii "1") 65535 capacity = some topic →
      (parseChannelCommandTopic outer (ascii "gw01") topic).valid = true →
        outer = inner ∧ ascii "gw01" = ascii "1") ∧
    (makeChannelCommandTopic outer (ascii "gw01") 65535 192).isSome = true :=
  command_topics_exact _ _ _ _ ⟨by decide +kernel, by decide +kernel⟩
    ⟨by decide +kernel, by decide +kernel⟩ (by decide +kernel) (by decide +kernel) 65535 (by decide)

end Mqtt
