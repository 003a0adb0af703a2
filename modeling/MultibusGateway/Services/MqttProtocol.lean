import MultibusGateway.Config.DeviceConfig

/-! The topics of the gateway. Those of the discovery of Home Assistant name the component and the
channel, and no two entries have the same one. -/

namespace Mqtt
open ByteString Config

def allowed (c : UInt8) : Bool :=
  (0x61 ≤ c && c ≤ 0x7a) || (0x41 ≤ c && c ≤ 0x5a) || (0x30 ≤ c && c ≤ 0x39) || c == 0x2d ||
    c == 0x5f

def validDeviceId (deviceId : Bytes) : Bool :=
  !deviceId.isEmpty && deviceId.length ≤ 64 && deviceId.all allowed

/-- The decimal digits of a number, as `%u` prints them. -/
def decimal (n : ℕ) : Bytes := (Nat.toDigits 10 n).map fun c => UInt8.ofNat c.toNat

/-- A text that is neither empty nor cut off by the end of its buffer. -/
def printed (capacity : ℕ) (text : Bytes) : Option Bytes :=
  if 0 < text.length ∧ text.length < capacity then some text else none

/-- The components of Home Assistant that are accepted. -/
inductive Component where
  | sensor | binarySensor | number | switch
  deriving DecidableEq

def Component.name : Component → Bytes
  | .sensor => ascii "sensor"
  | .binarySensor => ascii "binary_sensor"
  | .number => ascii "number"
  | .switch => ascii "switch"

section topics
variable (topicPrefix deviceId : Bytes) (channelId : UInt16) (capacity : ℕ)

def channelTopic (leaf : Bytes) : Option Bytes :=
  if !validTopicPrefix topicPrefix || !validDeviceId deviceId || channelId == 0 || capacity == 0 then
    none
  else
    printed capacity (topicPrefix ++ (ascii "/" ++ (deviceId ++ (ascii "/channels/" ++
      (decimal channelId.toNat ++ leaf)))))

def makeChannelStateTopic : Option Bytes :=
  channelTopic topicPrefix deviceId channelId capacity (ascii "/state")

def makeChannelCommandTopic : Option Bytes :=
  channelTopic topicPrefix deviceId channelId capacity (ascii "/set")

def makeAvailabilityTopic : Option Bytes :=
  if !validTopicPrefix topicPrefix || !validDeviceId deviceId || capacity == 0 then none
  else printed capacity (topicPrefix ++ (ascii "/" ++ (deviceId ++ ascii "/status")))

def makeHomeAssistantDiscoveryTopic (component : Component) : Option Bytes :=
  if !validTopicPrefix topicPrefix || !validDeviceId deviceId || channelId == 0 || capacity == 0 then
    none
  else
    printed capacity (topicPrefix ++ (ascii "/" ++ (component.name ++ (ascii "/" ++ (deviceId ++
      (ascii "_ch" ++ (decimal channelId.toNat ++ ascii "/config")))))))

end topics

theorem decimal_injective : Function.Injective decimal := by
  intro a b same
  have back (n : ℕ) : (decimal n).map (fun byte => Char.ofNat byte.toNat) = Nat.toDigits 10 n := by
    rw [decimal, List.map_map]
    refine (List.map_congr_left fun c digit => ?_).trans (List.map_id _)
    have bounds := Nat.isDigit_of_mem_toDigits (by decide) (by decide) digit
    rw [Char.isDigit_iff_toNat] at bounds
    have nine : '9'.toNat = 57 := rfl
    rw [Function.comp_apply, UInt8.toNat_ofNat', Nat.mod_eq_of_lt (by omega), Char.ofNat_toNat]
    rfl
  have digits : Nat.toDigits 10 a = Nat.toDigits 10 b := by
    rw [← back a, ← back b, same]
  rw [← Nat.ofDigitChars_ten_toDigits (n := a), digits, Nat.ofDigitChars_ten_toDigits]

theorem printed_eq_some {capacity : ℕ} {text topic : Bytes}
    (made : printed capacity text = some topic) : topic = text := by
  unfold printed at made
  split at made
  · exact (Option.some.inj made).symm
  · cases made

theorem component_of_prefix (first second : Component) (a b : Bytes)
    (same : first.name ++ (ascii "/" ++ a) = second.name ++ (ascii "/" ++ b)) : first = second := by
  have heads := congrArg (List.take 3) same
  revert heads
  cases first <;> cases second <;> simp [Component.name, ascii]

/-- Two entries with one topic are the same entry. -/
theorem discoveryTopic_injective {topicPrefix deviceId topic : Bytes} {capacity : ℕ}
    {firstId secondId : UInt16} {first second : Component}
    (made : makeHomeAssistantDiscoveryTopic topicPrefix deviceId firstId capacity first = some topic)
    (other : makeHomeAssistantDiscoveryTopic topicPrefix deviceId secondId capacity second =
      some topic) : firstId = secondId ∧ first = second := by
  unfold makeHomeAssistantDiscoveryTopic at made other
  split at made
  · cases made
  · split at other
    · cases other
    · have same := (printed_eq_some made).symm.trans (printed_eq_some other)
      have rest := List.append_cancel_left (List.append_cancel_left same)
      have component := component_of_prefix first second _ _ rest
      rw [component] at rest
      have ids := List.append_cancel_left (List.append_cancel_left (List.append_cancel_left
        (List.append_cancel_left rest)))
      have digits := decimal_injective (List.append_cancel_right ids)
      exact ⟨UInt16.toNat_inj.mp digits, component⟩

end Mqtt
