import Mathlib.Data.List.GetD
import Mathlib.Data.List.TakeWhile
import MultibusGateway.Core.Persistence
import MultibusGateway.Modbus.Configuration

/-! The records of the channels. A record holds every part of a channel but the last byte of a
name of 16 bytes, for which there is no room. -/

namespace Application
open ByteString Preferences Modbus

def named (config : ChannelConfig) : ChannelConfig × Bytes :=
  ({ config with name := Vector.replicate _ 0 }, Stores.nameBytes config.name)

namespace Stores

theorem takeWhile_zeros (bytes : Bytes) (count : Nat) :
    (bytes ++ List.replicate count 0).takeWhile (· != 0) = bytes.takeWhile (· != 0) := by
  induction bytes with
  | nil => cases count <;> rfl
  | cons byte rest ih =>
    rw [List.cons_append, List.takeWhile_cons, List.takeWhile_cons, ih]

theorem nameBytes_ofFn (name : Bytes) (fits : name.length ≤ kMaxChannelNameLength) :
    nameBytes (Vector.ofFn fun i => byteAt name i) = name.takeWhile (· != 0) := by
  have filled : ((Vector.ofFn fun i => byteAt name i : ChannelName).toList).take
      kMaxChannelNameLength = name ++ List.replicate (kMaxChannelNameLength - name.length) 0 := by
    have limit : kMaxChannelNameLength = 16 := rfl
    refine List.ext_getElem (by simp; omega) fun i inside _ => ?_
    have bound : i < 16 := by
      rw [List.length_take] at inside
      omega
    simp only [List.getElem_take, Vector.getElem_toList, Vector.getElem_ofFn, byteAt]
    by_cases within : i < name.length
    · rw [List.getElem_append_left within, List.getD_eq_getElem _ _ within]
    · rw [List.getElem_append_right (by omega), List.getElem_replicate,
        List.getD_eq_default _ _ (by omega)]
  rw [nameBytes, filled, takeWhile_zeros]

theorem nameBytes_length (name : ChannelName) : (nameBytes name).length ≤ 16 := by
  refine Nat.le_trans (List.takeWhile_sublist _).length_le ?_
  rw [List.length_take]
  exact Nat.min_le_left _ _

theorem nameBytes_nonzero (name : ChannelName) :
    (nameBytes name).takeWhile (· != 0) = nameBytes name := List.takeWhile_idem

theorem channelRecord_eq (config : ChannelConfig) :
    channelRecord config =
      [1, config.slot, config.slaveId] ++ (writeU16 config.address ++
        ([config.dataType.raw,
          (config.quantity &&& 0x0f) ||| (if config.signedValue then 0x10 else 0x00),
          UInt8.ofNat (nameBytes config.name).length] ++
        (nameBytes config.name ++
          List.replicate (15 - (nameBytes config.name).length) 0).take 15)) := rfl

theorem channelRecord_length (config : ChannelConfig) :
    (channelRecord config).length = kRecordSize := by
  have size : kRecordSize = 23 := rfl
  rw [channelRecord_eq, size]
  simp only [List.length_append, List.length_cons, List.length_nil, writeU16_length,
    List.length_take, List.length_replicate]
  omega

theorem recordName_channelRecord (beyond : UInt8) (config : ChannelConfig) :
    recordName beyond (channelRecord config) =
      (nameBytes config.name).take 15 ++
        if (nameBytes config.name).length = 16 then [beyond] else [] := by
  have most := nameBytes_length config.name
  have length : (byteAt (channelRecord config) 7).toNat = (nameBytes config.name).length := by
    have byte : byteAt (channelRecord config) 7 = UInt8.ofNat (nameBytes config.name).length := rfl
    rw [byte, UInt8.toNat_ofNat', Nat.mod_eq_of_lt (by omega)]
  have behind : (channelRecord config ++ [beyond]).drop 8 =
      (nameBytes config.name ++
        List.replicate (15 - (nameBytes config.name).length) 0).take 15 ++ [beyond] := rfl
  rw [recordName, length, behind]
  generalize nameBytes config.name = name at most
  by_cases long : name.length = 16
  · have kept : (name ++ List.replicate (15 - name.length) 0).take 15 = name.take 15 :=
      List.take_append_of_le_length (by omega)
    have whole : (name.take 15 ++ [beyond]).length = 16 := by
      rw [List.length_append, List.length_take, List.length_singleton]
      omega
    rw [if_pos long, kept, long]
    exact List.take_of_length_le whole.le
  · have room : name.length ≤ 15 := by omega
    have kept : (name ++ List.replicate (15 - name.length) 0).take 15 =
        name ++ List.replicate (15 - name.length) 0 := by
      refine List.take_of_length_le ?_
      rw [List.length_append, List.length_replicate]
      omega
    rw [if_neg long, List.append_nil, List.take_of_length_le room, kept, List.append_assoc,
      List.take_left]

/-- A record is read back as the channel, but for the name. -/
theorem decodeChannelRecord_channelRecord (beyond : UInt8) (config : ChannelConfig)
    (valid : validChannelConfig config = true) :
    decodeChannelRecord beyond (channelRecord config) =
      some { config with
        name := Vector.ofFn fun i => byteAt (recordName beyond (channelRecord config)) i } := by
  have most := nameBytes_length config.name
  have limit : kMaxChannelNameLength = 16 := rfl
  have type : WireDataType.ofRaw (byteAt (channelRecord config) 5) = some config.dataType :=
    WireDataType.ofRaw_raw config.dataType
  have address : readU16 (channelRecord config) 3 = config.address := by
    rw [channelRecord_eq]
    exact (readU16_append_right [1, config.slot, config.slaveId] _ 0).trans
      (readU16_writeU16 config.address _)
  have slot : byteAt (channelRecord config) 1 = config.slot := rfl
  have slave : byteAt (channelRecord config) 2 = config.slaveId := rfl
  have flags : byteAt (channelRecord config) 6 =
      (config.quantity &&& 0x0f) ||| (if config.signedValue then 0x10 else 0x00) := rfl
  have length : (byteAt (channelRecord config) 7).toNat = (nameBytes config.name).length := by
    have byte : byteAt (channelRecord config) 7 = UInt8.ofNat (nameBytes config.name).length := rfl
    rw [byte, UInt8.toNat_ofNat', Nat.mod_eq_of_lt (by omega)]
  have bounds : 1 ≤ config.quantity ∧ config.quantity ≤ 2 := by
    simp only [validChannelConfig, Bool.and_eq_true, decide_eq_true_eq] at valid
    exact ⟨valid.1.1.2, valid.1.2⟩
  have packed : ∀ quantity : UInt8, 1 ≤ quantity ∧ quantity ≤ 2 → ∀ signed : Bool,
      ((quantity &&& 0x0f) ||| (if signed then 0x10 else 0x00)) &&& 0x0f = quantity ∧
      (((quantity &&& 0x0f) ||| (if signed then 0x10 else 0x00)) &&& 0x10 != 0) = signed := by
    intro quantity range signed
    have either : quantity = 1 ∨ quantity = 2 := by
      rw [← UInt8.toNat_inj, ← UInt8.toNat_inj]
      have low := UInt8.le_iff_toNat_le.mp range.1
      have high := UInt8.le_iff_toNat_le.mp range.2
      simp only [UInt8.reduceToNat] at low high ⊢
      omega
    rcases either with rfl | rfl <;> cases signed <;> decide
  obtain ⟨quantity, signed⟩ := packed config.quantity bounds config.signedValue
  have sane : (decide (byteAt (channelRecord config) 0 ≠ 1) ||
      decide ((byteAt (channelRecord config) 7).toNat > kMaxChannelNameLength)) = false := by
    rw [length, Bool.or_eq_false_iff, decide_eq_false_iff_not, decide_eq_false_iff_not]
    exact ⟨fun other => other rfl, by omega⟩
  have short : (recordName beyond (channelRecord config)).length ≤ 16 := by
    rw [recordName, List.length_take, length]
    omega
  unfold decodeChannelRecord
  rw [type]
  dsimp only
  rw [sane, address, slot, slave, flags, quantity, signed, if_neg Bool.false_ne_true,
    setChannelName, if_neg (by omega)]
  dsimp only
  rw [validChannelConfig_named, if_pos valid]

end Stores

end Application
