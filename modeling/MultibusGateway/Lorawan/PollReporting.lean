import MultibusGateway.History.Ring
import MultibusGateway.Lorawan.PeriodicReport
import MultibusGateway.Lorawan.UplinkDecoding
import MultibusGateway.Modbus.RegisterValue

/-! A poll on its way to the uplink and to the history. What is decoded from a response is
within the width of its uplink type, so that both encodings succeed and the integers can be
read from their bytes again. -/

namespace Lorawan
open ByteString Modbus History

def readInteger (signedValue : Bool) (data : Bytes) : Int :=
  if signedValue then Int.bmod (ofLittleEndian data) (256 ^ data.length) else ofLittleEndian data

def integerOf : DecodedScalar → Option Int
  | .boolean value => some (if value then 1 else 0)
  | .signedInteger value => some value.toInt
  | .unsignedInteger value => some value.toNat
  | .floatingPoint _ => none

/-- The integer of a value block, by its own flags. -/
def UplinkEntry.integer : UplinkEntry → Option Int
  | .value _ _ _ _ signedValue data => some (readInteger signedValue data)
  | .failure _ => none

/-- The integer in a value slot of a record, by the sign and the type in its control word. -/
def recordInteger (record : HistoricalRecord) (index : Nat) : Option Int :=
  let control := readU16 record.bytes 7
  (WireDataType.ofRaw ((control >>> 9) &&& 0x3f).toUInt8).map fun dataType =>
    readInteger (control &&& 0x8000 != 0)
      ((record.bytes.drop (9 + 8 * index)).take (uplinkValueWidth (uplinkDataType dataType)))

def InWidth (channel : ChannelConfig) : DecodedScalar → Prop
  | .signedInteger value =>
    -(256 ^ uplinkValueWidth (uplinkDataType channel.dataType) : Nat) ≤ value.toInt * 2 ∧
      value.toInt * 2 < (256 ^ uplinkValueWidth (uplinkDataType channel.dataType) : Nat)
  | .unsignedInteger value =>
    value.toNat < 256 ^ uplinkValueWidth (uplinkDataType channel.dataType)
  | _ => True

theorem toInt_eq_bmod (value : Int64) : value.toInt = Int.bmod value.toUInt64.toNat (2 ^ 64) :=
  BitVec.toInt_eq_toNat_bmod value.toBitVec

theorem readInteger_signed (value : Int64) (width : Nat) (most : width ≤ 8)
    (lower : -(256 ^ width : Nat) ≤ value.toInt * 2) (upper : value.toInt * 2 < (256 ^ width : Nat)) :
    readInteger true (littleEndian value.toUInt64 width) = value.toInt := by
  have divides : 256 ^ width ∣ 2 ^ 64 := by
    have power : (2 : Nat) ^ 64 = 256 ^ 8 := by norm_num
    rw [power]
    exact pow_dvd_pow 256 most
  rw [readInteger, if_pos rfl, littleEndian_length, ofLittleEndian_littleEndian _ _ most]
  calc Int.bmod ((value.toUInt64.toNat % 256 ^ width : Nat) : Int) (256 ^ width)
      = Int.bmod value.toUInt64.toNat (256 ^ width) := by
        rw [Int.natCast_emod]
        exact Int.emod_bmod _ _
    _ = Int.bmod value.toInt (256 ^ width) := by
        rw [toInt_eq_bmod, Int.bmod_bmod_of_dvd divides]
    _ = value.toInt := Int.bmod_eq_of_le_mul_two lower upper

theorem readInteger_unsigned (value : UInt64) (width : Nat) (most : width ≤ 8)
    (small : value.toNat < 256 ^ width) :
    readInteger false (littleEndian value width) = value.toNat := by
  rw [readInteger, if_neg Bool.false_ne_true, ofLittleEndian_littleEndian _ _ most,
    Nat.mod_eq_of_lt small]

/-! Decoded integers. -/

theorem setInteger_narrow (channel : ChannelConfig) (raw : UInt64) (bits : Nat) (some : 0 < bits)
    (narrow : bits < 64) (small : raw.toNat < 2 ^ bits) (sign : channel.signedValue = true) :
    ∃ value : Int64, setInteger channel raw bits = .signedInteger value ∧
      -2 ^ (bits - 1) ≤ value.toInt ∧ value.toInt ≤ 2 ^ (bits - 1) - 1 := by
  have double : 2 ^ bits = 2 * 2 ^ (bits - 1) := by
    rw [← Nat.pow_succ', Nat.succ_eq_add_one, Nat.sub_add_cancel some]
  have half : (2 : Nat) ^ (bits - 1) ≤ 2 ^ 62 := Nat.pow_le_pow_right (by omega) (by omega)
  have positive : 0 < 2 ^ bits := by positivity
  have lower := @Int.le_bmod raw.toNat (2 ^ bits) positive
  have upper := @Int.bmod_lt raw.toNat (2 ^ bits) positive
  have cast : ((2 ^ (bits - 1) : Nat) : Int) = 2 ^ (bits - 1) := by norm_cast
  have own : (Int64.ofInt (Int.bmod raw.toNat (2 ^ bits))).toInt = Int.bmod raw.toNat (2 ^ bits) :=
    Int64.toInt_ofInt_of_le (by omega) (by omega)
  generalize Int64.ofInt (Int.bmod raw.toNat (2 ^ bits)) = value at own
  have residue : Int.bmod value.toUInt64.toNat (2 ^ bits) = Int.bmod raw.toNat (2 ^ bits) := by
    rw [← Int.bmod_bmod_of_dvd (Nat.pow_dvd_pow 2 narrow.le), ← toInt_eq_bmod, own, Int.bmod_bmod]
  have cut : value.toUInt64 &&& (1 <<< UInt64.ofNat bits - 1) = raw := by
    have same := congrArg (fun residue : Int => residue % (2 ^ bits : Nat)) residue
    simp only [Int.bmod_emod] at same
    apply UInt64.toNat_inj.mp
    rw [and_mask_toNat _ bits narrow]
    have natural : value.toUInt64.toNat % 2 ^ bits = raw.toNat % 2 ^ bits := by exact_mod_cast same
    rw [natural, Nat.mod_eq_of_lt small]
  have range : -2 ^ (bits - 1) ≤ value.toInt ∧ value.toInt ≤ 2 ^ (bits - 1) - 1 := by
    rw [own, ← cast]
    omega
  refine ⟨value, ?_, range⟩
  rw [← cut]
  exact setInteger_cut channel value bits some narrow sign range.1 range.2

theorem setInteger_inWidth (channel : ChannelConfig) (raw : UInt64) (bits : Nat) (some : 0 < bits)
    (small : raw.toNat < 2 ^ bits)
    (fits : bits ≤ 8 * uplinkValueWidth (uplinkDataType channel.dataType)) :
    InWidth channel (setInteger channel raw bits) := by
  have power : (256 : Nat) ^ uplinkValueWidth (uplinkDataType channel.dataType) =
      2 ^ (8 * uplinkValueWidth (uplinkDataType channel.dataType)) := by
    rw [pow_mul]
    rfl
  have wide : 2 ^ bits ≤ 256 ^ uplinkValueWidth (uplinkDataType channel.dataType) := by
    rw [power]
    exact Nat.pow_le_pow_right (by omega) fits
  cases sign : channel.signedValue with
  | false =>
    simp only [setInteger, sign, Bool.not_false, if_true, InWidth]
    omega
  | true =>
    by_cases full : 64 ≤ bits
    · have whole : 2 ^ 64 ≤ 2 ^ bits := Nat.pow_le_pow_right (by omega) full
      have lower := Int64.le_toInt raw.toInt64
      have upper := Int64.toInt_lt raw.toInt64
      simp only [setInteger, sign, Bool.not_true, Bool.false_eq_true, if_false, ge_iff_le, full,
        if_true, InWidth]
      omega
    · obtain ⟨value, found, lower, upper⟩ :=
        setInteger_narrow channel raw bits some (by omega) small sign
      have double : 2 ^ bits = 2 * 2 ^ (bits - 1) := by
        rw [← Nat.pow_succ', Nat.succ_eq_add_one, Nat.sub_add_cancel some]
      have cast : ((2 ^ (bits - 1) : Nat) : Int) = 2 ^ (bits - 1) := by norm_cast
      rw [← cast] at lower upper
      rw [found, InWidth]
      omega

theorem uplink_holds (type : WireDataType) :
    (halfType type = true → 16 ≤ 8 * uplinkValueWidth (uplinkDataType type)) ∧
      orderedWidth type * 8 ≤ 8 * uplinkValueWidth (uplinkDataType type) := by
  cases type <;> decide

theorem decodeIndex_inWidth (channel : ChannelConfig) (data : Bytes) (index : Nat)
    (value : DecodedScalar) (decoded : decodeIndex channel data index = some value) :
    InWidth channel value := by
  obtain ⟨half, ordered⟩ := uplink_holds channel.dataType
  unfold decodeIndex at decoded
  split at decoded
  · obtain rfl := Option.some.inj decoded
    trivial
  unfold decodeRegisterValue at decoded
  dsimp only at decoded
  split at decoded
  · rename_i halved
    split at decoded
    · cases decoded
    · obtain rfl := Option.some.inj decoded
      refine setInteger_inWidth channel _ 16 (by omega) ?_ (half halved)
      rw [UInt16.toNat_toUInt64]
      exact UInt16.toNat_lt _
  split at decoded
  · cases decoded
  rename_i sized
  obtain ⟨wire, placed, found⟩ := Option.bind_eq_some_iff.mp decoded
  split at found
  · split at found
    · obtain rfl := Option.some.inj found
      trivial
    · split at found
      · obtain rfl := Option.some.inj found
        trivial
      · cases found
  · obtain rfl := Option.some.inj found
    obtain ⟨order, known, length, -⟩ := byteOrder_involutive channel.dataType (by omega)
    have image : wire.length = orderedWidth channel.dataType := by
      rw [orderBytes, known] at placed
      rw [← Option.some.inj placed, List.length_map, length]
    have power : (2 : Nat) ^ (orderedWidth channel.dataType * 8) = 256 ^ wire.length := by
      rw [image, mul_comm, pow_mul]
      rfl
    refine setInteger_inWidth channel _ _ (by omega) ?_ ordered
    rw [power]
    exact ofBigEndian_lt wire

theorem encodeScalarBytes_integer (channel : ChannelConfig)
    (valid : validChannelConfig channel = true) (value : DecodedScalar)
    (kind : OfChannel channel value) (inside : InWidth channel value) :
    encodeScalarBytes channel value 8 = .ok (rawValue channel value) ∧
      (rawValue channel value).length = uplinkValueWidth (uplinkDataType channel.dataType) ∧
      (isFloatingPointType channel.dataType = false →
        some (readInteger (uplinkSigned channel) (rawValue channel value)) = integerOf value) := by
  obtain ⟨data, encoded, length⟩ := encodeScalarBytes_ofChannel channel valid value kind
  have raw : rawValue channel value = data := by rw [rawValue, encoded]
  rw [raw]
  refine ⟨encoded, length, fun integer => ?_⟩
  obtain ⟨widths, boolean, -⟩ := uplink_width channel.dataType
  have most : uplinkValueWidth (uplinkDataType channel.dataType) ≤ 8 := by omega
  rw [encodeScalarBytes_bits channel value 8 data encoded]
  cases value with
  | boolean bit =>
    have own : isBooleanType channel.dataType = true := kind
    rw [boolean own, uplinkSigned, if_pos own]
    cases bit <;> rfl
  | floatingPoint real =>
    rw [kind.2] at integer
    cases integer
  | signedInteger whole =>
    obtain ⟨other, -, sign⟩ := kind
    have signed : uplinkSigned channel = true := by simp [uplinkSigned, other, integer, sign]
    rw [signed, scalarBits, readInteger_signed whole _ most inside.1 inside.2]
    rfl
  | unsignedInteger whole =>
    obtain ⟨other, -, sign⟩ := kind
    have plain : uplinkSigned channel = false := by simp [uplinkSigned, other, integer, sign]
    rw [plain, scalarBits, readInteger_unsigned whole _ most inside]
    rfl

/-! The value slots of a record. -/

theorem quantity_bits (quantity : UInt8) : quantity &&& 0x03 ∈ [0, 1, 2, 3].map UInt8.ofNat := by
  have bound : (quantity &&& 0x03).toNat < 4 := by
    rw [UInt8.toNat_and]
    exact Nat.and_lt_two_pow quantity.toNat (n := 2) (by decide)
  have own : UInt8.ofNat (quantity &&& 0x03).toNat = quantity &&& 0x03 := UInt8.ofNat_toNat
  generalize (quantity &&& 0x03).toNat = n at bound own
  rw [← own, List.mem_map]
  exact ⟨n, by simp; omega, rfl⟩

theorem recordControl_fields (channel : ChannelConfig) (success : Bool) :
    WireDataType.ofRaw ((recordControl channel success >>> 9) &&& 0x3f).toUInt8 =
        some channel.dataType ∧
      (recordControl channel success &&& 0x8000 != 0) = uplinkSigned channel ∧
      (recordControl channel success &&& 0x0100 != 0) = success ∧
      ((recordControl channel success >>> 6) &&& 0x03).toUInt8 = channel.quantity &&& 0x03 := by
  have few := quantity_bits channel.quantity
  unfold recordControl
  generalize channel.quantity &&& 0x03 = quantity at few ⊢
  generalize channel.dataType = dataType
  generalize uplinkSigned channel = sign
  revert few success sign quantity
  cases dataType <;> decide +kernel

def valueSlot (channel : ChannelConfig) (value : DecodedScalar) : Bytes :=
  rawValue channel value ++ List.replicate (8 - (rawValue channel value).length) 0

theorem recordValues_slots (channel : ChannelConfig) (values : List DecodedScalar)
    (encoded : ∀ value ∈ values, encodeScalarBytes channel value 8 = .ok (rawValue channel value)) :
    recordValues channel values = .ok (values.flatMap (valueSlot channel)) := by
  have behind (written : Bytes) : values.foldlM (fun written value => do
      let encoded ← encodeScalarBytes channel value 8
      Except.ok (written ++ encoded ++ List.replicate (8 - encoded.length) 0)) written =
        (.ok (written ++ values.flatMap (valueSlot channel)) : Encoded) := by
    induction values generalizing written with
    | nil => simp [pure, Except.pure]
    | cons value others ih =>
      obtain ⟨first, later⟩ := List.forall_mem_cons.mp encoded
      rw [List.foldlM_cons, first]
      refine (ih later _).trans ?_
      simp only [List.flatMap_cons, valueSlot, List.append_assoc]
  exact behind []

theorem rawValue_length (channel : ChannelConfig) (value : DecodedScalar) :
    (rawValue channel value).length ≤ 8 := by
  obtain ⟨widths, -, -⟩ := uplink_width channel.dataType
  unfold rawValue
  cases encoded : encodeScalarBytes channel value 8 with
  | error status => simp
  | ok data =>
    have width := encodeScalarBytes_length channel value 8 data encoded
    dsimp only
    omega

theorem valueSlot_length (channel : ChannelConfig) (value : DecodedScalar) :
    (valueSlot channel value).length = 8 := by
  have most := rawValue_length channel value
  rw [valueSlot, List.length_append, List.length_replicate]
  omega

theorem slots_length (channel : ChannelConfig) (values : List DecodedScalar) :
    (values.flatMap (valueSlot channel)).length = 8 * values.length := by
  induction values with
  | nil => rfl
  | cons value others ih =>
    rw [List.flatMap_cons, List.length_append, valueSlot_length, ih, List.length_cons]
    omega

theorem slots_drop (channel : ChannelConfig) (values : List DecodedScalar) (index : Nat) :
    (values.flatMap (valueSlot channel)).drop (8 * index) =
      (values.drop index).flatMap (valueSlot channel) := by
  induction index generalizing values with
  | zero => rfl
  | succ index ih =>
    cases values with
    | nil => simp
    | cons value others =>
      have split : 8 * (index + 1) = (valueSlot channel value).length + 8 * index := by
        rw [valueSlot_length]
        omega
      rw [List.flatMap_cons, split, ← List.drop_drop, List.drop_left, List.drop_succ_cons]
      exact ih others

def recordHeader (unixTimestamp : UInt32) (channel : ChannelConfig) (success : Bool) : Bytes :=
  [0x21, 0xce] ++ writeU32 unixTimestamp ++ [channel.slot] ++ writeU16 (recordControl channel success)

def slotRecord (unixTimestamp : UInt32) (channel : ChannelConfig) (success : Bool)
    (values : List DecodedScalar) : HistoricalRecord :=
  HistoricalRecord.readAt (recordHeader unixTimestamp channel success ++
    values.flatMap (valueSlot channel)) 0

/-- A record is made of values that can be encoded: all of the channel, or none. -/
theorem encodeModbusRecord_slots (unixTimestamp : UInt32) (channel : ChannelConfig) (success : Bool)
    (values : List DecodedScalar) (valid : validChannelConfig channel = true)
    (count : values.length = if success then channel.quantity.toNat else 0)
    (encoded : ∀ value ∈ values, encodeScalarBytes channel value 8 = .ok (rawValue channel value)) :
    encodeModbusRecord unixTimestamp channel success values =
      .ok (slotRecord unixTimestamp channel success values) := by
  obtain ⟨-, -, -, least, most⟩ := (validChannelConfig_iff channel).mp valid
  have fields := recordValues_slots channel values encoded
  cases success with
  | true =>
    rw [if_pos rfl] at count
    have checked : ¬ (values.length != channel.quantity.toNat || values.length == 0 ||
        values.length > 2) = true := by
      simp [count]
      omega
    simp only [encodeModbusRecord, valid, fields, Bool.not_true, Bool.false_eq_true, if_false,
      Bool.true_and, Bool.false_and]
    rw [if_neg checked]
    rfl
  | false =>
    rw [if_neg Bool.false_ne_true] at count
    simp only [encodeModbusRecord, valid, fields, count, Bool.not_true, Bool.not_false,
      Bool.false_eq_true, if_false, Bool.false_and, bne_self_eq_false, Bool.and_false]
    rfl

section
variable (unixTimestamp : UInt32) (channel : ChannelConfig) (success : Bool)
  (values : List DecodedScalar) (few : values.length ≤ 2)

include few

theorem slotRecord_agree :
    Framing.Agree (9 + 8 * values.length)
      (recordHeader unixTimestamp channel success ++ values.flatMap (valueSlot channel))
      (slotRecord unixTimestamp channel success values).bytes := by
  have header : (recordHeader unixTimestamp channel success).length = 9 := rfl
  refine ⟨by rw [List.length_append, header, slots_length], ?_, fun k small => ?_⟩
  · rw [HistoricalRecord.bytes_length]
    omega
  · rw [slotRecord, HistoricalRecord.byteAt_readAt _ _ _ (by omega), Nat.zero_add]

theorem slotRecord_control :
    readU16 (slotRecord unixTimestamp channel success values).bytes 7 =
      recordControl channel success := by
  have agree := slotRecord_agree unixTimestamp channel success values few
  rw [agree.readU16 (by omega), ← readU16_writeU16 (recordControl channel success) []]
  rfl

theorem slotRecord_value (index : Nat) (inside : index < values.length)
    (width : (rawValue channel values[index]).length =
      uplinkValueWidth (uplinkDataType channel.dataType)) :
    ((slotRecord unixTimestamp channel success values).bytes.drop (9 + 8 * index)).take
        (uplinkValueWidth (uplinkDataType channel.dataType)) = rawValue channel values[index] := by
  have agree := slotRecord_agree unixTimestamp channel success values few
  have most := rawValue_length channel values[index]
  have header : (recordHeader unixTimestamp channel success).length = 9 := rfl
  rw [agree.slice (by omega), ← header, ← List.drop_drop, List.drop_left, slots_drop,
    List.drop_eq_getElem_cons inside, List.flatMap_cons, valueSlot, List.append_assoc, ← width,
    List.take_left]

theorem recordInteger_slots
    (width : ∀ value ∈ values,
      (rawValue channel value).length = uplinkValueWidth (uplinkDataType channel.dataType))
    (index : Nat) (inside : index < values.length) :
    recordInteger (slotRecord unixTimestamp channel success values) index =
      some (readInteger (uplinkSigned channel) (rawValue channel values[index])) := by
  obtain ⟨type, sign, -⟩ := recordControl_fields channel success
  unfold recordInteger
  rw [slotRecord_control unixTimestamp channel success values few]
  dsimp only
  rw [type, sign, Option.map_some, slotRecord_value unixTimestamp channel success values few index
    inside (width _ (List.getElem_mem inside))]

end

/-- What is decoded from a response is reported and recorded, and its integers are read from
the report and from the record as they were decoded. -/
theorem poll_reported_and_recorded (channel : ChannelConfig) (frame : Bytes)
    (values : List DecodedScalar) (decoded : decodeReadResponse channel frame = .ok values)
    (unixTimestamp : UInt32) :
    ∃ payload record, encodePollSuccess channel values 24 = .ok payload ∧
      encodeModbusRecord unixTimestamp channel true values = .ok record ∧
      (isFloatingPointType channel.dataType = false →
        (∀ value ∈ values, ∃ integer, integerOf value = some integer) ∧
        (∃ entries, decodeUplink payload = some [entries] ∧
          entries.map UplinkEntry.integer = values.map integerOf) ∧
        (List.range values.length).map (recordInteger record) = values.map integerOf) := by
  obtain ⟨valid, count, kinds⟩ := decodeReadResponse_ofChannel channel frame values decoded
  have inside : ∀ value ∈ values, InWidth channel value := by
    intro value member
    obtain ⟨-, -, members⟩ := decodeReadResponse_values channel frame values decoded
    obtain ⟨index, single⟩ := members value member
    exact decodeIndex_inWidth channel _ index value single
  obtain ⟨-, -, -, least, most⟩ := (validChannelConfig_iff channel).mp valid
  obtain ⟨payload, reported, -⟩ := encodePollSuccess_length channel values valid count kinds
  have scalar := fun value member =>
    encodeScalarBytes_integer channel valid value (kinds value member) (inside value member)
  have recorded := encodeModbusRecord_slots unixTimestamp channel true values valid count
    fun value member => (scalar value member).1
  refine ⟨payload, _, reported, recorded, fun integer => ⟨?_, ?_, ?_⟩⟩
  · exact fun value member => ⟨_, ((scalar value member).2.2 integer).symm⟩
  · have found := decodeUplink_encodings [(.success channel values 24, payload)]
      (List.forall_mem_singleton.mpr reported)
    rw [List.flatMap_singleton] at found
    refine ⟨_, found, List.ext_getElem (by simp [UplinkCall.entries]) ?_⟩
    intro index before after
    have own : index < values.length := by simpa using after
    simp only [UplinkCall.entries, List.getElem_map, List.getElem_zipIdx]
    exact (scalar _ (List.getElem_mem own)).2.2 integer
  · apply List.ext_getElem
    · simp
    · intro index before after
      have own : index < values.length := by simpa using after
      have read := recordInteger_slots unixTimestamp channel true values (by omega)
        (fun value member => (scalar value member).2.1) index own
      simp only [List.getElem_map, List.getElem_range]
      rw [read]
      exact (scalar _ (List.getElem_mem own)).2.2 integer

/-- The upper halves of two register pairs, of which the first is negative. -/
def upperHalves : ChannelConfig :=
  { slot := 7, dataType := .hold32Upper16, quantity := 2, signedValue := true }

def upperHalvesFrame : Bytes :=
  appendCrc [0x01, 0x03, 0x08, 0xff, 0xfe, 0x12, 0x34, 0x00, 0x05, 0x56, 0x78]

theorem poll_reported_and_recorded_halves :
    ∃ payload record, encodePollSuccess upperHalves [.signedInteger (-2), .signedInteger 5] 24 =
        .ok payload ∧
      encodeModbusRecord 1700000000 upperHalves true [.signedInteger (-2), .signedInteger 5] =
        .ok record ∧
      (isFloatingPointType upperHalves.dataType = false →
        (∀ value ∈ [.signedInteger (-2), .signedInteger 5], ∃ integer,
          integerOf value = some integer) ∧
        (∃ entries, decodeUplink payload = some [entries] ∧
          entries.map UplinkEntry.integer =
            [.signedInteger (-2), .signedInteger 5].map integerOf) ∧
        (List.range 2).map (recordInteger record) =
          [.signedInteger (-2), .signedInteger 5].map integerOf) :=
  poll_reported_and_recorded upperHalves upperHalvesFrame _ (by decide +kernel) 1700000000

end Lorawan
