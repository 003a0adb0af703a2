import MultibusGateway.Lorawan.PollReporting

/-! The 25 bytes of a record, as they are written into the caller's buffer, and what can be read
from them alone. -/

namespace History
open ByteString Modbus Lorawan

/-! Writing a record. -/

structure RecordOutput where
  status : Except EncodeStatus Unit
  bytes : Bytes
  written : Nat := 0

def writeValues (channel : ChannelConfig) (valueAt : Nat → DecodedScalar) (count index : Nat)
    (bytes : Bytes) : Except EncodeStatus Unit × Bytes :=
  if index < count then
    match encodeScalarBytes channel (valueAt index) 8 with
    | .error status => (.error status, bytes)
    | .ok encoded =>
      writeValues channel valueAt count (index + 1) (overwrite bytes (9 + index * 8) encoded)
  else (.ok (), bytes)
termination_by count - index

def givenValue (values : Option (List DecodedScalar)) (index : Nat) : DecodedScalar :=
  (values.getD []).getD index default

/-- The encoder with its pointers: `none` is a null pointer, and the buffer has as many bytes as
its capacity. -/
def encodeModbusRecordInto (unixTimestamp : UInt32) (channel : ChannelConfig) (success : Bool)
    (values : Option (List DecodedScalar)) (valueCount : UInt8) (output : Option Bytes) :
    RecordOutput :=
  let buffer := output.getD []
  if !validChannelConfig channel || output.isNone ||
      buffer.length < kHistoricalModbusRecordLength then
    { status := .error (if output.isNone || !validChannelConfig channel then .invalid
        else .bufferTooSmall)
      bytes := buffer }
  else if success && (values.isNone || valueCount != channel.quantity || valueCount == 0 ||
      valueCount > 2) then { status := .error .invalid, bytes := buffer }
  else if !success && valueCount != 0 then { status := .error .invalid, bytes := buffer }
  else
    let buffer := overwrite buffer 0 (List.replicate kHistoricalModbusRecordLength 0)
    let buffer := overwrite buffer 0 (recordHeader unixTimestamp channel success)
    let (status, buffer) :=
      if success then writeValues channel (givenValue values) valueCount.toNat 0 buffer
      else (.ok (), buffer)
    match status with
    | .error status => { status := .error status, bytes := buffer }
    | .ok () =>
      { status := .ok (), bytes := buffer, written := kHistoricalModbusRecordLength }

/-! Reading a record. -/

structure RecordFields where
  timestamp : UInt32
  slot : UInt8
  signedValue : Bool
  dataType : Option WireDataType
  success : Bool
  quantity : UInt8
  values : List Bytes
  deriving DecidableEq

def decodeModbusRecord (record : HistoricalRecord) : RecordFields :=
  let control := readU16 record.bytes 7
  let dataType := WireDataType.ofRaw ((control >>> 9) &&& 0x3f).toUInt8
  let width := (dataType.map fun type => uplinkValueWidth (uplinkDataType type)).getD 0
  let success := control &&& 0x0100 != 0
  let quantity := ((control >>> 6) &&& 0x03).toUInt8
  { timestamp := record.timestamp
    slot := byteAt record.bytes 6
    signedValue := control &&& 0x8000 != 0
    dataType := dataType
    success := success
    quantity := quantity
    values := if success then
        (List.range quantity.toNat).map fun index => (record.bytes.drop (9 + 8 * index)).take width
      else [] }

/-! The bytes of the buffer. -/

theorem writeValues_ok (channel : ChannelConfig) (valueAt : Nat → DecodedScalar)
    (count index : Nat) (bytes front rest final : Bytes) (few : count ≤ 2) (inside : index ≤ count)
    (place : front.length = 9 + index * 8)
    (cleared : bytes = front ++ (List.replicate (8 * (2 - index)) 0 ++ rest))
    (done : writeValues channel valueAt count index bytes = (.ok (), final)) :
    (∀ i, index ≤ i → i < count →
      encodeScalarBytes channel (valueAt i) 8 = .ok (rawValue channel (valueAt i))) ∧
    final = front ++ (((List.range' index (count - index)).map valueAt).flatMap (valueSlot channel) ++
      (List.replicate (8 * (2 - count)) 0 ++ rest)) := by
  fun_induction writeValues channel valueAt count index bytes generalizing front with
  | case1 index bytes more status failed => cases done
  | case2 index bytes more encoded written ih =>
    have raw : rawValue channel (valueAt index) = encoded := by rw [rawValue, written]
    have most : encoded.length ≤ 8 := by
      rw [← raw]
      exact rawValue_length channel (valueAt index)
    -- the place of this value, and the places behind it
    have zeros : List.replicate (8 * (2 - index)) (0 : UInt8) =
        List.replicate encoded.length 0 ++ (List.replicate (8 - encoded.length) 0 ++
          List.replicate (8 * (2 - (index + 1))) 0) := by
      rw [List.replicate_append_replicate, List.replicate_append_replicate]
      congr 1
      omega
    have next : overwrite bytes (9 + index * 8) encoded =
        (front ++ valueSlot channel (valueAt index)) ++
          (List.replicate (8 * (2 - (index + 1))) 0 ++ rest) := by
      rw [cleared, zeros, List.append_assoc, ← place, overwrite_middle _ _ _ _ (by simp), valueSlot,
        raw]
      simp only [List.append_assoc]
    have step : count - index = (count - (index + 1)) + 1 := by omega
    obtain ⟨others, last⟩ := ih (front ++ valueSlot channel (valueAt index)) (by omega)
      (by rw [List.length_append, place, valueSlot_length]; omega) next done
    refine ⟨fun i least below => ?_, ?_⟩
    · rcases Nat.eq_or_lt_of_le least with rfl | later
      · rw [written, raw]
      · exact others i later below
    · rw [last, step, List.range'_succ, List.map_cons, List.flatMap_cons]
      simp only [List.append_assoc]
  | case3 index bytes ended =>
    obtain rfl : index = count := by omega
    obtain rfl := (Prod.mk.inj done).2
    refine ⟨fun i least below => by omega, ?_⟩
    rw [cleared, Nat.sub_self]
    rfl

def recordedValues (channel : ChannelConfig) (success : Bool)
    (values : Option (List DecodedScalar)) : List DecodedScalar :=
  (List.range (if success then channel.quantity.toNat else 0)).map (givenValue values)

theorem recordedValues_length (channel : ChannelConfig) (success : Bool)
    (values : Option (List DecodedScalar)) :
    (recordedValues channel success values).length =
      if success then channel.quantity.toNat else 0 := by
  rw [recordedValues, List.length_map, List.length_range]

theorem readAt_zeros (p rest : Bytes) (zeros : Nat) (whole : 25 ≤ p.length + zeros) :
    HistoricalRecord.readAt (p ++ (List.replicate zeros 0 ++ rest)) 0 =
      HistoricalRecord.readAt p 0 := by
  apply HistoricalRecord.readAt_eq
  intro k small
  rw [HistoricalRecord.byteAt_readAt p 0 k small, Nat.zero_add]
  by_cases own : k < p.length
  · exact byteAt_append_left p _ k own
  · obtain ⟨j, rfl⟩ := Nat.exists_eq_add_of_le (Nat.not_lt.mp own)
    have beyond : byteAt p (p.length + j) = 0 := by simp [byteAt]
    rw [byteAt_append_right, byteAt_append_left _ _ _ (by rw [List.length_replicate]; omega), beyond]
    simp [byteAt]

theorem headed_buffer (unixTimestamp : UInt32) (channel : ChannelConfig) (success : Bool)
    (buffer : Bytes) :
    overwrite (overwrite buffer 0 (List.replicate kHistoricalModbusRecordLength 0)) 0
        (recordHeader unixTimestamp channel success) =
      recordHeader unixTimestamp channel success ++
        (List.replicate (8 * (2 - 0)) 0 ++ buffer.drop kHistoricalModbusRecordLength) := by
  have cleared : overwrite buffer 0 (List.replicate kHistoricalModbusRecordLength 0) =
      [] ++ (List.replicate 9 0 ++ (List.replicate (8 * (2 - 0)) 0 ++
        buffer.drop kHistoricalModbusRecordLength)) := by
    rw [← List.append_assoc (List.replicate 9 0), List.replicate_append_replicate]
    simp [overwrite, kHistoricalModbusRecordLength]
  rw [cleared]
  exact overwrite_middle [] _ _ _ rfl

theorem encodeModbusRecordInto_ok (unixTimestamp : UInt32) (channel : ChannelConfig)
    (success : Bool) (values : Option (List DecodedScalar)) (valueCount : UInt8)
    (output : Option Bytes)
    (ok : (encodeModbusRecordInto unixTimestamp channel success values valueCount output).status =
      .ok ()) :
    let encoded := encodeModbusRecordInto unixTimestamp channel success values valueCount output
    validChannelConfig channel = true ∧ encoded.written = 25 ∧
      (∀ value ∈ recordedValues channel success values,
        encodeScalarBytes channel value 8 = .ok (rawValue channel value)) ∧
      HistoricalRecord.readAt encoded.bytes 0 =
        slotRecord unixTimestamp channel success (recordedValues channel success values) := by
  unfold encodeModbusRecordInto at ok ⊢
  dsimp only at ok ⊢
  split at ok
  · cases ok
  rename_i fits
  split at ok
  · cases ok
  rename_i counted
  split at ok
  · cases ok
  rename_i uncounted
  rw [if_neg fits, if_neg counted, if_neg uncounted]
  simp only [Bool.or_eq_true, Bool.not_eq_true', decide_eq_true_eq, not_or, Bool.not_eq_false,
    Nat.not_lt] at fits
  obtain ⟨⟨valid, -⟩, room⟩ := fits
  obtain ⟨-, -, -, least, most⟩ := (validChannelConfig_iff channel).mp valid
  have headed := headed_buffer unixTimestamp channel success (output.getD [])
  generalize overwrite (overwrite (output.getD []) 0
    (List.replicate kHistoricalModbusRecordLength 0)) 0
      (recordHeader unixTimestamp channel success) = buffer at ok headed ⊢
  refine ⟨valid, ?_⟩
  have header : (recordHeader unixTimestamp channel success).length = 9 := rfl
  cases success with
  | false =>
    refine ⟨rfl, fun value member => ?_, ?_⟩
    · rw [recordedValues, if_neg Bool.false_ne_true] at member
      cases member
    · rw [if_neg Bool.false_ne_true]
      dsimp only
      rw [headed, readAt_zeros _ _ _ (by rw [header])]
      rfl
  | true =>
    have same : valueCount = channel.quantity := by
      simp only [Bool.true_and, Bool.or_eq_true, not_or] at counted
      simpa using counted.1.1.2
    rw [if_pos rfl] at ok ⊢
    rw [same] at ok ⊢
    cases made : writeValues channel (givenValue values) channel.quantity.toNat 0 buffer with
    | mk status final =>
      rw [made] at ok
      dsimp only at ok ⊢
      cases status with
      | error failed => cases ok
      | ok =>
        obtain ⟨encoded, filled⟩ := writeValues_ok channel (givenValue values) _ 0 buffer _ _ final
          most (Nat.zero_le _) header headed made
        have given : (List.range' 0 (channel.quantity.toNat - 0)).map (givenValue values) =
            recordedValues channel true values := by
          rw [recordedValues, if_pos rfl, Nat.sub_zero, List.range_eq_range']
        rw [given, ← List.append_assoc] at filled
        refine ⟨rfl, fun value member => ?_, ?_⟩
        · obtain ⟨i, inside, rfl⟩ := List.mem_map.mp member
          exact encoded i (Nat.zero_le i) (List.mem_range.mp inside)
        · have length := recordedValues_length channel true values
          rw [if_pos rfl] at length
          rw [filled, readAt_zeros, slotRecord]
          rw [List.length_append, header, slots_length, length]
          omega

theorem encodeModbusRecordInto_unwritten (unixTimestamp : UInt32) (channel : ChannelConfig)
    (success : Bool) (values : Option (List DecodedScalar)) (valueCount : UInt8)
    (output : Option Bytes)
    (failed : (encodeModbusRecordInto unixTimestamp channel success values valueCount output).status
      ≠ .ok ()) :
    (encodeModbusRecordInto unixTimestamp channel success values valueCount output).written = 0 := by
  unfold encodeModbusRecordInto at failed ⊢
  dsimp only at failed ⊢
  split
  · rfl
  split
  · rfl
  split
  · rfl
  rename_i fits counted uncounted
  rw [if_neg fits, if_neg counted, if_neg uncounted] at failed
  split
  · rfl
  · rename_i done
    rw [done] at failed
    exact absurd rfl failed

/-! The fields of a record. -/

section
variable (unixTimestamp : UInt32) (channel : ChannelConfig) (success : Bool)
  (values : List DecodedScalar)

theorem slotRecord_byte (k : Nat) (small : k < 25) :
    byteAt (slotRecord unixTimestamp channel success values).bytes k =
      byteAt (recordHeader unixTimestamp channel success ++ values.flatMap (valueSlot channel)) k := by
  rw [slotRecord, HistoricalRecord.byteAt_readAt _ _ _ small, Nat.zero_add]

theorem slotRecord_unused (i j : Nat) (slot : i < 2) (byte : j < 8)
    (unused : values.length ≤ i ∨ uplinkValueWidth (uplinkDataType channel.dataType) ≤ j)
    (width : ∀ value ∈ values,
      (rawValue channel value).length = uplinkValueWidth (uplinkDataType channel.dataType)) :
    byteAt (slotRecord unixTimestamp channel success values).bytes (9 + (i * 8 + j)) = 0 := by
  have header : (recordHeader unixTimestamp channel success).length = 9 := rfl
  rw [slotRecord_byte _ _ _ _ _ (by omega), ← header, byteAt_append_right]
  by_cases held : i < values.length
  · rw [byteAt_flatMap (valueSlot channel) 8 (valueSlot_length channel) values i j held byte,
      valueSlot]
    have own := width _ (List.getElem_mem held)
    have behind : uplinkValueWidth (uplinkDataType channel.dataType) ≤ j :=
      unused.resolve_left (Nat.not_le.mpr held)
    obtain ⟨k, rfl⟩ := Nat.exists_eq_add_of_le behind
    rw [← own, byteAt_append_right]
    simp [byteAt]
  · have beyond : (values.flatMap (valueSlot channel)).length ≤ i * 8 + j := by
      rw [slots_length]
      omega
    rw [byteAt, List.getD_eq_getElem?_getD, List.getElem?_eq_none beyond]
    rfl

end

theorem quantity_kept (quantity : UInt8) (least : 1 ≤ quantity.toNat) (most : quantity.toNat ≤ 2) :
    quantity &&& 0x03 = quantity := by
  have few : quantity = 1 ∨ quantity = 2 := by
    rcases Nat.eq_or_lt_of_le least with one | more
    · exact .inl (UInt8.toNat_inj.mp one.symm)
    · exact .inr (UInt8.toNat_inj.mp (Nat.le_antisymm most more))
  rcases few with rfl | rfl <;> rfl

/-- A record of values that can be encoded is read again from its bytes. -/
theorem decodeModbusRecord_slotRecord (unixTimestamp : UInt32) (channel : ChannelConfig)
    (success : Bool) (values : List DecodedScalar) (valid : validChannelConfig channel = true)
    (count : values.length = if success then channel.quantity.toNat else 0)
    (each : ∀ value ∈ values,
      encodeScalarBytes channel value 8 = .ok (rawValue channel value)) :
    decodeModbusRecord (slotRecord unixTimestamp channel success values) =
      { timestamp := unixTimestamp
        slot := channel.slot
        signedValue := uplinkSigned channel
        dataType := some channel.dataType
        success := success
        quantity := channel.quantity
        values := values.map fun value => littleEndian (scalarBits channel value)
          (uplinkValueWidth (uplinkDataType channel.dataType)) } := by
  obtain ⟨-, -, -, least, most⟩ := (validChannelConfig_iff channel).mp valid
  have few : values.length ≤ 2 := by
    rw [count]
    split <;> omega
  have slot : byteAt (slotRecord unixTimestamp channel success values).bytes 6 = channel.slot := by
    rw [slotRecord_byte unixTimestamp channel success values 6 (by omega)]
    rfl
  have recorded := encodeModbusRecord_slots unixTimestamp channel success values valid count each
  obtain ⟨-, timestamp⟩ :=
    encodeModbusRecord_marked unixTimestamp channel success values _ recorded
  obtain ⟨type, sign, done, quantity⟩ := recordControl_fields channel success
  rw [quantity_kept channel.quantity least most] at quantity
  unfold decodeModbusRecord
  dsimp only
  rw [slotRecord_control unixTimestamp channel success values few, type, sign, done, quantity, slot,
    timestamp]
  simp only [RecordFields.mk.injEq, true_and, Option.map_some, Option.getD_some]
  cases success with
  | false =>
    rw [if_neg Bool.false_ne_true] at count
    rw [List.length_eq_zero_iff.mp count]
    rfl
  | true =>
    rw [if_pos rfl] at count
    rw [if_pos rfl, ← count]
    apply List.ext_getElem
    · simp
    · intro index before after
      have inside : index < values.length := by simpa using before
      have encoded := each _ (List.getElem_mem inside)
      rw [List.getElem_map, List.getElem_map, List.getElem_range,
        slotRecord_value unixTimestamp channel true values few index inside
          (encodeScalarBytes_length channel _ 8 _ encoded),
        ← encodeScalarBytes_bits channel _ 8 _ encoded]

/-- Whatever is encoded: without success nothing counts as written, and a record that is written
is read again from its 25 bytes alone, with zeros where there is no value. -/
theorem record_decodes (unixTimestamp : UInt32) (channel : ChannelConfig) (success : Bool)
    (values : Option (List DecodedScalar)) (valueCount : UInt8) (output : Option Bytes) :
    let encoded := encodeModbusRecordInto unixTimestamp channel success values valueCount output
    let record := HistoricalRecord.readAt encoded.bytes 0
    let width := uplinkValueWidth (uplinkDataType channel.dataType)
    (encoded.status ≠ .ok () → encoded.written = 0) ∧
    (encoded.status = .ok () → encoded.written = 25 ∧
      decodeModbusRecord record =
        { timestamp := unixTimestamp
          slot := channel.slot
          signedValue := uplinkSigned channel
          dataType := some channel.dataType
          success := success
          quantity := channel.quantity
          values := (recordedValues channel success values).map fun value =>
            littleEndian (scalarBits channel value) width } ∧
      (∀ i < 2, ∀ j < 8,
        (recordedValues channel success values).length ≤ i ∨ width ≤ j →
          byteAt record.bytes (9 + (i * 8 + j)) = 0) ∧
      encodeModbusRecord unixTimestamp channel success (recordedValues channel success values) =
        .ok record) := by
  intro encoded record width
  refine ⟨encodeModbusRecordInto_unwritten unixTimestamp channel success values valueCount output,
    fun ok => ?_⟩
  obtain ⟨valid, written, each, image⟩ :=
    encodeModbusRecordInto_ok unixTimestamp channel success values valueCount output ok
  have image : record = slotRecord unixTimestamp channel success
    (recordedValues channel success values) := image
  have count := recordedValues_length channel success values
  have widths : ∀ value ∈ recordedValues channel success values,
      (rawValue channel value).length = width := fun value member =>
    encodeScalarBytes_length channel value 8 _ (each value member)
  have recorded := encodeModbusRecord_slots unixTimestamp channel success
    (recordedValues channel success values) valid count each
  refine ⟨written, ?_, fun i slot j byte unused => ?_, ?_⟩
  · rw [image]
    exact decodeModbusRecord_slotRecord unixTimestamp channel success _ valid count each
  · rw [image]
    exact slotRecord_unused unixTimestamp channel success _ i j slot byte unused widths
  · rw [image]
    exact recorded

/-- A record of two signed registers. -/
example : decodeModbusRecord (HistoricalRecord.readAt
      [0x21, 0xce, 0x0d, 0x75, 0x5b, 0x63, 0x01, 0x80, 0x85, 0x14, 0x00, 0x00, 0x00, 0x00, 0x00,
        0x00, 0x00, 0xdd, 0xff, 0x00, 0x00, 0x00, 0x00, 0x00, 0x00] 0) =
    { timestamp := 1666938125, slot := 1, signedValue := true, dataType := some .input16AB,
      success := true, quantity := 2, values := [[0x14, 0x00], [0xdd, 0xff]] } := by
  decide +kernel

end History
