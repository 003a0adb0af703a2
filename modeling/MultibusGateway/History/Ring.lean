import Mathlib.Data.Nat.ModEq
import MultibusGateway.Lorawan.Uplink

/-! Historical records and the ring that keeps the latest of them. -/

namespace History
open ByteString Modbus Lorawan

def kHistoricalModbusRecordLength : Nat := 25

structure HistoricalRecord where
  payload : Vector UInt8 kHistoricalModbusRecordLength := Vector.replicate _ 0
  deriving DecidableEq, Inhabited

namespace HistoricalRecord

def bytes (record : HistoricalRecord) : Bytes := record.payload.toList

@[simp] theorem bytes_length (record : HistoricalRecord) : record.bytes.length = 25 :=
  Vector.length_toList

def timestamp (record : HistoricalRecord) : UInt32 := readU32 record.bytes 2

/-- The mark of a Modbus record, which every decoded record carries. -/
def marked (record : HistoricalRecord) : Bool :=
  byteAt record.bytes 0 == 0x21 && byteAt record.bytes 1 == 0xce

def readAt (p : Bytes) (offset : Nat) : HistoricalRecord :=
  ⟨Vector.ofFn fun i => byteAt p (offset + i)⟩

theorem readAt_eq (record : HistoricalRecord) (p : Bytes) (offset : Nat)
    (same : ∀ k < 25, byteAt p (offset + k) = byteAt record.bytes k) :
    readAt p offset = record := by
  have payload : (Vector.ofFn fun i : Fin kHistoricalModbusRecordLength =>
      byteAt p (offset + i)) = record.payload := by
    apply Vector.ext
    intro i hi
    rw [Vector.getElem_ofFn, same i hi]
    simp [bytes, byteAt, hi]
  rw [readAt, payload]

theorem byteAt_readAt (p : Bytes) (offset k : Nat) (hk : k < 25) :
    byteAt (readAt p offset).bytes k = byteAt p (offset + k) := by
  have bound : k < (readAt p offset).bytes.length := by simpa using hk
  rw [byteAt_eq_getElem _ _ bound]
  simp [readAt, bytes]

end HistoricalRecord

def recordControl (channel : ChannelConfig) (success : Bool) : UInt16 :=
  (if uplinkSigned channel then 0x8000 else (0 : UInt16)) |||
    ((channel.dataType.raw.toUInt16 &&& 0x3f) <<< 9) |||
    (if success then 0x0100 else (0 : UInt16)) |||
    ((channel.quantity &&& 0x03).toUInt16 <<< 6)

def recordValues (channel : ChannelConfig) (values : List DecodedScalar) : Encoded :=
  values.foldlM (fun written value => do
    let encoded ← encodeScalarBytes channel value 8
    .ok (written ++ encoded ++ List.replicate (8 - encoded.length) 0)) []

def encodeModbusRecord (unixTimestamp : UInt32) (channel : ChannelConfig) (success : Bool)
    (values : List DecodedScalar) : Except EncodeStatus HistoricalRecord :=
  if !validChannelConfig channel then .error .invalid
  else if success && (values.length != channel.quantity.toNat || values.length == 0 ||
      values.length > 2) then .error .invalid
  else if !success && values.length != 0 then .error .invalid
  else match recordValues channel values with
    | .error status => .error status
    | .ok fields => .ok (HistoricalRecord.readAt ([0x21, 0xce] ++ writeU32 unixTimestamp ++
        [channel.slot] ++ writeU16 (recordControl channel success) ++ fields) 0)

theorem encodeModbusRecord_marked (unixTimestamp : UInt32) (channel : ChannelConfig)
    (success : Bool) (values : List DecodedScalar) (record : HistoricalRecord)
    (encoded : encodeModbusRecord unixTimestamp channel success values = .ok record) :
    record.marked = true ∧ record.timestamp = unixTimestamp := by
  simp only [encodeModbusRecord] at encoded
  split at encoded
  · cases encoded
  split at encoded
  · cases encoded
  split at encoded
  · cases encoded
  split at encoded
  · cases encoded
  rename_i fields _
  have built := (Except.ok.inj encoded).symm
  have byte : ∀ k < 25, byteAt record.bytes k = byteAt ([0x21, 0xce] ++ writeU32 unixTimestamp ++
      [channel.slot] ++ writeU16 (recordControl channel success) ++ fields) k := by
    intro k hk
    rw [built, HistoricalRecord.byteAt_readAt _ _ _ hk, Nat.zero_add]
  constructor
  · simp only [HistoricalRecord.marked, byte 0 (by omega), byte 1 (by omega)]
    rfl
  · rw [HistoricalRecord.timestamp, ← readU32_writeU32 unixTimestamp []]
    simp only [readU32, Nat.zero_add, Nat.reduceAdd]
    rw [byte 2 (by omega), byte 3 (by omega), byte 4 (by omega), byte 5 (by omega)]
    rfl

/-- A ring buffer: `size` records from index `start` on, wrapping around. -/
structure HistoryRing (capacity : Nat) where
  records : Vector HistoricalRecord capacity := Vector.replicate _ {}
  start : Nat := 0
  size : Nat := 0
  start_lt : start < capacity
  size_le : size ≤ capacity := by omega
  deriving DecidableEq

namespace HistoryRing

variable {capacity : Nat}

instance [NeZero capacity] : Inhabited (HistoryRing capacity) :=
  ⟨{ start_lt := Nat.pos_of_neZero capacity }⟩

def clear (ring : HistoryRing capacity) : HistoryRing capacity :=
  { ring with
    start := 0
    size := 0
    start_lt := Nat.zero_lt_of_lt ring.start_lt
    size_le := Nat.zero_le _ }

def empty (ring : HistoryRing capacity) : Bool := ring.size == 0

def record (ring : HistoryRing capacity) (index : Nat) : HistoricalRecord :=
  ring.records.toList.getD (index % capacity) {}

def oldest (ring : HistoryRing capacity) (index : Nat) : Option HistoricalRecord :=
  if index ≥ ring.size then none else some (ring.record (ring.start + index))

def push (ring : HistoryRing capacity) (record : HistoricalRecord) : HistoryRing capacity :=
  if h : ring.size < capacity then
    { ring with
      records := ring.records.setIfInBounds ((ring.start + ring.size) % capacity) record
      size := ring.size + 1
      size_le := h }
  else
    { ring with
      records := ring.records.setIfInBounds ring.start record
      start := (ring.start + 1) % capacity
      start_lt := Nat.mod_lt _ (Nat.zero_lt_of_lt ring.start_lt) }

def toList (ring : HistoryRing capacity) : List HistoricalRecord :=
  (List.range ring.size).map fun i => ring.record (ring.start + i)

@[simp] theorem toList_length (ring : HistoryRing capacity) :
    ring.toList.length = ring.size := by simp [toList]

@[simp] theorem size_default [NeZero capacity] : (default : HistoryRing capacity).size = 0 := rfl

@[simp] theorem toList_default [NeZero capacity] :
    (default : HistoryRing capacity).toList = [] := rfl

@[simp] theorem toList_clear (ring : HistoryRing capacity) : ring.clear.toList = [] := rfl

theorem oldest_eq_toList (ring : HistoryRing capacity) (index : Nat) :
    ring.oldest index = ring.toList[index]? := by
  simp only [oldest, toList]
  split
  · rename_i past
    rw [List.getElem?_eq_none (by simpa using past)]
  · rename_i inside
    rw [List.getElem?_map, List.getElem?_range (by omega)]
    rfl

theorem record_setIfInBounds (ring written : HistoryRing capacity) (position index : Nat)
    (record : HistoricalRecord) (inside : position < capacity)
    (set : written.records = ring.records.setIfInBounds position record) :
    written.record index = if index % capacity = position then record else ring.record index := by
  have bound : index % capacity < capacity := Nat.mod_lt _ (by omega)
  simp only [HistoryRing.record, set, List.getD_eq_getElem?_getD]
  rw [List.getElem?_eq_getElem (by simpa using bound),
    List.getElem?_eq_getElem (by simpa using bound)]
  simp only [Option.getD_some, Vector.getElem_toList]
  split
  · rename_i same
    subst same
    simp
  · rename_i apart
    rw [Vector.getElem_setIfInBounds_ne]
    exact fun same => apart same.symm

theorem toList_push_room (ring : HistoryRing capacity) (record : HistoricalRecord)
    (room : ring.size < capacity) : (ring.push record).toList = ring.toList ++ [record] := by
  have inside : (ring.start + ring.size) % capacity < capacity := Nat.mod_lt _ (by omega)
  have start : (ring.push record).start = ring.start := by simp [push, room]
  have size : (ring.push record).size = ring.size + 1 := by simp [push, room]
  have read := fun index => record_setIfInBounds ring (ring.push record)
    ((ring.start + ring.size) % capacity) index record inside (by simp [push, room])
  rw [toList, size, start, List.range_succ, List.map_append, List.map_singleton]
  congr 1
  · apply List.map_congr_left
    intro i hi
    have older : i < ring.size := List.mem_range.mp hi
    rw [read, if_neg]
    intro same
    have bound := ring.start_lt
    have equal := (Nat.ModEq.add_left_cancel' _ same).eq_of_lt_of_lt (by omega) room
    omega
  · rw [read, if_pos rfl]

theorem toList_push_full (ring : HistoryRing capacity) (record : HistoricalRecord)
    (full : ring.size = capacity) :
    (ring.push record).toList = ring.toList.tail ++ [record] := by
  have room : ¬ ring.size < capacity := by omega
  have positive : 0 < capacity := Nat.zero_lt_of_lt ring.start_lt
  have start : (ring.push record).start = (ring.start + 1) % capacity := by simp [push, room]
  have size : (ring.push record).size = ring.size := by simp [push, room]
  have read := fun index => record_setIfInBounds ring (ring.push record)
    ring.start index record ring.start_lt (by simp [push, room])
  obtain ⟨count, hc⟩ : ∃ count, ring.size = count + 1 := ⟨ring.size - 1, by omega⟩
  have older : ring.toList.tail =
      (List.range count).map fun i => ring.record (ring.start + (i + 1)) := by
    rw [toList, hc, List.range_succ_eq_map, List.map_cons, List.tail_cons, List.map_map]
    rfl
  rw [older, toList, size, start, hc, List.range_succ, List.map_append, List.map_singleton]
  congr 1
  · apply List.map_congr_left
    intro i hi
    have older : i < count := List.mem_range.mp hi
    have same : ((ring.start + 1) % capacity + i) % capacity =
        (ring.start + (i + 1)) % capacity := by
      rw [Nat.mod_add_mod, Nat.add_assoc, Nat.add_comm 1 i]
    rw [read, if_neg]
    · simp only [HistoryRing.record, same]
    · rw [same]
      intro wrapped
      have turn : (ring.start + (i + 1)) % capacity = (ring.start + 0) % capacity := by
        rw [wrapped, Nat.add_zero, Nat.mod_eq_of_lt ring.start_lt]
      have equal := (Nat.ModEq.add_left_cancel' _ turn).eq_of_lt_of_lt (by omega) positive
      omega
  · rw [read, if_pos]
    rw [Nat.mod_add_mod, Nat.add_assoc, Nat.add_comm 1 count, ← hc, full, Nat.add_mod_right,
      Nat.mod_eq_of_lt ring.start_lt]

theorem toList_foldl_push (ring : HistoryRing capacity) (records : List HistoricalRecord)
    (room : ring.size + records.length ≤ capacity) :
    (records.foldl push ring).toList = ring.toList ++ records := by
  induction records generalizing ring with
  | nil => simp
  | cons first rest ih =>
    simp only [List.length_cons] at room
    have size : (ring.push first).size = ring.size + 1 := by
      rw [← toList_length, toList_push_room ring first (by omega)]
      simp
    rw [List.foldl_cons, ih _ (by omega), toList_push_room ring first (by omega)]
    simp

end HistoryRing

end History
