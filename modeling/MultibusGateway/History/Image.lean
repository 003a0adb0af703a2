import MultibusGateway.History.Ring

/-! The stored image of a ring: a header with a mark, a generation and a count, the records
with the oldest first, zero bytes up to the capacity, and a checksum over all of these. -/

namespace History
open ByteString

def kPersistentHistoryCapacity : Nat := 64

namespace HistoryImageCodec

def kHeaderLength : Nat := 12

def kImageLength (capacity : Nat) : Nat := kHeaderLength + capacity * 25 + 4

def crc32Bit (crc : UInt32) : UInt32 :=
  (crc >>> 1) ^^^ (if crc &&& 1 != 0 then 0xedb88320 else 0)

def crc32Byte (crc : UInt32) (byte : UInt8) : UInt32 :=
  Nat.iterate crc32Bit 8 (crc ^^^ byte.toUInt32)

def crc32 (p : Bytes) : UInt32 := ~~~ (p.foldl crc32Byte 0xffffffff)

variable {capacity : Nat}

def header (generation : UInt32) (count : UInt16) : Bytes :=
  [0x4d, 0x42, 0x48, 1] ++ writeU32 generation ++ writeU16 count ++ [0, 0]

def contents (ring : HistoryRing capacity) (generation : UInt32) : Bytes :=
  header generation (UInt16.ofNat ring.size) ++ ring.toList.flatMap HistoricalRecord.bytes ++
    List.replicate ((capacity - ring.size) * 25) 0

def encode (ring : HistoryRing capacity) (generation : UInt32) : Bytes :=
  contents ring generation ++ writeU32 (crc32 (contents ring generation))

/-- The first `count` records of an image, refused at the first one without the mark. -/
def decodeRecords [NeZero capacity] (input : Bytes) (count : Nat) :
    Option (HistoryRing capacity) :=
  (List.range count).foldlM (fun decoded i =>
    let record := HistoricalRecord.readAt input (kHeaderLength + i * 25)
    if record.marked then some (decoded.push record) else none) default

def decode [NeZero capacity] (input : Bytes) : Option (HistoryRing capacity × UInt32) :=
  if input.length ≠ kImageLength capacity then none
  else if byteAt input 0 ≠ 0x4d ∨ byteAt input 1 ≠ 0x42 ∨ byteAt input 2 ≠ 0x48 ∨
      byteAt input 3 ≠ 1 then none
  else if crc32 (input.take (kImageLength capacity - 4)) ≠
      readU32 input (kImageLength capacity - 4) then none
  else
    let count := (readU16 input 8).toNat
    if count > capacity then none
    else (decodeRecords input count).map fun decoded => (decoded, readU32 input 4)

@[simp] theorem header_length (generation : UInt32) (count : UInt16) :
    (header generation count).length = 12 := rfl

@[simp] theorem contents_length (ring : HistoryRing capacity) (generation : UInt32) :
    (contents ring generation).length = 12 + capacity * 25 := by
  have bound := ring.size_le
  simp only [contents, List.length_append, header_length, List.length_flatMap,
    HistoricalRecord.bytes_length, List.map_const', HistoryRing.toList_length,
    List.sum_replicate_nat, List.length_replicate]
  omega

theorem encode_length (ring : HistoryRing capacity) (generation : UInt32) :
    (encode ring generation).length = kImageLength capacity := by
  simp [encode, kImageLength, kHeaderLength]

theorem encode_take (ring : HistoryRing capacity) (generation : UInt32) :
    (encode ring generation).take (kImageLength capacity - 4) = contents ring generation := by
  have length := contents_length ring generation
  rw [encode, List.take_append_of_le_length (by simp [kImageLength, kHeaderLength]),
    List.take_of_length_le (by simp [kImageLength, kHeaderLength])]

theorem byteAt_encode_header (ring : HistoryRing capacity) (generation : UInt32) (k : Nat)
    (hk : k < 12) : byteAt (encode ring generation) k =
      byteAt (header generation (UInt16.ofNat ring.size)) k := by
  rw [encode, byteAt_append_left _ _ _ (by simp only [contents_length]; omega), contents,
    List.append_assoc, byteAt_append_left _ _ _ (by simpa using hk)]

theorem readAt_encode (ring : HistoryRing capacity) (generation : UInt32) (i : Nat)
    (hi : i < ring.toList.length) :
    HistoricalRecord.readAt (encode ring generation) (kHeaderLength + i * 25) =
      ring.toList[i] := by
  have inside : i < ring.size := by simpa using hi
  have bound := ring.size_le
  apply HistoricalRecord.readAt_eq
  intro k hk
  have offset : kHeaderLength + i * 25 + k =
      (header generation (UInt16.ofNat ring.size)).length + (i * 25 + k) := by
    simp only [header_length, kHeaderLength]
    omega
  have field : (ring.toList.flatMap HistoricalRecord.bytes).length = ring.size * 25 := by
    simp [List.length_flatMap]
  rw [encode, byteAt_append_left _ _ _ (by simp only [contents_length, kHeaderLength]; omega),
    contents, List.append_assoc, offset, byteAt_append_right,
    byteAt_append_left _ _ _ (by rw [field]; omega),
    byteAt_flatMap _ _ HistoricalRecord.bytes_length _ _ _ hi hk]

theorem decodeRecords_all [NeZero capacity] (input : Bytes) (records : List HistoricalRecord)
    (read : ∀ i (hi : i < records.length),
      HistoricalRecord.readAt input (kHeaderLength + i * 25) = records[i])
    (marked : ∀ record ∈ records, record.marked = true) :
    decodeRecords input records.length =
      some (records.foldl HistoryRing.push (default : HistoryRing capacity)) := by
  induction records using List.reverseRecOn with
  | nil => rfl
  | append_singleton rest last ih =>
    have before : decodeRecords input rest.length =
        some (rest.foldl HistoryRing.push (default : HistoryRing capacity)) := by
      apply ih
      · intro i hi
        rw [read i (by simp; omega), List.getElem_append_left hi]
      · exact fun record member => marked record (List.mem_append_left _ member)
    have final : HistoricalRecord.readAt input (kHeaderLength + rest.length * 25) = last := by
      rw [read rest.length (by simp), List.getElem_append_right (by omega)]
      simp
    rw [decodeRecords] at before ⊢
    rw [List.length_append, List.length_singleton, List.range_succ, List.foldlM_append, before,
      List.foldl_append]
    simp [final, marked last (by simp)]

/-- A stored ring of marked records is read back with its generation. -/
theorem decode_encode [NeZero capacity] (ring : HistoryRing capacity) (generation : UInt32)
    (small : capacity < 2 ^ 16) (marked : ∀ record ∈ ring.toList, record.marked = true) :
    ∃ decoded : HistoryRing capacity,
      decode (encode ring generation) = some (decoded, generation) ∧
        decoded.toList = ring.toList := by
  have bound := ring.size_le
  have magic : ¬ (byteAt (encode ring generation) 0 ≠ 0x4d ∨
      byteAt (encode ring generation) 1 ≠ 0x42 ∨ byteAt (encode ring generation) 2 ≠ 0x48 ∨
      byteAt (encode ring generation) 3 ≠ 1) := by
    simp only [byteAt_encode_header _ _ _ (show 0 < 12 by omega),
      byteAt_encode_header _ _ _ (show 1 < 12 by omega),
      byteAt_encode_header _ _ _ (show 2 < 12 by omega),
      byteAt_encode_header _ _ _ (show 3 < 12 by omega)]
    simp [header]
  have checksum : readU32 (encode ring generation) (kImageLength capacity - 4) =
      crc32 (contents ring generation) := by
    have offset : kImageLength capacity - 4 = (contents ring generation).length := by
      simp [kImageLength, kHeaderLength]
    rw [offset, encode]
    refine (readU32_append_right _ _ 0).trans ?_
    simpa using readU32_writeU32 (crc32 (contents ring generation)) []
  have field := byteAt_encode_header ring generation
  have count : (readU16 (encode ring generation) 8).toNat = ring.toList.length := by
    rw [readU16_congr _ _ _ (field 8 (by omega)) (field 9 (by omega)), header,
      List.append_assoc]
    refine (congrArg UInt16.toNat (readU16_append_right ([0x4d, 0x42, 0x48, 1] ++
      writeU32 generation) _ 0)).trans ?_
    rw [readU16_writeU16, UInt16.toNat_ofNat', HistoryRing.toList_length]
    omega
  have stamp : readU32 (encode ring generation) 4 = generation := by
    rw [readU32_congr _ _ _ fun i hi => field (4 + i) (by omega), header, List.append_assoc,
      List.append_assoc]
    exact (readU32_append_right [0x4d, 0x42, 0x48, 1] _ 0).trans (readU32_writeU32 generation _)
  have records : decodeRecords (encode ring generation) ring.toList.length =
      some (ring.toList.foldl HistoryRing.push (default : HistoryRing capacity)) :=
    decodeRecords_all _ ring.toList (readAt_encode ring generation) marked
  refine ⟨ring.toList.foldl HistoryRing.push default, ?_, ?_⟩
  · rw [decode, if_neg (by simp [encode_length]), if_neg magic, if_neg]
    · simp only [count, records, stamp, Option.map_some]
      rw [if_neg]
      simpa using bound
    · rw [encode_take, checksum]
      simp
  · rw [HistoryRing.toList_foldl_push _ _ (by simpa using bound), HistoryRing.toList_default,
      List.nil_append]

end HistoryImageCodec

end History
