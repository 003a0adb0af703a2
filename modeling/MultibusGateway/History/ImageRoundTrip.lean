import MultibusGateway.History.Image
import MultibusGateway.Library.Latest

/-! The stored image in the caller's memory: the buffer it is written to, and the ring and the
generation it is read into. A ring that is read back starts at another index than the one that
was written, and no reader can tell them apart. -/

namespace History
open ByteString

namespace HistoryRing
variable {capacity : Nat}

/-- A ring holds the latest records it was given. -/
theorem toList_push (ring : HistoryRing capacity) (record : HistoricalRecord) :
    (ring.push record).toList = (ring.toList ++ [record]).rtake capacity := by
  have positive : 0 < capacity := Nat.zero_lt_of_lt ring.start_lt
  by_cases room : ring.size < capacity
  · rw [toList_push_room ring record room, Latest.rtake_of_length_le]
    rw [List.length_append, toList_length, List.length_singleton]
    omega
  · have full : ring.size = capacity := by
      have bound := ring.size_le
      omega
    rw [toList_push_full ring record full, Latest.rtake_concat_full _ _ _ _ positive]
    rw [toList_length, full]

theorem toList_pushes (ring : HistoryRing capacity) (records : List HistoricalRecord) :
    (records.foldl push ring).toList = (ring.toList ++ records).rtake capacity := by
  induction records generalizing ring with
  | nil =>
    rw [List.append_nil, Latest.rtake_of_length_le]
    · rfl
    · simpa using ring.size_le
  | cons first rest ih =>
    rw [List.foldl_cons, ih, toList_push, Latest.rtake_append, List.append_assoc,
      List.singleton_append]

theorem marked_pushes [NeZero capacity] (pushed : List HistoricalRecord)
    (marked : ∀ record ∈ pushed, record.marked = true) (record : HistoricalRecord)
    (held : record ∈ (pushed.foldl push (default : HistoryRing capacity)).toList) :
    record.marked = true := by
  rw [toList_pushes, toList_default, List.nil_append] at held
  exact marked record (Latest.mem_of_mem_rtake _ _ record held)

end HistoryRing

namespace HistoryImageCodec
variable {capacity : Nat}

structure ImageEncoding where
  success : Bool
  output : Option Bytes
  written : Nat
  deriving DecidableEq

def encodeRecords (ring : HistoryRing capacity) (buffer : Bytes) (count : Nat) :
    Except Bytes Bytes :=
  (List.range count).foldlM (fun buffer i =>
    match ring.oldest i with
    | none => .error buffer
    | some record => .ok (overwrite buffer (kHeaderLength + i * 25) record.bytes)) buffer

/-- The image in a buffer, of which `size` bytes may be used. -/
def encodeInto (ring : HistoryRing capacity) (generation : UInt32) (output : Option Bytes)
    (size : Nat) : ImageEncoding :=
  match output with
  | none => { success := false, output, written := 0 }
  | some buffer =>
    if size < kImageLength capacity ∨ ring.size > capacity then
      { success := false, output, written := 0 }
    else
      let cleared := overwrite buffer 0 (List.replicate (kImageLength capacity) 0)
      let marked := overwrite cleared 0 [0x4d, 0x42, 0x48, 1]
      let stamped := overwrite marked 4 (writeU32 generation)
      let counted := overwrite stamped 8 (writeU16 (UInt16.ofNat ring.size))
      match encodeRecords ring counted ring.size with
      | .error partly => { success := false, output := some partly, written := 0 }
      | .ok filled =>
        let crc := crc32 (filled.take (kImageLength capacity - 4))
        { success := true
          output := some (overwrite filled (kImageLength capacity - 4) (writeU32 crc))
          written := kImageLength capacity }

theorem overwrite_start (buffer written : Bytes) :
    overwrite buffer 0 written = written ++ buffer.drop written.length := by
  rw [overwrite, List.take_zero, List.nil_append, Nat.zero_add]

theorem overwrite_header (generation : UInt32) (count : UInt16) (rest : Bytes) :
    overwrite (overwrite (overwrite (List.replicate 12 0 ++ rest) 0 [0x4d, 0x42, 0x48, 1]) 4
      (writeU32 generation)) 8 (writeU16 count) = header generation count ++ rest := by
  simp [overwrite, writeU32, writeU16, header]

theorem overwrite_record (generation : UInt32) (count : UInt16) (written left rest : Bytes)
    (i : Nat) (place : written.length = i * 25) (record : HistoricalRecord) (room : left.length = 25) :
    overwrite (header generation count ++ (written ++ (left ++ rest)))
      (kHeaderLength + i * 25) record.bytes =
        header generation count ++ ((written ++ record.bytes) ++ rest) := by
  have offset : kHeaderLength + i * 25 = (header generation count ++ written).length := by
    rw [List.length_append, header_length, place]
    rfl
  rw [offset, ← List.append_assoc (header generation count), overwrite_middle]
  · simp only [List.append_assoc]
  · rw [room, HistoricalRecord.bytes_length]

theorem encodeRecords_ok (ring : HistoryRing capacity) (generation : UInt32) (field : UInt16)
    (rest : Bytes) (count : Nat) (inside : count ≤ ring.size) :
    encodeRecords ring (header generation field ++
        (List.replicate (capacity * 25) 0 ++ rest)) count =
      .ok (header generation field ++ ((ring.toList.take count).flatMap HistoricalRecord.bytes ++
        (List.replicate ((capacity - count) * 25) 0 ++ rest))) := by
  have bound := ring.size_le
  induction count with
  | zero => rfl
  | succ count ih =>
    have here : count < ring.toList.length := by
      rw [HistoryRing.toList_length]
      omega
    have found : ring.oldest count = some ring.toList[count] := by
      rw [HistoryRing.oldest_eq_toList, List.getElem?_eq_getElem here]
    have width : ((ring.toList.take count).flatMap HistoricalRecord.bytes).length =
        count * 25 := by
      simp only [List.length_flatMap, HistoricalRecord.bytes_length, List.map_const',
        List.sum_replicate_nat, List.length_take]
      rw [Nat.min_eq_left (Nat.le_of_lt here)]
    have zeros : List.replicate ((capacity - count) * 25) (0 : UInt8) =
        List.replicate 25 0 ++ List.replicate ((capacity - (count + 1)) * 25) 0 := by
      rw [List.replicate_append_replicate]
      congr 1
      omega
    have before := ih (by omega)
    rw [encodeRecords] at before ⊢
    rw [List.range_succ, List.foldlM_append, before, zeros, List.append_assoc]
    simp only [List.foldlM_cons, List.foldlM_nil, found, bind, Except.bind, pure, Except.pure]
    rw [overwrite_record _ _ _ _ _ _ width _ List.length_replicate, List.take_add_one,
      List.getElem?_eq_getElem here, List.flatMap_append]
    simp

theorem encodeInto_eq (ring : HistoryRing capacity) (generation : UInt32) (buffer : Bytes)
    (size : Nat) (room : kImageLength capacity ≤ size) :
    encodeInto ring generation (some buffer) size =
      { success := true
        output := some (encode ring generation ++ buffer.drop (kImageLength capacity))
        written := kImageLength capacity } := by
  have bound := ring.size_le
  have total : kImageLength capacity = 12 + (capacity * 25 + 4) := by
    rw [kImageLength, kHeaderLength, Nat.add_assoc]
  have cleared : List.replicate (kImageLength capacity) (0 : UInt8) =
      List.replicate 12 0 ++ (List.replicate (capacity * 25) 0 ++ List.replicate 4 0) := by
    rw [List.replicate_append_replicate, List.replicate_append_replicate, total]
  have checked : ¬ (size < kImageLength capacity ∨ ring.size > capacity) := by omega
  have body : header generation (UInt16.ofNat ring.size) ++
      ((ring.toList.take ring.size).flatMap HistoricalRecord.bytes ++
        (List.replicate ((capacity - ring.size) * 25) 0 ++ (List.replicate 4 0 ++
          buffer.drop (kImageLength capacity)))) =
      contents ring generation ++ (List.replicate 4 0 ++ buffer.drop (kImageLength capacity)) := by
    rw [List.take_of_length_le (by rw [HistoryRing.toList_length]), contents]
    simp only [List.append_assoc]
  have trailer : kImageLength capacity - 4 = (contents ring generation).length := by
    rw [contents_length, total]
    omega
  simp only [encodeInto, if_neg checked, overwrite_start, List.length_replicate]
  rw [← overwrite_start, cleared, List.append_assoc, List.append_assoc, overwrite_header,
    encodeRecords_ok ring generation _ _ _ le_rfl, body]
  simp only [trailer, List.take_left]
  rw [overwrite_middle _ _ _ _ (by rfl), encode, List.append_assoc]

structure ImageDecoding (capacity : Nat) where
  success : Bool
  ring : HistoryRing capacity
  generation : UInt32
  deriving DecidableEq

def decodeInto [NeZero capacity] (input : Option Bytes) (ring : HistoryRing capacity)
    (generation : UInt32) : ImageDecoding capacity :=
  let refused := { success := false, ring, generation }
  match input with
  | none => refused
  | some input =>
    if input.length ≠ kImageLength capacity then refused
    else if byteAt input 0 ≠ 0x4d ∨ byteAt input 1 ≠ 0x42 ∨ byteAt input 2 ≠ 0x48 ∨
        byteAt input 3 ≠ 1 then refused
    else if crc32 (input.take (kImageLength capacity - 4)) ≠
        readU32 input (kImageLength capacity - 4) then refused
    else
      let count := (readU16 input 8).toNat
      if count > capacity then refused
      else match decodeRecords input count with
        | none => refused
        | some decoded => { success := true, ring := decoded, generation := readU32 input 4 }

theorem decodeInto_eq [NeZero capacity] (input : Bytes) (ring : HistoryRing capacity)
    (generation : UInt32) : decodeInto (some input) ring generation =
      (decode input).elim { success := false, ring, generation }
        fun read => { success := true, ring := read.1, generation := read.2 } := by
  rw [decodeInto, decode]
  dsimp only
  split
  · rfl
  split
  · rfl
  split
  · rfl
  split
  · rfl
  cases (decodeRecords input (readU16 input 8).toNat : Option (HistoryRing capacity)) <;> rfl

theorem decodeInto_refused [NeZero capacity] (input : Option Bytes)
    (ring : HistoryRing capacity) (generation : UInt32)
    (refused : (decodeInto input ring generation).success = false) :
    (decodeInto input ring generation).ring = ring ∧
      (decodeInto input ring generation).generation = generation := by
  cases input with
  | none => exact ⟨rfl, rfl⟩
  | some input =>
    rw [decodeInto_eq] at refused ⊢
    cases read : (decode input : Option (HistoryRing capacity × UInt32)) with
    | none => exact ⟨rfl, rfl⟩
    | some found =>
      rw [read] at refused
      cases refused

/-- The image of a ring of marked records is read back as a ring that holds the same records, and
that goes on holding the same ones whatever is pushed afterwards. -/
theorem decodeInto_encodeInto [NeZero capacity] (fits : capacity ≤ 65535)
    (pushed : List HistoricalRecord) (marked : ∀ record ∈ pushed, record.marked = true)
    (generation : UInt32) (buffer : Bytes) (size : Nat) (room : kImageLength capacity ≤ size) :
    let ring := pushed.foldl HistoryRing.push (default : HistoryRing capacity)
    (∃ output, ∃ decoded : HistoryRing capacity,
      encodeInto ring generation (some buffer) size =
        { success := true, output := some output, written := kImageLength capacity } ∧
      (∀ held stamp, decodeInto (some (output.take (kImageLength capacity))) held stamp =
        { success := true, ring := decoded, generation }) ∧
      decoded.toList = ring.toList ∧
      ∀ more : List HistoricalRecord, (more.foldl HistoryRing.push decoded).toList =
        (more.foldl HistoryRing.push ring).toList) ∧
    ∀ input (held : HistoryRing capacity) stamp,
      (decodeInto input held stamp).success = false →
        (decodeInto input held stamp).ring = held ∧
          (decodeInto input held stamp).generation = stamp := by
  intro ring
  refine ⟨?_, decodeInto_refused⟩
  obtain ⟨decoded, read, same⟩ := decode_encode ring generation (by omega)
    (HistoryRing.marked_pushes pushed marked)
  refine ⟨_, decoded, encodeInto_eq ring generation buffer size room, ?_, same, ?_⟩
  · intro held stamp
    rw [← encode_length ring generation, List.take_left, decodeInto_eq, read]
    rfl
  · intro more
    rw [HistoryRing.toList_pushes, HistoryRing.toList_pushes, same]

def markedRecord (slot : UInt8) : HistoricalRecord :=
  HistoricalRecord.readAt [0x21, 0xce, 0, 0, 0, 0, slot] 0

/-- Three records in a ring for two, which starts at its second cell then. -/
theorem decodeInto_encodeInto_wrapped :
    let ring := [1, 2, 3].foldl (fun ring slot => ring.push (markedRecord slot))
      (default : HistoryRing 2)
    ring.start = 1 ∧
    (∃ output, ∃ decoded : HistoryRing 2,
      encodeInto ring 17 (some (List.replicate 66 0xff)) 66 =
        { success := true, output := some output, written := 66 } ∧
      (∀ held stamp, decodeInto (some (output.take 66)) held stamp =
        { success := true, ring := decoded, generation := 17 }) ∧
      decoded.toList = ring.toList ∧
      ∀ more : List HistoricalRecord, (more.foldl HistoryRing.push decoded).toList =
        (more.foldl HistoryRing.push ring).toList) ∧
    ∀ input (held : HistoryRing 2) stamp, (decodeInto input held stamp).success = false →
      (decodeInto input held stamp).ring = held ∧
        (decodeInto input held stamp).generation = stamp :=
  ⟨by decide +kernel, decodeInto_encodeInto (by decide) [markedRecord 1, markedRecord 2,
    markedRecord 3] (by decide +kernel) 17 (List.replicate 66 0xff) 66 (by decide)⟩

end HistoryImageCodec

end History
