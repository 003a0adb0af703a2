import MultibusGateway.Library.Framing
import MultibusGateway.Lorawan.Uplink

/-! What can be read off the data uplinks of FPort 85. A decoder goes over the blocks of values,
change patterns and collection exceptions from left to right; the header of each block tells
how long it is. It finds the entries of every sequence of encodings again, and where one
encoding ends and the next begins. -/

namespace Lorawan
open ByteString Modbus Framing

/-- How a value came to be sent; a change alarm carries the change in a block of its own. -/
inductive EntryKind where
  | periodic | threshold | thresholdRelease
  | change (pattern : UInt64)
  deriving DecidableEq

inductive UplinkEntry where
  | value (slot : UInt8) (kind : EntryKind) (registerIndex : UInt8) (dataType : UplinkDataType)
      (signedValue : Bool) (data : Bytes)
  | failure (slot : UInt8)
  deriving DecidableEq

def uplinkDataTypes : List UplinkDataType :=
  [.coil, .discrete, .input16, .hold16, .hold32, .holdFloat, .input32, .inputFloat,
    .input32Upper16, .input32Lower16, .hold32Upper16, .hold32Lower16, .hold64, .holdDouble,
    .input64, .inputDouble]

def uplinkTypeOf (value : UInt8) : Option UplinkDataType := uplinkDataTypes[value.toNat]?

def kChangeType : UInt8 := 0x74

/-- The kind of a value block by the upper two bits of its slot byte, and the bytes that a change
block adds to it. -/
def decodeKind (kindBits : UInt8) (rest : Bytes) : Option (EntryKind × Nat) :=
  if kindBits == 0 then some (.periodic, 0)
  else if kindBits == 1 then some (.threshold, 0)
  else if kindBits == 2 then some (.thresholdRelease, 0)
  else if rest.length < 11 || !hasHeader rest kModbusChannel kChangeType then none
  else some (.change (UInt64.ofNat (ofLittleEndian ((rest.drop 3).take 8))), 11)

def decodeEntry (p : Bytes) : Option (UplinkEntry × Nat) :=
  if hasHeader p kSystemChannel kCollectionExceptionType then
    if p.length < 3 then none else some (.failure (byteAt p 2), 3)
  else if hasHeader p kModbusChannel kModbusChannelDataType then
    let flags := byteAt p 3
    match uplinkTypeOf (flags &&& 0x1f) with
    | none => none
    | some dataType =>
      let width := uplinkValueWidth dataType
      if p.length < 4 + width then none
      else match decodeKind (byteAt p 2 >>> 6) (p.drop (4 + width)) with
        | none => none
        | some (kind, more) =>
          some (.value (byteAt p 2 &&& 0x3f) kind (if flags &&& 0x20 != 0 then 1 else 0) dataType
            (flags &&& 0x80 != 0) ((p.drop 4).take width), 4 + width + more)
  else none

/-- Only the second value of a poll goes on with the encoding of the entry before it. -/
def UplinkEntry.continues : UplinkEntry → Bool
  | .value _ .periodic registerIndex _ _ _ => registerIndex == 1
  | _ => false

/-- The entries of a payload, one list for each encoding. -/
def decodeUplink (p : Bytes) : Option (List (List UplinkEntry)) :=
  (decodeAll decodeEntry p.length p).map (List.splitBy fun _ entry => entry.continues)

/-! The image of an entry. -/

def EntryKind.raw : EntryKind → UInt8
  | periodic => 0x00 | threshold => 0x01 | thresholdRelease => 0x02 | change _ => 0x03

def EntryKind.bytes (slot registerIndex : UInt8) : EntryKind → Bytes
  | change pattern =>
    [kModbusChannel, kChangeType,
      (if registerIndex == 1 then 0x40 else 0x00) ||| (slot &&& 0x3f)] ++ littleEndian pattern 8
  | _ => []

def UplinkEntry.bytes : UplinkEntry → Bytes
  | .value slot kind registerIndex dataType signedValue data =>
    [kModbusChannel, kModbusChannelDataType, (kind.raw <<< 6) ||| (slot &&& 0x3f),
      valueFlags signedValue registerIndex dataType] ++ data ++ kind.bytes slot registerIndex
  | .failure slot => [kSystemChannel, kCollectionExceptionType, slot]

def UplinkEntry.WellFormed : UplinkEntry → Prop
  | .value slot _ registerIndex dataType _ data =>
    slot < kCompatibilitySlotCount ∧ registerIndex ≤ 1 ∧ data.length = uplinkValueWidth dataType
  | .failure slot => slot < kCompatibilitySlotCount

theorem valueFlags_fields (signedValue : Bool) (registerIndex : UInt8) (dataType : UplinkDataType)
    (small : registerIndex ≤ 1) :
    uplinkTypeOf (valueFlags signedValue registerIndex dataType &&& 0x1f) =
        some dataType ∧
      (if valueFlags signedValue registerIndex dataType &&& 0x20 != 0 then 1 else 0) =
        registerIndex ∧
      (valueFlags signedValue registerIndex dataType &&& 0x80 != 0) = signedValue := by
  have bit : registerIndex = 0 ∨ registerIndex = 1 := by
    have bound : registerIndex.toNat ≤ 1 := small
    rcases Nat.le_one_iff_eq_zero_or_eq_one.mp bound with zero | one
    · exact Or.inl (UInt8.toNat_inj.mp zero)
    · exact Or.inr (UInt8.toNat_inj.mp one)
  rcases bit with rfl | rfl <;> cases signedValue <;> cases dataType <;> decide

theorem slotByte_fields (kind slot : UInt8) (few : kind < 4) (small : slot < 64) :
    ((kind <<< 6) ||| (slot &&& 0x3f)) >>> 6 = kind ∧
      ((kind <<< 6) ||| (slot &&& 0x3f)) &&& 0x3f = slot := by
  have table : ∀ k < 4, ∀ n < 64,
      ((UInt8.ofNat k <<< 6) ||| (UInt8.ofNat n &&& 0x3f)) >>> 6 = UInt8.ofNat k ∧
        ((UInt8.ofNat k <<< 6) ||| (UInt8.ofNat n &&& 0x3f)) &&& 0x3f = UInt8.ofNat n := by
    decide +kernel
  simpa using table kind.toNat few slot.toNat small

theorem decodeKind_bytes (kind : EntryKind) (slot registerIndex : UInt8) (rest : Bytes) :
    decodeKind kind.raw (kind.bytes slot registerIndex ++ rest) =
      some (kind, (kind.bytes slot registerIndex).length) := by
  cases kind with
  | periodic => rfl
  | threshold => rfl
  | thresholdRelease => rfl
  | change pattern =>
    have image : ((EntryKind.bytes slot registerIndex (.change pattern) ++ rest).drop 3).take 8 =
        littleEndian pattern 8 := by
      simp [EntryKind.bytes]
    have header : hasHeader (EntryKind.bytes slot registerIndex (.change pattern) ++ rest)
        kModbusChannel kChangeType = true := by
      simp [EntryKind.bytes, hasHeader]
    have size : (EntryKind.bytes slot registerIndex (.change pattern)).length = 11 := by
      simp [EntryKind.bytes]
    have back : UInt64.ofNat (ofLittleEndian (littleEndian pattern 8)) = pattern := by
      have bound := pattern.toNat_lt
      rw [ofLittleEndian_littleEndian pattern 8 le_rfl, Nat.mod_eq_of_lt (by omega)]
      exact UInt64.ofNat_toNat
    unfold decodeKind
    rw [image, back, header, size]
    simp [EntryKind.raw]
    omega

theorem decodeEntry_failure (slot : UInt8) (rest : Bytes) :
    decodeEntry (kSystemChannel :: kCollectionExceptionType :: slot :: rest) =
      some (.failure slot, 3) := by
  have header : hasHeader (kSystemChannel :: kCollectionExceptionType :: slot :: rest)
      kSystemChannel kCollectionExceptionType = true := rfl
  have long : ¬ (kSystemChannel :: kCollectionExceptionType :: slot :: rest).length < 3 := by
    simp only [List.length_cons]
    omega
  rw [decodeEntry, if_pos header, if_neg long]
  rfl

theorem decodeEntry_value (slotByte flags : UInt8) (tail : Bytes) (dataType : UplinkDataType)
    (kind : EntryKind) (more : Nat) (type : uplinkTypeOf (flags &&& 0x1f) = some dataType)
    (inside : uplinkValueWidth dataType ≤ tail.length)
    (alarm : decodeKind (slotByte >>> 6) (tail.drop (uplinkValueWidth dataType)) =
      some (kind, more)) :
    decodeEntry (kModbusChannel :: kModbusChannelDataType :: slotByte :: flags :: tail) =
      some (.value (slotByte &&& 0x3f) kind (if flags &&& 0x20 != 0 then 1 else 0) dataType
        (flags &&& 0x80 != 0) (tail.take (uplinkValueWidth dataType)),
          4 + uplinkValueWidth dataType + more) := by
  have plain : ¬ hasHeader (kModbusChannel :: kModbusChannelDataType :: slotByte :: flags :: tail)
      kSystemChannel kCollectionExceptionType = true := Bool.false_ne_true
  have header : hasHeader (kModbusChannel :: kModbusChannelDataType :: slotByte :: flags :: tail)
      kModbusChannel kModbusChannelDataType = true := rfl
  have long : ¬ (kModbusChannel :: kModbusChannelDataType :: slotByte :: flags :: tail).length <
      4 + uplinkValueWidth dataType := by
    simp only [List.length_cons]
    omega
  have behind : (kModbusChannel :: kModbusChannelDataType :: slotByte :: flags :: tail).drop
      (4 + uplinkValueWidth dataType) = tail.drop (uplinkValueWidth dataType) := by
    rw [← List.drop_drop]
    rfl
  rw [decodeEntry, if_neg plain, if_pos header]
  simp only [byteAt_cons_succ, byteAt_cons_zero, type]
  rw [if_neg long, behind, alarm]
  rfl

theorem decodeEntry_bytes (entry : UplinkEntry) (formed : entry.WellFormed) (rest : Bytes) :
    decodeEntry (entry.bytes ++ rest) = some (entry, entry.bytes.length) := by
  cases entry with
  | failure slot => exact decodeEntry_failure slot rest
  | value slot kind registerIndex dataType signedValue data =>
    obtain ⟨own, index, width⟩ := formed
    have few : kind.raw < 4 := by cases kind <;> (simp only [EntryKind.raw]; decide)
    have small : slot < 64 := UInt8.lt_trans own (by decide)
    obtain ⟨kindBits, slotBits⟩ := slotByte_fields kind.raw slot few small
    obtain ⟨type, second, sign⟩ := valueFlags_fields signedValue registerIndex dataType index
    have shape : (UplinkEntry.value slot kind registerIndex dataType signedValue data).bytes ++
        rest = kModbusChannel :: kModbusChannelDataType ::
          ((kind.raw <<< 6) ||| (slot &&& 0x3f)) ::
            valueFlags signedValue registerIndex dataType ::
              (data ++ (kind.bytes slot registerIndex ++ rest)) := by
      simp only [UplinkEntry.bytes, List.append_assoc, List.cons_append, List.nil_append]
    have total : (UplinkEntry.value slot kind registerIndex dataType signedValue data).bytes.length =
        4 + uplinkValueWidth dataType + (kind.bytes slot registerIndex).length := by
      simp only [UplinkEntry.bytes, List.length_append, List.length_cons, List.length_nil, width]
    have inside : uplinkValueWidth dataType ≤
        (data ++ (kind.bytes slot registerIndex ++ rest)).length := by
      rw [List.length_append, width]
      omega
    have alarm : decodeKind (((kind.raw <<< 6) ||| (slot &&& 0x3f)) >>> 6)
        ((data ++ (kind.bytes slot registerIndex ++ rest)).drop (uplinkValueWidth dataType)) =
          some (kind, (kind.bytes slot registerIndex).length) := by
      rw [kindBits, ← width, List.drop_left]
      exact decodeKind_bytes kind slot registerIndex rest
    rw [shape, total, decodeEntry_value _ _ _ dataType kind _ type inside alarm, slotBits, second,
      sign, ← width, List.take_left]

/-! The encodings. -/

inductive UplinkCall where
  | success (channel : ChannelConfig) (values : List DecodedScalar) (capacity : Nat)
  | failure (channel : ChannelConfig) (capacity : Nat)
  | alarm (channel : ChannelConfig) (registerIndex : UInt8) (value : DecodedScalar)
      (kind : AlarmKind) (changeValue : Binary64) (capacity : Nat)

def UplinkCall.encode : UplinkCall → Encoded
  | .success channel values capacity => encodePollSuccess channel values capacity
  | .failure channel capacity => encodePollFailure channel capacity
  | .alarm channel registerIndex value kind changeValue capacity =>
    encodeAlarm channel registerIndex value kind changeValue capacity

def rawValue (channel : ChannelConfig) (value : DecodedScalar) : Bytes :=
  match encodeScalarBytes channel value 8 with
  | .ok data => data
  | .error _ => []

def valueEntry (channel : ChannelConfig) (kind : EntryKind) (registerIndex : UInt8)
    (value : DecodedScalar) : UplinkEntry :=
  .value channel.slot kind registerIndex (uplinkDataType channel.dataType) (uplinkSigned channel)
    (rawValue channel value)

/-- What the call says, in the terms of the uplink. -/
def UplinkCall.entries : UplinkCall → List UplinkEntry
  | .success channel values _ =>
    values.zipIdx.map fun (value, index) => valueEntry channel .periodic (UInt8.ofNat index) value
  | .failure channel _ => [.failure channel.slot]
  | .alarm channel registerIndex value kind changeValue _ =>
    let kind := match kind with
      | .threshold => .threshold
      | .thresholdRelease => .thresholdRelease
      | .change => .change changeValue.bits
    [valueEntry channel kind registerIndex value]

/-! The bytes of a value. -/

/-- The bits of a value, cut to the width of its type when they are written. -/
def scalarBits (channel : ChannelConfig) : DecodedScalar → UInt64
  | .boolean value => if value then 1 else 0
  | .signedInteger value => value.toUInt64
  | .unsignedInteger value => value
  | .floatingPoint value =>
    if uplinkValueWidth (uplinkDataType channel.dataType) = 4 then value.toBinary32.bits.toUInt64
    else value.bits

theorem encodeScalarBytes_bits (channel : ChannelConfig) (value : DecodedScalar) (capacity : Nat)
    (data : Bytes) (encoded : encodeScalarBytes channel value capacity = .ok data) :
    data = littleEndian (scalarBits channel value)
      (uplinkValueWidth (uplinkDataType channel.dataType)) := by
  unfold encodeScalarBytes at encoded
  dsimp only at encoded
  split at encoded
  · cases encoded
  split at encoded
  · cases encoded
  split at encoded
  · cases encoded
  split at encoded
  · split at encoded
    · rename_i state
      split at encoded
      · cases encoded
      · rename_i one
        have width : uplinkValueWidth (uplinkDataType channel.dataType) = 1 := by simpa using one
        obtain rfl := Except.ok.inj encoded
        rw [width, scalarBits]
        cases state <;> rfl
    · cases encoded
  split at encoded
  · split at encoded
    · rename_i real
      split at encoded
      · rename_i four
        have width : uplinkValueWidth (uplinkDataType channel.dataType) = 4 := by simpa using four
        obtain rfl := Except.ok.inj encoded
        rw [width, scalarBits, if_pos width]
      · rename_i four
        have other : uplinkValueWidth (uplinkDataType channel.dataType) ≠ 4 := by simpa using four
        split at encoded
        · rename_i eight
          have width : uplinkValueWidth (uplinkDataType channel.dataType) = 8 := by
            simpa using eight
          obtain rfl := Except.ok.inj encoded
          rw [width, scalarBits, if_neg other]
        · cases encoded
    · cases encoded
  split at encoded
  · obtain rfl := Except.ok.inj encoded
    rfl
  · obtain rfl := Except.ok.inj encoded
    rfl
  · cases encoded

theorem encodeScalarBytes_length (channel : ChannelConfig) (scalar : DecodedScalar)
    (capacity : Nat) (data : Bytes)
    (encoded : encodeScalarBytes channel scalar capacity = .ok data) :
    data.length = uplinkValueWidth (uplinkDataType channel.dataType) := by
  rw [encodeScalarBytes_bits channel scalar capacity data encoded]
  exact littleEndian_length _ _

/-! The bytes of an encoding are the images of its entries. -/

theorem periodic_slotByte (slot : UInt8) (own : slot < kCompatibilitySlotCount) :
    (EntryKind.periodic.raw <<< 6) ||| (slot &&& 0x3f) = slot := by
  have table : ∀ n < 32, (EntryKind.periodic.raw <<< 6) ||| (UInt8.ofNat n &&& 0x3f) =
      UInt8.ofNat n := by decide +kernel
  simpa using table slot.toNat own

theorem encodeChannelValue_bytes (channel : ChannelConfig) (registerIndex : UInt8) (data : Bytes)
    (capacity : Nat) (frame : Bytes)
    (encoded : encodeChannelValue channel registerIndex data capacity = .ok frame) :
    frame = (UplinkEntry.value channel.slot .periodic registerIndex
        (uplinkDataType channel.dataType) (uplinkSigned channel) data).bytes ∧
      (UplinkEntry.value channel.slot .periodic registerIndex
        (uplinkDataType channel.dataType) (uplinkSigned channel) data).WellFormed := by
  unfold encodeChannelValue encodePeriodicValue at encoded
  dsimp only at encoded
  split at encoded
  · cases encoded
  split at encoded
  · cases encoded
  rename_i inRange
  split at encoded
  · cases encoded
  rename_i sized
  split at encoded
  · cases encoded
  simp only [Bool.or_eq_true, decide_eq_true_eq, not_or, ge_iff_le, gt_iff_lt, UInt8.not_le,
    UInt8.not_lt] at inRange
  obtain ⟨own, index⟩ := inRange
  have width : data.length = uplinkValueWidth (uplinkDataType channel.dataType) := by
    by_contra different
    exact sized (by simp [different])
  refine ⟨?_, own, index, width⟩
  rw [← Except.ok.inj encoded]
  simp only [UplinkEntry.bytes, EntryKind.bytes, periodic_slotByte channel.slot own,
    List.append_nil]

theorem encodePollSuccess_entries (channel : ChannelConfig) (capacity : Nat)
    (values : List (DecodedScalar × Nat)) (written bytes : Bytes)
    (encoded : values.foldlM (fun written (value, index) => do
      let data ← encodeScalarBytes channel value 8
      let frame ← encodeChannelValue channel (UInt8.ofNat index) data (capacity - written.length)
      Except.ok (written ++ frame)) written = .ok bytes) :
    let entries := values.map fun (value, index) =>
      valueEntry channel .periodic (UInt8.ofNat index) value
    bytes = written ++ entries.flatMap UplinkEntry.bytes ∧
      ∀ entry ∈ entries, entry.WellFormed := by
  induction values generalizing written with
  | nil =>
    obtain rfl := Except.ok.inj encoded
    simp
  | cons first others ih =>
    obtain ⟨value, index⟩ := first
    rw [List.foldlM_cons] at encoded
    dsimp only at encoded
    cases scalar : encodeScalarBytes channel value 8 with
    | error status =>
      rw [scalar] at encoded
      cases encoded
    | ok data =>
      rw [scalar] at encoded
      cases framed : encodeChannelValue channel (UInt8.ofNat index) data
          (capacity - written.length) with
      | error status =>
        simp only [framed, bind, Except.bind] at encoded
        cases encoded
      | ok frame =>
        simp only [framed, bind, Except.bind] at encoded
        obtain ⟨rest, formed⟩ := ih (written ++ frame) encoded
        have raw : rawValue channel value = data := by rw [rawValue, scalar]
        have own := encodeChannelValue_bytes channel _ data _ frame framed
        rw [← raw] at own
        obtain ⟨image, well⟩ := own
        refine ⟨?_, ?_⟩
        · rw [rest, image, List.append_assoc]
          rfl
        · intro entry member
          obtain rfl | behind := List.mem_cons.mp member
          · exact well
          · exact formed entry behind

theorem encodeAlarm_entry (channel : ChannelConfig) (registerIndex : UInt8)
    (value : DecodedScalar) (kind : AlarmKind) (changeValue : Binary64) (capacity : Nat)
    (bytes : Bytes)
    (encoded : encodeAlarm channel registerIndex value kind changeValue capacity = .ok bytes) :
    let entries := (UplinkCall.alarm channel registerIndex value kind changeValue capacity).entries
    bytes = entries.flatMap UplinkEntry.bytes ∧ ∀ entry ∈ entries, entry.WellFormed := by
  unfold encodeAlarm at encoded
  split at encoded
  · cases encoded
  rename_i checked
  simp only [Bool.or_eq_true, decide_eq_true_eq, not_or, ge_iff_le, UInt8.not_le,
    Bool.not_eq_true] at checked
  obtain ⟨⟨⟨valid, own⟩, inside⟩, -⟩ := checked
  obtain ⟨-, -, -, -, most⟩ := (validChannelConfig_iff channel).mp (by simpa using valid)
  have index : registerIndex ≤ 1 := by
    rw [UInt8.le_iff_toNat_le]
    rw [UInt8.lt_iff_toNat_lt] at inside
    have one : (1 : UInt8).toNat = 1 := rfl
    omega
  cases scalar : encodeScalarBytes channel value 8 with
  | error status =>
    rw [scalar] at encoded
    cases encoded
  | ok data =>
    rw [scalar] at encoded
    dsimp only at encoded
    have raw : rawValue channel value = data := by rw [rawValue, scalar]
    have width := encodeScalarBytes_length channel value 8 data scalar
    refine ⟨?_, ?_⟩
    · cases kind with
      | threshold | thresholdRelease =>
        simp only [reduceCtorEq, if_false, ne_eq, not_false_eq_true, if_true] at encoded
        split at encoded
        · cases encoded
        obtain rfl := Except.ok.inj encoded
        simp [UplinkCall.entries, valueEntry, UplinkEntry.bytes, EntryKind.bytes, EntryKind.raw,
          AlarmKind.raw, raw]
      | change =>
        simp only [ne_eq, not_true_eq_false, if_false, if_true] at encoded
        split at encoded
        · cases encoded
        obtain rfl := Except.ok.inj encoded
        simp [UplinkCall.entries, valueEntry, UplinkEntry.bytes, EntryKind.bytes, EntryKind.raw,
          AlarmKind.raw, kChangeType, raw]
    · intro entry member
      obtain rfl := List.mem_singleton.mp member
      exact ⟨own, index, raw.symm ▸ width⟩

theorem UplinkCall.encode_entries (call : UplinkCall) (bytes : Bytes)
    (encoded : call.encode = .ok bytes) :
    bytes = call.entries.flatMap UplinkEntry.bytes ∧
      ∀ entry ∈ call.entries, entry.WellFormed := by
  cases call with
  | success channel values capacity =>
    simp only [UplinkCall.encode, encodePollSuccess] at encoded
    split at encoded
    · cases encoded
    · exact encodePollSuccess_entries channel capacity values.zipIdx [] bytes encoded
  | failure channel capacity =>
    simp only [UplinkCall.encode, encodePollFailure, encodeCollectionException] at encoded
    split at encoded
    · cases encoded
    split at encoded
    · cases encoded
    rename_i own
    split at encoded
    · cases encoded
    obtain rfl := Except.ok.inj encoded
    refine ⟨rfl, fun entry member => ?_⟩
    obtain rfl := List.mem_singleton.mp member
    exact UInt8.not_le.mp own
  | alarm channel registerIndex value kind changeValue capacity =>
    exact encodeAlarm_entry channel registerIndex value kind changeValue capacity bytes encoded

theorem UplinkCall.entries_headed (call : UplinkCall) (bytes : Bytes)
    (encoded : call.encode = .ok bytes) :
    ∃ first others, call.entries = first :: others ∧ first.continues = false ∧
      ∀ entry ∈ others, entry.continues = true := by
  cases call with
  | success channel values capacity =>
    simp only [UplinkCall.encode, encodePollSuccess] at encoded
    split at encoded
    · cases encoded
    rename_i checked
    simp only [Bool.or_eq_true, beq_iff_eq, decide_eq_true_eq, not_or] at checked
    obtain ⟨⟨-, some⟩, few⟩ := checked
    match values with
    | [] => exact absurd rfl some
    | [value] => exact ⟨_, [], rfl, rfl, by simp⟩
    | [value, second] =>
      refine ⟨_, [valueEntry channel .periodic 1 second], rfl, rfl, fun entry member => ?_⟩
      rw [List.mem_singleton.mp member]
      rfl
    | _ :: _ :: _ :: _ =>
      simp only [List.length_cons] at few
      omega
  | failure channel capacity => exact ⟨_, [], rfl, rfl, by simp⟩
  | alarm channel registerIndex value kind changeValue capacity =>
    refine ⟨_, [], rfl, ?_, by simp⟩
    cases kind <;> rfl

/-- The decoder finds the entries of any encodings in the bytes of all of them. -/
theorem decodeUplink_encodings (calls : List (UplinkCall × Bytes))
    (encoded : ∀ call ∈ calls, call.1.encode = .ok call.2) :
    decodeUplink (calls.flatMap Prod.snd) = some (calls.map fun call => call.1.entries) := by
  have image : calls.flatMap Prod.snd =
      (calls.map fun call => call.1.entries).flatten.flatMap UplinkEntry.bytes := by
    induction calls with
    | nil => rfl
    | cons call others ih =>
      obtain ⟨own, -⟩ := call.1.encode_entries call.2 (encoded call List.mem_cons_self)
      have later := ih fun other member => encoded other (List.mem_cons_of_mem _ member)
      simp only [List.flatMap_cons, List.map_cons, List.flatten_cons, List.flatMap_append]
      rw [← later, ← own]
  have single : ∀ entry ∈ (calls.map fun call => call.1.entries).flatten,
      entry.bytes ≠ [] ∧
        ∀ rest, decodeEntry (entry.bytes ++ rest) = some (entry, entry.bytes.length) := by
    intro entry member
    obtain ⟨entries, listed, member⟩ := List.mem_flatten.mp member
    obtain ⟨call, called, rfl⟩ := List.mem_map.mp listed
    obtain ⟨-, formed⟩ := call.1.encode_entries call.2 (encoded call called)
    refine ⟨?_, decodeEntry_bytes entry (formed entry member)⟩
    cases entry <;> simp [UplinkEntry.bytes]
  have headed : ∀ group ∈ calls.map fun call => call.1.entries,
      ∃ first others, group = first :: others ∧ first.continues = false ∧
        ∀ entry ∈ others, entry.continues = true := by
    intro group listed
    obtain ⟨call, called, rfl⟩ := List.mem_map.mp listed
    exact call.1.entries_headed call.2 (encoded call called)
  rw [decodeUplink, image, decodeAll_flatMap decodeEntry UplinkEntry.bytes _ single _ le_rfl,
    Option.map_some, splitBy_headed UplinkEntry.continues _ headed]

/-- The encodings are found again in their concatenation, so that different lists of them never
have the same bytes. -/
theorem uplinks_uniquely_decodable (calls : List (UplinkCall × Bytes))
    (encoded : ∀ call ∈ calls, call.1.encode = .ok call.2) :
    decodeUplink (calls.flatMap Prod.snd) = some (calls.map fun call => call.1.entries) ∧
      ∀ others : List (UplinkCall × Bytes), (∀ call ∈ others, call.1.encode = .ok call.2) →
        others.flatMap Prod.snd = calls.flatMap Prod.snd →
          (others.map fun call => call.1.entries) = (calls.map fun call => call.1.entries) ∧
            others.map Prod.snd = calls.map Prod.snd := by
  refine ⟨decodeUplink_encodings calls encoded, fun others encoded' same => ?_⟩
  have entries : (others.map fun call => call.1.entries) = calls.map fun call => call.1.entries := by
    have found := decodeUplink_encodings others encoded'
    rw [same, decodeUplink_encodings calls encoded] at found
    exact (Option.some.inj found).symm
  have bytes (calls : List (UplinkCall × Bytes))
      (encoded : ∀ call ∈ calls, call.1.encode = .ok call.2) :
      calls.map Prod.snd = (calls.map fun call => call.1.entries).map
        fun entries => entries.flatMap UplinkEntry.bytes := by
    rw [List.map_map]
    exact List.map_congr_left fun call member =>
      (call.1.encode_entries call.2 (encoded call member)).1
  refine ⟨entries, ?_⟩
  rw [bytes others encoded', bytes calls encoded, entries]

/-- Two registers of a channel, the failure of a poll, and a change of the second register. -/
def meterUplinks : List (UplinkCall × Bytes) :=
  let meter : ChannelConfig :=
    { slot := 4, dataType := .hold16AB, quantity := 2, signedValue := true }
  [(.success meter [.signedInteger 3, .signedInteger (-1)] 24,
      [0xf9, 0x73, 0x04, 0x83, 0x03, 0x00, 0xf9, 0x73, 0x04, 0xa3, 0xff, 0xff]),
    (.failure meter 24, [0xff, 0x15, 0x04]),
    (.alarm meter 1 (.signedInteger 7) .change ⟨0x4010000000000000⟩ 51,
      [0xf9, 0x73, 0xc4, 0xa3, 0x07, 0x00, 0xf9, 0x74, 0x44, 0, 0, 0, 0, 0, 0, 0x10, 0x40])]

theorem uplinks_uniquely_decodable_meter :
    decodeUplink (meterUplinks.flatMap Prod.snd) =
        some (meterUplinks.map fun call => call.1.entries) ∧
      ∀ others : List (UplinkCall × Bytes), (∀ call ∈ others, call.1.encode = .ok call.2) →
        others.flatMap Prod.snd = meterUplinks.flatMap Prod.snd →
          (others.map fun call => call.1.entries) =
              (meterUplinks.map fun call => call.1.entries) ∧
            others.map Prod.snd = meterUplinks.map Prod.snd := by
  refine uplinks_uniquely_decodable meterUplinks ?_
  simp only [meterUplinks, List.forall_mem_cons]
  exact ⟨rfl, rfl, rfl, fun _ none => absurd none List.not_mem_nil⟩

end Lorawan
