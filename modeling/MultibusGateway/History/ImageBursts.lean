import MultibusGateway.History.ImageRoundTrip
import MultibusGateway.Modbus.NoiseBursts

/-! A damaged image. The checksum is stored as the complement of the register, so an image is
right exactly if its bits leave the register at one residue, and an error that is confined to
thirty-two bits in a row takes the register away from there. -/

namespace History
open ByteString ShiftRegister Modbus

namespace HistoryImageCodec
variable {capacity : Nat}

/-- Some bits are turned over, all of them among thirty-two in a row. -/
def Burst (error : Bytes) : Prop :=
  ∃ before burst after, burst.length ≤ 32 ∧ true ∈ burst ∧
    frameBits error = List.replicate before false ++ burst ++ List.replicate after false

/-! The loop of the checksum as a shift register. -/

def kImagePolynomial : BitVec 32 := 0xEDB88320#32

theorem crc32Bit_shift (crc : UInt32) :
    (crc32Bit crc).toBitVec = shift kImagePolynomial crc.toBitVec := by
  have low : (crc &&& 1 != 0) = crc.toBitVec.getLsbD 0 := by
    have masked : (crc &&& 1).toBitVec = BitVec.setWidth 32 (BitVec.ofBool
        (crc.toBitVec.getLsbD 0)) := BitVec.and_one_eq_setWidth_ofBool_getLsbD
    rw [bne, ← Bool.not_not (crc.toBitVec.getLsbD 0)]
    congr 1
    rw [Bool.eq_iff_iff, beq_iff_eq, ← UInt32.toBitVec_inj, masked]
    cases crc.toBitVec.getLsbD 0 <;> decide
  unfold crc32Bit shift
  rw [low]
  split
  · rfl
  · rw [UInt32.toBitVec_xor]
    exact BitVec.xor_zero

theorem crc32Byte_feed (crc : UInt32) (byte : UInt8) :
    (crc32Byte crc byte).toBitVec = feedAll kImagePolynomial crc.toBitVec (byteBits byte) := by
  have steps : Function.Semiconj UInt32.toBitVec crc32Bit (shift kImagePolynomial) :=
    crc32Bit_shift
  rw [feedAll_eq_iterate kImagePolynomial _ _ (by rw [byteBits_length]; decide),
    value_byteBits byte (by decide), crc32Byte, steps.iterate_right 8]
  rfl

theorem crc32_feed (data : Bytes) (crc : UInt32) :
    (data.foldl crc32Byte crc).toBitVec =
      feedAll kImagePolynomial crc.toBitVec (frameBits data) := by
  induction data generalizing crc with
  | nil => rfl
  | cons byte data ih =>
    have bits : frameBits (byte :: data) = byteBits byte ++ frameBits data := List.flatMap_cons
    rw [List.foldl_cons, ih, crc32Byte_feed, bits, feedAll_append]

theorem getLsbD_readU32 (p : Bytes) (k i : Nat) (inside : i < 32) :
    (readU32 p k).toBitVec.getLsbD i = (byteAt p (k + i / 8)).toBitVec.getLsbD (i % 8) := by
  have place : ∀ (byte : UInt8) (j : Nat), (byte.toBitVec.setWidth 32 <<< (8 * j)).getLsbD i =
      (decide (i / 8 = j) && byte.toBitVec.getLsbD (i % 8)) := by
    intro byte j
    rw [BitVec.getLsbD_shiftLeft, BitVec.getLsbD_setWidth]
    by_cases here : i / 8 = j
    · have offset : i - 8 * j = i % 8 := by omega
      have least : ¬ i < 8 * j := by omega
      simp [inside, here, least, offset]
      omega
    · by_cases before : i < 8 * j
      · simp [before, here]
      · simp [here, BitVec.getLsbD_of_ge byte.toBitVec (i - 8 * j) (by omega)]
  have word : (readU32 p k).toBitVec = (byteAt p k).toBitVec.setWidth 32 |||
      (byteAt p (k + 1)).toBitVec.setWidth 32 <<< (8 * 1) |||
      (byteAt p (k + 2)).toBitVec.setWidth 32 <<< (8 * 2) |||
      (byteAt p (k + 3)).toBitVec.setWidth 32 <<< (8 * 3) := rfl
  have quarter : i / 8 = 0 ∨ i / 8 = 1 ∨ i / 8 = 2 ∨ i / 8 = 3 := by omega
  have first := place (byteAt p k) 0
  rw [BitVec.shiftLeft_zero] at first
  rw [word]
  simp only [BitVec.getLsbD_or, first, place]
  rcases quarter with h | h | h | h <;> simp [h]
theorem value_stored (stored : Bytes) (size : stored.length = 4) :
    (value (frameBits stored) : BitVec 32) = (readU32 stored 0).toBitVec := by
  apply BitVec.eq_of_getLsbD_eq
  intro i inside
  rw [getLsbD_value _ (by rw [frameBits_length, size]), getD_frameBits,
    getLsbD_readU32 stored 0 i inside, Nat.zero_add]

theorem complement_iff (c v : BitVec 32) : ~~~c = v ↔ c ^^^ v = BitVec.allOnes 32 := by
  rw [← BitVec.xor_allOnes]
  constructor
  · intro same
    rw [← same, ← BitVec.xor_assoc, BitVec.xor_self, BitVec.zero_xor]
  · intro ones
    rw [← ones, ← BitVec.xor_assoc, BitVec.xor_self, BitVec.zero_xor]

theorem crc32_right_iff (image : Bytes) (size : 4 ≤ image.length) :
    crc32 (image.take (image.length - 4)) = readU32 image (image.length - 4) ↔
      feedAll kImagePolynomial (BitVec.allOnes 32) (frameBits image) =
        (shift kImagePolynomial)^[32] (BitVec.allOnes 32) := by
  have cut := List.take_append_drop (image.length - 4) image
  generalize hb : image.take (image.length - 4) = body at cut ⊢
  generalize hs : image.drop (image.length - 4) = stored at cut
  have four : stored.length = 4 := by
    rw [← hs, List.length_drop]
    omega
  have place : image.length - 4 = body.length + 0 := by
    rw [← hb, List.length_take]
    omega
  have bits : frameBits image = frameBits body ++ frameBits stored := by
    rw [← cut]
    exact List.flatMap_append
  have start : (0xffffffff : UInt32).toBitVec = BitVec.allOnes 32 := by decide
  rw [place, ← cut, readU32_append_right, cut, bits, feedAll_append,
    feedAll_eq_residue_iff kImagePolynomial (by decide) _ _ _
      (by rw [frameBits_length, four]), value_stored stored four, ← start, ← crc32_feed, start,
    ← complement_iff, crc32, ← UInt32.toBitVec_inj, UInt32.toBitVec_not]

/-- A burst makes the checksum of an image wrong. -/
theorem crc32_wrong_of_burst (image error : Bytes) (size : 4 ≤ image.length)
    (same : error.length = image.length)
    (right : crc32 (image.take (image.length - 4)) = readU32 image (image.length - 4))
    (burst : Burst error) :
    crc32 ((corrupt image error).take ((corrupt image error).length - 4)) ≠
      readU32 (corrupt image error) ((corrupt image error).length - 4) := by
  obtain ⟨before, bits, after, short, set, turned⟩ := burst
  have length : (corrupt image error).length = image.length := by
    rw [corrupt, List.length_zipWith, same, Nat.min_self]
  have total : (frameBits image).length = before + bits.length + after := by
    rw [frameBits_length, ← same, ← frameBits_length, turned]
    simp only [List.length_append, List.length_replicate]
  rw [crc32_right_iff _ size] at right
  rw [ne_eq, crc32_right_iff _ (by omega), frameBits_corrupt image error same.symm, turned,
    ← right]
  exact feedAll_ne_of_burst kImagePolynomial (by decide) _ _ before after bits short set total

theorem encode_right (ring : HistoryRing capacity) (generation : UInt32) :
    crc32 ((encode ring generation).take ((encode ring generation).length - 4)) =
      readU32 (encode ring generation) ((encode ring generation).length - 4) := by
  have place : (encode ring generation).length - 4 = (contents ring generation).length + 0 := by
    rw [encode_length, contents_length, kImageLength, kHeaderLength]
    omega
  have stored := readU32_writeU32 (crc32 (contents ring generation)) []
  rw [List.append_nil] at stored
  rw [place, encode, readU32_append_right, stored, Nat.add_zero, List.take_left]

/-- An image that a burst has changed is refused, whatever ring it is of. -/
theorem decodeInto_corrupt [NeZero capacity] (ring : HistoryRing capacity) (generation : UInt32)
    (buffer : Bytes) (size : Nat) (room : kImageLength capacity ≤ size) (error : Bytes)
    (same : error.length = kImageLength capacity) (burst : Burst error) :
    ∃ output, encodeInto ring generation (some buffer) size =
        { success := true, output := some output, written := kImageLength capacity } ∧
      ∀ (held : HistoryRing capacity) stamp,
        decodeInto (some (corrupt (output.take (kImageLength capacity)) error)) held stamp =
          { success := false, ring := held, generation := stamp } := by
  refine ⟨_, encodeInto_eq ring generation buffer size room, ?_⟩
  intro held stamp
  have length := encode_length ring generation
  have total : (corrupt (encode ring generation) error).length = kImageLength capacity := by
    rw [corrupt, List.length_zipWith, length, same, Nat.min_self]
  have four : 4 ≤ (encode ring generation).length := by
    rw [length, kImageLength]
    omega
  have wrong := crc32_wrong_of_burst _ error four (by rw [same, length])
    (encode_right ring generation) burst
  rw [total] at wrong
  rw [← length, List.take_left, decodeInto]
  dsimp only
  rw [if_neg (by rw [total, ne_eq, not_not]), if_pos wrong, ite_self]

/-- The last bit of the records' room and the first one of the checksum are turned over. -/
theorem decodeInto_corrupt_straddling :
    let error : Bytes := List.replicate 61 0 ++ [0x80, 0x01, 0, 0, 0]
    let ring := (default : HistoryRing 2).push (markedRecord 1)
    ∃ output, encodeInto ring 2 (some (List.replicate 66 0)) 66 =
        { success := true, output := some output, written := 66 } ∧
      ∀ (held : HistoryRing 2) stamp,
        decodeInto (some (corrupt (output.take 66) error)) held stamp =
          { success := false, ring := held, generation := stamp } :=
  decodeInto_corrupt _ 2 _ 66 (by decide) _ (by decide)
    ⟨495, [true, true], 31, by decide, by decide, by decide +kernel⟩

end HistoryImageCodec

end History
