import MultibusGateway.Library.ShiftRegister
import MultibusGateway.Modbus.RtuCodec

/-! Noise on the bus. The CRC of a frame, its own two bytes included, leaves a shift register at
zero exactly if it is right, and an error that is confined to sixteen bits in a row takes the
register away from there. -/

namespace Modbus
open ByteString ShiftRegister WireDataType

def byteBits (byte : UInt8) : List Bool := (List.range 8).map byte.toBitVec.getLsbD

def frameBits (frame : Bytes) : List Bool := frame.flatMap byteBits

/-- A frame with the bits of an error turned over. -/
def corrupt (frame error : Bytes) : Bytes := List.zipWith (· ^^^ ·) frame error

/-- Some bits are turned over, all of them among sixteen in a row. -/
def Burst (error : Bytes) : Prop :=
  ∃ before burst after, burst.length ≤ 16 ∧ true ∈ burst ∧
    frameBits error = List.replicate before false ++ burst ++ List.replicate after false

theorem byteBits_length (byte : UInt8) : (byteBits byte).length = 8 := rfl

theorem frameBits_length (frame : Bytes) : (frameBits frame).length = 8 * frame.length := by
  induction frame with
  | nil => rfl
  | cons byte frame ih =>
    rw [frameBits, List.flatMap_cons, List.length_append, byteBits_length, List.length_cons]
    rw [frameBits] at ih
    omega

theorem byteBits_xor (a b : UInt8) :
    byteBits (a ^^^ b) = List.zipWith xor (byteBits a) (byteBits b) := by
  rw [byteBits, byteBits, byteBits, List.zipWith_map, List.zipWith_self, UInt8.toBitVec_xor]
  exact List.map_congr_left fun i _ => BitVec.getLsbD_xor

theorem frameBits_corrupt (frame error : Bytes) (same : frame.length = error.length) :
    frameBits (corrupt frame error) = List.zipWith xor (frameBits frame) (frameBits error) := by
  induction frame generalizing error with
  | nil => rfl
  | cons byte frame ih =>
    cases error with
    | nil => cases same
    | cons turned error =>
      have rest := ih error (Nat.succ.inj same)
      unfold frameBits corrupt at *
      rw [List.zipWith_cons_cons, List.flatMap_cons, List.flatMap_cons, List.flatMap_cons,
        byteBits_xor, rest, List.zipWith_append]
      rw [byteBits_length, byteBits_length]

theorem getD_frameBits (p : Bytes) (i : Nat) :
    (frameBits p).getD i false = (byteAt p (i / 8)).toBitVec.getLsbD (i % 8) := by
  induction p generalizing i with
  | nil =>
    have none : byteAt [] (i / 8) = 0 := rfl
    rw [none]
    exact (BitVec.getLsbD_zero).symm
  | cons byte p ih =>
    have bits : frameBits (byte :: p) = byteBits byte ++ frameBits p := List.flatMap_cons
    rw [bits]
    by_cases first : i < 8
    · rw [List.getD_append _ _ _ _ (by rw [byteBits_length]; exact first), Nat.div_eq_of_lt first,
        Nat.mod_eq_of_lt first, byteAt_cons_zero]
      simp [byteBits, first]
    · obtain ⟨j, rfl⟩ : ∃ j, i = j + 8 := ⟨i - 8, by omega⟩
      rw [List.getD_append_right _ _ _ _ (by rw [byteBits_length]; omega), byteBits_length,
        Nat.add_sub_cancel, ih, Nat.add_div_right j (by decide), byteAt_cons_succ,
        Nat.add_mod_right]

/-! The loop of the CRC as a shift register. -/

def kPolynomial : BitVec 16 := 0xA001#16

theorem crcBit_shift (crc : UInt16) : (crcBit crc).toBitVec = shift kPolynomial crc.toBitVec := by
  have low : (crc &&& 0x0001 != 0) = crc.toBitVec.getLsbD 0 := by
    have masked : (crc &&& 0x0001).toBitVec = BitVec.setWidth 16 (BitVec.ofBool
        (crc.toBitVec.getLsbD 0)) := BitVec.and_one_eq_setWidth_ofBool_getLsbD
    rw [bne, ← Bool.not_not (crc.toBitVec.getLsbD 0)]
    congr 1
    rw [Bool.eq_iff_iff, beq_iff_eq, ← UInt16.toBitVec_inj, masked]
    cases crc.toBitVec.getLsbD 0 <;> decide
  unfold crcBit shift
  rw [low]
  dsimp only
  split <;> rfl

theorem value_byteBits {w : Nat} (byte : UInt8) (wide : 8 ≤ w) :
    (value (byteBits byte) : BitVec w) = byte.toBitVec.setWidth w := by
  apply BitVec.eq_of_getLsbD_eq
  intro i inside
  rw [getLsbD_value _ (by rw [byteBits_length]; exact wide), BitVec.getLsbD_setWidth, byteBits]
  by_cases low : i < 8
  · simp [low, inside]
  · simp [low, BitVec.getLsbD_of_ge byte.toBitVec i (by omega)]

theorem crcByte_feed (crc : UInt16) (byte : UInt8) :
    (crcByte crc byte).toBitVec = feedAll kPolynomial crc.toBitVec (byteBits byte) := by
  have steps : Function.Semiconj UInt16.toBitVec crcBit (shift kPolynomial) := crcBit_shift
  rw [feedAll_eq_iterate kPolynomial _ _ (by rw [byteBits_length]; decide),
    value_byteBits byte (by decide), crcByte, steps.iterate_right 8]
  rfl

theorem crc_feed (data : Bytes) (crc : UInt16) :
    (data.foldl crcByte crc).toBitVec = feedAll kPolynomial crc.toBitVec (frameBits data) := by
  induction data generalizing crc with
  | nil => rfl
  | cons byte data ih =>
    have bits : frameBits (byte :: data) = byteBits byte ++ frameBits data := List.flatMap_cons
    rw [List.foldl_cons, ih, crcByte_feed, bits, feedAll_append]

theorem value_trailer (low high : UInt8) :
    (value (frameBits [low, high]) : BitVec 16) = (readU16 [low, high] 0).toBitVec := by
  have first : byteAt [low, high] 0 = low := rfl
  have second : byteAt [low, high] 1 = high := rfl
  have lows : low.toUInt16.toBitVec = low.toBitVec.setWidth 16 := rfl
  have highs : (high.toUInt16 <<< 8).toBitVec = high.toBitVec.setWidth 16 <<< 8 := rfl
  apply BitVec.eq_of_getLsbD_eq
  intro i inside
  rw [getLsbD_value _ (by rw [frameBits_length]; rfl), getD_frameBits, readU16, first, second,
    UInt16.toBitVec_or, BitVec.getLsbD_or, lows, highs, BitVec.getLsbD_shiftLeft,
    BitVec.getLsbD_setWidth, BitVec.getLsbD_setWidth]
  by_cases less : i < 8
  · rw [Nat.div_eq_of_lt less, Nat.mod_eq_of_lt less, first]
    simp [less, inside]
  · obtain ⟨j, rfl⟩ : ∃ j, i = j + 8 := ⟨i - 8, by omega⟩
    have within : j < 8 := by omega
    rw [Nat.add_div_right j (by decide), Nat.add_mod_right, Nat.div_eq_of_lt within,
      Nat.mod_eq_of_lt within, second, BitVec.getLsbD_of_ge low.toBitVec (j + 8) (by omega)]
    simp [inside]
    omega

theorem crc_right_iff (frame : Bytes) (size : 2 ≤ frame.length) :
    crc16 (frame.take (frame.length - 2)) = readU16 frame (frame.length - 2) ↔
      feedAll kPolynomial 0xFFFF#16 (frameBits frame) = 0#16 := by
  obtain ⟨body, low, high, rfl⟩ : ∃ body low high, frame = body ++ [low, high] := by
    match trailer : frame.drop (frame.length - 2) with
    | [low, high] =>
      refine ⟨frame.take (frame.length - 2), low, high, ?_⟩
      rw [← trailer, List.take_append_drop]
    | [] | [_] | _ :: _ :: _ :: _ =>
      have length := congrArg List.length trailer
      simp only [List.length_drop, List.length_cons, List.length_nil] at length
      omega
  have read : readU16 (body ++ [low, high]) body.length = readU16 [low, high] 0 := by
    have first := byteAt_append_right body [low, high] 0
    have second := byteAt_append_right body [low, high] 1
    rw [Nat.add_zero] at first
    rw [readU16, readU16, first, second]
  have bits : frameBits (body ++ [low, high]) = frameBits body ++ frameBits [low, high] :=
    List.flatMap_append
  have length : (body ++ [low, high]).length - 2 = body.length := by
    simp
  have start : (0xFFFF : UInt16).toBitVec = 0xFFFF#16 := rfl
  rw [length, List.take_left, read, bits, feedAll_append,
    feedAll_eq_zero_iff kPolynomial (by decide) _ _ (by rw [frameBits_length]; rfl),
    value_trailer, ← start, ← crc_feed, ← UInt16.toBitVec_inj]
  rfl

/-- A burst makes the CRC of a frame wrong. -/
theorem crc_wrong_of_burst (frame error : Bytes) (size : 2 ≤ frame.length)
    (same : error.length = frame.length)
    (right : crc16 (frame.take (frame.length - 2)) = readU16 frame (frame.length - 2))
    (burst : Burst error) :
    crc16 ((corrupt frame error).take ((corrupt frame error).length - 2)) ≠
      readU16 (corrupt frame error) ((corrupt frame error).length - 2) := by
  obtain ⟨before, bits, after, short, set, turned⟩ := burst
  have length : (corrupt frame error).length = frame.length := by
    rw [corrupt, List.length_zipWith, same, Nat.min_self]
  have total : (frameBits frame).length = before + bits.length + after := by
    rw [frameBits_length, ← same, ← frameBits_length, turned]
    simp only [List.length_append, List.length_replicate]
  rw [crc_right_iff _ size] at right
  rw [ne_eq, crc_right_iff _ (by omega), frameBits_corrupt frame error same.symm, turned,
    ← right]
  exact feedAll_ne_of_burst kPolynomial (by decide) _ _ before after bits short set total

/-- A frame whose CRC is right is not taken for a response any more once a burst has changed it. -/
theorem burst_rejected (config : ChannelConfig) (frame error : Bytes)
    (valid : validChannelConfig config = true) (size : 5 ≤ frame.length)
    (same : error.length = frame.length)
    (right : crc16 (frame.take (frame.length - 2)) = readU16 frame (frame.length - 2))
    (burst : Burst error) :
    decodeReadResponse config (corrupt frame error) = .error { status := .crcMismatch } ∧
    ∀ valueIndex request, valueIndex < config.quantity → writableType config.dataType = true →
      decodeWriteResponse config valueIndex request (corrupt frame error) =
        .error { status := .crcMismatch } := by
  have wrong := crc_wrong_of_burst frame error (by omega) same right burst
  have length : (corrupt frame error).length = frame.length := by
    rw [corrupt, List.length_zipWith, same, Nat.min_self]
  have check : checkResponse config (corrupt frame error) =
      .error { status := .crcMismatch } := by
    rw [checkResponse, if_neg (by omega), if_pos (bne_iff_ne.mpr wrong)]
  constructor
  · rw [decodeReadResponse, valid, check]
    rfl
  · intro valueIndex request inside writable
    have index : ¬ valueIndex ≥ config.quantity := UInt8.not_le.mpr inside
    rw [decodeWriteResponse, valid, writable, check]
    simp [index]
    rfl

/-- The last bit of the data and the first one of the CRC are turned over. -/
theorem burst_rejected_straddling :
    let config : ChannelConfig := { dataType := hold16AB }
    let received := corrupt (appendCrc [1, 3, 2, 0, 42]) [0, 0, 0, 0, 0x80, 0x01, 0]
    decodeReadResponse config received = .error { status := .crcMismatch } ∧
    ∀ valueIndex request, valueIndex < config.quantity → writableType config.dataType = true →
      decodeWriteResponse config valueIndex request received =
        .error { status := .crcMismatch } :=
  burst_rejected _ _ _ (by decide +kernel) (by decide) (by decide) (by decide +kernel)
    ⟨39, [true, true], 15, by decide, by decide, by decide +kernel⟩

end Modbus
