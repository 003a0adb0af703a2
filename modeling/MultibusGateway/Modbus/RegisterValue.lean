import Mathlib.Data.Nat.Bitwise
import MultibusGateway.Modbus.RtuCodec

/-! The register image of a value. Every byte order of the wire formats is its own
inverse, an integer in range survives the cut to its width, and so decoding undoes
encoding on the formats that can be written. -/

namespace Modbus
open ByteString WireDataType

theorem writable_register (type : WireDataType) (writable : writableType type = true)
    (register : type ≠ coil) :
    functionCode type = kReadHoldingRegisters ∧ isBooleanType type = false ∧
      halfType type = false ∧ orderedWidth type = (registersPerValue type).toNat * 2 ∧
      ((registersPerValue type) = 1 ∨ (registersPerValue type) = 2 ∨
        (registersPerValue type) = 4) := by
  revert writable register
  cases type <;> decide

theorem float_width (type : WireDataType) (float : isFloatingPointType type = true) :
    orderedWidth type = 4 ∨ orderedWidth type = 8 := by
  revert float
  cases type <;> decide

theorem byteOrder_involutive (type : WireDataType) (ordered : orderedWidth type ≠ 0) :
    ∃ order, byteOrder type (orderedWidth type) = some order ∧
      order.length = orderedWidth type ∧ (∀ k ∈ order, k < orderedWidth type) ∧
      order.map (fun k => order.getD k 0) = List.range (orderedWidth type) := by
  revert ordered
  cases type <;> first
    | exact fun h => absurd rfl h
    | exact fun _ => ⟨_, rfl, by decide, by decide, by decide⟩

theorem map_byteAt_range (p : Bytes) : (List.range p.length).map (byteAt p) = p := by
  apply List.ext_getElem
  · simp
  · intro i _ hi
    simp [byteAt, hi]

theorem orderBytes_involutive (type : WireDataType) (raw : Bytes)
    (length : raw.length = orderedWidth type) (ordered : orderedWidth type ≠ 0) :
    ∃ wire, orderBytes type raw (orderedWidth type) = some wire ∧
      wire.length = orderedWidth type ∧
      orderBytes type wire (orderedWidth type) = some raw := by
  obtain ⟨order, found, size, bound, twice⟩ := byteOrder_involutive type ordered
  refine ⟨order.map (byteAt raw), by simp [orderBytes, found], by simp [size], ?_⟩
  have back : ∀ k ∈ order,
      byteAt (order.map (byteAt raw)) k = byteAt raw (order.getD k 0) := by
    intro k hk
    have small : k < order.length := by
      rw [size]
      exact bound k hk
    simp [byteAt, small]
  simp only [orderBytes, found, Option.map_some, Option.some.injEq]
  calc
    order.map (byteAt (order.map (byteAt raw)))
      = order.map (fun k => byteAt raw (order.getD k 0)) := List.map_congr_left back
    _ = (order.map (fun k => order.getD k 0)).map (byteAt raw) := by simp
    _ = raw := by rw [twice, ← length, map_byteAt_range]

/-! Integers. -/

theorem mask_toNat (bits : Nat) (h : bits < 64) :
    ((1 : UInt64) <<< UInt64.ofNat bits - 1).toNat = 2 ^ bits - 1 := by
  have small : (2 : Nat) ^ bits < 2 ^ 64 := Nat.pow_lt_pow_right (by omega) h
  have pos : 0 < (2 : Nat) ^ bits := by positivity
  have hb : bits % 2 ^ 64 % 64 = bits := by omega
  have shifted : ((1 : UInt64) <<< UInt64.ofNat bits).toNat = 2 ^ bits := by
    rw [UInt64.toNat_shiftLeft, UInt64.toNat_ofNat', hb]
    simpa [Nat.shiftLeft_eq] using small
  rw [UInt64.toNat_sub, shifted]
  change (2 ^ 64 - 1 + 2 ^ bits) % 2 ^ 64 = _
  omega

theorem and_mask_toNat (v : UInt64) (bits : Nat) (h : bits < 64) :
    (v &&& (1 <<< UInt64.ofNat bits - 1)).toNat = v.toNat % 2 ^ bits := by
  rw [UInt64.toNat_and, mask_toNat bits h, Nat.and_two_pow_sub_one_eq_mod]

theorem above_mask (v : UInt64) (bits : Nat) (h : bits < 64)
    (none : v &&& ~~~(1 <<< UInt64.ofNat bits - 1) = 0) : v.toNat < 2 ^ bits := by
  have split : v = v &&& (1 <<< UInt64.ofNat bits - 1) := by
    apply UInt64.toBitVec_inj.mp
    have zero := congrArg UInt64.toBitVec none
    simp only [UInt64.toBitVec_and, UInt64.toBitVec_not] at zero ⊢
    generalize (1 <<< UInt64.ofNat bits - 1 : UInt64).toBitVec = mask at zero ⊢
    ext i hi
    have bit := congrArg (fun w => w.getLsbD i) zero
    simp [hi] at bit
    simp
    exact bit
  rw [split, and_mask_toNat v bits h]
  exact Nat.mod_lt _ (by positivity)

theorem toUInt64_toNat (v : Int64) :
    (v.toUInt64.toNat : Int) = if v.toInt < 0 then v.toInt + 2 ^ 64 else v.toInt := by
  have cond := BitVec.toInt_eq_toNat_cond v.toBitVec
  have bound := v.toBitVec.isLt
  change (v.toBitVec.toNat : Int) = if v.toBitVec.toInt < 0 then _ else _
  change v.toBitVec.toInt = _ at cond
  change _ = if v.toBitVec.toInt < 0 then v.toBitVec.toInt + 2 ^ 64 else v.toBitVec.toInt
  split at cond <;> split <;> omega

theorem signBit_iff (raw : UInt64) (bits : Nat) (pos : 0 < bits) (h : bits < 64)
    (small : raw.toNat < 2 ^ bits) :
    (raw &&& (1 <<< UInt64.ofNat (bits - 1))) = 0 ↔ raw.toNat < 2 ^ (bits - 1) := by
  have double : (2 : Nat) ^ bits = 2 * 2 ^ (bits - 1) := by
    rw [← Nat.pow_succ', Nat.succ_eq_add_one, Nat.sub_add_cancel pos]
  have hp : 0 < (2 : Nat) ^ (bits - 1) := by positivity
  have fits : (2 : Nat) ^ (bits - 1) < 2 ^ 64 := Nat.pow_lt_pow_right (by omega) (by omega)
  have hb : (bits - 1) % 2 ^ 64 % 64 = bits - 1 := by omega
  have shifted : ((1 : UInt64) <<< UInt64.ofNat (bits - 1)).toNat = 2 ^ (bits - 1) := by
    rw [UInt64.toNat_shiftLeft, UInt64.toNat_ofNat', hb]
    simpa [Nat.shiftLeft_eq] using fits
  rw [← UInt64.toNat_inj, UInt64.toNat_and, shifted, Nat.and_two_pow,
    Nat.testBit_eq_decide_div_mod_eq]
  have quotient : raw.toNat / 2 ^ (bits - 1) < 2 := by
    rw [Nat.div_lt_iff_lt_mul hp]
    omega
  rw [UInt64.toNat_zero]
  by_cases low : raw.toNat < 2 ^ (bits - 1)
  · simp [Nat.div_eq_of_lt low, low]
  · have one : raw.toNat / 2 ^ (bits - 1) = 1 := by
      have := (Nat.one_le_div_iff hp).mpr (by omega : 2 ^ (bits - 1) ≤ raw.toNat)
      omega
    simp [one, low]

theorem setInteger_cut (config : ChannelConfig) (v : Int64) (bits : Nat) (pos : 0 < bits)
    (h : bits < 64) (signed : config.signedValue = true) (lower : -2 ^ (bits - 1) ≤ v.toInt)
    (upper : v.toInt ≤ 2 ^ (bits - 1) - 1) :
    setInteger config (v.toUInt64 &&& (1 <<< UInt64.ofNat bits - 1)) bits =
      .signedInteger v := by
  have double : (2 : Nat) ^ bits = 2 * 2 ^ (bits - 1) := by
    rw [← Nat.pow_succ', Nat.succ_eq_add_one, Nat.sub_add_cancel pos]
  have fits : (2 : Nat) ^ bits ≤ 2 ^ 63 := Nat.pow_le_pow_right (by omega) (by omega)
  have whole := toUInt64_toNat v
  have cast : ((2 ^ (bits - 1) : Nat) : Int) = 2 ^ (bits - 1) := by norm_cast
  rw [← cast] at lower upper
  have value := and_mask_toNat v.toUInt64 bits h
  generalize hraw : v.toUInt64 &&& (1 <<< UInt64.ofNat bits - 1) = raw at value ⊢
  have small : raw.toNat < 2 ^ bits := by
    rw [value]
    exact Nat.mod_lt _ (by positivity)
  have sign := signBit_iff raw bits pos h small
  have wide : ¬ bits ≥ 64 := by omega
  simp only [setInteger, signed, Bool.not_true, Bool.false_eq_true, if_false, wide, beq_iff_eq,
    sign]
  by_cases negative : v.toInt < 0
  · -- the sign bit is set and the upper bits are filled with ones
    rw [if_pos negative] at whole
    have periods : (2 : Nat) ^ 64 = 2 ^ bits * 2 ^ (64 - bits) := by
      rw [← Nat.pow_add]
      congr 1
      omega
    have low : raw.toNat + 2 ^ 64 = v.toUInt64.toNat + 2 ^ bits := by
      have pos' : 0 < (2 : Nat) ^ (64 - bits) := by positivity
      obtain ⟨n, hn⟩ := Nat.exists_eq_add_of_lt pos'
      rw [value]
      have near : v.toUInt64.toNat = (v.toUInt64.toNat + 2 ^ bits - 2 ^ 64) + 2 ^ bits * n := by
        rw [hn] at periods
        simp only [Nat.zero_add, Nat.mul_add, Nat.mul_one] at periods
        omega
      rw [near, Nat.add_mul_mod_self_left, Nat.mod_eq_of_lt (by omega)]
      omega
    rw [if_neg (by omega)]
    congr 1
    have hb : bits % 2 ^ 64 % 64 = bits := by omega
    have ones : (~~~(0 : UInt64) <<< UInt64.ofNat bits).toNat = (2 ^ (64 - bits) - 1) <<< bits := by
      rw [UInt64.toNat_shiftLeft, UInt64.toNat_ofNat', hb]
      change (2 ^ 64 - 1) <<< bits % 2 ^ 64 = _
      rw [Nat.shiftLeft_eq, Nat.shiftLeft_eq, Nat.sub_mul, Nat.sub_mul, Nat.mul_comm (2 ^ (64 - bits)),
        ← periods]
      omega
    have joined : raw ||| (~~~(0 : UInt64) <<< UInt64.ofNat bits) = v.toUInt64 := by
      apply UInt64.toNat_inj.mp
      rw [UInt64.toNat_or, ones, shift_or _ _ bits small, Nat.sub_mul, Nat.one_mul,
        Nat.mul_comm, ← periods]
      omega
    rw [joined]
    exact Int64.toInt64_toUInt64 v
  · rw [if_neg negative] at whole
    have low : raw.toNat = v.toUInt64.toNat := by
      rw [value]
      exact Nat.mod_eq_of_lt (by omega)
    rw [if_pos (by omega)]
    congr 1
    rw [UInt64.toNat_inj.mp low]
    exact Int64.toInt64_toUInt64 v

theorem setInteger_integerBits (config : ChannelConfig) (value : DecodedScalar) (width : Nat)
    (raw : UInt64) (size : 0 < width) (most : width ≤ 8)
    (accepted : integerBits config value width = some raw) :
    raw.toNat < 256 ^ width ∧ setInteger config raw (width * 8) = value := by
  have power : (256 : Nat) ^ width = 2 ^ (width * 8) := by
    rw [Nat.mul_comm, pow_mul]
    rfl
  have bound := raw.toNat_lt
  rw [power]
  cases signed : config.signedValue <;> cases value <;>
    simp only [integerBits, signed, reduceCtorEq] at accepted
  case true.signedInteger v =>
    by_cases narrow : width * 8 < 64
    · rw [if_pos narrow] at accepted
      split at accepted
      · cases accepted
      · rename_i range
        have cut := setInteger_cut config v (width * 8) (by omega) narrow signed (by omega)
          (by omega)
        have value := and_mask_toNat v.toUInt64 (width * 8) narrow
        rw [Option.some.inj accepted] at cut value
        exact ⟨by rw [value]; exact Nat.mod_lt _ (by positivity), cut⟩
    · rw [if_neg narrow] at accepted
      have full : width * 8 = 64 := by omega
      have same := Option.some.inj accepted
      refine ⟨by rw [full]; exact bound, ?_⟩
      simp only [setInteger, signed, full, ← same]
      simp
  case false.unsignedInteger v =>
    by_cases narrow : width * 8 < 64
    · rw [if_pos narrow] at accepted
      split at accepted
      · cases accepted
      · rename_i inside
        have below := above_mask v (width * 8) narrow (by simpa using inside)
        have value := and_mask_toNat v (width * 8) narrow
        rw [Option.some.inj accepted, Nat.mod_eq_of_lt below] at value
        refine ⟨by omega, ?_⟩
        rw [UInt64.toNat_inj.mp value]
        simp [setInteger, signed]
    · rw [if_neg narrow] at accepted
      have full : width * 8 = 64 := by omega
      refine ⟨by rw [full]; exact bound, ?_⟩
      rw [Option.some.inj accepted]
      simp [setInteger, signed]

/-- Whether a value came back. A 32-bit float carries the pattern of the written value
rounded to single precision; every other value comes back as it was. -/
def SameValue (type : WireDataType) (written back : DecodedScalar) : Prop :=
  if isFloatingPointType type ∧ orderedWidth type = 4 then
    ∃ v d, written = .floatingPoint v ∧ back = .floatingPoint d ∧
      d.toBinary32 = v.toBinary32 ∧ d = v.toBinary32.toBinary64
  else back = written

theorem canonicalBytes_length (config : ChannelConfig) (value : DecodedScalar) (width : Nat)
    (canonical : Bytes) (accepted : canonicalBytes config value width = some canonical) :
    canonical.length = width := by
  unfold canonicalBytes at accepted
  split at accepted
  · split at accepted
    · split at accepted
      · rename_i narrow
        rw [← Option.some.inj accepted, bigEndian_length, narrow]
      · split at accepted
        · rename_i wide
          rw [← Option.some.inj accepted, bigEndian_length, wide]
        · cases accepted
    · cases accepted
  · obtain ⟨raw, -, same⟩ := Option.map_eq_some_iff.mp accepted
    rw [← same, bigEndian_length]

theorem narrow_widen_narrow (v : Binary64) :
    v.toBinary32.toBinary64.toBinary32 = v.toBinary32 := by
  apply Binary64.widen_pattern
  rw [(Binary64.narrow_pattern v).2]
  exact BinaryFloat.narrow_settled v.magnitude

/-- Decoding a register image in canonical order gives the value it was made from. -/
theorem decode_canonical (config : ChannelConfig) (value : DecodedScalar) (wire canonical : Bytes)
    (writable : writableType config.dataType = true) (register : config.dataType ≠ coil)
    (accepted : canonicalBytes config value (orderedWidth config.dataType) = some canonical)
    (length : wire.length = orderedWidth config.dataType)
    (order : orderBytes config.dataType wire (orderedWidth config.dataType) = some canonical) :
    ∃ back, decodeRegisterValue config wire = some back ∧
      SameValue config.dataType value back := by
  obtain ⟨-, -, half, width, words⟩ := writable_register config.dataType writable register
  have sizes : orderedWidth config.dataType = 2 ∨ orderedWidth config.dataType = 4 ∨
      orderedWidth config.dataType = 8 := by
    rw [width]
    rcases words with words | words | words <;> simp [words]
  have shape : ¬ (orderedWidth config.dataType = 0 ∨
      wire.length ≠ orderedWidth config.dataType) := by omega
  simp only [decodeRegisterValue, half, Bool.false_eq_true, if_false, if_neg shape, order,
    Option.bind_some, canonicalBytes, SameValue] at accepted ⊢
  by_cases float : isFloatingPointType config.dataType = true
  · simp only [float, if_true] at accepted ⊢
    cases value <;> simp only [reduceCtorEq] at accepted
    rename_i v
    rcases float_width config.dataType float with narrow | wide
    · simp only [narrow, if_true, Option.some.injEq] at accepted ⊢
      refine ⟨_, rfl, ?_⟩
      simp only [and_self, if_true]
      rw [← accepted, readU32BE_bigEndian]
      exact ⟨v, _, rfl, rfl, narrow_widen_narrow v, rfl⟩
    · simp only [wide, Nat.reduceEqDiff, if_true, if_false, Option.some.injEq, and_false]
        at accepted ⊢
      refine ⟨_, rfl, ?_⟩
      rw [← accepted, ofBigEndian_bigEndian v.bits 8 le_rfl v.bits.toNat_lt]
  · simp only [float, Bool.false_eq_true, if_false, false_and] at accepted ⊢
    obtain ⟨raw, bits, image⟩ := Option.map_eq_some_iff.mp accepted
    obtain ⟨fits, recovered⟩ := setInteger_integerBits config value _ raw (by omega)
      (by omega) bits
    refine ⟨_, rfl, ?_⟩
    rw [← image, ofBigEndian_bigEndian raw _ (by omega) fits, recovered]

/-- Any register content of a writable format decodes to some value. -/
theorem decodeRegisterValue_total (config : ChannelConfig) (wire : Bytes)
    (writable : writableType config.dataType = true) (register : config.dataType ≠ coil)
    (length : wire.length = (registersPerValue config.dataType).toNat * 2) :
    ∃ back, decodeRegisterValue config wire = some back := by
  obtain ⟨-, -, half, width, words⟩ := writable_register config.dataType writable register
  have positive : orderedWidth config.dataType ≠ 0 := by
    rw [width]
    rcases words with words | words | words <;> simp [words]
  obtain ⟨ordered, order, -, -⟩ :=
    orderBytes_involutive config.dataType wire (by omega) positive
  have shape : ¬ (orderedWidth config.dataType = 0 ∨
      wire.length ≠ orderedWidth config.dataType) := by omega
  simp only [decodeRegisterValue, half, Bool.false_eq_true, if_false, if_neg shape, order,
    Option.bind_some]
  by_cases float : isFloatingPointType config.dataType = true
  · rcases float_width config.dataType float with narrow | wide
    · simp [float, narrow]
    · simp [float, wide]
  · simp [float]

/-- Decoding undoes encoding on every writable register format. -/
theorem decode_encodeRegisterValue (config : ChannelConfig) (value : DecodedScalar)
    (wire : Bytes) (writable : writableType config.dataType = true)
    (register : config.dataType ≠ coil)
    (encoded : encodeRegisterValue config value = some wire) :
    wire.length = (registersPerValue config.dataType).toNat * 2 ∧
      ∃ back, decodeRegisterValue config wire = some back ∧
        SameValue config.dataType value back := by
  obtain ⟨-, -, -, width, -⟩ := writable_register config.dataType writable register
  simp only [encodeRegisterValue] at encoded
  split at encoded
  · cases encoded
  · rename_i ordered
    obtain ⟨canonical, accepted, placed⟩ := Option.bind_eq_some_iff.mp encoded
    have size := canonicalBytes_length config value _ canonical accepted
    obtain ⟨wire', forth, length, back⟩ :=
      orderBytes_involutive config.dataType canonical size ordered
    obtain rfl : wire' = wire := Option.some.inj (forth.symm.trans placed)
    exact ⟨by rw [length, width],
      decode_canonical config value wire' canonical writable register accepted length back⟩

end Modbus
