import MultibusGateway.Modbus.WriteRead

/-! The kinds of the values: what is read from a response and what is taken for a request is of
the kind that the type and the sign of the channel ask for. -/

namespace Modbus
open ByteString WireDataType

def OfChannel (channel : ChannelConfig) : DecodedScalar → Prop
  | .boolean _ => isBooleanType channel.dataType = true
  | .floatingPoint _ =>
    isBooleanType channel.dataType = false ∧ isFloatingPointType channel.dataType = true
  | .signedInteger _ => isBooleanType channel.dataType = false ∧
    isFloatingPointType channel.dataType = false ∧ channel.signedValue = true
  | .unsignedInteger _ => isBooleanType channel.dataType = false ∧
    isFloatingPointType channel.dataType = false ∧ channel.signedValue = false

theorem setInteger_ofChannel (channel : ChannelConfig) (raw : UInt64) (bits : Nat)
    (integer : isBooleanType channel.dataType = false ∧
      isFloatingPointType channel.dataType = false) :
    OfChannel channel (setInteger channel raw bits) := by
  obtain ⟨boolean, float⟩ := integer
  unfold setInteger
  cases sign : channel.signedValue with
  | false => exact ⟨boolean, float, sign⟩
  | true =>
    simp only [Bool.not_true, Bool.false_eq_true, if_false]
    split
    · exact ⟨boolean, float, sign⟩
    · split <;> exact ⟨boolean, float, sign⟩

theorem half_integer (type : WireDataType) (half : halfType type = true) :
    isFloatingPointType type = false := by
  revert half
  cases type <;> decide

theorem decodeIndex_ofChannel (channel : ChannelConfig) (data : Bytes) (index : Nat)
    (value : DecodedScalar) (decoded : decodeIndex channel data index = some value) :
    OfChannel channel value := by
  unfold decodeIndex at decoded
  split at decoded
  · rename_i boolean
    obtain rfl := Option.some.inj decoded
    exact boolean
  · rename_i other
    have boolean : isBooleanType channel.dataType = false := by simpa using other
    unfold decodeRegisterValue at decoded
    dsimp only at decoded
    split at decoded
    · rename_i half
      split at decoded
      · cases decoded
      · obtain rfl := Option.some.inj decoded
        exact setInteger_ofChannel channel _ 16 ⟨boolean, half_integer _ half⟩
    · split at decoded
      · cases decoded
      · obtain ⟨ordered, -, found⟩ := Option.bind_eq_some_iff.mp decoded
        split at found
        · rename_i float
          split at found
          · obtain rfl := Option.some.inj found
            exact ⟨boolean, float⟩
          · split at found
            · obtain rfl := Option.some.inj found
              exact ⟨boolean, float⟩
            · cases found
        · rename_i integer
          obtain rfl := Option.some.inj found
          exact setInteger_ofChannel channel _ _ ⟨boolean, by simpa using integer⟩

theorem mapM_members (f : Nat → Option DecodedScalar) (indices : List Nat)
    (values : List DecodedScalar) (found : indices.mapM f = some values) :
    values.length = indices.length ∧ ∀ value ∈ values, ∃ index, f index = some value := by
  induction indices generalizing values with
  | nil =>
    obtain rfl := Option.some.inj found
    simp
  | cons index rest ih =>
    rw [List.mapM_cons] at found
    obtain ⟨value, first, found⟩ := Option.bind_eq_some_iff.mp found
    obtain ⟨others, later, found⟩ := Option.bind_eq_some_iff.mp found
    obtain rfl := Option.some.inj found
    obtain ⟨length, members⟩ := ih others later
    refine ⟨by simp [length], fun other member => ?_⟩
    obtain rfl | behind := List.mem_cons.mp member
    · exact ⟨index, first⟩
    · exact members other behind

theorem decodeReadResponse_values (channel : ChannelConfig) (frame : Bytes)
    (values : List DecodedScalar) (decoded : decodeReadResponse channel frame = .ok values) :
    validChannelConfig channel = true ∧ values.length = channel.quantity.toNat ∧
      ∀ value ∈ values, ∃ index, decodeIndex channel (frame.drop 3) index = some value := by
  unfold decodeReadResponse at decoded
  split at decoded
  · cases decoded
  · rename_i valid
    cases checked : checkResponse channel frame with
    | error failure =>
      rw [checked] at decoded
      cases decoded
    | ok =>
      cases function : checkFunction (functionCode channel.dataType) frame with
      | error failure =>
        rw [checked, function] at decoded
        cases decoded
      | ok =>
        rw [checked, function] at decoded
        simp only [bind, Except.bind] at decoded
        split at decoded
        · cases decoded
        · split at decoded
          · rename_i read found
            obtain rfl := Except.ok.inj decoded
            obtain ⟨length, members⟩ := mapM_members _ _ read found
            exact ⟨by simpa using valid, by rw [length, List.length_range], members⟩
          · cases decoded

theorem decodeReadResponse_ofChannel (channel : ChannelConfig) (frame : Bytes)
    (values : List DecodedScalar) (decoded : decodeReadResponse channel frame = .ok values) :
    validChannelConfig channel = true ∧ values.length = channel.quantity.toNat ∧
      ∀ value ∈ values, OfChannel channel value := by
  obtain ⟨valid, length, members⟩ := decodeReadResponse_values channel frame values decoded
  refine ⟨valid, length, fun value member => ?_⟩
  obtain ⟨index, single⟩ := members value member
  exact decodeIndex_ofChannel channel _ index value single

/-! Values for a request. -/

theorem encodeRegisterValue_ofChannel (config : ChannelConfig) (value : DecodedScalar) (wire : Bytes)
    (register : isBooleanType config.dataType = false)
    (encoded : encodeRegisterValue config value = some wire) : OfChannel config value := by
  unfold encodeRegisterValue at encoded
  dsimp only at encoded
  split at encoded
  · cases encoded
  obtain ⟨canonical, made, -⟩ := Option.bind_eq_some_iff.mp encoded
  unfold canonicalBytes at made
  cases float : isFloatingPointType config.dataType with
  | true =>
    rw [float, if_pos rfl] at made
    cases value with
    | floatingPoint v => exact ⟨register, float⟩
    | boolean | signedInteger | unsignedInteger => cases made
  | false =>
    rw [float, if_neg Bool.false_ne_true] at made
    obtain ⟨raw, bits, -⟩ := Option.map_eq_some_iff.mp made
    unfold integerBits at bits
    cases signed : config.signedValue <;> cases value <;> rw [signed] at bits <;>
      first
        | cases bits
        | exact ⟨register, float, signed⟩

theorem buildWriteRequest_ofChannel (config : ChannelConfig) (valueIndex : UInt8)
    (value : DecodedScalar) (capacity : Nat) (request : Bytes)
    (built : buildWriteRequest config valueIndex value capacity = .ok request) :
    OfChannel config value := by
  obtain ⟨-, -, writable, ⟨coil, state, rfl, -⟩ | ⟨register, wire, encoded, -⟩⟩ :=
    buildWriteRequest_cases config valueIndex value capacity request built
  · rw [OfChannel, coil]
    rfl
  · obtain ⟨-, boolean, -⟩ := writable_register config.dataType writable register
    exact encodeRegisterValue_ofChannel config value wire boolean encoded

def beyondAddresses (config : ChannelConfig) (valueIndex : UInt8) : Bool :=
  let words := (registersPerValue config.dataType).toNat
  config.address.toNat + valueIndex.toNat * words + words > 0x10000

def beyondWidth (config : ChannelConfig) (value : DecodedScalar) : Bool :=
  config.dataType ≠ coil && (encodeRegisterValue config value).isNone

/-- All that can be wrong with a value of the right kind for a register of a channel. -/
theorem buildWriteRequest_rejects (config : ChannelConfig) (valueIndex : UInt8)
    (value : DecodedScalar) (valid : validChannelConfig config = true)
    (index : valueIndex < config.quantity) (writable : writableType config.dataType = true)
    (fits : OfChannel config value) :
    (∃ status, buildWriteRequest config valueIndex value 17 = .error status) ↔
      beyondAddresses config valueIndex = true ∨ beyondWidth config value = true := by
  have checked : ¬ (!validChannelConfig config || decide (valueIndex ≥ config.quantity) ||
      !writableType config.dataType) = true := by
    simp [valid, writable, UInt8.not_le.mpr index]
  unfold buildWriteRequest
  rw [if_neg checked]
  by_cases register : config.dataType = coil
  · have size : (registersPerValue coil).toNat = 1 := rfl
    have width : beyondWidth config value = false := by simp [beyondWidth, register]
    rw [width, beyondAddresses, register, size, if_pos (by rfl)]
    cases value with
    | boolean state =>
      by_cases inside : config.address.toNat + valueIndex.toNat > 0xffff
      · simp [inside]
        omega
      · simp [inside]
        omega
    | signedInteger | unsignedInteger | floatingPoint =>
      have other := fits.1
      rw [register] at other
      cases other
  · obtain ⟨-, -, -, -, words⟩ := writable_register config.dataType writable register
    have positive : ¬ (registersPerValue config.dataType == 0) = true := by
      rcases words with words | words | words <;> rw [words] <;> decide
    rw [if_neg (by simpa using register), beyondAddresses, beyondWidth]
    dsimp only
    rw [if_neg positive]
    by_cases inside : config.address.toNat +
        valueIndex.toNat * (registersPerValue config.dataType).toNat +
          (registersPerValue config.dataType).toNat > 0x10000
    · simp [inside]
    · rw [if_neg inside, decide_eq_false inside]
      cases encoded : encodeRegisterValue config value with
      | none => simp [register]
      | some wire =>
        obtain ⟨length, -⟩ := decode_encodeRegisterValue config value wire writable register encoded
        rcases words with words | words | words <;> simp [words, length]

end Modbus
