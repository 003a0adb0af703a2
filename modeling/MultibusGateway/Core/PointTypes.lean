import MultibusGateway.Core.DataSource
import MultibusGateway.Modbus.CachedValues

/-! The type of a point. The descriptor, the value that is read and the value that is taken for a
write each derive it from the channel in their own way, and agree. -/

namespace Application
open Execution KeyedList Modbus ModbusComponent

/-! Reading a point. -/

def pointValue : DecodedScalar → DataValue
  | .boolean value => { type := .boolean, valid := true, booleanValue := value }
  | .signedInteger value => { type := .int64, valid := true, intValue := value }
  | .unsignedInteger value => { type := .uint64, valid := true, uintValue := value }
  | .floatingPoint value => { type := .float64, valid := true, floatValue := value }

def readModbusPoint (pointId : String) (modbus : ModbusComponent) : DataValue × Bool :=
  if modbus.mode ≠ .master || !modbus.active ||
      modbus.masterSettings.passThroughMode = .twoWay then ({}, false)
  else match parsePointId pointId with
    | none => ({}, false)
    | some (slot, registerIndex) =>
      match modbus.channelForSlot slot with
      | none => ({}, false)
      | some channel =>
        if registerIndex ≥ channel.quantity then ({}, false)
        else
          let cached := modbus.cache slot.toNat
          if !cached.valid then ({}, false)
          else match cached.values[registerIndex.toNat]? with
            | none => ({}, false)
            | some scalar => (pointValue scalar, true)

/-! The types. -/

theorem uplinkSigned_integer (channel : ChannelConfig)
    (register : isBooleanType channel.dataType = false)
    (integer : isFloatingPointType channel.dataType = false) :
    uplinkSigned channel = channel.signedValue := by
  simp [uplinkSigned, register, integer]

theorem pointValue_type (channel : ChannelConfig) (value : DecodedScalar)
    (fits : OfChannel channel value) : (pointValue value).type = pointType channel := by
  unfold pointType
  cases value with
  | boolean value =>
    have boolean : isBooleanType channel.dataType = true := fits
    rw [if_pos boolean]
    rfl
  | floatingPoint value =>
    obtain ⟨register, float⟩ := fits
    rw [register, float]
    rfl
  | signedInteger value =>
    obtain ⟨register, integer, signed⟩ := fits
    rw [uplinkSigned_integer channel register integer, register, integer, signed]
    rfl
  | unsignedInteger value =>
    obtain ⟨register, integer, unsigned⟩ := fits
    rw [uplinkSigned_integer channel register integer, register, integer, unsigned]
    rfl

theorem dataValueToScalar_typed (channel : ChannelConfig) (value : DataValue)
    (writable : writableType channel.dataType = true) (typed : value.type = pointType channel) :
    ∃ scalar, dataValueToScalar channel value = some scalar ∧ OfChannel channel scalar := by
  by_cases coil : channel.dataType = .coil
  · have boolean : isBooleanType channel.dataType = true := by
      rw [coil]
      rfl
    rw [pointType, if_pos boolean] at typed
    exact ⟨.boolean value.booleanValue, by simp [dataValueToScalar, coil, typed], boolean⟩
  · obtain ⟨-, register, -⟩ := writable_register channel.dataType writable coil
    rw [pointType, register, if_neg Bool.false_ne_true] at typed
    cases float : isFloatingPointType channel.dataType with
    | true =>
      rw [float, if_pos rfl] at typed
      exact ⟨.floatingPoint value.floatValue, by simp [dataValueToScalar, coil, float, typed],
        register, float⟩
    | false =>
      rw [float, if_neg Bool.false_ne_true] at typed
      have sign := uplinkSigned_integer channel register float
      cases signed : channel.signedValue with
      | true =>
        rw [sign, signed, if_pos rfl] at typed
        refine ⟨.signedInteger value.intValue, ?_, register, float, signed⟩
        simp [dataValueToScalar, coil, float, sign, signed, typed]
      | false =>
        rw [sign, signed, if_neg Bool.false_ne_true] at typed
        refine ⟨.unsignedInteger value.uintValue, ?_, register, float, signed⟩
        simp [dataValueToScalar, coil, float, sign, signed, typed]

/-! The described points. -/

theorem registers_inside (channels : List ChannelConfig) (channel : ChannelConfig)
    (registerIndex : UInt8) (member : (channel, registerIndex) ∈ registers channels) :
    channel ∈ channels ∧ registerIndex < channel.quantity := by
  unfold registers at member
  obtain ⟨owner, among, made⟩ := List.mem_flatMap.mp member
  obtain ⟨index, inside, same⟩ := List.mem_map.mp made
  obtain ⟨rfl, rfl⟩ := Prod.mk.inj same
  have bound := List.mem_range.mp inside
  refine ⟨among, UInt8.lt_iff_toNat_lt.mpr ?_⟩
  have size : index < 256 := Nat.lt_trans bound owner.quantity.toNat_lt
  rwa [Nat.toUInt8_eq, UInt8.toNat_ofNat_of_lt' size]

/-- The channel and the register of a point that is described, by its name too. -/
structure DescribedPoint (modbus : ModbusComponent) (index : Nat) (descriptor : DataPointDescriptor)
    (channel : ChannelConfig) (registerIndex : UInt8) : Prop where
  register : (registers modbus.channels)[index]? = some (channel, registerIndex)
  valid : validChannelConfig channel = true
  inside : registerIndex < channel.quantity
  member : channel ∈ modbus.channels
  parsed : parsePointId descriptor.id = some (channel.slot, registerIndex)
  found : modbus.channelForSlot channel.slot = some channel
  type : descriptor.type = pointType channel
  writable : descriptor.writable = (decide (modbus.mode = .master ∧
    modbus.masterSettings.passThroughMode ≠ .twoWay) && writableType channel.dataType)

theorem describePoint_described (modbus : ModbusComponent) (agrees : CacheAgrees modbus)
    (index : Nat) (descriptor : DataPointDescriptor)
    (described : describePoint index modbus = some descriptor) :
    ∃ channel registerIndex, DescribedPoint modbus index descriptor channel registerIndex := by
  obtain ⟨⟨channel, registerIndex⟩, register, rfl⟩ := Option.map_eq_some_iff.mp described
  obtain ⟨member, inside⟩ := registers_inside modbus.channels channel registerIndex
    (List.mem_of_getElem? register)
  have valid := agrees.valid channel member
  have bounds := (validChannelConfig_iff channel).mp valid
  refine ⟨channel, registerIndex, register, valid, inside, member, ?_, ?_, rfl, ?_⟩
  · apply parsePointId_pointIdForRegister
    · exact UInt8.lt_iff_toNat_lt.mpr bounds.1
    · have below := UInt8.lt_iff_toNat_lt.mp inside
      exact UInt8.lt_iff_toNat_lt.mpr (Nat.lt_of_lt_of_le below bounds.2.2.2.2)
  · rw [channelForSlot_eq]
    exact (mem_iff_lookup ChannelConfig.slot modbus.channels agrees.distinct channel).mp member
  · simp

/-- The request for a point cannot be built: its registers reach beyond the last address, or the
value does not fit into them. -/
def WriteRejected (index : Nat) (value : DataValue) (modbus : ModbusComponent) : Prop :=
  ∃ channel registerIndex scalar,
    (registers modbus.channels)[index]? = some (channel, registerIndex) ∧
    dataValueToScalar channel value = some scalar ∧
    (∃ status, buildWriteRequest channel registerIndex scalar 17 = .error status) ∧
    (beyondAddresses channel registerIndex = true ∨ beyondWidth channel scalar = true)

section
variable {modbus : ModbusComponent} {index : Nat} {descriptor : DataPointDescriptor}
  {channel : ChannelConfig} {registerIndex : UInt8}
  (point : DescribedPoint modbus index descriptor channel registerIndex)

include point

theorem readModbusPoint_typed (agrees : CacheAgrees modbus)
    (success : (readModbusPoint descriptor.id modbus).2 = true) :
    (readModbusPoint descriptor.id modbus).1.type = descriptor.type := by
  unfold readModbusPoint at success ⊢
  split at success
  · cases success
  · rename_i serving
    rw [if_neg serving]
    rw [point.parsed] at success ⊢
    dsimp only at success ⊢
    rw [point.found] at success ⊢
    dsimp only at success ⊢
    rw [if_neg (UInt8.not_le.mpr point.inside)] at success ⊢
    cases valid : (modbus.cache channel.slot.toNat).valid with
    | false =>
      rw [valid] at success
      cases success
    | true =>
      rw [valid] at success
      rw [Bool.not_true, if_neg Bool.false_ne_true] at success ⊢
      cases held : (modbus.cache channel.slot.toNat).values[registerIndex.toNat]? with
      | none =>
        rw [held] at success
        cases success
      | some scalar =>
        have kept := agrees.held channel point.member valid
        rw [point.type]
        exact pointValue_type channel scalar (kept.kinds scalar (List.mem_of_getElem? held))

theorem writeModbusPoint_refused_iff (writable : descriptor.writable = true)
    (active : modbus.active = true) (value : DataValue) (valid : value.valid = true)
    (typed : value.type = descriptor.type) :
    (writeModbusPoint descriptor.id value modbus).2 = false ↔
      modbus.pendingWrite.queued = true ∨ modbus.writeInFlight = true ∨
        WriteRejected index value modbus := by
  rw [point.writable, Bool.and_eq_true, decide_eq_true_eq] at writable
  obtain ⟨⟨master, served⟩, writable⟩ := writable
  obtain ⟨scalar, taken, fits⟩ :=
    dataValueToScalar_typed channel value writable (typed.trans point.type)
  have rejects := buildWriteRequest_rejects channel registerIndex scalar point.valid point.inside
    writable fits
  have rejected : WriteRejected index value modbus ↔
      ∃ status, buildWriteRequest channel registerIndex scalar 17 = .error status := by
    constructor
    · rintro ⟨other, place, made, register, scalar', failed, -⟩
      obtain ⟨rfl, rfl⟩ := Prod.mk.inj (Option.some.inj (point.register.symm.trans register))
      obtain rfl := Option.some.inj (taken.symm.trans scalar')
      exact failed
    · exact fun failed => ⟨channel, registerIndex, scalar, point.register, taken, failed,
        rejects.mp failed⟩
  have register : ¬ (decide (registerIndex ≥ channel.quantity) ||
      !writableType channel.dataType) = true := by
    simp [writable, UInt8.not_le.mpr point.inside]
  have resolved : resolveWrite descriptor.id value modbus =
      some (channel.slot, registerIndex, scalar) := by
    simp [resolveWrite, point.parsed, point.found, taken]
  have busy : (decide (modbus.mode ≠ .master) || !modbus.active ||
      decide (modbus.masterSettings.passThroughMode = .twoWay) ||
      modbus.pendingWrite.queued || modbus.writeInFlight) =
        (modbus.pendingWrite.queued || modbus.writeInFlight) := by
    rw [decide_eq_false (not_not.mpr master), decide_eq_false served, active]
    rfl
  rw [rejected, ← or_assoc, ← Bool.or_eq_true, writeModbusPoint, valid, resolved, Bool.not_true,
    if_neg Bool.false_ne_true]
  dsimp only
  unfold writePoint
  rw [busy, point.found]
  cases free : modbus.pendingWrite.queued || modbus.writeInFlight with
  | true => simp
  | false =>
    rw [if_neg Bool.false_ne_true]
    dsimp only
    rw [if_neg register]
    cases buildWriteRequest channel registerIndex scalar 17 with
    | error status => simp
    | ok request => simp

end

/-- Whatever calls a master takes, with whatever bytes on the bus: a point that can be read has
the type it is described with, a value of this type is refused for a point that can be written
only while another write waits or flies or when its request cannot be built, and every value that
is kept is of a configured channel and of the kind of that channel. -/
theorem points_agree (calls : List ComponentCall) :
    let modbus := run call idleMaster calls
    (∀ index descriptor, describePoint index modbus = some descriptor →
      ((readModbusPoint descriptor.id modbus).2 = true →
        (readModbusPoint descriptor.id modbus).1.type = descriptor.type) ∧
      (descriptor.writable = true → modbus.active = true →
        ∀ value : DataValue, value.valid = true → value.type = descriptor.type →
          ((writeModbusPoint descriptor.id value modbus).2 = false ↔
            modbus.pendingWrite.queued = true ∨ modbus.writeInFlight = true ∨
              WriteRejected index value modbus))) ∧
    ∀ slot, (modbus.cache slot).valid = true → ∃ channel ∈ modbus.channels,
      channel.slot.toNat = slot ∧ CachedFor channel (modbus.cache slot).values := by
  intro modbus
  have agrees : CacheAgrees modbus := agrees_run calls
  refine ⟨fun index descriptor described => ?_, agrees.cached⟩
  obtain ⟨channel, registerIndex, point⟩ :=
    describePoint_described modbus agrees index descriptor described
  exact ⟨readModbusPoint_typed point agrees, fun writable active value valid typed =>
    writeModbusPoint_refused_iff point writable active value valid typed⟩

end Application
