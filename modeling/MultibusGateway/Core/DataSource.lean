import MultibusGateway.Core.Downlinks

/-! The points of the data sources. A point of the Modbus component is a register of a channel;
the other sources have none yet. -/

namespace Application
open BinaryFloat Modbus

inductive DataType where
  | boolean | int64 | uint64 | float64 | text
  deriving DecidableEq

/-- Only the value of the type is meant. -/
structure DataValue where
  type : DataType := .float64
  valid : Bool := false
  booleanValue : Bool := false
  intValue : Int64 := 0
  uintValue : UInt64 := 0
  floatValue : Binary64 := ⟨0⟩
  textValue : ByteString.Bytes := []

structure DataPointDescriptor where
  id : String := ""
  type : DataType := .float64
  readable : Bool := true
  writable : Bool := false
  deriving DecidableEq

inductive DataSource where
  | victron | modbus | gnss
  deriving DecidableEq

def dataSourceForId (sourceId : String) : Option DataSource :=
  if sourceId = "victron:vebus" then some .victron
  else if sourceId = modbusSourceId then some .modbus
  else if sourceId = "gnss:primary" then some .gnss
  else none

/-! The points of the Modbus component. -/

def pointIdForRegister (slot registerIndex : UInt8) : String :=
  if registerIndex = 0 then pointIdForSlot slot
  else pointIdForSlot slot ++ "/" ++ toString (registerIndex.toNat + 1)

def pointCount (modbus : ModbusComponent) : Nat :=
  (modbus.channels.map fun channel => channel.quantity.toNat).sum

def registers (channels : List ChannelConfig) : List (ChannelConfig × UInt8) :=
  channels.flatMap fun channel =>
    (List.range channel.quantity.toNat).map fun registerIndex => (channel, registerIndex.toUInt8)

def pointType (channel : ChannelConfig) : DataType :=
  if isBooleanType channel.dataType then .boolean
  else if isFloatingPointType channel.dataType then .float64
  else if uplinkSigned channel then .int64
  else .uint64

def describePoint (index : Nat) (modbus : ModbusComponent) : Option DataPointDescriptor :=
  let served := modbus.mode = .master && modbus.masterSettings.passThroughMode ≠ .twoWay
  (registers modbus.channels)[index]?.map fun (channel, registerIndex) =>
    { id := pointIdForRegister channel.slot registerIndex
      type := pointType channel
      readable := served
      writable := served && writableType channel.dataType }

def parsePositiveNumber (value : List Char) : Option Nat :=
  if value.isEmpty then none
  else
    let parsed := value.foldlM (fun parsed c =>
      if c < '0' || c > '9' then none
      else
        let next := parsed * 10 + (c.toNat - '0'.toNat)
        if next > 65535 then none else some next) 0
    parsed.filter (· ≠ 0)

def parsePointId (pointId : String) : Option (UInt8 × UInt8) :=
  if !"compat/".toList.isPrefixOf pointId.toList then none
  else
    let suffix := pointId.toList.drop "compat/".length
    let channelPart := suffix.takeWhile (· ≠ '/')
    let registerPart := suffix.drop (channelPart.length + 1)
    match parsePositiveNumber channelPart with
    | none => none
    | some channelNumber =>
      if channelNumber > kCompatibilitySlotCount.toNat then none
      else
        let slot := (channelNumber - 1).toUInt8
        if channelPart.length = suffix.length then some (slot, 0)
        else if registerPart.contains '/' then none
        else match parsePositiveNumber registerPart with
          | none => none
          | some registerNumber =>
            if registerNumber > 2 then none else some (slot, (registerNumber - 1).toUInt8)

def dataValueToScalar (channel : ChannelConfig) (input : DataValue) : Option DecodedScalar :=
  if channel.dataType = .coil then
    if input.type ≠ .boolean then none else some (.boolean input.booleanValue)
  else if isFloatingPointType channel.dataType then
    if input.type ≠ .float64 then none else some (.floatingPoint input.floatValue)
  else if uplinkSigned channel then
    if input.type ≠ .int64 then none else some (.signedInteger input.intValue)
  else
    if input.type ≠ .uint64 then none else some (.unsignedInteger input.uintValue)

def resolveWrite (pointId : String) (value : DataValue) (modbus : ModbusComponent) :
    Option (UInt8 × UInt8 × DecodedScalar) := do
  let (slot, registerIndex) ← parsePointId pointId
  let channel ← modbus.channelForSlot slot
  let scalar ← dataValueToScalar channel value
  return (slot, registerIndex, scalar)

def writeModbusPoint (pointId : String) (value : DataValue) (modbus : ModbusComponent) :
    ModbusComponent × Bool :=
  if !value.valid then (modbus, false)
  else match resolveWrite pointId value modbus with
    | none => (modbus, false)
    | some (slot, registerIndex, scalar) => modbus.writePoint slot registerIndex scalar

/-! The sources by their points. -/

namespace DataSource

def pointCount (modbus : ModbusComponent) : DataSource → Nat
  | .modbus => Application.pointCount modbus
  | .victron | .gnss => 0

def describePoint (index : Nat) (modbus : ModbusComponent) :
    DataSource → Option DataPointDescriptor
  | .modbus => Application.describePoint index modbus
  | .victron | .gnss => none

def writePoint (pointId : String) (value : DataValue) (modbus : ModbusComponent) :
    DataSource → ModbusComponent × Bool
  | .modbus => writeModbusPoint pointId value modbus
  | .victron | .gnss => (modbus, false)

end DataSource

def describeBoundChannel (binding : ChannelBinding) (modbus : ModbusComponent) :
    Option DataPointDescriptor := do
  let source ← dataSourceForId binding.sourceId
  (List.range (source.pointCount modbus)).findSome? fun index =>
    (source.describePoint index modbus).filter fun descriptor => descriptor.id = binding.pointId

/-- The point that a component describes is the one that it reads and writes. -/
theorem parsePointId_pointIdForRegister (slot registerIndex : UInt8)
    (inside : slot < kCompatibilitySlotCount) (register : registerIndex < 2) :
    parsePointId (pointIdForRegister slot registerIndex) = some (slot, registerIndex) := by
  have all : ∀ slot : Fin 32, ∀ registerIndex : Fin 2,
      parsePointId (pointIdForRegister slot.val.toUInt8 registerIndex.val.toUInt8) =
        some (slot.val.toUInt8, registerIndex.val.toUInt8) := by
    decide +kernel
  have this := all ⟨slot.toNat, UInt8.lt_iff_toNat_lt.mp inside⟩
    ⟨registerIndex.toNat, UInt8.lt_iff_toNat_lt.mp register⟩
  simpa using this

end Application
