import MultibusGateway.Library.ByteString

/-! Compatibility channels: which slave register a slot reads, in which wire
format, and under which type its values are sent uplink. -/

namespace Modbus
open ByteString

def kCompatibilitySlotCount : UInt8 := 32

def kMaxChannelNameLength : Nat := 16

/-- Wire formats in the order of their codes, `0x00` to `0x29`. -/
inductive WireDataType where
  | coil | discrete
  | input16AB | input16BA
  | input32ABCD | input32BADC | input32CDAB | input32DCBA
  | input32Upper16 | input32Lower16
  | inputFloatABCD | inputFloatBADC | inputFloatCDAB | inputFloatDCBA
  | hold16AB | hold16BA
  | hold32ABCD | hold32BADC | hold32CDAB | hold32DCBA
  | hold32Upper16 | hold32Lower16
  | holdFloatABCD | holdFloatBADC | holdFloatCDAB | holdFloatDCBA
  | inputDoubleABCDEFGH | inputDoubleGHEFCDAB | inputDoubleBADCFEHG | inputDoubleHGFEDCBA
  | input64ABCDEFGH | input64GHEFCDAB | input64BADCFEHG | input64HGFEDCBA
  | holdDoubleABCDEFGH | holdDoubleGHEFCDAB | holdDoubleBADCFEHG | holdDoubleHGFEDCBA
  | hold64ABCDEFGH | hold64GHEFCDAB | hold64BADCFEHG | hold64HGFEDCBA
  deriving DecidableEq, Inhabited

namespace WireDataType

def raw (type : WireDataType) : UInt8 := UInt8.ofNat type.ctorIdx

def all : List WireDataType :=
  [coil, discrete, input16AB, input16BA, input32ABCD, input32BADC, input32CDAB, input32DCBA,
    input32Upper16, input32Lower16, inputFloatABCD, inputFloatBADC, inputFloatCDAB,
    inputFloatDCBA, hold16AB, hold16BA, hold32ABCD, hold32BADC, hold32CDAB, hold32DCBA,
    hold32Upper16, hold32Lower16, holdFloatABCD, holdFloatBADC, holdFloatCDAB, holdFloatDCBA,
    inputDoubleABCDEFGH, inputDoubleGHEFCDAB, inputDoubleBADCFEHG, inputDoubleHGFEDCBA,
    input64ABCDEFGH, input64GHEFCDAB, input64BADCFEHG, input64HGFEDCBA, holdDoubleABCDEFGH,
    holdDoubleGHEFCDAB, holdDoubleBADCFEHG, holdDoubleHGFEDCBA, hold64ABCDEFGH,
    hold64GHEFCDAB, hold64BADCFEHG, hold64HGFEDCBA]

/-- The cast of a code that passed `validWireDataType`. -/
def ofRaw (value : UInt8) : Option WireDataType := all[value.toNat]?

theorem ofRaw_raw (type : WireDataType) : ofRaw type.raw = some type := by
  cases type <;> rfl

end WireDataType

/-- Uplink value types in the order of their codes, `0x00` to `0x0f`. -/
inductive UplinkDataType where
  | coil | discrete | input16 | hold16 | hold32 | holdFloat | input32 | inputFloat
  | input32Upper16 | input32Lower16 | hold32Upper16 | hold32Lower16
  | hold64 | holdDouble | input64 | inputDouble
  deriving DecidableEq, Inhabited

def UplinkDataType.raw (type : UplinkDataType) : UInt8 := UInt8.ofNat type.ctorIdx

abbrev ChannelName := Vector UInt8 (kMaxChannelNameLength + 1)

structure ChannelConfig where
  slot : UInt8 := 0
  slaveId : UInt8 := 1
  address : UInt16 := 0
  dataType : WireDataType := .coil
  quantity : UInt8 := 1
  signedValue : Bool := false
  name : ChannelName := Vector.replicate _ 0
  deriving DecidableEq

instance : Inhabited ChannelConfig := ⟨{}⟩

def validWireDataType (value : UInt8) : Bool := value ≤ WireDataType.hold64HGFEDCBA.raw

def validChannelConfig (config : ChannelConfig) : Bool :=
  config.slot < kCompatibilitySlotCount &&
    config.slaveId ≥ 1 && config.slaveId ≤ 247 &&
    config.quantity ≥ 1 && config.quantity ≤ 2 &&
    validWireDataType config.dataType.raw

def isBooleanType (type : WireDataType) : Bool := type == .coil || type == .discrete

def isFloatingPointType (type : WireDataType) : Bool :=
  let raw := type.raw
  (raw ≥ 0x0a && raw ≤ 0x0d) || (raw ≥ 0x16 && raw ≤ 0x19) ||
    (raw ≥ 0x1a && raw ≤ 0x1d) || (raw ≥ 0x22 && raw ≤ 0x25)

def uplinkDataType (type : WireDataType) : UplinkDataType :=
  let raw := type.raw
  if raw == 0x00 then .coil
  else if raw == 0x01 then .discrete
  else if raw ≥ 0x02 && raw ≤ 0x03 then .input16
  else if raw ≥ 0x04 && raw ≤ 0x07 then .input32
  else if raw == 0x08 then .input32Upper16
  else if raw == 0x09 then .input32Lower16
  else if raw ≥ 0x0a && raw ≤ 0x0d then .inputFloat
  else if raw ≥ 0x0e && raw ≤ 0x0f then .hold16
  else if raw ≥ 0x10 && raw ≤ 0x13 then .hold32
  else if raw == 0x14 then .hold32Upper16
  else if raw == 0x15 then .hold32Lower16
  else if raw ≥ 0x16 && raw ≤ 0x19 then .holdFloat
  else if raw ≥ 0x1a && raw ≤ 0x1d then .inputDouble
  else if raw ≥ 0x1e && raw ≤ 0x21 then .input64
  else if raw ≥ 0x22 && raw ≤ 0x25 then .holdDouble
  else .hold64

def uplinkValueWidth : UplinkDataType → Nat
  | .coil | .discrete => 1
  | .input16 | .hold16 => 2
  | .hold32 | .holdFloat | .input32 | .inputFloat
  | .input32Upper16 | .input32Lower16 | .hold32Upper16 | .hold32Lower16 => 4
  | .hold64 | .holdDouble | .input64 | .inputDouble => 8

def uplinkSigned (config : ChannelConfig) : Bool :=
  if isBooleanType config.dataType then false
  else if isFloatingPointType config.dataType then true
  else config.signedValue

/-- The name buffer holds the given bytes, zero filled to its end. -/
def setChannelName (config : ChannelConfig) (name : Bytes) : Option ChannelConfig :=
  if name.length > kMaxChannelNameLength then none
  else some { config with name := Vector.ofFn fun i => byteAt name i }

theorem validWireDataType_raw (type : WireDataType) : validWireDataType type.raw = true := by
  cases type <;> rfl

theorem validChannelConfig_named (config : ChannelConfig) (name : ChannelName) :
    validChannelConfig { config with name := name } = validChannelConfig config := by
  simp only [validChannelConfig]

/-- What a valid configuration guarantees, as arithmetic. -/
theorem validChannelConfig_iff (config : ChannelConfig) :
    validChannelConfig config = true ↔
      config.slot.toNat < 32 ∧ 1 ≤ config.slaveId.toNat ∧ config.slaveId.toNat ≤ 247 ∧
      1 ≤ config.quantity.toNat ∧ config.quantity.toNat ≤ 2 := by
  simp only [validChannelConfig, validWireDataType_raw, Bool.and_true, Bool.and_eq_true,
    decide_eq_true_eq, ge_iff_le, UInt8.le_iff_toNat_le, UInt8.lt_iff_toNat_lt]
  have slots : kCompatibilitySlotCount.toNat = 32 := rfl
  have h1 : (1 : UInt8).toNat = 1 := rfl
  have h2 : (2 : UInt8).toNat = 2 := rfl
  have h247 : (247 : UInt8).toNat = 247 := rfl
  rw [slots, h1, h2, h247]
  tauto

end Modbus
