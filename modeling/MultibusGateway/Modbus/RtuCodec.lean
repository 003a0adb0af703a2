import MultibusGateway.Library.BinaryFloat
import MultibusGateway.Modbus.Channel

/-! The Modbus RTU frames of the gateway: read and write requests of a channel,
and the decoding of the slave's answers. -/

namespace Modbus
open ByteString WireDataType

inductive RtuDecodeStatus where
  | ok | invalidConfig | bufferTooSmall | truncated | crcMismatch | slaveMismatch
  | functionMismatch | exceptionResponse | lengthMismatch
  deriving DecidableEq, Inhabited

inductive DecodedScalar where
  | boolean (value : Bool)
  | signedInteger (value : Int64)
  | unsignedInteger (value : UInt64)
  | floatingPoint (value : Binary64)
  deriving DecidableEq, Inhabited

/-- A response that is not the requested data. The exception code is zero unless
the status is an exception response. -/
structure RtuFailure where
  status : RtuDecodeStatus
  exceptionCode : UInt8 := 0
  deriving DecidableEq

def kReadCoils : UInt8 := 0x01
def kReadDiscreteInputs : UInt8 := 0x02
def kReadHoldingRegisters : UInt8 := 0x03
def kReadInputRegisters : UInt8 := 0x04
def kWriteSingleCoil : UInt8 := 0x05
def kWriteSingleRegister : UInt8 := 0x06
def kWriteMultipleRegisters : UInt8 := 0x10

def crcBit (crc : UInt16) : UInt16 :=
  let lsb := crc &&& 0x0001 != 0
  let crc := crc >>> 1
  if lsb then crc ^^^ 0xA001 else crc

def crcByte (crc : UInt16) (byte : UInt8) : UInt16 := crcBit^[8] (crc ^^^ byte.toUInt16)

def crc16 (data : Bytes) : UInt16 := data.foldl crcByte 0xFFFF

def appendCrc (frame : Bytes) : Bytes := frame ++ writeU16 (crc16 frame)

def functionCode (type : WireDataType) : UInt8 :=
  let raw := type.raw
  if raw == coil.raw then kReadCoils
  else if raw == discrete.raw then kReadDiscreteInputs
  else if (raw ≥ 0x02 && raw ≤ 0x0d) || (raw ≥ 0x1a && raw ≤ 0x21) then kReadInputRegisters
  else if (raw ≥ 0x0e && raw ≤ 0x19) || (raw ≥ 0x22 && raw ≤ 0x29) then kReadHoldingRegisters
  else 0

def registersPerValue (type : WireDataType) : UInt8 :=
  let raw := type.raw
  if raw ≤ 0x03 || (raw ≥ 0x0e && raw ≤ 0x0f) then 1
  else if (raw ≥ 0x04 && raw ≤ 0x0d) || (raw ≥ 0x10 && raw ≤ 0x19) then 2
  else if raw ≥ 0x1a && raw ≤ 0x29 then 4
  else 0

def readQuantity (config : ChannelConfig) : UInt16 :=
  if !validChannelConfig config then 0
  else if isBooleanType config.dataType then config.quantity.toUInt16
  else
    let wordsPerValue := registersPerValue config.dataType
    if wordsPerValue == 0 then 0 else wordsPerValue.toUInt16 * config.quantity.toUInt16

def buildReadRequest (config : ChannelConfig) (capacity : Nat) : Except RtuDecodeStatus Bytes :=
  if !validChannelConfig config then .error .invalidConfig
  else if capacity < 8 then .error .bufferTooSmall
  else
    let function := functionCode config.dataType
    let quantity := readQuantity config
    if function == 0 || quantity == 0 then .error .invalidConfig
    else if config.address.toNat + quantity.toNat > 0x10000 then .error .invalidConfig
    else .ok (appendCrc
      ([config.slaveId, function] ++ writeU16BE config.address ++ writeU16BE quantity))

def writableType (type : WireDataType) : Bool :=
  if type == coil then true
  else
    let raw := type.raw
    raw == 0x0e || raw == 0x0f || (raw ≥ 0x10 && raw ≤ 0x13) || (raw ≥ 0x16 && raw ≤ 0x19) ||
      (raw ≥ 0x22 && raw ≤ 0x29)

/-- Bytes of one value whose byte order is configurable; zero for other types. -/
def orderedWidth (type : WireDataType) : Nat :=
  let raw := type.raw
  if (raw ≥ 0x02 && raw ≤ 0x03) || (raw ≥ 0x0e && raw ≤ 0x0f) then 2
  else if (raw ≥ 0x04 && raw ≤ 0x07) || (raw ≥ 0x0a && raw ≤ 0x0d) ||
      (raw ≥ 0x10 && raw ≤ 0x13) || (raw ≥ 0x16 && raw ≤ 0x19) then 4
  else if raw ≥ 0x1a && raw ≤ 0x29 then 8
  else 0

def kOrders4 : List (List Nat) := [[0, 1, 2, 3], [1, 0, 3, 2], [2, 3, 0, 1], [3, 2, 1, 0]]

def kOrders8 : List (List Nat) :=
  [[0, 1, 2, 3, 4, 5, 6, 7], [6, 7, 4, 5, 2, 3, 0, 1], [1, 0, 3, 2, 5, 4, 7, 6],
    [7, 6, 5, 4, 3, 2, 1, 0]]

def byteOrder (type : WireDataType) (width : Nat) : Option (List Nat) :=
  let raw := type.raw
  if width = 2 then some (if raw == 0x03 || raw == 0x0f then [1, 0] else [0, 1])
  else if width = 4 then
    if raw ≥ 0x04 && raw ≤ 0x07 then kOrders4[(raw - 0x04).toNat]?
    else if raw ≥ 0x0a && raw ≤ 0x0d then kOrders4[(raw - 0x0a).toNat]?
    else if raw ≥ 0x10 && raw ≤ 0x13 then kOrders4[(raw - 0x10).toNat]?
    else if raw ≥ 0x16 && raw ≤ 0x19 then kOrders4[(raw - 0x16).toNat]?
    else none
  else if width = 8 then
    if raw ≤ 0x21 then kOrders8[((raw - 0x1a) &&& 0x03).toNat]?
    else kOrders8[((raw - 0x22) &&& 0x03).toNat]?
  else none

def orderBytes (type : WireDataType) (raw : Bytes) (width : Nat) : Option Bytes :=
  (byteOrder type width).map fun order => order.map (byteAt raw)

/-- The integer to put on the wire, cut to the width, if the value is in range. -/
def integerBits (config : ChannelConfig) (value : DecodedScalar) (width : Nat) :
    Option UInt64 :=
  let bits := width * 8
  let mask : UInt64 := (1 <<< UInt64.ofNat bits) - 1
  match config.signedValue, value with
  | true, .signedInteger v =>
    if bits < 64 then
      if v.toInt < -2 ^ (bits - 1) ∨ v.toInt > 2 ^ (bits - 1) - 1 then none
      else some (v.toUInt64 &&& mask)
    else some v.toUInt64
  | false, .unsignedInteger v =>
    if bits < 64 then
      if v &&& ~~~mask != 0 then none else some (v &&& mask)
    else some v
  | _, _ => none

def canonicalBytes (config : ChannelConfig) (value : DecodedScalar) (width : Nat) :
    Option Bytes :=
  if isFloatingPointType config.dataType then
    match value with
    | .floatingPoint v =>
      if width = 4 then some (bigEndian v.toBinary32.bits.toUInt64 4)
      else if width = 8 then some (bigEndian v.bits 8)
      else none
    | _ => none
  else (integerBits config value width).map fun raw => bigEndian raw width

def encodeRegisterValue (config : ChannelConfig) (value : DecodedScalar) : Option Bytes :=
  let width := orderedWidth config.dataType
  if width = 0 then none
  else (canonicalBytes config value width).bind fun canonical =>
    orderBytes config.dataType canonical width

def buildWriteRequest (config : ChannelConfig) (valueIndex : UInt8) (value : DecodedScalar)
    (capacity : Nat) : Except RtuDecodeStatus Bytes :=
  if !validChannelConfig config || valueIndex ≥ config.quantity ||
      !writableType config.dataType then .error .invalidConfig
  else if config.dataType == coil then
    match value with
    | .boolean booleanValue =>
      if capacity < 8 then .error .invalidConfig
      else
        let address := config.address.toNat + valueIndex.toNat
        if address > 0xffff then .error .invalidConfig
        else .ok (appendCrc ([config.slaveId, kWriteSingleCoil] ++
          writeU16BE (UInt16.ofNat address) ++ [if booleanValue then 0xff else 0x00, 0x00]))
    | _ => .error .invalidConfig
  else
    let wordsPerValue := registersPerValue config.dataType
    if wordsPerValue == 0 then .error .invalidConfig
    else
      let address := config.address.toNat + valueIndex.toNat * wordsPerValue.toNat
      if address + wordsPerValue.toNat > 0x10000 then .error .invalidConfig
      else match encodeRegisterValue config value with
        | none => .error .invalidConfig
        | some wire =>
          if wordsPerValue == 1 then
            if capacity < 8 || wire.length != 2 then .error .bufferTooSmall
            else .ok (appendCrc ([config.slaveId, kWriteSingleRegister] ++
              writeU16BE (UInt16.ofNat address) ++ wire))
          else if capacity < 9 + wire.length then .error .bufferTooSmall
          else .ok (appendCrc ([config.slaveId, kWriteMultipleRegisters] ++
            writeU16BE (UInt16.ofNat address) ++
            [0x00, wordsPerValue, UInt8.ofNat wire.length] ++ wire))

def setInteger (config : ChannelConfig) (raw : UInt64) (widthBits : Nat) : DecodedScalar :=
  if !config.signedValue then .unsignedInteger raw
  else if widthBits ≥ 64 then .signedInteger raw.toInt64
  else
    let signBit : UInt64 := 1 <<< UInt64.ofNat (widthBits - 1)
    if raw &&& signBit == 0 then .signedInteger raw.toInt64
    else
      let mask := ~~~(0 : UInt64) <<< UInt64.ofNat widthBits
      .signedInteger (raw ||| mask).toInt64

def halfType (type : WireDataType) : Bool :=
  let raw := type.raw
  raw == 0x08 || raw == 0x09 || raw == 0x14 || raw == 0x15

def decodeRegisterValue (config : ChannelConfig) (raw : Bytes) : Option DecodedScalar :=
  let type := config.dataType
  if halfType type then
    if raw.length != 4 then none
    else
      let offset := if type.raw == 0x08 || type.raw == 0x14 then 0 else 2
      some (setInteger config (readU16BE raw offset).toUInt64 16)
  else
    let width := orderedWidth type
    if width = 0 ∨ raw.length ≠ width then none
    else (orderBytes type raw width).bind fun ordered =>
      if isFloatingPointType type then
        if width = 4 then some (.floatingPoint (Binary32.mk (readU32BE ordered 0)).toBinary64)
        else if width = 8 then some (.floatingPoint ⟨ofBigEndian ordered⟩)
        else none
      else some (setInteger config (ofBigEndian ordered) (width * 8))

def checkResponse (config : ChannelConfig) (frame : Bytes) : Except RtuFailure Unit :=
  if frame.length < 5 then .error { status := .truncated }
  else if crc16 (frame.take (frame.length - 2)) != readU16 frame (frame.length - 2) then
    .error { status := .crcMismatch }
  else if byteAt frame 0 != config.slaveId then .error { status := .slaveMismatch }
  else .ok ()

def checkFunction (function : UInt8) (frame : Bytes) : Except RtuFailure Unit :=
  if byteAt frame 1 == function ||| 0x80 then
    if frame.length != 5 then .error { status := .lengthMismatch }
    else .error { status := .exceptionResponse, exceptionCode := byteAt frame 2 }
  else if byteAt frame 1 != function then .error { status := .functionMismatch }
  else .ok ()

def decodeWriteResponse (config : ChannelConfig) (valueIndex : UInt8) (request response : Bytes) :
    Except RtuFailure Unit :=
  if !validChannelConfig config || valueIndex ≥ config.quantity ||
      !writableType config.dataType then .error { status := .invalidConfig }
  else do
    checkResponse config response
    let function := if request.length ≥ 2 then byteAt request 1 else 0
    checkFunction function response
    let echoed := request.take 6 == response.take 6
    if function == kWriteSingleCoil || function == kWriteSingleRegister then
      if request.length != 8 || response.length != 8 then .error { status := .lengthMismatch }
      else if echoed then .ok () else .error { status := .lengthMismatch }
    else if function == kWriteMultipleRegisters then
      if request.length < 11 || response.length != 8 then .error { status := .lengthMismatch }
      else if !echoed then .error { status := .lengthMismatch }
      else .ok ()
    else .error { status := .functionMismatch }

def decodeIndex (config : ChannelConfig) (data : Bytes) (index : Nat) : Option DecodedScalar :=
  if isBooleanType config.dataType then
    some (.boolean ((byteAt data (index / 8) >>> UInt8.ofNat (index % 8)) &&& 0x01 != 0))
  else
    let bytesPerValue := (registersPerValue config.dataType).toNat * 2
    decodeRegisterValue config ((data.drop (index * bytesPerValue)).take bytesPerValue)

def expectedDataBytes (config : ChannelConfig) : Nat :=
  let quantity := (readQuantity config).toNat
  if isBooleanType config.dataType then (quantity + 7) / 8 else quantity * 2

def decodeReadResponse (config : ChannelConfig) (frame : Bytes) :
    Except RtuFailure (List DecodedScalar) :=
  if !validChannelConfig config then .error { status := .invalidConfig }
  else do
    checkResponse config frame
    checkFunction (functionCode config.dataType) frame
    if (byteAt frame 2).toNat != expectedDataBytes config ||
        frame.length != expectedDataBytes config + 5 then .error { status := .lengthMismatch }
    else match (List.range config.quantity.toNat).mapM (decodeIndex config (frame.drop 3)) with
      | some values => .ok values
      | none => .error { status := .invalidConfig }

/-- What a built read request guarantees. -/
theorem buildReadRequest_cases (config : ChannelConfig) (capacity : Nat) (request : Bytes)
    (built : buildReadRequest config capacity = .ok request) :
    validChannelConfig config = true ∧ readQuantity config ≠ 0 ∧
      config.address.toNat + (readQuantity config).toNat ≤ 0x10000 ∧
      request = appendCrc ([config.slaveId, functionCode config.dataType] ++
        writeU16BE config.address ++ writeU16BE (readQuantity config)) := by
  simp only [buildReadRequest] at built
  split at built
  · cases built
  · rename_i valid
    split at built
    · cases built
    · split at built
      · cases built
      · rename_i positive
        split at built
        · cases built
        · rename_i range
          simp only [Bool.or_eq_true, beq_iff_eq, not_or] at positive
          exact ⟨by simpa using valid, positive.2, by omega, (Except.ok.inj built).symm⟩

theorem crc16_trailer (body : Bytes) :
    readU16 (appendCrc body) body.length = crc16 body := by
  have low := byteAt_append_right body (writeU16 (crc16 body)) 0
  have high := byteAt_append_right body (writeU16 (crc16 body)) 1
  have same := readU16_writeU16 (crc16 body) []
  rw [Nat.add_zero] at low
  rw [List.append_nil] at same
  rw [appendCrc, readU16, low, high]
  exact same

theorem checkResponse_appendCrc (config : ChannelConfig) (body : Bytes)
    (size : 3 ≤ body.length) (slave : byteAt body 0 = config.slaveId) :
    checkResponse config (appendCrc body) = .ok () := by
  have length : (appendCrc body).length = body.length + 2 := by
    simp [appendCrc]
  have front : (appendCrc body).take body.length = body := by
    simp [appendCrc]
  have first : byteAt (appendCrc body) 0 = config.slaveId := by
    rw [appendCrc, byteAt_append_left _ _ _ (by omega), slave]
  simp only [checkResponse, length, Nat.add_sub_cancel, front, crc16_trailer, first]
  simp
  omega

theorem checkFunction_same (function : UInt8) (frame : Bytes)
    (same : byteAt frame 1 = function) (plain : function ||| 0x80 ≠ function) :
    checkFunction function frame = .ok () := by
  simp [checkFunction, same, plain.symm]

end Modbus
