import MultibusGateway.Lorawan.Codec
import MultibusGateway.Modbus.RtuCodec

/-! Encoders of the FPort 85 uplinks: periodic values, collection exceptions, alarms,
history records and the replies to enquiries. Each gives the bytes written, or the
reason for writing none; the capacity of the output buffer is an argument. -/

namespace Lorawan
open ByteString Modbus

abbrev Encoded := Except EncodeStatus Bytes

structure PeriodicValue where
  slot : UInt8 := 0
  dataType : UplinkDataType := .coil
  signedValue : Bool := false
  registerIndex : UInt8 := 0
  data : Bytes := []

def valueFlags (signedValue : Bool) (registerIndex : UInt8) (dataType : UplinkDataType) : UInt8 :=
  (if signedValue then 0x80 else 0x00) ||| (if registerIndex == 1 then 0x20 else 0x00) |||
    (dataType.raw &&& 0x1f)

def encodePeriodicValue (value : PeriodicValue) (capacity : Nat) : Encoded :=
  if value.slot ≥ kCompatibilitySlotCount || value.registerIndex > 1 then .error .invalid
  else
    let expected := uplinkValueWidth value.dataType
    if expected == 0 || value.data.length != expected then .error .invalid
    else if capacity < 4 + expected then .error .bufferTooSmall
    else .ok ([kModbusChannel, kModbusChannelDataType, value.slot,
      valueFlags value.signedValue value.registerIndex value.dataType] ++ value.data)

def encodeCollectionException (slot : UInt8) (capacity : Nat) : Encoded :=
  if slot ≥ kCompatibilitySlotCount then .error .invalid
  else if capacity < 3 then .error .bufferTooSmall
  else .ok [kSystemChannel, kCollectionExceptionType, slot]

def encodeScalarBytes (channel : ChannelConfig) (scalar : DecodedScalar) (capacity : Nat) :
    Encoded :=
  if !validChannelConfig channel then .error .invalid
  else
    let width := uplinkValueWidth (uplinkDataType channel.dataType)
    if width == 0 then .error .invalid
    else if capacity < width then .error .bufferTooSmall
    else if isBooleanType channel.dataType then
      match scalar with
      | .boolean value => if width != 1 then .error .invalid else .ok [if value then 1 else 0]
      | _ => .error .invalid
    else if isFloatingPointType channel.dataType then
      match scalar with
      | .floatingPoint value =>
        if width == 4 then .ok (littleEndian value.toBinary32.bits.toUInt64 4)
        else if width == 8 then .ok (littleEndian value.bits 8)
        else .error .invalid
      | _ => .error .invalid
    else match uplinkSigned channel, scalar with
      | true, .signedInteger value => .ok (littleEndian value.toUInt64 width)
      | false, .unsignedInteger value => .ok (littleEndian value width)
      | _, _ => .error .invalid

def encodeChannelValue (channel : ChannelConfig) (registerIndex : UInt8) (data : Bytes)
    (capacity : Nat) : Encoded :=
  if !validChannelConfig channel then .error .invalid
  else encodePeriodicValue
    { slot := channel.slot
      dataType := uplinkDataType channel.dataType
      signedValue := uplinkSigned channel
      registerIndex := registerIndex
      data := data } capacity

def encodePollSuccess (channel : ChannelConfig) (values : List DecodedScalar) (capacity : Nat) :
    Encoded :=
  if !validChannelConfig channel || values.length != channel.quantity.toNat ||
      values.length == 0 || values.length > 2 then .error .invalid
  else values.zipIdx.foldlM (fun written (value, index) => do
    let data ← encodeScalarBytes channel value 8
    let frame ← encodeChannelValue channel (UInt8.ofNat index) data (capacity - written.length)
    .ok (written ++ frame)) []

def encodePollFailure (channel : ChannelConfig) (capacity : Nat) : Encoded :=
  if !validChannelConfig channel then .error .invalid
  else encodeCollectionException channel.slot capacity

inductive AlarmKind where
  | threshold | thresholdRelease | change
  deriving DecidableEq, Inhabited

def AlarmKind.raw : AlarmKind → UInt8
  | threshold => 0x01 | thresholdRelease => 0x02 | change => 0x03

def encodeAlarm (channel : ChannelConfig) (registerIndex : UInt8) (value : DecodedScalar)
    (kind : AlarmKind) (changeValue : Binary64) (capacity : Nat) : Encoded :=
  if !validChannelConfig channel || channel.slot ≥ kCompatibilitySlotCount ||
      registerIndex ≥ channel.quantity || isBooleanType channel.dataType then .error .invalid
  else match encodeScalarBytes channel value 8 with
    | .error status => .error status
    | .ok scalar =>
      let base := [kModbusChannel, kModbusChannelDataType,
        (kind.raw <<< 6) ||| (channel.slot &&& 0x3f),
        valueFlags (uplinkSigned channel) registerIndex (uplinkDataType channel.dataType)] ++
          scalar
      let totalLength := if kind = .change then base.length + 11 else base.length
      if capacity < totalLength then .error .bufferTooSmall
      else if kind ≠ .change then .ok base
      else .ok (base ++ [kModbusChannel, 0x74,
        (if registerIndex == 1 then 0x40 else 0x00) ||| (channel.slot &&& 0x3f)] ++
          littleEndian changeValue.bits 8)

structure BasicInfo where
  serialNumber : Vector UInt8 8 := Vector.replicate _ 0
  protocolVersion : UInt8 := 0x01
  tslMajor : UInt8 := 0x01
  tslMinor : UInt8 := 0x00
  hardwareMajor : UInt8 := 0x04
  hardwareMinor : UInt8 := 0x20
  softwareMajor : UInt8 := 0x00
  softwareMinor : UInt8 := 0x00
  deviceType : UInt8 := 0x02

def encodeBasicInfo (info : BasicInfo) (includeResetEvent : Bool) (capacity : Nat) : Encoded :=
  let required := if includeResetEvent then 34 else 31
  if capacity < required then .error .bufferTooSmall
  else if info.deviceType > 0x03 then .error .invalid
  else .ok ([0xff, 0x0b, 0xff] ++ [0xff, 0x01, info.protocolVersion] ++
    [0xff, 0xff, info.tslMajor, info.tslMinor] ++ [0xff, 0x16] ++ info.serialNumber.toList ++
    [0xff, 0x09, info.hardwareMajor, info.hardwareMinor] ++
    [0xff, 0x0a, info.softwareMajor, info.softwareMinor] ++ [0xff, 0x0f, info.deviceType] ++
    (if includeResetEvent then [0xff, 0xfe, 0xff] else []))

def encodeHistoryQueryReply (queryType status : UInt8) (capacity : Nat) : Encoded :=
  if queryType != kHistoryPointType && queryType != kHistoryRangeType then .error .invalid
  else if status > 0x02 then .error .invalid
  else if capacity < 3 then .error .bufferTooSmall
  else .ok [kHistoryReplyChannel, queryType, status]

def encodeRs485SettingsEnquiryReply (kind : Rs485SettingsEnquiryKind)
    (serialSettings : Rs485SerialSettings) (masterSettings : ModbusMasterSettings)
    (capacity : Nat) : Encoded :=
  if capacity < 13 then .error .bufferTooSmall
  else
    let header := [0xf8, kRs485SettingsEnquiryType, kind.raw, 0x00]
    match kind with
    | .serial =>
      if !validRs485SerialSettings serialSettings then .error .invalid
      else .ok (header ++ [kModbusChannel, kRs485ConfigType] ++
        writeU32 serialSettings.baudRate ++ [serialSettings.dataBits,
          serialSettings.stopBits.raw, serialSettings.parity.raw])
    | .modbus =>
      if !validModbusMasterSettings masterSettings then .error .invalid
      else .ok (header ++ [kModbusChannel, kModbusGlobalConfigType] ++
        writeU16 masterSettings.executionIntervalMs ++
        writeU16 masterSettings.maxResponseTimeMs ++ [masterSettings.maxRetryTimes,
          masterSettings.passThroughMode.raw, masterSettings.passThroughPort])

end Lorawan
