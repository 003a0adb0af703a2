import MultibusGateway.Modbus.RtuCodec
import MultibusGateway.Modbus.Settings

/-! The RTU master: one transaction at a time over a serial port. Requests are sent at
once; the answer is collected byte by byte over later polls, until it is complete or the
response time is over. Between transactions, frames of others are collected from the bus. -/

namespace Modbus
open ByteString

/-- The serial port: the bytes that have arrived, and for the next writes whether the port
takes all of the bytes (it does when nothing is listed). -/
structure SerialPort where
  input : Bytes := []
  writes : List Bool := []
  deriving DecidableEq

namespace SerialPort

def drained (port : SerialPort) : SerialPort := { port with input := [] }

def write (port : SerialPort) : SerialPort × Bool :=
  match port.writes with
  | [] => (port, true)
  | taken :: rest => ({ port with writes := rest }, taken)

end SerialPort

inductive PassiveFrameResult where
  | idle | pending | frameReady | overflow
  deriving DecidableEq, Inhabited

structure RtuPassiveFrameCollector where
  buffer : Bytes := []
  lastByteAtUs : UInt32 := 0
  overflow : Bool := false
  deriving DecidableEq, Inhabited

namespace RtuPassiveFrameCollector

def feed (capacity : Nat) (collector : RtuPassiveFrameCollector) (value : UInt8)
    (nowUs : UInt32) : RtuPassiveFrameCollector :=
  let collector := { collector with lastByteAtUs := nowUs }
  if collector.overflow then collector
  else if collector.buffer.length ≥ capacity then { collector with overflow := true }
  else { collector with buffer := collector.buffer ++ [value] }

/-- The result of a poll, with the frame when one is ready. -/
def poll (collector : RtuPassiveFrameCollector) (nowUs idleGapUs : UInt32)
    (outputCapacity : Nat) : RtuPassiveFrameCollector × PassiveFrameResult × Bytes :=
  if collector.buffer.length = 0 && !collector.overflow then (collector, .idle, [])
  else if collector.lastByteAtUs != 0 && nowUs - collector.lastByteAtUs < idleGapUs then
    (collector, .pending, [])
  else if collector.overflow then ({}, .overflow, [])
  else if outputCapacity < collector.buffer.length then ({}, .overflow, [])
  else ({}, .frameReady, collector.buffer)

def pending (collector : RtuPassiveFrameCollector) : Bool :=
  collector.buffer.length != 0 || collector.overflow

end RtuPassiveFrameCollector

structure RtuSerialConfig where
  baudRate : UInt32 := 9600
  dataBits : UInt8 := 8
  stopBits : Rs485StopBits := .one
  parity : Rs485Parity := .none
  responseTimeoutMs : UInt32 := 500
  deriving DecidableEq, Inhabited

/-- The serial mode is given by the data bits, the stop bits and the parity. -/
def makeRtuSerialConfig (settings : Rs485SerialSettings) (responseTimeoutMs : UInt32) :
    Option RtuSerialConfig :=
  if !esp32SupportsRs485SerialSettings settings || responseTimeoutMs == 0 then none
  else some
    { baudRate := settings.baudRate
      dataBits := settings.dataBits
      stopBits := settings.stopBits
      parity := settings.parity
      responseTimeoutMs := responseTimeoutMs }

inductive RtuTransactionResult where
  | idle | pending | success | failure
  deriving DecidableEq, Inhabited

inductive RtuTransactionKind where
  | none | read | write | raw
  deriving DecidableEq, Inhabited

def kMaxFrameLength : Nat := 242

structure ModbusRtuMaster where
  port : SerialPort := {}
  config : RtuSerialConfig := {}
  activeChannel : ChannelConfig := {}
  activeValueIndex : UInt8 := 0
  activeRequest : Bytes := []
  response : Bytes := []
  expectedResponseLength : Nat := 0
  transactionStartedAtMs : UInt32 := 0
  lastResponseByteAtUs : UInt32 := 0
  transactionActive : Bool := false
  transactionKind : RtuTransactionKind := .none
  started : Bool := false
  online : Bool := false
  successfulTransactions : UInt32 := 0
  failedTransactions : UInt32 := 0
  lastStatus : RtuDecodeStatus := .truncated
  lastExceptionCode : UInt8 := 0
  passiveCollector : RtuPassiveFrameCollector := {}

namespace ModbusRtuMaster

def fail (status : RtuDecodeStatus) (m : ModbusRtuMaster) : ModbusRtuMaster :=
  { m with lastStatus := status, online := false, failedTransactions := m.failedTransactions + 1 }

def endTransaction (m : ModbusRtuMaster) : ModbusRtuMaster :=
  { m with
    transactionActive := false
    transactionKind := .none
    response := []
    expectedResponseLength := 0 }

def finishFailure (status : RtuDecodeStatus) (m : ModbusRtuMaster) : ModbusRtuMaster :=
  m.endTransaction.fail status

def finishSuccess (m : ModbusRtuMaster) : ModbusRtuMaster :=
  { m.endTransaction with
    lastStatus := .ok
    online := true
    successfulTransactions := m.successfulTransactions + 1 }

def drainReceiveBuffer (m : ModbusRtuMaster) : ModbusRtuMaster :=
  { m with port := m.port.drained }

def cancelTransaction (m : ModbusRtuMaster) : ModbusRtuMaster :=
  let m := m.endTransaction
  let m := if m.started then m.drainReceiveBuffer else m
  { m with passiveCollector := {} }

def begin (config : RtuSerialConfig) (m : ModbusRtuMaster) : ModbusRtuMaster × Bool :=
  let m := { m with config := config }
  if config.baudRate == 0 || config.responseTimeoutMs == 0 then (m, false)
  else ({ m with started := true }, true)

def reconfigure (config : RtuSerialConfig) (m : ModbusRtuMaster) : ModbusRtuMaster × Bool :=
  begin config { m.cancelTransaction with started := false }

def calculatedInterFrameDelayUs (config : RtuSerialConfig) : UInt32 :=
  if config.baudRate == 0 then 0
  else if config.baudRate > 19200 then 1750
  else UInt32.ofNat ((38500000 + config.baudRate.toNat - 1) / config.baudRate.toNat)

/-- Sends a request on the drained bus and starts a transaction for its answer. -/
def transmit (nowMs : UInt32) (kind : RtuTransactionKind) (channel : ChannelConfig)
    (valueIndex : UInt8) (request : Bytes) (m : ModbusRtuMaster) : ModbusRtuMaster × Bool :=
  let (port, taken) := m.port.drained.write
  let m := { m with port := port }
  if !taken then (m.fail .truncated, false)
  else
    ({ m with
       activeChannel := channel
       activeValueIndex := valueIndex
       activeRequest := request
       response := []
       expectedResponseLength := 0
       transactionStartedAtMs := nowMs
       lastResponseByteAtUs := if kind = .raw then 0 else m.lastResponseByteAtUs
       transactionKind := kind
       transactionActive := true }, true)

def startRead (nowMs : UInt32) (channel : ChannelConfig) (m : ModbusRtuMaster) :
    ModbusRtuMaster × Bool :=
  let m := { m with lastExceptionCode := 0 }
  if !m.started || m.transactionActive || !validChannelConfig channel then
    (if m.transactionActive then m else m.fail .invalidConfig, false)
  else match buildReadRequest channel 8 with
    | .error status => (m.fail status, false)
    | .ok request => transmit nowMs .read channel 0 request m

def startWrite (nowMs : UInt32) (channel : ChannelConfig) (valueIndex : UInt8)
    (value : DecodedScalar) (m : ModbusRtuMaster) : ModbusRtuMaster × Bool :=
  let m := { m with lastExceptionCode := 0 }
  if !m.started || m.transactionActive || !validChannelConfig channel then
    (if m.transactionActive then m else m.fail .invalidConfig, false)
  else match buildWriteRequest channel valueIndex value 17 with
    | .error status => (m.fail status, false)
    | .ok request => transmit nowMs .write channel valueIndex request m

/-- A raw request keeps the channel of the transaction before it. -/
def startRaw (nowMs : UInt32) (payload : Bytes) (m : ModbusRtuMaster) : ModbusRtuMaster × Bool :=
  let m := { m with lastExceptionCode := 0 }
  if !m.started || m.transactionActive || payload.length = 0 ||
      payload.length > kMaxFrameLength then
    (if m.transactionActive then m else m.fail .invalidConfig, false)
  else transmit nowMs .raw m.activeChannel m.activeValueIndex payload m

/-- What a poll gives: the result, and the data of a successful one. -/
structure Polled (α : Type) where
  master : ModbusRtuMaster
  result : RtuTransactionResult
  data : α

def finishDecode (m : ModbusRtuMaster) : Polled (List DecodedScalar) :=
  match decodeReadResponse m.activeChannel m.response with
  | .ok values => ⟨{ m with lastExceptionCode := 0 }.finishSuccess, .success, values⟩
  | .error failure =>
    ⟨{ m with lastExceptionCode := failure.exceptionCode }.finishFailure failure.status,
      .failure, []⟩

def finishWriteDecode (m : ModbusRtuMaster) : Polled Unit :=
  match decodeWriteResponse m.activeChannel m.activeValueIndex m.activeRequest m.response with
  | .ok () => ⟨{ m with lastExceptionCode := 0 }.finishSuccess, .success, ()⟩
  | .error failure =>
    ⟨{ m with lastExceptionCode := failure.exceptionCode }.finishFailure failure.status,
      .failure, ()⟩

def expectedReadLength (response : Bytes) (expected : Nat) : Nat :=
  if response.length = 2 && byteAt response 1 &&& 0x80 != 0 then 5
  else if response.length = 3 && byteAt response 1 &&& 0x80 == 0 then
    (byteAt response 2).toNat + 5
  else expected

def expectedWriteLength (response : Bytes) (expected : Nat) : Nat :=
  if response.length = 2 then (if byteAt response 1 &&& 0x80 != 0 then 5 else 8) else expected

/-- The loop over the bytes that have arrived: `some` as soon as the transaction ends. -/
def collect {α : Type} (expectedLength : Bytes → Nat → Nat) (finish : ModbusRtuMaster → Polled α)
    (nothing : α) : Bytes → ModbusRtuMaster → ModbusRtuMaster × Option (Polled α)
  | [], m => ({ m with port := { m.port with input := [] } }, none)
  | b :: rest, m =>
    let m := { m with port := { m.port with input := rest } }
    if m.response.length ≥ kMaxFrameLength then
      (m, some ⟨m.finishFailure .bufferTooSmall, .failure, nothing⟩)
    else
      let response := m.response ++ [b]
      let expected := expectedLength response m.expectedResponseLength
      let m := { m with response := response, expectedResponseLength := expected }
      if expected > kMaxFrameLength then
        (m, some ⟨m.finishFailure .bufferTooSmall, .failure, nothing⟩)
      else if expected ≠ 0 && response.length ≥ expected then (m, some (finish m))
      else collect expectedLength finish nothing rest m

def timedOut (nowMs : UInt32) (m : ModbusRtuMaster) : Bool :=
  nowMs - m.transactionStartedAtMs ≥ m.config.responseTimeoutMs

def pollCollecting {α : Type} (kind : RtuTransactionKind) (expectedLength : Bytes → Nat → Nat)
    (finish : ModbusRtuMaster → Polled α) (nothing : α) (nowMs : UInt32) (m : ModbusRtuMaster) :
    Polled α :=
  if !m.transactionActive then ⟨m, .idle, nothing⟩
  else if m.transactionKind ≠ kind then ⟨m, .failure, nothing⟩
  else match collect expectedLength finish nothing m.port.input m with
    | (_, some polled) => polled
    | (m, none) =>
      if timedOut nowMs m then
        if m.response.length = 0 then ⟨m.finishFailure .truncated, .failure, nothing⟩
        else finish m
      else ⟨m, .pending, nothing⟩

def pollRead : UInt32 → ModbusRtuMaster → Polled (List DecodedScalar) :=
  pollCollecting .read expectedReadLength finishDecode []

def pollWrite : UInt32 → ModbusRtuMaster → Polled Unit :=
  pollCollecting .write expectedWriteLength finishWriteDecode ()

/-- The bytes of a raw answer, `none` when there are too many. -/
def collectRaw (nowUs : UInt32) : Bytes → ModbusRtuMaster → ModbusRtuMaster × Bool
  | [], m => ({ m with port := { m.port with input := [] } }, true)
  | b :: rest, m =>
    let m := { m with port := { m.port with input := rest } }
    if m.response.length ≥ kMaxFrameLength then (m, false)
    else collectRaw nowUs rest
      { m with response := m.response ++ [b], lastResponseByteAtUs := nowUs }

def pollRaw (nowMs nowUs : UInt32) (capacity : Nat) (m : ModbusRtuMaster) : Polled Bytes :=
  if !m.transactionActive then ⟨m, .idle, []⟩
  else if m.transactionKind ≠ .raw then ⟨m, .failure, []⟩
  else match collectRaw nowUs m.port.input m with
    | (m, false) => ⟨m.finishFailure .bufferTooSmall, .failure, []⟩
    | (m, true) =>
      let idleComplete := m.response.length > 0 && m.lastResponseByteAtUs != 0 &&
        nowUs - m.lastResponseByteAtUs ≥ calculatedInterFrameDelayUs m.config
      if !idleComplete && !timedOut nowMs m then ⟨m, .pending, []⟩
      else if m.response.length = 0 then ⟨m.finishFailure .truncated, .failure, []⟩
      else if capacity < m.response.length then ⟨m.finishFailure .bufferTooSmall, .failure, []⟩
      else ⟨m.finishSuccess, .success, m.response⟩

def pollPassiveFrame (nowUs : UInt32) (capacity : Nat) (m : ModbusRtuMaster) :
    ModbusRtuMaster × PassiveFrameResult × Bytes :=
  if !m.started || m.transactionActive then (m, .idle, [])
  else
    let collector := m.port.input.foldl
      (fun collector value => collector.feed kMaxFrameLength value nowUs) m.passiveCollector
    let (collector, result, frame) :=
      collector.poll nowUs (calculatedInterFrameDelayUs m.config) capacity
    ({ m with port := m.port.drained, passiveCollector := collector }, result, frame)

end ModbusRtuMaster

end Modbus
