import Mathlib.Data.Nat.Notation

/-! Serial settings of the RS485 port and settings of the Modbus master. -/

namespace Modbus

inductive Rs485Parity where
  | none | even | odd
  deriving DecidableEq, Inhabited

namespace Rs485Parity

def raw : Rs485Parity → UInt8
  | none => 0x00 | even => 0x01 | odd => 0x02

def ofRaw (value : UInt8) : Option Rs485Parity :=
  [none, even, odd].find? fun parity => parity.raw == value

end Rs485Parity

inductive Rs485StopBits where
  | one | two | onePointFive
  deriving DecidableEq, Inhabited

namespace Rs485StopBits

def raw : Rs485StopBits → UInt8
  | one => 0x01 | two => 0x02 | onePointFive => 0x03

def ofRaw (value : UInt8) : Option Rs485StopBits :=
  [one, two, onePointFive].find? fun stop => stop.raw == value

end Rs485StopBits

structure Rs485SerialSettings where
  baudRate : UInt32 := 9600
  dataBits : UInt8 := 8
  stopBits : Rs485StopBits := .one
  parity : Rs485Parity := .none
  deriving DecidableEq, Inhabited

def validRs485BaudRate (value : UInt32) : Bool :=
  [1200, 2400, 4800, 9600, 19200, 38400, 57600, 115200].contains value

def validRs485SerialSettings (settings : Rs485SerialSettings) : Bool :=
  validRs485BaudRate settings.baudRate && settings.dataBits ≥ 7 && settings.dataBits ≤ 9

/-- The UART has at most 8 data bits, and no 1.5 stop bits. -/
def esp32SupportsRs485SerialSettings (settings : Rs485SerialSettings) : Bool :=
  validRs485SerialSettings settings && (settings.dataBits == 7 || settings.dataBits == 8) &&
    settings.stopBits != .onePointFive

inductive PassThroughMode where
  | disabled | active | twoWay
  deriving DecidableEq, Inhabited

namespace PassThroughMode

def raw : PassThroughMode → UInt8
  | disabled => 0x00 | active => 0x10 | twoWay => 0x11

def ofRaw (value : UInt8) : Option PassThroughMode :=
  [disabled, active, twoWay].find? fun mode => mode.raw == value

end PassThroughMode

structure ModbusMasterSettings where
  executionIntervalMs : UInt16 := 50
  maxResponseTimeMs : UInt16 := 500
  maxRetryTimes : UInt8 := 3
  passThroughMode : PassThroughMode := .disabled
  passThroughPort : UInt8 := 2
  deriving DecidableEq, Inhabited

def validPassThroughPort (port : UInt8) : Bool :=
  (port ≥ 2 && port ≤ 84) || (port ≥ 86 && port ≤ 223)

def validModbusMasterSettings (settings : ModbusMasterSettings) : Bool :=
  settings.executionIntervalMs ≥ 10 && settings.executionIntervalMs ≤ 1000 &&
    settings.maxResponseTimeMs ≥ 10 && settings.maxResponseTimeMs ≤ 60000 &&
    settings.maxRetryTimes ≤ 5 && validPassThroughPort settings.passThroughPort

def runtimeSupportsModbusMasterSettings (settings : ModbusMasterSettings) : Bool :=
  validModbusMasterSettings settings

end Modbus
