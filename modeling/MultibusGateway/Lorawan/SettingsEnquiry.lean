import MultibusGateway.Lorawan.Uplink

/-! The reply to an enquiry for the settings of the RS485 port. Behind its first four bytes stands
the command that would set what it reports. -/

namespace Lorawan
open ByteString Modbus

/-- Serial settings as they are in memory, where an enumeration is any byte. -/
structure SerialRecord where
  baudRate : UInt32
  dataBits : UInt8
  stopBits : UInt8
  parity : UInt8
  deriving DecidableEq

def SerialRecord.ofSettings (settings : Rs485SerialSettings) : SerialRecord where
  baudRate := settings.baudRate
  dataBits := settings.dataBits
  stopBits := settings.stopBits.raw
  parity := settings.parity.raw

def SerialRecord.valid (settings : SerialRecord) : Bool :=
  validRs485BaudRate settings.baudRate &&
    !(settings.dataBits < 7 || settings.dataBits > 9) &&
    !(settings.stopBits < 1 || settings.stopBits > 3) &&
    settings.parity ≤ Rs485Parity.odd.raw

structure MasterRecord where
  executionIntervalMs : UInt16
  maxResponseTimeMs : UInt16
  maxRetryTimes : UInt8
  passThroughMode : UInt8
  passThroughPort : UInt8
  deriving DecidableEq

def MasterRecord.ofSettings (settings : ModbusMasterSettings) : MasterRecord where
  executionIntervalMs := settings.executionIntervalMs
  maxResponseTimeMs := settings.maxResponseTimeMs
  maxRetryTimes := settings.maxRetryTimes
  passThroughMode := settings.passThroughMode.raw
  passThroughPort := settings.passThroughPort

def validPassThroughMode (mode : UInt8) : Bool :=
  mode == PassThroughMode.disabled.raw || mode == PassThroughMode.active.raw ||
    mode == PassThroughMode.twoWay.raw

def MasterRecord.valid (settings : MasterRecord) : Bool :=
  settings.executionIntervalMs ≥ 10 && settings.executionIntervalMs ≤ 1000 &&
    settings.maxResponseTimeMs ≥ 10 && settings.maxResponseTimeMs ≤ 60000 &&
    settings.maxRetryTimes ≤ 5 && validPassThroughMode settings.passThroughMode &&
    validPassThroughPort settings.passThroughPort

/-! A record holds what settings it comes from. -/

theorem stopBits_ofRaw_raw (stopBits : Rs485StopBits) :
    Rs485StopBits.ofRaw stopBits.raw = some stopBits := by
  cases stopBits <;> rfl

theorem parity_ofRaw_raw (parity : Rs485Parity) : Rs485Parity.ofRaw parity.raw = some parity := by
  cases parity <;> rfl

theorem passThroughMode_ofRaw_raw (mode : PassThroughMode) :
    PassThroughMode.ofRaw mode.raw = some mode := by
  cases mode <;> rfl

theorem SerialRecord.ofSettings_injective : Function.Injective SerialRecord.ofSettings := by
  intro a b same
  obtain ⟨baudRate, dataBits, stopBits, parity⟩ := a
  obtain ⟨baudRate', dataBits', stopBits', parity'⟩ := b
  simp only [ofSettings, mk.injEq] at same
  obtain ⟨rfl, rfl, stops, parities⟩ := same
  have stops' := congrArg Rs485StopBits.ofRaw stops
  have parities' := congrArg Rs485Parity.ofRaw parities
  rw [stopBits_ofRaw_raw, stopBits_ofRaw_raw, Option.some_inj] at stops'
  rw [parity_ofRaw_raw, parity_ofRaw_raw, Option.some_inj] at parities'
  rw [stops', parities']

theorem MasterRecord.ofSettings_injective : Function.Injective MasterRecord.ofSettings := by
  intro a b same
  obtain ⟨interval, response, retries, mode, port⟩ := a
  obtain ⟨interval', response', retries', mode', port'⟩ := b
  simp only [ofSettings, mk.injEq] at same
  obtain ⟨rfl, rfl, rfl, modes, rfl⟩ := same
  have modes' := congrArg PassThroughMode.ofRaw modes
  rw [passThroughMode_ofRaw_raw, passThroughMode_ofRaw_raw, Option.some_inj] at modes'
  rw [modes']

/-! What is valid comes from settings with proper enumerations. -/

theorem stopBits_raw_iff (value : UInt8) :
    (!(value < 1 || value > 3)) = true ↔ ∃ stopBits, Rs485StopBits.raw stopBits = value := by
  have bytes : (1 : UInt8).toNat = 1 ∧ (2 : UInt8).toNat = 2 ∧ (3 : UInt8).toNat = 3 :=
    ⟨rfl, rfl, rfl⟩
  constructor
  · intro inside
    rw [Bool.not_eq_true', Bool.or_eq_false_iff, decide_eq_false_iff_not,
      decide_eq_false_iff_not, UInt8.not_lt, gt_iff_lt, UInt8.not_lt, UInt8.le_iff_toNat_le,
      UInt8.le_iff_toNat_le, bytes.1, bytes.2.2] at inside
    obtain one | two | three : value.toNat = 1 ∨ value.toNat = 2 ∨ value.toNat = 3 := by omega
    · exact ⟨.one, UInt8.toNat_inj.mp one.symm⟩
    · exact ⟨.two, UInt8.toNat_inj.mp two.symm⟩
    · exact ⟨.onePointFive, UInt8.toNat_inj.mp three.symm⟩
  · rintro ⟨stopBits, rfl⟩
    cases stopBits <;> decide

theorem parity_raw_iff (value : UInt8) :
    decide (value ≤ Rs485Parity.odd.raw) = true ↔ ∃ parity, Rs485Parity.raw parity = value := by
  constructor
  · intro inside
    rw [decide_eq_true_eq, UInt8.le_iff_toNat_le] at inside
    have odd : Rs485Parity.odd.raw.toNat = 2 := rfl
    obtain zero | one | two : value.toNat = 0 ∨ value.toNat = 1 ∨ value.toNat = 2 := by omega
    · exact ⟨.none, UInt8.toNat_inj.mp zero.symm⟩
    · exact ⟨.even, UInt8.toNat_inj.mp one.symm⟩
    · exact ⟨.odd, UInt8.toNat_inj.mp two.symm⟩
  · rintro ⟨parity, rfl⟩
    cases parity <;> decide

theorem passThroughMode_raw_iff (value : UInt8) :
    validPassThroughMode value = true ↔ ∃ mode, PassThroughMode.raw mode = value := by
  constructor
  · intro known
    rw [validPassThroughMode, Bool.or_eq_true, Bool.or_eq_true, beq_iff_eq, beq_iff_eq,
      beq_iff_eq] at known
    rcases known with (disabled | active) | twoWay
    · exact ⟨_, disabled.symm⟩
    · exact ⟨_, active.symm⟩
    · exact ⟨_, twoWay.symm⟩
  · rintro ⟨mode, rfl⟩
    cases mode <;> decide

theorem SerialRecord.valid_iff (settings : SerialRecord) :
    settings.valid = true ↔
      ∃ known, validRs485SerialSettings known = true ∧ ofSettings known = settings := by
  obtain ⟨baudRate, dataBits, stopBits, parity⟩ := settings
  simp only [valid, Bool.and_eq_true, stopBits_raw_iff, parity_raw_iff]
  constructor
  · rintro ⟨⟨⟨baud, bits⟩, stop, rfl⟩, par, rfl⟩
    refine ⟨⟨baudRate, dataBits, stop, par⟩, ?_, rfl⟩
    simpa [validRs485SerialSettings, baud] using bits
  · rintro ⟨known, valid, same⟩
    simp only [ofSettings, mk.injEq] at same
    obtain ⟨rfl, rfl, rfl, rfl⟩ := same
    simp only [validRs485SerialSettings, Bool.and_eq_true] at valid
    refine ⟨⟨⟨valid.1.1, ?_⟩, _, rfl⟩, _, rfl⟩
    simpa using And.intro valid.1.2 valid.2

theorem MasterRecord.valid_iff (settings : MasterRecord) :
    settings.valid = true ↔
      ∃ known, validModbusMasterSettings known = true ∧ ofSettings known = settings := by
  obtain ⟨interval, response, retries, mode, port⟩ := settings
  simp only [valid, Bool.and_eq_true, passThroughMode_raw_iff, validModbusMasterSettings]
  constructor
  · rintro ⟨⟨times, known, rfl⟩, ports⟩
    exact ⟨⟨interval, response, retries, known, port⟩, ⟨times, ports⟩, rfl⟩
  · rintro ⟨known, ⟨times, ports⟩, same⟩
    simp only [ofSettings, mk.injEq] at same
    obtain ⟨rfl, rfl, rfl, rfl, rfl⟩ := same
    exact ⟨⟨times, _, rfl⟩, ports⟩

theorem SerialRecord.valid_ofSettings (settings : Rs485SerialSettings) :
    (ofSettings settings).valid = validRs485SerialSettings settings := by
  rw [Bool.eq_iff_iff, valid_iff]
  constructor
  · rintro ⟨known, valid, same⟩
    rwa [← ofSettings_injective same]
  · exact fun valid => ⟨settings, valid, rfl⟩

theorem MasterRecord.valid_ofSettings (settings : ModbusMasterSettings) :
    (ofSettings settings).valid = validModbusMasterSettings settings := by
  rw [Bool.eq_iff_iff, valid_iff]
  constructor
  · rintro ⟨known, valid, same⟩
    rwa [← ofSettings_injective same]
  · exact fun valid => ⟨settings, valid, rfl⟩

/-! The reply in the buffer of the caller. -/

def SerialRecord.command (settings : SerialRecord) : Bytes :=
  [kModbusChannel, kRs485ConfigType] ++ writeU32 settings.baudRate ++
    [settings.dataBits, settings.stopBits, settings.parity]

def MasterRecord.command (settings : MasterRecord) : Bytes :=
  [kModbusChannel, kModbusGlobalConfigType] ++ writeU16 settings.executionIntervalMs ++
    writeU16 settings.maxResponseTimeMs ++
    [settings.maxRetryTimes, settings.passThroughMode, settings.passThroughPort]

def enquiryHeader (kind : UInt8) : Bytes := [0xf8, kRs485SettingsEnquiryType, kind, 0x00]

structure EnquiryReply where
  status : Except EncodeStatus Unit
  written : ℕ := 0
  output : Option Bytes

/-- As in the source, the buffer has its first bytes when the settings are refused. -/
def writeRs485SettingsEnquiryReply (kind : UInt8) (serialSettings : SerialRecord)
    (masterSettings : MasterRecord) (output : Option Bytes) : EnquiryReply :=
  match output with
  | none => { status := .error .invalid, output := none }
  | some output =>
    let serial := kind == Rs485SettingsEnquiryKind.serial.raw
    let modbus := kind == Rs485SettingsEnquiryKind.modbus.raw
    if !serial && !modbus then { status := .error .invalid, output := some output }
    else if output.length < 13 then
      { status := .error .bufferTooSmall, output := some output }
    else
      let output := overwrite output 0 (enquiryHeader kind)
      if serial then
        if !serialSettings.valid then { status := .error .invalid, output := some output }
        else
          { status := .ok (), written := 13,
            output := some (overwrite output 4 serialSettings.command) }
      else if !masterSettings.valid then { status := .error .invalid, output := some output }
      else
        { status := .ok (), written := 13,
          output := some (overwrite output 4 masterSettings.command) }

def EnquiryReply.bytes (reply : EnquiryReply) : Bytes := (reply.output.getD []).take reply.written

@[simp] theorem SerialRecord.length_command (settings : SerialRecord) :
    settings.command.length = 9 := rfl

@[simp] theorem MasterRecord.length_command (settings : MasterRecord) :
    settings.command.length = 9 := rfl

theorem written_bytes (output header command : Bytes) (four : header.length = 4)
    (nine : command.length = 9) :
    (overwrite (overwrite output 0 header) 4 command).take 13 = header ++ command := by
  have length : (header ++ command).length = 13 := by rw [List.length_append, four, nine]
  have first : overwrite output 0 header = header ++ output.drop 4 := by
    rw [overwrite, four]
    rfl
  rw [first, overwrite, ← four, List.take_left, four, ← length, List.take_left]

def Answers (kind : UInt8) (serialSettings : SerialRecord) (masterSettings : MasterRecord)
    (output : Option Bytes) : Prop :=
  (∃ buffer, output = some buffer ∧ 13 ≤ buffer.length) ∧
    (kind = Rs485SettingsEnquiryKind.serial.raw ∧ serialSettings.valid = true ∨
      kind = Rs485SettingsEnquiryKind.modbus.raw ∧ masterSettings.valid = true)

section
variable (kind : UInt8) (serialSettings : SerialRecord) (masterSettings : MasterRecord)
  (output : Option Bytes)

/-- The reply is complete or there is none. -/
theorem reply_cases :
    let reply := writeRs485SettingsEnquiryReply kind serialSettings masterSettings output
    (Answers kind serialSettings masterSettings output ∧ reply.status = .ok () ∧
        reply.written = 13 ∧
        reply.bytes = enquiryHeader kind ++
          if kind = Rs485SettingsEnquiryKind.serial.raw then serialSettings.command
          else masterSettings.command) ∨
      (¬ Answers kind serialSettings masterSettings output ∧ reply.status ≠ .ok () ∧
        reply.written = 0) := by
  have apart : Rs485SettingsEnquiryKind.modbus.raw ≠ Rs485SettingsEnquiryKind.serial.raw := by
    decide
  intro reply
  cases output with
  | none =>
    right
    refine ⟨?_, fun same => ?_, rfl⟩
    · rintro ⟨⟨buffer, none, -⟩, -⟩
      cases none
    · cases same
  | some buffer =>
    have room : (∃ buffer', some buffer = some buffer' ∧ 13 ≤ buffer'.length) ↔
        ¬ buffer.length < 13 := by
      rw [Nat.not_lt]
      constructor
      · rintro ⟨_, ⟨⟩, room⟩
        exact room
      · exact fun room => ⟨buffer, rfl, room⟩
    rw [Answers, room]
    dsimp only [reply, writeRs485SettingsEnquiryReply]
    by_cases serial : kind = Rs485SettingsEnquiryKind.serial.raw
    · subst serial
      by_cases short : buffer.length < 13
      · simp [short, apart.symm]
      · cases valid : serialSettings.valid with
        | false => simp [short, apart.symm]
        | true =>
          have written := written_bytes buffer
            (enquiryHeader Rs485SettingsEnquiryKind.serial.raw) serialSettings.command rfl rfl
          simpa [short, apart.symm, EnquiryReply.bytes] using written
    · by_cases modbus : kind = Rs485SettingsEnquiryKind.modbus.raw
      · subst modbus
        by_cases short : buffer.length < 13
        · simp [short, apart]
        · cases valid : masterSettings.valid with
          | false => simp [short, apart]
          | true =>
            have written := written_bytes buffer
              (enquiryHeader Rs485SettingsEnquiryKind.modbus.raw) masterSettings.command rfl rfl
            simpa [short, apart, EnquiryReply.bytes] using written
      · simp [serial, modbus]

end

/-- The reply that the service sends. -/
theorem encodeRs485SettingsEnquiryReply_eq (kind : Rs485SettingsEnquiryKind)
    (serialSettings : Rs485SerialSettings) (masterSettings : ModbusMasterSettings)
    (output : Bytes) :
    let reply := writeRs485SettingsEnquiryReply kind.raw (.ofSettings serialSettings)
      (.ofSettings masterSettings) (some output)
    encodeRs485SettingsEnquiryReply kind serialSettings masterSettings output.length =
      reply.status.map fun _ => reply.bytes := by
  dsimp only [writeRs485SettingsEnquiryReply, encodeRs485SettingsEnquiryReply]
  rw [SerialRecord.valid_ofSettings, MasterRecord.valid_ofSettings]
  by_cases short : output.length < 13
  · cases kind <;> simp [short] <;> rfl
  · simp only [short, if_false]
    cases kind with
    | serial =>
      cases validRs485SerialSettings serialSettings with
      | false => rfl
      | true =>
        have written := written_bytes output
          (enquiryHeader Rs485SettingsEnquiryKind.serial.raw)
          (SerialRecord.ofSettings serialSettings).command rfl rfl
        exact congrArg Except.ok written.symm
    | modbus =>
      cases validModbusMasterSettings masterSettings with
      | false => rfl
      | true =>
        have written := written_bytes output
          (enquiryHeader Rs485SettingsEnquiryKind.modbus.raw)
          (MasterRecord.ofSettings masterSettings).command rfl rfl
        exact congrArg Except.ok written.symm

/-! The command in the reply. -/

theorem decodeRs485SettingsCommand_command (settings : Rs485SerialSettings)
    (valid : validRs485SerialSettings settings = true) :
    decodeRs485SettingsCommand (SerialRecord.ofSettings settings).command = .ok (settings, 9) := by
  have baud : readU32 (SerialRecord.ofSettings settings).command 2 = settings.baudRate :=
    readU32_writeU32 settings.baudRate
      [settings.dataBits, settings.stopBits.raw, settings.parity.raw]
  have stop : Rs485StopBits.ofRaw (byteAt (SerialRecord.ofSettings settings).command 7) =
      some settings.stopBits := stopBits_ofRaw_raw settings.stopBits
  have parity : Rs485Parity.ofRaw (byteAt (SerialRecord.ofSettings settings).command 8) =
      some settings.parity := parity_ofRaw_raw settings.parity
  have bits : byteAt (SerialRecord.ofSettings settings).command 6 = settings.dataBits := rfl
  have header : hasHeader (SerialRecord.ofSettings settings).command kModbusChannel
      kRs485ConfigType = true := rfl
  rw [decodeRs485SettingsCommand, SerialRecord.length_command, header, stop, parity, baud, bits]
  simp [valid]

theorem decodeModbusMasterSettingsCommand_command (settings : ModbusMasterSettings)
    (valid : validModbusMasterSettings settings = true) :
    decodeModbusMasterSettingsCommand (MasterRecord.ofSettings settings).command =
      .ok (settings, 9) := by
  have interval : readU16 (MasterRecord.ofSettings settings).command 2 =
      settings.executionIntervalMs :=
    readU16_writeU16 settings.executionIntervalMs
      (writeU16 settings.maxResponseTimeMs ++
        [settings.maxRetryTimes, settings.passThroughMode.raw, settings.passThroughPort])
  have response : readU16 (MasterRecord.ofSettings settings).command 4 =
      settings.maxResponseTimeMs :=
    readU16_writeU16 settings.maxResponseTimeMs
      [settings.maxRetryTimes, settings.passThroughMode.raw, settings.passThroughPort]
  have retries : byteAt (MasterRecord.ofSettings settings).command 6 =
      settings.maxRetryTimes := rfl
  have mode : PassThroughMode.ofRaw (byteAt (MasterRecord.ofSettings settings).command 7) =
      some settings.passThroughMode := passThroughMode_ofRaw_raw settings.passThroughMode
  have port : byteAt (MasterRecord.ofSettings settings).command 8 =
      settings.passThroughPort := rfl
  have header : hasHeader (MasterRecord.ofSettings settings).command kModbusChannel
      kModbusGlobalConfigType = true := rfl
  rw [decodeModbusMasterSettingsCommand, MasterRecord.length_command, header, interval, response,
    retries, mode, port]
  simp [valid]

/-- The reply to an enquiry is itself a command: with valid settings and room for it, it has
thirteen bytes, and those from the fifth on are decoded as the settings that were encoded. It is the
reply that the service sends. -/
theorem settings_reply_exact (kind : UInt8) (serialSettings : SerialRecord)
    (masterSettings : MasterRecord) (output : Option Bytes) :
    let serial := kind = Rs485SettingsEnquiryKind.serial.raw
    let modbus := kind = Rs485SettingsEnquiryKind.modbus.raw
    let reply := writeRs485SettingsEnquiryReply kind serialSettings masterSettings output
    (reply.status = .ok () ↔
      (∃ buffer, output = some buffer ∧ 13 ≤ buffer.length) ∧
        (serial ∧ serialSettings.valid = true ∨ modbus ∧ masterSettings.valid = true)) ∧
    (reply.status ≠ .ok () → reply.written = 0) ∧
    (reply.status = .ok () → reply.written = 13 ∧ reply.bytes.length = 13 ∧
      (serial → ∃ settings, SerialRecord.ofSettings settings = serialSettings ∧
        decodeRs485SettingsCommand (reply.bytes.drop 4) = .ok (settings, 9)) ∧
      (modbus → ∃ settings, MasterRecord.ofSettings settings = masterSettings ∧
        decodeModbusMasterSettingsCommand (reply.bytes.drop 4) = .ok (settings, 9))) ∧
    (∀ (enquired : Rs485SettingsEnquiryKind) settings master buffer, kind = enquired.raw →
      serialSettings = .ofSettings settings → masterSettings = .ofSettings master →
      output = some buffer →
        encodeRs485SettingsEnquiryReply enquired settings master buffer.length =
          reply.status.map fun _ => reply.bytes) := by
  intro serial modbus reply
  have sent : ∀ (enquired : Rs485SettingsEnquiryKind) settings master buffer,
      kind = enquired.raw → serialSettings = .ofSettings settings →
      masterSettings = .ofSettings master → output = some buffer →
        encodeRs485SettingsEnquiryReply enquired settings master buffer.length =
          reply.status.map fun _ => reply.bytes := by
    intro enquired settings master buffer told serial_ master_ given
    dsimp only [reply]
    rw [told, serial_, master_, given]
    exact encodeRs485SettingsEnquiryReply_eq enquired settings master buffer
  have apart : Rs485SettingsEnquiryKind.modbus.raw ≠ Rs485SettingsEnquiryKind.serial.raw := by
    decide
  obtain ⟨answers, ok, written, bytes⟩ | ⟨refused, failed, none⟩ :=
    reply_cases kind serialSettings masterSettings output
  · refine ⟨iff_of_true ok answers, fun failed => absurd ok failed, fun _ =>
      ⟨written, ?_, ?_, ?_⟩, sent⟩
    · rw [bytes]
      split <;> rfl
    · intro told
      have command : reply.bytes.drop 4 = serialSettings.command := by
        rw [bytes, if_pos told]
        exact List.drop_left' rfl
      have valid : serialSettings.valid = true := by
        rcases answers.2 with asked | asked
        · exact asked.2
        · exact absurd (asked.1.symm.trans told) apart
      obtain ⟨settings, known, rfl⟩ := serialSettings.valid_iff.mp valid
      rw [command]
      exact ⟨settings, rfl, decodeRs485SettingsCommand_command settings known⟩
    · intro told
      have other : kind ≠ Rs485SettingsEnquiryKind.serial.raw := fun same =>
        apart (told.symm.trans same)
      have command : reply.bytes.drop 4 = masterSettings.command := by
        rw [bytes, if_neg other]
        exact List.drop_left' rfl
      have valid : masterSettings.valid = true := by
        rcases answers.2 with asked | asked
        · exact absurd asked.1 other
        · exact asked.2
      obtain ⟨settings, known, rfl⟩ := masterSettings.valid_iff.mp valid
      rw [command]
      exact ⟨settings, rfl, decodeModbusMasterSettingsCommand_command settings known⟩
  · exact ⟨iff_of_false failed refused, fun _ => none, fun ok => absurd ok failed, sent⟩

end Lorawan
