import MultibusGateway.Modbus.RtuMaster
import MultibusGateway.Modbus.WriteRead

/-! The answer to a write. Whatever the bus delivers, a write counts as done only if the answer
is the echo of its request. -/

namespace Modbus
open ByteString WireDataType ModbusRtuMaster

def CrcCorrect (frame : Bytes) : Prop :=
  crc16 (frame.take (frame.length - 2)) = readU16 frame (frame.length - 2)

theorem crcCorrect_appendCrc (body : Bytes) : CrcCorrect (appendCrc body) := by
  have size : (appendCrc body).length - 2 = body.length := by
    simp [appendCrc]
  have front : (appendCrc body).take body.length = body := by
    simp [appendCrc]
  rw [CrcCorrect, size, front, crc16_trailer]

/-- A confirmation: eight bytes, the first six as in the request. -/
def Echoes (request response : Bytes) : Prop :=
  response.length = 8 ∧ response.take 6 = request.take 6 ∧ CrcCorrect response

/-- An exception frame of the requested slave for the requested function. -/
def Refuses (request response : Bytes) : Prop :=
  response.length = 5 ∧ CrcCorrect response ∧ byteAt response 0 = byteAt request 0 ∧
    byteAt response 1 = byteAt request 1 ||| 0x80

structure WriteShape (config : ChannelConfig) (valueIndex : UInt8) (request : Bytes) : Prop where
  valid : validChannelConfig config = true
  index : valueIndex.toNat < config.quantity.toNat
  writable : writableType config.dataType = true
  slave : byteAt request 0 = config.slaveId
  size : ((byteAt request 1 = kWriteSingleCoil ∨ byteAt request 1 = kWriteSingleRegister) ∧
      request.length = 8) ∨
    (byteAt request 1 = kWriteMultipleRegisters ∧ 11 ≤ request.length)

namespace WriteShape

variable {config : ChannelConfig} {valueIndex : UInt8} {request : Bytes}

theorem plain (shape : WriteShape config valueIndex request) :
    byteAt request 1 ||| 0x80 ≠ byteAt request 1 := by
  rcases shape.size with ⟨coil | register, -⟩ | ⟨registers, -⟩
  · rw [coil]
    decide
  · rw [register]
    decide
  · rw [registers]
    decide

theorem decodeWriteResponse_eq (shape : WriteShape config valueIndex request)
    (response : Bytes) :
    decodeWriteResponse config valueIndex request response = (do
      checkResponse config response
      checkFunction (byteAt request 1) response
      if response.length = 8 ∧ response.take 6 = request.take 6 then .ok ()
      else .error { status := .lengthMismatch }) := by
  have checks : (!validChannelConfig config || valueIndex ≥ config.quantity ||
      !writableType config.dataType) = false := by
    have index := shape.index
    simp [shape.valid, shape.writable, UInt8.lt_iff_toNat_lt, index]
  have header : 2 ≤ request.length := by
    have size := shape.size
    omega
  simp only [decodeWriteResponse, checks, Bool.false_eq_true, if_false, ge_iff_le, if_pos header]
  congr 1
  funext _
  congr 1
  funext _
  have same : (request.take 6 == response.take 6) =
      decide (response.take 6 = request.take 6) := by
    rw [Bool.eq_iff_iff, beq_iff_eq, decide_eq_true_iff]
    exact eq_comm
  rw [same]
  rcases shape.size with ⟨single, length⟩ | ⟨registers, length⟩
  · have function : (byteAt request 1 == kWriteSingleCoil ||
        byteAt request 1 == kWriteSingleRegister) = true := by
      simpa using single
    simp only [function, if_true, length]
    by_cases eight : response.length = 8 <;> simp [eight]
  · simp only [registers]
    by_cases eight : response.length = 8 <;>
      simp [eight, length, kWriteMultipleRegisters, kWriteSingleCoil, kWriteSingleRegister]

end WriteShape

theorem buildWriteRequest_shape (config : ChannelConfig) (valueIndex : UInt8)
    (value : DecodedScalar) (capacity : Nat) (request : Bytes)
    (built : buildWriteRequest config valueIndex value capacity = .ok request) :
    WriteShape config valueIndex request := by
  obtain ⟨valid, index, writable, layout⟩ :=
    buildWriteRequest_cases config valueIndex value capacity request built
  rcases layout with ⟨-, state, -, -, rfl⟩ | ⟨register, wire, encoded, -, kind⟩
  · refine ⟨valid, index, writable, rfl, Or.inl ⟨Or.inl rfl, ?_⟩⟩
    simp [appendCrc, writeU16BE, writeU16]
  · have size := (decode_encodeRegisterValue config value wire writable register encoded).1
    rcases kind with ⟨one, rfl⟩ | ⟨more, rfl⟩
    · refine ⟨valid, index, writable, rfl, Or.inl ⟨Or.inr rfl, ?_⟩⟩
      rw [one] at size
      simp [appendCrc, writeU16BE, writeU16, size]
    · have words := (writable_register config.dataType writable register).2.2.2.2
      have two : 2 ≤ (registersPerValue config.dataType).toNat := by
        rcases words with words | words | words
        · exact absurd words more
        · rw [words]
          decide
        · rw [words]
          decide
      refine ⟨valid, index, writable, rfl, Or.inr ⟨rfl, ?_⟩⟩
      simp [appendCrc, writeU16BE, writeU16, size]
      omega

/-! The outcomes of the two checks. -/

theorem checkResponse_cases (config : ChannelConfig) (frame : Bytes) :
    (checkResponse config frame = .ok () ∧ 5 ≤ frame.length ∧ CrcCorrect frame ∧
        byteAt frame 0 = config.slaveId) ∨
      (¬ (5 ≤ frame.length ∧ CrcCorrect frame ∧ byteAt frame 0 = config.slaveId) ∧
        ∃ failure, checkResponse config frame = .error failure ∧ failure.status ≠ .ok ∧
          failure.status ≠ .exceptionResponse ∧ failure.exceptionCode = 0) := by
  unfold checkResponse
  split
  · rename_i short
    exact Or.inr ⟨by omega, _, rfl, by simp⟩
  · rename_i long
    split
    · rename_i damaged
      exact Or.inr ⟨fun right => bne_iff_ne.mp damaged right.2.1, _, rfl, by simp⟩
    · rename_i intact
      split
      · rename_i other
        exact Or.inr ⟨fun right => bne_iff_ne.mp other right.2.2, _, rfl, by simp⟩
      · rename_i same
        exact Or.inl ⟨rfl, by omega, by simpa [CrcCorrect] using intact, by simpa using same⟩

theorem checkFunction_cases (function : UInt8) (frame : Bytes)
    (plain : function ||| 0x80 ≠ function) :
    (checkFunction function frame = .ok () ∧ byteAt frame 1 = function) ∨
      (byteAt frame 1 = function ||| 0x80 ∧ frame.length = 5 ∧
        checkFunction function frame =
          .error { status := .exceptionResponse, exceptionCode := byteAt frame 2 }) ∨
      (byteAt frame 1 ≠ function ∧ ¬ (byteAt frame 1 = function ||| 0x80 ∧ frame.length = 5) ∧
        ∃ failure, checkFunction function frame = .error failure ∧ failure.status ≠ .ok ∧
          failure.status ≠ .exceptionResponse ∧ failure.exceptionCode = 0) := by
  by_cases marked : byteAt frame 1 = function ||| 0x80
  · by_cases five : frame.length = 5
    · right
      left
      simp [checkFunction, marked, five]
    · right
      right
      refine ⟨fun same => plain (marked ▸ same), fun right => five right.2,
        { status := .lengthMismatch }, ?_, ?_⟩
      · simp [checkFunction, marked, five]
      · simp
  · by_cases same : byteAt frame 1 = function
    · left
      exact ⟨checkFunction_same function frame same plain, same⟩
    · right
      right
      refine ⟨same, fun right => marked right.1, { status := .functionMismatch }, ?_, ?_⟩
      · simp [checkFunction, marked, same]
      · simp

/-! What the caller of the response checker is left with. -/

def statusOf (outcome : Except RtuFailure Unit) : RtuDecodeStatus :=
  match outcome with
  | .ok () => .ok
  | .error failure => failure.status

def exceptionCodeOf (outcome : Except RtuFailure Unit) : UInt8 :=
  match outcome with
  | .ok () => 0
  | .error failure => failure.exceptionCode

theorem Echoes.header {request response : Bytes} (echoes : Echoes request response) (k : Nat)
    (inside : k < 6) : byteAt response k = byteAt request k := by
  rw [← byteAt_take response 6 k inside, echoes.2.1, byteAt_take request 6 k inside]

namespace WriteShape

variable {config : ChannelConfig} {valueIndex : UInt8} {request : Bytes}

/-- An echo, an exception frame, or neither; the three exclude each other. -/
theorem decodeWriteResponse_cases (shape : WriteShape config valueIndex request)
    (response : Bytes) :
    (decodeWriteResponse config valueIndex request response = .ok () ∧
        Echoes request response ∧ ¬ Refuses request response) ∨
      (decodeWriteResponse config valueIndex request response =
          .error { status := .exceptionResponse, exceptionCode := byteAt response 2 } ∧
        ¬ Echoes request response ∧ Refuses request response) ∨
      (¬ Echoes request response ∧ ¬ Refuses request response ∧ ∃ failure,
        decodeWriteResponse config valueIndex request response = .error failure ∧
          failure.status ≠ .ok ∧ failure.status ≠ .exceptionResponse ∧
          failure.exceptionCode = 0) := by
  rw [shape.decodeWriteResponse_eq response]
  rcases checkResponse_cases config response with
    ⟨passed, long, intact, same⟩ | ⟨failed, failure, checked, plainly⟩
  · rw [passed]
    rcases checkFunction_cases (byteAt request 1) response shape.plain with
      ⟨passed, function⟩ | ⟨marked, five, refused⟩ | ⟨other, unmarked, failure, checked, plainly⟩
    · have notRefused : ¬ Refuses request response := by
        rintro ⟨-, -, -, marked⟩
        exact shape.plain (marked.symm.trans function)
      rw [passed]
      by_cases echoed : response.length = 8 ∧ response.take 6 = request.take 6
      · left
        exact ⟨if_pos echoed, ⟨echoed.1, echoed.2, intact⟩, notRefused⟩
      · right
        right
        refine ⟨fun echoes => echoed ⟨echoes.1, echoes.2.1⟩, notRefused,
          { status := .lengthMismatch }, if_neg echoed, ?_⟩
        simp
    · right
      left
      rw [refused]
      refine ⟨rfl, fun echoes => ?_, five, intact, same.trans shape.slave.symm, marked⟩
      have eight := echoes.1
      omega
    · right
      right
      rw [checked]
      refine ⟨fun echoes => other (echoes.header 1 (by omega)),
        fun refuses => unmarked ⟨refuses.2.2.2, refuses.1⟩, failure, rfl, plainly⟩
  · right
    right
    rw [checked]
    refine ⟨fun echoes => failed ⟨by have := echoes.1; omega, echoes.2.2,
        (echoes.header 0 (by omega)).trans shape.slave⟩,
      fun refuses => failed ⟨by have := refuses.1; omega, refuses.2.1,
        refuses.2.2.1.trans shape.slave⟩, failure, rfl, plainly⟩

end WriteShape

/-- The slave, the function, the address, or the value or register count is another one. -/
def AnswersOther (request response : Bytes) : Prop :=
  byteAt response 0 ≠ byteAt request 0 ∨ byteAt response 1 ≠ byteAt request 1 ∨
    readU16BE response 2 ≠ readU16BE request 2 ∨ readU16BE response 4 ≠ readU16BE request 4

theorem Echoes.answers {request response : Bytes} (echoes : Echoes request response) :
    ¬ AnswersOther request response := by
  rintro (slave | function | address | count)
  · exact slave (echoes.header 0 (by omega))
  · exact function (echoes.header 1 (by omega))
  · apply address
    rw [readU16BE, echoes.header 2 (by omega), echoes.header 3 (by omega), readU16BE]
  · apply count
    rw [readU16BE, echoes.header 4 (by omega), echoes.header 5 (by omega), readU16BE]

/-- A write is confirmed by its own echo and by nothing else, for every built request and every
answer of any length, and the master counts accordingly. -/
theorem write_confirmed_by_echo (config : ChannelConfig) (valueIndex : UInt8)
    (value : DecodedScalar) (capacity : Nat) (request response : Bytes)
    (built : buildWriteRequest config valueIndex value capacity = .ok request) :
    (statusOf (decodeWriteResponse config valueIndex request response) = .ok ↔
        Echoes request response) ∧
      (statusOf (decodeWriteResponse config valueIndex request response) =
          .exceptionResponse ↔ Refuses request response) ∧
      (Refuses request response →
        exceptionCodeOf (decodeWriteResponse config valueIndex request response) =
          byteAt response 2) ∧
      (¬ Refuses request response →
        exceptionCodeOf (decodeWriteResponse config valueIndex request response) = 0) ∧
      ∀ m : ModbusRtuMaster, m.activeChannel = config → m.activeValueIndex = valueIndex →
        m.activeRequest = request → m.response = response →
        (m.finishWriteDecode.result = .success ↔ Echoes request response) ∧
          (AnswersOther request response → m.finishWriteDecode.result = .failure ∧
            m.finishWriteDecode.master.successfulTransactions = m.successfulTransactions) := by
  have shape := buildWriteRequest_shape config valueIndex value capacity request built
  rcases shape.decodeWriteResponse_cases response with
    ⟨decoded, echoes, unrefused⟩ | ⟨decoded, unechoed, refuses⟩ |
      ⟨unechoed, unrefused, failure, decoded, notOk, notException, code⟩
  · rw [decoded]
    refine ⟨by simp [statusOf, echoes], by simp [statusOf, unrefused], fun refuses =>
      absurd refuses unrefused, fun _ => rfl, ?_⟩
    rintro m rfl rfl rfl rfl
    have finished : m.finishWriteDecode =
        ⟨{ m with lastExceptionCode := 0 }.finishSuccess, .success, ()⟩ := by
      rw [finishWriteDecode, decoded]
    rw [finished]
    exact ⟨by simp [echoes], fun other => absurd other echoes.answers⟩
  · rw [decoded]
    refine ⟨by simp [statusOf, unechoed], by simp [statusOf, refuses], fun _ => rfl,
      fun unrefused => absurd refuses unrefused, ?_⟩
    rintro m rfl rfl rfl rfl
    rw [finishWriteDecode, decoded]
    exact ⟨by simp [unechoed], fun _ => ⟨rfl, rfl⟩⟩
  · rw [decoded]
    refine ⟨by simp [statusOf, unechoed, notOk], by simp [statusOf, unrefused, notException],
      fun refuses => absurd refuses unrefused, fun _ => code, ?_⟩
    rintro m rfl rfl rfl rfl
    rw [finishWriteDecode, decoded]
    exact ⟨by simp [unechoed], fun _ => ⟨rfl, rfl⟩⟩

/-- The second of the signed set points is written, and the slave sends its echo. -/
theorem write_confirmed_setPoint :
    statusOf (decodeWriteResponse setPointChannel 1
      (appendCrc [17, 0x10, 0x01, 0x22, 0x00, 0x02, 0x04, 0xff, 0xfe, 0xff, 0xff])
      (appendCrc [17, 0x10, 0x01, 0x22, 0x00, 0x02])) = .ok :=
  have built : buildWriteRequest setPointChannel 1 (.signedInteger (-2)) 17 =
      .ok (appendCrc [17, 0x10, 0x01, 0x22, 0x00, 0x02, 0x04, 0xff, 0xfe, 0xff, 0xff]) := rfl
  have echoes : Echoes (appendCrc [17, 0x10, 0x01, 0x22, 0x00, 0x02, 0x04, 0xff, 0xfe, 0xff, 0xff])
      (appendCrc [17, 0x10, 0x01, 0x22, 0x00, 0x02]) :=
    ⟨rfl, by simp [appendCrc], crcCorrect_appendCrc _⟩
  (write_confirmed_by_echo setPointChannel 1 (.signedInteger (-2)) 17 _ _ built).1.mpr echoes

end Modbus
