import Mathlib.Data.Nat.Bitwise
import MultibusGateway.Modbus.RegisterValue

/-! A conformant slave with coils and holding registers, and the round trip of a
written value: the slave executes the built write request, and its answer to the
channel's read request decodes to the same value. -/

namespace Modbus
open ByteString WireDataType

def wordsOf : Bytes → List UInt16
  | a :: b :: rest => readU16BE [a, b] 0 :: wordsOf rest
  | _ => []

def bytesOf (words : List UInt16) : Bytes := words.flatMap writeU16BE

structure Slave where
  coils : Nat → Bool
  holding : Nat → UInt16

namespace Slave

def writeCoil (s : Slave) (address : Nat) (value : Bool) : Slave :=
  { s with coils := Function.update s.coils address value }

def writeRegisters (s : Slave) (address : Nat) (words : List UInt16) : Slave :=
  { s with holding := fun a =>
      if address ≤ a then words.getD (a - address) (s.holding a) else s.holding a }

def registers (s : Slave) (address count : Nat) : List UInt16 :=
  (List.range count).map fun i => s.holding (address + i)

def coilBytes (s : Slave) (address count : Nat) : Bytes :=
  (List.range ((count + 7) / 8)).map fun j =>
    UInt8.ofNat (Nat.ofBits fun i : Fin 8 =>
      decide (8 * j + i < count) && s.coils (address + (8 * j + i)))

/-- Execution of a request body; the result follows the function code, and an error
is an exception code. -/
def perform (s : Slave) (body : Bytes) : Except UInt8 (Slave × Bytes) :=
  let function := byteAt body 1
  let address := (readU16BE body 2).toNat
  let quantity := (readU16BE body 4).toNat
  if function == kReadCoils then
    if body.length != 6 || quantity == 0 || quantity > 2000 then .error 3
    else if address + quantity > 0x10000 then .error 2
    else
      let data := s.coilBytes address quantity
      .ok (s, UInt8.ofNat data.length :: data)
  else if function == kReadHoldingRegisters then
    if body.length != 6 || quantity == 0 || quantity > 125 then .error 3
    else if address + quantity > 0x10000 then .error 2
    else
      let data := bytesOf (s.registers address quantity)
      .ok (s, UInt8.ofNat data.length :: data)
  else if function == kWriteSingleCoil then
    if body.length != 6 || (quantity != 0xff00 && quantity != 0) then .error 3
    else .ok (s.writeCoil address (quantity == 0xff00), body.drop 2)
  else if function == kWriteSingleRegister then
    if body.length != 6 then .error 3
    else .ok (s.writeRegisters address [readU16BE body 4], body.drop 2)
  else if function == kWriteMultipleRegisters then
    if body.length != 7 + 2 * quantity || quantity == 0 || quantity > 123 ||
        (byteAt body 6).toNat != 2 * quantity then .error 3
    else if address + quantity > 0x10000 then .error 2
    else .ok (s.writeRegisters address (wordsOf (body.drop 7)), (body.drop 2).take 4)
  else .error 1

/-- A slave ignores frames that are damaged or addressed to another slave. -/
def serve (slaveId : UInt8) (s : Slave) (request : Bytes) : Slave × Option Bytes :=
  let body := request.take (request.length - 2)
  if request.length < 4 || crc16 body != readU16 request (request.length - 2) ||
      byteAt body 0 != slaveId then (s, none)
  else match s.perform body with
    | .ok (s', result) => (s', some (appendCrc (slaveId :: byteAt body 1 :: result)))
    | .error code => (s, some (appendCrc [slaveId, byteAt body 1 ||| 0x80, code]))

end Slave

/-- What the gateway decodes from the slave's answer to a read request. -/
def readBack (config : ChannelConfig) (s : Slave) (readRequest : Bytes) :
    Except RtuFailure (List DecodedScalar) :=
  match (s.serve config.slaveId readRequest).2 with
  | some answer => decodeReadResponse config answer
  | none => .error { status := .truncated }

theorem serve_appendCrc (slaveId : UInt8) (s : Slave) (body : Bytes) (size : 2 ≤ body.length)
    (slave : byteAt body 0 = slaveId) (s' : Slave) (result : Bytes)
    (executed : s.perform body = .ok (s', result)) :
    s.serve slaveId (appendCrc body) =
      (s', some (appendCrc (slaveId :: byteAt body 1 :: result))) := by
  have length : (appendCrc body).length = body.length + 2 := by
    simp [appendCrc]
  have front : (appendCrc body).take body.length = body := by
    simp [appendCrc]
  simp only [Slave.serve, length, Nat.add_sub_cancel, front, crc16_trailer, slave, executed]
  simp
  omega

/-! Registers and their bytes. -/

theorem bytesOf_wordsOf (p : Bytes) (n : Nat) (even : p.length = 2 * n) :
    bytesOf (wordsOf p) = p := by
  induction n generalizing p with
  | zero =>
    rw [List.length_eq_zero_iff.mp even]
    rfl
  | succ n ih =>
    match p, even with
    | a :: b :: rest, even =>
      have tail : bytesOf (wordsOf rest) = rest := ih rest (by simp at even; omega)
      simp only [wordsOf, bytesOf, List.flatMap_cons, writeU16BE_readU16BE] at tail ⊢
      rw [tail]
      rfl

theorem wordsOf_length (p : Bytes) (n : Nat) (even : p.length = 2 * n) :
    (wordsOf p).length = n := by
  induction n generalizing p with
  | zero =>
    rw [List.length_eq_zero_iff.mp even]
    rfl
  | succ n ih =>
    match p, even with
    | a :: b :: rest, even =>
      rw [wordsOf, List.length_cons, ih rest (by simp at even; omega)]

theorem bytesOf_length (words : List UInt16) : (bytesOf words).length = 2 * words.length := by
  induction words with
  | nil => rfl
  | cons word words ih =>
    simp only [bytesOf, List.flatMap_cons, List.length_append, writeU16BE_length,
      List.length_cons] at ih ⊢
    omega

theorem bytesOf_append (u v : List UInt16) : bytesOf (u ++ v) = bytesOf u ++ bytesOf v := by
  simp [bytesOf]

theorem registers_length (s : Slave) (address count : Nat) :
    (s.registers address count).length = count := by
  simp [Slave.registers]

theorem registers_add (s : Slave) (address m n : Nat) :
    s.registers address (m + n) = s.registers address m ++ s.registers (address + m) n := by
  simp [Slave.registers, List.range_add, Nat.add_assoc]

theorem registers_slice (s : Slave) (address width count i : Nat) (h : i < count) :
    ((bytesOf (s.registers address (width * count))).drop (i * (width * 2))).take (width * 2) =
      bytesOf (s.registers (address + i * width) width) := by
  have split : width * count = i * width + (width + (count - 1 - i) * width) := by
    rw [← Nat.add_assoc, ← Nat.succ_mul, ← Nat.add_mul, Nat.mul_comm]
    congr 1
    omega
  have front : (bytesOf (s.registers address (i * width))).length = i * (width * 2) := by
    rw [bytesOf_length, registers_length]
    ring
  have middle : (bytesOf (s.registers (address + i * width) width)).length = width * 2 := by
    rw [bytesOf_length, registers_length]
    ring
  rw [split, registers_add, registers_add, bytesOf_append, bytesOf_append,
    List.drop_left' front, List.take_left' middle]

theorem registers_written (s : Slave) (address : Nat) (words : List UInt16) :
    (s.writeRegisters address words).registers address words.length = words := by
  apply List.ext_getElem
  · simp [Slave.registers]
  · intro i _ hi
    simp [Slave.registers, Slave.writeRegisters, hi]

theorem registers_apart (s : Slave) (address other : Nat) (words : List UInt16) (count : Nat)
    (apart : other + count ≤ address ∨ address + words.length ≤ other) :
    (s.writeRegisters address words).registers other count = s.registers other count := by
  apply List.map_congr_left
  intro i hi
  have small := List.mem_range.mp hi
  simp only [Slave.writeRegisters]
  split
  · rw [List.getD_eq_default]
    omega
  · rfl

/-! The answer to a read. -/

def reading (config : ChannelConfig) (s : Slave) (index : Nat) : DecodedScalar :=
  if config.dataType = coil then .boolean (s.coils (config.address.toNat + index))
  else
    let words := (registersPerValue config.dataType).toNat
    (decodeRegisterValue config
      (bytesOf (s.registers (config.address.toNat + index * words) words))).getD default

theorem mapM_some (f : Nat → Option DecodedScalar) (g : Nat → DecodedScalar) (l : List Nat)
    (each : ∀ i ∈ l, f i = some (g i)) : l.mapM f = some (l.map g) := by
  induction l with
  | nil => rfl
  | cons i l ih =>
    have rest := ih fun k hk => each k (List.mem_cons_of_mem i hk)
    rw [List.mapM_cons, each i List.mem_cons_self, rest]
    rfl

theorem decodeReadResponse_frame (config : ChannelConfig) (data : Bytes)
    (value : Nat → DecodedScalar) (valid : validChannelConfig config = true)
    (plain : functionCode config.dataType ||| 0x80 ≠ functionCode config.dataType)
    (length : data.length = expectedDataBytes config) (short : data.length < 256)
    (each : ∀ rest, ∀ i < config.quantity.toNat,
      decodeIndex config (data ++ rest) i = some (value i)) :
    decodeReadResponse config (appendCrc (config.slaveId :: functionCode config.dataType ::
        UInt8.ofNat data.length :: data)) =
      .ok ((List.range config.quantity.toNat).map value) := by
  have checked := checkResponse_appendCrc config (config.slaveId ::
    functionCode config.dataType :: UInt8.ofNat data.length :: data) (by simp) rfl
  have named := checkFunction_same (functionCode config.dataType) (appendCrc (config.slaveId ::
    functionCode config.dataType :: UInt8.ofNat data.length :: data)) rfl plain
  have values := mapM_some _ value (List.range config.quantity.toNat) fun i hi =>
    each (writeU16 (crc16 (config.slaveId :: functionCode config.dataType ::
      UInt8.ofNat data.length :: data))) i (List.mem_range.mp hi)
  simp only [decodeReadResponse, valid, Bool.not_true, Bool.false_eq_true, if_false, checked,
    named, ← length]
  simp only [appendCrc, List.cons_append, byteAt_cons_succ, byteAt_cons_zero, List.drop_succ_cons,
    List.drop_zero, values, List.length_cons, List.length_append, writeU16_length]
  have header : (UInt8.ofNat data.length).toNat = data.length := by
    rw [UInt8.toNat_ofNat', Nat.mod_eq_of_lt short]
  simp [header]
  rfl

theorem readQuantity_toNat (config : ChannelConfig) (valid : validChannelConfig config = true) :
    (readQuantity config).toNat =
      if isBooleanType config.dataType then config.quantity.toNat
      else (registersPerValue config.dataType).toNat * config.quantity.toNat := by
  have ⟨_, _, _, _, most⟩ := (validChannelConfig_iff config).mp valid
  have words : (registersPerValue config.dataType).toNat ≤ 4 := by
    cases config.dataType <;> decide
  simp only [readQuantity, valid, Bool.not_true, Bool.false_eq_true, if_false]
  split
  · simp
  · split
    · rename_i zero
      rw [beq_iff_eq.mp zero]
      simp
    · have product : (registersPerValue config.dataType).toNat * config.quantity.toNat ≤ 4 * 2 :=
        Nat.mul_le_mul words most
      rw [UInt16.toNat_mul, UInt8.toNat_toUInt16, UInt8.toNat_toUInt16, Nat.mod_eq_of_lt]
      omega

theorem coilBytes_bit (s : Slave) (address count i : Nat) (rest : Bytes) (h : i < count) :
    ((byteAt (s.coilBytes address count ++ rest) (i / 8) >>> UInt8.ofNat (i % 8)) &&& 0x01 != 0) =
      s.coils (address + i) := by
  have inside : i / 8 < (count + 7) / 8 := by omega
  have position : 8 * (i / 8) + i % 8 = i := Nat.div_add_mod i 8
  have byte : byteAt (s.coilBytes address count ++ rest) (i / 8) =
      UInt8.ofNat (Nat.ofBits fun k : Fin 8 =>
        decide (8 * (i / 8) + k < count) && s.coils (address + (8 * (i / 8) + k))) := by
    rw [byteAt_append_left _ _ _ (by simpa [Slave.coilBytes] using inside)]
    simp [byteAt, Slave.coilBytes, inside]
  have bit := Nat.testBit_ofBits_lt (fun k : Fin 8 =>
    decide (8 * (i / 8) + k < count) && s.coils (address + (8 * (i / 8) + k))) (i % 8)
      (Nat.mod_lt i (by omega))
  simp only [position, h, decide_true, Bool.true_and] at bit
  rw [byte, ← bit]
  exact bit_ofNat _ _ (Nat.mod_lt i (by omega))

theorem perform_readCoils (s : Slave) (slaveId : UInt8) (address quantity : UInt16)
    (some : quantity ≠ 0) (most : quantity.toNat ≤ 2000)
    (range : address.toNat + quantity.toNat ≤ 0x10000) :
    s.perform ([slaveId, kReadCoils] ++ writeU16BE address ++ writeU16BE quantity) =
      .ok (s, UInt8.ofNat (s.coilBytes address.toNat quantity.toNat).length ::
        s.coilBytes address.toNat quantity.toNat) := by
  have hn : quantity.toNat ≠ 0 := fun zero => some (UInt16.toNat_inj.mp zero)
  have ha : readU16BE ([slaveId, kReadCoils] ++ writeU16BE address ++ writeU16BE quantity) 2 =
      address := readU16BE_writeU16BE address
  have hq : readU16BE ([slaveId, kReadCoils] ++ writeU16BE address ++ writeU16BE quantity) 4 =
      quantity := readU16BE_writeU16BE quantity
  simp only [Slave.perform, ha, hq]
  simp [kReadCoils, hn, Nat.not_lt.mpr most, Nat.not_lt.mpr range]

theorem perform_readHolding (s : Slave) (slaveId : UInt8) (address quantity : UInt16)
    (some : quantity ≠ 0) (most : quantity.toNat ≤ 125)
    (range : address.toNat + quantity.toNat ≤ 0x10000) :
    s.perform ([slaveId, kReadHoldingRegisters] ++ writeU16BE address ++ writeU16BE quantity) =
      .ok (s, UInt8.ofNat (bytesOf (s.registers address.toNat quantity.toNat)).length ::
        bytesOf (s.registers address.toNat quantity.toNat)) := by
  have hn : quantity.toNat ≠ 0 := fun zero => some (UInt16.toNat_inj.mp zero)
  have ha : readU16BE ([slaveId, kReadHoldingRegisters] ++ writeU16BE address ++
      writeU16BE quantity) 2 = address := readU16BE_writeU16BE address
  have hq : readU16BE ([slaveId, kReadHoldingRegisters] ++ writeU16BE address ++
      writeU16BE quantity) 4 = quantity := readU16BE_writeU16BE quantity
  simp only [Slave.perform, ha, hq]
  simp [kReadHoldingRegisters, kReadCoils, hn, Nat.not_lt.mpr most, Nat.not_lt.mpr range]

theorem readBack_data (config : ChannelConfig) (s : Slave) (capacity : Nat)
    (readRequest data : Bytes) (value : Nat → DecodedScalar)
    (reads : buildReadRequest config capacity = .ok readRequest)
    (executed : s.perform ([config.slaveId, functionCode config.dataType] ++
      writeU16BE config.address ++ writeU16BE (readQuantity config)) =
        .ok (s, UInt8.ofNat data.length :: data))
    (plain : functionCode config.dataType ||| 0x80 ≠ functionCode config.dataType)
    (length : data.length = expectedDataBytes config) (short : data.length < 256)
    (each : ∀ rest, ∀ i < config.quantity.toNat,
      decodeIndex config (data ++ rest) i = some (value i)) :
    readBack config s readRequest = .ok ((List.range config.quantity.toNat).map value) := by
  obtain ⟨valid, -, -, rfl⟩ := buildReadRequest_cases config capacity readRequest reads
  have served := serve_appendCrc config.slaveId s _ (by simp) rfl s _ executed
  rw [readBack, served]
  exact decodeReadResponse_frame config data value valid plain length short each

theorem readBack_eq (config : ChannelConfig) (s : Slave) (capacity : Nat) (readRequest : Bytes)
    (writable : writableType config.dataType = true)
    (reads : buildReadRequest config capacity = .ok readRequest) :
    readBack config s readRequest =
      .ok ((List.range config.quantity.toNat).map (reading config s)) := by
  obtain ⟨valid, nonzero, range, -⟩ := buildReadRequest_cases config capacity readRequest reads
  have ⟨_, _, _, least, most⟩ := (validChannelConfig_iff config).mp valid
  have quantity := readQuantity_toNat config valid
  by_cases boolean : config.dataType = coil
  · have bits : isBooleanType config.dataType = true := by
      rw [boolean]
      rfl
    rw [bits, if_pos rfl] at quantity
    have length : (s.coilBytes config.address.toNat (readQuantity config).toNat).length =
        expectedDataBytes config := by
      simp [Slave.coilBytes, expectedDataBytes, bits]
    apply readBack_data config s capacity _ _ _ reads
      (boolean ▸ perform_readCoils s config.slaveId config.address _ nonzero (by omega) range)
      (by rw [boolean]; decide) length
    · simp only [Slave.coilBytes, List.length_map, List.length_range]
      omega
    · intro rest i hi
      rw [decodeIndex, bits, if_pos rfl, coilBytes_bit s _ _ i rest (by omega), reading,
        if_pos boolean]
  · obtain ⟨function, bits, -, width, words⟩ := writable_register _ writable boolean
    rw [bits] at quantity
    simp only [Bool.false_eq_true, if_false] at quantity
    have few : (readQuantity config).toNat ≤ 4 * 2 := by
      rw [quantity]
      apply Nat.mul_le_mul _ most
      rcases words with words | words | words <;> rw [words] <;> decide
    have size : (bytesOf (s.registers config.address.toNat (readQuantity config).toNat)).length =
        2 * (readQuantity config).toNat := by
      rw [bytesOf_length, registers_length]
    apply readBack_data config s capacity _ _ _ reads
      (function ▸ perform_readHolding s config.slaveId config.address _ nonzero (by omega) range)
      (by rw [function]; decide) (by rw [size]; simp [expectedDataBytes, bits, Nat.mul_comm])
    · omega
    · intro rest i hi
      have inside : i * ((registersPerValue config.dataType).toNat * 2) +
          (registersPerValue config.dataType).toNat * 2 ≤ 2 * (readQuantity config).toNat := by
        rw [quantity, ← Nat.succ_mul]
        calc
          (i + 1) * ((registersPerValue config.dataType).toNat * 2)
            ≤ config.quantity.toNat * ((registersPerValue config.dataType).toNat * 2) :=
              Nat.mul_le_mul_right _ hi
          _ = _ := by ring
      have slice := registers_slice s config.address.toNat
        (registersPerValue config.dataType).toNat config.quantity.toNat i hi
      obtain ⟨back, decoded⟩ := decodeRegisterValue_total config
        (bytesOf (s.registers (config.address.toNat +
          i * (registersPerValue config.dataType).toNat)
          (registersPerValue config.dataType).toNat)) writable boolean (by
            rw [bytesOf_length, registers_length, Nat.mul_comm])
      rw [← quantity] at slice
      simp only [decodeIndex, bits, Bool.false_eq_true, if_false, reading, if_neg boolean, decoded,
        Option.getD_some]
      rw [List.drop_append_of_le_length (by omega), List.take_append_of_le_length (by
        rw [List.length_drop]; omega), slice, decoded]

/-! The effect of a write. -/

/-- What a built write request guarantees, and how it is laid out. -/
theorem buildWriteRequest_cases (config : ChannelConfig) (valueIndex : UInt8)
    (value : DecodedScalar) (capacity : Nat) (request : Bytes)
    (built : buildWriteRequest config valueIndex value capacity = .ok request) :
    validChannelConfig config = true ∧ valueIndex.toNat < config.quantity.toNat ∧
      writableType config.dataType = true ∧
      ((config.dataType = coil ∧ ∃ state, value = .boolean state ∧
          config.address.toNat + valueIndex.toNat ≤ 0xffff ∧
          request = appendCrc ([config.slaveId, kWriteSingleCoil] ++
            writeU16BE (UInt16.ofNat (config.address.toNat + valueIndex.toNat)) ++
            [if state then 0xff else 0x00, 0x00])) ∨
        (config.dataType ≠ coil ∧ ∃ wire, encodeRegisterValue config value = some wire ∧
          config.address.toNat + valueIndex.toNat * (registersPerValue config.dataType).toNat +
            (registersPerValue config.dataType).toNat ≤ 0x10000 ∧
          ((registersPerValue config.dataType = 1 ∧
              request = appendCrc ([config.slaveId, kWriteSingleRegister] ++
                writeU16BE (UInt16.ofNat (config.address.toNat +
                  valueIndex.toNat * (registersPerValue config.dataType).toNat)) ++ wire)) ∨
            (registersPerValue config.dataType ≠ 1 ∧
              request = appendCrc ([config.slaveId, kWriteMultipleRegisters] ++
                writeU16BE (UInt16.ofNat (config.address.toNat +
                  valueIndex.toNat * (registersPerValue config.dataType).toNat)) ++
                [0x00, registersPerValue config.dataType, UInt8.ofNat wire.length] ++
                wire))))) := by
  simp only [buildWriteRequest] at built
  split at built
  · cases built
  · rename_i checks
    simp only [Bool.or_eq_true, decide_eq_true_eq, Bool.not_eq_true', not_or, ge_iff_le,
      UInt8.not_le, UInt8.lt_iff_toNat_lt, Bool.not_eq_false] at checks
    obtain ⟨⟨valid, index⟩, writable⟩ := checks
    refine ⟨valid, index, writable, ?_⟩
    split at built
    · rename_i boolean
      left
      refine ⟨beq_iff_eq.mp boolean, ?_⟩
      split at built
      · rename_i state
        split at built
        · cases built
        · split at built
          · cases built
          · rename_i range
            exact ⟨state, rfl, by omega, (Except.ok.inj built).symm⟩
      · cases built
    · rename_i boolean
      right
      refine ⟨by simpa using boolean, ?_⟩
      split at built
      · cases built
      · split at built
        · cases built
        · rename_i range
          split at built
          · cases built
          · rename_i wire encoded
            refine ⟨wire, encoded, by omega, ?_⟩
            split at built
            · rename_i one
              split at built
              · cases built
              · exact Or.inl ⟨beq_iff_eq.mp one, (Except.ok.inj built).symm⟩
            · rename_i more
              split at built
              · cases built
              · exact Or.inr ⟨by simpa using more, (Except.ok.inj built).symm⟩

theorem perform_writeCoil (s : Slave) (slaveId : UInt8) (address : UInt16) (state : Bool) :
    ∃ echo, s.perform ([slaveId, kWriteSingleCoil] ++ writeU16BE address ++
        [if state then 0xff else 0x00, 0x00]) =
      .ok (s.writeCoil address.toNat state, echo) := by
  have ha : readU16BE ([slaveId, kWriteSingleCoil] ++ writeU16BE address ++
      [if state then 0xff else 0x00, 0x00]) 2 = address := readU16BE_writeU16BE address
  have hq : (readU16BE ([slaveId, kWriteSingleCoil] ++ writeU16BE address ++
      [if state then 0xff else 0x00, 0x00]) 4).toNat = if state then 0xff00 else 0 := by
    change (readU16BE [if state then 0xff else 0x00, 0x00] 0).toNat = _
    cases state <;> decide
  simp only [Slave.perform, ha, hq]
  cases state <;>
    simp [kWriteSingleCoil, kReadCoils, kReadHoldingRegisters]

theorem perform_writeRegister (s : Slave) (slaveId : UInt8) (address : UInt16) (wire : Bytes)
    (two : wire.length = 2) :
    ∃ echo, s.perform ([slaveId, kWriteSingleRegister] ++ writeU16BE address ++ wire) =
      .ok (s.writeRegisters address.toNat (wordsOf wire), echo) := by
  obtain ⟨a, b, rfl⟩ := List.length_eq_two.mp two
  have ha : readU16BE ([slaveId, kWriteSingleRegister] ++ writeU16BE address ++ [a, b]) 2 =
      address := readU16BE_writeU16BE address
  have hv : readU16BE ([slaveId, kWriteSingleRegister] ++ writeU16BE address ++ [a, b]) 4 =
      readU16BE [a, b] 0 := rfl
  simp only [Slave.perform, ha, hv]
  simp [kWriteSingleRegister, kWriteSingleCoil, kReadCoils, kReadHoldingRegisters, wordsOf]

theorem perform_writeRegisters (s : Slave) (slaveId : UInt8) (address : UInt16)
    (words : UInt8) (wire : Bytes) (length : wire.length = 2 * words.toNat)
    (some : 0 < words.toNat) (most : words.toNat ≤ 123)
    (range : address.toNat + words.toNat ≤ 0x10000) :
    ∃ echo, s.perform ([slaveId, kWriteMultipleRegisters] ++ writeU16BE address ++
        [0x00, words, UInt8.ofNat wire.length] ++ wire) =
      .ok (s.writeRegisters address.toNat (wordsOf wire), echo) := by
  have ha : readU16BE ([slaveId, kWriteMultipleRegisters] ++ writeU16BE address ++
      [0x00, words, UInt8.ofNat wire.length] ++ wire) 2 = address :=
    readU16BE_writeU16BE address
  have hq : (readU16BE ([slaveId, kWriteMultipleRegisters] ++ writeU16BE address ++
      [0x00, words, UInt8.ofNat wire.length] ++ wire) 4).toNat = words.toNat := by
    have high : readU16BE ([slaveId, kWriteMultipleRegisters] ++ writeU16BE address ++
        [0x00, words, UInt8.ofNat wire.length] ++ wire) 4 = readU16 [words, 0] 0 :=
      readU16BE_reverse 0 words
    rw [high, readU16_toNat]
    simp
  have size : (UInt8.ofNat wire.length).toNat = 2 * words.toNat := by
    rw [UInt8.toNat_ofNat', length, Nat.mod_eq_of_lt (by omega)]
  have body : ([slaveId, kWriteMultipleRegisters] ++ writeU16BE address ++
      [0x00, words, UInt8.ofNat wire.length] ++ wire).length = 7 + 2 * words.toNat := by
    simp [length]
    omega
  have bytes : byteAt ([slaveId, kWriteMultipleRegisters] ++ writeU16BE address ++
      [0x00, words, UInt8.ofNat wire.length] ++ wire) 6 = UInt8.ofNat wire.length := rfl
  have data : ([slaveId, kWriteMultipleRegisters] ++ writeU16BE address ++
      [0x00, words, UInt8.ofNat wire.length] ++ wire).drop 7 = wire := rfl
  have function : byteAt ([slaveId, kWriteMultipleRegisters] ++ writeU16BE address ++
      [0x00, words, UInt8.ofNat wire.length] ++ wire) 1 = kWriteMultipleRegisters := rfl
  simp only [Slave.perform, ha, hq, body, bytes, size, data, function]
  simp [kWriteMultipleRegisters, kWriteSingleRegister, kWriteSingleCoil, kReadCoils,
    kReadHoldingRegisters, Nat.not_lt.mpr most, Nat.not_lt.mpr range, Nat.pos_iff_ne_zero.mp some]

theorem serve_write (config : ChannelConfig) (valueIndex : UInt8) (value : DecodedScalar)
    (capacity : Nat) (request : Bytes) (s : Slave)
    (built : buildWriteRequest config valueIndex value capacity = .ok request) :
    (config.dataType = coil ∧ ∃ state, value = .boolean state ∧
        (s.serve config.slaveId request).1 =
          s.writeCoil (config.address.toNat + valueIndex.toNat) state) ∨
      (config.dataType ≠ coil ∧ ∃ wire, encodeRegisterValue config value = some wire ∧
        (s.serve config.slaveId request).1 =
          s.writeRegisters (config.address.toNat +
            valueIndex.toNat * (registersPerValue config.dataType).toNat) (wordsOf wire)) := by
  obtain ⟨-, -, writable, ⟨boolean, state, kind, range, rfl⟩ | ⟨boolean, wire, encoded, range, frame⟩⟩ :=
    buildWriteRequest_cases config valueIndex value capacity request built
  · left
    obtain ⟨echo, executed⟩ := perform_writeCoil s config.slaveId
      (UInt16.ofNat (config.address.toNat + valueIndex.toNat)) state
    refine ⟨boolean, state, kind, ?_⟩
    rw [serve_appendCrc config.slaveId s _ (by simp) rfl _ echo executed,
      UInt16.toNat_ofNat', Nat.mod_eq_of_lt (by omega)]
  · right
    obtain ⟨-, -, -, -, words⟩ := writable_register _ writable boolean
    obtain ⟨length, -⟩ := decode_encodeRegisterValue config value wire writable boolean encoded
    refine ⟨boolean, wire, encoded, ?_⟩
    have positive : 0 < (registersPerValue config.dataType).toNat ∧
        (registersPerValue config.dataType).toNat ≤ 4 := by
      rcases words with words | words | words <;> rw [words] <;> decide
    have start : (UInt16.ofNat (config.address.toNat +
        valueIndex.toNat * (registersPerValue config.dataType).toNat)).toNat =
        config.address.toNat + valueIndex.toNat * (registersPerValue config.dataType).toNat := by
      rw [UInt16.toNat_ofNat', Nat.mod_eq_of_lt (by omega)]
    rcases frame with ⟨one, rfl⟩ | ⟨-, rfl⟩
    · obtain ⟨echo, executed⟩ := perform_writeRegister s config.slaveId
        (UInt16.ofNat (config.address.toNat +
          valueIndex.toNat * (registersPerValue config.dataType).toNat)) wire
        (by rw [length, one]; rfl)
      rw [serve_appendCrc config.slaveId s _ (by simp) rfl _ echo executed, start]
    · obtain ⟨echo, executed⟩ := perform_writeRegisters s config.slaveId
        (UInt16.ofNat (config.address.toNat +
          valueIndex.toNat * (registersPerValue config.dataType).toNat))
        (registersPerValue config.dataType) wire (by omega) positive.1 (by omega)
        (by rw [start]; exact range)
      rw [serve_appendCrc config.slaveId s _ (by simp) rfl _ echo executed, start]

/-- After the write the written index shows the value and the others are unchanged. -/
theorem reading_written (config : ChannelConfig) (valueIndex : UInt8) (value : DecodedScalar)
    (capacity : Nat) (request : Bytes) (s : Slave)
    (built : buildWriteRequest config valueIndex value capacity = .ok request) :
    SameValue config.dataType value
        (reading config (s.serve config.slaveId request).1 valueIndex.toNat) ∧
      ∀ other, other ≠ valueIndex.toNat →
        reading config (s.serve config.slaveId request).1 other = reading config s other := by
  obtain ⟨-, -, writable, -⟩ := buildWriteRequest_cases config valueIndex value capacity request built
  rcases serve_write config valueIndex value capacity request s built with
    ⟨boolean, state, rfl, memory⟩ | ⟨boolean, wire, encoded, memory⟩
  · rw [memory]
    constructor
    · have integer : isFloatingPointType coil = false := rfl
      simp [SameValue, reading, boolean, Slave.writeCoil, integer]
    · intro other apart
      simp [reading, boolean, Slave.writeCoil, apart]
  · obtain ⟨length, back, decoded, same⟩ :=
      decode_encodeRegisterValue config value wire writable boolean encoded
    have words : (wordsOf wire).length = (registersPerValue config.dataType).toNat :=
      wordsOf_length wire (registersPerValue config.dataType).toNat (by omega)
    rw [memory]
    constructor
    · have image : bytesOf ((s.writeRegisters (config.address.toNat +
          valueIndex.toNat * (registersPerValue config.dataType).toNat) (wordsOf wire)).registers
          (config.address.toNat + valueIndex.toNat * (registersPerValue config.dataType).toNat)
          (registersPerValue config.dataType).toNat) = wire := by
        rw [← words, registers_written, bytesOf_wordsOf wire (wordsOf wire).length (by omega)]
      simp only [reading, if_neg boolean, image, decoded, Option.getD_some]
      exact same
    · intro other apart
      have disjoint : config.address.toNat + other * (registersPerValue config.dataType).toNat +
            (registersPerValue config.dataType).toNat ≤
          config.address.toNat + valueIndex.toNat * (registersPerValue config.dataType).toNat ∨
          config.address.toNat + valueIndex.toNat * (registersPerValue config.dataType).toNat +
            (wordsOf wire).length ≤
          config.address.toNat + other * (registersPerValue config.dataType).toNat := by
        rw [words]
        rcases Nat.lt_or_gt_of_ne apart with before | after
        · left
          have := Nat.mul_le_mul_right (registersPerValue config.dataType).toNat before
          rw [Nat.succ_mul] at this
          omega
        · right
          have := Nat.mul_le_mul_right (registersPerValue config.dataType).toNat after
          rw [Nat.succ_mul] at this
          omega
      simp only [reading, if_neg boolean, registers_apart _ _ _ _ _ disjoint]

/-- A value that was accepted for writing is read back at its index, and the other
value of the channel reads as before the write. -/
theorem write_then_read (config : ChannelConfig) (valueIndex : UInt8) (value : DecodedScalar)
    (s : Slave) (readCapacity writeCapacity : Nat) (readRequest writeRequest : Bytes)
    (reads : buildReadRequest config readCapacity = .ok readRequest)
    (writes : buildWriteRequest config valueIndex value writeCapacity = .ok writeRequest) :
    ∃ before after : List DecodedScalar,
      readBack config s readRequest = .ok before ∧
      readBack config (s.serve config.slaveId writeRequest).1 readRequest = .ok after ∧
      before.length = config.quantity.toNat ∧ after.length = config.quantity.toNat ∧
      (∃ back, after[valueIndex.toNat]? = some back ∧ SameValue config.dataType value back) ∧
      ∀ other, other ≠ valueIndex.toNat → after[other]? = before[other]? := by
  obtain ⟨-, index, writable, -⟩ :=
    buildWriteRequest_cases config valueIndex value writeCapacity writeRequest writes
  obtain ⟨written, others⟩ :=
    reading_written config valueIndex value writeCapacity writeRequest s writes
  refine ⟨_, _, readBack_eq config s readCapacity readRequest writable reads,
    readBack_eq config _ readCapacity readRequest writable reads, by simp, by simp,
    ⟨_, ?_, written⟩, ?_⟩
  · simp [index]
  · intro other apart
    simp only [List.getElem?_map]
    cases position : (List.range config.quantity.toNat)[other]? with
    | none => rfl
    | some k =>
      have : k = other := by
        obtain ⟨h, hk⟩ := List.getElem?_eq_some_iff.mp position
        rw [← hk, List.getElem_range]
      rw [this, Option.map_some, Option.map_some, others other apart]

/-- A pair of signed 32-bit set points with swapped words, of which the second is written. -/
def setPointChannel : ChannelConfig :=
  { slaveId := 17, address := 0x0120, dataType := .hold32CDAB, quantity := 2, signedValue := true }

theorem write_then_read_setPoint :
    ∃ before after : List DecodedScalar,
      readBack setPointChannel ⟨fun _ => false, fun _ => 7⟩
        (appendCrc [17, 0x03, 0x01, 0x20, 0x00, 0x04]) = .ok before ∧
      readBack setPointChannel
        (Slave.serve 17 ⟨fun _ => false, fun _ => 7⟩ (appendCrc
          [17, 0x10, 0x01, 0x22, 0x00, 0x02, 0x04, 0xff, 0xfe, 0xff, 0xff])).1
        (appendCrc [17, 0x03, 0x01, 0x20, 0x00, 0x04]) = .ok after ∧
      before.length = 2 ∧ after.length = 2 ∧
      (∃ back, after[1]? = some back ∧ SameValue .hold32CDAB (.signedInteger (-2)) back) ∧
      ∀ other, other ≠ 1 → after[other]? = before[other]? :=
  write_then_read setPointChannel 1 (.signedInteger (-2)) ⟨fun _ => false, fun _ => 7⟩ 8 17
    (appendCrc [17, 0x03, 0x01, 0x20, 0x00, 0x04])
    (appendCrc [17, 0x10, 0x01, 0x22, 0x00, 0x02, 0x04, 0xff, 0xfe, 0xff, 0xff]) rfl rfl

end Modbus
