import MultibusGateway.Core.ChannelPersistence
import MultibusGateway.Core.Samples
import MultibusGateway.Modbus.Bookkeeping

/-! The name of a channel. The command that sets it stores the channel anew and puts it in its
place like any other new channel, with all that goes with that. -/

namespace Application
open ByteString Preferences Lorawan Modbus ModbusComponent

/-- What anything reads of a Modbus component besides its channels: values that are not valid,
and requests that neither wait nor are on the bus, are never read. -/
structure LiveModbus where
  mode : ModbusMode
  active : Bool
  rs485Settings : Rs485SerialSettings
  masterSettings : ModbusMasterSettings
  serialConfig : RtuSerialConfig
  rtuMaster : ModbusRtuMaster
  cache : Nat → Option (List DecodedScalar × UInt32)
  pollChannelIndex : Nat
  pollRetryCount : UInt8
  nextPollAtMs : UInt32
  completedPoll : Option PollCompletion
  queuedWrite : Option PendingWrite
  writeInFlight : Option PendingWrite
  successfulWrites : UInt32
  failedWrites : UInt32
  queuedRaw : Option PendingRaw
  rawInFlight : Option PendingRaw
  rawCompletion : Option RawCompletion
  passiveFrame : Option PassiveFrame

def readableValues (cached : PollCache) : Option (List DecodedScalar × UInt32) :=
  if cached.valid then some (cached.values, cached.updatedAtMs) else none

def liveModbus (c : ModbusComponent) : LiveModbus where
  mode := c.mode
  active := c.active
  rs485Settings := c.rs485Settings
  masterSettings := c.masterSettings
  serialConfig := c.serialConfig
  rtuMaster := c.rtuMaster
  cache slot := readableValues (c.cache slot)
  pollChannelIndex := c.pollChannelIndex
  pollRetryCount := c.pollRetryCount
  nextPollAtMs := c.nextPollAtMs
  completedPoll := c.completedPoll
  queuedWrite := if c.pendingWrite.queued then some c.pendingWrite else none
  writeInFlight := if c.writeInFlight then some c.activeWrite else none
  successfulWrites := c.successfulWrites
  failedWrites := c.failedWrites
  queuedRaw := if c.pendingRaw.queued then some c.pendingRaw else none
  rawInFlight := if c.rawInFlight then some c.activeRaw else none
  rawCompletion := c.rawCompletion
  passiveFrame := c.passiveFrame

/-- Nothing is cached for the slot, on the bus, queued or waiting to be taken. -/
structure NothingToLose (slot : UInt8) (c : ModbusComponent) : Prop where
  uncached : (c.cache slot.toNat).valid = false
  idle : c.rtuMaster.transactionActive = false
  noWrite : c.pendingWrite.queued = false
  noWriteSent : c.writeInFlight = false
  noRaw : c.pendingRaw.queued = false
  noRawSent : c.rawInFlight = false
  noResponse : c.rawCompletion = none
  noFrame : c.passiveFrame = none

theorem liveModbus_cleared_iff (slot : UInt8) (c : ModbusComponent) :
    liveModbus (c.cancelPendingTransaction.clearPendingWrite.setCache slot {}) = liveModbus c ↔
      NothingToLose slot c := by
  constructor
  · intro same
    have idle : c.rtuMaster.transactionActive = false := by
      have masters := congrArg (fun live => live.rtuMaster.transactionActive) same
      change c.cancelPendingTransaction.rtuMaster.transactionActive =
        c.rtuMaster.transactionActive at masters
      rw [← masters]
      exact (cancelPendingTransaction_ended c).1
    have values := congrArg (fun live => live.cache slot.toNat) same
    have write := congrArg LiveModbus.queuedWrite same
    have sent := congrArg LiveModbus.writeInFlight same
    have raw := congrArg LiveModbus.queuedRaw same
    have rawSent := congrArg LiveModbus.rawInFlight same
    have response := congrArg LiveModbus.rawCompletion same
    have frame := congrArg LiveModbus.passiveFrame same
    have emptied : readableValues ((c.cancelPendingTransaction.clearPendingWrite.setCache slot {}
        ).cache slot.toNat) = none := by
      rw [setCache_same]
      rfl
    dsimp only [liveModbus] at values
    rw [emptied] at values
    refine ⟨?_, idle, ?_, ?_, ?_, ?_, response.symm, frame.symm⟩
    · by_contra valid
      rw [Bool.not_eq_false] at valid
      rw [readableValues, if_pos valid] at values
      cases values
    · by_contra queued
      rw [Bool.not_eq_false] at queued
      simp [liveModbus, queued, setCache, clearPendingWrite] at write
    · by_contra flying
      rw [Bool.not_eq_false] at flying
      simp [liveModbus, flying, setCache, clearPendingWrite] at sent
    · by_contra queued
      rw [Bool.not_eq_false] at queued
      simp [liveModbus, queued, setCache, clearPendingWrite] at raw
    · by_contra flying
      rw [Bool.not_eq_false] at flying
      simp [liveModbus, flying, setCache, clearPendingWrite] at rawSent
  · rintro ⟨uncached, idle, noWrite, noWriteSent, noRaw, noRawSent, noResponse, noFrame⟩
    have still : c.cancelPendingTransaction = c := by
      rw [cancelPendingTransaction, if_neg (by simp [idle])]
    have cache : (fun other => readableValues
        ((c.clearPendingWrite.setCache slot {}).cache other)) =
        fun other => readableValues (c.cache other) := by
      funext other
      by_cases own : other = slot.toNat
      · subst own
        rw [setCache_same, readableValues, readableValues, uncached]
        rfl
      · rw [setCache_other slot {} _ other own]
        rfl
    rw [still]
    unfold liveModbus
    rw [cache]
    simp [setCache, clearPendingWrite, noWrite, noWriteSent, noRaw, noRawSent, noResponse, noFrame]

/-! The record of the channel. -/

def recordSettings (record : Bytes) : Bytes := record.take 7

theorem recordSettings_channelRecord (config : ChannelConfig) :
    recordSettings (Stores.channelRecord config) =
      [1, config.slot, config.slaveId] ++ writeU16 config.address ++
        [config.dataType.raw,
          (config.quantity &&& 0x0f) ||| (if config.signedValue then 0x10 else 0x00)] := rfl

theorem recordSettings_upToName (channel other : ChannelConfig) (alike : UpToName channel other) :
    recordSettings (Stores.channelRecord channel) = recordSettings (Stores.channelRecord other) := by
  rw [← alike, recordSettings_channelRecord, recordSettings_channelRecord]

def SameButName (slot : UInt8) (a b : Stores) : Prop :=
  ∃ old new, a.channels slot.toNat = some old ∧ recordSettings new = recordSettings old ∧
    b = { a with
      channels := Function.update a.channels slot.toNat (some new)
      outcomes := b.outcomes }

/-- The store has the channel of a slot as the component has it, up to its name. -/
def StoredUpToName (slot : UInt8) (modbus : ModbusComponent) (stores : Stores) : Prop :=
  ∃ current record, modbus.channelForSlot slot = some current ∧
    stores.channels slot.toNat = some record ∧
    recordSettings record = recordSettings (Stores.channelRecord current)

/-- The channel of a slot has got a name, and nothing else has happened. -/
structure OnlyNamed (slot : UInt8) (a b : State) : Prop where
  channels : ∃ current renamed, a.modbus.channelForSlot slot = some current ∧
    UpToName renamed current ∧ b.modbus.channels = replaceChannel renamed a.modbus.channels
  modbus : liveModbus b.modbus = liveModbus a.modbus
  stores : SameButName slot a.stores b.stores
  rest : { b with modbus := a.modbus, stores := a.stores } = a

theorem applyModbusChannelCommand_named (command : ModbusChannelCommand) (parts : ChannelParts)
    (names : command.operation = .setName)
    (accepted : (applyModbusChannelCommand command parts).2 = true) :
    ∃ current renamed outcomes,
      parts.modbus.channelForSlot command.channel.slot = some current ∧
      renamed.slot = command.channel.slot ∧ UpToName renamed current ∧
      (applyModbusChannelCommand command parts).1 =
        { parts with
          modbus :=
            { parts.modbus.cancelPendingTransaction.clearPendingWrite.setCache
                command.channel.slot {} with
              channels := replaceChannel renamed parts.modbus.channels }
          stores :=
            { parts.stores with
              channels := Function.update parts.stores.channels command.channel.slot.toNat
                (some (Stores.channelRecord renamed))
              outcomes := outcomes } } := by
  unfold applyModbusChannelCommand at accepted ⊢
  rw [names] at accepted ⊢
  dsimp only at accepted ⊢
  cases found : parts.modbus.channelForSlot command.channel.slot with
  | none =>
    rw [found] at accepted
    cases accepted
  | some current =>
    rw [found] at accepted
    dsimp only at accepted ⊢
    cases named : Modbus.setChannelName current (Stores.nameBytes command.channel.name) with
    | none =>
      rw [named] at accepted
      cases accepted
    | some renamed =>
      rw [named] at accepted
      dsimp only at accepted ⊢
      obtain ⟨own, alike⟩ := setChannelName_upToName current _ renamed named
      have slot : renamed.slot = command.channel.slot := by
        have place := List.find?_some found
        exact own.trans (beq_iff_eq.mp place)
      obtain ⟨flash, outcomes, saved, done, written⟩ :=
        Stores.saveModbusChannel_cases renamed parts.stores
      generalize parts.stores.saveModbusChannel renamed = saving at saved done written accepted ⊢
      obtain ⟨stores, kept⟩ := saving
      dsimp only at saved done written accepted ⊢
      cases kept with
      | false => cases accepted
      | true =>
        have valid : validChannelConfig renamed = true := (Bool.and_eq_true_iff.mp done.symm).1
        rw [if_pos rfl, slot] at written
        refine ⟨current, renamed, outcomes, rfl, slot, alike, ?_⟩
        have list : parts.modbus.cancelPendingTransaction.channels = parts.modbus.channels :=
          congrArg ComponentConfiguration.channels
            (configuration_cancelPendingTransaction parts.modbus)
        rw [upsertChannel, valid, saved, written, slot]
        simp [setCache, clearPendingWrite, list]

/-- A name that is accepted is all that changes exactly when the slot has no value cached and
nothing is on the bus, queued or waiting to be taken, and the store has the channel as the
component has it. -/
theorem channel_only_named_iff (deliver : Deliver State) (app : State)
    (command : ModbusChannelCommand) (names : command.operation = .setName)
    (accepted : (applyCommand deliver app (.modbusChannel command)).2 = true) :
    OnlyNamed command.channel.slot app (applyCommand deliver app (.modbusChannel command)).1 ↔
      NothingToLose command.channel.slot app.modbus ∧
        StoredUpToName command.channel.slot app.modbus app.stores := by
  obtain ⟨current, renamed, outcomes, found, own, alike, applied⟩ :=
    applyModbusChannelCommand_named command (channelParts app) names accepted
  have after : (applyCommand deliver app (.modbusChannel command)).1 =
      withChannelParts app (applyModbusChannelCommand command (channelParts app)).1 := rfl
  rw [after, applied]
  have settings := recordSettings_upToName renamed current alike
  rw [← liveModbus_cleared_iff]
  constructor
  · rintro ⟨-, modbus, ⟨old, new, stored, same, written⟩, -⟩
    refine ⟨modbus, current, old, found, stored, ?_⟩
    have records := congrArg (fun stores => stores.channels command.channel.slot.toNat) written
    simp only [withChannelParts, channelParts, Function.update_self] at records
    rw [← same, ← Option.some.inj records, settings]
  · rintro ⟨modbus, other, record, there, stored, same⟩
    obtain rfl := Option.some.inj (found.symm.trans there)
    exact ⟨⟨current, renamed, found, alike, rfl⟩, modbus,
      ⟨record, _, stored, settings.trans same.symm, rfl⟩, rfl⟩

/-- A coil that is configured and stored, of a device whose master has begun. -/
def coilDevice : State :=
  (applyCommand (fun app _ => (app, false)) { modbus := (idleMaster.begin 0).1 } (.modbusChannel {})).1

def coilName : ModbusChannelCommand :=
  { operation := .setName
    channel := { name := Vector.ofFn fun i => byteAt [0x70, 0x75, 0x6d, 0x70] i } }

/-- With nothing read yet, the coil gets a name and no more. -/
theorem coil_only_named :
    OnlyNamed 0 coilDevice
      (applyCommand (fun app _ => (app, false)) coilDevice (.modbusChannel coilName)).1 := by
  refine (channel_only_named_iff (fun app _ => (app, false)) coilDevice coilName rfl
    (by decide +kernel)).mpr ⟨?_, ?_⟩
  · constructor <;> decide +kernel
  · exact ⟨{}, Stores.channelRecord {}, by decide +kernel, by decide +kernel, rfl⟩

/-- The coil is to be switched on, and the write waits for the bus. -/
def coilWaiting : State :=
  { coilDevice with modbus := (coilDevice.modbus.writePoint 0 0 (.boolean true)).1 }

/-- The write that waits is lost to the name of its channel. -/
theorem queued_write_lost_to_name :
    (applyCommand (fun app _ => (app, false)) coilWaiting (.modbusChannel coilName)).2 = true ∧
      ¬ OnlyNamed 0 coilWaiting
        (applyCommand (fun app _ => (app, false)) coilWaiting (.modbusChannel coilName)).1 := by
  refine ⟨by decide +kernel, fun only => ?_⟩
  have same := congrArg (fun live => live.queuedWrite.isSome) only.modbus
  revert same
  decide +kernel

end Application
