import MultibusGateway.Library.KeyedList
import MultibusGateway.Modbus.Component

/-! What is configured of the component: the mode, the settings and the channels. The traffic on
the bus leaves it alone, and each operation that configures the component changes its own part. -/

namespace Modbus
open ByteString

structure ComponentConfiguration where
  mode : ModbusMode
  active : Bool
  rs485Settings : Rs485SerialSettings
  masterSettings : ModbusMasterSettings
  channels : List ChannelConfig

namespace ModbusComponent

def configuration (c : ModbusComponent) : ComponentConfiguration :=
  ⟨c.mode, c.active, c.rs485Settings, c.masterSettings, c.channels⟩

theorem configuration_finishPollAttempt (nowMs : UInt32) (channel : ChannelConfig)
    (values : Option (List DecodedScalar)) (c : ModbusComponent) :
    (finishPollAttempt nowMs channel values c).configuration = c.configuration := by
  obtain ⟨_, _, _, _, _, same⟩ := finishPollAttempt_changes nowMs channel values c
  rw [same]
  rfl

theorem configuration_pollRawTransaction (nowMs nowUs : UInt32) (c : ModbusComponent) :
    (pollRawTransaction nowMs nowUs c).configuration = c.configuration := by
  obtain ⟨_, _, _, same⟩ := pollRawTransaction_changes nowMs nowUs c
  rw [same]
  rfl

theorem configuration_pollWriteTransaction (nowMs : UInt32) (c : ModbusComponent) :
    (pollWriteTransaction nowMs c).configuration = c.configuration := by
  obtain ⟨_, _, _, _, _, same⟩ := pollWriteTransaction_changes nowMs c
  rw [same]
  rfl

theorem configuration_pollChannel (c : ModbusComponent) :
    c.pollChannel.1.configuration = c.configuration := rfl

theorem configuration_pollReadTransaction (nowMs : UInt32) (c : ModbusComponent) :
    (pollReadTransaction nowMs c).configuration = c.configuration := by
  obtain ⟨_, _, _, _, _, _, same⟩ := pollReadTransaction_changes nowMs c
  rw [same]
  rfl

theorem configuration_startTransaction (nowMs : UInt32) (c : ModbusComponent) :
    (startTransaction nowMs c).configuration = c.configuration := by
  unfold startTransaction
  dsimp only
  split
  · split <;> rfl
  · split
    · rfl
    · split
      · split <;> rfl
      · split
        · rfl
        · split
          · rfl
          · split
            · rfl
            · rename_i polled channel turn
              have same := configuration_pollChannel c
              rw [turn] at same
              split
              · exact same
              · exact (configuration_finishPollAttempt nowMs channel none
                  { polled with
                    rtuMaster := (polled.rtuMaster.startRead nowMs channel).1 }).trans same

theorem configuration_loop (nowMs nowUs : UInt32) (c : ModbusComponent) :
    (c.loop nowMs nowUs).configuration = c.configuration := by
  unfold loop
  split
  · rfl
  · split
    · split
      · exact configuration_pollRawTransaction nowMs nowUs c
      · exact configuration_pollWriteTransaction nowMs c
      · exact configuration_pollReadTransaction nowMs c
    · generalize c.rtuMaster.pollPassiveFrame nowUs kMaxFrameLength = polled
      obtain ⟨rtuMaster, result, frame⟩ := polled
      dsimp only
      split
      · rfl
      · rfl
      · rfl
      · split
        · rfl
        · exact configuration_startTransaction nowMs { c with rtuMaster := rtuMaster }

theorem configuration_writePoint (slot registerIndex : UInt8) (scalar : DecodedScalar)
    (c : ModbusComponent) :
    (c.writePoint slot registerIndex scalar).1.configuration = c.configuration := by
  obtain refused | ⟨channel, request, -, -, -, -, -, queued⟩ :=
    writePoint_cases slot registerIndex scalar c
  · rw [refused]
  · rw [queued]
    rfl

/-! The operations that configure. Serial parameters that can be made are always taken over. -/

theorem makeRtuSerialConfig_nonzero (settings : Rs485SerialSettings) (responseTimeoutMs : UInt32)
    (config : RtuSerialConfig)
    (made : makeRtuSerialConfig settings responseTimeoutMs = some config) :
    config.baudRate ≠ 0 ∧ config.responseTimeoutMs ≠ 0 := by
  unfold makeRtuSerialConfig at made
  split at made
  · cases made
  · rename_i fit
    obtain rfl := Option.some.inj made
    simp only [Bool.or_eq_true, not_or, Bool.not_eq_true, Bool.not_eq_false', beq_eq_false_iff_ne]
      at fit
    refine ⟨?_, fit.2⟩
    intro zero
    have supported := fit.1
    dsimp only at zero
    rw [esp32SupportsRs485SerialSettings, validRs485SerialSettings, zero] at supported
    exact Bool.false_ne_true supported

theorem applySerialConfig_ready (nowMs : UInt32) (config : RtuSerialConfig) (c : ModbusComponent)
    (settings : Rs485SerialSettings) (responseTimeoutMs : UInt32)
    (made : makeRtuSerialConfig settings responseTimeoutMs = some config) :
    (c.applySerialConfig nowMs config).2 = true ∧
    (c.applySerialConfig nowMs config).1.configuration = c.configuration := by
  have usable : ¬ (config.baudRate == 0 || config.responseTimeoutMs == 0) = true := by
    rw [Bool.or_eq_true, beq_iff_eq, beq_iff_eq, not_or]
    exact makeRtuSerialConfig_nonzero settings responseTimeoutMs config made
  have ready : (if c.mode = .master && c.active then c.rtuMaster.reconfigure config
      else (c.rtuMaster, true)).2 = true := by
    split
    · unfold ModbusRtuMaster.reconfigure ModbusRtuMaster.begin
      dsimp only
      rw [if_neg usable]
    · rfl
  unfold applySerialConfig
  dsimp only
  rw [ready]
  exact ⟨rfl, rfl⟩

theorem applyRs485SerialSettings_cases (nowMs : UInt32) (settings : Rs485SerialSettings)
    (c : ModbusComponent) :
    c.applyRs485SerialSettings nowMs settings = (c, false) ∨
    ∃ config, makeRtuSerialConfig settings c.masterSettings.maxResponseTimeMs.toUInt32 =
        some config ∧
      (c.applySerialConfig nowMs config).2 = true ∧
      c.applyRs485SerialSettings nowMs settings =
        ({ (c.applySerialConfig nowMs config).1 with rs485Settings := settings }, true) := by
  unfold applyRs485SerialSettings
  cases made : makeRtuSerialConfig settings c.masterSettings.maxResponseTimeMs.toUInt32 with
  | none => exact .inl rfl
  | some config =>
    have ready := (applySerialConfig_ready nowMs config c _ _ made).1
    exact .inr ⟨config, rfl, ready, if_pos ready⟩

theorem applyModbusMasterSettings_cases (nowMs : UInt32) (settings : ModbusMasterSettings)
    (c : ModbusComponent) :
    c.applyModbusMasterSettings nowMs settings = (c, false) ∨
    ∃ config, runtimeSupportsModbusMasterSettings settings = true ∧
      makeRtuSerialConfig c.rs485Settings settings.maxResponseTimeMs.toUInt32 = some config ∧
      (c.applySerialConfig nowMs config).2 = true ∧
      c.applyModbusMasterSettings nowMs settings =
        ({ (c.applySerialConfig nowMs config).1 with masterSettings := settings }, true) := by
  unfold applyModbusMasterSettings
  split
  · exact .inl rfl
  · rename_i supported
    cases made : makeRtuSerialConfig c.rs485Settings settings.maxResponseTimeMs.toUInt32 with
    | none => exact .inl rfl
    | some config =>
      have ready := (applySerialConfig_ready nowMs config c _ _ made).1
      exact .inr ⟨config, by simpa using supported, rfl, ready, if_pos ready⟩

/-- New serial settings are taken over exactly if parameters can be made of them. -/
theorem configuration_applyRs485SerialSettings (nowMs : UInt32) (settings : Rs485SerialSettings)
    (c : ModbusComponent) :
    if (makeRtuSerialConfig settings c.masterSettings.maxResponseTimeMs.toUInt32).isSome then
      (c.applyRs485SerialSettings nowMs settings).2 = true ∧
      (c.applyRs485SerialSettings nowMs settings).1.configuration =
        { c.configuration with rs485Settings := settings }
    else c.applyRs485SerialSettings nowMs settings = (c, false) := by
  unfold applyRs485SerialSettings
  cases made : makeRtuSerialConfig settings c.masterSettings.maxResponseTimeMs.toUInt32 with
  | none => rfl
  | some config =>
    obtain ⟨ready, same⟩ := applySerialConfig_ready nowMs config c _ _ made
    simp only [Option.isSome_some, if_true, ready]
    simp only [configuration, ComponentConfiguration.mk.injEq] at same ⊢
    exact ⟨trivial, same.1, same.2.1, trivial, same.2.2.2.1, same.2.2.2.2⟩

theorem configuration_applyModbusMasterSettings (nowMs : UInt32) (settings : ModbusMasterSettings)
    (c : ModbusComponent) :
    if runtimeSupportsModbusMasterSettings settings &&
        (makeRtuSerialConfig c.rs485Settings settings.maxResponseTimeMs.toUInt32).isSome then
      (c.applyModbusMasterSettings nowMs settings).2 = true ∧
      (c.applyModbusMasterSettings nowMs settings).1.configuration =
        { c.configuration with masterSettings := settings }
    else c.applyModbusMasterSettings nowMs settings = (c, false) := by
  unfold applyModbusMasterSettings
  cases runtimeSupportsModbusMasterSettings settings with
  | false => rfl
  | true =>
    cases made : makeRtuSerialConfig c.rs485Settings settings.maxResponseTimeMs.toUInt32 with
    | none => rfl
    | some config =>
      obtain ⟨ready, same⟩ := applySerialConfig_ready nowMs config c _ _ made
      simp only [Option.isSome_some, Bool.and_self, Bool.not_true, Bool.false_eq_true, if_true,
        if_false, ready]
      simp only [configuration, ComponentConfiguration.mk.injEq] at same ⊢
      exact ⟨trivial, same.1, same.2.1, same.2.2.1, trivial, same.2.2.2.2⟩

theorem configuration_cancelPendingTransaction (c : ModbusComponent) :
    c.cancelPendingTransaction.configuration = c.configuration := by
  unfold cancelPendingTransaction
  split <;> rfl

theorem replaceChannel_eq (config : ChannelConfig) (channels : List ChannelConfig) :
    replaceChannel config channels = KeyedList.upsert ChannelConfig.slot config channels := by
  induction channels with
  | nil => rfl
  | cons current rest ih =>
    rw [replaceChannel, KeyedList.upsert, ih]
    by_cases same : current.slot = config.slot
    · rw [if_pos same, if_pos (beq_iff_eq.mpr same)]
    · rw [if_neg same, if_neg (fun equal => same (beq_iff_eq.mp equal))]

theorem channelForSlot_eq (slot : UInt8) (c : ModbusComponent) :
    c.channelForSlot slot = KeyedList.lookup ChannelConfig.slot slot c.channels := by
  rw [channelForSlot, KeyedList.lookup]
  congr 1

theorem configuration_upsertChannel (config : ChannelConfig) (c : ModbusComponent) :
    if validChannelConfig config then
      (c.upsertChannel config).2 = true ∧
      (c.upsertChannel config).1.configuration =
        { c.configuration with
          channels := KeyedList.upsert ChannelConfig.slot config c.channels }
    else c.upsertChannel config = (c, false) := by
  have cancelled := configuration_cancelPendingTransaction c
  simp only [configuration, ComponentConfiguration.mk.injEq] at cancelled
  obtain ⟨mode, active, rs485, master, channels⟩ := cancelled
  unfold upsertChannel
  cases validChannelConfig config with
  | false => rfl
  | true =>
    rw [if_pos rfl, ← replaceChannel_eq]
    simp only [Bool.not_true, Bool.false_eq_true, if_false, configuration, setCache,
      clearPendingWrite, mode, active, rs485, master, channels]
    exact ⟨trivial, trivial⟩

theorem configuration_removeChannel (slot : UInt8) (c : ModbusComponent) :
    (c.removeChannel slot).1.configuration =
      { c.configuration with channels := KeyedList.remove ChannelConfig.slot slot c.channels } := by
  have cancelled := configuration_cancelPendingTransaction c
  simp only [configuration, ComponentConfiguration.mk.injEq] at cancelled
  obtain ⟨mode, active, rs485, master, channels⟩ := cancelled
  have predicate : (fun channel : ChannelConfig => channel.slot == slot) =
      fun channel => decide (channel.slot = slot) := by
    funext channel
    exact Bool.beq_eq_decide_eq channel.slot slot
  unfold removeChannel
  dsimp only
  simp only [clearPendingWrite, channels, KeyedList.remove, predicate]
  split
  · simp only [configuration, setCache, mode, active, rs485, master]
  · rename_i absent
    rw [List.any_eq_true] at absent
    have kept : c.channels.eraseP (fun channel => decide (channel.slot = slot)) = c.channels := by
      refine List.eraseP_of_forall_not fun channel member => ?_
      exact fun same => absent ⟨channel, member, same⟩
    simp only [configuration, mode, active, rs485, master, kept]

end ModbusComponent

end Modbus
