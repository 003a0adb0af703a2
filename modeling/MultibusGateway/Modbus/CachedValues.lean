import MultibusGateway.Library.KeyedList
import MultibusGateway.Modbus.Bookkeeping
import MultibusGateway.Modbus.ValueKinds

/-! The values that the component keeps. Whatever is kept for a slot is of the channel that the
slot has: one value for each of its registers, of the kind that its type and its sign ask for. -/

namespace Modbus
open ByteString Execution KeyedList

structure CachedFor (channel : ChannelConfig) (values : List DecodedScalar) : Prop where
  count : values.length = channel.quantity.toNat
  kinds : ∀ value ∈ values, OfChannel channel value

/-! Channels that differ in the name only. -/

theorem ofChannel_upToName (channel other : ChannelConfig) (alike : UpToName channel other)
    (value : DecodedScalar) : OfChannel channel value ↔ OfChannel other value := by
  rw [← alike]
  cases value <;> exact Iff.rfl

theorem CachedFor.renamed {channel other : ChannelConfig} {values : List DecodedScalar}
    (cached : CachedFor channel values) (alike : UpToName other channel) :
    CachedFor other values := by
  refine ⟨?_, fun value member => ?_⟩
  · rw [cached.count, ← alike]
  · rw [ofChannel_upToName other channel alike]
    exact cached.kinds value member

namespace ModbusComponent
open ModbusRtuMaster

/-- The write is of a configured channel, and its value is of the kind of that channel. -/
structure WriteFits (channels : List ChannelConfig) (write : PendingWrite) : Prop where
  channel : Configured write.channel channels
  value : OfChannel write.channel write.value

/-- The channels are valid and have a slot each, and all that is kept or on its way for a slot is
of the channel that has it. -/
structure CacheAgrees (c : ModbusComponent) : Prop where
  distinct : Distinct ChannelConfig.slot c.channels
  valid : ∀ channel ∈ c.channels, validChannelConfig channel = true
  cached : ∀ slot, (c.cache slot).valid = true → ∃ channel ∈ c.channels,
    channel.slot.toNat = slot ∧ CachedFor channel (c.cache slot).values
  queued : c.pendingWrite.queued = true → WriteFits c.channels c.pendingWrite
  sent : c.writeInFlight = true → WriteFits c.channels c.activeWrite

structure SameKept (c d : ModbusComponent) : Prop where
  channels : d.channels = c.channels
  cache : d.cache = c.cache
  pendingWrite : d.pendingWrite = c.pendingWrite
  activeWrite : d.activeWrite = c.activeWrite
  writeInFlight : d.writeInFlight = c.writeInFlight

theorem SameKept.refl (c : ModbusComponent) : SameKept c c := ⟨rfl, rfl, rfl, rfl, rfl⟩

theorem CacheAgrees.same {c d : ModbusComponent} (agrees : CacheAgrees c) (same : SameKept c d) :
    CacheAgrees d := by
  obtain ⟨channels, cache, pendingWrite, activeWrite, writeInFlight⟩ := same
  refine ⟨?_, ?_, ?_, ?_, ?_⟩
  · rw [channels]
    exact agrees.distinct
  · rw [channels]
    exact agrees.valid
  · rw [channels, cache]
    exact agrees.cached
  · rw [channels, pendingWrite]
    exact agrees.queued
  · rw [channels, activeWrite, writeInFlight]
    exact agrees.sent

theorem CacheAgrees.cleared {c d : ModbusComponent} (agrees : CacheAgrees c)
    (channels : d.channels = c.channels) (cache : d.cache = c.cache)
    (noWrite : d.pendingWrite.queued = false) (noWriteSent : d.writeInFlight = false) :
    CacheAgrees d := by
  refine ⟨?_, ?_, ?_, ?_, ?_⟩
  · rw [channels]
    exact agrees.distinct
  · rw [channels]
    exact agrees.valid
  · rw [channels, cache]
    exact agrees.cached
  · rw [noWrite]
    exact fun queued => by cases queued
  · rw [noWriteSent]
    exact fun sent => by cases sent

/-! What is read and what is written. -/

theorem CacheAgrees.setCache {c : ModbusComponent} (agrees : CacheAgrees c) (slot : UInt8)
    (cached : PollCache) (held : cached.valid = true → ∃ channel ∈ c.channels,
      channel.slot = slot ∧ CachedFor channel cached.values) :
    CacheAgrees (c.setCache slot cached) := by
  refine ⟨agrees.distinct, agrees.valid, fun other valid => ?_, agrees.queued, agrees.sent⟩
  by_cases own : other = slot.toNat
  · subst own
    rw [setCache_same] at valid ⊢
    obtain ⟨channel, member, same, values⟩ := held valid
    exact ⟨channel, member, congrArg UInt8.toNat same, values⟩
  · rw [setCache_other slot cached c other own] at valid ⊢
    exact agrees.cached other valid

theorem CacheAgrees.held {c : ModbusComponent} (agrees : CacheAgrees c) (channel : ChannelConfig)
    (member : channel ∈ c.channels) (valid : (c.cache channel.slot.toNat).valid = true) :
    CachedFor channel (c.cache channel.slot.toNat).values := by
  obtain ⟨other, there, slot, values⟩ := agrees.cached channel.slot.toNat valid
  obtain rfl := eq_of_key ChannelConfig.slot c.channels agrees.distinct other channel there member
    (UInt8.toNat_inj.mp slot)
  exact values

/-- An attempt leaves the values of its channel as they are, replaces or drops them. -/
theorem finishPollAttempt_kept (nowMs : UInt32) (channel : ChannelConfig)
    (values : Option (List DecodedScalar)) (c : ModbusComponent) :
    ∃ cached, SameKept (c.setCache channel.slot cached) (finishPollAttempt nowMs channel values c) ∧
      (cached.valid = true → values = some cached.values ∨
        (c.cache channel.slot.toNat).valid = true ∧
          cached.values = (c.cache channel.slot.toNat).values) := by
  unfold finishPollAttempt advancePollChannel
  cases values with
  | some read =>
    dsimp only
    split <;> exact ⟨_, ⟨rfl, rfl, rfl, rfl, rfl⟩, fun _ => .inl rfl⟩
  | none =>
    dsimp only
    split
    · exact ⟨_, ⟨rfl, rfl, rfl, rfl, rfl⟩, fun valid => .inr ⟨valid, rfl⟩⟩
    · split <;> exact ⟨_, ⟨rfl, rfl, rfl, rfl, rfl⟩, fun valid => by cases valid⟩

theorem agrees_finishPollAttempt (nowMs : UInt32) (channel : ChannelConfig)
    (values : Option (List DecodedScalar)) (c : ModbusComponent) (agrees : CacheAgrees c)
    (member : channel ∈ c.channels) (read : ∀ read ∈ values, CachedFor channel read) :
    CacheAgrees (finishPollAttempt nowMs channel values c) := by
  obtain ⟨cached, same, source⟩ := finishPollAttempt_kept nowMs channel values c
  refine (agrees.setCache channel.slot cached fun valid => ⟨channel, member, rfl, ?_⟩).same same
  rcases source valid with new | ⟨held, unchanged⟩
  · exact read cached.values new
  · rw [unchanged]
    exact agrees.held channel member held

theorem agrees_applySuccessfulWriteToCache (nowMs : UInt32) (write : PendingWrite)
    (c : ModbusComponent) (agrees : CacheAgrees c) (fits : WriteFits c.channels write) :
    CacheAgrees (applySuccessfulWriteToCache nowMs write c) := by
  obtain ⟨⟨channel, member, alike⟩, kind⟩ := fits
  have slot : channel.slot = write.channel.slot := by rw [← alike]
  unfold applySuccessfulWriteToCache
  dsimp only
  split
  · exact agrees
  · split
    · exact agrees.setCache _ _ fun valid => by cases valid
    · rename_i full
      simp only [Bool.or_eq_true, Bool.not_eq_true', not_or, Bool.not_eq_false] at full
      have values := agrees.held channel member (by rw [slot]; exact full.1)
      rw [slot] at values
      refine agrees.setCache _ _ fun _ => ⟨channel, member, slot, ?_, ?_⟩
      · rw [List.length_set, values.count]
      · intro value among
        rcases List.mem_or_eq_of_mem_set among with before | rfl
        · exact values.kinds value before
        · rw [ofChannel_upToName channel write.channel alike]
          exact kind

/-! The loop. -/

theorem agrees_pollWriteTransaction (nowMs : UInt32) (c : ModbusComponent)
    (agrees : CacheAgrees c) : CacheAgrees (pollWriteTransaction nowMs c) := by
  unfold pollWriteTransaction
  dsimp only
  split
  · exact agrees.same ⟨rfl, rfl, rfl, rfl, rfl⟩
  · split
    · exact agrees.same ⟨rfl, rfl, rfl, rfl, rfl⟩
    · rename_i flying
      have fits := agrees.sent (by simpa using flying)
      split
      · have moved : CacheAgrees { c with rtuMaster := (c.rtuMaster.pollWrite nowMs).master } :=
          agrees.same ⟨rfl, rfl, rfl, rfl, rfl⟩
        have applied := agrees_applySuccessfulWriteToCache nowMs c.activeWrite _ moved fits
        exact { applied with sent := fun sent => by cases sent }
      · exact { agrees with sent := fun sent => by cases sent }

theorem agrees_pollReadTransaction (nowMs : UInt32) (c : ModbusComponent) (agrees : CacheAgrees c)
    (booked : Booked c) (active : c.rtuMaster.transactionActive = true)
    (read : c.rtuMaster.transactionKind = .read) : CacheAgrees (pollReadTransaction nowMs c) := by
  obtain ⟨⟨channel, current, alike⟩, -⟩ := booked.read active read
  obtain ⟨master, -, polled⟩ | ⟨master, values, -, decoded, polled⟩ :=
    pollReadTransaction_cases nowMs c channel current active read
  · rw [polled]
    exact agrees.same ⟨rfl, rfl, rfl, rfl, rfl⟩
  · rw [polled]
    have moved : CacheAgrees { c with rtuMaster := master } :=
      agrees.same ⟨rfl, rfl, rfl, rfl, rfl⟩
    have finished := agrees_finishPollAttempt nowMs channel values _ moved
      (List.mem_of_getElem? current) fun read among => by
        obtain ⟨response, made⟩ := decoded read among
        obtain ⟨-, count, kinds⟩ := decodeReadResponse_ofChannel _ response read made
        exact CachedFor.renamed ⟨count, kinds⟩ alike
    exact finished.same ⟨rfl, rfl, rfl, rfl, rfl⟩

theorem agrees_startTransaction (nowMs : UInt32) (c : ModbusComponent) (agrees : CacheAgrees c) :
    CacheAgrees (startTransaction nowMs c) := by
  unfold startTransaction
  dsimp only
  split
  · split <;> exact agrees.same ⟨rfl, rfl, rfl, rfl, rfl⟩
  split
  · exact agrees
  split
  · rename_i queued
    have sent (d : ModbusComponent) (channels : d.channels = c.channels) (cache : d.cache = c.cache)
        (taken : d.pendingWrite.queued = false) (active : d.activeWrite = c.pendingWrite) :
        CacheAgrees d := by
      have kept : CacheAgrees { d with writeInFlight := false } :=
        agrees.cleared channels cache taken rfl
      refine { kept with sent := fun _ => ?_ }
      rw [channels, active]
      exact agrees.queued queued
    split <;> exact sent _ rfl rfl rfl rfl
  split
  · exact agrees
  split
  · exact agrees
  split
  · exact agrees
  · rename_i polled channel turn
    unfold pollChannel at turn
    obtain ⟨rfl, current⟩ := Prod.mk.inj turn
    dsimp only
    generalize c.rtuMaster.startRead nowMs channel = started
    obtain ⟨master, taken⟩ := started
    cases taken with
    | true => exact agrees.same ⟨rfl, rfl, rfl, rfl, rfl⟩
    | false =>
      rw [if_neg Bool.false_ne_true]
      have attempted : CacheAgrees { c with
          rtuMaster := master
          pollChannelIndex := if c.pollChannelIndex ≥ c.channels.length then 0
            else c.pollChannelIndex } :=
        agrees.same ⟨rfl, rfl, rfl, rfl, rfl⟩
      have finished := agrees_finishPollAttempt nowMs channel none _ attempted
        (List.mem_of_getElem? current) fun _ none => by cases none
      exact finished.same ⟨rfl, rfl, rfl, rfl, rfl⟩

theorem agrees_loop (nowMs nowUs : UInt32) (c : ModbusComponent) (agrees : CacheAgrees c)
    (booked : Booked c) : CacheAgrees (c.loop nowMs nowUs) := by
  unfold loop
  split
  · exact agrees
  split
  · rename_i active
    split
    · obtain ⟨_, _, _, polled⟩ := pollRawTransaction_changes nowMs nowUs c
      rw [polled]
      exact agrees.same ⟨rfl, rfl, rfl, rfl, rfl⟩
    · exact agrees_pollWriteTransaction nowMs c agrees
    · rename_i other raw
      exact agrees_pollReadTransaction nowMs c agrees booked active (booked.reads active other raw)
  · generalize c.rtuMaster.pollPassiveFrame nowUs kMaxFrameLength = polled
    obtain ⟨master, result, frame⟩ := polled
    have listening : CacheAgrees { c with rtuMaster := master } :=
      agrees.same ⟨rfl, rfl, rfl, rfl, rfl⟩
    cases result with
    | frameReady | overflow | pending => exact agrees.same ⟨rfl, rfl, rfl, rfl, rfl⟩
    | idle =>
      dsimp only
      split
      · exact listening
      · exact agrees_startTransaction nowMs _ listening

/-! The channels. -/

theorem agrees_cancelPendingTransaction (c : ModbusComponent) (agrees : CacheAgrees c) :
    CacheAgrees c.cancelPendingTransaction.clearPendingWrite := by
  have same : SameKept c c.cancelPendingTransaction := by
    unfold cancelPendingTransaction
    split <;> exact ⟨rfl, rfl, rfl, rfl, rfl⟩
  exact (agrees.same same).cleared rfl rfl rfl rfl

theorem agrees_upsertChannel (config : ChannelConfig) (c : ModbusComponent)
    (agrees : CacheAgrees c) : CacheAgrees (c.upsertChannel config).1 := by
  have cleared := agrees_cancelPendingTransaction c agrees
  have noWrite : c.cancelPendingTransaction.clearPendingWrite.pendingWrite.queued = false := rfl
  have noWriteSent : c.cancelPendingTransaction.clearPendingWrite.writeInFlight = false := rfl
  unfold upsertChannel
  cases fits : validChannelConfig config with
  | false => exact agrees
  | true =>
    rw [Bool.not_true, if_neg Bool.false_ne_true]
    generalize c.cancelPendingTransaction.clearPendingWrite = d at cleared noWrite noWriteSent ⊢
    have there := fun channel =>
      mem_upsert ChannelConfig.slot config d.channels cleared.distinct channel
    rw [← replaceChannel_eq] at there
    refine ⟨?_, ?_, ?_, ?_, ?_⟩
    · have distinct := distinct_upsert ChannelConfig.slot config d.channels cleared.distinct
      rwa [← replaceChannel_eq] at distinct
    · intro channel member
      rcases (there channel).mp member with rfl | ⟨before, -⟩
      · exact fits
      · exact cleared.valid channel before
    · intro slot valid
      have other : slot ≠ config.slot.toNat := by
        rintro rfl
        rw [setCache_same] at valid
        cases valid
      dsimp only at valid ⊢
      rw [setCache_other config.slot {} d slot other] at valid ⊢
      obtain ⟨channel, member, own, values⟩ := cleared.cached slot valid
      refine ⟨channel, (there channel).mpr (.inr ⟨member, fun same => other ?_⟩), own, values⟩
      rw [← own, same]
    · exact fun queued => by cases noWrite.symm.trans queued
    · exact fun sent => by cases noWriteSent.symm.trans sent

theorem removeChannel_eq (slot : UInt8) (channels : List ChannelConfig) :
    (channels.eraseP fun channel => channel.slot == slot) =
      remove ChannelConfig.slot slot channels := by
  unfold remove
  congr 1

theorem agrees_removeChannel (slot : UInt8) (c : ModbusComponent) (agrees : CacheAgrees c) :
    CacheAgrees (c.removeChannel slot).1 := by
  have cleared := agrees_cancelPendingTransaction c agrees
  have noWrite : c.cancelPendingTransaction.clearPendingWrite.pendingWrite.queued = false := rfl
  have noWriteSent : c.cancelPendingTransaction.clearPendingWrite.writeInFlight = false := rfl
  unfold removeChannel
  dsimp only
  generalize c.cancelPendingTransaction.clearPendingWrite = d at cleared noWrite noWriteSent ⊢
  split
  · rw [removeChannel_eq]
    have there := fun channel =>
      mem_remove ChannelConfig.slot slot d.channels cleared.distinct channel
    refine ⟨distinct_remove ChannelConfig.slot slot d.channels cleared.distinct, ?_, ?_, ?_, ?_⟩
    · intro channel member
      exact cleared.valid channel ((there channel).mp member).1
    · intro place valid
      have other : place ≠ slot.toNat := by
        rintro rfl
        rw [setCache_same] at valid
        cases valid
      dsimp only at valid ⊢
      rw [setCache_other slot {} d place other] at valid ⊢
      obtain ⟨channel, member, own, values⟩ := cleared.cached place valid
      refine ⟨channel, (there channel).mpr ⟨member, fun same => other ?_⟩, own, values⟩
      rw [← own, same]
    · exact fun queued => by cases noWrite.symm.trans queued
    · exact fun sent => by cases noWriteSent.symm.trans sent
  · exact cleared

theorem agrees_setChannelName (slot : UInt8) (name : Bytes) (c : ModbusComponent)
    (agrees : CacheAgrees c) : CacheAgrees (c.setChannelName slot name).1 := by
  obtain kept | ⟨renamed, current, own, alike, found, replaced⟩ := setChannelName_cases slot name c
  · rw [kept]
    exact agrees
  · rw [replaced]
    have there := replaceChannel_configured slot renamed current own alike c.channels found
    have stays (write : PendingWrite) (fits : WriteFits c.channels write) :
        WriteFits (replaceChannel renamed c.channels) write := by
      obtain ⟨⟨channel, member, same⟩, kind⟩ := fits
      obtain ⟨other, placed, named⟩ := there channel member
      exact ⟨⟨other, placed, named.trans same⟩, kind⟩
    refine ⟨?_, ?_, ?_, fun queued => stays _ (agrees.queued queued),
      fun sent => stays _ (agrees.sent sent)⟩
    · have distinct := distinct_upsert ChannelConfig.slot renamed c.channels agrees.distinct
      rwa [← replaceChannel_eq] at distinct
    · intro channel member
      rw [replaceChannel_eq, mem_upsert ChannelConfig.slot renamed c.channels agrees.distinct]
        at member
      rcases member with rfl | ⟨before, -⟩
      · rw [← validChannelConfig_named channel current.name, alike]
        exact agrees.valid current (List.mem_of_find?_eq_some found)
      · exact agrees.valid channel before
    · intro place valid
      obtain ⟨channel, member, slot, values⟩ := agrees.cached place valid
      obtain ⟨other, placed, named⟩ := there channel member
      refine ⟨other, placed, ?_, values.renamed named⟩
      rw [← slot, ← named]

/-! The calls. -/

theorem agrees_writePoint (slot registerIndex : UInt8) (scalar : DecodedScalar)
    (c : ModbusComponent) (agrees : CacheAgrees c) :
    CacheAgrees (c.writePoint slot registerIndex scalar).1 := by
  obtain refused | ⟨channel, request, -, -, found, -, built, queued⟩ :=
    writePoint_cases slot registerIndex scalar c
  · rw [refused]
    exact agrees
  · rw [queued]
    refine { agrees with queued := fun _ => ⟨?_, ?_⟩ }
    · exact ⟨channel, List.mem_of_find?_eq_some found, UpToName.refl channel⟩
    · exact buildWriteRequest_ofChannel channel registerIndex scalar 17 request built

theorem agrees_applySerialConfig (nowMs : UInt32) (config : RtuSerialConfig)
    (c : ModbusComponent) (agrees : CacheAgrees c) :
    CacheAgrees (c.applySerialConfig nowMs config).1 := by
  obtain ⟨rtuMaster, -, refused | taken⟩ := applySerialConfig_cases nowMs config c
  · rw [refused]
    exact agrees.same ⟨rfl, rfl, rfl, rfl, rfl⟩
  · rw [taken]
    exact agrees.cleared rfl rfl rfl rfl

theorem agrees_step (c : ModbusComponent) (operation : WriteOperation) (agrees : CacheAgrees c)
    (booked : Booked c) : CacheAgrees (WriteLedger.step ⟨c, 0⟩ operation).component := by
  cases operation with
  | writePoint slot registerIndex scalar =>
    exact agrees_writePoint slot registerIndex scalar c agrees
  | loop nowMs nowUs => exact agrees_loop nowMs nowUs c agrees booked
  | bus port => exact agrees.same ⟨rfl, rfl, rfl, rfl, rfl⟩
  | upsertChannel config => exact agrees_upsertChannel config c agrees
  | removeChannel slot => exact agrees_removeChannel slot c agrees
  | applyRs485SerialSettings nowMs settings =>
    simp only [WriteLedger.step]
    obtain refused | ⟨config, -, -, applied⟩ := applyRs485SerialSettings_cases nowMs settings c
    · rw [refused]
      exact agrees
    · rw [applied]
      exact (agrees_applySerialConfig nowMs config c agrees).same ⟨rfl, rfl, rfl, rfl, rfl⟩
  | applyModbusMasterSettings nowMs settings =>
    simp only [WriteLedger.step]
    obtain refused | ⟨config, -, -, -, applied⟩ :=
      applyModbusMasterSettings_cases nowMs settings c
    · rw [refused]
      exact agrees
    · rw [applied]
      exact (agrees_applySerialConfig nowMs config c agrees).same ⟨rfl, rfl, rfl, rfl, rfl⟩
  | queueRawRequest payload =>
    simp only [WriteLedger.step]
    obtain refused | queued := queueRawRequest_cases payload c
    · rw [refused]
      exact agrees
    · rw [queued]
      exact agrees.same ⟨rfl, rfl, rfl, rfl, rfl⟩
  | queueRuleRawRequest payload =>
    simp only [WriteLedger.step, queueRuleRawRequest]
    obtain refused | queued := queueRawRequestInternal_cases payload .rule c
    · rw [refused]
      exact agrees
    · rw [queued]
      exact agrees.same ⟨rfl, rfl, rfl, rfl, rfl⟩
  | takeRawCompletion | takePassiveFrame | takeCompletedPoll =>
    exact agrees.same ⟨rfl, rfl, rfl, rfl, rfl⟩

theorem agrees_call (c : ModbusComponent) (x : ComponentCall) (agrees : CacheAgrees c)
    (booked : Booked c) : CacheAgrees (c.call x) := by
  cases x with
  | setRtuSerialConfig config => exact agrees.same ⟨rfl, rfl, rfl, rfl, rfl⟩
  | begin nowMs =>
    simp only [call, begin]
    split
    · split <;> exact agrees.same ⟨rfl, rfl, rfl, rfl, rfl⟩
    · exact agrees.same ⟨rfl, rfl, rfl, rfl, rfl⟩
    · exact agrees
  | setChannelName slot name => exact agrees_setChannelName slot name c agrees
  | operation operation => exact agrees_step c operation agrees booked

theorem agrees_run (calls : List ComponentCall) : CacheAgrees (run call idleMaster calls) := by
  have start : CacheAgrees idleMaster :=
    ⟨List.nodup_nil, by simp [idleMaster, setMode], fun _ valid => Bool.noConfusion valid,
      fun queued => Bool.noConfusion queued, fun sent => Bool.noConfusion sent⟩
  have both := invariant_run call (fun c => CacheAgrees c ∧ Booked c) (fun _ _ => True)
    (fun c x holds _ => ⟨agrees_call c x holds.1 holds.2, booked_call c x holds.2⟩) idleMaster calls
    ⟨start, Booked.idle rfl rfl rfl⟩ fun _ _ => trivial
  exact both.1

end ModbusComponent

end Modbus
