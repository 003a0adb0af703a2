import MultibusGateway.Library.Framing
import MultibusGateway.Lorawan.Codec

/-! Every decoder of a downlink command is local: it consumes at least three bytes, not more
than there are, and what it finds does not depend on the bytes behind them. -/

namespace Lorawan
open ByteString Modbus Framing

def Accepts {α : Type} (decode : Bytes → Decoded α) (p : Bytes) (command : α) (n : Nat) : Prop :=
  decode p = .ok (command, n)

theorem hasHeader_agree {n : Nat} {p q : Bytes} (agree : Agree n p q) (inside : 2 ≤ n)
    (channelId type : UInt8) : hasHeader q channelId type = hasHeader p channelId type := by
  rw [hasHeader, hasHeader, agree.bytes 0 (by omega), agree.bytes 1 (by omega)]

theorem decodeBasicControlCommand_local : Local 3 (Accepts decodeBasicControlCommand) := by
  refine local_of_fixed 3 3 _ (by decide) ?_ ?_
  · intro p command n
    grind [decodeBasicControlCommand]
  · intro p q agree
    simp only [decodeBasicControlCommand, agree.bytes, Nat.not_lt.mpr agree.left,
      Nat.not_lt.mpr agree.right, Nat.reduceLT, if_false]

theorem decodePeriodicReportEnquiryCommand_local :
    Local 3 (Accepts decodePeriodicReportEnquiryCommand) := by
  refine local_of_fixed 3 3 _ (by decide) ?_ ?_
  · intro p command n
    grind [decodePeriodicReportEnquiryCommand]
  · intro p q agree
    simp only [decodePeriodicReportEnquiryCommand, hasHeader_agree agree, agree.bytes,
      Nat.not_lt.mpr agree.left, Nat.not_lt.mpr agree.right, Nat.reduceLT, if_false,
      Nat.reduceLeDiff]

theorem decodeUtcTimezoneCommand_local : Local 3 (Accepts decodeUtcTimezoneCommand) := by
  refine local_of_fixed 3 4 _ (by decide) ?_ ?_
  · intro p command n
    grind [decodeUtcTimezoneCommand]
  · intro p q agree
    simp only [decodeUtcTimezoneCommand, hasHeader_agree agree, agree.readU16,
      Nat.not_lt.mpr agree.left, Nat.not_lt.mpr agree.right, Nat.reduceAdd, Nat.reduceLeDiff,
      if_false]

theorem decodeLnsTimeSyncCommand_local : Local 3 (Accepts decodeLnsTimeSyncCommand) := by
  refine local_of_fixed 3 3 _ (by decide) ?_ ?_
  · intro p command n
    grind [decodeLnsTimeSyncCommand]
  · intro p q agree
    simp only [decodeLnsTimeSyncCommand, hasHeader_agree agree, agree.bytes,
      Nat.not_lt.mpr agree.left, Nat.not_lt.mpr agree.right, Nat.reduceLT, if_false,
      Nat.reduceLeDiff]

theorem decodeDstSettingsCommand_local : Local 3 (Accepts decodeDstSettingsCommand) := by
  refine local_of_fixed 3 11 _ (by decide) ?_ ?_
  · intro p command n
    grind [decodeDstSettingsCommand]
  · intro p q agree
    simp only [decodeDstSettingsCommand, hasHeader_agree agree, agree.bytes, agree.readU16,
      Nat.not_lt.mpr agree.left, Nat.not_lt.mpr agree.right, Nat.reduceLT, Nat.reduceAdd,
      Nat.reduceLeDiff, if_false]

theorem decodeHistoryToggleCommand_local (expectedType : UInt8) :
    Local 3 (Accepts (decodeHistoryToggleCommand expectedType)) := by
  refine local_of_fixed 3 3 _ (by decide) ?_ ?_
  · intro p command n
    grind [decodeHistoryToggleCommand]
  · intro p q agree
    simp only [decodeHistoryToggleCommand, hasHeader_agree agree, agree.bytes,
      Nat.not_lt.mpr agree.left, Nat.not_lt.mpr agree.right, Nat.reduceLT, if_false,
      Nat.reduceLeDiff]

theorem decodeIntervalCommand_local (type : UInt8) :
    Local 3 (Accepts (decodeIntervalCommand type)) := by
  refine local_of_fixed 3 4 _ (by decide) ?_ ?_
  · intro p command n
    grind [decodeIntervalCommand]
  · intro p q agree
    simp only [decodeIntervalCommand, hasHeader_agree agree, agree.readU16,
      Nat.not_lt.mpr agree.left, Nat.not_lt.mpr agree.right, Nat.reduceAdd, Nat.reduceLeDiff,
      if_false]

theorem decodeRuleStatusCommand_local : Local 3 (Accepts decodeRuleStatusCommand) := by
  refine local_of_fixed 3 5 _ (by decide) ?_ ?_
  · intro p command n
    grind [decodeRuleStatusCommand]
  · intro p q agree
    simp only [decodeRuleStatusCommand, hasHeader_agree agree, agree.bytes, agree.readU16,
      Nat.not_lt.mpr agree.left, Nat.not_lt.mpr agree.right, Nat.reduceLT, Nat.reduceAdd,
      Nat.reduceLeDiff, if_false]

theorem decodeRuleEnquiryCommand_local : Local 3 (Accepts decodeRuleEnquiryCommand) := by
  refine local_of_fixed 3 3 _ (by decide) ?_ ?_
  · intro p command n
    grind [decodeRuleEnquiryCommand]
  · intro p q agree
    simp only [decodeRuleEnquiryCommand, hasHeader_agree agree, agree.bytes,
      Nat.not_lt.mpr agree.left, Nat.not_lt.mpr agree.right, Nat.reduceLT, if_false,
      Nat.reduceLeDiff]

theorem decodeRs485SettingsCommand_local : Local 3 (Accepts decodeRs485SettingsCommand) := by
  refine local_of_fixed 3 9 _ (by decide) ?_ ?_
  · intro p command n
    grind [decodeRs485SettingsCommand]
  · intro p q agree
    simp only [decodeRs485SettingsCommand, hasHeader_agree agree, agree.bytes, agree.readU32,
      Nat.not_lt.mpr agree.left, Nat.not_lt.mpr agree.right, Nat.reduceLT, Nat.reduceAdd,
      Nat.reduceLeDiff, if_false]

theorem decodeModbusMasterSettingsCommand_local :
    Local 3 (Accepts decodeModbusMasterSettingsCommand) := by
  refine local_of_fixed 3 9 _ (by decide) ?_ ?_
  · intro p command n
    grind [decodeModbusMasterSettingsCommand]
  · intro p q agree
    simp only [decodeModbusMasterSettingsCommand, hasHeader_agree agree, agree.bytes,
      agree.readU16, Nat.not_lt.mpr agree.left, Nat.not_lt.mpr agree.right, Nat.reduceLT,
      Nat.reduceAdd, Nat.reduceLeDiff, if_false]

theorem decodeRs485SettingsEnquiryCommand_local :
    Local 3 (Accepts decodeRs485SettingsEnquiryCommand) := by
  refine local_of_fixed 3 3 _ (by decide) ?_ ?_
  · intro p command n
    grind [decodeRs485SettingsEnquiryCommand]
  · intro p q agree
    simp only [decodeRs485SettingsEnquiryCommand, hasHeader_agree agree, agree.bytes,
      Nat.not_lt.mpr agree.left, Nat.not_lt.mpr agree.right, Nat.reduceLT, if_false,
      Nat.reduceLeDiff]

theorem decodeReportIntervalCommand_local :
    Local 3 fun p settings n => decodeReportIntervalCommand p = some (settings, n) := by
  intro p settings n decoded
  have size : n = 4 ∧ 4 ≤ p.length := by grind [decodeReportIntervalCommand]
  obtain ⟨rfl, inside⟩ := size
  refine ⟨by decide, inside, fun q agree => ?_⟩
  refine Eq.trans ?_ decoded
  simp only [decodeReportIntervalCommand, hasHeader_agree agree, agree.readU16,
    Nat.not_lt.mpr agree.left, Nat.not_lt.mpr agree.right, Nat.reduceAdd, Nat.reduceLeDiff,
    if_false]

theorem decodeHistoryQueryCommand_local : Local 3 (Accepts decodeHistoryQueryCommand) := by
  intro p command n decoded
  unfold Accepts at decoded ⊢
  have size : (n = 6 ∧ byteAt p 1 = kHistoryPointType ∨ n = 10 ∧ byteAt p 1 = kHistoryRangeType ∨
      n = 3 ∧ byteAt p 1 = kHistoryStopType) ∧ n ≤ p.length := by
    grind [decodeHistoryQueryCommand]
  obtain ⟨kind, inside⟩ := size
  refine ⟨by omega, inside, fun q agree => ?_⟩
  rw [← decoded]
  have shortP : ¬ p.length < 3 := by omega
  have shortQ : ¬ q.length < 3 := by
    have := agree.right
    omega
  obtain ⟨rfl, type⟩ | ⟨rfl, type⟩ | ⟨rfl, type⟩ := kind
  · simp only [decodeHistoryQueryCommand, shortP, shortQ, agree.bytes, agree.readU32, type,
      Nat.not_lt.mpr agree.left, Nat.not_lt.mpr agree.right, Nat.reduceLT, Nat.reduceAdd,
      Nat.reduceLeDiff, beq_self_eq_true, if_true, if_false]
  · simp only [decodeHistoryQueryCommand, shortP, shortQ, agree.bytes, agree.readU32, type,
      Nat.not_lt.mpr agree.left, Nat.not_lt.mpr agree.right, Nat.reduceLT, Nat.reduceAdd,
      Nat.reduceLeDiff, beq_self_eq_true, if_true, if_false]
    rfl
  · simp only [decodeHistoryQueryCommand, shortP, shortQ, agree.bytes, type, Nat.reduceLT,
      if_false]
    rfl

theorem conditionLength_agree (p q : Bytes) (size : Nat) (shape : conditionLength p = .ok size)
    (agree : Agree (2 + size) p q) : 2 ≤ size ∧ conditionLength q = .ok size := by
  have least : 2 ≤ size := by grind [conditionLength]
  have left := agree.left
  have right := agree.right
  have subtype := agree.bytes 3
  have fourth := agree.bytes 4
  have fifth := agree.bytes 5
  have hour := agree.bytes 9
  have minute := agree.bytes 10
  grind [conditionLength]

theorem actionLength_agree (p q : Bytes) (size : Nat) (shape : actionLength p = .ok size)
    (agree : Agree (2 + size) p q) : 2 ≤ size ∧ actionLength q = .ok size := by
  have least : 2 ≤ size := by grind [actionLength]
  have left := agree.left
  have right := agree.right
  have kind := agree.bytes 3
  have message := agree.bytes 8
  grind [actionLength]

theorem ruleFrameShape_agree (p q : Bytes) (slot : Rules.RuleFrameSlot) (size : Nat)
    (shape : ruleFrameShape p = .ok (slot, size)) (agree : Agree (2 + size) p q) :
    2 ≤ size ∧ ruleFrameShape q = .ok (slot, size) := by
  have left := agree.left
  have right := agree.right
  have subtype := agree.bytes 3
  have action := actionLength_agree p q size
  have condition := conditionLength_agree p q size
  grind [ruleFrameShape, actionShape]

theorem decodeRuleConfigurationCommand_local :
    Local 3 (Accepts decodeRuleConfigurationCommand) := by
  intro p command n decoded
  unfold Accepts at decoded ⊢
  have shaped : ∃ slot size, ruleFrameShape p = .ok (slot, size) ∧ n = 2 + size ∧
      n ≤ p.length := by
    grind [decodeRuleConfigurationCommand]
  obtain ⟨slot, size, shape, rfl, inside⟩ := shaped
  have least := (ruleFrameShape_agree p p slot size shape ⟨inside, inside, fun _ _ => rfl⟩).1
  refine ⟨by omega, inside, fun q agree => ?_⟩
  have same := (ruleFrameShape_agree p q slot size shape agree).2
  have frame : q.take (2 + size) = p.take (2 + size) := by
    simpa using agree.slice (k := 0) (m := 2 + size) (by omega)
  have long : ¬ p.length < 4 := by omega
  have long' : ¬ q.length < 4 := by
    have := agree.right
    omega
  rw [← decoded]
  simp only [decodeRuleConfigurationCommand, shape, same, frame, long, long',
    hasHeader_agree agree (by omega : 2 ≤ 2 + size), agree.bytes 2 (by omega),
    agree.bytes 3 (by omega), Nat.not_lt.mpr agree.left, Nat.not_lt.mpr agree.right, if_false]

theorem decodeModbusChannelUpsert_local : Local 3 (Accepts decodeModbusChannelUpsert) := by
  refine local_of_fixed 3 9 _ (by decide) ?_ ?_
  · intro p command n
    grind [decodeModbusChannelUpsert]
  · intro p q agree
    simp only [decodeModbusChannelUpsert, agree.bytes, agree.readU16, Nat.not_lt.mpr agree.left,
      Nat.not_lt.mpr agree.right, Nat.reduceLT, Nat.reduceAdd, Nat.reduceLeDiff, if_false]

theorem decodeModbusChannelRemove_local : Local 3 (Accepts decodeModbusChannelRemove) := by
  refine local_of_fixed 3 4 _ (by decide) ?_ ?_
  · intro p command n
    grind [decodeModbusChannelRemove]
  · intro p q agree
    simp only [decodeModbusChannelRemove, agree.bytes, Nat.not_lt.mpr agree.left,
      Nat.not_lt.mpr agree.right, Nat.reduceLT, if_false]

theorem decodeModbusChannelSetName_local : Local 3 (Accepts decodeModbusChannelSetName) := by
  intro p command n decoded
  unfold Accepts at decoded ⊢
  have size : n = 5 + (byteAt p 4).toNat ∧ n ≤ p.length := by
    grind [decodeModbusChannelSetName]
  obtain ⟨rfl, inside⟩ := size
  refine ⟨by omega, inside, fun q agree => ?_⟩
  have named : (q.drop 5).take (byteAt p 4).toNat = (p.drop 5).take (byteAt p 4).toNat :=
    agree.slice (Nat.le_refl _)
  have long : ¬ p.length < 5 := by omega
  have long' : ¬ q.length < 5 := by
    have := agree.right
    omega
  rw [← decoded]
  simp only [decodeModbusChannelSetName, agree.bytes 3 (by omega), agree.bytes 4 (by omega), named,
    long, long', Nat.not_lt.mpr agree.left, Nat.not_lt.mpr agree.right, if_false]

theorem decodeModbusChannelCommand_local : Local 3 (Accepts decodeModbusChannelCommand) := by
  intro p command n decoded
  -- the operation is read before the rest, which its own decoder finds again
  have operation (decode : Bytes → Decoded ModbusChannelCommand)
      (isLocal : Local 3 (Accepts decode)) (accepted : Accepts decode p command n)
      (chosen : ∀ q, Agree 3 p q → decodeModbusChannelCommand q = decode q) :
      3 ≤ n ∧ n ≤ p.length ∧ ∀ q, Agree n p q → Accepts decodeModbusChannelCommand q command n := by
    obtain ⟨least, inside, found⟩ := isLocal p command n accepted
    refine ⟨least, inside, fun q agree => ?_⟩
    rw [Accepts, chosen q (agree.mono least)]
    exact found q agree
  unfold Accepts decodeModbusChannelCommand at decoded
  split at decoded
  · cases decoded
  split at decoded
  · cases decoded
  rename_i known
  split at decoded
  · rename_i upsert
    refine operation _ decodeModbusChannelUpsert_local decoded fun q agree => ?_
    simp only [decodeModbusChannelCommand, hasHeader_agree agree, agree.bytes, known, upsert,
      Nat.not_lt.mpr agree.right, Nat.reduceLT, Nat.reduceLeDiff,
      Bool.false_eq_true, if_true, if_false]
  · rename_i noUpsert
    split at decoded
    · rename_i remove
      refine operation _ decodeModbusChannelRemove_local decoded fun q agree => ?_
      simp only [decodeModbusChannelCommand, hasHeader_agree agree, agree.bytes, known, noUpsert,
        remove, Nat.not_lt.mpr agree.right, Nat.reduceLT, Nat.reduceLeDiff,
        Bool.false_eq_true, if_true, if_false]
    · rename_i noRemove
      split at decoded
      · rename_i setName
        refine operation _ decodeModbusChannelSetName_local decoded fun q agree => ?_
        simp only [decodeModbusChannelCommand, hasHeader_agree agree, agree.bytes, known, noUpsert,
          noRemove, setName, Nat.not_lt.mpr agree.right, Nat.reduceLT, Nat.reduceLeDiff,
          Bool.false_eq_true, if_true, if_false]
      · cases decoded

end Lorawan
