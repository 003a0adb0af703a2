import MultibusGateway.Rules.Schedule

/-! Acknowledged rules against executable rules. The decoder of rule configurations
decides what is stored and acknowledged; the channel condition, the server message and
the action decoders decide what is ever executed. The two agree exactly on the payloads
of `executablePayload`. -/

namespace Rules
open ByteString Modbus Lorawan

theorem decodeRuleConfiguration_cases (p : Bytes) (command : RuleConfigurationCommand)
    (consumed : Nat) (accepted : decodeRuleConfigurationCommand p = .ok (command, consumed)) :
    byteAt p 0 = 0xf9 ∧ byteAt p 1 = 0x7d ∧ command.subtype = byteAt p 3 ∧
      ∃ contentLength, ruleFrameShape p = .ok (command.slot, contentLength) ∧
        consumed = 2 + contentLength ∧ contentLength ≠ 0 ∧ contentLength ≤ 55 ∧
        2 + contentLength ≤ p.length ∧ command.frame = p.take (2 + contentLength) := by
  simp only [decodeRuleConfigurationCommand] at accepted
  split at accepted
  · cases accepted
  · split at accepted
    · cases accepted
    · rename_i header
      simp only [hasHeader, Bool.not_eq_true', Bool.not_eq_false, Bool.and_eq_true,
        beq_iff_eq] at header
      split at accepted
      · cases accepted
      · split at accepted
        · cases accepted
        · rename_i slot contentLength shape
          split at accepted
          · cases accepted
          · rename_i range
            simp only [Bool.or_eq_true, beq_iff_eq, decide_eq_true_eq, not_or] at range
            obtain ⟨rfl, rfl⟩ := Prod.mk.inj (Except.ok.inj accepted)
            exact ⟨header.1, header.2, rfl, contentLength, shape, rfl, range.1.1, by omega,
              by omega, rfl⟩

theorem actionShape_cases (p : Bytes) (action slot : RuleFrameSlot) (contentLength : Nat)
    (shape : actionShape p action = .ok (slot, contentLength)) :
    slot = action ∧ actionLength p = .ok contentLength := by
  simp only [actionShape] at shape
  split at shape
  · cases shape
  · rename_i length
    split at shape
    · cases shape
    · obtain ⟨rfl, rfl⟩ := Prod.mk.inj (Except.ok.inj shape)
      exact ⟨rfl, length⟩

theorem ruleFrameShape_cases (p : Bytes) (slot : RuleFrameSlot) (contentLength : Nat)
    (shape : ruleFrameShape p = .ok (slot, contentLength)) :
    (slot = .condition ∧ conditionLength p = .ok contentLength ∧
      0x11 ≤ byteAt p 3 ∧ byteAt p 3 ≤ 0x16) ∨
    (slot ≠ .condition ∧ actionLength p = .ok contentLength ∧
      ¬ (0x11 ≤ byteAt p 3 ∧ byteAt p 3 ≤ 0x16)) := by
  simp only [ruleFrameShape] at shape
  split at shape
  · rename_i range
    simp only [ge_iff_le, Bool.and_eq_true, decide_eq_true_eq] at range
    split at shape
    · cases shape
    · rename_i length
      obtain ⟨rfl, rfl⟩ := Prod.mk.inj (Except.ok.inj shape)
      exact Or.inl ⟨rfl, length, range⟩
  · rename_i range
    simp only [ge_iff_le, Bool.and_eq_true, decide_eq_true_eq] at range
    right
    split at shape
    · obtain ⟨rfl, length⟩ := actionShape_cases p .action1 slot contentLength shape
      exact ⟨by decide, length, range⟩
    · split at shape
      · obtain ⟨rfl, length⟩ := actionShape_cases p .action2 slot contentLength shape
        exact ⟨by decide, length, range⟩
      · split at shape
        · obtain ⟨rfl, length⟩ := actionShape_cases p .action3 slot contentLength shape
          exact ⟨by decide, length, range⟩
        · cases shape

theorem conditionLength_channel (p : Bytes) (contentLength : Nat) (subtype : byteAt p 3 = 0x12)
    (length : conditionLength p = .ok contentLength) :
    contentLength = 20 ∧ ¬ (byteAt p 4 < 1 ∨ byteAt p 4 > 32) ∧
      ¬ (byteAt p 5 &&& 0x0f > 0x07) ∧ ¬ ((byteAt p 5 >>> 4) &&& 0x0f > 0x01) := by
  simp only [conditionLength, subtype] at length
  rw [if_neg (by decide), if_pos (by decide)] at length
  split at length
  · cases length
  · split at length
    · cases length
    · rename_i channel
      split at length
      · cases length
      · rename_i modes
        simp only [Bool.or_eq_true, decide_eq_true_eq] at channel modes
        exact ⟨(Except.ok.inj length).symm, channel, fun h => modes (Or.inl h),
          fun h => modes (Or.inr h)⟩

theorem conditionLength_message (p : Bytes) (contentLength : Nat) (subtype : byteAt p 3 = 0x14)
    (length : conditionLength p = .ok contentLength) :
    contentLength = 3 + (byteAt p 4).toNat ∧ 2 ≤ (byteAt p 4).toNat ∧
      (byteAt p 4).toNat ≤ 48 := by
  simp only [conditionLength, subtype] at length
  rw [if_neg (by decide), if_neg (by decide), if_pos (by decide)] at length
  split at length
  · cases length
  · split at length
    · cases length
    · rename_i range
      split at length
      · cases length
      · simp only [Bool.or_eq_true, decide_eq_true_eq, UInt8.lt_iff_toNat_lt, gt_iff_lt,
          not_or, Nat.not_lt] at range
        exact ⟨(Except.ok.inj length).symm, range⟩

theorem conditionLength_least (p : Bytes) (contentLength : Nat)
    (length : conditionLength p = .ok contentLength) : 2 ≤ contentLength := by
  simp only [conditionLength] at length
  split at length
  · split at length
    · cases length
    · split at length <;> cases length
      omega
  · split at length
    · split at length
      · cases length
      · split at length
        · cases length
        · split at length <;> cases length
          omega
    · split at length
      · split at length
        · cases length
        · split at length
          · cases length
          · split at length <;> cases length
            omega
      · split at length <;> cases length
        omega

theorem actionLength_cases (p : Bytes) (contentLength : Nat)
    (length : actionLength p = .ok contentLength) :
    (byteAt p 3 &&& 0x0f = 0x00 ∧ contentLength = 2) ∨
    (byteAt p 3 &&& 0x0f = 0x01 ∧ contentLength = 7 + (byteAt p 8).toNat ∧
      1 ≤ (byteAt p 8).toNat ∧ (byteAt p 8).toNat ≤ 48) ∨
    (byteAt p 3 &&& 0x0f = 0x03 ∧ contentLength = 7 + (byteAt p 8).toNat ∧
      2 ≤ (byteAt p 8).toNat ∧ (byteAt p 8).toNat ≤ 48) ∨
    (byteAt p 3 &&& 0x0f = 0x04 ∧ contentLength = 6) ∨
    (byteAt p 3 &&& 0x0f = 0x06 ∧ contentLength = 6) ∨
    (byteAt p 3 &&& 0x0f = 0x05 ∧ contentLength = 7) := by
  have message : ∀ least : UInt8,
      (if p.length < 9 then Except.error DecodeStatus.truncated
        else if byteAt p 8 < least || byteAt p 8 > 48 then .error .invalid
        else .ok (7 + (byteAt p 8).toNat)) = .ok contentLength →
      contentLength = 7 + (byteAt p 8).toNat ∧ least.toNat ≤ (byteAt p 8).toNat ∧
        (byteAt p 8).toNat ≤ 48 := by
    intro least result
    split at result
    · cases result
    · split at result
      · cases result
      · rename_i range
        simp only [Bool.or_eq_true, decide_eq_true_eq, UInt8.lt_iff_toNat_lt, gt_iff_lt,
          not_or, Nat.not_lt] at range
        exact ⟨(Except.ok.inj result).symm, range⟩
  simp only [actionLength, beq_iff_eq, Bool.or_eq_true] at length
  split at length
  · rename_i kind
    exact Or.inl ⟨kind, (Except.ok.inj length).symm⟩
  · split at length
    · rename_i kind
      exact Or.inr (Or.inl ⟨kind, message 1 (by simpa only [Bool.or_eq_true] using length)⟩)
    · split at length
      · cases length
      · split at length
        · rename_i kind
          exact Or.inr (Or.inr (Or.inl ⟨kind, message 2 (by simpa only [Bool.or_eq_true] using length)⟩))
        · split at length
          · rename_i kind
            have six := (Except.ok.inj length).symm
            rcases kind with kind | kind
            · exact Or.inr (Or.inr (Or.inr (Or.inl ⟨kind, six⟩)))
            · exact Or.inr (Or.inr (Or.inr (Or.inr (Or.inl ⟨kind, six⟩))))
          · split at length
            · rename_i kind
              exact Or.inr (Or.inr (Or.inr (Or.inr (Or.inr ⟨kind, (Except.ok.inj length).symm⟩))))
            · cases length

/-! Stored frames. -/

structure Holds (frame : StoredFrame) (p : Bytes) (length : Nat) : Prop where
  length_eq : frame.length.toNat = length
  bytes_eq : ∀ k < length, byteAt frame.bytes k = byteAt p k

theorem holds_set (p : Bytes) (n : Nat) (old frame : StoredFrame) (short : n ≤ p.length)
    (stored : old.set (p.take n) = some frame) : Holds frame p n := by
  obtain ⟨-, -, length, same⟩ := StoredFrame.set_cases old frame (p.take n) stored
  rw [List.length_take_of_le short] at length same
  refine ⟨length, fun k hk => ?_⟩
  rw [same k hk, byteAt_take p n k hk]

theorem Holds.present {frame : StoredFrame} {p : Bytes} {n : Nat} (holds : Holds frame p n)
    (some : n ≠ 0) : frame.present = true := by
  rw [StoredFrame.present, bne_iff_ne]
  intro zero
  have := holds.length_eq
  rw [zero] at this
  exact some this.symm

theorem Holds.length_beq {frame : StoredFrame} {p : Bytes} {n : Nat} (holds : Holds frame p n)
    (size : UInt8) (h : size.toNat = n) : frame.length = size :=
  UInt8.toNat_inj.mp (holds.length_eq.trans h.symm)

theorem Holds.readU32 {frame : StoredFrame} {p : Bytes} {n : Nat} (holds : Holds frame p n)
    (k : Nat) (h : k + 4 ≤ n) : readU32 frame.bytes k = ByteString.readU32 p k :=
  readU32_congr _ _ k fun i hi => holds.bytes_eq (k + i) (by omega)

/-! The exact condition. -/

def finiteAt (p : Bytes) (k : Nat) : Bool := (readFloat32Le p k).isFinite

def timeAt (p : Bytes) (k : Nat) : Bool := readU32 p k ≤ kMaxRuleTimeMs

/-- Payloads of rule configurations, given that the decoder accepts them, that the
executing side can use: a channel condition names a mode there is, times of at most a
day and finite bounds; a server message has bytes of the message alphabet only; a
delayed action waits at most a day, its text has two bytes, its release flag is 0 or 1. -/
def executablePayload (p : Bytes) : Bool :=
  let subtype := byteAt p 3
  if 0x11 ≤ subtype && subtype ≤ 0x16 then
    if subtype == 0x12 then
      let mode := byteAt p 5 &&& 0x0f
      mode != 5 && timeAt p 6 && timeAt p 10 && finiteAt p 18 &&
        (if mode == 7 then timeAt p 14 else finiteAt p 14)
    else if subtype == 0x14 then ((p.drop 5).take (byteAt p 4).toNat).all allowedServerMessageByte
    else true
  else
    let actionKind := subtype &&& 0x0f
    if actionKind == 0x00 then true
    else if actionKind == 0x01 then timeAt p 4 && byteAt p 8 ≥ 2
    else if actionKind == 0x05 then timeAt p 4 && byteAt p 8 ≤ 1
    else timeAt p 4

theorem mode_ofRaw (value : UInt8) (range : ¬ (value > 0x07)) :
    (ChannelThresholdMode.ofRaw value = none ↔ value = 5) ∧
      (ChannelThresholdMode.ofRaw value = some .changeInterval ↔ value = 7) := by
  have table : ∀ n < 8,
      (ChannelThresholdMode.ofRaw (UInt8.ofNat n) = none ↔ UInt8.ofNat n = 5) ∧
        (ChannelThresholdMode.ofRaw (UInt8.ofNat n) = some .changeInterval ↔
          UInt8.ofNat n = 7) := by
    decide
  have small : value.toNat < 8 := by
    have := UInt8.lt_iff_toNat_lt.not.mp range
    have seven : (0x07 : UInt8).toNat = 7 := rfl
    omega
  simpa using table value.toNat small

theorem channelCondition_iff (p : Bytes) (frame : StoredFrame) (holds : Holds frame p 22)
    (channel : byteAt p 0 = 0xf9) (type : byteAt p 1 = 0x7d) (subtype : byteAt p 3 = 0x12)
    (slots : ¬ (byteAt p 4 < 1 ∨ byteAt p 4 > 32)) (modes : ¬ (byteAt p 5 &&& 0x0f > 0x07))
    (continues : ¬ ((byteAt p 5 >>> 4) &&& 0x0f > 0x01)) :
    (decodeChannelCondition frame).isSome = executablePayload p := by
  have rule : ruleFrame frame 0x12 = true := by
    simp [ruleFrame, holds.present (by omega), holds.bytes_eq, channel, type, subtype]
  have length : frame.length = 22 := holds.length_beq 22 rfl
  have guards : (decide (byteAt p 4 < 1) || decide (byteAt p 4 > 32) ||
      decide ((byteAt p 5 >>> 4) &&& 0x0f > 0x01)) = false := by
    rw [Bool.or_eq_false_iff, Bool.or_eq_false_iff]
    exact ⟨⟨decide_eq_false fun h => slots (Or.inl h), decide_eq_false fun h => slots (Or.inr h)⟩,
      decide_eq_false continues⟩
  obtain ⟨none, interval⟩ := mode_ofRaw (byteAt p 5 &&& 0x0f) modes
  simp only [decodeChannelCondition, rule, length, holds.bytes_eq 4 (by omega),
    holds.bytes_eq 5 (by omega), holds.readU32 6 (by omega), holds.readU32 10 (by omega),
    holds.readU32 14 (by omega), readFloat32Le, holds.readU32 18 (by omega), guards]
  simp only [executablePayload, subtype, finiteAt, timeAt, readFloat32Le]
  cases mode : ChannelThresholdMode.ofRaw (byteAt p 5 &&& 0x0f) with
  | none => simp [none.mp mode]
  | some mode' =>
    have named : byteAt p 5 &&& 0x0f ≠ 5 := fun five => by simp [none.mpr five] at mode
    rw [mode, Option.some.injEq] at interval
    have day : ∀ time : UInt32, decide (time > kMaxRuleTimeMs) =
        !decide (time ≤ kMaxRuleTimeMs) := by
      intro time
      by_cases late : time > kMaxRuleTimeMs
      · simp [late]
      · simp [late, UInt32.not_lt.mp late]
    have zero : Binary32.isFinite ⟨0⟩ = true := by decide
    by_cases seven : byteAt p 5 &&& 0x0f = 7
    · obtain rfl := interval.mpr seven
      simp only [seven, day, zero, Bool.not_true, Bool.false_eq_true, if_false, if_true]
      generalize decide (readU32 p 6 ≤ kMaxRuleTimeMs) = a
      generalize decide (readU32 p 10 ≤ kMaxRuleTimeMs) = b
      generalize decide (readU32 p 14 ≤ kMaxRuleTimeMs) = c
      generalize Binary32.isFinite ⟨readU32 p 18⟩ = d
      cases a <;> cases b <;> cases c <;> cases d <;> rfl
    · have other : mode' ≠ .changeInterval := fun h => seven (interval.mp h)
      have noInterval : decide ((0 : UInt32) ≤ kMaxRuleTimeMs) = true := by decide
      simp only [other, day, noInterval, Bool.not_true, Bool.false_eq_true, if_false]
      generalize decide (readU32 p 6 ≤ kMaxRuleTimeMs) = a
      generalize decide (readU32 p 10 ≤ kMaxRuleTimeMs) = b
      generalize Binary32.isFinite ⟨readU32 p 14⟩ = c
      generalize Binary32.isFinite ⟨readU32 p 18⟩ = d
      revert a b c d
      simp [named, seven]

def Usable (plan : ActionPlan) : Prop :=
  plan.action ≠ .unsupported ∧ Schedule.ActionPlan.Sendable plan

theorem actionOfKind_message (p : Bytes) (frame : StoredFrame) (delayMs : UInt32)
    (holds : Holds frame p (9 + (byteAt p 8).toNat)) (least : 1 ≤ (byteAt p 8).toNat)
    (most : (byteAt p 8).toNat ≤ 48) :
    actionOfKind frame 0x01 delayMs =
        { action := .serverMessage, delayMs := delayMs,
          payload := (frame.bytes.drop 9).take (byteAt p 8).toNat } ∧
      (2 ≤ (byteAt p 8).toNat → actionOfKind frame 0x03 delayMs =
        { action := .rawRs485, delayMs := delayMs,
          payload := (frame.bytes.drop 9).take (byteAt p 8).toNat }) := by
  have length := holds.length_eq
  have byte := holds.bytes_eq 8 (by omega)
  have ten : frame.length ≥ 10 := by
    rw [ge_iff_le, UInt8.le_iff_toNat_le, length]
    change 10 ≤ _
    omega
  have one : ¬ (byteAt p 8 < 1) := by
    rw [UInt8.lt_iff_toNat_lt]
    change ¬ (_ < 1)
    omega
  have limit : ¬ (byteAt p 8 > 48) := by
    rw [gt_iff_lt, UInt8.lt_iff_toNat_lt]
    change ¬ (48 < _)
    omega
  constructor
  · simp [actionOfKind, ten, byte, length, one, limit]
  · intro two
    have eleven : frame.length ≥ 11 := by
      rw [ge_iff_le, UInt8.le_iff_toNat_le, length]
      change 11 ≤ _
      omega
    have two' : ¬ (byteAt p 8 < 2) := by
      rw [UInt8.lt_iff_toNat_lt]
      change ¬ (_ < 2)
      omega
    simp [actionOfKind, eleven, byte, length, two', limit]

theorem payload_length (frame : StoredFrame) (n : Nat) (most : n ≤ 48) :
    ((frame.bytes.drop 9).take n).length = n := by
  have size := frame.bytes_length
  have limit : kMaxRuleFrameLength = 58 := rfl
  rw [List.length_take, List.length_drop]
  omega

/-- An accepted action frame is not taken for an absent one, and its plan is usable exactly
when the payload is executable. -/
theorem action_iff (p : Bytes) (frame : StoredFrame) (contentLength : Nat)
    (holds : Holds frame p (2 + contentLength)) (channel : byteAt p 0 = 0xf9)
    (type : byteAt p 1 = 0x7d) (length : actionLength p = .ok contentLength)
    (action : ¬ (0x11 ≤ byteAt p 3 ∧ byteAt p 3 ≤ 0x16)) (kind : byteAt p 3 &&& 0x0f ≠ 0x00) :
    (decodeExecutableAction frame).action ≠ .none ∧
      (Usable (decodeExecutableAction frame) ↔ executablePayload p = true) := by
  have least : 6 ≤ contentLength := by
    rcases actionLength_cases p contentLength length with
      ⟨zero, -⟩ | ⟨-, h, -⟩ | ⟨-, h, -⟩ | ⟨-, h⟩ | ⟨-, h⟩ | ⟨-, h⟩
    · exact absurd zero kind
    all_goals omega
  have size : ∀ k : UInt8, k.toNat ≤ 8 → ¬ (frame.length < k) := by
    intro k small
    rw [UInt8.lt_iff_toNat_lt, holds.length_eq]
    omega
  have shape : executablePayload p = (timeAt p 4 &&
      if byteAt p 3 &&& 0x0f == 0x01 then decide (byteAt p 8 ≥ 2)
      else if byteAt p 3 &&& 0x0f == 0x05 then decide (byteAt p 8 ≤ 1)
      else true) := by
    simp only [executablePayload, Bool.and_eq_true, decide_eq_true_eq, action, if_false,
      beq_iff_eq, kind]
    split
    · rfl
    · split <;> simp
  have decoded : decodeExecutableAction frame =
      if readU32 p 4 > kMaxRuleTimeMs then { action := .unsupported, delayMs := readU32 p 4 }
      else actionOfKind frame (byteAt p 3 &&& 0x0f) (readU32 p 4) := by
    simp [decodeExecutableAction, holds.present (by omega), size 4 (by decide), size 8 (by decide),
      holds.bytes_eq 0 (by omega), holds.bytes_eq 1 (by omega), holds.bytes_eq 3 (by omega),
      holds.readU32 4 (by omega), channel, type, kind]
  rw [decoded, shape, timeAt]
  by_cases late : readU32 p 4 > kMaxRuleTimeMs
  · simp [late, Usable]
  · rw [if_neg late, decide_eq_true (UInt32.not_lt.mp late), Bool.true_and]
    rcases actionLength_cases p contentLength length with
      ⟨zero, -⟩ | ⟨one, rfl, least, most⟩ | ⟨three, rfl, least, most⟩ | ⟨four, rfl⟩ | ⟨six, rfl⟩ |
      ⟨five, rfl⟩
    · exact absurd zero kind
    · rw [one, (actionOfKind_message p frame _ (by simpa [← Nat.add_assoc] using holds)
        least most).1]
      refine ⟨by simp, ?_⟩
      simp only [Usable, Schedule.ActionPlan.Sendable, payload_length frame _ most]
      simp [UInt8.le_iff_toNat_le, most]
    · rw [three, (actionOfKind_message p frame _ (by simpa [← Nat.add_assoc] using holds)
        (by omega) most).2 least]
      refine ⟨by simp, ?_⟩
      simp only [Usable, Schedule.ActionPlan.Sendable, payload_length frame _ most]
      simp [least, most]
    · rw [four]
      simp [actionOfKind, holds.length_beq 8 rfl, Usable, Schedule.ActionPlan.Sendable]
    · rw [six]
      simp [actionOfKind, holds.length_beq 8 rfl, Usable, Schedule.ActionPlan.Sendable]
    · rw [five]
      by_cases flag : byteAt p 8 ≤ 1
      · simp [actionOfKind, holds.length_beq 9 rfl, holds.bytes_eq 8 (by omega), Usable,
          Schedule.ActionPlan.Sendable, UInt8.not_lt.mpr flag, flag]
      · simp [actionOfKind, holds.length_beq 9 rfl, holds.bytes_eq 8 (by omega), Usable,
          UInt8.not_le.mp flag]

/-! The agreement. -/

def storedMessage (frame : StoredFrame) : Bytes :=
  (frame.bytes.drop 5).take (byteAt frame.bytes 4).toNat

def actionIndex : RuleFrameSlot → Nat
  | .condition | .action1 => 0
  | .action2 => 1
  | .action3 => 2

/-- Triggered with an alarm context, a rule with this frame gets the action pending, and
the action is not counted as unsupported. -/
def MadePending (slot : RuleFrameSlot) (frame : StoredFrame) : Prop :=
  ∀ (record : RuleRecord) (nowMs : UInt32) (ruleId : UInt8) (context : AlarmContext)
    (s : Schedule), record.frames slot = frame →
    let entry := (Schedule.scheduleRuleActions nowMs ruleId record (some context) false s).scheduled
      (scheduleSlot ruleId (actionIndex slot) false)
    entry.pending = true ∧ entry.action = (decodeExecutableAction frame).action ∧
      (Schedule.scheduleAction nowMs ruleId record (some context) false s
        (actionIndex slot)).unsupportedActions = s.unsupportedActions

/-- The stored frame of an acknowledged configuration is one that rules are executed by. -/
structure Executable (command : RuleConfigurationCommand) (frame : StoredFrame) : Prop where
  condition : command.subtype = 0x12 → ∃ plan, decodeChannelCondition frame = some plan
  message : command.subtype = 0x14 → validServerMessage (storedMessage frame) = true ∧
    matchesServerMessageCondition frame (storedMessage frame) = true
  action : command.slot ≠ .condition → command.subtype &&& 0x0f ≠ 0x00 →
    (decodeExecutableAction frame).action ≠ .unsupported ∧ MadePending command.slot frame

theorem actionFrame_slot (record : RuleRecord) (slot : RuleFrameSlot) (h : slot ≠ .condition) :
    actionFrame record (actionIndex slot) = record.frames slot := by
  cases slot with
  | condition => exact absurd rfl h
  | action1 => rfl
  | action2 => rfl
  | action3 => rfl

theorem madePending_iff (slot : RuleFrameSlot) (frame : StoredFrame) (h : slot ≠ .condition)
    (acts : (decodeExecutableAction frame).action ≠ .none) :
    ((decodeExecutableAction frame).action ≠ .unsupported ∧ MadePending slot frame) ↔
      Usable (decodeExecutableAction frame) := by
  have index : actionIndex slot < 3 := by
    cases slot <;> decide
  constructor
  · rintro ⟨supported, pending⟩
    refine ⟨supported, ?_⟩
    by_contra refused
    have decoded : decodeExecutableAction (actionFrame { frames := fun _ => frame }
        (actionIndex slot)) = decodeExecutableAction frame := by
      rw [actionFrame_slot _ slot h]
    obtain ⟨t, last⟩ := Schedule.scheduleRuleActions_slot 0 1 { frames := fun _ => frame }
      (some ⟨{}, .boolean true, .threshold, ⟨0⟩⟩) false {} (actionIndex slot) index
    have cleared := (pending { frames := fun _ => frame } 0 1
      ⟨{}, .boolean true, .threshold, ⟨0⟩⟩ {} rfl).1
    rw [last, Schedule.scheduleAction_refused _ _ _ _ t _ _ decoded refused] at cleared
    simp [Schedule.countUnsupported, Schedule.set] at cleared
  · rintro ⟨supported, sendable⟩
    refine ⟨supported, ?_⟩
    intro record nowMs ruleId context s same
    have decoded : decodeExecutableAction (actionFrame record (actionIndex slot)) =
        decodeExecutableAction frame := by rw [actionFrame_slot record slot h, same]
    obtain ⟨t, last⟩ := Schedule.scheduleRuleActions_slot nowMs ruleId record (some context) false s
      (actionIndex slot) index
    obtain ⟨entry, placed, pending, action⟩ := Schedule.scheduleAction_pending nowMs ruleId record
      context t (actionIndex slot) _ decoded acts supported sendable
    obtain ⟨_, placed', -, -⟩ := Schedule.scheduleAction_pending nowMs ruleId record
      context s (actionIndex slot) _ decoded acts supported sendable
    simp only [last, placed, placed', Schedule.set, Function.update_self]
    exact ⟨pending, action, trivial⟩

theorem server_message_iff (p : Bytes) (frame : StoredFrame)
    (holds : Holds frame p (5 + (byteAt p 4).toNat)) (channel : byteAt p 0 = 0xf9)
    (type : byteAt p 1 = 0x7d) (subtype : byteAt p 3 = 0x14) (least : 2 ≤ (byteAt p 4).toNat)
    (most : (byteAt p 4).toNat ≤ 48) (short : 5 + (byteAt p 4).toNat ≤ p.length) :
    (validServerMessage (storedMessage frame) = true ∧
      matchesServerMessageCondition frame (storedMessage frame) = true) ↔
        executablePayload p = true := by
  have rule : ruleFrame frame 0x14 = true := by
    simp [ruleFrame, holds.present (by omega), holds.bytes_eq 0 (by omega),
      holds.bytes_eq 1 (by omega), holds.bytes_eq 3 (by omega), channel, type, subtype]
  have seven : ¬ (frame.length < 7) := by
    rw [UInt8.lt_iff_toNat_lt, holds.length_eq]
    change ¬ (_ < 7)
    omega
  have byte := holds.bytes_eq 4 (by omega)
  have limit : kMaxRuleFrameLength = 58 := rfl
  have size : (storedMessage frame).length = (byteAt p 4).toNat := by
    rw [storedMessage, byte, List.length_take, List.length_drop, frame.bytes_length]
    omega
  have same : storedMessage frame = (p.drop 5).take (byteAt p 4).toNat := by
    apply List.ext_getElem
    · rw [size, List.length_take, List.length_drop]
      omega
    · intro i hi hs
      rw [size] at hi
      have far := holds.bytes_eq (5 + i) (by omega)
      rw [byteAt_eq_getElem _ _ (by rw [frame.bytes_length]; omega),
        byteAt_eq_getElem _ _ (by omega)] at far
      simpa [storedMessage] using far
  have stores : storesMessage frame (storedMessage frame) = true := by
    simp only [storesMessage, byte, size, holds.length_eq, beq_self_eq_true, Bool.true_and]
    rw [storedMessage, byte, beq_self_eq_true]
  have valid : validServerMessage (storedMessage frame) = executablePayload p := by
    rw [validServerMessage, size, same]
    simp [executablePayload, subtype, Nat.not_lt.mpr least, Nat.not_lt.mpr most]
  simp only [matchesServerMessageCondition, rule, seven, stores, valid]
  cases executablePayload p <;> simp

/-- Whenever the decoder accepts a rule configuration, its frame is stored, and rules are
executed by the stored frame if and only if the payload is an executable one. -/
theorem acknowledged_executable_iff (p : Bytes) (command : RuleConfigurationCommand)
    (consumed : Nat) (old : StoredFrame)
    (accepted : decodeRuleConfigurationCommand p = .ok (command, consumed)) :
    ∃ frame, old.set command.frame = some frame ∧
      (Executable command frame ↔ executablePayload p = true) := by
  obtain ⟨channel, type, subtype, contentLength, shape, -, -, range, short, content⟩ :=
    decodeRuleConfiguration_cases p command consumed accepted
  have limit : kMaxRuleFrameLength = 58 := rfl
  have least : 2 ≤ contentLength := by
    rcases ruleFrameShape_cases p _ contentLength shape with ⟨-, length, -⟩ | ⟨-, length, -⟩
    · exact conditionLength_least p contentLength length
    · rcases actionLength_cases p contentLength length with
        ⟨-, h⟩ | ⟨-, h, -⟩ | ⟨-, h, -⟩ | ⟨-, h⟩ | ⟨-, h⟩ | ⟨-, h⟩ <;> omega
  obtain ⟨frame, stored⟩ : ∃ frame, old.set command.frame = some frame := by
    rw [StoredFrame.set, dif_neg (by rw [content, List.length_take_of_le short]; omega)]
    exact ⟨_, rfl⟩
  refine ⟨frame, stored, ?_⟩
  rw [content] at stored
  have holds := holds_set p _ old frame short stored
  rcases ruleFrameShape_cases p _ contentLength shape with
    ⟨condition, length, lower, upper⟩ | ⟨action, length, range⟩
  · have noAction : ¬ command.slot ≠ .condition := fun h => h condition
    by_cases channelRule : byteAt p 3 = 0x12
    · obtain ⟨rfl, slots, modes, continues⟩ := conditionLength_channel p contentLength channelRule length
      rw [← channelCondition_iff p frame holds channel type channelRule slots modes continues,
        Option.isSome_iff_exists]
      constructor
      · intro executable
        exact executable.condition (subtype.trans channelRule)
      · intro plan
        refine ⟨fun _ => plan, fun message => ?_, fun h => absurd h noAction⟩
        rw [subtype, channelRule] at message
        exact absurd message (by decide)
    · by_cases messageRule : byteAt p 3 = 0x14
      · obtain ⟨rfl, least, most⟩ := conditionLength_message p contentLength messageRule length
        rw [← Nat.add_assoc] at holds short
        rw [← server_message_iff p frame holds channel type messageRule least most short]
        constructor
        · intro executable
          exact executable.message (subtype.trans messageRule)
        · intro matched
          refine ⟨fun h => ?_, fun _ => matched, fun h => absurd h noAction⟩
          exact absurd (subtype.symm.trans h) channelRule
      · have always : executablePayload p = true := by
          simp [executablePayload, lower, upper, channelRule, messageRule]
        rw [always]
        refine iff_of_true ⟨fun h => ?_, fun h => ?_, fun h => absurd h noAction⟩ rfl
        · exact absurd (subtype.symm.trans h) channelRule
        · exact absurd (subtype.symm.trans h) messageRule
  · have noChannel : command.subtype ≠ 0x12 := by
      intro h
      rw [subtype] at h
      exact range (by rw [h]; decide)
    have noMessage : command.subtype ≠ 0x14 := by
      intro h
      rw [subtype] at h
      exact range (by rw [h]; decide)
    by_cases kind : byteAt p 3 &&& 0x0f = 0x00
    · have always : executablePayload p = true := by
        simp [executablePayload, range, kind]
      rw [always]
      exact iff_of_true ⟨fun h => absurd h noChannel, fun h => absurd h noMessage,
        fun _ h => absurd (subtype ▸ kind) h⟩ rfl
    · obtain ⟨acts, usable⟩ := action_iff p frame contentLength holds channel type length range kind
      rw [← usable, ← madePending_iff command.slot frame action acts]
      constructor
      · intro executable
        exact executable.action action (subtype ▸ kind)
      · intro pending
        exact ⟨fun h => absurd h noChannel, fun h => absurd h noMessage, fun _ _ => pending⟩

/-- A configuration of rule 1 by a channel condition of the mode 5 that does not exist. -/
def modeFivePayload : Bytes := [0xf9, 0x7d, 0x81, 0x12, 0x01, 0x05] ++ List.replicate 16 0

theorem acknowledged_modeFive :
    ∃ frame, ({} : StoredFrame).set modeFivePayload = some frame ∧
      (Executable { ruleId := 1, enabled := true, subtype := 0x12, frame := modeFivePayload } frame ↔
        executablePayload modeFivePayload = true) :=
  acknowledged_executable_iff modeFivePayload
    { ruleId := 1, enabled := true, subtype := 0x12, frame := modeFivePayload } 22 {} (by decide)

theorem acknowledged_not_executable :
    ¬ ∀ (p : Bytes) (command : RuleConfigurationCommand) (consumed : Nat) (old frame : StoredFrame),
      decodeRuleConfigurationCommand p = .ok (command, consumed) →
      old.set command.frame = some frame → Executable command frame := by
  intro executable
  have stored : ∃ frame, ({} : StoredFrame).set modeFivePayload = some frame ∧
      decodeChannelCondition frame = none := ⟨_, rfl, by decide⟩
  obtain ⟨frame, set, none⟩ := stored
  obtain ⟨plan, some⟩ := (executable modeFivePayload
    { ruleId := 1, enabled := true, subtype := 0x12, frame := modeFivePayload } 22 {} frame
    (by decide) set).condition rfl
  rw [none] at some
  cases some

end Rules
