import MultibusGateway.Lorawan.Uplink
import MultibusGateway.Rules.Execution

/-! The schedule of rule actions. A rule has a slot for each of its three actions, and a
second one for the release alarm of each; a trigger fills slots, and the executor later
takes up the ones that are due. -/

namespace Rules
open ByteString Modbus Lorawan WrapClock

structure ScheduledRuleAction where
  pending : Bool := false
  action : ExecutableAction := .none
  dueAtMs : UInt32 := 0
  ruleId : UInt8 := 0
  actionSlot : Nat := 0
  payload : Bytes := []
  alarmContextValid : Bool := false
  alarmChannel : ChannelConfig := {}
  alarmValue : DecodedScalar := .unsignedInteger 0
  alarmKind : AlarmKind := .threshold
  alarmChangeValue : Binary64 := ⟨0⟩
  deriving DecidableEq

structure AlarmContext where
  channel : ChannelConfig
  value : DecodedScalar
  kind : AlarmKind := .threshold
  changeValue : Binary64 := ⟨0⟩

structure Schedule where
  scheduled : Nat → ScheduledRuleAction := fun _ => {}
  unsupportedActions : UInt32 := 0
  triggers : UInt32 := 0

def kScheduleSlots : Nat := kRuleCount * 6

def scheduleSlot (ruleId : UInt8) (actionIndex : Nat) (releaseOnly : Bool) : Nat :=
  let baseSlot := (ruleId.toNat - 1) * 3 + actionIndex
  if releaseOnly then baseSlot + kRuleCount * 3 else baseSlot

def actionFrame (record : RuleRecord) (actionIndex : Nat) : StoredFrame :=
  match actionIndex with
  | 0 => record.frames .action1
  | 1 => record.frames .action2
  | _ => record.frames .action3

namespace Schedule

def set (s : Schedule) (slot : Nat) (entry : ScheduledRuleAction) : Schedule :=
  { s with scheduled := Function.update s.scheduled slot entry }

def countUnsupported (s : Schedule) : Schedule :=
  { s with unsupportedActions := s.unsupportedActions + 1 }

def scheduleAction (nowMs : UInt32) (ruleId : UInt8) (record : RuleRecord)
    (alarm : Option AlarmContext) (releaseOnly : Bool) (s : Schedule) (actionIndex : Nat) :
    Schedule :=
  let plan := decodeExecutableAction (actionFrame record actionIndex)
  if plan.action = .none then s
  else if releaseOnly && plan.action != .uploadAlarm then s
  else if plan.action = .unsupported then s.countUnsupported
  else
    let slot := scheduleSlot ruleId actionIndex releaseOnly
    let entry :=
      { s.scheduled slot with
        pending := true
        action := plan.action
        dueAtMs := nowMs + plan.delayMs
        ruleId := ruleId
        actionSlot := actionIndex }
    match plan.action with
    | .uploadAlarm =>
      match alarm with
      | none => (s.set slot {}).countUnsupported
      | some context =>
        if releaseOnly && !plan.thresholdReleaseEnabled then s.set slot {}
        else s.set slot
          { entry with
            alarmContextValid := true
            alarmChannel := context.channel
            alarmValue := context.value
            alarmKind := if releaseOnly then .thresholdRelease else context.kind
            alarmChangeValue := context.changeValue }
    | .rawRs485 | .serverMessage =>
      if plan.payload.length < 2 || plan.payload.length > 48 then
        (s.set slot {}).countUnsupported
      else s.set slot { entry with payload := plan.payload }
    | _ => s.set slot entry

def scheduleRuleActions (nowMs : UInt32) (ruleId : UInt8) (record : RuleRecord)
    (alarm : Option AlarmContext) (releaseOnly : Bool) (s : Schedule) : Schedule :=
  let s := (List.range 3).foldl (scheduleAction nowMs ruleId record alarm releaseOnly) s
  { s with triggers := s.triggers + 1 }

def cancelScheduledRuleActions (ruleId : UInt8) (s : Schedule) : Schedule :=
  { s with scheduled := fun slot =>
      if (s.scheduled slot).pending && (s.scheduled slot).ruleId == ruleId then {}
      else s.scheduled slot }

theorem scheduleSlot_injective (ruleId : UInt8) (releaseOnly : Bool) (i j : Nat)
    (same : scheduleSlot ruleId i releaseOnly = scheduleSlot ruleId j releaseOnly) : i = j := by
  simp only [scheduleSlot] at same
  split at same <;> omega

theorem scheduleAction_apart (nowMs : UInt32) (ruleId : UInt8) (record : RuleRecord)
    (alarm : Option AlarmContext) (releaseOnly : Bool) (s : Schedule) (actionIndex slot : Nat)
    (apart : slot ≠ scheduleSlot ruleId actionIndex releaseOnly) :
    (scheduleAction nowMs ruleId record alarm releaseOnly s actionIndex).scheduled slot =
      s.scheduled slot := by
  simp only [scheduleAction]
  split
  · rfl
  · split
    · rfl
    · split
      · rfl
      · split
        · split
          · simp [set, countUnsupported, apart]
          · split <;> simp [set, apart]
        · split <;> simp [set, countUnsupported, apart]
        · split <;> simp [set, countUnsupported, apart]
        · simp [set, apart]

theorem scheduleRuleActions_slot (nowMs : UInt32) (ruleId : UInt8) (record : RuleRecord)
    (alarm : Option AlarmContext) (releaseOnly : Bool) (s : Schedule) (i : Nat) (h : i < 3) :
    ∃ t : Schedule, (scheduleRuleActions nowMs ruleId record alarm releaseOnly s).scheduled
        (scheduleSlot ruleId i releaseOnly) =
      (scheduleAction nowMs ruleId record alarm releaseOnly t i).scheduled
        (scheduleSlot ruleId i releaseOnly) := by
  have other : ∀ (t : Schedule) (j : Nat), i ≠ j →
      (scheduleAction nowMs ruleId record alarm releaseOnly t j).scheduled
        (scheduleSlot ruleId i releaseOnly) = t.scheduled (scheduleSlot ruleId i releaseOnly) :=
    fun t j apart => scheduleAction_apart _ _ _ _ _ t j _
      fun same => apart (scheduleSlot_injective ruleId releaseOnly i j same)
  change ∃ t : Schedule, (scheduleAction nowMs ruleId record alarm releaseOnly
    (scheduleAction nowMs ruleId record alarm releaseOnly
      (scheduleAction nowMs ruleId record alarm releaseOnly s 0) 1) 2).scheduled
        (scheduleSlot ruleId i releaseOnly) = _
  match i, h, other with
  | 0, _, other => exact ⟨s, by rw [other _ 2 (by omega), other _ 1 (by omega)]⟩
  | 1, _, other => exact ⟨_, by rw [other _ 2 (by omega)]⟩
  | 2, _, _ => exact ⟨_, rfl⟩

def ActionPlan.Sendable (plan : ActionPlan) : Prop :=
  plan.action = .serverMessage ∨ plan.action = .rawRs485 →
    2 ≤ plan.payload.length ∧ plan.payload.length ≤ 48

theorem scheduleAction_pending (nowMs : UInt32) (ruleId : UInt8) (record : RuleRecord)
    (context : AlarmContext) (s : Schedule) (actionIndex : Nat) (plan : ActionPlan)
    (decoded : decodeExecutableAction (actionFrame record actionIndex) = plan)
    (acts : plan.action ≠ .none) (supported : plan.action ≠ .unsupported)
    (sendable : ActionPlan.Sendable plan) :
    ∃ entry, scheduleAction nowMs ruleId record (some context) false s actionIndex =
        s.set (scheduleSlot ruleId actionIndex false) entry ∧
      entry.pending = true ∧ entry.action = plan.action := by
  have sizes : plan.action = .serverMessage ∨ plan.action = .rawRs485 →
      ¬ (plan.payload.length < 2 ∨ plan.payload.length > 48) := by
    intro kind
    have := sendable kind
    omega
  simp only [scheduleAction, decoded, acts, supported, if_false, Bool.false_and,
    Bool.false_eq_true]
  cases kind : plan.action with
  | none => exact absurd kind acts
  | unsupported => exact absurd kind supported
  | serverMessage =>
    have fits := sizes (Or.inl kind)
    simp only [fits, Bool.or_eq_true, decide_eq_true_eq, if_false]
    exact ⟨_, rfl, rfl, rfl⟩
  | rawRs485 =>
    have fits := sizes (Or.inr kind)
    simp only [fits, Bool.or_eq_true, decide_eq_true_eq, if_false]
    exact ⟨_, rfl, rfl, rfl⟩
  | uploadData => exact ⟨_, rfl, rfl, rfl⟩
  | uploadAlarm => exact ⟨_, rfl, rfl, rfl⟩
  | reboot => exact ⟨_, rfl, rfl, rfl⟩

theorem scheduleAction_refused (nowMs : UInt32) (ruleId : UInt8) (record : RuleRecord)
    (alarm : Option AlarmContext) (s : Schedule) (actionIndex : Nat) (plan : ActionPlan)
    (decoded : decodeExecutableAction (actionFrame record actionIndex) = plan)
    (refused : ¬ ActionPlan.Sendable plan) :
    scheduleAction nowMs ruleId record alarm false s actionIndex =
      (s.set (scheduleSlot ruleId actionIndex false) {}).countUnsupported := by
  unfold ActionPlan.Sendable at refused
  obtain ⟨kind, size⟩ := Classical.not_imp.mp refused
  have outside :
      (decide (plan.payload.length < 2) || decide (plan.payload.length > 48)) = true := by
    rw [Bool.or_eq_true, decide_eq_true_eq, decide_eq_true_eq]
    omega
  obtain kind | kind := kind
  · simp only [scheduleAction, decoded, kind, reduceCtorEq, if_false, Bool.false_and,
      Bool.false_eq_true, outside, if_true]
  · simp only [scheduleAction, decoded, kind, reduceCtorEq, if_false, Bool.false_and,
      Bool.false_eq_true, outside, if_true]

/-- An action that a rule can have scheduled without the sample of a channel. -/
structure ActionPlan.Plain (plan : ActionPlan) : Prop where
  acts : plan.action ≠ .none
  supported : plan.action ≠ .unsupported
  noAlarm : plan.action ≠ .uploadAlarm
  sendable : ActionPlan.Sendable plan

structure Awaits (nowMs : UInt32) (ruleId : UInt8) (plan : ActionPlan)
    (entry : ScheduledRuleAction) : Prop where
  pending : entry.pending = true
  action : entry.action = plan.action
  due : entry.dueAtMs = nowMs + plan.delayMs
  rule : entry.ruleId = ruleId
  payload : plan.action = .serverMessage ∨ plan.action = .rawRs485 → entry.payload = plan.payload

theorem scheduleAction_awaits (nowMs : UInt32) (ruleId : UInt8) (record : RuleRecord)
    (alarm : Option AlarmContext) (s : Schedule) (actionIndex : Nat)
    (plain : ActionPlan.Plain (decodeExecutableAction (actionFrame record actionIndex))) :
    Awaits nowMs ruleId (decodeExecutableAction (actionFrame record actionIndex))
      ((scheduleAction nowMs ruleId record alarm false s actionIndex).scheduled
        (scheduleSlot ruleId actionIndex false)) := by
  obtain ⟨acts, supported, noAlarm, sendable⟩ := plain
  simp only [scheduleAction, acts, supported, if_false, Bool.false_and, Bool.false_eq_true]
  generalize decodeExecutableAction (actionFrame record actionIndex) = plan at *
  have sizes (kind : plan.action = .serverMessage ∨ plan.action = .rawRs485) :
      ¬ (decide (plan.payload.length < 2) || decide (plan.payload.length > 48)) = true := by
    have fits := sendable kind
    simp only [Bool.or_eq_true, decide_eq_true_eq]
    omega
  cases kind : plan.action with
  | none => exact absurd kind acts
  | unsupported => exact absurd kind supported
  | uploadAlarm => exact absurd kind noAlarm
  | serverMessage | rawRs485 =>
    simp only [if_neg (sizes (by simp [kind])), set, Function.update_self]
    exact ⟨rfl, kind.symm, rfl, rfl, fun _ => rfl⟩
  | uploadData | reboot =>
    simp only [set, Function.update_self]
    exact ⟨rfl, kind.symm, rfl, rfl, by simp [kind]⟩

/-- A trigger schedules each action of its rule that needs no sample. -/
theorem scheduleRuleActions_awaits (nowMs : UInt32) (ruleId : UInt8) (record : RuleRecord)
    (alarm : Option AlarmContext) (s : Schedule) (actionIndex : Nat) (inside : actionIndex < 3)
    (plain : ActionPlan.Plain (decodeExecutableAction (actionFrame record actionIndex))) :
    Awaits nowMs ruleId (decodeExecutableAction (actionFrame record actionIndex))
      ((scheduleRuleActions nowMs ruleId record alarm false s).scheduled
        (scheduleSlot ruleId actionIndex false)) := by
  obtain ⟨t, same⟩ := scheduleRuleActions_slot nowMs ruleId record alarm false s actionIndex inside
  rw [same]
  exact scheduleAction_awaits nowMs ruleId record alarm t actionIndex plain

end Schedule

end Rules
