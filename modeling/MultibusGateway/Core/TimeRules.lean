import MultibusGateway.Core.RuleDecisions
import MultibusGateway.Core.ScheduledActions
import MultibusGateway.Rules.LocalMinute

/-! The rules with a time condition, over any run. A rule keeps the key of the minute in which it
was triggered last. The local clock never goes back by as much as a day, so that the minutes in
which a rule matches come in order, and each of them triggers it once. -/

namespace Application
open ByteString Modbus Lorawan Reentrancy Execution Rules

/-! Only the time branch changes the minutes that are kept. -/

namespace RuleEngine

def KeepsMinutes (a b : RuleEngine) : Prop := b.lastMinuteKey = a.lastMinuteKey

theorem KeepsMinutes.trans {a b c : RuleEngine} (first : KeepsMinutes a b)
    (second : KeepsMinutes b c) : KeepsMinutes a c := Eq.trans second first

theorem foldl_keepsMinutes {α : Type} (turn : RuleEngine → α → RuleEngine)
    (single : ∀ engine x, KeepsMinutes engine (turn engine x)) (engine : RuleEngine)
    (xs : List α) : KeepsMinutes engine (xs.foldl turn engine) :=
  foldl_respects KeepsMinutes (fun _ => rfl) (fun _ _ _ => .trans) turn single engine xs

theorem triggerMatching_keepsMinutes (nowMs : UInt32) (matching : StoredFrame → Bool)
    (engine : RuleEngine) : KeepsMinutes engine (engine.triggerMatching nowMs matching) := by
  unfold triggerMatching
  apply foldl_keepsMinutes
  intro engine rule
  rfl

theorem evaluateBoot_keepsMinutes (nowMs : UInt32) (engine : RuleEngine) :
    KeepsMinutes engine (engine.evaluateBoot nowMs) := by
  unfold evaluateBoot
  split
  · exact triggerMatching_keepsMinutes nowMs _ _
  · rfl

theorem evaluateBoot_state (nowMs : UInt32) (engine : RuleEngine) :
    (engine.evaluateBoot nowMs).state = engine.state := by
  unfold evaluateBoot
  split
  · unfold triggerMatching
    refine foldl_respects (fun a b : RuleEngine => b.state = a.state) (fun _ => rfl)
      (fun _ _ _ first second => second.trans first) _ ?_ _ _
    intro engine rule
    rfl
  · rfl

theorem evaluateChannelRule_keepsMinutes (nowMs : UInt32) (channel : ChannelConfig)
    (value : DecodedScalar) (engine : RuleEngine) (rule : UInt8 × RuleRecord) :
    KeepsMinutes engine (engine.evaluateChannelRule nowMs channel value rule) := by
  simp only [evaluateChannelRule]
  split
  · rfl
  · split
    · rfl
    · split <;> split <;> rfl

theorem evaluateChannelRules_keepsMinutes (nowMs : UInt32) (completion : PollCompletion)
    (engine : RuleEngine) :
    KeepsMinutes engine (engine.evaluateChannelRules nowMs completion) := by
  unfold evaluateChannelRules
  split
  · exact foldl_keepsMinutes _ (evaluateChannelRule_keepsMinutes nowMs completion.channel _)
      engine _
  · rfl

end RuleEngine

theorem applyRuleConfigurationCommand_keepsMinutes (command : RuleConfigurationCommand)
    (parts : RuleParts) :
    RuleEngine.KeepsMinutes parts.rules (applyRuleConfigurationCommand command parts).1.rules := by
  simp only [applyRuleConfigurationCommand]
  split
  · rfl
  · split
    · rfl
    · split
      · rfl
      · split <;> rfl

theorem rollbackRules_keepsMinutes (originals : List (UInt8 × RuleRecord)) (rules : RuleEngine)
    (stores : Stores) :
    RuleEngine.KeepsMinutes rules (rollbackRules originals rules stores).1 := by
  unfold rollbackRules
  induction originals generalizing rules stores with
  | nil => rfl
  | cons original rest ih => exact ih _ _

theorem applyRuleStatuses_keepsMinutes (operation : RuleStatusOperation) (ruleIds : List UInt8)
    (originals : List (UInt8 × RuleRecord)) (rules : RuleEngine) (stores : Stores) :
    RuleEngine.KeepsMinutes rules
      (applyRuleStatuses operation ruleIds originals rules stores).1.1 := by
  induction ruleIds generalizing originals rules stores with
  | nil => rfl
  | cons ruleId rest ih =>
    simp only [applyRuleStatuses]
    split
    · rfl
    · split
      · exact rollbackRules_keepsMinutes originals rules _
      · refine RuleEngine.KeepsMinutes.trans ?_ (ih _ _ _)
        split <;> rfl

def KeepsMinutes (a b : State) : Prop := RuleEngine.KeepsMinutes a.rules b.rules

theorem keepsMinutes_exchanges : KeptByExchanges KeepsMinutes where
  refl _ := rfl
  trans _ _ _ := .trans
  exchange _ _ _ := rfl

theorem keepsMinutes_kept : KeptByDownlinks KeepsMinutes where
  toKeptByExchanges := keepsMinutes_exchanges
  command deliver respects a command := by
    cases command with
    | historyQuery command =>
      exact applyHistoryQueryCommand_respects keepsMinutes_exchanges deliver respects
        (fun _ _ => rfl) command a
    | rs485SettingsEnquiry kind =>
      exact replyToRs485SettingsEnquiry_respects keepsMinutes_exchanges deliver respects kind a
    | ruleConfiguration command =>
      exact applyRuleConfigurationCommand_keepsMinutes command (ruleParts a)
    | ruleStatus command => exact applyRuleStatuses_keepsMinutes _ _ [] a.rules a.stores
    | basicControl control => cases control <;> rfl
    | _ => rfl
  serverMessage a _ := RuleEngine.triggerMatching_keepsMinutes _ _ a.rules
  rawRequest _ _ := rfl

theorem executeSlot_keepsMinutes (deliver : Deliver State)
    (respects : Respects KeepsMinutes deliver) (nowMs : UInt32) (a : State) (slot : Nat) :
    KeepsMinutes a (executeSlot deliver nowMs a slot) := by
  simp only [executeSlot]
  split
  · rfl
  · split
    · rfl
    · exact performAction_respects keepsMinutes_exchanges deliver respects (fun _ => rfl)
        (fun _ _ => rfl) (fun _ => rfl) (a.rules.schedule.scheduled slot)
        { a with rules := a.rules.note (.takenUp slot) }

theorem processPassiveRs485Frame_keepsMinutes (a : State) :
    KeepsMinutes a (processPassiveRs485Frame a) := by
  simp only [processPassiveRs485Frame]
  split
  · rfl
  · rename_i modbus frame taken
    have triggered := RuleEngine.triggerMatching_keepsMinutes a.clock.millis
      (fun stored => matchesRs485CommandCondition stored frame.payload) a.rules
    split
    · rfl
    · split
      · exact triggered
      · split
        · exact triggered
        · exact triggered

theorem captureModbusCompatibilitySample_keepsMinutes (a : State) :
    KeepsMinutes a (captureModbusCompatibilitySample a) := by
  simp only [captureModbusCompatibilitySample]
  split
  · rfl
  · exact RuleEngine.evaluateChannelRules_keepsMinutes _ _ a.rules

theorem step_keepsMinutes (depth : Nat) (a : State) (c : Call) (other : c ≠ .ruleExecution) :
    KeepsMinutes a (step depth a c) := by
  refine step_respects keepsMinutes_kept c (fun a b touches => ?_) depth a
  have untouched (same : b.rules = a.rules) : KeepsMinutes a b :=
    congrArg RuleEngine.lastMinuteKey same
  rcases touches.rules_cases other with same | rfl | rfl
  · exact untouched same
  · exact processPassiveRs485Frame_keepsMinutes a
  · exact captureModbusCompatibilitySample_keepsMinutes a

/-! The time branch triggers the rules that match and were not triggered in this minute. -/

namespace RuleEngine
variable (nowMs minuteKey : UInt32) (now : Time.LocalDateTime)

def triggersNow (engine : RuleEngine) (rule : UInt8 × RuleRecord) : Bool :=
  matchesTimeCondition (rule.2.frames .condition) now &&
    engine.lastMinuteKey (rule.1.toNat - 1) != minuteKey

def trigger (engine : RuleEngine) (rule : UInt8 × RuleRecord) : RuleEngine :=
  { engine with
    lastMinuteKey := Function.update engine.lastMinuteKey (rule.1.toNat - 1) minuteKey
  }.scheduleRuleActions nowMs rule.1 rule.2 none false

theorem evaluateTimeRule_eq (engine : RuleEngine) (rule : UInt8 × RuleRecord) :
    engine.evaluateTimeRule nowMs minuteKey now rule =
      if engine.triggersNow minuteKey now rule then engine.trigger nowMs minuteKey rule
      else engine := by
  unfold evaluateTimeRule triggersNow trigger
  dsimp only
  cases matchesTimeCondition (rule.2.frames .condition) now with
  | false => rfl
  | true =>
    cases same : engine.lastMinuteKey (rule.1.toNat - 1) == minuteKey <;> simp [bne, same]

theorem foldl_evaluateTimeRule (rules : List (UInt8 × RuleRecord))
    (apart : rules.Pairwise fun a b => a.1.toNat - 1 ≠ b.1.toNat - 1) (before engine : RuleEngine)
    (seen : ∀ rule ∈ rules,
      engine.lastMinuteKey (rule.1.toNat - 1) = before.lastMinuteKey (rule.1.toNat - 1)) :
    rules.foldl (evaluateTimeRule nowMs minuteKey now) engine =
      (rules.filter (before.triggersNow minuteKey now)).foldl (trigger nowMs minuteKey)
        engine := by
  induction rules generalizing engine with
  | nil => rfl
  | cons rule rest ih =>
    obtain ⟨first, others⟩ := List.pairwise_cons.mp apart
    have here : engine.triggersNow minuteKey now rule = before.triggersNow minuteKey now rule := by
      unfold triggersNow
      rw [seen rule List.mem_cons_self]
    rw [List.foldl_cons, evaluateTimeRule_eq, here, List.filter_cons]
    split
    · refine ih others _ fun other member => ?_
      refine Eq.trans ?_ (seen other (List.mem_cons_of_mem _ member))
      exact Function.update_of_ne (first other member).symm _ _
    · exact ih others engine fun other member => seen other (List.mem_cons_of_mem _ member)

theorem foldl_trigger_minute (rules : List (UInt8 × RuleRecord)) (engine : RuleEngine)
    (index : Nat) :
    (rules.foldl (trigger nowMs minuteKey) engine).lastMinuteKey index =
      if rules.any fun rule => rule.1.toNat - 1 == index then minuteKey
      else engine.lastMinuteKey index := by
  induction rules generalizing engine with
  | nil => rfl
  | cons rule rest ih =>
    rw [List.foldl_cons, ih, List.any_cons]
    by_cases later : rest.any (fun rule => rule.1.toNat - 1 == index) = true
    · rw [if_pos later, later, Bool.or_true, if_pos rfl]
    · rw [if_neg later, Bool.eq_false_iff.mpr later, Bool.or_false]
      by_cases same : rule.1.toNat - 1 = index
      · rw [if_pos (beq_iff_eq.mpr same), ← same]
        exact Function.update_self ..
      · rw [if_neg (beq_iff_eq.not.mpr same)]
        exact Function.update_of_ne (Ne.symm same) _ _

theorem foldl_trigger_triggered (rules : List (UInt8 × RuleRecord)) (engine : RuleEngine) :
    (rules.foldl (trigger nowMs minuteKey) engine).triggered =
      engine.triggered ++ rules.map fun rule => (rule.1, false) := by
  induction rules generalizing engine with
  | nil => simp
  | cons rule rest ih =>
    rw [List.foldl_cons, ih, List.map_cons]
    simp [trigger, scheduleRuleActions]

theorem foldl_trigger_other (rules : List (UInt8 × RuleRecord)) (engine : RuleEngine) (slot : Nat)
    (other : ∀ rule ∈ rules, ∀ actionIndex < 3, slot ≠ scheduleSlot rule.1 actionIndex false) :
    (rules.foldl (trigger nowMs minuteKey) engine).schedule.scheduled slot =
      engine.schedule.scheduled slot := by
  induction rules generalizing engine with
  | nil => rfl
  | cons rule rest ih =>
    rw [List.foldl_cons, ih _ fun later member => other later (List.mem_cons_of_mem _ member)]
    exact scheduleRuleActions_other nowMs rule.1 rule.2 none false engine.schedule slot
      fun actionIndex inside _ => other rule List.mem_cons_self actionIndex inside

/-- Each rule that is triggered has its actions scheduled. -/
theorem foldl_trigger_awaits (rules : List (UInt8 × RuleRecord)) (engine : RuleEngine)
    (apart : rules.Pairwise fun a b => a.1.toNat - 1 ≠ b.1.toNat - 1) (rule : UInt8 × RuleRecord)
    (among : rule ∈ rules) (actionIndex : Nat) (inside : actionIndex < 3)
    (plain : Schedule.ActionPlan.Plain
      (decodeExecutableAction (actionFrame rule.2 actionIndex))) :
    Schedule.Awaits nowMs rule.1 (decodeExecutableAction (actionFrame rule.2 actionIndex))
      ((rules.foldl (trigger nowMs minuteKey) engine).schedule.scheduled
        (scheduleSlot rule.1 actionIndex false)) := by
  induction rules generalizing engine with
  | nil => cases among
  | cons first rest ih =>
    obtain ⟨ahead, others⟩ := List.pairwise_cons.mp apart
    rw [List.foldl_cons]
    obtain rfl | later := List.mem_cons.mp among
    · rw [foldl_trigger_other]
      · exact Schedule.scheduleRuleActions_awaits nowMs rule.1 rule.2 none engine.schedule
          actionIndex inside plain
      · intro other member index small same
        have places := ahead other member
        simp only [scheduleSlot, Bool.false_eq_true, if_false] at same
        omega
    · exact ih _ others later

end RuleEngine

def localNow (app : State) : Time.LocalDateTime :=
  Time.localDateTime (UInt32.ofNat app.clock.unixNow.toNat) app.timeSettings

def timeTriggers (app : State) : List (UInt8 × RuleRecord) :=
  if app.clock.unixNow > 0 then
    app.rules.enabledRules.filter
      (app.rules.triggersNow (localMinuteKey (localNow app)) (localNow app))
  else []

theorem evaluateTimeRules_eq (app : State) (engine : RuleEngine)
    (state : engine.state = app.rules.state)
    (minutes : engine.lastMinuteKey = app.rules.lastMinuteKey) :
    engine.evaluateTimeRules app.clock.millis app.clock.unixNow app.timeSettings =
      (timeTriggers app).foldl
        (RuleEngine.trigger app.clock.millis (localMinuteKey (localNow app))) engine := by
  have rules : engine.enabledRules = app.rules.enabledRules := by
    unfold RuleEngine.enabledRules
    rw [state]
  unfold RuleEngine.evaluateTimeRules timeTriggers
  split
  · rw [rules]
    exact RuleEngine.foldl_evaluateTimeRule _ _ _ _ (RuleEngine.enabledRules_apart app.rules)
      app.rules engine fun _ _ => by rw [minutes]
  · rfl

def HasCondition (ruleId : UInt8) (frame : StoredFrame) (app : State) : Prop :=
  ∃ record, app.rules.state.rule ruleId = some record ∧ record.enabled = true ∧
    record.frames .condition = frame

instance (ruleId : UInt8) (frame : StoredFrame) (app : State) :
    Decidable (HasCondition ruleId frame app) :=
  match known : app.rules.state.rule ruleId with
  | none => isFalse fun ⟨_, found, _⟩ => Option.some_ne_none _ (found.symm.trans known)
  | some record =>
    decidable_of_iff (record.enabled = true ∧ record.frames .condition = frame)
      ⟨fun holds => ⟨record, known, holds⟩, fun ⟨_, found, holds⟩ =>
        Option.some.inj (known.symm.trans found) ▸ holds⟩

theorem rule_eq_some_iff (state : RuleState) (ruleId : UInt8) (record : RuleRecord) :
    state.rule ruleId = some record ↔
      1 ≤ ruleId.toNat ∧ ruleId.toNat ≤ kRuleCount ∧
        state.rules (ruleId.toNat - 1) = record := by
  unfold RuleState.rule
  split
  · rename_i outside
    simp only [Bool.or_eq_true, decide_eq_true_eq, UInt8.lt_iff_toNat_lt, UInt8.toNat_one]
      at outside
    simp only [reduceCtorEq, false_iff]
    omega
  · rename_i inside
    simp only [Bool.or_eq_true, decide_eq_true_eq, not_or, UInt8.lt_iff_toNat_lt,
      UInt8.toNat_one] at inside
    have first : (1 : UInt8) ≤ ruleId := UInt8.le_iff_toNat_le.mpr (by
      rw [UInt8.toNat_one]
      omega)
    have index : (ruleId - 1).toNat = ruleId.toNat - 1 := by
      rw [UInt8.toNat_sub_of_le _ _ first, UInt8.toNat_one]
    rw [Option.some_inj, index]
    exact ⟨fun stored => ⟨by omega, by omega, stored⟩, fun ⟨_, _, stored⟩ => stored⟩

theorem mem_enabledRules (engine : RuleEngine) (rule : UInt8 × RuleRecord) :
    rule ∈ engine.enabledRules ↔
      engine.state.rule rule.1 = some rule.2 ∧ rule.2.enabled = true := by
  have count : kRuleCount = 16 := rfl
  unfold RuleEngine.enabledRules
  rw [List.mem_filter, List.mem_map, rule_eq_some_iff]
  refine and_congr_left fun _ => ?_
  constructor
  · rintro ⟨k, small, rfl⟩
    have bound := List.mem_range.mp small
    have number : (UInt8.ofNat (k + 1)).toNat = k + 1 := by
      rw [UInt8.toNat_ofNat']
      omega
    rw [number, Nat.add_sub_cancel]
    exact ⟨by omega, by omega, rfl⟩
  · rintro ⟨first, last, stored⟩
    refine ⟨rule.1.toNat - 1, List.mem_range.mpr (by omega), ?_⟩
    rw [Nat.sub_add_cancel first, UInt8.ofNat_toNat, stored]

theorem any_enabledRules (app : State) (ruleId : UInt8) (frame : StoredFrame)
    (has : HasCondition ruleId frame app) (p : UInt8 × RuleRecord → Bool) (holds : Bool)
    (same : ∀ rule : UInt8 × RuleRecord, rule.1.toNat - 1 = ruleId.toNat - 1 →
      rule.2.frames .condition = frame → p rule = holds) :
    ((app.rules.enabledRules.filter p).any fun rule => rule.1.toNat - 1 == ruleId.toNat - 1) =
      holds := by
  obtain ⟨record, known, enabled, condition⟩ := has
  have own := same (ruleId, record) rfl condition
  rw [Bool.eq_iff_iff, List.any_eq_true]
  constructor
  · rintro ⟨rule, member, place⟩
    obtain ⟨among, passes⟩ := List.mem_filter.mp member
    obtain ⟨known', -⟩ := (mem_enabledRules app.rules rule).mp among
    obtain ⟨-, -, stored⟩ := (rule_eq_some_iff _ _ _).mp known
    obtain ⟨-, -, stored'⟩ := (rule_eq_some_iff _ _ _).mp known'
    rw [beq_iff_eq] at place
    rw [place, stored] at stored'
    rw [← same rule place (stored' ▸ condition)]
    exact passes
  · intro yes
    have among : (ruleId, record) ∈ app.rules.enabledRules :=
      (mem_enabledRules app.rules (ruleId, record)).mpr ⟨known, enabled⟩
    exact ⟨_, List.mem_filter.mpr ⟨among, own.trans yes⟩, beq_self_eq_true _⟩

/-! Runs. -/

def evaluated (app : State) : RuleEngine :=
  (app.rules.evaluateBoot app.clock.millis).evaluateTimeRules app.clock.millis app.clock.unixNow
    app.timeSettings

def timeTriggered (app : State) : List (UInt8 × Bool) :=
  (evaluated app).triggered.drop (app.rules.evaluateBoot app.clock.millis).triggered.length

/-- The local minute in which the time branch of a call triggers a rule. -/
def scheduledMinute (ruleId : UInt8) (app : State) : Option LocalMinute :=
  if (ruleId, false) ∈ timeTriggered app then some (minuteOf (localNow app)) else none

/-- A call executes what is due of the schedule that its time branch leaves, and triggers the rule
once at most. When it does, each action of the rule that needs no sample waits in there, from this
time on. -/
structure SchedulesActions (depth : Nat) (ruleId : UInt8) (app : State) : Prop where
  executes : step depth app .ruleExecution =
    executeDueRuleActions (deliverNested depth) { app with rules := evaluated app }
  once : (timeTriggered app).count (ruleId, false) ≤ 1
  awaits : scheduledMinute ruleId app ≠ none → ∀ record, app.rules.state.rule ruleId = some record →
    ∀ actionIndex < 3,
      Schedule.ActionPlan.Plain (decodeExecutableAction (actionFrame record actionIndex)) →
      Schedule.Awaits app.clock.millis ruleId
        (decodeExecutableAction (actionFrame record actionIndex))
        ((evaluated app).schedule.scheduled (scheduleSlot ruleId actionIndex false))

/-- The local minute in which a call finds that a condition matches. -/
def matchingMinute (frame : StoredFrame) (app : State) : Option LocalMinute :=
  if app.clock.unixNow > 0 ∧ matchesTimeCondition frame (localNow app) = true then
    some (minuteOf (localNow app))
  else none

/-- The states in which a run executes the rules. -/
def executions (depth : Nat) (start : State) (calls : List Call) : List State :=
  (steps (step depth) start calls).filterMap fun
    | (app, .ruleExecution) => some app
    | _ => none

theorem evaluated_eq (app : State) :
    evaluated app = (timeTriggers app).foldl
      (RuleEngine.trigger app.clock.millis (localMinuteKey (localNow app)))
      (app.rules.evaluateBoot app.clock.millis) :=
  evaluateTimeRules_eq app _ (RuleEngine.evaluateBoot_state app.clock.millis app.rules)
    (RuleEngine.evaluateBoot_keepsMinutes app.clock.millis app.rules)

theorem timeTriggered_eq (app : State) :
    timeTriggered app = (timeTriggers app).map fun rule => (rule.1, false) := by
  unfold timeTriggered
  rw [evaluated_eq, RuleEngine.foldl_trigger_triggered, List.drop_left]

theorem mem_timeTriggers {app : State} {rule : UInt8 × RuleRecord}
    (member : rule ∈ timeTriggers app) : app.rules.state.rule rule.1 = some rule.2 := by
  unfold timeTriggers at member
  split at member
  · exact ((mem_enabledRules app.rules rule).mp (List.mem_of_mem_filter member)).1
  · cases member

theorem mem_timeTriggered_iff (ruleId : UInt8) (app : State) :
    (ruleId, false) ∈ timeTriggered app ↔
      ∃ record, app.rules.state.rule ruleId = some record ∧
        (ruleId, record) ∈ timeTriggers app := by
  rw [timeTriggered_eq, List.mem_map]
  constructor
  · rintro ⟨⟨number, record⟩, member, same⟩
    obtain rfl : number = ruleId := congrArg Prod.fst same
    exact ⟨record, mem_timeTriggers member, member⟩
  · rintro ⟨record, -, member⟩
    exact ⟨(ruleId, record), member, rfl⟩

theorem mem_timeTriggered_iff_any (ruleId : UInt8) (frame : StoredFrame) (app : State)
    (has : HasCondition ruleId frame app) :
    (ruleId, false) ∈ timeTriggered app ↔
      ((timeTriggers app).any fun rule => rule.1.toNat - 1 == ruleId.toNat - 1) = true := by
  rw [mem_timeTriggered_iff, List.any_eq_true]
  constructor
  · rintro ⟨record, -, member⟩
    exact ⟨(ruleId, record), member, beq_self_eq_true _⟩
  · rintro ⟨rule, member, place⟩
    obtain ⟨record, known, -, -⟩ := has
    obtain ⟨first, -, -⟩ := (rule_eq_some_iff _ _ _).mp known
    obtain ⟨first', -, -⟩ := (rule_eq_some_iff _ _ _).mp (mem_timeTriggers member)
    have same : rule.1 = ruleId := by
      rw [beq_iff_eq] at place
      exact UInt8.toNat_inj.mp (by omega)
    obtain ⟨number, found⟩ := rule
    obtain rfl : number = ruleId := same
    exact ⟨found, mem_timeTriggers member, member⟩

theorem timeTriggers_apart (app : State) :
    (timeTriggers app).Pairwise fun a b => a.1.toNat - 1 ≠ b.1.toNat - 1 := by
  unfold timeTriggers
  split
  · exact (RuleEngine.enabledRules_apart app.rules).filter _
  · exact .nil

theorem timeTriggered_nodup (app : State) : (timeTriggered app).Nodup := by
  rw [timeTriggered_eq]
  refine List.pairwise_map.mpr ((timeTriggers_apart app).imp fun {a b} apart same => ?_)
  exact apart (by rw [congrArg Prod.fst same])

theorem schedulesActions (depth : Nat) (ruleId : UInt8) (app : State) :
    SchedulesActions depth ruleId app where
  executes := rfl
  once := List.nodup_iff_count_le_one.mp (timeTriggered_nodup app) _
  awaits triggered record known actionIndex inside plain := by
    have member : (ruleId, false) ∈ timeTriggered app := by
      by_contra missing
      exact triggered (if_neg missing)
    obtain ⟨record', known', among⟩ := (mem_timeTriggered_iff ruleId app).mp member
    obtain rfl := Option.some.inj (known.symm.trans known')
    rw [evaluated_eq]
    exact RuleEngine.foldl_trigger_awaits _ _ _ _ (timeTriggers_apart app) (ruleId, record) among
      actionIndex inside plain

theorem scheduledMinute_eq (ruleId : UInt8) (frame : StoredFrame) (app : State)
    (has : HasCondition ruleId frame app) :
    scheduledMinute ruleId app = (matchingMinute frame app).filter fun minute =>
      minute.key ≠ app.rules.lastMinuteKey (ruleId.toNat - 1) := by
  unfold scheduledMinute
  rw [if_congr (mem_timeTriggered_iff_any ruleId frame app has) rfl rfl]
  unfold matchingMinute timeTriggers
  by_cases positive : app.clock.unixNow > 0
  · rw [if_pos positive, any_enabledRules app ruleId frame has _
      (matchesTimeCondition frame (localNow app) &&
        app.rules.lastMinuteKey (ruleId.toNat - 1) != localMinuteKey (localNow app))
      (fun rule place condition => by rw [RuleEngine.triggersNow, place, condition])]
    have key : (minuteOf (localNow app)).key = localMinuteKey (localNow app) := rfl
    cases matching : matchesTimeCondition frame (localNow app) with
    | false => simp
    | true =>
      rw [if_pos (show app.clock.unixNow > 0 ∧ true = true from ⟨positive, rfl⟩),
        Option.filter_some, key, Bool.true_and]
      by_cases same : app.rules.lastMinuteKey (ruleId.toNat - 1) = localMinuteKey (localNow app)
      · simp [same]
      · simp [same, Ne.symm same]
  · rw [if_neg positive]
    simp [positive]

theorem executeDueRuleActions_keepsMinutes (depth : Nat) (a : State) :
    KeepsMinutes a (executeDueRuleActions (deliverNested depth) a) := by
  unfold executeDueRuleActions
  exact foldl_respects KeepsMinutes keepsMinutes_exchanges.refl keepsMinutes_exchanges.trans _
    (executeSlot_keepsMinutes _ (deliverNested_respects keepsMinutes_kept depth) _) _ _

theorem execution_minute (depth : Nat) (ruleId : UInt8) (frame : StoredFrame) (app : State)
    (has : HasCondition ruleId frame app) :
    (step depth app .ruleExecution).rules.lastMinuteKey (ruleId.toNat - 1) =
      match scheduledMinute ruleId app with
      | some minute => minute.key
      | none => app.rules.lastMinuteKey (ruleId.toNat - 1) := by
  have minutes := RuleEngine.evaluateBoot_keepsMinutes app.clock.millis app.rules
  have executed := executeDueRuleActions_keepsMinutes depth { app with rules := evaluated app }
  unfold KeepsMinutes RuleEngine.KeepsMinutes at executed
  rw [(schedulesActions depth ruleId app).executes, executed]
  dsimp only
  rw [evaluated_eq, RuleEngine.foldl_trigger_minute, minutes, scheduledMinute,
    if_congr (mem_timeTriggered_iff_any ruleId frame app has) rfl rfl]
  split <;> rfl

theorem executions_cons (depth : Nat) (start : State) (c : Call) (calls : List Call)
    (other : c ≠ .ruleExecution) :
    executions depth start (c :: calls) = executions depth (step depth start c) calls := by
  unfold executions
  rw [steps, List.filterMap_cons_none]
  split
  · rename_i execution
    exact absurd (congrArg Prod.snd execution) other
  · rfl

theorem executions_execution (depth : Nat) (start : State) (calls : List Call) :
    executions depth start (.ruleExecution :: calls) =
      start :: executions depth (step depth start .ruleExecution) calls := by
  unfold executions
  rw [steps, List.filterMap_cons]

/-- The minutes in which a rule is scheduled are those in which it matches, without those that have
the key of the one before. -/
theorem scheduled_eq_passed (depth : Nat) (ruleId : UInt8) (frame : StoredFrame) (start : State)
    (calls : List Call)
    (has : ∀ app ∈ executions depth start calls, HasCondition ruleId frame app) :
    (executions depth start calls).filterMap (scheduledMinute ruleId) =
      LastSeen.passed LocalMinute.key (start.rules.lastMinuteKey (ruleId.toNat - 1))
        ((executions depth start calls).filterMap (matchingMinute frame)) := by
  induction calls generalizing start with
  | nil => rfl
  | cons c rest ih =>
    by_cases execution : c = .ruleExecution
    · subst execution
      rw [executions_execution] at has ⊢
      obtain ⟨here, later⟩ := List.forall_mem_cons.mp has
      have scheduled := scheduledMinute_eq ruleId frame start here
      have kept := execution_minute depth ruleId frame start here
      have rest := ih (step depth start .ruleExecution) later
      rw [List.filterMap_cons, List.filterMap_cons]
      cases matching : matchingMinute frame start with
      | none =>
        rw [matching, Option.filter_none] at scheduled
        rw [scheduled] at kept ⊢
        rw [rest, kept]
      | some minute =>
        rw [matching, Option.filter_some] at scheduled
        rw [LastSeen.passed]
        by_cases same : minute.key = start.rules.lastMinuteKey (ruleId.toNat - 1)
        · rw [if_neg (by simpa using same)] at scheduled
          rw [scheduled] at kept ⊢
          rw [if_pos same, rest, kept]
        · rw [if_pos (by simpa using same)] at scheduled
          rw [scheduled] at kept ⊢
          rw [if_neg same, rest, kept]
    · have kept : (step depth start c).rules.lastMinuteKey = start.rules.lastMinuteKey :=
        step_keepsMinutes depth start c execution
      rw [executions_cons depth start c rest execution] at has ⊢
      rw [ih _ has, kept]

/-- While the rules are executed, the rule is enabled with this condition, the time settings stay,
and the clock does not go back and runs for less than 128 years. -/
structure FixedRule (ruleId : UInt8) (frame : StoredFrame) (settings : Time.Settings)
    (apps : List State) : Prop where
  condition : ∀ app ∈ apps, HasCondition ruleId frame app
  settings : ∀ app ∈ apps, app.timeSettings = settings
  clock : apps.Pairwise fun a b => a.clock.unixNow ≤ b.clock.unixNow
  spanning : ∀ a ∈ apps, ∀ b ∈ apps, b.clock.unixNow < a.clock.unixNow + 128 * 366 * 86400

theorem matchingMinute_eq_some {frame : StoredFrame} {app : State} {minute : LocalMinute}
    (matching : matchingMinute frame app = some minute) :
    app.clock.unixNow > 0 ∧ matchesTimeCondition frame (localNow app) = true ∧
      minute = minuteOf (localNow app) := by
  unfold matchingMinute at matching
  split at matching
  · rename_i both
    exact ⟨both.1, both.2, (Option.some.inj matching).symm⟩
  · cases matching

theorem matchingMinutes_regular (frame : StoredFrame) (apps : List State) :
    ∀ m ∈ apps.filterMap (matchingMinute frame), m.Regular := by
  intro m member
  obtain ⟨app, -, matching⟩ := List.mem_filterMap.mp member
  obtain ⟨-, -, rfl⟩ := matchingMinute_eq_some matching
  exact localDateTime_regular _ _

/-- The minutes in which the condition matches come in order, and their keys tell each from the next
when these two are not a multiple of 128 years apart. -/
theorem matching_minutes_ordered (ruleId : UInt8) (frame : StoredFrame) (settings : Time.Settings)
    (apps : List State) (fixed : FixedRule ruleId frame settings apps)
    (apart : (apps.filterMap (matchingMinute frame)).IsChain LocalMinute.Apart) :
    ∃ first, LastSeen.Ordered LocalMinute.key (LocalMinute.rank first)
      (apps.filterMap (matchingMinute frame)) := by
  cases apps with
  | nil => exact ⟨0, .nil, nofun, .nil⟩
  | cons start rest =>
    have since : ∀ app ∈ start :: rest, start.clock.unixNow ≤ app.clock.unixNow :=
      List.forall_mem_cons.mpr ⟨le_rfl, (List.pairwise_cons.mp fixed.clock).1⟩
    have regular := matchingMinutes_regular frame (start :: rest)
    refine ⟨firstDay start.clock.unixNow settings, ?_, fun a inA b inB same => ?_,
      apart.imp_of_mem_imp fun a b inA inB => ?_⟩
    · refine List.pairwise_filterMap.mpr (fixed.clock.imp_of_mem ?_)
      intro app app' member member' before m matching m' matching'
      obtain ⟨positive, first, rfl⟩ := matchingMinute_eq_some matching
      obtain ⟨-, second, rfl⟩ := matchingMinute_eq_some matching'
      unfold localNow at first second ⊢
      rw [fixed.settings app member] at first ⊢
      rw [fixed.settings app' member'] at second ⊢
      exact rank_le (since app member) before
        (fixed.spanning start List.mem_cons_self app' member') positive first second
    · obtain ⟨app, member, matching⟩ := List.mem_filterMap.mp inA
      obtain ⟨app', member', matching'⟩ := List.mem_filterMap.mp inB
      obtain ⟨-, first, rfl⟩ := matchingMinute_eq_some matching
      obtain ⟨-, second, rfl⟩ := matchingMinute_eq_some matching'
      unfold localNow at first second same ⊢
      rw [fixed.settings app member] at first same ⊢
      rw [fixed.settings app' member'] at second same ⊢
      exact matching_once first second (dayNumber_eq_of_rank_eq _ _ _ _ same)
    · exact LocalMinute.eq_of_key_eq a b (regular a inA) (regular b inB)

/-- In every run in which the rule and the time settings are fixed and the clock runs on for less
than 128 years, the time branch schedules the rule once in each local minute in which the rules are
executed and its condition matches, and in no other, if no two of these minutes that follow each
other have one key. -/
theorem time_rule_once (depth : Nat) (start : State) (calls : List Call) (ruleId : UInt8)
    (frame : StoredFrame) (settings : Time.Settings)
    (unset : start.rules.lastMinuteKey (ruleId.toNat - 1) = 0)
    (fixed : FixedRule ruleId frame settings (executions depth start calls))
    (apart : ((executions depth start calls).filterMap (matchingMinute frame)).IsChain
      LocalMinute.Apart) :
    ((executions depth start calls).filterMap (scheduledMinute ruleId)).Nodup ∧
      (∀ minute, minute ∈ (executions depth start calls).filterMap (scheduledMinute ruleId) ↔
        minute ∈ (executions depth start calls).filterMap (matchingMinute frame)) ∧
      ∀ app ∈ executions depth start calls, SchedulesActions depth ruleId app := by
  obtain ⟨first, ordered⟩ := matching_minutes_ordered ruleId frame settings _ fixed apart
  have once := LastSeen.passed_once 0 _ ordered fun m member =>
    LocalMinute.key_ne_zero m (matchingMinutes_regular frame _ m member)
  rw [scheduled_eq_passed depth ruleId frame start calls fixed.condition, unset]
  exact ⟨once.1, once.2, fun app _ => schedulesActions depth ruleId app⟩

def halfPastTwo : StoredFrame :=
  ((default : StoredFrame).set [0xf9, 0x7d, 0x81, 0x11, 0, 0x7f, 0, 0, 0, 2, 30]).getD default

def uploadFrame : StoredFrame :=
  ((default : StoredFrame).set [0xf9, 0x7d, 0x82, 0x14, 0xf4, 0x01, 0, 0]).getD default

def reporting (frame : StoredFrame) (settings : Time.Settings) : State where
  timeSettings := settings
  rules :=
    { state := RuleState.setRule {} 1
        { enabled := true
          frames
            | .condition => frame
            | .action1 => uploadFrame
            | _ => default } }

/-- The rules are executed twice in the minute before daylight saving ends, and in the same minute
of the hour after it. -/
def repeatedHour : List Call :=
  [.setTime 1729989000, .ruleExecution, .elapse 30000000, .ruleExecution, .elapse 3570000000,
    .ruleExecution]

theorem time_rule_once_repeatedHour :
    let apps := executions 0 (reporting halfPastTwo Time.vienna) repeatedHour
    FixedRule 1 halfPastTwo Time.vienna apps ∧
    (apps.filterMap (scheduledMinute 1)).Nodup ∧
    (∀ minute, minute ∈ apps.filterMap (scheduledMinute 1) ↔
      minute ∈ apps.filterMap (matchingMinute halfPastTwo)) ∧
    (∀ app ∈ apps, SchedulesActions 0 1 app) ∧
    apps.filterMap (scheduledMinute 1) = [⟨2024, 10, 27, 2, 30⟩] := by
  have fixed : FixedRule 1 halfPastTwo Time.vienna
      (executions 0 (reporting halfPastTwo Time.vienna) repeatedHour) :=
    ⟨by decide +kernel, by decide +kernel, by decide +kernel, by decide +kernel⟩
  obtain ⟨once, same, actions⟩ := time_rule_once 0 (reporting halfPastTwo Time.vienna) repeatedHour
    1 halfPastTwo Time.vienna rfl fixed (by decide +kernel)
  exact ⟨fixed, once, same, actions, by decide +kernel⟩

def fifthAtEight : StoredFrame :=
  ((default : StoredFrame).set [0xf9, 0x7d, 0x81, 0x11, 1, 0x10, 0, 0, 0, 8, 0]).getD default

/-- The rules are executed on the fifth of January 1978, in the last second of the minute, and on
that of 2106, in its first second. -/
def yearsApart : List Call :=
  [.setTime 252835259, .ruleExecution, .setTime 4292121600, .ruleExecution]

/-- The two minutes have one key, and the second one is not scheduled, though it is less than 128
years of the Gregorian calendar later. -/
theorem minute_of_key_lost :
    ¬ ∀ (depth : Nat) (start : State) (calls : List Call) (ruleId : UInt8) (frame : StoredFrame)
      (settings : Time.Settings), start.rules.lastMinuteKey (ruleId.toNat - 1) = 0 →
      Time.validUtcOffsetMinutes settings.utcOffsetMinutes = true →
      Time.validDstSettings settings.dst = true →
      FixedRule ruleId frame settings (executions depth start calls) →
      (∀ a ∈ executions depth start calls, ∀ b ∈ executions depth start calls,
        b.clock.unixNow - a.clock.unixNow < 128 * 31556952) →
      ∀ minute ∈ (executions depth start calls).filterMap (matchingMinute frame),
        minute ∈ (executions depth start calls).filterMap (scheduledMinute ruleId) := by
  intro always
  have lost := always 0 (reporting fifthAtEight {}) yearsApart 1 fifthAtEight {} rfl
    (by decide +kernel) (by decide +kernel)
    ⟨by decide +kernel, by decide +kernel, by decide +kernel, by decide +kernel⟩
    (by decide +kernel) ⟨2106, 1, 5, 8, 0⟩
  revert lost
  decide +kernel

end Application
