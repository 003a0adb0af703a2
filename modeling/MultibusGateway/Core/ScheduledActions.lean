import MultibusGateway.Core.Interleaving
import MultibusGateway.Library.Replay

/-! The scheduled rule actions, over any run. An entry that was made pending stays pending
until it is taken up, scheduled again or cancelled with its rule, as long as no slot is
scheduled again while its action is being carried out. -/

namespace Application
open ByteString Modbus Lorawan Reentrancy Execution Replay Rules

/-- The slots that should hold a pending entry. The completion of an action does nothing to
them, and only the entries of a disabled rule are cancelled. -/
def pendingActions : Machine (Nat → Bool) ScheduleEvent where
  start := fun _ => false
  next
    | pending, .scheduled slot now => some (Function.update pending slot now)
    | pending, .takenUp slot => some (Function.update pending slot false)
    | pending, .completed _ => some pending
    | pending, .cancelled slot enabled =>
      if enabled then none else some (Function.update pending slot false)

namespace RuleEngine

def Sound (engine : RuleEngine) : Prop :=
  ∃ pending, pendingActions.replay engine.log = some pending ∧
    ∀ slot < kScheduleSlots, pending slot = true → (engine.schedule.scheduled slot).pending = true

/-- Only more events, and nothing that is lost. -/
def Keeps (a b : RuleEngine) : Prop :=
  (∃ events, b.log = a.log ++ events) ∧ (Sound a → Sound b)

theorem Keeps.same (a b : RuleEngine) (log : b.log = a.log) (schedule : b.schedule = a.schedule) :
    Keeps a b := by
  refine ⟨⟨[], by rw [log, List.append_nil]⟩, ?_⟩
  unfold Sound
  rw [log, schedule]
  exact id

theorem Keeps.trans {a b c : RuleEngine} (first : Keeps a b) (second : Keeps b c) :
    Keeps a c := by
  obtain ⟨⟨early, before⟩, kept⟩ := first
  obtain ⟨⟨late, after⟩, kept'⟩ := second
  exact ⟨⟨early ++ late, by rw [after, before, List.append_assoc]⟩, kept' ∘ kept⟩

theorem scheduleAction_unscheduled (nowMs : UInt32) (ruleId : UInt8) (record : RuleRecord)
    (alarm : Option AlarmContext) (releaseOnly : Bool) (s : Schedule) (actionIndex : Nat)
    (plain : ¬ schedules releaseOnly (decodeExecutableAction (actionFrame record actionIndex))) :
    (s.scheduleAction nowMs ruleId record alarm releaseOnly actionIndex).scheduled =
      s.scheduled := by
  simp only [schedules, Bool.and_eq_true, bne_iff_ne, Bool.not_eq_true'] at plain
  simp only [Schedule.scheduleAction]
  split
  · rfl
  · split
    · rfl
    · split
      · rfl
      · rename_i acts unreleased supported
        exact absurd ⟨⟨acts, by simpa using unreleased⟩, supported⟩ plain

theorem scheduleRuleActions_other (nowMs : UInt32) (ruleId : UInt8) (record : RuleRecord)
    (alarm : Option AlarmContext) (releaseOnly : Bool) (s : Schedule) (slot : Nat)
    (other : ∀ actionIndex < 3,
      schedules releaseOnly (decodeExecutableAction (actionFrame record actionIndex)) →
        slot ≠ scheduleSlot ruleId actionIndex releaseOnly) :
    (s.scheduleRuleActions nowMs ruleId record alarm releaseOnly).scheduled slot =
      s.scheduled slot := by
  have turn (s : Schedule) (actionIndex : Nat) (inside : actionIndex < 3) :
      (s.scheduleAction nowMs ruleId record alarm releaseOnly actionIndex).scheduled slot =
        s.scheduled slot := by
    by_cases schedule :
        schedules releaseOnly (decodeExecutableAction (actionFrame record actionIndex)) = true
    · exact Schedule.scheduleAction_apart nowMs ruleId record alarm releaseOnly s actionIndex slot
        (other actionIndex inside schedule)
    · rw [scheduleAction_unscheduled nowMs ruleId record alarm releaseOnly s actionIndex schedule]
  have folded (indices : List Nat) (inside : ∀ i ∈ indices, i < 3) (s : Schedule) :
      (indices.foldl (Schedule.scheduleAction nowMs ruleId record alarm releaseOnly) s).scheduled
        slot = s.scheduled slot := by
    induction indices generalizing s with
    | nil => rfl
    | cons i rest ih =>
      rw [List.foldl_cons, ih (fun j member => inside j (List.mem_cons_of_mem _ member)),
        turn s i (inside i List.mem_cons_self)]
  exact folded (List.range 3) (fun i member => List.mem_range.mp member) s

theorem replay_slots (event : Nat → ScheduleEvent) (slotOf : Nat → Nat) (value : Nat → Bool)
    (sets : ∀ pending i, pendingActions.next pending (event i) =
      some (Function.update pending (slotOf i) (value (slotOf i))))
    (indices : List Nat) (pending : Nat → Bool) :
    (indices.map event).foldlM pendingActions.next pending =
      some fun slot => if slot ∈ indices.map slotOf then value slot else pending slot := by
  induction indices generalizing pending with
  | nil => simp
  | cons i rest ih =>
    rw [List.map_cons, List.foldlM_cons, sets]
    refine (ih (Function.update pending (slotOf i) (value (slotOf i)))).trans ?_
    congr 1
    funext slot
    by_cases later : slot ∈ rest.map slotOf
    · simp only [later, List.map_cons, List.mem_cons, or_true, if_true]
    · by_cases first : slot = slotOf i
      · subst first
        simp [later]
      · simp [later, first]

theorem scheduleRuleActions_keeps (nowMs : UInt32) (ruleId : UInt8) (record : RuleRecord)
    (alarm : Option AlarmContext) (releaseOnly : Bool) (engine : RuleEngine) :
    Keeps engine (engine.scheduleRuleActions nowMs ruleId record alarm releaseOnly) := by
  refine ⟨⟨_, rfl⟩, ?_⟩
  rintro ⟨pending, replayed, held⟩
  let after := engine.schedule.scheduleRuleActions nowMs ruleId record alarm releaseOnly
  let indices := (List.range 3).filter fun actionIndex =>
    schedules releaseOnly (decodeExecutableAction (actionFrame record actionIndex))
  have events := replay_slots
    (fun i => .scheduled (scheduleSlot ruleId i releaseOnly)
      (after.scheduled (scheduleSlot ruleId i releaseOnly)).pending)
    (fun i => scheduleSlot ruleId i releaseOnly) (fun slot => (after.scheduled slot).pending)
    (fun _ _ => rfl) indices pending
  refine ⟨_, (pendingActions.replay_append _ _ _ replayed).trans events, ?_⟩
  intro slot inside waiting
  split at waiting
  · exact waiting
  · rename_i untouched
    have same : after.scheduled slot = engine.schedule.scheduled slot := by
      refine scheduleRuleActions_other nowMs ruleId record alarm releaseOnly _ slot ?_
      rintro actionIndex small schedule rfl
      exact untouched (List.mem_map.mpr ⟨actionIndex,
        List.mem_filter.mpr ⟨List.mem_range.mpr small, schedule⟩, rfl⟩)
    change (after.scheduled slot).pending = true
    rw [same]
    exact held slot inside waiting

theorem cancelScheduledRuleActions_keeps (ruleId : UInt8) (engine : RuleEngine)
    (disabled : engine.ruleEnabled ruleId = false) :
    Keeps engine (engine.cancelScheduledRuleActions ruleId) := by
  refine ⟨⟨_, rfl⟩, ?_⟩
  rintro ⟨pending, replayed, held⟩
  let cancelled := (List.range kScheduleSlots).filter fun slot =>
    (engine.schedule.scheduled slot).pending && (engine.schedule.scheduled slot).ruleId == ruleId
  have events := replay_slots (fun slot => .cancelled slot (engine.ruleEnabled ruleId)) id
    (fun _ => false) (fun _ _ => by rw [disabled]; rfl) cancelled pending
  refine ⟨_, (pendingActions.replay_append _ _ _ replayed).trans events, ?_⟩
  intro slot inside waiting
  split at waiting
  · cases waiting
  · rename_i kept
    have entry := held slot inside waiting
    have same : ¬ ((engine.schedule.scheduled slot).pending &&
        (engine.schedule.scheduled slot).ruleId == ruleId) = true := by
      intro both
      rw [List.map_id] at kept
      exact kept (List.mem_filter.mpr ⟨List.mem_range.mpr inside, both⟩)
    change (if (engine.schedule.scheduled slot).pending &&
        (engine.schedule.scheduled slot).ruleId == ruleId then ({} : ScheduledRuleAction)
      else engine.schedule.scheduled slot).pending = true
    rw [if_neg same]
    exact entry

theorem foldl_keeps {α : Type} (step : RuleEngine → α → RuleEngine)
    (single : ∀ engine x, Keeps engine (step engine x)) (engine : RuleEngine) (xs : List α) :
    Keeps engine (xs.foldl step engine) :=
  foldl_respects Keeps (fun a => .same a a rfl rfl) (fun _ _ _ => .trans) step single engine xs

theorem triggerMatching_keeps (nowMs : UInt32) (matching : StoredFrame → Bool)
    (engine : RuleEngine) : Keeps engine (engine.triggerMatching nowMs matching) := by
  unfold triggerMatching
  apply foldl_keeps
  intro engine rule
  exact scheduleRuleActions_keeps nowMs rule.1 rule.2 none false engine

theorem evaluateBoot_keeps (nowMs : UInt32) (engine : RuleEngine) :
    Keeps engine (engine.evaluateBoot nowMs) := by
  unfold evaluateBoot
  split
  · exact (Keeps.same engine _ rfl rfl).trans (triggerMatching_keeps nowMs _ _)
  · exact .same _ _ rfl rfl

theorem evaluateTimeRules_keeps (nowMs : UInt32) (unixNow : Int) (settings : Time.Settings)
    (engine : RuleEngine) : Keeps engine (engine.evaluateTimeRules nowMs unixNow settings) := by
  have single (minuteKey : UInt32) (now : Time.LocalDateTime) (engine : RuleEngine)
      (rule : UInt8 × RuleRecord) :
      Keeps engine (engine.evaluateTimeRule nowMs minuteKey now rule) := by
    simp only [evaluateTimeRule]
    split
    · exact .same _ _ rfl rfl
    · split
      · exact .same _ _ rfl rfl
      · exact (Keeps.same engine _ rfl rfl).trans
          (scheduleRuleActions_keeps nowMs rule.1 rule.2 none false _)
  simp only [evaluateTimeRules]
  split
  · exact foldl_keeps _ (single _ _) engine _
  · exact .same _ _ rfl rfl

theorem evaluateChannelRule_keeps (nowMs : UInt32) (channel : ChannelConfig)
    (value : DecodedScalar) (engine : RuleEngine) (rule : UInt8 × RuleRecord) :
    Keeps engine (engine.evaluateChannelRule nowMs channel value rule) := by
  simp only [evaluateChannelRule]
  split
  · exact .same _ _ rfl rfl
  · split
    · exact .same _ _ rfl rfl
    · rename_i plan _ _
      let runtime := engine.channelRuntime (rule.1.toNat - 1)
      let evaluation := evaluateChannelCondition plan value nowMs runtime
      have updated : Keeps engine (engine.setRuntime rule.1 evaluation.runtime) :=
        .same _ _ rfl rfl
      have fired (alarm : Option AlarmContext) :
          Keeps engine (if evaluation.fired then
            (engine.setRuntime rule.1 evaluation.runtime).scheduleRuleActions nowMs rule.1 rule.2
              alarm false
            else engine.setRuntime rule.1 evaluation.runtime) := by
        split
        · exact updated.trans (scheduleRuleActions_keeps nowMs rule.1 rule.2 alarm false _)
        · exact updated
      split
      · exact (fired _).trans (scheduleRuleActions_keeps nowMs rule.1 rule.2 _ true _)
      · exact fired _

theorem evaluateChannelRules_keeps (nowMs : UInt32) (completion : PollCompletion)
    (engine : RuleEngine) : Keeps engine (engine.evaluateChannelRules nowMs completion) := by
  unfold evaluateChannelRules
  split
  · exact foldl_keeps _ (evaluateChannelRule_keeps nowMs completion.channel _) engine _
  · exact .same _ _ rfl rfl

theorem ruleEnabled_setRule (ruleId : UInt8) (current record : RuleRecord) (engine : RuleEngine)
    (known : engine.state.rule ruleId = some current) :
    (engine.setRule ruleId record).ruleEnabled ruleId = record.enabled := by
  have range : ¬ (ruleId < 1 || ruleId.toNat > kRuleCount) = true := by
    intro outside
    rw [RuleState.rule, if_pos outside] at known
    cases known
  unfold ruleEnabled
  rw [RuleState.rule, if_neg range]
  simp [setRule, RuleState.setRule]

theorem setRule_keeps (ruleId : UInt8) (current record : RuleRecord) (engine : RuleEngine)
    (known : engine.state.rule ruleId = some current) :
    Keeps engine (if record.enabled then engine.setRule ruleId record
      else (engine.setRule ruleId record).cancelScheduledRuleActions ruleId) := by
  have stored : Keeps engine (engine.setRule ruleId record) := .same _ _ rfl rfl
  split
  · exact stored
  · rename_i disabled
    refine stored.trans (cancelScheduledRuleActions_keeps ruleId _ ?_)
    rw [ruleEnabled_setRule ruleId current record engine known]
    simpa using disabled

end RuleEngine

theorem applyRuleConfigurationCommand_keeps (command : RuleConfigurationCommand)
    (parts : RuleParts) :
    RuleEngine.Keeps parts.rules (applyRuleConfigurationCommand command parts).1.rules := by
  simp only [applyRuleConfigurationCommand]
  split
  · exact .same _ _ rfl rfl
  · rename_i current known
    split
    · exact .same _ _ rfl rfl
    · split
      · exact .same _ _ rfl rfl
      · exact RuleEngine.setRule_keeps command.ruleId current _ parts.rules known

theorem rollbackRules_keeps (originals : List (UInt8 × RuleRecord)) (rules : RuleEngine)
    (stores : Stores) : RuleEngine.Keeps rules (rollbackRules originals rules stores).1 := by
  unfold rollbackRules
  induction originals generalizing rules stores with
  | nil => exact .same _ _ rfl rfl
  | cons original rest ih => exact (RuleEngine.Keeps.same rules _ rfl rfl).trans (ih _ _)

theorem applyRuleStatuses_keeps (operation : RuleStatusOperation) (ruleIds : List UInt8)
    (originals : List (UInt8 × RuleRecord)) (rules : RuleEngine) (stores : Stores) :
    RuleEngine.Keeps rules (applyRuleStatuses operation ruleIds originals rules stores).1.1 := by
  induction ruleIds generalizing originals rules stores with
  | nil => exact .same _ _ rfl rfl
  | cons ruleId rest ih =>
    simp only [applyRuleStatuses]
    split
    · exact .same _ _ rfl rfl
    · rename_i current known
      split
      · exact rollbackRules_keeps originals rules _
      · exact (RuleEngine.setRule_keeps ruleId current _ rules known).trans (ih _ _ _)

def KeepsActions (a b : State) : Prop := RuleEngine.Keeps a.rules b.rules

theorem keepsActions_exchanges : KeptByExchanges KeepsActions where
  refl _ := .same _ _ rfl rfl
  trans _ _ _ := .trans
  exchange _ _ _ := .same _ _ rfl rfl

theorem keepsActions_kept : KeptByDownlinks KeepsActions where
  toKeptByExchanges := keepsActions_exchanges
  command deliver respects a command := by
    have untouched : RuleEngine.Keeps a.rules a.rules := .same _ _ rfl rfl
    cases command with
    | historyQuery command =>
      exact applyHistoryQueryCommand_respects keepsActions_exchanges deliver respects
        (fun _ _ => .same _ _ rfl rfl) command a
    | rs485SettingsEnquiry kind =>
      exact replyToRs485SettingsEnquiry_respects keepsActions_exchanges deliver respects kind a
    | ruleConfiguration command => exact applyRuleConfigurationCommand_keeps command (ruleParts a)
    | ruleStatus command => exact applyRuleStatuses_keeps _ _ [] a.rules a.stores
    | basicControl control => cases control <;> exact untouched
    | _ => exact untouched
  serverMessage a _ := RuleEngine.triggerMatching_keeps _ _ a.rules
  rawRequest _ _ := .same _ _ rfl rfl

def Undisturbed (events : List ScheduleEvent) : Prop :=
  ∀ slot before during after,
    events = before ++ .takenUp slot :: (during ++ .completed slot :: after) →
      .scheduled slot true ∉ during

theorem undisturbed_append (first second : List ScheduleEvent)
    (undisturbed : Undisturbed (first ++ second)) : Undisturbed first ∧ Undisturbed second := by
  constructor
  · intro slot before during after same
    exact undisturbed slot before during (after ++ second) (by simp [same])
  · intro slot before during after same
    exact undisturbed slot (first ++ before) during after (by simp [same])

theorem replay_stays_clear (slot : Nat) (events : List ScheduleEvent)
    (unscheduled : .scheduled slot true ∉ events) (pending later : Nat → Bool)
    (clear : pending slot = false)
    (replayed : events.foldlM pendingActions.next pending = some later) : later slot = false := by
  induction events generalizing pending with
  | nil =>
    obtain rfl := Option.some.inj replayed
    exact clear
  | cons event rest ih =>
    rw [List.foldlM_cons] at replayed
    obtain ⟨middle, first, others⟩ := Option.bind_eq_some_iff.mp replayed
    refine ih (fun member => unscheduled (List.mem_cons_of_mem _ member)) middle ?_ others
    cases event with
    | scheduled other now =>
      obtain rfl := Option.some.inj first
      by_cases same : slot = other
      · subst same
        rw [Function.update_self]
        cases now with
        | false => rfl
        | true => exact absurd List.mem_cons_self unscheduled
      · rw [Function.update_of_ne same, clear]
    | takenUp other =>
      obtain rfl := Option.some.inj first
      by_cases same : slot = other
      · rw [same, Function.update_self]
      · rw [Function.update_of_ne same, clear]
    | completed other =>
      obtain rfl := Option.some.inj first
      exact clear
    | cancelled other enabled =>
      cases enabled with
      | true => cases first
      | false =>
        obtain rfl := Option.some.inj first
        by_cases same : slot = other
        · rw [same, Function.update_self]
        · rw [Function.update_of_ne same, clear]

theorem update_false (pending : Nat → Bool) (slot other : Nat)
    (still : Function.update pending slot false other = true) :
    other ≠ slot ∧ pending other = true := by
  by_cases same : other = slot
  · rw [same, Function.update_self] at still
    cases still
  · rw [Function.update_of_ne same] at still
    exact ⟨same, still⟩

theorem RuleEngine.sound_clearSlot (engine : RuleEngine) (slot : Nat) (event : ScheduleEvent)
    (pending later : Nat → Bool) (replayed : pendingActions.replay engine.log = some pending)
    (held : ∀ other < kScheduleSlots, pending other = true →
      (engine.schedule.scheduled other).pending = true)
    (next : pendingActions.next pending event = some later) (clear : later slot = false)
    (fewer : ∀ other, later other = true → pending other = true) :
    (engine.clearSlot slot event).Sound := by
  refine ⟨later, ?_, ?_⟩
  · exact (pendingActions.replay_snoc engine.log event pending replayed).trans next
  · intro other inside waiting
    have apart : other ≠ slot := by
      rintro rfl
      rw [clear] at waiting
      cases waiting
    have entry := held other inside (fewer other waiting)
    simpa [clearSlot, note, Schedule.set, apart] using entry

/-- A turn of the executor only loses an entry when its slot is disturbed. -/
theorem executeSlot_keeps (deliver : Deliver State) (respects : Respects KeepsActions deliver)
    (nowMs : UInt32) (a : State) (slot : Nat) :
    ∃ events, (executeSlot deliver nowMs a slot).rules.log = a.rules.log ++ events ∧
      (a.rules.Sound → Undisturbed events → (executeSlot deliver nowMs a slot).rules.Sound) := by
  simp only [executeSlot]
  split
  · exact ⟨[], by simp, fun sound _ => sound⟩
  · split
    · rename_i disabled
      refine ⟨_, rfl, ?_⟩
      rintro ⟨pending, replayed, held⟩ -
      rw [Bool.not_eq_true'] at disabled
      refine RuleEngine.sound_clearSlot a.rules slot _ pending (Function.update pending slot false)
        replayed held (by rw [disabled]; rfl) (Function.update_self ..) ?_
      exact fun other waiting => (update_false pending slot other waiting).2
    · let taken : State := { a with rules := a.rules.note (.takenUp slot) }
      obtain ⟨⟨during, performed⟩, kept⟩ := performAction_respects keepsActions_exchanges deliver
        respects (fun _ => .same _ _ rfl rfl) (fun _ _ => .same _ _ rfl rfl)
        (fun _ => .same _ _ rfl rfl) (a.rules.schedule.scheduled slot) taken
      let acted := performAction deliver (a.rules.schedule.scheduled slot) taken
      refine ⟨.takenUp slot :: (during ++ [.completed slot]), ?_, ?_⟩
      · change acted.rules.log ++ [.completed slot] = _
        rw [performed]
        simp [taken, RuleEngine.note]
      · rintro ⟨pending, replayed, held⟩ undisturbed
        let waiting := Function.update pending slot false
        have started : pendingActions.replay taken.rules.log = some waiting :=
          pendingActions.replay_snoc a.rules.log (.takenUp slot) pending replayed
        have begun : taken.rules.Sound := by
          refine ⟨waiting, started, fun other inside still => ?_⟩
          exact held other inside (update_false pending slot other still).2
        obtain ⟨later, reached, remaining⟩ := kept begun
        have clear : later slot = false := by
          refine replay_stays_clear slot during ?_ waiting later (Function.update_self ..) ?_
          · exact undisturbed slot [] during [] rfl
          · rw [← pendingActions.replay_append _ _ _ started, ← performed]
            exact reached
        exact RuleEngine.sound_clearSlot acted.rules slot (.completed slot) later later reached
          remaining rfl clear (fun _ same => same)

theorem executeSlots_keeps (deliver : Deliver State) (respects : Respects KeepsActions deliver)
    (nowMs : UInt32) (slots : List Nat) (a : State) :
    ∃ events, (slots.foldl (executeSlot deliver nowMs) a).rules.log = a.rules.log ++ events ∧
      (a.rules.Sound → Undisturbed events →
        (slots.foldl (executeSlot deliver nowMs) a).rules.Sound) := by
  induction slots generalizing a with
  | nil => exact ⟨[], by simp, fun sound _ => sound⟩
  | cons slot rest ih =>
    obtain ⟨first, log, kept⟩ := executeSlot_keeps deliver respects nowMs a slot
    obtain ⟨others, log', kept'⟩ := ih (executeSlot deliver nowMs a slot)
    refine ⟨first ++ others, by rw [List.foldl_cons, log', log, List.append_assoc], ?_⟩
    intro sound undisturbed
    obtain ⟨early, late⟩ := undisturbed_append first others undisturbed
    exact kept' (kept sound early) late

/-- No downlink schedules a slot again while its action is being carried out. -/
def NoSlotRescheduledInAction (depth : Nat) (a : State) (c : Call) : Prop :=
  c = .ruleExecution →
    Undisturbed ((step depth a c).rules.log.drop a.rules.log.length)

theorem processRuleExecution_keeps (depth : Nat) (a : State) (sound : a.rules.Sound)
    (condition : NoSlotRescheduledInAction depth a .ruleExecution) :
    (step depth a .ruleExecution).rules.Sound := by
  have undisturbed := condition rfl
  let nowMs := a.clock.millis
  let evaluated := (a.rules.evaluateBoot nowMs).evaluateTimeRules nowMs a.clock.unixNow
    a.timeSettings
  have evaluation : RuleEngine.Keeps a.rules evaluated :=
    (RuleEngine.evaluateBoot_keeps nowMs a.rules).trans
      (RuleEngine.evaluateTimeRules_keeps nowMs _ _ _)
  obtain ⟨⟨triggered, log⟩, kept⟩ := evaluation
  obtain ⟨executed, log', kept'⟩ := executeSlots_keeps (deliverNested depth)
    (deliverNested_respects keepsActions_kept depth) nowMs (List.range kScheduleSlots)
    { a with rules := evaluated }
  have same : step depth a .ruleExecution =
      (List.range kScheduleSlots).foldl (executeSlot (deliverNested depth) nowMs)
        { a with rules := evaluated } := rfl
  have whole : (step depth a .ruleExecution).rules.log =
      a.rules.log ++ (triggered ++ executed) := by
    rw [← List.append_assoc, ← log, same]
    exact log'
  rw [whole, List.drop_left] at undisturbed
  rw [same]
  exact kept' (kept sound) (undisturbed_append triggered executed undisturbed).2

theorem processPassiveRs485Frame_keeps (a : State) :
    KeepsActions a (processPassiveRs485Frame a) := by
  simp only [processPassiveRs485Frame]
  split
  · exact .same _ _ rfl rfl
  · rename_i modbus frame taken
    have triggered := RuleEngine.triggerMatching_keeps a.clock.millis
      (fun stored => matchesRs485CommandCondition stored frame.payload) a.rules
    split
    · exact .same _ _ rfl rfl
    · split
      · exact triggered
      · split
        · exact triggered
        · exact triggered

theorem captureModbusCompatibilitySample_keeps (a : State) :
    KeepsActions a (captureModbusCompatibilitySample a) := by
  simp only [captureModbusCompatibilitySample]
  split
  · exact .same _ _ rfl rfl
  · exact RuleEngine.evaluateChannelRules_keeps _ _ a.rules

/-- Only the executor may clear a slot. -/
theorem step_keeps (depth : Nat) (a : State) (c : Call) (other : c ≠ .ruleExecution) :
    KeepsActions a (step depth a c) := by
  refine step_respects keepsActions_kept c (fun a b touches => ?_) depth a
  have untouched (same : b.rules = a.rules) : KeepsActions a b := by
    rw [KeepsActions, same]
    exact .same _ _ rfl rfl
  rcases touches.rules_cases other with same | rfl | rfl
  · exact untouched same
  · exact processPassiveRs485Frame_keeps a
  · exact captureModbusCompatibilitySample_keeps a

theorem step_rules_sound (depth : Nat) (a : State) (c : Call) (sound : a.rules.Sound)
    (condition : NoSlotRescheduledInAction depth a c) : (step depth a c).rules.Sound := by
  by_cases execution : c = .ruleExecution
  · subst execution
    exact processRuleExecution_keeps depth a sound condition
  · exact (step_keeps depth a c execution).2 sound

/-- In every run where no slot is scheduled again while its action is being carried out, an
entry stays pending until it is taken up, scheduled again or cancelled with its rule. -/
theorem scheduled_actions_kept (depth : Nat) (start : State) (calls : List Call)
    (fresh : start.rules.log = [])
    (condition : Always (step depth) (NoSlotRescheduledInAction depth) start calls) :
    let after := (run (step depth) start calls).rules
    ∃ pending, pendingActions.replay after.log = some pending ∧
      ∀ slot < kScheduleSlots, pending slot = true →
        (after.schedule.scheduled slot).pending = true := by
  have begins : start.rules.Sound := by
    refine ⟨fun _ => false, ?_, ?_⟩
    · rw [fresh]
      rfl
    · intro slot _ waiting
      cases waiting
  exact invariant_run (step depth) (fun a => a.rules.Sound) _
    (fun a c => step_rules_sound depth a c) start calls begins condition

/-- Rule 1 answers the server message `AB` with the message `OK`. -/
def answeringRule : Downlink :=
  ⟨kCompatibilityFPort, [0xf9, 0x7d, 0x81, 0x14, 0x02, 0x41, 0x42] ++
    [0xf9, 0x7d, 0x81, 0x91, 0x00, 0x00, 0x00, 0x00, 0x02, 0x4f, 0x4b]⟩

def serverMessage : Downlink := ⟨kCompatibilityFPort, [0x41, 0x42]⟩

def answerCalls : List Call :=
  [.downlink answeringRule, .downlink serverMessage, .ruleExecution]

def answered : State := { radio := { exchanges := [{}] } }

theorem answerCalls_undisturbed :
    Always (step 1) (NoSlotRescheduledInAction 1) answered answerCalls := by
  let triggered := step 1 (step 1 answered (.downlink answeringRule)) (.downlink serverMessage)
  have events : (step 1 triggered .ruleExecution).rules.log.drop triggered.rules.log.length =
      [.takenUp 0, .completed 0] := by
    decide +kernel
  intro v member execution
  simp only [answerCalls, steps, List.mem_cons, List.not_mem_nil, or_false] at member
  obtain rfl | rfl | rfl := member
  · cases execution
  · cases execution
  · intro slot before during after same scheduled
    have inside : .scheduled slot true ∈ [ScheduleEvent.takenUp 0, .completed 0] := by
      rw [← events]
      dsimp only at same
      rw [same]
      simp [scheduled]
    simp at inside

theorem scheduled_actions_kept_answer :
    ∃ pending, pendingActions.replay
        (run (step 1) answered answerCalls).rules.log = some pending := by
  obtain ⟨pending, same, -⟩ :=
    scheduled_actions_kept 1 answered answerCalls rfl answerCalls_undisturbed
  exact ⟨pending, same⟩

/-- The message arrives again with the answer, and the second answer is never sent. -/
theorem rescheduled_action_lost :
    let after := (run (step 1) { radio := { exchanges := [{ downlink := some serverMessage }] } }
      answerCalls).rules
    (pendingActions.replay after.log).map (fun pending => pending 0) = some true ∧
      (after.schedule.scheduled 0).pending = false := by
  decide +kernel

end Application
