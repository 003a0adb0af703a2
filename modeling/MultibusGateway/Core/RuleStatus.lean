import MultibusGateway.Core.RuleCommands

/-! A rule status command that fails. The records of the rules that had been saved are put back,
live and in flash, but not the actions that were cancelled with them. -/

namespace Application
open ByteString Preferences Modbus Lorawan

def savedRules : List UInt8 → List Bool → List UInt8
  | [], _ => []
  | ruleId :: rest, outcomes =>
    match draw outcomes with
    | (true, outcomes) => ruleId :: savedRules rest outcomes
    | (false, _) => []

theorem savedRules_cons (ruleId : UInt8) (rest : List UInt8) (outcomes : List Bool) :
    savedRules (ruleId :: rest) outcomes =
      if (draw outcomes).1 then ruleId :: savedRules rest (draw outcomes).2 else [] := by
  rw [savedRules]
  cases draw outcomes with
  | mk stored left => cases stored <;> rfl

def originalRules (rules : RuleEngine) (done : List UInt8) : List (UInt8 × Rules.RuleRecord) :=
  done.map fun ruleId => (ruleId, rules.state.rules (ruleIndex ruleId))

def placed (done : List UInt8) (index : Nat) : Bool :=
  done.any fun ruleId => ruleIndex ruleId == index

def cancelledWith (operation : RuleStatusOperation) (done : List UInt8)
    (entry : Rules.ScheduledRuleAction) : Bool :=
  entry.pending && operation != .enable && done.contains entry.ruleId

theorem placed_append (done more : List UInt8) (index : Nat) :
    placed (done ++ more) index = (placed done index || placed more index) := List.any_append

theorem placed_own (done : List UInt8) (ruleId : UInt8)
    (own : ∀ other ∈ done ++ [ruleId], foreignRule other = false) (once : ruleId ∉ done) :
    placed done (ruleIndex ruleId) = false := by
  unfold placed
  rw [List.any_eq_false]
  intro other member same
  have a := ruleIndex_own other (own other (List.mem_append_left _ member))
  have b := ruleIndex_own ruleId (own ruleId (List.mem_append_right _ List.mem_cons_self))
  have equal : other.toNat = ruleId.toNat := by
    rw [← a.2, ← b.2, beq_iff_eq.mp same]
  exact once (UInt8.toNat_inj.mp equal ▸ member)

/-- The rollback puts the records back that were there at first, and cancels nothing. -/
theorem rollbackRules_restores (first : RuleEngine) (done : List UInt8) (rules : RuleEngine)
    (stores : Stores) (own : ∀ ruleId ∈ done, foreignRule ruleId = false)
    (reliable : ∀ stored ∈ stores.outcomes.take done.length, stored = true) :
    (∀ index, (rollbackRules (originalRules first done) rules stores).1.state.rules index =
      if placed done index then first.state.rules index else rules.state.rules index) ∧
    (∀ index, index < Rules.kRuleCount →
      (rollbackRules (originalRules first done) rules stores).2.loadRules.rules index =
        if placed done index then first.state.rules index else stores.loadRules.rules index) ∧
    (rollbackRules (originalRules first done) rules stores).1.schedule = rules.schedule := by
  induction done generalizing rules stores with
  | nil => exact ⟨fun _ => rfl, fun _ _ => rfl, rfl⟩
  | cons ruleId rest ih =>
    obtain ⟨here, others⟩ := List.forall_mem_cons.mp own
    have drawn : (draw stores.outcomes).1 = true ∧
        ∀ stored ∈ (draw stores.outcomes).2.take rest.length, stored = true :=
      draw_reliable stores.outcomes rest.length reliable
    have saved := saveRule_own stores ruleId (first.state.rules (ruleIndex ruleId)) here
    rw [if_pos drawn.1] at saved
    have unfolded : rollbackRules (originalRules first (ruleId :: rest)) rules stores =
        rollbackRules (originalRules first rest)
          (rules.setRule ruleId (first.state.rules (ruleIndex ruleId)))
          (stores.saveRule ruleId (first.state.rules (ruleIndex ruleId))).1 := rfl
    rw [unfolded, saved]
    obtain ⟨records, flash, schedule⟩ := ih
      (rules.setRule ruleId (first.state.rules (ruleIndex ruleId)))
      { stores with
        rules := Function.update stores.rules ruleId.toNat
          (some (first.state.rules (ruleIndex ruleId)))
        outcomes := (draw stores.outcomes).2 } others drawn.2
    have head : ∀ index, placed (ruleId :: rest) index =
        (ruleIndex ruleId == index || placed rest index) := fun _ => rfl
    refine ⟨fun index => ?_, fun index inside => ?_, schedule.trans rfl⟩
    · rw [records, setRule_rules, head]
      by_cases same : index = ruleIndex ruleId
      · rw [if_pos same, same, beq_self_eq_true, Bool.true_or, if_pos rfl, ite_self]
      · rw [if_neg same, beq_eq_false_iff_ne.mpr fun equal => same equal.symm, Bool.false_or]
    · rw [flash index inside, loadRules_update stores ruleId _ _ here index inside, head]
      by_cases same : index = ruleIndex ruleId
      · rw [if_pos same, same, beq_self_eq_true, Bool.true_or, if_pos rfl, ite_self]
      · rw [if_neg same, beq_eq_false_iff_ne.mpr fun equal => same equal.symm, Bool.false_or]

/-- How far the loop has come: the rules that are done have been updated and saved, and with
the other two operations their actions have been cancelled. -/
structure StatusProgress (operation : RuleStatusOperation) (first : RuleEngine) (before : Stores)
    (done : List UInt8) (rules : RuleEngine) (stores : Stores) : Prop where
  records : ∀ index, rules.state.rules index =
    if placed done index then updateRuleStatus operation (first.state.rules index)
    else first.state.rules index
  stored : ∀ index, index < Rules.kRuleCount → placed done index = false →
    stores.loadRules.rules index = before.loadRules.rules index
  scheduled : ∀ slot, rules.schedule.scheduled slot =
    if cancelledWith operation done (first.schedule.scheduled slot) then {}
    else first.schedule.scheduled slot

theorem updateRuleStatus_enabled (operation : RuleStatusOperation) (record : Rules.RuleRecord) :
    (updateRuleStatus operation record).enabled = (operation == .enable) := by
  cases operation <;> rfl

theorem statusProgress_next (operation : RuleStatusOperation) (first : RuleEngine)
    (before : Stores) (done : List UInt8) (rules : RuleEngine) (stores : Stores)
    (progress : StatusProgress operation first before done rules stores) (ruleId : UInt8)
    (own : ∀ other ∈ done ++ [ruleId], foreignRule other = false) (once : ruleId ∉ done)
    (outcomes : List Bool) :
    let updated := updateRuleStatus operation (rules.state.rules (ruleIndex ruleId))
    StatusProgress operation first before (done ++ [ruleId])
      (if updated.enabled then rules.setRule ruleId updated
        else (rules.setRule ruleId updated).cancelScheduledRuleActions ruleId)
      { stores with
        rules := Function.update stores.rules ruleId.toNat (some updated)
        outcomes := outcomes } := by
  have here := own ruleId (List.mem_append_right _ List.mem_cons_self)
  have unset := placed_own done ruleId own once
  have current : rules.state.rules (ruleIndex ruleId) = first.state.rules (ruleIndex ruleId) := by
    rw [progress.records, unset, if_neg Bool.false_ne_true]
  have last : ∀ index, placed [ruleId] index = (ruleIndex ruleId == index) :=
    fun index => Bool.or_false _
  intro updated
  have same : updated = updateRuleStatus operation (first.state.rules (ruleIndex ruleId)) :=
    congrArg (updateRuleStatus operation) current
  have flag : updated.enabled = (operation == .enable) := updateRuleStatus_enabled _ _
  refine ⟨fun index => ?_, fun index inside absent => ?_, fun slot => ?_⟩
  · have set := setRule_rules ruleId updated rules index
    have either : (if updated.enabled then rules.setRule ruleId updated
        else (rules.setRule ruleId updated).cancelScheduledRuleActions ruleId).state.rules index =
        (rules.setRule ruleId updated).state.rules index := by
      split <;> rfl
    rw [either, set, placed_append, last, progress.records]
    by_cases place : index = ruleIndex ruleId
    · rw [if_pos place, place, beq_self_eq_true, Bool.or_true, if_pos rfl, same]
    · rw [if_neg place, beq_eq_false_iff_ne.mpr fun equal => place equal.symm, Bool.or_false]
  · rw [placed_append, last, Bool.or_eq_false_iff, beq_eq_false_iff_ne] at absent
    rw [loadRules_update stores ruleId updated outcomes here index inside,
      if_neg fun equal => absent.2 equal.symm]
    exact progress.stored index inside absent.1
  · rw [flag]
    cases enabling : operation == RuleStatusOperation.enable with
    | true =>
      have never : ∀ list, cancelledWith operation list (first.schedule.scheduled slot) = false := by
        intro list
        rw [cancelledWith, bne, enabling, Bool.not_true, Bool.and_false, Bool.false_and]
      have kept := progress.scheduled slot
      rw [never] at kept
      rw [never, if_pos rfl]
      exact kept
    | false =>
      rw [if_neg Bool.false_ne_true, cancelled_scheduled]
      have kept : (rules.setRule ruleId updated).schedule.scheduled slot =
          if cancelledWith operation done (first.schedule.scheduled slot) then {}
          else first.schedule.scheduled slot := progress.scheduled slot
      rw [kept]
      have both : cancelledWith operation (done ++ [ruleId]) (first.schedule.scheduled slot) =
          (cancelledWith operation done (first.schedule.scheduled slot) ||
            (first.schedule.scheduled slot).pending &&
              (first.schedule.scheduled slot).ruleId == ruleId) := by
        simp only [cancelledWith, bne, enabling, Bool.not_false, Bool.and_true,
          List.contains_eq_any_beq, List.any_append, List.any_cons, List.any_nil, Bool.or_false,
          Bool.and_or_distrib_left]
      rw [both]
      cases cancelledWith operation done (first.schedule.scheduled slot) with
      | true => rfl
      | false => rfl

/-- After a failure the records are back; the actions of the rules that had been saved are gone,
and so is what was stored of these rules before. -/
structure StatusFailed (operation : RuleStatusOperation) (first : RuleEngine) (before : Stores)
    (saved : List UInt8) (after : RuleEngine × Stores) : Prop where
  records : ∀ index, after.1.state.rules index = first.state.rules index
  stored : ∀ index, index < Rules.kRuleCount → after.2.loadRules.rules index =
    if placed saved index then first.state.rules index else before.loadRules.rules index
  scheduled : ∀ slot, after.1.schedule.scheduled slot =
    if cancelledWith operation saved (first.schedule.scheduled slot) then {}
    else first.schedule.scheduled slot

theorem rollbackRules_failed (operation : RuleStatusOperation) (first : RuleEngine)
    (before : Stores) (done : List UInt8) (rules : RuleEngine) (stores : Stores)
    (progress : StatusProgress operation first before done rules stores)
    (own : ∀ ruleId ∈ done, foreignRule ruleId = false) (outcomes : List Bool)
    (reliable : ∀ stored ∈ outcomes.take done.length, stored = true) :
    StatusFailed operation first before done
      (rollbackRules (originalRules first done) rules { stores with outcomes := outcomes }) := by
  obtain ⟨records, flash, schedule⟩ := rollbackRules_restores first done rules
    { stores with outcomes := outcomes } own reliable
  refine ⟨fun index => ?_, fun index inside => ?_, fun slot => ?_⟩
  · rw [records, progress.records]
    cases placed done index <;> rfl
  · rw [flash index inside]
    cases place : placed done index with
    | true => rfl
    | false => exact progress.stored index inside place
  · rw [schedule]
    exact progress.scheduled slot

theorem applyRuleStatuses_cons (operation : RuleStatusOperation) (ruleId : UInt8)
    (rest : List UInt8) (originals : List (UInt8 × Rules.RuleRecord)) (rules : RuleEngine)
    (stores : Stores) (own : foreignRule ruleId = false) :
    let updated := updateRuleStatus operation (rules.state.rules (ruleIndex ruleId))
    applyRuleStatuses operation (ruleId :: rest) originals rules stores =
      if (draw stores.outcomes).1 then
        applyRuleStatuses operation rest
          (originals ++ [(ruleId, rules.state.rules (ruleIndex ruleId))])
          (if updated.enabled then rules.setRule ruleId updated
            else (rules.setRule ruleId updated).cancelScheduledRuleActions ruleId)
          { stores with
            rules := Function.update stores.rules ruleId.toNat (some updated)
            outcomes := (draw stores.outcomes).2 }
      else (rollbackRules originals rules
        { stores with outcomes := (draw stores.outcomes).2 }, false) := by
  intro updated
  rw [applyRuleStatuses, rule_own rules.state ruleId own]
  dsimp only
  rw [saveRule_own _ _ _ own]
  cases (draw stores.outcomes).1 <;> rfl

theorem applyRuleStatuses_failed (operation : RuleStatusOperation) (first : RuleEngine)
    (before : Stores) (ruleIds done : List UInt8) (rules : RuleEngine) (stores : Stores)
    (progress : StatusProgress operation first before done rules stores)
    (own : ∀ ruleId ∈ done ++ ruleIds, foreignRule ruleId = false)
    (once : (done ++ ruleIds).Nodup)
    (failed : (applyRuleStatuses operation ruleIds (originalRules first done) rules stores).2 =
      false)
    (reliable : ∀ stored ∈ (stores.outcomes.drop
      ((savedRules ruleIds stores.outcomes).length + 1)).take
        (done.length + (savedRules ruleIds stores.outcomes).length), stored = true) :
    StatusFailed operation first before (done ++ savedRules ruleIds stores.outcomes)
      (applyRuleStatuses operation ruleIds (originalRules first done) rules stores).1 := by
  induction ruleIds generalizing done rules stores with
  | nil => cases failed
  | cons ruleId rest ih =>
    have here := own ruleId (by simp)
    have turn := applyRuleStatuses_cons operation ruleId rest (originalRules first done) rules
      stores here
    dsimp only at turn
    cases drawn : (draw stores.outcomes).1 with
    | false =>
      have none : savedRules (ruleId :: rest) stores.outcomes = [] := by
        rw [savedRules_cons, drawn, if_neg Bool.false_ne_true]
      rw [drawn, if_neg Bool.false_ne_true] at turn
      rw [none, List.length_nil, Nat.add_zero, Nat.zero_add, ← draw_rest] at reliable
      rw [turn, none, List.append_nil]
      exact rollbackRules_failed operation first before done rules stores progress
        (fun other member => own other (List.mem_append_left _ member)) _ reliable
    | true =>
      have more : savedRules (ruleId :: rest) stores.outcomes =
          ruleId :: savedRules rest (draw stores.outcomes).2 := by
        rw [savedRules_cons, drawn, if_pos rfl]
      have list : done ++ ruleId :: rest = (done ++ [ruleId]) ++ rest := by simp
      rw [list] at own once
      have ownNext : ∀ other ∈ done ++ [ruleId], foreignRule other = false :=
        fun other member => own other (List.mem_append_left _ member)
      have onceNext : ruleId ∉ done := by
        have disjoint := (List.nodup_append.mp (List.nodup_append.mp once).1).2.2
        exact fun member => disjoint ruleId member ruleId List.mem_cons_self rfl
      have current : rules.state.rules (ruleIndex ruleId) =
          first.state.rules (ruleIndex ruleId) := by
        rw [progress.records, placed_own done ruleId ownNext onceNext,
          if_neg Bool.false_ne_true]
      have kept : originalRules first done ++ [(ruleId, rules.state.rules (ruleIndex ruleId))] =
          originalRules first (done ++ [ruleId]) := by
        rw [originalRules, originalRules, List.map_append, current]
        rfl
      rw [drawn, if_pos rfl, kept] at turn
      rw [turn] at failed ⊢
      rw [more, List.append_cons]
      refine ih (done ++ [ruleId]) _ _ (statusProgress_next operation first before done rules
        stores progress ruleId ownNext onceNext (draw stores.outcomes).2) own once failed ?_
      -- the saves of a rollback are the same ones, counted from one save later
      rw [more, List.length_cons] at reliable
      dsimp only
      rw [draw_rest, List.drop_drop, ← draw_rest, List.length_append, List.length_singleton,
        Nat.add_assoc, Nat.add_comm 1, Nat.add_comm 1]
      exact reliable

/-- Nothing is lost with a rule that has been saved: what was stored of it is the live record,
and if its actions are cancelled, none of them waits. -/
def Restorable (operation : RuleStatusOperation) (rules : RuleEngine) (stores : Stores)
    (ruleId : UInt8) : Prop :=
  stores.loadRules.rules (ruleIndex ruleId) = rules.state.rules (ruleIndex ruleId) ∧
  (operation ≠ .enable → NothingScheduled ruleId rules)

theorem mem_maskedRules (mask : UInt16) :
    (maskedRules mask).Nodup ∧ ∀ ruleId ∈ maskedRules mask, foreignRule ruleId = false := by
  have all : ((List.range Rules.kRuleCount).map fun bit => UInt8.ofNat (bit + 1)).Nodup ∧
      ∀ ruleId ∈ (List.range Rules.kRuleCount).map fun bit => UInt8.ofNat (bit + 1),
        foreignRule ruleId = false := by decide +kernel
  have part : (maskedRules mask).Sublist
      ((List.range Rules.kRuleCount).map fun bit => UInt8.ofNat (bit + 1)) :=
    List.Sublist.map _ List.filter_sublist
  exact ⟨all.1.sublist part, fun ruleId member => all.2 ruleId (part.subset member)⟩

theorem savedRules_sublist (ruleIds : List UInt8) (outcomes : List Bool) :
    (savedRules ruleIds outcomes).Sublist ruleIds := by
  induction ruleIds generalizing outcomes with
  | nil => exact List.Sublist.slnil
  | cons ruleId rest ih =>
    rw [savedRules_cons]
    split
    · exact (ih _).cons_cons ruleId
    · exact List.nil_sublist _

/-- The rules that a status command saves before a save fails. -/
def savedBefore (command : RuleStatusCommand) (stores : Stores) : List UInt8 :=
  savedRules (maskedRules command.ruleMask) stores.outcomes

def RollbackReliable (command : RuleStatusCommand) (stores : Stores) : Prop :=
  ∀ stored ∈ (stores.outcomes.drop ((savedBefore command stores).length + 1)).take
    (savedBefore command stores).length, stored = true

/-- A failed status command leaves everything as it was exactly if nothing is lost with the
rules that it had saved. -/
theorem ruleStatus_undone_iff (command : RuleStatusCommand) (rules : RuleEngine) (stores : Stores)
    (failed : (applyRuleStatusCommand command rules stores).2 = false)
    (reliable : RollbackReliable command stores) :
    RulesUntouched rules stores (applyRuleStatusCommand command rules stores).1.1
        (applyRuleStatusCommand command rules stores).1.2 ↔
      ∀ ruleId ∈ savedBefore command stores, Restorable command.operation rules stores ruleId := by
  obtain ⟨once, own⟩ := mem_maskedRules command.ruleMask
  have start : StatusProgress command.operation rules stores [] rules stores := by
    refine ⟨fun _ => rfl, fun _ _ _ => rfl, fun slot => ?_⟩
    have none : cancelledWith command.operation [] (rules.schedule.scheduled slot) = false :=
      Bool.and_false _
    rw [none, if_neg Bool.false_ne_true]
  obtain ⟨records, stored, scheduled⟩ := applyRuleStatuses_failed command.operation rules stores
    (maskedRules command.ruleMask) [] rules stores start own once failed (by
      rw [List.length_nil, Nat.zero_add]
      exact reliable)
  rw [List.nil_append] at stored scheduled
  have among : ∀ ruleId ∈ savedBefore command stores, foreignRule ruleId = false :=
    fun ruleId member => own ruleId ((savedRules_sublist _ _).subset member)
  constructor
  · rintro ⟨_, flash, entries⟩ ruleId member
    refine ⟨?_, fun cancels slot inside => ?_⟩
    · have position := (ruleIndex_own ruleId (among ruleId member)).1
      have here : placed (savedBefore command stores) (ruleIndex ruleId) = true :=
        List.any_eq_true.mpr ⟨ruleId, member, beq_self_eq_true _⟩
      have same := flash _ position
      have now := stored _ position
      unfold savedBefore at here
      rw [here, if_pos rfl] at now
      exact (now.symm.trans same).symm
    · have same := entries slot inside
      have now := scheduled slot
      rw [← Bool.not_eq_true, Bool.and_eq_true, beq_iff_eq]
      rintro ⟨pending, ofRule⟩
      have gone : cancelledWith command.operation (savedBefore command stores)
          (rules.schedule.scheduled slot) = true := by
        rw [cancelledWith, pending, ofRule, bne_iff_ne.mpr cancels,
          List.contains_iff_mem.mpr member]
        rfl
      unfold savedBefore at gone
      rw [gone, if_pos rfl] at now
      have cleared := congrArg Rules.ScheduledRuleAction.pending (now.symm.trans same)
      rw [pending] at cleared
      cases cleared
  · intro restorable
    refine ⟨fun index _ => records index, fun index inside => ?_, fun slot inside => ?_⟩
    · refine (stored index inside).trans ?_
      split
      · rename_i place
        obtain ⟨ruleId, member, same⟩ := List.any_eq_true.mp place
        rw [← beq_iff_eq.mp same]
        exact (restorable ruleId member).1.symm
      · rfl
    · refine (scheduled slot).trans ?_
      split
      · rename_i gone
        rw [cancelledWith, Bool.and_eq_true, Bool.and_eq_true, bne_iff_ne,
          List.contains_iff_mem] at gone
        obtain ⟨⟨pending, cancels⟩, member⟩ := gone
        have none := (restorable _ member).2 cancels slot inside
        rw [pending, beq_self_eq_true] at none
        cases none
      · rfl

/-- Rules 1 and 2 are enabled and stored so, and a delayed action of rule 1 waits. -/
def delayedRules : RuleEngine where
  state := ⟨fun index => if index < 2 then { enabled := true } else {}⟩
  schedule := { scheduled := fun slot => if slot = 0 then { pending := true, ruleId := 1 } else {} }

def secondRefused : Stores where
  outcomes := [true, false]
  rules := fun key => if key = 1 ∨ key = 2 then some { enabled := true } else none

theorem secondRefused_failed (operation : RuleStatusOperation) :
    (applyRuleStatusCommand { ruleMask := 0x0003, operation := operation } delayedRules
      secondRefused).2 = false ∧
    RollbackReliable { ruleMask := 0x0003, operation := operation } secondRefused := by
  refine ⟨?_, ?_⟩
  · cases operation <;> decide +kernel
  · have none : (secondRefused.outcomes.drop ((savedBefore
        { ruleMask := 0x0003, operation := operation } secondRefused).length + 1)) = [] := by
      cases operation <;> decide +kernel
    intro stored member
    rw [none, List.take_nil] at member
    cases member

theorem ruleStatus_undone_enable :
    RulesUntouched delayedRules secondRefused
        (applyRuleStatusCommand { ruleMask := 0x0003, operation := .enable } delayedRules
          secondRefused).1.1
        (applyRuleStatusCommand { ruleMask := 0x0003, operation := .enable } delayedRules
          secondRefused).1.2 ↔
      ∀ ruleId ∈ savedBefore { ruleMask := 0x0003, operation := .enable } secondRefused,
        Restorable .enable delayedRules secondRefused ruleId :=
  ruleStatus_undone_iff { ruleMask := 0x0003, operation := .enable } delayedRules secondRefused
    (secondRefused_failed .enable).1 (secondRefused_failed .enable).2

/-- The delayed action of rule 1 is not put back when rule 2 cannot be saved. -/
theorem delayed_action_lost :
    (applyRuleStatusCommand { ruleMask := 0x0003, operation := .disable } delayedRules
      secondRefused).2 = false ∧
    RollbackReliable { ruleMask := 0x0003, operation := .disable } secondRefused ∧
    ¬ RulesUntouched delayedRules secondRefused
      (applyRuleStatusCommand { ruleMask := 0x0003, operation := .disable } delayedRules
        secondRefused).1.1
      (applyRuleStatusCommand { ruleMask := 0x0003, operation := .disable } delayedRules
        secondRefused).1.2 := by
  obtain ⟨failed, reliable⟩ := secondRefused_failed .disable
  refine ⟨failed, reliable, fun untouched => ?_⟩
  have same := congrArg Rules.ScheduledRuleAction.pending (untouched.scheduled 0 (by decide))
  have lost : ((applyRuleStatusCommand { ruleMask := 0x0003, operation := .disable } delayedRules
      secondRefused).1.1.schedule.scheduled 0).pending ≠
        (delayedRules.schedule.scheduled 0).pending := by
    decide +kernel
  exact lost same

end Application
