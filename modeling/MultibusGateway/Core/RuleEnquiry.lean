import MultibusGateway.Core.RuleRestart
import MultibusGateway.Lorawan.Locality

/-! An enquiry stages the frames that configured a rule, as they are stored. Every stored frame
configures its own slot again. The enabled flag is taken from a bit of the frames, which a
status command does not rewrite: the last frame of the reply has the last word. -/

namespace Application
open ByteString Preferences Modbus Lorawan Rules Framing

def OwnFrame (ruleId : UInt8) (slot : RuleFrameSlot) (content : Bytes) : Prop :=
  ∃ command, decodeRuleConfigurationCommand content = .ok (command, content.length) ∧
    command.ruleId = ruleId ∧ command.slot = slot ∧ command.frame = content

def OwnFrames (ruleId : UInt8) (record : RuleRecord) : Prop :=
  ∀ slot, (record.frames slot).present = true → OwnFrame ruleId slot (record.frames slot).content

structure FramesKept (state : RuleState) (flash : Flash Nat RuleRecord) : Prop where
  live : ∀ ruleId, foreignRule ruleId = false →
    OwnFrames ruleId (state.rules (ruleIndex ruleId))
  stored : ∀ ruleId, foreignRule ruleId = false → ∀ record,
    flash ruleId.toNat = some record → OwnFrames ruleId record

/-- The states of the rules that commands lead to; all else goes its own way, and a restart loads
the stored records. -/
inductive RulesReached : RuleParts → Prop where
  | start (parts : RuleParts) (state : parts.rules.state = {})
      (flash : parts.stores.rules = fun _ => none) : RulesReached parts
  | configured {parts : RuleParts} (payload : Bytes) (command : RuleConfigurationCommand)
      (consumed : Nat) (decoded : decodeRuleConfigurationCommand payload = .ok (command, consumed))
      (before : RulesReached parts) :
      RulesReached (applyRuleConfigurationCommand command parts).1
  | updated {parts : RuleParts} (command : RuleStatusCommand) (before : RulesReached parts) :
      RulesReached (ruleStep parts (.status command))
  | restarted {parts : RuleParts} (before : RulesReached parts) :
      RulesReached { parts with rules := { state := parts.stores.loadRules } }
  | other {parts : RuleParts} (after : RuleParts) (state : after.rules.state = parts.rules.state)
      (flash : after.stores.rules = parts.stores.rules) (before : RulesReached parts) :
      RulesReached after

theorem decoded_ownFrame (payload : Bytes) (command : RuleConfigurationCommand) (consumed : Nat)
    (decoded : decodeRuleConfigurationCommand payload = .ok (command, consumed)) :
    OwnFrame command.ruleId command.slot command.frame := by
  obtain ⟨-, inside, again⟩ :=
    decodeRuleConfigurationCommand_local payload command consumed decoded
  have frame : command.frame = payload.take consumed := by
    grind [decodeRuleConfigurationCommand]
  have length : command.frame.length = consumed := by
    rw [frame, List.length_take, Nat.min_eq_left inside]
  refine ⟨command, ?_, rfl, rfl, rfl⟩
  rw [length, frame]
  exact again _ (agree_of_take inside (by rw [List.take_take, Nat.min_self]))

theorem not_present_content (frame : StoredFrame) (absent : frame.present = false) :
    frame.content = [] := by
  unfold StoredFrame.present at absent
  rw [StoredFrame.content, bne_eq_false_iff_eq.mp absent]
  rfl

theorem ownFrames_cleared (ruleId : UInt8) : OwnFrames ruleId {} :=
  fun _ present => by cases present

theorem ownFrames_status (ruleId : UInt8) (operation : RuleStatusOperation) (record : RuleRecord)
    (own : OwnFrames ruleId record) : OwnFrames ruleId (updateRuleStatus operation record) := by
  cases operation with
  | enable => exact own
  | disable => exact own
  | delete => exact ownFrames_cleared ruleId

theorem configuredRule_frames (command : RuleConfigurationCommand) (current : RuleRecord)
    (frame : StoredFrame) (slot : RuleFrameSlot) :
    (configuredRule command current frame).frames slot =
      if slot = command.slot then frame else current.frames slot :=
  Function.update_apply current.frames command.slot frame slot

theorem ownFrames_configured (command : RuleConfigurationCommand) (current : RuleRecord)
    (frame : StoredFrame) (own : OwnFrames command.ruleId current)
    (decoded : OwnFrame command.ruleId command.slot command.frame)
    (taken : (current.frames command.slot).set command.frame = some frame) :
    OwnFrames command.ruleId (configuredRule command current frame) := by
  intro slot present
  rw [configuredRule_frames] at present ⊢
  split at present
  · rename_i here
    rw [if_pos here, here, StoredFrame.set_content _ frame _ taken]
    exact decoded
  · rename_i other
    rw [if_neg other]
    exact own slot present

theorem ruleIndex_inj (a b : UInt8) (ownA : foreignRule a = false) (ownB : foreignRule b = false)
    (same : ruleIndex a = ruleIndex b) : a = b := by
  have first := ruleIndex_own a ownA
  have second := ruleIndex_own b ownB
  exact UInt8.toNat_inj.mp (by omega)

/-! A record of a rule is written, live or in flash. -/

section Kept
variable {state : RuleState} {flash : Flash Nat RuleRecord} (kept : FramesKept state flash)
  (ruleId : UInt8) (own : foreignRule ruleId = false) (record : RuleRecord)
  (frames : OwnFrames ruleId record)

include kept own frames

theorem framesKept_live : FramesKept (state.setRule ruleId record) flash := by
  refine ⟨fun other ownOther => ?_, kept.stored⟩
  change OwnFrames other (Function.update state.rules (ruleIndex ruleId) record (ruleIndex other))
  by_cases same : ruleIndex other = ruleIndex ruleId
  · rw [same, Function.update_self, ruleIndex_inj other ruleId ownOther own same]
    exact frames
  · rw [Function.update_of_ne same]
    exact kept.live other ownOther

omit own in
theorem framesKept_stored :
    FramesKept state (Function.update flash ruleId.toNat (some record)) := by
  refine ⟨kept.live, fun other ownOther loaded found => ?_⟩
  by_cases same : other = ruleId
  · rw [same, Function.update_self, Option.some.injEq] at found
    rw [same, ← found]
    exact frames
  · rw [Function.update_of_ne fun equal => same (UInt8.toNat_inj.mp equal)] at found
    exact kept.stored other ownOther loaded found

end Kept

theorem framesKept_configure (command : RuleConfigurationCommand) (parts : RuleParts)
    (kept : FramesKept parts.rules.state parts.stores.rules)
    (decoded : OwnFrame command.ruleId command.slot command.frame) :
    FramesKept (applyRuleConfigurationCommand command parts).1.rules.state
      (applyRuleConfigurationCommand command parts).1.stores.rules := by
  cases known : parts.rules.state.rule command.ruleId with
  | none =>
    rw [configure_unknown command parts known]
    exact kept
  | some current =>
    have own := foreignRule_of_rule _ _ current known
    have live := kept.live command.ruleId own
    rw [rule_own _ _ own, Option.some.injEq] at known
    rw [known] at live
    cases taken : (current.frames command.slot).set command.frame with
    | none =>
      rw [configure_refused command parts current (by rw [rule_own _ _ own, known]) taken]
      exact kept
    | some frame =>
      have frames := ownFrames_configured command current frame live decoded taken
      rw [configure_taken command parts current frame (by rw [rule_own _ _ own, known]) taken]
      split
      · rw [storedConfiguration_state]
        exact framesKept_stored (framesKept_live kept command.ruleId own _ frames)
          command.ruleId _ frames
      · exact kept

theorem framesKept_rollback (originals : List (UInt8 × RuleRecord)) (rules : RuleEngine)
    (stores : Stores) (kept : FramesKept rules.state stores.rules)
    (frames : ∀ original ∈ originals,
      foreignRule original.1 = false ∧ OwnFrames original.1 original.2) :
    FramesKept (rollbackRules originals rules stores).1.state
      (rollbackRules originals rules stores).2.rules := by
  induction originals generalizing rules stores with
  | nil => exact kept
  | cons original rest ih =>
    obtain ⟨⟨own, here⟩, others⟩ := List.forall_mem_cons.mp frames
    refine ih (rules.setRule original.1 original.2)
      (stores.saveRule original.1 original.2).1 ?_ others
    have live := framesKept_live kept original.1 own original.2 here
    rw [saveRule_own _ _ _ own]
    split
    · exact framesKept_stored live original.1 original.2 here
    · exact live

theorem framesKept_statuses (operation : RuleStatusOperation) (ruleIds : List UInt8)
    (originals : List (UInt8 × RuleRecord)) (rules : RuleEngine) (stores : Stores)
    (kept : FramesKept rules.state stores.rules)
    (own : ∀ ruleId ∈ ruleIds, foreignRule ruleId = false)
    (frames : ∀ original ∈ originals,
      foreignRule original.1 = false ∧ OwnFrames original.1 original.2) :
    FramesKept (applyRuleStatuses operation ruleIds originals rules stores).1.1.state
      (applyRuleStatuses operation ruleIds originals rules stores).1.2.rules := by
  induction ruleIds generalizing originals rules stores with
  | nil => exact kept
  | cons ruleId rest ih =>
    obtain ⟨here, others⟩ := List.forall_mem_cons.mp own
    have current := kept.live ruleId here
    have updated := ownFrames_status ruleId operation _ current
    rw [applyRuleStatuses_cons operation ruleId rest originals rules stores here]
    split
    · refine ih _ (statusUpdated ruleId _ rules) _ ?_ others ?_
      · rw [statusUpdated_state]
        exact framesKept_stored (framesKept_live kept ruleId here _ updated) ruleId _ updated
      · intro original member
        rcases List.mem_append.mp member with before | last
        · exact frames original before
        · rw [List.mem_singleton.mp last]
          exact ⟨here, current⟩
    · exact framesKept_rollback originals rules _ kept frames

theorem framesKept_loaded (state : RuleState) (stores : Stores)
    (kept : FramesKept state stores.rules) : FramesKept stores.loadRules stores.rules := by
  refine ⟨fun ruleId own => ?_, kept.stored⟩
  obtain ⟨inside, position⟩ := ruleIndex_own ruleId own
  simp only [Stores.loadRules, if_pos inside, position]
  cases found : stores.rules ruleId.toNat with
  | none => exact ownFrames_cleared ruleId
  | some record => exact kept.stored ruleId own record found

theorem RulesReached.framesKept {parts : RuleParts} (reached : RulesReached parts) :
    FramesKept parts.rules.state parts.stores.rules := by
  induction reached with
  | start parts state flash =>
    rw [state, flash]
    exact ⟨fun ruleId _ => ownFrames_cleared ruleId, fun _ _ _ found => by cases found⟩
  | configured payload command consumed decoded _ ih =>
    exact framesKept_configure command _ ih (decoded_ownFrame payload command consumed decoded)
  | updated command _ ih =>
    exact framesKept_statuses command.operation (maskedRules command.ruleMask) [] _ _ ih
      (mem_maskedRules command.ruleMask).2 (by simp)
  | restarted _ ih => exact framesKept_loaded _ _ ih
  | other after state flash _ ih =>
    rw [state, flash]
    exact ih

/-! The frames of a reply are fed back. -/

def feed (parts : RuleParts) (frame : StoredFrame) : RuleParts :=
  match decodeRuleConfigurationCommand frame.content with
  | .error _ => parts
  | .ok (command, _) => (applyRuleConfigurationCommand command parts).1

def enables (frame : StoredFrame) : Bool := byteAt frame.content 2 &&& 0x80 != 0

/-- The enabled flag after frames have been fed. -/
def flagAfter (before : Bool) (frames : List StoredFrame) : Bool :=
  (frames.getLast?.map enables).getD before

theorem flagAfter_cons (before : Bool) (frame : StoredFrame) (rest : List StoredFrame) :
    flagAfter before (frame :: rest) = flagAfter (enables frame) rest := by
  unfold flagAfter
  rw [List.getLast?_cons]
  cases rest.getLast? <;> rfl

def presentFrames (slots : List RuleFrameSlot) (record : RuleRecord) : List StoredFrame :=
  (slots.map record.frames).filter StoredFrame.present

theorem set_taken (frame : StoredFrame) (source : Bytes) (least : 4 ≤ source.length)
    (most : source.length ≤ 57) : ∃ stored, frame.set source = some stored := by
  have limit : kMaxRuleFrameLength = 58 := rfl
  unfold StoredFrame.set
  rw [dif_neg (by omega)]
  exact ⟨_, rfl⟩

section Feed
variable (ruleId : UInt8) (own : foreignRule ruleId = false)

include own

theorem feed_own (parts : RuleParts) (slot : RuleFrameSlot) (frame : StoredFrame)
    (configures : OwnFrame ruleId slot frame.content)
    (saved : (draw parts.stores.outcomes).1 = true) :
    ((feed parts frame).rules.state.rules (ruleIndex ruleId)).enabled = enables frame ∧
    (∀ s, (((feed parts frame).rules.state.rules (ruleIndex ruleId)).frames s).content =
      if s = slot then frame.content
      else ((parts.rules.state.rules (ruleIndex ruleId)).frames s).content) ∧
    (feed parts frame).stores.outcomes = (draw parts.stores.outcomes).2 := by
  obtain ⟨command, decoded, rfl, rfl, whole⟩ := configures
  have least : 4 ≤ command.frame.length := by
    rw [whole]
    grind [decodeRuleConfigurationCommand]
  have most := decodedFrame_length frame.content command _ decoded
  have flag : command.enabled = enables frame := by
    unfold enables
    grind [decodeRuleConfigurationCommand]
  obtain ⟨stored, taken⟩ := set_taken
    ((parts.rules.state.rules (ruleIndex command.ruleId)).frames command.slot) command.frame
    least most
  have content := StoredFrame.set_content _ stored _ taken
  unfold feed
  rw [decoded]
  dsimp only
  rw [configure_taken command parts _ stored (rule_own _ _ own) taken, if_pos saved]
  dsimp only
  rw [storedConfiguration_records, if_pos rfl]
  refine ⟨flag, fun s => ?_, rfl⟩
  rw [configuredRule_frames]
  split
  · rw [content, whole]
  · rfl

/-- Fed back in order, the frames of some slots fill these slots, and the last one decides. -/
theorem feed_frames (record : RuleRecord) (frames : OwnFrames ruleId record)
    (slots : List RuleFrameSlot) (once : slots.Nodup) (parts : RuleParts)
    (reliable : ∀ stored ∈ parts.stores.outcomes.take slots.length, stored = true) :
    (((presentFrames slots record).foldl feed parts).rules.state.rules
        (ruleIndex ruleId)).enabled =
      flagAfter (parts.rules.state.rules (ruleIndex ruleId)).enabled
        (presentFrames slots record) ∧
    ∀ s, ((((presentFrames slots record).foldl feed parts).rules.state.rules
        (ruleIndex ruleId)).frames s).content =
      if s ∈ slots ∧ (record.frames s).present = true then (record.frames s).content
      else ((parts.rules.state.rules (ruleIndex ruleId)).frames s).content := by
  induction slots generalizing parts with
  | nil => exact ⟨rfl, by simp [presentFrames]⟩
  | cons slot rest ih =>
    obtain ⟨absent, once⟩ := List.nodup_cons.mp once
    rw [List.length_cons] at reliable
    cases present : (record.frames slot).present with
    | false =>
      have skipped : presentFrames (slot :: rest) record = presentFrames rest record := by
        simp [presentFrames, present]
      obtain ⟨flag, contents⟩ := ih once parts fun stored member =>
        reliable stored (List.take_subset_take_left _ (Nat.le_succ _) member)
      rw [skipped]
      refine ⟨flag, fun s => ?_⟩
      rw [contents s]
      by_cases here : s = slot
      · simp [here, present]
      · simp [here]
    | true =>
      have taken : presentFrames (slot :: rest) record =
          record.frames slot :: presentFrames rest record := by
        simp [presentFrames, present]
      obtain ⟨drawn, later⟩ := draw_reliable parts.stores.outcomes rest.length reliable
      obtain ⟨flag, contents, outcomes⟩ :=
        feed_own ruleId own parts slot (record.frames slot) (frames slot present) drawn
      rw [← outcomes] at later
      obtain ⟨flags, filled⟩ := ih once (feed parts (record.frames slot)) later
      rw [taken, List.foldl_cons, flagAfter_cons, ← flag]
      refine ⟨flags, fun s => ?_⟩
      rw [filled s, contents s]
      by_cases here : s = slot
      · subst here
        simp [absent, present]
      · simp [here]

end Feed

def enquiryReply (parts : RuleParts) (ruleId : UInt8) : List StoredFrame :=
  (parts.replies.stageRuleEnquiryReply parts.rules.state ruleId).1.frames

/-- Fed back onto a cleared rule, the reply gives the record again: the flag, and what is in each
slot. Nothing is replied for a record without frames. -/
structure Reproduced (parts : RuleParts) (ruleId : UInt8) (record : RuleRecord)
    (fresh : RuleParts) : Prop where
  enabled : (((enquiryReply parts ruleId).foldl feed fresh).rules.state.rules
    (ruleIndex ruleId)).enabled = record.enabled
  contents : ∀ slot, ((((enquiryReply parts ruleId).foldl feed fresh).rules.state.rules
    (ruleIndex ruleId)).frames slot).content = (record.frames slot).content
  empty : record.configured = false → enquiryReply parts ruleId = []

theorem enquiryReply_frames (parts : RuleParts) (ruleId : UInt8) (record : RuleRecord)
    (known : parts.rules.state.rule ruleId = some record) :
    enquiryReply parts ruleId = presentFrames RuleFrameSlot.all record := by
  rw [enquiryReply, RuleReplies.stageRuleEnquiryReply, known]
  rfl

/-- In every state of the rules that is reached, an enquiry reproduces a rule exactly if the
last frame that is stored of it has its enabled flag; a rule without frames must be disabled. -/
theorem ruleEnquiry_reproduced_iff (parts : RuleParts) (reached : RulesReached parts)
    (ruleId : UInt8) (record : RuleRecord) (known : parts.rules.state.rule ruleId = some record)
    (fresh : RuleParts) (cleared : fresh.rules.state.rules (ruleIndex ruleId) = {})
    (reliable : ∀ stored ∈ fresh.stores.outcomes.take 4, stored = true) :
    Reproduced parts ruleId record fresh ↔
      flagAfter false (presentFrames RuleFrameSlot.all record) = record.enabled := by
  have own := foreignRule_of_rule _ _ record known
  have frames := reached.framesKept.live ruleId own
  have held : parts.rules.state.rules (ruleIndex ruleId) = record := by
    rw [rule_own _ _ own] at known
    exact Option.some.inj known
  rw [held] at frames
  obtain ⟨flag, contents⟩ :=
    feed_frames ruleId own record frames RuleFrameSlot.all (by decide) fresh reliable
  have reply := enquiryReply_frames parts ruleId record known
  rw [cleared] at flag
  constructor
  · intro again
    have enabled := again.enabled
    rw [reply, flag] at enabled
    exact enabled
  · intro last
    refine ⟨by rw [reply, flag, last], fun slot => ?_, fun unconfigured => ?_⟩
    · rw [reply, contents slot, cleared]
      cases present : (record.frames slot).present with
      | true => rw [if_pos ⟨by cases slot <;> decide, rfl⟩]
      | false =>
        rw [if_neg (by simp), not_present_content _ present]
        exact not_present_content _ rfl
    · rw [reply, presentFrames, List.filter_eq_nil_iff]
      intro frame member
      obtain ⟨slot, inside, rfl⟩ := List.mem_map.mp member
      rw [RuleRecord.configured, List.any_eq_false] at unconfigured
      exact unconfigured slot inside

/-- Rule 1 is enabled on device restart by its frame. -/
def restartConfigured : RuleParts := (applyRuleConfigurationCommand (restartCommand 1) noRules).1

theorem restartConfigured_reached : RulesReached restartConfigured :=
  .configured (restartRule 1) (restartCommand 1) 4 (restartCommand_decoded 1 (.inl rfl))
    (.start noRules rfl rfl)

theorem ruleEnquiry_reproduced_restart :
    Reproduced restartConfigured 1 (restartConfigured.rules.state.rules 0) noRules ↔
      flagAfter false
        (presentFrames RuleFrameSlot.all (restartConfigured.rules.state.rules 0)) =
          (restartConfigured.rules.state.rules 0).enabled :=
  ruleEnquiry_reproduced_iff restartConfigured restartConfigured_reached 1 _ rfl noRules rfl
    (by simp [noRules])

/-- A rule that a status command has disabled comes back enabled. -/
theorem disabled_rule_replied_enabled :
    ¬ ∀ (parts : RuleParts), RulesReached parts → ∀ (ruleId : UInt8) (record : RuleRecord),
      parts.rules.state.rule ruleId = some record → ∀ fresh : RuleParts,
      fresh.rules.state.rules (ruleIndex ruleId) = {} →
      (∀ stored ∈ fresh.stores.outcomes.take 4, stored = true) →
      Reproduced parts ruleId record fresh := by
  intro reproduced
  have again := reproduced
    (ruleStep restartConfigured (.status { operation := .disable, ruleMask := 1 }))
    (.updated { operation := .disable, ruleMask := 1 } restartConfigured_reached) 1 _ rfl noRules
    rfl (by simp [noRules])
  have enabled := again.enabled
  revert enabled
  decide +kernel

end Application
