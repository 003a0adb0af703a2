import MultibusGateway.Core.Interleaving
import MultibusGateway.Library.Replay

/-! The queue of rule replies, over any run. Its frames leave by being sent, each once and
in the order of staging, or are given up together for the frames of a later enquiry. -/

namespace Application
open ByteString Modbus Lorawan Reentrancy Execution Replay

/-- What may happen to the frames that wait: the first of them is sent, a frame goes last, or
the frames of an enquiry come in their place. -/
def replyQueue : Machine (List Rules.StoredFrame) ReplyEvent where
  start := []
  next
    | waiting, .staged frame => some (waiting ++ [frame])
    | _, .restaged frames => some frames
    | [], .sent _ => none
    | head :: rest, .sent frame => if head = frame then some rest else none

namespace RuleReplies

def waiting (replies : RuleReplies) : List Rules.StoredFrame :=
  replies.frames.drop replies.cursor

/-- The queue agrees with what was staged and sent, and holds no empty frame. -/
structure Sound (replies : RuleReplies) : Prop where
  replayed : replyQueue.replay replies.log = some replies.waiting
  inside : replies.cursor ≤ replies.frames.length
  present : ∀ frame ∈ replies.frames, frame.present = true

inductive Stages : RuleReplies → List ReplyEvent → RuleReplies → Prop
  | nothing (a : RuleReplies) : Stages a [] a
  | append {a b : RuleReplies} {events : List ReplyEvent} (frame : Rules.StoredFrame)
      (present : frame.present = true) (before : Stages a events b) :
      Stages a (events ++ [.staged frame]) (b.stage frame)
  | replace {a b : RuleReplies} {events : List ReplyEvent} (frames : List Rules.StoredFrame)
      (present : ∀ frame ∈ frames, frame.present = true) (before : Stages a events b) :
      Stages a (events ++ [.restaged frames])
        { frames := frames, cursor := 0, log := b.log ++ [.restaged frames] }

theorem Stages.trans {a b c : RuleReplies} {first second : List ReplyEvent}
    (before : Stages a first b) (after : Stages b second c) : Stages a (first ++ second) c := by
  induction after with
  | nothing => simpa using before
  | append frame present _ ih =>
    rw [← List.append_assoc]
    exact .append frame present ih
  | replace frames present _ ih =>
    rw [← List.append_assoc]
    exact .replace frames present ih

theorem Stages.log {a b : RuleReplies} {events : List ReplyEvent} (stages : Stages a events b) :
    b.log = a.log ++ events := by
  induction stages with
  | nothing => simp
  | append frame present _ ih => simp [RuleReplies.stage, ih]
  | replace frames present _ ih => simp [ih]

theorem Stages.sound {a b : RuleReplies} {events : List ReplyEvent} (stages : Stages a events b)
    (sound : Sound a) : Sound b := by
  induction stages with
  | nothing => exact sound
  | @append b events frame present _ ih =>
    refine ⟨?_, ?_, ?_⟩
    · have longer : (b.stage frame).waiting = b.waiting ++ [frame] := by
        simp [waiting, stage, List.drop_append_of_le_length ih.inside]
      rw [longer]
      exact replyQueue.replay_snoc b.log (.staged frame) b.waiting ih.replayed
    · have inside := ih.inside
      simp only [RuleReplies.stage, List.length_append, List.length_singleton]
      omega
    · intro other member
      obtain old | new := List.mem_append.mp member
      · exact ih.present other old
      · rw [List.mem_singleton.mp new]
        exact present
  | @replace b events frames present _ ih =>
    exact ⟨replyQueue.replay_snoc b.log (.restaged frames) b.waiting ih.replayed,
      Nat.zero_le _, present⟩

theorem Stages.appended {a b : RuleReplies} {events : List ReplyEvent}
    (stages : Stages a events b) (plain : ∀ frames, .restaged frames ∉ events) :
    ∃ frames, events = frames.map .staged ∧ b.frames = a.frames ++ frames ∧
      b.cursor = a.cursor ∧ ∀ frame ∈ frames, frame.present = true := by
  induction stages with
  | nothing => exact ⟨[], by simp⟩
  | @append b events frame present _ ih =>
    obtain ⟨frames, rfl, grown, cursor, all⟩ := ih fun other member =>
      plain other (List.mem_append_left _ member)
    refine ⟨frames ++ [frame], by simp, ?_, cursor, ?_⟩
    · simp [RuleReplies.stage, grown]
    · intro other member
      obtain old | new := List.mem_append.mp member
      · exact all other old
      · rw [List.mem_singleton.mp new]
        exact present
  | replace frames present _ ih =>
    exact absurd (List.mem_append_right _ (List.mem_singleton.mpr rfl)) (plain frames)

theorem advance_log (replies : RuleReplies) : replies.advance.log = replies.log := by
  unfold advance
  simp only
  split <;> rfl

theorem sound_advance {a b : RuleReplies} (sound : Sound a) (frame : Rules.StoredFrame)
    (head : a.frames[a.cursor]? = some frame) {events : List ReplyEvent}
    (stages : Stages (a.noteSent frame) events b) (plain : ∀ frames, .restaged frames ∉ events) :
    Sound b.advance := by
  obtain ⟨frames, rfl, grown, cursor, present⟩ := stages.appended plain
  have within : a.cursor < a.frames.length := by
    rw [List.getElem?_eq_some_iff] at head
    exact head.1
  have split : a.waiting = frame :: a.frames.drop (a.cursor + 1) := by
    rw [List.getElem?_eq_some_iff] at head
    rw [waiting, List.drop_eq_getElem_cons within, head.2]
  have sent : replyQueue.replay (a.noteSent frame).log = some (a.frames.drop (a.cursor + 1)) := by
    rw [noteSent, replyQueue.replay_snoc a.log (.sent frame) a.waiting sound.replayed, split]
    exact if_pos rfl
  have staged (old : List Rules.StoredFrame) :
      (frames.map ReplyEvent.staged).foldlM replyQueue.next old = some (old ++ frames) := by
    clear stages plain grown present
    induction frames generalizing old with
    | nil => simp
    | cons first rest ih =>
      rw [List.map_cons, List.foldlM_cons]
      exact (ih (old ++ [first])).trans (by simp)
  have replayed : replyQueue.replay b.log = some (b.frames.drop (a.cursor + 1)) := by
    rw [stages.log, replyQueue.replay_append _ _ _ sent, staged, grown, noteSent]
    simp only
    rw [List.drop_append_of_le_length (by omega)]
  have all : ∀ frame ∈ b.frames, frame.present = true := by
    rw [grown]
    intro other member
    obtain old | new := List.mem_append.mp member
    · exact sound.present other old
    · exact present other new
  have position : b.cursor + 1 = a.cursor + 1 := by rw [cursor, noteSent]
  unfold advance
  simp only [position]
  split
  · rename_i behind
    refine ⟨?_, Nat.le_refl _, by simp [clear]⟩
    rw [List.drop_eq_nil_of_le behind] at replayed
    exact replayed
  · rename_i before
    exact ⟨replayed, by simp only; omega, all⟩

end RuleReplies

def OnlyStages (a b : State) : Prop := ∃ events, RuleReplies.Stages a.replies events b.replies

theorem stageRuleConfigurationAck_stages (command : RuleConfigurationCommand) (status : UInt8)
    (replies : RuleReplies) :
    ∃ events, RuleReplies.Stages replies events
      (replies.stageRuleConfigurationAck command status).1 := by
  unfold RuleReplies.stageRuleConfigurationAck
  split
  · exact ⟨_, .nothing replies⟩
  · split
    · exact ⟨_, .nothing replies⟩
    · split
      · exact ⟨_, .nothing replies⟩
      · rename_i frame stored
        obtain ⟨least, most, length, -⟩ := Rules.StoredFrame.set_cases _ _ _ stored
        refine ⟨_, .append frame ?_ (.nothing replies)⟩
        simp only [Rules.StoredFrame.present, bne_iff_ne, ne_eq]
        intro zero
        rw [zero] at length
        exact absurd length (by simp)

theorem stageRuleEnquiryReply_stages (state : Rules.RuleState) (ruleId : UInt8)
    (replies : RuleReplies) :
    ∃ events, RuleReplies.Stages replies events
      (replies.stageRuleEnquiryReply state ruleId).1 := by
  unfold RuleReplies.stageRuleEnquiryReply
  split
  · exact ⟨_, .nothing replies⟩
  · exact ⟨_, .replace _ (fun frame member => (List.mem_filter.mp member).2) (.nothing replies)⟩

theorem applyRuleConfigurationCommand_stages (command : RuleConfigurationCommand)
    (parts : RuleParts) :
    ∃ events, RuleReplies.Stages parts.replies events
      (applyRuleConfigurationCommand command parts).1.replies := by
  unfold applyRuleConfigurationCommand
  split
  · exact ⟨_, .nothing _⟩
  · split
    · exact ⟨_, .nothing _⟩
    · simp only
      split
      · exact ⟨_, .nothing _⟩
      · exact stageRuleConfigurationAck_stages command 0x00 parts.replies

theorem onlyStages_exchanges : KeptByExchanges OnlyStages where
  refl a := ⟨_, .nothing a.replies⟩
  trans _ _ _ := fun ⟨_, first⟩ ⟨_, second⟩ => ⟨_, first.trans second⟩
  exchange _ _ a := ⟨_, .nothing a.replies⟩

theorem onlyStages_kept : KeptByDownlinks OnlyStages where
  toKeptByExchanges := onlyStages_exchanges
  command deliver respects a command := by
    have untouched : RuleReplies.Stages a.replies [] a.replies := .nothing a.replies
    cases command with
    | historyQuery command =>
      exact applyHistoryQueryCommand_respects onlyStages_exchanges deliver respects
        (fun b _ => ⟨_, .nothing b.replies⟩) command a
    | rs485SettingsEnquiry kind =>
      exact replyToRs485SettingsEnquiry_respects onlyStages_exchanges deliver respects kind a
    | ruleEnquiry ruleId => exact stageRuleEnquiryReply_stages _ ruleId a.replies
    | ruleConfiguration command => exact applyRuleConfigurationCommand_stages command (ruleParts a)
    | basicControl control => cases control <;> exact ⟨_, untouched⟩
    | _ => exact ⟨_, untouched⟩
  serverMessage a _ := ⟨_, .nothing a.replies⟩
  rawRequest a _ := ⟨_, .nothing a.replies⟩

/-- Only the sending of a reply does more than staging. -/
theorem step_stages (depth : Nat) (a : State) (c : Call) (other : c ≠ .ruleReply) :
    OnlyStages a (step depth a c) := by
  by_cases query : c = .historyQuery
  · subst query
    exact processHistoryQuery_respects onlyStages_exchanges _
      (deliverNested_respects onlyStages_kept depth) (fun b _ => ⟨_, .nothing b.replies⟩) a
  · exact step_respects_of_blind onlyStages_kept
      (fun a b same _ => ⟨[], by rw [same]; exact .nothing a.replies⟩) depth a c other query

/-- No enquiry puts its frames in the place of the queue while a reply is being sent. -/
def NoEnquiryDuringReply (depth : Nat) (a : State) (c : Call) : Prop :=
  c = .ruleReply → ∀ frames,
    .restaged frames ∉ (step depth a c).replies.log.drop a.replies.log.length

theorem processRuleReply_sound (depth : Nat) (a : State) (sound : a.replies.Sound)
    (condition : NoEnquiryDuringReply depth a .ruleReply) :
    (step depth a .ruleReply).replies.Sound := by
  have respects := deliverNested_respects onlyStages_kept depth
  have events := condition rfl
  simp only [step, call, processRuleReply] at events ⊢
  split
  · exact sound
  · rename_i connected
    simp only [connected, Bool.false_eq_true, if_false] at events
    cases head : a.replies.frames[a.replies.cursor]? with
    | none => exact sound
    | some frame =>
      have present := sound.present frame (List.mem_of_getElem? head)
      simp only [head, present, Bool.not_true, Bool.false_eq_true, if_false] at events ⊢
      obtain ⟨us, radio, unsent | ⟨b, delivered, sent⟩⟩ := send_cases (deliverNested depth)
        (fun app => { app with replies := app.replies.noteSent frame }) kCompatibilityFPort
        frame.content a
      · simp only [unsent, Bool.false_eq_true, if_false]
        exact sound
      · simp only [sent, if_true] at events ⊢
        obtain ⟨staged, stages⟩ := delivered_respects onlyStages_exchanges _ respects _ _ delivered
        refine RuleReplies.sound_advance sound frame head stages fun frames member => ?_
        apply events frames
        have log : b.replies.advance.log = a.replies.log ++ (.sent frame :: staged) := by
          rw [RuleReplies.advance_log, stages.log]
          simp [RuleReplies.noteSent, withExchange]
        rw [log, List.drop_left]
        exact List.mem_cons_of_mem _ member

theorem step_sound (depth : Nat) (a : State) (c : Call) (sound : a.replies.Sound)
    (condition : NoEnquiryDuringReply depth a c) : (step depth a c).replies.Sound := by
  by_cases reply : c = .ruleReply
  · subst reply
    exact processRuleReply_sound depth a sound condition
  · obtain ⟨events, stages⟩ := step_stages depth a c reply
    exact stages.sound sound

theorem processRuleReply_sends (depth : Nat) (a : State) (sound : a.replies.Sound)
    (frame : Rules.StoredFrame) (rest : List Rules.StoredFrame)
    (first : a.replies.waiting = frame :: rest) (exchange : Exchange) (later : List Exchange)
    (connected : a.radio.connected = true) (healthy : a.radio.persistenceHealthy = true)
    (next : a.radio.exchanges = exchange :: later) (saved : exchange.sessionSaved = true)
    (done : exchange.state = .done) :
    ∃ events, (step depth a .ruleReply).replies.log =
      a.replies.log ++ .sent frame :: events := by
  have respects := deliverNested_respects onlyStages_kept depth
  have head : a.replies.frames[a.replies.cursor]? = some frame := by
    have zero := congrArg (fun frames => frames[0]?) first
    simpa [RuleReplies.waiting] using zero
  have present := sound.present frame (List.mem_of_getElem? head)
  have size : frame.content.length = frame.length.toNat := by
    have bounded := frame.bounded
    rw [Rules.StoredFrame.content, List.length_take, Rules.StoredFrame.bytes_length]
    omega
  have accepted : a.radio.accepts kCompatibilityFPort frame.content = true := by
    have limit : Rules.kMaxRuleFrameLength = 58 := rfl
    have bounded := frame.bounded
    have some : frame.length.toNat ≠ 0 := by
      intro zero
      rw [Rules.StoredFrame.present, bne_iff_ne] at present
      exact present (UInt8.toNat_inj.mp zero)
    simp only [Radio.connected, Bool.and_eq_true] at connected
    simp only [Radio.accepts, connected, healthy, size, Bool.and_eq_true, decide_eq_true_eq,
      bne_iff_ne]
    refine ⟨⟨⟨⟨⟨⟨trivial, trivial⟩, trivial⟩, some⟩, by decide⟩, by decide⟩, by omega⟩
  have success := send_succeeds (deliverNested depth)
    (fun app => { app with replies := app.replies.noteSent frame }) kCompatibilityFPort
    frame.content a exchange later accepted next saved done
  obtain ⟨us, radio, unsent | ⟨b, delivered, sent⟩⟩ := send_cases (deliverNested depth)
    (fun app => { app with replies := app.replies.noteSent frame }) kCompatibilityFPort
    frame.content a
  · rw [unsent] at success
    cases success
  · obtain ⟨staged, stages⟩ := delivered_respects onlyStages_exchanges _ respects _ _ delivered
    refine ⟨staged, ?_⟩
    simp only [step, call, processRuleReply, connected, head, present, sent, Bool.not_true,
      Bool.false_eq_true, if_false, if_true, RuleReplies.advance_log, stages.log]
    simp [RuleReplies.noteSent, withExchange]

/-- In every run without an enquiry during a reply, frames leave the queue only by being
sent, each once and in the order of staging, or for the frames of a later enquiry; and with a
good connection the first waiting frame is the next one sent. -/
theorem replies_in_order (depth : Nat) (start : State) (calls : List Call)
    (empty : start.replies = {})
    (condition : Always (step depth) (NoEnquiryDuringReply depth) start calls) :
    let after := run (step depth) start calls
    replyQueue.replay after.replies.log = some after.replies.waiting ∧
      ∀ frame rest, after.replies.waiting = frame :: rest →
        ∀ exchange later, after.radio.connected = true → after.radio.persistenceHealthy = true →
          after.radio.exchanges = exchange :: later → exchange.sessionSaved = true →
          exchange.state = .done →
          ∃ events, (step depth after .ruleReply).replies.log =
            after.replies.log ++ .sent frame :: events := by
  have begins : start.replies.Sound := by
    rw [empty]
    exact ⟨rfl, Nat.le_refl _, by simp⟩
  have sound := invariant_run (step depth) (fun a => a.replies.Sound) _
    (fun a c => step_sound depth a c) start calls begins condition
  exact ⟨sound.replayed, fun frame rest first exchange later connected healthy next saved done =>
    processRuleReply_sends depth _ sound frame rest first exchange later connected healthy next
      saved done⟩

/-- Rule 1 gets a first action and is enabled, which is acknowledged when the radio sends. -/
def acknowledgedCalls : List Call :=
  [.downlink ⟨kCompatibilityFPort, [0xf9, 0x7d, 0x81, 0x90]⟩, .ruleReply]

def acknowledgedStart : State := { radio := { exchanges := [{}] } }

theorem acknowledged_without_enquiry :
    Always (step 1) (NoEnquiryDuringReply 1) acknowledgedStart acknowledgedCalls := by
  intro v member reply frames
  simp only [acknowledgedCalls, steps, List.mem_cons, List.not_mem_nil, or_false] at member
  obtain rfl | rfl := member
  · cases reply
  · intro restaged
    obtain same | later := List.mem_cons.mp restaged
    · cases same
    · cases later

theorem replies_in_order_acknowledged :
    replyQueue.replay (run (step 1) acknowledgedStart acknowledgedCalls).replies.log = some [] :=
  (replies_in_order 1 acknowledgedStart acknowledgedCalls rfl acknowledged_without_enquiry).1

/-- The same command with an enquiry behind it. -/
def acknowledgementGivenUp : State :=
  step 1 {} (.downlink ⟨kCompatibilityFPort, [0xf9, 0x7d, 0x81, 0x90, 0xf9, 0x77, 0x01]⟩)

/-- The enquiry takes the acknowledgement out of the queue before it is sent. -/
theorem acknowledgement_given_up :
    ∃ ack asked, ack.content = [0xf8, 0x7d, 0x81, 0x90, 0x00] ∧
      asked.content = [0xf9, 0x7d, 0x81, 0x90] ∧
      acknowledgementGivenUp.replies.log = [.staged ack, .restaged [asked]] ∧
      acknowledgementGivenUp.replies.waiting = [asked] :=
  ⟨_, _, rfl, rfl, rfl, rfl⟩

end Application
