import MultibusGateway.Core.Loop

/-! What an uplink may change. The downlinks handled while it is sent are commands, server
messages and raw requests, nested in any way; a relation between states that each of these
keeps is kept by the whole uplink, and by every function of the loop that is not about it. -/

namespace Application
open ByteString Modbus Lorawan Reentrancy

def withExchange (us : Nat) (radio : Radio) (app : State) : State :=
  { app with clock := app.clock.advance us, radio := radio }

/-- Nothing more, or the handling of a downlink. -/
def Delivered (deliver : Deliver State) (a b : State) : Prop :=
  b = a ∨ ∃ downlink, b = (deliver a downlink).1

theorem exchanged_eq (exchange : Exchange) (rest : List Exchange) (app : State) :
    ∃ us radio, exchanged exchange rest app = withExchange us radio app := ⟨_, _, rfl⟩

theorem withExchange_zero (app : State) : withExchange 0 app.radio app = app := by
  simp [withExchange, Clock.advance]

theorem send_cases (deliver : Deliver State) (note : State → State) (endpoint : UInt8)
    (payload : Bytes) (app : State) :
    ∃ us radio,
      send deliver note endpoint payload app = (withExchange us radio app, false) ∨
      ∃ b, Delivered deliver (note (withExchange us radio app)) b ∧
        send deliver note endpoint payload app = (b, true) := by
  have unsent : ∃ us radio, (app, false) = (withExchange us radio app, false) :=
    ⟨0, app.radio, by rw [withExchange_zero]⟩
  simp only [send]
  split
  · obtain ⟨us, radio, same⟩ := unsent
    exact ⟨us, radio, .inl same⟩
  · split
    · obtain ⟨us, radio, same⟩ := unsent
      exact ⟨us, radio, .inl same⟩
    · rename_i exchange rest listed
      obtain ⟨us, radio, same⟩ := exchanged_eq exchange rest app
      refine ⟨us, radio, ?_⟩
      rw [same]
      split
      · exact .inl rfl
      · right
        split
        · exact ⟨_, .inl rfl, rfl⟩
        · split
          · exact ⟨_, .inl rfl, rfl⟩
          · exact ⟨_, .inr ⟨_, rfl⟩, rfl⟩

theorem sendHistoryQueryReply_cases (deliver : Deliver State) (note : State → State)
    (queryType status : UInt8) (app : State) :
    ∃ us radio,
      sendHistoryQueryReply deliver note queryType status app =
          (withExchange us radio app, false) ∨
      ∃ b, Delivered deliver (note (withExchange us radio app)) b ∧
        sendHistoryQueryReply deliver note queryType status app = (b, true) := by
  simp only [sendHistoryQueryReply]
  split
  · exact ⟨0, app.radio, .inl (by rw [withExchange_zero])⟩
  · exact send_cases deliver note kCompatibilityFPort _ app

theorem send_succeeds (deliver : Deliver State) (note : State → State) (endpoint : UInt8)
    (payload : Bytes) (app : State) (exchange : Exchange) (later : List Exchange)
    (accepted : app.radio.accepts endpoint payload = true)
    (next : app.radio.exchanges = exchange :: later) (saved : exchange.sessionSaved = true)
    (done : exchange.state = .done) :
    (send deliver note endpoint payload app).2 = true := by
  simp only [send, accepted, next, saved, done, Bool.not_true, Bool.false_eq_true, if_false]
  simp only [ne_eq, not_true_eq_false, decide_false, Bool.or_self, Bool.false_eq_true, if_false]
  split
  · rfl
  · split <;> rfl

structure KeptByExchanges (R : State → State → Prop) : Prop where
  refl : ∀ a, R a a
  trans : ∀ a b c, R a b → R b c → R a c
  exchange : ∀ us radio a, R a (withExchange us radio a)

structure KeptByDownlinks (R : State → State → Prop) : Prop extends KeptByExchanges R where
  command : ∀ deliver, Respects R deliver → ∀ a c, R a (applyCommand deliver a c).1
  serverMessage : ∀ a matching,
    R a { a with rules := a.rules.triggerMatching a.clock.millis matching }
  rawRequest : ∀ a payload, R a { a with modbus := (a.modbus.queueRawRequest payload).1 }

section
variable {R : State → State → Prop} (kept : KeptByDownlinks R)
include kept

theorem applyCommands_respects (deliver : Deliver State) (respects : Respects R deliver)
    (commands : List ParsedCommand) (a : State) : R a (applyCommands deliver commands a).1 := by
  induction commands generalizing a with
  | nil => exact kept.refl a
  | cons command rest ih =>
    have first := kept.command deliver respects a command
    simp only [applyCommands]
    split
    · rename_i b applied
      rw [applied] at first
      exact kept.trans a b _ first (ih b)
    · rename_i b applied
      rw [applied] at first
      exact first

theorem handlePassThroughDownlink_respects (downlink : Downlink) (a : State) :
    R a (handlePassThroughDownlink downlink a).1 := by
  simp only [handlePassThroughDownlink]
  split
  · exact kept.rawRequest a downlink.payload
  · exact kept.refl a

theorem handleLoRaDownlink_respects (deliver : Deliver State) (respects : Respects R deliver) :
    Respects R (handleLoRaDownlink deliver) := by
  intro a downlink
  simp only [handleLoRaDownlink]
  split
  · exact kept.refl a
  · split
    · exact handlePassThroughDownlink_respects kept downlink a
    · split
      · exact kept.serverMessage a _
      · cases parseCommands downlink.payload with
        | parsed commands => exact applyCommands_respects kept deliver respects commands a
        | failed => exact kept.refl a
        | unfinished => exact kept.refl a

theorem deliverNested_respects (depth : Nat) : Respects R (deliverNested depth) :=
  nested_respects R kept.refl handleLoRaDownlink (handleLoRaDownlink_respects kept) depth

end

section
variable {R : State → State → Prop} (kept : KeptByExchanges R)
variable (deliver : Deliver State) (respects : Respects R deliver)
include kept respects

theorem delivered_respects (a b : State) (delivered : Delivered deliver a b) : R a b := by
  obtain rfl | ⟨downlink, rfl⟩ := delivered
  · exact kept.refl b
  · exact respects a downlink

theorem send_respects (note : State → State) (noted : ∀ a, R a (note a)) (endpoint : UInt8)
    (payload : Bytes) (a : State) : R a (send deliver note endpoint payload a).1 := by
  obtain ⟨us, radio, unsent | ⟨b, delivered, sent⟩⟩ := send_cases deliver note endpoint payload a
  · rw [unsent]
    exact kept.exchange us radio a
  · rw [sent]
    have after := delivered_respects kept deliver respects _ b delivered
    exact kept.trans _ _ _ (kept.trans _ _ _ (kept.exchange us radio a) (noted _)) after

theorem replyToRs485SettingsEnquiry_respects (kind : Rs485SettingsEnquiryKind) (a : State) :
    R a (replyToRs485SettingsEnquiry deliver kind a).1 := by
  simp only [replyToRs485SettingsEnquiry]
  split
  · exact kept.refl a
  · exact send_respects kept deliver respects id kept.refl _ _ a

theorem sendHistoryQueryReply_respects (note : State → State) (noted : ∀ a, R a (note a))
    (queryType status : UInt8) (a : State) :
    R a (sendHistoryQueryReply deliver note queryType status a).1 := by
  simp only [sendHistoryQueryReply]
  split
  · exact kept.refl a
  · exact send_respects kept deliver respects note noted _ _ a

theorem applyHistoryQueryCommand_respects (apart : ∀ a query, R a { a with query := query })
    (command : HistoryQueryCommand) (a : State) :
    R a (applyHistoryQueryCommand deliver command a).1 := by
  have replied := fun note noted queryType status (b : State) (query : HistoryQuery) =>
    kept.trans _ _ _ (apart b query)
      (sendHistoryQueryReply_respects kept deliver respects note noted queryType status _)
  simp only [applyHistoryQueryCommand]
  split
  · exact apart a _
  · split
    · exact replied id kept.refl _ _ a _
    · split
      · exact replied id kept.refl _ _ a _
      · have accepted := replied
          (fun app => { app with query := app.query.noteAccepted }) (fun b => apart b _)
          (queryReplyType command.kind) 0x00 a
          (a.query.select (selectRecords command a.scheduler.settings.seconds a.history.ring))
        split
        · exact kept.trans _ _ _ accepted (apart _ _)
        · exact kept.trans _ _ _ accepted (apart _ _)

/-! The sending functions of the loop, when the relation does not look at what they keep
themselves. -/

theorem processModbusPassThroughResponse_respects
    (apart : ∀ a, R a { a with modbus := a.modbus.takeRawCompletion.1 }) (a : State) :
    R a (processModbusPassThroughResponse deliver a).1 := by
  have taken := apart a
  unfold processModbusPassThroughResponse
  split
  · exact kept.refl a
  · rename_i modbus completion take
    rw [take] at taken
    dsimp only at taken ⊢
    split
    · exact taken
    · exact kept.trans _ _ _ taken (send_respects kept deliver respects id kept.refl _ _ _)

theorem processCompatibilityBasicInfo_respects
    (apart : ∀ a info, R a { a with basicInfo := info }) (a : State) :
    R a (processCompatibilityBasicInfo deliver a).1 := by
  simp only [processCompatibilityBasicInfo]
  split
  · exact kept.refl a
  · split
    · exact kept.refl a
    · rename_i payload encoded
      have sent := send_respects kept deliver respects id kept.refl kCompatibilityFPort payload a
      split
      · exact kept.trans _ _ _ sent (apart _ _)
      · exact sent

theorem processTwoWayPassThroughUplink_respects
    (apart : ∀ a frame, R a { a with twoWayFrame := frame }) (a : State) :
    R a (processTwoWayPassThroughUplink deliver a).1 := by
  simp only [processTwoWayPassThroughUplink]
  split
  · exact kept.refl a
  · split
    · exact kept.refl a
    · split
      · exact apart a none
      · rename_i frame held _ _
        have sent := send_respects kept deliver respects id kept.refl
          a.modbus.masterSettings.passThroughPort frame a
        split
        · exact kept.trans _ _ _ sent (apart _ none)
        · exact sent

theorem performAction_respects
    (scheduler : ∀ a, R a { a with scheduler := a.scheduler.requestImmediateReport })
    (modbus : ∀ a payload, R a { a with modbus := (a.modbus.queueRuleRawRequest payload).1 })
    (reboot : ∀ a, R a { a with rebootRequested := true })
    (entry : Rules.ScheduledRuleAction) (a : State) : R a (performAction deliver entry a) := by
  unfold performAction
  split
  · exact send_respects kept deliver respects id kept.refl _ _ a
  · exact scheduler a
  · exact modbus a _
  · split
    · exact kept.refl a
    · split
      · exact kept.refl a
      · exact send_respects kept deliver respects id kept.refl _ _ a
  · exact reboot a
  · exact kept.refl a
  · exact kept.refl a

theorem processRuleExecution_respects
    (scheduler : ∀ a, R a { a with scheduler := a.scheduler.requestImmediateReport })
    (modbus : ∀ a payload, R a { a with modbus := (a.modbus.queueRuleRawRequest payload).1 })
    (reboot : ∀ a, R a { a with rebootRequested := true })
    (apart : ∀ a rules, R a { a with rules := rules }) (a : State) :
    R a (processRuleExecution deliver a) := by
  have turn (nowMs : UInt32) (a : State) (slot : Nat) :
      R a (executeSlot deliver nowMs a slot) := by
    simp only [executeSlot]
    split
    · exact kept.refl a
    · split
      · exact apart a _
      · have performed := performAction_respects kept deliver respects scheduler modbus reboot
          (a.rules.schedule.scheduled slot)
          { a with rules := a.rules.note (.takenUp slot) }
        exact kept.trans _ _ _ (kept.trans _ _ _ (apart a _) performed) (apart _ _)
  unfold processRuleExecution executeDueRuleActions
  exact kept.trans _ _ _ (apart a _)
    (foldl_respects R kept.refl kept.trans _ (turn _) _ _)

theorem processRuleReply_respects (apart : ∀ a replies, R a { a with replies := replies })
    (a : State) : R a (processRuleReply deliver a).1 := by
  simp only [processRuleReply]
  split
  · exact kept.refl a
  · split
    · exact kept.refl a
    · split
      · exact apart a _
      · rename_i frame _ _
        have sent := send_respects kept deliver respects
          (fun app => { app with replies := app.replies.noteSent frame })
          (fun b => apart b _) kCompatibilityFPort frame.content a
        split
        · exact kept.trans _ _ _ sent (apart _ _)
        · exact sent

theorem processHistoryQuery_respects (apart : ∀ a query, R a { a with query := query })
    (a : State) : R a (processHistoryQuery deliver a).1 := by
  simp only [processHistoryQuery]
  split
  · exact kept.refl a
  · split
    · exact kept.refl a
    · split
      · exact apart a _
      · have sent := fun payload b => send_respects kept deliver respects
          (fun app => { app with
            query := app.query.noteSent (packetRecords a.query.cursor a.query.records) })
          (fun b => apart b _) kCompatibilityFPort payload b
        split
        · exact kept.trans _ _ _ (kept.trans _ _ _ (apart a _) (sent _ _)) (apart _ _)
        · exact kept.trans _ _ _ (apart a _) (sent _ _)

theorem processHistoryRetransmission_respects
    (apart : ∀ a retransmission stores,
      R a { a with retransmission := retransmission, stores := stores }) (a : State) :
    R a (processHistoryRetransmission deliver a).1 := by
  have marked (b : State) (retransmission : Retransmission) :
      R b { b with retransmission := retransmission } := apart b retransmission b.stores
  simp only [processHistoryRetransmission]
  split
  · exact kept.refl a
  · split
    · exact kept.refl a
    · split
      · split
        · exact apart a _ _
        · exact apart a _ _
      · split
        · exact marked a _
        · have start := marked a (a.retransmission.initializeCursor a.history.ring)
          have sent := send_respects kept deliver respects
            (fun app => { app with
              retransmission := app.retransmission.noteSent (packetRecords
                (a.retransmission.initializeCursor a.history.ring).cursor
                (a.retransmission.initializeCursor a.history.ring).snapshot.toList) })
            (fun b => marked b _) kCompatibilityFPort
            (packetPayload (packetRecords
              (a.retransmission.initializeCursor a.history.ring).cursor
              (a.retransmission.initializeCursor a.history.ring).snapshot.toList))
            { a with retransmission := a.retransmission.initializeCursor a.history.ring }
          have whole := kept.trans _ _ _ start sent
          split
          · exact kept.trans _ _ _ whole (marked _ _)
          · split
            · exact kept.trans _ _ _ whole (apart _ _ _)
            · exact kept.trans _ _ _ whole (marked _ _)

theorem processModbusCompatibilityReport_respects
    (apart : ∀ a scheduler log, R a { a with scheduler := scheduler, sampleLog := log })
    (a : State) : R a (processModbusCompatibilityReport deliver a) := by
  have marked (b : State) (scheduler : ReportScheduler) :
      R b { b with scheduler := scheduler } := apart b scheduler b.sampleLog
  simp only [processModbusCompatibilityReport]
  split
  · exact kept.refl a
  · split
    · exact apart a _ _
    · exact apart a _ _
    · exact apart a _ _
    · exact apart a _ _
    · split
      · exact apart a _ _
      · have sent := fun b payload =>
          send_respects kept deliver respects id kept.refl kCompatibilityFPort payload b
        split
        · exact kept.trans _ _ _ (kept.trans _ _ _ (apart a _ _) (sent _ _)) (marked _ _)
        · exact kept.trans _ _ _ (kept.trans _ _ _ (apart a _ _) (sent _ _)) (marked _ _)

end

/-! The functions that send nothing, by the parts of the state that they change. -/

theorem processHistoryNetworkState_changes (a : State) :
    ∃ stores retransmission,
      processHistoryNetworkState a =
        { a with stores := stores, retransmission := retransmission } := by
  simp only [processHistoryNetworkState]
  split
  · exact ⟨_, _, rfl⟩
  · split
    · split
      · exact ⟨_, _, rfl⟩
      · exact ⟨_, _, rfl⟩
    · exact ⟨_, _, rfl⟩

theorem processPassiveRs485Frame_changes (a : State) :
    ∃ modbus rules frame,
      processPassiveRs485Frame a =
        { a with modbus := modbus, rules := rules, twoWayFrame := frame } := by
  simp only [processPassiveRs485Frame]
  split
  · exact ⟨_, _, _, rfl⟩
  · split
    · exact ⟨_, _, _, rfl⟩
    · split
      · exact ⟨_, _, _, rfl⟩
      · split
        · exact ⟨_, _, _, rfl⟩
        · exact ⟨_, _, _, rfl⟩

theorem captureModbusCompatibilitySample_changes (a : State) :
    ∃ modbus rules log scheduler history,
      captureModbusCompatibilitySample a =
        { a with modbus := modbus, rules := rules, sampleLog := log, scheduler := scheduler,
                 history := history } := by
  simp only [captureModbusCompatibilitySample]
  split
  · exact ⟨_, _, _, _, _, rfl⟩
  · exact ⟨_, _, _, _, _, rfl⟩

theorem processHistoryStorage_changes (a : State) :
    ∃ history stores log,
      processHistoryStorage a =
        { a with history := history, stores := stores, sampleLog := log } := by
  simp only [processHistoryStorage]
  split
  · exact ⟨_, _, _, rfl⟩
  · split
    · exact ⟨_, _, _, rfl⟩
    · split
      · exact ⟨_, _, _, rfl⟩
      · split
        · exact ⟨_, _, _, rfl⟩
        · split
          · exact ⟨_, _, _, rfl⟩
          · exact ⟨_, _, _, rfl⟩

/-- What a call does to the state itself, apart from the downlinks that come with its
uplinks: a call is a sequence of these. -/
inductive Touches : Call → State → State → Prop
  | elapse (us : Nat) (a : State) :
    Touches (.elapse us) a { a with clock := a.clock.advance us }
  | setTime (unixOffset : Int) (a : State) :
    Touches (.setTime unixOffset) a { a with clock := { a.clock with unixOffset := unixOffset } }
  | network (radio : Radio) (a : State) : Touches (.network radio) a { a with radio := radio }
  | receive (input : Bytes) (a : State) :
    Touches (.receive input) a { a with modbus := receive input a.modbus }
  | writePoint (slot registerIndex : UInt8) (scalar : DecodedScalar) (a : State) :
    Touches (.writePoint slot registerIndex scalar) a
      { a with modbus := (a.modbus.writePoint slot registerIndex scalar).1 }
  | connectionState (a : State) :
    Touches .connectionState a (updateCompatibilityConnectionState a)
  | networkState (a : State) : Touches .networkState a (processHistoryNetworkState a)
  | modbusLoop (a : State) : Touches .modbusLoop a (modbusLoop a)
  | passiveFrame (a : State) : Touches .passiveFrame a (processPassiveRs485Frame a)
  | captureSample (a : State) : Touches .captureSample a (captureModbusCompatibilitySample a)
  | historyStorage (a : State) : Touches .historyStorage a (processHistoryStorage a)
  | rawCompletion (a : State) :
    Touches .passThroughResponse a { a with modbus := a.modbus.takeRawCompletion.1 }
  | basicInfo (info : BasicInfoState) (a : State) :
    Touches .basicInfo a { a with basicInfo := info }
  | twoWayFrame (frame : Option Bytes) (a : State) :
    Touches .twoWayUplink a { a with twoWayFrame := frame }
  | replies (replies : RuleReplies) (a : State) :
    Touches .ruleReply a { a with replies := replies }
  | query (query : HistoryQuery) (a : State) : Touches .historyQuery a { a with query := query }
  | retransmission (retransmission : Retransmission) (stores : Stores) (a : State) :
    Touches .historyRetransmission a { a with retransmission := retransmission, stores := stores }
  | report (scheduler : ReportScheduler) (log : List SampleEvent) (a : State) :
    Touches .compatibilityReport a { a with scheduler := scheduler, sampleLog := log }
  | rules (rules : RuleEngine) (a : State) : Touches .ruleExecution a { a with rules := rules }
  | immediateReport (a : State) :
    Touches .ruleExecution a { a with scheduler := a.scheduler.requestImmediateReport }
  | rawRequest (payload : Bytes) (a : State) :
    Touches .ruleExecution a { a with modbus := (a.modbus.queueRuleRawRequest payload).1 }
  | reboot (a : State) : Touches .ruleExecution a { a with rebootRequested := true }

theorem Touches.rules_cases {c : Call} {a b : State} (touches : Touches c a b)
    (other : c ≠ .ruleExecution) :
    b.rules = a.rules ∨ b = processPassiveRs485Frame a ∨
      b = captureModbusCompatibilitySample a := by
  cases touches with
  | rules | immediateReport | rawRequest | reboot => exact absurd rfl other
  | networkState =>
    obtain ⟨_, _, same⟩ := processHistoryNetworkState_changes a
    exact .inl (by rw [same])
  | historyStorage =>
    obtain ⟨_, _, _, same⟩ := processHistoryStorage_changes a
    exact .inl (by rw [same])
  | passiveFrame => exact .inr (.inl rfl)
  | captureSample => exact .inr (.inr rfl)
  | _ => exact .inl rfl

/-- A relation kept by downlinks and by what the call does itself is kept by the call. -/
theorem step_respects {R : State → State → Prop} (kept : KeptByDownlinks R) (c : Call)
    (touched : ∀ a b, Touches c a b → R a b) (depth : Nat) (a : State) :
    R a (step depth a c) := by
  have respects := deliverNested_respects kept depth
  have exchanges := kept.toKeptByExchanges
  cases c with
  | elapse us => exact touched _ _ (.elapse us a)
  | setTime unixOffset => exact touched _ _ (.setTime unixOffset a)
  | network radio => exact touched _ _ (.network radio a)
  | receive input => exact touched _ _ (.receive input a)
  | downlink message => exact respects a message
  | writePoint slot registerIndex scalar =>
    exact touched _ _ (.writePoint slot registerIndex scalar a)
  | connectionState => exact touched _ _ (.connectionState a)
  | networkState => exact touched _ _ (.networkState a)
  | modbusLoop => exact touched _ _ (.modbusLoop a)
  | passiveFrame => exact touched _ _ (.passiveFrame a)
  | captureSample => exact touched _ _ (.captureSample a)
  | historyStorage => exact touched _ _ (.historyStorage a)
  | passThroughResponse =>
    exact processModbusPassThroughResponse_respects exchanges _ respects
      (fun b => touched _ _ (.rawCompletion b)) a
  | basicInfo =>
    exact processCompatibilityBasicInfo_respects exchanges _ respects
      (fun b info => touched _ _ (.basicInfo info b)) a
  | twoWayUplink =>
    exact processTwoWayPassThroughUplink_respects exchanges _ respects
      (fun b frame => touched _ _ (.twoWayFrame frame b)) a
  | ruleExecution =>
    exact processRuleExecution_respects exchanges _ respects
      (fun b => touched _ _ (.immediateReport b))
      (fun b payload => touched _ _ (.rawRequest payload b))
      (fun b => touched _ _ (.reboot b)) (fun b rules => touched _ _ (.rules rules b)) a
  | ruleReply =>
    exact processRuleReply_respects exchanges _ respects
      (fun b replies => touched _ _ (.replies replies b)) a
  | historyQuery =>
    exact processHistoryQuery_respects exchanges _ respects
      (fun b query => touched _ _ (.query query b)) a
  | historyRetransmission =>
    exact processHistoryRetransmission_respects exchanges _ respects
      (fun b retransmission stores => touched _ _ (.retransmission retransmission stores b)) a
  | compatibilityReport =>
    exact processModbusCompatibilityReport_respects exchanges _ respects
      (fun b scheduler log => touched _ _ (.report scheduler log b)) a

theorem step_respects_of_blind {R : State → State → Prop} (kept : KeptByDownlinks R)
    (blind : ∀ a b : State, b.replies = a.replies → b.query = a.query → R a b) (depth : Nat)
    (a : State) (c : Call) (noReply : c ≠ .ruleReply) (noQuery : c ≠ .historyQuery) :
    R a (step depth a c) := by
  refine step_respects kept c (fun a b touches => ?_) depth a
  cases touches with
  | replies => exact absurd rfl noReply
  | query => exact absurd rfl noQuery
  | networkState =>
    obtain ⟨_, _, same⟩ := processHistoryNetworkState_changes a
    exact blind a _ (by rw [same]) (by rw [same])
  | passiveFrame =>
    obtain ⟨_, _, _, same⟩ := processPassiveRs485Frame_changes a
    exact blind a _ (by rw [same]) (by rw [same])
  | captureSample =>
    obtain ⟨_, _, _, _, _, same⟩ := captureModbusCompatibilitySample_changes a
    exact blind a _ (by rw [same]) (by rw [same])
  | historyStorage =>
    obtain ⟨_, _, _, same⟩ := processHistoryStorage_changes a
    exact blind a _ (by rw [same]) (by rw [same])
  | _ => exact blind a _ rfl rfl

end Application
