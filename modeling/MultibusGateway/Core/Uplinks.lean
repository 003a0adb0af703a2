import MultibusGateway.Core.Downlinks

/-! The steps of the application loop: the evaluation of the rules, the storing of the
history, and the uplinks, each of which may have downlinks handled while it is sent. -/

namespace Application
open ByteString Modbus Lorawan Reentrancy

/-! Rules. -/

namespace RuleEngine

def setRuntime (ruleId : UInt8) (runtime : Rules.ChannelConditionRuntime) (engine : RuleEngine) :
    RuleEngine :=
  { engine with
    channelRuntime := Function.update engine.channelRuntime (ruleId.toNat - 1) runtime }

def evaluateChannelRule (nowMs : UInt32) (channel : ChannelConfig) (value : DecodedScalar)
    (engine : RuleEngine) (rule : UInt8 × Rules.RuleRecord) : RuleEngine :=
  let (ruleId, record) := rule
  match Rules.decodeChannelCondition (record.frames .condition) with
  | none => engine
  | some plan =>
    if plan.channelId != channel.slot + 1 then engine
    else
      let runtime := engine.channelRuntime (ruleId.toNat - 1)
      let evaluation := Rules.evaluateChannelCondition plan value nowMs runtime
      let changing := plan.mode = .changeRecent || plan.mode = .changeInterval
      let changeValue :=
        match runtime.havePrevious, Rules.scalarToDouble value with
        | true, some current => (current.sub runtime.previousValue).abs
        | _, _ => ⟨0⟩
      let engine := engine.setRuntime ruleId evaluation.runtime
      let engine :=
        if evaluation.fired then
          engine.scheduleRuleActions nowMs ruleId record
            (some ⟨channel, value, if changing then .change else .threshold, changeValue⟩) false
        else engine
      if runtime.firedForActive && !evaluation.runtime.active && !changing then
        engine.scheduleRuleActions nowMs ruleId record
          (some ⟨channel, value, .thresholdRelease, ⟨0⟩⟩) true
      else engine

/-- Only a successful poll is evaluated, on its first value. -/
def evaluateChannelRules (nowMs : UInt32) (completion : PollCompletion) (engine : RuleEngine) :
    RuleEngine :=
  match completion.success, completion.values with
  | true, value :: _ =>
    engine.enabledRules.foldl (evaluateChannelRule nowMs completion.channel value) engine
  | _, _ => engine

def evaluateTimeRule (nowMs minuteKey : UInt32) (now : Time.LocalDateTime) (engine : RuleEngine)
    (rule : UInt8 × Rules.RuleRecord) : RuleEngine :=
  let (ruleId, record) := rule
  if !Rules.matchesTimeCondition (record.frames .condition) now then engine
  else if engine.lastMinuteKey (ruleId.toNat - 1) == minuteKey then engine
  else
    { engine with
      lastMinuteKey := Function.update engine.lastMinuteKey (ruleId.toNat - 1) minuteKey
    }.scheduleRuleActions nowMs ruleId record none false

def evaluateBoot (nowMs : UInt32) (engine : RuleEngine) : RuleEngine :=
  if engine.bootEvaluationPending then
    { engine with bootEvaluationPending := false }.triggerMatching nowMs
      Rules.isDeviceRestartCondition
  else engine

def evaluateTimeRules (nowMs : UInt32) (unixNow : Int) (settings : Time.Settings)
    (engine : RuleEngine) : RuleEngine :=
  if unixNow > 0 then
    let now := Time.localDateTime (UInt32.ofNat unixNow.toNat) settings
    engine.enabledRules.foldl (evaluateTimeRule nowMs (Rules.localMinuteKey now) now) engine
  else engine

def note (event : ScheduleEvent) (engine : RuleEngine) : RuleEngine :=
  { engine with log := engine.log ++ [event] }

def clearSlot (slot : Nat) (event : ScheduleEvent) (engine : RuleEngine) : RuleEngine :=
  { engine with schedule := engine.schedule.set slot {} }.note event

end RuleEngine

def performAction (deliver : Deliver State) (entry : Rules.ScheduledRuleAction) (app : State) :
    State :=
  match entry.action with
  | .serverMessage => (send deliver id kCompatibilityFPort entry.payload app).1
  | .uploadData => { app with scheduler := app.scheduler.requestImmediateReport }
  | .rawRs485 => { app with modbus := (app.modbus.queueRuleRawRequest entry.payload).1 }
  | .uploadAlarm =>
    if !entry.alarmContextValid then app
    else match encodeAlarm entry.alarmChannel 0 entry.alarmValue entry.alarmKind
        entry.alarmChangeValue 32 with
      | .error _ => app
      | .ok payload => (send deliver id kCompatibilityFPort payload app).1
  | .reboot => { app with rebootRequested := true }
  | .none | .unsupported => app

def executeSlot (deliver : Deliver State) (nowMs : UInt32) (app : State) (slot : Nat) : State :=
  let entry := app.rules.schedule.scheduled slot
  if !entry.pending || !WrapClock.reached nowMs entry.dueAtMs then app
  else
    let enabled := app.rules.ruleEnabled entry.ruleId
    if !enabled then { app with rules := app.rules.clearSlot slot (.cancelled slot enabled) }
    else
      let app := performAction deliver entry { app with rules := app.rules.note (.takenUp slot) }
      { app with rules := app.rules.clearSlot slot (.completed slot) }

def executeDueRuleActions (deliver : Deliver State) (app : State) : State :=
  (List.range Rules.kScheduleSlots).foldl (executeSlot deliver app.clock.millis) app

def processRuleExecution (deliver : Deliver State) (app : State) : State :=
  let nowMs := app.clock.millis
  let rules := app.rules.evaluateBoot nowMs
  let rules := rules.evaluateTimeRules nowMs app.clock.unixNow app.timeSettings
  executeDueRuleActions deliver { app with rules := rules }

/-! Rule replies. -/

namespace RuleReplies

/-- After the frame at the cursor; the queue is cleared behind its last frame. -/
def advance (replies : RuleReplies) : RuleReplies :=
  let replies := { replies with cursor := replies.cursor + 1 }
  if replies.cursor ≥ replies.frames.length then replies.clear else replies

def noteSent (frame : Rules.StoredFrame) (replies : RuleReplies) : RuleReplies :=
  { replies with log := replies.log ++ [.sent frame] }

end RuleReplies

def processRuleReply (deliver : Deliver State) (app : State) : State × Bool :=
  if !app.radio.connected then (app, false)
  else match app.replies.frames[app.replies.cursor]? with
    | none => (app, false)
    | some frame =>
      if !frame.present then ({ app with replies := app.replies.advance }, true)
      else
        let (app, sent) := send deliver
          (fun app => { app with replies := app.replies.noteSent frame })
          kCompatibilityFPort frame.content app
        if sent then ({ app with replies := app.replies.advance }, true) else (app, true)

/-! History. -/

def packetRecords (cursor : Nat) (records : List History.HistoricalRecord) :
    List History.HistoricalRecord :=
  (records.drop cursor).take (kCompatibilityReportPayloadLimit / 25)

def packetPayload (records : List History.HistoricalRecord) : Bytes :=
  records.flatMap History.HistoricalRecord.bytes

namespace HistoryQuery

def waitUntil (atMs : UInt32) (query : HistoryQuery) : HistoryQuery :=
  { query with nextAtMs := atMs }

def noteSent (records : List History.HistoricalRecord) (query : HistoryQuery) : HistoryQuery :=
  { query with log := query.log ++ [.sent records] }

/-- After the records of a packet; behind the last record the query is over. -/
def advance (count : Nat) (query : HistoryQuery) : HistoryQuery :=
  let query := { query with cursor := query.cursor + count }
  if query.cursor ≥ query.records.length then
    { query with
      records := []
      cursor := 0
      active := false
      log := query.log ++ [.finished] }
  else query

end HistoryQuery

def processHistoryQuery (deliver : Deliver State) (app : State) : State × Bool :=
  if !app.query.active || !app.radio.connected then (app, false)
  else
    let nowMs := app.clock.millis
    if !WrapClock.reached nowMs app.query.nextAtMs then (app, false)
    else
      let records := packetRecords app.query.cursor app.query.records
      if records.length = 0 then
        let query := { app.query with active := false, log := app.query.log ++ [.finished] }
        ({ app with query := query }, false)
      else
        let interval := app.history.settings.retrievabilityIntervalSeconds.toUInt32 * 1000
        let app := { app with query := app.query.waitUntil (nowMs + interval) }
        let (app, sent) := send deliver
          (fun app => { app with query := app.query.noteSent records })
          kCompatibilityFPort (packetPayload records) app
        if sent then ({ app with query := app.query.advance records.length }, true)
        else (app, true)

def snapshotRecords (unixNow : Int) (samples : Nat → Option Sample) :
    List (UInt8 × Nat × History.HistoricalRecord) :=
  (List.range kCompatibilitySlotCount.toNat).filterMap fun slot =>
    match samples slot with
    | none => none
    | some sample =>
      match History.encodeModbusRecord (UInt32.ofNat unixNow.toNat) sample.channel sample.success
          sample.values with
      | .error _ => none
      | .ok record => some (UInt8.ofNat slot, sample.poll, record)

def processHistoryStorage (app : State) : State :=
  if !app.history.settings.storageEnabled then app
  else
    let nowMs := app.clock.millis
    if !WrapClock.reached nowMs app.history.nextSnapshotAtMs then app
    else
      let next := nowMs + app.scheduler.settings.seconds.toUInt32 * 1000
      let due := app.clock.uptimeMs + app.scheduler.settings.seconds.toNat * 1000
      let history := { app.history with nextSnapshotAtMs := next, snapshotDueMs := due }
      let app := { app with history := history }
      if app.clock.unixNow ≤ 0 then app
      else
        let records := snapshotRecords app.clock.unixNow app.history.samples
        if records.length = 0 then app
        else
          let updated := records.foldl (fun ring record => ring.push record.2.2) app.history.ring
          let (stores, saved) := app.stores.saveRing updated
          let app := { app with stores := stores }
          if !saved then app
          else
            { app with
              history := { app.history with ring := updated }
              sampleLog := app.sampleLog ++
                records.map fun record => .stored record.1 record.2.1 }

namespace Retransmission

def initializeCursor (ring : History.Ring) (retransmission : Retransmission) : Retransmission :=
  if retransmission.cursorInitialized then retransmission
  else
    { retransmission with
      snapshot := ring
      cursor := ring.toList.findIdx fun record =>
        record.timestamp ≥ retransmission.state.lostAtUnix
      cursorInitialized := true
      log := retransmission.log ++ [.snapshot ring.toList] }

def finished (retransmission : Retransmission) : Bool :=
  retransmission.cursor ≥ retransmission.snapshot.size

def cleared (retransmission : Retransmission) : Retransmission :=
  { retransmission with
    state := {}
    cursorInitialized := false
    log := retransmission.log ++ [.cleared] }

def mark (lostAtUnix : UInt32) (ring : History.Ring) (retransmission : Retransmission) :
    Retransmission :=
  { retransmission with
    state := { pending := true, lostAtUnix := lostAtUnix }
    cursorInitialized := false
    log := retransmission.log ++ [.marked lostAtUnix ring.toList] }

def noteSent (records : List History.HistoricalRecord) (retransmission : Retransmission) :
    Retransmission :=
  { retransmission with log := retransmission.log ++ [.sent records] }

def restart (nowMs : UInt32) (retransmission : Retransmission) : Retransmission :=
  { retransmission with
    cursorInitialized := false
    nextAtMs := nowMs
    log := retransmission.log ++ [.restarted] }

end Retransmission

def processHistoryNetworkState (app : State) : State :=
  let connected := app.radio.connected
  let nowMs := app.clock.millis
  let r := app.retransmission
  if !r.networkStateInitialized then
    let r := { r with networkStateInitialized := true, wasConnected := connected }
    { app with retransmission := if connected && r.state.pending then r.restart nowMs else r }
  else if r.wasConnected && !connected && app.history.settings.storageEnabled &&
      app.history.settings.retransmissionEnabled then
    let unixNow := app.clock.unixNow
    if unixNow > 0 then
      let lostAtUnix := UInt32.ofNat unixNow.toNat
      let (stores, saved) :=
        app.stores.saveRetransmission { pending := true, lostAtUnix := lostAtUnix }
      let r := if saved then r.mark lostAtUnix app.history.ring else r
      { app with stores := stores, retransmission := { r with wasConnected := connected } }
    else { app with retransmission := { r with wasConnected := connected } }
  else
    let r := if !r.wasConnected && connected && r.state.pending then r.restart nowMs else r
    { app with retransmission := { r with wasConnected := connected } }

def processHistoryRetransmission (deliver : Deliver State) (app : State) : State × Bool :=
  if !app.history.settings.storageEnabled || !app.history.settings.retransmissionEnabled ||
      !app.retransmission.state.pending || !app.radio.connected then (app, false)
  else
    let nowMs := app.clock.millis
    if !WrapClock.reached nowMs app.retransmission.nextAtMs then (app, false)
    else
      let app :=
        { app with retransmission := app.retransmission.initializeCursor app.history.ring }
      let interval (app : State) : UInt32 :=
        app.history.settings.retransmissionIntervalSeconds.toUInt32 * 1000
      let wait (app : State) : State :=
        { app with retransmission :=
            { app.retransmission with nextAtMs := nowMs + interval app } }
      if app.retransmission.finished then
        let (stores, saved) := app.stores.saveRetransmission {}
        let app := { app with stores := stores }
        if !saved then (wait app, true)
        else
          ({ app with retransmission := app.retransmission.cleared }, false)
      else
        let records :=
          packetRecords app.retransmission.cursor app.retransmission.snapshot.toList
        if records.length = 0 then (wait app, true)
        else
          let (app, sent) := send deliver
            (fun app => { app with retransmission := app.retransmission.noteSent records })
            kCompatibilityFPort (packetPayload records) app
          if !sent then (wait app, true)
          else
            let app := wait { app with retransmission :=
              { app.retransmission with
                cursor := app.retransmission.cursor + records.length } }
            if app.retransmission.finished then
              let (stores, saved) := app.stores.saveRetransmission {}
              ({ app with
                 stores := stores
                 retransmission :=
                   if saved then app.retransmission.cleared
                   else app.retransmission }, true)
            else (app, true)

/-! Connection and basic information. -/

namespace BasicInfoState

def update (connected : Bool) (s : BasicInfoState) : BasicInfoState :=
  if !s.connectionInitialized then
    { s with
      connectionInitialized := true
      wasConnected := connected
      pending := s.pending || connected }
  else if s.wasConnected == connected then s
  else { s with wasConnected := connected, pending := s.pending || connected }

end BasicInfoState

def updateCompatibilityConnectionState (app : State) : State :=
  { app with basicInfo := app.basicInfo.update app.radio.connected }

def basicInfo (config : DeviceConfig) : BasicInfo :=
  let mac := config.hardwareMac48
  { serialNumber := #v[0x02, mac[0], mac[1], mac[2], mac[3], mac[4], mac[5], 0x01]
    deviceType := if config.classC then 0x02 else 0x00 }

def processCompatibilityBasicInfo (deliver : Deliver State) (app : State) : State × Bool :=
  if !app.basicInfo.pending || !app.radio.connected then (app, false)
  else match encodeBasicInfo (basicInfo app.config) app.basicInfo.resetEventPending 34 with
    | .error _ => (app, true)
    | .ok payload =>
      let (app, sent) := send deliver id kCompatibilityFPort payload app
      if sent then
        ({ app with basicInfo :=
            { app.basicInfo with pending := false, resetEventPending := false } }, true)
      else (app, true)

/-! The RS485 bus. -/

def processPassiveRs485Frame (app : State) : State :=
  match app.modbus.takePassiveFrame with
  | (_, none) => app
  | (modbus, some frame) =>
    let app := { app with modbus := modbus }
    if frame.payload.length = 0 then app
    else
      let app :=
        { app with rules := app.rules.triggerMatching app.clock.millis fun stored =>
            Rules.matchesRs485CommandCondition stored frame.payload }
      if app.modbus.masterSettings.passThroughMode ≠ .twoWay then app
      else match app.twoWayFrame with
        | some _ => app
        | none => { app with twoWayFrame := some frame.payload }

def processTwoWayPassThroughUplink (deliver : Deliver State) (app : State) : State × Bool :=
  match app.twoWayFrame with
  | none => (app, false)
  | some frame =>
    if !app.radio.connected then (app, true)
    else
      let settings := app.modbus.masterSettings
      if settings.passThroughMode ≠ .twoWay then ({ app with twoWayFrame := none }, false)
      else
        let (app, sent) := send deliver id settings.passThroughPort frame app
        if sent then ({ app with twoWayFrame := none }, true) else (app, true)

def processModbusPassThroughResponse (deliver : Deliver State) (app : State) : State × Bool :=
  match app.modbus.takeRawCompletion with
  | (_, none) => (app, false)
  | (modbus, some completion) =>
    let app := { app with modbus := modbus }
    if completion.origin = .rule || !completion.success || completion.payload.length = 0 then
      (app, true)
    else
      ((send deliver id app.modbus.masterSettings.passThroughPort completion.payload app).1, true)

def modbusLoop (app : State) : State :=
  { app with modbus := app.modbus.loop app.clock.millis app.clock.micros }

/-! Samples. -/

def noteEvaluated (completion : PollCompletion) (log : List SampleEvent) : List SampleEvent :=
  if completion.success && completion.values.length != 0 then
    log ++ [.evaluated completion.channel.slot completion.poll]
  else log

def captureModbusCompatibilitySample (app : State) : State :=
  match app.modbus.takeCompletedPoll with
  | (_, none) => app
  | (modbus, some completion) =>
    let channel := completion.channel
    let values := if completion.success then completion.values else []
    let sample : Sample := ⟨channel, completion.success, values, completion.poll⟩
    { app with
      modbus := modbus
      rules := app.rules.evaluateChannelRules app.clock.millis completion
      sampleLog := noteEvaluated completion (app.sampleLog ++ [.captured channel.slot])
      scheduler :=
        app.scheduler.recordPoll channel completion.success completion.values completion.poll
      history :=
        if channel.slot < kCompatibilitySlotCount then
          { app.history with
            samples := Function.update app.history.samples channel.slot.toNat (some sample) }
        else app.history }

def noteReported (scheduler : ReportScheduler) (slots : List Nat) (log : List SampleEvent) :
    List SampleEvent :=
  log ++ slots.filterMap fun slot =>
    (scheduler.reportSamples slot).map fun sample => .reported (UInt8.ofNat slot) sample.poll

def processModbusCompatibilityReport (deliver : Deliver State) (app : State) : State :=
  if app.config.lora ≠ .lorawan || !app.radio.active then app
  else
    let nowMs := app.clock.millis
    let prepared := app.scheduler.preparePacket nowMs kCompatibilityReportPayloadLimit
    let app :=
      { app with
        scheduler := prepared.scheduler
        sampleLog := noteReported prepared.scheduler prepared.slots app.sampleLog }
    match prepared.status with
    | .notDue | .emptyReport => app
    | .encodeError | .bufferTooSmall => { app with scheduler := app.scheduler.abortReport }
    | .packetReady =>
      if prepared.payload.length = 0 then { app with scheduler := app.scheduler.abortReport }
      else
        let (app, sent) := send deliver id kCompatibilityFPort prepared.payload app
        if sent then { app with scheduler := app.scheduler.markPacketSent nowMs }
        else { app with scheduler := app.scheduler.markPacketFailed nowMs }

end Application
