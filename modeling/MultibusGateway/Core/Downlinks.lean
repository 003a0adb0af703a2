import MultibusGateway.Core.Commands
import MultibusGateway.Core.State

/-! The handling of a downlink. A command works on the parts of the state that it is about;
the two commands that answer at once send an uplink and so work on the whole state. -/

namespace Application
open ByteString Modbus Lorawan Reentrancy

/-! Settings. -/

def applyReportIntervalCommand (settings : ReportIntervalSettings) (clock : Clock)
    (scheduler : ReportScheduler) (history : HistoryLog) (stores : Stores) :
    (ReportScheduler × HistoryLog × Stores) × Bool :=
  if !validReportIntervalSettings settings then ((scheduler, history, stores), false)
  else
    let previous := scheduler.settings
    let (stores, saved) := stores.saveReportSettings settings
    if !saved then ((scheduler, history, stores), false)
    else
      let nowMs := clock.millis
      let (scheduler, applied) := scheduler.applySettings settings nowMs
      if applied then
        let next := nowMs + settings.seconds.toUInt32 * 1000
        let due := clock.uptimeMs + settings.seconds.toNat * 1000
        ((scheduler, { history with nextSnapshotAtMs := next, snapshotDueMs := due }, stores), true)
      else ((scheduler, history, (stores.saveReportSettings previous).1), false)

def applyTimeSettings (updated : Time.Settings) (settings : Time.Settings) (stores : Stores) :
    (Time.Settings × Stores) × Bool :=
  let (stores, saved) := stores.saveTimeSettings updated
  ((if saved then updated else settings, stores), saved)

def applyUtcTimezoneCommand (offsetMinutes : Int16) (settings : Time.Settings) (stores : Stores) :
    (Time.Settings × Stores) × Bool :=
  if !Time.validUtcOffsetMinutes offsetMinutes then ((settings, stores), false)
  else applyTimeSettings { settings with utcOffsetMinutes := offsetMinutes } settings stores

def applyDstSettingsCommand (dst : Time.DstSettings) (settings : Time.Settings)
    (stores : Stores) : (Time.Settings × Stores) × Bool :=
  if !Time.validDstSettings dst then ((settings, stores), false)
  else applyTimeSettings { settings with dst := dst } settings stores

def applyRs485SettingsCommand (settings : Rs485SerialSettings) (nowMs : UInt32)
    (modbus : ModbusComponent) (stores : Stores) : (ModbusComponent × Stores) × Bool :=
  if !esp32SupportsRs485SerialSettings settings then ((modbus, stores), false)
  else
    let previous := modbus.rs485Settings
    let (modbus, applied) := modbus.applyRs485SerialSettings nowMs settings
    if !applied then ((modbus, stores), false)
    else
      let (stores, saved) := stores.saveRs485Settings settings
      if saved then ((modbus, stores), true)
      else (((modbus.applyRs485SerialSettings nowMs previous).1, stores), false)

structure MasterParts where
  modbus : ModbusComponent
  scheduler : ReportScheduler
  history : HistoryLog
  twoWayFrame : Option Bytes
  stores : Stores

def applyModbusMasterSettingsCommand (settings : ModbusMasterSettings) (nowMs : UInt32)
    (parts : MasterParts) : MasterParts × Bool :=
  if !runtimeSupportsModbusMasterSettings settings then (parts, false)
  else
    let previous := parts.modbus.masterSettings
    let (modbus, applied) := parts.modbus.applyModbusMasterSettings nowMs settings
    if !applied then ({ parts with modbus := modbus }, false)
    else
      let (stores, saved) := parts.stores.saveModbusMasterSettings settings
      if !saved then
        ({ parts with
           modbus := (modbus.applyModbusMasterSettings nowMs previous).1
           stores := stores }, false)
      else
        let parts := { parts with modbus := modbus, stores := stores }
        if settings.passThroughMode = .twoWay then
          let slots := (List.range kCompatibilitySlotCount.toNat).map UInt8.ofNat
          ({ parts with
             scheduler := slots.foldl (fun s slot => s.clearSlot slot) parts.scheduler.abortReport
             history :=
               { parts.history with
                 samples := slots.foldl (fun s slot => Function.update s slot.toNat none)
                   parts.history.samples } }, true)
        else ({ parts with twoWayFrame := none }, true)

/-! Modbus channels. -/

def modbusSourceId : String := "modbus"

/-- `compat/` and the number of the slot, counted from one. -/
def pointIdForSlot (slot : UInt8) : String := "compat/" ++ toString (slot.toNat + 1)

def bindCompatibilityChannel (channel : ChannelConfig) (channels : ChannelRegistry) :
    ChannelRegistry × Bool :=
  channels.upsert
    { channelId := channel.slot.toUInt16 + 1
      sourceId := modbusSourceId
      pointId := pointIdForSlot channel.slot
      enabled := true
      writable := writableType channel.dataType
      compatibilityMapped := true
      compatibilitySlot := channel.slot }

/-- What a channel command touches. The samples of the history are read for the ghost only. -/
structure ChannelParts where
  modbus : ModbusComponent
  scheduler : ReportScheduler
  channels : ChannelRegistry
  stores : Stores
  samples : Nat → Option Sample
  sampleLog : List SampleEvent

def sampleHeld (slot : UInt8) (samples : Nat → Option Sample) : Bool :=
  slot < kCompatibilitySlotCount && (samples slot.toNat).isSome

def pollWaiting (slot : UInt8) (modbus : ModbusComponent) : Bool :=
  modbus.completedPoll.any fun completion => completion.channel.slot == slot

def applyModbusChannelCommand (command : ModbusChannelCommand) (parts : ChannelParts) :
    ChannelParts × Bool :=
  let slot := command.channel.slot
  let changed (waiting : Bool) : SampleEvent :=
    .changed slot parts.modbus.pollsCompleted (sampleHeld slot parts.samples) waiting
  match command.operation with
  | .upsert =>
    let (stores, saved) := parts.stores.saveModbusChannel command.channel
    if !saved then ({ parts with stores := stores }, false)
    else
      let unchanged := parts.modbus.channelForSlot slot = some command.channel
      let (modbus, upserted) := parts.modbus.upsertChannel command.channel
      if !upserted then ({ parts with modbus := modbus, stores := stores }, false)
      else
        let (channels, bound) := bindCompatibilityChannel command.channel parts.channels
        ({ parts with
           modbus := modbus
           scheduler := parts.scheduler.clearSlot slot
           channels := channels
           stores := stores
           sampleLog :=
             if unchanged then parts.sampleLog
             else parts.sampleLog ++ [changed (pollWaiting slot parts.modbus)] }, bound)
  | .remove =>
    let (stores, removed) := parts.stores.removeModbusChannel slot
    if !removed then ({ parts with stores := stores }, false)
    else
      ({ parts with
         modbus := (parts.modbus.removeChannel slot).1
         scheduler := parts.scheduler.clearSlot slot
         channels := parts.channels.removeCompatibilitySlot slot
         stores := stores
         sampleLog := parts.sampleLog ++ [changed false] }, true)
  | .setName =>
    match parts.modbus.channelForSlot slot with
    | none => (parts, false)
    | some current =>
      match setChannelName current (Stores.nameBytes command.channel.name) with
      | none => (parts, false)
      | some updated =>
        let (stores, saved) := parts.stores.saveModbusChannel updated
        if !saved then ({ parts with stores := stores }, false)
        else
          let (modbus, upserted) := parts.modbus.upsertChannel updated
          ({ parts with modbus := modbus, stores := stores }, upserted)

/-! History. -/

structure ToggleParts where
  settings : History.Settings
  retransmission : Retransmission
  stores : Stores

def applyHistoryToggle (updated : History.Settings) (enabled : Bool) (parts : ToggleParts) :
    ToggleParts × Bool :=
  let (stores, saved) := parts.stores.saveHistorySettings updated
  if !saved then ({ parts with stores := stores }, false)
  else
    let parts := { parts with settings := updated, stores := stores }
    if !enabled && parts.retransmission.state.pending then
      let (stores, cleared) := stores.saveRetransmission {}
      if !cleared then ({ parts with stores := stores }, false)
      else
        ({ parts with
           stores := stores
           retransmission :=
             { parts.retransmission with
               state := {}
               cursorInitialized := false
               log := parts.retransmission.log ++ [.abandoned] } }, true)
    else (parts, true)

def applyHistoryStorageCommand (enabled : Bool) (parts : ToggleParts) : ToggleParts × Bool :=
  applyHistoryToggle { parts.settings with storageEnabled := enabled } enabled parts

def applyHistoryRetransmissionCommand (enabled : Bool) (parts : ToggleParts) :
    ToggleParts × Bool :=
  applyHistoryToggle { parts.settings with retransmissionEnabled := enabled } enabled parts

def applyHistorySettings (updated : History.Settings) (settings : History.Settings)
    (stores : Stores) : (History.Settings × Stores) × Bool :=
  if !History.validSettings updated then ((settings, stores), false)
  else
    let (stores, saved) := stores.saveHistorySettings updated
    ((if saved then updated else settings, stores), saved)

def applyRetransmissionIntervalCommand (seconds : UInt16) (settings : History.Settings)
    (stores : Stores) : (History.Settings × Stores) × Bool :=
  applyHistorySettings { settings with retransmissionIntervalSeconds := seconds } settings stores

def applyRetrievabilityIntervalCommand (seconds : UInt16) (settings : History.Settings)
    (stores : Stores) : (History.Settings × Stores) × Bool :=
  applyHistorySettings { settings with retrievabilityIntervalSeconds := seconds } settings stores

def closestTimestamp (target : UInt32) (tolerance : Nat) (records : List History.HistoricalRecord) :
    Option UInt32 :=
  let distance (ts : UInt32) : Nat :=
    if ts ≥ target then (ts - target).toNat else (target - ts).toNat
  records.foldl (fun found record =>
    let ts := record.timestamp
    if distance ts > tolerance then found
    else match found with
      | none => some ts
      | some best => if distance ts < distance best then some ts else found) none

def selectRecords (command : HistoryQueryCommand) (reportSeconds : UInt16) (ring : History.Ring) :
    List History.HistoricalRecord :=
  let records := ring.toList
  match command.kind with
  | .timePoint =>
    match closestTimestamp command.startUnix reportSeconds.toNat records with
    | none => []
    | some closest => records.filter fun record => record.timestamp == closest
  | .timeRange => records.filter fun record =>
      record.timestamp ≥ command.startUnix && record.timestamp ≤ command.endUnix
  | .stop => []

def queryReplyType (kind : HistoryQueryKind) : UInt8 :=
  if kind = .timePoint then kHistoryPointType else kHistoryRangeType

def sendHistoryQueryReply (deliver : Deliver State) (note : State → State)
    (queryType status : UInt8) (app : State) : State × Bool :=
  match encodeHistoryQueryReply queryType status 3 with
  | .error _ => (app, false)
  | .ok payload => send deliver note kCompatibilityFPort payload app

namespace HistoryQuery

def deactivate (query : HistoryQuery) : HistoryQuery :=
  { query with active := false, log := query.log ++ [.closed] }

def select (records : List History.HistoricalRecord) (query : HistoryQuery) : HistoryQuery :=
  { query with records := records, cursor := 0, log := query.log ++ [.closed] }

def noteAccepted (query : HistoryQuery) : HistoryQuery :=
  { query with log := query.log ++ [.accepted query.records] }

end HistoryQuery

def applyHistoryQueryCommand (deliver : Deliver State) (command : HistoryQueryCommand)
    (app : State) : State × Bool :=
  if command.kind = .stop then
    ({ app with query := { app.query.select [] with active := false } }, true)
  else
    let replyType := queryReplyType command.kind
    if command.kind = .timeRange && command.startUnix > command.endUnix then
      sendHistoryQueryReply deliver id replyType 0x01 { app with query := app.query.deactivate }
    else
      let records := selectRecords command app.scheduler.settings.seconds app.history.ring
      let app := { app with query := app.query.select records }
      if records.length = 0 then
        sendHistoryQueryReply deliver id replyType 0x02
          { app with query := { app.query with active := false } }
      else
        let (app, sent) := sendHistoryQueryReply deliver
          (fun app => { app with query := app.query.noteAccepted }) replyType 0x00 app
        if !sent then
          ({ app with query := { app.query with active := false, records := [] } }, false)
        else
          let interval := app.history.settings.retrievabilityIntervalSeconds.toUInt32 * 1000
          ({ app with query :=
              { app.query with active := true, nextAtMs := app.clock.millis + interval } }, true)

/-! Rules. -/

namespace RuleEngine

def ruleEnabled (ruleId : UInt8) (engine : RuleEngine) : Bool :=
  ((engine.state.rule ruleId).map Rules.RuleRecord.enabled).getD false

def schedules (releaseOnly : Bool) (plan : Rules.ActionPlan) : Bool :=
  plan.action != .none && !(releaseOnly && plan.action != .uploadAlarm) &&
    plan.action != .unsupported

def scheduleEvents (ruleId : UInt8) (record : Rules.RuleRecord) (releaseOnly : Bool)
    (after : Rules.Schedule) : List ScheduleEvent :=
  ((List.range 3).filter fun actionIndex =>
    schedules releaseOnly (Rules.decodeExecutableAction (Rules.actionFrame record actionIndex))).map
  fun actionIndex =>
    let slot := Rules.scheduleSlot ruleId actionIndex releaseOnly
    .scheduled slot (after.scheduled slot).pending

def scheduleRuleActions (nowMs : UInt32) (ruleId : UInt8) (record : Rules.RuleRecord)
    (alarm : Option Rules.AlarmContext) (releaseOnly : Bool) (engine : RuleEngine) : RuleEngine :=
  let schedule := engine.schedule.scheduleRuleActions nowMs ruleId record alarm releaseOnly
  { engine with
    schedule := schedule
    triggered := engine.triggered ++ [(ruleId, releaseOnly)]
    log := engine.log ++ scheduleEvents ruleId record releaseOnly schedule }

def cancelScheduledRuleActions (ruleId : UInt8) (engine : RuleEngine) : RuleEngine :=
  let cancelled := (List.range Rules.kScheduleSlots).filter fun slot =>
    (engine.schedule.scheduled slot).pending && (engine.schedule.scheduled slot).ruleId == ruleId
  { engine with
    schedule := engine.schedule.cancelScheduledRuleActions ruleId
    log := engine.log ++ cancelled.map fun slot => .cancelled slot (engine.ruleEnabled ruleId) }

def setRule (ruleId : UInt8) (record : Rules.RuleRecord) (engine : RuleEngine) : RuleEngine :=
  { engine with state := engine.state.setRule ruleId record }

def enabledRules (engine : RuleEngine) : List (UInt8 × Rules.RuleRecord) :=
  ((List.range Rules.kRuleCount).map fun index =>
    (UInt8.ofNat (index + 1), engine.state.rules index)).filter fun rule => rule.2.enabled

def triggerMatching (nowMs : UInt32) (matching : Rules.StoredFrame → Bool) (engine : RuleEngine) :
    RuleEngine :=
  (engine.enabledRules.filter fun rule => matching (rule.2.frames .condition)).foldl
    (fun engine rule => engine.scheduleRuleActions nowMs rule.1 rule.2 none false) engine

end RuleEngine

namespace RuleReplies

def clear (replies : RuleReplies) : RuleReplies := { replies with frames := [], cursor := 0 }

def stage (frame : Rules.StoredFrame) (replies : RuleReplies) : RuleReplies :=
  { replies with
    frames := replies.frames ++ [frame]
    log := replies.log ++ [.staged frame] }

def stageRuleEnquiryReply (state : Rules.RuleState) (ruleId : UInt8) (replies : RuleReplies) :
    RuleReplies × Bool :=
  match state.rule ruleId with
  | none => (replies, false)
  | some record =>
    let frames :=
      (Rules.RuleFrameSlot.all.map record.frames).filter Rules.StoredFrame.present
    ({ frames := frames, cursor := 0, log := replies.log ++ [.restaged frames] }, true)

def kRuleFrameSlots : Nat := 4

/-- The command frame on the reply channel, with the status after it. -/
def stageRuleConfigurationAck (command : RuleConfigurationCommand) (status : UInt8)
    (replies : RuleReplies) : RuleReplies × Bool :=
  if command.frame.length < 4 || command.frame.length + 1 > Rules.kMaxRuleFrameLength then
    (replies, false)
  else if replies.frames.length ≥ kRuleFrameSlots then (replies, false)
  else match (default : Rules.StoredFrame).set
      ([0xf8, kRuleConfigurationType] ++ command.frame.drop 2 ++ [status]) with
    | none => (replies, false)
    | some frame => (replies.stage frame, true)

end RuleReplies

structure RuleParts where
  rules : RuleEngine
  replies : RuleReplies
  stores : Stores

def applyRuleConfigurationCommand (command : RuleConfigurationCommand) (parts : RuleParts) :
    RuleParts × Bool :=
  match parts.rules.state.rule command.ruleId with
  | none => (parts, false)
  | some current =>
    match (current.frames command.slot).set command.frame with
    | none => (parts, false)
    | some frame =>
      let updated := { current with enabled := command.enabled }.setFrame command.slot frame
      let (stores, saved) := parts.stores.saveRule command.ruleId updated
      if !saved then ({ parts with stores := stores }, false)
      else
        let rules := parts.rules.setRule command.ruleId updated
        let rules :=
          if updated.enabled then rules else rules.cancelScheduledRuleActions command.ruleId
        let (replies, staged) := parts.replies.stageRuleConfigurationAck command 0x00
        ({ rules := rules, replies := replies, stores := stores }, staged)

def updateRuleStatus (operation : RuleStatusOperation) (record : Rules.RuleRecord) :
    Rules.RuleRecord :=
  match operation with
  | .enable => { record with enabled := true }
  | .disable => { record with enabled := false }
  | .delete => {}

def rollbackRules (originals : List (UInt8 × Rules.RuleRecord)) (rules : RuleEngine)
    (stores : Stores) : RuleEngine × Stores :=
  originals.foldl (fun (rules, stores) (ruleId, original) =>
    (rules.setRule ruleId original, (stores.saveRule ruleId original).1)) (rules, stores)

def applyRuleStatuses (operation : RuleStatusOperation) :
    List UInt8 → List (UInt8 × Rules.RuleRecord) → RuleEngine → Stores →
      (RuleEngine × Stores) × Bool
  | [], _, rules, stores => ((rules, stores), true)
  | ruleId :: rest, originals, rules, stores =>
    match rules.state.rule ruleId with
    | none => ((rules, stores), false)
    | some current =>
      let updated := updateRuleStatus operation current
      let (stores, saved) := stores.saveRule ruleId updated
      if !saved then (rollbackRules originals rules stores, false)
      else
        let rules := rules.setRule ruleId updated
        let rules := if updated.enabled then rules else rules.cancelScheduledRuleActions ruleId
        applyRuleStatuses operation rest (originals ++ [(ruleId, current)]) rules stores

def maskedRules (mask : UInt16) : List UInt8 :=
  ((List.range Rules.kRuleCount).filter fun bit => mask &&& (1 <<< UInt16.ofNat bit) != 0).map
    fun bit => UInt8.ofNat (bit + 1)

def applyRuleStatusCommand (command : RuleStatusCommand) (rules : RuleEngine) (stores : Stores) :
    (RuleEngine × Stores) × Bool :=
  applyRuleStatuses command.operation (maskedRules command.ruleMask) [] rules stores

/-! Dispatch. -/

def replyToRs485SettingsEnquiry (deliver : Deliver State) (kind : Rs485SettingsEnquiryKind)
    (app : State) : State × Bool :=
  match encodeRs485SettingsEnquiryReply kind app.modbus.rs485Settings
      app.modbus.masterSettings 16 with
  | .error _ => (app, false)
  | .ok payload => send deliver id kCompatibilityFPort payload app

def masterParts (app : State) : MasterParts :=
  { modbus := app.modbus, scheduler := app.scheduler, history := app.history,
    twoWayFrame := app.twoWayFrame, stores := app.stores }

def channelParts (app : State) : ChannelParts :=
  { modbus := app.modbus, scheduler := app.scheduler, channels := app.channels,
    stores := app.stores, samples := app.history.samples, sampleLog := app.sampleLog }

def toggleParts (app : State) : ToggleParts :=
  { settings := app.history.settings, retransmission := app.retransmission, stores := app.stores }

def withToggleParts (app : State) (parts : ToggleParts) : State :=
  { app with
    history := { app.history with settings := parts.settings }
    retransmission := parts.retransmission
    stores := parts.stores }

def withHistorySettings (app : State) (parts : History.Settings × Stores) : State :=
  { app with history := { app.history with settings := parts.1 }, stores := parts.2 }

def ruleParts (app : State) : RuleParts :=
  { rules := app.rules, replies := app.replies, stores := app.stores }

def applyCommand (deliver : Deliver State) (app : State) : ParsedCommand → State × Bool
  | .basicControl .rejoin =>
    let (radio, requested) := app.radio.requestRejoin
    ({ app with radio := radio }, requested)
  | .basicControl .reboot => ({ app with rebootRequested := true }, true)
  | .periodicReportEnquiry =>
    ({ app with scheduler := app.scheduler.requestImmediateReport }, true)
  | .utcTimezone offsetMinutes =>
    let (parts, applied) := applyUtcTimezoneCommand offsetMinutes app.timeSettings app.stores
    ({ app with timeSettings := parts.1, stores := parts.2 }, applied)
  | .lnsTimeSync =>
    let (radio, requested) := app.radio.requestNetworkTimeSync
    ({ app with radio := radio }, requested)
  | .dstSettings settings =>
    let (parts, applied) := applyDstSettingsCommand settings app.timeSettings app.stores
    ({ app with timeSettings := parts.1, stores := parts.2 }, applied)
  | .dataStorage enabled =>
    let (parts, applied) := applyHistoryStorageCommand enabled (toggleParts app)
    (withToggleParts app parts, applied)
  | .dataRetransmission enabled =>
    let (parts, applied) := applyHistoryRetransmissionCommand enabled (toggleParts app)
    (withToggleParts app parts, applied)
  | .retransmissionInterval seconds =>
    let (parts, applied) :=
      applyRetransmissionIntervalCommand seconds app.history.settings app.stores
    (withHistorySettings app parts, applied)
  | .retrievabilityInterval seconds =>
    let (parts, applied) :=
      applyRetrievabilityIntervalCommand seconds app.history.settings app.stores
    (withHistorySettings app parts, applied)
  | .historyQuery command => applyHistoryQueryCommand deliver command app
  | .ruleStatus command =>
    let (parts, applied) := applyRuleStatusCommand command app.rules app.stores
    ({ app with rules := parts.1, stores := parts.2 }, applied)
  | .ruleEnquiry ruleId =>
    let (replies, staged) := app.replies.stageRuleEnquiryReply app.rules.state ruleId
    ({ app with replies := replies }, staged)
  | .ruleConfiguration command =>
    let (parts, applied) := applyRuleConfigurationCommand command (ruleParts app)
    ({ app with rules := parts.rules, replies := parts.replies, stores := parts.stores }, applied)
  | .reportInterval settings =>
    let (parts, applied) :=
      applyReportIntervalCommand settings app.clock app.scheduler app.history app.stores
    ({ app with scheduler := parts.1, history := parts.2.1, stores := parts.2.2 }, applied)
  | .modbusChannel command =>
    let (parts, applied) := applyModbusChannelCommand command (channelParts app)
    ({ app with
       modbus := parts.modbus
       scheduler := parts.scheduler
       channels := parts.channels
       stores := parts.stores
       sampleLog := parts.sampleLog }, applied)
  | .rs485Settings settings =>
    let (parts, applied) :=
      applyRs485SettingsCommand settings app.clock.millis app.modbus app.stores
    ({ app with modbus := parts.1, stores := parts.2 }, applied)
  | .modbusMasterSettings settings =>
    let (parts, applied) :=
      applyModbusMasterSettingsCommand settings app.clock.millis (masterParts app)
    ({ app with
       modbus := parts.modbus
       scheduler := parts.scheduler
       history := parts.history
       twoWayFrame := parts.twoWayFrame
       stores := parts.stores }, applied)
  | .rs485SettingsEnquiry kind => replyToRs485SettingsEnquiry deliver kind app

/-- The commands in order, ended by the first one that fails. -/
def applyCommands (deliver : Deliver State) : List ParsedCommand → State → State × Bool
  | [], app => (app, true)
  | command :: rest, app =>
    match applyCommand deliver app command with
    | (app, true) => applyCommands deliver rest app
    | (app, false) => (app, false)

/-- Nothing is applied unless all of the payload parses. -/
def applyParsed (deliver : Deliver State) (app : State) : ParseResult → State × Bool
  | .parsed commands => applyCommands deliver commands app
  | .failed => (app, false)
  | .unfinished => (app, false)

/-- Whether some enabled rule waits for this server message. -/
def matchesServerRule (engine : RuleEngine) (payload : Bytes) : Bool :=
  Rules.validServerMessage payload && engine.enabledRules.any fun rule =>
    Rules.matchesServerMessageCondition (rule.2.frames .condition) payload

def handlePassThroughDownlink (downlink : Downlink) (app : State) : State × Bool :=
  let settings := app.modbus.masterSettings
  if app.config.modbus = .master && settings.passThroughMode ≠ .disabled &&
      downlink.fport == settings.passThroughPort then
    let (modbus, queued) := app.modbus.queueRawRequest downlink.payload
    ({ app with modbus := modbus }, queued)
  else (app, false)

def handleLoRaDownlink (deliver : Deliver State) (app : State) (downlink : Downlink) :
    State × Bool :=
  let payload := downlink.payload
  if payload.length = 0 then (app, false)
  else if downlink.fport != kCompatibilityFPort then handlePassThroughDownlink downlink app
  else if matchesServerRule app.rules payload then
    ({ app with rules := app.rules.triggerMatching app.clock.millis fun frame =>
        Rules.matchesServerMessageCondition frame payload }, true)
  else applyParsed deliver app (parseCommands payload)

/-- The handler with downlinks nested up to a depth. -/
def deliverNested : Nat → Deliver State := nested handleLoRaDownlink

end Application
