import MultibusGateway.Library.WrapClock
import MultibusGateway.Lorawan.Uplink

/-! The scheduler of the periodic report. A report starts from a snapshot of the latest
samples and is sent in packets of whole channels; a packet stays pending, unchanged, until
it is marked as sent. -/

namespace Lorawan
open ByteString Modbus

def kCompatibilityReportPayloadLimit : Nat := 51

def kCompatibilityReportRetryMs : UInt32 := 5000

inductive ReportBuildStatus where
  | notDue | packetReady | emptyReport | encodeError | bufferTooSmall
  deriving DecidableEq, Inhabited

/-- The latest poll of a slot. `poll` is a ghost: the number of that poll. -/
structure Sample where
  channel : ChannelConfig := {}
  success : Bool := false
  values : List DecodedScalar := []
  poll : Nat := 0
  deriving DecidableEq

/-- The state of the scheduler; a slot without a sample is `none`, and so is the pending
packet when there is none. -/
structure ReportScheduler where
  settings : ReportIntervalSettings := {}
  samples : Nat → Option Sample := fun _ => none
  reportSamples : Nat → Option Sample := fun _ => none
  nextReportAtMs : UInt32 := 0
  retryAtMs : UInt32 := 0
  cursor : Nat := 0
  pendingNextCursor : Nat := 0
  reportInProgress : Bool := false
  pendingPayload : Option Bytes := none
  immediateReportRequested : Bool := false

namespace ReportScheduler

def intervalMs (s : ReportScheduler) : UInt32 := s.settings.seconds.toUInt32 * 1000

def begin (settings : ReportIntervalSettings) (nowMs : UInt32) (s : ReportScheduler) :
    ReportScheduler :=
  let settings := if validReportIntervalSettings settings then settings else {}
  { s with
    settings := settings
    nextReportAtMs := nowMs + settings.seconds.toUInt32 * 1000
    reportInProgress := false
    pendingPayload := none
    cursor := 0
    retryAtMs := 0
    immediateReportRequested := false }

def applySettings (settings : ReportIntervalSettings) (nowMs : UInt32) (s : ReportScheduler) :
    ReportScheduler × Bool :=
  if !validReportIntervalSettings settings then (s, false)
  else
    ({ s with
       settings := settings
       nextReportAtMs := nowMs + settings.seconds.toUInt32 * 1000 }, true)

def requestImmediateReport (s : ReportScheduler) : ReportScheduler :=
  { s with immediateReportRequested := true }

def recordPoll (channel : ChannelConfig) (success : Bool) (values : List DecodedScalar)
    (poll : Nat) (s : ReportScheduler) : ReportScheduler :=
  if !validChannelConfig channel || channel.slot ≥ kCompatibilitySlotCount then s
  else
    let sample : Sample := ⟨channel, success, if success then values else [], poll⟩
    { s with samples := Function.update s.samples channel.slot.toNat (some sample) }

def clearSlot (slot : UInt8) (s : ReportScheduler) : ReportScheduler :=
  if slot ≥ kCompatibilitySlotCount then s
  else
    { s with
      samples := Function.update s.samples slot.toNat none
      reportSamples := Function.update s.reportSamples slot.toNat none }

def abortReport (s : ReportScheduler) : ReportScheduler :=
  { s with pendingPayload := none, reportInProgress := false, cursor := 0 }

def encodeSample (sample : Sample) : Encoded :=
  if sample.success then encodePollSuccess sample.channel sample.values 24
  else encodePollFailure sample.channel 24

structure Packet where
  payload : Bytes := []
  slots : List Nat := []
  scan : Nat

def fillPacket (reportSamples : Nat → Option Sample) :
    Nat → Packet → Except ReportBuildStatus Packet
  | 0, packet => .ok packet
  | remaining + 1, packet =>
    match reportSamples packet.scan with
    | none => fillPacket reportSamples remaining { packet with scan := packet.scan + 1 }
    | some sample =>
      match encodeSample sample with
      | .error _ => .error .encodeError
      | .ok encoded =>
        if encoded.length = 0 then .error .encodeError
        else if packet.payload.length + encoded.length > kCompatibilityReportPayloadLimit then
          if packet.payload.length = 0 then .error .bufferTooSmall else .ok packet
        else fillPacket reportSamples remaining
          { payload := packet.payload ++ encoded
            slots := packet.slots ++ [packet.scan]
            scan := packet.scan + 1 }

/-- The result of a call, with the packet when one is ready and the slots of a new one. -/
structure Prepared where
  scheduler : ReportScheduler
  status : ReportBuildStatus
  payload : Bytes := []
  slots : List Nat := []

def preparePacket (nowMs : UInt32) (capacity : Nat) (s : ReportScheduler) : Prepared :=
  if capacity < kCompatibilityReportPayloadLimit then ⟨s, .bufferTooSmall, [], []⟩
  else match s.pendingPayload with
    | some payload =>
      if !WrapClock.reached nowMs s.retryAtMs then ⟨s, .notDue, [], []⟩
      else ⟨s, .packetReady, payload, []⟩
    | none =>
      let periodicDue := WrapClock.reached nowMs s.nextReportAtMs
      if !s.reportInProgress && !s.immediateReportRequested && !periodicDue then
        ⟨s, .notDue, [], []⟩
      else
        let s :=
          if s.reportInProgress then s
          else
            { s with
              reportSamples := s.samples
              reportInProgress := true
              cursor := 0
              immediateReportRequested := false
              nextReportAtMs := if periodicDue then nowMs + s.intervalMs else s.nextReportAtMs }
        match fillPacket s.reportSamples (kCompatibilitySlotCount.toNat - s.cursor)
            { scan := s.cursor } with
        | .error status => ⟨s, status, [], []⟩
        | .ok packet =>
          if packet.payload.length = 0 then
            ⟨{ s with reportInProgress := false, cursor := 0 }, .emptyReport, [], []⟩
          else
            ⟨{ s with
               pendingPayload := some packet.payload
               pendingNextCursor := packet.scan
               retryAtMs := nowMs }, .packetReady, packet.payload, packet.slots⟩

def markPacketSent (nowMs : UInt32) (s : ReportScheduler) : ReportScheduler :=
  match s.pendingPayload with
  | none => s
  | some _ =>
    let finished := s.pendingNextCursor ≥ kCompatibilitySlotCount.toNat
    { s with
      cursor := if finished then 0 else s.pendingNextCursor
      pendingPayload := none
      retryAtMs := nowMs
      reportInProgress := s.reportInProgress && !finished }

def markPacketFailed (nowMs : UInt32) (s : ReportScheduler) : ReportScheduler :=
  match s.pendingPayload with
  | none => s
  | some _ => { s with retryAtMs := nowMs + kCompatibilityReportRetryMs }

end ReportScheduler

end Lorawan
