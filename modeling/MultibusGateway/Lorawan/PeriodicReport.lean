import MultibusGateway.Library.Execution
import MultibusGateway.Library.Packing
import MultibusGateway.Lorawan.ReportScheduler
import MultibusGateway.Modbus.ValueKinds

/-! The periodic report, over any run of the scheduler from the start of a report to its end.
Its packets carry the samples of the start, channel by channel in the order of the slots, and
each once, whatever is polled, requested or lost in between. -/

namespace Lorawan
open ByteString Modbus Execution Packing

/-! Samples that can be encoded. -/

theorem uplink_width (type : WireDataType) :
    (uplinkValueWidth (uplinkDataType type) = 1 ∨ uplinkValueWidth (uplinkDataType type) = 2 ∨
      uplinkValueWidth (uplinkDataType type) = 4 ∨ uplinkValueWidth (uplinkDataType type) = 8) ∧
    (isBooleanType type = true → uplinkValueWidth (uplinkDataType type) = 1) ∧
    (isFloatingPointType type = true → uplinkValueWidth (uplinkDataType type) = 4 ∨
      uplinkValueWidth (uplinkDataType type) = 8) := by
  cases type <;> decide

theorem encodeScalarBytes_ofChannel (channel : ChannelConfig)
    (valid : validChannelConfig channel = true) (value : DecodedScalar)
    (kind : OfChannel channel value) :
    ∃ data, encodeScalarBytes channel value 8 = .ok data ∧
      data.length = uplinkValueWidth (uplinkDataType channel.dataType) := by
  obtain ⟨widths, boolean, float⟩ := uplink_width channel.dataType
  have fits : ¬ 8 < uplinkValueWidth (uplinkDataType channel.dataType) := by omega
  have positive : (uplinkValueWidth (uplinkDataType channel.dataType) == 0) = false := by
    rw [beq_eq_false_iff_ne]
    omega
  simp only [encodeScalarBytes, valid, positive, if_neg fits, Bool.not_true, Bool.false_eq_true,
    if_false]
  cases value with
  | boolean bit =>
    have one := boolean kind
    have same : isBooleanType channel.dataType = true := kind
    simp [same, one]
  | floatingPoint real =>
    obtain ⟨none, floating⟩ := kind
    obtain width | width := float floating <;> simp [none, floating, width]
  | signedInteger whole =>
    obtain ⟨none, integer, sign⟩ := kind
    simp [none, integer, uplinkSigned, sign]
  | unsignedInteger whole =>
    obtain ⟨none, integer, sign⟩ := kind
    simp [none, integer, uplinkSigned, sign]

theorem encodeChannelValue_length (channel : ChannelConfig)
    (valid : validChannelConfig channel = true) (index : Nat) (inside : index < 2) (data : Bytes)
    (width : data.length = uplinkValueWidth (uplinkDataType channel.dataType)) (capacity : Nat)
    (room : 12 ≤ capacity) :
    ∃ frame, encodeChannelValue channel (UInt8.ofNat index) data capacity = .ok frame ∧
      1 ≤ frame.length ∧ frame.length ≤ 12 := by
  obtain ⟨widths, -, -⟩ := uplink_width channel.dataType
  have slot : ¬ channel.slot ≥ kCompatibilitySlotCount := by
    simp only [validChannelConfig, Bool.and_eq_true, decide_eq_true_eq] at valid
    exact UInt8.not_le.mpr valid.1.1.1.1.1
  have register : ¬ UInt8.ofNat index > 1 := by
    obtain rfl | rfl : index = 0 ∨ index = 1 := by omega
    · decide
    · decide
  have positive : (uplinkValueWidth (uplinkDataType channel.dataType) == 0) = false := by
    rw [beq_eq_false_iff_ne]
    omega
  have fits : ¬ capacity < 4 + uplinkValueWidth (uplinkDataType channel.dataType) := by omega
  refine ⟨[kModbusChannel, kModbusChannelDataType, channel.slot, valueFlags (uplinkSigned channel)
    (UInt8.ofNat index) (uplinkDataType channel.dataType)] ++ data, ?_, ?_⟩
  · simp only [encodeChannelValue, encodePeriodicValue, valid, positive, width, if_neg fits, slot,
      register, Bool.not_true, Bool.false_eq_true, if_false, decide_false, Bool.or_false,
      bne_self_eq_false]
  · simp only [List.length_append, List.length_cons, List.length_nil, width]
    omega

theorem encodePollSuccess_length (channel : ChannelConfig) (values : List DecodedScalar)
    (valid : validChannelConfig channel = true) (count : values.length = channel.quantity.toNat)
    (kinds : ∀ value ∈ values, OfChannel channel value) :
    ∃ encoded, encodePollSuccess channel values 24 = .ok encoded ∧
      1 ≤ encoded.length ∧ encoded.length ≤ 24 := by
  obtain ⟨-, -, -, least, most⟩ := (validChannelConfig_iff channel).mp valid
  have scalar := encodeScalarBytes_ofChannel channel valid
  have frame (index : Nat) (inside : index < 2) (value : DecodedScalar) (member : value ∈ values)
      (capacity : Nat) (room : 12 ≤ capacity) : ∃ data frame,
        encodeScalarBytes channel value 8 = .ok data ∧
        encodeChannelValue channel (UInt8.ofNat index) data capacity = .ok frame ∧
          1 ≤ frame.length ∧ frame.length ≤ 12 := by
    obtain ⟨data, encoded, width⟩ := scalar value (kinds value member)
    obtain ⟨frame, framed, size⟩ :=
      encodeChannelValue_length channel valid index inside data width capacity room
    exact ⟨data, frame, encoded, framed, size⟩
  clear kinds
  unfold encodePollSuccess
  match values with
  | [] => simp at count; omega
  | [first] =>
    obtain ⟨data, one, encoded, framed, size⟩ := frame 0 (by omega) first (by simp) 24 (by omega)
    refine ⟨one, ?_, size.1, by omega⟩
    change encodeChannelValue channel 0 data 24 = _ at framed
    simp [valid, ← count, List.zipIdx, encoded, framed, bind, Except.bind, pure, Except.pure]
  | [first, second] =>
    obtain ⟨data, one, encoded, framed, size⟩ := frame 0 (by omega) first (by simp) 24 (by omega)
    obtain ⟨data', two, encoded', framed', size'⟩ :=
      frame 1 (by omega) second (by simp) (24 - one.length) (by omega)
    refine ⟨one ++ two, ?_, by simp; omega, by simp; omega⟩
    change encodeChannelValue channel 0 data 24 = _ at framed
    change encodeChannelValue channel 1 data' _ = _ at framed'
    simp [valid, ← count, List.zipIdx, encoded, framed, encoded', framed', bind, Except.bind, pure,
      Except.pure]
  | _ :: _ :: _ :: _ => simp at count; omega

/-! The packets of a report. -/

namespace ReportScheduler

def encoding (sample : Sample) : Bytes :=
  match encodeSample sample with
  | .ok encoded => encoded
  | .error _ => []

def encodingsFrom (samples : Nat → Option Sample) (slot : Nat) : List Bytes :=
  (List.range' slot (kCompatibilitySlotCount.toNat - slot)).filterMap fun slot =>
    (samples slot).map encoding

def Encodable (samples : Nat → Option Sample) : Prop :=
  ∀ slot, ∀ sample ∈ samples slot,
    ∃ encoded, encodeSample sample = .ok encoded ∧ 1 ≤ encoded.length ∧ encoded.length ≤ 24

theorem encodingsFrom_end (samples : Nat → Option Sample) (slot : Nat)
    (behind : kCompatibilitySlotCount.toNat ≤ slot) : encodingsFrom samples slot = [] := by
  rw [encodingsFrom, Nat.sub_eq_zero_of_le behind]
  rfl

theorem encodingsFrom_step (samples : Nat → Option Sample) (slot : Nat)
    (inside : slot < kCompatibilitySlotCount.toNat) :
    encodingsFrom samples slot =
      ((samples slot).map encoding).toList ++ encodingsFrom samples (slot + 1) := by
  obtain ⟨count, more⟩ : ∃ count, kCompatibilitySlotCount.toNat - slot = count + 1 :=
    ⟨kCompatibilitySlotCount.toNat - slot - 1, by omega⟩
  have less : kCompatibilitySlotCount.toNat - (slot + 1) = count := by omega
  rw [encodingsFrom, encodingsFrom, more, less, List.range'_succ, List.filterMap_cons]
  cases samples slot <;> rfl

theorem encodingsFrom_length (samples : Nat → Option Sample) :
    (encodingsFrom samples 0).length ≤ 32 := by
  have bound := List.length_filterMap_le (fun slot => (samples slot).map encoding)
    (List.range' 0 (kCompatibilitySlotCount.toNat - 0))
  rwa [List.length_range'] at bound

structure Fills (samples : Nat → Option Sample) (packet filled : Packet) (group : List Bytes) :
    Prop where
  payload : filled.payload = packet.payload ++ group.flatten
  encodings : encodingsFrom samples packet.scan = group ++ encodingsFrom samples filled.scan
  fits : filled.payload.length ≤ kCompatibilityReportPayloadLimit
  more : filled.scan < kCompatibilitySlotCount.toNat → encodingsFrom samples filled.scan ≠ []
  carries : group ≠ [] → filled.payload ≠ []
  progress : packet.payload = [] → group = [] → encodingsFrom samples packet.scan = []

theorem fillPacket_fills (samples : Nat → Option Sample) (encodable : Encodable samples)
    (remaining : Nat) (packet : Packet)
    (room : remaining = kCompatibilitySlotCount.toNat - packet.scan)
    (fits : packet.payload.length ≤ kCompatibilityReportPayloadLimit) :
    ∃ filled group, fillPacket samples remaining packet = .ok filled ∧
      Fills samples packet filled group := by
  induction remaining generalizing packet with
  | zero =>
    have done := encodingsFrom_end samples packet.scan (by omega)
    refine ⟨packet, [], rfl, ?_⟩
    exact
      { payload := by simp
        encodings := by simp
        fits := fits
        more := fun inside => by omega
        carries := fun some => absurd rfl some
        progress := fun _ _ => done }
  | succ remaining ih =>
    have inside : packet.scan < kCompatibilitySlotCount.toNat := by omega
    have step := encodingsFrom_step samples packet.scan inside
    unfold fillPacket
    cases held : samples packet.scan with
    | none =>
      rw [held] at step
      obtain ⟨filled, group, done, fills⟩ :=
        ih { packet with scan := packet.scan + 1 } (by dsimp only; omega) fits
      refine ⟨filled, group, done, ?_⟩
      exact
        { fills with
          encodings := step.trans fills.encodings
          progress := fun empty none => step.trans (fills.progress empty none) }
    | some sample =>
      obtain ⟨encoded, found, least, most⟩ := encodable packet.scan sample held
      have first : encoding sample = encoded := by rw [encoding, found]
      rw [held, Option.map_some, first, Option.toList_some] at step
      have some : ¬ encoded.length = 0 := by omega
      simp only [found, if_neg some]
      split
      · rename_i done
        have filled : ¬ packet.payload.length = 0 := by
          simp only [kCompatibilityReportPayloadLimit] at done
          omega
        rw [if_neg filled]
        refine ⟨packet, [], rfl, ?_⟩
        exact
          { payload := by simp
            encodings := by simp
            fits := fits
            more := fun _ => by rw [step]; simp
            carries := fun some => absurd rfl some
            progress := fun empty _ => absurd (by rw [empty]; rfl) filled }
      · rename_i enough
        obtain ⟨filled, group, done, fills⟩ := ih
          { payload := packet.payload ++ encoded
            slots := packet.slots ++ [packet.scan]
            scan := packet.scan + 1 } (by dsimp only; omega)
          (by simpa using Nat.le_of_not_lt enough)
        refine ⟨filled, encoded :: group, done, ?_⟩
        exact
          { payload := by rw [fills.payload]; simp
            encodings := by rw [step, fills.encodings]; rfl
            fits := fills.fits
            more := fills.more
            carries := fun _ empty => by
              have payload := fills.payload
              rw [empty] at payload
              have lengths := congrArg List.length payload
              simp only [List.length_nil, List.length_append] at lengths
              omega
            progress := fun _ none => by cases none }

/-- The state that a packet is built from: in a new report the snapshot is taken first. -/
def begun (nowMs : UInt32) (s : ReportScheduler) : ReportScheduler :=
  if s.reportInProgress then s
  else
    { s with
      reportSamples := s.samples
      reportInProgress := true
      cursor := 0
      immediateReportRequested := false
      nextReportAtMs :=
        if WrapClock.reached nowMs s.nextReportAtMs then nowMs + s.intervalMs
        else s.nextReportAtMs }

def due (nowMs : UInt32) (s : ReportScheduler) : Bool :=
  s.reportInProgress || s.immediateReportRequested || WrapClock.reached nowMs s.nextReportAtMs

def built (nowMs : UInt32) (packet : Packet) (s : ReportScheduler) : Prepared :=
  if packet.payload.length = 0 then
    ⟨{ s with reportInProgress := false, cursor := 0 }, .emptyReport, [], []⟩
  else
    ⟨{ s with
       pendingPayload := some packet.payload
       pendingNextCursor := packet.scan
       retryAtMs := nowMs }, .packetReady, packet.payload, packet.slots⟩

def builtFrom (nowMs : UInt32) (filled : Except ReportBuildStatus Packet) (s : ReportScheduler) :
    Prepared :=
  match filled with
  | .error status => ⟨s, status, [], []⟩
  | .ok packet => s.built nowMs packet

theorem preparePacket_builds (nowMs : UInt32) (capacity : Nat) (s : ReportScheduler)
    (room : kCompatibilityReportPayloadLimit ≤ capacity) (none : s.pendingPayload = none)
    (due : s.due nowMs = true) (encodable : Encodable (s.begun nowMs).reportSamples) :
    ∃ filled group,
      Fills (s.begun nowMs).reportSamples { scan := (s.begun nowMs).cursor } filled group ∧
      s.preparePacket nowMs capacity = (s.begun nowMs).built nowMs filled := by
  obtain ⟨filled, group, done, fills⟩ := fillPacket_fills _ encodable
    (kCompatibilitySlotCount.toNat - (s.begun nowMs).cursor) { scan := (s.begun nowMs).cursor }
    rfl (by simp)
  refine ⟨filled, group, fills, ?_⟩
  have ready : ¬ (!s.reportInProgress && !s.immediateReportRequested &&
      !WrapClock.reached nowMs s.nextReportAtMs) = true := by
    simp only [ReportScheduler.due] at due
    revert due
    cases s.reportInProgress <;> cases s.immediateReportRequested <;>
      cases WrapClock.reached nowMs s.nextReportAtMs <;> simp
  unfold preparePacket
  rw [if_neg (Nat.not_lt.mpr room)]
  split
  · rename_i payload held
    rw [none] at held
    cases held
  · dsimp only
    rw [if_neg ready]
    change (s.begun nowMs).builtFrom nowMs (fillPacket (s.begun nowMs).reportSamples
      (kCompatibilitySlotCount.toNat - (s.begun nowMs).cursor)
      { scan := (s.begun nowMs).cursor }) = _
    rw [done]
    rfl

end ReportScheduler

/-! The calls of the scheduler. -/

/-- The calls that may come while a report is sent. -/
inductive ReportCall where
  | preparePacket (nowMs : UInt32) (capacity : Nat)
  | markPacketSent (nowMs : UInt32)
  | markPacketFailed (nowMs : UInt32)
  | recordPoll (channel : ChannelConfig) (success : Bool) (values : List DecodedScalar)
    (poll : Nat)
  | requestImmediateReport
  | applySettings (settings : ReportIntervalSettings) (nowMs : UInt32)

def ReportCall.Recorded : ReportCall → Prop
  | .recordPoll channel true values _ => ∃ frame, decodeReadResponse channel frame = .ok values
  | _ => True

namespace ReportScheduler

def perform (s : ReportScheduler) : ReportCall → ReportScheduler
  | .preparePacket nowMs capacity => (s.preparePacket nowMs capacity).scheduler
  | .markPacketSent nowMs => s.markPacketSent nowMs
  | .markPacketFailed nowMs => s.markPacketFailed nowMs
  | .recordPoll channel success values poll => s.recordPoll channel success values poll
  | .requestImmediateReport => s.requestImmediateReport
  | .applySettings settings nowMs => (s.applySettings settings nowMs).1

inductive Reachable : ReportScheduler → Prop where
  | begin (settings : ReportIntervalSettings) (nowMs : UInt32) :
    Reachable (({} : ReportScheduler).begin settings nowMs)
  | perform (s : ReportScheduler) (c : ReportCall) (reachable : Reachable s)
    (recorded : c.Recorded) : Reachable (s.perform c)
  | abortReport (s : ReportScheduler) (reachable : Reachable s) : Reachable s.abortReport
  | clearSlot (s : ReportScheduler) (slot : UInt8) (reachable : Reachable s) :
    Reachable (s.clearSlot slot)

/-- Every sample can be encoded, and a packet is pending only in a report. -/
structure Sound (s : ReportScheduler) : Prop where
  encodable : Encodable s.samples
  pending : s.reportInProgress = false → s.pendingPayload = none

theorem encodable_update (samples : Nat → Option Sample) (encodable : Encodable samples)
    (slot : Nat) (sample : Option Sample) (new : ∀ found ∈ sample, ∃ encoded,
      encodeSample found = .ok encoded ∧ 1 ≤ encoded.length ∧ encoded.length ≤ 24) :
    Encodable (Function.update samples slot sample) := by
  intro other found member
  by_cases same : other = slot
  · rw [same, Function.update_self] at member
    exact new found member
  · rw [Function.update_of_ne same] at member
    exact encodable other found member

theorem recordPoll_encodable (channel : ChannelConfig) (success : Bool)
    (values : List DecodedScalar) (poll : Nat) (s : ReportScheduler)
    (encodable : Encodable s.samples)
    (recorded : (ReportCall.recordPoll channel success values poll).Recorded) :
    Encodable (s.recordPoll channel success values poll).samples := by
  unfold recordPoll
  split
  · exact encodable
  · rename_i inside
    simp only [Bool.or_eq_true, not_or, Bool.not_eq_true', Bool.not_eq_false,
      decide_eq_true_eq] at inside
    refine encodable_update s.samples encodable _ _ fun sample member => ?_
    obtain rfl := Option.some.inj member
    unfold encodeSample
    cases success with
    | true =>
      obtain ⟨frame, decoded⟩ := recorded
      obtain ⟨valid, count, kinds⟩ := decodeReadResponse_ofChannel channel frame values decoded
      exact encodePollSuccess_length channel values valid count kinds
    | false =>
      refine ⟨[kSystemChannel, kCollectionExceptionType, channel.slot], ?_, by simp, by simp⟩
      simp [encodePollFailure, encodeCollectionException, inside.1, inside.2]

/-- Outside of a report a call of `preparePacket` changes nothing, or begins a report. -/
theorem preparePacket_sound (nowMs : UInt32) (capacity : Nat) (s : ReportScheduler)
    (sound : s.Sound) : (s.preparePacket nowMs capacity).scheduler.Sound := by
  unfold preparePacket
  split
  · exact sound
  split
  · split <;> exact sound
  · rename_i absent
    dsimp only
    split
    · exact sound
    have started : (s.begun nowMs).samples = s.samples ∧
        (s.begun nowMs).reportInProgress = true ∧ (s.begun nowMs).pendingPayload = none := by
      unfold begun
      split
      · rename_i underway
        exact ⟨rfl, underway, absent⟩
      · exact ⟨rfl, rfl, absent⟩
    change ((s.begun nowMs).builtFrom nowMs (fillPacket (s.begun nowMs).reportSamples
      (kCompatibilitySlotCount.toNat - (s.begun nowMs).cursor)
      { scan := (s.begun nowMs).cursor })).scheduler.Sound
    obtain ⟨samples, underway, empty⟩ := started
    unfold builtFrom
    split
    · exact ⟨samples ▸ sound.encodable, fun _ => empty⟩
    · unfold built
      split
      · exact ⟨samples ▸ sound.encodable, fun _ => empty⟩
      · exact ⟨samples ▸ sound.encodable, fun done => by rw [underway] at done; cases done⟩

theorem perform_sound (s : ReportScheduler) (c : ReportCall) (recorded : c.Recorded)
    (sound : s.Sound) : (s.perform c).Sound := by
  cases c with
  | preparePacket nowMs capacity => exact preparePacket_sound nowMs capacity s sound
  | markPacketSent nowMs =>
    simp only [perform, markPacketSent]
    split
    · exact sound
    · exact ⟨sound.encodable, fun _ => rfl⟩
  | markPacketFailed nowMs =>
    simp only [perform, markPacketFailed]
    split
    · exact sound
    · exact ⟨sound.encodable, sound.pending⟩
  | recordPoll channel success values poll =>
    refine ⟨recordPoll_encodable channel success values poll s sound.encodable recorded, ?_⟩
    simp only [perform, recordPoll]
    split <;> exact sound.pending
  | requestImmediateReport => exact ⟨sound.encodable, sound.pending⟩
  | applySettings settings nowMs =>
    simp only [perform, applySettings]
    split <;> exact ⟨sound.encodable, sound.pending⟩

theorem Reachable.sound {s : ReportScheduler} (reachable : Reachable s) : s.Sound := by
  induction reachable with
  | begin settings nowMs => exact ⟨fun _ _ member => (by cases member), fun _ => rfl⟩
  | perform s c _ recorded ih => exact perform_sound s c recorded ih
  | abortReport s _ ih => exact ⟨ih.encodable, fun _ => rfl⟩
  | clearSlot s slot _ ih =>
    unfold ReportScheduler.clearSlot
    split
    · exact ih
    · refine ⟨encodable_update s.samples ih.encodable _ none fun _ member => ?_, ih.pending⟩
      cases member

end ReportScheduler

/-! A report and its packets. -/

/-- A report being sent: the copies of the packet at hand that calls have returned, the
latest first, and the packets that were confirmed. -/
structure Transmission where
  scheduler : ReportScheduler
  returned : List Bytes := []
  confirmed : List Bytes := []

/-- A call; the packet that is confirmed is the one that was returned last. -/
def transmit (t : Transmission) (c : ReportCall) : Transmission :=
  let scheduler := t.scheduler.perform c
  match c with
  | .preparePacket nowMs capacity =>
    let prepared := t.scheduler.preparePacket nowMs capacity
    { t with
      scheduler := scheduler
      returned :=
        if prepared.status = .packetReady then prepared.payload :: t.returned else t.returned }
  | .markPacketSent _ =>
    { scheduler := scheduler
      returned := []
      confirmed := t.confirmed ++ t.returned.head?.toList }
  | _ => { t with scheduler := scheduler }

def FitsPacket (packet : Bytes) : Prop :=
  1 ≤ packet.length ∧ packet.length ≤ kCompatibilityReportPayloadLimit

open ReportScheduler

/-- The pending packet carries the next encodings, and all calls have returned it alike. -/
structure Outstanding (samples : Nat → Option Sample) (t : Transmission) (packet : Bytes) :
    Prop where
  fits : FitsPacket packet
  returned : t.returned ≠ [] ∧ ∀ copy ∈ t.returned, copy = packet
  carries : ∃ group, group ≠ [] ∧ packet = group.flatten ∧
    encodingsFrom samples t.scheduler.cursor =
      group ++ encodingsFrom samples t.scheduler.pendingNextCursor
  more : t.scheduler.pendingNextCursor < kCompatibilitySlotCount.toNat →
    encodingsFrom samples t.scheduler.pendingNextCursor ≠ []

structure Underway (samples : Nat → Option Sample) (t : Transmission) : Prop where
  inProgress : t.scheduler.reportInProgress = true
  snapshot : t.scheduler.reportSamples = samples
  packed : Packed (encodingsFrom samples 0) t.confirmed
    (encodingsFrom samples t.scheduler.cursor)
  left : encodingsFrom samples t.scheduler.cursor ≠ []
  sizes : ∀ packet ∈ t.confirmed, FitsPacket packet
  idle : t.scheduler.pendingPayload = none → t.returned = []
  pending : ∀ packet ∈ t.scheduler.pendingPayload, Outstanding samples t packet

structure Over (samples : Nat → Option Sample) (t : Transmission) : Prop where
  ended : t.scheduler.reportInProgress = false
  packed : Packed (encodingsFrom samples 0) t.confirmed []
  sizes : ∀ packet ∈ t.confirmed, FitsPacket packet
  idle : t.returned = []

def Runs (samples : Nat → Option Sample) (t : Transmission) : Prop :=
  Underway samples t ∨ Over samples t

theorem Underway.same {samples : Nat → Option Sample} {t u : Transmission}
    (underway : Underway samples t) (returned : u.returned = t.returned)
    (confirmed : u.confirmed = t.confirmed)
    (inProgress : u.scheduler.reportInProgress = t.scheduler.reportInProgress)
    (snapshot : u.scheduler.reportSamples = t.scheduler.reportSamples)
    (cursor : u.scheduler.cursor = t.scheduler.cursor)
    (next : u.scheduler.pendingNextCursor = t.scheduler.pendingNextCursor)
    (payload : u.scheduler.pendingPayload = t.scheduler.pendingPayload) : Underway samples u where
  inProgress := inProgress.trans underway.inProgress
  snapshot := snapshot.trans underway.snapshot
  packed := by rw [confirmed, cursor]; exact underway.packed
  left := by rw [cursor]; exact underway.left
  sizes := by rw [confirmed]; exact underway.sizes
  idle none := returned.trans (underway.idle (payload ▸ none))
  pending packet member := by
    obtain ⟨fits, copies, carries, more⟩ := underway.pending packet (payload ▸ member)
    exact ⟨fits, by rwa [returned], by rwa [cursor, next], by rwa [next]⟩

theorem runs_built {samples : Nat → Option Sample} {t : Transmission} (nowMs : UInt32)
    (s : ReportScheduler) (filled : Packet) (group : List Bytes)
    (fills : Fills samples { scan := s.cursor } filled group) (inProgress : s.reportInProgress = true)
    (snapshot : s.reportSamples = samples)
    (packed : Packed (encodingsFrom samples 0) t.confirmed (encodingsFrom samples s.cursor))
    (sizes : ∀ packet ∈ t.confirmed, FitsPacket packet) (idle : t.returned = []) :
    let prepared := s.built nowMs filled
    Runs samples { t with
      scheduler := prepared.scheduler
      returned :=
        if prepared.status = .packetReady then prepared.payload :: t.returned
        else t.returned } := by
  have payload : filled.payload = group.flatten := by simpa using fills.payload
  unfold built
  dsimp only
  split
  · rename_i empty
    have none : group = [] := by
      by_contra some
      exact fills.carries some (List.eq_nil_of_length_eq_zero empty)
    refine .inr ⟨rfl, ?_, sizes, ?_⟩
    · rwa [fills.progress rfl none] at packed
    · simp [idle]
  · rename_i carried
    have some : group ≠ [] := by
      rintro rfl
      exact carried (by rw [payload]; rfl)
    have left : encodingsFrom samples s.cursor ≠ [] := by
      rw [fills.encodings]
      simp [some]
    refine .inl ⟨inProgress, snapshot, packed, left, sizes, fun none => (by cases none), ?_⟩
    intro packet member
    obtain rfl := Option.some.inj member
    refine ⟨⟨by omega, fills.fits⟩, ⟨by simp, ?_⟩, ⟨group, some, payload, fills.encodings⟩,
      fills.more⟩
    simp [idle]

theorem runs_preparePacket {samples : Nat → Option Sample} (encodable : Encodable samples)
    (nowMs : UInt32) (capacity : Nat) (t : Transmission) (underway : Underway samples t) :
    Runs samples (transmit t (.preparePacket nowMs capacity)) := by
  unfold transmit perform
  dsimp only
  by_cases room : capacity < kCompatibilityReportPayloadLimit
  · simp only [ReportScheduler.preparePacket, if_pos room]
    exact .inl (underway.same (by simp) rfl rfl rfl rfl rfl rfl)
  cases held : t.scheduler.pendingPayload with
  | some packet =>
    obtain ⟨fits, ⟨copied, copies⟩, carries, more⟩ := underway.pending packet held
    simp only [ReportScheduler.preparePacket, if_neg room, held]
    split
    · exact .inl (underway.same (by simp) rfl rfl rfl rfl rfl rfl)
    · refine .inl { underway with idle := ?_, pending := ?_ }
      · intro none
        rw [held] at none
        cases none
      · intro other member
        rw [held] at member
        obtain rfl := Option.some.inj member
        refine ⟨fits, ⟨by simp, fun copy returned => ?_⟩, carries, more⟩
        obtain rfl | before := List.mem_cons.mp returned
        · rfl
        · exact copies copy before
  | none =>
    have begun : t.scheduler.begun nowMs = t.scheduler := if_pos underway.inProgress
    obtain ⟨filled, group, fills, prepared⟩ := preparePacket_builds nowMs capacity t.scheduler
      (Nat.le_of_not_lt room) held (by simp [due, underway.inProgress])
      (by rw [begun, underway.snapshot]; exact encodable)
    rw [begun, underway.snapshot] at fills
    rw [prepared, begun]
    exact runs_built nowMs t.scheduler filled group fills underway.inProgress
      underway.snapshot underway.packed underway.sizes (underway.idle held)

theorem runs_markPacketSent {samples : Nat → Option Sample} (nowMs : UInt32) (t : Transmission)
    (underway : Underway samples t) : Runs samples (transmit t (.markPacketSent nowMs)) := by
  unfold transmit perform markPacketSent
  dsimp only
  cases held : t.scheduler.pendingPayload with
  | none =>
    have idle := underway.idle held
    exact .inl (underway.same idle.symm (by simp [idle]) rfl rfl rfl rfl rfl)
  | some packet =>
    obtain ⟨fits, ⟨copied, copies⟩, ⟨group, some, payload, encodings⟩, more⟩ :=
      underway.pending packet held
    have latest : t.returned.head?.toList = [packet] := by
      cases returned : t.returned with
      | nil => exact absurd returned copied
      | cons copy rest =>
        have same := copies copy (by rw [returned]; exact List.mem_cons_self)
        rw [same]
        rfl
    have packed := underway.packed
    rw [encodings] at packed
    have sent := Packed.packet _ _ _ packed some
    rw [← payload] at sent
    have sizes : ∀ other ∈ t.confirmed ++ [packet], FitsPacket other := by
      intro other member
      obtain before | now := List.mem_append.mp member
      · exact underway.sizes other before
      · rw [List.mem_singleton.mp now]
        exact fits
    rw [latest]
    dsimp only
    by_cases finished : t.scheduler.pendingNextCursor ≥ kCompatibilitySlotCount.toNat
    · right
      rw [encodingsFrom_end samples _ finished] at sent
      exact ⟨by simp [finished], sent, sizes, rfl⟩
    · left
      have still : t.scheduler.reportInProgress = true := underway.inProgress
      exact
        { inProgress := by simp [finished, still]
          snapshot := underway.snapshot
          packed := by simpa only [if_neg finished] using sent
          left := by simpa only [if_neg finished] using more (Nat.lt_of_not_le finished)
          sizes := sizes
          idle := fun _ => rfl
          pending := fun _ member => by cases member }

theorem runs_transmit {samples : Nat → Option Sample} (encodable : Encodable samples)
    (t : Transmission) (c : ReportCall) (underway : Underway samples t) :
    Runs samples (transmit t c) := by
  cases c with
  | preparePacket nowMs capacity => exact runs_preparePacket encodable nowMs capacity t underway
  | markPacketSent nowMs => exact runs_markPacketSent nowMs t underway
  | markPacketFailed nowMs =>
    simp only [transmit, perform, markPacketFailed]
    split <;> exact .inl (underway.same rfl rfl rfl rfl rfl rfl rfl)
  | recordPoll channel success values poll =>
    simp only [transmit, perform, recordPoll]
    split <;> exact .inl (underway.same rfl rfl rfl rfl rfl rfl rfl)
  | requestImmediateReport => exact .inl (underway.same rfl rfl rfl rfl rfl rfl rfl)
  | applySettings settings nowMs =>
    simp only [transmit, perform, applySettings]
    split <;> exact .inl (underway.same rfl rfl rfl rfl rfl rfl rfl)

/-- What is to be said of a report at any point: its packets carry the samples of its start in
whole channels and in order, the copies of a packet are alike, and it is over when all are
sent. -/
structure Transmits (samples : Nat → Option Sample) (t : Transmission) : Prop where
  whole : ∃ left, Packed (encodingsFrom samples 0) t.confirmed left ∧
    (left = [] ↔ t.scheduler.reportInProgress = false) ∧
    ∀ packet ∈ t.returned, ∃ later,
      Packed (encodingsFrom samples 0) (t.confirmed ++ [packet]) later
  sizes : ∀ packet ∈ t.confirmed ++ t.returned, FitsPacket packet
  identical : ∀ packet ∈ t.returned, ∀ copy ∈ t.returned, copy = packet
  complete : t.scheduler.reportInProgress = false →
    t.confirmed.flatten = (encodingsFrom samples 0).flatten
  bounded : t.confirmed.length ≤ 32
  ready : t.scheduler.reportInProgress = true → ∀ nowMs capacity,
    kCompatibilityReportPayloadLimit ≤ capacity →
      (t.scheduler.preparePacket nowMs capacity).status = .packetReady ∨
        (t.scheduler.preparePacket nowMs capacity).status = .notDue

theorem transmits_of_runs {samples : Nat → Option Sample} (encodable : Encodable samples)
    (t : Transmission) (runs : Runs samples t) : Transmits samples t := by
  have bound (left : List Bytes) (packed : Packed (encodingsFrom samples 0) t.confirmed left) :
      t.confirmed.length ≤ 32 :=
    le_trans (le_trans (Nat.le_add_right _ _) packed.length) (encodingsFrom_length samples)
  obtain underway | done := runs
  · have returned : ∀ copy ∈ t.returned, Outstanding samples t copy := by
      intro copy member
      cases held : t.scheduler.pendingPayload with
      | none =>
        rw [underway.idle held] at member
        cases member
      | some packet =>
        have outstanding := underway.pending packet held
        rw [outstanding.returned.2 copy member]
        exact outstanding
    have active := underway.inProgress
    refine ⟨⟨_, underway.packed, ?_, ?_⟩, ?_, ?_, ?_, bound _ underway.packed, ?_⟩
    · simp [underway.left, active]
    · intro packet member
      obtain ⟨group, some, payload, encodings⟩ := (returned packet member).carries
      refine ⟨encodingsFrom samples t.scheduler.pendingNextCursor, ?_⟩
      rw [payload]
      exact .packet _ _ _ (encodings ▸ underway.packed) some
    · intro packet member
      obtain before | now := List.mem_append.mp member
      · exact underway.sizes packet before
      · exact (returned packet now).fits
    · exact fun packet member copy => (returned packet member).returned.2 copy
    · intro ended
      rw [active] at ended
      cases ended
    · intro _ nowMs capacity room
      cases held : t.scheduler.pendingPayload with
      | some packet =>
        simp only [ReportScheduler.preparePacket, if_neg (Nat.not_lt.mpr room), held]
        split
        · exact .inr rfl
        · exact .inl rfl
      | none =>
        have begun : t.scheduler.begun nowMs = t.scheduler := if_pos active
        obtain ⟨filled, group, fills, prepared⟩ := preparePacket_builds nowMs capacity t.scheduler
          room held (by simp [due, active]) (by rw [begun, underway.snapshot]; exact encodable)
        rw [begun, underway.snapshot] at fills
        have carried : ¬ filled.payload.length = 0 := by
          intro empty
          refine underway.left (fills.progress rfl ?_)
          by_contra some
          exact fills.carries some (List.eq_nil_of_length_eq_zero empty)
        rw [prepared, begun, built, if_neg carried]
        exact .inl rfl
  · refine ⟨⟨[], done.packed, by simp [done.ended], ?_⟩, ?_, ?_, ?_, bound _ done.packed, ?_⟩
    · simp [done.idle]
    · simpa [done.idle] using done.sizes
    · simp [done.idle]
    · intro _
      simpa using done.packed.flatten
    · intro active
      rw [done.ended] at active
      cases active

/-- A report that starts in a reachable state transmits the samples of its start, at any point
of any run that does not abort it. -/
theorem report_transmits_snapshot (s : ReportScheduler) (reachable : Reachable s)
    (idle : s.reportInProgress = false) (nowMs : UInt32) (capacity : Nat)
    (room : kCompatibilityReportPayloadLimit ≤ capacity) (start : s.due nowMs = true)
    (calls : List ReportCall)
    (inProgress : Always transmit (fun t _ => t.scheduler.reportInProgress = true)
      (transmit { scheduler := s } (.preparePacket nowMs capacity)) calls) :
    Transmits s.samples
      (run transmit { scheduler := s } (.preparePacket nowMs capacity :: calls)) := by
  obtain ⟨encodable, pending⟩ := reachable.sound
  have absent := pending idle
  have snapshot : (s.begun nowMs).reportSamples = s.samples ∧ (s.begun nowMs).cursor = 0 ∧
      (s.begun nowMs).reportInProgress = true := by
    simp [begun, idle]
  obtain ⟨samples, cursor, active⟩ := snapshot
  obtain ⟨filled, group, fills, prepared⟩ := preparePacket_builds nowMs capacity s room absent
    start (by rw [samples]; exact encodable)
  have begins : Runs s.samples (transmit { scheduler := s } (.preparePacket nowMs capacity)) := by
    unfold transmit perform
    dsimp only
    rw [prepared]
    rw [samples] at fills
    refine runs_built (t := { scheduler := s }) nowMs (s.begun nowMs) filled group fills active
      samples ?_ (by simp) rfl
    rw [cursor]
    exact .none
  refine transmits_of_runs encodable _ ?_
  rw [run_cons]
  refine invariant_run transmit (Runs s.samples) _ (fun t c runs active => ?_) _ calls begins
    inProgress
  obtain underway | done := runs
  · exact runs_transmit encodable t c underway
  · rw [done.ended] at active
    cases active

def polledOnce : ReportScheduler :=
  (({} : ReportScheduler).begin {} 0).perform (.recordPoll {} false [] 0)

def retryCalls : List ReportCall :=
  [.markPacketFailed 1200000, .preparePacket 1205000 51, .markPacketSent 1206000]

theorem report_transmits_snapshot_retried :
    Transmits polledOnce.samples
      (run transmit { scheduler := polledOnce } (.preparePacket 1200000 51 :: retryCalls)) := by
  have reachable : Reachable polledOnce := .perform _ _ (.begin {} 0) trivial
  refine report_transmits_snapshot polledOnce reachable rfl 1200000 51 (by decide) (by decide)
    retryCalls ?_
  unfold Always
  decide +kernel

end Lorawan
