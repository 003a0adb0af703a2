import MultibusGateway.Core.Interleaving
import MultibusGateway.Library.Replay
import MultibusGateway.Modbus.Configuration

/-! The samples of a channel, over any run. After the channel of a slot was changed no older
sample of the slot is reported or evaluated, as long as no change leaves a completed poll
behind; and none is stored, as long as the history is not stored before a sample that a change
left in it gave way to a new one. -/

namespace Application
open ByteString Modbus Lorawan Reentrancy Execution Replay

/-- For each slot, the first poll whose sample may be used. The records that are stored are
judged too, or not. -/
def freshSamples (records : Bool) : Machine (UInt8 → Nat) SampleEvent where
  start := fun _ => 0
  next
    | first, .changed slot polls _ _ => some (Function.update first slot polls)
    | first, .captured _ => some first
    | first, .reported slot poll | first, .evaluated slot poll =>
      if first slot ≤ poll then some first else none
    | first, .stored slot poll =>
      if records = true → first slot ≤ poll then some first else none

def leave (behind : List UInt8) : SampleEvent → List UInt8
  | .changed slot _ inHistory _ =>
    if inHistory then slot :: behind else behind.filter fun other => other != slot
  | .captured slot => behind.filter fun other => other != slot
  | .reported _ _ | .stored _ _ | .evaluated _ _ => behind

def leftBehind (log : List SampleEvent) : List UInt8 := log.foldl leave []

theorem leftBehind_append (log events : List SampleEvent) :
    leftBehind (log ++ events) = events.foldl leave (leftBehind log) := by
  unfold leftBehind
  exact List.foldl_append

def Usable (behind : List UInt8) (first : UInt8 → Nat) (samples : Nat → Option Sample) : Prop :=
  ∀ slot < kCompatibilitySlotCount, slot ∉ behind →
    ∀ sample ∈ samples slot.toNat, first slot ≤ sample.poll

def Fewer (samples rest : Nat → Option Sample) : Prop :=
  ∀ slot, ∀ sample ∈ rest slot, sample ∈ samples slot

theorem Fewer.refl (samples : Nat → Option Sample) : Fewer samples samples :=
  fun _ _ member => member

theorem Fewer.trans {a b c : Nat → Option Sample} (first : Fewer a b) (second : Fewer b c) :
    Fewer a c :=
  fun slot sample member => first slot sample (second slot sample member)

theorem fewer_clear (samples : Nat → Option Sample) (slot : Nat) :
    Fewer samples (Function.update samples slot none) := by
  intro other sample member
  by_cases same : other = slot
  · rw [same, Function.update_self] at member
    cases member
  · rwa [Function.update_of_ne same] at member

section
variable {behind : List UInt8} {first : UInt8 → Nat} {samples rest : Nat → Option Sample}

theorem Usable.fewer (usable : Usable behind first samples) (fewer : Fewer samples rest) :
    Usable behind first rest :=
  fun slot inside clean sample member =>
    usable slot inside clean sample (fewer slot.toNat sample member)

theorem Usable.update (usable : Usable behind first samples) (slot : UInt8) (sample : Sample)
    (new : first slot ≤ sample.poll) (left : List UInt8)
    (elsewhere : ∀ other, other ≠ slot → other ∈ behind → other ∈ left) :
    Usable left first (Function.update samples slot.toNat (some sample)) := by
  intro other inside clean found member
  by_cases same : other = slot
  · subst same
    rw [Function.update_self] at member
    obtain rfl := Option.some.inj member
    exact new
  · have apart : other.toNat ≠ slot.toNat := fun equal => same (UInt8.toNat_inj.mp equal)
    rw [Function.update_of_ne apart] at member
    exact usable other inside (fun before => clean (elsewhere other same before)) found member

theorem Usable.changed (usable : Usable behind first samples) (slot : UInt8) (polls : Nat)
    (left : List UInt8) (elsewhere : ∀ other, other ≠ slot → other ∈ behind → other ∈ left)
    (clear : slot < kCompatibilitySlotCount → slot ∉ left → samples slot.toNat = none) :
    Usable left (Function.update first slot polls) samples := by
  intro other inside clean sample member
  by_cases same : other = slot
  · rw [same] at inside clean member
    rw [clear inside clean] at member
    cases member
  · rw [Function.update_of_ne same]
    exact usable other inside (fun before => clean (elsewhere other same before)) sample member

end

/-! The polls of the component. -/

/-- The slots with a channel stay, and a completed poll is one of before or a new one. -/
structure Polls (a b : ModbusComponent) : Prop where
  slots : ∀ channel ∈ a.channels, ∃ kept ∈ b.channels, kept.slot = channel.slot
  more : a.pollsCompleted ≤ b.pollsCompleted
  completed : ∀ completion ∈ b.completedPoll, completion ∈ a.completedPoll ∨
    a.pollsCompleted ≤ completion.poll ∧
      ∃ channel ∈ b.channels, channel.slot = completion.channel.slot

theorem polls_of_same (a b : ModbusComponent) (channels : b.channels = a.channels)
    (polls : b.pollsCompleted = a.pollsCompleted) (completed : b.completedPoll = a.completedPoll) :
    Polls a b where
  slots channel member := ⟨channel, channels ▸ member, rfl⟩
  more := polls.symm.le
  completed _ member := .inl (completed ▸ member)

theorem Polls.trans {a b c : ModbusComponent} (first : Polls a b) (second : Polls b c) :
    Polls a c where
  slots channel member := by
    obtain ⟨kept, among, slot⟩ := first.slots channel member
    obtain ⟨last, among', slot'⟩ := second.slots kept among
    exact ⟨last, among', slot'.trans slot⟩
  more := first.more.trans second.more
  completed completion member := by
    obtain early | ⟨late, has⟩ := second.completed completion member
    · obtain before | ⟨late, channel, among, slot⟩ := first.completed completion early
      · exact .inl before
      · obtain ⟨kept, among', slot'⟩ := second.slots channel among
        exact .inr ⟨late, kept, among', slot'.trans slot⟩
    · exact .inr ⟨first.more.trans late, has⟩

theorem Polls.next {a b c : ModbusComponent} (polls : Polls a b)
    (channels : c.channels = b.channels) (count : c.pollsCompleted = b.pollsCompleted)
    (completed : c.completedPoll = b.completedPoll) : Polls a c :=
  polls.trans (polls_of_same b c channels count completed)

theorem publishPollCompletion_polls (nowMs : UInt32) (channel : ChannelConfig)
    (values : Option (List DecodedScalar)) (c : ModbusComponent) (among : channel ∈ c.channels) :
    Polls c (c.publishPollCompletion nowMs channel values) where
  slots kept member := ⟨kept, member, rfl⟩
  more := Nat.le_succ _
  completed completion member := by
    obtain rfl := Option.some.inj member
    exact .inr ⟨le_rfl, channel, among, rfl⟩

theorem advancePollChannel_polls (c : ModbusComponent) : Polls c c.advancePollChannel := by
  unfold ModbusComponent.advancePollChannel
  split <;> exact polls_of_same _ _ rfl rfl rfl

theorem finishPollAttempt_polls (nowMs : UInt32) (channel : ChannelConfig)
    (values : Option (List DecodedScalar)) (c : ModbusComponent) (among : channel ∈ c.channels) :
    Polls c (c.finishPollAttempt nowMs channel values) := by
  have published (cached : PollCache) (values : Option (List DecodedScalar)) :
      Polls c { (c.setCache channel.slot cached).publishPollCompletion nowMs channel values with
        pollRetryCount := 0 } :=
    (publishPollCompletion_polls nowMs channel values c among).next rfl rfl rfl
  cases values with
  | some read => exact (published _ _).trans (advancePollChannel_polls _)
  | none =>
    simp only [ModbusComponent.finishPollAttempt]
    split
    · exact polls_of_same _ _ rfl rfl rfl
    · exact (published _ _).trans (advancePollChannel_polls _)

theorem pollChannel_polls (c : ModbusComponent) :
    Polls c c.pollChannel.1 ∧ ∀ channel ∈ c.pollChannel.2, channel ∈ c.pollChannel.1.channels :=
  ⟨polls_of_same _ _ rfl rfl rfl, fun _ member => List.mem_of_getElem? member⟩

theorem pollRawTransaction_polls (nowMs nowUs : UInt32) (c : ModbusComponent) :
    Polls c (c.pollRawTransaction nowMs nowUs) := by
  simp only [ModbusComponent.pollRawTransaction]
  split <;> exact polls_of_same _ _ rfl rfl rfl

theorem applySuccessfulWriteToCache_polls (nowMs : UInt32) (write : PendingWrite)
    (c : ModbusComponent) : Polls c (c.applySuccessfulWriteToCache nowMs write) := by
  simp only [ModbusComponent.applySuccessfulWriteToCache]
  split
  · exact polls_of_same _ _ rfl rfl rfl
  · split <;> exact polls_of_same _ _ rfl rfl rfl

theorem pollWriteTransaction_polls (nowMs : UInt32) (c : ModbusComponent) :
    Polls c (c.pollWriteTransaction nowMs) := by
  simp only [ModbusComponent.pollWriteTransaction]
  split
  · exact polls_of_same _ _ rfl rfl rfl
  · split
    · exact polls_of_same _ _ rfl rfl rfl
    · split
      · let polled : ModbusComponent :=
          { c with rtuMaster := (c.rtuMaster.pollWrite nowMs).master }
        have start : Polls c polled := polls_of_same _ _ rfl rfl rfl
        exact (start.trans (applySuccessfulWriteToCache_polls nowMs c.activeWrite polled)).next
          rfl rfl rfl
      · exact polls_of_same _ _ rfl rfl rfl

theorem pollReadTransaction_polls (nowMs : UInt32) (c : ModbusComponent) :
    Polls c (c.pollReadTransaction nowMs) := by
  simp only [ModbusComponent.pollReadTransaction]
  let polled : ModbusComponent := { c with rtuMaster := (c.rtuMaster.pollRead nowMs).master }
  have start : Polls c polled := polls_of_same _ _ rfl rfl rfl
  split
  · exact start
  · exact polls_of_same _ _ rfl rfl rfl
  · obtain ⟨chosen, among⟩ := pollChannel_polls polled
    split
    · exact start
    · rename_i d channel picked
      simp only [polled, picked] at chosen among
      have finished := fun values => finishPollAttempt_polls nowMs channel values d (among _ rfl)
      exact ((start.trans chosen).trans (finished _)).next rfl rfl rfl

theorem startTransaction_polls (nowMs : UInt32) (c : ModbusComponent) :
    Polls c (c.startTransaction nowMs) := by
  simp only [ModbusComponent.startTransaction]
  split
  · split <;> exact polls_of_same _ _ rfl rfl rfl
  split
  · exact polls_of_same _ _ rfl rfl rfl
  split
  · split <;> exact polls_of_same _ _ rfl rfl rfl
  split
  · exact polls_of_same _ _ rfl rfl rfl
  split
  · exact polls_of_same _ _ rfl rfl rfl
  obtain ⟨chosen, among⟩ := pollChannel_polls c
  split
  · exact polls_of_same _ _ rfl rfl rfl
  · rename_i d channel picked
    simp only [picked] at chosen among
    split
    · exact chosen.next rfl rfl rfl
    · let started : ModbusComponent :=
        { d with rtuMaster := (d.rtuMaster.startRead nowMs channel).1 }
      have sent : Polls c started := chosen.next rfl rfl rfl
      have finished := finishPollAttempt_polls nowMs channel none started (among _ rfl)
      exact (sent.trans finished).next rfl rfl rfl

theorem loop_polls (nowMs nowUs : UInt32) (c : ModbusComponent) :
    Polls c (c.loop nowMs nowUs) := by
  simp only [ModbusComponent.loop]
  split
  · exact polls_of_same _ _ rfl rfl rfl
  split
  · split
    · exact pollRawTransaction_polls nowMs nowUs c
    · exact pollWriteTransaction_polls nowMs c
    · exact pollReadTransaction_polls nowMs c
  · split
    · exact polls_of_same _ _ rfl rfl rfl
    · exact polls_of_same _ _ rfl rfl rfl
    · exact polls_of_same _ _ rfl rfl rfl
    · split
      · exact polls_of_same _ _ rfl rfl rfl
      · let seen : ModbusComponent :=
          { c with rtuMaster := (c.rtuMaster.pollPassiveFrame nowUs kMaxFrameLength).1 }
        have start : Polls c seen := polls_of_same _ _ rfl rfl rfl
        exact start.trans (startTransaction_polls nowMs seen)

theorem queueRawRequestInternal_polls (payload : Bytes) (origin : RawRequestOrigin)
    (c : ModbusComponent) : Polls c (c.queueRawRequestInternal payload origin).1 := by
  obtain refused | queued := ModbusComponent.queueRawRequestInternal_cases payload origin c
  · rw [refused]
    exact polls_of_same _ _ rfl rfl rfl
  · rw [queued]
    exact polls_of_same _ _ rfl rfl rfl

theorem queueRawRequest_polls (payload : Bytes) (c : ModbusComponent) :
    Polls c (c.queueRawRequest payload).1 := by
  obtain refused | queued := ModbusComponent.queueRawRequest_cases payload c
  · rw [refused]
    exact polls_of_same _ _ rfl rfl rfl
  · rw [queued]
    exact polls_of_same _ _ rfl rfl rfl

theorem writePoint_polls (slot registerIndex : UInt8) (scalar : DecodedScalar)
    (c : ModbusComponent) : Polls c (c.writePoint slot registerIndex scalar).1 := by
  obtain refused | ⟨channel, request, -, -, -, -, -, queued⟩ :=
    ModbusComponent.writePoint_cases slot registerIndex scalar c
  · rw [refused]
    exact polls_of_same _ _ rfl rfl rfl
  · rw [queued]
    exact polls_of_same _ _ rfl rfl rfl

theorem applySerialConfig_polls (nowMs : UInt32) (config : RtuSerialConfig)
    (c : ModbusComponent) : Polls c (c.applySerialConfig nowMs config).1 := by
  obtain ⟨rtuMaster, -, refused | taken⟩ :=
    ModbusComponent.applySerialConfig_cases nowMs config c
  · rw [refused]
    exact polls_of_same _ _ rfl rfl rfl
  · rw [taken]
    exact polls_of_same _ _ rfl rfl rfl

theorem applyRs485SerialSettings_polls (nowMs : UInt32) (settings : Rs485SerialSettings)
    (c : ModbusComponent) : Polls c (c.applyRs485SerialSettings nowMs settings).1 := by
  obtain refused | ⟨config, -, -, applied⟩ :=
    ModbusComponent.applyRs485SerialSettings_cases nowMs settings c
  · rw [refused]
    exact polls_of_same _ _ rfl rfl rfl
  · rw [applied]
    exact (applySerialConfig_polls nowMs config c).next rfl rfl rfl

theorem applyModbusMasterSettings_polls (nowMs : UInt32) (settings : ModbusMasterSettings)
    (c : ModbusComponent) : Polls c (c.applyModbusMasterSettings nowMs settings).1 := by
  obtain refused | ⟨config, -, -, -, applied⟩ :=
    ModbusComponent.applyModbusMasterSettings_cases nowMs settings c
  · rw [refused]
    exact polls_of_same _ _ rfl rfl rfl
  · rw [applied]
    exact (applySerialConfig_polls nowMs config c).next rfl rfl rfl

theorem replaceChannel_slots (config : ChannelConfig) (channels : List ChannelConfig) :
    ∀ channel ∈ channels,
      ∃ kept ∈ ModbusComponent.replaceChannel config channels, kept.slot = channel.slot := by
  induction channels with
  | nil => simp
  | cons current rest ih =>
    intro channel member
    unfold ModbusComponent.replaceChannel
    split
    · rename_i same
      obtain rfl | later := List.mem_cons.mp member
      · exact ⟨config, List.mem_cons_self, (eq_of_beq same).symm⟩
      · exact ⟨channel, List.mem_cons_of_mem _ later, rfl⟩
    · obtain rfl | later := List.mem_cons.mp member
      · exact ⟨channel, List.mem_cons_self, rfl⟩
      · obtain ⟨kept, among, slot⟩ := ih channel later
        exact ⟨kept, List.mem_cons_of_mem _ among, slot⟩

theorem cancelPendingTransaction_polls (c : ModbusComponent) :
    Polls c c.cancelPendingTransaction := by
  unfold ModbusComponent.cancelPendingTransaction
  split <;> exact polls_of_same _ _ rfl rfl rfl

theorem upsertChannel_polls (config : ChannelConfig) (c : ModbusComponent) :
    Polls c (c.upsertChannel config).1 := by
  simp only [ModbusComponent.upsertChannel]
  split
  · exact polls_of_same _ _ rfl rfl rfl
  · refine (cancelPendingTransaction_polls c).trans ?_
    exact
      { slots := replaceChannel_slots config c.cancelPendingTransaction.channels
        more := le_rfl
        completed := fun _ member => .inl member }

theorem upsertChannel_completedPoll (config : ChannelConfig) (c : ModbusComponent) :
    (c.upsertChannel config).1.completedPoll = c.completedPoll := by
  simp only [ModbusComponent.upsertChannel, ModbusComponent.cancelPendingTransaction]
  split
  · rfl
  · split <;> rfl

theorem removeChannel_polls (slot : UInt8) (c : ModbusComponent) :
    let removed := (c.removeChannel slot).1
    removed.pollsCompleted = c.pollsCompleted ∧
      ∀ completion ∈ removed.completedPoll, completion ∈ c.completedPoll ∧
        ((∃ channel ∈ c.channels, channel.slot = completion.channel.slot) →
          completion.channel.slot ≠ slot ∧
            ∃ channel ∈ removed.channels, channel.slot = completion.channel.slot) := by
  have cancelled : c.cancelPendingTransaction.pollsCompleted = c.pollsCompleted ∧
      c.cancelPendingTransaction.completedPoll = c.completedPoll ∧
      c.cancelPendingTransaction.channels = c.channels := by
    unfold ModbusComponent.cancelPendingTransaction
    split <;> exact ⟨rfl, rfl, rfl⟩
  obtain ⟨polls, completed, channels⟩ := cancelled
  simp only [ModbusComponent.removeChannel, ModbusComponent.clearPendingWrite, channels]
  split
  · refine ⟨polls, fun completion member => ?_⟩
    simp only [completed, Option.mem_def, Option.filter_eq_some_iff, bne_iff_ne] at member
    refine ⟨member.1, fun configured => ?_⟩
    obtain ⟨channel, among, same⟩ := configured
    refine ⟨member.2, channel, (List.mem_eraseP_of_neg ?_).mpr among, same⟩
    simpa [same] using member.2
  · rename_i absent
    refine ⟨polls, fun completion member => ⟨completed ▸ member, fun configured => ?_⟩⟩
    obtain ⟨channel, among, same⟩ := configured
    refine ⟨fun equal => absent ?_, channel, channels ▸ among, same⟩
    exact List.any_eq_true.mpr ⟨channel, among, by simp [same, equal]⟩

/-! The samples of the state. -/

/-- No sample or completed poll that is at hand is older than it may be, but for the samples
left behind in the history. -/
structure Fresh (first : UInt8 → Nat) (a : State) : Prop where
  reached : ∀ slot, first slot ≤ a.modbus.pollsCompleted
  completed : ∀ completion ∈ a.modbus.completedPoll,
    first completion.channel.slot ≤ completion.poll ∧
      ∃ channel ∈ a.modbus.channels, channel.slot = completion.channel.slot
  current : Usable [] first a.scheduler.samples
  report : Usable [] first a.scheduler.reportSamples
  history : Usable (leftBehind a.sampleLog) first a.history.samples

def FreshState (records : Bool) (a : State) : Prop :=
  ∃ first, (freshSamples records).replay a.sampleLog = some first ∧ Fresh first a

def leavesPoll : SampleEvent → Bool
  | .changed _ _ _ waiting => waiting
  | _ => false

def NoPollLeft (events : List SampleEvent) : Prop :=
  ∀ event ∈ events, leavesPoll event = false

structure Loses (a b : State) : Prop where
  log : b.sampleLog = a.sampleLog
  polls : Polls a.modbus b.modbus
  current : Fewer a.scheduler.samples b.scheduler.samples
  report : Fewer a.scheduler.reportSamples b.scheduler.reportSamples
  history : Fewer a.history.samples b.history.samples

theorem Fresh.loses {first : UInt8 → Nat} {a b : State} (fresh : Fresh first a)
    (loses : Loses a b) : Fresh first b where
  reached slot := (fresh.reached slot).trans loses.polls.more
  completed completion member := by
    obtain early | ⟨late, has⟩ := loses.polls.completed completion member
    · obtain ⟨new, channel, among, slot⟩ := fresh.completed completion early
      obtain ⟨kept, among', slot'⟩ := loses.polls.slots channel among
      exact ⟨new, kept, among', slot'.trans slot⟩
    · exact ⟨(fresh.reached _).trans late, has⟩
  current := fresh.current.fewer loses.current
  report := fresh.report.fewer loses.report
  history := by
    rw [loses.log]
    exact fresh.history.fewer loses.history

def KeepsFresh (records : Bool) (a b : State) : Prop :=
  ∃ events, b.sampleLog = a.sampleLog ++ events ∧
    (NoPollLeft events → FreshState records a → FreshState records b)

section
variable {records : Bool}

theorem KeepsFresh.loses {a b : State} (loses : Loses a b) : KeepsFresh records a b := by
  refine ⟨[], by rw [loses.log, List.append_nil], fun _ ⟨first, replayed, fresh⟩ => ?_⟩
  exact ⟨first, by rw [loses.log, replayed], fresh.loses loses⟩

theorem KeepsFresh.trans {a b c : State} (before : KeepsFresh records a b)
    (after : KeepsFresh records b c) : KeepsFresh records a c := by
  obtain ⟨early, log, kept⟩ := before
  obtain ⟨late, log', kept'⟩ := after
  refine ⟨early ++ late, by rw [log', log, List.append_assoc], fun none fresh => ?_⟩
  refine kept' (fun event member => none event (List.mem_append_right _ member)) ?_
  exact kept (fun event member => none event (List.mem_append_left _ member)) fresh

theorem keepsFresh_of_polls (a b : State) (log : b.sampleLog = a.sampleLog)
    (polls : Polls a.modbus b.modbus) (scheduler : b.scheduler = a.scheduler)
    (history : b.history.samples = a.history.samples) : KeepsFresh records a b :=
  .loses
    { log := log
      polls := polls
      current := by rw [scheduler]; exact .refl _
      report := by rw [scheduler]; exact .refl _
      history := by rw [history]; exact .refl _ }

theorem keepsFresh_of_same (a b : State) (log : b.sampleLog = a.sampleLog)
    (modbus : b.modbus = a.modbus) (scheduler : b.scheduler = a.scheduler)
    (history : b.history.samples = a.history.samples) : KeepsFresh records a b :=
  keepsFresh_of_polls a b log (by rw [modbus]; exact polls_of_same _ _ rfl rfl rfl) scheduler
    history

theorem keepsFresh_exchanges : KeptByExchanges (KeepsFresh records) where
  refl a := keepsFresh_of_same a a rfl rfl rfl rfl
  trans _ _ _ := .trans
  exchange _ _ a := keepsFresh_of_same a _ rfl rfl rfl rfl

def Uses (records : Bool) (first : UInt8 → Nat) : SampleEvent → Prop
  | .changed _ _ _ _ | .captured _ => False
  | .reported slot poll | .evaluated slot poll => first slot ≤ poll
  | .stored slot poll => records = true → first slot ≤ poll

theorem replay_used (events : List SampleEvent) (first : UInt8 → Nat) (behind : List UInt8)
    (used : ∀ event ∈ events, Uses records first event) :
    events.foldlM (freshSamples records).next first = some first ∧
      events.foldl leave behind = behind := by
  induction events with
  | nil => exact ⟨rfl, rfl⟩
  | cons event rest ih =>
    have others := ih fun later member => used later (List.mem_cons_of_mem _ member)
    have now := used event List.mem_cons_self
    have allowed : (freshSamples records).next first event = some first ∧
        leave behind event = behind := by
      cases event with
      | changed | captured => cases now
      | reported | stored | evaluated => exact ⟨if_pos now, rfl⟩
    rw [List.foldlM_cons, List.foldl_cons, allowed.1, allowed.2]
    exact others

theorem Fresh.used {first : UInt8 → Nat} {a : State} (fresh : Fresh first a)
    (replayed : (freshSamples records).replay a.sampleLog = some first)
    (events : List SampleEvent) (used : ∀ event ∈ events, Uses records first event) :
    (freshSamples records).replay (a.sampleLog ++ events) = some first ∧
      Fresh first { a with sampleLog := a.sampleLog ++ events } := by
  obtain ⟨allowed, same⟩ := replay_used events first (leftBehind a.sampleLog) used
  refine ⟨?_, { fresh with history := ?_ }⟩
  · rw [(freshSamples records).replay_append _ _ _ replayed]
    exact allowed
  · rw [leftBehind_append, same]
    exact fresh.history

theorem Fresh.changed {first : UInt8 → Nat} {a : State} (fresh : Fresh first a) (slot : UInt8)
    (polls : Nat) (inHistory waiting : Bool) (reached : polls ≤ a.modbus.pollsCompleted)
    (taken : ∀ completion ∈ a.modbus.completedPoll, completion.channel.slot ≠ slot)
    (current : slot < kCompatibilitySlotCount → a.scheduler.samples slot.toNat = none)
    (report : slot < kCompatibilitySlotCount → a.scheduler.reportSamples slot.toNat = none)
    (history : slot < kCompatibilitySlotCount → inHistory = false →
      a.history.samples slot.toNat = none) :
    Fresh (Function.update first slot polls)
      { a with sampleLog := a.sampleLog ++ [.changed slot polls inHistory waiting] } where
  reached other := by
    by_cases same : other = slot
    · rw [same, Function.update_self]
      exact reached
    · rw [Function.update_of_ne same]
      exact fresh.reached other
  completed completion member := by
    rw [Function.update_of_ne (taken completion member)]
    exact fresh.completed completion member
  current :=
    fresh.current.changed slot polls [] (fun _ _ before => before) fun inside _ => current inside
  report :=
    fresh.report.changed slot polls [] (fun _ _ before => before) fun inside _ => report inside
  history := by
    rw [leftBehind_append]
    simp only [List.foldl_cons, List.foldl_nil, leave]
    refine fresh.history.changed slot polls _ (fun other apart before => ?_) fun inside clean => ?_
    · split
      · exact List.mem_cons_of_mem slot before
      · simp [before, apart]
    · cases left : inHistory with
      | true => simp [left] at clean
      | false => exact history inside left

theorem sampleHeld_false (slot : UInt8) (samples : Nat → Option Sample)
    (none : sampleHeld slot samples = false) (inside : slot < kCompatibilitySlotCount) :
    samples slot.toNat = Option.none := by
  simpa [sampleHeld, inside] using none

/-- The event of a change, after which the samples are fresh if no poll is left behind. -/
theorem keepsFresh_changed (a b : State) (slot : UInt8) (waiting : Bool)
    (log : b.sampleLog = a.sampleLog) (history : b.history.samples = a.history.samples)
    (polls : a.modbus.pollsCompleted ≤ b.modbus.pollsCompleted)
    (kept : ∀ first, Fresh first a → waiting = false → Fresh first b ∧
      ∀ completion ∈ b.modbus.completedPoll, completion.channel.slot ≠ slot)
    (current : slot < kCompatibilitySlotCount → b.scheduler.samples slot.toNat = none)
    (report : slot < kCompatibilitySlotCount → b.scheduler.reportSamples slot.toNat = none) :
    KeepsFresh records a { b with
      sampleLog := b.sampleLog ++ [.changed slot a.modbus.pollsCompleted
        (sampleHeld slot a.history.samples) waiting] } := by
  let event : SampleEvent :=
    .changed slot a.modbus.pollsCompleted (sampleHeld slot a.history.samples) waiting
  refine ⟨[event], by rw [log], ?_⟩
  rintro none ⟨first, replayed, fresh⟩
  obtain ⟨still, taken⟩ := kept first fresh (none event List.mem_cons_self)
  refine ⟨Function.update first slot a.modbus.pollsCompleted, ?_, ?_⟩
  · rw [log]
    exact (freshSamples records).replay_snoc a.sampleLog event first replayed
  · refine still.changed slot a.modbus.pollsCompleted _ waiting polls taken current report ?_
    rw [history]
    exact fun inside clean => sampleHeld_false slot _ clean inside

theorem clearSlot_fewer (slot : UInt8) (s : ReportScheduler) :
    Fewer s.samples (s.clearSlot slot).samples ∧
      Fewer s.reportSamples (s.clearSlot slot).reportSamples := by
  unfold ReportScheduler.clearSlot
  split
  · exact ⟨.refl _, .refl _⟩
  · exact ⟨fewer_clear _ _, fewer_clear _ _⟩

theorem clearSlot_clears (slot : UInt8) (s : ReportScheduler)
    (inside : slot < kCompatibilitySlotCount) :
    (s.clearSlot slot).samples slot.toNat = none ∧
      (s.clearSlot slot).reportSamples slot.toNat = none := by
  have bound : ¬ slot ≥ kCompatibilitySlotCount := UInt8.not_le.mpr inside
  simp only [ReportScheduler.clearSlot, if_neg bound, Function.update_self, and_self]

theorem pollWaiting_false (slot : UInt8) (modbus : ModbusComponent)
    (none : pollWaiting slot modbus = false) (completion : PollCompletion)
    (member : completion ∈ modbus.completedPoll) : completion.channel.slot ≠ slot := by
  rw [pollWaiting, Option.mem_def.mp member] at none
  simpa using none

def withChannelParts (app : State) (parts : ChannelParts) : State :=
  { app with
    modbus := parts.modbus
    scheduler := parts.scheduler
    channels := parts.channels
    stores := parts.stores
    sampleLog := parts.sampleLog }

theorem upsert_keepsFresh (a : State) (channel : ChannelConfig) :
    KeepsFresh records a (withChannelParts a
      (applyModbusChannelCommand ⟨.upsert, channel⟩ (channelParts a)).1) := by
  unfold applyModbusChannelCommand channelParts
  dsimp only
  have upserted := upsertChannel_polls channel a.modbus
  split
  · exact keepsFresh_of_same _ _ rfl rfl rfl rfl
  split
  · exact keepsFresh_of_polls _ _ rfl upserted rfl rfl
  · obtain ⟨current, report⟩ := clearSlot_fewer channel.slot a.scheduler
    let b : State :=
      { a with
        modbus := (a.modbus.upsertChannel channel).1
        scheduler := a.scheduler.clearSlot channel.slot
        channels := (bindCompatibilityChannel channel a.channels).1
        stores := (a.stores.saveModbusChannel channel).1 }
    have loses : Loses a b := ⟨rfl, upserted, current, report, .refl _⟩
    split
    · exact .loses loses
    · refine keepsFresh_changed a b channel.slot _ rfl rfl upserted.more ?_
        (fun inside => (clearSlot_clears channel.slot a.scheduler inside).1)
        (fun inside => (clearSlot_clears channel.slot a.scheduler inside).2)
      intro first fresh clean
      refine ⟨fresh.loses loses, fun completion member => ?_⟩
      have waiting : completion ∈ a.modbus.completedPoll := by
        rwa [← upsertChannel_completedPoll channel a.modbus]
      exact pollWaiting_false _ _ clean completion waiting

theorem remove_keepsFresh (a : State) (channel : ChannelConfig) :
    KeepsFresh records a (withChannelParts a
      (applyModbusChannelCommand ⟨.remove, channel⟩ (channelParts a)).1) := by
  unfold applyModbusChannelCommand channelParts
  dsimp only
  split
  · exact keepsFresh_of_same _ _ rfl rfl rfl rfl
  · obtain ⟨polls, completed⟩ := removeChannel_polls channel.slot a.modbus
    obtain ⟨current, report⟩ := clearSlot_fewer channel.slot a.scheduler
    let b : State :=
      { a with
        modbus := (a.modbus.removeChannel channel.slot).1
        scheduler := a.scheduler.clearSlot channel.slot
        channels := a.channels.removeCompatibilitySlot channel.slot
        stores := (a.stores.removeModbusChannel channel.slot).1 }
    refine keepsFresh_changed a b channel.slot _ rfl rfl polls.symm.le ?_
      (fun inside => (clearSlot_clears channel.slot a.scheduler inside).1)
      (fun inside => (clearSlot_clears channel.slot a.scheduler inside).2)
    intro first fresh _
    refine ⟨?_, fun completion member => ?_⟩
    · exact
        { reached := fun slot => (fresh.reached slot).trans polls.symm.le
          completed := fun completion member => by
            obtain ⟨before, still⟩ := completed completion member
            obtain ⟨new, has⟩ := fresh.completed completion before
            exact ⟨new, (still has).2⟩
          current := fresh.current.fewer current
          report := fresh.report.fewer report
          history := fresh.history }
    · obtain ⟨before, still⟩ := completed completion member
      exact (still (fresh.completed completion before).2).1

theorem setName_keepsFresh (a : State) (channel : ChannelConfig) :
    KeepsFresh records a (withChannelParts a
      (applyModbusChannelCommand ⟨.setName, channel⟩ (channelParts a)).1) := by
  unfold applyModbusChannelCommand channelParts
  dsimp only
  split
  · exact keepsFresh_of_same _ _ rfl rfl rfl rfl
  split
  · exact keepsFresh_of_same _ _ rfl rfl rfl rfl
  split
  · exact keepsFresh_of_same _ _ rfl rfl rfl rfl
  · exact keepsFresh_of_polls _ _ rfl (upsertChannel_polls _ a.modbus) rfl rfl

/-! The other commands. -/

theorem applyModbusMasterSettingsCommand_loses (settings : ModbusMasterSettings) (nowMs : UInt32)
    (parts : MasterParts) :
    let after := (applyModbusMasterSettingsCommand settings nowMs parts).1
    Polls parts.modbus after.modbus ∧ Fewer parts.scheduler.samples after.scheduler.samples ∧
      Fewer parts.scheduler.reportSamples after.scheduler.reportSamples ∧
      Fewer parts.history.samples after.history.samples := by
  have cleared (slots : List UInt8) (s : ReportScheduler) :
      Fewer s.samples (slots.foldl (fun s slot => s.clearSlot slot) s).samples ∧
        Fewer s.reportSamples (slots.foldl (fun s slot => s.clearSlot slot) s).reportSamples :=
    foldl_respects
      (fun s rest : ReportScheduler =>
        Fewer s.samples rest.samples ∧ Fewer s.reportSamples rest.reportSamples)
      (fun s => ⟨.refl _, .refl _⟩)
      (fun _ _ _ first second => ⟨first.1.trans second.1, first.2.trans second.2⟩) _
      (fun s slot => clearSlot_fewer slot s) s slots
  have forgotten (slots : List UInt8) (samples : Nat → Option Sample) :
      Fewer samples (slots.foldl (fun s slot => Function.update s slot.toNat none) samples) :=
    foldl_respects Fewer .refl (fun _ _ _ => .trans) _
      (fun s slot => fewer_clear s slot.toNat) samples slots
  have applied := applyModbusMasterSettings_polls nowMs settings parts.modbus
  unfold applyModbusMasterSettingsCommand
  dsimp only
  split
  · exact ⟨polls_of_same _ _ rfl rfl rfl, .refl _, .refl _, .refl _⟩
  split
  · exact ⟨applied, .refl _, .refl _, .refl _⟩
  split
  · have restored := applyModbusMasterSettings_polls nowMs parts.modbus.masterSettings
      (parts.modbus.applyModbusMasterSettings nowMs settings).1
    exact ⟨applied.trans restored, .refl _, .refl _, .refl _⟩
  split
  · obtain ⟨current, report⟩ := cleared
      ((List.range kCompatibilitySlotCount.toNat).map UInt8.ofNat) parts.scheduler.abortReport
    exact ⟨applied, current, report, forgotten _ _⟩
  · exact ⟨applied, .refl _, .refl _, .refl _⟩

theorem applyReportIntervalCommand_samples (settings : ReportIntervalSettings) (clock : Clock)
    (scheduler : ReportScheduler) (history : HistoryLog) (stores : Stores) :
    let after := (applyReportIntervalCommand settings clock scheduler history stores).1
    after.1.samples = scheduler.samples ∧ after.1.reportSamples = scheduler.reportSamples ∧
      after.2.1.samples = history.samples := by
  have applied : (scheduler.applySettings settings clock.millis).1.samples = scheduler.samples ∧
      (scheduler.applySettings settings clock.millis).1.reportSamples =
        scheduler.reportSamples := by
    unfold ReportScheduler.applySettings
    split <;> exact ⟨rfl, rfl⟩
  unfold applyReportIntervalCommand
  dsimp only
  split
  · exact ⟨rfl, rfl, rfl⟩
  split
  · exact ⟨rfl, rfl, rfl⟩
  split
  · exact ⟨applied.1, applied.2, rfl⟩
  · exact ⟨applied.1, applied.2, rfl⟩

theorem applyRs485SettingsCommand_polls (settings : Rs485SerialSettings) (nowMs : UInt32)
    (modbus : ModbusComponent) (stores : Stores) :
    Polls modbus (applyRs485SettingsCommand settings nowMs modbus stores).1.1 := by
  have applied := applyRs485SerialSettings_polls nowMs settings modbus
  unfold applyRs485SettingsCommand
  dsimp only
  split
  · exact polls_of_same _ _ rfl rfl rfl
  split
  · exact applied
  split
  · exact applied
  · exact applied.trans (applyRs485SerialSettings_polls nowMs modbus.rs485Settings _)

theorem keepsFresh_kept : KeptByDownlinks (KeepsFresh records) where
  toKeptByExchanges := keepsFresh_exchanges
  command deliver respects a command := by
    cases command with
    | modbusChannel command =>
      obtain ⟨operation, channel⟩ := command
      cases operation with
      | upsert => exact upsert_keepsFresh a channel
      | remove => exact remove_keepsFresh a channel
      | setName => exact setName_keepsFresh a channel
    | modbusMasterSettings settings =>
      obtain ⟨polls, current, report, history⟩ :=
        applyModbusMasterSettingsCommand_loses settings a.clock.millis (masterParts a)
      exact .loses ⟨rfl, polls, current, report, history⟩
    | rs485Settings settings =>
      exact keepsFresh_of_polls _ _ rfl (applyRs485SettingsCommand_polls _ _ _ _) rfl rfl
    | reportInterval settings =>
      obtain ⟨current, report, history⟩ := applyReportIntervalCommand_samples settings
        a.clock a.scheduler a.history a.stores
      refine .loses ⟨rfl, polls_of_same _ _ rfl rfl rfl, ?_, ?_, ?_⟩
      · exact fun slot sample member => current ▸ member
      · exact fun slot sample member => report ▸ member
      · exact fun slot sample member => history ▸ member
    | historyQuery command =>
      exact applyHistoryQueryCommand_respects keepsFresh_exchanges deliver respects
        (fun b _ => keepsFresh_of_same b _ rfl rfl rfl rfl) command a
    | rs485SettingsEnquiry kind =>
      exact replyToRs485SettingsEnquiry_respects keepsFresh_exchanges deliver respects kind a
    | basicControl control => cases control <;> exact keepsFresh_of_same a _ rfl rfl rfl rfl
    | periodicReportEnquiry =>
      exact .loses ⟨rfl, polls_of_same _ _ rfl rfl rfl, .refl _, .refl _, .refl _⟩
    | _ => exact keepsFresh_of_same a _ rfl rfl rfl rfl
  serverMessage a _ := keepsFresh_of_same a _ rfl rfl rfl rfl
  rawRequest a payload :=
    keepsFresh_of_polls a _ rfl (queueRawRequest_polls payload a.modbus) rfl rfl

/-! The functions that use samples. -/

theorem recordPoll_usable (first : UInt8 → Nat) (channel : ChannelConfig) (success : Bool)
    (values : List DecodedScalar) (poll : Nat) (s : ReportScheduler)
    (usable : Usable [] first s.samples) (new : first channel.slot ≤ poll) :
    Usable [] first (s.recordPoll channel success values poll).samples ∧
      (s.recordPoll channel success values poll).reportSamples = s.reportSamples := by
  unfold ReportScheduler.recordPoll
  split
  · exact ⟨usable, rfl⟩
  · exact ⟨usable.update channel.slot _ new [] (fun _ _ before => before), rfl⟩

theorem noteEvaluated_append (completion : PollCompletion) (log : List SampleEvent) :
    ∃ events, noteEvaluated completion log = log ++ events ∧
      ∀ event ∈ events, event = .evaluated completion.channel.slot completion.poll := by
  unfold noteEvaluated
  split
  · exact ⟨_, rfl, fun event member => List.mem_singleton.mp member⟩
  · exact ⟨[], by simp, by simp⟩

/-- The sample of a new poll takes the place of one that was left behind. -/
theorem captured_usable (first : UInt8 → Nat) (completion : PollCompletion)
    (values : List DecodedScalar) (a : State)
    (usable : Usable (leftBehind a.sampleLog) first a.history.samples)
    (new : first completion.channel.slot ≤ completion.poll) :
    Usable (leftBehind (a.sampleLog ++ [.captured completion.channel.slot])) first
      (if completion.channel.slot < kCompatibilitySlotCount then
        { a.history with
          samples := Function.update a.history.samples completion.channel.slot.toNat
            (some ⟨completion.channel, completion.success, values, completion.poll⟩) }
      else a.history).samples := by
  rw [leftBehind_append]
  have elsewhere : ∀ other, other ≠ completion.channel.slot → other ∈ leftBehind a.sampleLog →
      other ∈ (leftBehind a.sampleLog).filter fun other => other != completion.channel.slot := by
    intro other apart before
    simp [before, apart]
  split
  · exact usable.update completion.channel.slot _ new _ elsewhere
  · rename_i outside
    intro other inside clean sample member
    have apart : other ≠ completion.channel.slot := by
      rintro rfl
      exact outside inside
    exact usable other inside (fun before => clean (elsewhere other apart before)) sample member

theorem captureModbusCompatibilitySample_keepsFresh (a : State) :
    KeepsFresh records a (captureModbusCompatibilitySample a) := by
  unfold captureModbusCompatibilitySample
  split
  · exact keepsFresh_of_same a a rfl rfl rfl rfl
  · rename_i modbus completion take
    have waiting : completion ∈ a.modbus.completedPoll := congrArg Prod.snd take
    obtain rfl : { a.modbus with completedPoll := none } = modbus := congrArg Prod.fst take
    obtain ⟨events, log, evaluated⟩ := noteEvaluated_append completion
      (a.sampleLog ++ [.captured completion.channel.slot])
    refine ⟨.captured completion.channel.slot :: events, by simp [log], ?_⟩
    rintro - ⟨first, replayed, fresh⟩
    obtain ⟨new, -⟩ := fresh.completed completion waiting
    have used : ∀ event ∈ events, Uses records first event := by
      intro event member
      rw [evaluated event member]
      exact new
    obtain ⟨current, report⟩ := recordPoll_usable first completion.channel completion.success
      completion.values completion.poll a.scheduler fresh.current new
    let captured : State :=
      { a with
        modbus := { a.modbus with completedPoll := none }
        rules := a.rules.evaluateChannelRules a.clock.millis completion
        sampleLog := a.sampleLog ++ [.captured completion.channel.slot]
        scheduler := a.scheduler.recordPoll completion.channel completion.success
          completion.values completion.poll
        history :=
          if completion.channel.slot < kCompatibilitySlotCount then
            { a.history with
              samples := Function.update a.history.samples completion.channel.slot.toNat
                (some ⟨completion.channel, completion.success,
                  if completion.success then completion.values else [], completion.poll⟩) }
          else a.history }
    have again : (freshSamples records).replay captured.sampleLog = some first :=
      (freshSamples records).replay_snoc a.sampleLog _ first replayed
    have still : Fresh first captured :=
      { reached := fresh.reached
        completed := fun _ member => by cases member
        current := current
        report := by
          simp only [captured, report]
          exact fresh.report
        history := captured_usable first completion _ a fresh.history new }
    obtain ⟨replayed', fresh'⟩ := still.used again events used
    refine ⟨first, ?_, ?_⟩
    · dsimp only
      rw [log]
      exact replayed'
    · dsimp only
      rw [log]
      exact fresh'

theorem snapshotRecords_from (unixNow : Int) (samples : Nat → Option Sample)
    (record : UInt8 × Nat × History.HistoricalRecord)
    (member : record ∈ snapshotRecords unixNow samples) :
    record.1 < kCompatibilitySlotCount ∧
      ∃ sample ∈ samples record.1.toNat, sample.poll = record.2.1 := by
  obtain ⟨slot, inside, found⟩ := List.mem_filterMap.mp member
  have bound : slot < kCompatibilitySlotCount.toNat := List.mem_range.mp inside
  have back : (UInt8.ofNat slot).toNat = slot := by
    rw [UInt8.toNat_ofNat']
    exact Nat.mod_eq_of_lt (bound.trans (UInt8.toNat_lt _))
  split at found
  · cases found
  · rename_i sample held
    split at found
    · cases found
    · obtain rfl := Option.some.inj found
      refine ⟨UInt8.lt_iff_toNat_lt.mpr (back.symm ▸ bound), sample, ?_, rfl⟩
      rw [back]
      exact held

def recordsDue (app : State) : Bool :=
  app.history.settings.storageEnabled &&
    WrapClock.reached app.clock.millis app.history.nextSnapshotAtMs && app.clock.unixNow > 0

/-- When records are stored, each slot with a sample in the history that a change has left
there has had a new poll taken since. -/
def NoSampleLeft (a : State) (c : Call) : Prop :=
  c = .historyStorage → recordsDue a = true →
    ∀ slot ∈ leftBehind a.sampleLog, sampleHeld slot a.history.samples = false

theorem processHistoryStorage_keepsFresh (a : State)
    (none : records = true → NoSampleLeft a .historyStorage) :
    KeepsFresh records a (processHistoryStorage a) := by
  unfold processHistoryStorage
  dsimp only
  split
  · exact keepsFresh_of_same _ _ rfl rfl rfl rfl
  rename_i enabled
  split
  · exact keepsFresh_of_same _ _ rfl rfl rfl rfl
  rename_i reached
  split
  · exact keepsFresh_of_same _ _ rfl rfl rfl rfl
  rename_i set
  split
  · exact keepsFresh_of_same _ _ rfl rfl rfl rfl
  split
  · exact keepsFresh_of_same _ _ rfl rfl rfl rfl
  · refine ⟨_, rfl, ?_⟩
    rintro - ⟨first, replayed, fresh⟩
    have due : recordsDue a = true := by
      simp only [Bool.not_eq_true', Bool.not_eq_false] at enabled reached
      simp [recordsDue, enabled, reached, not_le.mp set]
    let records' := snapshotRecords a.clock.unixNow a.history.samples
    have used : ∀ event ∈ records'.map fun record => SampleEvent.stored record.1 record.2.1,
        Uses records first event := by
      intro event member
      obtain ⟨record, stored, rfl⟩ := List.mem_map.mp member
      obtain ⟨inside, sample, held, poll⟩ := snapshotRecords_from _ _ record stored
      intro judged
      have clean : record.1 ∉ leftBehind a.sampleLog := by
        intro left
        have gone := none judged rfl due record.1 left
        rw [sampleHeld_false _ _ gone inside] at held
        cases held
      exact poll ▸ fresh.history record.1 inside clean sample held
    obtain ⟨again, still⟩ := fresh.used replayed _ used
    exact ⟨first, again, { still with }⟩

theorem fillPacket_slots (reportSamples : Nat → Option Sample) (remaining : Nat)
    (packet filled : ReportScheduler.Packet) (bound : Nat)
    (inside : ∀ slot ∈ packet.slots, slot < bound) (room : remaining ≤ bound - packet.scan)
    (done : ReportScheduler.fillPacket reportSamples remaining packet = .ok filled) :
    ∀ slot ∈ filled.slots, slot < bound := by
  induction remaining generalizing packet with
  | zero =>
    obtain rfl := Except.ok.inj done
    exact inside
  | succ remaining ih =>
    unfold ReportScheduler.fillPacket at done
    split at done
    · exact ih { packet with scan := packet.scan + 1 } inside (by dsimp only; omega) done
    · split at done
      · cases done
      · split at done
        · cases done
        split at done
        · split at done
          · cases done
          · obtain rfl := Except.ok.inj done
            exact inside
        · refine ih _ (fun slot member => ?_) (by dsimp only; omega) done
          obtain early | last := List.mem_append.mp member
          · exact inside slot early
          · rw [List.mem_singleton.mp last]
            omega

theorem preparePacket_samples (nowMs : UInt32) (capacity : Nat) (s : ReportScheduler) :
    let prepared := s.preparePacket nowMs capacity
    prepared.scheduler.samples = s.samples ∧
      (prepared.scheduler.reportSamples = s.reportSamples ∨
        prepared.scheduler.reportSamples = s.samples) ∧
      ∀ slot ∈ prepared.slots, slot < kCompatibilitySlotCount.toNat := by
  unfold ReportScheduler.preparePacket
  dsimp only
  split
  · exact ⟨rfl, .inl rfl, by simp⟩
  split
  · split <;> exact ⟨rfl, .inl rfl, by simp⟩
  split
  · exact ⟨rfl, .inl rfl, by simp⟩
  generalize begun : (if s.reportInProgress then s
    else
      { s with
        reportSamples := s.samples
        reportInProgress := true
        cursor := 0
        immediateReportRequested := false
        nextReportAtMs :=
          if WrapClock.reached nowMs s.nextReportAtMs then nowMs + s.intervalMs
          else s.nextReportAtMs }) = t
  have chosen : t.samples = s.samples ∧
      (t.reportSamples = s.reportSamples ∨ t.reportSamples = s.samples) := by
    rw [← begun]
    split
    · exact ⟨rfl, .inl rfl⟩
    · exact ⟨rfl, .inr rfl⟩
  split
  · exact ⟨chosen.1, chosen.2, by simp⟩
  · rename_i packet filled
    split
    · exact ⟨chosen.1, chosen.2, by simp⟩
    · refine ⟨chosen.1, chosen.2, ?_⟩
      exact fillPacket_slots t.reportSamples _ { scan := t.cursor } packet _ (by simp) le_rfl
        filled

theorem noteReported_append (first : UInt8 → Nat) (scheduler : ReportScheduler)
    (slots : List Nat) (log : List SampleEvent)
    (usable : Usable [] first scheduler.reportSamples)
    (inside : ∀ slot ∈ slots, slot < kCompatibilitySlotCount.toNat) :
    ∃ events, noteReported scheduler slots log = log ++ events ∧
      ∀ event ∈ events, Uses records first event := by
  refine ⟨_, rfl, fun event member => ?_⟩
  obtain ⟨slot, listed, found⟩ := List.mem_filterMap.mp member
  obtain ⟨sample, held, rfl⟩ := Option.map_eq_some_iff.mp found
  have bound := inside slot listed
  have back : (UInt8.ofNat slot).toNat = slot := by
    rw [UInt8.toNat_ofNat']
    exact Nat.mod_eq_of_lt (bound.trans (UInt8.toNat_lt _))
  refine usable (UInt8.ofNat slot) ?_ (by simp) sample ?_
  · exact UInt8.lt_iff_toNat_lt.mpr (back.symm ▸ bound)
  · rw [back]
    exact held

theorem processModbusCompatibilityReport_keepsFresh (deliver : Deliver State)
    (respects : Respects (KeepsFresh records) deliver) (a : State) :
    KeepsFresh records a (processModbusCompatibilityReport deliver a) := by
  obtain ⟨samples, report, inside⟩ :=
    preparePacket_samples a.clock.millis kCompatibilityReportPayloadLimit a.scheduler
  let prepared := a.scheduler.preparePacket a.clock.millis kCompatibilityReportPayloadLimit
  let b : State :=
    { a with
      scheduler := prepared.scheduler
      sampleLog := noteReported prepared.scheduler prepared.slots a.sampleLog }
  have built : KeepsFresh records a b := by
    refine ⟨_, rfl, ?_⟩
    rintro - ⟨first, replayed, fresh⟩
    have usable : Usable [] first prepared.scheduler.reportSamples := by
      obtain same | same := report
      · exact same ▸ fresh.report
      · exact same ▸ fresh.current
    obtain ⟨events, log, used⟩ := noteReported_append first prepared.scheduler prepared.slots
      a.sampleLog usable inside
    obtain ⟨replayed', fresh'⟩ := fresh.used replayed events used
    refine ⟨first, ?_, ?_⟩
    · simp only [b, log]
      exact replayed'
    · simp only [b, log]
      exact { fresh' with current := samples ▸ fresh.current, report := usable }
  have rescheduled (c : State) (scheduler : ReportScheduler)
      (samples : scheduler.samples = c.scheduler.samples)
      (report : scheduler.reportSamples = c.scheduler.reportSamples) :
      KeepsFresh records c { c with scheduler := scheduler } :=
    .loses ⟨rfl, polls_of_same _ _ rfl rfl rfl, fun _ _ member => samples ▸ member,
      fun _ _ member => report ▸ member, .refl _⟩
  unfold processModbusCompatibilityReport
  dsimp only
  split
  · exact keepsFresh_of_same a a rfl rfl rfl rfl
  split
  · exact built
  · exact built
  · exact built.trans (rescheduled b _ rfl rfl)
  · exact built.trans (rescheduled b _ rfl rfl)
  · split
    · exact built.trans (rescheduled b _ rfl rfl)
    · have sent := send_respects keepsFresh_exchanges deliver respects id
        keepsFresh_exchanges.refl kCompatibilityFPort prepared.payload b
      split
      · refine (built.trans sent).trans (rescheduled _ _ ?_ ?_)
        · unfold ReportScheduler.markPacketSent
          split <;> rfl
        · unfold ReportScheduler.markPacketSent
          split <;> rfl
      · refine (built.trans sent).trans (rescheduled _ _ ?_ ?_)
        · unfold ReportScheduler.markPacketFailed
          split <;> rfl
        · unfold ReportScheduler.markPacketFailed
          split <;> rfl

theorem processPassiveRs485Frame_keepsFresh (a : State) :
    KeepsFresh records a (processPassiveRs485Frame a) := by
  have taken : Polls a.modbus a.modbus.takePassiveFrame.1 := polls_of_same _ _ rfl rfl rfl
  unfold processPassiveRs485Frame
  split
  · exact keepsFresh_of_same a a rfl rfl rfl rfl
  · rename_i modbus frame take
    rw [take] at taken
    dsimp only
    split
    · exact keepsFresh_of_polls a _ rfl taken rfl rfl
    split
    · exact keepsFresh_of_polls a _ rfl taken rfl rfl
    split
    · exact keepsFresh_of_polls a _ rfl taken rfl rfl
    · exact keepsFresh_of_polls a _ rfl taken rfl rfl

theorem step_keepsFresh (depth : Nat) (a : State) (c : Call)
    (none : records = true → NoSampleLeft a c) : KeepsFresh records a (step depth a c) := by
  by_cases reporting : c = .compatibilityReport
  · subst reporting
    exact processModbusCompatibilityReport_keepsFresh _
      (deliverNested_respects keepsFresh_kept depth) a
  by_cases storing : c = .historyStorage
  · subst storing
    exact processHistoryStorage_keepsFresh a none
  refine step_respects keepsFresh_kept c (fun a b touches => ?_) depth a
  have polled {modbus : ModbusComponent} (polls : Polls a.modbus modbus) :
      KeepsFresh records a { a with modbus := modbus } := keepsFresh_of_polls a _ rfl polls rfl rfl
  cases touches with
  | report => exact absurd rfl reporting
  | receive => exact polled (polls_of_same _ _ rfl rfl rfl)
  | writePoint slot registerIndex scalar => exact polled (writePoint_polls _ _ _ _)
  | modbusLoop => exact polled (loop_polls _ _ _)
  | passiveFrame => exact processPassiveRs485Frame_keepsFresh a
  | captureSample => exact captureModbusCompatibilitySample_keepsFresh a
  | historyStorage => exact absurd rfl storing
  | rawCompletion => exact polled (polls_of_same _ _ rfl rfl rfl)
  | rawRequest payload => exact polled (queueRawRequestInternal_polls payload .rule a.modbus)
  | immediateReport =>
    exact .loses ⟨rfl, polls_of_same _ _ rfl rfl rfl, .refl _, .refl _, .refl _⟩
  | networkState =>
    obtain ⟨_, _, same⟩ := processHistoryNetworkState_changes a
    exact keepsFresh_of_same a _ (by rw [same]) (by rw [same]) (by rw [same]) (by rw [same])
  | _ => exact keepsFresh_of_same a _ rfl rfl rfl rfl

end

/-- No change in the call leaves a completed poll of its slot behind. -/
def NoPollLeftBehind (depth : Nat) (a : State) (c : Call) : Prop :=
  NoPollLeft ((step depth a c).sampleLog.drop a.sampleLog.length)

theorem freshState_run (records : Bool) (depth : Nat) (start : State) (calls : List Call)
    (fresh : start.sampleLog = []) (idle : start.modbus.completedPoll = none)
    (polls : Always (step depth) (NoPollLeftBehind depth) start calls)
    (samples : records = true → Always (step depth) NoSampleLeft start calls) :
    FreshState records (run (step depth) start calls) := by
  have begins : FreshState records start := by
    refine ⟨fun _ => 0, by rw [fresh]; rfl, ?_⟩
    exact
      { reached := fun _ => Nat.zero_le _
        completed := fun completion member => by rw [idle] at member; cases member
        current := fun _ _ _ _ _ => Nat.zero_le _
        report := fun _ _ _ _ _ => Nat.zero_le _
        history := fun _ _ _ _ _ => Nat.zero_le _ }
  refine invariant_run (step depth) (FreshState records)
    (fun a c => NoPollLeftBehind depth a c ∧ (records = true → NoSampleLeft a c))
    (fun a c fresh condition => ?_) start calls begins
    fun v member => ⟨polls v member, fun judged => samples judged v member⟩
  obtain ⟨events, log, kept⟩ := step_keepsFresh depth a c condition.2
  refine kept ?_ fresh
  have left := condition.1
  rwa [NoPollLeftBehind, log, List.drop_left] at left

/-- In every run where no change leaves a completed poll of its slot behind, no sample is
reported or evaluated that is older than the last change of its slot. If besides, whenever
records are stored, each sample that a change has left in the history has given way to a new
one, then no such sample is stored either. -/
theorem samples_fresh (depth : Nat) (start : State) (calls : List Call)
    (fresh : start.sampleLog = []) (idle : start.modbus.completedPoll = none)
    (polls : Always (step depth) (NoPollLeftBehind depth) start calls) :
    let log := (run (step depth) start calls).sampleLog
    (∃ first, (freshSamples false).replay log = some first) ∧
      (Always (step depth) NoSampleLeft start calls →
        ∃ first, (freshSamples true).replay log = some first) := by
  constructor
  · obtain ⟨first, replayed, -⟩ := freshState_run false depth start calls fresh idle polls
      fun judged => by cases judged
    exact ⟨first, replayed⟩
  · intro samples
    obtain ⟨first, replayed, -⟩ := freshState_run true depth start calls fresh idle polls
      fun _ => samples
    exact ⟨first, replayed⟩

/-- The master polls one channel once, gets no answer, and keeps the sample. -/
def polling : State :=
  { clock := { unixOffset := 1000 }
    modbus :=
      { mode := .master
        active := true
        masterSettings := { maxRetryTimes := 0 }
        rtuMaster := { started := true } }
    history := { settings := { storageEnabled := true } } }

def upsertChannelOne : Downlink :=
  ⟨kCompatibilityFPort, [0xff, 0xef, 0x01, 0x01, 0x01, 0x00, 0x00, 0x00, 0x01]⟩

def removeChannelOne : Downlink := ⟨kCompatibilityFPort, [0xff, 0xef, 0x00, 0x01]⟩

def pollCalls : List Call :=
  [.downlink upsertChannelOne, .modbusLoop, .elapse 1000000, .modbusLoop, .captureSample]

/-- The channel is removed when it has a sample, and polled anew when it is there again. -/
def changeCalls : List Call :=
  pollCalls ++ [.historyStorage, .downlink removeChannelOne, .elapse 600000000] ++ pollCalls ++
    [.elapse 1200000000, .historyStorage]

theorem changeCalls_polls : Always (step 1) (NoPollLeftBehind 1) polling changeCalls := by
  unfold Always NoPollLeftBehind NoPollLeft
  decide +kernel

theorem changeCalls_samples : Always (step 1) NoSampleLeft polling changeCalls := by
  have settled : ∀ v ∈ steps (step 1) polling changeCalls, recordsDue v.1 = true →
      ∀ slot ∈ leftBehind v.1.sampleLog, sampleHeld slot v.1.history.samples = false := by
    decide +kernel
  exact fun v member _ => settled v member

theorem samples_fresh_polled :
    (∃ first, (freshSamples false).replay (run (step 1) polling changeCalls).sampleLog =
      some first) ∧
    ∃ first, (freshSamples true).replay (run (step 1) polling changeCalls).sampleLog =
      some first := by
  obtain ⟨used, stored⟩ := samples_fresh 1 polling changeCalls rfl rfl changeCalls_polls
  exact ⟨used, stored changeCalls_samples⟩

/-- The history stores the sample of a channel that has been removed before. -/
theorem removed_channel_stored :
    (freshSamples true).replay (run (step 1) polling
      (pollCalls ++ [.downlink removeChannelOne, .historyStorage])).sampleLog = none := by
  decide +kernel

end Application
