import MultibusGateway.Modbus.Configuration
import MultibusGateway.Modbus.WriteBalance

/-! The transaction on the bus, as the master has it and as the component has it. The master
knows the request that it sent; the component knows by its flags whether a write or a raw
request is in flight, and by an index which channel is polled. The two agree in every state
that a master comes to. -/

namespace Modbus
open ByteString Execution

/-! What the operations of the master do to its transaction. -/

namespace ModbusRtuMaster

structure SameTransaction (m n : ModbusRtuMaster) : Prop where
  active : n.transactionActive = m.transactionActive
  kind : n.transactionKind = m.transactionKind
  channel : n.activeChannel = m.activeChannel
  index : n.activeValueIndex = m.activeValueIndex
  request : n.activeRequest = m.activeRequest

theorem SameTransaction.refl (m : ModbusRtuMaster) : SameTransaction m m := ⟨rfl, rfl, rfl, rfl, rfl⟩

theorem SameTransaction.trans {m n k : ModbusRtuMaster} (first : SameTransaction m n)
    (second : SameTransaction n k) : SameTransaction m k :=
  ⟨second.active.trans first.active, second.kind.trans first.kind,
    second.channel.trans first.channel, second.index.trans first.index,
    second.request.trans first.request⟩

structure Begun (kind : RtuTransactionKind) (channel : ChannelConfig) (valueIndex : UInt8)
    (request : Bytes) (m : ModbusRtuMaster) : Prop where
  active : m.transactionActive = true
  kind : m.transactionKind = kind
  channel : m.activeChannel = channel
  index : m.activeValueIndex = valueIndex
  request : m.activeRequest = request

theorem transmit_begun (nowMs : UInt32) (kind : RtuTransactionKind) (channel : ChannelConfig)
    (valueIndex : UInt8) (request : Bytes) (m : ModbusRtuMaster) :
    if (transmit nowMs kind channel valueIndex request m).2 then
      Begun kind channel valueIndex request (transmit nowMs kind channel valueIndex request m).1
    else SameTransaction m (transmit nowMs kind channel valueIndex request m).1 := by
  unfold transmit
  generalize m.port.drained.write = written
  obtain ⟨port, taken⟩ := written
  cases taken with
  | true => exact ⟨rfl, rfl, rfl, rfl, rfl⟩
  | false => exact ⟨rfl, rfl, rfl, rfl, rfl⟩

theorem startRead_begun (nowMs : UInt32) (channel : ChannelConfig) (m : ModbusRtuMaster) :
    if (m.startRead nowMs channel).2 then
      ∃ request, buildReadRequest channel 8 = .ok request ∧
        Begun .read channel 0 request (m.startRead nowMs channel).1
    else SameTransaction m (m.startRead nowMs channel).1 := by
  have cleared : SameTransaction m { m with lastExceptionCode := 0 } := ⟨rfl, rfl, rfl, rfl, rfl⟩
  unfold startRead
  dsimp only
  split
  · split <;> exact ⟨rfl, rfl, rfl, rfl, rfl⟩
  · cases built : buildReadRequest channel 8 with
    | error status => exact ⟨rfl, rfl, rfl, rfl, rfl⟩
    | ok request =>
      have sent := transmit_begun nowMs .read channel 0 request { m with lastExceptionCode := 0 }
      split at sent
      · rename_i taken
        rw [if_pos taken]
        exact ⟨request, rfl, sent⟩
      · rename_i refused
        rw [if_neg refused]
        exact cleared.trans sent

theorem startWrite_begun (nowMs : UInt32) (channel : ChannelConfig) (valueIndex : UInt8)
    (value : DecodedScalar) (m : ModbusRtuMaster) :
    if (m.startWrite nowMs channel valueIndex value).2 then
      ∃ request, buildWriteRequest channel valueIndex value 17 = .ok request ∧
        Begun .write channel valueIndex request (m.startWrite nowMs channel valueIndex value).1
    else SameTransaction m (m.startWrite nowMs channel valueIndex value).1 := by
  have cleared : SameTransaction m { m with lastExceptionCode := 0 } := ⟨rfl, rfl, rfl, rfl, rfl⟩
  unfold startWrite
  dsimp only
  split
  · split <;> exact ⟨rfl, rfl, rfl, rfl, rfl⟩
  · cases built : buildWriteRequest channel valueIndex value 17 with
    | error status => exact ⟨rfl, rfl, rfl, rfl, rfl⟩
    | ok request =>
      have sent := transmit_begun nowMs .write channel valueIndex request
        { m with lastExceptionCode := 0 }
      split at sent
      · rename_i taken
        rw [if_pos taken]
        exact ⟨request, rfl, sent⟩
      · rename_i refused
        rw [if_neg refused]
        exact cleared.trans sent

theorem startRaw_begun (nowMs : UInt32) (payload : Bytes) (m : ModbusRtuMaster) :
    if (m.startRaw nowMs payload).2 then
      Begun .raw m.activeChannel m.activeValueIndex payload (m.startRaw nowMs payload).1
    else SameTransaction m (m.startRaw nowMs payload).1 := by
  have cleared : SameTransaction m { m with lastExceptionCode := 0 } := ⟨rfl, rfl, rfl, rfl, rfl⟩
  unfold startRaw
  dsimp only
  split
  · split <;> exact ⟨rfl, rfl, rfl, rfl, rfl⟩
  · have sent := transmit_begun nowMs .raw m.activeChannel m.activeValueIndex payload
      { m with lastExceptionCode := 0 }
    split at sent
    · rename_i taken
      rw [if_pos taken]
      exact sent
    · rename_i refused
      rw [if_neg refused]
      exact cleared.trans sent

def Collected {α : Type} (finish : ModbusRtuMaster → Polled α) (nothing : α)
    (m : ModbusRtuMaster) : ModbusRtuMaster × Option (Polled α) → Prop
  | (n, none) => SameTransaction m n
  | (_, some polled) =>
    (∃ n, SameTransaction m n ∧ polled = finish n) ∨
      ∃ n, polled = ⟨finishFailure .bufferTooSmall n, .failure, nothing⟩

theorem Collected.mono {α : Type} {finish : ModbusRtuMaster → Polled α} {nothing : α}
    {m n : ModbusRtuMaster} {collected : ModbusRtuMaster × Option (Polled α)}
    (same : SameTransaction m n) (later : Collected finish nothing n collected) :
    Collected finish nothing m collected := by
  obtain ⟨k, polled⟩ := collected
  cases polled with
  | none => exact same.trans later
  | some polled =>
    obtain ⟨l, after, done⟩ | failed := later
    · exact .inl ⟨l, same.trans after, done⟩
    · exact .inr failed

theorem collect_transaction {α : Type} (expectedLength : Bytes → Nat → Nat)
    (finish : ModbusRtuMaster → Polled α) (nothing : α) (input : Bytes) (m : ModbusRtuMaster) :
    Collected finish nothing m (collect expectedLength finish nothing input m) := by
  induction input generalizing m with
  | nil => exact ⟨rfl, rfl, rfl, rfl, rfl⟩
  | cons b rest ih =>
    unfold collect
    dsimp only
    split
    · exact Or.inr ⟨_, rfl⟩
    · split
      · exact Or.inr ⟨_, rfl⟩
      · split
        · refine Or.inl ⟨_, ?_, rfl⟩
          exact ⟨rfl, rfl, rfl, rfl, rfl⟩
        · refine Collected.mono ?_ (ih _)
          exact ⟨rfl, rfl, rfl, rfl, rfl⟩

/-- A poll of a transaction of its own kind goes on with it or ends it. -/
theorem pollCollecting_cases {α : Type} (kind : RtuTransactionKind)
    (expectedLength : Bytes → Nat → Nat) (finish : ModbusRtuMaster → Polled α) (nothing : α)
    (nowMs : UInt32) (m : ModbusRtuMaster) (active : m.transactionActive = true)
    (own : m.transactionKind = kind) :
    (∃ n, SameTransaction m n ∧
        pollCollecting kind expectedLength finish nothing nowMs m = ⟨n, .pending, nothing⟩) ∨
      (∃ n, SameTransaction m n ∧
        pollCollecting kind expectedLength finish nothing nowMs m = finish n) ∨
      ∃ n status, pollCollecting kind expectedLength finish nothing nowMs m =
        ⟨finishFailure status n, .failure, nothing⟩ := by
  have collected := collect_transaction expectedLength finish nothing m.port.input m
  unfold pollCollecting
  rw [if_neg (by simp [active]), if_neg (by simp [own])]
  generalize collect expectedLength finish nothing m.port.input m = collect at collected ⊢
  obtain ⟨n, polled⟩ := collect
  cases polled with
  | some polled =>
    obtain ⟨k, same, done⟩ | ⟨k, failed⟩ := collected
    · exact .inr (.inl ⟨k, same, done⟩)
    · exact .inr (.inr ⟨k, _, failed⟩)
  | none =>
    dsimp only
    split
    · split
      · exact .inr (.inr ⟨n, _, rfl⟩)
      · exact .inr (.inl ⟨n, collected, rfl⟩)
    · exact .inl ⟨n, collected, rfl⟩

structure Over {α : Type} (polled : Polled α) : Prop where
  inactive : polled.master.transactionActive = false
  ended : polled.result = .success ∨ polled.result = .failure

theorem Over.apart {α : Type} {polled : Polled α} (ended : Over polled) :
    polled.result ≠ .pending ∧ polled.result ≠ .idle := by
  obtain success | failure := ended.ended
  · simp [success]
  · simp [failure]

theorem finishDecode_over (m : ModbusRtuMaster) :
    Over m.finishDecode ∧ (m.finishDecode.result = .success →
      decodeReadResponse m.activeChannel m.response = .ok m.finishDecode.data) := by
  unfold finishDecode
  cases decodeReadResponse m.activeChannel m.response with
  | ok values => exact ⟨⟨rfl, .inl rfl⟩, fun _ => rfl⟩
  | error failure => exact ⟨⟨rfl, .inr rfl⟩, fun success => by cases success⟩

theorem finishWriteDecode_over (m : ModbusRtuMaster) : Over m.finishWriteDecode := by
  unfold finishWriteDecode
  split
  · exact ⟨rfl, .inl rfl⟩
  · exact ⟨rfl, .inr rfl⟩

theorem pollRead_cases (nowMs : UInt32) (m : ModbusRtuMaster) (active : m.transactionActive = true)
    (read : m.transactionKind = .read) :
    ((m.pollRead nowMs).result = .pending ∧ SameTransaction m (m.pollRead nowMs).master) ∨
      (Over (m.pollRead nowMs) ∧ ((m.pollRead nowMs).result = .success →
        ∃ response, decodeReadResponse m.activeChannel response = .ok (m.pollRead nowMs).data)) := by
  obtain ⟨n, same, polled⟩ | ⟨n, same, polled⟩ | ⟨n, status, polled⟩ :=
    pollCollecting_cases .read expectedReadLength finishDecode [] nowMs m active read
  · rw [pollRead, polled]
    exact .inl ⟨rfl, same⟩
  · rw [pollRead, polled]
    obtain ⟨ended, decoded⟩ := finishDecode_over n
    exact .inr ⟨ended, fun success => ⟨n.response, same.channel ▸ decoded success⟩⟩
  · rw [pollRead, polled]
    exact .inr ⟨⟨rfl, .inr rfl⟩, fun success => by cases success⟩

theorem pollWrite_cases (nowMs : UInt32) (m : ModbusRtuMaster)
    (active : m.transactionActive = true) (write : m.transactionKind = .write) :
    ((m.pollWrite nowMs).result = .pending ∧ SameTransaction m (m.pollWrite nowMs).master) ∨
      Over (m.pollWrite nowMs) := by
  obtain ⟨n, same, polled⟩ | ⟨n, same, polled⟩ | ⟨n, status, polled⟩ :=
    pollCollecting_cases .write expectedWriteLength finishWriteDecode () nowMs m active write
  · rw [pollWrite, polled]
    exact .inl ⟨rfl, same⟩
  · rw [pollWrite, polled]
    exact .inr (finishWriteDecode_over n)
  · rw [pollWrite, polled]
    exact .inr ⟨rfl, .inr rfl⟩

theorem collectRaw_transaction (nowUs : UInt32) (input : Bytes) (m : ModbusRtuMaster) :
    SameTransaction m (collectRaw nowUs input m).1 := by
  induction input generalizing m with
  | nil => exact ⟨rfl, rfl, rfl, rfl, rfl⟩
  | cons b rest ih =>
    unfold collectRaw
    dsimp only
    split
    · exact ⟨rfl, rfl, rfl, rfl, rfl⟩
    · refine SameTransaction.trans ?_ (ih _)
      exact ⟨rfl, rfl, rfl, rfl, rfl⟩

theorem pollRaw_cases (nowMs nowUs : UInt32) (capacity : Nat) (m : ModbusRtuMaster)
    (active : m.transactionActive = true) (raw : m.transactionKind = .raw) :
    ((m.pollRaw nowMs nowUs capacity).result = .pending ∧
        SameTransaction m (m.pollRaw nowMs nowUs capacity).master) ∨
      Over (m.pollRaw nowMs nowUs capacity) := by
  have collected := collectRaw_transaction nowUs m.port.input m
  unfold pollRaw
  rw [if_neg (by simp [active]), if_neg (by simp [raw])]
  generalize collectRaw nowUs m.port.input m = collect at collected ⊢
  obtain ⟨n, fits⟩ := collect
  cases fits with
  | false => exact .inr ⟨rfl, .inr rfl⟩
  | true =>
    dsimp only
    split
    · exact .inl ⟨rfl, collected⟩
    · split
      · exact .inr ⟨rfl, .inr rfl⟩
      · split
        · exact .inr ⟨rfl, .inr rfl⟩
        · exact .inr ⟨rfl, .inl rfl⟩

theorem pollPassiveFrame_transaction (nowUs : UInt32) (capacity : Nat) (m : ModbusRtuMaster) :
    SameTransaction m (m.pollPassiveFrame nowUs capacity).1 := by
  unfold pollPassiveFrame
  split <;> exact ⟨rfl, rfl, rfl, rfl, rfl⟩

theorem cancelTransaction_inactive (m : ModbusRtuMaster) :
    m.cancelTransaction.transactionActive = false := by
  unfold cancelTransaction
  dsimp only
  split <;> rfl

theorem reconfigure_inactive (config : RtuSerialConfig) (m : ModbusRtuMaster) :
    (m.reconfigure config).1.transactionActive = false := by
  have cancelled := cancelTransaction_inactive m
  unfold reconfigure begin
  dsimp only
  split <;> exact cancelled

end ModbusRtuMaster

def UpToName (channel other : ChannelConfig) : Prop := { channel with name := other.name } = other

theorem UpToName.refl (channel : ChannelConfig) : UpToName channel channel := rfl

theorem UpToName.trans {a b c : ChannelConfig} (first : UpToName a b) (second : UpToName b c) :
    UpToName a c := by
  unfold UpToName at first second ⊢
  rw [← second, ← first]

theorem setChannelName_upToName (current : ChannelConfig) (name : Bytes) (renamed : ChannelConfig)
    (named : setChannelName current name = some renamed) :
    renamed.slot = current.slot ∧ UpToName renamed current := by
  unfold setChannelName at named
  split at named
  · cases named
  · obtain rfl := Option.some.inj named
    exact ⟨rfl, rfl⟩

def Configured (channel : ChannelConfig) (channels : List ChannelConfig) : Prop :=
  ∃ other ∈ channels, UpToName other channel

namespace ModbusComponent
open ModbusRtuMaster

def setMode (mode : ModbusMode) (c : ModbusComponent) : ModbusComponent :=
  { c with mode := mode, active := false }

def setRtuSerialConfig (config : RtuSerialConfig) (c : ModbusComponent) : ModbusComponent :=
  { c with serialConfig := config }

def begin (nowMs : UInt32) (c : ModbusComponent) : ModbusComponent × Bool :=
  match c.mode with
  | .master =>
    let (rtuMaster, ready) := c.rtuMaster.begin c.serialConfig
    let c := { c with rtuMaster := rtuMaster }
    if !ready then (c, false) else ({ c with active := true, nextPollAtMs := nowMs }, true)
  | .slave => ({ c with active := true }, true)
  | .disabled => (c, true)

/-- The name of a channel is changed in its place, whatever is on the bus. -/
def setChannelName (slot : UInt8) (name : Bytes) (c : ModbusComponent) : ModbusComponent × Bool :=
  match (c.channelForSlot slot).bind fun channel => Modbus.setChannelName channel name with
  | none => (c, false)
  | some renamed => ({ c with channels := replaceChannel renamed c.channels }, true)

end ModbusComponent

/-- A call of the component, or what the bus makes of it. -/
inductive ComponentCall where
  | setRtuSerialConfig (config : RtuSerialConfig)
  | begin (nowMs : UInt32)
  | setChannelName (slot : UInt8) (name : Bytes)
  | operation (operation : WriteOperation)

def ComponentCall.writesPoint : ComponentCall → Bool
  | .operation (.writePoint _ _ _) => true
  | _ => false

namespace ModbusComponent
open ModbusRtuMaster

def call (c : ModbusComponent) : ComponentCall → ModbusComponent
  | .setRtuSerialConfig config => c.setRtuSerialConfig config
  | .begin nowMs => (c.begin nowMs).1
  | .setChannelName slot name => (c.setChannelName slot name).1
  | .operation operation => (WriteLedger.step ⟨c, 0⟩ operation).component

def ReadsPolled (c : ModbusComponent) : Prop :=
  (∃ channel, c.channels[c.pollChannelIndex]? = some channel ∧
    UpToName channel c.rtuMaster.activeChannel) ∧
  buildReadRequest c.rtuMaster.activeChannel 8 = .ok c.rtuMaster.activeRequest

/-- The flags and the index of the component are those of the transaction of its master. -/
structure Booked (c : ModbusComponent) : Prop where
  known : c.rtuMaster.transactionActive = true → c.rtuMaster.transactionKind ≠ .none
  write : c.rtuMaster.transactionActive = true ∧ c.rtuMaster.transactionKind = .write ↔
    c.writeInFlight = true
  raw : c.rtuMaster.transactionActive = true ∧ c.rtuMaster.transactionKind = .raw ↔
    c.rawInFlight = true
  read : c.rtuMaster.transactionActive = true → c.rtuMaster.transactionKind = .read →
    c.ReadsPolled
  resting : ¬ (c.mode = .master ∧ c.active = true) → c.rtuMaster.transactionActive = false

/-- A completion that is published pairs its values with the channel of the request that was
sent; where none was sent it has no values. -/
def PairedPoll (c d : ModbusComponent) : Prop :=
  d.pollsCompleted ≠ c.pollsCompleted → ∃ completion, d.completedPoll = some completion ∧
    (completion.success = false → completion.values = []) ∧
    if c.rtuMaster.transactionActive then
      c.rtuMaster.transactionKind = .read ∧
      UpToName completion.channel c.rtuMaster.activeChannel ∧
      (completion.success = true → ∃ response,
        decodeReadResponse c.rtuMaster.activeChannel response = .ok completion.values)
    else completion.success = false

/-! The invariant. -/

theorem Booked.idle {c : ModbusComponent} (inactive : c.rtuMaster.transactionActive = false)
    (write : c.writeInFlight = false) (raw : c.rawInFlight = false) : Booked c := by
  constructor <;> simp [inactive, write, raw]

theorem Booked.landed {c : ModbusComponent} (booked : Booked c)
    (inactive : c.rtuMaster.transactionActive = false) :
    c.writeInFlight = false ∧ c.rawInFlight = false := by
  have write := booked.write
  have raw := booked.raw
  simp only [inactive, Bool.false_eq_true, false_and, false_iff, Bool.not_eq_true] at write raw
  exact ⟨write, raw⟩

theorem Booked.reads {c : ModbusComponent} (booked : Booked c)
    (active : c.rtuMaster.transactionActive = true) (other : c.rtuMaster.transactionKind ≠ .raw)
    (reads : c.rtuMaster.transactionKind ≠ .write) : c.rtuMaster.transactionKind = .read := by
  have known := booked.known active
  cases kind : c.rtuMaster.transactionKind with
  | none => exact absurd kind known
  | read => rfl
  | write => exact absurd kind reads
  | raw => exact absurd kind other

theorem Booked.same {c d : ModbusComponent} (booked : Booked c)
    (transaction : SameTransaction c.rtuMaster d.rtuMaster)
    (write : d.writeInFlight = c.writeInFlight) (raw : d.rawInFlight = c.rawInFlight)
    (channels : d.channels = c.channels) (index : d.pollChannelIndex = c.pollChannelIndex)
    (running : d.mode = c.mode ∧ d.active = c.active) : Booked d where
  known := by
    rw [transaction.active, transaction.kind]
    exact booked.known
  write := by
    rw [transaction.active, transaction.kind, write]
    exact booked.write
  raw := by
    rw [transaction.active, transaction.kind, raw]
    exact booked.raw
  read := by
    unfold ReadsPolled
    rw [transaction.active, transaction.kind, transaction.channel, transaction.request, channels,
      index]
    exact booked.read
  resting := by
    rw [transaction.active, running.1, running.2]
    exact booked.resting

theorem setCache_same (slot : UInt8) (cached : PollCache) (c : ModbusComponent) :
    (c.setCache slot cached).cache slot.toNat = cached := Function.update_self ..

theorem setCache_other (slot : UInt8) (cached : PollCache) (c : ModbusComponent) (other : Nat)
    (apart : other ≠ slot.toNat) : (c.setCache slot cached).cache other = c.cache other :=
  Function.update_of_ne apart ..

structure SameFlights (c d : ModbusComponent) : Prop where
  master : d.rtuMaster = c.rtuMaster
  write : d.writeInFlight = c.writeInFlight
  raw : d.rawInFlight = c.rawInFlight
  pending : d.pendingWrite = c.pendingWrite

theorem finishPollAttempt_flights (nowMs : UInt32) (channel : ChannelConfig)
    (values : Option (List DecodedScalar)) (c : ModbusComponent) :
    SameFlights c (finishPollAttempt nowMs channel values c) := by
  obtain ⟨_, _, _, _, _, same⟩ := finishPollAttempt_changes nowMs channel values c
  rw [same]
  exact ⟨rfl, rfl, rfl, rfl⟩

theorem finishPollAttempt_published (nowMs : UInt32) (channel : ChannelConfig)
    (values : Option (List DecodedScalar)) (c : ModbusComponent) :
    (finishPollAttempt nowMs channel values c).pollsCompleted = c.pollsCompleted ∨
      ∃ completion, (finishPollAttempt nowMs channel values c).completedPoll = some completion ∧
        completion.channel = channel ∧ completion.success = values.isSome ∧
        completion.values = values.getD [] := by
  unfold finishPollAttempt advancePollChannel
  cases values with
  | some read => dsimp only; split <;> exact .inr ⟨_, rfl, rfl, rfl, rfl⟩
  | none =>
    dsimp only
    split
    · exact .inl rfl
    · split <;> exact .inr ⟨_, rfl, rfl, rfl, rfl⟩

theorem applySuccessfulWriteToCache_flights (nowMs : UInt32) (write : PendingWrite)
    (c : ModbusComponent) :
    SameFlights c (applySuccessfulWriteToCache nowMs write c) ∧
      (applySuccessfulWriteToCache nowMs write c).pollsCompleted = c.pollsCompleted := by
  obtain ⟨_, same⟩ := applySuccessfulWriteToCache_changes nowMs write c
  rw [same]
  exact ⟨⟨rfl, rfl, rfl, rfl⟩, rfl⟩

theorem booked_pollRawTransaction (nowMs nowUs : UInt32) (c : ModbusComponent) (booked : Booked c)
    (active : c.rtuMaster.transactionActive = true) (raw : c.rtuMaster.transactionKind = .raw) :
    Booked (pollRawTransaction nowMs nowUs c) ∧
      PairedPoll c (pollRawTransaction nowMs nowUs c) := by
  have write : c.writeInFlight = false := by
    rw [← Bool.not_eq_true, ← booked.write, raw]
    simp
  unfold pollRawTransaction
  dsimp only
  obtain ⟨pending, same⟩ | ended := pollRaw_cases nowMs nowUs kMaxFrameLength c.rtuMaster active raw
  · rw [if_pos pending]
    refine ⟨?_, fun published => absurd rfl published⟩
    exact booked.same same rfl rfl rfl rfl ⟨rfl, rfl⟩
  · rw [if_neg ended.apart.1]
    exact ⟨Booked.idle ended.inactive write rfl, fun published => absurd rfl published⟩

theorem booked_pollWriteTransaction (nowMs : UInt32) (c : ModbusComponent) (booked : Booked c)
    (active : c.rtuMaster.transactionActive = true) (write : c.rtuMaster.transactionKind = .write) :
    Booked (pollWriteTransaction nowMs c) ∧ PairedPoll c (pollWriteTransaction nowMs c) := by
  have flying : c.writeInFlight = true := booked.write.mp ⟨active, write⟩
  have raw : c.rawInFlight = false := by
    rw [← Bool.not_eq_true, ← booked.raw, write]
    simp
  unfold pollWriteTransaction
  dsimp only
  obtain ⟨pending, same⟩ | ended := pollWrite_cases nowMs c.rtuMaster active write
  · rw [if_pos pending]
    refine ⟨?_, fun published => absurd rfl published⟩
    exact booked.same same rfl rfl rfl rfl ⟨rfl, rfl⟩
  · rw [if_neg ended.apart.1, if_neg (by simp [flying])]
    split
    · obtain ⟨kept, count⟩ := applySuccessfulWriteToCache_flights nowMs c.activeWrite
        { c with rtuMaster := (c.rtuMaster.pollWrite nowMs).master }
      exact ⟨Booked.idle ((congrArg _ kept.master).trans ended.inactive) rfl (kept.raw.trans raw),
        fun published => absurd count published⟩
    · exact ⟨Booked.idle ended.inactive rfl raw, fun published => absurd rfl published⟩

theorem pollChannel_current (c : ModbusComponent) (channel : ChannelConfig)
    (current : c.channels[c.pollChannelIndex]? = some channel) :
    c.pollChannel = (c, some channel) := by
  obtain ⟨inside, -⟩ := List.getElem?_eq_some_iff.mp current
  have same : (if c.pollChannelIndex ≥ c.channels.length then 0 else c.pollChannelIndex) =
      c.pollChannelIndex := if_neg (Nat.not_le.mpr inside)
  unfold pollChannel
  dsimp only
  rw [same, current]

theorem pollReadTransaction_cases (nowMs : UInt32) (c : ModbusComponent) (channel : ChannelConfig)
    (current : c.channels[c.pollChannelIndex]? = some channel)
    (active : c.rtuMaster.transactionActive = true) (read : c.rtuMaster.transactionKind = .read) :
    (∃ master, SameTransaction c.rtuMaster master ∧
        pollReadTransaction nowMs c = { c with rtuMaster := master }) ∨
      ∃ master values, master.transactionActive = false ∧
        (∀ read ∈ values, ∃ response,
          decodeReadResponse c.rtuMaster.activeChannel response = .ok read) ∧
        pollReadTransaction nowMs c =
          { finishPollAttempt nowMs channel values { c with rtuMaster := master } with
            nextPollAtMs := nowMs + c.masterSettings.executionIntervalMs.toUInt32 } := by
  have turn := fun master => pollChannel_current { c with rtuMaster := master } channel current
  obtain ⟨pending, same⟩ | ⟨ended, decoded⟩ := pollRead_cases nowMs c.rtuMaster active read
  · refine .inl ⟨_, same, ?_⟩
    simp only [pollReadTransaction, pending]
  · refine .inr ⟨(c.rtuMaster.pollRead nowMs).master,
      if (c.rtuMaster.pollRead nowMs).result = .success
        then some (c.rtuMaster.pollRead nowMs).data else none, ended.inactive, ?_, ?_⟩
    · intro read member
      split at member
      · rename_i success
        obtain rfl := Option.some.inj member
        exact decoded success
      · cases member
    · simp only [pollReadTransaction]
      split
      · rename_i pending
        exact absurd pending ended.apart.1
      · rename_i idle
        exact absurd idle ended.apart.2
      · rw [turn]

theorem booked_pollReadTransaction (nowMs : UInt32) (c : ModbusComponent) (booked : Booked c)
    (active : c.rtuMaster.transactionActive = true) (read : c.rtuMaster.transactionKind = .read) :
    Booked (pollReadTransaction nowMs c) ∧ PairedPoll c (pollReadTransaction nowMs c) := by
  obtain ⟨⟨channel, current, alike⟩, -⟩ := booked.read active read
  obtain ⟨master, same, polled⟩ | ⟨master, values, inactive, decoded, polled⟩ :=
    pollReadTransaction_cases nowMs c channel current active read
  · rw [polled]
    exact ⟨booked.same same rfl rfl rfl rfl ⟨rfl, rfl⟩, fun published => absurd rfl published⟩
  · have kept := finishPollAttempt_flights nowMs channel values { c with rtuMaster := master }
    have write : c.writeInFlight = false := by
      rw [← Bool.not_eq_true, ← booked.write, read]
      simp
    have raw : c.rawInFlight = false := by
      rw [← Bool.not_eq_true, ← booked.raw, read]
      simp
    rw [polled]
    refine ⟨Booked.idle ((congrArg _ kept.master).trans inactive) (kept.write.trans write)
      (kept.raw.trans raw), fun published => ?_⟩
    obtain untouched | ⟨completion, completed, own, success, data⟩ :=
      finishPollAttempt_published nowMs channel values { c with rtuMaster := master }
    · exact absurd untouched published
    · refine ⟨completion, completed, ?_, ?_⟩
      · rw [success, data]
        cases values <;> simp
      · rw [if_pos active, own, success, data]
        refine ⟨read, alike, ?_⟩
        cases values with
        | none => simp
        | some read => exact fun _ => decoded read rfl

theorem Booked.begun {c : ModbusComponent} {kind : RtuTransactionKind} {channel : ChannelConfig}
    {valueIndex : UInt8} {request : Bytes} (begun : Begun kind channel valueIndex request c.rtuMaster)
    (some : kind ≠ .none) (write : c.writeInFlight = decide (kind = .write))
    (raw : c.rawInFlight = decide (kind = .raw)) (read : kind = .read → c.ReadsPolled)
    (running : c.mode = .master ∧ c.active = true) : Booked c where
  known _ := by
    rw [begun.kind]
    exact some
  write := by
    rw [begun.active, begun.kind, write]
    simp
  raw := by
    rw [begun.active, begun.kind, raw]
    simp
  read _ := by
    rw [begun.kind]
    exact read
  resting still := absurd running still

theorem booked_unsent (nowMs nextMs : UInt32) (channel : ChannelConfig) (c attempted : ModbusComponent)
    (still : attempted.rtuMaster.transactionActive = false)
    (write : attempted.writeInFlight = false) (raw : attempted.rawInFlight = false)
    (polls : attempted.pollsCompleted = c.pollsCompleted)
    (inactive : c.rtuMaster.transactionActive = false) :
    Booked { finishPollAttempt nowMs channel none attempted with nextPollAtMs := nextMs } ∧
      PairedPoll c
        { finishPollAttempt nowMs channel none attempted with nextPollAtMs := nextMs } := by
  have kept := finishPollAttempt_flights nowMs channel none attempted
  refine ⟨Booked.idle ((congrArg _ kept.master).trans still) (kept.write.trans write)
    (kept.raw.trans raw), fun published => ?_⟩
  obtain untouched | ⟨completion, completed, -, success, data⟩ :=
    finishPollAttempt_published nowMs channel none attempted
  · exact absurd (untouched.trans polls) published
  · refine ⟨completion, completed, fun _ => data, ?_⟩
    rw [inactive, if_neg Bool.false_ne_true]
    exact success

theorem booked_startTransaction (nowMs : UInt32) (c : ModbusComponent) (booked : Booked c)
    (running : c.mode = .master ∧ c.active = true)
    (inactive : c.rtuMaster.transactionActive = false) :
    Booked (startTransaction nowMs c) ∧ PairedPoll c (startTransaction nowMs c) := by
  obtain ⟨write, raw⟩ := booked.landed inactive
  unfold startTransaction
  dsimp only
  split
  · have sent := startRaw_begun nowMs c.pendingRaw.payload c.rtuMaster
    generalize c.rtuMaster.startRaw nowMs c.pendingRaw.payload = started at sent ⊢
    obtain ⟨master, taken⟩ := started
    cases taken with
    | true =>
      refine ⟨?_, fun published => absurd rfl published⟩
      exact Booked.begun sent (by simp) write rfl (fun read => by cases read) running
    | false =>
      refine ⟨?_, fun published => absurd rfl published⟩
      exact Booked.idle (sent.active.trans inactive) write rfl
  split
  · exact ⟨booked, fun published => absurd rfl published⟩
  split
  · have sent := startWrite_begun nowMs c.pendingWrite.channel c.pendingWrite.registerIndex
      c.pendingWrite.value c.rtuMaster
    generalize c.rtuMaster.startWrite nowMs c.pendingWrite.channel c.pendingWrite.registerIndex
      c.pendingWrite.value = started at sent ⊢
    obtain ⟨master, taken⟩ := started
    cases taken with
    | true =>
      obtain ⟨request, -, begun⟩ := sent
      refine ⟨?_, fun published => absurd rfl published⟩
      exact Booked.begun begun (by simp) rfl raw (fun read => by cases read) running
    | false =>
      refine ⟨?_, fun published => absurd rfl published⟩
      exact Booked.idle (sent.active.trans inactive) rfl raw
  split
  · exact ⟨booked, fun published => absurd rfl published⟩
  split
  · exact ⟨booked, fun published => absurd rfl published⟩
  split
  · exact ⟨booked, fun published => absurd rfl published⟩
  · rename_i polled channel turn
    unfold pollChannel at turn
    obtain ⟨rfl, current⟩ := Prod.mk.inj turn
    have sent := startRead_begun nowMs channel c.rtuMaster
    dsimp only
    generalize c.rtuMaster.startRead nowMs channel = started at sent ⊢
    obtain ⟨master, taken⟩ := started
    cases taken with
    | true =>
      obtain ⟨request, built, begun⟩ := sent
      refine ⟨?_, fun published => absurd rfl published⟩
      refine Booked.begun begun (by simp) write raw (fun _ => ⟨⟨channel, current, ?_⟩, ?_⟩) running
      · exact begun.channel.symm ▸ UpToName.refl channel
      · rw [if_pos rfl]
        exact begun.channel ▸ begun.request ▸ built
    | false =>
      rw [if_neg Bool.false_ne_true]
      apply booked_unsent nowMs _ channel c
      · exact sent.active.trans inactive
      · exact write
      · exact raw
      · rfl
      · exact inactive

theorem booked_loop (nowMs nowUs : UInt32) (c : ModbusComponent) (booked : Booked c) :
    Booked (c.loop nowMs nowUs) ∧ PairedPoll c (c.loop nowMs nowUs) := by
  unfold loop
  split
  · exact ⟨booked, fun published => absurd rfl published⟩
  rename_i resting
  have running : c.mode = .master ∧ c.active = true := by simpa using resting
  split
  · rename_i active
    split
    · rename_i raw
      exact booked_pollRawTransaction nowMs nowUs c booked active raw
    · rename_i write
      exact booked_pollWriteTransaction nowMs c booked active write
    · rename_i other raw
      exact booked_pollReadTransaction nowMs c booked active (booked.reads active other raw)
  · rename_i inactive
    have same := pollPassiveFrame_transaction nowUs kMaxFrameLength c.rtuMaster
    generalize c.rtuMaster.pollPassiveFrame nowUs kMaxFrameLength = polled at same ⊢
    obtain ⟨master, result, frame⟩ := polled
    have listening : Booked { c with rtuMaster := master } :=
      booked.same same rfl rfl rfl rfl ⟨rfl, rfl⟩
    have still : master.transactionActive = false := same.active.trans (by simpa using inactive)
    cases result with
    | frameReady =>
      refine ⟨?_, fun published => absurd rfl published⟩
      exact booked.same same rfl rfl rfl rfl ⟨rfl, rfl⟩
    | overflow =>
      refine ⟨?_, fun published => absurd rfl published⟩
      exact booked.same same rfl rfl rfl rfl ⟨rfl, rfl⟩
    | pending => exact ⟨listening, fun published => absurd rfl published⟩
    | idle =>
      dsimp only
      split
      · exact ⟨listening, fun published => absurd rfl published⟩
      · have started := booked_startTransaction nowMs { c with rtuMaster := master } listening
          running still
        refine ⟨started.1, fun published => ?_⟩
        obtain ⟨completion, completed, empty, sent⟩ := started.2 published
        refine ⟨completion, completed, empty, ?_⟩
        rw [still, if_neg Bool.false_ne_true] at sent
        rw [if_neg inactive]
        exact sent

theorem cancelPendingTransaction_ended (c : ModbusComponent) :
    c.cancelPendingTransaction.rtuMaster.transactionActive = false ∧
      c.cancelPendingTransaction.pollsCompleted = c.pollsCompleted := by
  unfold cancelPendingTransaction
  split
  · exact ⟨cancelTransaction_inactive c.rtuMaster, rfl⟩
  · rename_i inactive
    exact ⟨Bool.eq_false_iff.mpr inactive, rfl⟩

theorem booked_upsertChannel (config : ChannelConfig) (c : ModbusComponent) (booked : Booked c) :
    Booked (c.upsertChannel config).1 := by
  unfold upsertChannel
  split
  · exact booked
  · exact Booked.idle (cancelPendingTransaction_ended c).1 rfl rfl

theorem booked_removeChannel (slot : UInt8) (c : ModbusComponent) :
    Booked (c.removeChannel slot).1 := by
  unfold removeChannel
  dsimp only
  split <;> exact Booked.idle (cancelPendingTransaction_ended c).1 rfl rfl

theorem booked_applySerialConfig (nowMs : UInt32) (config : RtuSerialConfig) (c : ModbusComponent)
    (booked : Booked c) (settings : Rs485SerialSettings) (responseTimeoutMs : UInt32)
    (made : makeRtuSerialConfig settings responseTimeoutMs = some config) :
    (c.applySerialConfig nowMs config).1.rtuMaster.transactionActive = false ∧
      (c.applySerialConfig nowMs config).1.writeInFlight = false ∧
        (c.applySerialConfig nowMs config).1.rawInFlight = false := by
  have ready := (applySerialConfig_ready nowMs config c settings responseTimeoutMs made).1
  obtain ⟨rtuMaster, configured, refused | taken⟩ := applySerialConfig_cases nowMs config c
  · rw [refused] at ready
    cases ready
  · have inactive : rtuMaster.transactionActive = false := by
      obtain ⟨still, same⟩ | same := configured
      · rw [same]
        exact booked.resting still
      · rw [same]
        exact reconfigure_inactive config c.rtuMaster
    rw [taken]
    exact ⟨inactive, rfl, rfl⟩

theorem booked_applyRs485SerialSettings (nowMs : UInt32) (settings : Rs485SerialSettings)
    (c : ModbusComponent) (booked : Booked c) :
    Booked (c.applyRs485SerialSettings nowMs settings).1 := by
  obtain refused | ⟨config, made, -, applied⟩ := applyRs485SerialSettings_cases nowMs settings c
  · rw [refused]
    exact booked
  · obtain ⟨inactive, write, raw⟩ := booked_applySerialConfig nowMs config c booked _ _ made
    rw [applied]
    exact Booked.idle inactive write raw

theorem booked_applyModbusMasterSettings (nowMs : UInt32) (settings : ModbusMasterSettings)
    (c : ModbusComponent) (booked : Booked c) :
    Booked (c.applyModbusMasterSettings nowMs settings).1 := by
  obtain refused | ⟨config, -, made, -, applied⟩ :=
    applyModbusMasterSettings_cases nowMs settings c
  · rw [refused]
    exact booked
  · obtain ⟨inactive, write, raw⟩ := booked_applySerialConfig nowMs config c booked _ _ made
    rw [applied]
    exact Booked.idle inactive write raw

theorem booked_queueRawRequestInternal (payload : Bytes) (origin : RawRequestOrigin)
    (c : ModbusComponent) (booked : Booked c) :
    Booked (c.queueRawRequestInternal payload origin).1 := by
  obtain refused | queued := queueRawRequestInternal_cases payload origin c
  · rw [refused]
    exact booked
  · rw [queued]
    exact booked.same (SameTransaction.refl _) rfl rfl rfl rfl ⟨rfl, rfl⟩

theorem booked_writePoint (slot registerIndex : UInt8) (scalar : DecodedScalar)
    (c : ModbusComponent) (booked : Booked c) :
    Booked (c.writePoint slot registerIndex scalar).1 := by
  obtain refused | ⟨channel, request, -, -, -, -, -, queued⟩ :=
    writePoint_cases slot registerIndex scalar c
  · rw [refused]
    exact booked
  · rw [queued]
    exact booked.same (SameTransaction.refl _) rfl rfl rfl rfl ⟨rfl, rfl⟩

theorem booked_step (c : ModbusComponent) (operation : WriteOperation) (booked : Booked c) :
    Booked (WriteLedger.step ⟨c, 0⟩ operation).component := by
  cases operation with
  | writePoint slot registerIndex scalar =>
    exact booked_writePoint slot registerIndex scalar c booked
  | loop nowMs nowUs => exact (booked_loop nowMs nowUs c booked).1
  | bus port => exact booked.same ⟨rfl, rfl, rfl, rfl, rfl⟩ rfl rfl rfl rfl ⟨rfl, rfl⟩
  | upsertChannel config => exact booked_upsertChannel config c booked
  | removeChannel slot => exact booked_removeChannel slot c
  | applyRs485SerialSettings nowMs settings =>
    exact booked_applyRs485SerialSettings nowMs settings c booked
  | applyModbusMasterSettings nowMs settings =>
    exact booked_applyModbusMasterSettings nowMs settings c booked
  | queueRawRequest payload =>
    simp only [WriteLedger.step, queueRawRequest]
    split
    · exact booked
    · exact booked_queueRawRequestInternal payload .passThrough c booked
  | queueRuleRawRequest payload => exact booked_queueRawRequestInternal payload .rule c booked
  | takeRawCompletion | takePassiveFrame | takeCompletedPoll =>
    exact booked.same (SameTransaction.refl _) rfl rfl rfl rfl ⟨rfl, rfl⟩

/-! The name of a channel. -/

theorem replaceChannel_alike (slot : UInt8) (renamed current : ChannelConfig)
    (own : renamed.slot = slot) (alike : UpToName renamed current) (channels : List ChannelConfig)
    (found : (channels.find? fun channel => channel.slot == slot) = some current) (index : Nat)
    (channel : ChannelConfig) (place : channels[index]? = some channel) :
    ∃ other, (replaceChannel renamed channels)[index]? = some other ∧ UpToName other channel := by
  induction channels generalizing index with
  | nil => cases found
  | cons first rest ih =>
    rw [replaceChannel, own]
    rw [List.find?_cons] at found
    cases same : first.slot == slot with
    | true =>
      rw [same] at found
      obtain rfl := Option.some.inj found
      rw [if_pos rfl]
      cases index with
      | zero =>
        obtain rfl := Option.some.inj place
        exact ⟨renamed, rfl, alike⟩
      | succ index => exact ⟨channel, place, UpToName.refl channel⟩
    | false =>
      rw [same] at found
      rw [if_neg Bool.false_ne_true]
      cases index with
      | zero => exact ⟨channel, place, UpToName.refl channel⟩
      | succ index => exact ih found index place

theorem replaceChannel_configured (slot : UInt8) (renamed current : ChannelConfig)
    (own : renamed.slot = slot) (alike : UpToName renamed current) (channels : List ChannelConfig)
    (found : (channels.find? fun channel => channel.slot == slot) = some current)
    (channel : ChannelConfig) (member : channel ∈ channels) :
    Configured channel (replaceChannel renamed channels) := by
  obtain ⟨index, place⟩ := List.getElem?_of_mem member
  obtain ⟨other, placed, named⟩ := replaceChannel_alike slot renamed current own alike channels
    found index channel place
  exact ⟨other, List.mem_of_getElem? placed, named⟩

theorem setChannelName_cases (slot : UInt8) (name : Bytes) (c : ModbusComponent) :
    c.setChannelName slot name = (c, false) ∨
      ∃ renamed current, renamed.slot = slot ∧ UpToName renamed current ∧
        c.channelForSlot slot = some current ∧
        c.setChannelName slot name =
          ({ c with channels := replaceChannel renamed c.channels }, true) := by
  unfold setChannelName
  cases renames : (c.channelForSlot slot).bind fun channel => Modbus.setChannelName channel name with
  | none => exact .inl rfl
  | some renamed =>
    obtain ⟨current, found, named⟩ := Option.bind_eq_some_iff.mp renames
    have shape := setChannelName_upToName current name renamed named
    have own : current.slot = slot := by
      have same := List.find?_some found
      exact beq_iff_eq.mp same
    exact .inr ⟨renamed, current, shape.1.trans own, shape.2, found, rfl⟩

theorem booked_setChannelName (slot : UInt8) (name : Bytes) (c : ModbusComponent)
    (booked : Booked c) : Booked (c.setChannelName slot name).1 := by
  obtain kept | ⟨renamed, current, own, same, found, replaced⟩ := setChannelName_cases slot name c
  · rw [kept]
    exact booked
  · rw [replaced]
    refine { booked with read := fun active read => ?_ }
    obtain ⟨⟨channel, place, alike⟩, request⟩ := booked.read active read
    obtain ⟨other, placed, named⟩ := replaceChannel_alike slot renamed current own same c.channels
      found c.pollChannelIndex channel place
    exact ⟨⟨other, placed, named.trans alike⟩, request⟩

theorem booked_begin (nowMs : UInt32) (c : ModbusComponent) (booked : Booked c) :
    Booked (c.begin nowMs).1 := by
  have same : SameTransaction c.rtuMaster (c.rtuMaster.begin c.serialConfig).1 := by
    unfold ModbusRtuMaster.begin
    dsimp only
    split <;> exact ⟨rfl, rfl, rfl, rfl, rfl⟩
  have kept (d : ModbusComponent) (transaction : SameTransaction c.rtuMaster d.rtuMaster)
      (write : d.writeInFlight = c.writeInFlight) (raw : d.rawInFlight = c.rawInFlight)
      (channels : d.channels = c.channels) (index : d.pollChannelIndex = c.pollChannelIndex)
      (running : d.mode = c.mode) (further : c.active = true → d.active = true) : Booked d := by
    have moved : Booked { d with active := c.active } :=
      booked.same transaction write raw channels index ⟨running, rfl⟩
    refine { moved with resting := fun still => moved.resting ?_ }
    exact fun both => still ⟨both.1, further both.2⟩
  unfold begin
  split
  · generalize c.rtuMaster.begin c.serialConfig = begun at same
    obtain ⟨master, ready⟩ := begun
    cases ready with
    | true => exact kept _ same rfl rfl rfl rfl rfl fun _ => rfl
    | false => exact kept _ same rfl rfl rfl rfl rfl id
  · exact kept _ (SameTransaction.refl _) rfl rfl rfl rfl rfl fun _ => rfl
  · exact booked

/-! The write that waits. -/

theorem pollReadTransaction_pending (nowMs : UInt32) (c : ModbusComponent) :
    (pollReadTransaction nowMs c).pendingWrite = c.pendingWrite := by
  obtain ⟨_, _, _, _, _, _, same⟩ := pollReadTransaction_changes nowMs c
  rw [same]

theorem pollWriteTransaction_pending (nowMs : UInt32) (c : ModbusComponent) :
    (pollWriteTransaction nowMs c).pendingWrite = c.pendingWrite := by
  obtain ⟨_, _, _, _, _, same⟩ := pollWriteTransaction_changes nowMs c
  rw [same]

theorem startTransaction_pending (nowMs : UInt32) (c : ModbusComponent) :
    (startTransaction nowMs c).pendingWrite.queued = true →
      (startTransaction nowMs c).pendingWrite = c.pendingWrite := by
  unfold startTransaction
  dsimp only
  split
  · split <;> exact fun _ => rfl
  split
  · exact fun _ => rfl
  split
  · split <;> exact fun queued => by cases queued
  split
  · exact fun _ => rfl
  split
  · exact fun _ => rfl
  split
  · exact fun _ => rfl
  · rename_i polled channel turn
    have same : polled.pendingWrite = c.pendingWrite := by
      obtain ⟨rfl, -⟩ := Prod.mk.inj turn
      rfl
    split
    · exact fun _ => same
    · exact fun _ => (finishPollAttempt_flights nowMs channel none _).pending.trans same

theorem loop_pending (nowMs nowUs : UInt32) (c : ModbusComponent) :
    (c.loop nowMs nowUs).pendingWrite.queued = true →
      (c.loop nowMs nowUs).pendingWrite = c.pendingWrite := by
  unfold loop
  split
  · exact fun _ => rfl
  split
  · split
    · intro _
      obtain ⟨_, _, _, same⟩ := pollRawTransaction_changes nowMs nowUs c
      rw [same]
    · exact fun _ => pollWriteTransaction_pending nowMs c
    · exact fun _ => pollReadTransaction_pending nowMs c
  · generalize c.rtuMaster.pollPassiveFrame nowUs kMaxFrameLength = polled
    obtain ⟨master, result, frame⟩ := polled
    cases result with
    | frameReady | overflow | pending => exact fun _ => rfl
    | idle =>
      dsimp only
      split
      · exact fun _ => rfl
      · exact startTransaction_pending nowMs { c with rtuMaster := master }

theorem loop_sent (nowMs nowUs : UInt32) (c : ModbusComponent)
    (sent : c.loopEvent nowMs nowUs = .sent) :
    ∃ request, buildWriteRequest c.pendingWrite.channel c.pendingWrite.registerIndex
        c.pendingWrite.value 17 = .ok request ∧
      Begun .write c.pendingWrite.channel c.pendingWrite.registerIndex request
        (c.loop nowMs nowUs).rtuMaster := by
  unfold loopEvent at sent
  split at sent
  · cases sent
  rename_i running
  split at sent
  · split at sent
    · unfold pollEvent at sent
      dsimp only at sent
      split at sent <;> cases sent
    · cases sent
  rename_i free
  unfold loop
  rw [if_neg running, if_neg free]
  generalize c.rtuMaster.pollPassiveFrame nowUs kMaxFrameLength = polled at sent ⊢
  obtain ⟨master, result, frame⟩ := polled
  dsimp only at sent ⊢
  split at sent
  · cases sent
  rename_i silent
  simp only [Bool.or_eq_true, decide_eq_true_eq, not_or, not_not, Bool.not_eq_true] at silent
  obtain ⟨rfl, listening⟩ := silent
  unfold startEvent at sent
  dsimp only at sent
  split at sent
  · cases sent
  rename_i waiting
  simp only [Bool.or_eq_true, decide_eq_true_eq, not_or, Bool.not_eq_true', Bool.not_eq_false,
    Bool.not_eq_true] at waiting
  obtain ⟨⟨raw, oneWay⟩, queued⟩ := waiting
  have begun := startWrite_begun nowMs c.pendingWrite.channel c.pendingWrite.registerIndex
    c.pendingWrite.value master
  split at sent
  · rename_i taken
    rw [if_pos taken] at begun
    simp only [listening, startTransaction, raw, if_neg oneWay, queued, Bool.false_eq_true,
      if_false, if_true]
    rw [if_pos taken]
    exact begun
  · cases sent

/-- The loop goes on with a transaction or ends it. -/
theorem loop_transaction (nowMs nowUs : UInt32) (c : ModbusComponent) (booked : Booked c)
    (active : c.rtuMaster.transactionActive = true) :
    SameTransaction c.rtuMaster (c.loop nowMs nowUs).rtuMaster ∨
      (c.loop nowMs nowUs).rtuMaster.transactionActive = false := by
  unfold loop
  split
  · exact .inl (SameTransaction.refl _)
  split
  · rename_i raw
    have polled : (pollRawTransaction nowMs nowUs c).rtuMaster =
        (c.rtuMaster.pollRaw nowMs nowUs kMaxFrameLength).master := by
      obtain ⟨_, _, _, same⟩ := pollRawTransaction_changes nowMs nowUs c
      rw [same]
    rw [polled]
    obtain ⟨-, same⟩ | ended := pollRaw_cases nowMs nowUs kMaxFrameLength c.rtuMaster active raw
    · exact .inl same
    · exact .inr ended.inactive
  · rename_i write
    have polled : (pollWriteTransaction nowMs c).rtuMaster =
        (c.rtuMaster.pollWrite nowMs).master := by
      obtain ⟨_, _, _, _, _, same⟩ := pollWriteTransaction_changes nowMs c
      rw [same]
    rw [polled]
    obtain ⟨-, same⟩ | ended := pollWrite_cases nowMs c.rtuMaster active write
    · exact .inl same
    · exact .inr ended.inactive
  · rename_i other raw
    have read := booked.reads active other raw
    obtain ⟨⟨channel, current, -⟩, -⟩ := booked.read active read
    obtain ⟨master, same, polled⟩ | ⟨master, values, inactive, -, polled⟩ :=
      pollReadTransaction_cases nowMs c channel current active read
    · rw [polled]
      exact .inl same
    · rw [polled]
      have kept := finishPollAttempt_flights nowMs channel values { c with rtuMaster := master }
      exact .inr ((congrArg _ kept.master).trans inactive)

theorem loop_write (nowMs nowUs : UInt32) (c : ModbusComponent) (booked : Booked c)
    (active : (c.loop nowMs nowUs).rtuMaster.transactionActive = true)
    (write : (c.loop nowMs nowUs).rtuMaster.transactionKind = .write) :
    SameTransaction c.rtuMaster (c.loop nowMs nowUs).rtuMaster ∨
      c.loopEvent nowMs nowUs = .sent := by
  cases before : c.rtuMaster.transactionActive with
  | true =>
    obtain same | ended := loop_transaction nowMs nowUs c booked before
    · exact .inl same
    · rw [ended] at active
      cases active
  | false =>
    have flying := (booked_loop nowMs nowUs c booked).1.write.mp ⟨active, write⟩
    have landed := (booked.landed before).1
    have tally : (c.loop nowMs nowUs).writeInFlight =
        (c.tally.after (c.loopEvent nowMs nowUs)).inFlight :=
      congrArg WriteTally.inFlight (tally_loop nowMs nowUs c)
    rw [flying] at tally
    cases event : c.loopEvent nowMs nowUs with
    | sent => exact .inr rfl
    | nothing =>
      rw [event] at tally
      cases tally.trans landed
    | unsent =>
      rw [event] at tally
      cases tally
    | ended success =>
      rw [event] at tally
      cases success <;> cases tally

/-! The calls beside the loop. -/

/-- What a call does that neither is the loop nor writes a point: it publishes nothing, goes on
with the transaction or ends it, and leaves the waiting write and the channels, or drops it. -/
structure Aside (c d : ModbusComponent) : Prop where
  count : d.pollsCompleted = c.pollsCompleted
  transaction : SameTransaction c.rtuMaster d.rtuMaster ∨ d.rtuMaster.transactionActive = false
  pending : d.pendingWrite.queued = true → d.pendingWrite = c.pendingWrite ∧
    ∀ channel, Configured channel c.channels → Configured channel d.channels

theorem Aside.still {c d : ModbusComponent} (count : d.pollsCompleted = c.pollsCompleted)
    (transaction : SameTransaction c.rtuMaster d.rtuMaster)
    (pending : d.pendingWrite = c.pendingWrite) (channels : d.channels = c.channels) :
    Aside c d :=
  ⟨count, .inl transaction, fun _ => ⟨pending, fun _ there => channels.symm ▸ there⟩⟩

theorem Aside.cleared {c d : ModbusComponent} (count : d.pollsCompleted = c.pollsCompleted)
    (transaction : SameTransaction c.rtuMaster d.rtuMaster ∨ d.rtuMaster.transactionActive = false)
    (cleared : d.pendingWrite.queued = false) : Aside c d :=
  ⟨count, transaction, fun queued => by rw [cleared] at queued; cases queued⟩

theorem Aside.refl (c : ModbusComponent) : Aside c c :=
  .still rfl (SameTransaction.refl _) rfl rfl

theorem aside_applySerialConfig (nowMs : UInt32) (config : RtuSerialConfig)
    (c : ModbusComponent) : Aside c (c.applySerialConfig nowMs config).1 := by
  obtain ⟨rtuMaster, configured, applied⟩ := applySerialConfig_cases nowMs config c
  have settled : SameTransaction c.rtuMaster rtuMaster ∨ rtuMaster.transactionActive = false := by
    obtain ⟨-, same⟩ | same := configured
    · rw [same]
      exact .inl (SameTransaction.refl _)
    · rw [same]
      exact .inr (reconfigure_inactive config c.rtuMaster)
  obtain refused | taken := applied
  · rw [refused]
    exact ⟨rfl, settled, fun _ => ⟨rfl, fun _ there => there⟩⟩
  · rw [taken]
    exact .cleared rfl settled rfl

theorem aside_setChannelName (slot : UInt8) (name : Bytes) (c : ModbusComponent) :
    Aside c (c.setChannelName slot name).1 := by
  obtain kept | ⟨renamed, current, own, same, found, replaced⟩ := setChannelName_cases slot name c
  · rw [kept]
    exact .refl c
  · rw [replaced]
    refine ⟨rfl, .inl (SameTransaction.refl _), fun _ => ⟨rfl, ?_⟩⟩
    rintro channel ⟨listed, member, alike⟩
    obtain ⟨other, placed, named⟩ := replaceChannel_configured slot renamed current own same
      c.channels found listed member
    exact ⟨other, placed, named.trans alike⟩

theorem aside_call (c : ModbusComponent) (x : ComponentCall)
    (still : ∀ nowMs nowUs, x ≠ .operation (.loop nowMs nowUs)) (reads : x.writesPoint = false) :
    Aside c (c.call x) := by
  have same : SameTransaction c.rtuMaster c.rtuMaster := SameTransaction.refl _
  obtain ⟨inactive, count⟩ := cancelPendingTransaction_ended c
  cases x with
  | setRtuSerialConfig config => exact .still rfl same rfl rfl
  | begin nowMs =>
    simp only [call, begin, ModbusRtuMaster.begin]
    split
    · split <;> exact .still rfl ⟨rfl, rfl, rfl, rfl, rfl⟩ rfl rfl
    · exact .still rfl same rfl rfl
    · exact .refl c
  | setChannelName slot name => exact aside_setChannelName slot name c
  | operation operation =>
    cases operation with
    | loop nowMs nowUs => exact absurd rfl (still nowMs nowUs)
    | writePoint slot registerIndex scalar => cases reads
    | bus port => exact .still rfl ⟨rfl, rfl, rfl, rfl, rfl⟩ rfl rfl
    | upsertChannel config =>
      simp only [call, WriteLedger.step, upsertChannel]
      split
      · exact .refl c
      · exact .cleared count (.inr inactive) rfl
    | removeChannel slot =>
      simp only [call, WriteLedger.step, removeChannel]
      split <;> exact .cleared count (.inr inactive) rfl
    | applyRs485SerialSettings nowMs settings =>
      simp only [call, WriteLedger.step]
      obtain refused | ⟨config, -, -, applied⟩ := applyRs485SerialSettings_cases nowMs settings c
      · rw [refused]
        exact .refl c
      · obtain ⟨counted, transaction, pending⟩ := aside_applySerialConfig nowMs config c
        rw [applied]
        exact ⟨counted, transaction, pending⟩
    | applyModbusMasterSettings nowMs settings =>
      simp only [call, WriteLedger.step]
      obtain refused | ⟨config, -, -, -, applied⟩ :=
        applyModbusMasterSettings_cases nowMs settings c
      · rw [refused]
        exact .refl c
      · obtain ⟨counted, transaction, pending⟩ := aside_applySerialConfig nowMs config c
        rw [applied]
        exact ⟨counted, transaction, pending⟩
    | queueRawRequest payload =>
      simp only [call, WriteLedger.step]
      obtain refused | queued := queueRawRequest_cases payload c
      · rw [refused]
        exact .refl c
      · rw [queued]
        exact .still rfl same rfl rfl
    | queueRuleRawRequest payload =>
      simp only [call, WriteLedger.step, queueRuleRawRequest]
      obtain refused | queued := queueRawRequestInternal_cases payload .rule c
      · rw [refused]
        exact .refl c
      · rw [queued]
        exact .still rfl same rfl rfl
    | takeRawCompletion | takePassiveFrame | takeCompletedPoll => exact .still rfl same rfl rfl

/-! Runs. -/

theorem booked_call (c : ModbusComponent) (x : ComponentCall) (booked : Booked c) :
    Booked (c.call x) := by
  cases x with
  | setRtuSerialConfig config =>
    exact booked.same (SameTransaction.refl _) rfl rfl rfl rfl ⟨rfl, rfl⟩
  | begin nowMs => exact booked_begin nowMs c booked
  | setChannelName slot name => exact booked_setChannelName slot name c booked
  | operation operation => exact booked_step c operation booked

theorem paired_call (c : ModbusComponent) (x : ComponentCall) (booked : Booked c) :
    PairedPoll c (c.call x) := by
  by_cases loops : ∃ nowMs nowUs, x = .operation (.loop nowMs nowUs)
  · obtain ⟨nowMs, nowUs, rfl⟩ := loops
    exact (booked_loop nowMs nowUs c booked).2
  · refine fun published => absurd ?_ published
    cases writes : x.writesPoint with
    | false => exact (aside_call c x (fun nowMs nowUs same => loops ⟨nowMs, nowUs, same⟩) writes).count
    | true =>
      cases x with
      | setRtuSerialConfig | begin | setChannelName => cases writes
      | operation operation =>
        cases operation with
        | writePoint slot registerIndex scalar =>
          simp only [call, WriteLedger.step]
          obtain refused | ⟨channel, request, -, -, -, -, -, queued⟩ :=
            writePoint_cases slot registerIndex scalar c
          · rw [refused]
          · rw [queued]
        | _ => cases writes

def idleMaster : ModbusComponent := ({} : ModbusComponent).setMode .master

/-- Whatever calls a master takes, with whatever bytes on the bus, the flags of the component
tell of the transaction of its master, the index is that of the channel whose request was sent,
and every completion belongs to it. -/
theorem flags_match_transaction (calls : List ComponentCall) :
    let c := run call idleMaster calls
    (c.rtuMaster.transactionActive = true ∧ c.rtuMaster.transactionKind = .write ↔
      c.writeInFlight = true) ∧
    (c.rtuMaster.transactionActive = true ∧ c.rtuMaster.transactionKind = .raw ↔
      c.rawInFlight = true) ∧
    ¬ (c.writeInFlight = true ∧ c.rawInFlight = true) ∧
    (c.rtuMaster.transactionActive = true → c.rtuMaster.transactionKind = .read →
      (∃ channel, c.channels[c.pollChannelIndex]? = some channel ∧
        UpToName channel c.rtuMaster.activeChannel) ∧
      buildReadRequest c.rtuMaster.activeChannel 8 = .ok c.rtuMaster.activeRequest) ∧
    Always call (fun c x => PairedPoll c (c.call x)) idleMaster calls := by
  have start : Booked idleMaster := Booked.idle rfl rfl rfl
  have along : Always call (fun _ _ => True) idleMaster calls := fun _ _ => trivial
  have booked := invariant_run call Booked (fun _ _ => True)
    (fun c x booked _ => booked_call c x booked) idleMaster calls start along
  have before := invariant_steps call Booked (fun _ _ => True)
    (fun c x booked _ => booked_call c x booked) idleMaster calls start along
  refine ⟨booked.write, booked.raw, ?_, booked.read, Always.mono call paired_call before⟩
  rintro ⟨write, raw⟩
  obtain ⟨-, kind⟩ := booked.write.mpr write
  obtain ⟨-, other⟩ := booked.raw.mpr raw
  rw [kind] at other
  cases other

end ModbusComponent

end Modbus
