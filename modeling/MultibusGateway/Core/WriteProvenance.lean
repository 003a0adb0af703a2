import MultibusGateway.Core.CoreCommands
import MultibusGateway.Modbus.Bookkeeping

/-! Where the writes on the bus come from. A command is checked when it is taken from the queue,
and its write is sent in a later turn of the loop; whatever is configured in between, the write
is sent to a channel that is still there, and once at most. -/

namespace Application
open ByteString Commands Execution Modbus ModbusRtuMaster

structure TakenCommand where
  command : ChannelWriteCommand
  channels : ChannelRegistry
  modbus : ModbusComponent

/-- The write is that of the command, whose binding was there, enabled and writable, and whose
type was that of the point. -/
def TakenCommand.Authorises (taken : TakenCommand) (write : PendingWrite) : Prop :=
  ∃ binding descriptor, taken.channels.find taken.command.channelId = some binding ∧
    binding.enabled = true ∧ binding.writable = true ∧
    describeBoundChannel binding taken.modbus = some descriptor ∧ descriptor.writable = true ∧
    commandDataType taken.command.valueType = descriptor.type ∧
    resolveWrite binding.pointId (commandValue taken.command) taken.modbus =
      some (write.channel.slot, write.registerIndex, write.value)

/-- A write that was handed to the master, with the number of its command and the channels of
that moment. -/
structure StartedWrite where
  number : Nat
  write : PendingWrite
  channels : List ChannelConfig

/-- The ghosts are the commands that were taken, the number of the one whose write is queued, and
the writes that were started. -/
structure WriteTrace where
  core : CommandCore
  history : List TakenCommand := []
  grant : Nat := 0
  started : List StartedWrite := []

/-- What happens next. The bindings may change in any way, and the component may be called in
any way but to write a point, which only the commands do. -/
inductive WriteStep where
  | enqueue (command : ChannelWriteCommand)
  | processCoreCommands (timestampUnix : UInt32)
  | bindings (channels : ChannelRegistry)
  | call (x : { x : ComponentCall // x.writesPoint = false })

namespace WriteTrace

def start (commands : CommandBus 16) (channels : ChannelRegistry) : WriteTrace where
  core := { commands := commands, channels := channels, modbus := ModbusComponent.idleMaster }

/-- One command is taken, and its write is queued if it is carried out. -/
def take (timestampUnix : UInt32) (command : ChannelWriteCommand) (commands : CommandBus 16)
    (t : WriteTrace) : WriteTrace :=
  { t with
    core := processCommand command timestampUnix { t.core with commands := commands }
    history := t.history ++ [⟨command, t.core.channels, t.core.modbus⟩]
    grant :=
      if (executeCommand command t.core.channels t.core.modbus).2 = .executed
      then t.history.length else t.grant }

def takeCommands (timestampUnix : UInt32) : Nat → WriteTrace → WriteTrace
  | 0, t => t
  | left + 1, t =>
    match t.core.commands.dequeue with
    | none => t
    | some (command, commands) =>
      takeCommands timestampUnix left (t.take timestampUnix command commands)

def startedBy (c : ModbusComponent) : ComponentCall → Option PendingWrite
  | .operation (.loop nowMs nowUs) =>
    match c.loopEvent nowMs nowUs with
    | .sent | .unsent => some c.pendingWrite
    | _ => none
  | _ => none

def step (t : WriteTrace) : WriteStep → WriteTrace
  | .enqueue command =>
    { t with core := { t.core with commands := (t.core.commands.enqueue command).1 } }
  | .processCoreCommands timestampUnix => takeCommands timestampUnix 4 t
  | .bindings channels => { t with core := { t.core with channels := channels } }
  | .call x =>
    { t with
      core := { t.core with modbus := t.core.modbus.call x.val }
      started := t.started ++ ((startedBy t.core.modbus x.val).map fun write =>
        ⟨t.grant, write, t.core.modbus.channels⟩).toList }

/-- The trace takes the commands as the application does. -/
theorem takeCommands_core (timestampUnix : UInt32) (left : Nat) (t : WriteTrace) :
    (takeCommands timestampUnix left t).core = processCommands timestampUnix left t.core := by
  induction left generalizing t with
  | zero => rfl
  | succ left ih =>
    unfold takeCommands processCommands
    cases t.core.commands.dequeue with
    | none => rfl
    | some entry =>
      obtain ⟨command, commands⟩ := entry
      exact ih _

end WriteTrace

/-! A command that is carried out. -/

theorem channelForSlot_member (slot : UInt8) (c : ModbusComponent) (channel : ChannelConfig)
    (looked : c.channelForSlot slot = some channel) :
    channel ∈ c.channels ∧ channel.slot = slot :=
  have same := List.find?_some looked
  ⟨List.mem_of_find?_eq_some looked, beq_iff_eq.mp same⟩

/-- A write that is queued with the authority of a command, for a channel that is there. -/
structure Granted (taken : TakenCommand) (channels : List ChannelConfig) (write : PendingWrite) :
    Prop where
  authorised : taken.Authorises write
  configured : Configured write.channel channels
  writable : writableType write.channel.dataType = true

theorem executeCommand_granted (command : ChannelWriteCommand) (channels : ChannelRegistry)
    (modbus : ModbusComponent) :
    if (executeCommand command channels modbus).2 = .executed then
      ∃ write, Granted ⟨command, channels, modbus⟩ modbus.channels write ∧
        (executeCommand command channels modbus).1 = { modbus with pendingWrite := write }
    else (executeCommand command channels modbus).1 = modbus := by
  unfold executeCommand
  cases found : channels.find command.channelId with
  | none => rfl
  | some binding =>
    dsimp only
    split
    · rfl
    rename_i open_
    simp only [Bool.or_eq_true, Bool.not_eq_true', not_or, Bool.not_eq_false] at open_
    cases sourced : dataSourceForId binding.sourceId with
    | none => rfl
    | some source =>
      cases described : describeBoundChannel binding modbus with
      | none => rfl
      | some descriptor =>
        dsimp only
        split
        · rfl
        rename_i writable
        split
        · rfl
        rename_i typed
        cases source with
        | victron | gnss => rfl
        | modbus =>
          simp only [DataSource.writePoint, writeModbusPoint]
          split
          · rfl
          cases resolved : resolveWrite binding.pointId (commandValue command) modbus with
          | none => rfl
          | some target =>
            obtain ⟨slot, registerIndex, scalar⟩ := target
            dsimp only
            obtain refused | ⟨channel, request, -, -, looked, register, -, queued⟩ :=
              ModbusComponent.writePoint_cases slot registerIndex scalar modbus
            · simp only [refused, Bool.false_eq_true, if_false, reduceCtorEq]
            · simp only [queued, if_true]
              obtain ⟨member, own⟩ := channelForSlot_member slot modbus channel looked
              refine ⟨_, ⟨?_, ⟨channel, member, UpToName.refl channel⟩, register⟩, rfl⟩
              refine ⟨binding, descriptor, found, open_.1, open_.2, described,
                by simpa using writable, by simpa using typed, ?_⟩
              rw [own]
              exact resolved

/-! The invariant. -/

def StartedWrite.Lawful (history : List TakenCommand) (started : StartedWrite) : Prop :=
  ∃ taken, history[started.number]? = some taken ∧ Granted taken started.channels started.write

theorem history_later {history : List TakenCommand} {number : Nat} {taken : TakenCommand}
    (found : history[number]? = some taken) (more : List TakenCommand) :
    (history ++ more)[number]? = some taken := by
  rw [List.getElem?_append_left (List.getElem?_eq_some_iff.mp found).1, found]

namespace WriteTrace

/-- The write that waits has the authority of a command that was taken and has started no write
yet, and its channel is still there. -/
structure Waits (t : WriteTrace) : Prop where
  granted : ∃ taken, t.history[t.grant]? = some taken ∧
    Granted taken t.core.modbus.channels t.core.modbus.pendingWrite
  unused : t.grant ∉ t.started.map StartedWrite.number

structure Guarded (t : WriteTrace) : Prop where
  booked : ModbusComponent.Booked t.core.modbus
  waits : t.core.modbus.pendingWrite.queued = true → Waits t
  lawful : ∀ started ∈ t.started, StartedWrite.Lawful t.history started
  once : (t.started.map StartedWrite.number).Nodup

theorem Guarded.early {t : WriteTrace} (guarded : Guarded t) :
    ∀ number ∈ t.started.map StartedWrite.number, number < t.history.length := by
  intro number member
  obtain ⟨started, listed, rfl⟩ := List.mem_map.mp member
  obtain ⟨taken, found, -⟩ := guarded.lawful started listed
  exact (List.getElem?_eq_some_iff.mp found).1

theorem guarded_take (timestampUnix : UInt32) (command : ChannelWriteCommand)
    (commands : CommandBus 16) (t : WriteTrace) (guarded : Guarded t) :
    Guarded (t.take timestampUnix command commands) := by
  have executed := executeCommand_granted command t.core.channels t.core.modbus
  have lawful : ∀ started ∈ t.started,
      StartedWrite.Lawful (t.history ++ [⟨command, t.core.channels, t.core.modbus⟩]) started :=
    fun started member =>
      let ⟨taken, found, granted⟩ := guarded.lawful started member
      ⟨taken, history_later found _, granted⟩
  split at executed
  · rename_i carried
    obtain ⟨write, granted, same⟩ := executed
    have modbus : (t.take timestampUnix command commands).core.modbus =
        { t.core.modbus with pendingWrite := write } := same
    have grant : (t.take timestampUnix command commands).grant = t.history.length := if_pos carried
    refine ⟨?_, fun _ => ⟨?_, ?_⟩, lawful, guarded.once⟩
    · rw [modbus]
      exact guarded.booked.same (SameTransaction.refl _) rfl rfl rfl rfl ⟨rfl, rfl⟩
    · rw [grant, modbus]
      refine ⟨_, ?_, granted⟩
      simp [take]
    · rw [grant]
      exact fun used => absurd (guarded.early _ used) (Nat.lt_irrefl _)
  · rename_i refused
    have modbus : (t.take timestampUnix command commands).core.modbus = t.core.modbus := executed
    have grant : (t.take timestampUnix command commands).grant = t.grant := if_neg refused
    refine ⟨modbus ▸ guarded.booked, fun queued => ?_, lawful, guarded.once⟩
    rw [modbus] at queued
    obtain ⟨⟨taken, found, granted⟩, unused⟩ := guarded.waits queued
    refine ⟨⟨taken, ?_, modbus ▸ granted⟩, grant ▸ unused⟩
    rw [grant]
    exact history_later found _

theorem guarded_takeCommands (timestampUnix : UInt32) (left : Nat) (t : WriteTrace)
    (guarded : Guarded t) : Guarded (takeCommands timestampUnix left t) := by
  induction left generalizing t with
  | zero => exact guarded
  | succ left ih =>
    unfold takeCommands
    cases t.core.commands.dequeue with
    | none => exact guarded
    | some entry =>
      obtain ⟨command, commands⟩ := entry
      exact ih _ (guarded_take timestampUnix command commands t guarded)

/-- A call hands over no write, or the one that waits. -/
theorem startedBy_cases (c : ModbusComponent) (x : ComponentCall) (reads : x.writesPoint = false) :
    (startedBy c x = none ∧ ((c.call x).pendingWrite.queued = true →
        (c.call x).pendingWrite = c.pendingWrite ∧
        ∀ channel, Configured channel c.channels → Configured channel (c.call x).channels)) ∨
      (startedBy c x = some c.pendingWrite ∧ c.pendingWrite.queued = true ∧
        (c.call x).pendingWrite.queued = false) := by
  by_cases loops : ∃ nowMs nowUs, x = .operation (.loop nowMs nowUs)
  · obtain ⟨nowMs, nowUs, rfl⟩ := loops
    have tally := congrArg WriteTally.queued (ModbusComponent.tally_loop nowMs nowUs c)
    have fits := ModbusComponent.fits_loop nowMs nowUs c
    have channels : (c.loop nowMs nowUs).channels = c.channels :=
      congrArg ComponentConfiguration.channels (ModbusComponent.configuration_loop nowMs nowUs c)
    have waits : (c.loop nowMs nowUs).pendingWrite.queued = true →
        (c.loop nowMs nowUs).pendingWrite = c.pendingWrite ∧
        ∀ channel, Configured channel c.channels →
          Configured channel (c.loop nowMs nowUs).channels :=
      fun queued => ⟨ModbusComponent.loop_pending nowMs nowUs c queued,
        fun _ there => channels.symm ▸ there⟩
    simp only [startedBy]
    cases event : c.loopEvent nowMs nowUs with
    | nothing => exact .inl ⟨rfl, waits⟩
    | ended success => exact .inl ⟨rfl, waits⟩
    | sent | unsent =>
      rw [event] at tally fits
      exact .inr ⟨rfl, fits, tally⟩
  · have aside := ModbusComponent.aside_call c x
      (fun nowMs nowUs same => loops ⟨nowMs, nowUs, same⟩) reads
    refine .inl ⟨?_, aside.pending⟩
    unfold startedBy
    split
    · exact absurd ⟨_, _, rfl⟩ loops
    · rfl

theorem guarded_call (x : { x : ComponentCall // x.writesPoint = false }) (t : WriteTrace)
    (guarded : Guarded t) : Guarded (step t (.call x)) := by
  have booked := ModbusComponent.booked_call t.core.modbus x.val guarded.booked
  obtain ⟨none, waits⟩ | ⟨some, queued, landed⟩ := startedBy_cases t.core.modbus x.val x.property
  · have same : (step t (.call x)).started = t.started := by
      simp only [step, none, Option.map_none, Option.toList_none, List.append_nil]
    refine ⟨booked, fun waiting => ?_, same.symm ▸ guarded.lawful, same.symm ▸ guarded.once⟩
    obtain ⟨write, channels⟩ := waits waiting
    obtain ⟨⟨taken, found, granted⟩, unused⟩ := guarded.waits (write ▸ waiting)
    refine ⟨⟨taken, found, ?_⟩, same.symm ▸ unused⟩
    simp only [step]
    rw [write]
    exact { granted with configured := channels _ granted.configured }
  · have more : (step t (.call x)).started =
        t.started ++ [⟨t.grant, t.core.modbus.pendingWrite, t.core.modbus.channels⟩] := by
      simp only [step, some, Option.map_some, Option.toList_some]
    obtain ⟨granted, unused⟩ := guarded.waits queued
    refine ⟨booked, fun waiting => ?_, ?_, ?_⟩
    · simp only [step, landed] at waiting
      cases waiting
    · rw [more]
      intro started member
      obtain before | now := List.mem_append.mp member
      · exact guarded.lawful started before
      · rw [List.mem_singleton.mp now]
        exact granted
    · rw [more, List.map_append]
      refine List.nodup_append.mpr ⟨guarded.once, List.nodup_singleton _, ?_⟩
      intro number member other single
      rw [List.mem_singleton.mp single]
      rintro rfl
      exact unused member

theorem guarded_step (t : WriteTrace) (x : WriteStep) (guarded : Guarded t) :
    Guarded (step t x) := by
  cases x with
  | enqueue command => exact ⟨guarded.booked, fun queued => ⟨(guarded.waits queued).granted,
    (guarded.waits queued).unused⟩, guarded.lawful, guarded.once⟩
  | processCoreCommands timestampUnix => exact guarded_takeCommands timestampUnix 4 t guarded
  | bindings channels => exact ⟨guarded.booked, fun queued => ⟨(guarded.waits queued).granted,
    (guarded.waits queued).unused⟩, guarded.lawful, guarded.once⟩
  | call x => exact guarded_call x t guarded

/-! Runs. -/

/-- The trace follows the application: it takes the commands as the application does, and a write
request that comes on the bus is one that it has recorded, with the channels of that moment. -/
structure Recorded (t : WriteTrace) (x : WriteStep) : Prop where
  commands : ∀ timestampUnix, x = .processCoreCommands timestampUnix →
    (step t x).core = processCoreCommands timestampUnix t.core
  writes : (step t x).core.modbus.rtuMaster.transactionActive = true →
    (step t x).core.modbus.rtuMaster.transactionKind = .write →
      SameTransaction t.core.modbus.rtuMaster (step t x).core.modbus.rtuMaster ∨
        ∃ started request, (step t x).started = t.started ++ [started] ∧
          started.channels = t.core.modbus.channels ∧
          buildWriteRequest started.write.channel started.write.registerIndex
            started.write.value 17 = .ok request ∧
          Begun .write started.write.channel started.write.registerIndex request
            (step t x).core.modbus.rtuMaster

theorem takeCommands_master (timestampUnix : UInt32) (left : Nat) (t : WriteTrace) :
    (takeCommands timestampUnix left t).core.modbus.rtuMaster = t.core.modbus.rtuMaster := by
  induction left generalizing t with
  | zero => rfl
  | succ left ih =>
    unfold takeCommands
    cases t.core.commands.dequeue with
    | none => rfl
    | some entry =>
      obtain ⟨command, commands⟩ := entry
      refine (ih _).trans ?_
      have executed := executeCommand_granted command t.core.channels t.core.modbus
      split at executed
      · obtain ⟨write, -, same⟩ := executed
        have modbus : (t.take timestampUnix command commands).core.modbus =
            { t.core.modbus with pendingWrite := write } := same
        rw [modbus]
      · have modbus : (t.take timestampUnix command commands).core.modbus = t.core.modbus :=
          executed
        rw [modbus]

theorem recorded_step (t : WriteTrace) (x : WriteStep) (guarded : Guarded t) : Recorded t x := by
  cases x with
  | enqueue command => exact ⟨fun _ same => (by cases same), fun _ _ => .inl (.refl _)⟩
  | bindings channels => exact ⟨fun _ same => (by cases same), fun _ _ => .inl (.refl _)⟩
  | processCoreCommands timestampUnix =>
    refine ⟨fun other same => ?_, fun _ _ => .inl ?_⟩
    · obtain rfl := WriteStep.processCoreCommands.inj same
      exact takeCommands_core timestampUnix 4 t
    · simp only [step]
      rw [takeCommands_master]
      exact .refl _
  | call x =>
    refine ⟨fun _ same => (by cases same), fun active write => ?_⟩
    obtain ⟨x, reads⟩ := x
    by_cases loops : ∃ nowMs nowUs, x = .operation (.loop nowMs nowUs)
    · obtain ⟨nowMs, nowUs, rfl⟩ := loops
      obtain same | sent :=
        ModbusComponent.loop_write nowMs nowUs t.core.modbus guarded.booked active write
      · exact .inl same
      · obtain ⟨request, built, begun⟩ := ModbusComponent.loop_sent nowMs nowUs t.core.modbus sent
        refine .inr ⟨⟨t.grant, t.core.modbus.pendingWrite, t.core.modbus.channels⟩, request, ?_,
          rfl, built, begun⟩
        simp only [step, startedBy, sent, Option.map_some, Option.toList_some]
    · have aside := ModbusComponent.aside_call t.core.modbus x
        (fun nowMs nowUs same => loops ⟨nowMs, nowUs, same⟩) reads
      obtain same | ended := aside.transaction
      · exact .inl same
      · simp only [step] at active
        rw [ended] at active
        cases active

theorem guarded_start (commands : CommandBus 16) (channels : ChannelRegistry) :
    Guarded (start commands channels) where
  booked := ModbusComponent.Booked.idle rfl rfl rfl
  waits queued := by cases queued
  lawful _ none := by cases none
  once := List.nodup_nil

/-- In any interleaving, a write that is started goes to a channel that is configured at that
moment and can be written, with the value of a command that was let through when it was taken,
and no command starts two. -/
theorem writes_authorised (commands : CommandBus 16) (channels : ChannelRegistry)
    (steps : List WriteStep) :
    let t := run step (start commands channels) steps
    (∀ started ∈ t.started, Configured started.write.channel started.channels ∧
      writableType started.write.channel.dataType = true ∧
      ∃ taken, t.history[started.number]? = some taken ∧ taken.Authorises started.write) ∧
    (t.started.map StartedWrite.number).Nodup ∧
    Always step Recorded (start commands channels) steps := by
  have along : Always step (fun _ _ => True) (start commands channels) steps :=
    fun _ _ => trivial
  have guarded := invariant_run step Guarded (fun _ _ => True)
    (fun t x guarded _ => guarded_step t x guarded) _ steps (guarded_start commands channels) along
  have before := invariant_steps step Guarded (fun _ _ => True)
    (fun t x guarded _ => guarded_step t x guarded) _ steps (guarded_start commands channels) along
  refine ⟨fun started member => ?_, guarded.once, Always.mono step recorded_step before⟩
  obtain ⟨taken, found, granted⟩ := guarded.lawful started member
  exact ⟨granted.configured, granted.writable, taken, found, granted.authorised⟩

end WriteTrace

end Application
