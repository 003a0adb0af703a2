import MultibusGateway.Core.CoreCommands

/-! Whether the accepted commands reach the Modbus component. A command that is taken while a
write is queued or in flight is lost, and so is the second of two that are taken together. -/

namespace Application
open Commands Execution Modbus

/-! What a command that can be delivered meets. -/

theorem described_modbus (binding : ChannelBinding) (modbus : ModbusComponent)
    (descriptor : DataPointDescriptor)
    (described : describeBoundChannel binding modbus = some descriptor) :
    dataSourceForId binding.sourceId = some .modbus := by
  unfold describeBoundChannel at described
  cases source : dataSourceForId binding.sourceId with
  | none => rw [source] at described; cases described
  | some kind =>
    rw [source] at described
    cases kind with
    | modbus => rfl
    | victron => cases described
    | gnss => cases described

theorem described_writable (binding : ChannelBinding) (modbus : ModbusComponent)
    (descriptor : DataPointDescriptor)
    (described : describeBoundChannel binding modbus = some descriptor)
    (writable : descriptor.writable = true) :
    modbus.mode = .master ∧ modbus.masterSettings.passThroughMode ≠ .twoWay := by
  have source := described_modbus binding modbus descriptor described
  unfold describeBoundChannel at described
  rw [source] at described
  obtain ⟨index, _, found⟩ := List.exists_of_findSome?_eq_some described
  obtain ⟨point, _⟩ := Option.filter_eq_some_iff.mp found
  simp only [DataSource.describePoint, describePoint, Option.map_eq_some_iff] at point
  obtain ⟨register, _, rfl⟩ := point
  simp only [Bool.and_eq_true, decide_eq_true_eq] at writable
  exact writable.1

theorem writeModbusPoint_eq (pointId : String) (value : DataValue) (modbus : ModbusComponent)
    (valid : value.valid = true) (accepts : acceptsValue pointId value modbus = true)
    (master : modbus.mode = .master)
    (served : modbus.masterSettings.passThroughMode ≠ .twoWay) :
    if idle modbus then
      (writeModbusPoint pointId value modbus).2 = true ∧
      (writeModbusPoint pointId value modbus).1.pendingWrite.queued = true
    else writeModbusPoint pointId value modbus = (modbus, false) := by
  unfold acceptsValue at accepts
  unfold writeModbusPoint
  rw [valid]
  cases resolved : resolveWrite pointId value modbus with
  | none => rw [resolved] at accepts; cases accepts
  | some target =>
    obtain ⟨slot, registerIndex, scalar⟩ := target
    rw [resolved] at accepts
    dsimp only at accepts
    simp only [Bool.not_true, Bool.false_eq_true, if_false]
    cases looked : modbus.channelForSlot slot with
    | none => rw [looked] at accepts; cases accepts
    | some channel =>
      rw [looked] at accepts
      simp only [Bool.and_eq_true, decide_eq_true_eq] at accepts
      obtain ⟨⟨inside, writable⟩, built⟩ := accepts
      have register : ¬ (decide (registerIndex ≥ channel.quantity) ||
          !writableType channel.dataType) = true := by
        rw [writable, Bool.not_true, Bool.or_false, decide_eq_true_eq, ge_iff_le,
          UInt8.not_le]
        exact inside
      have busy : (decide (modbus.mode ≠ .master) || !modbus.active ||
          decide (modbus.masterSettings.passThroughMode = .twoWay) ||
          modbus.pendingWrite.queued || modbus.writeInFlight) = !idle modbus := by
        rw [decide_eq_false (not_not.mpr master), decide_eq_false served, idle]
        cases modbus.active <;> cases modbus.pendingWrite.queued <;>
          cases modbus.writeInFlight <;> rfl
      unfold ModbusComponent.writePoint
      rw [busy, looked]
      cases free : idle modbus with
      | false => rfl
      | true =>
        simp only [Bool.not_true, Bool.false_eq_true, if_false, if_true]
        rw [if_neg register]
        cases request : buildWriteRequest channel registerIndex scalar 17 with
        | error status => rw [request] at built; cases built
        | ok bytes => exact ⟨rfl, rfl⟩

theorem executeCommand_deliverable (command : ChannelWriteCommand) (channels : ChannelRegistry)
    (modbus : ModbusComponent) (fit : deliverable channels modbus command = true) :
    if idle modbus then
      (executeCommand command channels modbus).2 = .executed ∧
      idle (executeCommand command channels modbus).1 = false
    else (executeCommand command channels modbus).2 = .executionFailed := by
  unfold deliverable at fit
  cases found : channels.find command.channelId with
  | none => rw [found] at fit; cases fit
  | some binding =>
    rw [found] at fit
    cases described : describeBoundChannel binding modbus with
    | none => simp [described] at fit
    | some descriptor =>
      simp only [described, Bool.and_eq_true, beq_iff_eq] at fit
      obtain ⟨⟨⟨enabled, bindingWritable⟩, writable, typed⟩, accepts⟩ := fit
      have source := described_modbus binding modbus descriptor described
      obtain ⟨master, served⟩ :=
        described_writable binding modbus descriptor described writable
      have valid : (commandValue command).valid = true := by
        unfold commandValue
        cases command.valueType <;> rfl
      have written := writeModbusPoint_eq binding.pointId (commandValue command) modbus valid
        accepts master served
      unfold executeCommand
      simp only [found, described, source, enabled, bindingWritable, writable, typed,
        Bool.not_true, Bool.or_false, Bool.false_eq_true, if_false, ne_eq, not_true_eq_false]
      cases free : idle modbus with
      | true =>
        rw [free, if_pos rfl] at written
        have busy : idle (writeModbusPoint binding.pointId (commandValue command) modbus).1 =
            false := by
          rw [idle, written.2, Bool.not_true, Bool.and_false, Bool.false_and]
        rw [if_pos rfl]
        exact ⟨if_pos written.1, busy⟩
      | false =>
        rw [free, if_neg Bool.false_ne_true] at written
        have refused : ¬ (writeModbusPoint binding.pointId (commandValue command) modbus).2 =
            true := by
          rw [written]
          exact Bool.false_ne_true
        rw [if_neg Bool.false_ne_true]
        exact if_neg refused

theorem configuration_executeCommand (command : ChannelWriteCommand) (channels : ChannelRegistry)
    (modbus : ModbusComponent) :
    (executeCommand command channels modbus).1.configuration = modbus.configuration := by
  unfold executeCommand
  split
  · rfl
  · split
    · rfl
    · split
      · rename_i source descriptor _ _
        split
        · rfl
        · split
          · rfl
          · cases source with
            | victron => rfl
            | gnss => rfl
            | modbus =>
              dsimp only [DataSource.writePoint]
              unfold writeModbusPoint
              split
              · rfl
              · split
                · rfl
                · exact ModbusComponent.configuration_writePoint _ _ _ modbus
      · rfl

theorem deliverable_congr (channels : ChannelRegistry) (a b : ModbusComponent)
    (same : a.configuration = b.configuration) (command : ChannelWriteCommand) :
    deliverable channels a command = deliverable channels b command := by
  simp only [ModbusComponent.configuration, ComponentConfiguration.mk.injEq] at same
  obtain ⟨mode, active, rs485, master, list⟩ := same
  have lookup : a.channelForSlot = b.channelForSlot := by
    funext slot
    rw [ModbusComponent.channelForSlot, ModbusComponent.channelForSlot, list]
  have resolved : ∀ pointId value, resolveWrite pointId value a = resolveWrite pointId value b := by
    intro pointId value
    unfold resolveWrite
    rw [lookup]
  have point : ∀ index, describePoint index a = describePoint index b := by
    intro index
    unfold describePoint
    rw [mode, master, list]
  have source : ∀ source : DataSource, source.pointCount a = source.pointCount b ∧
      ∀ index, source.describePoint index a = source.describePoint index b := by
    intro source
    cases source with
    | modbus =>
      refine ⟨?_, point⟩
      simp only [DataSource.pointCount, pointCount, list]
    | victron | gnss => exact ⟨rfl, fun _ => rfl⟩
  have described : ∀ binding, describeBoundChannel binding a = describeBoundChannel binding b := by
    intro binding
    unfold describeBoundChannel
    cases dataSourceForId binding.sourceId with
    | none => rfl
    | some kind => simp only [Option.bind_eq_bind, Option.bind_some, source kind]
  unfold deliverable acceptsValue
  simp only [described, resolved, lookup]

/-! Taking commands from the queue. -/

theorem processCommands_log (timestampUnix : UInt32) (left : Nat) (core : CommandCore) :
    ∃ more, (processCommands timestampUnix left core).log = core.log ++ more := by
  induction left generalizing core with
  | zero => exact ⟨[], (List.append_nil core.log).symm⟩
  | succ left ih =>
    unfold processCommands
    cases taken : core.commands.dequeue with
    | none => exact ⟨[], (List.append_nil core.log).symm⟩
    | some entry =>
      obtain ⟨command, commands⟩ := entry
      obtain ⟨more, grown⟩ :=
        ih (processCommand command timestampUnix { core with commands := commands })
      refine ⟨(command, (executeCommand command core.channels core.modbus).2) :: more, ?_⟩
      dsimp only
      rw [grown, List.append_cons]
      rfl

theorem processCommands_frame (timestampUnix : UInt32) (left : Nat) (core : CommandCore) :
    (processCommands timestampUnix left core).channels = core.channels ∧
    (processCommands timestampUnix left core).modbus.configuration =
      core.modbus.configuration ∧
    (processCommands timestampUnix left core).commands.contents <:+
      core.commands.contents := by
  induction left generalizing core with
  | zero => exact ⟨rfl, rfl, List.suffix_rfl⟩
  | succ left ih =>
    unfold processCommands
    cases taken : core.commands.dequeue with
    | none => exact ⟨rfl, rfl, List.suffix_rfl⟩
    | some entry =>
      obtain ⟨command, commands⟩ := entry
      obtain ⟨channels, configuration, contents⟩ :=
        ih (processCommand command timestampUnix { core with commands := commands })
      have executed := configuration_executeCommand command core.channels core.modbus
      have shorter := CommandBus.contents_dequeue command core.commands commands taken
      refine ⟨channels, configuration.trans executed, contents.trans ?_⟩
      rw [shorter]
      exact List.suffix_cons command commands.contents

theorem failed_not_delivered (timestampUnix : UInt32) (left : Nat) (core : CommandCore)
    (log : List (ChannelWriteCommand × CommandOutcome)) (command : ChannelWriteCommand)
    (failed : core.log = log ++ [(command, .executionFailed)])
    (waiting expected : List (ChannelWriteCommand × CommandOutcome)) :
    (processCommands timestampUnix left core).log ++ waiting ≠
      log ++ (command, .executed) :: expected := by
  obtain ⟨more, grown⟩ := processCommands_log timestampUnix left core
  rw [grown, failed, List.append_assoc, List.append_assoc]
  intro same
  have heads := List.append_cancel_left same
  simp only [List.cons_append, List.cons.injEq, Prod.mk.injEq, reduceCtorEq, and_false,
    false_and] at heads

/-- The commands at hand are delivered exactly if there is at most one, and the component is idle
for it. -/
theorem processCoreCommands_delivers_iff (timestampUnix : UInt32) (core : CommandCore)
    (fit : ∀ command ∈ core.commands.contents,
      deliverable core.channels core.modbus command = true) :
    (processCoreCommands timestampUnix core).log ++
        (processCoreCommands timestampUnix core).commands.contents.map
          (·, CommandOutcome.executed) =
      core.log ++ core.commands.contents.map (·, CommandOutcome.executed) ↔
    core.commands.contents.length = 0 ∨
      (core.commands.contents.length = 1 ∧ idle core.modbus = true) := by
  unfold processCoreCommands
  rw [processCommands]
  cases taken : core.commands.dequeue with
  | none =>
    have empty := (CommandBus.dequeue_eq_none_iff core.commands).mp taken
    exact iff_of_true rfl (.inl (List.length_eq_zero_iff.mpr empty))
  | some entry =>
    obtain ⟨command, commands⟩ := entry
    have held := CommandBus.contents_dequeue command core.commands commands taken
    rw [held] at fit ⊢
    have outcome := executeCommand_deliverable command core.channels core.modbus
      (fit command List.mem_cons_self)
    have kept := configuration_executeCommand command core.channels core.modbus
    dsimp only
    cases free : idle core.modbus with
    | false =>
      rw [free, if_neg Bool.false_ne_true] at outcome
      refine iff_of_false ?_ ?_
      · refine failed_not_delivered timestampUnix 3 _ core.log command ?_ _ _
        rw [← outcome]
        rfl
      · rintro (none | ⟨_, idle⟩)
        · cases none
        · cases idle
    | true =>
      rw [free, if_pos rfl] at outcome
      obtain ⟨executed, busy⟩ := outcome
      rw [processCommands]
      cases next : commands.dequeue with
      | none =>
        have last := (CommandBus.dequeue_eq_none_iff commands).mp next
        refine iff_of_true ?_ (.inr ⟨by rw [last]; rfl, rfl⟩)
        simp only [processCommand, next, executed, last, List.map_nil, List.append_nil,
          List.map_cons]
      | some entry =>
        obtain ⟨second, others⟩ := entry
        have pair := CommandBus.contents_dequeue second commands others next
        have fits := fit second (List.mem_cons_of_mem command (by
          rw [pair]
          exact List.mem_cons_self))
        rw [← deliverable_congr core.channels _ core.modbus kept] at fits
        have refused := executeCommand_deliverable second core.channels _ fits
        rw [busy, if_neg Bool.false_ne_true] at refused
        refine iff_of_false ?_ ?_
        · simp only [processCommand, next, executed, pair, List.map_cons]
          rw [List.append_cons core.log _ ((second, CommandOutcome.executed) :: _)]
          refine failed_not_delivered timestampUnix 2 _ _ second ?_ _ _
          rw [refused]
        · rw [pair]
          rintro (none | ⟨one, _⟩)
          · cases none
          · cases one

namespace CommandRun

structure Steady (core : CommandCore) (r : CommandRun) : Prop where
  delivered : Delivered r
  channels : r.core.channels = core.channels
  configuration : r.core.modbus.configuration = core.modbus.configuration
  fit : ∀ command ∈ r.core.commands.contents,
    deliverable core.channels core.modbus command = true

def Admissible (core : CommandCore) : CommandStep → Prop
  | .enqueue command => deliverable core.channels core.modbus command = true
  | _ => True

theorem delivered_step_iff (core : CommandCore) (r : CommandRun) (x : CommandStep)
    (steady : Steady core r) : Delivered (step r x) ↔ Unhurried r x := by
  have delivered := steady.delivered
  unfold Delivered at delivered ⊢
  cases x with
  | enqueue command =>
    refine iff_of_true ?_ trivial
    have longer := CommandBus.contents_enqueue command r.core.commands
    simp only [step]
    rw [longer, List.map_append, List.map_append, ← delivered, List.append_assoc]
  | processCoreCommands timestampUnix =>
    have fit : ∀ command ∈ r.core.commands.contents,
        deliverable r.core.channels r.core.modbus command = true := by
      intro command member
      rw [steady.channels, deliverable_congr _ _ _ steady.configuration]
      exact steady.fit command member
    simp only [step, Unhurried]
    rw [← processCoreCommands_delivers_iff timestampUnix r.core fit, delivered]
  | loop nowMs nowUs => exact iff_of_true delivered trivial
  | bus port => exact iff_of_true delivered trivial

theorem steady_step (core : CommandCore) (r : CommandRun) (x : CommandStep)
    (steady : Steady core r) (admissible : Admissible core x) (delivered : Delivered (step r x)) :
    Steady core (step r x) := by
  cases x with
  | enqueue command =>
    refine ⟨delivered, steady.channels, steady.configuration, ?_⟩
    intro held member
    simp only [step, CommandBus.contents_enqueue, List.mem_append] at member
    rcases member with member | member
    · exact steady.fit held member
    · split at member
      · rw [List.mem_singleton.mp member]
        exact admissible
      · cases member
  | processCoreCommands timestampUnix =>
    obtain ⟨channels, configuration, suffix⟩ := processCommands_frame timestampUnix 4 r.core
    exact ⟨delivered, channels.trans steady.channels,
      configuration.trans steady.configuration,
      fun held member => steady.fit held (suffix.subset member)⟩
  | loop nowMs nowUs =>
    exact ⟨delivered, steady.channels,
      (ModbusComponent.configuration_loop nowMs nowUs r.core.modbus).trans steady.configuration,
      steady.fit⟩
  | bus port => exact ⟨delivered, steady.channels, steady.configuration, steady.fit⟩

/-- The accepted commands are all carried out in their order, up to those that still wait,
exactly if no step for the commands is hurried. -/
theorem commands_delivered_iff (core : CommandCore) (steps : List CommandStep)
    (waiting : ∀ command ∈ core.commands.contents,
      deliverable core.channels core.modbus command = true)
    (coming : ∀ command, .enqueue command ∈ steps →
      deliverable core.channels core.modbus command = true) :
    Always step (fun r x => Delivered (step r x)) (start core) steps ↔
      Always step Unhurried (start core) steps := by
  refine always_iff_along step (Steady core) (fun _ => Admissible core) _ _
    (fun r x steady _ => delivered_step_iff core r x steady)
    (fun r x steady admissible delivered => steady_step core r x steady admissible delivered)
    (start core) steps ⟨rfl, rfl, rfl, waiting⟩ (always_of_forall step _ _ _ ?_)
  intro x member
  cases x with
  | enqueue command => exact coming command member
  | processCoreCommands | loop | bus => trivial

/-- An active master with a coil in the first slot, which is bound to channel 1. -/
def coilCore : CommandCore where
  commands := ⟨RingQueue.empty {} (by decide), 0⟩
  channels := (bindCompatibilityChannel {} {}).1
  modbus := (ModbusComponent.upsertChannel {} { mode := .master, active := true }).1

def coilCommand : ChannelWriteCommand where
  channelId := 1
  valueType := .boolean
  booleanValue := true
  origin := Vector.ofFn fun i => ByteString.byteAt (ByteString.ascii "mqtt") i

theorem commands_delivered_coil :
    Always step (fun r x => Delivered (step r x)) (start coilCore)
        [.enqueue coilCommand, .processCoreCommands 0] ↔
      Always step Unhurried (start coilCore) [.enqueue coilCommand, .processCoreCommands 0] := by
  refine commands_delivered_iff coilCore [.enqueue coilCommand, .processCoreCommands 0] ?_ ?_
  · intro command member
    cases member
  · intro command member
    rcases List.mem_cons.mp member with same | member
    · rw [CommandStep.enqueue.inj same]
      decide +kernel
    · cases List.mem_singleton.mp member

/-- Two commands for the coil are accepted and taken together; the second is lost. -/
theorem second_command_lost :
    deliverable coilCore.channels coilCore.modbus coilCommand = true ∧
    ¬ Always step (fun r x => Delivered (step r x)) (start coilCore)
      [.enqueue coilCommand, .enqueue coilCommand, .processCoreCommands 0] := by
  refine ⟨by decide +kernel, fun always => ?_⟩
  simp only [always_cons] at always
  have lost : ¬ Delivered (step (step (step (start coilCore) (.enqueue coilCommand))
      (.enqueue coilCommand)) (.processCoreCommands 0)) := by
    unfold Delivered
    decide +kernel
  exact lost always.2.2.1

end CommandRun

end Application
