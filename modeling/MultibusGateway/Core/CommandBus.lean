import MultibusGateway.Library.BinaryFloat
import MultibusGateway.Library.ByteString
import MultibusGateway.Library.RingQueue

/-! The queue of the write commands that come in over the transports. A command that is accepted
is given the next sequence number and goes to the end. -/

namespace Commands
open ByteString BinaryFloat

inductive CommandValueType where
  | boolean | int64 | uint64 | float64 | text
  deriving DecidableEq

def kCommandOriginLength : Nat := 16

def kCommandTextLength : Nat := 96

structure ChannelWriteCommand where
  sequence : UInt64 := 0
  channelId : UInt16 := 0
  valueType : CommandValueType := .float64
  booleanValue : Bool := false
  intValue : Int64 := 0
  uintValue : UInt64 := 0
  floatValue : Binary64 := ⟨0⟩
  textValue : Vector UInt8 kCommandTextLength := Vector.replicate _ 0
  origin : Vector UInt8 kCommandOriginLength := Vector.replicate _ 0
  deriving DecidableEq

def validCommandText {capacity : Nat} (input : Vector UInt8 capacity)
    (allowEmpty : Bool) : Bool :=
  let length := (cStr input.toList).length
  capacity != 0 && (allowEmpty || 0 < length) && length < capacity

structure CommandBus (capacity : Nat) where
  queue : RingQueue ChannelWriteCommand capacity
  latestSequence : UInt64 := 0

namespace CommandBus
variable {capacity : Nat}

/-- A command as `enqueue` stores it. -/
def numbered (command : ChannelWriteCommand) (bus : CommandBus capacity) : ChannelWriteCommand :=
  { command with sequence := bus.latestSequence + 1 }

def enqueue (command : ChannelWriteCommand) (bus : CommandBus capacity) :
    CommandBus capacity × Bool :=
  if command.channelId = 0 || !validCommandText command.origin false then (bus, false)
  else
    match bus.queue.push (bus.numbered command) with
    | none => (bus, false)
    | some queue => ({ queue := queue, latestSequence := bus.latestSequence + 1 }, true)

def dequeue (bus : CommandBus capacity) : Option (ChannelWriteCommand × CommandBus capacity) :=
  match bus.queue.pop {} with
  | none => none
  | some (command, queue) => some (command, { bus with queue := queue })

/-- Every cell is blank again; the numbers go on. -/
def clear (bus : CommandBus capacity) : CommandBus capacity :=
  { bus with queue := RingQueue.empty {} bus.queue.capacity_pos }

/-- The commands in the order in which they will be taken. -/
def contents (bus : CommandBus capacity) : List ChannelWriteCommand := bus.queue.contents

theorem contents_enqueue (command : ChannelWriteCommand) (bus : CommandBus capacity) :
    (bus.enqueue command).1.contents =
      bus.contents ++ if (bus.enqueue command).2 then [bus.numbered command] else [] := by
  unfold enqueue
  split
  · exact (List.append_nil bus.contents).symm
  · cases pushed : bus.queue.push (bus.numbered command) with
    | none => exact (List.append_nil bus.contents).symm
    | some queue => exact RingQueue.contents_push _ bus.queue queue pushed

theorem dequeue_eq_none_iff (bus : CommandBus capacity) :
    bus.dequeue = none ↔ bus.contents = [] := by
  rw [contents, ← RingQueue.pop_eq_none_iff {} bus.queue]
  unfold dequeue
  cases bus.queue.pop {} with
  | none => exact iff_of_true rfl rfl
  | some taken => exact iff_of_false (fun none => by cases none) (fun none => by cases none)

theorem contents_dequeue (command : ChannelWriteCommand) (bus left : CommandBus capacity)
    (taken : bus.dequeue = some (command, left)) : bus.contents = command :: left.contents := by
  unfold dequeue at taken
  cases popped : bus.queue.pop {} with
  | none => rw [popped] at taken; cases taken
  | some entry =>
    rw [popped] at taken
    obtain ⟨rfl, rfl⟩ := Prod.mk.inj (Option.some.inj taken)
    exact RingQueue.contents_pop {} _ bus.queue _ popped

theorem contents_clear (bus : CommandBus capacity) : bus.clear.contents = [] := rfl

theorem latestSequence_enqueue (command : ChannelWriteCommand) (bus : CommandBus capacity) :
    (bus.enqueue command).1.latestSequence =
      bus.latestSequence + if (bus.enqueue command).2 then 1 else 0 := by
  unfold enqueue
  split
  · exact (UInt64.add_zero _).symm
  · cases bus.queue.push (bus.numbered command) with
    | none => exact (UInt64.add_zero _).symm
    | some queue => rfl

theorem latestSequence_dequeue (command : ChannelWriteCommand) (bus left : CommandBus capacity)
    (taken : bus.dequeue = some (command, left)) : left.latestSequence = bus.latestSequence := by
  unfold dequeue at taken
  split at taken
  · cases taken
  · obtain ⟨-, rfl⟩ := Prod.mk.inj (Option.some.inj taken)
    rfl

end CommandBus

end Commands
