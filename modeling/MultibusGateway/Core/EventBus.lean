import MultibusGateway.Library.ByteString

/-! The ring of events that the parts of the gateway report. Every event has a sequence number,
and a reader that is too slow can tell how many it has missed. -/

namespace Events
open ByteString

inductive EventSeverity where
  | info | warning | error
  deriving DecidableEq

def kEventSourceLength : Nat := 32

def kEventTypeLength : Nat := 32

def kEventDetailLength : Nat := 128

/-- The texts are those before the zero bytes that fill their buffers. -/
structure EventRecord where
  sequence : UInt64 := 0
  timestampUnix : UInt32 := 0
  severity : EventSeverity := .info
  source : Bytes := []
  type : Bytes := []
  detail : Bytes := []
  deriving DecidableEq

/-- A text that is not empty and leaves room for its terminating zero. -/
def setEventText (capacity : Nat) (input : Bytes) : Option Bytes :=
  let text := cStr input
  if text.length = 0 || text.length ≥ capacity then none else some text

structure EventBus (capacity : Nat) where
  records : Nat → EventRecord := fun _ => {}
  count : Nat := 0
  latestSequence : UInt64 := 0

namespace EventBus
variable {capacity : Nat}

def emit (source type : Bytes) (severity : EventSeverity) (timestampUnix : UInt32)
    (detail : Bytes) (bus : EventBus capacity) : EventBus capacity × Bool :=
  match setEventText kEventSourceLength source, setEventText kEventTypeLength type with
  | some source, some type =>
    match if (cStr detail).isEmpty then some [] else setEventText kEventDetailLength detail with
    | none => (bus, false)
    | some detail =>
      let sequence := bus.latestSequence + 1
      let record := { sequence, timestampUnix, severity, source, type, detail }
      ({ records := fun slot =>
          if slot = (sequence - 1).toNat % capacity then record else bus.records slot
         count := if bus.count < capacity then bus.count + 1 else bus.count
         latestSequence := sequence }, true)
  | _, _ => (bus, false)

def clear (_ : EventBus capacity) : EventBus capacity := {}

def oldestSequence (bus : EventBus capacity) : UInt64 :=
  if bus.count = 0 then 0 else bus.latestSequence - UInt64.ofNat bus.count + 1

def missedSince (cursor : UInt64) (bus : EventBus capacity) : UInt64 :=
  if bus.count = 0 then 0
  else
    let wanted := cursor + 1
    if wanted < bus.oldestSequence then bus.oldestSequence - wanted else 0

def read (sequence : UInt64) (bus : EventBus capacity) : Option EventRecord :=
  let oldest := bus.oldestSequence
  if sequence == 0 || oldest == 0 || sequence < oldest || sequence > bus.latestSequence then none
  else
    let stored := bus.records ((sequence - 1).toNat % capacity)
    if stored.sequence != sequence then none else some stored

/-- The event after a cursor, or the oldest one that is kept, with the cursor behind it. -/
def next (cursor : UInt64) (bus : EventBus capacity) : Option (UInt64 × EventRecord) :=
  if bus.count = 0 then none
  else
    let target := cursor + 1
    let target := if target < bus.oldestSequence then bus.oldestSequence else target
    if target > bus.latestSequence then none
    else match bus.read target with
      | none => none
      | some record => some (target, record)

end EventBus

end Events
