import MultibusGateway.Core.Interleaving
import MultibusGateway.Library.Replay

/-! Store and forward, over any run. The records from the marker of an outage on that are in
the ring when the snapshot is taken are all sent before the marker is cleared or replaced by
a later one, as long as no outage begins while such records are still waiting. -/

namespace Application
open ByteString Modbus Lorawan Reentrancy Execution Replay History

/-- The marker of the outage at hand, the records of the ring when the snapshot for it was
taken, and every record that a packet has carried. -/
structure Backlog where
  marker : Option UInt32 := none
  snapshot : Option (List HistoricalRecord) := none
  sent : List HistoricalRecord := []

namespace Backlog

def owes (backlog : Backlog) (record : HistoricalRecord) : Prop :=
  ∃ marker ∈ backlog.marker, marker ≤ record.timestamp ∧ record ∉ backlog.sent

instance (backlog : Backlog) (record : HistoricalRecord) : Decidable (backlog.owes record) := by
  unfold owes
  infer_instance

def send (records : List HistoricalRecord) (backlog : Backlog) : Backlog :=
  { backlog with sent := backlog.sent ++ records }

end Backlog

namespace Retransmission

def marker (r : Retransmission) : Option UInt32 :=
  if r.state.pending then some r.state.lostAtUnix else none

/-- The records that are not behind the cursor. -/
def waiting (ring : Ring) (r : Retransmission) : List HistoricalRecord :=
  if r.cursorInitialized then r.snapshot.toList.drop r.cursor else ring.toList

def taken (r : Retransmission) : Option (List HistoricalRecord) :=
  if r.cursorInitialized then some r.snapshot.toList else none

/-- The state holds the marker and the snapshot of the backlog, and nothing is owed of the
records before the cursor and of so many behind it. -/
structure Agrees (count : Nat) (r : Retransmission) (backlog : Backlog) : Prop where
  marker : backlog.marker = r.marker
  snapshot : backlog.snapshot = r.taken
  paid : ∀ records ∈ r.taken, ∀ record ∈ records.take (r.cursor + count), ¬ backlog.owes record

def Started (r : Retransmission) : Prop := r.state.pending = true → r.cursorInitialized = true

def GivesUp (a b : Retransmission) : Prop :=
  b = a ∨ a.state.pending = true ∧
    b = { a with state := {}, cursorInitialized := false, log := a.log ++ [.abandoned] }

theorem GivesUp.trans {a b c : Retransmission} (first : GivesUp a b) (second : GivesUp b c) :
    GivesUp a c := by
  obtain rfl | ⟨pending, rfl⟩ := first
  · exact second
  · obtain rfl | ⟨again, -⟩ := second
    · exact .inr ⟨pending, rfl⟩
    · cases again

theorem GivesUp.started {a b : Retransmission} (gives : GivesUp a b) (started : a.Started) :
    b.Started := by
  obtain rfl | ⟨-, rfl⟩ := gives
  · exact started
  · intro pending
    cases pending

end Retransmission

def online (exchanges : List Exchange) : Call := .network { exchanges := exchanges }

end Application
