import Mathlib.Tactic.TypeStar

/-! A specification as a machine over the events that a component has logged. The machine
says what an event does, or that it is not allowed then; a component meets the
specification when its log can be replayed, and its state agrees with the replayed one. -/

namespace Replay
variable {S E : Type*}

structure Machine (S E : Type*) where
  start : S
  /-- The state after an event, if the event is allowed. -/
  next : S → E → Option S

namespace Machine
variable (m : Machine S E)

/-- The state after a log, if all of its events are allowed. -/
def replay (log : List E) : Option S := log.foldlM m.next m.start

@[simp] theorem replay_nil : m.replay [] = some m.start := rfl

theorem replay_append (log more : List E) (s : S) (replayed : m.replay log = some s) :
    m.replay (log ++ more) = more.foldlM m.next s := by
  unfold replay at *
  rw [List.foldlM_append, replayed]
  rfl

theorem replay_snoc (log : List E) (e : E) (s : S) (replayed : m.replay log = some s) :
    m.replay (log ++ [e]) = m.next s e := by
  rw [replay_append m log [e] s replayed]
  simp

end Machine

end Replay
