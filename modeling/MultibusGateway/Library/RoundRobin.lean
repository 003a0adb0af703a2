import Mathlib.Data.List.Basic

/-! Places that are visited in turn, each with a limited number of failed attempts before the
next one has its turn. The log of the attempts is the visits one after the other and the failed
attempts of the visit under way. -/

namespace RoundRobin

/-- A finished visit: the failed attempts, and whether another one succeeded after them. -/
structure Visit where
  failures : Nat
  success : Bool

namespace Visit

def outcomes (v : Visit) : List Bool :=
  List.replicate v.failures false ++ if v.success then [true] else []

def Bounded (retries : Nat) (v : Visit) : Prop :=
  if v.success then v.failures ≤ retries else v.failures = retries + 1

end Visit

variable {α β : Type*}

/-- The attempts of the visits, the `k`-th one at place `k`. -/
def attempted (place : Nat → α) (visits : List Visit) : List (α × Bool) :=
  (visits.mapIdx fun k v => v.outcomes.map fun outcome => (place k, outcome)).flatten

def published (place : Nat → β) (visits : List Visit) : List (β × Bool) :=
  visits.mapIdx fun k v => (place k, v.success)

theorem attempted_snoc (place : Nat → α) (visits : List Visit) (v : Visit) :
    attempted place (visits ++ [v]) =
      attempted place visits ++ v.outcomes.map fun outcome => (place visits.length, outcome) := by
  rw [attempted, List.mapIdx_concat, List.flatten_append, List.flatten_singleton, attempted]

theorem published_snoc (place : Nat → β) (visits : List Visit) (v : Visit) :
    published place (visits ++ [v]) =
      published place visits ++ [(place visits.length, v.success)] := by
  rw [published, List.mapIdx_concat, published]

/-- The logs of attempts and publications after some visits and failed attempts of the next. -/
structure InTurn (retries : Nat) (asked : Nat → α) (shown : Nat → β) (visits : List Visit)
    (failures : Nat) (attempts : List (α × Bool)) (completions : List (β × Bool)) : Prop where
  bounded : ∀ v ∈ visits, v.Bounded retries
  waiting : failures ≤ retries
  attempts : attempts =
    attempted asked visits ++ List.replicate failures (asked visits.length, false)
  completions : completions = published shown visits

variable {retries : Nat} {asked : Nat → α} {shown : Nat → β} {visits : List Visit}
  {failures : Nat} {attempts : List (α × Bool)} {completions : List (β × Bool)}

theorem InTurn.start (waiting : failures ≤ retries) :
    InTurn retries asked shown [] failures (List.replicate failures (asked 0, false)) [] :=
  ⟨fun _ member => absurd member List.not_mem_nil, waiting, rfl, rfl⟩

theorem InTurn.retry (turn : InTurn retries asked shown visits failures attempts completions)
    (more : failures < retries) :
    InTurn retries asked shown visits (failures + 1)
      (attempts ++ [(asked visits.length, false)]) completions := by
  refine ⟨turn.bounded, more, ?_, turn.completions⟩
  rw [turn.attempts, List.append_assoc, ← List.replicate_succ']

theorem InTurn.complete (turn : InTurn retries asked shown visits failures attempts completions)
    (success : Bool) (last : success = false → failures = retries) :
    ∃ v : Visit, v.success = success ∧
      InTurn retries asked shown (visits ++ [v]) 0 (attempts ++ [(asked visits.length, success)])
        (completions ++ [(shown visits.length, success)]) := by
  have waiting := turn.waiting
  cases success with
  | true =>
    refine ⟨⟨failures, true⟩, rfl, fun v member => ?_, Nat.zero_le _, ?_, ?_⟩
    · rcases List.mem_append.mp member with before | new
      · exact turn.bounded v before
      · rw [List.mem_singleton.mp new]
        exact waiting
    · rw [turn.attempts, attempted_snoc, List.replicate_zero, List.append_nil, List.append_assoc]
      simp [Visit.outcomes]
    · rw [turn.completions, published_snoc]
  | false =>
    refine ⟨⟨failures + 1, false⟩, rfl, fun v member => ?_, Nat.zero_le _, ?_, ?_⟩
    · rcases List.mem_append.mp member with before | new
      · exact turn.bounded v before
      · rw [List.mem_singleton.mp new]
        exact congrArg (· + 1) (last rfl)
    · rw [turn.attempts, attempted_snoc, List.replicate_zero, List.append_nil, List.append_assoc,
        ← List.replicate_succ']
      simp [Visit.outcomes]
    · rw [turn.completions, published_snoc]

end RoundRobin
