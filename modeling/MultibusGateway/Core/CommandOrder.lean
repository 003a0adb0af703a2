import MultibusGateway.Core.CommandBus
import MultibusGateway.Library.Execution
import MultibusGateway.Library.Ledger

/-! Runs of the bus. Beside it a ledger keeps every command that was accepted; what is dequeued is
what the ledger says, and the numbers are those of its lines. -/

namespace Commands
open ByteString Ledger Execution

inductive BusEvent where
  | enqueue (command : ChannelWriteCommand)
  | dequeue
  | clear

structure Accepted where
  given : ChannelWriteCommand
  sequence : UInt64

/-- The command with its number, all else as it was given. -/
def Accepted.command (accepted : Accepted) : ChannelWriteCommand :=
  { accepted.given with sequence := accepted.sequence }

/-- The bus, the ledger and the commands that came out. -/
structure BusTrace (capacity : ℕ) where
  bus : CommandBus capacity
  ledger : List (Entry Accepted) := []
  dequeued : List ChannelWriteCommand := []

namespace BusTrace
variable {capacity : ℕ}

def start (positive : 0 < capacity) : BusTrace capacity where
  bus := { queue := RingQueue.empty {} positive }

def step (t : BusTrace capacity) : BusEvent → BusTrace capacity
  | .enqueue command =>
    let enqueued := t.bus.enqueue command
    { t with
      bus := enqueued.1
      ledger := if enqueued.2 then accept ⟨command, enqueued.1.latestSequence⟩ t.ledger
        else t.ledger }
  | .dequeue =>
    match t.bus.dequeue with
    | none => t
    | some (command, bus) =>
      { bus := bus, ledger := take t.ledger, dequeued := t.dequeued ++ [command] }
  | .clear => { t with bus := t.bus.clear, ledger := Ledger.clear t.ledger }

/-- The numbers of the commands that were accepted, in the order of acceptance. -/
def sequences (t : BusTrace capacity) : List UInt64 :=
  t.ledger.map fun entry => entry.item.sequence

structure Agrees (t : BusTrace capacity) : Prop where
  ordered : InOrder t.ledger
  waiting : t.bus.contents = (having .waiting t.ledger).map Accepted.command
  taken : t.dequeued = (having .taken t.ledger).map Accepted.command
  latest : t.bus.latestSequence = UInt64.ofNat t.ledger.length
  numbers : t.sequences = (List.range t.ledger.length).map fun line => UInt64.ofNat (line + 1)

theorem agrees_start (positive : 0 < capacity) : (start positive).Agrees where
  ordered := List.Pairwise.nil
  waiting := rfl
  taken := rfl
  latest := rfl
  numbers := rfl

theorem sequences_eq (t : BusTrace capacity) :
    t.sequences = (t.ledger.map Entry.item).map Accepted.sequence := by
  rw [sequences, List.map_map]
  rfl

theorem Agrees.enqueue {t : BusTrace capacity} (agrees : t.Agrees)
    (command : ChannelWriteCommand) : (t.step (.enqueue command)).Agrees := by
  have contents := CommandBus.contents_enqueue command t.bus
  have latest := CommandBus.latestSequence_enqueue command t.bus
  rw [step]
  generalize t.bus.enqueue command = enqueued at contents latest ⊢
  obtain ⟨bus, accepted⟩ := enqueued
  cases accepted with
  | false =>
    rw [if_neg Bool.false_ne_true, List.append_nil] at contents
    rw [if_neg Bool.false_ne_true, UInt64.add_zero] at latest
    exact
      { ordered := agrees.ordered
        waiting := contents.trans agrees.waiting
        taken := agrees.taken
        latest := latest.trans agrees.latest
        numbers := agrees.numbers }
  | true =>
    have number : bus.latestSequence = t.bus.latestSequence + 1 := latest
    have stored : t.bus.numbered command =
        Accepted.command ⟨command, bus.latestSequence⟩ := by
      rw [number]
      rfl
    have length : (accept (⟨command, bus.latestSequence⟩ : Accepted) t.ledger).length =
        t.ledger.length + 1 := by
      rw [accept, List.length_append, List.length_singleton]
    have next : bus.latestSequence = UInt64.ofNat (t.ledger.length + 1) := by
      rw [UInt64.ofNat_add, ← agrees.latest]
      exact number
    exact
      { ordered := agrees.ordered.accept _
        waiting := by
          rw [if_pos rfl, having_accept, if_pos rfl, List.map_append, ← agrees.waiting,
            List.map_singleton, ← stored]
          exact contents
        taken := by
          rw [if_pos rfl, having_accept, if_neg (by decide), List.append_nil]
          exact agrees.taken
        latest := by
          rw [if_pos rfl, length]
          exact next
        numbers := by
          rw [sequences_eq, if_pos rfl, length, List.range_succ, List.map_append,
            ← agrees.numbers, sequences_eq, map_item_accept, List.map_append]
          exact congrArg _ (congrArg List.singleton next) }

theorem Agrees.dequeue {t : BusTrace capacity} (agrees : t.Agrees) :
    (t.step .dequeue).Agrees := by
  rw [step]
  cases taken : t.bus.dequeue with
  | none => exact agrees
  | some pair =>
    obtain ⟨command, bus⟩ := pair
    have contents := CommandBus.contents_dequeue command t.bus bus taken
    have latest := CommandBus.latestSequence_dequeue command t.bus bus taken
    have items := map_item_take t.ledger
    have length : (take t.ledger).length = t.ledger.length := by
      simpa using congrArg List.length items
    rw [agrees.waiting] at contents
    cases waiting : having .waiting t.ledger with
    | nil =>
      rw [waiting] at contents
      cases contents
    | cons first rest =>
      rw [waiting, List.map_cons, List.cons.injEq] at contents
      exact
        { ordered := agrees.ordered.take
          waiting := by rw [having_waiting_take, waiting, ← contents.2]; rfl
          taken := by
            rw [having_taken_take _ agrees.ordered, waiting, List.map_append, ← agrees.taken,
              ← contents.1]
            rfl
          latest := by rw [length, ← agrees.latest]; exact latest
          numbers := by
            rw [length, ← agrees.numbers, sequences_eq, sequences_eq]
            exact congrArg _ items }

theorem Agrees.clear {t : BusTrace capacity} (agrees : t.Agrees) : (t.step .clear).Agrees := by
  have items := map_item_clear t.ledger
  have length : (Ledger.clear t.ledger).length = t.ledger.length := by
    simpa using congrArg List.length items
  exact
    { ordered := inOrder_clear t.ledger
      waiting := by
        rw [step, having_clear _ (by decide)]
        exact CommandBus.contents_clear t.bus
      taken := by
        rw [step, having_clear _ (by decide)]
        exact agrees.taken
      latest := by
        rw [step, length]
        exact agrees.latest
      numbers := by
        rw [sequences_eq, step, length, ← agrees.numbers, sequences_eq]
        exact congrArg _ items }

theorem Agrees.step {t : BusTrace capacity} (agrees : t.Agrees) (event : BusEvent) :
    (t.step event).Agrees := by
  cases event with
  | enqueue command => exact agrees.enqueue command
  | dequeue => exact agrees.dequeue
  | clear => exact agrees.clear

theorem agrees_run (positive : 0 < capacity) (events : List BusEvent) :
    (run step (start positive) events).Agrees :=
  invariant_run step Agrees (fun _ _ => True) (fun _ event agrees _ => agrees.step event) _ _
    (agrees_start positive) (fun _ _ => trivial)

theorem sequences_increase (n : ℕ) (few : n < 2 ^ 64) :
    ((List.range n).map fun line => UInt64.ofNat (line + 1)).Pairwise (· < ·) := by
  rw [List.pairwise_map]
  refine List.pairwise_lt_range.imp_of_mem ?_
  intro first later _ inside before
  have bound := List.mem_range.mp inside
  rw [UInt64.lt_iff_toNat_lt, UInt64.toNat_ofNat', UInt64.toNat_ofNat']
  omega

end BusTrace

theorem length_cStr_lt_iff (text : Bytes) : (cStr text).length < text.length ↔ 0 ∈ text := by
  induction text with
  | nil => simp
  | cons c text ih =>
    rw [cStr] at ih ⊢
    rw [List.takeWhile_cons, List.mem_cons]
    by_cases zero : c = 0
    · simp [zero]
    · have other : (0 : UInt8) ≠ c := fun same => zero same.symm
      simp [zero, other, ih]

theorem length_cStr_pos_iff (text : Bytes) (ends : 0 ∈ text) :
    0 < (cStr text).length ↔ text.head? ≠ some 0 := by
  cases text with
  | nil => cases ends
  | cons c text =>
    rw [cStr, List.takeWhile_cons, List.head?_cons]
    by_cases zero : c = 0 <;> simp [zero]

/-- The buffer holds a text that is not empty, and where it ends. -/
def Named {capacity : ℕ} (input : Vector UInt8 capacity) : Prop :=
  0 ∈ input.toList ∧ input.toList.head? ≠ some 0

theorem validCommandText_iff {capacity : ℕ} (input : Vector UInt8 capacity) :
    validCommandText input false = true ↔ Named input := by
  have size : input.toList.length = capacity := Vector.length_toList
  have inside := length_cStr_lt_iff input.toList
  rw [size] at inside
  rw [validCommandText, Named]
  simp only [Bool.false_or, Bool.and_eq_true, bne_iff_ne, decide_eq_true_eq, inside]
  constructor
  · rintro ⟨⟨-, some_⟩, ends⟩
    exact ⟨ends, (length_cStr_pos_iff _ ends).mp some_⟩
  · rintro ⟨ends, some_⟩
    refine ⟨⟨?_, (length_cStr_pos_iff _ ends).mpr some_⟩, ends⟩
    exact Nat.ne_zero_of_lt (inside.mpr ends)

section
variable {capacity : ℕ} (command : ChannelWriteCommand) (bus : CommandBus capacity)

theorem enqueue_refused_iff :
    (bus.enqueue command).2 = false ↔
      bus.contents.length = capacity ∨ command.channelId = 0 ∨ ¬ Named command.origin := by
  rw [CommandBus.contents, ← RingQueue.push_eq_none_iff (bus.numbered command),
    ← validCommandText_iff, CommandBus.enqueue, Bool.not_eq_true]
  by_cases bad : command.channelId = 0 ∨ validCommandText command.origin false = false
  · simp [bad]
  · cases bus.queue.push (bus.numbered command) <;> simp [bad]

theorem enqueue_refused (refused : (bus.enqueue command).2 = false) :
    (bus.enqueue command).1 = bus := by
  unfold CommandBus.enqueue at refused ⊢
  split
  · rfl
  · rename_i good
    rw [if_neg good] at refused
    cases pushed : bus.queue.push (bus.numbered command) with
    | none => rfl
    | some queue =>
      rw [pushed] at refused
      cases refused

end

/-- The bus is a queue with numbers: in every run what is dequeued are the accepted commands that
were not cleared, in the order of acceptance and all as given but for the number; what is refused
is refused for the reasons stated and changes nothing; and the numbers of the accepted commands
are 1, 2, 3 and so on, strictly increasing as long as they are fewer than can be told apart. -/
theorem commands_in_order (capacity : ℕ) (positive : 0 < capacity) (events : List BusEvent) :
    let t := run BusTrace.step (BusTrace.start positive) events
    t.dequeued = (having .taken t.ledger).map Accepted.command ∧
    t.bus.contents = (having .waiting t.ledger).map Accepted.command ∧
    (t.bus.dequeue = none ↔ having .waiting t.ledger = []) ∧
    (∀ command, (t.bus.enqueue command).2 = false ↔
      t.bus.contents.length = capacity ∨ command.channelId = 0 ∨ ¬ Named command.origin) ∧
    (∀ command, (t.bus.enqueue command).2 = false → (t.bus.enqueue command).1 = t.bus) ∧
    t.sequences = (List.range t.ledger.length).map (fun line => UInt64.ofNat (line + 1)) ∧
    (t.ledger.length < 2 ^ 64 → t.sequences.Pairwise (· < ·)) := by
  intro t
  have agrees : t.Agrees := BusTrace.agrees_run positive events
  refine ⟨agrees.taken, agrees.waiting, ?_, fun command => enqueue_refused_iff command t.bus,
    fun command => enqueue_refused command t.bus, agrees.numbers, ?_⟩
  · rw [CommandBus.dequeue_eq_none_iff, agrees.waiting, List.map_eq_nil_iff]
  · intro few
    rw [agrees.numbers]
    exact BusTrace.sequences_increase _ few

def commandFor (channelId : UInt16) : ChannelWriteCommand where
  channelId := channelId
  origin := (Vector.replicate 15 0x6d).push 0

def clearedRun : List BusEvent :=
  [.enqueue (commandFor 1), .enqueue (commandFor 2), .dequeue, .dequeue, .enqueue (commandFor 3),
    .clear, .enqueue (commandFor 4), .dequeue]

theorem commands_in_order_cleared :
    let t := run BusTrace.step (BusTrace.start (by decide : 0 < 2)) clearedRun
    t.dequeued = (having .taken t.ledger).map Accepted.command ∧
    t.bus.contents = (having .waiting t.ledger).map Accepted.command ∧
    (t.bus.dequeue = none ↔ having .waiting t.ledger = []) ∧
    (∀ command, (t.bus.enqueue command).2 = false ↔
      t.bus.contents.length = 2 ∨ command.channelId = 0 ∨ ¬ Named command.origin) ∧
    (∀ command, (t.bus.enqueue command).2 = false → (t.bus.enqueue command).1 = t.bus) ∧
    t.sequences = (List.range t.ledger.length).map (fun line => UInt64.ofNat (line + 1)) ∧
    (t.ledger.length < 2 ^ 64 → t.sequences.Pairwise (· < ·)) :=
  commands_in_order 2 (by decide) clearedRun

example :
    let t := run BusTrace.step (BusTrace.start (by decide : 0 < 2)) clearedRun
    t.dequeued.map ChannelWriteCommand.channelId = [1, 2, 4] ∧ t.sequences = [1, 2, 3, 4] := by
  decide +kernel

/-! More commands than there are numbers. -/

def turn : List BusEvent := [.enqueue (commandFor 1), .dequeue]

def turns (n : ℕ) : List BusEvent := (List.replicate n turn).flatten

theorem turn_accepted {capacity : ℕ} (positive : 0 < capacity) (t : BusTrace capacity)
    (empty : t.bus.contents = []) :
    (run BusTrace.step t turn).bus.contents = [] ∧
      (run BusTrace.step t turn).ledger.length = t.ledger.length + 1 := by
  have accepted : (t.bus.enqueue (commandFor 1)).2 = true := by
    rw [← Bool.not_eq_false, enqueue_refused_iff, empty]
    rintro (full | zero | unnamed)
    · exact positive.ne full
    · revert zero
      decide
    · revert unnamed
      rw [← validCommandText_iff]
      decide +kernel
  have contents := CommandBus.contents_enqueue (commandFor 1) t.bus
  rw [accepted, if_pos rfl, empty, List.nil_append] at contents
  have entered : (t.step (.enqueue (commandFor 1))).ledger.length = t.ledger.length + 1 := by
    rw [BusTrace.step, accepted, if_pos rfl, accept, List.length_append, List.length_singleton]
  rw [turn, run_cons, run_cons, run_nil, ← entered]
  generalize held : t.step (.enqueue (commandFor 1)) = entering
  have one : entering.bus.contents = [t.bus.numbered (commandFor 1)] := by
    rw [← held]
    exact contents
  rw [BusTrace.step]
  cases taken : entering.bus.dequeue with
  | none =>
    rw [CommandBus.dequeue_eq_none_iff, one] at taken
    cases taken
  | some pair =>
    have rest := CommandBus.contents_dequeue pair.1 entering.bus pair.2 taken
    rw [one, List.cons.injEq] at rest
    have items := congrArg List.length (map_item_take entering.ledger)
    rw [List.length_map, List.length_map] at items
    exact ⟨rest.2.symm, items⟩

theorem turns_accepted {capacity : ℕ} (positive : 0 < capacity) (n : ℕ) :
    (run BusTrace.step (BusTrace.start positive) (turns n)).bus.contents = [] ∧
      (run BusTrace.step (BusTrace.start positive) (turns n)).ledger.length = n := by
  induction n with
  | zero => exact ⟨rfl, rfl⟩
  | succ n ih =>
    have last : turns (n + 1) = turns n ++ turn := by
      rw [turns, List.replicate_succ', List.flatten_append, List.flatten_singleton]
      rfl
    obtain ⟨empty, length⟩ := turn_accepted positive _ ih.1
    rw [last, run_append, length, ih.2]
    exact ⟨empty, rfl⟩

/-- After all numbers have been used the first one is used again. -/
theorem sequence_reused :
    ¬ ∀ (capacity : ℕ) (positive : 0 < capacity) (events : List BusEvent),
      (run BusTrace.step (BusTrace.start positive) events).sequences.Pairwise (· < ·) := by
  intro increasing
  have all := increasing 1 Nat.one_pos (turns (2 ^ 64 + 1))
  rw [(BusTrace.agrees_run Nat.one_pos (turns (2 ^ 64 + 1))).numbers,
    (turns_accepted Nat.one_pos (2 ^ 64 + 1)).2, List.pairwise_map] at all
  have reused := List.pairwise_iff_getElem.mp all 0 (2 ^ 64) (by rw [List.length_range]; omega)
    (by rw [List.length_range]; omega) (by omega)
  rw [List.getElem_range, List.getElem_range] at reused
  revert reused
  decide +kernel

end Commands
