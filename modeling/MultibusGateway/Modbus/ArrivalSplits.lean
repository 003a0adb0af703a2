import MultibusGateway.Modbus.Bookkeeping
import MultibusGateway.Modbus.WriteEcho

/-! The arrival of an answer. The bus hands the bytes of an answer over in pieces, a poll takes
what is there, and the outcome of the transaction is a function of the bytes alone. -/

namespace Modbus
open ByteString ModbusRtuMaster

/-! One look at the whole answer. -/

/-- The length of an answer to a read, as its first bytes tell it. -/
def readAnswerLength (stream : Bytes) : Option Nat :=
  if stream.length < 2 then none
  else if byteAt stream 1 &&& 0x80 != 0 then some 5
  else if stream.length < 3 then none
  else some ((byteAt stream 2).toNat + 5)

def writeAnswerLength (stream : Bytes) : Option Nat :=
  if stream.length < 2 then none
  else if byteAt stream 1 &&& 0x80 != 0 then some 5
  else some 8

/-- The decoding of the first bytes of a stream, as many as an answer has; `none` as long as
the answer is not complete. -/
def oneShot {α : Type} (answerLength : Bytes → Option Nat)
    (decode : Bytes → Except RtuFailure α) (stream : Bytes) : Option (Except RtuFailure α) :=
  (answerLength stream).bind fun n =>
    if n > kMaxFrameLength then some (.error { status := .bufferTooSmall })
    else if n ≤ stream.length then some (decode (stream.take n))
    else none

/-- The end of a transaction whose answer has been decoded. -/
def concluded {α : Type} (nothing : α) (m : ModbusRtuMaster) (decoded : Except RtuFailure α) :
    Polled α :=
  match decoded with
  | .ok value => ⟨{ m with lastExceptionCode := 0 }.finishSuccess, .success, value⟩
  | .error failure =>
    ⟨{ m with lastExceptionCode := failure.exceptionCode }.finishFailure failure.status,
      .failure, nothing⟩

/-! Polls with the bytes that arrive before them. -/

namespace ModbusRtuMaster

def receive (arrived : Bytes) (m : ModbusRtuMaster) : ModbusRtuMaster :=
  { m with port := { m.port with input := m.port.input ++ arrived } }

/-- The outcome of a poll, without what is left in the port. -/
def Polled.withoutPort {α : Type} (polled : Polled α) : Polled α :=
  { polled with master := { polled.master with port := {} } }

end ModbusRtuMaster

/-- A poll, with the time it is made at and the bytes that have arrived since the one before. -/
structure Arrival where
  nowMs : UInt32
  bytes : Bytes

def arrivedBytes (arrivals : List Arrival) : Bytes := arrivals.flatMap Arrival.bytes

section
variable {α : Type} (poll : UInt32 → ModbusRtuMaster → Polled α)

/-- The polls up to the first that is not pending. -/
def firstResult (m : ModbusRtuMaster) : List Arrival → Option (Polled α)
  | [] => none
  | arrival :: rest =>
    let polled := poll arrival.nowMs (m.receive arrival.bytes)
    if polled.result = .pending then firstResult polled.master rest else some polled

def polledMasters (m : ModbusRtuMaster) : List Arrival → List ModbusRtuMaster
  | [] => []
  | arrival :: rest =>
    let polled := poll arrival.nowMs (m.receive arrival.bytes)
    polled.master :: if polled.result = .pending then polledMasters polled.master rest else []

end

/-- How the length of an answer becomes known: with the second or third byte, and for good. -/
structure LengthRule (expectedLength : Bytes → Nat → Nat) (answerLength : Bytes → Option Nat) :
    Prop where
  grows : ∀ stream b, expectedLength (stream ++ [b]) ((answerLength stream).getD 0) =
    (answerLength (stream ++ [b])).getD 0
  keeps : ∀ stream rest n, answerLength stream = some n → answerLength (stream ++ rest) = some n
  five : ∀ stream n, answerLength stream = some n → 5 ≤ n
  early : ∀ stream, answerLength stream = none → stream.length < 3

theorem readLengthRule : LengthRule expectedReadLength readAnswerLength := by
  refine ⟨fun stream b => ?_, fun stream rest n known => ?_, fun stream n known => ?_,
    fun stream unknown => ?_⟩
  · by_cases long : 2 ≤ stream.length
    · have second : byteAt (stream ++ [b]) 1 = byteAt stream 1 :=
        byteAt_append_left stream [b] 1 (by omega)
      by_cases longer : 3 ≤ stream.length
      · have third : byteAt (stream ++ [b]) 2 = byteAt stream 2 :=
          byteAt_append_left stream [b] 2 (by omega)
        simp [expectedReadLength, readAnswerLength, second, third, show ¬ stream.length < 2 by omega,
          show ¬ stream.length < 3 by omega, show stream.length + 1 ≠ 2 by omega,
          show stream.length + 1 ≠ 3 by omega, show ¬ stream.length + 1 < 2 by omega,
          show ¬ stream.length + 1 < 3 by omega]
      · have two : stream.length = 2 := by omega
        by_cases marked : byteAt stream 1 &&& 0x80 = 0 <;>
          simp [expectedReadLength, readAnswerLength, second, two, marked]
    · by_cases one : stream.length = 1
      · by_cases marked : byteAt (stream ++ [b]) 1 &&& 0x80 = 0 <;>
          simp [expectedReadLength, readAnswerLength, one, marked]
      · have zero : stream.length = 0 := by omega
        simp [expectedReadLength, readAnswerLength, zero]
  · unfold readAnswerLength at known ⊢
    split at known
    · cases known
    · rename_i long
      have second : byteAt (stream ++ rest) 1 = byteAt stream 1 :=
        byteAt_append_left stream rest 1 (by omega)
      rw [if_neg (by rw [List.length_append]; omega), second]
      split at known
      · rename_i marked
        rw [if_pos marked]
        exact known
      · rename_i unmarked
        rw [if_neg unmarked]
        split at known
        · cases known
        · have third : byteAt (stream ++ rest) 2 = byteAt stream 2 :=
            byteAt_append_left stream rest 2 (by omega)
          rw [if_neg (by rw [List.length_append]; omega), third]
          exact known
  · unfold readAnswerLength at known
    split at known
    · cases known
    · split at known
      · cases known
        omega
      · split at known
        · cases known
        · cases known
          omega
  · unfold readAnswerLength at unknown
    split at unknown
    · omega
    · split at unknown
      · cases unknown
      · split at unknown
        · assumption
        · cases unknown

theorem writeLengthRule : LengthRule expectedWriteLength writeAnswerLength := by
  refine ⟨fun stream b => ?_, fun stream rest n known => ?_, fun stream n known => ?_,
    fun stream unknown => ?_⟩
  · by_cases long : 2 ≤ stream.length
    · have second : byteAt (stream ++ [b]) 1 = byteAt stream 1 :=
        byteAt_append_left stream [b] 1 (by omega)
      simp [expectedWriteLength, writeAnswerLength, second, show ¬ stream.length < 2 by omega,
        show stream.length + 1 ≠ 2 by omega, show ¬ stream.length + 1 < 2 by omega]
    · by_cases one : stream.length = 1
      · by_cases marked : byteAt (stream ++ [b]) 1 &&& 0x80 = 0 <;>
          simp [expectedWriteLength, writeAnswerLength, one, marked]
      · have zero : stream.length = 0 := by omega
        simp [expectedWriteLength, writeAnswerLength, zero]
  · unfold writeAnswerLength at known ⊢
    split at known
    · cases known
    · rename_i long
      have second : byteAt (stream ++ rest) 1 = byteAt stream 1 :=
        byteAt_append_left stream rest 1 (by omega)
      rw [if_neg (by rw [List.length_append]; omega), second]
      exact known
  · unfold writeAnswerLength at known
    split at known
    · cases known
    · split at known
      · cases known
        omega
      · cases known
        omega
  · unfold writeAnswerLength at unknown
    split at unknown
    · omega
    · split at unknown
      · cases unknown
      · cases unknown

/-! The bytes so far decide how the collection goes on. -/

/-- What a transaction comes to with these bytes, once the response time is over or before. -/
def conclusion {α : Type} (answerLength : Bytes → Option Nat)
    (decode : Bytes → Except RtuFailure α) (stream : Bytes) (late : Bool) :
    Option (Except RtuFailure α) :=
  match oneShot answerLength decode stream with
  | some decoded => some decoded
  | none => if late then some (decode stream) else none

def collecting (answerLength : Bytes → Option Nat) (m : ModbusRtuMaster) (stream : Bytes)
    (port : SerialPort) : ModbusRtuMaster :=
  { m with
    response := stream
    expectedResponseLength := (answerLength stream).getD 0
    port := port }

def CountsOnce (m n : ModbusRtuMaster) : Prop :=
  (n.successfulTransactions = m.successfulTransactions + 1 ∧
      n.failedTransactions = m.failedTransactions) ∨
    (n.successfulTransactions = m.successfulTransactions ∧
      n.failedTransactions = m.failedTransactions + 1)

section
variable {α : Type} {expectedLength : Bytes → Nat → Nat} {answerLength : Bytes → Option Nat}
  {decode : Bytes → Except RtuFailure α} {nothing : α}

theorem oneShot_append (rule : LengthRule expectedLength answerLength) (stream rest : Bytes)
    (decoded : Except RtuFailure α) (complete : oneShot answerLength decode stream = some decoded) :
    oneShot answerLength decode (stream ++ rest) = some decoded := by
  unfold oneShot at complete ⊢
  cases known : answerLength stream with
  | none => simp [known] at complete
  | some n =>
    rw [known, Option.bind_some] at complete
    rw [rule.keeps stream rest n known, Option.bind_some]
    split at complete
    · rename_i large
      rw [if_pos large]
      exact complete
    · rename_i fits
      rw [if_neg fits]
      split at complete
      · rename_i enough
        rw [if_pos (by rw [List.length_append]; omega), List.take_append_of_le_length enough]
        exact complete
      · cases complete

theorem oneShot_waiting (rule : LengthRule expectedLength answerLength) (stream : Bytes)
    (waiting : oneShot answerLength decode stream = none) :
    stream.length < kMaxFrameLength ∧
      ∀ n, answerLength stream = some n → n ≤ kMaxFrameLength ∧ stream.length < n := by
  unfold oneShot at waiting
  cases known : answerLength stream with
  | none =>
    have early := rule.early stream known
    have most : kMaxFrameLength = 242 := rfl
    exact ⟨by omega, fun n impossible => by cases impossible⟩
  | some n =>
    rw [known, Option.bind_some] at waiting
    split at waiting
    · cases waiting
    · rename_i fits
      split at waiting
      · cases waiting
      · refine ⟨by omega, fun k same => ?_⟩
        cases same
        omega

theorem oneShot_grown (rule : LengthRule expectedLength answerLength) (stream : Bytes) (b : UInt8)
    (waiting : oneShot answerLength decode stream = none) :
    oneShot answerLength decode (stream ++ [b]) =
      if (answerLength (stream ++ [b])).getD 0 > kMaxFrameLength then
        some (.error { status := .bufferTooSmall })
      else if (answerLength (stream ++ [b])).getD 0 ≠ 0 &&
          (stream ++ [b]).length ≥ (answerLength (stream ++ [b])).getD 0 then
        some (decode (stream ++ [b]))
      else none := by
  have short := oneShot_waiting rule stream waiting
  cases known : answerLength (stream ++ [b]) with
  | none => simp [oneShot, known]
  | some n =>
    have five := rule.five _ n known
    have inside : stream.length + 1 ≤ n := by
      cases before : answerLength stream with
      | none =>
        have early := rule.early stream before
        omega
      | some k =>
        have same := rule.keeps stream [b] k before
        rw [known] at same
        cases same
        have less := (short.2 n before).2
        omega
    rw [oneShot, known, Option.bind_some, Option.getD_some]
    by_cases large : n > kMaxFrameLength
    · rw [if_pos large, if_pos large]
    · rw [if_neg large, if_neg large]
      by_cases enough : n ≤ (stream ++ [b]).length
      · have whole : (stream ++ [b]).take n = stream ++ [b] := by
          apply List.take_of_length_le
          rw [List.length_append, List.length_singleton]
          exact inside
        rw [if_pos enough, whole, if_pos]
        simp only [Bool.and_eq_true, decide_eq_true_eq]
        omega
      · rw [if_neg enough, if_neg]
        simp only [Bool.and_eq_true, decide_eq_true_eq]
        omega

theorem concluded_collecting (m : ModbusRtuMaster) (stream : Bytes) (port : SerialPort)
    (decoded : Except RtuFailure α) :
    (concluded nothing (collecting answerLength m stream port) decoded).withoutPort =
      (concluded nothing m decoded).withoutPort := by
  cases decoded <;> rfl

theorem concluded_failure (nothing : α) (m : ModbusRtuMaster) (status : RtuDecodeStatus)
    (clean : m.lastExceptionCode = 0) :
    concluded nothing m (.error { status := status }) =
      ⟨m.finishFailure status, .failure, nothing⟩ := by
  have same : { m with lastExceptionCode := 0 } = m := by
    rw [← clean]
  rw [concluded, same]

theorem concluded_ends (m : ModbusRtuMaster) (decoded : Except RtuFailure α) (polled : Polled α)
    (same : polled.withoutPort = (concluded nothing m decoded).withoutPort) :
    polled.result ≠ .pending ∧ polled.master.transactionActive = false ∧
      polled.master.response = [] ∧ CountsOnce m polled.master := by
  have result := congrArg Polled.result same
  have active := congrArg (fun polled => polled.master.transactionActive) same
  have response := congrArg (fun polled => polled.master.response) same
  have successes := congrArg (fun polled => polled.master.successfulTransactions) same
  have failures := congrArg (fun polled => polled.master.failedTransactions) same
  cases decoded with
  | ok value =>
    refine ⟨?_, active, response, Or.inl ⟨successes, failures⟩⟩
    rw [show polled.result = .success from result]
    decide
  | error failure =>
    refine ⟨?_, active, response, Or.inr ⟨successes, failures⟩⟩
    rw [show polled.result = .failure from result]
    decide

variable {finish : ModbusRtuMaster → Polled α} {m : ModbusRtuMaster}

theorem collect_oneShot (rule : LengthRule expectedLength answerLength)
    (finishes : ∀ stream port, finish (collecting answerLength m stream port) =
      concluded nothing (collecting answerLength m stream port) (decode stream))
    (clean : m.lastExceptionCode = 0) (input stream : Bytes) (port : SerialPort)
    (waiting : oneShot answerLength decode stream = none) :
    match oneShot answerLength decode (stream ++ input) with
    | some decoded => ∃ n polled, collect expectedLength finish nothing input
        (collecting answerLength m stream port) = (n, some polled) ∧
          polled.withoutPort = (concluded nothing m decoded).withoutPort
    | none => collect expectedLength finish nothing input
        (collecting answerLength m stream port) =
          (collecting answerLength m (stream ++ input) { port with input := [] }, none) := by
  induction input generalizing stream port with
  | nil =>
    rw [List.append_nil, waiting]
    rfl
  | cons b rest ih =>
    have short := (oneShot_waiting rule stream waiting).1
    have grown := oneShot_grown rule stream b waiting
    have expected := rule.grows stream b
    have front : stream ++ b :: rest = (stream ++ [b]) ++ rest := by simp
    -- One byte of the loop, with the length it makes known.
    have step : collect expectedLength finish nothing (b :: rest)
        (collecting answerLength m stream port) =
        if (answerLength (stream ++ [b])).getD 0 > kMaxFrameLength then
          (collecting answerLength m (stream ++ [b]) { port with input := rest },
            some ⟨(collecting answerLength m (stream ++ [b]) { port with input := rest
              }).finishFailure .bufferTooSmall, .failure, nothing⟩)
        else if (answerLength (stream ++ [b])).getD 0 ≠ 0 &&
            (stream ++ [b]).length ≥ (answerLength (stream ++ [b])).getD 0 then
          (collecting answerLength m (stream ++ [b]) { port with input := rest },
            some (finish (collecting answerLength m (stream ++ [b]) { port with input := rest })))
        else collect expectedLength finish nothing rest
          (collecting answerLength m (stream ++ [b]) { port with input := rest }) := by
      rw [← expected, collect]
      have room : ¬ (collecting answerLength m stream port).response.length ≥ kMaxFrameLength := by
        exact Nat.not_le.mpr short
      rw [if_neg room]
      simp only [collecting, expected]
    rw [step, front]
    by_cases large : (answerLength (stream ++ [b])).getD 0 > kMaxFrameLength
    · rw [if_pos large] at grown
      rw [if_pos large, oneShot_append rule _ rest _ grown]
      refine ⟨_, _, rfl, ?_⟩
      rw [← concluded_failure nothing
        (collecting answerLength m (stream ++ [b]) { port with input := rest }) .bufferTooSmall
        clean]
      exact concluded_collecting m _ _ _
    · rw [if_neg large] at grown
      rw [if_neg large]
      by_cases enough : (answerLength (stream ++ [b])).getD 0 ≠ 0 &&
          (stream ++ [b]).length ≥ (answerLength (stream ++ [b])).getD 0
      · rw [if_pos enough] at grown
        rw [if_pos enough, oneShot_append rule _ rest _ grown]
        refine ⟨_, _, rfl, ?_⟩
        rw [finishes]
        exact concluded_collecting m _ _ _
      · rw [if_neg enough] at grown
        rw [if_neg enough]
        exact ih (stream ++ [b]) { port with input := rest } grown

/-- A transaction that has just been started, and what its own decoder makes of an answer. -/
structure Awaiting (kind : RtuTransactionKind) (answerLength : Bytes → Option Nat)
    (decode : Bytes → Except RtuFailure α) (nothing : α) (finish : ModbusRtuMaster → Polled α)
    (m : ModbusRtuMaster) : Prop where
  active : m.transactionActive = true
  own : m.transactionKind = kind
  clean : m.lastExceptionCode = 0
  fresh : ∃ port : SerialPort, port.input = [] ∧ m = collecting answerLength m [] port
  unknown : answerLength [] = none
  finishes : ∀ stream port, finish (collecting answerLength m stream port) =
    concluded nothing (collecting answerLength m stream port) (decode stream)
  empty : decode [] = .error { status := .truncated }

section
variable {kind : RtuTransactionKind} {nowMs : UInt32}

theorem pollCollecting_complete (active : m.transactionActive = true)
    (own : m.transactionKind = kind) {n : ModbusRtuMaster} {polled : Polled α}
    (found : collect expectedLength finish nothing m.port.input m = (n, some polled)) :
    pollCollecting kind expectedLength finish nothing nowMs m = polled := by
  unfold pollCollecting
  rw [if_neg (by simp [active]), if_neg (by simp [own]), found]

theorem pollCollecting_incomplete (active : m.transactionActive = true)
    (own : m.transactionKind = kind) {n : ModbusRtuMaster}
    (missing : collect expectedLength finish nothing m.port.input m = (n, none)) :
    pollCollecting kind expectedLength finish nothing nowMs m =
      if timedOut nowMs n then
        if n.response.length = 0 then ⟨n.finishFailure .truncated, .failure, nothing⟩
        else finish n
      else ⟨n, .pending, nothing⟩ := by
  unfold pollCollecting
  rw [if_neg (by simp [active]), if_neg (by simp [own]), missing]

end

theorem poll_conclusion {kind : RtuTransactionKind} (rule : LengthRule expectedLength answerLength)
    (awaiting : Awaiting kind answerLength decode nothing finish m) (arrival : Arrival)
    (stream : Bytes) (port : SerialPort) (drained : port.input = [])
    (waiting : oneShot answerLength decode stream = none) :
    match conclusion answerLength decode (stream ++ arrival.bytes) (timedOut arrival.nowMs m) with
    | some decoded =>
      (pollCollecting kind expectedLength finish nothing arrival.nowMs
        ((collecting answerLength m stream port).receive arrival.bytes)).withoutPort =
          (concluded nothing m decoded).withoutPort
    | none => ∃ port' : SerialPort, port'.input = [] ∧
      pollCollecting kind expectedLength finish nothing arrival.nowMs
        ((collecting answerLength m stream port).receive arrival.bytes) =
          ⟨collecting answerLength m (stream ++ arrival.bytes) port', .pending, nothing⟩ := by
  have received : (collecting answerLength m stream port).receive arrival.bytes =
      collecting answerLength m stream { port with input := arrival.bytes } := by
    simp [receive, collecting, drained]
  have active : (collecting answerLength m stream
      { port with input := arrival.bytes }).transactionActive = true := awaiting.active
  have own : (collecting answerLength m stream
      { port with input := arrival.bytes }).transactionKind = kind := awaiting.own
  have collected := collect_oneShot rule awaiting.finishes awaiting.clean arrival.bytes stream
    { port with input := arrival.bytes } waiting
  rw [received, conclusion]
  cases complete : oneShot answerLength decode (stream ++ arrival.bytes) with
  | some decoded =>
    rw [complete] at collected
    obtain ⟨n, polled, result, same⟩ := collected
    dsimp only
    rw [pollCollecting_complete active own result]
    exact same
  | none =>
    rw [complete] at collected
    rw [pollCollecting_incomplete active own collected]
    have time : timedOut arrival.nowMs (collecting answerLength m (stream ++ arrival.bytes)
        { port with input := [] }) = timedOut arrival.nowMs m := rfl
    dsimp only
    rw [time]
    cases timedOut arrival.nowMs m with
    | false => exact ⟨{ port with input := [] }, rfl, rfl⟩
    | true =>
      rw [if_pos rfl, if_pos rfl]
      by_cases silent : stream ++ arrival.bytes = []
      · have length : (collecting answerLength m (stream ++ arrival.bytes)
            { port with input := [] }).response.length = 0 := List.length_eq_zero_iff.mpr silent
        rw [if_pos length, silent, awaiting.empty, ← concluded_failure nothing _ .truncated]
        · exact concluded_collecting m _ _ _
        · exact awaiting.clean
      · have length : (collecting answerLength m (stream ++ arrival.bytes)
            { port with input := [] }).response.length ≠ 0 := by
          exact fun zero => silent (List.length_eq_zero_iff.mp zero)
        rw [if_neg length, awaiting.finishes]
        exact concluded_collecting m _ _ _

/-- Any polls of a transaction, in which time runs out at the last one at the earliest. -/
theorem polls_conclusion {kind : RtuTransactionKind}
    (rule : LengthRule expectedLength answerLength)
    (awaiting : Awaiting kind answerLength decode nothing finish m) (early : List Arrival)
    (last : Arrival) (timely : ∀ arrival ∈ early, timedOut arrival.nowMs m = false)
    (stream : Bytes) (port : SerialPort) (drained : port.input = [])
    (waiting : oneShot answerLength decode stream = none) :
    (firstResult (pollCollecting kind expectedLength finish nothing)
        (collecting answerLength m stream port) (early ++ [last])).map Polled.withoutPort =
      (conclusion answerLength decode (stream ++ arrivedBytes (early ++ [last]))
        (timedOut last.nowMs m)).map (fun decoded => (concluded nothing m decoded).withoutPort) ∧
    ∀ n ∈ polledMasters (pollCollecting kind expectedLength finish nothing)
      (collecting answerLength m stream port) (early ++ [last]),
      n.response.length ≤ kMaxFrameLength := by
  induction early generalizing stream port with
  | nil =>
    have polled := poll_conclusion rule awaiting last stream port drained waiting
    have bytes : arrivedBytes ([] ++ [last]) = last.bytes := by simp [arrivedBytes]
    rw [bytes, List.nil_append, firstResult, polledMasters, firstResult, polledMasters]
    cases ends : conclusion answerLength decode (stream ++ last.bytes) (timedOut last.nowMs m) with
    | some decoded =>
      rw [ends] at polled
      obtain ⟨settled, -, response, -⟩ := concluded_ends m decoded _ polled
      rw [if_neg settled, if_neg settled]
      refine ⟨congrArg some polled, fun n member => ?_⟩
      rw [List.mem_singleton.mp member, response]
      exact Nat.zero_le _
    | none =>
      rw [ends] at polled
      obtain ⟨port', -, pending⟩ := polled
      rw [pending]
      refine ⟨rfl, fun n member => ?_⟩
      have still : oneShot answerLength decode (stream ++ last.bytes) = none := by
        unfold conclusion at ends
        split at ends
        · cases ends
        · assumption
      rw [if_pos rfl] at member
      rw [List.mem_singleton.mp member]
      exact Nat.le_of_lt (oneShot_waiting rule _ still).1
  | cons arrival early ih =>
    have onTime := timely arrival List.mem_cons_self
    have polled := poll_conclusion rule awaiting arrival stream port drained waiting
    have bytes : stream ++ arrivedBytes (arrival :: early ++ [last]) =
        (stream ++ arrival.bytes) ++ arrivedBytes (early ++ [last]) := by
      simp [arrivedBytes]
    have early_conclusion : conclusion answerLength decode (stream ++ arrival.bytes)
        (timedOut arrival.nowMs m) = oneShot answerLength decode (stream ++ arrival.bytes) := by
      rw [onTime, conclusion]
      cases oneShot answerLength decode (stream ++ arrival.bytes) <;> rfl
    rw [early_conclusion] at polled
    rw [bytes, List.cons_append, firstResult, polledMasters]
    cases complete : oneShot answerLength decode (stream ++ arrival.bytes) with
    | some decoded =>
      rw [complete] at polled
      obtain ⟨settled, -, response, -⟩ := concluded_ends m decoded _ polled
      rw [if_neg settled, if_neg settled]
      have whole := oneShot_append rule _ (arrivedBytes (early ++ [last])) decoded complete
      refine ⟨?_, fun n member => ?_⟩
      · rw [conclusion, whole]
        exact congrArg some polled
      · rw [List.mem_singleton.mp member, response]
        exact Nat.zero_le _
    | none =>
      rw [complete] at polled
      obtain ⟨port', empty, pending⟩ := polled
      obtain ⟨result, bounded⟩ := ih (fun later member => timely later
        (List.mem_cons_of_mem _ member)) (stream ++ arrival.bytes) port' empty complete
      rw [pending, if_pos rfl, if_pos rfl]
      refine ⟨result, fun n member => ?_⟩
      rcases List.mem_cons.mp member with rfl | later
      · exact Nat.le_of_lt (oneShot_waiting rule _ complete).1
      · exact bounded n later

end

/-- However the bytes are spread over the polls of a transaction, it comes to what one look at
all of them gives; it never holds more than a frame, and ends with one count. -/
def ArrivesAsOne {α : Type} (poll : UInt32 → ModbusRtuMaster → Polled α)
    (answerLength : Bytes → Option Nat) (decode : Bytes → Except RtuFailure α) (nothing : α)
    (m : ModbusRtuMaster) : Prop :=
  ∀ (early : List Arrival) (last : Arrival),
    (∀ arrival ∈ early, timedOut arrival.nowMs m = false) →
    (firstResult poll m (early ++ [last])).map Polled.withoutPort =
        (conclusion answerLength decode (arrivedBytes (early ++ [last]))
          (timedOut last.nowMs m)).map
            (fun decoded => (concluded nothing m decoded).withoutPort) ∧
      (∀ n ∈ polledMasters poll m (early ++ [last]), n.response.length ≤ kMaxFrameLength) ∧
      ∀ polled, firstResult poll m (early ++ [last]) = some polled →
        polled.master.transactionActive = false ∧ CountsOnce m polled.master

theorem Awaiting.arrivesAsOne {α : Type} {expectedLength : Bytes → Nat → Nat}
    {answerLength : Bytes → Option Nat} {decode : Bytes → Except RtuFailure α} {nothing : α}
    {finish : ModbusRtuMaster → Polled α} {m : ModbusRtuMaster} {kind : RtuTransactionKind}
    (awaiting : Awaiting kind answerLength decode nothing finish m)
    (rule : LengthRule expectedLength answerLength) :
    ArrivesAsOne (pollCollecting kind expectedLength finish nothing) answerLength decode nothing
      m := by
  intro early last timely
  obtain ⟨port, drained, fresh⟩ := awaiting.fresh
  have waiting : oneShot answerLength decode [] = none := by
    rw [oneShot, awaiting.unknown, Option.bind_none]
  obtain ⟨result, bounded⟩ :=
    polls_conclusion rule awaiting early last timely [] port drained waiting
  rw [List.nil_append, ← fresh] at result
  rw [← fresh] at bounded
  refine ⟨result, bounded, fun polled first => ?_⟩
  rw [first, Option.map_some] at result
  obtain ⟨decoded, -, same⟩ := Option.map_eq_some_iff.mp result.symm
  obtain ⟨-, inactive, -, once⟩ := concluded_ends m decoded polled same.symm
  exact ⟨inactive, once⟩

/-! The two kinds of transactions that collect an answer. -/

theorem transmit_awaiting {α : Type} {answerLength : Bytes → Option Nat}
    {decode : Bytes → Except RtuFailure α} {nothing : α} {finish : ModbusRtuMaster → Polled α}
    (nowMs : UInt32) (kind : RtuTransactionKind) (channel : ChannelConfig) (valueIndex : UInt8)
    (request : Bytes) (m : ModbusRtuMaster) (clean : m.lastExceptionCode = 0)
    (unknown : answerLength [] = none)
    (finishes : ∀ n : ModbusRtuMaster, n.activeChannel = channel →
      n.activeValueIndex = valueIndex → n.activeRequest = request →
      finish n = concluded nothing n (decode n.response))
    (empty : decode [] = .error { status := .truncated })
    (sent : (transmit nowMs kind channel valueIndex request m).2 = true) :
    Awaiting kind answerLength decode nothing finish
      (transmit nowMs kind channel valueIndex request m).1 := by
  have port : m.port.drained.write.1.input = [] := by
    unfold SerialPort.write SerialPort.drained
    split <;> rfl
  revert sent
  unfold transmit
  generalize m.port.drained.write = written at port ⊢
  obtain ⟨p, taken⟩ := written
  intro sent
  cases taken with
  | false => cases sent
  | true =>
    refine ⟨rfl, rfl, clean, ⟨p, port, ?_⟩, unknown, fun stream port => ?_, empty⟩
    · simp [collecting, unknown]
    · exact finishes _ rfl rfl rfl

theorem startRead_awaiting (nowMs : UInt32) (channel : ChannelConfig) (m : ModbusRtuMaster)
    (started : (m.startRead nowMs channel).2 = true) :
    Awaiting .read readAnswerLength (decodeReadResponse channel) [] finishDecode
      (m.startRead nowMs channel).1 := by
  unfold startRead at started ⊢
  dsimp only at started ⊢
  split
  · rename_i refused
    rw [if_pos refused] at started
    cases started
  · rename_i accepted
    rw [if_neg accepted] at started
    have valid : validChannelConfig channel = true := by
      simp only [Bool.or_eq_true, Bool.not_eq_true', not_or, Bool.not_eq_false] at accepted
      exact accepted.2
    cases built : buildReadRequest channel 8 with
    | error status =>
      rw [built] at started
      cases started
    | ok request =>
      rw [built] at started
      refine transmit_awaiting nowMs .read channel 0 request { m with lastExceptionCode := 0 } rfl
        rfl ?_ ?_ started
      · rintro n rfl - -
        unfold finishDecode
        cases decodeReadResponse n.activeChannel n.response <;> rfl
      · rw [decodeReadResponse, valid]
        rfl

theorem startWrite_awaiting (nowMs : UInt32) (channel : ChannelConfig) (valueIndex : UInt8)
    (value : DecodedScalar) (m : ModbusRtuMaster)
    (started : (m.startWrite nowMs channel valueIndex value).2 = true) :
    ∃ request, buildWriteRequest channel valueIndex value 17 = .ok request ∧
      Awaiting .write writeAnswerLength (decodeWriteResponse channel valueIndex request) ()
        finishWriteDecode (m.startWrite nowMs channel valueIndex value).1 := by
  unfold startWrite at started ⊢
  dsimp only at started ⊢
  split
  · rename_i refused
    rw [if_pos refused] at started
    cases started
  · rename_i accepted
    rw [if_neg accepted] at started
    cases built : buildWriteRequest channel valueIndex value 17 with
    | error status =>
      rw [built] at started
      cases started
    | ok request =>
      rw [built] at started
      refine ⟨request, rfl, ?_⟩
      refine transmit_awaiting nowMs .write channel valueIndex request
        { m with lastExceptionCode := 0 } rfl rfl ?_ ?_ started
      · rintro n rfl rfl rfl
        unfold finishWriteDecode
        cases decodeWriteResponse n.activeChannel n.activeValueIndex n.activeRequest n.response <;>
          rfl
      · rw [(buildWriteRequest_shape channel valueIndex value 17 request built
          ).decodeWriteResponse_eq]
        rfl

/-- The results of a read or a write do not depend on how the bytes of the answer arrive. -/
theorem answers_arrive_as_one (m : ModbusRtuMaster) (nowMs : UInt32) (channel : ChannelConfig)
    (valueIndex : UInt8) (value : DecodedScalar) :
    ((m.startRead nowMs channel).2 = true →
      ArrivesAsOne pollRead readAnswerLength (decodeReadResponse channel) []
        (m.startRead nowMs channel).1) ∧
    ((m.startWrite nowMs channel valueIndex value).2 = true →
      ∃ request, buildWriteRequest channel valueIndex value 17 = .ok request ∧
        ArrivesAsOne pollWrite writeAnswerLength (decodeWriteResponse channel valueIndex request)
          () (m.startWrite nowMs channel valueIndex value).1) := by
  constructor
  · intro started
    exact (startRead_awaiting nowMs channel m started).arrivesAsOne readLengthRule
  · intro started
    obtain ⟨request, built, awaiting⟩ :=
      startWrite_awaiting nowMs channel valueIndex value m started
    exact ⟨request, built, awaiting.arrivesAsOne writeLengthRule⟩

/-- A coil is on: the six bytes of the answer arrive in two pieces, the second one with the
last poll before the response time is over. -/
def idleMaster : ModbusRtuMaster := { started := true }

theorem coil_arrives_in_pieces :
    (firstResult pollRead (idleMaster.startRead 0 {}).1
      ([⟨10, [0x01, 0x01, 0x01]⟩] ++ [⟨20, [0x01, 0x90, 0x48]⟩])).map Polled.withoutPort =
        (conclusion readAnswerLength (decodeReadResponse {})
          [0x01, 0x01, 0x01, 0x01, 0x90, 0x48] false).map
            fun decoded => (concluded [] (idleMaster.startRead 0 {}).1 decoded).withoutPort :=
  ((answers_arrive_as_one idleMaster 0 {} 0 (.boolean true)).1 rfl [⟨10, [0x01, 0x01, 0x01]⟩]
    ⟨20, [0x01, 0x90, 0x48]⟩ (by
      intro arrival member
      rw [List.mem_singleton.mp member]
      rfl)).1

end Modbus
