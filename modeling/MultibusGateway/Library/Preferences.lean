import Mathlib.Logic.Function.Basic
import Mathlib.Data.List.Nodup

/-! A flash key-value store written one key at a time. A put stores its value, or it is
refused and changes nothing, or a power loss tears it and leaves some other content. -/

namespace Preferences

inductive PutOutcome (Value : Type) where
  | stored
  | refused
  | torn (rest : Value)

abbrev Flash (Key Value : Type) := Key → Option Value

inductive Entry where
  | uint (n : UInt32)
  | ushort (n : UInt16)
  | uchar (n : UInt8)
  | flag (b : Bool)
  | text (bytes : List UInt8)
  deriving DecidableEq

variable {Key Value : Type} [DecidableEq Key]

def put (flash : Flash Key Value) (key : Key) (value : Value) (outcome : PutOutcome Value) :
    Flash Key Value × Bool :=
  match outcome with
  | .stored => (Function.update flash key (some value), true)
  | .refused => (flash, false)
  | .torn rest => (Function.update flash key (some rest), false)

/-! A read gives back the value of a key that is there with the type asked for. -/

section reads
variable {Key : Type} (flash : Flash Key Entry) (key : Key)

def getUInt (otherwise : UInt32) : UInt32 :=
  match flash key with
  | some (.uint n) => n
  | _ => otherwise

def getUShort (otherwise : UInt16) : UInt16 :=
  match flash key with
  | some (.ushort n) => n
  | _ => otherwise

def getUChar (otherwise : UInt8) : UInt8 :=
  match flash key with
  | some (.uchar n) => n
  | _ => otherwise

def getBool (otherwise : Bool) : Bool :=
  match flash key with
  | some (.flag b) => b
  | _ => otherwise

def getString (otherwise : List UInt8) : List UInt8 :=
  match flash key with
  | some (.text bytes) => bytes
  | _ => otherwise

def readAs : Entry → Entry
  | .uint n => .uint (getUInt flash key n)
  | .ushort n => .ushort (getUShort flash key n)
  | .uchar n => .uchar (getUChar flash key n)
  | .flag b => .flag (getBool flash key b)
  | .text bytes => .text (getString flash key bytes)

end reads

def Entry.sameType : Entry → Entry → Bool
  | .uint _, .uint _ | .ushort _, .ushort _ | .uchar _, .uchar _ => true
  | .flag _, .flag _ | .text _, .text _ => true
  | _, _ => false

theorem readAs_written {Key : Type} {flash before : Flash Key Entry} {key : Key}
    {written : Bool} {value : Entry} (put : flash key = if written then some value else before key)
    (otherwise : Entry) (typed : value.sameType otherwise = true) :
    readAs flash key otherwise = if written then value else readAs before key otherwise := by
  cases value <;> cases otherwise <;> cases typed <;> cases written <;>
    simp only [readAs, getUInt, getUShort, getUChar, getBool, getString, put, if_true,
      Bool.false_eq_true, if_false]

theorem getUInt_written {Key : Type} {flash before : Flash Key Entry} {key : Key}
    {written : Bool} {n : UInt32}
    (put : flash key = if written then some (.uint n) else before key) (otherwise : UInt32) :
    getUInt flash key otherwise = if written then n else getUInt before key otherwise := by
  rw [getUInt, put]
  cases written <;> rfl

theorem getString_written {Key : Type} {flash before : Flash Key Entry} {key : Key}
    {written : Bool} {bytes : List UInt8}
    (put : flash key = if written then some (.text bytes) else before key)
    (otherwise : List UInt8) :
    getString flash key otherwise = if written then bytes else getString before key otherwise := by
  rw [getString, put]
  cases written <;> rfl

def isKey (flash : Flash Key Value) (key : Key) : Bool := (flash key).isSome

theorem put_other (flash : Flash Key Value) (key other : Key) (value : Value)
    (outcome : PutOutcome Value) (apart : other ≠ key) :
    (put flash key value outcome).1 other = flash other := by
  cases outcome <;> simp [put, apart]

/-- A put of settings that a running program makes: it is refused when the next outcome says
so, and stored when no outcome is listed. -/
def draw (outcomes : List Bool) : Bool × List Bool :=
  match outcomes with
  | [] => (true, [])
  | stored :: rest => (stored, rest)

theorem draw_rest (outcomes : List Bool) : (draw outcomes).2 = outcomes.drop 1 := by
  cases outcomes <;> rfl

theorem draw_reliable (outcomes : List Bool) (n : Nat)
    (reliable : ∀ stored ∈ outcomes.take (n + 1), stored = true) :
    (draw outcomes).1 = true ∧ ∀ stored ∈ (draw outcomes).2.take n, stored = true := by
  cases outcomes with
  | nil => exact ⟨rfl, by simp [draw]⟩
  | cons stored rest =>
    rw [List.take_succ_cons] at reliable
    exact List.forall_mem_cons.mp reliable

def putAll (flash : Flash Key Value) (outcomes : List Bool) :
    List (Key × Value) → Flash Key Value × List Bool × Bool
  | [] => (flash, outcomes, true)
  | (key, value) :: rest =>
    match draw outcomes with
    | (true, outcomes) => putAll (put flash key value .stored).1 outcomes rest
    | (false, outcomes) => (flash, outcomes, false)

/-- The puts of several keys in order, whose results are not looked at. -/
def putEach (completes : Key → Bool) (flash : Flash Key Value) :
    List (Key × Value) → Flash Key Value
  | [] => flash
  | (key, value) :: rest =>
    putEach completes (put flash key value (if completes key then .stored else .refused)).1 rest

theorem putEach_other (completes : Key → Bool) (flash : Flash Key Value)
    (puts : List (Key × Value)) (other : Key) (apart : other ∉ puts.map Prod.fst) :
    putEach completes flash puts other = flash other := by
  induction puts generalizing flash with
  | nil => rfl
  | cons first rest ih =>
    simp only [List.map_cons, List.mem_cons, not_or] at apart
    rw [putEach, ih _ apart.2, put_other _ _ _ _ _ apart.1]

theorem putEach_apply (completes : Key → Bool) (flash : Flash Key Value)
    (puts : List (Key × Value)) (once : (puts.map Prod.fst).Nodup) (key : Key) (value : Value)
    (member : (key, value) ∈ puts) :
    putEach completes flash puts key = if completes key then some value else flash key := by
  induction puts generalizing flash with
  | nil => cases member
  | cons first rest ih =>
    rw [List.map_cons, List.nodup_cons] at once
    rw [putEach]
    rcases List.mem_cons.mp member with same | later
    · rw [← same] at once ⊢
      rw [putEach_other _ _ _ _ once.1]
      cases completes key <;> simp [put]
    · have apart : key ≠ first.1 := by
        intro same
        exact once.1 (same ▸ List.mem_map_of_mem later)
      rw [ih _ once.2 later, put_other _ _ _ _ _ apart]

/-- Which puts complete, and after how many of them the power is lost, if it is. -/
structure Faults (Key : Type) where
  completes : Key → Bool := fun _ => true
  powerLoss : Option Nat := none

def Faults.reached (faults : Faults Key) (puts : List (Key × Value)) : List (Key × Value) :=
  match faults.powerLoss with
  | none => puts
  | some count => puts.take count

omit [DecidableEq Key] in
@[simp] theorem reached_all (completes : Key → Bool) (puts : List (Key × Value)) :
    ({ completes := completes } : Faults Key).reached puts = puts := rfl

def Faults.written (faults : Faults Key) (keys : List Key) (key : Key) : Bool :=
  faults.completes key && faults.powerLoss.all fun count => (keys.take count).contains key

/-- Where each key is put once, it has its new value exactly if it has been written. -/
theorem putEach_reached (faults : Faults Key) (flash : Flash Key Value)
    (puts : List (Key × Value)) (once : (puts.map Prod.fst).Nodup) (key : Key) (value : Value)
    (member : (key, value) ∈ puts) :
    putEach faults.completes flash (faults.reached puts) key =
      if faults.written (puts.map Prod.fst) key then some value else flash key := by
  unfold Faults.reached Faults.written
  cases faults.powerLoss with
  | none =>
    rw [Option.all_none, Bool.and_true]
    exact putEach_apply _ flash puts once key value member
  | some count =>
    have part : ((puts.take count).map Prod.fst).Nodup := by
      rw [List.map_take]
      exact once.sublist (List.take_sublist _ _)
    rw [Option.all_some]
    dsimp only
    by_cases reached : key ∈ (puts.take count).map Prod.fst
    · obtain ⟨⟨key', other⟩, within, rfl⟩ := List.mem_map.mp reached
      have same : other = value := by
        have pairs := List.inj_on_of_nodup_map once (List.mem_of_mem_take within) member rfl
        exact congrArg Prod.snd pairs
      rw [← same, putEach_apply _ flash _ part key' other within, ← List.map_take,
        List.contains_iff_mem.mpr reached, Bool.and_true]
    · have unread : ((puts.map Prod.fst).take count).contains key = false := by
        rw [← List.map_take, ← Bool.not_eq_true, List.contains_iff_mem]
        exact reached
      rw [putEach_other _ _ _ _ reached, unread, Bool.and_false, if_neg Bool.false_ne_true]

theorem putAll_single (flash : Flash Key Value) (outcomes : List Bool) (key : Key)
    (value : Value) :
    putAll flash outcomes [(key, value)] =
      if (draw outcomes).1 then
        (Function.update flash key (some value), (draw outcomes).2, true)
      else (flash, (draw outcomes).2, false) := by
  rw [putAll]
  obtain ⟨stored, rest⟩ := draw outcomes
  cases stored <;> rfl

theorem putAll_eq_putEach (flash : Flash Key Value) (outcomes : List Bool)
    (puts : List (Key × Value)) (stored : (putAll flash outcomes puts).2.2 = true) :
    (putAll flash outcomes puts).1 = putEach (fun _ => true) flash puts := by
  induction puts generalizing flash outcomes with
  | nil => rfl
  | cons first rest ih =>
    rw [putAll] at stored ⊢
    generalize draw outcomes = drawing at stored ⊢
    obtain ⟨drawn, left⟩ := drawing
    cases drawn with
    | true => exact ih _ _ stored
    | false => cases stored

theorem putAll_apply (flash : Flash Key Value) (outcomes : List Bool)
    (puts : List (Key × Value)) (stored : (putAll flash outcomes puts).2.2 = true)
    (once : (puts.map Prod.fst).Nodup) (key : Key) (value : Value)
    (member : (key, value) ∈ puts) : (putAll flash outcomes puts).1 key = some value := by
  rw [putAll_eq_putEach flash outcomes puts stored,
    putEach_apply _ flash puts once key value member, if_pos rfl]

end Preferences
