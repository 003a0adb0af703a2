import MultibusGateway.Library.Execution
import MultibusGateway.Library.WrapClock
import MultibusGateway.Modbus.RtuMaster

/-! Frames of others on the bus. The collector splits the bytes where the bus has been idle, by
the microsecond counter, and zero in its timestamp stands for no byte at all. -/

namespace Modbus
open ByteString Execution WrapClock

/-- A call of the collector, at a true time in microseconds. -/
inductive CollectorCall where
  | feed (value : UInt8) (time : Nat)
  | poll (time : Nat)

def CollectorCall.time : CollectorCall → Nat
  | feed _ time => time
  | poll time => time

/-- The collector, with the bytes since the last frame or overflow, the time of the last byte
and the time of the last call. -/
structure WatchedCollector where
  collector : RtuPassiveFrameCollector := {}
  fed : Bytes := []
  lastFedAt : Nat := 0
  clock : Nat := 0

namespace WatchedCollector

section
variable (capacity : Nat) (idleGapUs : UInt32) (outputCapacity : Nat)

def polled (w : WatchedCollector) (time : Nat) :
    RtuPassiveFrameCollector × PassiveFrameResult × Bytes :=
  w.collector.poll (stamp time) idleGapUs outputCapacity

def step (w : WatchedCollector) : CollectorCall → WatchedCollector
  | .feed value time =>
    { collector := w.collector.feed capacity value (stamp time)
      fed := w.fed ++ [value]
      lastFedAt := time
      clock := time }
  | .poll time =>
    match w.polled idleGapUs outputCapacity time with
    | (collector, .frameReady, _) => { w with collector := collector, fed := [], clock := time }
    | (collector, .overflow, _) => { w with collector := collector, fed := [], clock := time }
    | (collector, _, _) => { w with collector := collector, clock := time }

/-- A poll gives a frame or an overflow after an idle gap only, a frame with all bytes there were
and an overflow when there were more than fit. -/
structure PollSplitsRight (w : WatchedCollector) (time : Nat) (result : PassiveFrameResult)
    (frame : Bytes) : Prop where
  gap : result = .frameReady ∨ result = .overflow → w.lastFedAt + idleGapUs.toNat ≤ time
  whole : result = .frameReady → w.fed.length ≤ capacity ∧ frame = w.fed
  tooMany : result = .overflow → capacity < w.fed.length
  dropped : capacity < w.fed.length → w.lastFedAt + idleGapUs.toNat ≤ time →
    time < w.lastFedAt + 2 ^ 32 → result = .overflow
  once : w.fed = [] → result = .idle
  silent : result ≠ .frameReady → frame = []

def SplitsRight (w : WatchedCollector) : CollectorCall → Prop
  | .feed _ _ => True
  | .poll time => PollSplitsRight capacity idleGapUs w time
      (w.polled idleGapUs outputCapacity time).2.1 (w.polled idleGapUs outputCapacity time).2.2

/-- A poll within the idle gap after a byte whose timestamp is the reserved one. -/
def Premature (w : WatchedCollector) : CollectorCall → Prop
  | .feed _ _ => False
  | .poll time => w.fed ≠ [] ∧ w.lastFedAt % 2 ^ 32 = 0 ∧ time < w.lastFedAt + idleGapUs.toNat

structure Holds (w : WatchedCollector) : Prop where
  buffer : w.collector.buffer = w.fed.take capacity
  overflow : w.collector.overflow = decide (capacity < w.fed.length)
  lastByte : w.fed ≠ [] → w.collector.lastByteAtUs = stamp w.lastFedAt
  past : w.lastFedAt ≤ w.clock

end

variable {capacity : Nat} {idleGapUs : UInt32} {outputCapacity : Nat}

theorem Holds.start : Holds capacity {} :=
  ⟨List.take_nil.symm, rfl, fun none => absurd rfl none, Nat.le_refl _⟩

theorem Holds.pending {w : WatchedCollector} (holds : Holds capacity w) (positive : 0 < capacity) :
    w.collector.pending = decide (w.fed ≠ []) := by
  rw [RtuPassiveFrameCollector.pending, holds.buffer, holds.overflow]
  cases w.fed with
  | nil => simp
  | cons byte rest => simp [positive.ne']

theorem feed_holds {w : WatchedCollector} (holds : Holds capacity w) (value : UInt8) (time : Nat) :
    Holds capacity (w.step capacity idleGapUs outputCapacity (.feed value time)) := by
  have length : w.collector.buffer.length = min capacity w.fed.length := by
    rw [holds.buffer, List.length_take]
  have grown : (w.fed ++ [value]).length = w.fed.length + 1 := by simp
  by_cases full : capacity < w.fed.length
  · have stays : (w.fed ++ [value]).take capacity = w.fed.take capacity :=
      List.take_append_of_le_length (by omega)
    refine ⟨?_, ?_, fun _ => ?_, Nat.le_refl _⟩ <;>
      simp only [step, RtuPassiveFrameCollector.feed, holds.overflow, full, decide_true, if_true]
    · rw [stays, holds.buffer]
    · rw [grown, decide_eq_true (by omega)]
  · by_cases last : capacity = w.fed.length
    · have stays : (w.fed ++ [value]).take capacity = w.fed.take capacity :=
        List.take_append_of_le_length (by omega)
      have beyond : w.collector.buffer.length ≥ capacity := by omega
      refine ⟨?_, ?_, fun _ => ?_, Nat.le_refl _⟩ <;>
        simp only [step, RtuPassiveFrameCollector.feed, holds.overflow, full, decide_false,
          Bool.false_eq_true, if_false, if_pos beyond]
      · rw [stays, holds.buffer]
      · rw [grown, decide_eq_true (by omega)]
    · have room : ¬ w.collector.buffer.length ≥ capacity := by omega
      have whole : w.fed.take capacity = w.fed := List.take_of_length_le (by omega)
      refine ⟨?_, ?_, fun _ => ?_, Nat.le_refl _⟩ <;>
        simp only [step, RtuPassiveFrameCollector.feed, holds.overflow, full, decide_false,
          Bool.false_eq_true, if_false, if_neg room]
      · rw [holds.buffer, whole, List.take_of_length_le (by omega)]
      · rw [grown, decide_eq_false (by omega)]

theorem polled_eq {w : WatchedCollector} (holds : Holds capacity w) (positive : 0 < capacity)
    (roomy : capacity ≤ outputCapacity) (time : Nat) :
    w.polled idleGapUs outputCapacity time =
      if w.fed = [] then (w.collector, .idle, [])
      else if stamp w.lastFedAt ≠ 0 ∧ stamp time - stamp w.lastFedAt < idleGapUs then
        (w.collector, .pending, [])
      else if capacity < w.fed.length then ({}, .overflow, [])
      else ({}, .frameReady, w.fed) := by
  have length : w.collector.buffer.length = min capacity w.fed.length := by
    rw [holds.buffer, List.length_take]
  unfold polled RtuPassiveFrameCollector.poll
  by_cases none : w.fed = []
  · have empty : w.collector.buffer.length = 0 := by rw [length, none]; simp
    simp [holds.overflow, none, empty]
  · have filled : 0 < w.fed.length := List.length_pos_iff.mpr none
    have some : w.collector.buffer.length ≠ 0 := by omega
    have fits : ¬ outputCapacity < w.collector.buffer.length := by omega
    rw [if_neg none, if_neg (by simp [some]), holds.lastByte none, holds.overflow, if_neg fits]
    by_cases recent : stamp w.lastFedAt ≠ 0 ∧ stamp time - stamp w.lastFedAt < idleGapUs
    · rw [if_pos recent, if_pos]
      simpa using recent
    · rw [if_neg recent, if_neg (by simpa using recent)]
      by_cases full : capacity < w.fed.length
      · rw [if_pos full, if_pos (decide_eq_true full)]
      · rw [if_neg full, if_neg (by simpa using full), holds.buffer,
          List.take_of_length_le (by omega)]

theorem step_holds {w : WatchedCollector} (holds : Holds capacity w) (positive : 0 < capacity)
    (roomy : capacity ≤ outputCapacity) (call : CollectorCall) (later : w.clock ≤ call.time) :
    Holds capacity (w.step capacity idleGapUs outputCapacity call) := by
  cases call with
  | feed value time => exact feed_holds holds value time
  | poll time =>
    have past : w.lastFedAt ≤ time := Nat.le_trans holds.past later
    have emptied : Holds capacity { w with collector := {}, fed := [], clock := time } :=
      ⟨List.take_nil.symm, rfl, fun none => absurd rfl none, past⟩
    have kept : Holds capacity { w with clock := time } :=
      ⟨holds.buffer, holds.overflow, holds.lastByte, past⟩
    unfold step
    dsimp only
    rw [polled_eq holds positive roomy time]
    split_ifs with none recent full
    · exact kept
    · exact kept
    · exact emptied
    · exact emptied

/-- A poll splits right unless it comes too early after the reserved timestamp. -/
theorem splitsRight_iff {w : WatchedCollector} (holds : Holds capacity w)
    (positive : 0 < capacity) (roomy : capacity ≤ outputCapacity) (call : CollectorCall)
    (later : w.clock ≤ call.time) :
    w.SplitsRight capacity idleGapUs outputCapacity call ↔ ¬ w.Premature idleGapUs call := by
  cases call with
  | feed value time => simp [SplitsRight, Premature]
  | poll time =>
    have past : w.lastFedAt ≤ time := Nat.le_trans holds.past later
    have elapsed := elapsed_toNat time w.lastFedAt past
    have zero : stamp w.lastFedAt = 0 ↔ w.lastFedAt % 2 ^ 32 = 0 := by
      rw [← UInt32.toNat_inj, stamp_toNat]
      rfl
    have short : idleGapUs.toNat < 2 ^ 32 := idleGapUs.toNat_lt
    have recent : stamp time - stamp w.lastFedAt < idleGapUs ↔
        (time - w.lastFedAt) % 2 ^ 32 < idleGapUs.toNat := by
      rw [UInt32.lt_iff_toNat_lt, elapsed]
    unfold SplitsRight Premature
    dsimp only
    rw [polled_eq holds positive roomy time]
    split_ifs with none pending full
    · refine ⟨fun _ early => early.1 none, fun _ => ?_⟩
      refine ⟨by simp, by simp, by simp, fun many => ?_, fun _ => rfl, fun _ => rfl⟩
      rw [none] at many
      cases many
    · rw [recent, Ne, zero] at pending
      refine ⟨fun _ early => pending.1 early.2.1, fun _ => ?_⟩
      refine ⟨by simp, by simp, by simp, fun _ waited inside => ?_, fun empty => absurd empty none,
        fun _ => rfl⟩
      have same := Nat.mod_eq_of_lt (show time - w.lastFedAt < 2 ^ 32 by omega)
      omega
    · constructor
      · intro right early
        have waited := right.gap (Or.inr rfl)
        omega
      · intro notEarly
        refine ⟨fun _ => ?_, by simp, fun _ => full, fun _ _ _ => rfl,
          fun empty => absurd empty none, fun _ => rfl⟩
        rw [recent, Ne, zero] at pending
        have most := Nat.mod_le (time - w.lastFedAt) (2 ^ 32)
        by_contra early
        exact notEarly ⟨none, by by_contra other; exact pending ⟨other, by omega⟩, by omega⟩
    · constructor
      · intro right early
        have waited := right.gap (Or.inl rfl)
        omega
      · intro notEarly
        refine ⟨fun _ => ?_, fun _ => ⟨by omega, rfl⟩, by simp, fun many => absurd many full,
          fun empty => absurd empty none, fun ready => absurd rfl ready⟩
        rw [recent, Ne, zero] at pending
        have most := Nat.mod_le (time - w.lastFedAt) (2 ^ 32)
        by_contra early
        exact notEarly ⟨none, by by_contra other; exact pending ⟨other, by omega⟩, by omega⟩

end WatchedCollector

open WatchedCollector

def Chronological (calls : List CollectorCall) : Prop :=
  calls.Pairwise fun a b => a.time ≤ b.time

theorem step_clock (capacity outputCapacity : Nat) (idleGapUs : UInt32) (w : WatchedCollector)
    (call : CollectorCall) :
    (w.step capacity idleGapUs outputCapacity call).clock = call.time := by
  cases call with
  | feed value time => rfl
  | poll time =>
    unfold WatchedCollector.step
    dsimp only
    split <;> rfl

/-- Passive frames are split at the idle gaps, in exactly the runs in which no poll comes within
the gap after a byte that was fed when the microsecond counter was at zero. -/
theorem frames_split_at_gaps_iff (capacity outputCapacity : Nat) (idleGapUs : UInt32)
    (positive : 0 < capacity) (roomy : capacity ≤ outputCapacity) (calls : List CollectorCall)
    (ordered : Chronological calls) :
    Always (WatchedCollector.step capacity idleGapUs outputCapacity)
        (SplitsRight capacity idleGapUs outputCapacity) {} calls ↔
      Always (WatchedCollector.step capacity idleGapUs outputCapacity)
        (fun w call => ¬ w.Premature idleGapUs call) {} calls :=
  always_iff_along (WatchedCollector.step capacity idleGapUs outputCapacity) (Holds capacity)
    (fun w call => w.clock ≤ call.time) _ _
    (fun _ call holds later => splitsRight_iff holds positive roomy call later)
    (fun _ call holds later _ => step_holds holds positive roomy call later) {} calls Holds.start
    (always_in_order _ WatchedCollector.clock CollectorCall.time (step_clock _ _ _) {} calls ordered
      fun _ _ => Nat.zero_le _)

theorem frames_split_at_gaps_sample :
    Always (WatchedCollector.step 8 1000 8) (SplitsRight 8 1000 8) {}
        [.feed 0x01 1000, .feed 0x03 1100, .poll 2000, .poll 2200] ↔
      Always (WatchedCollector.step 8 1000 8) (fun w call => ¬ w.Premature 1000 call) {}
        [.feed 0x01 1000, .feed 0x03 1100, .poll 2000, .poll 2200] :=
  frames_split_at_gaps_iff 8 8 1000 (by decide) (by decide)
    [.feed 0x01 1000, .feed 0x03 1100, .poll 2000, .poll 2200]
    (by simp [Chronological, CollectorCall.time])

/-- The first byte of a frame comes when the counter is at zero, and the next poll, a microsecond
later, gives it away as a frame of its own. -/
theorem frame_torn_at_zero :
    ¬ Always (WatchedCollector.step 8 1000 8) (SplitsRight 8 1000 8) {}
      [.feed 0x01 4294967296, .poll 4294967297, .feed 0x03 4294967396] := by
  intro right
  obtain ⟨-, rest⟩ := (always_cons _ _ _ _ _).mp right
  obtain ⟨second, -⟩ := (always_cons _ _ _ _ _).mp rest
  have waited := second.gap (Or.inl rfl)
  revert waited
  decide

end Modbus
