import MultibusGateway.Core.Downlinks
import MultibusGateway.Library.Selection

/-! What a history query selects. A query for a time point goes through the ring twice, first for
the nearest timestamp and then for its records; a query for a time range goes through it once. -/

namespace Application
open History Lorawan Selection

/-! The loops over the ring. -/

structure ClosestPass where
  found : Bool := false
  closestTimestamp : UInt32 := 0
  closestDistance : UInt64 := 0xffffffffffffffff

namespace ClosestPass

def step (startUnix : UInt32) (tolerance : UInt64) (pass : ClosestPass) (ts : UInt32) :
    ClosestPass :=
  let distance :=
    if ts ≥ startUnix then (ts - startUnix).toUInt64 else (startUnix - ts).toUInt64
  if distance ≤ tolerance && (!pass.found || distance < pass.closestDistance) then
    { found := true, closestTimestamp := ts, closestDistance := distance }
  else pass

def passFrom (startUnix : UInt32) (tolerance : UInt64) (ring : Ring) (i : Nat)
    (pass : ClosestPass) : ClosestPass :=
  if i < ring.size then
    passFrom startUnix tolerance ring (i + 1)
      (match ring.oldest i with
        | none => pass
        | some record => pass.step startUnix tolerance record.timestamp)
  else pass
termination_by ring.size - i

end ClosestPass

def collectFrom (wanted : HistoricalRecord → Bool) (ring : Ring) (i : Nat)
    (selected : List HistoricalRecord) : List HistoricalRecord :=
  if i < ring.size ∧ selected.length < kPersistentHistoryCapacity then
    collectFrom wanted ring (i + 1)
      (match ring.oldest i with
        | none => selected
        | some record => if wanted record then selected ++ [record] else selected)
  else selected
termination_by ring.size - i

def selectByLoops (command : HistoryQueryCommand) (reportSeconds : UInt16) (ring : Ring) :
    List HistoricalRecord :=
  match command.kind with
  | .timePoint =>
    let pass := ClosestPass.passFrom command.startUnix reportSeconds.toUInt64 ring 0 {}
    if pass.found then
      collectFrom (fun record => record.timestamp == pass.closestTimestamp) ring 0 []
    else []
  | .timeRange =>
    collectFrom (fun record =>
      record.timestamp ≥ command.startUnix && record.timestamp ≤ command.endUnix) ring 0 []
  | .stop => []

theorem oldest_drop (ring : Ring) (i : Nat) (inside : i < ring.size) :
    ∃ record, ring.oldest i = some record ∧
      ring.toList.drop i = record :: ring.toList.drop (i + 1) := by
  have bound : i < ring.toList.length := by
    rw [HistoryRing.toList_length]
    exact inside
  refine ⟨ring.toList[i], ?_, List.drop_eq_getElem_cons bound⟩
  rw [HistoryRing.oldest_eq_toList, List.getElem?_eq_getElem bound]

theorem drop_outside (ring : Ring) (i : Nat) (outside : ¬ i < ring.size) :
    ring.toList.drop i = [] := by
  rw [List.drop_eq_nil_iff, HistoryRing.toList_length]
  exact Nat.not_lt.mp outside

theorem passFrom_eq (startUnix : UInt32) (tolerance : UInt64) (ring : Ring) (i : Nat)
    (pass : ClosestPass) :
    ClosestPass.passFrom startUnix tolerance ring i pass =
      ((ring.toList.drop i).map HistoricalRecord.timestamp).foldl
        (ClosestPass.step startUnix tolerance) pass := by
  fun_induction ClosestPass.passFrom startUnix tolerance ring i pass with
  | case1 i pass inside ih =>
    obtain ⟨record, here, rest⟩ := oldest_drop ring i inside
    rw [ih, here, rest]
    rfl
  | case2 i pass outside =>
    rw [drop_outside ring i outside]
    rfl

theorem collectFrom_eq (wanted : HistoricalRecord → Bool) (ring : Ring) (i : Nat)
    (selected : List HistoricalRecord) :
    collectFrom wanted ring i selected =
      collect wanted kPersistentHistoryCapacity (ring.toList.drop i) selected := by
  fun_induction collectFrom wanted ring i selected with
  | case1 i selected free ih =>
    obtain ⟨record, here, rest⟩ := oldest_drop ring i free.1
    simp only [dite_eq_ite] at ih
    rw [ih, here, rest, collect, if_pos free.2]
  | case2 i selected ended =>
    by_cases inside : i < ring.size
    · have full : ¬ selected.length < kPersistentHistoryCapacity := fun room => ended ⟨inside, room⟩
      obtain ⟨record, -, rest⟩ := oldest_drop ring i inside
      rw [rest, collect, if_neg full]
    · rw [drop_outside ring i inside]
      rfl

theorem filter_room (wanted : HistoricalRecord → Bool) (ring : Ring) :
    (ring.toList.filter wanted).length ≤ kPersistentHistoryCapacity := by
  have fewer := List.length_filter_le wanted ring.toList
  rw [HistoryRing.toList_length] at fewer
  exact fewer.trans ring.size_le

theorem collectFrom_filter (wanted : HistoricalRecord → Bool) (ring : Ring) :
    collectFrom wanted ring 0 [] = ring.toList.filter wanted := by
  have room := filter_room wanted ring
  rw [collectFrom_eq, collect_eq, List.drop_zero, List.nil_append, List.length_nil, Nat.sub_zero,
    List.take_of_length_le room]

/-! What the loops find. -/

def timeDistance (target ts : UInt32) : Nat := ((ts.toNat : Int) - target.toNat).natAbs

theorem difference_toNat (target ts : UInt32) :
    (if ts ≥ target then (ts - target).toNat else (target - ts).toNat) = timeDistance target ts := by
  unfold timeDistance
  by_cases later : ts ≥ target
  · have order := UInt32.le_iff_toNat_le.mp later
    rw [if_pos later, UInt32.toNat_sub_of_le _ _ later]
    omega
  · have order : ts ≤ target := UInt32.le_of_lt (UInt32.not_le.mp later)
    have order' := UInt32.le_iff_toNat_le.mp order
    rw [if_neg later, UInt32.toNat_sub_of_le _ _ order]
    omega

namespace ClosestPass

def best (pass : ClosestPass) : Option UInt32 :=
  if pass.found then some pass.closestTimestamp else none

def Measured (startUnix : UInt32) (pass : ClosestPass) : Prop :=
  pass.found = true → pass.closestDistance.toNat = timeDistance startUnix pass.closestTimestamp

theorem step_best (startUnix : UInt32) (tolerance : UInt64) (pass : ClosestPass) (ts : UInt32)
    (measured : Measured startUnix pass) :
    (pass.step startUnix tolerance ts).best =
        consider (timeDistance startUnix) tolerance.toNat pass.best ts ∧
      Measured startUnix (pass.step startUnix tolerance ts) := by
  have distance : (if ts ≥ startUnix then (ts - startUnix).toUInt64
      else (startUnix - ts).toUInt64).toNat = timeDistance startUnix ts := by
    rw [← difference_toNat]
    split <;> rfl
  unfold step
  dsimp only
  generalize (if ts ≥ startUnix then (ts - startUnix).toUInt64
    else (startUnix - ts).toUInt64) = away at distance ⊢
  by_cases inside : away ≤ tolerance
  · have within : ¬ timeDistance startUnix ts > tolerance.toNat := by
      rw [← distance]
      exact Nat.not_lt.mpr (UInt64.le_iff_toNat_le.mp inside)
    unfold consider
    rw [if_neg within, decide_eq_true inside, Bool.true_and]
    cases known : pass.found with
    | false => exact ⟨by simp [best, known], fun _ => distance⟩
    | true =>
      have nearer : away < pass.closestDistance ↔
          timeDistance startUnix ts < timeDistance startUnix pass.closestTimestamp := by
        rw [UInt64.lt_iff_toNat_lt, distance, measured known]
      have recorded : Measured startUnix
          { found := true, closestTimestamp := ts, closestDistance := away } := fun _ => distance
      by_cases better : away < pass.closestDistance
      · rw [decide_eq_true better, Bool.or_true, if_pos rfl]
        exact ⟨by simp [best, known, nearer.mp better], recorded⟩
      · have worse : ¬ timeDistance startUnix ts < timeDistance startUnix pass.closestTimestamp :=
          fun less => better (nearer.mpr less)
        rw [decide_eq_false better, Bool.or_false, Bool.not_true, if_neg Bool.false_ne_true]
        refine ⟨?_, measured⟩
        simp only [best, known, if_true]
        exact (if_neg worse).symm
  · have beyond : timeDistance startUnix ts > tolerance.toNat := by
      rw [← distance]
      exact UInt64.lt_iff_toNat_lt.mp (UInt64.not_le.mp inside)
    simp only [inside, decide_false, Bool.false_and, Bool.false_eq_true, if_false]
    exact ⟨(if_pos beyond).symm, measured⟩

theorem foldl_best (startUnix : UInt32) (tolerance : UInt64) (timestamps : List UInt32)
    (pass : ClosestPass) (measured : Measured startUnix pass) :
    (timestamps.foldl (step startUnix tolerance) pass).best =
      timestamps.foldl (consider (timeDistance startUnix) tolerance.toNat) pass.best := by
  induction timestamps generalizing pass with
  | nil => rfl
  | cons ts rest ih =>
    obtain ⟨stepped, next⟩ := step_best startUnix tolerance pass ts measured
    rw [List.foldl_cons, List.foldl_cons, ih _ next, stepped]

theorem passFrom_best (startUnix : UInt32) (tolerance : UInt64) (ring : Ring) :
    (passFrom startUnix tolerance ring 0 {}).best =
      search (timeDistance startUnix) tolerance.toNat
        (ring.toList.map HistoricalRecord.timestamp) := by
  rw [passFrom_eq, List.drop_zero]
  exact foldl_best startUnix tolerance _ {} fun known => Bool.noConfusion known

end ClosestPass

theorem closestTimestamp_search (target : UInt32) (tolerance : Nat)
    (records : List HistoricalRecord) :
    closestTimestamp target tolerance records =
      search (timeDistance target) tolerance (records.map HistoricalRecord.timestamp) := by
  unfold closestTimestamp search
  rw [List.foldl_map]
  dsimp only
  congr 1
  funext found record
  simp only [difference_toNat, consider]
  cases found <;> rfl

/-- The loops select the records of the query. -/
theorem selectByLoops_eq (command : HistoryQueryCommand) (reportSeconds : UInt16) (ring : Ring) :
    selectByLoops command reportSeconds ring = selectRecords command reportSeconds ring := by
  unfold selectByLoops selectRecords
  cases command.kind with
  | stop => rfl
  | timeRange => exact collectFrom_filter _ ring
  | timePoint =>
    have closest := ClosestPass.passFrom_best command.startUnix reportSeconds.toUInt64 ring
    have tolerance : reportSeconds.toUInt64.toNat = reportSeconds.toNat := rfl
    rw [tolerance, ← closestTimestamp_search] at closest
    dsimp only
    rw [← closest, ClosestPass.best]
    cases (ClosestPass.passFrom command.startUnix reportSeconds.toUInt64 ring 0 {}).found with
    | false => rfl
    | true => exact collectFrom_filter _ ring

/-! What is selected. -/

/-- The timestamp of the least distance from the time asked for, the one met first of several. -/
structure Nearest (target : UInt32) (timestamps : List UInt32) (closest : UInt32) : Prop where
  met : closest ∈ timestamps
  least : ∀ ts ∈ timestamps, timeDistance target closest ≤ timeDistance target ts
  first : ∀ ts ∈ timestamps, timeDistance target ts ≤ timeDistance target closest →
    timestamps.idxOf closest ≤ timestamps.idxOf ts

theorem nearest_of_argmin (target : UInt32) (timestamps : List UInt32) (closest : UInt32)
    (found : timestamps.argmin (timeDistance target) = some closest) :
    Nearest target timestamps closest := by
  obtain ⟨met, least, first⟩ := List.argmin_eq_some_iff.mp found
  exact ⟨met, least, first⟩

theorem selectRecords_timePoint (command : HistoryQueryCommand) (reportSeconds : UInt16)
    (ring : Ring) (point : command.kind = .timePoint) :
    ring.toList = [] ∧ selectRecords command reportSeconds ring = [] ∨
      ∃ closest, Nearest command.startUnix (ring.toList.map HistoricalRecord.timestamp) closest ∧
        selectRecords command reportSeconds ring =
          if timeDistance command.startUnix closest ≤ reportSeconds.toNat then
            ring.toList.filter fun record => record.timestamp == closest
          else [] := by
  unfold selectRecords
  rw [point]
  dsimp only
  rw [closestTimestamp_search, search_eq]
  cases found : (ring.toList.map HistoricalRecord.timestamp).argmin
      (timeDistance command.startUnix) with
  | none =>
    left
    have empty := List.argmin_eq_none.mp found
    exact ⟨List.map_eq_nil_iff.mp empty, rfl⟩
  | some closest =>
    right
    refine ⟨closest, nearest_of_argmin _ _ _ found, ?_⟩
    rw [Option.filter_some]
    by_cases near : timeDistance command.startUnix closest ≤ reportSeconds.toNat
    · rw [decide_eq_true near, if_pos rfl, if_pos near]
    · rw [decide_eq_false near, if_neg Bool.false_ne_true, if_neg near]

theorem selectRecords_timeRange (command : HistoryQueryCommand) (reportSeconds : UInt16)
    (ring : Ring) (range : command.kind = .timeRange) :
    selectRecords command reportSeconds ring = ring.toList.filter fun record =>
      command.startUnix ≤ record.timestamp ∧ record.timestamp ≤ command.endUnix := by
  unfold selectRecords
  rw [range]
  dsimp only
  congr 1
  funext record
  rw [Bool.decide_and]

theorem selectRecords_length (command : HistoryQueryCommand) (reportSeconds : UInt16)
    (ring : Ring) :
    (selectRecords command reportSeconds ring).length ≤ kPersistentHistoryCapacity := by
  unfold selectRecords
  cases command.kind with
  | stop => exact Nat.zero_le _
  | timeRange => exact filter_room _ ring
  | timePoint =>
    dsimp only
    split
    · exact Nat.zero_le _
    · exact filter_room _ ring

/-! The reply. -/

def applyHistoryQueryUsing (reply : (State → State) → UInt8 → UInt8 → State → State × Bool)
    (command : HistoryQueryCommand) (app : State) : State × Bool :=
  if command.kind = .stop then
    ({ app with query := { app.query.select [] with active := false } }, true)
  else
    let replyType := queryReplyType command.kind
    if command.kind = .timeRange && command.startUnix > command.endUnix then
      reply id replyType 0x01 { app with query := app.query.deactivate }
    else
      let records := selectByLoops command app.scheduler.settings.seconds app.history.ring
      let app := { app with query := app.query.select records }
      if records.length = 0 then
        reply id replyType 0x02 { app with query := { app.query with active := false } }
      else
        let (app, sent) :=
          reply (fun app => { app with query := app.query.noteAccepted }) replyType 0x00 app
        if !sent then
          ({ app with query := { app.query with active := false, records := [] } }, false)
        else
          let interval := app.history.settings.retrievabilityIntervalSeconds.toUInt32 * 1000
          ({ app with query :=
              { app.query with active := true, nextAtMs := app.clock.millis + interval } }, true)

theorem applyHistoryQueryUsing_send (deliver : Deliver State) (command : HistoryQueryCommand)
    (app : State) :
    applyHistoryQueryCommand deliver command app =
      applyHistoryQueryUsing (sendHistoryQueryReply deliver) command app := by
  unfold applyHistoryQueryCommand applyHistoryQueryUsing
  rw [selectByLoops_eq]

def Reversed (command : HistoryQueryCommand) : Prop :=
  command.kind = .timeRange ∧ command.startUnix > command.endUnix

theorem reversed_iff (command : HistoryQueryCommand) :
    (decide (command.kind = .timeRange) && decide (command.startUnix > command.endUnix)) = true ↔
      Reversed command := by
  rw [Bool.and_eq_true, decide_eq_true_eq, decide_eq_true_eq, Reversed]

/-- The command is answered by one reply with this status, sent in this state; what comes before
and after it does not depend on how it is sent. -/
def RepliesOnce (command : HistoryQueryCommand) (app : State) (status : UInt8)
    (prepared : State) : Prop :=
  ∃ (note : State → State) (conclude : State × Bool → State × Bool), ∀ reply,
    applyHistoryQueryUsing reply command app =
      conclude (reply note (queryReplyType command.kind) status prepared)

theorem repliesOnce_reversed (command : HistoryQueryCommand) (app : State)
    (reversed : Reversed command) :
    RepliesOnce command app 0x01 { app with query := app.query.deactivate } := by
  refine ⟨id, id, fun reply => ?_⟩
  have going : ¬ command.kind = .stop := by
    rw [reversed.1]
    exact HistoryQueryKind.noConfusion
  have guard := (reversed_iff command).mpr reversed
  unfold applyHistoryQueryUsing
  rw [if_neg going]
  dsimp only
  rw [if_pos guard]
  rfl

section
variable (command : HistoryQueryCommand) (app : State) (going : command.kind ≠ .stop)
  (forward : ¬ Reversed command)

include going forward

theorem repliesOnce_empty
    (none : selectByLoops command app.scheduler.settings.seconds app.history.ring = []) :
    RepliesOnce command app 0x02
      { app with query := { app.query.select [] with active := false } } := by
  refine ⟨id, id, fun reply => ?_⟩
  have guard := mt (reversed_iff command).mp forward
  unfold applyHistoryQueryUsing
  rw [if_neg going]
  dsimp only
  rw [if_neg guard, none, if_pos List.length_nil]
  rfl

theorem repliesOnce_selected
    (some : selectByLoops command app.scheduler.settings.seconds app.history.ring ≠ []) :
    RepliesOnce command app 0x00 { app with
      query := app.query.select <|
        selectByLoops command app.scheduler.settings.seconds app.history.ring } := by
  refine ⟨fun app => { app with query := app.query.noteAccepted }, fun replied =>
    if !replied.2 then
      ({ replied.1 with query := { replied.1.query with active := false, records := [] } }, false)
    else
      ({ replied.1 with query :=
          { replied.1.query with
            active := true
            nextAtMs := replied.1.clock.millis +
              replied.1.history.settings.retrievabilityIntervalSeconds.toUInt32 * 1000 } }, true),
    fun reply => ?_⟩
  have guard := mt (reversed_iff command).mp forward
  have more : ¬ (selectByLoops command app.scheduler.settings.seconds
      app.history.ring).length = 0 := fun empty => some (List.length_eq_zero_iff.mp empty)
  unfold applyHistoryQueryUsing
  rw [if_neg going]
  dsimp only
  rw [if_neg guard, if_neg more]

end

/-- Whatever the ring holds and whatever the query asks for: the loops select the records of the
range, or those of the nearest timestamp if it is near enough, all of them and in the order of
the ring, and the status of the reply tells whether the query could be answered. -/
theorem history_query_exact (command : HistoryQueryCommand) (app : State) :
    let ring := app.history.ring
    let interval := app.scheduler.settings.seconds
    let selected := selectByLoops command interval ring
    (command.kind = .timeRange → command.startUnix ≤ command.endUnix →
      selected = ring.toList.filter fun record =>
        command.startUnix ≤ record.timestamp ∧ record.timestamp ≤ command.endUnix) ∧
    (command.kind = .timePoint → ring.toList = [] ∧ selected = [] ∨
      ∃ closest, Nearest command.startUnix (ring.toList.map HistoricalRecord.timestamp) closest ∧
        selected = if timeDistance command.startUnix closest ≤ interval.toNat then
          ring.toList.filter fun record => record.timestamp == closest else []) ∧
    selected.length ≤ kPersistentHistoryCapacity ∧
    (command.kind ≠ .stop → ∃ status prepared,
      (status = 0x01 ↔ Reversed command) ∧
      (status = 0x02 ↔ ¬ Reversed command ∧ selected = []) ∧
      (status = 0x00 ↔ ¬ Reversed command ∧ selected ≠ []) ∧
      (¬ Reversed command → prepared.query.records = selected ∧ prepared.query.cursor = 0) ∧
      RepliesOnce command app status prepared) ∧
    ∀ deliver, applyHistoryQueryCommand deliver command app =
      applyHistoryQueryUsing (sendHistoryQueryReply deliver) command app := by
  intro ring interval selected
  have loops : selected = selectRecords command interval ring :=
    selectByLoops_eq command interval ring
  refine ⟨fun range _ => ?_, fun point => ?_, ?_, fun going => ?_,
    fun deliver => applyHistoryQueryUsing_send deliver command app⟩
  · rw [loops]
    exact selectRecords_timeRange command interval ring range
  · rw [loops]
    exact selectRecords_timePoint command interval ring point
  · rw [loops]
    exact selectRecords_length command interval ring
  · by_cases reversed : Reversed command
    · exact ⟨0x01, _, by simp [reversed], by simp [reversed], by simp [reversed],
        fun forward => absurd reversed forward, repliesOnce_reversed command app reversed⟩
    · by_cases none : selected = []
      · refine ⟨0x02, _, by simp [reversed], by simp [reversed, none], by simp [none],
          fun _ => ?_, repliesOnce_empty command app going reversed none⟩
        rw [none]
        exact ⟨rfl, rfl⟩
      · exact ⟨0x00, _, by simp [reversed], by simp [none], by simp [reversed, none],
          fun _ => ⟨rfl, rfl⟩, repliesOnce_selected command app going reversed none⟩

end Application
