import MultibusGateway.Core.Stores
import MultibusGateway.Library.Execution
import MultibusGateway.Library.Interruption

/-! The marker of a retransmission over saves that are cut short. It has two keys, and a load
rejects one of their four combinations: pending without a time. A pending marker is put in that
order, so it is the one that an interrupted save leaves when no time was there. -/

namespace Application
open ByteString Preferences Execution History

namespace Stores

def loadRetransmission (s : Stores) : Option RetransmissionState :=
  let pending := (s.retransmission .pending).getD 0 != 0
  let lostAtUnix := if !pending then 0 else (s.retransmission .lostAt).getD 0
  if !pending || lostAtUnix != 0 then some { pending := pending, lostAtUnix := lostAtUnix }
  else none

def saveRetransmissionUntil (state : RetransmissionState) (ending : Ending) (s : Stores) :
    Stores × Option Bool :=
  let (stores, saved) := ({ s with outcomes := ending.outcomes }).saveRetransmission state
  (stores, ending.told saved)

end Stores

def outage (state : RetransmissionState) : Option UInt32 :=
  if state.pending then some state.lostAtUnix else none

/-- The stores, the outage that was saved last, and those whose saves did not return true since
then. -/
structure MarkerSaves where
  stores : Stores := {}
  completed : Option UInt32 := none
  interrupted : List (Option UInt32) := []

namespace MarkerSaves

def candidates (m : MarkerSaves) : List (Option UInt32) := m.completed :: m.interrupted

def save (m : MarkerSaves) (input : RetransmissionState × Ending) : MarkerSaves :=
  match m.stores.saveRetransmissionUntil input.1 input.2 with
  | (stores, some true) => ⟨stores, outage input.1, []⟩
  | (stores, _) => ⟨stores, m.completed, outage input.1 :: m.interrupted⟩

/-- The next load succeeds and finds the outage that was saved last or one that was interrupted
since, and its time is not zero. -/
def Recovers (m : MarkerSaves) : Prop :=
  ∃ state, m.stores.loadRetransmission = some state ∧ outage state ∈ m.candidates ∧
    outage state ≠ some 0

/-- The save of an outage does not end between its two puts where no time is kept. -/
def TimeThere (m : MarkerSaves) (input : RetransmissionState × Ending) : Prop :=
  input.1.pending = true → input.1.lostAtUnix ≠ 0 → storedOf input.2.outcomes 2 = 1 →
    (m.stores.retransmission .lostAt).getD 0 ≠ 0

/-- What is in flash: the time of a candidate, and a candidate that is not pending if the flag is
not set. -/
structure Tracked (m : MarkerSaves) : Prop where
  time : (m.stores.retransmission .lostAt).getD 0 ≠ 0 →
    some ((m.stores.retransmission .lostAt).getD 0) ∈ m.candidates
  set : (m.stores.retransmission .pending).getD 0 ≠ 0 →
    (m.stores.retransmission .lostAt).getD 0 ≠ 0
  unset : (m.stores.retransmission .pending).getD 0 = 0 → none ∈ m.candidates

theorem recovers_of_tracked (m : MarkerSaves) (tracked : Tracked m) : m.Recovers := by
  unfold Recovers Stores.loadRetransmission
  by_cases set : (m.stores.retransmission .pending).getD 0 = 0
  · refine ⟨{}, by simp [set], ?_, by simp [outage]⟩
    exact tracked.unset set
  · have time := tracked.set set
    refine ⟨⟨true, (m.stores.retransmission .lostAt).getD 0⟩, by simp [set, time], ?_, ?_⟩
    · exact tracked.time time
    · simpa [outage] using time

theorem time_of_recovers (m : MarkerSaves) (recovers : m.Recovers)
    (set : (m.stores.retransmission .pending).getD 0 ≠ 0) :
    (m.stores.retransmission .lostAt).getD 0 ≠ 0 := by
  obtain ⟨state, loads, -⟩ := recovers
  unfold Stores.loadRetransmission at loads
  intro zero
  simp [set, zero] at loads

theorem save_rejected (m : MarkerSaves) (state : RetransmissionState) (ending : Ending)
    (timeless : (state.pending && state.lostAtUnix == 0) = true) :
    (m.save (state, ending)).stores.retransmission = m.stores.retransmission ∧
    (m.save (state, ending)).candidates = m.completed :: outage state :: m.interrupted := by
  unfold save Stores.saveRetransmissionUntil Stores.saveRetransmission
  simp only [timeless, if_true]
  cases ending <;> exact ⟨rfl, rfl⟩

section
variable (m : MarkerSaves) (state : RetransmissionState) (ending : Ending)
  (timed : (state.pending && state.lostAtUnix == 0) = false)

include timed

theorem save_flash :
    (m.save (state, ending)).stores.retransmission =
      (putAll m.stores.retransmission ending.outcomes (Stores.retransmissionPuts state)).1 := by
  unfold save Stores.saveRetransmissionUntil Stores.saveRetransmission
  simp only [timed, Bool.false_eq_true, if_false]
  cases ending with
  | powerLoss count => rfl
  | returns outcomes => cases (putAll _ _ (Stores.retransmissionPuts state)).2.2 <;> rfl

theorem save_candidates :
    (m.save (state, ending)).candidates = m.completed :: outage state :: m.interrupted ∨
    storedOf ending.outcomes 2 = 2 ∧ (m.save (state, ending)).candidates = [outage state] := by
  have stored := (putAll_stored m.stores.retransmission ending.outcomes
    (Stores.retransmissionPuts state)).2
  unfold save Stores.saveRetransmissionUntil Stores.saveRetransmission
  simp only [timed, Bool.false_eq_true, if_false]
  cases ending with
  | powerLoss count => exact Or.inl rfl
  | returns outcomes =>
    generalize putAll _ _ (Stores.retransmissionPuts state) = result at stored ⊢
    obtain ⟨flash, left, saved⟩ := result
    cases saved with
    | false => exact Or.inl rfl
    | true => exact Or.inr ⟨beq_iff_eq.mp stored.symm, rfl⟩

theorem save_pending :
    ((m.save (state, ending)).stores.retransmission .pending).getD 0 =
      if storedOf ending.outcomes 2 = 0 then (m.stores.retransmission .pending).getD 0
      else if state.pending then 1 else 0 := by
  have written := putAll_written m.stores.retransmission ending.outcomes
    (Stores.retransmissionPuts state) (by simp [Stores.retransmissionPuts]) .pending _
    List.mem_cons_self
  change _ = if _ ∈ [RetransmissionKey.pending, .lostAt].take (storedOf ending.outcomes 2)
    then _ else _ at written
  rw [save_flash m state ending timed, written]
  cases storedOf ending.outcomes 2 <;> simp

theorem save_lostAt :
    ((m.save (state, ending)).stores.retransmission .lostAt).getD 0 =
      if storedOf ending.outcomes 2 = 2 then if state.pending then state.lostAtUnix else 0
      else (m.stores.retransmission .lostAt).getD 0 := by
  have written := putAll_written m.stores.retransmission ending.outcomes
    (Stores.retransmissionPuts state) (by simp [Stores.retransmissionPuts]) .lostAt _
    (List.mem_cons_of_mem _ List.mem_cons_self)
  have few := storedOf_le ending.outcomes 2
  change _ = if _ ∈ [RetransmissionKey.pending, .lostAt].take (storedOf ending.outcomes 2)
    then _ else _ at written
  rw [save_flash m state ending timed, written]
  generalize storedOf ending.outcomes 2 = made at few ⊢
  match made, few with
  | 0, _ => simp
  | 1, _ => simp
  | 2, _ => simp

end

theorem save_offers (m : MarkerSaves) (state : RetransmissionState) (ending : Ending)
    (timed : (state.pending && state.lostAtUnix == 0) = false) :
    outage state ∈ (m.save (state, ending)).candidates ∧
    (storedOf ending.outcomes 2 ≠ 2 →
      ∀ candidate ∈ m.candidates, candidate ∈ (m.save (state, ending)).candidates) := by
  rcases save_candidates m state ending timed with longer | ⟨both, alone⟩
  · rw [longer, MarkerSaves.candidates]
    simp only [List.mem_cons]
    tauto
  · rw [alone]
    exact ⟨List.mem_singleton_self _, fun part => absurd both part⟩

/-- What a save keeps while the times are there. -/
theorem tracked_save (m : MarkerSaves) (input : RetransmissionState × Ending)
    (tracked : Tracked m) (there : TimeThere m input) : Tracked (m.save input) := by
  obtain ⟨state, ending⟩ := input
  cases timed : state.pending && state.lostAtUnix == 0 with
  | true =>
    obtain ⟨flash, candidates⟩ := save_rejected m state ending timed
    have kept : ∀ candidate ∈ m.candidates, candidate ∈ (m.save (state, ending)).candidates := by
      rw [candidates, MarkerSaves.candidates]
      simp only [List.mem_cons]
      tauto
    constructor
    · rw [flash]
      exact fun time => kept _ (tracked.time time)
    · rw [flash]
      exact tracked.set
    · rw [flash]
      exact fun unset => kept _ (tracked.unset unset)
  | false =>
    have pending := save_pending m state ending timed
    have lostAt := save_lostAt m state ending timed
    obtain ⟨offered, kept⟩ := save_offers m state ending timed
    have few := storedOf_le ending.outcomes 2
    unfold TimeThere at there
    dsimp only at there
    generalize storedOf ending.outcomes 2 = made at *
    constructor
    · intro time
      rw [lostAt] at time ⊢
      by_cases both : made = 2
      · rw [if_pos both] at time ⊢
        cases set : state.pending with
        | true => simpa [outage, set] using offered
        | false => simp [set] at time
      · rw [if_neg both] at time ⊢
        exact kept both _ (tracked.time time)
    · intro set
      rw [pending] at set
      rw [lostAt]
      match made, few with
      | 0, _ => exact tracked.set set
      | 1, _ =>
        cases flag : state.pending with
        | false => simp [flag] at set
        | true => exact there flag (by simpa [flag] using timed) rfl
      | 2, _ =>
        cases flag : state.pending with
        | false => simp [flag] at set
        | true => simpa [flag] using timed
    · intro unset
      rw [pending] at unset
      by_cases none : made = 0
      · rw [if_pos none] at unset
        exact kept (by omega) _ (tracked.unset unset)
      · cases flag : state.pending with
        | false => simpa [outage, flag] using offered
        | true => simp [flag, none] at unset

/-- Along every run of saves: each leaves the next load an outage that it may find, exactly as
far as none of an outage ends between its two puts where no time is kept. -/
theorem marker_recovers_iff (saves : List (RetransmissionState × Ending)) :
    Always save (fun m input => (m.save input).Recovers) {} saves ↔
      Always save TimeThere {} saves := by
  have timeThere (m : MarkerSaves) (input : RetransmissionState × Ending)
      (recovers : (m.save input).Recovers) : TimeThere m input := by
    obtain ⟨state, ending⟩ := input
    intro set nonzero first
    have timed : (state.pending && state.lostAtUnix == 0) = false := by
      rw [set, Bool.true_and]
      exact beq_false_of_ne nonzero
    have pending := save_pending m state ending timed
    have lostAt := save_lostAt m state ending timed
    rw [if_neg (by rw [first]; decide)] at lostAt
    rw [if_neg (by rw [first]; decide), if_pos set] at pending
    rw [← lostAt]
    exact time_of_recovers _ recovers (by rw [pending]; decide)
  refine always_iff save Tracked _ _ (fun m input tracked => ?_) (fun m input tracked recovers => ?_)
    {} saves ⟨fun time => absurd rfl time, fun set => absurd rfl set, fun _ => List.mem_cons_self⟩
  · exact ⟨timeThere m input, fun there =>
      recovers_of_tracked _ (tracked_save m input tracked there)⟩
  · exact tracked_save m input tracked (timeThere m input recovers)

/-- The first outage is cut short between its two puts, and the next boot stops at its load. -/
theorem pending_without_time :
    ¬ Always save (fun m input => (m.save input).Recovers) {}
      [({ pending := true, lostAtUnix := 1700000000 }, .powerLoss 1)] := by
  intro always
  obtain ⟨state, loads, -⟩ := ((always_cons _ _ _ _ _).mp always).1
  have stops : (save {} ({ pending := true, lostAtUnix := 1700000000 },
      .powerLoss 1)).stores.loadRetransmission = none := by
    decide +kernel
  exact nomatch stops.symm.trans loads

end MarkerSaves

end Application
