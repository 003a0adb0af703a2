import Mathlib.Order.Interval.Finset.Nat
import MultibusGateway.Time.CivilWords

/-! The day of a transition is the occurrence of its weekday that its week names. Two days of a
month have the same weekday exactly if they are whole weeks apart. -/

namespace Time

theorem sameWeekday_iff (year : ℤ) (month a b : UInt8)
    (months : 1 ≤ month.toNat ∧ month.toNat ≤ 12) (first : 1 ≤ a.toNat) (first' : 1 ≤ b.toNat) :
    isoWeekday year month a = isoWeekday year month b ↔ a.toNat % 7 = b.toNat % 7 := by
  have one := isoWeekday_eq year month a
  have other := isoWeekday_eq year month b
  rw [daysFromCivil_inMonth _ _ _ months first] at one
  rw [daysFromCivil_inMonth _ _ _ months first'] at other
  rw [← UInt8.toNat_inj]
  omega

theorem card_weeks_before (day : ℕ) :
    ((Finset.Ico 1 day).filter fun earlier => earlier % 7 = day % 7).card = (day - 1) / 7 := by
  have counted : (Finset.Ico 1 day).filter (fun earlier => earlier % 7 = day % 7) =
      (Finset.range ((day - 1) / 7)).image fun k => day - 7 * (k + 1) := by
    ext earlier
    simp only [Finset.mem_filter, Finset.mem_Ico, Finset.mem_image, Finset.mem_range]
    constructor
    · intro inside
      exact ⟨(day - earlier) / 7 - 1, by omega, by omega⟩
    · rintro ⟨k, less, rfl⟩
      omega
  rw [counted, Finset.card_image_of_injOn, Finset.card_range]
  intro j less k less' same
  simp only [Finset.coe_range, Set.mem_Iio] at less less'
  dsimp only at same
  omega

theorem transitionDayOfMonth_early (year : ℤ) (transition : DstTransition)
    (valid : validDstTransition transition = true) (early : transition.week.toNat < 5) :
    isoWeekday year transition.month (transitionDayOfMonth year transition) =
        transition.weekday ∧
      1 ≤ (transitionDayOfMonth year transition).toNat ∧
      (transitionDayOfMonth year transition).toNat ≤ 28 ∧
      ((transitionDayOfMonth year transition).toNat - 1) / 7 = transition.week.toNat - 1 := by
  have range := inRange_of_valid transition valid
  have week := range.week
  have weekday := range.weekday
  have dim := daysInMonth_range year transition.month range.month.1 range.month.2
  have first := isoWeekday_eq year transition.month 1
  have one : (1 : UInt8).toNat = 1 := rfl
  rw [one, daysFromCivil_inMonth _ _ _ range.month le_rfl] at first
  have opening := isoWeekday_range year transition.month 1
  have found := transitionDayOfMonth_toNat year transition valid
  rw [if_pos early] at found
  refine ⟨?_, by omega, by omega, by omega⟩
  have day := isoWeekday_eq year transition.month (transitionDayOfMonth year transition)
  rw [daysFromCivil_inMonth _ _ _ range.month (by omega)] at day
  apply UInt8.toNat_inj.mp
  omega

theorem transitionDayOfMonth_last (year : ℤ) (transition : DstTransition)
    (valid : validDstTransition transition = true) (last : ¬ transition.week.toNat < 5) :
    isoWeekday year transition.month (transitionDayOfMonth year transition) =
        transition.weekday ∧
      1 ≤ (transitionDayOfMonth year transition).toNat ∧
      (transitionDayOfMonth year transition).toNat ≤
        (daysInMonth year transition.month).toNat ∧
      (daysInMonth year transition.month).toNat <
        (transitionDayOfMonth year transition).toNat + 7 := by
  have range := inRange_of_valid transition valid
  have weekday := range.weekday
  have dim := daysInMonth_range year transition.month range.month.1 range.month.2
  have final := isoWeekday_eq year transition.month (daysInMonth year transition.month)
  rw [daysFromCivil_inMonth _ _ _ range.month (by omega)] at final
  have closing := isoWeekday_range year transition.month (daysInMonth year transition.month)
  have found := transitionDayOfMonth_toNat year transition valid
  rw [if_neg last] at found
  refine ⟨?_, by omega, by omega, by omega⟩
  have day := isoWeekday_eq year transition.month (transitionDayOfMonth year transition)
  rw [daysFromCivil_inMonth _ _ _ range.month (by omega)] at day
  apply UInt8.toNat_inj.mp
  omega

/-- A valid transition has a day in every year: the occurrence of its weekday that its week names,
or the last one. -/
theorem transitionDayOfMonth_occurrence (year : ℤ) (transition : DstTransition)
    (valid : validDstTransition transition = true) :
    let day := Words.transitionDayOfMonth year transition
    let length := daysInMonth year transition.month
    1 ≤ day.toNat ∧ day.toNat ≤ length.toNat ∧
      Words.isoWeekday year transition.month day = transition.weekday ∧
      (transition.week.toNat < 5 →
        ((Finset.Ico 1 day.toNat).filter fun earlier =>
          Words.isoWeekday year transition.month (UInt8.ofNat earlier) =
            transition.weekday).card = transition.week.toNat - 1) ∧
      (transition.week = 5 → ∀ later : UInt8, day.toNat < later.toNat →
        later.toNat ≤ length.toNat →
          Words.isoWeekday year transition.month later ≠ transition.weekday) ∧
      day ≠ 0 := by
  intro day length
  have range := inRange_of_valid transition valid
  have months := range.month
  have dim := daysInMonth_range year transition.month months.1 months.2
  have same : day = transitionDayOfMonth year transition :=
    Words.transitionDayOfMonth_eq year transition
  have words : ∀ d : UInt8, 1 ≤ d.toNat → d.toNat ≤ length.toNat →
      Words.isoWeekday year transition.month d = isoWeekday year transition.month d :=
    fun d first last => Words.isoWeekday_eq year _ d months ⟨first, last.trans dim.2⟩
  have inside : 1 ≤ day.toNat ∧ day.toNat ≤ length.toNat ∧
      isoWeekday year transition.month day = transition.weekday := by
    rw [same]
    by_cases early : transition.week.toNat < 5
    · obtain ⟨weekday, first, last, -⟩ := transitionDayOfMonth_early year transition valid early
      exact ⟨first, last.trans dim.1, weekday⟩
    · obtain ⟨weekday, first, last, -⟩ := transitionDayOfMonth_last year transition valid early
      exact ⟨first, last, weekday⟩
  obtain ⟨first, last, weekday⟩ := inside
  refine ⟨first, last, by rw [words day first last, weekday], ?_, ?_, ?_⟩
  · intro early
    have counted := (transitionDayOfMonth_early year transition valid early).2.2.2
    rw [← same] at counted
    rw [← counted, ← card_weeks_before]
    congr 1
    apply Finset.filter_congr
    intro earlier inside
    obtain ⟨begun, before⟩ := Finset.mem_Ico.mp inside
    have number : (UInt8.ofNat earlier).toNat = earlier := by
      rw [UInt8.toNat_ofNat']
      omega
    rw [words _ (by omega) (by omega), ← weekday,
      sameWeekday_iff year _ _ _ months (by omega) first, number]
  · intro fifth later after within other
    have final := (transitionDayOfMonth_last year transition valid (by rw [fifth]; decide)).2.2.2
    rw [← same] at final
    rw [words _ (by omega) within, ← weekday,
      sameWeekday_iff year _ _ _ months (by omega) first] at other
    have bound : length.toNat < day.toNat + 7 := final
    omega
  · intro none
    rw [none] at first
    exact absurd first (by decide)

/-- The last Sunday of February 2100, which has no leap day. -/
theorem transitionDayOfMonth_february :
    let transition : DstTransition := { month := 2, week := 5, weekday := 7, minuteOfDay := 120 }
    let day := Words.transitionDayOfMonth 2100 transition
    let length := daysInMonth 2100 transition.month
    (day = 28 ∧ length = 28) ∧ 1 ≤ day.toNat ∧ day.toNat ≤ length.toNat ∧
      Words.isoWeekday 2100 transition.month day = transition.weekday ∧
      (transition.week.toNat < 5 →
        ((Finset.Ico 1 day.toNat).filter fun earlier =>
          Words.isoWeekday 2100 transition.month (UInt8.ofNat earlier) =
            transition.weekday).card = transition.week.toNat - 1) ∧
      (transition.week = 5 → ∀ later : UInt8, day.toNat < later.toNat →
        later.toNat ≤ length.toNat →
          Words.isoWeekday 2100 transition.month later ≠ transition.weekday) ∧
      day ≠ 0 :=
  ⟨by decide +kernel, transitionDayOfMonth_occurrence 2100 _ (by decide +kernel)⟩

end Time
