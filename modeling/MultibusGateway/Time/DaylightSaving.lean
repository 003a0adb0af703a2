import MultibusGateway.Library.Switching
import MultibusGateway.Time.CivilDays

/-! Daylight saving as a switch. The code looks at the two transitions of one calendar year, the
year of the clock that is not shifted; the end of daylight saving, once it is moved by the bias,
may lie in the year before. -/

namespace Time
open Switching

theorem isoWeekday_eq (year : ℤ) (month day : UInt8) : ((isoWeekday year month day).toNat : ℤ) =
    (daysFromCivil year month.toNat day.toNat + 3) % 7 + 1 := by
  unfold isoWeekday
  dsimp only
  generalize daysFromCivil year month.toNat day.toNat + 3 = days
  rw [Int.tmod_eq_emod, UInt8.toNat_ofNat']
  have size : ((7 : ℤ).natAbs : ℤ) = 7 := rfl
  split <;> split <;> omega

theorem isoWeekday_range (year : ℤ) (month day : UInt8) :
    1 ≤ (isoWeekday year month day).toNat ∧ (isoWeekday year month day).toNat ≤ 7 := by
  have weekday := isoWeekday_eq year month day
  omega

theorem daysInMonth_range (year : ℤ) (month : UInt8) (first : 1 ≤ month.toNat)
    (last : month.toNat ≤ 12) :
    28 ≤ (daysInMonth year month).toNat ∧ (daysInMonth year month).toNat ≤ 31 := by
  have all : ∀ days ∈ kDays, 28 ≤ days.toNat ∧ days.toNat ≤ 31 := by decide +kernel
  have one : 1 ≤ month := UInt8.le_iff_toNat_le.mpr first
  have twelve : month ≤ 12 := UInt8.le_iff_toNat_le.mpr last
  have index : (month - 1).toNat < kDays.length := by
    have length : kDays.length = 12 := rfl
    rw [UInt8.toNat_sub_of_le _ _ one, length]
    exact (Nat.sub_lt_iff_lt_add first).mpr (Nat.lt_succ_of_le last)
  unfold daysInMonth
  split
  · decide
  · rw [if_pos (by simp [one, twelve]), List.getD_eq_getElem?_getD, List.getElem?_eq_getElem index,
      Option.getD_some]
    exact all _ (List.getElem_mem index)

structure InRange (transition : DstTransition) : Prop where
  month : 1 ≤ transition.month.toNat ∧ transition.month.toNat ≤ 12
  week : 1 ≤ transition.week.toNat ∧ transition.week.toNat ≤ 5
  weekday : 1 ≤ transition.weekday.toNat ∧ transition.weekday.toNat ≤ 7
  minute : transition.minuteOfDay.toNat ≤ 1439

theorem inRange_of_valid (transition : DstTransition)
    (valid : validDstTransition transition = true) : InRange transition := by
  simp only [validDstTransition, ge_iff_le, Bool.and_eq_true, decide_eq_true_eq,
    UInt8.le_iff_toNat_le, UInt16.le_iff_toNat_le] at valid
  obtain ⟨⟨⟨⟨⟨⟨month, month'⟩, week⟩, week'⟩, weekday⟩, weekday'⟩, minute⟩ := valid
  exact ⟨⟨month, month'⟩, ⟨week, week'⟩, ⟨weekday, weekday'⟩, minute⟩

theorem transition_possible (year : ℤ) (transition : DstTransition)
    (valid : validDstTransition transition = true) :
    ¬ (daysInMonth year transition.month == 0 || !validDstTransition transition) = true := by
  have range := inRange_of_valid transition valid
  have dim := daysInMonth_range year transition.month range.month.1 range.month.2
  rw [valid, Bool.not_true, Bool.or_false, beq_iff_eq]
  intro none
  rw [none] at dim
  exact absurd dim.1 (by decide)

/-- The day of a valid transition, counted from the first day of the month or from the last. -/
theorem transitionDayOfMonth_toNat (year : ℤ) (transition : DstTransition)
    (valid : validDstTransition transition = true) :
    (transitionDayOfMonth year transition).toNat =
      if transition.week.toNat < 5 then
        1 + (7 + transition.weekday.toNat - (isoWeekday year transition.month 1).toNat) % 7 +
          (transition.week.toNat - 1) * 7
      else
        (daysInMonth year transition.month).toNat -
          (7 + (isoWeekday year transition.month (daysInMonth year transition.month)).toNat -
            transition.weekday.toNat) % 7 := by
  have range := inRange_of_valid transition valid
  have week := range.week
  have weekday := range.weekday
  have dim := daysInMonth_range year transition.month range.month.1 range.month.2
  have first := isoWeekday_range year transition.month 1
  have last := isoWeekday_range year transition.month (daysInMonth year transition.month)
  unfold transitionDayOfMonth
  dsimp only
  rw [if_neg (transition_possible year transition valid)]
  by_cases early : transition.week.toNat < 5
  · rw [if_pos early, if_pos (UInt8.lt_iff_toNat_lt.mpr early),
      Int.tmod_eq_emod_of_nonneg (by omega), if_pos (by omega), UInt8.toNat_ofNat']
    omega
  · rw [if_neg early, if_neg (mt UInt8.lt_iff_toNat_lt.mp early),
      Int.tmod_eq_emod_of_nonneg (by omega), UInt8.toNat_ofNat']
    omega

theorem transitionDayOfMonth_range (year : ℤ) (transition : DstTransition)
    (valid : validDstTransition transition = true) :
    1 ≤ (transitionDayOfMonth year transition).toNat ∧
      (transitionDayOfMonth year transition).toNat ≤ 31 := by
  have range := inRange_of_valid transition valid
  have week := range.week
  have dim := daysInMonth_range year transition.month range.month.1 range.month.2
  rw [transitionDayOfMonth_toNat year transition valid]
  split <;> omega

/-! The instants of the transitions. -/

def yearStart (year : ℤ) : ℤ := daysFromCivil year 1 1 * 86400

def transitionSecond (year : ℤ) (transition : DstTransition) : ℤ :=
  daysFromCivil year transition.month.toNat (transitionDayOfMonth year transition).toNat * 86400 +
    transition.minuteOfDay.toNat * 60

theorem localSecondsForTransition_valid (year : ℤ) (transition : DstTransition)
    (valid : validDstTransition transition = true) :
    localSecondsForTransition year transition = some (transitionSecond year transition) := by
  have day := transitionDayOfMonth_range year transition valid
  unfold localSecondsForTransition
  refine if_neg ?_
  rw [beq_iff_eq]
  intro zero
  rw [zero] at day
  exact absurd day.1 (by decide)

theorem transitionSecond_inYear (year : ℤ) (transition : DstTransition)
    (valid : validDstTransition transition = true) :
    yearStart year ≤ transitionSecond year transition ∧
      transitionSecond year transition < yearStart (year + 1) := by
  have range := inRange_of_valid transition valid
  have minute := range.minute
  have day := daysFromCivil_inYear year _ _ range.month
    (transitionDayOfMonth_range year transition valid)
  unfold yearStart transitionSecond
  omega

section
variable (settings : Settings)

def startInstant (year : ℤ) : Option ℤ := localSecondsForTransition year settings.dst.start

def endInstant (year : ℤ) : Option ℤ :=
  (localSecondsForTransition year settings.dst.finish).map fun finish =>
    finish - settings.dst.biasMinutes.toNat * 60

/-- Among the starts and ends of all years, the latest one not after a second is a start. -/
def DaylightAt (second : ℤ) : Prop :=
  ∃ year start, startInstant settings year = some start ∧ start ≤ second ∧
    (∀ other instant, startInstant settings other = some instant → instant ≤ second →
      instant ≤ start) ∧
    ∀ other instant, endInstant settings other = some instant → instant ≤ second →
      instant ≤ start

def startSecond (year : ℤ) : ℤ := transitionSecond year settings.dst.start

def endSecond (year : ℤ) : ℤ :=
  transitionSecond year settings.dst.finish - settings.dst.biasMinutes.toNat * 60

variable {settings} (enabled : settings.dst.enabled = true)
  (valid : validDstSettings settings.dst = true)
include enabled valid

theorem valid_transitions : settings.dst.biasMinutes.toNat ≤ 120 ∧
    validDstTransition settings.dst.start = true ∧
    validDstTransition settings.dst.finish = true := by
  unfold validDstSettings at valid
  rw [enabled, Bool.not_true, if_neg Bool.false_ne_true] at valid
  simp only [ge_iff_le, Bool.and_eq_true, decide_eq_true_eq, UInt8.le_iff_toNat_le] at valid
  obtain ⟨⟨⟨-, bias⟩, start⟩, finish⟩ := valid
  exact ⟨bias, start, finish⟩

theorem daylightAt_iff_on (second : ℤ) :
    DaylightAt settings second ↔ On (startSecond settings) (endSecond settings) second := by
  obtain ⟨-, start, finish⟩ := valid_transitions enabled valid
  have starts (year : ℤ) : startInstant settings year = some (startSecond settings year) :=
    localSecondsForTransition_valid year _ start
  have ends (year : ℤ) : endInstant settings year = some (endSecond settings year) := by
    rw [endInstant, localSecondsForTransition_valid year _ finish]
    rfl
  unfold DaylightAt On
  simp only [starts, ends, Option.some.injEq, exists_eq_left', forall_eq']

theorem transitions_periodic :
    Periodic (startSecond settings) (endSecond settings) yearStart
      (settings.dst.biasMinutes.toNat * 60) := by
  obtain ⟨bias, start, finish⟩ := valid_transitions enabled valid
  refine ⟨fun year => transitionSecond_inYear year _ start, fun year => ?_, by omega, fun year => ?_⟩
  · rw [endSecond, Int.sub_add_cancel]
    exact transitionSecond_inYear year _ finish
  · have long := year_long year
    unfold yearStart
    omega

theorem dstActive_within (second : ℤ) :
    dstActiveForStandardLocalSeconds second settings =
      within (startSecond settings (dateTimeFromEpoch second).year)
        (endSecond settings (dateTimeFromEpoch second).year) second := by
  obtain ⟨-, start, finish⟩ := valid_transitions enabled valid
  unfold dstActiveForStandardLocalSeconds
  rw [enabled, valid, Bool.not_true, Bool.or_false, if_neg Bool.false_ne_true]
  dsimp only
  rw [localSecondsForTransition_valid _ _ start, localSecondsForTransition_valid _ _ finish]
  rfl

/-- Daylight saving is active between the transitions of all years exactly where the transitions
of the neighbouring years do not change what those of the year say. -/
theorem dstActive_daylightAt_iff (second : ℤ) :
    (dstActiveForStandardLocalSeconds second settings = true ↔ DaylightAt settings second) ↔
      Settled (startSecond settings) (endSecond settings) (dateTimeFromEpoch second).year
        second := by
  have dated := (dateTimeFromEpoch_dated second).1
  have begun := dated.begun
  have unended := dated.unended
  rw [dstActive_within enabled valid, daylightAt_iff_on enabled valid]
  refine within_iff_on (transitions_periodic enabled valid) ?_ ?_
  · unfold yearStart
    omega
  · unfold yearStart
    omega

end

/-- Central European summer time, one hour east of Greenwich. -/
def vienna : Settings where
  utcOffsetMinutes := 60
  dst :=
    { enabled := true
      biasMinutes := 60
      start := { month := 3, week := 5, weekday := 7, minuteOfDay := 120 }
      finish := { month := 10, week := 5, weekday := 7, minuteOfDay := 180 } }

theorem dstActive_daylightAt_vienna :
    (dstActiveForStandardLocalSeconds 1720000000 vienna = true ↔ DaylightAt vienna 1720000000) ↔
      Settled (startSecond vienna) (endSecond vienna) (dateTimeFromEpoch 1720000000).year
        1720000000 :=
  dstActive_daylightAt_iff (by decide) (by decide +kernel) 1720000000

/-- A summer from the first Sunday of October to the first Sunday of January, at half past
midnight of daylight time. -/
def southernSummer : Settings where
  dst :=
    { enabled := true
      biasMinutes := 60
      start := { month := 10, week := 1, weekday := 7, minuteOfDay := 120 }
      finish := { month := 1, week := 1, weekday := 7, minuteOfDay := 30 } }

/-- The summer that ends on the first of January 2023 is over in the last half hour of 2022, when
the code still looks at the transitions of 2022. -/
theorem daylight_outlasts_its_end :
    ¬ ∀ (settings : Settings) (second : ℤ), settings.dst.enabled = true →
      validDstSettings settings.dst = true →
      settings.dst.start.month ≠ settings.dst.finish.month →
      (dstActiveForStandardLocalSeconds second settings = true ↔ DaylightAt settings second) := by
  intro always
  have daylight := (always southernSummer 1672530300 (by decide) (by decide +kernel)
    (by decide)).mp (by decide +kernel)
  have enabled : southernSummer.dst.enabled = true := rfl
  have periodic := transitions_periodic enabled (by decide +kernel)
  rw [daylightAt_iff_on (by decide) (by decide +kernel),
    on_iff _ _ periodic.increasing periodic.rising (n := 2022) (m := 2023) (by decide +kernel)
      (by decide +kernel) (by decide +kernel) (by decide +kernel)] at daylight
  revert daylight
  decide +kernel

end Time
