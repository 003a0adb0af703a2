import Mathlib.Algebra.Group.Nat.Defs
import MultibusGateway.Time.CivilMonths

/-! The conversions in the words of the machine: unsigned sums that wrap around, among them the
two that add a negative number, and narrowing casts. For the days of a date, and for the seconds
whose days fit into an `int`, nothing is lost. -/

namespace Time
open Calendar

namespace Words

def daysFromCivil (year : ℤ) (month day : UInt32) : ℤ :=
  let year := if month ≤ 2 then year - 1 else year
  let era := (if year ≥ 0 then year else year - 399).tdiv 400
  let yoe := UInt32.ofInt (year - era * 400)
  let doy := (153 * (month + if month > 2 then -3 else 9) + 2) / 5 + day - 1
  let doe := yoe * 365 + yoe / 4 - yoe / 100 + doy
  era * 146097 + doe.toNat - 719468

def isoWeekday (year : ℤ) (month day : UInt8) : UInt8 :=
  let days := daysFromCivil year month.toUInt32 day.toUInt32
  let value := (days + 3).tmod 7
  let value := if value < 0 then value + 7 else value
  UInt8.ofInt (value + 1)

def transitionDayOfMonth (year : ℤ) (transition : DstTransition) : UInt8 :=
  let dim := daysInMonth year transition.month
  if dim == 0 || !validDstTransition transition then 0
  else if transition.week < 5 then
    let firstWeekday := isoWeekday year transition.month 1
    let delta := UInt8.ofInt ((7 + transition.weekday.toNat - firstWeekday.toNat : ℤ).tmod 7)
    let day := (1 + delta.toUInt32 + (transition.week.toUInt32 - 1) * 7).toUInt16
    if day ≤ dim.toUInt16 then day.toUInt8 else 0
  else
    let lastWeekday := isoWeekday year transition.month dim
    let delta := UInt8.ofInt ((7 + lastWeekday.toNat - transition.weekday.toNat : ℤ).tmod 7)
    UInt8.ofInt (dim.toNat - delta.toNat)

/-- A cast to `int`. -/
def toInt32 (n : ℤ) : ℤ := n.bmod (2 ^ 32)

def dateTimeFromEpoch (seconds : ℤ) : LocalDateTime :=
  let days := seconds.tdiv 86400
  let sod := seconds.tmod 86400
  let (days, sod) := if sod < 0 then (days - 1, sod + 86400) else (days, sod)
  let z := toInt32 (days + 719468)
  let era := (if z ≥ 0 then z else z - 146096).tdiv 146097
  let doe := UInt32.ofInt (z - era * 146097)
  let yoe := (doe - doe / 1460 + doe / 36524 - doe / 146096) / 365
  let year := (yoe.toNat : ℤ) + era * 400
  let doy := doe - (365 * yoe + yoe / 4 - yoe / 100)
  let mp := (5 * doy + 2) / 153
  let day := doy - (153 * mp + 2) / 5 + 1
  let month := mp + if mp < 10 then 3 else -9
  let year := year + if month ≤ 2 then 1 else 0
  { year := year
    month := month.toUInt8
    day := day.toUInt8
    weekday := isoWeekday year month.toUInt8 day.toUInt8
    hour := UInt8.ofInt (sod.tdiv 3600)
    minute := UInt8.ofInt ((sod.tmod 3600).tdiv 60) }

theorem toNat_ofInt (n : ℤ) (natural : 0 ≤ n) (small : n < 2 ^ 32) :
    (UInt32.ofInt n).toNat = n.toNat := by
  rw [UInt32.ofInt, UInt32.toNat_ofNat']
  omega

theorem daysFromCivil_eq (year : ℤ) (month day : UInt32)
    (months : 1 ≤ month.toNat ∧ month.toNat ≤ 12) (days : 1 ≤ day.toNat ∧ day.toNat ≤ 31) :
    daysFromCivil year month day = Time.daysFromCivil year month.toNat day.toNat := by
  have early : month ≤ 2 ↔ month.toNat ≤ 2 := UInt32.le_iff_toNat_le
  have late : month > 2 ↔ month.toNat > 2 := UInt32.lt_iff_toNat_lt
  have shifted : (153 * (month + if month.toNat > 2 then -3 else 9) + 2).toNat =
      153 * (if month.toNat > 2 then month.toNat - 3 else month.toNat + 9) + 2 := by
    split
    · have back : (-3 : UInt32).toNat = 2 ^ 32 - 3 := rfl
      simp only [UInt32.toNat_add, UInt32.toNat_mul, back, UInt32.reduceToNat]
      omega
    · simp only [UInt32.toNat_add, UInt32.toNat_mul, UInt32.reduceToNat]
      omega
  unfold daysFromCivil Time.daysFromCivil
  simp only [early, late]
  generalize (if month.toNat ≤ 2 then year - 1 else year) = n
  have era := tdiv_floor n 400 (by decide)
  rw [show (400 - 1 : ℤ) = 399 from rfl] at era
  have yoe := toNat_ofInt (n - n / 400 * 400) (by omega) (by omega)
  rw [era]
  generalize UInt32.ofInt (n - n / 400 * 400) = word at yoe
  generalize (153 * (month + if month.toNat > 2 then -3 else 9) + 2) = march at shifted
  have inside : march.toNat < 2000 := by
    rw [shifted]
    split <;> omega
  rw [← shifted, ← yoe]
  have small : word.toNat < 400 := by omega
  simp only [UInt32.toNat_add, UInt32.toNat_sub, UInt32.toNat_mul, UInt32.toNat_div,
    UInt32.reduceToNat]
  omega

theorem ofInt_natural (n : ℤ) (natural : 0 ≤ n) : UInt8.ofInt n = UInt8.ofNat n.toNat := by
  apply UInt8.toNat_inj.mp
  rw [UInt8.ofInt, UInt8.toNat_ofNat', UInt8.toNat_ofNat']
  omega

theorem isoWeekday_eq (year : ℤ) (month day : UInt8)
    (months : 1 ≤ month.toNat ∧ month.toNat ≤ 12) (days : 1 ≤ day.toNat ∧ day.toNat ≤ 31) :
    isoWeekday year month day = Time.isoWeekday year month day := by
  have civil := daysFromCivil_eq year month.toUInt32 day.toUInt32 months days
  rw [UInt8.toNat_toUInt32, UInt8.toNat_toUInt32] at civil
  unfold isoWeekday Time.isoWeekday
  simp only [civil]
  apply ofInt_natural
  generalize Time.daysFromCivil year month.toNat day.toNat + 3 = days
  rw [Int.tmod_eq_emod]
  have size : ((7 : ℤ).natAbs : ℤ) = 7 := rfl
  split <;> split <;> omega

theorem tmod_seven (n : ℤ) (natural : 0 ≤ n) : 0 ≤ n.tmod 7 ∧ n.tmod 7 ≤ 6 := by
  rw [Int.tmod_eq_emod_of_nonneg natural]
  omega

theorem transitionDayOfMonth_eq (year : ℤ) (transition : DstTransition) :
    transitionDayOfMonth year transition = Time.transitionDayOfMonth year transition := by
  unfold transitionDayOfMonth Time.transitionDayOfMonth
  dsimp only
  split
  · rfl
  rename_i valid
  have valid : validDstTransition transition = true := by
    cases h : validDstTransition transition <;> simp [h] at valid ⊢
  have range := inRange_of_valid transition valid
  have month := range.month
  have week := range.week
  have weekday := range.weekday
  have days := daysInMonth_range year transition.month month.1 month.2
  split
  · rename_i early
    have early : transition.week.toNat < 5 := UInt8.lt_iff_toNat_lt.mp early
    rw [isoWeekday_eq year _ 1 month (by decide)]
    have first := isoWeekday_range year transition.month 1
    generalize Time.isoWeekday year transition.month 1 = opening at first
    have delta := tmod_seven ((7 + transition.weekday.toNat : ℤ) - opening.toNat) (by omega)
    generalize ((7 + transition.weekday.toNat : ℤ) - opening.toNat).tmod 7 = shift at delta
    have word : (UInt8.ofInt shift).toNat = shift.toNat := by
      rw [ofInt_natural shift delta.1, UInt8.toNat_ofNat']
      omega
    have sum : (1 + (UInt8.ofInt shift).toUInt32 +
        (transition.week.toUInt32 - 1) * 7).toUInt16.toNat =
          (1 + shift + ((transition.week.toNat : ℤ) - 1) * 7).toNat := by
      simp only [UInt32.toNat_toUInt16, UInt32.toNat_add, UInt32.toNat_sub, UInt32.toNat_mul,
        UInt8.toNat_toUInt32, UInt32.reduceToNat, word]
      omega
    generalize (1 + (UInt8.ofInt shift).toUInt32 +
        (transition.week.toUInt32 - 1) * 7).toUInt16 = found at sum
    have bound : found ≤ (daysInMonth year transition.month).toUInt16 ↔
        1 + shift + ((transition.week.toNat : ℤ) - 1) * 7 ≤
          (daysInMonth year transition.month).toNat := by
      rw [UInt16.le_iff_toNat_le, UInt8.toNat_toUInt16, sum]
      omega
    simp only [bound, ← sum]
    rfl
  · have last := isoWeekday_range year transition.month (daysInMonth year transition.month)
    rw [isoWeekday_eq year _ _ month (by omega)]
    generalize Time.isoWeekday year transition.month (daysInMonth year transition.month) =
      closing at last
    have delta := tmod_seven ((7 + closing.toNat : ℤ) - transition.weekday.toNat) (by omega)
    generalize ((7 + closing.toNat : ℤ) - transition.weekday.toNat).tmod 7 = shift at delta
    have word : (UInt8.ofInt shift).toNat = shift.toNat := by
      rw [ofInt_natural shift delta.1, UInt8.toNat_ofNat']
      omega
    rw [ofInt_natural _ (by omega), word, Int.toNat_of_nonneg delta.1]

theorem toNat_sub_word (a b : UInt32) (less : b.toNat ≤ a.toNat) :
    (a - b).toNat = a.toNat - b.toNat :=
  UInt32.toNat_sub_of_le a b (UInt32.le_iff_toNat_le.mpr less)

theorem toNat_yearOfDay (doe : UInt32) (inCycle : doe.toNat < 146097) :
    ((doe - doe / 1460 + doe / 36524 - doe / 146096) / 365).toNat = yearOfDay doe.toNat := by
  have fourth : (doe - doe / 1460).toNat = doe.toNat - doe.toNat / 1460 := by
    rw [toNat_sub_word]
    · rfl
    · exact Nat.div_le_self _ _
  have hundredth : (doe - doe / 1460 + doe / 36524).toNat =
      doe.toNat - doe.toNat / 1460 + doe.toNat / 36524 := by
    simp only [UInt32.toNat_add, fourth, UInt32.toNat_div, UInt32.reduceToNat]
    omega
  have whole : (doe - doe / 1460 + doe / 36524 - doe / 146096).toNat =
      doe.toNat - doe.toNat / 1460 + doe.toNat / 36524 - doe.toNat / 146096 := by
    rw [toNat_sub_word, hundredth]
    · rfl
    · rw [hundredth]
      simp only [UInt32.toNat_div, UInt32.reduceToNat]
      omega
  rw [UInt32.toNat_div, whole]
  rfl

theorem toNat_dayOfYear (doe yoe : UInt32)
    (begun : 365 * yoe.toNat + yoe.toNat / 4 - yoe.toNat / 100 ≤ doe.toNat)
    (year : yoe.toNat < 400) :
    (doe - (365 * yoe + yoe / 4 - yoe / 100)).toNat =
      doe.toNat - (365 * yoe.toNat + yoe.toNat / 4 - yoe.toNat / 100) := by
  have sum : (365 * yoe + yoe / 4).toNat = 365 * yoe.toNat + yoe.toNat / 4 := by
    simp only [UInt32.toNat_add, UInt32.toNat_mul, UInt32.toNat_div, UInt32.reduceToNat]
    omega
  have elapsed : (365 * yoe + yoe / 4 - yoe / 100).toNat =
      365 * yoe.toNat + yoe.toNat / 4 - yoe.toNat / 100 := by
    rw [toNat_sub_word, sum]
    · rfl
    · rw [sum]
      simp only [UInt32.toNat_div, UInt32.reduceToNat]
      omega
  rw [toNat_sub_word, elapsed]
  rw [elapsed]
  exact begun

/-- No word overflows while the day fits into an `int`. -/
theorem dateTimeFromEpoch_eq (seconds : ℤ) (least : -2 ^ 31 ≤ seconds / 86400)
    (most : seconds / 86400 + 719468 < 2 ^ 31) :
    dateTimeFromEpoch seconds = Time.dateTimeFromEpoch seconds := by
  have valid := dateTimeFromEpoch_valid seconds
  unfold dateTimeFromEpoch
  unfold Time.dateTimeFromEpoch at valid ⊢
  dsimp only at valid ⊢
  rw [day_and_second] at valid ⊢
  dsimp only at valid ⊢
  have inDay := Int.emod_nonneg seconds (b := 86400) (by decide)
  generalize seconds / 86400 = days at *
  generalize seconds % 86400 = second at inDay ⊢
  have cast : toInt32 (days + 719468) = days + 719468 := by
    rw [toInt32]
    exact Int.bmod_eq_of_le (by omega) (by omega)
  have cycle := tdiv_floor (days + 719468) 146097 (by decide)
  rw [show (146097 - 1 : ℤ) = 146096 from rfl] at cycle
  rw [cycle] at valid ⊢
  rw [cast, cycle]
  have word := toNat_ofInt (days + 719468 - (days + 719468) / 146097 * 146097) (by omega) (by omega)
  generalize UInt32.ofInt (days + 719468 - (days + 719468) / 146097 * 146097) = doe at word
  rw [← word] at valid ⊢
  have inCycle : doe.toNat < 146097 := by omega
  obtain ⟨years, begun, unended⟩ := yearOfDay_spec doe.toNat inCycle
  rw [← yearOfDay] at valid ⊢
  -- from here on each word is the number that the model has in its place
  have yoe := toNat_yearOfDay doe inCycle
  generalize (doe - doe / 1460 + doe / 36524 - doe / 146096) / 365 = yearWord at yoe ⊢
  rw [← yoe] at valid begun unended years ⊢
  have doy := toNat_dayOfYear doe yearWord begun years
  have inYear : (doe - (365 * yearWord + yearWord / 4 - yearWord / 100)).toNat ≤ 365 := by omega
  generalize doe - (365 * yearWord + yearWord / 4 - yearWord / 100) = dayWord at doy inYear ⊢
  rw [← doy] at valid ⊢
  have mp : ((5 * dayWord + 2) / 153).toNat = (5 * dayWord.toNat + 2) / 153 := by
    simp only [UInt32.toNat_add, UInt32.toNat_mul, UInt32.toNat_div, UInt32.reduceToNat]
    omega
  generalize (5 * dayWord + 2) / 153 = part at mp ⊢
  rw [← mp] at valid ⊢
  have passed : ((153 * part + 2) / 5).toNat = (153 * part.toNat + 2) / 5 := by
    simp only [UInt32.toNat_add, UInt32.toNat_mul, UInt32.toNat_div, UInt32.reduceToNat]
    omega
  have day : (dayWord - (153 * part + 2) / 5 + 1).toNat =
      dayWord.toNat - (153 * part.toNat + 2) / 5 + 1 := by
    have one : (1 : UInt32).toNat = 1 := rfl
    rw [UInt32.toNat_add, toNat_sub_word _ _ (by omega), passed, one]
    exact Nat.mod_eq_of_lt (by omega)
  have early : part < 10 ↔ part.toNat < 10 := UInt32.lt_iff_toNat_lt
  have month : (part + if part < 10 then 3 else -9).toNat =
      if part.toNat < 10 then part.toNat + 3 else part.toNat - 9 := by
    have back : (-9 : UInt32).toNat = 2 ^ 32 - 9 := rfl
    simp only [early]
    split
    · simp only [UInt32.toNat_add, UInt32.reduceToNat]
      omega
    · simp only [UInt32.toNat_add, back]
      omega
  generalize dayWord - (153 * part + 2) / 5 + 1 = dayNumber at day ⊢
  generalize (part + if part < 10 then 3 else -9) = monthNumber at month ⊢
  rw [← day, ← month] at valid ⊢
  have first : monthNumber ≤ 2 ↔ monthNumber.toNat ≤ 2 := UInt32.le_iff_toNat_le
  have hours : 0 ≤ second.tdiv 3600 := Int.tdiv_nonneg inDay (by decide)
  have minutes : 0 ≤ (second.tmod 3600).tdiv 60 :=
    Int.tdiv_nonneg (Int.tmod_nonneg _ inDay) (by decide)
  have inMonth := valid.days.2.trans (daysInMonth_range _ _ valid.months.1 valid.months.2).2
  have weekday := fun year : ℤ => isoWeekday_eq year (UInt8.ofNat monthNumber.toNat)
    (UInt8.ofNat dayNumber.toNat) valid.months ⟨valid.days.1, inMonth⟩
  simp only [first, ofInt_natural _ hours, ofInt_natural _ minutes]
  rw [LocalDateTime.mk.injEq]
  exact ⟨rfl, rfl, rfl, weekday _, rfl, rfl⟩

end Words

theorem daysFromCivil_words (year : ℤ) (month day : UInt8) (valid : ValidDate year month day) :
    Words.daysFromCivil year month.toUInt32 day.toUInt32 =
      daysFromCivil year month.toNat day.toNat := by
  have long := daysInMonth_range year month valid.months.1 valid.months.2
  exact Words.daysFromCivil_eq year month.toUInt32 day.toUInt32 valid.months
    ⟨valid.days.1, valid.days.2.trans long.2⟩

theorem isoWeekday_words (year : ℤ) (month day : UInt8) (valid : ValidDate year month day) :
    Words.isoWeekday year month day = isoWeekday year month day := by
  have long := daysInMonth_range year month valid.months.1 valid.months.2
  exact Words.isoWeekday_eq year month day valid.months
    ⟨valid.days.1, valid.days.2.trans long.2⟩

theorem dateTimeFromEpoch_minute (seconds : ℤ) :
    let date := dateTimeFromEpoch seconds
    let begun := daysFromCivil date.year date.month.toNat date.day.toNat * 86400 +
      date.hour.toNat * 3600 + date.minute.toNat * 60
    date.hour.toNat < 24 ∧ date.minute.toNat < 60 ∧ begun ≤ seconds ∧ seconds < begun + 60 := by
  intro date begun
  obtain ⟨dated, hour, minute⟩ := dateTimeFromEpoch_dated seconds
  have civil := dated.civil
  simp only [date, begun, civil, hour, minute]
  omega

theorem dateTimeFromEpoch_weekday (seconds : ℤ) : (dateTimeFromEpoch seconds).weekday =
    isoWeekday (dateTimeFromEpoch seconds).year (dateTimeFromEpoch seconds).month
      (dateTimeFromEpoch seconds).day := rfl

theorem dateTimeFromEpoch_daysFromCivil (year : ℤ) (month day : UInt8)
    (valid : ValidDate year month day) :
    dateTimeFromEpoch (daysFromCivil year month.toNat day.toNat * 86400) =
      { year, month, day, weekday := isoWeekday year month day, hour := 0, minute := 0 } := by
  obtain ⟨dated, hour, minute⟩ :=
    dateTimeFromEpoch_dated (daysFromCivil year month.toNat day.toNat * 86400)
  have found := dateTimeFromEpoch_valid (daysFromCivil year month.toNat day.toNat * 86400)
  have civil := dated.civil
  rw [Int.mul_ediv_cancel _ (by decide)] at civil
  obtain ⟨sameYear, sameMonth, sameDay⟩ :=
    validDate_unique _ _ _ _ _ _ found valid civil
  have weekday := dateTimeFromEpoch_weekday (daysFromCivil year month.toNat day.toNat * 86400)
  rw [Int.mul_emod_left] at hour minute
  generalize dateTimeFromEpoch (daysFromCivil year month.toNat day.toNat * 86400) = date at *
  obtain ⟨foundYear, foundMonth, foundDay, foundWeekday, foundHour, foundMinute⟩ := date
  simp only at sameYear sameMonth sameDay hour minute weekday
  subst sameYear sameMonth sameDay weekday
  rw [LocalDateTime.mk.injEq]
  exact ⟨rfl, rfl, rfl, rfl, UInt8.toNat_inj.mp hour, UInt8.toNat_inj.mp minute⟩

theorem isoWeekday_nextDay (year : ℤ) (month day : UInt8) (valid : ValidDate year month day) :
    (isoWeekday (nextDay year month day).1 (nextDay year month day).2.1
      (nextDay year month day).2.2).toNat = (isoWeekday year month day).toNat % 7 + 1 := by
  have next := (daysFromCivil_nextDay year month day valid).2
  have today := isoWeekday_eq year month day
  have tomorrow := isoWeekday_eq (nextDay year month day).1 (nextDay year month day).2.1
    (nextDay year month day).2.2
  rw [next] at tomorrow
  omega

/-- The conversions between seconds and dates are exact in both directions, and the days of the
week follow one another. -/
theorem civil_exact :
    (∀ seconds : ℤ, seconds ≥ -2 ^ 33 → seconds ≤ 2 ^ 33 →
      let date := Words.dateTimeFromEpoch seconds
      let begun := Words.daysFromCivil date.year date.month.toUInt32 date.day.toUInt32 * 86400 +
        date.hour.toNat * 3600 + date.minute.toNat * 60
      1 ≤ date.month.toNat ∧ date.month.toNat ≤ 12 ∧ 1 ≤ date.day.toNat ∧
        date.day.toNat ≤ (daysInMonth date.year date.month).toNat ∧
        date.hour.toNat < 24 ∧ date.minute.toNat < 60 ∧
        begun ≤ seconds ∧ seconds < begun + 60) ∧
    (∀ year month day, ValidDate year month day →
      let seconds := Words.daysFromCivil year month.toUInt32 day.toUInt32 * 86400
      seconds ≥ -2 ^ 33 → seconds ≤ 2 ^ 33 → Words.dateTimeFromEpoch seconds =
        { year, month, day, weekday := Words.isoWeekday year month day, hour := 0, minute := 0 }) ∧
    Words.isoWeekday 1970 1 1 = 4 ∧
    ∀ year month day, ValidDate year month day →
      let next := nextDay year month day
      Words.daysFromCivil next.1 next.2.1.toUInt32 next.2.2.toUInt32 =
          Words.daysFromCivil year month.toUInt32 day.toUInt32 + 1 ∧
        (Words.isoWeekday next.1 next.2.1 next.2.2).toNat =
          (Words.isoWeekday year month day).toNat % 7 + 1 := by
  refine ⟨?_, ?_, by decide +kernel, ?_⟩
  · intro seconds least most
    rw [Words.dateTimeFromEpoch_eq seconds (by omega) (by omega)]
    have valid := dateTimeFromEpoch_valid seconds
    have exactly := dateTimeFromEpoch_minute seconds
    dsimp only at exactly ⊢
    rw [← daysFromCivil_words _ _ _ valid] at exactly
    exact ⟨valid.months.1, valid.months.2, valid.days.1, valid.days.2, exactly⟩
  · intro year month day valid seconds least most
    have same := daysFromCivil_words year month day valid
    rw [Words.dateTimeFromEpoch_eq seconds (by omega) (by omega), isoWeekday_words _ _ _ valid,
      ← dateTimeFromEpoch_daysFromCivil year month day valid, ← same]
  · intro year month day valid next
    obtain ⟨here, counted⟩ := daysFromCivil_nextDay year month day valid
    rw [daysFromCivil_words _ _ _ valid, daysFromCivil_words _ _ _ here,
      isoWeekday_words _ _ _ valid, isoWeekday_words _ _ _ here]
    exact ⟨counted, isoWeekday_nextDay year month day valid⟩

end Time
