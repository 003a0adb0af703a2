import MultibusGateway.Time.DaylightSaving

/-! Months follow one another without a gap: the first day of the next month comes as many days
after the first day of a month as the month has days. So every day has exactly one date. -/

namespace Time
open Calendar

theorem leapYear_iff (year : ℤ) : leapYear year = true ↔
    year % 4 = 0 ∧ year % 100 ≠ 0 ∨ year % 400 = 0 := by
  have rule : ∀ n : ℤ, year.tmod n = 0 ↔ year % n = 0 := fun n =>
    (Int.dvd_iff_tmod_eq_zero).symm.trans Int.dvd_iff_emod_eq_zero
  simp only [leapYear, Bool.or_eq_true, Bool.and_eq_true, beq_iff_eq, bne_iff_ne, ne_eq, rule]

structure ValidDate (year : ℤ) (month day : UInt8) : Prop where
  months : 1 ≤ month.toNat ∧ month.toNat ≤ 12
  days : 1 ≤ day.toNat ∧ day.toNat ≤ (daysInMonth year month).toNat

def monthIndex (year : ℤ) (month : ℕ) : ℤ := 12 * year + month - 1

def monthStart (index : ℤ) : ℤ := daysFromCivil (index / 12) (index % 12 + 1).toNat 1

theorem monthStart_index (year : ℤ) (month : ℕ) (months : 1 ≤ month ∧ month ≤ 12) :
    monthStart (monthIndex year month) = daysFromCivil year month 1 := by
  have years : monthIndex year month / 12 = year := by
    rw [monthIndex]
    omega
  have named : (monthIndex year month % 12 + 1).toNat = month := by
    rw [monthIndex]
    omega
  rw [monthStart, years, named]

/-- All months but February are as long as the rule of the years that begin in March says. -/
theorem daysInMonth_eq (year : ℤ) (month : UInt8)
    (months : 1 ≤ month.toNat ∧ month.toNat ≤ 12) : (daysInMonth year month).toNat =
      if month.toNat = 2 then (if leapYear year then 29 else 28)
      else (153 * ((month.toNat + 9) % 12 + 1) + 2) / 5 -
        (153 * ((month.toNat + 9) % 12) + 2) / 5 := by
  unfold daysInMonth
  generalize leapYear year = leap
  have all : ∀ m < 13, 1 ≤ m → ∀ leap : Bool,
      (if (UInt8.ofNat m == 2 && leap) = true then (29 : UInt8)
        else if (UInt8.ofNat m ≥ 1 && UInt8.ofNat m ≤ 12) = true then
          kDays.getD (UInt8.ofNat m - 1).toNat 0 else 0).toNat =
      if m = 2 then (if leap then 29 else 28)
      else (153 * ((m + 9) % 12 + 1) + 2) / 5 - (153 * ((m + 9) % 12) + 2) / 5 := by
    decide +kernel
  have this := all month.toNat (by omega) months.1 leap
  rw [UInt8.ofNat_toNat] at this
  simpa using this

theorem monthStart_succ (year : ℤ) (month : UInt8)
    (months : 1 ≤ month.toNat ∧ month.toNat ≤ 12) :
    monthStart (monthIndex year month.toNat + 1) =
      monthStart (monthIndex year month.toNat) + (daysInMonth year month).toNat := by
  have leap := leapYear_iff year
  rw [monthStart_index _ _ months, daysInMonth_eq year month months]
  generalize month.toNat = m at months
  obtain last | inner : m = 12 ∨ m < 12 := by omega
  · have next : monthIndex year m + 1 = monthIndex (year + 1) 1 := by
      simp only [monthIndex]
      omega
    have march : marchYear year 12 = year := rfl
    have before : daysBeforeMonth 12 = 275 := rfl
    rw [next, monthStart_index _ _ (by decide), last, daysFromCivil_january,
      daysFromCivil_eq _ _ _ (by decide), Int.add_sub_cancel, march, before, if_neg (by decide)]
    omega
  · have next : monthIndex year m + 1 = monthIndex year (m + 1) := by
      simp only [monthIndex]
      omega
    rw [next, monthStart_index _ _ (by omega), daysFromCivil_eq _ _ _ (by decide),
      daysFromCivil_eq _ _ _ (by decide)]
    by_cases february : m = 2
    · -- from February to March the year of the rule changes
      subst february
      simp only [marchYear, daysBeforeMonth, daysBefore]
      by_cases leaps : leapYear year = true
      · have fourth := leap.mp leaps
        simp only [leaps]
        simp
        omega
      · have fourth := mt leap.mpr leaps
        simp [leaps]
        omega
    · rw [if_neg february]
      rw [marchYear, marchYear, daysBeforeMonth, daysBeforeMonth]
      by_cases january : m = 1
      · subst january
        simp
        omega
      · have place : (m + 9) % 12 = m - 3 := by omega
        have late : ¬ m ≤ 2 := by omega
        have later : ¬ m + 1 ≤ 2 := by omega
        rw [if_neg late, if_neg later, if_pos (Nat.not_le.mp late), if_pos (Nat.not_le.mp later),
          place]
        omega

theorem monthStart_strictMono : StrictMono monthStart := by
  apply strictMono_int_of_lt_succ
  intro index
  have month : (UInt8.ofNat (index % 12 + 1).toNat).toNat = (index % 12 + 1).toNat := by
    rw [UInt8.toNat_ofNat']
    omega
  have months : 1 ≤ (index % 12 + 1).toNat ∧ (index % 12 + 1).toNat ≤ 12 := by omega
  have named : monthIndex (index / 12) (index % 12 + 1).toNat = index := by
    rw [monthIndex]
    omega
  have next := monthStart_succ (index / 12) (UInt8.ofNat (index % 12 + 1).toNat)
    (by rw [month]; exact months)
  have long := daysInMonth_range (index / 12) (UInt8.ofNat (index % 12 + 1).toNat)
    (by rw [month]; exact months.1) (by rw [month]; exact months.2)
  rw [month, named] at next
  omega

theorem daysFromCivil_inMonth (year : ℤ) (month day : ℕ) (months : 1 ≤ month ∧ month ≤ 12)
    (first : 1 ≤ day) : daysFromCivil year month day =
      monthStart (monthIndex year month) + (day - 1) := by
  rw [monthStart_index year month months, daysFromCivil_eq _ _ _ first,
    daysFromCivil_eq _ _ _ le_rfl]
  omega

theorem validDate_unique (year year' : ℤ) (month month' day day' : UInt8)
    (valid : ValidDate year month day) (valid' : ValidDate year' month' day')
    (same : daysFromCivil year month.toNat day.toNat =
      daysFromCivil year' month'.toNat day'.toNat) :
    year = year' ∧ month = month' ∧ day = day' := by
  have next := monthStart_succ year month valid.months
  have next' := monthStart_succ year' month' valid'.months
  have months := valid.months
  have months' := valid'.months
  have days := valid.days
  have days' := valid'.days
  rw [daysFromCivil_inMonth _ _ _ months days.1,
    daysFromCivil_inMonth _ _ _ months' days'.1] at same
  have before : monthIndex year month.toNat < monthIndex year' month'.toNat + 1 := by
    apply monthStart_strictMono.lt_iff_lt.mp
    omega
  have behind : monthIndex year' month'.toNat < monthIndex year month.toNat + 1 := by
    apply monthStart_strictMono.lt_iff_lt.mp
    omega
  have index : monthIndex year month.toNat = monthIndex year' month'.toNat := by omega
  rw [index] at same
  simp only [monthIndex] at index
  refine ⟨by omega, UInt8.toNat_inj.mp (by omega), UInt8.toNat_inj.mp (by omega)⟩

theorem dateTimeFromEpoch_valid (seconds : ℤ) :
    ValidDate (dateTimeFromEpoch seconds).year (dateTimeFromEpoch seconds).month
      (dateTimeFromEpoch seconds).day := by
  obtain ⟨n, dayOfYear, mp, month, inside, part, named, -, unended, year, months, day, -⟩ :=
    dateTimeFromEpoch_marchDay seconds
  have inYear : 1 ≤ (dateTimeFromEpoch seconds).month.toNat ∧
      (dateTimeFromEpoch seconds).month.toNat ≤ 12 := by
    rw [months, named]
    split <;> omega
  refine ⟨inYear, by omega, ?_⟩
  rw [daysInMonth_eq _ _ inYear, months, day, year]
  rw [months] at inYear
  by_cases february : month = 2
  · have last : mp = 11 := by
      rw [february] at named
      split at named <;> omega
    have leap := leapYear_iff (n + 1)
    have early : month ≤ 2 := by omega
    rw [if_pos february, if_pos early, last]
    simp only [daysBefore] at unended
    split
    · omega
    · rename_i common
      have never := mt leap.mpr common
      omega
  · have place : (month + 9) % 12 = mp := by
      rw [named]
      split <;> omega
    rw [if_neg february, place]
    omega

def nextDay (year : ℤ) (month day : UInt8) : ℤ × UInt8 × UInt8 :=
  if day < daysInMonth year month then (year, month, day + 1)
  else if month < 12 then (year, month + 1, 1)
  else (year + 1, 1, 1)

theorem daysFromCivil_nextDay (year : ℤ) (month day : UInt8) (valid : ValidDate year month day) :
    ValidDate (nextDay year month day).1 (nextDay year month day).2.1
        (nextDay year month day).2.2 ∧
      daysFromCivil (nextDay year month day).1 (nextDay year month day).2.1.toNat
        (nextDay year month day).2.2.toNat =
          daysFromCivil year month.toNat day.toNat + 1 := by
  have next := monthStart_succ year month valid.months
  have months := valid.months
  have days := valid.days
  have long := daysInMonth_range year month months.1 months.2
  rw [daysFromCivil_inMonth year _ _ months days.1]
  have first : (1 : UInt8).toNat = 1 := rfl
  unfold nextDay
  split
  · rename_i inner
    rw [UInt8.lt_iff_toNat_lt] at inner
    have after : (day + 1).toNat = day.toNat + 1 := by
      rw [UInt8.toNat_add, first]
      omega
    dsimp only
    refine ⟨⟨months, by rw [after]; omega⟩, ?_⟩
    rw [daysFromCivil_inMonth _ _ _ months (by rw [after]; omega), after]
    omega
  rename_i last
  rw [UInt8.lt_iff_toNat_lt] at last
  split
  · rename_i inner
    have inner : month.toNat < 12 := UInt8.lt_iff_toNat_lt.mp inner
    have after : (month + 1).toNat = month.toNat + 1 := by
      rw [UInt8.toNat_add, first]
      omega
    have follows : monthIndex year (month.toNat + 1) = monthIndex year month.toNat + 1 := by
      simp only [monthIndex]
      omega
    have here : 1 ≤ (month + 1).toNat ∧ (month + 1).toNat ≤ 12 := by omega
    have some := daysInMonth_range year (month + 1) here.1 here.2
    dsimp only
    refine ⟨⟨here, by rw [first]; omega⟩, ?_⟩
    rw [first, daysFromCivil_inMonth _ _ _ here le_rfl, after, follows]
    omega
  · rename_i december
    have december : 12 ≤ month.toNat := UInt8.le_iff_toNat_le.mp (UInt8.not_lt.mp december)
    have follows : monthIndex (year + 1) 1 = monthIndex year month.toNat + 1 := by
      simp only [monthIndex]
      omega
    have some := daysInMonth_range (year + 1) 1 le_rfl (by decide)
    dsimp only
    refine ⟨⟨by decide, by rw [first]; omega⟩, ?_⟩
    rw [first, daysFromCivil_inMonth _ _ _ (by decide) le_rfl, follows]
    omega

end Time
