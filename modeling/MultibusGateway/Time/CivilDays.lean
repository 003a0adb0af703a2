import MultibusGateway.Library.Calendar
import MultibusGateway.Time.LocalTime

/-! The conversion between seconds and dates is that of the Gregorian calendar: each second lies
in the day, and in the year, that the conversion says. -/

namespace Time
open Calendar

theorem tdiv_floor (n size : ℤ) (positive : 0 < size) :
    (if n ≥ 0 then n else n - (size - 1)).tdiv size = n / size := by
  have nonzero := Int.ne_of_gt positive
  split
  · rename_i natural
    exact Int.tdiv_eq_ediv_of_nonneg natural
  · rename_i negative
    have parts := Int.mul_ediv_add_emod n size
    have rest := Int.emod_nonneg n nonzero
    have inside := Int.emod_lt_of_pos n positive
    rw [Int.tdiv_eq_ediv, Int.sign_eq_one_of_pos positive]
    by_cases last : n % size = size - 1
    · have multiple : n - (size - 1) = size * (n / size) := by omega
      rw [multiple, Int.mul_ediv_cancel_left _ nonzero, if_pos (Or.inr (Int.dvd_mul_right ..)),
        Int.add_zero]
    · have before : n - (size - 1) = n % size + 1 + size * (n / size - 1) := by
        rw [Int.mul_sub]
        omega
      have quotient : (n - (size - 1)) / size = n / size - 1 := by
        rw [before, Int.add_mul_ediv_left _ _ nonzero,
          Int.ediv_eq_zero_of_lt (by omega) (by omega), Int.zero_add]
      have remainder : ¬ size ∣ n - (size - 1) := by
        rw [Int.dvd_iff_emod_eq_zero, before, Int.add_mul_emod_self_left,
          Int.emod_eq_of_lt (by omega) (by omega)]
        omega
      rw [quotient, if_neg (by omega)]
      omega

def marchYear (year : ℤ) (month : ℕ) : ℤ := if month ≤ 2 then year - 1 else year

def daysBeforeMonth (month : ℕ) : ℕ := (153 * (if month > 2 then month - 3 else month + 9) + 2) / 5

theorem daysFromCivil_eq (year : ℤ) (month day : ℕ) (positive : 1 ≤ day) :
    daysFromCivil year month day =
      daysBefore (marchYear year month) + daysBeforeMonth month + day - 719469 := by
  unfold daysFromCivil
  dsimp only
  rw [← marchYear, ← daysBeforeMonth]
  generalize marchYear year month = n
  have era := tdiv_floor n 400 (by decide)
  have cycle := daysBefore_cycle (n / 400) (n - n / 400 * 400).toNat (by omega)
  have whole : n / 400 * 400 + ((n - n / 400 * 400).toNat : ℤ) = n := by omega
  rw [whole] at cycle
  rw [show (400 - 1 : ℤ) = 399 from rfl] at era
  rw [era, cycle]
  omega

structure Dated (year : ℤ) (month day : ℕ) (days : ℤ) : Prop where
  months : 1 ≤ month ∧ month ≤ 12
  inMonth : 1 ≤ day ∧ day ≤ 31
  civil : daysFromCivil year month day = days
  begun : daysFromCivil year 1 1 ≤ days
  unended : days < daysFromCivil (year + 1) 1 1

theorem daysFromCivil_january (year : ℤ) :
    daysFromCivil year 1 1 = daysBefore (year - 1) + 306 - 719468 := by
  rw [daysFromCivil_eq year 1 1 (by decide)]
  have march : marchYear year 1 = year - 1 := rfl
  have days : daysBeforeMonth 1 = 306 := rfl
  rw [march, days]
  omega

theorem year_long (year : ℤ) : daysFromCivil year 1 1 + 365 ≤ daysFromCivil (year + 1) 1 1 := by
  have next := daysBefore_succ (year - 1)
  rw [Int.sub_add_cancel] at next
  rw [daysFromCivil_january, daysFromCivil_january, Int.add_sub_cancel]
  omega

theorem daysFromCivil_inYear (year : ℤ) (month day : ℕ) (months : 1 ≤ month ∧ month ≤ 12)
    (days : 1 ≤ day ∧ day ≤ 31) :
    daysFromCivil year 1 1 ≤ daysFromCivil year month day ∧
      daysFromCivil year month day < daysFromCivil (year + 1) 1 1 := by
  have next := daysBefore_succ (year - 1)
  rw [Int.sub_add_cancel] at next
  rw [daysFromCivil_january, daysFromCivil_january, daysFromCivil_eq _ _ _ days.1, Int.add_sub_cancel,
    marchYear, daysBeforeMonth]
  split <;> split <;> omega

theorem dated_marchDay (n : ℤ) (dayOfYear : ℕ) (inside : dayOfYear ≤ 365) (mp month : ℕ)
    (part : mp = (5 * dayOfYear + 2) / 153) (named : month = if mp < 10 then mp + 3 else mp - 9) :
    Dated (n + if month ≤ 2 then 1 else 0) month (dayOfYear - (153 * mp + 2) / 5 + 1)
      (daysBefore n + dayOfYear - 719468) := by
  have next := daysBefore_succ n
  have before := daysBefore_succ (n - 1)
  rw [Int.sub_add_cancel] at before
  by_cases early : mp < 10
  · rw [if_pos early] at named
    have late : ¬ month ≤ 2 := by omega
    rw [if_neg late, Int.add_zero]
    refine ⟨by omega, by omega, ?_, ?_, ?_⟩
    · rw [daysFromCivil_eq _ _ _ (by omega), marchYear, if_neg late, daysBeforeMonth,
        if_pos (by omega)]
      omega
    · rw [daysFromCivil_january]
      omega
    · rw [daysFromCivil_january, Int.add_sub_cancel]
      omega
  · rw [if_neg early] at named
    have first : month ≤ 2 := by omega
    rw [if_pos first]
    refine ⟨by omega, by omega, ?_, ?_, ?_⟩
    · rw [daysFromCivil_eq _ _ _ (by omega), marchYear, if_pos first, daysBeforeMonth,
        if_neg (by omega), Int.add_sub_cancel]
      omega
    · rw [daysFromCivil_january, Int.add_sub_cancel]
      omega
    · rw [daysFromCivil_january, Int.add_sub_cancel]
      omega

theorem day_and_second (seconds : ℤ) :
    (if seconds.tmod 86400 < 0 then (seconds.tdiv 86400 - 1, seconds.tmod 86400 + 86400)
      else (seconds.tdiv 86400, seconds.tmod 86400)) = (seconds / 86400, seconds % 86400) := by
  rw [Int.tdiv_eq_ediv, Int.tmod_eq_emod]
  have sign : Int.sign 86400 = 1 := rfl
  split <;> split at * <;> simp only [Prod.mk.injEq] <;> omega

theorem dateTimeFromEpoch_sameDay (a b : ℤ) (same : a / 86400 = b / 86400) :
    (dateTimeFromEpoch a).year = (dateTimeFromEpoch b).year ∧
      (dateTimeFromEpoch a).month = (dateTimeFromEpoch b).month ∧
      (dateTimeFromEpoch a).day = (dateTimeFromEpoch b).day := by
  unfold dateTimeFromEpoch
  dsimp only
  rw [day_and_second, day_and_second, same]
  exact ⟨rfl, rfl, rfl⟩

/-- The date is read off the year that begins in March and the day of it. -/
theorem dateTimeFromEpoch_marchDay (seconds : ℤ) :
    ∃ (n : ℤ) (dayOfYear mp month : ℕ), dayOfYear ≤ 365 ∧ mp = (5 * dayOfYear + 2) / 153 ∧
      month = (if mp < 10 then mp + 3 else mp - 9) ∧
      daysBefore n + dayOfYear - 719468 = seconds / 86400 ∧
      daysBefore n + dayOfYear < daysBefore (n + 1) ∧
      (dateTimeFromEpoch seconds).year = n + (if month ≤ 2 then 1 else 0) ∧
      (dateTimeFromEpoch seconds).month.toNat = month ∧
      (dateTimeFromEpoch seconds).day.toNat = dayOfYear - (153 * mp + 2) / 5 + 1 ∧
      (dateTimeFromEpoch seconds).hour.toNat = (seconds % 86400 / 3600).toNat ∧
      (dateTimeFromEpoch seconds).minute.toNat = (seconds % 86400 % 3600 / 60).toNat := by
  unfold dateTimeFromEpoch
  dsimp only
  rw [day_and_second]
  dsimp only
  generalize seconds / 86400 = days
  have inDay := Int.emod_nonneg seconds (b := 86400) (by decide)
  have withinDay := Int.emod_lt_of_pos seconds (b := 86400) (by decide)
  generalize seconds % 86400 = second at inDay withinDay
  have cycle := tdiv_floor (days + 719468) 146097 (by decide)
  rw [show (146097 - 1 : ℤ) = 146096 from rfl] at cycle
  rw [cycle]
  generalize counted : (days + 719468 - (days + 719468) / 146097 * 146097).toNat = doe
  have inCycle : doe < 146097 := by omega
  obtain ⟨years, begun, unended⟩ := yearOfDay_spec doe inCycle
  have ended := yearOfDay_ends doe inCycle
  rw [← yearOfDay]
  have before := daysBefore_cycle ((days + 719468) / 146097) (yearOfDay doe) years
  have next : daysBefore ((days + 719468) / 146097 * 400 + yearOfDay doe + 1) =
      (days + 719468) / 146097 * 146097 + (365 * (yearOfDay doe + 1) + (yearOfDay doe + 1) / 4 -
        (yearOfDay doe + 1) / 100 + (yearOfDay doe + 1) / 400 : ℕ) := by
    unfold daysBefore
    omega
  generalize yearOfDay doe = yoe at years begun unended before ended next
  have hours : second.tdiv 3600 = second / 3600 := Int.tdiv_eq_ediv_of_nonneg inDay
  have rest : second.tmod 3600 = second % 3600 := Int.tmod_eq_emod_of_nonneg inDay
  have minutes : (second % 3600).tdiv 60 = second % 3600 / 60 :=
    Int.tdiv_eq_ediv_of_nonneg (Int.emod_nonneg _ (by decide))
  rw [hours, rest, minutes]
  simp only [UInt8.toNat_ofNat']
  refine ⟨(days + 719468) / 146097 * 400 + yoe, doe - (365 * yoe + yoe / 4 - yoe / 100), _, _,
    by omega, rfl, rfl, by omega, by omega, ?_, ?_, ?_, by omega, by omega⟩
  · rw [Int.add_comm (yoe : ℤ)]
  · apply Nat.mod_eq_of_lt
    split <;> omega
  · exact Nat.mod_eq_of_lt (by omega)

theorem dateTimeFromEpoch_dated (seconds : ℤ) :
    Dated (dateTimeFromEpoch seconds).year (dateTimeFromEpoch seconds).month.toNat
        (dateTimeFromEpoch seconds).day.toNat (seconds / 86400) ∧
      (dateTimeFromEpoch seconds).hour.toNat = (seconds % 86400 / 3600).toNat ∧
      (dateTimeFromEpoch seconds).minute.toNat = (seconds % 86400 % 3600 / 60).toNat := by
  obtain ⟨n, dayOfYear, mp, month, inside, part, named, same, -, year, months, day, time⟩ :=
    dateTimeFromEpoch_marchDay seconds
  rw [year, months, day, ← same]
  exact ⟨dated_marchDay n dayOfYear inside mp month part named, time⟩

end Time
