import Mathlib.Data.Int.Notation
import Mathlib.Data.Nat.Notation

/-! The Gregorian calendar as a count of days. Years begin in March, so that the leap day is the
last one of its year; a cycle of 400 years has 146097 days. -/

namespace Calendar

def daysBefore (year : ℤ) : ℤ := 365 * year + year / 4 - year / 100 + year / 400

theorem daysBefore_succ (year : ℤ) :
    daysBefore year + 365 ≤ daysBefore (year + 1) ∧
      daysBefore (year + 1) ≤ daysBefore year + 366 := by
  unfold daysBefore
  omega

theorem daysBefore_cycle (cycle : ℤ) (year : ℕ) (inside : year < 400) :
    daysBefore (cycle * 400 + year) =
      cycle * 146097 + (year * 365 + year / 4 - year / 100 : ℕ) := by
  unfold daysBefore
  omega

/-- The days of a cycle in centuries, in terms of four years, and in years. Only the last year of
a term may have a leap day, and not the last one of the first three centuries. -/
theorem cycle_parts (day : ℕ) (inside : day < 146097) :
    ∃ century term year rest, century ≤ 3 ∧ term ≤ 24 ∧ year ≤ 3 ∧
      (rest ≤ 364 ∨ rest = 365 ∧ year = 3 ∧ (term < 24 ∨ century = 3)) ∧
      day = 36524 * century + 1461 * term + 365 * year + rest := by
  let century := min (day / 36524) 3
  let inCentury := day - 36524 * century
  let year := min (inCentury % 1461 / 365) 3
  refine ⟨century, inCentury / 1461, year, inCentury % 1461 - 365 * year, ?_⟩
  omega

def yearOfDay (day : ℕ) : ℕ := (day - day / 1460 + day / 36524 - day / 146096) / 365

theorem yearOfDay_parts (century term year rest : ℕ) (centuries : century ≤ 3) (terms : term ≤ 24)
    (years : year ≤ 3)
    (days : rest ≤ 364 ∨ rest = 365 ∧ year = 3 ∧ (term < 24 ∨ century = 3)) :
    yearOfDay (36524 * century + 1461 * term + 365 * year + rest) =
      100 * century + 4 * term + year := by
  unfold yearOfDay
  generalize counted : 36524 * century + 1461 * term + 365 * year + rest = day
  have terms : day / 1460 = 25 * century + term ∧ rest ≤ 364 ∨
      day / 1460 = 25 * century + term + 1 ∧ 1 ≤ rest := by
    omega
  have ends : day / 36524 = century ∧ day / 146096 = 0 ∨
      day / 36524 = century + 1 ∧ day / 146096 = 1 := by
    omega
  have corrected : day - day / 1460 + day / 36524 - day / 146096 =
        365 * (100 * century + 4 * term + year) + rest ∨
      day - day / 1460 + day / 36524 - day / 146096 + 1 =
        365 * (100 * century + 4 * term + year) + rest ∧ 1 ≤ rest := by
    omega
  omega

/-- The day is within the year that is found. -/
theorem yearOfDay_spec (day : ℕ) (inside : day < 146097) :
    yearOfDay day < 400 ∧
      365 * yearOfDay day + yearOfDay day / 4 - yearOfDay day / 100 ≤ day ∧
      day ≤ 365 * yearOfDay day + yearOfDay day / 4 - yearOfDay day / 100 + 365 := by
  obtain ⟨century, term, year, rest, centuries, terms, years, days, counted⟩ :=
    cycle_parts day inside
  have found := yearOfDay_parts century term year rest centuries terms years days
  rw [← counted] at found
  rw [found]
  have fourth : (100 * century + 4 * term + year) / 4 = 25 * century + term := by omega
  have hundredth : (100 * century + 4 * term + year) / 100 = century := by omega
  rw [fourth, hundredth]
  omega

theorem yearOfDay_ends (day : ℕ) (inside : day < 146097) :
    day < 365 * (yearOfDay day + 1) + (yearOfDay day + 1) / 4 - (yearOfDay day + 1) / 100 +
      (yearOfDay day + 1) / 400 := by
  obtain ⟨century, term, year, rest, centuries, terms, years, days, counted⟩ :=
    cycle_parts day inside
  have found := yearOfDay_parts century term year rest centuries terms years days
  rw [← counted] at found
  rw [found]
  have fourth : (100 * century + 4 * term + year + 1) / 4 =
      25 * century + term + (year + 1) / 4 := by
    omega
  rw [fourth]
  obtain last | inner : 4 * term + year + 1 = 100 ∨ 4 * term + year + 1 < 100 := by omega
  · have hundredth : (100 * century + 4 * term + year + 1) / 100 = century + 1 := by omega
    have cycle : (100 * century + 4 * term + year + 1) / 400 = (century + 1) / 4 := by omega
    rw [hundredth, cycle]
    omega
  · have hundredth : (100 * century + 4 * term + year + 1) / 100 = century := by omega
    rw [hundredth]
    generalize (100 * century + 4 * term + year + 1) / 400 = cycles
    omega

end Calendar
