import MultibusGateway.Library.LastSeen
import MultibusGateway.Rules.Execution
import MultibusGateway.Time.DaylightSaving

/-! The local minutes in which a time condition matches. The local clock goes back by at most two
hours, when daylight saving ends, and all these minutes are at one time of their days. So they come
in the order of their days, and the key of a minute tells them apart within 128 years. The 32 bits
of the clock go round in 136 years, and start again from the first day. -/

namespace Rules
open ByteString Time

structure LocalMinute where
  year : ℤ
  month : UInt8
  day : UInt8
  hour : UInt8
  minute : UInt8
  deriving DecidableEq

def minuteOf (now : LocalDateTime) : LocalMinute :=
  ⟨now.year, now.month, now.day, now.hour, now.minute⟩

namespace LocalMinute

/-- The key of a minute, which does not depend on the day of the week. -/
def key (m : LocalMinute) : UInt32 :=
  localMinuteKey
    { year := m.year, month := m.month, day := m.day, hour := m.hour, minute := m.minute }

def dayNumber (m : LocalMinute) : ℤ := daysFromCivil m.year m.month.toNat m.day.toNat

/-- The number of the day, counted on when the clock has gone round: the days before this one are
those after its end. -/
def rank (first : ℤ) (m : LocalMinute) : ℤ :=
  if m.dayNumber < first then m.dayNumber + 50000 else m.dayNumber

/-- The minutes are not at one time of years that are a multiple of 128 years apart. -/
def Apart (a b : LocalMinute) : Prop :=
  a.month = b.month → a.day = b.day → a.hour = b.hour → a.minute = b.minute →
    (a.year - b.year) % 128 = 0 → a.year = b.year

instance (a b : LocalMinute) : Decidable (Apart a b) :=
  inferInstanceAs (Decidable (a.month = b.month → a.day = b.day → a.hour = b.hour →
    a.minute = b.minute → (a.year - b.year) % 128 = 0 → a.year = b.year))

structure Regular (m : LocalMinute) : Prop where
  month : 1 ≤ m.month.toNat ∧ m.month.toNat ≤ 12
  day : m.day.toNat ≤ 31
  hour : m.hour.toNat ≤ 23
  minute : m.minute.toNat ≤ 59

theorem masked_shift (x mask : UInt8) (place : UInt32) (bits : ℕ)
    (all : mask.toNat = 2 ^ bits - 1) (fits : x.toNat < 2 ^ bits)
    (room : bits + place.toNat ≤ 32) (inside : place.toNat < 32) :
    ((x &&& mask).toUInt32 <<< place).toNat = 2 ^ place.toNat * x.toNat := by
  have whole : (x &&& mask).toNat = x.toNat := by
    rw [UInt8.toNat_and, all, Nat.and_two_pow_sub_one_eq_mod, Nat.mod_eq_of_lt fits]
  have small : x.toNat * 2 ^ place.toNat < 2 ^ 32 := by
    calc x.toNat * 2 ^ place.toNat < 2 ^ bits * 2 ^ place.toNat :=
          Nat.mul_lt_mul_of_pos_right fits (Nat.two_pow_pos _)
      _ = 2 ^ (bits + place.toNat) := (Nat.pow_add ..).symm
      _ ≤ 2 ^ 32 := Nat.pow_le_pow_right (by decide) room
  rw [UInt32.toNat_shiftLeft, UInt8.toNat_toUInt32, whole, Nat.mod_eq_of_lt inside,
    Nat.shiftLeft_eq, Nat.mod_eq_of_lt small, Nat.mul_comm]

theorem key_toNat (m : LocalMinute) (regular : Regular m) :
    m.key.toNat = 2 ^ 25 * ((m.year - 2000) % 128).toNat + (2 ^ 21 * m.month.toNat +
      (2 ^ 16 * m.day.toNat + (2 ^ 11 * m.hour.toNat + 2 ^ 5 * m.minute.toNat))) := by
  obtain ⟨month, day, hour, minute⟩ := regular
  have year : (UInt32.ofNat ((m.year - 2000) % 128).toNat <<< 25).toNat =
      2 ^ 25 * ((m.year - 2000) % 128).toNat := by
    have place : (25 : UInt32).toNat % 32 = 25 := rfl
    rw [UInt32.toNat_shiftLeft, UInt32.toNat_ofNat', place, Nat.shiftLeft_eq]
    omega
  have months := masked_shift m.month 0x0f 21 4 rfl (by omega) (by decide) (by decide)
  have days := masked_shift m.day 0x1f 16 5 rfl (by omega) (by decide) (by decide)
  have hours := masked_shift m.hour 0x1f 11 5 rfl (by omega) (by decide) (by decide)
  have minutes := masked_shift m.minute 0x3f 5 6 rfl (by omega) (by decide) (by decide)
  unfold key localMinuteKey
  simp only [UInt32.toNat_or, year, months, days, hours, minutes, Nat.or_assoc]
  have places : (21 : UInt32).toNat = 21 ∧ (16 : UInt32).toNat = 16 ∧ (11 : UInt32).toNat = 11 ∧
      (5 : UInt32).toNat = 5 := ⟨rfl, rfl, rfl, rfl⟩
  rw [places.1, places.2.1, places.2.2.1, places.2.2.2,
    ← Nat.two_pow_add_eq_or_of_lt (i := 11) (by omega) m.hour.toNat,
    ← Nat.two_pow_add_eq_or_of_lt (i := 16) (by omega) m.day.toNat,
    ← Nat.two_pow_add_eq_or_of_lt (i := 21) (by omega) m.month.toNat,
    ← Nat.two_pow_add_eq_or_of_lt (i := 25) (by omega) ((m.year - 2000) % 128).toNat]

theorem key_ne_zero (m : LocalMinute) (regular : Regular m) : m.key ≠ 0 := by
  intro zero
  have value := key_toNat m regular
  have month := regular.month
  rw [zero, UInt32.toNat_zero] at value
  omega

/-- Minutes with one key differ in their years at most, by a multiple of 128. -/
theorem of_key_eq (a b : LocalMinute) (regular : Regular a) (regular' : Regular b)
    (same : a.key = b.key) :
    a.month = b.month ∧ a.day = b.day ∧ a.hour = b.hour ∧ a.minute = b.minute ∧
      (a.year - b.year) % 128 = 0 := by
  have value := key_toNat a regular
  have value' := key_toNat b regular'
  obtain ⟨month, day, hour, minute⟩ := regular
  obtain ⟨month', day', hour', minute'⟩ := regular'
  rw [same] at value
  simp only [← UInt8.toNat_inj]
  omega

theorem eq_of_key_eq (a b : LocalMinute) (regular : Regular a) (regular' : Regular b)
    (apart : Apart a b) (same : a.key = b.key) : a = b := by
  obtain ⟨month, day, hour, minute, years⟩ := of_key_eq a b regular regular' same
  have year := apart month day hour minute years
  cases a
  cases b
  simp_all

end LocalMinute

/-! The local clock. -/

theorem localDateTime_eq (unixSeconds : UInt32) (settings : Settings) :
    ∃ ahead : ℤ, 0 ≤ ahead ∧ ahead ≤ 7200 ∧ localDateTime unixSeconds settings =
      dateTimeFromEpoch (unixSeconds.toNat + settings.utcOffsetMinutes.toInt * 60 + ahead) := by
  unfold localDateTime
  dsimp only
  split
  · rename_i active
    have known : settings.dst.enabled = true ∧ validDstSettings settings.dst = true := by
      unfold dstActiveForStandardLocalSeconds at active
      split at active
      · cases active
      · rename_i valid
        simpa using valid
    have bias := (valid_transitions known.1 known.2).1
    exact ⟨settings.dst.biasMinutes.toNat * 60, by omega, by omega, rfl⟩
  · exact ⟨0, le_refl 0, by decide, by rw [Int.add_zero]⟩

theorem matchesTimeCondition_clock (frame : StoredFrame) (now : LocalDateTime)
    (matching : matchesTimeCondition frame now = true) :
    now.hour = byteAt frame.bytes 9 ∧ now.minute = byteAt frame.bytes 10 := by
  unfold matchesTimeCondition at matching
  split at matching
  · cases matching
  · dsimp only at matching
    split at matching
    · cases matching
    · split at matching
      · cases matching
      · rename_i clock
        simpa using clock

theorem minuteOf_regular (seconds : ℤ) : (minuteOf (dateTimeFromEpoch seconds)).Regular := by
  obtain ⟨dated, hour, minute⟩ := dateTimeFromEpoch_dated seconds
  refine ⟨dated.months, dated.inMonth.2, ?_, ?_⟩
  · rw [minuteOf, hour]
    omega
  · rw [minuteOf, minute]
    omega

theorem minuteOf_dayNumber (seconds : ℤ) :
    (minuteOf (dateTimeFromEpoch seconds)).dayNumber = seconds / 86400 :=
  (dateTimeFromEpoch_dated seconds).1.civil

theorem localDateTime_regular (unixSeconds : UInt32) (settings : Settings) :
    (minuteOf (localDateTime unixSeconds settings)).Regular := by
  obtain ⟨ahead, -, -, local_⟩ := localDateTime_eq unixSeconds settings
  rw [local_]
  exact minuteOf_regular _

theorem localDateTime_day (unixSeconds : UInt32) (settings : Settings) :
    (unixSeconds.toNat + settings.utcOffsetMinutes.toInt * 60) / 86400 ≤
        (minuteOf (localDateTime unixSeconds settings)).dayNumber ∧
      (minuteOf (localDateTime unixSeconds settings)).dayNumber ≤
        (unixSeconds.toNat + settings.utcOffsetMinutes.toInt * 60 + 7200) / 86400 := by
  obtain ⟨ahead, natural, bounded, local_⟩ := localDateTime_eq unixSeconds settings
  rw [local_, minuteOf_dayNumber]
  omega

theorem dayNumber_le (a b : ℤ) (near : a ≤ b + 7200)
    (hour : (dateTimeFromEpoch a).hour = (dateTimeFromEpoch b).hour)
    (minute : (dateTimeFromEpoch a).minute = (dateTimeFromEpoch b).minute) :
    a / 86400 ≤ b / 86400 := by
  obtain ⟨-, hours, minutes⟩ := dateTimeFromEpoch_dated a
  obtain ⟨-, hours', minutes'⟩ := dateTimeFromEpoch_dated b
  rw [hour, hours'] at hours
  rw [minute, minutes'] at minutes
  omega

section matching
variable {frame : StoredFrame} {settings : Settings} {a b : UInt32}
  (first : matchesTimeCondition frame (localDateTime a settings) = true)
  (second : matchesTimeCondition frame (localDateTime b settings) = true)
include first second

theorem matching_ordered (before : a.toNat ≤ b.toNat) :
    (minuteOf (localDateTime a settings)).dayNumber ≤
      (minuteOf (localDateTime b settings)).dayNumber := by
  obtain ⟨hour, minute⟩ := matchesTimeCondition_clock frame _ first
  obtain ⟨hour', minute'⟩ := matchesTimeCondition_clock frame _ second
  obtain ⟨ahead, natural, bounded, local_⟩ := localDateTime_eq a settings
  obtain ⟨ahead', natural', bounded', local'⟩ := localDateTime_eq b settings
  rw [local_] at hour minute ⊢
  rw [local'] at hour' minute' ⊢
  rw [minuteOf_dayNumber, minuteOf_dayNumber]
  exact dayNumber_le _ _ (by omega) (hour.trans hour'.symm) (minute.trans minute'.symm)

/-- A condition matches in one minute of a day. -/
theorem matching_once (same : (minuteOf (localDateTime a settings)).dayNumber =
    (minuteOf (localDateTime b settings)).dayNumber) :
    minuteOf (localDateTime a settings) = minuteOf (localDateTime b settings) := by
  obtain ⟨hour, minute⟩ := matchesTimeCondition_clock frame _ first
  obtain ⟨hour', minute'⟩ := matchesTimeCondition_clock frame _ second
  obtain ⟨ahead, -, -, local_⟩ := localDateTime_eq a settings
  obtain ⟨ahead', -, -, local'⟩ := localDateTime_eq b settings
  rw [local_] at hour minute same ⊢
  rw [local'] at hour' minute' same ⊢
  rw [minuteOf_dayNumber, minuteOf_dayNumber] at same
  obtain ⟨year, month, day⟩ := dateTimeFromEpoch_sameDay _ _ same
  rw [minuteOf, minuteOf, year, month, day, hour, hour', minute, minute']

end matching

/-! The clock that goes round. -/

def firstDay (seconds : ℤ) (settings : Settings) : ℤ :=
  (seconds % 2 ^ 32 + settings.utcOffsetMinutes.toInt * 60) / 86400

theorem clock_toNat (seconds : ℤ) (positive : seconds > 0) :
    ((UInt32.ofNat seconds.toNat).toNat : ℤ) = seconds % 2 ^ 32 := by
  rw [UInt32.toNat_ofNat']
  omega

theorem dayNumber_eq_of_rank_eq (first : ℤ) (a b : UInt32) (settings : Settings)
    (same : (minuteOf (localDateTime a settings)).rank first =
      (minuteOf (localDateTime b settings)).rank first) :
    (minuteOf (localDateTime a settings)).dayNumber =
      (minuteOf (localDateTime b settings)).dayNumber := by
  obtain ⟨low, high⟩ := localDateTime_day a settings
  obtain ⟨low', high'⟩ := localDateTime_day b settings
  have bound := a.toNat_lt
  have bound' := b.toNat_lt
  unfold LocalMinute.rank at same
  split at same <;> split at same <;> omega

/-- The days on which a condition matches come in order, also when the clock goes round. -/
theorem rank_le {frame : StoredFrame} {settings : Settings} {start a b : ℤ} (since : start ≤ a)
    (before : a ≤ b) (within : b < start + 128 * 366 * 86400) (positive : a > 0)
    (first : matchesTimeCondition frame (localDateTime (UInt32.ofNat a.toNat) settings) = true)
    (second : matchesTimeCondition frame (localDateTime (UInt32.ofNat b.toNat) settings) = true) :
    (minuteOf (localDateTime (UInt32.ofNat a.toNat) settings)).rank (firstDay start settings) ≤
      (minuteOf (localDateTime (UInt32.ofNat b.toNat) settings)).rank (firstDay start settings) := by
  have later := matching_ordered first second
  obtain ⟨low, high⟩ := localDateTime_day (UInt32.ofNat a.toNat) settings
  obtain ⟨low', high'⟩ := localDateTime_day (UInt32.ofNat b.toNat) settings
  rw [clock_toNat a positive] at low high
  rw [clock_toNat b (by omega)] at low' high'
  have clock := clock_toNat a positive
  have clock' := clock_toNat b (by omega)
  unfold LocalMinute.rank firstDay
  split <;> split <;> omega

end Rules
