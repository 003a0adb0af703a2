import Mathlib.Tactic.Ring

/-! A free-running 32-bit tick counter and deadlines that are compared with it
by the sign of the wrapped difference. True time is a natural number of ticks;
the counter shows it modulo `2^32`. The comparison is right as long as the
deadline lies less than half a period away, in the past or in the future. -/

namespace WrapClock

def stamp (t : Nat) : UInt32 := UInt32.ofNat t

def lag (now deadline : UInt32) : Int := (now - deadline).toInt32.toInt

/-- The deadline test: the signed difference is not negative. -/
def reached (now deadline : UInt32) : Bool := decide (0 ≤ lag now deadline)

theorem reached_iff (now deadline : UInt32) :
    reached now deadline = true ↔ (now - deadline).toNat < 2 ^ 31 := by
  have bound := (now - deadline).toBitVec.isLt
  simp only [reached, decide_eq_true_eq]
  change 0 ≤ (now - deadline).toBitVec.toInt ↔ (now - deadline).toBitVec.toNat < 2 ^ 31
  rw [BitVec.toInt_eq_toNat_cond]
  split <;> omega

theorem stamp_toNat (t : Nat) : (stamp t).toNat = t % 2 ^ 32 := by
  simp [stamp]

theorem stamp_add (t n : Nat) : stamp (t + n) = stamp t + UInt32.ofNat n := by
  simp [stamp]

theorem stamp_add_toNat (t : Nat) (n : UInt32) : stamp (t + n.toNat) = stamp t + n := by
  rw [stamp_add, UInt32.ofNat_toNat]

theorem stamp_sub_toNat (t d : Nat) :
    (stamp t - stamp d).toNat = (2 ^ 32 - d % 2 ^ 32 + t) % 2 ^ 32 := by
  simp [stamp, UInt32.toNat_sub]

/-- Elapsed time read from the counter is exact modulo the period. -/
theorem elapsed_toNat (t d : Nat) (h : d ≤ t) :
    (stamp t - stamp d).toNat = (t - d) % 2 ^ 32 := by
  rw [stamp_sub_toNat]
  omega

theorem reached_past (t d : Nat) (h : d ≤ t) :
    reached (stamp t) (stamp d) = true ↔ (t - d) % 2 ^ 32 < 2 ^ 31 := by
  rw [reached_iff, elapsed_toNat t d h]

theorem reached_future (t d : Nat) (h : t < d) (near : d - t ≤ 2 ^ 31) :
    reached (stamp t) (stamp d) = false := by
  rw [Bool.eq_false_iff, ne_eq, reached_iff, stamp_sub_toNat]
  omega

/-- A deadline at most half a period ahead is seen as reached when it is past, in the first half of
each period. -/
theorem reached_near (t d : Nat) (near : d ≤ t + 2 ^ 31) :
    reached (stamp t) (stamp d) = true ↔ d ≤ t ∧ (t - d) % 2 ^ 32 < 2 ^ 31 := by
  by_cases past : d ≤ t
  · rw [reached_past t d past]
    simp only [past, true_and]
  · rw [reached_future t d (by omega) (by omega)]
    simp [past]

/-- A deadline at most half a period ahead is judged right unless it is overdue into the second
half of a period. -/
theorem reached_right_iff (t d : Nat) (near : d ≤ t + 2 ^ 31) :
    (reached (stamp t) (stamp d) = true ↔ d ≤ t) ↔
      ¬ (d ≤ t ∧ 2 ^ 31 ≤ (t - d) % 2 ^ 32) := by
  by_cases past : d ≤ t
  · rw [reached_past t d past]
    simp only [past, iff_true, true_and, Nat.not_le]
  · rw [reached_future t d (by omega) (by omega)]
    simp [past]

end WrapClock
