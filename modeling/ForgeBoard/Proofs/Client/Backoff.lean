import ForgeBoard.Proofs.Client.Retry

/-!
# Delays that double

The delay after a failed attempt is the first delay, twice as long with every further attempt, up to
the limit (`doubled`). The factor is a word, though: it stops at 2^32 - 1, where the next power of
two would be 2^32. From the 33rd attempt on a delay is `HeldBack` by it, unless the limit has been
reached by then.

* `toNat_factor_of_le`, `toNat_factor_of_lt`: the factor up to the 32nd attempt, and beyond it.
* `lt_doubling`: what doubles goes beyond the factor's greatest value, if it is not nothing.

Result: `backoff_doubles_iff`.
-/

namespace ForgeBoard.RetryPolicy

/-- The first delay doubled with every attempt after the first, in exact numbers, up to the limit.
-/
def doubled (p : RetryPolicy) (attempt : UInt32) : Nat :=
  min (p.baseDelay.nanoseconds * 2 ^ (attempt.toNat - 1)) p.maxDelay.nanoseconds

/-- The factor has come to its greatest value, and the delay has not come to the limit. -/
structure HeldBack (p : RetryPolicy) (attempt : UInt32) : Prop where
  late : 32 < attempt.toNat
  pos : 0 < p.baseDelay.nanoseconds
  below : p.baseDelay.nanoseconds * (2 ^ 32 - 1) < p.maxDelay.nanoseconds

variable {p : RetryPolicy} {attempt : UInt32}

theorem toNat_factor_of_le (h : attempt.toNat ≤ 32) :
    (factor attempt).toNat = 2 ^ (attempt.toNat - 1) := by
  have hle : 2 ^ (attempt.toNat - 1) ≤ 2 ^ 31 := Nat.pow_le_pow_right Nat.two_pos (by omega)
  rw [toNat_factor, UInt32.size]
  omega

theorem toNat_factor_of_lt (h : 32 < attempt.toNat) : (factor attempt).toNat = 2 ^ 32 - 1 := by
  have hle : 2 ^ 32 ≤ 2 ^ (attempt.toNat - 1) := Nat.pow_le_pow_right Nat.two_pos (by omega)
  rw [toNat_factor, UInt32.size]
  omega

/-- What doubles has left the greatest factor behind, if it is not nothing. -/
theorem lt_doubling (h : 32 < attempt.toNat) (hpos : 0 < p.baseDelay.nanoseconds) :
    p.baseDelay.nanoseconds * (2 ^ 32 - 1) <
      p.baseDelay.nanoseconds * 2 ^ (attempt.toNat - 1) := by
  have hle : 2 ^ 32 ≤ 2 ^ (attempt.toNat - 1) := Nat.pow_le_pow_right Nat.two_pos (by omega)
  exact Nat.mul_lt_mul_of_pos_left (by omega) hpos

theorem HeldBack.nanoseconds_eq (h : p.HeldBack attempt) :
    (p.backoff attempt).nanoseconds = p.baseDelay.nanoseconds * (2 ^ 32 - 1) := by
  rw [nanoseconds_backoff, toNat_factor_of_lt h.late]
  exact Nat.min_eq_left h.below.le

theorem HeldBack.lt_doubled (h : p.HeldBack attempt) :
    (p.backoff attempt).nanoseconds < p.doubled attempt := by
  rw [h.nanoseconds_eq]
  exact lt_min (lt_doubling h.late h.pos) h.below

theorem nanoseconds_eq_doubled (h : ¬ p.HeldBack attempt) :
    (p.backoff attempt).nanoseconds = p.doubled attempt := by
  rw [nanoseconds_backoff, doubled]
  by_cases hlate : 32 < attempt.toNat
  · rw [toNat_factor_of_lt hlate]
    rcases Nat.eq_zero_or_pos p.baseDelay.nanoseconds with hzero | hpos
    · rw [hzero, Nat.zero_mul, Nat.zero_mul]
    · -- both are at the limit
      have hlimit : p.maxDelay.nanoseconds ≤ p.baseDelay.nanoseconds * (2 ^ 32 - 1) :=
        Nat.le_of_not_lt fun hbelow => h ⟨hlate, hpos, hbelow⟩
      rw [Nat.min_eq_right hlimit, Nat.min_eq_right (hlimit.trans (lt_doubling hlate hpos).le)]
  · rw [toNat_factor_of_le (Nat.le_of_not_lt hlate)]

/-- **Delays double up to the limit**, unless they are held back. A delay that is held back is the
first one times 2^32 - 1, which is too short. -/
theorem backoff_doubles_iff (p : RetryPolicy) (attempt : UInt32) :
    ((p.backoff attempt).nanoseconds = p.doubled attempt ↔ ¬ p.HeldBack attempt) ∧
      (p.HeldBack attempt →
        (p.backoff attempt).nanoseconds = p.baseDelay.nanoseconds * (2 ^ 32 - 1) ∧
          (p.backoff attempt).nanoseconds < p.doubled attempt) :=
  ⟨⟨fun h hheld => hheld.lt_doubled.ne h, nanoseconds_eq_doubled⟩,
    fun h => ⟨h.nanoseconds_eq, h.lt_doubled⟩⟩

/-- A millisecond at first, and a limit that is far away. -/
def patient : RetryPolicy :=
  ⟨100, .ofMilliseconds 1, .ofMilliseconds 9223372036854775808⟩

/-- The 33rd delay is a millisecond short of twice the 32nd. -/
theorem backoff_patient :
    (patient.backoff 33).milliseconds = 4294967295 ∧
      (patient.backoff 33).nanoseconds ≠ patient.doubled 33 := by
  decide

end ForgeBoard.RetryPolicy
