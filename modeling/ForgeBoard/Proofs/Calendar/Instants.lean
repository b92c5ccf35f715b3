import ForgeBoard.Calendar.TimeSpan
import ForgeBoard.Proofs.Calendar.Days
import Mathlib.Data.Rat.Floor

/-!
# Instants and lengths of time

An instant is a rational number of seconds since the beginning of 1970, so it may lie anywhere
between two seconds. It lies in the day that is as many days after 1 January 1970 as whole days have
passed (`Date.Contains`). `Date.ofSeconds` finds this day from the second alone, by a division that
rounds down (`contains_iff`).

A time span has a length in seconds without any bounds (`TimeSpan.length`). `TimeSpan.seconds?`
gives it unless its milliseconds do not fit 64 bits (`seconds?_eq_some_iff`), and the span backwards
has the opposite length (`seconds?_negated`). The least amount is no exception: it goes to an amount
that is not opposite to it, and neither length fits.
-/

namespace ForgeBoard

/-! ## Instants -/

namespace Date

/-- 1 January 1970. -/
def epoch : Date :=
  ⟨1970, 1, 1, by decide⟩

/-- The instant lies in the day: between the beginning of the day, which is so many days after the
beginning of 1970, and the beginning of the next one. -/
def Contains (d : Date) (instant : ℚ) : Prop :=
  ∃ n : Int, epoch.DaysLater n d ∧ 86400 * n ≤ instant ∧ instant < 86400 * (n + 1)

theorem dayNumber_epoch : epoch.dayNumber = epochDay := by
  decide

/-- The number of whole days that have passed, from the whole seconds. -/
theorem days_iff_floor {instant : ℚ} {n : Int} :
    86400 * n ≤ instant ∧ instant < 86400 * (n + 1) ↔ n = ⌊instant⌋ / 86400 := by
  have hlow : 86400 * (n : ℚ) ≤ instant ↔ 86400 * n ≤ ⌊instant⌋ := by
    rw [Int.le_floor]
    push_cast
    rfl
  have hhigh : instant < 86400 * ((n : ℚ) + 1) ↔ ⌊instant⌋ < 86400 * (n + 1) := by
    rw [Int.floor_lt]
    push_cast
    rfl
  rw [hlow, hhigh]
  omega

/-- **The day of an instant** is found from its second. -/
theorem contains_iff {d : Date} {instant : ℚ} : d.Contains instant ↔ d = ofSeconds ⌊instant⌋ := by
  unfold Contains
  simp only [days_iff_floor, exists_eq_right, daysLater_iff, dayNumber_epoch]
  rw [ofSeconds, eq_ofDayNumber_iff, Int.add_comm]

/-- A later instant does not lie in an earlier day. -/
theorem not_earlier_of_le {d d' : Date} {instant instant' : ℚ} (hle : instant ≤ instant')
    (h : d.Contains instant) (h' : d'.Contains instant') : ¬ d'.Earlier d := by
  obtain ⟨n, hn, hlow, -⟩ := h
  obtain ⟨n', hn', -, hhigh'⟩ := h'
  have hdays : (n : ℚ) < n' + 1 := by linarith
  have hdays : n < n' + 1 := by exact_mod_cast hdays
  rw [earlier_iff, hn.dayNumber_eq, hn'.dayNumber_eq]
  omega

end Date

/-! ## Lengths -/

/-- The milliseconds of a length in seconds fit 64 bits with a sign, and so do those backwards. -/
def FitsMillis (length : Int) : Prop :=
  |1000 * length| ≤ Int64.maxValue.toInt

theorem fitsMillis_iff {length : Int} :
    FitsMillis length ↔ -TimeSpan.maxSeconds ≤ length ∧ length ≤ TimeSpan.maxSeconds := by
  rw [FitsMillis, Int64.toInt_maxValue, abs_le, TimeSpan.maxSeconds]
  omega

namespace TimeSpan

variable {span : TimeSpan} {s : Int}

/-- The length in seconds, however long. -/
def length (span : TimeSpan) : Int :=
  span.amount.toInt * span.unit.seconds

theorem seconds?_eq_some_iff :
    span.seconds? = some s ↔ s = span.length ∧ FitsMillis span.length := by
  rw [fitsMillis_iff, seconds?, length]
  simp only [Option.ite_none_right_eq_some, Option.some.injEq, @eq_comm _ s]
  exact and_comm

/-- The greatest amount is too long in any unit. -/
theorem not_fitsMillis {amount : Int} (h : 9223372036854775807 ≤ amount) (unit : TimeUnit) :
    ¬ FitsMillis (amount * unit.seconds) := by
  rw [fitsMillis_iff, maxSeconds]
  cases unit <;> simp only [TimeUnit.seconds] <;> omega

/-- **A span backwards** has the opposite length, or both lengths are too long. -/
theorem length_negated (span : TimeSpan) : span.negated.length = -span.length ∨
    ¬ FitsMillis span.negated.length ∧ ¬ FitsMillis (-span.length) := by
  by_cases hmin : span.amount = Int64.minValue
  · right
    have hamount : span.negated.amount = Int64.maxValue := if_pos hmin
    rw [length, length, hamount, hmin, ← Int.neg_mul]
    exact ⟨not_fitsMillis (by decide) _, not_fitsMillis (by decide) _⟩
  · left
    have hamount : span.negated.amount = -span.amount := if_neg hmin
    have hlow := span.amount.minValue_le_toInt
    have hhigh := span.amount.toInt_le
    have hne : span.amount.toInt ≠ Int64.minValue.toInt := mt Int64.toInt_inj.mp hmin
    rw [Int64.toInt_minValue] at hlow hne
    rw [Int64.toInt_maxValue] at hhigh
    have hneg : (-span.amount).toInt = -span.amount.toInt := by
      rw [Int64.toInt_neg, Int.bmod_eq_of_le (by omega) (by omega)]
    rw [length, length, hamount, hneg, ← Int.neg_mul]
    rfl

theorem seconds?_negated :
    span.negated.seconds? = some s ↔ s = -span.length ∧ FitsMillis (-span.length) := by
  rw [seconds?_eq_some_iff]
  rcases span.length_negated with h | ⟨hnegated, hlength⟩
  · rw [h]
  · simp [hnegated, hlength]

end TimeSpan

end ForgeBoard
