import ForgeBoard.Calendar.Date
import Mathlib.Data.Int.Init
import Mathlib.Order.Monotone.Basic

/-!
# Days one after the other

The calendar says which day follows a day: the next one of its month, or the first one of the next
month or year (`Date.Follows`). `Date.DaysLater` takes such steps any number of times, forwards and
backwards. None of this counts days from a beginning, or divides.

The numbers of days do. `Date.dayNumber` grows by one with each step (`follows_iff`), it is in the
order of years, months and days (`earlier_iff`), and `Date.ofDayNumber` is its inverse.

Result: `daysLater_iff`, the number of steps from one day to another is the difference of their
numbers.
-/

namespace ForgeBoard

/-! ## Lengths one after the other -/

theorem totalDays_take_succ (lengths : List Nat) (i : Nat) :
    totalDays (lengths.take (i + 1)) = totalDays (lengths.take i) + lengths.getD i 0 := by
  induction lengths generalizing i with
  | nil => simp [totalDays]
  | cons len rest ih =>
    cases i with
    | zero => simp [totalDays]
    | succ i =>
      rw [List.take_succ_cons, totalDays, ih, List.take_succ_cons, totalDays, List.getD_cons_succ,
        Nat.add_assoc]

theorem totalDays_take_mono (lengths : List Nat) :
    Monotone fun i => totalDays (lengths.take i) :=
  monotone_nat_of_le_succ fun i => by
    rw [totalDays_take_succ]
    exact Nat.le_add_right _ _

/-- The place that is found is that of the day that is looked for. -/
theorem totalDays_take_locate (lengths : List Nat) (r : Nat) (h : r < totalDays lengths) :
    totalDays (lengths.take (locate lengths r).1) + (locate lengths r).2 = r := by
  induction lengths generalizing r with
  | nil => exact absurd h (Nat.not_lt_zero r)
  | cons len rest ih =>
    rw [totalDays] at h
    unfold locate
    split
    · exact Nat.zero_add r
    · next hr =>
      have hrest := ih (r - len) (by omega)
      rw [List.take_succ_cons, totalDays]
      omega

/-- Days from the beginning of a year to the beginning of a month. -/
def daysBeforeMonth (year : Int) (month : Nat) : Nat :=
  totalDays ((monthLengths year).take (month - 1))

theorem daysBeforeMonth_succ (year : Int) (month : Nat) (h : 1 ≤ month) :
    daysBeforeMonth year (month + 1) = daysBeforeMonth year month + daysInMonth year month := by
  obtain ⟨i, rfl⟩ := Nat.exists_eq_add_of_le' h
  exact totalDays_take_succ (monthLengths year) i

theorem daysBeforeMonth_mono (year : Int) : Monotone (daysBeforeMonth year) :=
  fun _ _ h => totalDays_take_mono (monthLengths year) (Nat.sub_le_sub_right h 1)

/-- After December comes the next year. -/
theorem daysBeforeYear_succ_eq (year : Int) :
    daysBeforeYear (year + 1) = daysBeforeYear year + daysBeforeMonth year 13 :=
  daysBeforeYear_succ year

theorem daysBeforeYear_mono {year year' : Int} (h : year ≤ year') :
    daysBeforeYear year ≤ daysBeforeYear year' := by
  unfold daysBeforeYear
  omega

theorem one_le_daysInMonth (year : Int) (month : Nat) (h1 : 1 ≤ month) (h12 : month ≤ 12) :
    1 ≤ daysInMonth year month := by
  have hall : ∀ n ∈ monthLengths year, 1 ≤ n := by
    unfold monthLengths
    cases isLeapYear year <;> decide
  have hlen : month - 1 < (monthLengths year).length := by
    rw [show (monthLengths year).length = 12 from rfl]
    omega
  rw [daysInMonth, List.getD_eq_getElem?_getD, List.getElem?_eq_getElem hlen]
  exact hall _ (List.getElem_mem hlen)

namespace Date

variable {d d' d'' : Date} {n : Int}

/-! ## The order of days -/

/-- The day is earlier: of an earlier year, or of the same year and an earlier month, or earlier in
the same month. -/
def Earlier (d d' : Date) : Prop :=
  d.year < d'.year ∨ d.year = d'.year ∧ (d.month < d'.month ∨ d.month = d'.month ∧ d.day < d'.day)

theorem dayNumber_eq (d : Date) :
    d.dayNumber = daysBeforeYear d.year + daysBeforeMonth d.year d.month + (d.day - 1) :=
  rfl

/-- A day lies in its month. -/
theorem dayNumber_lt (d : Date) :
    d.dayNumber < daysBeforeYear d.year + daysBeforeMonth d.year (d.month + 1) := by
  obtain ⟨hmonth, -, -, hday⟩ := d.valid
  rw [dayNumber_eq, daysBeforeMonth_succ d.year d.month hmonth]
  omega

theorem le_dayNumber (d : Date) :
    daysBeforeYear d.year + daysBeforeMonth d.year d.month ≤ d.dayNumber := by
  obtain ⟨-, -, hday, -⟩ := d.valid
  rw [dayNumber_eq]
  omega

theorem dayNumber_lt_of_earlier (h : d.Earlier d') : d.dayNumber < d'.dayNumber := by
  have hlt := d.dayNumber_lt
  have hle := d'.le_dayNumber
  rcases h with hyear | ⟨hyear, hmonth | ⟨hmonth, hday⟩⟩
  · have hends : daysBeforeMonth d.year (d.month + 1) ≤ daysBeforeMonth d.year 13 :=
      daysBeforeMonth_mono d.year (Nat.succ_le_succ d.valid.2.1)
    have hnext := daysBeforeYear_mono (Int.add_one_le_of_lt hyear)
    rw [daysBeforeYear_succ_eq] at hnext
    omega
  · have hends : daysBeforeMonth d.year (d.month + 1) ≤ daysBeforeMonth d.year d'.month :=
      daysBeforeMonth_mono d.year hmonth
    rw [← hyear] at hle
    omega
  · rw [dayNumber_eq, dayNumber_eq, hyear, hmonth]
    omega

theorem earlier_or_eq_or_earlier (d d' : Date) : d.Earlier d' ∨ d = d' ∨ d'.Earlier d := by
  rw [Date.mk.injEq, Earlier, Earlier]
  omega

theorem dayNumber_injective : Function.Injective dayNumber := by
  intro d d' h
  rcases earlier_or_eq_or_earlier d d' with hearlier | heq | hearlier
  · exact absurd h (dayNumber_lt_of_earlier hearlier).ne
  · exact heq
  · exact absurd h (dayNumber_lt_of_earlier hearlier).ne'

/-- **The numbers of days are in their order.** -/
theorem earlier_iff : d.Earlier d' ↔ d.dayNumber < d'.dayNumber := by
  refine ⟨dayNumber_lt_of_earlier, fun h => ?_⟩
  rcases earlier_or_eq_or_earlier d d' with hearlier | rfl | hearlier
  · exact hearlier
  · exact absurd h (lt_irrefl _)
  · exact absurd h (dayNumber_lt_of_earlier hearlier).not_gt

/-- **The day with a number** has this number. -/
theorem dayNumber_ofDayNumber (n : Int) : (ofDayNumber n).dayNumber = n := by
  have hlow := daysBeforeYear_yearOfDay_le n
  have hhigh := lt_daysBeforeYear_yearOfDay n
  rw [daysBeforeYear_succ] at hhigh
  have hplace := totalDays_take_locate (monthLengths (yearOfDay n))
    (n - daysBeforeYear (yearOfDay n)).toNat (by omega)
  simp only [dayNumber, ofDayNumber, Nat.add_sub_cancel]
  omega

theorem eq_ofDayNumber_iff : d = ofDayNumber n ↔ d.dayNumber = n := by
  rw [← dayNumber_injective.eq_iff, dayNumber_ofDayNumber]

/-! ## The next day -/

/-- The second day follows the first one in the calendar. -/
inductive Follows (d d' : Date) : Prop where
  | day (hyear : d'.year = d.year) (hmonth : d'.month = d.month) (hday : d'.day = d.day + 1)
  | month (hlast : d.day = daysInMonth d.year d.month) (hyear : d'.year = d.year)
      (hmonth : d'.month = d.month + 1) (hday : d'.day = 1)
  | year (hlast : d.month = 12 ∧ d.day = 31) (hyear : d'.year = d.year + 1)
      (hfirst : d'.month = 1 ∧ d'.day = 1)

theorem Follows.dayNumber_eq (h : d.Follows d') : d'.dayNumber = d.dayNumber + 1 := by
  obtain ⟨hmonth1, -, -, -⟩ := d.valid
  rw [Date.dayNumber_eq, Date.dayNumber_eq]
  cases h with
  | day hyear hmonth hday =>
    rw [hyear, hmonth, hday]
    omega
  | month hlast hyear hmonth hday =>
    rw [hyear, hmonth, hday, daysBeforeMonth_succ d.year d.month hmonth1, hlast]
    omega
  | year hlast hyear hfirst =>
    have hdecember := daysBeforeMonth_succ d.year 12 (by decide)
    have hlength : daysInMonth d.year 12 = 31 := rfl
    have hjanuary : daysBeforeMonth (d.year + 1) 1 = 0 := rfl
    rw [hyear, hfirst.1, hfirst.2, hlast.1, hlast.2, daysBeforeYear_succ_eq, hdecember, hlength,
      hjanuary]
    omega

theorem exists_follows (d : Date) : ∃ d', d.Follows d' := by
  obtain ⟨hmonth1, hmonth12, hday1, hday⟩ := d.valid
  by_cases hmore : d.day < daysInMonth d.year d.month
  · exact ⟨⟨d.year, d.month, d.day + 1, hmonth1, hmonth12, by omega, hmore⟩, .day rfl rfl rfl⟩
  have hlast : d.day = daysInMonth d.year d.month := by omega
  by_cases hmonth : d.month < 12
  · have hfirst := one_le_daysInMonth d.year (d.month + 1) (by omega) hmonth
    exact ⟨⟨d.year, d.month + 1, 1, by omega, hmonth, le_rfl, hfirst⟩, .month hlast rfl rfl rfl⟩
  · have hdecember : d.month = 12 := by omega
    have hfirst := one_le_daysInMonth (d.year + 1) 1 le_rfl (by decide)
    rw [hdecember] at hlast
    exact ⟨⟨d.year + 1, 1, 1, le_rfl, by decide, le_rfl, hfirst⟩,
      .year ⟨hdecember, hlast⟩ rfl ⟨rfl, rfl⟩⟩

/-- **The next day** is the one with the next number. -/
theorem follows_iff : d.Follows d' ↔ d'.dayNumber = d.dayNumber + 1 := by
  refine ⟨Follows.dayNumber_eq, fun h => ?_⟩
  obtain ⟨next, hnext⟩ := d.exists_follows
  obtain rfl : next = d' := dayNumber_injective (hnext.dayNumber_eq.trans h.symm)
  exact hnext

/-! ## Many days -/

/-- The last day lies so many days after the first one, or before it if the number is negative. -/
inductive DaysLater (d : Date) : Int → Date → Prop where
  | same : DaysLater d 0 d
  | next {n : Int} {d' d'' : Date} (h : DaysLater d n d') (hnext : d'.Follows d'') :
      DaysLater d (n + 1) d''
  | previous {n : Int} {d' d'' : Date} (h : DaysLater d n d') (hprevious : d''.Follows d') :
      DaysLater d (n - 1) d''

theorem DaysLater.dayNumber_eq (h : d.DaysLater n d') : d'.dayNumber = d.dayNumber + n := by
  induction h with
  | same => exact (Int.add_zero _).symm
  | next _ hnext ih =>
    have hone := hnext.dayNumber_eq
    omega
  | previous _ hprevious ih =>
    have hone := hprevious.dayNumber_eq
    omega

/-- **Steps and numbers**: a day lies `n` days after another one iff its number is greater by `n`.
-/
theorem daysLater_iff : d.DaysLater n d' ↔ d'.dayNumber = d.dayNumber + n := by
  refine ⟨DaysLater.dayNumber_eq, ?_⟩
  -- by induction on the number of steps, with the day before the last step
  induction n generalizing d' with
  | zero =>
    intro h
    obtain rfl := dayNumber_injective (h.trans (Int.add_zero _))
    exact .same
  | succ n ih =>
    intro h
    have hbefore := dayNumber_ofDayNumber (d.dayNumber + n)
    exact .next (ih hbefore) (follows_iff.mpr (by omega))
  | pred n ih =>
    intro h
    have hafter := dayNumber_ofDayNumber (d.dayNumber + -n)
    exact .previous (ih hafter) (follows_iff.mpr (by omega))

end Date

end ForgeBoard
