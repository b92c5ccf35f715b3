import ForgeBoard.Text.Digits

/-!
# Dates

Days of the proleptic Gregorian calendar, for every whole year, zero and negative ones included.

* `Date` carries the proof that its day exists.
* `Date.dayNumber` counts days from 1 January of year 1, and `Date.ofDayNumber` is the way back.
* `Date.chars` writes `YYYY-MM-DD`: a year has at least four digits, and a sign when it is negative
  or has more than four.
-/

namespace ForgeBoard

open Text

/-- The year has a 29 February. -/
def isLeapYear (year : Int) : Bool :=
  year % 4 == 0 && (year % 100 != 0 || year % 400 == 0)

/-- The lengths of the twelve months. -/
def monthLengths (year : Int) : List Nat :=
  [31, if isLeapYear year then 29 else 28, 31, 30, 31, 30, 31, 31, 30, 31, 30, 31]

/-- The length of a month, counted from 1; there is no month 13. -/
def daysInMonth (year : Int) (month : Nat) : Nat :=
  (monthLengths year).getD (month - 1) 0

/-- A day of the calendar. -/
structure Date where
  year : Int
  month : Nat
  day : Nat
  valid : 1 ≤ month ∧ month ≤ 12 ∧ 1 ≤ day ∧ day ≤ daysInMonth year month
  deriving DecidableEq

/-- The total of a list of lengths. -/
def totalDays : List Nat → Nat
  | [] => 0
  | len :: rest => len + totalDays rest

/-- Days from 1 January of year 1 to 1 January of `year`. -/
def daysBeforeYear (year : Int) : Int :=
  365 * (year - 1) + (year - 1) / 4 - (year - 1) / 100 + (year - 1) / 400

theorem daysBeforeYear_succ (year : Int) :
    daysBeforeYear (year + 1) = daysBeforeYear year + totalDays (monthLengths year) := by
  unfold daysBeforeYear monthLengths isLeapYear
  by_cases h4 : year % 4 = 0 <;> by_cases h100 : year % 100 = 0 <;>
    by_cases h400 : year % 400 = 0 <;> simp [h4, h100, h400, totalDays] <;> omega

/-- The year of a day. The mean year has 146097 / 400 days, which is off by one year at most. -/
def yearOfDay (n : Int) : Int :=
  let guess := 400 * n / 146097 + 1
  if n < daysBeforeYear guess then guess - 1
  else if daysBeforeYear (guess + 1) ≤ n then guess + 1
  else guess

theorem daysBeforeYear_yearOfDay_le (n : Int) : daysBeforeYear (yearOfDay n) ≤ n := by
  unfold yearOfDay daysBeforeYear
  simp only
  split
  · omega
  · split <;> omega

theorem lt_daysBeforeYear_yearOfDay (n : Int) : n < daysBeforeYear (yearOfDay n + 1) := by
  unfold yearOfDay daysBeforeYear
  simp only
  split
  · omega
  · split <;> omega

/-- Walks along consecutive lengths: how many are passed, and how far into the next. -/
def locate : List Nat → Nat → Nat × Nat
  | [], r => (0, r)
  | len :: rest, r =>
    if r < len then (0, r) else ((locate rest (r - len)).1 + 1, (locate rest (r - len)).2)

theorem locate_spec (lengths : List Nat) (r : Nat) (h : r < totalDays lengths) :
    (locate lengths r).1 < lengths.length ∧
      (locate lengths r).2 < lengths.getD (locate lengths r).1 0 := by
  induction lengths generalizing r with
  | nil => simp [totalDays] at h
  | cons len rest ih =>
    unfold locate
    split
    · next hr => exact ⟨by simp, by simpa using hr⟩
    · next hr =>
      have := ih (r - len) (by simp only [totalDays] at h; omega)
      exact ⟨by simpa using this.1, by simpa using this.2⟩

namespace Date

/-- The number of the day, counted from 1 January of year 1. -/
def dayNumber (d : Date) : Int :=
  daysBeforeYear d.year + totalDays ((monthLengths d.year).take (d.month - 1)) + (d.day - 1)

/-- The day with a given number. -/
def ofDayNumber (n : Int) : Date :=
  let year := yearOfDay n
  let place := locate (monthLengths year) (n - daysBeforeYear year).toNat
  { year := year
    month := place.1 + 1
    day := place.2 + 1
    valid := by
      have low := daysBeforeYear_yearOfDay_le n
      have high := lt_daysBeforeYear_yearOfDay n
      rw [daysBeforeYear_succ] at high
      have := locate_spec (monthLengths (yearOfDay n)) (n - daysBeforeYear (yearOfDay n)).toNat
        (by omega)
      have len : (monthLengths (yearOfDay n)).length = 12 := rfl
      refine ⟨by omega, by simp only [year, place]; omega, by omega, ?_⟩
      simp only [year, place, daysInMonth, Nat.add_sub_cancel]
      omega }

/-- The day made of three numbers, if it exists. -/
def ofParts? (year : Int) (month day : Nat) : Option Date :=
  if h : 1 ≤ month ∧ month ≤ 12 ∧ 1 ≤ day ∧ day ≤ daysInMonth year month then
    some ⟨year, month, day, h⟩
  else none

/-- Years that the calendar of the filters covers. -/
def inRange (d : Date) : Bool :=
  decide (-262143 ≤ d.year) && decide (d.year ≤ 262142)

/-- A year: four digits at least, with a sign when it is negative or above 9999. -/
def yearChars (year : Int) : List Char :=
  if year < 0 then '-' :: paddedDigits 4 year.natAbs
  else if year ≤ 9999 then paddedDigits 4 year.natAbs
  else '+' :: paddedDigits 4 year.natAbs

/-- The written form `YYYY-MM-DD`. -/
def chars (d : Date) : List Char :=
  yearChars d.year ++ '-' :: paddedDigits 2 d.month ++ '-' :: paddedDigits 2 d.day

/-- The written form `YYYY-MM-DD`. -/
def text (d : Date) : String :=
  String.ofList d.chars

/-- Reads four digits, two and two, with hyphens between them, as an existing day. -/
def ofDigits? : List Char → Option Date
  | [y1, y2, y3, y4, '-', m1, m2, '-', d1, d2] =>
    if [y1, y2, y3, y4, m1, m2, d1, d2].all Char.isDigit then
      ofParts? (digitsValue [y1, y2, y3, y4]) (digitsValue [m1, m2]) (digitsValue [d1, d2])
    else none
  | _ => none

/-- Reads the written form of a day of any year, with or without a sign. -/
def ofText? (s : String) : Option Date :=
  match s.toList with
  | '-' :: cs => signed (-1) cs
  | '+' :: cs => signed 1 cs
  | cs => ofDigits? cs
where
  /-- Reads a year of four digits or more after its sign, and the rest. -/
  signed (sign : Int) (cs : List Char) : Option Date :=
    let year := cs.takeWhile Char.isDigit
    match cs.dropWhile Char.isDigit with
    | ['-', m1, m2, '-', d1, d2] =>
      if decide (4 ≤ year.length) && [m1, m2, d1, d2].all Char.isDigit then
        (ofParts? (sign * digitsValue year) (digitsValue [m1, m2])
          (digitsValue [d1, d2])).bind fun d => if d.inRange then some d else none
      else none
    | _ => none

end Date

end ForgeBoard
