import ForgeBoard.Calendar.TimeSpan
import ForgeBoard.Proofs.Text.Decimal
import Mathlib.Data.List.Basic

/-!
# Dates and time spans as filters write them

A filter writes a day as `YYYY-MM-DD` and a time span as a numeral and the letter of its unit.

Results:
* `Date.ofDigits?_eq_some_iff`: exactly the written forms of the days of the years 0 to 9999 are
  read as days.
* `TimeSpan.ofChars?_eq_some_iff`: exactly the numerals that fit 64 bits with a sign, followed by
  the letter of a unit, are read as time spans.
-/

namespace ForgeBoard

open Text

/-! ## Days -/

theorem daysInMonth_le (year : Int) (month : Nat) : daysInMonth year month ≤ 31 := by
  have all : ∀ n ∈ monthLengths year, n ≤ 31 := by
    intro n hn
    simp only [monthLengths, List.mem_cons, List.not_mem_nil, or_false] at hn
    rcases hn with rfl | rfl | rfl | rfl | rfl | rfl | rfl | rfl | rfl | rfl | rfl | rfl
    all_goals first | decide | (split <;> decide)
  unfold daysInMonth
  rw [List.getD_eq_getElem?_getD]
  cases h : (monthLengths year)[month - 1]? with
  | none => exact Nat.zero_le _
  | some n => exact all n (List.mem_of_getElem? h)

namespace Date

/-- The years that are written with four digits and no sign. -/
def HasFourDigitYear (d : Date) : Prop :=
  0 ≤ d.year ∧ d.year ≤ 9999

theorem yearChars_of_fourDigits {year : Int} (h0 : 0 ≤ year) (h9 : year ≤ 9999) :
    yearChars year = paddedDigits 4 year.natAbs := by
  unfold yearChars
  rw [if_neg (by omega), if_pos h9]

/-- A number below ten thousand, padded, is a list of four digits. -/
theorem exists_four_digits {n : Nat} (h : n < 10000) :
    ∃ a b c d, paddedDigits 4 n = [a, b, c, d] ∧ AllDigits [a, b, c, d] ∧
      digitsValue [a, b, c, d] = n := by
  have hdigits : (digits n).length ≤ 4 :=
    (Nat.length_toDigits_le_iff (by decide) (by decide)).mpr (by simpa using h)
  have hlen := length_paddedDigits hdigits
  have hd := allDigits_paddedDigits 4 n
  have hv := digitsValue_paddedDigits 4 n
  generalize paddedDigits 4 n = cs at hlen hd hv
  match cs, hlen with
  | [a, b, c, d], _ => exact ⟨a, b, c, d, rfl, hd, hv⟩

/-- A number below one hundred, padded, is a list of two digits. -/
theorem exists_two_digits {n : Nat} (h : n < 100) :
    ∃ a b, paddedDigits 2 n = [a, b] ∧ AllDigits [a, b] ∧ digitsValue [a, b] = n := by
  have hdigits : (digits n).length ≤ 2 :=
    (Nat.length_toDigits_le_iff (by decide) (by decide)).mpr (by simpa using h)
  have hlen := length_paddedDigits hdigits
  have hd := allDigits_paddedDigits 2 n
  have hv := digitsValue_paddedDigits 2 n
  obtain ⟨a, b, e⟩ := List.length_eq_two.mp hlen
  rw [e] at hd hv
  exact ⟨a, b, e, hd, hv⟩

theorem digitsValue_four_lt {a b c d : Char} (h : AllDigits [a, b, c, d]) :
    digitsValue [a, b, c, d] < 10000 := by
  have ha := digitValue_lt (h a (by simp))
  have hb := digitValue_lt (h b (by simp))
  have hc := digitValue_lt (h c (by simp))
  have hd := digitValue_lt (h d (by simp))
  simp only [digitsValue, List.foldl_cons, List.foldl_nil]
  omega

/-- The digits of the written form of a day. -/
theorem exists_chars {d : Date} (h : d.HasFourDigitYear) :
    ∃ y1 y2 y3 y4 m1 m2 d1 d2,
      d.chars = [y1, y2, y3, y4, '-', m1, m2, '-', d1, d2] ∧
      AllDigits [y1, y2, y3, y4] ∧ AllDigits [m1, m2] ∧ AllDigits [d1, d2] ∧
      (digitsValue [y1, y2, y3, y4] : Int) = d.year ∧ digitsValue [m1, m2] = d.month ∧
      digitsValue [d1, d2] = d.day := by
  obtain ⟨h0, h9⟩ := h
  obtain ⟨-, hm, -, hd⟩ := d.valid
  have hd31 := Nat.le_trans hd (daysInMonth_le d.year d.month)
  obtain ⟨y1, y2, y3, y4, ey, hy, vy⟩ := exists_four_digits (n := d.year.natAbs) (by omega)
  obtain ⟨m1, m2, em, hm, vm⟩ := exists_two_digits (n := d.month) (by omega)
  obtain ⟨d1, d2, ed, hd, vd⟩ := exists_two_digits (n := d.day) (by omega)
  refine ⟨y1, y2, y3, y4, m1, m2, d1, d2, ?_, hy, hm, hd, by omega, vm, vd⟩
  unfold chars
  rw [yearChars_of_fourDigits h0 h9, ey, em, ed]
  rfl

/-- Whatever the year, a day is written with digits and signs. -/
theorem mem_chars {d : Date} {c : Char} (h : c ∈ d.chars) :
    c.isDigit = true ∨ c = '-' ∨ c = '+' := by
  have padded : ∀ {width n}, c ∈ paddedDigits width n → c.isDigit = true ∨ c = '-' ∨ c = '+' :=
    fun hc => .inl (allDigits_paddedDigits _ _ c hc)
  have year : c ∈ yearChars d.year → c.isDigit = true ∨ c = '-' ∨ c = '+' := by
    intro hc
    unfold yearChars at hc
    split at hc
    · rcases List.mem_cons.mp hc with rfl | hc
      · exact .inr (.inl rfl)
      · exact padded hc
    split at hc
    · exact padded hc
    · rcases List.mem_cons.mp hc with rfl | hc
      · exact .inr (.inr rfl)
      · exact padded hc
  unfold chars at h
  simp only [List.cons_append, List.append_assoc, List.mem_append, List.mem_cons] at h
  rcases h with h | rfl | h | rfl | h
  · exact year h
  · exact .inr (.inl rfl)
  · exact padded h
  · exact .inr (.inl rfl)
  · exact padded h

theorem yearChars_injective : Function.Injective yearChars := by
  have hdigits : ∀ year, (yearChars year).filter Char.isDigit = paddedDigits 4 year.natAbs := by
    intro year
    have hpadded := List.filter_eq_self.mpr (allDigits_paddedDigits 4 year.natAbs)
    unfold yearChars
    split
    · exact hpadded
    split <;> exact hpadded
  have hminus : ∀ year, '-' ∈ yearChars year ↔ year < 0 := by
    intro year
    have hpadded : '-' ∉ paddedDigits 4 year.natAbs :=
      fun h => absurd (allDigits_paddedDigits 4 year.natAbs '-' h) (by decide)
    unfold yearChars
    split
    · next h => exact iff_of_true List.mem_cons_self h
    next h =>
    split
    · exact iff_of_false hpadded h
    · exact iff_of_false (by simp [hpadded]) h
  intro year year' h
  have habs : year.natAbs = year'.natAbs := by
    rw [← digitsValue_paddedDigits 4 year.natAbs, ← hdigits, h, hdigits, digitsValue_paddedDigits]
  have hsign : year < 0 ↔ year' < 0 := by
    rw [← hminus, h, hminus]
  omega

/-- Different days are written differently. -/
theorem chars_injective : Function.Injective chars := by
  intro d d' h
  obtain ⟨-, hm, -, hd⟩ := d.valid
  obtain ⟨-, hm', -, hd'⟩ := d'.valid
  have hd31 := Nat.le_trans hd (daysInMonth_le d.year d.month)
  have hd31' := Nat.le_trans hd' (daysInMonth_le d'.year d'.month)
  obtain ⟨m1, m2, em, -, vm⟩ := exists_two_digits (n := d.month) (by omega)
  obtain ⟨d1, d2, ed, -, vd⟩ := exists_two_digits (n := d.day) (by omega)
  obtain ⟨m1', m2', em', -, vm'⟩ := exists_two_digits (n := d'.month) (by omega)
  obtain ⟨d1', d2', ed', -, vd'⟩ := exists_two_digits (n := d'.day) (by omega)
  rw [chars, chars, em, ed, em', ed'] at h
  obtain ⟨hleft, hday⟩ := List.append_inj' h rfl
  obtain ⟨hyear, hmonth⟩ := List.append_inj' hleft rfl
  rw [Date.mk.injEq]
  refine ⟨yearChars_injective hyear, ?_, ?_⟩
  · rw [← vm, ← vm', (List.cons.inj hmonth).2]
  · rw [← vd, ← vd', (List.cons.inj hday).2]

theorem text_injective : Function.Injective text :=
  fun _ _ h => chars_injective (String.ofList_injective h)

theorem ofParts?_eq_some_iff {year : Int} {month day : Nat} {d : Date} :
    ofParts? year month day = some d ↔ d.year = year ∧ d.month = month ∧ d.day = day := by
  unfold ofParts?
  constructor
  · intro h
    split at h
    · obtain rfl := Option.some.inj h
      exact ⟨rfl, rfl, rfl⟩
    · exact absurd h (by simp)
  · rintro ⟨rfl, rfl, rfl⟩
    rw [dif_pos d.valid]

/-- **Exactly the written forms of the days of the years 0 to 9999 are read.** -/
theorem ofDigits?_eq_some_iff {cs : List Char} {d : Date} :
    ofDigits? cs = some d ↔ d.HasFourDigitYear ∧ cs = d.chars := by
  constructor
  · intro h
    unfold ofDigits? at h
    split at h
    · next y1 y2 y3 y4 m1 m2 d1 d2 =>
      split at h
      · next hall =>
        have hd : AllDigits ([y1, y2, y3, y4] ++ ([m1, m2] ++ [d1, d2])) :=
          List.all_eq_true.mp hall
        obtain ⟨hy, hmd⟩ := List.forall_mem_append.mp hd
        obtain ⟨hm, hdd⟩ := List.forall_mem_append.mp hmd
        obtain ⟨ey, em, ed⟩ := ofParts?_eq_some_iff.mp h
        have hlt := digitsValue_four_lt hy
        have four : d.HasFourDigitYear := ⟨by omega, by omega⟩
        refine ⟨four, ?_⟩
        unfold chars
        rw [yearChars_of_fourDigits four.1 four.2, ey, em, ed, Int.natAbs_natCast]
        rw [show paddedDigits 4 _ = _ from paddedDigits_digitsValue (by simp) hy,
          show paddedDigits 2 _ = _ from paddedDigits_digitsValue (by simp) hm,
          show paddedDigits 2 _ = _ from paddedDigits_digitsValue (by simp) hdd]
        rfl
      · exact absurd h (by simp)
    · exact absurd h (by simp)
  · rintro ⟨four, rfl⟩
    obtain ⟨y1, y2, y3, y4, m1, m2, d1, d2, e, hy, hm, hd, vy, vm, vd⟩ := exists_chars four
    rw [e]
    unfold ofDigits?
    have hall : [y1, y2, y3, y4, m1, m2, d1, d2].all Char.isDigit = true :=
      List.all_eq_true.mpr (hy.append (hm.append hd))
    simp only [hall, if_true]
    exact ofParts?_eq_some_iff.mpr ⟨vy.symm, vm.symm, vd.symm⟩

end Date

/-! ## Time spans -/

theorem TimeUnit.ofLetter?_eq_some_iff {c : Char} {unit : TimeUnit} :
    ofLetter? c = some unit ↔ c = unit.letter := by
  unfold ofLetter?
  constructor
  · intro h
    split at h
    · next hc => obtain rfl := Option.some.inj h; exact eq_of_beq hc
    split at h
    · next hc => obtain rfl := Option.some.inj h; exact eq_of_beq hc
    split at h
    · next hc => obtain rfl := Option.some.inj h; exact eq_of_beq hc
    split at h
    · next hc => obtain rfl := Option.some.inj h; exact eq_of_beq hc
    · exact absurd h (by simp)
  · rintro rfl
    cases unit <;> rfl

namespace TimeSpan

/-- **Exactly a numeral and the letter of a unit are read as a time span.** -/
theorem ofChars?_eq_some_iff {cs : List Char} {span : TimeSpan} :
    ofChars? cs = some span ↔
      ∃ ds, Numeral ds span.amount.toInt ∧ cs = ds ++ [span.unit.letter] := by
  unfold ofChars?
  simp only [Option.bind_eq_some_iff, Option.map_eq_some_iff]
  constructor
  · rintro ⟨letter, hl, unit, hu, amount, ha, rfl⟩
    refine ⟨cs.dropLast, readInt64?_eq_some_iff.mp ha, ?_⟩
    rw [← TimeUnit.ofLetter?_eq_some_iff.mp hu]
    exact (List.dropLast_append_getLast? letter hl).symm
  · rintro ⟨ds, hn, rfl⟩
    refine ⟨span.unit.letter, by simp, span.unit, TimeUnit.ofLetter?_eq_some_iff.mpr rfl,
      span.amount, ?_, rfl⟩
    rw [List.dropLast_concat]
    exact readInt64?_eq_some_iff.mpr hn

end TimeSpan

end ForgeBoard
