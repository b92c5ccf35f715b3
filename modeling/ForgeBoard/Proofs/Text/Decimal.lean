import ForgeBoard.Text.Digits
import Mathlib.Data.List.Induction

/-!
# Decimal numerals and what they denote

`Numeral cs n`: the text `cs` is an optional minus sign and one digit or more, and denotes `n`.
Zeros in front and the numeral `-0` are allowed.

Results:
* `readInt?_eq_some_iff`, `readInt64?_eq_some_iff`: the readers accept exactly the numerals, the
  second one those that fit 64 bits with a sign.
* `numeral_signedDigits`: what is written denotes the number.
* `paddedDigits_digitsValue`, `digitsValue_paddedDigits`: texts of `width` digits and numbers of
  that width correspond to each other.
-/

namespace ForgeBoard.Text

/-- Every character is a decimal digit. -/
def AllDigits (cs : List Char) : Prop :=
  ∀ c ∈ cs, c.isDigit = true

/-- The text is a numeral and denotes the number. -/
inductive Numeral : List Char → Int → Prop where
  | plain {ds : List Char} : ds ≠ [] → AllDigits ds → Numeral ds (digitsValue ds)
  | negative {ds : List Char} :
    ds ≠ [] → AllDigits ds → Numeral ('-' :: ds) (-(digitsValue ds : Int))

/-! ## Digits -/

theorem allDigits_digits (n : Nat) : AllDigits (digits n) :=
  fun _ hc => Nat.isDigit_of_mem_toDigits (by decide) (by decide) hc

theorem digits_ne_nil (n : Nat) : digits n ≠ [] :=
  Nat.toDigits_ne_nil

@[simp]
theorem digitsValue_digits (n : Nat) : digitsValue (digits n) = n :=
  Nat.ofDigitChars_ten_toDigits

theorem digitsValue_snoc (cs : List Char) (c : Char) :
    digitsValue (cs ++ [c]) = 10 * digitsValue cs + (c.toNat - '0'.toNat) := by
  unfold digitsValue
  rw [List.foldl_append]
  rfl

theorem digitChar_value {c : Char} (h : c.isDigit = true) :
    Nat.digitChar (c.toNat - '0'.toNat) = c := by
  rw [Char.isDigit_iff_toNat] at h
  have h0 : '0'.toNat = 48 := rfl
  have h9 : '9'.toNat = 57 := rfl
  apply Char.toNat_inj.mp
  rw [Nat.toNat_digitChar_of_lt_ten (by omega)]
  omega

theorem digitValue_lt {c : Char} (h : c.isDigit = true) : c.toNat - '0'.toNat < 10 := by
  rw [Char.isDigit_iff_toNat] at h
  have h0 : '0'.toNat = 48 := rfl
  have h9 : '9'.toNat = 57 := rfl
  omega

theorem AllDigits.append {cs ds : List Char} (hc : AllDigits cs) (hd : AllDigits ds) :
    AllDigits (cs ++ ds) := by
  intro c h
  rcases List.mem_append.mp h with h | h
  · exact hc c h
  · exact hd c h

theorem AllDigits.head_ne_minus {cs : List Char} (h : AllDigits cs) : cs.head? ≠ some '-' := by
  intro hh
  have := h '-' (List.mem_of_mem_head? hh)
  exact absurd this (by decide)

/-! ## Padding with zeros -/

theorem allDigits_paddedDigits (width n : Nat) : AllDigits (paddedDigits width n) := by
  refine AllDigits.append (fun c hc => ?_) (allDigits_digits n)
  rw [List.eq_of_mem_replicate hc]
  decide

theorem digitsValue_paddedDigits (width n : Nat) : digitsValue (paddedDigits width n) = n := by
  show Nat.ofDigitChars 10 (List.replicate _ '0' ++ digits n) 0 = n
  rw [Nat.ofDigitChars_append, Nat.ofDigitChars_replicate_zero, Nat.mul_zero]
  exact Nat.ofDigitChars_ten_toDigits

theorem length_paddedDigits {width n : Nat} (h : (digits n).length ≤ width) :
    (paddedDigits width n).length = width := by
  unfold paddedDigits
  rw [List.length_append, List.length_replicate]
  omega

theorem paddedDigits_snoc {width n d : Nat} (hw : 0 < width) (hd : d < 10) :
    paddedDigits (width + 1) (10 * n + d) = paddedDigits width n ++ [Nat.digitChar d] := by
  unfold paddedDigits digits
  rcases Nat.eq_zero_or_pos n with rfl | hn
  · -- the zero that `digits 0` writes is one more zero of the padding
    rw [Nat.mul_zero, Nat.zero_add, Nat.toDigits_of_lt_base hd, Nat.toDigits_zero]
    have e : List.replicate (width - 1) '0' ++ ['0'] = List.replicate width '0' := by
      rw [← List.replicate_succ', Nat.sub_add_cancel hw]
    rw [List.length_singleton, List.length_singleton, e]
    rfl
  · rw [← Nat.toDigits_append_toDigits (by decide) hn hd, Nat.toDigits_of_lt_base hd,
      List.length_append, List.length_singleton, Nat.add_sub_add_right, List.append_assoc]

/-- **A text of digits is the padded form of its value.** -/
theorem paddedDigits_digitsValue {cs : List Char} (hne : cs ≠ []) (h : AllDigits cs) :
    paddedDigits cs.length (digitsValue cs) = cs := by
  induction cs using List.reverseRecOn with
  | nil => exact absurd rfl hne
  | append_singleton cs c ih =>
    have hc : c.isDigit = true := h c (by simp)
    have hcs : AllDigits cs := fun x hx => h x (List.mem_append_left _ hx)
    rw [digitsValue_snoc, List.length_append, List.length_singleton]
    by_cases hnil : cs = []
    · subst hnil
      show paddedDigits 1 (10 * 0 + (c.toNat - '0'.toNat)) = [c]
      unfold paddedDigits digits
      rw [Nat.mul_zero, Nat.zero_add, Nat.toDigits_of_lt_base (digitValue_lt hc),
        digitChar_value hc]
      rfl
    · rw [paddedDigits_snoc (List.length_pos_iff.mpr hnil) (digitValue_lt hc), ih hnil hcs,
        digitChar_value hc]

/-! ## Reading and writing -/

theorem numeral_signedDigits (n : Int) : Numeral (signedDigits n) n := by
  unfold signedDigits
  split
  · next h =>
    have := Numeral.negative (digits_ne_nil n.natAbs) (allDigits_digits n.natAbs)
    rw [digitsValue_digits] at this
    rwa [show -(n.natAbs : Int) = n by omega] at this
  · next h =>
    have := Numeral.plain (digits_ne_nil n.natAbs) (allDigits_digits n.natAbs)
    rw [digitsValue_digits] at this
    rwa [show (n.natAbs : Int) = n by omega] at this

theorem readNat?_eq_some_iff {cs : List Char} {n : Nat} :
    readNat? cs = some n ↔ cs ≠ [] ∧ AllDigits cs ∧ digitsValue cs = n := by
  unfold readNat? AllDigits
  cases cs with
  | nil => simp
  | cons c cs => simp [and_assoc]

theorem readInt?_minus (ds : List Char) :
    readInt? ('-' :: ds) = (readNat? ds).map fun n : Nat => -(n : Int) := by
  show Option.map (fun n : Int => -n) ((readNat? ds).bind fun n => some (n : Int)) = _
  cases readNat? ds <;> rfl

theorem readInt?_of_head_ne {cs : List Char} (h : cs.head? ≠ some '-') :
    readInt? cs = (readNat? cs).map fun n : Nat => (n : Int) := by
  unfold readInt?
  split
  · exact absurd rfl h
  · cases readNat? cs <;> rfl

/-- **Exactly the numerals are read.** -/
theorem readInt?_eq_some_iff {cs : List Char} {n : Int} : readInt? cs = some n ↔ Numeral cs n := by
  constructor
  · intro h
    by_cases hm : cs.head? = some '-'
    · obtain ⟨ds, rfl⟩ := List.head?_eq_some_iff.mp hm
      rw [readInt?_minus] at h
      obtain ⟨m, hr, rfl⟩ := Option.map_eq_some_iff.mp h
      obtain ⟨hne, hd, rfl⟩ := readNat?_eq_some_iff.mp hr
      exact .negative hne hd
    · rw [readInt?_of_head_ne hm] at h
      obtain ⟨m, hr, rfl⟩ := Option.map_eq_some_iff.mp h
      obtain ⟨hne, hd, rfl⟩ := readNat?_eq_some_iff.mp hr
      exact .plain hne hd
  · intro h
    cases h with
    | plain hne hd =>
      rw [readInt?_of_head_ne hd.head_ne_minus, readNat?_eq_some_iff.mpr ⟨hne, hd, rfl⟩]
      rfl
    | negative hne hd =>
      rw [readInt?_minus, readNat?_eq_some_iff.mpr ⟨hne, hd, rfl⟩]
      rfl

/-- **Exactly the numerals that fit 64 bits with a sign are read.** -/
theorem readInt64?_eq_some_iff {cs : List Char} {n : Int64} :
    readInt64? cs = some n ↔ Numeral cs n.toInt := by
  unfold readInt64?
  rw [Option.bind_eq_some_iff]
  constructor
  · rintro ⟨m, hm, h⟩
    split at h
    · next hr =>
      obtain rfl := Option.some.inj h
      have e : (Int64.ofInt m).toInt = m := by
        rw [Int64.toInt_minValue, Int64.toInt_maxValue] at hr
        exact Int64.toInt_ofInt_of_le hr.1 (by omega)
      rw [e]
      exact readInt?_eq_some_iff.mp hm
    · exact absurd h (by simp)
  · intro h
    refine ⟨n.toInt, readInt?_eq_some_iff.mpr h, ?_⟩
    rw [if_pos ⟨n.minValue_le_toInt, n.toInt_le⟩, Int64.ofInt_toInt]

end ForgeBoard.Text
