import ForgeBoard.Proofs.Filter.Lexemes
import Mathlib.Data.List.TakeWhile

/-!
# A lexeme by itself

The scanner looks one character beyond some tokens: for the equals sign of an operator, the unit of
a time span, the hyphen of a date. What it sees there decides where the token ends, not what the
token is.

* `operator_text`, `quoted_text`, `numeral_text` are the lexemes of several characters;
  `ReadsString.take` says that nothing beyond the closing quote is read.
* `amount_eq_ok`: a number or a time span has a numeral for its text.

Result: `scan_text`, the text of a token is scanned by itself as the same token, to its end.
-/

namespace ForgeBoard.Filter.Lexeme

open Text

variable {c : Char} {cs rest : List Char} {kind : TokenKind}

/-- Nothing follows, so nothing goes on. -/
theorem stops_nil (p : Char → Bool) : Stops p [] :=
  nofun

/-! ## Marks, operators and words -/

theorem operator_text {short long : TokenKind}
    (h : ∀ rest, scan (c :: rest) = operator short long c rest) (rest : List Char) :
    scan (operator short long c rest).text =
      ⟨(operator short long c rest).result, (operator short long c rest).text, []⟩ := by
  unfold operator
  split
  · exact h ['=']
  · exact h []

theorem word_text (hc : isWordStart c = true) (rest : List Char) :
    scan (word (c :: rest)).text =
      ⟨(word (c :: rest)).result, (word (c :: rest)).text, []⟩ := by
  have hw : ∀ d ∈ rest.takeWhile isWordChar, isWordChar d = true :=
    fun d hd => List.mem_takeWhile_imp hd
  have h := scan_word_append hc hw (stops_nil isWordChar)
  rw [List.append_nil] at h
  unfold word
  rw [List.takeWhile_cons_of_pos (isWordChar_of_isWordStart hc)]
  exact h

/-! ## Strings -/

/-- Reading a string does not look beyond its closing quote. -/
theorem ReadsString.take {value : List Char} {n : Nat} (h : ReadsString cs value n) :
    ReadsString (cs.take n) value n := by
  induction h with
  | close rest => exact .close []
  | pair c _ ih => exact .pair c ih
  | plain h1 h2 _ ih => exact .plain h1 h2 ih

theorem quoted_text (h : (quoted ('"' :: rest)).result = .ok kind) :
    scan (quoted ('"' :: rest)).text = ⟨.ok kind, (quoted ('"' :: rest)).text, []⟩ := by
  unfold quoted at h ⊢
  rw [List.tail_cons] at h ⊢
  split at h
  · next value n hbody =>
    obtain rfl := Except.ok.inj h
    have hlen : ('"' :: rest.take n).length ≤ n + 1 :=
      Nat.succ_le_succ (List.length_take_le n rest)
    have hquoted : scan ('"' :: rest.take n) = quoted ('"' :: rest.take n) := rfl
    rw [List.take_succ_cons, hquoted]
    unfold quoted
    rw [List.tail_cons, stringBody_eq_some_iff.mpr (stringBody_eq_some_iff.mp hbody).take]
    dsimp only
    rw [List.take_of_length_le hlen, List.drop_eq_nil_of_le hlen]
  · exact absurd h nofun

/-! ## Numbers, time spans and dates -/

theorem exists_unit_of_isUnitLetter (h : isUnitLetter c = true) :
    ∃ unit : TimeUnit, unit.letter = c := by
  simp only [isUnitLetter, Bool.or_eq_true, beq_iff_eq] at h
  obtain ((rfl | rfl) | rfl) | rfl := h
  · exact ⟨.minute, rfl⟩
  · exact ⟨.hour, rfl⟩
  · exact ⟨.day, rfl⟩
  · exact ⟨.week, rfl⟩

/-- The text of a number or a time span: a numeral, and a unit for a time span. -/
inductive Amount : TokenKind → List Char → Prop where
  | number {cs : List Char} {n : Int} : Numeral cs n → Amount (.number cs) cs
  | span {cs : List Char} {n : Int} (unit : TimeUnit) :
    Numeral cs n → Amount (.span (cs ++ [unit.letter])) (cs ++ [unit.letter])

theorem Amount.scan_eq (h : Amount kind cs) : scan cs = ⟨.ok kind, cs, []⟩ := by
  cases h with
  | number hn =>
    have h := scan_number_append hn (stops_nil _) (stops_nil _) (stops_nil _)
    rwa [List.append_nil] at h
  | span unit hn => exact scan_span_append hn unit

/-- What follows the digits ends the number, or makes it a time span. -/
theorem amount_eq_ok {sign body : List Char} (hsign : sign = [] ∨ sign = ['-'])
    (h : (amount sign body).result = .ok kind) : Amount kind (amount sign body).text := by
  have hds : AllDigits (body.takeWhile Char.isDigit) := fun d hd => List.mem_takeWhile_imp hd
  unfold amount at h ⊢
  dsimp only at h ⊢
  split at h
  · exact absurd h nofun
  next hne =>
  rw [if_neg hne]
  have hne : body.takeWhile Char.isDigit ≠ [] := by simpa using hne
  have hnumeral : ∃ n, Numeral (sign ++ body.takeWhile Char.isDigit) n := by
    obtain rfl | rfl := hsign
    · exact ⟨_, .plain hne hds⟩
    · exact ⟨_, .negative hne hds⟩
  obtain ⟨n, hn⟩ := hnumeral
  split at h
  · obtain rfl := Except.ok.inj h
    exact .number hn
  · split at h
    · next d rest _ hunit =>
      obtain ⟨unit, rfl⟩ := exists_unit_of_isUnitLetter hunit
      obtain rfl := Except.ok.inj h
      rw [if_pos hunit]
      exact .span unit hn
    · next hunit =>
      obtain rfl := Except.ok.inj h
      rw [if_neg hunit]
      exact .number hn

/-- A date takes all digits and hyphens, the hyphen that makes it a date among them. -/
theorem scan_date_text (hc : c.isDigit = true)
    (h : ((c :: rest).dropWhile Char.isDigit).head? = some '-') :
    scan ((c :: rest).takeWhile isDateChar) =
      ⟨.ok (.date ((c :: rest).takeWhile isDateChar)), (c :: rest).takeWhile isDateChar, []⟩ := by
  obtain ⟨tail, htail⟩ := List.head?_eq_some_iff.mp h
  have hds : ∀ d ∈ (c :: rest).takeWhile Char.isDigit, d.isDigit = true :=
    fun d hd => List.mem_takeWhile_imp hd
  have hparts : (c :: rest).takeWhile isDateChar =
      (c :: rest).takeWhile Char.isDigit ++ '-' :: tail.takeWhile isDateChar := by
    conv_lhs => rw [← List.takeWhile_append_dropWhile (p := Char.isDigit) (l := c :: rest), htail]
    rw [List.takeWhile_append_of_pos fun d hd => isDateChar_of_isDigit (hds d hd)]
    rfl
  have hdrop : (((c :: rest).takeWhile isDateChar).dropWhile Char.isDigit).head? = some '-' := by
    rw [hparts, dropWhile_append_of_stops hds (stops_cons (by decide))]
    rfl
  have htake : ((c :: rest).takeWhile isDateChar).takeWhile isDateChar =
      (c :: rest).takeWhile isDateChar := List.takeWhile_idem
  have hend : ((c :: rest).takeWhile isDateChar).dropWhile isDateChar = [] :=
    List.dropWhile_eq_nil_iff.mpr fun d hd => List.mem_takeWhile_imp hd
  generalize ht : (c :: rest).takeWhile isDateChar = text at hdrop htake hend
  rw [List.takeWhile_cons_of_pos (isDateChar_of_isDigit hc)] at ht
  subst ht
  rw [scan_numeral (isNumeralStart_of_isDigit hc)]
  unfold numeral
  split
  · next hminus =>
    obtain rfl := List.head_eq_of_cons_eq hminus
    exact absurd hc (by decide)
  · rw [if_pos hdrop, htake, hend]

theorem numeral_text (hc : isNumeralStart c = true)
    (h : (numeral (c :: rest)).result = .ok kind) :
    scan (numeral (c :: rest)).text = ⟨.ok kind, (numeral (c :: rest)).text, []⟩ := by
  unfold numeral at h ⊢
  split at h
  · exact (amount_eq_ok (.inr rfl) h).scan_eq
  · next hminus =>
    have hdigit : c.isDigit = true := by
      rw [isNumeralStart, Bool.or_eq_true, beq_iff_eq] at hc
      refine hc.resolve_left ?_
      rintro rfl
      exact hminus rest rfl
    split at h
    · next hdate =>
      obtain rfl := Except.ok.inj h
      rw [if_pos hdate]
      exact scan_date_text hdigit hdate
    · next hdate =>
      rw [if_neg hdate]
      exact (amount_eq_ok (.inl rfl) h).scan_eq

/-! ## Any token -/

/-- **The text of a token is that token by itself**, whatever came after it. -/
theorem scan_text (h : (scan cs).result = .ok kind) :
    scan (scan cs).text = ⟨.ok kind, (scan cs).text, []⟩ := by
  cases cs with
  | nil =>
    obtain rfl := Except.ok.inj h
    rfl
  | cons c rest =>
    by_cases hc : c ∈ heads
    · simp only [heads, List.mem_cons, List.not_mem_nil, or_false] at hc
      rcases hc with rfl | rfl | rfl | rfl | rfl | rfl | rfl | rfl | rfl | rfl
      iterate 6
        · obtain rfl := Except.ok.inj h
          rfl
      iterate 3
        · exact (operator_text (fun _ => rfl) rest).trans (congrArg (Lexeme.mk · _ []) h)
      · exact quoted_text h
    · rw [scan_of_not_mem_heads hc] at h ⊢
      split at h
      · next hw =>
        rw [if_pos hw, word_text hw, h]
      · next hw =>
        rw [if_neg hw]
        split at h
        · next hn =>
          rw [if_pos hn]
          exact numeral_text hn h
        · cases h

end ForgeBoard.Filter.Lexeme
