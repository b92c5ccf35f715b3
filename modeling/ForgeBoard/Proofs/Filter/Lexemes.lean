import ForgeBoard.Filter.Printer
import ForgeBoard.Proofs.Filter.Grammar
import ForgeBoard.Proofs.Filter.Scan
import ForgeBoard.Proofs.Text.Blank

/-!
# Scanning what was written

Each written form is cut off the front of a text as one token, provided that the text after it
does not go on with a character that the token would take (`Stops`).

* `Lexeme.scan_word_append`, `scan_number_append`, `scan_span_append`, `scan_date_append`,
  `scan_literal_append`: the written forms one by one. A literal needs no proviso.
* `Lexeme.ReadsString`: how a string is read, as rules for proofs by induction.
* `Scans cs ks rest`: wherever the text `cs` stands in a source, its scanning begins with tokens of
  the kinds `ks` and goes on with the text `rest`. Pieces are put together by `Scans.append`.
-/

namespace ForgeBoard.Filter

open Text

namespace Lexeme

variable {c : Char} {cs w ds rest : List Char}

/-- The text does not begin with a character that satisfies `p`. -/
def Stops (p : Char → Bool) (rest : List Char) : Prop :=
  ∀ c ∈ rest.head?, p c = false

theorem stops_cons {p : Char → Bool} (h : p c = false) : Stops p (c :: rest) := by
  intro d hd
  obtain rfl := Option.some.inj hd
  exact h

theorem takeWhile_append_of_stops {p : Char → Bool} (hw : ∀ d ∈ w, p d = true)
    (hrest : Stops p rest) : (w ++ rest).takeWhile p = w := by
  rw [List.takeWhile_append_of_pos hw]
  cases rest with
  | nil => exact List.append_nil w
  | cons d rest => rw [List.takeWhile_cons_of_neg (by simp [hrest d rfl]), List.append_nil]

theorem dropWhile_append_of_stops {p : Char → Bool} (hw : ∀ d ∈ w, p d = true)
    (hrest : Stops p rest) : (w ++ rest).dropWhile p = rest := by
  rw [List.dropWhile_append_of_pos hw]
  cases rest with
  | nil => rfl
  | cons d rest => exact List.dropWhile_cons_of_neg (by simp [hrest d rfl])

/-! ## Words -/

/-- The characters that are, or begin, a token of another sort than words and numerals. -/
def heads : List Char :=
  ['(', ')', '[', ']', ',', '=', '!', '>', '<', '"']

theorem scan_of_not_mem_heads (h : c ∉ heads) :
    scan (c :: rest) =
      if isWordStart c then word (c :: rest)
      else if isNumeralStart c then numeral (c :: rest)
      else ⟨.error (.unexpectedChar c), [], c :: rest⟩ := by
  simp only [heads, List.mem_cons, List.not_mem_nil, or_false, not_or] at h
  simp only [scan, h, if_false]
  rfl

theorem not_mem_heads_of_isWordStart (h : isWordStart c = true) : c ∉ heads := by
  intro hc
  have none : heads.any isWordStart = false := by decide
  exact absurd (List.any_eq_true.mpr ⟨c, hc, h⟩) (none ▸ nofun)

theorem scan_word (h : isWordStart c = true) : scan (c :: rest) = word (c :: rest) := by
  rw [scan_of_not_mem_heads (not_mem_heads_of_isWordStart h), if_pos h]

theorem isWordChar_of_isWordStart (h : isWordStart c = true) : isWordChar c = true := by
  simp only [isWordStart, isWordChar, isAlphanumeric, Bool.or_eq_true] at h ⊢
  exact h.imp_left Or.inl

theorem isWordChar_blankCodes : ∀ n ∈ blankCodes, isWordChar (Char.ofNat n) = false := by
  decide +kernel

theorem isWordChar_of_isBlank (h : isBlank c = true) : isWordChar c = false :=
  eq_false_of_isBlank isWordChar_blankCodes h

theorem isBlank_of_isWordStart (h : isWordStart c = true) : isBlank c = false :=
  isBlank_eq_false isWordChar_blankCodes (isWordChar_of_isWordStart h)

/-- A word before a character that does not go on with it. -/
theorem scan_word_append (hc : isWordStart c = true) (hw : ∀ d ∈ w, isWordChar d = true)
    (hrest : Stops isWordChar rest) :
    scan (c :: w ++ rest) = ⟨.ok (wordKind (c :: w)), c :: w, rest⟩ := by
  have hcw : ∀ d ∈ c :: w, isWordChar d = true :=
    List.forall_mem_cons.mpr ⟨isWordChar_of_isWordStart hc, hw⟩
  rw [List.cons_append, scan_word hc, ← List.cons_append]
  unfold word
  rw [takeWhile_append_of_stops hcw hrest, dropWhile_append_of_stops hcw hrest]

/-! ## Numbers, time spans and dates -/

theorem isNumeralStart_of_isDigit (h : c.isDigit = true) : isNumeralStart c = true := by
  rw [isNumeralStart, h, Bool.or_true]

theorem isWordStart_of_isNumeralStart (h : isNumeralStart c = true) : isWordStart c = false := by
  rw [isNumeralStart, Bool.or_eq_true, beq_iff_eq] at h
  rcases h with rfl | h
  · decide
  · have hdigits : ∀ d, d < 10 → isWordStart (Nat.digitChar d) = false := by decide
    rw [← digitChar_value h]
    exact hdigits _ (digitValue_lt h)

theorem scan_numeral (h : isNumeralStart c = true) : scan (c :: rest) = numeral (c :: rest) := by
  have hc : c ∉ heads := by
    intro hc
    have none : heads.any isNumeralStart = false := by decide
    exact absurd (List.any_eq_true.mpr ⟨c, hc, h⟩) (none ▸ nofun)
  rw [scan_of_not_mem_heads hc, isWordStart_of_isNumeralStart h, if_neg nofun, if_pos h]

theorem amount_number (sign : List Char) (hne : ds ≠ []) (hds : AllDigits ds)
    (hd : Stops Char.isDigit rest) (hu : Stops isUnitLetter rest) :
    amount sign (ds ++ rest) = ⟨.ok (.number (sign ++ ds)), sign ++ ds, rest⟩ := by
  unfold amount
  rw [takeWhile_append_of_stops hds hd, dropWhile_append_of_stops hds hd]
  dsimp only
  rw [if_neg (by simpa using hne)]
  cases rest with
  | nil => rfl
  | cons d rest =>
    dsimp only
    rw [hu d rfl, if_neg nofun]

theorem unitLetter_not_isDigit (unit : TimeUnit) : unit.letter.isDigit = false := by
  cases unit <;> rfl

theorem amount_span (sign : List Char) (hne : ds ≠ []) (hds : AllDigits ds) (unit : TimeUnit) :
    amount sign (ds ++ unit.letter :: rest) =
      ⟨.ok (.span (sign ++ ds ++ [unit.letter])), sign ++ ds ++ [unit.letter], rest⟩ := by
  have hd : Stops Char.isDigit (unit.letter :: rest) := stops_cons (unitLetter_not_isDigit unit)
  have hu : isUnitLetter unit.letter = true := by cases unit <;> rfl
  unfold amount
  rw [takeWhile_append_of_stops hds hd, dropWhile_append_of_stops hds hd]
  dsimp only
  rw [if_neg (by simpa using hne), hu, if_pos rfl]

/-- Digits that no hyphen follows are the body of a number or a time span. -/
theorem numeral_digits (hne : ds ≠ []) (hds : AllDigits ds) (hd : Stops Char.isDigit rest)
    (hm : Stops (· == '-') rest) : numeral (ds ++ rest) = amount [] (ds ++ rest) := by
  have hhead : (ds ++ rest).head? ≠ some '-' := by
    rw [List.head?_append_of_ne_nil _ hne]
    exact hds.head_ne_minus
  unfold numeral
  split
  · next body h => rw [h] at hhead; exact absurd rfl hhead
  · rw [dropWhile_append_of_stops hds hd, if_neg]
    intro h
    exact absurd (hm '-' h) (by decide)

/-- A number before a character that neither goes on with it nor makes it a time span or date. -/
theorem scan_number_append {n : Int} (h : Numeral cs n) (hd : Stops Char.isDigit rest)
    (hm : Stops (· == '-') rest) (hu : Stops isUnitLetter rest) :
    scan (cs ++ rest) = ⟨.ok (.number cs), cs, rest⟩ := by
  cases h with
  | @plain ds hne hds =>
    obtain ⟨d, es, rfl⟩ := List.exists_cons_of_ne_nil hne
    have hstart := isNumeralStart_of_isDigit (hds d List.mem_cons_self)
    rw [List.cons_append, scan_numeral hstart, ← List.cons_append, numeral_digits hne hds hd hm]
    exact amount_number [] hne hds hd hu
  | negative hne hds =>
    rw [List.cons_append, scan_numeral (by decide)]
    exact amount_number ['-'] hne hds hd hu

/-- A time span, whatever follows. -/
theorem scan_span_append {n : Int} (h : Numeral cs n) (unit : TimeUnit) :
    scan (cs ++ unit.letter :: rest) =
      ⟨.ok (.span (cs ++ [unit.letter])), cs ++ [unit.letter], rest⟩ := by
  cases h with
  | plain hne hds =>
    have hd : Stops Char.isDigit (unit.letter :: rest) := stops_cons (unitLetter_not_isDigit unit)
    have hm : Stops (· == '-') (unit.letter :: rest) := stops_cons (by cases unit <;> rfl)
    obtain ⟨d, es, rfl⟩ := List.exists_cons_of_ne_nil hne
    have hstart := isNumeralStart_of_isDigit (hds d List.mem_cons_self)
    rw [List.cons_append, scan_numeral hstart, ← List.cons_append, numeral_digits hne hds hd hm]
    exact amount_span [] hne hds unit
  | negative hne hds =>
    rw [List.cons_append, scan_numeral (by decide)]
    exact amount_span ['-'] hne hds unit

theorem isDateChar_of_isDigit (h : c.isDigit = true) : isDateChar c = true := by
  rw [isDateChar, h, Bool.true_or]

/-- A date before a character that does not go on with it. -/
theorem scan_date_append {d : Date} (h : d.HasFourDigitYear) (hrest : Stops isDateChar rest) :
    scan (d.chars ++ rest) = ⟨.ok (.date d.chars), d.chars, rest⟩ := by
  obtain ⟨y1, y2, y3, y4, m1, m2, d1, d2, hchars, hy, hm, hd, -⟩ := Date.exists_chars h
  have hall : ∀ c ∈ d.chars, isDateChar c = true := by
    intro c hc
    rw [hchars] at hc
    have hparts : c ∈ [y1, y2, y3, y4] ++ '-' :: ([m1, m2] ++ '-' :: [d1, d2]) := hc
    rcases List.mem_append.mp hparts with hc | hc
    · exact isDateChar_of_isDigit (hy c hc)
    rcases List.mem_cons.mp hc with rfl | hc
    · decide
    rcases List.mem_append.mp hc with hc | hc
    · exact isDateChar_of_isDigit (hm c hc)
    rcases List.mem_cons.mp hc with rfl | hc
    · decide
    · exact isDateChar_of_isDigit (hd c hc)
  have hstart := isNumeralStart_of_isDigit (hy y1 List.mem_cons_self)
  have hmid : (d.chars ++ rest).dropWhile Char.isDigit =
      '-' :: m1 :: m2 :: '-' :: d1 :: d2 :: rest := by
    rw [hchars]
    exact dropWhile_append_of_stops (w := [y1, y2, y3, y4]) hy (stops_cons (by decide))
  rw [hchars, List.cons_append, scan_numeral hstart, ← List.cons_append, ← hchars]
  unfold numeral
  split
  · next body hb =>
    rw [hchars] at hb
    obtain rfl := List.head_eq_of_cons_eq hb
    exact absurd (hy '-' List.mem_cons_self) (by decide)
  · rw [hmid, List.head?_cons, if_pos rfl, takeWhile_append_of_stops hall hrest,
      dropWhile_append_of_stops hall hrest]

/-! ## String literals -/

theorem stringBody_of_ne (h1 : c ≠ '"') (h2 : c ≠ '\\') :
    stringBody (c :: rest) = (stringBody rest).map fun (value, n) => (c :: value, n + 1) := by
  rw [stringBody]
  · exact h1
  · rintro rfl; exact absurd rfl h2
  · rintro _ _ rfl; exact absurd rfl h2

theorem stringBody_escape (h : c = '"' ∨ c = '\\') :
    stringBody ('\\' :: c :: rest) =
      (stringBody rest).map fun (value, n) => (c :: value, n + 2) := by
  rw [stringBody]
  simp only [if_pos h]

/-- How a string is read up to its closing quote. A backslash and the character behind it are taken
as a whole. -/
inductive ReadsString : List Char → List Char → Nat → Prop
  | close (rest : List Char) : ReadsString ('"' :: rest) [] 1
  | pair {rest value : List Char} {n : Nat} (c : Char) (h : ReadsString rest value n) :
      ReadsString ('\\' :: c :: rest)
        (if c = '"' ∨ c = '\\' then c :: value else '\\' :: c :: value) (n + 2)
  | plain {c : Char} {rest value : List Char} {n : Nat} (h1 : c ≠ '"') (h2 : c ≠ '\\')
      (h : ReadsString rest value n) : ReadsString (c :: rest) (c :: value) (n + 1)

theorem stringBody_eq_some_iff {value : List Char} {n : Nat} :
    stringBody cs = some (value, n) ↔ ReadsString cs value n := by
  constructor
  · intro h
    fun_induction stringBody cs generalizing value n with
    | case1 => exact absurd h nofun
    | case2 rest =>
      obtain ⟨rfl, rfl⟩ := Prod.mk.inj (Option.some.inj h)
      exact .close rest
    | case3 => exact absurd h nofun
    | case4 c rest ih =>
      obtain ⟨⟨value', m⟩, hbody, hpair⟩ := Option.map_eq_some_iff.mp h
      obtain ⟨rfl, rfl⟩ := Prod.mk.inj hpair
      exact .pair c (ih hbody)
    | case5 c rest hquote hlast hescape ih =>
      obtain ⟨⟨value', m⟩, hbody, hpair⟩ := Option.map_eq_some_iff.mp h
      obtain ⟨rfl, rfl⟩ := Prod.mk.inj hpair
      have hc : c ≠ '\\' := by
        rintro rfl
        cases rest with
        | nil => exact hlast rfl rfl
        | cons d rest => exact hescape d rest rfl rfl
      exact .plain hquote hc (ih hbody)
  · intro h
    induction h with
    | close rest => rfl
    | pair c _ ih =>
      rw [stringBody, ih]
      rfl
    | plain h1 h2 _ ih =>
      rw [stringBody_of_ne h1 h2, ih]
      rfl

/-- What is written between the quotes is read back, up to the closing quote. -/
theorem stringBody_literalChars (cs rest : List Char) :
    stringBody ((literalChars cs).tail ++ rest) = some (cs, (literalChars cs).tail.length) := by
  induction cs with
  | nil => rfl
  | cons c cs ih =>
    simp only [literalChars, List.cons_append, List.tail_cons, List.flatMap_cons,
      List.append_assoc] at ih ⊢
    by_cases hc : c = '"' ∨ c = '\\'
    · rw [if_pos hc, List.cons_append, List.singleton_append, stringBody_escape hc, ih]
      rfl
    · obtain ⟨h1, h2⟩ := not_or.mp hc
      rw [if_neg hc, List.singleton_append, stringBody_of_ne h1 h2, ih]
      rfl

/-- A string literal, whatever follows. -/
theorem scan_literal_append (cs rest : List Char) :
    scan (literalChars cs ++ rest) = ⟨.ok (.string cs), literalChars cs, rest⟩ := by
  have hquoted : scan (literalChars cs ++ rest) = quoted (literalChars cs ++ rest) := rfl
  have hlen : (literalChars cs).tail.length + 1 = (literalChars cs).length := rfl
  have htail : (literalChars cs ++ rest).tail = (literalChars cs).tail ++ rest := rfl
  rw [hquoted]
  unfold quoted
  rw [htail, stringBody_literalChars]
  dsimp only
  rw [hlen, List.take_left, List.drop_left]

end Lexeme

/-! ## Pieces of a source -/

theorem Cursor.next_of_scan {offset : Nat} {c : Char} {cs w rest : List Char} {k : TokenKind}
    (hc : isBlank c = false) (h : Lexeme.scan (c :: cs) = ⟨.ok k, w, rest⟩) :
    next ⟨offset, c :: cs⟩ = (.ok ⟨k, w, offset⟩, ⟨offset + byteLength w, rest⟩) := by
  have hskip : skipBlank ⟨offset, c :: cs⟩ = ⟨offset, c :: cs⟩ := by
    simp only [skipBlank, List.takeWhile_cons, List.dropWhile_cons, hc]
    rfl
  unfold next
  rw [hskip]
  dsimp only
  rw [h]

theorem Cursor.next_blank {c : Char} (hc : isBlank c = true) (offset : Nat) (cs : List Char) :
    next ⟨offset, c :: cs⟩ = next ⟨offset + c.utf8Size, cs⟩ := by
  have hskip : skipBlank ⟨offset, c :: cs⟩ = skipBlank ⟨offset + c.utf8Size, cs⟩ := by
    simp only [skipBlank, List.takeWhile_cons_of_pos hc, List.dropWhile_cons_of_pos hc, byteLength,
      ← Nat.add_assoc]
  unfold next
  rw [hskip]

/-- Wherever the text `cs` stands in a source, its scanning begins with tokens of the kinds `ks`
and goes on with the text `rest`. -/
def Scans (cs : List Char) (ks : List TokenKind) (rest : List Char) : Prop :=
  ∀ offset, ∃ ts offset', ts.map Token.kind = ks ∧
    Tokens.ofCursor ⟨offset, cs⟩ = .prepend ts (.ofCursor ⟨offset', rest⟩)

namespace Scans

variable {cs mid rest : List Char} {ks ls : List TokenKind} {k : TokenKind}

theorem refl : Scans cs [] cs :=
  fun offset => ⟨[], offset, rfl, rfl⟩

theorem append (h : Scans cs ks mid) (h' : Scans mid ls rest) : Scans cs (ks ++ ls) rest := by
  intro offset
  obtain ⟨ts, o, hts, ets⟩ := h offset
  obtain ⟨us, o', hus, eus⟩ := h' o
  refine ⟨ts ++ us, o', ?_, ?_⟩
  · rw [List.map_append, hts, hus]
  · rw [ets, eus, Tokens.prepend_append]

theorem cons (h : Scans cs [k] mid) (h' : Scans mid ls rest) : Scans cs (k :: ls) rest :=
  h.append h'

theorem blank {c : Char} (hc : isBlank c = true) (h : Scans cs ks rest) :
    Scans (c :: cs) ks rest := by
  intro offset
  obtain ⟨ts, o, hts, ets⟩ := h (offset + c.utf8Size)
  refine ⟨ts, o, hts, ?_⟩
  rw [← ets, Tokens.ofCursor_eq, Tokens.ofCursor_eq ⟨offset + c.utf8Size, cs⟩,
    Cursor.next_blank hc]

theorem blanks {blanks : List Char} (h : Scans cs ks rest)
    (hblanks : ∀ c ∈ blanks, isBlank c = true) : Scans (blanks ++ cs) ks rest := by
  induction blanks with
  | nil => exact h
  | cons c blanks ih =>
    obtain ⟨hc, hblanks⟩ := List.forall_mem_cons.mp hblanks
    exact (ih hblanks).blank hc

theorem space (h : Scans cs ks rest) : Scans (' ' :: cs) ks rest :=
  h.blank rfl

/-- One lexeme that begins with no blank. -/
theorem lexeme {w : List Char} {c : Char} (h : Lexeme.scan (c :: cs) = ⟨.ok k, w, rest⟩)
    (hc : isBlank c = false) (hk : k ≠ .eof) : Scans (c :: cs) [k] rest := by
  intro offset
  refine ⟨[⟨k, w, offset⟩], offset + byteLength w, rfl, ?_⟩
  rw [Tokens.ofCursor_eq, Cursor.next_of_scan hc h]
  dsimp only
  rw [if_neg hk]
  rfl

/-- A text whose scanning goes on to its end has these tokens and no others. -/
theorem ofSource {source : String} (h : Scans source.toList ks []) :
    ∃ ts offset, ts.map Token.kind = ks ∧
      Tokens.ofSource source = .prepend ts (.finish offset) := by
  obtain ⟨ts, offset, hts, ets⟩ := h 0
  exact ⟨ts, offset, hts, ets⟩

end Scans

end ForgeBoard.Filter
