import ForgeBoard.Filter.Lexer

/-!
# Scanning a source without fuel

`Tokens.ofSource` walks a source with as many steps as it has characters. Every token takes a
character at least, so the steps never run out, and `Tokens.ofCursor` can be opened by its rule.

* `Lexeme.scan` cuts its text in two: the text of the lexeme and the rest (`text_append_rest`).
  A token that is not the end of the input has a text (`text_ne_nil`).
* `Tokens.ofCursor c` is what is scanned from the place `c` on; `ofCursor_eq` is its rule.
* `Tokens.prepend ts rest` is a stream that begins with the tokens `ts`.

Results:
* `walk_eq_ofCursor`: steps beyond the number of characters change nothing.
* `tokenize_eq_ok_iff`: a source has tokens iff its stream shows them up to the end.
-/

namespace ForgeBoard.Filter

open Text

/-! ## One lexeme -/

namespace Lexeme

/-- The kinds of the marks of one character. -/
def marks : List TokenKind :=
  [.openParen, .closeParen, .openBracket, .closeBracket, .comma, .eq]

/-- The kinds of the marks that an equals sign turns into another one. -/
def operators : List (TokenKind × TokenKind) :=
  [(.bang, .ne), (.gt, .ge), (.lt, .le)]

/-- A character that begins a word. -/
def isWordStart (c : Char) : Bool :=
  isAlphabetic c || c == '_'

/-- A character that begins a number, a date or a time span. -/
def isNumeralStart (c : Char) : Bool :=
  c == '-' || c.isDigit

/-- The lexemes that the character `c` can begin before `rest`. -/
inductive Begins (c : Char) (rest : List Char) : Lexeme → Prop where
  | mark {kind : TokenKind} : kind ∈ marks → Begins c rest (.mark kind c rest)
  | operator {short long : TokenKind} :
    (short, long) ∈ operators → Begins c rest (.operator short long c rest)
  | quoted : c = '"' → Begins c rest (.quoted (c :: rest))
  | word : isWordStart c = true → Begins c rest (.word (c :: rest))
  | numeral : isNumeralStart c = true → Begins c rest (.numeral (c :: rest))
  | unexpected : Begins c rest ⟨.error (.unexpectedChar c), [], c :: rest⟩

/-- **Every lexeme begins in one of these ways.** -/
theorem begins_scan (c : Char) (rest : List Char) : Begins c rest (scan (c :: rest)) := by
  simp only [scan]
  iterate 6 refine iteInduction (fun _ => .mark (by decide)) fun _ => ?_
  iterate 3 refine iteInduction (fun _ => .operator (by decide)) fun _ => ?_
  refine iteInduction .quoted fun _ => ?_
  refine iteInduction .word fun _ => ?_
  exact iteInduction .numeral fun _ => .unexpected

theorem operator_text_append_rest (short long : TokenKind) (c : Char) (cs : List Char) :
    (operator short long c cs).text ++ (operator short long c cs).rest = c :: cs := by
  unfold operator
  split <;> rfl

theorem quoted_text_append_rest (cs : List Char) : (quoted cs).text ++ (quoted cs).rest = cs := by
  unfold quoted
  split
  · exact List.take_append_drop _ _
  · exact List.append_nil _

theorem amount_text_append_rest (sign body : List Char) :
    (amount sign body).text ++ (amount sign body).rest = sign ++ body := by
  have whole := List.takeWhile_append_dropWhile (p := Char.isDigit) (l := body)
  unfold amount
  dsimp only
  split
  · rfl
  · split
    · next h =>
      rw [h, List.append_nil] at whole
      rw [List.append_nil, whole]
    · next c rest h =>
      rw [h] at whole
      split
      · show sign ++ body.takeWhile Char.isDigit ++ [c] ++ rest = sign ++ body
        rw [List.append_assoc, List.append_assoc, List.singleton_append, whole]
      · show sign ++ body.takeWhile Char.isDigit ++ c :: rest = sign ++ body
        rw [List.append_assoc, whole]

theorem numeral_text_append_rest (cs : List Char) :
    (numeral cs).text ++ (numeral cs).rest = cs := by
  unfold numeral
  split
  · exact amount_text_append_rest _ _
  · split
    · exact List.takeWhile_append_dropWhile
    · exact amount_text_append_rest _ _

/-- **A lexeme and what is left make up the text.** -/
theorem text_append_rest (cs : List Char) : (scan cs).text ++ (scan cs).rest = cs := by
  cases cs with
  | nil => rfl
  | cons c rest =>
    have h := begins_scan c rest
    generalize scan (c :: rest) = l at h ⊢
    cases h with
    | mark => rfl
    | operator => exact operator_text_append_rest _ _ _ _
    | quoted => exact quoted_text_append_rest _
    | word => exact List.takeWhile_append_dropWhile
    | numeral => exact numeral_text_append_rest _
    | unexpected => rfl

theorem amount_text_ne_nil {sign body : List Char} {kind : TokenKind}
    (h : (amount sign body).result = .ok kind) : (amount sign body).text ≠ [] := by
  unfold amount at h ⊢
  dsimp only at h ⊢
  split
  · next he =>
    rw [if_pos he] at h
    exact absurd h (by simp)
  · next he =>
    have hds : body.takeWhile Char.isDigit ≠ [] := by simpa using he
    split
    · exact List.append_ne_nil_of_right_ne_nil _ hds
    · split
      · exact List.append_ne_nil_of_right_ne_nil _ (List.cons_ne_nil _ _)
      · exact List.append_ne_nil_of_right_ne_nil _ hds

theorem numeral_text_ne_nil {c : Char} {rest : List Char} {kind : TokenKind}
    (hc : isNumeralStart c = true) (h : (numeral (c :: rest)).result = .ok kind) :
    (numeral (c :: rest)).text ≠ [] := by
  unfold numeral at h ⊢
  split at h
  · exact amount_text_ne_nil h
  · split at h
    · next hd =>
      have hdate : isDateChar c = true := by
        simp only [isNumeralStart, isDateChar, Bool.or_eq_true] at hc ⊢
        exact hc.symm
      rw [if_pos hd]
      show (c :: rest).takeWhile isDateChar ≠ []
      rw [List.takeWhile_cons_of_pos hdate]
      exact List.cons_ne_nil _ _
    · next hd =>
      rw [if_neg hd]
      exact amount_text_ne_nil h

/-- **A token that is not the end of the input has a text.** -/
theorem text_ne_nil {cs : List Char} {kind : TokenKind} (h : (scan cs).result = .ok kind)
    (hk : kind ≠ .eof) : (scan cs).text ≠ [] := by
  cases cs with
  | nil => exact absurd (Except.ok.inj h).symm hk
  | cons c rest =>
    have hb := begins_scan c rest
    generalize scan (c :: rest) = l at h hb ⊢
    cases hb with
    | mark => exact List.cons_ne_nil _ _
    | operator =>
      unfold operator
      split <;> exact List.cons_ne_nil _ _
    | quoted =>
      unfold quoted
      split <;> exact List.cons_ne_nil _ _
    | word hc =>
      have hword : isWordChar c = true := by
        simp only [isWordStart, isWordChar, isAlphanumeric, Bool.or_eq_true] at hc ⊢
        exact hc.imp_left Or.inl
      show (c :: rest).takeWhile isWordChar ≠ []
      rw [List.takeWhile_cons_of_pos hword]
      exact List.cons_ne_nil _ _
    | numeral hc => exact numeral_text_ne_nil hc h
    | unexpected => exact absurd h (by simp)

theorem rest_length_lt {cs : List Char} {kind : TokenKind} (h : (scan cs).result = .ok kind)
    (hk : kind ≠ .eof) : (scan cs).rest.length < cs.length := by
  have hlen := congrArg List.length (text_append_rest cs)
  have hpos := List.length_pos_iff.mpr (text_ne_nil h hk)
  rw [List.length_append] at hlen
  omega

theorem wordKind_ne_eof (w : List Char) : wordKind w ≠ .eof := by
  unfold wordKind
  dsimp only
  repeat' split
  all_goals exact nofun

theorem amount_ne_eof (sign body : List Char) : (amount sign body).result ≠ .ok .eof := by
  unfold amount
  dsimp only
  split
  · rintro ⟨⟩
  split
  · rintro ⟨⟩
  split <;> rintro ⟨⟩

/-- Only the empty text is the end of the input. -/
theorem eq_nil_of_scan_eof {cs : List Char} (h : (scan cs).result = .ok .eof) : cs = [] := by
  cases cs with
  | nil => rfl
  | cons c rest =>
    have hb := begins_scan c rest
    generalize scan (c :: rest) = l at h hb
    exfalso
    cases hb with
    | mark hk =>
      obtain rfl := Except.ok.inj h
      exact absurd hk (by decide)
    | operator hk =>
      unfold operator at h
      have none : ∀ k ∈ operators, k.1 ≠ .eof ∧ k.2 ≠ .eof := by decide
      split at h
      · exact (none _ hk).2 (Except.ok.inj h)
      · exact (none _ hk).1 (Except.ok.inj h)
    | quoted =>
      unfold quoted at h
      split at h
      · exact absurd (Except.ok.inj h) nofun
      · exact absurd h nofun
    | word => exact wordKind_ne_eof _ (Except.ok.inj h)
    | numeral =>
      unfold numeral at h
      split at h
      · exact amount_ne_eof _ _ h
      split at h
      · exact absurd (Except.ok.inj h) nofun
      · exact amount_ne_eof _ _ h
    | unexpected => exact absurd h nofun

end Lexeme

/-! ## One step -/

namespace Cursor

theorem skipBlank_rest_length_le (c : Cursor) : c.skipBlank.rest.length ≤ c.rest.length :=
  (List.dropWhile_sublist _).length_le

/-- A step that gives a token cuts its lexeme off. -/
theorem next_eq_ok {c after : Cursor} {t : Token} (h : c.next = (.ok t, after)) :
    (Lexeme.scan c.skipBlank.rest).result = .ok t.kind ∧
      t.text = (Lexeme.scan c.skipBlank.rest).text ∧
      after.rest = (Lexeme.scan c.skipBlank.rest).rest := by
  unfold next at h
  dsimp only at h
  split at h
  · next kind hk =>
    obtain ⟨ht, ha⟩ := Prod.mk.inj h
    obtain rfl := Except.ok.inj ht
    exact ⟨hk, rfl, ha ▸ rfl⟩
  · exact absurd (Prod.mk.inj h).1 (by simp)
  · exact absurd (Prod.mk.inj h).1 (by simp)

/-- A token that is not the end of the input takes a character. -/
theorem rest_length_lt_of_next {c after : Cursor} {t : Token} (h : c.next = (.ok t, after))
    (ht : t.kind ≠ .eof) : after.rest.length < c.rest.length := by
  obtain ⟨hk, -, hrest⟩ := next_eq_ok h
  rw [hrest]
  exact Nat.lt_of_lt_of_le (Lexeme.rest_length_lt hk ht) c.skipBlank_rest_length_le

end Cursor

/-! ## Streams -/

namespace Tokens

/-- The tokens from a place on. -/
def ofCursor (c : Cursor) : Tokens :=
  walk (c.rest.length + 1) c

/-- The rule of a walk with a step to spare. -/
theorem walk_succ (fuel : Nat) (c : Cursor) :
    walk (fuel + 1) c =
      match c.next with
      | (.error e, _) => .broken e
      | (.ok t, after) => if t.kind = .eof then .finish t.start else .token t (walk fuel after) :=
  rfl

theorem walk_congr {n m : Nat} {c : Cursor} (hn : c.rest.length < n) (hm : c.rest.length < m) :
    walk n c = walk m c := by
  induction n generalizing m c with
  | zero => exact absurd hn (Nat.not_lt_zero _)
  | succ n ih =>
    obtain ⟨m, rfl⟩ := Nat.exists_eq_add_one_of_ne_zero (Nat.ne_zero_of_lt hm)
    rw [walk_succ, walk_succ]
    split
    · rfl
    · next t after h =>
      split
      · rfl
      · next ht =>
        have hlt := Cursor.rest_length_lt_of_next h ht
        rw [ih (m := m) (by omega) (by omega)]

/-- **Steps beyond the number of characters change nothing.** -/
theorem walk_eq_ofCursor {n : Nat} {c : Cursor} (h : c.rest.length < n) : walk n c = ofCursor c :=
  walk_congr h (Nat.lt_succ_self _)

/-- **The rule of scanning**, without a number of steps. -/
theorem ofCursor_eq (c : Cursor) :
    ofCursor c =
      match c.next with
      | (.error e, _) => .broken e
      | (.ok t, after) => if t.kind = .eof then .finish t.start else .token t (ofCursor after) := by
  unfold ofCursor
  rw [walk_succ]
  split
  · rfl
  · next t after h =>
    split
    · rfl
    · next ht => rw [walk_eq_ofCursor (Cursor.rest_length_lt_of_next h ht), ofCursor]

theorem ofSource_eq (source : String) : ofSource source = ofCursor (Cursor.start source) :=
  rfl

/-- A stream that begins with a token comes of a step that gives it. -/
theorem next_of_token {c : Cursor} {t : Token} {rest : Tokens} (h : ofCursor c = .token t rest) :
    ∃ after, c.next = (.ok t, after) ∧ t.kind ≠ .eof ∧ ofCursor after = rest := by
  rw [ofCursor_eq] at h
  split at h
  · exact absurd h nofun
  · next u after hnext =>
    split at h
    · exact absurd h nofun
    · next hu =>
      obtain ⟨rfl, hrest⟩ := Tokens.token.inj h
      exact ⟨after, hnext, hu, hrest⟩

/-- A stream that is at its end comes of a step that gives the end of the input. -/
theorem next_of_finish {c : Cursor} {offset : Nat} (h : ofCursor c = .finish offset) :
    ∃ t after, c.next = (.ok t, after) ∧ t.kind = .eof ∧ t.start = offset := by
  rw [ofCursor_eq] at h
  split at h
  · exact absurd h nofun
  · next t after hnext =>
    split at h
    · next ht => exact ⟨t, after, hnext, ht, Tokens.finish.inj h⟩
    · exact absurd h nofun

/-- A broken stream comes of a step that gives its error. -/
theorem next_of_broken {c : Cursor} {e : LexError} (h : ofCursor c = .broken e) :
    ∃ after, c.next = (.error e, after) := by
  rw [ofCursor_eq] at h
  split at h
  · next e' after hnext => exact ⟨after, hnext.trans (Tokens.broken.inj h ▸ rfl)⟩
  · split at h <;> exact absurd h nofun

/-- The stream that begins with the given tokens. -/
def prepend : List Token → Tokens → Tokens
  | [], rest => rest
  | t :: ts, rest => .token t (prepend ts rest)

@[simp]
theorem prepend_nil (rest : Tokens) : prepend [] rest = rest :=
  rfl

@[simp]
theorem prepend_cons (t : Token) (ts : List Token) (rest : Tokens) :
    prepend (t :: ts) rest = .token t (prepend ts rest) :=
  rfl

@[simp]
theorem prepend_append (ts us : List Token) (rest : Tokens) :
    prepend (ts ++ us) rest = prepend ts (prepend us rest) := by
  induction ts with
  | nil => rfl
  | cons t ts ih => rw [List.cons_append, prepend_cons, prepend_cons, ih]

@[simp]
theorem length_prepend (ts : List Token) (rest : Tokens) :
    (prepend ts rest).length = ts.length + rest.length := by
  induction ts with
  | nil => rw [prepend_nil, List.length_nil, Nat.zero_add]
  | cons t ts ih => rw [prepend_cons, length, ih, List.length_cons, Nat.add_right_comm]

/-- No token of a stream is the end of the input. -/
theorem kind_ne_eof_of_walk {n : Nat} {c : Cursor} {used : List Token} {t : Token} {rest : Tokens}
    (h : walk n c = prepend used (.token t rest)) : t.kind ≠ .eof := by
  induction n generalizing c used with
  | zero => cases used <;> exact absurd h nofun
  | succ n ih =>
    rw [walk_succ] at h
    split at h
    · cases used <;> exact absurd h nofun
    · next u after _ =>
      split at h
      · cases used <;> exact absurd h nofun
      · next hu =>
        cases used with
        | nil =>
          obtain ⟨rfl, -⟩ := Tokens.token.inj h
          exact hu
        | cons v used => exact ih (Tokens.token.inj h).2

/-- The kind of the token in front. -/
def front : Tokens → TokenKind
  | token t _ => t.kind
  | finish _ => .eof
  | broken _ => .eof

/-- The stream does not begin with an error. -/
def Unbroken : Tokens → Prop
  | broken _ => False
  | _ => True

theorem unbroken_prepend {used : List Token} {rest : Tokens} (h : rest.Unbroken) :
    (prepend used rest).Unbroken := by
  cases used with
  | nil => exact h
  | cons t used => trivial

/-- A stream that ends has its tokens in front of the end. -/
theorem toList_eq_ok_iff {s : Tokens} {ts : List Token} :
    s.toList = .ok ts ↔
      ∃ us offset, s = prepend us (.finish offset) ∧ ts = us ++ [⟨.eof, [], offset⟩] := by
  constructor
  · intro h
    induction s generalizing ts with
    | token t rest ih =>
      unfold toList at h
      cases hr : rest.toList with
      | error e => rw [hr] at h; exact absurd h (by simp [Except.map])
      | ok vs =>
        rw [hr] at h
        obtain rfl := Except.ok.inj h
        obtain ⟨us, offset, rfl, rfl⟩ := ih hr
        exact ⟨t :: us, offset, rfl, rfl⟩
    | finish offset => exact ⟨[], offset, rfl, (Except.ok.inj h).symm⟩
    | broken e => exact absurd h (by simp [toList])
  · rintro ⟨us, offset, rfl, rfl⟩
    induction us with
    | nil => rfl
    | cons t us ih =>
      rw [prepend_cons, toList, ih]
      rfl

end Tokens

/-- **A source has the tokens that its stream shows up to the end.** -/
theorem tokenize_eq_ok_iff {source : String} {ts : List Token} :
    tokenize source = .ok ts ↔
      ∃ us offset, Tokens.ofSource source = .prepend us (.finish offset) ∧
        ts = us ++ [⟨.eof, [], offset⟩] :=
  Tokens.toList_eq_ok_iff

end ForgeBoard.Filter
