import ForgeBoard.Proofs.Filter.Lexemes
import ForgeBoard.Proofs.Filter.Parse.Complete
import ForgeBoard.Proofs.Text.Blank
import Mathlib.Data.List.TakeWhile

/-!
# Written filters are read back

A tree that the grammar can produce is read back from its written form. The types admit more:
`Expr.WellFormed` says which trees those are.

* `IsIdentifier`: a field is a text that the lexer scans whole, as one identifier.
* `scans_value`, `scans_items`, `scans_predicate`, `scans_expr`: the written form scans to a phrase
  of what was written, before any text that `Closes` it.

Result: `parse_canonical`.
-/

namespace ForgeBoard.Filter

open Text

/-- The lexer scans the text whole, as one identifier. -/
def IsIdentifier (s : String) : Prop :=
  tokenize s = .ok [⟨.ident s.toList, s.toList, 0⟩, ⟨.eof, [], byteLength s.toList⟩]

instance (s : String) : Decidable (IsIdentifier s) :=
  inferInstanceAs (Decidable (_ = _))

/-- A value that has a written form: `last` is the only call, and a date has a year of four
digits. -/
def Value.WellFormed : Value → Prop
  | date d => d.HasFourDigitYear
  | call f => f.name = "last"
  | _ => True

instance : DecidablePred Value.WellFormed
  | .text _ | .bool _ | .number _ | .span _ => isTrue trivial
  | .date d => inferInstanceAs (Decidable (0 ≤ d.year ∧ d.year ≤ 9999))
  | .call f => inferInstanceAs (Decidable (f.name = "last"))

/-- The operands that the grammar allows after an operator. -/
def PredicateOp.Takes : PredicateOp → Operand → Prop
  | compare _, .single _ => True
  | member _, .list _ => True
  | member _, .single (.call _) => True
  | _, _ => False

instance : ∀ (op : PredicateOp) (operand : Operand), Decidable (op.Takes operand)
  | .compare _, .single _ | .member _, .list _ | .member _, .single (.call _) => isTrue trivial
  | .compare _, .list _ => isFalse id
  | .member _, .single (.text _) | .member _, .single (.bool _) | .member _, .single (.number _)
  | .member _, .single (.date _) | .member _, .single (.span _) => isFalse id

/-- A condition that the grammar can produce. -/
structure Predicate.WellFormed (p : Predicate) : Prop where
  field : IsIdentifier p.field
  shape : p.op.Takes p.operand
  values : ∀ v ∈ p.values, v.WellFormed

instance : DecidablePred Predicate.WellFormed := fun p =>
  decidable_of_iff (IsIdentifier p.field ∧ p.op.Takes p.operand ∧ ∀ v ∈ p.values, v.WellFormed)
    ⟨fun ⟨hf, hs, hv⟩ => ⟨hf, hs, hv⟩, fun ⟨hf, hs, hv⟩ => ⟨hf, hs, hv⟩⟩

/-- A tree that the grammar can produce: every node below `not` negates. -/
def Expr.WellFormed : Expr → Prop
  | binary _ left right => left.WellFormed ∧ right.WellFormed
  | unary negate inner => negate = true ∧ inner.WellFormed
  | predicate p => p.WellFormed

instance Expr.decidableWellFormed : DecidablePred Expr.WellFormed
  | binary _ left right =>
    have := decidableWellFormed left
    have := decidableWellFormed right
    inferInstanceAs (Decidable (left.WellFormed ∧ right.WellFormed))
  | unary negate inner =>
    have := decidableWellFormed inner
    inferInstanceAs (Decidable (negate = true ∧ inner.WellFormed))
  | predicate p => inferInstanceAs (Decidable p.WellFormed)

/-! ## Identifiers -/

namespace Lexeme

theorem amount_ne_ident (sign body name : List Char) :
    (amount sign body).result ≠ .ok (.ident name) := by
  unfold amount
  dsimp only
  split
  · simp
  · split
    · simp
    · split <;> simp

theorem numeral_ne_ident (cs name : List Char) : (numeral cs).result ≠ .ok (.ident name) := by
  unfold numeral
  split
  · exact amount_ne_ident _ _ _
  · split
    · simp
    · exact amount_ne_ident _ _ _

/-- Only a word can be an identifier. -/
theorem isWordStart_of_scan_ident {c : Char} {cs name : List Char}
    (h : (scan (c :: cs)).result = .ok (.ident name)) : isWordStart c = true := by
  have hb := begins_scan c cs
  generalize scan (c :: cs) = l at h hb
  cases hb with
  | mark hk =>
    obtain rfl := Except.ok.inj h
    exact absurd hk (by simp [marks])
  | operator ho =>
    simp only [operators, List.mem_cons, Prod.mk.injEq, List.not_mem_nil, or_false] at ho
    unfold operator at h
    split at h <;> (obtain rfl := Except.ok.inj h; exact absurd ho (by simp))
  | quoted =>
    unfold quoted at h
    split at h <;> exact absurd h (by simp)
  | word hc => exact hc
  | numeral => exact absurd h (numeral_ne_ident _ _)
  | unexpected => exact absurd h (by simp)

end Lexeme

/-- An identifier is a word that is no keyword. -/
theorem IsIdentifier.exists_word {s : String} (h : IsIdentifier s) :
    ∃ c w, s.toList = c :: w ∧ isBlank c = false ∧ Lexeme.isWordStart c = true ∧
      (∀ d ∈ w, Lexeme.isWordChar d = true) ∧ Lexeme.wordKind (c :: w) = .ident (c :: w) := by
  obtain ⟨us, o, hs, hus⟩ := tokenize_eq_ok_iff.mp h
  obtain ⟨rfl, -⟩ := List.append_inj' (show [_] ++ [_] = us ++ [_] from hus) rfl
  obtain ⟨after, hnext, -, -⟩ := Tokens.next_of_token (Tokens.ofSource_eq s ▸ hs)
  obtain ⟨hk, ht, -⟩ := Cursor.next_eq_ok hnext
  -- the lexeme is the whole text, so no blank was skipped and nothing is left
  have hwhole := Lexeme.text_append_rest (Cursor.start s).skipBlank.rest
  have hne := Lexeme.text_ne_nil hk nofun
  have hle := (Cursor.start s).skipBlank_rest_length_le
  rw [← ht] at hwhole hne
  have hrest : (Lexeme.scan (Cursor.start s).skipBlank.rest).rest = [] := by
    have hlen := congrArg List.length hwhole
    rw [List.length_append] at hlen
    exact List.length_eq_zero_iff.mp (by simp only [Cursor.start] at hlen hle ⊢; omega)
  rw [hrest, List.append_nil] at hwhole
  have hskip : s.toList.dropWhile isBlank = s.toList := hwhole.symm
  rw [← hwhole] at hk ht
  generalize s.toList = cs at *
  obtain ⟨c, w, rfl⟩ := List.exists_cons_of_ne_nil hne
  have hstart := Lexeme.isWordStart_of_scan_ident hk
  rw [Lexeme.scan_word hstart] at hk ht
  have hall := List.takeWhile_eq_self_iff.mp ht.symm
  refine ⟨c, w, rfl, ?_, hstart, (List.forall_mem_cons.mp hall).2, ?_⟩
  · by_contra hblank
    have hshort := (List.dropWhile_sublist isBlank (l := w)).length_le
    rw [List.dropWhile_cons_of_pos (by simpa using hblank)] at hskip
    rw [hskip, List.length_cons] at hshort
    omega
  · have hkind := Except.ok.inj hk
    rwa [show (c :: w).takeWhile Lexeme.isWordChar = c :: w from ht.symm] at hkind

/-! ## What may follow -/

/-- The text after a written form: none, or one that a space, a comma or a closing mark begins. -/
def Closes (rest : List Char) : Prop :=
  ∀ c ∈ rest.head?, c ∈ [' ', ')', ']', ',']

theorem Closes.stops {p : Char → Bool} {rest : List Char} (h : Closes rest)
    (hp : [' ', ')', ']', ','].any p = false) : Lexeme.Stops p rest :=
  fun c hc => by simpa using List.any_eq_false.mp hp c (h c hc)

theorem closes_cons {c : Char} (h : c ∈ [' ', ')', ']', ',']) (rest : List Char) :
    Closes (c :: rest) := by
  intro d hd
  obtain rfl := Option.some.inj hd
  exact h

/-! ## Values -/

/-- A word of a known kind, before a character that does not go on with it. -/
theorem scans_word {c : Char} {w rest : List Char} {k : TokenKind} (hc : isBlank c = false)
    (hs : Lexeme.isWordStart c = true) (hw : w.all Lexeme.isWordChar = true)
    (hrest : Lexeme.Stops Lexeme.isWordChar rest) (hk : Lexeme.wordKind (c :: w) = k)
    (hne : k ≠ .eof) : Scans (c :: w ++ rest) [k] rest := by
  subst hk
  exact Scans.lexeme (Lexeme.scan_word_append hs (List.all_eq_true.mp hw) hrest) hc hne

theorem scans_bool (b : Bool) {rest : List Char} (hrest : Closes rest) :
    Scans ((Value.bool b).chars ++ rest) [.bool b] rest := by
  have hstops : Lexeme.Stops Lexeme.isWordChar rest := hrest.stops (by decide)
  cases b with
  | true =>
    exact scans_word (c := 't') (w := ['r', 'u', 'e']) rfl rfl (by decide) hstops rfl nofun
  | false =>
    exact scans_word (c := 'f') (w := ['a', 'l', 's', 'e']) rfl rfl (by decide) hstops rfl nofun

theorem isBlank_of_isNumeralStart {c : Char} (h : Lexeme.isNumeralStart c = true) :
    isBlank c = false :=
  isBlank_eq_false (by decide) h

theorem Numeral.exists_cons {cs : List Char} {n : Int} (h : Numeral cs n) :
    ∃ c w, cs = c :: w ∧ isBlank c = false := by
  cases h with
  | plain hne hds =>
    obtain ⟨c, w, rfl⟩ := List.exists_cons_of_ne_nil hne
    have hc := Lexeme.isNumeralStart_of_isDigit (hds c List.mem_cons_self)
    exact ⟨c, w, rfl, isBlank_of_isNumeralStart hc⟩
  | negative => exact ⟨_, _, rfl, rfl⟩

theorem scans_number {cs rest : List Char} {n : Int} (h : Numeral cs n) (hrest : Closes rest) :
    Scans (cs ++ rest) [.number cs] rest := by
  have hscan := Lexeme.scan_number_append h (hrest.stops (by decide)) (hrest.stops (by decide))
    (hrest.stops (by decide))
  obtain ⟨c, w, rfl, hc⟩ := Numeral.exists_cons h
  exact Scans.lexeme hscan hc nofun

theorem scans_span (span : TimeSpan) (rest : List Char) :
    Scans (span.chars ++ rest) [.span span.chars] rest := by
  have hn := numeral_signedDigits span.amount.toInt
  obtain ⟨c, w, hcw, hc⟩ := Numeral.exists_cons hn
  unfold TimeSpan.chars
  rw [hcw] at hn ⊢
  rw [List.append_assoc, List.singleton_append]
  exact Scans.lexeme (Lexeme.scan_span_append hn span.unit) hc nofun

theorem scans_date {d : Date} {rest : List Char} (h : d.HasFourDigitYear) (hrest : Closes rest) :
    Scans (d.chars ++ rest) [.date d.chars] rest := by
  have hscan := Lexeme.scan_date_append h (hrest.stops (by decide))
  obtain ⟨y1, y2, y3, y4, m1, m2, d1, d2, hchars, hy, -⟩ := Date.exists_chars h
  have hc := Lexeme.isNumeralStart_of_isDigit (hy y1 List.mem_cons_self)
  rw [hchars] at hscan ⊢
  exact Scans.lexeme hscan (isBlank_of_isNumeralStart hc) nofun

theorem spanText_chars (span : TimeSpan) : SpanText span.chars span :=
  ⟨_, numeral_signedDigits _, rfl⟩

theorem scans_last (span : TimeSpan) (rest : List Char) :
    Scans ((Value.call ⟨"last", span⟩).chars ++ rest)
      [.ident "last".toList, .openParen, .span span.chars, .closeParen] rest := by
  have htext : (Value.call ⟨"last", span⟩).chars ++ rest =
      "last".toList ++ '(' :: (span.chars ++ ')' :: rest) := by
    simp [Value.chars]
  rw [htext]
  refine Scans.cons (scans_word (c := 'l') (w := ['a', 's', 't']) rfl rfl (by decide)
    (Lexeme.stops_cons (by decide)) rfl nofun) ?_
  refine Scans.cons (Scans.lexeme (w := ['(']) rfl rfl nofun) ?_
  refine Scans.cons (scans_span span _) ?_
  exact Scans.lexeme (w := [')']) rfl rfl nofun

/-- The written form of a value scans to a phrase of the value. -/
theorem scans_value {v : Value} (hv : v.WellFormed) {rest : List Char} (hrest : Closes rest) :
    ∃ ks, Scans (v.chars ++ rest) ks rest ∧ ValuePhrase ks v := by
  cases v with
  | text s =>
    refine ⟨[.string s.toList], ?_, ?_⟩
    · exact Scans.lexeme (Lexeme.scan_literal_append s.toList rest) rfl nofun
    · have hphrase := ValuePhrase.text s.toList
      rwa [String.ofList_toList] at hphrase
  | bool b => exact ⟨_, scans_bool b hrest, .bool b⟩
  | number n =>
    have hn := numeral_signedDigits n.toInt
    exact ⟨_, scans_number hn hrest, .number hn⟩
  | date d => exact ⟨_, scans_date hv hrest, .date hv⟩
  | span d => exact ⟨_, scans_span d rest, .span (spanText_chars d)⟩
  | call f =>
    obtain ⟨name, span⟩ := f
    obtain rfl : name = "last" := hv
    exact ⟨_, scans_last span rest, .last rfl (spanText_chars span)⟩

/-! ## Conditions -/

/-- Values of a list, up to the bracket that closes it. -/
theorem scans_items {vs : List Value} (hne : vs ≠ []) (h : ∀ v ∈ vs, v.WellFormed)
    (rest : List Char) :
    ∃ ks, Scans (valueListChars vs ++ ']' :: rest) (ks ++ [.closeBracket]) rest ∧
      ItemsPhrase ks vs := by
  induction vs with
  | nil => exact absurd rfl hne
  | cons v vs ih =>
    obtain ⟨hv, hvs⟩ := List.forall_mem_cons.mp h
    cases vs with
    | nil =>
      obtain ⟨ks, hscan, hphrase⟩ := scans_value hv (closes_cons (c := ']') (by decide) rest)
      exact ⟨ks, hscan.append (Scans.lexeme (w := [']']) rfl rfl nofun), .one hphrase⟩
    | cons u vs =>
      obtain ⟨ls, hscans, hphrases⟩ := ih (List.cons_ne_nil u vs) hvs
      obtain ⟨ks, hscan, hphrase⟩ := scans_value hv (closes_cons (c := ',') (by decide)
        (' ' :: (valueListChars (u :: vs) ++ ']' :: rest)))
      refine ⟨ks ++ .comma :: ls, ?_, .more hphrase hphrases⟩
      have htext : valueListChars (v :: u :: vs) ++ ']' :: rest =
          v.chars ++ ',' :: ' ' :: (valueListChars (u :: vs) ++ ']' :: rest) := by
        simp [valueListChars]
      rw [htext, List.append_assoc, List.cons_append]
      exact hscan.append (Scans.cons (Scans.lexeme (w := [',']) rfl rfl nofun) hscans.space)

theorem scans_list {vs : List Value} (h : ∀ v ∈ vs, v.WellFormed) (rest : List Char) :
    ∃ ks, Scans ((Operand.list vs).chars ++ rest) ks rest ∧ ListPhrase ks vs := by
  have htext : (Operand.list vs).chars ++ rest = '[' :: (valueListChars vs ++ ']' :: rest) := by
    simp [Operand.chars]
  rw [htext]
  have hopen : Scans ('[' :: (valueListChars vs ++ ']' :: rest)) [.openBracket]
      (valueListChars vs ++ ']' :: rest) := Scans.lexeme (w := ['[']) rfl rfl nofun
  by_cases hne : vs = []
  · subst hne
    exact ⟨_, hopen.cons (Scans.lexeme (w := [']']) rfl rfl nofun), .empty⟩
  · obtain ⟨ks, hscan, hphrase⟩ := scans_items hne h rest
    exact ⟨_, hopen.cons hscan, .items hphrase⟩

/-- The kinds of the tokens of an operator. -/
def PredicateOp.kinds : PredicateOp → List TokenKind
  | compare op => [op.kind]
  | member op => op.kinds

theorem scans_symbol (op : PredicateOp) (cs : List Char) :
    Scans (op.symbol.toList ++ ' ' :: cs) op.kinds (' ' :: cs) := by
  cases op with
  | compare op => cases op <;> exact Scans.lexeme rfl rfl nofun
  | member op =>
    have hwithin : Scans ('i' :: 'n' :: ' ' :: cs) [.within] (' ' :: cs) :=
      Scans.lexeme rfl rfl nofun
    cases op with
    | within => exact hwithin
    | notWithin =>
      have hnot : Scans ('n' :: 'o' :: 't' :: ' ' :: 'i' :: 'n' :: ' ' :: cs) [.not]
          (' ' :: 'i' :: 'n' :: ' ' :: cs) := Scans.lexeme rfl rfl nofun
      exact hnot.cons hwithin.space

theorem scans_field {field : String} (h : IsIdentifier field) (cs : List Char) :
    Scans (field.toList ++ ' ' :: cs) [.ident field.toList] (' ' :: cs) := by
  obtain ⟨c, w, hcw, hblank, hstart, hword, hkind⟩ := h.exists_word
  rw [hcw]
  exact scans_word hblank hstart (List.all_eq_true.mpr hword) (Lexeme.stops_cons (by decide))
    hkind nofun

/-- The written form of an operand scans to a phrase that makes a condition of it. -/
theorem scans_operand {p : Predicate} (h : p.WellFormed) {rest : List Char} (hrest : Closes rest) :
    ∃ ks, Scans (p.operand.chars ++ rest) ks rest ∧
      ConditionPhrase (.ident p.field.toList :: (p.op.kinds ++ ks)) p := by
  obtain ⟨field, op, operand⟩ := p
  obtain ⟨-, hshape, hvalues⟩ := h
  dsimp only at hshape hvalues ⊢
  cases op with
  | compare op =>
    cases operand with
    | list vs => exact hshape.elim
    | single v =>
      obtain ⟨ks, hscan, hphrase⟩ := scans_value (hvalues v List.mem_cons_self) hrest
      refine ⟨ks, hscan, ?_⟩
      have hcond := ConditionPhrase.compare field.toList op hphrase
      rwa [String.ofList_toList] at hcond
  | member op =>
    have hcond : ∀ {ks operand}, MembersPhrase ks operand →
        ConditionPhrase (.ident field.toList :: (op.kinds ++ ks)) ⟨field, .member op, operand⟩ := by
      intro ks operand hm
      have hcond := ConditionPhrase.member field.toList op hm
      rwa [String.ofList_toList] at hcond
    cases operand with
    | list vs =>
      obtain ⟨ks, hscan, hphrase⟩ := scans_list hvalues rest
      exact ⟨ks, hscan, hcond (.list hphrase)⟩
    | single v =>
      obtain ⟨ks, hscan, hphrase⟩ := scans_value (hvalues v List.mem_cons_self) hrest
      cases v with
      | call f => exact ⟨ks, hscan, hcond (.last hphrase)⟩
      | text | bool | number | date | span => exact hshape.elim

theorem scans_predicate {p : Predicate} (h : p.WellFormed) {rest : List Char}
    (hrest : Closes rest) :
    ∃ ks, Scans (p.chars ++ rest) ks rest ∧ ConditionPhrase ks p := by
  obtain ⟨ks, hscan, hphrase⟩ := scans_operand h hrest
  refine ⟨_, ?_, hphrase⟩
  have htext : p.chars ++ rest =
      p.field.toList ++ ' ' :: (p.op.symbol.toList ++ ' ' :: (p.operand.chars ++ rest)) := by
    simp [Predicate.chars]
  rw [htext]
  exact (scans_field h.field _).cons ((scans_symbol p.op _).space.append hscan.space)

/-! ## Expressions -/

/-- The kind of the token of a connective. -/
def Connective.kind : Connective → TokenKind
  | and => .and
  | or => .or

theorem scans_connective (op : Connective) (cs : List Char) :
    Scans (op.word.toList ++ ' ' :: cs) [op.kind] (' ' :: cs) := by
  cases op <;> exact Scans.lexeme rfl rfl nofun

/-- Two operands with a connective between them make an operand in parentheses. -/
theorem Phrase.joined {ks ls : List TokenKind} {l r : Expr} (op : Connective)
    (hl : Phrase .operand ks l) (hr : Phrase .operand ls r) :
    Phrase .operand (.openParen :: (ks ++ op.kind :: ls ++ [.closeParen])) (.binary op l r) := by
  cases op with
  | and => exact .group (.disjunct (.and (.conjunct hl) hr))
  | or => exact .group (.or (.disjunct (.conjunct hl)) (.conjunct hr))

/-- **The written form of a tree scans to a phrase of the tree**, an operand at that. -/
theorem scans_expr {e : Expr} (h : e.WellFormed) :
    ∀ {rest}, Closes rest → ∃ ks, Scans (e.chars ++ rest) ks rest ∧ Phrase .operand ks e := by
  -- for any text that follows, since a left side is followed by a space, a right side by a
  -- parenthesis, and an operand of `not` by whatever follows the negation
  induction e with
  | predicate p =>
    intro rest hrest
    obtain ⟨ks, hscan, hphrase⟩ := scans_predicate h hrest
    exact ⟨ks, hscan, .condition hphrase⟩
  | unary negate inner ih =>
    intro rest hrest
    obtain ⟨rfl, hinner⟩ := h
    obtain ⟨ks, hscan, hphrase⟩ := ih hinner hrest
    refine ⟨.not :: ks, ?_, .not hphrase⟩
    have hnot : Scans ('n' :: 'o' :: 't' :: ' ' :: (inner.chars ++ rest)) [.not]
        (' ' :: (inner.chars ++ rest)) := Scans.lexeme rfl rfl nofun
    exact hnot.cons hscan.space
  | binary op l r ihl ihr =>
    intro rest hrest
    obtain ⟨hl, hr⟩ := h
    obtain ⟨ls, hscanr, hphraser⟩ := ihr hr (closes_cons (c := ')') (by decide) rest)
    obtain ⟨ks, hscanl, hphrasel⟩ := ihl hl (closes_cons (c := ' ') (by decide)
      (op.word.toList ++ ' ' :: (r.chars ++ ')' :: rest)))
    refine ⟨_, ?_, hphrasel.joined op hphraser⟩
    have htext : (Expr.binary op l r).chars ++ rest =
        '(' :: (l.chars ++ ' ' :: (op.word.toList ++ ' ' :: (r.chars ++ ')' :: rest))) := by
      simp [Expr.chars]
    have hclose : Scans (')' :: rest) [.closeParen] rest := Scans.lexeme (w := [')']) rfl rfl nofun
    rw [htext, List.append_assoc]
    refine Scans.cons (Scans.lexeme (w := ['(']) rfl rfl nofun) (hscanl.append ?_)
    exact (scans_connective op _).space.cons (hscanr.space.append hclose)

/-- What a source that scans to its end is read as. -/
theorem parse_iff_of_scans {source : String} {ks : List TokenKind} {e : Expr}
    (h : Scans source.toList ks []) : parse source = .ok e ↔ Phrase .disjunction ks e := by
  obtain ⟨ts, offset, rfl, hts⟩ := h.ofSource
  exact parse_iff_phrase (tokenize_eq_ok_iff.mpr ⟨ts, offset, hts, rfl⟩)

/-- A text that scans to a phrase of an operand, up to its end, is read. -/
theorem parse_of_scans {cs : List Char} {ks : List TokenKind} {e : Expr} (hscan : Scans cs ks [])
    (hphrase : Phrase .operand ks e) : parse (String.ofList cs) = .ok e := by
  refine (parse_iff_of_scans ?_).mpr (.disjunct (.conjunct hphrase))
  rwa [String.toList_ofList]

/-- **What is written is read back**, for every tree that the grammar can produce. -/
theorem parse_canonical {e : Expr} (h : e.WellFormed) : parse e.canonical = .ok e := by
  obtain ⟨ks, hscan, hphrase⟩ := scans_expr h (show Closes [] from nofun)
  rw [List.append_nil] at hscan
  exact parse_of_scans hscan hphrase

/-- A tree with quotes and backslashes in a text, the least numbers, a list, a date, a call, and
negations over both connectives. -/
def knottyExpr : Expr :=
  .unary true (.binary .or
    (.binary .and
      (.unary true (.unary true (.predicate (.compare "größe_2" .ge (.number Int64.minValue)))))
      (.predicate (.member "label" .notWithin [.text "a\"\\", .bool false, .text ""])))
    (.binary .or
      (.predicate (.compare "created" .lt (.date ⟨0, 2, 29, by decide⟩)))
      (.unary true (.predicate
        ⟨"updated", .member .within, .single (.call ⟨"last", ⟨Int64.minValue, .week⟩⟩)⟩))))

theorem parse_canonical_knottyExpr :
    knottyExpr.WellFormed ∧ parse knottyExpr.canonical = .ok knottyExpr :=
  ⟨by decide, parse_canonical (by decide)⟩

end ForgeBoard.Filter
