import ForgeBoard.Proofs.Filter.Lexemes
import ForgeBoard.Proofs.Filter.Parse.Sound
import ForgeBoard.Query.FilterText
import Mathlib.Data.List.TakeWhile

/-!
# The legacy check accepts every filter

The check for the legacy syntax walks through a text with two flags and knows nothing of tokens; the
scanner cuts tokens and reads strings with their escapes. On a text that scans, both agree on what
stands inside quotes: between two tokens the check is always outside of them.

* `Passes cs rest`: from outside quotes, the check walks from `cs` to `rest` and is outside again.
* `passes_readsString` follows a string to its closing quote, by induction on how it is read;
  `passes_scan` is one token of any sort; `Tokens.legacyScan_eq_ok` is a whole source.

Result: `readFilter_refuseLegacy`, checking for the legacy syntax takes no filter away.
-/

namespace ForgeBoard.Filter

open Text

/-- Outside quotes. -/
def QuoteState.outside : QuoteState := ⟨false, false⟩

/-- Inside quotes, after an even number of backslashes. -/
def QuoteState.inside : QuoteState := ⟨true, false⟩

/-- From outside quotes, the check walks from `cs` to `rest` and is outside of them again. -/
def Passes (cs rest : List Char) : Prop :=
  ∀ before, ∃ before', legacyScan .outside before cs = legacyScan .outside before' rest

theorem Passes.refl (cs : List Char) : Passes cs cs :=
  fun before => ⟨before, rfl⟩

theorem Passes.trans {cs mid rest : List Char} (h : Passes cs mid) (h' : Passes mid rest) :
    Passes cs rest := by
  intro before
  obtain ⟨before₁, h₁⟩ := h before
  obtain ⟨before₂, h₂⟩ := h' before₁
  exact ⟨before₂, h₁.trans h₂⟩

/-! ## Texts without quotes -/

/-- A character that neither changes the state outside quotes nor is refused there. -/
def isPlain (c : Char) : Bool :=
  c != ':' && c != '"'

theorem step_outside_of_ne {c : Char} (h : c ≠ '"') : QuoteState.outside.step c = .outside := by
  rw [QuoteState.step, if_neg h]
  split <;> rfl

theorem passes_plain {w : List Char} (h : ∀ c ∈ w, isPlain c = true) (rest : List Char) :
    Passes (w ++ rest) rest := by
  induction w with
  | nil => exact .refl rest
  | cons c w ih =>
    obtain ⟨hc, hw⟩ := List.forall_mem_cons.mp h
    simp only [isPlain, Bool.and_eq_true, bne_iff_ne] at hc
    intro before
    obtain ⟨before', h'⟩ := ih hw (c :: before)
    refine ⟨before', ?_⟩
    rw [List.cons_append, legacyScan, if_neg fun hcolon => hc.1 hcolon.1, step_outside_of_ne hc.2,
      h']

theorem isPlain_of {p : Char → Bool} (hcolon : p ':' = false) (hquote : p '"' = false) {c : Char}
    (h : p c = true) : isPlain c = true := by
  rw [isPlain, Bool.and_eq_true, bne_iff_ne, bne_iff_ne]
  constructor
  · rintro rfl
    rw [hcolon] at h
    exact absurd h nofun
  · rintro rfl
    rw [hquote] at h
    exact absurd h nofun

theorem isPlain_of_isBlank {c : Char} (h : isBlank c = true) : isPlain c = true :=
  isPlain_of (by decide) (by decide) h

theorem passes_skipBlank (c : Cursor) : Passes c.rest c.skipBlank.rest := by
  have h := passes_plain (w := c.rest.takeWhile isBlank)
    (fun _ hd => isPlain_of_isBlank (List.mem_takeWhile_imp hd)) (c.rest.dropWhile isBlank)
  rwa [List.takeWhile_append_dropWhile] at h

/-! ## Strings -/

/-- Inside quotes nothing is refused. -/
theorem legacyScan_quoted {s : QuoteState} (h : s.quoted = true) (before : List Char) (c : Char)
    (rest : List Char) : legacyScan s before (c :: rest) =
      legacyScan (s.step c) (c :: before) rest := by
  rw [legacyScan, if_neg]
  rintro ⟨-, hs⟩
  rw [h] at hs
  exact absurd hs nofun

theorem step_inside_of_ne {c : Char} (h1 : c ≠ '"') (h2 : c ≠ '\\') :
    QuoteState.inside.step c = .inside := by
  rw [QuoteState.step, if_neg h2, if_neg h1]
  rfl

/-- A backslash and the character after it leave the check inside quotes. -/
theorem step_step_inside (c : Char) : (QuoteState.inside.step '\\').step c = .inside := by
  by_cases h2 : c = '\\'
  · subst h2
    rfl
  by_cases h1 : c = '"'
  · subst h1
    rfl
  rw [QuoteState.step, if_neg h2, if_neg h1]
  rfl

/-- **A string**: from inside quotes, the check leaves them where the scanner closes the string. -/
theorem passes_readsString {cs value : List Char} {n : Nat} (h : Lexeme.ReadsString cs value n)
    (before : List Char) :
    ∃ before', legacyScan .inside before cs = legacyScan .outside before' (cs.drop n) := by
  -- on the rules of the scanner, which takes an escape as a whole: the check is inside quotes and
  -- not after a lone backslash wherever the scanner looks
  induction h generalizing before with
  | close rest => exact ⟨_, legacyScan_quoted rfl before '"' rest⟩
  | pair c _ ih =>
    obtain ⟨before', h'⟩ := ih (c :: '\\' :: before)
    refine ⟨before', ?_⟩
    rw [legacyScan_quoted rfl, legacyScan_quoted rfl, step_step_inside]
    exact h'
  | @plain c rest value n h1 h2 _ ih =>
    obtain ⟨before', h'⟩ := ih (c :: before)
    refine ⟨before', ?_⟩
    rw [legacyScan_quoted rfl, step_inside_of_ne h1 h2]
    exact h'

theorem passes_quoted {rest : List Char} {kind : TokenKind}
    (h : (Lexeme.quoted ('"' :: rest)).result = .ok kind) :
    Passes ('"' :: rest) (Lexeme.quoted ('"' :: rest)).rest := by
  intro before
  unfold Lexeme.quoted at h ⊢
  rw [List.tail_cons] at h ⊢
  split at h
  · next value n hbody =>
    exact passes_readsString (Lexeme.stringBody_eq_some_iff.mp hbody) ('"' :: before)
  · exact absurd h nofun

/-! ## Tokens -/

namespace Lexeme

theorem isPlain_of_isWordChar {c : Char} (h : isWordChar c = true) : isPlain c = true :=
  isPlain_of (by decide) (by decide) h

/-- The characters of numbers, dates and time spans. -/
def isNumeralChar (c : Char) : Bool :=
  isDateChar c || isUnitLetter c

theorem isPlain_of_isNumeralChar {c : Char} (h : isNumeralChar c = true) : isPlain c = true :=
  isPlain_of (by decide) (by decide) h

theorem isNumeralChar_of_isDigit {c : Char} (h : c.isDigit = true) : isNumeralChar c = true := by
  rw [isNumeralChar, isDateChar, h, Bool.true_or, Bool.true_or]

theorem isNumeralChar_of_mem_amount {sign body : List Char}
    (hsign : ∀ c ∈ sign, isNumeralChar c = true) {c : Char} (h : c ∈ (amount sign body).text) :
    isNumeralChar c = true := by
  have hdigits : ∀ d ∈ sign ++ body.takeWhile Char.isDigit, isNumeralChar d = true := by
    intro d hd
    rcases List.mem_append.mp hd with hd | hd
    · exact hsign d hd
    · exact isNumeralChar_of_isDigit (List.mem_takeWhile_imp hd)
  unfold amount at h
  dsimp only at h
  split at h
  · exact hsign c h
  split at h
  · exact hdigits c h
  split at h
  · next hunit =>
    rcases List.mem_append.mp h with h | h
    · exact hdigits c h
    · obtain rfl := List.mem_singleton.mp h
      rw [isNumeralChar, hunit, Bool.or_true]
  · exact hdigits c h

theorem isNumeralChar_of_mem_numeral {cs : List Char} {c : Char} (h : c ∈ (numeral cs).text) :
    isNumeralChar c = true := by
  unfold numeral at h
  split at h
  · exact isNumeralChar_of_mem_amount (List.forall_mem_singleton.mpr (by decide)) h
  split at h
  · rw [isNumeralChar, List.mem_takeWhile_imp h, Bool.true_or]
  · exact isNumeralChar_of_mem_amount (fun _ hd => absurd hd List.not_mem_nil) h

theorem scan_colon (rest : List Char) :
    scan (':' :: rest) = ⟨.error (.unexpectedChar ':'), [], ':' :: rest⟩ :=
  rfl

/-- A token that does not begin with a quote has neither a quote nor a colon in it. -/
theorem isPlain_of_mem_scan {c d : Char} {rest : List Char} {kind : TokenKind} (hc : c ≠ '"')
    (h : (scan (c :: rest)).result = .ok kind) (hd : d ∈ (scan (c :: rest)).text) :
    isPlain d = true := by
  have hplain : isPlain c = true := by
    rw [isPlain, Bool.and_eq_true, bne_iff_ne, bne_iff_ne]
    refine ⟨?_, hc⟩
    rintro rfl
    rw [scan_colon] at h
    exact absurd h nofun
  have hb := begins_scan c rest
  generalize scan (c :: rest) = l at h hb hd
  cases hb with
  | mark =>
    obtain rfl := List.mem_singleton.mp hd
    exact hplain
  | operator =>
    unfold operator at hd
    split at hd
    · rcases List.mem_cons.mp hd with rfl | hd
      · exact hplain
      · obtain rfl := List.mem_singleton.mp hd
        decide
    · obtain rfl := List.mem_singleton.mp hd
      exact hplain
  | quoted hquote => exact absurd hquote hc
  | word => exact isPlain_of_isWordChar (List.mem_takeWhile_imp hd)
  | numeral => exact isPlain_of_isNumeralChar (isNumeralChar_of_mem_numeral hd)
  | unexpected => exact absurd h nofun

end Lexeme

/-- **A token**, whatever its sort. -/
theorem passes_scan {cs : List Char} {kind : TokenKind}
    (h : (Lexeme.scan cs).result = .ok kind) : Passes cs (Lexeme.scan cs).rest := by
  cases cs with
  | nil => exact .refl _
  | cons c rest =>
    by_cases hc : c = '"'
    · subst hc
      exact passes_quoted h
    · have hpasses := passes_plain (fun d hd => Lexeme.isPlain_of_mem_scan hc h hd)
        (Lexeme.scan (c :: rest)).rest
      rwa [Lexeme.text_append_rest] at hpasses

/-! ## Sources -/

/-- **A source that scans to its end** passes the check. -/
theorem Tokens.legacyScan_eq_ok {ts : List Token} {offset : Nat} {c : Cursor}
    (h : ofCursor c = prepend ts (.finish offset)) (before : List Char) :
    legacyScan .outside before c.rest = .ok () := by
  induction ts generalizing c before with
  | nil =>
    obtain ⟨t, after, hnext, ht, -⟩ := next_of_finish h
    obtain ⟨hscan, -, -⟩ := Cursor.next_eq_ok hnext
    rw [ht] at hscan
    obtain ⟨before', h'⟩ := passes_skipBlank c before
    rw [h', Lexeme.eq_nil_of_scan_eof hscan]
    rfl
  | cons t ts ih =>
    obtain ⟨after, hnext, -, hrest⟩ := next_of_token h
    obtain ⟨hscan, -, hafter⟩ := Cursor.next_eq_ok hnext
    obtain ⟨before', h'⟩ := ((passes_skipBlank c).trans (passes_scan hscan)) before
    rw [h', ← hafter]
    exact ih hrest before'

/-- A text that is read as a filter passes the check. -/
theorem checkLegacy_of_parse {text : String} {e : Expr} (h : parse text = .ok e) :
    checkLegacy text = .ok () := by
  obtain ⟨ts, offset, hsource, -⟩ := phrase_of_parse h
  rw [Tokens.ofSource_eq] at hsource
  unfold checkLegacy
  split
  · rfl
  · exact Tokens.legacyScan_eq_ok hsource []

end ForgeBoard.Filter

namespace ForgeBoard.Query

open ForgeBoard.Filter Text

theorem readFilter_true (text : String) :
    readFilter true text =
      match checkLegacy text with
      | .ok () => readFilter false text
      | .error fault => .error (.legacy fault) := by
  unfold readFilter
  cases checkLegacy text <;> rfl

theorem checkLegacy_of_readFilter {text : String} {r : Option Expr}
    (h : readFilter false text = .ok r) : checkLegacy text = .ok () := by
  unfold readFilter at h
  cases hblank : isBlankText text with
  | true => rw [checkLegacy, hblank, if_pos rfl]
  | false =>
    rw [hblank] at h
    cases hparse : parse text with
    | ok e => exact checkLegacy_of_parse hparse
    | error e =>
      rw [hparse] at h
      exact absurd h nofun

/-- **The legacy check takes no filter away**: a filter text gives a result with it iff it gives
this result without it, and every text that is read as a filter passes it. -/
theorem readFilter_refuseLegacy (text : String) :
    (∀ r, readFilter true text = .ok r ↔ readFilter false text = .ok r) ∧
      ∀ e, parse text = .ok e → checkLegacy text = .ok () := by
  refine ⟨fun r => ⟨fun h => ?_, fun h => ?_⟩, fun e => checkLegacy_of_parse⟩
  · rw [readFilter_true] at h
    split at h
    · exact h
    · exact absurd h nofun
  · rw [readFilter_true, checkLegacy_of_readFilter h]
    exact h

/-- Colons and escaped quotes in strings, and strings that end in backslashes. -/
def colonsInStrings : String :=
  "text = \"is:\\\"open\\\" \\\\\" and label in [\"é:\\\\\", \":\"]"

/-- The filter that `colonsInStrings` is read as. -/
def colonsInStringsExpr : Expr :=
  .binary .and
    (.predicate (.compare "text" .eq (.text "is:\"open\" \\")))
    (.predicate (.member "label" .within [.text "é:\\", .text ":"]))

theorem readFilter_colonsInStrings :
    parse colonsInStrings = .ok colonsInStringsExpr ∧ checkLegacy colonsInStrings = .ok () ∧
      readFilter false colonsInStrings = .ok (some colonsInStringsExpr) ∧
      readFilter true colonsInStrings = .ok (some colonsInStringsExpr) :=
  ⟨rfl, (readFilter_refuseLegacy colonsInStrings).2 colonsInStringsExpr rfl, rfl,
    ((readFilter_refuseLegacy colonsInStrings).1 (some colonsInStringsExpr)).mpr rfl⟩

end ForgeBoard.Query
