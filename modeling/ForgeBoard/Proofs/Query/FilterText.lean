import ForgeBoard.Proofs.Filter.Legacy

/-!
# Filters are not blank

A phrase of the grammar has a token at least, so a text that is read as a filter is not blank, and
the clients read it as that filter (`readFilter_of_parse`).
-/

namespace ForgeBoard.Filter

open Text

theorem Phrase.ne_nil {level : Level} {ks : List TokenKind} {e : Expr} (h : Phrase level ks e) :
    ks ≠ [] := by
  induction h with
  | disjunct _ ih | conjunct _ ih => exact ih
  | or => exact List.append_ne_nil_of_right_ne_nil _ nofun
  | and => exact List.append_ne_nil_of_right_ne_nil _ nofun
  | not | bang | group => exact nofun
  | condition hp =>
    obtain ⟨field, ls, rfl⟩ := hp.head_eq_ident
    exact nofun

/-- A blank source has no tokens. -/
theorem Tokens.ofSource_of_isBlankText {source : String} (h : isBlankText source = true) :
    ∃ offset, ofSource source = .finish offset := by
  have hskip : (Cursor.start source).skipBlank.rest = [] :=
    List.dropWhile_eq_nil_iff.mpr (List.all_eq_true.mp h)
  refine ⟨(Cursor.start source).skipBlank.offset, ?_⟩
  rw [ofSource_eq, ofCursor_eq, Cursor.next]
  simp only [hskip]
  rfl

theorem isBlankText_of_parse {text : String} {e : Expr} (h : parse text = .ok e) :
    isBlankText text = false := by
  obtain ⟨ts, offset, hsource, hphrase⟩ := phrase_of_parse h
  rw [← Bool.not_eq_true]
  intro hblank
  obtain ⟨offset', hfinish⟩ := Tokens.ofSource_of_isBlankText hblank
  rw [hfinish] at hsource
  cases ts with
  | nil => exact hphrase.ne_nil rfl
  | cons t ts => exact absurd hsource nofun

end ForgeBoard.Filter

namespace ForgeBoard.Query

open ForgeBoard.Filter

/-- A text that is read as a filter is that filter for the clients, with the legacy check or
without. -/
theorem readFilter_of_parse {text : String} {e : Expr} (h : parse text = .ok e)
    (refuseLegacy : Bool) : readFilter refuseLegacy text = .ok (some e) := by
  have hread : readFilter false text = .ok (some e) := by
    unfold readFilter
    rw [isBlankText_of_parse h, h]
    rfl
  cases refuseLegacy with
  | false => exact hread
  | true =>
    rw [readFilter_true, checkLegacy_of_parse h]
    exact hread

end ForgeBoard.Query
