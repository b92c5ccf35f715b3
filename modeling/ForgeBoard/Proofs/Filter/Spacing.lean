import ForgeBoard.Proofs.Filter.Munch
import ForgeBoard.Proofs.Filter.Partition
import ForgeBoard.Proofs.Filter.RoundTrip

/-!
# Blanks between tokens

`Widened ts offset cs cs'`: the text `cs'` is the text `cs`, which stands at the byte `offset`, with
more blanks in it, none of them within the span of a token of `ts`.

* `Widened.head`, `Widened.gap`, `Widened.token`: the blanks of a widened text come before its
  characters, and a token comes through in one piece.
* `Widened.stops`: what did not go on with a token does not do so now, since no blank does.
* `scans_of_widened`: by induction on the tokens, a widened text scans to tokens of the same kinds.

Results: `tokenize_widened`, `parse_widened`.
-/

namespace ForgeBoard.Filter

open Text

/-- The text with more blanks in it, none within a token. -/
inductive Widened (ts : List Token) : Nat → List Char → List Char → Prop where
  | done {offset : Nat} : Widened ts offset [] []
  | keep {offset : Nat} {cs cs' : List Char} (c : Char) :
    Widened ts (offset + c.utf8Size) cs cs' → Widened ts offset (c :: cs) (c :: cs')
  | put {offset : Nat} {cs cs' : List Char} {b : Char} :
    isBlank b = true → (∀ t ∈ ts, offset ≤ t.start ∨ t.stop ≤ offset) →
      Widened ts offset cs cs' → Widened ts offset cs (b :: cs')

namespace Widened

variable {ts us : List Token} {offset : Nat} {c : Char} {cs cs' ys w : List Char}

/-- Fewer tokens keep fewer blanks out. -/
theorem mono (h : Widened ts offset cs cs') (hus : ∀ t ∈ us, t ∈ ts) :
    Widened us offset cs cs' := by
  induction h with
  | done => exact .done
  | keep c _ ih => exact .keep c ih
  | put hb hout _ ih => exact .put hb (fun t ht => hout t (hus t ht)) ih

/-- In front of a character there are only new blanks. -/
theorem head (h : Widened ts offset (c :: cs) cs') :
    ∃ blanks rest, cs' = blanks ++ c :: rest ∧ (∀ d ∈ blanks, isBlank d = true) ∧
      Widened ts (offset + c.utf8Size) cs rest := by
  generalize hcs : c :: cs = whole at h
  induction h with
  | done => exact absurd hcs nofun
  | @keep _ _ rest _ h =>
    obtain ⟨rfl, rfl⟩ := List.cons.inj hcs
    exact ⟨[], rest, rfl, nofun, h⟩
  | put hb _ _ ih =>
    obtain ⟨blanks, rest, rfl, hblanks, hrest⟩ := ih hcs
    exact ⟨_ :: blanks, rest, rfl, List.forall_mem_cons.mpr ⟨hb, hblanks⟩, hrest⟩

/-- Blanks and new blanks are blanks. -/
theorem blanks (h : Widened ts offset cs cs') (hcs : ∀ d ∈ cs, isBlank d = true) :
    ∀ d ∈ cs', isBlank d = true := by
  induction h with
  | done => exact hcs
  | keep c _ ih =>
    obtain ⟨hc, hcs⟩ := List.forall_mem_cons.mp hcs
    exact List.forall_mem_cons.mpr ⟨hc, ih hcs⟩
  | put hb _ _ ih => exact List.forall_mem_cons.mpr ⟨hb, ih hcs⟩

/-- Between blanks and a character there are blanks only. -/
theorem gap {gap : List Char} (hgap : ∀ d ∈ gap, isBlank d = true)
    (h : Widened ts offset (gap ++ c :: cs) cs') :
    ∃ blanks rest, cs' = blanks ++ c :: rest ∧ (∀ d ∈ blanks, isBlank d = true) ∧
      Widened ts (offset + byteLength gap + c.utf8Size) cs rest := by
  induction gap generalizing offset cs' with
  | nil => exact h.head
  | cons d gap ih =>
    obtain ⟨hd, hgap⟩ := List.forall_mem_cons.mp hgap
    obtain ⟨before, rest, rfl, hbefore, hrest⟩ := h.head
    obtain ⟨between, rest, rfl, hbetween, hrest⟩ := ih hgap hrest
    refine ⟨before ++ d :: between, rest, by rw [List.append_assoc, List.cons_append], ?_, ?_⟩
    · exact List.forall_mem_append.mpr ⟨hbefore, List.forall_mem_cons.mpr ⟨hd, hbetween⟩⟩
    · rwa [byteLength, ← Nat.add_assoc]

/-- Within the span of a token nothing is put. -/
theorem inside {t : Token} (ht : t ∈ ts) (hstart : t.start < offset)
    (hstop : offset + byteLength w = t.stop) (h : Widened ts offset (w ++ ys) cs') :
    ∃ rest, cs' = w ++ rest ∧ Widened ts t.stop ys rest := by
  induction w generalizing offset cs' with
  | nil =>
    rw [byteLength, Nat.add_zero] at hstop
    exact ⟨cs', rfl, hstop ▸ h⟩
  | cons c w ih =>
    rw [byteLength] at hstop
    have hpos := c.utf8Size_pos
    cases h with
    | keep _ h =>
      obtain ⟨rest, rfl, hrest⟩ := ih (by omega) (by omega) h
      exact ⟨rest, rfl, hrest⟩
    | put _ hout _ =>
      have := hout t ht
      omega

/-- **A token comes through in one piece**, after blanks. -/
theorem token {t : Token} {gap : List Char} (hgap : ∀ d ∈ gap, isBlank d = true) (ht : t ∈ ts)
    (halone : t.Alone) (hstart : t.start = offset + byteLength gap)
    (h : Widened ts offset (gap ++ (t.text ++ ys)) cs') :
    ∃ blanks rest, cs' = blanks ++ (t.text ++ rest) ∧ (∀ d ∈ blanks, isBlank d = true) ∧
      Widened ts t.stop ys rest := by
  obtain ⟨c, w, htext, -⟩ := halone.exists_cons
  have hstop : t.stop = t.start + (c.utf8Size + byteLength w) := by
    rw [Token.stop, htext, byteLength]
  have hpos := c.utf8Size_pos
  rw [htext] at h
  obtain ⟨blanks, rest, rfl, hblanks, hrest⟩ := h.gap hgap
  obtain ⟨rest', rfl, hrest'⟩ := hrest.inside ht (by omega) (by omega)
  exact ⟨blanks, rest', by rw [htext]; rfl, hblanks, hrest'⟩

/-- What does not go on with a token does not do so with blanks before it. -/
theorem stops {kind : TokenKind} (h : Widened ts offset cs cs')
    (hcs : Lexeme.Stops kind.goesOn cs) : Lexeme.Stops kind.goesOn cs' := by
  cases h with
  | done => exact hcs
  | keep => exact hcs
  | put hb => exact Lexeme.stops_cons (kind.goesOn_of_isBlank hb)

end Widened

/-! ## Scanning a widened text -/

/-- What is left behind the last token is blank. -/
theorem isBlank_of_finish {c : Cursor} {offset : Nat} (h : Tokens.ofCursor c = .finish offset) :
    ∀ d ∈ c.rest, isBlank d = true := by
  rw [← Tokens.prepend_nil (.finish offset)] at h
  have hlaid := Tokens.laid_of_prepend h
  rw [List.nil_append] at hlaid
  generalize hrest : c.rest = rest at hlaid
  cases hlaid with
  | finish hblanks => exact hblanks
  | token _ halone => exact absurd rfl halone.kind_ne_eof

/-- **A widened text scans to tokens of the same kinds.** -/
theorem scans_of_widened {us : List Token} {c : Cursor} {offset : Nat} {cs' : List Char}
    (h : Tokens.ofCursor c = .prepend us (.finish offset)) (hw : Widened us c.offset c.rest cs') :
    Scans cs' (us.map Token.kind) [] := by
  -- along the tokens of the stream, since how a token ends depends on the text behind it
  induction us generalizing c cs' with
  | nil =>
    have hscans : Scans (cs' ++ []) [] [] := Scans.refl.blanks (hw.blanks (isBlank_of_finish h))
    rwa [List.append_nil] at hscans
  | cons u us ih =>
    obtain ⟨after, hnext, hu, hrest⟩ := Tokens.next_of_token h
    obtain ⟨hstart, hstop⟩ := Cursor.start_of_next hnext
    have halone := Cursor.alone_of_next hnext hu
    rw [Cursor.rest_of_next hnext] at hw
    obtain ⟨blanks, rest, rfl, hblanks, hwrest⟩ :=
      hw.token c.isBlank_of_mem_blanks List.mem_cons_self halone hstart
    -- what stood behind the token did not go on with it
    have hstops := hwrest.stops (Cursor.stops_of_next hnext)
    have hcut := Lexeme.scan_append halone.scan_eq hu hstops
    obtain ⟨d, w, htext, hd⟩ := halone.exists_cons
    have hlexeme : Scans (u.text ++ rest) [u.kind] rest := by
      rw [htext] at hcut ⊢
      exact Scans.lexeme hcut hd hu
    have hscans := ih hrest (hstop ▸ hwrest.mono fun _ => List.mem_cons_of_mem u)
    exact (hlexeme.cons hscans).blanks hblanks

/-! ## Sources -/

theorem scans_of_widened_source {source source' : String} {us : List Token} {t : Token}
    {offset : Nat} (hsource : Tokens.ofSource source = .prepend us (.finish offset))
    (h : Widened (us ++ [t]) 0 source.toList source'.toList) :
    Scans source'.toList (us.map Token.kind) [] :=
  scans_of_widened (Tokens.ofSource_eq source ▸ hsource) (h.mono fun _ => List.mem_append_left [t])

/-- **Blanks between tokens change no token.** -/
theorem tokenize_widened {source source' : String} {ts : List Token}
    (hts : tokenize source = .ok ts) (h : Widened ts 0 source.toList source'.toList) :
    ∃ ts', tokenize source' = .ok ts' ∧ ts'.map Token.kind = ts.map Token.kind := by
  obtain ⟨us, offset, hsource, rfl⟩ := tokenize_eq_ok_iff.mp hts
  obtain ⟨vs, offset', hkinds, hsource'⟩ := (scans_of_widened_source hsource h).ofSource
  refine ⟨_, tokenize_eq_ok_iff.mpr ⟨vs, offset', hsource', rfl⟩, ?_⟩
  rw [List.map_append, List.map_append, hkinds]
  rfl

/-- **Blanks between tokens change no filter.** A source that is read as a filter has tokens, and
with any blanks put around and between them it is read as the same filter. -/
theorem parse_widened {source : String} {e : Expr} (h : parse source = .ok e) :
    ∃ ts, tokenize source = .ok ts ∧
      ∀ source', Widened ts 0 source.toList source'.toList → parse source' = .ok e := by
  obtain ⟨us, offset, hsource, hphrase⟩ := phrase_of_parse h
  refine ⟨_, tokenize_eq_ok_iff.mpr ⟨us, offset, hsource, rfl⟩, fun source' hw => ?_⟩
  exact (parse_iff_of_scans (scans_of_widened_source hsource hw)).mpr hphrase

/-- Tokens that touch: an operator of two characters before a sign. -/
def touchingComparison : Expr :=
  .predicate (.compare "a" .ne (.span ⟨-3, .hour⟩))

theorem parse_widened_touchingComparison :
    parse "a!=-3h" = .ok touchingComparison ∧
      parse "\u2003a\n!= -3h\t" = .ok touchingComparison := by
  have h : parse "a!=-3h" = .ok touchingComparison := rfl
  obtain ⟨ts, hts, hwidened⟩ := parse_widened h
  obtain rfl : [⟨.ident ['a'], ['a'], 0⟩, ⟨.ne, ['!', '='], 1⟩,
    ⟨.span ['-', '3', 'h'], ['-', '3', 'h'], 3⟩, ⟨.eof, [], 6⟩] = ts := Except.ok.inj hts
  refine ⟨h, hwidened _ ?_⟩
  refine .put rfl (by decide) (.keep 'a' (.put rfl (by decide) (.keep '!' (.keep '=' ?_))))
  exact .put rfl (by decide) (.keep '-' (.keep '3' (.keep 'h' (.put rfl (by decide) .done))))

end ForgeBoard.Filter
