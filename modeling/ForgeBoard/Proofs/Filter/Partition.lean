import ForgeBoard.Proofs.Filter.Alone
import Mathlib.Data.String.Basic
import Mathlib.Logic.Function.Iterate

/-!
# The tokens of a source divide it

A source that scans to its end consists of blanks and tokens. `Laid offset cs ts` says how the
tokens `ts` lie in the text `cs`, which stands at the byte `offset`: blanks, a token, and so on, and
at last blanks and the end of the input. What the division of a source is (`Partition`) follows from
it by induction, one fact at a time.

* `Laid.pairwise`, `Laid.exists_end`, `Laid.outside`, `Laid.exists_place`: the spans are in order,
  the last one is the end of the input, what is in no span is blank, and each span shows its text.
* `Token.Alone.tokenize_eq`: the text of a token scans to this token and no other.
* `Cursor.steady_iterate`: a walk that goes on after errors stays in its source and on character
  boundaries, and moves on with each token.
* `Tokens.toList_ofCursor`: the tokens of a source are what the first steps of this walk give, up
  to the first end of input or error.

Result: `tokenize_divides`.
-/

namespace ForgeBoard.Filter

open Text

/-! ## Bytes -/

section Bytes

variable {source : String} {before mid after : List Char}

theorem byteLength_eq_utf8Len (cs : List Char) : byteLength cs = String.utf8Len cs := by
  induction cs with
  | nil => rfl
  | cons c cs ih => rw [byteLength, ih, String.utf8Len_cons, Nat.add_comm]

theorem byteLength_append (cs ds : List Char) :
    byteLength (cs ++ ds) = byteLength cs + byteLength ds := by
  simp only [byteLength_eq_utf8Len, String.utf8Len_append]

theorem byteLength_toList (s : String) : byteLength s.toList = s.utf8ByteSize := by
  rw [byteLength_eq_utf8Len, ← String.utf8ByteSize_ofList, String.ofList_toList]

theorem byteLength_pos {cs : List Char} (h : cs ≠ []) : 0 < byteLength cs := by
  obtain ⟨c, cs, rfl⟩ := List.exists_cons_of_ne_nil h
  exact Nat.lt_of_lt_of_le c.utf8Size_pos (Nat.le_add_right _ _)

/-- A byte is one of a character. -/
theorem exists_char_of_lt {cs : List Char} {k : Nat} (h : k < byteLength cs) :
    ∃ before c after, cs = before ++ c :: after ∧ byteLength before ≤ k ∧
      k < byteLength before + c.utf8Size := by
  induction cs generalizing k with
  | nil => exact absurd h (Nat.not_lt_zero _)
  | cons c cs ih =>
    by_cases hc : k < c.utf8Size
    · exact ⟨[], c, cs, rfl, Nat.zero_le _, by simpa [byteLength] using hc⟩
    · have hk : k - c.utf8Size < byteLength cs := by
        rw [byteLength] at h
        omega
      obtain ⟨before, d, after, rfl, hle, hlt⟩ := ih hk
      refine ⟨c :: before, d, after, rfl, ?_, ?_⟩ <;> rw [byteLength] <;> omega

theorem isValid_of_append (h : source.toList = before ++ after) :
    String.Pos.Raw.IsValid source ⟨byteLength before⟩ := by
  refine String.Pos.Raw.isValid_iff_exists_append.mpr
    ⟨String.ofList before, String.ofList after, ?_, ?_⟩
  · rw [← String.ofList_append, ← h, String.ofList_toList]
  · rw [byteLength_eq_utf8Len, ← String.utf8ByteSize_ofList]
    rfl

theorem extract_of_append (h : source.toList = before ++ mid ++ after) :
    String.Pos.Raw.extract source ⟨byteLength before⟩ ⟨byteLength before + byteLength mid⟩ =
      String.ofList mid := by
  rw [← String.ofList_toList (s := source), h, byteLength_eq_utf8Len, byteLength_eq_utf8Len]
  exact String.extract_of_valid before mid after

end Bytes

/-! ## How tokens lie in a text -/

/-- A token that is what its text is by itself. -/
structure Token.Alone (t : Token) : Prop where
  kind_ne_eof : t.kind ≠ .eof
  scan_eq : Lexeme.scan t.text = ⟨.ok t.kind, t.text, []⟩
  unblank : ∀ c ∈ t.text.head?, isBlank c = false

theorem Token.Alone.exists_cons {t : Token} (h : t.Alone) :
    ∃ c cs, t.text = c :: cs ∧ isBlank c = false := by
  cases htext : t.text with
  | nil =>
    have hscan := h.scan_eq
    rw [htext] at hscan
    exact absurd (Except.ok.inj (congrArg Lexeme.result hscan)).symm h.kind_ne_eof
  | cons c cs => exact ⟨c, cs, rfl, h.unblank c (by rw [htext]; rfl)⟩

theorem Token.Alone.start_lt_stop {t : Token} (h : t.Alone) : t.start < t.stop := by
  obtain ⟨c, cs, htext, -⟩ := h.exists_cons
  exact Nat.lt_add_of_pos_right (byteLength_pos (htext ▸ List.cons_ne_nil c cs))

/-- How tokens lie in a text that stands at a byte offset. -/
inductive Laid : Nat → List Char → List Token → Prop where
  | finish {offset : Nat} {blanks : List Char} : (∀ c ∈ blanks, isBlank c = true) →
    Laid offset blanks [⟨.eof, [], offset + byteLength blanks⟩]
  | token {offset : Nat} {blanks rest : List Char} {t : Token} {ts : List Token} :
    (∀ c ∈ blanks, isBlank c = true) → t.Alone → t.start = offset + byteLength blanks →
    Laid t.stop rest ts → Laid offset (blanks ++ (t.text ++ rest)) (t :: ts)

namespace Laid

variable {offset : Nat} {cs : List Char} {ts : List Token}

theorem offset_le_start (h : Laid offset cs ts) : ∀ t ∈ ts, offset ≤ t.start := by
  induction h with
  | finish => exact List.forall_mem_singleton.mpr (Nat.le_add_right _ _)
  | token _ halone hstart _ ih =>
    refine List.forall_mem_cons.mpr ⟨hstart ▸ Nat.le_add_right _ _, fun u hu => ?_⟩
    have hle := ih u hu
    have hlt := halone.start_lt_stop
    omega

/-- The spans are in order and disjoint. -/
theorem pairwise (h : Laid offset cs ts) : ts.Pairwise fun t u => t.stop ≤ u.start := by
  induction h with
  | finish => exact List.pairwise_singleton _ _
  | token _ _ _ hrest ih => exact List.pairwise_cons.mpr ⟨hrest.offset_le_start, ih⟩

/-- The last token is the end of the input, and all others are proper ones. -/
theorem exists_end (h : Laid offset cs ts) :
    ∃ us, ts = us ++ [⟨.eof, [], offset + byteLength cs⟩] ∧ ∀ t ∈ us, t.Alone := by
  induction h with
  | finish => exact ⟨[], rfl, nofun⟩
  | @token offset blanks rest t _ _ halone hstart _ ih =>
    obtain ⟨us, rfl, hus⟩ := ih
    refine ⟨t :: us, ?_, List.forall_mem_cons.mpr ⟨halone, hus⟩⟩
    have hstop : t.stop + byteLength rest =
        offset + byteLength (blanks ++ (t.text ++ rest)) := by
      rw [byteLength_append, byteLength_append, Token.stop, hstart]
      omega
    rw [hstop]
    rfl

/-- A byte in no span is one of a blank. -/
theorem outside {k : Nat} (h : Laid offset cs ts) (hk : offset ≤ k)
    (hend : k < offset + byteLength cs) (hts : ∀ t ∈ ts, k < t.start ∨ t.stop ≤ k) :
    ∃ before c after, cs = before ++ c :: after ∧ isBlank c = true ∧
      offset + byteLength before ≤ k ∧ k < offset + byteLength before + c.utf8Size := by
  induction h with
  | @finish offset blanks hblanks =>
    have hk' : k - offset < byteLength blanks := by omega
    obtain ⟨before, c, after, rfl, hle, hlt⟩ := exists_char_of_lt hk'
    exact ⟨before, c, after, rfl, hblanks c List.mem_append_cons_self, by omega, by omega⟩
  | @token offset blanks rest t ts hblanks halone hstart _ ih =>
    obtain ⟨ht, hts⟩ := List.forall_mem_cons.mp hts
    rw [byteLength_append, byteLength_append] at hend
    rcases ht with ht | ht
    · -- in front of the token
      have hk' : k - offset < byteLength blanks := by omega
      obtain ⟨before, c, after, rfl, hle, hlt⟩ := exists_char_of_lt hk'
      refine ⟨before, c, after ++ (t.text ++ rest), ?_, hblanks c List.mem_append_cons_self,
        by omega, by omega⟩
      rw [List.append_assoc, List.cons_append]
    · -- behind it
      rw [Token.stop] at ht
      obtain ⟨before, c, after, rfl, hc, hle, hlt⟩ := ih ht (by rw [Token.stop]; omega) hts
      rw [Token.stop] at hle hlt
      refine ⟨blanks ++ (t.text ++ before), c, after, ?_, hc, ?_, ?_⟩
      · rw [List.append_assoc, List.append_assoc]
      · rw [byteLength_append, byteLength_append]
        omega
      · rw [byteLength_append, byteLength_append]
        omega

/-- A token stands where its text is. -/
theorem exists_place (h : Laid offset cs ts) : ∀ t ∈ ts, ∃ before after,
    cs = before ++ t.text ++ after ∧ t.start = offset + byteLength before := by
  induction h with
  | @finish _ blanks => exact List.forall_mem_singleton.mpr ⟨blanks, [], by simp, rfl⟩
  | @token offset blanks rest t ts _ _ hstart _ ih =>
    refine List.forall_mem_cons.mpr ⟨⟨blanks, rest, (List.append_assoc _ _ _).symm, hstart⟩,
      fun u hu => ?_⟩
    obtain ⟨before, after, rfl, hu⟩ := ih u hu
    refine ⟨blanks ++ (t.text ++ before), after, by simp only [List.append_assoc], ?_⟩
    rw [hu, Token.stop, hstart, byteLength_append, byteLength_append]
    omega

end Laid

/-! ## How a source is laid out -/

namespace Cursor

theorem isBlank_of_mem_blanks (c : Cursor) : ∀ d ∈ c.rest.takeWhile isBlank, isBlank d = true :=
  fun _ hd => List.mem_takeWhile_imp hd

theorem unblank_skipBlank (c : Cursor) : ∀ d ∈ c.skipBlank.rest.head?, isBlank d = false := by
  intro d hd
  have h := List.head?_dropWhile_not isBlank c.rest
  rw [show (c.rest.dropWhile isBlank).head? = some d from hd] at h
  simpa using h

/-- Where a step that gives a token begins and ends. -/
theorem start_of_next {c after : Cursor} {t : Token} (h : c.next = (.ok t, after)) :
    t.start = c.skipBlank.offset ∧ after.offset = t.stop := by
  unfold next at h
  dsimp only at h
  split at h
  · obtain ⟨ht, rfl⟩ := Prod.mk.inj h
    obtain rfl := Except.ok.inj ht
    exact ⟨rfl, rfl⟩
  · exact absurd (Prod.mk.inj h).1 nofun
  · exact absurd (Prod.mk.inj h).1 nofun

theorem alone_of_next {c after : Cursor} {t : Token} (h : c.next = (.ok t, after))
    (ht : t.kind ≠ .eof) : t.Alone := by
  obtain ⟨hscan, htext, -⟩ := next_eq_ok h
  refine ⟨ht, ?_, fun d hd => ?_⟩
  · rw [htext]
    exact Lexeme.scan_text hscan
  · have hfront := congrArg List.head? (Lexeme.text_append_rest c.skipBlank.rest)
    rw [List.head?_append_of_ne_nil _ (Lexeme.text_ne_nil hscan ht), ← htext] at hfront
    exact c.unblank_skipBlank d (hfront ▸ hd)

/-- What a step that gives a token takes off. -/
theorem rest_of_next {c after : Cursor} {t : Token} (h : c.next = (.ok t, after)) :
    c.rest = c.rest.takeWhile isBlank ++ (t.text ++ after.rest) := by
  obtain ⟨-, htext, hrest⟩ := next_eq_ok h
  rw [htext, hrest, Lexeme.text_append_rest]
  exact List.takeWhile_append_dropWhile.symm

end Cursor

namespace Tokens

theorem laid_of_prepend {us : List Token} {offset : Nat} {c : Cursor}
    (h : ofCursor c = prepend us (.finish offset)) :
    Laid c.offset c.rest (us ++ [⟨.eof, [], offset⟩]) := by
  induction us generalizing c with
  | nil =>
    obtain ⟨t, after, hnext, ht, rfl⟩ := next_of_finish h
    obtain ⟨hscan, -, -⟩ := Cursor.next_eq_ok hnext
    rw [ht] at hscan
    have hnil : c.rest.dropWhile isBlank = [] := Lexeme.eq_nil_of_scan_eof hscan
    have hall : c.rest.takeWhile isBlank = c.rest := by
      conv_rhs => rw [← List.takeWhile_append_dropWhile (p := isBlank) (l := c.rest), hnil,
        List.append_nil]
    rw [(Cursor.start_of_next hnext).1, List.nil_append, Cursor.skipBlank, hall]
    exact .finish (hall ▸ c.isBlank_of_mem_blanks)
  | cons u us ih =>
    obtain ⟨after, hnext, ht, hrest⟩ := next_of_token h
    obtain ⟨hstart, hstop⟩ := Cursor.start_of_next hnext
    rw [Cursor.rest_of_next hnext]
    exact .token c.isBlank_of_mem_blanks (Cursor.alone_of_next hnext ht) hstart
      (hstop ▸ ih hrest)

end Tokens

theorem laid_of_tokenize {source : String} {ts : List Token} (h : tokenize source = .ok ts) :
    Laid 0 source.toList ts := by
  obtain ⟨us, offset, hsource, rfl⟩ := tokenize_eq_ok_iff.mp h
  exact Tokens.laid_of_prepend (Tokens.ofSource_eq source ▸ hsource)

/-! ## A token by itself -/

/-- The part of a source under the span of a token. -/
def Token.slice (source : String) (t : Token) : String :=
  String.Pos.Raw.extract source ⟨t.start⟩ ⟨t.stop⟩

/-- At the end of a source there is nothing but the end, as often as one asks. -/
theorem Cursor.next_nil (offset : Nat) :
    next ⟨offset, []⟩ = (.ok ⟨.eof, [], offset⟩, ⟨offset, []⟩) :=
  rfl

theorem Token.Alone.next_start {t : Token} (h : t.Alone) :
    (Cursor.start (String.ofList t.text)).next =
      (.ok ⟨t.kind, t.text, 0⟩, ⟨byteLength t.text, []⟩) := by
  obtain ⟨c, cs, htext, hc⟩ := h.exists_cons
  have hscan := h.scan_eq
  rw [Cursor.start, String.toList_ofList]
  rw [htext] at hscan ⊢
  rw [Cursor.next_of_scan hc hscan, Nat.zero_add]

/-- The text of a token scans to this token and no other. -/
theorem Token.Alone.tokenize_eq {t : Token} (h : t.Alone) :
    tokenize (String.ofList t.text) =
      .ok [⟨t.kind, t.text, 0⟩, ⟨.eof, [], byteLength t.text⟩] := by
  have hstream : Tokens.ofSource (String.ofList t.text) =
      .token ⟨t.kind, t.text, 0⟩ (.finish (byteLength t.text)) := by
    rw [Tokens.ofSource_eq, Tokens.ofCursor_eq, h.next_start]
    dsimp only
    rw [if_neg h.kind_ne_eof, Tokens.ofCursor_eq, Cursor.next_nil]
    rfl
  rw [tokenize, hstream]
  rfl

/-! ## The division of a source -/

/-- The tokens divide the source between themselves and its blanks, and each is what its part of
the source is by itself. -/
structure Partition (source : String) (ts : List Token) : Prop where
  ordered : ts.Pairwise fun t u => t.stop ≤ u.start
  ended : ∃ us, ts = us ++ [⟨.eof, [], source.utf8ByteSize⟩] ∧
    ∀ t ∈ us, t.kind ≠ .eof ∧ t.start < t.stop
  outside : ∀ k < source.utf8ByteSize, (∀ t ∈ ts, k < t.start ∨ t.stop ≤ k) →
    ∃ before c after, source.toList = before ++ c :: after ∧ isBlank c = true ∧
      byteLength before ≤ k ∧ k < byteLength before + c.utf8Size
  boundaries : ∀ t ∈ ts,
    String.Pos.Raw.IsValid source ⟨t.start⟩ ∧ String.Pos.Raw.IsValid source ⟨t.stop⟩
  slices : ∀ t ∈ ts, t.slice source = String.ofList t.text
  stepwise : ∀ t ∈ ts, ∃ after,
    (Cursor.start (t.slice source)).next = (.ok ⟨t.kind, t.text, 0⟩, after) ∧
    after.next = (.ok ⟨.eof, [], (t.slice source).utf8ByteSize⟩, after)
  alone : ∀ t ∈ ts, t.kind ≠ .eof → tokenize (t.slice source) =
    .ok [⟨t.kind, t.text, 0⟩, ⟨.eof, [], (t.slice source).utf8ByteSize⟩]

theorem Laid.partition {source : String} {ts : List Token} (h : Laid 0 source.toList ts) :
    Partition source ts := by
  obtain ⟨us, hts, hus⟩ := h.exists_end
  rw [Nat.zero_add, byteLength_toList] at hts
  have hslice : ∀ t ∈ ts, t.slice source = String.ofList t.text := by
    intro t ht
    obtain ⟨before, after, hsource, hstart⟩ := h.exists_place t ht
    rw [Nat.zero_add] at hstart
    rw [Token.slice, Token.stop, hstart]
    exact extract_of_append hsource
  have hsize : ∀ t ∈ ts, (t.slice source).utf8ByteSize = byteLength t.text := by
    intro t ht
    rw [hslice t ht, String.utf8ByteSize_ofList, byteLength_eq_utf8Len]
  have hkinds : ∀ t ∈ ts, t.Alone ∨ t = ⟨.eof, [], source.utf8ByteSize⟩ := by
    intro t ht
    rw [hts] at ht
    exact (List.mem_append.mp ht).imp (hus t) List.mem_singleton.mp
  refine ⟨h.pairwise, ⟨us, hts, fun t ht => ⟨(hus t ht).kind_ne_eof, (hus t ht).start_lt_stop⟩⟩,
    fun k hk hout => ?_, fun t ht => ?_, hslice, fun t ht => ?_, fun t ht hkind => ?_⟩
  · have hend : k < 0 + byteLength source.toList := by rwa [Nat.zero_add, byteLength_toList]
    simpa only [Nat.zero_add] using h.outside (Nat.zero_le k) hend hout
  · obtain ⟨before, after, hsource, hstart⟩ := h.exists_place t ht
    rw [Nat.zero_add] at hstart
    rw [Token.stop, hstart, ← byteLength_append]
    exact ⟨isValid_of_append (by rw [hsource, List.append_assoc]), isValid_of_append hsource⟩
  · refine ⟨⟨byteLength t.text, []⟩, ?_, ?_⟩
    · rw [hslice t ht]
      rcases hkinds t ht with halone | rfl
      · exact halone.next_start
      · rfl
    · rw [hsize t ht, Cursor.next_nil]
  · rw [hsize t ht, hslice t ht]
    refine ((hkinds t ht).resolve_right ?_).tokenize_eq
    rintro rfl
    exact hkind rfl

/-! ## Steps after errors -/

namespace Cursor

/-- The place after a step, whether it gives a token or an error. -/
def advance (c : Cursor) : Cursor :=
  c.next.2

/-- What the step after `n` steps gives. -/
def nth (c : Cursor) (n : Nat) : Except LexError Token :=
  (advance^[n] c).next.1

theorem advance_eq (c : Cursor) :
    c.advance = ⟨c.skipBlank.offset + byteLength (Lexeme.scan c.skipBlank.rest).text,
      (Lexeme.scan c.skipBlank.rest).rest⟩ := by
  unfold advance next
  dsimp only
  split <;> rfl

theorem next_eq (c : Cursor) : c.next = (c.nth 0, c.advance) :=
  rfl

/-- The place is where its rest begins in the source. -/
def Within (source : String) (c : Cursor) : Prop :=
  ∃ before, source.toList = before ++ c.rest ∧ c.offset = byteLength before

theorem within_start (source : String) : (start source).Within source :=
  ⟨[], rfl, rfl⟩

theorem Within.advance {source : String} {c : Cursor} (h : c.Within source) :
    c.advance.Within source := by
  obtain ⟨before, hsource, hoffset⟩ := h
  rw [advance_eq]
  refine ⟨before ++ (c.rest.takeWhile isBlank ++ (Lexeme.scan c.skipBlank.rest).text), ?_, ?_⟩
  · rw [List.append_assoc, List.append_assoc, Lexeme.text_append_rest, hsource]
    congr 1
    exact List.takeWhile_append_dropWhile.symm
  · rw [byteLength_append, byteLength_append, ← Nat.add_assoc, ← hoffset]
    rfl

theorem within_iterate (source : String) (n : Nat) :
    (Cursor.advance^[n] (start source)).Within source := by
  induction n with
  | zero => exact within_start source
  | succ n ih =>
    rw [Function.iterate_succ_apply']
    exact ih.advance

/-- What holds of a place in a source and of the step from it. -/
structure Steady (source : String) (c : Cursor) : Prop where
  boundary : String.Pos.Raw.IsValid source ⟨c.offset⟩
  bounded : c.offset ≤ source.utf8ByteSize
  monotone : c.offset ≤ c.advance.offset
  grows : ∀ t, c.next.1 = .ok t → t.kind ≠ .eof → c.offset < c.advance.offset

theorem Within.steady {source : String} {c : Cursor} (h : c.Within source) : c.Steady source := by
  obtain ⟨before, hsource, hoffset⟩ := h
  have hskip : c.offset ≤ c.skipBlank.offset := Nat.le_add_right _ _
  refine ⟨hoffset ▸ isValid_of_append hsource, ?_, ?_, fun t ht hkind => ?_⟩
  · rw [hoffset, ← byteLength_toList, hsource, byteLength_append]
    exact Nat.le_add_right _ _
  · rw [advance_eq]
    exact Nat.le_trans hskip (Nat.le_add_right _ _)
  · have hnext : c.next = (.ok t, c.advance) := Prod.ext ht rfl
    obtain ⟨hstart, hstop⟩ := start_of_next hnext
    have hlt := (alone_of_next hnext hkind).start_lt_stop
    rw [hstop]
    omega

end Cursor

theorem Cursor.nths_succ (c : Cursor) (n : Nat) :
    (List.range (n + 1)).mapM c.nth =
      (c.nth 0).bind fun t => ((List.range n).mapM c.advance.nth).map (t :: ·) := by
  rw [List.range_succ_eq_map, List.mapM_cons, List.mapM_map]
  cases c.nth 0 with
  | error e => rfl
  | ok t => rfl

/-- **The tokens from a place on** are what the steps give, up to the first that gives the end of
the input or an error. There is one before the characters run out. -/
theorem Tokens.toList_ofCursor (c : Cursor) :
    ∃ n ≤ c.rest.length, (∀ k < n, ∃ t, c.nth k = .ok t ∧ t.kind ≠ .eof) ∧
      (∀ t, c.nth n = .ok t → t.kind = .eof) ∧
      (ofCursor c).toList = (List.range (n + 1)).mapM c.nth := by
  induction hlen : c.rest.length using Nat.strong_induction_on generalizing c with
  | _ len ih =>
  have hnext := c.next_eq
  rw [ofCursor_eq, hnext]
  cases hfirst : c.nth 0 with
  | error e =>
    refine ⟨0, Nat.zero_le _, nofun, fun t ht => ?_, ?_⟩
    · rw [hfirst] at ht
      exact absurd ht nofun
    · rw [Cursor.nths_succ, hfirst]
      rfl
  | ok t =>
    rw [hfirst] at hnext
    dsimp only
    by_cases ht : t.kind = .eof
    · refine ⟨0, Nat.zero_le _, nofun, fun u hu => ?_, ?_⟩
      · rw [hfirst] at hu
        exact Except.ok.inj hu ▸ ht
      · obtain ⟨hscan, htext, -⟩ := Cursor.next_eq_ok hnext
        have heof : t = ⟨.eof, [], t.start⟩ := by
          rw [ht] at hscan
          rw [Lexeme.eq_nil_of_scan_eof hscan] at htext
          cases t
          cases ht
          cases htext
          rfl
        rw [if_pos ht, Cursor.nths_succ, hfirst, toList, ← heof]
        rfl
    · have hlt := Cursor.rest_length_lt_of_next hnext ht
      obtain ⟨n, hn, hproper, hend, hlist⟩ := ih _ (hlen ▸ hlt) c.advance rfl
      refine ⟨n + 1, by omega, fun k hk => ?_, hend, ?_⟩
      · cases k with
        | zero => exact ⟨t, hfirst, ht⟩
        | succ k => exact hproper k (Nat.lt_of_succ_lt_succ hk)
      · rw [if_neg ht, toList, hlist, Cursor.nths_succ c, hfirst]
        rfl

/-- **The tokens of a source divide it.** In a source that scans to its end they lie in order
between blanks, each on character boundaries and each what its part of the source is by itself.
Steps go on after errors; none leaves the source or the character boundaries or goes back, and each
token moves the place on. So the steps come to the end of the input or to an error, and the tokens
of the source are what they give up to there. -/
theorem tokenize_divides (source : String) :
    (∀ ts, tokenize source = .ok ts → Partition source ts) ∧
      (∀ n, (Cursor.advance^[n] (.start source)).Steady source) ∧
      ∃ n ≤ source.length,
        (∀ k < n, ∃ t, (Cursor.start source).nth k = .ok t ∧ t.kind ≠ .eof) ∧
        (∀ t, (Cursor.start source).nth n = .ok t → t.kind = .eof) ∧
        tokenize source = (List.range (n + 1)).mapM (Cursor.start source).nth := by
  refine ⟨fun ts hts => (laid_of_tokenize hts).partition,
    fun n => (Cursor.within_iterate source n).steady, ?_⟩
  rw [tokenize, Tokens.ofSource_eq, ← String.length_toList]
  exact Tokens.toList_ofCursor (Cursor.start source)

/-- Tokens that touch, characters of several bytes, and a string with a quote in it. -/
def touchingTokens : List Token :=
  [⟨.ident ['é'], ['é'], 0⟩, ⟨.ge, ['>', '='], 2⟩, ⟨.span ['-', '2', 'h'], ['-', '2', 'h'], 4⟩,
    ⟨.string ['ü', '"', ' '], ['"', 'ü', '\\', '"', ' ', '"'], 10⟩, ⟨.eof, [], 17⟩]

theorem touchingTokens_divide :
    tokenize "é>=-2h\u2003\"ü\\\" \"" = .ok touchingTokens ∧
      Partition "é>=-2h\u2003\"ü\\\" \"" touchingTokens :=
  ⟨rfl, (tokenize_divides "é>=-2h\u2003\"ü\\\" \"").1 touchingTokens rfl⟩

end ForgeBoard.Filter
