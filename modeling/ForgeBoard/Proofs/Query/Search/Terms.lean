import ForgeBoard.Proofs.Query.Search.Reading

/-!
# Search strings cut into terms

Double quotes hold a phrase of a search string together: blanks and parentheses end a term only
outside of them. `terms` cuts a text accordingly.

* `terms_eq_singleton_iff`: a text is a single term iff it is not empty and all its blanks and
  parentheses are `Enclosed` in quotes.
* `terms_append`: behind a text whose quotes are `Closed`, a blank or a parenthesis divides what
  stands before it from what stands after it.
* `Whole.terms_choice`, `Whole.terms_beside`: so single terms with closed quotes stay what they are
  when they are offered as alternatives or put side by side.
-/

namespace ForgeBoard.Query.Search

open Text

variable {quoted : Bool} {c d : Char} {cs xs ys : List Char} {s t : String} {ts : List String}

/-! ## Quotes -/

/-- A character that ends a term outside of quotes: a blank or a parenthesis. -/
def isDivider (c : Char) : Bool :=
  !isItemChar c

/-- Whether a quote is open after a character. -/
def afterChar (quoted : Bool) (c : Char) : Bool :=
  quoted != (c == '"')

/-- Whether a quote is open after some characters. -/
def afterChars (quoted : Bool) (cs : List Char) : Bool :=
  cs.foldl afterChar quoted

theorem afterChar_of_ne (quoted : Bool) (h : c ≠ '"') : afterChar quoted c = quoted := by
  rw [afterChar, beq_false_of_ne h, Bool.bne_false]

theorem afterChar_of_isDivider (quoted : Bool) (h : isDivider c = true) :
    afterChar quoted c = quoted := by
  refine afterChar_of_ne quoted ?_
  rintro rfl
  exact absurd h (by decide)

theorem afterChars_append (quoted : Bool) (xs ys : List Char) :
    afterChars quoted (xs ++ ys) = afterChars (afterChars quoted xs) ys :=
  List.foldl_append

/-- Every divider stands behind an odd number of quotes, the one that is open at first among
them. -/
def Enclosed (quoted : Bool) (cs : List Char) : Prop :=
  ∀ before c after, cs = before ++ c :: after → isDivider c = true →
    afterChars quoted before = true

/-- The quotes of a text are closed at its end. -/
def Closed (s : String) : Prop :=
  afterChars false s.toList = false

theorem enclosed_nil (quoted : Bool) : Enclosed quoted [] :=
  fun _ _ _ h => absurd h (by simp)

theorem enclosed_cons :
    Enclosed quoted (c :: cs) ↔
      (isDivider c = true → quoted = true) ∧ Enclosed (afterChar quoted c) cs := by
  constructor
  · intro h
    refine ⟨h [] c cs rfl, fun before d after hcs => ?_⟩
    exact h (c :: before) d after (congrArg (c :: ·) hcs)
  · rintro ⟨hc, hcs⟩ before d after heq hd
    cases before with
    | nil =>
      obtain ⟨rfl, rfl⟩ := List.cons.inj heq
      exact hc hd
    | cons b before =>
      obtain ⟨rfl, htail⟩ := List.cons.inj heq
      exact hcs before d after htail hd

/-- A character that is neither a divider nor a quote. -/
def isBare (c : Char) : Bool :=
  isItemChar c && c != '"'

theorem enclosed_append_iff (h : xs.all isBare = true) :
    Enclosed quoted (xs ++ ys) ↔ Enclosed quoted ys := by
  induction xs with
  | nil => rfl
  | cons x xs ih =>
    simp only [List.all_cons, isBare, Bool.and_eq_true, bne_iff_ne] at h
    obtain ⟨⟨hitem, hquote⟩, hxs⟩ := h
    have hx : isDivider x = false := by
      rw [isDivider, hitem]
      rfl
    rw [List.cons_append, enclosed_cons, afterChar_of_ne quoted hquote, ih hxs, hx]
    exact and_iff_right nofun

theorem closed_of_bare (h : s.toList.all isBare = true) : Closed s := by
  unfold Closed
  generalize s.toList = cs at h
  induction cs with
  | nil => rfl
  | cons c cs ih =>
    simp only [List.all_cons, isBare, Bool.and_eq_true, bne_iff_ne] at h
    rw [afterChars, List.foldl_cons, afterChar_of_ne false h.1.2]
    exact ih h.2

/-! ## Cutting -/

/-- The pieces between the dividers outside of quotes, empty ones included. -/
def cut (quoted : Bool) : List Char → List (List Char)
  | [] => [[]]
  | c :: cs =>
    if !quoted && isDivider c then [] :: cut false cs
    else
      match cut (afterChar quoted c) cs with
      | piece :: more => (c :: piece) :: more
      | [] => [[c]]

/-- The terms of a text: what stands between the dividers outside of quotes. -/
def terms (s : String) : List String :=
  ((cut false s.toList).filter (!·.isEmpty)).map String.ofList

theorem cut_ne_nil (quoted : Bool) (cs : List Char) : cut quoted cs ≠ [] := by
  cases cs with
  | nil => exact List.cons_ne_nil _ _
  | cons c cs =>
    unfold cut
    split
    · exact List.cons_ne_nil _ _
    · split <;> exact List.cons_ne_nil _ _

theorem cut_cons_of_divider (h : (!quoted && isDivider c) = true) (cs : List Char) :
    cut quoted (c :: cs) = [] :: cut false cs := by
  rw [cut, if_pos h]

theorem cut_cons_of_not {piece : List Char} {more : List (List Char)}
    (h : (!quoted && isDivider c) = false) (hcs : cut (afterChar quoted c) cs = piece :: more) :
    cut quoted (c :: cs) = (c :: piece) :: more := by
  rw [cut, if_neg (by simp [h]), hcs]

/-- **A divider outside of quotes** cuts what stands before it from what stands after it. -/
theorem cut_append (hd : isDivider d = true) (h : afterChars quoted xs = false) :
    cut quoted (xs ++ d :: ys) = cut quoted xs ++ cut false ys := by
  -- the state before `xs` varies; that no quote is open at the divider is what carries over
  induction xs generalizing quoted with
  | nil =>
    obtain rfl : quoted = false := h
    have houtside : (!false && isDivider d) = true := hd
    rw [List.nil_append, cut_cons_of_divider houtside]
    rfl
  | cons x xs ih =>
    cases hx : !quoted && isDivider x with
    | true =>
      obtain ⟨rfl, hdivider⟩ : quoted = false ∧ isDivider x = true := by simpa using hx
      have hrest : afterChars false xs = false := by
        rwa [afterChars, List.foldl_cons, afterChar_of_isDivider false hdivider] at h
      rw [List.cons_append, cut_cons_of_divider hx, ih hrest, cut_cons_of_divider hx,
        List.cons_append]
    | false =>
      obtain ⟨piece, more, hxs⟩ := List.exists_cons_of_ne_nil (cut_ne_nil (afterChar quoted x) xs)
      have hrest : cut (afterChar quoted x) (xs ++ d :: ys) = _ := ih h
      rw [hxs, List.cons_append] at hrest
      rw [List.cons_append, cut_cons_of_not hx hrest, cut_cons_of_not hx hxs, List.cons_append]

/-- Each cut takes one divider out of the text. -/
theorem length_cut (quoted : Bool) (cs : List Char) :
    (cut quoted cs).flatten.length + (cut quoted cs).length = cs.length + 1 := by
  induction cs generalizing quoted with
  | nil => rfl
  | cons c cs ih =>
    cases hc : !quoted && isDivider c with
    | true =>
      have hcs := ih false
      rw [cut_cons_of_divider hc, List.flatten_cons, List.nil_append, List.length_cons,
        List.length_cons]
      omega
    | false =>
      obtain ⟨piece, more, hpieces⟩ :=
        List.exists_cons_of_ne_nil (cut_ne_nil (afterChar quoted c) cs)
      have hcs := ih (afterChar quoted c)
      rw [hpieces] at hcs
      rw [cut_cons_of_not hc hpieces]
      simp only [List.flatten_cons, List.length_append, List.length_cons] at hcs ⊢
      omega

theorem cut_eq_singleton_iff : cut quoted cs = [cs] ↔ Enclosed quoted cs := by
  induction cs generalizing quoted with
  | nil => exact iff_of_true rfl (enclosed_nil quoted)
  | cons c cs ih =>
    rw [enclosed_cons, ← ih]
    cases hc : !quoted && isDivider c with
    | true =>
      obtain ⟨rfl, hdivider⟩ : quoted = false ∧ isDivider c = true := by simpa using hc
      rw [cut_cons_of_divider hc]
      exact iff_of_false (fun h => absurd (List.cons.inj h).1 nofun)
        fun h => absurd (h.1 hdivider) nofun
    | false =>
      obtain ⟨piece, more, hpieces⟩ :=
        List.exists_cons_of_ne_nil (cut_ne_nil (afterChar quoted c) cs)
      have hquoted : isDivider c = true → quoted = true := by
        intro hdivider
        simpa [hdivider] using hc
      rw [cut_cons_of_not hc hpieces, hpieces, and_iff_right hquoted]
      simp only [List.cons.injEq, true_and]

/-- **A text is a single term** iff it is not empty and every blank and parenthesis of it stands in
quotes. -/
theorem terms_eq_singleton_iff : terms s = [s] ↔ s ≠ "" ∧ Enclosed false s.toList := by
  rw [← cut_eq_singleton_iff]
  constructor
  · intro h
    have hpiece : (cut false s.toList).filter (!·.isEmpty) = [s.toList] := by
      obtain ⟨piece, hfilter, hs⟩ := List.map_eq_singleton_iff.mp h
      rw [hfilter, ← hs, String.toList_ofList]
    have hne : s.toList ≠ [] := by
      have hmem := hpiece ▸ List.mem_singleton_self s.toList
      simpa using (List.mem_filter.mp hmem).2
    -- no divider is left out, so there was nothing to cut
    have hflatten : (cut false s.toList).flatten = s.toList := by
      rw [← List.flatten_filter_not_isEmpty, hpiece, List.flatten_singleton]
    have hlength := length_cut false s.toList
    rw [hflatten] at hlength
    obtain ⟨piece, hcut⟩ := List.length_eq_one_iff.mp (Nat.add_left_cancel hlength)
    refine ⟨fun he => hne (String.toList_eq_nil_iff.mpr he), ?_⟩
    rw [hcut] at hflatten ⊢
    rw [← hflatten, List.flatten_singleton]
  · rintro ⟨hne, hcut⟩
    have hchars : s.toList ≠ [] := fun hnil => hne (String.toList_eq_nil_iff.mp hnil)
    rw [terms, hcut, List.filter_cons_of_pos (by simpa using hchars), List.filter_nil,
      List.map_singleton, String.ofList_toList]

/-! ## Strings put together -/

theorem terms_empty : terms "" = [] :=
  rfl

theorem Closed.append (hs : Closed s) (ht : Closed t) : Closed (s ++ t) := by
  have hfirst : afterChars false s.toList = false := hs
  rw [Closed, String.toList_append, afterChars_append, hfirst]
  exact ht

/-- **A mark that divides** cuts a string at its place, if no quote is open there. -/
theorem terms_append {mark : String} (hmark : mark.toList = [d]) (hd : isDivider d = true)
    (hs : Closed s) (t : String) : terms (s ++ mark ++ t) = terms s ++ terms t := by
  have hsplit : (s ++ mark ++ t).toList = s.toList ++ d :: t.toList := by
    rw [String.toList_append, String.toList_append, hmark, List.append_assoc, List.singleton_append]
  rw [terms, hsplit, cut_append hd hs, List.filter_append, List.map_append]
  rfl

/-- A term that leaves what stands around it alone. -/
structure Whole (s : String) : Prop where
  one : terms s = [s]
  closed : Closed s

theorem whole_or : Whole "OR" :=
  ⟨rfl, rfl⟩

/-- Alternatives. -/
theorem Whole.choice (h : ∀ t ∈ ts, Whole t) :
    terms (String.intercalate " OR " ts) = ts.intersperse "OR" ∧
      Closed (String.intercalate " OR " ts) := by
  induction ts with
  | nil => exact ⟨rfl, rfl⟩
  | cons t ts ih =>
    obtain ⟨ht, hts⟩ := List.forall_mem_cons.mp h
    cases ts with
    | nil => simpa using ⟨ht.one, ht.closed⟩
    | cons u ts =>
      obtain ⟨hterms, hclosed⟩ := ih hts
      have hsplit : t ++ " OR " ++ String.intercalate " OR " (u :: ts) =
          t ++ " " ++ ("OR" ++ " " ++ String.intercalate " OR " (u :: ts)) := by
        rw [show " OR " = " " ++ "OR" ++ " " from rfl]
        simp only [String.append_assoc]
      have hspace : Closed " " := rfl
      rw [String.intercalate_cons_cons, hsplit]
      refine ⟨?_, (ht.closed.append hspace).append
        ((whole_or.closed.append hspace).append hclosed)⟩
      rw [terms_append rfl (by decide) ht.closed, terms_append rfl (by decide) whole_or.closed,
        ht.one, whole_or.one, hterms]
      rfl

/-- Terms side by side. -/
theorem Whole.beside (h : ∀ t ∈ ts, Whole t) :
    terms (String.intercalate " " ts) = ts ∧ Closed (String.intercalate " " ts) := by
  induction ts with
  | nil => exact ⟨rfl, rfl⟩
  | cons t ts ih =>
    obtain ⟨ht, hts⟩ := List.forall_mem_cons.mp h
    cases ts with
    | nil => simpa using ⟨ht.one, ht.closed⟩
    | cons u ts =>
      obtain ⟨hterms, hclosed⟩ := ih hts
      have hspace : Closed " " := rfl
      rw [String.intercalate_cons_cons]
      refine ⟨?_, (ht.closed.append hspace).append hclosed⟩
      rw [terms_append rfl (by decide) ht.closed, ht.one, hterms]
      rfl

end ForgeBoard.Query.Search
