import ForgeBoard.Proofs.Filter.Legacy
import ForgeBoard.Proofs.Filter.Lexemes
import ForgeBoard.Proofs.Text.Quoted

/-!
# Phrases of a search string

A phrase stands between double quotes, and a backslash in it escapes a quote or a backslash and
nothing else. So it is written like a string of the filter language, and read like one.

* `phrase?_quote`: a quoted text is one phrase. What is read in it is the text with all characters
  spelled out that do not show.
* `inPhrase_of_phrase?`: what stands in a text that is one phrase, behind its opening quote, stands
  in a phrase.
* `inPhrase_padded_iff`: what has no quotes in it, around a text, changes nothing about its phrases.
-/

namespace ForgeBoard.Query.Search

open ForgeBoard.Filter Text

variable {s t : String} {cs xs ys value before front w after behind : List Char} {n : Nat}

/-- The content of a text that is one phrase. -/
def phrase? (s : String) : Option String :=
  match s.toList with
  | '"' :: body =>
    match Lexeme.stringBody body with
    | some (content, n) => if n = body.length then some (String.ofList content) else none
    | none => none
  | _ => none

theorem phrase?_eq_some_iff :
    phrase? s = some t ↔
      ∃ body, s.toList = '"' :: body ∧ Lexeme.stringBody body = some (t.toList, body.length) := by
  unfold phrase?
  constructor
  · intro h
    split at h
    · next body hs =>
      split at h
      · next content n hbody =>
        split at h
        · next hn =>
          obtain rfl := Option.some.inj h
          exact ⟨body, hs, by rw [hbody, hn, String.toList_ofList]⟩
        · exact absurd h nofun
      · exact absurd h nofun
    · exact absurd h nofun
  · rintro ⟨body, hs, hbody⟩
    simp [hs, hbody]

/-! ## Quoted texts -/

/-- Characters that are not escaped stand for themselves. -/
theorem stringBody_plain (h : ∀ c ∈ xs, ¬ IsEscapable c) (rest : List Char) :
    Lexeme.stringBody (xs ++ rest) =
      (Lexeme.stringBody rest).map fun (value, n) => (xs ++ value, n + xs.length) := by
  induction xs with
  | nil => simp
  | cons c xs ih =>
    obtain ⟨hc, hxs⟩ := List.forall_mem_cons.mp h
    obtain ⟨h1, h2⟩ := not_or.mp hc
    rw [List.cons_append, Lexeme.stringBody_of_ne h1 h2, ih hxs, Option.map_map]
    rfl

theorem stringBody_escapeChar (c : Char) (rest : List Char) :
    Lexeme.stringBody (escapeChar '"' c ++ rest) =
      (Lexeme.stringBody rest).map fun (value, n) =>
        (spelled c ++ value, n + (escapeChar '"' c).length) := by
  by_cases hc : IsEscapable c
  · rw [escapeChar_of_isEscapable hc, spelled, if_pos hc]
    exact Lexeme.stringBody_escape hc
  rw [spelled, if_neg hc]
  cases hvisible : isVisible c with
  | true =>
    rw [escapeChar_of_isVisible hvisible hc]
    exact stringBody_plain (List.forall_mem_singleton.mpr hc) rest
  | false =>
    obtain ⟨d, ds, heq, hplain⟩ := exists_escapeChar_of_not_isVisible hvisible
    obtain ⟨hd, hds⟩ := List.forall_mem_cons.mp hplain
    have hpair : Lexeme.stringBody ('\\' :: d :: (ds ++ rest)) =
        (Lexeme.stringBody (ds ++ rest)).map fun (value, n) => ('\\' :: d :: value, n + 2) := by
      rw [Lexeme.stringBody]
      exact congrArg (Option.map · _) (funext fun _ => congrArg (·, _) (if_neg hd))
    rw [heq, List.cons_append, List.cons_append, hpair, stringBody_plain hds, Option.map_map]
    rfl

theorem stringBody_quoted (cs : List Char) :
    Lexeme.stringBody (cs.flatMap (escapeChar '"') ++ ['"']) =
      some (cs.flatMap spelled, (cs.flatMap (escapeChar '"') ++ ['"']).length) := by
  induction cs with
  | nil => rfl
  | cons c cs ih =>
    have hlength (ys : List Char) :
        (escapeChar '"' c ++ ys).length = ys.length + (escapeChar '"' c).length := by
      rw [List.length_append, Nat.add_comm]
    rw [List.flatMap_cons, List.append_assoc, stringBody_escapeChar, ih, Option.map_some,
      List.flatMap_cons, hlength]

/-- **A quoted text** is one phrase. -/
theorem phrase?_quote (s : String) :
    phrase? (quote s) = some (String.ofList (s.toList.flatMap spelled)) := by
  have hchars : (quote s).toList = '"' :: (s.toList.flatMap (escapeChar '"') ++ ['"']) :=
    String.toList_ofList
  refine phrase?_eq_some_iff.mpr ⟨_, hchars, ?_⟩
  rw [stringBody_quoted, String.toList_ofList]

/-! ## Quotes that are open -/

/-- A quote is open behind the characters. -/
def opensQuote (cs : List Char) : Bool :=
  (cs.foldl QuoteState.step .outside).quoted

/-- What stands between the two texts stands in a phrase: a quote is open in front of it, and it is
closed behind it. -/
def InPhrase (before w after : List Char) : Prop :=
  opensQuote before = true ∧ ∃ xs ys, after = xs ++ ys ∧ opensQuote (before ++ w ++ xs) = false

/-- **In a string** a quote is open up to the closing one, and none behind it. -/
theorem quoted_of_readsString (h : Lexeme.ReadsString cs value n) :
    (∀ k < n, ((cs.take k).foldl QuoteState.step .inside).quoted = true) ∧
      ((cs.take n).foldl QuoteState.step .inside) = .outside := by
  induction h with
  | close rest =>
    refine ⟨fun k hk => ?_, rfl⟩
    obtain rfl : k = 0 := by omega
    rfl
  | pair c _ ih =>
    obtain ⟨hopen, hclosed⟩ := ih
    refine ⟨fun k hk => ?_, ?_⟩
    · match k with
      | 0 => rfl
      | 1 => rfl
      | k + 2 =>
        rw [List.take_succ_cons, List.take_succ_cons, List.foldl_cons, List.foldl_cons,
          step_step_inside]
        exact hopen k (by omega)
    · rw [List.take_succ_cons, List.take_succ_cons, List.foldl_cons, List.foldl_cons,
        step_step_inside, hclosed]
  | plain h1 h2 _ ih =>
    obtain ⟨hopen, hclosed⟩ := ih
    refine ⟨fun k hk => ?_, ?_⟩
    · cases k with
      | zero => rfl
      | succ k =>
        rw [List.take_succ_cons, List.foldl_cons, step_inside_of_ne h1 h2]
        exact hopen k (by omega)
    · rw [List.take_succ_cons, List.foldl_cons, step_inside_of_ne h1 h2, hclosed]

/-- **In a text that is one phrase**, all behind its opening quote stands in a phrase. -/
theorem inPhrase_of_phrase? (h : phrase? s = some t) (hs : s.toList = before ++ w ++ after)
    (hbefore : before ≠ []) (hw : w ≠ []) : InPhrase before w after := by
  obtain ⟨body, hbody, hread⟩ := phrase?_eq_some_iff.mp h
  obtain ⟨hopen, hclosed⟩ := quoted_of_readsString (Lexeme.stringBody_eq_some_iff.mp hread)
  obtain ⟨c, front, rfl⟩ := List.exists_cons_of_ne_nil hbefore
  rw [hbody, List.cons_append, List.cons_append] at hs
  obtain ⟨rfl, hsplit⟩ := List.cons.inj hs
  refine ⟨?_, after, [], (List.append_nil after).symm, ?_⟩
  · have hshort : front.length < body.length := by
      have hpos := List.length_pos_iff.mpr hw
      rw [hsplit, List.length_append, List.length_append]
      omega
    have htake : body.take front.length = front := by
      rw [hsplit, List.append_assoc, List.take_left]
    have hquoted := hopen front.length hshort
    rw [htake] at hquoted
    exact hquoted
  · rw [List.take_length] at hclosed
    rw [List.cons_append, List.cons_append, ← hsplit]
    exact congrArg QuoteState.quoted hclosed

/-! ## Texts without quotes -/

/-- Only a quote opens or closes a phrase. -/
theorem quoted_foldl_of_no_quote (h : '"' ∉ cs) (state : QuoteState) :
    (cs.foldl QuoteState.step state).quoted = state.quoted := by
  induction cs generalizing state with
  | nil => rfl
  | cons c cs ih =>
    obtain ⟨hc, hcs⟩ := not_or.mp (mt List.mem_cons.mpr h)
    have hstep : (state.step c).quoted = state.quoted := by
      unfold QuoteState.step
      split
      · split <;> rfl
      · rw [if_neg (Ne.symm hc)]
    rw [List.foldl_cons, ih hcs, hstep]

theorem opensQuote_append_of_no_quote (h : '"' ∉ ys) (xs : List Char) :
    opensQuote (xs ++ ys) = opensQuote xs := by
  rw [opensQuote, List.foldl_append, quoted_foldl_of_no_quote h]
  rfl

theorem foldl_step_outside (h : '"' ∉ cs) : cs.foldl QuoteState.step .outside = .outside := by
  induction cs with
  | nil => rfl
  | cons c cs ih =>
    obtain ⟨hc, hcs⟩ := not_or.mp (mt List.mem_cons.mpr h)
    rw [List.foldl_cons, step_outside_of_ne (Ne.symm hc), ih hcs]

theorem opensQuote_of_no_quote_append (h : '"' ∉ xs) (ys : List Char) :
    opensQuote (xs ++ ys) = opensQuote ys := by
  rw [opensQuote, List.foldl_append, foldl_step_outside h]
  rfl

/-- What has no quotes in it, around a string, changes nothing about its phrases. -/
theorem inPhrase_padded_iff (hxs : '"' ∉ xs) (hys : '"' ∉ ys) :
    InPhrase (xs ++ front) w (behind ++ ys) ↔ InPhrase front w behind := by
  unfold InPhrase
  simp only [List.append_assoc, opensQuote_of_no_quote_append hxs]
  refine and_congr_right fun _ => ?_
  constructor
  · rintro ⟨ends, rest, hsplit, hclosed⟩
    rcases List.append_eq_append_iff.mp hsplit with ⟨blanks, rfl, hblanks⟩ | ⟨mid, rfl, -⟩
    · refine ⟨behind, [], (List.append_nil _).symm, ?_⟩
      have hno : '"' ∉ blanks := fun h => hys (hblanks ▸ List.mem_append_left _ h)
      rwa [← List.append_assoc, ← List.append_assoc, opensQuote_append_of_no_quote hno,
        List.append_assoc] at hclosed
    · exact ⟨ends, mid, rfl, hclosed⟩
  · rintro ⟨ends, rest, rfl, hclosed⟩
    exact ⟨ends, rest ++ ys, List.append_assoc _ _ _, hclosed⟩

/-- At the end there is nothing left that could close a phrase. -/
theorem not_inPhrase_nil (h : '"' ∉ w) : ¬ InPhrase before w [] := by
  rintro ⟨hopen, ends, rest, hsplit, hclosed⟩
  obtain ⟨rfl, -⟩ := List.append_eq_nil_iff.mp hsplit.symm
  rw [List.append_nil, opensQuote_append_of_no_quote h, hopen] at hclosed
  exact absurd hclosed nofun

end ForgeBoard.Query.Search
