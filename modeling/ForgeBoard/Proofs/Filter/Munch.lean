import ForgeBoard.Proofs.Filter.Alone

/-!
# Where a token ends

A token takes all that goes on with it. Which characters go on with a token is told by its kind
(`TokenKind.goesOn`): an equals sign goes on with a lone `!`, `<` or `>`, a letter with a word, a
hyphen with a number without a sign. No blank goes on with any token.

* `Lexeme.stops_scan`: behind a token nothing stands that goes on with it.
* `Lexeme.scan_append`: a token is cut off whole before any text that does not go on with it.

Result: `Lexeme.scan_append_iff`.
-/

namespace ForgeBoard.Filter

open Text Lexeme

/-- Whether the character goes on with a token of the kind. -/
def TokenKind.goesOn : TokenKind → Char → Bool
  | ident _ | .and | .or | .not | within | bool _ => isWordChar
  | bang | gt | lt => (· == '=')
  | number ds => fun c => c.isDigit || isUnitLetter c || (c == '-' && ds.head? != some '-')
  | date _ => isDateChar
  | _ => fun _ => false

/-- **A blank goes on with no token.** -/
theorem TokenKind.goesOn_of_isBlank {c : Char} (h : isBlank c = true) (kind : TokenKind) :
    kind.goesOn c = false := by
  have hword : isWordChar c = false := isWordChar_of_isBlank h
  have heq : (c == '=') = false := eq_false_of_isBlank (p := (· == '=')) (by decide) h
  have hdate : isDateChar c = false := eq_false_of_isBlank (by decide) h
  have hunit : isUnitLetter c = false := eq_false_of_isBlank (by decide) h
  cases kind with
  | number ds =>
    obtain ⟨hdigit, hminus⟩ := Bool.or_eq_false_iff.mp hdate
    simp only [goesOn, hdigit, hunit, hminus, Bool.false_and, Bool.or_self]
  | ident | and | or | not | within | bool => exact hword
  | bang | gt | lt => exact heq
  | date => exact hdate
  | _ => rfl

namespace Lexeme

variable {c : Char} {cs ds w rest : List Char} {kind : TokenKind}

theorem stops_dropWhile (p : Char → Bool) (cs : List Char) : Stops p (cs.dropWhile p) := by
  intro d hd
  have h := List.head?_dropWhile_not p cs
  rw [show (cs.dropWhile p).head? = some d from hd] at h
  simpa using h

theorem stops_false (rest : List Char) : Stops (fun _ => false) rest :=
  fun _ _ => rfl

theorem goesOn_wordKind (w : List Char) : (wordKind w).goesOn = isWordChar := by
  unfold wordKind
  dsimp only
  split_ifs <;> rfl

/-! ## Nothing more to take -/

theorem stops_operator {short long : TokenKind} (hshort : short.goesOn = (· == '='))
    (hlong : long.goesOn = fun _ => false) (h : (operator short long c rest).result = .ok kind) :
    Stops kind.goesOn (operator short long c rest).rest := by
  unfold operator at h ⊢
  split at h
  · obtain rfl := Except.ok.inj h
    exact fun _ _ => congrFun hlong _
  next hne =>
    obtain rfl := Except.ok.inj h
    intro d hd
    rw [hshort, beq_eq_false_iff_ne]
    rintro rfl
    obtain ⟨tail, rfl⟩ := List.head?_eq_some_iff.mp hd
    exact hne tail rfl

theorem stops_amount {sign body : List Char}
    (hsign : sign = ['-'] ∨ sign = [] ∧ (body.dropWhile Char.isDigit).head? ≠ some '-')
    (h : (amount sign body).result = .ok kind) :
    Stops kind.goesOn (amount sign body).rest := by
  have hdigit := stops_dropWhile Char.isDigit body
  unfold amount at h ⊢
  dsimp only at h ⊢
  split at h
  · exact absurd h nofun
  next hne =>
  rw [if_neg hne]
  generalize body.dropWhile Char.isDigit = after at hsign hdigit h ⊢
  cases after with
  | nil => exact stops_nil _
  | cons d tail =>
    dsimp only at h ⊢
    split at h
    · next hunit =>
      obtain rfl := Except.ok.inj h
      rw [if_pos hunit]
      exact stops_false _
    · next hunit =>
      obtain rfl := Except.ok.inj h
      rw [if_neg hunit]
      refine stops_cons ?_
      -- a hyphen may stand behind a number with a sign only
      have hminus :
          (d == '-' && (sign ++ body.takeWhile Char.isDigit).head? != some '-') = false := by
        obtain rfl | ⟨rfl, hhead⟩ := hsign
        · exact Bool.and_false _
        · have hd : (d == '-') = false := by simpa using hhead
          rw [hd, Bool.false_and]
      simp only [TokenKind.goesOn, hdigit d rfl, Bool.eq_false_iff.mpr hunit, hminus, Bool.or_self]

theorem stops_numeral (h : (numeral cs).result = .ok kind) :
    Stops kind.goesOn (numeral cs).rest := by
  unfold numeral at h ⊢
  split at h
  · exact stops_amount (.inl rfl) h
  · split at h
    · next hdate =>
      obtain rfl := Except.ok.inj h
      rw [if_pos hdate]
      exact stops_dropWhile isDateChar _
    · next hdate =>
      rw [if_neg hdate]
      exact stops_amount (.inr ⟨rfl, hdate⟩) h

/-- **Behind a token nothing goes on with it.** -/
theorem stops_scan (h : (scan cs).result = .ok kind) : Stops kind.goesOn (scan cs).rest := by
  cases cs with
  | nil => exact nofun
  | cons c rest =>
    have hb := begins_scan c rest
    generalize scan (c :: rest) = l at h hb ⊢
    cases hb with
    | @mark k hk =>
      obtain rfl := Except.ok.inj h
      have hnone : k.goesOn = fun _ => false := by
        simp only [marks, List.mem_cons, List.not_mem_nil, or_false] at hk
        rcases hk with rfl | rfl | rfl | rfl | rfl | rfl <;> rfl
      exact hnone ▸ stops_false _
    | operator hk =>
      simp only [operators, List.mem_cons, Prod.mk.injEq, List.not_mem_nil, or_false] at hk
      rcases hk with ⟨rfl, rfl⟩ | ⟨rfl, rfl⟩ | ⟨rfl, rfl⟩ <;> exact stops_operator rfl rfl h
    | quoted =>
      unfold quoted at h ⊢
      split at h
      · obtain rfl := Except.ok.inj h
        exact stops_false _
      · exact absurd h nofun
    | word =>
      obtain rfl := Except.ok.inj h
      rw [goesOn_wordKind]
      exact stops_dropWhile isWordChar _
    | numeral => exact stops_numeral h
    | unexpected => exact absurd h nofun

/-! ## Whole tokens before other texts -/

/-- What follows a string is not looked at. -/
theorem ReadsString.append {value : List Char} {n : Nat} (h : ReadsString cs value n)
    (rest : List Char) : ReadsString (cs ++ rest) value n := by
  induction h with
  | close => exact .close _
  | pair c _ ih => exact .pair c ih
  | plain h1 h2 _ ih => exact .plain h1 h2 ih

theorem ReadsString.le_length {value : List Char} {n : Nat} (h : ReadsString cs value n) :
    n ≤ cs.length := by
  induction h with
  | close => exact Nat.le_add_left 1 _
  | pair c _ ih => exact Nat.add_le_add_right ih 2
  | plain _ _ _ ih => exact Nat.add_le_add_right ih 1

theorem mark_append {k : TokenKind} (h : mark k c w = ⟨.ok kind, c :: w, []⟩) (rest : List Char) :
    mark k c (w ++ rest) = ⟨.ok kind, c :: w, rest⟩ := by
  obtain ⟨hkind, -, rfl⟩ := Lexeme.mk.inj h
  rw [mark, hkind]
  rfl

theorem operator_append {short long : TokenKind} (hshort : short.goesOn = (· == '='))
    (h : operator short long c w = ⟨.ok kind, c :: w, []⟩) (hrest : Stops kind.goesOn rest) :
    operator short long c (w ++ rest) = ⟨.ok kind, c :: w, rest⟩ := by
  unfold operator at h
  split at h
  · obtain ⟨hkind, -, rfl⟩ := Lexeme.mk.inj h
    rw [← hkind]
    rfl
  · obtain ⟨hkind, -, rfl⟩ := Lexeme.mk.inj h
    obtain rfl := Except.ok.inj hkind
    unfold operator
    split
    · next tail heq =>
      have hstop := hrest '=' (by rw [show rest = '=' :: tail from heq]; rfl)
      rw [hshort] at hstop
      exact absurd hstop (by decide)
    · rfl

theorem quoted_append (h : quoted ('"' :: w) = ⟨.ok kind, '"' :: w, []⟩) (rest : List Char) :
    quoted ('"' :: (w ++ rest)) = ⟨.ok kind, '"' :: w, rest⟩ := by
  unfold quoted at h ⊢
  rw [List.tail_cons] at h ⊢
  split at h
  · next value n hbody =>
    obtain ⟨hkind, -, hdrop⟩ := Lexeme.mk.inj h
    have hreads := stringBody_eq_some_iff.mp hbody
    have hlen : n + 1 = ('"' :: w).length :=
      Nat.le_antisymm (Nat.succ_le_succ hreads.le_length) (List.drop_eq_nil_iff.mp hdrop)
    rw [stringBody_eq_some_iff.mpr (hreads.append rest)]
    dsimp only
    rw [← hkind, hlen, ← List.cons_append, List.take_left, List.drop_left]
  · exact absurd (Lexeme.mk.inj h).1 nofun

theorem amount_append {sign body : List Char}
    (h : amount sign body = ⟨.ok kind, sign ++ body, []⟩) (hrest : Stops kind.goesOn rest) :
    amount sign (body ++ rest) = ⟨.ok kind, sign ++ body, rest⟩ := by
  have hds : AllDigits (body.takeWhile Char.isDigit) := fun d hd => List.mem_takeWhile_imp hd
  have whole := List.takeWhile_append_dropWhile (p := Char.isDigit) (l := body)
  unfold amount at h
  dsimp only at h
  split at h
  · exact absurd (Lexeme.mk.inj h).1 nofun
  next hne =>
  have hne : body.takeWhile Char.isDigit ≠ [] := by simpa using hne
  split at h
  · next hnil =>
    rw [hnil, List.append_nil] at whole
    rw [whole] at h hne hds
    obtain ⟨hkind, -, -⟩ := Lexeme.mk.inj h
    obtain rfl := Except.ok.inj hkind
    have hgoes : ∀ d ∈ rest.head?, d.isDigit = false ∧ isUnitLetter d = false := fun d hd => by
      obtain ⟨hfirst, -⟩ := Bool.or_eq_false_iff.mp (hrest d hd)
      exact Bool.or_eq_false_iff.mp hfirst
    exact amount_number sign hne hds (fun d hd => (hgoes d hd).1) fun d hd => (hgoes d hd).2
  next d tail hcons =>
  split at h
  · next hunit =>
    obtain ⟨unit, rfl⟩ := exists_unit_of_isUnitLetter hunit
    obtain ⟨hkind, -, rfl⟩ := Lexeme.mk.inj h
    rw [hcons] at whole
    rw [← whole, List.append_assoc, List.singleton_append, amount_span sign hne hds unit, hkind,
      List.append_assoc]
  · exact absurd (Lexeme.mk.inj h).2.2 (List.cons_ne_nil _ _)

/-- Digits alone are a number before any text that does not go on with it. -/
theorem digits_append (hne : ds ≠ []) (hds : AllDigits ds)
    (hrest : Stops (TokenKind.number ds).goesOn rest) :
    numeral (ds ++ rest) = ⟨.ok (.number ds), ds, rest⟩ := by
  have hsign : (ds.head? != some '-') = true := by simpa using hds.head_ne_minus
  have hgoes : ∀ d ∈ rest.head?,
      (d.isDigit = false ∧ isUnitLetter d = false) ∧ (d == '-') = false := fun d hd => by
    have h := hrest d hd
    simpa only [TokenKind.goesOn, hsign, Bool.and_true, Bool.or_eq_false_iff] using h
  rw [numeral_digits hne hds (fun d hd => (hgoes d hd).1.1) fun d hd => (hgoes d hd).2]
  exact amount_number [] hne hds (fun d hd => (hgoes d hd).1.1) fun d hd => (hgoes d hd).1.2

theorem numeral_append (h : numeral w = ⟨.ok kind, w, []⟩) (hrest : Stops kind.goesOn rest) :
    numeral (w ++ rest) = ⟨.ok kind, w, rest⟩ := by
  cases hdrop : w.dropWhile Char.isDigit with
  | nil =>
    have hds : AllDigits w := List.dropWhile_eq_nil_iff.mp hdrop
    have hne : w ≠ [] := by
      rintro rfl
      exact absurd (Lexeme.mk.inj h).1 nofun
    have halone := digits_append hne hds (stops_nil _)
    rw [List.append_nil, h] at halone
    obtain rfl := Except.ok.inj (Lexeme.mk.inj halone).1
    exact digits_append hne hds hrest
  | cons d tail =>
    have hdrop' : (w ++ rest).dropWhile Char.isDigit = d :: tail ++ rest := by
      rw [List.dropWhile_append, hdrop]
      rfl
    unfold numeral at h ⊢
    split at h
    · exact amount_append h hrest
    next hminus =>
    split
    · next heq =>
      cases w with
      | nil => exact absurd hdrop nofun
      | cons c w =>
        obtain ⟨rfl, -⟩ := List.cons.inj heq
        exact absurd rfl (hminus w)
    rw [hdrop, List.head?_cons] at h
    rw [hdrop', List.cons_append, List.head?_cons]
    split at h
    · next hdate =>
      obtain ⟨hkind, htake, -⟩ := Lexeme.mk.inj h
      rw [htake] at hkind
      rw [← Except.ok.inj hkind] at hrest
      have hw := List.takeWhile_eq_self_iff.mp htake
      rw [if_pos hdate, takeWhile_append_of_stops hw hrest, dropWhile_append_of_stops hw hrest,
        hkind]
    · next hdate =>
      rw [if_neg hdate]
      exact amount_append h hrest

theorem word_append (h : word w = ⟨.ok kind, w, []⟩) (hrest : Stops kind.goesOn rest) :
    word (w ++ rest) = ⟨.ok kind, w, rest⟩ := by
  obtain ⟨hkind, htake, -⟩ := Lexeme.mk.inj h
  rw [← Except.ok.inj hkind, goesOn_wordKind] at hrest
  have hw := List.takeWhile_eq_self_iff.mp htake
  rw [htake] at hkind
  rw [word, takeWhile_append_of_stops hw hrest, dropWhile_append_of_stops hw hrest, hkind]

/-- **A token is cut off whole** before any text that does not go on with it. -/
theorem scan_append (h : scan w = ⟨.ok kind, w, []⟩) (hk : kind ≠ .eof)
    (hrest : Stops kind.goesOn rest) : scan (w ++ rest) = ⟨.ok kind, w, rest⟩ := by
  cases w with
  | nil => exact absurd (Except.ok.inj (congrArg Lexeme.result h)).symm hk
  | cons c w =>
    by_cases hc : c ∈ heads
    · simp only [heads, List.mem_cons, List.not_mem_nil, or_false] at hc
      rcases hc with rfl | rfl | rfl | rfl | rfl | rfl | rfl | rfl | rfl | rfl
      iterate 6
        · exact mark_append h rest
      iterate 3
        · exact operator_append rfl h hrest
      · exact quoted_append h rest
    · rw [List.cons_append, scan_of_not_mem_heads hc]
      rw [scan_of_not_mem_heads hc] at h
      split at h
      · next hword =>
        rw [if_pos hword]
        exact word_append h hrest
      · next hword =>
        rw [if_neg hword]
        split at h
        · next hnumeral =>
          rw [if_pos hnumeral]
          exact numeral_append h hrest
        · cases (Lexeme.mk.inj h).1

/-- **Where a token ends**: the text of a token is cut off whole iff what follows does not go on
with it. -/
theorem scan_append_iff (h : scan w = ⟨.ok kind, w, []⟩) (hk : kind ≠ .eof) :
    scan (w ++ rest) = ⟨.ok kind, w, rest⟩ ↔ Stops kind.goesOn rest := by
  refine ⟨fun hcut => ?_, scan_append h hk⟩
  have hstops := stops_scan (congrArg Lexeme.result hcut)
  rwa [hcut] at hstops

end Lexeme

/-- What a step leaves does not go on with its token. -/
theorem Cursor.stops_of_next {c after : Cursor} {t : Token} (h : c.next = (.ok t, after)) :
    Stops t.kind.goesOn after.rest := by
  obtain ⟨hscan, -, hafter⟩ := next_eq_ok h
  exact hafter ▸ stops_scan hscan

end ForgeBoard.Filter
