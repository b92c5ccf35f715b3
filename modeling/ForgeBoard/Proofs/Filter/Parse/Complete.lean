import ForgeBoard.Proofs.Filter.Parse.Sound

/-!
# Every phrase is read

`Accepts C p ks a`: on any stream that begins with tokens of the kinds `ks`, the parser `p` takes
just these tokens and gives `a`, provided that the stream goes on without an error and that the
kind of the next token satisfies `C`. Only the loops over a separator look at that kind.

* One rule for each primitive in front of a continuation (`accepts_take_bind` and so on).
* `accepts_value`, `accepts_members`, `accepts_membership`, `accepts_condition`: what a phrase
  stands for is read from it.
* `accepts_of_phrase`: the same for expressions, by induction on the phrase. A loop is followed
  through the phrase from the left (`Chains`).

Result: `parse_eq_ok_iff`, a source is read as a filter iff its tokens are a phrase of it.
-/

namespace ForgeBoard.Filter

open Text

namespace Parse

variable {α β : Type} {C : TokenKind → Prop} {k : TokenKind} {ks ls : List TokenKind} {a : α}

/-! ## Rules of acceptance -/

/-- The parser takes tokens of the kinds `ks` and gives `a`, before a token of a kind in `C`. -/
def Accepts (C : TokenKind → Prop) (p : Parse α) (ks : List TokenKind) (a : α) : Prop :=
  ∀ used rest, used.map Token.kind = ks → rest.Unbroken → C rest.front →
    p (.prepend used rest) = .ok (a, rest)

/-- Any kind of token may follow. -/
def Anything : TokenKind → Prop := fun _ => True

theorem accepts_pure (a : α) : Accepts C (pure a) [] a := by
  intro used rest hused _ _
  obtain rfl := List.map_eq_nil_iff.mp hused
  rfl

theorem bind_of_eq_ok {x : Parse α} {f : α → Parse β} {ts mid : Tokens} (h : x ts = .ok (a, mid)) :
    (x >>= f) ts = f a mid := by
  show (x ts >>= fun p => f p.1 p.2) = _
  rw [h]
  rfl

/-- A parser that is followed by another one, before the first token of the other. -/
theorem Accepts.bindBefore {D : TokenKind → Prop} {x : Parse α} {f : α → Parse β} {b : β}
    (hx : Accepts D x ks a) (hD : D k) (hf : Accepts C (f a) (k :: ls) b) :
    Accepts C (x >>= f) (ks ++ k :: ls) b := by
  intro used rest hused hrest hC
  obtain ⟨us, vs, rfl, hus, hvs⟩ := List.map_eq_append_iff.mp hused
  obtain ⟨t, ws, rfl, rfl, -⟩ := List.map_eq_cons_iff.mp hvs
  rw [Tokens.prepend_append, Tokens.prepend_cons,
    bind_of_eq_ok (hx us (.token t (.prepend ws rest)) hus trivial hD)]
  exact hf (t :: ws) rest hvs hrest hC

/-- A parser that is followed by another one. -/
theorem Accepts.bind {x : Parse α} {f : α → Parse β} {b : β} (hx : Accepts Anything x ks a)
    (hf : Accepts C (f a) ls b) : Accepts C (x >>= f) (ks ++ ls) b := by
  intro used rest hused hrest hC
  obtain ⟨us, vs, rfl, hus, hvs⟩ := List.map_eq_append_iff.mp hused
  rw [Tokens.prepend_append, bind_of_eq_ok (hx us _ hus (Tokens.unbroken_prepend hrest) trivial)]
  exact hf vs rest hvs hrest hC

theorem Accepts.bindOne {x : Parse α} {f : α → Parse β} {b : β} (hx : Accepts Anything x [k] a)
    (hf : Accepts C (f a) ls b) : Accepts C (x >>= f) (k :: ls) b :=
  Accepts.bind hx hf

/-- A result that is turned into another one. -/
theorem Accepts.map {x : Parse α} {b : β} (hx : Accepts C x ks a) {g : α → β} (hg : g a = b) :
    Accepts C (do return g (← x)) ks b := by
  intro used rest hused hrest hC
  rw [bind_of_eq_ok (hx used rest hused hrest hC), hg]
  rfl

theorem accepts_current_bind {f : Token → Parse α}
    (h : ∀ t : Token, t.kind = k → Accepts C (f t) (k :: ks) a) :
    Accepts C (current >>= f) (k :: ks) a := by
  intro used rest hused hrest hC
  obtain ⟨t, us, rfl, ht, hus⟩ := List.map_eq_cons_iff.mp hused
  exact h t ht (t :: us) rest hused hrest hC

theorem take_token {t : Token} {rest : Tokens} (h : rest.Unbroken) :
    take (.token t rest) = .ok (t, rest) := by
  cases rest with
  | token | finish => rfl
  | broken e => exact h.elim

theorem accepts_take_bind {f : Token → Parse α}
    (h : ∀ t : Token, t.kind = k → Accepts C (f t) ks a) :
    Accepts C (take >>= f) (k :: ks) a := by
  intro used rest hused hrest hC
  obtain ⟨t, us, rfl, ht, hus⟩ := List.map_eq_cons_iff.mp hused
  rw [Tokens.prepend_cons, bind_of_eq_ok (take_token (Tokens.unbroken_prepend hrest))]
  exact h t ht us rest hus hrest hC

theorem accepts_discard_take : Accepts Anything (discard take : Parse Unit) [k] () := by
  intro used rest hused hrest _
  obtain ⟨t, us, rfl, -, hus⟩ := List.map_eq_cons_iff.mp hused
  obtain rfl := List.map_eq_nil_iff.mp hus
  cases rest with
  | token | finish => rfl
  | broken e => exact hrest.elim

theorem accepts_atKind_bind {kind : TokenKind} {f : Bool → Parse α}
    (h : Accepts C (f (decide (k = kind))) (k :: ks) a) :
    Accepts C (atKind kind >>= f) (k :: ks) a := by
  intro used rest hused hrest hC
  obtain ⟨t, us, rfl, ht, hus⟩ := List.map_eq_cons_iff.mp hused
  have := h (t :: us) rest hused hrest hC
  rw [← ht] at this
  exact this

theorem accepts_expect {c : Complaint} : Accepts Anything (expect k c) [k] () := by
  refine accepts_current_bind fun t ht => ?_
  rw [if_pos ht]
  exact accepts_discard_take

theorem accepts_remaining_bind {f : Nat → Parse α}
    (h : ∀ n, ks.length ≤ n → Accepts C (f n) ks a) : Accepts C (remaining >>= f) ks a := by
  intro used rest hused hrest hC
  refine h _ ?_ used rest hused hrest hC
  rw [Tokens.length_prepend, ← hused, List.length_map]
  exact Nat.le_add_right _ _

/-! ## Values and conditions -/

theorem accepts_value {v : Value} (h : ValuePhrase ks v) :
    ∀ {fuel}, 2 ≤ fuel → Accepts Anything (value fuel) ks v := by
  intro fuel hfuel
  obtain ⟨fuel, rfl⟩ := Nat.exists_eq_add_of_le' hfuel
  -- a time span is read with any fuel, also within a call
  have span : ∀ fuel {cs d}, SpanText cs d →
      Accepts Anything (value (fuel + 1)) [.span cs] (.span d) := by
    intro fuel cs d hd
    refine accepts_take_bind fun t ht => ?_
    simp only [ht, TimeSpan.ofChars?_eq_some_iff.mpr hd]
    exact accepts_pure _
  cases h with
  | text s | bool b =>
    refine accepts_take_bind fun t ht => ?_
    simp only [ht]
    exact accepts_pure _
  | number hn =>
    refine accepts_take_bind fun t ht => ?_
    simp only [ht, readInt64?_eq_some_iff.mpr hn]
    exact accepts_pure _
  | date hd =>
    refine accepts_take_bind fun t ht => ?_
    simp only [ht, Date.ofDigits?_eq_some_iff.mpr ⟨hd, rfl⟩]
    exact accepts_pure _
  | span hd => exact span _ hd
  | last hname hd =>
    refine accepts_take_bind fun t ht => ?_
    simp only [ht, if_pos hname]
    refine Accepts.bindOne accepts_expect ?_
    refine accepts_current_bind fun place _ => ?_
    refine Accepts.bindOne (span _ hd) ?_
    exact Accepts.bindOne accepts_expect (accepts_pure _)

theorem accepts_anyValue {v : Value} (h : ValuePhrase ks v) : Accepts Anything anyValue ks v := by
  refine accepts_remaining_bind fun n hn => accepts_value h ?_
  obtain ⟨k, ls, rfl, -, -⟩ := h.head_ne_closeBracket
  rw [List.length_cons] at hn
  omega

theorem accepts_members_close (fuel : Nat) :
    Accepts Anything (members (fuel + 1)) [.closeBracket] [] := by
  refine accepts_atKind_bind ?_
  rw [decide_eq_true rfl, if_pos rfl]
  exact Accepts.bind accepts_discard_take (accepts_pure _)

/-- What is read after a value of a list, whatever the value begins with. -/
theorem accepts_members_value {fuel : Nat} {v : Value} {vs : List Value} (hv : ValuePhrase ks v)
    (h : Accepts Anything (do
      if ← atKind .comma then
        discard take
        return v :: (← members fuel)
      else if ← atKind .closeBracket then
        return v :: (← members fuel)
      else complain .expectedCommaOrBracket (← current)) ls vs) :
    Accepts Anything (members (fuel + 1)) (ks ++ ls) vs := by
  obtain ⟨k, ms, rfl, hk, -⟩ := hv.head_ne_closeBracket
  refine accepts_atKind_bind ?_
  rw [decide_eq_false hk, if_neg nofun]
  exact Accepts.bind (accepts_anyValue hv) h

theorem accepts_members_comma {fuel : Nat} {v : Value} {vs : List Value} (hv : ValuePhrase ks v)
    (h : Accepts Anything (members fuel) ls vs) :
    Accepts Anything (members (fuel + 1)) (ks ++ .comma :: ls) (v :: vs) := by
  refine accepts_members_value hv (accepts_atKind_bind ?_)
  rw [decide_eq_true rfl, if_pos rfl]
  exact Accepts.bindOne accepts_discard_take (h.map rfl)

theorem accepts_members_last {fuel : Nat} {v : Value} (hv : ValuePhrase ks v) :
    Accepts Anything (members (fuel + 2)) (ks ++ [.closeBracket]) [v] := by
  refine accepts_members_value hv (accepts_atKind_bind ?_)
  rw [decide_eq_false nofun, if_neg nofun]
  refine accepts_atKind_bind ?_
  rw [decide_eq_true rfl, if_pos rfl]
  exact (accepts_members_close fuel).map rfl

theorem accepts_members_items {vs : List Value} (h : ItemsPhrase ks vs) :
    ∀ {fuel}, ks.length < fuel →
      Accepts Anything (members fuel) (ks ++ [.closeBracket]) vs ∧
      Accepts Anything (members fuel) (ks ++ [.comma, .closeBracket]) vs := by
  induction h with
  | one hv =>
    intro fuel hfuel
    obtain ⟨k, ls, rfl, -, -⟩ := hv.head_ne_closeBracket
    rw [List.length_cons] at hfuel
    obtain ⟨fuel, rfl⟩ := Nat.exists_eq_add_of_le' (show 2 ≤ fuel by omega)
    exact ⟨accepts_members_last hv, accepts_members_comma hv (accepts_members_close fuel)⟩
  | more hv _ ih =>
    intro fuel hfuel
    rw [List.length_append, List.length_cons] at hfuel
    obtain ⟨fuel, rfl⟩ := Nat.exists_eq_add_of_le' (show 1 ≤ fuel by omega)
    obtain ⟨h1, h2⟩ := ih (show _ < fuel by omega)
    rw [List.append_assoc, List.append_assoc]
    exact ⟨accepts_members_comma hv h1, accepts_members_comma hv h2⟩

theorem accepts_members {vs : List Value} (h : ListPhrase (.openBracket :: ks) vs) {fuel : Nat}
    (hfuel : ks.length ≤ fuel) : Accepts Anything (members fuel) ks vs := by
  generalize hl : TokenKind.openBracket :: ks = ms at h
  cases h with
  | empty =>
    obtain rfl := List.tail_eq_of_cons_eq hl
    obtain ⟨fuel, rfl⟩ := Nat.exists_eq_add_of_le' (show 1 ≤ fuel from hfuel)
    exact accepts_members_close fuel
  | items hi =>
    obtain rfl := List.tail_eq_of_cons_eq hl
    rw [List.length_append, List.length_singleton] at hfuel
    exact (accepts_members_items hi hfuel).1
  | itemsComma hi =>
    obtain rfl := List.tail_eq_of_cons_eq hl
    rw [List.length_append, List.length_cons, List.length_singleton] at hfuel
    exact (accepts_members_items hi (by omega)).2

theorem accepts_membership {op : MemberOp} {operand : Operand} (h : MembersPhrase ks operand) :
    Accepts Anything (membership op) ks operand := by
  cases h with
  | list hl =>
    obtain ⟨ms, rfl⟩ := hl.head_eq_openBracket
    refine accepts_atKind_bind ?_
    rw [decide_eq_true rfl, if_pos rfl]
    refine Accepts.bindOne accepts_discard_take ?_
    refine accepts_remaining_bind fun n hn => ?_
    exact (accepts_members hl (Nat.le_succ_of_le hn)).map rfl
  | last hv =>
    obtain ⟨k, ms, rfl, -, hk⟩ := hv.head_ne_closeBracket
    refine accepts_atKind_bind ?_
    rw [decide_eq_false hk, if_neg nofun]
    refine accepts_current_bind fun t _ => ?_
    rw [← List.append_nil (k :: ms)]
    exact Accepts.bind (accepts_anyValue hv) (accepts_pure _)

/-- After its field, a condition is read from its phrase. -/
theorem accepts_condition {field : List Char} {p : Predicate}
    (h : ConditionPhrase (.ident field :: ks) p) :
    Accepts Anything (condition (String.ofList field)) ks p := by
  cases h with
  | compare _ op hv =>
    refine accepts_current_bind fun t ht => ?_
    have next : Accepts Anything (do
        discard take
        return .compare (String.ofList field) op (← anyValue) : Parse Predicate) (op.kind :: _) _ :=
      Accepts.bindOne accepts_discard_take ((accepts_anyValue hv).map rfl)
    cases op <;> (simp only [CompareOp.kind] at ht; simp only [ht]; exact next)
  | member _ op hm =>
    cases op with
    | within =>
      refine accepts_current_bind fun t ht => ?_
      simp only [ht]
      exact Accepts.bindOne accepts_discard_take ((accepts_membership hm).map rfl)
    | notWithin =>
      refine accepts_current_bind fun t ht => ?_
      simp only [ht]
      refine Accepts.bindOne accepts_discard_take ?_
      exact Accepts.bindOne accepts_expect ((accepts_membership hm).map rfl)

theorem accepts_predicate {p : Predicate} (h : ConditionPhrase ks p) :
    Accepts Anything predicate ks (.predicate p) := by
  obtain ⟨field, ms, rfl⟩ := h.head_eq_ident
  refine accepts_current_bind fun t ht => ?_
  simp only [ht]
  exact Accepts.bindOne accepts_discard_take ((accepts_condition h).map rfl)

/-! ## Loops over a separator -/

section

variable {D : TokenKind → Prop} {separator : TokenKind} {node : Expr → Expr → Expr}
  {operand : Parse Expr} {l r e : Expr}

theorem atKind_of_unbroken {rest : Tokens} (hrest : rest.Unbroken) :
    atKind k rest = .ok (decide (rest.front = k), rest) := by
  cases rest with
  | token | finish => rfl
  | broken err => exact hrest.elim

theorem chainRest_stop {rest : Tokens} (hrest : rest.Unbroken) (h : rest.front ≠ separator) :
    ∀ fuel, chainRest separator node operand fuel e rest = .ok (e, rest)
  | 0 => rfl
  | fuel + 1 => by
    have hat : atKind separator rest = .ok (false, rest) := by
      rw [atKind_of_unbroken hrest, decide_eq_false h]
    show (atKind separator >>= fun b => _) rest = _
    rw [bind_of_eq_ok hat]
    rfl

theorem chainRest_more {t : Token} {rest mid : Tokens} (ht : t.kind = separator)
    (hrest : rest.Unbroken) (hr : operand rest = .ok (r, mid)) (fuel : Nat) :
    chainRest separator node operand (fuel + 1) l (.token t rest) =
      chainRest separator node operand fuel (node l r) mid := by
  have hat : atKind separator (.token t rest) = .ok (true, .token t rest) := by
    rw [atKind_of_unbroken (show (Tokens.token t rest).Unbroken from trivial), Tokens.front,
      decide_eq_true ht]
  have hdiscard : (discard take : Parse Unit) (.token t rest) = .ok ((), rest) :=
    accepts_discard_take [t] rest rfl hrest trivial
  show (atKind separator >>= fun b => _) (Tokens.token t rest) = _
  rw [bind_of_eq_ok hat, if_pos rfl, bind_of_eq_ok hdiscard, bind_of_eq_ok hr]

/-- After tokens of the kinds `ks`, the loop has grouped them into `e` and is to go on, with enough
fuel for the rest. -/
def Chains (D : TokenKind → Prop) (separator : TokenKind) (node : Expr → Expr → Expr)
    (operand : Parse Expr) (ks : List TokenKind) (e : Expr) : Prop :=
  ∀ used rest, used.map Token.kind = ks → rest.Unbroken → D rest.front →
    ∃ fuel, rest.length ≤ fuel ∧ chain separator node operand (.prepend used rest) =
      chainRest separator node operand fuel e rest

theorem chains_one (h : Accepts D operand ks e) : Chains D separator node operand ks e := by
  intro used rest hused hrest hD
  refine ⟨rest.length, Nat.le_refl _, ?_⟩
  show (operand >>= fun left => _) (Tokens.prepend used rest) = _
  rw [bind_of_eq_ok (h used rest hused hrest hD)]
  rfl

theorem Chains.more (hl : Chains D separator node operand ks l) (hD : D separator)
    (hr : Accepts D operand ls r) :
    Chains D separator node operand (ks ++ separator :: ls) (node l r) := by
  intro used rest hused hrest hfront
  obtain ⟨us, vs, rfl, hus, hvs⟩ := List.map_eq_append_iff.mp hused
  obtain ⟨t, ws, rfl, ht, hws⟩ := List.map_eq_cons_iff.mp hvs
  obtain ⟨fuel, hfuel, hchain⟩ :=
    hl us (.token t (.prepend ws rest)) hus trivial (by rwa [Tokens.front, ht])
  rw [Tokens.length, Tokens.length_prepend] at hfuel
  obtain ⟨fuel, rfl⟩ := Nat.exists_eq_add_of_le' (show 1 ≤ fuel by omega)
  refine ⟨fuel, by omega, ?_⟩
  rw [Tokens.prepend_append, Tokens.prepend_cons, hchain]
  exact chainRest_more ht (Tokens.unbroken_prepend hrest) (hr ws rest hws hrest hfront) fuel

/-- The loop ends before any token that is not the separator. -/
theorem Chains.accepts (h : Chains D separator node operand ks e) :
    Accepts (fun k => D k ∧ k ≠ separator) (chain separator node operand) ks e := by
  intro used rest hused hrest hfront
  obtain ⟨fuel, -, hchain⟩ := h used rest hused hrest hfront.1
  rw [hchain]
  exact chainRest_stop hrest hfront.2 fuel

end

/-! ## Expressions -/

/-- What it is for a phrase of a level to be read, with operands nested less than `n` deep. -/
def Accepted (n : Nat) (ks : List TokenKind) (e : Expr) : Level → Prop
  | .operand => Accepts Anything (unary n) ks e
  | .conjunction => Chains Anything .and (.binary .and) (unary n) ks e
  | .disjunction => Chains (· ≠ .and) .or (.binary .or) (chain .and (.binary .and) (unary n)) ks e

theorem Accepted.accepts_chain {n : Nat} {e : Expr} (h : Accepted n ks e .conjunction) :
    Accepts (· ≠ .and) (chain .and (.binary .and) (unary n)) ks e :=
  fun used rest hused hrest hfront => Chains.accepts h used rest hused hrest ⟨trivial, hfront⟩

theorem Accepted.accepts_disjunction {n : Nat} {e : Expr} (h : Accepted n ks e .disjunction) :
    Accepts (fun k => k ≠ .and ∧ k ≠ .or) (disjunction (unary n)) ks e := by
  have hchains : Chains (· ≠ .and) .or (.binary .or) _ ks e := h
  exact hchains.accepts

theorem accepts_unary_prefix {n : Nat} {e : Expr} (hk : k = .not ∨ k = .bang)
    (h : Accepts Anything (unary n) ks e) :
    Accepts Anything (unary (n + 1)) (k :: ks) (.unary true e) := by
  refine accepts_current_bind fun t ht => ?_
  rcases hk with rfl | rfl <;>
  · simp only [ht]
    exact Accepts.bindOne accepts_discard_take (h.map rfl)

theorem accepts_unary_group {n : Nat} {e : Expr} (h : Accepted n ks e .disjunction) :
    Accepts Anything (unary (n + 1)) (.openParen :: (ks ++ [.closeParen])) e := by
  refine accepts_current_bind fun t ht => ?_
  simp only [ht]
  refine Accepts.bindOne accepts_discard_take ?_
  refine Accepts.bindBefore h.accepts_disjunction ⟨nofun, nofun⟩ ?_
  exact Accepts.bindOne accepts_expect (accepts_pure _)

theorem accepts_unary_predicate {p : Predicate} (h : ConditionPhrase ks p) :
    ∀ n, Accepts Anything (unary n) ks (.predicate p)
  | 0 => accepts_predicate h
  | n + 1 => by
    obtain ⟨field, ms, rfl⟩ := h.head_eq_ident
    refine accepts_current_bind fun t ht => ?_
    simp only [ht]
    exact accepts_predicate h

/-- **Every phrase is read**, when operands may be nested as deep as the phrase is long. -/
theorem accepted_of_phrase {level : Level} {e : Expr} (h : Phrase level ks e) :
    ∀ {n}, ks.length ≤ n → Accepted n ks e level := by
  -- a loop is not followed through its operands but from its left end, so the hypothesis for the
  -- left side of `or` and `and` is `Chains`, not `Accepts`
  induction h with
  | disjunct _ ih =>
    intro n hn
    exact chains_one (ih hn).accepts_chain
  | or _ _ ihl ihr =>
    intro n hn
    rw [List.length_append, List.length_cons] at hn
    have hl : Chains (· ≠ .and) .or (.binary .or) _ _ _ := ihl (show _ ≤ n by omega)
    exact hl.more nofun (ihr (show _ ≤ n by omega)).accepts_chain
  | conjunct _ ih =>
    intro n hn
    exact chains_one (ih hn)
  | and _ _ ihl ihr =>
    intro n hn
    rw [List.length_append, List.length_cons] at hn
    exact Chains.more (ihl (by omega)) trivial (ihr (by omega))
  | not _ ih =>
    intro n hn
    rw [List.length_cons] at hn
    obtain ⟨n, rfl⟩ := Nat.exists_eq_add_of_le' (show 1 ≤ n by omega)
    exact accepts_unary_prefix (.inl rfl) (ih (by omega))
  | bang _ ih =>
    intro n hn
    rw [List.length_cons] at hn
    obtain ⟨n, rfl⟩ := Nat.exists_eq_add_of_le' (show 1 ≤ n by omega)
    exact accepts_unary_prefix (.inr rfl) (ih (by omega))
  | group _ ih =>
    intro n hn
    rw [List.length_cons, List.length_append] at hn
    obtain ⟨n, rfl⟩ := Nat.exists_eq_add_of_le' (show 1 ≤ n by omega)
    exact accepts_unary_group (ih (by omega))
  | condition hc =>
    intro n _
    exact accepts_unary_predicate hc n

theorem filter_of_phrase {used : List Token} {offset : Nat} {e : Expr}
    (h : Phrase .disjunction (used.map Token.kind) e) :
    filter (.prepend used (.finish offset)) = .ok (e, .finish offset) := by
  have hn : (used.map Token.kind).length ≤ (Tokens.prepend used (.finish offset)).length := by
    rw [List.length_map, Tokens.length_prepend]
    exact Nat.le_add_right _ _
  have he := (accepted_of_phrase h hn).accepts_disjunction used (.finish offset) rfl trivial
    ⟨nofun, nofun⟩
  unfold filter
  rw [bind_of_eq_ok (x := remaining) rfl, bind_of_eq_ok he]
  rfl

end Parse

/-- A phrase up to the end of the source is read. -/
theorem parse_of_phrase {source : String} {used : List Token} {offset : Nat} {e : Expr}
    (hs : Tokens.ofSource source = .prepend used (.finish offset))
    (h : Phrase .disjunction (used.map Token.kind) e) : parse source = .ok e := by
  refine parseTokens_eq_ok_iff.mpr ⟨.finish offset, ?_⟩
  rw [hs]
  exact Parse.filter_of_phrase h

/-- What a source that scans is read as, told by the kinds of its tokens. -/
theorem parse_iff_phrase {source : String} {ts : List Token} {offset : Nat} {e : Expr}
    (hscan : tokenize source = .ok (ts ++ [⟨.eof, [], offset⟩])) :
    parse source = .ok e ↔ Phrase .disjunction (ts.map Token.kind) e := by
  obtain ⟨used, offset', hsource, hts⟩ := tokenize_eq_ok_iff.mp hscan
  obtain ⟨rfl, -⟩ := List.append_inj' hts rfl
  refine ⟨fun h => ?_, parse_of_phrase hsource⟩
  obtain ⟨us, offset'', hsource', hphrase⟩ := phrase_of_parse h
  have hscan' := tokenize_eq_ok_iff.mpr ⟨us, offset'', hsource', rfl⟩
  obtain ⟨rfl, -⟩ := List.append_inj' (Except.ok.inj (hscan.symm.trans hscan')) rfl
  exact hphrase

/-- **A source is read as a filter iff all of it scans and its tokens are a phrase of the
filter.** -/
theorem parse_eq_ok_iff (source : String) (e : Expr) :
    parse source = .ok e ↔
      ∃ ts offset, tokenize source = .ok (ts ++ [⟨.eof, [], offset⟩]) ∧
        Phrase .disjunction (ts.map Token.kind) e := by
  constructor
  · intro h
    obtain ⟨used, offset, hsource, hphrase⟩ := phrase_of_parse h
    exact ⟨used, offset, tokenize_eq_ok_iff.mpr ⟨used, offset, hsource, rfl⟩, hphrase⟩
  · rintro ⟨ts, offset, hscan, hphrase⟩
    obtain ⟨used, offset', hsource, hts⟩ := tokenize_eq_ok_iff.mp hscan
    obtain ⟨rfl, -⟩ := List.append_inj' hts rfl
    exact parse_of_phrase hsource hphrase

end ForgeBoard.Filter
