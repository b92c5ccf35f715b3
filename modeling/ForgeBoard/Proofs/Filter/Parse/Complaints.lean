import ForgeBoard.Filter.Parser
import ForgeBoard.Proofs.Filter.Scan

/-!
# What the parser complains about

The parser complains about the token in front of it, or about one that it has taken before. Either
way this is a token of its stream, and a lexical error is the one that the stream ends with.

* `Tokens.ComesTo`: a stream comes to another one after some tokens. `Tokens.Shows` is said of a
  token that the stream comes to, the end of the input among them.
* `Parse.StaysIn whole p Q`: wherever `p` starts in the stream `whole`, it ends in it with a result
  that satisfies `Q`, or with an error about it. The primitives stay in any stream, and what is put
  together from parsers that do (`StaysIn.bind`) does so too.

Result: `about_of_parse`.
-/

namespace ForgeBoard.Filter

namespace Tokens

variable {whole rest : Tokens} {t : Token}

/-- After some tokens the stream is the other one. -/
def ComesTo (whole ts : Tokens) : Prop :=
  ∃ used, whole = prepend used ts

theorem ComesTo.refl (whole : Tokens) : whole.ComesTo whole :=
  ⟨[], rfl⟩

theorem ComesTo.behind (h : whole.ComesTo (.token t rest)) : whole.ComesTo rest := by
  obtain ⟨used, rfl⟩ := h
  exact ⟨used ++ [t], by rw [prepend_append, prepend_cons, prepend_nil]⟩

/-- The tokens that the stream comes to, with the end of the input as one of them. -/
inductive Shows (whole : Tokens) : Token → Prop where
  | token {t : Token} {rest : Tokens} : whole.ComesTo (.token t rest) → Shows whole t
  | finish {offset : Nat} : whole.ComesTo (.finish offset) → Shows whole ⟨.eof, [], offset⟩

end Tokens

/-- The error is the one that the stream ends with, or a complaint about a token of it. -/
def ParseError.About (whole : Tokens) : ParseError → Prop
  | lex e => whole.ComesTo (.broken e)
  | syntactic _ found => whole.Shows found

namespace Parse

variable {α β : Type} {whole : Tokens} {p : Parse α} {f : α → Parse β} {P Q : α → Prop}
  {R : β → Prop}

/-- What a parser in the stream comes to: a result that satisfies `Q` and a place in the stream, or
an error about it. -/
def EndsIn (whole : Tokens) (Q : α → Prop) : Except ParseError (α × Tokens) → Prop
  | .ok (a, rest) => Q a ∧ whole.ComesTo rest
  | .error e => e.About whole

/-- Wherever the parser starts in the stream, it ends in it. -/
def StaysIn (whole : Tokens) (p : Parse α) (Q : α → Prop) : Prop :=
  ∀ ts, whole.ComesTo ts → EndsIn whole Q (p ts)

/-! ## Primitives and sequences -/

theorem StaysIn.bind (hp : StaysIn whole p Q) (hf : ∀ a, Q a → StaysIn whole (f a) R) :
    StaysIn whole (p >>= f) R := by
  intro ts hts
  have hfirst := hp ts hts
  show EndsIn whole R (p ts >>= fun r => f r.1 r.2)
  cases hresult : p ts with
  | error e =>
    rw [hresult] at hfirst
    exact hfirst
  | ok r =>
    rw [hresult] at hfirst
    exact hf r.1 hfirst.1 r.2 hfirst.2

theorem staysIn_pure {a : α} (h : Q a) : StaysIn whole (pure a) Q :=
  fun _ hts => ⟨h, hts⟩

theorem staysIn_current : StaysIn whole current whole.Shows := by
  intro ts hts
  cases ts with
  | token t rest => exact ⟨.token hts, hts⟩
  | finish offset => exact ⟨.finish hts, hts⟩
  | broken e => exact hts

theorem staysIn_take : StaysIn whole take whole.Shows := by
  intro ts hts
  match ts, hts with
  | .token t (.broken e), hts => exact hts.behind
  | .token t (.token u rest), hts => exact ⟨.token hts, hts.behind⟩
  | .token t (.finish offset), hts => exact ⟨.token hts, hts.behind⟩
  | .finish offset, hts => exact ⟨.finish hts, hts⟩
  | .broken e, hts => exact hts

theorem staysIn_discard_take : StaysIn whole (discard take) fun _ => True :=
  staysIn_take.bind fun _ _ => staysIn_pure trivial

/-- What is complained about has been seen in the stream. -/
theorem staysIn_complain {complaint : Complaint} {found : Token} (h : whole.Shows found) :
    StaysIn whole (complain complaint found) Q :=
  fun _ _ => h

theorem staysIn_remaining : StaysIn whole remaining fun _ => True :=
  fun _ hts => ⟨trivial, hts⟩

theorem staysIn_atKind (kind : TokenKind) : StaysIn whole (atKind kind) fun _ => True :=
  staysIn_current.bind fun _ _ => staysIn_pure trivial

theorem staysIn_expect (kind : TokenKind) (complaint : Complaint) :
    StaysIn whole (expect kind complaint) fun _ => True := by
  refine staysIn_current.bind fun t ht => ?_
  split
  · exact staysIn_discard_take
  · exact staysIn_complain ht

theorem staysIn_ofToken {complaint : Complaint} {found : Token} {v : Option Value}
    (h : whole.Shows found) : StaysIn whole (ofToken complaint found v) fun _ => True := by
  cases v with
  | none => exact staysIn_complain h
  | some v => exact staysIn_pure trivial

/-! ## The pieces of a filter -/

theorem staysIn_value : ∀ fuel, StaysIn whole (value fuel) fun _ => True
  | 0 => staysIn_current.bind fun _ ht => staysIn_complain ht
  | fuel + 1 => by
    refine staysIn_take.bind fun t ht => ?_
    split
    · exact staysIn_pure trivial
    · exact staysIn_pure trivial
    · exact staysIn_ofToken ht
    · exact staysIn_ofToken ht
    · exact staysIn_ofToken ht
    · split
      · -- the argument of a call is blamed after it has been read
        refine (staysIn_expect _ _).bind fun _ _ => ?_
        refine staysIn_current.bind fun place hplace => ?_
        refine (staysIn_value fuel).bind fun v _ => ?_
        split
        · exact (staysIn_expect _ _).bind fun _ _ => staysIn_pure trivial
        · exact staysIn_complain hplace
      · exact staysIn_complain ht
    · exact staysIn_complain ht

theorem staysIn_anyValue : StaysIn whole anyValue fun _ => True :=
  staysIn_remaining.bind fun n _ => staysIn_value (n + 1)

theorem staysIn_members : ∀ fuel, StaysIn whole (members fuel) fun _ => True
  | 0 => staysIn_current.bind fun _ ht => staysIn_complain ht
  | fuel + 1 => by
    have more (v : Value) :
        StaysIn whole (do return v :: (← members fuel) : Parse (List Value)) fun _ => True :=
      (staysIn_members fuel).bind fun _ _ => staysIn_pure trivial
    refine (staysIn_atKind _).bind fun closes _ => ?_
    split
    · exact staysIn_discard_take.bind fun _ _ => staysIn_pure trivial
    refine staysIn_anyValue.bind fun v _ => (staysIn_atKind _).bind fun comma _ => ?_
    split
    · exact staysIn_discard_take.bind fun _ _ => more v
    refine (staysIn_atKind _).bind fun closes _ => ?_
    split
    · exact more v
    · exact staysIn_current.bind fun _ ht => staysIn_complain ht

theorem staysIn_membership (op : MemberOp) : StaysIn whole (membership op) fun _ => True := by
  refine (staysIn_atKind _).bind fun opens _ => ?_
  split
  · refine staysIn_discard_take.bind fun _ _ => staysIn_remaining.bind fun n _ => ?_
    exact (staysIn_members _).bind fun _ _ => staysIn_pure trivial
  · refine staysIn_current.bind fun t ht => staysIn_anyValue.bind fun v _ => ?_
    split
    · exact staysIn_pure trivial
    · exact staysIn_complain ht

theorem staysIn_condition (field : String) : StaysIn whole (condition field) fun _ => True := by
  have member (op : MemberOp) :
      StaysIn whole (do return ⟨field, .member op, ← membership op⟩ : Parse Predicate)
        fun _ => True :=
    (staysIn_membership op).bind fun _ _ => staysIn_pure trivial
  refine staysIn_current.bind fun t ht => ?_
  split
  · exact staysIn_discard_take.bind fun _ _ => (staysIn_expect _ _).bind fun _ _ => member _
  · exact staysIn_discard_take.bind fun _ _ => member _
  · split
    · refine staysIn_discard_take.bind fun _ _ => ?_
      exact staysIn_anyValue.bind fun _ _ => staysIn_pure trivial
    · exact staysIn_complain ht

theorem staysIn_predicate : StaysIn whole predicate fun _ => True := by
  refine staysIn_current.bind fun t ht => ?_
  split
  · refine staysIn_discard_take.bind fun _ _ => ?_
    exact (staysIn_condition _).bind fun _ _ => staysIn_pure trivial
  · exact staysIn_complain ht

section

variable {operand : Parse Expr} (h : StaysIn whole operand fun _ => True)

include h

theorem staysIn_chainRest (separator : TokenKind) (node : Expr → Expr → Expr) :
    ∀ fuel left, StaysIn whole (chainRest separator node operand fuel left) fun _ => True
  | 0, _ => staysIn_pure trivial
  | fuel + 1, left => by
    refine (staysIn_atKind _).bind fun more _ => ?_
    split
    · refine staysIn_discard_take.bind fun _ _ => h.bind fun right _ => ?_
      exact staysIn_chainRest separator node fuel (node left right)
    · exact staysIn_pure trivial

theorem staysIn_chain (separator : TokenKind) (node : Expr → Expr → Expr) :
    StaysIn whole (chain separator node operand) fun _ => True :=
  h.bind fun left _ => staysIn_remaining.bind fun n _ => staysIn_chainRest h separator node n left

theorem staysIn_disjunction : StaysIn whole (disjunction operand) fun _ => True :=
  staysIn_chain (staysIn_chain h .and (.binary .and)) .or (.binary .or)

end

theorem staysIn_unary : ∀ fuel, StaysIn whole (unary fuel) fun _ => True
  | 0 => staysIn_predicate
  | fuel + 1 => by
    have negated :
        StaysIn whole (do return .unary true (← unary fuel) : Parse Expr) fun _ => True :=
      (staysIn_unary fuel).bind fun _ _ => staysIn_pure trivial
    refine staysIn_current.bind fun t _ => ?_
    split
    · exact staysIn_discard_take.bind fun _ _ => negated
    · exact staysIn_discard_take.bind fun _ _ => negated
    · refine staysIn_discard_take.bind fun _ _ => ?_
      refine (staysIn_disjunction (staysIn_unary fuel)).bind fun e _ => ?_
      exact (staysIn_expect _ _).bind fun _ _ => staysIn_pure trivial
    · exact staysIn_predicate

theorem staysIn_filter : StaysIn whole filter fun _ => True := by
  refine staysIn_remaining.bind fun n _ => ?_
  refine (staysIn_disjunction (staysIn_unary n)).bind fun e _ => ?_
  refine staysIn_current.bind fun t ht => ?_
  split
  · exact staysIn_pure trivial
  · exact staysIn_complain ht

end Parse

/-- **What the parser complains about**: the token is one of the source, and a lexical error is the
one that the tokens of the source end with. -/
theorem about_of_parse {source : String} {e : ParseError} (h : parse source = .error e) :
    e.About (Tokens.ofSource source) := by
  have hstays := Parse.staysIn_filter (Tokens.ofSource source) (.refl _)
  unfold parse parseTokens at h
  cases hresult : Parse.filter (Tokens.ofSource source) with
  | error e' =>
    rw [hresult] at hstays
    rw [show Parse.filter.run (Tokens.ofSource source) = .error e' from hresult] at h
    exact Except.error.inj h ▸ hstays
  | ok r =>
    rw [show Parse.filter.run (Tokens.ofSource source) = .ok r from hresult] at h
    exact absurd h nofun

end ForgeBoard.Filter
