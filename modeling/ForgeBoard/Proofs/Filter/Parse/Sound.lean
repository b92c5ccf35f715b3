import ForgeBoard.Filter.Parser
import ForgeBoard.Proofs.Filter.Grammar
import ForgeBoard.Proofs.Filter.Scan
import ForgeBoard.Proofs.Success

/-!
# What the parser reads is a phrase

A parser that succeeds has taken tokens off the front of its stream. `Reads p P` says that their
kinds are related to the result by `P`, whatever stands behind them.

* A sequence succeeds through the successes of its parts (`bind_eq_ok`), and each primitive tells
  what stood in front: `of_current`, `of_take`, `of_expect`, `of_atKind`.
* `reads_value`, `reads_members`, `reads_membership`, `reads_condition`, `reads_unary`: each piece
  reads phrases of its own, with any amount of fuel.
* `reads_chain`: the loop over a separator makes phrases of the looser level.

Result: `phrase_of_parse`, a source that is read as a filter has tokens up to its end, and they
are a phrase of the filter.
-/

namespace ForgeBoard.Filter

open Text

/-! ## Primitives -/

namespace Parse

variable {α β : Type}

/-- A sequence of parsers succeeds through the successes of its parts. -/
theorem bind_eq_ok {x : Parse α} {f : α → Parse β} {ts : Tokens} {r : β × Tokens} :
    (x >>= f) ts = .ok r ↔ ∃ a mid, x ts = .ok (a, mid) ∧ f a mid = .ok r := by
  show (x ts >>= fun p => f p.1 p.2) = .ok r ↔ _
  rw [bind_eq_ok_iff, Prod.exists]

theorem pure_eq_ok {a b : α} {ts rest : Tokens} :
    (pure a : Parse α) ts = .ok (b, rest) ↔ b = a ∧ rest = ts := by
  show Except.ok (a, ts) = .ok (b, rest) ↔ _
  constructor
  · intro h
    obtain ⟨rfl, rfl⟩ := Prod.mk.inj (Except.ok.inj h)
    exact ⟨rfl, rfl⟩
  · rintro ⟨rfl, rfl⟩
    rfl

theorem complain_ne_ok {c : Complaint} {t : Token} {ts : Tokens} {r : α × Tokens} :
    ¬ (complain c t : Parse α) ts = .ok r :=
  nofun

/-- Looking at the token in front takes nothing, and a token seen there stands there. -/
theorem of_current {ts mid : Tokens} {t : Token} (h : current ts = .ok (t, mid)) :
    mid = ts ∧ (t.kind ≠ .eof → ∃ rest, ts = .token t rest) := by
  cases ts with
  | token u rest =>
    obtain ⟨rfl, rfl⟩ := Prod.mk.inj (Except.ok.inj h)
    exact ⟨rfl, fun _ => ⟨rest, rfl⟩⟩
  | finish offset =>
    obtain ⟨rfl, rfl⟩ := Prod.mk.inj (Except.ok.inj h)
    exact ⟨rfl, fun hk => absurd rfl hk⟩
  | broken e => exact absurd h nofun

theorem front_of_current {ts mid : Tokens} {t : Token} (h : current ts = .ok (t, mid)) :
    ts.Unbroken ∧ ts.front = t.kind := by
  cases ts with
  | token u rest =>
    obtain ⟨rfl, -⟩ := Prod.mk.inj (Except.ok.inj h)
    exact ⟨trivial, rfl⟩
  | finish offset =>
    obtain ⟨rfl, -⟩ := Prod.mk.inj (Except.ok.inj h)
    exact ⟨trivial, rfl⟩
  | broken e => exact absurd h nofun

/-- A token that is not the end of the input is taken off the front. -/
theorem of_take {ts rest : Tokens} {t : Token} (h : take ts = .ok (t, rest))
    (ht : t.kind ≠ .eof) : ts = .token t rest := by
  match ts, h with
  | .token u (.token v s), h | .token u (.finish o), h =>
    obtain ⟨rfl, rfl⟩ := Prod.mk.inj (Except.ok.inj h)
    rfl
  | .finish offset, h =>
    obtain ⟨rfl, rfl⟩ := Prod.mk.inj (Except.ok.inj h)
    exact absurd rfl ht

theorem of_discard_take {rest rest' : Tokens} {t : Token} {u : Unit}
    (h : (discard take : Parse Unit) (.token t rest) = .ok (u, rest')) : rest' = rest := by
  match rest, h with
  | .token v s, h | .finish o, h => exact (Prod.mk.inj (Except.ok.inj h)).2.symm

/-- An expected token stands in front and is taken. -/
theorem of_expect {kind : TokenKind} {c : Complaint} {ts rest : Tokens} {u : Unit}
    (h : expect kind c ts = .ok (u, rest)) (hk : kind ≠ .eof) :
    ∃ t, t.kind = kind ∧ ts = .token t rest := by
  unfold expect at h
  rw [bind_eq_ok] at h
  obtain ⟨t, mid, hc, h⟩ := h
  obtain ⟨rfl, hfront⟩ := of_current hc
  split at h
  · next ht =>
    obtain ⟨s, rfl⟩ := hfront (ht ▸ hk)
    exact ⟨t, ht, by rw [of_discard_take h]⟩
  · exact absurd h complain_ne_ok

/-- A choice by the kind of the token in front: the token is taken, or it is of another kind. -/
theorem of_atKind {kind : TokenKind} {f : Bool → Parse α} {ts : Tokens} {r : α × Tokens}
    (h : (atKind kind >>= f) ts = .ok r) (hk : kind ≠ .eof) :
    (∃ t rest, t.kind = kind ∧ ts = .token t rest ∧ f true ts = .ok r) ∨ f false ts = .ok r := by
  rw [bind_eq_ok] at h
  obtain ⟨b, mid, hb, h⟩ := h
  unfold atKind at hb
  rw [bind_eq_ok] at hb
  obtain ⟨t, mid', hc, hb⟩ := hb
  obtain ⟨rfl, hfront⟩ := of_current hc
  obtain ⟨rfl, rfl⟩ := pure_eq_ok.mp hb
  by_cases ht : t.kind = kind
  · obtain ⟨rest, rfl⟩ := hfront (ht ▸ hk)
    rw [decide_eq_true ht] at h
    exact .inl ⟨t, rest, ht, rfl, h⟩
  · rw [decide_eq_false ht] at h
    exact .inr h

/-! ## What is read is a phrase -/

/-- The result of a parser is told by a phrase that stands in front of what it leaves. -/
def Reads (p : Parse α) (P : List TokenKind → α → Prop) : Prop :=
  ∀ ts a rest, p ts = .ok (a, rest) →
    ∃ used, ts = .prepend used rest ∧ P (used.map Token.kind) a

theorem of_ofToken {c : Complaint} {found : Token} {v : Option Value} {ts rest : Tokens}
    {w : Value} (h : ofToken c found v ts = .ok (w, rest)) : v = some w ∧ rest = ts := by
  cases v with
  | none => exact absurd h nofun
  | some v =>
    obtain ⟨rfl, rfl⟩ := pure_eq_ok.mp h
    exact ⟨rfl, rfl⟩

theorem reads_value : ∀ fuel, Reads (value fuel) ValuePhrase
  | 0 => by
    intro ts v rest h
    unfold value at h
    rw [bind_eq_ok] at h
    obtain ⟨t, mid, -, h⟩ := h
    exact absurd h complain_ne_ok
  | fuel + 1 => by
    intro ts v rest h
    unfold value at h
    rw [bind_eq_ok] at h
    obtain ⟨t, mid, htake, h⟩ := h
    -- every kind but the end of the input is taken off the front
    have front : ∀ k, t.kind = k → k ≠ .eof → ts = .token t mid := fun k hk hne =>
      of_take htake (hk ▸ hne)
    have single : ∀ k, t.kind = k → k ≠ .eof → ValuePhrase [k] v →
        ∃ used, ts = .prepend used mid ∧ ValuePhrase (used.map Token.kind) v :=
      fun k hk hne hv => ⟨[t], front k hk hne, by rw [List.map_singleton, hk]; exact hv⟩
    cases hk : t.kind <;> rw [hk] at h
    case string s =>
      obtain ⟨rfl, rfl⟩ := pure_eq_ok.mp h
      exact single _ hk nofun (.text s)
    case bool b =>
      obtain ⟨rfl, rfl⟩ := pure_eq_ok.mp h
      exact single _ hk nofun (.bool b)
    case number ds =>
      obtain ⟨hv, rfl⟩ := of_ofToken h
      obtain ⟨n, hn, rfl⟩ := Option.map_eq_some_iff.mp hv
      exact single _ hk nofun (.number (readInt64?_eq_some_iff.mp hn))
    case date ds =>
      obtain ⟨hv, rfl⟩ := of_ofToken h
      obtain ⟨d, hd, rfl⟩ := Option.map_eq_some_iff.mp hv
      obtain ⟨four, rfl⟩ := Date.ofDigits?_eq_some_iff.mp hd
      exact single _ hk nofun (.date four)
    case span ds =>
      obtain ⟨hv, rfl⟩ := of_ofToken h
      obtain ⟨d, hd, rfl⟩ := Option.map_eq_some_iff.mp hv
      exact single _ hk nofun (.span (TimeSpan.ofChars?_eq_some_iff.mp hd))
    case ident name =>
      obtain rfl := front _ hk nofun
      dsimp only at h
      split at h
      · next hlast =>
        simp only [bind_eq_ok] at h
        obtain ⟨_, s, hopen, place, s', hplace, w, s'', hw, h⟩ := h
        obtain ⟨topen, hko, rfl⟩ := of_expect hopen nofun
        obtain ⟨rfl, -⟩ := of_current hplace
        obtain ⟨used, rfl, hused⟩ := reads_value fuel _ _ _ hw
        cases w with
        | span arg =>
          rw [bind_eq_ok] at h
          obtain ⟨_, s3, hclose, h⟩ := h
          obtain ⟨tclose, hkc, rfl⟩ := of_expect hclose nofun
          obtain ⟨rfl, rfl⟩ := pure_eq_ok.mp h
          refine ⟨t :: topen :: (used ++ [tclose]), by simp, ?_⟩
          generalize hks : used.map Token.kind = ks at hused
          cases hused with
          | span hspan =>
            simp only [List.map_cons, List.map_append, List.map_nil, hk, hko, hkc, hks]
            exact .last hlast hspan
        | _ => exact absurd h complain_ne_ok
      · exact absurd h complain_ne_ok
    all_goals exact absurd h complain_ne_ok

theorem reads_anyValue : Reads anyValue ValuePhrase := by
  intro ts v rest h
  unfold anyValue at h
  rw [bind_eq_ok] at h
  obtain ⟨n, mid, hn, h⟩ := h
  obtain ⟨rfl, rfl⟩ := Prod.mk.inj (Except.ok.inj hn)
  exact reads_value _ _ _ _ h

theorem reads_members : ∀ fuel, Reads (members fuel) fun ks vs => ListPhrase (.openBracket :: ks) vs
  | 0 => by
    intro ts vs rest h
    unfold members at h
    rw [bind_eq_ok] at h
    obtain ⟨t, mid, -, h⟩ := h
    exact absurd h complain_ne_ok
  | fuel + 1 => by
    intro ts vs rest h
    unfold members at h
    replace h := of_atKind h nofun
    rcases h with ⟨t, s, ht, rfl, h⟩ | h
    · simp only [if_true, bind_eq_ok, pure_eq_ok] at h
      obtain ⟨_, mid, htake, rfl, rfl⟩ := h
      obtain rfl := of_discard_take htake
      refine ⟨[t], rfl, ?_⟩
      rw [List.map_singleton, ht]
      exact .empty
    rw [if_neg nofun, bind_eq_ok] at h
    obtain ⟨v, mid, hv, h⟩ := h
    obtain ⟨used, rfl, hused⟩ := reads_anyValue _ _ _ hv
    replace h := of_atKind h nofun
    rcases h with ⟨t, s, ht, rfl, h⟩ | h
    · simp only [if_true, bind_eq_ok, pure_eq_ok] at h
      obtain ⟨_, mid, htake, vs', s', hvs, rfl, rfl⟩ := h
      obtain rfl := of_discard_take htake
      obtain ⟨used', rfl, hlist⟩ := reads_members fuel _ _ _ hvs
      refine ⟨used ++ t :: used', by simp, ?_⟩
      rw [List.map_append, List.map_cons, ht]
      exact .cons hused hlist
    rw [if_neg nofun] at h
    replace h := of_atKind h nofun
    rcases h with ⟨t, s, ht, rfl, h⟩ | h
    · simp only [if_true, bind_eq_ok, pure_eq_ok] at h
      obtain ⟨vs', s', hvs, rfl, rfl⟩ := h
      obtain ⟨used', hs, hlist⟩ := reads_members fuel _ _ _ hvs
      refine ⟨used ++ used', by rw [hs, Tokens.prepend_append], ?_⟩
      -- the bracket in front is the one that closes the list
      cases used' with
      | nil => exact absurd hlist not_listPhrase_openBracket
      | cons u us =>
        obtain ⟨rfl, -⟩ := Tokens.token.inj hs
        rw [List.map_cons, ht] at hlist
        obtain ⟨hus, rfl⟩ := hlist.eq_nil_of_closeBracket
        rw [List.map_append, List.map_cons, ht, hus]
        exact .items (.one hused)
    · rw [if_neg nofun, bind_eq_ok] at h
      obtain ⟨t, mid, -, h⟩ := h
      exact absurd h complain_ne_ok

theorem reads_membership (op : MemberOp) : Reads (membership op) MembersPhrase := by
  intro ts operand rest h
  unfold membership at h
  replace h := of_atKind h nofun
  rcases h with ⟨t, s, ht, rfl, h⟩ | h
  · simp only [if_true, bind_eq_ok, pure_eq_ok] at h
    obtain ⟨_, mid, htake, n, mid', hn, vs, s', hvs, rfl, rfl⟩ := h
    obtain rfl := of_discard_take htake
    obtain ⟨rfl, rfl⟩ := Prod.mk.inj (Except.ok.inj hn)
    obtain ⟨used, rfl, hlist⟩ := reads_members _ _ _ _ hvs
    refine ⟨t :: used, rfl, ?_⟩
    rw [List.map_cons, ht]
    exact .list hlist
  · simp only [Bool.false_eq_true, if_false, bind_eq_ok] at h
    obtain ⟨t, mid, hc, v, s, hv, h⟩ := h
    obtain ⟨rfl, -⟩ := of_current hc
    obtain ⟨used, rfl, hused⟩ := reads_anyValue _ _ _ hv
    cases v with
    | call f =>
      obtain ⟨rfl, rfl⟩ := pure_eq_ok.mp h
      exact ⟨used, rfl, .last hused⟩
    | _ => exact absurd h complain_ne_ok

/-- After a field, what is read makes a condition on it. -/
theorem reads_condition (field : List Char) :
    Reads (condition (String.ofList field)) fun ks p => ConditionPhrase (.ident field :: ks) p := by
  intro ts p rest h
  unfold condition at h
  rw [bind_eq_ok] at h
  obtain ⟨t, mid, hc, h⟩ := h
  obtain ⟨rfl, hfront⟩ := of_current hc
  have compared : ∀ op : CompareOp, t.kind = op.kind →
      (do discard take; return .compare (String.ofList field) op (← anyValue) : Parse Predicate)
        mid = .ok (p, rest) →
      ∃ used, mid = .prepend used rest ∧
        ConditionPhrase (.ident field :: used.map Token.kind) p := by
    intro op hk h
    obtain ⟨s, rfl⟩ := hfront (hk ▸ by cases op <;> nofun)
    simp only [bind_eq_ok, pure_eq_ok] at h
    obtain ⟨_, s1, htake, v, s2, hv, rfl, rfl⟩ := h
    obtain rfl := of_discard_take htake
    obtain ⟨used, rfl, hused⟩ := reads_anyValue _ _ _ hv
    refine ⟨t :: used, rfl, ?_⟩
    rw [List.map_cons, hk]
    exact .compare field op hused
  cases hk : t.kind <;> rw [hk] at h
  case not =>
    obtain ⟨s, rfl⟩ := hfront (hk ▸ nofun)
    simp only [bind_eq_ok, pure_eq_ok] at h
    obtain ⟨_, s1, htake, _, s2, hin, operand, s3, hm, rfl, rfl⟩ := h
    obtain rfl := of_discard_take htake
    obtain ⟨u, hu, rfl⟩ := of_expect hin nofun
    obtain ⟨used, rfl, hused⟩ := reads_membership _ _ _ _ hm
    refine ⟨t :: u :: used, rfl, ?_⟩
    rw [List.map_cons, List.map_cons, hk, hu]
    exact .member field .notWithin hused
  case within =>
    obtain ⟨s, rfl⟩ := hfront (hk ▸ nofun)
    simp only [bind_eq_ok, pure_eq_ok] at h
    obtain ⟨_, s1, htake, operand, s3, hm, rfl, rfl⟩ := h
    obtain rfl := of_discard_take htake
    obtain ⟨used, rfl, hused⟩ := reads_membership _ _ _ _ hm
    refine ⟨t :: used, rfl, ?_⟩
    rw [List.map_cons, hk]
    exact .member field .within hused
  case eq => exact compared .eq hk h
  case ne => exact compared .ne hk h
  case gt => exact compared .gt hk h
  case ge => exact compared .ge hk h
  case lt => exact compared .lt hk h
  case le => exact compared .le hk h
  all_goals exact absurd h complain_ne_ok

theorem reads_predicate : Reads predicate fun ks e => Phrase .operand ks e := by
  intro ts e rest h
  unfold predicate at h
  rw [bind_eq_ok] at h
  obtain ⟨t, mid, hc, h⟩ := h
  obtain ⟨rfl, hfront⟩ := of_current hc
  cases hk : t.kind <;> rw [hk] at h
  case ident name =>
    obtain ⟨s, rfl⟩ := hfront (hk ▸ nofun)
    simp only [bind_eq_ok, pure_eq_ok] at h
    obtain ⟨_, s1, htake, p, s2, hp, rfl, rfl⟩ := h
    obtain rfl := of_discard_take htake
    obtain ⟨used, rfl, hused⟩ := reads_condition _ _ _ _ hp
    refine ⟨t :: used, rfl, ?_⟩
    rw [List.map_cons, hk]
    exact .condition hused
  all_goals exact absurd h complain_ne_ok

/-- Operands and separators after a phrase make longer phrases of its level. -/
theorem reads_chainRest {separator : TokenKind} {node : Expr → Expr → Expr} {operand : Parse Expr}
    {P Q : List TokenKind → Expr → Prop} (hs : separator ≠ .eof) (hQ : Reads operand Q)
    (hstep : ∀ ks ls l r, P ks l → Q ls r → P (ks ++ separator :: ls) (node l r)) :
    ∀ fuel left ks, P ks left →
      Reads (chainRest separator node operand fuel left) fun ls e => P (ks ++ ls) e
  | 0, left, ks, hleft => by
    intro ts e rest h
    obtain ⟨rfl, rfl⟩ := pure_eq_ok.mp h
    exact ⟨[], rfl, by simpa using hleft⟩
  | fuel + 1, left, ks, hleft => by
    intro ts e rest h
    unfold chainRest at h
    replace h := of_atKind h hs
    rcases h with ⟨t, s, ht, rfl, h⟩ | h
    · simp only [if_true, bind_eq_ok] at h
      obtain ⟨_, s1, htake, r, s2, hr, h⟩ := h
      obtain rfl := of_discard_take htake
      obtain ⟨used, rfl, hused⟩ := hQ _ _ _ hr
      have hnode := hstep _ _ _ _ hleft hused
      obtain ⟨used', rfl, he⟩ := reads_chainRest hs hQ hstep fuel _ _ hnode _ _ _ h
      refine ⟨t :: (used ++ used'), by simp, ?_⟩
      rw [List.map_cons, List.map_append, ht]
      rwa [List.append_assoc, List.cons_append] at he
    · rw [if_neg nofun] at h
      obtain ⟨rfl, rfl⟩ := pure_eq_ok.mp h
      exact ⟨[], rfl, by simpa using hleft⟩

theorem reads_chain {separator : TokenKind} {node : Expr → Expr → Expr} {operand : Parse Expr}
    {P Q : List TokenKind → Expr → Prop} (hs : separator ≠ .eof) (hQ : Reads operand Q)
    (hbase : ∀ ks e, Q ks e → P ks e)
    (hstep : ∀ ks ls l r, P ks l → Q ls r → P (ks ++ separator :: ls) (node l r)) :
    Reads (chain separator node operand) P := by
  intro ts e rest h
  unfold chain at h
  simp only [bind_eq_ok] at h
  obtain ⟨left, mid, hl, n, mid', hn, h⟩ := h
  obtain ⟨rfl, rfl⟩ := Prod.mk.inj (Except.ok.inj hn)
  obtain ⟨used, rfl, hused⟩ := hQ _ _ _ hl
  obtain ⟨used', rfl, he⟩ := reads_chainRest hs hQ hstep _ _ _ (hbase _ _ hused) _ _ _ h
  exact ⟨used ++ used', by simp, by rwa [List.map_append]⟩

theorem reads_disjunction {operand : Parse Expr} (h : Reads operand (Phrase .operand)) :
    Reads (disjunction operand) (Phrase .disjunction) :=
  reads_chain nofun (reads_chain nofun h (fun _ _ => .conjunct) fun _ _ _ _ => .and)
    (fun _ _ => .disjunct) fun _ _ _ _ => .or

theorem reads_unary : ∀ fuel, Reads (unary fuel) (Phrase .operand)
  | 0 => reads_predicate
  | fuel + 1 => by
    intro ts e rest h
    unfold unary at h
    rw [bind_eq_ok] at h
    obtain ⟨t, mid, hc, h⟩ := h
    obtain ⟨rfl, hfront⟩ := of_current hc
    cases hk : t.kind <;> rw [hk] at h
    case not | bang =>
      obtain ⟨s, rfl⟩ := hfront (hk ▸ nofun)
      simp only [bind_eq_ok, pure_eq_ok] at h
      obtain ⟨_, s1, htake, inner, s2, hi, rfl, rfl⟩ := h
      obtain rfl := of_discard_take htake
      obtain ⟨used, rfl, hused⟩ := reads_unary fuel _ _ _ hi
      refine ⟨t :: used, rfl, ?_⟩
      rw [List.map_cons, hk]
      first | exact .not hused | exact .bang hused
    case openParen =>
      obtain ⟨s, rfl⟩ := hfront (hk ▸ nofun)
      simp only [bind_eq_ok, pure_eq_ok] at h
      obtain ⟨_, s1, htake, inner, s2, hi, _, s3, hclose, rfl, rfl⟩ := h
      obtain rfl := of_discard_take htake
      obtain ⟨used, rfl, hused⟩ := reads_disjunction (reads_unary fuel) _ _ _ hi
      obtain ⟨u, hu, rfl⟩ := of_expect hclose nofun
      refine ⟨t :: (used ++ [u]), by simp, ?_⟩
      rw [List.map_cons, List.map_append, List.map_singleton, hk, hu]
      exact .group hused
    all_goals exact reads_predicate _ _ _ h

/-- What is read as a filter is a phrase up to a token that ends the input. -/
theorem of_filter {ts rest : Tokens} {e : Expr} (h : filter ts = .ok (e, rest)) :
    ∃ used, ts = .prepend used rest ∧ rest.Unbroken ∧ rest.front = .eof ∧
      Phrase .disjunction (used.map Token.kind) e := by
  unfold filter at h
  simp only [bind_eq_ok] at h
  obtain ⟨n, mid, hn, e', s, he, t, s', hc, h⟩ := h
  obtain ⟨rfl, rfl⟩ := Prod.mk.inj (Except.ok.inj hn)
  obtain ⟨used, rfl, hused⟩ := reads_disjunction (reads_unary _) _ _ _ he
  obtain ⟨hunbroken, hfront⟩ := front_of_current hc
  obtain ⟨rfl, -⟩ := of_current hc
  split at h
  · next ht =>
    obtain ⟨rfl, rfl⟩ := pure_eq_ok.mp h
    exact ⟨used, rfl, hunbroken, hfront.trans ht, hused⟩
  · exact absurd h complain_ne_ok

end Parse

theorem parseTokens_eq_ok_iff {ts : Tokens} {e : Expr} :
    parseTokens ts = .ok e ↔ ∃ rest, Parse.filter ts = .ok (e, rest) := by
  show (Parse.filter ts).map (·.1) = .ok e ↔ _
  cases Parse.filter ts with
  | error err => exact ⟨nofun, nofun⟩
  | ok p =>
    constructor
    · intro h
      obtain rfl := Except.ok.inj h
      exact ⟨p.2, rfl⟩
    · rintro ⟨rest, h⟩
      obtain rfl := Except.ok.inj h
      rfl

/-- **A source that is read as a filter is a phrase of it, up to the end.** -/
theorem phrase_of_parse {source : String} {e : Expr} (h : parse source = .ok e) :
    ∃ used offset, Tokens.ofSource source = .prepend used (.finish offset) ∧
      Phrase .disjunction (used.map Token.kind) e := by
  obtain ⟨rest, hf⟩ := parseTokens_eq_ok_iff.mp h
  obtain ⟨used, hsource, hunbroken, hfront, hphrase⟩ := Parse.of_filter hf
  cases rest with
  | token t rest => exact absurd hfront (Tokens.kind_ne_eof_of_walk hsource)
  | finish offset => exact ⟨used, offset, hsource, hphrase⟩
  | broken e => exact hunbroken.elim

end ForgeBoard.Filter
