import ForgeBoard.Filter.Expr
import ForgeBoard.Filter.Lexer
import ForgeBoard.Proofs.Calendar.Written

/-!
# The grammar of filters

A phrase is a list of kinds of tokens together with what it stands for. The relations below say
which phrases there are; they know nothing of a parser, of lookahead or of streams.

    Or        := And ('or' And)*
    And       := Unary ('and' Unary)*
    Unary     := ('not' | '!') Unary | '(' Or ')' | Predicate
    Predicate := IDENT (COMPARE Value | ['not'] 'in' (List | Last))
    List      := '[' ']' | '[' Value (',' Value)* [','] ']'
    Value     := STRING | BOOL | NUMBER | DATE | SPAN | Last
    Last      := 'last' '(' SPAN ')'

* `ValuePhrase`, `ItemsPhrase`, `ListPhrase`, `MembersPhrase`, `ConditionPhrase`: the phrases
  without expressions in them.
* `Phrase level`: the phrases of expressions at one of the three levels. `or` and `and` group to
  the left, since only their left side may be of their own level, and parentheses leave no node.
* A number denotes its numeral and fits 64 bits with a sign; a date is the written form of an
  existing day of the years 0 to 9999.
-/

namespace ForgeBoard.Filter

open Text

/-- The kind of the token of a comparison. -/
def CompareOp.kind : CompareOp → TokenKind
  | eq => .eq
  | ne => .ne
  | gt => .gt
  | ge => .ge
  | lt => .lt
  | le => .le

/-- The kinds of the tokens of a membership. -/
def MemberOp.kinds : MemberOp → List TokenKind
  | within => [.within]
  | notWithin => [.not, .within]

/-- The text of a time span: a numeral for the amount, and the letter of the unit. -/
def SpanText (cs : List Char) (span : TimeSpan) : Prop :=
  ∃ ds, Numeral ds span.amount.toInt ∧ cs = ds ++ [span.unit.letter]

/-- The phrases of values. The word `last` may have any ASCII case. -/
inductive ValuePhrase : List TokenKind → Value → Prop where
  | text (s : List Char) : ValuePhrase [.string s] (.text (String.ofList s))
  | bool (b : Bool) : ValuePhrase [.bool b] (.bool b)
  | number {cs : List Char} {n : Int64} :
    Numeral cs n.toInt → ValuePhrase [.number cs] (.number n)
  | date {d : Date} : d.HasFourDigitYear → ValuePhrase [.date d.chars] (.date d)
  | span {cs : List Char} {span : TimeSpan} :
    SpanText cs span → ValuePhrase [.span cs] (.span span)
  | last {name cs : List Char} {span : TimeSpan} :
    name.map Char.toLower = "last".toList → SpanText cs span →
      ValuePhrase [.ident name, .openParen, .span cs, .closeParen] (.call ⟨"last", span⟩)

/-- The phrases of one value or more with commas between them. -/
inductive ItemsPhrase : List TokenKind → List Value → Prop where
  | one {ks : List TokenKind} {v : Value} : ValuePhrase ks v → ItemsPhrase ks [v]
  | more {ks ls : List TokenKind} {v : Value} {vs : List Value} :
    ValuePhrase ks v → ItemsPhrase ls vs → ItemsPhrase (ks ++ .comma :: ls) (v :: vs)

/-- The phrases of lists. A comma may follow the last value. -/
inductive ListPhrase : List TokenKind → List Value → Prop where
  | empty : ListPhrase [.openBracket, .closeBracket] []
  | items {ks : List TokenKind} {vs : List Value} :
    ItemsPhrase ks vs → ListPhrase (.openBracket :: (ks ++ [.closeBracket])) vs
  | itemsComma {ks : List TokenKind} {vs : List Value} :
    ItemsPhrase ks vs → ListPhrase (.openBracket :: (ks ++ [.comma, .closeBracket])) vs

/-- The phrases after a membership: a list, or a call. -/
inductive MembersPhrase : List TokenKind → Operand → Prop where
  | list {ks : List TokenKind} {vs : List Value} :
    ListPhrase ks vs → MembersPhrase ks (.list vs)
  | last {ks : List TokenKind} {f : Call} :
    ValuePhrase ks (.call f) → MembersPhrase ks (.single (.call f))

/-- The phrases of conditions. -/
inductive ConditionPhrase : List TokenKind → Predicate → Prop where
  | compare (field : List Char) (op : CompareOp) {ks : List TokenKind} {v : Value} :
    ValuePhrase ks v →
      ConditionPhrase (.ident field :: op.kind :: ks) (.compare (String.ofList field) op v)
  | member (field : List Char) (op : MemberOp) {ks : List TokenKind} {operand : Operand} :
    MembersPhrase ks operand →
      ConditionPhrase (.ident field :: (op.kinds ++ ks))
        ⟨String.ofList field, .member op, operand⟩

/-- The levels of the grammar of expressions, from the loosest to the tightest. -/
inductive Level where
  | disjunction
  | conjunction
  | operand
  deriving DecidableEq

/-- The phrases of expressions. -/
inductive Phrase : Level → List TokenKind → Expr → Prop where
  | disjunct {ks : List TokenKind} {e : Expr} :
    Phrase .conjunction ks e → Phrase .disjunction ks e
  | or {ks ls : List TokenKind} {l r : Expr} :
    Phrase .disjunction ks l → Phrase .conjunction ls r →
      Phrase .disjunction (ks ++ .or :: ls) (.binary .or l r)
  | conjunct {ks : List TokenKind} {e : Expr} :
    Phrase .operand ks e → Phrase .conjunction ks e
  | and {ks ls : List TokenKind} {l r : Expr} :
    Phrase .conjunction ks l → Phrase .operand ls r →
      Phrase .conjunction (ks ++ .and :: ls) (.binary .and l r)
  | not {ks : List TokenKind} {e : Expr} :
    Phrase .operand ks e → Phrase .operand (.not :: ks) (.unary true e)
  | bang {ks : List TokenKind} {e : Expr} :
    Phrase .operand ks e → Phrase .operand (.bang :: ks) (.unary true e)
  | group {ks : List TokenKind} {e : Expr} :
    Phrase .disjunction ks e → Phrase .operand (.openParen :: (ks ++ [.closeParen])) e
  | condition {ks : List TokenKind} {p : Predicate} :
    ConditionPhrase ks p → Phrase .operand ks (.predicate p)

/-! ## How phrases begin -/

theorem ValuePhrase.head_ne_closeBracket {ks : List TokenKind} {v : Value} (h : ValuePhrase ks v) :
    ∃ k ls, ks = k :: ls ∧ k ≠ .closeBracket ∧ k ≠ .openBracket := by
  cases h <;> exact ⟨_, _, rfl, nofun, nofun⟩

theorem ItemsPhrase.head_ne_closeBracket {ks : List TokenKind} {vs : List Value}
    (h : ItemsPhrase ks vs) : ∃ k ls, ks = k :: ls ∧ k ≠ .closeBracket := by
  cases h with
  | one hv =>
    obtain ⟨k, ls, rfl, hk, -⟩ := hv.head_ne_closeBracket
    exact ⟨k, ls, rfl, hk⟩
  | more hv _ =>
    obtain ⟨k, ls, rfl, hk, -⟩ := hv.head_ne_closeBracket
    exact ⟨k, ls ++ _, rfl, hk⟩

theorem ListPhrase.head_eq_openBracket {ks : List TokenKind} {vs : List Value}
    (h : ListPhrase ks vs) : ∃ ls, ks = .openBracket :: ls := by
  cases h <;> exact ⟨_, rfl⟩

theorem ConditionPhrase.head_eq_ident {ks : List TokenKind} {p : Predicate}
    (h : ConditionPhrase ks p) : ∃ field ls, ks = .ident field :: ls := by
  cases h <;> exact ⟨_, _, rfl⟩

theorem not_listPhrase_openBracket {vs : List Value} : ¬ ListPhrase [.openBracket] vs := by
  generalize hl : [TokenKind.openBracket] = ls
  intro h
  cases h with
  | empty => exact absurd hl (by simp)
  | items | itemsComma => exact absurd hl (by simp)

/-- A bracket that closes a list at once closes the empty list. -/
theorem ListPhrase.eq_nil_of_closeBracket {ks : List TokenKind} {vs : List Value}
    (h : ListPhrase (.openBracket :: .closeBracket :: ks) vs) : ks = [] ∧ vs = [] := by
  generalize hl : TokenKind.openBracket :: .closeBracket :: ks = ls at h
  cases h with
  | empty =>
    injection hl with _ hl
    injection hl with _ hl
    exact ⟨hl, rfl⟩
  | items hi | itemsComma hi =>
    obtain ⟨k, ms, rfl, hk⟩ := hi.head_ne_closeBracket
    injection hl with _ hl
    injection hl with hl _
    exact absurd hl.symm hk

/-- A value and a comma may stand in front of what a list holds. -/
theorem ListPhrase.cons {ks ls : List TokenKind} {v : Value} {vs : List Value}
    (hv : ValuePhrase ks v) (h : ListPhrase (.openBracket :: ls) vs) :
    ListPhrase (.openBracket :: (ks ++ .comma :: ls)) (v :: vs) := by
  generalize hl : TokenKind.openBracket :: ls = ms at h
  cases h with
  | empty =>
    obtain rfl := List.tail_eq_of_cons_eq hl
    exact .itemsComma (.one hv)
  | @items ns _ hi =>
    obtain rfl := List.tail_eq_of_cons_eq hl
    have := ListPhrase.items (ItemsPhrase.more hv hi)
    rwa [List.append_assoc, List.cons_append] at this
  | @itemsComma ns _ hi =>
    obtain rfl := List.tail_eq_of_cons_eq hl
    have := ListPhrase.itemsComma (ItemsPhrase.more hv hi)
    rwa [List.append_assoc, List.cons_append] at this

/-- A phrase begins with a negation, a parenthesis or a field. -/
theorem Phrase.head_cases {level : Level} {ks : List TokenKind} {e : Expr} (h : Phrase level ks e) :
    ∃ k ls, ks = k :: ls ∧ (k = .not ∨ k = .bang ∨ k = .openParen ∨ ∃ field, k = .ident field) := by
  induction h with
  | disjunct _ ih | conjunct _ ih => exact ih
  | or _ _ ih _ | and _ _ ih _ =>
    obtain ⟨k, ls, rfl, hk⟩ := ih
    exact ⟨k, _, rfl, hk⟩
  | not => exact ⟨_, _, rfl, .inl rfl⟩
  | bang => exact ⟨_, _, rfl, .inr (.inl rfl)⟩
  | group => exact ⟨_, _, rfl, .inr (.inr (.inl rfl))⟩
  | condition h =>
    obtain ⟨field, ls, rfl⟩ := h.head_eq_ident
    exact ⟨_, ls, rfl, .inr (.inr (.inr ⟨field, rfl⟩))⟩

/-! ## One condition -/

/-- Without a connective in it, a phrase is an operand. -/
theorem Phrase.operand_of_not_mem {level : Level} {ks : List TokenKind} {e : Expr}
    (h : Phrase level ks e) (hand : .and ∉ ks) (hor : .or ∉ ks) : Phrase .operand ks e := by
  cases h with
  | disjunct h =>
    cases h with
    | conjunct h => exact h
    | and => exact absurd List.mem_append_cons_self hand
  | or => exact absurd List.mem_append_cons_self hor
  | conjunct h => exact h
  | and => exact absurd List.mem_append_cons_self hand
  | not h => exact .not h
  | bang h => exact .bang h
  | group h => exact .group h
  | condition h => exact .condition h

/-- An operand that begins with a field is a condition. -/
theorem Phrase.condition_of_ident {field : List Char} {ks : List TokenKind} {e : Expr}
    (h : Phrase .operand (.ident field :: ks) e) :
    ∃ p, e = .predicate p ∧ ConditionPhrase (.ident field :: ks) p := by
  cases h with
  | condition h => exact ⟨_, rfl, h⟩

/-- An operand that begins with a negation negates an operand. -/
theorem Phrase.of_not {ks : List TokenKind} {e : Expr} (h : Phrase .operand (.not :: ks) e) :
    ∃ inner, e = .unary true inner ∧ Phrase .operand ks inner := by
  cases h with
  | not h => exact ⟨_, rfl, h⟩
  | condition h =>
    obtain ⟨field, ls, hks⟩ := h.head_eq_ident
    exact absurd (List.head_eq_of_cons_eq hks) nofun

/-- **A phrase of one condition**: it begins with a field and no connective stands in it. -/
theorem Phrase.ident_iff {field : List Char} {ks : List TokenKind} {e : Expr}
    (hand : .and ∉ ks) (hor : .or ∉ ks) :
    Phrase .disjunction (.ident field :: ks) e ↔
      ∃ p, e = .predicate p ∧ ConditionPhrase (.ident field :: ks) p := by
  constructor
  · intro h
    exact (h.operand_of_not_mem (List.not_mem_cons_of_ne_of_not_mem nofun hand)
      (List.not_mem_cons_of_ne_of_not_mem nofun hor)).condition_of_ident
  · rintro ⟨p, rfl, h⟩
    exact .disjunct (.conjunct (.condition h))

/-- What a condition compares. -/
theorem ConditionPhrase.of_compare {field : List Char} {op : CompareOp} {ks : List TokenKind}
    {p : Predicate} (h : ConditionPhrase (.ident field :: op.kind :: ks) p) :
    ∃ v, p = .compare (String.ofList field) op v ∧ ValuePhrase ks v := by
  generalize hls : TokenKind.ident field :: op.kind :: ks = ls at h
  cases h with
  | compare field' op' hv =>
    injection hls with hfield hls
    obtain rfl := TokenKind.ident.inj hfield
    injection hls with hop hks
    subst hks
    cases op <;> cases op' <;> first | exact ⟨_, rfl, hv⟩ | exact absurd hop nofun
  | member field' op' =>
    injection hls with _ hls
    cases op <;> cases op' <;> exact absurd (List.head_eq_of_cons_eq hls) nofun

/-- What a condition asks to be a member of. -/
theorem ConditionPhrase.of_member {field : List Char} {op : MemberOp} {ks : List TokenKind}
    {p : Predicate} (h : ConditionPhrase (.ident field :: (op.kinds ++ ks)) p) :
    ∃ operand, p = ⟨String.ofList field, .member op, operand⟩ ∧ MembersPhrase ks operand := by
  generalize hls : TokenKind.ident field :: (op.kinds ++ ks) = ls at h
  cases h with
  | compare field' op' =>
    injection hls with _ hls
    cases op <;> cases op' <;> exact absurd (List.head_eq_of_cons_eq hls) nofun
  | member field' op' hm =>
    injection hls with hfield hls
    obtain rfl := TokenKind.ident.inj hfield
    cases op <;> cases op'
    · obtain rfl := List.tail_eq_of_cons_eq hls
      exact ⟨_, rfl, hm⟩
    · exact absurd (List.head_eq_of_cons_eq hls) nofun
    · exact absurd (List.head_eq_of_cons_eq hls) nofun
    · obtain rfl := List.tail_eq_of_cons_eq (List.tail_eq_of_cons_eq hls)
      exact ⟨_, rfl, hm⟩

end ForgeBoard.Filter
