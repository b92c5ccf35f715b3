import ForgeBoard.Proofs.Filter.Parse.Complete

/-!
# What may stand between brackets

A list is documented as values with one comma between each two of them. The loop that reads it
asks for the closing bracket before each value, also after a comma, and so takes one comma more.

* `Row ks row`: the kinds `ks` are those of a row of values and commas in any order. `row` has
  `some v` for a value and `none` for a comma.
* `Row.unique`: the kinds tell the row, since no phrase of a value begins another one
  (`ValuePhrase.append_inj`).
* `separated vs`: the documented row of the values `vs`.
* `itemsPhrase_iff_row`, `listPhrase_iff_row`: the lists of the grammar as rows.

Result: `parse_membership_iff`, which rows are read behind a field and a membership operator, and
as what.
-/

namespace ForgeBoard.Filter

open Text

variable {ks ls : List TokenKind} {v w : Value} {vs : List Value} {row row' : List (Option Value)}

/-! ## Rows -/

/-- The kinds of the tokens of a row: values, `some`, and commas, `none`, in any order. -/
inductive Row : List TokenKind → List (Option Value) → Prop where
  | nil : Row [] []
  | comma {ks : List TokenKind} {row : List (Option Value)} :
    Row ks row → Row (.comma :: ks) (none :: row)
  | value {ks ls : List TokenKind} {v : Value} {row : List (Option Value)} :
    ValuePhrase ks v → Row ls row → Row (ks ++ ls) (some v :: row)

/-- The row of some values with one comma between each two of them. -/
def separated (vs : List Value) : List (Option Value) :=
  (vs.map some).intersperse none

theorem separated_cons (h : vs ≠ []) : separated (v :: vs) = some v :: none :: separated vs := by
  obtain ⟨w, vs, rfl⟩ := List.exists_cons_of_ne_nil h
  rfl

/-- A phrase of a value is no beginning of a phrase of another value. -/
theorem ValuePhrase.append_inj {xs ys : List TokenKind} (h : ValuePhrase ks v)
    (h' : ValuePhrase ls w) (heq : ks ++ xs = ls ++ ys) : v = w ∧ xs = ys := by
  -- one reading of one stream gives both values and leaves both rests
  have reads : ∀ {ks : List TokenKind} {v : Value} (xs : List TokenKind), ValuePhrase ks v →
      Parse.value 2 (.prepend ((ks ++ xs).map fun k => ⟨k, [], 0⟩) (.finish 0)) =
        .ok (v, .prepend (xs.map fun k => ⟨k, [], 0⟩) (.finish 0)) := by
    intro ks v xs h
    rw [List.map_append, Tokens.prepend_append]
    refine Parse.accepts_value h (Nat.le_refl 2) _ _ ?_ (Tokens.unbroken_prepend trivial) trivial
    rw [List.map_map]
    exact List.map_id ks
  have hread := reads xs h
  rw [heq, reads ys h'] at hread
  obtain ⟨rfl, hrest⟩ := Prod.mk.inj (Except.ok.inj hread)
  have hlen := congrArg Tokens.length hrest
  rw [Tokens.length_prepend, Tokens.length_prepend, List.length_map, List.length_map] at hlen
  exact ⟨rfl, List.append_inj_right' heq (Nat.add_right_cancel hlen).symm⟩

namespace Row

theorem eq_nil (h : Row [] row) : row = [] := by
  generalize hks : ([] : List TokenKind) = ks at h
  cases h with
  | nil => rfl
  | comma => exact absurd hks nofun
  | value hv =>
    obtain ⟨k, ms, rfl, -⟩ := hv.head_ne_closeBracket
    exact absurd hks nofun

theorem of_comma (h : Row (.comma :: ks) row) : ∃ row', row = none :: row' ∧ Row ks row' := by
  generalize hks : TokenKind.comma :: ks = ls at h
  cases h with
  | nil => exact absurd hks nofun
  | comma hrow =>
    obtain rfl := List.tail_eq_of_cons_eq hks
    exact ⟨_, rfl, hrow⟩
  | value hv => cases hv <;> exact absurd (List.head_eq_of_cons_eq hks) nofun

theorem of_value (hv : ValuePhrase ks v) (h : Row (ks ++ ls) row) :
    ∃ row', row = some v :: row' ∧ Row ls row' := by
  generalize hks : ks ++ ls = ms at h
  cases h with
  | nil =>
    obtain ⟨k, ns, rfl, -⟩ := hv.head_ne_closeBracket
    exact absurd hks nofun
  | comma => cases hv <;> exact absurd (List.head_eq_of_cons_eq hks) nofun
  | value hw hrow =>
    obtain ⟨rfl, rfl⟩ := hv.append_inj hw hks
    exact ⟨_, rfl, hrow⟩

/-- **The tokens of a row tell the row.** -/
theorem unique (h : Row ks row) (h' : Row ks row') : row = row' := by
  induction h generalizing row' with
  | nil => exact h'.eq_nil.symm
  | comma _ ih =>
    obtain ⟨tail, rfl, htail⟩ := h'.of_comma
    rw [ih htail]
  | value hv _ ih =>
    obtain ⟨tail, rfl, htail⟩ := h'.of_value hv
    rw [ih htail]

theorem append (h : Row ks row) (h' : Row ls row') : Row (ks ++ ls) (row ++ row') := by
  induction h with
  | nil => exact h'
  | comma _ ih => exact .comma ih
  | value hv _ ih =>
    rw [List.append_assoc]
    exact .value hv ih

/-- A row that ends with a comma has its token at the end. -/
theorem exists_of_append_comma (h : Row ks (row ++ [none])) :
    ∃ ls, ks = ls ++ [.comma] ∧ Row ls row := by
  generalize hrow : row ++ [none] = whole at h
  induction h generalizing row with
  | nil => exact absurd hrow (List.append_ne_nil_of_right_ne_nil _ nofun)
  | comma h ih =>
    cases row with
    | nil =>
      obtain rfl := List.tail_eq_of_cons_eq hrow
      cases h
      exact ⟨[], rfl, .nil⟩
    | cons =>
      obtain ⟨rfl, rfl⟩ := List.cons.inj hrow
      obtain ⟨ls, rfl, hls⟩ := ih rfl
      exact ⟨.comma :: ls, rfl, .comma hls⟩
  | value hv h ih =>
    cases row with
    | nil => exact absurd (List.head_eq_of_cons_eq hrow) nofun
    | cons =>
      obtain ⟨rfl, rfl⟩ := List.cons.inj hrow
      obtain ⟨ls, rfl, hls⟩ := ih rfl
      exact ⟨_ ++ ls, (List.append_assoc ..).symm, .value hv hls⟩

/-- No connective stands in a row. -/
theorem ne_connective (h : Row ks row) : .and ∉ ks ∧ .or ∉ ks := by
  induction h with
  | nil => exact ⟨nofun, nofun⟩
  | comma _ ih =>
    exact ⟨List.not_mem_cons_of_ne_of_not_mem nofun ih.1,
      List.not_mem_cons_of_ne_of_not_mem nofun ih.2⟩
  | value hv _ ih => cases hv <;> simpa using ih

end Row

/-! ## Lists as rows -/

/-- **The items of a list are the documented row of its values.** -/
theorem itemsPhrase_iff_row : ItemsPhrase ks vs ↔ vs ≠ [] ∧ Row ks (separated vs) := by
  constructor
  · intro h
    refine ⟨by cases h <;> exact List.cons_ne_nil _ _, ?_⟩
    induction h with
    | @one ks v hv =>
      have hrow := Row.value hv .nil
      rwa [List.append_nil] at hrow
    | more hv hitems ih =>
      rw [separated_cons (by cases hitems <;> exact List.cons_ne_nil _ _)]
      exact .value hv (.comma ih)
  · rintro ⟨hne, hrow⟩
    induction vs generalizing ks with
    | nil => exact absurd rfl hne
    | cons v vs ih =>
      cases vs with
      | nil =>
        cases hrow with
        | value hv hnil =>
          cases hnil
          rw [List.append_nil]
          exact .one hv
      | cons w vs =>
        rw [separated_cons (List.cons_ne_nil _ _)] at hrow
        cases hrow with
        | value hv hcomma =>
          cases hcomma with
          | comma hrow => exact .more hv (ih (List.cons_ne_nil _ _) hrow)

/-- **A list is a documented row, or such a row of one value at least and a comma.** -/
theorem listPhrase_iff_row : ListPhrase (.openBracket :: (ks ++ [.closeBracket])) vs ↔
    Row ks (separated vs) ∨ vs ≠ [] ∧ Row ks (separated vs ++ [none]) := by
  constructor
  · intro h
    generalize hls : TokenKind.openBracket :: (ks ++ [.closeBracket]) = ls at h
    cases h with
    | empty =>
      have hks : ks ++ [.closeBracket] = [] ++ [.closeBracket] := List.tail_eq_of_cons_eq hls
      obtain rfl := List.append_cancel_right hks
      exact .inl .nil
    | items hitems =>
      obtain rfl := List.append_cancel_right (List.tail_eq_of_cons_eq hls)
      exact .inl (itemsPhrase_iff_row.mp hitems).2
    | @itemsComma ms _ hitems =>
      have hks : ks ++ [.closeBracket] = (ms ++ [.comma]) ++ [.closeBracket] := by
        rw [List.append_assoc]
        exact List.tail_eq_of_cons_eq hls
      obtain rfl := List.append_cancel_right hks
      obtain ⟨hne, hrow⟩ := itemsPhrase_iff_row.mp hitems
      exact .inr ⟨hne, hrow.append (.comma .nil)⟩
  · rintro (hrow | ⟨hne, hrow⟩)
    · by_cases hvs : vs = []
      · subst hvs
        cases hrow
        exact .empty
      · exact .items (itemsPhrase_iff_row.mpr ⟨hvs, hrow⟩)
    · obtain ⟨ms, rfl, hms⟩ := hrow.exists_of_append_comma
      have := ListPhrase.itemsComma (itemsPhrase_iff_row.mpr ⟨hne, hms⟩)
      rwa [List.append_assoc]

/-- Between the brackets of a membership stands a list. -/
theorem membersPhrase_bracket_iff {operand : Operand} :
    MembersPhrase (.openBracket :: ks) operand ↔
      ∃ vs, operand = .list vs ∧ ListPhrase (.openBracket :: ks) vs := by
  constructor
  · intro h
    generalize hls : TokenKind.openBracket :: ks = ls at h
    cases h with
    | list hl =>
      subst hls
      exact ⟨_, rfl, hl⟩
    | last hv =>
      obtain ⟨k, ms, rfl, -, hk⟩ := hv.head_ne_closeBracket
      exact absurd (List.head_eq_of_cons_eq hls).symm hk
  · rintro ⟨vs, rfl, h⟩
    exact .list h

/-! ## Memberships in sources -/

/-- A source whose tokens are a field, a membership operator and, between brackets, a row of values
and commas. -/
def AsksRow (source : String) (field : List Char) (op : MemberOp)
    (row : List (Option Value)) : Prop :=
  ∃ ts ks, tokenize source = .ok ts ∧ Row ks row ∧
    ts.map Token.kind = .ident field :: (op.kinds ++ .openBracket :: (ks ++ [.closeBracket, .eof]))

/-- The phrases of a field, a membership operator and a row between brackets. -/
theorem Row.phrase_iff {field : List Char} {op : MemberOp} {e : Expr} (h : Row ks row) :
    Phrase .disjunction (.ident field :: (op.kinds ++ .openBracket :: (ks ++ [.closeBracket]))) e ↔
      ∃ vs, e = .predicate (.member (String.ofList field) op vs) ∧
        ListPhrase (.openBracket :: (ks ++ [.closeBracket])) vs := by
  obtain ⟨hand, hor⟩ := h.ne_connective
  rw [Phrase.ident_iff (by cases op <;> simpa [MemberOp.kinds] using hand)
    (by cases op <;> simpa [MemberOp.kinds] using hor)]
  constructor
  · rintro ⟨p, rfl, hp⟩
    obtain ⟨operand, rfl, hm⟩ := hp.of_member
    obtain ⟨vs, rfl, hl⟩ := membersPhrase_bracket_iff.mp hm
    exact ⟨vs, rfl, hl⟩
  · rintro ⟨vs, rfl, hl⟩
    exact ⟨_, rfl, .member field op (.list hl)⟩

/-- **Which memberships of rows are read.** A row is read as a list iff it is the documented row of
the values of the list, or this row with a comma behind it. -/
theorem parse_membership_iff {source : String} {field : List Char} {op : MemberOp}
    (h : AsksRow source field op row) (e : Expr) :
    parse source = .ok e ↔
      ∃ vs, e = .predicate (.member (String.ofList field) op vs) ∧
        (row = separated vs ∨ vs ≠ [] ∧ row = separated vs ++ [none]) := by
  obtain ⟨whole, ks, hscan, hrow, hwhole⟩ := h
  obtain ⟨ts, offset, -, rfl⟩ := tokenize_eq_ok_iff.mp hscan
  have hkinds : ts.map Token.kind ++ [.eof] =
      (.ident field :: (op.kinds ++ .openBracket :: (ks ++ [.closeBracket]))) ++ [.eof] := by
    rw [List.map_append] at hwhole
    simpa using hwhole
  -- the tokens of the row tell it, so a row read from them is this one
  have told : ∀ {row'}, Row ks row' ↔ row = row' := fun {_} =>
    ⟨hrow.unique, fun heq => heq ▸ hrow⟩
  rw [parse_iff_phrase hscan, List.append_cancel_right hkinds, hrow.phrase_iff]
  simp only [listPhrase_iff_row, told]

/-- A text, a comma and a call are a documented row. -/
theorem asksRow_textAndCall :
    AsksRow "label not in [\"a\", LAST(2d)]" "label".toList .notWithin
      (separated [.text "a", .call ⟨"last", ⟨2, .day⟩⟩]) :=
  ⟨_, _, rfl,
    .value (.text ['a']) (.comma (.value
      (.last rfl (TimeSpan.ofChars?_eq_some_iff.mp rfl)) .nil)), rfl⟩

theorem parse_membership_iff_textAndCall :
    AsksRow "label not in [\"a\", LAST(2d)]" "label".toList .notWithin
        (separated [.text "a", .call ⟨"last", ⟨2, .day⟩⟩]) ∧
      parse "label not in [\"a\", LAST(2d)]" =
        .ok (.predicate (.member "label" .notWithin [.text "a", .call ⟨"last", ⟨2, .day⟩⟩])) :=
  ⟨asksRow_textAndCall, (parse_membership_iff asksRow_textAndCall _).mpr ⟨_, rfl, .inl rfl⟩⟩

/-- **A comma behind the last value** is not in the documented grammar, and the list is read. -/
theorem trailingComma_read :
    AsksRow "label in [\"a\",]" "label".toList .within [some (.text "a"), none] ∧
      parse "label in [\"a\",]" = .ok (.predicate (.member "label" .within [.text "a"])) ∧
      ¬ ∃ vs, [some (.text "a"), none] = separated vs := by
  refine ⟨⟨_, _, rfl, .value (.text ['a']) (.comma .nil), rfl⟩, rfl, ?_⟩
  rintro ⟨vs, hvs⟩
  match vs, hvs with
  | [_], hvs => exact absurd (List.tail_eq_of_cons_eq hvs) nofun
  | _ :: _ :: _, hvs => exact absurd (congrArg List.length hvs) (by simp [separated]; omega)

end ForgeBoard.Filter
