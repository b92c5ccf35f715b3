import ForgeBoard.Filter.Parser
import ForgeBoard.Proofs.Query.Listing.Accepted
import ForgeBoard.Proofs.Query.Search.Accepted

/-!
# Which condition an error names

An error that says that a condition is not supported names a field and an operator. They are those
of a condition that is left of the filter after routing, with one exception: a search string turns
a negated membership into the opposite one before it looks at the field, so for a negated list on
a field that takes none the error names the opposite operator.

* `Search.comparison_error`, `membership_error`, `condition_error`, `negatedCondition_error`: which
  errors of this sort a term has.
* `Search.render_error`: those of a search string, by induction on the tree.
* `Search.ofExpr_not_list`: the exception, for every negated list of that sort.
* `Listing.ofExpr_error`: those of a listing, from its table of refusals.

Result: `unsupported_names_condition`.
-/

namespace ForgeBoard.Query

open ForgeBoard.Filter

/-- The error says that a condition is not supported. -/
def QueryError.IsUnsupported : QueryError → Prop
  | unsupported _ _ _ => True
  | _ => False

variable {now : Int} {field : String} {v : Value} {vs : List Value} {p : Predicate}
  {e rest : Expr} {err : QueryError}

/-! ## Values -/

/-- Reading a value fails with another sort of error. -/
theorem not_isUnsupported_of_textOf (h : textOf field v = .error err) : ¬ err.IsUnsupported := by
  by_cases hsort : sortOf? v = some .text
  · obtain ⟨s, rfl⟩ := sortOf?_eq_text_iff.mp hsort
    exact absurd h nofun
  · rw [textOf_of_sort hsort] at h
    obtain rfl := Except.error.inj h
    exact id

theorem not_isUnsupported_of_truthOf (h : truthOf field v = .error err) :
    ¬ err.IsUnsupported := by
  by_cases hsort : sortOf? v = some .truth
  · obtain ⟨b, rfl⟩ := sortOf?_eq_truth_iff.mp hsort
    cases b <;> exact absurd h nofun
  · rw [truthOf_of_sort hsort] at h
    obtain rfl := Except.error.inj h
    exact id

theorem not_isUnsupported_of_dayOf (h : dayOf now field v = .error err) :
    ¬ err.IsUnsupported := by
  by_cases hday : StandsForDay now v
  · obtain ⟨day, hok⟩ := hday.exists_dayOf field
    exact absurd (hok.symm.trans h) nofun
  by_cases hsort : sortOf? v = some .day
  · rcases sortOf?_eq_day_iff.mp hsort with ⟨d, rfl⟩ | ⟨span, rfl⟩
    · exact absurd trivial hday
    · rw [dayOf_of_outOfRange hday] at h
      obtain rfl := Except.error.inj h
      exact id
  · rw [dayOf_of_sort hsort] at h
    obtain rfl := Except.error.inj h
    exact id

/-- So what is blamed is what follows the reading. -/
theorem error_of_read {α β : Type} {x : Except QueryError α} {f : α → Except QueryError β}
    (hread : x = .error err → ¬ err.IsUnsupported) (h : (x >>= f) = .error err)
    (herr : err.IsUnsupported) : ∃ a, f a = .error err := by
  rcases bind_eq_error_iff.mp h with h | ⟨a, -, h⟩
  · exact absurd herr (hread h)
  · exact ⟨a, h⟩

namespace Search

/-! ## Terms -/

theorem qualified_error {qualifier value : String} {op : CompareOp}
    (h : qualified qualifier field op value = .error err) :
    err = unsupported field (.compare op) ∧ op ≠ .eq := by
  cases op with
  | eq | ne => exact absurd h nofun
  | _ => exact ⟨(Except.error.inj h).symm, nofun⟩

/-- A comparison that is not supported is named. For `=` that is none on a field that can be
excluded. -/
theorem comparison_error {op : CompareOp} (h : comparison now field op v = .error err)
    (herr : err.IsUnsupported) :
    err = unsupported field (.compare op) ∧ (op = .eq → isExcludable field = false) := by
  unfold comparison at h
  split at h
  · obtain ⟨s, h⟩ := error_of_read not_isUnsupported_of_textOf h herr
    obtain ⟨rfl, hop⟩ := qualified_error h
    exact ⟨rfl, fun heq => absurd heq hop⟩
  next hnone =>
  split at h
  · obtain ⟨s, h⟩ := error_of_read not_isUnsupported_of_truthOf h herr
    obtain ⟨rfl, hop⟩ := qualified_error h
    exact ⟨rfl, fun heq => absurd heq hop⟩
  next hflag =>
  have hexcludable : isExcludable field = false := by
    rw [isExcludable, hnone, Bool.eq_false_iff.mpr hflag]
    rfl
  refine ⟨?_, fun _ => hexcludable⟩
  have hplain : ∀ t : String,
      (if op = .eq then .ok t else .error (unsupported field (.compare op)) :
        Except QueryError String) = .error err → err = unsupported field (.compare op) := by
    intro t h
    split at h
    · cases h
    · exact (Except.error.inj h).symm
  split at h
  · obtain ⟨day, h⟩ := error_of_read not_isUnsupported_of_dayOf h herr
    cases h
  split at h
  · obtain ⟨s, h⟩ := error_of_read not_isUnsupported_of_textOf h herr
    exact hplain _ h
  split at h
  · obtain ⟨s, h⟩ := error_of_read not_isUnsupported_of_textOf h herr
    exact hplain _ h
  · exact (Except.error.inj h).symm

/-- On a field that takes lists, every comparison by `=` is supported. -/
theorem not_isUnsupported_of_memberTerms (hfield : isListable field = true)
    (h : memberTerms now field vs = .error err) : ¬ err.IsUnsupported := by
  have hexcludable : isExcludable field = true := by
    have hmem := listFields_subset (mem_listFields_iff.mpr hfield)
    rw [isExcludable, mem_qualifiedFields_iff.mp hmem, Bool.true_or]
  induction vs with
  | nil => cases h
  | cons v vs ih =>
    rcases bind_eq_error_iff.mp h with h | ⟨t, -, h⟩
    · intro herr
      have hnot := (comparison_error h herr).2 rfl
      exact Bool.false_ne_true (hnot.symm.trans hexcludable)
    rcases bind_eq_error_iff.mp h with h | ⟨ts, -, h⟩
    · exact ih h
    · cases h

/-- A membership that is not supported is named, and its field takes no lists. -/
theorem membership_error {op : MemberOp} (h : membership now field op vs = .error err)
    (herr : err.IsUnsupported) : err = unsupported field (.member op) ∧ field ∉ listFields := by
  unfold membership at h
  dsimp only at h
  split at h
  · next hlistable =>
    obtain rfl := Except.error.inj h
    refine ⟨rfl, fun hfield => ?_⟩
    rw [mem_listFields_iff.mp hfield] at hlistable
    exact absurd hlistable nofun
  next hlistable =>
  split at h
  · obtain rfl := Except.error.inj h
    exact herr.elim
  rcases bind_eq_error_iff.mp h with h | ⟨ts, -, h⟩
  · have hfield : isListable field = true := by simpa using hlistable
    exact absurd herr (not_isUnsupported_of_memberTerms hfield h)
  · cases op <;> exact absurd h nofun

/-! ## Conditions -/

theorem condition_error (h : condition now p = .error err) (herr : err.IsUnsupported) :
    err = unsupported p.key p.op := by
  unfold condition at h
  split at h
  · exact (Except.error.inj h).symm
  split at h
  · next op v hop _ => rw [hop, (comparison_error h herr).1]
  · next op vs hop _ => rw [hop, (membership_error h herr).1]
  · exact (Except.error.inj h).symm

/-- The condition is a list on a field that takes none, and its negation is refused as the opposite
of what it is. -/
def Reversed (p : Predicate) (err : QueryError) : Prop :=
  ∃ op vs, p.op = .member op ∧ p.operand = .list vs ∧ p.key ∉ listFields ∧
    err = unsupported p.key (.member (opposite op))

/-- A negated condition that is not supported is named, or it is a list and the opposite is. -/
theorem negatedCondition_error (h : negatedCondition now p = .error err)
    (herr : err.IsUnsupported) : err = unsupported p.key p.op ∨ Reversed p err := by
  have hsigned : (condition now p).map ("-" ++ ·) = .error err → err = unsupported p.key p.op := by
    intro h
    cases hcondition : condition now p with
    | ok s =>
      rw [hcondition] at h
      exact absurd h nofun
    | error err' =>
      rw [hcondition] at h
      obtain rfl := Except.error.inj h
      exact condition_error hcondition herr
  unfold negatedCondition at h
  split at h
  · next op vs hop hoperand =>
    split at h
    · exact .inl (Except.error.inj h).symm
    · obtain ⟨rfl, hfield⟩ := membership_error h herr
      exact .inr ⟨op, vs, hop, hoperand, hfield, rfl⟩
  · split at h
    · next hexcludable =>
      exact absurd ((comparison_error h herr).2 rfl) (hexcludable ▸ nofun)
    · exact .inl (hsigned h)
  · exact .inl (hsigned h)

/-! ## Search strings -/

/-- The error names a condition of the tree that has no term. -/
def Names (now : Int) (rest : Expr) (err : QueryError) : Prop :=
  ∃ p ∈ rest.predicates, ¬ Supported now p ∧
    (err = unsupported p.key p.op ∨ .unary true (.predicate p) ∈ rest.nodes ∧ Reversed p err)

theorem Names.of_nodes {inner : Expr} (h : Names now inner err)
    (hsub : ∀ node ∈ inner.nodes, node ∈ e.nodes) : Names now e err := by
  obtain ⟨p, hp, hnot, hnamed⟩ := h
  refine ⟨p, Expr.mem_predicates_iff.mpr (hsub _ (Expr.mem_predicates_iff.mp hp)), hnot, ?_⟩
  exact hnamed.imp_right (And.imp_left (hsub _))

/-- **A search string that is not supported** names a condition that has no term. -/
theorem render_error (h : render now rest = .error err) (herr : err.IsUnsupported) :
    Names now rest err := by
  induction rest with
  | predicate p =>
    refine ⟨p, List.mem_singleton_self p, fun hsupported => ?_, .inl (condition_error h herr)⟩
    obtain ⟨s, hs⟩ := exists_condition_iff.mpr hsupported
    exact absurd (hs.symm.trans h) nofun
  | unary negate inner ih =>
    cases negate with
    | false => exact (ih h).of_nodes fun _ => List.mem_cons_of_mem _
    | true =>
      cases inner with
      | predicate p =>
        refine ⟨p, List.mem_singleton_self p, fun hsupported => ?_, ?_⟩
        · obtain ⟨s, hs⟩ := exists_negatedCondition_iff.mpr hsupported
          exact absurd (hs.symm.trans h) nofun
        · exact (negatedCondition_error h herr).imp_right fun hreversed =>
            ⟨List.mem_cons_self, hreversed⟩
      | unary | binary =>
        obtain rfl := Except.error.inj h
        exact herr.elim
  | binary op left right ihl ihr =>
    have hleft : ∀ node ∈ left.nodes, node ∈ (Expr.binary op left right).nodes := fun _ hnode =>
      List.mem_cons_of_mem _ (List.mem_append_left _ hnode)
    have hright : ∀ node ∈ right.nodes, node ∈ (Expr.binary op left right).nodes := fun _ hnode =>
      List.mem_cons_of_mem _ (List.mem_append_right _ hnode)
    cases op with
    | and =>
      rw [render_and] at h
      rcases bind_eq_error_iff.mp h with h | ⟨s, -, h⟩
      · exact (ihl h).of_nodes hleft
      rcases bind_eq_error_iff.mp h with h | ⟨t, -, h⟩
      · exact (ihr h).of_nodes hright
      · exact absurd h nofun
    | or =>
      rw [render_or] at h
      rcases bind_eq_error_iff.mp h with h | ⟨s, -, h⟩
      · exact (ihl h).of_nodes hleft
      rcases bind_eq_error_iff.mp h with h | ⟨t, -, h⟩
      · exact (ihr h).of_nodes hright
      split at h
      · obtain rfl := Except.error.inj h
        exact herr.elim
      · exact absurd h nofun

theorem ofExpr_error (h : SearchQuery.ofExpr now e = .error err) (herr : err.IsUnsupported) :
    ∃ rest routing, e.normalize.route = .ok (some rest, routing) ∧ Names now rest err := by
  rcases bind_eq_error_iff.mp h with h | ⟨⟨remaining, routing⟩, hprepare, h⟩
  · obtain ⟨misuse, -, rfl⟩ := prepare_eq_error_iff.mp h
    exact herr.elim
  cases remaining with
  | none => exact absurd h nofun
  | some rest =>
    refine ⟨rest, routing, prepare_eq_ok_iff.mp hprepare, ?_⟩
    rcases bind_eq_error_iff.mp h with h | ⟨s, -, h⟩
    · exact render_error h herr
    · exact absurd h nofun

theorem membership_of_not_mem {op : MemberOp} (hfield : field ∉ listFields) :
    membership now field op vs = .error (unsupported field (.member op)) := by
  rw [mem_listFields_iff, Bool.not_eq_true] at hfield
  unfold membership
  simp only [hfield, Bool.not_false, if_true]
  rfl

theorem negatedCondition_list {op : MemberOp} (hrouting : p.isRouting = false)
    (hop : p.op = .member op) (hoperand : p.operand = .list vs) (hfield : p.key ∉ listFields) :
    negatedCondition now p = .error (unsupported p.key (.member (opposite op))) := by
  have hkey : p.key ≠ routingField := by simpa [Predicate.isRouting] using hrouting
  unfold negatedCondition
  simp only [hop, hoperand]
  rw [if_neg hkey, membership_of_not_mem hfield]

/-- The normal form of a list is the list of the normal forms. -/
theorem normalize_list {op : MemberOp} (hop : p.op = .member op) (hoperand : p.operand = .list vs) :
    p.normalize.op = .member op ∧ p.normalize.operand = .list (vs.map Value.normalize) := by
  obtain ⟨field, _, _⟩ := p
  subst hop hoperand
  cases op <;> exact ⟨rfl, rfl⟩

/-- **A negated list** on a field that takes none is refused as the opposite membership. -/
theorem ofExpr_not_list {op : MemberOp} (hrouting : p.isRouting = false)
    (hop : p.op = .member op) (hoperand : p.operand = .list vs) (hfield : p.key ∉ listFields) :
    SearchQuery.ofExpr now (.unary true (.predicate p)) =
      .error (unsupported p.key (.member (opposite op))) := by
  obtain ⟨hop', hoperand'⟩ := normalize_list hop hoperand
  rw [← p.isRouting_normalize] at hrouting
  rw [← p.key_normalize] at hfield ⊢
  refine bind_eq_error_iff.mpr (.inr ⟨_, prepare_eq_ok_iff.mpr (route_alone ?_).2, ?_⟩)
  · rwa [p.isRouting_normalize] at hrouting
  · exact bind_eq_error_iff.mpr (.inl (negatedCondition_list hrouting hop' hoperand' hfield))

end Search

/-! ## Listings -/

/-- **A listing that is not supported** names a condition that no listing takes. -/
theorem Listing.ofExpr_error (h : ListingQuery.ofExpr now e = .error err)
    (herr : err.IsUnsupported) :
    ∃ rest routing, e.normalize.route = .ok (some rest, routing) ∧
      ∃ p ∈ rest.predicates, ¬ Listing.Supported now p ∧ err = Listing.unsupported p.key p.op := by
  rcases Listing.ofExpr_eq_error_iff.mp h with ⟨misuse, -, rfl⟩ | ⟨rest, routing, hroute, hoffence⟩
  · exact herr.elim
  obtain ⟨before, node, after, hnodes, -, hoffends⟩ := hoffence
  refine ⟨rest, routing, hroute, ?_⟩
  cases hoffends with
  | @condition p _ hrefuses =>
    refine ⟨p, Expr.mem_predicates_iff.mpr ?_, fun hsupported => ?_, ?_⟩
    · rw [hnodes]
      exact List.mem_append_cons_self
    · exact Listing.not_refuses_of_supported hsupported hrefuses
    · cases hrefuses with
      | unsupported | anotherDay => rfl
      | _ => exact herr.elim
  | _ => exact herr.elim

/-! ## Result -/

/-- **Whom an error blames.** Of the error that a condition is not supported, the field and the
operator are those of a condition that is left after routing and is not supported. In a search
string the operator may be the opposite one instead, where the condition is a negated list on a
field that takes no lists, and there it always is. -/
theorem unsupported_names_condition (now : Int) (e : Expr) (backend : ForgeKind) (field : String)
    (op : PredicateOp) :
    (ListingQuery.ofExpr now e = .error (.unsupported backend field op) →
        backend = .gitlab ∧ ∃ rest routing, e.normalize.route = .ok (some rest, routing) ∧
          ∃ p ∈ rest.predicates, ¬ Listing.Supported now p ∧ p.key = field ∧ p.op = op) ∧
      (SearchQuery.ofExpr now e = .error (.unsupported backend field op) →
        backend = .github ∧ ∃ rest routing, e.normalize.route = .ok (some rest, routing) ∧
          ∃ p ∈ rest.predicates, ¬ Search.Supported now p ∧ p.key = field ∧
            (p.op = op ∨ .unary true (.predicate p) ∈ rest.nodes ∧ p.key ∉ Search.listFields ∧
              ∃ member vs, p.op = .member member ∧ p.operand = .list vs ∧
                op = .member (Search.opposite member))) ∧
      ∀ p : Predicate, ∀ member vs, p.isRouting = false → p.op = .member member →
        p.operand = .list vs → p.key ∉ Search.listFields →
          SearchQuery.ofExpr now (.unary true (.predicate p)) =
            .error (.unsupported .github p.key (.member (Search.opposite member))) := by
  refine ⟨fun h => ?_, fun h => ?_, fun p member vs => Search.ofExpr_not_list⟩
  · obtain ⟨rest, routing, hroute, p, hp, hnot, herr⟩ := Listing.ofExpr_error h trivial
    obtain ⟨rfl, rfl, rfl⟩ := QueryError.unsupported.inj herr
    exact ⟨rfl, rest, routing, hroute, p, hp, hnot, rfl, rfl⟩
  · obtain ⟨rest, routing, hroute, p, hp, hnot, hnamed⟩ := Search.ofExpr_error h trivial
    rcases hnamed with herr | ⟨hnode, member, vs, hop, hoperand, hfield, herr⟩
    · obtain ⟨rfl, rfl, rfl⟩ := QueryError.unsupported.inj herr
      exact ⟨rfl, rest, routing, hroute, p, hp, hnot, rfl, .inl rfl⟩
    · obtain ⟨rfl, rfl, rfl⟩ := QueryError.unsupported.inj herr
      exact ⟨rfl, rest, routing, hroute, p, hp, hnot, rfl,
        .inr ⟨hnode, hfield, member, vs, hop, hoperand, rfl⟩⟩

/-- A list of authors that neither backend can leave out. -/
def notByMe : Predicate :=
  .member "Author" .notWithin [.text "me"]

/-- The list beside a choice of instances. -/
def notByMeElsewhere : Expr :=
  .binary .and (.predicate (.compare "provider" .ne (.text "gitlab:example.com")))
    (.predicate notByMe)

theorem unsupported_names_condition_notByMe :
    (ListingQuery.ofExpr 0 notByMeElsewhere =
        .error (.unsupported .gitlab "author" (.member .notWithin)) ∧
      ∃ rest routing, notByMeElsewhere.normalize.route = .ok (some rest, routing) ∧
        ∃ p ∈ rest.predicates, ¬ Listing.Supported 0 p ∧ p.key = "author" ∧
          p.op = .member .notWithin) ∧
    (SearchQuery.ofExpr 0 notByMeElsewhere =
        .error (.unsupported .github "author" (.member .notWithin)) ∧
      ∃ rest routing, notByMeElsewhere.normalize.route = .ok (some rest, routing) ∧
        ∃ p ∈ rest.predicates, ¬ Search.Supported 0 p ∧ p.key = "author") ∧
    SearchQuery.ofExpr 0 (.unary true (.predicate notByMe)) =
      .error (.unsupported .github "author" (.member .within)) := by
  have hlisting : ListingQuery.ofExpr 0 notByMeElsewhere =
      .error (.unsupported .gitlab "author" (.member .notWithin)) := by decide
  have hsearch : SearchQuery.ofExpr 0 notByMeElsewhere =
      .error (.unsupported .github "author" (.member .notWithin)) := by decide
  have named := unsupported_names_condition 0 notByMeElsewhere
  obtain ⟨-, hlisted⟩ := (named _ _ _).1 hlisting
  obtain ⟨-, rest, routing, hroute, p, hp, hnot, hkey, -⟩ := (named _ _ _).2.1 hsearch
  exact ⟨⟨hlisting, hlisted⟩, ⟨hsearch, rest, routing, hroute, p, hp, hnot, hkey⟩,
    (named .github "author" (.member .within)).2.2 notByMe .notWithin [.text "me"] (by decide) rfl
      rfl (by decide)⟩

/-- A negated list of authors. -/
def negatedAuthors : Expr :=
  .unary true (.predicate (.member "author" .within [.text "a"]))

/-- **The error names an operator that no condition has.** -/
theorem negatedAuthors_blamed :
    parse "not author in [\"a\"]" = .ok negatedAuthors ∧
      negatedAuthors.normalize.route = .ok (some negatedAuthors, .everywhere) ∧
      SearchQuery.ofExpr 0 negatedAuthors =
        .error (.unsupported .github "author" (.member .notWithin)) ∧
      ¬ ∃ p ∈ negatedAuthors.predicates,
        p.key = "author" ∧ p.op.symbol = (PredicateOp.member .notWithin).symbol := by
  refine ⟨rfl, by decide, by decide, ?_⟩
  rintro ⟨p, hp, -, hsymbol⟩
  obtain rfl := List.mem_singleton.mp hp
  exact absurd hsymbol (by decide)

end ForgeBoard.Query
