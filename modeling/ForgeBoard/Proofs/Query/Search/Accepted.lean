import ForgeBoard.Proofs.Filter.Tree
import ForgeBoard.Proofs.Query.Search.Beside
import ForgeBoard.Proofs.Query.Search.Supported

/-!
# Filters that have a search string

`Renderable` says of the nodes of a tree when what is left of a filter after routing has a search
string: negations stand directly over conditions, the conditions are supported, and no side of a
choice is `Silent`. A silent tree is the only one with a blank search string (`blank_render_iff`),
and a choice with a blank side would be no choice. Each node is asked something of its own (`Fits`),
so `exists_render_iff` goes by induction on the tree.

Result: `renderable_exactly`. A filter that restricts something has a search string that restricts
something.
-/

namespace ForgeBoard.Query.Search

open ForgeBoard.Filter Text

variable {now : Int} {s : String} {p : Predicate} {e left right inner : Expr}

/-- Only conditions of which nothing is seen, joined by `and`. -/
def Silent : Expr → Prop
  | .binary .and left right => Silent left ∧ Silent right
  | .binary .or _ _ => False
  | .unary negate inner => negate = false ∧ Silent inner
  | .predicate p => SilentText p

/-- What is left of a filter has a search string at the instant `now`. -/
structure Renderable (now : Int) (rest : Expr) : Prop where
  negations : ∀ inner, .unary true inner ∈ rest.nodes → ∃ p, inner = .predicate p
  supported : ∀ p ∈ rest.predicates, Supported now p
  choices : ∀ left right, .binary .or left right ∈ rest.nodes → ¬ Silent left ∧ ¬ Silent right

/-! ## Blank search strings -/

theorem render_or : render now (.binary .or left right) = render now left >>= fun s =>
    render now right >>= fun t =>
      if trim s = "" ∨ trim t = "" then .error .emptySide
      else .ok ("(" ++ trim s ++ " OR " ++ trim t ++ ")") := by
  rw [render]
  refine bind_congr fun s => bind_congr (x := render now right) fun t => ?_
  simp only [Bool.or_eq_true, String.isEmpty_iff]
  rfl

/-- **A search string is blank** iff its expression is silent. -/
theorem blank_render_iff (h : render now e = .ok s) : trim s = "" ↔ Silent e := by
  induction e generalizing s with
  | predicate p => exact blank_condition_iff h
  | unary negate inner ih =>
    cases negate with
    | false =>
      rw [ih h, Silent]
      simp
    | true =>
      refine iff_of_false ?_ fun hsilent => absurd hsilent.1 nofun
      cases inner with
      | predicate p => exact not_blank_negatedCondition h
      | unary | binary => exact absurd h nofun
  | binary op left right ihl ihr =>
    cases op with
    | and =>
      rw [render_and] at h
      obtain ⟨t, ht, h⟩ := bind_eq_ok_iff.mp h
      obtain ⟨u, hu, h⟩ := bind_eq_ok_iff.mp h
      obtain rfl := Except.ok.inj h
      rw [trim_beside, beside_eq_empty_iff, ihl ht, ihr hu, Silent]
    | or =>
      rw [render_or] at h
      obtain ⟨t, ht, h⟩ := bind_eq_ok_iff.mp h
      obtain ⟨u, hu, h⟩ := bind_eq_ok_iff.mp h
      obtain ⟨-, h⟩ := ite_error_eq_ok_iff.mp h
      obtain rfl := Except.ok.inj h
      exact iff_of_false (trim_ne_empty_of_mem (c := '(') (by simp) (by decide)) id

/-! ## Trees that have a search string -/

/-- What is asked of a node, its subtrees aside. -/
def Fits (now : Int) : Expr → Prop
  | .predicate p => Supported now p
  | .unary true inner => ∃ p, inner = .predicate p
  | .unary false _ => True
  | .binary .or left right => ¬ Silent left ∧ ¬ Silent right
  | .binary .and _ _ => True

theorem renderable_iff : Renderable now e ↔ ∀ node ∈ e.nodes, Fits now node := by
  constructor
  · intro h node hnode
    cases node with
    | predicate p => exact h.supported p (Expr.mem_predicates_iff.mpr hnode)
    | unary negate inner =>
      cases negate with
      | false => trivial
      | true => exact h.negations inner hnode
    | binary op left right =>
      cases op with
      | and => trivial
      | or => exact h.choices left right hnode
  · intro h
    exact ⟨fun inner hinner => h _ hinner, fun p hp => h _ (Expr.mem_predicates_iff.mp hp),
      fun left right hnode => h _ hnode⟩

theorem renderable_predicate_iff : Renderable now (.predicate p) ↔ Supported now p := by
  rw [renderable_iff]
  exact List.forall_mem_singleton

theorem renderable_unary_iff {negate : Bool} : Renderable now (.unary negate inner) ↔
    Fits now (.unary negate inner) ∧ Renderable now inner := by
  rw [renderable_iff, renderable_iff]
  exact List.forall_mem_cons

theorem renderable_binary_iff {op : Connective} : Renderable now (.binary op left right) ↔
    Fits now (.binary op left right) ∧ Renderable now left ∧ Renderable now right := by
  rw [renderable_iff, renderable_iff, renderable_iff]
  exact List.forall_mem_cons.trans (and_congr_right fun _ => List.forall_mem_append)

/-- **The trees that have a search string** are the renderable ones. -/
theorem exists_render_iff : (∃ s, render now e = .ok s) ↔ Renderable now e := by
  induction e with
  | predicate p => exact exists_condition_iff.trans renderable_predicate_iff.symm
  | unary negate inner ih =>
    rw [renderable_unary_iff]
    cases negate with
    | false => exact ih.trans (and_iff_right trivial).symm
    | true =>
      cases inner with
      | predicate p =>
        rw [and_iff_right ⟨p, rfl⟩, renderable_predicate_iff]
        exact exists_negatedCondition_iff
      | unary | binary =>
        exact iff_of_false (fun h => absurd h.choose_spec nofun) fun h => nomatch h.1
  | binary op left right ihl ihr =>
    rw [renderable_binary_iff, ← ihl, ← ihr]
    cases op with
    | and =>
      rw [render_and]
      constructor
      · rintro ⟨s, h⟩
        obtain ⟨t, ht, h⟩ := bind_eq_ok_iff.mp h
        obtain ⟨u, hu, -⟩ := bind_eq_ok_iff.mp h
        exact ⟨trivial, ⟨t, ht⟩, ⟨u, hu⟩⟩
      · rintro ⟨-, ⟨t, ht⟩, ⟨u, hu⟩⟩
        rw [ht, hu]
        exact ⟨_, rfl⟩
    | or =>
      rw [render_or]
      constructor
      · rintro ⟨s, h⟩
        obtain ⟨t, ht, h⟩ := bind_eq_ok_iff.mp h
        obtain ⟨u, hu, h⟩ := bind_eq_ok_iff.mp h
        obtain ⟨hblank, -⟩ := ite_error_eq_ok_iff.mp h
        rw [blank_render_iff ht, blank_render_iff hu, not_or] at hblank
        exact ⟨hblank, ⟨t, ht⟩, ⟨u, hu⟩⟩
      · rintro ⟨hsilent, ⟨t, ht⟩, ⟨u, hu⟩⟩
        have hblank : ¬ (trim t = "" ∨ trim u = "") := by
          rw [blank_render_iff ht, blank_render_iff hu, not_or]
          exact hsilent
        rw [ht, hu]
        exact ⟨_, if_neg hblank⟩

/-! ## Result -/

/-- The condition looks for a blank text. -/
def BlankText (p : Predicate) : Prop :=
  p.key = "text" ∧ ∃ s, p.operand = .single (.text s) ∧ trim s = ""

theorem blankText_of_silent (h : Silent e) : ∀ p ∈ e.predicates, BlankText p := by
  induction e with
  | predicate p =>
    intro q hq
    obtain rfl := List.mem_singleton.mp hq
    obtain ⟨hfield, t, ht, hunseen⟩ := h
    exact ⟨hfield, t, ht, hunseen.1⟩
  | unary negate inner ih => exact ih h.2
  | binary op left right ihl ihr =>
    cases op with
    | and =>
      intro p hp
      rcases List.mem_append.mp hp with hp | hp
      · exact ihl h.1 p hp
      · exact ihr h.2 p hp
    | or => exact h.elim

theorem exists_ofExpr_iff :
    (∃ q, SearchQuery.ofExpr now e = .ok q) ↔
      ∃ remaining routing, e.normalize.route = .ok (remaining, routing) ∧
        ∀ rest ∈ remaining, Renderable now rest := by
  refine exists_prepare_bind_iff.trans (exists_congr fun remaining => exists_congr fun routing =>
    and_congr_right fun _ => ?_)
  cases remaining with
  | none => exact iff_of_true ⟨_, rfl⟩ nofun
  | some rest =>
    simp only [Option.mem_some_iff, forall_eq', ← exists_render_iff]
    constructor
    · rintro ⟨q, hq⟩
      obtain ⟨s, hs, -⟩ := bind_eq_ok_iff.mp hq
      exact ⟨s, hs⟩
    · rintro ⟨s, hs⟩
      exact ⟨_, bind_eq_ok_iff.mpr ⟨s, hs, rfl⟩⟩

/-- Of a condition that does not route, and of its negation, routing leaves the whole. -/
theorem route_alone (h : p.isRouting = false) :
    (Expr.predicate p).normalize.route = .ok (some (.predicate p.normalize), .everywhere) ∧
      (Expr.unary true (.predicate p)).normalize.route =
        .ok (some (.unary true (.predicate p.normalize)), .everywhere) := by
  have hnormal : p.normalize.isRouting = false := by
    rw [Predicate.isRouting_normalize, h]
  constructor
  · simp [Expr.normalize, Expr.map, Expr.route, Expr.takeApart, hnormal, Except.map]
  · simp [Expr.normalize, Expr.map, Expr.route, Expr.takeApart, Expr.any, hnormal, Except.map]

/-- A condition has a search string iff its negation has one. -/
theorem exists_ofExpr_not_iff (h : p.isRouting = false) :
    (∃ q, SearchQuery.ofExpr now (.unary true (.predicate p)) = .ok q) ↔
      ∃ q, SearchQuery.ofExpr now (.predicate p) = .ok q := by
  obtain ⟨hplain, hnegated⟩ := route_alone h
  rw [exists_ofExpr_iff, exists_ofExpr_iff, hplain, hnegated]
  simp [renderable_unary_iff, Fits]

/-- The search string of a filter is blank iff what is left after routing is silent. -/
theorem blank_ofExpr_iff {q : SearchQuery} (h : SearchQuery.ofExpr now e = .ok q) :
    ∃ remaining, e.normalize.route = .ok (remaining, q.routing) ∧
      (trim q.query = "" ↔ ∀ rest ∈ remaining, Silent rest) := by
  obtain ⟨⟨remaining, routing⟩, hprepare, h⟩ := bind_eq_ok_iff.mp h
  have hroute := prepare_eq_ok_iff.mp hprepare
  cases remaining with
  | none =>
    obtain rfl := Except.ok.inj h
    exact ⟨none, hroute, iff_of_true rfl nofun⟩
  | some rest =>
    obtain ⟨s, hs, h⟩ := bind_eq_ok_iff.mp h
    obtain rfl := Except.ok.inj h
    refine ⟨some rest, hroute, (blank_render_iff hs).trans ?_⟩
    simp

/-- **The filters that have a search string.** A negated condition has one iff the condition has
one. The search string is blank only if all conditions look for blank texts. -/
theorem renderable_exactly (now : Int) (e : Expr) :
    ((∃ q, SearchQuery.ofExpr now e = .ok q) ↔
        ∃ remaining routing, e.normalize.route = .ok (remaining, routing) ∧
          ∀ rest ∈ remaining, Renderable now rest) ∧
      (∀ p : Predicate, p.isRouting = false →
        ((∃ q, SearchQuery.ofExpr now (.unary true (.predicate p)) = .ok q) ↔
          ∃ q, SearchQuery.ofExpr now (.predicate p) = .ok q)) ∧
      ∀ q, SearchQuery.ofExpr now e = .ok q →
        ∃ remaining, e.normalize.route = .ok (remaining, q.routing) ∧
          (trim q.query = "" ↔ ∀ rest ∈ remaining, Silent rest) ∧
          ((∃ rest ∈ remaining, ∃ p ∈ rest.predicates, ¬ BlankText p) → trim q.query ≠ "") := by
  refine ⟨exists_ofExpr_iff, fun p => exists_ofExpr_not_iff, fun q hq => ?_⟩
  obtain ⟨remaining, hroute, hblank⟩ := blank_ofExpr_iff hq
  refine ⟨remaining, hroute, hblank, ?_⟩
  rintro ⟨rest, hrest, p, hp, hne⟩ hquery
  exact hne (blankText_of_silent (hblank.mp hquery rest hrest) p hp)

/-- A choice with a side of which nothing would be seen. -/
example :
    SearchQuery.ofExpr 0 (.binary .or (.predicate (.compare "label" .eq (.text "bug")))
      (.predicate (.compare "text" .eq (.text "")))) = .error .emptySide := by
  decide

end ForgeBoard.Query.Search
