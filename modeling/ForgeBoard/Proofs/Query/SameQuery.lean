import ForgeBoard.Proofs.Filter.RoundTrip
import ForgeBoard.Proofs.Filter.StageOrder
import ForgeBoard.Query.Listing
import ForgeBoard.Query.Search

/-!
# Filters with the same queries

Both backends make their query of what is prepared of a filter: its normal form without routing
conditions, and the routing. So filters of which the same is prepared have the same queries, and the
same errors (`searchQuery_congr`, `listingQuery_congr`). Two changes to a filter are of this sort.

* **Nodes without negation** can be taken out (`Expr.erase`), wherever they stand. They leave no
  trace in the written form (`Expr.chars_erase`), and they disappear anyway when the routing
  conditions are taken out (`Expr.takeApart_erase`).
* **A login** can take the place of the current user before the filter is normalized or after it:
  what is prepared has been normalized once more (`prepare_normalize_withUser`).

Results: `same_queries_erase`, `same_queries_withUser`.
-/

namespace ForgeBoard

open ForgeBoard.Filter

namespace Filter.Expr

/-! ## Nodes without negation -/

/-- The tree without its nodes that negate nothing. -/
def erase : Expr → Expr
  | binary op left right => binary op left.erase right.erase
  | unary true inner => unary true inner.erase
  | unary false inner => inner.erase
  | predicate p => predicate p

theorem chars_erase (e : Expr) : e.erase.chars = e.chars := by
  induction e with
  | predicate p => rfl
  | unary negate inner ih =>
    cases negate with
    | false => exact ih
    | true => rw [erase, chars, ih, chars]
  | binary op l r ihl ihr => rw [erase, chars, ihl, ihr, chars]

theorem any_erase (test : Predicate → Bool) (e : Expr) : e.erase.any test = e.any test := by
  induction e with
  | predicate p => rfl
  | unary negate inner ih => cases negate <;> exact ih
  | binary op l r ihl ihr => rw [erase, any, ihl, ihr, any]

theorem erase_map (f : Predicate → Predicate) (e : Expr) : (e.map f).erase = e.erase.map f := by
  induction e with
  | predicate p => rfl
  | unary negate inner ih =>
    cases negate with
    | false => exact ih
    | true => rw [map, erase, ih, erase, map]
  | binary op l r ihl ihr => rw [map, erase, ihl, ihr, erase, map]

/-- **Taking out the routing conditions** takes out the nodes without negation, so they make no
difference to what is left, to the routing or to the error. -/
theorem takeApart_erase (e : Expr) : e.erase.takeApart = e.takeApart := by
  induction e with
  | predicate p => rfl
  | unary negate inner ih =>
    cases negate with
    | true => rw [erase, takeApart, any_erase, ih, takeApart]
    | false =>
      rw [erase, ih, takeApart]
      cases inner.takeApart <;> rfl
  | binary op l r ihl ihr => rw [erase, takeApart, ihl, ihr, takeApart]

end Filter.Expr

namespace Query

/-! ## What is prepared -/

theorem prepare_erase (e : Expr) : prepare e.erase = prepare e := by
  rw [prepare, Expr.normalize, ← Expr.erase_map, Expr.route, Expr.takeApart_erase, prepare,
    Expr.normalize, Expr.route]

theorem prepare_normalize_withUser (login : String) (e : Expr) :
    prepare (e.normalize.withUser login) = prepare (e.withUser login) := by
  rw [prepare, Expr.normalize_normalize_withUser, prepare]

variable {e e' : Expr}

theorem searchQuery_congr (h : prepare e = prepare e') (now : Int) :
    SearchQuery.ofExpr now e = SearchQuery.ofExpr now e' := by
  rw [SearchQuery.ofExpr, h, SearchQuery.ofExpr]

theorem listingQuery_congr (h : prepare e = prepare e') (now : Int) :
    ListingQuery.ofExpr now e = ListingQuery.ofExpr now e' := by
  rw [ListingQuery.ofExpr, h, ListingQuery.ofExpr]

/-! ## Results -/

/-- **Nodes without negation make no difference.** If the rest of a tree can be produced by the
grammar, the written form of the tree is read as this rest, and both have the same queries or the
same errors. -/
theorem same_queries_erase (h : e.erase.WellFormed) (now : Int) :
    parse e.canonical = .ok e.erase ∧
      SearchQuery.ofExpr now e = SearchQuery.ofExpr now e.erase ∧
      ListingQuery.ofExpr now e = ListingQuery.ofExpr now e.erase := by
  have hprepare : prepare e = prepare e.erase := (prepare_erase e).symm
  have hwritten : e.canonical = e.erase.canonical := by
    rw [Expr.canonical, Expr.canonical, Expr.chars_erase]
  refine ⟨?_, searchQuery_congr hprepare now, listingQuery_congr hprepare now⟩
  rw [hwritten, parse_canonical h]

/-- Nodes without negation around a routing condition, between a negation and its condition, and
around a side of a choice. -/
def wrappedExpr : Expr :=
  .binary .and
    (.unary false (.predicate (.compare "provider" .eq (.text "github"))))
    (.binary .or
      (.unary true (.unary false (.predicate (.compare "label" .eq (.text "wip")))))
      (.unary false (.unary false (.predicate (.compare "draft" .eq (.bool true))))))

theorem same_queries_erase_wrappedExpr :
    wrappedExpr.erase.WellFormed ∧ parse wrappedExpr.canonical = .ok wrappedExpr.erase ∧
      SearchQuery.ofExpr 0 wrappedExpr = .ok ⟨"(-label:wip OR draft:true)", ⟨["github"], []⟩⟩ := by
  have h : wrappedExpr.erase.WellFormed := by decide
  obtain ⟨hparse, hsearch, -⟩ := same_queries_erase h 0
  exact ⟨h, hparse, hsearch.trans (eq_ok_of_toOption (by decide +kernel))⟩

/-- **The order of the stages makes no difference.** The normal form speaks of the current user iff
the filter does. Normalizing commutes with a login that takes the place of the current user, unless
there is somebody to replace and the login is `me`, which normalizing writes out; and even then both
orders have the same queries or the same errors. -/
theorem same_queries_withUser (e : Expr) (login : String) (now : Int) :
    e.normalize.needsUser = e.needsUser ∧
      ((e.withUser login).normalize = e.normalize.withUser login ↔
        login ≠ shortMe ∨ e.needsUser = false) ∧
      SearchQuery.ofExpr now (e.withUser login) =
        SearchQuery.ofExpr now (e.normalize.withUser login) ∧
      ListingQuery.ofExpr now (e.withUser login) =
        ListingQuery.ofExpr now (e.normalize.withUser login) := by
  have hprepare := (prepare_normalize_withUser login e).symm
  exact ⟨e.needsUser_normalize, e.normalize_withUser_iff login, searchQuery_congr hprepare now,
    listingQuery_congr hprepare now⟩

end Query

end ForgeBoard
