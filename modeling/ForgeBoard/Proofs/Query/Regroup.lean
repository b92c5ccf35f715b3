import ForgeBoard.Proofs.Filter.Tree
import ForgeBoard.Proofs.Query.Search.Beside
import ForgeBoard.Proofs.Success
import ForgeBoard.Query.Listing

/-!
# Grouping of conditions under `and`

How a chain of three under `and` is put in parentheses makes no difference, wherever in a filter the
chain stands. An expression with a hole is a `Context`, and `Regrouped` relates two expressions that
differ in such parentheses; it holds under every context (`Regrouped.fill`).

Each stage is shown to respect the relation, by induction on it:

* `Expr.Regrouped.takeApart`: the routing is the same, what is left is again regrouped, and misuse
  of a routing condition is found in the same place.
* `Search.render_eq_of_regrouped`: a search string puts its parts side by side, and that is
  associative (`Search.beside_assoc`), blank parts or not.
* `Listing.restrict_eq_of_regrouped`: a listing goes through the conditions from left to right.

Result: `same_queries_fill`.
-/

namespace ForgeBoard

open ForgeBoard.Filter

namespace Filter.Expr

/-! ## Contexts -/

/-- An expression with a hole in the place of one subtree. -/
inductive Context where
  | hole
  | left (op : Connective) (inner : Context) (right : Expr)
  | right (op : Connective) (left : Expr) (inner : Context)
  | unary (negate : Bool) (inner : Context)

/-- The expression with a subtree in the place of the hole. -/
def Context.fill (e : Expr) : Context → Expr
  | hole => e
  | left op inner r => .binary op (inner.fill e) r
  | right op l inner => .binary op l (inner.fill e)
  | unary negate inner => .unary negate (inner.fill e)

/-- The expressions differ in the grouping of conditions under `and` at most. -/
inductive Regrouped : Expr → Expr → Prop where
  | refl (e : Expr) : Regrouped e e
  | chain (a b c : Expr) :
      Regrouped (binary .and (binary .and a b) c) (binary .and a (binary .and b c))
  | binary {op : Connective} {l l' r r' : Expr} (hl : Regrouped l l') (hr : Regrouped r r') :
      Regrouped (binary op l r) (binary op l' r')
  | unary {negate : Bool} {inner inner' : Expr} (h : Regrouped inner inner') :
      Regrouped (unary negate inner) (unary negate inner')

namespace Regrouped

variable {e e' : Expr}

theorem fill (h : Regrouped e e') (context : Context) :
    Regrouped (context.fill e) (context.fill e') := by
  induction context with
  | hole => exact h
  | left op inner r ih => exact .binary ih (.refl r)
  | right op l inner ih => exact .binary (.refl l) ih
  | unary negate inner ih => exact .unary ih

theorem map (h : Regrouped e e') (f : Predicate → Predicate) :
    Regrouped (e.map f) (e'.map f) := by
  induction h with
  | refl e => exact .refl _
  | chain a b c => exact .chain _ _ _
  | binary _ _ ihl ihr => exact .binary ihl ihr
  | unary _ ih => exact .unary ih

theorem predicates_eq (h : Regrouped e e') : e.predicates = e'.predicates := by
  induction h with
  | refl e => rfl
  | chain a b c => simp only [predicates, List.append_assoc]
  | binary _ _ ihl ihr => rw [predicates, ihl, ihr, predicates]
  | unary _ ih => exact ih

theorem any_eq (h : Regrouped e e') (test : Predicate → Bool) : e.any test = e'.any test := by
  rw [Bool.eq_iff_iff, any_eq_true_iff, any_eq_true_iff, h.predicates_eq]

end Regrouped

end Filter.Expr

namespace Filter

/-! ## Taking the routing out -/

/-- What is left of two expressions, up to grouping. -/
abbrev RegroupedRest : Option Expr → Option Expr → Prop :=
  Option.Rel Expr.Regrouped

namespace RegroupedRest

variable {op : Connective} {a b l l' r r' : Option Expr}

theorem refl (rest : Option Expr) : RegroupedRest rest rest := by
  cases rest with
  | none => exact .none
  | some e => exact .some (.refl e)

theorem isSome_eq (h : RegroupedRest a b) : a.isSome = b.isSome := by
  cases h <;> rfl

theorem unary (h : RegroupedRest a b) (negate : Bool) :
    RegroupedRest (a.map (.unary negate)) (b.map (.unary negate)) := by
  cases h with
  | none => exact .none
  | some h => exact .some (.unary h)

theorem join (hl : RegroupedRest l l') (hr : RegroupedRest r r') :
    RegroupedRest (joinRemaining op l r) (joinRemaining op l' r') := by
  cases hl with
  | none => exact hr
  | some hl =>
    cases hr with
    | none => exact .some hl
    | some hr => exact .some (.binary hl hr)

/-- Where something is left of all three, it is a chain, and otherwise the grouping is gone. -/
theorem chain (a b c : Option Expr) :
    RegroupedRest (joinRemaining .and (joinRemaining .and a b) c)
      (joinRemaining .and a (joinRemaining .and b c)) := by
  cases a with
  | none => exact .refl _
  | some a =>
    cases b with
    | none => exact .refl _
    | some b =>
      cases c with
      | none => exact .refl _
      | some c => exact .some (.chain a b c)

end RegroupedRest

/-- Two expressions taken apart: the same is left up to grouping, and all else is the same. -/
structure Routed.Regrouped (x y : Routed) : Prop where
  remaining : RegroupedRest x.remaining y.remaining
  routing : x.routing = y.routing
  hasRouting : x.hasRouting = y.hasRouting

theorem Routed.Regrouped.refl (x : Routed) : Routed.Regrouped x x :=
  ⟨.refl _, rfl, rfl⟩

theorem Expr.takeApart_and (l r : Expr) :
    (binary .and l r).takeApart = l.takeApart >>= fun x => r.takeApart >>= fun y =>
      .ok ⟨joinRemaining .and x.remaining y.remaining, x.routing.merge y.routing,
        x.hasRouting || y.hasRouting⟩ := by
  simp only [takeApart, reduceCtorEq, false_and, if_false]

/-- **Taking out the routing** respects the grouping: the conditions are visited in the same order,
so the first misuse is the same one. -/
theorem Expr.Regrouped.takeApart {e e' : Expr} (h : e.Regrouped e') :
    Alike Routed.Regrouped e.takeApart e'.takeApart := by
  induction h with
  | refl e => exact .refl .refl _
  | chain a b c =>
    simp only [takeApart_and, bind_assoc]
    refine .bindSame fun x => .bindSame fun y => .bindSame (x := c.takeApart) fun z => ?_
    exact .ok ⟨.chain _ _ _, by simp only [Routing.merge, List.append_assoc], Bool.or_assoc _ _ _⟩
  | @binary op l l' r r' _ _ ihl ihr =>
    refine ihl.bind fun x x' hx => ihr.bind fun y y' hy => ?_
    rw [hx.hasRouting, hy.hasRouting, hx.remaining.isSome_eq, hy.remaining.isSome_eq]
    split
    · exact .error _
    · refine .ok ⟨hx.remaining.join hy.remaining, ?_, rfl⟩
      rw [hx.routing, hy.routing]
  | @unary negate inner inner' h ih =>
    rw [Expr.takeApart, Expr.takeApart, h.any_eq]
    split
    · exact .error _
    · refine ih.map fun x y hxy => ?_
      cases negate with
      | false => exact hxy
      | true => exact ⟨hxy.remaining.unary true, hxy.routing, hxy.hasRouting⟩

theorem Expr.Regrouped.route {e e' : Expr} (h : e.Regrouped e') :
    Alike (fun x y => RegroupedRest x.1 y.1 ∧ x.2 = y.2) e.route e'.route :=
  h.takeApart.map fun _ _ hxy => ⟨hxy.remaining, hxy.routing⟩

end Filter

namespace Query

/-! ## Search strings -/

namespace Search

/-- **The search string** does not depend on the grouping. -/
theorem render_eq_of_regrouped (now : Int) {e e' : Expr} (h : e.Regrouped e') :
    render now e = render now e' := by
  induction h with
  | refl e => rfl
  | chain a b c =>
    simp only [render_and, bind_assoc]
    refine bind_congr fun r => bind_congr fun s => ?_
    exact bind_congr (x := render now c) fun t => congrArg Except.ok (beside_assoc r s t)
  | @binary op l l' r r' _ _ ihl ihr =>
    cases op with
    | and => rw [render_and, ihl, ihr, render_and]
    | or => rw [render, ihl, ihr, render]
  | @unary negate inner inner' h ih =>
    cases negate with
    | false => exact ih
    | true =>
      -- a negation is rendered over a single condition only, which has no grouping
      cases h <;> rfl

end Search

/-! ## Listings -/

/-- **The listing** does not depend on the grouping. -/
theorem Listing.restrict_eq_of_regrouped (now : Int) {e e' : Expr} (h : e.Regrouped e')
    (l : Listing) : restrict now e l = restrict now e' l := by
  induction h generalizing l with
  | refl e => rfl
  | chain a b c => simp only [restrict, bind_assoc]
  | @binary op _ _ _ _ _ _ ihl ihr =>
    cases op with
    | and =>
      rw [restrict, restrict, ihl]
      exact bind_congr fun mid => ihr mid
    | or => rfl
  | @unary negate _ _ _ ih =>
    cases negate with
    | false => exact ih l
    | true => rfl

/-! ## Result -/

theorem prepare_of_regrouped {e e' : Expr} (h : e.Regrouped e') :
    Alike (fun x y => RegroupedRest x.1 y.1 ∧ x.2 = y.2) (prepare e) (prepare e') := by
  have hroute : Alike (fun x y => RegroupedRest x.1 y.1 ∧ x.2 = y.2)
      e.normalize.route e'.normalize.route := (h.map Predicate.normalize).route
  unfold prepare
  generalize e.normalize.route = x, e'.normalize.route = y at hroute
  cases hroute with
  | error misuse => exact .error _
  | ok hxy => exact .ok hxy

theorem searchQuery_of_regrouped (now : Int) {e e' : Expr} (h : e.Regrouped e') :
    SearchQuery.ofExpr now e = SearchQuery.ofExpr now e' := by
  refine (prepare_of_regrouped h).bind_eq ?_
  rintro ⟨rest, routing⟩ ⟨rest', routing'⟩ ⟨hrest, rfl⟩
  cases hrest with
  | none => rfl
  | some hrest => simp only [Search.render_eq_of_regrouped now hrest]

theorem listingQuery_of_regrouped (now : Int) {e e' : Expr} (h : e.Regrouped e') :
    ListingQuery.ofExpr now e = ListingQuery.ofExpr now e' := by
  refine (prepare_of_regrouped h).bind_eq ?_
  rintro ⟨rest, routing⟩ ⟨rest', routing'⟩ ⟨hrest, rfl⟩
  cases hrest with
  | none => rfl
  | some hrest => simp only [Listing.restrict_eq_of_regrouped now hrest]

/-- **The grouping of a chain under `and` makes no difference**, wherever in a filter the chain
stands: both backends have the same query for either grouping, or the same error. -/
theorem same_queries_fill (context : Expr.Context) (a b c : Expr) (now : Int) :
    SearchQuery.ofExpr now (context.fill (.binary .and (.binary .and a b) c)) =
        SearchQuery.ofExpr now (context.fill (.binary .and a (.binary .and b c))) ∧
      ListingQuery.ofExpr now (context.fill (.binary .and (.binary .and a b) c)) =
        ListingQuery.ofExpr now (context.fill (.binary .and a (.binary .and b c))) := by
  have h := (Expr.Regrouped.chain a b c).fill context
  exact ⟨searchQuery_of_regrouped now h, listingQuery_of_regrouped now h⟩

end Query

end ForgeBoard
