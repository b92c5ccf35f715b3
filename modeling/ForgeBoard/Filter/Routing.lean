import ForgeBoard.Filter.Printer
import ForgeBoard.Forge.Pattern

/-!
# Routing a filter to instances

Conditions on the field `provider` do not select work items: they say which instances a filter is
sent to. `Expr.route` takes them out of an expression. They can be joined freely by `and`, and by
`or` among themselves only, and they cannot be negated.
-/

namespace ForgeBoard.Filter

/-- The patterns of the instances that a filter is sent to. -/
structure Routing where
  includes : List String
  excludes : List String
  deriving DecidableEq

namespace Routing

/-- Sends a filter everywhere. -/
def everywhere : Routing := ⟨[], []⟩

def isEverywhere (r : Routing) : Bool :=
  r.includes.isEmpty && r.excludes.isEmpty

/-- An instance is allowed if it matches an include pattern, or there is none, and it matches no
exclude pattern. -/
def allows (r : Routing) (i : Instance) : Bool :=
  (r.includes.isEmpty || i.isMatchAny r.includes) && !i.isMatchAny r.excludes

/-- The patterns of both. -/
def merge (a b : Routing) : Routing :=
  ⟨a.includes ++ b.includes, a.excludes ++ b.excludes⟩

end Routing

/-- Misuse of conditions on the field `provider`. -/
inductive RoutingError where
  | unsupportedOperator (op : PredicateOp)
  | notText
  | negated
  | joinedByOr
  deriving DecidableEq

def RoutingError.message : RoutingError → String
  | unsupportedOperator op => s!"unsupported provider filter operator {op.symbol}"
  | notText => "provider filter values must be strings"
  | negated => "provider filters cannot be negated"
  | joinedByOr => "provider filters must be combined with AND"

/-- The field whose conditions route a filter. -/
def routingField : String := "provider"

/-- The condition routes the filter. -/
def Predicate.isRouting (p : Predicate) : Bool :=
  p.key == routingField

/-- The texts of a list of values, if all of them are texts. -/
def texts? : List Value → Option (List String)
  | [] => some []
  | v :: rest => v.text?.bind fun s => (texts? rest).map (s :: ·)

/-- The patterns of a routing condition. -/
def Predicate.routing (p : Predicate) : Except RoutingError Routing :=
  match texts? p.values with
  | none => .error .notText
  | some patterns =>
    match p.op, p.operand with
    | .compare .eq, .single _ => .ok ⟨patterns, []⟩
    | .member .within, .list _ => .ok ⟨patterns, []⟩
    | .compare .ne, .single _ => .ok ⟨[], patterns⟩
    | .member .notWithin, .list _ => .ok ⟨[], patterns⟩
    | op, _ => .error (.unsupportedOperator op)

/-- An expression taken apart: the routing conditions, whether there was one, and what is left of
the expression, if anything. -/
structure Routed where
  remaining : Option Expr
  routing : Routing
  hasRouting : Bool

/-- Joins what is left of two sides. -/
def joinRemaining (op : Connective) : Option Expr → Option Expr → Option Expr
  | some l, some r => some (.binary op l r)
  | some l, none => some l
  | none, r => r

/-- Takes the routing conditions out of an expression. Nodes without negation disappear. -/
def Expr.takeApart : Expr → Except RoutingError Routed
  | .predicate p =>
    if p.isRouting then p.routing.map fun r => ⟨none, r, true⟩
    else .ok ⟨some (.predicate p), .everywhere, false⟩
  | .unary negate inner =>
    if negate && inner.any Predicate.isRouting then .error .negated
    else
      inner.takeApart.map fun r =>
        if negate then { r with remaining := r.remaining.map (.unary true) } else r
  | .binary op left right => do
    let l ← left.takeApart
    let r ← right.takeApart
    if op = .or ∧ ((l.hasRouting ∧ r.remaining.isSome) ∨ (r.hasRouting ∧ l.remaining.isSome)) then
      .error .joinedByOr
    else
      .ok ⟨joinRemaining op l.remaining r.remaining, l.routing.merge r.routing,
        l.hasRouting || r.hasRouting⟩

/-- What is left of an expression without its routing conditions, and the routing they describe. -/
def Expr.route (e : Expr) : Except RoutingError (Option Expr × Routing) :=
  e.takeApart.map fun r => (r.remaining, r.routing)

end ForgeBoard.Filter
