import ForgeBoard.Filter.Normal
import ForgeBoard.Filter.Routing

/-!
# Operands of backend queries

What both backends share: why a filter has no query, and the texts, truth values and days that the
values of a condition stand for.
-/

namespace ForgeBoard.Query

open ForgeBoard.Filter

/-- The sort of value that a field takes. -/
inductive ValueSort where
  | text
  | truth
  | day
  deriving DecidableEq

def ValueSort.name : ValueSort → String
  | text => "string"
  | truth => "boolean"
  | day => "date or duration"

/-- Why a filter has no query on a backend. -/
inductive QueryError where
  | unsupported (backend : ForgeKind) (field : String) (op : PredicateOp)
  | routing (e : RoutingError)
  | emptySide
  | negatedGroup
  | orUnsupported (backend : ForgeKind)
  | negationUnsupported (backend : ForgeKind)
  | conflictingProjects (first second : String)
  | emptyList (field : String)
  | wrongSort (field : String) (expected : ValueSort)
  | dayOutOfRange (field : String)
  deriving DecidableEq

def QueryError.message : QueryError → String
  | unsupported backend field op =>
    s!"{backend.name} does not support predicate {field} {op.symbol}"
  | routing e => e.message
  | emptySide => "OR predicates must include both sides"
  | negatedGroup => "negation only supported on predicates"
  | orUnsupported backend => s!"{backend.name} translation only supports AND predicates"
  | negationUnsupported backend => s!"{backend.name} translation does not support negation"
  | conflictingProjects first second =>
    s!"multiple project predicates are not supported ({first} vs {second})"
  | emptyList field => s!"empty list for {field}"
  | wrongSort field expected => s!"expected {expected.name} value for {field}"
  | dayOutOfRange field => s!"date out of range for {field}"

/-- The text of a value. -/
def textOf (field : String) (v : Value) : Except QueryError String :=
  match v.text? with
  | some s => .ok s
  | none => .error (.wrongSort field .text)

/-- The texts of a list of values. -/
def textsOf (field : String) : List Value → Except QueryError (List String)
  | [] => .ok []
  | v :: rest => do return (← textOf field v) :: (← textsOf field rest)

/-- The truth value of a value, in words. -/
def truthOf (field : String) : Value → Except QueryError String
  | .bool true => .ok "true"
  | .bool false => .ok "false"
  | _ => .error (.wrongSort field .truth)

/-- The day that a value stands for: a date, or a time span counted from `now`. -/
def dayOf (now : Int) (field : String) : Value → Except QueryError String
  | .date d => .ok d.text
  | .span s =>
    match Date.after? now s with
    | some d => .ok d.text
    | none => .error (.dayOutOfRange field)
  | _ => .error (.wrongSort field .day)

/-- Normalizes an expression and takes its routing out of it. -/
def prepare (e : Expr) : Except QueryError (Option Expr × Routing) :=
  match e.normalize.route with
  | .ok r => .ok r
  | .error e => .error (.routing e)

end ForgeBoard.Query
