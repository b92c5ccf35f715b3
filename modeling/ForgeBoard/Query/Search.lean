import ForgeBoard.Query.Operand
import ForgeBoard.Text.Quoted

/-!
# Search strings for GitHub

GitHub searches with one string. Terms side by side are all required, `(A OR B)` offers a choice,
and a minus sign excludes the term after it. Groups cannot be excluded, so a negation has to stand
directly over a condition.
-/

namespace ForgeBoard.Query

open ForgeBoard.Filter Text

/-- A search string and the instances it is sent to. -/
structure SearchQuery where
  query : String
  routing : Routing
  deriving DecidableEq

namespace Search

def unsupported (field : String) (op : PredicateOp) : QueryError :=
  .unsupported .github field op

/-- A term `qualifier:value`, excluded for `!=`; no other comparison has one. -/
def qualified (qualifier field : String) (op : CompareOp) (value : String) :
    Except QueryError String :=
  match op with
  | .eq => .ok (qualifier ++ ":" ++ value)
  | .ne => .ok ("-" ++ qualifier ++ ":" ++ value)
  | _ => .error (unsupported field (.compare op))

/-- A text to be found. One with a space or a tab, or with a minus sign in front, is quoted. -/
def freeText (s : String) : String :=
  if s.toList.any (fun c => c == ' ' || c == '\t') || s.toList.head? == some '-' then quote s
  else s

/-- The fields with a term of the form `qualifier:text`, and their qualifiers. -/
def qualifier? (field : String) : Option String :=
  if field = "project" then some "repo"
  else if field = "state" then some "is"
  else if field = "author" then some "author"
  else if field = "assignee" then some "assignee"
  else if field = "review_requested" then some "review-requested"
  else if field = "involves" then some "involves"
  else if field = "label" then some "label"
  else none

/-- The fields with a term of the form `field:true` or `field:false`. -/
def isFlag (field : String) : Bool :=
  field == "draft" || field == "archived"

/-- The fields that hold a day. -/
def isDay (field : String) : Bool :=
  field == "updated" || field == "created"

/-- The fields for which `!=` has an excluding term of its own. -/
def isExcludable (field : String) : Bool :=
  (qualifier? field).isSome || isFlag field

/-- The term of a comparison. -/
def comparison (now : Int) (field : String) (op : CompareOp) (v : Value) :
    Except QueryError String :=
  match qualifier? field with
  | some qualifier => do qualified qualifier field op (← textOf field v)
  | none =>
    if isFlag field then do qualified field field op (← truthOf field v)
    else if isDay field then do return field ++ ":" ++ op.symbol ++ (← dayOf now field v)
    else if field = "type" then do
      let s ← textOf field v
      if op = .eq then return "is:" ++ s else throw (unsupported field (.compare op))
    else if field = "text" then do
      let s ← textOf field v
      if op = .eq then return freeText s else throw (unsupported field (.compare op))
    else throw (unsupported field (.compare op))

/-- The terms of the members of a list, each as for `=`. -/
def memberTerms (now : Int) (field : String) : List Value → Except QueryError (List String)
  | [] => .ok []
  | v :: rest => do return (← comparison now field .eq v) :: (← memberTerms now field rest)

/-- The term with one minus sign in front. -/
def excluded (term : String) : String :=
  String.ofList ('-' :: term.toList.dropWhile (· == '-'))

/-- The fields that a list can be given for. -/
def isListable (field : String) : Bool :=
  field == "label" || field == "project" || field == "state"

/-- The terms of a membership: a choice for `in`, one exclusion after the other for `not in`. -/
def membership (now : Int) (field : String) (op : MemberOp) (vs : List Value) :
    Except QueryError String := do
  if !isListable field then throw (unsupported field (.member op))
  if vs.isEmpty then throw (.emptyList field)
  let terms ← memberTerms now field vs
  match op with
  | .within => return "(" ++ String.intercalate " OR " terms ++ ")"
  | .notWithin => return String.intercalate " " (terms.map excluded)

/-- The term of a condition. -/
def condition (now : Int) (p : Predicate) : Except QueryError String :=
  if p.key = routingField then .error (unsupported p.key p.op)
  else
    match p.op, p.operand with
    | .compare op, .single v => comparison now p.key op v
    | .member op, .list vs => membership now p.key op vs
    | op, _ => .error (unsupported p.key op)

/-- The other one of the two memberships. -/
def opposite : MemberOp → MemberOp
  | .within => .notWithin
  | .notWithin => .within

/-- The term of a negated condition. A choice cannot be excluded as a whole, so a membership turns
into the opposite one; `!=` turns into `=` where it has a term of its own. -/
def negatedCondition (now : Int) (p : Predicate) : Except QueryError String :=
  match p.op, p.operand with
  | .member op, .list vs =>
    if p.key = routingField then .error (unsupported p.key p.op)
    else membership now p.key (opposite op) vs
  | .compare .ne, .single v =>
    if isExcludable p.key then comparison now p.key .eq v
    else (condition now p).map ("-" ++ ·)
  | _, _ => (condition now p).map ("-" ++ ·)

/-- The search string of an expression without routing conditions. -/
def render (now : Int) : Expr → Except QueryError String
  | .binary .and left right => do
    let l ← render now left
    let r ← render now right
    return String.intercalate " " ([trim l, trim r].filter (!·.isEmpty))
  | .binary .or left right => do
    let l := trim (← render now left)
    let r := trim (← render now right)
    if l.isEmpty || r.isEmpty then throw .emptySide
    return "(" ++ l ++ " OR " ++ r ++ ")"
  | .unary false inner => render now inner
  | .unary true (.predicate p) => negatedCondition now p
  | .unary true _ => .error .negatedGroup
  | .predicate p => condition now p

end Search

/-- The search string of a filter at the instant `now`. -/
def SearchQuery.ofExpr (now : Int) (e : Expr) : Except QueryError SearchQuery := do
  let (remaining, routing) ← prepare e
  match remaining with
  | some e => return ⟨← Search.render now e, routing⟩
  | none => return ⟨"", routing⟩

end ForgeBoard.Query
