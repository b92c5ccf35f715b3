import ForgeBoard.Query.Operand

/-!
# Listing parameters for GitLab

GitLab lists the items of a project, or of all projects, that satisfy all of a set of named
parameters. So a filter has to be a chain of conditions under `and`, and each condition sets
parameters or the project.
-/

namespace ForgeBoard.Query

open ForgeBoard.Filter Text

/-- Parameters with their values, in the order of their names. -/
abbrev Params := List (String × String)

namespace Params

/-- Sets a parameter, in place of the value it may have had. -/
def set (name value : String) : Params → Params
  | [] => [(name, value)]
  | (n, v) :: rest =>
    if name < n then (name, value) :: (n, v) :: rest
    else if n = name then (name, value) :: rest
    else (n, v) :: set name value rest

/-- The value of a parameter. -/
def get? (name : String) (ps : Params) : Option String :=
  ps.lookup name

end Params

/-- The items of a listing: the project, if one is asked for, and the parameters. -/
structure Listing where
  project : Option String
  params : Params
  deriving DecidableEq

namespace Listing

/-- All items. -/
def unrestricted : Listing := ⟨none, []⟩

/-- The listing with one more parameter. -/
def set (name value : String) (l : Listing) : Listing :=
  { l with params := l.params.set name value }

def unsupported (field : String) (op : PredicateOp) : QueryError :=
  .unsupported .gitlab field op

/-- The comparison is `=`, the only one that most fields support. -/
def requireEq (field : String) (op : CompareOp) : Except QueryError Unit :=
  if op = .eq then .ok () else .error (unsupported field (.compare op))

/-- The listing with a project. A blank path asks for none, and two paths exclude each other. -/
def setProject (path : String) (l : Listing) : Except QueryError Listing :=
  let path := trim path
  if path.isEmpty then .ok l
  else
    match l.project with
    | some first =>
      if first = path then .ok l else .error (.conflictingProjects first path)
    | none => .ok { l with project := some path }

/-- The fields that set one parameter to a text, and the names of the parameters. -/
def param? (field : String) : Option String :=
  if field = "state" then some "state"
  else if field = "author" then some "author_username"
  else if field = "assignee" then some "assignee_username"
  else if field = "review_requested" then some "reviewer_username"
  else if field = "label" then some "labels"
  else if field = "text" then some "search"
  else none

/-- The listing with bounds on a field that holds a day. Either bound includes its day. -/
def setDay (field : String) (op : CompareOp) (day : String) (l : Listing) :
    Except QueryError Listing :=
  let after := field ++ "_after"
  let before := field ++ "_before"
  match op with
  | .gt | .ge => .ok (l.set after day)
  | .lt | .le => .ok (l.set before day)
  | .eq => .ok ((l.set after day).set before day)
  | .ne => .error (unsupported field (.compare op))

/-- The listing with a comparison. A `type` restricts nothing: each kind of item has a listing of
its own. -/
def comparison (now : Int) (field : String) (op : CompareOp) (v : Value) (l : Listing) :
    Except QueryError Listing :=
  match param? field with
  | some name => do
    requireEq field op
    return l.set name (← textOf field v)
  | none =>
    if field = "project" then do
      requireEq field op
      l.setProject (← textOf field v)
    else if field = "draft" then do
      requireEq field op
      return l.set "wip" (← truthOf field v)
    else if field = "updated" ∨ field = "created" then do
      l.setDay field op (← dayOf now field v)
    else if field = "type" then do
      requireEq field op
      return l
    else .error (unsupported field (.compare op))

/-- The listing with a condition. The only list is that of labels, which are all required. -/
def condition (now : Int) (p : Predicate) (l : Listing) : Except QueryError Listing :=
  match p.op, p.operand with
  | .compare op, .single v => l.comparison now p.key op v
  | .member .within, .list vs =>
    if p.key = "label" then
      if vs.isEmpty then .error (.emptyList p.key)
      else do return l.set "labels" (String.intercalate "," (← textsOf p.key vs))
    else .error (unsupported p.key p.op)
  | op, _ => .error (unsupported p.key op)

/-- The listing with the conditions of an expression, from left to right. -/
def restrict (now : Int) : Expr → Listing → Except QueryError Listing
  | .binary .and left right, l => do restrict now right (← restrict now left l)
  | .binary .or _ _, _ => .error (.orUnsupported .gitlab)
  | .unary false inner, l => restrict now inner l
  | .unary true _, _ => .error (.negationUnsupported .gitlab)
  | .predicate p, l => l.condition now p

end Listing

/-- A listing and the instances it is sent to. -/
structure ListingQuery where
  listing : Listing
  routing : Routing
  deriving DecidableEq

/-- The listing of a filter at the instant `now`. -/
def ListingQuery.ofExpr (now : Int) (e : Expr) : Except QueryError ListingQuery := do
  let (remaining, routing) ← prepare e
  match remaining with
  | some e => return ⟨← Listing.unrestricted.restrict now e, routing⟩
  | none => return ⟨.unrestricted, routing⟩

end ForgeBoard.Query
