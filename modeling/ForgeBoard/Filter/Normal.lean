import ForgeBoard.Filter.Expr

/-!
# The normal form of a filter, and the current user

Two notations are sugar. The text `me` stands for `@me`, and a field in (or equal to) `last(D)`
means a field not older than `D`. Normalizing writes both out and changes nothing else.

On the fields that hold users, `me` and `@me` in any ASCII case stand for the user of the forge
the filter is sent to, and have to be replaced by a login first.
-/

namespace ForgeBoard.Filter

/-! ## The normal form -/

/-- The short name of the current user. -/
def shortMe : String := "me"

/-- The name of the current user in normal form. -/
def me : String := "@me"

/-- A value with the short name of the current user written out. -/
def Value.normalize : Value → Value
  | text s => if s = shortMe then text me else text s
  | v => v

/-- A condition in normal form. -/
def Predicate.normalize (p : Predicate) : Predicate :=
  match p.op, p.operand with
  | .member .within, .single (.call f) => sinceLast f
  | .compare .eq, .single (.call f) => sinceLast f
  | _, operand => { p with operand := operand.map Value.normalize }
where
  /-- A call of `last` becomes a lower bound on the field. -/
  sinceLast (f : Call) : Predicate :=
    if f.name = "last" then .compare p.field .ge (.span f.arg.negated) else p

/-- An expression in normal form. -/
def Expr.normalize (e : Expr) : Expr :=
  e.map Predicate.normalize

/-! ## The current user -/

open Text

/-- The fields whose values are users. -/
def userFields : List String :=
  ["author", "assignee", "review_requested", "involves"]

/-- The value stands for the current user on a field that holds users. -/
def Value.isMe : Value → Bool
  | text s => sameAsciiCase s shortMe || sameAsciiCase s me
  | _ => false

def Predicate.isOnUsers (p : Predicate) : Bool :=
  userFields.contains p.key

/-- The condition speaks of the current user. -/
def Predicate.needsUser (p : Predicate) : Bool :=
  p.isOnUsers && p.values.any Value.isMe

/-- The condition with the current user replaced by a login. -/
def Predicate.withUser (login : String) (p : Predicate) : Predicate :=
  if p.isOnUsers then
    { p with operand := p.operand.map fun v => if v.isMe then .text login else v }
  else p

/-- Some condition speaks of the current user. -/
def Expr.needsUser (e : Expr) : Bool :=
  e.any Predicate.needsUser

/-- The expression with the current user replaced by a login. -/
def Expr.withUser (login : String) (e : Expr) : Expr :=
  e.map (Predicate.withUser login)

end ForgeBoard.Filter
