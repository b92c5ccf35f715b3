import ForgeBoard.Calendar.TimeSpan
import ForgeBoard.Text.Lowercase

/-!
# Filter expressions

A filter is a tree of conditions under `and`, `or` and `not`. A condition (`Predicate`) names a
field, an operator and an operand. The types admit more trees than the grammar produces: a `not`
node may carry no negation, and any operator may meet any operand.
-/

namespace ForgeBoard.Filter

open Text

/-- The two ways to join conditions. -/
inductive Connective where
  | and
  | or
  deriving DecidableEq

/-- Comparisons of a field with a value. -/
inductive CompareOp where
  | eq
  | ne
  | gt
  | ge
  | lt
  | le
  deriving DecidableEq

/-- Membership of a field in a list. -/
inductive MemberOp where
  | within
  | notWithin
  deriving DecidableEq

/-- The operator of a condition. -/
inductive PredicateOp where
  | compare (op : CompareOp)
  | member (op : MemberOp)
  deriving DecidableEq

/-- A call such as `last(7d)`; `last` is the only name the grammar knows. -/
structure Call where
  name : String
  arg : TimeSpan
  deriving DecidableEq

/-- Literal values. -/
inductive Value where
  | text (s : String)
  | bool (b : Bool)
  | number (n : Int64)
  | date (d : Date)
  | span (d : TimeSpan)
  | call (f : Call)
  deriving DecidableEq

/-- The right-hand side of a condition: one value, or a list in brackets. -/
inductive Operand where
  | single (v : Value)
  | list (vs : List Value)
  deriving DecidableEq

/-- One condition on a field. -/
structure Predicate where
  field : String
  op : PredicateOp
  operand : Operand
  deriving DecidableEq

/-- A filter expression. -/
inductive Expr where
  | binary (op : Connective) (left right : Expr)
  | unary (negate : Bool) (inner : Expr)
  | predicate (p : Predicate)
  deriving DecidableEq

/-- The text of a text value. -/
def Value.text? : Value → Option String
  | text s => some s
  | _ => none

/-- A call of `last`. -/
def Value.isLast : Value → Bool
  | call f => f.name == "last"
  | _ => false

/-- The values of an operand, in order. -/
def Operand.values : Operand → List Value
  | single v => [v]
  | list vs => vs

/-- The operand with every value replaced by its image. -/
def Operand.map (f : Value → Value) : Operand → Operand
  | single v => single (f v)
  | list vs => list (vs.map f)

namespace Predicate

def compare (field : String) (op : CompareOp) (v : Value) : Predicate :=
  ⟨field, .compare op, .single v⟩

def member (field : String) (op : MemberOp) (vs : List Value) : Predicate :=
  ⟨field, .member op, .list vs⟩

/-- The name by which a field is told from others: its lower-case form. -/
def key (p : Predicate) : String :=
  lower p.field

def values (p : Predicate) : List Value :=
  p.operand.values

end Predicate

namespace Expr

/-- The conditions of a tree, from left to right. -/
def predicates : Expr → List Predicate
  | binary _ left right => left.predicates ++ right.predicates
  | unary _ inner => inner.predicates
  | predicate p => [p]

/-- Some condition of the tree satisfies `test`. -/
def any (test : Predicate → Bool) : Expr → Bool
  | binary _ left right => left.any test || right.any test
  | unary _ inner => inner.any test
  | predicate p => test p

/-- The tree with every condition replaced by its image. -/
def map (f : Predicate → Predicate) : Expr → Expr
  | binary op left right => binary op (left.map f) (right.map f)
  | unary negate inner => unary negate (inner.map f)
  | predicate p => predicate (f p)

end Expr

end ForgeBoard.Filter
