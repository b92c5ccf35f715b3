import ForgeBoard.Filter.Expr

/-!
# The written form of a filter

Every joined pair of expressions stands in parentheses, so the written form needs no rules of
precedence. A node without negation leaves no trace.
-/

namespace ForgeBoard.Filter

open Text

def CompareOp.symbol : CompareOp → String
  | eq => "="
  | ne => "!="
  | gt => ">"
  | ge => ">="
  | lt => "<"
  | le => "<="

def MemberOp.symbol : MemberOp → String
  | within => "in"
  | notWithin => "not in"

def PredicateOp.symbol : PredicateOp → String
  | compare op => op.symbol
  | member op => op.symbol

def Connective.word : Connective → String
  | and => "and"
  | or => "or"

/-- A string literal: a backslash stands before each quote and each backslash. -/
def literalChars (cs : List Char) : List Char :=
  '"' :: cs.flatMap (fun c => if c = '"' ∨ c = '\\' then ['\\', c] else [c]) ++ ['"']

/-- The written form of a value. -/
def Value.chars : Value → List Char
  | text s => literalChars s.toList
  | bool true => "true".toList
  | bool false => "false".toList
  | number n => signedDigits n.toInt
  | date d => d.chars
  | span d => d.chars
  | call f => f.name.toList ++ '(' :: f.arg.chars ++ [')']

/-- Values with a comma and a space between them. -/
def valueListChars : List Value → List Char
  | [] => []
  | [v] => v.chars
  | v :: rest => v.chars ++ ',' :: ' ' :: valueListChars rest

/-- The written form of an operand. -/
def Operand.chars : Operand → List Char
  | single v => v.chars
  | list vs => '[' :: valueListChars vs ++ [']']

/-- The written form of a condition. -/
def Predicate.chars (p : Predicate) : List Char :=
  p.field.toList ++ ' ' :: p.op.symbol.toList ++ ' ' :: p.operand.chars

/-- The written form of an expression. -/
def Expr.chars : Expr → List Char
  | binary op left right =>
    '(' :: left.chars ++ ' ' :: op.word.toList ++ ' ' :: right.chars ++ [')']
  | unary true inner => "not ".toList ++ inner.chars
  | unary false inner => inner.chars
  | predicate p => p.chars

/-- The written form of a value. -/
def Value.display (v : Value) : String :=
  String.ofList v.chars

/-- The written form of an expression. -/
def Expr.canonical (e : Expr) : String :=
  String.ofList e.chars

end ForgeBoard.Filter
