import ForgeBoard.Filter.Expr
import ForgeBoard.Filter.Lexer
import ForgeBoard.Filter.Printer

/-!
# Parsing filters

The grammar, with `and` binding tighter than `or` and both grouping to the left:

    Or        := And ('or' And)*
    And       := Unary ('and' Unary)*
    Unary     := ('not' | '!') Unary | '(' Or ')' | Predicate
    Predicate := IDENT (COMPARE Value | ['not'] 'in' Members)
    Members   := '[' (Value (',' Value)* [','])? ']' | Last
    Value     := STRING | BOOL | NUMBER | DATE | SPAN | Last
    Last      := 'last' '(' SPAN ')'

The parser looks one token ahead. Taking a token needs the next one to be scanned, so a lexical
error is reported as soon as the token before it is taken.
-/

namespace ForgeBoard.Filter

open Text

/-- What the parser misses or cannot accept. -/
inductive Complaint where
  | unexpectedToken
  | expectedCloseParen
  | expectedField
  | expectedInAfterNot
  | expectedOperator
  | expectedCommaOrBracket
  | expectedList (op : MemberOp)
  | invalidNumber
  | invalidDate
  | invalidSpan
  | identifierForValue
  | expectedValue
  | expectedCallOpen (name : String)
  | expectedCallSpan (name : String)
  | expectedCallClose
  deriving DecidableEq

def Complaint.message : Complaint → String
  | unexpectedToken => "unexpected token"
  | expectedCloseParen => "expected ')'"
  | expectedField => "expected field identifier"
  | expectedInAfterNot => "expected 'in' after 'not'"
  | expectedOperator => "expected operator"
  | expectedCommaOrBracket => "expected ',' or ']'"
  | expectedList op => s!"expected list after '{op.symbol}'"
  | invalidNumber => "invalid number"
  | invalidDate => "invalid date"
  | invalidSpan => "invalid duration"
  | identifierForValue => "expected value, got identifier"
  | expectedValue => "expected value"
  | expectedCallOpen name => s!"expected '(' after '{name}'"
  | expectedCallSpan name => s!"expected duration for '{name}'"
  | expectedCallClose => "expected ')' after function"

/-- Why a text is no filter: its first lexical error, or a complaint about a token of it. -/
inductive ParseError where
  | lex (e : LexError)
  | syntactic (complaint : Complaint) (found : Token)
  deriving DecidableEq

namespace ParseError

/-- The byte offset of the error in the source. -/
def offset : ParseError → Nat
  | lex e => e.offset
  | syntactic _ found => found.start

/-- The token complained about, as messages show it. -/
def foundText (found : Token) : String :=
  if found.kind = .eof then "end of input" else String.ofList (quoteChars found.text)

def message : ParseError → String
  | lex e => e.message
  | syntactic complaint found =>
    s!"{complaint.message}, found {foundText found} at {found.start}"

end ParseError

/-- A parser of one piece of a filter: it reads tokens from the front and leaves the rest. -/
abbrev Parse (α : Type) := StateT Tokens (Except ParseError) α

namespace Parse

/-- The token in front, without taking it. -/
def current : Parse Token := fun ts =>
  match ts with
  | .token t _ => .ok (t, ts)
  | .finish offset => .ok (⟨.eof, [], offset⟩, ts)
  | .broken e => .error (.lex e)

/-- Takes the token in front. The end of the input can be taken again and again. -/
def take : Parse Token := fun ts =>
  match ts with
  | .token _ (.broken e) => .error (.lex e)
  | .token t rest => .ok (t, rest)
  | .finish offset => .ok (⟨.eof, [], offset⟩, ts)
  | .broken e => .error (.lex e)

/-- Fails with a complaint about a token. -/
def complain {α : Type} (complaint : Complaint) (found : Token) : Parse α := fun _ =>
  .error (.syntactic complaint found)

/-- Whether the token in front is of a kind that has one text only. -/
def atKind (kind : TokenKind) : Parse Bool := do
  return (← current).kind = kind

/-- Takes a token of the kind, or complains about the one in front. -/
def expect (kind : TokenKind) (complaint : Complaint) : Parse Unit := do
  let t ← current
  if t.kind = kind then discard take else complain complaint t

/-- The number of tokens left. -/
def remaining : Parse Nat := fun ts => .ok (ts.length, ts)

/-- The value of a token, or the complaint about it. -/
def ofToken (complaint : Complaint) (found : Token) (v : Option Value) : Parse Value :=
  match v with
  | some v => pure v
  | none => complain complaint found

/-- Reads a value, in which calls are nested less than `fuel` deep. -/
def value : Nat → Parse Value
  | 0 => do complain .expectedValue (← current)
  | fuel + 1 => do
    let t ← take
    match t.kind with
    | .string s => pure (.text (String.ofList s))
    | .bool b => pure (.bool b)
    | .number ds => ofToken .invalidNumber t ((readInt64? ds).map .number)
    | .date ds => ofToken .invalidDate t ((Date.ofDigits? ds).map .date)
    | .span ds => ofToken .invalidSpan t ((TimeSpan.ofChars? ds).map .span)
    | .ident name =>
      if name.map Char.toLower = "last".toList then
        expect .openParen (.expectedCallOpen "last")
        let place ← current
        match ← value fuel with
        | .span arg =>
          expect .closeParen .expectedCallClose
          pure (.call ⟨"last", arg⟩)
        | _ => complain (.expectedCallSpan "last") place
      else complain .identifierForValue t
    | _ => complain .expectedValue t

/-- Reads a value, with calls nested as deep as the tokens allow. -/
def anyValue : Parse Value := do
  value ((← remaining) + 1)

/-- Reads what follows an opening bracket: at most `fuel` values and the closing bracket. -/
def members : Nat → Parse (List Value)
  | 0 => do complain .expectedValue (← current)
  | fuel + 1 => do
    if ← atKind .closeBracket then
      discard take
      pure []
    else
      let v ← anyValue
      if ← atKind .comma then
        discard take
        return v :: (← members fuel)
      else if ← atKind .closeBracket then
        return v :: (← members fuel)
      else complain .expectedCommaOrBracket (← current)

/-- Reads the operand of a membership: a list in brackets, or a call. -/
def membership (op : MemberOp) : Parse Operand := do
  if ← atKind .openBracket then
    discard take
    return .list (← members ((← remaining) + 1))
  else
    let t ← current
    let v ← anyValue
    match v with
    | .call _ => pure (.single v)
    | _ => complain (.expectedList op) t

/-- The comparison that a token stands for. -/
def compareOp? : TokenKind → Option CompareOp
  | .eq => some .eq
  | .ne => some .ne
  | .gt => some .gt
  | .ge => some .ge
  | .lt => some .lt
  | .le => some .le
  | _ => none

/-- Reads the operator and the operand after a field. -/
def condition (field : String) : Parse Predicate := do
  let t ← current
  match t.kind with
  | .not =>
    discard take
    expect .within .expectedInAfterNot
    return ⟨field, .member .notWithin, ← membership .notWithin⟩
  | .within =>
    discard take
    return ⟨field, .member .within, ← membership .within⟩
  | kind =>
    match compareOp? kind with
    | some op =>
      discard take
      return .compare field op (← anyValue)
    | none => complain .expectedOperator t

/-- Reads one condition. -/
def predicate : Parse Expr := do
  let t ← current
  match t.kind with
  | .ident name =>
    discard take
    return .predicate (← condition (String.ofList name))
  | _ => complain .expectedField t

/-- Joins further operands to `left` as long as the separator stands in front, `fuel` times at
most. -/
def chainRest (separator : TokenKind) (node : Expr → Expr → Expr) (operand : Parse Expr) :
    Nat → Expr → Parse Expr
  | 0, left => pure left
  | fuel + 1, left => do
    if ← atKind separator then
      discard take
      chainRest separator node operand fuel (node left (← operand))
    else pure left

/-- Reads operands with separators between them and groups them to the left. -/
def chain (separator : TokenKind) (node : Expr → Expr → Expr) (operand : Parse Expr) :
    Parse Expr := do
  let left ← operand
  chainRest separator node operand (← remaining) left

/-- Reads an expression made of `or`, `and` and the given operands. -/
def disjunction (operand : Parse Expr) : Parse Expr :=
  chain .or (.binary .or) (chain .and (.binary .and) operand)

/-- Reads an operand of `and`, in which negations and parentheses are nested less than `fuel`
deep. -/
def unary : Nat → Parse Expr
  | 0 => predicate
  | fuel + 1 => do
    let t ← current
    match t.kind with
    | .not =>
      discard take
      return .unary true (← unary fuel)
    | .bang =>
      discard take
      return .unary true (← unary fuel)
    | .openParen =>
      discard take
      let e ← disjunction (unary fuel)
      expect .closeParen .expectedCloseParen
      pure e
    | _ => predicate

/-- Reads a whole filter. -/
def filter : Parse Expr := do
  let e ← disjunction (unary (← remaining))
  let t ← current
  if t.kind = .eof then pure e else complain .unexpectedToken t

end Parse

/-- Reads a list of tokens as a filter. -/
def parseTokens (ts : Tokens) : Except ParseError Expr :=
  (Parse.filter.run ts).map (·.1)

/-- Reads a text as a filter. -/
def parse (source : String) : Except ParseError Expr :=
  parseTokens (Tokens.ofSource source)

end ForgeBoard.Filter
