import ForgeBoard.Text.Quoted

/-!
# Tokens of the filter language

A token has a kind, the text it was scanned from and the byte offset where that text starts.
Offsets count bytes of the UTF-8 form of the source. Numbers, dates and time spans keep their text;
the parser reads their values.
-/

namespace ForgeBoard.Filter

open Text

/-- The kinds of tokens, with what a token says beyond its kind. -/
inductive TokenKind where
  | and
  | or
  | not
  | within
  | eq
  | ne
  | gt
  | ge
  | lt
  | le
  | bang
  | openParen
  | closeParen
  | openBracket
  | closeBracket
  | comma
  | ident (name : List Char)
  | string (value : List Char)
  | number (digits : List Char)
  | date (digits : List Char)
  | span (digits : List Char)
  | bool (value : Bool)
  | eof
  deriving DecidableEq

/-- The number of bytes of the UTF-8 form. -/
def byteLength : List Char → Nat
  | [] => 0
  | c :: cs => c.utf8Size + byteLength cs

/-- A token, its text and the byte offset of that text in the source. -/
structure Token where
  kind : TokenKind
  text : List Char
  start : Nat
  deriving DecidableEq

/-- The byte offset right after the token. -/
def Token.stop (t : Token) : Nat :=
  t.start + byteLength t.text

/-- How a kind is shown. -/
def TokenKind.display : TokenKind → String
  | and => "and"
  | or => "or"
  | not => "not"
  | within => "in"
  | eq => "="
  | ne => "!="
  | gt => ">"
  | ge => ">="
  | lt => "<"
  | le => "<="
  | bang => "!"
  | openParen => "("
  | closeParen => ")"
  | openBracket => "["
  | closeBracket => "]"
  | comma => ","
  | ident name => String.ofList name
  | string value => String.ofList (quoteChars value)
  | number ds => String.ofList ds
  | date ds => String.ofList ds
  | span ds => String.ofList ds
  | bool true => "true"
  | bool false => "false"
  | eof => "end of input"

/-- What is wrong with a text that is no token. -/
inductive LexFault where
  | unexpectedChar (c : Char)
  | unterminatedString
  | expectedDigits
  deriving DecidableEq

/-- A fault and the byte offset it is reported at. -/
structure LexError where
  fault : LexFault
  offset : Nat
  deriving DecidableEq

def LexError.message (e : LexError) : String :=
  match e.fault with
  | .unexpectedChar c => s!"unexpected character {quoteChar c} at {e.offset}"
  | .unterminatedString => s!"unterminated string starting at {e.offset}"
  | .expectedDigits => s!"expected digits at {e.offset}"

end ForgeBoard.Filter
