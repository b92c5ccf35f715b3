import ForgeBoard.Filter.Token
import ForgeBoard.Text.Letter
import ForgeBoard.Text.Lowercase
import ForgeBoard.Text.Parts

/-!
# Scanning filter text

`Lexeme.scan` cuts one token off the front of a text that starts with no blank. A `Cursor` walks
through a source with it, one token or error a step. `tokenize` is a whole walk, and `Tokens` is
the same walk kept up to its end or first error, which is what the parser reads. The words with a
meaning of their own are reserved.
-/

namespace ForgeBoard.Filter

open Text

/-- The front of a text: what it is, the text it takes and what is left. -/
structure Lexeme where
  result : Except LexFault TokenKind
  text : List Char
  rest : List Char

namespace Lexeme

/-- A mark of one character. -/
def mark (kind : TokenKind) (c : Char) (rest : List Char) : Lexeme :=
  ⟨.ok kind, [c], rest⟩

/-- A mark of one character, or of two when an equals sign follows. -/
def operator (short long : TokenKind) (c : Char) : List Char → Lexeme
  | '=' :: rest => ⟨.ok long, [c, '='], rest⟩
  | rest => ⟨.ok short, [c], rest⟩

/-- A character that may go on an identifier. -/
def isWordChar (c : Char) : Bool :=
  isAlphanumeric c || c == '_'

/-- The kind of a word: a keyword in any case, or an identifier. -/
def wordKind (word : List Char) : TokenKind :=
  let lowered := lowerFrom [] word
  if lowered = "and".toList then .and
  else if lowered = "or".toList then .or
  else if lowered = "not".toList then .not
  else if lowered = "in".toList then .within
  else if lowered = "true".toList then .bool true
  else if lowered = "false".toList then .bool false
  else .ident word

/-- The longest word in front. -/
def word (cs : List Char) : Lexeme :=
  ⟨.ok (wordKind (cs.takeWhile isWordChar)), cs.takeWhile isWordChar, cs.dropWhile isWordChar⟩

/-- What stands in a string up to its closing quote, with the length of the text that says so.
A backslash escapes a quote or a backslash; before any other character it stands for itself. -/
def stringBody : List Char → Option (List Char × Nat)
  | [] => none
  | '"' :: _ => some ([], 1)
  | ['\\'] => none
  | '\\' :: c :: rest =>
    (stringBody rest).map fun (value, n) =>
      (if c = '"' ∨ c = '\\' then c :: value else '\\' :: c :: value, n + 2)
  | c :: rest => (stringBody rest).map fun (value, n) => (c :: value, n + 1)

/-- A string, whose opening quote is the first character of `cs`. -/
def quoted (cs : List Char) : Lexeme :=
  match stringBody cs.tail with
  | some (value, n) => ⟨.ok (.string value), cs.take (n + 1), cs.drop (n + 1)⟩
  | none => ⟨.error .unterminatedString, cs, []⟩

/-- A letter that turns a number into a time span. -/
def isUnitLetter (c : Char) : Bool :=
  c == 'm' || c == 'h' || c == 'd' || c == 'w'

/-- The digits and hyphens of a date. -/
def isDateChar (c : Char) : Bool :=
  c.isDigit || c == '-'

/-- A number or a time span, whose sign has been taken. -/
def amount (sign body : List Char) : Lexeme :=
  let ds := body.takeWhile Char.isDigit
  if ds.isEmpty then ⟨.error .expectedDigits, sign, body⟩
  else
    match body.dropWhile Char.isDigit with
    | [] => ⟨.ok (.number (sign ++ ds)), sign ++ ds, []⟩
    | c :: rest =>
      if isUnitLetter c then ⟨.ok (.span (sign ++ ds ++ [c])), sign ++ ds ++ [c], rest⟩
      else ⟨.ok (.number (sign ++ ds)), sign ++ ds, c :: rest⟩

/-- A number, a time span or a date. Digits before a hyphen begin a date, which takes all digits
and hyphens that follow. -/
def numeral : List Char → Lexeme
  | '-' :: body => amount ['-'] body
  | cs =>
    if (cs.dropWhile Char.isDigit).head? = some '-' then
      ⟨.ok (.date (cs.takeWhile isDateChar)), cs.takeWhile isDateChar, cs.dropWhile isDateChar⟩
    else amount [] cs

/-- Cuts one token off the front. -/
def scan : List Char → Lexeme
  | [] => ⟨.ok .eof, [], []⟩
  | c :: rest =>
    if c = '(' then mark .openParen c rest
    else if c = ')' then mark .closeParen c rest
    else if c = '[' then mark .openBracket c rest
    else if c = ']' then mark .closeBracket c rest
    else if c = ',' then mark .comma c rest
    else if c = '=' then mark .eq c rest
    else if c = '!' then operator .bang .ne c rest
    else if c = '>' then operator .gt .ge c rest
    else if c = '<' then operator .lt .le c rest
    else if c = '"' then quoted (c :: rest)
    else if isAlphabetic c || c == '_' then word (c :: rest)
    else if c == '-' || c.isDigit then numeral (c :: rest)
    else ⟨.error (.unexpectedChar c), [], c :: rest⟩

end Lexeme

/-- A place in a source: its byte offset and the text after it. -/
structure Cursor where
  offset : Nat
  rest : List Char

namespace Cursor

/-- The beginning of a source. -/
def start (source : String) : Cursor :=
  ⟨0, source.toList⟩

/-- The place after the blanks in front. -/
def skipBlank (c : Cursor) : Cursor :=
  ⟨c.offset + byteLength (c.rest.takeWhile isBlank), c.rest.dropWhile isBlank⟩

/-- The next token or error, and the place after it. An unexpected character stays where it is,
an unterminated string takes the rest of the source, a lone hyphen is taken. -/
def next (c : Cursor) : Except LexError Token × Cursor :=
  let here := c.skipBlank
  let lexeme := Lexeme.scan here.rest
  let after : Cursor := ⟨here.offset + byteLength lexeme.text, lexeme.rest⟩
  match lexeme.result with
  | .ok kind => (.ok ⟨kind, lexeme.text, here.offset⟩, after)
  | .error .expectedDigits => (.error ⟨.expectedDigits, after.offset⟩, after)
  | .error fault => (.error ⟨fault, here.offset⟩, after)

end Cursor

/-- The tokens of a source up to its end or its first lexical error. -/
inductive Tokens where
  | token (t : Token) (rest : Tokens)
  | finish (offset : Nat)
  | broken (e : LexError)

namespace Tokens

/-- Walks at most `fuel` tokens. -/
def walk : Nat → Cursor → Tokens
  | 0, c => .finish c.offset
  | fuel + 1, c =>
    match c.next with
    | (.error e, _) => .broken e
    | (.ok t, after) => if t.kind = .eof then .finish t.start else .token t (walk fuel after)

/-- The tokens of a source. Each takes a character at least. -/
def ofSource (source : String) : Tokens :=
  walk (source.toList.length + 1) (Cursor.start source)

/-- The number of tokens. -/
def length : Tokens → Nat
  | token _ rest => rest.length + 1
  | finish _ => 0
  | broken _ => 0

/-- All tokens with the end of the input as the last one, or the error. -/
def toList : Tokens → Except LexError (List Token)
  | token t rest => rest.toList.map (t :: ·)
  | finish offset => .ok [⟨.eof, [], offset⟩]
  | broken e => .error e

end Tokens

/-- The tokens of a source, ended by the end of the input. -/
def tokenize (source : String) : Except LexError (List Token) :=
  (Tokens.ofSource source).toList

/-! ## Reserved words -/

/-- Words with a meaning of their own in the filter language. -/
def reservedWords : List String :=
  ["and", "or", "not", "in", "true", "false", "last"]

/-- Whether the word is reserved, in any ASCII case. -/
def isReserved (word : String) : Bool :=
  reservedWords.any (Text.sameAsciiCase word)

end ForgeBoard.Filter
