import ForgeBoard.Data.JsonText

/-!
# Blanks and strings of TOML

Blanks, comments and ends of lines stand between the parts of a document.

A basic string stands between double quotes and may hold escapes; a literal string stands between
single quotes and means what it shows. Either kind extends over lines between quotes written three
times. Then a line break right after the opening quotes does not count, every other one counts as a
line feed, and up to two quotes may stand directly before the closing ones.
-/

namespace ForgeBoard.Toml

open Text

/-! ## Between the parts -/

def isSpace (c : Char) : Bool :=
  c == ' ' || c == '\t'

def skipSpace (cs : List Char) : List Char :=
  cs.dropWhile isSpace

/-- A control character that no line may hold. -/
def isControl (c : Char) : Bool :=
  c != '\t' && (decide (c.toNat < 32) || c.toNat == 127)

/-- Skips a line break; a carriage return counts only before a line feed. -/
def lineBreak? : List Char → Option (List Char)
  | '\n' :: rest => some rest
  | '\r' :: '\n' :: rest => some rest
  | _ => none

/-- Skips a comment up to the end of its line. -/
def skipComment? : List Char → Option (List Char)
  | '#' :: rest =>
    let body := rest.takeWhile fun c => c != '\n' && c != '\r'
    if body.any isControl then none else some (rest.drop body.length)
  | rest => some rest

/-- Skips blanks, comments and line breaks. -/
def skipLines? : Nat → List Char → Option (List Char)
  | 0, cs => some cs
  | fuel + 1, cs =>
    (skipComment? (skipSpace cs)).bind fun rest =>
      match lineBreak? rest with
      | some rest => skipLines? fuel rest
      | none => some rest

/-- Skips what may follow an expression on its line, and the line break. -/
def endLine? (cs : List Char) : Option (List Char) :=
  (skipComment? (skipSpace cs)).bind fun rest =>
    if rest.isEmpty then some [] else lineBreak? rest

/-! ## Strings -/

/-- The character with a code point, which is no half of a surrogate pair. -/
def charOf? (code : Nat) : Option Char :=
  if code.isValidChar then some (Char.ofNat code) else none

/-- Where a basic string is being read: on its only line, on one of several lines, or in the space
after a backslash at the end of a line, which does not count. -/
inductive Place where
  | line
  | lines
  | skipping
  deriving DecidableEq

/-- Reads a basic string after its opening quotes; `done` is what has been read, last character
first. -/
def readBasic (place : Place) (done : List Char) : List Char → Option (String × List Char)
  | [] => none
  | '"' :: rest =>
    if place = .line then some (String.ofList done.reverse, rest)
    else
      match rest with
      | '"' :: '"' :: '"' :: '"' :: rest => some (String.ofList ('"' :: '"' :: done).reverse, rest)
      | '"' :: '"' :: '"' :: rest => some (String.ofList ('"' :: done).reverse, rest)
      | '"' :: '"' :: rest => some (String.ofList done.reverse, rest)
      | rest => readBasic .lines ('"' :: done) rest
  | '\\' :: 'u' :: a :: b :: c :: d :: rest =>
    match (baseValue? 16 [a, b, c, d]).bind charOf? with
    | some char => readBasic (back place) (char :: done) rest
    | none => none
  | '\\' :: 'U' :: a :: b :: c :: d :: e :: f :: g :: h :: rest =>
    match (baseValue? 16 [a, b, c, d, e, f, g, h]).bind charOf? with
    | some char => readBasic (back place) (char :: done) rest
    | none => none
  | '\\' :: c :: rest =>
    if c = '/' then none
    else
      match Json.shortEscape? c with
      | some c => readBasic (back place) (c :: done) rest
      | none =>
        if place ≠ .line ∧ (lineBreak? (skipSpace (c :: rest))).isSome then
          readBasic .skipping done (c :: rest)
        else none
  | '\r' :: '\n' :: rest =>
    match place with
    | .line => none
    | .lines => readBasic .lines ('\n' :: done) rest
    | .skipping => readBasic .skipping done rest
  | c :: rest =>
    if place = .skipping ∧ (isSpace c ∨ c = '\n') then readBasic .skipping done rest
    else if isControl c ∧ ¬ (place = .lines ∧ c = '\n') then none
    else readBasic (back place) (c :: done) rest
where
  /-- The place after a character that counts. -/
  back : Place → Place
    | .line => .line
    | _ => .lines

/-- Reads a literal string after its opening quote. -/
def readLiteral (cs : List Char) : Option (String × List Char) :=
  let body := cs.takeWhile (· != '\'')
  match cs.drop body.length with
  | _ :: rest => if body.any isControl then none else some (String.ofList body, rest)
  | [] => none

/-- Reads a literal string over several lines after its opening quotes; `done` is what has been
read, last character first. -/
def readLiteralLines (done : List Char) : List Char → Option (String × List Char)
  | [] => none
  | '\'' :: '\'' :: '\'' :: '\'' :: '\'' :: rest =>
    some (String.ofList ('\'' :: '\'' :: done).reverse, rest)
  | '\'' :: '\'' :: '\'' :: '\'' :: rest => some (String.ofList ('\'' :: done).reverse, rest)
  | '\'' :: '\'' :: '\'' :: rest => some (String.ofList done.reverse, rest)
  | '\r' :: '\n' :: rest => readLiteralLines ('\n' :: done) rest
  | c :: rest =>
    if isControl c ∧ c ≠ '\n' then none else readLiteralLines (c :: done) rest

/-- The text without a line break in front. -/
def dropLineBreak (cs : List Char) : List Char :=
  (lineBreak? cs).getD cs

/-- Reads a string of any kind, if one begins here. -/
def readString? : List Char → Option (Option (String × List Char))
  | '"' :: '"' :: '"' :: rest => some (readBasic .lines [] (dropLineBreak rest))
  | '\'' :: '\'' :: '\'' :: rest => some (readLiteralLines [] (dropLineBreak rest))
  | '"' :: rest => some (readBasic .line [] rest)
  | '\'' :: rest => some (readLiteral rest)
  | _ => none

end ForgeBoard.Toml
