import ForgeBoard.Data.Json
import ForgeBoard.Text.Digits

/-!
# Reading JSON

The grammar of RFC 8259, applied to a whole text. A string may not hold an escaped half of a
surrogate pair without the other half.
-/

namespace ForgeBoard.Json

open Text

/-- White space between the parts of a JSON text. -/
def isSpace (c : Char) : Bool :=
  c == ' ' || c == '\t' || c == '\n' || c == '\r'

def skipSpace (cs : List Char) : List Char :=
  cs.dropWhile isSpace

/-- The value of four hexadecimal digits. -/
def hex4? (a b c d : Char) : Option Nat :=
  baseValue? 16 [a, b, c, d]

/-- The character that a backslash and a letter stand for. -/
def shortEscape? (c : Char) : Option Char :=
  if c = '"' ∨ c = '\\' ∨ c = '/' then some c
  else if c = 'n' then some '\n'
  else if c = 'r' then some '\r'
  else if c = 't' then some '\t'
  else if c = 'b' then some '\x08'
  else if c = 'f' then some '\x0c'
  else none

/-- Reads a string after its opening quote; `done` is what has been read, last character first. -/
def readString (done : List Char) : List Char → Option (String × List Char)
  | [] => none
  | '"' :: rest => some (String.ofList done.reverse, rest)
  | '\\' :: 'u' :: a :: b :: c :: d :: rest =>
    match hex4? a b c d with
    | none => none
    | some high =>
      if 0xd800 ≤ high ∧ high < 0xdc00 then
        match rest with
        | '\\' :: 'u' :: e :: f :: g :: h :: rest =>
          match hex4? e f g h with
          | none => none
          | some low =>
            if 0xdc00 ≤ low ∧ low < 0xe000 then
              let code := 0x10000 + (high - 0xd800) * 0x400 + (low - 0xdc00)
              readString (Char.ofNat code :: done) rest
            else none
        | _ => none
      else if 0xdc00 ≤ high ∧ high < 0xe000 then none
      else readString (Char.ofNat high :: done) rest
  | '\\' :: c :: rest =>
    match shortEscape? c with
    | some c => readString (c :: done) rest
    | none => none
  | c :: rest => if c.toNat < 32 then none else readString (c :: done) rest

/-- The whole part of a number in front: no digit follows a leading zero. -/
def wholeDigits (cs : List Char) : List Char :=
  match cs with
  | '0' :: _ => ['0']
  | _ => cs.takeWhile Char.isDigit

/-- The fraction of a number in front, if there is one; `none` for a point without digits. -/
def fraction? : List Char → Option (List Char)
  | '.' :: cs =>
    let ds := cs.takeWhile Char.isDigit
    if ds.isEmpty then none else some ('.' :: ds)
  | _ => some []

/-- The exponent of a number in front, if there is one; `none` for one without digits. -/
def exponent? : List Char → Option (List Char)
  | e :: cs =>
    if e = 'e' ∨ e = 'E' then
      let sign := (cs.take 1).filter fun c => c == '+' || c == '-'
      let ds := (cs.drop sign.length).takeWhile Char.isDigit
      if ds.isEmpty then none else some (e :: sign ++ ds)
    else some []
  | [] => some []

/-- A number from its parts. Minus zero, and whole numbers that do not fit 64 bits, are kept as
texts. -/
def ofNumber (negative : Bool) (whole more : List Char) : Json :=
  let sign := if negative then ['-'] else []
  let text := String.ofList (sign ++ whole ++ more)
  let n := digitsValue whole
  if !more.isEmpty then real text
  else if negative then
    if n = 0 ∨ UInt64.size / 2 < n then real text else int (-(n : Int))
  else if UInt64.size ≤ n then real text
  else int n

/-- Reads a number. -/
def readNumber (cs : List Char) : Option (Json × List Char) :=
  let negative := cs.head? == some '-'
  let cs := if negative then cs.tail else cs
  let whole := wholeDigits cs
  if whole.isEmpty then none
  else do
    let cs := cs.drop whole.length
    let fraction ← fraction? cs
    let cs := cs.drop fraction.length
    let exponent ← exponent? cs
    return (ofNumber negative whole (fraction ++ exponent), cs.drop exponent.length)

/-- Reads a given word. -/
def readWord (word : String) (v : Json) (cs : List Char) : Option (Json × List Char) :=
  if word.toList.isPrefixOf cs then some (v, cs.drop word.toList.length) else none

mutual

/-- Reads a value after blanks. -/
def readValue : Nat → List Char → Option (Json × List Char)
  | 0, _ => none
  | fuel + 1, cs =>
    match skipSpace cs with
    | [] => none
    | '"' :: rest => (readString [] rest).map fun (s, rest) => (string s, rest)
    | '[' :: rest =>
      match skipSpace rest with
      | ']' :: rest => some (array [], rest)
      | rest => (readItems fuel rest).map fun (items, rest) => (array items, rest)
    | '\x7b' :: rest =>
      match skipSpace rest with
      | '\x7d' :: rest => some (object [], rest)
      | rest => (readFields fuel rest).map fun (fields, rest) => (object fields, rest)
    | 'n' :: rest => readWord "null" null ('n' :: rest)
    | 't' :: rest => readWord "true" (bool true) ('t' :: rest)
    | 'f' :: rest => readWord "false" (bool false) ('f' :: rest)
    | rest => readNumber rest

/-- Reads one item or more, and the closing bracket. -/
def readItems : Nat → List Char → Option (List Json × List Char)
  | 0, _ => none
  | fuel + 1, cs =>
    match readValue fuel cs with
    | none => none
    | some (v, rest) =>
      match skipSpace rest with
      | ',' :: rest => (readItems fuel rest).map fun (items, rest) => (v :: items, rest)
      | ']' :: rest => some ([v], rest)
      | _ => none

/-- Reads one field or more, and the closing brace. -/
def readFields : Nat → List Char → Option (List (String × Json) × List Char)
  | 0, _ => none
  | fuel + 1, cs =>
    match skipSpace cs with
    | '"' :: rest =>
      match readString [] rest with
      | none => none
      | some (name, rest) =>
        match skipSpace rest with
        | ':' :: rest =>
          match readValue fuel rest with
          | none => none
          | some (v, rest) =>
            match skipSpace rest with
            | ',' :: rest =>
              (readFields fuel rest).map fun (fields, rest) => ((name, v) :: fields, rest)
            | '\x7d' :: rest => some ([(name, v)], rest)
            | _ => none
        | _ => none
    | _ => none

end

/-- Reads a whole text as one value. Each step but every other one takes a character. -/
def ofText? (s : String) : Option Json :=
  let cs := s.toList
  (readValue (2 * cs.length + 2) cs).bind fun (v, rest) =>
    if (skipSpace rest).isEmpty then some v else none

end ForgeBoard.Json
