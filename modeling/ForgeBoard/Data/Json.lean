import ForgeBoard.Text.Digits

/-!
# JSON

Values, with the fields of an object in the order they were written and repeated names kept, and
their two written forms: compact, and laid out over indented lines.
-/

namespace ForgeBoard

open Text

/-- A JSON value. Numbers are told apart by how they are written: whole ones, and those with a
fraction or an exponent or out of the range of 64 bits, whose value is not used. -/
inductive Json where
  | null
  | bool (b : Bool)
  | int (n : Int)
  | real (text : String)
  | string (s : String)
  | array (items : List Json)
  | object (fields : List (String × Json))
  deriving Inhabited

namespace Json

/-- An optional value; `none` is null. -/
def option {α : Type} (encode : α → Json) : Option α → Json
  | some a => encode a
  | none => null

/-- An array of texts. -/
def strings (ss : List String) : Json :=
  array (ss.map string)

/-- How a character is written in a string. -/
def escapeChar (c : Char) : List Char :=
  if c = '"' then ['\\', '"']
  else if c = '\\' then ['\\', '\\']
  else if c = '\n' then ['\\', 'n']
  else if c = '\r' then ['\\', 'r']
  else if c = '\t' then ['\\', 't']
  else if c = '\x08' then ['\\', 'b']
  else if c = '\x0c' then ['\\', 'f']
  else if c.toNat < 32 then
    ['\\', 'u', '0', '0', Nat.digitChar (c.toNat / 16), Nat.digitChar (c.toNat % 16)]
  else [c]

/-- A string with its quotes. -/
def literal (s : String) : String :=
  String.ofList ('"' :: s.toList.flatMap escapeChar ++ ['"'])

mutual

/-- The value on one line, without blanks. -/
def compact : Json → String
  | null => "null"
  | bool true => "true"
  | bool false => "false"
  | int n => String.ofList (signedDigits n)
  | real text => text
  | string s => literal s
  | array items => "[" ++ compactItems items ++ "]"
  | object fields => "\x7b" ++ compactFields fields ++ "\x7d"

def compactItems : List Json → String
  | [] => ""
  | [v] => v.compact
  | v :: rest => v.compact ++ "," ++ compactItems rest

def compactFields : List (String × Json) → String
  | [] => ""
  | [(name, v)] => literal name ++ ":" ++ v.compact
  | (name, v) :: rest => literal name ++ ":" ++ v.compact ++ "," ++ compactFields rest

end

/-- A new line, indented by two blanks for each level. -/
def newline (level : Nat) : String :=
  String.ofList ('\n' :: List.replicate (2 * level) ' ')

mutual

/-- The value over several lines: each item and each field of a container that is not empty has
a line of its own. -/
def pretty (level : Nat) : Json → String
  | array [] => "[]"
  | object [] => "\x7b\x7d"
  | array (v :: rest) =>
    "[" ++ newline (level + 1) ++ pretty (level + 1) v ++ prettyItems (level + 1) rest ++
      newline level ++ "]"
  | object ((name, v) :: rest) =>
    "\x7b" ++ newline (level + 1) ++ literal name ++ ": " ++ pretty (level + 1) v ++
      prettyFields (level + 1) rest ++ newline level ++ "\x7d"
  | null => "null"
  | bool true => "true"
  | bool false => "false"
  | int n => String.ofList (signedDigits n)
  | real text => text
  | string s => literal s

/-- The items after the first one. -/
def prettyItems (level : Nat) : List Json → String
  | [] => ""
  | v :: rest => "," ++ newline level ++ pretty level v ++ prettyItems level rest

/-- The fields after the first one. -/
def prettyFields (level : Nat) : List (String × Json) → String
  | [] => ""
  | (name, v) :: rest =>
    "," ++ newline level ++ literal name ++ ": " ++ pretty level v ++ prettyFields level rest

end

end Json

end ForgeBoard
