import ForgeBoard.Data.Toml.Number
import ForgeBoard.Data.Toml.Quoted
import ForgeBoard.Data.Toml.Table

/-!
# Reading TOML

All of TOML but dates and times, which no configuration has. A document is read as a JSON object.
-/

namespace ForgeBoard.Toml

/-! ## Keys -/

/-- A character of a key that needs no quotes. -/
def isBareKeyChar (c : Char) : Bool :=
  c.isAlphanum || c == '_' || c == '-'

/-- Reads one part of a key. -/
def readKeyPart : List Char → Option (String × List Char)
  | '"' :: rest => readBasic .line [] rest
  | '\'' :: rest => readLiteral rest
  | cs =>
    let name := cs.takeWhile isBareKeyChar
    if name.isEmpty then none else some (String.ofList name, cs.drop name.length)

/-- Reads a key: its parts have dots between them. -/
def readKey : Nat → List Char → Option (List String × List Char)
  | 0, _ => none
  | fuel + 1, cs =>
    (readKeyPart (skipSpace cs)).bind fun (name, rest) =>
      match skipSpace rest with
      | '.' :: rest => (readKey fuel rest).map fun (names, rest) => (name :: names, rest)
      | rest => some ([name], rest)

/-! ## Values -/

mutual

/-- Reads a value. -/
def readValue : Nat → List Char → Option (Json × List Char)
  | 0, _ => none
  | fuel + 1, '[' :: rest =>
    (readItems fuel rest).map fun (items, rest) => (.array items, rest)
  | fuel + 1, '\x7b' :: rest =>
    match skipSpace rest with
    | '\x7d' :: rest => some (.object [], rest)
    | rest => (readInline fuel rest []).map fun (fields, rest) =>
        (.object (fieldsToJson fields).reverse, rest)
  | _ + 1, cs =>
    match readString? cs with
    | some found => found.map fun (s, rest) => (.string s, rest)
    | none =>
      let word := cs.takeWhile isScalarChar
      (scalar? word).map fun v => (v, cs.drop word.length)

/-- Reads the items of an array and the closing bracket; lines do not count. -/
def readItems : Nat → List Char → Option (List Json × List Char)
  | 0, _ => none
  | fuel + 1, cs =>
    match skipLines? cs.length cs with
    | none => none
    | some (']' :: rest) => some ([], rest)
    | some rest =>
      match readValue fuel rest with
      | none => none
      | some (v, rest) =>
        match skipLines? rest.length rest with
        | some (',' :: rest) => (readItems fuel rest).map fun (items, rest) => (v :: items, rest)
        | some (']' :: rest) => some ([v], rest)
        | _ => none

/-- Reads the fields of an inline table and the closing brace, on one line. -/
def readInline : Nat → List Char → Fields → Option (Fields × List Char)
  | 0, _, _ => none
  | fuel + 1, cs, fields =>
    match readKey cs.length cs with
    | some (key, '=' :: rest) =>
      match readValue fuel (skipSpace rest) with
      | none => none
      | some (v, rest) =>
        match setKey key v fields, skipSpace rest with
        | some fields, ',' :: rest => readInline fuel rest fields
        | some fields, '\x7d' :: rest => some (fields, rest)
        | _, _ => none
    | _ => none

end

/-! ## Documents -/

/-- What has been read of a document: its tables, and the path of the open one. -/
structure Document where
  fields : Fields
  path : List String

/-- Opens the table that a header names; `act` is done to its last name. -/
def Document.open (d : Document) (key : List String) (act : String → Fields → Option Fields) :
    Option Document :=
  match key.getLast? with
  | none => none
  | some name =>
    (change key.dropLast (act name) d.fields).map fun fields => ⟨fields, key⟩

/-- Reads one expression of a document and the end of its line. -/
def readExpression (d : Document) : List Char → Option (Document × List Char)
  | '[' :: '[' :: rest =>
    (readKey rest.length rest).bind fun
      | (key, ']' :: ']' :: rest) =>
        (d.open key addTable).bind fun d => (endLine? rest).map fun rest => (d, rest)
      | _ => none
  | '[' :: rest =>
    (readKey rest.length rest).bind fun
      | (key, ']' :: rest) =>
        (d.open key openTable).bind fun d => (endLine? rest).map fun rest => (d, rest)
      | _ => none
  | cs =>
    (readKey cs.length cs).bind fun
      | (key, '=' :: rest) =>
        let rest := skipSpace rest
        (readValue (2 * rest.length + 2) rest).bind fun (v, rest) =>
          (change d.path (setKey key v) d.fields).bind fun fields =>
            (endLine? rest).map fun rest => ({ d with fields }, rest)
      | _ => none

/-- Reads the expressions of a document. -/
def readDocument : Nat → Document → List Char → Option Document
  | 0, d, _ => some d
  | fuel + 1, d, cs =>
    match skipLines? cs.length cs with
    | none => none
    | some [] => some d
    | some rest => (readExpression d rest).bind fun (d, rest) => readDocument fuel d rest

/-- Reads a document as a JSON object. -/
def ofText? (s : String) : Option Json :=
  let cs := s.toList
  (readDocument (cs.length + 1) ⟨[], []⟩ cs).map fun d => .object (fieldsToJson d.fields).reverse

end ForgeBoard.Toml
