import ForgeBoard.Data.Json

/-!
# Tables of a TOML document

A table may be opened by a header once, and by the headers of its own sub-tables or by dotted keys
before that. `Node` keeps apart how a table came about until the document ends.
-/

namespace ForgeBoard.Toml

/-- How a table came about: on the way to another one, by a header, or by a dotted key. -/
inductive Origin where
  | passing
  | header
  | dotted
  deriving DecidableEq

/-- What a key stands for while a document is read. The items of an array of tables are kept last
one first. -/
inductive Node where
  | value (v : Json)
  | table (origin : Origin) (fields : List (String × Node))
  | tables (items : List (List (String × Node)))

/-- The fields of a table, last one first. -/
abbrev Fields := List (String × Node)

mutual

/-- The data of a node. -/
def Node.toJson : Node → Json
  | .value v => v
  | .table _ fields => .object (fieldsToJson fields).reverse
  | .tables items => .array (itemsToJson items).reverse

def fieldsToJson : List (String × Node) → List (String × Json)
  | [] => []
  | (name, node) :: rest => (name, node.toJson) :: fieldsToJson rest

def itemsToJson : List (List (String × Node)) → List Json
  | [] => []
  | fields :: rest => .object (fieldsToJson fields).reverse :: itemsToJson rest

end

/-- The fields with a name standing for another node. -/
def put (name : String) (node : Node) (fields : Fields) : Fields :=
  if fields.any (·.1 == name) then
    fields.map fun f => if f.1 == name then (name, node) else f
  else (name, node) :: fields

/-- Changes the table at a path. Tables on the way come about in passing if they do not exist; of
an array of tables the last one is meant. -/
def change (path : List String) (f : Fields → Option Fields) (fields : Fields) : Option Fields :=
  match path with
  | [] => f fields
  | name :: rest =>
    match fields.lookup name with
    | none => (change rest f []).map fun inner => put name (.table .passing inner) fields
    | some (.table origin inner) =>
      (change rest f inner).map fun inner => put name (.table origin inner) fields
    | some (.tables (last :: others)) =>
      (change rest f last).map fun last => put name (.tables (last :: others)) fields
    | _ => none

/-- Opens a table by its header. -/
def openTable (name : String) (fields : Fields) : Option Fields :=
  match fields.lookup name with
  | none => some (put name (.table .header []) fields)
  | some (.table .passing inner) => some (put name (.table .header inner) fields)
  | _ => none

/-- Adds a table to an array of tables by its header. -/
def addTable (name : String) (fields : Fields) : Option Fields :=
  match fields.lookup name with
  | none => some (put name (.tables [[]]) fields)
  | some (.tables items) => some (put name (.tables ([] :: items)) fields)
  | _ => none

/-- Sets a key, which may be dotted, to a value. -/
def setKey (key : List String) (v : Json) (fields : Fields) : Option Fields :=
  match key with
  | [] => none
  | [name] =>
    if fields.any (·.1 == name) then none else some (put name (.value v) fields)
  | name :: rest =>
    match fields.lookup name with
    | none => (setKey rest v []).map fun inner => put name (.table .dotted inner) fields
    | some (.table .header _) => none
    | some (.table origin inner) =>
      (setKey rest v inner).map fun inner => put name (.table origin inner) fields
    | _ => none

end ForgeBoard.Toml
