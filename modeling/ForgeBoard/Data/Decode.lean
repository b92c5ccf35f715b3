import ForgeBoard.Data.Json

/-!
# Decoding JSON values

Readers for the shapes in which data arrives. A record is an object, or an array of its fields in
their order. A field is required, optional (missing or null stands for nothing) or has a default
(when it is missing, but not when it is null).
-/

namespace ForgeBoard.Json

def string? : Json → Option String
  | string s => some s
  | _ => none

def bool? : Json → Option Bool
  | bool b => some b
  | _ => none

/-- A whole number from zero up to a limit. -/
def natUpTo? (limit : Nat) : Json → Option Nat
  | int n => if 0 ≤ n ∧ n ≤ limit then some n.toNat else none
  | _ => none

/-- A whole number of 64 bits without a sign. -/
def nat64? : Json → Option Nat :=
  natUpTo? (UInt64.size - 1)

/-- A whole number of 32 bits without a sign. -/
def nat32? : Json → Option Nat :=
  natUpTo? (UInt32.size - 1)

/-- A whole number of 16 bits without a sign. -/
def nat16? : Json → Option Nat :=
  natUpTo? (UInt16.size - 1)

/-- A whole number of 64 bits with a sign. -/
def int64? : Json → Option Int64
  | int n =>
    if Int64.minValue.toInt ≤ n ∧ n ≤ Int64.maxValue.toInt then some (Int64.ofInt n) else none
  | _ => none

/-- Reads every element of a list. -/
def all? {α : Type} (read : Json → Option α) : List Json → Option (List α)
  | [] => some []
  | v :: rest => (read v).bind fun a => (all? read rest).map (a :: ·)

/-- An array whose items are all read. -/
def list? {α : Type} (read : Json → Option α) : Json → Option (List α)
  | array items => all? read items
  | _ => none

/-- Null, or a value. -/
def orNull? {α : Type} (read : Json → Option α) : Json → Option (Option α)
  | null => some none
  | v => (read v).map some

/-- One of a set of names: as a text, or as the only name of an object, with null. -/
def oneOf? {α : Type} (names : List (String × α)) : Json → Option α
  | string s => names.lookup s
  | object [(s, null)] => names.lookup s
  | _ => none

/-- What a record holds for a field. -/
inductive Slot where
  | value (v : Json)
  | absent
  | beyond

/-- A record: the names of its fields with what they hold. -/
abbrev Record := List (String × Slot)

/-- The values that an object has under a name. -/
def valuesOf (name : String) (fields : List (String × Json)) : List Json :=
  (fields.filter (·.1 == name)).map (·.2)

/-- The fields of an object by name. A repeated field is refused. -/
def byName? (names : List String) (fields : List (String × Json)) : Option Record :=
  match names with
  | [] => some []
  | name :: rest =>
    match valuesOf name fields with
    | [] => (byName? rest fields).map ((name, .absent) :: ·)
    | [v] => (byName? rest fields).map ((name, .value v) :: ·)
    | _ => none

/-- The fields of an array in their order. More items than fields are refused. -/
def byPosition? : List String → List Json → Option Record
  | [], [] => some []
  | [], _ :: _ => none
  | name :: names, [] => (byPosition? names []).map ((name, .beyond) :: ·)
  | name :: names, v :: items => (byPosition? names items).map ((name, .value v) :: ·)

/-- A record with the given fields. A closed record has no others. -/
def record? (closed : Bool) (names : List String) : Json → Option Record
  | object fields =>
    if closed && fields.any (fun f => !names.contains f.1) then none else byName? names fields
  | array items => byPosition? names items
  | _ => none

namespace Record

def slot (r : Record) (name : String) : Slot :=
  (r.lookup name).getD .absent

/-- A field that has to be there. -/
def required {α : Type} (r : Record) (name : String) (read : Json → Option α) : Option α :=
  match r.slot name with
  | .value v => read v
  | _ => none

/-- A field that may be missing or null in an object; an array has to state it. -/
def optional {α : Type} (r : Record) (name : String) (read : Json → Option α) :
    Option (Option α) :=
  match r.slot name with
  | .value v => orNull? read v
  | .absent => some none
  | .beyond => none

/-- A field with a default. -/
def default {α : Type} (r : Record) (name : String) (read : Json → Option α) (fallback : α) :
    Option α :=
  match r.slot name with
  | .value v => read v
  | _ => some fallback

end Record

end ForgeBoard.Json
