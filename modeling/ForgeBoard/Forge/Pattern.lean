import ForgeBoard.Forge.Instance

/-!
# Selecting instances by pattern

A pattern is the name of a kind, an exact id, or the beginning of an id followed by `*` after a
colon. Blanks around a pattern do not count, and a blank pattern matches nothing.
-/

namespace ForgeBoard

open Text

/-- What a pattern stands for. -/
inductive Pattern where
  | nothing
  | beginning (start : List Char)
  | exact (text : List Char)

namespace Pattern

/-- Reads a pattern. -/
def ofText (s : String) : Pattern :=
  let cs := trimChars s.toList
  if cs.isEmpty then nothing
  else if [':', '*'].isSuffixOf cs then beginning cs.dropLast
  else exact cs

/-- An exact pattern matches an id or the name of a kind. A beginning matches the start of an id;
the id of every instance starts with the name of its kind and a colon. -/
def matchesInstance (i : Instance) : Pattern → Bool
  | nothing => false
  | beginning start =>
    start == i.kind.name.toList ++ [':'] || start.isPrefixOf i.id.toList
  | exact text => text == i.kind.name.toList || text == i.id.toList

end Pattern

namespace Instance

/-- Whether the pattern selects the instance. -/
def isMatch (i : Instance) (pattern : String) : Bool :=
  (Pattern.ofText pattern).matchesInstance i

/-- Whether one of the patterns selects the instance. -/
def isMatchAny (i : Instance) (patterns : List String) : Bool :=
  patterns.any i.isMatch

/-- The instances in the order of their ids. -/
def sortById (instances : List Instance) : List Instance :=
  instances.mergeSort fun a b => decide (a.id ≤ b.id)

/-- Picks the instances that the patterns select, pattern by pattern. An id that was picked is
not picked again. -/
def pick (ordered : List Instance) : (patterns : List String) → (seen : List String) →
    List Instance
  | [], _ => []
  | pattern :: rest, seen =>
    let picked := firsts (ordered.filter (·.isMatch pattern)) seen
    picked ++ pick ordered rest (seen ++ picked.map (·.id))
where
  /-- The first instance of each id that is not in `seen`. -/
  firsts : List Instance → List String → List Instance
    | [], _ => []
    | i :: rest, seen =>
      if seen.contains i.id then firsts rest seen
      else i :: firsts rest (i.id :: seen)

/-- Selects instances: those that match an include pattern, in the order of the patterns, or all
of them in the order of their ids when there is no such pattern; then all that match an exclude
pattern are dropped. Blank patterns count for nothing. -/
def select (instances : List Instance) (includes excludes : List String) : List Instance :=
  let includes := includes.filter fun p => !isBlankText p
  let ordered := sortById instances
  let chosen := if includes.isEmpty then ordered else pick ordered includes []
  chosen.filter fun i => !i.isMatchAny excludes

end Instance

end ForgeBoard
