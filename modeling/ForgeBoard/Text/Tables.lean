import ForgeBoard.Text.Digits
import ForgeBoard.Text.Parts

/-!
# Tables of characters

A character class of the Unicode character database is a list of inclusive code point ranges, in
rising order. A mapping that treats neighbours alike is a list of runs; any other one is a list of
characters with their images.
-/

namespace ForgeBoard.Text

/-! ## Ranges and runs -/

/-- Inclusive ranges of code points, in rising order. -/
abbrev Ranges := List (Nat × Nat)

/-- Whether the character's code point lies in one of the ranges. -/
def Ranges.has (ranges : Ranges) (c : Char) : Bool :=
  ranges.any fun r => decide (r.1 ≤ c.toNat) && decide (c.toNat ≤ r.2)

/-- Code points at a fixed distance from each other whose images all lie `shift` code points
away. -/
structure Run where
  first : Nat
  last : Nat
  stride : Nat
  shift : Int

def Run.covers (run : Run) (n : Nat) : Bool :=
  decide (run.first ≤ n) && decide (n ≤ run.last) && (n - run.first) % run.stride == 0

/-- The image of a character that the run covers. -/
def Run.image (run : Run) (c : Char) : Char :=
  Char.ofNat (c.toNat + run.shift).toNat

/-- The image of a character under the run that covers it. -/
def imageInRuns? (runs : List Run) (c : Char) : Option Char :=
  (runs.find? (·.covers c.toNat)).map (·.image c)

/-! ## Images

A table of characters, each with the characters that it stands for. It is written as words: the
code point of the character, a colon, and the code points of its image between commas, all in
hexadecimal digits. -/

/-- Characters, each with what it stands for. -/
abbrev Images := List (Char × List Char)

namespace Images

/-- The character with a code point in hexadecimal digits. -/
def readChar? (ds : List Char) : Option Char :=
  (baseValue? 16 ds).map Char.ofNat

/-- One word of a table. -/
def readWord? (word : List Char) : Option (Char × List Char) :=
  match pieces (· == ':') word with
  | [source, image] => do
    return (← readChar? source, ← (pieces (· == ',') image).mapM readChar?)
  | _ => none

/-- Reads a table. -/
def ofText (s : String) : Images :=
  (words s).filterMap (readWord? ·.toList)

end Images

end ForgeBoard.Text
