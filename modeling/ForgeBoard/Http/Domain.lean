import ForgeBoard.Http.Domain.Direction
import ForgeBoard.Http.Domain.Joiner
import ForgeBoard.Http.Domain.Table
import ForgeBoard.Text.Composition
import ForgeBoard.Text.Punycode

/-!
# Domain names

A domain name as it is looked up: in ASCII and in lower case. By UTS 46 the characters of a name
are replaced by what they stand for and the name is composed. Then each of its labels, the pieces
between dots, has to be well formed, and one that is not ASCII is written in Punycode after `xn--`.
A label may also be given in that form, if the text that it stands for could not be written
otherwise. Names are not checked for their length, and hyphens and empty labels may stand anywhere.
-/

namespace ForgeBoard.Http.Domain

open Text

/-- What a character stands for in a name, unless it has no place there. -/
def image? (c : Char) : Option (List Char) :=
  if c.toNat < 128 then some [c.toLower]
  else if ignoredRanges.has c then some []
  else
    match images.lookup c, imageInRuns? imageRuns c with
    | some image, _ => some image
    | none, some d => some [d]
    | none, none => if placedRanges.has c then some [c] else none

/-- The characters of ASCII that end a host or structure an address, and those that are not
seen. -/
def isForbidden (c : Char) : Bool :=
  decide (c.toNat ≤ 32) || decide (c.toNat = 127) || "%#/:<>?@[\\]^|".toList.contains c

/-- A name with each character replaced by what it stands for, composed. -/
def normalize? (cs : List Char) : Option (List Char) :=
  (cs.mapM image?).bind fun images =>
    let name := compose images.flatten
    if name.any isForbidden then none else some name

def isAscii (cs : List Char) : Bool :=
  cs.all (·.toNat < 128)

/-- What a label in ASCII starts with if it stands for another one. -/
def acePrefix : List Char := "xn--".toList

/-- The greatest number of characters after the prefix that is read. -/
def maxCodeLength : Nat := 2000

/-- The greatest number of characters that is written in ASCII. -/
def maxLabelLength : Nat := 1000

/-- The label that a label stands for: the one that is encoded after the prefix, which has to need
the encoding and to be normalized, or the label itself. -/
def decodeLabel? (label : List Char) : Option (List Char) :=
  if acePrefix.isPrefixOf label then
    let code := label.drop acePrefix.length
    if !isAscii label || code.isEmpty || code.getLast? = some '-' || maxCodeLength < code.length
    then none
    else
      (Punycode.decode? code).filter fun decoded =>
        normalize? decoded = some decoded && !acePrefix.isPrefixOf decoded
  else some label

/-- A label starts with no mark, and its joiners have their place. -/
def isLabel (label : List Char) : Bool :=
  label.head?.all (!isMark ·) && joinersFit [] label &&
    (isAscii label || label.length ≤ maxLabelLength)

/-- A label in ASCII. -/
def encodeLabel (label : List Char) : List Char :=
  if isAscii label then label else acePrefix ++ Punycode.encode label

/-- The form in ASCII of a name. -/
def toAscii? (cs : List Char) : Option (List Char) := do
  let name ← normalize? cs
  let labels ← (pieces (· == '.') name).mapM decodeLabel?
  if labels.all isLabel && (!labels.any (·.any turnsAround) || labels.all isOneWay) then
    some (joinPieces '.' (labels.map encodeLabel))
  else none

end ForgeBoard.Http.Domain
