import ForgeBoard.Data.Binary64
import ForgeBoard.Http.Message
import ForgeBoard.Text.Lowercase

/-!
# The `Retry-After` header

A forge that refuses a request may say for how many seconds to wait. The number is decimal, with a
sign, a fraction and an exponent at will, or a word for infinity; a date is not understood. It is
read as the nearest number of 53 bits and so is its product with a thousand.
-/

namespace ForgeBoard.Http

open Text

/-- A decimal number: its digits without a point, and the power of ten they are multiplied by. -/
structure Scientific where
  digits : Nat
  exponent : Int
  deriving DecidableEq

/-- A power of ten. -/
def powerOfTen : Nat → Nat
  | 0 => 1
  | n + 1 => 10 * powerOfTen n

/-- Reads an exponent after its letter. -/
def readExponent? : List Char → Option Int
  | '+' :: cs => (readNat? cs).map fun n => (n : Int)
  | cs => readInt? cs

/-- Reads digits with at most one point among them, and an exponent. -/
def Scientific.ofChars? (cs : List Char) : Option Scientific :=
  let whole := cs.takeWhile Char.isDigit
  let rest := cs.dropWhile Char.isDigit
  let afterPoint := if rest.head? = some '.' then rest.tail else []
  let fraction := afterPoint.takeWhile Char.isDigit
  let rest := if rest.head? = some '.' then afterPoint.dropWhile Char.isDigit else rest
  if whole.isEmpty && fraction.isEmpty then none
  else
    let scaled := fun e : Int => some ⟨digitsValue (whole ++ fraction), e - fraction.length⟩
    match rest with
    | [] => scaled 0
    | c :: cs => if c = 'e' ∨ c = 'E' then (readExponent? cs).bind scaled else none

/-- The nearest number of 53 bits. What is far outside their range is not computed. -/
def Scientific.toBinary64 (s : Scientific) : Binary64 :=
  let magnitude := s.exponent + (Nat.toDigits 10 s.digits).length
  if s.digits = 0 ∨ magnitude < -400 then .finite 0 0
  else if 400 < magnitude then .infinite
  else if 0 ≤ s.exponent then .ofFraction (s.digits * powerOfTen s.exponent.toNat) 1
  else .ofFraction s.digits (powerOfTen (-s.exponent).toNat)

/-- Reads a number of seconds that is not negative, as whole milliseconds, 2^64 - 1 at most. -/
def readSeconds? (text : String) : Option Nat :=
  let cs := trimChars text.toList
  let negative := cs.head? == some '-'
  let cs := if negative || cs.head? == some '+' then cs.tail else cs
  let word := cs.map Char.toLower
  let seconds :=
    if word = "inf".toList ∨ word = "infinity".toList then some .infinite
    else (Scientific.ofChars? cs).map Scientific.toBinary64
  seconds.bind fun seconds =>
    if negative && !seconds.isZero then none
    else some ((seconds.scale 1000).wholePart (UInt64.size - 1))

/-- A header value of visible ASCII characters, blanks and tabs. -/
def isPlainHeader (s : String) : Bool :=
  s.toList.all fun c => c == '\t' || (decide (32 ≤ c.toNat) && decide (c.toNat < 127))

/-- The delay that a response asks for, in milliseconds. -/
def Response.retryAfter? (r : Response) : Option Nat :=
  (r.header? "retry-after").bind fun text => if isPlainHeader text then readSeconds? text else none

end ForgeBoard.Http
