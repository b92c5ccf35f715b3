import ForgeBoard.Calendar.TimeSpan
import ForgeBoard.Text.Parts

/-!
# Timestamps

Instants with nanoseconds, as work items carry them.

* `Timestamp.ofText?` reads a date, a time and an offset from UTC. It is generous with blanks and
  with missing leading zeros, and keeps a leap second apart from the second after it.
* `Timestamp.text` writes `YYYY-MM-DDTHH:MM:SSZ` in UTC, with three, six or nine digits of a
  fraction that is not zero.
-/

namespace ForgeBoard

open Text

/-- An instant: seconds since the beginning of 1970 (UTC), and nanoseconds. During a leap second
the nanoseconds count on from a whole second. -/
structure Timestamp where
  seconds : Int
  nanos : Nat
  deriving DecidableEq

namespace Timestamp

/-- Reads one digit or more, `width` at most. -/
def readDigits? (width : Nat) (cs : List Char) : Option (Nat × List Char) :=
  let ds := (cs.take width).takeWhile Char.isDigit
  if ds.isEmpty then none else some (digitsValue ds, cs.drop ds.length)

/-- Reads a year: up to four digits, or any number of them after a sign. -/
def readYear? : List Char → Option (Int × List Char)
  | '-' :: cs => (readDigits? cs.length cs).map fun r => (-(r.1 : Int), r.2)
  | '+' :: cs => (readDigits? cs.length cs).map fun r => ((r.1 : Int), r.2)
  | cs => (readDigits? 4 cs).map fun r => ((r.1 : Int), r.2)

/-- Skips blanks and reads a mark. -/
def readMark? (mark : Char) (cs : List Char) : Option (List Char) :=
  match cs.dropWhile isBlank with
  | c :: rest => if c == mark then some rest else none
  | [] => none

/-- Skips blanks and reads a field of one or two digits. -/
def readField? (cs : List Char) : Option (Nat × List Char) :=
  readDigits? 2 (cs.dropWhile isBlank)

/-- Reads a fraction as nanoseconds; digits after the ninth are skipped. -/
def readFraction? : List Char → Option (Nat × List Char)
  | '.' :: cs =>
    let ds := cs.takeWhile Char.isDigit
    if ds.isEmpty then none
    else
      let kept := ds.take 9
      let padded := kept ++ List.replicate (9 - kept.length) '0'
      some (digitsValue padded, cs.dropWhile Char.isDigit)
  | cs => some (0, cs)

/-- Reads two digits. -/
def readPair? : List Char → Option (Nat × List Char)
  | a :: b :: rest =>
    if a.isDigit && b.isDigit then some (digitsValue [a, b], rest) else none
  | _ => none

/-- Reads an offset from UTC in seconds: a `Z`, the letters `UTC`, or a sign and hours and
minutes. -/
def readOffset? (cs : List Char) : Option (Int × List Char) :=
  if (cs.take 3).map Char.toUpper == ['U', 'T', 'C'] then some (0, cs.drop 3)
  else
    match cs with
    | [] => none
    | c :: rest =>
      if c == 'Z' || c == 'z' then some (0, rest)
      else if c == '+' then clock 1 rest
      else if c == '-' || c == '−' then clock (-1) rest
      else none
where
  /-- Hours and minutes after a sign, with colons and blanks between them. -/
  clock (sign : Int) (cs : List Char) : Option (Int × List Char) :=
    (readPair? cs).bind fun (hours, cs) =>
      (readPair? (cs.dropWhile fun c => c == ':' || isBlank c)).bind fun (minutes, cs) =>
        if minutes < 60 && hours < 24 then
          some (sign * (hours * 3600 + minutes * 60 : Nat), cs)
        else none

/-- Reads a date, a separator, a time and an offset from UTC. -/
def ofText? (s : String) : Option Timestamp := do
  let (year, cs) ← readYear? (s.toList.dropWhile isBlank)
  let cs ← readMark? '-' cs
  let (month, cs) ← readField? cs
  let cs ← readMark? '-' cs
  let (day, cs) ← readField? cs
  let separator ← cs.head?
  guard (separator == 'T' || separator == 't' || separator == ' ')
  let (hour, cs) ← readField? cs.tail
  let cs ← readMark? ':' cs
  let (minute, cs) ← readField? cs
  let cs ← readMark? ':' cs
  let (second, cs) ← readField? cs
  let (fraction, cs) ← readFraction? cs
  let (offset, cs) ← readOffset? (cs.dropWhile isBlank)
  guard (cs.all isBlank)
  guard (hour < 24 && minute < 60 && second ≤ 60)
  let date ← Date.ofParts? year month day
  guard date.inRange
  let leap := second == 60
  let seconds : Int := (date.dayNumber - epochDay) * 86400 + (hour * 3600 + minute * 60 : Nat) +
    (if leap then 59 else second : Nat) - offset
  guard (Date.ofSeconds seconds).inRange
  return { seconds, nanos := if leap then fraction + 1000000000 else fraction }

/-- The day of the instant in UTC. -/
def date (t : Timestamp) : Date :=
  Date.ofSeconds t.seconds

/-- A fraction of a second: nothing for zero, else the least of three, six and nine digits that
is exact. -/
def fractionChars (nanos : Nat) : List Char :=
  if nanos = 0 then []
  else if nanos % 1000000 = 0 then '.' :: paddedDigits 3 (nanos / 1000000)
  else if nanos % 1000 = 0 then '.' :: paddedDigits 6 (nanos / 1000)
  else '.' :: paddedDigits 9 nanos

/-- The written form in UTC. -/
def text (t : Timestamp) : String :=
  let ofDay := (t.seconds % 86400).toNat
  let leap := decide (1000000000 ≤ t.nanos)
  let second := ofDay % 60 + if leap then 1 else 0
  String.ofList (t.date.chars ++ 'T' :: paddedDigits 2 (ofDay / 3600) ++
    ':' :: paddedDigits 2 (ofDay / 60 % 60) ++ ':' :: paddedDigits 2 second ++
    fractionChars (if leap then t.nanos - 1000000000 else t.nanos) ++ ['Z'])

end Timestamp

end ForgeBoard
