import ForgeBoard.Calendar.Date

/-!
# Lengths of time

A filter writes a length of time as an amount and a unit (`7d`, `-2h`) and the unit is kept as it
was written. Spans move an instant, given in seconds since the beginning of 1970 (UTC).
-/

namespace ForgeBoard

open Text

/-- The units of a time span. -/
inductive TimeUnit where
  | minute
  | hour
  | day
  | week
  deriving DecidableEq

namespace TimeUnit

/-- The letter that follows the amount. -/
def letter : TimeUnit → Char
  | minute => 'm'
  | hour => 'h'
  | day => 'd'
  | week => 'w'

def ofLetter? (c : Char) : Option TimeUnit :=
  if c == 'm' then some minute
  else if c == 'h' then some hour
  else if c == 'd' then some day
  else if c == 'w' then some week
  else none

def seconds : TimeUnit → Int
  | minute => 60
  | hour => 3600
  | day => 86400
  | week => 604800

end TimeUnit

/-- A signed number of units. -/
structure TimeSpan where
  amount : Int64
  unit : TimeUnit
  deriving DecidableEq

namespace TimeSpan

/-- The longest span in seconds: the whole seconds of 2^63 - 1 milliseconds. -/
def maxSeconds : Int := 9223372036854775

/-- The same span backwards. The least amount has no opposite and goes to the greatest one. -/
def negated (span : TimeSpan) : TimeSpan :=
  { span with
    amount := if span.amount = Int64.minValue then Int64.maxValue else -span.amount }

/-- The length in seconds, unless it is longer than `maxSeconds` either way. -/
def seconds? (span : TimeSpan) : Option Int :=
  let s := span.amount.toInt * span.unit.seconds
  if -maxSeconds ≤ s ∧ s ≤ maxSeconds then some s else none

/-- The written form: the amount and the letter of the unit. -/
def chars (span : TimeSpan) : List Char :=
  signedDigits span.amount.toInt ++ [span.unit.letter]

/-- The written form: the amount and the letter of the unit. -/
def text (span : TimeSpan) : String :=
  String.ofList span.chars

/-- Reads the written form. -/
def ofChars? (cs : List Char) : Option TimeSpan :=
  cs.getLast?.bind fun letter =>
    (TimeUnit.ofLetter? letter).bind fun unit =>
      (readInt64? cs.dropLast).map fun amount => ⟨amount, unit⟩

end TimeSpan

/-- The day number of 1 January 1970. -/
def epochDay : Int := 719162

/-- The day of an instant. -/
def Date.ofSeconds (instant : Int) : Date :=
  Date.ofDayNumber (instant / 86400 + epochDay)

/-- The day of the instant that lies a span after `now`, if span and day are in range. -/
def Date.after? (now : Int) (span : TimeSpan) : Option Date :=
  span.seconds?.bind fun s =>
    let day := Date.ofSeconds (now + s)
    if day.inRange then some day else none

end ForgeBoard
