import ForgeBoard.Data.JsonText
import ForgeBoard.Text.Parts

/-!
# Numbers and words of TOML

Whole numbers of 64 bits in four bases, numbers with a fraction or an exponent, and the words for
truth values and for infinite values.
-/

namespace ForgeBoard.Toml

open Text

/-- Digits of a kind, in which single underscores may stand between two digits. -/
def digitRun? (isDigit : Char → Bool) (cs : List Char) : Option (List Char) :=
  let runs := pieces (· == '_') cs
  if runs.all fun p => !p.isEmpty && p.all isDigit then some runs.flatten else none

/-- The digits of a decimal number, which do not start with a zero unless it is the only one. -/
def wholeRun? (cs : List Char) : Option (List Char) :=
  (digitRun? Char.isDigit cs).bind fun ds =>
    if ds.head? = some '0' ∧ 1 < ds.length then none else some ds

/-- A whole number in 64 bits with a sign. -/
def ofWhole? (n : Int) : Option Json :=
  if Int64.minValue.toInt ≤ n ∧ n ≤ Int64.maxValue.toInt then some (.int n) else none

/-- A number in another base: digits after a zero and a letter. -/
def radix? (base : Nat) (cs : List Char) : Option Json :=
  let isDigit := fun c =>
    match hexValue? c with
    | some n => decide (n < base)
    | none => false
  (digitRun? isDigit cs).bind fun ds =>
    (baseValue? base ds).bind fun n => ofWhole? (n : Nat)

/-- The number ends with an exponent, or there is nothing to read. -/
def isExponent : List Char → Bool
  | [] => true
  | e :: cs =>
    let ds := match cs with
      | '+' :: ds => ds
      | '-' :: ds => ds
      | ds => ds
    (e == 'e' || e == 'E') && (digitRun? Char.isDigit ds).isSome

/-- The word is a number with a fraction or an exponent. -/
def isFloat (cs : List Char) : Bool :=
  let isWholeChar := fun c : Char => c.isDigit || c == '_'
  let whole := cs.takeWhile isWholeChar
  match cs.drop whole.length with
  | '.' :: rest =>
    let fraction := rest.takeWhile isWholeChar
    (wholeRun? whole).isSome && (digitRun? Char.isDigit fraction).isSome &&
      isExponent (rest.drop fraction.length)
  | rest => (wholeRun? whole).isSome && !rest.isEmpty && isExponent rest

/-- The word without its sign, and whether that is a minus. -/
def splitSign : List Char → Bool × List Char
  | '-' :: cs => (true, cs)
  | '+' :: cs => (false, cs)
  | cs => (false, cs)

/-- The value of a word that is neither a string nor a container. -/
def scalar? (word : List Char) : Option Json :=
  let (negative, body) := splitSign word
  match word with
  | '0' :: 'x' :: ds => radix? 16 ds
  | '0' :: 'o' :: ds => radix? 8 ds
  | '0' :: 'b' :: ds => radix? 2 ds
  | _ =>
    if word = "true".toList then some (.bool true)
    else if word = "false".toList then some (.bool false)
    else if body = "inf".toList ∨ body = "nan".toList then some (.real (String.ofList word))
    else
      match wholeRun? body with
      | some ds =>
        let n : Int := digitsValue ds
        ofWhole? (if negative then -n else n)
      | none => if isFloat body then some (.real (String.ofList word)) else none

def isScalarChar (c : Char) : Bool :=
  c.isAlphanum || c == '_' || c == '+' || c == '-' || c == '.'

end ForgeBoard.Toml
