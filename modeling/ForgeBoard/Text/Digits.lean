/-!
# Numbers and bytes in digits

Whole numbers in decimal and hexadecimal digits, and bytes in the two forms in which web addresses
and headers carry them: percent forms and base 64.
-/

namespace ForgeBoard.Text

/-! ## Decimal numbers -/

/-- The decimal digits of a number. -/
def digits (n : Nat) : List Char :=
  Nat.toDigits 10 n

/-- The digits with a minus sign in front when the number is negative. -/
def signedDigits (n : Int) : List Char :=
  if n < 0 then '-' :: digits n.natAbs else digits n.natAbs

/-- The digits, with zeros in front up to `width` characters. -/
def paddedDigits (width n : Nat) : List Char :=
  List.replicate (width - (digits n).length) '0' ++ digits n

/-- The value of a list of decimal digits. -/
def digitsValue (cs : List Char) : Nat :=
  cs.foldl (fun n c => 10 * n + (c.toNat - '0'.toNat)) 0

/-- Reads a number of digits only. -/
def readNat? (cs : List Char) : Option Nat :=
  if !cs.isEmpty && cs.all Char.isDigit then some (digitsValue cs) else none

/-- Reads digits after an optional minus sign. -/
def readInt? : List Char → Option Int
  | '-' :: cs => (readNat? cs).map fun n => -(n : Int)
  | cs => (readNat? cs).map fun n => (n : Int)

/-- Reads a number that fits 64 bits with a sign. -/
def readInt64? (cs : List Char) : Option Int64 :=
  (readInt? cs).bind fun n =>
    if Int64.minValue.toInt ≤ n ∧ n ≤ Int64.maxValue.toInt then some (Int64.ofInt n) else none

/-! ## Hexadecimal digits -/

/-- A hexadecimal digit in upper case. -/
def hexDigit (n : Nat) : Char :=
  if n < 10 then Char.ofNat ('0'.toNat + n) else Char.ofNat ('A'.toNat + (n - 10))

/-- The value of a hexadecimal digit. -/
def hexValue? (c : Char) : Option Nat :=
  if c.isDigit then some (c.toNat - '0'.toNat)
  else if 'a' ≤ c ∧ c ≤ 'f' then some (c.toNat - 'a'.toNat + 10)
  else if 'A' ≤ c ∧ c ≤ 'F' then some (c.toNat - 'A'.toNat + 10)
  else none

/-- The value of digits in a base up to sixteen; no digits are zero. -/
def baseValue? (base : Nat) (cs : List Char) : Option Nat :=
  cs.foldlM (fun n c => (hexValue? c).bind fun d =>
    if d < base then some (base * n + d) else none) 0

/-- The digits of a number in lower case. -/
def hexDigits (n : Nat) : List Char :=
  Nat.toDigits 16 n

/-! ## Percent encoding

In a path segment every byte other than an ASCII letter, a digit or one of `-_.~` becomes `%XX`. In
a form or a query `~` is encoded as well, `*` is not, and a space becomes a plus sign. Reading takes
any byte in its percent form. -/

/-- A percent sign and the two digits of the byte. -/
def percentByte (b : UInt8) : List Char :=
  ['%', hexDigit (b.toNat / 16), hexDigit (b.toNat % 16)]

/-- The characters that a path segment keeps. -/
def isUnreserved (c : Char) : Bool :=
  c.isAlphanum || c == '-' || c == '_' || c == '.' || c == '~'

/-- The bytes of the character, each in its percent form. -/
def percentChar (c : Char) : List Char :=
  (String.utf8EncodeChar c).flatMap percentByte

/-- A character in a path segment. -/
def encodeSegmentChar (c : Char) : List Char :=
  if isUnreserved c then [c] else percentChar c

/-- A text as one path segment. -/
def encodeSegment (s : String) : String :=
  String.ofList (s.toList.flatMap encodeSegmentChar)

/-- A character in a form or a query. -/
def encodeFormChar (c : Char) : List Char :=
  if c == ' ' then ['+']
  else if c.isAlphanum || c == '*' || c == '-' || c == '.' || c == '_' then [c]
  else percentChar c

/-- A text in a form or a query. -/
def encodeFormText (s : String) : String :=
  String.ofList (s.toList.flatMap encodeFormChar)

/-- Pairs of a name and a value as the text of a form or a query. -/
def encodeForm (pairs : List (String × String)) : String :=
  String.intercalate "&" (pairs.map fun p => encodeFormText p.1 ++ "=" ++ encodeFormText p.2)

/-- The bytes of a text in which some bytes stand in their percent form. A percent sign that two
digits do not follow stands for itself. -/
def percentBytes : List Char → List UInt8
  | [] => []
  | '%' :: a :: b :: rest =>
    match baseValue? 16 [a, b] with
    | some n => UInt8.ofNat n :: percentBytes rest
    | none => String.utf8EncodeChar '%' ++ percentBytes (a :: b :: rest)
  | c :: rest => String.utf8EncodeChar c ++ percentBytes rest

/-- The text that a text with percent forms stands for, if its bytes are text. -/
def decodePercent? (cs : List Char) : Option (List Char) :=
  (String.fromUTF8? ⟨(percentBytes cs).toArray⟩).map String.toList

/-! ## Base 64

Bytes in letters, digits, `+` and `/`: four characters for three bytes. The last group is filled up
with `=`. -/

/-- The character of a value below 64. -/
def base64Digit (n : Nat) : Char :=
  if n < 26 then Char.ofNat ('A'.toNat + n)
  else if n < 52 then Char.ofNat ('a'.toNat + (n - 26))
  else if n < 62 then Char.ofNat ('0'.toNat + (n - 52))
  else if n = 62 then '+'
  else '/'

/-- The characters of up to three bytes as one number of 24 bits. -/
def base64Group (a b c : UInt8) : List Char :=
  let n := (a.toNat * 256 + b.toNat) * 256 + c.toNat
  [n / 262144, n / 4096 % 64, n / 64 % 64, n % 64].map base64Digit

/-- Bytes in base 64. -/
def encodeBase64 : List UInt8 → List Char
  | a :: b :: c :: rest => base64Group a b c ++ encodeBase64 rest
  | [a, b] => (base64Group a b 0).take 3 ++ ['=']
  | [a] => (base64Group a 0 0).take 2 ++ ['=', '=']
  | [] => []

end ForgeBoard.Text
