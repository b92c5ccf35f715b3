/-!
# Punycode

The encoding of RFC 3492, which writes any text in ASCII letters, digits and hyphens. The ASCII
characters come first and a hyphen after them. Then the others follow in the order of their code
points, each as the number of steps from the one before: a step goes to the next place in the text,
and from the last place to the first one of the next code point. A number is written in digits of
base 36, the last of which is recognized by its being small; what counts as small adapts to the
numbers so far.
-/

namespace ForgeBoard.Text.Punycode

/-- The digit of a value below 36. -/
def digit (n : Nat) : Char :=
  if n < 26 then Char.ofNat ('a'.toNat + n) else Char.ofNat ('0'.toNat + (n - 26))

/-- The value of a digit. -/
def digitValue? (c : Char) : Option Nat :=
  if c.isDigit then some (c.toNat - '0'.toNat + 26)
  else if c.isAlpha then some (c.toLower.toNat - 'a'.toNat)
  else none

/-- The bias of the first number. -/
def initialBias : Nat := 72

/-- The value below which a digit is the last one. The place of the digit is a multiple of 36. -/
def threshold (bias place : Nat) : Nat :=
  if place ≤ bias then 1 else if bias + 26 ≤ place then 26 else place - bias

theorem threshold_pos (bias place : Nat) : 0 < threshold bias place := by
  unfold threshold
  split
  · omega
  · split <;> omega

/-- The bias that goes with numbers of about this size. -/
def scaledBias (places delta : Nat) : Nat :=
  if 455 < delta then scaledBias (places + 36) (delta / 35)
  else places + 36 * delta / (delta + 38)
termination_by delta
decreasing_by omega

/-- The bias after a number, where the text has `count` characters by then. -/
def nextBias (delta count : Nat) (isFirst : Bool) : Nat :=
  let delta := if isFirst then delta / 700 else delta / 2
  scaledBias 0 (delta + delta / count)

/-! ## Writing -/

/-- The digits of a number from a place on. -/
def writeNumber (bias place n : Nat) : List Char :=
  let t := threshold bias place
  if n < t then [digit n]
  else digit (t + (n - t) % (36 - t)) :: writeNumber bias (place + 36) ((n - t) / (36 - t))
termination_by n
decreasing_by
  have := threshold_pos bias place
  have := Nat.div_le_self (n - threshold bias place) (36 - threshold bias place)
  omega

/-- How far a text is written: the steps since the last number, the bias, the number of characters
that are written, and the digits, last ones first. -/
structure Writer where
  steps : Nat
  bias : Nat
  count : Nat
  digits : List (List Char)

/-- Passes a place of the text on the way through the places for one code point. -/
def Writer.pass (basicCount code : Nat) (w : Writer) (c : Char) : Writer :=
  if c.toNat < code then { w with steps := w.steps + 1 }
  else if c.toNat = code then
    ⟨0, nextBias w.steps (w.count + 1) (w.count = basicCount), w.count + 1,
      writeNumber w.bias 36 w.steps :: w.digits⟩
  else w

/-- Writes the characters with the code points that are listed, in rising order; `next` is the
first code point that has not been passed. -/
def writeCodes (cs : List Char) (basicCount next : Nat) (w : Writer) : List Nat → Writer
  | [] => w
  | code :: codes =>
    let start := { w with steps := w.steps + (code - next) * (w.count + 1) }
    let passed := cs.foldl (Writer.pass basicCount code) start
    writeCodes cs basicCount (code + 1) { passed with steps := passed.steps + 1 } codes

/-- Adds a code point to others in rising order, unless it is among them. -/
def insertCode (code : Nat) : List Nat → List Nat
  | [] => [code]
  | other :: codes =>
    if code < other then code :: other :: codes
    else if code = other then other :: codes
    else other :: insertCode code codes

/-- A text in ASCII. -/
def encode (cs : List Char) : List Char :=
  let basic := cs.filter (·.toNat < 128)
  let codes := (cs.filter (128 ≤ ·.toNat)).foldr (fun c => insertCode c.toNat) []
  let w := writeCodes cs basic.length 128 ⟨0, initialBias, basic.length, []⟩ codes
  basic ++ (if basic.isEmpty then [] else ['-']) ++ w.digits.reverse.flatten

/-! ## Reading -/

/-- Numbers have 32 bits. -/
def limit : Nat := 4294967296

/-- Reads a number from a place on and adds it to `sum`; also what follows it. -/
def readNumber? (bias place weight sum : Nat) : List Char → Option (Nat × List Char)
  | [] => none
  | c :: rest =>
    match digitValue? c with
    | none => none
    | some d =>
      let t := threshold bias place
      let sum := sum + d * weight
      if limit ≤ sum then none
      else if d < t then some (sum, rest)
      else if limit ≤ weight * (36 - t) then none
      else readNumber? bias (place + 36) (weight * (36 - t)) sum rest

theorem length_lt_of_readNumber? {bias place weight sum n : Nat} {cs rest : List Char}
    (h : readNumber? bias place weight sum cs = some (n, rest)) : rest.length < cs.length := by
  induction cs generalizing place weight sum with
  | nil => simp [readNumber?] at h
  | cons c cs ih =>
    rw [readNumber?] at h
    split at h
    · simp at h
    · simp only at h
      split at h
      · simp at h
      · split at h
        · simp only [Option.some.injEq, Prod.mk.injEq] at h
          simp [h.2]
        · split at h
          · simp at h
          · exact Nat.lt_succ_of_lt (ih h)

/-- Reads the characters above ASCII into a text: `past` is the place that the last one went to and
one more, `code` its code point. -/
def readCodes? (bias code past : Nat) (text digits : List Char) : Option (List Char) :=
  match digits with
  | [] => some text
  | c :: cs =>
    match _h : readNumber? bias 36 1 past (c :: cs) with
    | none => none
    | some (n, rest) =>
      let count := text.length + 1
      let code := code + n / count
      if code.isValidChar then
        let place := n % count
        readCodes? (nextBias (n - past) count (past = 0)) code (place + 1)
          (text.take place ++ Char.ofNat code :: text.drop place) rest
      else none
termination_by digits.length
decreasing_by exact length_lt_of_readNumber? _h

/-- The ASCII characters of an encoded text, and the digits. -/
def splitBasic (cs : List Char) : List Char × List Char :=
  let digits := (cs.reverse.takeWhile (· ≠ '-')).reverse
  let basic := cs.take (cs.length - digits.length - 1)
  if basic.isEmpty then ([], cs) else (basic, digits)

/-- The text that is written in ASCII. -/
def decode? (cs : List Char) : Option (List Char) :=
  readCodes? initialBias 128 0 (splitBasic cs).1 (splitBasic cs).2

end ForgeBoard.Text.Punycode
