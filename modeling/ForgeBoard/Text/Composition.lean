import ForgeBoard.Text.Composition.Table
import ForgeBoard.Text.Mark

/-!
# Composed text

Normalization form C: one way of writing among those that look the same. Every character is taken
apart, the marks that follow a character are put in the order of their classes, and what belongs
together is put together again.
-/

namespace ForgeBoard.Text

/-! ## Syllables of Hangul -/

/-- The letters of a syllable. -/
def splitSyllable? (c : Char) : Option (List Char) :=
  let n := c.toNat
  if 0xac00 ≤ n ∧ n ≤ 0xd7a3 then
    let i := n - 0xac00
    let vowelled := [Char.ofNat (0x1100 + i / 588), Char.ofNat (0x1161 + i % 588 / 28)]
    some (if i % 28 = 0 then vowelled else vowelled ++ [Char.ofNat (0x11a7 + i % 28)])
  else none

/-- The syllable of two letters, or of a syllable that ends with a vowel and a final letter. -/
def joinSyllable? (a b : Char) : Option Char :=
  let m := a.toNat
  let n := b.toNat
  if 0x1100 ≤ m ∧ m ≤ 0x1112 ∧ 0x1161 ≤ n ∧ n ≤ 0x1175 then
    some (Char.ofNat (0xac00 + ((m - 0x1100) * 21 + (n - 0x1161)) * 28))
  else if 0xac00 ≤ m ∧ m ≤ 0xd7a3 ∧ (m - 0xac00) % 28 = 0 ∧ 0x11a8 ≤ n ∧ n ≤ 0x11c2 then
    some (Char.ofNat (m + (n - 0x11a7)))
  else none

/-! ## Taking apart -/

/-- What a character is made of, as far as it goes. -/
def decompose (c : Char) : List Char :=
  if c.toNat < 128 then [c]
  else
    match splitSyllable? c with
    | some letters => letters
    | none => ((composites.lookup c).or (unrecomposed.lookup c)).getD [c]

/-- Puts a character before others, behind the marks there that come before it. -/
def placeMark (c : Char) : List Char → List Char
  | [] => [c]
  | d :: rest =>
    if 0 < combiningClass d ∧ combiningClass d < combiningClass c then d :: placeMark c rest
    else c :: d :: rest

/-- Neighbouring marks in the order of their classes. -/
def orderMarks (cs : List Char) : List Char :=
  cs.foldr placeMark []

/-! ## Putting together -/

/-- The character that is made of two. -/
def joinPair? (a b : Char) : Option Char :=
  (joinSyllable? a b).or
    ((composites.find? fun entry => entry.2 == decompose a ++ [b]).map Prod.fst)

/-- Puts together what follows a character of class zero. A mark reaches the character if no mark
of the same class or a higher one stands between; `between` holds those that do, last mark
first. -/
def composeFrom (start : Char) (between : List Char) : List Char → List Char
  | [] => start :: between.reverse
  | c :: rest =>
    let reached := between.head?.all fun d => combiningClass d < combiningClass c
    match if reached then joinPair? start c else none with
    | some joined => composeFrom joined between rest
    | none =>
      if combiningClass c = 0 then start :: between.reverse ++ composeFrom c [] rest
      else composeFrom start (c :: between) rest

/-- Puts together what belongs together. Marks before all else stay. -/
def composeMarks : List Char → List Char
  | [] => []
  | c :: rest =>
    if combiningClass c = 0 then composeFrom c [] rest else c :: composeMarks rest

/-- The composed form of a text. -/
def compose (cs : List Char) : List Char :=
  composeMarks (orderMarks (cs.flatMap decompose))

end ForgeBoard.Text
