/-!
# Parts of a text

A text divided at marks, cut at byte offsets, and freed of the blanks at its ends. Blanks are white
space in the sense of the Unicode property `White_Space`; the words of a text are its pieces between
blanks.
-/

namespace ForgeBoard.Text

/-! ## Pieces between marks -/

/-- The pieces between marks, empty ones included: `n` marks leave `n + 1` pieces. -/
def pieces (isMark : Char → Bool) : List Char → List (List Char)
  | [] => [[]]
  | c :: cs =>
    if isMark c then [] :: pieces isMark cs
    else
      match pieces isMark cs with
      | piece :: more => (c :: piece) :: more
      | [] => [[c]]

/-- The pieces with a mark between any two of them. -/
def joinPieces (mark : Char) : List (List Char) → List Char
  | [] => []
  | [piece] => piece
  | piece :: more => piece ++ mark :: joinPieces mark more

/-! ## Blanks -/

/-- A white-space character. -/
def isBlank (c : Char) : Bool :=
  let n := c.toNat
  (decide (9 ≤ n) && decide (n ≤ 13)) || n == 0x20 || n == 0x85 || n == 0xa0 || n == 0x1680 ||
    (decide (0x2000 ≤ n) && decide (n ≤ 0x200a)) || n == 0x2028 || n == 0x2029 || n == 0x202f ||
    n == 0x205f || n == 0x3000

/-- Drops the longest end of the list whose elements all satisfy `p`. -/
def dropEndWhile {α : Type} (p : α → Bool) (xs : List α) : List α :=
  (xs.reverse.dropWhile p).reverse

/-- The characters without the blanks at either end. -/
def trimChars (cs : List Char) : List Char :=
  dropEndWhile isBlank (cs.dropWhile isBlank)

/-- The text without the blanks at either end. -/
def trim (s : String) : String :=
  String.ofList (trimChars s.toList)

/-- The text has no character but blanks. -/
def isBlankText (s : String) : Bool :=
  s.toList.all isBlank

/-- The words of a text: its longest runs of characters that are not blank. -/
def words (s : String) : List String :=
  ((pieces isBlank s.toList).filter (!·.isEmpty)).map String.ofList

/-- Whether `part` occurs in the list. -/
def occursIn (part : List Char) : List Char → Bool
  | [] => part.isEmpty
  | c :: cs => part.isPrefixOf (c :: cs) || occursIn part cs

/-! ## Parts by byte offsets

Offsets count bytes of the UTF-8 form. A text can be cut only between two characters, so a part
that begins or ends inside of one does not exist. -/

/-- The text between two byte offsets, if they are in order and neither is inside of a
character. -/
def slice? (source : String) (start stop : Nat) : Option String :=
  if String.Pos.Raw.IsValid source ⟨start⟩ ∧ String.Pos.Raw.IsValid source ⟨stop⟩ ∧
      start ≤ stop then
    some (String.Pos.Raw.extract source ⟨start⟩ ⟨stop⟩)
  else none

/-- The byte offset of the first character with `p`. -/
def firstOffset? (p : Char → Bool) : List Char → Option Nat
  | [] => none
  | c :: cs => if p c then some 0 else (firstOffset? p cs).map (c.utf8Size + ·)

/-- The byte offset of the last character with `p`. -/
def lastOffset? (p : Char → Bool) : List Char → Option Nat
  | [] => none
  | c :: cs =>
    match lastOffset? p cs with
    | some offset => some (c.utf8Size + offset)
    | none => if p c then some 0 else none

end ForgeBoard.Text
