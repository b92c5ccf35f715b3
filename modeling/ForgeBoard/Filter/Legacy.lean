import ForgeBoard.Filter.Token
import ForgeBoard.Text.Parts
import ForgeBoard.Text.Quoted

/-!
# Legacy search syntax

Filters used to be search strings such as `is:open label:bug`. A colon outside quotes gives such
a text away before it is parsed. The check reads quotes and backslashes only, so it works on texts
that are no filters.
-/

namespace ForgeBoard.Filter

open Text

/-- Why a text is refused before parsing. -/
inductive LegacyFault where
  | qualifier (token : String)
  | unterminatedString
  deriving DecidableEq

namespace LegacyFault

def reason : LegacyFault → String
  | qualifier token =>
    s!"filters must use the DSL; legacy qualifier {quote token} detected"
  | unterminatedString => "filters contain an unterminated string"

def hint : LegacyFault → String
  | qualifier _ => "use \"field = value\" or \"field in [..]\" syntax"
  | unterminatedString => "close the quote or escape it with \\\""

def message (fault : LegacyFault) : String :=
  s!"{fault.reason} ({fault.hint})"

end LegacyFault

/-- Where the check stands: inside quotes or not, and after an odd number of backslashes in a
quote or not. -/
structure QuoteState where
  quoted : Bool
  escaped : Bool

namespace QuoteState

/-- The state after one more character. -/
def step (s : QuoteState) (c : Char) : QuoteState :=
  if c = '\\' then if s.quoted then { s with escaped := !s.escaped } else s
  else if c = '"' then ⟨if s.escaped then s.quoted else !s.quoted, false⟩
  else { s with escaped := false }

end QuoteState

/-- The byte offset at which the run of characters around an offset begins that are not blank:
right behind the last blank before the offset. -/
def tokenStart? (source : String) (offset : Nat) : Option Nat := do
  let before ← slice? source 0 offset
  match lastOffset? isBlank before.toList with
  | none => return 0
  | some blank =>
    let rest ← slice? source blank source.utf8ByteSize
    return blank + (rest.toList.head?.map Char.utf8Size).getD 1

/-- The byte offset at which this run ends: at the first blank from the offset on. -/
def tokenStop? (source : String) (offset : Nat) : Option Nat := do
  let rest ← slice? source offset source.utf8ByteSize
  return ((firstOffset? isBlank rest.toList).map (offset + ·)).getD source.utf8ByteSize

/-- The run of characters around a byte offset that are not blank. There is none if an offset at
which the source is cut is inside of a character. -/
def tokenAround? (source : String) (offset : Nat) : Option String := do
  let start ← tokenStart? source offset
  let stop ← tokenStop? source offset
  return trim (← slice? source start stop)

/-- Walks through a text and stops at the first colon outside quotes. What has been walked through
is in `before`, nearest character first. -/
def legacyScan (state : QuoteState) (before : List Char) : List Char → Except LegacyFault Unit
  | [] => if state.quoted then .error .unterminatedString else .ok ()
  | c :: rest =>
    if c = ':' ∧ state.quoted = false then
      let source := String.ofList (before.reverse ++ c :: rest)
      .error (.qualifier ((tokenAround? source (byteLength before)).getD ""))
    else legacyScan (state.step c) (c :: before) rest

/-- Refuses texts in the legacy syntax and texts that end inside quotes. -/
def checkLegacy (filter : String) : Except LegacyFault Unit :=
  if isBlankText filter then .ok () else legacyScan ⟨false, false⟩ [] filter.toList

end ForgeBoard.Filter
