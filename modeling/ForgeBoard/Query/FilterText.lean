import ForgeBoard.Filter.Legacy
import ForgeBoard.Filter.Parser
import ForgeBoard.Query.Operand

/-!
# Filter texts

A section of the dashboard states its filter as a text. A blank text is no filter at all.
-/

namespace ForgeBoard.Query

open ForgeBoard.Filter Text

/-- Why a filter text has no query. -/
inductive FilterError where
  | legacy (fault : LegacyFault)
  | parsing (e : ParseError)
  | query (e : QueryError)
  deriving DecidableEq

namespace FilterError

def message : FilterError → String
  | legacy fault => s!"invalid filter: {fault.message}"
  | parsing e => s!"invalid filter: {e.message}"
  | query e => e.message

/-- The byte offset in the filter text, where there is one. -/
def offset? : FilterError → Option Nat
  | parsing e => some e.offset
  | _ => none

end FilterError

/-- Reads a filter text, `none` for a blank one. On demand the legacy syntax is refused first. -/
def readFilter (refuseLegacy : Bool) (text : String) : Except FilterError (Option Expr) := do
  if refuseLegacy then
    if let .error fault := checkLegacy text then throw (.legacy fault)
  if isBlankText text then return none
  match parse text with
  | .ok e => return some e
  | .error e => throw (.parsing e)

end ForgeBoard.Query
