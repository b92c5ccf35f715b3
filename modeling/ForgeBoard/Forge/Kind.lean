import ForgeBoard.Text.Lowercase
import ForgeBoard.Text.Parts

/-!
# Kinds of forges and what they can do

A forge is a service that hosts repositories. There are two kinds, and each supports a fixed set
of actions.
-/

namespace ForgeBoard

open Text

/-- The kinds of forges. -/
inductive ForgeKind where
  | github
  | gitlab
  deriving DecidableEq

/-- Why a text names no forge. -/
inductive ForgeError where
  | unknownKind (kind : String)
  | emptyHost
  deriving DecidableEq

def ForgeError.message : ForgeError → String
  | unknownKind kind => s!"Unknown provider kind: {kind}"
  | emptyHost => "Provider host must not be empty"

namespace ForgeKind

/-- The name of the kind, as ids and messages show it. -/
def name : ForgeKind → String
  | github => "github"
  | gitlab => "gitlab"

/-- The name of the kind with the capitals of its own spelling. -/
def title : ForgeKind → String
  | github => "GitHub"
  | gitlab => "GitLab"

/-- Reads a kind, whatever its case and the blanks around it. -/
def ofText (s : String) : Except ForgeError ForgeKind :=
  let word := asciiLower (trim s)
  if word = "github" then .ok github
  else if word = "gitlab" then .ok gitlab
  else .error (.unknownKind word)

end ForgeKind

/-- An action that not every forge supports. -/
inductive Capability where
  | approvals
  | merge
  | ready
  | updateBranch
  | checks
  | reviews
  | files
  | lines
  | labels
  | assignees
  | reactions
  | checkout
  | diff
  deriving DecidableEq

namespace Capability

/-- All capabilities, in the order of their bits. -/
def all : List Capability :=
  [approvals, merge, ready, updateBranch, checks, reviews, files, lines, labels, assignees,
    reactions, checkout, diff]

/-- The position of the capability's bit. -/
def bit : Capability → Nat
  | approvals => 0
  | merge => 1
  | ready => 2
  | updateBranch => 3
  | checks => 4
  | reviews => 5
  | files => 6
  | lines => 7
  | labels => 8
  | assignees => 9
  | reactions => 10
  | checkout => 11
  | diff => 12

def name : Capability → String
  | approvals => "APPROVALS"
  | merge => "MERGE"
  | ready => "READY"
  | updateBranch => "UPDATE_BRANCH"
  | checks => "CHECKS"
  | reviews => "REVIEWS"
  | files => "FILES"
  | lines => "LINES"
  | labels => "LABELS"
  | assignees => "ASSIGNEES"
  | reactions => "REACTIONS"
  | checkout => "CHECKOUT"
  | diff => "DIFF"

end Capability

/-- A set of capabilities as the number whose bits they are. -/
structure Capabilities where
  bits : Nat
  deriving DecidableEq

namespace Capabilities

def ofList (cs : List Capability) : Capabilities :=
  ⟨cs.foldl (fun bits c => bits ||| (1 <<< c.bit)) 0⟩

def has (set : Capabilities) (c : Capability) : Bool :=
  set.bits.testBit c.bit

/-- The members, in the order of their bits. -/
def toList (set : Capabilities) : List Capability :=
  Capability.all.filter set.has

/-- The set without the bits of `bits`. -/
def without (set : Capabilities) (bits : Nat) : Capabilities :=
  ofList (set.toList.filter fun c => !bits.testBit c.bit)

/-- What a kind of forge supports. -/
def ofKind : ForgeKind → Capabilities
  | .gitlab => ofList [.approvals, .merge, .labels, .assignees]
  | .github => ofList Capability.all

/-- The set with the given bits, unless one of them belongs to no capability. -/
def ofBits? (bits : Nat) : Option Capabilities :=
  if bits < 1 <<< Capability.all.length then some ⟨bits⟩ else none

/-- How the set is shown: its members with bars between them. -/
def display (set : Capabilities) : String :=
  if set.bits = 0 then "Capabilities(0x0)"
  else "Capabilities(" ++ String.intercalate " | " (set.toList.map Capability.name) ++ ")"

/-- The complaint about bits that belong to no capability, which are shown in hexadecimal with
four digits at least. -/
def invalidBits (bits : Nat) : String :=
  let hex := Nat.toDigits 16 bits
  let zeros := List.replicate (4 - hex.length) '0'
  "invalid Capabilities bits: 0x" ++ String.ofList (zeros ++ hex)

end Capabilities

end ForgeBoard
