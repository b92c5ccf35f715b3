import ForgeBoard.Calendar.Timestamp
import ForgeBoard.Text.Lowercase

/-!
# Work items

Pull requests (GitLab calls them merge requests) and issues, as the dashboard shows them, whatever
forge they come from.

GitLab gives an item's full reference (`group/repo!12`) and its web address. The path of its
project is the part of the reference before the mark, or failing that the part of the address
between the host and the segment that is a single hyphen.
-/

namespace ForgeBoard

open Text

/-- The two kinds of work items. -/
inductive ItemType where
  | pullRequest
  | issue
  deriving DecidableEq

namespace ItemType

/-- The short name of the kind. -/
def name : ItemType → String
  | pullRequest => "pr"
  | issue => "issue"

/-- The long name of the kind, as messages show it. -/
def title : ItemType → String
  | pullRequest => "PullRequest"
  | issue => "Issue"

/-- The mark between the path of a project and the number of an item. -/
def mark : ItemType → Char
  | pullRequest => '!'
  | issue => '#'

end ItemType

/-- What tells a work item from all others. -/
structure ItemKey where
  instanceId : String
  repoPath : String
  number : Nat
  itemType : ItemType
  deriving DecidableEq

def ItemKey.display (k : ItemKey) : String :=
  k.instanceId ++ "/" ++ k.repoPath ++ k.itemType.mark.toString ++
    String.ofList (digits k.number)

/-- The state of a work item. -/
inductive ItemState where
  | opened
  | closed
  | merged
  deriving DecidableEq

namespace ItemState

def name : ItemState → String
  | opened => "OPEN"
  | closed => "CLOSED"
  | merged => "MERGED"

/-- The state of a merge request from GitLab's word for it. -/
def ofMergeRequest (word : String) : ItemState :=
  if sameAsciiCase word "merged" then merged
  else if sameAsciiCase word "closed" then closed
  else opened

/-- The state of an issue from GitLab's word for it. -/
def ofIssue (word : String) : ItemState :=
  if sameAsciiCase word "closed" then closed else opened

end ItemState

/-- What all work items have. -/
structure WorkItem where
  key : ItemKey
  title : String
  state : ItemState
  url : String
  repo : String
  author : String
  assignees : List String
  labels : List String
  commentCount : Nat
  createdAt : Timestamp
  updatedAt : Timestamp
  deriving DecidableEq

/-- An issue has nothing beyond that. -/
structure Issue extends WorkItem
  deriving DecidableEq

/-- A pull request has branches and may be a draft. -/
structure PullRequest extends WorkItem where
  headRef : String
  baseRef : String
  isDraft : Bool
  deriving DecidableEq

/-- Items that were fetched, and how many there are in all by the forge's account. -/
structure Page (α : Type) where
  items : List α
  total : Nat

/-! ## Project paths of GitLab items -/

/-- The text before and after the first occurrence of `separator`. -/
def splitFirst (separator : List Char) : List Char → Option (List Char × List Char)
  | [] => if separator.isEmpty then some ([], []) else none
  | c :: cs =>
    if separator.isPrefixOf (c :: cs) then some ([], (c :: cs).drop separator.length)
    else (splitFirst separator cs).map fun (before, after) => (c :: before, after)

/-- The part of a reference before its mark. -/
def pathOfReference? (reference : List Char) : Option (List Char) :=
  let isMark := fun c => c == '!' || c == '#'
  if reference.any isMark then
    let path := trimChars (reference.takeWhile (!isMark ·))
    if path.isEmpty then none else some path
  else none

/-- The part of a web address between the host and the segment that is a single hyphen, without
slashes at either end. -/
def pathOfAddress (address : List Char) : List Char :=
  let afterScheme := ((splitFirst "://".toList address).map (·.2)).getD address
  let path := ((splitFirst ['/'] afterScheme).map (·.2)).getD []
  match splitFirst "/-/".toList path with
  | some (project, _) => dropEndWhile (· == '/') (project.dropWhile (· == '/'))
  | none => []

/-- The path of an item's project. -/
def projectPath (reference address : String) : String :=
  String.ofList ((pathOfReference? reference.toList).getD (pathOfAddress address.toList))

end ForgeBoard
