import ForgeBoard.Data.Decode
import ForgeBoard.WorkItem.Basic

/-!
# Work items as JSON records
-/

namespace ForgeBoard

open Json

/-- Reads a timestamp written as a string. -/
def Timestamp.ofJson? (v : Json) : Option Timestamp :=
  v.string?.bind Timestamp.ofText?

def Timestamp.toJson (t : Timestamp) : Json :=
  .string t.text

def ItemType.ofJson? : Json → Option ItemType :=
  oneOf? [(ItemType.pullRequest.name, .pullRequest), (ItemType.issue.name, .issue)]

def ItemState.ofJson? : Json → Option ItemState :=
  oneOf? [(ItemState.opened.name, .opened), (ItemState.closed.name, .closed),
    (ItemState.merged.name, .merged)]

namespace ItemKey

def toJson (k : ItemKey) : Json :=
  .object [("provider_id", .string k.instanceId), ("repo_path", .string k.repoPath),
    ("number", .int k.number), ("item_type", .string k.itemType.name)]

def ofJson? (v : Json) : Option ItemKey := do
  let r ← record? false ["provider_id", "repo_path", "number", "item_type"] v
  return {
    instanceId := ← r.required "provider_id" string?
    repoPath := ← r.required "repo_path" string?
    number := ← r.required "number" nat64?
    itemType := ← r.required "item_type" ItemType.ofJson? }

end ItemKey

namespace WorkItem

/-- Reads the fields that all work items have. -/
def ofRecord? (r : Record) : Option WorkItem := do
  return {
    key := ← r.required "key" ItemKey.ofJson?
    title := ← r.required "title" string?
    state := ← r.required "state" ItemState.ofJson?
    url := ← r.required "url" string?
    repo := ← r.required "repo_name_with_owner" string?
    author := ← r.required "author" string?
    assignees := ← r.required "assignees" (list? string?)
    labels := ← r.required "labels" (list? string?)
    commentCount := ← r.required "comment_count" nat64?
    createdAt := ← r.required "created_at" Timestamp.ofJson?
    updatedAt := ← r.required "updated_at" Timestamp.ofJson? }

/-- The fields before those of the branches. -/
def headFields (w : WorkItem) : List (String × Json) :=
  [("key", w.key.toJson), ("title", .string w.title), ("state", .string w.state.name),
    ("url", .string w.url), ("repo_name_with_owner", .string w.repo),
    ("author", .string w.author), ("assignees", .strings w.assignees),
    ("labels", .strings w.labels)]

/-- The fields after those of the branches. -/
def tailFields (w : WorkItem) : List (String × Json) :=
  [("comment_count", .int w.commentCount), ("created_at", w.createdAt.toJson),
    ("updated_at", w.updatedAt.toJson)]

end WorkItem

namespace PullRequest

def toJson (p : PullRequest) : Json :=
  .object (p.toWorkItem.headFields ++
    [("head_ref", .string p.headRef), ("base_ref", .string p.baseRef),
      ("is_draft", .bool p.isDraft)] ++ p.toWorkItem.tailFields)

def ofJson? (v : Json) : Option PullRequest := do
  let r ← record? false ["key", "title", "state", "url", "repo_name_with_owner", "author",
    "assignees", "labels", "head_ref", "base_ref", "is_draft", "comment_count", "created_at",
    "updated_at"] v
  return {
    toWorkItem := ← WorkItem.ofRecord? r
    headRef := ← r.required "head_ref" string?
    baseRef := ← r.required "base_ref" string?
    isDraft := ← r.required "is_draft" bool? }

end PullRequest

namespace Issue

def toJson (i : Issue) : Json :=
  .object (i.toWorkItem.headFields ++ i.toWorkItem.tailFields)

def ofJson? (v : Json) : Option Issue := do
  let r ← record? false ["key", "title", "state", "url", "repo_name_with_owner", "author",
    "assignees", "labels", "comment_count", "created_at", "updated_at"] v
  return { toWorkItem := ← WorkItem.ofRecord? r }

end Issue

def Page.toJson {α : Type} (encode : α → Json) (p : Page α) : Json :=
  .object [("items", .array (p.items.map encode)), ("total_count", .int p.total)]

end ForgeBoard
