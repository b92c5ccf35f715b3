import ForgeBoard.Client.Shared
import ForgeBoard.Data.JsonText
import ForgeBoard.Http.RetryAfter
import ForgeBoard.Query.Listing
import ForgeBoard.WorkItem.Basic
import ForgeBoard.WorkItem.Record

/-!
# The GitLab client

Reads go through the retry policy; each write is sent once. Ids of projects count for fifteen
minutes, ids of users for ever.
-/

namespace ForgeBoard.GitLab

open Http Json Query Text

/-! ## What GitLab sends -/

/-- The user name of an account. -/
def readAccount? (v : Json) : Option String := do
  (← record? false ["username"] v).required "username" string?

/-- The user name of the token's owner, which may be missing. -/
def readOwner? (v : Json) : Option String := do
  (← record? false ["username"] v).default "username" string? ""

/-- The full reference of an item, which may be missing. -/
def readReference? (v : Json) : Option String := do
  (← record? false ["full"] v).default "full" string? ""

/-- The id of a project; a missing one is zero. -/
def readProject? (v : Json) : Option Nat := do
  (← record? false ["id"] v).default "id" nat64? 0

/-- The id of a user. -/
def readUser? (v : Json) : Option Nat := do
  (← record? false ["id"] v).required "id" nat64?

/-- Reads the fields that merge requests and issues have in common. -/
def readItem? (instanceId : String) (itemType : ItemType) (readState : String → ItemState)
    (r : Record) : Option WorkItem := do
  let number ← r.required "iid" nat64?
  let title ← r.required "title" string?
  let state ← r.required "state" string?
  let url ← r.required "web_url" string?
  let createdAt ← r.required "created_at" Timestamp.ofJson?
  let updatedAt ← r.required "updated_at" Timestamp.ofJson?
  let labels ← r.default "labels" (list? string?) []
  let reference ← r.default "references" readReference? ""
  let author ← r.optional "author" readAccount?
  let assignees ← r.default "assignees" (list? readAccount?) []
  let commentCount ← r.default "user_notes_count" nat64? 0
  let path := projectPath reference url
  return {
    key := ⟨instanceId, path, number, itemType⟩
    title
    state := readState state
    url
    repo := path
    author := author.getD ""
    assignees
    labels
    commentCount
    createdAt
    updatedAt }

def readMergeRequest? (instanceId : String) (v : Json) : Option PullRequest := do
  let r ← record? false ["iid", "title", "state", "web_url", "created_at", "updated_at",
    "source_branch", "target_branch", "labels", "references", "author", "assignees", "draft",
    "work_in_progress", "user_notes_count"] v
  let item ← readItem? instanceId .pullRequest .ofMergeRequest r
  let headRef ← r.default "source_branch" string? ""
  let baseRef ← r.default "target_branch" string? ""
  let draft ← r.default "draft" bool? false
  let workInProgress ← r.default "work_in_progress" bool? false
  return { item with headRef, baseRef, isDraft := draft || workInProgress }

def readIssue? (instanceId : String) (v : Json) : Option Issue := do
  let r ← record? false ["iid", "title", "state", "web_url", "created_at", "updated_at", "labels",
    "references", "author", "assignees", "user_notes_count"] v
  return ⟨← readItem? instanceId .issue .ofIssue r⟩

/-! ## Requests -/

/-- The address under which an instance answers. -/
def apiBase (i : Instance) : String :=
  withScheme i.host ++ "/api/v4"

/-- The header that carries the token. -/
def tokenHeader (i : Instance) : List (String × String) :=
  match i.token with
  | some token => [("private-token", token)]
  | none => []

/-- A request for a list or an object. -/
def getRequest? (i : Instance) (endpoint : String) (params : Params) : Option Request :=
  (Request.build? .get (apiBase i ++ endpoint) (tokenHeader i) .empty).map fun r =>
    { r with url := r.url.withQuery params }

/-- A request that changes something. -/
def formRequest? (i : Instance) (method : Method) (endpoint : String)
    (form : List (String × String)) : Option Request :=
  Request.build? method (apiBase i ++ endpoint)
    (tokenHeader i ++ [("content-type", "application/x-www-form-urlencoded")]) (.form form)

/-- The number of items in all, from the header of a list; zero if it is missing or unreadable. -/
def totalOf (r : Response) : Nat :=
  let total := (r.header? "x-total").bind fun text =>
    let cs := text.toList
    readNat? (if cs.head? = some '+' then cs.tail else cs)
  match total with
  | some n => if n < UInt64.size then n else 0
  | none => 0

/-- Fails unless a response reports success. -/
def requireSuccess (r : Response) : Action Unit :=
  if r.isSuccess then pure () else throw (.status ForgeKind.gitlab.name r.status r.retryAfter?)

/-- Reads an answer, with the total of its list. -/
def get {α : Type} (settings : ClientSettings) (i : Instance) (endpoint : String)
    (params : Params) (readBody : Json → Option α) : Action (α × Nat) :=
  Action.retried settings.retry do
    let r ← Action.send (getRequest? i endpoint params)
    requireSuccess r
    match (Json.ofText? r.body).bind readBody with
    | some a => return (a, totalOf r)
    | none => throw (.http .unreadableBody)

/-- Sends a change once. -/
def sendForm (i : Instance) (method : Method) (endpoint : String)
    (form : List (String × String)) : Action Unit := do
  requireSuccess (← Action.send (formRequest? i method endpoint form))

/-! ## Reads -/

/-- The user name of the token's owner. -/
def currentUsername (settings : ClientSettings) (i : Instance) : Action String := do
  let (username, _) ← get settings i "/user" [] readOwner?
  if username.isEmpty then
    throw (.invalidResponse "gitlab current user response missing username")
  return username

/-- How long the id of a project counts: fifteen minutes. -/
def projectLifetime : Nat := 15 * 60 * 1000

/-- The id of a project by its path. An id that is found counts from the instant at which the
look-up began. -/
def projectId (settings : ClientSettings) (clock : Clock) (i : Instance) (path : String) :
    Action Nat := do
  if path.isEmpty then throw .missingProjectPath
  let key := scopedKey i.id path
  let cached ← Action.withCaches fun caches =>
    ((caches.projectIds.get clock.instant key).1,
      { caches with projectIds := (caches.projectIds.get clock.instant key).2 })
  match cached with
  | some id => return id
  | none =>
    let (id, _) ← get settings i ("/projects/" ++ encodeSegment path) [] readProject?
    if id = 0 then throw (.projectNotFound path)
    Action.withCaches fun caches =>
      ((), { caches with
        projectIds := caches.projectIds.set clock.instant key id projectLifetime })
    return id

/-- The id of a user by the user name. -/
def userId (settings : ClientSettings) (clock : Clock) (i : Instance) (username : String) :
    Action Nat := do
  let key := scopedKey i.id username
  let cached ← Action.withCaches fun caches =>
    ((caches.userIds.get clock.instant key).1,
      { caches with userIds := (caches.userIds.get clock.instant key).2 })
  match cached with
  | some id => return id
  | none =>
    let (users, _) ← get settings i "/users" [("username", username)] (list? readUser?)
    match users with
    | [] => throw (.userNotFound username)
    | id :: _ =>
      Action.withCaches fun caches =>
        ((), { caches with userIds := caches.userIds.setPermanent key id })
      return id

/-- User names without the blanks around them; blank ones are dropped, and so are repetitions
in any case. -/
def distinctNames (seen : List String) : List String → List String
  | [] => []
  | username :: rest =>
    let name := trim username
    if name.isEmpty || seen.contains (lower name) then distinctNames seen rest
    else name :: distinctNames (lower name :: seen) rest

/-- The ids of users, looked up one after the other. -/
def lookUpAll (settings : ClientSettings) (clock : Clock) (i : Instance) :
    List String → Action (List Nat)
  | [] => return []
  | name :: rest => do
    let id ← userId settings clock i name
    return id :: (← lookUpAll settings clock i rest)

/-- The ids of users, one for each distinct name, in the order of the names. -/
def userIds (settings : ClientSettings) (clock : Clock) (i : Instance) (usernames : List String) :
    Action (List Nat) :=
  lookUpAll settings clock i (distinctNames [] usernames)

/-- The parameters of a listing: items of every scope, and at most `limit` of them. -/
def listParams (params : Params) (limit : Option Nat) : Params :=
  let params := params.set "scope" "all"
  match limit with
  | some (n + 1) => params.set "per_page" (String.ofList (digits (n + 1)))
  | _ => params

/-- The items of a listing. -/
def list {α : Type} (settings : ClientSettings) (clock : Clock) (i : Instance) (resource : String)
    (listing : Listing) (limit : Option Nat) (readItem : Json → Option α) : Action (Page α) := do
  let endpoint ← match listing.project with
    | some path => do
      let id ← projectId settings clock i path
      pure ("/projects/" ++ String.ofList (digits id) ++ "/" ++ resource)
    | none => pure ("/" ++ resource)
  let (items, total) ← get settings i endpoint (listParams listing.params limit) (list? readItem)
  return ⟨items, total⟩

/-- The listing of a filter for an instance; `none` if it is routed away. -/
def prepare (settings : ClientSettings) (clock : Clock) (i : Instance) (filter : String) :
    Action (Option Listing) :=
  prepareQuery settings (currentUsername settings i)
    (fun now e => (ListingQuery.ofExpr now e).map fun q => (q.listing, q.routing))
    Listing.unrestricted clock i filter

/-- The merge requests of a filter; `none` if it is routed away. -/
def fetchMergeRequests (settings : ClientSettings) (clock : Clock) (i : Instance)
    (filter : String) (limit : Option Nat) : Action (Option (Page PullRequest)) := do
  match ← prepare settings clock i filter with
  | none => return none
  | some listing =>
    return some (← list settings clock i "merge_requests" listing limit (readMergeRequest? i.id))

/-- The issues of a filter; `none` if it is routed away. -/
def fetchIssues (settings : ClientSettings) (clock : Clock) (i : Instance) (filter : String)
    (limit : Option Nat) : Action (Option (Page Issue)) := do
  match ← prepare settings clock i filter with
  | none => return none
  | some listing => return some (← list settings clock i "issues" listing limit (readIssue? i.id))

/-! ## Writes -/

/-- A change of an item's state. -/
inductive StateEvent where
  | close
  | reopen
  deriving DecidableEq

def StateEvent.name : StateEvent → String
  | close => "close"
  | reopen => "reopen"

/-- The endpoint of an item: its project's path is one segment. -/
def itemEndpoint (k : ItemKey) : Except ClientError String :=
  if k.repoPath.isEmpty then .error .missingProjectPath
  else
    let collection := match k.itemType with
      | .pullRequest => "merge_requests"
      | .issue => "issues"
    .ok ("/projects/" ++ encodeSegment k.repoPath ++ "/" ++ collection ++ "/" ++
      String.ofList (digits k.number))

/-- Fails unless the instance supports an action. -/
def requireCapability (i : Instance) (c : Capability) (action : String) : Action Unit :=
  if i.supports c then pure () else throw (.missingCapability i.id action)

/-- Fails for issues. -/
def requirePullRequest (k : ItemKey) (action : String) : Action Unit :=
  match k.itemType with
  | .pullRequest => pure ()
  | .issue => throw (.unsupportedAction action .issue)

/-- Comments on an item. -/
def comment (i : Instance) (k : ItemKey) (body : String) : Action Unit := do
  let endpoint ← Action.ofExcept (itemEndpoint k)
  sendForm i .post (endpoint ++ "/notes") [("body", body)]

/-- Approves a merge request, after a comment if there is one that is not empty. -/
def approve (i : Instance) (k : ItemKey) (remark : Option String) : Action Unit := do
  requireCapability i .approvals "approve"
  requirePullRequest k "approve"
  match remark with
  | some text => if text.isEmpty then pure () else comment i k text
  | none => pure ()
  let endpoint ← Action.ofExcept (itemEndpoint k)
  sendForm i .post (endpoint ++ "/approve") []

/-- Merges a merge request. -/
def merge (i : Instance) (k : ItemKey) : Action Unit := do
  requireCapability i .merge "merge"
  requirePullRequest k "merge"
  let endpoint ← Action.ofExcept (itemEndpoint k)
  sendForm i .put (endpoint ++ "/merge") []

/-- Closes or reopens an item. -/
def setState (i : Instance) (k : ItemKey) (event : StateEvent) : Action Unit := do
  let endpoint ← Action.ofExcept (itemEndpoint k)
  sendForm i .put endpoint [("state_event", event.name)]

/-- Replaces the labels of an item. -/
def setLabels (i : Instance) (k : ItemKey) (labels : List String) : Action Unit := do
  requireCapability i .labels "set labels"
  let endpoint ← Action.ofExcept (itemEndpoint k)
  sendForm i .put endpoint [("labels", String.intercalate "," labels)]

/-- The form that replaces assignees; without any, it clears them. -/
def assigneeForm (ids : List Nat) : List (String × String) :=
  if ids.isEmpty then [("assignee_ids", "")]
  else ids.map fun id => ("assignee_ids[]", String.ofList (digits id))

/-- Replaces the assignees of an item. -/
def setAssignees (settings : ClientSettings) (clock : Clock) (i : Instance) (k : ItemKey)
    (usernames : List String) : Action Unit := do
  requireCapability i .assignees "set assignees"
  let endpoint ← Action.ofExcept (itemEndpoint k)
  let ids ← userIds settings clock i usernames
  sendForm i .put endpoint (assigneeForm ids)

end ForgeBoard.GitLab
