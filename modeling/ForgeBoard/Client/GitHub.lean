import ForgeBoard.Client.Shared
import ForgeBoard.Data.JsonText
import ForgeBoard.Http.RetryAfter
import ForgeBoard.Query.Search
import ForgeBoard.WorkItem.Record

/-!
# The GitHub client

GitHub answers one search for pull requests and issues alike, under GraphQL. So the search string
has to name the type of the items, and an answer may hold items of other types, which are left out.
-/

namespace ForgeBoard.GitHub

open Http Json Query Text

/-! ## What is sent -/

/-- The number of items asked for when no limit is given. -/
def defaultLimit : Nat := 20

/-- The greatest number of items that one search gives. -/
def maxLimit : Nat := 100

/-- The document that asks for the login of the token's owner. -/
def viewerDocument : String :=
  "query UserCurrent \x7b viewer \x7b login \x7d \x7d"

/-- The fields asked for on every work item. -/
def itemFields : List String :=
  ["        repository \x7b nameWithOwner \x7d",
    "        author \x7b login \x7d",
    "        assignees(first: 10) \x7b nodes \x7b login \x7d \x7d",
    "        labels(first: 20) \x7b nodes \x7b name \x7d \x7d",
    "        comments \x7b totalCount \x7d",
    "      \x7d"]

/-- The document that searches for work items. -/
def searchDocument : String :=
  String.intercalate "\n" (
    ["query Search($query: String!, $limit: Int!) \x7b",
      "  search(query: $query, type: ISSUE, first: $limit) \x7b",
      "    issueCount",
      "    nodes \x7b",
      "      __typename",
      "      ... on PullRequest \x7b",
      "        number title state url createdAt updatedAt isDraft",
      "        headRefName baseRefName"] ++ itemFields ++
    ["      ... on Issue \x7b",
      "        number title state url createdAt updatedAt"] ++ itemFields ++
    ["    \x7d", "  \x7d", "\x7d"])

/-- The address under which an instance answers. -/
def endpoint (i : Instance) : String :=
  let host := bareHost i.host
  if sameAsciiCase host "github.com" then "https://api.github.com/graphql"
  else withScheme host ++ "/api/graphql"

/-- The request for a document with arguments for its variables. -/
def request? (i : Instance) (token document : String) (arguments : Json) : Option Request :=
  Request.build? .post (endpoint i)
    [("authorization", "Bearer " ++ token), ("content-type", "application/json")]
    (.json (.object [("query", .string document), ("variables", arguments)]))

/-! ## What GitHub sends -/

/-- The login of an account. -/
def readAccount? (v : Json) : Option String := do
  (← record? false ["login"] v).required "login" string?

/-- The name of a label. -/
def readLabel? (v : Json) : Option String := do
  (← record? false ["name"] v).required "name" string?

/-- The nodes of a connection, which may be missing. -/
def readNodes? {α : Type} (read : Json → Option α) (v : Json) : Option (List α) := do
  (← record? false ["nodes"] v).default "nodes" (list? read) []

/-- The name of a repository with that of its owner. -/
def readRepository? (v : Json) : Option String := do
  (← record? false ["nameWithOwner"] v).required "nameWithOwner" string?

/-- The number of comments. -/
def readCount? (v : Json) : Option Nat := do
  (← record? false ["totalCount"] v).required "totalCount" nat64?

/-- Reads the fields that pull requests and issues have in common. -/
def readItem? (instanceId : String) (itemType : ItemType) (r : Record) : Option WorkItem := do
  let number ← r.required "number" nat64?
  let title ← r.required "title" string?
  let state ← r.required "state" ItemState.ofJson?
  let url ← r.required "url" string?
  let createdAt ← r.required "createdAt" Timestamp.ofJson?
  let updatedAt ← r.required "updatedAt" Timestamp.ofJson?
  let repo ← r.required "repository" readRepository?
  let author ← r.optional "author" readAccount?
  let assignees ← r.required "assignees" (readNodes? readAccount?)
  let labels ← r.required "labels" (readNodes? readLabel?)
  let commentCount ← r.required "comments" readCount?
  return {
    key := ⟨instanceId, repo, number, itemType⟩
    title
    state
    url
    repo
    author := author.getD ""
    assignees
    labels
    commentCount
    createdAt
    updatedAt }

/-- One result of a search. -/
inductive SearchNode where
  | pullRequest (p : PullRequest)
  | issue (i : Issue)
  | other

def readPullRequest? (instanceId : String) (v : Json) : Option PullRequest := do
  let r ← record? false ["number", "title", "state", "url", "createdAt", "updatedAt", "isDraft",
    "headRefName", "baseRefName", "repository", "author", "assignees", "labels", "comments"] v
  let item ← readItem? instanceId .pullRequest r
  let isDraft ← r.default "isDraft" bool? false
  let headRef ← r.default "headRefName" string? ""
  let baseRef ← r.default "baseRefName" string? ""
  return { item with headRef, baseRef, isDraft }

def readIssue? (instanceId : String) (v : Json) : Option Issue := do
  let r ← record? false ["number", "title", "state", "url", "createdAt", "updatedAt",
    "repository", "author", "assignees", "labels", "comments"] v
  return ⟨← readItem? instanceId .issue r⟩

/-- Reads a result by the name of its type. -/
def readTyped? (instanceId name : String) (v : Json) : Option SearchNode :=
  if name = "PullRequest" then (readPullRequest? instanceId v).map .pullRequest
  else if name = "Issue" then (readIssue? instanceId v).map .issue
  else some .other

/-- Reads a result. The name of its type is a field of the object, or the first item of an
array. -/
def readNode? (instanceId : String) : Json → Option SearchNode
  | .object fields =>
    match valuesOf "__typename" fields with
    | [.string name] =>
      readTyped? instanceId name (.object (fields.filter (·.1 != "__typename")))
    | _ => none
  | .array (.string name :: items) =>
    match readTyped? instanceId name (.array items) with
    | some .other => if items.isEmpty then some .other else none
    | node => node
  | _ => none

/-- The results of a search and how many there are in all. -/
structure SearchPage where
  total : Nat
  nodes : List SearchNode

def readSearchPage? (instanceId : String) (v : Json) : Option SearchPage := do
  let r ← record? false ["issueCount", "nodes"] v
  return ⟨← r.required "issueCount" nat64?,
    ← r.default "nodes" (list? (readNode? instanceId)) []⟩

def readSearchData? (instanceId : String) (v : Json) : Option SearchPage := do
  (← record? false ["search"] v).required "search" (readSearchPage? instanceId)

/-- The login of the token's owner, which may be missing. -/
def readViewer? (v : Json) : Option String := do
  (← record? false ["login"] v).default "login" string? ""

def readViewerData? (v : Json) : Option String := do
  (← record? false ["viewer"] v).required "viewer" readViewer?

def readErrorMessage? (v : Json) : Option String := do
  (← record? false ["message"] v).required "message" string?

/-- An answer: its data, if there are any, and the messages of its errors. -/
structure Answer (α : Type) where
  data : Option α
  errors : List String

def readAnswer? {α : Type} (read : Json → Option α) (v : Json) : Option (Answer α) := do
  let r ← record? false ["data", "errors"] v
  return ⟨← r.optional "data" read, ← r.default "errors" (list? readErrorMessage?) []⟩

/-! ## Reads -/

/-- Asks for a document. Errors in the answer outweigh its data. -/
def ask {α : Type} (settings : ClientSettings) (i : Instance) (document : String)
    (arguments : Json) (read : Json → Option α) : Action α := do
  let token ← match i.token with
    | some token => if isBlankText token then throw (.missingToken i.id) else pure token
    | none => throw (.missingToken i.id)
  Action.retried settings.retry do
    let r ← Action.send (request? i token document arguments)
    if !r.isSuccess then throw (.status ForgeKind.github.name r.status r.retryAfter?)
    match (Json.ofText? r.body).bind (readAnswer? read) with
    | none => throw (.http .unreadableBody)
    | some answer =>
      if !answer.errors.isEmpty then
        throw (.graphql (String.intercalate "; " answer.errors))
      match answer.data with
      | some data => return data
      | none => throw (.invalidResponse "graphql response without data")

/-- The login of the token's owner. -/
def viewerLogin (settings : ClientSettings) (i : Instance) : Action String := do
  let login ← ask settings i viewerDocument (.object []) readViewerData?
  if login.isEmpty then
    throw (.invalidResponse s!"empty login for host {quote i.host}")
  return login

/-- A term of a search string without the marks of groups and of exclusion around it. -/
def bareTerm (term : String) : String :=
  let cs := term.toList.dropWhile fun c => c == '(' || c == '-'
  String.ofList (dropEndWhile (· == ')') cs)

/-- The term names the type of the items. -/
def namesType (term : String) : Bool :=
  ["is:pr", "is:issue", "type:pr", "type:issue"].contains (asciiLower (bareTerm term))

/-- The term that names a type. -/
def typeTerm : ItemType → String
  | .pullRequest => "is:pr"
  | .issue => "is:issue"

/-- The search string with the type of the items, unless it names one already. -/
def withType (query : String) (itemType : ItemType) : String :=
  let trimmed := trim query
  if (words query).any namesType then trimmed
  else if trimmed.isEmpty then typeTerm itemType
  else trimmed ++ " " ++ typeTerm itemType

/-- The number of items to ask for. -/
def limitOf : Option Nat → Nat
  | some (n + 1) => min (n + 1) maxLimit
  | _ => defaultLimit

/-- The results of a search string. -/
def search (settings : ClientSettings) (i : Instance) (query : String) (limit : Option Nat) :
    Action SearchPage :=
  ask settings i searchDocument
    (.object [("limit", .int (limitOf limit)), ("query", .string query)]) (readSearchData? i.id)

/-- The pull requests of a search string. -/
def searchPullRequests (settings : ClientSettings) (i : Instance) (query : String)
    (limit : Option Nat) : Action (Page PullRequest) := do
  let page ← search settings i (withType query .pullRequest) limit
  let items := page.nodes.filterMap fun
    | .pullRequest p => some p
    | _ => none
  return ⟨items, page.total⟩

/-- The issues of a search string. -/
def searchIssues (settings : ClientSettings) (i : Instance) (query : String)
    (limit : Option Nat) : Action (Page Issue) := do
  let page ← search settings i (withType query .issue) limit
  let items := page.nodes.filterMap fun
    | .issue i => some i
    | _ => none
  return ⟨items, page.total⟩

/-- The search string of a filter for an instance; `none` if it is routed away. -/
def prepare (settings : ClientSettings) (clock : Clock) (i : Instance) (filter : String) :
    Action (Option String) :=
  prepareQuery settings (viewerLogin settings i)
    (fun now e => (SearchQuery.ofExpr now e).map fun q => (q.query, q.routing))
    "" clock i filter

/-- The pull requests of a filter; `none` if it is routed away. -/
def fetchPullRequests (settings : ClientSettings) (clock : Clock) (i : Instance)
    (filter : String) (limit : Option Nat) : Action (Option (Page PullRequest)) := do
  match ← prepare settings clock i filter with
  | none => return none
  | some query => return some (← searchPullRequests settings i query limit)

/-- The issues of a filter; `none` if it is routed away. -/
def fetchIssues (settings : ClientSettings) (clock : Clock) (i : Instance) (filter : String)
    (limit : Option Nat) : Action (Option (Page Issue)) := do
  match ← prepare settings clock i filter with
  | none => return none
  | some query => return some (← searchIssues settings i query limit)

end ForgeBoard.GitHub
