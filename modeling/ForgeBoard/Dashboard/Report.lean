import ForgeBoard.Client.GitHub
import ForgeBoard.Client.GitLab
import ForgeBoard.Dashboard.Config

/-!
# Filling and showing a section

A section of the dashboard is filled from every instance that its filter is routed to, in the
order of `Dashboard.routed`. Each instance has an outcome of its own, so that one failure leaves
the others alone; an instance that turns out not to be meant has none.

A section is shown under its title: for each outcome a line with the number of items or the error,
then a line for each item, and an empty line at the end.
-/

namespace ForgeBoard

open ForgeBoard.Filter Text

/-! ## Filling a section -/

/-- What one instance gives for a section. -/
inductive SectionItems where
  | pullRequests (page : Page PullRequest)
  | issues (page : Page Issue)

namespace SectionItems

/-- The number of items that were fetched. -/
def size : SectionItems → Nat
  | pullRequests page => page.items.length
  | issues page => page.items.length

/-- The number of items there are in all. -/
def total : SectionItems → Nat
  | pullRequests page => page.total
  | issues page => page.total

/-- What all items have, in order. -/
def workItems : SectionItems → List WorkItem
  | pullRequests page => page.items.map (·.toWorkItem)
  | issues page => page.items.map (·.toWorkItem)

end SectionItems

/-- How an instance fared with a section. -/
structure Outcome where
  instanceId : String
  displayName : String
  result : Except ClientError SectionItems

/-- The instances a dashboard asks, and how. -/
structure Dashboard where
  settings : ClientSettings
  instances : List Instance

namespace Dashboard

/-- The dashboard of a configuration, with the environment variables looked up. -/
def ofConfig (environment : String → Option String) (c : Config) :
    Except ConfigError Dashboard := do
  let instances ← c.instances environment
  return ⟨⟨c.retry, (environment Config.refuseLegacyVariable).isSome⟩, instances⟩

/-- The routing that a filter text asks for: everywhere, unless the text can be read. -/
def routingOf (filter : String) : Routing :=
  if isBlankText filter then .everywhere
  else
    match parse filter with
    | .ok e =>
      match e.normalize.route with
      | .ok (_, routing) => routing
      | .error _ => .everywhere
    | .error _ => .everywhere

/-- The instances that a filter text is sent to. One that cannot be read is sent to all of them, so
that each reports the error. -/
def routed (d : Dashboard) (filter : String) : List Instance :=
  Instance.select d.instances (routingOf filter).includes (routingOf filter).excludes

/-- Asks one instance for the items of a section. -/
def ask (d : Dashboard) (clock : Clock) (s : SectionConfig) (i : Instance) :
    Action (Option SectionItems) :=
  let limit := some (s.limit.getD GitHub.defaultLimit)
  match i.kind, s.kind with
  | .gitlab, .prs => do
    return (← GitLab.fetchMergeRequests d.settings clock i s.filter limit).map .pullRequests
  | .gitlab, .issues => do
    return (← GitLab.fetchIssues d.settings clock i s.filter limit).map .issues
  | .github, .prs => do
    return (← GitHub.fetchPullRequests d.settings clock i s.filter limit).map .pullRequests
  | .github, .issues => do
    return (← GitHub.fetchIssues d.settings clock i s.filter limit).map .issues

/-- The outcome for an instance, unless the section turns out not to be meant for it. -/
def outcome (i : Instance) : Except ClientError (Option SectionItems) → Option Outcome
  | .ok (some items) => some ⟨i.id, i.displayName, .ok items⟩
  | .ok none => none
  | .error e => some ⟨i.id, i.displayName, .error e⟩

/-- Asks instances one after the other. -/
def askAll (d : Dashboard) (clock : Clock) (s : SectionConfig) :
    List Instance → Program (List Outcome)
  | [] => return []
  | i :: rest => do
    let answer ← (d.ask clock s i).run
    let others ← askAll d clock s rest
    return (outcome i answer).toList ++ others

/-- Fills a section. -/
def fetchSection (d : Dashboard) (clock : Clock) (s : SectionConfig) : Program (List Outcome) :=
  d.askAll clock s (d.routed s.filter)

end Dashboard

/-! ## The report -/

/-- The number of characters that the name of an item takes at least. -/
def nameWidth : Nat := 40

/-- A text with blanks after it, up to `width` characters. -/
def padEnd (width : Nat) (s : String) : String :=
  s ++ String.ofList (List.replicate (width - s.length) ' ')

/-- The line of an item: its name, the day it was last changed, and its title. -/
def WorkItem.reportLine (w : WorkItem) : String :=
  "  " ++ padEnd nameWidth (w.repo ++ "#" ++ String.ofList (digits w.key.number)) ++ " " ++
    w.updatedAt.date.text ++ "  " ++ w.title

/-- The lines of an outcome. -/
def Outcome.reportLines (o : Outcome) : List String :=
  match o.result with
  | .ok items =>
    s!"[{o.displayName}] {items.size} of {items.total}" :: items.workItems.map (·.reportLine)
  | .error e => [s!"[{o.displayName}] error: {e.message}"]

/-- The lines of a section. -/
def SectionConfig.reportLines (s : SectionConfig) (outcomes : List Outcome) : List String :=
  s!"== {s.title} ==" :: outcomes.flatMap (·.reportLines) ++ [""]

/-- The text of lines, each with an end. -/
def unlines (lines : List String) : String :=
  String.join (lines.map (· ++ "\n"))

/-- Fills a section and shows it. -/
def Dashboard.report (d : Dashboard) (clock : Clock) (s : SectionConfig) : Program String := do
  return unlines (s.reportLines (← d.fetchSection clock s))

end ForgeBoard
