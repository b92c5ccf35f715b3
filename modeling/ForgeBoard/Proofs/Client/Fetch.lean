import ForgeBoard.Client.GitHub
import ForgeBoard.Client.GitLab
import ForgeBoard.Proofs.Client.Refusal
import ForgeBoard.Proofs.Forge.Selection
import ForgeBoard.Proofs.Query.FilterText
import ForgeBoard.Proofs.Query.Login

/-!
# Fetches that are refused

A fetch is one of the four reads of work items, with all that it is given. `Fetch.result` is what it
comes to against a network, and `Fetch.sent` is what it sends.

A login changes neither whether a filter has a query nor its routing
(`Resource.routingOf_withUser`), and a client that asks for the login sends nothing else
(`GitLab.sendsOnly_currentUsername`, `GitHub.sendsOnly_viewerLogin`).

Result: `refused_fetch`.
-/

namespace ForgeBoard

open ForgeBoard.Filter Http Query Text

/-- What clients fetch: merge requests and issues of GitLab, pull requests and issues of GitHub. -/
inductive Resource where
  | mergeRequests
  | gitLabIssues
  | pullRequests
  | gitHubIssues

namespace Resource

/-- The records of a resource. -/
def Item : Resource → Type
  | mergeRequests | pullRequests => PullRequest
  | gitLabIssues | gitHubIssues => Issue

/-- The routing of the query that the backend of a resource makes of an expression. -/
def routingOf : Resource → Int → Expr → Except QueryError Routing
  | mergeRequests, now, e | gitLabIssues, now, e => (ListingQuery.ofExpr now e).map (·.routing)
  | pullRequests, now, e | gitHubIssues, now, e => (SearchQuery.ofExpr now e).map (·.routing)

/-- The request that asks for the login of the token's owner. -/
def loginRequest? (i : Instance) : Resource → Option Request
  | mergeRequests | gitLabIssues => GitLab.getRequest? i "/user" []
  | pullRequests | gitHubIssues =>
    i.token.bind fun token => GitHub.request? i token GitHub.viewerDocument (.object [])

end Resource

/-- A fetch by a client. -/
structure Fetch where
  resource : Resource
  settings : ClientSettings
  clock : Clock
  forge : Instance
  filter : String
  limit : Option Nat

namespace Fetch

def action : (f : Fetch) → Action (Option (Page f.resource.Item))
  | ⟨.mergeRequests, settings, clock, i, filter, limit⟩ =>
    GitLab.fetchMergeRequests settings clock i filter limit
  | ⟨.gitLabIssues, settings, clock, i, filter, limit⟩ =>
    GitLab.fetchIssues settings clock i filter limit
  | ⟨.pullRequests, settings, clock, i, filter, limit⟩ =>
    GitHub.fetchPullRequests settings clock i filter limit
  | ⟨.gitHubIssues, settings, clock, i, filter, limit⟩ =>
    GitHub.fetchIssues settings clock i filter limit

/-- What a fetch comes to against a network. -/
def result (f : Fetch) (network : List Program.Exchange → Request → Reply) (caches : Caches) :
    Except ClientError (Option (Page f.resource.Item)) :=
  (f.action.run.play network caches).1.1

/-- What a fetch sends. -/
def sent (f : Fetch) (network : List Program.Exchange → Request → Reply) (caches : Caches) :
    List Request :=
  (f.action.run.play network caches).2.map Prod.fst

/-- The filter of the fetch is refused. -/
def Refused (f : Fetch) (refusal : Refusal) : Prop :=
  RefusedBy f.resource.routingOf f.settings f.clock f.forge f.filter refusal

/-- The fetch has to ask for the login of the current user. -/
def AsksLogin (f : Fetch) (caches : Caches) : Prop :=
  ForgeBoard.AsksLogin f.settings f.clock f.forge f.filter caches.logins

end Fetch

/-! ## Asking for the login -/

theorem GitLab.sendsOnly_get {α : Type} (settings : ClientSettings) (i : Instance)
    (endpoint : String) (params : Params) (readBody : Json → Option α) :
    (GitLab.get settings i endpoint params readBody).run.SendsOnly
      fun r => GitLab.getRequest? i endpoint params = some r := by
  refine Action.sendsOnly_retried (Action.sendsOnly_bind (Action.sendsOnly_send _) fun r => ?_) _
  refine Action.sendsOnly_bind ?_ fun _ => ?_
  · unfold GitLab.requireSuccess
    split <;> trivial
  · split <;> trivial

theorem GitLab.sendsOnly_currentUsername (settings : ClientSettings) (i : Instance) :
    (GitLab.currentUsername settings i).run.SendsOnly
      fun r => GitLab.getRequest? i "/user" [] = some r := by
  refine Action.sendsOnly_bind (GitLab.sendsOnly_get settings i _ _ _) fun answer => ?_
  obtain ⟨username, total⟩ := answer
  cases h : username.isEmpty <;> simp only [h] <;> trivial

theorem GitHub.sendsOnly_ask {α : Type} (settings : ClientSettings) (i : Instance)
    (document : String) (arguments : Json) (read : Json → Option α) :
    (GitHub.ask settings i document arguments read).run.SendsOnly
      fun r => (i.token.bind fun token => GitHub.request? i token document arguments) = some r := by
  unfold GitHub.ask
  cases i.token with
  | none => trivial
  | some token =>
    cases hblank : isBlankText token with
    | true =>
      simp only [hblank, if_true]
      trivial
    | false =>
      simp only [hblank, Bool.false_eq_true, if_false, Option.bind_some]
      refine Action.sendsOnly_retried ?_ _
      refine Action.sendsOnly_bind (Action.sendsOnly_send _) fun r => ?_
      -- a response is read or refused, and nothing else is sent
      split
      · trivial
      · split
        · trivial
        · split
          · trivial
          · split <;> trivial

theorem GitHub.sendsOnly_viewerLogin (settings : ClientSettings) (i : Instance) :
    (GitHub.viewerLogin settings i).run.SendsOnly fun r =>
      (i.token.bind fun token =>
        GitHub.request? i token GitHub.viewerDocument (.object [])) = some r := by
  refine Action.sendsOnly_bind (GitHub.sendsOnly_ask settings i _ _ _) fun login => ?_
  split <;> trivial

/-! ## Refused fetches -/

/-- **A login does not change the routing** of a query, nor whether there is one. -/
theorem Resource.routingOf_withUser (r : Resource) (login : String) (now : Int) (e : Expr) :
    r.routingOf now (e.withUser login) = r.routingOf now e := by
  cases r with
  | mergeRequests | gitLabIssues =>
    exact (ListingQuery.ofExpr_withUser login now e).map_eq fun _ _ h => h.2
  | pullRequests | gitHubIssues =>
    exact (SearchQuery.ofExpr_withUser login now e).map_eq fun _ _ h => h

theorem Fetch.runs_of_refused {f : Fetch} {refusal : Refusal} (h : f.Refused refusal)
    {caches caches' : Caches} {log : List Program.Exchange}
    {r : Except ClientError (Option (Page f.resource.Item))}
    (hrun : f.action.run.Runs caches log r caches') :
    RefusedRun (f.AsksLogin caches) refusal f.forge log r ∧
      ∀ exchange ∈ log, f.resource.loginRequest? f.forge = some exchange.1 := by
  obtain ⟨resource, settings, clock, i, filter, limit⟩ := f
  have hgitLab := sendsOnly_prepareQuery (GitLab.sendsOnly_currentUsername settings i) settings
    (fun now e => (ListingQuery.ofExpr now e).map fun q => (q.listing, q.routing))
    Listing.unrestricted clock i filter
  have hgitHub := sendsOnly_prepareQuery (GitHub.sendsOnly_viewerLogin settings i) settings
    (fun now e => (SearchQuery.ofExpr now e).map fun q => (q.query, q.routing)) "" clock i filter
  have hlogin := resource.routingOf_withUser
  cases resource with
  | mergeRequests | gitLabIssues =>
    refine RefusedRun.bind ?_ hgitLab (runs_prepareQuery_of_refused_query hlogin h) hrun
    rfl
  | pullRequests | gitHubIssues =>
    refine RefusedRun.bind ?_ hgitHub (runs_prepareQuery_of_refused_query hlogin h) hrun
    rfl

/-- **A refused fetch**, on any network. If it does not have to ask for the login of the current
user, it sends nothing and comes to its refusal: the error of the filter, or `none` if the filter is
routed away. If it has to ask, it sends nothing but that question, and comes to its refusal all the
same or to the error that there is no login. -/
theorem refused_fetch {f : Fetch} {refusal : Refusal} (h : f.Refused refusal)
    (network : List Program.Exchange → Request → Reply) (caches : Caches) :
    (¬ f.AsksLogin caches →
      f.sent network caches = [] ∧ f.result network caches = refusal.outcome) ∧
    (f.AsksLogin caches →
      (∀ request ∈ f.sent network caches, f.resource.loginRequest? f.forge = some request) ∧
        (f.result network caches = refusal.outcome ∨
          ∃ reason, f.result network caches = .error (.currentUser f.forge.id reason))) := by
  obtain ⟨hrefused, hsent⟩ :=
    Fetch.runs_of_refused h (Program.runs_play network f.action.run caches)
  refine ⟨fun hnot => ?_, fun _ => ⟨fun request hrequest => ?_, hrefused.result⟩⟩
  · obtain ⟨hlog, hresult⟩ := hrefused.quiet hnot
    exact ⟨List.map_eq_nil_iff.mpr hlog, hresult⟩
  · obtain ⟨exchange, hexchange, rfl⟩ := List.mem_map.mp hrequest
    exact hsent exchange hexchange

/-- A filter for GitHub, on the current user. -/
def foreignFilter : String :=
  "provider = \"github\" and author = \"me\""

/-- What `foreignFilter` is read as. -/
def foreignExpr : Expr :=
  .binary .and (.predicate (.compare "provider" .eq (.text "github")))
    (.predicate (.compare "author" .eq (.text "me")))

/-- Merge requests by that filter. -/
def foreignFetch (user : Option String) : Fetch where
  resource := .mergeRequests
  settings := ⟨.standard, true⟩
  clock := ⟨0, 0⟩
  forge := { Instance.ofHost .gitlab "[::1]" with user }
  filter := foreignFilter
  limit := none

/-- A network without responses. -/
def silent : List Program.Exchange → Request → Reply :=
  fun _ _ => .nothing

theorem foreignFetch_refused (user : Option String) : (foreignFetch user).Refused .skips := by
  have hparse : parse foreignFilter = .ok foreignExpr := eq_ok_of_toOption (by decide +kernel)
  have hrouting : Resource.mergeRequests.routingOf 0 foreignExpr = .ok ⟨["github"], []⟩ :=
    eq_ok_of_toOption (by decide +kernel)
  refine .routedAway (readFilter_of_parse hparse _) hrouting ?_
  have hnot : (foreignFetch none).forge.isMatchAny ["github"] = false := by decide +kernel
  have hmatch : (foreignFetch user).forge.isMatchAny ["github"] = false :=
    (Instance.isMatchAny_congr rfl rfl).trans hnot
  rw [Routing.allows, hmatch]
  rfl

theorem refused_fetch_foreign :
    (foreignFetch (some "carol")).Refused .skips ∧
      (foreignFetch (some "carol")).sent silent .empty = [] ∧
      (foreignFetch (some "carol")).result silent .empty = .ok none := by
  have hrefused := foreignFetch_refused (some "carol")
  have hknown : ¬ (foreignFetch (some "carol")).AsksLogin .empty := by
    rintro ⟨e, -, -, huser, -⟩
    exact absurd huser nofun
  exact ⟨hrefused, (refused_fetch hrefused silent .empty).1 hknown⟩

/-- Nothing need be asked to find that the filter is for others, but the login is asked for. -/
theorem foreignFetch_asks :
    (foreignFetch none).Refused .skips ∧ (foreignFetch none).sent silent .empty ≠ [] ∧
      (foreignFetch none).result silent .empty ≠ .ok none := by
  refine ⟨foreignFetch_refused none, ?_, ?_⟩
  · have hlength : ((foreignFetch none).sent silent .empty).length = 3 := by decide +kernel
    intro h
    rw [h] at hlength
    exact absurd hlength nofun
  · have hfails : ((foreignFetch none).result silent .empty).toOption.isNone = true := by
      decide +kernel
    intro h
    rw [h] at hfails
    exact absurd hfails nofun

end ForgeBoard
