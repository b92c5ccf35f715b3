import ForgeBoard.Proofs.Client.Cells
import ForgeBoard.Proofs.Client.Prepared
import ForgeBoard.Proofs.Query.Login

/-!
# The cells that clients use

A request uses no cell. A look-up of an id uses the cell of its key, and a filter that speaks of the
current user uses the login of its instance. So a fetch keeps to the login of its instance and, if
the filter asks for a project, to the id of that project on the instance. Which project a filter
asks for does not depend on the login (`GitLab.project_of_ends_prepare`).
-/

namespace ForgeBoard

open ForgeBoard.Filter Http Query Text

variable {settings : ClientSettings} {clock : Clock} {i : Instance} {filter : String}
  {region : Set Cell}

/-! ## Logins -/

theorem Identity.keepsTo_expandAction {ask : Action String} (hask : ask.run.KeepsTo region)
    (hlogin : ⟨.logins, i.id⟩ ∈ region) (e : Expr) :
    (expandAction ask i clock e).run.KeepsTo region := by
  change (expand accessLogins ask.run i clock.instant e).KeepsTo region
  have hknown : (accessLogins (known i clock.instant)).KeepsTo region :=
    Program.keepsTo_withCaches (Caches.confined_use (s := .logins)
      (concerns_known i clock.instant) hlogin)
  have hlearn : ∀ answer, (accessLogins (learn i clock.instant answer)).KeepsTo region :=
    fun answer => Program.keepsTo_withCaches (Caches.confined_use (s := .logins)
      (concerns_learn i clock.instant answer) hlogin)
  unfold expand
  split
  · refine Program.KeepsTo.bind (hknown.bind fun login _ => ?_) fun answer _ => ?_
    · cases login with
      | some login => trivial
      | none => exact hask.bind fun answer _ => hlearn answer
    · cases answer <;> trivial
  · trivial

theorem keepsTo_prepareQuery {α : Type} {ask : Action String} (hask : ask.run.KeepsTo region)
    (hlogin : ⟨.logins, i.id⟩ ∈ region)
    (translate : Int → Expr → Except QueryError (α × Routing)) (blank : α) :
    (prepareQuery settings ask translate blank clock i filter).run.KeepsTo region := by
  unfold prepareQuery
  split
  · trivial
  · trivial
  · refine Action.keepsTo_bind (Identity.keepsTo_expandAction hask hlogin _) fun e _ => ?_
    split <;> trivial

/-! ## GitLab -/

namespace GitLab

theorem keepsTo_get {α : Type} (settings : ClientSettings) (i : Instance) (endpoint : String)
    (params : Params) (readBody : Json → Option α) :
    (get settings i endpoint params readBody).run.KeepsTo region := by
  refine Action.keepsTo_retried (Action.keepsTo_bind (Action.keepsTo_send _) fun r _ => ?_) _
  refine Action.keepsTo_bind ?_ fun _ _ => ?_
  · unfold requireSuccess
    split <;> trivial
  · split <;> trivial

theorem keepsTo_currentUsername (settings : ClientSettings) (i : Instance) :
    (currentUsername settings i).run.KeepsTo region := by
  refine Action.keepsTo_bind (keepsTo_get settings i _ _ _) fun answer _ => ?_
  obtain ⟨username, total⟩ := answer
  cases h : username.isEmpty <;> simp only [h] <;> trivial

theorem keepsTo_projectId {path : String} (h : ⟨.projectIds, scopedKey i.id path⟩ ∈ region) :
    (projectId settings clock i path).run.KeepsTo region := by
  unfold projectId
  have hget := Caches.confined_use (s := .projectIds)
    (TtlCache.concerns_get clock.instant (scopedKey i.id path)) h
  split
  · trivial
  refine Action.keepsTo_bind (Action.keepsTo_withCaches hget) fun cached _ => ?_
  cases cached with
  | some id => trivial
  | none =>
    refine Action.keepsTo_bind (keepsTo_get settings i _ _ _) fun answer _ => ?_
    obtain ⟨id, total⟩ := answer
    dsimp only
    split
    · trivial
    · have hset := Caches.confined_use (s := .projectIds) (TtlCache.concerns_put
        (scopedKey i.id path) (.lasting clock.instant id projectLifetime) ()) h
      exact Action.keepsTo_bind (Action.keepsTo_withCaches hset) fun _ _ => trivial

theorem keepsTo_userId {username : String} (h : ⟨.userIds, scopedKey i.id username⟩ ∈ region) :
    (userId settings clock i username).run.KeepsTo region := by
  unfold userId
  have hget := Caches.confined_use (s := .userIds)
    (TtlCache.concerns_get clock.instant (scopedKey i.id username)) h
  refine Action.keepsTo_bind (Action.keepsTo_withCaches hget) fun cached _ => ?_
  cases cached with
  | some id => trivial
  | none =>
    refine Action.keepsTo_bind (keepsTo_get settings i _ _ _) fun answer _ => ?_
    obtain ⟨users, total⟩ := answer
    cases users with
    | nil => trivial
    | cons id rest =>
      have hset := Caches.confined_use (s := .userIds)
        (TtlCache.concerns_put (scopedKey i.id username) (⟨id, none⟩ : CacheEntry Nat) ()) h
      exact Action.keepsTo_bind (Action.keepsTo_withCaches hset) fun _ _ => trivial

/-- The project that a filter asks for, if it asks for one. -/
def projectOf (settings : ClientSettings) (now : Int) (filter : String) : Option String :=
  match readFilter settings.refuseLegacy filter with
  | .ok (some e) => ((ListingQuery.ofExpr now e).toOption).bind fun q => q.listing.project
  | _ => none

/-- **The project of a listing** is the one that the filter asks for, whatever the login. -/
theorem project_of_ends_prepare {listing : Listing}
    (h : (prepare settings clock i filter).run.Ends (.ok (some listing))) :
    listing.project = projectOf settings clock.now filter := by
  obtain ⟨hread, hlisting⟩ | ⟨e, e', query, routing, hread, he', htranslate, hlisting⟩ :=
    ends_prepareQuery h
  · rw [Option.some.inj hlisting, projectOf, hread]
    rfl
  · obtain ⟨q', hq', hpair⟩ := map_eq_ok_iff.mp htranslate
    obtain ⟨rfl, -⟩ := Prod.mk.inj hpair
    have hlisting : listing = q'.listing := by
      split at hlisting
      · exact Option.some.inj hlisting
      · exact absurd hlisting nofun
    have hsame : (ListingQuery.ofExpr clock.now e').map (·.listing.project) =
        (ListingQuery.ofExpr clock.now e).map (·.listing.project) := by
      rcases he' with rfl | ⟨login, rfl⟩
      · rfl
      · exact (ListingQuery.ofExpr_withUser login clock.now e).map_eq fun _ _ h => h.1.project
    rw [hq'] at hsame
    obtain ⟨q, hq, hproject⟩ := map_eq_ok_iff.mp hsame.symm
    have hgiven : projectOf settings clock.now filter = q.listing.project := by
      rw [projectOf, hread]
      dsimp only
      rw [hq]
      rfl
    rw [hlisting, hgiven]
    exact hproject.symm

theorem keepsTo_list {α : Type} {listing : Listing}
    (h : ∀ path, listing.project = some path → ⟨.projectIds, scopedKey i.id path⟩ ∈ region)
    (resource : String) (limit : Option Nat) (readItem : Json → Option α) :
    (list settings clock i resource listing limit readItem).run.KeepsTo region := by
  unfold list
  cases hproject : listing.project with
  | none =>
    exact Action.keepsTo_bind (x := pure _) trivial fun _ _ =>
      Action.keepsTo_bind (keepsTo_get settings i _ _ _) fun _ _ => trivial
  | some path =>
    exact Action.keepsTo_bind (keepsTo_projectId (h path hproject)) fun _ _ =>
      Action.keepsTo_bind (x := pure _) trivial fun _ _ =>
        Action.keepsTo_bind (keepsTo_get settings i _ _ _) fun _ _ => trivial

/-- The cells of a fetch: the login of the instance and, if the filter asks for a project, the id of
that project on the instance. -/
def footprint (settings : ClientSettings) (now : Int) (filter : String) (i : Instance) : Set Cell :=
  {cell | cell = ⟨.logins, i.id⟩ ∨ ∃ path, projectOf settings now filter = some path ∧
    cell = ⟨.projectIds, scopedKey i.id path⟩}

theorem keepsTo_prepare (hlogin : ⟨.logins, i.id⟩ ∈ region) :
    (prepare settings clock i filter).run.KeepsTo region :=
  keepsTo_prepareQuery (keepsTo_currentUsername settings i) hlogin _ _

/-- A listing that the client has prepared. -/
theorem keepsTo_list_of_ends_prepare {α : Type} {listing : Listing}
    (h : (prepare settings clock i filter).run.Ends (.ok (some listing)))
    (resource : String) (limit : Option Nat) (readItem : Json → Option α) :
    (list settings clock i resource listing limit readItem).run.KeepsTo
      (footprint settings clock.now filter i) :=
  keepsTo_list (fun path hpath => .inr ⟨path, (project_of_ends_prepare h).symm.trans hpath, rfl⟩)
    resource limit readItem

theorem keepsTo_fetchMergeRequests (limit : Option Nat) :
    (fetchMergeRequests settings clock i filter limit).run.KeepsTo
      (footprint settings clock.now filter i) := by
  refine Action.keepsTo_bind (keepsTo_prepare (.inl rfl)) fun answer hanswer => ?_
  cases answer with
  | none => trivial
  | some listing =>
    exact Action.keepsTo_bind (keepsTo_list_of_ends_prepare hanswer _ _ _) fun _ _ => trivial

theorem keepsTo_fetchIssues (limit : Option Nat) :
    (fetchIssues settings clock i filter limit).run.KeepsTo
      (footprint settings clock.now filter i) := by
  refine Action.keepsTo_bind (keepsTo_prepare (.inl rfl)) fun answer hanswer => ?_
  cases answer with
  | none => trivial
  | some listing =>
    exact Action.keepsTo_bind (keepsTo_list_of_ends_prepare hanswer _ _ _) fun _ _ => trivial

end GitLab

/-! ## GitHub -/

namespace GitHub

theorem keepsTo_ask {α : Type} (settings : ClientSettings) (i : Instance) (document : String)
    (arguments : Json) (read : Json → Option α) :
    (ask settings i document arguments read).run.KeepsTo region := by
  unfold ask
  cases i.token with
  | none => trivial
  | some token =>
    cases hblank : isBlankText token with
    | true =>
      simp only [hblank, if_true]
      trivial
    | false =>
      simp only [hblank, Bool.false_eq_true, if_false]
      refine Action.keepsTo_retried ?_ _
      refine Action.keepsTo_bind (Action.keepsTo_send _) fun r _ => ?_
      split
      · trivial
      · split
        · trivial
        · split
          · trivial
          · split <;> trivial

theorem keepsTo_viewerLogin (settings : ClientSettings) (i : Instance) :
    (viewerLogin settings i).run.KeepsTo region := by
  refine Action.keepsTo_bind (keepsTo_ask settings i _ _ _) fun login _ => ?_
  split <;> trivial

theorem keepsTo_prepare (hlogin : ⟨.logins, i.id⟩ ∈ region) :
    (prepare settings clock i filter).run.KeepsTo region :=
  keepsTo_prepareQuery (keepsTo_viewerLogin settings i) hlogin _ _

theorem keepsTo_fetchPullRequests (hlogin : ⟨.logins, i.id⟩ ∈ region) (limit : Option Nat) :
    (fetchPullRequests settings clock i filter limit).run.KeepsTo region := by
  refine Action.keepsTo_bind (keepsTo_prepare hlogin) fun answer _ => ?_
  cases answer with
  | none => trivial
  | some query =>
    refine Action.keepsTo_bind ?_ fun _ _ => trivial
    exact Action.keepsTo_bind (keepsTo_ask settings i _ _ _) fun _ _ => trivial

theorem keepsTo_fetchIssues (hlogin : ⟨.logins, i.id⟩ ∈ region) (limit : Option Nat) :
    (fetchIssues settings clock i filter limit).run.KeepsTo region := by
  refine Action.keepsTo_bind (keepsTo_prepare hlogin) fun answer _ => ?_
  cases answer with
  | none => trivial
  | some query =>
    refine Action.keepsTo_bind ?_ fun _ _ => trivial
    exact Action.keepsTo_bind (keepsTo_ask settings i _ _ _) fun _ _ => trivial

end GitHub

end ForgeBoard
