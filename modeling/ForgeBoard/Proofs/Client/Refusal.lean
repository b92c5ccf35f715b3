import ForgeBoard.Client.Shared
import ForgeBoard.Proofs.Client.Identity.Known
import ForgeBoard.Proofs.Client.Runs
import ForgeBoard.Proofs.Success

/-!
# Filters that are refused

A client refuses a filter that cannot be read, that has no query on its backend, or that is routed
away from the instance (`RefusedBy`). The first of these is found before anything else is done. The
others are not: a client puts the login of its user into the filter before it makes a query of it,
and asks the forge for the login if it does not know it (`AsksLogin`).

* `Identity.runs_expandAction_known`: a known login is put in without a request.
* `runs_prepareQuery_of_refused`: what preparing a query comes to, for a translation whose routing
  does not depend on the login. So refusals are said of the filter as it was written.
* `RefusedRun.bind`: what is refused there is refused as a whole, and nothing more is sent.
-/

namespace ForgeBoard

open ForgeBoard.Filter Http Query

/-- What a client says to a filter that it does not serve: that there is an error, or nothing. -/
inductive Refusal where
  | fails (e : ClientError)
  | skips

/-- The result of a fetch that is refused. -/
def Refusal.outcome {α : Type} : Refusal → Except ClientError (Option α)
  | fails e => .error e
  | skips => .ok none

/-- Why a filter is refused, where `routingOf` is the routing of the query of an expression. -/
inductive RefusedBy (routingOf : Int → Expr → Except QueryError Routing)
    (settings : ClientSettings) (clock : Clock) (i : Instance) (filter : String) :
    Refusal → Prop where
  | unread {e : FilterError} (h : readFilter settings.refuseLegacy filter = .error e) :
      RefusedBy routingOf settings clock i filter (.fails (.filter e))
  | untranslated {e : Expr} {err : QueryError}
      (hread : readFilter settings.refuseLegacy filter = .ok (some e))
      (h : routingOf clock.now e = .error err) :
      RefusedBy routingOf settings clock i filter (.fails (.filter (.query err)))
  | routedAway {e : Expr} {routing : Routing}
      (hread : readFilter settings.refuseLegacy filter = .ok (some e))
      (h : routingOf clock.now e = .ok routing) (hi : routing.allows i = false) :
      RefusedBy routingOf settings clock i filter .skips

section Prepare

variable {α : Type} {settings : ClientSettings} {clock : Clock} {i : Instance} {filter : String}
  {e : Expr} {ask : Action String} {caches caches' : Caches} {log : List Program.Exchange}

/-- The filter speaks of the current user, whose login nobody knows. -/
def AsksLogin (settings : ClientSettings) (clock : Clock) (i : Instance) (filter : String)
    (logins : TtlCache String) : Prop :=
  ∃ e, readFilter settings.refuseLegacy filter = .ok (some e) ∧ e.needsUser = true ∧
    Identity.Unknown i clock.instant logins

theorem Identity.runs_accessLogins_iff {β : Type} {f : TtlCache String → β × TtlCache String}
    {b : β} :
    (accessLogins f).Runs caches log b caches' ↔
      log = [] ∧ b = (f caches.logins).1 ∧
        caches' = { caches with logins := (f caches.logins).2 } := by
  rw [accessLogins, Program.runs_withCaches_iff, Prod.mk.injEq]
  exact and_congr_right fun _ => and_congr eq_comm eq_comm

/-- A known login is found without a request. -/
theorem Identity.runs_resolve_known {login : String} {r : Except ClientError String}
    (hknown : known i clock.instant caches.logins = (some login, caches.logins))
    (h : (resolve accessLogins ask.run i clock.instant).Runs caches log r caches') :
    log = [] ∧ r = .ok login := by
  obtain ⟨found, between, first, second, haccess, hfound, rfl⟩ := Program.runs_bind_iff.mp h
  obtain ⟨rfl, rfl, rfl⟩ := runs_accessLogins_iff.mp haccess
  rw [hknown] at hfound
  obtain ⟨rfl, rfl, -⟩ := Program.runs_pure_iff.mp hfound
  exact ⟨rfl, rfl⟩

/-- An unknown login is learned from an answer, or it is an error that there is none. -/
theorem Identity.runs_resolve_unknown {r : Except ClientError String}
    (hunknown : Unknown i clock.instant caches.logins)
    (h : (resolve accessLogins ask.run i clock.instant).Runs caches log r caches') :
    (∃ login, r = .ok login) ∨ ∃ reason, r = .error (.currentUser i.id reason) := by
  obtain ⟨found, between, first, second, haccess, hfound, rfl⟩ := Program.runs_bind_iff.mp h
  obtain ⟨rfl, rfl, rfl⟩ := runs_accessLogins_iff.mp haccess
  obtain ⟨rest, hnone, -, -⟩ := known_of_unknown hunknown
  rw [hnone] at hfound
  obtain ⟨answer, asked, _, _, -, hlearn, -⟩ := Program.runs_bind_iff.mp hfound
  obtain ⟨-, rfl, -⟩ := runs_accessLogins_iff.mp hlearn
  cases hlearned : (learn i clock.instant answer asked.logins).1 with
  | ok login => exact .inl ⟨login, rfl⟩
  | error err =>
    obtain ⟨reason, rfl⟩ := learn_eq_error hlearned
    exact .inr ⟨reason, rfl⟩

/-- **The login of a known user** is put in without a request. -/
theorem Identity.runs_expandAction_known {r : Except ClientError Expr}
    (hknown : ¬ (e.needsUser = true ∧ Unknown i clock.instant caches.logins))
    (h : (expandAction ask i clock e).run.Runs caches log r caches') :
    log = [] ∧ ∃ e', r = .ok e' ∧ (e' = e ∨ ∃ login, e' = e.withUser login) := by
  change (expand accessLogins ask.run i clock.instant e).Runs caches log r caches' at h
  unfold expand at h
  split at h
  · next hneeds =>
    obtain ⟨login, hlogin⟩ := exists_known fun hunknown => hknown ⟨hneeds, hunknown⟩
    obtain ⟨found, between, first, second, hresolve, hfound, rfl⟩ := Program.runs_bind_iff.mp h
    obtain ⟨rfl, rfl⟩ := runs_resolve_known hlogin hresolve
    obtain ⟨rfl, rfl, -⟩ := Program.runs_pure_iff.mp hfound
    exact ⟨rfl, _, rfl, .inr ⟨login, rfl⟩⟩
  · obtain ⟨rfl, rfl, -⟩ := Program.runs_pure_iff.mp h
    exact ⟨rfl, e, rfl, .inl rfl⟩

/-- With any login, there is an expression or the error that there is no login. -/
theorem Identity.runs_expandAction {r : Except ClientError Expr}
    (h : (expandAction ask i clock e).run.Runs caches log r caches') :
    (∃ e', r = .ok e' ∧ (e' = e ∨ ∃ login, e' = e.withUser login)) ∨
      ∃ reason, r = .error (.currentUser i.id reason) := by
  by_cases hasks : e.needsUser = true ∧ Unknown i clock.instant caches.logins
  · change (expand accessLogins ask.run i clock.instant e).Runs caches log r caches' at h
    rw [expand, if_pos hasks.1] at h
    obtain ⟨found, between, first, second, hresolve, hfound, -⟩ := Program.runs_bind_iff.mp h
    rcases runs_resolve_unknown hasks.2 hresolve with ⟨login, rfl⟩ | ⟨reason, rfl⟩
    · obtain ⟨-, rfl, -⟩ := Program.runs_pure_iff.mp hfound
      exact .inl ⟨_, rfl, .inr ⟨login, rfl⟩⟩
    · obtain ⟨-, rfl, -⟩ := Program.runs_pure_iff.mp hfound
      exact .inr ⟨reason, rfl⟩
  · exact .inl (runs_expandAction_known hasks h).2

theorem Identity.sendsOnly_expandAction {P : Request → Prop} (hask : ask.run.SendsOnly P)
    (i : Instance) (clock : Clock) (e : Expr) :
    (expandAction ask i clock e).run.SendsOnly P := by
  change (expand accessLogins ask.run i clock.instant e).SendsOnly P
  have haccess : ∀ {β : Type} (f : TtlCache String → β × TtlCache String),
      (accessLogins f).SendsOnly P := fun _ _ => trivial
  unfold expand
  split
  · refine Program.SendsOnly.bind ?_ fun answer => ?_
    · refine (haccess _).bind fun found => ?_
      cases found with
      | some login => trivial
      | none => exact hask.bind fun answer => haccess _
    · cases answer <;> trivial
  · trivial

variable {translate : Int → Expr → Except QueryError (α × Routing)} {blank : α}

theorem sendsOnly_prepareQuery {P : Request → Prop} (hask : ask.run.SendsOnly P)
    (settings : ClientSettings) (translate : Int → Expr → Except QueryError (α × Routing))
    (blank : α) (clock : Clock) (i : Instance) (filter : String) :
    (prepareQuery settings ask translate blank clock i filter).run.SendsOnly P := by
  unfold prepareQuery
  split
  · trivial
  · trivial
  · refine Action.sendsOnly_bind (Identity.sendsOnly_expandAction hask i clock _) fun e => ?_
    split <;> trivial

/-- What is made of an expression that has its login. -/
def queryFor (translate : Int → Expr → Except QueryError (α × Routing)) (clock : Clock)
    (i : Instance) (e : Expr) : Action (Option α) :=
  match translate clock.now e with
  | .error e => throw (.filter (.query e))
  | .ok (query, routing) => return if routing.allows i then some query else none

theorem prepareQuery_of_read (hread : readFilter settings.refuseLegacy filter = .ok (some e)) :
    prepareQuery settings ask translate blank clock i filter =
      Identity.expandAction ask i clock e >>= queryFor translate clock i := by
  rw [prepareQuery, hread]
  rfl

/-- A refused expression is refused with any login in it. -/
theorem run_queryFor_of_refused {refusal : Refusal} {e' : Expr}
    (hlogin : ∀ login now e, (translate now (e.withUser login)).map Prod.snd =
      (translate now e).map Prod.snd)
    (hrefused : RefusedBy (fun now e => (translate now e).map Prod.snd) settings clock i filter
      refusal)
    (hread : readFilter settings.refuseLegacy filter = .ok (some e))
    (he' : e' = e ∨ ∃ login, e' = e.withUser login) :
    (queryFor translate clock i e').run = pure refusal.outcome := by
  have hsame : (translate clock.now e').map Prod.snd = (translate clock.now e).map Prod.snd := by
    rcases he' with rfl | ⟨login, rfl⟩
    · rfl
    · exact hlogin login clock.now e
  cases hrefused with
  | unread hunread => exact absurd (hunread.symm.trans hread) nofun
  | untranslated hread' h =>
    obtain rfl := Option.some.inj (Except.ok.inj (hread.symm.trans hread'))
    rw [← hsame] at h
    unfold queryFor
    cases htranslate : translate clock.now e' with
    | error err =>
      rw [htranslate] at h
      rw [Except.error.inj h]
      rfl
    | ok q =>
      rw [htranslate] at h
      exact absurd h nofun
  | routedAway hread' h hi =>
    obtain rfl := Option.some.inj (Except.ok.inj (hread.symm.trans hread'))
    rw [← hsame] at h
    unfold queryFor
    obtain ⟨q, hq, rfl⟩ := map_eq_ok_iff.mp h
    rw [hq]
    simp only [hi, Bool.false_eq_true, if_false]
    rfl

/-- How a run goes when it is refused. Unless a login is asked for, nothing is sent and the refusal
is the result; otherwise the result may be the error that there is no login. -/
structure RefusedRun (asks : Prop) (refusal : Refusal) (i : Instance) (log : List Program.Exchange)
    (r : Except ClientError (Option α)) : Prop where
  quiet : ¬ asks → log = [] ∧ r = refusal.outcome
  result : r = refusal.outcome ∨ ∃ reason, r = .error (.currentUser i.id reason)

/-- **What comes of a refused filter** before anything is fetched, if the routing does not depend on
the login. -/
theorem runs_prepareQuery_of_refused {refusal : Refusal} {r : Except ClientError (Option α)}
    (hlogin : ∀ login now e, (translate now (e.withUser login)).map Prod.snd =
      (translate now e).map Prod.snd)
    (hrefused : RefusedBy (fun now e => (translate now e).map Prod.snd) settings clock i filter
      refusal)
    (h : (prepareQuery settings ask translate blank clock i filter).run.Runs caches log r caches') :
    RefusedRun (AsksLogin settings clock i filter caches.logins) refusal i log r := by
  cases hread : readFilter settings.refuseLegacy filter with
  | error err =>
    cases hrefused with
    | unread hunread =>
      obtain rfl := Except.error.inj (hread.symm.trans hunread)
      rw [prepareQuery, hread] at h
      obtain ⟨rfl, rfl, -⟩ := Action.runs_throw_iff.mp h
      exact ⟨fun _ => ⟨rfl, rfl⟩, .inl rfl⟩
    | untranslated hread' | routedAway hread' => exact absurd (hread.symm.trans hread') nofun
  | ok read =>
    cases read with
    | none =>
      cases hrefused with
      | unread hread' | untranslated hread' | routedAway hread' =>
        exact absurd (hread.symm.trans hread') nofun
    | some e =>
      have hasks : ¬ AsksLogin settings clock i filter caches.logins →
          ¬ (e.needsUser = true ∧ Identity.Unknown i clock.instant caches.logins) :=
        fun hnot hneeds => hnot ⟨e, hread, hneeds⟩
      rw [prepareQuery_of_read hread] at h
      rcases Action.runs_bind_iff.mp h with ⟨err, hexpand, rfl⟩ |
        ⟨e', between, first, second, hexpand, hquery, rfl⟩
      · rcases Identity.runs_expandAction hexpand with ⟨e', he', -⟩ | ⟨reason, hreason⟩
        · exact absurd he' nofun
        · obtain rfl := Except.error.inj hreason
          refine ⟨fun hnot => ?_, .inr ⟨reason, rfl⟩⟩
          obtain ⟨-, e', he', -⟩ := Identity.runs_expandAction_known (hasks hnot) hexpand
          exact absurd he' nofun
      · rcases Identity.runs_expandAction hexpand with ⟨e'', he'', hlogin'⟩ | ⟨reason, hreason⟩
        · obtain rfl := Except.ok.inj he''
          rw [run_queryFor_of_refused hlogin hrefused hread hlogin'] at hquery
          obtain ⟨rfl, rfl, -⟩ := Program.runs_pure_iff.mp hquery
          refine ⟨fun hnot => ⟨?_, rfl⟩, .inl rfl⟩
          rw [(Identity.runs_expandAction_known (hasks hnot) hexpand).1]
          rfl
        · exact absurd hreason nofun

/-- The same for a translation that gives both parts of a query. -/
theorem runs_prepareQuery_of_refused_query {Q : Type} {ofExpr : Int → Expr → Except QueryError Q}
    {content : Q → α} {routing : Q → Routing} {refusal : Refusal}
    {r : Except ClientError (Option α)}
    (hlogin : ∀ login now e, (ofExpr now (e.withUser login)).map routing =
      (ofExpr now e).map routing)
    (hrefused : RefusedBy (fun now e => (ofExpr now e).map routing) settings clock i filter refusal)
    (h : (prepareQuery settings ask
      (fun now e => (ofExpr now e).map fun q => (content q, routing q))
      blank clock i filter).run.Runs caches log r caches') :
    RefusedRun (AsksLogin settings clock i filter caches.logins) refusal i log r := by
  have hrouting : ∀ now e, ((ofExpr now e).map fun q => (content q, routing q)).map Prod.snd =
      (ofExpr now e).map routing := by
    intro now e
    cases ofExpr now e <;> rfl
  refine runs_prepareQuery_of_refused (fun login now e => ?_) ?_ h
  · rw [hrouting, hrouting, hlogin]
  · simpa only [hrouting] using hrefused

theorem RefusedRun.map {β : Type} {asks : Prop} {refusal : Refusal}
    {r : Except ClientError (Option α)} (h : RefusedRun asks refusal i log r) :
    RefusedRun asks refusal i log (r.map fun _ => (none : Option β)) := by
  have houtcome : (refusal.outcome : Except ClientError (Option α)).map
      (fun _ => (none : Option β)) = refusal.outcome := by
    cases refusal <;> rfl
  refine ⟨fun hnot => ⟨(h.quiet hnot).1, ?_⟩, ?_⟩
  · rw [(h.quiet hnot).2, houtcome]
  · rcases h.result with rfl | ⟨reason, rfl⟩
    · exact .inl houtcome
    · exact .inr ⟨reason, rfl⟩

/-- What is refused before anything is fetched is refused as a whole, and nothing more is sent. -/
theorem RefusedRun.bind {β : Type} {asks : Prop} {refusal : Refusal} {P : Request → Prop}
    {x : Action (Option α)} {k : Option α → Action (Option β)} {r : Except ClientError (Option β)}
    (hk : k none = pure none) (hsends : x.run.SendsOnly P)
    (hx : ∀ {log r caches'}, x.run.Runs caches log r caches' → RefusedRun asks refusal i log r)
    (h : (x >>= k).run.Runs caches log r caches') :
    RefusedRun asks refusal i log r ∧ ∀ exchange ∈ log, P exchange.1 := by
  rcases Action.runs_bind_iff.mp h with ⟨err, hfirst, rfl⟩ |
    ⟨a, between, first, second, hfirst, hsecond, rfl⟩
  · exact ⟨(hx hfirst).map, hsends.of_runs hfirst⟩
  · cases a with
    | none =>
      rw [hk] at hsecond
      obtain ⟨rfl, rfl, -⟩ := Action.runs_pure_iff.mp hsecond
      rw [List.append_nil]
      exact ⟨(hx hfirst).map, hsends.of_runs hfirst⟩
    | some query =>
      rcases (hx hfirst).result with hresult | ⟨reason, hreason⟩
      · cases refusal <;> exact absurd hresult nofun
      · exact absurd hreason nofun

end Prepare

end ForgeBoard
