import ForgeBoard.Client.GitHub
import ForgeBoard.Client.GitLab
import ForgeBoard.Proofs.Client.Ends
import ForgeBoard.Proofs.Filter.Normal
import ForgeBoard.Proofs.Query.FilterText
import ForgeBoard.Proofs.Query.Operand

/-!
# What clients prepare

Before a client fetches anything it turns the filter into a query of its backend, or finds that the
filter is routed away from its instance. `ends_prepareQuery` takes this apart for any backend, and
`GitLab.isSome_of_ends_prepare` and `GitHub.isSome_of_ends_prepare` say when there is a query: iff
the routing of the filter as it was written allows the instance, whatever login stands for the
current user.
-/

namespace ForgeBoard

open ForgeBoard.Filter Query

variable {settings : ClientSettings} {clock : Clock} {i : Instance} {filter : String} {e : Expr}

/-- The expression with a login in place of the current user, or as it was. -/
theorem Identity.ends_expandAction {ask : Action String} {e' : Expr}
    (h : (expandAction ask i clock e).run.Ends (.ok e')) :
    e' = e ∨ ∃ login, e' = e.withUser login := by
  change (expand accessLogins ask.run i clock.instant e).Ends (.ok e') at h
  unfold expand at h
  split at h
  · obtain ⟨answer, -, h⟩ := Program.ends_bind_iff.mp h
    cases answer with
    | error err => exact absurd (Program.ends_pure_iff.mp h) nofun
    | ok login => exact .inr ⟨login, Except.ok.inj (Program.ends_pure_iff.mp h)⟩
  · exact .inl (Except.ok.inj (Program.ends_pure_iff.mp h))

/-- **What a client prepares** from a filter text: what stands for a blank text, or the query of the
expression that is read, with a login in it if need be, unless its routing keeps it away. -/
theorem ends_prepareQuery {α : Type} {ask : Action String}
    {translate : Int → Expr → Except QueryError (α × Routing)} {blank : α} {answer : Option α}
    (h : (prepareQuery settings ask translate blank clock i filter).run.Ends (.ok answer)) :
    (readFilter settings.refuseLegacy filter = .ok none ∧ answer = some blank) ∨
      ∃ e e' query routing, readFilter settings.refuseLegacy filter = .ok (some e) ∧
        (e' = e ∨ ∃ login, e' = e.withUser login) ∧
        translate clock.now e' = .ok (query, routing) ∧
        answer = if routing.allows i then some query else none := by
  unfold prepareQuery at h
  split at h
  · exact absurd h Action.not_ends_throw_ok
  · next hread => exact .inl ⟨hread, Action.ends_pure_ok_iff.mp h⟩
  · next e hread =>
    obtain ⟨e', he', h⟩ := Action.ends_bind_ok_iff.mp h
    split at h
    · exact absurd h Action.not_ends_throw_ok
    · next query routing htranslate =>
      exact .inr ⟨e, e', query, routing, hread, Identity.ends_expandAction he', htranslate,
        Action.ends_pure_ok_iff.mp h⟩

/-! ## The routing of a query -/

theorem Query.routing_of_prepare {r : Option Expr × Routing} (h : prepare e = .ok r) :
    r.2 = e.normalize.patterns :=
  (Expr.route_eq_ok.mp (prepare_eq_ok_iff.mp h)).2.2

theorem Query.routing_of_listing {q : ListingQuery} {now : Int}
    (h : ListingQuery.ofExpr now e = .ok q) : q.routing = e.normalize.patterns := by
  obtain ⟨⟨remaining, routing⟩, hprepare, h⟩ := bind_eq_ok_iff.mp h
  rw [← routing_of_prepare hprepare]
  cases remaining with
  | none => rw [← Except.ok.inj h]
  | some rest =>
    obtain ⟨listing, -, h⟩ := bind_eq_ok_iff.mp h
    rw [← Except.ok.inj h]

theorem Query.routing_of_search {q : SearchQuery} {now : Int}
    (h : SearchQuery.ofExpr now e = .ok q) : q.routing = e.normalize.patterns := by
  obtain ⟨⟨remaining, routing⟩, hprepare, h⟩ := bind_eq_ok_iff.mp h
  rw [← routing_of_prepare hprepare]
  cases remaining with
  | none => rw [← Except.ok.inj h]
  | some rest =>
    obtain ⟨query, -, h⟩ := bind_eq_ok_iff.mp h
    rw [← Except.ok.inj h]

/-- With a translation that keeps the patterns of the filter, there is a query iff these allow the
instance. -/
theorem isSome_of_ends_prepareQuery {α : Type} {ask : Action String}
    {translate : Int → Expr → Except QueryError (α × Routing)} {blank : α} {answer : Option α}
    (htranslate : ∀ now e query routing, translate now e = .ok (query, routing) →
      routing = e.normalize.patterns)
    (hparse : parse filter = .ok e)
    (h : (prepareQuery settings ask translate blank clock i filter).run.Ends (.ok answer)) :
    answer.isSome = e.normalize.patterns.allows i := by
  have hread := readFilter_of_parse hparse settings.refuseLegacy
  obtain ⟨hblank, -⟩ | ⟨e₀, e', query, routing, hsome, hlogin, hquery, rfl⟩ := ends_prepareQuery h
  · exact absurd (hread.symm.trans hblank) nofun
  · obtain rfl := Option.some.inj (Except.ok.inj (hread.symm.trans hsome))
    have hpatterns : routing = e.normalize.patterns := by
      rw [htranslate _ _ _ _ hquery]
      rcases hlogin with rfl | ⟨login, rfl⟩
      · rfl
      · exact Expr.patterns_withUser login e
    rw [hpatterns]
    cases e.normalize.patterns.allows i <;> rfl

theorem GitLab.isSome_of_ends_prepare {answer : Option Listing} (hparse : parse filter = .ok e)
    (h : (GitLab.prepare settings clock i filter).run.Ends (.ok answer)) :
    answer.isSome = e.normalize.patterns.allows i := by
  refine isSome_of_ends_prepareQuery (fun now e query routing hquery => ?_) hparse h
  obtain ⟨q, hq, hpair⟩ := map_eq_ok_iff.mp hquery
  obtain ⟨-, rfl⟩ := Prod.mk.inj hpair
  exact routing_of_listing hq

theorem GitHub.isSome_of_ends_prepare {answer : Option String} (hparse : parse filter = .ok e)
    (h : (GitHub.prepare settings clock i filter).run.Ends (.ok answer)) :
    answer.isSome = e.normalize.patterns.allows i := by
  refine isSome_of_ends_prepareQuery (fun now e query routing hquery => ?_) hparse h
  obtain ⟨q, hq, hpair⟩ := map_eq_ok_iff.mp hquery
  obtain ⟨-, rfl⟩ := Prod.mk.inj hpair
  exact routing_of_search hq

end ForgeBoard
