import ForgeBoard.Dashboard.Report
import ForgeBoard.Proofs.Client.Prepared
import ForgeBoard.Proofs.Dashboard.Instances

/-!
# Whom the dashboard asks and whom the clients serve

A filter is routed twice. The dashboard selects the instances it asks (`Dashboard.routed`), and then
the client of each of them asks the routing of the query whether the instance is meant
(`prepareQuery`). The two are not the same function, and they part where all include patterns of the
filter are blank: the dashboard takes these for no patterns and asks everyone, and the clients drop
the filter everywhere, without an error.

* `Dashboard.routed_iff_served` says what each of them does, and so where they agree.
* `Config.named_of_instances`: a configuration has named instances only, as is assumed there.
-/

namespace ForgeBoard

open ForgeBoard.Filter Query

/-! ## Instances of a configuration -/

theorem Config.named_of_instances {environment : String → Option String} {c : Config}
    {instances : List Instance} (h : c.instances environment = .ok instances) :
    ∀ i ∈ instances, i.Named := by
  obtain ⟨-, rfl⟩ := instances_eq_ok_iff.mp h
  exact List.forall_mem_map.mpr fun f _ => ForgeConfig.named_described

theorem Dashboard.named_of_ofConfig {environment : String → Option String} {c : Config}
    {d : Dashboard} (h : ofConfig environment c = .ok d) : ∀ i ∈ d.instances, i.Named := by
  obtain ⟨instances, hinstances, h⟩ := bind_eq_ok_iff.mp h
  obtain rfl := Except.ok.inj h
  exact Config.named_of_instances hinstances

/-! ## Both routings of a filter -/

namespace Dashboard

variable {d : Dashboard} {i : Instance} {filter : String} {e : Expr} {remaining : Option Expr}
  {routing : Routing}

theorem routingOf_of_parse (hparse : parse filter = .ok e)
    (hroute : e.normalize.route = .ok (remaining, routing)) : routingOf filter = routing := by
  unfold routingOf
  rw [isBlankText_of_parse hparse, hparse]
  simp only [Bool.false_eq_true, if_false, hroute]

/-- **Whom the dashboard asks and whom the clients serve**, for a filter that is read and routed.
The dashboard asks for the instances that the routing allows, and for all that are not excluded if
there are include patterns and all of them are blank, where the routing allows none. A client has a
query for an instance iff the routing allows it, whatever it is answered about the current user. -/
theorem routed_iff_served (hnamed : ∀ j ∈ d.instances, j.Named) (hi : i ∈ d.instances)
    (hparse : parse filter = .ok e) (hroute : e.normalize.route = .ok (remaining, routing)) :
    ((∃ j ∈ d.routed filter, j.id = i.id) ↔
      routing.allows i = true ∨ routing.OnlyBlank ∧ i.isMatchAny routing.excludes = false) ∧
    (routing.OnlyBlank → routing.allows i = false) ∧
    ∀ settings clock,
      (∀ answer, (GitLab.prepare settings clock i filter).run.Ends (.ok answer) →
        answer.isSome = routing.allows i) ∧
      ∀ answer, (GitHub.prepare settings clock i filter).run.Ends (.ok answer) →
        answer.isSome = routing.allows i := by
  have hpatterns : routing = e.normalize.patterns := (Expr.route_eq_ok.mp hroute).2.2
  refine ⟨?_, fun h => Routing.allows_of_onlyBlank h i, fun settings clock => ⟨?_, ?_⟩⟩
  · rw [routed, routingOf_of_parse hparse hroute]
    exact Routing.selects_iff hnamed hi
  · rw [hpatterns]
    exact fun answer => GitLab.isSome_of_ends_prepare hparse
  · rw [hpatterns]
    exact fun answer => GitHub.isSome_of_ends_prepare hparse

/-- A dashboard with an instance of either kind. -/
def twoForges : Dashboard where
  settings := ⟨.standard, false⟩
  instances := [.ofHost .gitlab "gitlab.com", .ofHost .github "github.com"]

theorem twoForges_named : ∀ j ∈ twoForges.instances, j.Named :=
  List.forall_mem_cons.mpr ⟨rfl, List.forall_mem_cons.mpr ⟨rfl, List.forall_mem_nil _⟩⟩

/-- A filter for GitHub, with a blank pattern beside the one that counts. -/
def onGitHub : String :=
  "provider in [\" \", \"github\"] and label = \"bug\""

def onGitHubExpr : Expr :=
  .binary .and
    (.predicate (.member "provider" .within [.text " ", .text "github"]))
    (.predicate (.compare "label" .eq (.text "bug")))

theorem routed_iff_served_onGitHub :
    (∃ j ∈ twoForges.routed onGitHub, j.id = "github:github.com") ∧
      (⟨[" ", "github"], []⟩ : Routing).allows (.ofHost .github "github.com") = true := by
  have hi : Instance.ofHost .github "github.com" ∈ twoForges.instances :=
    List.mem_cons_of_mem _ List.mem_cons_self
  have hparse : parse onGitHub = .ok onGitHubExpr := rfl
  have hroute : onGitHubExpr.normalize.route =
      .ok (some (.predicate (.compare "label" .eq (.text "bug"))), ⟨[" ", "github"], []⟩) := rfl
  have hallows :
      (⟨[" ", "github"], []⟩ : Routing).allows (.ofHost .github "github.com") = true := by
    decide
  have hboth := routed_iff_served twoForges_named hi hparse hroute
  exact ⟨hboth.1.mpr (.inl hallows), hallows⟩

/-- A blank pattern and no other. -/
def onBlank : String :=
  "provider = \" \""

/-- The dashboard asks an instance for the items of a filter that its client drops. -/
theorem routed_and_not_served :
    parse onBlank = .ok (.predicate (.compare "provider" .eq (.text " "))) ∧
      (Expr.predicate (.compare "provider" .eq (.text " "))).normalize.route =
        .ok (none, ⟨[" "], []⟩) ∧
      (∃ j ∈ twoForges.routed onBlank, j.id = "github:github.com") ∧
      (⟨[" "], []⟩ : Routing).allows (.ofHost .github "github.com") = false ∧
      (GitHub.prepare twoForges.settings ⟨0, 0⟩ (.ofHost .github "github.com") onBlank).run.Ends
        (.ok none) := by
  have hrouting : routingOf onBlank = ⟨[" "], []⟩ := routingOf_of_parse rfl rfl
  have hi : Instance.ofHost .github "github.com" ∈ twoForges.instances :=
    List.mem_cons_of_mem _ List.mem_cons_self
  refine ⟨rfl, rfl, ?_, by decide, .done _⟩
  rw [routed, hrouting]
  exact (Routing.selects_iff twoForges_named hi).mpr (.inr ⟨⟨nofun, by decide⟩, by decide⟩)

end Dashboard

end ForgeBoard
