import ForgeBoard.Filter.Parser
import ForgeBoard.Proofs.Filter.Routing
import ForgeBoard.Proofs.Forge.Selection

/-!
# What a routing condition says of an instance

A routing condition is kept as patterns only, in the list of those to include or in the list of
those to exclude. `Predicate.Admits` is what the condition says by its operator and its values.

* `allows_patterns_iff`: the patterns of a condition allow an instance iff the condition admits it,
  unless it is a choice from an empty list (`Predicate.ChoosesNone`). Such a choice admits no
  instance, but it has no include patterns either, and `Routing.allows` takes that for no condition.

Result: `allows_iff_admits`, for filters with one routing condition, whatever else they ask for.
-/

namespace ForgeBoard.Filter

open Instance

variable {p : Predicate} {i : Instance} {e : Expr} {remaining : Option Expr} {routing : Routing}

namespace Predicate

/-- What the condition says of an instance: it matches one of the patterns, or for a rejection none
of them. -/
def Admits (p : Predicate) (i : Instance) : Prop :=
  match p.op with
  | .compare .eq | .member .within => ∃ s ∈ p.texts, i.isMatch s = true
  | .compare .ne | .member .notWithin => ∀ s ∈ p.texts, i.isMatch s = false
  | .compare _ => False

/-- A choice from an empty list. -/
def ChoosesNone (p : Predicate) : Prop :=
  p.op = .member .within ∧ p.operand = .list []

theorem not_admits_of_choosesNone (h : p.ChoosesNone) (i : Instance) : ¬ p.Admits i := by
  obtain ⟨hop, hoperand⟩ := h
  have htexts : p.texts = [] := by
    rw [texts, values, hoperand]
    rfl
  rw [Admits, hop, htexts]
  rintro ⟨s, hs, -⟩
  exact List.not_mem_nil hs

/-- Only an empty list has no patterns: a single value has one. -/
theorem Routes.texts_eq_nil_iff (h : p.Routes) : p.texts = [] ↔ p.values = [] := by
  rw [Predicate.texts, List.filterMap_eq_nil_iff, List.eq_nil_iff_forall_not_mem]
  refine forall₂_congr fun v hv => ?_
  obtain ⟨s, rfl⟩ := h.texts v hv
  exact iff_of_false (Option.some_ne_none s) id

end Predicate

open Predicate

/-! ## The patterns of one condition -/

/-- **The patterns of a condition** allow the instances that it admits. A choice from an empty list
allows all of them. -/
theorem allows_patterns_iff (h : p.Routes) :
    (⟨if p.includes then p.texts else [], if p.excludes then p.texts else []⟩ : Routing).allows i =
        true ↔ p.Admits i ∨ p.ChoosesNone := by
  have hnil := h.texts_eq_nil_iff
  rw [Routing.allows_eq_true_iff]
  -- one case for each form of condition; only a list can be empty
  rcases h.shape with ⟨v, hoperand, hop | hop⟩ | ⟨vs, hoperand, hop | hop⟩
  · have hsome : p.texts ≠ [] := by simp [hnil, values, hoperand, Operand.values]
    simp [Admits, ChoosesNone, includes, excludes, hop, hsome, isMatchAny]
  · simp [Admits, ChoosesNone, includes, excludes, hop, isMatchAny_eq_false_iff]
  · simp [Admits, ChoosesNone, includes, excludes, hop, hnil, values, hoperand, Operand.values,
      isMatchAny, or_comm]
  · simp [Admits, ChoosesNone, includes, excludes, hop, isMatchAny_eq_false_iff]

namespace Expr

theorem patterns_of_only (h : e.predicates.filter (·.isRouting) = [p]) :
    e.patterns = ⟨if p.includes then p.texts else [], if p.excludes then p.texts else []⟩ := by
  rw [patterns, h]
  cases hi : p.includes <;> cases he : p.excludes <;> simp [hi, he]

/-- **One routing condition** in a filter that can be routed compares with a text, or asks for
membership in a list of texts, and the filter is sent where the condition says. The exception is a
choice from an empty list: it admits no instance, and the filter is sent everywhere. -/
theorem allows_iff_admits (honly : e.predicates.filter (·.isRouting) = [p])
    (h : e.route = .ok (remaining, routing)) :
    p.Routes ∧ (∀ i, routing.allows i = true ↔ p.Admits i ∨ p.ChoosesNone) ∧
      (p.ChoosesNone → ∀ i, ¬ p.Admits i) := by
  obtain ⟨hroutable, -, rfl⟩ := route_eq_ok.mp h
  have hmem : p ∈ e.predicates.filter (·.isRouting) := honly ▸ List.mem_singleton_self p
  obtain ⟨hp, hrouting⟩ := List.mem_filter.mp hmem
  have hroutes := hroutable.routes p hp hrouting
  refine ⟨hroutes, fun i => ?_, fun hnone i => not_admits_of_choosesNone hnone i⟩
  rw [patterns_of_only honly]
  exact allows_patterns_iff hroutes

/-- Neither the forges of one kind nor one instance of the other; the blanks do not count. -/
def awayFrom : Predicate :=
  .member "provider" .notWithin [.text "github", .text " gitlab:gitlab.com "]

def openAwayFrom : Expr :=
  .binary .and (.predicate awayFrom) (.predicate (.compare "state" .eq (.text "open")))

theorem allows_iff_admits_openAwayFrom :
    openAwayFrom.predicates.filter (·.isRouting) = [awayFrom] ∧
      openAwayFrom.route = .ok (some (.predicate (.compare "state" .eq (.text "open"))),
        ⟨[], ["github", " gitlab:gitlab.com "]⟩) ∧
      awayFrom.Admits (.ofHost .gitlab "gitlab.example.com") ∧
      ¬ awayFrom.Admits (.ofHost .gitlab "gitlab.com") := by
  have honly : openAwayFrom.predicates.filter (·.isRouting) = [awayFrom] := by decide
  have hroute : openAwayFrom.route = .ok (some (.predicate (.compare "state" .eq (.text "open"))),
      ⟨[], ["github", " gitlab:gitlab.com "]⟩) := by
    decide
  have hsome : ¬ awayFrom.ChoosesNone := fun h => absurd h.1 (by decide)
  obtain ⟨-, hallows, -⟩ := allows_iff_admits honly hroute
  refine ⟨honly, hroute, ?_, fun hadmits => ?_⟩
  · have hallowed := (hallows (.ofHost .gitlab "gitlab.example.com")).mp (by decide)
    exact hallowed.resolve_right hsome
  · exact absurd ((hallows _).mpr (.inl hadmits)) (by decide)

/-- **A choice from an empty list** admits no instance, and the filter is sent to every one. -/
theorem emptyChoice_allows :
    parse "provider in []" = .ok (.predicate (.member "provider" .within [])) ∧
      (Expr.predicate (.member "provider" .within [])).route = .ok (none, .everywhere) ∧
      ¬ (Routing.everywhere.allows (.ofHost .github "github.com") = true ↔
        (Predicate.member "provider" .within []).Admits (.ofHost .github "github.com")) := by
  refine ⟨rfl, by decide, fun h => ?_⟩
  exact not_admits_of_choosesNone ⟨rfl, rfl⟩ _ (h.mp (by decide))

end Expr

end ForgeBoard.Filter
