import ForgeBoard.Proofs.Filter.Routing
import ForgeBoard.Proofs.Forge.Selection

/-!
# Alternatives of routing

Routing conditions can be joined by `or` among themselves. Under `or` as under `and` the patterns of
both sides are put together, each in its own list, and what an instance must not match on one side
it must not match at all. So `or` is less than a choice between two routings:
`Routing.allows_merge_iff` says by how much.

Result: `allows_or_iff`. It is a choice where no side has exclude patterns and both sides have
include patterns, or neither has.
-/

namespace ForgeBoard.Filter

/-! ## Two routings together -/

namespace Routing

variable {a b : Routing} {i : Instance}

theorem isMatchAny_append (i : Instance) (xs ys : List String) :
    i.isMatchAny (xs ++ ys) = (i.isMatchAny xs || i.isMatchAny ys) :=
  List.any_append

/-- **Two routings together** allow what one of them allows, but for the instances that are excluded
on either side, and those that no include pattern asks for where only one side has such patterns. -/
theorem allows_merge_iff :
    (a.merge b).allows i = true ↔
      (a.allows i = true ∨ b.allows i = true) ∧
        (i.isMatchAny a.excludes = false ∧ i.isMatchAny b.excludes = false) ∧
        ((a.includes = [] ↔ b.includes = []) ∨
          i.isMatchAny a.includes = true ∨ i.isMatchAny b.includes = true) := by
  simp only [allows_eq_true_iff, merge, isMatchAny_append, List.append_eq_nil_iff,
    Bool.or_eq_true, Bool.or_eq_false_iff]
  constructor
  · rintro ⟨⟨ha, hb⟩ | ha | hb, hexcludes⟩
    · exact ⟨.inl ⟨.inl ha, hexcludes.1⟩, hexcludes, .inl (iff_of_true ha hb)⟩
    · exact ⟨.inl ⟨.inr ha, hexcludes.1⟩, hexcludes, .inr (.inl ha)⟩
    · exact ⟨.inr ⟨.inr hb, hexcludes.2⟩, hexcludes, .inr (.inr hb)⟩
  · rintro ⟨hallowed, hexcludes, hboth | hincluded⟩
    · refine ⟨?_, hexcludes⟩
      rcases hallowed with ⟨ha | ha, -⟩ | ⟨hb | hb, -⟩
      · exact .inl ⟨ha, hboth.mp ha⟩
      · exact .inr (.inl ha)
      · exact .inl ⟨hboth.mpr hb, hb⟩
      · exact .inr (.inr hb)
    · exact ⟨.inr hincluded, hexcludes⟩

end Routing

/-! ## Routing conditions under `or` -/

namespace Expr

variable {l r : Expr} {remaining : Option Expr} {routing : Routing}

theorem predicates_ne_nil (e : Expr) : e.predicates ≠ [] := by
  induction e with
  | predicate p => exact List.cons_ne_nil _ _
  | unary negate inner ih => exact ih
  | binary op l r ihl _ => exact fun h => ihl (List.append_eq_nil_iff.mp h).1

theorem mixed_comm : Mixed l r ↔ Mixed r l :=
  or_comm

/-- A routing condition on one side leaves room for no other conditions on the other side. -/
theorem all_route_of_exists (h : ¬ Mixed l r) (hl : ∃ p ∈ l.predicates, p.isRouting = true) :
    ∀ p ∈ r.predicates, p.isRouting = true := by
  intro p hp
  rw [← Bool.not_eq_false]
  exact fun hother => h (.inl ⟨hl, p, hp, hother⟩)

theorem exists_routes_of_all (h : ∀ p ∈ l.predicates, p.isRouting = true) :
    ∃ p ∈ l.predicates, p.isRouting = true := by
  obtain ⟨p, hp⟩ := List.exists_mem_of_ne_nil _ l.predicates_ne_nil
  exact ⟨p, hp, h p hp⟩

/-- An `or` that is not mixed and has a routing condition has no other conditions. -/
theorem all_route_of_not_mixed (h : ¬ Mixed l r)
    (hrouting : ∃ p ∈ (binary .or l r).predicates, p.isRouting = true) :
    (∀ p ∈ l.predicates, p.isRouting = true) ∧ ∀ p ∈ r.predicates, p.isRouting = true := by
  have h' : ¬ Mixed r l := mt mixed_comm.mp h
  obtain ⟨p, hp, hroutes⟩ := hrouting
  -- from the side of the routing condition to the other one, and from there back
  rcases List.mem_append.mp hp with hp | hp
  · have hright := all_route_of_exists h ⟨p, hp, hroutes⟩
    exact ⟨all_route_of_exists h' (exists_routes_of_all hright), hright⟩
  · have hleft := all_route_of_exists h' ⟨p, hp, hroutes⟩
    exact ⟨hleft, all_route_of_exists h (exists_routes_of_all hleft)⟩

/-- Both sides of an `or` with routing conditions can be routed, and nothing is left of either. -/
theorem route_or (h : (binary .or l r).route = .ok (remaining, routing))
    (hrouting : ∃ p ∈ (binary .or l r).predicates, p.isRouting = true) :
    l.route = .ok (none, l.patterns) ∧ r.route = .ok (none, r.patterns) ∧
      routing = l.patterns.merge r.patterns := by
  obtain ⟨hroutable, -, rfl⟩ := route_eq_ok.mp h
  obtain ⟨hmixed, hl, hr⟩ := routable_binary_iff.mp hroutable
  obtain ⟨hleft, hright⟩ := all_route_of_not_mixed (hmixed rfl) hrouting
  exact ⟨route_eq_ok.mpr ⟨hl, (pruned_eq_none_iff.mpr hleft).symm, rfl⟩,
    route_eq_ok.mpr ⟨hr, (pruned_eq_none_iff.mpr hright).symm, rfl⟩, patterns_binary⟩

/-- **Routing conditions joined by `or`.** An instance is allowed iff one of the sides allows it,
neither side excludes it, and an include pattern asks for it where only one of the sides has include
patterns. So the instances are those of both sides where nothing is excluded and both sides, or
neither, have include patterns. -/
theorem allows_or_iff (h : (binary .or l r).route = .ok (remaining, routing))
    (hrouting : ∃ p ∈ (binary .or l r).predicates, p.isRouting = true) :
    ∃ left right, l.route = .ok (none, left) ∧ r.route = .ok (none, right) ∧
      (∀ i, routing.allows i = true ↔
        (left.allows i = true ∨ right.allows i = true) ∧
          (i.isMatchAny left.excludes = false ∧ i.isMatchAny right.excludes = false) ∧
          ((left.includes = [] ↔ right.includes = []) ∨
            i.isMatchAny left.includes = true ∨ i.isMatchAny right.includes = true)) ∧
      (left.excludes = [] → right.excludes = [] → (left.includes = [] ↔ right.includes = []) →
        ∀ i, routing.allows i = true ↔ left.allows i = true ∨ right.allows i = true) := by
  obtain ⟨hl, hr, rfl⟩ := route_or h hrouting
  refine ⟨l.patterns, r.patterns, hl, hr, fun i => Routing.allows_merge_iff, ?_⟩
  intro hleft hright hboth i
  rw [Routing.allows_merge_iff, hleft, hright]
  exact ⟨And.left, fun hallowed => ⟨hallowed, ⟨rfl, rfl⟩, .inl hboth⟩⟩

/-- The instances of a kind, or those of other kinds. -/
def onKind (op : CompareOp) (kind : String) : Expr :=
  .predicate (.compare "provider" op (.text kind))

theorem allows_or_iff_onKind :
    ∃ left right, (onKind .eq "github").route = .ok (none, left) ∧
      (onKind .ne "gitlab").route = .ok (none, right) ∧
      ∀ i, (Routing.mk ["github"] ["gitlab"]).allows i = true ↔
        (left.allows i = true ∨ right.allows i = true) ∧
          (i.isMatchAny left.excludes = false ∧ i.isMatchAny right.excludes = false) ∧
          ((left.includes = [] ↔ right.includes = []) ∨
            i.isMatchAny left.includes = true ∨ i.isMatchAny right.includes = true) := by
  have hroute : (binary .or (onKind .eq "github") (onKind .ne "gitlab")).route =
      .ok (none, ⟨["github"], ["gitlab"]⟩) := by
    decide
  obtain ⟨left, right, hl, hr, hallows, -⟩ :=
    allows_or_iff hroute ⟨_, List.mem_cons_self, by decide⟩
  exact ⟨left, right, hl, hr, hallows⟩

/-- **Two rejections joined by `or`** are no choice between them: they reject both kinds. -/
theorem rejects_both_kinds :
    (binary .or (onKind .ne "github") (onKind .ne "gitlab")).route =
        .ok (none, ⟨[], ["github", "gitlab"]⟩) ∧
      (onKind .ne "github").route = .ok (none, ⟨[], ["github"]⟩) ∧
      (onKind .ne "gitlab").route = .ok (none, ⟨[], ["gitlab"]⟩) ∧
      ¬ ((Routing.mk [] ["github", "gitlab"]).allows (.ofHost .gitlab "gitlab.com") = true ↔
        (Routing.mk [] ["github"]).allows (.ofHost .gitlab "gitlab.com") = true ∨
          (Routing.mk [] ["gitlab"]).allows (.ofHost .gitlab "gitlab.com") = true) := by
  decide

end Expr

end ForgeBoard.Filter
