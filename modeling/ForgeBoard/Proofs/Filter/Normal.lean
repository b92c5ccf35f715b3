import ForgeBoard.Filter.Normal
import ForgeBoard.Proofs.Filter.Routing

/-!
# What normal forms and logins leave alone

Normalizing turns a condition into a bound or goes through its values (`Predicate.normalize_cases`),
and a login goes through the values of a condition on users. Both keep the field, and a routing
condition is not one on users. So a filter is routed alike for every login (`patterns_withUser`).
-/

namespace ForgeBoard.Filter

/-- The value with the current user replaced by a login. -/
def Value.withUser (login : String) (v : Value) : Value :=
  if v.isMe then .text login else v

variable {p : Predicate}

namespace Predicate

/-- The condition says with `in` or `=` that its field lies in the last while. -/
def InLast (p : Predicate) (span : TimeSpan) : Prop :=
  (p.op = .member .within ∨ p.op = .compare .eq) ∧ p.operand = .single (.call ⟨"last", span⟩)

theorem normalize_of_inLast {span : TimeSpan} (h : p.InLast span) :
    p.normalize = .compare p.field .ge (.span span.negated) := by
  obtain ⟨hop | hop, hoperand⟩ := h
  · unfold normalize
    rw [hop, hoperand]
    rfl
  · unfold normalize
    rw [hop, hoperand]
    rfl

theorem normalize_of_not_inLast (h : ∀ span, ¬ p.InLast span) :
    p.normalize = { p with operand := p.operand.map Value.normalize } := by
  have other : ∀ f, p.op = .member .within ∨ p.op = .compare .eq → p.operand = .single (.call f) →
      normalize.sinceLast p f = { p with operand := p.operand.map Value.normalize } := by
    rintro ⟨name, span⟩ hop hoperand
    have hname : name ≠ "last" := by
      rintro rfl
      exact h span ⟨hop, hoperand⟩
    -- the value of any other call is normal
    rw [normalize.sinceLast, if_neg hname, hoperand]
    exact congrArg (Predicate.mk p.field p.op) hoperand
  unfold normalize
  split
  · next f hop hoperand => exact other f (.inl hop) hoperand
  · next f hop hoperand => exact other f (.inr hop) hoperand
  · rfl

/-- **What normalizing does to a condition**: a call becomes a lower bound, or the operand is
normalized value by value. -/
theorem normalize_cases (p : Predicate) :
    (∃ f, p.operand = .single (.call f) ∧
        p.normalize = .compare p.field .ge (.span f.arg.negated)) ∨
      p.normalize = { p with operand := p.operand.map Value.normalize } := by
  by_cases h : ∃ span, p.InLast span
  · obtain ⟨span, h⟩ := h
    exact .inl ⟨⟨"last", span⟩, h.2, normalize_of_inLast h⟩
  · exact .inr (normalize_of_not_inLast (not_exists.mp h))

theorem normalize_of_not_call (h : ∀ f, p.operand ≠ .single (.call f)) :
    p.normalize = { p with operand := p.operand.map Value.normalize } :=
  p.normalize_cases.resolve_left fun ⟨f, hf, _⟩ => h f hf

theorem withUser_of_isOnUsers (h : p.isOnUsers = true) (login : String) :
    p.withUser login = { p with operand := p.operand.map (Value.withUser login) } :=
  if_pos h

theorem key_normalize (p : Predicate) : p.normalize.key = p.key := by
  obtain ⟨f, -, h⟩ | h := p.normalize_cases
  · rw [h]
    rfl
  · rw [h]
    rfl

theorem key_withUser (login : String) (p : Predicate) : (p.withUser login).key = p.key := by
  unfold withUser
  split <;> rfl

theorem isRouting_normalize (p : Predicate) : p.normalize.isRouting = p.isRouting := by
  rw [isRouting, key_normalize, isRouting]

theorem isRouting_withUser (login : String) (p : Predicate) :
    (p.withUser login).isRouting = p.isRouting := by
  rw [isRouting, key_withUser, isRouting]

theorem withUser_of_isRouting (h : p.isRouting = true) (login : String) :
    p.withUser login = p := by
  have hkey : p.key = routingField := eq_of_beq h
  have hfield : userFields.contains routingField = false := by decide
  rw [withUser, isOnUsers, hkey, hfield, if_neg nofun]

end Predicate

namespace Expr

/-- The routing conditions of the normal form, with a login and without. -/
theorem filter_isRouting_withUser (login : String) (e : Expr) :
    (e.withUser login).normalize.predicates.filter (·.isRouting) =
      e.normalize.predicates.filter (·.isRouting) := by
  have hsame : ∀ ps : List Predicate,
      ((ps.map (Predicate.withUser login)).map Predicate.normalize).filter (·.isRouting) =
        (ps.map Predicate.normalize).filter (·.isRouting) := by
    intro ps
    induction ps with
    | nil => rfl
    | cons p ps ih =>
      simp only [List.map_cons, List.filter_cons, Predicate.isRouting_normalize,
        Predicate.isRouting_withUser, ih]
      split
      · next h => rw [Predicate.withUser_of_isRouting h]
      · rfl
  simpa only [normalize, withUser, predicates_map] using hsame e.predicates

/-- The patterns of a filter do not depend on the login of the current user. -/
theorem patterns_withUser (login : String) (e : Expr) :
    (e.withUser login).normalize.patterns = e.normalize.patterns := by
  rw [patterns, patterns, filter_isRouting_withUser]

end Expr

end ForgeBoard.Filter
