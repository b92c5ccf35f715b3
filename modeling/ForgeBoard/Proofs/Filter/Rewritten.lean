import ForgeBoard.Proofs.Filter.Tree
import Mathlib.Data.List.Forall2

/-!
# Expressions that differ in their conditions

Normalizing, and putting a login in place of the current user, rewrite conditions and leave the tree
as it is. `Expr.Rewritten r` relates two expressions with the same nodes whose conditions are
related by `r`, and `Operand.Rewritten r` two operands of the same form whose values are. They are
said by the constructors, without `map`; `rewritten_iff` brings the two together: where a relation
holds for the image under a function and for nothing else, one expression is related to the mapped
one and to nothing else.
-/

namespace ForgeBoard.Filter

/-- Operands of the same form, with related values in the same places. -/
inductive Operand.Rewritten (r : Value → Value → Prop) : Operand → Operand → Prop where
  | single {v v' : Value} (h : r v v') : Rewritten r (.single v) (.single v')
  | list {vs vs' : List Value} (h : List.Forall₂ r vs vs') : Rewritten r (.list vs) (.list vs')

/-- Expressions with the same nodes, with related conditions in the same places. -/
inductive Expr.Rewritten (r : Predicate → Predicate → Prop) : Expr → Expr → Prop where
  | predicate {p p' : Predicate} (h : r p p') : Rewritten r (.predicate p) (.predicate p')
  | unary {negate : Bool} {inner inner' : Expr} (h : Rewritten r inner inner') :
      Rewritten r (.unary negate inner) (.unary negate inner')
  | binary {op : Connective} {left left' right right' : Expr} (hleft : Rewritten r left left')
      (hright : Rewritten r right right') :
      Rewritten r (.binary op left right) (.binary op left' right')

/-! ## Operands -/

namespace Operand

variable {r : Value → Value → Prop} {f : Value → Value}

/-- **Operands**: a relation that is the graph of a function makes the mapped operand the only one
that is related. -/
theorem rewritten_iff (hr : ∀ v v', r v v' ↔ v' = f v) {operand operand' : Operand} :
    operand.Rewritten r operand' ↔ operand' = operand.map f := by
  have hlist : ∀ vs vs', List.Forall₂ r vs vs' ↔ vs' = vs.map f := by
    intro vs vs'
    have hgraph : r = fun v v' => f v = v' := by
      funext v v'
      exact propext ((hr v v').trans eq_comm)
    rw [hgraph, ← List.forall₂_map_left_iff, List.forall₂_eq_eq_eq, eq_comm]
  constructor
  · intro h
    cases h with
    | single h => exact congrArg single ((hr _ _).mp h)
    | list h => exact congrArg list ((hlist _ _).mp h)
  · rintro rfl
    cases operand with
    | single v => exact .single ((hr _ _).mpr rfl)
    | list vs => exact .list ((hlist _ _).mpr rfl)

end Operand

/-! ## Expressions -/

namespace Expr

variable {r : Predicate → Predicate → Prop} {f : Predicate → Predicate} {e e' : Expr}

theorem map_eq_self (h : ∀ p ∈ e.predicates, f p = p) : e.map f = e := by
  induction e with
  | predicate p => exact congrArg predicate (h p List.mem_cons_self)
  | unary negate inner ih => exact congrArg (unary negate) (ih h)
  | binary op left right ihl ihr =>
    rw [map, ihl fun p hp => h p (List.mem_append_left _ hp),
      ihr fun p hp => h p (List.mem_append_right _ hp)]

theorem rewritten_map (h : ∀ p, r p (f p)) (e : Expr) : e.Rewritten r (e.map f) := by
  induction e with
  | predicate p => exact .predicate (h p)
  | unary negate inner ih => exact .unary ih
  | binary op left right ihl ihr => exact .binary ihl ihr

namespace Rewritten

/-- The conditions are related from left to right. -/
theorem predicates (h : e.Rewritten r e') : List.Forall₂ r e.predicates e'.predicates := by
  induction h with
  | predicate h => exact .cons h .nil
  | unary _ ih => exact ih
  | binary _ _ ihl ihr => exact List.rel_append ihl ihr

/-- What is the same in related conditions is the same from left to right. -/
theorem map_predicates_eq {α : Type} {g : Predicate → α} (h : e.Rewritten r e')
    (hg : ∀ p p', r p p' → g p' = g p) : e'.predicates.map g = e.predicates.map g := by
  have hall : List.Forall₂ (fun p p' => g p = g p') e.predicates e'.predicates :=
    h.predicates.imp fun p p' hp => (hg p p' hp).symm
  have hmapped : List.Forall₂ Eq (e.predicates.map g) (e'.predicates.map g) :=
    List.forall₂_map_left_iff.mpr (List.forall₂_map_right_iff.mpr hall)
  rw [List.forall₂_eq_eq_eq] at hmapped
  exact hmapped.symm

end Rewritten

/-- **Expressions**: a relation that is the graph of a function makes the mapped expression the only
one that is related. -/
theorem rewritten_iff (hr : ∀ p p', r p p' ↔ p' = f p) :
    e.Rewritten r e' ↔ e' = e.map f := by
  constructor
  · intro h
    induction h with
    | predicate h => rw [(hr _ _).mp h, map]
    | unary _ ih => rw [ih, map]
    | binary _ _ ihl ihr => rw [ihl, ihr, map]
  · rintro rfl
    exact rewritten_map (fun p => (hr _ _).mpr rfl) e

end Expr

end ForgeBoard.Filter
