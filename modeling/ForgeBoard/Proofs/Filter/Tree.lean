import ForgeBoard.Filter.Expr

/-!
# Conditions and nodes of a tree

`Expr.nodes` lists every subtree, the tree itself first. What `Expr.any` and `Expr.map` do is said
of the list of conditions `Expr.predicates`, and what `Operand.map` does of the list of values.
-/

namespace ForgeBoard.Filter

@[simp]
theorem Operand.values_map (f : Value → Value) (operand : Operand) :
    (operand.map f).values = operand.values.map f := by
  cases operand <;> rfl

namespace Expr

/-- The subtrees of a tree, the tree itself among them. -/
def nodes : Expr → List Expr
  | binary op left right => binary op left right :: (left.nodes ++ right.nodes)
  | unary negate inner => unary negate inner :: inner.nodes
  | predicate p => [predicate p]

/-- The conditions of a tree are the nodes without subtrees. -/
theorem mem_predicates_iff {p : Predicate} {e : Expr} :
    p ∈ e.predicates ↔ predicate p ∈ e.nodes := by
  induction e with
  | predicate q =>
    show p ∈ [q] ↔ predicate p ∈ [predicate q]
    rw [List.mem_singleton, List.mem_singleton, predicate.injEq]
  | unary negate inner ih =>
    show p ∈ inner.predicates ↔ predicate p ∈ unary negate inner :: inner.nodes
    rw [ih, List.mem_cons, or_iff_right nofun]
  | binary op l r ihl ihr =>
    show p ∈ l.predicates ++ r.predicates ↔ predicate p ∈ binary op l r :: (l.nodes ++ r.nodes)
    rw [List.mem_cons, or_iff_right nofun, List.mem_append, List.mem_append, ihl, ihr]

theorem any_eq_true_iff {test : Predicate → Bool} {e : Expr} :
    e.any test = true ↔ ∃ p ∈ e.predicates, test p = true := by
  induction e with
  | predicate p => simp [any, predicates]
  | unary negate inner ih => exact ih
  | binary op l r ihl ihr =>
    simp only [any, predicates, Bool.or_eq_true, ihl, ihr, List.mem_append, or_and_right,
      exists_or]

theorem any_eq_false_iff {test : Predicate → Bool} {e : Expr} :
    e.any test = false ↔ ∀ p ∈ e.predicates, test p = false := by
  rw [← Bool.not_eq_true, any_eq_true_iff]
  simp

@[simp]
theorem predicates_map (f : Predicate → Predicate) (e : Expr) :
    (e.map f).predicates = e.predicates.map f := by
  induction e with
  | predicate p => rfl
  | unary negate inner ih => exact ih
  | binary op l r ihl ihr => rw [map, predicates, ihl, ihr, predicates, List.map_append]

end Expr

end ForgeBoard.Filter
