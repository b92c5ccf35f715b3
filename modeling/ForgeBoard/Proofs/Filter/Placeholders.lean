import ForgeBoard.Proofs.Filter.Rewritten
import ForgeBoard.Proofs.Filter.StageOrder

/-!
# The placeholders of the current user

A placeholder is a text `me` or `@me`, in any ASCII case, in a condition on a field that holds
users. The detector (`Expr.needsUser`) looks for one in the list of conditions, and the rewriter
(`Expr.withUser`) goes through the operands. Here both are said by the places of an expression:
`Predicate.HasPlaceholder` says which they are, and `Predicate.Filled` relates a condition to the
one with a login in these places and in no others.

* `Predicate.filled_iff`: the rewriter fills one condition.
* `Predicate.needsUser_withUser`: a placeholder that is put in the place of another one is still
  there, and nothing else is.

Result: `placeholders_replaced`.
-/

namespace ForgeBoard.Filter

open Text

/-- The text stands for the current user where users are expected. -/
def IsPlaceholder (s : String) : Prop :=
  asciiLower s = "me" ∨ asciiLower s = "@me"

/-- The value is a placeholder in the condition. -/
def Predicate.HasPlaceholder (p : Predicate) (v : Value) : Prop :=
  p.key ∈ userFields ∧ ∃ s, v = .text s ∧ IsPlaceholder s

/-- The login is in the place of a value that is a placeholder; any other value is the same. -/
def Predicate.FillsValue (p : Predicate) (login : String) (v v' : Value) : Prop :=
  (p.HasPlaceholder v → v' = .text login) ∧ (¬ p.HasPlaceholder v → v' = v)

/-- The second condition is the first one with a login in the places of its placeholders: field,
operator, form of the operand and all other values are the same. -/
structure Predicate.Filled (login : String) (p p' : Predicate) : Prop where
  field : p'.field = p.field
  op : p'.op = p.op
  operand : p.operand.Rewritten (p.FillsValue login) p'.operand

variable {login : String} {v v' : Value} {p p' : Predicate} {e : Expr}

/-! ## Values -/

theorem isMe_text_iff {s : String} : (Value.text s).isMe = true ↔ IsPlaceholder s := by
  have hshort : asciiLower shortMe = "me" := by decide
  have hlong : asciiLower me = "@me" := by decide
  simp [Value.isMe, sameAsciiCase, hshort, hlong, IsPlaceholder]

namespace Value

theorem isMe_iff : v.isMe = true ↔ ∃ s, v = .text s ∧ IsPlaceholder s := by
  cases v with
  | text s => simp [isMe_text_iff]
  | bool | number | date | span | call => simp [isMe]

theorem isMe_withUser : (v.withUser login).isMe = true ↔ v.isMe = true ∧ IsPlaceholder login := by
  cases h : v.isMe with
  | true => simp [withUser_of_isMe h, isMe_text_iff]
  | false => simp [withUser_of_not_isMe h, h]

end Value

/-! ## Conditions -/

namespace Predicate

theorem isOnUsers_iff : p.isOnUsers = true ↔ p.key ∈ userFields := by
  simp [isOnUsers]

theorem hasPlaceholder_iff : p.HasPlaceholder v ↔ p.isOnUsers = true ∧ v.isMe = true := by
  rw [HasPlaceholder, isOnUsers_iff, Value.isMe_iff]

/-- A login goes through the values of a condition, and fills the places of the placeholders. -/
theorem exists_map_withUser (login : String) (p : Predicate) : ∃ f : Value → Value,
    p.withUser login = { p with operand := p.operand.map f } ∧
      ∀ v v', p.FillsValue login v v' ↔ v' = f v := by
  cases husers : p.isOnUsers with
  | true =>
    refine ⟨Value.withUser login, withUser_of_isOnUsers husers login, fun v v' => ?_⟩
    simp only [FillsValue, hasPlaceholder_iff, husers, true_and]
    cases hme : v.isMe with
    | true => simp [Value.withUser_of_isMe hme]
    | false => simp [Value.withUser_of_not_isMe hme]
  | false =>
    have hsame : p.withUser login = p := if_neg (ne_true_of_eq_false husers)
    refine ⟨id, ?_, fun v v' => ?_⟩
    · have hid : p.operand.map id = p.operand := Operand.map_eq_self fun _ _ => rfl
      rw [hsame, hid]
    · simp [FillsValue, hasPlaceholder_iff, husers]

/-- **One condition**: a login is put in the places of the placeholders. -/
theorem filled_iff : p.Filled login p' ↔ p' = p.withUser login := by
  obtain ⟨f, hmap, hf⟩ := p.exists_map_withUser login
  obtain ⟨field', op', operand'⟩ := p'
  rw [hmap, Predicate.mk.injEq, ← Operand.rewritten_iff hf]
  exact ⟨fun h => ⟨h.field, h.op, h.operand⟩, fun ⟨hfield, hop, h⟩ => ⟨hfield, hop, h⟩⟩

theorem needsUser_iff : p.needsUser = true ↔ ∃ v ∈ p.values, p.HasPlaceholder v := by
  simp only [needsUser_eq_true_iff, hasPlaceholder_iff, and_left_comm, exists_and_left]

/-- **What is left to replace** is a login that is a placeholder itself. -/
theorem needsUser_withUser :
    (p.withUser login).needsUser = true ↔ p.needsUser = true ∧ IsPlaceholder login := by
  cases husers : p.isOnUsers with
  | false =>
    have hsame : p.withUser login = p := if_neg (ne_true_of_eq_false husers)
    simp [hsame, needsUser_eq_true_iff, husers]
  | true =>
    have hlogin := isOnUsers_of_key_eq (key_withUser login p)
    rw [needsUser_eq_true_iff, needsUser_eq_true_iff, hlogin, withUser_of_isOnUsers husers, values,
      Operand.values_map, values]
    simp only [List.mem_map, exists_exists_and_eq_and, Value.isMe_withUser, husers, true_and,
      ← and_assoc, exists_and_right]

end Predicate

/-! ## Expressions -/

namespace Expr

theorem needsUser_iff :
    e.needsUser = true ↔ ∃ p ∈ e.predicates, ∃ v ∈ p.values, p.HasPlaceholder v := by
  simp only [needsUser, any_eq_true_iff, Predicate.needsUser_iff]

theorem needsUser_withUser :
    (e.withUser login).needsUser = true ↔ e.needsUser = true ∧ IsPlaceholder login := by
  rw [needsUser, withUser, any_map, any_eq_true_iff, needsUser, any_eq_true_iff]
  simp only [Function.comp_apply, Predicate.needsUser_withUser, ← and_assoc, exists_and_right]

/-- An expression without placeholders is left alone. -/
theorem withUser_of_not_needsUser (h : e.needsUser = false) (login : String) :
    e.withUser login = e := by
  have hnone : ∀ p ∈ e.predicates, p.needsUser = false := any_eq_false_iff.mp h
  exact map_eq_self fun p hp => Predicate.withUser_of_not_needsUser (hnone p hp) login

/-- **A login replaces all placeholders and nothing else.** There is something to replace iff a
condition has a placeholder. The result is the only expression with the same nodes and conditions
except that the login is in the places of the placeholders. Something is left to replace iff there
was something and the login is a placeholder itself, and if the login is none, no other login
changes the result. -/
theorem placeholders_replaced (e : Expr) (login : String) :
    (e.needsUser = true ↔ ∃ p ∈ e.predicates, ∃ v ∈ p.values, p.HasPlaceholder v) ∧
      (∀ e', e.Rewritten (Predicate.Filled login) e' ↔ e' = e.withUser login) ∧
      ((e.withUser login).needsUser = true ↔ e.needsUser = true ∧ IsPlaceholder login) ∧
      (IsPlaceholder login ∨ ∀ other, (e.withUser login).withUser other = e.withUser login) := by
  refine ⟨needsUser_iff, fun e' => rewritten_iff fun _ _ => Predicate.filled_iff,
    needsUser_withUser, ?_⟩
  by_cases hlogin : IsPlaceholder login
  · exact .inl hlogin
  · refine .inr (withUser_of_not_needsUser ?_)
    rw [← Bool.not_eq_true, needsUser_withUser]
    exact fun h => hlogin h.2

example : (predicate (.member "Assignee" .notWithin [.text "bob", .text "@Me"])).withUser "carol" =
    predicate (.member "Assignee" .notWithin [.text "bob", .text "carol"]) := by
  decide

end Expr

end ForgeBoard.Filter
