import ForgeBoard.Proofs.Filter.Normal

/-!
# Filters without the names of users

A login that is put in place of the current user changes nothing but texts of conditions on users.
So two filters that differ in logins only are the same filter once these texts are left out
(`Expr.unnamed`). This lasts through normalization (`Expr.unnamed_normalize_withUser`), and what is
taken out of a filter for its routing does not depend on it (`Expr.route_unnamed`).
-/

namespace ForgeBoard.Filter

/-- The value with its text left out. -/
def Value.unnamed : Value → Value
  | text _ => text ""
  | v => v

/-- The condition with the texts left out that name users. -/
def Predicate.unnamed (p : Predicate) : Predicate :=
  if p.isOnUsers then { p with operand := p.operand.map Value.unnamed } else p

/-- The expression with the texts left out that name users. -/
def Expr.unnamed (e : Expr) : Expr :=
  e.map Predicate.unnamed

theorem Operand.map_eq_single_iff {f : Value → Value} {operand : Operand} {w : Value} :
    operand.map f = .single w ↔ ∃ v, operand = .single v ∧ f v = w := by
  cases operand <;> simp [Operand.map]

/-- A map that makes no calls makes no operand a call. -/
theorem Operand.map_ne_call {g : Value → Value} {operand : Operand}
    (hg : ∀ v f, g v = .call f → v = .call f) (h : ∀ f, operand ≠ .single (.call f)) (f : Call) :
    operand.map g ≠ .single (.call f) := by
  intro hf
  obtain ⟨v, hv, hcall⟩ := map_eq_single_iff.mp hf
  exact h f (hv.trans (congrArg single (hg v f hcall)))

theorem Operand.map_map (f g : Value → Value) (operand : Operand) :
    (operand.map f).map g = operand.map (g ∘ f) := by
  cases operand with
  | single v => rfl
  | list vs => exact congrArg Operand.list List.map_map

theorem Expr.map_map (f g : Predicate → Predicate) (e : Expr) :
    (e.map f).map g = e.map (g ∘ f) := by
  induction e with
  | predicate p => rfl
  | unary negate inner ih => rw [map, map, ih, map]
  | binary op l r ihl ihr => rw [map, map, ihl, ihr, map]

/-! ## Logins and normal forms -/

namespace Value

theorem unnamed_normalize (v : Value) : v.normalize.unnamed = v.unnamed := by
  cases v with
  | text s => by_cases h : s = shortMe <;> simp [normalize, h, unnamed]
  | bool | number | date | span | call => rfl

theorem unnamed_eq_call_iff {v : Value} {f : Call} : v.unnamed = .call f ↔ v = .call f := by
  cases v <;> simp [unnamed]

theorem unnamed_unnamed (v : Value) : v.unnamed.unnamed = v.unnamed := by
  cases v <;> rfl

/-- What stands for the current user is a text, and so is the login. -/
theorem unnamed_withUser (login : String) (v : Value) :
    (v.withUser login).unnamed = v.unnamed := by
  unfold withUser
  cases v with
  | text s => split <;> rfl
  | bool | number | date | span | call => rfl

end Value

namespace Predicate

variable {p : Predicate}

theorem unnamed_of_not_isOnUsers (h : p.isOnUsers = false) : p.unnamed = p := by
  rw [unnamed, h]
  rfl

theorem unnamed_of_isOnUsers (h : p.isOnUsers = true) :
    p.unnamed = { p with operand := p.operand.map Value.unnamed } := by
  rw [unnamed, h]
  rfl

theorem op_unnamed (p : Predicate) : p.unnamed.op = p.op := by
  unfold unnamed
  split <;> rfl

theorem key_unnamed (p : Predicate) : p.unnamed.key = p.key := by
  unfold unnamed
  split <;> rfl

theorem isRouting_unnamed (p : Predicate) : p.unnamed.isRouting = p.isRouting := by
  rw [isRouting, key_unnamed, isRouting]

theorem isOnUsers_of_key_eq {q : Predicate} (h : q.key = p.key) : q.isOnUsers = p.isOnUsers := by
  rw [isOnUsers, h, isOnUsers]

theorem unnamed_of_isRouting (h : p.isRouting = true) : p.unnamed = p := by
  have hkey : p.key = routingField := eq_of_beq h
  refine unnamed_of_not_isOnUsers ?_
  rw [isOnUsers, hkey]
  decide

theorem unnamed_withUser (login : String) (p : Predicate) :
    (p.withUser login).unnamed = p.unnamed := by
  cases husers : p.isOnUsers with
  | false => rw [withUser, husers, if_neg Bool.false_ne_true]
  | true =>
    have hlogin := isOnUsers_of_key_eq (key_withUser login p)
    rw [unnamed_of_isOnUsers (hlogin.trans husers), unnamed_of_isOnUsers husers,
      withUser_of_isOnUsers husers, Operand.map_map]
    exact congrArg (fun f => { p with operand := p.operand.map f })
      (funext (Value.unnamed_withUser login))

/-- A call of `last` has no text, and other operands are normalized value by value. -/
theorem unnamed_normalize_unnamed (p : Predicate) :
    p.unnamed.normalize.unnamed = p.normalize.unnamed := by
  cases husers : p.isOnUsers with
  | false => rw [unnamed_of_not_isOnUsers husers]
  | true =>
    by_cases hcall : ∃ f, p.operand = .single (.call f)
    · obtain ⟨f, hf⟩ := hcall
      have hsame : p.unnamed = p := by
        rw [unnamed_of_isOnUsers husers, hf]
        exact congrArg (Predicate.mk p.field p.op) hf.symm
      rw [hsame]
    · have hnot : ∀ f, p.operand ≠ .single (.call f) := fun f hf => hcall ⟨f, hf⟩
      have hnot' : ∀ f, p.unnamed.operand ≠ .single (.call f) := by
        rw [unnamed_of_isOnUsers husers]
        exact Operand.map_ne_call (fun _ _ => Value.unnamed_eq_call_iff.mp) hnot
      have hvalues : (Value.unnamed ∘ Value.normalize) ∘ Value.unnamed =
          Value.unnamed ∘ Value.normalize := by
        funext v
        simp only [Function.comp_apply, Value.unnamed_normalize, Value.unnamed_unnamed]
      rw [normalize_of_not_call hnot, normalize_of_not_call hnot', unnamed_of_isOnUsers husers]
      have hkey : ∀ o : Operand, ({ p with operand := o } : Predicate).isOnUsers = true :=
        fun o => (isOnUsers_of_key_eq rfl).trans husers
      rw [unnamed_of_isOnUsers (hkey _), unnamed_of_isOnUsers (hkey _)]
      simp only [Operand.map_map, Function.comp_def] at hvalues ⊢
      rw [hvalues]

end Predicate

namespace Expr

/-- **A login leaves no trace** in the normal form without names. -/
theorem unnamed_normalize_withUser (login : String) (e : Expr) :
    (e.withUser login).normalize.unnamed = e.normalize.unnamed := by
  have hlogin : (Predicate.unnamed ∘ Predicate.normalize) ∘ Predicate.withUser login =
      Predicate.unnamed ∘ Predicate.normalize := by
    funext p
    simp only [Function.comp_apply]
    rw [← Predicate.unnamed_normalize_unnamed, Predicate.unnamed_withUser,
      Predicate.unnamed_normalize_unnamed]
  rw [unnamed, normalize, withUser, map_map, map_map, hlogin, unnamed, normalize, map_map]

/-! ## Routing -/

variable {f : Predicate → Predicate}

theorem any_map (test : Predicate → Bool) (f : Predicate → Predicate) (e : Expr) :
    (e.map f).any test = e.any (test ∘ f) := by
  induction e with
  | predicate p => rfl
  | unary negate inner ih => exact ih
  | binary op l r ihl ihr => rw [map, any, ihl, ihr, any]

theorem joinRemaining_map (op : Connective) (l r : Option Expr) :
    joinRemaining op (l.map (map f)) (r.map (map f)) = (joinRemaining op l r).map (map f) := by
  cases l <;> cases r <;> rfl

/-- What is taken apart has its other conditions replaced, if routing conditions stay as they are
and no other condition becomes one. -/
theorem takeApart_map (hrouting : ∀ p, (f p).isRouting = p.isRouting)
    (hfixed : ∀ p, p.isRouting = true → f p = p) (e : Expr) :
    (e.map f).takeApart =
      e.takeApart.map fun r => { r with remaining := r.remaining.map (map f) } := by
  induction e with
  | predicate p =>
    rw [map, takeApart, hrouting, takeApart]
    cases hp : p.isRouting with
    | false => rfl
    | true =>
      rw [hfixed p hp]
      cases p.routing <;> rfl
  | unary negate inner ih =>
    have hany : (inner.map f).any Predicate.isRouting = inner.any Predicate.isRouting := by
      rw [any_map]
      exact congrArg (inner.any ·) (funext hrouting)
    rw [map, takeApart, hany, ih, takeApart]
    split
    · rfl
    · cases inner.takeApart with
      | error e => rfl
      | ok r => cases negate <;> cases hr : r.remaining <;> simp [Except.map, hr, map]
  | binary op l r ihl ihr =>
    rw [map, takeApart, ihl, ihr, takeApart]
    cases l.takeApart with
    | error e => rfl
    | ok a =>
      cases r.takeApart with
      | error e => rfl
      | ok b =>
        simp only [Except.map, bind, Except.bind, Option.isSome_map, joinRemaining_map]
        split <;> rfl

/-- **The routing of a filter does not depend on the names of users.** -/
theorem route_unnamed (e : Expr) :
    e.unnamed.route = e.route.map fun r => (r.1.map unnamed, r.2) := by
  rw [route, unnamed, takeApart_map Predicate.isRouting_unnamed
    (fun _ => Predicate.unnamed_of_isRouting), route]
  cases e.takeApart <;> rfl

end Expr

end ForgeBoard.Filter
