import ForgeBoard.Proofs.Filter.Unnamed

/-!
# Normal forms before logins and after them

Normalization and the login that takes the place of the current user overlap on the same values,
with rules of their own: `me` is written out as `@me` on every field and in this case only, and a
login replaces either of them in any case, on users. Each of the two is a map on conditions, and a
condition that speaks of nobody (`Predicate.needsUser`) is left alone by a login. On the others both
go value by value, so the order is a matter of values.

* `Value.normalize_withUser_iff`, `Predicate.normalize_withUser_iff`, `Expr.normalize_withUser_iff`:
  both orders agree unless the login is `me` itself, which is written out when it is put in first.
* `Expr.normalize_normalize_withUser`: they always agree once the filter is normalized again.
* `Expr.needsUser_normalize`: the normal form needs a login iff the filter does.
-/

namespace ForgeBoard.Filter

variable {login : String}

/-! ## Values -/

namespace Value

theorem withUser_of_isMe {v : Value} (h : v.isMe = true) (login : String) :
    v.withUser login = .text login :=
  if_pos h

theorem withUser_of_not_isMe {v : Value} (h : v.isMe = false) (login : String) :
    v.withUser login = v :=
  if_neg (ne_true_of_eq_false h)

theorem normalize_normalize (v : Value) : v.normalize.normalize = v.normalize := by
  cases v with
  | text s => by_cases h : s = shortMe <;> simp [normalize, h, show me ≠ shortMe by decide]
  | bool | number | date | span | call => rfl

theorem isMe_normalize (v : Value) : v.normalize.isMe = v.isMe := by
  cases v with
  | text s =>
    by_cases h : s = shortMe
    · subst h
      decide
    · simp [normalize, h]
  | bool | number | date | span | call => rfl

theorem normalize_eq_call_iff {v : Value} {f : Call} : v.normalize = .call f ↔ v = .call f := by
  cases v with
  | text s => by_cases h : s = shortMe <;> simp [normalize, h]
  | bool | number | date | span | call => exact Iff.rfl

theorem withUser_eq_call_iff {v : Value} {f : Call} : v.withUser login = .call f ↔ v = .call f := by
  cases h : v.isMe with
  | false => rw [withUser_of_not_isMe h]
  | true =>
    rw [withUser_of_isMe h]
    constructor
    · exact nofun
    · rintro rfl
      exact absurd h nofun

/-- The current user is replaced in both orders, and written out afterwards in one. -/
theorem normalize_withUser_iff (login : String) (v : Value) :
    (v.withUser login).normalize = v.normalize.withUser login ↔
      login ≠ shortMe ∨ v.isMe = false := by
  have hnormal := v.isMe_normalize
  cases h : v.isMe with
  | false => simp [withUser_of_not_isMe h, withUser_of_not_isMe (hnormal.trans h)]
  | true =>
    rw [withUser_of_isMe h, withUser_of_isMe (hnormal.trans h), normalize]
    by_cases hlogin : login = shortMe
    · simp [hlogin, show me ≠ shortMe by decide]
    · simp [hlogin]

theorem normalize_normalize_withUser (login : String) (v : Value) :
    (v.normalize.withUser login).normalize = (v.withUser login).normalize := by
  have hnormal := v.isMe_normalize
  cases h : v.isMe with
  | false =>
    rw [withUser_of_not_isMe h, withUser_of_not_isMe (hnormal.trans h), normalize_normalize]
  | true => rw [withUser_of_isMe h, withUser_of_isMe (hnormal.trans h)]

end Value

/-! ## Operands -/

theorem Operand.map_eq_map_iff {f g : Value → Value} {operand : Operand} :
    operand.map f = operand.map g ↔ ∀ v ∈ operand.values, f v = g v := by
  cases operand with
  | single v => simp [map, values]
  | list vs => simp [map, values]

theorem Operand.map_eq_self {f : Value → Value} {operand : Operand}
    (h : ∀ v ∈ operand.values, f v = v) : operand.map f = operand := by
  cases operand with
  | single v => exact congrArg single (h v List.mem_cons_self)
  | list vs => exact congrArg list ((List.map_congr_left h).trans (List.map_id' vs))

/-! ## Conditions -/

namespace Predicate

variable {p : Predicate}

theorem needsUser_eq_true_iff :
    p.needsUser = true ↔ p.isOnUsers = true ∧ ∃ v ∈ p.values, v.isMe = true := by
  simp [needsUser]

/-- A condition that speaks of nobody is left alone. -/
theorem withUser_of_not_needsUser (h : p.needsUser = false) (login : String) :
    p.withUser login = p := by
  cases husers : p.isOnUsers with
  | false => exact if_neg (ne_true_of_eq_false husers)
  | true =>
    have hvalues : ∀ v ∈ p.values, v.isMe = false := by
      simpa [needsUser, husers] using h
    rw [withUser_of_isOnUsers husers,
      Operand.map_eq_self fun v hv => Value.withUser_of_not_isMe (hvalues v hv) login]

theorem not_call_of_needsUser (h : p.needsUser = true) (f : Call) :
    p.operand ≠ .single (.call f) := by
  intro hcall
  obtain ⟨-, v, hv, hme⟩ := needsUser_eq_true_iff.mp h
  rw [values, hcall] at hv
  obtain rfl := List.mem_singleton.mp hv
  exact absurd hme nofun

theorem normalize_normalize (p : Predicate) : p.normalize.normalize = p.normalize := by
  by_cases hcall : ∃ f, p.operand = .single (.call f)
  · obtain ⟨f, -, h⟩ | h := p.normalize_cases
    · rw [h]
      rfl
    · obtain ⟨f, hf⟩ := hcall
      have hsame : p.normalize = p := by
        rw [h, hf]
        exact congrArg (Predicate.mk p.field p.op) hf.symm
      rw [hsame, hsame]
  · have hnot : ∀ f, p.operand ≠ .single (.call f) := fun f hf => hcall ⟨f, hf⟩
    rw [normalize_of_not_call hnot, normalize_of_not_call (Operand.map_ne_call
      (fun _ _ => Value.normalize_eq_call_iff.mp) hnot), Operand.map_map]
    exact congrArg (fun g => { p with operand := p.operand.map g })
      (funext Value.normalize_normalize)

theorem isOnUsers_normalize (p : Predicate) : p.normalize.isOnUsers = p.isOnUsers :=
  isOnUsers_of_key_eq p.key_normalize

theorem needsUser_normalize (p : Predicate) : p.normalize.needsUser = p.needsUser := by
  rw [needsUser, isOnUsers_normalize, needsUser]
  obtain ⟨f, hf, h⟩ | h := p.normalize_cases
  · -- neither a call nor the bound that it stands for is the current user
    rw [h, values, values, hf]
    rfl
  · rw [h, values, Operand.values_map, List.any_map, values]
    exact congrArg (fun test => p.isOnUsers && p.operand.values.any test)
      (funext Value.isMe_normalize)

/-- On the current user, both stages go value by value. -/
theorem withUser_normalize_of_needsUser (h : p.needsUser = true) (login : String) :
    p.normalize.withUser login =
      { p with operand := p.operand.map (Value.withUser login ∘ Value.normalize) } := by
  have husers := p.isOnUsers_normalize.trans (needsUser_eq_true_iff.mp h).1
  rw [withUser_of_isOnUsers husers, normalize_of_not_call (not_call_of_needsUser h),
    Operand.map_map]

theorem normalize_withUser_of_needsUser (h : p.needsUser = true) (login : String) :
    (p.withUser login).normalize =
      { p with operand := p.operand.map (Value.normalize ∘ Value.withUser login) } := by
  rw [withUser_of_isOnUsers (needsUser_eq_true_iff.mp h).1, normalize_of_not_call
    (Operand.map_ne_call (fun _ _ => Value.withUser_eq_call_iff.mp) (not_call_of_needsUser h)),
    Operand.map_map]

theorem normalize_withUser_iff (login : String) (p : Predicate) :
    (p.withUser login).normalize = p.normalize.withUser login ↔
      login ≠ shortMe ∨ p.needsUser = false := by
  cases h : p.needsUser with
  | false =>
    rw [withUser_of_not_needsUser h, withUser_of_not_needsUser (p.needsUser_normalize.trans h)]
    simp
  | true =>
    obtain ⟨-, v, hv, hme⟩ := needsUser_eq_true_iff.mp h
    rw [normalize_withUser_of_needsUser h, withUser_normalize_of_needsUser h, Predicate.mk.injEq,
      Operand.map_eq_map_iff]
    simp only [Function.comp_apply, Value.normalize_withUser_iff, true_and]
    constructor
    · intro hall
      exact .inl ((hall v hv).resolve_right (ne_false_of_eq_true hme))
    · intro hlogin w _
      exact .inl (hlogin.resolve_right (by simp))

theorem normalize_normalize_withUser (login : String) (p : Predicate) :
    (p.normalize.withUser login).normalize = (p.withUser login).normalize := by
  cases h : p.needsUser with
  | false =>
    rw [withUser_of_not_needsUser h, withUser_of_not_needsUser (p.needsUser_normalize.trans h),
      normalize_normalize]
  | true =>
    have hcall : ∀ f, p.operand.map (Value.withUser login ∘ Value.normalize) ≠
        .single (.call f) :=
      Operand.map_ne_call (fun _ _ hv =>
        Value.normalize_eq_call_iff.mp (Value.withUser_eq_call_iff.mp hv)) (not_call_of_needsUser h)
    rw [withUser_normalize_of_needsUser h, normalize_withUser_of_needsUser h,
      normalize_of_not_call hcall, Operand.map_map]
    exact congrArg (fun g => { p with operand := p.operand.map g })
      (funext (Value.normalize_normalize_withUser login))

end Predicate

/-! ## Expressions -/

namespace Expr

theorem map_eq_map_iff {f g : Predicate → Predicate} {e : Expr} :
    e.map f = e.map g ↔ ∀ p ∈ e.predicates, f p = g p := by
  induction e with
  | predicate p => simp [map, predicates]
  | unary negate inner ih => simp [map, predicates, ih]
  | binary op l r ihl ihr => simp [map, predicates, ihl, ihr, or_imp, forall_and]

theorem needsUser_normalize (e : Expr) : e.normalize.needsUser = e.needsUser := by
  have hsame : Predicate.needsUser ∘ Predicate.normalize = Predicate.needsUser := by
    funext p
    rw [Function.comp_apply, p.needsUser_normalize]
  rw [needsUser, normalize, any_map, hsame, needsUser]

/-- **Normal forms commute with logins**, unless the login is `me` and takes somebody's place. -/
theorem normalize_withUser_iff (login : String) (e : Expr) :
    (e.withUser login).normalize = e.normalize.withUser login ↔
      login ≠ shortMe ∨ e.needsUser = false := by
  rw [normalize, withUser, map_map, withUser, normalize, map_map, map_eq_map_iff]
  simp only [Function.comp_apply, Predicate.normalize_withUser_iff]
  rw [needsUser, any_eq_false_iff]
  by_cases hlogin : login = shortMe <;> simp [hlogin]

theorem normalize_normalize_withUser (login : String) (e : Expr) :
    (e.normalize.withUser login).normalize = (e.withUser login).normalize := by
  simp only [normalize, withUser, map_map]
  rw [map_eq_map_iff]
  intro p _
  rw [Function.comp_apply, Function.comp_apply, Function.comp_apply,
    p.normalize_normalize_withUser]

end Expr

end ForgeBoard.Filter
