/-!
# Steps that succeed

A sequence of steps gives a result iff each of its steps gives one, and otherwise it has the error
of the first step that fails (`foldlM_eq_error_iff`). Two sequences are `Alike` if they fail with
the same error or give related results, and they are if their steps are.
-/

namespace ForgeBoard

variable {ε α β γ δ : Type}

theorem bind_eq_ok_iff {x : Except ε α} {f : α → Except ε β} {b : β} :
    (x >>= f) = .ok b ↔ ∃ a, x = .ok a ∧ f a = .ok b := by
  cases x with
  | error e => exact ⟨nofun, nofun⟩
  | ok a =>
    constructor
    · intro h
      exact ⟨a, rfl, h⟩
    · rintro ⟨a', ha, h⟩
      obtain rfl := Except.ok.inj ha
      exact h

theorem bind_eq_error_iff {x : Except ε α} {f : α → Except ε β} {e : ε} :
    (x >>= f) = .error e ↔ x = .error e ∨ ∃ a, x = .ok a ∧ f a = .error e := by
  cases x with
  | error e' =>
    constructor
    · intro h
      exact .inl (congrArg Except.error (Except.error.inj h))
    · rintro (h | ⟨a, h, -⟩)
      · exact congrArg Except.error (Except.error.inj h)
      · exact absurd h nofun
  | ok a =>
    constructor
    · intro h
      exact .inr ⟨a, rfl, h⟩
    · rintro (h | ⟨a', ha, h⟩)
      · exact absurd h nofun
      · obtain rfl := Except.ok.inj ha
        exact h

theorem map_eq_ok_iff {x : Except ε α} {f : α → β} {b : β} :
    x.map f = .ok b ↔ ∃ a, x = .ok a ∧ f a = b := by
  cases x with
  | error e => exact ⟨nofun, nofun⟩
  | ok a => simp [Except.map]

theorem eq_ok_of_toOption {x : Except ε α} {a : α} (h : x.toOption = some a) : x = .ok a := by
  cases x with
  | error e => exact absurd h nofun
  | ok b => rw [Option.some.inj h]

theorem ite_error_eq_ok_iff {c : Prop} [Decidable c] {e : ε} {x : Except ε α} {a : α} :
    (if c then .error e else x) = .ok a ↔ ¬ c ∧ x = .ok a := by
  split
  · next hc => exact ⟨nofun, fun h => absurd hc h.1⟩
  · next hc => exact ⟨fun h => ⟨hc, h⟩, fun h => h.2⟩

theorem eq_error_of_not_ok {x : Except ε α} (h : ¬ ∃ a, x = .ok a) : ∃ e, x = .error e := by
  cases x with
  | error e => exact ⟨e, rfl⟩
  | ok a => exact absurd ⟨a, rfl⟩ h

/-- **A run along a list** has the error of the first step that fails. -/
theorem foldlM_eq_error_iff {f : β → α → Except ε β} {xs : List α} {b : β} {e : ε} :
    xs.foldlM f b = .error e ↔ ∃ before x after mid, xs = before ++ x :: after ∧
      before.foldlM f b = .ok mid ∧ f mid x = .error e := by
  constructor
  · intro h
    induction xs generalizing b with
    | nil => exact absurd h nofun
    | cons y xs ih =>
      rw [List.foldlM_cons] at h
      rcases bind_eq_error_iff.mp h with h | ⟨b', hy, h⟩
      · exact ⟨[], y, xs, b, rfl, rfl, h⟩
      · obtain ⟨before, x, after, mid, rfl, hbefore, hx⟩ := ih h
        refine ⟨y :: before, x, after, mid, rfl, ?_, hx⟩
        rw [List.foldlM_cons]
        exact bind_eq_ok_iff.mpr ⟨b', hy, hbefore⟩
  · rintro ⟨before, x, after, mid, rfl, hbefore, hx⟩
    have hrest : (x :: after).foldlM f mid = .error e := by
      rw [List.foldlM_cons]
      exact bind_eq_error_iff.mpr (.inl hx)
    rw [List.foldlM_append]
    exact bind_eq_error_iff.mpr (.inr ⟨mid, hbefore, hrest⟩)

/-- Both fail with the same error, or both give results, which are related. -/
inductive Alike (r : α → β → Prop) : Except ε α → Except ε β → Prop where
  | error (e : ε) : Alike r (.error e) (.error e)
  | ok {a : α} {b : β} (h : r a b) : Alike r (.ok a) (.ok b)

namespace Alike

theorem refl {r : α → α → Prop} (hr : ∀ a, r a a) (x : Except ε α) : Alike r x x := by
  cases x with
  | error e => exact .error e
  | ok a => exact .ok (hr a)

variable {r : α → β → Prop} {x : Except ε α} {y : Except ε β}

theorem symm (h : Alike r x y) : Alike (fun b a => r a b) y x := by
  cases h with
  | error e => exact .error e
  | ok h => exact .ok h

theorem trans {s : β → γ → Prop} {t : α → γ → Prop} {z : Except ε γ} (hxy : Alike r x y)
    (hyz : Alike s y z) (ht : ∀ a b c, r a b → s b c → t a c) : Alike t x z := by
  cases hxy with
  | error e =>
    cases hyz with
    | error => exact .error e
  | ok hab =>
    cases hyz with
    | ok hbc => exact .ok (ht _ _ _ hab hbc)

theorem bind {s : γ → δ → Prop} {f : α → Except ε γ} {g : β → Except ε δ} (h : Alike r x y)
    (hfg : ∀ a b, r a b → Alike s (f a) (g b)) : Alike s (x >>= f) (y >>= g) := by
  cases h with
  | error e => exact .error e
  | ok hab => exact hfg _ _ hab

/-- The first step is the same. -/
theorem bindSame {s : γ → δ → Prop} {x : Except ε α} {f : α → Except ε γ} {g : α → Except ε δ}
    (hfg : ∀ a, Alike s (f a) (g a)) : Alike s (x >>= f) (x >>= g) := by
  cases x with
  | error e => exact .error e
  | ok a => exact hfg a

theorem map {s : γ → δ → Prop} {f : α → γ} {g : β → δ} (h : Alike r x y)
    (hfg : ∀ a b, r a b → s (f a) (g b)) : Alike s (x.map f) (y.map g) := by
  cases h with
  | error e => exact .error e
  | ok hab => exact .ok (hfg _ _ hab)

theorem bind_eq {f : α → Except ε γ} {g : β → Except ε γ} (h : Alike r x y)
    (hfg : ∀ a b, r a b → f a = g b) : (x >>= f) = (y >>= g) := by
  cases h with
  | error e => rfl
  | ok hab => exact hfg _ _ hab

theorem map_eq {f : α → γ} {g : β → γ} (h : Alike r x y) (hfg : ∀ a b, r a b → f a = g b) :
    x.map f = y.map g := by
  cases h with
  | error e => rfl
  | ok hab => exact congrArg Except.ok (hfg _ _ hab)

end Alike

end ForgeBoard
