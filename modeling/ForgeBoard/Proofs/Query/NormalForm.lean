import ForgeBoard.Proofs.Filter.Rewritten
import ForgeBoard.Proofs.Query.SameQuery

/-!
# Normal forms

A condition is normal if it has no sugar: the text `me` is not among its values, and it does not say
with `in` or `=` that its field lies in the `last` while. `Predicate.Normalized` says what becomes
of the sugar, one case for each kind, and `Expr.normalize` does just that to the conditions of a
tree (`Predicate.normalized_iff`).

What comes out has no sugar left, neither kind of sugar in the place of the other
(`Predicate.isNormal_normalize`), and conditions without sugar are kept
(`Predicate.normalize_of_isNormal`). Both together say that normalizing twice is normalizing once,
and so the queries, which are made of normal forms, do not depend on whether a filter was normalized
before.

Result: `normalize_exactly`.
-/

namespace ForgeBoard

namespace Filter

/-- The short name of the current user is written out; any other value is the same. -/
def Value.SpelledOut (v v' : Value) : Prop :=
  (v = .text "me" → v' = .text "@me") ∧ (v ≠ .text "me" → v' = v)

namespace Predicate

/-- The condition has no sugar. -/
structure IsNormal (p : Predicate) : Prop where
  noMe : .text "me" ∉ p.values
  notInLast : ∀ span, ¬ p.InLast span

/-- What becomes of a condition: one about the last while turns into a lower bound that lies the
while back, and any other one has the current user written out. -/
inductive Normalized (p : Predicate) : Predicate → Prop where
  | bound {span : TimeSpan} (h : p.InLast span) :
      Normalized p (.compare p.field .ge (.span span.negated))
  | values {operand' : Operand} (h : ∀ span, ¬ p.InLast span)
      (hoperand : p.operand.Rewritten Value.SpelledOut operand') :
      Normalized p { p with operand := operand' }

variable {p p' : Predicate} {v v' : Value} {span : TimeSpan}

theorem spelledOut_iff (v v' : Value) : v.SpelledOut v' ↔ v' = v.normalize := by
  unfold Value.SpelledOut
  by_cases h : v = .text "me"
  · subst h
    simp [Value.normalize, shortMe, me]
  · cases v with
    | text s =>
      have hs : s ≠ shortMe := fun hs => h (congrArg Value.text hs)
      simp [Value.normalize, hs, h]
    | bool | number | date | span | call => simp [Value.normalize]

/-- **One condition** is normalized as described. -/
theorem normalized_iff : p.Normalized p' ↔ p' = p.normalize := by
  have hoperand : ∀ operand', p.operand.Rewritten Value.SpelledOut operand' ↔
      operand' = p.operand.map Value.normalize :=
    fun _ => Operand.rewritten_iff spelledOut_iff
  constructor
  · intro h
    cases h with
    | bound h => rw [normalize_of_inLast h]
    | values h hop => rw [normalize_of_not_inLast h, (hoperand _).mp hop]
  · rintro rfl
    by_cases h : ∃ span, p.InLast span
    · obtain ⟨span, h⟩ := h
      rw [normalize_of_inLast h]
      exact .bound h
    · rw [not_exists] at h
      rw [normalize_of_not_inLast h]
      exact .values h ((hoperand _).mpr rfl)

theorem normalize_ne_me (v : Value) : v.normalize ≠ .text "me" := by
  cases v with
  | text s =>
    by_cases h : s = shortMe
    · rw [Value.normalize, if_pos h]
      decide
    · rw [Value.normalize, if_neg h]
      exact fun heq => h (Value.text.inj heq)
  | bool | number | date | span | call => simp [Value.normalize]

/-- **No sugar is left**: neither a bound nor a value that is written out is sugar of the one kind
or of the other. -/
theorem isNormal_normalize (p : Predicate) : p.normalize.IsNormal := by
  by_cases h : ∃ span, p.InLast span
  · obtain ⟨span, h⟩ := h
    rw [normalize_of_inLast h]
    exact ⟨fun hme => absurd (List.mem_singleton.mp hme) nofun, fun _ hlast => absurd hlast.2 nofun⟩
  · rw [not_exists] at h
    rw [normalize_of_not_inLast h]
    refine ⟨fun hme => ?_, fun span hlast => ?_⟩
    · rw [values, Operand.values_map] at hme
      obtain ⟨v, -, hv⟩ := List.mem_map.mp hme
      exact normalize_ne_me v hv
    · obtain ⟨hop, hcall⟩ := hlast
      obtain ⟨v, hoperand, hv⟩ := Operand.map_eq_single_iff.mp hcall
      obtain rfl := Value.normalize_eq_call_iff.mp hv
      exact h span ⟨hop, hoperand⟩

/-- **Conditions without sugar are kept.** -/
theorem normalize_of_isNormal (h : p.IsNormal) : p.normalize = p := by
  have hvalues : p.operand.map Value.normalize = p.operand := by
    refine Operand.map_eq_self fun v hv => ?_
    have hne : v ≠ .text "me" := fun hme => h.noMe (hme ▸ hv)
    exact ((spelledOut_iff v v).mp ⟨fun hme => absurd hme hne, fun _ => rfl⟩).symm
  rw [normalize_of_not_inLast h.notInLast, hvalues]

theorem field_normalize (p : Predicate) : p.normalize.field = p.field := by
  obtain ⟨f, -, h⟩ | h := p.normalize_cases
  · rw [h]
    rfl
  · rw [h]

end Predicate

namespace Expr

theorem isNormal_of_mem_normalize {e : Expr} {p : Predicate} (h : p ∈ e.normalize.predicates) :
    p.IsNormal := by
  rw [normalize, predicates_map] at h
  obtain ⟨q, -, rfl⟩ := List.mem_map.mp h
  exact q.isNormal_normalize

/-- **Normalizing twice is normalizing once**, for the normal form has no sugar. -/
theorem normalize_normalize (e : Expr) : e.normalize.normalize = e.normalize :=
  map_eq_self fun _ hp => Predicate.normalize_of_isNormal (isNormal_of_mem_normalize hp)

end Expr

end Filter

namespace Query

open ForgeBoard.Filter

theorem prepare_normalize (e : Expr) : prepare e.normalize = prepare e := by
  rw [prepare, e.normalize_normalize, prepare]

/-- **Normalizing is complete and local, and once is enough.** The normal form is the only
expression with the same nodes and with every condition normalized as described. None of its
conditions has sugar; its fields are the same from left to right, and so are the conditions that had
no sugar before. It is its own normal form, and both backends give it the query, or the error, that
they give the expression. -/
theorem normalize_exactly (e : Expr) (now : Int) :
    (∀ e', e.Rewritten Predicate.Normalized e' ↔ e' = e.normalize) ∧
      (∀ p ∈ e.normalize.predicates, p.IsNormal) ∧
      e.Rewritten (fun p p' => p'.field = p.field ∧ (p.IsNormal → p' = p)) e.normalize ∧
      e.normalize.predicates.map (·.field) = e.predicates.map (·.field) ∧
      e.normalize.normalize = e.normalize ∧
      SearchQuery.ofExpr now e.normalize = SearchQuery.ofExpr now e ∧
      ListingQuery.ofExpr now e.normalize = ListingQuery.ofExpr now e := by
  have hkept : e.Rewritten (fun p p' => p'.field = p.field ∧ (p.IsNormal → p' = p)) e.normalize :=
    Expr.rewritten_map (fun p => ⟨p.field_normalize, Predicate.normalize_of_isNormal⟩) e
  have hprepare := prepare_normalize e
  exact ⟨fun _ => Expr.rewritten_iff fun _ _ => Predicate.normalized_iff,
    fun _ => Expr.isNormal_of_mem_normalize, hkept, hkept.map_predicates_eq fun _ _ h => h.1,
    e.normalize_normalize, searchQuery_congr hprepare now, listingQuery_congr hprepare now⟩

example : (Expr.predicate
      ⟨"created", .compare .eq, .single (.call ⟨"last", ⟨2, .week⟩⟩)⟩).normalize =
    .predicate (.compare "created" .ge (.span ⟨-2, .week⟩)) := by
  decide

end Query

end ForgeBoard
