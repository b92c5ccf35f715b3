import ForgeBoard.Proofs.Success
import ForgeBoard.Query.Operand

/-!
# Operands that are read

When the values of a condition stand for texts, truth values and days, which error there is
otherwise, and when a filter is prepared for a backend.
-/

namespace ForgeBoard.Query

open ForgeBoard.Filter

variable {field s : String} {v : Value} {now : Int}

theorem text?_eq_some_iff : v.text? = some s ↔ v = .text s := by
  cases v <;> simp [Value.text?]

theorem textOf_eq_ok_iff : textOf field v = .ok s ↔ v.text? = some s := by
  unfold textOf
  cases v.text? with
  | none => exact ⟨nofun, nofun⟩
  | some t => simp

theorem textsOf_eq_ok_iff {vs : List Value} {ss : List String} :
    textsOf field vs = .ok ss ↔ vs = ss.map .text := by
  induction vs generalizing ss with
  | nil =>
    constructor
    · intro h
      obtain rfl := Except.ok.inj h
      rfl
    · intro h
      rw [List.map_eq_nil_iff.mp h.symm]
      rfl
  | cons v vs ih =>
    constructor
    · intro h
      obtain ⟨t, ht, h⟩ := bind_eq_ok_iff.mp h
      obtain ⟨ts, hts, h⟩ := bind_eq_ok_iff.mp h
      obtain rfl := Except.ok.inj h
      rw [ih.mp hts, text?_eq_some_iff.mp (textOf_eq_ok_iff.mp ht), List.map_cons]
    · intro h
      cases ss with
      | nil => exact absurd h nofun
      | cons t ts =>
        obtain ⟨rfl, hts⟩ := List.cons.inj h
        rw [textsOf, ih.mpr hts]
        rfl

theorem truthOf_eq_ok_iff :
    truthOf field v = .ok s ↔ ∃ b, v = .bool b ∧ s = if b then "true" else "false" := by
  constructor
  · intro h
    unfold truthOf at h
    split at h
    · exact ⟨true, rfl, (Except.ok.inj h).symm⟩
    · exact ⟨false, rfl, (Except.ok.inj h).symm⟩
    · exact absurd h nofun
  · rintro ⟨b, rfl, rfl⟩
    cases b <;> rfl

/-! ## Sorts -/

/-- The sort of a value, if a field takes values of its sort. -/
def sortOf? : Value → Option ValueSort
  | .text _ => some .text
  | .bool _ => some .truth
  | .date _ | .span _ => some .day
  | .number _ | .call _ => none

theorem sortOf?_eq_text_iff : sortOf? v = some .text ↔ ∃ s, v = .text s := by
  cases v <;> simp [sortOf?]

theorem sortOf?_eq_truth_iff : sortOf? v = some .truth ↔ ∃ b, v = .bool b := by
  cases v <;> simp [sortOf?]

theorem sortOf?_eq_day_iff :
    sortOf? v = some .day ↔ (∃ d, v = .date d) ∨ ∃ span, v = .span span := by
  cases v <;> simp [sortOf?]

theorem textOf_of_sort (h : sortOf? v ≠ some .text) :
    textOf field v = .error (.wrongSort field .text) := by
  cases v with
  | text s => exact absurd rfl h
  | _ => rfl

theorem truthOf_of_sort (h : sortOf? v ≠ some .truth) :
    truthOf field v = .error (.wrongSort field .truth) := by
  cases v with
  | bool b => exact absurd rfl h
  | _ => rfl

theorem dayOf_of_sort (h : sortOf? v ≠ some .day) :
    dayOf now field v = .error (.wrongSort field .day) := by
  cases v with
  | date d => exact absurd rfl h
  | span s => exact absurd rfl h
  | _ => rfl

/-- Of a list with a value that is not a text, the texts cannot be read. -/
theorem textsOf_of_sort {vs : List Value} (hv : v ∈ vs) (h : sortOf? v ≠ some .text) :
    textsOf field vs = .error (.wrongSort field .text) := by
  induction vs with
  | nil => exact absurd hv List.not_mem_nil
  | cons w vs ih =>
    by_cases hw : sortOf? w = some .text
    · obtain ⟨s, rfl⟩ := sortOf?_eq_text_iff.mp hw
      have hmem : v ∈ vs := by
        rcases List.mem_cons.mp hv with rfl | hmem
        · exact absurd hw h
        · exact hmem
      rw [textsOf, ih hmem]
      rfl
    · rw [textsOf, textOf_of_sort hw]
      rfl

/-- The values of a list are texts, or one of them is not. -/
theorem texts_or_other (vs : List Value) :
    (∃ ss : List String, vs = ss.map .text) ∨ ∃ v ∈ vs, sortOf? v ≠ some .text := by
  induction vs with
  | nil => exact .inl ⟨[], rfl⟩
  | cons v vs ih =>
    by_cases hv : sortOf? v = some .text
    · obtain ⟨s, rfl⟩ := sortOf?_eq_text_iff.mp hv
      rcases ih with ⟨ss, rfl⟩ | ⟨w, hw, hsort⟩
      · exact .inl ⟨s :: ss, rfl⟩
      · exact .inr ⟨w, List.mem_cons_of_mem _ hw, hsort⟩
    · exact .inr ⟨v, List.mem_cons_self, hv⟩

/-! ## Days -/

/-- The fields that hold a day. -/
def dayFields : List String :=
  ["updated", "created"]

theorem mem_dayFields_iff : field ∈ dayFields ↔ field = "updated" ∨ field = "created" := by
  simp [dayFields]

/-- The value is a date, or a time span that leads from `now` to a day in range. -/
def StandsForDay (now : Int) : Value → Prop
  | .date _ => True
  | .span span =>
    ∃ offset, span.seconds? = some offset ∧ (Date.ofSeconds (now + offset)).inRange = true
  | _ => False

theorem after?_eq_some_iff {span : TimeSpan} {d : Date} :
    Date.after? now span = some d ↔ ∃ offset, span.seconds? = some offset ∧
      (Date.ofSeconds (now + offset)).inRange = true ∧ d = Date.ofSeconds (now + offset) := by
  unfold Date.after?
  rw [Option.bind_eq_some_iff]
  simp only [Option.ite_none_right_eq_some, Option.some.injEq, @eq_comm _ d]

theorem exists_after?_iff {span : TimeSpan} :
    (∃ d, Date.after? now span = some d) ↔ StandsForDay now (.span span) := by
  constructor
  · rintro ⟨d, h⟩
    obtain ⟨offset, hoffset, hrange, -⟩ := after?_eq_some_iff.mp h
    exact ⟨offset, hoffset, hrange⟩
  · rintro ⟨offset, hoffset, hrange⟩
    exact ⟨_, after?_eq_some_iff.mpr ⟨offset, hoffset, hrange, rfl⟩⟩

theorem StandsForDay.exists_dayOf (h : StandsForDay now v) (field : String) :
    ∃ day, dayOf now field v = .ok day := by
  cases v with
  | date d => exact ⟨d.text, rfl⟩
  | span span =>
    obtain ⟨d, hd⟩ := exists_after?_iff.mpr h
    refine ⟨d.text, ?_⟩
    simp only [dayOf, hd]
  | _ => exact absurd h id

/-- A time span that leads out of the range stands for no day. -/
theorem dayOf_of_outOfRange {span : TimeSpan} (h : ¬ StandsForDay now (.span span)) :
    dayOf now field (.span span) = .error (.dayOutOfRange field) := by
  have hnone : Date.after? now span = none := by
    rw [Option.eq_none_iff_forall_ne_some]
    exact fun d hd => h (exists_after?_iff.mp ⟨d, hd⟩)
  simp only [dayOf, hnone]

theorem exists_dayOf_iff : (∃ day, dayOf now field v = .ok day) ↔ StandsForDay now v := by
  constructor
  · rintro ⟨day, h⟩
    cases v with
    | date d => exact trivial
    | span span =>
      refine Classical.byContradiction fun hout => ?_
      rw [dayOf_of_outOfRange hout] at h
      exact absurd h nofun
    | _ => exact absurd h nofun
  · intro h
    exact h.exists_dayOf field

/-! ## Filters -/

/-- A filter is prepared iff its normal form can be routed. -/
theorem prepare_eq_ok_iff {e : Expr} {r : Option Expr × Routing} :
    prepare e = .ok r ↔ e.normalize.route = .ok r := by
  unfold prepare
  cases e.normalize.route with
  | ok r' => simp
  | error err => exact ⟨nofun, nofun⟩

/-- A query of what is prepared is there iff routing succeeds and what it gives has a query. -/
theorem exists_prepare_bind_iff {α : Type} {e : Expr}
    {f : Option Expr × Routing → Except QueryError α} :
    (∃ q, (prepare e >>= f) = .ok q) ↔ ∃ remaining routing,
      e.normalize.route = .ok (remaining, routing) ∧ ∃ q, f (remaining, routing) = .ok q := by
  constructor
  · rintro ⟨q, hq⟩
    obtain ⟨⟨remaining, routing⟩, hprepare, hq⟩ := bind_eq_ok_iff.mp hq
    exact ⟨remaining, routing, prepare_eq_ok_iff.mp hprepare, q, hq⟩
  · rintro ⟨remaining, routing, hroute, q, hq⟩
    exact ⟨q, bind_eq_ok_iff.mpr ⟨_, prepare_eq_ok_iff.mpr hroute, hq⟩⟩

theorem prepare_eq_error_iff {e : Expr} {err : QueryError} :
    prepare e = .error err ↔
      ∃ misuse, e.normalize.route = .error misuse ∧ err = .routing misuse := by
  unfold prepare
  cases e.normalize.route with
  | ok r => simp
  | error misuse => simp [eq_comm]

end ForgeBoard.Query
