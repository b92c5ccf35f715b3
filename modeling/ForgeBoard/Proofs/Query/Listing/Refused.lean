import ForgeBoard.Proofs.Query.Listing.Kept

/-!
# Conditions that a listing refuses

`Supported` is the table of the conditions that a listing can take: a field, a comparison or list,
and the sort of the values. `Refuses` is the table of all others, with their errors, so a condition
stands in one of the two (`supported_or_refuses`).

* `exists_asks_iff`: the supported conditions are those that have demands.
* `condition_of_refuses`: a refused condition is refused by every listing.
* `condition_eq_error_iff`: the only other reason to refuse a condition is a second project.
-/

namespace ForgeBoard.Query.Listing

open ForgeBoard.Filter Text

/-- The fields that are compared with a text. -/
def textFields : List String :=
  ["state", "author", "assignee", "review_requested", "label", "text", "project"]

/-- The conditions that a listing can take at the instant `now`. -/
inductive Supported (now : Int) (p : Predicate) : Prop where
  | text {s : String} (hfield : p.key ∈ textFields) (h : Compares p .eq (.text s))
  | draft {b : Bool} (hfield : p.key = "draft") (h : Compares p .eq (.bool b))
  | day {op : CompareOp} {v : Value} (hfield : p.key ∈ dayFields) (hop : op ≠ .ne)
      (h : Compares p op v) (hday : StandsForDay now v)
  | type {v : Value} (hfield : p.key = "type") (h : Compares p .eq v)
  | labels {ss : List String} (hfield : p.key = "label") (hop : p.op = .member .within)
      (hoperand : p.operand = .list (ss.map .text)) (hne : ss ≠ [])

/-- The value of a field, in such a comparison, is read as one of a certain sort. -/
inductive Reads : String → CompareOp → ValueSort → Prop where
  | text {field : String} (h : field ∈ textFields) : Reads field .eq .text
  | truth : Reads "draft" .eq .truth
  | day {field : String} (h : field ∈ dayFields) (op : CompareOp) : Reads field op .day

/-- The field has such comparisons. The value of a type is not read. -/
def Takes (field : String) (op : CompareOp) : Prop :=
  (∃ sort, Reads field op sort) ∨ field = "type" ∧ op = .eq

/-- The conditions that no listing takes at the instant `now`, and their errors. On a day, the value
is read first and the comparison is looked at next. -/
inductive Refuses (now : Int) (p : Predicate) : QueryError → Prop where
  | unsupported (hcompare : ∀ op v, Compares p op v → ¬ Takes p.key op)
      (hlist : ∀ vs, p.op = .member .within → p.operand = .list vs → p.key ≠ "label") :
      Refuses now p (unsupported p.key p.op)
  | anotherDay {v : Value} (hfield : p.key ∈ dayFields) (h : Compares p .ne v)
      (hday : StandsForDay now v) : Refuses now p (unsupported p.key p.op)
  | sort {op : CompareOp} {v : Value} {sort : ValueSort} (h : Compares p op v)
      (hreads : Reads p.key op sort) (hsort : sortOf? v ≠ some sort) :
      Refuses now p (.wrongSort p.key sort)
  | outOfRange {op : CompareOp} {span : TimeSpan} (hfield : p.key ∈ dayFields)
      (h : Compares p op (.span span)) (hday : ¬ StandsForDay now (.span span)) :
      Refuses now p (.dayOutOfRange p.key)
  | noLabels (hfield : p.key = "label") (hop : p.op = .member .within)
      (hoperand : p.operand = .list []) : Refuses now p (.emptyList p.key)
  | labelSort {vs : List Value} {v : Value} (hfield : p.key = "label")
      (hop : p.op = .member .within) (hoperand : p.operand = .list vs) (hv : v ∈ vs)
      (hsort : sortOf? v ≠ some .text) : Refuses now p (.wrongSort p.key .text)

variable {now : Int} {p : Predicate} {l l' : Listing} {op : CompareOp} {v : Value}
  {ds : List Demand} {err : QueryError} {field path : String}

/-! ## Supported conditions -/

theorem mem_textFields_iff :
    field ∈ textFields ↔ field = "project" ∨ ∃ name, (field, name) ∈ textParameters := by
  simp only [textFields, textParameters, List.mem_cons, Prod.mk.injEq, List.not_mem_nil, or_false]
  grind

/-- A condition has demands iff it is supported. -/
theorem exists_asks_iff : (∃ ds, Asks now p ds) ↔ Supported now p := by
  constructor
  · rintro ⟨ds, h⟩
    cases h with
    | text hfield h => exact .text (mem_textFields_iff.mpr (.inr ⟨_, hfield⟩)) h
    | labels hfield hop hoperand hne => exact .labels hfield hop hoperand hne
    | draft hfield h => exact .draft hfield h
    | after hfield hop h hday =>
      refine .day hfield ?_ h (exists_dayOf_iff.mp ⟨_, hday⟩)
      rcases hop with rfl | rfl <;> decide
    | before hfield hop h hday =>
      refine .day hfield ?_ h (exists_dayOf_iff.mp ⟨_, hday⟩)
      rcases hop with rfl | rfl <;> decide
    | onDay hfield h hday =>
      exact .day hfield (by decide) h (exists_dayOf_iff.mp ⟨_, hday⟩)
    | project hfield h => exact .text (mem_textFields_iff.mpr (.inl hfield)) h
    | anyProject hfield h => exact .text (mem_textFields_iff.mpr (.inl hfield)) h
    | type hfield h => exact .type hfield h
  · intro h
    cases h with
    | @text s hfield h =>
      rcases mem_textFields_iff.mp hfield with hproject | ⟨name, hname⟩
      · by_cases hs : trim s = ""
        · exact ⟨_, .anyProject hproject h hs⟩
        · exact ⟨_, .project hproject h hs⟩
      · exact ⟨_, .text hname h⟩
    | draft hfield h => exact ⟨_, .draft hfield h⟩
    | @day op v hfield hop h hday =>
      obtain ⟨day, hday⟩ := hday.exists_dayOf p.key
      cases op with
      | eq => exact ⟨_, .onDay hfield h hday⟩
      | ne => exact absurd rfl hop
      | gt => exact ⟨_, .after hfield (.inl rfl) h hday⟩
      | ge => exact ⟨_, .after hfield (.inr rfl) h hday⟩
      | lt => exact ⟨_, .before hfield (.inl rfl) h hday⟩
      | le => exact ⟨_, .before hfield (.inr rfl) h hday⟩
    | type hfield h => exact ⟨_, .type hfield h⟩
    | labels hfield hop hoperand hne => exact ⟨_, .labels hfield hop hoperand hne⟩

/-! ## Refused conditions -/

/-- A comparison that its field takes is supported, or its value is not of the sort that is read, or
it is on a day and fails there. -/
theorem supported_or_refuses_of_takes (h : Compares p op v) (htakes : Takes p.key op) :
    Supported now p ∨ ∃ err, Refuses now p err := by
  rcases htakes with ⟨sort, hreads⟩ | ⟨hfield, rfl⟩
  · by_cases hsort : sortOf? v = some sort
    · generalize hkey : p.key = field at hreads
      cases hreads with
      | text hfield =>
        obtain ⟨s, rfl⟩ := sortOf?_eq_text_iff.mp hsort
        exact .inl (.text (hkey ▸ hfield) h)
      | truth =>
        obtain ⟨b, rfl⟩ := sortOf?_eq_truth_iff.mp hsort
        exact .inl (.draft hkey h)
      | day hfield op =>
        subst hkey
        by_cases hday : StandsForDay now v
        · by_cases hop : op = .ne
          · subst hop
            exact .inr ⟨_, .anotherDay hfield h hday⟩
          · exact .inl (.day hfield hop h hday)
        · rcases sortOf?_eq_day_iff.mp hsort with ⟨d, rfl⟩ | ⟨span, rfl⟩
          · exact absurd trivial hday
          · exact .inr ⟨_, .outOfRange hfield h hday⟩
    · exact .inr ⟨_, .sort h hreads hsort⟩
  · exact .inl (.type hfield h)

/-- **Every condition** is supported or refused. -/
theorem supported_or_refuses (now : Int) (p : Predicate) :
    Supported now p ∨ ∃ err, Refuses now p err := by
  by_cases hcompare : ∃ op v, Compares p op v ∧ Takes p.key op
  · obtain ⟨op, v, h, htakes⟩ := hcompare
    exact supported_or_refuses_of_takes h htakes
  by_cases hlist : ∃ vs, p.op = .member .within ∧ p.operand = .list vs ∧ p.key = "label"
  · obtain ⟨vs, hop, hoperand, hfield⟩ := hlist
    rcases texts_or_other vs with ⟨ss, rfl⟩ | ⟨v, hv, hsort⟩
    · by_cases hne : ss = []
      · subst hne
        exact .inr ⟨_, .noLabels hfield hop hoperand⟩
      · exact .inl (.labels hfield hop hoperand hne)
    · exact .inr ⟨_, .labelSort hfield hop hoperand hv hsort⟩
  · refine .inr ⟨_, .unsupported (fun op v h htakes => ?_) fun vs hop hoperand hfield => ?_⟩
    · exact hcompare ⟨op, v, h, htakes⟩
    · exact hlist ⟨vs, hop, hoperand, hfield⟩

/-- The fields for which `=` alone is asked for do take it. -/
theorem requireEq_of_not_takes (h : ¬ Takes field op)
    (hfield : field ∈ "draft" :: "type" :: textFields) :
    requireEq field op = .error (unsupported field (.compare op)) := by
  refine if_neg ?_
  rintro rfl
  rcases List.mem_cons.mp hfield with rfl | hfield
  · exact h (.inl ⟨_, .truth⟩)
  rcases List.mem_cons.mp hfield with rfl | hfield
  · exact h (.inr ⟨rfl, rfl⟩)
  · exact h (.inl ⟨_, .text hfield⟩)

theorem comparison_of_not_takes (h : ¬ Takes field op) :
    l.comparison now field op v = .error (unsupported field (.compare op)) := by
  unfold comparison
  split
  · next name hname =>
    have hfield : field ∈ textFields :=
      mem_textFields_iff.mpr (.inr ⟨name, param?_eq_some_iff.mp hname⟩)
    rw [requireEq_of_not_takes h (List.mem_cons_of_mem _ (List.mem_cons_of_mem _ hfield))]
    rfl
  split
  · next hfield =>
    rw [requireEq_of_not_takes h (by rw [hfield]; decide)]
    rfl
  split
  · next hfield =>
    rw [requireEq_of_not_takes h (by rw [hfield]; decide)]
    rfl
  split
  -- a day takes every comparison as far as its value is read
  · next hfield => exact absurd (.inl ⟨_, .day (mem_dayFields_iff.mpr hfield) op⟩) h
  split
  · next hfield =>
    rw [requireEq_of_not_takes h (by rw [hfield]; decide)]
    rfl
  · rfl

/-- A value that is not of the sort its field reads is refused as such. -/
theorem comparison_of_sort {sort : ValueSort} (h : Reads field op sort)
    (hsort : sortOf? v ≠ some sort) :
    l.comparison now field op v = .error (.wrongSort field sort) := by
  cases h with
  | text hfield =>
    rcases mem_textFields_iff.mp hfield with rfl | ⟨name, hname⟩
    · simp only [comparison, param?, String.reduceEq, if_false, if_true, textOf_of_sort hsort]
      rfl
    · rw [comparison, param?_eq_some_iff.mpr hname]
      simp only [textOf_of_sort hsort]
      rfl
  | truth =>
    simp only [comparison, param?, String.reduceEq, if_false, if_true, truthOf_of_sort hsort]
    rfl
  | day hfield op =>
    rw [comparison_of_dayField hfield, dayOf_of_sort hsort]
    rfl

/-- **A refused condition** is refused by every listing. -/
theorem condition_of_refuses (h : Refuses now p err) (l : Listing) :
    l.condition now p = .error err := by
  cases h with
  | unsupported hcompare hlist =>
    unfold condition
    split
    · next op v hop hoperand => rw [comparison_of_not_takes (hcompare op v ⟨hop, hoperand⟩), hop]
    · next vs hop hoperand => exact if_neg (hlist vs hop hoperand)
    · rfl
  | @anotherDay v hfield h hday =>
    obtain ⟨day, hday⟩ := hday.exists_dayOf p.key
    rw [condition_of_compares h, comparison_of_dayField hfield, hday, h.1]
    rfl
  | sort h hreads hsort => rw [condition_of_compares h, comparison_of_sort hreads hsort]
  | outOfRange hfield h hday =>
    rw [condition_of_compares h, comparison_of_dayField hfield, dayOf_of_outOfRange hday]
    rfl
  | noLabels hfield hop hoperand =>
    rw [condition, hop, hoperand]
    exact if_pos hfield
  | @labelSort vs v hfield hop hoperand hv hsort =>
    have hempty : vs.isEmpty = false := List.isEmpty_eq_false_iff.mpr (List.ne_nil_of_mem hv)
    rw [condition, hop, hoperand]
    simp only [if_pos hfield, hempty, Bool.false_eq_true, if_false, textsOf_of_sort hv hsort]
    rfl

/-! ## Projects -/

/-- The condition asks for a project. -/
def Names (p : Predicate) (path : String) : Prop :=
  p.key = "project" ∧ ∃ s, Compares p .eq (.text s) ∧ trim s = path ∧ path ≠ ""

theorem Compares.value_eq {op' : CompareOp} {v' : Value} (h : Compares p op v)
    (h' : Compares p op' v') : v = v' :=
  Operand.single.inj (h.2.symm.trans h'.2)

/-- Of the demands of a condition, only that of a project comes from such a condition. -/
theorem Asks.names_iff (h : Asks now p ds) : .project path ∈ ds ↔ Names p path := by
  constructor
  · intro hmem
    cases h with
    | project hfield h hne =>
      obtain rfl := Demand.project.inj (List.mem_singleton.mp hmem)
      exact ⟨hfield, _, h, rfl, hne⟩
    | _ => simp at hmem
  · rintro ⟨hproject, s, hs, rfl, hne⟩
    have hnotDay : p.key ∉ dayFields := by
      rw [hproject]
      decide
    cases h with
    | project hfield h =>
      obtain rfl := Value.text.inj (h.value_eq hs)
      exact List.mem_singleton_self _
    | anyProject hfield h hblank =>
      obtain rfl := Value.text.inj (h.value_eq hs)
      exact absurd hblank hne
    | text hfield =>
      rw [hproject] at hfield
      simp [textParameters] at hfield
    | labels hfield | draft hfield | type hfield =>
      exact absurd (hproject.symm.trans hfield) (by decide)
    | after hfield | before hfield | onDay hfield => exact absurd hfield hnotDay

theorem Names.path_eq {other : String} (h : Names p path) (h' : Names p other) : path = other := by
  obtain ⟨-, s, hs, rfl, -⟩ := h
  obtain ⟨-, t, ht, rfl, -⟩ := h'
  rw [Value.text.inj (hs.value_eq ht)]

theorem Asks.admits (h : Asks now p ds)
    (hproject : ∀ path, Names p path → ∀ first ∈ l.project, first = path) : l.Admits ds := by
  intro path hpath
  have hnames := h.names_iff.mp hpath
  exact ⟨hproject path hnames, fun other hother => (h.names_iff.mp hother).path_eq hnames⟩

theorem setProject_eq_error_iff {s : String} (h : trim s ≠ "") :
    l.setProject s = .error err ↔ ∃ first, l.project = some first ∧ first ≠ trim s ∧
      err = .conflictingProjects first (trim s) := by
  have hempty : (trim s).isEmpty = false := by simpa using h
  obtain ⟨project, params⟩ := l
  cases project with
  | none => simp [setProject, hempty]
  | some first =>
    by_cases heq : first = trim s
    · simp [setProject, hempty, heq]
    · simp [setProject, hempty, heq, eq_comm]

/-- The listing of a condition that asks for a project. -/
theorem condition_eq_setProject {s : String} (hfield : p.key = "project")
    (h : Compares p .eq (.text s)) : l.condition now p = l.setProject s := by
  rw [condition_of_compares h, hfield, comparison_project]

/-- **A second project** is the only reason for which a listing refuses a condition that another one
takes. -/
theorem condition_eq_error_iff :
    l.condition now p = .error err ↔ Refuses now p err ∨
      ∃ first path, l.project = some first ∧ Names p path ∧ first ≠ path ∧
        err = .conflictingProjects first path := by
  constructor
  · intro herr
    rcases supported_or_refuses now p with hsupported | ⟨err', hrefuses⟩
    · by_cases hnames : ∃ path, Names p path
      · obtain ⟨path, hname⟩ := hnames
        obtain ⟨hfield, s, hs, rfl, hne⟩ := id hname
        rw [condition_eq_setProject hfield hs] at herr
        obtain ⟨first, hfirst, hother, rfl⟩ := (setProject_eq_error_iff hne).mp herr
        exact .inr ⟨first, trim s, hfirst, hname, hother, rfl⟩
      · obtain ⟨ds, hasks⟩ := exists_asks_iff.mpr hsupported
        have hadmits : l.Admits ds := hasks.admits fun path hname => absurd ⟨path, hname⟩ hnames
        rw [condition_of_asks hasks hadmits] at herr
        exact absurd herr nofun
    · rw [condition_of_refuses hrefuses] at herr
      obtain rfl := Except.error.inj herr
      exact .inl hrefuses
  · rintro (hrefuses | ⟨first, path, hfirst, ⟨hfield, s, hs, rfl, hne⟩, hother, rfl⟩)
    · exact condition_of_refuses hrefuses l
    · rw [condition_eq_setProject hfield hs]
      exact (setProject_eq_error_iff hne).mpr ⟨first, hfirst, hother, rfl⟩

theorem not_refuses_of_supported (h : Supported now p) : ¬ Refuses now p err := by
  intro hrefuses
  obtain ⟨ds, hasks⟩ := exists_asks_iff.mpr h
  have hok := condition_of_asks hasks (hasks.admits (l := unrestricted) fun _ _ => nofun)
  rw [condition_of_refuses hrefuses] at hok
  exact absurd hok nofun

/-- The project of a listing after a condition is the one before, or the one that is asked for. -/
theorem project_of_condition (h : l.condition now p = .ok l') :
    path ∈ l'.project ↔ path ∈ l.project ∨ Names p path := by
  obtain ⟨ds, hasks, hadmits, rfl⟩ := condition_eq_ok_iff.mp h
  rw [project_foldl_meet hadmits, hasks.names_iff]

end ForgeBoard.Query.Listing
