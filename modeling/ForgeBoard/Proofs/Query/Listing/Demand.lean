import ForgeBoard.Proofs.Query.Listing.Params
import ForgeBoard.Proofs.Query.Operand

/-!
# What a condition asks of a listing

A condition turns into demands: a project, or values of parameters. `Asks` is the table of the
supported conditions with their demands, and `Listing.meet` writes one demand into a listing.
`condition_eq_ok_iff` says that a listing takes a condition iff the condition is in the table and
does not ask for a second project, and that it writes the demands and nothing else.
-/

namespace ForgeBoard.Query.Listing

open ForgeBoard.Filter Text

/-- One thing that is asked of a listing. -/
inductive Demand where
  | project (path : String)
  | parameter (name value : String)
  deriving DecidableEq

/-- The condition compares its field with one value. -/
def Compares (p : Predicate) (op : CompareOp) (v : Value) : Prop :=
  p.op = .compare op ∧ p.operand = .single v

/-- The fields that set a parameter to a text, with their parameters. -/
def textParameters : List (String × String) :=
  [("state", "state"), ("author", "author_username"), ("assignee", "assignee_username"),
    ("review_requested", "reviewer_username"), ("label", "labels"), ("text", "search")]

/-- The demands of a condition at the instant `now`. A blank project and a type ask for nothing. -/
inductive Asks (now : Int) (p : Predicate) : List Demand → Prop where
  | text {name s : String} (hfield : (p.key, name) ∈ textParameters)
      (h : Compares p .eq (.text s)) : Asks now p [.parameter name s]
  | labels {ss : List String} (hfield : p.key = "label") (hop : p.op = .member .within)
      (hoperand : p.operand = .list (ss.map .text)) (hne : ss ≠ []) :
      Asks now p [.parameter "labels" (String.intercalate "," ss)]
  | draft {b : Bool} (hfield : p.key = "draft") (h : Compares p .eq (.bool b)) :
      Asks now p [.parameter "wip" (if b then "true" else "false")]
  | after {op : CompareOp} {v : Value} {day : String} (hfield : p.key ∈ dayFields)
      (hop : op = .gt ∨ op = .ge) (h : Compares p op v) (hday : dayOf now p.key v = .ok day) :
      Asks now p [.parameter (p.key ++ "_after") day]
  | before {op : CompareOp} {v : Value} {day : String} (hfield : p.key ∈ dayFields)
      (hop : op = .lt ∨ op = .le) (h : Compares p op v) (hday : dayOf now p.key v = .ok day) :
      Asks now p [.parameter (p.key ++ "_before") day]
  | onDay {v : Value} {day : String} (hfield : p.key ∈ dayFields) (h : Compares p .eq v)
      (hday : dayOf now p.key v = .ok day) :
      Asks now p [.parameter (p.key ++ "_after") day, .parameter (p.key ++ "_before") day]
  | project {s : String} (hfield : p.key = "project") (h : Compares p .eq (.text s))
      (hne : trim s ≠ "") : Asks now p [.project (trim s)]
  | anyProject {s : String} (hfield : p.key = "project") (h : Compares p .eq (.text s))
      (hblank : trim s = "") : Asks now p []
  | type {v : Value} (hfield : p.key = "type") (h : Compares p .eq v) : Asks now p []

/-- The condition asks for a blank project, or restricts the type. -/
def Idle (p : Predicate) : Prop :=
  p.key = "type" ∨ p.key = "project" ∧ ∃ s, p.operand = .single (.text s) ∧ trim s = ""

variable {now : Int} {p : Predicate} {l l' : Listing} {d : Demand} {ds ds' : List Demand}

theorem Asks.idle (h : Asks now p []) : Idle p := by
  generalize hds : ([] : List Demand) = ds at h
  cases h with
  | anyProject hfield h hblank => exact .inr ⟨hfield, _, h.2, hblank⟩
  | type hfield => exact .inl hfield
  | _ => exact absurd hds nofun

/-! ## Meeting demands -/

/-- The listing with a demand written in. -/
def meet (l : Listing) : Demand → Listing
  | .project path => { l with project := some path }
  | .parameter name value => l.set name value

/-- The projects that are asked for, and that of the listing, are one. -/
def Admits (l : Listing) (ds : List Demand) : Prop :=
  ∀ path, .project path ∈ ds →
    (∀ first ∈ l.project, first = path) ∧ ∀ other, .project other ∈ ds → other = path

theorem admits_nil (l : Listing) : l.Admits [] :=
  fun _ h => absurd h List.not_mem_nil

theorem admits_cons_parameter {name value : String} :
    l.Admits (.parameter name value :: ds) ↔ l.Admits ds := by
  simp [Admits]

theorem admits_project {path : String} :
    l.Admits [.project path] ↔ ∀ first ∈ l.project, first = path := by
  constructor
  · intro h
    exact (h path List.mem_cons_self).1
  · intro h other hother
    obtain rfl := Demand.project.inj (List.mem_singleton.mp hother)
    exact ⟨h, fun third hthird => Demand.project.inj (List.mem_singleton.mp hthird)⟩

/-! ## One condition -/

theorem param?_eq_some_iff {field name : String} :
    param? field = some name ↔ (field, name) ∈ textParameters := by
  unfold param? textParameters
  simp only [List.mem_cons, Prod.mk.injEq, List.not_mem_nil, or_false]
  grind

theorem requireEq_eq_ok_iff {field : String} {op : CompareOp} :
    requireEq field op = .ok () ↔ op = .eq := by
  unfold requireEq
  split
  · next h => exact ⟨fun _ => h, fun _ => rfl⟩
  · next h => exact ⟨nofun, fun heq => absurd heq h⟩

theorem setProject_of_blank {s : String} (h : trim s = "") (l : Listing) :
    l.setProject s = .ok l := by
  rw [setProject, h]
  rfl

/-- A listing takes a project iff it has no other one. -/
theorem setProject_eq_ok_iff {s : String} (h : trim s ≠ "") :
    l.setProject s = .ok l' ↔
      (∀ first ∈ l.project, first = trim s) ∧ l' = l.meet (.project (trim s)) := by
  have hempty : (trim s).isEmpty = false := by
    rw [← Bool.not_eq_true, String.isEmpty_iff]
    exact h
  unfold setProject
  simp only [hempty, Bool.false_eq_true, if_false]
  obtain ⟨project, params⟩ := l
  cases project with
  | none => simp [meet, eq_comm]
  | some first =>
    simp only [Option.mem_some_iff, forall_eq']
    split
    · next heq => simp [meet, heq, eq_comm]
    · next hne => exact ⟨nofun, fun h => absurd h.1 hne⟩

theorem condition_of_compares {op : CompareOp} {v : Value} (h : Compares p op v) :
    l.condition now p = l.comparison now p.key op v := by
  rw [condition, h.1, h.2]

theorem asks_of_setDay {op : CompareOp} {v : Value} {day : String} (hfield : p.key ∈ dayFields)
    (h : Compares p op v) (hday : dayOf now p.key v = .ok day)
    (hl : l.setDay p.key op day = .ok l') :
    ∃ ds, Asks now p ds ∧ l.Admits ds ∧ l' = ds.foldl meet l := by
  have hone : ∀ name, l.Admits [.parameter name day] :=
    fun _ => admits_cons_parameter.mpr (admits_nil l)
  cases op with
  | eq =>
    exact ⟨_, .onDay hfield h hday, admits_cons_parameter.mpr (hone _), (Except.ok.inj hl).symm⟩
  | ne => exact absurd hl nofun
  | gt => exact ⟨_, .after hfield (.inl rfl) h hday, hone _, (Except.ok.inj hl).symm⟩
  | ge => exact ⟨_, .after hfield (.inr rfl) h hday, hone _, (Except.ok.inj hl).symm⟩
  | lt => exact ⟨_, .before hfield (.inl rfl) h hday, hone _, (Except.ok.inj hl).symm⟩
  | le => exact ⟨_, .before hfield (.inr rfl) h hday, hone _, (Except.ok.inj hl).symm⟩

theorem asks_of_setProject {s : String} (hfield : p.key = "project")
    (h : Compares p .eq (.text s)) (hl : l.setProject s = .ok l') :
    ∃ ds, Asks now p ds ∧ l.Admits ds ∧ l' = ds.foldl meet l := by
  by_cases hs : trim s = ""
  · rw [setProject_of_blank hs] at hl
    exact ⟨[], .anyProject hfield h hs, admits_nil l, (Except.ok.inj hl).symm⟩
  · obtain ⟨hfirst, rfl⟩ := (setProject_eq_ok_iff hs).mp hl
    exact ⟨_, .project hfield h hs, admits_project.mpr hfirst, rfl⟩

/-- A comparison that is taken writes its demands. -/
theorem asks_of_comparison {op : CompareOp} {v : Value} (h : Compares p op v)
    (hl : l.comparison now p.key op v = .ok l') :
    ∃ ds, Asks now p ds ∧ l.Admits ds ∧ l' = ds.foldl meet l := by
  unfold comparison at hl
  split at hl
  · next name hname =>
    obtain ⟨_, hop, hl⟩ := bind_eq_ok_iff.mp hl
    obtain ⟨s, hs, hset⟩ := bind_eq_ok_iff.mp hl
    obtain rfl := requireEq_eq_ok_iff.mp hop
    obtain rfl := text?_eq_some_iff.mp (textOf_eq_ok_iff.mp hs)
    exact ⟨_, .text (param?_eq_some_iff.mp hname) h, admits_cons_parameter.mpr (admits_nil l),
      (Except.ok.inj hset).symm⟩
  split at hl
  · next hfield =>
    obtain ⟨_, hop, hl⟩ := bind_eq_ok_iff.mp hl
    obtain ⟨s, hs, hset⟩ := bind_eq_ok_iff.mp hl
    obtain rfl := requireEq_eq_ok_iff.mp hop
    obtain rfl := text?_eq_some_iff.mp (textOf_eq_ok_iff.mp hs)
    exact asks_of_setProject hfield h hset
  split at hl
  · next hfield =>
    obtain ⟨_, hop, hl⟩ := bind_eq_ok_iff.mp hl
    obtain ⟨word, hword, hset⟩ := bind_eq_ok_iff.mp hl
    obtain rfl := requireEq_eq_ok_iff.mp hop
    obtain ⟨b, rfl, rfl⟩ := truthOf_eq_ok_iff.mp hword
    exact ⟨_, .draft hfield h, admits_cons_parameter.mpr (admits_nil l), (Except.ok.inj hset).symm⟩
  split at hl
  · next hfield =>
    obtain ⟨day, hday, hset⟩ := bind_eq_ok_iff.mp hl
    exact asks_of_setDay (mem_dayFields_iff.mpr hfield) h hday hset
  split at hl
  · next hfield =>
    obtain ⟨_, hop, hset⟩ := bind_eq_ok_iff.mp hl
    obtain rfl := requireEq_eq_ok_iff.mp hop
    exact ⟨[], .type hfield h, admits_nil l, (Except.ok.inj hset).symm⟩
  · exact absurd hl nofun

theorem comparison_of_dayField {field : String} (hfield : field ∈ dayFields) (op : CompareOp)
    (v : Value) : l.comparison now field op v = dayOf now field v >>= (l.setDay field op ·) := by
  rcases mem_dayFields_iff.mp hfield with rfl | rfl <;> rfl

theorem comparison_project (s : String) :
    l.comparison now "project" .eq (.text s) = l.setProject s := by
  simp [comparison, param?, requireEq, textOf, Value.text?, bind, Except.bind]

/-- The demands of a condition are taken, unless they name a second project. -/
theorem condition_of_asks (h : Asks now p ds) (hadmits : l.Admits ds) :
    l.condition now p = .ok (ds.foldl meet l) := by
  cases h with
  | text hfield h =>
    rw [condition_of_compares h, comparison, param?_eq_some_iff.mpr hfield]
    rfl
  | @labels ss hfield hop hoperand hne =>
    have hempty : (ss.map Value.text).isEmpty = false :=
      List.isEmpty_eq_false_iff.mpr (mt List.map_eq_nil_iff.mp hne)
    have htexts : textsOf p.key (ss.map .text) = .ok ss := textsOf_eq_ok_iff.mpr rfl
    rw [condition, hop, hoperand]
    simp only [if_pos hfield, hempty, Bool.false_eq_true, if_false, htexts]
    rfl
  | @draft b hfield h =>
    rw [condition_of_compares h, hfield]
    cases b <;> rfl
  | after hfield hop h hday =>
    rw [condition_of_compares h, comparison_of_dayField hfield, hday]
    rcases hop with rfl | rfl <;> rfl
  | before hfield hop h hday =>
    rw [condition_of_compares h, comparison_of_dayField hfield, hday]
    rcases hop with rfl | rfl <;> rfl
  | onDay hfield h hday =>
    rw [condition_of_compares h, comparison_of_dayField hfield, hday]
    rfl
  | project hfield h hne =>
    rw [condition_of_compares h, hfield, comparison_project, List.foldl_cons, List.foldl_nil]
    exact (setProject_eq_ok_iff hne).mpr ⟨admits_project.mp hadmits, rfl⟩
  | anyProject hfield h hblank =>
    rw [condition_of_compares h, hfield, comparison_project, setProject_of_blank hblank]
    rfl
  | type hfield h =>
    rw [condition_of_compares h, hfield]
    rfl

/-- **One condition**: a listing takes it iff the condition has demands that name no second project,
and these are written in. -/
theorem condition_eq_ok_iff :
    l.condition now p = .ok l' ↔
      ∃ ds, Asks now p ds ∧ l.Admits ds ∧ l' = ds.foldl meet l := by
  constructor
  · intro hl
    unfold condition at hl
    split at hl
    · next op v hop hoperand => exact asks_of_comparison ⟨hop, hoperand⟩ hl
    · next vs hop hoperand =>
      split at hl
      · next hfield =>
        obtain ⟨hne, hl⟩ := ite_error_eq_ok_iff.mp hl
        obtain ⟨ss, hss, hset⟩ := bind_eq_ok_iff.mp hl
        obtain rfl := textsOf_eq_ok_iff.mp hss
        have hne : ss ≠ [] := by
          rintro rfl
          exact hne rfl
        exact ⟨_, .labels hfield hop hoperand hne, admits_cons_parameter.mpr (admits_nil l),
          (Except.ok.inj hset).symm⟩
      · exact absurd hl nofun
    · exact absurd hl nofun
  · rintro ⟨ds, hasks, hadmits, rfl⟩
    exact condition_of_asks hasks hadmits

end ForgeBoard.Query.Listing
