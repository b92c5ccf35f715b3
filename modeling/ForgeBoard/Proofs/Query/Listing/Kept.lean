import ForgeBoard.Proofs.Filter.Routing
import ForgeBoard.Proofs.Query.Listing.Demand
import Mathlib.Data.List.Perm.Basic

/-!
# Which conditions a listing keeps

A listing is made by meeting one demand after the other. A second project is refused, and a second
value of a parameter replaces the first one.

* `restrict_eq_ok_iff`: a filter has a listing iff it is a chain under `and` whose conditions are
  taken one after the other; `takeAll_eq_ok_iff` is the run, by induction on the conditions.
* `holds_iff_of_consistent`: where no parameter is asked for with two values, a listing holds what
  was asked and nothing else. So it does not depend on the order (`foldl_meet_of_perm`).
* `get?_foldl_meet`: in general the last value of a parameter counts, and the others are lost.

Result: `listing_ofExpr`.
-/

namespace ForgeBoard

open ForgeBoard.Filter

/-- The expression is a chain of conditions under `and`, without negations. -/
def Filter.Expr.IsChain : Expr → Prop
  | .binary .and left right => left.IsChain ∧ right.IsChain
  | .binary .or _ _ => False
  | .unary negate inner => negate = false ∧ inner.IsChain
  | .predicate _ => True

namespace Query.Listing

variable {now : Int} {e : Expr} {p : Predicate} {ps : List Predicate} {l l' : Listing}
  {d : Demand} {ds ds' : List Demand} {name value path : String}

/-! ## Demands one after the other -/

theorem admits_cons : l.Admits (d :: ds) ↔ l.Admits [d] ∧ (l.meet d).Admits ds := by
  cases d with
  | parameter name value =>
    rw [admits_cons_parameter, admits_cons_parameter]
    exact ⟨fun h => ⟨admits_nil l, h⟩, fun h => h.2⟩
  | project path =>
    rw [admits_project]
    constructor
    · intro h
      obtain ⟨hfirst, hsame⟩ := h path List.mem_cons_self
      refine ⟨hfirst, fun other hother => ⟨fun first hmet => ?_, fun third hthird => ?_⟩⟩
      · rw [← Option.some.inj hmet, hsame other (List.mem_cons_of_mem _ hother)]
      · rw [hsame third (List.mem_cons_of_mem _ hthird),
          hsame other (List.mem_cons_of_mem _ hother)]
    · rintro ⟨hfirst, hrest⟩
      have hsame : ∀ other, .project other ∈ .project path :: ds → other = path := by
        intro other hother
        rcases List.mem_cons.mp hother with heq | hother
        · exact Demand.project.inj heq
        · exact ((hrest other hother).1 path rfl).symm
      intro other hother
      obtain rfl := hsame other hother
      exact ⟨hfirst, hsame⟩

theorem admits_append : l.Admits (ds ++ ds') ↔ l.Admits ds ∧ (ds.foldl meet l).Admits ds' := by
  induction ds generalizing l with
  | nil => exact ⟨fun h => ⟨admits_nil l, h⟩, fun h => h.2⟩
  | cons d ds ih =>
    rw [List.cons_append, admits_cons, ih, @admits_cons l d ds, and_assoc, List.foldl_cons]

/-- **The project** is one that is asked for, or that of the beginning. -/
theorem project_foldl_meet (h : l.Admits ds) :
    path ∈ (ds.foldl meet l).project ↔ path ∈ l.project ∨ .project path ∈ ds := by
  induction ds generalizing l with
  | nil => simp
  | cons d ds ih =>
    obtain ⟨hd, hds⟩ := admits_cons.mp h
    rw [List.foldl_cons, ih hds, List.mem_cons]
    cases d with
    | parameter name value => simp [meet, set]
    | project first =>
      have hfirst := admits_project.mp hd
      simp only [meet, Option.mem_some_iff, Demand.project.injEq]
      constructor
      · rintro (rfl | hpath)
        · exact .inr (.inl rfl)
        · exact .inr (.inr hpath)
      · rintro (hpath | rfl | hpath)
        · exact .inl (hfirst path hpath).symm
        · exact .inl rfl
        · exact .inr hpath

/-- The value a demand gives to a parameter. -/
def Demand.valueOf (name : String) : Demand → Option String
  | parameter n value => if n = name then some value else none
  | project _ => none

theorem Demand.valueOf_eq_some_iff : d.valueOf name = some value ↔ d = .parameter name value := by
  cases d with
  | project path => exact ⟨nofun, nofun⟩
  | parameter n v =>
    simp only [valueOf, Option.ite_none_right_eq_some, Option.some.injEq, parameter.injEq]

/-- **The value of a parameter** is the last one that is asked for. -/
theorem get?_foldl_meet (name : String) (ds : List Demand) (l : Listing) :
    (ds.foldl meet l).params.get? name =
      (ds.filterMap (·.valueOf name)).getLast?.or (l.params.get? name) := by
  -- what the first demand writes is the value of the listing that the others start from
  induction ds generalizing l with
  | nil => rfl
  | cons d ds ih =>
    rw [List.foldl_cons, ih]
    cases d with
    | project path => rfl
    | parameter n v =>
      rw [meet, set, Params.get?_set, List.filterMap_cons]
      by_cases hn : n = name
      · have hvalue : Demand.valueOf name (.parameter n v) = some v := if_pos hn
        rw [if_pos hn.symm, hvalue, List.getLast?_cons]
        cases (ds.filterMap (·.valueOf name)).getLast? <;> rfl
      · have hvalue : Demand.valueOf name (.parameter n v) = none := if_neg hn
        rw [if_neg (Ne.symm hn), hvalue]

theorem ordered_foldl_meet (h : l.params.Ordered) (ds : List Demand) :
    (ds.foldl meet l).params.Ordered := by
  induction ds generalizing l with
  | nil => exact h
  | cons d ds ih =>
    cases d with
    | project path => exact ih h
    | parameter name value => exact ih (h.set name value)

/-! ## Listings that keep what was asked -/

/-- The listing holds a demand. -/
def Holds (l : Listing) : Demand → Prop
  | .project path => l.project = some path
  | .parameter name value => l.params.get? name = some value

/-- No parameter is asked for with two values. -/
def Consistent (ds : List Demand) : Prop :=
  ∀ name value value', .parameter name value ∈ ds → .parameter name value' ∈ ds → value = value'

/-- A listing is made of what it holds. -/
theorem ext_of_holds (hl : l.params.Ordered) (hl' : l'.params.Ordered)
    (h : ∀ d, l.Holds d ↔ l'.Holds d) : l = l' := by
  obtain ⟨project, params⟩ := l
  obtain ⟨project', params'⟩ := l'
  have hproject : project = project' := Option.ext fun path => h (.project path)
  have hparams : params = params' :=
    hl.ext hl' fun name => Option.ext fun value => h (.parameter name value)
  rw [hproject, hparams]

/-- **What a listing holds**, if no parameter is asked for with two values, is what was asked. -/
theorem holds_iff_of_consistent (h : unrestricted.Admits ds) (hc : Consistent ds) :
    (ds.foldl meet unrestricted).Holds d ↔ d ∈ ds := by
  cases d with
  | project path =>
    have hproject : path ∈ (ds.foldl meet unrestricted).project ↔
        path ∈ unrestricted.project ∨ .project path ∈ ds := project_foldl_meet h
    rwa [or_iff_right nofun] at hproject
  | parameter name value =>
    have hlast : (ds.foldl meet unrestricted).params.get? name =
        (ds.filterMap (·.valueOf name)).getLast? := by
      rw [get?_foldl_meet]
      exact Option.or_none
    have hmem : ∀ v, v ∈ ds.filterMap (·.valueOf name) ↔ .parameter name v ∈ ds := by
      simp [List.mem_filterMap, Demand.valueOf_eq_some_iff]
    rw [Holds, hlast]
    constructor
    · exact fun h => (hmem value).mp (List.mem_of_getLast? h)
    · intro hd
      cases hv : (ds.filterMap (·.valueOf name)).getLast? with
      | none =>
        have hnil := List.getLast?_eq_none_iff.mp hv
        exact absurd hnil (List.ne_nil_of_mem ((hmem value).mpr hd))
      | some v => rw [hc name v value ((hmem v).mp (List.mem_of_getLast? hv)) hd]

theorem holds_all_iff (h : unrestricted.Admits ds) :
    (∀ d ∈ ds, (ds.foldl meet unrestricted).Holds d) ↔ Consistent ds := by
  constructor
  · intro hall name value value' hvalue hvalue'
    exact Option.some.inj ((hall _ hvalue).symm.trans (hall _ hvalue'))
  · exact fun hc d hd => (holds_iff_of_consistent h hc).mpr hd

/-- Without such parameters, the order of the demands does not matter. -/
theorem foldl_meet_of_perm (hperm : ds.Perm ds') (h : unrestricted.Admits ds)
    (hc : Consistent ds) : unrestricted.Admits ds' ∧
      ds'.foldl meet unrestricted = ds.foldl meet unrestricted := by
  have h' : unrestricted.Admits ds' := by
    simpa only [Admits, hperm.mem_iff] using h
  have hc' : Consistent ds' := by
    simpa only [Consistent, hperm.mem_iff] using hc
  have hnil : unrestricted.params.Ordered := Params.ordered_nil
  refine ⟨h', ext_of_holds (ordered_foldl_meet hnil _) (ordered_foldl_meet hnil _) fun d => ?_⟩
  rw [holds_iff_of_consistent h hc, holds_iff_of_consistent h' hc', hperm.mem_iff]

/-! ## Whole filters -/

/-- The listing with conditions, one after the other. -/
def takeAll (now : Int) (ps : List Predicate) (l : Listing) : Except QueryError Listing :=
  ps.foldlM (fun l p => l.condition now p) l

/-- **One condition after the other**: the demands of all of them are met, from left to right. -/
theorem takeAll_eq_ok_iff :
    l.takeAll now ps = .ok l' ↔ ∃ dss, List.Forall₂ (Asks now) ps dss ∧ l.Admits dss.flatten ∧
      l' = dss.flatten.foldl meet l := by
  induction ps generalizing l with
  | nil =>
    constructor
    · intro h
      exact ⟨[], .nil, admits_nil l, (Except.ok.inj h).symm⟩
    · rintro ⟨dss, ⟨⟩, -, rfl⟩
      rfl
  | cons p ps ih =>
    rw [takeAll, List.foldlM_cons, bind_eq_ok_iff]
    constructor
    · rintro ⟨mid, hp, hps⟩
      obtain ⟨ds, hasks, hadmits, rfl⟩ := condition_eq_ok_iff.mp hp
      obtain ⟨dss, hall, hrest, rfl⟩ := ih.mp hps
      refine ⟨ds :: dss, .cons hasks hall, ?_, ?_⟩
      · rw [List.flatten_cons]
        exact admits_append.mpr ⟨hadmits, hrest⟩
      · rw [List.flatten_cons, List.foldl_append]
    · rintro ⟨_, hall, hadmits, rfl⟩
      cases hall with
      | @cons _ ds _ dss hasks hall =>
        rw [List.flatten_cons] at hadmits
        obtain ⟨hfirst, hrest⟩ := admits_append.mp hadmits
        refine ⟨ds.foldl meet l, condition_of_asks hasks hfirst, ih.mpr ⟨dss, hall, hrest, ?_⟩⟩
        rw [List.flatten_cons, List.foldl_append]

/-- **The listing of an expression**: it has to be a chain, and its conditions are taken from left
to right. -/
theorem restrict_eq_ok_iff :
    restrict now e l = .ok l' ↔ e.IsChain ∧ l.takeAll now e.predicates = .ok l' := by
  induction e generalizing l l' with
  | predicate p =>
    have hone : l.takeAll now [p] = l.condition now p := by
      rw [takeAll, List.foldlM_cons]
      cases l.condition now p <;> rfl
    rw [restrict, Expr.predicates, hone, Expr.IsChain, true_and]
  | unary negate inner ih =>
    cases negate with
    | false =>
      rw [restrict, ih, Expr.predicates, Expr.IsChain]
      simp
    | true => simp [restrict, Expr.IsChain]
  | binary op left right ihl ihr =>
    cases op with
    | and =>
      rw [restrict, bind_eq_ok_iff, Expr.predicates, takeAll, List.foldlM_append, bind_eq_ok_iff]
      simp only [ihl, ihr, Expr.IsChain, takeAll]
      constructor
      · rintro ⟨mid, ⟨hleft, hmid⟩, hright, hl'⟩
        exact ⟨⟨hleft, hright⟩, mid, hmid, hl'⟩
      · rintro ⟨⟨hleft, hright⟩, mid, hmid, hl'⟩
        exact ⟨mid, ⟨hleft, hmid⟩, hright, hl'⟩
    | or => simp [restrict, Expr.IsChain]

/-- The conditions of what is left of a filter. -/
def conditionsOf : Option Expr → List Predicate
  | none => []
  | some e => e.predicates

/-- A filter has a listing iff it can be routed and what is left of it is a chain of conditions that
are taken one after the other. -/
theorem ofExpr_eq_ok_iff {q : ListingQuery} :
    ListingQuery.ofExpr now e = .ok q ↔
      ∃ remaining, e.normalize.route = .ok (remaining, q.routing) ∧
        (∀ rest ∈ remaining, rest.IsChain) ∧
        unrestricted.takeAll now (conditionsOf remaining) = .ok q.listing := by
  rw [ListingQuery.ofExpr, bind_eq_ok_iff]
  constructor
  · rintro ⟨⟨remaining, routing⟩, hprepare, h⟩
    cases remaining with
    | none =>
      obtain rfl := Except.ok.inj h
      exact ⟨none, prepare_eq_ok_iff.mp hprepare, nofun, rfl⟩
    | some rest =>
      obtain ⟨listing, hrestrict, h⟩ := bind_eq_ok_iff.mp h
      obtain rfl := Except.ok.inj h
      obtain ⟨hchain, htake⟩ := restrict_eq_ok_iff.mp hrestrict
      refine ⟨some rest, prepare_eq_ok_iff.mp hprepare, fun r hr => ?_, htake⟩
      rwa [← Option.some.inj hr]
  · rintro ⟨remaining, hroute, hchain, htake⟩
    refine ⟨_, prepare_eq_ok_iff.mpr hroute, ?_⟩
    cases remaining with
    | none =>
      have hlisting : unrestricted = q.listing := Except.ok.inj htake
      rw [hlisting]
      rfl
    | some rest =>
      have hrestrict := restrict_eq_ok_iff.mpr ⟨hchain rest rfl, htake⟩
      exact bind_eq_ok_iff.mpr ⟨q.listing, hrestrict, rfl⟩

/-- **What a filter asks and what its listing keeps.** Every condition that is left after routing
asks for something, unless it is idle. The project that is asked for is kept, and of the values of a
parameter the last one. All that is asked is kept iff no parameter is asked for with two values, and
then the conditions have the same listing in every order and grouping. -/
theorem listing_ofExpr {q : ListingQuery} (h : ListingQuery.ofExpr now e = .ok q) :
    ∃ remaining, e.normalize.route = .ok (remaining, q.routing) ∧
      ∃ dss, List.Forall₂ (fun p ds => Asks now p ds ∧ (ds = [] → Idle p))
          (conditionsOf remaining) dss ∧
        (∀ path, .project path ∈ dss.flatten → q.listing.project = some path) ∧
        (∀ name, q.listing.params.get? name =
          (dss.flatten.filterMap (·.valueOf name)).getLast?) ∧
        ((∀ d ∈ dss.flatten, q.listing.Holds d) ↔ Consistent dss.flatten) ∧
        (Consistent dss.flatten →
          ∀ e' remaining' routing', e'.normalize.route = .ok (remaining', routing') →
            (∀ rest ∈ remaining', rest.IsChain) →
            (conditionsOf remaining').Perm (conditionsOf remaining) →
            ListingQuery.ofExpr now e' = .ok ⟨q.listing, routing'⟩) := by
  obtain ⟨remaining, hroute, -, htake⟩ := ofExpr_eq_ok_iff.mp h
  obtain ⟨dss, hall, hadmits, hlisting⟩ := takeAll_eq_ok_iff.mp htake
  refine ⟨remaining, hroute, dss, ?_, fun path hpath => ?_, fun name => ?_, ?_, ?_⟩
  · refine hall.imp fun p ds hasks => ⟨hasks, ?_⟩
    rintro rfl
    exact hasks.idle
  · rw [hlisting]
    exact (project_foldl_meet hadmits).mpr (.inr hpath)
  · rw [hlisting, get?_foldl_meet]
    exact Option.or_none
  · rw [hlisting]
    exact holds_all_iff hadmits
  · intro hc e' remaining' routing' hroute' hchain' hperm
    obtain ⟨dss', hall', hdemands⟩ := List.perm_comp_forall₂ hperm hall
    obtain ⟨hadmits', hsame⟩ := foldl_meet_of_perm hdemands.symm.flatten hadmits hc
    refine ofExpr_eq_ok_iff.mpr ⟨remaining', hroute', hchain', takeAll_eq_ok_iff.mpr ?_⟩
    exact ⟨dss', hall', hadmits', hlisting.trans hsame.symm⟩

/-- Two conditions on the project that agree, labels, a bound on a day and a type. -/
def agreeing : Expr :=
  .binary .and
    (.binary .and
      (.predicate (.compare "project" .eq (.text " team/app ")))
      (.predicate (.member "label" .within [.text "bug", .text "ui"])))
    (.binary .and
      (.binary .and
        (.predicate (.compare "Project" .eq (.text "team/app")))
        (.predicate (.compare "updated" .ge (.date ⟨2025, 12, 31, by decide⟩))))
      (.predicate (.compare "type" .eq (.text "issue"))))

theorem listing_ofExpr_agreeing :
    ∃ remaining, agreeing.normalize.route = .ok (remaining, .everywhere) ∧
      ∃ dss, List.Forall₂ (fun p ds => Asks 0 p ds ∧ (ds = [] → Idle p))
          (conditionsOf remaining) dss ∧
        some "bug,ui" = (dss.flatten.filterMap (·.valueOf "labels")).getLast? := by
  have h : ListingQuery.ofExpr 0 agreeing =
      .ok ⟨⟨some "team/app", [("labels", "bug,ui"), ("updated_after", "2025-12-31")]⟩,
        .everywhere⟩ := by
    decide
  obtain ⟨remaining, hroute, dss, hall, -, hlast, -⟩ := listing_ofExpr h
  exact ⟨remaining, hroute, dss, hall, hlast "labels"⟩

/-- Two labels that are both required. -/
def twoLabels (first second : String) : Expr :=
  .binary .and
    (.predicate (.compare "label" .eq (.text first)))
    (.predicate (.compare "label" .eq (.text second)))

/-- Of two labels only the second one is kept, so the order matters. -/
theorem ofExpr_twoLabels :
    ListingQuery.ofExpr 0 (twoLabels "a" "b") =
        .ok ⟨⟨none, [("labels", "b")]⟩, .everywhere⟩ ∧
      ListingQuery.ofExpr 0 (twoLabels "b" "a") =
        .ok ⟨⟨none, [("labels", "a")]⟩, .everywhere⟩ := by
  decide

end Query.Listing

end ForgeBoard
