import ForgeBoard.Proofs.Query.Listing.Refused

/-!
# Filters that have a listing

What is left of a filter after routing turns into a listing in one walk over its nodes, from left to
right and each node before its subtrees (`restrict_eq_walk`). The only thing that a node depends on
is the project that was asked for before it (`project_of_walk`). So a walk gets through iff no node
`Offends`, in view of the nodes before it, and otherwise it ends with the error of the first one
that does (`walk_eq_error_iff`).

`Listable` says the same without an order: no choices, no negations, supported conditions and one
project.

Result: `listable_exactly`. A filter that restricts something has a listing that restricts
something.
-/

namespace ForgeBoard.Query.Listing

open ForgeBoard.Filter Text

variable {now : Int} {p : Predicate} {l l' : Listing} {node rest : Expr} {before nodes : List Expr}
  {ds : List Demand} {dss : List (List Demand)} {err : QueryError} {path : String}

/-! ## The walk -/

/-- What a node does to a listing, its subtrees aside. -/
def visit (now : Int) (l : Listing) : Expr → Except QueryError Listing
  | .binary .and _ _ => .ok l
  | .binary .or _ _ => .error (.orUnsupported .gitlab)
  | .unary false _ => .ok l
  | .unary true _ => .error (.negationUnsupported .gitlab)
  | .predicate p => l.condition now p

/-- The listing after some nodes. -/
def walk (now : Int) (nodes : List Expr) (l : Listing) : Except QueryError Listing :=
  nodes.foldlM (visit now) l

theorem walk_cons :
    l.walk now (node :: nodes) = visit now l node >>= (walk now nodes ·) :=
  List.foldlM_cons

theorem walk_append (nodes nodes' : List Expr) :
    l.walk now (nodes ++ nodes') = l.walk now nodes >>= (walk now nodes' ·) :=
  List.foldlM_append

/-- The listing of an expression is that of the walk over its nodes. -/
theorem restrict_eq_walk (now : Int) (e : Expr) (l : Listing) :
    restrict now e l = l.walk now e.nodes := by
  induction e generalizing l with
  | predicate p =>
    rw [restrict, Expr.nodes, walk_cons, visit]
    cases l.condition now p <;> rfl
  | unary negate inner ih =>
    cases negate with
    | false => exact ih l
    | true => rfl
  | binary op left right ihl ihr =>
    cases op with
    | and =>
      rw [restrict, Expr.nodes, walk_cons, ihl]
      exact (bind_congr fun mid => ihr mid).trans (walk_append _ _).symm
    | or => rfl

theorem project_of_visit (h : visit now l node = .ok l') :
    path ∈ l'.project ↔ path ∈ l.project ∨ ∃ p, .predicate p = node ∧ Names p path := by
  cases node with
  | predicate p =>
    rw [project_of_condition h]
    simp
  | unary negate inner =>
    cases negate with
    | false =>
      obtain rfl := Except.ok.inj h
      simp
    | true => exact absurd h nofun
  | binary op left right =>
    cases op with
    | and =>
      obtain rfl := Except.ok.inj h
      simp
    | or => exact absurd h nofun

/-- **The project** after a walk is that of the beginning, or one that was asked for. -/
theorem project_of_walk (h : l.walk now nodes = .ok l') :
    path ∈ l'.project ↔ path ∈ l.project ∨ ∃ p, .predicate p ∈ nodes ∧ Names p path := by
  induction nodes generalizing l with
  | nil =>
    obtain rfl := Except.ok.inj h
    simp
  | cons node nodes ih =>
    rw [walk_cons] at h
    obtain ⟨mid, hnode, hnodes⟩ := bind_eq_ok_iff.mp h
    rw [ih hnodes, project_of_visit hnode]
    simp only [List.mem_cons, or_and_right, exists_or, or_assoc]

/-! ## Offences -/

/-- The node is one that no listing has, after some nodes that one has. -/
inductive Offends (now : Int) (before : List Expr) : Expr → QueryError → Prop where
  | choice (left right : Expr) :
      Offends now before (.binary .or left right) (.orUnsupported .gitlab)
  | negation (inner : Expr) :
      Offends now before (.unary true inner) (.negationUnsupported .gitlab)
  | condition {p : Predicate} {err : QueryError} (h : Refuses now p err) :
      Offends now before (.predicate p) err
  | project {p q : Predicate} {first path : String} (hp : Names p path)
      (hbefore : .predicate q ∈ before) (hq : Names q first) (hother : first ≠ path) :
      Offends now before (.predicate p) (.conflictingProjects first path)

/-- No node offends. -/
def Clean (now : Int) (nodes : List Expr) : Prop :=
  ∀ before node after err, nodes = before ++ node :: after → ¬ Offends now before node err

/-- The error is that of the first node that offends. -/
def FirstOffence (now : Int) (nodes : List Expr) (err : QueryError) : Prop :=
  ∃ before node after, nodes = before ++ node :: after ∧ Clean now before ∧
    Offends now before node err

/-- A listing that some nodes have led to refuses the next node iff that one offends. -/
theorem visit_eq_error_iff (h : unrestricted.walk now before = .ok l) :
    visit now l node = .error err ↔ Offends now before node err := by
  constructor
  · intro herr
    cases node with
    | predicate p =>
      rcases condition_eq_error_iff.mp herr with hrefuses | ⟨first, path, hfirst, hp, hother, rfl⟩
      · exact .condition hrefuses
      · rcases (project_of_walk h).mp hfirst with hnone | ⟨q, hq, hnames⟩
        · exact absurd hnone nofun
        · exact .project hp hq hnames hother
    | unary negate inner =>
      cases negate with
      | false => exact absurd herr nofun
      | true =>
        obtain rfl := Except.error.inj herr
        exact .negation inner
    | binary op left right =>
      cases op with
      | and => exact absurd herr nofun
      | or =>
        obtain rfl := Except.error.inj herr
        exact .choice left right
  · intro hoffends
    cases hoffends with
    | choice => rfl
    | negation => rfl
    | condition hrefuses => exact condition_of_refuses hrefuses l
    | @project p q first path hp hbefore hq hother =>
      have hfirst : first ∈ l.project := (project_of_walk h).mpr (.inr ⟨q, hbefore, hq⟩)
      exact condition_eq_error_iff.mpr (.inr ⟨first, path, hfirst, hp, hother, rfl⟩)

/-- A walk gets through iff no node offends. -/
theorem clean_iff : Clean now nodes ↔ ∃ l, unrestricted.walk now nodes = .ok l := by
  constructor
  · intro hclean
    by_contra hnot
    obtain ⟨err, herr⟩ := eq_error_of_not_ok hnot
    obtain ⟨before, node, after, mid, hnodes, hbefore, hnode⟩ := foldlM_eq_error_iff.mp herr
    exact hclean before node after err hnodes ((visit_eq_error_iff hbefore).mp hnode)
  · rintro ⟨l, hl⟩ before node after err rfl hoffends
    rw [walk_append] at hl
    obtain ⟨mid, hbefore, hl⟩ := bind_eq_ok_iff.mp hl
    obtain ⟨next, hnode, -⟩ := bind_eq_ok_iff.mp (walk_cons ▸ hl)
    rw [(visit_eq_error_iff hbefore).mpr hoffends] at hnode
    exact absurd hnode nofun

/-- **The error of a walk** is that of the first node that offends. -/
theorem walk_eq_error_iff :
    unrestricted.walk now nodes = .error err ↔ FirstOffence now nodes err := by
  constructor
  · intro h
    obtain ⟨before, node, after, mid, hnodes, hbefore, hnode⟩ := foldlM_eq_error_iff.mp h
    exact ⟨before, node, after, hnodes, clean_iff.mpr ⟨mid, hbefore⟩,
      (visit_eq_error_iff hbefore).mp hnode⟩
  · rintro ⟨before, node, after, hnodes, hclean, hoffends⟩
    obtain ⟨mid, hbefore⟩ := clean_iff.mp hclean
    exact foldlM_eq_error_iff.mpr
      ⟨before, node, after, mid, hnodes, hbefore, (visit_eq_error_iff hbefore).mpr hoffends⟩

/-! ## Filters -/

/-- What is left of a filter is a chain of supported conditions with one project at most. -/
structure Listable (now : Int) (rest : Expr) : Prop where
  noChoice : ∀ left right, .binary .or left right ∉ rest.nodes
  noNegation : ∀ inner, .unary true inner ∉ rest.nodes
  supported : ∀ p ∈ rest.predicates, Supported now p
  oneProject : ∀ p ∈ rest.predicates, ∀ q ∈ rest.predicates, ∀ first path,
    Names p first → Names q path → first = path

theorem listable_iff : Listable now rest ↔ Clean now rest.nodes := by
  constructor
  · rintro hlistable before node after err hnodes hoffends
    have hmem : node ∈ rest.nodes := by
      rw [hnodes]
      exact List.mem_append_cons_self
    cases hoffends with
    | choice left right => exact hlistable.noChoice left right hmem
    | negation inner => exact hlistable.noNegation inner hmem
    | condition hrefuses =>
      have hsupported := hlistable.supported _ (Expr.mem_predicates_iff.mpr hmem)
      exact not_refuses_of_supported hsupported hrefuses
    | @project p q first path hp hbefore hq hother =>
      have hqmem : .predicate q ∈ rest.nodes := by
        rw [hnodes]
        exact List.mem_append_left _ hbefore
      exact hother (hlistable.oneProject q (Expr.mem_predicates_iff.mpr hqmem) p
        (Expr.mem_predicates_iff.mpr hmem) first path hq hp)
  · intro hclean
    -- for an offence that does not depend on the nodes before, any place of the node will do
    have hoffends : ∀ node ∈ rest.nodes, ∀ err, ¬ ∀ before, Offends now before node err := by
      intro node hmem err hall
      obtain ⟨before, after, hnodes⟩ := List.append_of_mem hmem
      exact hclean before node after err hnodes (hall before)
    refine ⟨fun left right hmem => ?_, fun inner hmem => ?_, fun p hp => ?_, ?_⟩
    · exact hoffends _ hmem _ fun before => .choice left right
    · exact hoffends _ hmem _ fun before => .negation inner
    · rcases supported_or_refuses now p with hsupported | ⟨err, hrefuses⟩
      · exact hsupported
      · have hmem := Expr.mem_predicates_iff.mp hp
        exact absurd (fun before => .condition hrefuses) (hoffends _ hmem err)
    · intro p hp q hq first path hfirst hpath
      obtain ⟨l, hl⟩ := clean_iff.mp hclean
      have hlfirst : first ∈ l.project :=
        (project_of_walk hl).mpr (.inr ⟨p, Expr.mem_predicates_iff.mp hp, hfirst⟩)
      have hlpath : path ∈ l.project :=
        (project_of_walk hl).mpr (.inr ⟨q, Expr.mem_predicates_iff.mp hq, hpath⟩)
      exact Option.some.inj (hlfirst.symm.trans hlpath)

/-! ## Restrictions -/

/-- A supported condition asks for nothing iff it is idle. -/
theorem Asks.eq_nil_iff (h : Asks now p ds) : ds = [] ↔ Idle p := by
  constructor
  · rintro rfl
    exact h.idle
  · intro hidle
    have hother : ∀ fields : List String,
        "type" ∉ fields → "project" ∉ fields → p.key ∉ fields := by
      intro fields htype hproject
      rcases hidle with hfield | ⟨hfield, -⟩
      · rwa [hfield]
      · rwa [hfield]
    cases h with
    | anyProject => rfl
    | type => rfl
    | project hfield h hne =>
      rcases hidle with htype | ⟨-, s, hs, hblank⟩
      · exact absurd (hfield.symm.trans htype) (by decide)
      · obtain rfl := Value.text.inj (Operand.single.inj (h.2.symm.trans hs))
        exact absurd hblank hne
    | text hfield =>
      have hmem : p.key ∈ textParameters.map Prod.fst := List.mem_map_of_mem hfield
      exact absurd hmem (hother _ (by decide) (by decide))
    | labels hfield | draft hfield =>
      exact absurd (List.mem_singleton.mpr hfield) (hother _ (by decide) (by decide))
    | after hfield | before hfield | onDay hfield =>
      exact absurd hfield (hother _ (by decide) (by decide))

/-- A listing stays unrestricted iff nothing is asked. -/
theorem foldl_meet_eq_unrestricted_iff (h : unrestricted.Admits ds) :
    ds.foldl meet unrestricted = unrestricted ↔ ds = [] := by
  constructor
  · intro hnothing
    rw [List.eq_nil_iff_forall_not_mem]
    rintro (path | ⟨name, value⟩) hd
    · have hpath := (project_foldl_meet h).mpr (.inr hd)
      rw [hnothing] at hpath
      exact absurd hpath nofun
    · have hlast := get?_foldl_meet name ds unrestricted
      have hvalue : value ∈ ds.filterMap (·.valueOf name) :=
        List.mem_filterMap.mpr ⟨_, hd, Demand.valueOf_eq_some_iff.mpr rfl⟩
      rw [hnothing, List.getLast?_eq_some_getLast (List.ne_nil_of_mem hvalue)] at hlast
      exact absurd hlast nofun
  · rintro rfl
    rfl

theorem flatten_eq_nil_iff {ps : List Predicate} (h : List.Forall₂ (Asks now) ps dss) :
    dss.flatten = [] ↔ ∀ p ∈ ps, Idle p := by
  induction h with
  | nil => simp
  | cons hasks _ ih => simp [ih, hasks.eq_nil_iff]

/-- A listing restricts something iff one of its conditions does. -/
theorem restricts_iff {ps : List Predicate} (h : unrestricted.takeAll now ps = .ok l) :
    (∃ p ∈ ps, ¬ Idle p) ↔ l.project ≠ none ∨ l.params ≠ [] := by
  obtain ⟨dss, hall, hadmits, hl⟩ := takeAll_eq_ok_iff.mp h
  have hunrestricted : l = unrestricted ↔ ∀ p ∈ ps, Idle p := by
    rw [hl, foldl_meet_eq_unrestricted_iff hadmits, flatten_eq_nil_iff hall]
  have hfields : l = unrestricted ↔ l.project = none ∧ l.params = [] := by
    cases l
    simp [unrestricted]
  rw [← not_and_or, ← hfields, hunrestricted]
  simp only [not_forall, exists_prop]

/-! ## Result -/

theorem exists_ofExpr_iff {e : Expr} :
    (∃ q, ListingQuery.ofExpr now e = .ok q) ↔
      ∃ remaining routing, e.normalize.route = .ok (remaining, routing) ∧
        ∀ rest ∈ remaining, Listable now rest := by
  refine exists_prepare_bind_iff.trans (exists_congr fun remaining => exists_congr fun routing =>
    and_congr_right fun _ => ?_)
  cases remaining with
  | none => exact iff_of_true ⟨_, rfl⟩ nofun
  | some rest =>
    simp only [Option.mem_some_iff, forall_eq', listable_iff, clean_iff, ← restrict_eq_walk]
    constructor
    · rintro ⟨q, hq⟩
      obtain ⟨l, hl, -⟩ := bind_eq_ok_iff.mp hq
      exact ⟨l, hl⟩
    · rintro ⟨l, hl⟩
      exact ⟨_, bind_eq_ok_iff.mpr ⟨l, hl, rfl⟩⟩

theorem ofExpr_eq_error_iff {e : Expr} :
    ListingQuery.ofExpr now e = .error err ↔
      (∃ misuse, e.normalize.route = .error misuse ∧ err = .routing misuse) ∨
        ∃ rest routing, e.normalize.route = .ok (some rest, routing) ∧
          FirstOffence now rest.nodes err := by
  refine bind_eq_error_iff.trans (or_congr prepare_eq_error_iff ⟨?_, ?_⟩)
  · rintro ⟨⟨remaining, routing⟩, hprepare, h⟩
    cases remaining with
    | none => exact absurd h nofun
    | some rest =>
      refine ⟨rest, routing, prepare_eq_ok_iff.mp hprepare, walk_eq_error_iff.mp ?_⟩
      rw [← restrict_eq_walk]
      rcases bind_eq_error_iff.mp h with h | ⟨l, -, h⟩
      · exact h
      · exact absurd h nofun
  · rintro ⟨rest, routing, hroute, hoffence⟩
    refine ⟨_, prepare_eq_ok_iff.mpr hroute, bind_eq_error_iff.mpr (.inl ?_)⟩
    rw [restrict_eq_walk]
    exact walk_eq_error_iff.mpr hoffence

/-- **The filters that have a listing**, and the errors of the others. What is listed is restricted
iff one of the conditions restricts something, so no condition is passed over. -/
theorem listable_exactly (now : Int) (e : Expr) :
    ((∃ q, ListingQuery.ofExpr now e = .ok q) ↔
        ∃ remaining routing, e.normalize.route = .ok (remaining, routing) ∧
          ∀ rest ∈ remaining, Listable now rest) ∧
      (∀ err, ListingQuery.ofExpr now e = .error err ↔
        (∃ misuse, e.normalize.route = .error misuse ∧ err = .routing misuse) ∨
          ∃ rest routing, e.normalize.route = .ok (some rest, routing) ∧
            FirstOffence now rest.nodes err) ∧
      ∀ q, ListingQuery.ofExpr now e = .ok q →
        ∃ remaining, e.normalize.route = .ok (remaining, q.routing) ∧
          ((∃ p ∈ conditionsOf remaining, ¬ Idle p) ↔
            q.listing.project ≠ none ∨ q.listing.params ≠ []) := by
  refine ⟨exists_ofExpr_iff, fun err => ofExpr_eq_error_iff, fun q hq => ?_⟩
  obtain ⟨remaining, hroute, -, htake⟩ := ofExpr_eq_ok_iff.mp hq
  exact ⟨remaining, hroute, restricts_iff htake⟩

/-- The second project comes before the choice. -/
example :
    ListingQuery.ofExpr 0 (.binary .and (.predicate (.compare "project" .eq (.text "a/b")))
      (.binary .and (.predicate (.compare "project" .eq (.text " c/d ")))
        (.binary .or (.predicate (.compare "draft" .eq (.bool true)))
          (.predicate (.compare "draft" .eq (.bool false)))))) =
      .error (.conflictingProjects "a/b" "c/d") := by
  decide

end ForgeBoard.Query.Listing
