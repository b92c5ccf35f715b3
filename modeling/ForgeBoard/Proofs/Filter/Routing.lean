import ForgeBoard.Filter.Routing
import ForgeBoard.Proofs.Filter.Tree
import ForgeBoard.Proofs.Success

/-!
# Which filters can be routed, and how

`Expr.takeApart` threads three values through a tree and stops at the first misuse. Here it is
said by the tree alone, without a recursion of its own:

* `Predicate.Routes`: the shapes of a routing condition, and its patterns.
* `Expr.Routable`: no routing condition is negated, all of them have such a shape, and no `or` has
  a routing condition on one side and another condition on the other side.
* `Expr.pruned`: the tree without its routing conditions.

Result: `route_eq_ok_iff`. It rests on `takeApart_eq_ok_iff`, an induction on the tree: what is left
of a side is empty iff all its conditions route, so the test at an `or` sees the whole sides.
-/

namespace ForgeBoard.Filter

/-! ## What is described -/

namespace Predicate

/-- The condition asks for its values. -/
def includes (p : Predicate) : Bool :=
  p.op == .compare .eq || p.op == .member .within

/-- The condition rejects its values. -/
def excludes (p : Predicate) : Bool :=
  p.op == .compare .ne || p.op == .member .notWithin

/-- The text values of a condition, in order. -/
def texts (p : Predicate) : List String :=
  p.values.filterMap Value.text?

/-- A routing condition that means something: it compares with a text for equality, or asks for
membership in a list of texts. -/
structure Routes (p : Predicate) : Prop where
  texts : ∀ v ∈ p.values, ∃ s, v = .text s
  shape : (∃ v, p.operand = .single v ∧ (p.op = .compare .eq ∨ p.op = .compare .ne)) ∨
    ∃ vs, p.operand = .list vs ∧ (p.op = .member .within ∨ p.op = .member .notWithin)

end Predicate

namespace Expr

/-- A routing condition on one side and another condition on the other side. -/
def Mixed (l r : Expr) : Prop :=
  ((∃ p ∈ l.predicates, p.isRouting = true) ∧ ∃ p ∈ r.predicates, p.isRouting = false) ∨
    ((∃ p ∈ r.predicates, p.isRouting = true) ∧ ∃ p ∈ l.predicates, p.isRouting = false)

/-- The tree can be routed. -/
structure Routable (e : Expr) : Prop where
  notNegated : ∀ inner, unary true inner ∈ e.nodes → ∀ p ∈ inner.predicates, p.isRouting = false
  routes : ∀ p ∈ e.predicates, p.isRouting = true → p.Routes
  notMixed : ∀ left right, binary .or left right ∈ e.nodes → ¬ Mixed left right

/-- The tree without its routing conditions, if another one is left. Where one side of a node is
gone, the other side stands for the node; nodes that do not negate are gone. -/
def pruned : Expr → Option Expr
  | predicate p => if p.isRouting then none else some (.predicate p)
  | unary true inner => inner.pruned.map (.unary true)
  | unary false inner => inner.pruned
  | binary op left right =>
    match left.pruned, right.pruned with
    | some l, some r => some (.binary op l r)
    | some l, none => some l
    | none, some r => some r
    | none, none => none

/-- The patterns of the routing conditions, from left to right. -/
def patterns (e : Expr) : Routing where
  includes := ((e.predicates.filter (·.isRouting)).filter (·.includes)).flatMap (·.texts)
  excludes := ((e.predicates.filter (·.isRouting)).filter (·.excludes)).flatMap (·.texts)

end Expr

/-! ## One condition -/

theorem texts?_eq_some_iff {vs : List Value} {ss : List String} :
    texts? vs = some ss ↔ (∀ v ∈ vs, ∃ s, v = .text s) ∧ ss = vs.filterMap Value.text? := by
  induction vs generalizing ss with
  | nil => simp [texts?, eq_comm]
  | cons v vs ih =>
    simp only [texts?, Option.bind_eq_some_iff, Option.map_eq_some_iff, ih, List.forall_mem_cons]
    cases v with
    | text s =>
      constructor
      · rintro ⟨t, ht, _, ⟨hvs, rfl⟩, rfl⟩
        obtain rfl := Option.some.inj ht
        exact ⟨⟨⟨s, rfl⟩, hvs⟩, rfl⟩
      · rintro ⟨⟨-, hvs⟩, rfl⟩
        exact ⟨s, rfl, _, ⟨hvs, rfl⟩, rfl⟩
    | bool | number | date | span | call => simp [Value.text?]

/-- A routing condition is read iff it means something, and then its texts are the patterns of the
side that its operator names. -/
theorem Predicate.routing_eq_ok_iff {p : Predicate} {r : Routing} :
    p.routing = .ok r ↔
      p.Routes ∧ r = ⟨if p.includes then p.texts else [], if p.excludes then p.texts else []⟩ := by
  constructor
  · intro h
    unfold routing at h
    split at h
    · exact absurd h nofun
    next patterns hp =>
    obtain ⟨htexts, rfl⟩ := texts?_eq_some_iff.mp hp
    split at h
    · next v hop ho =>
      obtain rfl := Except.ok.inj h
      exact ⟨⟨htexts, .inl ⟨v, ho, .inl hop⟩⟩, by simp [includes, excludes, hop, texts]⟩
    · next vs hop ho =>
      obtain rfl := Except.ok.inj h
      exact ⟨⟨htexts, .inr ⟨vs, ho, .inl hop⟩⟩, by simp [includes, excludes, hop, texts]⟩
    · next v hop ho =>
      obtain rfl := Except.ok.inj h
      exact ⟨⟨htexts, .inl ⟨v, ho, .inr hop⟩⟩, by simp [includes, excludes, hop, texts]⟩
    · next vs hop ho =>
      obtain rfl := Except.ok.inj h
      exact ⟨⟨htexts, .inr ⟨vs, ho, .inr hop⟩⟩, by simp [includes, excludes, hop, texts]⟩
    · exact absurd h nofun
  · rintro ⟨⟨htexts, hshape⟩, rfl⟩
    unfold routing
    rw [texts?_eq_some_iff.mpr ⟨htexts, rfl⟩]
    rcases hshape with ⟨v, ho, hop | hop⟩ | ⟨vs, ho, hop | hop⟩ <;>
      simp [hop, ho, includes, excludes, texts]

/-! ## Conditions of nodes -/

namespace Expr

variable {op : Connective} {negate : Bool} {l r inner e : Expr} {p : Predicate}

theorem routable_predicate_iff :
    (predicate p).Routable ↔ (p.isRouting = true → p.Routes) := by
  constructor
  · intro h
    exact h.routes p List.mem_cons_self
  · intro h
    refine ⟨fun _ hm => ?_, fun q hq => ?_, fun _ _ hm => ?_⟩
    · exact absurd (List.mem_singleton.mp hm) nofun
    · obtain rfl := List.mem_singleton.mp hq
      exact h
    · exact absurd (List.mem_singleton.mp hm) nofun

theorem routable_unary_iff :
    (unary negate inner).Routable ↔
      (negate = true → inner.any Predicate.isRouting = false) ∧ inner.Routable := by
  rw [any_eq_false_iff]
  constructor
  · intro h
    refine ⟨?_, fun i hi => h.notNegated i (List.mem_cons_of_mem _ hi), h.routes,
      fun a b hab => h.notMixed a b (List.mem_cons_of_mem _ hab)⟩
    rintro rfl
    exact h.notNegated inner List.mem_cons_self
  · rintro ⟨hn, h⟩
    refine ⟨fun i hi => ?_, h.routes, fun a b hab => ?_⟩
    · rcases List.mem_cons.mp hi with hi | hi
      · obtain ⟨rfl, rfl⟩ := Expr.unary.inj hi
        exact hn rfl
      · exact h.notNegated i hi
    · rcases List.mem_cons.mp hab with hab | hab
      · exact absurd hab nofun
      · exact h.notMixed a b hab

theorem routable_binary_iff :
    (binary op l r).Routable ↔ (op = .or → ¬ Mixed l r) ∧ l.Routable ∧ r.Routable := by
  constructor
  · intro h
    refine ⟨?_, ⟨fun i hi => h.notNegated i ?_, fun p hp => h.routes p ?_,
      fun a b hab => h.notMixed a b ?_⟩, ⟨fun i hi => h.notNegated i ?_,
      fun p hp => h.routes p ?_, fun a b hab => h.notMixed a b ?_⟩⟩
    · rintro rfl
      exact h.notMixed l r List.mem_cons_self
    · exact List.mem_cons_of_mem _ (List.mem_append_left _ hi)
    · exact List.mem_append_left _ hp
    · exact List.mem_cons_of_mem _ (List.mem_append_left _ hab)
    · exact List.mem_cons_of_mem _ (List.mem_append_right _ hi)
    · exact List.mem_append_right _ hp
    · exact List.mem_cons_of_mem _ (List.mem_append_right _ hab)
  · rintro ⟨hmixed, hl, hr⟩
    refine ⟨fun i hi => ?_, fun p hp => ?_, fun a b hab => ?_⟩
    · rcases List.mem_cons.mp hi with hi | hi
      · exact absurd hi nofun
      · rcases List.mem_append.mp hi with hi | hi
        · exact hl.notNegated i hi
        · exact hr.notNegated i hi
    · rcases List.mem_append.mp hp with hp | hp
      · exact hl.routes p hp
      · exact hr.routes p hp
    · rcases List.mem_cons.mp hab with hab | hab
      · obtain ⟨rfl, rfl, rfl⟩ := Expr.binary.inj hab
        exact hmixed rfl
      · rcases List.mem_append.mp hab with hab | hab
        · exact hl.notMixed a b hab
        · exact hr.notMixed a b hab

/-! ## What is left -/

/-- Nothing is left iff every condition routes. -/
theorem pruned_eq_none_iff : e.pruned = none ↔ ∀ p ∈ e.predicates, p.isRouting = true := by
  induction e with
  | predicate p =>
    unfold pruned
    split <;> simp [predicates, *]
  | unary negate inner ih =>
    cases negate with
    | true => rw [pruned, Option.map_eq_none_iff, ih, predicates]
    | false => rw [pruned, ih, predicates]
  | binary op l r ihl ihr =>
    rw [predicates, List.forall_mem_append, ← ihl, ← ihr, pruned]
    cases l.pruned <;> cases r.pruned <;> simp

theorem pruned_isSome_iff : e.pruned.isSome = true ↔ ∃ p ∈ e.predicates, p.isRouting = false := by
  rw [← Option.not_isNone, Bool.not_eq_true', ← Bool.not_eq_true, Option.isNone_iff_eq_none,
    pruned_eq_none_iff]
  simp

/-- What is left has the other conditions, in order. -/
theorem predicates_pruned : ∀ rest ∈ e.pruned,
    rest.predicates = e.predicates.filter (!·.isRouting) := by
  induction e with
  | predicate p =>
    intro rest hrest
    unfold pruned at hrest
    split at hrest
    · exact absurd hrest nofun
    · next hp =>
      obtain rfl := Option.some.inj hrest
      simp [predicates, hp]
  | unary negate inner ih =>
    intro rest hrest
    cases negate with
    | true =>
      obtain ⟨i, hi, rfl⟩ := Option.map_eq_some_iff.mp hrest
      exact ih i hi
    | false => exact ih rest hrest
  | binary op l r ihl ihr =>
    intro rest hrest
    have none_left : ∀ {e : Expr}, e.pruned = none → e.predicates.filter (!·.isRouting) = [] := by
      intro e he
      simpa using pruned_eq_none_iff.mp he
    rw [predicates, List.filter_append]
    unfold pruned at hrest
    split at hrest
    · next l' r' hl hr =>
      obtain rfl := Option.some.inj hrest
      rw [predicates, ihl l' hl, ihr r' hr]
    · next l' hl hr =>
      obtain rfl := Option.some.inj hrest
      rw [ihl l' hl, none_left hr, List.append_nil]
    · next r' hl hr =>
      obtain rfl := Option.some.inj hrest
      rw [ihr r' hr, none_left hl, List.nil_append]
    · exact absurd hrest nofun

/-- Every node that is left negates. -/
theorem pruned_negates : ∀ rest ∈ e.pruned, ∀ inner, unary false inner ∉ rest.nodes := by
  induction e with
  | predicate p =>
    intro rest hrest inner
    unfold pruned at hrest
    split at hrest
    · exact absurd hrest nofun
    · obtain rfl := Option.some.inj hrest
      simp [nodes]
  | unary negate inner ih =>
    intro rest hrest
    cases negate with
    | true =>
      obtain ⟨i, hi, rfl⟩ := Option.map_eq_some_iff.mp hrest
      intro j hj
      rcases List.mem_cons.mp hj with hj | hj
      · exact absurd hj nofun
      · exact ih i hi j hj
    | false => exact ih rest hrest
  | binary op l r ihl ihr =>
    intro rest hrest
    unfold pruned at hrest
    split at hrest
    · next l' r' hl hr =>
      obtain rfl := Option.some.inj hrest
      intro j hj
      rcases List.mem_cons.mp hj with hj | hj
      · exact absurd hj nofun
      · rcases List.mem_append.mp hj with hj | hj
        · exact ihl l' hl j hj
        · exact ihr r' hr j hj
    · next l' hl hr =>
      obtain rfl := Option.some.inj hrest
      exact ihl l' hl
    · next r' hl hr =>
      obtain rfl := Option.some.inj hrest
      exact ihr r' hr
    · exact absurd hrest nofun

theorem patterns_binary : (binary op l r).patterns = l.patterns.merge r.patterns := by
  simp [patterns, predicates, Routing.merge]

theorem joinRemaining_pruned : joinRemaining op l.pruned r.pruned = (binary op l r).pruned := by
  rw [pruned]
  cases l.pruned <;> cases r.pruned <;> rfl

/-- The test at an `or`, on the values of both sides, sees whether the sides are mixed. -/
theorem mixed_iff :
    Mixed l r ↔ (l.any Predicate.isRouting = true ∧ r.pruned.isSome = true) ∨
      (r.any Predicate.isRouting = true ∧ l.pruned.isSome = true) := by
  simp only [Mixed, any_eq_true_iff, pruned_isSome_iff]

theorem takeApart_predicate_eq_ok_iff {a : Routed} :
    (predicate p).takeApart = .ok a ↔
      (p.isRouting = true → p.Routes) ∧
        a = ⟨(predicate p).pruned, (predicate p).patterns, p.isRouting⟩ := by
  unfold takeApart pruned
  cases hp : p.isRouting with
  | false =>
    have hpatterns : (predicate p).patterns = .everywhere := by
      simp [patterns, predicates, hp, Routing.everywhere]
    simp [hpatterns, eq_comm]
  | true =>
    have hpatterns : (predicate p).patterns =
        ⟨if p.includes then p.texts else [], if p.excludes then p.texts else []⟩ := by
      simp only [patterns, predicates, List.filter_cons, hp, List.filter_nil, if_true]
      cases p.includes <;> cases p.excludes <;> simp
    simp only [if_true, forall_const, hpatterns]
    rw [map_eq_ok_iff]
    constructor
    · rintro ⟨r, hr, rfl⟩
      obtain ⟨hroutes, rfl⟩ := Predicate.routing_eq_ok_iff.mp hr
      exact ⟨hroutes, rfl⟩
    · rintro ⟨hroutes, rfl⟩
      exact ⟨_, Predicate.routing_eq_ok_iff.mpr ⟨hroutes, rfl⟩, rfl⟩

/-- **Taking a tree apart** succeeds iff the tree can be routed, and gives what is described. -/
theorem takeApart_eq_ok_iff {a : Routed} :
    e.takeApart = .ok a ↔
      e.Routable ∧ a = ⟨e.pruned, e.patterns, e.any Predicate.isRouting⟩ := by
  -- on the value of the whole record: the test at an `or` needs what is left of both sides and
  -- whether each had a routing condition
  induction e generalizing a with
  | predicate p => rw [routable_predicate_iff, takeApart_predicate_eq_ok_iff, any]
  | unary negate inner ih =>
    rw [routable_unary_iff, takeApart, ite_error_eq_ok_iff, map_eq_ok_iff]
    simp only [ih, Bool.and_eq_true, not_and, Bool.not_eq_true]
    constructor
    · rintro ⟨hnegated, _, ⟨hinner, rfl⟩, rfl⟩
      refine ⟨⟨hnegated, hinner⟩, ?_⟩
      cases negate <;> rfl
    · rintro ⟨⟨hnegated, hinner⟩, rfl⟩
      refine ⟨hnegated, _, ⟨hinner, rfl⟩, ?_⟩
      cases negate <;> rfl
  | binary op l r ihl ihr =>
    rw [routable_binary_iff, takeApart, bind_eq_ok_iff]
    simp only [bind_eq_ok_iff, ihl, ihr, ite_error_eq_ok_iff]
    constructor
    · rintro ⟨_, ⟨hl, rfl⟩, _, ⟨hr, rfl⟩, hmixed, h⟩
      obtain rfl := Except.ok.inj h
      refine ⟨⟨fun hop hm => hmixed ⟨hop, mixed_iff.mp hm⟩, hl, hr⟩, ?_⟩
      rw [joinRemaining_pruned, patterns_binary, any]
    · rintro ⟨⟨hmixed, hl, hr⟩, rfl⟩
      refine ⟨_, ⟨hl, rfl⟩, _, ⟨hr, rfl⟩, fun hm => hmixed hm.1 (mixed_iff.mpr hm.2), ?_⟩
      rw [joinRemaining_pruned, patterns_binary, any]

theorem route_eq_ok {remaining : Option Expr} {routing : Routing} :
    e.route = .ok (remaining, routing) ↔
      e.Routable ∧ remaining = e.pruned ∧ routing = e.patterns := by
  rw [route, map_eq_ok_iff]
  simp only [takeApart_eq_ok_iff, Prod.mk.injEq]
  constructor
  · rintro ⟨_, ⟨he, rfl⟩, rfl, rfl⟩
    exact ⟨he, rfl, rfl⟩
  · rintro ⟨he, rfl, rfl⟩
    exact ⟨_, ⟨he, rfl⟩, rfl, rfl⟩

/-- **Routing** succeeds iff the tree can be routed. It gives the patterns and the pruned tree, of
which nothing is left iff all conditions route. What is left has the other conditions in order, and
only nodes that negate. -/
theorem route_eq_ok_iff (e : Expr) :
    (∀ remaining routing, e.route = .ok (remaining, routing) ↔
      e.Routable ∧ remaining = e.pruned ∧ routing = e.patterns) ∧
    (e.pruned = none ↔ ∀ p ∈ e.predicates, p.isRouting = true) ∧
    ∀ rest ∈ e.pruned, rest.predicates = e.predicates.filter (!·.isRouting) ∧
      ∀ inner, unary false inner ∉ rest.nodes :=
  ⟨fun _ _ => route_eq_ok, pruned_eq_none_iff,
    fun rest hrest => ⟨predicates_pruned rest hrest, pruned_negates rest hrest⟩⟩

end Expr

end ForgeBoard.Filter
