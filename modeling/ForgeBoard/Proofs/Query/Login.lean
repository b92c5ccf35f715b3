import ForgeBoard.Proofs.Filter.Unnamed
import ForgeBoard.Proofs.Query.Listing.Params
import ForgeBoard.Proofs.Query.Search.Beside
import ForgeBoard.Proofs.Success

/-!
# Queries for one user and for another

Whether a filter has a query does not depend on the login that stands for the current user, and
neither does the routing. `ListingQuery.ofExpr_withUser` and `SearchQuery.ofExpr_withUser` say so:
with a login and without, the translation fails with the same error or gives queries that are routed
alike.

Both translations are compared with that of the filter without names (`Expr.unnamed`), by induction
on the expression. What has to be carried along is different: for a listing the parameters that hold
no users, because one project may conflict with another (`Listing.SameButUsers`), and for a search
string whether it is blank, because a choice between blank sides is refused (`Search.SameBlank`).

Result: `queries_alike_withUser`.
-/

namespace ForgeBoard.Query

open ForgeBoard.Filter Text

variable {now : Int} {field : String} {op : CompareOp} {v : Value} {p : Predicate}

/-- On users, a condition has one of four fields. -/
theorem key_of_isOnUsers (h : p.isOnUsers = true) :
    p.key = "author" ∨ p.key = "assignee" ∨ p.key = "review_requested" ∨ p.key = "involves" := by
  simpa [Predicate.isOnUsers, userFields] using h

/-- The texts of two values that differ in their texts at most. -/
theorem textOf_unnamed (field : String) (v : Value) :
    Alike (fun _ _ => True) (textOf field v.unnamed) (textOf field v) := by
  cases v with
  | text s => exact .ok trivial
  | bool | number | date | span | call => exact .error _

/-- What is prepared of a filter, with a login and without. -/
theorem prepare_withUser (login : String) (e : Expr) :
    Alike (fun a b => a.1.map Expr.unnamed = b.1.map Expr.unnamed ∧ a.2 = b.2)
      (prepare (e.withUser login)) (prepare e) := by
  have hroute := Expr.route_unnamed (e.withUser login).normalize
  rw [Expr.unnamed_normalize_withUser, Expr.route_unnamed] at hroute
  unfold prepare
  cases hlogin : (e.withUser login).normalize.route with
  | error err =>
    rw [hlogin] at hroute
    cases hplain : e.normalize.route with
    | error err' =>
      rw [hplain] at hroute
      rw [Except.error.inj hroute]
      exact .error _
    | ok b => rw [hplain] at hroute; exact absurd hroute nofun
  | ok a =>
    rw [hlogin] at hroute
    cases hplain : e.normalize.route with
    | error err' => rw [hplain] at hroute; exact absurd hroute nofun
    | ok b =>
      rw [hplain] at hroute
      obtain ⟨hrest, hrouting⟩ := Prod.mk.inj (Except.ok.inj hroute)
      exact .ok ⟨hrest.symm, hrouting.symm⟩

/-! ## Listings -/

namespace Listing

/-- The parameters that hold users. -/
def userParams : List String :=
  ["author_username", "assignee_username", "reviewer_username"]

/-- The listings ask for the same project, and differ in parameters for users at most. -/
structure SameButUsers (l l' : Listing) : Prop where
  project : l.project = l'.project
  params : ∀ name, name ∉ userParams → l.params.get? name = l'.params.get? name

/-- Labels alone may be given as a list. -/
theorem condition_of_member {op : MemberOp} {l : Listing} (hop : p.op = .member op)
    (hkey : p.key ≠ "label") : l.condition now p = .error (unsupported p.key (.member op)) := by
  unfold condition
  split
  · next h _ => exact absurd (hop.symm.trans h) nofun
  · rw [if_neg hkey, hop]
  · rw [hop]

namespace SameButUsers

variable {l l' l'' : Listing}

theorem refl (l : Listing) : SameButUsers l l :=
  ⟨rfl, fun _ _ => rfl⟩

theorem symm (h : SameButUsers l l') : SameButUsers l' l :=
  ⟨h.project.symm, fun name hname => (h.params name hname).symm⟩

theorem trans (h : SameButUsers l l') (h' : SameButUsers l' l'') : SameButUsers l l'' :=
  ⟨h.project.trans h'.project, fun name hname => (h.params name hname).trans (h'.params name hname)⟩

theorem set (h : SameButUsers l l') (name value : String) :
    SameButUsers (l.set name value) (l'.set name value) := by
  refine ⟨h.project, fun name' hname => ?_⟩
  rw [Listing.set, Listing.set, Params.get?_set, Params.get?_set, h.params name' hname]

/-- A parameter for users may be set to anything. -/
theorem setUser (h : SameButUsers l l') {name : String} (hname : name ∈ userParams)
    (value value' : String) : SameButUsers (l.set name value) (l'.set name value') := by
  refine ⟨h.project, fun name' hname' => ?_⟩
  have hne : name' ≠ name := fun heq => hname' (heq ▸ hname)
  rw [Listing.set, Listing.set, Params.get?_set, Params.get?_set, if_neg hne, if_neg hne,
    h.params name' hname']

theorem setProject (h : SameButUsers l l') (path : String) :
    Alike SameButUsers (l.setProject path) (l'.setProject path) := by
  simp only [Listing.setProject, h.project]
  split
  · exact .ok h
  · split
    · split
      · exact .ok h
      · exact .error _
    · exact .ok ⟨rfl, h.params⟩

theorem setDay (h : SameButUsers l l') (field : String) (op : CompareOp) (day : String) :
    Alike SameButUsers (l.setDay field op day) (l'.setDay field op day) := by
  cases op with
  | gt | ge | lt | le => exact .ok (h.set _ _)
  | eq => exact .ok ((h.set _ _).set _ _)
  | ne => exact .error _

theorem comparison (h : SameButUsers l l') (now : Int) (field : String) (op : CompareOp)
    (v : Value) :
    Alike SameButUsers (l.comparison now field op v) (l'.comparison now field op v) := by
  unfold Listing.comparison
  split
  · exact .bindSame fun _ => .bindSame fun _ => .ok (h.set _ _)
  · split
    · exact .bindSame fun _ => .bindSame fun path => h.setProject path
    · split
      · exact .bindSame fun _ => .bindSame fun _ => .ok (h.set _ _)
      · split
        · exact .bindSame fun day => h.setDay field op day
        · split
          · exact .bindSame fun _ => .ok h
          · exact .error _

theorem condition (h : SameButUsers l l') (now : Int) (p : Predicate) :
    Alike SameButUsers (l.condition now p) (l'.condition now p) := by
  obtain ⟨field, op, operand⟩ := p
  cases op with
  | compare op =>
    cases operand with
    | single v => exact h.comparison now _ op v
    | list vs => exact .error _
  | member op =>
    cases operand with
    | single v => cases op <;> exact .error _
    | list vs =>
      cases op with
      | notWithin => exact .error _
      | within =>
        simp only [Listing.condition]
        split
        · split
          · exact .error _
          · exact .bindSame fun _ => .ok (h.set _ _)
        · exact .error _

/-- The one place where the name of a user goes. -/
theorem comparison_unnamed (h : SameButUsers l l') (now : Int) (hp : p.isOnUsers = true)
    (op : CompareOp) (v : Value) :
    Alike SameButUsers (l.comparison now p.key op v.unnamed) (l'.comparison now p.key op v) := by
  have hparam : ∀ name, param? p.key = some name → name ∈ userParams →
      Alike SameButUsers (l.comparison now p.key op v.unnamed) (l'.comparison now p.key op v) := by
    intro name hname hmem
    simp only [Listing.comparison, hname]
    exact .bindSame fun _ => (textOf_unnamed _ v).bind fun _ _ _ => .ok (h.setUser hmem _ _)
  rcases key_of_isOnUsers hp with hkey | hkey | hkey | hkey
  · exact hparam "author_username" (by rw [hkey]; rfl) (by decide)
  · exact hparam "assignee_username" (by rw [hkey]; rfl) (by decide)
  · exact hparam "reviewer_username" (by rw [hkey]; rfl) (by decide)
  · rw [hkey]
    exact .error _

theorem condition_unnamed (h : SameButUsers l l') (now : Int) (p : Predicate) :
    Alike SameButUsers (l.condition now p.unnamed) (l'.condition now p) := by
  cases hp : p.isOnUsers with
  | false =>
    rw [Predicate.unnamed_of_not_isOnUsers hp]
    exact h.condition now p
  | true =>
    cases hop : p.op with
    | compare op =>
      rw [Predicate.unnamed_of_isOnUsers hp]
      obtain ⟨field, _, operand⟩ := p
      obtain rfl := hop
      cases operand with
      | single v => exact h.comparison_unnamed now hp op v
      | list vs => exact .error _
    | member op =>
      have hlabel : p.key ≠ "label" := by
        rcases key_of_isOnUsers hp with hkey | hkey | hkey | hkey <;> rw [hkey] <;> decide
      have hop' : p.unnamed.op = .member op := by rw [Predicate.unnamed_of_isOnUsers hp, hop]
      have hlabel' : p.unnamed.key ≠ "label" := by rwa [Predicate.key_unnamed]
      rw [condition_of_member hop hlabel, condition_of_member hop' hlabel', Predicate.key_unnamed]
      exact .error _

/-- **Conditions on users** restrict a listing alike, whoever they name, by induction on the
expression. -/
theorem restrict_unnamed (now : Int) (e : Expr) (h : SameButUsers l l') :
    Alike SameButUsers (restrict now e.unnamed l) (restrict now e l') := by
  induction e generalizing l l' with
  | predicate p => exact h.condition_unnamed now p
  | unary negate inner ih =>
    cases negate with
    | false => exact ih h
    | true => exact .error _
  | binary op left right ihl ihr =>
    cases op with
    | and => exact (ihl h).bind fun _ _ => ihr
    | or => exact .error _

end SameButUsers

end Listing

/-- **The listing of a filter** with a login for the current user, and without. -/
theorem ListingQuery.ofExpr_withUser (login : String) (now : Int) (e : Expr) :
    Alike (fun q q' => q.listing.SameButUsers q'.listing ∧ q.routing = q'.routing)
      (ListingQuery.ofExpr now (e.withUser login)) (ListingQuery.ofExpr now e) := by
  refine (prepare_withUser login e).bind ?_
  rintro ⟨rest, routing⟩ ⟨rest', routing'⟩ ⟨hrest, rfl⟩
  cases rest with
  | none =>
    cases rest' with
    | none => exact .ok ⟨.refl _, rfl⟩
    | some e' => exact absurd hrest nofun
  | some e =>
    cases rest' with
    | none => exact absurd hrest nofun
    | some e' =>
      have hsame : e.unnamed = e'.unnamed := Option.some.inj hrest
      have hlogin := Listing.SameButUsers.restrict_unnamed now e (.refl .unrestricted)
      have hplain := Listing.SameButUsers.restrict_unnamed now e' (.refl .unrestricted)
      rw [hsame] at hlogin
      exact (hlogin.symm.trans hplain fun _ _ _ h h' => h.symm.trans h').bind fun _ _ h =>
        .ok ⟨h, rfl⟩

/-! ## Search strings -/

namespace Search

/-- Both search strings are blank, or neither is. -/
def SameBlank (s t : String) : Prop :=
  trim s = "" ↔ trim t = ""

theorem SameBlank.refl (s : String) : SameBlank s s :=
  Iff.rfl

theorem sameBlank_of_mem {s t : String} {c d : Char} (hs : c ∈ s.toList) (hc : isBlank c = false)
    (ht : d ∈ t.toList) (hd : isBlank d = false) : SameBlank s t :=
  iff_of_false (trim_ne_empty_of_mem hs hc) (trim_ne_empty_of_mem ht hd)

theorem qualified_alike (qualifier field : String) (op : CompareOp) (s t : String) :
    Alike SameBlank (qualified qualifier field op s) (qualified qualifier field op t) := by
  have hcolon : isBlank ':' = false := by decide
  cases op with
  | eq | ne => exact .ok (sameBlank_of_mem (c := ':') (by simp) hcolon (d := ':') (by simp) hcolon)
  | gt | ge | lt | le => exact .error _

/-- The one place where the name of a user goes. -/
theorem comparison_unnamed (now : Int) (hp : p.isOnUsers = true) (op : CompareOp) (v : Value) :
    Alike SameBlank (comparison now p.key op v.unnamed) (comparison now p.key op v) := by
  have hqualifier : ∀ q, qualifier? p.key = some q →
      Alike SameBlank (comparison now p.key op v.unnamed) (comparison now p.key op v) := by
    intro q hq
    simp only [comparison, hq]
    exact (textOf_unnamed _ v).bind fun s t _ => qualified_alike q p.key op s t
  rcases key_of_isOnUsers hp with hkey | hkey | hkey | hkey
  · exact hqualifier "author" (by rw [hkey]; rfl)
  · exact hqualifier "assignee" (by rw [hkey]; rfl)
  · exact hqualifier "review-requested" (by rw [hkey]; rfl)
  · exact hqualifier "involves" (by rw [hkey]; rfl)

theorem membership_of_isOnUsers (hp : p.isOnUsers = true) (now : Int) (op : MemberOp)
    (vs : List Value) : membership now p.key op vs = .error (unsupported p.key (.member op)) := by
  have hlistable : isListable p.key = false := by
    rcases key_of_isOnUsers hp with hkey | hkey | hkey | hkey <;> rw [hkey] <;> decide
  rw [membership, hlistable]
  rfl

theorem key_ne_routingField (hp : p.isOnUsers = true) : p.key ≠ routingField := by
  rcases key_of_isOnUsers hp with hkey | hkey | hkey | hkey <;> rw [hkey] <;> decide

theorem condition_unnamed (now : Int) (p : Predicate) :
    Alike SameBlank (condition now p.unnamed) (condition now p) := by
  cases hp : p.isOnUsers with
  | false =>
    rw [Predicate.unnamed_of_not_isOnUsers hp]
    exact .refl SameBlank.refl _
  | true =>
    have hkey := key_ne_routingField hp
    have hkey' : p.unnamed.key ≠ routingField := by rwa [Predicate.key_unnamed]
    rw [condition, condition, if_neg hkey, if_neg hkey', Predicate.key_unnamed,
      Predicate.unnamed_of_isOnUsers hp]
    obtain ⟨field, op, operand⟩ := p
    cases op with
    | compare op =>
      cases operand with
      | single v => exact comparison_unnamed now hp op v
      | list vs => exact .error _
    | member op =>
      cases operand with
      | single v => exact .error _
      | list vs =>
        have hrefused := fun vs => membership_of_isOnUsers hp now op vs
        simp only [Operand.map, hrefused]
        exact .error _

theorem negatedCondition_ne (hop : p.op = .compare .ne) (ho : p.operand = .single v)
    (hkey : isExcludable p.key = true) : negatedCondition now p = comparison now p.key .eq v := by
  unfold negatedCondition
  rw [hop, ho]
  exact if_pos hkey

theorem negatedCondition_member {op : MemberOp} {vs : List Value} (hop : p.op = .member op)
    (ho : p.operand = .list vs) (hkey : p.key ≠ routingField) :
    negatedCondition now p = membership now p.key (opposite op) vs := by
  unfold negatedCondition
  rw [hop, ho]
  exact if_neg hkey

theorem negatedCondition_unnamed (now : Int) (p : Predicate) :
    Alike SameBlank (negatedCondition now p.unnamed) (negatedCondition now p) := by
  cases hp : p.isOnUsers with
  | false =>
    rw [Predicate.unnamed_of_not_isOnUsers hp]
    exact .refl SameBlank.refl _
  | true =>
    have hminus : ∀ s t : String, SameBlank ("-" ++ s) ("-" ++ t) := fun s t =>
      sameBlank_of_mem (c := '-') (by simp) (by decide) (d := '-') (by simp) (by decide)
    have hmap : Alike SameBlank ((condition now p.unnamed).map ("-" ++ ·))
        ((condition now p).map ("-" ++ ·)) :=
      (condition_unnamed now p).map fun s t _ => hminus s t
    have hexcludable : isExcludable p.key = true := by
      rcases key_of_isOnUsers hp with hkey | hkey | hkey | hkey <;> rw [hkey] <;> rfl
    have hrouting := key_ne_routingField hp
    have hop' := p.op_unnamed
    have ho' : p.unnamed.operand = p.operand.map Value.unnamed := by
      rw [Predicate.unnamed_of_isOnUsers hp]
    rw [← p.key_unnamed] at hexcludable hrouting
    cases hop : p.op with
    | compare op =>
      cases ho : p.operand with
      | list vs =>
        unfold negatedCondition
        rw [ho', hop', hop, ho]
        cases op <;> exact hmap
      | single v =>
        cases op with
        | ne =>
          rw [hop] at hop'
          rw [ho] at ho'
          rw [negatedCondition_ne hop' ho' hexcludable, p.key_unnamed,
            negatedCondition_ne hop ho (p.key_unnamed ▸ hexcludable)]
          exact comparison_unnamed now hp .eq v
        | eq | gt | ge | lt | le =>
          unfold negatedCondition
          rw [ho', hop', hop, ho]
          exact hmap
    | member op =>
      cases ho : p.operand with
      | single v =>
        unfold negatedCondition
        rw [ho', hop', hop, ho]
        exact hmap
      | list vs =>
        rw [hop] at hop'
        rw [ho] at ho'
        rw [negatedCondition_member hop' ho' hrouting, p.key_unnamed,
          negatedCondition_member hop ho (p.key_unnamed ▸ hrouting),
          membership_of_isOnUsers hp, membership_of_isOnUsers hp]
        exact .error _

/-! ### Blank search strings -/

theorem SameBlank.isEmpty_trim {s t : String} (h : SameBlank s t) :
    (trim s).isEmpty = (trim t).isEmpty := by
  rw [Bool.eq_iff_iff, String.isEmpty_iff, String.isEmpty_iff]
  exact h

theorem SameBlank.beside {s s' t t' : String} (hs : SameBlank s s') (ht : SameBlank t t') :
    SameBlank (Search.beside s t) (Search.beside s' t') := by
  rw [SameBlank, trim_beside, trim_beside, beside_eq_empty_iff, beside_eq_empty_iff]
  exact and_congr hs ht

/-- **Conditions on users** are rendered alike, whoever they name. By induction on the
expression. -/
theorem render_unnamed (now : Int) (e : Expr) :
    Alike SameBlank (render now e.unnamed) (render now e) := by
  induction e with
  | predicate p => exact condition_unnamed now p
  | unary negate inner ih =>
    cases negate with
    | false => exact ih
    | true =>
      cases inner with
      | predicate p => exact negatedCondition_unnamed now p
      | unary => exact .error _
      | binary => exact .error _
  | binary op left right ihl ihr =>
    cases op with
    | and => exact ihl.bind fun _ _ hs => ihr.bind fun _ _ ht => .ok (hs.beside ht)
    | or =>
      refine ihl.bind fun s s' hs => ihr.bind fun t t' ht => ?_
      simp only [hs.isEmpty_trim, ht.isEmpty_trim]
      split
      · exact .error _
      · exact .ok (sameBlank_of_mem (c := '(') (by simp) (by decide) (d := '(') (by simp)
          (by decide))

end Search

/-- **The search string of a filter** with a login for the current user, and without. -/
theorem SearchQuery.ofExpr_withUser (login : String) (now : Int) (e : Expr) :
    Alike (fun q q' => q.routing = q'.routing)
      (SearchQuery.ofExpr now (e.withUser login)) (SearchQuery.ofExpr now e) := by
  refine (prepare_withUser login e).bind ?_
  rintro ⟨rest, routing⟩ ⟨rest', routing'⟩ ⟨hrest, rfl⟩
  cases rest with
  | none =>
    cases rest' with
    | none => exact .ok rfl
    | some e' => exact absurd hrest nofun
  | some e =>
    cases rest' with
    | none => exact absurd hrest nofun
    | some e' =>
      have hsame : e.unnamed = e'.unnamed := Option.some.inj hrest
      have hlogin := Search.render_unnamed now e
      rw [hsame] at hlogin
      exact (hlogin.symm.trans (Search.render_unnamed now e') fun _ _ _ _ _ => trivial).bind
        fun _ _ (_ : True) => .ok rfl

/-! ## Result -/

/-- **The queries of a filter do not depend on its user.** For two logins, and for none, both
translations fail with the same error or give queries with the same routing, and the listings ask
for the same project and differ in parameters for users at most. -/
theorem queries_alike_withUser (e : Expr) (login login' : String) (now : Int) :
    Alike (fun q q' => q.routing = q'.routing)
        (SearchQuery.ofExpr now (e.withUser login)) (SearchQuery.ofExpr now (e.withUser login')) ∧
      Alike (fun q q' => q.routing = q'.routing)
        (SearchQuery.ofExpr now (e.withUser login)) (SearchQuery.ofExpr now e) ∧
      Alike (fun q q' => q.listing.SameButUsers q'.listing ∧ q.routing = q'.routing)
        (ListingQuery.ofExpr now (e.withUser login)) (ListingQuery.ofExpr now (e.withUser login')) ∧
      Alike (fun q q' => q.listing.SameButUsers q'.listing ∧ q.routing = q'.routing)
        (ListingQuery.ofExpr now (e.withUser login)) (ListingQuery.ofExpr now e) := by
  have hsearch := SearchQuery.ofExpr_withUser login now e
  have hsearch' := SearchQuery.ofExpr_withUser login' now e
  have hlisting := ListingQuery.ofExpr_withUser login now e
  have hlisting' := ListingQuery.ofExpr_withUser login' now e
  refine ⟨hsearch.trans hsearch'.symm fun _ _ _ h h' => h.trans h'.symm, hsearch, ?_, hlisting⟩
  exact hlisting.trans hlisting'.symm fun _ _ _ h h' => ⟨h.1.trans h'.1.symm, h.2.trans h'.2.symm⟩

end ForgeBoard.Query
