import ForgeBoard.Proofs.Filter.Placeholders
import ForgeBoard.Proofs.Query.Listing.Kept

/-!
# The users that a listing names

Three fields ask for the items of a user, each by a parameter of its own. Of the conditions on such
a field the last one counts (`get?_takeAll`), and where it had a placeholder the parameter holds the
login that was put there, as the normal form has it.

The normal form is the same login, with one exception: a login that is the word `me` is taken for
the short name of the current user once more, and is written out. So its listing asks for the user
`@me`, which is nobody's login (`ofExpr_withUser_shortMe`).

Result: `users_ofExpr`.
-/

namespace ForgeBoard.Query.Listing

open ForgeBoard.Filter

/-- The fields that hold the user of a listing, with their parameters. -/
def userParameters : List (String × String) :=
  [("author", "author_username"), ("assignee", "assignee_username"),
    ("review_requested", "reviewer_username")]

variable {now : Int} {p : Predicate} {ps : List Predicate} {ds : List Demand}
  {dss : List (List Demand)} {field name login : String}

/-! ## One condition -/

/-- Among the fields with a parameter for a text, a field and its parameter determine each other. -/
theorem textParameter_eq_iff {other param : String} (hname : (field, name) ∈ userParameters)
    (hother : (other, param) ∈ textParameters) : param = name ↔ other = field := by
  have hpairs : ∀ x ∈ userParameters, ∀ y ∈ textParameters, y.2 = x.2 ↔ y.1 = x.1 := by decide
  exact hpairs _ hname _ hother

theorem ne_userField (hname : (field, name) ∈ userParameters) {other : String}
    (hother : other ∈ ["label", "draft", "project", "type"] ++ dayFields) : other ≠ field := by
  have hpairs : ∀ x ∈ userParameters, ∀ other ∈ ["label", "draft", "project", "type"] ++ dayFields,
      other ≠ x.1 := by decide
  exact hpairs _ hname _ hother

/-- The parameters of a day are not those of a user. -/
theorem dayParameter_ne (hname : (field, name) ∈ userParameters) {other : String}
    (hother : other ∈ dayFields) : other ++ "_after" ≠ name ∧ other ++ "_before" ≠ name := by
  have hpairs : ∀ x ∈ userParameters, ∀ other ∈ dayFields,
      other ++ "_after" ≠ x.2 ∧ other ++ "_before" ≠ x.2 := by decide
  exact hpairs _ hname _ hother

/-- The parameters of labels and drafts are not those of a user. -/
theorem flagParameter_ne (hname : (field, name) ∈ userParameters) :
    "labels" ≠ name ∧ "wip" ≠ name := by
  have hpairs : ∀ x ∈ userParameters, "labels" ≠ x.2 ∧ "wip" ≠ x.2 := by decide
  exact hpairs _ hname

theorem texts_of_single {s : String} (h : p.operand = .single (.text s)) : p.texts = [s] := by
  rw [Predicate.texts, Predicate.values, h]
  rfl

/-- A condition on such a field compares it with one text. -/
theorem Asks.text_of_userField (h : Asks now p ds) (hname : (p.key, name) ∈ userParameters) :
    ∃ s, p.operand = .single (.text s) := by
  cases h with
  | text _ h => exact ⟨_, h.2⟩
  | labels hfield | draft hfield | project hfield | anyProject hfield | type hfield =>
    exact absurd rfl (ne_userField hname (by rw [hfield]; decide))
  | after hfield | before hfield | onDay hfield =>
    exact absurd rfl (ne_userField hname (List.mem_append_right _ hfield))

/-- **What a condition gives to a parameter for users** are the texts of a condition on its field.
-/
theorem Asks.userValues (h : Asks now p ds) (hname : (field, name) ∈ userParameters) :
    ds.filterMap (·.valueOf name) = if p.key = field then p.texts else [] := by
  cases h with
  | @text param s hfield h =>
    have hparam : param = name ↔ p.key = field := textParameter_eq_iff hname hfield
    rw [texts_of_single h.2]
    by_cases hkey : p.key = field
    · simp [Demand.valueOf, hkey, hparam.mpr hkey]
    · simp [Demand.valueOf, hkey, mt hparam.mp hkey]
  | labels hfield | draft hfield =>
    rw [if_neg (ne_userField hname (by rw [hfield]; decide))]
    simp [Demand.valueOf, flagParameter_ne hname]
  | project hfield | anyProject hfield | type hfield =>
    rw [if_neg (ne_userField hname (by rw [hfield]; decide))]
    rfl
  | after hfield | before hfield | onDay hfield =>
    rw [if_neg (ne_userField hname (List.mem_append_right _ hfield))]
    simp [Demand.valueOf, dayParameter_ne hname hfield]

/-! ## Conditions one after the other -/

theorem userValues_of_asks (h : List.Forall₂ (Asks now) ps dss)
    (hname : (field, name) ∈ userParameters) :
    dss.flatten.filterMap (·.valueOf name) =
      (ps.filter (·.key == field)).flatMap Predicate.texts := by
  induction h with
  | nil => rfl
  | @cons p ds ps dss hasks _ ih =>
    rw [List.flatten_cons, List.filterMap_append, hasks.userValues hname, ih, List.filter_cons]
    by_cases hkey : p.key = field
    · simp [hkey]
    · simp [hkey]

theorem exists_asks_of_mem (h : List.Forall₂ (Asks now) ps dss) (hp : p ∈ ps) :
    ∃ ds, Asks now p ds := by
  induction h with
  | nil => exact absurd hp List.not_mem_nil
  | cons hasks _ ih =>
    rcases List.mem_cons.mp hp with rfl | hp
    · exact ⟨_, hasks⟩
    · exact ih hp

/-- **The last condition on a field counts**: the parameter holds its text. -/
theorem get?_takeAll {l : Listing} (h : unrestricted.takeAll now ps = .ok l)
    (hname : (field, name) ∈ userParameters)
    (hlast : (ps.filter (·.key == field)).getLast? = some p) :
    ∃ s, p.operand = .single (.text s) ∧ l.params.get? name = some s := by
  obtain ⟨dss, hall, -, rfl⟩ := takeAll_eq_ok_iff.mp h
  obtain ⟨hmem, hkey⟩ := List.mem_filter.mp (List.mem_of_getLast? hlast)
  obtain ⟨ds, hasks⟩ := exists_asks_of_mem hall hmem
  obtain ⟨s, hs⟩ := hasks.text_of_userField (by rwa [eq_of_beq hkey])
  obtain ⟨before, hbefore⟩ := List.getLast?_eq_some_iff.mp hlast
  refine ⟨s, hs, ?_⟩
  rw [get?_foldl_meet, userValues_of_asks hall hname, hbefore, List.flatMap_append]
  simp [texts_of_single hs]

/-! ## Whole filters -/

theorem conditionsOf_pruned (e : Expr) :
    conditionsOf e.pruned = e.predicates.filter (!·.isRouting) := by
  cases hrest : e.pruned with
  | some rest => exact Expr.predicates_pruned rest hrest
  | none => simpa [conditionsOf] using Expr.pruned_eq_none_iff.mp hrest

/-- The conditions on a field for users that a listing is made of are those of the filter, with the
login put in and normalized. -/
theorem filter_conditionsOf_withUser (hname : (field, name) ∈ userParameters) (login : String)
    (e : Expr) :
    (conditionsOf (e.withUser login).normalize.pruned).filter (·.key == field) =
      (e.predicates.filter (·.key == field)).map
        (Predicate.normalize ∘ Predicate.withUser login) := by
  have hrouting : routingField ≠ field := by
    have hfields : ∀ x ∈ userParameters, routingField ≠ x.1 := by decide
    exact hfields _ hname
  have htest : (fun p : Predicate => p.key == field && !p.isRouting) ∘
      (Predicate.normalize ∘ Predicate.withUser login) = (·.key == field) := by
    funext p
    simp only [Function.comp_apply, Predicate.isRouting, Predicate.key_normalize,
      Predicate.key_withUser]
    by_cases hkey : p.key = field
    · simp [hkey, hrouting.symm]
    · simp [hkey]
  rw [conditionsOf_pruned, List.filter_filter, Expr.normalize, Expr.withUser, Expr.predicates_map,
    Expr.predicates_map, List.map_map, List.filter_map, htest]

/-- What a placeholder becomes: the login, except that the word `me` is written out. -/
theorem normalize_withUser_of_isMe {v : Value} (h : v.isMe = true) :
    (v.withUser login).normalize = .text (if login = shortMe then me else login) := by
  rw [Value.withUser_of_isMe h, Value.normalize]
  split <;> rfl

/-- **The users of a listing.** Where the last condition on the field of a user has a placeholder,
the parameter for the user holds the login that was put there, unless the login is the word `me`,
which is written out as `@me`. -/
theorem users_ofExpr {e : Expr} {q : ListingQuery}
    (h : ListingQuery.ofExpr now (e.withUser login) = .ok q)
    (hname : (field, name) ∈ userParameters)
    (hlast : (e.predicates.filter (·.key == field)).getLast? = some p)
    (hme : ∃ v ∈ p.values, p.HasPlaceholder v) :
    q.listing.params.get? name = some (if login = shortMe then me else login) := by
  obtain ⟨remaining, hroute, -, htake⟩ := ofExpr_eq_ok_iff.mp h
  obtain ⟨-, rfl, -⟩ := Expr.route_eq_ok.mp hroute
  have hlast' : ((conditionsOf (e.withUser login).normalize.pruned).filter
      (·.key == field)).getLast? = some (p.withUser login).normalize := by
    rw [filter_conditionsOf_withUser hname, List.getLast?_map, hlast]
    rfl
  obtain ⟨s, hs, hvalue⟩ := get?_takeAll htake hname hlast'
  rw [Predicate.normalize_withUser_of_needsUser (Predicate.needsUser_iff.mpr hme)] at hs
  obtain ⟨v, hv, hlogin⟩ := Operand.map_eq_single_iff.mp hs
  have hisMe : v.isMe = true := by
    obtain ⟨w, hw, hplaceholder⟩ := hme
    rw [Predicate.values, hv] at hw
    obtain rfl := List.mem_singleton.mp hw
    exact (Predicate.hasPlaceholder_iff.mp hplaceholder).2
  rw [Function.comp_apply, normalize_withUser_of_isMe hisMe] at hlogin
  rw [hvalue, Value.text.inj hlogin]

/-- A named author, and the current user after it. -/
def twoAuthors : Expr :=
  .binary .and
    (.predicate (.compare "author" .eq (.text "bob")))
    (.predicate (.compare "Author" .eq (.text "@Me")))

theorem users_ofExpr_twoAuthors :
    ∃ q, ListingQuery.ofExpr 0 (twoAuthors.withUser "carol") = .ok q ∧
      q.listing.params.get? "author_username" =
        some (if "carol" = shortMe then me else "carol") := by
  have h : ListingQuery.ofExpr 0 (twoAuthors.withUser "carol") =
      .ok ⟨⟨none, [("author_username", "carol")]⟩, .everywhere⟩ := by
    decide
  have hlast : (twoAuthors.predicates.filter (·.key == "author")).getLast? =
      some (.compare "Author" .eq (.text "@Me")) := by
    decide
  have hme : (Predicate.compare "Author" .eq (.text "@Me")).HasPlaceholder (.text "@Me") :=
    ⟨by decide, "@Me", rfl, .inr (by decide)⟩
  exact ⟨_, h, users_ofExpr h (by decide) hlast ⟨.text "@Me", List.mem_cons_self, hme⟩⟩

/-- A login that is the word `me` does not reach the listing as it is. -/
theorem ofExpr_withUser_shortMe :
    ListingQuery.ofExpr 0 ((Expr.predicate (.compare "author" .eq (.text "@me"))).withUser "me") =
      .ok ⟨⟨none, [("author_username", "@me")]⟩, .everywhere⟩ := by
  decide

end ForgeBoard.Query.Listing
