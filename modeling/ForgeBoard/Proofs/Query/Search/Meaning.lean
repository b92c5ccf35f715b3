import ForgeBoard.Proofs.Filter.Normal
import ForgeBoard.Proofs.Query.Operand
import ForgeBoard.Proofs.Query.Search.Value

/-!
# Search strings mean what the filter means

What is rendered is read back with the value of the filter, by induction on the tree.

* `comparison_cases`: a comparison gives its term, or the excluded term for `!=`.
* `says_membership`: a list gives alternatives, or exclusions side by side.
* `says_condition`, `says_negatedCondition`: a negation stands in front of a term only. A list
  under it turns into the opposite membership, and `!=` into `=`.
* `says_render`: the parts of a tree say their values, so trimming leaves them as they are and none
  is dropped.

Result: `meaning_ofExpr`.
-/

namespace ForgeBoard.Query.Search

open ForgeBoard.Filter Text

/-! ## Comparisons -/

/-- The text `s` is the term as for `=`, or excludes it for `!=`. -/
def Compares (field : String) (op : CompareOp) (v : Value) (s : String) : Prop :=
  ∃ t, term? field v = some t ∧
    ((op = .eq ∧ s = t) ∨ (op = .ne ∧ isExcludable field = true ∧ s = "-" ++ t))

theorem compares_of_qualified {qualifier field value s : String} {op : CompareOp} {v : Value}
    (hx : isExcludable field = true) (ht : term? field v = some (qualifier ++ ":" ++ value))
    (h : qualified qualifier field op value = .ok s) : Compares field op v s := by
  refine ⟨_, ht, ?_⟩
  unfold qualified at h
  split at h
  · exact .inl ⟨rfl, (Except.ok.inj h).symm⟩
  · refine .inr ⟨rfl, hx, ?_⟩
    rw [← Except.ok.inj h]
    simp only [String.append_assoc]
  · exact absurd h nofun

theorem compares_of_eq {field s t : String} {op : CompareOp} {v : Value} {e : QueryError}
    (ht : term? field v = some t)
    (h : (if op = .eq then pure t else throw e : Except QueryError String) = .ok s) :
    Compares field op v s := by
  split at h
  · next hop => exact ⟨t, ht, .inl ⟨hop, (Except.ok.inj h).symm⟩⟩
  · exact absurd h nofun

theorem qualifier?_of_isDay {field : String} (h : isDay field = true) :
    qualifier? field = none := by
  simp only [isDay, Bool.or_eq_true, beq_iff_eq] at h
  rcases h with rfl | rfl <;> rfl

theorem not_isDay_of_qualifier? {field qualifier : String} (h : qualifier? field = some qualifier) :
    isDay field = false := by
  by_contra hday
  rw [qualifier?_of_isDay (by simpa using hday)] at h
  exact absurd h nofun

theorem not_isDay_of_isFlag {field : String} (h : isFlag field = true) : isDay field = false := by
  simp only [isFlag, Bool.or_eq_true, beq_iff_eq] at h
  rcases h with rfl | rfl <;> rfl

/-- What a comparison gives: the term of the day on a field that holds days, else the term as for
`=`, excluded for `!=` on the fields that have an excluding term. -/
theorem comparison_cases {now : Int} {field s : String} {op : CompareOp} {v : Value}
    (h : comparison now field op v = .ok s) :
    (isDay field = true ∧ dayTerm? now field op v = some s) ∨
      (isDay field = false ∧ Compares field op v s) := by
  unfold comparison at h
  split at h
  · next qualifier hq =>
    obtain ⟨text, ht, h⟩ := bind_eq_ok_iff.mp h
    refine .inr ⟨not_isDay_of_qualifier? hq, compares_of_qualified ?_ ?_ h⟩
    · simp [isExcludable, hq]
    · simp only [term?, hq, textOf_eq_ok_iff.mp ht, Option.map_some]
  next hq =>
  split at h
  · next hflag =>
    obtain ⟨b, hb, h⟩ := bind_eq_ok_iff.mp h
    refine .inr ⟨not_isDay_of_isFlag hflag, compares_of_qualified ?_ ?_ h⟩
    · simp [isExcludable, hflag]
    · simp only [term?, hq, if_pos hflag, hb, Except.toOption, Option.map_some]
  next hflag =>
  split at h
  · next hday =>
    obtain ⟨day, hd, h⟩ := bind_eq_ok_iff.mp h
    obtain rfl := Except.ok.inj h
    refine .inl ⟨hday, ?_⟩
    simp only [dayTerm?, hd, Except.toOption, Option.map_some]
  next hday =>
  split at h
  · next htype =>
    obtain ⟨text, ht, h⟩ := bind_eq_ok_iff.mp h
    refine .inr ⟨by simpa using hday, compares_of_eq ?_ h⟩
    simp only [term?, hq, if_neg hflag, if_pos htype, textOf_eq_ok_iff.mp ht, Option.map_some]
  next htype =>
  split at h
  · next htext =>
    obtain ⟨text, ht, h⟩ := bind_eq_ok_iff.mp h
    refine .inr ⟨by simpa using hday, compares_of_eq ?_ h⟩
    simp only [term?, hq, if_neg hflag, if_neg htype, if_pos htext, textOf_eq_ok_iff.mp ht,
      Option.map_some]
  · exact absurd h nofun

variable {V : String → Bool} {now : Int} {field s : String} {op : CompareOp} {v : Value}

/-- What a comparison gives says its value, and behind a minus sign the opposite, unless there is a
minus sign already. -/
theorem says_comparison (hv : ∀ s ∈ v.text?, IsItem s) (hor : field = "text" → v ≠ .text "OR")
    (h : comparison now field op v = .ok s) :
    ∃ b, comparisonHolds? V now field op v = some b ∧ Says V s b ∧
      (¬ (op = .ne ∧ isExcludable field = true) → Says V ("-" ++ s) (!b)) := by
  unfold comparisonHolds?
  rcases comparison_cases h with ⟨hday, hs⟩ | ⟨hday, t, ht, ⟨rfl, rfl⟩ | ⟨rfl, hx, rfl⟩⟩
  · have hterm := isTerm_of_dayTerm? hday hs
    rw [if_pos hday, hs]
    exact ⟨V s, rfl, says_term hterm, fun _ => says_excluded hterm⟩
  · have hterm := isTerm_of_term? hv hor ht
    rw [if_neg (by simp [hday]), ht]
    exact ⟨V s, rfl, says_term hterm, fun _ => says_excluded hterm⟩
  · have hterm := isTerm_of_term? hv hor ht
    rw [if_neg (by simp [hday]), ht]
    dsimp only
    rw [if_pos hx]
    exact ⟨!V t, rfl, says_excluded hterm, fun hn => absurd ⟨rfl, hx⟩ hn⟩

/-- On the fields with an excluding term, `=` has the value opposite to `!=`. -/
theorem comparisonHolds?_ne (hx : isExcludable field = true) (hday : isDay field = false)
    {b : Bool} (h : comparisonHolds? V now field .eq v = some b) :
    comparisonHolds? V now field .ne v = some (!b) := by
  unfold comparisonHolds? at h ⊢
  rw [if_neg (by simp [hday])] at h ⊢
  obtain ⟨t, ht, rfl⟩ := Option.map_eq_some_iff.mp h
  dsimp only
  rw [if_pos hx, ht]
  rfl

/-! ## Memberships -/

theorem memberTerms_eq_ok {vs : List Value} {ts : List String} (hday : isDay field = false)
    (htext : field ≠ "text") (hvs : ∀ v ∈ vs, ∀ s ∈ v.text?, IsItem s)
    (h : memberTerms now field vs = .ok ts) :
    vs.mapM (term? field) = some ts ∧ ∀ t ∈ ts, IsTerm t := by
  induction vs generalizing ts with
  | nil =>
    obtain rfl := Except.ok.inj h
    exact ⟨rfl, nofun⟩
  | cons v vs ih =>
    obtain ⟨hv, hrest⟩ := List.forall_mem_cons.mp hvs
    unfold memberTerms at h
    obtain ⟨t, ht, h⟩ := bind_eq_ok_iff.mp h
    obtain ⟨us, hus, h⟩ := bind_eq_ok_iff.mp h
    obtain rfl := Except.ok.inj h
    obtain ⟨hmap, hterms⟩ := ih hrest hus
    rcases comparison_cases ht with ⟨hd, -⟩ | ⟨-, t', ht', ⟨-, rfl⟩ | ⟨hop, -⟩⟩
    · rw [hday] at hd
      exact absurd hd nofun
    · refine ⟨?_, List.forall_mem_cons.mpr ⟨?_, hterms⟩⟩
      · rw [List.mapM_cons, ht', hmap]
        rfl
      · exact isTerm_of_term? hv (fun hf => absurd hf htext) ht'
    · exact absurd hop nofun

theorem excluded_of_head {t : String} (h : t.toList.head? ≠ some '-') :
    excluded t = "-" ++ t := by
  have hhead : ∀ c ∈ t.toList.head?, (c == '-') = false := by
    intro c hc
    exact beq_false_of_ne fun he => h (he ▸ hc)
  rw [excluded, dropWhile_of_head hhead]
  exact String.toList_inj.mp (by simp)

theorem facts_of_isListable {field : String} (h : isListable field = true) :
    isDay field = false ∧ field ≠ "text" := by
  simp only [isListable, Bool.or_eq_true, beq_iff_eq] at h
  rcases h with (rfl | rfl) | rfl <;> decide

/-- What a membership gives says its value. -/
theorem says_membership {op : MemberOp} {vs : List Value}
    (hvs : ∀ v ∈ vs, ∀ s ∈ v.text?, IsItem s) (h : membership now field op vs = .ok s) :
    ∃ ts, vs.mapM (term? field) = some ts ∧ Says V s (membershipHolds V ts op) := by
  unfold membership at h
  dsimp only at h
  split at h
  · exact absurd h nofun
  next hlist =>
  split at h
  · exact absurd h nofun
  next hempty =>
  obtain ⟨ts, hts, h⟩ := bind_eq_ok_iff.mp h
  obtain ⟨hday, htext⟩ := facts_of_isListable (by simpa using hlist)
  obtain ⟨hmap, hterms⟩ := memberTerms_eq_ok hday htext hvs hts
  have hne : ts ≠ [] := by
    rintro rfl
    cases vs with
    | nil => exact hempty rfl
    | cons v vs =>
      obtain ⟨t, -, hts⟩ := bind_eq_ok_iff.mp hts
      obtain ⟨us, -, hts⟩ := bind_eq_ok_iff.mp hts
      exact absurd (Except.ok.inj hts) nofun
  refine ⟨ts, hmap, ?_⟩
  cases op with
  | within =>
    obtain rfl := Except.ok.inj h
    have hoffers : Offers V (String.intercalate " OR " (ts.map id)) (ts.any V) :=
      offers_intercalate hne fun t ht => says_term (hterms t ht)
    rw [List.map_id] at hoffers
    exact hoffers.group
  | notWithin =>
    obtain rfl := Except.ok.inj h
    refine says_intercalate hne fun t ht => ?_
    rw [excluded_of_head (hterms t ht).head]
    exact says_excluded (hterms t ht)

/-- The opposite membership has the opposite value. -/
theorem membershipHolds_opposite (ts : List String) (op : MemberOp) :
    membershipHolds V ts (opposite op) = !membershipHolds V ts op := by
  cases op with
  | within => simp [membershipHolds, opposite, List.not_any_eq_all_not]
  | notWithin => simp [membershipHolds, opposite, List.not_all_eq_any_not]

/-! ## Conditions -/

theorem values_single {p : Predicate} (h : p.operand = .single v) : v ∈ p.values := by
  rw [Predicate.values, h]
  exact List.mem_singleton_self v

theorem values_list {p : Predicate} {vs : List Value} (h : p.operand = .list vs) :
    p.values = vs := by
  rw [Predicate.values, h]
  rfl

theorem conditionHolds?_compare {p : Predicate} (hop : p.op = .compare op)
    (ho : p.operand = .single v) :
    conditionHolds? V now p = comparisonHolds? V now p.key op v := by
  rw [conditionHolds?, hop, ho]

theorem conditionHolds?_member {p : Predicate} {op : MemberOp} {vs : List Value}
    (hop : p.op = .member op) (ho : p.operand = .list vs) :
    conditionHolds? V now p = (vs.mapM (term? p.key)).map (membershipHolds V · op) := by
  rw [conditionHolds?, hop, ho]

/-- What a condition gives says its value. -/
theorem says_condition {p : Predicate} (hp : Searchable p) (h : condition now p = .ok s) :
    ∃ b, conditionHolds? V now p = some b ∧ Says V s b := by
  unfold condition at h
  split at h
  · exact absurd h nofun
  split at h
  · next op v hop ho =>
    have hv := values_single ho
    obtain ⟨b, hb, hs, -⟩ := says_comparison (hp.items v hv)
      (fun hkey he => hp.ne_or hkey (he ▸ hv)) h
    exact ⟨b, (conditionHolds?_compare hop ho).trans hb, hs⟩
  · next op vs hop ho =>
    obtain ⟨ts, hts, hs⟩ := says_membership (values_list ho ▸ hp.items) h
    refine ⟨membershipHolds V ts op, ?_, hs⟩
    rw [conditionHolds?_member hop ho, hts, Option.map_some]
  · exact absurd h nofun

theorem not_isDay_of_isExcludable (h : isExcludable field = true) : isDay field = false := by
  rw [isExcludable, Bool.or_eq_true] at h
  rcases h with h | h
  · obtain ⟨qualifier, hq⟩ := Option.isSome_iff_exists.mp h
    exact not_isDay_of_qualifier? hq
  · exact not_isDay_of_isFlag h

/-- Behind a minus sign a comparison says the opposite of its value, unless it has a minus sign of
its own. -/
theorem says_excludedCondition {p : Predicate} (hp : Searchable p)
    (hlist : ∀ op vs, p.op = .member op → p.operand = .list vs → False)
    (hne : ∀ v, p.op = .compare .ne → p.operand = .single v → isExcludable p.key = false)
    (h : condition now p = .ok s) :
    ∃ b, conditionHolds? V now p = some b ∧ Says V ("-" ++ s) (!b) := by
  unfold condition at h
  split at h
  · exact absurd h nofun
  split at h
  · next op v hop ho =>
    have hv := values_single ho
    obtain ⟨b, hb, -, hs⟩ := says_comparison (hp.items v hv)
      (fun hkey he => hp.ne_or hkey (he ▸ hv)) h
    refine ⟨b, (conditionHolds?_compare hop ho).trans hb, hs ?_⟩
    rintro ⟨rfl, hx⟩
    rw [hne v hop ho] at hx
    exact absurd hx nofun
  · next op vs hop ho => exact (hlist op vs hop ho).elim
  · exact absurd h nofun

/-- What a negated condition gives says the opposite of its value. -/
theorem says_negatedCondition {p : Predicate} (hp : Searchable p)
    (h : negatedCondition now p = .ok s) :
    ∃ b, conditionHolds? V now p = some b ∧ Says V s (!b) := by
  unfold negatedCondition at h
  split at h
  · next op vs hop ho =>
    split at h
    · exact absurd h nofun
    obtain ⟨ts, hts, hs⟩ := says_membership (values_list ho ▸ hp.items) h
    refine ⟨membershipHolds V ts op, ?_, membershipHolds_opposite ts op ▸ hs⟩
    rw [conditionHolds?_member hop ho, hts, Option.map_some]
  · next v hop ho =>
    split at h
    · next hx =>
      have hv := values_single ho
      obtain ⟨b, hb, hs, -⟩ := says_comparison (hp.items v hv)
        (fun hkey he => hp.ne_or hkey (he ▸ hv)) h
      refine ⟨!b, ?_, by rwa [Bool.not_not]⟩
      rw [conditionHolds?_compare hop ho]
      exact comparisonHolds?_ne hx (not_isDay_of_isExcludable hx) hb
    · next hx =>
      obtain ⟨t, ht, rfl⟩ := map_eq_ok_iff.mp h
      refine says_excludedCondition hp (fun op vs hm => ?_) (fun _ _ _ => by simpa using hx) ht
      rw [hop] at hm
      exact absurd hm nofun
  · next hlist hne =>
    obtain ⟨t, ht, rfl⟩ := map_eq_ok_iff.mp h
    exact says_excludedCondition hp hlist (fun v hop ho => (hne v hop ho).elim) ht

/-! ## Trees -/

/-- **What is rendered says the value of the tree.** -/
theorem says_render {e : Expr} (he : ∀ p ∈ e.predicates, Searchable p)
    (h : render now e = .ok s) : ∃ b, holds? V now e = some b ∧ Says V s b := by
  induction e generalizing s with
  | predicate p => exact says_condition (he p List.mem_cons_self) h
  | unary negate inner ih =>
    cases negate with
    | false =>
      obtain ⟨b, hb, hs⟩ := ih he h
      exact ⟨b, by simp [holds?, hb], hs⟩
    | true =>
      cases inner with
      | predicate p =>
        obtain ⟨b, hb, hs⟩ := says_negatedCondition (he p List.mem_cons_self) h
        exact ⟨!b, by simp [holds?, hb], hs⟩
      | unary | binary => exact absurd h nofun
  | binary op l r ihl ihr =>
    have hl : ∀ p ∈ l.predicates, Searchable p := fun p hp => he p (List.mem_append_left _ hp)
    have hr : ∀ p ∈ r.predicates, Searchable p := fun p hp => he p (List.mem_append_right _ hp)
    cases op with
    | and =>
      obtain ⟨x, hx, h⟩ := bind_eq_ok_iff.mp h
      obtain ⟨y, hy, h⟩ := bind_eq_ok_iff.mp h
      obtain ⟨a, ha, hsx⟩ := ihl hl hx
      obtain ⟨b, hb, hsy⟩ := ihr hr hy
      refine ⟨a && b, by simp [holds?, ha, hb], ?_⟩
      -- neither side is empty or has blanks at its ends, so trimming and dropping do nothing
      have hparts :
          String.intercalate " " ([trim x, trim y].filter (!·.isEmpty)) = x ++ " " ++ y := by
        rw [trim_of_tight hsx.tight, trim_of_tight hsy.tight]
        simp [hsx.tight.ne_empty, hsy.tight.ne_empty]
      rw [← Except.ok.inj h, hparts]
      exact hsx.beside hsy
    | or =>
      obtain ⟨x, hx, h⟩ := bind_eq_ok_iff.mp h
      obtain ⟨y, hy, h⟩ := bind_eq_ok_iff.mp h
      obtain ⟨a, ha, hsx⟩ := ihl hl hx
      obtain ⟨b, hb, hsy⟩ := ihr hr hy
      refine ⟨a || b, by simp [holds?, ha, hb], ?_⟩
      rw [trim_of_tight hsx.tight, trim_of_tight hsy.tight] at h
      dsimp only at h
      split at h
      · exact absurd h nofun
      have htext : "(" ++ x ++ " OR " ++ y ++ ")" = "(" ++ (x ++ " OR " ++ y) ++ ")" := by
        simp only [String.append_assoc]
      rw [← Except.ok.inj h, htext]
      exact (hsx.offers.or hsy.offers).group

/-! ## Filters -/

theorem isItem_me : IsItem me := by
  decide

theorem normalize_text (t : String) :
    (Value.text t).normalize = if t = shortMe then .text me else .text t :=
  rfl

theorem isItem_normalize {v : Value} (h : ∀ s ∈ v.text?, IsItem s) :
    ∀ s ∈ v.normalize.text?, IsItem s := by
  cases v with
  | text t =>
    intro s hs
    rw [normalize_text] at hs
    split at hs
    · obtain rfl := Option.some.inj hs
      exact isItem_me
    · exact h s hs
  | bool | number | date | span | call => exact nofun

theorem normalize_eq_or {v : Value} (h : v.normalize = .text "OR") : v = .text "OR" := by
  cases v with
  | text t =>
    rw [normalize_text] at h
    split at h
    · exact absurd (Value.text.inj h) (by decide)
    · exact h
  | bool | number | date | span | call => exact h

/-- The normal form of a searchable condition is searchable. -/
theorem searchable_normalize {p : Predicate} (h : Searchable p) : Searchable p.normalize := by
  obtain ⟨f, -, hnormal⟩ | hnormal := p.normalize_cases
  · rw [hnormal]
    refine ⟨fun v hv s hs => ?_, fun _ hor => ?_⟩
    · obtain rfl := List.mem_singleton.mp hv
      exact absurd hs nofun
    · exact absurd (List.mem_singleton.mp hor) nofun
  · rw [hnormal]
    refine ⟨fun v hv => ?_, fun hkey hor => ?_⟩
    · rw [Predicate.values, Operand.values_map] at hv
      obtain ⟨u, hu, rfl⟩ := List.mem_map.mp hv
      exact isItem_normalize (h.items u hu)
    · rw [Predicate.values, Operand.values_map] at hor
      obtain ⟨u, hu, hnormal⟩ := List.mem_map.mp hor
      exact h.ne_or hkey (normalize_eq_or hnormal ▸ hu)

/-- **The search string of a filter means what the filter means**: read back under any truth
assignment to terms, it has the value of what is left of the filter in normal form without its
routing conditions. -/
theorem meaning_ofExpr {V : String → Bool} {now : Int} {e : Expr} {q : SearchQuery}
    (he : ∀ p ∈ e.predicates, Searchable p) (h : SearchQuery.ofExpr now e = .ok q) :
    ∃ remaining b, e.normalize.route = .ok (remaining, q.routing) ∧
      remaining.elim (some true) (holds? V now) = some b ∧ meaning? V q.query = some b := by
  obtain ⟨⟨remaining, routing⟩, hprepare, h⟩ := bind_eq_ok_iff.mp h
  have hroute : e.normalize.route = .ok (remaining, routing) := by
    unfold prepare at hprepare
    split at hprepare
    · next r hr => rw [hr, Except.ok.inj hprepare]
    · exact absurd hprepare nofun
  cases remaining with
  | none =>
    obtain rfl := Except.ok.inj h
    exact ⟨none, true, hroute, rfl, meaning_empty⟩
  | some rest =>
    obtain ⟨s, hs, h⟩ := bind_eq_ok_iff.mp h
    obtain rfl := Except.ok.inj h
    have hrest : ∀ p ∈ rest.predicates, Searchable p := by
      intro p hp
      obtain ⟨-, hpruned, -⟩ := Expr.route_eq_ok.mp hroute
      rw [Expr.predicates_pruned rest hpruned.symm, Expr.normalize, Expr.predicates_map] at hp
      obtain ⟨u, hu, rfl⟩ := List.mem_map.mp (List.mem_filter.mp hp).1
      exact searchable_normalize (he u hu)
    obtain ⟨b, hb, hsays⟩ := says_render (V := V) hrest hs
    exact ⟨some rest, b, hroute, hb, hsays.meaning_eq⟩

/-- Alternatives of a list and of negations, a negated `!=`, a negated comparison of a day, and a
routing condition. -/
def mixedFilter : Expr :=
  .binary .and
    (.binary .and
      (.predicate (.compare "provider" .eq (.text "github")))
      (.binary .or
        (.predicate (.member "label" .within [.text "bug", .text "p1"]))
        (.binary .and
          (.unary true (.predicate (.compare "text" .eq (.text "-wip"))))
          (.unary true (.predicate (.member "State" .within [.text "closed"]))))))
    (.binary .and
      (.unary true (.predicate (.compare "author" .ne (.text "me"))))
      (.unary true (.predicate (.compare "updated" .lt (.date ⟨2024, 2, 29, by decide⟩)))))

/-- The search string of `mixedFilter`. -/
def mixedQuery : SearchQuery where
  query := "((label:bug OR label:p1) OR -\"-wip\" -is:closed) author:@me -updated:<2024-02-29"
  routing := ⟨["github"], []⟩

theorem meaning_mixedFilter :
    (∀ p ∈ mixedFilter.predicates, Searchable p) ∧
    SearchQuery.ofExpr 0 mixedFilter = .ok mixedQuery ∧
    ∃ remaining b, mixedFilter.normalize.route = .ok (remaining, mixedQuery.routing) ∧
      remaining.elim (some true) (holds? (· == "author:@me") 0) = some b ∧
      meaning? (· == "author:@me") mixedQuery.query = some b :=
  ⟨by decide, by decide, meaning_ofExpr (by decide) (by decide)⟩

end ForgeBoard.Query.Search
