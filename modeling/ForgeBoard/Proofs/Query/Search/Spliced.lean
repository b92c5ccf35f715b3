import ForgeBoard.Proofs.Filter.Normal
import ForgeBoard.Proofs.Query.Search.Meaning
import ForgeBoard.Proofs.Query.Search.Terms

/-!
# Values in search strings

The text of a value is put into a search string as it stands, behind a qualifier and a colon. So
what it is there is up to the text: a blank or a parenthesis in it ends the term, unless it stands
in quotes, and the rest of the text becomes terms of its own.

* `values_of_condition`: the search string of a condition is `written` from the terms of its values.
* `terms_signed_iff`: such a term is a single term iff its value is enclosed.
* `terms_written`: if all values are enclosed and their quotes are closed, then the string consists
  of the terms of the values, wherever it stands.

Result: `terms_ofExpr`.
-/

namespace ForgeBoard.Query.Search

open ForgeBoard.Filter Text

variable {now : Int} {field lead s : String} {op : CompareOp} {v : Value} {p : Predicate}
  {ts : List String}

/-! ## What is written -/

/-- The text in front of the colon, for the fields that take a text and put it behind a colon. -/
def lead? (field : String) : Option String :=
  if field = "type" then some "is" else qualifier? field

/-- The terms of a condition, from those of its values. -/
def arranged : PredicateOp → List String → List String
  | .compare .ne, ts | .member .notWithin, ts => ts.map ("-" ++ ·)
  | .member .within, ts => ts.intersperse "OR"
  | _, ts => ts

/-- The search string of a condition, from the terms of its values. -/
def written : PredicateOp → List String → String
  | .member .within, ts => "(" ++ String.intercalate " OR " ts ++ ")"
  | op, ts => String.intercalate " " (arranged op ts)

theorem not_isDay_of_lead? (h : lead? field = some lead) : isDay field = false := by
  unfold lead? at h
  split at h
  · next hfield =>
    rw [hfield]
    rfl
  · exact not_isDay_of_qualifier? h

theorem term?_of_lead? (h : lead? field = some lead) (v : Value) :
    term? field v = v.text?.map fun s => lead ++ ":" ++ s := by
  unfold lead? at h
  split at h
  · next hfield =>
    obtain rfl := Option.some.inj h
    rw [hfield]
    rfl
  · rw [term?, h]

theorem mem_labels_of_lead? (h : lead? field = some lead) : lead ∈ labels := by
  unfold lead? at h
  split at h
  · rw [← Option.some.inj h]
    decide
  · exact mem_labels_of_qualifier? h

/-- A comparison has the term of its value, with a minus sign in front for `!=`. -/
theorem value_of_comparison (hlead : lead? field = some lead)
    (h : comparison now field op v = .ok s) :
    ∃ t, v = .text t ∧
      ((op = .eq ∧ s = lead ++ ":" ++ t) ∨ (op = .ne ∧ s = "-" ++ (lead ++ ":" ++ t))) := by
  rcases comparison_cases h with ⟨hday, -⟩ | ⟨-, term, hterm, hs⟩
  · rw [not_isDay_of_lead? hlead] at hday
    exact absurd hday nofun
  · rw [term?_of_lead? hlead] at hterm
    obtain ⟨t, ht, rfl⟩ := Option.map_eq_some_iff.mp hterm
    refine ⟨t, text?_eq_some_iff.mp ht, ?_⟩
    rcases hs with ⟨hop, hs⟩ | ⟨hop, -, hs⟩
    · exact .inl ⟨hop, hs⟩
    · exact .inr ⟨hop, hs⟩

theorem values_of_memberTerms (hlead : lead? field = some lead) {vs : List Value}
    (h : memberTerms now field vs = .ok ts) :
    ∃ values : List String, vs = values.map .text ∧ ts = values.map (lead ++ ":" ++ ·) := by
  induction vs generalizing ts with
  | nil =>
    obtain rfl := Except.ok.inj h
    exact ⟨[], rfl, rfl⟩
  | cons v vs ih =>
    obtain ⟨s, hs, h⟩ := bind_eq_ok_iff.mp h
    obtain ⟨rest, hrest, h⟩ := bind_eq_ok_iff.mp h
    obtain rfl := Except.ok.inj h
    obtain ⟨values, rfl, rfl⟩ := ih hrest
    obtain ⟨t, rfl, ⟨-, rfl⟩ | ⟨hop, -⟩⟩ := value_of_comparison hlead hs
    · exact ⟨t :: values, rfl, rfl⟩
    · exact absurd hop nofun

theorem head?_of_lead? (hlead : lead? field = some lead) (t : String) :
    (lead ++ ":" ++ t).toList.head? ≠ some '-' := by
  have facts : ∀ label ∈ labels, label.toList.head?.any (· != '-') = true := by decide
  obtain ⟨c, hc, hne⟩ := (Option.any_eq_true _ _).mp (facts lead (mem_labels_of_lead? hlead))
  rw [String.toList_append, String.toList_append, List.append_assoc, List.head?_append, hc,
    Option.some_or, Ne, Option.some.injEq]
  exact bne_iff_ne.mp hne

/-- **What is written** for a condition comes from the terms of its values. -/
theorem values_of_condition (hlead : lead? p.key = some lead) (h : condition now p = .ok s) :
    ∃ values : List String, p.values = values.map .text ∧
      s = written p.op (values.map (lead ++ ":" ++ ·)) := by
  unfold condition at h
  split at h
  · cases h
  split at h
  · next op v hop hoperand =>
    obtain ⟨t, rfl, hs⟩ := value_of_comparison hlead h
    refine ⟨[t], by rw [Predicate.values, hoperand]; rfl, ?_⟩
    rw [hop]
    rcases hs with ⟨rfl, rfl⟩ | ⟨rfl, rfl⟩ <;> simp [written, arranged]
  · next op vs hop hoperand =>
    unfold membership at h
    dsimp only at h
    split at h
    · cases h
    split at h
    · cases h
    obtain ⟨ts, hts, h⟩ := bind_eq_ok_iff.mp h
    obtain ⟨values, rfl, rfl⟩ := values_of_memberTerms hlead hts
    refine ⟨values, by rw [Predicate.values, hoperand]; rfl, ?_⟩
    rw [hop]
    cases op with
    | within => exact (Except.ok.inj h).symm
    | notWithin =>
      rw [← Except.ok.inj h, List.map_map]
      change _ = String.intercalate " " (List.map ("-" ++ ·) (values.map (lead ++ ":" ++ ·)))
      rw [List.map_map]
      congr 1
      exact List.map_congr_left fun t _ => excluded_of_head (head?_of_lead? hlead t)
  · cases h

/-! ## How it is cut -/

/-- The signs in front of a term. -/
def signs : List String :=
  ["", "-"]

theorem bare_signed (hlead : lead? field = some lead) {sign : String} (hsign : sign ∈ signs) :
    (sign ++ lead ++ ":").toList.all isBare = true := by
  have hsigns : ∀ sign ∈ signs, sign.toList.all isBare = true := by decide
  have hlabels : ∀ label ∈ labels, label.toList.all isBare = true := by decide
  have hcolon : ":".toList.all isBare = true := by decide
  rw [String.toList_append, String.toList_append, List.all_append, List.all_append,
    hsigns sign hsign, hlabels lead (mem_labels_of_lead? hlead), hcolon]
  rfl

theorem enclosed_signed_iff (hlead : lead? field = some lead) {sign : String} (hsign : sign ∈ signs)
    (t : String) :
    Enclosed false (sign ++ (lead ++ ":" ++ t)).toList ↔ Enclosed false t.toList := by
  have hsplit : (sign ++ (lead ++ ":" ++ t)).toList =
      (sign ++ lead ++ ":").toList ++ t.toList := by
    rw [← String.toList_append]
    simp only [String.append_assoc]
  rw [hsplit, enclosed_append_iff (bare_signed hlead hsign)]

/-- **The term of a value**, with a minus sign in front or without, is a single term iff every blank
and every parenthesis of the value stands in quotes. -/
theorem terms_signed_iff (hlead : lead? field = some lead) {sign : String} (hsign : sign ∈ signs)
    (t : String) :
    terms (sign ++ (lead ++ ":" ++ t)) = [sign ++ (lead ++ ":" ++ t)] ↔
      Enclosed false t.toList := by
  have hne : sign ++ (lead ++ ":" ++ t) ≠ "" := by
    intro hempty
    have hchars := congrArg String.toList hempty
    simp at hchars
  rw [terms_eq_singleton_iff, enclosed_signed_iff hlead hsign, and_iff_right hne]

theorem whole_signed (hlead : lead? field = some lead) {sign : String} (hsign : sign ∈ signs)
    {t : String} (henclosed : Enclosed false t.toList) (hclosed : Closed t) :
    Whole (sign ++ (lead ++ ":" ++ t)) := by
  have hsplit : sign ++ (lead ++ ":" ++ t) = sign ++ lead ++ ":" ++ t := by
    simp only [String.append_assoc]
  refine ⟨(terms_signed_iff hlead hsign t).mpr henclosed, ?_⟩
  rw [hsplit]
  exact (closed_of_bare (bare_signed hlead hsign)).append hclosed

theorem terms_group (hs : Closed s) : terms ("(" ++ s ++ ")") = terms s := by
  have hempty : Closed "" := rfl
  have hparen : Closed "(" := rfl
  have hopen : terms ("" ++ "(" ++ s) = terms "" ++ terms s :=
    terms_append rfl (by decide) hempty s
  have hclose : terms ("(" ++ s ++ ")" ++ "") = terms ("(" ++ s) ++ terms "" :=
    terms_append rfl (by decide) (hparen.append hs) ""
  rw [String.empty_append, terms_empty, List.nil_append] at hopen
  rw [String.append_empty, terms_empty, List.append_nil] at hclose
  rw [hclose, hopen]

/-- **What is written consists of the terms of the values**, if these are whole. -/
theorem terms_written {op : PredicateOp} (h : ∀ t ∈ ts, Whole t ∧ Whole ("-" ++ t)) :
    terms (written op ts) = arranged op ts ∧ Closed (written op ts) := by
  have hplain : ∀ t ∈ ts, Whole t := fun t ht => (h t ht).1
  have hexcluded : ∀ t ∈ ts.map ("-" ++ ·), Whole t := by
    intro t ht
    obtain ⟨u, hu, rfl⟩ := List.mem_map.mp ht
    exact (h u hu).2
  cases op with
  | member op =>
    cases op with
    | within =>
      obtain ⟨hterms, hclosed⟩ := Whole.choice hplain
      have hopen : Closed "(" := rfl
      have hclose : Closed ")" := rfl
      exact ⟨(terms_group hclosed).trans hterms, (hopen.append hclosed).append hclose⟩
    | notWithin => exact Whole.beside hexcluded
  | compare op =>
    cases op with
    | ne => exact Whole.beside hexcluded
    | eq | gt | ge | lt | le => exact Whole.beside hplain

/-- A closed string between two others stays what it is. -/
theorem terms_between {left right : String} (hleft : Closed left) (hs : Closed s) :
    terms (left ++ " " ++ s ++ " " ++ right) = terms left ++ terms s ++ terms right := by
  have hspace : Closed " " := rfl
  have hboth : Closed (left ++ " " ++ s) := (hleft.append hspace).append hs
  rw [terms_append rfl (by decide) hboth, terms_append rfl (by decide) hleft]

/-! ## Filters -/

theorem condition_of_ofExpr {q : SearchQuery} (hlead : lead? p.key = some lead)
    (h : SearchQuery.ofExpr now (.predicate p) = .ok q) :
    condition now p.normalize = .ok q.query := by
  have hrouting : p.normalize.isRouting = false := by
    rw [Predicate.isRouting_normalize, Predicate.isRouting, beq_eq_false_iff_ne]
    intro hkey
    have hnone : lead? routingField = none := by decide
    rw [hkey, hnone] at hlead
    cases hlead
  obtain ⟨⟨remaining, routing⟩, hprepare, h⟩ := bind_eq_ok_iff.mp h
  obtain ⟨-, hremaining, -⟩ := Expr.route_eq_ok.mp (prepare_eq_ok_iff.mp hprepare)
  have hpruned : (Expr.predicate p).normalize.pruned = some (.predicate p.normalize) := by
    change (if p.normalize.isRouting then _ else _) = _
    rw [hrouting]
    rfl
  obtain rfl := hremaining.trans hpruned
  obtain ⟨query, hquery, h⟩ := bind_eq_ok_iff.mp h
  rw [← Except.ok.inj h]
  exact hquery

/-- **A condition on a field that takes a text behind a colon**: its string is written from the
terms of its values. Such a term is a single term iff the blanks and the parentheses of the value
stand in quotes. If that is so for all values and their quotes are closed, then the condition
consists of these terms, whatever stands beside it; the values are those of the normal form. -/
theorem terms_ofExpr {q : SearchQuery} (hlead : lead? p.key = some lead)
    (h : SearchQuery.ofExpr now (.predicate p) = .ok q) :
    ∃ values : List String, p.normalize.values = values.map .text ∧
      q.query = written p.normalize.op (values.map (lead ++ ":" ++ ·)) ∧
      (∀ sign ∈ signs, ∀ t ∈ values,
        terms (sign ++ (lead ++ ":" ++ t)) = [sign ++ (lead ++ ":" ++ t)] ↔
          Enclosed false t.toList) ∧
      ((∀ t ∈ values, Enclosed false t.toList ∧ Closed t) → ∀ left right, Closed left →
        terms (left ++ " " ++ q.query ++ " " ++ right) =
          terms left ++ arranged p.normalize.op (values.map (lead ++ ":" ++ ·)) ++
            terms right) := by
  have hkey : lead? p.normalize.key = some lead := by
    rwa [Predicate.key_normalize]
  obtain ⟨values, hvalues, hquery⟩ := values_of_condition hkey (condition_of_ofExpr hlead h)
  refine ⟨values, hvalues, hquery, fun sign hsign t _ => terms_signed_iff hlead hsign t,
    fun hall left right hleft => ?_⟩
  have hwhole : ∀ t ∈ values.map (lead ++ ":" ++ ·), Whole t ∧ Whole ("-" ++ t) := by
    intro t ht
    obtain ⟨value, hvalue, rfl⟩ := List.mem_map.mp ht
    obtain ⟨henclosed, hclosed⟩ := hall value hvalue
    have hsigned : ∀ sign ∈ signs, Whole (sign ++ (lead ++ ":" ++ value)) :=
      fun sign hsign => whole_signed hlead hsign henclosed hclosed
    have hplain := hsigned "" List.mem_cons_self
    rw [String.empty_append] at hplain
    exact ⟨hplain, hsigned "-" (List.mem_cons_of_mem _ List.mem_cons_self)⟩
  obtain ⟨hterms, hclosed⟩ := terms_written hwhole
  rw [hquery, terms_between hleft hclosed, hterms]

/-- A choice of two labels, the second of which has quotes of its own around it. -/
def eitherLabel : Predicate :=
  .member "label" .within [.text "bug", .text "\"good first issue\""]

theorem terms_ofExpr_eitherLabel :
    ∃ values : List String, eitherLabel.normalize.values = values.map .text ∧
      "(label:bug OR label:\"good first issue\")" =
        written eitherLabel.normalize.op (values.map ("label" ++ ":" ++ ·)) ∧
      ∀ sign ∈ signs, ∀ t ∈ values,
        terms (sign ++ ("label" ++ ":" ++ t)) = [sign ++ ("label" ++ ":" ++ t)] ↔
          Enclosed false t.toList := by
  have hlead : lead? eitherLabel.key = some "label" := by decide
  have h : SearchQuery.ofExpr 0 (.predicate eitherLabel) =
      .ok ⟨"(label:bug OR label:\"good first issue\")", .everywhere⟩ := by
    decide
  obtain ⟨values, hvalues, hquery, hterms, -⟩ := terms_ofExpr hlead h
  exact ⟨values, hvalues, hquery, hterms⟩

/-- A label with blanks is three terms, and only the first one has to do with labels. -/
theorem terms_ofExpr_spacedLabel :
    SearchQuery.ofExpr 0 (.predicate (.compare "label" .eq (.text "good first issue"))) =
        .ok ⟨"label:good first issue", .everywhere⟩ ∧
      terms "label:good first issue" = ["label:good", "first", "issue"] := by
  decide

end ForgeBoard.Query.Search
