import ForgeBoard.Proofs.Query.Operand
import ForgeBoard.Proofs.Query.Search.Spliced

/-!
# Conditions that have a term

`Supported` is the table of the conditions that a search string has terms for. A condition is in it
iff it has a term (`exists_condition_iff`), and iff its negation has one
(`exists_negatedCondition_iff`): a negated membership turns into the opposite one and a negated `!=`
into `=`, and each of these is in the table where the other one is.

A term has a sign, a colon or a parenthesis in it, so it is not blank. The exception is a text to be
found that is blank itself and is not put in quotes (`blank_condition_iff`); behind a minus sign
that is no exception (`not_blank_negatedCondition`).
-/

namespace ForgeBoard.Query.Search

open ForgeBoard.Filter Text

/-- The fields that go by a qualifier. -/
def qualifiedFields : List String :=
  ["project", "state", "author", "assignee", "review_requested", "involves", "label"]

def flagFields : List String :=
  ["draft", "archived"]

/-- The fields that are compared with a text by `=` alone. -/
def plainFields : List String :=
  ["type", "text"]

/-- The fields that a list can be given for. -/
def listFields : List String :=
  ["label", "project", "state"]

/-- The comparisons of a field with a value that have a term at the instant `now`. -/
inductive Comparable (now : Int) : String → CompareOp → Value → Prop where
  | text {field s : String} {op : CompareOp} (hfield : field ∈ qualifiedFields)
      (hop : op = .eq ∨ op = .ne) : Comparable now field op (.text s)
  | flag {field : String} {op : CompareOp} {b : Bool} (hfield : field ∈ flagFields)
      (hop : op = .eq ∨ op = .ne) : Comparable now field op (.bool b)
  | day {field : String} {op : CompareOp} {v : Value} (hfield : field ∈ dayFields)
      (hday : StandsForDay now v) : Comparable now field op v
  | plain {field s : String} (hfield : field ∈ plainFields) : Comparable now field .eq (.text s)

/-- The conditions that have a term at the instant `now`. -/
inductive Supported (now : Int) (p : Predicate) : Prop where
  | comparison {op : CompareOp} {v : Value} (hop : p.op = .compare op)
      (hoperand : p.operand = .single v) (h : Comparable now p.key op v)
  | membership {op : MemberOp} {ss : List String} (hop : p.op = .member op)
      (hoperand : p.operand = .list (ss.map .text)) (hfield : p.key ∈ listFields) (hne : ss ≠ [])

/-- A blank text with nothing in it for which it would be put in quotes. -/
def Unseen (s : String) : Prop :=
  trim s = "" ∧ ' ' ∉ s.toList ∧ '\t' ∉ s.toList

variable {now : Int} {field s : String} {op : CompareOp} {v : Value} {vs : List Value}
  {p : Predicate}

/-! ## Comparisons -/

theorem mem_qualifiedFields_iff : field ∈ qualifiedFields ↔ (qualifier? field).isSome = true := by
  unfold qualifier? qualifiedFields
  grind

theorem mem_flagFields_iff : field ∈ flagFields ↔ isFlag field = true := by
  simp [flagFields, isFlag]

theorem isDay_iff : isDay field = true ↔ field ∈ dayFields := by
  simp [mem_dayFields_iff, isDay]

theorem mem_listFields_iff : field ∈ listFields ↔ isListable field = true := by
  simp [listFields, isListable, or_assoc]

theorem exists_qualified (qualifier field value : String) (hop : op = .eq ∨ op = .ne) :
    ∃ s, qualified qualifier field op value = .ok s := by
  rcases hop with rfl | rfl <;> exact ⟨_, rfl⟩

theorem comparison_of_isDay (h : isDay field = true) (op : CompareOp) (v : Value) :
    comparison now field op v = dayOf now field v >>= fun day =>
      .ok (field ++ ":" ++ op.symbol ++ day) := by
  simp only [isDay, Bool.or_eq_true, beq_iff_eq] at h
  rcases h with rfl | rfl <;> rfl

theorem comparison_of_isFlag (h : isFlag field = true) (op : CompareOp) (b : Bool) :
    comparison now field op (.bool b) =
      qualified field field op (if b then "true" else "false") := by
  simp only [isFlag, Bool.or_eq_true, beq_iff_eq] at h
  rcases h with rfl | rfl <;> cases b <;> rfl

/-- A value with a term for `=` can be compared by `=`, and by `!=` if the field can be excluded. -/
theorem comparable_of_term? {t : String} (ht : term? field v = some t)
    (hop : op = .eq ∨ op = .ne ∧ isExcludable field = true) : Comparable now field op v := by
  unfold term? at ht
  split at ht
  · next qualifier hq =>
    obtain ⟨s, hs, -⟩ := Option.map_eq_some_iff.mp ht
    obtain rfl := text?_eq_some_iff.mp hs
    refine .text (mem_qualifiedFields_iff.mpr ?_) (hop.imp_right And.left)
    rw [hq, Option.isSome_some]
  split at ht
  · next hflag =>
    obtain ⟨word, hword, -⟩ := Option.map_eq_some_iff.mp ht
    obtain ⟨b, rfl, -⟩ := truthOf_eq_ok_iff.mp (eq_ok_of_toOption hword)
    exact .flag (mem_flagFields_iff.mpr hflag) (hop.imp_right And.left)
  have hplain : ∀ s, field ∈ plainFields → v.text? = some s → Comparable now field op v := by
    intro s hfield hs
    obtain rfl := text?_eq_some_iff.mp hs
    have hnot : isExcludable field ≠ true := by
      rcases List.mem_pair.mp hfield with rfl | rfl <;> decide
    obtain rfl := hop.resolve_right fun h => hnot h.2
    exact .plain hfield
  split at ht
  · next hfield =>
    obtain ⟨s, hs, -⟩ := Option.map_eq_some_iff.mp ht
    exact hplain s (List.mem_pair.mpr (.inl hfield)) hs
  split at ht
  · next hfield =>
    obtain ⟨s, hs, -⟩ := Option.map_eq_some_iff.mp ht
    exact hplain s (List.mem_pair.mpr (.inr hfield)) hs
  · exact absurd ht nofun

/-- The table holds all comparisons that have a term. -/
theorem exists_comparison_iff : (∃ s, comparison now field op v = .ok s) ↔
    Comparable now field op v := by
  constructor
  · rintro ⟨s, h⟩
    rcases comparison_cases h with ⟨hday, hs⟩ | ⟨-, t, ht, hop⟩
    · obtain ⟨day, hd, -⟩ := Option.map_eq_some_iff.mp hs
      have hok := eq_ok_of_toOption hd
      exact .day (isDay_iff.mp hday) (exists_dayOf_iff.mp ⟨day, hok⟩)
    · have hne : op = .eq ∨ op = .ne ∧ isExcludable field = true :=
        hop.imp And.left fun h => ⟨h.1, h.2.1⟩
      exact comparable_of_term? ht hne
  · intro h
    cases h with
    | @text s _ hfield hop =>
      obtain ⟨qualifier, hq⟩ := Option.isSome_iff_exists.mp (mem_qualifiedFields_iff.mp hfield)
      obtain ⟨t, ht⟩ := exists_qualified qualifier field s hop
      refine ⟨t, ?_⟩
      simp only [comparison, hq]
      exact ht
    | flag hfield hop =>
      rw [comparison_of_isFlag (mem_flagFields_iff.mp hfield)]
      exact exists_qualified field field _ hop
    | day hfield hday =>
      obtain ⟨day, hday⟩ := hday.exists_dayOf field
      rw [comparison_of_isDay (isDay_iff.mpr hfield), hday]
      exact ⟨_, rfl⟩
    | plain hfield =>
      rcases List.mem_pair.mp hfield with rfl | rfl <;> exact ⟨_, rfl⟩

/-! ## Memberships -/

theorem lead?_of_isListable (h : isListable field = true) : ∃ lead, lead? field = some lead := by
  simp only [isListable, Bool.or_eq_true, beq_iff_eq] at h
  rcases h with (rfl | rfl) | rfl <;> exact ⟨_, rfl⟩

theorem listFields_subset : listFields ⊆ qualifiedFields := by
  decide

theorem memberTerms_texts (now : Int) (hfield : field ∈ listFields) (ss : List String) :
    ∃ ts, memberTerms now field (ss.map .text) = .ok ts := by
  induction ss with
  | nil => exact ⟨[], rfl⟩
  | cons s ss ih =>
    obtain ⟨ts, hts⟩ := ih
    have hcomparable : Comparable now field .eq (.text s) :=
      .text (listFields_subset hfield) (.inl rfl)
    obtain ⟨t, ht⟩ := exists_comparison_iff.mpr hcomparable
    refine ⟨t :: ts, ?_⟩
    rw [List.map_cons, memberTerms, ht, hts]
    rfl

theorem mem_intercalate_cons {c : Char} {mark t : String} {ts : List String} (h : c ∈ t.toList) :
    c ∈ (String.intercalate mark (t :: ts)).toList := by
  cases ts with
  | nil => simpa using h
  | cons u us =>
    rw [String.intercalate_cons_cons, String.toList_append, String.toList_append]
    simp [h]

/-- A membership that has a term is in a list of texts, and the term begins with a parenthesis or a
sign. -/
theorem texts_of_membership {op : MemberOp} (h : membership now field op vs = .ok s) :
    field ∈ listFields ∧ (∃ ss : List String, ss ≠ [] ∧ vs = ss.map .text) ∧ trim s ≠ "" := by
  unfold membership at h
  dsimp only at h
  split at h
  · exact absurd h nofun
  next hlistable =>
  have hfield : isListable field = true := by simpa using hlistable
  split at h
  · exact absurd h nofun
  next hempty =>
  obtain ⟨ts, hts, h⟩ := bind_eq_ok_iff.mp h
  obtain ⟨lead, hlead⟩ := lead?_of_isListable hfield
  obtain ⟨values, rfl, rfl⟩ := values_of_memberTerms hlead hts
  have hne : values ≠ [] := by
    rintro rfl
    exact hempty rfl
  refine ⟨mem_listFields_iff.mpr hfield, ⟨values, hne, rfl⟩, ?_⟩
  cases op with
  | within =>
    obtain rfl := Except.ok.inj h
    exact trim_ne_empty_of_mem (c := '(') (by simp) (by decide)
  | notWithin =>
    obtain ⟨value, rest, rfl⟩ := List.exists_cons_of_ne_nil hne
    obtain rfl := Except.ok.inj h
    refine trim_ne_empty_of_mem (c := '-') ?_ (by decide)
    rw [List.map_cons, List.map_cons]
    exact mem_intercalate_cons (by simp [excluded])

theorem exists_membership_iff {op : MemberOp} : (∃ s, membership now field op vs = .ok s) ↔
    field ∈ listFields ∧ ∃ ss : List String, ss ≠ [] ∧ vs = ss.map .text := by
  constructor
  · rintro ⟨s, h⟩
    obtain ⟨hfield, htexts, -⟩ := texts_of_membership h
    exact ⟨hfield, htexts⟩
  · rintro ⟨hfield, ss, hne, rfl⟩
    have hlistable := mem_listFields_iff.mp hfield
    obtain ⟨ts, hts⟩ := memberTerms_texts now hfield ss
    have hempty : (ss.map Value.text).isEmpty = false :=
      List.isEmpty_eq_false_iff.mpr (mt List.map_eq_nil_iff.mp hne)
    unfold membership
    simp only [hlistable, hempty, hts, Bool.not_true, Bool.false_eq_true, if_false]
    cases op <;> exact ⟨_, rfl⟩

/-! ## Conditions -/

theorem Comparable.ne_routingField (h : Comparable now field op v) : field ≠ routingField := by
  rintro rfl
  cases h with
  | text hfield | flag hfield | day hfield | plain hfield => exact absurd hfield (by decide)

/-- **The conditions that have a term** are the supported ones. -/
theorem exists_condition_iff : (∃ s, condition now p = .ok s) ↔ Supported now p := by
  constructor
  · rintro ⟨s, h⟩
    unfold condition at h
    split at h
    · exact absurd h nofun
    split at h
    · next op v hop hoperand =>
      exact .comparison hop hoperand (exists_comparison_iff.mp ⟨s, h⟩)
    · next op vs hop hoperand =>
      obtain ⟨hfield, ss, hne, rfl⟩ := exists_membership_iff.mp ⟨s, h⟩
      exact .membership hop hoperand hfield hne
    · exact absurd h nofun
  · intro h
    cases h with
    | comparison hop hoperand h =>
      obtain ⟨s, hs⟩ := exists_comparison_iff.mpr h
      refine ⟨s, ?_⟩
      rw [condition, if_neg h.ne_routingField, hop, hoperand]
      exact hs
    | @membership op ss hop hoperand hfield hne =>
      have hterm : ∃ s, membership now p.key op (ss.map .text) = .ok s :=
        exists_membership_iff.mpr ⟨hfield, ss, hne, rfl⟩
      obtain ⟨s, hs⟩ := hterm
      have hkey : p.key ≠ routingField := by
        intro hkey
        rw [hkey] at hfield
        exact absurd hfield (by decide)
      refine ⟨s, ?_⟩
      rw [condition, if_neg hkey, hop, hoperand]
      exact hs

/-- On the fields that can be excluded, `!=` has a term where `=` has one. -/
theorem comparable_ne_iff (h : isExcludable field = true) :
    Comparable now field .ne v ↔ Comparable now field .eq v := by
  have hnotDay : field ∉ dayFields := by
    rw [← isDay_iff, not_isDay_of_isExcludable h]
    exact Bool.false_ne_true
  constructor
  · intro hne
    cases hne with
    | text hfield => exact .text hfield (.inl rfl)
    | flag hfield => exact .flag hfield (.inl rfl)
    | day hfield => exact absurd hfield hnotDay
  · intro heq
    cases heq with
    | text hfield => exact .text hfield (.inr rfl)
    | flag hfield => exact .flag hfield (.inr rfl)
    | day hfield => exact absurd hfield hnotDay
    | plain hfield =>
      rcases List.mem_pair.mp hfield with rfl | rfl <;> exact absurd h (by decide)

theorem supported_comparison_iff (hop : p.op = .compare op) (hoperand : p.operand = .single v) :
    Supported now p ↔ Comparable now p.key op v := by
  constructor
  · intro h
    cases h with
    | comparison hop' hoperand' h =>
      obtain rfl := PredicateOp.compare.inj (hop.symm.trans hop')
      obtain rfl := Operand.single.inj (hoperand.symm.trans hoperand')
      exact h
    | membership hop' => exact absurd (hop.symm.trans hop') nofun
  · exact .comparison hop hoperand

theorem supported_membership_iff {op : MemberOp} (hop : p.op = .member op)
    (hoperand : p.operand = .list vs) :
    Supported now p ↔ p.key ∈ listFields ∧ ∃ ss : List String, ss ≠ [] ∧ vs = ss.map .text := by
  constructor
  · intro h
    cases h with
    | comparison hop' => exact absurd (hop.symm.trans hop') nofun
    | @membership _ ss _ hoperand' hfield hne =>
      exact ⟨hfield, ss, hne, Operand.list.inj (hoperand.symm.trans hoperand')⟩
  · rintro ⟨hfield, ss, hne, rfl⟩
    exact .membership hop hoperand hfield hne

/-- **A negation has a term** iff the condition under it has one. -/
theorem exists_negatedCondition_iff :
    (∃ s, negatedCondition now p = .ok s) ↔ Supported now p := by
  have hsigned : (∃ s, (condition now p).map ("-" ++ ·) = .ok s) ↔ Supported now p := by
    rw [← exists_condition_iff]
    simp only [map_eq_ok_iff]
    exact ⟨fun ⟨_, s, hs, _⟩ => ⟨s, hs⟩, fun ⟨s, hs⟩ => ⟨_, s, hs, rfl⟩⟩
  unfold negatedCondition
  -- the two kinds of conditions that change their operator, and then all others
  split
  · next op vs hop hoperand =>
    rw [supported_membership_iff hop hoperand]
    split
    · next hrouting =>
      refine iff_of_false (fun h => absurd h.choose_spec nofun) fun h => ?_
      rw [hrouting] at h
      exact absurd h.1 (by decide)
    · exact exists_membership_iff
  · next v hop hoperand =>
    split
    · next hexcludable =>
      rw [supported_comparison_iff hop hoperand, comparable_ne_iff hexcludable]
      exact exists_comparison_iff
    · exact hsigned
  · exact hsigned

/-! ## Blank terms -/

theorem blank_freeText_iff : trim (freeText s) = "" ↔ Unseen s := by
  unfold freeText Unseen
  split
  · next hquoted =>
    have hmark : '"' ∈ (quote s).toList := by simp [quote, quoteChars]
    refine iff_of_false (trim_ne_empty_of_mem hmark (by decide)) ?_
    rintro ⟨hblank, hspace, htab⟩
    simp only [Bool.or_eq_true, List.any_eq_true, beq_iff_eq] at hquoted
    rcases hquoted with ⟨c, hc, rfl | rfl⟩ | hsign
    · exact hspace hc
    · exact htab hc
    · exact trim_ne_empty_of_mem (List.mem_of_head? hsign) (by decide) hblank
  · next hplain =>
    simp only [Bool.or_eq_true, List.any_eq_true, beq_iff_eq, not_or, not_exists, not_and] at hplain
    exact ⟨fun h => ⟨h, fun hmem => (hplain.1 _ hmem).1 rfl, fun hmem => (hplain.1 _ hmem).2 rfl⟩,
      And.left⟩

/-- Apart from texts to be found, terms have a colon. -/
theorem colon_mem_of_term? {t : String} (ht : term? field v = some t) (hfield : field ≠ "text") :
    ':' ∈ t.toList := by
  unfold term? at ht
  split at ht
  · obtain ⟨s, -, rfl⟩ := Option.map_eq_some_iff.mp ht
    simp
  split at ht
  · obtain ⟨word, -, rfl⟩ := Option.map_eq_some_iff.mp ht
    simp
  split at ht
  · obtain ⟨s, -, rfl⟩ := Option.map_eq_some_iff.mp ht
    simp
  · exact absurd ht nofun

theorem blank_comparison_iff (h : comparison now field op v = .ok s) :
    trim s = "" ↔ field = "text" ∧ ∃ t, v = .text t ∧ Unseen t := by
  rcases comparison_cases h with ⟨hday, hs⟩ | ⟨-, t, ht, hs⟩
  · obtain ⟨day, -, rfl⟩ := Option.map_eq_some_iff.mp hs
    refine iff_of_false (trim_ne_empty_of_mem (c := ':') (by simp) (by decide)) ?_
    rintro ⟨rfl, -⟩
    exact absurd hday (by decide)
  by_cases hfield : field = "text"
  · subst hfield
    obtain ⟨text, htext, rfl⟩ :=
      Option.map_eq_some_iff.mp (show v.text?.map freeText = some t from ht)
    obtain rfl := text?_eq_some_iff.mp htext
    rcases hs with ⟨-, rfl⟩ | ⟨-, hexcludable, -⟩
    · simp [blank_freeText_iff]
    · exact absurd hexcludable (by decide)
  · refine iff_of_false ?_ fun h => hfield h.1
    have hcolon := colon_mem_of_term? ht hfield
    rcases hs with ⟨-, rfl⟩ | ⟨-, -, rfl⟩
    · exact trim_ne_empty_of_mem hcolon (by decide)
    · exact trim_ne_empty_of_mem (c := '-') (by simp) (by decide)

/-- The condition looks for a text of which nothing is seen in a search string. -/
def SilentText (p : Predicate) : Prop :=
  p.key = "text" ∧ ∃ s, p.operand = .single (.text s) ∧ Unseen s

/-- **The term of a condition** is blank iff it is such a text. -/
theorem blank_condition_iff (h : condition now p = .ok s) : trim s = "" ↔ SilentText p := by
  unfold condition at h
  split at h
  · exact absurd h nofun
  split at h
  · next op v hop hoperand =>
    rw [blank_comparison_iff h, SilentText, hoperand]
    simp only [Operand.single.injEq]
  · next op vs hop hoperand =>
    obtain ⟨-, -, hne⟩ := texts_of_membership h
    refine iff_of_false hne ?_
    rintro ⟨-, t, ht, -⟩
    exact absurd (hoperand.symm.trans ht) nofun
  · exact absurd h nofun

/-- The term of a negated condition is never blank. -/
theorem not_blank_negatedCondition (h : negatedCondition now p = .ok s) : trim s ≠ "" := by
  have hsigned : (condition now p).map ("-" ++ ·) = .ok s → trim s ≠ "" := by
    intro h
    obtain ⟨t, -, rfl⟩ := map_eq_ok_iff.mp h
    exact trim_ne_empty_of_mem (c := '-') (by simp) (by decide)
  unfold negatedCondition at h
  split at h
  · split at h
    · exact absurd h nofun
    · exact (texts_of_membership h).2.2
  · split at h
    · next hexcludable =>
      rw [Ne, blank_comparison_iff h]
      rintro ⟨hfield, -⟩
      rw [hfield] at hexcludable
      exact absurd hexcludable (by decide)
    · exact hsigned h
  · exact hsigned h

end ForgeBoard.Query.Search
