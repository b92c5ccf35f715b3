import ForgeBoard.Proofs.Calendar.Written
import ForgeBoard.Proofs.Query.Search.Reading
import ForgeBoard.Proofs.Text.Quoted
import ForgeBoard.Query.Search

/-!
# The value of a filter over search terms

`holds?` is the value of a filter under a truth assignment to the terms of search strings, said
without any string that joins two terms. A condition has a value only if there is a term for it.

A condition is `Searchable` when its texts can stand in a search string. Then its term is read back
as that term: `isTerm_of_term?` and `isTerm_of_dayTerm?`.
-/

namespace ForgeBoard.Query.Search

open ForgeBoard.Filter Text

/-! ## The value of a filter -/

/-- The term of a field for a value, as for `=`. -/
def term? (field : String) (v : Value) : Option String :=
  match qualifier? field with
  | some qualifier => v.text?.map fun s => qualifier ++ ":" ++ s
  | none =>
    if isFlag field then (truthOf field v).toOption.map fun b => field ++ ":" ++ b
    else if field = "type" then v.text?.map fun s => "is:" ++ s
    else if field = "text" then v.text?.map freeText
    else none

/-- The term of a comparison of a day, which holds the operator. -/
def dayTerm? (now : Int) (field : String) (op : CompareOp) (v : Value) : Option String :=
  (dayOf now field v).toOption.map fun day => field ++ ":" ++ op.symbol ++ day

section

variable (V : String → Bool) (now : Int)

/-- The value of a comparison. On fields that hold days each operator has a term; on the others
`=` has one, and `!=` the negation of it if the field has an excluding term. -/
def comparisonHolds? (field : String) (op : CompareOp) (v : Value) : Option Bool :=
  if isDay field then (dayTerm? now field op v).map V
  else
    match op with
    | .eq => (term? field v).map V
    | .ne => if isExcludable field then (term? field v).map (!V ·) else none
    | _ => none

/-- The value of a membership in a list with the given terms. -/
def membershipHolds (terms : List String) : MemberOp → Bool
  | .within => terms.any V
  | .notWithin => terms.all (!V ·)

/-- The value of a condition. -/
def conditionHolds? (p : Predicate) : Option Bool :=
  match p.op, p.operand with
  | .compare op, .single v => comparisonHolds? V now p.key op v
  | .member op, .list vs => (vs.mapM (term? p.key)).map (membershipHolds V · op)
  | _, _ => none

/-- The value of a filter. -/
def holds? : Expr → Option Bool
  | .predicate p => conditionHolds? V now p
  | .unary negate inner => (holds? inner).map fun b => if negate then !b else b
  | .binary .and left right => do return (← holds? left) && (← holds? right)
  | .binary .or left right => do return (← holds? left) || (← holds? right)

end

/-- The texts of the condition can stand as items of a search string, and the text to be found is
not the word between alternatives. -/
structure Searchable (p : Predicate) : Prop where
  items : ∀ v ∈ p.values, ∀ s ∈ v.text?, IsItem s
  ne_or : p.key = "text" → .text "OR" ∉ p.values

instance : DecidablePred Searchable := fun p =>
  decidable_of_iff
    ((∀ v ∈ p.values, ∀ s ∈ v.text?, IsItem s) ∧ (p.key = "text" → .text "OR" ∉ p.values))
    ⟨fun ⟨hi, ho⟩ => ⟨hi, ho⟩, fun ⟨hi, ho⟩ => ⟨hi, ho⟩⟩

/-! ## Terms -/

/-- The texts before a colon. -/
def labels : List String :=
  ["repo", "is", "author", "assignee", "review-requested", "involves", "label", "draft",
    "archived", "updated", "created"]

/-- A character with which neither `OR` nor an excluded term begins. -/
def isTermStart (c : Char) : Bool :=
  c != '-' && c != 'O'

theorem isTerm_of_start {s : String} {c : Char} (hc : s.toList.head? = some c)
    (hstart : isTermStart c = true) (hall : ∀ d ∈ s.toList, isItemChar d = true) : IsTerm s := by
  simp only [isTermStart, Bool.and_eq_true, bne_iff_ne] at hstart
  refine ⟨⟨?_, hall⟩, ?_, ?_⟩
  · rintro rfl
    exact absurd hc nofun
  · rintro rfl
    exact hstart.2 (Option.some.inj hc).symm
  · rw [hc]
    exact fun he => hstart.1 (Option.some.inj he)

theorem isTerm_labelled {label rest : String} (h : label ∈ labels)
    (hrest : ∀ c ∈ rest.toList, isItemChar c = true) : IsTerm (label ++ ":" ++ rest) := by
  have facts : ∀ label ∈ labels, label.toList.all isItemChar = true ∧
      label.toList.head?.any isTermStart = true := by decide
  obtain ⟨hchars, hhead⟩ := facts label h
  obtain ⟨c, hc, hstart⟩ := (Option.any_eq_true _ _).mp hhead
  have htext : (label ++ ":" ++ rest).toList = label.toList ++ ':' :: rest.toList := by
    rw [String.toList_append, String.toList_append, List.append_assoc]
    rfl
  refine isTerm_of_start (c := c) ?_ hstart fun d hd => ?_
  · rw [htext, List.head?_append, hc, Option.some_or]
  · rw [htext] at hd
    rcases List.mem_append.mp hd with hd | hd
    · exact List.all_eq_true.mp hchars d hd
    · rcases List.mem_cons.mp hd with rfl | hd
      · decide
      · exact hrest d hd

theorem mem_labels_of_qualifier? {field qualifier : String}
    (h : qualifier? field = some qualifier) : qualifier ∈ labels := by
  unfold qualifier? at h
  repeat' split at h
  all_goals first
    | obtain rfl := Option.some.inj h
      decide
    | exact absurd h nofun

theorem mem_labels_of_isFlag {field : String} (h : isFlag field = true) : field ∈ labels := by
  simp only [isFlag, Bool.or_eq_true, beq_iff_eq] at h
  rcases h with rfl | rfl <;> decide

theorem mem_labels_of_isDay {field : String} (h : isDay field = true) : field ∈ labels := by
  simp only [isDay, Bool.or_eq_true, beq_iff_eq] at h
  rcases h with rfl | rfl <;> decide

theorem isTerm_freeText {s : String} (h : IsItem s) (hor : s ≠ "OR") : IsTerm (freeText s) := by
  unfold freeText
  split
  · have hchars : (quote s).toList = quoteChars s.toList := String.toList_ofList
    refine isTerm_of_start (c := '"') ?_ (by decide) fun d hd => ?_
    · rw [hchars]
      rfl
    · have marks : escapeMarks.all isItemChar = true := by decide
      rw [hchars] at hd
      rcases mem_quoteChars hd with hd | hd
      · exact h.chars d hd
      · exact List.all_eq_true.mp marks d hd
  · next hplain =>
    refine ⟨h, hor, ?_⟩
    simp only [Bool.or_eq_true, not_or, beq_iff_eq] at hplain
    exact hplain.2

theorem truthOf_toOption {field t : String} {v : Value} (h : (truthOf field v).toOption = some t) :
    t = "true" ∨ t = "false" := by
  unfold truthOf at h
  split at h
  · exact .inl (Option.some.inj h).symm
  · exact .inr (Option.some.inj h).symm
  · exact absurd h nofun

theorem isTerm_of_term? {field t : String} {v : Value} (hv : ∀ s ∈ v.text?, IsItem s)
    (hor : field = "text" → v ≠ .text "OR") (h : term? field v = some t) : IsTerm t := by
  unfold term? at h
  split at h
  · next qualifier hq =>
    obtain ⟨s, hs, rfl⟩ := Option.map_eq_some_iff.mp h
    exact isTerm_labelled (mem_labels_of_qualifier? hq) (hv s hs).chars
  split at h
  · next hflag =>
    obtain ⟨b, hb, rfl⟩ := Option.map_eq_some_iff.mp h
    refine isTerm_labelled (mem_labels_of_isFlag hflag) ?_
    rcases truthOf_toOption hb with rfl | rfl <;> exact List.all_eq_true.mp (by decide)
  split at h
  · obtain ⟨s, hs, rfl⟩ := Option.map_eq_some_iff.mp h
    exact isTerm_labelled (show "is" ∈ labels by decide) (hv s hs).chars
  split at h
  · next hfield =>
    obtain ⟨s, hs, rfl⟩ := Option.map_eq_some_iff.mp h
    refine isTerm_freeText (hv s hs) ?_
    rintro rfl
    cases v with
    | text s => exact hor hfield (congrArg Value.text (Option.some.inj hs))
    | bool | number | date | span | call => exact absurd hs nofun
  · exact absurd h nofun

theorem isItemChar_of_mem_date {d : Date} {c : Char} (h : c ∈ d.chars) : isItemChar c = true := by
  rcases Date.mem_chars h with hc | rfl | rfl
  · have hopen : c ≠ '(' := by rintro rfl; exact absurd hc (by decide)
    have hclose : c ≠ ')' := by rintro rfl; exact absurd hc (by decide)
    simp [isItemChar, isBlank_of_isDigit hc, hopen, hclose]
  · decide
  · decide

theorem dayOf_toOption {now : Int} {field day : String} {v : Value}
    (h : (dayOf now field v).toOption = some day) : ∃ d : Date, day = d.text := by
  unfold dayOf at h
  split at h
  · next d => exact ⟨d, (Option.some.inj h).symm⟩
  · split at h
    · next d _ => exact ⟨d, (Option.some.inj h).symm⟩
    · exact absurd h nofun
  · exact absurd h nofun

theorem isTerm_of_dayTerm? {now : Int} {field t : String} {op : CompareOp} {v : Value}
    (hfield : isDay field = true) (h : dayTerm? now field op v = some t) : IsTerm t := by
  obtain ⟨day, hday, rfl⟩ := Option.map_eq_some_iff.mp h
  obtain ⟨d, rfl⟩ := dayOf_toOption hday
  rw [String.append_assoc]
  refine isTerm_labelled (mem_labels_of_isDay hfield) fun c hc => ?_
  rw [String.toList_append, Date.text, String.toList_ofList] at hc
  rcases List.mem_append.mp hc with hc | hc
  · have symbols : op.symbol.toList.all isItemChar = true := by cases op <;> decide
    exact List.all_eq_true.mp symbols c hc
  · exact isItemChar_of_mem_date hc

end ForgeBoard.Query.Search
