import ForgeBoard.Filter.Parser
import ForgeBoard.Proofs.Query.Search.Accepted
import ForgeBoard.Proofs.Query.Search.Phrase
import ForgeBoard.Proofs.Query.Search.Terms

/-!
# Texts to be found

The condition `text = t` is a term that should stand for exactly `t` (`Denotes`): bare, or as one
phrase. Which of the two it is depends on a space, a tab or a minus sign in front (`IsMarked`), and
quoting is that of messages.

* `denotes_quote_iff`: in quotes a text is kept iff all its characters show. The others are spelled
  out, by escapes that a phrase does not have.
* `denotes_self_iff`: bare it is kept iff it has no blanks, double quotes and parentheses. Blanks
  other than space and tab, quotes and parentheses do not make it quoted.

Result: `sought_exactly`.
-/

namespace ForgeBoard.Query.Search

open ForgeBoard.Filter Text

variable {t field : String} {cs value : List Char} {n : Nat} {now : Int}

/-! ## Terms for a text -/

/-- A term that stands for itself. -/
structure BareTerm (t : String) : Prop where
  ne_empty : t ≠ ""
  chars : ∀ c ∈ t.toList, isBare c = true
  head : t.toList.head? ≠ some '-'

/-- The term stands for exactly the text. -/
def Denotes (term t : String) : Prop :=
  (term = t ∧ BareTerm t) ∨ phrase? term = some t

/-- There is a space or a tab in the text, or a minus sign in front of it. -/
def IsMarked (t : String) : Prop :=
  ' ' ∈ t.toList ∨ '\t' ∈ t.toList ∨ t.toList.head? = some '-'

instance : DecidablePred IsMarked :=
  fun t => inferInstanceAs (Decidable (' ' ∈ t.toList ∨ '\t' ∈ t.toList ∨ _))

theorem freeText_eq (t : String) : freeText t = if IsMarked t then quote t else t := by
  unfold freeText
  refine if_congr ?_ rfl rfl
  simp [IsMarked, or_assoc, exists_or, and_or_left]

theorem length_lt_of_readsString (h : Lexeme.ReadsString cs value n) : value.length < n := by
  induction h with
  | close rest => exact Nat.zero_lt_one
  | pair c _ ih => split <;> simp only [List.length_cons] <;> omega
  | plain h1 h2 _ ih =>
    rw [List.length_cons]
    omega

/-- No text is a phrase of itself. -/
theorem phrase?_ne_self (s : String) : phrase? s ≠ some s := by
  intro h
  obtain ⟨body, hs, hbody⟩ := phrase?_eq_some_iff.mp h
  have hlength := length_lt_of_readsString (Lexeme.stringBody_eq_some_iff.mp hbody)
  rw [hs, List.length_cons] at hlength
  omega

/-- **In quotes** a text is kept iff all its characters show. -/
theorem denotes_quote_iff : Denotes (quote t) t ↔ ∀ c ∈ t.toList, isVisible c = true := by
  have hbare : ¬ (quote t = t ∧ BareTerm t) := by
    rintro ⟨hquote, hterm⟩
    have hmark : '"' ∈ (quote t).toList := by
      rw [quote, String.toList_ofList]
      exact List.mem_cons_self
    rw [hquote] at hmark
    exact absurd (hterm.chars _ hmark) (by decide)
  rw [Denotes, or_iff_right hbare, phrase?_quote, Option.some_inj, ← flatMap_spelled_eq_iff]
  constructor
  · intro h
    rw [← String.toList_ofList (l := t.toList.flatMap spelled), h]
  · intro h
    rw [h, String.ofList_toList]

theorem denotes_self_iff : Denotes t t ↔ BareTerm t := by
  rw [Denotes, or_iff_left (phrase?_ne_self t), and_iff_right rfl]

/-! ## The condition -/

theorem normalize_sought (hme : t ≠ shortMe) :
    (Predicate.compare field .eq (.text t)).normalize = .compare field .eq (.text t) := by
  simp [Predicate.normalize, Predicate.compare, Operand.map, Value.normalize, hme]

theorem condition_sought (hfield : lower field = "text") :
    condition now (.compare field .eq (.text t)) = .ok (freeText t) := by
  have hkey : (Predicate.compare field .eq (.text t)).key = "text" := hfield
  rw [condition, hkey, if_neg (by decide)]
  rfl

/-- **A text to be found**, other than the short name of the current user, is a term by itself, and
behind a minus sign when the condition is negated. A marked text is one phrase, in which all
characters are spelled out that do not show, so the term stands for the text iff there are none. A
text without a mark stays as it is, so the term stands for it iff it has no blanks, quotes and
parentheses in it. -/
theorem sought_exactly (hfield : lower field = "text") (hme : t ≠ shortMe) (now : Int) :
    SearchQuery.ofExpr now (.predicate (.compare field .eq (.text t))) =
        .ok ⟨freeText t, .everywhere⟩ ∧
      SearchQuery.ofExpr now (.unary true (.predicate (.compare field .eq (.text t)))) =
        .ok ⟨"-" ++ freeText t, .everywhere⟩ ∧
      (IsMarked t →
        phrase? (freeText t) = some (String.ofList (t.toList.flatMap spelled)) ∧
          (Denotes (freeText t) t ↔ ∀ c ∈ t.toList, isVisible c = true)) ∧
      (¬ IsMarked t →
        freeText t = t ∧
          (Denotes (freeText t) t ↔ t ≠ "" ∧ ∀ c ∈ t.toList, isBare c = true)) := by
  have hrouting : (Predicate.compare field .eq (.text t)).isRouting = false := by
    rw [Predicate.isRouting, Predicate.key, Predicate.compare, hfield]
    rfl
  obtain ⟨hplain, hnegated⟩ := route_alone hrouting
  rw [normalize_sought hme] at hplain hnegated
  have hcondition : condition now (.compare field .eq (.text t)) = .ok (freeText t) :=
    condition_sought hfield
  refine ⟨?_, ?_, fun hmark => ?_, fun hmark => ?_⟩
  · rw [SearchQuery.ofExpr, prepare_eq_ok_iff.mpr hplain]
    show (render now _).bind _ = _
    rw [render, hcondition]
    rfl
  · rw [SearchQuery.ofExpr, prepare_eq_ok_iff.mpr hnegated]
    show (render now _).bind _ = _
    rw [render, negatedCondition]
    show (Except.map _ (condition now _)).bind _ = _
    rw [hcondition]
    rfl
  · rw [freeText_eq, if_pos hmark]
    exact ⟨phrase?_quote t, denotes_quote_iff⟩
  · rw [freeText_eq, if_neg hmark, denotes_self_iff]
    have hhead : t.toList.head? ≠ some '-' := fun h => hmark (.inr (.inr h))
    exact ⟨rfl, fun h => ⟨h.ne_empty, h.chars⟩, fun h => ⟨h.1, h.2, hhead⟩⟩

/-- A text with a minus sign in front, blanks, quotes and a backslash. -/
def spokenText : String :=
  "-v \"C:\\\" fails"

theorem sought_exactly_spokenText :
    lower "Text" = "text" ∧ spokenText ≠ shortMe ∧
      SearchQuery.ofExpr 0 (.predicate (.compare "Text" .eq (.text spokenText))) =
        .ok ⟨"\"-v \\\"C:\\\\\\\" fails\"", .everywhere⟩ ∧
      Denotes "\"-v \\\"C:\\\\\\\" fails\"" spokenText := by
  have hfield : lower "Text" = "text" := by decide
  have hme : spokenText ≠ shortMe := by decide
  have hterm : freeText spokenText = "\"-v \\\"C:\\\\\\\" fails\"" := by decide
  obtain ⟨hquery, -, hmarked, -⟩ := sought_exactly hfield hme 0
  obtain ⟨-, hdenotes⟩ := hmarked (by decide)
  rw [hterm] at hquery hdenotes
  exact ⟨hfield, hme, hquery, hdenotes.mpr (List.all_eq_true.mp (by decide))⟩

/-- **A text of two lines** is not quoted, and its term is not one for it. A tab is spelled out in
quotes. -/
theorem twoLines_not_denoted :
    parse "text = \"flaky\ntest\"" = .ok (.predicate (.compare "text" .eq (.text "flaky\ntest"))) ∧
      SearchQuery.ofExpr 0 (.predicate (.compare "text" .eq (.text "flaky\ntest"))) =
        .ok ⟨"flaky\ntest", .everywhere⟩ ∧
      ¬ Denotes "flaky\ntest" "flaky\ntest" ∧
      SearchQuery.ofExpr 0 (.predicate (.compare "text" .eq (.text "flaky\ttest"))) =
        .ok ⟨"\"flaky\\ttest\"", .everywhere⟩ ∧
      ¬ Denotes "\"flaky\\ttest\"" "flaky\ttest" := by
  have hquote : quote "flaky\ttest" = "\"flaky\\ttest\"" := by decide
  refine ⟨rfl, by decide, fun h => ?_, by decide, fun h => ?_⟩
  · exact absurd ((denotes_self_iff.mp h).chars '\n' (by decide)) (by decide)
  · rw [← hquote] at h
    exact absurd (denotes_quote_iff.mp h '\t' (by decide)) (by decide)

end ForgeBoard.Query.Search
