import ForgeBoard.Client.GitHub
import ForgeBoard.Filter.Parser
import ForgeBoard.Proofs.Query.Search.Phrase
import ForgeBoard.Proofs.Text.Words
import ForgeBoard.Query.Search

/-!
# The type of the items in a search string

A search string is sent with a term for the type of the items, which `GitHub.withType` adds where
none is there. It looks at the words of the string, quotes or not. A word that names a type stands
outside of phrases (`NamesOutside`) or inside of one (`NamesInside`), where it is part of a text to
be found. A quote that is not closed begins no phrase.

* `any_namesType_iff`: a word names a type iff one does so outside or inside of phrases.
* `namesOutside_trim_iff`, `namesInside_trim_iff`: trimming moves no word into a phrase or out of
  one.
* `namesOutside_addType`: the term that is added stands outside of phrases.

Result: `withType_exactly`. The term is added where it should be, but for strings that name a type
inside of phrases only: these stay without one.
-/

namespace ForgeBoard.GitHub

open Query Query.Search ForgeBoard.Filter Text

variable {query s t : String} {cs word : List Char} {c : Char}

/-- A word that names a type stands outside of phrases. -/
def NamesOutside (query : String) : Prop :=
  ∃ before word after, WordAt query before word after ∧
    namesType (String.ofList word) = true ∧ ¬ InPhrase before word after

/-- A word that names a type stands inside of a phrase. -/
def NamesInside (query : String) : Prop :=
  ∃ before word after, WordAt query before word after ∧
    namesType (String.ofList word) = true ∧ InPhrase before word after

/-- The search string with the term for the type behind it. -/
def addType (query : String) (itemType : ItemType) : String :=
  if query.isEmpty then typeTerm itemType else query ++ " " ++ typeTerm itemType

/-! ## Words that name a type -/

theorem any_namesType_iff :
    (words query).any namesType = true ↔ NamesOutside query ∨ NamesInside query := by
  rw [List.any_eq_true]
  constructor
  · rintro ⟨w, hw, hname⟩
    obtain ⟨before, after, hat⟩ := mem_words_iff.mp hw
    rw [← String.ofList_toList (s := w)] at hname
    by_cases hphrase : InPhrase before w.toList after
    · exact .inr ⟨before, w.toList, after, hat, hname, hphrase⟩
    · exact .inl ⟨before, w.toList, after, hat, hname, hphrase⟩
  · rintro (⟨before, word, after, hat, hname, -⟩ | ⟨before, word, after, hat, hname, -⟩) <;>
      exact ⟨String.ofList word, hat.mem_words, hname⟩

theorem mem_dropWhile_of_not {p : Char → Bool} (hc : c ∈ cs) (hp : p c = false) :
    c ∈ cs.dropWhile p := by
  rw [← List.takeWhile_append_dropWhile (p := p) (l := cs)] at hc
  rcases List.mem_append.mp hc with hc | hc
  · exact absurd ((List.mem_takeWhile_imp hc).symm.trans hp) nofun
  · exact hc

/-- Neither the marks around a term nor the names of types have a quote in them. -/
theorem no_quote_of_namesType (h : namesType (String.ofList word) = true) : '"' ∉ word := by
  intro hquote
  have hfront : '"' ∈ word.dropWhile fun c => c == '(' || c == '-' :=
    mem_dropWhile_of_not hquote (by decide)
  have hbare : '"' ∈ (bareTerm (String.ofList word)).toList := by
    simp only [bareTerm, dropEndWhile, String.toList_ofList]
    exact List.mem_reverse.mpr (mem_dropWhile_of_not (List.mem_reverse.mpr hfront) (by decide))
  have hlower : '"' ∈ (asciiLower (bareTerm (String.ofList word))).toList := by
    simp only [asciiLower, String.toList_ofList]
    exact List.mem_map.mpr ⟨'"', hbare, by decide⟩
  have hnames : ∀ name ∈ ["is:pr", "is:issue", "type:pr", "type:issue"], '"' ∉ name.toList := by
    decide
  rw [namesType, List.contains_iff_mem] at h
  exact hnames _ h hlower

/-- The opening quote of a phrase is part of its first word, so that one names no type. -/
theorem not_namesOutside_of_phrase? (h : phrase? s = some t) : ¬ NamesOutside s := by
  rintro ⟨before, word, after, hat, hname, hout⟩
  cases before with
  | nil =>
    obtain ⟨body, hbody, -⟩ := phrase?_eq_some_iff.mp h
    obtain ⟨c, word, rfl⟩ := List.exists_cons_of_ne_nil hat.ne_nil
    obtain ⟨rfl, -⟩ := List.cons.inj (hbody.symm.trans hat.text)
    exact no_quote_of_namesType hname List.mem_cons_self
  | cons c before =>
    exact hout (inPhrase_of_phrase? h hat.text (List.cons_ne_nil c before) hat.ne_nil)

/-! ## Trimming -/

theorem no_quote_of_blank (h : ∀ c ∈ cs, isBlank c = true) : '"' ∉ cs :=
  fun hquote => absurd (h _ hquote) (by decide)

/-- Trimming moves no word into a phrase or out of one. -/
theorem exists_wordAt_trim_iff (query : String) (P : List Char → Prop → Prop) :
    (∃ before word after, WordAt (trim query) before word after ∧
        P word (InPhrase before word after)) ↔
      ∃ before word after, WordAt query before word after ∧
        P word (InPhrase before word after) := by
  obtain ⟨xs, ys, htext, hxs, hys⟩ := exists_blanks_trim query
  have hphrase (front word behind : List Char) :
      InPhrase (xs ++ front) word (behind ++ ys) = InPhrase front word behind :=
    propext (inPhrase_padded_iff (no_quote_of_blank hxs) (no_quote_of_blank hys))
  constructor
  · rintro ⟨front, word, behind, hinner, hP⟩
    refine ⟨xs ++ front, word, behind ++ ys, ?_, by rwa [hphrase]⟩
    exact (wordAt_padded_iff htext hxs hys).mpr ⟨front, behind, rfl, rfl, hinner⟩
  · rintro ⟨before, word, after, hat, hP⟩
    obtain ⟨front, behind, rfl, rfl, hinner⟩ := (wordAt_padded_iff htext hxs hys).mp hat
    rw [hphrase] at hP
    exact ⟨front, word, behind, hinner, hP⟩

theorem namesOutside_trim_iff : NamesOutside (trim query) ↔ NamesOutside query :=
  exists_wordAt_trim_iff query fun word inside =>
    namesType (String.ofList word) = true ∧ ¬ inside

theorem namesInside_trim_iff : NamesInside (trim query) ↔ NamesInside query :=
  exists_wordAt_trim_iff query fun word inside =>
    namesType (String.ofList word) = true ∧ inside

/-! ## The term that is added -/

theorem namesType_typeTerm (itemType : ItemType) : namesType (typeTerm itemType) = true := by
  cases itemType <;> decide

theorem typeTerm_ne_empty (itemType : ItemType) : typeTerm itemType ≠ "" := by
  cases itemType <;> decide

theorem noBlank_typeTerm (itemType : ItemType) :
    ∀ c ∈ (typeTerm itemType).toList, isBlank c = false := by
  have hany : (typeTerm itemType).toList.any isBlank = false := by cases itemType <;> decide
  exact fun c hc => eq_false_of_ne_true (List.any_eq_false.mp hany c hc)

theorem tight_typeTerm (itemType : ItemType) : Tight (typeTerm itemType) :=
  tight_of_no_blank (typeTerm_ne_empty itemType) (noBlank_typeTerm itemType)

/-- **The term that is added** stands outside of phrases. -/
theorem namesOutside_addType (query : String) (itemType : ItemType) :
    NamesOutside (addType query itemType) := by
  have hname : namesType (String.ofList (typeTerm itemType).toList) = true := by
    rw [String.ofList_toList]
    exact namesType_typeTerm itemType
  have hout (before : List Char) : ¬ InPhrase before (typeTerm itemType).toList [] :=
    not_inPhrase_nil (no_quote_of_namesType hname)
  have hne := (tight_typeTerm itemType).toList_ne_nil
  have hno := noBlank_typeTerm itemType
  unfold addType
  split
  · exact ⟨[], _, [], ⟨by simp, hne, hno, nofun, nofun⟩, hname, hout _⟩
  · refine ⟨query.toList ++ [' '], _, [], ⟨by simp, hne, hno, fun c hc => ?_, nofun⟩, hname, hout _⟩
    rw [List.getLast?_concat] at hc
    exact Option.some.inj hc ▸ rfl

theorem tight_addType_trim (query : String) (itemType : ItemType) :
    Tight (addType (trim query) itemType) := by
  unfold addType
  split
  · exact tight_typeTerm itemType
  · next h =>
    exact (tight_trim (mt String.isEmpty_iff.mpr h)).append (tight_typeTerm itemType) " "

theorem addType_ne_self (query : String) (itemType : ItemType) :
    addType query itemType ≠ query := by
  unfold addType
  split
  · next h =>
    rw [String.isEmpty_iff.mp h]
    exact typeTerm_ne_empty itemType
  · intro h
    have hlength := congrArg String.length h
    rw [String.length_append, String.length_append] at hlength
    have hblank : " ".length = 1 := rfl
    omega

/-! ## The string that is sent -/

theorem withType_of_names (h : NamesOutside query ∨ NamesInside query) (itemType : ItemType) :
    withType query itemType = trim query :=
  if_pos (any_namesType_iff.mpr h)

theorem withType_of_not_names (h : ¬ (NamesOutside query ∨ NamesInside query))
    (itemType : ItemType) : withType query itemType = addType (trim query) itemType :=
  if_neg (mt any_namesType_iff.mp h)

theorem names_withType (query : String) (itemType : ItemType) :
    NamesOutside (withType query itemType) ∨ NamesInside (withType query itemType) := by
  by_cases h : NamesOutside query ∨ NamesInside query
  · rwa [withType_of_names h, namesOutside_trim_iff, namesInside_trim_iff]
  · rw [withType_of_not_names h]
    exact .inl (namesOutside_addType _ _)

theorem trim_withType (query : String) (itemType : ItemType) :
    trim (withType query itemType) = withType query itemType := by
  by_cases h : NamesOutside query ∨ NamesInside query
  · rw [withType_of_names h, trim_trim]
  · rw [withType_of_not_names h, trim_of_tight (tight_addType_trim query itemType)]

/-- **Which strings get a term for the type.** A string is sent as it is, trimmed, iff one of its
words names a type, be it in a phrase. Otherwise the term stands behind it. What is sent names a
type outside of phrases unless the string names one inside of them only, and it is sent as it is
when it comes again. -/
theorem withType_exactly (query : String) (itemType : ItemType) :
    (withType query itemType = trim query ↔ NamesOutside query ∨ NamesInside query) ∧
      (¬ (NamesOutside query ∨ NamesInside query) →
        withType query itemType = addType (trim query) itemType) ∧
      (NamesOutside (withType query itemType) ↔ (NamesInside query → NamesOutside query)) ∧
      (NamesOutside (withType query itemType) ∨ NamesInside (withType query itemType)) ∧
      ∀ other, withType (withType query itemType) other = withType query itemType := by
  refine ⟨⟨fun h => ?_, fun h => withType_of_names h itemType⟩,
    fun h => withType_of_not_names h itemType, ?_, names_withType query itemType, fun other => ?_⟩
  · by_contra hnames
    rw [withType_of_not_names hnames] at h
    exact addType_ne_self _ _ h
  · by_cases hnames : NamesOutside query ∨ NamesInside query
    · rw [withType_of_names hnames, namesOutside_trim_iff]
      exact ⟨fun h _ => h, fun h => hnames.elim id h⟩
    · rw [withType_of_not_names hnames]
      exact ⟨fun _ hin => absurd (.inr hin) hnames, fun _ => namesOutside_addType _ _⟩
  · rw [withType_of_names (names_withType query itemType), trim_withType]

/-- **A text that mentions a type** is one phrase of the search string, and there is no term for the
type outside of it. -/
theorem phraseWithType_unchanged :
    parse "text = \"merge is:pr later\"" =
        .ok (.predicate (.compare "text" .eq (.text "merge is:pr later"))) ∧
      SearchQuery.ofExpr 0 (.predicate (.compare "text" .eq (.text "merge is:pr later"))) =
        .ok ⟨"\"merge is:pr later\"", .everywhere⟩ ∧
      ¬ NamesOutside "\"merge is:pr later\"" ∧
      withType "\"merge is:pr later\"" .issue = "\"merge is:pr later\"" ∧
      addType (trim "\"merge is:pr later\"") .issue = "\"merge is:pr later\" is:issue" := by
  have hquote : quote "merge is:pr later" = "\"merge is:pr later\"" := by decide
  refine ⟨rfl, by decide, ?_, by decide, by decide⟩
  rw [← hquote]
  exact not_namesOutside_of_phrase? (phrase?_quote _)

end ForgeBoard.GitHub
