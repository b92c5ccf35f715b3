import ForgeBoard.Filter.Lexer
import ForgeBoard.Proofs.Filter.Stages
import ForgeBoard.Proofs.Text.Lowercase

/-!
# Which words name a field

The lexer takes a word for a keyword by its lower-case form in Unicode, and a word is reserved by
its lower-case form in ASCII. The letters of the keywords are plain, so both come to the same for
every keyword (`wordKind_cases`).

The list of reserved words has one word more than there are keywords: `last`, which only the parser
knows, and only where a value is due.

Results:
* `field_free_of_parse`: no field of a filter is reserved, but for `last`.
* `parse_comparison_iff`: a word names a field iff it is not reserved or it is `last`.
-/

namespace ForgeBoard.Filter

open Text

variable {w : List Char} {e : Expr}

/-! ## Keywords -/

/-- The keywords, each with the kind of its token. -/
def keywords : List (String × TokenKind) :=
  [("and", .and), ("or", .or), ("not", .not), ("in", .within), ("true", .bool true),
    ("false", .bool false)]

theorem keywords_plain : ∀ k ∈ keywords, ∀ c ∈ k.1.toList, Plain c := by
  -- asked of the list and not of all characters
  have hall : (keywords.all fun k => k.1.toList.all fun c => decide (Plain c)) = true := by decide
  intro k hk c hc
  exact of_decide_eq_true (List.all_eq_true.mp (List.all_eq_true.mp hall k hk) c hc)

theorem wordKind_eq_find (w : List Char) :
    Lexeme.wordKind w =
      ((keywords.find? fun k => lowerFrom [] w = k.1.toList).map Prod.snd).getD (.ident w) := by
  unfold Lexeme.wordKind
  dsimp only
  split_ifs <;>
  · simp only [keywords, List.find?_cons, *, decide_true, decide_false]
    rfl

theorem keyword_ne_ident {k : String × TokenKind} (hk : k ∈ keywords) (w : List Char) :
    k.2 ≠ .ident w := by
  simp only [keywords, List.mem_cons, List.not_mem_nil, or_false] at hk
  rcases hk with rfl | rfl | rfl | rfl | rfl | rfl <;> exact nofun

/-- **A word is a keyword iff it is one up to the case of ASCII letters.** -/
theorem wordKind_cases (w : List Char) :
    (∃ k ∈ keywords, w.map Char.toLower = k.1.toList ∧ Lexeme.wordKind w = k.2) ∨
      (∀ k ∈ keywords, w.map Char.toLower ≠ k.1.toList) ∧ Lexeme.wordKind w = .ident w := by
  rw [wordKind_eq_find]
  cases hfind : keywords.find? fun k => lowerFrom [] w = k.1.toList with
  | some k =>
    have hmem := List.mem_of_find?_eq_some hfind
    have hlower : lowerFrom [] w = k.1.toList := by simpa using List.find?_some hfind
    exact .inl ⟨k, hmem, (lowerFrom_eq_iff_of_plain (keywords_plain k hmem) [] w).mp hlower, rfl⟩
  | none =>
    refine .inr ⟨fun k hk hw => ?_, rfl⟩
    have hne : ¬ lowerFrom [] w = k.1.toList := by simpa using List.find?_eq_none.mp hfind k hk
    exact hne ((lowerFrom_eq_iff_of_plain (keywords_plain k hk) [] w).mpr hw)

theorem sameAsciiCase_iff {a b : String} :
    sameAsciiCase a b = true ↔ a.toList.map Char.toLower = b.toList.map Char.toLower := by
  rw [sameAsciiCase, asciiLower, asciiLower, beq_iff_eq, String.ofList_inj]

/-- The reserved words are the keywords and `last`. -/
theorem isReserved_iff {word : String} :
    isReserved word = true ↔
      (∃ k ∈ keywords, word.toList.map Char.toLower = k.1.toList) ∨
        sameAsciiCase word "last" = true := by
  have hlow : ∀ k ∈ keywords, k.1.toList.map Char.toLower = k.1.toList := by decide
  have hwords : reservedWords = keywords.map Prod.fst ++ ["last"] := rfl
  simp only [isReserved, hwords, List.any_append, List.any_map, Bool.or_eq_true, List.any_eq_true,
    Function.comp_apply, List.any_cons, List.any_nil, Bool.or_false]
  refine or_congr_left (exists_congr fun k => and_congr_right fun hk => ?_)
  rw [sameAsciiCase_iff, hlow k hk]

/-- A word that is no keyword is not reserved, or it is `last`. -/
theorem free_of_not_keyword {word : String}
    (h : ∀ k ∈ keywords, word.toList.map Char.toLower ≠ k.1.toList) :
    isReserved word = false ∨ sameAsciiCase word "last" = true := by
  by_cases hreserved : isReserved word = true
  · exact .inr ((isReserved_iff.mp hreserved).resolve_left fun ⟨k, hk, hlower⟩ => h k hk hlower)
  · exact .inl (Bool.eq_false_iff.mpr hreserved)

/-! ## Fields of filters -/

theorem Expr.WellFormed.of_mem_predicates {p : Predicate} (h : e.WellFormed)
    (hp : p ∈ e.predicates) : p.WellFormed := by
  induction e with
  | predicate q =>
    obtain rfl := List.mem_singleton.mp hp
    exact h
  | unary negate inner ih => exact ih h.2 hp
  | binary op l r ihl ihr => exact (List.mem_append.mp hp).elim (ihl h.1) (ihr h.2)

/-- **The fields of a filter that was read** are not reserved, but for `last`. -/
theorem field_free_of_parse {source : String} {p : Predicate} (h : parse source = .ok e)
    (hp : p ∈ e.predicates) :
    isReserved p.field = false ∨ sameAsciiCase p.field "last" = true := by
  have hfield := ((wellFormed_of_parse h).of_mem_predicates hp).field
  obtain ⟨c, w, hword, -, -, -, hident⟩ := hfield.exists_word
  rw [← hword] at hident
  rcases wordKind_cases p.field.toList with ⟨k, hk, -, hkind⟩ | ⟨hother, -⟩
  · exact absurd (hkind.symm.trans hident) (keyword_ne_ident hk _)
  · exact free_of_not_keyword hother

/-! ## Comparisons with a word for a field -/

/-- A letter or an underscore, and then letters, digits and underscores. -/
def IsWord (word : String) : Prop :=
  ∃ c w, word.toList = c :: w ∧ Lexeme.isWordStart c = true ∧ w.all Lexeme.isWordChar = true

/-- A keyword begins no comparison. -/
theorem not_phrase_of_keyword {k : String × TokenKind} (hk : k ∈ keywords) (ds : List Char) :
    ¬ Phrase .disjunction [k.2, .eq, .number ds] e := by
  intro h
  obtain ⟨head, ls, hks, hhead⟩ := h.head_cases
  obtain rfl := List.head_eq_of_cons_eq hks
  have hnot : k.2 = .not := by
    simp only [keywords, List.mem_cons, List.not_mem_nil, or_false] at hk
    rcases hk with rfl | rfl | rfl | rfl | rfl | rfl <;> simp at hhead ⊢
  rw [hnot] at h
  obtain ⟨inner, -, hinner⟩ := (h.operand_of_not_mem (by simp) (by simp)).of_not
  obtain ⟨head, ls, hks, hhead⟩ := hinner.head_cases
  obtain rfl := List.head_eq_of_cons_eq hks
  simp at hhead

/-- The phrases of a comparison of a field with one. -/
theorem phrase_comparison_iff {field : List Char} :
    Phrase .disjunction [.ident field, .eq, .number ['1']] e ↔
      e = .predicate (.compare (String.ofList field) .eq (.number 1)) := by
  have hone : readInt64? ['1'] = some 1 := rfl
  rw [Phrase.ident_iff (by simp) (by simp)]
  constructor
  · rintro ⟨p, rfl, hp⟩
    have hp : ConditionPhrase (.ident field :: CompareOp.eq.kind :: [.number ['1']]) p := hp
    obtain ⟨v, rfl, hv⟩ := hp.of_compare
    cases hv with
    | number hn =>
      obtain rfl := Option.some.inj ((readInt64?_eq_some_iff.mpr hn).symm.trans hone)
      rfl
  · rintro rfl
    exact ⟨_, rfl, .compare field .eq (.number (readInt64?_eq_some_iff.mp hone))⟩

theorem scans_comparison {word : String} (h : IsWord word) :
    Scans (word ++ " = 1").toList [Lexeme.wordKind word.toList, .eq, .number ['1']] [] := by
  obtain ⟨c, w, hword, hc, hw⟩ := h
  have hone : Scans " = 1".toList [.eq, .number ['1']] [] :=
    .space (.cons (.lexeme (w := ['=']) rfl rfl nofun)
      (.space (.lexeme (w := ['1']) rfl rfl nofun)))
  rw [String.toList_append, hword]
  exact .cons (scans_word (Lexeme.isBlank_of_isWordStart hc) hc hw
    (Lexeme.stops_cons (by decide)) rfl (Lexeme.wordKind_ne_eof _)) hone

/-- **Which words name a field.** A word is read as a field iff it is not reserved, or it is `last`
in some case. -/
theorem parse_comparison_iff {word : String} (h : IsWord word) (e : Expr) :
    parse (word ++ " = 1") = .ok e ↔
      e = .predicate (.compare word .eq (.number 1)) ∧
        (isReserved word = false ∨ sameAsciiCase word "last" = true) := by
  rw [parse_iff_of_scans (scans_comparison h)]
  rcases wordKind_cases word.toList with ⟨k, hk, hlower, hkind⟩ | ⟨hother, hkind⟩
  · have hreserved : isReserved word = true := isReserved_iff.mpr (.inl ⟨k, hk, hlower⟩)
    refine iff_of_false (hkind ▸ not_phrase_of_keyword hk _) ?_
    rintro ⟨-, hfree | hlast⟩
    · exact absurd hreserved (hfree ▸ nofun)
    · have hne : ∀ k ∈ keywords, k.1.toList ≠ "last".toList.map Char.toLower := by decide
      exact hne k hk (hlower.symm.trans (sameAsciiCase_iff.mp hlast))
  · rw [hkind, phrase_comparison_iff, String.ofList_toList,
      and_iff_left (free_of_not_keyword hother)]

/-- The dot stays in the lower-case form, so the word is not `in`. -/
theorem parse_comparison_iff_dotted :
    IsWord "İN" ∧ parse ("İN" ++ " = 1") = .ok (.predicate (.compare "İN" .eq (.number 1))) := by
  have hword : IsWord "İN" := ⟨_, _, rfl, rfl, by decide +kernel⟩
  exact ⟨hword, (parse_comparison_iff hword _).mpr ⟨rfl, .inl (by decide)⟩⟩

/-- **A reserved word names a field**: `last`. -/
theorem last_names_field :
    IsWord "last" ∧ isReserved "last" = true ∧
      parse ("last" ++ " = 1") = .ok (.predicate (.compare "last" .eq (.number 1))) :=
  ⟨⟨_, _, rfl, rfl, by decide⟩, by decide, rfl⟩

end ForgeBoard.Filter
