import ForgeBoard.Proofs.Text.Blank
import Mathlib.Data.List.TakeWhile

/-!
# Where words stand

`WordAt s before w after`: the text consists of `before`, `w` and `after`, and `w` is a word there,
with a blank or an end of the text on either side.

* `mem_words_iff`: the words of a text are those that stand somewhere in it.
* `wordAt_padded_iff`: blanks around a text are around every word of it, and otherwise the words
  stand where they did. So trimming moves no word.
-/

namespace ForgeBoard.Text

variable {s t w : String} {cs xs ys before word after front behind : List Char} {c : Char}

/-! ## Words at their places -/

/-- The second one of three pieces of a text is a word of it. -/
structure WordAt (s : String) (before word after : List Char) : Prop where
  text : s.toList = before ++ word ++ after
  ne_nil : word ≠ []
  noBlank : ∀ c ∈ word, isBlank c = false
  front : ∀ c ∈ before.getLast?, isBlank c = true
  behind : ∀ c ∈ after.head?, isBlank c = true

theorem words_append_of_front (h : ∀ c ∈ xs.getLast?, isBlank c = true) (ys : List Char) :
    words (String.ofList (xs ++ ys)) = words (String.ofList xs) ++ words (String.ofList ys) := by
  rcases List.eq_nil_or_concat xs with rfl | ⟨init, c, rfl⟩
  · rfl
  · have hc : isBlank c = true := h c (by simp)
    have hinit := words_append_blank hc init []
    rw [String.ofList_nil, words_empty, List.append_nil] at hinit
    rw [List.concat_eq_append, hinit, List.append_assoc, List.singleton_append,
      words_append_blank hc]

theorem words_append_of_behind (h : ∀ c ∈ ys.head?, isBlank c = true) (xs : List Char) :
    words (String.ofList (xs ++ ys)) = words (String.ofList xs) ++ words (String.ofList ys) := by
  cases ys with
  | nil => simp
  | cons c ys =>
    have hc : isBlank c = true := h c rfl
    have hys := words_append_blank hc [] ys
    rw [String.ofList_nil, words_empty, List.nil_append, List.nil_append] at hys
    rw [words_append_blank hc, hys]

theorem WordAt.mem_words (h : WordAt s before word after) : String.ofList word ∈ words s := by
  rw [← String.ofList_toList (s := s), h.text, words_append_of_behind h.behind,
    words_append_of_front h.front, words_of_no_blank h.ne_nil h.noBlank]
  simp

theorem exists_wordAt_of_mem (cs : List Char) (h : w ∈ words (String.ofList cs)) :
    ∃ before after, WordAt (String.ofList cs) before w.toList after := by
  -- a blank divides the text into two shorter ones, and a word of one of them stands in the whole
  by_cases hblank : ∃ c ∈ cs, isBlank c = true
  · obtain ⟨c, hmem, hc⟩ := hblank
    obtain ⟨xs, ys, rfl⟩ := List.append_of_mem hmem
    rw [words_append_blank hc] at h
    rcases List.mem_append.mp h with h | h
    · obtain ⟨before, after, hat⟩ := exists_wordAt_of_mem xs h
      have htext := hat.text
      rw [String.toList_ofList] at htext
      refine ⟨before, after ++ c :: ys, ?_, hat.ne_nil, hat.noBlank, hat.front, ?_⟩
      · rw [String.toList_ofList, htext]
        simp only [List.append_assoc]
      · cases after with
        | nil => exact fun d hd => (Option.some.inj hd) ▸ hc
        | cons d after => exact hat.behind
    · obtain ⟨before, after, hat⟩ := exists_wordAt_of_mem ys h
      have htext := hat.text
      rw [String.toList_ofList] at htext
      refine ⟨xs ++ c :: before, after, ?_, hat.ne_nil, hat.noBlank, fun d hd => ?_, hat.behind⟩
      · rw [String.toList_ofList, htext]
        simp only [List.append_assoc, List.cons_append]
      · rw [List.getLast?_append_of_ne_nil _ (List.cons_ne_nil _ _)] at hd
        cases before with
        | nil => exact (Option.some.inj hd) ▸ hc
        | cons e before => exact hat.front d (by rwa [List.getLast?_cons_cons] at hd)
  · have hno : ∀ c ∈ cs, isBlank c = false := by simpa using hblank
    by_cases hnil : cs = []
    · rw [hnil, String.ofList_nil, words_empty] at h
      exact absurd h List.not_mem_nil
    · rw [words_of_no_blank hnil hno] at h
      obtain rfl := List.mem_singleton.mp h
      rw [String.toList_ofList]
      exact ⟨[], [], by simp, hnil, hno, nofun, nofun⟩
termination_by cs.length

/-- **The words of a text** are those that stand somewhere in it. -/
theorem mem_words_iff : w ∈ words s ↔ ∃ before after, WordAt s before w.toList after := by
  constructor
  · intro h
    rw [← String.ofList_toList (s := s)] at h ⊢
    exact exists_wordAt_of_mem s.toList h
  · rintro ⟨before, after, hat⟩
    rw [← String.ofList_toList (s := w)]
    exact hat.mem_words

/-! ## Blanks around a text -/

theorem dropEndWhile_append (p : Char → Bool) (cs : List Char) :
    ∃ ys, cs = dropEndWhile p cs ++ ys ∧ ∀ c ∈ ys, p c = true := by
  refine ⟨(cs.reverse.takeWhile p).reverse, ?_, fun c hc => ?_⟩
  · rw [dropEndWhile, ← List.reverse_append, List.takeWhile_append_dropWhile, List.reverse_reverse]
  · exact List.mem_takeWhile_imp (List.mem_reverse.mp hc)

theorem exists_blanks_trim (s : String) :
    ∃ xs ys, s.toList = xs ++ (trim s).toList ++ ys ∧
      (∀ c ∈ xs, isBlank c = true) ∧ ∀ c ∈ ys, isBlank c = true := by
  obtain ⟨ys, hys, hblank⟩ := dropEndWhile_append isBlank (s.toList.dropWhile isBlank)
  refine ⟨s.toList.takeWhile isBlank, ys, ?_, fun c hc => List.mem_takeWhile_imp hc, hblank⟩
  rw [trim, String.toList_ofList, trimChars, List.append_assoc, ← hys,
    List.takeWhile_append_dropWhile]

/-- What begins with a word does not begin inside blanks. -/
theorem eq_append_of_word_front (hword : word ≠ []) (hno : ∀ c ∈ word, isBlank c = false)
    (hblank : ∀ c ∈ xs, isBlank c = true) (h : before ++ (word ++ after) = xs ++ cs) :
    ∃ front, before = xs ++ front ∧ front ++ (word ++ after) = cs := by
  rcases List.append_eq_append_iff.mp h with ⟨rest, rfl, hrest⟩ | ⟨front, rfl, hrest⟩
  · cases rest with
    | nil => exact ⟨[], by simp, hrest⟩
    | cons c rest =>
      obtain ⟨d, word, rfl⟩ := List.exists_cons_of_ne_nil hword
      obtain ⟨rfl, -⟩ := List.cons.inj hrest
      have hc := hblank d (List.mem_append_right _ List.mem_cons_self)
      exact absurd (hc.symm.trans (hno d List.mem_cons_self)) nofun
  · exact ⟨front, rfl, hrest.symm⟩

/-- What ends with a word does not end inside blanks. -/
theorem eq_append_of_word_behind (hword : word ≠ []) (hno : ∀ c ∈ word, isBlank c = false)
    (hblank : ∀ c ∈ ys, isBlank c = true) (h : before ++ word ++ after = cs ++ ys) :
    ∃ behind, after = behind ++ ys ∧ before ++ word ++ behind = cs := by
  have hmirror : after.reverse ++ (word.reverse ++ before.reverse) = ys.reverse ++ cs.reverse := by
    simpa using congrArg List.reverse h
  obtain ⟨front, hfront, hcs⟩ := eq_append_of_word_front (mt List.reverse_eq_nil_iff.mp hword)
    (fun c hc => hno c (List.mem_reverse.mp hc)) (fun c hc => hblank c (List.mem_reverse.mp hc))
    hmirror
  refine ⟨front.reverse, ?_, ?_⟩
  · simpa using congrArg List.reverse hfront
  · simpa using congrArg List.reverse hcs

/-- **Blanks around a text** are around its words. -/
theorem wordAt_padded_iff (hs : s.toList = xs ++ t.toList ++ ys)
    (hxs : ∀ c ∈ xs, isBlank c = true) (hys : ∀ c ∈ ys, isBlank c = true) :
    WordAt s before word after ↔
      ∃ front behind, before = xs ++ front ∧ after = behind ++ ys ∧
        WordAt t front word behind := by
  constructor
  · rintro ⟨htext, hne, hno, hfront, hbehind⟩
    rw [hs] at htext
    obtain ⟨behind, hafter, hrest⟩ := eq_append_of_word_behind hne hno hys htext.symm
    rw [List.append_assoc] at hrest
    obtain ⟨front, hbefore, hinner⟩ := eq_append_of_word_front hne hno hxs hrest
    subst hafter hbefore
    refine ⟨front, behind, rfl, rfl, ?_, hne, hno, fun c hc => hfront c ?_,
      fun c hc => hbehind c ?_⟩
    · rw [List.append_assoc]
      exact hinner.symm
    · rw [List.getLast?_append_of_ne_nil _ (List.ne_nil_of_mem (List.mem_of_getLast? hc))]
      exact hc
    · rw [List.head?_append_of_ne_nil _ (List.ne_nil_of_mem (List.mem_of_head? hc))]
      exact hc
  · rintro ⟨front, behind, rfl, rfl, htext, hne, hno, hfront, hbehind⟩
    refine ⟨?_, hne, hno, fun c hc => ?_, fun c hc => ?_⟩
    · rw [hs, htext]
      simp only [List.append_assoc]
    · rw [List.getLast?_append] at hc
      rcases Option.or_eq_some_iff.mp hc with hc | ⟨-, hc⟩
      · exact hfront c hc
      · exact hxs c (List.mem_of_getLast? hc)
    · rw [List.head?_append] at hc
      rcases Option.or_eq_some_iff.mp hc with hc | ⟨-, hc⟩
      · exact hbehind c hc
      · exact hys c (List.mem_of_head? hc)

end ForgeBoard.Text
