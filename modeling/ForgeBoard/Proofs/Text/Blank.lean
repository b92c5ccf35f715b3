import ForgeBoard.Text.Parts
import Mathlib.Data.List.DropRight

/-!
# Blanks, words and trimming

* `pieces_append_mark`, `segments_slash`, `words_append_blank`: a text is divided at any one mark of
  it.
* `eq_false_of_isBlank`: what holds of none of the blanks, asked of each (`blankCodes`).
* `Tight cs`: a text that neither begins nor ends with a blank. It is its own trimmed form
  (`trim_of_tight`), and whatever stands between two of them makes one of them (`Tight.append`).
-/

namespace ForgeBoard.Text

/-! ## Pieces -/

variable {isMark : Char → Bool} {c : Char} {cs : List Char}

theorem pieces_ne_nil (isMark : Char → Bool) (cs : List Char) : pieces isMark cs ≠ [] := by
  induction cs with
  | nil => exact List.cons_ne_nil _ _
  | cons c cs ih =>
    unfold pieces
    split
    · exact List.cons_ne_nil _ _
    · split <;> exact List.cons_ne_nil _ _

theorem pieces_cons_of_not_mark (h : isMark c = false) {piece : List Char}
    {more : List (List Char)} (hcs : pieces isMark cs = piece :: more) :
    pieces isMark (c :: cs) = (c :: piece) :: more := by
  rw [pieces, if_neg (by simp [h]), hcs]

/-- **A mark divides the pieces** before it from those after it. -/
theorem pieces_append_mark (h : isMark c = true) (xs ys : List Char) :
    pieces isMark (xs ++ c :: ys) = pieces isMark xs ++ pieces isMark ys := by
  induction xs with
  | nil =>
    show (if isMark c then _ else _) = _
    rw [if_pos h]
    rfl
  | cons x xs ih =>
    cases hx : isMark x with
    | true => rw [List.cons_append, pieces, if_pos hx, ih, pieces, if_pos hx, List.cons_append]
    | false =>
      obtain ⟨piece, more, hxs⟩ := List.exists_cons_of_ne_nil (pieces_ne_nil isMark xs)
      rw [hxs, List.cons_append] at ih
      rw [List.cons_append, pieces_cons_of_not_mark hx ih, pieces_cons_of_not_mark hx hxs,
        List.cons_append]

theorem pieces_of_no_mark (h : ∀ c ∈ cs, isMark c = false) : pieces isMark cs = [cs] := by
  induction cs with
  | nil => rfl
  | cons c cs ih =>
    obtain ⟨hc, hcs⟩ := List.forall_mem_cons.mp h
    exact pieces_cons_of_not_mark hc (ih hcs)

/-- The parts of a path between its slashes. -/
def segments (cs : List Char) : List (List Char) :=
  pieces (· == '/') cs

theorem segments_slash (xs ys : List Char) :
    segments (xs ++ '/' :: ys) = segments xs ++ segments ys :=
  pieces_append_mark rfl xs ys

theorem segments_of_no_slash (h : '/' ∉ cs) : segments cs = [cs] := by
  refine pieces_of_no_mark fun c hc => beq_eq_false_iff_ne.mpr ?_
  rintro rfl
  exact h hc

/-! ## Blanks -/

/-- The code points of the blanks. -/
def blankCodes : List Nat :=
  [9, 10, 11, 12, 13, 0x20, 0x85, 0xa0, 0x1680, 0x2000, 0x2001, 0x2002, 0x2003, 0x2004, 0x2005,
    0x2006, 0x2007, 0x2008, 0x2009, 0x200a, 0x2028, 0x2029, 0x202f, 0x205f, 0x3000]

theorem mem_blankCodes_of_isBlank (h : isBlank c = true) : c.toNat ∈ blankCodes := by
  simp only [isBlank, Bool.or_eq_true, Bool.and_eq_true, decide_eq_true_eq, beq_iff_eq] at h
  simp only [blankCodes, List.mem_cons, List.not_mem_nil, or_false]
  omega

/-- What no blank satisfies, told by the blanks one by one. -/
theorem eq_false_of_isBlank {p : Char → Bool} (hp : ∀ n ∈ blankCodes, p (Char.ofNat n) = false)
    (h : isBlank c = true) : p c = false := by
  rw [← Char.ofNat_toNat c]
  exact hp _ (mem_blankCodes_of_isBlank h)

/-- What a character satisfies that is no blank. -/
theorem isBlank_eq_false {p : Char → Bool} (hp : ∀ n ∈ blankCodes, p (Char.ofNat n) = false)
    (h : p c = true) : isBlank c = false := by
  refine Bool.eq_false_iff.mpr fun hblank => ?_
  exact Bool.false_ne_true ((eq_false_of_isBlank hp hblank).symm.trans h)

theorem isBlank_of_isDigit {c : Char} (h : c.isDigit = true) : isBlank c = false :=
  isBlank_eq_false (by decide) h

/-! ## Words -/

theorem words_append_blank (h : isBlank c = true) (xs ys : List Char) :
    words (String.ofList (xs ++ c :: ys)) =
      words (String.ofList xs) ++ words (String.ofList ys) := by
  simp only [words, String.toList_ofList, pieces_append_mark h, List.filter_append,
    List.map_append]

theorem words_of_no_blank (hne : cs ≠ []) (h : ∀ c ∈ cs, isBlank c = false) :
    words (String.ofList cs) = [String.ofList cs] := by
  simp [words, String.toList_ofList, pieces_of_no_mark h, hne]

@[simp]
theorem words_empty : words "" = [] :=
  rfl

/-! ## Trimming -/

/-- A text that neither begins nor ends with a blank. -/
structure Tight (s : String) : Prop where
  ne_empty : s ≠ ""
  head : ∀ c ∈ s.toList.head?, isBlank c = false
  last : ∀ c ∈ s.toList.getLast?, isBlank c = false

theorem tight_of_no_blank {s : String} (hne : s ≠ "") (h : ∀ c ∈ s.toList, isBlank c = false) :
    Tight s :=
  ⟨hne, fun c hc => h c (List.mem_of_head? hc), fun c hc => h c (List.mem_of_getLast? hc)⟩

theorem Tight.toList_ne_nil {s : String} (h : Tight s) : s.toList ≠ [] :=
  fun he => h.ne_empty (String.toList_eq_nil_iff.mp he)

/-- The ends decide. -/
theorem Tight.append {s t : String} (hs : Tight s) (ht : Tight t) (mid : String) :
    Tight (s ++ mid ++ t) := by
  refine ⟨?_, ?_, ?_⟩
  · intro h
    have hnil := String.toList_eq_nil_iff.mpr h
    rw [String.toList_append, String.toList_append, List.append_assoc] at hnil
    exact hs.toList_ne_nil (List.append_eq_nil_iff.mp hnil).1
  · intro c hc
    rw [String.toList_append, String.toList_append, List.append_assoc,
      List.head?_append_of_ne_nil _ hs.toList_ne_nil] at hc
    exact hs.head c hc
  · intro c hc
    rw [String.toList_append, List.getLast?_append_of_ne_nil _ ht.toList_ne_nil] at hc
    exact ht.last c hc

theorem dropWhile_of_head {p : Char → Bool} (h : ∀ c ∈ cs.head?, p c = false) :
    cs.dropWhile p = cs := by
  cases cs with
  | nil => rfl
  | cons c cs => exact List.dropWhile_cons_of_neg (by simp [h c rfl])

theorem trim_of_tight {s : String} (h : Tight s) : trim s = s := by
  unfold trim trimChars dropEndWhile
  rw [dropWhile_of_head h.head, dropWhile_of_head, List.reverse_reverse, String.ofList_toList]
  intro c hc
  rw [List.head?_reverse] at hc
  exact h.last c hc

/-- What trimming leaves of a text that is not blank. -/
theorem tight_trim {s : String} (h : trim s ≠ "") : Tight (trim s) := by
  have hne : (s.toList.dropWhile isBlank).rdropWhile isBlank ≠ [] :=
    fun hnil => h (congrArg String.ofList hnil)
  refine ⟨h, fun c hc => ?_, fun c hc => ?_⟩
  · rw [trim, String.toList_ofList] at hc
    obtain ⟨rest, hrest⟩ := List.rdropWhile_prefix isBlank (s.toList.dropWhile isBlank)
    have hhead : c ∈ (s.toList.dropWhile isBlank).head? := by
      rw [← hrest, List.head?_append_of_ne_nil _ hne]
      exact hc
    have := List.head?_dropWhile_not isBlank s.toList
    rw [hhead] at this
    exact this
  · rw [trim, String.toList_ofList, trimChars, dropEndWhile, List.getLast?_reverse] at hc
    have := List.head?_dropWhile_not isBlank (s.toList.dropWhile isBlank).reverse
    rw [hc] at this
    exact this

theorem trimChars_eq_nil_iff : trimChars cs = [] ↔ ∀ c ∈ cs, isBlank c = true := by
  constructor
  · intro h
    have hblank := List.rdropWhile_eq_nil_iff.mp h
    cases hdrop : cs.dropWhile isBlank with
    | nil => exact List.dropWhile_eq_nil_iff.mp hdrop
    | cons d ds =>
      -- the first of what is left is no blank
      have hd := List.head?_dropWhile_not isBlank cs
      rw [hdrop] at hd hblank
      exact absurd ((hblank d List.mem_cons_self).symm.trans hd) nofun
  · intro h
    rw [trimChars, List.dropWhile_eq_nil_iff.mpr h]
    rfl

theorem trim_eq_empty_iff {s : String} : trim s = "" ↔ isBlankText s = true := by
  rw [trim, String.ofList_eq_empty_iff, trimChars_eq_nil_iff, isBlankText, List.all_eq_true]

theorem Tight.isBlankText_eq_false {s : String} (h : Tight s) : isBlankText s = false := by
  refine Bool.eq_false_iff.mpr fun hblank => h.ne_empty ?_
  rw [← trim_of_tight h]
  exact trim_eq_empty_iff.mpr hblank

theorem trim_ne_empty_of_mem {s : String} {c : Char} (hmem : c ∈ s.toList)
    (hc : isBlank c = false) : trim s ≠ "" := by
  intro h
  have hblank := List.all_eq_true.mp (trim_eq_empty_iff.mp h) c hmem
  exact absurd (hblank.symm.trans hc) nofun

@[simp]
theorem trim_trim (s : String) : trim (trim s) = trim s := by
  by_cases h : trim s = ""
  · rw [h]
    rfl
  · exact trim_of_tight (tight_trim h)

end ForgeBoard.Text
