import ForgeBoard.Proofs.Text.Blank

/-!
# Reading a search string back

A search string is a list of items with blanks between them; a parenthesis is an item of its own,
whether or not blanks stand around it. Under a truth assignment to terms, `meaning?` reads the items
from left to right, with one `Frame` for each parenthesis that is open:

* items side by side are all required, and the empty string requires nothing;
* `OR` ends an alternative, so it binds looser than items side by side;
* `-t` requires that the term `t` does not hold, and any other item is a term.

`Says V s b`: wherever the string `s` stands among other items, reading it requires `b`. Strings
are put together by `Says.beside`, `Says.choice` and `says_choice_of_list`.
-/

namespace ForgeBoard.Query.Search

open Text

/-! ## The reading -/

/-- A parenthesis is set off from what stands beside it. -/
def setOff (c : Char) : List Char :=
  if c = '(' ∨ c = ')' then [' ', c, ' '] else [c]

/-- The items of a search string. -/
def items (query : String) : List String :=
  words (String.ofList (query.toList.flatMap setOff))

/-- What has been read of an open parenthesis: whether an alternative that has ended holds, and
whether the items of the current one hold. -/
structure Frame where
  ended : Bool
  current : Bool
  deriving DecidableEq

namespace Frame

/-- Nothing has been read. -/
def fresh : Frame := ⟨false, true⟩

/-- One of the alternatives holds. -/
def holds (f : Frame) : Bool :=
  f.ended || f.current

/-- The current alternative requires `b` as well. -/
def require (f : Frame) (b : Bool) : Frame :=
  ⟨f.ended, f.current && b⟩

/-- The current alternative ends. -/
def alternative (f : Frame) : Frame :=
  ⟨f.holds, true⟩

end Frame

/-- What a single item requires: its term, or after a minus sign that the term does not hold. -/
def itemHolds (V : String → Bool) (item : String) : Bool :=
  match item.toList with
  | '-' :: term => !V (String.ofList term)
  | _ => V item

/-- Closes the innermost frame: the one around it requires one of its alternatives. -/
def Frame.close (f : Frame) : List Frame → Option (List Frame)
  | [] => none
  | g :: outer => some (g.require f.holds :: outer)

/-- Reads one item, with the innermost frame in front. -/
def readItem (V : String → Bool) (item : String) : List Frame → Option (List Frame)
  | [] => none
  | f :: outer =>
    if item = "(" then some (.fresh :: f :: outer)
    else if item = ")" then f.close outer
    else if item = "OR" then some (f.alternative :: outer)
    else some (f.require (itemHolds V item) :: outer)

/-- Reads items from left to right. -/
def readItems (V : String → Bool) : List String → List Frame → Option (List Frame)
  | [], frames => some frames
  | item :: rest, frames => (readItem V item frames).bind (readItems V rest)

/-- Whether a search string holds under a truth assignment, unless its parentheses do not match. -/
def meaning? (V : String → Bool) (query : String) : Option Bool :=
  match readItems V (items query) [.fresh] with
  | some [f] => some f.holds
  | _ => none

/-! ## Items of strings put together -/

theorem items_beside (s t : String) : items (s ++ " " ++ t) = items s ++ items t := by
  unfold items
  rw [String.toList_append, String.toList_append, List.append_assoc, List.flatMap_append]
  exact words_append_blank rfl _ _

theorem items_open (s : String) : items ("(" ++ s) = "(" :: items s := by
  have hparen : words (String.ofList ['(']) = ["("] :=
    words_of_no_blank (List.cons_ne_nil _ _) (List.forall_mem_singleton.mpr rfl)
  have hsplit : ("(" ++ s).toList.flatMap setOff =
      [] ++ ' ' :: (['('] ++ ' ' :: s.toList.flatMap setOff) := by
    rw [String.toList_append, List.flatMap_append]
    rfl
  unfold items
  rw [hsplit, words_append_blank rfl, words_append_blank rfl, hparen, String.ofList_nil,
    words_empty, List.nil_append, List.singleton_append]

theorem items_close (s : String) : items (s ++ ")") = items s ++ [")"] := by
  have hparen : words (String.ofList [')']) = [")"] :=
    words_of_no_blank (List.cons_ne_nil _ _) (List.forall_mem_singleton.mpr rfl)
  have hsplit : (s ++ ")").toList.flatMap setOff =
      s.toList.flatMap setOff ++ ' ' :: ([')'] ++ ' ' :: []) := by
    rw [String.toList_append, List.flatMap_append]
    rfl
  unfold items
  rw [hsplit, words_append_blank rfl, words_append_blank rfl, hparen, String.ofList_nil,
    words_empty, List.append_nil]

/-- A character that neither ends an item nor is one of its own. -/
def isItemChar (c : Char) : Bool :=
  !isBlank c && c != '(' && c != ')'

/-- A text that is one item. -/
structure IsItem (s : String) : Prop where
  ne_empty : s ≠ ""
  chars : ∀ c ∈ s.toList, isItemChar c = true

instance (s : String) : Decidable (IsItem s) :=
  decidable_of_iff (s ≠ "" ∧ s.toList.all isItemChar = true)
    ⟨fun ⟨hne, hc⟩ => ⟨hne, List.all_eq_true.mp hc⟩,
      fun ⟨hne, hc⟩ => ⟨hne, List.all_eq_true.mpr hc⟩⟩

/-- An item that is a term, not `OR` and without a minus sign in front. -/
structure IsTerm (s : String) : Prop extends IsItem s where
  ne_or : s ≠ "OR"
  head : s.toList.head? ≠ some '-'

theorem not_isBlank_of_isItemChar {c : Char} (h : isItemChar c = true) : isBlank c = false := by
  simp only [isItemChar, Bool.and_eq_true, Bool.not_eq_true'] at h
  exact h.1.1

theorem setOff_of_isItemChar {c : Char} (h : isItemChar c = true) : setOff c = [c] := by
  simp only [isItemChar, Bool.and_eq_true, bne_iff_ne] at h
  exact if_neg (not_or.mpr ⟨h.1.2, h.2⟩)

theorem IsItem.items_eq {s : String} (h : IsItem s) : items s = [s] := by
  have hset : s.toList.flatMap setOff = s.toList := by
    rw [List.flatMap_congr fun c hc => setOff_of_isItemChar (h.chars c hc),
      List.flatMap_singleton']
  have hne : s.toList ≠ [] := fun hnil => h.ne_empty (String.toList_eq_nil_iff.mp hnil)
  unfold items
  rw [hset, words_of_no_blank hne fun c hc => not_isBlank_of_isItemChar (h.chars c hc),
    String.ofList_toList]

theorem IsItem.tight {s : String} (h : IsItem s) : Tight s :=
  tight_of_no_blank h.ne_empty fun c hc => not_isBlank_of_isItemChar (h.chars c hc)

/-! ## Reading strings put together -/

variable {V : String → Bool} {s t : String} {a b : Bool} {f g : Frame} {outer : List Frame}

theorem readItems_append (xs ys : List String) (frames : List Frame) :
    readItems V (xs ++ ys) frames = (readItems V xs frames).bind (readItems V ys) := by
  induction xs generalizing frames with
  | nil => rfl
  | cons x xs ih =>
    rw [List.cons_append, readItems, readItems, Option.bind_assoc]
    exact congrArg _ (funext fun frames => ih frames)

theorem readItems_open (rest : List String) :
    readItems V ("(" :: rest) (f :: outer) = readItems V rest (.fresh :: f :: outer) :=
  rfl

theorem readItems_close :
    readItems V [")"] (f :: g :: outer) = some (g.require f.holds :: outer) :=
  rfl

theorem readItems_or (rest : List String) :
    readItems V ("OR" :: rest) (f :: outer) = readItems V rest (f.alternative :: outer) :=
  rfl

/-- Wherever `s` stands among other items, it requires `b`. -/
structure Says (V : String → Bool) (s : String) (b : Bool) : Prop where
  tight : Tight s
  reads : ∀ f outer, readItems V (items s) (f :: outer) = some (f.require b :: outer)

/-- After `OR` or an opening parenthesis, `s` offers alternatives one of which holds iff `b`. -/
structure Offers (V : String → Bool) (s : String) (b : Bool) : Prop where
  tight : Tight s
  reads : ∀ ended outer, ∃ f : Frame,
    readItems V (items s) (⟨ended, true⟩ :: outer) = some (f :: outer) ∧ f.holds = (ended || b)

theorem says_item (h : IsItem s) (hor : s ≠ "OR") : Says V s (itemHolds V s) := by
  refine ⟨h.tight, fun f outer => ?_⟩
  have hopen : s ≠ "(" := by
    rintro rfl
    exact absurd (h.chars '(' List.mem_cons_self) (by decide)
  have hclose : s ≠ ")" := by
    rintro rfl
    exact absurd (h.chars ')' List.mem_cons_self) (by decide)
  rw [h.items_eq, readItems, readItem, if_neg hopen, if_neg hclose, if_neg hor]
  rfl

/-- A term is required as it is. -/
theorem says_term (h : IsTerm s) : Says V s (V s) := by
  have hholds : itemHolds V s = V s := by
    unfold itemHolds
    split
    · next term hterm => exact absurd (hterm ▸ rfl) h.head
    · rfl
  exact hholds ▸ says_item h.toIsItem h.ne_or

/-- After a minus sign a term is excluded. -/
theorem says_excluded (h : IsTerm s) : Says V ("-" ++ s) (!V s) := by
  have hchars : ("-" ++ s).toList = '-' :: s.toList := String.toList_append
  have hitem : IsItem ("-" ++ s) := by
    refine ⟨fun he => ?_, fun c hc => ?_⟩
    · rw [he] at hchars
      exact absurd hchars nofun
    · rw [hchars] at hc
      rcases List.mem_cons.mp hc with rfl | hc
      · decide
      · exact h.chars c hc
  have hor : "-" ++ s ≠ "OR" := by
    intro he
    rw [he] at hchars
    exact absurd (List.head_eq_of_cons_eq hchars) (by decide)
  have hholds : itemHolds V ("-" ++ s) = !V s := by
    unfold itemHolds
    rw [hchars]
    show (!V (String.ofList s.toList)) = _
    rw [String.ofList_toList]
  exact hholds ▸ says_item hitem hor

/-- Strings side by side are both required. -/
theorem Says.beside (hs : Says V s a) (ht : Says V t b) : Says V (s ++ " " ++ t) (a && b) := by
  refine ⟨hs.tight.append ht.tight " ", fun f outer => ?_⟩
  rw [items_beside, readItems_append, hs.reads, Option.bind_some, ht.reads, Frame.require,
    Frame.require, Frame.require, Bool.and_assoc]

theorem Says.offers (hs : Says V s a) : Offers V s a := by
  refine ⟨hs.tight, fun ended outer => ⟨⟨ended, a⟩, ?_, rfl⟩⟩
  rw [hs.reads, Frame.require, Bool.true_and]

theorem items_or (s t : String) : items (s ++ " OR " ++ t) = items s ++ "OR" :: items t := by
  have hitem : IsItem "OR" := by decide
  have hsplit : s ++ " OR " ++ t = s ++ " " ++ ("OR" ++ " " ++ t) := by
    have hword : " OR " = " " ++ "OR" ++ " " := rfl
    rw [hword]
    simp only [String.append_assoc]
  rw [hsplit, items_beside, items_beside, hitem.items_eq, List.singleton_append]

theorem Offers.or (hs : Offers V s a) (ht : Offers V t b) :
    Offers V (s ++ " OR " ++ t) (a || b) := by
  refine ⟨hs.tight.append ht.tight " OR ", fun ended outer => ?_⟩
  obtain ⟨f, hf, hfa⟩ := hs.reads ended outer
  obtain ⟨g, hg, hgb⟩ := ht.reads f.holds outer
  refine ⟨g, ?_, by rw [hgb, hfa, Bool.or_assoc]⟩
  rw [items_or, readItems_append, hf, Option.bind_some, readItems_or]
  exact hg

/-- A group requires one of its alternatives. -/
theorem Offers.group (hs : Offers V s a) : Says V ("(" ++ s ++ ")") a := by
  refine ⟨?_, fun f outer => ?_⟩
  · have hopen : Tight "(" := tight_of_no_blank nofun (List.forall_mem_singleton.mpr rfl)
    have hclose : Tight ")" := tight_of_no_blank nofun (List.forall_mem_singleton.mpr rfl)
    exact hopen.append hclose s
  · obtain ⟨g, hg, hga⟩ := hs.reads false (f :: outer)
    have hitems : items ("(" ++ s ++ ")") = "(" :: (items s ++ [")"]) := by
      rw [items_close, items_open, List.cons_append]
    rw [hitems, readItems_open, readItems_append]
    show (readItems V (items s) (⟨false, true⟩ :: f :: outer)).bind _ = _
    rw [hg, Option.bind_some, readItems_close, hga, Bool.false_or]

/-- A list of alternatives. -/
theorem offers_intercalate {α : Type} {xs : List α} {term : α → String} {holds : α → Bool}
    (hne : xs ≠ []) (h : ∀ x ∈ xs, Says V (term x) (holds x)) :
    Offers V (String.intercalate " OR " (xs.map term)) (xs.any holds) := by
  induction xs with
  | nil => exact absurd rfl hne
  | cons x xs ih =>
    obtain ⟨hx, hxs⟩ := List.forall_mem_cons.mp h
    cases xs with
    | nil => simpa using hx.offers
    | cons y xs =>
      rw [List.map_cons, List.map_cons, String.intercalate_cons_cons, List.any_cons]
      exact hx.offers.or (ih (List.cons_ne_nil y xs) hxs)

/-- A list of strings side by side. -/
theorem says_intercalate {α : Type} {xs : List α} {term : α → String} {holds : α → Bool}
    (hne : xs ≠ []) (h : ∀ x ∈ xs, Says V (term x) (holds x)) :
    Says V (String.intercalate " " (xs.map term)) (xs.all holds) := by
  induction xs with
  | nil => exact absurd rfl hne
  | cons x xs ih =>
    obtain ⟨hx, hxs⟩ := List.forall_mem_cons.mp h
    cases xs with
    | nil => simpa using hx
    | cons y xs =>
      rw [List.map_cons, List.map_cons, String.intercalate_cons_cons, List.all_cons]
      exact hx.beside (ih (List.cons_ne_nil y xs) hxs)

/-- A string that says something has it for a meaning. -/
theorem Says.meaning_eq (h : Says V s a) : meaning? V s = some a := by
  unfold meaning?
  rw [h.reads]
  rfl

example : meaning? (· == "b") "(a OR b c) -c" = some false := by
  decide

/-- Nothing is required by the empty string. -/
theorem meaning_empty : meaning? V "" = some true :=
  rfl

end ForgeBoard.Query.Search
