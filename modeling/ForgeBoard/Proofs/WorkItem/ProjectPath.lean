import ForgeBoard.Proofs.Text.Blank
import ForgeBoard.WorkItem.Basic
import Mathlib.Data.List.Infix

/-!
# The path of a project is found again

GitLab writes the path of a project in front of the number of an item, and into its web address
between the host and the segment that is a single hyphen. All cuts are made at the first place where
a separator occurs.

* `splitFirst_of_first`, `splitFirst_eq_none_iff`: what is cut off, and when nothing is.
  `splitFirst_of_not_mem` is the case of a separator whose first character has not occurred yet.
* `pathOfReference?_mark`, `pathOfReference?_eq_none`: references that name a project, and those
  that name none.
* `IsProjectPath`: what a path has to be like in an address. Its slashes could be taken for the
  separator only if one of its segments were a hyphen (`not_isPrefix_of_segments`).

Result: `projectPath_found`.
-/

namespace ForgeBoard

open Text

variable {separator before after cs : List Char} {c : Char}

/-! ## The first occurrence of a separator -/

/-- Nothing begins with the separator before `after` does so, from any character of `before` on. -/
theorem splitFirst_of_first
    (h : ∀ front d rest, before = front ++ d :: rest →
      ¬ separator <+: (d :: rest) ++ separator ++ after) :
    splitFirst separator (before ++ separator ++ after) = some (before, after) := by
  induction before with
  | nil =>
    rw [List.nil_append]
    cases separator with
    | nil => cases after <;> rfl
    | cons s separator =>
      have hprefix : (s :: separator).isPrefixOf (s :: separator ++ after) = true :=
        List.isPrefixOf_iff_prefix.mpr (List.prefix_append _ _)
      rw [List.cons_append] at hprefix ⊢
      rw [splitFirst, if_pos hprefix, ← List.cons_append, List.drop_left]
  | cons d before ih =>
    have hfirst : ¬ separator.isPrefixOf (d :: (before ++ separator ++ after)) = true :=
      fun hprefix => h [] d before rfl (List.isPrefixOf_iff_prefix.mp hprefix)
    rw [List.cons_append, List.cons_append, splitFirst, if_neg hfirst,
      ih fun front e rest hbefore => h (d :: front) e rest (by rw [hbefore, List.cons_append])]
    rfl

/-- A separator begins at the first occurrence of its first character. -/
theorem splitFirst_of_not_mem (h : c ∉ before) (separator after : List Char) :
    splitFirst (c :: separator) (before ++ c :: separator ++ after) = some (before, after) := by
  refine splitFirst_of_first fun front d rest hbefore hprefix => h ?_
  obtain ⟨rfl, -⟩ := List.cons_prefix_cons.mp hprefix
  rw [hbefore]
  exact List.mem_append_right _ List.mem_cons_self

/-- Nothing is cut off iff the separator does not occur. -/
theorem splitFirst_eq_none_iff : splitFirst separator cs = none ↔ ¬ separator <:+: cs := by
  induction cs with
  | nil => cases separator <;> simp [splitFirst]
  | cons d cs ih =>
    rw [List.infix_cons_iff, ← List.isPrefixOf_iff_prefix, splitFirst, not_or, ← ih]
    split <;> simp_all

/-! ## References -/

/-- The marks in front of the number of an item. -/
def isMark (c : Char) : Bool :=
  c == '!' || c == '#'

theorem isMark_mark (t : ItemType) : isMark t.mark = true := by
  cases t <;> rfl

theorem not_isBlank_of_isMark (h : isMark c = true) : isBlank c = false :=
  isBlank_eq_false (by decide) h

theorem any_isMark_append_cons (h : isMark c = true) :
    (before ++ c :: after).any isMark = true := by
  simp [h]

theorem takeWhile_not_isMark (hbefore : ∀ d ∈ before, isMark d = false) (h : isMark c = true) :
    (before ++ c :: after).takeWhile (!isMark ·) = before := by
  rw [List.takeWhile_append_of_pos (by simpa using hbefore),
    List.takeWhile_cons_of_neg (by simp [h]), List.append_nil]

/-- **What stands before the first mark** is the path, without the blanks around it. -/
theorem pathOfReference?_mark (hbefore : ∀ d ∈ before, isMark d = false) (h : isMark c = true) :
    pathOfReference? (before ++ c :: after) =
      if (trimChars before).isEmpty then none else some (trimChars before) := by
  change (if (before ++ c :: after).any isMark then
    let path := trimChars ((before ++ c :: after).takeWhile (!isMark ·))
    if path.isEmpty then none else some path else none) = _
  rw [if_pos (any_isMark_append_cons h), takeWhile_not_isMark hbefore h]

/-- The reference has no mark, or only blanks before its first one. -/
def NamesNoProject (reference : String) : Prop :=
  (∀ c ∈ reference.toList, isMark c = false) ∨
    ∃ before c after, reference.toList = before ++ c :: after ∧ isMark c = true ∧
      ∀ d ∈ before, isBlank d = true

theorem pathOfReference?_eq_none {reference : String} (h : NamesNoProject reference) :
    pathOfReference? reference.toList = none := by
  obtain h | ⟨before, c, after, htext, hc, hblank⟩ := h
  · change (if reference.toList.any isMark then _ else none) = none
    refine if_neg ?_
    rw [List.any_eq_true]
    rintro ⟨c, hmem, hc⟩
    exact absurd (hc.symm.trans (h c hmem)) nofun
  · have hbefore : ∀ d ∈ before, isMark d = false := fun d hd =>
      Bool.eq_false_iff.mpr fun hmark =>
        absurd ((hblank d hd).symm.trans (not_isBlank_of_isMark hmark)) nofun
    rw [htext, pathOfReference?_mark hbefore hc, trimChars_eq_nil_iff.mpr hblank]
    rfl

/-! ## Addresses -/

/-- The path of a project in an address: it does not begin or end with a slash, and no segment of it
is a single hyphen. -/
structure IsProjectPath (path : String) : Prop where
  ne_empty : path ≠ ""
  head : path.toList.head? ≠ some '/'
  last : path.toList.getLast? ≠ some '/'
  segments : ['-'] ∉ segments path.toList

/-- From no character of a path on, the address begins with the segment that is a hyphen: the
slashes of such a segment would both stand in the path, or one of them at its end. -/
theorem not_isPrefix_of_segments (h : ['-'] ∉ segments cs) (after : List Char) :
    ∀ front d rest, cs = front ++ d :: rest →
      ¬ "/-/".toList <+: (d :: rest) ++ "/-/".toList ++ after := by
  rintro front d rest rfl hprefix
  obtain ⟨rfl, hrest⟩ : '/' = d ∧ ['-', '/'] <+: rest ++ "/-/".toList ++ after :=
    List.cons_prefix_cons.mp hprefix
  rw [segments_slash] at h
  match rest with
  | [] => exact absurd (List.cons_prefix_cons.mp hrest).1 (by decide)
  | [e] =>
    obtain ⟨rfl, -⟩ := List.cons_prefix_cons.mp hrest
    exact h (List.mem_append_right _ List.mem_cons_self)
  | e :: f :: rest =>
    obtain ⟨rfl, htail⟩ := List.cons_prefix_cons.mp hrest
    obtain ⟨rfl, -⟩ : '/' = f ∧ _ := List.cons_prefix_cons.mp htail
    have hsegments := segments_slash ['-'] rest
    rw [List.singleton_append] at hsegments
    rw [hsegments] at h
    exact h (List.mem_append_right _ (List.mem_append_left _ List.mem_cons_self))

/-- A path that neither begins nor ends with a slash stays as it is without slashes at its ends. -/
theorem IsProjectPath.trimmed {path : String} (h : IsProjectPath path) :
    dropEndWhile (· == '/') (path.toList.dropWhile (· == '/')) = path.toList := by
  rw [dropWhile_of_head, dropEndWhile, dropWhile_of_head, List.reverse_reverse]
  · intro d hd
    rw [List.head?_reverse] at hd
    refine beq_eq_false_iff_ne.mpr ?_
    rintro rfl
    exact h.last hd
  · intro d hd
    refine beq_eq_false_iff_ne.mpr ?_
    rintro rfl
    exact h.head hd

/-- The web address of something in a project. -/
def webAddress (scheme host path suffix : String) : String :=
  scheme ++ host ++ "/" ++ path ++ "/-/" ++ suffix

/-- The first `://` of an address is the one of its scheme, if it has one. -/
def HasScheme (scheme host path suffix : String) : Prop :=
  scheme = "http://" ∨ scheme = "https://" ∨
    scheme = "" ∧ ¬ "://".toList <:+: (webAddress scheme host path suffix).toList

theorem toList_webAddress (scheme host path suffix : String) :
    (webAddress scheme host path suffix).toList =
      scheme.toList ++ (host.toList ++ '/' :: (path.toList ++ "/-/".toList ++ suffix.toList)) := by
  simp [webAddress]

theorem splitFirst_scheme {name : List Char} (h : ':' ∉ name) (rest : List Char) :
    splitFirst "://".toList (name ++ "://".toList ++ rest) = some (name, rest) :=
  splitFirst_of_not_mem h "//".toList rest

/-- What comes after the scheme. -/
theorem HasScheme.afterScheme {scheme host path suffix : String}
    (h : HasScheme scheme host path suffix) :
    ((splitFirst "://".toList (webAddress scheme host path suffix).toList).map (·.2)).getD
        (webAddress scheme host path suffix).toList =
      host.toList ++ '/' :: (path.toList ++ "/-/".toList ++ suffix.toList) := by
  obtain rfl | rfl | ⟨rfl, hno⟩ := h
  · rw [toList_webAddress]
    exact congrArg (fun r => (Option.map Prod.snd r).getD _)
      (splitFirst_scheme (show ':' ∉ "http".toList by decide) _)
  · rw [toList_webAddress]
    exact congrArg (fun r => (Option.map Prod.snd r).getD _)
      (splitFirst_scheme (show ':' ∉ "https".toList by decide) _)
  · rw [splitFirst_eq_none_iff.mpr hno, toList_webAddress]
    rfl

theorem pathOfAddress_webAddress {scheme host path suffix : String}
    (hscheme : HasScheme scheme host path suffix) (hhost : '/' ∉ host.toList)
    (hpath : IsProjectPath path) :
    pathOfAddress (webAddress scheme host path suffix).toList = path.toList := by
  have hafter := splitFirst_of_not_mem hhost [] (path.toList ++ "/-/".toList ++ suffix.toList)
  rw [List.append_assoc, List.singleton_append] at hafter
  have hproject := splitFirst_of_first
    (not_isPrefix_of_segments hpath.segments suffix.toList)
  unfold pathOfAddress
  dsimp only
  rw [hscheme.afterScheme, hafter, Option.map_some, Option.getD_some, hproject]
  exact hpath.trimmed

/-! ## Both encodings -/

/-- **The path of a project is found again.** It is what an item's reference has before the mark and
the number, whatever the address is. Where the reference names no project, it is what the address
has between the host and the first segment that is a hyphen, whatever resource follows. -/
theorem projectPath_found :
    (∀ (path : String) (t : ItemType) (number : Nat) (address : String), path ≠ "" →
      (∀ c ∈ path.toList, isMark c = false) → trim path = path →
        projectPath (path ++ t.mark.toString ++ String.ofList (digits number)) address = path) ∧
    ∀ reference scheme host path suffix : String, NamesNoProject reference →
      HasScheme scheme host path suffix → '/' ∉ host.toList → IsProjectPath path →
        projectPath reference (webAddress scheme host path suffix) = path := by
  constructor
  · intro path t number address hne hmarks htrim
    have htext : (path ++ t.mark.toString ++ String.ofList (digits number)).toList =
        path.toList ++ t.mark :: digits number := by
      simp
    have hchars : trimChars path.toList = path.toList := by
      have h := congrArg String.toList htrim
      rwa [trim, String.toList_ofList] at h
    have hpath : ¬ path.toList.isEmpty = true := by
      simpa using hne
    rw [projectPath, htext, pathOfReference?_mark hmarks (isMark_mark t), hchars, if_neg hpath,
      Option.getD_some, String.ofList_toList]
  · intro reference scheme host path suffix hreference hscheme hhost hpath
    rw [projectPath, pathOfReference?_eq_none hreference, Option.getD_none,
      pathOfAddress_webAddress hscheme hhost hpath, String.ofList_toList]

/-- Hyphens in segments and in the resource, a reference with a blank before its mark, and an
address without a scheme. -/
theorem projectPath_found_hyphens :
    projectPath "größe/- -!7" "" = "größe/- -" ∧
      projectPath "\u3000#7!" "https://[::1]:81/-a/b--/-/-/issues/7" = "-a/b--" ∧
      projectPath "g/r" "gl.test/g//r/-/http" = "g//r" := by
  refine ⟨?_, ?_, ?_⟩
  · exact projectPath_found.1 "größe/- -" .pullRequest 7 "" (by decide) (by simp [isMark])
      (by decide)
  · refine projectPath_found.2 "\u3000#7!" "https://" "[::1]:81" "-a/b--" "-/issues/7" ?_ ?_ ?_ ?_
    · exact .inr ⟨['\u3000'], '#', ['7', '!'], rfl, rfl, List.forall_mem_singleton.mpr (by decide)⟩
    · exact .inr (.inl rfl)
    · decide
    · exact ⟨by decide, by decide, by decide, by decide⟩
  · refine projectPath_found.2 "g/r" "" "gl.test" "g//r" "http" ?_ ?_ ?_ ?_
    · exact .inl (by simp [isMark])
    · exact .inr (.inr ⟨rfl, by decide⟩)
    · decide
    · exact ⟨by decide, by decide, by decide, by decide⟩

end ForgeBoard
