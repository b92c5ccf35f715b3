import ForgeBoard.Proofs.Forge.Selection
import Mathlib.Data.List.Nodup
import Mathlib.Data.String.Basic

/-!
# The order of a selection

Where no id occurs twice, a selection is fixed by its members and one strict order on instances:
`Precedes`, by the first pattern that matches, and among instances with the same first pattern by
id. Only patterns that are not blank count.

* `pairwise_pick`: picking pattern by pattern puts instances into this order. What one pattern
  leaves over does not match it, so for all of the rest the places of the later patterns move up by
  one.
* `mem_select_iff`: the members of a selection.
* `eq_select`: a list with these members in this order is the selection.

Result: `select_exactly`. That the order of the instances does not matter, and that selecting again
changes nothing, comes from `eq_select`.
-/

namespace ForgeBoard.Instance

open Text

variable {i j : Instance} {p : String} {patterns includes excludes seen : List String}
  {instances : List Instance}

/-! ## Places -/

/-- The patterns that count. -/
def counted (patterns : List String) : List String :=
  patterns.filter fun p => !isBlankText p

/-- The place of the first pattern that matches the instance. -/
def place (patterns : List String) (i : Instance) : Nat :=
  patterns.findIdx i.isMatch

/-- One instance stands before another one by the places of their first patterns, and where these
are the same by id. -/
def Precedes (patterns : List String) (i j : Instance) : Prop :=
  i.place patterns < j.place patterns ∨ i.place patterns = j.place patterns ∧ i.id < j.id

theorem Precedes.asymm (h : Precedes patterns i j) : ¬ Precedes patterns j i := by
  rintro (hplace | ⟨hplace, hid⟩)
  · rcases h with h | ⟨h, -⟩ <;> omega
  · rcases h with h | ⟨-, h⟩
    · omega
    · exact lt_asymm h hid

theorem place_cons_of_match (h : i.isMatch p = true) : i.place (p :: patterns) = 0 := by
  rw [place, List.findIdx_cons, h, cond_true]

theorem place_cons_of_not_match (h : i.isMatch p = false) :
    i.place (p :: patterns) = i.place patterns + 1 := by
  rw [place, List.findIdx_cons, h, cond_false, place]

/-- Where there are no patterns, ids decide. -/
theorem precedes_nil_iff : Precedes [] i j ↔ i.id < j.id := by
  simp [Precedes, place]

/-! ## Picking -/

theorem not_match_of_mem_pick {firstPicked : List Instance}
    (hpicked : firstPicked = pick.firsts (instances.filter (·.isMatch p)) seen)
    (hj : j ∈ pick instances patterns (seen ++ firstPicked.map (·.id))) : j.isMatch p = false := by
  rw [← Bool.not_eq_true]
  intro hmatch
  have hseen := (mem_ids_pick.mp (List.mem_map_of_mem hj)).1
  rw [List.mem_append, not_or, hpicked, mem_ids_firsts] at hseen
  have hmem : j.id ∈ (instances.filter (·.isMatch p)).map (·.id) :=
    List.mem_map_of_mem (List.mem_filter.mpr ⟨pick_subset hj, hmatch⟩)
  exact hseen.2 ⟨hmem, hseen.1⟩

/-- **Picking** puts instances that come by id into the order of the patterns. -/
theorem pairwise_pick (h : instances.Pairwise (·.id < ·.id)) :
    (pick instances patterns seen).Pairwise (Precedes patterns) := by
  induction patterns generalizing seen with
  | nil => exact List.Pairwise.nil
  | cons p rest ih =>
    unfold pick
    have hfirst : ∀ a ∈ pick.firsts (instances.filter (·.isMatch p)) seen,
        a.place (p :: rest) = 0 := fun a ha =>
      place_cons_of_match (List.mem_filter.mp (firsts_sublist.subset ha)).2
    refine List.pairwise_append.mpr ⟨?_, ?_, fun a ha b hb => .inl ?_⟩
    · have hids : (pick.firsts (instances.filter (·.isMatch p)) seen).Pairwise (·.id < ·.id) :=
        h.sublist (firsts_sublist.trans List.filter_sublist)
      exact hids.imp_of_mem fun ha hb hab => .inr ⟨(hfirst _ ha).trans (hfirst _ hb).symm, hab⟩
    · refine ih.imp_of_mem fun ha hb hab => ?_
      rw [Precedes, place_cons_of_not_match (not_match_of_mem_pick rfl ha),
        place_cons_of_not_match (not_match_of_mem_pick rfl hb)]
      exact hab.imp (Nat.add_lt_add_right · 1) (And.imp_left (congrArg (· + 1)))
    · rw [hfirst a ha, place_cons_of_not_match (not_match_of_mem_pick rfl hb)]
      exact Nat.succ_pos _

/-! ## Selecting -/

theorem pairwise_sortById (h : (instances.map (·.id)).Nodup) :
    (sortById instances).Pairwise (·.id < ·.id) := by
  have hsorted : (sortById instances).Pairwise fun a b => decide (a.id ≤ b.id) = true := by
    refine List.pairwise_mergeSort (fun a b c hab hbc => ?_) (fun a b => ?_) instances
    · exact decide_eq_true (le_trans (of_decide_eq_true hab) (of_decide_eq_true hbc))
    · simpa using le_total a.id b.id
  have hids : ((sortById instances).map (·.id)).Nodup :=
    ((List.mergeSort_perm instances _).map _).nodup_iff.mpr h
  exact hsorted.imp₂ (fun a b hle hne => lt_of_le_of_ne (of_decide_eq_true hle) hne)
    (List.pairwise_map.mp hids)

theorem pairwise_select (h : (instances.map (·.id)).Nodup) (includes excludes : List String) :
    (select instances includes excludes).Pairwise (Precedes (counted includes)) := by
  refine List.Pairwise.sublist List.filter_sublist ?_
  split
  · next hempty =>
    have hnone : counted includes = [] := List.isEmpty_iff.mp hempty
    rw [hnone]
    exact (pairwise_sortById h).imp precedes_nil_iff.mpr
  · exact pairwise_pick (pairwise_sortById h)

/-- **The members of a selection** match a pattern that counts, or there is none, and match no
exclude pattern. -/
theorem mem_select_iff (h : (instances.map (·.id)).Nodup) :
    i ∈ select instances includes excludes ↔
      i ∈ instances ∧
        (counted includes = [] ∨ ∃ p ∈ counted includes, i.isMatch p = true) ∧
        ∀ p ∈ excludes, i.isMatch p = false := by
  have hpick : i ∈ pick (sortById instances) (counted includes) [] ↔
      i ∈ instances ∧ ∃ p ∈ counted includes, i.isMatch p = true := by
    constructor
    · intro hi
      obtain ⟨-, j, hj, hmatch, hid⟩ := mem_ids_pick.mp (List.mem_map_of_mem hi)
      have hmem := mem_sortById.mp (pick_subset hi)
      obtain rfl := List.inj_on_of_nodup_map h (mem_sortById.mp hj) hmem hid
      exact ⟨hmem, isMatchAny_eq_true_iff.mp hmatch⟩
    · rintro ⟨hi, hmatch⟩
      have hid := mem_ids_pick.mpr ⟨List.not_mem_nil (a := i.id), i, mem_sortById.mpr hi,
        isMatchAny_eq_true_iff.mpr hmatch, rfl⟩
      obtain ⟨j, hj, hji⟩ := List.mem_map.mp hid
      obtain rfl := List.inj_on_of_nodup_map h (mem_sortById.mp (pick_subset hj)) hi hji
      exact hj
  unfold select
  rw [List.mem_filter, Bool.not_eq_true', isMatchAny_eq_false_iff, ← and_assoc]
  refine and_congr_left fun _ => ?_
  change i ∈ (if (counted includes).isEmpty then _ else pick _ (counted includes) []) ↔ _
  split
  · next hempty =>
    rw [mem_sortById, List.isEmpty_iff.mp hempty, and_iff_left (.inl rfl)]
  · next hsome =>
    rw [hpick, or_iff_right fun hnone => hsome (List.isEmpty_iff.mpr hnone)]

theorem nodup_of_pairwise (h : instances.Pairwise (Precedes patterns)) : instances.Nodup := by
  refine h.imp fun {a b} hab heq => ?_
  subst heq
  exact hab.asymm hab

/-- **Members and order fix a selection.** -/
theorem eq_select (h : (instances.map (·.id)).Nodup) {others : List Instance}
    (hmem : ∀ i, i ∈ others ↔ i ∈ select instances includes excludes)
    (horder : others.Pairwise (Precedes (counted includes))) :
    others = select instances includes excludes := by
  have hselect := pairwise_select h includes excludes
  have hperm : others.Perm (select instances includes excludes) :=
    (List.perm_ext_iff_of_nodup (nodup_of_pairwise horder) (nodup_of_pairwise hselect)).mpr hmem
  exact hperm.eq_of_pairwise (fun _ _ _ _ hab hba => absurd hba hab.asymm) horder hselect

/-- **A selection from instances with distinct ids** has exactly the instances that match an include
pattern, or all of them where no include pattern counts, without those that match an exclude
pattern. Each is there once. They come by the first include pattern that matches them and then by
id, and by id alone where no include pattern counts. The order of the instances does not matter,
and selecting again changes nothing. -/
theorem select_exactly (h : (instances.map (·.id)).Nodup) (includes excludes : List String) :
    (∀ i, i ∈ select instances includes excludes ↔
      i ∈ instances ∧
        (counted includes = [] ∨ ∃ p ∈ counted includes, i.isMatch p = true) ∧
        ∀ p ∈ excludes, i.isMatch p = false) ∧
    (select instances includes excludes).Nodup ∧
    (select instances includes excludes).Pairwise (Precedes (counted includes)) ∧
    (counted includes = [] →
      (select instances includes excludes).Pairwise (·.id < ·.id)) ∧
    (∀ others : List Instance, others.Perm instances →
      select others includes excludes = select instances includes excludes) ∧
    select (select instances includes excludes) includes excludes =
      select instances includes excludes := by
  have horder := pairwise_select h includes excludes
  refine ⟨fun i => mem_select_iff h, nodup_of_pairwise horder, horder, fun hnone => ?_,
    fun others hperm => ?_, ?_⟩
  · rw [hnone] at horder
    exact horder.imp precedes_nil_iff.mp
  · have hothers : (others.map (·.id)).Nodup := (hperm.map _).nodup_iff.mpr h
    refine eq_select h (fun i => ?_) (pairwise_select hothers includes excludes)
    rw [mem_select_iff hothers, mem_select_iff h, hperm.mem_iff]
  · have hids : ((select instances includes excludes).map (·.id)).Nodup := nodup_ids_select h
    refine eq_select h (fun i => ?_) (pairwise_select hids includes excludes)
    rw [mem_select_iff hids, and_iff_left_iff_imp]
    exact fun hi => ((mem_select_iff h).mp hi).2

def onExample : Instance :=
  .ofHost .gitlab "gitlab.example.com"

def onGitLab : Instance :=
  .ofHost .gitlab "gitlab.com"

def onGitHub : Instance :=
  .ofHost .github "github.com"

/-- Three patterns match one of the hosts, one pattern matches all hosts of a kind, and one is
blank. -/
theorem select_exactly_threeHosts :
    ([onGitHub, onGitLab, onExample].map (·.id)).Nodup ∧
      select [onGitHub, onGitLab, onExample]
        [" ", "gitlab:gitlab.example.com", "gitlab:*", "github", "gitlab"] ["github:*"] =
      [onExample, onGitLab] := by
  have hids : ([onGitHub, onGitLab, onExample].map (·.id)).Nodup := by decide
  obtain ⟨hmem, -, -, -, -, -⟩ := select_exactly hids
    [" ", "gitlab:gitlab.example.com", "gitlab:*", "github", "gitlab"] ["github:*"]
  refine ⟨hids, (eq_select hids (fun i => ?_) ?_).symm⟩
  · rw [hmem]
    constructor
    · intro hi
      rcases List.mem_pair.mp hi with rfl | rfl <;> decide
    · rintro ⟨hi, -, hexcluded⟩
      rcases List.mem_cons.mp hi with rfl | hi
      · exact absurd (hexcluded "github:*" List.mem_cons_self) (by decide)
      · exact (List.Perm.swap onGitLab onExample []).symm.mem_iff.mp hi
  · refine List.pairwise_pair.mpr (.inl ?_)
    decide

end ForgeBoard.Instance
