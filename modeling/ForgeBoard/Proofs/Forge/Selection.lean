import ForgeBoard.Filter.Routing
import ForgeBoard.Proofs.Success
import ForgeBoard.Proofs.Text.Blank
import Mathlib.Data.List.TakeWhile

/-!
# Selection of instances and what a routing allows

`Instance.select` builds a list: it sorts, picks pattern by pattern, drops repeated ids and
excludes. `Routing.allows` is asked of one instance. Both are said here by the patterns alone.

* `mem_ids_pick`: the ids that are picked are those of the instances that match a pattern.
* `exists_mem_select_iff`: an id is selected iff its instance matches an include pattern, or all of
  these are blank, and it matches no exclude pattern.
* `Routing.selects_iff`: the two agree, but for include patterns all of which are blank
  (`Routing.OnlyBlank`). Selection takes them for none, and `Routing.allows` for patterns that
  match nothing.

An instance is `Named` when its id is made of its kind and its host. All instances made from a kind
and a host are, and among them an id tells both (`id_ofHost_injective`).
-/

namespace ForgeBoard

open Text

namespace Instance

variable {i j : Instance} {pattern : String} {patterns includes excludes seen : List String}
  {instances : List Instance}

/-! ## Ids -/

/-- The instance is known by its kind and its host. -/
def Named (i : Instance) : Prop :=
  i.id = i.kind.name ++ ":" ++ i.host

theorem named_ofHost (kind : ForgeKind) (host : String) : (ofHost kind host).Named :=
  rfl

theorem named_tryOfHost {kind : ForgeKind} {host : String} (h : tryOfHost kind host = .ok i) :
    i.Named := by
  unfold tryOfHost at h
  dsimp only at h
  split at h
  · exact absurd h nofun
  · obtain rfl := Except.ok.inj h
    exact named_ofHost kind (trim host)

theorem named_ofId {id : String} (h : ofId id = .ok i) : i.Named := by
  unfold ofId at h
  split at h
  · cases h
  · obtain ⟨kind, -, h⟩ := bind_eq_ok_iff.mp h
    exact named_tryOfHost h

/-- The name of the kind stands before the first colon. -/
theorem Named.takeWhile_id (h : i.Named) :
    i.id.toList.takeWhile (· != ':') = i.kind.name.toList := by
  rw [h, String.toList_append, String.toList_append, List.append_assoc]
  cases i.kind <;> rfl

/-- Among named instances, an id tells the kind. -/
theorem Named.kind_eq (hi : i.Named) (hj : j.Named) (h : i.id = j.id) : i.kind = j.kind := by
  have hnames : i.kind.name.toList = j.kind.name.toList := by
    rw [← hi.takeWhile_id, ← hj.takeWhile_id, h]
  cases hik : i.kind <;> cases hjk : j.kind <;> rw [hik, hjk] at hnames <;>
    first | rfl | exact absurd hnames (by decide)

/-- Among named instances, an id tells the host. -/
theorem Named.host_eq (hi : i.Named) (hj : j.Named) (h : i.id = j.id) : i.host = j.host := by
  have hids : i.kind.name ++ ":" ++ i.host = j.kind.name ++ ":" ++ j.host :=
    hi.symm.trans (h.trans hj)
  rw [hi.kind_eq hj h] at hids
  exact (String.append_right_inj _).mp hids

/-- Among instances at hosts, an id tells the kind and the host. -/
theorem id_ofHost_injective :
    Function.Injective fun server : ForgeKind × String => (ofHost server.1 server.2).id := by
  intro s t h
  have hs := named_ofHost s.1 s.2
  have ht := named_ofHost t.1 t.2
  exact Prod.ext (hs.kind_eq ht h) (hs.host_eq ht h)

/-! ## Matching -/

theorem isMatch_of_isBlankText (h : isBlankText pattern = true) : i.isMatch pattern = false := by
  have hnil : trimChars pattern.toList = [] :=
    trimChars_eq_nil_iff.mpr (List.all_eq_true.mp h)
  rw [isMatch, Pattern.ofText, hnil]
  rfl

theorem isMatchAny_eq_true_iff :
    i.isMatchAny patterns = true ↔ ∃ p ∈ patterns, i.isMatch p = true :=
  List.any_eq_true

theorem isMatchAny_eq_false_iff :
    i.isMatchAny patterns = false ↔ ∀ p ∈ patterns, i.isMatch p = false := by
  rw [isMatchAny, List.any_eq_false]
  simp only [Bool.not_eq_true]

/-- Blank patterns count for nothing. -/
theorem isMatchAny_filter (i : Instance) (patterns : List String) :
    i.isMatchAny (patterns.filter fun p => !isBlankText p) = i.isMatchAny patterns := by
  rw [isMatchAny, isMatchAny, List.any_filter]
  congr 1
  funext p
  cases hp : isBlankText p with
  | true => rw [isMatch_of_isBlankText hp, Bool.and_false]
  | false => rw [Bool.not_false, Bool.true_and]

/-- Matching looks at the id and the kind. -/
theorem isMatch_congr (hid : i.id = j.id) (hkind : i.kind = j.kind) :
    i.isMatch pattern = j.isMatch pattern := by
  unfold isMatch Pattern.matchesInstance
  rw [hid, hkind]

theorem isMatchAny_congr (hid : i.id = j.id) (hkind : i.kind = j.kind) :
    i.isMatchAny patterns = j.isMatchAny patterns := by
  unfold isMatchAny
  congr 1
  funext p
  exact isMatch_congr hid hkind

/-! ## Picking -/

theorem firsts_sublist : (pick.firsts instances seen).Sublist instances := by
  induction instances generalizing seen with
  | nil => exact List.Sublist.refl _
  | cons i rest ih =>
    unfold pick.firsts
    split
    · exact ih.cons i
    · exact ih.cons_cons i

/-- The first instances of each id have the ids that were not seen before. -/
theorem mem_ids_firsts {id : String} :
    id ∈ (pick.firsts instances seen).map (·.id) ↔ id ∈ instances.map (·.id) ∧ id ∉ seen := by
  induction instances generalizing seen with
  | nil => simp [pick.firsts]
  | cons i rest ih =>
    unfold pick.firsts
    rw [List.map_cons, List.mem_cons]
    split
    · next hcontains =>
      have hseen : i.id ∈ seen := List.contains_iff_mem.mp hcontains
      rw [ih]
      constructor
      · rintro ⟨hrest, hid⟩
        exact ⟨.inr hrest, hid⟩
      · rintro ⟨rfl | hrest, hid⟩
        · exact absurd hseen hid
        · exact ⟨hrest, hid⟩
    · next hcontains =>
      have hseen : i.id ∉ seen := fun h => hcontains (List.contains_iff_mem.mpr h)
      rw [List.map_cons, List.mem_cons, ih, List.mem_cons, not_or]
      constructor
      · rintro (rfl | ⟨hrest, -, hid⟩)
        · exact ⟨.inl rfl, hseen⟩
        · exact ⟨.inr hrest, hid⟩
      · rintro ⟨heq | hrest, hid⟩
        · exact .inl heq
        · by_cases heq : id = i.id
          · exact .inl heq
          · exact .inr ⟨hrest, heq, hid⟩

theorem pick_subset : pick instances patterns seen ⊆ instances := by
  induction patterns generalizing seen with
  | nil => exact List.nil_subset _
  | cons p rest ih =>
    unfold pick
    exact List.append_subset.mpr ⟨(firsts_sublist.trans List.filter_sublist).subset, ih⟩

/-- **The ids that are picked** are those of the instances that match a pattern, unless they were
seen before. -/
theorem mem_ids_pick {id : String} :
    id ∈ (pick instances patterns seen).map (·.id) ↔
      id ∉ seen ∧ ∃ j ∈ instances, j.isMatchAny patterns = true ∧ j.id = id := by
  induction patterns generalizing seen with
  | nil => simp [pick, isMatchAny]
  | cons p rest ih =>
    have hids : id ∈ (instances.filter (·.isMatch p)).map (·.id) ↔
        ∃ j ∈ instances, j.isMatch p = true ∧ j.id = id := by
      simp only [List.mem_map, List.mem_filter, and_assoc]
    have hsplit : (∃ j ∈ instances, j.isMatchAny (p :: rest) = true ∧ j.id = id) ↔
        (∃ j ∈ instances, j.isMatch p = true ∧ j.id = id) ∨
          ∃ j ∈ instances, j.isMatchAny rest = true ∧ j.id = id := by
      simp only [isMatchAny, List.any_cons, Bool.or_eq_true, or_and_right, and_or_left, exists_or]
    unfold pick
    rw [List.map_append, List.mem_append, ih, List.mem_append, mem_ids_firsts, hids, hsplit]
    constructor
    · rintro (⟨hmatch, hseen⟩ | ⟨hseen, hmatch⟩)
      · exact ⟨hseen, .inl hmatch⟩
      · exact ⟨fun h => hseen (.inl h), .inr hmatch⟩
    · rintro ⟨hseen, hmatch | hmatch⟩
      · exact .inl ⟨hmatch, hseen⟩
      · -- an id that two patterns match is picked for the first one
        by_cases hfirst : ∃ j ∈ instances, j.isMatch p = true ∧ j.id = id
        · exact .inl ⟨hfirst, hseen⟩
        · exact .inr ⟨fun h => h.elim hseen fun h => hfirst h.1, hmatch⟩

/-! ## Ids that occur once -/

theorem nodup_ids_firsts : ((pick.firsts instances seen).map (·.id)).Nodup := by
  induction instances generalizing seen with
  | nil => exact List.nodup_nil
  | cons i rest ih =>
    unfold pick.firsts
    split
    · exact ih
    · refine List.nodup_cons.mpr ⟨fun h => ?_, ih⟩
      exact (mem_ids_firsts.mp h).2 List.mem_cons_self

theorem nodup_ids_pick : ((pick instances patterns seen).map (·.id)).Nodup := by
  induction patterns generalizing seen with
  | nil => exact List.nodup_nil
  | cons p rest ih =>
    unfold pick
    rw [List.map_append]
    refine List.nodup_append.mpr ⟨nodup_ids_firsts, ih, ?_⟩
    rintro id hfirst _ hlater rfl
    exact (mem_ids_pick.mp hlater).1 (List.mem_append_right _ hfirst)

/-! ## Selecting -/

theorem mem_sortById : j ∈ sortById instances ↔ j ∈ instances :=
  List.mem_mergeSort

/-- Where no id occurs twice, none is selected twice. -/
theorem nodup_ids_select (h : (instances.map (·.id)).Nodup) :
    ((select instances includes excludes).map (·.id)).Nodup := by
  refine List.Nodup.sublist (List.filter_sublist.map _) ?_
  split
  · exact ((List.mergeSort_perm instances _).map _).nodup_iff.mpr h
  · exact nodup_ids_pick

/-- **An id is selected** iff its instance matches an include pattern, or all of these are blank,
and it matches no exclude pattern. -/
theorem exists_mem_select_iff (hnamed : ∀ j ∈ instances, j.Named) (hi : i ∈ instances) :
    (∃ j ∈ select instances includes excludes, j.id = i.id) ↔
      ((∀ p ∈ includes, isBlankText p = true) ∨ i.isMatchAny includes = true) ∧
        i.isMatchAny excludes = false := by
  -- an instance with the id of `i` is of the same kind, so every pattern treats both alike
  have hlike : ∀ j ∈ instances, j.id = i.id → ∀ ps, j.isMatchAny ps = i.isMatchAny ps :=
    fun j hj hid ps => isMatchAny_congr hid ((hnamed j hj).kind_eq (hnamed i hi) hid)
  have hblank : (includes.filter fun p => !isBlankText p).isEmpty = true ↔
      ∀ p ∈ includes, isBlankText p = true := by
    simp
  unfold select
  simp only [List.mem_filter, Bool.not_eq_true', and_assoc]
  split
  · next hempty =>
    constructor
    · rintro ⟨j, hj, hexclude, hid⟩
      rw [hlike j (mem_sortById.mp hj) hid] at hexclude
      exact ⟨.inl (hblank.mp hempty), hexclude⟩
    · rintro ⟨-, hexclude⟩
      exact ⟨i, mem_sortById.mpr hi, hexclude, rfl⟩
  · next hempty =>
    have hpick : (∃ j ∈ pick (sortById instances) (includes.filter fun p => !isBlankText p) [],
        j.id = i.id) ↔ i.isMatchAny includes = true := by
      rw [← List.mem_map, mem_ids_pick]
      simp only [mem_sortById, isMatchAny_filter]
      constructor
      · rintro ⟨-, j, hj, hmatch, hid⟩
        rwa [hlike j hj hid] at hmatch
      · intro hmatch
        exact ⟨List.not_mem_nil, i, hi, hmatch, rfl⟩
    rw [or_iff_right fun h => hempty (hblank.mpr h), ← hpick]
    constructor
    · rintro ⟨j, hj, hexclude, hid⟩
      rw [hlike j (mem_sortById.mp (pick_subset hj)) hid] at hexclude
      exact ⟨⟨j, hj, hid⟩, hexclude⟩
    · rintro ⟨⟨j, hj, hid⟩, hexclude⟩
      rw [← hlike j (mem_sortById.mp (pick_subset hj)) hid] at hexclude
      exact ⟨j, hj, hexclude, hid⟩

end Instance

namespace Filter.Routing

open Instance

/-- There are include patterns, and all of them are blank. -/
def OnlyBlank (r : Routing) : Prop :=
  r.includes ≠ [] ∧ ∀ p ∈ r.includes, isBlankText p = true

variable {r : Routing} {i : Instance} {instances : List Instance}

theorem allows_eq_true_iff :
    r.allows i = true ↔
      (r.includes = [] ∨ i.isMatchAny r.includes = true) ∧ i.isMatchAny r.excludes = false := by
  rw [allows, Bool.and_eq_true, Bool.or_eq_true, List.isEmpty_iff, Bool.not_eq_true']

theorem allows_of_onlyBlank (h : r.OnlyBlank) (i : Instance) : r.allows i = false := by
  have hmatch : i.isMatchAny r.includes = false := by
    rw [isMatchAny, List.any_eq_false]
    intro p hp
    rw [isMatch_of_isBlankText (h.2 p hp)]
    exact nofun
  rw [← Bool.not_eq_true, allows_eq_true_iff, hmatch]
  rintro ⟨hnone | hmatch, -⟩
  · exact h.1 hnone
  · exact absurd hmatch nofun

/-- **What is selected and what is allowed**: the selection has the ids of the instances that are
allowed, and where all include patterns are blank those of all instances that are not excluded. -/
theorem selects_iff (hnamed : ∀ j ∈ instances, j.Named) (hi : i ∈ instances) :
    (∃ j ∈ select instances r.includes r.excludes, j.id = i.id) ↔
      r.allows i = true ∨ r.OnlyBlank ∧ i.isMatchAny r.excludes = false := by
  rw [exists_mem_select_iff hnamed hi, allows_eq_true_iff, OnlyBlank]
  constructor
  · rintro ⟨hblank | hmatch, hexclude⟩
    · by_cases hnone : r.includes = []
      · exact .inl ⟨.inl hnone, hexclude⟩
      · exact .inr ⟨⟨hnone, hblank⟩, hexclude⟩
    · exact .inl ⟨.inr hmatch, hexclude⟩
  · rintro (⟨hnone | hmatch, hexclude⟩ | ⟨⟨-, hblank⟩, hexclude⟩)
    · exact ⟨.inl (by simp [hnone]), hexclude⟩
    · exact ⟨.inr hmatch, hexclude⟩
    · exact ⟨.inl hblank, hexclude⟩

end Filter.Routing

end ForgeBoard
