import ForgeBoard.Query.Listing

/-!
# Parameters in the order of their names

Parameters are an association list that `Params.set` keeps in the order of the names, each name
once (`Params.Ordered`). So a list of parameters is what its names are set to: `get?_set` reads
after a write, and `Ordered.ext` tells two lists apart by their values.
-/

namespace ForgeBoard.Query.Params

variable {name name' value : String} {ps qs : Params}

/-- The names stand in order, and each of them once. -/
def Ordered (ps : Params) : Prop :=
  ps.Pairwise fun a b => a.1 < b.1

theorem ordered_nil : Ordered [] :=
  .nil

theorem get?_cons (name : String) (entry : String × String) (ps : Params) :
    get? name (entry :: ps) = if name = entry.1 then some entry.2 else get? name ps := by
  unfold get?
  rw [List.lookup_cons]
  split <;> simp_all

/-- A name before all others has no value. -/
theorem get?_eq_none (h : ∀ entry ∈ ps, name < entry.1) : get? name ps = none := by
  induction ps with
  | nil => rfl
  | cons entry rest ih =>
    obtain ⟨hentry, hrest⟩ := List.forall_mem_cons.mp h
    have hne : name ≠ entry.1 := fun heq => String.lt_irrefl _ (heq ▸ hentry)
    rw [get?_cons, if_neg hne, ih hrest]

/-! ## Writing -/

/-- **Reading after a write.** -/
theorem get?_set (name' name value : String) (ps : Params) :
    (ps.set name value).get? name' = if name' = name then some value else ps.get? name' := by
  induction ps with
  | nil => rw [set, get?_cons]
  | cons entry rest ih =>
    obtain ⟨n, v⟩ := entry
    unfold set
    split
    · rw [get?_cons]
    · split
      · next heq =>
        subst heq
        rw [get?_cons, get?_cons]
        split <;> rfl
      · next hne =>
        rw [get?_cons, ih, get?_cons]
        by_cases hn : name' = n
        · rw [if_pos hn, if_pos hn, if_neg fun h => hne (hn.symm.trans h)]
        · rw [if_neg hn, if_neg hn]

theorem mem_set {entry : String × String} (h : entry ∈ ps.set name value) :
    entry = (name, value) ∨ entry ∈ ps := by
  induction ps with
  | nil => exact .inl (List.mem_singleton.mp h)
  | cons first rest ih =>
    obtain ⟨n, v⟩ := first
    unfold set at h
    split at h
    · exact List.mem_cons.mp h
    · split at h
      · rcases List.mem_cons.mp h with rfl | h
        · exact .inl rfl
        · exact .inr (List.mem_cons_of_mem _ h)
      · rcases List.mem_cons.mp h with rfl | h
        · exact .inr List.mem_cons_self
        · exact (ih h).imp_right (List.mem_cons_of_mem _)

theorem Ordered.set (h : Ordered ps) (name value : String) : Ordered (ps.set name value) := by
  induction ps with
  | nil => exact List.pairwise_singleton _ _
  | cons entry rest ih =>
    obtain ⟨n, v⟩ := entry
    obtain ⟨hbelow, hrest⟩ := List.pairwise_cons.mp h
    unfold Params.set
    split
    · next hlt =>
      refine List.pairwise_cons.mpr ⟨List.forall_mem_cons.mpr ⟨hlt, fun e he => ?_⟩, h⟩
      exact String.lt_trans hlt (hbelow e he)
    · next hnlt =>
      split
      · next heq => exact List.pairwise_cons.mpr ⟨fun e he => heq ▸ hbelow e he, hrest⟩
      · next hne =>
        refine List.pairwise_cons.mpr ⟨fun e he => ?_, ih hrest⟩
        rcases mem_set he with rfl | he
        · rcases Std.lt_trichotomy n name with hlt | heq | hgt
          · exact hlt
          · exact absurd heq hne
          · exact absurd hgt hnlt
        · exact hbelow e he

/-! ## Extensionality -/

/-- What a list sets first is not before all that another one sets, if they set the same. -/
theorem not_lt_of_get?_eq {e f : String × String} (hf : ∀ g ∈ qs, f.1 < g.1)
    (h : get? e.1 (e :: ps) = get? e.1 (f :: qs)) : ¬ e.1 < f.1 := by
  intro hlt
  have hbelow : ∀ g ∈ f :: qs, e.1 < g.1 :=
    List.forall_mem_cons.mpr ⟨hlt, fun g hg => String.lt_trans hlt (hf g hg)⟩
  rw [get?_cons, if_pos rfl, get?_eq_none hbelow] at h
  exact absurd h nofun

/-- **Ordered parameters are what their names are set to.** -/
theorem Ordered.ext (hp : Ordered ps) (hq : Ordered qs)
    (h : ∀ name, get? name ps = get? name qs) : ps = qs := by
  induction ps generalizing qs with
  | nil =>
    cases qs with
    | nil => rfl
    | cons f qs =>
      have hf := h f.1
      rw [get?_cons, if_pos rfl] at hf
      exact absurd hf nofun
  | cons e ps ih =>
    obtain ⟨he, hps⟩ := List.pairwise_cons.mp hp
    cases qs with
    | nil =>
      have hf := h e.1
      rw [get?_cons, if_pos rfl] at hf
      exact absurd hf nofun
    | cons f qs =>
      obtain ⟨hf, hqs⟩ := List.pairwise_cons.mp hq
      have hname : e.1 = f.1 := by
        rcases Std.lt_trichotomy e.1 f.1 with hlt | heq | hgt
        · exact absurd hlt (not_lt_of_get?_eq hf (h e.1))
        · exact heq
        · exact absurd hgt (not_lt_of_get?_eq he (h f.1).symm)
      have hvalue : e.2 = f.2 := by
        have hset := h e.1
        rwa [get?_cons, if_pos rfl, get?_cons, if_pos hname, Option.some.injEq] at hset
      have hrest : ps = qs := by
        refine ih hps hqs fun name => ?_
        by_cases hn : name = e.1
        · rw [hn, get?_eq_none he, get?_eq_none fun g hg => hname ▸ hf g hg]
        · have hset := h name
          rwa [get?_cons, if_neg hn, get?_cons, if_neg (hname ▸ hn)] at hset
      rw [hrest, Prod.ext hname hvalue]

end ForgeBoard.Query.Params
