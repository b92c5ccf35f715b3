import ForgeBoard.Text.Lowercase

/-!
# Texts whose lower-case form is ASCII

The lower-case form of a text is taken in all of Unicode, where a letter above ASCII may have one
in ASCII: the Kelvin sign has `k`, and the capital I with a dot has `i` and a combining dot. A text
without a `k` is reached from ASCII only, so there both notions of case agree.

* `Plain`: the characters of ASCII other than `k`.
* `exists_not_plain_of_lowerChar`: no letter above ASCII has a plain lower-case form.

Result: `lowerFrom_eq_iff_of_plain`, to lower a text in Unicode or in ASCII is the same when it
comes to plain characters.
-/

namespace ForgeBoard.Text

/-- A character of ASCII that no letter above ASCII has for its lower-case form. -/
def Plain (c : Char) : Prop :=
  c.toNat < 128 ∧ c ≠ 'k'

instance : DecidablePred Plain := fun _ => inferInstanceAs (Decidable (_ ∧ _))

/-! ## The table -/

/-- All images of the run are characters above ASCII. -/
def Run.StaysAbove (run : Run) : Prop :=
  128 ≤ run.first + run.shift ∧
    (run.last + run.shift < 0xd800 ∨
      0xdfff < run.first + run.shift ∧ run.last + run.shift < 0x110000)

instance : DecidablePred Run.StaysAbove := fun _ => inferInstanceAs (Decidable (_ ∧ (_ ∨ _ ∧ _)))

/-- The run of the Kelvin sign is the only one that comes down to ASCII. -/
theorem caseRuns_stayAbove : ∀ run ∈ caseRuns,
    run.StaysAbove ∨ run.first = 0x212a ∧ run.last = 0x212a ∧ run.shift = -8383 := by
  decide +kernel

theorem Run.bounds_of_covers {run : Run} {n : Nat} (h : run.covers n = true) :
    run.first ≤ n ∧ n ≤ run.last := by
  simp only [Run.covers, Bool.and_eq_true, decide_eq_true_eq] at h
  exact h.1

theorem Run.StaysAbove.image {run : Run} (h : run.StaysAbove) {c : Char}
    (hc : run.covers c.toNat = true) : 128 ≤ (run.image c).toNat := by
  obtain ⟨hfirst, hlast⟩ := Run.bounds_of_covers hc
  obtain ⟨hlow, hvalid⟩ := h
  have hchar : ((c.toNat : Int) + run.shift).toNat.isValidChar := by
    unfold Nat.isValidChar
    omega
  rw [Run.image, Char.ofNat, dif_pos hchar]
  show 128 ≤ ((c.toNat : Int) + run.shift).toNat
  omega

/-! ## One character -/

theorem not_plain_of_above {c : Char} (h : 128 ≤ c.toNat) : ¬ Plain c :=
  fun hc => absurd hc.1 (Nat.not_lt.mpr h)

theorem not_plain_imageInRuns {c : Char} (h : 128 ≤ c.toNat) :
    ¬ Plain ((imageInRuns? caseRuns c).getD c) := by
  cases hfind : caseRuns.find? (·.covers c.toNat) with
  | none =>
    rw [imageInRuns?, hfind]
    exact not_plain_of_above h
  | some run =>
    have hcovers : run.covers c.toNat = true := by simpa using List.find?_some hfind
    rw [imageInRuns?, hfind, Option.map_some, Option.getD_some]
    rcases caseRuns_stayAbove run (List.mem_of_find?_eq_some hfind) with hstays | ⟨hf, hl, hs⟩
    · exact not_plain_of_above (hstays.image hcovers)
    · -- the Kelvin sign itself
      obtain ⟨hfirst, hlast⟩ := Run.bounds_of_covers hcovers
      have hn : c.toNat = 0x212a := by omega
      rw [Run.image, hn, hs]
      exact fun hplain => hplain.2 rfl

/-- A letter above ASCII has no lower-case form of plain characters. -/
theorem exists_not_plain_of_lowerChar {c : Char} (h : 128 ≤ c.toNat) :
    ∃ d ∈ lowerChar c, ¬ Plain d := by
  rw [lowerChar, if_neg (Nat.not_lt.mpr h)]
  split
  · exact ⟨'\u0307', by simp, by decide⟩
  · exact ⟨_, List.mem_singleton_self _, not_plain_imageInRuns h⟩

theorem toLower_of_above {c : Char} (h : 128 ≤ c.toNat) : c.toLower = c := by
  refine dif_neg ?_
  rintro ⟨-, hle⟩
  have hlt : c.toNat ≤ 'Z'.toNat := UInt32.le_iff_toNat_le.mp hle
  exact absurd (Nat.le_trans h hlt) (by decide)

/-! ## Texts -/

theorem lowerFrom_cons_ne_nil (before : List Char) (c : Char) (rest : List Char) :
    lowerFrom before (c :: rest) ≠ [] := by
  simp only [lowerFrom, lowerChar]
  grind

/-- Only the empty text has an empty lower-case form. -/
theorem lower_ne_empty {s : String} (h : s ≠ "") : lower s ≠ "" := by
  obtain ⟨c, rest, hs⟩ := List.exists_cons_of_ne_nil (mt String.toList_eq_nil_iff.mp h)
  rw [lower, hs]
  exact fun hempty => lowerFrom_cons_ne_nil [] c rest (String.ofList_eq_empty_iff.mp hempty)

theorem lowerFrom_cons_of_ascii {c : Char} (h : c.toNat < 128) (before rest : List Char) :
    lowerFrom before (c :: rest) = c.toLower :: lowerFrom (c :: before) rest := by
  have hne : c ≠ 'Σ' := by
    rintro rfl
    exact absurd h (by decide)
  rw [lowerFrom, if_neg (by simpa using hne), lowerChar, if_pos h]
  rfl

theorem exists_not_plain_of_lowerFrom {c : Char} (h : 128 ≤ c.toNat) (before rest : List Char) :
    ∃ d ∈ lowerFrom before (c :: rest), ¬ Plain d := by
  obtain ⟨d, hd, hplain⟩ : ∃ d ∈ (if c == 'Σ' then
      if meetsCased before && !meetsCased rest then ['ς'] else ['σ']
      else lowerChar c), ¬ Plain d := by
    split
    · split
      · exact ⟨'ς', List.mem_singleton_self _, by decide⟩
      · exact ⟨'σ', List.mem_singleton_self _, by decide⟩
    · exact exists_not_plain_of_lowerChar h
  exact ⟨d, List.mem_append_left _ hd, hplain⟩

/-- **A text has a plain lower-case form in Unicode iff it has it in ASCII.** -/
theorem lowerFrom_eq_iff_of_plain {ds : List Char} (hds : ∀ d ∈ ds, Plain d)
    (before cs : List Char) : lowerFrom before cs = ds ↔ cs.map Char.toLower = ds := by
  induction cs generalizing before ds with
  | nil => rfl
  | cons c rest ih =>
    rcases Nat.lt_or_ge c.toNat 128 with hc | hc
    · rw [lowerFrom_cons_of_ascii hc, List.map_cons]
      cases ds with
      | nil => exact ⟨nofun, nofun⟩
      | cons d ds =>
        rw [List.cons.injEq, List.cons.injEq, ih (List.forall_mem_cons.mp hds).2]
    · refine iff_of_false (fun h => ?_) (fun h => ?_)
      · obtain ⟨d, hd, hplain⟩ := exists_not_plain_of_lowerFrom hc before rest
        exact hplain (hds d (h ▸ hd))
      · rw [List.map_cons, toLower_of_above hc] at h
        exact not_plain_of_above hc (hds c (h ▸ List.mem_cons_self))

end ForgeBoard.Text
