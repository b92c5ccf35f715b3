import ForgeBoard.Client.Shared
import ForgeBoard.Proofs.Forge.Selection

/-!
# Keys of look-ups

A key is the id of an instance, a colon and an identifier in lower case. A host may have colons of
its own, for it may name a port, and an identifier is any text. So a key does not tell where the id
ends: `Overlaps` says that one id goes on where the other one ends, with what the identifier begins
with there.

* `scopedKey_right_inj`, `scopedKey_left_inj`: on one instance a key tells identifiers apart but for
  their case, and for one identifier it tells instances apart.
* `scopedKey_eq_iff`: two keys are the same iff they are meant to be or the ids overlap.
* `Overlaps.named`: ids overlap only if the instances are of one kind and the host of one is that of
  the other, a colon and some text. Where no two hosts are like that, a key is as good as the
  instance and the identifier (`scopedKey_eq_iff_of_named`).
-/

namespace ForgeBoard

open Text

variable {id id' identifier identifier' : String}

/-- On one instance, a key tells identifiers apart but for their case. -/
theorem scopedKey_right_inj (h : scopedKey id identifier = scopedKey id identifier') :
    lower identifier = lower identifier' :=
  (String.append_right_inj _).mp h

/-- For one identifier, a key tells the instances apart. -/
theorem scopedKey_left_inj (h : scopedKey id identifier = scopedKey id' identifier) : id = id' := by
  rw [scopedKey, scopedKey, String.append_assoc, String.append_assoc] at h
  exact (String.append_left_inj _).mp h

/-- The second id goes on with a colon where the first one ends, and the first identifier begins
with the rest of it: as with `8080:x` on `gitlab:h`, and `x` on `gitlab:h:8080`. -/
def Overlaps (id identifier id' identifier' : String) : Prop :=
  ∃ rest, id' = id ++ ":" ++ rest ∧ lower identifier = rest ++ ":" ++ lower identifier'

theorem Overlaps.scopedKey_eq (h : Overlaps id identifier id' identifier') :
    scopedKey id identifier = scopedKey id' identifier' := by
  obtain ⟨rest, rfl, hidentifier⟩ := h
  rw [scopedKey, scopedKey, hidentifier]
  simp only [String.append_assoc]

/-- What two keys are where one id begins with the other. -/
theorem eq_or_overlaps {middle : List Char} (hid : id'.toList = id.toList ++ middle)
    (hidentifier : ':' :: (lower identifier).toList = middle ++ ':' :: (lower identifier').toList) :
    (id = id' ∧ lower identifier = lower identifier') ∨
      Overlaps id identifier id' identifier' := by
  cases middle with
  | nil =>
    rw [List.append_nil] at hid
    exact .inl ⟨(String.toList_injective hid).symm,
      String.toList_injective (List.cons.inj hidentifier).2⟩
  | cons c rest =>
    obtain ⟨rfl, hrest⟩ := List.cons.inj hidentifier
    refine .inr ⟨String.ofList rest, String.toList_injective ?_, String.toList_injective ?_⟩
    · simp [hid]
    · simp only [String.toList_append, String.toList_ofList, List.append_assoc]
      exact hrest

/-- **Two keys are the same** iff they are meant to be, or one id overlaps the other. -/
theorem scopedKey_eq_iff :
    scopedKey id identifier = scopedKey id' identifier' ↔
      (id = id' ∧ lower identifier = lower identifier') ∨
        Overlaps id identifier id' identifier' ∨ Overlaps id' identifier' id identifier := by
  constructor
  · intro h
    have hchars : id.toList ++ ':' :: (lower identifier).toList =
        id'.toList ++ ':' :: (lower identifier').toList := by
      have h := congrArg String.toList h
      simpa [scopedKey] using h
    obtain ⟨middle, hid, hidentifier⟩ | ⟨middle, hid, hidentifier⟩ :=
      List.append_eq_append_iff.mp hchars
    · exact (eq_or_overlaps hid hidentifier).imp_right .inl
    · refine (eq_or_overlaps hid hidentifier).imp (fun h => ?_) .inr
      exact ⟨h.1.symm, h.2.symm⟩
  · rintro (⟨rfl, h⟩ | h | h)
    · rw [scopedKey, scopedKey, h]
    · exact h.scopedKey_eq
    · exact h.scopedKey_eq.symm

/-! ## Named instances -/

variable {i j : Instance}

/-- **Whose ids overlap**: instances of one kind, where one host goes on with a colon after the
other. -/
theorem Overlaps.named (hi : i.Named) (hj : j.Named)
    (h : Overlaps i.id identifier j.id identifier') :
    i.kind = j.kind ∧ ∃ rest, j.host = i.host ++ ":" ++ rest := by
  obtain ⟨rest, hid, -⟩ := h
  have hlonger : Instance.Named { i with id := j.id, host := i.host ++ ":" ++ rest } := by
    change j.id = i.kind.name ++ ":" ++ (i.host ++ ":" ++ rest)
    rw [hid, hi]
    simp only [String.append_assoc]
  exact ⟨hlonger.kind_eq hj rfl, rest, (hlonger.host_eq hj rfl).symm⟩

/-- Where neither host goes on with a colon after the other, only keys that are meant to be are the
same. -/
theorem scopedKey_eq_iff_of_named (hi : i.Named) (hj : j.Named)
    (hij : ∀ rest, j.host ≠ i.host ++ ":" ++ rest) (hji : ∀ rest, i.host ≠ j.host ++ ":" ++ rest) :
    scopedKey i.id identifier = scopedKey j.id identifier' ↔
      i.id = j.id ∧ lower identifier = lower identifier' := by
  rw [scopedKey_eq_iff]
  refine or_iff_left ?_
  rintro (h | h)
  · obtain ⟨-, rest, hhost⟩ := h.named hi hj
    exact hij rest hhost
  · obtain ⟨-, rest, hhost⟩ := h.named hj hi
    exact hji rest hhost

end ForgeBoard
