import ForgeBoard.Text.Quoted

/-!
# The characters of a quoted text

Quoting adds characters of a small set only (`mem_quoteChars`), so what the characters of a text
are not, neither are those of the quoted text, up to that set.

A character that shows is quoted as itself, behind a backslash if it is a quote or a backslash. Any
other one is `spelled` out, and a text in which no such character is left is one without any
(`flatMap_spelled_eq_iff`).
-/

namespace ForgeBoard.Text

/-- The characters of which escapes are made, and the quote. -/
def escapeMarks : List Char :=
  "\"\\u\x7b\x7dtrn0123456789abcdef".toList

theorem mem_hexDigits {n : Nat} {c : Char} (h : c ∈ Nat.toDigits 16 n) :
    ∃ d, d < 16 ∧ c = Nat.digitChar d := by
  induction n using Nat.strongRecOn with
  | ind n ih =>
    rw [Nat.toDigits_eq_if (by decide)] at h
    split at h
    · next hn => exact ⟨n, hn, List.mem_singleton.mp h⟩
    · next hn =>
      rcases List.mem_append.mp h with h | h
      · exact ih (n / 16) (Nat.div_lt_self (by omega) (by decide)) h
      · exact ⟨n % 16, Nat.mod_lt n (by decide), List.mem_singleton.mp h⟩

theorem digitChar_mem_escapeMarks : ∀ d, d < 16 → Nat.digitChar d ∈ escapeMarks := by
  decide

theorem mem_escapeCodePoint {c d : Char} (h : d ∈ escapeCodePoint c) : d ∈ escapeMarks := by
  unfold escapeCodePoint at h
  rcases List.mem_append.mp h with h | h
  · rcases List.mem_append.mp h with h | h
    · have hopen : "\\u\x7b".toList ⊆ escapeMarks := by decide
      exact hopen h
    · obtain ⟨n, hn, rfl⟩ := mem_hexDigits h
      exact digitChar_mem_escapeMarks n hn
  · obtain rfl := List.mem_singleton.mp h
    decide

theorem mem_escapeChar {mark c d : Char} (h : d ∈ escapeChar mark c) :
    d = c ∨ d ∈ escapeMarks := by
  have short : ∀ e ∈ escapeMarks, d ∈ ['\\', e] → d = c ∨ d ∈ escapeMarks := by
    intro e he hd
    rcases List.mem_cons.mp hd with rfl | hd
    · exact .inr (by decide)
    · obtain rfl := List.mem_singleton.mp hd
      exact .inr he
  unfold escapeChar at h
  split at h
  · exact short '0' (by decide) h
  split at h
  · exact short 't' (by decide) h
  split at h
  · exact short 'r' (by decide) h
  split at h
  · exact short 'n' (by decide) h
  split at h
  · rcases List.mem_cons.mp h with rfl | h
    · exact .inr (by decide)
    · exact .inl (List.mem_singleton.mp h)
  split at h
  · exact .inl (List.mem_singleton.mp h)
  · exact .inr (mem_escapeCodePoint h)

/-- **A quoted text has the characters of the text and those of escapes.** -/
theorem mem_quoteChars {cs : List Char} {d : Char} (h : d ∈ quoteChars cs) :
    d ∈ cs ∨ d ∈ escapeMarks := by
  have quoteMark : '"' ∈ escapeMarks := by decide
  unfold quoteChars at h
  rcases List.mem_cons.mp h with rfl | h
  · exact .inr quoteMark
  rcases List.mem_append.mp h with h | h
  · obtain ⟨c, hc, hd⟩ := List.mem_flatMap.mp h
    rcases mem_escapeChar hd with rfl | hd
    · exact .inl hc
    · exact .inr hd
  · obtain rfl := List.mem_singleton.mp h
    exact .inr quoteMark

/-! ## One character -/

variable {c : Char} {cs : List Char}

/-- A character that is escaped by a backslash in front of it. -/
def IsEscapable (c : Char) : Prop :=
  c = '"' ∨ c = '\\'

instance : DecidablePred IsEscapable :=
  fun c => inferInstanceAs (Decidable (c = '"' ∨ c = '\\'))

theorem escapeChar_of_isEscapable (h : IsEscapable c) : escapeChar '"' c = ['\\', c] := by
  rcases h with rfl | rfl <;> rfl

theorem escapeChar_of_isVisible (h : isVisible c = true) (hc : ¬ IsEscapable c) :
    escapeChar '"' c = [c] := by
  have hmarks : (c == '"' || c == '\\') = false := by
    simpa [IsEscapable] using hc
  have hne : ∀ d, isVisible d = false → (c == d) = false := by
    intro d hd
    rw [beq_eq_false_iff_ne]
    rintro rfl
    exact absurd (h.symm.trans hd) nofun
  unfold escapeChar
  rw [hne '\x00' (by decide), hne '\t' (by decide), hne '\r' (by decide), hne '\n' (by decide),
    hmarks, h]
  rfl

/-- A character that does not show has an escape without a quote and without a second backslash. -/
theorem exists_escapeChar_of_not_isVisible (h : isVisible c = false) :
    ∃ d ds, escapeChar '"' c = '\\' :: d :: ds ∧ ∀ e ∈ d :: ds, ¬ IsEscapable e := by
  have hdigits : ∀ n, n < 16 → ¬ IsEscapable (Nat.digitChar n) := by decide
  have hmarks : ¬ (c == '"' || c == '\\') = true := by
    intro hmark
    rcases Bool.or_eq_true _ _ |>.mp hmark with hmark | hmark <;> rw [beq_iff_eq.mp hmark] at h <;>
      exact absurd h (by decide)
  have short : ∀ d, ¬ IsEscapable d →
      ∃ e ds, ['\\', d] = '\\' :: e :: ds ∧ ∀ f ∈ e :: ds, ¬ IsEscapable f :=
    fun d hd => ⟨d, [], rfl, List.forall_mem_singleton.mpr hd⟩
  unfold escapeChar
  rw [if_neg hmarks, h, if_neg Bool.false_ne_true]
  split
  · exact short '0' (by decide)
  split
  · exact short 't' (by decide)
  split
  · exact short 'r' (by decide)
  split
  · exact short 'n' (by decide)
  refine ⟨'u', '\x7b' :: (Nat.toDigits 16 c.toNat ++ ['\x7d']), rfl, ?_⟩
  simp only [List.forall_mem_cons, List.forall_mem_append]
  refine ⟨by decide, by decide, fun e he => ?_, by decide, List.forall_mem_nil _⟩
  obtain ⟨n, hn, rfl⟩ := mem_hexDigits he
  exact hdigits n hn

/-! ## Characters that are spelled out -/

/-- What is read for a character of a quoted text where a backslash only escapes a quote or a
backslash. -/
def spelled (c : Char) : List Char :=
  if IsEscapable c then [c] else escapeChar '"' c

theorem spelled_eq_singleton_iff : spelled c = [c] ↔ isVisible c = true := by
  unfold spelled
  constructor
  · intro h
    split at h
    · next hc => rcases hc with rfl | rfl <;> decide
    · rw [← Bool.not_eq_false]
      intro hhidden
      obtain ⟨d, ds, heq, -⟩ := exists_escapeChar_of_not_isVisible hhidden
      rw [heq] at h
      exact absurd h nofun
  · intro h
    split
    · rfl
    · next hc => exact escapeChar_of_isVisible h hc

theorem spelled_ne_nil (c : Char) : spelled c ≠ [] := by
  cases h : isVisible c with
  | true => exact spelled_eq_singleton_iff.mpr h ▸ List.cons_ne_nil _ _
  | false =>
    obtain ⟨d, ds, heq, -⟩ := exists_escapeChar_of_not_isVisible h
    unfold spelled
    split
    · exact List.cons_ne_nil _ _
    · exact heq ▸ List.cons_ne_nil _ _

theorem length_le_length_spelled (cs : List Char) : cs.length ≤ (cs.flatMap spelled).length := by
  induction cs with
  | nil => exact Nat.le_refl _
  | cons c cs ih =>
    have hpos := List.length_pos_iff.mpr (spelled_ne_nil c)
    rw [List.flatMap_cons, List.length_append, List.length_cons]
    omega

/-- **A text is read as itself** iff all its characters show: a spelling is longer than the
character. -/
theorem flatMap_spelled_eq_iff : cs.flatMap spelled = cs ↔ ∀ c ∈ cs, isVisible c = true := by
  induction cs with
  | nil => exact iff_of_true rfl (List.forall_mem_nil _)
  | cons c cs ih =>
    rw [List.flatMap_cons, List.forall_mem_cons, ← spelled_eq_singleton_iff, ← ih]
    constructor
    · intro h
      have hpos := List.length_pos_iff.mpr (spelled_ne_nil c)
      have hrest := length_le_length_spelled cs
      have hlength := congrArg List.length h
      rw [List.length_append, List.length_cons] at hlength
      have hone : (spelled c).length = [c].length := by
        rw [List.length_singleton]
        omega
      exact List.append_inj (h.trans (List.singleton_append).symm) hone
    · rintro ⟨hc, hcs⟩
      rw [hc, hcs, List.singleton_append]

end ForgeBoard.Text
