import ForgeBoard.Text.Digits
import Mathlib.Data.List.Basic
import Mathlib.Data.UInt

/-!
# Percent encodings are read back

Each encoding keeps some ASCII characters and writes the bytes of all others in their percent form.
A percent sign is never kept, so every one that is written begins such a form.

* `InPercentForm`, `percentBytes_flatMap`: a text encoded in this way has the bytes of the text it
  comes from, and these are no other text's (`eq_of_bytes`).
* `toList_encodeSegment`, `mem_encodeSegment`: a path segment, byte by byte, and the characters that
  may be in it.
* `decodePercent?_encodeSegment`, `encodeFormText_inj`: both encodings are read back.
-/

namespace ForgeBoard.Text

/-! ## Bytes -/

variable {b : UInt8} {c : Char} {cs ds : List Char} {s : String}

theorem utf8EncodeChar_of_le (h : c.toNat ≤ 127) :
    String.utf8EncodeChar c = [UInt8.ofNat c.toNat] := by
  rw [String.utf8EncodeChar]
  exact if_pos h

/-- All bytes of a character that is not ASCII are greater than those that are. -/
theorem lt_of_mem_utf8EncodeChar (h : 127 < c.toNat) (hb : b ∈ String.utf8EncodeChar c) :
    127 < b.toNat := by
  have hv : ¬ c.val.toNat ≤ 127 := Nat.not_le.mpr h
  rw [String.utf8EncodeChar, if_neg hv] at hb
  split_ifs at hb
  all_goals
    simp only [List.mem_cons, List.not_mem_nil, or_false] at hb
    grind [UInt8.toNat_ofNat']

/-- Texts with the same bytes are equal. -/
theorem eq_of_bytes (h : cs.flatMap String.utf8EncodeChar = ds.flatMap String.utf8EncodeChar) :
    cs = ds := by
  have hbytes : cs.utf8Encode = ds.utf8Encode := congrArg List.toByteArray h
  have hdecode := congrArg ByteArray.utf8Decode? hbytes
  rw [List.utf8Decode?_utf8Encode, List.utf8Decode?_utf8Encode] at hdecode
  exact congrArg Array.toList (Option.some.inj hdecode)

theorem bytes_eq_flatMap (s : String) :
    s.toUTF8.data.toList = s.toList.flatMap String.utf8EncodeChar := by
  rw [String.toUTF8_eq_toByteArray, ← String.utf8Encode_toList, List.utf8Encode,
    List.data_toByteArray]

theorem fromUTF8?_toUTF8 (s : String) : String.fromUTF8? s.toUTF8 = some s :=
  dif_pos s.isValidUTF8

/-! ## Percent forms -/

theorem hexValue?_hexDigit : ∀ n < 16, hexValue? (hexDigit n) = some n := by
  decide

theorem isUnreserved_hexDigit : ∀ n < 16, isUnreserved (hexDigit n) = true := by
  decide

theorem baseValue?_hexDigits (b : UInt8) :
    baseValue? 16 [hexDigit (b.toNat / 16), hexDigit (b.toNat % 16)] = some b.toNat := by
  have hhigh : b.toNat / 16 < 16 := by
    have := b.toNat_lt
    omega
  have hlow : b.toNat % 16 < 16 := Nat.mod_lt _ (by decide)
  simp [baseValue?, hexValue?_hexDigit _ hhigh, hexValue?_hexDigit _ hlow, hhigh, hlow,
    Nat.div_add_mod]

theorem percentBytes_percentByte_append (b : UInt8) (rest : List Char) :
    percentBytes (percentByte b ++ rest) = b :: percentBytes rest := by
  change percentBytes ('%' :: hexDigit (b.toNat / 16) :: hexDigit (b.toNat % 16) :: rest) = _
  rw [percentBytes, baseValue?_hexDigits]
  simp

theorem percentBytes_flatMap_percentByte_append (bs : List UInt8) (rest : List Char) :
    percentBytes (bs.flatMap percentByte ++ rest) = bs ++ percentBytes rest := by
  induction bs with
  | nil => rfl
  | cons b bs ih =>
    rw [List.flatMap_cons, List.append_assoc, percentBytes_percentByte_append, ih, List.cons_append]

theorem percentBytes_cons_of_ne (h : c ≠ '%') (rest : List Char) :
    percentBytes (c :: rest) = String.utf8EncodeChar c ++ percentBytes rest := by
  rw [percentBytes]
  rintro _ _ _ rfl
  exact absurd rfl h

/-- What a character is written as: itself, or all of its bytes in their percent form. -/
def InPercentForm (c : Char) (written : List Char) : Prop :=
  written = [c] ∧ c ≠ '%' ∨ written = percentChar c

/-- **An encoded text has the bytes of the text.** -/
theorem percentBytes_flatMap {encode : Char → List Char} (h : ∀ c, InPercentForm c (encode c))
    (cs : List Char) : percentBytes (cs.flatMap encode) = cs.flatMap String.utf8EncodeChar := by
  induction cs with
  | nil => rfl
  | cons c cs ih =>
    rw [List.flatMap_cons, List.flatMap_cons]
    obtain ⟨hkept, hne⟩ | hforms := h c
    · rw [hkept, List.singleton_append, percentBytes_cons_of_ne hne, ih]
    · rw [hforms, percentChar, percentBytes_flatMap_percentByte_append, ih]

/-! ## Path segments -/

theorem toNat_le_of_isAlphanum (h : c.isAlphanum = true) : c.toNat ≤ 127 := by
  obtain hletter | hdigit := Bool.or_eq_true_iff.mp h
  · obtain hupper | hlower := Bool.or_eq_true_iff.mp hletter
    · have hle : c.toNat ≤ 'Z'.toNat := (of_decide_eq_true hupper).2
      exact Nat.le_trans hle (by decide)
    · have hle : c.toNat ≤ 'z'.toNat := of_decide_eq_true (Bool.and_eq_true_iff.mp hlower).2
      exact Nat.le_trans hle (by decide)
  · have hle : c.toNat ≤ '9'.toNat := of_decide_eq_true (Bool.and_eq_true_iff.mp hdigit).2
    exact Nat.le_trans hle (by decide)

theorem toNat_le_of_isUnreserved (h : isUnreserved c = true) : c.toNat ≤ 127 := by
  simp only [isUnreserved, Bool.or_eq_true, beq_iff_eq] at h
  obtain (((h | rfl) | rfl) | rfl) | rfl := h
  · exact toNat_le_of_isAlphanum h
  all_goals decide

theorem inPercentForm_encodeSegmentChar (c : Char) : InPercentForm c (encodeSegmentChar c) := by
  unfold encodeSegmentChar
  split
  · next h => exact .inl ⟨rfl, fun hc => absurd (hc ▸ h) (by decide)⟩
  · exact .inr rfl

/-- A byte in a path segment: ASCII letters, digits and `-_.~` are kept. -/
def segmentByte (b : UInt8) : List Char :=
  if isUnreserved b.toChar then [b.toChar] else percentByte b

theorem segmentByte_of_lt (h : 127 < b.toNat) : segmentByte b = percentByte b := by
  refine if_neg fun hkept => absurd (toNat_le_of_isUnreserved hkept) ?_
  exact Nat.not_le.mpr (show 127 < b.toChar.toNat from h)

/-- The rule for characters is the rule for bytes: only ASCII characters are kept, and each of them
is a byte. -/
theorem flatMap_segmentByte (c : Char) :
    (String.utf8EncodeChar c).flatMap segmentByte = encodeSegmentChar c := by
  rcases Nat.lt_or_ge 127 c.toNat with hc | hc
  · have hkept : ¬ isUnreserved c = true := fun h =>
      absurd (toNat_le_of_isUnreserved h) (Nat.not_le.mpr hc)
    rw [encodeSegmentChar, if_neg hkept, percentChar]
    exact List.flatMap_congr fun b hb => segmentByte_of_lt (lt_of_mem_utf8EncodeChar hc hb)
  · have hbyte : (UInt8.ofNat c.toNat).toChar = c :=
      Char.toNat_inj.mp (UInt8.toNat_ofNat_of_lt' (Nat.lt_of_le_of_lt hc (by decide)))
    rw [encodeSegmentChar, percentChar, utf8EncodeChar_of_le hc, List.flatMap_singleton,
      List.flatMap_singleton, segmentByte, hbyte]

/-- **A path segment is written byte by byte.** -/
theorem toList_encodeSegment (s : String) :
    (encodeSegment s).toList = s.toUTF8.data.toList.flatMap segmentByte := by
  rw [bytes_eq_flatMap, List.flatMap_assoc]
  simp only [flatMap_segmentByte]
  exact String.toList_ofList

theorem mem_percentByte (h : c ∈ percentByte b) : c = '%' ∨ isUnreserved c = true := by
  have hb := b.toNat_lt
  simp only [percentByte, List.mem_cons, List.not_mem_nil, or_false] at h
  obtain rfl | rfl | rfl := h
  · exact .inl rfl
  · exact .inr (isUnreserved_hexDigit _ (by omega))
  · exact .inr (isUnreserved_hexDigit _ (by omega))

/-- No character that has a meaning in an address is in a path segment, but for percent signs. -/
theorem mem_encodeSegment (h : c ∈ (encodeSegment s).toList) : c = '%' ∨ isUnreserved c = true := by
  rw [toList_encodeSegment, List.mem_flatMap] at h
  obtain ⟨b, -, hc⟩ := h
  unfold segmentByte at hc
  split at hc
  · next hkept => exact .inr (List.mem_singleton.mp hc ▸ hkept)
  · exact mem_percentByte hc

/-- **A path segment is read back.** -/
theorem decodePercent?_encodeSegment (s : String) :
    decodePercent? (encodeSegment s).toList = some s.toList := by
  have hbytes : percentBytes (encodeSegment s).toList = s.toUTF8.data.toList := by
    rw [bytes_eq_flatMap]
    exact (congrArg percentBytes String.toList_ofList).trans
      (percentBytes_flatMap inPercentForm_encodeSegmentChar _)
  rw [decodePercent?, hbytes]
  exact congrArg (Option.map String.toList) (fromUTF8?_toUTF8 s)

theorem encodeSegment_inj {t : String} : encodeSegment s = encodeSegment t ↔ s = t := by
  refine ⟨fun h => ?_, congrArg encodeSegment⟩
  have hdecode := decodePercent?_encodeSegment s
  rw [h, decodePercent?_encodeSegment, Option.some_inj, String.toList_inj] at hdecode
  exact hdecode.symm

theorem encodeSegment_ne_empty (h : s ≠ "") : encodeSegment s ≠ "" :=
  fun hempty => h (encodeSegment_inj.mp hempty)

/-! ## Forms and queries -/

/-- The character that a character of a form stands for, percent forms apart. -/
def plusToSpace (c : Char) : Char :=
  if c = '+' then ' ' else c

theorem plusToSpace_of_isUnreserved_or (h : c = '%' ∨ isUnreserved c = true) :
    plusToSpace c = c := by
  refine if_neg ?_
  rintro rfl
  exact absurd h (by decide)

theorem map_plusToSpace_percentChar (c : Char) :
    (percentChar c).map plusToSpace = percentChar c := by
  refine (List.map_congr_left fun d hd => ?_).trans (List.map_id _)
  obtain ⟨b, -, hd⟩ := List.mem_flatMap.mp hd
  exact plusToSpace_of_isUnreserved_or (mem_percentByte hd)

theorem inPercentForm_encodeFormChar (c : Char) :
    InPercentForm c ((encodeFormChar c).map plusToSpace) := by
  unfold encodeFormChar
  split
  · next h =>
    obtain rfl := beq_iff_eq.mp h
    exact .inl ⟨rfl, by decide⟩
  · split
    · next h =>
      have hne : c ≠ '+' ∧ c ≠ '%' :=
        ⟨fun hc => absurd (hc ▸ h) (by decide), fun hc => absurd (hc ▸ h) (by decide)⟩
      exact .inl ⟨congrArg ([·]) (if_neg hne.1), hne.2⟩
    · exact .inr (map_plusToSpace_percentChar c)

/-- **A text in a form is read back**, so no two texts are written in the same way. -/
theorem encodeFormText_inj {t : String} : encodeFormText s = encodeFormText t ↔ s = t := by
  have hbytes : ∀ u : String, percentBytes ((encodeFormText u).toList.map plusToSpace) =
      u.toList.flatMap String.utf8EncodeChar := by
    intro u
    rw [encodeFormText, String.toList_ofList, List.map_flatMap]
    exact percentBytes_flatMap inPercentForm_encodeFormChar _
  refine ⟨fun h => String.toList_inj.mp (eq_of_bytes ?_), congrArg encodeFormText⟩
  rw [← hbytes s, h, hbytes t]

end ForgeBoard.Text
