import ForgeBoard.Proofs.Filter.Legacy
import ForgeBoard.Proofs.Filter.Partition
import ForgeBoard.Proofs.Text.Words

/-!
# Which token the legacy check reports

The check for the legacy syntax stops at a colon and cuts the token around it out of the text, at
byte offsets that it finds by looking for blanks on either side. A cut inside of a character is not
possible.

* `FirstColon`: the colon is the first one outside quotes. `checkLegacy_of_firstColon` and
  `exists_firstColon`: the check stops there, and only there.
* `tokenStart?_eq`, `tokenStop?_eq`: the offsets are those of the ends of the word around the colon,
  whatever number of bytes its characters and the blanks beside it have.
* `CutOut`: the token is this word, and all offsets at which it is cut are between two characters.

Result: `checkLegacy_eq_qualifier_iff`.
-/

namespace ForgeBoard.Filter

open Text

/-! ## Parts of a text -/

variable {source : String} {before mid after : List Char}

theorem slice?_eq_some_iff {start stop : Nat} {part : String} :
    slice? source start stop = some part ↔
      String.Pos.Raw.IsValid source ⟨start⟩ ∧ String.Pos.Raw.IsValid source ⟨stop⟩ ∧
        start ≤ stop ∧ String.Pos.Raw.extract source ⟨start⟩ ⟨stop⟩ = part := by
  unfold slice?
  split
  · next h => simp [h]
  · next h =>
    refine ⟨nofun, fun hpart => absurd ⟨hpart.1, hpart.2.1, hpart.2.2.1⟩ h⟩

/-- A text is cut between characters. -/
theorem slice?_of_append (h : source.toList = before ++ mid ++ after) :
    slice? source (byteLength before) (byteLength before + byteLength mid) =
      some (String.ofList mid) := by
  refine slice?_eq_some_iff.mpr ⟨?_, ?_, Nat.le_add_right _ _, extract_of_append h⟩
  · exact isValid_of_append (show source.toList = before ++ (mid ++ after) by
      rw [h, List.append_assoc])
  · rw [← byteLength_append]
    exact isValid_of_append h

theorem slice?_before (h : source.toList = before ++ after) :
    slice? source 0 (byteLength before) = some (String.ofList before) := by
  have hpart := slice?_of_append (show source.toList = [] ++ before ++ after from h)
  rwa [show byteLength [] = 0 from rfl, Nat.zero_add] at hpart

theorem slice?_behind (h : source.toList = before ++ after) :
    slice? source (byteLength before) source.utf8ByteSize = some (String.ofList after) := by
  have hpart := slice?_of_append (show source.toList = before ++ after ++ [] by
    rw [h, List.append_nil])
  rwa [← byteLength_append, ← h, byteLength_toList] at hpart

/-! ## The places of blanks -/

variable {p : Char → Bool} {cs run : List Char} {c : Char}

theorem firstOffset?_eq_none (h : ∀ d ∈ cs, p d = false) : firstOffset? p cs = none := by
  induction cs with
  | nil => rfl
  | cons d cs ih =>
    obtain ⟨hd, hcs⟩ := List.forall_mem_cons.mp h
    rw [firstOffset?, if_neg (ne_true_of_eq_false hd), ih hcs]
    rfl

theorem firstOffset?_append_cons (h : ∀ d ∈ run, p d = false) (hc : p c = true)
    (rest : List Char) : firstOffset? p (run ++ c :: rest) = some (byteLength run) := by
  induction run with
  | nil => exact if_pos hc
  | cons d run ih =>
    obtain ⟨hd, hrun⟩ := List.forall_mem_cons.mp h
    rw [List.cons_append, firstOffset?, if_neg (ne_true_of_eq_false hd), ih hrun]
    rfl

theorem lastOffset?_eq_none (h : ∀ d ∈ cs, p d = false) : lastOffset? p cs = none := by
  induction cs with
  | nil => rfl
  | cons d cs ih =>
    obtain ⟨hd, hcs⟩ := List.forall_mem_cons.mp h
    rw [lastOffset?, ih hcs]
    exact if_neg (ne_true_of_eq_false hd)

theorem lastOffset?_append_cons (hc : p c = true) (h : ∀ d ∈ run, p d = false)
    (before : List Char) : lastOffset? p (before ++ c :: run) = some (byteLength before) := by
  induction before with
  | nil =>
    rw [List.nil_append, lastOffset?, lastOffset?_eq_none h]
    exact if_pos hc
  | cons d before ih =>
    rw [List.cons_append, lastOffset?, ih]
    rfl

/-- The offset of a character that is found is between two characters. -/
theorem exists_of_lastOffset? {offset : Nat} (h : lastOffset? p cs = some offset) :
    ∃ before after, cs = before ++ after ∧ offset = byteLength before := by
  induction cs generalizing offset with
  | nil => exact absurd h nofun
  | cons d cs ih =>
    rw [lastOffset?] at h
    split at h
    · next later hlater =>
      obtain ⟨before, after, rfl, rfl⟩ := ih hlater
      exact ⟨d :: before, after, rfl, (Option.some.inj h).symm⟩
    · obtain ⟨-, h⟩ := Option.ite_none_right_eq_some.mp h
      exact ⟨[], d :: cs, rfl, (Option.some.inj h).symm⟩

/-! ## The word around a place -/

variable {front left right behind : List Char}

theorem tokenStart?_eq (h : source.toList = front ++ left ++ after)
    (hfront : ∀ c ∈ front.getLast?, isBlank c = true) (hleft : ∀ c ∈ left, isBlank c = false) :
    tokenStart? source (byteLength (front ++ left)) = some (byteLength front) := by
  simp only [tokenStart?, slice?_before h, Option.bind_eq_bind, Option.bind_some,
    String.toList_ofList]
  rcases List.eq_nil_or_concat front with rfl | ⟨init, c, rfl⟩
  · rw [List.nil_append, lastOffset?_eq_none hleft]
    rfl
  · have hc : isBlank c = true := hfront c (by simp)
    have hrest : source.toList = init ++ c :: (left ++ after) := by
      rw [h]
      simp
    have hblank := lastOffset?_append_cons hc hleft init
    rw [List.concat_eq_append, List.append_assoc, List.singleton_append, hblank]
    simp only [slice?_behind hrest, Option.bind_some, String.toList_ofList]
    rw [byteLength_append]
    rfl

theorem tokenStop?_eq (h : source.toList = before ++ (right ++ behind))
    (hright : ∀ c ∈ right, isBlank c = false) (hbehind : ∀ c ∈ behind.head?, isBlank c = true) :
    tokenStop? source (byteLength before) = some (byteLength before + byteLength right) := by
  simp only [tokenStop?, slice?_behind h, Option.bind_eq_bind, Option.bind_some,
    String.toList_ofList]
  cases behind with
  | nil =>
    rw [List.append_nil] at h ⊢
    rw [firstOffset?_eq_none hright, ← byteLength_toList, h, byteLength_append]
    rfl
  | cons c behind =>
    rw [firstOffset?_append_cons hright (hbehind c rfl)]
    rfl

/-- **The word around a place** is cut out of the text, whatever its characters are. -/
theorem tokenAround?_of_wordAt (h : WordAt source front (left ++ right) behind) :
    tokenAround? source (byteLength (front ++ left)) = some (String.ofList (left ++ right)) := by
  obtain ⟨hleft, hright⟩ := List.forall_mem_append.mp h.noBlank
  have htext : source.toList = front ++ left ++ (right ++ behind) := by
    rw [h.text]
    simp only [List.append_assoc]
  have hstart := tokenStart?_eq htext h.front hleft
  have hstop := tokenStop?_eq htext hright h.behind
  have hpart := slice?_of_append h.text
  have htight : Tight (String.ofList (left ++ right)) :=
    tight_of_no_blank (by simpa using h.ne_nil) (by simpa using h.noBlank)
  rw [byteLength_append left right, ← Nat.add_assoc, ← byteLength_append front left] at hpart
  simp only [tokenAround?, hstart, hstop, hpart, Option.bind_eq_bind, Option.bind_some,
    trim_of_tight htight]
  rfl

/-- Around every character that is not blank there is a word. -/
theorem exists_wordAt_around (h : source.toList = before ++ c :: after)
    (hc : isBlank c = false) :
    ∃ front left right behind, before = front ++ left ∧ after = right ++ behind ∧
      WordAt source front (left ++ c :: right) behind := by
  obtain ⟨left, hbefore, hleft⟩ := dropEndWhile_append (!isBlank ·) before
  have hafter := (List.takeWhile_append_dropWhile (p := (!isBlank ·)) (l := after)).symm
  refine ⟨_, left, _, _, hbefore, hafter, ?_, by simp, ?_, fun d hd => ?_, fun d hd => ?_⟩
  · calc source.toList = before ++ c :: after := h
      _ = _ := by
        conv_lhs => rw [hbefore, hafter]
        simp only [List.append_assoc, List.cons_append]
  · refine List.forall_mem_append.mpr ⟨by simpa using hleft, List.forall_mem_cons.mpr ⟨hc, ?_⟩⟩
    intro d hd
    simpa using List.mem_takeWhile_imp hd
  · rw [dropEndWhile, List.getLast?_reverse] at hd
    have hlast := List.head?_dropWhile_not (!isBlank ·) before.reverse
    rw [hd] at hlast
    simpa using hlast
  · have hhead := List.head?_dropWhile_not (!isBlank ·) after
    rw [hd] at hhead
    simpa using hhead

/-! ## The first colon outside quotes -/

/-- The state of the check after a text. -/
def QuoteState.ofChars (cs : List Char) : QuoteState :=
  cs.foldl QuoteState.step .outside

/-- The colon between two parts of a text is the first one outside quotes. -/
structure FirstColon (source : String) (before after : List Char) : Prop where
  text : source.toList = before ++ ':' :: after
  unquoted : (QuoteState.ofChars before).quoted = false
  first : ∀ front rest, before = front ++ ':' :: rest → (QuoteState.ofChars front).quoted = true

variable {state : QuoteState}

/-- The check walks on as long as all colons are inside quotes. -/
theorem legacyScan_append
    (h : ∀ front rest, mid = front ++ ':' :: rest →
      (front.foldl QuoteState.step state).quoted = true)
    (before rest : List Char) :
    legacyScan state before (mid ++ rest) =
      legacyScan (mid.foldl QuoteState.step state) (mid.reverse ++ before) rest := by
  induction mid generalizing state before with
  | nil => rfl
  | cons c mid ih =>
    have hc : ¬ (c = ':' ∧ state.quoted = false) := by
      rintro ⟨rfl, hquoted⟩
      exact absurd (hquoted.symm.trans (h [] mid rfl)) nofun
    rw [List.cons_append, legacyScan, if_neg hc,
      ih (fun front rest hmid => h (c :: front) rest (by rw [hmid]; rfl)), List.foldl_cons]
    simp

/-- Where the check stops at a colon, this is the first one outside quotes. -/
theorem exists_of_legacyScan {token : String}
    (h : legacyScan state before cs = .error (.qualifier token)) :
    ∃ mid after, cs = mid ++ ':' :: after ∧ (mid.foldl QuoteState.step state).quoted = false ∧
      ∀ front rest, mid = front ++ ':' :: rest →
        (front.foldl QuoteState.step state).quoted = true := by
  induction cs generalizing state before with
  | nil =>
    rw [legacyScan] at h
    split at h <;> cases h
  | cons c cs ih =>
    rw [legacyScan] at h
    split at h
    · next hc =>
      obtain ⟨rfl, hquoted⟩ := hc
      exact ⟨[], cs, rfl, hquoted, by simp⟩
    · next hc =>
      obtain ⟨mid, after, rfl, hmid, hfirst⟩ := ih h
      refine ⟨c :: mid, after, rfl, hmid, fun front rest heq => ?_⟩
      cases front with
      | nil =>
        obtain ⟨rfl, -⟩ := List.cons.inj heq
        exact Bool.of_not_eq_false fun hquoted => hc ⟨rfl, hquoted⟩
      | cons d front =>
        obtain ⟨rfl, hrest⟩ := List.cons.inj heq
        exact hfirst front rest hrest

theorem isBlankText_eq_false_of_mem (hmem : c ∈ source.toList) (hc : isBlank c = false) :
    isBlankText source = false := by
  refine Bool.eq_false_iff.mpr fun hblank => ?_
  exact absurd ((List.all_eq_true.mp hblank c hmem).symm.trans hc) nofun

/-- **The check stops at the first colon outside quotes.** -/
theorem checkLegacy_of_firstColon (h : FirstColon source before after) :
    checkLegacy source =
      .error (.qualifier ((tokenAround? source (byteLength before)).getD "")) := by
  have hcolon : ':' ∈ source.toList := by
    rw [h.text]
    simp
  have hlength : byteLength before.reverse = byteLength before := by
    rw [byteLength_eq_utf8Len, byteLength_eq_utf8Len]
    exact String.utf8Len_reverse before
  have hscan := legacyScan_append h.first [] (':' :: after)
  rw [checkLegacy, isBlankText_eq_false_of_mem hcolon (by decide), h.text]
  refine hscan.trans ?_
  rw [legacyScan, if_pos ⟨rfl, h.unquoted⟩, List.append_nil, List.reverse_reverse, ← h.text,
    String.ofList_toList, hlength]

theorem exists_firstColon {token : String}
    (h : checkLegacy source = .error (.qualifier token)) :
    ∃ before after, FirstColon source before after := by
  unfold checkLegacy at h
  split at h
  · exact absurd h nofun
  · obtain ⟨before, after, htext, hunquoted, hfirst⟩ := exists_of_legacyScan h
    exact ⟨before, after, htext, hunquoted, hfirst⟩

/-! ## The token -/

/-- The token is the word around a place of a text, and it is cut out between characters. `front`
and `behind` are the text on either side of it. -/
structure CutOut (source : String) (before after front : List Char) (token : String)
    (behind : List Char) : Prop where
  /-- It is a longest run of characters that are not blank. -/
  word : WordAt source front token.toList behind
  /-- The place is in it. -/
  begins : front <+: before
  ends : behind <:+ after
  start_eq : tokenStart? source (byteLength before) = some (byteLength front)
  stop_eq : tokenStop? source (byteLength before) = some (byteLength front + token.utf8ByteSize)
  /-- No cut fails. -/
  token_eq : tokenAround? source (byteLength before) = some token
  /-- The offsets of the place, of the ends of the token and of the last blank before it. -/
  valid : ∀ offset, offset = byteLength before ∨ offset = byteLength front ∨
    offset = byteLength front + token.utf8ByteSize ∨ lastOffset? isBlank before = some offset →
      String.Pos.Raw.IsValid source ⟨offset⟩

/-- **Around a character that is not blank** a word is cut out. -/
theorem exists_cutOut (h : source.toList = before ++ c :: after) (hc : isBlank c = false) :
    ∃ front token behind, CutOut source before after front token behind := by
  obtain ⟨front, left, right, behind, rfl, rfl, hword⟩ := exists_wordAt_around h hc
  obtain ⟨hleft, hright⟩ := List.forall_mem_append.mp hword.noBlank
  have hsize : (String.ofList (left ++ c :: right)).utf8ByteSize =
      byteLength left + byteLength (c :: right) := by
    rw [← byteLength_append, byteLength_eq_utf8Len, String.utf8ByteSize_ofList]
  refine ⟨front, String.ofList (left ++ c :: right), behind, ?_, List.prefix_append _ _,
    List.suffix_append _ _, ?_, ?_, tokenAround?_of_wordAt hword, ?_⟩
  · rwa [String.toList_ofList]
  · exact tokenStart?_eq h hword.front hleft
  · have hstop := tokenStop?_eq (show source.toList = _ ++ (c :: right ++ behind) from h) hright
      hword.behind
    rw [hstop, hsize, byteLength_append, Nat.add_assoc]
  · rintro offset (rfl | rfl | rfl | hblank)
    · exact isValid_of_append h
    · exact isValid_of_append (hword.text.trans (List.append_assoc _ _ _))
    · rw [hsize, ← byteLength_append, ← byteLength_append]
      exact isValid_of_append hword.text
    · obtain ⟨init, rest, hbefore, rfl⟩ := exists_of_lastOffset? hblank
      rw [hbefore, List.append_assoc] at h
      exact isValid_of_append h

/-- **The report names the right token.** A text is refused for a token iff a colon stands outside
quotes, and then the token is the longest run of characters that are not blank around the first such
colon. It is cut out of the text between characters, wherever there are characters or blanks of
several bytes. -/
theorem checkLegacy_eq_qualifier_iff {token : String} :
    checkLegacy source = .error (.qualifier token) ↔
      ∃ before after, FirstColon source before after ∧
        ∃ front behind, CutOut source before after front token behind := by
  constructor
  · intro h
    obtain ⟨before, after, hcolon⟩ := exists_firstColon h
    obtain ⟨front, word, behind, hcut⟩ := exists_cutOut hcolon.text (by decide)
    have hword := checkLegacy_of_firstColon hcolon
    rw [hcut.token_eq, Option.getD_some, h] at hword
    obtain rfl := LegacyFault.qualifier.inj (Except.error.inj hword)
    exact ⟨before, after, hcolon, front, behind, hcut⟩
  · rintro ⟨before, after, hcolon, front, behind, hcut⟩
    rw [checkLegacy_of_firstColon hcolon, hcut.token_eq, Option.getD_some]

/-- A colon in quotes, and a token between blanks of three bytes. -/
example : checkLegacy "ü = \"a:b\"\u3000é:ß\u3000is:open" = .error (.qualifier "é:ß") := by
  decide +kernel

end ForgeBoard.Filter
