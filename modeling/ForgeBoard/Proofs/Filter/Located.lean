import ForgeBoard.Proofs.Filter.Munch
import ForgeBoard.Proofs.Filter.Parse.Complaints
import ForgeBoard.Proofs.Filter.Partition

/-!
# Where errors point

An error carries a byte offset of the source, and a complaint shows the token that it found there.
`ParseError.PointsInto` says that the offset is the right one.

* `Tokens.exists_front`: by induction on the tokens that a stream begins with, the text that they
  were scanned from has these tokens and no others, with any blanks behind it. A token does not
  change when the text behind it is cut off, since what is left does not go on with it.
* `exists_place_of_ofSource`: so a source divides where the tokens of its stream end: the text
  before this place scans to its end, and the rest of the stream is what is scanned from there.
* `Lexeme.fails_of_scan`: how a text begins from which no token is cut off.

Result: `error_points_into`.
-/

namespace ForgeBoard.Filter

open Text

/-! ## Texts at byte offsets -/

/-- The text of a source before a byte offset. -/
def textBefore (source : String) (offset : Nat) : String :=
  String.Pos.Raw.extract source ⟨0⟩ ⟨offset⟩

/-- The text of a source from a byte offset on. -/
def textFrom (source : String) (offset : Nat) : String :=
  String.Pos.Raw.extract source ⟨offset⟩ ⟨source.utf8ByteSize⟩

section

variable {source : String} {before after : List Char} (h : source.toList = before ++ after)

include h

theorem textBefore_of_append : textBefore source (byteLength before) = String.ofList before := by
  have hmid := extract_of_append (show source.toList = [] ++ before ++ after from h)
  rwa [show byteLength [] = 0 from rfl, Nat.zero_add] at hmid

theorem utf8ByteSize_of_append :
    source.utf8ByteSize = byteLength before + byteLength after := by
  rw [← byteLength_toList, h, byteLength_append]

theorem textFrom_of_append : textFrom source (byteLength before) = String.ofList after := by
  rw [textFrom, utf8ByteSize_of_append h]
  exact extract_of_append (show source.toList = before ++ after ++ [] by rw [h, List.append_nil])

end

/-! ## Cutting a text off behind its tokens -/

namespace Cursor

/-- Blanks in front are passed over. -/
theorem next_blanks {blanks : List Char} (h : ∀ d ∈ blanks, isBlank d = true) (offset : Nat)
    (cs : List Char) : next ⟨offset, blanks ++ cs⟩ = next ⟨offset + byteLength blanks, cs⟩ := by
  induction blanks generalizing offset with
  | nil => rfl
  | cons d blanks ih =>
    obtain ⟨hd, hblanks⟩ := List.forall_mem_cons.mp h
    rw [List.cons_append, next_blank hd, ih hblanks, byteLength, Nat.add_assoc]

theorem next_skipBlank (c : Cursor) : c.skipBlank.next = c.next := by
  conv_rhs => rw [show c = ⟨c.offset, c.rest.takeWhile isBlank ++ c.rest.dropWhile isBlank⟩ by
    rw [List.takeWhile_append_dropWhile]]
  exact (next_blanks c.isBlank_of_mem_blanks _ _).symm

/-- A step gives the same token when another text stands behind it, which does not go on with it. -/
theorem next_of_stops {c after : Cursor} {t : Token} (h : c.next = (.ok t, after))
    (ht : t.kind ≠ .eof) {rest : List Char} (hstops : Lexeme.Stops t.kind.goesOn rest) :
    next ⟨c.offset, c.rest.takeWhile isBlank ++ (t.text ++ rest)⟩ = (.ok t, ⟨t.stop, rest⟩) := by
  have halone := alone_of_next h ht
  have hscan := Lexeme.scan_append halone.scan_eq ht hstops
  obtain ⟨d, w, htext, hd⟩ := halone.exists_cons
  have hgap : c.offset + byteLength (c.rest.takeWhile isBlank) = t.start :=
    (start_of_next h).1.symm
  rw [next_blanks c.isBlank_of_mem_blanks, hgap]
  rw [htext, List.cons_append] at hscan ⊢
  rw [next_of_scan hd hscan, ← htext]
  rfl

theorem skipBlank_of_unblank {c : Cursor} (h : ∀ d ∈ c.rest.head?, isBlank d = false) :
    c.skipBlank = c := by
  obtain ⟨offset, rest⟩ := c
  cases rest with
  | nil => rfl
  | cons d rest =>
    have hd : ¬ isBlank d = true := ne_true_of_eq_false (h d rfl)
    rw [skipBlank, List.takeWhile_cons_of_neg hd, List.dropWhile_cons_of_neg hd]
    rfl

end Cursor

/-- What does not go on with a token does not do so when it is cut off and ends in blanks. -/
theorem Lexeme.stops_cut {kind : TokenKind} {front rest blanks : List Char}
    (h : Stops kind.goesOn (front ++ rest)) (hblanks : ∀ d ∈ blanks, isBlank d = true) :
    Stops kind.goesOn (front ++ blanks) := by
  cases front with
  | cons d front => exact stops_cons (h d rfl)
  | nil =>
    cases blanks with
    | nil => exact stops_nil _
    | cons d blanks => exact stops_cons (kind.goesOn_of_isBlank (hblanks d List.mem_cons_self))

namespace Tokens

theorem ofCursor_skipBlank (c : Cursor) : ofCursor c.skipBlank = ofCursor c := by
  rw [ofCursor_eq, ofCursor_eq c, c.next_skipBlank]

theorem ofCursor_blanks {blanks : List Char} (h : ∀ d ∈ blanks, isBlank d = true) (offset : Nat) :
    ofCursor ⟨offset, blanks⟩ = .finish (offset + byteLength blanks) := by
  have hnext := Cursor.next_blanks h offset []
  rw [List.append_nil] at hnext
  rw [ofCursor_eq, hnext, Cursor.next_nil]
  rfl

/-- **The text of the first tokens has these and no others**, by induction on them. -/
theorem exists_front {used : List Token} {c : Cursor} {tail : Tokens}
    (h : ofCursor c = prepend used tail) :
    ∃ front place, c.rest = front ++ Cursor.rest place ∧
      place.offset = c.offset + byteLength front ∧ ofCursor place = tail ∧
      ∀ blanks, (∀ d ∈ blanks, isBlank d = true) →
        ofCursor ⟨c.offset, front ++ blanks⟩ =
          prepend used (.finish (c.offset + byteLength (front ++ blanks))) := by
  induction used generalizing c with
  | nil => exact ⟨[], c, rfl, rfl, h, fun blanks hblanks => ofCursor_blanks hblanks c.offset⟩
  | cons t used ih =>
    obtain ⟨after, hnext, ht, hrest⟩ := next_of_token h
    obtain ⟨front, place, hafter, hoffset, htail, hcut⟩ := ih hrest
    obtain ⟨hstart, hstop⟩ := Cursor.start_of_next hnext
    have hgap : t.start = c.offset + byteLength (c.rest.takeWhile isBlank) := hstart
    refine ⟨c.rest.takeWhile isBlank ++ (t.text ++ front), place, ?_, ?_, htail,
      fun blanks hblanks => ?_⟩
    · rw [List.append_assoc, List.append_assoc, ← hafter]
      exact Cursor.rest_of_next hnext
    · rw [hoffset, hstop, Token.stop, hgap, byteLength_append, byteLength_append]
      omega
    · -- what stood behind the token did not go on with it, and what is left does not either
      have hstops : Lexeme.Stops t.kind.goesOn (front ++ place.rest) :=
        hafter ▸ Cursor.stops_of_next hnext
      have hstep := Cursor.next_of_stops hnext ht (Lexeme.stops_cut hstops hblanks)
      rw [List.append_assoc, List.append_assoc, ofCursor_eq, hstep]
      dsimp only
      rw [if_neg ht, prepend_cons, ← hstop, hcut blanks hblanks, hstop, Token.stop, hgap,
        byteLength_append (c.rest.takeWhile isBlank), byteLength_append t.text]
      congr 3
      omega

end Tokens

/-- **A source divides where the tokens of its stream end.** -/
theorem exists_place_of_ofSource {source : String} {used : List Token} {tail : Tokens}
    (h : Tokens.ofSource source = .prepend used tail) :
    ∃ before place, source.toList = before ++ Cursor.rest place ∧
      place.offset = byteLength before ∧ place.skipBlank = place ∧
      Tokens.ofCursor place = tail ∧
      tokenize (String.ofList before) = .ok (used ++ [⟨.eof, [], byteLength before⟩]) := by
  rw [Tokens.ofSource_eq] at h
  obtain ⟨front, place, hsource, hoffset, htail, hcut⟩ := Tokens.exists_front h
  have hsource : source.toList = front ++ place.rest := hsource
  have hoffset : place.offset = byteLength front := hoffset.trans (Nat.zero_add _)
  refine ⟨front ++ place.rest.takeWhile isBlank, place.skipBlank, ?_, ?_,
    Cursor.skipBlank_of_unblank place.unblank_skipBlank, ?_, ?_⟩
  · rw [hsource, List.append_assoc]
    exact congrArg (front ++ ·) List.takeWhile_append_dropWhile.symm
  · rw [byteLength_append, ← hoffset]
    rfl
  · rw [Tokens.ofCursor_skipBlank, htail]
  · have hbefore := hcut _ place.isBlank_of_mem_blanks
    refine tokenize_eq_ok_iff.mpr ⟨used, _, ?_, rfl⟩
    rw [Tokens.ofSource_eq, Cursor.start, String.toList_ofList]
    exact hbefore.trans (by rw [show (Cursor.start source).offset = 0 from rfl, Nat.zero_add])

/-! ## Where no token is cut off -/

namespace Lexeme

/-- How a text begins from which no token is cut off. -/
inductive Fails : LexFault → List Char → Prop where
  | unexpected (c : Char) (rest : List Char) : Fails (.unexpectedChar c) (c :: rest)
  | unterminated {body : List Char} :
    (∀ value n, ¬ ReadsString body value n) → Fails .unterminatedString ('"' :: body)
  | digits {body : List Char} : Stops Char.isDigit body → Fails .expectedDigits ('-' :: body)

variable {cs : List Char} {fault : LexFault}

theorem fails_quoted (h : (quoted ('"' :: cs)).result = .error fault) :
    Fails fault ('"' :: cs) := by
  unfold quoted at h
  rw [List.tail_cons] at h
  split at h
  · exact absurd h nofun
  · next hbody =>
    obtain rfl := Except.error.inj h
    refine .unterminated fun value n hreads => ?_
    exact absurd ((stringBody_eq_some_iff.mpr hreads).symm.trans hbody) nofun

/-- Only a lack of digits is a fault in an amount. -/
theorem stops_of_amount {sign body : List Char} (h : (amount sign body).result = .error fault) :
    fault = .expectedDigits ∧ body.takeWhile Char.isDigit = [] := by
  unfold amount at h
  dsimp only at h
  split at h
  · next hempty => exact ⟨(Except.error.inj h).symm, List.isEmpty_iff.mp hempty⟩
  · split at h
    · cases h
    · split at h <;> cases h

theorem fails_numeral {c : Char} (hc : isNumeralStart c = true)
    (h : (numeral (c :: cs)).result = .error fault) : Fails fault (c :: cs) := by
  unfold numeral at h
  split at h
  · next body hcons =>
    obtain ⟨rfl, rfl⟩ := List.cons.inj hcons
    obtain ⟨rfl, hdigits⟩ := stops_of_amount h
    have hstops := stops_dropWhile Char.isDigit cs
    have hall := List.takeWhile_append_dropWhile (p := Char.isDigit) (l := cs)
    rw [hdigits, List.nil_append] at hall
    exact .digits (hall ▸ hstops)
  · next hminus =>
    split at h
    · exact absurd h nofun
    · -- a numeral without a hyphen begins with a digit
      have hdigit : c.isDigit = true := by
        rw [isNumeralStart, Bool.or_eq_true, beq_iff_eq] at hc
        refine hc.resolve_left ?_
        rintro rfl
        exact hminus cs rfl
      obtain ⟨-, hdigits⟩ := stops_of_amount h
      rw [List.takeWhile_cons_of_pos hdigit] at hdigits
      exact absurd hdigits (List.cons_ne_nil _ _)

theorem fails_of_scan (h : (scan cs).result = .error fault) : Fails fault cs := by
  cases cs with
  | nil => exact absurd h nofun
  | cons c rest =>
    have hb := begins_scan c rest
    generalize scan (c :: rest) = l at h hb
    cases hb with
    | mark => exact absurd h nofun
    | operator =>
      unfold operator at h
      split at h <;> exact absurd h nofun
    | quoted hc => exact hc ▸ fails_quoted (hc ▸ h)
    | word => exact absurd h nofun
    | numeral hc => exact fails_numeral hc h
    | unexpected =>
      obtain rfl := Except.error.inj h
      exact .unexpected c rest

/-- A hyphen without digits is taken off by itself. -/
theorem scan_minus (h : Stops Char.isDigit cs) :
    scan ('-' :: cs) = ⟨.error .expectedDigits, ['-'], cs⟩ := by
  have hdigits : cs.takeWhile Char.isDigit = [] := by
    cases cs with
    | nil => rfl
    | cons d cs => exact List.takeWhile_cons_of_neg (ne_true_of_eq_false (h d rfl))
  show amount ['-'] cs = _
  unfold amount
  rw [hdigits]
  rfl

end Lexeme

/-- What an error of a step says: how the text begins there, and the offset, which is behind the
hyphen where digits are missing. -/
theorem Cursor.fails_of_next {c after : Cursor} {e : LexError} (hc : c.skipBlank = c)
    (h : c.next = (.error e, after)) :
    Lexeme.Fails e.fault c.rest ∧
      e.offset = c.offset + if e.fault = .expectedDigits then 1 else 0 := by
  unfold next at h
  rw [hc] at h
  dsimp only at h
  split at h
  · exact absurd (Prod.mk.inj h).1 nofun
  · next hresult =>
    obtain rfl := Except.error.inj (Prod.mk.inj h).1
    have hfails := Lexeme.fails_of_scan hresult
    refine ⟨hfails, ?_⟩
    generalize c.rest = rest at hfails
    cases hfails with
    | digits hstops =>
      rw [Lexeme.scan_minus hstops]
      rfl
  · next fault hne hresult =>
    obtain rfl := Except.error.inj (Prod.mk.inj h).1
    refine ⟨Lexeme.fails_of_scan hresult, ?_⟩
    rw [if_neg hne]
    rfl

/-! ## Errors of a source -/

/-- The text has tokens up to its end. -/
def Scannable (text : String) : Prop :=
  ∃ ts, tokenize text = .ok ts

namespace ParseError

/-- What an error says is so in the source, at the offset of the error. -/
def Describes (source : String) : ParseError → Prop
  | lex ⟨.unexpectedChar c, offset⟩ =>
    Scannable (textBefore source offset) ∧ (textFrom source offset).toList.head? = some c
  | lex ⟨.unterminatedString, offset⟩ =>
    Scannable (textBefore source offset) ∧
      ∃ body, (textFrom source offset).toList = '"' :: body ∧
        ∀ value n, ¬ Lexeme.ReadsString body value n
  | lex ⟨.expectedDigits, offset⟩ =>
    ∃ front, textBefore source offset = front ++ "-" ∧ Scannable front ∧
      Lexeme.Stops Char.isDigit (textFrom source offset).toList
  | syntactic _ found =>
    Scannable (textBefore source found.start) ∧
      (foundText found = "end of input" ↔ found.start = source.utf8ByteSize) ∧
      (found.start ≠ source.utf8ByteSize →
        foundText found = quote (found.slice source) ∧
          ∃ used rest, Tokens.ofSource source = .prepend used (.token found rest) ∧
            tokenize (textBefore source found.start) =
              .ok (used ++ [⟨.eof, [], found.start⟩]))

/-- The offset of the error is a place of the source, and what the error says is so there. -/
structure PointsInto (source : String) (e : ParseError) : Prop where
  bounded : e.offset ≤ source.utf8ByteSize
  boundary : String.Pos.Raw.IsValid source ⟨e.offset⟩
  described : e.Describes source

variable {source : String} {before after : List Char} {used : List Token} {e : ParseError}

theorem PointsInto.of_append (hsource : source.toList = before ++ after)
    (hoffset : e.offset = byteLength before) (h : e.Describes source) : e.PointsInto source := by
  have hvalid := isValid_of_append hsource
  rw [← hoffset] at hvalid
  exact ⟨hvalid.le_utf8ByteSize, hvalid, h⟩

/-- An error of the scanner, behind tokens. -/
theorem pointsInto_lex {err : LexError} (hsource : source.toList = before ++ after)
    (hbefore : Scannable (String.ofList before)) (hfails : Lexeme.Fails err.fault after)
    (hoffset : err.offset =
      byteLength before + if err.fault = .expectedDigits then 1 else 0) :
    (lex err).PointsInto source := by
  obtain ⟨fault, offset⟩ := err
  dsimp only at hfails hoffset
  cases hfails with
  | unexpected c rest =>
    obtain rfl : offset = byteLength before := hoffset
    refine .of_append hsource rfl ⟨(textBefore_of_append hsource).symm ▸ hbefore, ?_⟩
    rw [textFrom_of_append hsource, String.toList_ofList]
    rfl
  | unterminated hopen =>
    obtain rfl : offset = byteLength before := hoffset
    refine .of_append hsource rfl ⟨(textBefore_of_append hsource).symm ▸ hbefore, _, ?_, hopen⟩
    rw [textFrom_of_append hsource, String.toList_ofList]
  | @digits body hstops =>
    have hminus : source.toList = (before ++ ['-']) ++ body := by
      rw [hsource, List.append_assoc]
      rfl
    obtain rfl : offset = byteLength (before ++ ['-']) := by
      rw [byteLength_append]
      exact hoffset
    refine .of_append hminus rfl ⟨String.ofList before, ?_, hbefore, ?_⟩
    · rw [textBefore_of_append hminus, String.ofList_append]
    · rwa [textFrom_of_append hminus, String.toList_ofList]

/-- What is shown of a proper token is quoted. -/
theorem foundText_of_ne_eof {t : Token} (h : t.kind ≠ .eof) :
    foundText t = quote (String.ofList t.text) := by
  rw [foundText, if_neg h, quote, String.toList_ofList]

theorem quote_ne_endOfInput (s : String) : quote s ≠ "end of input" := by
  intro h
  have hlist := congrArg String.toList h
  rw [quote, String.toList_ofList] at hlist
  exact absurd (List.head_eq_of_cons_eq hlist) (by decide)

/-- A complaint about the end of the input. -/
theorem pointsInto_finish {complaint : Complaint} {offset : Nat}
    (hsource : source.toList = before) (hoffset : offset = byteLength before)
    (hbefore : Scannable (String.ofList before)) :
    (syntactic complaint ⟨.eof, [], offset⟩).PointsInto source := by
  have hsource' : source.toList = before ++ [] := by rw [hsource, List.append_nil]
  have hsize : offset = source.utf8ByteSize := by rw [hoffset, ← hsource, byteLength_toList]
  refine .of_append hsource' hoffset ⟨?_, iff_of_true rfl hsize, fun h => absurd hsize h⟩
  show Scannable (textBefore source offset)
  rw [hoffset, textBefore_of_append hsource']
  exact hbefore

/-- A complaint about a proper token, which begins what is left of the source. -/
theorem pointsInto_token {complaint : Complaint} {t : Token} {rest : Tokens}
    (hsource : source.toList = before ++ t.text ++ after) (hstart : t.start = byteLength before)
    (halone : t.Alone) (hstream : Tokens.ofSource source = .prepend used (.token t rest))
    (hbefore : tokenize (String.ofList before) = .ok (used ++ [⟨.eof, [], byteLength before⟩])) :
    (syntactic complaint t).PointsInto source := by
  have hsource' : source.toList = before ++ (t.text ++ after) := by
    rw [hsource, List.append_assoc]
  have hne : t.start ≠ source.utf8ByteSize := by
    have hlt := halone.start_lt_stop
    rw [utf8ByteSize_of_append hsource, byteLength_append, ← hstart]
    rw [Token.stop] at hlt
    omega
  have hfound := foundText_of_ne_eof halone.kind_ne_eof
  have hslice : t.slice source = String.ofList t.text := by
    rw [Token.slice, Token.stop, hstart]
    exact extract_of_append hsource
  have htokens : tokenize (textBefore source t.start) = .ok (used ++ [⟨.eof, [], t.start⟩]) := by
    rw [hstart, textBefore_of_append hsource', hbefore]
  refine .of_append hsource' hstart ⟨⟨_, htokens⟩, iff_of_false ?_ hne, fun _ => ?_⟩
  · rw [hfound]
    exact quote_ne_endOfInput _
  · exact ⟨hfound.trans (congrArg quote hslice.symm), used, rest, hstream, htokens⟩

theorem pointsInto_of_broken {err : LexError} (h : (Tokens.ofSource source).ComesTo (.broken err)) :
    (lex err).PointsInto source := by
  obtain ⟨used, hstream⟩ := h
  obtain ⟨before, place, hsource, hoffset, hskip, hplace, hbefore⟩ :=
    exists_place_of_ofSource hstream
  obtain ⟨after, hnext⟩ := Tokens.next_of_broken hplace
  obtain ⟨hfails, herr⟩ := Cursor.fails_of_next hskip hnext
  exact pointsInto_lex hsource ⟨_, hbefore⟩ hfails (hoffset ▸ herr)

theorem pointsInto_of_finish {complaint : Complaint} {offset : Nat}
    (h : (Tokens.ofSource source).ComesTo (.finish offset)) :
    (syntactic complaint ⟨.eof, [], offset⟩).PointsInto source := by
  obtain ⟨used, hstream⟩ := h
  obtain ⟨before, place, hsource, hoffset, hskip, hplace, hbefore⟩ :=
    exists_place_of_ofSource hstream
  obtain ⟨t, after, hnext, ht, rfl⟩ := Tokens.next_of_finish hplace
  obtain ⟨hscan, -, -⟩ := Cursor.next_eq_ok hnext
  have hstart := (Cursor.start_of_next hnext).1
  rw [hskip] at hscan hstart
  rw [ht] at hscan
  rw [Lexeme.eq_nil_of_scan_eof hscan, List.append_nil] at hsource
  exact pointsInto_finish hsource (hstart.trans hoffset) ⟨_, hbefore⟩

theorem pointsInto_of_token {complaint : Complaint} {t : Token} {rest : Tokens}
    (h : (Tokens.ofSource source).ComesTo (.token t rest)) :
    (syntactic complaint t).PointsInto source := by
  obtain ⟨used, hstream⟩ := h
  obtain ⟨before, place, hsource, hoffset, hskip, hplace, hbefore⟩ :=
    exists_place_of_ofSource hstream
  obtain ⟨after, hnext, ht, -⟩ := Tokens.next_of_token hplace
  have hstart := (Cursor.start_of_next hnext).1
  have hrest : place.rest = t.text ++ after.rest := by
    obtain ⟨-, htext, hafter⟩ := Cursor.next_eq_ok hnext
    rw [htext, hafter, Lexeme.text_append_rest, hskip]
  rw [hskip] at hstart
  rw [hrest, ← List.append_assoc] at hsource
  exact pointsInto_token hsource (hstart.trans hoffset) (Cursor.alone_of_next hnext ht) hstream
    hbefore

end ParseError

/-- **Where errors point.** The offset of an error is at most the length of the source, and it is a
boundary between characters. The text before it has tokens up to its end, or up to a hyphen at its
end where digits are missing. There stands the unexpected character, or the opening quote of a
string that nothing closes, or no digit; or a complaint is made, and it shows the end of the input
iff the source ends there, and otherwise the text of the token of the source that starts there. -/
theorem error_points_into {source : String} {e : ParseError} (h : parse source = .error e) :
    e.PointsInto source := by
  have habout := about_of_parse h
  cases e with
  | lex err => exact ParseError.pointsInto_of_broken habout
  | syntactic complaint found =>
    cases habout with
    | finish hcomes => exact ParseError.pointsInto_of_finish hcomes
    | token hcomes => exact ParseError.pointsInto_of_token hcomes

/-- A text where a list has to stand. It is complained about when the token behind it is in front.
-/
def textForList : ParseError :=
  .syntactic (.expectedList .within) ⟨.string ['ü'], ['"', 'ü', '"'], 6⟩

/-- A hyphen behind characters of several bytes. -/
def loneHyphen : ParseError :=
  .lex ⟨.expectedDigits, 8⟩

theorem error_points_into_textForList :
    (parse "é in \"ü\" x" = .error textForList ∧ textForList.PointsInto "é in \"ü\" x") ∧
      parse "é\u2003= -x" = .error loneHyphen ∧ loneHyphen.PointsInto "é\u2003= -x" := by
  have htext : parse "é in \"ü\" x" = .error textForList := rfl
  have hhyphen : parse "é\u2003= -x" = .error loneHyphen := by decide +kernel
  exact ⟨⟨htext, error_points_into htext⟩, hhyphen, error_points_into hhyphen⟩

end ForgeBoard.Filter
