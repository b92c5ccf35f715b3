import ForgeBoard.Proofs.Filter.Normal
import ForgeBoard.Proofs.Filter.RoundTrip

/-!
# Every stage of a filter can be written down and read back

On its way to a query a filter is normalized, a login takes the place of the current user, and its
routing conditions are taken out. None of this leaves the trees that the grammar can produce, so
what comes out of each stage has a written form that is read back as the same tree.

* `wellFormed_of_parse`: what is read is well formed. The names in a source are the ones that its
  scanning gives, and such a name is an identifier on its own as well
  (`isIdentifier_of_ofCursor`).
* `Expr.WellFormed.normalize`, `Expr.WellFormed.withUser`, `Expr.WellFormed.pruned`: the stages keep
  trees well formed.

Result: `printable_stages`.
-/

namespace ForgeBoard.Filter

open Text

/-! ## The names in a source -/

theorem Lexeme.eq_of_wordKind {word name : List Char} (h : wordKind word = .ident name) :
    name = word := by
  unfold wordKind at h
  dsimp only at h
  iterate 6
    split at h
    · exact absurd h nofun
  exact (TokenKind.ident.inj h).symm

/-- A name that is scanned in front of any text is scanned whole when it stands alone. -/
theorem isIdentifier_of_scan {c : Char} {cs name : List Char} (hc : isBlank c = false)
    (h : (Lexeme.scan (c :: cs)).result = .ok (.ident name)) :
    IsIdentifier (String.ofList name) := by
  have hstart := Lexeme.isWordStart_of_scan_ident h
  rw [Lexeme.scan_word hstart] at h
  have hkind := Except.ok.inj h
  rw [List.takeWhile_cons_of_pos (Lexeme.isWordChar_of_isWordStart hstart)] at hkind
  obtain rfl := Lexeme.eq_of_wordKind hkind
  have hword : ∀ d ∈ cs.takeWhile Lexeme.isWordChar, Lexeme.isWordChar d = true :=
    fun _ hd => List.mem_takeWhile_imp hd
  have halone := Lexeme.scan_word_append hstart hword (show Lexeme.Stops _ [] from nofun)
  rw [List.append_nil, hkind] at halone
  refine tokenize_eq_ok_iff.mpr ⟨[⟨_, _, 0⟩], _, ?_, by rw [String.toList_ofList]; rfl⟩
  rw [Tokens.ofSource_eq, Cursor.start, String.toList_ofList, Tokens.ofCursor_eq,
    Cursor.next_of_scan hc halone, Nat.zero_add]
  rfl

/-- **Every name in a source is an identifier.** -/
theorem isIdentifier_of_ofCursor {used : List Token} {c : Cursor} {rest : Tokens}
    (h : Tokens.ofCursor c = .prepend used rest) :
    ∀ name, .ident name ∈ used.map Token.kind → IsIdentifier (String.ofList name) := by
  induction used generalizing c with
  | nil => exact fun name hname => absurd hname List.not_mem_nil
  | cons t used ih =>
    obtain ⟨after, hnext, -, hafter⟩ := Tokens.next_of_token h
    intro name hname
    rcases List.mem_cons.mp hname with hkind | hname
    · obtain ⟨hscan, -⟩ := Cursor.next_eq_ok hnext
      rw [← hkind] at hscan
      -- the lexeme begins after the blanks in front, so not with a blank
      cases htext : c.skipBlank.rest with
      | nil =>
        rw [htext] at hscan
        exact absurd (Except.ok.inj hscan) nofun
      | cons d ds =>
        rw [htext] at hscan
        refine isIdentifier_of_scan ?_ hscan
        have hhead := List.head?_dropWhile_not isBlank c.rest
        rw [show c.rest.dropWhile isBlank = d :: ds from htext] at hhead
        simpa using hhead
    · exact ih hafter name hname

/-! ## What is read is well formed -/

theorem wellFormed_of_valuePhrase {ks : List TokenKind} {v : Value} (h : ValuePhrase ks v) :
    v.WellFormed := by
  cases h with
  | text | bool | number | span => trivial
  | date hd => exact hd
  | last => rfl

theorem wellFormed_of_itemsPhrase {ks : List TokenKind} {vs : List Value} (h : ItemsPhrase ks vs) :
    ∀ v ∈ vs, v.WellFormed := by
  induction h with
  | one hv => exact List.forall_mem_singleton.mpr (wellFormed_of_valuePhrase hv)
  | more hv _ ih => exact List.forall_mem_cons.mpr ⟨wellFormed_of_valuePhrase hv, ih⟩

theorem wellFormed_of_listPhrase {ks : List TokenKind} {vs : List Value} (h : ListPhrase ks vs) :
    ∀ v ∈ vs, v.WellFormed := by
  cases h with
  | empty => exact List.forall_mem_nil _
  | items hi | itemsComma hi => exact wellFormed_of_itemsPhrase hi

/-- A condition is well formed if its phrase names an identifier. -/
theorem wellFormed_of_conditionPhrase {ks : List TokenKind} {p : Predicate}
    (h : ConditionPhrase ks p)
    (hnames : ∀ name, .ident name ∈ ks → IsIdentifier (String.ofList name)) :
    p.WellFormed := by
  cases h with
  | compare field op hv =>
    refine ⟨hnames field List.mem_cons_self, trivial, ?_⟩
    exact List.forall_mem_singleton.mpr (wellFormed_of_valuePhrase hv)
  | member field op hm =>
    have hfield := hnames field List.mem_cons_self
    cases hm with
    | list hl => exact ⟨hfield, trivial, wellFormed_of_listPhrase hl⟩
    | last hv =>
      exact ⟨hfield, trivial, List.forall_mem_singleton.mpr (wellFormed_of_valuePhrase hv)⟩

/-- A tree is well formed if its phrase names identifiers only. -/
theorem wellFormed_of_phrase {level : Level} {ks : List TokenKind} {e : Expr}
    (h : Phrase level ks e)
    (hnames : ∀ name, .ident name ∈ ks → IsIdentifier (String.ofList name)) : e.WellFormed := by
  induction h with
  | disjunct _ ih | conjunct _ ih => exact ih hnames
  | or _ _ ihl ihr | and _ _ ihl ihr =>
    exact ⟨ihl fun name h => hnames name (List.mem_append_left _ h),
      ihr fun name h => hnames name (List.mem_append_right _ (List.mem_cons_of_mem _ h))⟩
  | not _ ih | bang _ ih =>
    exact ⟨rfl, ih fun name h => hnames name (List.mem_cons_of_mem _ h)⟩
  | group _ ih =>
    exact ih fun name h => hnames name (List.mem_cons_of_mem _ (List.mem_append_left _ h))
  | condition hc => exact wellFormed_of_conditionPhrase hc hnames

/-- **What is read is well formed.** -/
theorem wellFormed_of_parse {source : String} {e : Expr} (h : parse source = .ok e) :
    e.WellFormed := by
  obtain ⟨used, offset, hsource, hphrase⟩ := phrase_of_parse h
  exact wellFormed_of_phrase hphrase (isIdentifier_of_ofCursor hsource)

/-! ## What the stages keep -/

theorem PredicateOp.Takes.map {op : PredicateOp} {operand : Operand} (h : op.Takes operand)
    {f : Value → Value} (hcall : ∀ call, f (.call call) = .call call) :
    op.Takes (operand.map f) := by
  cases op with
  | compare op =>
    cases operand with
    | single v => trivial
    | list vs => exact h.elim
  | member op =>
    cases operand with
    | list vs => trivial
    | single v =>
      cases v with
      | call call =>
        rw [Operand.map, hcall]
        trivial
      | text | bool | number | date | span => exact h.elim

namespace Predicate.WellFormed

variable {p : Predicate}

/-- Other values make a well-formed condition, if calls are left as they are. -/
theorem mapOperand (h : p.WellFormed) {f : Value → Value}
    (hcall : ∀ call, f (.call call) = .call call)
    (hf : ∀ v : Value, v.WellFormed → (f v).WellFormed) :
    Predicate.WellFormed { p with operand := p.operand.map f } := by
  refine ⟨h.field, h.shape.map hcall, fun v hv => ?_⟩
  rw [Predicate.values, Operand.values_map] at hv
  obtain ⟨w, hw, rfl⟩ := List.mem_map.mp hv
  exact hf w (h.values w hw)

theorem normalize (h : p.WellFormed) : p.normalize.WellFormed := by
  obtain ⟨f, -, hnormal⟩ | hnormal := p.normalize_cases
  · rw [hnormal]
    exact ⟨h.field, trivial, List.forall_mem_singleton.mpr trivial⟩
  · rw [hnormal]
    refine h.mapOperand (fun _ => rfl) fun v hv => ?_
    unfold Value.normalize
    split
    · split <;> trivial
    · exact hv

theorem withUser (h : p.WellFormed) (login : String) : (p.withUser login).WellFormed := by
  unfold Predicate.withUser
  split
  · refine h.mapOperand (fun _ => rfl) fun v hv => ?_
    split
    · trivial
    · exact hv
  · exact h

end Predicate.WellFormed

namespace Expr

variable {e : Expr}

namespace WellFormed

theorem map (h : e.WellFormed) {f : Predicate → Predicate}
    (hf : ∀ p : Predicate, p.WellFormed → (f p).WellFormed) : (e.map f).WellFormed := by
  induction e with
  | predicate p => exact hf p h
  | unary negate inner ih => exact ⟨h.1, ih h.2⟩
  | binary op l r ihl ihr => exact ⟨ihl h.1, ihr h.2⟩

theorem normalize (h : e.WellFormed) : e.normalize.WellFormed :=
  h.map fun _ hp => hp.normalize

theorem withUser (h : e.WellFormed) (login : String) : (e.withUser login).WellFormed :=
  h.map fun _ hp => hp.withUser login

/-- What is left without the routing conditions is made of parts of the tree. -/
theorem pruned (h : e.WellFormed) : ∀ rest ∈ e.pruned, rest.WellFormed := by
  induction e with
  | predicate p =>
    intro rest hrest
    obtain ⟨-, hrest⟩ := Option.ite_none_left_eq_some.mp hrest
    obtain rfl := Option.some.inj hrest
    exact h
  | unary negate inner ih =>
    obtain ⟨rfl, hinner⟩ := h
    intro rest hrest
    obtain ⟨i, hi, rfl⟩ := Option.map_eq_some_iff.mp hrest
    exact ⟨rfl, ih hinner i hi⟩
  | binary op l r ihl ihr =>
    obtain ⟨hl, hr⟩ := h
    intro rest hrest
    unfold Expr.pruned at hrest
    split at hrest
    · next l' r' hl' hr' =>
      obtain rfl := Option.some.inj hrest
      exact ⟨ihl hl l' hl', ihr hr r' hr'⟩
    · next l' hl' _ =>
      obtain rfl := Option.some.inj hrest
      exact ihl hl l' hl'
    · next r' _ hr' =>
      obtain rfl := Option.some.inj hrest
      exact ihr hr r' hr'
    · exact absurd hrest nofun

end WellFormed

/-! ## Result -/

/-- The tree is read back from its written form. -/
def Printable (e : Expr) : Prop :=
  parse e.canonical = .ok e

theorem WellFormed.printable (h : e.WellFormed) : e.Printable := by
  obtain ⟨ks, hscan, hphrase⟩ := scans_expr h (show Closes [] from nofun)
  rw [List.append_nil] at hscan
  exact parse_of_scans hscan hphrase

/-- The tree is read back, and so is what is left of it without its routing conditions. -/
def PrintableThrough (e : Expr) : Prop :=
  e.Printable ∧ ∀ rest routing, e.route = .ok (some rest, routing) → rest.Printable

theorem WellFormed.printableThrough (h : e.WellFormed) : e.PrintableThrough := by
  refine ⟨h.printable, fun rest routing hroute => ?_⟩
  have hrest := (route_eq_ok.mp hroute).2.1
  exact (h.pruned rest hrest.symm).printable

end Expr

/-- **Every stage is read back**: a filter that was read, its normal form, the filter with a login
in place of the current user, before and after it is normalized, and what is left of each of them
without its routing conditions. -/
theorem printable_stages {source : String} {e : Expr} (h : parse source = .ok e)
    (login : String) :
    e.PrintableThrough ∧ e.normalize.PrintableThrough ∧ (e.withUser login).PrintableThrough ∧
      (e.normalize.withUser login).PrintableThrough := by
  have he := wellFormed_of_parse h
  exact ⟨he.printableThrough, he.normalize.printableThrough, (he.withUser login).printableThrough,
    (he.normalize.withUser login).printableThrough⟩

/-- A source with the current user, a negation over a group, the call of the least number of weeks,
a list with a comma at its end and a condition that routes. -/
def manyStages : String :=
  "not(Author = \"me\" OR updated in Last(-9223372036854775808w)) and provider in [\"github\",]"

/-- What `manyStages` is read as. -/
def manyStagesExpr : Expr :=
  .binary .and
    (.unary true (.binary .or
      (.predicate (.compare "Author" .eq (.text "me")))
      (.predicate
        ⟨"updated", .member .within, .single (.call ⟨"last", ⟨Int64.minValue, .week⟩⟩)⟩)))
    (.predicate (.member "provider" .within [.text "github"]))

theorem printable_stages_manyStages :
    parse manyStages = .ok manyStagesExpr ∧
      (manyStagesExpr.normalize.withUser "a \"b\\").PrintableThrough := by
  have hparse : parse manyStages = .ok manyStagesExpr := eq_ok_of_toOption (by decide +kernel)
  exact ⟨hparse, (printable_stages hparse "a \"b\\").2.2.2⟩

end ForgeBoard.Filter
