import ForgeBoard.Proofs.Calendar.Instants
import ForgeBoard.Proofs.Calendar.Written
import ForgeBoard.Proofs.Query.Listing.Demand
import ForgeBoard.Proofs.Query.NormalForm
import ForgeBoard.Proofs.Query.Search.Supported

/-!
# Days that are given by a length of time

A filter may ask for what is not older than a time span from now on, or than the `last` while. Both
backends turn this into a day. Here the day is said by exact lengths and by the calendar
(`LeadsTo`): the length fits the milliseconds of 64 bits, the instant that is so much later lies in
the day, and the day is of a year in range. `LeadsOut` is the other possibility.

* `after?_eq_some_iff_leadsTo`, `after?_eq_none_iff_leadsOut`: one step of arithmetic on whole
  seconds says the same, wherever between two seconds the instant lies.
* `searchQuery_notBefore`, `listingQuery_notBefore`: the queries of a bound, from its day.

Result: `resolvesTo_exactly`.
-/

namespace ForgeBoard.Query

open ForgeBoard.Filter Text

/-! ## What is described -/

/-- The years that the calendar of the filters covers. -/
def YearInRange (d : Date) : Prop :=
  -262143 ≤ d.year ∧ d.year ≤ 262142

/-- The length of time leads from an instant to a day. -/
structure LeadsTo (now : ℚ) (length : Int) (d : Date) : Prop where
  fits : FitsMillis length
  contains : d.Contains (now + length)
  year : YearInRange d

/-- The length of time is too long, or leads from an instant to a day of a year out of range. -/
def LeadsOut (now : ℚ) (length : Int) : Prop :=
  ¬ FitsMillis length ∨ ∃ d : Date, d.Contains (now + length) ∧ ¬ YearInRange d

/-- Both backends ask for the items whose field is not before the day. -/
structure AsksFrom (now : Int) (e : Expr) (field : String) (d : Date) : Prop where
  search : SearchQuery.ofExpr now e = .ok ⟨lower field ++ ":>=" ++ d.text, .everywhere⟩
  listing : ListingQuery.ofExpr now e =
    .ok ⟨⟨none, [(lower field ++ "_after", d.text)]⟩, .everywhere⟩

/-- Both backends say that the day of the field is out of range. -/
structure RefusesDay (now : Int) (e : Expr) (field : String) : Prop where
  search : SearchQuery.ofExpr now e = .error (.dayOutOfRange (lower field))
  listing : ListingQuery.ofExpr now e = .error (.dayOutOfRange (lower field))

/-- Both backends ask for a field from a day on iff the length of time leads to the day, they refuse
the day iff it leads out, and they do one of the two. They are given the instant without its
fraction of a second. -/
structure ResolvesTo (now : ℚ) (e : Expr) (field : String) (length : Int) : Prop where
  asks : ∀ d, AsksFrom ⌊now⌋ e field d ↔ LeadsTo now length d
  refuses : RefusesDay ⌊now⌋ e field ↔ LeadsOut now length
  total : (∃ d, AsksFrom ⌊now⌋ e field d) ∨ RefusesDay ⌊now⌋ e field

/-- The field is not before the day that a time span leads to. -/
def notBefore (field : String) (span : TimeSpan) : Expr :=
  .predicate (.compare field .ge (.span span))

variable {now : ℚ} {length length' : Int} {span : TimeSpan} {field : String} {d d' : Date}
  {e e' : Expr}

/-! ## Days -/

theorem inRange_iff : d.inRange = true ↔ YearInRange d := by
  simp [Date.inRange, YearInRange]

/-- A length of time leads to a day or out, and which it is depends on the second alone. -/
theorem leadsTo_iff :
    LeadsTo now length d ↔
      FitsMillis length ∧ d = Date.ofSeconds (⌊now⌋ + length) ∧ YearInRange d := by
  rw [← Int.floor_add_intCast, ← Date.contains_iff]
  exact ⟨fun h => ⟨h.fits, h.contains, h.year⟩, fun ⟨hfits, hd, hyear⟩ => ⟨hfits, hd, hyear⟩⟩

theorem leadsOut_iff :
    LeadsOut now length ↔
      ¬ FitsMillis length ∨ ¬ YearInRange (Date.ofSeconds (⌊now⌋ + length)) := by
  rw [LeadsOut]
  simp only [Date.contains_iff, exists_eq_left, Int.floor_add_intCast]

/-- A longer length does not lead to an earlier day. -/
theorem LeadsTo.not_earlier (hle : length ≤ length') (h : LeadsTo now length d)
    (h' : LeadsTo now length' d') : ¬ d'.Earlier d := by
  refine Date.not_earlier_of_le ?_ h.contains h'.contains
  gcongr

theorem leadsOut_iff_not_exists : LeadsOut now length ↔ ¬ ∃ d, LeadsTo now length d := by
  rw [leadsOut_iff, ← not_and_or]
  simp only [leadsTo_iff, exists_and_left, exists_eq_left]

/-- **The day of a time span** whose seconds are those of a length. -/
theorem after?_eq_some_iff_leadsTo
    (hseconds : ∀ s, span.seconds? = some s ↔ s = length ∧ FitsMillis length) :
    Date.after? ⌊now⌋ span = some d ↔ LeadsTo now length d := by
  rw [after?_eq_some_iff, leadsTo_iff]
  simp only [hseconds, and_assoc, exists_eq_left, inRange_iff]
  constructor
  · rintro ⟨hfits, hyear, rfl⟩
    exact ⟨hfits, rfl, hyear⟩
  · rintro ⟨hfits, rfl, hyear⟩
    exact ⟨hfits, hyear, rfl⟩

theorem after?_eq_none_iff_leadsOut
    (hseconds : ∀ s, span.seconds? = some s ↔ s = length ∧ FitsMillis length) :
    Date.after? ⌊now⌋ span = none ↔ LeadsOut now length := by
  rw [leadsOut_iff_not_exists, Option.eq_none_iff_forall_ne_some, not_exists]
  simp only [ne_eq, after?_eq_some_iff_leadsTo hseconds]

/-! ## Queries -/

/-- The value of a day, or the refusal of the day of the field. -/
def dayQuery {α : Type} (field : String) (day : Option Date) (query : Date → α) :
    Except QueryError α :=
  day.elim (.error (.dayOutOfRange (lower field))) fun d => .ok (query d)

theorem dayQuery_eq_ok_iff {α : Type} {day : Option Date} {query : Date → α} {a : α} :
    dayQuery field day query = .ok a ↔ ∃ d, day = some d ∧ query d = a := by
  cases day <;> simp [dayQuery]

theorem dayQuery_eq_error_iff {α : Type} {day : Option Date} {query : Date → α} :
    dayQuery field day query = .error (.dayOutOfRange (lower field)) ↔ day = none := by
  cases day <;> simp [dayQuery]

theorem dayOf_span (now : Int) (field : String) (span : TimeSpan) :
    dayOf now (lower field) (.span span) = dayQuery field (Date.after? now span) Date.text := by
  rw [dayOf, dayQuery]
  cases Date.after? now span <;> rfl

theorem prepare_notBefore (hfield : lower field = "updated" ∨ lower field = "created") :
    prepare (notBefore field span) = .ok (some (notBefore field span), .everywhere) := by
  have hrouting : (Predicate.compare field .ge (.span span)).isRouting = false := by
    rcases hfield with h | h <;>
      simp [Predicate.isRouting, Predicate.key, Predicate.compare, h, routingField]
  have htake : (notBefore field span).takeApart =
      .ok ⟨some (notBefore field span), .everywhere, false⟩ := by
    rw [notBefore, Expr.takeApart, hrouting, if_neg Bool.false_ne_true]
  have hnormal : (notBefore field span).normalize = notBefore field span := rfl
  rw [prepare, hnormal, Expr.route, htake]
  rfl

/-- **The search string of a bound** that a time span gives. -/
theorem searchQuery_notBefore (hfield : lower field = "updated" ∨ lower field = "created")
    (now : Int) : SearchQuery.ofExpr now (notBefore field span) =
      dayQuery field (Date.after? now span)
        fun d => ⟨lower field ++ ":>=" ++ d.text, .everywhere⟩ := by
  have hrouting : lower field ≠ routingField := by
    rcases hfield with h | h <;> rw [h] <;> decide
  have hday : Search.isDay (lower field) = true := by
    rcases hfield with h | h <;> rw [h] <;> rfl
  have hrender : Search.render now (notBefore field span) =
      Search.comparison now (lower field) .ge (.span span) :=
    if_neg hrouting
  rw [SearchQuery.ofExpr, prepare_notBefore hfield]
  simp only [bind, Except.bind, hrender, Search.comparison_of_isDay hday, dayOf_span, dayQuery]
  cases Date.after? now span with
  | none => rfl
  | some d =>
    have hmark : ":" ++ CompareOp.ge.symbol = ":>=" := rfl
    rw [← hmark, ← String.append_assoc]
    rfl

/-- **The listing of a bound** that a time span gives. -/
theorem listingQuery_notBefore (hfield : lower field = "updated" ∨ lower field = "created")
    (now : Int) : ListingQuery.ofExpr now (notBefore field span) =
      dayQuery field (Date.after? now span)
        fun d => ⟨⟨none, [(lower field ++ "_after", d.text)]⟩, .everywhere⟩ := by
  have hday : lower field ∈ dayFields := mem_dayFields_iff.mpr hfield
  have hrestrict : Listing.unrestricted.restrict now (notBefore field span) =
      Listing.unrestricted.comparison now (lower field) .ge (.span span) := rfl
  rw [ListingQuery.ofExpr, prepare_notBefore hfield]
  simp only [bind, Except.bind, hrestrict, Listing.comparison_of_dayField hday, dayOf_span,
    dayQuery]
  cases Date.after? now span <;> rfl

/-! ## Filters that resolve to a length -/

/-- A filter whose queries are those of a day resolves to the length that leads to it. -/
theorem resolvesTo_of_queries
    (hsearch : SearchQuery.ofExpr ⌊now⌋ e = dayQuery field (Date.after? ⌊now⌋ span)
      fun d => ⟨lower field ++ ":>=" ++ d.text, .everywhere⟩)
    (hlisting : ListingQuery.ofExpr ⌊now⌋ e = dayQuery field (Date.after? ⌊now⌋ span)
      fun d => ⟨⟨none, [(lower field ++ "_after", d.text)]⟩, .everywhere⟩)
    (hseconds : ∀ s, span.seconds? = some s ↔ s = length ∧ FitsMillis length) :
    ResolvesTo now e field length := by
  have hasks : ∀ d, AsksFrom ⌊now⌋ e field d ↔ Date.after? ⌊now⌋ span = some d := by
    intro d
    constructor
    · rintro ⟨-, h⟩
      obtain ⟨d', hday, hquery⟩ := dayQuery_eq_ok_iff.mp (hlisting.symm.trans h)
      have htext : d'.text = d.text := by
        simpa using hquery
      rw [hday, Date.text_injective htext]
    · intro hday
      exact ⟨hsearch.trans (dayQuery_eq_ok_iff.mpr ⟨d, hday, rfl⟩),
        hlisting.trans (dayQuery_eq_ok_iff.mpr ⟨d, hday, rfl⟩)⟩
  have hrefuses : RefusesDay ⌊now⌋ e field ↔ Date.after? ⌊now⌋ span = none := by
    constructor
    · rintro ⟨-, h⟩
      exact dayQuery_eq_error_iff.mp (hlisting.symm.trans h)
    · intro hday
      exact ⟨hsearch.trans (dayQuery_eq_error_iff.mpr hday),
        hlisting.trans (dayQuery_eq_error_iff.mpr hday)⟩
  refine ⟨fun d => (hasks d).trans (after?_eq_some_iff_leadsTo hseconds),
    hrefuses.trans (after?_eq_none_iff_leadsOut hseconds), ?_⟩
  cases hday : Date.after? ⌊now⌋ span with
  | none => exact .inr (hrefuses.mpr hday)
  | some d => exact .inl ⟨d, (hasks d).mpr hday⟩

/-- Filters that resolve to one length have the same queries, or the same errors. -/
theorem ResolvesTo.same_queries (h : ResolvesTo now e field length)
    (h' : ResolvesTo now e' field length) :
    SearchQuery.ofExpr ⌊now⌋ e = SearchQuery.ofExpr ⌊now⌋ e' ∧
      ListingQuery.ofExpr ⌊now⌋ e = ListingQuery.ofExpr ⌊now⌋ e' := by
  rcases h.total with ⟨d, hd⟩ | hout
  · have hd' := (h'.asks d).mpr ((h.asks d).mp hd)
    exact ⟨hd.search.trans hd'.search.symm, hd.listing.trans hd'.listing.symm⟩
  · have hout' := h'.refuses.mpr (h.refuses.mp hout)
    exact ⟨hout.search.trans hout'.search.symm, hout.listing.trans hout'.listing.symm⟩

/-- A bound by a time span resolves to the length of the span. -/
theorem resolvesTo_notBefore (now : ℚ)
    (hfield : lower field = "updated" ∨ lower field = "created") (span : TimeSpan) :
    ResolvesTo now (notBefore field span) field span.length :=
  resolvesTo_of_queries (searchQuery_notBefore hfield ⌊now⌋) (listingQuery_notBefore hfield ⌊now⌋)
    fun _ => TimeSpan.seconds?_eq_some_iff

/-- A condition about the last while resolves to the length of the while, backwards. -/
theorem resolvesTo_inLast (now : ℚ)
    (hfield : lower field = "updated" ∨ lower field = "created") {p : Predicate}
    (hp : p.field = field) (hlast : p.InLast span) :
    ResolvesTo now (.predicate p) field (-span.length) := by
  have hnormal : (Expr.predicate p).normalize = notBefore field span.negated := by
    rw [Expr.normalize, Expr.map, Predicate.normalize_of_inLast hlast, hp, notBefore]
  have hprepare : prepare (.predicate p) = prepare (notBefore field span.negated) := by
    rw [← prepare_normalize, hnormal]
  exact resolvesTo_of_queries
    ((searchQuery_congr hprepare _).trans (searchQuery_notBefore hfield _))
    ((listingQuery_congr hprepare _).trans (listingQuery_notBefore hfield _))
    fun _ => TimeSpan.seconds?_negated

/-! ## Result -/

/-- **Relative days are exact.** At every instant, a field that is not before a time span from now
on resolves to the exact length of the span, and a field in the last while to the exact length of
the while backwards, for every amount and unit. So spans of the same length have the same queries,
or the same errors, whatever their units are, and a longer span does not give an earlier day. -/
theorem resolvesTo_exactly (now : ℚ)
    (hfield : lower field = "updated" ∨ lower field = "created") :
    (∀ span, ResolvesTo now (notBefore field span) field span.length) ∧
      (∀ (p : Predicate) (span : TimeSpan), p.field = field → p.InLast span →
        ResolvesTo now (.predicate p) field (-span.length)) ∧
      (∀ span span' : TimeSpan, span.length = span'.length →
        SearchQuery.ofExpr ⌊now⌋ (notBefore field span) =
            SearchQuery.ofExpr ⌊now⌋ (notBefore field span') ∧
          ListingQuery.ofExpr ⌊now⌋ (notBefore field span) =
            ListingQuery.ofExpr ⌊now⌋ (notBefore field span')) ∧
      ∀ (span span' : TimeSpan) (d d' : Date), span.length ≤ span'.length →
        AsksFrom ⌊now⌋ (notBefore field span) field d →
        AsksFrom ⌊now⌋ (notBefore field span') field d' → ¬ d'.Earlier d := by
  have hspan := resolvesTo_notBefore now hfield
  refine ⟨hspan, fun p span => resolvesTo_inLast now hfield, fun span span' h => ?_,
    fun span span' d d' hle hd hd' => ?_⟩
  · exact (hspan span).same_queries (h ▸ hspan span')
  · exact (((hspan span).asks d).mp hd).not_earlier hle (((hspan span').asks d').mp hd')

/-- Seven days before the first half second of 1970, and a while that is too long to be turned
around. -/
theorem resolvesTo_exactly_halfSecond :
    AsksFrom ⌊(1 / 2 : ℚ)⌋ (notBefore "Updated" ⟨-7, .day⟩) "Updated" ⟨1969, 12, 25, by decide⟩ ∧
      RefusesDay ⌊(1 / 2 : ℚ)⌋ (.predicate ⟨"Updated", .member .within,
        .single (.call ⟨"last", ⟨Int64.minValue, .minute⟩⟩)⟩) "Updated" := by
  have hfield : lower "Updated" = "updated" ∨ lower "Updated" = "created" := by decide
  obtain ⟨hspan, hlast, -⟩ := resolvesTo_exactly (1 / 2) hfield
  have hseven : TimeSpan.length ⟨-7, .day⟩ = -604800 := by decide
  have hday : Date.Contains ⟨1969, 12, 25, by decide⟩ (1 / 2 + ((-604800 : Int) : ℚ)) :=
    ⟨-7, Date.daysLater_iff.mpr (by decide), by norm_num, by norm_num⟩
  refine ⟨((hspan _).asks _).mpr ?_, (hlast _ _ rfl ⟨.inl rfl, rfl⟩).refuses.mpr (.inl ?_)⟩
  · rw [hseven]
    exact ⟨by unfold FitsMillis; decide, hday, by unfold YearInRange; decide⟩
  · unfold FitsMillis
    decide

end ForgeBoard.Query
