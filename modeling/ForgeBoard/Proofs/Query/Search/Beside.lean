import ForgeBoard.Proofs.Text.Blank
import ForgeBoard.Query.Search

/-!
# Search strings side by side

Under `and` a search string is put together from those of both sides: their ends are trimmed, and a
blank one is dropped. `beside` is this step. What it gives is trimmed (`trim_beside`) and blank only
if both sides are (`beside_eq_empty_iff`), and it is associative (`beside_assoc`).
-/

namespace ForgeBoard.Query.Search

open ForgeBoard.Filter Text

variable {s t : String}

/-- Two search strings side by side. Blank ones are dropped. -/
def beside (s t : String) : String :=
  String.intercalate " " ([trim s, trim t].filter (!·.isEmpty))

theorem render_and (now : Int) (l r : Expr) :
    render now (.binary .and l r) = render now l >>= fun s => render now r >>= fun t =>
      .ok (beside s t) :=
  rfl

theorem beside_of_blank_left (h : trim s = "") : beside s t = trim t := by
  by_cases ht : trim t = "" <;> simp [beside, h, ht]

theorem beside_of_blank_right (h : trim t = "") : beside s t = trim s := by
  by_cases hs : trim s = "" <;> simp [beside, h, hs]

theorem beside_of_not_blank (hs : trim s ≠ "") (ht : trim t ≠ "") :
    beside s t = trim s ++ " " ++ trim t := by
  simp [beside, hs, ht]

theorem tight_beside (hs : trim s ≠ "") (ht : trim t ≠ "") : Tight (beside s t) := by
  rw [beside_of_not_blank hs ht]
  exact (tight_trim hs).append (tight_trim ht) " "

@[simp]
theorem trim_beside (s t : String) : trim (beside s t) = beside s t := by
  by_cases hs : trim s = ""
  · rw [beside_of_blank_left hs, trim_trim]
  by_cases ht : trim t = ""
  · rw [beside_of_blank_right ht, trim_trim]
  · exact trim_of_tight (tight_beside hs ht)

/-- Side by side, search strings are blank iff both of them are. -/
theorem beside_eq_empty_iff (s t : String) : beside s t = "" ↔ trim s = "" ∧ trim t = "" := by
  by_cases hs : trim s = ""
  · rw [beside_of_blank_left hs, and_iff_right hs]
  by_cases ht : trim t = ""
  · rw [beside_of_blank_right ht, and_iff_left ht]
  · exact iff_of_false (tight_beside hs ht).ne_empty fun h => hs h.1

theorem beside_trim_left (s t : String) : beside (trim s) t = beside s t := by
  rw [beside, trim_trim, beside]

theorem beside_trim_right (s t : String) : beside s (trim t) = beside s t := by
  rw [beside, trim_trim, beside]

/-- **Putting search strings side by side is associative**, also where some of them are blank. -/
theorem beside_assoc (r s t : String) : beside (beside r s) t = beside r (beside s t) := by
  by_cases hr : trim r = ""
  · rw [beside_of_blank_left hr, beside_of_blank_left hr, beside_trim_left, trim_beside]
  by_cases ht : trim t = ""
  · rw [beside_of_blank_right ht, beside_of_blank_right ht, beside_trim_right, trim_beside]
  by_cases hs : trim s = ""
  · rw [beside_of_blank_right hs, beside_of_blank_left hs, beside_trim_left, beside_trim_right]
  · have hrs : trim (beside r s) ≠ "" := by
      rw [trim_beside]
      exact (tight_beside hr hs).ne_empty
    have hst : trim (beside s t) ≠ "" := by
      rw [trim_beside]
      exact (tight_beside hs ht).ne_empty
    rw [beside_of_not_blank hrs ht, beside_of_not_blank hr hst, trim_beside, trim_beside,
      beside_of_not_blank hr hs, beside_of_not_blank hs ht]
    simp only [String.append_assoc]

end ForgeBoard.Query.Search
