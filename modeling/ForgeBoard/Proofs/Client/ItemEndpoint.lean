import ForgeBoard.Client.GitLab
import ForgeBoard.Proofs.Text.Blank
import ForgeBoard.Proofs.Text.Decimal
import ForgeBoard.Proofs.Text.Percent

/-!
# An item is known by its endpoint

Comments, approvals and merges are sent to the endpoint of an item. The path of its project may have
any characters in it, slashes and percent signs among them, and becomes one segment.

* `EndpointOf`: the segments of an endpoint, and the project and the number that are read out of
  them.
* `endpointOf_itemEndpoint`: this is what an item's endpoint is like.
* `EndpointOf.eq`: no endpoint belongs to two items of an instance.

Result: `itemEndpoint_eq_iff`.
-/

namespace ForgeBoard.GitLab

open Text

variable {k k' : ItemKey} {endpoint : String}

/-- The segment of the address that says of which type an item is. -/
def collection : ItemType → String
  | .pullRequest => "merge_requests"
  | .issue => "issues"

theorem collection_inj {t t' : ItemType} (h : collection t = collection t') : t = t' := by
  cases t with
  | pullRequest =>
    cases t' with
    | pullRequest => rfl
    | issue => exact absurd h (by decide)
  | issue =>
    cases t' with
    | pullRequest => exact absurd h (by decide)
    | issue => rfl

/-- What the endpoint of an item is like. -/
structure EndpointOf (k : ItemKey) (endpoint : String) : Prop where
  /-- There are exactly four segments behind the slash at the beginning. -/
  segments_eq : segments endpoint.toList =
    [[], "projects".toList, (encodeSegment k.repoPath).toList, (collection k.itemType).toList,
      digits k.number]
  /-- Each byte of the path is kept or in percent form. -/
  bytes : (encodeSegment k.repoPath).toList = k.repoPath.toUTF8.data.toList.flatMap segmentByte
  nonempty : encodeSegment k.repoPath ≠ ""
  /-- The path is read back out of its segment. -/
  path : decodePercent? (encodeSegment k.repoPath).toList = some k.repoPath.toList
  /-- The number is read back out of its segment. -/
  number : readNat? (digits k.number) = some k.number

theorem slash_not_mem_encodeSegment (s : String) : '/' ∉ (encodeSegment s).toList :=
  fun h => absurd (mem_encodeSegment h) (by decide)

theorem slash_not_mem_digits (n : Nat) : '/' ∉ digits n :=
  fun h => absurd (allDigits_digits n _ h) (by decide)

theorem itemEndpoint_of_ne_empty (h : k.repoPath ≠ "") :
    ∃ endpoint, itemEndpoint k = .ok endpoint ∧ endpoint.toList =
      '/' :: ("projects".toList ++ '/' :: ((encodeSegment k.repoPath).toList ++
        '/' :: ((collection k.itemType).toList ++ '/' :: digits k.number))) := by
  have hpath : ¬ k.repoPath.isEmpty = true := by simpa using h
  rw [itemEndpoint, if_neg hpath]
  refine ⟨_, rfl, ?_⟩
  cases k.itemType <;> simp [collection]

/-- **The endpoint of an item** is made of four segments, whatever characters are in the path of its
project. -/
theorem endpointOf_itemEndpoint (h : k.repoPath ≠ "") :
    ∃ endpoint, itemEndpoint k = .ok endpoint ∧ EndpointOf k endpoint := by
  obtain ⟨endpoint, hendpoint, htext⟩ := itemEndpoint_of_ne_empty h
  have hcollection : '/' ∉ (collection k.itemType).toList := by
    cases k.itemType <;> decide
  refine ⟨endpoint, hendpoint, ?_, toList_encodeSegment _, encodeSegment_ne_empty h,
    decodePercent?_encodeSegment _, ?_⟩
  · rw [htext, ← List.nil_append ('/' :: _)]
    simp only [segments_slash]
    rw [segments_of_no_slash (slash_not_mem_digits _), segments_of_no_slash hcollection,
      segments_of_no_slash (slash_not_mem_encodeSegment _),
      segments_of_no_slash (show '/' ∉ "projects".toList by decide)]
    rfl
  · exact readNat?_eq_some_iff.mpr
      ⟨digits_ne_nil _, allDigits_digits _, digitsValue_digits _⟩

/-- Project, type and number are read out of the segments. -/
theorem EndpointOf.eq (h : EndpointOf k endpoint) (h' : EndpointOf k' endpoint) :
    k.repoPath = k'.repoPath ∧ k.itemType = k'.itemType ∧ k.number = k'.number := by
  have hsegments := h.segments_eq.symm.trans h'.segments_eq
  simp only [List.cons.injEq, true_and, and_true] at hsegments
  obtain ⟨hpath, htype, hnumber⟩ := hsegments
  refine ⟨?_, collection_inj (String.toList_inj.mp htype), ?_⟩
  · have hread := h.path
    rw [hpath, h'.path, Option.some_inj] at hread
    exact String.toList_inj.mp hread.symm
  · have hread := h.number
    rw [hnumber, h'.number, Option.some_inj] at hread
    exact hread.symm

/-- **An endpoint identifies its item.** Items of projects with a path have endpoints of exactly
four segments each, and these are equal iff project, type and number are. -/
theorem itemEndpoint_eq_iff (h : k.repoPath ≠ "") (h' : k'.repoPath ≠ "") :
    ∃ endpoint endpoint', itemEndpoint k = .ok endpoint ∧ EndpointOf k endpoint ∧
      itemEndpoint k' = .ok endpoint' ∧ EndpointOf k' endpoint' ∧
        (endpoint = endpoint' ↔
          k.repoPath = k'.repoPath ∧ k.itemType = k'.itemType ∧ k.number = k'.number) := by
  obtain ⟨endpoint, hk, hof⟩ := endpointOf_itemEndpoint h
  obtain ⟨endpoint', hk', hof'⟩ := endpointOf_itemEndpoint h'
  refine ⟨endpoint, endpoint', hk, hof, hk', hof', fun heq => hof.eq (heq ▸ hof'), ?_⟩
  rintro ⟨hpath, htype, hnumber⟩
  have heq : itemEndpoint k = itemEndpoint k' := by
    simp only [itemEndpoint, hpath, htype, hnumber]
  exact Except.ok.inj (hk.symm.trans (heq.trans hk'))

/-- A slash in a path and a slash in percent form in a path. -/
theorem itemEndpoint_eq_iff_slash :
    itemEndpoint ⟨"gl", "g/ü?#", 7, .issue⟩ = .ok "/projects/g%2F%C3%BC%3F%23/issues/7" ∧
      EndpointOf ⟨"gl", "g%2Fü?#", 7, .issue⟩ "/projects/g%252F%C3%BC%3F%23/issues/7" ∧
        "/projects/g%2F%C3%BC%3F%23/issues/7" ≠ "/projects/g%252F%C3%BC%3F%23/issues/7" := by
  obtain ⟨endpoint, endpoint', hk, -, hk', hof', hiff⟩ :=
    itemEndpoint_eq_iff (show (⟨"gl", "g/ü?#", 7, .issue⟩ : ItemKey).repoPath ≠ "" by decide)
      (show (⟨"gl", "g%2Fü?#", 7, .issue⟩ : ItemKey).repoPath ≠ "" by decide)
  obtain rfl : "/projects/g%2F%C3%BC%3F%23/issues/7" = endpoint := by
    refine Except.ok.inj (Eq.trans ?_ hk)
    decide +kernel
  obtain rfl : "/projects/g%252F%C3%BC%3F%23/issues/7" = endpoint' := by
    refine Except.ok.inj (Eq.trans ?_ hk')
    decide +kernel
  exact ⟨hk, hof', fun heq => absurd (hiff.mp heq).1 (by decide)⟩

end ForgeBoard.GitLab
