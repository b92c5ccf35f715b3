import ForgeBoard.Proofs.Client.TtlCache.Entries
import Mathlib.Data.Finset.Card
import Mathlib.Data.List.Induction

/-!
# A cache and the log of its uses

A cache removes an expired entry when it next looks for it, so what it holds depends on the
look-ups. What it answers does not: it answers as a log of the writes would, in which the last write
of a key counts until its deadline.

* `Use`: one use of a cache at an instant, and `after` the cache after a list of uses.
* `latest key uses`: the entry that the last write of a key stored.
* `Kept key e uses`: the entry was stored, and since then no write has replaced it and no look-up of
  its key has found it expired.
* `entry?_run` is what one use does to an entry, and `entry?_after` is the run: the cache holds
  exactly the entries that are kept.

Result: `answers_as_log`.
-/

namespace ForgeBoard.TtlCache

variable {α : Type}

/-- What a cache is used for. -/
inductive Call (α : Type) where
  | get (key : String)
  | set (key : String) (value : α) (ttl : Nat)
  | setPermanent (key : String) (value : α)

/-- One use of a cache. -/
structure Use (α : Type) where
  instant : Nat
  call : Call α

namespace Use

/-- The cache after a use. -/
def run (u : Use α) (cache : TtlCache α) : TtlCache α :=
  match u.call with
  | .get key => (cache.get u.instant key).2
  | .set key value ttl => cache.set u.instant key value ttl
  | .setPermanent key value => cache.setPermanent key value

/-- The use stores something. -/
def isWrite (u : Use α) : Bool :=
  match u.call with
  | .get _ => false
  | _ => true

/-- The entry that a use stores under a key. -/
def entryFor? (key : String) (u : Use α) : Option (CacheEntry α) :=
  match u.call with
  | .get _ => none
  | .set key' value ttl => if key = key' then some (.lasting u.instant value ttl) else none
  | .setPermanent key' value => if key = key' then some ⟨value, none⟩ else none

/-- The use neither replaces an entry of the key nor finds it expired. -/
def Spares (key : String) (e : CacheEntry α) (u : Use α) : Prop :=
  u.entryFor? key = none ∧ (u.call = .get key → e.isExpired u.instant = false)

end Use

/-- The cache after uses, from an empty one on. -/
def after (uses : List (Use α)) : TtlCache α :=
  uses.foldl (fun cache u => u.run cache) empty

/-- The uses come in the order of their instants, and none comes after `now`. -/
def InOrder (uses : List (Use α)) (now : Nat) : Prop :=
  uses.Pairwise (fun u v => u.instant ≤ v.instant) ∧ ∀ u ∈ uses, u.instant ≤ now

/-- The entry that the last write of a key stored. -/
def latest (key : String) (uses : List (Use α)) : Option (CacheEntry α) :=
  (uses.filterMap (·.entryFor? key)).getLast?

/-- The entry was stored under the key, and all uses since then have spared it. -/
def Kept (key : String) (e : CacheEntry α) (uses : List (Use α)) : Prop :=
  ∃ before write rest, uses = before ++ write :: rest ∧ write.entryFor? key = some e ∧
    ∀ u ∈ rest, u.Spares key e

variable {u : Use α} {uses : List (Use α)} {cache : TtlCache α} {key : String} {e : CacheEntry α}
  {now : Nat} {v : α}

/-! ## One use -/

/-- **One use** leaves the entries that it stores and those that it spares. -/
theorem entry?_run :
    entry? (u.run cache) key = some e ↔
      u.entryFor? key = some e ∨ cache.entry? key = some e ∧ u.Spares key e := by
  obtain ⟨instant, call⟩ := u
  cases call with
  | get key' =>
    simp only [Use.run, entry?_get, Use.entryFor?, Use.Spares, Call.get.injEq, reduceCtorEq,
      false_or, true_and]
    rw [eq_comm (a := key)]
  | set key' value ttl =>
    simp only [Use.run, entry?_set, Use.entryFor?, Use.Spares]
    by_cases hkey : key = key' <;> simp [hkey]
  | setPermanent key' value =>
    simp only [Use.run, entry?_setPermanent, Use.entryFor?, Use.Spares]
    by_cases hkey : key = key' <;> simp [hkey]

theorem Distinct.run (h : cache.Distinct) (u : Use α) : (u.run cache).Distinct := by
  unfold Use.run
  split
  · exact h.get _ _
  · exact h.put _ _
  · exact h.put _ _

/-! ## Runs -/

theorem after_concat (uses : List (Use α)) (u : Use α) :
    after (uses ++ [u]) = u.run (after uses) :=
  List.foldl_concat _ _ _ _

theorem distinct_after (uses : List (Use α)) : (after uses).Distinct := by
  induction uses using List.reverseRecOn with
  | nil => exact distinct_empty
  | append_singleton uses u ih =>
    rw [after_concat]
    exact ih.run u

theorem not_kept_nil : ¬ Kept key e [] := by
  rintro ⟨before, write, rest, huses, -⟩
  exact absurd huses.symm (by simp)

/-- What is kept after one more use. -/
theorem kept_concat :
    Kept key e (uses ++ [u]) ↔ u.entryFor? key = some e ∨ Kept key e uses ∧ u.Spares key e := by
  constructor
  · rintro ⟨before, write, rest, huses, hwrite, hspares⟩
    rcases List.eq_nil_or_concat rest with rfl | ⟨rest, w, rfl⟩
    · obtain ⟨-, hu⟩ := List.append_inj' huses rfl
      obtain rfl := List.singleton_inj.mp hu
      exact .inl hwrite
    · rw [List.concat_eq_append] at huses hspares
      rw [← List.cons_append, ← List.append_assoc] at huses
      obtain ⟨rfl, hu⟩ := List.append_inj' huses rfl
      obtain rfl := List.singleton_inj.mp hu
      obtain ⟨hrest, hu⟩ := List.forall_mem_append.mp hspares
      exact .inr ⟨⟨before, write, rest, rfl, hwrite, hrest⟩, hu u List.mem_cons_self⟩
  · rintro (hwrite | ⟨⟨before, write, rest, rfl, hwrite, hspares⟩, hu⟩)
    · exact ⟨uses, u, [], rfl, hwrite, List.forall_mem_nil _⟩
    · refine ⟨before, write, rest ++ [u], by simp, hwrite, ?_⟩
      exact List.forall_mem_append.mpr ⟨hspares, List.forall_mem_singleton.mpr hu⟩

/-- **The cache holds the entries that are kept**, by induction on the uses. -/
theorem entry?_after : entry? (after uses) key = some e ↔ Kept key e uses := by
  induction uses using List.reverseRecOn with
  | nil => exact ⟨nofun, fun h => absurd h not_kept_nil⟩
  | append_singleton uses u ih => rw [after_concat, entry?_run, kept_concat, ih]

/-! ## The log -/

theorem latest_append_cons {before rest : List (Use α)} {write : Use α}
    (hwrite : write.entryFor? key = some e) (hrest : ∀ u ∈ rest, u.entryFor? key = none) :
    latest key (before ++ write :: rest) = some e := by
  rw [latest, List.filterMap_append, List.filterMap_cons, hwrite,
    List.filterMap_eq_nil_iff.mpr hrest]
  exact List.getLast?_concat

theorem Kept.latest_eq (h : Kept key e uses) : latest key uses = some e := by
  obtain ⟨before, write, rest, rfl, hwrite, hspares⟩ := h
  exact latest_append_cons hwrite fun u hu => (hspares u hu).1

/-- The last write of a key is followed by uses that do not write it. -/
theorem exists_write_of_latest (h : latest key uses = some e) :
    ∃ before write rest, uses = before ++ write :: rest ∧ write.entryFor? key = some e ∧
      ∀ u ∈ rest, u.entryFor? key = none := by
  induction uses using List.reverseRecOn with
  | nil => exact absurd h nofun
  | append_singleton uses u ih =>
    cases hu : u.entryFor? key with
    | some f =>
      have hlast : latest key (uses ++ [u]) = some f :=
        latest_append_cons hu (List.forall_mem_nil _)
      obtain rfl := Option.some.inj (h.symm.trans hlast)
      exact ⟨uses, u, [], rfl, hu, List.forall_mem_nil _⟩
    | none =>
      have hlatest : latest key (uses ++ [u]) = latest key uses := by
        simp [latest, hu]
      obtain ⟨before, write, rest, rfl, hwrite, hrest⟩ := ih (hlatest.symm.trans h)
      refine ⟨before, write, rest ++ [u], by simp, hwrite, ?_⟩
      exact List.forall_mem_append.mpr ⟨hrest, List.forall_mem_singleton.mpr hu⟩

/-- An entry of the last write that has not expired is kept: no earlier look-up found it expired. -/
theorem kept_of_latest (horder : InOrder uses now) (h : latest key uses = some e)
    (he : e.isExpired now = false) : Kept key e uses := by
  obtain ⟨before, write, rest, rfl, hwrite, hrest⟩ := exists_write_of_latest h
  refine ⟨before, write, rest, rfl, hwrite, fun u hu => ⟨hrest u hu, fun _ => ?_⟩⟩
  exact CacheEntry.isExpired_mono he
    (horder.2 u (List.mem_append_right _ (List.mem_cons_of_mem _ hu)))

/-- **A look-up answers as the log does.** -/
theorem get_after (horder : InOrder uses now) :
    ((after uses).get now key).1 = some v ↔
      ∃ e, latest key uses = some e ∧ e.value = v ∧ ∀ d ∈ e.deadline, now ≤ d := by
  rw [get_eq_some_iff]
  simp only [entry?_after, CacheEntry.isExpired_eq_false_iff]
  constructor
  · rintro ⟨e, hkept, he, hv⟩
    exact ⟨e, hkept.latest_eq, hv, he⟩
  · rintro ⟨e, hlatest, hv, he⟩
    exact ⟨e, kept_of_latest horder hlatest (CacheEntry.isExpired_eq_false_iff.mpr he), he, hv⟩

theorem latest_filter_isWrite (key : String) (uses : List (Use α)) :
    latest key (uses.filter (·.isWrite)) = latest key uses := by
  rw [latest, List.filterMap_filter, latest]
  congr 1
  refine List.filterMap_congr fun u _ => ?_
  unfold Use.isWrite Use.entryFor?
  cases u.call <;> rfl

/-- **A cache answers as the log of its writes**, at instants that never go back. A look-up gives
the value of the last write of its key, unless that has a deadline and the deadline has passed. It
gives the same after any uses with the same writes, so the look-ups before it, and what they
removed, never show. A write replaces value and deadline. The size is the number of keys with an
entry that is kept: stored, and not found expired by a look-up of its key since. -/
theorem answers_as_log {uses : List (Use α)} {now : Nat} (horder : InOrder uses now)
    (key : String) :
    (∀ v, ((after uses).get now key).1 = some v ↔
      ∃ e, latest key uses = some e ∧ e.value = v ∧ ∀ d ∈ e.deadline, now ≤ d) ∧
    (∀ others, InOrder others now → others.filter (·.isWrite) = uses.filter (·.isWrite) →
      ((after others).get now key).1 = ((after uses).get now key).1) ∧
    (∀ v ttl, entry? (after (uses ++ [⟨now, .set key v ttl⟩])) key =
        some ⟨v, if now + ttl ≤ lastInstant then some (now + ttl) else none⟩ ∧
      entry? (after (uses ++ [⟨now, .setPermanent key v⟩])) key = some ⟨v, none⟩) ∧
    ∃ keys : Finset String, (∀ k, k ∈ keys ↔ ∃ e, Kept k e uses) ∧
      (after uses).size = keys.card := by
  refine ⟨fun v => get_after horder, fun others hothers hsame => ?_, fun v ttl => ⟨?_, ?_⟩, ?_⟩
  · refine Option.ext fun v => ?_
    have hlatest : latest key others = latest key uses := by
      rw [← latest_filter_isWrite, hsame, latest_filter_isWrite]
    exact (get_after hothers).trans (hlatest ▸ (get_after horder).symm)
  · exact entry?_after.mpr ⟨uses, _, [], rfl, if_pos rfl, List.forall_mem_nil _⟩
  · exact entry?_after.mpr ⟨uses, _, [], rfl, if_pos rfl, List.forall_mem_nil _⟩
  · refine ⟨(after uses).keys.toFinset, fun k => ?_, ?_⟩
    · rw [List.mem_toFinset, mem_keys_iff]
      exact exists_congr fun e => entry?_after
    · rw [size_eq_length_keys, List.toFinset_card_of_nodup (distinct_after uses)]

/-- An entry that is read at its deadline and after it, one that nobody reads in time, and one
without a deadline. -/
def mixedUses : List (Use String) :=
  [⟨0, .set "read" "x" 5⟩, ⟨1, .set "unread" "y" 2⟩, ⟨5, .get "read"⟩, ⟨6, .get "read"⟩,
    ⟨7, .setPermanent "kept" "z"⟩]

theorem answers_as_log_mixedUses :
    InOrder mixedUses 9 ∧ ((after mixedUses).get 9 "kept").1 = some "z" ∧
      ((after mixedUses).get 9 "unread").1 = none ∧
      ∃ keys : Finset String, "unread" ∈ keys ∧ "read" ∉ keys ∧
        (after mixedUses).size = keys.card := by
  have horder : InOrder mixedUses 9 := by
    simp [InOrder, mixedUses]
  refine ⟨horder, ?_, ?_, ?_⟩
  · exact ((answers_as_log horder "kept").1 "z").mpr ⟨⟨"z", none⟩, rfl, rfl, nofun⟩
  · refine Option.eq_none_iff_forall_ne_some.mpr fun v hv => ?_
    obtain ⟨e, hlatest, -, he⟩ := ((answers_as_log horder "unread").1 v).mp hv
    obtain rfl := Option.some.inj hlatest
    exact absurd (he 3 rfl) (by decide)
  · obtain ⟨keys, hkeys, hsize⟩ := (answers_as_log horder "read").2.2.2
    refine ⟨keys, (hkeys _).mpr ⟨.lasting 1 "y" 2, entry?_after.mp rfl⟩, fun hread => ?_, hsize⟩
    obtain ⟨e, hkept⟩ := (hkeys _).mp hread
    exact absurd (entry?_after.mpr hkept) nofun

end ForgeBoard.TtlCache
