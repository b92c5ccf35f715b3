import ForgeBoard.Client.TtlCache
import Mathlib.Data.List.Nodup

/-!
# What a cache holds

A cache is what it has under each key (`TtlCache.entry?`), expired or not. Here is what each
operation does to it: `entry?_put` reads after a write, and `entry?_get` says that a look-up
changes the entry of its own key only, and only if it finds it expired. What a look-up gives is in
`get_eq_some_iff`. No key occurs twice (`TtlCache.Distinct`), so the size counts keys.
-/

namespace ForgeBoard

variable {α : Type}

namespace CacheEntry

/-- The entry of a value stored for `ttl` milliseconds. -/
def lasting (now : Nat) (value : α) (ttl : Nat) : CacheEntry α :=
  ⟨value, if now + ttl ≤ TtlCache.lastInstant then some (now + ttl) else none⟩

variable {now now' : Nat} {e : CacheEntry α}

theorem isExpired_eq_false_iff : e.isExpired now = false ↔ ∀ d ∈ e.deadline, now ≤ d := by
  unfold isExpired
  cases e.deadline <;> simp

/-- What counts later has counted before. -/
theorem isExpired_mono (h : e.isExpired now = false) (hle : now' ≤ now) :
    e.isExpired now' = false :=
  isExpired_eq_false_iff.mpr fun d hd => Nat.le_trans hle (isExpired_eq_false_iff.mp h d hd)

theorem isExpired_lasting {value : α} {ttl : Nat} (h : now' ≤ now + ttl) :
    (lasting now value ttl).isExpired now' = false := by
  refine isExpired_eq_false_iff.mpr fun d hd => ?_
  obtain ⟨-, hd⟩ := Option.ite_none_right_eq_some.mp hd
  rwa [← Option.some.inj hd]

end CacheEntry

namespace TtlCache

variable {cache : TtlCache α} {key key' : String} {e : CacheEntry α} {now : Nat} {v : α}

theorem entry?_cons (first : String × CacheEntry α) (rest : List (String × CacheEntry α))
    (key : String) :
    entry? (⟨first :: rest⟩ : TtlCache α) key =
      if key = first.1 then some first.2 else entry? (⟨rest⟩ : TtlCache α) key := by
  unfold entry?
  rw [List.lookup_cons]
  split <;> simp_all

/-! ## Writing -/

theorem entry?_erase (cache : TtlCache α) (key key' : String) :
    entry? (cache.erase key) key' = if key' = key then none else cache.entry? key' := by
  obtain ⟨entries⟩ := cache
  induction entries with
  | nil => exact (ite_self none).symm
  | cons first rest ih =>
    unfold erase at ih ⊢
    by_cases hfirst : first.1 = key
    · rw [List.filter_cons_of_neg (by simpa using hfirst), ih, entry?_cons, hfirst]
      split <;> rfl
    · rw [List.filter_cons_of_pos (by simpa using hfirst), entry?_cons, entry?_cons, ih]
      by_cases hkey : key' = first.1
      · rw [if_pos hkey, if_pos hkey, if_neg fun h => hfirst (hkey.symm.trans h)]
      · rw [if_neg hkey, if_neg hkey]

/-- **Reading after a write.** -/
theorem entry?_put (cache : TtlCache α) (key : String) (e : CacheEntry α) (key' : String) :
    entry? (cache.put key e) key' = if key' = key then some e else cache.entry? key' := by
  rw [put, entry?_cons]
  split
  · rfl
  · next hkey => exact (cache.entry?_erase key key').trans (if_neg hkey)

theorem entry?_set (cache : TtlCache α) (now : Nat) (key : String) (v : α) (ttl : Nat)
    (key' : String) :
    entry? (cache.set now key v ttl) key' =
      if key' = key then some (.lasting now v ttl) else cache.entry? key' :=
  cache.entry?_put key _ key'

theorem entry?_setPermanent (cache : TtlCache α) (key : String) (v : α) (key' : String) :
    entry? (cache.setPermanent key v) key' =
      if key' = key then some ⟨v, none⟩ else cache.entry? key' :=
  cache.entry?_put key _ key'

/-! ## Looking up -/

/-- **A look-up** gives the value of an entry that has not expired. -/
theorem get_eq_some_iff :
    (cache.get now key).1 = some v ↔
      ∃ e, cache.entry? key = some e ∧ e.isExpired now = false ∧ e.value = v := by
  unfold get
  cases cache.entry? key with
  | none => simp
  | some e => cases he : e.isExpired now <;> simp [he]

theorem get_eq_none_iff :
    (cache.get now key).1 = none ↔ ∀ e, cache.entry? key = some e → e.isExpired now = true := by
  unfold get
  cases cache.entry? key with
  | none => simp
  | some e => cases he : e.isExpired now <;> simp [he]

/-- A look-up leaves the cache as it is, unless it finds the entry of its key expired. -/
theorem get_snd_of_some (h : (cache.get now key).1 = some v) : (cache.get now key).2 = cache := by
  obtain ⟨e, hentry, he, -⟩ := get_eq_some_iff.mp h
  simp [get, hentry, he]

/-- **What a look-up leaves**: all entries but its own one, if that has expired. -/
theorem entry?_get :
    entry? (cache.get now key).2 key' = some e ↔
      cache.entry? key' = some e ∧ (key' = key → e.isExpired now = false) := by
  unfold get
  cases hentry : cache.entry? key with
  | none =>
    refine ⟨fun h => ⟨h, ?_⟩, fun h => h.1⟩
    rintro rfl
    exact absurd (hentry.symm.trans h) nofun
  | some f =>
    cases hf : f.isExpired now with
    | true =>
      simp only [hf, if_true, entry?_erase]
      by_cases hkey : key' = key
      · subst hkey
        rw [if_pos rfl, hentry]
        refine ⟨nofun, ?_⟩
        rintro ⟨heq, he⟩
        obtain rfl := Option.some.inj heq
        exact absurd (hf.symm.trans (he rfl)) nofun
      · simp [hkey]
    | false =>
      simp only [hf, Bool.false_eq_true, if_false]
      refine ⟨fun h => ⟨h, ?_⟩, fun h => h.1⟩
      rintro rfl
      obtain rfl := Option.some.inj (hentry.symm.trans h)
      exact hf

/-! ## Keys -/

/-- The keys of the entries, in the order in which they are kept. -/
def keys (cache : TtlCache α) : List String :=
  cache.entries.map Prod.fst

/-- No key occurs twice. -/
def Distinct (cache : TtlCache α) : Prop :=
  cache.keys.Nodup

theorem size_eq_length_keys (cache : TtlCache α) : cache.size = cache.keys.length :=
  (List.length_map _).symm

theorem mem_keys_iff : key ∈ cache.keys ↔ ∃ e, cache.entry? key = some e := by
  obtain ⟨entries⟩ := cache
  induction entries with
  | nil => exact ⟨fun h => absurd h List.not_mem_nil, fun ⟨_, h⟩ => absurd h nofun⟩
  | cons first rest ih =>
    have hkeys : (⟨first :: rest⟩ : TtlCache α).keys = first.1 :: (⟨rest⟩ : TtlCache α).keys := rfl
    rw [hkeys, List.mem_cons, ih]
    simp only [entry?_cons]
    by_cases hkey : key = first.1
    · simp [hkey]
    · simp [hkey]

theorem distinct_empty : (empty : TtlCache α).Distinct :=
  List.nodup_nil

theorem keys_erase (cache : TtlCache α) (key : String) :
    (cache.erase key).keys = cache.keys.filter (· != key) := by
  rw [keys, keys, List.filter_map]
  rfl

theorem Distinct.erase (h : cache.Distinct) (key : String) : (cache.erase key).Distinct := by
  rw [Distinct, keys_erase]
  exact List.Nodup.filter _ h

theorem Distinct.put (h : cache.Distinct) (key : String) (e : CacheEntry α) :
    (cache.put key e).Distinct := by
  refine List.nodup_cons.mpr ⟨?_, h.erase key⟩
  have hnot : key ∉ (cache.erase key).keys := by
    rw [keys_erase]
    simp
  exact hnot

theorem Distinct.get (h : cache.Distinct) (now : Nat) (key : String) :
    (cache.get now key).2.Distinct := by
  unfold TtlCache.get
  split
  · exact h
  · split
    · exact h.erase key
    · exact h

end TtlCache

end ForgeBoard
