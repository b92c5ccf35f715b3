import ForgeBoard.Proofs.Client.Ends
import ForgeBoard.Proofs.Client.Identity.Known
import ForgeBoard.Proofs.Client.Runs
import Mathlib.Data.Set.Basic

/-!
# The part of the caches that a program uses

Clients share three caches. A `Cell` is a key of one of them, and caches are compared cell by cell
(`Caches.Agree`): the order in which a cache keeps its entries depends on who came first.

* `TtlCache.Concerns key g`: the use `g` of a cache reads and changes the entry of `key` only.
* `Program.KeepsTo region p`: whatever the program is answered and whatever it finds, it reads no
  cell outside of the region and changes none. Sequences and repetitions keep to what their parts
  keep to (`KeepsTo.bind`, `KeepsTo.retry`).
* `KeepsTo.agree_of_runs`, `KeepsTo.runs_congr`: a run leaves all other cells as they were, and goes
  the same way whatever they hold.
-/

namespace ForgeBoard

open Http

/-! ## Cells -/

/-- The caches that clients share, by name. -/
inductive Shelf where
  | logins
  | projectIds
  | userIds
  deriving DecidableEq

/-- What a cache holds. -/
def Shelf.Value : Shelf → Type
  | logins => String
  | projectIds | userIds => Nat

/-- A key of one of the caches. -/
structure Cell where
  shelf : Shelf
  key : String

namespace Caches

/-- One of the caches. -/
def on (c : Caches) : (s : Shelf) → TtlCache s.Value
  | .logins => c.logins
  | .projectIds => c.projectIds
  | .userIds => c.userIds

/-- The caches with another one in place of one of them. -/
def replace (c : Caches) : (s : Shelf) → TtlCache s.Value → Caches
  | .logins, cache => { c with logins := cache }
  | .projectIds, cache => { c with projectIds := cache }
  | .userIds, cache => { c with userIds := cache }

variable {s s' : Shelf} {region : Set Cell} {c c' c'' : Caches} {cell : Cell}

@[simp]
theorem on_replace (c : Caches) (s : Shelf) (cache : TtlCache s.Value) :
    (c.replace s cache).on s = cache := by
  cases s <;> rfl

theorem on_replace_of_ne (cache : TtlCache s.Value) (h : s' ≠ s) :
    (c.replace s cache).on s' = c.on s' := by
  cases s <;> cases s'
  all_goals try rfl
  all_goals exact absurd rfl h

/-- Both caches hold the same in a cell. -/
def SameAt (c c' : Caches) (cell : Cell) : Prop :=
  TtlCache.entry? (c.on cell.shelf) cell.key = TtlCache.entry? (c'.on cell.shelf) cell.key

/-- Both caches hold the same in all cells of a region. -/
def Agree (region : Set Cell) (c c' : Caches) : Prop :=
  ∀ cell ∈ region, c.SameAt c' cell

theorem Agree.refl (region : Set Cell) (c : Caches) : Agree region c c :=
  fun _ _ => rfl

theorem Agree.trans (h : Agree region c c') (h' : Agree region c' c'') : Agree region c c'' :=
  fun cell hcell => (h cell hcell).trans (h' cell hcell)

end Caches

/-! ## One use of the caches -/

namespace TtlCache

variable {α β : Type}

/-- A use of a cache that reads and changes the entry of one key only. -/
structure Concerns (key : String) (g : TtlCache α → β × TtlCache α) : Prop where
  result : ∀ cache cache', cache.entry? key = cache'.entry? key → (g cache).1 = (g cache').1
  own : ∀ cache cache', cache.entry? key = cache'.entry? key →
    TtlCache.entry? (g cache).2 key = TtlCache.entry? (g cache').2 key
  others : ∀ cache key', key' ≠ key → TtlCache.entry? (g cache).2 key' = cache.entry? key'

theorem concerns_get (now : Nat) (key : String) :
    Concerns key fun cache : TtlCache α => cache.get now key where
  result cache cache' h := by
    refine Option.ext fun v => ?_
    rw [get_eq_some_iff, get_eq_some_iff, h]
  own cache cache' h := by
    refine Option.ext fun e => ?_
    rw [entry?_get, entry?_get, h]
  others cache key' hkey := by
    refine Option.ext fun e => ?_
    exact entry?_get.trans (and_iff_left fun heq => absurd heq hkey)

theorem concerns_put (key : String) (e : CacheEntry α) (b : β) :
    Concerns key fun cache : TtlCache α => (b, cache.put key e) where
  result _ _ _ := rfl
  own cache cache' _ := by rw [entry?_put, entry?_put, if_pos rfl, if_pos rfl]
  others cache key' hkey := by rw [entry?_put, if_neg hkey]

/-- A use that leaves the cache alone. -/
theorem concerns_const (key : String) (b : β) :
    Concerns key fun cache : TtlCache α => (b, cache) where
  result _ _ _ := rfl
  own _ _ h := h
  others _ _ _ := rfl

end TtlCache

namespace Identity

theorem concerns_known (i : Instance) (instant : Nat) :
    TtlCache.Concerns i.id (known i instant) := by
  unfold known
  cases i.user with
  | some user => exact TtlCache.concerns_const i.id (some user)
  | none => exact TtlCache.concerns_get instant i.id

theorem concerns_learn (i : Instance) (instant : Nat) (answer : Except ClientError String) :
    TtlCache.Concerns i.id (learn i instant answer) := by
  unfold learn
  cases answer with
  | error e => exact TtlCache.concerns_const i.id _
  | ok login =>
    dsimp only
    cases (Text.trim login).isEmpty with
    | true => exact TtlCache.concerns_const i.id _
    | false => exact TtlCache.concerns_put i.id _ _

end Identity

namespace Caches

variable {β : Type} {region : Set Cell}

/-- Uses one of the caches. -/
def use (s : Shelf) (g : TtlCache s.Value → β × TtlCache s.Value) (c : Caches) : β × Caches :=
  ((g (c.on s)).1, c.replace s (g (c.on s)).2)

/-- A use of the caches that reads and changes the cells of a region only. -/
structure Confined (region : Set Cell) (f : Caches → β × Caches) : Prop where
  result : ∀ c c', Agree region c c' → (f c).1 = (f c').1
  inside : ∀ c c', Agree region c c' → Agree region (f c).2 (f c').2
  outside : ∀ c, Agree regionᶜ (f c).2 c

theorem sameAt_use_of_ne {s : Shelf} {key : String} {g : TtlCache s.Value → β × TtlCache s.Value}
    (h : TtlCache.Concerns key g) (c : Caches) {cell : Cell} (hcell : cell ≠ ⟨s, key⟩) :
    (use s g c).2.SameAt c cell := by
  obtain ⟨s', key'⟩ := cell
  by_cases hs : s' = s
  · subst hs
    rw [SameAt, use, on_replace]
    exact h.others _ _ fun hkey => hcell (hkey ▸ rfl)
  · rw [SameAt, use, on_replace_of_ne _ hs]

/-- A use of one key of one cache is confined to any region that has the cell. -/
theorem confined_use {s : Shelf} {key : String} {g : TtlCache s.Value → β × TtlCache s.Value}
    (h : TtlCache.Concerns key g) (hregion : ⟨s, key⟩ ∈ region) : Confined region (use s g) where
  result c c' hagree := h.result _ _ (hagree _ hregion)
  inside c c' hagree cell hcell := by
    by_cases heq : cell = ⟨s, key⟩
    · subst heq
      rw [SameAt, use, use, on_replace, on_replace]
      exact h.own _ _ (hagree _ hregion)
    · exact (sameAt_use_of_ne h c heq).trans
        ((hagree cell hcell).trans (sameAt_use_of_ne h c' heq).symm)
  outside c cell hcell := sameAt_use_of_ne h c fun heq => hcell (heq ▸ hregion)

end Caches

/-! ## Programs -/

namespace Program

variable {α β : Type} {region : Set Cell}

/-- The program reads no cell outside of the region and changes none. -/
def KeepsTo (region : Set Cell) : Program α → Prop
  | done _ => True
  | send _ next => ∀ reply, (next reply).KeepsTo region
  | sleep _ next => next.KeepsTo region
  | access change next =>
    Caches.Confined region (fun caches => (next caches, change caches)) ∧
      ∀ caches, (next caches).KeepsTo region

theorem KeepsTo.bind {x : Program α} {f : α → Program β} (hx : x.KeepsTo region)
    (hf : ∀ a, x.Ends a → (f a).KeepsTo region) : (x >>= f).KeepsTo region := by
  change (x.bind f).KeepsTo region
  induction x with
  | done a => exact hf a (.done a)
  | send request next ih =>
    exact fun reply => ih reply (hx reply) fun a ha => hf a (.send reply ha)
  | sleep ms next ih => exact ih hx fun a ha => hf a (.sleep ha)
  | access change next ih =>
    obtain ⟨hconfined, hnext⟩ := hx
    refine ⟨⟨fun c c' h => ?_, hconfined.inside, hconfined.outside⟩, fun caches =>
      ih caches (hnext caches) fun a ha => hf a (.access caches ha)⟩
    exact congrArg (Program.bind · f) (hconfined.result c c' h)

theorem keepsTo_withCaches {f : Caches → α × Caches} (h : Caches.Confined region f) :
    (withCaches f).KeepsTo region :=
  ⟨⟨fun c c' hagree => congrArg done (h.result c c' hagree), h.inside, h.outside⟩,
    fun _ => trivial⟩

theorem KeepsTo.retry {op : Program (Except ClientError α)} (hop : op.KeepsTo region)
    (p : RetryPolicy) : (p.retry pause op).KeepsTo region := by
  refine retry_induction hop (fun f hf => hop.bind fun r _ => ?_) p
  obtain hdone | ⟨ms, rest, hsleep, hrest⟩ := hf r
  · rw [hdone]
    trivial
  · rw [hsleep]
    exact hrest

variable {caches caches' : Caches} {log : List Exchange} {a : α}

/-- **A run leaves all cells outside of the region as they were.** -/
theorem KeepsTo.agree_of_runs {p : Program α} (hp : p.KeepsTo region)
    (h : p.Runs caches log a caches') : Caches.Agree regionᶜ caches' caches := by
  induction h with
  | done a caches => exact .refl _ _
  | send reply _ ih => exact ih (hp reply)
  | sleep _ ih => exact ih hp
  | @access _ _ caches _ _ _ _ ih => exact (ih (hp.2 caches)).trans (hp.1.outside caches)

/-- **A run depends on no cell outside of the region.** -/
theorem KeepsTo.runs_congr {p : Program α} (hp : p.KeepsTo region)
    (h : p.Runs caches log a caches') {other : Caches} (hagree : Caches.Agree region caches other) :
    ∃ other', p.Runs other log a other' ∧ Caches.Agree region caches' other' := by
  induction h generalizing other with
  | done a caches => exact ⟨other, .done a other, hagree⟩
  | send reply _ ih =>
    obtain ⟨other', hruns, h⟩ := ih (hp reply) hagree
    exact ⟨other', .send reply hruns, h⟩
  | sleep _ ih =>
    obtain ⟨other', hruns, h⟩ := ih hp hagree
    exact ⟨other', .sleep hruns, h⟩
  | @access _ next caches _ _ _ _ ih =>
    obtain ⟨other', hruns, h⟩ := ih (hp.2 caches) (hp.1.inside _ _ hagree)
    have hnext : next caches = next other := hp.1.result _ _ hagree
    rw [hnext] at hruns
    exact ⟨other', .access hruns, h⟩

end Program

namespace Action

variable {α β : Type} {region : Set Cell}

theorem keepsTo_bind {x : Action α} {f : α → Action β} (hx : x.run.KeepsTo region)
    (hf : ∀ a, x.run.Ends (.ok a) → (f a).run.KeepsTo region) : (x >>= f).run.KeepsTo region := by
  rw [ExceptT.run_bind]
  refine hx.bind fun result hresult => ?_
  cases result with
  | ok a => exact hf a hresult
  | error e => trivial

theorem keepsTo_send (request : Option Request) : (send request).run.KeepsTo region := by
  unfold send
  split
  · trivial
  · split
    · intro reply
      cases reply <;> trivial
    · trivial

theorem keepsTo_retried {op : Action α} (hop : op.run.KeepsTo region) (p : RetryPolicy) :
    (retried p op).run.KeepsTo region :=
  hop.retry p

theorem keepsTo_withCaches {f : Caches → α × Caches} (h : Caches.Confined region f) :
    (withCaches f).run.KeepsTo region :=
  (Program.keepsTo_withCaches h).bind fun _ _ => trivial

end Action

end ForgeBoard
