import ForgeBoard.Proofs.Client.Writes

/-!
# What the clients store

A project id or a user id comes into the caches only after the instance that is asked has told it,
and it is stored under the key of that look-up. `StoresTold` says it of one change of the caches, in
view of the exchanges before, and `Action.Honest` of all changes of an action, whatever the replies
are and whatever others do to the caches in between.

* `storesTold_get`, `storesTold_put`: look-ups and what they store.
* `Action.honest_of_keepsTo`: an action that uses no cache but that of the logins is honest.
* `GitLab.honest_projectId`, `GitLab.honest_userIds`, and then all that uses them.
-/

namespace ForgeBoard

open Http Query Text Program

variable {i : Instance} {log later : List Exchange}

/-! ## What is stored -/

namespace GitLab

/-- One of the exchanges has told the id of a project. -/
def ProjectTold (i : Instance) (path : String) (log : List Exchange) (id : Nat) : Prop :=
  Answered i ("/projects/" ++ encodeSegment path) [] readProject? log id ∧ id ≠ 0

end GitLab

/-- The exchanges have told what is in a cell of one of the caches of ids, in a look-up on the
instance that has the key of the cell. -/
def Told (i : Instance) (log : List Exchange) : (s : Shelf) → String → s.Value → Prop
  | .logins, _, _ => True
  | .projectIds, key, id => ∃ path, key = scopedKey i.id path ∧ GitLab.ProjectTold i path log id
  | .userIds, key, id => ∃ name, key = scopedKey i.id name ∧ GitLab.UserTold i name log id

theorem Told.mono {s : Shelf} {key : String} {v : s.Value} (h : Told i log s key v)
    (hlog : log ⊆ later) : Told i later s key v := by
  cases s with
  | logins => trivial
  | projectIds =>
    obtain ⟨path, hkey, htold, hid⟩ := h
    exact ⟨path, hkey, htold.mono hlog, hid⟩
  | userIds =>
    obtain ⟨name, hkey, htold⟩ := h
    exact ⟨name, hkey, htold.mono hlog⟩

/-- What a change leaves in the caches was there before or has been told. -/
def StoresTold (i : Instance) (log : List Exchange) (change : Caches → Caches) : Prop :=
  ∀ caches s key e, TtlCache.entry? ((change caches).on s) key = some e →
    TtlCache.entry? (caches.on s) key = some e ∨ Told i log s key e.value

theorem storesTold_use {β : Type} {s : Shelf} {g : TtlCache s.Value → β × TtlCache s.Value}
    (h : ∀ cache key e, TtlCache.entry? (g cache).2 key = some e →
      cache.entry? key = some e ∨ Told i log s key e.value) :
    StoresTold i log fun caches => (Caches.use s g caches).2 := by
  intro caches s' key e he
  change TtlCache.entry? ((caches.replace s (g (caches.on s)).2).on s') key = some e at he
  by_cases hs : s' = s
  · subst hs
    rw [Caches.on_replace] at he
    exact h _ key e he
  · rw [Caches.on_replace_of_ne _ hs] at he
    exact .inl he

theorem storesTold_get (i : Instance) (log : List Exchange) (s : Shelf) (instant : Nat)
    (key : String) :
    StoresTold i log fun caches => (Caches.use s (fun cache => cache.get instant key) caches).2 :=
  storesTold_use fun _ _ _ h => .inl (TtlCache.entry?_get.mp h).1

theorem storesTold_put (s : Shelf) (key : String) (e : CacheEntry s.Value)
    (h : Told i log s key e.value) :
    StoresTold i log fun caches =>
      (Caches.use s (fun cache => ((), cache.put key e)) caches).2 := by
  refine storesTold_use fun cache key' e' he' => ?_
  rw [TtlCache.entry?_put] at he'
  split at he'
  · next hkey =>
    obtain rfl := Option.some.inj he'
    rw [hkey]
    exact .inr h
  · exact .inl he'

/-- The cells of the logins. -/
def loginCells : Set Cell :=
  {cell | cell.shelf = .logins}

theorem storesTold_of_confined {β : Type} {f : Caches → β × Caches}
    (h : Caches.Confined loginCells f) : StoresTold i log fun caches => (f caches).2 := by
  intro caches s key e he
  cases s with
  | logins => exact .inr trivial
  | projectIds =>
    have hsame := h.outside caches ⟨.projectIds, key⟩ nofun
    exact .inl (hsame.symm.trans he)
  | userIds =>
    have hsame := h.outside caches ⟨.userIds, key⟩ nofun
    exact .inl (hsame.symm.trans he)

/-! ## Honest actions -/

namespace Action

variable {α β : Type}

/-- The action stores no ids but those the instance has told. -/
def Honest (i : Instance) (x : Action α) : Prop :=
  ∀ log, Meets (StoresTold i) (fun _ _ => True) log x

theorem honest_pure (a : α) : Honest i (pure a) :=
  fun _ => meets_pure trivial

theorem honest_throw (e : ClientError) : Honest i (throw e : Action α) :=
  fun _ => meets_throw e

theorem honest_ofExcept (r : Except ClientError α) : Honest i (ofExcept r) :=
  fun _ _ _ => trivial

theorem honest_bind {x : Action α} {f : α → Action β} (hx : Honest i x)
    (hf : ∀ a, Honest i (f a)) : Honest i (x >>= f) :=
  fun log => meets_bind (hx log) fun log a _ => hf a log

/-- An action that uses no cache but that of the logins. -/
theorem honest_of_keepsTo {x : Action α} (h : x.run.KeepsTo loginCells) : Honest i x := by
  intro log
  unfold Meets
  generalize x.run = p at h
  induction p generalizing log with
  | done r => exact fun _ _ => trivial
  | send request next ih => exact fun reply => ih reply _ (h reply)
  | sleep ms next ih => exact ih log h
  | access change next ih =>
    exact ⟨storesTold_of_confined h.1, fun caches => ih caches log (h.2 caches)⟩

end Action

namespace GitLab

open ForgeBoard.Action

variable {settings : ClientSettings} {clock : Clock}

theorem honest_projectId (path : String) : Honest i (projectId settings clock i path) := by
  intro log
  unfold projectId
  split
  · exact meets_throw _
  have hget := storesTold_get i log .projectIds clock.instant (scopedKey i.id path)
  refine meets_bind (Q := fun _ _ => True) (meets_withCaches hget fun _ => trivial)
    fun log cached _ => ?_
  cases cached with
  | some id => exact meets_pure trivial
  | none =>
    refine meets_bind (meets_get settings i _ _ _ log) fun log answer hanswer => ?_
    obtain ⟨id, total⟩ := answer
    dsimp only
    split
    · exact meets_throw _
    · next hid =>
      have hset := storesTold_put .projectIds (scopedKey i.id path)
        (.lasting clock.instant id projectLifetime) ⟨path, rfl, hanswer, hid⟩
      exact meets_bind (Q := fun _ _ => True) (meets_withCaches hset fun _ => trivial)
        fun log _ _ => meets_pure trivial

theorem honest_userId (name : String) : Honest i (userId settings clock i name) := by
  intro log
  unfold userId
  have hget := storesTold_get i log .userIds clock.instant (scopedKey i.id name)
  refine meets_bind (Q := fun _ _ => True) (meets_withCaches hget fun _ => trivial)
    fun log cached _ => ?_
  cases cached with
  | some id => exact meets_pure trivial
  | none =>
    refine meets_bind (meets_get settings i _ _ _ log) fun log answer hanswer => ?_
    obtain ⟨users, total⟩ := answer
    cases users with
    | nil => exact meets_throw _
    | cons id others =>
      have hset := storesTold_put .userIds (scopedKey i.id name) ⟨id, none⟩
        ⟨name, rfl, others, hanswer⟩
      exact meets_bind (Q := fun _ _ => True) (meets_withCaches hset fun _ => trivial)
        fun log _ _ => meets_pure trivial

theorem honest_userIds (usernames : List String) :
    Honest i (userIds settings clock i usernames) := by
  unfold userIds
  generalize distinctNames [] usernames = names
  induction names with
  | nil => exact honest_pure _
  | cons name rest ih =>
    exact honest_bind (honest_userId name) fun _ => honest_bind ih fun _ => honest_pure _

theorem honest_get {α : Type} (endpoint : String) (params : Params) (readBody : Json → Option α) :
    Honest i (get settings i endpoint params readBody) :=
  honest_of_keepsTo (keepsTo_get settings i endpoint params readBody)

theorem honest_list {α : Type} (resource : String) (listing : Listing) (limit : Option Nat)
    (readItem : Json → Option α) :
    Honest i (list settings clock i resource listing limit readItem) := by
  unfold list
  cases listing.project with
  | none =>
    exact honest_bind (honest_pure _) fun _ =>
      honest_bind (honest_get _ _ _) fun _ => honest_pure _
  | some path =>
    exact honest_bind (honest_projectId path) fun _ =>
      honest_bind (honest_pure _) fun _ =>
        honest_bind (honest_get _ _ _) fun _ => honest_pure _

theorem honest_prepare (filter : String) : Honest i (prepare settings clock i filter) :=
  honest_of_keepsTo (keepsTo_prepare rfl)

theorem honest_fetchMergeRequests (filter : String) (limit : Option Nat) :
    Honest i (fetchMergeRequests settings clock i filter limit) := by
  refine honest_bind (honest_prepare filter) fun answer => ?_
  cases answer with
  | none => exact honest_pure _
  | some listing => exact honest_bind (honest_list _ _ _ _) fun _ => honest_pure _

theorem honest_fetchIssues (filter : String) (limit : Option Nat) :
    Honest i (fetchIssues settings clock i filter limit) := by
  refine honest_bind (honest_prepare filter) fun answer => ?_
  cases answer with
  | none => exact honest_pure _
  | some listing => exact honest_bind (honest_list _ _ _ _) fun _ => honest_pure _

/-! ## Changes of items -/

theorem honest_requireSuccess (r : Response) : Honest i (requireSuccess r) := by
  unfold requireSuccess
  split
  · exact honest_pure _
  · exact honest_throw _

theorem honest_sendForm (method : Method) (endpoint : String) (form : List (String × String)) :
    Honest i (sendForm i method endpoint form) :=
  honest_bind (honest_of_keepsTo (keepsTo_send _)) honest_requireSuccess

theorem honest_requireCapability (c : Capability) (action : String) :
    Honest i (requireCapability i c action) := by
  unfold requireCapability
  split
  · exact honest_pure _
  · exact honest_throw _

theorem honest_requirePullRequest (k : ItemKey) (action : String) :
    Honest i (requirePullRequest k action) := by
  unfold requirePullRequest
  split
  · exact honest_pure _
  · exact honest_throw _

theorem honest_change (c : Change) : Honest c.forge c.action := by
  obtain ⟨settings, clock, i, k, write⟩ := c
  cases write with
  | comment body => exact honest_bind (honest_ofExcept _) fun _ => honest_sendForm _ _ _
  | approve remark =>
    refine honest_bind (honest_requireCapability _ _) fun _ =>
      honest_bind (honest_requirePullRequest _ _) fun _ => ?_
    have happroval := honest_bind (i := i) (honest_ofExcept (itemEndpoint k)) fun endpoint =>
      honest_sendForm .post (endpoint ++ "/approve") []
    cases remark with
    | none => exact happroval
    | some text =>
      dsimp only
      split
      · exact happroval
      · exact honest_bind (honest_bind (honest_ofExcept _) fun _ => honest_sendForm _ _ _)
          fun _ => happroval
  | merge =>
    exact honest_bind (honest_requireCapability _ _) fun _ =>
      honest_bind (honest_requirePullRequest _ _) fun _ =>
        honest_bind (honest_ofExcept _) fun _ => honest_sendForm _ _ _
  | setState event => exact honest_bind (honest_ofExcept _) fun _ => honest_sendForm _ _ _
  | setLabels labels =>
    exact honest_bind (honest_requireCapability _ _) fun _ =>
      honest_bind (honest_ofExcept _) fun _ => honest_sendForm _ _ _
  | setAssignees usernames =>
    exact honest_bind (honest_requireCapability _ _) fun _ =>
      honest_bind (honest_ofExcept _) fun _ =>
        honest_bind (honest_userIds usernames) fun _ => honest_sendForm _ _ _

end GitLab

end ForgeBoard
