import ForgeBoard.Proofs.Client.Honest
import ForgeBoard.Proofs.Client.Pool

/-!
# Where the ids in the caches come from

A `Call` is anything that a client can be asked to do, with all that it is given. Calls work side by
side on caches that are empty at first. By induction on the schedule, what is in the caches has been
told to one of the calls (`Pool.Sound`), so an id that is found under a key comes from a look-up
that has the same key. `scopedKey_eq_iff` says which look-ups these are: those of the same
identifier on the same instance, but also those of an instance whose id overlaps.

Result: `ids_found_as_told`, and `foreignId_found` for two instances of which one finds what the
other has told.
-/

namespace ForgeBoard

open Http Query Text Program

/-! ## Calls -/

/-- What clients can be asked to do. -/
inductive Operation where
  | gitlabLogin
  | githubLogin
  | projectId (path : String)
  | userIds (usernames : List String)
  | mergeRequests (filter : String) (limit : Option Nat)
  | gitlabIssues (filter : String) (limit : Option Nat)
  | pullRequests (filter : String) (limit : Option Nat)
  | githubIssues (filter : String) (limit : Option Nat)
  | searchPullRequests (query : String) (limit : Option Nat)
  | searchIssues (query : String) (limit : Option Nat)
  | change (key : ItemKey) (write : GitLab.Write)

/-- What an operation gives. -/
def Operation.Result : Operation → Type
  | gitlabLogin | githubLogin => String
  | projectId _ => Nat
  | userIds _ => List Nat
  | mergeRequests _ _ | pullRequests _ _ => Option (Page PullRequest)
  | gitlabIssues _ _ | githubIssues _ _ => Option (Page Issue)
  | searchPullRequests _ _ => Page PullRequest
  | searchIssues _ _ => Page Issue
  | change _ _ => Unit

/-- An operation on an instance, with all that the client is given. -/
structure Call where
  settings : ClientSettings
  clock : Clock
  forge : Instance
  operation : Operation

namespace Call

def action (c : Call) : Action c.operation.Result :=
  match c.operation with
  | .gitlabLogin => GitLab.currentUsername c.settings c.forge
  | .githubLogin => GitHub.viewerLogin c.settings c.forge
  | .projectId path => GitLab.projectId c.settings c.clock c.forge path
  | .userIds usernames => GitLab.userIds c.settings c.clock c.forge usernames
  | .mergeRequests filter limit =>
    GitLab.fetchMergeRequests c.settings c.clock c.forge filter limit
  | .gitlabIssues filter limit => GitLab.fetchIssues c.settings c.clock c.forge filter limit
  | .pullRequests filter limit => GitHub.fetchPullRequests c.settings c.clock c.forge filter limit
  | .githubIssues filter limit => GitHub.fetchIssues c.settings c.clock c.forge filter limit
  | .searchPullRequests query limit => GitHub.searchPullRequests c.settings c.forge query limit
  | .searchIssues query limit => GitHub.searchIssues c.settings c.forge query limit
  | .change key write => GitLab.Change.action ⟨c.settings, c.clock, c.forge, key, write⟩

open ForgeBoard.Action in
/-- **All calls are honest.** -/
theorem honest_action (c : Call) : Honest c.forge c.action := by
  obtain ⟨settings, clock, i, operation⟩ := c
  have hlogin : (⟨.logins, i.id⟩ : Cell) ∈ loginCells := rfl
  cases operation with
  | gitlabLogin => exact honest_of_keepsTo (GitLab.keepsTo_currentUsername settings i)
  | githubLogin => exact honest_of_keepsTo (GitHub.keepsTo_viewerLogin settings i)
  | projectId path => exact GitLab.honest_projectId path
  | userIds usernames => exact GitLab.honest_userIds usernames
  | mergeRequests filter limit => exact GitLab.honest_fetchMergeRequests filter limit
  | gitlabIssues filter limit => exact GitLab.honest_fetchIssues filter limit
  | pullRequests filter limit =>
    exact honest_of_keepsTo (GitHub.keepsTo_fetchPullRequests hlogin limit)
  | githubIssues filter limit =>
    exact honest_of_keepsTo (GitHub.keepsTo_fetchIssues hlogin limit)
  | searchPullRequests query limit =>
    exact honest_bind (honest_of_keepsTo (GitHub.keepsTo_ask settings i _ _ _))
      fun _ => honest_pure _
  | searchIssues query limit =>
    exact honest_bind (honest_of_keepsTo (GitHub.keepsTo_ask settings i _ _ _))
      fun _ => honest_pure _
  | change key write => exact GitLab.honest_change ⟨settings, clock, i, key, write⟩

/-- What a call comes to. -/
abbrev Answer (c : Call) : Type :=
  Except ClientError c.operation.Result

end Call

/-! ## One turn -/

namespace Task

variable {α : Type} {network : Network} {t : Task α} {caches : Caches} {i : Instance}
  {J : List Exchange → (Caches → Caches) → Prop} {Q : List Exchange → α → Prop}

/-- A turn that is allowed leaves a task that is allowed to go on. -/
theorem meets_step (h : t.rest.Meets J Q t.log) (network : Network) (caches : Caches) :
    (step network (t, caches)).1.rest.Meets J Q (step network (t, caches)).1.log := by
  obtain ⟨rest, log⟩ := t
  cases rest with
  | done a => exact h
  | send request next => exact h _
  | sleep ms next => exact h
  | access change next => exact h.2 caches

theorem log_subset_step (t : Task α) (network : Network) (caches : Caches) :
    t.log ⊆ (step network (t, caches)).1.log := by
  obtain ⟨rest, log⟩ := t
  cases rest with
  | send request next => exact List.subset_append_left _ _
  | done | sleep | access => exact List.Subset.refl _

/-- What a turn leaves in the caches was there before or has been told. -/
theorem told_step (h : t.rest.Meets (StoresTold i) Q t.log) {s : Shelf} {key : String}
    {e : CacheEntry s.Value}
    (he : TtlCache.entry? ((step network (t, caches)).2.on s) key = some e) :
    TtlCache.entry? (caches.on s) key = some e ∨
      Told i (step network (t, caches)).1.log s key e.value := by
  obtain ⟨rest, log⟩ := t
  cases rest with
  | done | send | sleep => exact .inl he
  | access change next => exact h.1 caches s key e he

end Task

/-! ## Side by side -/

namespace Pool

variable {ι : Type} {calls : ι → Call} {p : Pool fun k => (calls k).Answer}

/-- The calls that are under way are honest, and what is in the caches has been told to one of
them. -/
structure Sound (calls : ι → Call) (p : Pool fun k => (calls k).Answer) : Prop where
  honest : ∀ k, (p.tasks k).rest.Meets (StoresTold (calls k).forge) (fun _ _ => True)
    (p.tasks k).log
  told : ∀ s key e, TtlCache.entry? (p.caches.on s) key = some e →
    ∃ k, Told (calls k).forge (p.tasks k).log s key e.value

/-- Calls before their first steps, on caches that are empty. -/
def ofCalls (calls : ι → Call) : Pool fun k => (calls k).Answer :=
  ofPrograms (fun k => (calls k).action.run) .empty

theorem sound_ofCalls (calls : ι → Call) : Sound calls (ofCalls calls) where
  honest k := Program.Meets.mono ((calls k).honest_action []) fun _ _ _ => trivial
  told s key e he := by
    cases s <;> exact absurd he nofun

variable [DecidableEq ι]

theorem Sound.step (h : Sound calls p) (networks : ι → Network) (k : ι) :
    Sound calls (p.step networks k) where
  honest l := by
    by_cases hl : l = k
    · subst hl
      rw [step_tasks_self]
      exact Task.meets_step (h.honest l) _ _
    · rw [step_tasks_of_ne _ _ hl]
      exact h.honest l
  told s key e he := by
    rw [step_caches] at he
    obtain hold | hnew := Task.told_step (h.honest k) he
    · obtain ⟨l, hl⟩ := h.told s key e hold
      refine ⟨l, ?_⟩
      by_cases heq : l = k
      · subst heq
        rw [step_tasks_self]
        exact hl.mono (Task.log_subset_step _ _ _)
      · rwa [step_tasks_of_ne _ _ heq]
    · refine ⟨k, ?_⟩
      rwa [step_tasks_self]

theorem sound_run (calls : ι → Call) (networks : ι → Network) (schedule : List ι) :
    Sound calls ((ofCalls calls).run networks schedule) := by
  induction schedule using List.reverseRecOn with
  | nil => exact sound_ofCalls calls
  | append_singleton schedule k ih =>
    rw [run_append_singleton]
    exact ih.step networks k

end Pool

/-! ## Any run -/

/-- **Ids are found as they were told**, in look-ups with the same key. At any time in a run of
calls side by side, an id of a project or a user that is found for an identifier on an instance has
been told to one of the calls, in a look-up on its instance that has succeeded and has the same key.
Two look-ups have the same key iff they are of the same instance and the same identifier but for its
case, or the id of one instance overlaps that of the other; and then the instances, if named, are of
one kind, and the host of one goes on with a colon after that of the other. -/
theorem ids_found_as_told {ι : Type} [DecidableEq ι] (calls : ι → Call) (networks : ι → Network)
    (schedule : List ι) (i : Instance) (identifier : String) :
    let p := (Pool.ofCalls calls).run networks schedule
    (∀ instant id, (p.caches.projectIds.get instant (scopedKey i.id identifier)).1 = some id →
      ∃ k path, scopedKey i.id identifier = scopedKey (calls k).forge.id path ∧
        GitLab.ProjectTold (calls k).forge path (p.tasks k).log id) ∧
    (∀ instant id, (p.caches.userIds.get instant (scopedKey i.id identifier)).1 = some id →
      ∃ k name, scopedKey i.id identifier = scopedKey (calls k).forge.id name ∧
        GitLab.UserTold (calls k).forge name (p.tasks k).log id) ∧
    (∀ (j : Instance) (identifier' : String),
      scopedKey i.id identifier = scopedKey j.id identifier' ↔
        (i.id = j.id ∧ lower identifier = lower identifier') ∨
          Overlaps i.id identifier j.id identifier' ∨
            Overlaps j.id identifier' i.id identifier) ∧
    ∀ (j : Instance) (identifier' : String), i.Named → j.Named →
      Overlaps i.id identifier j.id identifier' →
        i.kind = j.kind ∧ ∃ rest, j.host = i.host ++ ":" ++ rest := by
  have hsound := Pool.sound_run calls networks schedule
  refine ⟨fun instant id h => ?_, fun instant id h => ?_, fun j identifier' => scopedKey_eq_iff,
    fun j identifier' hi hj h => h.named hi hj⟩
  · obtain ⟨e, he, -, rfl⟩ := TtlCache.get_eq_some_iff.mp h
    exact hsound.told .projectIds _ e he
  · obtain ⟨e, he, -, rfl⟩ := TtlCache.get_eq_some_iff.mp h
    exact hsound.told .userIds _ e he

namespace GitLab

/-- A server without a port. -/
def atHost : Instance := .ofHost .gitlab "[::1]"

/-- A server at the same host, with a port. -/
def atPort : Instance := .ofHost .gitlab "[::1]:81"

/-- A server where every project has this id. -/
def knowing (id : String) : Network :=
  fun _ _ => .response ⟨200, [], "\x7b\"id\":" ++ id ++ "\x7d"⟩

/-- Keys of different instances can be the same, and then one of them finds what the other has told.
The second server knows its project by 6. It is not asked, and 5 is the id of another project on the
first one. -/
theorem foreignId_found :
    Instance.ofId "gitlab:[::1]" = .ok atHost ∧ Instance.ofId "gitlab:[::1]:81" = .ok atPort ∧
      atHost.id ≠ atPort.id ∧ scopedKey atHost.id "81:g/r" = scopedKey atPort.id "g/r" ∧
      let first := (projectId ⟨.standard, false⟩ ⟨0, 0⟩ atHost "81:g/r").run.play
        (knowing "5") .empty
      let second := (projectId ⟨.standard, false⟩ ⟨0, 0⟩ atPort "g/r").run.play
        (knowing "6") first.1.2
      first.1.1.toOption = some 5 ∧ second.1.1.toOption = some 5 ∧ second.2 = [] := by
  refine ⟨by decide +kernel, by decide +kernel, by decide +kernel, by decide +kernel,
    by decide +kernel, by decide +kernel, List.isEmpty_iff.mp (by decide +kernel)⟩

end GitLab

end ForgeBoard
