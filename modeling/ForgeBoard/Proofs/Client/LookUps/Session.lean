import ForgeBoard.Proofs.Client.LookUps.Names
import ForgeBoard.Proofs.Client.Pool
import ForgeBoard.Proofs.Client.ScopedKey
import ForgeBoard.Proofs.Text.Lowercase

/-!
# Look-ups over a session

A session is a list of look-ups of users and projects on caches that are empty at first. Each comes
with its instance, its time and the network that answers it. What is looked up next is described
from what all of them have left in the caches.

* `entry?_after_append`: no look-up takes away what counts, so what is in the caches stays there
  until it expires, by induction on the look-ups in between.
* `stored_after`: what is in the cache of projects has been stored by a look-up of a project.
* `UserLearned`, `ProjectLearned`: what an instance has told before. It is in the caches
  (`UserLearned.cached`, `ProjectLearned.entry?`).
* `UsersCall`, `ProjectCall`: what the next call comes to (`usersCall_of_runs`,
  `projectCall_of_runs`).

Result: `lookUps_remembered`.
-/

namespace ForgeBoard.GitLab

open Http Json Query Text Program

/-! ## Sessions -/

/-- What is looked up: users by their names, or a project by its path. -/
inductive Subject where
  | users (usernames : List String)
  | project (path : String)

/-- A look-up on an instance, and the network that answers it. -/
structure LookUp where
  forge : Instance
  clock : Clock
  subject : Subject
  network : Network

/-- The caches after a look-up, and its exchanges. -/
def LookUp.run (settings : ClientSettings) (l : LookUp) (caches : Caches) :
    Caches × List Exchange :=
  match l.subject with
  | .users usernames =>
    let call := (userIds settings l.clock l.forge usernames).run.play l.network caches
    (call.1.2, call.2)
  | .project path =>
    let call := (projectId settings l.clock l.forge path).run.play l.network caches
    (call.1.2, call.2)

/-- The caches after look-ups. -/
def after (settings : ClientSettings) (past : List LookUp) : Caches :=
  past.foldl (fun caches l => (l.run settings caches).1) .empty

/-- Time does not go back from look-up to look-up, and an instant comes after all of them. -/
def InOrder (past : List LookUp) (instant : Nat) : Prop :=
  past.Pairwise (fun l l' => l.clock.instant ≤ l'.clock.instant) ∧
    ∀ l ∈ past, l.clock.instant ≤ instant

variable {settings : ClientSettings} {clock : Clock} {i : Instance} {l : LookUp}
  {past before between : List LookUp} {caches caches' : Caches} {log : List Exchange}
  {usernames : List String} {name path : String} {id : Nat} {r : Except ClientError Nat}

namespace LookUp

theorem run_users (h : l.subject = .users usernames) (caches : Caches) :
    l.run settings caches =
      let call := (userIds settings l.clock l.forge usernames).run.play l.network caches
      (call.1.2, call.2) := by
  rw [run, h]

theorem run_project (h : l.subject = .project path) (caches : Caches) :
    l.run settings caches =
      let call := (projectId settings l.clock l.forge path).run.play l.network caches
      (call.1.2, call.2) := by
  rw [run, h]

theorem runs_users (h : l.subject = .users usernames) (caches : Caches) :
    ∃ rs, (userIds settings l.clock l.forge usernames).run.Runs caches (l.run settings caches).2 rs
      (l.run settings caches).1 := by
  rw [run_users h]
  exact ⟨_, runs_play l.network _ caches⟩

theorem runs_project (h : l.subject = .project path) (caches : Caches) :
    ∃ r, (projectId settings l.clock l.forge path).run.Runs caches (l.run settings caches).2 r
      (l.run settings caches).1 := by
  rw [run_project h]
  exact ⟨_, runs_play l.network _ caches⟩

theorem stays_run (l : LookUp) (caches : Caches) :
    caches.Stays l.clock.instant (l.run settings caches).1 := by
  cases h : l.subject with
  | users usernames =>
    obtain ⟨rs, hruns⟩ := runs_users h caches
    exact stays_of_runs_lookUpAll hruns
  | project path =>
    obtain ⟨r, hruns⟩ := runs_project h caches
    exact stays_of_runs_projectId hruns

/-- A look-up stores what it is about. -/
theorem stored_run {key : String} {e : CacheEntry Nat}
    (he : (l.run settings caches).1.projectIds.entry? key = some e) :
    caches.projectIds.entry? key = some e ∨
      ∃ path, l.subject = .project path ∧ path ≠ "" ∧ key = scopedKey l.forge.id path := by
  cases h : l.subject with
  | users usernames =>
    obtain ⟨rs, hruns⟩ := runs_users h caches
    have hkeeps : (userIds settings l.clock l.forge usernames).run.KeepsTo
        {cell | cell.shelf = .userIds} := keepsTo_lookUpAll fun _ _ => rfl
    exact .inl ((hkeeps.agree_of_runs hruns ⟨.projectIds, key⟩ nofun).symm.trans he)
  | project path =>
    obtain ⟨r, hruns⟩ := runs_project h caches
    obtain hold | ⟨hpath, hkey, -⟩ := entry?_of_runs_projectId hruns he
    · exact .inl hold
    · exact .inr ⟨path, rfl, hpath, hkey⟩

end LookUp

theorem Sound.run (hsound : Sound caches) (l : LookUp) : Sound (l.run settings caches).1 := by
  cases h : l.subject with
  | users usernames =>
    obtain ⟨rs, hruns⟩ := LookUp.runs_users h caches
    exact hsound.lookUpAll hruns
  | project path =>
    obtain ⟨r, hruns⟩ := LookUp.runs_project h caches
    exact hsound.projectId hruns

theorem after_concat (past : List LookUp) (l : LookUp) :
    after settings (past ++ [l]) = (l.run settings (after settings past)).1 :=
  List.foldl_concat _ _ _ _

theorem sound_after (settings : ClientSettings) (past : List LookUp) :
    Sound (after settings past) := by
  induction past using List.reverseRecOn with
  | nil => exact sound_empty
  | append_singleton past l ih =>
    rw [after_concat]
    exact ih.run l

/-- What is in the cache of projects has been stored by a look-up of a project. -/
theorem stored_after {key : String} {e : CacheEntry Nat}
    (he : (after settings past).projectIds.entry? key = some e) :
    ∃ l ∈ past, ∃ path,
      l.subject = .project path ∧ path ≠ "" ∧ key = scopedKey l.forge.id path := by
  induction past using List.reverseRecOn with
  | nil => exact absurd he nofun
  | append_singleton past l ih =>
    rw [after_concat] at he
    obtain he | hl := LookUp.stored_run he
    · obtain ⟨l', hl', hstored⟩ := ih he
      exact ⟨l', List.mem_append_left _ hl', hstored⟩
    · exact ⟨l, List.mem_append_right _ (List.mem_singleton_self l), hl⟩

/-- Nothing is stored under the key of no path, unless the id of another instance overlaps. -/
theorem overlaps_of_entry?_empty {e : CacheEntry Nat}
    (he : (after settings past).projectIds.entry? (scopedKey i.id "") = some e) :
    ∃ l ∈ past, ∃ path, l.subject = .project path ∧ Overlaps l.forge.id path i.id "" := by
  obtain ⟨l, hl, path, hsubject, hpath, hkey⟩ := stored_after he
  obtain ⟨-, hlower⟩ | ⟨rest, -, hlower⟩ | hoverlaps := scopedKey_eq_iff.mp hkey
  · exact absurd hlower.symm (lower_ne_empty hpath)
  · have hcolon : rest ++ ":" ++ lower path ≠ "" := by
      simp
    exact absurd hlower.symm hcolon
  · exact ⟨l, hl, path, hsubject, hoverlaps⟩

/-- **What is in the caches stays there** as long as it counts. -/
theorem entry?_after_append {s : Shelf} {key : String} {e : CacheEntry s.Value}
    (hentry : TtlCache.entry? ((after settings before).on s) key = some e)
    (he : ∀ l ∈ between, e.isExpired l.clock.instant = false) :
    TtlCache.entry? ((after settings (before ++ between)).on s) key = some e := by
  induction between using List.reverseRecOn with
  | nil => rwa [List.append_nil]
  | append_singleton between l ih =>
    obtain ⟨hbetween, hl⟩ := List.forall_mem_append.mp he
    rw [← List.append_assoc, after_concat]
    exact l.stays_run _ s key e (ih hbetween) (hl l List.mem_cons_self)

/-! ## What has been learned -/

/-- In a look-up of users, the instance has told the id of one, or the caches have it after that. -/
def UserLearned (settings : ClientSettings) (past : List LookUp) (i : Instance) (name : String)
    (id : Nat) : Prop :=
  ∃ before l between usernames, past = before ++ l :: between ∧ l.subject = .users usernames ∧
    l.forge.id = i.id ∧ (UserTold l.forge name (l.run settings (after settings before)).2 id ∨
      Cached (l.run settings (after settings before)).1 i name id)

/-- In a look-up of a project at an instant, the instance has told its id. -/
def ProjectLearned (settings : ClientSettings) (past : List LookUp) (i : Instance) (path : String)
    (instant id : Nat) : Prop :=
  ∃ before l between, past = before ++ l :: between ∧ l.subject = .project path ∧
    l.forge.id = i.id ∧ l.clock.instant = instant ∧
      ProjectTold l.forge path (l.run settings (after settings before)).2 id

/-- **A user that has been learned** is in the caches for ever. -/
theorem UserLearned.cached (h : UserLearned settings past i name id) :
    Cached (after settings past) i name id := by
  obtain ⟨before, l, between, usernames, rfl, hsubject, hid, hl⟩ := h
  have hcached : Cached (after settings (before ++ [l])) i name id := by
    rw [after_concat]
    obtain htold | hcached := hl
    · obtain ⟨rs, hruns⟩ := l.runs_users hsubject (after settings before)
      rw [Cached, ← hid]
      exact cached_of_told hruns htold
    · exact hcached
  have hlater : Cached (after settings (before ++ [l] ++ between)) i name id :=
    entry?_after_append (s := .userIds) hcached fun _ _ => rfl
  rwa [List.append_assoc, List.singleton_append] at hlater

/-- **What is told of a project** is the result, and it is stored for a while. -/
theorem entry?_of_projectTold
    (h : (projectId settings clock i path).run.Runs caches log r caches')
    (htold : ProjectTold i path log id) :
    path ≠ "" ∧ r = .ok id ∧ caches'.projectIds.entry? (scopedKey i.id path) =
      some (.lasting clock.instant id projectLifetime) := by
  obtain ⟨hpath, ⟨before, after, hask⟩, hentry⟩ := asked_of_runs_projectId h htold.1.log_ne_nil
  obtain rfl := (askProject_eq_ok_iff hask).mpr htold
  exact ⟨hpath, rfl, hentry⟩

/-- **A project that has been learned** is in the caches as long as its id lasts. -/
theorem ProjectLearned.entry? {instant now : Nat}
    (h : ProjectLearned settings past i path instant id) (horder : InOrder past now)
    (hnow : now ≤ instant + projectLifetime) :
    path ≠ "" ∧ (after settings past).projectIds.entry? (scopedKey i.id path) =
      some (.lasting instant id projectLifetime) := by
  obtain ⟨before, l, between, rfl, hsubject, hid, rfl, htold⟩ := h
  obtain ⟨r, hruns⟩ := l.runs_project hsubject (after settings before)
  obtain ⟨hpath, -, hentry⟩ := entry?_of_projectTold hruns htold
  refine ⟨hpath, ?_⟩
  rw [hid, ← after_concat] at hentry
  have hbetween : ∀ l' ∈ between, l'.clock.instant ≤ l.clock.instant + projectLifetime :=
    fun l' hl' => Nat.le_trans (horder.2 l' (by simp [hl'])) hnow
  have hlater := entry?_after_append (s := .projectIds) hentry fun l' hl' =>
    CacheEntry.isExpired_lasting (hbetween l' hl')
  rwa [List.append_assoc, List.singleton_append] at hlater

/-! ## The next call -/

/-- What a call for users comes to, after look-ups. -/
structure UsersCall (settings : ClientSettings) (past : List LookUp) (clock : Clock) (i : Instance)
    (usernames : List String) (log : List Exchange) (rs : Except ClientError (List Nat))
    (caches' : Caches) : Prop where
  /-- There is one id for each name, in the order of the names. It has been in the caches or has
  been told, and is in the caches from then on. -/
  found : ∀ ids, rs = .ok ids → List.Forall₂ (fun name id => Cached caches' i name id ∧
    (Cached (after settings past) i name id ∨ UserTold i name log id)) (namesOf usernames) ids
  /-- A name that fails ends the call with its error. The ids of the names before stay, and the
  names behind are not looked up. -/
  failed : ∀ e, rs = .error e → ∃ known ids name unseen between first second,
    namesOf usernames = known ++ name :: unseen ∧ log = first ++ second ∧
      (userId settings clock i name).run.Runs between second (.error e) caches' ∧
        List.Forall₂ (Cached caches' i) known ids ∧
          caches'.userIds.entry? (scopedKey i.id name) = none ∧
            ∀ other ∈ unseen, ¬ Requested i other log
  /-- A name that has been learned is never looked up again, and has the same id. -/
  once : ∀ name id, UserLearned settings past i name id → ∀ other, lower other = lower name →
    ¬ Requested i other log ∧
      ∀ ids id', rs = .ok ids → (other, id') ∈ (namesOf usernames).zip ids → id' = id

/-- What a call for a project comes to, after look-ups. -/
structure ProjectCall (settings : ClientSettings) (past : List LookUp) (clock : Clock)
    (i : Instance) (path : String) (log : List Exchange) (r : Except ClientError Nat)
    (caches' : Caches) : Prop where
  /-- Without a path there is no look-up. Under the key of no path there is nothing, unless it has
  been stored for a path of another instance, whose id overlaps. -/
  missing : path = "" → log = [] ∧ r = .error .missingProjectPath ∧ caches' = after settings past ∧
    ∀ e, caches'.projectIds.entry? (scopedKey i.id "") = some e →
      ∃ l ∈ past, ∃ other, l.subject = .project other ∧ Overlaps l.forge.id other i.id ""
  /-- The id has been in the caches, or it is told and stored. -/
  found : ∀ id, r = .ok id → id ≠ 0 ∧
    ((log = [] ∧ ∃ e, (after settings past).projectIds.entry? (scopedKey i.id path) = some e ∧
        e.isExpired clock.instant = false ∧ e.value = id) ∨
      (ProjectTold i path log id ∧ caches'.projectIds.entry? (scopedKey i.id path) =
        some (.lasting clock.instant id projectLifetime)))
  /-- An id that is told is the result, and it is stored for fifteen minutes. -/
  told : ∀ id, ProjectTold i path log id → path ≠ "" ∧ r = .ok id ∧
    caches'.projectIds.entry? (scopedKey i.id path) =
      some (.lasting clock.instant id projectLifetime)
  /-- A look-up that fails leaves nothing under the key. -/
  failed : ∀ e, r = .error e → path ≠ "" →
    caches'.projectIds.entry? (scopedKey i.id path) = none
  zero : Answered i ("/projects/" ++ encodeSegment path) [] readProject? log 0 →
    r = .error (.projectNotFound path)
  /-- A project that has been learned is not looked up again as long as its id lasts. -/
  once : ∀ learned instant id, ProjectLearned settings past i learned instant id →
    lower path = lower learned → clock.instant ≤ instant + projectLifetime → r = .ok id ∧ log = []
  nonzero : ∀ key e, caches'.projectIds.entry? key = some e → e.value ≠ 0

/-- In a session, an id that is resolved without being told is in the caches for good. -/
theorem Sound.cached_or_told (hsound : Sound caches) (h : Resolved clock i caches log name id) :
    Cached caches i name id ∨ UserTold i name log id := by
  obtain ⟨⟨value, deadline⟩, hentry, -, rfl⟩ | htold := h
  · obtain rfl : deadline = none := hsound.users _ _ hentry
    exact .inl hentry
  · exact .inr htold

theorem usersCall_of_runs {rs : Except ClientError (List Nat)}
    (h : (userIds settings clock i usernames).run.Runs (after settings past) log rs caches') :
    UsersCall settings past clock i usernames log rs caches' := by
  have hsound := sound_after settings past
  have hlookUps := h
  have hpairs := (pairwise_distinctNames [] usernames).1
  rw [userIds, distinctNames_eq] at hlookUps
  rw [distinctNames_eq] at hpairs
  have hcached : ∀ ids, rs = .ok ids →
      List.Forall₂ (Cached caches' i) (namesOf usernames) ids := by
    rintro ids rfl
    exact cached_of_runs_lookUpAll hsound hlookUps
  refine ⟨?_, ?_, ?_⟩
  · rintro ids rfl
    have hresolved := resolved_of_runs_userIds h
    rw [distinctNames_eq, List.forall₂_iff_zip] at hresolved
    obtain ⟨hlength, hzip⟩ := List.forall₂_iff_zip.mp (hcached ids rfl)
    exact List.forall₂_iff_zip.mpr
      ⟨hlength, fun hmem => ⟨hzip hmem, hsound.cached_or_told (hresolved.2 hmem)⟩⟩
  · rintro e rfl
    obtain ⟨known, ids, name, unseen, between, first, second, hnames, hknown, hname, rfl⟩ :=
      failed_of_runs_lookUpAll hlookUps
    refine ⟨known, ids, name, unseen, between, first, second, hnames, rfl, hname, ?_,
      (course_of_runs_userId hname).of_error.2, fun other hother hrequested => ?_⟩
    · exact (cached_of_runs_lookUpAll hsound hknown).imp
        fun _ _ h => h.stays (stays_of_runs_userId hname)
    · -- a name that is requested is `name` or comes before it, and `other` comes behind
      rw [hnames, List.pairwise_append, List.pairwise_cons] at hpairs
      obtain ⟨-, ⟨hbehind, -⟩, hbefore⟩ := hpairs
      obtain hfirst | hsecond := hrequested.of_append
      · exact hbefore other (mem_of_requested hknown hfirst) other
          (List.mem_cons_of_mem _ hother) rfl
      · obtain rfl := eq_of_requested_userId hname hsecond
        exact hbehind other hother rfl
  · intro name id hlearned other hlower
    have hother := hlearned.cached.congr hlower
    refine ⟨not_requested_of_cached hother hlookUps, fun ids id' hids hmem => ?_⟩
    exact ((List.forall₂_iff_zip.mp (hcached ids hids)).2 hmem).unique
      (hother.stays (stays_of_runs_lookUpAll hlookUps))

theorem projectCall_of_runs (horder : InOrder past clock.instant)
    (h : (projectId settings clock i path).run.Runs (after settings past) log r caches') :
    ProjectCall settings past clock i path log r caches' := by
  have hsound := sound_after settings past
  refine ⟨?_, ?_, fun _ htold => entry?_of_projectTold h htold, ?_, ?_, ?_,
    (hsound.projectId h).projects⟩
  · rintro rfl
    obtain ⟨hlog, hr, rfl⟩ := runs_projectId_empty h
    exact ⟨hlog, hr, rfl, fun e he => overlaps_of_entry?_empty he⟩
  · rintro id rfl
    have hpath : path ≠ "" := by
      rintro rfl
      exact absurd (runs_projectId_empty h).2.1 nofun
    obtain ⟨e, hentry, hcounts, rfl, hlog, -⟩ | ⟨⟨before, after, hask⟩, hentry⟩ :=
      (course_of_runs_projectId hpath h).of_ok
    · exact ⟨hsound.projects _ e hentry, .inl ⟨hlog, e, hentry, hcounts, rfl⟩⟩
    · have htold := (askProject_eq_ok_iff hask).mp rfl
      exact ⟨htold.2, .inr ⟨htold, hentry⟩⟩
  · rintro e rfl hpath
    exact (course_of_runs_projectId hpath h).of_error.2
  · intro hzero
    obtain ⟨-, ⟨before, after, hask⟩, -⟩ := asked_of_runs_projectId h hzero.log_ne_nil
    exact (runs_ask hask).1 0 hzero
  · intro learned instant id hlearned hlower hnow
    obtain ⟨hne, hentry⟩ := hlearned.entry? horder hnow
    have hpath : path ≠ "" := by
      rintro rfl
      exact lower_ne_empty hne hlower.symm
    rw [show scopedKey i.id learned = scopedKey i.id path by rw [scopedKey, scopedKey, hlower]]
      at hentry
    obtain ⟨hlog, hr, -⟩ := (course_of_runs_projectId hpath h).of_counts hentry
      (CacheEntry.isExpired_lasting hnow)
    exact ⟨hr, hlog⟩

/-- **Ids are looked up once.** After any look-ups in the order of time, with whatever names, paths
and answers, a call for users gives one id for each name, or ends at the first name that fails, and
a call for a project gives an id that is not zero. What an instance has told in one of the look-ups
before is given again and not asked for, a user's id for ever and a project's id for fifteen
minutes, and a look-up that fails leaves nothing in the caches. -/
theorem lookUps_remembered (horder : InOrder past clock.instant) (network : Network) :
    (∀ usernames,
      let call := (userIds settings clock i usernames).run.play network (after settings past)
      UsersCall settings past clock i usernames call.2 call.1.1 call.1.2) ∧
    ∀ path,
      let call := (projectId settings clock i path).run.play network (after settings past)
      ProjectCall settings past clock i path call.2 call.1.1 call.1.2 :=
  ⟨fun _ => usersCall_of_runs (runs_play network _ _),
    fun _ => projectCall_of_runs horder (runs_play network _ _)⟩

/-- A server that answers all requests with this text. -/
def answering (body : String) : Network :=
  fun _ _ => .response ⟨200, [], body⟩

/-- A look-up of Ann on a server that knows her by 5. -/
def annLookUp : LookUp :=
  ⟨.ofHost .gitlab "[::1]", ⟨7, 0⟩, .users ["ann"], answering "[\x7b\"id\":5\x7d]"⟩

/-- A look-up of a project on the same server, which knows it by 4. -/
def projectLookUp : LookUp :=
  ⟨.ofHost .gitlab "[::1]", ⟨9, 0⟩, .project "g/r", answering "\x7b\"id\":4\x7d"⟩

theorem userLearned_annLookUp (between : List LookUp) :
    UserLearned ⟨.standard, false⟩ (annLookUp :: between) annLookUp.forge "ann" 5 := by
  have hruns := runs_play annLookUp.network
    (userIds ⟨.standard, false⟩ annLookUp.clock annLookUp.forge ["ann"]).run .empty
  have hcall : UsersCall ⟨.standard, false⟩ [] _ _ _ _ _ _ := usersCall_of_runs hruns
  have hfound := hcall.found [5] (eq_ok_of_toOption (by decide +kernel))
  rw [show namesOf ["ann"] = ["ann"] by decide +kernel] at hfound
  refine ⟨[], annLookUp, between, ["ann"], rfl, rfl, rfl, .inl ?_⟩
  rw [LookUp.run_users rfl]
  dsimp only
  obtain ⟨-, hcached | htold⟩ := (List.forall₂_cons.mp hfound).1
  · have hnone : Caches.empty.userIds.entry? (scopedKey annLookUp.forge.id "ann") = none := rfl
    exact absurd (hnone.symm.trans hcached) nofun
  · exact htold

theorem projectLearned_projectLookUp :
    ProjectLearned ⟨.standard, false⟩ [annLookUp, projectLookUp] projectLookUp.forge "g/r" 9 4 := by
  have horder : InOrder [annLookUp] projectLookUp.clock.instant := by
    simp [InOrder, annLookUp, projectLookUp]
  have hcall := projectCall_of_runs horder (runs_play projectLookUp.network
    (projectId ⟨.standard, false⟩ projectLookUp.clock projectLookUp.forge "g/r").run
    (after ⟨.standard, false⟩ [annLookUp]))
  refine ⟨[annLookUp], projectLookUp, [], rfl, rfl, rfl, rfl, ?_⟩
  rw [LookUp.run_project rfl]
  dsimp only
  obtain ⟨-, ⟨-, e, hentry, -⟩ | ⟨htold, -⟩⟩ :=
    hcall.found 4 (eq_ok_of_toOption (by decide +kernel))
  · have hnone : (after ⟨.standard, false⟩ [annLookUp]).projectIds.entry?
        (scopedKey projectLookUp.forge.id "g/r") = none := by decide +kernel
    exact absurd (hnone.symm.trans hentry) nofun
  · exact htold

/-- Neither Ann nor the project is looked up again in the last millisecond of the fifteen minutes,
although the server would tell other ids now. -/
theorem lookUps_remembered_ann :
    InOrder [annLookUp, projectLookUp] 900009 ∧
      namesOf [" ", "ANN ", "bob", "Ann"] = ["ANN", "bob"] ∧
      let settings : ClientSettings := ⟨.standard, false⟩
      let session := after settings [annLookUp, projectLookUp]
      let users :=
        (userIds settings ⟨900009, 0⟩ annLookUp.forge [" ", "ANN ", "bob", "Ann"]).run.play
          (answering "[\x7b\"id\":6\x7d]") session
      let project := (projectId settings ⟨900009, 0⟩ annLookUp.forge "G/R").run.play
        (answering "\x7b\"id\":6\x7d") session
      (users.1.1.toOption = some [5, 6] ∧ ¬ Requested annLookUp.forge "ANN" users.2) ∧
        project.1.1 = .ok 4 ∧ project.2 = [] := by
  have horder : InOrder [annLookUp, projectLookUp] 900009 := by
    simp [InOrder, annLookUp, projectLookUp]
  have husers := (@lookUps_remembered ⟨.standard, false⟩ ⟨900009, 0⟩ annLookUp.forge
    [annLookUp, projectLookUp] horder (answering "[\x7b\"id\":6\x7d]")).1
      [" ", "ANN ", "bob", "Ann"]
  have hproject := (@lookUps_remembered ⟨.standard, false⟩ ⟨900009, 0⟩ annLookUp.forge
    [annLookUp, projectLookUp] horder (answering "\x7b\"id\":6\x7d")).2 "G/R"
  have hann := userLearned_annLookUp [projectLookUp]
  refine ⟨horder, by decide +kernel, ⟨by decide +kernel, ?_⟩, ?_⟩
  · exact (husers.once "ann" 5 hann "ANN" (by decide +kernel)).1
  · exact hproject.once "g/r" 9 4 projectLearned_projectLookUp (by decide +kernel) (by decide)

end ForgeBoard.GitLab
