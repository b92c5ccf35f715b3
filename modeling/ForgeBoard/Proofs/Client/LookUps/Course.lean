import ForgeBoard.Proofs.Client.Honest
import ForgeBoard.Proofs.Client.Reads
import ForgeBoard.Proofs.Success

/-!
# One look-up

Ids of users and ids of projects are looked up in the same way: what the cache holds is the result
as long as it counts; else the instance is asked, and what it says is stored. `Action.lookUp` is
that way, with the question and the entry left open.

* `Action.Course`: how a look-up can go (`Action.course_of_runs_lookUp`). An entry that counts is
  the result (`Course.of_counts`), and a question that fails leaves no entry (`Course.of_error`).
* `Caches.Stays`: a look-up leaves what counts (`Action.stays_of_runs_lookUp`).
* `GitLab.userId_eq`, `GitLab.projectId_eq`: both look-ups are such, with the questions `askUser`
  and `askProject`.
* `GitLab.askUser_eq_ok_iff`, `GitLab.askProject_eq_ok_iff`: what a question comes to can be seen in
  the exchanges.
* `GitLab.Sound`: no entry of a user expires, and no project has the id zero. Look-ups keep it so.
-/

namespace ForgeBoard

open Http Query Text Program

variable {α β γ : Type} {caches caches' : Caches} {log : List Exchange}

/-! ## Sequences -/

namespace Program

theorem bind_bind (x : Program α) (f : α → Program β) (g : β → Program γ) :
    (x.bind f).bind g = x.bind fun a => (f a).bind g := by
  induction x with
  | done a => rfl
  | send request next ih => exact congrArg (send request) (funext ih)
  | sleep ms next ih => exact congrArg (sleep ms) ih
  | access change next ih => exact congrArg (access change) (funext ih)

theorem bind_done (x : Program α) : x.bind done = x := by
  induction x with
  | done a => rfl
  | send request next ih => exact congrArg (send request) (funext ih)
  | sleep ms next ih => exact congrArg (sleep ms) ih
  | access change next ih => exact congrArg (access change) (funext ih)

instance : LawfulMonad Program :=
  LawfulMonad.mk' Program bind_done (fun _ _ => rfl) bind_bind

end Program

/-! ## A look-up -/

theorem Caches.replace_on (c : Caches) (s : Shelf) : c.replace s (c.on s) = c := by
  cases s <;> rfl

namespace Action

variable {s : Shelf} {instant : Nat} {key : String} {ask : Action s.Value}
  {stored : s.Value → CacheEntry s.Value} {r : Except ClientError s.Value}

/-- The value of a key, if it counts; else what is asked for, which is then stored. -/
def lookUp (s : Shelf) (instant : Nat) (key : String) (ask : Action s.Value)
    (stored : s.Value → CacheEntry s.Value) : Action s.Value := do
  let cached ← withCaches (Caches.use s fun cache => cache.get instant key)
  match cached with
  | some v => return v
  | none =>
    let v ← ask
    withCaches (Caches.use s fun cache => ((), cache.put key (stored v)))
    return v

/-- How a look-up can go. -/
inductive Course (s : Shelf) (instant : Nat) (key : String) (ask : Action s.Value)
    (stored : s.Value → CacheEntry s.Value) (caches : Caches) :
    List Exchange → Except ClientError s.Value → Caches → Prop where
  /-- An entry counts. Nothing is sent, and the caches stay as they are. -/
  | known {e : CacheEntry s.Value} (hentry : TtlCache.entry? (caches.on s) key = some e)
      (hcounts : e.isExpired instant = false) :
      Course s instant key ask stored caches [] (.ok e.value) caches
  /-- No entry counts. What is asked for is the result, and the entry of the key is what is stored
  for it, if the question does not fail. -/
  | asked {log : List Exchange} {r : Except ClientError s.Value} {before after caches' : Caches}
      (hnone : ∀ e, TtlCache.entry? (caches.on s) key = some e → e.isExpired instant = true)
      (hask : ask.run.Runs before log r after)
      (hentry : TtlCache.entry? (caches'.on s) key = r.toOption.map stored) :
      Course s instant key ask stored caches log r caches'

/-- An entry that counts is the result. -/
theorem Course.of_counts {e : CacheEntry s.Value}
    (h : Course s instant key ask stored caches log r caches')
    (hentry : TtlCache.entry? (caches.on s) key = some e) (hcounts : e.isExpired instant = false) :
    log = [] ∧ r = .ok e.value ∧ caches' = caches := by
  cases h with
  | known hentry' _ =>
    obtain rfl := Option.some.inj (hentry.symm.trans hentry')
    exact ⟨rfl, rfl, rfl⟩
  | asked hnone _ _ => exact absurd (hcounts.symm.trans (hnone e hentry)) nofun

/-- What is sent is sent by the question. -/
theorem Course.of_log_ne_nil (h : Course s instant key ask stored caches log r caches')
    (hlog : log ≠ []) :
    (∃ before after, ask.run.Runs before log r after) ∧
      TtlCache.entry? (caches'.on s) key = r.toOption.map stored := by
  cases h with
  | known _ _ => exact absurd rfl hlog
  | asked _ hask hentry => exact ⟨⟨_, _, hask⟩, hentry⟩

/-- A value that is given has been there and counts, or it is asked for and stored. -/
theorem Course.of_ok {v : s.Value}
    (h : Course s instant key ask stored caches log (.ok v) caches') :
    (∃ e, TtlCache.entry? (caches.on s) key = some e ∧ e.isExpired instant = false ∧
      e.value = v ∧ log = [] ∧ caches' = caches) ∨
      (∃ before after, ask.run.Runs before log (.ok v) after) ∧
        TtlCache.entry? (caches'.on s) key = some (stored v) := by
  generalize hr : (.ok v : Except ClientError s.Value) = r at h
  cases h with
  | known hentry hcounts => exact .inl ⟨_, hentry, hcounts, (Except.ok.inj hr).symm, rfl, rfl⟩
  | asked _ hask hentry =>
    subst hr
    exact .inr ⟨⟨_, _, hask⟩, hentry⟩

/-- A look-up that fails leaves nothing under the key. -/
theorem Course.of_error {e : ClientError}
    (h : Course s instant key ask stored caches log (.error e) caches') :
    (∃ before after, ask.run.Runs before log (.error e) after) ∧
      TtlCache.entry? (caches'.on s) key = none := by
  cases h with
  | asked _ hask hentry => exact ⟨⟨_, _, hask⟩, hentry⟩

/-- What is under the key has been there, or is stored for the result of the question. -/
theorem Course.of_entry {e : CacheEntry s.Value}
    (h : Course s instant key ask stored caches log r caches')
    (hentry : TtlCache.entry? (caches'.on s) key = some e) :
    TtlCache.entry? (caches.on s) key = some e ∨
      ∃ v before after, ask.run.Runs before log (.ok v) after ∧ e = stored v := by
  cases h with
  | known _ _ => exact .inl hentry
  | asked _ hask hafter =>
    obtain ⟨v, hv, rfl⟩ := Option.map_eq_some_iff.mp (hafter.symm.trans hentry)
    obtain rfl := eq_ok_of_toOption hv
    exact .inr ⟨v, _, _, hask, rfl⟩

/-- After a look-up in vain the cache has nothing under the key. -/
theorem entry?_get_of_none {cache : TtlCache α} (h : (cache.get instant key).1 = none) :
    TtlCache.entry? (cache.get instant key).2 key = none := by
  refine Option.eq_none_iff_forall_ne_some.mpr fun e he => ?_
  obtain ⟨hentry, hcounts⟩ := TtlCache.entry?_get.mp he
  exact absurd ((hcounts rfl).symm.trans (TtlCache.get_eq_none_iff.mp h e hentry)) nofun

/-- **A look-up goes one of these ways**, if the question uses no cache. -/
theorem course_of_runs_lookUp (hkeeps : ask.run.KeepsTo ∅)
    (h : (lookUp s instant key ask stored).run.Runs caches log r caches') :
    Course s instant key ask stored caches log r caches' := by
  obtain ⟨e, hget, -⟩ | ⟨cached, between, first, rest, hget, h, rfl⟩ := runs_bind_iff.mp h
  · exact absurd (runs_withCaches_iff.mp hget).2 nofun
  obtain ⟨rfl, _, hcached, huse⟩ := runs_withCaches_iff.mp hget
  obtain rfl := Except.ok.inj hcached
  obtain ⟨hfound, rfl⟩ := Prod.mk.inj huse
  cases cached with
  | some v =>
    obtain ⟨rfl, rfl, rfl⟩ := runs_pure_iff.mp h
    obtain ⟨e, hentry, hcounts, rfl⟩ := TtlCache.get_eq_some_iff.mp hfound
    rw [TtlCache.get_snd_of_some hfound, Caches.replace_on]
    exact .known hentry hcounts
  | none =>
    have hnone := TtlCache.get_eq_none_iff.mp hfound
    obtain ⟨e, hask, rfl⟩ | ⟨v, after, asked, last, hask, hstore, rfl⟩ := runs_bind_iff.mp h
    · refine .asked hnone hask ?_
      have hsame := hkeeps.agree_of_runs hask ⟨s, key⟩ (Set.notMem_empty _)
      refine hsame.trans ?_
      rw [Caches.on_replace]
      exact entry?_get_of_none hfound
    · obtain ⟨e, hput, -⟩ | ⟨_, final, put, done, hput, hend, rfl⟩ := runs_bind_iff.mp hstore
      · exact absurd (runs_withCaches_iff.mp hput).2 nofun
      obtain ⟨rfl, _, -, huse⟩ := runs_withCaches_iff.mp hput
      obtain ⟨rfl, rfl, rfl⟩ := runs_pure_iff.mp hend
      obtain ⟨-, rfl⟩ := Prod.mk.inj huse
      rw [List.append_nil, List.nil_append, List.append_nil]
      refine .asked hnone hask ?_
      rw [Caches.on_replace, TtlCache.entry?_put, if_pos rfl]
      rfl

/-- A look-up uses the cell of its key only. -/
theorem keepsTo_lookUp (hkeeps : ask.run.KeepsTo {⟨s, key⟩}) :
    (lookUp s instant key ask stored).run.KeepsTo {⟨s, key⟩} := by
  have hcell : (⟨s, key⟩ : Cell) ∈ ({⟨s, key⟩} : Set Cell) := rfl
  have hget := Caches.confined_use (TtlCache.concerns_get instant key) hcell
  refine keepsTo_bind (keepsTo_withCaches hget) fun cached _ => ?_
  cases cached with
  | some v => trivial
  | none =>
    refine keepsTo_bind hkeeps fun v _ => ?_
    have hput := Caches.confined_use (TtlCache.concerns_put key (stored v) ()) hcell
    exact keepsTo_bind (keepsTo_withCaches hput) fun _ _ => trivial

/-- A look-up sends what the question sends. -/
theorem sendsOnly_lookUp {P : Request → Prop} (hask : ask.run.SendsOnly P) :
    (lookUp s instant key ask stored).run.SendsOnly P := by
  refine sendsOnly_bind (sendsOnly_withCaches _) fun cached => ?_
  cases cached with
  | some v => trivial
  | none =>
    exact sendsOnly_bind hask fun v => sendsOnly_bind (sendsOnly_withCaches _) fun _ => trivial

end Action

/-- What counts at an instant stays. -/
def Caches.Stays (instant : Nat) (c c' : Caches) : Prop :=
  ∀ s key e, TtlCache.entry? (c.on s) key = some e → e.isExpired instant = false →
    TtlCache.entry? (c'.on s) key = some e

theorem Caches.Stays.refl (instant : Nat) (c : Caches) : Stays instant c c :=
  fun _ _ _ h _ => h

theorem Caches.Stays.trans {instant : Nat} {c c' c'' : Caches} (h : Stays instant c c')
    (h' : Stays instant c' c'') : Stays instant c c'' :=
  fun s key e hentry hcounts => h' s key e (h s key e hentry hcounts) hcounts

/-- **A look-up leaves what counts.** -/
theorem Action.stays_of_runs_lookUp {s : Shelf} {instant : Nat} {key : String}
    {ask : Action s.Value} {stored : s.Value → CacheEntry s.Value} {r : Except ClientError s.Value}
    (hkeeps : ∀ region, ask.run.KeepsTo region)
    (h : (lookUp s instant key ask stored).run.Runs caches log r caches') :
    caches.Stays instant caches' := by
  intro s' key' e hentry hcounts
  by_cases hcell : (⟨s', key'⟩ : Cell) = ⟨s, key⟩
  · obtain ⟨rfl, rfl⟩ := Cell.mk.inj hcell
    obtain ⟨-, -, rfl⟩ := (course_of_runs_lookUp (hkeeps ∅) h).of_counts hentry hcounts
    exact hentry
  · exact ((keepsTo_lookUp (hkeeps _)).agree_of_runs h ⟨s', key'⟩ hcell).trans hentry

/-! ## Questions -/

namespace GitLab

open Json

variable {settings : ClientSettings} {clock : Clock} {i : Instance} {endpoint : String}
  {params : Params} {readBody : Json → Option α} {judge : α → Except ClientError β}

/-- Reads an answer, which may be refused. -/
def ask (settings : ClientSettings) (i : Instance) (endpoint : String) (params : Params)
    (readBody : Json → Option α) (judge : α → Except ClientError β) : Action β := do
  let (a, _) ← get settings i endpoint params readBody
  Action.ofExcept (judge a)

theorem keepsTo_ask (region : Set Cell) :
    (ask settings i endpoint params readBody judge).run.KeepsTo region :=
  Action.keepsTo_bind (keepsTo_get settings i _ _ _) fun _ _ => trivial

/-- **A question comes to what its answer is judged to be**, and to an error if there is none. -/
theorem runs_ask {r : Except ClientError β}
    (h : (ask settings i endpoint params readBody judge).run.Runs caches log r caches') :
    (∀ a, Answered i endpoint params readBody log a → r = judge a) ∧
      ((∃ b, r = .ok b) → ∃ a, Answered i endpoint params readBody log a) := by
  obtain ⟨e, hget, rfl⟩ | ⟨⟨a, total⟩, between, first, second, hget, hjudge, rfl⟩ :=
    Action.runs_bind_iff.mp h
  · refine ⟨fun a ha => ?_, fun ⟨b, hr⟩ => absurd hr nofun⟩
    obtain ⟨_, hr⟩ := (eq_ok_iff_answered hget).mpr ha
    exact absurd hr nofun
  · obtain ⟨rfl, rfl, -⟩ := runs_pure_iff.mp hjudge
    rw [List.append_nil]
    refine ⟨fun a' ha' => ?_, fun _ => ⟨a, (eq_ok_iff_answered hget).mp ⟨total, rfl⟩⟩⟩
    obtain ⟨_, hr⟩ := (eq_ok_iff_answered hget).mpr ha'
    rw [(Prod.mk.inj (Except.ok.inj hr)).1]

/-! ## Users and projects -/

variable {name path : String} {id : Nat} {r : Except ClientError Nat}

/-- The first of the users that are found. -/
def firstUser (name : String) : List Nat → Except ClientError Nat
  | [] => .error (.userNotFound name)
  | id :: _ => .ok id

/-- The question for the id of a user. -/
def askUser (settings : ClientSettings) (i : Instance) (name : String) : Action Nat :=
  ask settings i "/users" [("username", name)] (list? readUser?) (firstUser name)

/-- The id of the project, which is zero if the answer has none. -/
def foundProject (path : String) (id : Nat) : Except ClientError Nat :=
  if id = 0 then .error (.projectNotFound path) else .ok id

/-- The question for the id of a project. -/
def askProject (settings : ClientSettings) (i : Instance) (path : String) : Action Nat :=
  ask settings i ("/projects/" ++ encodeSegment path) [] readProject? (foundProject path)

theorem userId_eq (settings : ClientSettings) (clock : Clock) (i : Instance) (name : String) :
    userId settings clock i name =
      Action.lookUp .userIds clock.instant (scopedKey i.id name) (askUser settings i name)
        (⟨·, none⟩) := by
  refine bind_congr fun cached => ?_
  cases cached with
  | some id => rfl
  | none =>
    refine Eq.trans (bind_congr fun answer => ?_) (bind_assoc (get settings i _ _ _) _ _).symm
    obtain ⟨users, total⟩ := answer
    cases users <;> rfl

theorem projectId_eq (settings : ClientSettings) (clock : Clock) (i : Instance) (h : path ≠ "") :
    projectId settings clock i path =
      Action.lookUp .projectIds clock.instant (scopedKey i.id path) (askProject settings i path)
        (.lasting clock.instant · projectLifetime) := by
  have hpath : ¬ path.isEmpty = true := by simpa using h
  unfold projectId
  rw [if_neg hpath]
  refine bind_congr fun cached => ?_
  cases cached with
  | some id => rfl
  | none =>
    refine Eq.trans (bind_congr fun answer => ?_) (bind_assoc (get settings i _ _ _) _ _).symm
    obtain ⟨id, total⟩ := answer
    dsimp only [foundProject]
    split <;> rfl

/-- **A question for a user** gives the first one of the users in the answer. -/
theorem askUser_eq_ok_iff (h : (askUser settings i name).run.Runs caches log r caches') :
    r = .ok id ↔ UserTold i name log id := by
  obtain ⟨hjudge, hok⟩ := runs_ask h
  constructor
  · rintro rfl
    obtain ⟨users, husers⟩ := hok ⟨id, rfl⟩
    cases users with
    | nil => exact absurd (hjudge [] husers) nofun
    | cons found others =>
      obtain rfl := Except.ok.inj (hjudge _ husers)
      exact ⟨others, husers⟩
  · rintro ⟨others, husers⟩
    exact hjudge _ husers

/-- **A question for a project** gives the id in the answer, which is not zero. -/
theorem askProject_eq_ok_iff (h : (askProject settings i path).run.Runs caches log r caches') :
    r = .ok id ↔ ProjectTold i path log id := by
  obtain ⟨hjudge, hok⟩ := runs_ask h
  constructor
  · rintro rfl
    obtain ⟨found, hfound⟩ := hok ⟨id, rfl⟩
    have hid := hjudge found hfound
    unfold foundProject at hid
    split at hid
    · exact absurd hid nofun
    · next hne =>
      obtain rfl := Except.ok.inj hid
      exact ⟨hfound, hne⟩
  · rintro ⟨hfound, hne⟩
    exact (hjudge _ hfound).trans (if_neg hne)

/-! ## One user, one project -/

theorem course_of_runs_userId
    (h : (userId settings clock i name).run.Runs caches log r caches') :
    Action.Course .userIds clock.instant (scopedKey i.id name) (askUser settings i name) (⟨·, none⟩)
      caches log r caches' := by
  rw [userId_eq] at h
  exact Action.course_of_runs_lookUp (keepsTo_ask _) h

theorem course_of_runs_projectId (hpath : path ≠ "")
    (h : (projectId settings clock i path).run.Runs caches log r caches') :
    Action.Course .projectIds clock.instant (scopedKey i.id path) (askProject settings i path)
      (.lasting clock.instant · projectLifetime) caches log r caches' := by
  rw [projectId_eq settings clock i hpath] at h
  exact Action.course_of_runs_lookUp (keepsTo_ask _) h

theorem runs_projectId_empty
    (h : (projectId settings clock i "").run.Runs caches log r caches') :
    log = [] ∧ r = .error .missingProjectPath ∧ caches' = caches :=
  Action.runs_throw_iff.mp h

/-- What is sent for a project is sent by the question. -/
theorem asked_of_runs_projectId
    (h : (projectId settings clock i path).run.Runs caches log r caches') (hlog : log ≠ []) :
    path ≠ "" ∧ (∃ before after, (askProject settings i path).run.Runs before log r after) ∧
      caches'.projectIds.entry? (scopedKey i.id path) =
        r.toOption.map (.lasting clock.instant · projectLifetime) := by
  have hpath : path ≠ "" := by
    rintro rfl
    exact hlog (runs_projectId_empty h).1
  exact ⟨hpath, (course_of_runs_projectId hpath h).of_log_ne_nil hlog⟩

theorem stays_of_runs_userId (h : (userId settings clock i name).run.Runs caches log r caches') :
    caches.Stays clock.instant caches' := by
  rw [userId_eq] at h
  exact Action.stays_of_runs_lookUp keepsTo_ask h

theorem stays_of_runs_projectId
    (h : (projectId settings clock i path).run.Runs caches log r caches') :
    caches.Stays clock.instant caches' := by
  by_cases hpath : path = ""
  · subst hpath
    obtain ⟨-, -, rfl⟩ := runs_projectId_empty h
    exact .refl _ _
  · rw [projectId_eq settings clock i hpath] at h
    exact Action.stays_of_runs_lookUp keepsTo_ask h

/-- A look-up of a user asks for this one only. -/
theorem sendsOnly_userId_name :
    (userId settings clock i name).run.SendsOnly
      fun request => getRequest? i "/users" [("username", name)] = some request := by
  rw [userId_eq]
  exact Action.sendsOnly_lookUp (Action.sendsOnly_bind (sendsOnly_get settings i _ _ _)
    fun _ => trivial)

/-- What is in the cache of projects after a look-up has been there, or it is what is told of this
project. -/
theorem entry?_of_runs_projectId {key : String} {e : CacheEntry Nat}
    (h : (projectId settings clock i path).run.Runs caches log r caches')
    (he : caches'.projectIds.entry? key = some e) :
    caches.projectIds.entry? key = some e ∨ path ≠ "" ∧ key = scopedKey i.id path ∧
      ∃ id, ProjectTold i path log id ∧ e = .lasting clock.instant id projectLifetime := by
  by_cases hpath : path = ""
  · subst hpath
    obtain ⟨-, -, rfl⟩ := runs_projectId_empty h
    exact .inl he
  by_cases hkey : key = scopedKey i.id path
  · subst hkey
    obtain hold | ⟨id, before, after, hask, rfl⟩ := (course_of_runs_projectId hpath h).of_entry he
    · exact .inl hold
    · exact .inr ⟨hpath, rfl, id, (askProject_eq_ok_iff hask).mp rfl, rfl⟩
  · have hsame := (keepsTo_projectId rfl).agree_of_runs h ⟨.projectIds, key⟩
      fun hcell => hkey (Cell.mk.inj hcell).2.symm
    exact .inl (hsame.symm.trans he)

/-- No entry of a user expires, and no project has the id zero. -/
structure Sound (caches : Caches) : Prop where
  users : ∀ key e, caches.userIds.entry? key = some e → e.deadline = none
  projects : ∀ key e, caches.projectIds.entry? key = some e → e.value ≠ 0

theorem sound_empty : Sound .empty :=
  ⟨nofun, nofun⟩

theorem Sound.userId (hsound : Sound caches)
    (h : (userId settings clock i name).run.Runs caches log r caches') : Sound caches' where
  users key e he := by
    by_cases hkey : key = scopedKey i.id name
    · subst hkey
      obtain hold | ⟨id, before, after, -, rfl⟩ := (course_of_runs_userId h).of_entry he
      · exact hsound.users _ e hold
      · rfl
    · have hsame := (keepsTo_userId rfl).agree_of_runs h ⟨.userIds, key⟩
        fun hcell => hkey (Cell.mk.inj hcell).2.symm
      exact hsound.users key e (hsame.symm.trans he)
  projects key e he := by
    have hsame := (keepsTo_userId rfl).agree_of_runs h ⟨.projectIds, key⟩ nofun
    exact hsound.projects key e (hsame.symm.trans he)

theorem Sound.projectId (hsound : Sound caches)
    (h : (projectId settings clock i path).run.Runs caches log r caches') : Sound caches' where
  users key e he := by
    have hsame := (keepsTo_projectId rfl).agree_of_runs h ⟨.userIds, key⟩ nofun
    exact hsound.users key e (hsame.symm.trans he)
  projects key e he := by
    obtain hold | ⟨-, -, id, htold, rfl⟩ := entry?_of_runs_projectId h he
    · exact hsound.projects key e hold
    · exact htold.2

end GitLab

end ForgeBoard
