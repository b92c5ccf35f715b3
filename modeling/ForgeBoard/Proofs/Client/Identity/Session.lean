import ForgeBoard.Proofs.Client.Identity.Known
import ForgeBoard.Proofs.Filter.Tree
import Mathlib.Data.List.Induction

/-!
# Whom filters are about, over a session

A session is a list of steps on one cache of logins. Each step wants a login, or an expression with
the login in it, and comes with the answer that the forge would give if it were asked.

* `Step.Asks`: the step has to ask the forge.
* `Step.Sound`: what a step does, by the reasons that it has. `Step.sound` says that each step does
  it, whatever the cache holds.
* `Clean`: every login in the cache is a trimmed text that is not empty. A step preserves it
  (`Clean.run`), so it holds all along (`clean_after`).
* `entry?_after_append`: what is in the cache stays there until it expires.

Result: `sound_session`.
-/

namespace ForgeBoard.Identity

open ForgeBoard.Filter Text

/-! ## Steps -/

/-- What a step wants: a login, or an expression with the login in it. -/
inductive Task where
  | resolve
  | expand (e : Expr)

/-- What a step comes to. -/
inductive Outcome where
  | login (login : String)
  | expr (e : Expr)

namespace Task

/-- The task is to find a login, or to put it in place of the current user in some condition on
users. -/
def NeedsLogin : Task → Prop
  | resolve => True
  | expand e => ∃ p ∈ e.predicates, p.key ∈ userFields ∧ ∃ v ∈ p.values, v.isMe = true

/-- What the task comes to with a login. -/
def outcome (login : String) : Task → Outcome
  | resolve => .login login
  | expand e => .expr (e.withUser login)

theorem needsLogin_expand {e : Expr} : (expand e).NeedsLogin ↔ e.needsUser = true := by
  simp only [NeedsLogin, Expr.needsUser, Expr.any_eq_true_iff, Predicate.needsUser,
    Predicate.isOnUsers, Bool.and_eq_true, List.contains_iff_mem, List.any_eq_true]

end Task

/-- One step of a session, and what the forge would answer. -/
structure Step where
  forge : Instance
  instant : Nat
  task : Task
  answer : Except ClientError String

/-- The cache of logins, and how often a forge has been asked. -/
structure Session where
  logins : TtlCache String
  lookups : Nat

/-- The session before its first step. -/
def Session.start : Session :=
  ⟨.empty, 0⟩

/-- Uses the cache of the session. -/
def useLogins {β : Type} (f : TtlCache String → β × TtlCache String) : StateM Session β :=
  modifyGet fun σ => ((f σ.logins).1, { σ with logins := (f σ.logins).2 })

/-- Asks the forge, which gives the answer. -/
def answerWith (answer : Except ClientError String) :
    StateM Session (Except ClientError String) :=
  modifyGet fun σ => (answer, { σ with lookups := σ.lookups + 1 })

namespace Step

def run (s : Step) : StateM Session (Except ClientError Outcome) :=
  match s.task with
  | .resolve =>
    Except.map .login <$> Identity.resolve useLogins (answerWith s.answer) s.forge s.instant
  | .expand e =>
    Except.map .expr <$> Identity.expand useLogins (answerWith s.answer) s.forge s.instant e

/-- The step needs a login, and neither the instance nor the cache knows one. -/
def Asks (s : Step) (logins : TtlCache String) : Prop :=
  s.task.NeedsLogin ∧ Unknown s.forge s.instant logins

end Step

/-- The session after its first steps. -/
def after (steps : List Step) : Session :=
  steps.foldl (fun σ s => (s.run σ).2) .start

/-- Time does not go back from step to step. -/
def InOrder (steps : List Step) : Prop :=
  steps.Pairwise fun s t => s.instant ≤ t.instant

variable {s : Step} {steps : List Step} {σ : Session}

/-! ## What one step does -/

namespace Step

/-- The search for the login that a step needs. -/
def search (s : Step) : StateM Session (Except ClientError String) :=
  Identity.resolve useLogins (answerWith s.answer) s.forge s.instant

theorem run_of_needsLogin (h : s.task.NeedsLogin) (σ : Session) :
    s.run σ = ((s.search σ).1.map (s.task.outcome ·), (s.search σ).2) := by
  obtain ⟨forge, instant, task, answer⟩ := s
  cases task with
  | resolve => rfl
  | expand e =>
    have hneeds := Task.needsLogin_expand.mp h
    simp only [run, Identity.expand, hneeds, if_true]
    change StateT.run _ σ = _
    cases hsearch : (resolve useLogins (answerWith answer) forge instant).run σ with
    | mk found σ' =>
      have hfound : search ⟨forge, instant, .expand e, answer⟩ σ = (found, σ') := hsearch
      rw [StateT.run_map, StateT.run_bind, hsearch, hfound]
      cases found <;> rfl

theorem run_of_not_needsLogin {e : Expr} (htask : s.task = .expand e)
    (h : ¬ s.task.NeedsLogin) (σ : Session) : s.run σ = (.ok (.expr e), σ) := by
  rw [htask, Task.needsLogin_expand, Bool.not_eq_true] at h
  simp only [run, htask, Identity.expand, h, Bool.false_eq_true, if_false]
  rfl

/-- The search ends with the login that is known, or the forge is asked and the cache learns. -/
theorem search_eq (s : Step) (σ : Session) :
    s.search σ =
      match known s.forge s.instant σ.logins with
      | (some login, logins) => (.ok login, { σ with logins })
      | (none, logins) =>
        ((learn s.forge s.instant s.answer logins).1,
          ⟨(learn s.forge s.instant s.answer logins).2, σ.lookups + 1⟩) := by
  change (Identity.resolve useLogins (answerWith s.answer) s.forge s.instant).run σ = _
  cases hknown : known s.forge s.instant σ.logins with
  | mk login logins =>
    have huse : (useLogins (known s.forge s.instant)).run σ = (login, { σ with logins }) := by
      rw [useLogins, StateT.run_modifyGet, hknown]
      rfl
    rw [Identity.resolve, StateT.run_bind, huse]
    cases login <;> rfl

theorem search_of_known {login : String}
    (h : known s.forge s.instant σ.logins = (some login, σ.logins)) :
    s.search σ = (.ok login, σ) := by
  rw [search_eq, h]

/-- What comes of a step that asks the forge: the cache learns the answer, after it has forgotten
what had expired. -/
theorem run_of_asks (h : s.Asks σ.logins) :
    ∃ logins : TtlCache String, logins.entry? s.forge.id = none ∧
      (∀ key, key ≠ s.forge.id → logins.entry? key = σ.logins.entry? key) ∧
      s.run σ =
        ((learn s.forge s.instant s.answer logins).1.map (s.task.outcome ·),
          ⟨(learn s.forge s.instant s.answer logins).2, σ.lookups + 1⟩) := by
  obtain ⟨logins, hknown, hnone, hothers⟩ := known_of_unknown h.2
  refine ⟨logins, hnone, hothers, ?_⟩
  rw [run_of_needsLogin h.1, search_eq, hknown]

/-- What a step does to a session. A step that asks the forge either fails and leaves nothing under
the id of its instance, or leaves the login there. A step that does not ask changes nothing. -/
structure Sound (s : Step) (σ : Session) : Prop where
  /-- The expression of a step that needs no login is left alone. -/
  idle : ∀ e, s.task = .expand e → ¬ s.task.NeedsLogin → s.run σ = (.ok (.expr e), σ)
  /-- The user of the instance comes first. -/
  pinned : ∀ user, s.task.NeedsLogin → s.forge.user = some user →
    s.run σ = (.ok (s.task.outcome user), σ)
  /-- Then comes the cache. -/
  cached : ∀ e, s.task.NeedsLogin → s.forge.user = none →
    σ.logins.entry? s.forge.id = some e → e.isExpired s.instant = false →
    s.run σ = (.ok (s.task.outcome e.value), σ)
  unasked : ¬ s.Asks σ.logins → (s.run σ).2 = σ
  asked : s.Asks σ.logins → (s.run σ).2.lookups = σ.lookups + 1
  /-- No step touches what other instances have. -/
  others : ∀ key, key ≠ s.forge.id → TtlCache.entry? (s.run σ).2.logins key = σ.logins.entry? key
  failed : ∀ err, s.Asks σ.logins → s.answer = .error err →
    (s.run σ).1 = .error (.currentUser s.forge.id err.message) ∧
      TtlCache.entry? (s.run σ).2.logins s.forge.id = none
  blank : ∀ login, s.Asks σ.logins → s.answer = .ok login → trim login = "" →
    (s.run σ).1 = .error (.currentUser s.forge.id "empty username") ∧
      TtlCache.entry? (s.run σ).2.logins s.forge.id = none
  learned : ∀ login, s.Asks σ.logins → s.answer = .ok login → trim login ≠ "" →
    (s.run σ).1 = .ok (s.task.outcome (trim login)) ∧
      TtlCache.entry? (s.run σ).2.logins s.forge.id =
        some (.lasting s.instant (trim login) lifetime)

theorem run_of_not_asks (h : ¬ s.Asks σ.logins) : (s.run σ).2 = σ := by
  by_cases hneeds : s.task.NeedsLogin
  · obtain ⟨login, hknown⟩ := exists_known fun hunknown => h ⟨hneeds, hunknown⟩
    rw [run_of_needsLogin hneeds, search_of_known hknown]
  · cases htask : s.task with
    | resolve => exact absurd (htask ▸ trivial) hneeds
    | expand e => rw [run_of_not_needsLogin htask hneeds]

/-- **What a step does**, whatever the session has been. -/
theorem sound (s : Step) (σ : Session) : s.Sound σ where
  idle e htask h := run_of_not_needsLogin htask h σ
  pinned user hneeds huser := by
    rw [run_of_needsLogin hneeds, search_of_known (known_of_user huser)]
    rfl
  cached e hneeds huser hentry he := by
    rw [run_of_needsLogin hneeds, search_of_known (known_of_entry huser hentry he)]
    rfl
  unasked := run_of_not_asks
  asked h := by
    obtain ⟨logins, -, -, hrun⟩ := run_of_asks h
    rw [hrun]
  others key hkey := by
    by_cases h : s.Asks σ.logins
    · obtain ⟨logins, -, hothers, hrun⟩ := run_of_asks h
      rw [hrun]
      exact (entry?_learn_of_ne hkey _).trans (hothers key hkey)
    · rw [run_of_not_asks h]
  failed err h hanswer := by
    obtain ⟨logins, hnone, -, hrun⟩ := run_of_asks h
    rw [hrun, hanswer]
    exact ⟨rfl, hnone⟩
  blank login h hanswer hblank := by
    obtain ⟨logins, hnone, -, hrun⟩ := run_of_asks h
    rw [hrun, hanswer, learn_of_blank hblank]
    exact ⟨rfl, hnone⟩
  learned login h hanswer hblank := by
    obtain ⟨logins, -, -, hrun⟩ := run_of_asks h
    rw [hrun, hanswer, learn_of_not_blank hblank]
    exact ⟨rfl, (TtlCache.entry?_set _ _ _ _ _ _).trans (if_pos rfl)⟩

end Step

/-! ## What a session keeps -/

/-- Every login in the cache is a trimmed text that is not empty. -/
def Clean (logins : TtlCache String) : Prop :=
  ∀ key e, logins.entry? key = some e → e.value ≠ "" ∧ trim e.value = e.value

theorem clean_empty : Clean .empty :=
  nofun

/-- **A step keeps the cache clean**: what it stores is trimmed and not blank. -/
theorem Clean.run (h : Clean σ.logins) (s : Step) : Clean (s.run σ).2.logins := by
  intro key e hentry
  have hs := s.sound σ
  by_cases hasks : s.Asks σ.logins
  · by_cases hkey : key = s.forge.id
    · subst hkey
      cases hanswer : s.answer with
      | error err => exact absurd ((hs.failed err hasks hanswer).2.symm.trans hentry) nofun
      | ok login =>
        by_cases hblank : trim login = ""
        · exact absurd ((hs.blank login hasks hanswer hblank).2.symm.trans hentry) nofun
        · have hstored := (hs.learned login hasks hanswer hblank).2
          obtain rfl := Option.some.inj (hstored.symm.trans hentry)
          exact ⟨hblank, trim_trim login⟩
    · exact h key e ((hs.others key hkey).symm.trans hentry)
  · rw [hs.unasked hasks] at hentry
    exact h key e hentry

/-- **A step leaves what has not expired.** -/
theorem Step.entry?_run {key : String} {e : CacheEntry String}
    (hentry : σ.logins.entry? key = some e) (he : e.isExpired s.instant = false) :
    TtlCache.entry? (s.run σ).2.logins key = some e := by
  have hs := s.sound σ
  by_cases hasks : s.Asks σ.logins
  · have hkey : key ≠ s.forge.id := by
      rintro rfl
      exact absurd ((hasks.2.2 e hentry).symm.trans he) nofun
    exact (hs.others key hkey).trans hentry
  · rw [hs.unasked hasks]
    exact hentry

theorem after_concat (steps : List Step) (s : Step) :
    after (steps ++ [s]) = (s.run (after steps)).2 :=
  List.foldl_concat _ _ _ _

theorem clean_after (steps : List Step) : Clean (after steps).logins := by
  induction steps using List.reverseRecOn with
  | nil => exact clean_empty
  | append_singleton steps s ih =>
    rw [after_concat]
    exact ih.run s

/-- What is in the cache stays there as long as it has not expired, by induction on the steps in
between. -/
theorem entry?_after_append {before between : List Step} {key : String} {e : CacheEntry String}
    (hentry : TtlCache.entry? (after before).logins key = some e)
    (he : ∀ s ∈ between, e.isExpired s.instant = false) :
    TtlCache.entry? (after (before ++ between)).logins key = some e := by
  induction between using List.reverseRecOn with
  | nil => rwa [List.append_nil]
  | append_singleton between s ih =>
    obtain ⟨hbetween, hs⟩ := List.forall_mem_append.mp he
    rw [← List.append_assoc, after_concat]
    exact Step.entry?_run (ih hbetween) (hs s List.mem_cons_self)

/-- **Logins over a session** whose steps come in the order of their instants. Every step does what
`Step.Sound` says: it asks the forge iff it needs a login that neither its instance nor the cache
knows, and then stores what it learns under the id of its instance, or fails and stores nothing. A
login that was learned is the login of every later step for that id that needs one, as long as it
lasts, and none of these asks. All logins in the cache are trimmed, and none is empty. -/
theorem sound_session {before rest : List Step} {s : Step}
    (horder : InOrder (before ++ s :: rest)) :
    s.Sound (after before) ∧
    (∀ login between t later, s.Asks (after before).logins → s.answer = .ok login →
      trim login ≠ "" → rest = between ++ t :: later →
      t.task.NeedsLogin → t.forge.id = s.forge.id → t.forge.user = none →
      t.instant ≤ s.instant + lifetime →
        t.run (after (before ++ s :: between)) =
          (.ok (t.task.outcome (trim login)), after (before ++ s :: between))) ∧
    Clean (after (before ++ s :: rest)).logins := by
  refine ⟨s.sound _, ?_, clean_after _⟩
  rintro login between t later hasks hanswer hblank rfl hneeds hid huser hinstant
  have hstored := (s.sound (after before)).learned login hasks hanswer hblank
  rw [← after_concat] at hstored
  have hsorted : (between ++ t :: later).Pairwise fun u v => u.instant ≤ v.instant :=
    (List.pairwise_cons.mp (List.pairwise_append.mp horder).2.1).2
  have hbetween : ∀ u ∈ between, u.instant ≤ t.instant := fun u hu =>
    (List.pairwise_append.mp hsorted).2.2 u hu t List.mem_cons_self
  have hentry := entry?_after_append hstored.2 fun u (hu : u ∈ between) =>
    CacheEntry.isExpired_lasting (Nat.le_trans (hbetween u hu) hinstant)
  rw [List.append_assoc, List.singleton_append, ← hid] at hentry
  exact (t.sound _).cached _ hneeds huser hentry (CacheEntry.isExpired_lasting hinstant)

/-- A filter on the current user. -/
def assignedToMe : Expr :=
  .predicate (.compare "assignee" .eq (.text "@me"))

/-- A blank answer, and then a login with blanks around it. -/
def blankStep : Step :=
  ⟨.ofHost .gitlab "gitlab.com", 0, .resolve, .ok "  "⟩

def carolStep : Step :=
  ⟨.ofHost .gitlab "gitlab.com", 1, .resolve, .ok " carol "⟩

/-- The last step that can do with the login of `carolStep`. -/
def lastStep : Step :=
  ⟨.ofHost .gitlab "gitlab.com", 1 + lifetime, .expand assignedToMe, .error .missingProjectPath⟩

theorem sound_session_carol :
    InOrder [blankStep, carolStep, lastStep] ∧ carolStep.Asks (after [blankStep]).logins ∧
      (lastStep.run (after [blankStep, carolStep])).1 =
        .ok (.expr (.predicate (.compare "assignee" .eq (.text "carol")))) := by
  have horder : InOrder ([blankStep] ++ carolStep :: [lastStep]) := by
    simp [InOrder, blankStep, carolStep, lastStep]
  have hasks : carolStep.Asks (after [blankStep]).logins := by
    have hnone : TtlCache.entry? (after [blankStep]).logins carolStep.forge.id = none := by
      decide +kernel
    exact ⟨trivial, rfl, fun e he => absurd (hnone.symm.trans he) nofun⟩
  have hneeds : lastStep.task.NeedsLogin := Task.needsLogin_expand.mpr (by decide +kernel)
  have hrun := (sound_session horder).2.1 " carol " [] lastStep [] hasks rfl (by decide +kernel) rfl
    hneeds rfl rfl (Nat.le_refl _)
  exact ⟨horder, hasks, (congrArg Prod.fst hrun).trans rfl⟩

end ForgeBoard.Identity
