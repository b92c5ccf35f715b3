import ForgeBoard.Proofs.Client.Identity.Session
import ForgeBoard.Proofs.Dashboard.Instances

/-!
# Logins that can be used

A login is of use if it is a text with no blanks at either end (`Tight`). The three places that a
login comes from take care of that in three ways: what a forge answers is trimmed, the cache holds
trimmed texts only (`clean_after`), and the user that a configuration names is left as it is, unless
it is blank.

* `Step.login_cases`: the login of a step is the user of its instance, or it is tight.
* `resolves_iff`: an instance `Resolves` to its user and to nothing else, or, if it has none, to the
  tight texts and to nothing else.

Result: `resolves_of_validate`.
-/

namespace ForgeBoard.Identity

open Text

/-- The login may come of a step that resolves the user of the instance: it does after some session
and with some answer of the forge. -/
def Resolves (i : Instance) (login : String) : Prop :=
  ∃ before instant answer,
    ((⟨i, instant, .resolve, answer⟩ : Step).run (after before)).1 = .ok (.login login)

variable {i : Instance} {s : Step} {σ : Session} {login : String}

theorem Clean.tight {logins : TtlCache String} {key : String} {e : CacheEntry String}
    (h : Clean logins) (hentry : logins.entry? key = some e) : Tight e.value := by
  obtain ⟨hne, htrim⟩ := h key e hentry
  rw [← htrim] at hne ⊢
  exact tight_trim hne

/-- **The login of a step** on a clean cache is the user of the instance as it is, or a tight text
if there is none. -/
theorem Step.login_cases (hclean : Clean σ.logins) (htask : s.task = .resolve)
    (h : (s.run σ).1 = .ok (.login login)) :
    s.forge.user = some login ∨ s.forge.user = none ∧ Tight login := by
  have hs := s.sound σ
  have hneeds : s.task.NeedsLogin := htask ▸ trivial
  have hlogin {found : String} (hfound : (s.run σ).1 = .ok (s.task.outcome found)) :
      found = login := by
    rw [htask, h] at hfound
    exact (Outcome.login.inj (Except.ok.inj hfound)).symm
  cases huser : s.forge.user with
  | some user =>
    obtain rfl := hlogin (congrArg Prod.fst (hs.pinned user hneeds huser))
    exact .inl rfl
  | none =>
    refine .inr ⟨rfl, ?_⟩
    by_cases hunknown : Unknown s.forge s.instant σ.logins
    · cases hanswer : s.answer with
      | error err =>
        have hfailed := (hs.failed err ⟨hneeds, hunknown⟩ hanswer).1
        exact absurd (h.symm.trans hfailed) nofun
      | ok text =>
        by_cases hblank : trim text = ""
        · have hfailed := (hs.blank text ⟨hneeds, hunknown⟩ hanswer hblank).1
          exact absurd (h.symm.trans hfailed) nofun
        · obtain rfl := hlogin (hs.learned text ⟨hneeds, hunknown⟩ hanswer hblank).1
          exact tight_trim hblank
    · obtain ⟨e, hentry, he⟩ := exists_entry_of_not_unknown huser hunknown
      obtain rfl := hlogin (congrArg Prod.fst (hs.cached e hneeds huser hentry he))
      exact hclean.tight hentry

/-- **The logins of an instance** are its user, or all tight texts if it has none. -/
theorem resolves_iff :
    Resolves i login ↔ i.user = some login ∨ i.user = none ∧ Tight login := by
  constructor
  · rintro ⟨before, instant, answer, h⟩
    exact Step.login_cases (clean_after before) rfl h
  · rintro (huser | ⟨huser, htight⟩)
    · have hs := Step.sound ⟨i, 0, .resolve, .ok login⟩ (after [])
      exact ⟨[], 0, .ok login, congrArg Prod.fst (hs.pinned login trivial huser)⟩
    · have hs := Step.sound ⟨i, 0, .resolve, .ok login⟩ (after [])
      have htrim : trim login = login := trim_of_tight htight
      have hasks : Step.Asks ⟨i, 0, .resolve, .ok login⟩ (after []).logins :=
        ⟨trivial, huser, nofun⟩
      have hlearned := (hs.learned login hasks rfl (htrim.trans_ne htight.ne_empty)).1
      rw [htrim] at hlearned
      exact ⟨[], 0, .ok login, hlearned⟩

/-- **The logins of a configuration** that passes the checks. None is blank, and each is tight or
the user that the configuration names. So all of them are tight iff no forge has a user with blanks
at an end. -/
theorem resolves_of_validate {c : Config} (h : c.validate = .ok ())
    (environment : String → Option String) :
    ∃ instances, c.instances environment = .ok instances ∧
      (∀ i ∈ instances, ∀ login, Resolves i login →
        isBlankText login = false ∧ (Tight login ∨ i.user = some login)) ∧
      ((∀ i ∈ instances, ∀ login, Resolves i login → Tight login) ↔
        ∀ f ∈ c.forges, ∀ user, f.user = some user → isBlankText user = false → Tight user) := by
  refine ⟨_, (Config.validate_eq_ok_iff.mp h).instances_eq environment, ?_, ?_⟩
  · refine List.forall_mem_map.mpr fun f _ login hlogin => ?_
    rcases resolves_iff.mp hlogin with huser | ⟨-, htight⟩
    · exact ⟨(ForgeConfig.user_described_eq_some_iff.mp huser).2, .inr huser⟩
    · exact ⟨htight.isBlankText_eq_false, .inl htight⟩
  · rw [List.forall_mem_map]
    refine forall₂_congr fun f _ => ⟨fun hall user huser hblank => ?_, fun hall login hlogin => ?_⟩
    · have hpinned : (f.described environment).user = some user :=
        ForgeConfig.user_described_eq_some_iff.mpr ⟨huser, hblank⟩
      exact hall user (resolves_iff.mpr (.inl hpinned))
    · rcases resolves_iff.mp hlogin with huser | ⟨-, htight⟩
      · obtain ⟨huser, hblank⟩ := ForgeConfig.user_described_eq_some_iff.mp huser
        exact hall login huser hblank
      · exact htight

/-- The users of `Config.threeServers` are tight, so all logins of its instances are. -/
theorem resolves_of_validate_threeServers :
    Config.threeServers.validate = .ok () ∧
      ∃ instances, Config.threeServers.instances (fun _ => none) = .ok instances ∧
        ∀ i ∈ instances, ∀ login, Resolves i login → Tight login := by
  have hvalid : Config.threeServers.validate = .ok () := rfl
  obtain ⟨instances, hinstances, -, htight⟩ := resolves_of_validate hvalid fun _ => none
  have husers : ∀ f ∈ Config.threeServers.forges, f.user = none ∨ f.user = some "bob" := by
    decide
  refine ⟨hvalid, instances, hinstances, htight.mpr ?_⟩
  rintro f hf user huser -
  rcases husers f hf with hnone | hbob
  · exact absurd (hnone.symm.trans huser) nofun
  · obtain rfl := Option.some.inj (hbob.symm.trans huser)
    exact tight_of_no_blank (by decide) (by simp [isBlank])

/-- A configuration that names a user with blanks around the login. -/
def spacedUser : Config where
  requestTimeout := 1000
  retry := .standard
  forges := [⟨.gitlab, "gitlab.com", none, none, some " bob "⟩]
  sections := [Config.allItems]

/-- The blanks pass the checks, and they are in the login. -/
theorem spacedUser_resolves :
    spacedUser.validate = .ok () ∧ ∀ environment, ∃ i,
      spacedUser.instances environment = .ok [i] ∧ Resolves i " bob " ∧ ¬ Tight " bob " := by
  have hvalid : spacedUser.validate = .ok () := rfl
  refine ⟨hvalid, fun environment => ?_⟩
  refine ⟨_, (Config.validate_eq_ok_iff.mp hvalid).instances_eq environment, ?_, ?_⟩
  · exact resolves_iff.mpr (.inl rfl)
  · exact fun htight => absurd (htight.head ' ' rfl) (by decide)

end ForgeBoard.Identity
