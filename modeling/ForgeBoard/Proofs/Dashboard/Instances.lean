import ForgeBoard.Dashboard.Config
import ForgeBoard.Proofs.Forge.Selection
import ForgeBoard.Proofs.Text.Blank
import Mathlib.Data.List.Nodup

/-!
# The instances of a configuration

A configuration is checked value by value, and each forge of it is turned into an instance of its
own. The only way for that to fail is a blank host, which the checks have ruled out.

* `Config.validate_eq_ok_iff`: a configuration passes the checks iff it is `Valid`.
* `ForgeConfig.described`: the instance of a forge. Its id is made of the forge's `server`, which is
  the kind and the host without the blanks around it, and of nothing else (`id_described_eq_iff`).
* `Config.instances_eq_ok_iff`: a configuration has instances iff no host is blank, and then it has
  those of its forges, in order.

Result: `Config.instances_of_validate`. The checks look at one forge at a time, so they let the same
server pass twice, and then two instances go by one id (`twoTokens_share_id`).
-/

namespace ForgeBoard

open Text

variable {environment : String → Option String}

/-! ## What passes the checks -/

/-- There is a host, and there are not two sources of the token. -/
structure ForgeConfig.Valid (f : ForgeConfig) : Prop where
  host : isBlankText f.host = false
  token : f.token = none ∨ f.tokenVariable = none

/-- The configuration is within all bounds. -/
structure Config.Valid (c : Config) : Prop where
  timeout : c.requestTimeout ≠ 0
  attempts : c.retry.maxAttempts ≠ 0
  delays : c.retry.baseDelay ≤ c.retry.maxDelay
  hasForge : c.forges ≠ []
  forges : ∀ f ∈ c.forges, f.Valid
  hasSection : c.sections ≠ []
  titles : ∀ s ∈ c.sections, isBlankText s.title = false
  limits : ∀ s ∈ c.sections, s.limit ≠ some 0

namespace Config

variable {c : Config}

theorem require_eq_ok_iff {ok : Bool} {field reason : String} {u : Unit} :
    require ok field reason = .ok u ↔ ok = true := by
  cases ok with
  | true => exact ⟨fun _ => rfl, fun _ => rfl⟩
  | false => exact ⟨nofun, nofun⟩

theorem checkForge_eq_ok_iff {f : ForgeConfig} {u : Unit} : checkForge f = .ok u ↔ f.Valid := by
  simp only [checkForge, bind_eq_ok_iff, require_eq_ok_iff, exists_const, Bool.not_eq_true',
    Bool.or_eq_true, Option.isNone_iff_eq_none]
  exact ⟨fun ⟨hhost, htoken⟩ => ⟨hhost, htoken⟩, fun h => ⟨h.host, h.token⟩⟩

theorem checkForges_eq_ok_iff {forges : List ForgeConfig} {u : Unit} :
    checkForges forges = .ok u ↔ ∀ f ∈ forges, f.Valid := by
  induction forges with
  | nil => exact ⟨fun _ => List.forall_mem_nil _, fun _ => rfl⟩
  | cons f rest ih =>
    simp only [checkForges, bind_eq_ok_iff, checkForge_eq_ok_iff, ih, exists_const,
      List.forall_mem_cons]

/-- **A configuration passes the checks iff it is valid.** -/
theorem validate_eq_ok_iff {u : Unit} : c.validate = .ok u ↔ c.Valid := by
  simp only [validate, bind_eq_ok_iff, require_eq_ok_iff, checkForges_eq_ok_iff, exists_const,
    bne_iff_ne, decide_eq_true_eq, Bool.not_eq_true', List.isEmpty_eq_false_iff, List.all_eq_true]
  constructor
  · rintro ⟨htimeout, hattempts, hdelays, hforge, hforges, hsection, htitles, hlimits⟩
    exact ⟨htimeout, hattempts, hdelays, hforge, hforges, hsection, htitles, hlimits⟩
  · rintro ⟨htimeout, hattempts, hdelays, hforge, hforges, hsection, htitles, hlimits⟩
    exact ⟨htimeout, hattempts, hdelays, hforge, hforges, hsection, htitles, hlimits⟩

end Config

/-! ## The instance of a forge -/

theorem Instance.withUser_eq (i : Instance) (user : String) :
    i.withUser user = { i with user := (some user).filter fun user => !isBlankText user } := by
  cases h : isBlankText user <;> simp [withUser, Option.filter, h]

namespace ForgeConfig

variable {f g : ForgeConfig}

/-- The token of the forge: its own, or else the one of its variable. -/
def tokenIn (environment : String → Option String) (f : ForgeConfig) : Option String :=
  f.token.or (f.tokenVariable.bind environment)

/-- The kind and the place of the forge. -/
def server (f : ForgeConfig) : ForgeKind × String :=
  (f.kind, trim f.host)

/-- The instance of the forge: at its server, with its token and with its user unless that is
blank. -/
def described (environment : String → Option String) (f : ForgeConfig) : Instance :=
  { Instance.ofHost f.server.1 f.server.2 with
    user := f.user.filter fun user => !isBlankText user
    token := f.tokenIn environment
    authenticated := (f.tokenIn environment).any fun token => !isBlankText token }

theorem named_described : (f.described environment).Named :=
  rfl

theorem user_described_eq_some_iff {user : String} :
    (f.described environment).user = some user ↔
      f.user = some user ∧ isBlankText user = false := by
  rw [← Bool.not_eq_true']
  exact Option.filter_eq_some_iff

theorem toInstance_eq (environment : String → Option String) (f : ForgeConfig) :
    f.toInstance environment =
      if isBlankText f.host then .error (.forge .emptyHost) else .ok (f.described environment) := by
  unfold toInstance Instance.tryOfHost
  by_cases hblank : trim f.host = ""
  · rw [if_pos (trim_eq_empty_iff.mp hblank)]
    simp only [hblank]
    rfl
  · rw [if_neg (mt trim_eq_empty_iff.mpr hblank)]
    simp only [String.isEmpty_iff, hblank, if_false, described, server, tokenIn]
    cases f.token.or (f.tokenVariable.bind environment) <;> cases f.user with
    | none => rfl
    | some user => exact congrArg Except.ok (Instance.withUser_eq _ user)

theorem toInstance_eq_ok_iff {i : Instance} :
    f.toInstance environment = .ok i ↔
      isBlankText f.host = false ∧ f.described environment = i := by
  rw [toInstance_eq, ite_error_eq_ok_iff, Bool.not_eq_true, Except.ok.injEq]

/-- **The id of an instance tells its server**, and nothing else goes into it. -/
theorem id_described_eq_iff :
    (f.described environment).id = (g.described environment).id ↔ f.server = g.server :=
  Instance.id_ofHost_injective.eq_iff

end ForgeConfig

/-! ## All instances -/

namespace Config

variable {c : Config} {instances : List Instance}

/-- **The instances of a configuration** are those of its forges, in order, and there are none if
a host is blank. -/
theorem instances_eq_ok_iff :
    c.instances environment = .ok instances ↔
      (∀ f ∈ c.forges, isBlankText f.host = false) ∧
        c.forges.map (·.described environment) = instances := by
  unfold Config.instances
  generalize c.forges = forges
  induction forges generalizing instances with
  | nil =>
    exact ⟨fun h => ⟨List.forall_mem_nil _, Except.ok.inj h⟩, fun h => congrArg Except.ok h.2⟩
  | cons f rest ih =>
    simp only [List.mapM_cons, bind_eq_ok_iff, ForgeConfig.toInstance_eq_ok_iff, ih,
      List.forall_mem_cons, List.map_cons]
    constructor
    · rintro ⟨i, ⟨hhost, rfl⟩, others, ⟨hhosts, rfl⟩, h⟩
      exact ⟨⟨hhost, hhosts⟩, Except.ok.inj h⟩
    · rintro ⟨⟨hhost, hhosts⟩, rfl⟩
      exact ⟨_, ⟨hhost, rfl⟩, _, ⟨hhosts, rfl⟩, rfl⟩

theorem Valid.instances_eq (h : c.Valid) (environment : String → Option String) :
    c.instances environment = .ok (c.forges.map (·.described environment)) :=
  instances_eq_ok_iff.mpr ⟨fun f hf => (h.forges f hf).host, rfl⟩

/-- **A configuration that passes the checks has its instances**: one for each forge, in order.
Two of them go by the same id iff they are at the same server, whatever their tokens and users are,
so all ids are different iff no server is configured twice. -/
theorem instances_of_validate (h : c.validate = .ok ()) (environment : String → Option String) :
    c.instances environment = .ok (c.forges.map (·.described environment)) ∧
      (∀ f ∈ c.forges, ∀ g ∈ c.forges,
        (f.described environment).id = (g.described environment).id ↔ f.server = g.server) ∧
      (((c.forges.map (·.described environment)).map (·.id)).Nodup ↔
        (c.forges.map (·.server)).Nodup) := by
  refine ⟨(validate_eq_ok_iff.mp h).instances_eq environment,
    fun f _ g _ => ForgeConfig.id_described_eq_iff, ?_⟩
  have hids : (c.forges.map (·.described environment)).map (·.id) =
      (c.forges.map (·.server)).map fun server => (Instance.ofHost server.1 server.2).id := by
    rw [List.map_map, List.map_map]
    rfl
  rw [hids]
  exact List.nodup_map_iff Instance.id_ofHost_injective

/-- One section, of everything. -/
def allItems : SectionConfig :=
  ⟨"All", .prs, "", none⟩

/-- Two forges of one kind, and one of the other kind at the host of the second. -/
def threeServers : Config where
  requestTimeout := 1000
  retry := .standard
  forges := [⟨.gitlab, "gitlab.com", none, none, none⟩,
    ⟨.gitlab, " code.example.com ", some "s3cret", none, some "bob"⟩,
    ⟨.github, "code.example.com", none, some "TOKEN", none⟩]
  sections := [allItems]

theorem instances_of_validate_threeServers :
    threeServers.validate = .ok () ∧
      ∃ instances, threeServers.instances (fun _ => none) = .ok instances ∧
        (instances.map (·.id)).Nodup := by
  have hvalid : threeServers.validate = .ok () := rfl
  obtain ⟨hinstances, -, hnodup⟩ := instances_of_validate hvalid fun _ => none
  exact ⟨hvalid, _, hinstances, hnodup.mpr (by decide)⟩

/-- One server with two tokens, and blanks around the host of the second. -/
def twoTokens : Config where
  requestTimeout := 1000
  retry := .standard
  forges := [⟨.gitlab, "gitlab.com", some "a", none, none⟩,
    ⟨.gitlab, " gitlab.com ", some "b", none, none⟩]
  sections := [allItems]

theorem twoTokens_share_id :
    twoTokens.validate = .ok () ∧ ∀ environment, ∃ instances,
      twoTokens.instances environment = .ok instances ∧ ¬ (instances.map (·.id)).Nodup := by
  have hvalid : twoTokens.validate = .ok () := rfl
  refine ⟨hvalid, fun environment => ?_⟩
  refine ⟨_, (validate_eq_ok_iff.mp hvalid).instances_eq environment, fun hnodup => ?_⟩
  have hids : (twoTokens.forges.map (·.described environment)).map (·.id) =
      ["gitlab:gitlab.com", "gitlab:gitlab.com"] := rfl
  exact absurd (hids ▸ hnodup) (by decide)

end Config

end ForgeBoard
