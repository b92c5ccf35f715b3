import ForgeBoard.Client.Shared
import ForgeBoard.Proofs.Client.TtlCache.Entries
import ForgeBoard.Proofs.Text.Blank

/-!
# What is known of a login, and what is learned

A login is `Unknown` when neither the instance nor the cache has it. Then the look-up has removed
what had expired (`known_of_unknown`), and the answer of the forge is learned. Otherwise the login
is there and the cache stays as it is (`exists_known`).
-/

namespace ForgeBoard.Identity

open Text

/-- Neither the instance nor the cache knows the login. -/
def Unknown (i : Instance) (instant : Nat) (logins : TtlCache String) : Prop :=
  i.user = none ∧ ∀ e, logins.entry? i.id = some e → e.isExpired instant = true

variable {i : Instance} {instant : Nat} {logins : TtlCache String}

/-! ## Before the forge is asked -/

theorem known_of_user {user : String} (h : i.user = some user) :
    known i instant logins = (some user, logins) := by
  rw [known, h]

theorem known_of_entry {e : CacheEntry String} (huser : i.user = none)
    (hentry : logins.entry? i.id = some e) (he : e.isExpired instant = false) :
    known i instant logins = (some e.value, logins) := by
  have hfound : (logins.get instant i.id).1 = some e.value :=
    TtlCache.get_eq_some_iff.mpr ⟨e, hentry, he, rfl⟩
  rw [known, huser]
  exact Prod.ext hfound (TtlCache.get_snd_of_some hfound)

/-- The look-up of an unknown login leaves nothing under its id, and all else as it was. -/
theorem known_of_unknown (h : Unknown i instant logins) :
    ∃ rest : TtlCache String, known i instant logins = (none, rest) ∧
      rest.entry? i.id = none ∧
      ∀ key, key ≠ i.id → rest.entry? key = logins.entry? key := by
  obtain ⟨huser, hexpired⟩ := h
  refine ⟨(logins.get instant i.id).2, ?_, ?_, fun key hkey => ?_⟩
  · rw [known, huser]
    exact Prod.ext (TtlCache.get_eq_none_iff.mpr hexpired) rfl
  · refine Option.eq_none_iff_forall_ne_some.mpr fun e he => ?_
    obtain ⟨hentry, he⟩ := TtlCache.entry?_get.mp he
    exact absurd ((hexpired e hentry).symm.trans (he rfl)) nofun
  · refine Option.ext fun e => ?_
    exact TtlCache.entry?_get.trans (and_iff_left fun heq => absurd heq hkey)

theorem exists_entry_of_not_unknown (huser : i.user = none) (h : ¬ Unknown i instant logins) :
    ∃ e, logins.entry? i.id = some e ∧ e.isExpired instant = false := by
  by_contra hnot
  refine h ⟨huser, fun e he => ?_⟩
  exact Bool.of_not_eq_false fun hfalse => hnot ⟨e, he, hfalse⟩

theorem exists_known (h : ¬ Unknown i instant logins) :
    ∃ login, known i instant logins = (some login, logins) := by
  cases huser : i.user with
  | some user => exact ⟨user, known_of_user huser⟩
  | none =>
    obtain ⟨e, hentry, he⟩ := exists_entry_of_not_unknown huser h
    exact ⟨e.value, known_of_entry huser hentry he⟩

/-! ## After the forge has answered -/

variable {login : String}

theorem learn_of_blank (h : trim login = "") :
    learn i instant (.ok login) logins =
      (.error (.currentUser i.id "empty username"), logins) := by
  simp [learn, h]

theorem learn_of_not_blank (h : trim login ≠ "") :
    learn i instant (.ok login) logins =
      (.ok (trim login), logins.set instant i.id (trim login) lifetime) := by
  simp [learn, h]

theorem entry?_learn_of_ne {key : String} (h : key ≠ i.id) (answer : Except ClientError String) :
    TtlCache.entry? (learn i instant answer logins).2 key = logins.entry? key := by
  cases answer with
  | error e => rfl
  | ok login =>
    by_cases hblank : trim login = ""
    · rw [learn_of_blank hblank]
    · rw [learn_of_not_blank hblank, TtlCache.entry?_set, if_neg h]

/-- No other errors come of it. -/
theorem learn_eq_error {answer : Except ClientError String} {err : ClientError}
    (h : (learn i instant answer logins).1 = .error err) :
    ∃ reason, err = .currentUser i.id reason := by
  cases answer with
  | error e => exact ⟨e.message, (Except.error.inj h).symm⟩
  | ok login =>
    by_cases hblank : trim login = ""
    · rw [learn_of_blank hblank] at h
      exact ⟨_, (Except.error.inj h).symm⟩
    · rw [learn_of_not_blank hblank] at h
      exact absurd h nofun

end ForgeBoard.Identity
