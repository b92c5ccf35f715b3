import ForgeBoard.Proofs.Client.LookUps.Course

/-!
# Looking up names one after the other

A call for users looks up one name after the other, and ends with the first look-up that fails.

* `namesOf`: the names that are looked up, the first of each in the order of the call
  (`distinctNames_eq`).
* `Cached`: the id of a user is in the caches for good. It is so for ids that are given
  (`cached_of_runs_lookUpAll`) and for ids that are told (`cached_of_told`).
* `Requested`: a user is asked for. These are among the names of the call (`mem_of_requested`), and
  not in the caches (`not_requested_of_cached`).
* `lookUpAll_induction`: what holds of each look-up holds of the call.
* `failed_of_runs_lookUpAll`: where a call ends that fails.
-/

namespace ForgeBoard

open Http Query Text Program

variable {caches caches' caches'' : Caches} {log : List Exchange} {instant : Nat}

namespace GitLab

open Json

variable {settings : ClientSettings} {clock : Clock} {i : Instance} {name path : String} {id : Nat}
  {r : Except ClientError Nat}

/-! ## Names -/

/-- The texts without the blanks around them that are not blank, the first of all that are the same
in another case. -/
def namesOf (usernames : List String) : List String :=
  ((usernames.map trim).filter (· ≠ "")).eraseDupsBy fun a b => lower a == lower b

theorem distinctNames_eq_filter (seen usernames : List String) :
    distinctNames seen usernames =
      (((usernames.map trim).filter (· ≠ "")).filter (lower · ∉ seen)).eraseDupsBy
        fun a b => lower a == lower b := by
  induction usernames generalizing seen with
  | nil => rfl
  | cons username rest ih =>
    unfold distinctNames
    rw [List.map_cons]
    by_cases hblank : trim username = ""
    · rw [List.filter_cons_of_neg (by simpa using hblank), if_pos (by simp [hblank]), ih]
    rw [List.filter_cons_of_pos (by simpa using hblank)]
    by_cases hseen : lower (trim username) ∈ seen
    · rw [List.filter_cons_of_neg (by simpa using hseen), if_pos (by simp [hseen]), ih]
    · rw [List.filter_cons_of_pos (by simpa using hseen), if_neg (by simp [hblank, hseen]), ih,
        List.eraseDupsBy_cons]
      refine congrArg (fun names => trim username :: List.eraseDupsBy _ names) ?_
      simp only [List.filter_filter]
      refine List.filter_congr fun b _ => ?_
      simp [Bool.and_assoc]

/-- **The names that are looked up.** -/
theorem distinctNames_eq (usernames : List String) :
    distinctNames [] usernames = namesOf usernames := by
  rw [distinctNames_eq_filter, namesOf]
  simp

/-! ## In the caches -/

/-- The id of a user is in the caches for good. -/
def Cached (caches : Caches) (i : Instance) (name : String) (id : Nat) : Prop :=
  caches.userIds.entry? (scopedKey i.id name) = some ⟨id, none⟩

theorem Cached.stays (h : Cached caches i name id) (hstays : caches.Stays instant caches') :
    Cached caches' i name id :=
  hstays .userIds _ _ h rfl

theorem Cached.unique {id' : Nat} (h : Cached caches i name id) (h' : Cached caches i name id') :
    id = id' :=
  (CacheEntry.mk.inj (Option.some.inj (h.symm.trans h'))).1

theorem Cached.congr {other : String} (h : Cached caches i name id)
    (hlower : lower other = lower name) : Cached caches i other id := by
  rwa [Cached, scopedKey, hlower]

/-- What is given for a name is in the caches from then on. -/
theorem cached_of_runs_userId (hsound : Sound caches)
    (h : (userId settings clock i name).run.Runs caches log (.ok id) caches') :
    Cached caches' i name id := by
  obtain ⟨⟨value, deadline⟩, hentry, -, rfl, -, rfl⟩ | ⟨-, hentry⟩ :=
    (course_of_runs_userId h).of_ok
  · obtain rfl : deadline = none := hsound.users _ _ hentry
    exact hentry
  · exact hentry

/-- A request for a user has been sent. -/
def Requested (i : Instance) (name : String) (log : List Exchange) : Prop :=
  ∃ x ∈ log, getRequest? i "/users" [("username", name)] = some x.1

theorem not_requested_nil : ¬ Requested i name [] :=
  fun ⟨_, hmem, _⟩ => absurd hmem List.not_mem_nil

theorem Requested.of_append {later : List Exchange} (h : Requested i name (log ++ later)) :
    Requested i name log ∨ Requested i name later := by
  obtain ⟨x, hmem, hx⟩ := h
  obtain hmem | hmem := List.mem_append.mp hmem
  · exact .inl ⟨x, hmem, hx⟩
  · exact .inr ⟨x, hmem, hx⟩

/-- A look-up asks for its own name only. -/
theorem eq_of_requested_userId {other : String}
    (h : (userId settings clock i name).run.Runs caches log r caches')
    (hrequested : Requested i other log) : other = name := by
  obtain ⟨x, hmem, hx⟩ := hrequested
  exact userRequest?_inj hx (sendsOnly_userId_name.of_runs h x hmem)

/-- A look-up does not ask for a name that is in the caches. -/
theorem not_requested_userId {other : String} (hcached : Cached caches i other id)
    (h : (userId settings clock i name).run.Runs caches log r caches') :
    ¬ Requested i other log := by
  intro hrequested
  obtain rfl := eq_of_requested_userId h hrequested
  obtain ⟨rfl, -, -⟩ := (course_of_runs_userId h).of_counts hcached rfl
  exact not_requested_nil hrequested

/-- What is told in a look-up is in the caches from then on. -/
theorem cached_of_told_userId {other : String}
    (h : (userId settings clock i name).run.Runs caches log r caches')
    (htold : UserTold i other log id) : Cached caches' i other id := by
  obtain ⟨others, request, response, hrequest, hmem, hsaid⟩ := htold
  obtain rfl := eq_of_requested_userId h ⟨_, hmem, hrequest⟩
  obtain ⟨⟨before, after, hask⟩, hentry⟩ :=
    (course_of_runs_userId h).of_log_ne_nil (List.ne_nil_of_mem hmem)
  obtain rfl := (askUser_eq_ok_iff hask).mpr ⟨others, request, response, hrequest, hmem, hsaid⟩
  exact hentry

/-! ## One after the other -/

variable {names : List String} {ids : List Nat} {rs : Except ClientError (List Nat)}

/-- The first name is looked up, and the others if that succeeds. -/
theorem runs_lookUpAll_cons {rest : List String}
    (h : (lookUpAll settings clock i (name :: rest)).run.Runs caches log rs caches') :
    (∃ e, (userId settings clock i name).run.Runs caches log (.error e) caches' ∧ rs = .error e) ∨
      ∃ id between first second others,
        (userId settings clock i name).run.Runs caches first (.ok id) between ∧
          (lookUpAll settings clock i rest).run.Runs between second others caches' ∧
            rs = others.map (id :: ·) ∧ log = first ++ second := by
  obtain ⟨e, hfirst, rfl⟩ | ⟨id, between, first, second, hfirst, hrest, rfl⟩ :=
    Action.runs_bind_iff.mp h
  · exact .inl ⟨e, hfirst, rfl⟩
  obtain ⟨e, hothers, rfl⟩ | ⟨ids, after, lookups, last, hothers, hlast, rfl⟩ :=
    Action.runs_bind_iff.mp hrest
  · exact .inr ⟨id, between, first, second, .error e, hfirst, hothers, rfl, rfl⟩
  · obtain ⟨rfl, rfl, rfl⟩ := Action.runs_pure_iff.mp hlast
    rw [List.append_nil]
    exact .inr ⟨id, between, first, lookups, .ok ids, hfirst, hothers, rfl, rfl⟩

/-- **What holds of each look-up holds of the call**, if it holds of nothing and of two look-ups one
after the other. -/
theorem lookUpAll_induction {R : Caches → List Exchange → Caches → Prop} (hnil : ∀ c, R c [] c)
    (happend : ∀ {c c' c'' first second}, R c first c' → R c' second c'' →
      R c (first ++ second) c'')
    (huserId : ∀ {name c c' r exchanges}, name ∈ names →
      (userId settings clock i name).run.Runs c exchanges r c' → R c exchanges c')
    (h : (lookUpAll settings clock i names).run.Runs caches log rs caches') :
    R caches log caches' := by
  induction names generalizing caches log rs with
  | nil =>
    obtain ⟨rfl, -, rfl⟩ := Action.runs_pure_iff.mp h
    exact hnil _
  | cons name rest ih =>
    obtain ⟨e, hfirst, -⟩ | ⟨id, between, first, second, others, hfirst, hrest, -, rfl⟩ :=
      runs_lookUpAll_cons h
    · exact huserId List.mem_cons_self hfirst
    · exact happend (huserId List.mem_cons_self hfirst)
        (ih (fun hname => huserId (List.mem_cons_of_mem _ hname)) hrest)

theorem keepsTo_lookUpAll {region : Set Cell}
    (h : ∀ name ∈ names, ⟨.userIds, scopedKey i.id name⟩ ∈ region) :
    (lookUpAll settings clock i names).run.KeepsTo region := by
  induction names with
  | nil => trivial
  | cons name rest ih =>
    obtain ⟨hname, hrest⟩ := List.forall_mem_cons.mp h
    exact Action.keepsTo_bind (keepsTo_userId hname) fun _ _ =>
      Action.keepsTo_bind (ih hrest) fun _ _ => trivial

theorem stays_of_runs_lookUpAll
    (h : (lookUpAll settings clock i names).run.Runs caches log rs caches') :
    caches.Stays clock.instant caches' := by
  refine lookUpAll_induction (R := fun c _ c' => c.Stays clock.instant c') ?_ ?_ ?_ h
  · exact fun c => .refl _ c
  · exact fun hfirst hsecond => hfirst.trans hsecond
  · exact fun _ huserId => stays_of_runs_userId huserId

theorem Sound.lookUpAll (hsound : Sound caches)
    (h : (lookUpAll settings clock i names).run.Runs caches log rs caches') : Sound caches' := by
  refine lookUpAll_induction (R := fun c _ c' => Sound c → Sound c') ?_ ?_ ?_ h hsound
  · exact fun _ hsound => hsound
  · exact fun hfirst hsecond hsound => hsecond (hfirst hsound)
  · exact fun _ huserId hsound => hsound.userId huserId

/-- **What is given for names** is in the caches from then on. -/
theorem cached_of_runs_lookUpAll (hsound : Sound caches)
    (h : (lookUpAll settings clock i names).run.Runs caches log (.ok ids) caches') :
    List.Forall₂ (Cached caches' i) names ids := by
  induction names generalizing caches log ids with
  | nil =>
    obtain ⟨-, hr, -⟩ := Action.runs_pure_iff.mp h
    obtain rfl := Except.ok.inj hr
    exact .nil
  | cons name rest ih =>
    obtain ⟨e, -, hr⟩ | ⟨id, between, first, second, others, hfirst, hrest, hr, -⟩ :=
      runs_lookUpAll_cons h
    · exact absurd hr nofun
    · cases others with
      | error e => exact absurd hr nofun
      | ok ids' =>
        obtain rfl := Except.ok.inj hr
        exact .cons ((cached_of_runs_userId hsound hfirst).stays (stays_of_runs_lookUpAll hrest))
          (ih (hsound.userId hfirst) hrest)

/-- **What is told on the way** is in the caches from then on, also if the call fails later. -/
theorem cached_of_told (h : (lookUpAll settings clock i names).run.Runs caches log rs caches')
    (htold : UserTold i name log id) : Cached caches' i name id := by
  -- what is told in a look-up before has to stay
  refine (lookUpAll_induction (R := fun c told c' => c.Stays clock.instant c' ∧
    (UserTold i name told id → Cached c' i name id)) ?_ ?_ ?_ h).2 htold
  · exact fun c => ⟨.refl _ c, fun ⟨_, hanswered⟩ => absurd rfl hanswered.log_ne_nil⟩
  · rintro c c' c'' first second ⟨hfirst, hcached⟩ ⟨hsecond, hcached'⟩
    refine ⟨hfirst.trans hsecond, fun ⟨users, hanswered⟩ => ?_⟩
    obtain hanswered | hanswered := hanswered.of_append
    · exact (hcached ⟨users, hanswered⟩).stays hsecond
    · exact hcached' ⟨users, hanswered⟩
  · exact fun _ huserId => ⟨stays_of_runs_userId huserId, cached_of_told_userId huserId⟩

/-- **Nothing is asked for but the names.** -/
theorem mem_of_requested (h : (lookUpAll settings clock i names).run.Runs caches log rs caches')
    (hrequested : Requested i name log) : name ∈ names := by
  refine lookUpAll_induction (R := fun _ asked _ => Requested i name asked → name ∈ names)
    ?_ ?_ ?_ h hrequested
  · exact fun _ hrequested => absurd hrequested not_requested_nil
  · exact fun hfirst hsecond hrequested => hrequested.of_append.elim hfirst hsecond
  · intro other _ _ _ _ hother huserId hrequested
    obtain rfl := eq_of_requested_userId huserId hrequested
    exact hother

/-- **A name that is in the caches is not asked for.** -/
theorem not_requested_of_cached (hcached : Cached caches i name id)
    (h : (lookUpAll settings clock i names).run.Runs caches log rs caches') :
    ¬ Requested i name log := by
  refine (lookUpAll_induction (R := fun c asked c' => Cached c i name id →
    Cached c' i name id ∧ ¬ Requested i name asked) ?_ ?_ ?_ h hcached).2
  · exact fun _ hcached => ⟨hcached, not_requested_nil⟩
  · intro _ _ _ _ _ hfirst hsecond hcached
    obtain ⟨hbetween, hnot⟩ := hfirst hcached
    obtain ⟨hafter, hnot'⟩ := hsecond hbetween
    exact ⟨hafter, fun hrequested => hrequested.of_append.elim hnot hnot'⟩
  · exact fun _ huserId hcached =>
      ⟨hcached.stays (stays_of_runs_userId huserId), not_requested_userId hcached huserId⟩

/-- **Where a call fails**: the names before are resolved, the look-up of a name fails with the
error of the call, and the names behind are not looked up. -/
theorem failed_of_runs_lookUpAll {e : ClientError}
    (h : (lookUpAll settings clock i names).run.Runs caches log (.error e) caches') :
    ∃ known ids name unseen between first second, names = known ++ name :: unseen ∧
      (lookUpAll settings clock i known).run.Runs caches first (.ok ids) between ∧
        (userId settings clock i name).run.Runs between second (.error e) caches' ∧
          log = first ++ second := by
  induction names generalizing caches log with
  | nil => exact absurd (Action.runs_pure_iff.mp h).2.1 nofun
  | cons name rest ih =>
    obtain ⟨e', hfirst, hr⟩ | ⟨id, between, first, second, others, hfirst, hrest, hr, rfl⟩ :=
      runs_lookUpAll_cons h
    · obtain rfl := Except.error.inj hr
      exact ⟨[], [], name, rest, caches, [], log, rfl, Action.runs_pure_iff.mpr ⟨rfl, rfl, rfl⟩,
        hfirst, rfl⟩
    · cases others with
      | ok ids => exact absurd hr nofun
      | error e' =>
        obtain rfl := Except.error.inj hr
        obtain ⟨known, ids, failing, unseen, middle, lookups, last, rfl, hknown, hfailing, rfl⟩ :=
          ih hrest
        refine ⟨name :: known, id :: ids, failing, unseen, middle, first ++ lookups, last, rfl, ?_,
          hfailing, (List.append_assoc _ _ _).symm⟩
        refine Action.runs_bind_iff.mpr (.inr ⟨id, between, first, lookups, hfirst, ?_, rfl⟩)
        refine Action.runs_bind_iff.mpr (.inr ⟨ids, middle, lookups, [], hknown, ?_, ?_⟩)
        · exact Action.runs_pure_iff.mpr ⟨rfl, rfl, rfl⟩
        · rw [List.append_nil]

end GitLab

end ForgeBoard
