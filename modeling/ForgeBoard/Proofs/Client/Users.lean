import ForgeBoard.Proofs.Client.Contract
import ForgeBoard.Proofs.Client.Fetch
import ForgeBoard.Proofs.Client.Footprint
import ForgeBoard.Proofs.Client.ScopedKey

/-!
# Looking up users

The ids of users are looked up one after the other, once for each name that is not blank, and a name
in another case is the same name. `GitLab.Resolved` says where an id comes from: from an entry of
the caches that counts, or from the answer to a read.

* `GitLab.resolved_of_runs_userIds`: ids that are given are resolved, each for its name, from what
  the caches held before the first look-up.
* `GitLab.sendsOnly_userIds`: look-ups send reads only.
-/

namespace ForgeBoard

open Http Query Text Program

variable {caches caches' : Caches} {log : List Exchange}

theorem Http.Request.build?_eq_some {method : Method} {url : String}
    {headers : List (String × String)} {body : Body} {request : Request}
    (h : Request.build? method url headers body = some request) :
    request.method = method ∧ request.body = body := by
  unfold Request.build? at h
  split at h
  · obtain ⟨u, -, hu⟩ := Option.map_eq_some_iff.mp h
    rw [← hu]
    split <;> exact ⟨rfl, rfl⟩
  · exact absurd h nofun

namespace GitLab

open Json

/-! ## Names -/

/-- No two names that are looked up are the same in another case, and none has been seen before. -/
theorem pairwise_distinctNames (seen usernames : List String) :
    (distinctNames seen usernames).Pairwise (fun a b => lower a ≠ lower b) ∧
      ∀ name ∈ distinctNames seen usernames, lower name ∉ seen := by
  induction usernames generalizing seen with
  | nil => exact ⟨.nil, nofun⟩
  | cons username rest ih =>
    unfold distinctNames
    dsimp only
    split
    · exact ih seen
    · next hname =>
      obtain ⟨hpairs, hseen⟩ := ih (lower (trim username) :: seen)
      have hnew : lower (trim username) ∉ seen := by
        intro h
        exact hname (by simp [h])
      refine ⟨List.pairwise_cons.mpr ⟨fun name h heq => ?_, hpairs⟩,
        List.forall_mem_cons.mpr ⟨hnew, fun name h hold => ?_⟩⟩
      · exact hseen name h (List.mem_cons.mpr (.inl heq.symm))
      · exact hseen name h (List.mem_cons_of_mem _ hold)

/-- Every name that is not blank is looked up, be it in another case. -/
theorem exists_mem_distinctNames (seen : List String) {usernames : List String}
    {username : String} (h : username ∈ usernames) (hblank : trim username ≠ "") :
    lower (trim username) ∈ seen ∨
      ∃ name ∈ distinctNames seen usernames, lower name = lower (trim username) := by
  induction usernames generalizing seen with
  | nil => exact absurd h List.not_mem_nil
  | cons first rest ih =>
    unfold distinctNames
    dsimp only
    by_cases hfirst : username = first
    · subst hfirst
      by_cases hseen : lower (trim username) ∈ seen
      · exact .inl hseen
      · rw [if_neg (by simp [hseen, hblank])]
        exact .inr ⟨trim username, List.mem_cons_self, rfl⟩
    · have hrest := (List.mem_cons.mp h).resolve_left hfirst
      split
      · exact ih seen hrest
      · obtain hseen | ⟨name, hname, heq⟩ := ih (lower (trim first) :: seen) hrest
        · obtain hsame | hseen := List.mem_cons.mp hseen
          · exact .inr ⟨trim first, List.mem_cons_self, hsame.symm⟩
          · exact .inl hseen
        · exact .inr ⟨name, List.mem_cons_of_mem _ hname, heq⟩

/-! ## Ids -/

/-- One of the exchanges has told the id of a user. -/
def UserTold (i : Instance) (username : String) (log : List Exchange) (id : Nat) : Prop :=
  ∃ others, Answered i "/users" [("username", username)] (list? readUser?) log (id :: others)

theorem UserTold.mono {i : Instance} {username : String} {log later : List Exchange} {id : Nat}
    (h : UserTold i username log id) (hlog : log ⊆ later) : UserTold i username later id := by
  obtain ⟨others, h⟩ := h
  exact ⟨others, h.mono hlog⟩

/-- The id of a user is in the caches, or one of the exchanges has told it. -/
def Resolved (clock : Clock) (i : Instance) (caches : Caches) (log : List Exchange) (name : String)
    (id : Nat) : Prop :=
  (∃ e, caches.userIds.entry? (scopedKey i.id name) = some e ∧
    e.isExpired clock.instant = false ∧ e.value = id) ∨ UserTold i name log id

variable {settings : ClientSettings} {clock : Clock} {i : Instance} {name : String} {id : Nat}

theorem Resolved.mono {later : List Exchange} (h : Resolved clock i caches log name id)
    (hlog : log ⊆ later) : Resolved clock i caches later name id :=
  h.imp_right fun htold => htold.mono hlog

theorem resolved_of_runs_userId
    (h : (userId settings clock i name).run.Runs caches log (.ok id) caches') :
    Resolved clock i caches log name id := by
  unfold userId at h
  obtain ⟨e, -, hr⟩ | ⟨cached, between, first, second, hget, h, rfl⟩ := Action.runs_bind_iff.mp h
  · exact absurd hr nofun
  obtain ⟨rfl, cached', hcached, hpair⟩ := Action.runs_withCaches_iff.mp hget
  obtain rfl := Except.ok.inj hcached
  rw [List.nil_append]
  cases cached with
  | some found =>
    obtain ⟨-, hr, -⟩ := Action.runs_pure_iff.mp h
    obtain rfl := Except.ok.inj hr
    exact .inl (TtlCache.get_eq_some_iff.mp (Prod.mk.inj hpair).1)
  | none =>
    obtain ⟨e, -, hr⟩ | ⟨answer, mid, asked, third, hasked, h, rfl⟩ := Action.runs_bind_iff.mp h
    · exact absurd hr nofun
    have hanswer := (meets_get (J := fun _ _ => True) settings i "/users" [("username", name)]
      (list? readUser?) []).of_runs hasked
    obtain ⟨users, total⟩ := answer
    cases users with
    | nil => exact absurd (Action.runs_throw_iff.mp h).2.1 nofun
    | cons found others =>
      dsimp only at h hanswer
      obtain ⟨e, -, hr⟩ | ⟨_, _, set, fourth, -, hend, rfl⟩ :=
        Action.runs_bind_iff.mp h
      · exact absurd hr nofun
      obtain ⟨-, hr, -⟩ := Action.runs_pure_iff.mp hend
      obtain rfl := Except.ok.inj hr
      exact Resolved.mono (.inr ⟨others, hanswer⟩) (List.subset_append_left _ _)

theorem Resolved.congr {base : Caches} (h : Resolved clock i caches log name id)
    (hbase : caches.SameAt base ⟨.userIds, scopedKey i.id name⟩) :
    Resolved clock i base log name id := by
  obtain ⟨e, hentry, he⟩ | htold := h
  · exact .inl ⟨e, hbase.symm.trans hentry, he⟩
  · exact .inr htold

/-- Names that are looked up one after the other. The look-up of a name leaves the entries of the
others as they were before all of them, because no two of them have one key. -/
theorem resolved_of_runs_lookUpAll {base : Caches} {names : List String} {ids : List Nat}
    (hnames : names.Pairwise fun a b => lower a ≠ lower b)
    (hbase : ∀ name ∈ names, caches.SameAt base ⟨.userIds, scopedKey i.id name⟩)
    (h : (lookUpAll settings clock i names).run.Runs caches log (.ok ids) caches') :
    List.Forall₂ (Resolved clock i base log) names ids := by
  induction names generalizing caches log ids with
  | nil =>
    obtain ⟨-, hr, -⟩ := Action.runs_pure_iff.mp h
    obtain rfl := Except.ok.inj hr
    exact .nil
  | cons name rest ih =>
    obtain ⟨hname, hrest⟩ := List.pairwise_cons.mp hnames
    obtain ⟨hfound, hothers⟩ := List.forall_mem_cons.mp hbase
    obtain ⟨e, -, hr⟩ | ⟨id, between, first, second, hfirst, hsecond, hlog⟩ :=
      Action.runs_bind_iff.mp h
    · exact absurd hr nofun
    obtain ⟨e, -, hr⟩ | ⟨ids', after, lookups, last, hlookups, hlast, hlog'⟩ :=
      Action.runs_bind_iff.mp hsecond
    · exact absurd hr nofun
    obtain ⟨rfl, hr, rfl⟩ := Action.runs_pure_iff.mp hlast
    obtain rfl := Except.ok.inj hr
    rw [hlog, hlog', List.append_nil]
    have hkeeps : (userId settings clock i name).run.KeepsTo
        {⟨.userIds, scopedKey i.id name⟩} := keepsTo_userId rfl
    have hbetween : ∀ other ∈ rest, between.SameAt base ⟨.userIds, scopedKey i.id other⟩ := by
      intro other hother
      refine (hkeeps.agree_of_runs hfirst _ fun hcell => ?_).trans (hothers other hother)
      exact hname other hother (scopedKey_right_inj (Cell.mk.inj hcell).2).symm
    refine .cons (((resolved_of_runs_userId hfirst).congr hfound).mono
      (List.subset_append_left _ _)) ?_
    exact (ih hrest hbetween hlookups).imp fun _ _ h => h.mono (List.subset_append_right _ _)

theorem resolved_of_runs_userIds {usernames : List String} {ids : List Nat}
    (h : (userIds settings clock i usernames).run.Runs caches log (.ok ids) caches') :
    List.Forall₂ (Resolved clock i caches log) (distinctNames [] usernames) ids :=
  resolved_of_runs_lookUpAll (pairwise_distinctNames [] usernames).1 (fun _ _ => rfl) h

/-! ## Reads -/

theorem getRequest?_method {endpoint : String} {params : Params} {request : Request}
    (h : getRequest? i endpoint params = some request) : request.method = .get := by
  obtain ⟨r, hr, rfl⟩ := Option.map_eq_some_iff.mp h
  exact (Request.build?_eq_some hr).1

theorem sendsOnly_userId :
    (userId settings clock i name).run.SendsOnly (·.method = .get) := by
  refine Action.sendsOnly_bind (Action.sendsOnly_withCaches _) fun cached => ?_
  cases cached with
  | some id => trivial
  | none =>
    refine Action.sendsOnly_bind ((sendsOnly_get settings i _ _ _).mono fun _ =>
      getRequest?_method) fun answer => ?_
    obtain ⟨users, total⟩ := answer
    cases users with
    | nil => trivial
    | cons id others => exact Action.sendsOnly_bind (Action.sendsOnly_withCaches _) fun _ => trivial

/-- The look-up of users sends reads only. -/
theorem sendsOnly_userIds (usernames : List String) :
    (userIds settings clock i usernames).run.SendsOnly (·.method = .get) := by
  unfold userIds
  generalize distinctNames [] usernames = names
  induction names with
  | nil => trivial
  | cons name rest ih =>
    exact Action.sendsOnly_bind sendsOnly_userId fun _ => Action.sendsOnly_bind ih fun _ => trivial

end GitLab

end ForgeBoard
