import ForgeBoard.Proofs.Client.Fetch
import ForgeBoard.Proofs.Client.Contract
import ForgeBoard.Proofs.Client.Plans
import ForgeBoard.Proofs.Text.Percent

/-!
# What a read comes to

A read is repeated while it fails, and the first attempt that succeeds is the last one. So the
answer of a read can be seen in its exchanges: `Answered` holds of it, and of nothing else.

* `Program.Attempts`: how a repeated operation comes to its result, one attempt after the other
  (`attempts_of_runs_retry`).
* `GitLab.eq_ok_iff_answered`: a read gives what it was answered.
* `GitLab.userRequest?_inj`: a request for a user says for which one.
-/

namespace ForgeBoard

open Http Query Text Program

variable {α : Type} {caches caches' : Caches} {log : List Exchange}

/-! ## Attempts -/

namespace Program

/-- An operation is run, and run again after an error. The last outcome is the result. -/
inductive Attempts (op : Program (Except ClientError α)) :
    Caches → List Exchange → Except ClientError α → Caches → Prop where
  | last {caches caches' : Caches} {log : List Exchange} {r : Except ClientError α}
      (h : op.Runs caches log r caches') : Attempts op caches log r caches'
  | again {caches between caches' : Caches} {first rest : List Exchange} {e : ClientError}
      {r : Except ClientError α} (h : op.Runs caches first (.error e) between)
      (hrest : Attempts op between rest r caches') : Attempts op caches (first ++ rest) r caches'

/-- **A repeated operation** makes one attempt after the other. By induction on the number of
repetitions that are left. -/
theorem attempts_of_runs_retry {op : Program (Except ClientError α)} {p : RetryPolicy}
    {r : Except ClientError α} (h : (p.retry pause op).Runs caches log r caches') :
    Attempts op caches log r caches' := by
  have hfrom : ∀ repeats attempt caches log,
      (p.retryFrom pause op repeats attempt).Runs caches log r caches' →
        Attempts op caches log r caches' := by
    intro repeats
    induction repeats with
    | zero => exact fun _ _ _ h => .last h
    | succ repeats ih =>
      intro attempt caches log h
      obtain ⟨result, between, first, second, hfirst, hsecond, rfl⟩ := runs_bind_iff.mp h
      cases result with
      | ok a =>
        obtain ⟨rfl, rfl, rfl⟩ := runs_pure_iff.mp hsecond
        rw [List.append_nil]
        exact .last hfirst
      | error e =>
        dsimp only at hsecond
        split at hsecond
        · obtain _ | _ | h := hsecond
          exact .again hfirst (ih _ _ _ h)
        · obtain ⟨rfl, rfl, rfl⟩ := runs_pure_iff.mp hsecond
          rw [List.append_nil]
          exact .last hfirst
  exact hfrom _ _ _ _ h

end Program

namespace GitLab

open Json

variable {settings : ClientSettings} {i : Instance} {endpoint : String} {params : Params}
  {readBody : Json → Option α} {a : α} {r : Except ClientError (α × Nat)}

/-- What a read makes of a response. -/
def accept (readBody : Json → Option α) (response : Response) : Action (α × Nat) := do
  requireSuccess response
  match (Json.ofText? response.body).bind readBody with
  | some a => return (a, totalOf response)
  | none => throw (.http .unreadableBody)

/-- One attempt of a read. -/
def attempt (i : Instance) (endpoint : String) (params : Params) (readBody : Json → Option α) :
    Action (α × Nat) := do
  accept readBody (← Action.send (getRequest? i endpoint params))

theorem get_eq (settings : ClientSettings) (i : Instance) (endpoint : String) (params : Params)
    (readBody : Json → Option α) :
    get settings i endpoint params readBody =
      Action.retried settings.retry (attempt i endpoint params readBody) :=
  rfl

theorem runs_accept {response : Response}
    (h : (accept readBody response).run.Runs caches log r caches') :
    log = [] ∧ ∀ a, response.isSuccess = true →
      (Json.ofText? response.body).bind readBody = some a → r = .ok (a, totalOf response) := by
  unfold accept requireSuccess at h
  split at h
  · have hbody : Program.Runs (match (Json.ofText? response.body).bind readBody with
        | some a => pure (a, totalOf response)
        | none => throw (.http .unreadableBody) : Action (α × Nat)).run caches log r caches' := h
    split at hbody
    · next a ha =>
      obtain ⟨hlog, hr, -⟩ := Action.runs_pure_iff.mp hbody
      exact ⟨hlog, fun a' _ ha' => by rw [hr, Option.some.inj (ha.symm.trans ha')]⟩
    · next hnone =>
      obtain ⟨hlog, -, -⟩ := Action.runs_throw_iff.mp hbody
      exact ⟨hlog, fun a' _ ha' => absurd (hnone.symm.trans ha') nofun⟩
  · next hfailed =>
    obtain ⟨hlog, -, -⟩ := Action.runs_throw_iff.mp h
    exact ⟨hlog, fun a' hsuccess _ => absurd hsuccess hfailed⟩

/-- An attempt that is answered succeeds with the answer. -/
theorem eq_ok_of_runs_attempt
    (h : (attempt i endpoint params readBody).run.Runs caches log r caches')
    (ha : Answered i endpoint params readBody log a) : ∃ total, r = .ok (a, total) := by
  obtain ⟨request, response, -, hmem, hsuccess, hbody⟩ := ha
  obtain ⟨e, hsend, -⟩ | ⟨received, between, first, second, hsend, haccept, rfl⟩ :=
    Action.runs_bind_iff.mp h
  · -- without a response there is no answer
    obtain ⟨-, ⟨rfl, -⟩ | ⟨_, _, -, rfl, ⟨rfl, -⟩ | ⟨_, -, hr⟩⟩⟩ := Action.runs_send hsend
    · exact absurd hmem List.not_mem_nil
    · exact absurd (List.mem_singleton.mp hmem) nofun
    · exact absurd hr nofun
  · obtain ⟨rfl, hread⟩ := runs_accept haccept
    obtain ⟨-, ⟨-, e, hr⟩ | ⟨_, _, -, rfl, ⟨-, e, hr⟩ | ⟨_, rfl, hr⟩⟩⟩ := Action.runs_send hsend
    · exact absurd hr nofun
    · exact absurd hr nofun
    obtain rfl := Except.ok.inj hr
    rw [List.append_nil] at hmem
    obtain ⟨-, hreply⟩ := Prod.mk.inj (List.mem_singleton.mp hmem)
    obtain rfl := Reply.response.inj hreply
    exact ⟨_, hread a hsuccess hbody⟩

theorem Answered.of_append {later : List Exchange}
    (h : Answered i endpoint params readBody (log ++ later) a) :
    Answered i endpoint params readBody log a ∨ Answered i endpoint params readBody later a := by
  obtain ⟨request, response, hrequest, hmem, hsaid⟩ := h
  obtain hmem | hmem := List.mem_append.mp hmem
  · exact .inl ⟨request, response, hrequest, hmem, hsaid⟩
  · exact .inr ⟨request, response, hrequest, hmem, hsaid⟩

theorem Answered.log_ne_nil (h : Answered i endpoint params readBody log a) : log ≠ [] := by
  obtain ⟨_, _, _, hmem, _⟩ := h
  exact List.ne_nil_of_mem hmem

/-- **A read gives what it was answered**: the attempt that is answered is the last one. -/
theorem eq_ok_iff_answered
    (h : (get settings i endpoint params readBody).run.Runs caches log r caches') :
    (∃ total, r = .ok (a, total)) ↔ Answered i endpoint params readBody log a := by
  constructor
  · rintro ⟨total, rfl⟩
    exact (meets_get (J := fun _ _ => True) settings i endpoint params readBody []).of_runs h
  · intro ha
    rw [get_eq] at h
    replace h := attempts_of_runs_retry h
    induction h with
    | last h => exact eq_ok_of_runs_attempt h ha
    | again h _ ih =>
      obtain hfirst | hrest := ha.of_append
      · obtain ⟨_, hr⟩ := eq_ok_of_runs_attempt h hfirst
        exact absurd hr nofun
      · exact ih hrest

/-! ## Requests -/

theorem encodeForm_inj {name a b : String} (h : encodeForm [(name, a)] = encodeForm [(name, b)]) :
    a = b := by
  have hpairs : encodeFormText name ++ "=" ++ encodeFormText a =
      encodeFormText name ++ "=" ++ encodeFormText b := h
  exact encodeFormText_inj.mp ((String.append_right_inj _).mp hpairs)

/-- The query of an address to which a pair is added. -/
theorem query_withQuery (u : Url) (name : String) :
    ∃ before, ∀ value, (u.withQuery [(name, value)]).query =
      some (before ++ encodeForm [(name, value)]) := by
  have hform : ∀ value, (encodeForm [(name, value)]).isEmpty = false := by
    intro value
    have hne : encodeFormText name ++ "=" ++ encodeFormText value ≠ "" := by
      simp
    exact Bool.eq_false_iff.mpr fun h => hne (String.isEmpty_iff.mp h)
  cases hquery : (u.query.getD "").isEmpty with
  | true => exact ⟨"", fun value => by simp [Url.withQuery, hquery, hform]⟩
  | false =>
    refine ⟨u.query.getD "" ++ "&", fun value => ?_⟩
    simp [Url.withQuery, hquery, hform]

/-- A request for a user says for which one. -/
theorem userRequest?_inj {a b : String} {request : Request}
    (ha : getRequest? i "/users" [("username", a)] = some request)
    (hb : getRequest? i "/users" [("username", b)] = some request) : a = b := by
  obtain ⟨base, hbase, rfl⟩ := Option.map_eq_some_iff.mp ha
  obtain ⟨base', hbase', heq⟩ := Option.map_eq_some_iff.mp hb
  obtain rfl := Option.some.inj (hbase.symm.trans hbase')
  obtain ⟨before, hquery⟩ := query_withQuery base.url "username"
  have h := congrArg (Url.query ∘ Request.url) heq
  simp only [Function.comp_apply, hquery, Option.some_inj] at h
  exact (encodeForm_inj ((String.append_right_inj _).mp h)).symm

end GitLab

end ForgeBoard
