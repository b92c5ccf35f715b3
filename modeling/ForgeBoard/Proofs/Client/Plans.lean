import ForgeBoard.Proofs.Client.Users

/-!
# Plans

A plan is a list of requests, none of which is sent twice. `Carried plan log result` says that the
requests of a plan are sent one after the other until one fails, and that none is tried again.

* `Carried.isPrefix`: what is sent is the beginning of the plan.
* `Carried.isSuccess_before`: all that is sent before a request has succeeded.
* `Carried.eq_ok_iff`: a plan is done iff all of it is sent and has succeeded.
* `GitLab.carried_sendForm`: a form is a plan of one request.
-/

namespace ForgeBoard

open Http Query Text Program

/-! ## Plans -/

/-- The reply is a response that reports success. -/
def Http.Reply.IsSuccess (reply : Reply) : Prop :=
  ∃ response, reply = .response response ∧ response.isSuccess = true

/-- The requests of a plan, sent one after the other until one fails, with the exchanges and the
result. A request that is malformed is not sent. -/
inductive Carried : List (Option Request) → List Exchange → Except ClientError Unit → Prop where
  | done : Carried [] [] (.ok ())
  | unsent {request? : Option Request} {plan : List (Option Request)} {e : ClientError} :
    Carried (request? :: plan) [] (.error e)
  | failed {request : Request} {reply : Reply} {plan : List (Option Request)} {e : ClientError} :
    ¬ reply.IsSuccess → Carried (some request :: plan) [(request, reply)] (.error e)
  | next {request : Request} {reply : Reply} {plan : List (Option Request)} {log : List Exchange}
      {result : Except ClientError Unit} :
    reply.IsSuccess → Carried plan log result →
      Carried (some request :: plan) ((request, reply) :: log) result

namespace Carried

variable {plan plan' : List (Option Request)} {log log' : List Exchange}
  {result : Except ClientError Unit}

theorem append (h : Carried plan log (.ok ())) (h' : Carried plan' log' result) :
    Carried (plan ++ plan') (log ++ log') result := by
  generalize hok : Except.ok () = r at h
  induction h with
  | done => exact h'
  | unsent => exact absurd hok nofun
  | failed => exact absurd hok nofun
  | next hsuccess _ ih => exact .next hsuccess (ih hok)

theorem append_of_error {e : ClientError} (h : Carried plan log (.error e))
    (plan' : List (Option Request)) : Carried (plan ++ plan') log (.error e) := by
  generalize herror : Except.error e = r at h
  induction h with
  | done => exact absurd herror nofun
  | unsent => exact .unsent
  | failed hnot => exact .failed hnot
  | next hsuccess _ ih => exact .next hsuccess (ih herror)

/-- What is sent is the beginning of the plan. -/
theorem isPrefix (h : Carried plan log result) : log.map (fun x => some x.1) <+: plan := by
  induction h with
  | done => exact List.prefix_rfl
  | unsent => exact List.nil_prefix
  | failed => exact List.cons_prefix_cons.mpr ⟨rfl, List.nil_prefix⟩
  | next _ _ ih => exact List.cons_prefix_cons.mpr ⟨rfl, ih⟩

/-- **A plan is done** iff all of it is sent and has succeeded. -/
theorem eq_ok_iff (h : Carried plan log result) :
    result = .ok () ↔ log.map (fun x => some x.1) = plan ∧ ∀ x ∈ log, x.2.IsSuccess := by
  induction h with
  | done => exact ⟨fun _ => ⟨rfl, List.forall_mem_nil _⟩, fun _ => rfl⟩
  | unsent => exact ⟨nofun, fun h => absurd h.1 nofun⟩
  | failed hnot => exact ⟨nofun, fun h => absurd (h.2 _ List.mem_cons_self) hnot⟩
  | next hsuccess _ ih =>
    rw [ih, List.map_cons, List.cons_inj_right, List.forall_mem_cons]
    exact ⟨fun h => ⟨h.1, hsuccess, h.2⟩, fun h => ⟨h.1, h.2.2⟩⟩

/-- What comes before a request has succeeded. -/
theorem isSuccess_before (h : Carried plan log result) {before after : List Exchange} {x : Exchange}
    (hlog : log = before ++ x :: after) : ∀ y ∈ before, y.2.IsSuccess := by
  induction h generalizing before with
  | done => exact absurd hlog (by simp)
  | unsent => exact absurd hlog (by simp)
  | failed =>
    cases before with
    | nil => exact List.forall_mem_nil _
    | cons y before => exact absurd (List.cons.inj hlog).2 (by simp)
  | next hsuccess _ ih =>
    cases before with
    | nil => exact List.forall_mem_nil _
    | cons y before =>
      obtain ⟨rfl, hrest⟩ := List.cons.inj hlog
      exact List.forall_mem_cons.mpr ⟨hsuccess, ih hrest⟩

end Carried

/-! ## One request -/

variable {caches caches' : Caches} {log : List Exchange}

/-- A request is sent once, if it can be sent, and gives the response if there is one. -/
theorem Action.runs_send {request? : Option Request} {r : Except ClientError Response}
    (h : (send request?).run.Runs caches log r caches') :
    caches' = caches ∧ ((log = [] ∧ ∃ e, r = .error e) ∨
      ∃ request reply, request? = some request ∧ log = [(request, reply)] ∧
        ((reply = .nothing ∧ ∃ e, r = .error e) ∨
          ∃ response, reply = .response response ∧ r = .ok response)) := by
  unfold send at h
  split at h
  · obtain ⟨hlog, hr, hcaches⟩ := runs_throw_iff.mp h
    exact ⟨hcaches, .inl ⟨hlog, _, hr⟩⟩
  · next request =>
    split at h
    · cases h with
      | send reply h =>
        cases reply with
        | response response =>
          obtain ⟨rfl, rfl, rfl⟩ := Program.runs_pure_iff.mp h
          exact ⟨rfl, .inr ⟨request, _, rfl, rfl, .inr ⟨response, rfl, rfl⟩⟩⟩
        | nothing =>
          obtain ⟨rfl, rfl, rfl⟩ := Program.runs_pure_iff.mp h
          exact ⟨rfl, .inr ⟨request, _, rfl, rfl, .inl ⟨rfl, _, rfl⟩⟩⟩
    · obtain ⟨hlog, hr, hcaches⟩ := runs_throw_iff.mp h
      exact ⟨hcaches, .inl ⟨hlog, _, hr⟩⟩

theorem GitLab.runs_requireSuccess {response : Response} {r : Except ClientError Unit}
    (h : (requireSuccess response).run.Runs caches log r caches') :
    log = [] ∧ ((response.isSuccess = true ∧ r = .ok ()) ∨
      (response.isSuccess = false ∧ ∃ e, r = .error e)) := by
  unfold requireSuccess at h
  split at h
  · next hsuccess =>
    obtain ⟨hlog, hr, -⟩ := Action.runs_pure_iff.mp h
    exact ⟨hlog, .inl ⟨hsuccess, hr⟩⟩
  · next hnot =>
    obtain ⟨hlog, hr, -⟩ := Action.runs_throw_iff.mp h
    exact ⟨hlog, .inr ⟨Bool.eq_false_iff.mpr hnot, _, hr⟩⟩

/-- **A form is a plan of one request.** -/
theorem GitLab.carried_sendForm {i : Instance} {method : Method} {endpoint : String}
    {form : List (String × String)} {r : Except ClientError Unit}
    (h : (sendForm i method endpoint form).run.Runs caches log r caches') :
    Carried [formRequest? i method endpoint form] log r := by
  obtain ⟨e, hsend, rfl⟩ | ⟨response, between, first, second, hsend, hsuccess, rfl⟩ :=
    Action.runs_bind_iff.mp h
  · obtain ⟨-, ⟨rfl, -⟩ | ⟨request, reply, hrequest, rfl, hreply⟩⟩ := Action.runs_send hsend
    · exact .unsent
    · obtain ⟨rfl, -⟩ | ⟨response, -, hr⟩ := hreply
      · rw [hrequest]
        refine .failed ?_
        rintro ⟨response, heq, -⟩
        exact absurd heq nofun
      · exact absurd hr nofun
  · obtain ⟨-, ⟨-, e, hr⟩ | ⟨request, reply, hrequest, rfl, hreply⟩⟩ := Action.runs_send hsend
    · exact absurd hr nofun
    · obtain ⟨-, e, hr⟩ | ⟨response', rfl, hr⟩ := hreply
      · exact absurd hr nofun
      · obtain rfl := Except.ok.inj hr
        rw [hrequest]
        obtain ⟨rfl, ⟨hok, rfl⟩ | ⟨hfails, e, rfl⟩⟩ := runs_requireSuccess hsuccess
        · exact .next ⟨response, rfl, hok⟩ .done
        · refine .failed ?_
          rintro ⟨response', heq, hok⟩
          obtain rfl := Reply.response.inj heq
          exact absurd (hok.symm.trans hfails) nofun

end ForgeBoard
