import ForgeBoard.Client.GitLab
import ForgeBoard.Proofs.Client.Runs

/-!
# What a program may do after what it was told

A contract says what a program may do in view of the exchanges it has had.
`Program.Meets J Q log p`: from the exchanges `log` on, the program changes the caches only as `J`
allows after the exchanges up to then, and ends only with what `Q` allows. It holds whatever the
replies are and whatever else happens to the caches between two steps.

* `Meets.bind`, `Meets.retry`: sequences and repetitions.
* `Meets.of_runs`: what a run ends with is allowed.
* `Action.meets_send`, `GitLab.meets_get`: who gets a result has had a response that says so.
-/

namespace ForgeBoard

open Http

namespace Program

variable {α β : Type} {J : List Exchange → (Caches → Caches) → Prop}
  {Q : List Exchange → α → Prop} {Q' : List Exchange → β → Prop} {log : List Exchange}

/-- From the exchanges `log` on, the program changes the caches only as `J` allows, and ends only
with what `Q` allows. -/
def Meets (J : List Exchange → (Caches → Caches) → Prop) (Q : List Exchange → α → Prop) :
    List Exchange → Program α → Prop
  | log, done a => Q log a
  | log, send request next => ∀ reply, Meets J Q (log ++ [(request, reply)]) (next reply)
  | log, sleep _ next => Meets J Q log next
  | log, access change next => J log change ∧ ∀ caches, Meets J Q log (next caches)

theorem Meets.bind {x : Program α} {f : α → Program β} (hx : x.Meets J Q log)
    (hf : ∀ log a, Q log a → (f a).Meets J Q' log) : (x >>= f).Meets J Q' log := by
  change (x.bind f).Meets J Q' log
  induction x generalizing log with
  | done a => exact hf log a hx
  | send request next ih => exact fun reply => ih reply (hx reply)
  | sleep ms next ih => exact ih hx
  | access change next ih => exact ⟨hx.1, fun caches => ih caches (hx.2 caches)⟩

theorem Meets.mono {Q'' : List Exchange → α → Prop} {p : Program α} (hp : p.Meets J Q log)
    (hle : ∀ log a, Q log a → Q'' log a) : p.Meets J Q'' log := by
  induction p generalizing log with
  | done a => exact hle log a hp
  | send request next ih => exact fun reply => ih reply (hp reply)
  | sleep ms next ih => exact ih hp
  | access change next ih => exact ⟨hp.1, fun caches => ih caches (hp.2 caches)⟩

theorem Meets.retry {Q : List Exchange → Except ClientError α → Prop}
    {op : Program (Except ClientError α)} (hop : ∀ log, op.Meets J Q log) (p : RetryPolicy)
    (log : List Exchange) : (p.retry pause op).Meets J Q log := by
  refine retry_induction (motive := fun op => ∀ log, op.Meets J Q log) hop
    (fun f hf log => (hop log).bind fun log r hr => ?_) p log
  obtain hdone | ⟨ms, rest, hsleep, hrest⟩ := hf r
  · rw [hdone]
    exact hr
  · rw [hsleep]
    exact hrest log

/-- **What a run ends with is allowed** after its exchanges. -/
theorem Meets.of_runs {p : Program α} {a : α} {caches caches' : Caches} {later : List Exchange}
    (hp : p.Meets J Q log) (h : p.Runs caches later a caches') : Q (log ++ later) a := by
  induction h generalizing log with
  | done a caches => rwa [List.append_nil]
  | @send request _ _ _ later _ reply _ ih =>
    have h := ih (hp reply)
    rwa [List.append_assoc, List.singleton_append] at h
  | sleep _ ih => exact ih hp
  | @access _ _ caches _ _ _ _ ih => exact ih (hp.2 caches)

end Program

/-! ## Actions -/

namespace Action

open Program

variable {α β : Type} {J : List Exchange → (Caches → Caches) → Prop}
  {Q : List Exchange → α → Prop} {Q' : List Exchange → β → Prop} {log : List Exchange}

/-- The contract of an action, which allows any error. -/
def Meets (J : List Exchange → (Caches → Caches) → Prop) (Q : List Exchange → α → Prop)
    (log : List Exchange) (x : Action α) : Prop :=
  x.run.Meets J (fun log r => ∀ a, r = .ok a → Q log a) log

theorem meets_pure {a : α} (h : Q log a) : Meets J Q log (pure a) :=
  fun _ heq => Except.ok.inj heq ▸ h

theorem meets_throw (e : ClientError) : Meets J Q log (throw e) :=
  nofun

theorem meets_bind {x : Action α} {f : α → Action β} (hx : Meets J Q log x)
    (hf : ∀ log a, Q log a → Meets J Q' log (f a)) : Meets J Q' log (x >>= f) := by
  unfold Meets
  rw [ExceptT.run_bind]
  refine Program.Meets.bind hx fun log r hr => ?_
  cases r with
  | ok a => exact hf log a (hr a rfl)
  | error e => exact nofun

theorem meets_retried {op : Action α} (hop : ∀ log, Meets J Q log op) (p : RetryPolicy)
    (log : List Exchange) : Meets J Q log (retried p op) :=
  Program.Meets.retry hop p log

theorem meets_withCaches {f : Caches → α × Caches} (hJ : J log fun caches => (f caches).2)
    (hQ : ∀ caches, Q log (f caches).1) : Meets J Q log (withCaches f) :=
  Program.Meets.bind (Q := Q) ⟨hJ, hQ⟩ fun _ _ h _ heq => Except.ok.inj heq ▸ h

/-- What is given by an action that succeeds is allowed after its exchanges. -/
theorem Meets.of_runs {x : Action α} {a : α} {caches caches' : Caches}
    (hx : Meets J Q [] x) (h : x.run.Runs caches log (.ok a) caches') : Q log a :=
  Program.Meets.of_runs hx h a rfl

/-- A response is the reply to the request. -/
theorem meets_send (request? : Option Request) :
    Meets J (fun log response => ∃ request, request? = some request ∧
      (request, Reply.response response) ∈ log) log (send request?) := by
  unfold send
  split
  · exact meets_throw _
  · next request =>
    split
    · intro reply
      cases reply with
      | response r =>
        intro r' hr'
        obtain rfl := Except.ok.inj hr'
        exact ⟨request, rfl, List.mem_append_right _ List.mem_cons_self⟩
      | nothing => exact nofun
    · exact meets_throw _

end Action

/-! ## Answers of GitLab -/

namespace GitLab

open Json Query

/-- One of the exchanges is a successful read, the body of which says `a`. -/
def Answered {α : Type} (i : Instance) (endpoint : String) (params : Params)
    (readBody : Json → Option α) (log : List Program.Exchange) (a : α) : Prop :=
  ∃ request response, getRequest? i endpoint params = some request ∧
    (request, Reply.response response) ∈ log ∧ response.isSuccess = true ∧
    (Json.ofText? response.body).bind readBody = some a

theorem Answered.mono {α : Type} {i : Instance} {endpoint : String} {params : Params}
    {readBody : Json → Option α} {log later : List Program.Exchange} {a : α}
    (h : Answered i endpoint params readBody log a) (hlog : log ⊆ later) :
    Answered i endpoint params readBody later a := by
  obtain ⟨request, response, hrequest, hmem, hsaid⟩ := h
  exact ⟨request, response, hrequest, hlog hmem, hsaid⟩

/-- **What is read has been answered.** -/
theorem meets_get {α : Type} {J : List Program.Exchange → (Caches → Caches) → Prop}
    (settings : ClientSettings) (i : Instance) (endpoint : String) (params : Params)
    (readBody : Json → Option α) (log : List Program.Exchange) :
    Action.Meets J (fun log answer => Answered i endpoint params readBody log answer.1) log
      (get settings i endpoint params readBody) := by
  refine Action.meets_retried (fun log => ?_) _ log
  refine Action.meets_bind (Action.meets_send _) fun log response hresponse => ?_
  obtain ⟨request, hrequest, hmem⟩ := hresponse
  unfold requireSuccess
  split
  · next hsuccess =>
    refine Action.meets_bind (Q := fun after _ => after = log) (Action.meets_pure rfl) ?_
    rintro _ _ rfl
    split
    · next a ha =>
      exact Action.meets_pure ⟨request, response, hrequest, hmem, hsuccess, ha⟩
    · exact Action.meets_throw _
  · exact Action.meets_bind (Q := fun _ _ => False) (Action.meets_throw _) nofun

end GitLab

end ForgeBoard
