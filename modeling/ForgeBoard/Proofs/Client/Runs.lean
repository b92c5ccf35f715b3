import ForgeBoard.Client.Program

/-!
# What a program sends

A run of a program on its own, from caches to caches, with a log of what it sent and of the replies.
Replies are open: `Program.Runs` holds of a log if the program goes that way when it is answered
like that.

* `runs_bind_iff`: the log of a sequence is the log of its first part and then that of its second.
  `Action.runs_bind_iff` says it of sequences that may fail.
* `runs_play`: a program that is carried out against a network goes one of these ways.
* `SendsOnly P`: the program sends nothing but requests with `P`, whatever it is answered and
  whatever it finds in the caches. Repetition keeps it so (`SendsOnly.retry`).
-/

namespace ForgeBoard

open Http

namespace Program

variable {α β : Type}

/-- A request and what became of it. -/
abbrev Exchange := Request × Reply

/-- The program goes from caches to caches, with these exchanges and this result. -/
inductive Runs : Program α → Caches → List Exchange → α → Caches → Prop where
  | done (a : α) (caches : Caches) : Runs (.done a) caches [] a caches
  | send {request : Request} {next : Reply → Program α} {caches caches' : Caches}
      {log : List Exchange} {a : α} (reply : Reply) (h : Runs (next reply) caches log a caches') :
      Runs (.send request next) caches ((request, reply) :: log) a caches'
  | sleep {ms : Nat} {next : Program α} {caches caches' : Caches} {log : List Exchange} {a : α}
      (h : Runs next caches log a caches') : Runs (.sleep ms next) caches log a caches'
  | access {change : Caches → Caches} {next : Caches → Program α} {caches caches' : Caches}
      {log : List Exchange} {a : α} (h : Runs (next caches) (change caches) log a caches') :
      Runs (.access change next) caches log a caches'

variable {caches caches' : Caches} {log : List Exchange}

theorem runs_pure_iff {a b : α} :
    (pure a : Program α).Runs caches log b caches' ↔ log = [] ∧ b = a ∧ caches' = caches := by
  constructor
  · rintro ⟨⟩
    exact ⟨rfl, rfl, rfl⟩
  · rintro ⟨rfl, rfl, rfl⟩
    exact .done b caches'

theorem runs_bind_iff {x : Program α} {f : α → Program β} {b : β} :
    (x >>= f).Runs caches log b caches' ↔
      ∃ a between first second, x.Runs caches first a between ∧
        (f a).Runs between second b caches' ∧ log = first ++ second := by
  change (x.bind f).Runs caches log b caches' ↔ _
  constructor
  · intro h
    induction x generalizing caches log with
    | done a => exact ⟨a, caches, [], log, .done a caches, h, rfl⟩
    | send request next ih =>
      cases h with
      | send reply h =>
        obtain ⟨a, between, first, second, ha, hb, rfl⟩ := ih reply h
        exact ⟨a, between, _ :: first, second, .send reply ha, hb, rfl⟩
    | sleep ms next ih =>
      cases h with
      | sleep h =>
        obtain ⟨a, between, first, second, ha, hb, hlog⟩ := ih h
        exact ⟨a, between, first, second, .sleep ha, hb, hlog⟩
    | access change next ih =>
      cases h with
      | access h =>
        obtain ⟨a, between, first, second, ha, hb, hlog⟩ := ih caches h
        exact ⟨a, between, first, second, .access ha, hb, hlog⟩
  · rintro ⟨a, between, first, second, ha, hb, rfl⟩
    induction ha with
    | done a caches => exact hb
    | send reply _ ih => exact .send reply (ih hb)
    | sleep _ ih => exact .sleep (ih hb)
    | access _ ih => exact .access (ih hb)

theorem runs_withCaches_iff {f : Caches → α × Caches} {a : α} :
    (withCaches f).Runs caches log a caches' ↔ log = [] ∧ f caches = (a, caches') := by
  constructor
  · rintro (_ | _ | _ | h)
    obtain ⟨hlog, rfl, rfl⟩ := runs_pure_iff.mp h
    exact ⟨hlog, rfl⟩
  · rintro ⟨rfl, h⟩
    refine .access (runs_pure_iff.mpr ⟨rfl, ?_, ?_⟩)
    · rw [h]
    · rw [h]

/-! ## Against a network -/

/-- Carries a program out from caches on, and logs the exchanges. The network answers each request
in view of those before it. -/
def play (network : List Exchange → Request → Reply) (p : Program α) (caches : Caches) :
    (α × Caches) × List Exchange :=
  (p.run deliver (fun _ => pure ()) caches).run []
where
  deliver (request : Request) : StateM (List Exchange) Reply :=
    modifyGet fun log => (network log request, log ++ [(request, network log request)])

theorem runs_play (network : List Exchange → Request → Reply) (p : Program α) (caches : Caches) :
    p.Runs caches (p.play network caches).2 (p.play network caches).1.1
      (p.play network caches).1.2 := by
  have hruns : ∀ before : List Exchange, ∃ log a caches',
      (p.run (play.deliver network) (fun _ => pure ()) caches).run before =
        ((a, caches'), before ++ log) ∧ p.Runs caches log a caches' := by
    induction p generalizing caches with
    | done a => exact fun before => ⟨[], a, caches, by rw [List.append_nil]; rfl, .done a caches⟩
    | send request next ih =>
      intro before
      obtain ⟨log, a, caches', hrun, h⟩ := ih (network before request) caches
        (before ++ [(request, network before request)])
      refine ⟨(request, network before request) :: log, a, caches', ?_, .send _ h⟩
      rw [List.append_assoc] at hrun
      exact hrun
    | sleep ms next ih =>
      intro before
      obtain ⟨log, a, caches', hrun, h⟩ := ih caches before
      exact ⟨log, a, caches', hrun, .sleep h⟩
    | access change next ih =>
      intro before
      obtain ⟨log, a, caches', hrun, h⟩ := ih caches (change caches) before
      exact ⟨log, a, caches', hrun, .access h⟩
  obtain ⟨log, a, caches', hrun, h⟩ := hruns []
  have hplay : p.play network caches = ((a, caches'), log) := hrun
  rwa [hplay]

/-! ## What is sent at all -/

variable {P : Request → Prop}

/-- All requests of the program have the property. -/
def SendsOnly (P : Request → Prop) : Program α → Prop
  | done _ => True
  | send request next => P request ∧ ∀ reply, SendsOnly P (next reply)
  | sleep _ next => SendsOnly P next
  | access _ next => ∀ caches, SendsOnly P (next caches)

theorem SendsOnly.bind {x : Program α} {f : α → Program β} (hx : x.SendsOnly P)
    (hf : ∀ a, (f a).SendsOnly P) : (x >>= f).SendsOnly P := by
  change (x.bind f).SendsOnly P
  induction x with
  | done a => exact hf a
  | send request next ih => exact ⟨hx.1, fun reply => ih reply (hx.2 reply)⟩
  | sleep ms next ih => exact ih hx
  | access change next ih => exact fun caches => ih caches (hx caches)

theorem SendsOnly.mono {P' : Request → Prop} {p : Program α} (hp : p.SendsOnly P)
    (hle : ∀ r, P r → P' r) : p.SendsOnly P' := by
  induction p with
  | done a => trivial
  | send request next ih => exact ⟨hle _ hp.1, fun reply => ih reply (hp.2 reply)⟩
  | sleep ms next ih => exact ih hp
  | access change next ih => exact fun caches => ih caches (hp caches)

theorem SendsOnly.of_runs {p : Program α} {a : α} (hp : p.SendsOnly P)
    (h : p.Runs caches log a caches') : ∀ x ∈ log, P x.1 := by
  induction h with
  | done a caches => exact List.forall_mem_nil _
  | send reply _ ih => exact List.forall_mem_cons.mpr ⟨hp.1, ih (hp.2 reply)⟩
  | sleep _ ih => exact ih hp
  | @access _ _ caches _ _ _ _ ih => exact ih (hp caches)

/-- **Repetition.** What holds of an operation, and of any sequence of it with a part that ends with
its result or sleeps and goes on like that, holds of its repetition. By induction on the number of
repetitions that are left. -/
theorem retry_induction {motive : Program (Except ClientError α) → Prop}
    {op : Program (Except ClientError α)} (hop : motive op)
    (hbind : ∀ f : Except ClientError α → Program (Except ClientError α),
      (∀ r, f r = done r ∨ ∃ ms rest, f r = sleep ms rest ∧ motive rest) → motive (op >>= f))
    (p : RetryPolicy) : motive (p.retry pause op) := by
  have hfrom : ∀ repeats attempt, motive (p.retryFrom pause op repeats attempt) := by
    intro repeats
    induction repeats with
    | zero => exact fun _ => hop
    | succ repeats ih =>
      refine fun attempt => hbind _ fun result => ?_
      cases result with
      | ok a => exact .inl rfl
      | error e =>
        cases hretried : e.isRetried with
        | true =>
          simp only [hretried, if_true]
          exact .inr ⟨_, _, rfl, ih (attempt + 1)⟩
        | false =>
          simp only [hretried]
          exact .inl rfl
  exact hfrom _ _

theorem SendsOnly.retry {op : Program (Except ClientError α)} (hop : op.SendsOnly P)
    (p : RetryPolicy) : (p.retry pause op).SendsOnly P := by
  refine retry_induction hop (fun f hf => hop.bind fun r => ?_) p
  obtain hdone | ⟨ms, rest, hsleep, hrest⟩ := hf r
  · rw [hdone]
    trivial
  · rw [hsleep]
    exact hrest

end Program

namespace Action

variable {α β : Type} {P : Request → Prop} {caches caches' : Caches}
  {log : List Program.Exchange}

theorem runs_pure_iff {a : α} {r : Except ClientError α} :
    (pure a : Action α).run.Runs caches log r caches' ↔ log = [] ∧ r = .ok a ∧ caches' = caches :=
  Program.runs_pure_iff

theorem runs_throw_iff {e : ClientError} {r : Except ClientError α} :
    (throw e : Action α).run.Runs caches log r caches' ↔
      log = [] ∧ r = .error e ∧ caches' = caches :=
  Program.runs_pure_iff

/-- A sequence fails with its first part, or goes on with what that gives. -/
theorem runs_bind_iff {x : Action α} {f : α → Action β} {r : Except ClientError β} :
    (x >>= f).run.Runs caches log r caches' ↔
      (∃ e, x.run.Runs caches log (.error e) caches' ∧ r = .error e) ∨
        ∃ a between first second, x.run.Runs caches first (.ok a) between ∧
          (f a).run.Runs between second r caches' ∧ log = first ++ second := by
  rw [ExceptT.run_bind, Program.runs_bind_iff]
  constructor
  · rintro ⟨e | a, between, first, second, hx, hf, rfl⟩
    · obtain ⟨rfl, rfl, rfl⟩ := Program.runs_pure_iff.mp hf
      exact .inl ⟨e, by rwa [List.append_nil], rfl⟩
    · exact .inr ⟨a, between, first, second, hx, hf, rfl⟩
  · rintro (⟨e, hx, rfl⟩ | ⟨a, between, first, second, hx, hf, rfl⟩)
    · exact ⟨.error e, caches', log, [], hx, Program.runs_pure_iff.mpr ⟨rfl, rfl, rfl⟩,
        (List.append_nil log).symm⟩
    · exact ⟨.ok a, between, first, second, hx, hf, rfl⟩

theorem runs_withCaches_iff {f : Caches → α × Caches} {r : Except ClientError α} :
    (withCaches f).run.Runs caches log r caches' ↔
      log = [] ∧ ∃ a, r = .ok a ∧ f caches = (a, caches') := by
  change (Program.withCaches f >>= fun a => pure (.ok a)).Runs caches log r caches' ↔ _
  rw [Program.runs_bind_iff]
  constructor
  · rintro ⟨a, between, first, second, ha, hr, rfl⟩
    obtain ⟨rfl, hf⟩ := Program.runs_withCaches_iff.mp ha
    obtain ⟨rfl, rfl, rfl⟩ := Program.runs_pure_iff.mp hr
    exact ⟨rfl, a, rfl, hf⟩
  · rintro ⟨rfl, a, rfl, hf⟩
    exact ⟨a, caches', [], [], Program.runs_withCaches_iff.mpr ⟨rfl, hf⟩,
      Program.runs_pure_iff.mpr ⟨rfl, rfl, rfl⟩, rfl⟩

theorem sendsOnly_bind {x : Action α} {f : α → Action β} (hx : x.run.SendsOnly P)
    (hf : ∀ a, (f a).run.SendsOnly P) : (x >>= f).run.SendsOnly P := by
  rw [ExceptT.run_bind]
  refine hx.bind fun result => ?_
  cases result with
  | ok a => exact hf a
  | error e => trivial

theorem sendsOnly_send (request : Option Request) :
    (send request).run.SendsOnly fun r => request = some r := by
  unfold send
  split
  · trivial
  · split
    · refine ⟨rfl, fun reply => ?_⟩
      cases reply <;> trivial
    · trivial

theorem sendsOnly_withCaches (f : Caches → α × Caches) : (withCaches f).run.SendsOnly P :=
  fun _ => trivial

theorem sendsOnly_retried {op : Action α} (hop : op.run.SendsOnly P) (p : RetryPolicy) :
    (retried p op).run.SendsOnly P :=
  Program.SendsOnly.retry hop p

end Action

end ForgeBoard
