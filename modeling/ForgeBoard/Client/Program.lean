import ForgeBoard.Client.Error
import ForgeBoard.Client.TtlCache

/-!
# Programs that talk to forges

A client operation is a `Program`: it ends with a result, or sends a request and goes on with the
reply, or sleeps, or uses the caches that all operations share. Each use of the caches is one step,
which no other operation comes between. A program is data; `Program.run` carries it out in a monad
that delivers requests.

Two things are taken as given:

* **Replies.** A request is handed to the library that speaks HTTP, and the reply is what that gives
  in the end. What goes over the wire meanwhile, the redirects that the library follows among it, is
  not seen here: where a request is said to be sent once, it is handed over once.
* **Time.** A whole operation has one `Clock`, the time at which it begins. An entry that it stores
  after a reply counts from that instant, not from the one of the reply, so it expires earlier than
  an entry that is dated when it is stored, by as long as the replies took.
-/

namespace ForgeBoard

open Http

/-- The caches that clients share. -/
structure Caches where
  logins : TtlCache String
  projectIds : TtlCache Nat
  userIds : TtlCache Nat

def Caches.empty : Caches := ⟨.empty, .empty, .empty⟩

/-- The time of an operation: milliseconds on the clock of the caches, and seconds since the
beginning of 1970. It stands for the whole operation, whatever time its requests and its delays
take. -/
structure Clock where
  instant : Nat
  now : Int

/-- A computation that sends requests, sleeps and uses the caches. `send` goes on with what becomes
of the request in the end, after all redirects. To use the caches is to change them and to go on
with what they were before, in one step. -/
inductive Program (α : Type) where
  | done (a : α)
  | send (request : Request) (next : Reply → Program α)
  | sleep (milliseconds : Nat) (next : Program α)
  | access (change : Caches → Caches) (next : Caches → Program α)

namespace Program

variable {α β : Type}

/-- Goes on with the result of a program. -/
def bind : Program α → (α → Program β) → Program β
  | done a, f => f a
  | send request next, f => send request fun reply => (next reply).bind f
  | sleep ms next, f => sleep ms (next.bind f)
  | access change next, f => access change fun caches => (next caches).bind f

instance : Monad Program where
  pure := done
  bind := bind

/-- Carries a program out, from caches to caches. -/
def run {m : Type → Type} [Monad m] (deliver : Request → m Reply) (pause : Nat → m Unit) :
    Program α → Caches → m (α × Caches)
  | done a, caches => pure (a, caches)
  | send request next, caches => do
    let reply ← deliver request
    run deliver pause (next reply) caches
  | sleep ms next, caches => do
    pause ms
    run deliver pause next caches
  | access change next, caches => run deliver pause (next caches) (change caches)

/-- Sleeps. -/
def pause (d : Delay) : Program Unit :=
  sleep d.milliseconds (done ())

/-- Looks at the caches and replaces them. -/
def withCaches (f : Caches → α × Caches) : Program α :=
  access (fun caches => (f caches).2) fun caches => done (f caches).1

end Program

/-- A program that may fail. -/
abbrev Action (α : Type) := ExceptT ClientError Program α

namespace Action

variable {α : Type}

/-- An action from what it ends with. -/
def ofExcept (r : Except ClientError α) : Action α :=
  ExceptT.mk (pure r)

/-- Sends a request. One that is malformed or cannot be sent, and one that gets no response, is an
error. -/
def send (request : Option Request) : Action Response :=
  match request with
  | none => throw (.http .malformedRequest)
  | some request =>
    if request.url.isSendable then
      ExceptT.mk (Program.send request fun
        | .response r => .done (.ok r)
        | .nothing => .done (.error (.http (.noResponse request.url.text))))
    else throw (.http (.unsendable request.url.text))

/-- Repeats an action as a policy allows. -/
def retried (p : RetryPolicy) (op : Action α) : Action α :=
  ExceptT.mk (p.retry Program.pause op.run)

/-- Looks at the caches and replaces them. -/
def withCaches (f : Caches → α × Caches) : Action α :=
  ExceptT.lift (Program.withCaches f)

end Action

end ForgeBoard
