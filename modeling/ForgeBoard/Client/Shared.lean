import ForgeBoard.Client.Program
import ForgeBoard.Filter.Normal

/-!
# What all clients share

The login of the current user comes from the configuration of the instance, else from the cache,
else from the forge, which is asked at most once in ten minutes. Filters that do not speak of the
current user need no login.

How filters are read and requests repeated, the keys under which look-ups are cached, and how a
filter becomes the query of a backend: it is read, the current user is put in, the query is made,
and the routing is asked whether the instance is meant at all.
-/

/-! ## The user of an instance -/

namespace ForgeBoard.Identity

open ForgeBoard.Filter Text

/-- How long a login counts: ten minutes. -/
def lifetime : Nat := 10 * 60 * 1000

/-- The login that is known without asking the forge, and the cache after the look-up. -/
def known (i : Instance) (instant : Nat) (cache : TtlCache String) :
    Option String × TtlCache String :=
  match i.user with
  | some user => (some user, cache)
  | none => cache.get instant i.id

/-- What an answer of the forge says, without the blanks around it, and the cache that has learned
it. A failed question and a blank answer leave the cache as it is. -/
def learn (i : Instance) (instant : Nat) (answer : Except ClientError String)
    (cache : TtlCache String) : Except ClientError String × TtlCache String :=
  match answer with
  | .error e => (.error (.currentUser i.id e.message), cache)
  | .ok login =>
    let login := trim login
    if login.isEmpty then (.error (.currentUser i.id "empty username"), cache)
    else (.ok login, cache.set instant i.id login lifetime)

variable {m : Type → Type} [Monad m]

/-- The login of the user of an instance. `access` uses the cache, and `ask` asks the forge. The
instant is the one at which the look-up begins: a login that is learned counts from it, whenever the
forge answers. -/
def resolve (access : {β : Type} → (TtlCache String → β × TtlCache String) → m β)
    (ask : m (Except ClientError String)) (i : Instance) (instant : Nat) :
    m (Except ClientError String) := do
  match ← access (known i instant) with
  | some login => return .ok login
  | none =>
    let answer ← ask
    access (learn i instant answer)

/-- The expression with the current user replaced by the login of the user of an instance. -/
def expand (access : {β : Type} → (TtlCache String → β × TtlCache String) → m β)
    (ask : m (Except ClientError String)) (i : Instance) (instant : Nat) (e : Expr) :
    m (Except ClientError Expr) := do
  if e.needsUser then
    match ← resolve access ask i instant with
    | .ok login => return .ok (e.withUser login)
    | .error err => return .error err
  else return .ok e

/-- Uses the cache of logins. -/
def accessLogins {β : Type} (f : TtlCache String → β × TtlCache String) : Program β :=
  Program.withCaches fun caches =>
    ((f caches.logins).1, { caches with logins := (f caches.logins).2 })

/-- The expression with the current user replaced, as an action of a client. -/
def expandAction (ask : Action String) (i : Instance) (clock : Clock) (e : Expr) : Action Expr :=
  ExceptT.mk (expand accessLogins ask.run i clock.instant e)

end ForgeBoard.Identity

/-! ## Queries -/

namespace ForgeBoard

open ForgeBoard.Filter Query Text

/-- Settings that all clients are made with. -/
structure ClientSettings where
  retry : RetryPolicy
  refuseLegacy : Bool

/-- The key of an identifier, whose case does not matter, on one instance. -/
def scopedKey (instanceId identifier : String) : String :=
  instanceId ++ ":" ++ lower identifier

/-- The query of a filter text for an instance: `none` if the filter is routed away from it, and
`blank` for a text without a filter. -/
def prepareQuery {α : Type} (settings : ClientSettings) (ask : Action String)
    (translate : Int → Expr → Except QueryError (α × Routing)) (blank : α) (clock : Clock)
    (i : Instance) (filter : String) : Action (Option α) := do
  match readFilter settings.refuseLegacy filter with
  | .error e => throw (.filter e)
  | .ok none => return some blank
  | .ok (some e) =>
    let e ← Identity.expandAction ask i clock e
    match translate clock.now e with
    | .error e => throw (.filter (.query e))
    | .ok (query, routing) => return if routing.allows i then some query else none

end ForgeBoard
