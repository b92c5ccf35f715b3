import ForgeBoard.Dashboard.Config
import ForgeBoard.Http.Message
import ForgeBoard.Query.FilterText
import ForgeBoard.WorkItem.Basic

/-!
# Errors of the clients, and repeated reads

Why a client has no answer, whether the same request might succeed later, and whether it is sent
again. An error is retried when it says so itself, or, if it reports what a forge said, when the
message speaks of a passing condition. Errors that were found before anything was sent, or that
say that something does not exist, are never retried.

An operation is run again after an error that is worth it, with a delay before each repetition,
until the policy's number of attempts is used up. The monad is any in which operations run and
delays are slept.
-/

namespace ForgeBoard

open Http Query Text

inductive ClientError where
  | http (e : HttpError)
  | status (forge : String) (status : Nat) (retryAfter : Option Nat)
  | serialization (text : String)
  | graphql (text : String)
  | invalidResponse (text : String)
  | missingToken (instanceId : String)
  | missingProjectPath
  | projectNotFound (path : String)
  | userNotFound (username : String)
  | unsupportedAction (action : String) (itemType : ItemType)
  | missingCapability (instanceId action : String)
  | currentUser (instanceId reason : String)
  | filter (e : FilterError)
  | config (e : ConfigError)
  deriving DecidableEq

namespace ClientError

def message : ClientError → String
  | http e => s!"HTTP error: {e.message}"
  | status forge code retryAfter =>
    let suffix := match retryAfter with
      | some ms => s!" (retry after {ms}ms)"
      | none => ""
    s!"{forge} request failed: {statusText code}{suffix}"
  | serialization text => s!"Serialization error: {text}"
  | graphql text => s!"GraphQL error: {text}"
  | invalidResponse text => s!"Unexpected response: {text}"
  | missingToken id => s!"missing auth token for {id}"
  | missingProjectPath => "missing project path"
  | projectNotFound path => s!"project id not found for {quote path}"
  | userNotFound username => s!"user {quote username} not found"
  | unsupportedAction action itemType =>
    s!"{action} is not supported for {itemType.title}"
  | missingCapability id action => s!"{action} is not supported by {id}"
  | currentUser id reason => s!"resolve current user for {id}: {reason}"
  | filter e => e.message
  | config e => s!"Config error: {e.message}"

/-- The same request might succeed later: the forge is busy or broken, or did not answer. -/
def isTransient : ClientError → Bool
  | http (.noResponse _) => true
  | status _ code _ => code == 429 || (decide (500 ≤ code) && decide (code < 600))
  | _ => false

/-- The error was found on this side, or says that something does not exist. -/
def isFinal : ClientError → Bool
  | filter _ => true
  | config _ => true
  | missingToken _ => true
  | missingProjectPath => true
  | projectNotFound _ => true
  | userNotFound _ => true
  | unsupportedAction _ _ => true
  | missingCapability _ _ => true
  | _ => false

/-- Words in messages about passing conditions. -/
def transientWords : List String :=
  ["timeout", "temporary", "connection reset"]

/-- Whether the request is sent again. -/
def isRetried (e : ClientError) : Bool :=
  e.isTransient || (!e.isFinal &&
    let text := lowerFrom [] e.message.toList
    transientWords.any fun word => occursIn word.toList text)

end ClientError

end ForgeBoard

/-! ## Repeating failed reads -/

namespace ForgeBoard.RetryPolicy

variable {m : Type → Type} [Monad m] {α : Type}

/-- Runs an operation for the `attempt`-th time, and again up to `repeats` times. -/
def retryFrom (p : RetryPolicy) (sleep : Delay → m Unit) (op : m (Except ClientError α)) :
    (repeats : Nat) → (attempt : UInt32) → m (Except ClientError α)
  | 0, _ => op
  | repeats + 1, attempt => do
    match ← op with
    | .ok a => return .ok a
    | .error e =>
      if e.isRetried then
        sleep (p.backoff attempt)
        retryFrom p sleep op repeats (attempt + 1)
      else return .error e

/-- Runs an operation at least once, and as often as the policy allows while it fails with errors
that are retried. The last outcome is the result. -/
def retry (p : RetryPolicy) (sleep : Delay → m Unit) (op : m (Except ClientError α)) :
    m (Except ClientError α) :=
  p.retryFrom sleep op (p.maxAttempts.toNat - 1) 1

end ForgeBoard.RetryPolicy
