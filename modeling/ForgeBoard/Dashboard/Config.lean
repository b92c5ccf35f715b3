import ForgeBoard.Client.RetryPolicy
import ForgeBoard.Data.Decode
import ForgeBoard.Data.Toml
import ForgeBoard.Forge.Instance

/-!
# Configuration

The forges and the sections of a dashboard, the time-out of its requests and how they are repeated.
A configuration is read from data, in which no unknown field is allowed, and checked
(`Config.validate`). Then it is turned into instances, for which tokens are looked up among the
environment variables.
-/

namespace ForgeBoard

open Json Text

/-- Why there is no usable configuration. -/
inductive ConfigError where
  | missingPath
  | unreadable
  | malformed
  | invalidValue (field reason : String)
  | forge (e : ForgeError)
  deriving DecidableEq

def ConfigError.message : ConfigError → String
  | missingPath => "Missing configuration file path (use --config or PRDASH_CONFIG)"
  | unreadable => "Failed to read config file"
  | malformed => "Failed to parse config TOML"
  | invalidValue field reason => s!"Invalid config value for {field}: {reason}"
  | forge e => s!"Invalid provider: {e.message}"

/-- One forge as it is configured. -/
structure ForgeConfig where
  kind : ForgeKind
  host : String
  token : Option String
  tokenVariable : Option String
  user : Option String
  deriving DecidableEq

/-- What a section shows. -/
inductive SectionKind where
  | prs
  | issues
  deriving DecidableEq

def SectionKind.title : SectionKind → String
  | prs => "Prs"
  | issues => "Issues"

/-- One section of the dashboard. -/
structure SectionConfig where
  title : String
  kind : SectionKind
  filter : String
  limit : Option Nat
  deriving DecidableEq

structure Config where
  requestTimeout : Nat
  retry : RetryPolicy
  forges : List ForgeConfig
  sections : List SectionConfig
  deriving DecidableEq

namespace ForgeConfig

/-- How the forge is shown; a token is kept back. -/
def display (f : ForgeConfig) : String :=
  "ProviderConfig \x7b kind: " ++ f.kind.title ++ ", host: " ++ quote f.host ++
    ", token: " ++ Instance.displaySecret f.token ++
    ", token_env: " ++ Instance.displayOption f.tokenVariable ++
    ", user: " ++ Instance.displayOption f.user ++ " \x7d"

def ofJson? (v : Json) : Option ForgeConfig := do
  let r ← record? true ["kind", "host", "token", "token_env", "user"] v
  return {
    kind := ← r.required "kind" (oneOf? [("github", .github), ("gitlab", .gitlab)])
    host := ← r.required "host" string?
    token := ← r.optional "token" string?
    tokenVariable := ← r.optional "token_env" string?
    user := ← r.optional "user" string? }

/-- The instance of the forge, with its token looked up among the environment variables. -/
def toInstance (environment : String → Option String) (f : ForgeConfig) :
    Except ConfigError Instance :=
  match Instance.tryOfHost f.kind f.host with
  | .error e => .error (.forge e)
  | .ok i =>
    let token := f.token.or (f.tokenVariable.bind environment)
    let i := match token with
      | some token => i.withToken token
      | none => i
    .ok (match f.user with
      | some user => i.withUser user
      | none => i)

end ForgeConfig

def SectionConfig.ofJson? (v : Json) : Option SectionConfig := do
  let r ← record? true ["title", "kind", "filter", "limit"] v
  return {
    title := ← r.required "title" string?
    kind := ← r.required "kind" (oneOf? [("prs", .prs), ("issues", .issues)])
    filter := ← r.required "filter" string?
    limit := ← r.optional "limit" nat32? }

/-- Reads a retry policy, which has to state all its bounds. -/
def RetryPolicy.ofJson? (v : Json) : Option RetryPolicy := do
  let r ← record? true ["max_attempts", "base_delay_ms", "max_delay_ms"] v
  return {
    maxAttempts := (← r.required "max_attempts" nat32?).toUInt32
    baseDelay := .ofMilliseconds (← r.required "base_delay_ms" nat64?).toUInt64
    maxDelay := .ofMilliseconds (← r.required "max_delay_ms" nat64?).toUInt64 }

namespace Config

def ofJson? (v : Json) : Option Config := do
  let r ← record? true ["request_timeout_ms", "retry", "providers", "sections"] v
  return {
    requestTimeout := ← r.required "request_timeout_ms" nat64?
    retry := ← r.default "retry" RetryPolicy.ofJson? .standard
    forges := ← r.required "providers" (list? ForgeConfig.ofJson?)
    sections := ← r.required "sections" (list? SectionConfig.ofJson?) }

/-- Fails unless `ok` holds. -/
def require (ok : Bool) (field reason : String) : Except ConfigError Unit :=
  if ok then .ok () else .error (.invalidValue field reason)

/-- Checks one forge. -/
def checkForge (f : ForgeConfig) : Except ConfigError Unit := do
  require (!isBlankText f.host) "providers.host" "must not be empty"
  require (f.token.isNone || f.tokenVariable.isNone) "providers.token"
    "token and token_env are mutually exclusive"

/-- Checks the forges in order. -/
def checkForges : List ForgeConfig → Except ConfigError Unit
  | [] => .ok ()
  | f :: rest => do
    checkForge f
    checkForges rest

/-- Checks the values of a configuration and reports the first one that is out of bounds. -/
def validate (c : Config) : Except ConfigError Unit := do
  require (c.requestTimeout != 0) "request_timeout_ms" "must be > 0"
  require (c.retry.maxAttempts != 0) "retry.max_attempts" "must be >= 1"
  require (decide (c.retry.baseDelay ≤ c.retry.maxDelay)) "retry.max_delay_ms"
    "must be >= base_delay_ms"
  require (!c.forges.isEmpty) "providers" "at least one provider is required"
  checkForges c.forges
  require (!c.sections.isEmpty) "sections" "at least one section is required"
  require (c.sections.all fun s => !isBlankText s.title) "sections.title" "must not be empty"
  require (c.sections.all fun s => s.limit != some 0) "sections.limit" "must be > 0"

/-- The configuration that data hold, if they are the data of one and it passes the checks. -/
def ofData (data : Option Json) : Except ConfigError Config :=
  match data.bind ofJson? with
  | some c => do
    c.validate
    return c
  | none => .error .malformed

/-- Reads the text of a configuration file. -/
def ofToml (text : String) : Except ConfigError Config :=
  ofData (Toml.ofText? text)

/-- The instances of the forges, in order. -/
def instances (environment : String → Option String) (c : Config) :
    Except ConfigError (List Instance) :=
  c.forges.mapM (·.toInstance environment)

/-- The variable that names the configuration file when the command line does not. -/
def pathVariable : String := "PRDASH_CONFIG"

/-- The variable whose presence has the legacy syntax refused before filters are parsed. -/
def refuseLegacyVariable : String := "PRDASH_FF_DSL_VALIDATE"

/-- The path of the configuration file after `--config` on the command line. -/
def pathOfArguments? : List String → Option String
  | [] => none
  | arg :: rest => if arg = "--config" then rest.head? else pathOfArguments? rest

end Config

end ForgeBoard
