import ForgeBoard.Forge.Kind
import ForgeBoard.Text.Quoted

/-!
# Forge instances

An instance is one forge at one host, known by its id `kind:host`. It may carry a token for
requests and the login of its user.
-/

namespace ForgeBoard

open Text

/-- One configured forge. -/
structure Instance where
  id : String
  kind : ForgeKind
  host : String
  displayName : String
  user : Option String
  token : Option String
  authenticated : Bool
  capabilities : Capabilities
  deriving DecidableEq

namespace Instance

/-- The instance of a kind at a host, with no token and no user. -/
def ofHost (kind : ForgeKind) (host : String) : Instance :=
  { id := kind.name ++ ":" ++ host
    kind
    host
    displayName := host
    user := none
    token := none
    authenticated := false
    capabilities := Capabilities.ofKind kind }

/-- The instance at a host without the blanks around it; a blank host is refused. -/
def tryOfHost (kind : ForgeKind) (host : String) : Except ForgeError Instance :=
  let host := trim host
  if host.isEmpty then .error .emptyHost else .ok (ofHost kind host)

/-- Reads an id: the kind stands before the first colon, the host after it. -/
def ofId (id : String) : Except ForgeError Instance :=
  match id.toList.dropWhile (· != ':') with
  | [] => .error .emptyHost
  | _ :: host => do
    let kind ← ForgeKind.ofText (String.ofList (id.toList.takeWhile (· != ':')))
    tryOfHost kind (String.ofList host)

/-- Adds a token. A blank one does not authenticate. -/
def withToken (i : Instance) (token : String) : Instance :=
  { i with token := some token, authenticated := !isBlankText token }

/-- Sets the user, unless the name is blank. -/
def withUser (i : Instance) (user : String) : Instance :=
  { i with user := if isBlankText user then none else some user }

def supports (i : Instance) (c : Capability) : Bool :=
  i.capabilities.has c

/-- An optional text as it is shown. -/
def displayOption : Option String → String
  | none => "None"
  | some s => s!"Some({quote s})"

/-- An optional secret as it is shown. -/
def displaySecret (secret : Option String) : String :=
  displayOption (secret.map fun _ => "[REDACTED]")

/-- How the instance is shown in messages; the token is kept back. -/
def display (i : Instance) : String :=
  "ProviderInstance \x7b id: " ++ quote i.id ++ ", kind: " ++ i.kind.title ++
    ", host: " ++ quote i.host ++ ", user: " ++ displayOption i.user ++
    ", auth_token: " ++ displaySecret i.token ++
    ", authenticated: " ++ (if i.authenticated then "true" else "false") ++
    ", capabilities: " ++ i.capabilities.display ++ " \x7d"

end Instance

end ForgeBoard
