import ForgeBoard.Http.Host

/-!
# Web addresses

An address in parts, as it is made out of a configured host and the path of a request: the host
in its one form, no default port, no `.` and `..` segments, and every character encoded that has no
place where it stands. A request can carry only some of these addresses.

A name and a password may stand before the host of an address. They are sent in a header and not
with the address.
-/

namespace ForgeBoard.Http

open Text

/-! ## Credentials -/

/-- A name and perhaps a password, as they stand in an address. -/
structure Credentials where
  name : String
  password : Option String
  deriving DecidableEq

namespace Credentials

/-- The name and the password that are meant, if the name is text and either is there. -/
def plain? (c : Credentials) : Option (List Char × Option (List Char)) :=
  (decodePercent? c.name.toList).bind fun name =>
    let password := c.password.bind fun p => decodePercent? p.toList
    if name.isEmpty && password.isNone then none else some (name, password)

/-- The value of the header that carries a name and a password. -/
def headerValue (name : List Char) (password : Option (List Char)) : String :=
  "Basic " ++ String.ofList
    (encodeBase64 ((name ++ ':' :: password.getD []).flatMap String.utf8EncodeChar))

/-- The credentials as they stand in an address. -/
def text (c : Credentials) : String :=
  c.name ++ (match c.password with | some p => ":" ++ p | none => "") ++ "@"

end Credentials

/-! ## Addresses -/

/-- An address under `http` or `https`. -/
structure Url where
  scheme : String
  credentials : Option Credentials
  host : Host
  port : Option Nat
  path : List String
  query : Option String
  fragment : Option String
  deriving DecidableEq

namespace Url

/-- A slash either way. -/
def isSlash (c : Char) : Bool :=
  c == '/' || c == '\\'

/-- A character that ends the host. -/
def endsHost (c : Char) : Bool :=
  isSlash c || c == '?' || c == '#'

/-- A character that is encoded in a fragment, beyond controls and everything above ASCII. -/
def isFragmentSpecial (c : Char) : Bool :=
  " \"<>\x60".toList.contains c

/-- A character that is encoded in a path, beyond controls and everything above ASCII. -/
def isPathSpecial (c : Char) : Bool :=
  isFragmentSpecial c || "#?\x7b\x7d".toList.contains c

/-- A character that is encoded in credentials, beyond controls and everything above ASCII. -/
def isCredentialSpecial (c : Char) : Bool :=
  isPathSpecial c || "/:;=@[\\]^|".toList.contains c

/-- A character that is encoded in a query, beyond controls and everything above ASCII. -/
def isQuerySpecial (c : Char) : Bool :=
  " \"#<>'".toList.contains c

/-- Encodes the characters that `special` names, controls, and everything above ASCII. -/
def encode (special : Char → Bool) (cs : List Char) : String :=
  String.ofList (cs.flatMap fun c =>
    if decide (c.toNat < 32) || decide (126 < c.toNat) || special c then percentChar c else [c])

/-- A segment that stands for the folder it is in. -/
def isDot (segment : List Char) : Bool :=
  let s := segment.map Char.toLower
  s == ['.'] || s == "%2e".toList

/-- A segment that stands for the folder above. -/
def isDoubleDot (segment : List Char) : Bool :=
  let s := segment.map Char.toLower
  s == "..".toList || s == ".%2e".toList || s == "%2e.".toList || s == "%2e%2e".toList

/-- A segment that names a drive: a letter and a colon or a bar. -/
def isDrive (segment : String) : Bool :=
  match segment.toList with
  | [a, b] => a.isAlpha && (b == ':' || b == '|')
  | _ => false

/-- The segments above the last one, which comes first. A drive has nothing above it. -/
def leave : List String → List String
  | [] => []
  | segment :: done => if isDrive segment then segment :: done else done

/-- The segments of a path without those that stand for folders; `done` is what has been settled,
last segment first. -/
def settle (done : List String) : List (List Char) → List String
  | [] => done.reverse
  | segment :: rest =>
    if isDoubleDot segment then
      if rest.isEmpty then ("" :: leave done).reverse else settle (leave done) rest
    else if isDot segment then
      if rest.isEmpty then ("" :: done).reverse else settle done rest
    else settle (encode isPathSpecial segment :: done) rest

/-- The port that a scheme uses when none is stated. -/
def defaultPort (scheme : String) : Nat :=
  if scheme = "http" then 80 else 443

/-- Reads a port: up to 65535, and nothing for the default one or none. -/
def readPort? (scheme : String) (cs : List Char) : Option (Option Nat) :=
  if cs.isEmpty then some none
  else
    match readNat? cs with
    | some n =>
      if 65535 < n then none else if n = defaultPort scheme then some none else some (some n)
    | none => none

/-- A host, and what follows it from a colon on. Colons in brackets belong to the host. -/
def splitPort (inBrackets : Bool) : List Char → List Char × List Char
  | [] => ([], [])
  | c :: cs =>
    if c == ':' && !inBrackets then ([], c :: cs)
    else
      let (host, port) := splitPort (c == '[' || (inBrackets && c != ']')) cs
      (c :: host, port)

/-- Reads a host and its port. -/
def readHost? (scheme : String) (cs : List Char) : Option (Host × Option Nat) := do
  let (host, port) := splitPort false cs
  return (← Host.ofText? host, ← readPort? scheme (port.drop 1))

/-- Reads a name, and a password after the first colon. -/
def readCredentials (cs : List Char) : Option Credentials :=
  let name := encode isCredentialSpecial (cs.takeWhile (· != ':'))
  let password := encode isCredentialSpecial ((cs.dropWhile (· != ':')).drop 1)
  if name.isEmpty && password.isEmpty then none
  else some ⟨name, if password.isEmpty then none else some password⟩

/-- The text after a mark, if the mark is there. -/
def after? (mark : Char) (cs : List Char) : Option (List Char) :=
  match cs.dropWhile (· != mark) with
  | _ :: rest => some rest
  | [] => none

/-- Reads an address after its scheme and the slashes that follow. -/
def readAfterScheme? (scheme : String) (cs : List Char) : Option Url :=
  let authority := cs.takeWhile (!endsHost ·)
  let rest := cs.dropWhile (!endsHost ·)
  let host := (authority.reverse.takeWhile (· != '@')).reverse
  let credentials := authority.take (authority.length - host.length - 1)
  let beforeFragment := rest.takeWhile (· != '#')
  let path := beforeFragment.takeWhile (· != '?')
  (readHost? scheme host).map fun (host, port) =>
    { scheme
      credentials := readCredentials credentials
      host
      port
      path := settle [] (pieces isSlash (path.drop 1))
      query := (after? '?' beforeFragment).map (encode isQuerySpecial)
      fragment := (after? '#' rest).map (encode isFragmentSpecial) }

/-- A control character or a space. -/
def isOuterBlank (c : Char) : Bool :=
  decide (c.toNat ≤ 32)

/-- Reads an address under `http` or `https`. Control characters and spaces around it do not count,
nor do tabs and ends of lines. -/
def ofText? (s : String) : Option Url :=
  let cs := (dropEndWhile isOuterBlank (s.toList.dropWhile isOuterBlank)).filter fun c =>
    c != '\t' && c != '\n' && c != '\r'
  if "https://".toList.isPrefixOf cs then
    readAfterScheme? "https" ((cs.drop 8).dropWhile isSlash)
  else if "http://".toList.isPrefixOf cs then
    readAfterScheme? "http" ((cs.drop 7).dropWhile isSlash)
  else none

/-- The address with pairs added to its query, and without a query if that leaves it empty. -/
def withQuery (u : Url) (pairs : List (String × String)) : Url :=
  let parts := [u.query.getD "", encodeForm pairs].filter (!·.isEmpty)
  { u with query := if parts.isEmpty then none else some (String.intercalate "&" parts) }

/-- The host and the port, as a server is named. -/
def server (u : Url) : String :=
  match u.port with
  | some n => u.host.text ++ ":" ++ String.ofList (digits n)
  | none => u.host.text

/-- The written form. -/
def text (u : Url) : String :=
  u.scheme ++ "://" ++ (match u.credentials with | some c => c.text | none => "") ++ u.server ++
    String.join (u.path.map ("/" ++ ·)) ++
    (match u.query with | some q => "?" ++ q | none => "") ++
    (match u.fragment with | some f => "#" ++ f | none => "")

/-- The greatest length of an address that a request can carry. -/
def maxLength : Nat := 65534

/-- A request can carry the address. -/
def isSendable (u : Url) : Bool :=
  !u.host.text.toList.any Host.isUnsendable && u.text.utf8ByteSize ≤ maxLength

end Url

end ForgeBoard.Http
