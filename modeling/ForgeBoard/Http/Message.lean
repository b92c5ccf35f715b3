import ForgeBoard.Data.Json
import ForgeBoard.Http.Url
import ForgeBoard.Text.Parts

/-!
# Requests and responses

What a client sends and what comes back. A request can fail before it is sent (its address or one
of its headers is malformed, or no request can carry its address), on the way (no response
arrives), and after (the body is not what was expected).
-/

namespace ForgeBoard.Http

open Text

/-- The methods in use. -/
inductive Method where
  | get
  | post
  | put
  deriving DecidableEq

def Method.name : Method → String
  | get => "GET"
  | post => "POST"
  | put => "PUT"

/-- The body of a request. -/
inductive Body where
  | empty
  | form (pairs : List (String × String))
  | json (v : Json)

/-- A request. Header names are in lower case. -/
structure Request where
  method : Method
  url : Url
  headers : List (String × String)
  body : Body

/-- A response. Header names are in lower case. -/
structure Response where
  status : Nat
  headers : List (String × String)
  body : String

/-- What becomes of a request that is sent: the response in the end, which is that of the last
address if there were redirects, or nothing. -/
inductive Reply where
  | response (r : Response)
  | nothing

/-- Why a request brought no usable response. -/
inductive HttpError where
  | malformedRequest
  | unsendable (url : String)
  | noResponse (url : String)
  | unreadableBody
  deriving DecidableEq

def HttpError.message : HttpError → String
  | malformedRequest => "builder error"
  | unsendable url => s!"builder error for url ({url})"
  | noResponse url => s!"error sending request for url ({url})"
  | unreadableBody => "error decoding response body"

/-- The header that names this program. -/
def userAgent : String × String := ("user-agent", "prdash/0.4.0")

/-- The value of a header can be sent: it has no control characters but tabs. -/
def isHeaderValue (s : String) : Bool :=
  s.toList.all fun c => c == '\t' || (decide (32 ≤ c.toNat) && decide (c.toNat ≠ 127))

namespace Request

/-- Makes a request out of the text of an address, unless the text or a header is malformed.
Credentials move from the address to a header. -/
def build? (method : Method) (url : String) (headers : List (String × String)) (body : Body) :
    Option Request :=
  if headers.all fun h => isHeaderValue h.2 then
    (Url.ofText? url).map fun url =>
      match url.credentials.bind Credentials.plain? with
      | some (name, password) =>
        let authorization := ("authorization", Credentials.headerValue name password)
        ⟨method, { url with credentials := none }, userAgent :: authorization :: headers, body⟩
      | none => ⟨method, url, userAgent :: headers, body⟩
  else none

def header? (r : Request) (name : String) : Option String :=
  r.headers.lookup name

end Request

namespace Response

def header? (r : Response) (name : String) : Option String :=
  r.headers.lookup name

def isSuccess (r : Response) : Bool :=
  decide (200 ≤ r.status) && decide (r.status < 300)

end Response

/-- The standard phrases for status codes. -/
def reasonPhrases : List (Nat × String) := [
  (100, "Continue"), (101, "Switching Protocols"), (102, "Processing"), (103, "Early Hints"),
  (200, "OK"), (201, "Created"), (202, "Accepted"), (203, "Non Authoritative Information"),
  (204, "No Content"), (205, "Reset Content"), (206, "Partial Content"), (207, "Multi-Status"),
  (208, "Already Reported"), (226, "IM Used"), (300, "Multiple Choices"),
  (301, "Moved Permanently"), (302, "Found"), (303, "See Other"), (304, "Not Modified"),
  (305, "Use Proxy"), (307, "Temporary Redirect"), (308, "Permanent Redirect"),
  (400, "Bad Request"), (401, "Unauthorized"), (402, "Payment Required"), (403, "Forbidden"),
  (404, "Not Found"), (405, "Method Not Allowed"), (406, "Not Acceptable"),
  (407, "Proxy Authentication Required"), (408, "Request Timeout"), (409, "Conflict"),
  (410, "Gone"), (411, "Length Required"), (412, "Precondition Failed"),
  (413, "Payload Too Large"), (414, "URI Too Long"), (415, "Unsupported Media Type"),
  (416, "Range Not Satisfiable"), (417, "Expectation Failed"), (418, "I'm a teapot"),
  (421, "Misdirected Request"), (422, "Unprocessable Entity"), (423, "Locked"),
  (424, "Failed Dependency"), (425, "Too Early"), (426, "Upgrade Required"),
  (428, "Precondition Required"), (429, "Too Many Requests"),
  (431, "Request Header Fields Too Large"), (451, "Unavailable For Legal Reasons"),
  (500, "Internal Server Error"), (501, "Not Implemented"), (502, "Bad Gateway"),
  (503, "Service Unavailable"), (504, "Gateway Timeout"), (505, "HTTP Version Not Supported"),
  (506, "Variant Also Negotiates"), (507, "Insufficient Storage"), (508, "Loop Detected"),
  (510, "Not Extended"), (511, "Network Authentication Required")]

/-- A status code and its phrase. -/
def statusText (status : Nat) : String :=
  String.ofList (digits status) ++ " " ++
    (reasonPhrases.lookup status).getD "<unknown status code>"

/-- A configured host without the blanks around it and the slashes at its end. -/
def bareHost (host : String) : String :=
  String.ofList (dropEndWhile (· == '/') (trimChars host.toList))

/-- The bare host, with `https://` in front unless it names a scheme itself. -/
def withScheme (host : String) : String :=
  let host := bareHost host
  if "http://".toList.isPrefixOf host.toList || "https://".toList.isPrefixOf host.toList then host
  else "https://" ++ host

end ForgeBoard.Http
