import ForgeBoard.Data.Json
import ForgeBoard.Filter.Lexer
import ForgeBoard.Query.FilterText
import ForgeBoard.Query.Listing
import ForgeBoard.Query.Search

/-!
# Tracing a filter

A command that shows how a filter is read, normalized and turned into the queries of both backends,
and, on demand, whether its routing selects a given instance. `Tracer.Request.ofArguments` reads the
command line, and `Tracer.Request.answer` is what the command prints.
-/

namespace ForgeBoard.Tracer

open ForgeBoard.Filter Query

/-- What a command prints and the code it ends with. -/
structure Answer where
  exit : UInt32
  stdout : String
  stderr : String
  deriving DecidableEq

/-- What the command line asks for. -/
inductive Request where
  | keywords
  | misuse
  | unknownInstance (e : ForgeError)
  | trace (filter : String) (target : Option Instance)

/-- Reads arguments after those that gave a target and a filter. A request for the keywords counts
wherever it stands, unless an error stands before it. -/
def Request.ofArgumentsFrom (target : Option Instance) (filter : Option String) :
    List String → Request
  | [] =>
    match filter with
    | some text => .trace text target
    | none => .misuse
  | arg :: rest =>
    if arg = "--keywords" then .keywords
    else if arg = "--provider" then
      match rest with
      | [] => .misuse
      | id :: rest =>
        match Instance.ofId id with
        | .ok i => ofArgumentsFrom (some i) filter rest
        | .error e => .unknownInstance e
    else
      match filter with
      | some _ => .misuse
      | none => ofArgumentsFrom target (some arg) rest

/-- Reads a command line. -/
def Request.ofArguments (args : List String) : Request :=
  ofArgumentsFrom none none args

/-- How the command is used. -/
def usage : String :=
  "Usage: cargo run --bin translate_filter -- [--provider kind:host] '<filter>'\n" ++
  "       cargo run --bin translate_filter -- --keywords\n" ++
  "\n" ++
  "Example:\n" ++
  "  cargo run --bin translate_filter -- 'state = \"open\" and author = \"me\"'\n"

/-- The rule over and under the title. -/
def rule : String :=
  String.ofList (List.replicate 63 '═')

/-- The title of every trace. -/
def banner : String :=
  "╔" ++ rule ++ "\n║ FILTER TRANSLATION TRACER\n╚" ++ rule ++ "\n\n"

/-- A heading, a text under it, and an empty line. -/
def paragraph (heading text : String) : String :=
  heading ++ "\n" ++ text ++ "\n\n"

/-- The warning about legacy syntax, if there is any. -/
def legacyWarning (filter : String) : String :=
  match checkLegacy filter with
  | .ok _ => ""
  | .error fault => "⚠️  LEGACY SYNTAX: " ++ fault.message ++ "\n\n"

/-- The complaint about a filter that cannot be read, with a mark under the place. The mark stands
as many columns to the right as there are bytes before the place. -/
def complaint (filter : String) (e : ParseError) : String :=
  "❌ Parse failed: " ++ e.message ++ "\n   " ++ filter ++ "\n   " ++
    String.ofList (List.replicate e.offset ' ') ++ "^\n"

/-- A routing as data. -/
def routingData (r : Routing) : Json :=
  .object [("exclude", .strings r.excludes), ("include", .strings r.includes)]

/-- A search string as data. -/
def searchData (q : SearchQuery) : Json :=
  .object [("provider_filter", routingData q.routing), ("query", .string q.query)]

/-- A listing as data. -/
def listingData (q : ListingQuery) : Json :=
  .object [("params", .object (q.listing.params.map fun p => (p.1, .string p.2))),
    ("project_path", .option .string q.listing.project),
    ("provider_filter", routingData q.routing)]

/-- A query or the reason why there is none, as data. -/
def resultData {α : Type} (encode : α → Json) : Except QueryError α → Json
  | .ok a => .object [("Ok", encode a)]
  | .error e => .object [("Err", .string e.message)]

/-- The queries of both backends as data. -/
def queries (now : Int) (e : Expr) : Json :=
  .object [("github", resultData searchData (SearchQuery.ofExpr now e)),
    ("gitlab", resultData listingData (ListingQuery.ofExpr now e))]

/-- The routing of a filter that has a query on one of the backends, or the reason why it has none
on the second. -/
def routing (now : Int) (e : Expr) : Except QueryError Routing :=
  match SearchQuery.ofExpr now e with
  | .ok q => .ok q.routing
  | .error _ => (ListingQuery.ofExpr now e).map (·.routing)

/-- What is said about an instance. -/
def verdict (i : Instance) (r : Routing) : String :=
  "\n🧭 " ++ i.id ++ " is " ++ (if r.allows i then "selected" else "skipped") ++ "\n"

/-- The trace of a filter that was read. -/
def traceOf (now : Int) (e : Expr) : String :=
  paragraph "🔍 CANONICAL:" e.canonical ++
    paragraph "🔧 NORMALIZED:" e.normalize.canonical ++
    "📦 TRANSLATIONS:\n" ++ (queries now e).pretty 0 ++ "\n"

/-- What is printed about a filter at the instant `now`. -/
def trace (now : Int) (filter : String) (target : Option Instance) : Answer :=
  let head := banner ++ paragraph "📝 INPUT FILTER:" filter ++ legacyWarning filter
  match parse filter with
  | .error e => ⟨1, head, complaint filter e⟩
  | .ok e =>
    let text := head ++ traceOf now e
    match target with
    | none => ⟨0, text, ""⟩
    | some i =>
      match routing now e with
      | .ok r => ⟨0, text ++ verdict i r, ""⟩
      | .error err => ⟨0, text, "\n❌ Provider routing failed: " ++ err.message ++ "\n"⟩

/-- What the command prints. -/
def Request.answer (now : Int) : Request → Answer
  | keywords => ⟨0, String.join (reservedWords.map (· ++ "\n")), ""⟩
  | misuse => ⟨1, "", usage⟩
  | unknownInstance e => ⟨1, "", "❌ " ++ e.message ++ "\n"⟩
  | trace filter target => Tracer.trace now filter target

end ForgeBoard.Tracer
