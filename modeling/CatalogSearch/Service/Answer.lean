import CatalogSearch.Search
import CatalogSearch.Service.Redirect

/-!
# Answers of the service

The service answers on three paths: a greeting, a health check and the search. Search errors are
shown with their own status and body; of all other failures a client learns nothing, unless the
service runs in debug mode. The path and the query of a request are taken as the web framework hands
them on, and its address only for a redirect.

* `Target`: what is asked for.
* `Service.handle`: the answer to a request, with what is logged and called on the way.
* `Service.lifespan`: the start of the service and its end.
-/

namespace CatalogSearch

/-- What a request asks for. -/
structure Target where
  /-- The address that is asked. -/
  url : Url
  path : String
  /-- Names and texts in the order of the query. -/
  query : List (String × String)
deriving Repr

namespace Target

/-- The text of a field; the last one of a name counts. -/
def field? (t : Target) (name : String) : Option String :=
  t.query.reverse.lookup name

/-- The raw parameters of a search; what the query does not name is null. -/
def parameters (t : Target) : Parameters :=
  Parameters.names.map fun name =>
    (name, match t.field? name with
      | some s => .text s
      | none => .null)

end Target

structure Answer where
  status : Nat
  /-- Null where the body is empty. -/
  body : Value
  /-- The address that a redirect leads to. -/
  location : Option String := none
deriving Repr

namespace Service

def greeting : Answer where
  status := 200
  body := .record [("service", .text "Resource Search Service"), ("version", .text "1.0.0"),
    ("status", .text "running")]

def health : Answer where
  status := 200
  body := .record [("status", .text "healthy"), ("service", .text "resource-search"),
    ("version", .text "1.0.0")]

def notFound : Answer where
  status := 404
  body := .record [("detail", .text "Not Found")]

def wrongMethod : Answer where
  status := 405
  body := .record [("detail", .text "Method Not Allowed")]

/-- The path without its trailing slashes is the right one. -/
def redirect (location : String) : Answer where
  status := 307
  body := .null
  location := some location

/-- What is served under a path. -/
inductive Route where
  | greeting
  | health
  | search
deriving DecidableEq, Repr

/-- The route of a path; one line feed at its end is overlooked. -/
def Route.ofPath? (path : String) : Option Route :=
  match String.ofList (dropFinalNewline path.toList) with
  | "/" => some .greeting
  | "/health" => some .health
  | "/search" => some .search
  | _ => none

/-- The answer to a search that succeeded, but for the time that it took. -/
def ofResponse (r : SearchResponse) : Answer where
  status := 200
  body := .record [("hits", .list (r.hits.map Hit.toRecord)), ("totalHits", .int r.hits.length),
    ("fuzzyEnabled", .bool r.fuzzy), ("semanticEnabled", .bool r.semantic)]

/-! ### Failures -/

section

-- what the library that checks rows says of one that is no hit
variable (report : Row → List Issue → String)

/-- What is shown of a failure that has no name of its own. -/
def internalMessage (debug : Bool) (f : Failure) : String :=
  if debug then f.message report else "An error occurred while searching"

/-- **The answer to a failure.** -/
def ofFailure (debug : Bool) : Failure → Answer
  | .reported e => { status := e.status, body := e.body }
  | f => {
    status := 500
    body := .record [("error", .text "INTERNAL_ERROR"),
      ("message", .text (internalMessage report debug f))] }

/-- What is logged of a failure. -/
def failureNote : Failure → LogLine
  | .reported (.invalidRequest field m) =>
    ⟨.service, .warning, "Rejected search request (" ++ field ++ "): " ++ m⟩
  | .reported e => ⟨.service, .error, "Search failed [" ++ e.code ++ "]: " ++ e.message⟩
  | f => ⟨.service, .error, "Unhandled exception: " ++ f.message report⟩

/-- What is answered and logged in the end, whatever has come of it. -/
def conclude (debug : Bool) (events : List Event) : Except Failure Answer → List Event × Answer
  | .ok a => (events, a)
  | .error f => (events ++ [.effect (.logged (failureNote report f))], ofFailure report debug f)

/-! ### Requests -/

/-- What is served for a target. -/
def serve (st : Settings) (sv : Services) (id method : String) (target : Target) :
    List Event × Answer :=
  match Route.ofPath? target.path with
  | some route =>
    if method ≠ "GET" then ([], wrongMethod)
    else
      match route with
      | .greeting => ([], greeting)
      | .health => ([], health)
      | .search =>
        let o := Search.run st sv id target.parameters
        conclude report st.debug o.events (o.result.map ofResponse)
  | none =>
    let bare := String.ofList (Text.dropTrailing '/' target.path.toList)
    if (Route.ofPath? bare).isSome then
      conclude report st.debug [] ((target.url.redirection bare).map redirect)
    else ([], notFound)

/-- **Answers a request** for a target; `id` marks the log lines of a search. An answer to HEAD has
no body. -/
def handle (st : Settings) (sv : Services) (id method : String) (target : Target) :
    List Event × Answer :=
  let (events, answer) := serve report st sv id method target
  (events, if method = "HEAD" then { answer with body := .null } else answer)

end

/-! ### Start and end -/

/-- An informative log line of the service itself. -/
def note (text : String) : LogLine := ⟨.service, .info, text⟩

/-- What is logged when the service starts, line by line. -/
def startNotes (st : Settings) : List (Except WritingRefusal LogLine) :=
  [ .ok (note "Resource Search Service starting up..."),
    .ok (note ("Environment: " ++ (if st.debug then "DEBUG" else "PRODUCTION"))),
    st.embeddingModel.written?.map fun model => note ("Embedding model: " ++ model),
    st.maxPageSize.written?.map fun size => note ("Max page size: " ++ size) ]

/-- Starts the service and stops it again: on the way out the shared pool is closed. A service that
does not start is not stopped. -/
def lifespan (st : Settings) (closed : Except Fault Unit) (pools : Pools) :
    Pools × Outcome Effect Unit :=
  let started : Outcome Effect Unit := Outcome.logAll (startNotes st)
  match started.result with
  | .error _ => (pools, started)
  | .ok _ =>
    let (pools', done) := pools.close closed
    let stopping := Outcome.log (.ok (note "Resource Search Service shutting down..."))
    (pools', started.andThen fun _ => stopping.andThen fun _ => done)

end Service

end CatalogSearch
