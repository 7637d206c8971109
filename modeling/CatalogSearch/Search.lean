import CatalogSearch.Embedding
import CatalogSearch.Store.Pool

/-!
# Searches

One search from raw parameters to hits: the parameters are normalised, a semantic search has its
query embedded, the request is compiled, and the rows of its statement are read as hits. Nothing
is called before the parameters are accepted, no call is made twice, and the first failure ends
the search.
-/

namespace CatalogSearch

/-- The services that a search uses: embeddings of texts, and rows of statements. -/
structure Services where
  embed : Value → Outcome Effect (List Value)
  rows : Statement → Outcome Effect (List Row)

/-- What happens in a search: it calls one of its services, or something is seen of it or of the
service it has called. -/
inductive Event where
  | embeds (text : Value)
  | fetches (statement : Statement)
  | effect (e : Effect)
deriving Repr

/-- What comes of a search. How long it took is left out, as is the log line that tells it: that is
read off a clock. -/
structure SearchResponse where
  hits : List Hit
  fuzzy : Bool
  semantic : Bool
deriving Repr

namespace Search

/-- Reads rows as hits; the first bad row refuses them all. -/
def readRows : List Row → Except Failure (List Hit)
  | [] => .ok []
  | row :: rows =>
    match Hit.ofRow row with
    | .error issues => .error (.badRow row issues)
    | .ok hit =>
      match readRows rows with
      | .ok hits => .ok (hit :: hits)
      | .error e => .error e

/-- What is logged when a search starts. -/
def startNote (id : String) (r : SearchRequest) (p : PredicateSet) :
    Except WritingRefusal LogLine := do
  let query ← r.query.shown?
  let limit ← r.limit.written?
  let offset ← r.offset.written?
  return ⟨.search, .info,
    "[" ++ id ++ "] Search strategy=" ++ r.strategy.name ++ " query=" ++ query ++ " filters=" ++
      toString p.values.length ++ " limit=" ++ limit ++ " offset=" ++ offset⟩

/-- The embedding of the query, asked for only if the search is semantic. -/
def queryVector (sv : Services) (r : SearchRequest) : Outcome Event (Option Value) :=
  match r.strategy with
  | .semantic =>
    (((sv.embed r.query).within Event.effect).after [.embeds r.query]).andThen fun vector =>
      .ok (some (.list vector))
  | _ => .ok none

/-- The rows of a plan as the hits of a response. -/
def execute (sv : Services) (r : SearchRequest) (plan : Plan) : Outcome Event SearchResponse :=
  let stmt : Statement := ⟨plan.sql, plan.params⟩
  (((sv.rows stmt).within Event.effect).after [.fetches stmt]).andThen fun rows =>
    match readRows rows with
    | .ok hits => .ok ⟨hits, r.fuzzy, r.semantic⟩
    | .error e => .fail e

/-- A search whose start has been logged. -/
def proceed (st : Settings) (sv : Services) (r : SearchRequest) : Outcome Event SearchResponse :=
  (queryVector sv r).andThen fun vector =>
    match Query.compile r (r.predicates 1) vector
      (Query.effectiveLanguage .null st.searchLanguage) with
    | .error why => .fail (.compile why)
    | .ok plan => execute sv r plan

/-- A search whose request is known. Its start is logged before anything is called. -/
def ofRequest (st : Settings) (sv : Services) (id : String) (r : SearchRequest) :
    Outcome Event SearchResponse :=
  ((Outcome.log (startNote id r (r.predicates 1))).within Event.effect).andThen fun _ =>
    proceed st sv r

/-- **Runs a search** of raw parameters; `id` marks its log lines. -/
def run (st : Settings) (sv : Services) (id : String) (ps : Parameters) :
    Outcome Event SearchResponse :=
  match ps.normalize st.defaultPageSize st.maxPageSize with
  | .error (.rejected why) => .fail (.reported why.toError)
  | .error (.notComparable why) => .fail (.notComparable why)
  | .error (.unwritable why) => .fail (.unwritten why)
  | .ok r => ofRequest st sv id r

end Search

/-- How much room the stack leaves: for containers in one another where a document is read, and for
values in one another where parameters are logged. -/
structure Room where
  reading : Nat
  writing : Nat

/-- The services behind a search: the embedding service, and the store by way of the shared
pool. -/
def Services.of (st : Settings) (room : Room) (embedder : EmbeddingRequest → EmbeddingReply)
    (connect : Connector) (pools : Pools) : Services where
  embed := Embedding.fetch st room.reading embedder
  rows := fun stmt => (pools.fetch st room.writing connect stmt).2

end CatalogSearch
