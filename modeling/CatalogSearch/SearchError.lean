import CatalogSearch.Value

/-!
# Search errors

What a client is told when a search fails. Errors of the request are kept apart from errors of the
services behind it, and each kind has a code and an HTTP status of its own.
-/

namespace CatalogSearch

/-- A failure that the service reports by name. -/
inductive SearchError where
  | unspecified (message : String)
  /-- The request itself is malformed or unsafe. -/
  | invalidRequest (field message : String)
  /-- No embedding of the query could be had. -/
  | embeddingService (message : String)
  /-- The store could not be reached, or it refused or timed out the statement, if there is one. -/
  | storeQuery (message : String) (sql : Option String) (params : List Value)
deriving Repr

namespace SearchError

def message : SearchError → String
  | unspecified m => m
  | invalidRequest _ m => m
  | embeddingService m => m
  | storeQuery m .. => m

def code : SearchError → String
  | unspecified _ => "SEARCH_FAILED"
  | invalidRequest .. => "INVALID_REQUEST"
  | embeddingService _ => "EMBEDDING_SERVICE_FAILURE"
  | storeQuery .. => "STORE_QUERY_FAILURE"

def status : SearchError → Nat
  | unspecified _ => 500
  | invalidRequest .. => 400
  | embeddingService _ => 502
  | storeQuery .. => 500

/-- The body of the answer: the code, the message and, for a bad request, the field. Statement and
parameters are never shown. -/
def body : SearchError → Value
  | invalidRequest field m =>
    .record [("error", .text "INVALID_REQUEST"), ("message", .text m), ("field", .text field)]
  | e => .record [("error", .text e.code), ("message", .text e.message)]

end SearchError

end CatalogSearch
