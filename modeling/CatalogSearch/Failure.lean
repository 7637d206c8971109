import CatalogSearch.Hit
import CatalogSearch.Json.Document
import CatalogSearch.Query.Plan
import CatalogSearch.Url
import CatalogSearch.Value.Order

/-!
# Failures

Everything that can end a search early. Faults come from the services behind the search; of these
some are turned into a `SearchError`, and the rest pass through as they are.
-/

namespace CatalogSearch

/-- The kinds of faults that a client of a service raises. -/
inductive FaultKind where
  /-- The service did not answer in time. -/
  | timedOut
  /-- The connection or another resource of the system failed. -/
  | system
  /-- The database refused. -/
  | database
  /-- The client of the database was misused, such as after its pool was closed. -/
  | interface
  /-- The transport to a web service failed. -/
  | transport
  /-- A value was not acceptable to the client. -/
  | value
  /-- Anything else. -/
  | other
deriving DecidableEq, Repr

/-- A fault with its text. -/
structure Fault where
  kind : FaultKind
  text : String
deriving DecidableEq, Repr

/-- A reason why a search ends without a response. -/
inductive Failure where
  /-- Reported to the client by name. -/
  | reported (error : SearchError)
  | compile (why : CompileRefusal)
  /-- A setting cannot be compared with what it limits. -/
  | notComparable (why : ComparisonRefusal)
  | notFloat (why : FloatRefusal)
  | notInt (why : IntRefusal)
  /-- A setting that has to be a text is of another kind. -/
  | notText (kind : String)
  /-- The address of the embedding service is none. -/
  | badAddress (why : UrlRefusal)
  /-- The document of the embedding service is nested too deeply. -/
  | tooDeep (container : Json.Container)
  /-- Something that was to be logged or sent cannot be written. -/
  | unwritten (why : WritingRefusal)
  /-- A fault of a service that is not turned into a search error. -/
  | fault (f : Fault)
  /-- An answer of the store is no row. -/
  | noRow (why : RowRefusal)
  /-- A row of the store is no hit. -/
  | badRow (row : Row) (issues : List Issue)
  /-- The usual port of a scheme is not known. -/
  | unknownPort (scheme : String)
deriving Repr

namespace Failure

/-- The text of a failure. That of a row which is no hit is the checking library's own; `report`
stands for it. -/
def message (report : Row → List Issue → String) : Failure → String
  | reported e => e.message
  | compile why => why.message
  | notComparable why => why.message
  | notFloat why => why.message
  | notInt why => why.message
  | notText k => "'" ++ k ++ "' object has no attribute 'rstrip'"
  | badAddress why => why.message
  | tooDeep c => Json.nestingMessage c
  | unwritten why => why.message
  | fault f => f.text
  | noRow why => why.message
  | badRow row issues => report row issues
  | unknownPort scheme => Text.quoted scheme

end Failure

end CatalogSearch
