import CatalogSearch.Embedding
import CatalogSearch.Failure
import CatalogSearch.Filters
import CatalogSearch.Hit
import CatalogSearch.HostName
import CatalogSearch.HostName.Context
import CatalogSearch.HostName.Direction
import CatalogSearch.HostName.Label
import CatalogSearch.HostName.Permitted
import CatalogSearch.HostName.Punycode
import CatalogSearch.Json.Document
import CatalogSearch.Json.Token
import CatalogSearch.Number.Binary64
import CatalogSearch.Number.Decimal
import CatalogSearch.Number.Shortest
import CatalogSearch.Number.Whole
import CatalogSearch.Number.Written
import CatalogSearch.Outcome
import CatalogSearch.Predicates
import CatalogSearch.Proofs.Answers
import CatalogSearch.Proofs.Batching
import CatalogSearch.Proofs.Breakdown
import CatalogSearch.Proofs.Calls
import CatalogSearch.Proofs.Closings
import CatalogSearch.Proofs.Compilation
import CatalogSearch.Proofs.Counts
import CatalogSearch.Proofs.Cursor
import CatalogSearch.Proofs.Disclosure
import CatalogSearch.Proofs.Embedding
import CatalogSearch.Proofs.EmbeddingFaults
import CatalogSearch.Proofs.FailureNotes
import CatalogSearch.Proofs.Guard
import CatalogSearch.Proofs.Hits
import CatalogSearch.Proofs.Independence
import CatalogSearch.Proofs.Json.Nesting
import CatalogSearch.Proofs.Json.Reading
import CatalogSearch.Proofs.Language
import CatalogSearch.Proofs.Normalization
import CatalogSearch.Proofs.Number.Numeral
import CatalogSearch.Proofs.Number.Overflow
import CatalogSearch.Proofs.Numbering
import CatalogSearch.Proofs.Openings
import CatalogSearch.Proofs.Ordering
import CatalogSearch.Proofs.Page
import CatalogSearch.Proofs.Pieces
import CatalogSearch.Proofs.Quoting
import CatalogSearch.Proofs.References
import CatalogSearch.Proofs.Relevance
import CatalogSearch.Proofs.Renumbering
import CatalogSearch.Proofs.RoundTrip
import CatalogSearch.Proofs.Scan
import CatalogSearch.Proofs.Selection
import CatalogSearch.Proofs.Shape
import CatalogSearch.Proofs.SharedPool
import CatalogSearch.Proofs.Slots
import CatalogSearch.Proofs.Sorting
import CatalogSearch.Proofs.Sql.Condition
import CatalogSearch.Proofs.Sql.Projection
import CatalogSearch.Proofs.Sql.Token
import CatalogSearch.Proofs.Statement
import CatalogSearch.Proofs.StoreFaults
import CatalogSearch.Proofs.TagLists
import CatalogSearch.Proofs.Template
import CatalogSearch.Proofs.VectorLiteral
import CatalogSearch.Proofs.WhereClause
import CatalogSearch.Proofs.Writing
import CatalogSearch.Query.Placeholder
import CatalogSearch.Query.Plan
import CatalogSearch.Request.Basic
import CatalogSearch.Request.Parameters
import CatalogSearch.Row
import CatalogSearch.Search
import CatalogSearch.SearchError
import CatalogSearch.Service.Answer
import CatalogSearch.Service.Redirect
import CatalogSearch.Settings
import CatalogSearch.Store.Callers
import CatalogSearch.Store.Pool
import CatalogSearch.Store.Query
import CatalogSearch.Text.Cased
import CatalogSearch.Text.Character
import CatalogSearch.Text.CombiningClass
import CatalogSearch.Text.Composite
import CatalogSearch.Text.Encoding
import CatalogSearch.Text.Lowercase
import CatalogSearch.Text.Mark
import CatalogSearch.Text.NormalForm
import CatalogSearch.Text.Octets
import CatalogSearch.Text.Pieces
import CatalogSearch.Text.Quoted
import CatalogSearch.Url
import CatalogSearch.Url.Address
import CatalogSearch.Value
import CatalogSearch.Value.Conversion
import CatalogSearch.Value.Equality
import CatalogSearch.Value.Order
