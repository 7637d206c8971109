import CatalogSearch.Value

/-!
# Search requests

A request in canonical form: what to look for, which filters hold, which page and in which order.
-/

namespace CatalogSearch

/-- The attributes of a resource that results can be sorted by. -/
inductive SortKey where
  | subject
  | examBoard
  | level
  | type
  | averageRating
  | title
deriving DecidableEq, Repr

inductive SortDirection where
  | ascending
  | descending
deriving DecidableEq, Repr

/-- The three ways to run a search. -/
inductive Strategy where
  /-- Nearness of the resource's embedding to the query's. -/
  | semantic
  /-- Words of the query, and optionally likeness of the title. -/
  | fullText
  /-- No query: filters and order only. -/
  | filterOnly
deriving DecidableEq, Repr

namespace SortKey

/-- All sort keys, in the alphabetical order of their names. -/
def all : List SortKey := [averageRating, examBoard, level, subject, title, type]

def name : SortKey → String
  | subject => "subject"
  | examBoard => "examboard"
  | level => "level"
  | type => "type"
  | averageRating => "averagerating"
  | title => "title"

/-- The column of a sort key, quoted as in a statement. -/
def column (k : SortKey) : String := "\"" ++ k.name ++ "\""

def ofName? (s : String) : Option SortKey := all.find? (·.name == s)

theorem ofName?_name (k : SortKey) : ofName? k.name = some k := by
  cases k <;> rfl

end SortKey

namespace SortDirection

def name : SortDirection → String
  | ascending => "asc"
  | descending => "desc"

def keyword : SortDirection → String
  | ascending => "ASC"
  | descending => "DESC"

def ofName? (s : String) : Option SortDirection :=
  [ascending, descending].find? (·.name == s)

end SortDirection

def Strategy.name : Strategy → String
  | semantic => "semantic"
  | fullText => "full_text"
  | filterOnly => "filter_only"

/-- A canonical search request. Query, tags, filters and page are handed on to the store as they
are, so they may be any values; a query or filter that is not truthy is none. -/
structure SearchRequest where
  query : Value := .text ""
  tags : List Value := []
  subject : Value := .null
  examBoard : Value := .null
  level : Value := .null
  type : Value := .null
  limit : Value := .int 20
  offset : Value := .int 0
  sortKey : SortKey := .averageRating
  sortDirection : SortDirection := .descending
  fuzzy : Bool := true
  semantic : Bool := false
deriving Repr

namespace SearchRequest

/-- The term of ORDER BY that the request asks for. -/
def orderBy (r : SearchRequest) : String :=
  r.sortKey.column ++ " " ++ r.sortDirection.keyword

/-- The strategy of a request: an empty query only filters, and semantic goes before full text. -/
def strategy (r : SearchRequest) : Strategy :=
  if !r.query.isTruthy then .filterOnly
  else if r.semantic then .semantic
  else .fullText

end SearchRequest

end CatalogSearch
