import CatalogSearch.Filters
import CatalogSearch.Query.Placeholder
import CatalogSearch.Request.Parameters
import CatalogSearch.Value.Conversion

/-!
# Query plans

A request is compiled into one statement whose values are all bound as parameters. Each strategy
adds its score columns, its condition and its order to the predicates of the request:

* semantic orders by distance to the query's embedding;
* full text matches the words of the query, and the likeness of the title if the request is fuzzy;
* filter only keeps the predicates as they are.

Limit and offset are bound last. The text search language is the one part of a statement that is
not fixed text, a column name or a placeholder, so it has to be a plain identifier.
-/

namespace CatalogSearch

open Text

structure Plan where
  sql : String
  params : List Value
  strategy : Strategy
  /-- The keys of the order, first to last. -/
  tieBreak : List String
deriving Repr

/-- Why a request cannot be compiled. -/
inductive CompileRefusal where
  | badLanguage (language : String)
  /-- The language is no text. -/
  | languageKind (kind : String)
  | noVector
  | badVector (why : VectorRefusal)
  /-- The number of a placeholder is too long to be written. -/
  | unwritable
  | placeholders (why : PlaceholderRefusal)
deriving DecidableEq, Repr

def CompileRefusal.message : CompileRefusal → String
  | badLanguage s => "Invalid text search language: " ++ quoted s
  | languageKind k => "expected string or bytes-like object, got '" ++ k ++ "'"
  | noVector => "Semantic strategy requires a query embedding"
  | badVector why => why.message
  | unwritable => CatalogSearch.unwritable
  | placeholders why => why.message

namespace Query

/-- The columns of a resource that every statement selects. -/
def resourceColumns : String :=
  "id, title, description, \"averagerating\", subject, \"examboard\", level, type"

/-- The statement over the resources: columns, predicates, order, and the page bound last. -/
def render (scores : List String) (p : PredicateSet) (order : List String) : String :=
  let page := "LIMIT " ++ p.placeholder 0 ++ " OFFSET " ++ p.placeholder 1
  String.intercalate "\n"
    (["SELECT " ++ String.intercalate ", " (resourceColumns :: scores), "FROM \"resources\""] ++
      (if p.whereClause = "" then [] else [p.whereClause]) ++
      ["ORDER BY " ++ String.intercalate ", " order, page])

/-- The statement, if the placeholders of the page can be written. -/
def render? (scores : List String) (p : PredicateSet) (order : List String) : Option String :=
  if p.canRefer 2 then some (render scores p order) else none

/-- What a strategy contributes to a statement. -/
structure Parts where
  scores : List String
  bound : PredicateSet
  order : List String

/-- Nearness to the embedding that is bound as `literal`. -/
def semanticParts (r : SearchRequest) (p : PredicateSet) (literal : String) : Parts where
  scores := ["1 - (embedding <-> " ++ p.placeholder 0 ++ "::vector) AS semantic_score"]
  bound := p.bind [.text literal]
  order := ["semantic_score DESC", r.orderBy]

/-- Words of the query in a language; a fuzzy request binds the query a second time, for the
likeness of the title. -/
def fullTextParts (r : SearchRequest) (p : PredicateSet) (language : String) : Parts :=
  let words := "plainto_tsquery('" ++ language ++ "', " ++ p.placeholder 0 ++ ")"
  let matched := "\"search_tsv\" @@ " ++ words
  let rank := "ts_rank(\"search_tsv\", " ++ words ++ ") AS rank"
  let order := ["rank DESC", "fuzzy_score DESC", r.orderBy]
  if r.fuzzy then
    { scores := [rank, "similarity(\"title\", " ++ p.placeholder 1 ++ ") AS fuzzy_score"]
      bound := p.append ("(" ++ matched ++ " OR \"title\" % " ++ p.placeholder 1 ++ ")")
        [r.query, r.query]
      order := order }
  else
    { scores := [rank, "0 AS fuzzy_score"]
      bound := p.append matched [r.query]
      order := order }

/-- The order alone. -/
def filterParts (r : SearchRequest) (p : PredicateSet) : Parts where
  scores := []
  bound := p
  order := [r.orderBy]

/-- Whether a text search language may stand in a statement: lower-case letters and underscores,
behind which one line feed is overlooked. -/
def isLanguage (s : String) : Bool :=
  let cs := dropFinalNewline s.toList
  !cs.isEmpty && cs.all fun c => c == '_' || ('a' ≤ c && c ≤ 'z')

/-- The language to search in: the one asked for, unless it is absent or empty. -/
def effectiveLanguage (asked configured : Value) : Value :=
  if asked.isTruthy then asked else configured

/-- The text of a language that may stand in a statement. -/
def checkLanguage : Value → Except CompileRefusal String
  | .text s => if isLanguage s then .ok s else .error (.badLanguage s)
  | v => .error (.languageKind v.kindName)

/-- What the strategy of a request contributes. -/
def parts (r : SearchRequest) (p : PredicateSet) (vector : Option Value) (language : String) :
    Except CompileRefusal Parts :=
  match r.strategy with
  | .semantic =>
    match vector with
    | none => .error .noVector
    | some v =>
      if !p.canRefer 1 then .error .unwritable
      else
        match v.vectorLiteral with
        | .ok literal => .ok (semanticParts r p literal)
        | .error why => .error (.badVector why)
  | .fullText => .ok (fullTextParts r p language)
  | .filterOnly => .ok (filterParts r p)

/-- The plan of a request whose contributions are known. -/
def assemble (r : SearchRequest) (q : Parts) : Plan where
  sql := render q.scores q.bound q.order
  params := q.bound.values ++ [r.limit, r.offset]
  strategy := r.strategy
  tieBreak := q.order

/-- **Compiles a request** over predicates, with the embedding of its query if there is one and in
the effective language. -/
def compile (r : SearchRequest) (p : PredicateSet) (vector : Option Value) (language : Value) :
    Except CompileRefusal Plan :=
  match checkLanguage language with
  | .error why => .error why
  | .ok s =>
    match parts r p vector s with
    | .error why => .error why
    | .ok q =>
      if !(p.canRefer 1 && q.bound.canRefer 2) then .error .unwritable
      else
        let plan := assemble r q
        match Placeholder.check plan.sql plan.params.length with
        | .ok _ => .ok plan
        | .error why => .error (.placeholders why)

end Query

end CatalogSearch
