import CatalogSearch.Predicates
import CatalogSearch.Request.Basic

/-!
# Filters

The filters of a request as predicates: every tag has to be among the resource's tags, and each of
the four attributes that is given has to match exactly. Tags are bound first, in their order, then
subject, exam board, level and type.
-/

namespace CatalogSearch

namespace PredicateSet

/-- The test that a tag, bound `offset` places on, is among the tags of a resource. -/
def tagTest (p : PredicateSet) (offset : Nat) : String :=
  "\"tags\" @> ARRAY[" ++ p.placeholder offset ++ "]"

/-- Requires all of the tags, in one fragment; no tags require nothing. -/
def addTags (p : PredicateSet) (tags : List Value) : PredicateSet :=
  if tags.isEmpty then p
  else p.append (String.intercalate " AND " ((List.range tags.length).map p.tagTest)) tags

/-- Requires all of the tags, if references to them can be written. -/
def addTags? (p : PredicateSet) (tags : List Value) : Option PredicateSet :=
  if p.canRefer tags.length then some (p.addTags tags) else none

/-- Requires a column to have a value, unless the value is no filter. -/
def addEquality (p : PredicateSet) (column : String) (value : Value) : PredicateSet :=
  if value.isTruthy then p.append (column ++ " = " ++ p.placeholder 0) [value] else p

/-- Requires a column to have a value, if a reference to it can be written or is not needed. -/
def addEquality? (p : PredicateSet) (column : String) (value : Value) : Option PredicateSet :=
  if !value.isTruthy || p.canRefer 1 then some (p.addEquality column value) else none

end PredicateSet

namespace SearchRequest

/-- The exact-match filters in the order they are bound: column and value. -/
def equalities (r : SearchRequest) : List (String × Value) :=
  [("\"subject\"", r.subject), ("\"examboard\"", r.examBoard), ("\"level\"", r.level),
    ("\"type\"", r.type)]

/-- **The predicates of a request**, numbered from `start`. -/
def predicates (r : SearchRequest) (start : Int) : PredicateSet :=
  r.equalities.foldl (fun p e => p.addEquality e.1 e.2)
    (PredicateSet.addTags { nextIndex := start } r.tags)

/-- The predicates of a request, if references to all of its filters can be written. -/
def predicates? (r : SearchRequest) (start : Int) : Option PredicateSet :=
  let p := r.predicates start
  if areWritable start p.values.length then some p else none

end SearchRequest

end CatalogSearch
