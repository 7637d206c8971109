import CatalogSearch.Proofs.WhereClause

/-!
# The columns that a statement projects

What a statement selects are the items between SELECT and FROM, with commas between them where no
bracket is open. An item that is a column goes by the column's name, and any other item by the name
that it is given.

* `Sql.projection`: the names of the items, in their order.
* `Query.projected`: the columns of a request's statement, those of its strategy last.
* `Query.projection_ownStatement`: the two agree.
-/

namespace CatalogSearch

namespace Sql

/-- How many brackets are open behind a token. -/
def depthAfter (depth : Nat) : Token → Nat
  | .mark c =>
    if c = '(' ∨ c = '[' then depth + 1 else if c = ')' ∨ c = ']' then depth - 1 else depth
  | _ => depth

/-- Puts a token in front of the first item. -/
def putFirst (t : Token) : List (List Token) → List (List Token)
  | [] => [[t]]
  | item :: items => (t :: item) :: items

/-- The items up to FROM, with `depth` brackets open; none if FROM never comes. -/
def items? (depth : Nat) : List Token → Option (List (List Token))
  | [] => none
  | t :: ts =>
    if depth = 0 ∧ t = .word "FROM" then some [[]]
    else if depth = 0 ∧ t = .mark ',' then (items? 0 ts).map ([] :: ·)
    else (items? (depthAfter depth t) ts).map (putFirst t)

/-- The name behind the last AS of an item. -/
def alias? : List Token → Option String
  | [] => none
  | .word "AS" :: ts =>
    match ts with
    | [.word s] | [.name s] => some s
    | _ => alias? ts
  | _ :: ts => alias? ts

/-- The name that an item goes by: its own if it is a column, or else the one that it is given. -/
def itemName? : List Token → Option String
  | [.word s] | [.name s] => some s
  | item => alias? item

/-- **The names of what a statement projects**, first to last. -/
def projection : List Token → Option (List String)
  | .word "SELECT" :: ts => do
    let items ← items? 0 ts
    items.mapM itemName?
  | _ => none

end Sql

namespace Query

open Sql Template

/-- The columns of a resource, by name. -/
def resourceNames : List String :=
  ["id", "title", "description", "averagerating", "subject", "examboard", "level", "type"]

/-- The columns that a strategy adds, by name. -/
def scoreNames : Strategy → List String
  | .semantic => ["semantic_score"]
  | .fullText => ["rank", "fuzzy_score"]
  | .filterOnly => []

/-- The columns of a request's statement. -/
def projected (r : SearchRequest) : List String := resourceNames ++ scoreNames r.strategy

theorem nodup_projected (r : SearchRequest) : (projected r).Nodup := by
  unfold projected
  cases r.strategy <;> decide

set_option maxRecDepth 2000 in
theorem tokens_resourceColumns :
    tokens ("SELECT " ++ resourceColumns) =
      [.word "SELECT", .word "id", .mark ',', .word "title", .mark ',', .word "description",
        .mark ',', .name "averagerating", .mark ',', .word "subject", .mark ',', .name "examboard",
        .mark ',', .word "level", .mark ',', .word "type"] := by
  decide

/-- The tokens of the columns that a strategy adds, its values numbered from `n` on. -/
def scoreTokens (r : SearchRequest) (language : String) (n : Nat) : List Token :=
  match r.strategy with
  | .semantic =>
    [.mark ',', .word "1", .operator "-", .mark '(', .word "embedding", .operator "<->",
      .reference n, .mark ':', .mark ':', .word "vector", .mark ')', .word "AS",
      .word "semantic_score"]
  | .fullText =>
    [.mark ',', .word "ts_rank", .mark '(', .name "search_tsv", .mark ',', .word "plainto_tsquery",
      .mark '(', .literal language, .mark ',', .reference n, .mark ')', .mark ')', .word "AS",
      .word "rank"] ++
    if r.fuzzy then
      [.mark ',', .word "similarity", .mark '(', .name "title", .mark ',', .reference (n + 1),
        .mark ')', .word "AS", .word "fuzzy_score"]
    else [.mark ',', .word "0", .word "AS", .word "fuzzy_score"]
  | .filterOnly => []

theorem tokensOf_scoreTemplate (r : SearchRequest) {language : String}
    (hl : isLanguage language = true) (n : Nat) :
    tokensOf (scoreTemplate r language n) = scoreTokens r language n := by
  unfold scoreTemplate scoreTokens
  have hnext : tokens (Piece.ref ((n : Int) + 1)).text = [.reference (n + 1)] :=
    (tokens_ref (n + 1)).1
  cases r.strategy with
  | semantic =>
    simp only [tokensOf_cons, tokensOf_nil, (tokens_ref n).1]
    rfl
  | fullText =>
    have hrank := (tokens_language (s := ", ts_rank(\"search_tsv\", plainto_tsquery('") hl rfl).1
    by_cases hz : r.fuzzy = true
    · simp only [hz, if_true, tokensOf_append, tokensOf_cons, tokensOf_nil, Piece.text_fixed,
        hrank, (tokens_ref n).1, hnext]
      rfl
    · simp only [hz, Bool.false_eq_true, if_false, tokensOf_append, tokensOf_cons, tokensOf_nil,
        Piece.text_fixed, hrank, (tokens_ref n).1]
      rfl
  | filterOnly => rfl

/-- What a request's statement selects stands in front: the columns of a resource, then those of
its strategy. -/
theorem tokens_select (r : SearchRequest) {language : String} (hl : isLanguage language = true)
    {n : Nat} :
    ∃ k rest, tokens (ownStatement r language n).text =
      tokens ("SELECT " ++ resourceColumns) ++
        (scoreTokens r language k ++ .word "FROM" :: rest) := by
  obtain ⟨rest, ht⟩ := tokens_ownStatement r hl (Int.natCast_nonneg n)
  have hscores : tokensOf (ownColumns r language n) =
      scoreTokens r language (n + r.filterValues.length) ++
        [.word "FROM", .name "resources"] := by
    unfold ownColumns
    rw [tokensOf_append, ← Int.natCast_add, tokensOf_scoreTemplate r hl]
    rfl
  refine ⟨n + r.filterValues.length, .name "resources" ::
    (tokensOf (whereTemplate (ownTests r language n)) ++ .word "ORDER" :: rest), ?_⟩
  rw [ht, hscores]
  simp only [List.append_assoc, List.cons_append, List.nil_append]

/-- **A request's statement projects its columns**: those of a resource, then those of its
strategy. -/
theorem projection_ownStatement (r : SearchRequest) {language : String}
    (hl : isLanguage language = true) {n : Nat} :
    projection (tokens (ownStatement r language n).text) = some (projected r) := by
  obtain ⟨k, rest, ht⟩ := tokens_select (n := n) r hl
  rw [ht, tokens_resourceColumns]
  unfold scoreTokens projected
  cases r.strategy with
  | semantic => rfl
  | fullText => cases r.fuzzy <;> rfl
  | filterOnly => rfl

end Query

end CatalogSearch
