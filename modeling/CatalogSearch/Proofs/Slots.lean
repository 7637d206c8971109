import CatalogSearch.Proofs.Compilation

/-!
# The slots of a statement

A plan can be compiled over predicates from anywhere, as long as their next free number is the one
behind the values they hold. The strategy writes its references before it binds their values, and
the page is referred to when all else is bound. Here each reference is written as the place behind
the values that are bound before its own, so that it can be compared with the parameters.

* `PredicateSet.Aligned`: numbering and values agree; binding keeps it so.
* `Query.Slotted`: the parameters of a plan, and its statement with the references spelt out.
* `Query.compile_slotted`: every plan over aligned predicates is of this form.
-/

namespace CatalogSearch

/-- **The reference to the value that is bound next** behind those in front of it. -/
def slotBehind (front : List Value) : String := "$" ++ toString (front.length + 1)

namespace PredicateSet

/-- **The next free number is the one behind the values.** -/
def Aligned (p : PredicateSet) : Prop := p.nextIndex = 1 + p.values.length

variable {p : PredicateSet}

theorem Aligned.bind (h : p.Aligned) (values : List Value) : (p.bind values).Aligned := by
  unfold Aligned at h ⊢
  simp only [PredicateSet.bind, List.length_append]
  omega

theorem Aligned.append (h : p.Aligned) (fragment : String) (values : List Value) :
    (p.append fragment values).Aligned :=
  h.bind values

/-- A reference some places on is to what is bound behind as many values. -/
theorem Aligned.placeholder (h : p.Aligned) (values : List Value) :
    p.placeholder values.length = slotBehind (p.values ++ values) := by
  have hn : p.nextIndex + values.length = ((p.values ++ values).length + 1 : Nat) := by
    rw [h, List.length_append]
    push_cast
    omega
  unfold PredicateSet.placeholder slotBehind
  rw [hn]
  rfl

theorem Aligned.placeholder_zero (h : p.Aligned) : p.placeholder 0 = slotBehind p.values := by
  simpa using h.placeholder []

theorem Aligned.placeholder_one (h : p.Aligned) (v : Value) :
    p.placeholder 1 = slotBehind (p.values ++ [v]) :=
  h.placeholder [v]

theorem whereClause_eq_empty_iff : p.whereClause = "" ↔ p.fragments = [] := by
  refine ⟨fun h => ?_, Query.whereClause_of_nil⟩
  by_contra hp
  exact (Query.whereClause_of_ne_nil hp).2 h

end PredicateSet

namespace Query

/-- The WHERE line over fragments; none without fragments. -/
def whereLines (fragments : List String) : List String :=
  if fragments = [] then [] else ["WHERE " ++ String.intercalate " AND " fragments]

/-- **A statement written out**, the page bound behind the values `bound`, limit first. -/
def pagedText (scores fragments order : List String) (bound : List Value) (limit : Value) :
    String :=
  String.intercalate "\n"
    (["SELECT " ++ String.intercalate ", " (resourceColumns :: scores), "FROM \"resources\""] ++
      whereLines fragments ++
      ["ORDER BY " ++ String.intercalate ", " order,
        "LIMIT " ++ slotBehind bound ++ " OFFSET " ++ slotBehind (bound ++ [limit])])

theorem render_of_aligned {b : PredicateSet} (h : b.Aligned) (scores order : List String)
    (limit : Value) :
    render scores b order = pagedText scores b.fragments order b.values limit := by
  have hwhere : (if b.whereClause = "" then [] else [b.whereClause]) = whereLines b.fragments := by
    unfold whereLines
    by_cases hb : b.fragments = []
    · rw [if_pos (PredicateSet.whereClause_eq_empty_iff.2 hb), if_pos hb]
    · rw [if_neg (whereClause_of_ne_nil hb).2, if_neg hb, (whereClause_of_ne_nil hb).1]
      rfl
  unfold render pagedText
  simp only
  rw [hwhere, h.placeholder_zero, h.placeholder_one limit]

/-- The query as the words to look for, in a language. -/
def wordsText (language slot : String) : String :=
  "plainto_tsquery('" ++ language ++ "', " ++ slot ++ ")"

/-- **A plan slot by slot**: behind the values of the predicates come those of the strategy, and
then the page; each reference of the statement is to the place where its own value is bound. -/
inductive Slotted (r : SearchRequest) (p : PredicateSet) (vector : Option Value)
    (language : String) (plan : Plan) : Prop where
  | semantic (v : Value) (literal : String) (strategy : r.strategy = .semantic)
    (given : vector = some v) (written : v.vectorLiteral = .ok literal)
    (params : plan.params = p.values ++ [.text literal] ++ [r.limit, r.offset])
    (sql : plan.sql = pagedText
      ["1 - (embedding <-> " ++ slotBehind p.values ++ "::vector) AS semantic_score"]
      p.fragments ["semantic_score DESC", r.orderBy] (p.values ++ [.text literal]) r.limit)
  | fuzzy (strategy : r.strategy = .fullText) (fuzzy : r.fuzzy = true)
    (params : plan.params = p.values ++ [r.query, r.query] ++ [r.limit, r.offset])
    (sql : plan.sql = pagedText
      ["ts_rank(\"search_tsv\", " ++ wordsText language (slotBehind p.values) ++ ") AS rank",
        "similarity(\"title\", " ++ slotBehind (p.values ++ [r.query]) ++ ") AS fuzzy_score"]
      (p.fragments ++
        ["(\"search_tsv\" @@ " ++ wordsText language (slotBehind p.values) ++
          " OR \"title\" % " ++ slotBehind (p.values ++ [r.query]) ++ ")"])
      ["rank DESC", "fuzzy_score DESC", r.orderBy] (p.values ++ [r.query, r.query]) r.limit)
  | words (strategy : r.strategy = .fullText) (exact : r.fuzzy = false)
    (params : plan.params = p.values ++ [r.query] ++ [r.limit, r.offset])
    (sql : plan.sql = pagedText
      ["ts_rank(\"search_tsv\", " ++ wordsText language (slotBehind p.values) ++ ") AS rank",
        "0 AS fuzzy_score"]
      (p.fragments ++ ["\"search_tsv\" @@ " ++ wordsText language (slotBehind p.values)])
      ["rank DESC", "fuzzy_score DESC", r.orderBy] (p.values ++ [r.query]) r.limit)
  | filters (strategy : r.strategy = .filterOnly)
    (params : plan.params = p.values ++ [r.limit, r.offset])
    (sql : plan.sql = pagedText [] p.fragments [r.orderBy] p.values r.limit)

variable {r : SearchRequest} {p : PredicateSet} {vector : Option Value} {language : String}

theorem assemble_sql_of_aligned {q : Parts} (h : q.bound.Aligned) :
    (assemble r q).sql = pagedText q.scores q.bound.fragments q.order q.bound.values r.limit :=
  render_of_aligned h q.scores q.order r.limit

theorem slotted_semantic {v : Value} {literal : String} (h : p.Aligned)
    (hs : r.strategy = .semantic) (hv : vector = some v) (hl : v.vectorLiteral = .ok literal) :
    Slotted r p vector language (assemble r (semanticParts r p literal)) := by
  refine .semantic v literal hs hv hl rfl ?_
  rw [assemble_sql_of_aligned (h.bind [.text literal])]
  simp only [semanticParts, h.placeholder_zero]
  rfl

theorem slotted_fullText (h : p.Aligned) (hs : r.strategy = .fullText) :
    Slotted r p vector language (assemble r (fullTextParts r p language)) := by
  have hone := h.placeholder_one r.query
  by_cases hz : r.fuzzy = true
  · have hb : (fullTextParts r p language).bound.Aligned := by
      simp only [fullTextParts, if_pos hz]
      exact h.append _ _
    refine .fuzzy hs hz ?_ ?_
    · simp only [assemble, fullTextParts, if_pos hz]
      rfl
    · rw [assemble_sql_of_aligned hb]
      simp only [fullTextParts, if_pos hz, h.placeholder_zero, hone]
      rfl
  · have hb : (fullTextParts r p language).bound.Aligned := by
      simp only [fullTextParts, if_neg hz]
      exact h.append _ _
    refine .words hs (by simpa using hz) ?_ ?_
    · simp only [assemble, fullTextParts, if_neg hz]
      rfl
    · rw [assemble_sql_of_aligned hb]
      simp only [fullTextParts, if_neg hz, h.placeholder_zero]
      rfl

theorem slotted_filterOnly (h : p.Aligned) (hs : r.strategy = .filterOnly) :
    Slotted r p vector language (assemble r (filterParts r p)) :=
  .filters hs rfl (assemble_sql_of_aligned (q := filterParts r p) h)

/-- What a strategy contributes is slotted, whatever the predicates. -/
theorem slotted_of_parts {q : Parts} (h : p.Aligned) (hq : parts r p vector language = .ok q) :
    Slotted r p vector language (assemble r q) := by
  unfold parts at hq
  cases hs : r.strategy with
  | semantic =>
    rw [hs] at hq
    cases vector with
    | none => exact nomatch hq
    | some v =>
      simp only at hq
      split at hq
      · exact nomatch hq
      · cases hl : v.vectorLiteral with
        | error why =>
          rw [hl] at hq
          exact nomatch hq
        | ok literal =>
          rw [hl] at hq
          cases hq
          exact slotted_semantic h hs rfl hl
  | fullText =>
    rw [hs] at hq
    cases hq
    exact slotted_fullText h hs
  | filterOnly =>
    rw [hs] at hq
    cases hq
    exact slotted_filterOnly h hs

/-- **Every plan is slotted**, over any predicates whose numbering agrees with their values: no
value of the strategy or the page is referred to by the number of another. -/
theorem compile_slotted {r : SearchRequest} {p : PredicateSet} {vector : Option Value}
    {language : Value} {plan : Plan} (hp : p.nextIndex = 1 + p.values.length)
    (h : compile r p vector language = .ok plan) :
    ∃ s, language = .text s ∧ Slotted r p vector s plan := by
  obtain ⟨s, q, hlanguage, -, hq, -, -, rfl⟩ := compile_ok h
  exact ⟨s, hlanguage, slotted_of_parts hp hq⟩

/-- A fuzzy search behind two tags and a level; page size and offset are the same number. -/
theorem compile_slotted_tagged :
    let r : SearchRequest := {
      query := .text "cells", tags := [.text "biology", .text "$9"], level := .text "GCSE",
      limit := .int 7, offset := .int 7 }
    (r.predicates 1).nextIndex = 1 + (r.predicates 1).values.length ∧
      ∃ plan, compile r (r.predicates 1) none (.text "english") = .ok plan ∧
        plan.params = [.text "biology", .text "$9", .text "GCSE", .text "cells", .text "cells",
          .int 7, .int 7] ∧
        plan.sql = "SELECT id, title, description, \"averagerating\", subject, \"examboard\", " ++
          "level, type, ts_rank(\"search_tsv\", plainto_tsquery('english', $4)) AS rank, " ++
          "similarity(\"title\", $5) AS fuzzy_score\nFROM \"resources\"\n" ++
          "WHERE \"tags\" @> ARRAY[$1] AND \"tags\" @> ARRAY[$2] AND \"level\" = $3 AND " ++
          "(\"search_tsv\" @@ plainto_tsquery('english', $4) OR \"title\" % $5)\n" ++
          "ORDER BY rank DESC, fuzzy_score DESC, \"averagerating\" DESC\nLIMIT $6 OFFSET $7" := by
  intro r
  have hp : (r.predicates 1).nextIndex = 1 + (r.predicates 1).values.length := rfl
  obtain ⟨q, -, hplan⟩ := @compileFrom_one r none "english" rfl nofun (by decide)
  rw [compileFrom_eq] at hplan
  split_ifs at hplan
  obtain ⟨s, hs, hslotted⟩ := compile_slotted hp hplan
  cases hs
  refine ⟨hp, _, hplan, ?_⟩
  cases hslotted with
  | semantic v literal strategy => exact nomatch strategy
  | fuzzy strategy fuzzy params sql =>
    refine ⟨params, sql.trans ?_⟩
    decide +kernel
  | words strategy exact => exact nomatch exact
  | filters strategy => exact nomatch strategy

end Query

end CatalogSearch
