import CatalogSearch.Proofs.Compilation
import CatalogSearch.Proofs.WhereClause

/-!
# What a plan selects

Which rows a request asks for is said by `Selects`, over any way to test a row. The condition of its
plan, read from the text of the statement and with the parameters put in, says the same.

* `SearchRequest.conditions`: what a row has to satisfy, in the order of the statement.
* `spells_conditions`: the parts of the WHERE clause spell these conditions, each with the values
  that belong to it.
* `Query.where_selects`: the WHERE clause of a plan selects what the request asks for.
-/

namespace CatalogSearch

open Template Sql

namespace SearchRequest

/-- **The rows that a request asks for**, `val` being the tests that hold of a row. -/
structure Selects (r : SearchRequest) (language : String) (val : Test Value → Prop) : Prop where
  tags : ∀ tag ∈ r.tags, val (.contains "tags" tag)
  subject : r.subject.isTruthy = true → val (.equals "subject" r.subject)
  examBoard : r.examBoard.isTruthy = true → val (.equals "examboard" r.examBoard)
  level : r.level.isTruthy = true → val (.equals "level" r.level)
  type : r.type.isTruthy = true → val (.equals "type" r.type)
  words : r.strategy = .fullText → val (.matchesWords "search_tsv" language r.query) ∨
    r.fuzzy = true ∧ val (.resembles "title" r.query)

/-- Attributes and values of the filters that are given. -/
def attributes (r : SearchRequest) : List (String × Value) :=
  PredicateSet.given [("subject", r.subject), ("examboard", r.examBoard), ("level", r.level),
    ("type", r.type)]

/-- What the query requires of a row, if it is searched for as text. -/
def textConditions (r : SearchRequest) (language : String) : List (Condition Value) :=
  match r.strategy with
  | .fullText =>
    if r.fuzzy then
      [.or (.test (.matchesWords "search_tsv" language r.query))
        (.test (.resembles "title" r.query))]
    else [.test (.matchesWords "search_tsv" language r.query)]
  | _ => []

/-- **What a row has to satisfy**, in the order of the statement. -/
def conditions (r : SearchRequest) (language : String) : List (Condition Value) :=
  r.tags.map (fun tag => .test (.contains "tags" tag)) ++
    r.attributes.map (fun e => .test (.equals e.1 e.2)) ++ r.textConditions language

theorem forall_attributes {r : SearchRequest} {P : String × Value → Prop} :
    (∀ e ∈ r.attributes, P e) ↔
      (r.subject.isTruthy = true → P ("subject", r.subject)) ∧
      (r.examBoard.isTruthy = true → P ("examboard", r.examBoard)) ∧
      (r.level.isTruthy = true → P ("level", r.level)) ∧
      (r.type.isTruthy = true → P ("type", r.type)) := by
  unfold attributes PredicateSet.given
  simp only [List.mem_filter, List.mem_cons, List.not_mem_nil, or_false, and_imp]
  constructor
  · intro h
    exact ⟨h _ (.inl rfl), h _ (.inr (.inl rfl)), h _ (.inr (.inr (.inl rfl))),
      h _ (.inr (.inr (.inr rfl)))⟩
  · rintro ⟨hs, he, hl, ht⟩ e (rfl | rfl | rfl | rfl)
    · exact hs
    · exact he
    · exact hl
    · exact ht

theorem forall_textConditions {r : SearchRequest} {language : String} {val : Test Value → Prop} :
    (∀ c ∈ r.textConditions language, c.Holds val) ↔
      (r.strategy = .fullText → val (.matchesWords "search_tsv" language r.query) ∨
        r.fuzzy = true ∧ val (.resembles "title" r.query)) := by
  unfold textConditions
  cases r.strategy with
  | semantic => simp
  | filterOnly => simp
  | fullText => by_cases hz : r.fuzzy <;> simp [hz, Condition.Holds]

/-- A row satisfies all conditions iff the request asks for it. -/
theorem forall_conditions {r : SearchRequest} {language : String} {val : Test Value → Prop} :
    (∀ c ∈ r.conditions language, c.Holds val) ↔ r.Selects language val := by
  unfold conditions
  rw [List.forall_mem_append, List.forall_mem_append, forall_textConditions, List.forall_mem_map,
    List.forall_mem_map, forall_attributes]
  constructor
  · rintro ⟨⟨ht, hs, he, hl, hy⟩, hw⟩
    exact ⟨ht, hs, he, hl, hy, hw⟩
  · rintro ⟨ht, hs, he, hl, hy, hw⟩
    exact ⟨⟨ht, hs, he, hl, hy⟩, hw⟩

theorem columns_eq (r : SearchRequest) :
    r.columns = r.attributes.map fun e => "\"" ++ e.1 ++ "\"" := by
  have h : r.equalities = [("subject", r.subject), ("examboard", r.examBoard),
      ("level", r.level), ("type", r.type)].map fun e => ("\"" ++ e.1 ++ "\"", e.2) := rfl
  rw [columns, PredicateSet.given, h, List.filter_map, List.map_map, attributes]
  rfl

theorem filterValues_eq (r : SearchRequest) :
    r.filterValues = r.tags ++ r.attributes.map (·.2) := by
  have h : r.equalities = [("subject", r.subject), ("examboard", r.examBoard),
      ("level", r.level), ("type", r.type)].map fun e => ("\"" ++ e.1 ++ "\"", e.2) := rfl
  rw [filterValues, PredicateSet.given, h, List.filter_map, List.map_map, attributes]
  rfl

theorem name_of_mem_attributes {r : SearchRequest} {e : String × Value} (h : e ∈ r.attributes) :
    e.1 ∈ ["subject", "examboard", "level", "type"] :=
  List.mem_map_of_mem (f := Prod.fst) (List.mem_of_mem_filter h)

end SearchRequest

section Spelling

theorem bound_append (pre : List Value) (x : Value) (post : List Value) :
    bound? (pre ++ x :: post) (pre.length + 1) = some x := by
  simp [bound?]

theorem tokensOf_tagTemplate (n : Nat) :
    tokensOf (tagTemplate n) = (Test.contains "tags" n).tokens := by
  unfold tagTemplate
  rw [tokensOf_cons, tokensOf_cons, (tokens_ref n).1]
  rfl

theorem tokensOf_equalityTemplate {name : String}
    (h : name ∈ ["subject", "examboard", "level", "type"]) (n : Nat) :
    tokensOf (equalityTemplate ("\"" ++ name ++ "\"") n) = (Test.equals name n).tokens := by
  have ht : tokens ("\"" ++ name ++ "\"" ++ " = ") = [.name name, .operator "="] := by
    simp only [List.mem_cons, List.not_mem_nil, or_false] at h
    rcases h with rfl | rfl | rfl | rfl <;> rfl
  unfold equalityTemplate
  rw [tokensOf_cons, tokensOf_cons, (tokens_ref n).1, Piece.text_fixed, ht]
  rfl

/-- The tests of the tags refer to the tags, wherever these are bound. -/
theorem spells_tags (pre tags post : List Value) :
    List.Forall₂ (Spells (pre ++ tags ++ post))
      ((tagTemplates tags.length ((pre.length + 1 : Nat) : Int)).map tokensOf)
      (tags.map fun tag => .test (.contains "tags" tag)) := by
  induction tags generalizing pre with
  | nil => exact .nil
  | cons tag tags ih =>
    -- for the other tags, this one is among the values bound before
    have h := ih (pre ++ [tag])
    simp only [List.length_append, List.length_singleton, List.append_assoc,
      List.singleton_append] at h
    simp only [List.append_assoc, List.cons_append]
    refine .cons ?_ h
    rw [tokensOf_tagTemplate]
    exact spells_test (by rw [Test.bind?, bound_append]; rfl)

/-- The tests of the columns refer to the values of the attributes. -/
theorem spells_attributes (pre : List Value) {es : List (String × Value)} (post : List Value)
    (h : ∀ e ∈ es, e.1 ∈ ["subject", "examboard", "level", "type"]) :
    List.Forall₂ (Spells (pre ++ es.map (·.2) ++ post))
      ((equalityTemplates (es.map fun e => "\"" ++ e.1 ++ "\"")
        ((pre.length + 1 : Nat) : Int)).map tokensOf)
      (es.map fun e => .test (.equals e.1 e.2)) := by
  induction es generalizing pre with
  | nil => exact .nil
  | cons e es ih =>
    rw [List.forall_mem_cons] at h
    have hs := ih (pre ++ [e.2]) h.2
    simp only [List.length_append, List.length_singleton, List.append_assoc,
      List.singleton_append] at hs
    simp only [List.append_assoc, List.map_cons, List.cons_append]
    refine .cons ?_ hs
    rw [tokensOf_equalityTemplate h.1]
    exact spells_test (by rw [Test.bind?, bound_append]; rfl)

theorem tokensOf_words {language : String} (hl : Query.isLanguage language = true) (n : Nat) :
    tokensOf [.fixed ("\"search_tsv\" @@ plainto_tsquery('" ++ language ++ "', "), .ref n,
      .fixed ")"] = (Test.matchesWords "search_tsv" language n).tokens := by
  rw [tokensOf_cons, tokensOf_cons, (tokens_ref n).1, Piece.text_fixed,
    (tokens_language hl rfl).1]
  rfl

theorem tokensOf_wordsOrTitle {language : String} (hl : Query.isLanguage language = true)
    (n : Nat) :
    tokensOf [.fixed ("(\"search_tsv\" @@ plainto_tsquery('" ++ language ++ "', "), .ref n,
        .fixed ") OR \"title\" % ", .ref ((n + 1 : Nat) : Int), .fixed ")"] =
      .mark '(' :: ((Test.matchesWords "search_tsv" language n).tokens ++
        .word "OR" :: ((Test.resembles "title" (n + 1)).tokens ++ [.mark ')'])) := by
  rw [tokensOf_cons, tokensOf_cons, tokensOf_cons, tokensOf_cons, (tokens_ref n).1,
    (tokens_ref (n + 1)).1, Piece.text_fixed, (tokens_language hl rfl).1]
  rfl

/-- The condition of the strategy refers to the query, bound once or twice. -/
theorem spells_textConditions (r : SearchRequest) {language : String}
    (hl : Query.isLanguage language = true) (pre post : List Value) (literal : String) :
    List.Forall₂ (Spells (pre ++ Query.strategyValues r literal ++ post))
      ((Query.matchTemplates r language ((pre.length + 1 : Nat) : Int)).map tokensOf)
      (r.textConditions language) := by
  unfold Query.strategyValues Query.matchTemplates SearchRequest.textConditions
  cases r.strategy with
  | semantic => exact .nil
  | filterOnly => exact .nil
  | fullText =>
    by_cases hz : r.fuzzy = true
    · simp only [hz, if_true, List.map_cons, List.map_nil]
      refine .cons ?_ .nil
      have h2 : bound? (pre ++ [r.query, r.query] ++ post) (pre.length + 1 + 1) =
          some r.query := by
        simpa using bound_append (pre ++ [r.query]) r.query post
      have hs : ((pre.length + 1 : Nat) : Int) + 1 = ((pre.length + 1 + 1 : Nat) : Int) := rfl
      rw [hs, tokensOf_wordsOrTitle hl, List.append_assoc]
      exact spells_or (by rw [Test.bind?, List.cons_append, bound_append]; rfl)
        (by rw [Test.bind?, ← List.append_assoc, h2]; rfl)
    · simp only [hz, Bool.false_eq_true, if_false, List.map_cons, List.map_nil]
      refine .cons ?_ .nil
      rw [tokensOf_words hl, List.append_assoc]
      exact spells_test (by rw [Test.bind?, List.cons_append, bound_append]; rfl)

/-- **The parts of the clause spell the conditions of the request.** -/
theorem spells_conditions (r : SearchRequest) {language : String}
    (hl : Query.isLanguage language = true) (literal : String) (page : List Value) :
    List.Forall₂ (Spells (r.filterValues ++ Query.strategyValues r literal ++ page))
      ((Query.ownTests r language 1).map tokensOf) (r.conditions language) := by
  have htags := spells_tags [] r.tags
    (r.attributes.map (·.2) ++ Query.strategyValues r literal ++ page)
  have hattributes := spells_attributes r.tags (Query.strategyValues r literal ++ page)
    (fun _ => SearchRequest.name_of_mem_attributes (r := r))
  have htext := spells_textConditions r hl r.filterValues page literal
  -- the numbers of the three parts, as counts of the values bound before them
  have hone : (1 : Int) + r.tags.length = ((r.tags.length + 1 : Nat) : Int) := by
    push_cast; omega
  have hlen : (1 : Int) + r.filterValues.length = ((r.filterValues.length + 1 : Nat) : Int) := by
    push_cast; omega
  unfold Query.ownTests SearchRequest.filterTests SearchRequest.conditions
  rw [hlen, hone, SearchRequest.columns_eq, List.map_append, List.map_append]
  rw [SearchRequest.filterValues_eq] at htext ⊢
  simp only [List.append_assoc, List.nil_append] at htags hattributes htext ⊢
  exact List.rel_append htags (List.rel_append hattributes htext)

end Spelling

namespace Query

/-- A request asks for nothing in particular without filters and without a text to find. -/
theorem conditions_eq_nil_iff {r : SearchRequest} {language : String} :
    r.conditions language = [] ↔
      r.tags = [] ∧ r.subject.isTruthy = false ∧ r.examBoard.isTruthy = false ∧
        r.level.isTruthy = false ∧ r.type.isTruthy = false ∧ r.strategy ≠ .fullText := by
  have ha : r.attributes = [] ↔ r.subject.isTruthy = false ∧ r.examBoard.isTruthy = false ∧
      r.level.isTruthy = false ∧ r.type.isTruthy = false := by
    rw [List.eq_nil_iff_forall_not_mem]
    simpa using SearchRequest.forall_attributes (r := r) (P := fun _ => False)
  have ht : r.textConditions language = [] ↔ r.strategy ≠ .fullText := by
    unfold SearchRequest.textConditions
    cases r.strategy with
    | semantic => simp
    | filterOnly => simp
    | fullText => by_cases hz : r.fuzzy <;> simp [hz]
  unfold SearchRequest.conditions
  rw [List.append_eq_nil_iff, List.append_eq_nil_iff, List.map_eq_nil_iff, List.map_eq_nil_iff,
    ha, ht]
  simp only [and_assoc]

/-- **The WHERE clause of a plan selects what the request asks for.** It is missing only if the
request has no tags and no filters and is not searched for as text. Otherwise it is a condition,
with every reference bound, and a row satisfies it iff the request asks for the row, whatever the
tests say. -/
theorem where_selects {r : SearchRequest} {vector : Option Value} {language : String}
    {plan : Plan} (h : compileFrom r 1 vector (.text language) = .ok plan) :
    (clause (tokens plan.sql) = none ↔
      r.tags = [] ∧ r.subject.isTruthy = false ∧ r.examBoard.isTruthy = false ∧
        r.level.isTruthy = false ∧ r.type.isTruthy = false ∧ r.strategy ≠ .fullText) ∧
    ∀ ts, clause (tokens plan.sql) = some ts →
      ∃ c, Condition.read plan.params ts = some c ∧
        ∀ val, c.Holds val ↔ r.Selects language val := by
  obtain ⟨-, s, q, hs, hl, hq, rfl⟩ := compileFrom_ok h
  obtain rfl : language = s := by simpa using hs
  obtain ⟨literal, hc, -⟩ := parts_ok hq
  have hspells := spells_conditions r hl literal [r.limit, r.offset]
  rw [assemble_sql hc, assemble_params hc, clause_ownStatement r hl (by decide)]
  by_cases hnil : ownTests r language 1 = []
  · rw [hnil, List.map_nil, List.forall₂_nil_left_iff, conditions_eq_nil_iff] at hspells
    rw [if_pos hnil]
    exact ⟨iff_of_true rfl hspells, nofun⟩
  · have hne : r.conditions language ≠ [] := by
      intro h0
      rw [h0, List.forall₂_nil_right_iff, List.map_eq_nil_iff] at hspells
      exact hnil hspells
    rw [if_neg hnil]
    refine ⟨iff_of_false nofun (mt conditions_eq_nil_iff.2 hne), ?_⟩
    rintro ts ⟨⟩
    obtain ⟨c, hread, hholds⟩ := read_intercalate hspells (by simpa using hnil)
    refine ⟨c, ?_, fun val => (hholds val).trans SearchRequest.forall_conditions⟩
    rw [tokensOf_join]
    exact hread

/-- A fuzzy search for words among two tags and a level. -/
theorem where_selects_fuzzy :
    let r : SearchRequest :=
      { query := .text "cells", tags := [.text "biology", .text "cells"], level := .text "GCSE" }
    ∃ plan, compileFrom r 1 none (.text "english") = .ok plan ∧
      clause (tokens plan.sql) ≠ none ∧
      ∀ ts, clause (tokens plan.sql) = some ts →
        ∃ c, Condition.read plan.params ts = some c ∧
          ∀ val, c.Holds val ↔ r.Selects "english" val := by
  intro r
  have hv : HasVector r none := fun hs => by cases hs
  have hl : isLanguage "english" = true := rfl
  obtain ⟨q, -, h⟩ := compileFrom_one hl hv (by decide)
  obtain ⟨hnone, hsome⟩ := where_selects h
  exact ⟨_, h, fun h0 => absurd (hnone.1 h0).1 (by decide), hsome⟩

end Query

end CatalogSearch
