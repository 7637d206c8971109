import CatalogSearch.Proofs.Compilation

/-!
# What a statement shows of its request

The text of a statement depends on the `Shape` of the request alone: how many tags there are, which
filters are given, whether there is a query, the two flags and the order. Everything a user writes
is bound as a value.

* `Query.ownStatement_congr`: requests of one shape have the same template.
* `Query.compileFrom_outline`: and they are compiled alike, refusals included.
* `Query.plans_of_shape`: two runs give plans that differ in bound values only.
-/

namespace CatalogSearch

open Template

/-- What shows of a request in the text of its statement. -/
structure Shape where
  tagCount : Nat
  subject : Bool
  examBoard : Bool
  level : Bool
  type : Bool
  query : Bool
  fuzzy : Bool
  semantic : Bool
  sortKey : SortKey
  sortDirection : SortDirection
deriving DecidableEq

/-- **The shape of a request**: texts count only as given or not given. -/
def SearchRequest.shape (r : SearchRequest) : Shape where
  tagCount := r.tags.length
  subject := r.subject.isTruthy
  examBoard := r.examBoard.isTruthy
  level := r.level.isTruthy
  type := r.type.isTruthy
  query := r.query.isTruthy
  fuzzy := r.fuzzy
  semantic := r.semantic
  sortKey := r.sortKey
  sortDirection := r.sortDirection

/-- What is seen of a plan without its values. -/
def Plan.outline (p : Plan) : String × Strategy × List String × Nat :=
  (p.sql, p.strategy, p.tieBreak, p.params.length)

variable {r r' : SearchRequest}

namespace SearchRequest

theorem strategy_congr (h : r.shape = r'.shape) : r.strategy = r'.strategy := by
  have hq : r.query.isTruthy = r'.query.isTruthy := congrArg Shape.query h
  have hs : r.semantic = r'.semantic := congrArg Shape.semantic h
  simp only [strategy, hq, hs]

theorem columns_congr (h : r.shape = r'.shape) : r.columns = r'.columns := by
  have h1 : r.subject.isTruthy = r'.subject.isTruthy := congrArg Shape.subject h
  have h2 : r.examBoard.isTruthy = r'.examBoard.isTruthy := congrArg Shape.examBoard h
  have h3 : r.level.isTruthy = r'.level.isTruthy := congrArg Shape.level h
  have h4 : r.type.isTruthy = r'.type.isTruthy := congrArg Shape.type h
  -- each column is there or not, by itself
  have hcol : ∀ q : SearchRequest, q.columns =
      (if q.subject.isTruthy then ["\"subject\""] else []) ++
        (if q.examBoard.isTruthy then ["\"examboard\""] else []) ++
        (if q.level.isTruthy then ["\"level\""] else []) ++
        (if q.type.isTruthy then ["\"type\""] else []) := by
    intro q
    simp only [columns, PredicateSet.given, equalities, List.filter_cons, List.filter_nil]
    split_ifs <;> rfl
  rw [hcol, hcol, h1, h2, h3, h4]

theorem length_tags_congr (h : r.shape = r'.shape) : r.tags.length = r'.tags.length :=
  congrArg Shape.tagCount h

theorem fuzzy_congr (h : r.shape = r'.shape) : r.fuzzy = r'.fuzzy := congrArg Shape.fuzzy h

theorem length_filterValues_congr (h : r.shape = r'.shape) :
    r.filterValues.length = r'.filterValues.length := by
  rw [length_filterValues, length_filterValues, length_tags_congr h, columns_congr h]

theorem filterFragments_congr (h : r.shape = r'.shape) (n : Int) :
    r.filterFragments n = r'.filterFragments n := by
  have ht : r.tags = [] ↔ r'.tags = [] := by
    rw [← List.length_eq_zero_iff, length_tags_congr h, List.length_eq_zero_iff]
  unfold filterFragments
  rw [length_tags_congr h, columns_congr h]
  simp only [ht]

end SearchRequest

namespace Query

open SearchRequest

theorem slotCount_congr (h : r.shape = r'.shape) : slotCount r = slotCount r' := by
  unfold slotCount
  rw [strategy_congr h, fuzzy_congr h]

theorem paramCount_congr (h : r.shape = r'.shape) : paramCount r = paramCount r' := by
  unfold paramCount
  rw [length_filterValues_congr h, slotCount_congr h]

theorem orderKeys_congr (h : r.shape = r'.shape) : orderKeys r = orderKeys r' := by
  have hk : r.sortKey = r'.sortKey := congrArg Shape.sortKey h
  have hd : r.sortDirection = r'.sortDirection := congrArg Shape.sortDirection h
  unfold orderKeys orderBy
  rw [strategy_congr h, hk, hd]

/-- **Requests of one shape have the same statement.** -/
theorem ownStatement_congr (h : r.shape = r'.shape) (language : String) (n : Int) :
    ownStatement r language n = ownStatement r' language n := by
  unfold ownStatement statement scoreTemplate matchTemplates
  rw [filterFragments_congr h, length_filterValues_congr h, slotCount_congr h, orderKeys_congr h,
    strategy_congr h, fuzzy_congr h]

theorem outline_assemble {n : Int} {literal language : String} {q : Parts}
    (hc : Contributes r (r.predicates n) language literal q) :
    (assemble r q).outline =
      ((ownStatement r language n).text, r.strategy, orderKeys r, paramCount r) := by
  unfold Plan.outline
  rw [assemble_sql hc, length_assemble_params hc]
  unfold assemble
  rw [hc.order]

/-- **Requests of one shape are compiled alike**, from any start on: with accepted vectors their
plans differ in bound values only, and one is refused for the same reason as the other. -/
theorem compileFrom_outline (h : r.shape = r'.shape) {vector vector' : Option Value}
    (hv : HasVector r vector) (hv' : HasVector r' vector') (n : Int) (language : Value) :
    (compileFrom r n vector language).map Plan.outline =
      (compileFrom r' n vector' language).map Plan.outline := by
  cases hl : checkLanguage language with
  | error why =>
    have he : ∀ (q : SearchRequest) (w : Option Value),
        compile q (q.predicates n) w language = .error why := by
      intro q w; unfold compile; rw [hl]
    rw [compileFrom_eq, compileFrom_eq, he, he, length_filterValues_congr h]
  | ok s =>
    obtain ⟨rfl, hs⟩ := checkLanguage_eq_ok_iff.1 hl
    have hnext : (r.predicates n).canRefer 1 = (r'.predicates n).canRefer 1 := by
      unfold PredicateSet.canRefer
      rw [predicates_eq, predicates_eq, length_filterValues_congr h]
    by_cases hp : (r'.predicates n).canRefer 1 = true
    · obtain ⟨q, hq⟩ := exists_parts s (hnext.trans hp) hv.literal
      obtain ⟨q', hq'⟩ := exists_parts s hp hv'.literal
      obtain ⟨_, hc, -⟩ := parts_ok hq
      obtain ⟨_, hc', -⟩ := parts_ok hq'
      have ho : (assemble r q).outline = (assemble r' q').outline := by
        rw [outline_assemble hc, outline_assemble hc', ownStatement_congr h, strategy_congr h,
          orderKeys_congr h, paramCount_congr h]
      rw [compileFrom_of_parts hs hq, compileFrom_of_parts hs hq', paramCount_congr h,
        ownStatement_congr h]
      split_ifs
      · exact congrArg Except.ok ho
      · rfl
      · rfl
    · rw [compileFrom_eq, compileFrom_eq,
        compile_of_not_canRefer hs hv (by simpa [hnext] using hp),
        compile_of_not_canRefer hs hv' (by simpa using hp), length_filterValues_congr h]

/-- **No text of a user reaches the statement.** Two requests of one shape, with any two accepted
vectors and in the same accepted language, give plans with the same text, strategy, order and
number of parameters. As before, `hr` holds of every list in memory. -/
theorem plans_of_shape {r r' : SearchRequest} (h : r.shape = r'.shape)
    {vector vector' : Option Value}
    (hv : r.strategy = .semantic → ∃ v, vector = some v ∧ v.IsVector)
    (hv' : r'.strategy = .semantic → ∃ v, vector' = some v ∧ v.IsVector)
    {language : String} (hl : isLanguage language = true) (hr : r.tags.length < 2 ^ 63) :
    ∃ plan plan', compileFrom r 1 vector (.text language) = .ok plan ∧
      compileFrom r' 1 vector' (.text language) = .ok plan' ∧
      plan.sql = plan'.sql ∧ plan.strategy = plan'.strategy ∧ plan.tieBreak = plan'.tieBreak ∧
      plan.params.length = plan'.params.length := by
  obtain ⟨q, -, hq⟩ := compileFrom_one hl hv hr
  obtain ⟨q', -, hq'⟩ := compileFrom_one hl hv' (by rw [← length_tags_congr h]; exact hr)
  have ho := compileFrom_outline h hv hv' 1 (.text language)
  rw [hq, hq'] at ho
  simp only [Except.map, Except.ok.injEq, Plan.outline, Prod.mk.injEq] at ho
  exact ⟨_, _, hq, hq', ho⟩

/-- A semantic search for hostile text beside a harmless one, each with a vector of its own. -/
theorem plans_of_shape_hostile :
    let r : SearchRequest :=
      { query := .text "cells", tags := [.text "biology"], subject := .text "Science",
        semantic := true }
    let r' : SearchRequest :=
      { query := .text "$1", tags := [.text "'] OR 1=1; --"],
        subject := .text "x'; DROP TABLE resources; --", limit := .int 1, offset := .int 7,
        semantic := true }
    let v : Value := .list [.float (.infinite true), .bool true]
    let v' : Value := .list []
    (r.shape = r'.shape ∧ v.IsVector ∧ v'.IsVector ∧ isLanguage "english" = true ∧
      r.tags.length < 2 ^ 63) ∧
    ∃ plan plan', compileFrom r 1 (some v) (.text "english") = .ok plan ∧
      compileFrom r' 1 (some v') (.text "english") = .ok plan' ∧
      plan.sql = plan'.sql ∧ plan.strategy = plan'.strategy ∧ plan.tieBreak = plan'.tieBreak ∧
      plan.params.length = plan'.params.length := by
  intro r r' v v'
  have h : r.shape = r'.shape := by decide
  have hv : v.IsVector := ⟨_, rfl, by
    intro x hx
    simp only [List.mem_cons, List.not_mem_nil, or_false] at hx
    rcases hx with rfl | rfl
    · exact ⟨_, rfl⟩
    · exact ⟨_, rfl⟩⟩
  have hv' : v'.IsVector := ⟨[], rfl, by simp⟩
  have hl : isLanguage "english" = true := rfl
  have hr : r.tags.length < 2 ^ 63 := by decide
  exact ⟨⟨h, hv, hv', hl, hr⟩,
    plans_of_shape h (fun _ => ⟨v, rfl, hv⟩) (fun _ => ⟨v', rfl, hv'⟩) hl hr⟩

end Query

end CatalogSearch
