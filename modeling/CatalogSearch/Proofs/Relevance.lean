import Mathlib.Data.List.Chain
import CatalogSearch.Proofs.Compilation
import CatalogSearch.Proofs.Sql.Token

/-!
# What a plan depends on

Filters, order and page are read whatever the strategy. Beside them a semantic search reads its
embedding, a search for words reads its query, its fuzzy flag and its language, and a search by
filters alone reads nothing. What a strategy does not read leaves no trace in the plan: neither in
its text nor among its parameters. So a request without a query has a statement in which nothing is
scored.

* `SearchRequest.Alike`: requests that agree on what every strategy reads.
* `Query.SameInputs`: and on what their own strategy reads.
* `Query.plan_eq_of_sameInputs`: two plans from such requests are equal.
* `Query.words_of_unqueried`: no score is mentioned without a query.
* `Query.plans_by_relevance`: the two together.
-/

namespace CatalogSearch

open Template

/-- **Requests that agree on what every strategy reads**: filters, order and page, and on the
strategy itself. Queries and flags may differ. -/
structure SearchRequest.Alike (r r' : SearchRequest) : Prop where
  tags : r.tags = r'.tags
  subject : r.subject = r'.subject
  examBoard : r.examBoard = r'.examBoard
  level : r.level = r'.level
  type : r.type = r'.type
  sortKey : r.sortKey = r'.sortKey
  sortDirection : r.sortDirection = r'.sortDirection
  limit : r.limit = r'.limit
  offset : r.offset = r'.offset
  strategy : r.strategy = r'.strategy

namespace SearchRequest.Alike

variable {r r' : SearchRequest}

theorem equalities (h : r.Alike r') : r.equalities = r'.equalities := by
  unfold SearchRequest.equalities
  rw [h.subject, h.examBoard, h.level, h.type]

theorem filterValues (h : r.Alike r') : r.filterValues = r'.filterValues := by
  unfold SearchRequest.filterValues
  rw [h.tags, h.equalities]

theorem filterFragments (h : r.Alike r') (n : Int) :
    r.filterFragments n = r'.filterFragments n := by
  unfold SearchRequest.filterFragments columns
  rw [h.tags, h.equalities]

theorem orderKeys (h : r.Alike r') : Query.orderKeys r = Query.orderKeys r' := by
  unfold Query.orderKeys SearchRequest.orderBy
  rw [h.strategy, h.sortKey, h.sortDirection]

end SearchRequest.Alike

namespace Query

/-- **The inputs of a strategy are the same**: nothing for filters alone, the embedding for a
semantic search, and query, fuzzy flag and language for words. -/
def SameInputs (r r' : SearchRequest) (vector vector' : Option Value) (language language' : Value) :
    Prop :=
  match r.strategy with
  | .filterOnly => True
  | .semantic => vector = vector'
  | .fullText => r.query = r'.query ∧ r.fuzzy = r'.fuzzy ∧ language = language'

/-! ### Two runs -/

/-- A plan in closed form: its text and its parameters, the embedding written as `literal`. -/
def planOf (r : SearchRequest) (language literal : String) : Plan where
  sql := (ownStatement r language 1).text
  params := r.filterValues ++ strategyValues r literal ++ [r.limit, r.offset]
  strategy := r.strategy
  tieBreak := orderKeys r

/-- **Every plan has the closed form.** -/
theorem compileFrom_eq_planOf {r : SearchRequest} {n : Int} {vector : Option Value}
    {language : Value} {plan : Plan} (h : compileFrom r n vector language = .ok plan) :
    ∃ s literal, language = .text s ∧
      (r.strategy = .semantic → ∃ v, vector = some v ∧ v.vectorLiteral = .ok literal) ∧
      plan = planOf r s literal := by
  obtain ⟨rfl, s, q, hlanguage, -, hq, rfl⟩ := compileFrom_ok h
  obtain ⟨literal, hc, hliteral⟩ := parts_ok hq
  have horder : (assemble r q).tieBreak = orderKeys r := hc.order
  refine ⟨s, literal, hlanguage, hliteral, ?_⟩
  calc assemble r q
      = ⟨(assemble r q).sql, (assemble r q).params, r.strategy, (assemble r q).tieBreak⟩ := rfl
    _ = planOf r s literal := by rw [assemble_sql hc, assemble_params hc, horder]; rfl

variable {r r' : SearchRequest} {s s' literal literal' : String}

/-- What two strategies write and bind is the same: words in the same language, or an embedding
written in the same way. -/
structure SameWriting (r r' : SearchRequest) (s s' literal literal' : String) : Prop where
  strategy : r.strategy = r'.strategy
  words : r.strategy = .fullText → r.query = r'.query ∧ r.fuzzy = r'.fuzzy ∧ s = s'
  vector : r.strategy = .semantic → literal = literal'

namespace SameWriting

theorem scoreTemplate (h : SameWriting r r' s s' literal literal') (n : Int) :
    Query.scoreTemplate r s n = Query.scoreTemplate r' s' n := by
  unfold Query.scoreTemplate
  rw [← h.strategy]
  cases hs : r.strategy with
  | fullText =>
    obtain ⟨-, hfuzzy, rfl⟩ := h.words hs
    rw [hfuzzy]
  | semantic => rfl
  | filterOnly => rfl

theorem matchTemplates (h : SameWriting r r' s s' literal literal') (n : Int) :
    Query.matchTemplates r s n = Query.matchTemplates r' s' n := by
  unfold Query.matchTemplates
  rw [← h.strategy]
  cases hs : r.strategy with
  | fullText =>
    obtain ⟨-, hfuzzy, rfl⟩ := h.words hs
    rw [hfuzzy]
  | semantic => rfl
  | filterOnly => rfl

theorem slotCount (h : SameWriting r r' s s' literal literal') :
    Query.slotCount r = Query.slotCount r' := by
  unfold Query.slotCount
  rw [← h.strategy]
  cases hs : r.strategy with
  | fullText => rw [(h.words hs).2.1]
  | semantic => rfl
  | filterOnly => rfl

theorem strategyValues (h : SameWriting r r' s s' literal literal') :
    Query.strategyValues r literal = Query.strategyValues r' literal' := by
  unfold Query.strategyValues
  rw [← h.strategy]
  cases hs : r.strategy with
  | fullText =>
    obtain ⟨hquery, hfuzzy, -⟩ := h.words hs
    rw [hquery, hfuzzy]
  | semantic => rw [h.vector hs]
  | filterOnly => rfl

end SameWriting

theorem planOf_congr (h : r.Alike r') (hw : SameWriting r r' s s' literal literal') :
    planOf r s literal = planOf r' s' literal' := by
  have hstatement : ownStatement r s 1 = ownStatement r' s' 1 := by
    unfold ownStatement statement
    rw [h.filterFragments, h.filterValues, h.orderKeys, hw.scoreTemplate, hw.matchTemplates,
      hw.slotCount]
  unfold planOf
  rw [hstatement, h.filterValues, hw.strategyValues, h.limit, h.offset, h.strategy, h.orderKeys]

/-- **What a strategy does not read leaves no trace**: two plans are equal if they come from alike
requests and the inputs of their strategy are the same. -/
theorem plan_eq_of_sameInputs (h : r.Alike r') {n n' : Int} {vector vector' : Option Value}
    {language language' : Value} {plan plan' : Plan}
    (hsame : SameInputs r r' vector vector' language language')
    (hplan : compileFrom r n vector language = .ok plan)
    (hplan' : compileFrom r' n' vector' language' = .ok plan') : plan = plan' := by
  obtain ⟨s, literal, rfl, hliteral, rfl⟩ := compileFrom_eq_planOf hplan
  obtain ⟨s', literal', rfl, hliteral', rfl⟩ := compileFrom_eq_planOf hplan'
  unfold SameInputs at hsame
  refine planOf_congr h ⟨h.strategy, fun hs => ?_, fun hs => ?_⟩
  · rw [hs] at hsame
    obtain ⟨hquery, hfuzzy, hlanguage⟩ := hsame
    exact ⟨hquery, hfuzzy, Value.text.inj hlanguage⟩
  · rw [hs] at hsame
    obtain ⟨v, rfl, hv⟩ := hliteral hs
    obtain ⟨v', rfl, hv'⟩ := hliteral' (h.strategy ▸ hs)
    -- the same embedding is written in the same way
    cases hsame
    exact Except.ok.inj (hv.symm.trans hv')

/-! ### Statements in which nothing is scored -/

/-- The words by which a statement scores: columns, functions and the names of scores. -/
def scoreWords : List String :=
  ["search_tsv", "ts_rank", "similarity(", "rank", "fuzzy_score", "semantic_score", "embedding"]

/-- Characters that stand side by side where nothing is scored. Each word of scores has an
underscore, a bracket, a k or the second of two d behind its first letter. -/
def Unscored (c d : Char) : Prop := d ∉ ['_', '(', 'k'] ∧ ¬ (c = 'd' ∧ d = 'd')

instance : DecidableRel Unscored := fun _ _ => inferInstanceAs (Decidable (_ ∧ _))

theorem not_isChain_of_scoreWords {word : String} (h : word ∈ scoreWords) :
    ¬ word.toList.IsChain Unscored := by
  revert word
  decide

/-- A piece by which nothing is scored, even if a d stands in front of it. -/
def Plain (x : Piece) : Prop := ('d' :: x.text.toList).IsChain Unscored

instance : DecidablePred Plain := fun _ => inferInstanceAs (Decidable (List.IsChain _ _))

/-- What may stand behind a d may stand behind any character. -/
theorem isChain_append {a b : List Char} (ha : ('d' :: a).IsChain Unscored)
    (hb : ('d' :: b).IsChain Unscored) : ('d' :: (a ++ b)).IsChain Unscored := by
  rw [← List.cons_append, List.isChain_append]
  refine ⟨ha, hb.tail, fun x _ y hy => ?_⟩
  cases b with
  | nil => exact nomatch hy
  | cons c b =>
    obtain rfl : c = y := Option.some.inj hy
    obtain ⟨⟨hc, hd⟩, -⟩ := List.isChain_cons_cons.1 hb
    exact ⟨hc, fun h => hd ⟨rfl, h.2⟩⟩

/-- A digit may stand behind anything. -/
theorem unscored_of_isDigit (c : Char) {d : Char} (h : d.isDigit = true) : Unscored c d := by
  have hne : ∀ e : Char, e.isDigit = false → d ≠ e := by
    rintro e he rfl
    exact nomatch h.symm.trans he
  refine ⟨?_, fun hboth => hne 'd' rfl hboth.2⟩
  simp only [List.mem_cons, not_or]
  exact ⟨hne '_' rfl, hne '(' rfl, hne 'k' rfl, List.not_mem_nil⟩

theorem isChain_of_isDigit {cs : List Char} (h : ∀ c ∈ cs, c.isDigit = true) (c : Char) :
    (c :: cs).IsChain Unscored := by
  induction cs generalizing c with
  | nil => exact .singleton c
  | cons d cs ih =>
    rw [List.forall_mem_cons] at h
    exact List.isChain_cons_cons.2 ⟨unscored_of_isDigit c h.1, ih h.2 d⟩

theorem plain_ref {n : Int} (h : 0 ≤ n) : Plain (.ref n) := by
  obtain ⟨n, rfl⟩ := Int.eq_ofNat_of_zero_le h
  have hdigits : ∀ c ∈ Nat.toDigits 10 n, c.isDigit = true := fun c hc =>
    Nat.isDigit_of_mem_toDigits (by decide) (by decide) hc
  unfold Plain
  rw [Sql.toList_ref]
  exact isChain_append (a := ['$']) (by decide) (isChain_of_isDigit hdigits 'd')

theorem isChain_text {t : Template} (h : ∀ x ∈ t, Plain x) :
    ('d' :: t.text.toList).IsChain Unscored := by
  induction t with
  | nil => simp
  | cons x t ih =>
    rw [List.forall_mem_cons] at h
    rw [text_cons, String.toList_append]
    exact isChain_append h.1 (ih h.2)

set_option maxRecDepth 2000 in
theorem plain_columns : Plain (.fixed ("SELECT " ++ resourceColumns)) := by
  decide

/-- **Nothing is scored in the statement of filters alone.** -/
theorem plain_ownStatement (hs : r.strategy = .filterOnly) (language : String) {n : Int}
    (hn : 0 ≤ n) : ∀ x ∈ ownStatement r language n, Plain x := by
  have hrefs : ∀ m, n ≤ m → Plain (.ref m) := fun m hm => plain_ref (by omega)
  have hcolumns : ownColumns r language n = [.fixed "\nFROM \"resources\""] := by
    rw [ownColumns, Query.scoreTemplate, hs]
    rfl
  have htests : ownTests r language n = r.filterTests n := by
    rw [ownTests, Query.matchTemplates, hs, List.append_nil]
  have horder : Plain (.fixed (orderText r)) := by
    rw [orderText, orderKeys, hs, SearchRequest.orderBy]
    cases r.sortKey <;> cases r.sortDirection <;> decide
  rw [ownStatement_eq, hcolumns, htests]
  simp only [List.forall_mem_cons, List.forall_mem_append, List.cons_append, List.nil_append]
  exact ⟨plain_columns, by decide,
    ⟨forall_whereTemplate (by decide) (by decide) (forall_filterTests r (by decide) hrefs),
      horder, plain_ref (by omega), by decide, plain_ref (by omega), by simp⟩⟩

/-- **Without a query no score is mentioned**, whatever the filters are. -/
theorem words_of_unqueried (hquery : r.query.isTruthy = false) {n : Int}
    {vector : Option Value} {language : Value} {plan : Plan}
    (h : compileFrom r n vector language = .ok plan) :
    ∀ word ∈ scoreWords, ¬ word.toList <:+: plan.sql.toList := by
  have hs : r.strategy = .filterOnly := by simp [SearchRequest.strategy, hquery]
  obtain ⟨s, literal, -, -, rfl⟩ := compileFrom_eq_planOf h
  have hchain := isChain_text (plain_ownStatement hs s (n := 1) (by decide))
  intro word hword hinfix
  have hpart := List.IsChain.infix hchain.tail hinfix
  exact not_isChain_of_scoreWords hword hpart

/-! ### Relevance -/

/-- **A plan depends on what its strategy reads.** Of two requests that agree on filters, order,
page and strategy, all plans are the same as soon as the requests agree on what the strategy reads:
nothing more for filters alone, the embedding for a semantic search, and query, fuzzy flag and
language for words. And the statement of a request without a query mentions no score. -/
theorem plans_by_relevance :
    (∀ (r r' : SearchRequest) (n n' : Int) (vector vector' : Option Value)
        (asked asked' configured configured' : Value) (plan plan' : Plan),
      r.Alike r' →
      SameInputs r r' vector vector' (effectiveLanguage asked configured)
        (effectiveLanguage asked' configured') →
      compileFrom r n vector (effectiveLanguage asked configured) = .ok plan →
      compileFrom r' n' vector' (effectiveLanguage asked' configured') = .ok plan' →
      plan = plan') ∧
    ∀ (r : SearchRequest) (n : Int) (vector : Option Value) (asked configured : Value)
        (plan : Plan),
      r.query.isTruthy = false →
      compileFrom r n vector (effectiveLanguage asked configured) = .ok plan →
      ∀ word ∈ scoreWords, ¬ word.toList <:+: plan.sql.toList := by
  constructor
  · intro r r' n n' vector vector' asked asked' configured configured' plan plan' h hsame
    exact plan_eq_of_sameInputs h hsame
  · intro r n vector asked configured plan hquery
    exact words_of_unqueried hquery

/-- Two semantic searches with one embedding differ in query, fuzzy flag and language, and a
subject that is called like a score is bound and not written. -/
theorem plans_by_relevance_semantic :
    let r : SearchRequest :=
      { query := .text "cells", tags := [.text "biology"], semantic := true }
    let r' : SearchRequest :=
      { query := .text "similarity(", tags := [.text "biology"], fuzzy := false, semantic := true }
    let unqueried : SearchRequest := { subject := .text "embedding", semantic := true }
    let vector : Option Value := some (.list [.float (.finite false .zero)])
    (∃ plan, compileFrom r 1 vector (effectiveLanguage .null (.text "english")) = .ok plan ∧
      compileFrom r' 1 vector (effectiveLanguage (.text "simple") (.text "english")) = .ok plan) ∧
    ∃ plan, compileFrom unqueried 1 none (effectiveLanguage .null (.text "english")) = .ok plan ∧
      ∀ word ∈ scoreWords, ¬ word.toList <:+: plan.sql.toList := by
  intro r r' unqueried vector
  have halike : r.Alike r' := ⟨rfl, rfl, rfl, rfl, rfl, rfl, rfl, rfl, rfl, rfl⟩
  have hvector : ∃ v, vector = some v ∧ v.IsVector :=
    ⟨_, rfl, _, rfl, List.forall_mem_singleton.2 ⟨_, rfl⟩⟩
  obtain ⟨q, -, hplan⟩ := @compileFrom_one r vector "english" rfl (fun _ => hvector) (by decide)
  obtain ⟨q', -, hplan'⟩ := @compileFrom_one r' vector "simple" rfl (fun _ => hvector) (by decide)
  obtain ⟨q₀, -, hplan₀⟩ := @compileFrom_one unqueried none "english" rfl nofun (by decide)
  have hsame : assemble r q = assemble r' q' :=
    plans_by_relevance.1 r r' 1 1 vector vector .null (.text "simple") (.text "english")
      (.text "english") _ _ halike rfl hplan hplan'
  refine ⟨⟨_, hplan, ?_⟩, _, hplan₀, ?_⟩
  · rw [hsame]
    exact hplan'
  · exact plans_by_relevance.2 unqueried 1 none .null (.text "english") _ rfl hplan₀

end Query

end CatalogSearch
