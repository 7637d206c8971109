import CatalogSearch.Proofs.Counts
import CatalogSearch.Proofs.Embedding
import CatalogSearch.Search

/-!
# The calls of a search

A search calls the embedding service at most once and the store at most once, in this order. Whether
the query is to be embedded is decided before the request is compiled, and whether a vector is
needed while it is compiled; both times it is the strategy that decides, so the compiler never
misses a vector. Before all calls the start is logged, for which the page size has to be writable.

* `Outcome.calls`: the calls in a trace.
* `Search.Begins`: the request of a search whose start can be logged.
* `Search.Protocol`: what a search calls, by what its parameters and its services give.
* `Search.run_protocol`: every search keeps to the protocol.
-/

namespace CatalogSearch

/-- A call of one of the services. -/
inductive Call where
  | embed (text : Value)
  | fetch (statement : Statement)

/-- The text that a call wants embedded. -/
def Call.text? : Call → Option Value
  | embed v => some v
  | fetch _ => none

def Event.call? : Event → Option Call
  | embeds v => some (.embed v)
  | fetches stmt => some (.fetch stmt)
  | effect _ => none

namespace Outcome

variable {α β : Type} {o : Outcome Event α} {f : α → Outcome Event β}

/-- **The calls in a trace**, first to last. -/
def calls (o : Outcome Event α) : List Call := o.events.filterMap Event.call?

theorem calls_after (es : List Event) :
    (o.after es).calls = es.filterMap Event.call? ++ o.calls := by
  simp [calls, after]

/-- A service calls nothing itself; what others see of it is no call of the search. -/
theorem calls_within (o : Outcome Effect α) : (o.within Event.effect).calls = [] := by
  simp [calls, within, List.filterMap_map, Event.call?]

theorem calls_andThen_of_ok {a : α} (h : o.result = .ok a) :
    (o.andThen f).calls = o.calls ++ (f a).calls := by
  rw [andThen_of_ok h, calls_after]
  rfl

theorem calls_andThen_of_error {e : Failure} (h : o.result = .error e) :
    (o.andThen f).calls = o.calls := by
  rw [andThen_of_error h]
  rfl

end Outcome

namespace Search

variable {st : Settings} {sv : Services} {id : String} {ps : Parameters} {r : SearchRequest}
variable {vector : Option Value}

/-- The calls that get the embedding of a request's query. -/
def embedCalls (r : SearchRequest) : List Call :=
  if r.strategy = .semantic then [.embed r.query] else []

/-- The call that fetches the rows of a plan. -/
def fetchCall (plan : Plan) : Call := .fetch ⟨plan.sql, plan.params⟩

/-- What the embedding service does, as a part of the search. -/
def embedding (sv : Services) (r : SearchRequest) : Outcome Event (List Value) :=
  ((sv.embed r.query).within Event.effect).after [.embeds r.query]

/-- What the store does, as a part of the search. -/
def fetching (sv : Services) (plan : Plan) : Outcome Event (List Row) :=
  ((sv.rows ⟨plan.sql, plan.params⟩).within Event.effect).after [.fetches ⟨plan.sql, plan.params⟩]

theorem calls_embedding (sv : Services) (r : SearchRequest) :
    (embedding sv r).calls = [.embed r.query] := by
  rw [embedding, Outcome.calls_after, Outcome.calls_within]
  rfl

theorem calls_fetching (sv : Services) (plan : Plan) :
    (fetching sv plan).calls = [fetchCall plan] := by
  rw [fetching, Outcome.calls_after, Outcome.calls_within]
  rfl

theorem queryVector_of_eq (h : r.strategy = .semantic) :
    queryVector sv r = (embedding sv r).andThen fun vector => .ok (some (.list vector)) := by
  unfold queryVector
  rw [h]
  rfl

theorem queryVector_of_ne (h : r.strategy ≠ .semantic) : queryVector sv r = .ok none := by
  unfold queryVector
  cases hs : r.strategy with
  | semantic => exact absurd hs h
  | fullText => rfl
  | filterOnly => rfl

/-- The embedding is asked for once if the search is semantic, whatever comes back. -/
theorem calls_queryVector (sv : Services) (r : SearchRequest) :
    (queryVector sv r).calls = embedCalls r := by
  by_cases hs : r.strategy = .semantic
  · rw [queryVector_of_eq hs, embedCalls, if_pos hs]
    cases he : (embedding sv r).result with
    | ok v =>
      rw [Outcome.calls_andThen_of_ok he, calls_embedding]
      rfl
    | error e => rw [Outcome.calls_andThen_of_error he, calls_embedding]
  · rw [queryVector_of_ne hs, embedCalls, if_neg hs]
    rfl

theorem queryVector_ok_iff :
    (queryVector sv r).result = .ok vector ↔
      if r.strategy = .semantic then
        ∃ v, (sv.embed r.query).result = .ok v ∧ vector = some (.list v)
      else vector = none := by
  by_cases hs : r.strategy = .semantic
  · rw [queryVector_of_eq hs, if_pos hs]
    change _ ↔ ∃ v, (embedding sv r).result = .ok v ∧ _
    cases he : (embedding sv r).result with
    | ok v =>
      rw [Outcome.andThen_of_ok he]
      simp [Outcome.after, Outcome.ok, eq_comm]
    | error e =>
      rw [Outcome.andThen_of_error he]
      simp
  · rw [queryVector_of_ne hs, if_neg hs]
    simp [Outcome.ok, eq_comm]

/-- There is no vector where one is asked for in vain. -/
theorem queryVector_error_iff {e : Failure} :
    (queryVector sv r).result = .error e ↔
      r.strategy = .semantic ∧ (sv.embed r.query).result = .error e := by
  by_cases hs : r.strategy = .semantic
  · rw [queryVector_of_eq hs, and_iff_right hs]
    change _ ↔ (embedding sv r).result = .error e
    cases he : (embedding sv r).result with
    | ok v =>
      rw [Outcome.andThen_of_ok he]
      exact iff_of_false nofun nofun
    | error why =>
      rw [Outcome.andThen_of_error he]
      simp
  · rw [queryVector_of_ne hs]
    exact iff_of_false nofun fun h => hs h.1

theorem execute_eq (sv : Services) (r : SearchRequest) (plan : Plan) :
    execute sv r plan = (fetching sv plan).andThen fun rows =>
      match readRows rows with
      | .ok hits => .ok ⟨hits, r.fuzzy, r.semantic⟩
      | .error e => .fail e := rfl

/-- The rows are asked for once, whatever comes back. -/
theorem calls_execute (sv : Services) (r : SearchRequest) (plan : Plan) :
    (execute sv r plan).calls = [fetchCall plan] := by
  rw [execute_eq]
  cases h : (fetching sv plan).result with
  | ok rows =>
    rw [Outcome.calls_andThen_of_ok h, calls_fetching]
    cases readRows rows <;> rfl
  | error e => rw [Outcome.calls_andThen_of_error h, calls_fetching]

theorem execute_error {plan : Plan} {e : Failure}
    (h : (sv.rows ⟨plan.sql, plan.params⟩).result = .error e) :
    (execute sv r plan).result = .error e := by
  have hf : (fetching sv plan).result = .error e := h
  rw [execute_eq, Outcome.andThen_of_error hf]

/-! ### The start of a search -/

/-- The start of a search can be logged iff query and page can be written. -/
theorem exists_startNote_iff {p : PredicateSet} :
    (∃ line, startNote id r p = .ok line) ↔
      r.query.isWritable = true ∧ r.limit.isWritable = true ∧ r.offset.isWritable = true := by
  rw [← Value.exists_shown?_iff, ← Value.exists_written?_iff, ← Value.exists_written?_iff]
  simp only [startNote, bind_eq_ok_iff]
  constructor
  · rintro ⟨_, query, hq, limit, hl, offset, ho, -⟩
    exact ⟨⟨query, hq⟩, ⟨limit, hl⟩, ⟨offset, ho⟩⟩
  · rintro ⟨⟨query, hq⟩, ⟨limit, hl⟩, ⟨offset, ho⟩⟩
    exact ⟨_, query, hq, limit, hl, offset, ho, rfl⟩

/-- A count that has been read can be written, if the default can. -/
theorem isWritable_of_parseCount {raw field : String} {fallback v : Value}
    (h : parseCount raw field fallback = .ok v) (hf : fallback.isWritable = true) :
    v.isWritable = true := by
  rcases Parameters.parseCount_ok h with ⟨-, rfl⟩ | ⟨n, rfl, hn⟩
  · exact hf
  · exact Parameters.isWritable_of_le_maxCount hn

/-- **A search begins** with the request of its parameters, if that can be logged. -/
def Begins (st : Settings) (ps : Parameters) (r : SearchRequest) : Prop :=
  ps.normalize st.defaultPageSize st.maxPageSize = .ok r ∧ r.limit.isWritable = true

theorem Begins.exists_startNote (h : Begins st ps r) (id : String) (p : PredicateSet) :
    ∃ line, startNote id r p = .ok line := by
  obtain ⟨hr, hlimit⟩ := h
  obtain ⟨-, _, _, offset, _, -, -, hoffset, -, rfl⟩ := Parameters.normalize_eq_ok_iff.1 hr
  have hzero : (Value.int 0).isWritable = true := by decide +kernel
  exact exists_startNote_iff.2 ⟨rfl, hlimit, isWritable_of_parseCount hoffset hzero⟩

/-- With a default page size that can be written, every request begins a search. -/
theorem begins_of_normalize (hr : ps.normalize st.defaultPageSize st.maxPageSize = .ok r)
    (hdefault : st.defaultPageSize.isWritable = true) : Begins st ps r := by
  refine ⟨hr, ?_⟩
  obtain ⟨-, asked, limit, _, _, hasked, hclamp, -, -, rfl⟩ := Parameters.normalize_eq_ok_iff.1 hr
  -- a page size that is clamped is the maximum, which has been written by then
  obtain hbelow | ⟨habove, -, hmaximum⟩ :=
    (Parameters.exists_clampLimit_iff asked st.maxPageSize).1 ⟨limit, hclamp⟩
  · cases hclamp.symm.trans (Parameters.clampLimit_of_ok_false hbelow)
    exact isWritable_of_parseCount hasked hdefault
  · have hasked' := isWritable_of_parseCount hasked hdefault
    cases hclamp.symm.trans (Parameters.clampLimit_of_ok_true habove hasked' hmaximum)
    exact hmaximum

theorem run_of_normalize (h : ps.normalize st.defaultPageSize st.maxPageSize = .ok r) :
    run st sv id ps = ofRequest st sv id r := by
  unfold run; rw [h]

/-- A search whose start cannot be logged ends there. -/
theorem run_of_unwritable (h : ps.normalize st.defaultPageSize st.maxPageSize = .ok r)
    (hlimit : r.limit.isWritable = false) :
    (run st sv id ps).calls = [] ∧ ∃ why, (run st sv id ps).result = .error (.unwritten why) := by
  cases hnote : startNote id r (r.predicates 1) with
  | ok line =>
    have hwritable := (exists_startNote_iff.1 ⟨line, hnote⟩).2.1
    exact nomatch hlimit.symm.trans hwritable
  | error why =>
    have hrun : run st sv id ps = .fail (.unwritten why) := by
      rw [run_of_normalize h, ofRequest, hnote]
      rfl
    rw [hrun]
    exact ⟨rfl, why, rfl⟩

/-- **What a search does once it has begun.** -/
theorem run_of_begins (h : Begins st ps r) :
    ∃ line, run st sv id ps = (proceed st sv r).after [.effect (.logged line)] := by
  obtain ⟨line, hnote⟩ := h.exists_startNote id (r.predicates 1)
  refine ⟨line, ?_⟩
  rw [run_of_normalize h.1, ofRequest, hnote]
  exact Outcome.andThen_of_ok rfl

/-! ### The course of a search -/

/-- **A search whose request compiles** fetches the rows of its plan, after the embedding. -/
theorem run_of_plan {plan : Plan} (h : Begins st ps r)
    (hv : (queryVector sv r).result = .ok vector)
    (hp : Query.compile r (r.predicates 1) vector
      (Query.effectiveLanguage .null st.searchLanguage) = .ok plan) :
    (run st sv id ps).calls = embedCalls r ++ [fetchCall plan] ∧
      (run st sv id ps).result = (execute sv r plan).result := by
  obtain ⟨line, hrun⟩ := run_of_begins h
  rw [hrun, proceed]
  constructor
  · rw [Outcome.calls_after, Outcome.calls_andThen_of_ok hv, calls_queryVector, hp,
      calls_execute]
    rfl
  · rw [Outcome.andThen_of_ok hv, hp]
    rfl

theorem run_of_refusal {why : CompileRefusal} (h : Begins st ps r)
    (hv : (queryVector sv r).result = .ok vector)
    (hp : Query.compile r (r.predicates 1) vector
      (Query.effectiveLanguage .null st.searchLanguage) = .error why) :
    (run st sv id ps).calls = embedCalls r ∧
      (run st sv id ps).result = .error (.compile why) := by
  obtain ⟨line, hrun⟩ := run_of_begins h
  rw [hrun, proceed]
  constructor
  · rw [Outcome.calls_after, Outcome.calls_andThen_of_ok hv, calls_queryVector, hp]
    exact List.append_nil _
  · rw [Outcome.andThen_of_ok hv, hp]
    rfl

/-- A failed embedding ends the search, and nothing else is tried. -/
theorem run_of_error {e : Failure} (h : Begins st ps r)
    (hv : (queryVector sv r).result = .error e) :
    (run st sv id ps).calls = embedCalls r ∧ (run st sv id ps).result = .error e := by
  obtain ⟨line, hrun⟩ := run_of_begins h
  rw [hrun, proceed]
  constructor
  · rw [Outcome.calls_after, Outcome.calls_andThen_of_error hv, calls_queryVector]
    rfl
  · rw [Outcome.andThen_of_error hv]
    rfl

/-- Every way a search goes, the store is called once or not at all, and last. -/
theorem calls_run (sv : Services) (id : String) (h : Begins st ps r) :
    (run st sv id ps).calls = embedCalls r ∨
      ∃ plan, (run st sv id ps).calls = embedCalls r ++ [fetchCall plan] := by
  cases hv : (queryVector sv r).result with
  | error e => exact Or.inl (run_of_error h hv).1
  | ok vector =>
    cases hp : Query.compile r (r.predicates 1) vector
        (Query.effectiveLanguage .null st.searchLanguage) with
    | error why => exact Or.inl (run_of_refusal h hv hp).1
    | ok plan => exact Or.inr ⟨plan, (run_of_plan h hv hp).1⟩

/-- What a request is compiled with: the embedding of the query if the parameters ask for one. -/
def Embedded (sv : Services) (ps : Parameters) (vector : Option Value) : Prop :=
  if ps.IsSemantic then
    ∃ v, (sv.embed (.text (ps.textOf "query"))).result = .ok v ∧ vector = some (.list v)
  else vector = none

theorem embedCalls_of_normalize
    (h : ps.normalize st.defaultPageSize st.maxPageSize = .ok r) :
    embedCalls r = if ps.IsSemantic then [.embed (.text (ps.textOf "query"))] else [] := by
  unfold embedCalls
  rw [Parameters.query_of_normalize h]
  by_cases hs : ps.IsSemantic
  · rw [if_pos ((Parameters.strategy_eq_semantic_iff h).2 hs), if_pos hs]
  · rw [if_neg (mt (Parameters.strategy_eq_semantic_iff h).1 hs), if_neg hs]

theorem queryVector_of_embedded
    (h : ps.normalize st.defaultPageSize st.maxPageSize = .ok r) (hv : Embedded sv ps vector) :
    (queryVector sv r).result = .ok vector := by
  unfold Embedded at hv
  rw [queryVector_ok_iff, Parameters.query_of_normalize h]
  by_cases hs : ps.IsSemantic
  · rw [if_pos hs] at hv
    rwa [if_pos ((Parameters.strategy_eq_semantic_iff h).2 hs)]
  · rw [if_neg hs] at hv
    rwa [if_neg (mt (Parameters.strategy_eq_semantic_iff h).1 hs)]

/-- A search compiles if its language is accepted and its embedding, if any, is one of numbers:
the vector is there whenever the compiler needs one. -/
theorem exists_plan {language : String}
    (h : ps.normalize st.defaultPageSize st.maxPageSize = .ok r) (hv : Embedded sv ps vector)
    (hl : Query.isLanguage language = true) (hn : ∀ v, vector = some v → v.IsVector)
    (hr : r.tags.length < 2 ^ 63) :
    ∃ plan, Query.compile r (r.predicates 1) vector (.text language) = .ok plan := by
  have hvector : Query.HasVector r vector := by
    intro hs
    -- compiler and search ask for the same: a strategy that is semantic
    unfold Embedded at hv
    rw [if_pos ((Parameters.strategy_eq_semantic_iff h).1 hs)] at hv
    obtain ⟨v, -, rfl⟩ := hv
    exact ⟨_, rfl, hn _ rfl⟩
  obtain ⟨q, -, hp⟩ := Query.compileFrom_one hl hvector hr
  rw [Query.compileFrom_eq] at hp
  split_ifs at hp
  exact ⟨_, hp⟩

/-- **What a search calls**, and what becomes of it where a call fails. -/
structure Protocol (st : Settings) (sv : Services) (ps : Parameters)
    (o : Outcome Event SearchResponse) : Prop where
  /-- Nothing is called before the parameters are accepted. -/
  refused : ∀ why, ps.normalize st.defaultPageSize st.maxPageSize = .error why →
    o.calls = [] ∧ ∃ e, o.result = .error e
  /-- Nor is anything called if the start cannot be logged, which is so for a page size only that is
  too long; where the default can be written, no request asks for one. -/
  unlogged : ∀ r, ps.normalize st.defaultPageSize st.maxPageSize = .ok r →
    (r.limit.isWritable = false → o.calls = [] ∧ ∃ why, o.result = .error (.unwritten why)) ∧
      (st.defaultPageSize.isWritable = true → Begins st ps r)
  /-- The query is embedded once and as it is, or not at all. -/
  embeds :
    let asked := (∃ r, Begins st ps r) ∧ ps.textOf "query" ≠ "" ∧ ps.textOf "semantic" = "true"
    asked ∧ o.calls.filterMap Call.text? = [.text (ps.textOf "query")] ∨
      ¬ asked ∧ o.calls.filterMap Call.text? = []
  /-- A failed embedding ends the search as it failed. -/
  unembedded : ∀ r e, Begins st ps r → ps.IsSemantic →
    (sv.embed (.text (ps.textOf "query"))).result = .error e →
    o.calls = [.embed (.text (ps.textOf "query"))] ∧ o.result = .error e
  /-- The statement of the plan is fetched once, behind the embedding; its failure is passed on. -/
  fetches : ∀ r vector plan, Begins st ps r → Embedded sv ps vector →
    Query.compile r (r.predicates 1) vector
      (Query.effectiveLanguage .null st.searchLanguage) = .ok plan →
    o.calls = (if ps.IsSemantic then [.embed (.text (ps.textOf "query"))] else []) ++
        [.fetch ⟨plan.sql, plan.params⟩] ∧
      ∀ e, (sv.rows ⟨plan.sql, plan.params⟩).result = .error e → o.result = .error e
  /-- Without a plan nothing is fetched. -/
  unplanned : ∀ r vector why, Begins st ps r → Embedded sv ps vector →
    Query.compile r (r.predicates 1) vector
      (Query.effectiveLanguage .null st.searchLanguage) = .error why →
    o.calls = (if ps.IsSemantic then [.embed (.text (ps.textOf "query"))] else []) ∧
      o.result = .error (.compile why)
  /-- There is a plan if the configured language is accepted and the embedding is of numbers. -/
  plans : ∀ r vector language, Begins st ps r → Embedded sv ps vector →
    st.searchLanguage = .text language → Query.isLanguage language = true →
    (∀ v, vector = some v → v.IsVector) → r.tags.length < 2 ^ 63 →
    ∃ plan, Query.compile r (r.predicates 1) vector
      (Query.effectiveLanguage .null st.searchLanguage) = .ok plan
  /-- With the embedding client behind it, the embedding is of numbers: a search whose embedding
  arrives, or that needs none, fetches exactly once. -/
  client : ∀ depth embedder, sv.embed = Embedding.fetch st depth embedder →
    ∀ r vector language, Begins st ps r → Embedded sv ps vector →
    st.searchLanguage = .text language → Query.isLanguage language = true →
    r.tags.length < 2 ^ 63 →
    ∃ plan, Query.compile r (r.predicates 1) vector
        (Query.effectiveLanguage .null st.searchLanguage) = .ok plan ∧
      o.calls = (if ps.IsSemantic then [.embed (.text (ps.textOf "query"))] else []) ++
        [.fetch ⟨plan.sql, plan.params⟩]

theorem run_of_refused {why : ParameterRefusal}
    (h : ps.normalize st.defaultPageSize st.maxPageSize = .error why) :
    (run st sv id ps).calls = [] ∧ ∃ e, (run st sv id ps).result = .error e := by
  unfold run
  rw [h]
  cases why with
  | rejected why => exact ⟨rfl, _, rfl⟩
  | notComparable why => exact ⟨rfl, _, rfl⟩
  | unwritable why => exact ⟨rfl, _, rfl⟩

/-- A search that does not begin calls nothing. -/
theorem calls_of_not_begins (sv : Services) (id : String) (h : ¬ ∃ r, Begins st ps r) :
    (run st sv id ps).calls = [] := by
  cases hr : ps.normalize st.defaultPageSize st.maxPageSize with
  | error why => exact (run_of_refused hr).1
  | ok r =>
    have hlimit : r.limit.isWritable = false :=
      Bool.eq_false_iff.2 fun hlimit => h ⟨r, hr, hlimit⟩
    exact (run_of_unwritable hr hlimit).1

theorem texts_of_begins (sv : Services) (id : String) (h : Begins st ps r) :
    (run st sv id ps).calls.filterMap Call.text? =
      if ps.IsSemantic then [.text (ps.textOf "query")] else [] := by
  have hc : (run st sv id ps).calls.filterMap Call.text? =
      (embedCalls r).filterMap Call.text? := by
    rcases calls_run sv id h with hc | ⟨plan, hc⟩
    · rw [hc]
    · rw [hc, List.filterMap_append]
      exact List.append_nil _
  rw [hc, embedCalls_of_normalize h.1]
  split_ifs <;> rfl

/-- An embedding that comes from the client is one of numbers. -/
theorem isVector_of_embedded {depth : Nat} {embedder : EmbeddingRequest → EmbeddingReply}
    (hclient : sv.embed = Embedding.fetch st depth embedder) (hv : Embedded sv ps vector) :
    ∀ v, vector = some v → v.IsVector := by
  rintro v rfl
  unfold Embedded at hv
  rw [hclient] at hv
  split_ifs at hv
  · obtain ⟨w, hw, he⟩ := hv
    cases he
    exact Embedding.fetch_isVector hw

/-- **Every search keeps to the protocol**, whatever its parameters and services. -/
theorem run_protocol (st : Settings) (sv : Services) (id : String) (ps : Parameters) :
    Protocol st sv ps (run st sv id ps) where
  refused why h := run_of_refused h
  unlogged r h := ⟨run_of_unwritable h, begins_of_normalize h⟩
  embeds := by
    intro asked
    by_cases h : ∃ r, Begins st ps r
    · have ha : asked ↔ ps.IsSemantic := and_iff_right h
      obtain ⟨r, hr⟩ := h
      rw [texts_of_begins sv id hr, ha]
      by_cases hs : ps.IsSemantic
      · exact Or.inl ⟨hs, if_pos hs⟩
      · exact Or.inr ⟨hs, if_neg hs⟩
    · rw [calls_of_not_begins sv id h]
      exact Or.inr ⟨fun ha => h ha.1, rfl⟩
  unembedded r e h hs he := by
    have hr := (Parameters.strategy_eq_semantic_iff h.1).2 hs
    have hc := embedCalls_of_normalize h.1
    rw [if_pos hs] at hc
    rw [← Parameters.query_of_normalize h.1] at he
    rw [← hc]
    exact run_of_error h (queryVector_error_iff.2 ⟨hr, he⟩)
  fetches r vector plan h hv hp := by
    rw [← embedCalls_of_normalize h.1]
    obtain ⟨hc, hres⟩ := run_of_plan h (queryVector_of_embedded h.1 hv) hp
    exact ⟨hc, fun e he => hres.trans (execute_error he)⟩
  unplanned r vector why h hv hp := by
    rw [← embedCalls_of_normalize h.1]
    exact run_of_refusal h (queryVector_of_embedded h.1 hv) hp
  plans r vector language h hv hlang hl hn hr := by
    rw [hlang]
    exact exists_plan h.1 hv hl hn hr
  client depth embedder hclient r vector language h hv hlang hl hr := by
    obtain ⟨plan, hp⟩ := exists_plan h.1 hv hl (isVector_of_embedded hclient hv) hr
    rw [← hlang] at hp
    rw [← embedCalls_of_normalize h.1]
    exact ⟨plan, hp, (run_of_plan h (queryVector_of_embedded h.1 hv) hp).1⟩

end Search

end CatalogSearch
