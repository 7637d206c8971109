import CatalogSearch.Proofs.Calls
import CatalogSearch.Proofs.Hits
import CatalogSearch.Service.Answer

/-!
# The answer to a search

A search that comes to fetch a statement answers with the rows of that statement: what the statement
projects is what each hit shows. The names are read off the text of the statement, so that a column
which is selected but unknown to hits, or known to hits but not selected, would be seen here.

* `Search.plan_of_fetch`, `Search.fetch_of_accepted`: a plan is fetched, and nothing else.
* `Query.projection_of_compile`: what the statement of a plan projects.
* `Service.handle_hits`: rows with the projected columns are all shown, with these columns.
-/

namespace CatalogSearch

/-- **The statement of a plan** projects the columns of its request. -/
theorem Query.projection_of_compile {r : SearchRequest} {vector : Option Value} {language : Value}
    {plan : Plan} (h : compile r (r.predicates 1) vector language = .ok plan) :
    Sql.projection (Sql.tokens plan.sql) = some (projected r) := by
  obtain ⟨s, q, -, hs, hq, -, -, rfl⟩ := compile_ok h
  obtain ⟨literal, hc, -⟩ := parts_ok hq
  rw [assemble_sql hc]
  exact projection_ownStatement (n := 1) r hs

namespace Search

variable {st : Settings} {sv : Services} {id : String} {ps : Parameters} {r : SearchRequest}

theorem fetch_notMem_embedCalls (stmt : Statement) : .fetch stmt ∉ embedCalls r := by
  unfold embedCalls
  split_ifs <;> simp

/-- **Only a plan is fetched**: the parameters have been accepted and the request has compiled with
what came of its query. -/
theorem plan_of_fetch {stmt : Statement} (h : .fetch stmt ∈ (run st sv id ps).calls) :
    ∃ r vector plan, Begins st ps r ∧ (queryVector sv r).result = .ok vector ∧
      Query.compile r (r.predicates 1) vector
        (Query.effectiveLanguage .null st.searchLanguage) = .ok plan ∧
      stmt = ⟨plan.sql, plan.params⟩ := by
  by_cases hbegins : ∃ r, Begins st ps r
  · obtain ⟨r, hr⟩ := hbegins
    cases hv : (queryVector sv r).result with
    | error e =>
      rw [(run_of_error hr hv).1] at h
      exact absurd h (fetch_notMem_embedCalls stmt)
    | ok vector =>
      cases hp : Query.compile r (r.predicates 1) vector
          (Query.effectiveLanguage .null st.searchLanguage) with
      | error why =>
        rw [(run_of_refusal hr hv hp).1] at h
        exact absurd h (fetch_notMem_embedCalls stmt)
      | ok plan =>
        rw [(run_of_plan hr hv hp).1, List.mem_append] at h
        rcases h with h | h
        · exact absurd h (fetch_notMem_embedCalls stmt)
        · exact ⟨r, vector, plan, hr, hv, hp, Call.fetch.inj (List.mem_singleton.1 h)⟩
  · rw [calls_of_not_begins sv id hbegins] at h
    exact absurd h List.not_mem_nil

/-- A search that has begun comes to fetch: its language may be used, and its embedding, if it needs
one, has arrived. -/
theorem fetch_of_accepted {vector : Option Value} {language : String} (hr : Begins st ps r)
    (hv : Embedded sv ps vector) (hlang : st.searchLanguage = .text language) (hl : Query.isLanguage language = true)
    (hn : ∀ v, vector = some v → v.IsVector) (htags : r.tags.length < 2 ^ 63) :
    ∃ plan, Query.compile r (r.predicates 1) vector (.text language) = .ok plan ∧
      .fetch ⟨plan.sql, plan.params⟩ ∈ (run st sv id ps).calls := by
  obtain ⟨plan, hp⟩ := exists_plan hr.1 hv hl hn htags
  refine ⟨plan, hp, ?_⟩
  rw [← hlang] at hp
  rw [(run_of_plan hr (queryVector_of_embedded hr.1 hv) hp).1]
  exact List.mem_append_right _ (List.mem_singleton_self _)

/-- The rows of a plan are read, and the flags of the request go with their hits. -/
theorem execute_of_rows {plan : Plan} {rows : List Row}
    (hrows : (sv.rows ⟨plan.sql, plan.params⟩).result = .ok rows) :
    (execute sv r plan).result =
      (readRows rows).map fun hits => ⟨hits, r.fuzzy, r.semantic⟩ := by
  have hfetched : (fetching sv plan).result = .ok rows := hrows
  rw [execute_eq, Outcome.andThen_of_ok hfetched]
  cases readRows rows <;> rfl

theorem execute_ok {plan : Plan} {rows : List Row} {hits : List Hit}
    (hrows : (sv.rows ⟨plan.sql, plan.params⟩).result = .ok rows)
    (hhits : readRows rows = .ok hits) :
    (execute sv r plan).result = .ok ⟨hits, r.fuzzy, r.semantic⟩ := by
  rw [execute_of_rows hrows, hhits]
  rfl

/-- There are no hits where there are no rows, or one of them is no hit. -/
theorem execute_error_iff {plan : Plan} {e : Failure} :
    (execute sv r plan).result = .error e ↔
      (sv.rows ⟨plan.sql, plan.params⟩).result = .error e ∨
        ∃ rows, (sv.rows ⟨plan.sql, plan.params⟩).result = .ok rows ∧
          readRows rows = .error e := by
  cases hrows : (sv.rows ⟨plan.sql, plan.params⟩).result with
  | error why =>
    rw [execute_error hrows]
    simp
  | ok rows =>
    rw [execute_of_rows hrows, map_eq_error_iff]
    simp

end Search

namespace Service

variable {report : Row → List Issue → String} {st : Settings} {sv : Services} {id : String}
variable {target : Target}

/-- What a search comes to is concluded to the answer to its path. -/
theorem handle_of_route (hroute : Route.ofPath? target.path = some .search) :
    (handle report st sv id "GET" target).2 =
      (conclude report st.debug (Search.run st sv id target.parameters).events
        ((Search.run st sv id target.parameters).result.map ofResponse)).2 := by
  unfold handle serve
  rw [hroute]
  rfl

theorem handle_search {response : SearchResponse}
    (hroute : Route.ofPath? target.path = some .search)
    (h : (Search.run st sv id target.parameters).result = .ok response) :
    (handle report st sv id "GET" target).2 = ofResponse response := by
  rw [handle_of_route hroute, h]
  rfl

theorem handle_search_error {e : Failure}
    (hroute : Route.ofPath? target.path = some .search)
    (h : (Search.run st sv id target.parameters).result = .error e) :
    (handle report st sv id "GET" target).2 = ofFailure report st.debug e := by
  rw [handle_of_route hroute, h]
  rfl

/-- **The answer to a search that fetches**: its statement projects some columns, and whatever rows
with these columns come back, there is a hit for each of them in their order, which shows these
columns and no other. -/
theorem handle_hits {stmt : Statement} (hroute : Route.ofPath? target.path = some .search)
    (hfetch : .fetch stmt ∈ (Search.run st sv id target.parameters).calls) :
    ∃ r columns, target.parameters.normalize st.defaultPageSize st.maxPageSize = .ok r ∧
      Sql.projection (Sql.tokens stmt.sql) = some columns ∧
      ∀ records : List (List (String × Value)),
        (sv.rows stmt).result = .ok (records.map Row.ofFields) →
        (∀ fields ∈ records, FitsColumns columns fields) →
        (handle report st sv id "GET" target).2 = {
          status := 200
          body := .record [("hits", .list (records.map (Hit.shown columns))),
            ("totalHits", .int records.length), ("fuzzyEnabled", .bool r.fuzzy),
            ("semanticEnabled", .bool r.semantic)] } := by
  obtain ⟨r, vector, plan, hr, hv, hp, rfl⟩ := Search.plan_of_fetch hfetch
  refine ⟨r, Query.projected r, hr.1, Query.projection_of_compile hp, ?_⟩
  intro records hrows hfits
  obtain ⟨hits, hhits, hshown⟩ := Search.readRows_shown hfits
  have hresult : (Search.run st sv id target.parameters).result =
      .ok ⟨hits, r.fuzzy, r.semantic⟩ := by
    rw [(Search.run_of_plan hr hv hp).2, Search.execute_ok hrows hhits]
  have hlength : hits.length = records.length := by
    simpa using congrArg List.length hshown
  rw [handle_search hroute hresult, ofResponse, hshown, hlength]

/-- A search for words without likeness, of which one resource is found. -/
theorem handle_hits_words :
    let fields : List (String × Value) :=
      [("id", .uuid ⟨1⟩), ("title", .text "Cells"), ("description", .null),
        ("averagerating", .null), ("subject", .text "Biology"), ("examboard", .null),
        ("level", .text "GCSE"), ("type", .null), ("rank", .float (.finite false .zero)),
        ("fuzzy_score", .int 0)]
    let target : Target := {
      url := ⟨[], [], [], none, "/search".toList, none, none⟩, path := "/search",
      query := [("query", "cells"), ("fuzzy", "false")] }
    let sv : Services := {
      embed := fun _ => .fail Pools.unavailable, rows := fun _ => .ok [Row.ofFields fields] }
    (handle (fun _ _ => "") {} sv "" "GET" target).2 = {
      status := 200
      body := .record [("hits", .list [Hit.shown (fields.map Prod.fst) fields]),
        ("totalHits", .int 1), ("fuzzyEnabled", .bool false),
        ("semanticEnabled", .bool false)] } := by
  intro fields target sv
  have hreads : (target.parameters.normalize (.int 20) (.int 100)).toBool = true := by
    decide +kernel
  cases hr : target.parameters.normalize (.int 20) (.int 100) with
  | error why =>
    rw [hr] at hreads
    cases hreads
  | ok r =>
    have hv : Search.Embedded sv target.parameters none := by
      rw [Search.Embedded, if_neg (by decide)]
    obtain ⟨-, _, _, _, _, -, -, -, -, hrequest⟩ := Parameters.normalize_eq_ok_iff.1 hr
    have htags : r.tags = [] := by rw [hrequest]; rfl
    have hquery : target.parameters.textOf "query" = "cells" := by decide
    have hfuzzy : target.parameters.textOf "fuzzy" = "false" := by decide
    have hsemantic : target.parameters.textOf "semantic" = "" := by decide
    have hstrategy : r.strategy = .fullText := by
      rw [hrequest]
      simp [SearchRequest.strategy, Parameters.request, hquery, hsemantic, Value.isTruthy]
    have hflags : r.fuzzy = false ∧ r.semantic = false := by
      rw [hrequest]
      simp [Parameters.request, hfuzzy, hsemantic]
    have hbegins : Search.Begins {} target.parameters r :=
      Search.begins_of_normalize hr (by decide +kernel)
    obtain ⟨plan, hp, hfetch⟩ := @Search.fetch_of_accepted {} sv "" target.parameters r none
      "english" hbegins hv rfl rfl (by simp) (by rw [htags]; decide)
    obtain ⟨r', columns, hr', hcolumns, hall⟩ :=
      @handle_hits (fun _ _ => "") {} sv "" target _ (by decide) hfetch
    obtain rfl : r = r' := Except.ok.inj (hr.symm.trans hr')
    have hnames : columns = fields.map Prod.fst := by
      rw [Query.projection_of_compile hp, Query.projected, hstrategy] at hcolumns
      exact (Option.some.inj hcolumns).symm
    rw [hnames, hflags.1, hflags.2] at hall
    refine hall [fields] rfl (List.forall_mem_singleton.2 ⟨.refl _, ?_⟩)
    simp only [fields, List.forall_mem_cons]
    exact ⟨.idUuid _, .text (by decide) _, .missing (by decide), .missing (by decide),
      .text (by decide) _, .missing (by decide), .text (by decide) _, .missing (by decide),
      .number (by decide) rfl, .zero, by simp⟩

end Service

end CatalogSearch
