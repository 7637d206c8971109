import CatalogSearch.Proofs.Answers
import CatalogSearch.Proofs.Breakdown

/-!
# What answers disclose

A client that is not answered with hits learns which of its own parameters was refused, or it gets
one of a few fixed answers. Texts of faults, statements, parameters and rows are not among what it
learns: two searches that break down in the same place are answered alike, whatever was said there.
In debug mode this is otherwise, for failures that have no name of their own.

* `Search.FailsAt`: where a search breaks down.
* `Search.exists_failsAt`, `Search.run_of_failsAt`: a search fails iff it breaks down somewhere.
* `Service.handle_of_failsAt`: the place decides the answer.
* `Service.serverAnswers`: the fixed answers.
* `Service.handle_discreet`: what a client learns of a search that fails.
-/

namespace CatalogSearch

namespace Search

/-- **Where a search ends** without hits. -/
inductive Breakdown where
  /-- A parameter is refused. -/
  | parameters (why : Rejection)
  /-- The page size cannot be compared with its maximum. -/
  | pageSize
  /-- A parameter, or a page size that is clamped, cannot be written. -/
  | reading
  /-- The start cannot be logged. -/
  | start
  | embedding (b : Embedding.Breakdown)
  /-- The request has no plan. -/
  | plan
  | store (b : Pools.Breakdown)
  /-- A row is no hit. -/
  | hit
deriving DecidableEq, Repr

/-- What is answered. -/
def Breakdown.answer : Breakdown → Answer
  | parameters why => Service.rejected why
  | embedding b => b.answer
  | store b => b.answer
  | pageSize | reading | start | plan | hit => Service.unnamed

variable {st : Settings} {room : Room} {embedder : EmbeddingRequest → EmbeddingReply}
variable {connect : Connector} {pools : Pools} {ps : Parameters} {id : String} {b : Breakdown}
variable {e : Failure} (report : Row → List Issue → String)

/-- **Where a search breaks down**: all that it does before has succeeded. -/
inductive FailsAt (st : Settings) (room : Room) (embedder : EmbeddingRequest → EmbeddingReply)
    (connect : Connector) (pools : Pools) (ps : Parameters) : Breakdown → Prop where
  | parameters {why : Rejection}
    (refused : ps.normalize st.defaultPageSize st.maxPageSize = .error (.rejected why)) :
    FailsAt st room embedder connect pools ps (.parameters why)
  | pageSize {why : ComparisonRefusal}
    (refused : ps.normalize st.defaultPageSize st.maxPageSize = .error (.notComparable why)) :
    FailsAt st room embedder connect pools ps .pageSize
  | reading {why : WritingRefusal}
    (refused : ps.normalize st.defaultPageSize st.maxPageSize = .error (.unwritable why)) :
    FailsAt st room embedder connect pools ps .reading
  | start {r : SearchRequest}
    (accepted : ps.normalize st.defaultPageSize st.maxPageSize = .ok r)
    (silent : r.limit.isWritable = false) : FailsAt st room embedder connect pools ps .start
  | embedding {r : SearchRequest} {b : Embedding.Breakdown} (begun : Begins st ps r)
    (semantic : r.strategy = .semantic)
    (useless : Embedding.BreaksAt st room.reading embedder r.query b) :
    FailsAt st room embedder connect pools ps (.embedding b)
  | plan {r : SearchRequest} {vector : Option Value} {why : CompileRefusal}
    (begun : Begins st ps r)
    (embedded : (queryVector (.of st room embedder connect pools) r).result = .ok vector)
    (refused : Query.compile r (r.predicates 1) vector
      (Query.effectiveLanguage .null st.searchLanguage) = .error why) :
    FailsAt st room embedder connect pools ps .plan
  | store {r : SearchRequest} {vector : Option Value} {plan : Plan} {b : Pools.Breakdown}
    (begun : Begins st ps r)
    (embedded : (queryVector (.of st room embedder connect pools) r).result = .ok vector)
    (planned : Query.compile r (r.predicates 1) vector
      (Query.effectiveLanguage .null st.searchLanguage) = .ok plan)
    (useless : Pools.BreaksAt st room.writing connect pools ⟨plan.sql, plan.params⟩ b) :
    FailsAt st room embedder connect pools ps (.store b)
  | hit {r : SearchRequest} {vector : Option Value} {plan : Plan} {rows : List Row} {e : Failure}
    (begun : Begins st ps r)
    (embedded : (queryVector (.of st room embedder connect pools) r).result = .ok vector)
    (planned : Query.compile r (r.predicates 1) vector
      (Query.effectiveLanguage .null st.searchLanguage) = .ok plan)
    (fetched : (pools.fetch st room.writing connect ⟨plan.sql, plan.params⟩).2.result = .ok rows)
    (unread : readRows rows = .error e) : FailsAt st room embedder connect pools ps .hit

/-- Rows that are no hits are reported by the first of them. -/
theorem readRows_error {rows : List Row} (h : readRows rows = .error e) :
    ∃ row issues, e = .badRow row issues := by
  induction rows with
  | nil => cases h
  | cons row rows ih =>
    cases hrow : Hit.ofRow row with
    | error issues =>
      simp only [readRows, hrow, Except.error.injEq] at h
      exact ⟨row, issues, h.symm⟩
    | ok hit =>
      cases hrows : readRows rows with
      | ok hits =>
        have hok : readRows (row :: rows) = .ok (hit :: hits) := by
          simp only [readRows, hrow, hrows]
        cases h.symm.trans hok
      | error e' =>
        simp only [readRows, hrow, hrows, Except.error.injEq] at h
        subst h
        exact ih hrows

/-- **A search that breaks down fails**, and the place decides what is answered. -/
theorem run_of_failsAt (id : String) (h : FailsAt st room embedder connect pools ps b) :
    ∃ e, (run st (.of st room embedder connect pools) id ps).result = .error e ∧
      Service.ofFailure report false e = b.answer := by
  cases h with
  | parameters refused => exact ⟨_, by simp only [run, refused]; rfl, rfl⟩
  | pageSize refused => exact ⟨_, by simp only [run, refused]; rfl, rfl⟩
  | reading refused => exact ⟨_, by simp only [run, refused]; rfl, rfl⟩
  | start accepted silent =>
    obtain ⟨-, why, hwhy⟩ := run_of_unwritable accepted silent
    exact ⟨.unwritten why, hwhy, rfl⟩
  | embedding begun semantic useless =>
    obtain ⟨e, he, hanswer⟩ := Embedding.fetch_of_breaksAt report useless
    exact ⟨e, (run_of_error begun (queryVector_error_iff.2 ⟨semantic, he⟩)).2, hanswer⟩
  | plan begun embedded refused => exact ⟨_, (run_of_refusal begun embedded refused).2, rfl⟩
  | store begun embedded planned useless =>
    obtain ⟨e, he, hanswer⟩ := Pools.fetch_of_breaksAt report useless
    exact ⟨e, (run_of_plan begun embedded planned).2.trans (execute_error he), hanswer⟩
  | hit begun embedded planned fetched unread =>
    obtain ⟨row, issues, rfl⟩ := readRows_error unread
    exact ⟨.badRow row issues,
      (run_of_plan begun embedded planned).2.trans
        (execute_error_iff.2 (.inr ⟨_, fetched, unread⟩)), rfl⟩

/-- **Every search that fails breaks down somewhere.** -/
theorem exists_failsAt
    (h : (run st (.of st room embedder connect pools) id ps).result = .error e) :
    ∃ b, FailsAt st room embedder connect pools ps b := by
  -- along the search: the first step without a result is the place
  cases hr : ps.normalize st.defaultPageSize st.maxPageSize with
  | error why =>
    cases why with
    | rejected why => exact ⟨_, .parameters hr⟩
    | notComparable why => exact ⟨_, .pageSize hr⟩
    | unwritable why => exact ⟨_, .reading hr⟩
  | ok r =>
    cases hlimit : r.limit.isWritable with
    | false => exact ⟨_, .start hr hlimit⟩
    | true =>
      have hbegun : Begins st ps r := ⟨hr, hlimit⟩
      cases hv : (queryVector (.of st room embedder connect pools) r).result with
      | error why =>
        obtain ⟨hs, he⟩ := queryVector_error_iff.1 hv
        obtain ⟨b, hb⟩ := Embedding.exists_breaksAt he
        exact ⟨_, .embedding hbegun hs hb⟩
      | ok vector =>
        cases hp : Query.compile r (r.predicates 1) vector
            (Query.effectiveLanguage .null st.searchLanguage) with
        | error why => exact ⟨_, .plan hbegun hv hp⟩
        | ok plan =>
          rw [(run_of_plan hbegun hv hp).2] at h
          obtain hrows | ⟨rows, hrows, hhits⟩ := execute_error_iff.1 h
          · obtain ⟨b, hb⟩ := Pools.exists_breaksAt hrows
            exact ⟨_, .store hbegun hv hp hb⟩
          · exact ⟨_, .hit hbegun hv hp hrows hhits⟩

end Search

namespace Service

variable {report : Row → List Issue → String} {st : Settings} {room : Room}
variable {embedder : EmbeddingRequest → EmbeddingReply} {connect : Connector} {pools : Pools}
variable {target : Target} {id : String} {b : Search.Breakdown}

/-! ### The answers of the server -/

/-- **What is answered where the request is not to blame.** -/
def serverAnswers : List Answer :=
  [ failed 502 "EMBEDDING_SERVICE_FAILURE" "Embedding service request failed",
    failed 502 "EMBEDDING_SERVICE_FAILURE" "Embedding service returned an invalid response",
    failed 502 "EMBEDDING_SERVICE_FAILURE" "Embedding service returned an empty vector",
    failed 500 "STORE_QUERY_FAILURE" "DATABASE_URL not configured",
    failed 500 "STORE_QUERY_FAILURE" "Data store unavailable",
    failed 500 "STORE_QUERY_FAILURE" "Search query failed",
    failed 500 "INTERNAL_ERROR" "An error occurred while searching" ]

theorem unembedded_mem (r : EmbeddingRefusal) : unembedded r ∈ serverAnswers := by
  cases r with
  | requestFailed => exact List.mem_of_getElem? (i := 0) rfl
  | invalidResponse => exact List.mem_of_getElem? (i := 1) rfl
  | emptyVector => exact List.mem_of_getElem? (i := 2) rfl

theorem unnamed_mem : unnamed ∈ serverAnswers := List.mem_of_getElem? (i := 6) rfl

theorem embedding_answer_mem (b : Embedding.Breakdown) : b.answer ∈ serverAnswers := by
  cases b with
  | posting kind =>
    cases kind with
    | transport => exact unembedded_mem _
    | value => exact unembedded_mem _
    | _ => exact unnamed_mem
  | address => exact unnamed_mem
  | nested => exact unnamed_mem
  | magnitude => exact unnamed_mem
  | dimensions => exact unnamed_mem
  | warning => exact unnamed_mem
  | _ => exact unembedded_mem _

theorem store_answer_mem (b : Pools.Breakdown) : b.answer ∈ serverAnswers := by
  have hunavailable : unfetched "Data store unavailable" ∈ serverAnswers :=
    List.mem_of_getElem? (i := 4) rfl
  cases b with
  | unconfigured => exact List.mem_of_getElem? (i := 3) rfl
  | connecting kind =>
    rw [Pools.Breakdown.answer]
    split
    · exact hunavailable
    · exact unnamed_mem
  | unmade => exact hunavailable
  | running kind =>
    rw [Pools.Breakdown.answer]
    split
    · exact List.mem_of_getElem? (i := 5) rfl
    · exact unnamed_mem
  | _ => exact unnamed_mem

/-! ### The answer to a search that fails -/

/-- **The place decides the answer.** -/
theorem handle_of_failsAt (hdebug : st.debug = false)
    (hroute : Route.ofPath? target.path = some .search)
    (h : Search.FailsAt st room embedder connect pools target.parameters b) :
    (handle report st (.of st room embedder connect pools) id "GET" target).2 = b.answer := by
  obtain ⟨e, he, hanswer⟩ := Search.run_of_failsAt report id h
  rw [handle_search_error hroute he, hdebug, hanswer]

theorem exists_failsAt (hroute : Route.ofPath? target.path = some .search)
    (h : (handle report st (.of st room embedder connect pools) id "GET" target).2.status ≠ 200) :
    ∃ b, Search.FailsAt st room embedder connect pools target.parameters b := by
  cases hr : (Search.run st (.of st room embedder connect pools) id target.parameters).result with
  | error e => exact Search.exists_failsAt hr
  | ok response =>
    rw [handle_search hroute hr] at h
    exact absurd rfl h

/-- **What a client learns of a search that does not succeed.** -/
structure Discreet (st : Settings) (target : Target) : Prop where
  /-- What is wrong with one of its parameters, or one of the fixed answers. -/
  shown : ∀ report room embedder connect pools id,
    let answer := (handle report st (.of st room embedder connect pools) id "GET" target).2
    answer.status ≠ 200 →
      (∃ name ∈ ["limit", "offset", "sort"], ∃ why,
        Parameters.refusal? name (target.parameters.textOf name) = some why ∧
          why.field = name ∧ answer = rejected why) ∨
      answer ∈ serverAnswers
  /-- Every such search has broken down somewhere. -/
  places : ∀ report room embedder connect pools id,
    (handle report st (.of st room embedder connect pools) id "GET" target).2.status ≠ 200 →
      ∃ b, Search.FailsAt st room embedder connect pools target.parameters b
  /-- Two runs of the same search that break down in the same place are answered alike, whatever
  else differs: the texts of the faults, what is said of rows, the statements and their parameters,
  the rows, and the room that the stack leaves. -/
  alike : ∀ b report st' room embedder connect pools id report' room' embedder' connect' pools' id',
    st'.debug = false →
    Search.FailsAt st room embedder connect pools target.parameters b →
    Search.FailsAt st' room' embedder' connect' pools' target.parameters b →
      (handle report st (.of st room embedder connect pools) id "GET" target).2 =
        (handle report' st' (.of st' room' embedder' connect' pools') id' "GET" target).2

/-- **Answers do not disclose** what the services said, unless the service runs in debug mode. -/
theorem handle_discreet (hdebug : st.debug = false)
    (hroute : Route.ofPath? target.path = some .search) : Discreet st target where
  shown report room embedder connect pools id := by
    intro answer hstatus
    obtain ⟨b, hb⟩ := exists_failsAt hroute hstatus
    have hanswer : answer = b.answer := handle_of_failsAt hdebug hroute hb
    rw [hanswer]
    cases hb with
    | parameters refused =>
      obtain ⟨name, hname, hrefusal, hfield⟩ := Parameters.normalize_rejected refused
      exact .inl ⟨name, hname, _, hrefusal, hfield, rfl⟩
    | embedding => exact .inr (embedding_answer_mem _)
    | store => exact .inr (store_answer_mem _)
    | _ => exact .inr unnamed_mem
  places _ _ _ _ _ _ := exists_failsAt hroute
  alike _ _ _ _ _ _ _ _ _ _ _ _ _ _ hdebug' h h' :=
    (handle_of_failsAt hdebug hroute h).trans (handle_of_failsAt hdebug' hroute h').symm

/-- An embedding service that cannot be reached: whatever the client of the service says of it, the
answer is the same. -/
theorem handle_discreet_unreached :
    let target : Target := {
      url := ⟨[], [], [], none, "/search".toList, none, none⟩, path := "/search",
      query := [("query", "algebra"), ("semantic", "true")] }
    let answer (said : String) :=
      (handle (fun _ _ => "") {} (.of {} ⟨900, 900⟩ (fun _ => .failed ⟨.transport, said⟩)
        (.error ⟨.other, ""⟩) {}) "" "GET" target).2
    answer "no route to 10.0.0.7" = answer "invalid key sk-1" := by
  intro target answer
  have hreads : (target.parameters.normalize (.int 20) (.int 100)).toBool = true := by
    decide +kernel
  have hfails : ∀ said, Search.FailsAt {} ⟨900, 900⟩ (fun _ => .failed ⟨.transport, said⟩)
      (.error ⟨.other, ""⟩) {} target.parameters (.embedding (.posting .transport)) := by
    intro said
    cases hr : target.parameters.normalize (.int 20) (.int 100) with
    | error why =>
      rw [hr] at hreads
      cases hreads
    | ok r =>
      have hbegun : Search.Begins {} target.parameters r :=
        Search.begins_of_normalize hr (by decide +kernel)
      have hquery : r.query = .text "algebra" := Parameters.query_of_normalize hr
      refine .embedding hbegun ((Parameters.strategy_eq_semantic_iff hr).2 (by decide)) ?_
      rw [hquery]
      exact .reply (a := _) rfl rfl (.posting ⟨.transport, said⟩)
  exact (handle_discreet rfl (by decide)).alike _ _ _ _ _ _ _ _ _ _ _ _ _ _ rfl (hfails _)
    (hfails _)

end Service

end CatalogSearch
