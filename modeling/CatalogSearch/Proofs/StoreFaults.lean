import CatalogSearch.Proofs.Writing
import CatalogSearch.Store.Pool

/-!
# Faults of the store

The client of the store raises in two places: while the shared pool is being made, and while a
statement runs on it. A fault while the pool is made is reported as a failure of the store, except
where the client says that it was misused: such a fault passes through as it is. A fault of a
running statement is logged with all parameters before it is reported with them. So it is reported
unless one of them cannot be written.

* `Store.CanDescribe`: parameters that can all be written.
* `Pools.Serves`: the store that a statement reaches.
* `Pools.Raises`: which fault a fetch meets, and where.
* `Pools.IsReported`: a failure of the store by name.
* `Pools.fetch_reports_iff`: which faults are reported, and what the report carries.
* `Pools.fetch_unreported`: a misused client while the pool is made.
-/

namespace CatalogSearch

/-- Faults of the database, of its client and of the way to it. -/
def FaultKind.IsOfStore (k : FaultKind) : Prop :=
  k = .timedOut ∨ k = .system ∨ k = .database ∨ k = .interface

namespace Store

variable {room : Nat} {reply : StoreReply} {stmt : Statement} {f : Fault}

/-- **The faults of a running statement** that are reported, if they can be: those of the store. -/
theorem isQueryFault_iff {k : FaultKind} : isQueryFault k = true ↔ k.IsOfStore := by
  cases k <;> simp [isQueryFault, FaultKind.IsOfStore]

/-- **All parameters can be described**: there is room for their levels, and none has a number that
is too long to be written. -/
def CanDescribe (room : Nat) (ps : List Value) : Prop :=
  ∀ v ∈ ps, v.levels ≤ room ∧ v.isWritable = true

theorem exists_descriptions_iff (room : Nat) (ps : List Value) :
    (∃ entries, descriptions room ps = .ok entries) ↔ CanDescribe room ps := by
  induction ps with
  | nil => exact iff_of_true ⟨[], rfl⟩ nofun
  | cons v ps ih =>
    rw [CanDescribe, List.forall_mem_cons, ← CanDescribe, ← ih, ← Value.exists_quoted?_iff]
    simp only [descriptions, describe, bind_eq_ok_iff, map_eq_ok_iff]
    constructor
    · rintro ⟨_, _, ⟨s, hs, -⟩, entries, hentries, -⟩
      exact ⟨⟨s, hs⟩, entries, hentries⟩
    · rintro ⟨⟨s, hs⟩, entries, hentries⟩
      exact ⟨_, _, ⟨s, hs, rfl⟩, entries, hentries, rfl⟩

/-- A fault can be logged iff the parameters of its statement can be described. -/
theorem exists_failureNote_iff :
    (∃ line, failureNote room stmt f = .ok line) ↔ CanDescribe room stmt.params := by
  rw [← exists_descriptions_iff]
  simp only [failureNote, bind_eq_ok_iff]
  constructor
  · rintro ⟨_, entries, hentries, -⟩
    exact ⟨entries, hentries⟩
  · rintro ⟨entries, hentries⟩
    exact ⟨_, entries, hentries, rfl⟩

/-- A fault of the store that has been logged is reported with the statement. -/
theorem query_described (h : reply stmt = .error f) (hk : f.kind.IsOfStore)
    (hd : CanDescribe room stmt.params) :
    (query room reply stmt).result =
      .error (.reported (.storeQuery "Search query failed" (some stmt.sql) stmt.params)) := by
  obtain ⟨line, hnote⟩ := exists_failureNote_iff (f := f).2 hd
  simp only [query, h, if_pos (isQueryFault_iff.2 hk), Outcome.log_andThen_of_ok hnote]
  rfl

/-- One that cannot be logged is not reported either. -/
theorem query_undescribed (h : reply stmt = .error f) (hk : f.kind.IsOfStore)
    (hd : ¬ CanDescribe room stmt.params) :
    ∃ why, (query room reply stmt).result = .error (.unwritten why) := by
  cases hnote : failureNote room stmt f with
  | ok line => exact absurd (exists_failureNote_iff.1 ⟨line, hnote⟩) hd
  | error why =>
    refine ⟨why, ?_⟩
    simp only [query, h, if_pos (isQueryFault_iff.2 hk), Outcome.log_andThen_of_error hnote]
    rfl

end Store

namespace Pools

variable {st : Settings} {room : Nat} {url : Value} {connect : Connector} {stmt : Statement}
variable {s : Pools} {f : Fault} {α : Type}

/-- While a pool is made, a misused client is not reported. -/
theorem isConnectFault_iff {k : FaultKind} :
    isConnectFault k = true ↔ k.IsOfStore ∧ k ≠ .interface := by
  cases k <;> simp [isConnectFault, FaultKind.IsOfStore]

/-! ### Making the pool -/

theorem acquire_shared {n : Nat} (h : s.shared = some n) : acquire st connect s = (s, .ok n) := by
  simp only [acquire, enter, h]

theorem acquire_make (hurl : st.databaseUrl.isTruthy = true) (h : s.shared = none) :
    acquire st connect s = adopt st (make st st.databaseUrl connect) s := by
  simp only [acquire, enter, h, if_pos hurl]

theorem make_error (hk : isConnectFault f.kind = true) :
    (make st url (.error f)).result = .error unavailable := by
  simp only [make, if_pos hk]

theorem make_escape (hk : ¬ isConnectFault f.kind = true) :
    (make st url (.error f)).result = .error (.fault f) := by
  simp only [make, if_neg hk]
  rfl

theorem make_ok (url : Value) (reply : StoreReply) {limit : String}
    (h : sessionStatement st = .ok limit) :
    ∃ p, p.reply = reply ∧ (make st url (.ok reply)).result = .ok p := by
  unfold make
  rw [h]
  exact ⟨_, rfl, rfl⟩

section

variable {made : Outcome Effect Pool}

theorem adopt_of_error {e : Failure} (h : made.result = .error e) :
    adopt st made s = (s, ⟨made.events, .error e⟩) := by
  rw [adopt, h]

theorem adopt_noted {p : Pool} (h : made.result = .ok p) {line : LogLine}
    (hnote : creationNote st = .ok line) :
    adopt st made s = ({ made := s.made ++ [p], shared := some s.made.length },
      ⟨made.events ++ [.logged line], .ok s.made.length⟩) := by
  rw [adopt, h]
  dsimp only
  rw [Outcome.log_andThen_of_ok hnote]
  rfl

/-- A pool that was made is shared even if that cannot be noted. -/
theorem adopt_unnoted {p : Pool} (h : made.result = .ok p) {why : WritingRefusal}
    (hnote : creationNote st = .error why) :
    adopt st made s = ({ made := s.made ++ [p], shared := some s.made.length },
      ⟨made.events, .error (.unwritten why)⟩) := by
  rw [adopt, h]
  dsimp only
  rw [Outcome.log_andThen_of_error hnote, Outcome.fail, Outcome.after, List.append_nil]

end

/-- A pool that cannot be made leaves the pools as they are, and its failure ends the fetch. -/
theorem fetch_of_make_error {e : Failure} (hurl : st.databaseUrl.isTruthy = true)
    (hs : s.shared = none) (h : (make st st.databaseUrl connect).result = .error e) :
    (fetch st room connect stmt s).1 = s ∧
      (fetch st room connect stmt s).2.result = .error e := by
  simp only [fetch, acquire_make hurl hs, adopt_of_error h, Outcome.andThen, and_self]

/-- On a pool that was just made and noted, the statement runs as the new pool answers. -/
theorem fetch_of_make_ok {p : Pool} (hurl : st.databaseUrl.isTruthy = true)
    (hs : s.shared = none) (h : (make st st.databaseUrl connect).result = .ok p) {line : LogLine}
    (hnote : creationNote st = .ok line) :
    (fetch st room connect stmt s).2.result = (Store.query room p.reply stmt).result := by
  simp only [fetch, acquire_make hurl hs, adopt_noted h hnote, Outcome.andThen,
    List.getElem?_concat_length]
  rfl

theorem fetch_of_shared {n : Nat} {p : Pool} (hs : s.shared = some n) (hp : s.made[n]? = some p) :
    (fetch st room connect stmt s).2.result = (Store.query room p.reply stmt).result := by
  simp only [fetch, acquire_shared hs, Outcome.andThen, Outcome.ok, hp]
  rfl

/-! ### What a fetch meets -/

/-- **The store that a statement reaches**: behind the shared pool, or behind one that was just made
for it and noted. -/
inductive Serves (st : Settings) (connect : Connector) (s : Pools) : StoreReply → Prop where
  | shared {n : Nat} {p : Pool} (present : s.shared = some n) (made : s.made[n]? = some p) :
    Serves st connect s p.reply
  | fresh {reply : StoreReply} {limit : String} {line : LogLine} (absent : s.shared = none)
    (set : st.databaseUrl.isTruthy = true) (connected : connect = .ok reply)
    (limited : sessionStatement st = .ok limit) (noted : creationNote st = .ok line) :
    Serves st connect s reply

theorem fetch_of_serves {reply : StoreReply} (h : Serves st connect s reply) :
    (fetch st room connect stmt s).2.result = (Store.query room reply stmt).result := by
  cases h with
  | shared present made => exact fetch_of_shared present made
  | fresh absent set connected limited noted =>
    subst connected
    obtain ⟨p, rfl, hmade⟩ := make_ok st.databaseUrl reply limited
    exact fetch_of_make_ok set absent hmade noted

/-- Where the client of the store is when it raises. -/
inductive Stage where
  | connecting
  | running
deriving DecidableEq, Repr

/-- **The fault that a fetch meets**: of the connector, or of the store that the statement
reaches. -/
inductive Raises (st : Settings) (connect : Connector) (stmt : Statement) (s : Pools) :
    Stage → Fault → Prop where
  | connecting {f : Fault} (absent : s.shared = none) (raised : connect = .error f) :
    Raises st connect stmt s .connecting f
  | running {reply : StoreReply} {f : Fault} (served : Serves st connect s reply)
    (raised : reply stmt = .error f) : Raises st connect stmt s .running f

/-- A failure of the store by name. -/
def IsReported (result : Except Failure α) : Prop :=
  ∃ e : SearchError, result = .error (.reported e) ∧ e.code = "STORE_QUERY_FAILURE" ∧
    e.status = 500

theorem not_isReported_fault : ¬ IsReported (.error (.fault f) : Except Failure α) := by
  rintro ⟨e, he, -⟩
  exact nomatch he

theorem not_isReported_unwritten {why : WritingRefusal} :
    ¬ IsReported (.error (.unwritten why) : Except Failure α) := by
  rintro ⟨e, he, -⟩
  exact nomatch he

/-- A fault while the pool is made is reported unless the client was misused. -/
theorem fetch_connecting (room : Nat) (hurl : st.databaseUrl.isTruthy = true)
    (h : Raises st connect stmt s .connecting f) (hk : f.kind.IsOfStore) :
    (fetch st room connect stmt s).2.result =
      .error (if f.kind = .interface then .fault f else unavailable) := by
  obtain ⟨absent, rfl⟩ := h
  by_cases hi : f.kind = .interface
  · have hc : ¬ isConnectFault f.kind = true := fun hc => (isConnectFault_iff.1 hc).2 hi
    rw [if_pos hi, (fetch_of_make_error hurl absent (make_escape hc)).2]
  · have hc : isConnectFault f.kind = true := isConnectFault_iff.2 ⟨hk, hi⟩
    rw [if_neg hi, (fetch_of_make_error hurl absent (make_error hc)).2]

/-- **Which faults of the store are reported**: all but those of a misused client while the pool is
made, which pass through, and those of a running statement whose parameters cannot be described,
where it is that which is told. The report of a running statement carries statement and
parameters. -/
theorem fetch_reports_iff {stage : Stage} (room : Nat) (hurl : st.databaseUrl.isTruthy = true)
    (h : Raises st connect stmt s stage f) (hk : f.kind.IsOfStore) :
    (IsReported (fetch st room connect stmt s).2.result ↔
        ¬ (stage = .connecting ∧ f.kind = .interface) ∧
          (stage = .running → Store.CanDescribe room stmt.params)) ∧
      (stage = .running → IsReported (fetch st room connect stmt s).2.result →
        ∃ message, (fetch st room connect stmt s).2.result =
          .error (.reported (.storeQuery message (some stmt.sql) stmt.params))) ∧
      (stage = .connecting → f.kind = .interface →
        (fetch st room connect stmt s).2.result = .error (.fault f)) ∧
      (stage = .running → ¬ Store.CanDescribe room stmt.params →
        ∃ why, (fetch st room connect stmt s).2.result = .error (.unwritten why)) := by
  cases stage with
  | running =>
    -- the kind of the fault does not matter here, only whether it can be logged
    obtain _ | ⟨served, raised⟩ := h
    by_cases hd : Store.CanDescribe room stmt.params
    · have hr := (fetch_of_serves served).trans (Store.query_described raised hk hd)
      have hreported : IsReported (fetch st room connect stmt s).2.result := by
        rw [hr]
        exact ⟨_, rfl, rfl, rfl⟩
      exact ⟨iff_of_true hreported ⟨nofun, fun _ => hd⟩, fun _ _ => ⟨_, hr⟩, nofun,
        fun _ hnot => absurd hd hnot⟩
    · obtain ⟨why, hwhy⟩ := Store.query_undescribed raised hk hd
      have hr := (fetch_of_serves served).trans hwhy
      have hunreported : ¬ IsReported (fetch st room connect stmt s).2.result := by
        rw [hr]
        exact not_isReported_unwritten
      exact ⟨iff_of_false hunreported fun hc => hd (hc.2 rfl),
        fun _ hreported => absurd hreported hunreported, nofun, fun _ _ => ⟨why, hr⟩⟩
  | connecting =>
    -- no parameter is looked at, and the kind of the fault decides
    have hr := fetch_connecting room hurl h hk
    by_cases hi : f.kind = .interface
    · rw [if_pos hi] at hr
      rw [hr]
      exact ⟨iff_of_false not_isReported_fault fun hc => hc.1 ⟨rfl, hi⟩, nofun, fun _ _ => rfl,
        nofun⟩
    · rw [if_neg hi] at hr
      rw [hr]
      exact ⟨iff_of_true ⟨_, rfl, rfl, rfl⟩ ⟨fun hc => hi hc.2, nofun⟩, nofun,
        fun _ hc => absurd hc hi, nofun⟩

/-- A shared pool that was closed meanwhile: its client is misused, and that is reported, unless a
parameter has too many digits. -/
theorem fetch_reports_closed :
    let pool : Pool := {
      url := .text "postgresql://h/db", minSize := .int 2, maxSize := .int 10,
      commandTimeout := .int 10, session := [],
      reply := fun _ => .error ⟨.interface, "pool is closed"⟩, closed := true }
    let fetched (ps : List Value) := (fetch { databaseUrl := .text "postgresql://h/db" } 900
      (.error ⟨.other, "not asked"⟩) ⟨"SELECT $1, $2", ps⟩ { made := [pool], shared := some 0 }).2
    IsReported (fetched [.int 1, .text "a"]).result ∧
      ¬ IsReported (fetched [.int (Nat.pow 10 digitLimit : Nat), .text "a"]).result := by
  intro pool fetched
  have hkind : FaultKind.interface.IsOfStore := by simp [FaultKind.IsOfStore]
  have hraises : ∀ ps, Raises { databaseUrl := .text "postgresql://h/db" }
      (.error ⟨.other, "not asked"⟩) ⟨"SELECT $1, $2", ps⟩ { made := [pool], shared := some 0 }
      .running ⟨.interface, "pool is closed"⟩ := fun ps => .running (.shared (p := pool) rfl rfl) rfl
  constructor
  · refine (fetch_reports_iff 900 rfl (hraises _) hkind).1.2 ⟨by simp, fun _ => ?_⟩
    refine List.forall_mem_cons.2 ⟨⟨by decide, by decide +kernel⟩, ?_⟩
    exact List.forall_mem_singleton.2 ⟨by decide, rfl⟩
  · rw [(fetch_reports_iff 900 rfl (hraises _) hkind).1]
    rintro ⟨-, hd⟩
    have hshort := (hd rfl _ List.mem_cons_self).2
    rw [Value.isWritable, isWritable_pow_digitLimit] at hshort
    cases hshort

/-- **A misused client while the pool is made** is not reported. -/
theorem fetch_unreported :
    ¬ IsReported
      (fetch { databaseUrl := .text "postgresql://h/db" } 900
        (.error ⟨.interface, "pool is closing"⟩) ⟨"SELECT 1", [.int 1, .text "a"]⟩
        {}).2.result := by
  rw [fetch_connecting 900 rfl (.connecting rfl rfl) (by simp [FaultKind.IsOfStore])]
  exact not_isReported_fault

end Pools

end CatalogSearch
