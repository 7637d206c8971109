import CatalogSearch.Proofs.StoreFaults
import CatalogSearch.Service.Answer

/-!
# Where the services break down

The embedding service and the store can be of no use in many ways: their clients raise, they answer
what cannot be read, what is to be logged of them cannot be written, or the settings do not do. A
breakdown is the place where this happens, with the kind of the fault where a client has raised, and
with nothing else: it keeps no text of a fault, no statement and no value that came back. Still it
decides what is answered.

* `Embedding.BreaksAt`, `Pools.BreaksAt`: where the way to an embedding or to rows ends.
* `Embedding.exists_breaksAt`, `Pools.exists_breaksAt`: whatever fails breaks down somewhere.
* `Embedding.fetch_of_breaksAt`, `Pools.fetch_of_breaksAt`: what breaks down fails, and the place
  decides the answer.
-/

namespace CatalogSearch

namespace Service

/-- The answer to a failure that has a name or hides behind a common one. -/
def failed (status : Nat) (code message : String) : Answer where
  status := status
  body := .record [("error", .text code), ("message", .text message)]

/-- The answer where no embedding could be had. -/
def unembedded (r : EmbeddingRefusal) : Answer := failed 502 "EMBEDDING_SERVICE_FAILURE" r.message

/-- The answer where the store was of no use. -/
def unfetched (message : String) : Answer := failed 500 "STORE_QUERY_FAILURE" message

/-- The answer to everything that has no name of its own. -/
def unnamed : Answer := failed 500 "INTERNAL_ERROR" "An error occurred while searching"

/-- The answer to parameters that are refused. -/
def rejected (why : Rejection) : Answer where
  status := 400
  body := .record [("error", .text "INVALID_REQUEST"), ("message", .text why.message),
    ("field", .text why.field)]

theorem ofFailure_unnamed (report : Row → List Issue → String) {f : Failure}
    (h : ∀ e, f ≠ .reported e) : ofFailure report false f = unnamed := by
  cases f with
  | reported e => exact absurd rfl (h e)
  | _ => rfl

end Service

/-! ### The embedding service -/

namespace Embedding

/-- **Where the way to an embedding ends.** -/
inductive Breakdown where
  /-- The configured key cannot be written. -/
  | key
  /-- The configured address is none. -/
  | address
  /-- The request is not one that can be sent. -/
  | sending
  /-- The client of the service raises. -/
  | posting (kind : FaultKind)
  /-- An answer, but the address is not absolute. -/
  | relative
  /-- The service answers without success. -/
  | status
  /-- The octets of the answer are no document. -/
  | malformed
  /-- The document is nested too deeply. -/
  | nested
  /-- The document has no embedding in its place. -/
  | missing
  /-- What is in its place is no list, or an empty one. -/
  | vector
  /-- A coordinate is no finite number. -/
  | coordinate
  /-- A coordinate is beyond floating point. -/
  | magnitude
  /-- The length of the vector cannot be compared with the configured one. -/
  | dimensions
  /-- The length of the vector is another one than configured, which cannot be written. -/
  | warning
deriving DecidableEq, Repr

/-- What is answered. -/
def Breakdown.answer : Breakdown → Answer
  | key | sending | relative | malformed | missing | coordinate =>
    Service.unembedded .invalidResponse
  | status => Service.unembedded .requestFailed
  | vector => Service.unembedded .emptyVector
  | posting .transport => Service.unembedded .requestFailed
  | posting .value => Service.unembedded .invalidResponse
  | posting _ | address | nested | magnitude | dimensions | warning => Service.unnamed

variable {st : Settings} {depth : Nat} {u : Url} {service : EmbeddingRequest → EmbeddingReply}
variable {text : Value} {body : List UInt8} {reply : EmbeddingReply} {b : Breakdown} {e : Failure}
variable (report : Row → List Issue → String)

/-- Where the octets of an answer are of no use. -/
inductive BodyBreaksAt (depth : Nat) (body : List UInt8) : Breakdown → Prop where
  | malformed (unread : Json.ofBytes depth body = .error .malformed) :
    BodyBreaksAt depth body .malformed
  | nested {c : Json.Container} (unread : Json.ofBytes depth body = .error (.tooDeep c)) :
    BodyBreaksAt depth body .nested
  | missing {document : Value} (read : Json.ofBytes depth body = .ok document)
    (absent : locate? document = none) : BodyBreaksAt depth body .missing
  | vector {document v : Value} (read : Json.ofBytes depth body = .ok document)
    (located : locate? document = some v) (useless : ∀ x xs, v ≠ .list (x :: xs)) :
    BodyBreaksAt depth body .vector
  | coordinate {document x : Value} {pre post : List Value}
    (read : Json.ofBytes depth body = .ok document)
    (located : locate? document = some (.list (pre ++ x :: post)))
    (finite : ∀ y ∈ pre, y.isFiniteNumber = .ok true) (unusable : x.isFiniteNumber = .ok false) :
    BodyBreaksAt depth body .coordinate
  | magnitude {document x : Value} {pre post : List Value} {why : FloatRefusal}
    (read : Json.ofBytes depth body = .ok document)
    (located : locate? document = some (.list (pre ++ x :: post)))
    (finite : ∀ y ∈ pre, y.isFiniteNumber = .ok true) (beyond : x.isFiniteNumber = .error why) :
    BodyBreaksAt depth body .magnitude

/-- Where a reply is of no use. -/
inductive ReplyBreaksAt (depth : Nat) (u : Url) : EmbeddingReply → Breakdown → Prop where
  | posting (f : Fault) : ReplyBreaksAt depth u (.failed f) (.posting f.kind)
  | relative {status : Nat} {body : List UInt8} (relative : u.isAbsolute = false) :
    ReplyBreaksAt depth u (.answered status body) .relative
  | status {status : Nat} {body : List UInt8} (absolute : u.isAbsolute = true)
    (failure : status < 200 ∨ 300 ≤ status) : ReplyBreaksAt depth u (.answered status body) .status
  | body {status : Nat} {body : List UInt8} {b : Breakdown} (absolute : u.isAbsolute = true)
    (success : ¬ (status < 200 ∨ 300 ≤ status)) (useless : BodyBreaksAt depth body b) :
    ReplyBreaksAt depth u (.answered status body) b

/-- **Where the embedding of a text breaks down.** -/
inductive BreaksAt (st : Settings) (depth : Nat) (service : EmbeddingRequest → EmbeddingReply)
    (text : Value) : Breakdown → Prop where
  | key {base : String} {why : WritingRefusal} (configured : st.embeddingUrl = .text base)
    (unwritten : bearer st = .error why) : BreaksAt st depth service text .key
  | address {e : Failure} (unknown : access st = .error e) (nameless : ∀ s, e ≠ .reported s) :
    BreaksAt st depth service text .address
  | sending {a : Access} (known : access st = .ok a) (unsendable : isSendable st a text = false) :
    BreaksAt st depth service text .sending
  | reply {a : Access} {b : Breakdown} (known : access st = .ok a)
    (sendable : isSendable st a text = true)
    (useless : ReplyBreaksAt depth a.url (service (request st a text)) b) :
    BreaksAt st depth service text b
  | dimensions {a : Access} {vector : List Value} (known : access st = .ok a)
    (sendable : isSendable st a text = true)
    (got : ofReply depth a.url (service (request st a text)) = .ok vector)
    (incomparable : (Value.int vector.length).same? st.embeddingDimensions = none) :
    BreaksAt st depth service text .dimensions
  | warning {a : Access} {vector : List Value} {why : WritingRefusal} (known : access st = .ok a)
    (sendable : isSendable st a text = true)
    (got : ofReply depth a.url (service (request st a text)) = .ok vector)
    (other : (Value.int vector.length).same? st.embeddingDimensions = some false)
    (unwritten : lengthNote st vector = .error why) : BreaksAt st depth service text .warning

/-- An address that is none has no name as a failure. -/
theorem address_error {base : String} (h : address base = .error e) (s : SearchError) :
    e ≠ .reported s := by
  rintro rfl
  unfold address at h
  cases hread : Url.read (String.ofList (Text.dropTrailing '/' base.toList) ++ "/embeddings") with
  | error why =>
    rw [hread] at h
    exact nomatch h
  | ok u =>
    rw [hread] at h
    dsimp only at h
    cases hbelow : u.below (Url.draft []) <;> rw [hbelow] at h <;> exact nomatch h

/-- Without access there is no key, or no address. -/
theorem access_error (h : access st = .error e) :
    (∃ base why, st.embeddingUrl = .text base ∧ bearer st = .error why) ∨
      ∀ s, e ≠ .reported s := by
  unfold access at h
  cases hbase : st.embeddingUrl with
  | text base =>
    rw [hbase] at h
    cases hkey : bearer st with
    | error why => exact .inl ⟨base, why, rfl, rfl⟩
    | ok key =>
      rw [hkey] at h
      exact .inr (address_error (map_eq_error_iff.1 h))
  | _ =>
    rw [hbase] at h
    cases h
    exact .inr nofun

/-- Coordinates that are finite do not decide. -/
theorem checkCoordinates_append {pre xs : List Value}
    (h : ∀ y ∈ pre, y.isFiniteNumber = .ok true) :
    checkCoordinates (pre ++ xs) = checkCoordinates xs := by
  induction pre with
  | nil => rfl
  | cons y pre ih =>
    obtain ⟨hy, hpre⟩ := List.forall_mem_cons.1 h
    rw [List.cons_append, checkCoordinates, hy]
    exact ih hpre

/-- The first coordinate that is not finite decides. -/
theorem checkCoordinates_error {xs : List Value} (h : checkCoordinates xs = .error e) :
    ∃ pre x post, xs = pre ++ x :: post ∧ (∀ y ∈ pre, y.isFiniteNumber = .ok true) ∧
      (x.isFiniteNumber = .ok false ∨ ∃ why, x.isFiniteNumber = .error why) := by
  induction xs with
  | nil => exact nomatch h
  | cons x xs ih =>
    cases hx : x.isFiniteNumber with
    | error why => exact ⟨[], x, xs, rfl, nofun, .inr ⟨why, hx⟩⟩
    | ok isFinite =>
      cases isFinite with
      | false => exact ⟨[], x, xs, rfl, nofun, .inl hx⟩
      | true =>
        rw [checkCoordinates, hx] at h
        obtain ⟨pre, y, post, rfl, hpre, hy⟩ := ih h
        exact ⟨x :: pre, y, post, rfl, List.forall_mem_cons.2 ⟨hx, hpre⟩, hy⟩

theorem ofDocument_error {document x : Value} {pre post : List Value}
    (hl : locate? document = some (.list (pre ++ x :: post)))
    (hc : checkCoordinates (pre ++ x :: post) = .error e) : ofDocument document = .error e := by
  unfold ofDocument
  cases pre with
  | nil =>
    rw [List.nil_append] at hl hc
    simp only [hl, hc]
  | cons y pre =>
    rw [List.cons_append] at hl hc
    simp only [hl, hc]

theorem ofBody_of_breaksAt (h : BodyBreaksAt depth body b) :
    ∃ e, ofBody depth body = .error e ∧ Service.ofFailure report false e = b.answer := by
  unfold ofBody
  cases h with
  | malformed unread => exact ⟨_, by rw [unread], rfl⟩
  | nested unread => exact ⟨_, by rw [unread], rfl⟩
  | missing read absent =>
    rw [read]
    exact ⟨EmbeddingRefusal.invalidResponse.toFailure, by simp only [ofDocument, absent], rfl⟩
  | vector read located useless =>
    rw [read]
    refine ⟨EmbeddingRefusal.emptyVector.toFailure, ?_, rfl⟩
    dsimp only
    unfold ofDocument
    split
    · rename_i habsent
      exact nomatch located.symm.trans habsent
    · rename_i hlist
      exact absurd (Option.some.inj (located.symm.trans hlist)) (useless _ _)
    · rfl
  | coordinate read located finite unusable =>
    rw [read]
    refine ⟨EmbeddingRefusal.invalidResponse.toFailure, ofDocument_error located ?_, rfl⟩
    rw [checkCoordinates_append finite, checkCoordinates, unusable]
  | @magnitude _ _ _ _ why read located finite beyond =>
    rw [read]
    refine ⟨.notFloat why, ofDocument_error located ?_, rfl⟩
    rw [checkCoordinates_append finite, checkCoordinates, beyond]

theorem exists_bodyBreaksAt (h : ofBody depth body = .error e) :
    ∃ b, BodyBreaksAt depth body b := by
  unfold ofBody at h
  cases hb : Json.ofBytes depth body with
  | error why =>
    cases why with
    | malformed => exact ⟨_, .malformed hb⟩
    | tooDeep c => exact ⟨_, .nested hb⟩
  | ok document =>
    rw [hb] at h
    dsimp only at h
    unfold ofDocument at h
    -- nothing in its place, coordinates to be checked, or something that is no vector
    split at h
    · rename_i habsent
      exact ⟨_, .missing hb habsent⟩
    · rename_i x xs hlist
      cases hc : checkCoordinates (x :: xs) with
      | ok _ =>
        rw [hc] at h
        exact nomatch h
      | error why =>
        obtain ⟨pre, y, post, hsplit, hpre, hy⟩ := checkCoordinates_error hc
        rw [hsplit] at hlist
        obtain hy | ⟨why, hy⟩ := hy
        · exact ⟨_, .coordinate hb hlist hpre hy⟩
        · exact ⟨_, .magnitude hb hlist hpre hy⟩
    · rename_i v hv huseless
      exact ⟨_, .vector hb huseless hv⟩

theorem ofReply_of_breaksAt (h : ReplyBreaksAt depth u reply b) :
    ∃ e, ofReply depth u reply = .error e ∧ Service.ofFailure report false e = b.answer := by
  cases h with
  | posting f =>
    obtain ⟨kind, words⟩ := f
    cases kind <;> exact ⟨_, rfl, rfl⟩
  | relative relative => exact ⟨_, by simp only [ofReply, relative]; rfl, rfl⟩
  | status absolute failure =>
    exact ⟨_, by simp only [ofReply, absolute, if_pos failure]; rfl, rfl⟩
  | body absolute success useless =>
    obtain ⟨e, he, hanswer⟩ := ofBody_of_breaksAt report useless
    exact ⟨e, by simp only [ofReply, absolute, if_neg success, he]; rfl, hanswer⟩

theorem exists_replyBreaksAt (h : ofReply depth u reply = .error e) :
    ∃ b, ReplyBreaksAt depth u reply b := by
  cases reply with
  | failed f => exact ⟨_, .posting f⟩
  | answered status body =>
    cases habs : u.isAbsolute with
    | false => exact ⟨_, .relative habs⟩
    | true =>
      by_cases hstatus : status < 200 ∨ 300 ≤ status
      · exact ⟨_, .status habs hstatus⟩
      · simp only [ofReply, habs, if_neg hstatus] at h
        obtain ⟨b, hb⟩ := exists_bodyBreaksAt h
        exact ⟨b, .body habs hstatus hb⟩

theorem fetch_of_breaksAt (h : BreaksAt st depth service text b) :
    ∃ e, (fetch st depth service text).result = .error e ∧
      Service.ofFailure report false e = b.answer := by
  cases h with
  | key configured unwritten =>
    have hunknown : access st = .error EmbeddingRefusal.invalidResponse.toFailure := by
      simp only [access, configured, unwritten]
    exact ⟨_, by simp only [fetch, hunknown]; rfl, rfl⟩
  | address unknown nameless =>
    exact ⟨_, by simp only [fetch, unknown]; rfl, Service.ofFailure_unnamed report nameless⟩
  | sending known unsendable =>
    exact ⟨_, by simp only [fetch, known, unsendable]; rfl, rfl⟩
  | reply known sendable useless =>
    obtain ⟨e, he, hanswer⟩ := ofReply_of_breaksAt report useless
    exact ⟨e, by simp only [fetch, known, sendable, he]; rfl, hanswer⟩
  | dimensions known sendable got incomparable =>
    exact ⟨_, by simp only [fetch, known, sendable, got, accept, incomparable]; rfl, rfl⟩
  | @warning a vector why known sendable got other unwritten =>
    refine ⟨.unwritten why, ?_, rfl⟩
    simp only [fetch, known, sendable, got, accept, other, Outcome.log_andThen_of_error unwritten]
    rfl

theorem exists_breaksAt (h : (fetch st depth service text).result = .error e) :
    ∃ b, BreaksAt st depth service text b := by
  cases ha : access st with
  | error why =>
    obtain ⟨base, why, hbase, hkey⟩ | hnameless := access_error ha
    · exact ⟨_, .key hbase hkey⟩
    · exact ⟨_, .address ha hnameless⟩
  | ok a =>
    cases hs : isSendable st a text with
    | false => exact ⟨_, .sending ha hs⟩
    | true =>
      cases hr : ofReply depth a.url (service (request st a text)) with
      | error why =>
        obtain ⟨b, hb⟩ := exists_replyBreaksAt hr
        exact ⟨b, .reply ha hs hb⟩
      | ok vector =>
        simp only [fetch, ha, hs, hr, accept] at h
        cases hd : (Value.int vector.length).same? st.embeddingDimensions with
        | none => exact ⟨_, .dimensions ha hs hr hd⟩
        | some same =>
          rw [hd] at h
          cases same with
          | true => exact nomatch h
          | false =>
            cases hnote : lengthNote st vector with
            | error why => exact ⟨_, .warning ha hs hr hd hnote⟩
            | ok line =>
              simp only [Outcome.log_andThen_of_ok hnote] at h
              exact nomatch h

end Embedding

/-! ### The store -/

namespace Pools

/-- **Where the way to the rows ends.** -/
inductive Breakdown where
  /-- No pool is shared, and there is no store to connect to. -/
  | unconfigured
  /-- The client of the store raises while a pool is made. -/
  | connecting (kind : FaultKind)
  /-- The limit of time cannot be set on a new connection. -/
  | session
  /-- The sizes of the pool that was made cannot be written. -/
  | noting
  /-- The shared pool is none of those that were made. -/
  | unmade
  /-- The client of the store raises while the statement runs. -/
  | running (kind : FaultKind)
  /-- It raises, and the parameters of the statement cannot be written. -/
  | describing
  /-- An answer of the store is no row. -/
  | row
deriving DecidableEq, Repr

/-- What is answered. -/
def Breakdown.answer : Breakdown → Answer
  | unconfigured => Service.unfetched "DATABASE_URL not configured"
  | connecting kind =>
    if isConnectFault kind then Service.unfetched "Data store unavailable" else Service.unnamed
  | unmade => Service.unfetched "Data store unavailable"
  | running kind =>
    if Store.isQueryFault kind then Service.unfetched "Search query failed" else Service.unnamed
  | session | noting | describing | row => Service.unnamed

variable {st : Settings} {room : Nat} {connect : Connector} {s : Pools} {stmt : Statement}
variable {b : Breakdown} {e : Failure} {reply : StoreReply}
variable (report : Row → List Issue → String)

/-- **Where a statement on the shared pool breaks down.** -/
inductive BreaksAt (st : Settings) (room : Nat) (connect : Connector) (s : Pools)
    (stmt : Statement) : Breakdown → Prop where
  | unconfigured (absent : s.shared = none) (unset : st.databaseUrl.isTruthy = false) :
    BreaksAt st room connect s stmt .unconfigured
  | connecting {f : Fault} (absent : s.shared = none) (set : st.databaseUrl.isTruthy = true)
    (raised : connect = .error f) : BreaksAt st room connect s stmt (.connecting f.kind)
  | session {reply : StoreReply} {why : IntRefusal} (absent : s.shared = none)
    (set : st.databaseUrl.isTruthy = true) (connected : connect = .ok reply)
    (unlimited : sessionStatement st = .error why) : BreaksAt st room connect s stmt .session
  | noting {reply : StoreReply} {limit : String} {why : WritingRefusal} (absent : s.shared = none)
    (set : st.databaseUrl.isTruthy = true) (connected : connect = .ok reply)
    (limited : sessionStatement st = .ok limit) (silent : creationNote st = .error why) :
    BreaksAt st room connect s stmt .noting
  | unmade {n : Nat} (present : s.shared = some n) (missing : s.made[n]? = none) :
    BreaksAt st room connect s stmt .unmade
  | running {reply : StoreReply} {f : Fault} (served : Serves st connect s reply)
    (raised : reply stmt = .error f)
    (described : f.kind.IsOfStore → Store.CanDescribe room stmt.params) :
    BreaksAt st room connect s stmt (.running f.kind)
  | describing {reply : StoreReply} {f : Fault} (served : Serves st connect s reply)
    (raised : reply stmt = .error f) (kind : f.kind.IsOfStore)
    (undescribed : ¬ Store.CanDescribe room stmt.params) :
    BreaksAt st room connect s stmt .describing
  | row {reply : StoreReply} {answers : List Value} {why : RowRefusal}
    (served : Serves st connect s reply) (replied : reply stmt = .ok answers)
    (unread : Row.ofValues answers = .error why) : BreaksAt st room connect s stmt .row

theorem fetch_of_breaksAt (h : BreaksAt st room connect s stmt b) :
    ∃ e, (fetch st room connect stmt s).2.result = .error e ∧
      Service.ofFailure report false e = b.answer := by
  cases h with
  | unconfigured absent unset =>
    have hurl : ¬ st.databaseUrl.isTruthy = true := by rw [unset]; exact nofun
    refine ⟨notConfigured, ?_, rfl⟩
    simp only [fetch, acquire, enter, absent, if_neg hurl]
    rfl
  | @connecting f absent set raised =>
    subst raised
    by_cases hk : isConnectFault f.kind = true
    · refine ⟨unavailable, (fetch_of_make_error set absent (make_error hk)).2, ?_⟩
      exact (if_pos hk).symm
    · refine ⟨.fault f, (fetch_of_make_error set absent (make_escape hk)).2, ?_⟩
      exact (if_neg hk).symm
  | @session reply why absent set connected unlimited =>
    subst connected
    have hmake : (make st st.databaseUrl (.ok reply)).result = .error (.notInt why) := by
      simp only [make, unlimited]
      rfl
    exact ⟨.notInt why, (fetch_of_make_error set absent hmake).2, rfl⟩
  | @noting reply limit why absent set connected limited silent =>
    subst connected
    obtain ⟨p, -, hmade⟩ := make_ok st.databaseUrl reply limited
    refine ⟨.unwritten why, ?_, rfl⟩
    simp only [fetch, acquire_make set absent, adopt_unnoted hmade silent, Outcome.andThen]
  | unmade present missing =>
    refine ⟨unavailable, ?_, rfl⟩
    simp only [fetch, acquire_shared present, Outcome.andThen, Outcome.ok, missing]
    rfl
  | @running reply f served raised described =>
    rw [fetch_of_serves served]
    by_cases hk : Store.isQueryFault f.kind = true
    · have hstore := Store.isQueryFault_iff.1 hk
      exact ⟨_, Store.query_described raised hstore (described hstore), (if_pos hk).symm⟩
    · refine ⟨.fault f, ?_, (if_neg hk).symm⟩
      simp only [Store.query, raised, if_neg hk]
  | describing served raised kind undescribed =>
    obtain ⟨why, hwhy⟩ := Store.query_undescribed raised kind undescribed
    exact ⟨_, (fetch_of_serves served).trans hwhy, rfl⟩
  | @row reply answers why served replied unread =>
    rw [fetch_of_serves served]
    refine ⟨.noRow why, ?_, rfl⟩
    simp only [Store.query, replied, unread]

/-- On the store that it reaches, a statement breaks down as it runs or by its answers. -/
theorem breaksAt_of_serves (hs : Serves st connect s reply)
    (h : (Store.query room reply stmt).result = .error e) :
    ∃ b, BreaksAt st room connect s stmt b := by
  cases hr : reply stmt with
  | error f =>
    -- parameters are only described for a fault of the store
    by_cases hundescribed : f.kind.IsOfStore ∧ ¬ Store.CanDescribe room stmt.params
    · exact ⟨_, .describing hs hr hundescribed.1 hundescribed.2⟩
    · exact ⟨_, .running hs hr fun hk => Classical.byContradiction fun hno =>
        hundescribed ⟨hk, hno⟩⟩
  | ok answers =>
    cases hrows : Row.ofValues answers with
    | error why => exact ⟨_, .row hs hr hrows⟩
    | ok rows =>
      have hok : (Store.query room reply stmt).result = .ok rows := by
        simp only [Store.query, hr, hrows]
      cases h.symm.trans hok

theorem exists_breaksAt (h : (fetch st room connect stmt s).2.result = .error e) :
    ∃ b, BreaksAt st room connect s stmt b := by
  cases hs : s.shared with
  | some n =>
    cases hp : s.made[n]? with
    | none => exact ⟨_, .unmade hs hp⟩
    | some p =>
      have hserves : Serves st connect s p.reply := .shared hs hp
      rw [fetch_of_serves hserves] at h
      exact breaksAt_of_serves hserves h
  | none =>
    cases hurl : st.databaseUrl.isTruthy with
    | false => exact ⟨_, .unconfigured hs hurl⟩
    | true =>
      cases hc : connect with
      | error f => exact ⟨_, .connecting hs hurl rfl⟩
      | ok reply =>
        cases hlimit : sessionStatement st with
        | error why => exact ⟨_, .session hs hurl rfl hlimit⟩
        | ok limit =>
          cases hnote : creationNote st with
          | error why => exact ⟨_, .noting hs hurl rfl hlimit hnote⟩
          | ok line =>
            subst hc
            have hserves : Serves st (.ok reply) s reply := .fresh hs hurl rfl hlimit hnote
            rw [fetch_of_serves hserves] at h
            exact breaksAt_of_serves hserves h

end Pools

end CatalogSearch
