import CatalogSearch.Embedding
import CatalogSearch.Proofs.Compilation
import CatalogSearch.Proofs.Writing

/-!
# Embeddings that arrive

The embedding client checks each coordinate before it hands a vector on. So a vector that arrives
is the one that the answer holds, of finite numbers alone (`fetch_ok`, `ofBody_ok`), and a statement
can be compiled with it (`fetch_isVector`).
-/

namespace CatalogSearch

theorem Binary64.isFinite_of_ofInt? {i : Int} {f : Binary64} (h : ofInt? i = some f) :
    f.isFinite = true := by
  unfold ofInt? at h
  obtain ⟨m, -, rfl⟩ := Option.map_eq_some_iff.1 h
  rfl

/-- A finite number stands for a finite floating-point number. -/
theorem Value.toFloat_of_isFiniteNumber {x : Value} (h : x.isFiniteNumber = .ok true) :
    ∃ f, x.toFloat = .ok f ∧ f.isFinite = true := by
  unfold isFiniteNumber at h
  unfold toFloat
  -- under a name of its own, the conversion of a whole number is not computed
  obtain ⟨convert, hc⟩ : ∃ c, c = Binary64.ofInt? := ⟨_, rfl⟩
  rw [← hc] at h ⊢
  cases x with
  | float f => exact ⟨f, rfl, Except.ok.inj h⟩
  | int i =>
    cases hi : convert i with
    | none => simp [hi] at h
    | some f => exact ⟨f, by simp [hi], Binary64.isFinite_of_ofInt? (by rw [← hc, hi])⟩
  | _ => simp at h

/-- A vector of finite numbers can be written. -/
theorem Query.isVector_of_isFiniteNumber {vector : List Value}
    (h : ∀ x ∈ vector, x.isFiniteNumber = .ok true) : (Value.list vector).IsVector :=
  ⟨vector, rfl, fun x hx => (x.toFloat_of_isFiniteNumber (h x hx)).imp fun _ hf => hf.1⟩

namespace Embedding

theorem checkCoordinates_ok {xs : List Value} (h : checkCoordinates xs = .ok ()) :
    ∀ x ∈ xs, x.isFiniteNumber = .ok true := by
  induction xs with
  | nil => simp
  | cons x xs ih =>
    unfold checkCoordinates at h
    split at h
    · rename_i hx
      exact List.forall_mem_cons.2 ⟨hx, ih h⟩
    · simp at h
    · simp at h

/-- The vector in a document is what is located there, coordinate by coordinate. -/
theorem ofDocument_ok {document : Value} {v : List Value} (h : ofDocument document = .ok v) :
    locate? document = some (.list v) ∧ v ≠ [] ∧ ∀ x ∈ v, x.isFiniteNumber = .ok true := by
  unfold ofDocument at h
  split at h
  · simp at h
  · rename_i hl
    split at h
    · rename_i hc
      cases h
      exact ⟨hl, List.cons_ne_nil _ _, checkCoordinates_ok hc⟩
    · simp at h
  · simp at h

variable {depth : Nat}

theorem ofBody_ok {body : List UInt8} {v : List Value} (h : ofBody depth body = .ok v) :
    ∃ document, Json.ofBytes depth body = .ok document ∧ ofDocument document = .ok v := by
  unfold ofBody at h
  split at h
  · exact ⟨_, ‹_›, h⟩
  · simp at h
  · simp at h

theorem ofReply_ok {u : Url} {reply : EmbeddingReply} {v : List Value}
    (h : ofReply depth u reply = .ok v) :
    ∃ status body, reply = .answered status body ∧ u.isAbsolute = true ∧ 200 ≤ status ∧
      status < 300 ∧ ofBody depth body = .ok v := by
  unfold ofReply at h
  split at h
  · simp at h
  · simp at h
  · simp at h
  · rename_i status body
    split_ifs at h with habs hrange
    exact ⟨status, body, rfl, by simpa using habs, by omega, by omega, h⟩

variable {st : Settings}

/-- There is a warning if the configured length can be written. -/
theorem exists_lengthNote_iff (vector : List Value) :
    (∃ line, lengthNote st vector = .ok line) ↔ st.embeddingDimensions.isWritable = true := by
  rw [← Value.exists_written?_iff]
  simp only [lengthNote, bind_eq_ok_iff]
  constructor
  · rintro ⟨_, s, hs, -⟩
    exact ⟨s, hs⟩
  · rintro ⟨s, hs⟩
    exact ⟨_, s, hs, rfl⟩

/-- A vector of another length is warned of and handed on all the same. -/
theorem accept_ok {vector v : List Value} (h : (accept st vector).result = .ok v) : v = vector := by
  unfold accept at h
  split at h
  · simp [Outcome.fail] at h
  · simpa [Outcome.ok] using h.symm
  · cases hnote : lengthNote st vector with
    | ok line =>
      rw [Outcome.log_andThen_of_ok hnote] at h
      exact (Except.ok.inj h).symm
    | error why =>
      rw [Outcome.log_andThen_of_error hnote] at h
      exact nomatch h

/-- **An embedding that arrives is the vector in the reply** to the one request that was sent. -/
theorem fetch_ok {service : EmbeddingRequest → EmbeddingReply} {text : Value} {v : List Value}
    (h : (fetch st depth service text).result = .ok v) :
    ∃ a, access st = .ok a ∧ isSendable st a text = true ∧
      ofReply depth a.url (service (request st a text)) = .ok v := by
  unfold fetch at h
  split at h
  · simp [Outcome.fail] at h
  · rename_i a ha
    split at h
    · simp [Outcome.fail] at h
    · rename_i hs
      dsimp only at h
      split at h
      · simp at h
      · rename_i hv
        rw [accept_ok h]
        exact ⟨a, ha, by simpa using hs, hv⟩

/-- **An embedding that arrives can be bound**, whatever the service has answered. -/
theorem fetch_isVector {service : EmbeddingRequest → EmbeddingReply} {text : Value}
    {v : List Value} (h : (fetch st depth service text).result = .ok v) :
    (Value.list v).IsVector := by
  obtain ⟨a, -, -, hreply⟩ := fetch_ok h
  obtain ⟨status, body, -, -, -, -, hbody⟩ := ofReply_ok hreply
  obtain ⟨document, -, hdocument⟩ := ofBody_ok hbody
  exact Query.isVector_of_isFiniteNumber (ofDocument_ok hdocument).2.2

end Embedding

end CatalogSearch
