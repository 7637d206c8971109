import CatalogSearch.Outcome
import CatalogSearch.Text.Octets

/-!
# Embeddings

The embedding of a text is asked of a web service. Whatever the service answers is checked down to
the single coordinate, so that a vector that is returned can be bound to a statement as it is; a
vector of another length than configured is only warned of. A request that cannot be sent counts as
one with a useless answer.

* `Embedding.access`: the address to ask and the key to show there.
* `Embedding.ofReply`: the vector in a reply, or why there is none.
* `Embedding.fetch`: the embedding of a text.
-/

namespace CatalogSearch

/-- What comes back from the embedding service. -/
inductive EmbeddingReply where
  | answered (status : Nat) (body : List UInt8)
  | failed (fault : Fault)

/-- Why there is no embedding. -/
inductive EmbeddingRefusal where
  /-- The service was not reached, or it answered with an error. -/
  | requestFailed
  /-- The answer is not in the form agreed, or holds something else than finite numbers. -/
  | invalidResponse
  /-- There is no vector in the answer, or one without coordinates. -/
  | emptyVector
deriving DecidableEq, Repr

namespace EmbeddingRefusal

def message : EmbeddingRefusal → String
  | requestFailed => "Embedding service request failed"
  | invalidResponse => "Embedding service returned an invalid response"
  | emptyVector => "Embedding service returned an empty vector"

def toFailure (r : EmbeddingRefusal) : Failure :=
  .reported (.embeddingService r.message)

end EmbeddingRefusal

namespace Embedding

/-- The address to ask; slashes at the end of the configured one do not count. -/
def address (base : String) : Except Failure Url :=
  match Url.read (String.ofList (Text.dropTrailing '/' base.toList) ++ "/embeddings") with
  | .error why => .error (.badAddress why)
  | .ok u =>
    match u.below (Url.draft []) with
    | .ok u => .ok u
    | .error why => .error (.badAddress why)

/-- The configured key as a request shows it. -/
def bearer (st : Settings) : Except WritingRefusal String := do
  let key ← st.embeddingKey.written?
  return "Bearer " ++ key

/-- Where to ask, and the configured key as it is shown there. -/
structure Access where
  url : Url
  bearer : String

/-- Where to ask. The key is written before the address is read, and without it there is no
request. -/
def access (st : Settings) : Except Failure Access :=
  match st.embeddingUrl with
  | .text base =>
    match bearer st with
    | .error _ => .error EmbeddingRefusal.invalidResponse.toFailure
    | .ok key => (address base).map fun u => ⟨u, key⟩
  | v => .error (.notText v.kindName)

/-- How a request identifies itself: by what the address says, or else by the configured key. -/
def authorization (a : Access) : String :=
  match a.url.credentials? with
  | some (name, word) =>
    "Basic " ++ String.ofList (Text.base64 (Text.utf8Octets (name ++ ":" ++ word).toList))
  | none => a.bearer

/-- The request for the embedding of a text. -/
def request (st : Settings) (a : Access) (text : Value) : EmbeddingRequest where
  url := a.url.text
  authorization := authorization a
  model := st.embeddingModel
  input := text

/-- Whether the request for the embedding of a text can be sent: the configured key has to be ASCII,
the host one that can be asked, and model and text have to be documents. -/
def isSendable (st : Settings) (a : Access) (text : Value) : Bool :=
  a.bearer.toList.all (·.toNat < 0x80) && a.url.checkHost.toBool && text.isDocument &&
    st.embeddingModel.isDocument

/-- The first item of `data` and its `embedding`, wherever the document has them. -/
def locate? (document : Value) : Option Value := do
  let data ← document.field? "data"
  let first ← data.head?
  first.field? "embedding"

/-- Refuses coordinates unless all are finite numbers; the first bad one decides. -/
def checkCoordinates : List Value → Except Failure Unit
  | [] => .ok ()
  | x :: xs =>
    match x.isFiniteNumber with
    | .ok true => checkCoordinates xs
    | .ok false => .error EmbeddingRefusal.invalidResponse.toFailure
    | .error why => .error (.notFloat why)

/-- The vector in a document. -/
def ofDocument (document : Value) : Except Failure (List Value) :=
  match locate? document with
  | none => .error EmbeddingRefusal.invalidResponse.toFailure
  | some (.list (x :: xs)) =>
    match checkCoordinates (x :: xs) with
    | .ok _ => .ok (x :: xs)
    | .error e => .error e
  | some _ => .error EmbeddingRefusal.emptyVector.toFailure

/-- The vector in the octets of an answer, read with room for `depth` containers in one another. -/
def ofBody (depth : Nat) (body : List UInt8) : Except Failure (List Value) :=
  match Json.ofBytes depth body with
  | .ok document => ofDocument document
  | .error .malformed => .error EmbeddingRefusal.invalidResponse.toFailure
  | .error (.tooDeep c) => .error (.tooDeep c)

/-- **The vector in a reply** to a request that was sent to an address, or why there is none. An
answer is of no use if the address is not absolute. -/
def ofReply (depth : Nat) (u : Url) : EmbeddingReply → Except Failure (List Value)
  | .failed ⟨.transport, _⟩ => .error EmbeddingRefusal.requestFailed.toFailure
  | .failed ⟨.value, _⟩ => .error EmbeddingRefusal.invalidResponse.toFailure
  | .failed f => .error (.fault f)
  | .answered status body =>
    if !u.isAbsolute then .error EmbeddingRefusal.invalidResponse.toFailure
    else if status < 200 ∨ 300 ≤ status then .error EmbeddingRefusal.requestFailed.toFailure
    else ofBody depth body

/-- What is logged of a vector of another length than configured. -/
def lengthNote (st : Settings) (vector : List Value) : Except WritingRefusal LogLine := do
  let expected ← st.embeddingDimensions.written?
  return ⟨.embedding, .warning,
    "Embedding dimension mismatch: got " ++ toString vector.length ++ ", expected " ++ expected⟩

/-- A vector that has been accepted, with a warning if its length is not the configured one. -/
def accept (st : Settings) (vector : List Value) : Outcome Effect (List Value) :=
  match (Value.int vector.length).same? st.embeddingDimensions with
  | none => .fail (.notComparable .notNumber)
  | some true => .ok vector
  | some false => (Outcome.log (lengthNote st vector)).andThen fun _ => .ok vector

/-- **The embedding of a text**, asked of `service`. -/
def fetch (st : Settings) (depth : Nat) (service : EmbeddingRequest → EmbeddingReply)
    (text : Value) : Outcome Effect (List Value) :=
  match access st with
  | .error e => .fail e
  | .ok a =>
    if !isSendable st a text then .fail EmbeddingRefusal.invalidResponse.toFailure
    else
      let r := request st a text
      match ofReply depth a.url (service r) with
      | .error e => ⟨[.posts r], .error e⟩
      | .ok vector => (accept st vector).after [.posts r]

end Embedding

end CatalogSearch
