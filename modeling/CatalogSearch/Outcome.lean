import CatalogSearch.Failure

/-!
# Outcomes

A computation that talks to other services leaves a trace: the log lines it wrote and what it sent,
in order. An `Outcome` is that trace with the result or the failure that ended it. Lines that are
only written for debugging are no part of the trace.
-/

namespace CatalogSearch

inductive LogLevel where
  | info
  | warning
  | error
deriving DecidableEq, Repr

/-- The parts of the service that write log lines. -/
inductive LogSource where
  | search
  | embedding
  | store
  | service
deriving DecidableEq, Repr

structure LogLine where
  source : LogSource
  level : LogLevel
  text : String
deriving DecidableEq, Repr

/-- A statement with its parameters. -/
structure Statement where
  sql : String
  params : List Value
deriving Repr

/-- A request to the embedding service. -/
structure EmbeddingRequest where
  url : String
  authorization : String
  model : Value
  input : Value
deriving Repr

/-- What others see of a computation. -/
inductive Effect where
  | logged (line : LogLine)
  /-- A request reaches the embedding service. -/
  | posts (request : EmbeddingRequest)
  /-- A statement reaches the store. -/
  | queries (statement : Statement)
deriving Repr

/-- The trace of a computation, and its result or the failure that ended it. -/
structure Outcome (ε α : Type) where
  events : List ε
  result : Except Failure α

namespace Outcome

variable {ε δ α β : Type}

def ok (a : α) : Outcome ε α := ⟨[], .ok a⟩

def fail (f : Failure) : Outcome ε α := ⟨[], .error f⟩

/-- Puts events in front. -/
def after (es : List ε) (o : Outcome ε α) : Outcome ε α := ⟨es ++ o.events, o.result⟩

/-- Goes on with the result; a failure ends the computation, and its trace stays. -/
def andThen (o : Outcome ε α) (f : α → Outcome ε β) : Outcome ε β :=
  match o.result with
  | .ok a => (f a).after o.events
  | .error e => ⟨o.events, .error e⟩

/-- Writes a log line, if it can be written. -/
def log : Except WritingRefusal LogLine → Outcome Effect Unit
  | .ok line => ⟨[.logged line], .ok ()⟩
  | .error why => fail (.unwritten why)

/-- Writes log lines up to the first that cannot be written. -/
def logAll : List (Except WritingRefusal LogLine) → Outcome Effect Unit
  | [] => ok ()
  | note :: notes => (log note).andThen fun _ => logAll notes

/-- The same computation as a part of a larger one. -/
def within (event : ε → δ) (o : Outcome ε α) : Outcome δ α := ⟨o.events.map event, o.result⟩

variable {o : Outcome ε α} {f : α → Outcome ε β}

theorem andThen_of_ok {a : α} (h : o.result = .ok a) : o.andThen f = (f a).after o.events := by
  simp [andThen, h]

theorem andThen_of_error {e : Failure} (h : o.result = .error e) :
    o.andThen f = ⟨o.events, .error e⟩ := by
  simp [andThen, h]

variable {note : Except WritingRefusal LogLine} {g : Unit → Outcome Effect β}

theorem log_andThen_of_ok {line : LogLine} (h : note = .ok line) :
    (log note).andThen g = (g ()).after [.logged line] := by
  rw [h]
  exact andThen_of_ok rfl

theorem log_andThen_of_error {why : WritingRefusal} (h : note = .error why) :
    (log note).andThen g = fail (.unwritten why) := by
  rw [h]
  exact andThen_of_error rfl

end Outcome

end CatalogSearch
