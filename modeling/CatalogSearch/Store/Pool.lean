import CatalogSearch.Store.Query

/-!
# The shared pool

All searches go through one pool of connections. It is made when it is first wanted and shared from
then on, until it is closed; a pool that could not be made is tried again the next time.

* `Pools.enter`: what a caller does who finds no shared pool: there is one after all, there is no
  store to connect to, or a pool has to be made.
* `Pools.adopt`: what becomes of a pool that was to be made.
* `Pools.acquire`, `Pools.close`: the two operations run without interruption.
-/

namespace CatalogSearch

/-- A pool: what it was made with, the statements that were run on its connection, how the store
answers through it, how often it was asked to close, and whether it has closed. -/
structure Pool where
  url : Value
  minSize : Value
  maxSize : Value
  commandTimeout : Value
  session : List String
  reply : StoreReply
  closings : Nat := 0
  closed : Bool := false

/-- All pools made so far, by number, and the one that is shared. -/
structure Pools where
  made : List Pool := []
  shared : Option Nat := none

/-- What the client of the store does when a pool is to be made: it raises, or it connects to a
store. -/
abbrev Connector := Except Fault StoreReply

/-- Where a caller stands who wants the shared pool. -/
inductive Entry where
  | served (pool : Nat)
  | refused (why : Failure)
  | creating (url : Value)

namespace Pools

/-- There is no store to connect to. -/
def notConfigured : Failure :=
  .reported (.storeQuery "DATABASE_URL not configured" none [])

/-- The store cannot be reached. -/
def unavailable : Failure :=
  .reported (.storeQuery "Data store unavailable" none [])

/-- Whether a fault while a pool is made is reported as a search error. -/
def isConnectFault : FaultKind → Bool
  | .timedOut | .system | .database => true
  | _ => false

/-- The caller that may make a pool looks again whether there is one. -/
def enter (st : Settings) (s : Pools) : Entry :=
  match s.shared with
  | some n => .served n
  | none =>
    if st.databaseUrl.isTruthy then .creating st.databaseUrl else .refused notConfigured

/-- The statement that limits the time of all others on a connection. -/
def sessionStatement (st : Settings) : Except IntRefusal String :=
  match st.statementTimeout.toInt with
  | .ok n =>
    if isWritable n then .ok ("SET statement_timeout = " ++ toString n) else .error .unwritable
  | .error why => .error why

/-- The pool that a connector makes; nothing is made if its connection cannot be set up. -/
def make (st : Settings) (url : Value) (connect : Connector) : Outcome Effect Pool :=
  match connect with
  | .error f =>
    if isConnectFault f.kind then
      ⟨[.logged ⟨.store, .error, "Failed to create database pool: " ++ f.text⟩],
        .error unavailable⟩
    else .fail (.fault f)
  | .ok reply =>
    match sessionStatement st with
    | .error why => .fail (.notInt why)
    | .ok statement =>
      .ok {
        url := url
        minSize := st.poolMinSize
        maxSize := st.poolMaxSize
        commandTimeout := st.commandTimeout
        session := [statement]
        reply := reply
      }

/-- What is logged of a pool that was made. -/
def creationNote (st : Settings) : Except WritingRefusal LogLine := do
  let least ← st.poolMinSize.written?
  let most ← st.poolMaxSize.written?
  return ⟨.store, .info, "Database pool created (min=" ++ least ++ ", max=" ++ most ++ ")"⟩

/-- The pool that was made becomes the shared one; if none was made, nothing changes. It is shared
before that is logged, so it stays so even if there is no such line. -/
def adopt (st : Settings) (made : Outcome Effect Pool) (s : Pools) : Pools × Outcome Effect Nat :=
  match made.result with
  | .ok p =>
    ({ made := s.made ++ [p], shared := some s.made.length },
      ((Outcome.log (creationNote st)).andThen fun _ => .ok s.made.length).after made.events)
  | .error why => (s, ⟨made.events, .error why⟩)

/-- **The shared pool**, made if there is none. -/
def acquire (st : Settings) (connect : Connector) (s : Pools) : Pools × Outcome Effect Nat :=
  match enter st s with
  | .served n => (s, .ok n)
  | .refused why => (s, .fail why)
  | .creating url => adopt st (make st url connect) s

/-- A pool is asked to close. -/
def askToClose (n : Nat) (s : Pools) : Pools :=
  { s with made := s.made.modify n fun p => { p with closings := p.closings + 1 } }

/-- Pool `n`, asked to close, has closed, and there is no shared pool; if closing it raised, all
stays as it is. -/
def release (n : Nat) (closed : Except Fault Unit) (s : Pools) : Pools × Outcome Effect Unit :=
  match closed with
  | .ok _ =>
    ({ made := s.made.modify n fun p => { p with closed := true }, shared := none },
      ⟨[.logged ⟨.store, .info, "Database pool closed"⟩], .ok ()⟩)
  | .error f => (s, .fail (.fault f))

/-- **Closes the shared pool**, if there is one. -/
def close (closed : Except Fault Unit) (s : Pools) : Pools × Outcome Effect Unit :=
  match s.shared with
  | none => (s, .ok ())
  | some n => release n closed (s.askToClose n)

/-- **Runs a statement on the shared pool.** -/
def fetch (st : Settings) (room : Nat) (connect : Connector) (stmt : Statement) (s : Pools) :
    Pools × Outcome Effect (List Row) :=
  let (s', pool) := acquire st connect s
  (s', pool.andThen fun n =>
    match s'.made[n]? with
    | some p => Store.query room p.reply stmt
    | none => .fail unavailable)

end Pools

end CatalogSearch
