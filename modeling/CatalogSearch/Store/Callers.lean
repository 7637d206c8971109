import CatalogSearch.Store.Pool

/-!
# Callers of the shared pool

Several callers may want the shared pool, or want it closed, at the same time. A caller runs
without interruption between its waits: for the lock, for a pool to be made, for a pool to be
closed. Only pools are made under the lock; closing does not take it.

`Crowd.step` is one such stretch of one caller; `Crowd.openAll` lets callers in turn get their pool.
-/

namespace CatalogSearch

/-- Where a caller stands that wants the shared pool. -/
inductive Opening where
  | arriving
  /-- Waiting for the lock. -/
  | queued
  /-- Holding the lock and waiting for a pool to be made. -/
  | creating (url : Value)
  | served (pool : Nat)
  | refused (why : Failure)

/-- Where a caller stands that wants the shared pool closed. -/
inductive Closing where
  | arriving
  /-- Waiting for a pool to be closed. -/
  | waiting (pool : Nat)
  | done
  | refused (why : Failure)

inductive Caller where
  | opens (stage : Opening)
  | closes (stage : Closing)

/-- The pools, whether the lock is held, the callers, and the trace so far. -/
structure Crowd where
  pools : Pools := {}
  locked : Bool := false
  callers : List Caller := []
  events : List Effect := []

namespace Crowd

/-- Notes where a caller stands now. -/
def put (c : Crowd) (i : Nat) (k : Caller) : Crowd :=
  { c with callers := c.callers.set i k }

/-- A caller that has the lock: it holds it only while a pool is made. -/
def enter (st : Settings) (c : Crowd) (i : Nat) : Crowd :=
  match c.pools.enter st with
  | .served n => c.put i (.opens (.served n))
  | .refused why => c.put i (.opens (.refused why))
  | .creating url => { c.put i (.opens (.creating url)) with locked := true }

/-- The pool of a caller has been made, or not; the lock is free again. -/
def adopt (st : Settings) (made : Outcome Effect Pool) (c : Crowd) (i : Nat) : Crowd :=
  let (pools, served) := c.pools.adopt st made
  let stage : Opening :=
    match served.result with
    | .ok n => .served n
    | .error why => .refused why
  { c.put i (.opens stage) with
    pools := pools, locked := false, events := c.events ++ served.events }

/-- Pool `n`, which a caller closes, has been closed, or not. -/
def release (n : Nat) (closed : Except Fault Unit) (c : Crowd) (i : Nat) : Crowd :=
  let (pools, done) := c.pools.release n closed
  let stage : Closing :=
    match done.result with
    | .ok _ => .done
    | .error why => .refused why
  { c.put i (.closes stage) with pools := pools, events := c.events ++ done.events }

/-- **One stretch of caller `i`**, which changes nothing if the caller has to wait for the lock or
has finished. `connect` and `closed` are what the client of the store does if it is asked to. -/
def step (st : Settings) (connect : Connector) (closed : Except Fault Unit) (c : Crowd) (i : Nat) :
    Crowd :=
  match c.callers[i]? with
  | some (.opens .arriving) =>
    match c.pools.shared with
    | some n => c.put i (.opens (.served n))
    | none => if c.locked then c.put i (.opens .queued) else c.enter st i
  | some (.opens .queued) => if c.locked then c else c.enter st i
  | some (.opens (.creating url)) => c.adopt st (Pools.make st url connect) i
  | some (.closes .arriving) =>
    match c.pools.shared with
    | none => c.put i (.closes .done)
    | some n => { c.put i (.closes (.waiting n)) with pools := c.pools.askToClose n }
  | some (.closes (.waiting n)) => c.release n closed i
  | _ => c

/-- `n` callers want the shared pool at once. They arrive in turn, and take turns until each has
been served or refused: every round but the first two finishes one caller at least. -/
def openAll (st : Settings) (connect : Connector) (n : Nat) (s : Pools) : Crowd :=
  let rounds := (List.replicate (n + 2) (List.range n)).flatten
  rounds.foldl (step st connect (.ok ()))
    { pools := s, callers := List.replicate n (.opens .arriving) }

end Crowd

end CatalogSearch
