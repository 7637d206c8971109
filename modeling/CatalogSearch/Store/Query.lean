import CatalogSearch.Outcome

/-!
# Queries to the store

A statement either brings rows or a fault. Faults of the database and of the way to it become one
search error, which keeps the statement for the log but never shows it; parameters are logged in
an abbreviated form, as vectors are long.
-/

namespace CatalogSearch

/-- What the store answers to statements. -/
abbrev StoreReply := Statement → Except Fault (List Value)

namespace Store

/-- The longest parameter text that is logged in full. -/
def descriptionLimit : Nat := 80

/-- A text as it is logged: a long one shows its first 40 characters and its length. -/
def abbreviate (s : String) : String :=
  if descriptionLimit < s.toList.length then
    String.ofList (s.toList.take 40) ++ "...<" ++ toString s.toList.length ++ " chars>"
  else s

/-- A parameter as it is logged, where the stack has room for so many values in one another. -/
def describe (room : Nat) (v : Value) : Except WritingRefusal String :=
  (v.quoted? room).map abbreviate

/-- **All parameters as they are logged**, unless one of them cannot be written. -/
def descriptions (room : Nat) : List Value → Except WritingRefusal (List String)
  | [] => .ok []
  | v :: vs => do
    let entry ← describe room v
    let entries ← descriptions room vs
    return entry :: entries

/-- The log line of a statement that failed. -/
def failureNote (room : Nat) (s : Statement) (f : Fault) : Except WritingRefusal LogLine := do
  let entries ← descriptions room s.params
  return ⟨.store, .error,
    "Query execution failed: " ++ f.text ++ "\nSQL: " ++ s.sql ++ "\nParams: [" ++
      String.intercalate ", " (entries.map Text.quoted) ++ "]"⟩

/-- Whether a fault of a running statement is reported as a search error. -/
def isQueryFault : FaultKind → Bool
  | .timedOut | .system | .database | .interface => true
  | _ => false

/-- **Runs a statement.** An answer that is no row ends the query, and nothing is logged of it. A
fault is reported only once it has been logged. -/
def query (room : Nat) (reply : StoreReply) (s : Statement) : Outcome Effect (List Row) :=
  match reply s with
  | .ok answers =>
    ⟨[.queries s],
      match Row.ofValues answers with
      | .ok rows => .ok rows
      | .error why => .error (.noRow why)⟩
  | .error f =>
    if isQueryFault f.kind then
      ((Outcome.log (failureNote room s f)).andThen fun _ =>
        .fail (.reported (.storeQuery "Search query failed" (some s.sql) s.params))).after
          [.queries s]
    else ⟨[.queries s], .error (.fault f)⟩

end Store

end CatalogSearch
