import CatalogSearch.Value.Equality

/-!
# Rows

The store answers with rows: values by key. A record is a row with its names as keys; anything else
has to have parts, each a key and its value. Keys are texts as a rule, but whatever is not made up
of other values can be a key. Equal keys are one key: the first of them stays, and the last value
counts.
-/

namespace CatalogSearch

/-- Values by key, in the order in which the keys came first. -/
structure Row where
  entries : List (Value × Value) := []
deriving Repr, Inhabited

/-- Why a value is no row. -/
inductive RowRefusal where
  | noParts (kind : String)
  /-- A part has no parts itself. -/
  | noPair (index : Nat)
  /-- A part is not made up of two. -/
  | wrongLength (index length : Nat)
  | compoundKey (kind : String)
  | signalingKey
deriving DecidableEq, Repr

def RowRefusal.message : RowRefusal → String
  | noParts k => "'" ++ k ++ "' object is not iterable"
  | noPair i => "cannot convert dictionary update sequence element #" ++ toString i ++
      " to a sequence"
  | wrongLength i n => "dictionary update sequence element #" ++ toString i ++ " has length " ++
      toString n ++ "; 2 is required"
  | compoundKey k => "unhashable type: '" ++ k ++ "'"
  | signalingKey => "Cannot hash a signaling NaN value"

namespace Row

/-- Puts a value under a key: in place of the value that an equal key has, or at the end. -/
def put (key value : Value) : List (Value × Value) → List (Value × Value)
  | [] => [(key, value)]
  | (k, v) :: es =>
    if k.same? key = some true then (k, value) :: es else (k, v) :: put key value es

/-- Whether a value can be a key. -/
def checkKey : Value → Except RowRefusal Unit
  | .list xs => .error (.compoundKey (Value.list xs).kindName)
  | .record fs => .error (.compoundKey (Value.record fs).kindName)
  | .decimal d => if d.isSignaling then .error .signalingKey else .ok ()
  | _ => .ok ()

/-- The key and the value that the part at `index` is. -/
def pairOf (index : Nat) (part : Value) : Except RowRefusal (Value × Value) :=
  match part.elements? with
  | none => .error (.noPair index)
  | some [k, v] => (checkKey k).map fun _ => (k, v)
  | some xs => .error (.wrongLength index xs.length)

/-- The row of a record. -/
def ofFields (fields : List (String × Value)) : Row :=
  ⟨fields.map fun f => (.text f.1, f.2)⟩

/-- Adds parts to a row, the first of them at `index`. -/
def addParts (index : Nat) (row : Row) : List Value → Except RowRefusal Row
  | [] => .ok row
  | part :: parts =>
    match pairOf index part with
    | .error why => .error why
    | .ok (k, v) => addParts (index + 1) ⟨put k v row.entries⟩ parts

/-- **The row that a value is**, or why it is none; the first bad part decides. -/
def ofValue : Value → Except RowRefusal Row
  | .record fields => .ok (ofFields fields)
  | v =>
    match v.elements? with
    | none => .error (.noParts v.kindName)
    | some parts => addParts 0 {} parts

/-- All rows that values are, unless one of them is none. -/
def ofValues : List Value → Except RowRefusal (List Row)
  | [] => .ok []
  | v :: vs => do
    let row ← ofValue v
    let rows ← ofValues vs
    return row :: rows

/-- The value under a name; the last entry of a name counts. -/
def field? (name : String) (row : Row) : Option Value :=
  (row.entries.reverse.find? fun e =>
    match e.1 with
    | .text s => s == name
    | _ => false).map Prod.snd

end Row

end CatalogSearch
