import CatalogSearch.Value

/-!
# Values as numbers

Vector coordinates have to become floating-point numbers and time limits whole numbers, whatever
kind of value holds them. Each conversion says why it refuses a value. An embedding is bound as one
text: its coordinates between brackets, separated by commas, each the shortest text of its
floating-point number.

* `Value.toFloat`, `Value.toInt`: the number that a value stands for.
* `Value.vectorLiteral`: the text of an embedding.
* `Issue`: what is wrong with a field of a row or of the environment.
-/

namespace CatalogSearch

open Text

/-- Why a value is no floating-point number. -/
inductive FloatRefusal where
  /-- The text is not a number. -/
  | unreadable (text : String)
  /-- The whole number lies beyond the largest finite number. -/
  | tooLarge
  /-- The decimal fraction is no number, and signals it. -/
  | signaling
  /-- Values of this kind are never numbers. -/
  | wrongKind (kind : String)
deriving DecidableEq, Repr

/-- Why a value is no whole number. -/
inductive IntRefusal where
  | notWhole (why : WholeRefusal)
  | wrongKind (kind : String)
  /-- A floating-point number or a decimal fraction that is no number. -/
  | nan (decimal : Bool)
  | infinite (decimal : Bool)
  /-- The number is too long to be written. -/
  | unwritable
deriving DecidableEq, Repr

def FloatRefusal.message : FloatRefusal → String
  | unreadable s => "could not convert string to float: " ++ quoted s
  | tooLarge => "int too large to convert to float"
  | signaling => "cannot convert signaling NaN to float"
  | wrongKind k => "float() argument must be a string or a real number, not '" ++ k ++ "'"

def IntRefusal.message : IntRefusal → String
  | notWhole why => why.message
  | wrongKind k =>
    "int() argument must be a string, a bytes-like object or a real number, not '" ++ k ++ "'"
  | nan false => "cannot convert float NaN to integer"
  | nan true => "cannot convert NaN to integer"
  | infinite false => "cannot convert float infinity to integer"
  | infinite true => "cannot convert Infinity to integer"
  | unwritable => CatalogSearch.unwritable

namespace Value

/-- **The floating-point number that a value stands for**: numbers are rounded, texts are read as
users type them. -/
def toFloat : Value → Except FloatRefusal Binary64
  | float x => .ok x
  | bool b => .ok (Binary64.ofWritten (.decimal false (if b then 1 else 0) 0))
  | int i =>
    match Binary64.ofInt? i with
    | some x => .ok x
    | none => .error .tooLarge
  | text s =>
    match Written.readTyped? s.toList with
    | some w => .ok (Binary64.ofWritten w)
    | none => .error (.unreadable s)
  | decimal d =>
    if d.isSignaling then .error .signaling else .ok (Binary64.ofWritten d.written)
  | v => .error (.wrongKind v.kindName)

/-- Whether a value is a finite number; truth values and texts are none. A whole number too large
for floating point cannot be told. -/
def isFiniteNumber : Value → Except FloatRefusal Bool
  | int i => if (Binary64.ofInt? i).isSome then .ok true else .error .tooLarge
  | float x => .ok x.isFinite
  | _ => .ok false

/-- The whole number that a value stands for: fractions are cut off towards zero. -/
def toInt : Value → Except IntRefusal Int
  | int i => .ok i
  | bool b => .ok (if b then 1 else 0)
  | float (.finite s m) => .ok (Binary64.truncate s m)
  | float (.nan _) => .error (.nan false)
  | float (.infinite _) => .error (.infinite false)
  | text s =>
    match readWhole s with
    | .ok i => .ok i
    | .error why => .error (.notWhole why)
  | decimal (.finite s c e) => .ok (Decimal.truncate s c e)
  | decimal (.nan ..) => .error (.nan true)
  | decimal (.infinite _) => .error (.infinite true)
  | uuid u => .ok u.bits.toNat
  | v => .error (.wrongKind v.kindName)

end Value

/-! ### Vectors -/

/-- Why a value cannot be written as a vector. -/
inductive VectorRefusal where
  | notIterable (kind : String)
  | coordinate (why : FloatRefusal)
deriving DecidableEq, Repr

def VectorRefusal.message : VectorRefusal → String
  | notIterable k => "'" ++ k ++ "' object is not iterable"
  | coordinate why => why.message

namespace Value

/-- The texts of the coordinates; the first one that is no number refuses them all. -/
def coordinates : List Value → Except FloatRefusal (List String)
  | [] => .ok []
  | x :: xs => do
    let c ← x.toFloat
    let cs ← coordinates xs
    return c.text :: cs

/-- **The vector literal of a value.** -/
def vectorLiteral (v : Value) : Except VectorRefusal String :=
  match v.elements? with
  | none => .error (.notIterable v.kindName)
  | some xs =>
    match coordinates xs with
    | .ok cs => .ok ("[" ++ String.intercalate "," cs ++ "]")
    | .error why => .error (.coordinate why)

end Value

/-! ### Fields -/

/-- What can be wrong with a field that is read as a value of its kind. -/
inductive IssueKind where
  | missing
  | notRecord
  | notText
  | notUuid
  | notInt
  | fractional
  | notFinite
  /-- The number is too large to be read as a whole one. -/
  | oversized
  | unreadableInt
  | notFloat
  | unreadableFloat
  | unreadableBool
deriving DecidableEq, Repr

/-- An issue with the field found at `path`. A check of many fields lists its issues in the order in
which the fields are declared. -/
structure Issue where
  path : List String
  kind : IssueKind
deriving DecidableEq, Repr

end CatalogSearch
