import CatalogSearch.Json.Token
import CatalogSearch.Value.Conversion

/-!
# JSON documents

The answer of the embedding service is a JSON document, read as a value. Whole numbers are kept
exactly, up to the digit limit; other numbers are rounded to floating point, and `NaN` and the
infinities are numbers. Arrays and objects may lie in one another as deep as the stack has room for;
where a document goes deeper, reading stops, whatever follows.

* `Json.ofTokens`: the document that tokens spell.
* `Json.ofBytes`: the document in octets of any Unicode encoding.
-/

namespace CatalogSearch

namespace Json

/-- Whether a number text is in the form that documents allow: no plus sign in front, no zero in
front of other digits, and digits on both sides of a point. -/
def isNumber (cs : List Char) : Bool :=
  let ds := if cs.head? = some '-' then cs.drop 1 else cs
  let whole := ds.takeWhile Char.isDigit
  let rest := ds.dropWhile Char.isDigit
  let afterPoint :=
    match rest with
    | '.' :: r => r.takeWhile Char.isDigit
    | _ => ['0']
  !whole.isEmpty && (whole.length == 1 || whole.head? != some '0') && !afterPoint.isEmpty

/-- The scalar that a word spells. -/
def ofWord? (cs : List Char) : Option Value :=
  match String.ofList cs with
  | "null" => some .null
  | "true" => some (.bool true)
  | "false" => some (.bool false)
  | "NaN" => some (.float (.nan 0))
  | "Infinity" => some (.float (.infinite false))
  | "-Infinity" => some (.float (.infinite true))
  | _ =>
    let (negative, ds) := Written.sign cs
    if !isNumber cs then none
    else if ds.all Char.isDigit then
      if digitLimit < ds.length then none
      else some (.int (if negative then -(Written.natOf ds : Int) else Written.natOf ds))
    else (Written.read? cs).map fun w => .float (Binary64.ofWritten w)

inductive Container where
  | array
  | object
deriving DecidableEq, Repr

/-- Why octets are no document. -/
inductive Refusal where
  | malformed
  | tooDeep (container : Container)
deriving DecidableEq, Repr

/-- What is said of a container that lies too deep. -/
def nestingMessage (c : Container) : String :=
  "maximum recursion depth exceeded while decoding a JSON " ++
    (match c with
      | .array => "array"
      | .object => "object") ++ " from a unicode string"

/-- An array or object that is still open, what it holds so far in reverse. -/
inductive Frame where
  | array (done : List Value)
  | object (done : List (String × Value)) (key : String)
deriving Repr

/-- What may come next. -/
inductive Awaits where
  | value
  /-- A value, or the end of the array that has just been opened. -/
  | firstItem
  /-- A name, or the end of the object that has just been opened. -/
  | firstKey (done : List (String × Value))
  | key (done : List (String × Value))
  | colon (done : List (String × Value)) (key : String)
  /-- A comma or the end, behind a value of the innermost frame. -/
  | more (v : Value)
deriving Repr

namespace Awaits

/-- One token: what may come after it and the frames then open. -/
def step? : Awaits → List Frame → Token → Option (Awaits × List Frame)
  | .value, fs, .mark '[' => some (.firstItem, .array [] :: fs)
  | .value, fs, .mark '\x7b' => some (.firstKey [], fs)
  | .value, fs, .word cs => (ofWord? cs).map fun v => (.more v, fs)
  | .value, fs, .string s => some (.more (.text s), fs)
  | .firstItem, .array [] :: fs, .mark ']' => some (.more (.list []), fs)
  | .firstItem, fs, .mark '[' => some (.firstItem, .array [] :: fs)
  | .firstItem, fs, .mark '\x7b' => some (.firstKey [], fs)
  | .firstItem, fs, .word cs => (ofWord? cs).map fun v => (.more v, fs)
  | .firstItem, fs, .string s => some (.more (.text s), fs)
  | .firstKey done, fs, .mark '\x7d' => some (.more (.record done.reverse), fs)
  | .firstKey done, fs, .string s => some (.colon done s, fs)
  | .key done, fs, .string s => some (.colon done s, fs)
  | .colon done s, fs, .mark ':' => some (.value, .object done s :: fs)
  | .more v, .array done :: fs, .mark ',' => some (.value, .array (v :: done) :: fs)
  | .more v, .array done :: fs, .mark ']' => some (.more (.list (v :: done).reverse), fs)
  | .more v, .object done s :: fs, .mark ',' => some (.key ((s, v) :: done), fs)
  | .more v, .object done s :: fs, .mark '\x7d' =>
    some (.more (.record ((s, v) :: done).reverse), fs)
  | _, _, _ => none

/-- The container that a token opens. -/
def opened? : Awaits → Token → Option Container
  | .value, .mark '[' | .firstItem, .mark '[' => some .array
  | .value, .mark '\x7b' | .firstItem, .mark '\x7b' => some .object
  | _, _ => none

/-- One token, which must not open a container where as many are open as there is room for. -/
def step (depth : Nat) (q : Awaits) (fs : List Frame) (t : Token) :
    Except Refusal (Awaits × List Frame) :=
  match if depth ≤ fs.length then opened? q t else none, step? q fs t with
  | some c, _ => .error (.tooDeep c)
  | none, none => .error .malformed
  | none, some next => .ok next

/-- Reads tokens from a state on; the document ends where no frame is open. -/
def run (depth : Nat) : Awaits → List Frame → List Token → Except Refusal Value
  | .more v, [], [] => .ok v
  | _, _, [] => .error .malformed
  | q, fs, t :: ts =>
    match step depth q fs t with
    | .error why => .error why
    | .ok (q', fs') => run depth q' fs' ts

end Awaits

/-- **The document that tokens spell**, with no more than `depth` containers in one another. -/
def ofTokens (depth : Nat) (ts : List Token) : Except Refusal Value := Awaits.run depth .value [] ts

/-- **The document in a body of octets.** -/
def ofBytes (depth : Nat) (bs : List UInt8) : Except Refusal Value :=
  match Text.decodeDetected? bs with
  | none => .error .malformed
  | some cs => ofTokens depth (Scan.run .between cs)

end Json

end CatalogSearch
