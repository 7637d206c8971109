import CatalogSearch.Number.Decimal
import CatalogSearch.Number.Shortest
import CatalogSearch.Number.Whole

/-!
# Values

Parameters, rows and settings that are changed at run time hold values whose kind is known only
then. A value can be absent in spirit (`isTruthy`), has a plain text (`written?`) and a quoted one
(`quoted?`), and may have parts (`elements?`).

Not every value can be written. A whole number may have too many digits, and the parts of a value
may lie deeper in one another than the stack has room for. How much room there is depends on who
calls, so it is given where statements and documents are written or read. Settings and raw
parameters lie as flat as they come.
-/

namespace CatalogSearch

/-- A universally unique identifier: 128 bits, written as 32 hexadecimal digits in five groups. -/
structure Uuid where
  bits : BitVec 128
deriving DecidableEq, Repr

namespace Uuid

/-- Reads 32 hexadecimal digits; hyphens and braces are passed over. -/
def read? (s : String) : Option Uuid :=
  let cs := s.toList.filter fun c => c ≠ '-' && c ≠ '\x7b' && c ≠ '\x7d'
  if cs.length ≠ 32 then none
  else
    (cs.mapM Text.hexValue?).map fun ds =>
      ⟨BitVec.ofNat 128 (ds.foldl (fun n d => 16 * n + d) 0)⟩

/-- The digits in groups of 8, 4, 4, 4 and 12. -/
def text (u : Uuid) : String :=
  let ds := Text.hex 32 u.bits.toNat
  let group := fun start size => String.ofList ((ds.drop start).take size)
  String.intercalate "-" [group 0 8, group 8 4, group 12 4, group 16 4, group 20 12]

/-- How deep the calls lie in one another that write an identifier. -/
def levels : Nat := 4

end Uuid

/-- A value whose kind is known at run time. -/
inductive Value where
  | null
  | bool (b : Bool)
  | int (i : Int)
  | float (x : Binary64)
  | text (s : String)
  | uuid (u : Uuid)
  | decimal (d : Decimal)
  | list (xs : List Value)
  | record (fields : List (String × Value))
deriving Repr, Inhabited

/-- Why a value cannot be written. -/
inductive WritingRefusal where
  /-- A whole number has too many digits. -/
  | tooLong
  /-- The stack has no room for the values in one another. -/
  | tooDeep
deriving DecidableEq, Repr

def WritingRefusal.message : WritingRefusal → String
  | tooLong => unwritable
  | tooDeep => "maximum recursion depth exceeded while getting the repr of an object"

/-- A whole number in decimal, unless it has too many digits. -/
def wholeText? (i : Int) : Except WritingRefusal String :=
  if isWritable i then .ok (toString i) else .error .tooLong

namespace Value

/-- The name of a value's kind in messages. -/
def kindName : Value → String
  | null => "NoneType"
  | bool _ => "bool"
  | int _ => "int"
  | float _ => "float"
  | text _ => "str"
  | uuid _ => "UUID"
  | decimal _ => "decimal.Decimal"
  | list _ => "list"
  | record _ => "dict"

/-- Whether a value counts as given: not null, not false, not zero and not empty. -/
def isTruthy : Value → Bool
  | null => false
  | bool b => b
  | int i => i != 0
  | float x => !x.isZero
  | text s => !s.toList.isEmpty
  | uuid _ => true
  | decimal d => !d.isZero
  | list xs => !xs.isEmpty
  | record fs => !fs.isEmpty

mutual

/-- **The quoted text of a value**, as messages and logs show it, where the stack has room for so
many values in one another. The first part that cannot be written decides. -/
def quoted? : Nat → Value → Except WritingRefusal String
  | 0, _ => .error .tooDeep
  | _ + 1, null => .ok "None"
  | _ + 1, bool true => .ok "True"
  | _ + 1, bool false => .ok "False"
  | _ + 1, int i => wholeText? i
  | _ + 1, float x => .ok x.text
  | _ + 1, text s => .ok (Text.quoted s)
  | room + 1, uuid u =>
    if room + 1 < Uuid.levels then .error .tooDeep
    else .ok ("UUID(" ++ Text.quoted u.text ++ ")")
  | _ + 1, decimal d => .ok ("Decimal(" ++ Text.quoted d.text ++ ")")
  | room + 1, list xs => do
    let items ← quotedList? room xs
    return "[" ++ String.intercalate ", " items ++ "]"
  | room + 1, record fs => do
    let fields ← quotedFields? room fs
    return "\x7b" ++ String.intercalate ", " fields ++ "\x7d"

def quotedList? (room : Nat) : List Value → Except WritingRefusal (List String)
  | [] => .ok []
  | x :: xs => do
    let item ← quoted? room x
    let items ← quotedList? room xs
    return item :: items

def quotedFields? (room : Nat) : List (String × Value) → Except WritingRefusal (List String)
  | [] => .ok []
  | (k, x) :: fs => do
    let value ← quoted? room x
    let fields ← quotedFields? room fs
    return (Text.quoted k ++ ": " ++ value) :: fields

end

mutual

/-- How many values lie in one another, the value itself included. -/
def levels : Value → Nat
  | list xs => levelsOfList xs + 1
  | record fs => levelsOfFields fs + 1
  | uuid _ => Uuid.levels
  | _ => 1

def levelsOfList : List Value → Nat
  | [] => 0
  | x :: xs => max (levels x) (levelsOfList xs)

def levelsOfFields : List (String × Value) → Nat
  | [] => 0
  | (_, x) :: fs => max (levels x) (levelsOfFields fs)

end

mutual

/-- Whether all whole numbers in a value can be written. -/
def isWritable : Value → Bool
  | int i => CatalogSearch.isWritable i
  | list xs => areWritable xs
  | record fs => haveWritable fs
  | _ => true

def areWritable : List Value → Bool
  | [] => true
  | x :: xs => isWritable x && areWritable xs

def haveWritable : List (String × Value) → Bool
  | [] => true
  | (_, x) :: fs => isWritable x && haveWritable fs

end

/-- The quoted text of a value, with room for all of it. -/
def shown? (v : Value) : Except WritingRefusal String := v.quoted? v.levels

/-- The plain text of a value: a text is its own. -/
def written? : Value → Except WritingRefusal String
  | text s => .ok s
  | uuid u => .ok u.text
  | decimal d => .ok d.text
  | v => v.shown?

mutual

/-- Whether a value can be written as a document: it holds no decimal fraction, no identifier and no
number that is not finite or has too many digits. -/
def isDocument : Value → Bool
  | int i => CatalogSearch.isWritable i
  | float x => x.isFinite
  | uuid _ => false
  | decimal _ => false
  | list xs => areDocuments xs
  | record fs => haveDocuments fs
  | _ => true

def areDocuments : List Value → Bool
  | [] => true
  | x :: xs => isDocument x && areDocuments xs

def haveDocuments : List (String × Value) → Bool
  | [] => true
  | (_, x) :: fs => isDocument x && haveDocuments fs

end

/-- The value of a field; the last entry of a name counts. -/
def field? (name : String) : Value → Option Value
  | record fs => fs.reverse.lookup name
  | _ => none

/-- The first item of a list. -/
def head? : Value → Option Value
  | list (x :: _) => some x
  | _ => none

/-- The parts of a value that has parts: a text has its characters, a record its names. -/
def elements? : Value → Option (List Value)
  | list xs => some xs
  | text s => some (s.toList.map fun c => text (String.ofList [c]))
  | record fs => some (fs.map fun f => text f.1)
  | _ => none

end Value

end CatalogSearch
