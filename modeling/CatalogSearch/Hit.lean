import CatalogSearch.Row
import CatalogSearch.Value.Conversion

/-!
# Hits

A row of the store as a resource that was found. Rows are read leniently: numbers may arrive as
texts or decimals, and columns that are not known are left out. A hit remembers which columns its
row had, because only those are shown.

* `Hit.ofRow`: the hit of a row, or all issues with it.
* `Hit.ofValue`: the hit of any value; only a record can be one.
* `Hit.toRecord`: the columns that the row had, as they are shown.
-/

namespace CatalogSearch

/-- The columns of a hit beside its identifier. -/
inductive Column where
  | title
  | description
  | averageRating
  | subject
  | examBoard
  | level
  | type
  | rank
  | fuzzyScore
  | semanticScore
deriving DecidableEq, Repr

namespace Column

/-- All columns, in the order in which they are checked. -/
def all : List Column :=
  [title, description, averageRating, subject, examBoard, level, type, rank, fuzzyScore,
    semanticScore]

def name : Column → String
  | title => "title"
  | description => "description"
  | averageRating => "averagerating"
  | subject => "subject"
  | examBoard => "examboard"
  | level => "level"
  | type => "type"
  | rank => "rank"
  | fuzzyScore => "fuzzy_score"
  | semanticScore => "semantic_score"

/-- Whether a column holds numbers; the others hold texts. -/
def isNumeric : Column → Bool
  | averageRating | rank | fuzzyScore | semanticScore => true
  | _ => false

end Column

/-- The identifier of a resource. -/
inductive ResourceId where
  | text (s : String)
  | number (i : Int)
  | uuid (u : Uuid)
deriving DecidableEq, Repr

/-- What a column holds. -/
inductive Cell where
  | null
  | text (s : String)
  | number (x : Binary64)
deriving DecidableEq, Repr

/-- A resource that was found: its identifier and the columns of its row, in declared order. -/
structure Hit where
  id : ResourceId
  cells : List (Column × Cell)
deriving DecidableEq, Repr

namespace ResourceId

/-- Whether a finite number is a 64-bit whole number strictly between the two extremes. -/
def wholeNumber (negative : Bool) (m : Magnitude) : Except IssueKind Int :=
  if !m.isWhole then .error .fractional
  else if Nat.pow 2 63 ≤ m.floor then .error .oversized
  else .ok (Binary64.truncate negative m)

/-- A value as a whole number, where fractions do not count as one. -/
def wholeOf : Value → Except IssueKind Int
  | .int i => .ok i
  | .bool b => .ok (if b then 1 else 0)
  | .float (.finite s m) => wholeNumber s m
  | .float _ => .error .notFinite
  | .decimal (.finite s c e) =>
    if Decimal.isWhole c e then .ok (Decimal.truncate s c e) else .error .fractional
  | .decimal _ => .error .notFinite
  | _ => .error .notInt

/-- **The identifier that a value stands for.** A text is taken as it is; if the value is of no
use, there is one issue for each form that an identifier can have. -/
def ofValue : Value → Except (List Issue) ResourceId
  | .text s => .ok (text s)
  | .uuid u => .ok (uuid u)
  | v =>
    match wholeOf v with
    | .ok i => .ok (number i)
    | .error why =>
      .error [⟨["id", "uuid"], .notUuid⟩, ⟨["id", "int"], why⟩, ⟨["id", "str"], .notText⟩]

/-- An identifier as it is shown. -/
def toValue : ResourceId → Value
  | text s => .text s
  | number i => .int i
  | uuid u => .text u.text

end ResourceId

namespace Cell

/-- A text column takes texts and null. -/
def ofText : Value → Except IssueKind Cell
  | .null => .ok null
  | .text s => .ok (text s)
  | _ => .error .notText

/-- A number column takes numbers of any kind, texts that write one, and null. -/
def ofNumber : Value → Except IssueKind Cell
  | .null => .ok null
  | .text s =>
    match Written.readLenient? s.toList with
    | some w => .ok (number (Binary64.ofWritten w))
    | none => .error .unreadableFloat
  | v =>
    match v.toFloat with
    | .ok x => .ok (number x)
    | .error _ => .error .notFloat

def ofValue (c : Column) (v : Value) : Except IssueKind Cell :=
  if c.isNumeric then ofNumber v else ofText v

/-- A cell as it is shown; numbers that are not finite have no text there. -/
def toValue : Cell → Value
  | null => .null
  | text s => .text s
  | number x => if x.isFinite then .float x else .null

end Cell

namespace Hit

/-- Reads the given columns of a row, with the issues of those that cannot be read. -/
def readCells (row : Row) : List Column → List (Column × Cell) × List Issue
  | [] => ([], [])
  | c :: cs =>
    let (cells, issues) := readCells row cs
    match row.field? c.name with
    | none => (cells, issues)
    | some v =>
      match Cell.ofValue c v with
      | .ok cell => ((c, cell) :: cells, issues)
      | .error why => (cells, ⟨[c.name], why⟩ :: issues)

/-- Reads the identifier of a row. -/
def readId (row : Row) : Except (List Issue) ResourceId :=
  match row.field? "id" with
  | none => .error [⟨["id"], .missing⟩]
  | some v => ResourceId.ofValue v

/-- **The hit of a row**, or all issues with the row in declared order. -/
def ofRow (row : Row) : Except (List Issue) Hit :=
  match readId row, readCells row Column.all with
  | .ok id, (cells, []) => .ok ⟨id, cells⟩
  | .ok _, (_, issues) => .error issues
  | .error first, (_, issues) => .error (first ++ issues)

/-- The hit of a record; other values are none. -/
def ofValue : Value → Except (List Issue) Hit
  | .record fields => ofRow (Row.ofFields fields)
  | _ => .error [⟨[], .notRecord⟩]

/-- The cell of a column; null if the row did not have it. -/
def cell (h : Hit) (c : Column) : Cell :=
  (h.cells.lookup c).getD .null

/-- A hit as it is shown: the identifier and the columns that its row had. -/
def toRecord (h : Hit) : Value :=
  .record (("id", h.id.toValue) :: h.cells.map fun (c, x) => (c.name, x.toValue))

end Hit

end CatalogSearch
