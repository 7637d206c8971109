import CatalogSearch.Text.Character

/-!
# Numbers as they are written

One grammar serves every place where a text is read as a number: an optional sign, then a word for
infinity or for no number, or digits with an optional point and an optional exponent. Around it
stand the two liberties some readers take, digits of other scripts and digit group marks.
-/

namespace CatalogSearch

open Text

/-- A number text read exactly, before any rounding. -/
inductive Written where
  | nan
  | infinite (negative : Bool)
  /-- The value is the coefficient times ten to the exponent. -/
  | decimal (negative : Bool) (coefficient : Nat) (exponent : Int)
deriving DecidableEq, Repr

namespace Written

/-- The number that ASCII digits write in base ten. -/
def natOf (ds : List Char) : Nat :=
  Nat.ofDigitChars 10 ds 0

/-- Splits off a sign; no sign is a plus. -/
def sign : List Char → Bool × List Char
  | '-' :: cs => (true, cs)
  | '+' :: cs => (false, cs)
  | cs => (false, cs)

/-- Reads an exponent part, or the end of the text as exponent zero. -/
def exponent? : List Char → Option Int
  | [] => some 0
  | e :: cs =>
    let (negative, ds) := sign cs
    if (e = 'e' ∨ e = 'E') ∧ ds ≠ [] ∧ ds.all Char.isDigit then
      some (if negative then -(natOf ds : Int) else natOf ds)
    else none

/-- Digits, a point and digits, where one of the two runs may be empty. -/
def decimal? (negative : Bool) (cs : List Char) : Option Written :=
  let whole := cs.takeWhile Char.isDigit
  let rest := cs.dropWhile Char.isDigit
  let (fraction, rest) :=
    match rest with
    | '.' :: r => (r.takeWhile Char.isDigit, r.dropWhile Char.isDigit)
    | r => ([], r)
  if whole.isEmpty && fraction.isEmpty then none
  else
    (exponent? rest).map fun e =>
      .decimal negative (natOf (whole ++ fraction)) (e - fraction.length)

/-- **Reads a number text**: nothing may stand around the number, and no digit group marks. -/
def read? (cs : List Char) : Option Written :=
  let (negative, rest) := sign cs
  let word := String.ofList (rest.map Char.toLower)
  if word = "nan" then some .nan
  else if word = "inf" ∨ word = "infinity" then some (.infinite negative)
  else decimal? negative rest

/-- Removes the `_` that stand between two digits; any other `_` refuses the text. `last` is the
character before the text. -/
def ungroup? (last : Char) : List Char → Option (List Char)
  | [] => some []
  | '_' :: c :: cs =>
    if last.isDigit && c.isDigit then (ungroup? c cs).map (c :: ·) else none
  | '_' :: [] => none
  | c :: cs => (ungroup? c cs).map (c :: ·)

/-- A character brought into ASCII: blanks of any kind become spaces and digits of any script their
ASCII digits; what has no counterpart becomes `?`. -/
def toAscii (c : Char) : Char :=
  if c.toNat < 0x80 then c
  else if isBlank c then ' '
  else
    match digitValue? c with
    | some d => d.digitChar
    | none => '?'

/-- Reads a number as users type it: surrounding blanks, digits of other scripts and single `_`
between digits are accepted. -/
def readTyped? (cs : List Char) : Option Written :=
  (ungroup? ' ' (trim isAsciiBlank (cs.map toAscii))).bind read?

/-- Whether two `_` stand side by side. -/
def hasDoubledMark : List Char → Bool
  | '_' :: '_' :: _ => true
  | _ :: cs => hasDoubledMark cs
  | [] => false

/-- Drops all `_`, unless one stands at an end or beside another. -/
def withoutMarks? (cs : List Char) : Option (List Char) :=
  if cs.head? = some '_' ∨ cs.getLast? = some '_' ∨ hasDoubledMark cs then none
  else some (cs.filter (· ≠ '_'))

/-- Reads a number as it arrives in rows and settings: surrounding blanks are trimmed; if that is
no number, the text is read without its `_`. -/
def readLenient? (cs : List Char) : Option Written :=
  match read? (trim isBlank cs) with
  | some w => some w
  | none => (withoutMarks? cs).bind read?

end Written

end CatalogSearch
