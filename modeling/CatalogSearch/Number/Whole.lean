import CatalogSearch.Number.Written
import CatalogSearch.Text.Quoted

/-!
# Whole numbers in text

Whole numbers are unbounded, but neither read from nor written with more digits than a limit.
-/

namespace CatalogSearch

open Text

/-- The longest run of digits that is read or written as a whole number. -/
@[irreducible]
def digitLimit : Nat := 4300

/-- Whether a whole number can be written. -/
def isWritable (i : Int) : Bool :=
  i.natAbs < Nat.pow 10 digitLimit

/-- Why a text is no whole number. -/
inductive WholeRefusal where
  | unreadable (text : String)
  | tooLong (length : Nat)
deriving DecidableEq, Repr

/-- What is said of a run of digits beyond the limit. -/
def tooManyDigits (length : Nat) : String :=
  "Exceeds the limit (4300 digits) for integer string conversion: value has " ++ toString length ++
    " digits; use sys.set_int_max_str_digits() to increase the limit"

/-- What is said of a number that cannot be written. -/
def unwritable : String :=
  "Exceeds the limit (4300 digits) for integer string conversion; " ++
    "use sys.set_int_max_str_digits() to increase the limit"

/-- The reason in words; no more than 200 characters of a quoted text are shown. -/
def WholeRefusal.message : WholeRefusal → String
  | unreadable s =>
    "invalid literal for int() with base 10: " ++
      String.ofList ((quotedChars s.toList).take 200)
  | tooLong n => tooManyDigits n

/-- **Reads a whole number as users type it**: blanks around it, a sign, digits of any script and
single `_` between digits are accepted. A run of digits that is too long is told even if something
else stands behind it. -/
def readWhole (s : String) : Except WholeRefusal Int :=
  let (negative, cs) := Written.sign ((s.toList.map Written.toAscii).dropWhile isAsciiBlank)
  let isPart := fun (c : Char) => c.isDigit || c == '_'
  match Written.ungroup? ' ' (cs.takeWhile isPart) with
  | none | some [] => .error (.unreadable s)
  | some ds =>
    if digitLimit < ds.length then .error (.tooLong ds.length)
    else if !(cs.dropWhile isPart).all isAsciiBlank then .error (.unreadable s)
    else .ok (if negative then -(Written.natOf ds : Int) else Written.natOf ds)

end CatalogSearch
