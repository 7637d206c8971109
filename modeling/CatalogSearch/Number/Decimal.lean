import CatalogSearch.Number.Written

/-!
# Decimal fractions

Exact numbers of the store. A decimal fraction keeps the zeros at its end, so `1.0` and `1.00` are
two fractions with one value. Besides the numbers there are two infinities and texts that are no
number, some of which *signal*: they refuse to be compared or converted.

* `Decimal.read?`: the fraction that a text writes.
* `Decimal.text`: its canonical text.
-/

namespace CatalogSearch

open Text

inductive Decimal where
  /-- The value is the coefficient times ten to the exponent. -/
  | finite (negative : Bool) (coefficient : Nat) (exponent : Int)
  | infinite (negative : Bool)
  /-- No number. Every occurrence differs from every other, and `occurrence` tells them apart. -/
  | nan (negative signaling : Bool) (payload occurrence : Nat)
deriving DecidableEq, Repr

namespace Decimal

/-- The name of a text that is no number, and what is written behind the name. -/
def afterNan? : List Char → Option (Bool × List Char)
  | 's' :: 'n' :: 'a' :: 'n' :: cs => some (true, cs)
  | 'n' :: 'a' :: 'n' :: cs => some (false, cs)
  | _ => none

/-- **Reads a decimal fraction**: digits of any script are accepted, and blanks around the text and
all `_` within it are passed over. -/
def read? (occurrence : Nat) (s : String) : Option Decimal :=
  let cs := ((trim isSpacing s.toList).filter (· ≠ '_')).map Written.toAscii
  let (negative, rest) := Written.sign cs
  match afterNan? (rest.map Char.toLower) with
  | some (signaling, ds) =>
    if ds.all Char.isDigit then some (.nan negative signaling (Written.natOf ds) occurrence)
    else none
  | none =>
    match Written.read? cs with
    | some (.decimal n c e) => some (.finite n c e)
    | some (.infinite n) => some (.infinite n)
    | _ => none

/-- The largest exponent of ten of a first digit, and the exponent of a zero. -/
def maxExponent : Int := 999999999999999999

/-- The smallest exponent of ten of a last digit. -/
def minExponent : Int := -1999999999999999997

/-- Whether a fraction lies within the bounds of what is held exactly. -/
def isHeld : Decimal → Bool
  | finite _ c e =>
    minExponent ≤ e && e + (if c = 0 then 0 else (Nat.toDigits 10 c).length - 1) ≤ maxExponent
  | _ => true

/-- The number as it is written, without its end zeros counting. -/
def written : Decimal → Written
  | finite n c e => .decimal n c e
  | infinite n => .infinite n
  | nan .. => .nan

def isSignaling : Decimal → Bool
  | nan _ signaling _ _ => signaling
  | _ => false

/-- Whether the fraction is zero of either sign and any length. -/
def isZero : Decimal → Bool
  | finite _ c _ => c == 0
  | _ => false

/-- How many digits a coefficient has before the point; none or less if it has no whole part. -/
def wholeDigits (coefficient : Nat) (exponent : Int) : Int :=
  (Nat.toDigits 10 coefficient).length + exponent

/-- Whether a finite fraction is a whole number. -/
def isWhole (coefficient : Nat) (exponent : Int) : Bool :=
  coefficient == 0 ||
    (0 < wholeDigits coefficient exponent && coefficient % Nat.pow 10 (-exponent).toNat == 0)

/-- The whole number towards zero from a finite fraction. -/
def truncate (negative : Bool) (coefficient : Nat) (exponent : Int) : Int :=
  if coefficient = 0 ∨ wholeDigits coefficient exponent ≤ 0 then 0
  else
    let n : Nat := coefficient * Nat.pow 10 exponent.toNat / Nat.pow 10 (-exponent).toNat
    if negative then -(n : Int) else n

/-- Digits laid out for an exponent: positionally unless they end before the point or begin more
than five places behind it. -/
def layOut (ds : List Char) (exponent : Int) : List Char :=
  let point := ds.length + exponent
  if 0 < exponent ∨ point ≤ -6 then
    let fraction := if ds.length ≤ 1 then [] else '.' :: ds.drop 1
    let size := Nat.toDigits 10 (point - 1).natAbs
    ds.take 1 ++ fraction ++ 'E' :: (if point < 1 then '-' else '+') :: size
  else if exponent = 0 then ds
  else if point ≤ 0 then '0' :: '.' :: (List.replicate (-point).toNat '0' ++ ds)
  else ds.take point.toNat ++ '.' :: ds.drop point.toNat

/-- **The canonical text of a decimal fraction.** -/
def text (d : Decimal) : String :=
  let signed := fun (negative : Bool) cs => String.ofList (if negative then '-' :: cs else cs)
  match d with
  | finite n c e => signed n (layOut (Nat.toDigits 10 c) e)
  | infinite n => signed n "Infinity".toList
  | nan n signaling payload _ =>
    signed n ((if signaling then ['s'] else []) ++ "NaN".toList ++
      (if payload = 0 then [] else Nat.toDigits 10 payload))

end Decimal

end CatalogSearch
