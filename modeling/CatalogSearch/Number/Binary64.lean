import CatalogSearch.Number.Written

/-!
# Floating-point numbers of 64 bits

Values and rounding of the binary64 format in exact arithmetic. Every finite number of the format
is a whole number of *quanta* of size 2⁻¹⁰⁷⁴, so comparing, truncating and rounding are questions
about natural numbers.

* `Magnitude.ofRatio?`: the number of the format nearest to a ratio, ties to the even neighbour;
  none beyond the largest.
* `Binary64.ofWritten`: a number text, rounded once.
* `Binary64.ofInt?`: a whole number, unless it rounds beyond the largest finite number.
-/

namespace CatalogSearch

/-- A finite number without its sign: `mantissa` · 2^`scale` quanta. -/
structure Magnitude where
  mantissa : Nat
  scale : Nat
  mantissa_lt : mantissa < Nat.pow 2 53
  scale_le : scale ≤ 2045
deriving DecidableEq, Repr

/-- A number of the binary64 format. Every occurrence of a not-a-number differs from every other,
and `occurrence` tells them apart. -/
inductive Binary64 where
  | nan (occurrence : Nat)
  | infinite (negative : Bool)
  | finite (negative : Bool) (magnitude : Magnitude)
deriving DecidableEq, Repr

/-- A quotient rounded to the nearest whole number, a tie to the even one. -/
def roundHalfEven (num den : Nat) : Nat :=
  let q := num / den
  let twice := 2 * (num % den)
  if den < twice ∨ (twice = den ∧ q % 2 = 1) then q + 1 else q

namespace Magnitude

/-- Quanta to the unit. -/
def unit : Nat := Nat.pow 2 1074

def zero : Magnitude := ⟨0, 0, by decide, by decide⟩

def ofParts? (mantissa scale : Nat) : Option Magnitude :=
  if h : mantissa < Nat.pow 2 53 ∧ scale ≤ 2045 then some ⟨mantissa, scale, h.1, h.2⟩ else none

/-- **Rounding a ratio to the format.** The scale is the least that leaves no more than 53 bits,
so small ratios keep scale zero and lose bits. -/
def ofRatio? (num den : Nat) : Option Magnitude :=
  let scale := (num * unit / den).log2 - 52
  let mantissa := roundHalfEven (num * unit) (den * Nat.pow 2 scale)
  if mantissa < Nat.pow 2 53 then ofParts? mantissa scale else ofParts? (mantissa / 2) (scale + 1)

/-- The value in quanta. -/
def quanta (m : Magnitude) : Nat := m.mantissa * Nat.pow 2 m.scale

/-- The value without its fraction. -/
def floor (m : Magnitude) : Nat := m.quanta / unit

/-- Whether the value is a whole number. -/
def isWhole (m : Magnitude) : Bool := m.quanta % unit == 0

/-- Tens above which every number is infinite, and below whose negation it is zero. -/
def reach : Int := 400

/-- The coefficient times ten to the exponent, rounded; exponents far out of reach are not
computed. -/
def ofDecimal? (coefficient : Nat) (exponent : Int) : Option Magnitude :=
  let tens := ((coefficient.log2 * 30103 / 100000 : Nat) : Int) + exponent
  if coefficient = 0 ∨ tens < -reach then some zero
  else if reach < tens then none
  else if 0 ≤ exponent then ofRatio? (coefficient * Nat.pow 10 exponent.toNat) 1
  else ofRatio? coefficient (Nat.pow 10 (-exponent).toNat)

end Magnitude

namespace Binary64

def zero : Binary64 := .finite false .zero

/-- Whether the number is neither infinite nor a not-a-number. -/
def isFinite : Binary64 → Bool
  | finite .. => true
  | _ => false

/-- Whether the number is zero of either sign. -/
def isZero : Binary64 → Bool
  | finite _ m => m.mantissa == 0
  | _ => false

/-- The number nearest to what is written; beyond the largest it is infinite. -/
def ofWritten : Written → Binary64
  | .nan => nan 0
  | .infinite negative => infinite negative
  | .decimal negative coefficient exponent =>
    match Magnitude.ofDecimal? coefficient exponent with
    | some m => finite negative m
    | none => infinite negative

/-- A whole number, unless it rounds beyond the largest finite number. -/
def ofInt? (i : Int) : Option Binary64 :=
  (Magnitude.ofRatio? i.natAbs 1).map (finite (decide (i < 0)))

/-- The whole number towards zero from a finite number. -/
def truncate (negative : Bool) (m : Magnitude) : Int :=
  if negative then -(m.floor : Int) else m.floor

end Binary64

end CatalogSearch
