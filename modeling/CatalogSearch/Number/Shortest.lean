import CatalogSearch.Number.Binary64

/-!
# The shortest text of a floating-point number

A finite number is written with the fewest decimal digits that read back as it, and among those
with the digits nearest to it. `shortest` finds them; the rest lays them out: positionally while
the first digit stands between the fourth place behind the point and the sixteenth before it,
with an exponent otherwise.
-/

namespace CatalogSearch

namespace Magnitude

/-- Tens by which values are scaled up, so that every step of the search is a whole number. -/
def lift : Nat := 400

/-- The number of decimal digits of a positive whole number. -/
def decimalLength (n : Nat) : Nat :=
  let guess := n.log2 * 30103 / 100000
  if n < Nat.pow 10 guess then guess
  else if n < Nat.pow 10 (guess + 1) then guess + 1
  else guess + 2

/-- Whether the decimal `d` · 10^(`tens` − 400) reads back as `m`. Numbers up to half a step away
do, the two ends only if the mantissa is even; the step below a power of two is half as wide. -/
def readsBack (m : Magnitude) (d tens : Nat) : Bool :=
  let value := 4 * d * Nat.pow 10 tens * unit
  let step := Nat.pow 2 m.scale
  let below := if m.mantissa = Nat.pow 2 52 ∧ 0 < m.scale then step else 2 * step
  let low := (4 * m.quanta - below) * Nat.pow 10 lift
  let high := (4 * m.quanta + 2 * step) * Nat.pow 10 lift
  if m.mantissa % 2 = 0 then low ≤ value && value ≤ high else low < value && value < high

/-- The decimal of at most `n` digits that reads back, if there is one: of the two neighbours on
the grid of `n` digits the one that does, of both the nearer, of equally near ones the even. -/
def atDigits? (m : Magnitude) (length n : Nat) : Option (Nat × Nat) :=
  let tens := length - n
  let num := m.quanta * Nat.pow 10 lift
  let den := unit * Nat.pow 10 tens
  let down := num / den
  match readsBack m down tens, readsBack m (down + 1) tens with
  | true, true => some (roundHalfEven num den, tens)
  | true, false => some (down, tens)
  | false, true => some (down + 1, tens)
  | false, false => none

/-- The shortest decimal of a positive magnitude: a coefficient, and the tens that it is to be
multiplied with, lifted by 400. -/
def shortest (m : Magnitude) : Nat × Nat :=
  let length := decimalLength (m.quanta * Nat.pow 10 lift / unit)
  ((List.range 17).findSome? fun i => atDigits? m length (i + 1)).getD
    (roundHalfEven (m.quanta * Nat.pow 10 lift) (unit * Nat.pow 10 (length - 17)), length - 17)

/-- The digits of a magnitude without trailing zeros, and the place of the point: the value is
`0.d₁d₂…` times ten to the place. -/
def digits (m : Magnitude) : List Char × Int :=
  let (d, tens) := shortest m
  let ds := Nat.toDigits 10 d
  (((ds.reverse.dropWhile (· = '0')).reverse), (ds.length : Int) + tens - lift)

end Magnitude

/-- Digits with a point somewhere among, before or behind them. -/
def positional (ds : List Char) (point : Int) : List Char :=
  if point ≤ 0 then '0' :: '.' :: (List.replicate (-point).toNat '0' ++ ds)
  else
    let whole := point.toNat
    if ds.length ≤ whole then ds ++ List.replicate (whole - ds.length) '0' ++ ['.', '0']
    else ds.take whole ++ '.' :: ds.drop whole

/-- One digit before the point and an exponent with a sign and at least two digits. -/
def scientific (d : Char) (ds : List Char) (exponent : Int) : List Char :=
  let fraction := if ds.isEmpty then [] else '.' :: ds
  let size := Nat.toDigits 10 exponent.natAbs
  d :: fraction ++ 'e' :: (if exponent < 0 then '-' else '+') ::
    (List.replicate (2 - size.length) '0' ++ size)

/-- The text of a magnitude. -/
def Magnitude.text (m : Magnitude) : List Char :=
  if m.mantissa = 0 then ['0', '.', '0']
  else
    match m.digits with
    | ([], _) => ['0', '.', '0']
    | (d :: ds, point) =>
      if -4 < point ∧ point ≤ 16 then positional (d :: ds) point
      else scientific d ds (point - 1)

/-- **The text of a floating-point number.** -/
def Binary64.text : Binary64 → String
  | nan _ => "nan"
  | infinite false => "inf"
  | infinite true => "-inf"
  | finite false m => String.ofList m.text
  | finite true m => String.ofList ('-' :: m.text)

end CatalogSearch
