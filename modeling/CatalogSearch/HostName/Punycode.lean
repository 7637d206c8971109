/-!
# Punycode

Code points of all scripts in ASCII. Those of ASCII come first; behind them stand numbers that say
where the others are put in, in ascending order. Each number is written in digits of changing value,
least first, and the digits adapt to the numbers before.

* `Punycode.encode`: code points in ASCII.
* `Punycode.decode?`: the code points that are written so.
-/

namespace CatalogSearch.Punycode

/-- The letters and decimal digits stand for 0 to 35. -/
def digit (n : Nat) : Char :=
  if n < 26 then Char.ofNat (n + 97) else Char.ofNat (n + 22)

/-- What a letter or decimal digit stands for. -/
def digitValue? (c : Char) : Option Nat :=
  if 'a' ≤ c ∧ c ≤ 'z' then some (c.toNat - 97)
  else if c.isDigit then some (c.toNat - 22)
  else none

/-- The least digit that does not end a number, where its digits are counted in steps of 36. -/
def threshold (position bias : Nat) : Nat :=
  max 1 (min 26 (position - bias))

theorem threshold_bounds (position bias : Nat) :
    1 ≤ threshold position bias ∧ threshold position bias ≤ 26 := by
  unfold threshold
  omega

/-- A number in digits from a position on. -/
def writeNumber (bias position n : Nat) : List Char :=
  let t := threshold position bias
  if n < t then [digit n]
  else digit (t + (n - t) % (36 - t)) :: writeNumber bias (position + 36) ((n - t) / (36 - t))
termination_by n
decreasing_by
  have h := threshold_bounds position bias
  exact Nat.lt_of_le_of_lt (Nat.div_le_self _ _) (by omega)

/-- The bias that follows from a number that has been scaled down. -/
def settle (steps n : Nat) : Nat :=
  if 455 < n then settle (steps + 36) (n / 35) else steps + 36 * n / (n + 38)
termination_by n
decreasing_by omega

/-- The bias after a number has been written, when `count` code points have been put in. -/
def adapt (n count : Nat) (isFirst : Bool) : Nat :=
  let n := if isFirst then n / 700 else n / 2
  settle 0 (n + n / count)

/-- Where the writing stands: how many code points have been put in, the bias, the number that is
due, and the digits. -/
structure State where
  count : Nat
  bias : Nat
  due : Nat
  done : List Char

/-- Goes over the label for one code point: each smaller one before an occurrence counts, and at an
occurrence the number is written. -/
def putIn (basic code : Nat) (s : State) : List Nat → State
  | [] => s
  | c :: cs =>
    if c < code then putIn basic code { s with due := s.due + 1 } cs
    else if c = code then
      putIn basic code {
        count := s.count + 1
        bias := adapt s.due (s.count + 1) (s.count == basic)
        due := 0
        done := s.done ++ writeNumber s.bias 36 s.due } cs
    else putIn basic code s cs

/-- Goes over the label for each of the code points, which ascend from above `last`. -/
def putAll (label : List Nat) (basic last : Nat) (s : State) : List Nat → List Char
  | [] => s.done
  | code :: codes =>
    let due := s.due + (code - last) * (s.count + 1)
    let s := putIn basic code { s with due := due } label
    putAll label basic (code + 1) { s with due := s.due + 1 } codes

/-- **Code points in ASCII.** -/
def encode (label : List Nat) : List Char :=
  let basic := label.filter (· < 0x80)
  let codes := (label.filter (0x80 ≤ ·)).mergeSort.eraseDups
  (if basic = [] then [] else basic.map Char.ofNat ++ ['-']) ++
    putAll label basic.length 0x80 ⟨basic.length, 72, 0, []⟩ codes

/-- Where the reading stands: the label so far, the last code point put in and the place behind it,
the bias, and the number that is being read with the position and the value of its next digit. -/
structure Reading where
  label : List Nat
  /-- How long the label is with its first code point put in. -/
  first : Nat
  code : Nat := 0x80
  place : Nat := 0
  bias : Nat := 72
  number : Nat := 0
  position : Nat := 36
  weight : Nat := 1

/-- The last code point there is. -/
def lastCode : Nat := 0x10ffff

/-- Reads a digit; the last digit of a number puts a code point in, unless there is no such. -/
def Reading.step? (r : Reading) (d : Nat) : Option Reading :=
  let t := threshold r.position r.bias
  let number := r.number + d * r.weight
  if t ≤ d then
    some { r with number := number, position := r.position + 36, weight := r.weight * (36 - t) }
  else
    let count := r.label.length + 1
    let code := r.code + (r.place + number) / count
    let place := (r.place + number) % count
    if lastCode < code then none
    else
      some {
        label := r.label.insertIdx place code
        code := code
        place := place + 1
        bias := adapt number count (count == r.first)
        first := r.first }

/-- **The code points that are written in ASCII**, unless the text ends within a number or asks for
a code point that is none. The last hyphen parts the numbers from the code points of ASCII, even if
there are none of these, although no text is then written so. -/
def decode? (cs : List Char) : Option (List Nat) := do
  let numbers := (cs.reverse.takeWhile (· ≠ '-')).reverse
  let basic := (cs.take (cs.length - numbers.length - 1)).map Char.toNat
  let digits ← numbers.mapM digitValue?
  let r ← digits.foldlM Reading.step? { label := basic, first := basic.length + 1 }
  if r.position = 36 then some r.label else none

end CatalogSearch.Punycode
