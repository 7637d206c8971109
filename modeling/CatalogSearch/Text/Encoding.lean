/-!
# Encoded text

Octets read as text in UTF-8, UTF-16 or UTF-32. A decoder yields one entry per character and `none`
per malformed part, so that a caller may refuse the text or put a replacement character in.

Surrogate code points are no characters. Where they are let through, each stands as U+FFFD.
-/

namespace CatalogSearch.Text

/-- The character that stands for what cannot be read. -/
def replacement : Char := '\ufffd'

/-- The character of a code point; a surrogate is `replacement`. -/
def charOf (n : Nat) : Char :=
  if 0xd800 ≤ n ∧ n ≤ 0xdfff then replacement else Char.ofNat n

namespace Utf8

/-- Between characters, or inside one: the octets still owed, the bounds of the next one, and the
bits read so far. -/
inductive State where
  | start
  | inside (owed low high bits : Nat)
deriving DecidableEq, Repr

/-- Begins a character. With `surrogates`, the code points U+D800 to U+DFFF are let through. -/
def first (surrogates : Bool) (b : Nat) : Option Char ⊕ State :=
  if b < 0x80 then .inl (some (Char.ofNat b))
  else if b < 0xc2 then .inl none
  else if b < 0xe0 then .inr (.inside 1 0x80 0xbf (b - 0xc0))
  else if b = 0xe0 then .inr (.inside 2 0xa0 0xbf 0)
  else if b = 0xed ∧ !surrogates then .inr (.inside 2 0x80 0x9f 0xd)
  else if b < 0xf0 then .inr (.inside 2 0x80 0xbf (b - 0xe0))
  else if b = 0xf0 then .inr (.inside 3 0x90 0xbf 0)
  else if b < 0xf4 then .inr (.inside 3 0x80 0xbf (b - 0xf0))
  else if b = 0xf4 then .inr (.inside 3 0x80 0x8f 4)
  else .inl none

/-- One octet: what it completes or spoils, and the state after it. An octet that cannot go on
ends the character before it and begins one itself. -/
def step (surrogates : Bool) (q : State) (b : Nat) : List (Option Char) × State :=
  let begin : List (Option Char) × State :=
    match first surrogates b with
    | .inl c => ([c], .start)
    | .inr q => ([], q)
  match q with
  | .start => begin
  | .inside owed low high bits =>
    if low ≤ b ∧ b ≤ high then
      let bits := bits * 64 + (b - 0x80)
      if owed = 1 then ([some (charOf bits)], .start) else ([], .inside (owed - 1) 0x80 0xbf bits)
    else (none :: begin.1, begin.2)

/-- Reads octets from a state on; a character that does not end is malformed. -/
def decode (surrogates : Bool) : State → List UInt8 → List (Option Char)
  | .start, [] => []
  | .inside .., [] => [none]
  | q, b :: bs =>
    let (out, q') := step surrogates q b.toNat
    out ++ decode surrogates q' bs

end Utf8

/-- Reads UTF-8 with a replacement character for each malformed part. -/
def utf8Lossy (bs : List UInt8) : List Char :=
  (Utf8.decode false .start bs).map (·.getD replacement)

/-- Reads UTF-8, surrogates let through. -/
def utf8? (bs : List UInt8) : Option (List Char) :=
  (Utf8.decode true .start bs).mapM id

/-- Octets in pairs, the more significant octet first or last; an odd octet is malformed. -/
def units16? (bigEndian : Bool) : List UInt8 → Option (List Nat)
  | [] => some []
  | a :: b :: bs =>
    let n := if bigEndian then a.toNat * 256 + b.toNat else b.toNat * 256 + a.toNat
    (units16? bigEndian bs).map (n :: ·)
  | [_] => none

/-- Joins surrogate pairs; a surrogate without its partner is let through. -/
def joinPairs : List Nat → List Char
  | [] => []
  | [u] => [charOf u]
  | u :: v :: us =>
    if 0xd800 ≤ u ∧ u ≤ 0xdbff ∧ 0xdc00 ≤ v ∧ v ≤ 0xdfff then
      Char.ofNat (0x10000 + (u - 0xd800) * 0x400 + (v - 0xdc00)) :: joinPairs us
    else charOf u :: joinPairs (v :: us)

def utf16? (bigEndian : Bool) (bs : List UInt8) : Option (List Char) :=
  (units16? bigEndian bs).map joinPairs

/-- Octets in fours; an incomplete four or a number beyond Unicode is malformed. -/
def utf32? (bigEndian : Bool) : List UInt8 → Option (List Char)
  | [] => some []
  | a :: b :: c :: d :: bs =>
    let n :=
      if bigEndian then ((a.toNat * 256 + b.toNat) * 256 + c.toNat) * 256 + d.toNat
      else ((d.toNat * 256 + c.toNat) * 256 + b.toNat) * 256 + a.toNat
    if 0x10ffff < n then none else (utf32? bigEndian bs).map (charOf n :: ·)
  | _ => none

/-- **Reads octets in the encoding that they show**: a byte order mark tells it, or else the zero
octets among the first four, as a text of this kind begins with two ASCII characters. -/
def decodeDetected? (bs : List UInt8) : Option (List Char) :=
  match bs with
  | 0x00 :: 0x00 :: 0xfe :: 0xff :: r => utf32? true r
  | 0xff :: 0xfe :: 0x00 :: 0x00 :: r => utf32? false r
  | 0xfe :: 0xff :: r => utf16? true r
  | 0xff :: 0xfe :: r => utf16? false r
  | 0xef :: 0xbb :: 0xbf :: r => utf8? r
  | a :: b :: c :: d :: _ =>
    if a = 0 then if b = 0 then utf32? true bs else utf16? true bs
    else if b = 0 then if c = 0 ∧ d = 0 then utf32? false bs else utf16? false bs
    else utf8? bs
  | [a, b] => if a = 0 then utf16? true bs else if b = 0 then utf16? false bs else utf8? bs
  | _ => utf8? bs

end CatalogSearch.Text
