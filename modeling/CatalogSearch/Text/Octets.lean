import CatalogSearch.Text.Character
import CatalogSearch.Text.Encoding

/-!
# Octets written as text

In an address `%` and two hexadecimal digits stand for an octet. Encoding writes the characters
that are not safe as the octets of their UTF-8 form; an octet that is already written so is kept.
In base 64 octets are written in an alphabet of 64 characters: three octets make four characters,
and `=` fills up the last four.

* `percentEncode`: a text with only safe characters and written octets in it.
* `percentDecode`: the text that is meant, with a replacement character for malformed octets.
* `base64`: octets in base 64.
-/

namespace CatalogSearch.Text

/-! ### Percent encoding -/

/-- The octets of a text in UTF-8. -/
def utf8Octets (cs : List Char) : List UInt8 :=
  (String.ofList cs).toUTF8.toList

/-- The octets of a text in which `%` and two hexadecimal digits stand for one octet; a `%` before
anything else stands for itself. -/
def octets : List Char → List UInt8
  | '%' :: a :: b :: cs =>
    match hexValue? a, hexValue? b with
    | some x, some y => UInt8.ofNat (16 * x + y) :: octets cs
    | _, _ => utf8Octets ['%'] ++ octets (a :: b :: cs)
  | c :: cs => utf8Octets [c] ++ octets cs
  | [] => []

def percentDecode (cs : List Char) : String :=
  String.ofList (utf8Lossy (octets cs))

/-- An octet as `%` and two upper-case hexadecimal digits. -/
def percentOctet (b : UInt8) : List Char :=
  '%' :: (hex 2 b.toNat).map Char.toUpper

/-- Writes characters that are not safe as octets. -/
def percentEncode (safe : Char → Bool) : List Char → List Char
  | '%' :: a :: b :: cs =>
    if (hexValue? a).isSome && (hexValue? b).isSome then '%' :: a :: b :: percentEncode safe cs
    else (if safe '%' then ['%'] else percentOctet 0x25) ++ percentEncode safe (a :: b :: cs)
  | c :: cs =>
    (if safe c then [c] else (utf8Octets [c]).flatMap percentOctet) ++ percentEncode safe cs
  | [] => []

/-! ### Base 64 -/

/-- The character of a number below 64. -/
def base64Digit (n : Nat) : Char :=
  if n < 26 then Char.ofNat (n + 65)
  else if n < 52 then Char.ofNat (n + 71)
  else if n < 62 then Char.ofNat (n - 4)
  else if n = 62 then '+'
  else '/'

/-- **Octets in base 64.** -/
def base64 : List UInt8 → List Char
  | a :: b :: c :: bs =>
    let n := a.toNat * 65536 + b.toNat * 256 + c.toNat
    base64Digit (n / 262144) :: base64Digit (n / 4096 % 64) :: base64Digit (n / 64 % 64) ::
      base64Digit (n % 64) :: base64 bs
  | [a, b] =>
    let n := a.toNat * 256 + b.toNat
    [base64Digit (n / 1024), base64Digit (n / 16 % 64), base64Digit (n % 16 * 4), '=']
  | [a] => [base64Digit (a.toNat / 4), base64Digit (a.toNat % 4 * 16), '=', '=']
  | [] => []

end CatalogSearch.Text
