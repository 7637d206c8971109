import CatalogSearch.Number.Written
import CatalogSearch.Text.Pieces

/-!
# Numeric addresses

Hosts that are given by number: four numbers between points, or up to eight groups of hexadecimal
digits between colons, where `::` stands for a run of zero groups. An address of the second form
may end in one of the first, and may name a zone behind `%`.
-/

namespace CatalogSearch.Address

open Text

/-- Whether a host looks like four numbers: four runs of digits between points. -/
def isFourPart (cs : List Char) : Bool :=
  let parts := pieces '.' cs
  parts.length == 4 && parts.all fun ds => !ds.isEmpty && ds.all Char.isDigit

/-- Whether digits write a number up to 255, with no zero in front. -/
def isOctet (ds : List Char) : Bool :=
  !ds.isEmpty && ds.length ≤ 3 && ds.all Char.isDigit && (ds.length == 1 || ds.head? != some '0') &&
    Written.natOf ds ≤ 255

/-- Whether a text is four octets between points. -/
def isV4 (cs : List Char) : Bool :=
  let parts := pieces '.' cs
  parts.length == 4 && parts.all isOctet

/-- Whether a text is a group of one to four hexadecimal digits. -/
def isGroup (cs : List Char) : Bool :=
  !cs.isEmpty && cs.length ≤ 4 && cs.all fun c => (hexValue? c).isSome

/-- The parts between colons, where four numbers at the end count as two groups. -/
def groups? (cs : List Char) : Option (List (List Char)) :=
  let parts := pieces ':' cs
  match parts.getLast? with
  | none => none
  | some last =>
    if parts.length < 3 then none
    else if last.contains '.' then
      if isV4 last then some (parts.dropLast ++ [['0'], ['0']]) else none
    else some parts

/-- Whether the parts before `::` are groups; the address may also begin with it. -/
def isHead (parts : List (List Char)) : Bool :=
  parts == [[]] || parts.all isGroup

/-- Whether parts between colons are eight groups, or less with one run left out. -/
def areGroups (parts : List (List Char)) : Bool :=
  let inner := (parts.drop 1).dropLast
  if parts.length > 9 then false
  else
    match inner.findIdx? List.isEmpty with
    | none => parts.length == 8 && parts.all isGroup
    | some i =>
      let head := parts.take (i + 1)
      let tail := parts.drop (i + 2)
      let size := fun (ps : List (List Char)) => if ps == [[]] then 0 else ps.length
      isHead head && isHead tail && size head + size tail ≤ 7

/-- Whether a text is an address in groups, with or without a zone. -/
def isV6 (cs : List Char) : Bool :=
  let address := before '%' cs
  let zone := after '%' cs
  let zoneFits := !cs.contains '%' || (!zone.isEmpty && !zone.contains '%')
  zoneFits &&
    match groups? address with
    | none => false
    | some parts => areGroups parts

end CatalogSearch.Address
