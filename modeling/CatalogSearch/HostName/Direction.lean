import CatalogSearch.Text.Character
import CatalogSearch.Text.Mark
import CatalogSearch.Text.Quoted

/-!
# Directions

Scripts run from left to right or from right to left, and digits and signs have directions of their
own. Here are the directions of the characters that may stand in host names; of others nothing is
said.
-/

namespace CatalogSearch.HostName

open Text

inductive Direction where
  | leftToRight
  | rightToLeft
  /-- From right to left, in the scripts that Arabic numbers are written in. -/
  | arabicLetter
  | arabicNumber
  | europeanNumber
  /-- The hyphen. -/
  | separator
  /-- That of the joiners. -/
  | boundary
  | nonspacingMark
  | neutral
deriving DecidableEq, Repr

/-- Ranges of the directions that are neither left to right nor that of marks and joiners (property
Bidi_Class, Unicode 14). -/
def directionRanges : List (Direction × List (Nat × Nat)) :=
  [(.arabicLetter, [(0x620, 0x64a), (0x66e, 0x6ef), (0x6fa, 0x7b1), (0x860, 0x8c9),
  (0xfe73, 0xfe73), (0x10d00, 0x10d23), (0x10f30, 0x10f45)]),
  (.rightToLeft, [(0x5d0, 0x5f4), (0x7c0, 0x858), (0x10800, 0x10cf2), (0x10e80, 0x10f27),
  (0x10f70, 0x10ff6), (0x1e800, 0x1e959)]),
  (.arabicNumber, [(0x660, 0x669), (0x10d30, 0x10d39)]),
  (.europeanNumber, [(0x30, 0x39), (0x6f0, 0x6f9)]),
  (.separator, [(0x2d, 0x2d)]),
  (.neutral, [(0xb7, 0xb7), (0x2b9, 0x2ba), (0x2c6, 0x2cf), (0x2ec, 0x2ec), (0x375, 0x375),
  (0x2e2f, 0x2e2f), (0x30fb, 0x30fb), (0xa67f, 0xa67f), (0xa717, 0xa71f), (0xa788, 0xa788)])]

/-- Nonspacing marks that run from left to right all the same. -/
def leftToRightMarks : List Nat :=
  [0xcbf, 0xcc6, 0x11a07, 0x11a08, 0x11c3f]

/-- Whether a code point is one of the two joiners, which are not seen themselves. -/
def isJoiner (code : Nat) : Bool :=
  code == 0x200c || code == 0x200d

/-- Whether a code point that may stand in a host name is assigned to a character (Unicode 14). -/
def isAssigned (code : Nat) : Bool :=
  isJoiner code || isPrintable (Char.ofNat code)

/-- Characters that are known by their code points only: ideographs of Tangut. -/
def namelessRanges : List (Nat × Nat) :=
  [(0x17000, 0x187f7), (0x18d00, 0x18d08)]

/-- Whether a code point that may stand in a host name has a name of its own (Unicode 14). -/
def isNamed (code : Nat) : Bool :=
  isAssigned code && !inRanges code namelessRanges

/-- **The direction of a code point**; none if it is not assigned to a character. -/
def direction? (code : Nat) : Option Direction :=
  if !isAssigned code then none
  else if isJoiner code then some .boundary
  else if isNonspacingMark code then
    some (if leftToRightMarks.contains code then .leftToRight else .nonspacingMark)
  else
    match directionRanges.find? fun (_, ranges) => inRanges code ranges with
    | some (d, _) => some d
    | none => some .leftToRight

end CatalogSearch.HostName
