import CatalogSearch.Text.Character
import CatalogSearch.Text.CombiningClass
import CatalogSearch.Text.Composite

/-!
# The composed form

Texts that mean the same can be written with composites or with their parts, and with marks of
different classes in any order. Of all these only one is in composed form: marks behind a character
stand in the order of their classes, and what has a composite is written with it.

* `takeApart`, `order`, `compose`: the three steps that bring a text into composed form.
* `isComposed`: whether a text is in composed form.
-/

namespace CatalogSearch.Text

/-- Code points that no text in composed form holds (NFC_Quick_Check=No, Unicode 14). -/
def uncomposedRanges : List (Nat × Nat) :=
  [(0x340, 0x341), (0x343, 0x344), (0x374, 0x374), (0x37e, 0x37e), (0x387, 0x387), (0x958, 0x95f),
  (0x9dc, 0x9dd), (0x9df, 0x9df), (0xa33, 0xa33), (0xa36, 0xa36), (0xa59, 0xa5b), (0xa5e, 0xa5e),
  (0xb5c, 0xb5d), (0xf43, 0xf43), (0xf4d, 0xf4d), (0xf52, 0xf52), (0xf57, 0xf57), (0xf5c, 0xf5c),
  (0xf69, 0xf69), (0xf73, 0xf73), (0xf75, 0xf76), (0xf78, 0xf78), (0xf81, 0xf81), (0xf93, 0xf93),
  (0xf9d, 0xf9d), (0xfa2, 0xfa2), (0xfa7, 0xfa7), (0xfac, 0xfac), (0xfb9, 0xfb9),
  (0x1f71, 0x1f71), (0x1f73, 0x1f73), (0x1f75, 0x1f75), (0x1f77, 0x1f77), (0x1f79, 0x1f79),
  (0x1f7b, 0x1f7b), (0x1f7d, 0x1f7d), (0x1fbb, 0x1fbb), (0x1fbe, 0x1fbe), (0x1fc9, 0x1fc9),
  (0x1fcb, 0x1fcb), (0x1fd3, 0x1fd3), (0x1fdb, 0x1fdb), (0x1fe3, 0x1fe3), (0x1feb, 0x1feb),
  (0x1fee, 0x1fef), (0x1ff9, 0x1ff9), (0x1ffb, 0x1ffb), (0x1ffd, 0x1ffd), (0x2000, 0x2001),
  (0x2126, 0x2126), (0x212a, 0x212b), (0x2329, 0x232a), (0x2adc, 0x2adc), (0xf900, 0xfa0d),
  (0xfa10, 0xfa10), (0xfa12, 0xfa12), (0xfa15, 0xfa1e), (0xfa20, 0xfa20), (0xfa22, 0xfa22),
  (0xfa25, 0xfa26), (0xfa2a, 0xfa6d), (0xfa70, 0xfad9), (0xfb1d, 0xfb1d), (0xfb1f, 0xfb1f),
  (0xfb2a, 0xfb36), (0xfb38, 0xfb3c), (0xfb3e, 0xfb3e), (0xfb40, 0xfb41), (0xfb43, 0xfb44),
  (0xfb46, 0xfb4e), (0x1d15e, 0x1d164), (0x1d1bb, 0x1d1c0), (0x2f800, 0x2fa1d)]

/-- A composite taken apart, as well as its first part if that is one; a second part is none.
`depth` bounds how often this is done. -/
def takeApart : Nat → Nat → List Nat
  | 0, code => [code]
  | depth + 1, code =>
    match parts? code with
    | some (first, second) => takeApart depth first ++ [second]
    | none => [code]

/-- No composite has a first part of more than three characters. -/
def compositeDepth : Nat := 3

/-- Puts a mark in front of ordered characters, behind the marks of lower classes there. -/
def putMark (mark : Nat) : List Nat → List Nat
  | [] => [mark]
  | c :: cs =>
    if 0 < combiningClass c ∧ combiningClass c < combiningClass mark then c :: putMark mark cs
    else mark :: c :: cs

/-- Brings marks that stand together into the order of their classes. -/
def order : List Nat → List Nat
  | [] => []
  | c :: cs => putMark c (order cs)

/-- Composes what follows `starter`, which has left `marks` standing so far. A character can be
taken up unless one of the marks is of its class or a higher one. -/
def composeFrom (starter : Nat) (marks : List Nat) : List Nat → List Nat
  | [] => starter :: marks
  | c :: cs =>
    let isFree := marks.all (combiningClass · < combiningClass c)
    match if isFree then composite? starter c else none with
    | some whole => composeFrom whole marks cs
    | none =>
      if combiningClass c = 0 then starter :: marks ++ composeFrom c [] cs
      else composeFrom starter (marks ++ [c]) cs

/-- Writes ordered characters with composites. -/
def compose : List Nat → List Nat
  | [] => []
  | c :: cs => if combiningClass c = 0 then composeFrom c [] cs else c :: compose cs

/-- **Whether a text is in composed form.** -/
def isComposed (codes : List Nat) : Bool :=
  !codes.any (inRanges · uncomposedRanges) &&
    compose (order (codes.flatMap (takeApart compositeDepth))) == codes

end CatalogSearch.Text
