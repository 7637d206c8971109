import CatalogSearch.HostName.Label
import CatalogSearch.HostName.Punycode
import CatalogSearch.Text.Lowercase
import CatalogSearch.Text.Pieces

/-!
# Host names

A host name has labels between dots of four kinds, and a dot may stand at its end. A label with
characters beyond ASCII has a form in ASCII, which is marked as such.

* `HostName.inAscii`: a name in lower case and in ASCII.
* `HostName.labels`: the labels that a name in ASCII stands for.
-/

namespace CatalogSearch.HostName

open Text

/-- Why a name is refused. -/
inductive NameRefusal where
  | empty
  | tooLong
  /-- Nothing stands behind the mark of a label. -/
  | bareMark
  | hyphenAfterMark
  /-- What stands behind the mark of a label writes none. -/
  | unreadable
  /-- What stands behind the mark of a label would have been written in another way. -/
  | notCanonical
  | badLabel (why : LabelRefusal)
deriving DecidableEq, Repr

def NameRefusal.message : NameRefusal → String
  | empty => "Empty domain"
  | tooLong => "Domain too long"
  | bareMark => "Malformed A-label, no Punycode eligible content found"
  | hyphenAfterMark => "A-label must not end with a hyphen"
  | unreadable => "Invalid A-label"
  | notCanonical => "A-label is not the canonical Punycode encoding of its U-label"
  | badLabel why => why.message

/-- The full stops that separate labels. -/
def isDot (c : Char) : Bool :=
  c == '.' || c.toNat == 0x3002 || c.toNat == 0xff0e || c.toNat == 0xff61

/-- What marks a label that stands for one with characters beyond ASCII. -/
def mark : List Char := "xn--".toList

/-- The most characters of a label in ASCII. -/
def labelLimit : Nat := 63

/-- The most characters of a name, where a dot at its end counts. -/
def nameLimit : Nat := 254

/-- A label that keeps to the rules. -/
def checked (label : Label) : Except NameRefusal Label :=
  match label.check with
  | .ok _ => .ok label
  | .error why => .error (.badLabel why)

/-- The label that a text in ASCII stands for. -/
def labelOfAscii (cs : List Char) : Except NameRefusal Label :=
  let cs := cs.map Char.toLower
  if cs.take mark.length = mark then
    let written := cs.drop mark.length
    if written = [] then .error .bareMark
    else if written.getLast? = some '-' then .error .hyphenAfterMark
    else
      match Punycode.decode? written with
      | some label =>
        if Punycode.encode label = written then checked label else .error .notCanonical
      | none => .error .unreadable
  else checked (cs.map Char.toNat)

/-- A label in ASCII. -/
def labelInAscii (cs : List Char) : Except NameRefusal (List Char) := do
  let written ←
    if cs.all (·.toNat < 0x80) then do
      let _ ← labelOfAscii cs
      pure cs
    else do
      let label ← checked (cs.map Char.toNat)
      pure (mark ++ Punycode.encode label)
  if labelLimit < written.length then .error (.badLabel .tooLong) else .ok written

/-- The texts between the dots of a name, and whether a dot ends it. -/
def cutLabels (name : List Char) : Except NameRefusal (List (List Char) × Bool) :=
  if nameLimit < name.length then .error .tooLong
  else if name = [] then .error .empty
  else
    let parts := pieces '.' (name.map fun c => if isDot c then '.' else c)
    let isClosed := parts.getLast? = some []
    .ok (if isClosed then parts.dropLast else parts, isClosed)

/-- **A host name in ASCII and lower case.** -/
def inAscii (name : List Char) : Except NameRefusal (List Char) := do
  let (parts, isClosed) ← cutLabels (lowercase name)
  let written ← parts.mapM labelInAscii
  let joined := List.intercalate ['.'] (if isClosed then written ++ [[]] else written)
  if (if isClosed then nameLimit else nameLimit - 1) < joined.length then .error .tooLong
  else .ok joined

/-- **The labels that a name in ASCII stands for.** -/
def labels (name : List Char) : Except NameRefusal (List Label) := do
  let (parts, _) ← cutLabels name
  parts.mapM labelOfAscii

/-- Whether the first label of a name stands for one with characters beyond ASCII. -/
def isMarked (name : List Char) : Bool :=
  name.take mark.length == mark

end CatalogSearch.HostName
