import CatalogSearch.HostName.Context
import CatalogSearch.HostName.Direction
import CatalogSearch.HostName.Permitted
import CatalogSearch.Text.NormalForm
import CatalogSearch.Text.Quoted

/-!
# Labels

A host name is made up of labels. A label is in composed form, has no hyphen at an end nor two of
them in the third and the fourth place, does not begin with a mark, and holds nothing but characters
that are permitted where they stand. One with characters that run from right to left obeys the rules
of directions besides.

* `Label.check`: refuses a label unless it keeps to the rules; the first one broken decides.
* `LabelRefusal.message`: the rule in words.
-/

namespace CatalogSearch.HostName

open Text

/-- A label as its code points. One that is read from ASCII may hold any, even such that are no
characters. -/
abbrev Label := List Nat

/-- Why a label is refused. Positions count from one. -/
inductive LabelRefusal where
  | empty
  | tooLong
  | uncomposed
  | innerHyphens
  | outerHyphen
  | leadingMark
  | notPermitted (code position : Nat) (label : Label)
  /-- A sign that needs others around it. -/
  | misplaced (code position : Nat) (label : Label)
  | misplacedJoiner (code position : Nat) (label : Label)
  /-- A joiner behind a code point that nothing is known of. -/
  | joinerToUnknown (code position : Nat) (label : Label)
  | unknownDirection (position : Nat) (label : Label)
  | firstDirection (label : Label)
  | leftToRight (position : Nat)
  | rightToLeft (position : Nat)
  | mixedNumbers
  | lastDirection
deriving DecidableEq, Repr

/-- The quoted text of a label, where a code point that is no character is escaped. -/
def Label.quoted (label : Label) : String :=
  let q := quoteFor (label.map Char.ofNat)
  let shown := fun (n : Nat) => if n.isValidChar then escape q (Char.ofNat n) else codeEscape n
  String.ofList (q :: label.flatMap shown ++ [q])

/-- The usual name of a code point. -/
def codeName (code : Nat) : String :=
  "U+" ++ String.ofList ((hex 4 code).map Char.toUpper)

def LabelRefusal.message : LabelRefusal → String
  | empty => "Empty Label"
  | tooLong => "Label too long"
  | uncomposed => "Label must be in Normalization Form C"
  | innerHyphens => "Label has disallowed hyphens in 3rd and 4th position"
  | outerHyphen => "Label must not start or end with a hyphen"
  | leadingMark => "Label begins with an illegal combining character"
  | notPermitted c i l =>
    "Codepoint " ++ codeName c ++ " at position " ++ toString i ++ " of " ++ l.quoted ++
      " not allowed"
  | misplaced c i l =>
    "Codepoint " ++ codeName c ++ " not allowed at position " ++ toString i ++ " in " ++ l.quoted
  | misplacedJoiner c i l =>
    "Joiner " ++ codeName c ++ " not allowed at position " ++ toString i ++ " in " ++ l.quoted
  | joinerToUnknown c i l =>
    "Unknown codepoint adjacent to joiner " ++ codeName c ++ " at position " ++ toString i ++
      " in " ++ l.quoted
  | unknownDirection i l =>
    "Unknown directionality in label " ++ l.quoted ++ " at position " ++ toString i
  | firstDirection l =>
    "First codepoint in label " ++ l.quoted ++ " must be directionality L, R or AL"
  | leftToRight i =>
    "Invalid direction for codepoint at position " ++ toString i ++ " in a right-to-left label"
  | rightToLeft i =>
    "Invalid direction for codepoint at position " ++ toString i ++ " in a left-to-right label"
  | mixedNumbers => "Can not mix numeral types in a right-to-left label"
  | lastDirection => "Label ends with illegal codepoint directionality"

namespace Label

/-- The most code points that a label is checked with. -/
def lengthLimit : Nat := 254

def hyphen : Nat := 0x2d

/-- Whether a joiner may stand between others, the nearest of those before it first: behind a sign
that takes the vowel from a consonant, or, if it keeps letters apart, where they would join. -/
def joinerFits (code : Nat) (before behind : Label) : Bool :=
  match before with
  | [] => false
  | c :: _ =>
    combiningClass c == viramaClass ||
      (code == 0x200c && joinsNext before && joinsPrevious behind)

/-- Refuses a joiner that may not stand between others, and one behind a code point that has neither
a combining class nor a name, because the class is then not to be trusted. -/
def checkJoiner (code : Nat) (label before behind : Label) : Except LabelRefusal Unit :=
  let position := before.length + 1
  if before.head?.any fun c => combiningClass c == 0 && !isNamed c then
    .error (.joinerToUnknown code position label)
  else if joinerFits code before behind then .ok ()
  else .error (.misplacedJoiner code position label)

def isArabicDigit (code : Nat) : Bool := 0x660 ≤ code && code ≤ 0x669

def isExtendedArabicDigit (code : Nat) : Bool := 0x6f0 ≤ code && code ≤ 0x6f9

/-- Whether a sign needs others around it: the middle dot, the Greek numeral sign, two signs of
Hebrew, the middle dot of Katakana, and the two kinds of Arabic digits. -/
def isContextual (code : Nat) : Bool :=
  [0xb7, 0x375, 0x5f3, 0x5f4, 0x30fb].contains code || isArabicDigit code ||
    isExtendedArabicDigit code

/-- Whether such a sign may stand between others in a label, the nearest of those before it first:
the middle dot between two l, the signs of Greek and Hebrew beside their letters, the dot of
Katakana in a label that is Japanese elsewhere, and digits of one kind without the other. -/
def signFits (code : Nat) (label before behind : Label) : Bool :=
  if code = 0xb7 then before.head? == some 0x6c && behind.head? == some 0x6c
  else if code = 0x375 then behind.head?.any isGreek
  else if code = 0x30fb then label.any isJapanese
  else if isArabicDigit code then !label.any isExtendedArabicDigit
  else if isExtendedArabicDigit code then !label.any isArabicDigit
  else before.head?.any isHebrew

/-- Refuses the first code point that may not stand where it stands. `before` are the code points
of the label that have been passed, in reverse. -/
def checkCodes (label before : Label) : Label → Except LabelRefusal Unit
  | [] => .ok ()
  | c :: behind =>
    let position := before.length + 1
    if isPermitted c then checkCodes label (c :: before) behind
    else if isJoiner c then do
      checkJoiner c label before behind
      checkCodes label (c :: before) behind
    else if isContextual c then
      if signFits c label before behind then checkCodes label (c :: before) behind
      else .error (.misplaced c position label)
    else .error (.notPermitted c position label)

/-- Whether characters of a direction make a label obey the rules of directions. -/
def isBackward : Direction → Bool
  | .rightToLeft | .arabicLetter | .arabicNumber => true
  | _ => false

/-- A label that runs from right to left has no characters of the other direction, and numbers of
one kind only. `numbers` is the kind that has been met. -/
def checkBackward (position : Nat) (numbers : Option Direction) :
    List Direction → Except LabelRefusal Unit
  | [] => .ok ()
  | .leftToRight :: _ => .error (.leftToRight position)
  | d :: ds =>
    if d = .arabicNumber ∨ d = .europeanNumber then
      if numbers.all (· = d) then checkBackward (position + 1) (some d) ds
      else .error .mixedNumbers
    else checkBackward (position + 1) numbers ds

/-- A label that runs from left to right has no characters of the other direction. -/
def checkForward (ds : List Direction) : Except LabelRefusal Unit :=
  match ds.findIdx? isBackward with
  | some i => .error (.rightToLeft (i + 1))
  | none => .ok ()

/-- Refuses directions unless the last one that is not a mark's is one of the given. -/
def checkLast (allowed : List Direction) (ds : List Direction) : Except LabelRefusal Unit :=
  match (ds.filter (· ≠ .nonspacingMark)).getLast? with
  | some d => if allowed.contains d then .ok () else .error .lastDirection
  | none => .error .lastDirection

/-- The rules of directions. They hold for labels with characters that run from right to left; such
a label begins with a letter, which says where it runs. -/
def checkDirections (label : Label) : Except LabelRefusal Unit :=
  match label.findIdx? fun c => (direction? c).isNone with
  | some i => .error (.unknownDirection (i + 1) label)
  | none =>
    let ds := label.filterMap direction?
    if !ds.any isBackward then .ok ()
    else
      match ds.head? with
      | some .rightToLeft | some .arabicLetter => do
        checkBackward 1 none ds
        checkLast [.rightToLeft, .arabicLetter, .europeanNumber, .arabicNumber] ds
      | some .leftToRight => do
        checkForward ds
        checkLast [.leftToRight, .europeanNumber] ds
      | _ => .error (.firstDirection label)

/-- **Refuses a label unless it keeps to the rules.** -/
def check (label : Label) : Except LabelRefusal Unit :=
  if label = [] then .error .empty
  else if lengthLimit < label.length then .error .tooLong
  else if !isComposed label then .error .uncomposed
  else if (label.drop 2).take 2 = [hyphen, hyphen] then .error .innerHyphens
  else if label.head? = some hyphen ∨ label.getLast? = some hyphen then .error .outerHyphen
  else if label.head?.any isMark then .error .leadingMark
  else do
    checkCodes label [] label
    checkDirections label

end Label

end CatalogSearch.HostName
