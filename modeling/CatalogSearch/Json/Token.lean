import CatalogSearch.Text.Character
import CatalogSearch.Text.Encoding

/-!
# JSON tokens

A JSON text as marks, words and strings. A word is a longest run of letters, digits, signs and
points: numbers and the literal names are words, and which words are good is decided later. Where a
text cannot be read on, its tokens end in a break, so that what stands before it still counts.
-/

namespace CatalogSearch.Json

open Text

inductive Token where
  /-- A bracket, a brace, a comma or a colon. -/
  | mark (c : Char)
  | word (cs : List Char)
  | string (s : String)
  /-- A character out of place, or a string that does not end. -/
  | broken
deriving DecidableEq, Repr

/-- Where the scanner stands. Texts are collected in reverse; `high` is a surrogate from an escape
that waits for its partner. -/
inductive Scan where
  | between
  | word (done : List Char)
  | string (done : List Char) (high : Option Nat)
  | escape (done : List Char) (high : Option Nat)
  | unicode (done : List Char) (high : Option Nat) (owed code : Nat)
deriving Repr

namespace Scan

def isMark (c : Char) : Bool :=
  c = '[' || c = ']' || c = '\x7b' || c = '\x7d' || c = ',' || c = ':'

def isSpace (c : Char) : Bool :=
  c = ' ' || c = '\t' || c = '\n' || c = '\r'

def isWordChar (c : Char) : Bool :=
  c.isAlphanum || c = '+' || c = '-' || c = '.'

/-- The character that a one-letter escape stands for. -/
def escaped? : Char → Option Char
  | '"' => some '"'
  | '\\' => some '\\'
  | '/' => some '/'
  | 'b' => some '\x08'
  | 'f' => some '\x0c'
  | 'n' => some '\n'
  | 'r' => some '\r'
  | 't' => some '\t'
  | _ => none

/-- A surrogate that waited in vain is a character of its own. -/
def settle (done : List Char) : Option Nat → List Char
  | some _ => replacement :: done
  | none => done

/-- The string so far after the escape of a code unit: pairs are joined. -/
def afterUnit (done : List Char) (high : Option Nat) (code : Nat) : Scan :=
  match high with
  | some h =>
    if 0xdc00 ≤ code ∧ code ≤ 0xdfff then
      .string (Char.ofNat (0x10000 + (h - 0xd800) * 0x400 + (code - 0xdc00)) :: done) none
    else if 0xd800 ≤ code ∧ code ≤ 0xdbff then .string (replacement :: done) (some code)
    else .string (charOf code :: replacement :: done) none
  | none =>
    if 0xd800 ≤ code ∧ code ≤ 0xdbff then .string done (some code)
    else .string (charOf code :: done) none

/-- Begins a token, or passes over white space. -/
def begin? (c : Char) : Option (List Token × Scan) :=
  if isSpace c then some ([], .between)
  else if isMark c then some ([.mark c], .between)
  else if c = '"' then some ([], .string [] none)
  else if isWordChar c then some ([], .word [c])
  else none

/-- The token that is complete as soon as something else follows. -/
def pending : Scan → List Token
  | .word done => [.word done.reverse]
  | _ => []

/-- One character: the tokens that it completes, and where the scanner stands after it; none if it
cannot stand there. -/
def step? : Scan → Char → Option (List Token × Scan)
  | .between, c => begin? c
  | .word done, c =>
    if isWordChar c then some ([], .word (c :: done))
    else (begin? c).map fun (ts, s) => (.word done.reverse :: ts, s)
  | .string done high, c =>
    if c = '"' then some ([.string (String.ofList (settle done high).reverse)], .between)
    else if c = '\\' then some ([], .escape done high)
    else if c.toNat < 0x20 then none
    else some ([], .string (c :: settle done high) none)
  | .escape done high, c =>
    if c = 'u' then some ([], .unicode done high 4 0)
    else (escaped? c).map fun e => ([], .string (e :: settle done high) none)
  | .unicode done high owed code, c =>
    (hexValue? c).map fun d =>
      let code := code * 16 + d
      ([], if owed = 1 then afterUnit done high code else .unicode done high (owed - 1) code)

/-- The tokens from a state of the scanner on. -/
def run : Scan → List Char → List Token
  | .between, [] => []
  | .word done, [] => [.word done.reverse]
  | _, [] => [.broken]
  | s, c :: cs =>
    match step? s c with
    | none => s.pending ++ [.broken]
    | some (ts, s') => ts ++ run s' cs

end Scan

end CatalogSearch.Json
