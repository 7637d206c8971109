import CatalogSearch.Number.Whole

/-!
# Placeholders of a statement

A placeholder is a dollar sign and the decimal digits behind it. Before a statement is handed out
its placeholders are compared with the parameters: each number from one to the count of parameters
has to occur, and no other.
-/

namespace CatalogSearch

open Text

/-- Why a statement and its parameters do not fit. -/
inductive PlaceholderRefusal where
  | mismatch (numbers : List Nat) (bound : Nat)
  | tooLong (length : Nat)
deriving DecidableEq, Repr

def PlaceholderRefusal.message : PlaceholderRefusal → String
  | mismatch ns bound =>
    "Placeholder mismatch: query references [" ++ String.intercalate ", " (ns.map toString) ++
      "] but " ++ toString bound ++ " parameters are bound"
  | tooLong n => tooManyDigits n

namespace Placeholder

/-- The decimal digits that a text begins with. -/
def leadingDigits : List Char → List Nat
  | [] => []
  | c :: cs =>
    match digitValue? c with
    | some d => d :: leadingDigits cs
    | none => []

/-- The digits of every placeholder, from left to right. -/
def runs : List Char → List (List Nat)
  | [] => []
  | c :: cs =>
    if c = '$' ∧ leadingDigits cs ≠ [] then leadingDigits cs :: runs cs else runs cs

/-- Puts a number into an ascending list, once. -/
def insert (n : Nat) : List Nat → List Nat
  | [] => [n]
  | m :: ms => if n < m then n :: m :: ms else if n = m then m :: ms else m :: insert n ms

/-- The numbers of all placeholders of a statement, ascending and without repetition. -/
def numbers (sql : String) : List Nat :=
  (runs sql.toList).foldl (fun ns ds => insert (numberOfDigits ds) ns) []

/-- **Refuses a statement unless its placeholders are exactly 1, …, `bound`.** -/
def check (sql : String) (bound : Nat) : Except PlaceholderRefusal Unit :=
  match (runs sql.toList).find? (digitLimit < ·.length) with
  | some ds => .error (.tooLong ds.length)
  | none =>
    if numbers sql = List.range' 1 bound then .ok ()
    else .error (.mismatch (numbers sql) bound)

end Placeholder

end CatalogSearch
