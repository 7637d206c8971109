import CatalogSearch.Value

/-!
# Equality of values

Numbers are equal by value whatever their kind, records whatever the order of their fields. What is
no number equals itself alone, and a signaling one cannot be told from a number at all: then there
is no answer.

* `Quantity.same?`: whether two numbers are equal.
* `Value.same?`: whether two values are equal.
-/

namespace CatalogSearch

/-- What a value of a numeric kind amounts to. -/
inductive Quantity where
  | nan (signaling : Bool) (occurrence : Nat)
  | infinite (negative : Bool)
  /-- The coefficient times a power of two and a power of ten. -/
  | finite (coefficient twos tens : Int)
deriving DecidableEq, Repr

namespace Quantity

/-- Whether two finite numbers are equal. Powers that both have are left out, and powers of ten
that outweigh all digits of the other number are not computed. -/
def sameFinite (c p e d q f : Int) : Bool :=
  if c = 0 ∨ d = 0 then c == d
  else
    let twos := min p q
    let tens := min e f
    let c := c * Int.pow 2 (p - twos).toNat
    let d := d * Int.pow 2 (q - twos).toNat
    if (d.natAbs.log2 : Int) + 1 < e - tens ∨ (c.natAbs.log2 : Int) + 1 < f - tens then false
    else c * Int.pow 10 (e - tens).toNat == d * Int.pow 10 (f - tens).toNat

/-- Whether two numbers are equal; unknown if one of them is a signaling text that is no number. -/
def same? : Quantity → Quantity → Option Bool
  | nan s i, nan t j => if i = j then some true else if s || t then none else some false
  | nan true _, _ => none
  | _, nan true _ => none
  | infinite s, infinite t => some (s == t)
  | finite c p e, finite d q f => some (sameFinite c p e d q f)
  | _, _ => some false

end Quantity

namespace Value

/-- The number that a value of a numeric kind is. -/
def quantity? : Value → Option Quantity
  | bool b => some (.finite (if b then 1 else 0) 0 0)
  | int i => some (.finite i 0 0)
  | float (.nan i) => some (.nan false i)
  | float (.infinite s) => some (.infinite s)
  | float (.finite s m) => some (.finite (if s then -(m.quanta : Int) else m.quanta) (-1074) 0)
  | decimal (.nan _ signaling _ i) => some (.nan signaling i)
  | decimal (.infinite s) => some (.infinite s)
  | decimal (.finite s c e) => some (.finite (if s then -(c : Int) else c) 0 e)
  | _ => none

mutual

/-- **Whether two values are equal**; unknown if that hangs on a signaling text that is no
number. -/
def same? : Value → Value → Option Bool
  | null, null => some true
  | text s, text t => some (s == t)
  | uuid u, uuid v => some (u == v)
  | list xs, list ys => if xs.length = ys.length then sameItems? xs ys else some false
  | record fs, record gs => if fs.length = gs.length then sameFields? fs gs else some false
  | v, w =>
    match quantity? v, quantity? w with
    | some a, some b => a.same? b
    | _, _ => some false

/-- Whether items are equal in pairs; the first pair that differs decides, and after equal pairs
the lengths do. -/
def sameItems? : List Value → List Value → Option Bool
  | [], [] => some true
  | x :: xs, y :: ys => do if ← same? x y then sameItems? xs ys else some false
  | _, _ => some false

/-- Whether every field of the first record is in the second with an equal value. -/
def sameFields? : List (String × Value) → List (String × Value) → Option Bool
  | [], _ => some true
  | (k, x) :: fs, gs =>
    match gs.lookup k with
    | none => some false
    | some y => do if ← same? x y then sameFields? fs gs else some false

end

/-- Whole numbers are equal as usual. -/
theorem same?_int (i j : Int) : (int i).same? (int j) = some (decide (i = j)) := by
  have hbeq : (i == j) = decide (i = j) := by
    rw [Bool.eq_iff_iff, beq_iff_eq, decide_eq_true_iff]
  have h : Quantity.sameFinite i 0 0 j 0 0 = decide (i = j) := by
    unfold Quantity.sameFinite
    by_cases hz : i = 0 ∨ j = 0
    · simp [hz, hbeq]
    · have hi : ¬ ((i.natAbs.log2 : Int) + 1 < 0) := by omega
      have hj : ¬ ((j.natAbs.log2 : Int) + 1 < 0) := by omega
      have h2 : Int.pow 2 0 = 1 := Int.pow_zero 2
      have h10 : Int.pow 10 0 = 1 := Int.pow_zero 10
      simp [hz, h2, h10, hi, hj, hbeq]
  simp [same?, quantity?, Quantity.same?, h]

end Value

end CatalogSearch
