import CatalogSearch.Value.Equality

/-!
# Order of values

Numbers are ordered by value whatever their kind, texts by their code points, lists by the first
items that differ. Values of other or of different kinds have no order, and neither has what is no
number beside a decimal fraction.

* `Quantity.exceedsFinite`: whether a finite number is greater than another.
* `Value.exceeds`: whether a value is greater than another, or why that cannot be told.
-/

namespace CatalogSearch

/-- Why two values cannot be compared. -/
inductive ComparisonRefusal where
  | kinds (first second : String)
  /-- One of them is no number. -/
  | notNumber
deriving DecidableEq, Repr

def ComparisonRefusal.message : ComparisonRefusal → String
  | kinds a b => "'>' not supported between instances of '" ++ a ++ "' and '" ++ b ++ "'"
  | notNumber => "[<class 'decimal.InvalidOperation'>]"

/-- Whether the first of two finite numbers is greater, each a coefficient times a power of two and
a power of ten. Powers that both have are left out, and powers of ten that outweigh all digits of
the other number are not computed. -/
def Quantity.exceedsFinite (c p e d q f : Int) : Bool :=
  if c = 0 ∨ d = 0 then d < c
  else
    let twos := min p q
    let tens := min e f
    let c := c * Int.pow 2 (p - twos).toNat
    let d := d * Int.pow 2 (q - twos).toNat
    if (d.natAbs.log2 : Int) + 1 < e - tens then 0 < c
    else if (c.natAbs.log2 : Int) + 1 < f - tens then d < 0
    else d * Int.pow 10 (f - tens).toNat < c * Int.pow 10 (e - tens).toNat

/-- Whether the first of two numbers is greater; unknown if one of them is none. -/
def Quantity.exceeds? : Quantity → Quantity → Option Bool
  | nan .., _ | _, nan .. => none
  | infinite s, infinite t => some (!s && t)
  | infinite s, finite .. => some (!s)
  | finite .., infinite t => some t
  | finite c p e, finite d q f => some (exceedsFinite c p e d q f)

namespace Value

def isDecimal : Value → Bool
  | decimal _ => true
  | _ => false

mutual

/-- **Whether a value is greater than another.** A floating-point number that is none is not greater
than anything, nor anything than it. -/
def exceeds : Value → Value → Except ComparisonRefusal Bool
  | text s, text t => .ok (t < s)
  | uuid u, uuid v => .ok (v.bits < u.bits)
  | list xs, list ys => listExceeds xs ys
  | v, w =>
    match quantity? v, quantity? w with
    | some a, some b =>
      match a.exceeds? b with
      | some g => .ok g
      | none => if isDecimal v || isDecimal w then .error .notNumber else .ok false
    | _, _ => .error (.kinds v.kindName w.kindName)

/-- Whether a list is greater than another: the first items that differ decide, and after equal ones
the lengths do. -/
def listExceeds : List Value → List Value → Except ComparisonRefusal Bool
  | [], _ => .ok false
  | _ :: _, [] => .ok true
  | x :: xs, y :: ys =>
    match x.same? y with
    | none => .error .notNumber
    | some true => listExceeds xs ys
    | some false => exceeds x y

end

/-- Whole numbers have their usual order. -/
theorem exceeds_int (i j : Int) : (int i).exceeds (int j) = .ok (decide (j < i)) := by
  have h : Quantity.exceedsFinite i 0 0 j 0 0 = decide (j < i) := by
    unfold Quantity.exceedsFinite
    by_cases hz : i = 0 ∨ j = 0
    · simp [hz]
    · have hi : ¬ ((i.natAbs.log2 : Int) + 1 < 0) := by omega
      have hj : ¬ ((j.natAbs.log2 : Int) + 1 < 0) := by omega
      have h2 : Int.pow 2 0 = 1 := Int.pow_zero 2
      have h10 : Int.pow 10 0 = 1 := Int.pow_zero 10
      have hm : (0 : Int) - min 0 0 = 0 := rfl
      simp only [hz, if_false, hm, Int.toNat_zero, h2, h10, Int.mul_one, hi, hj]
  simp [exceeds, quantity?, Quantity.exceeds?, h]

end Value

end CatalogSearch
