import CatalogSearch.Number.Whole
import CatalogSearch.Value.Equality

/-!
# Predicate sets

Fragments of a WHERE clause together with the values they refer to. A fragment refers to a value by
its number, so a set also carries the next free number; appending moves it on by the values bound.

Numbers have no bound, but the text of a reference has: `canRefer` says whether the next references
can be written. The operations themselves are defined on all numbers; each that writes references
has a form that refuses numbers too long, such as `placeholder?`.
-/

namespace CatalogSearch

structure PredicateSet where
  fragments : List String := []
  values : List Value := []
  nextIndex : Int := 1
deriving Repr

/-- Whether `count` whole numbers from `first` on can be written. -/
def areWritable (first : Int) (count : Nat) : Bool :=
  count == 0 || (isWritable first && isWritable (first + count - 1))

/-- The numbers of a run can all be written if its ends can. -/
theorem areWritable_iff {first : Int} {count : Nat} :
    areWritable first count = true ↔ ∀ i < count, isWritable (first + (i : Nat)) = true := by
  simp only [areWritable, isWritable, Bool.or_eq_true, Bool.and_eq_true, beq_iff_eq,
    decide_eq_true_iff]
  -- the power is not to be computed
  generalize Nat.pow 10 digitLimit = bound
  constructor
  · intro h i hi
    omega
  · intro h
    by_cases hcount : count = 0
    · exact Or.inl hcount
    · have hfirst := h 0 (by omega)
      have hlast := h (count - 1) (by omega)
      omega

/-- A run can be written if its two parts can. -/
theorem areWritable_add (first : Int) (j k : Nat) :
    areWritable first (j + k) = (areWritable first j && areWritable (first + j) k) := by
  rw [Bool.eq_iff_iff, Bool.and_eq_true, areWritable_iff, areWritable_iff, areWritable_iff]
  constructor
  · intro h
    refine ⟨fun i hi => h i (by omega), fun i hi => ?_⟩
    rw [Int.add_assoc, ← Int.natCast_add]
    exact h (j + i) (by omega)
  · rintro ⟨hfront, hbehind⟩ i hi
    by_cases hj : i < j
    · exact hfront i hj
    · have hi' := hbehind (i - j) (by omega)
      rw [Int.add_assoc, ← Int.natCast_add, Nat.add_sub_cancel' (by omega)] at hi'
      exact hi'

namespace PredicateSet

/-- The reference to the value that is bound `offset` places after the next one. -/
def placeholder (p : PredicateSet) (offset : Int) : String :=
  "$" ++ toString (p.nextIndex + offset)

/-- The reference, if its number can be written. -/
def placeholder? (p : PredicateSet) (offset : Int) : Option String :=
  if isWritable (p.nextIndex + offset) then some (p.placeholder offset) else none

/-- Whether references to the next `count` values can be written. -/
def canRefer (p : PredicateSet) (count : Nat) : Bool :=
  areWritable p.nextIndex count

/-- Binds values without a fragment. -/
def bind (p : PredicateSet) (values : List Value) : PredicateSet :=
  { p with values := p.values ++ values, nextIndex := p.nextIndex + values.length }

/-- Adds a fragment and binds its values after the ones there are. -/
def append (p : PredicateSet) (fragment : String) (values : List Value) : PredicateSet :=
  { p.bind values with fragments := p.fragments ++ [fragment] }

/-- All fragments have to hold. -/
def condition (p : PredicateSet) : String :=
  String.intercalate " AND " p.fragments

/-- The WHERE clause; none without fragments. -/
def whereClause (p : PredicateSet) : String :=
  if p.fragments.isEmpty then "" else "WHERE " ++ p.condition

/-- Whether two sets have the same fragments and numbering and equal values; unknown if the
equality of the values is. -/
def same? (p q : PredicateSet) : Option Bool :=
  if p.fragments = q.fragments then
    (Value.sameItems? p.values q.values).map (· && p.nextIndex == q.nextIndex)
  else some false

end PredicateSet

end CatalogSearch
