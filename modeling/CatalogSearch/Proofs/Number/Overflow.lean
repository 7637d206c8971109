import Mathlib.Algebra.Group.Nat.Defs
import CatalogSearch.Value.Conversion

/-!
# Whole numbers beyond floating point

A whole number becomes the nearest number of the format. The largest finite one is 2¹⁰²⁴ − 2⁹⁷¹,
and half a step above it the tie goes to the even neighbour, which would be 2¹⁰²⁴. So the whole
numbers that are refused are those from 2¹⁰²⁴ − 2⁹⁷⁰ on, of either sign.

* `Magnitude.ofRatio?_one_eq_none_iff`: the bound, for numbers without a sign.
* `Value.isFiniteNumber_eq_error_iff`: the values of which it cannot be told whether they are
  finite.
* `Value.IsFinite`: the values of which it can.
-/

namespace CatalogSearch

namespace Magnitude

/-- **The least whole number that rounds beyond the largest finite one.** -/
def overflowBound : Nat := 2 ^ 1024 - 2 ^ 970

theorem ofParts?_eq_none_iff {mantissa scale : Nat} (h : mantissa < 2 ^ 53) :
    ofParts? mantissa scale = none ↔ 2045 < scale := by
  unfold ofParts?
  by_cases hs : scale ≤ 2045
  · rw [dif_pos ⟨h, hs⟩]
    exact iff_of_false nofun (by omega)
  · rw [dif_neg fun hc => hs hc.2]
    exact iff_of_true rfl (by omega)

/-- The scale that leaves 53 bits of a number; small numbers keep all of theirs. -/
theorem binade (v : Nat) :
    v < 2 ^ 53 * 2 ^ (v.log2 - 52) ∧ (v.log2 - 52 = 0 ∨ 2 ^ 52 * 2 ^ (v.log2 - 52) ≤ v) := by
  constructor
  · rw [← Nat.pow_add]
    exact Nat.lt_of_lt_of_le Nat.lt_log2_self (Nat.pow_le_pow_right (by decide) (by omega))
  · by_cases hlog : v.log2 ≤ 52
    · exact Or.inl (by omega)
    · have hv : v ≠ 0 := by rintro rfl; simp at hlog
      right
      rw [← Nat.pow_add, show 52 + (v.log2 - 52) = v.log2 by omega]
      exact Nat.log2_self_le hv

theorem roundHalfEven_cases (num den : Nat) :
    roundHalfEven num den = num / den ∨ roundHalfEven num den = num / den + 1 := by
  unfold roundHalfEven
  dsimp only
  split
  · exact Or.inr rfl
  · exact Or.inl rfl

/-- Above an odd number, the middle and what follows it are rounded up. -/
theorem roundHalfEven_of_odd {num den : Nat} (hodd : num / den % 2 = 1) :
    roundHalfEven num den = num / den + 1 ↔ den ≤ 2 * (num % den) := by
  unfold roundHalfEven
  dsimp only
  split <;> omega

/-- Below the end of a binade, only the last half step is rounded up to it. -/
theorem roundHalfEven_eq_iff {v half : Nat} (hhalf : 0 < half) (hv : v < 2 ^ 53 * (2 * half)) :
    roundHalfEven v (2 * half) = 2 ^ 53 ↔ (2 ^ 54 - 1) * half ≤ v := by
  have hdiv := Nat.div_add_mod v (2 * half)
  have hmod := Nat.mod_lt v (y := 2 * half) (by omega)
  have hq : v / (2 * half) < 2 ^ 53 := (Nat.div_lt_iff_lt_mul (by omega)).2 hv
  have hodd : v / (2 * half) % 2 = 1 →
      (roundHalfEven v (2 * half) = v / (2 * half) + 1 ↔ 2 * half ≤ 2 * (v % (2 * half))) :=
    roundHalfEven_of_odd
  have hcases := roundHalfEven_cases v (2 * half)
  generalize roundHalfEven v (2 * half) = mantissa at *
  generalize v / (2 * half) = q at *
  generalize v % (2 * half) = rest at *
  by_cases hlast : q = 2 ^ 53 - 1
  · subst hlast
    omega
  · have hle : 2 * half * q ≤ 2 * half * (2 ^ 53 - 2) := Nat.mul_le_mul_left _ (by omega)
    omega

/-- What decides is the scale, after a carry if the mantissa is rounded to 54 bits. -/
theorem ofRatio?_one_eq_none_iff_scale {n v scale : Nat} (hv : v = n * unit)
    (hs : scale = v.log2 - 52) :
    ofRatio? n 1 = none ↔
      2045 < scale ∨ scale = 2045 ∧ roundHalfEven v (2 ^ scale) = 2 ^ 53 := by
  have hr : ofRatio? n 1 =
      if roundHalfEven v (2 ^ scale) < 2 ^ 53 then ofParts? (roundHalfEven v (2 ^ scale)) scale
      else ofParts? (roundHalfEven v (2 ^ scale) / 2) (scale + 1) := by
    unfold ofRatio?
    simp only [Nat.div_one, Nat.one_mul, ← hv, ← hs]
    rfl
  have hhigh := (binade v).1
  rw [← hs] at hhigh
  have hq : v / 2 ^ scale < 2 ^ 53 := (Nat.div_lt_iff_lt_mul (Nat.two_pow_pos _)).2 hhigh
  have hcases := roundHalfEven_cases v (2 ^ scale)
  rw [hr]
  generalize roundHalfEven v (2 ^ scale) = mantissa at hcases ⊢
  by_cases hlt : mantissa < 2 ^ 53
  · rw [if_pos hlt, ofParts?_eq_none_iff hlt]
    omega
  · rw [if_neg hlt, ofParts?_eq_none_iff (by omega)]
    omega

theorem unit_eq : unit = 2 ^ 1074 := by
  unfold unit
  generalize 1074 = e
  exact Nat.pow_eq

theorem sub_pow_le_iff (b e n : Nat) :
    2 ^ (b + 54) - 2 ^ b ≤ n ↔ (2 ^ 54 - 1) * 2 ^ (b + e) ≤ n * 2 ^ e := by
  have h : (2 ^ (b + 54) - 2 ^ b) * 2 ^ e = (2 ^ 54 - 1) * 2 ^ (b + e) := by
    rw [Nat.pow_add 2 b 54, Nat.pow_add 2 b e, ← Nat.mul_sub_one, ← Nat.mul_assoc,
      Nat.mul_comm (2 ^ b)]
  rw [← h]
  exact (Nat.mul_le_mul_right_iff (Nat.two_pow_pos e)).symm

/-- In quanta, the bound is half a step below the end of the last binade. -/
theorem overflowBound_le_iff (n : Nat) :
    overflowBound ≤ n ↔ (2 ^ 54 - 1) * 2 ^ 2044 ≤ n * unit := by
  have h := sub_pow_le_iff 970 1074 n
  simp only [Nat.reduceAdd] at h
  rw [overflowBound, unit_eq]
  exact h

/-- **Rounding a whole number** fails from the bound on, and only from there. -/
theorem ofRatio?_one_eq_none_iff (n : Nat) : ofRatio? n 1 = none ↔ overflowBound ≤ n := by
  rw [overflowBound_le_iff, ofRatio?_one_eq_none_iff_scale rfl rfl]
  obtain ⟨hhigh, hlow⟩ := binade (n * unit)
  generalize n * unit = v at hlow hhigh ⊢
  generalize v.log2 - 52 = p at hlow hhigh ⊢
  have hmono : ∀ {a b : Nat}, a ≤ b → (2 : Nat) ^ a ≤ 2 ^ b := Nat.pow_le_pow_right (by decide)
  have hstep : ∀ k, (2 : Nat) ^ (k + 1) = 2 * 2 ^ k := fun _ => Nat.pow_succ'
  obtain ⟨k, hk⟩ : ∃ k, k = 2044 := ⟨_, rfl⟩
  rw [← hk, show 2045 = k + 1 by omega]
  rcases Nat.lt_trichotomy p (k + 1) with hp | rfl | hp
  · -- below the last scale the number is below the last binade
    have hle : 2 ^ p ≤ 2 ^ k := hmono (by omega)
    omega
  · -- in the last binade it may still be rounded up
    rw [hstep k] at hhigh ⊢
    rw [← roundHalfEven_eq_iff (Nat.two_pow_pos k) hhigh]
    omega
  · have hle : 2 ^ (k + 2) ≤ 2 ^ p := hmono hp
    rw [hstep (k + 1), hstep k] at hle
    omega

end Magnitude

namespace Value

theorem isFiniteNumber_int (i : Int) :
    (int i).isFiniteNumber =
      if Magnitude.overflowBound ≤ i.natAbs then .error .tooLarge else .ok true := by
  have h : (Binary64.ofInt? i).isSome = true ↔ ¬ Magnitude.overflowBound ≤ i.natAbs := by
    rw [← Magnitude.ofRatio?_one_eq_none_iff, Binary64.ofInt?, Option.isSome_map,
      Option.isSome_iff_ne_none]
  rw [isFiniteNumber]
  by_cases hi : Magnitude.overflowBound ≤ i.natAbs
  · rw [if_pos hi, if_neg (fun hs => h.1 hs hi)]
  · rw [if_neg hi, if_pos (h.2 hi)]

/-- **Whether a value is finite cannot be told** of whole numbers from the bound on. -/
theorem isFiniteNumber_eq_error_iff {v : Value} {why : FloatRefusal} :
    v.isFiniteNumber = .error why ↔
      why = .tooLarge ∧ ∃ i, v = int i ∧ Magnitude.overflowBound ≤ i.natAbs := by
  cases v with
  | int i =>
    rw [isFiniteNumber_int]
    split <;> simp_all [eq_comm]
  | _ => simp [isFiniteNumber]

/-- **A finite number**: a whole number that does not round beyond the largest one, or a
floating-point number. Truth values are none. -/
inductive IsFinite : Value → Prop where
  | int {i : Int} (bounded : i.natAbs < Magnitude.overflowBound) : IsFinite (int i)
  | float {x : Binary64} (finite : x.isFinite = true) : IsFinite (float x)

theorem isFinite_of_isFiniteNumber {v : Value} (h : v.isFiniteNumber = .ok true) : IsFinite v := by
  cases v with
  | int i =>
    rw [isFiniteNumber_int] at h
    split at h
    · exact nomatch h
    · exact .int (by omega)
  | float x => exact .float (Except.ok.inj h)
  | _ => simp [isFiniteNumber] at h

end Value

end CatalogSearch
