import CatalogSearch.Number.Shortest

/-!
# The shape of number texts

A finite number is written with digits on both sides of a point, or with one digit in front of the
point and an exponent behind its digits. Whatever digits are found for it, nothing else than these
two shapes comes of laying them out, so no finite number is written as a word or as nothing.

* `IsNumeral`: the two shapes.
* `Magnitude.text_isNumeral`: every magnitude is written in one of them.
* `Binary64.text_of_isFinite`: so is every finite number, behind its sign.
* `Binary64.three_le_length_text`: the least that is written of one.
-/

namespace CatalogSearch

/-- Decimal digits, one of them at least. -/
structure IsDigits (cs : List Char) : Prop where
  nonempty : cs ≠ []
  decimal : ∀ c ∈ cs, c.isDigit = true

/-- **The text of a finite number** without its sign. -/
inductive IsNumeral : List Char → Prop where
  /-- Digits on both sides of a point. -/
  | positional {whole fraction : List Char} (before : IsDigits whole) (behind : IsDigits fraction) :
    IsNumeral (whole ++ '.' :: fraction)
  /-- A digit, a point and digits if there are more, and an exponent with its sign. -/
  | scientific {lead sign : Char} {fraction size : List Char} (first : lead.isDigit = true)
    (point : fraction = [] ∨ ∃ ds, IsDigits ds ∧ fraction = '.' :: ds)
    (signed : sign = '-' ∨ sign = '+') (exponent : IsDigits size) :
    IsNumeral (lead :: fraction ++ 'e' :: sign :: size)

theorem IsDigits.append {cs ds : List Char} (hcs : ∀ c ∈ cs, c.isDigit = true) (hds : IsDigits ds) :
    IsDigits (cs ++ ds) :=
  ⟨List.append_ne_nil_of_right_ne_nil _ hds.nonempty, List.forall_mem_append.2 ⟨hcs, hds.decimal⟩⟩

theorem isDigits_toDigits (n : Nat) : IsDigits (Nat.toDigits 10 n) :=
  ⟨Nat.toDigits_ne_nil, fun _ hc => Nat.isDigit_of_mem_toDigits (by decide) (by decide) hc⟩

theorem isDigit_of_mem_zeros {n : Nat} {c : Char} (h : c ∈ List.replicate n '0') :
    c.isDigit = true := by
  rw [List.eq_of_mem_replicate h]
  rfl

namespace IsNumeral

variable {cs : List Char}

/-- A numeral is written with digits, points, signs and the mark of the exponent only. -/
theorem isDigit_or_mem (h : IsNumeral cs) {c : Char} (hc : c ∈ cs) :
    c.isDigit = true ∨ c ∈ ['.', '-', '+', 'e'] := by
  cases h with
  | positional before behind =>
    rw [List.mem_append, List.mem_cons] at hc
    obtain hc | rfl | hc := hc
    · exact Or.inl (before.decimal c hc)
    · simp
    · exact Or.inl (behind.decimal c hc)
  | scientific first point signed exponent =>
    rw [List.cons_append, List.mem_cons, List.mem_append, List.mem_cons, List.mem_cons] at hc
    obtain rfl | hc | rfl | rfl | hc := hc
    · exact Or.inl first
    · obtain rfl | ⟨ds, hds, rfl⟩ := point
      · exact nomatch hc
      · obtain rfl | hc := List.mem_cons.1 hc
        · simp
        · exact Or.inl (hds.decimal c hc)
    · simp
    · obtain rfl | rfl := signed <;> simp
    · exact Or.inl (exponent.decimal c hc)

theorem ne_nil (h : IsNumeral cs) : cs ≠ [] := by
  cases h with
  | positional before _ => exact List.append_ne_nil_of_left_ne_nil before.nonempty _
  | scientific => exact List.cons_ne_nil _ _

/-- No numeral is shorter than a digit, a point and a digit. -/
theorem three_le_length (h : IsNumeral cs) : 3 ≤ cs.length := by
  cases h with
  | positional before behind =>
    have hbefore := List.length_pos_iff.2 before.nonempty
    have hbehind := List.length_pos_iff.2 behind.nonempty
    rw [List.length_append, List.length_cons]
    omega
  | scientific _ _ _ exponent =>
    have hexponent := List.length_pos_iff.2 exponent.nonempty
    rw [List.length_append, List.length_cons, List.length_cons, List.length_cons]
    omega

end IsNumeral

/-! ### Laying out digits -/

theorem isDigits_zero : IsDigits ['0'] := ⟨List.cons_ne_nil _ _, List.forall_mem_singleton.2 rfl⟩

theorem positional_isNumeral {ds : List Char} (h : IsDigits ds) (point : Int) :
    IsNumeral (positional ds point) := by
  unfold positional
  split
  · -- the point stands in front of the digits
    exact .positional isDigits_zero (.append (fun _ => isDigit_of_mem_zeros) h)
  · rename_i hpoint
    dsimp only
    split
    · -- the point stands behind the digits
      have hwhole : IsDigits (ds ++ List.replicate (point.toNat - ds.length) '0') :=
        ⟨List.append_ne_nil_of_left_ne_nil h.nonempty _,
          List.forall_mem_append.2 ⟨h.decimal, fun _ => isDigit_of_mem_zeros⟩⟩
      exact .positional hwhole isDigits_zero
    · -- the point stands among the digits
      rename_i hlength
      refine .positional ⟨?_, ?_⟩ ⟨?_, ?_⟩
      · exact List.ne_nil_of_length_pos (by rw [List.length_take]; omega)
      · exact fun c hc => h.decimal c (List.mem_of_mem_take hc)
      · exact List.ne_nil_of_length_pos (by rw [List.length_drop]; omega)
      · exact fun c hc => h.decimal c (List.mem_of_mem_drop hc)

theorem scientific_isNumeral {d : Char} {ds : List Char} (h : IsDigits (d :: ds)) (exponent : Int) :
    IsNumeral (scientific d ds exponent) := by
  obtain ⟨hd, hds⟩ := List.forall_mem_cons.1 h.decimal
  unfold scientific
  refine .scientific hd ?_ (by split <;> simp)
    (.append (fun _ => isDigit_of_mem_zeros) (isDigits_toDigits _))
  by_cases hnil : ds = []
  · exact Or.inl (by rw [hnil]; rfl)
  · exact Or.inr ⟨ds, ⟨hnil, hds⟩, by rw [if_neg (by simpa using hnil)]⟩

namespace Magnitude

/-- However short, what is found for a magnitude are digits. -/
theorem isDigit_of_mem_digits (m : Magnitude) {c : Char} (h : c ∈ m.digits.1) :
    c.isDigit = true := by
  have hmem : c ∈ Nat.toDigits 10 (shortest m).1 :=
    List.mem_reverse.1 ((List.dropWhile_suffix _).subset (List.mem_reverse.1 h))
  exact (isDigits_toDigits _).decimal c hmem

/-- **Every magnitude is written as a numeral**, positionally or with an exponent. -/
theorem text_isNumeral (m : Magnitude) : IsNumeral m.text := by
  have hzero : IsNumeral (['0'] ++ '.' :: ['0']) := .positional isDigits_zero isDigits_zero
  have hdigits := fun c => m.isDigit_of_mem_digits (c := c)
  unfold text
  split
  · exact hzero
  · split
    · exact hzero
    · rename_i d ds point hd
      rw [hd] at hdigits
      have hds : IsDigits (d :: ds) := ⟨List.cons_ne_nil _ _, hdigits⟩
      split
      · exact positional_isNumeral hds point
      · exact scientific_isNumeral hds (point - 1)

end Magnitude

namespace Binary64

/-- **A finite number is written as a numeral**, a minus in front of it if it is negative. -/
theorem text_of_isFinite {x : Binary64} (h : x.isFinite = true) :
    ∃ cs, IsNumeral cs ∧ (x.text.toList = cs ∨ x.text.toList = '-' :: cs) := by
  cases x with
  | nan => exact nomatch h
  | infinite => exact nomatch h
  | finite negative m =>
    refine ⟨m.text, m.text_isNumeral, ?_⟩
    cases negative with
    | false => exact Or.inl String.toList_ofList
    | true => exact Or.inr String.toList_ofList

theorem three_le_length_text {x : Binary64} (h : x.isFinite = true) :
    3 ≤ x.text.toList.length := by
  obtain ⟨cs, hcs, htext⟩ := text_of_isFinite h
  have hlength := hcs.three_le_length
  obtain htext | htext := htext
  · rwa [htext]
  · rw [htext, List.length_cons]
    omega

end Binary64

end CatalogSearch
