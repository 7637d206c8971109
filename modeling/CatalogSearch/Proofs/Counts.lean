import Mathlib.Data.List.Induction
import Mathlib.Data.Nat.Digits.Defs
import CatalogSearch.Proofs.Normalization

/-!
# The texts that are read as counts

Limit and offset are written as counts: one to nineteen decimal digits, whose number has to fit the
store. Reading them takes exactly these texts, each also with one line feed behind it, and gives the
number that the digits write; any other text is refused under the name of its parameter.

* `IsCount`: digits and their number.
* `ReadsAs`: the texts that are taken for a number.
* `Parameters.parseCount_exact`: reading accepts these texts and no others.
* `Parameters.parseCount_line_feed`: the line feed is no digit.
-/

namespace CatalogSearch

/-! ### Digits and their numbers -/

/-- The text of decimal digits, the highest first. -/
def digitText (ds : List Nat) : String := String.ofList (ds.map Nat.digitChar)

/-- A decimal digit is the character of its value. -/
theorem digitChar_of_isDigit {c : Char} (h : c.isDigit = true) :
    c.toNat - 48 < 10 ∧ Nat.digitChar (c.toNat - 48) = c := by
  have hc : 48 ≤ c.toNat ∧ c.toNat ≤ 57 := Char.isDigit_iff_toNat.1 h
  have hlt : c.toNat - 48 < 10 := by omega
  refine ⟨hlt, Char.toNat_inj.1 ?_⟩
  rw [Nat.toNat_digitChar_of_lt_ten hlt]
  omega

theorem isDigit_of_mem_digits {ds : List Nat} (h : ∀ d ∈ ds, d < 10) :
    ∀ c ∈ ds.map Nat.digitChar, c.isDigit = true := by
  intro c hc
  obtain ⟨d, hd, rfl⟩ := List.mem_map.1 hc
  rw [Nat.isDigit_digitChar]
  exact decide_eq_true (h d hd)

/-- **Characters of digits write their number in base ten**: the last one counts once. -/
theorem ofDigitChars_digits {ds : List Nat} (h : ∀ d ∈ ds, d < 10) :
    Nat.ofDigitChars 10 (ds.map Nat.digitChar) 0 = Nat.ofDigits 10 ds.reverse := by
  -- from the end: a digit more multiplies the number in front of it by ten
  induction ds using List.reverseRecOn with
  | nil => rfl
  | append_singleton ds d ih =>
    rw [List.forall_mem_append, List.forall_mem_singleton] at h
    have hd : (Nat.digitChar d).toNat - '0'.toNat = d := by
      rw [Nat.toNat_digitChar_of_lt_ten h.2]
      exact Nat.add_sub_cancel_left 48 d
    rw [List.map_append, Nat.ofDigitChars_append, ih h.1, List.map_singleton,
      Nat.ofDigitChars_cons, hd, List.reverse_append, List.reverse_singleton,
      List.singleton_append, Nat.ofDigits_cons]
    exact Nat.add_comm _ _

/-- A run of digit characters is the text of its values. -/
theorem map_digitChar_of_isDigit {cs : List Char} (h : ∀ c ∈ cs, c.isDigit = true) :
    (∀ d ∈ cs.map (·.toNat - 48), d < 10) ∧ (cs.map (·.toNat - 48)).map Nat.digitChar = cs := by
  constructor
  · intro d hd
    obtain ⟨c, hc, rfl⟩ := List.mem_map.1 hd
    exact (digitChar_of_isDigit (h c hc)).1
  · rw [List.map_map]
    exact (List.map_congr_left fun c hc => (digitChar_of_isDigit (h c hc)).2).trans
      (List.map_id cs)

/-! ### Counts -/

/-- **A count**: one to nineteen decimal digits, the highest first, and the number that they write,
which fits the store. -/
structure IsCount (ds : List Nat) (n : Nat) : Prop where
  decimal : ∀ d ∈ ds, d < 10
  least : 1 ≤ ds.length
  most : ds.length ≤ 19
  number : n = Nat.ofDigits 10 ds.reverse
  fits : n ≤ 2 ^ 63 - 1

/-- **The texts that are taken for a number**: a count, and a line feed at most behind it. -/
def ReadsAs (raw : String) (n : Nat) : Prop :=
  ∃ ds ending, IsCount ds n ∧ ending ∈ ["", "\n"] ∧ raw = digitText ds ++ ending

namespace Parameters

theorem maxCount_eq : maxCount = 2 ^ 63 - 1 := rfl

/-- What the reader looks at: the digits that are left of a text, and their number. -/
theorem readsAs_iff {raw : String} {n : Nat} :
    ReadsAs raw n ↔ ∃ cs, dropFinalNewline raw.toList = cs ∧ cs ≠ [] ∧ cs.length ≤ 19 ∧
      (∀ c ∈ cs, c.isDigit = true) ∧ n = Nat.ofDigitChars 10 cs 0 ∧ n ≤ maxCount := by
  have hleft : ∀ cs : List Char, (∀ c ∈ cs, c.isDigit = true) →
      (dropFinalNewline raw.toList = cs ↔
        ∃ ending ∈ ["", "\n"], raw = String.ofList cs ++ ending) :=
    fun cs hcs => dropFinalNewline_toList_iff fun hn => nomatch hcs _ hn
  rw [maxCount_eq]
  constructor
  · rintro ⟨ds, ending, ⟨hdecimal, hleast, hmost, hnumber, hfits⟩, hending, hraw⟩
    have hdigits := isDigit_of_mem_digits hdecimal
    refine ⟨ds.map Nat.digitChar, (hleft _ hdigits).2 ⟨ending, hending, hraw⟩, ?_, ?_, hdigits,
      ?_, hfits⟩
    · exact List.ne_nil_of_length_pos (by rw [List.length_map]; exact hleast)
    · rw [List.length_map]
      exact hmost
    · rw [ofDigitChars_digits hdecimal]
      exact hnumber
  · rintro ⟨cs, hcs, hne, hmost, hdigits, hnumber, hfits⟩
    obtain ⟨hdecimal, htext⟩ := map_digitChar_of_isDigit hdigits
    obtain ⟨ending, hending, hraw⟩ := (hleft cs hdigits).1 hcs
    have hcount : IsCount (cs.map (·.toNat - 48)) n := {
      decimal := hdecimal
      least := by rw [List.length_map]; exact List.length_pos_iff.2 hne
      most := by rw [List.length_map]; exact hmost
      number := by rw [← ofDigitChars_digits hdecimal, htext]; exact hnumber
      fits := hfits }
    refine ⟨_, ending, hcount, hending, ?_⟩
    rw [digitText, htext]
    exact hraw

theorem parseCount_eq_ok_iff {raw field : String} {fallback v : Value} (hraw : raw ≠ "") :
    parseCount raw field fallback = .ok v ↔ ∃ n : Nat, v = .int n ∧ ReadsAs raw n := by
  -- both sides now speak of what is left of the text, so that it can be any list
  simp only [readsAs_iff, exists_eq_left']
  unfold parseCount
  rw [if_neg hraw]
  dsimp only
  generalize dropFinalNewline raw.toList = cs
  by_cases hform : cs = [] ∨ 19 < cs.length ∨ !cs.all Char.isDigit
  · rw [if_pos hform]
    refine iff_of_false nofun ?_
    rintro ⟨n, -, hne, hmost, hdigits, -⟩
    simp only [Bool.not_eq_true', List.all_eq_false] at hform
    obtain h | h | ⟨c, hc, h⟩ := hform
    · exact hne h
    · omega
    · exact h (hdigits c hc)
  · rw [if_neg hform]
    simp only [not_or, Bool.not_eq_true, Bool.not_eq_false', List.all_eq_true] at hform
    obtain ⟨hne, hmost, hdigits⟩ := hform
    by_cases hfits : maxCount < Nat.ofDigitChars 10 cs 0
    · rw [if_pos hfits]
      refine iff_of_false nofun ?_
      rintro ⟨n, -, -, -, -, rfl, hle⟩
      omega
    · rw [if_neg hfits, Except.ok.injEq]
      constructor
      · rintro rfl
        exact ⟨_, rfl, hne, by omega, hdigits, rfl, by omega⟩
      · rintro ⟨n, rfl, -, -, -, rfl, -⟩
        rfl

/-- A number that fits the store can be written. -/
theorem isWritable_of_le_maxCount {n : Nat} (h : n ≤ maxCount) : isWritable n = true := by
  refine isWritable_of_lt (Nat.lt_of_le_of_lt ?_ (by decide : maxCount < Nat.pow 10 20))
  rwa [Int.natAbs_natCast]

/-- What is read is the default of an empty text, or a number that fits the store. -/
theorem parseCount_ok {raw field : String} {fallback v : Value}
    (h : parseCount raw field fallback = .ok v) :
    raw = "" ∧ v = fallback ∨ ∃ n : Nat, v = .int n ∧ n ≤ maxCount := by
  by_cases hraw : raw = ""
  · unfold parseCount at h
    rw [if_pos hraw] at h
    exact Or.inl ⟨hraw, (Except.ok.inj h).symm⟩
  · obtain ⟨n, hv, hn⟩ := (parseCount_eq_ok_iff hraw).1 h
    obtain ⟨_, -, -, -, -, -, hfits⟩ := readsAs_iff.1 hn
    exact Or.inr ⟨n, hv, hfits⟩

/-- **Counts are read exactly**: a text that is not empty gives a number iff it is a count, with a
line feed at most behind it, and then the number that its digits write. Any other text is refused
by the name of its parameter, and nothing else comes of it. -/
theorem parseCount_exact {raw : String} (field : String) (fallback : Value) (hraw : raw ≠ "") :
    (∀ v, parseCount raw field fallback = .ok v ↔ ∃ n : Nat, v = .int n ∧ ReadsAs raw n) ∧
      ((¬ ∃ n, ReadsAs raw n) → ∃ why, parseCount raw field fallback = .error why ∧
        why.toError = .invalidRequest field why.message) := by
  refine ⟨fun v => parseCount_eq_ok_iff hraw, fun hno => ?_⟩
  cases hread : parseCount raw field fallback with
  | ok v =>
    obtain ⟨n, -, hn⟩ := (parseCount_eq_ok_iff hraw).1 hread
    exact absurd ⟨n, hn⟩ hno
  | error why =>
    refine ⟨why, rfl, ?_⟩
    rw [Rejection.toError, (parseCount_error hread).2]

/-- The largest offset that the store takes, all nineteen digits of it. -/
theorem parseCount_exact_largest :
    "9223372036854775807" ≠ "" ∧
      parseCount "9223372036854775807" "offset" (.int 0) = .ok (.int 9223372036854775807) := by
  have hraw : "9223372036854775807" ≠ "" := by decide
  refine ⟨hraw, ((parseCount_exact "offset" (.int 0) hraw).1 _).2 ⟨9223372036854775807, rfl, ?_⟩⟩
  exact ⟨[9, 2, 2, 3, 3, 7, 2, 0, 3, 6, 8, 5, 4, 7, 7, 5, 8, 0, 7], "",
    ⟨by decide, by decide, by decide, by decide, by decide⟩, by decide, by decide⟩

/-- **A line feed is read over**, though a text with one is no count. -/
theorem parseCount_line_feed :
    parseCount "5\n" "limit" (.int 20) = .ok (.int 5) ∧
      ¬ ∃ ds n, IsCount ds n ∧ "5\n" = digitText ds := by
  refine ⟨rfl, ?_⟩
  rintro ⟨ds, n, hcount, htext⟩
  have hmem : '\n' ∈ ds.map Nat.digitChar := by
    rw [← String.toList_ofList (l := ds.map Nat.digitChar), ← digitText, ← htext]
    decide
  exact nomatch isDigit_of_mem_digits hcount.decimal _ hmem

end Parameters

end CatalogSearch
