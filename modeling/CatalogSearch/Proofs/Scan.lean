import Mathlib.Data.List.Sort
import CatalogSearch.Proofs.Template

/-!
# Placeholders found in a template

The scan for placeholders sees characters only. On the text of a `Clean` template it finds the
template's own references and nothing else: fixed text has no dollar sign, and no digit follows a
number. Negative numbers are written with a sign between dollar and digits, so they are not seen.

* `runs_text`: the runs of digits found are those of the references.
* `mem_numbers_text`: a number is found iff it is referred to.
* `check_text`: the outcome of the check.
-/

namespace CatalogSearch

open Text

namespace Placeholder

/-- The digits with which a number is written. -/
def digitsOf (n : Nat) : List Nat := (Nat.toDigits 10 n).map (·.toNat - 48)

theorem digitValue?_of_isDigit {c : Char} (h : c.isDigit = true) :
    digitValue? c = some (c.toNat - 48) := by
  have h1 : 48 ≤ c.toNat ∧ c.toNat < 48 + 10 := by
    rw [Char.isDigit, Bool.and_eq_true, decide_eq_true_iff, decide_eq_true_iff] at h
    exact ⟨h.1, Nat.lt_succ_of_le h.2⟩
  unfold digitValue? digitZeros
  rw [List.find?_cons_of_pos (by simpa using h1)]
  rfl

theorem leadingDigits_append {cs : List Char} (h : ∀ c ∈ cs, c.isDigit = true) (rest : List Char) :
    leadingDigits (cs ++ rest) = cs.map (·.toNat - 48) ++ leadingDigits rest := by
  induction cs with
  | nil => rfl
  | cons c cs ih =>
    simp only [List.forall_mem_cons] at h
    rw [List.cons_append, leadingDigits, digitValue?_of_isDigit h.1, ih h.2]
    rfl

theorem leadingDigits_append_of_nil {cs : List Char} (hne : cs ≠ []) (h : leadingDigits cs = [])
    (rest : List Char) : leadingDigits (cs ++ rest) = [] := by
  cases cs with
  | nil => exact absurd rfl hne
  | cons c cs =>
    rw [leadingDigits] at h
    rw [List.cons_append, leadingDigits]
    cases hd : digitValue? c with
    | none => rfl
    | some d => rw [hd] at h; simp at h

/-- Text without a dollar sign is passed over. -/
theorem runs_append_of_notMem {cs : List Char} (h : '$' ∉ cs) (rest : List Char) :
    runs (cs ++ rest) = runs rest := by
  induction cs with
  | nil => rfl
  | cons c cs ih =>
    simp only [List.mem_cons, not_or] at h
    rw [List.cons_append, runs, if_neg (fun hc => h.1 hc.1.symm), ih h.2]

theorem digitsOf_ne_nil (n : Nat) : digitsOf n ≠ [] := by simp [digitsOf]

theorem numberOfDigits_digitsOf (n : Nat) : numberOfDigits (digitsOf n) = n := by
  unfold numberOfDigits digitsOf
  rw [List.foldl_map]
  exact Nat.ofDigitChars_ten_toDigits

theorem length_digitsOf_le {n : Nat} (h : isWritable n = true) :
    (digitsOf n).length ≤ digitLimit := by
  have hk : 0 < digitLimit := by decide +kernel
  unfold isWritable at h
  unfold digitsOf
  -- the power is not to be computed
  generalize digitLimit = k at h hk ⊢
  rw [List.length_map, Nat.length_toDigits_le_iff (by decide) hk]
  simpa using h

/-- **A reference is found in full**, unless its number is negative. -/
theorem runs_ref (n : Int) {rest : List Char} (h : leadingDigits rest = []) :
    runs ((Piece.ref n).text.toList ++ rest) =
      (if 0 ≤ n then [digitsOf n.toNat] else []) ++ runs rest := by
  rw [Piece.toList_text_ref, Int.toString_eq_repr, Int.repr_eq_if]
  by_cases hn : 0 ≤ n
  · have hd : ∀ c ∈ Nat.toDigits 10 n.toNat, c.isDigit = true := fun c hc =>
      Nat.isDigit_of_mem_toDigits (by decide) (by decide) hc
    have hl : leadingDigits (Nat.toDigits 10 n.toNat ++ rest) = digitsOf n.toNat := by
      rw [leadingDigits_append hd, h, List.append_nil]; rfl
    have hz : '$' ∉ Nat.toDigits 10 n.toNat := fun hc => by have := hd _ hc; simp at this
    rw [if_pos hn, if_pos hn, Nat.toList_repr, List.cons_append, runs, hl,
      if_pos ⟨rfl, digitsOf_ne_nil _⟩, runs_append_of_notMem hz]
    rfl
  · have hz : '$' ∉ Nat.toDigits 10 (-n).toNat := fun hc => by
      have := Nat.isDigit_of_mem_toDigits (by decide) (by decide) hc; simp at this
    have hl : leadingDigits ('-' :: (Nat.toDigits 10 (-n).toNat ++ rest)) = [] := rfl
    rw [if_neg hn, if_neg hn, String.toList_append, Nat.toList_repr]
    simp only [String.reduceToList, List.cons_append, List.nil_append]
    rw [runs, if_neg (fun hc => hc.2 hl), runs, if_neg (by simp), runs_append_of_notMem hz]

end Placeholder

open Placeholder

/-- Fixed text that neither holds a reference nor goes on with the number of one before it. -/
def Piece.Clean : Piece → Prop
  | .fixed s => '$' ∉ s.toList ∧ s.toList ≠ [] ∧ leadingDigits s.toList = []
  | .ref _ => True

instance : DecidablePred Piece.Clean
  | .fixed s =>
    inferInstanceAs (Decidable ('$' ∉ s.toList ∧ s.toList ≠ [] ∧ leadingDigits s.toList = []))
  | .ref _ => .isTrue trivial

/-- Whatever has no dollar sign may follow clean text. -/
theorem Piece.Clean.append {a b : String} (ha : (Piece.fixed a).Clean) (hb : '$' ∉ b.toList) :
    (Piece.fixed (a ++ b)).Clean := by
  obtain ⟨h1, h2, h3⟩ := ha
  refine ⟨?_, ?_, ?_⟩
  · rw [String.toList_append, List.mem_append]; exact not_or.2 ⟨h1, hb⟩
  · rw [String.toList_append]; simp [h2]
  · rw [String.toList_append]; exact leadingDigits_append_of_nil h2 h3 _

namespace Template

/-- All pieces are clean. -/
def Clean (t : Template) : Prop := ∀ x ∈ t, x.Clean

variable {t u : Template}

@[simp] theorem clean_nil : Clean [] := by simp [Clean]

@[simp] theorem clean_ref {n : Int} : Clean (.ref n :: t) ↔ t.Clean := by
  simp [Clean, Piece.Clean]

@[simp] theorem clean_fixed {s : String} :
    Clean (.fixed s :: t) ↔ (Piece.fixed s).Clean ∧ t.Clean := by
  simp [Clean]

@[simp] theorem clean_append : Clean (t ++ u) ↔ t.Clean ∧ u.Clean := by
  simp [Clean, or_imp, forall_and]

/-- Clean text keeps digits that follow away from what is in front of it. -/
theorem leadingDigits_text_fixed {s : String} (hs : (Piece.fixed s).Clean) (t : Template) :
    leadingDigits (text (.fixed s :: t)).toList = [] := by
  rw [text_cons, String.toList_append]
  exact leadingDigits_append_of_nil hs.2.1 hs.2.2 _

theorem Clean.leadingDigits_text (h : t.Clean) : leadingDigits t.text.toList = [] := by
  cases t with
  | nil => simp [leadingDigits]
  | cons x t =>
    cases x with
    | fixed s => exact leadingDigits_text_fixed (clean_fixed.1 h).1 t
    | ref n =>
      rw [text_cons, String.toList_append, Piece.toList_text_ref]
      rfl

/-- **The scan of a clean template finds its references.** -/
theorem Clean.runs_text (h : t.Clean) :
    runs t.text.toList = (t.refs.filter (0 ≤ ·)).map fun n => digitsOf n.toNat := by
  induction t with
  | nil => rw [text_nil]; rfl
  | cons x t ih =>
    have ht : Clean t := fun y hy => h y (List.mem_cons_of_mem _ hy)
    have hx := h x List.mem_cons_self
    rw [text_cons, String.toList_append]
    cases x with
    | fixed s => rw [Piece.text_fixed, runs_append_of_notMem hx.1, ih ht, refs_fixed]
    | ref n =>
      rw [runs_ref n ht.leadingDigits_text, ih ht, refs_ref]
      by_cases hn : 0 ≤ n <;> simp [hn]

end Template

namespace Placeholder

theorem mem_insert {m n : Nat} {ns : List Nat} : m ∈ insert n ns ↔ m = n ∨ m ∈ ns := by
  induction ns with
  | nil => simp [insert]
  | cons k ns ih =>
    unfold insert
    split
    · simp
    · split
      · rename_i h; subst h; simp
      · rw [List.mem_cons, ih, List.mem_cons]; tauto

/-- Inserting keeps a list ascending. -/
theorem pairwise_insert (n : Nat) {ns : List Nat} (h : ns.Pairwise (· < ·)) :
    (insert n ns).Pairwise (· < ·) := by
  induction ns with
  | nil => simp [insert]
  | cons k ns ih =>
    rw [List.pairwise_cons] at h
    unfold insert
    split
    · rename_i hn
      refine List.pairwise_cons.2 ⟨?_, List.pairwise_cons.2 h⟩
      intro m hm
      rcases List.mem_cons.1 hm with rfl | hm
      · exact hn
      · exact hn.trans (h.1 m hm)
    · split
      · exact List.pairwise_cons.2 h
      · refine List.pairwise_cons.2 ⟨?_, ih h.2⟩
        intro m hm
        rcases mem_insert.1 hm with rfl | hm
        · omega
        · exact h.1 m hm

theorem pairwise_numbers (sql : String) : (numbers sql).Pairwise (· < ·) := by
  have h : ∀ (ds : List (List Nat)) (ns : List Nat), ns.Pairwise (· < ·) →
      (ds.foldl (fun ns d => insert (numberOfDigits d) ns) ns).Pairwise (· < ·) := by
    intro ds
    induction ds with
    | nil => intro ns h; exact h
    | cons d ds ih => intro ns h; exact ih _ (pairwise_insert _ h)
  exact h _ _ List.Pairwise.nil

theorem mem_numbers {sql : String} {n : Nat} :
    n ∈ numbers sql ↔ ∃ ds ∈ runs sql.toList, numberOfDigits ds = n := by
  have h : ∀ (ds : List (List Nat)) (ns : List Nat),
      n ∈ ds.foldl (fun ns d => insert (numberOfDigits d) ns) ns ↔
        (∃ d ∈ ds, numberOfDigits d = n) ∨ n ∈ ns := by
    intro ds
    induction ds with
    | nil => intro ns; simp
    | cons d ds ih =>
      intro ns
      rw [List.foldl_cons, ih, mem_insert, List.exists_mem_cons_iff, or_left_comm, or_assoc,
        eq_comm]
  simpa [numbers] using h (runs sql.toList) []

/-- The numbers are those from one to `k` iff they have the same members. -/
theorem numbers_eq_range_iff {sql : String} {k : Nat} :
    numbers sql = List.range' 1 k ↔ ∀ n, n ∈ numbers sql ↔ 1 ≤ n ∧ n ≤ k := by
  have hr : ∀ n, n ∈ List.range' 1 k ↔ 1 ≤ n ∧ n ≤ k := by
    intro n; rw [List.mem_range'_1]; omega
  constructor
  · intro h n; rw [h, hr]
  · intro h
    exact (pairwise_numbers sql).eq_of_mem_iff List.pairwise_lt_range' fun n => by rw [h, hr]

variable {t : Template}

/-- **A number is found in a clean template iff it is referred to.** -/
theorem mem_numbers_text (h : t.Clean) {n : Nat} : n ∈ numbers t.text ↔ (n : Int) ∈ t.refs := by
  rw [mem_numbers, h.runs_text]
  constructor
  · rintro ⟨ds, hds, hn⟩
    obtain ⟨m, hm, rfl⟩ := List.mem_map.1 hds
    rw [List.mem_filter, decide_eq_true_iff] at hm
    rw [numberOfDigits_digitsOf] at hn
    rw [← hn, Int.toNat_of_nonneg hm.2]
    exact hm.1
  · intro hn
    refine ⟨digitsOf n, List.mem_map.2 ⟨n, ?_, rfl⟩, numberOfDigits_digitsOf n⟩
    rw [List.mem_filter, decide_eq_true_iff]
    exact ⟨hn, Int.natCast_nonneg n⟩

/-- **The check of a clean template** with numbers that can be written. -/
theorem check_text (h : t.Clean) (hw : ∀ n ∈ t.refs, isWritable n = true) (k : Nat) :
    check t.text k = if numbers t.text = List.range' 1 k then .ok ()
      else .error (.mismatch (numbers t.text) k) := by
  unfold check
  have hf : (runs t.text.toList).find? (digitLimit < ·.length) = none := by
    rw [h.runs_text, List.find?_eq_none]
    intro ds hds
    obtain ⟨n, hn, rfl⟩ := List.mem_map.1 hds
    have hl : (digitsOf n.toNat).length ≤ digitLimit := by
      apply length_digitsOf_le
      have := hw n (List.mem_of_mem_filter hn)
      simp only [isWritable, decide_eq_true_iff] at this ⊢
      omega
    simpa using hl
  rw [hf]

end Placeholder

end CatalogSearch
