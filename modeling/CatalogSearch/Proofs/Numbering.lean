import CatalogSearch.Proofs.Pieces
import CatalogSearch.Proofs.Scan

/-!
# Numbering of a statement

The statement of a request in an accepted language is a clean template, so the scan for placeholders
finds its references. Over the request's own filters these are consecutive numbers, one for each
parameter, whatever the number they start from.

* `Query.mem_of_isLanguage`: what an accepted language is made of.
* `Query.clean_ownStatement`: the statement of a request is clean.
* `Query.numbers_ownStatement_iff`: its numbers fit the parameters iff they start from one.
-/

namespace CatalogSearch

open Template Text

namespace Query

/-- A language that may stand in a statement is made of lower-case letters and underscores, and a
line feed at most. -/
theorem mem_of_isLanguage {s : String} (h : isLanguage s = true) {c : Char} (hc : c ∈ s.toList) :
    c = '\n' ∨ c = '_' ∨ 'a' ≤ c ∧ c ≤ 'z' := by
  unfold isLanguage at h
  simp only [Bool.and_eq_true, List.all_eq_true, Bool.or_eq_true, beq_iff_eq,
    decide_eq_true_eq] at h
  have hn : '\n' ∉ dropFinalNewline s.toList := fun hn => absurd (h.2 _ hn) (by decide)
  obtain hs | hs := (dropFinalNewline_eq_iff hn).1 rfl
  · rw [hs] at hc
    exact Or.inr (h.2 c hc)
  · rw [hs, List.mem_append, List.mem_singleton] at hc
    obtain hc | hc := hc
    · exact Or.inr (h.2 c hc)
    · exact Or.inl hc

theorem notMem_of_isLanguage {s : String} (h : isLanguage s = true) :
    '$' ∉ s.toList ∧ '\'' ∉ s.toList := by
  constructor
  all_goals
    intro hc
    rcases mem_of_isLanguage h hc with h | h | h
    · exact absurd h (by decide)
    · exact absurd h (by decide)
    · exact absurd h.1 (by decide)

theorem checkLanguage_eq_ok_iff {v : Value} {s : String} :
    checkLanguage v = .ok s ↔ v = .text s ∧ isLanguage s = true := by
  cases v with
  | text t =>
    unfold checkLanguage
    by_cases ht : isLanguage t = true
    · simp [ht]; rintro rfl; exact ht
    · simp [ht]; rintro rfl; simpa using ht
  | _ => simp [checkLanguage]

/-- No key of an order has a dollar sign, a line feed or a bracket in it. -/
theorem notMem_orderKeys (r : SearchRequest) {c : Char} (h : c ∈ ['$', '\n', '[']) :
    c ∉ (String.intercalate ", " (orderKeys r)).toList := by
  have hlast : '$' ∉ r.orderBy.toList ∧ '\n' ∉ r.orderBy.toList ∧ '[' ∉ r.orderBy.toList := by
    unfold SearchRequest.orderBy
    cases r.sortKey <;> cases r.sortDirection <;> decide
  simp only [List.mem_cons, List.not_mem_nil, or_false] at h
  unfold orderKeys
  obtain rfl | rfl | rfl := h <;> cases r.strategy <;> simp [hlast]

/-- The language stands between fixed texts. -/
theorem clean_between {language a b : String} (hl : isLanguage language = true)
    (ha : (Piece.fixed a).Clean) (hb : '$' ∉ b.toList) :
    (Piece.fixed (a ++ language ++ b)).Clean :=
  (ha.append (notMem_of_isLanguage hl).1).append hb

theorem clean_scoreTexts {language : String} (hl : isLanguage language = true) :
    ∀ s ∈ scoreTexts language, (Piece.fixed s).Clean := by
  simp only [scoreTexts, List.forall_mem_cons]
  exact ⟨by decide, by decide, clean_between hl (by decide) (by decide), by decide, by decide,
    by decide, by decide, by simp⟩

theorem clean_matchTexts {language : String} (hl : isLanguage language = true) :
    ∀ s ∈ matchTexts language, (Piece.fixed s).Clean := by
  simp only [matchTexts, List.forall_mem_cons]
  exact ⟨clean_between hl (by decide) (by decide), by decide, by decide,
    clean_between hl (by decide) (by decide), by simp⟩

theorem clean_orderText (r : SearchRequest) : (Piece.fixed (orderText r)).Clean :=
  (Piece.Clean.append (by decide) (notMem_orderKeys r (by decide))).append (by decide)

/-- **The statement of a request is clean**, in an accepted language. -/
theorem clean_ownStatement (r : SearchRequest) {language : String}
    (hl : isLanguage language = true) (n : Int) : (ownStatement r language n).Clean := by
  have hr : ∀ m, n ≤ m → (Piece.ref m).Clean := fun _ _ => trivial
  have hcolumns : (ownColumns r language n).Clean :=
    forall_ownColumns r (List.forall_mem_cons.2 ⟨by decide, clean_scoreTexts hl⟩) hr
  have hwhere : (whereTemplate (ownTests r language n)).Clean :=
    forall_whereTemplate (by decide) (by decide)
      (forall_ownTests r (List.forall_mem_append.2 ⟨by decide, clean_matchTexts hl⟩) hr)
  rw [ownStatement_eq]
  simp only [List.cons_append, clean_fixed, clean_append, clean_ref]
  exact ⟨by decide, ⟨hcolumns, hwhere⟩, clean_orderText r, by decide, clean_nil⟩

/-- The numbers found are those from one to the last parameter iff the numbering starts at one. -/
theorem numbers_ownStatement_iff (r : SearchRequest) {language : String}
    (hl : isLanguage language = true) (n : Int) :
    Placeholder.numbers (ownStatement r language n).text = List.range' 1 (paramCount r) ↔
      n = 1 := by
  have hk : 2 ≤ paramCount r := by unfold paramCount; omega
  rw [Placeholder.numbers_eq_range_iff]
  constructor
  · intro h
    have h0 := h 0
    have h1 := h 1
    rw [Placeholder.mem_numbers_text (clean_ownStatement r hl n), mem_refs_ownStatement] at h0 h1
    -- one is found, so the numbering starts at one or below, and zero is not found
    omega
  · rintro rfl m
    rw [Placeholder.mem_numbers_text (clean_ownStatement r hl 1), mem_refs_ownStatement]
    omega

end Query

end CatalogSearch
