import CatalogSearch.Proofs.Statement

/-!
# The pieces of a statement

A statement is put together from few fixed texts. What holds of each of these and of references from
the start of the numbering on holds of all pieces of the statement.

* `testTexts`, `scoreTexts`, `matchTexts`: the fixed texts.
* `whereTemplate_filterFragments`: the tags stand in the clause as tests of their own.
* `ownStatement_eq`, `text_ownStatement`: the statement of a request in parts.
* `forall_ownTests`, `forall_ownColumns`: what holds of all pieces of a part.
-/

namespace CatalogSearch

open Template

namespace Query

variable {P : Piece → Prop} {n : Int}

/-- The fixed texts of the filters' tests. -/
def testTexts : List String :=
  ["\"tags\" @> ARRAY[", "]", "\"subject\" = ", "\"examboard\" = ", "\"level\" = ", "\"type\" = "]

/-- The fixed texts of the columns that a strategy adds. -/
def scoreTexts (language : String) : List String :=
  [", 1 - (embedding <-> ", "::vector) AS semantic_score",
    ", ts_rank(\"search_tsv\", plainto_tsquery('" ++ language ++ "', ", ")) AS rank",
    ", similarity(\"title\", ", ") AS fuzzy_score", ", 0 AS fuzzy_score"]

/-- The fixed texts of the condition that a strategy adds. -/
def matchTexts (language : String) : List String :=
  ["(\"search_tsv\" @@ plainto_tsquery('" ++ language ++ "', ", ") OR \"title\" % ", ")",
    "\"search_tsv\" @@ plainto_tsquery('" ++ language ++ "', "]

theorem forall_tagTemplates (hf : ∀ s ∈ testTexts, P (.fixed s)) (hr : ∀ m, n ≤ m → P (.ref m))
    (k : Nat) : ∀ t ∈ tagTemplates k n, ∀ x ∈ t, P x := by
  induction k generalizing n with
  | zero => simp [tagTemplates]
  | succ k ih =>
    rw [tagTemplates, List.forall_mem_cons]
    refine ⟨?_, ih fun m hm => hr m (by omega)⟩
    unfold tagTemplate
    simp only [List.forall_mem_cons]
    exact ⟨hf _ (by decide), hr n (by omega), hf _ (by decide), by simp⟩

theorem forall_equalityTemplates {cs : List String} (hf : ∀ c ∈ cs, P (.fixed (c ++ " = ")))
    (hr : ∀ m, n ≤ m → P (.ref m)) : ∀ t ∈ equalityTemplates cs n, ∀ x ∈ t, P x := by
  induction cs generalizing n with
  | nil => simp [equalityTemplates]
  | cons c cs ih =>
    rw [List.forall_mem_cons] at hf
    rw [equalityTemplates, List.forall_mem_cons]
    refine ⟨?_, ih hf.2 fun m hm => hr m (by omega)⟩
    unfold equalityTemplate
    simp only [List.forall_mem_cons]
    exact ⟨hf.1, hr n (by omega), by simp⟩

theorem forall_filterTests (r : SearchRequest) (hf : ∀ s ∈ testTexts, P (.fixed s))
    (hr : ∀ m, n ≤ m → P (.ref m)) : ∀ t ∈ r.filterTests n, ∀ x ∈ t, P x := by
  have hc : ∀ c ∈ r.columns, P (.fixed (c ++ " = ")) := by
    intro c hc
    have hm := SearchRequest.mem_columns hc
    simp only [List.mem_cons, List.not_mem_nil, or_false] at hm
    rcases hm with rfl | rfl | rfl | rfl <;> exact hf _ (by decide)
  unfold SearchRequest.filterTests
  rw [List.forall_mem_append]
  exact ⟨forall_tagTemplates hf hr _,
    forall_equalityTemplates hc fun m hm => hr m (by omega)⟩

theorem forall_scoreTemplate (r : SearchRequest) {language : String}
    (hf : ∀ s ∈ scoreTexts language, P (.fixed s)) (hr : ∀ m, n ≤ m → P (.ref m)) :
    ∀ x ∈ scoreTemplate r language n, P x := by
  simp only [scoreTexts, List.forall_mem_cons] at hf
  obtain ⟨hs, hs', hw, hw', ht, ht', h0, -⟩ := hf
  unfold scoreTemplate
  cases r.strategy with
  | semantic =>
    simp only [List.forall_mem_cons]
    exact ⟨hs, hr n (by omega), hs', by simp⟩
  | filterOnly => simp
  | fullText =>
    by_cases hz : r.fuzzy = true
    · simp only [hz, if_true, List.cons_append, List.nil_append, List.forall_mem_cons]
      exact ⟨hw, hr n (by omega), hw', ht, hr _ (by omega), ht', by simp⟩
    · simp only [hz, Bool.false_eq_true, if_false, List.cons_append, List.nil_append,
        List.forall_mem_cons]
      exact ⟨hw, hr n (by omega), hw', h0, by simp⟩

theorem forall_matchTemplates (r : SearchRequest) {language : String}
    (hf : ∀ s ∈ matchTexts language, P (.fixed s)) (hr : ∀ m, n ≤ m → P (.ref m)) :
    ∀ t ∈ matchTemplates r language n, ∀ x ∈ t, P x := by
  simp only [matchTexts, List.forall_mem_cons] at hf
  obtain ⟨ho, ht, hc, hw, -⟩ := hf
  unfold matchTemplates
  cases r.strategy with
  | semantic => simp
  | filterOnly => simp
  | fullText =>
    by_cases hz : r.fuzzy = true
    · simp only [hz, if_true, List.mem_singleton, forall_eq, List.forall_mem_cons]
      exact ⟨ho, hr n (by omega), ht, hr _ (by omega), hc⟩
    · simp only [hz, Bool.false_eq_true, if_false, List.mem_singleton, forall_eq,
        List.forall_mem_cons]
      exact ⟨hw, hr n (by omega), hc⟩

/-- The tags of a request stand in the clause as tests of their own. -/
theorem whereTemplate_filterFragments (r : SearchRequest) (n : Int) (ms : List Template) :
    whereTemplate (r.filterFragments n ++ ms) = whereTemplate (r.filterTests n ++ ms) := by
  unfold SearchRequest.filterFragments SearchRequest.filterTests
  by_cases h : r.tags = []
  · simp [h, tagTemplates]
  · have ht : tagTemplates r.tags.length n ≠ [] := by
      obtain ⟨tag, tags, he⟩ := List.exists_cons_of_ne_nil h
      rw [he]; exact List.cons_ne_nil _ _
    rw [if_neg h, List.append_assoc, List.append_assoc, List.singleton_append, whereTemplate,
      whereTemplate, if_neg (List.cons_ne_nil _ _), if_neg (by simp [ht]), join_join _ _ ht]

/-- The tests of a request's own statement: those of the filters, then that of the strategy. -/
def ownTests (r : SearchRequest) (language : String) (n : Int) : List Template :=
  r.filterTests n ++ matchTemplates r language (n + r.filterValues.length)

theorem forall_ownTests (r : SearchRequest) {language : String}
    (hf : ∀ s ∈ testTexts ++ matchTexts language, P (.fixed s)) (hr : ∀ m, n ≤ m → P (.ref m)) :
    ∀ t ∈ ownTests r language n, ∀ x ∈ t, P x := by
  rw [List.forall_mem_append] at hf
  unfold ownTests
  rw [List.forall_mem_append]
  exact ⟨forall_filterTests r hf.1 hr, forall_matchTemplates r hf.2 fun m hm => hr m (by omega)⟩

/-- What stands between the first columns of a request's own statement and its clause. -/
def ownColumns (r : SearchRequest) (language : String) (n : Int) : Template :=
  scoreTemplate r language (n + r.filterValues.length) ++ [.fixed "\nFROM \"resources\""]

theorem forall_ownColumns (r : SearchRequest) {language : String}
    (hf : ∀ s ∈ "\nFROM \"resources\"" :: scoreTexts language, P (.fixed s))
    (hr : ∀ m, n ≤ m → P (.ref m)) : ∀ x ∈ ownColumns r language n, P x := by
  rw [List.forall_mem_cons] at hf
  unfold ownColumns
  rw [List.forall_mem_append, List.forall_mem_singleton]
  exact ⟨forall_scoreTemplate r hf.2 fun m hm => hr m (by omega), hf.1⟩

theorem forall_whereTemplate {ts : List Template} (hw : P (.fixed "\nWHERE "))
    (ha : P (.fixed " AND ")) (h : ∀ t ∈ ts, ∀ x ∈ t, P x) : ∀ x ∈ whereTemplate ts, P x := by
  unfold whereTemplate
  split_ifs
  · simp
  · rw [List.forall_mem_cons]
    exact ⟨hw, forall_join ha h⟩

/-- The order of a statement up to the first reference of its page. -/
def orderText (r : SearchRequest) : String :=
  "\nORDER BY " ++ String.intercalate ", " (orderKeys r) ++ "\nLIMIT "

/-- **A request's own statement in parts**: columns, tests, order and page. -/
theorem ownStatement_eq (r : SearchRequest) (language : String) (n : Int) :
    ownStatement r language n =
      .fixed ("SELECT " ++ resourceColumns) ::
        (ownColumns r language n ++ whereTemplate (ownTests r language n)) ++
        [.fixed (orderText r), .ref (n + r.filterValues.length + slotCount r), .fixed " OFFSET ",
          .ref (n + r.filterValues.length + slotCount r + 1)] := by
  unfold ownStatement statement ownTests
  rw [whereTemplate_filterFragments]
  simp [ownColumns, orderText]

/-- What stands in front of the order of a request's own statement. -/
def ownFront (r : SearchRequest) (language : String) (n : Int) : Template :=
  .fixed ("SELECT " ++ resourceColumns) ::
    (ownColumns r language n ++ whereTemplate (ownTests r language n))

/-- The page, bound behind everything else. -/
def ownPage (r : SearchRequest) (n : Int) : Template :=
  [.fixed "LIMIT ", .ref (n + r.filterValues.length + slotCount r), .fixed " OFFSET ",
    .ref (n + r.filterValues.length + slotCount r + 1)]

/-- **The text of a request's own statement** around its order. -/
theorem text_ownStatement (r : SearchRequest) (language : String) (n : Int) :
    (ownStatement r language n).text =
      (ownFront r language n).text ++ ("\nORDER BY " ++ (String.intercalate ", " (orderKeys r) ++
        ("\n" ++ (ownPage r n).text))) := by
  rw [ownStatement_eq, ← String.toList_inj]
  simp [ownFront, ownPage, orderText]

end Query

end CatalogSearch
