import CatalogSearch.Proofs.Template

/-!
# The statement of a request as a template

The statement of a request is written by three hands: the filters number their own references, the
strategy adds its columns and its condition behind them, and the page comes last. Here the whole
statement is one template with the numbers spelt out.

* `predicates_eq`: the fragments, values and numbering of the filters, in closed form.
* `Query.statement`: the template of a statement over any fragments.
* `Query.parts_ok`: what a strategy contributes is written as that template, and it binds as many
  values as it numbers.
* `mem_refs_statement`: the references count from the start to the last bound value, without a gap.
-/

namespace CatalogSearch

open Template

/-- The test of a tag, bound as number `n`. -/
def tagTemplate (n : Int) : Template := [.fixed "\"tags\" @> ARRAY[", .ref n, .fixed "]"]

/-- The test of a column against the value bound as number `n`. -/
def equalityTemplate (column : String) (n : Int) : Template := [.fixed (column ++ " = "), .ref n]

/-- Tests of tags that are numbered from `n` on. -/
def tagTemplates : Nat → Int → List Template
  | 0, _ => []
  | k + 1, n => tagTemplate n :: tagTemplates k (n + 1)

/-- Tests of columns that are numbered from `n` on. -/
def equalityTemplates : List String → Int → List Template
  | [], _ => []
  | c :: cs, n => equalityTemplate c n :: equalityTemplates cs (n + 1)

namespace PredicateSet

theorem tagTest_eq (p : PredicateSet) (i : Nat) :
    p.tagTest i = (tagTemplate (p.nextIndex + i)).text := by
  change "\"tags\" @> ARRAY[" ++ p.placeholder i ++ "]" = _
  simp [placeholder_eq, tagTemplate, String.append_assoc]

theorem tagTests_eq (p : PredicateSet) (k : Nat) :
    (List.range k).map p.tagTest = (tagTemplates k p.nextIndex).map text := by
  -- counted from any place on, so that the induction goes through
  have h : ∀ k i, (List.range' i k).map p.tagTest =
      (tagTemplates k (p.nextIndex + (i : Nat))).map text := by
    intro k
    induction k with
    | zero => intro i; rfl
    | succ k ih =>
      intro i
      rw [List.range'_succ, List.map_cons, ih, tagTemplates, List.map_cons, tagTest_eq]
      push_cast
      rw [Int.add_assoc]
  have h0 := h k 0
  rwa [← List.range_eq_range', Int.ofNat_zero, Int.add_zero] at h0

/-- Column and value of the filters that are given. -/
def given (es : List (String × Value)) : List (String × Value) := es.filter (·.2.isTruthy)

/-- **Adding equalities one by one**: those given are bound and numbered in their order. -/
theorem foldl_addEquality (es : List (String × Value)) (p : PredicateSet) :
    es.foldl (fun p e => p.addEquality e.1 e.2) p =
      { fragments := p.fragments ++
          (equalityTemplates ((given es).map (·.1)) p.nextIndex).map text
        values := p.values ++ (given es).map (·.2)
        nextIndex := p.nextIndex + (given es).length } := by
  induction es generalizing p with
  | nil => simp [given, equalityTemplates]
  | cons e es ih =>
    rw [List.foldl_cons, ih]
    by_cases he : e.2.isTruthy
    · simp [given, addEquality, append, bind, placeholder_eq, he, equalityTemplates,
        equalityTemplate, Int.add_assoc, Int.add_comm]
    · simp [given, addEquality, he]

end PredicateSet

namespace SearchRequest

/-- The columns that have to match, in the order of their values. -/
def columns (r : SearchRequest) : List String := (PredicateSet.given r.equalities).map (·.1)

/-- The values that the filters bind. -/
def filterValues (r : SearchRequest) : List Value :=
  r.tags ++ (PredicateSet.given r.equalities).map (·.2)

/-- The single tests of the filters, numbered from `n` on. -/
def filterTests (r : SearchRequest) (n : Int) : List Template :=
  tagTemplates r.tags.length n ++ equalityTemplates r.columns (n + r.tags.length)

/-- The fragments of the filters: all tags together are one. -/
def filterFragments (r : SearchRequest) (n : Int) : List Template :=
  (if r.tags = [] then [] else [join " AND " (tagTemplates r.tags.length n)]) ++
    equalityTemplates r.columns (n + r.tags.length)

theorem length_filterValues (r : SearchRequest) :
    r.filterValues.length = r.tags.length + r.columns.length := by
  simp [filterValues, columns]

theorem mem_columns {r : SearchRequest} {c : String} (h : c ∈ r.columns) :
    c ∈ ["\"subject\"", "\"examboard\"", "\"level\"", "\"type\""] :=
  ((List.filter_sublist (l := r.equalities)).map (·.1)).subset h

/-- At most the four attributes have to match. -/
theorem length_columns_le (r : SearchRequest) : r.columns.length ≤ 4 := by
  unfold columns PredicateSet.given
  rw [List.length_map]
  exact List.length_filter_le _ r.equalities

theorem flatMap_refs_tagTemplates (k : Nat) (n : Int) :
    (tagTemplates k n).flatMap refs = countFrom n k := by
  induction k generalizing n with
  | zero => rfl
  | succ k ih => rw [tagTemplates, List.flatMap_cons, ih]; rfl

theorem flatMap_refs_equalityTemplates (cs : List String) (n : Int) :
    (equalityTemplates cs n).flatMap refs = countFrom n cs.length := by
  induction cs generalizing n with
  | nil => rfl
  | cons c cs ih => rw [equalityTemplates, List.flatMap_cons, ih]; rfl

/-- **The fragments refer to their values in order, each once.** -/
theorem flatMap_refs_filterFragments (r : SearchRequest) (n : Int) :
    (r.filterFragments n).flatMap refs = countFrom n r.filterValues.length := by
  rw [length_filterValues, ← countFrom_append, filterFragments, List.flatMap_append,
    flatMap_refs_equalityTemplates]
  congr 1
  by_cases h : r.tags = []
  · simp [h, countFrom]
  · rw [if_neg h, List.flatMap_singleton, refs_join, flatMap_refs_tagTemplates]

/-- **The predicates of a request in closed form.** -/
theorem predicates_eq (r : SearchRequest) (n : Int) :
    r.predicates n =
      { fragments := (r.filterFragments n).map text
        values := r.filterValues
        nextIndex := n + r.filterValues.length } := by
  unfold predicates
  rw [PredicateSet.foldl_addEquality]
  by_cases h : r.tags = []
  · simp [PredicateSet.addTags, h, filterFragments, filterValues, columns]
  · have ht : r.tags.isEmpty = false := by simpa using h
    simp [PredicateSet.addTags, ht, PredicateSet.append, PredicateSet.bind,
      PredicateSet.tagTests_eq, filterFragments, h, filterValues, columns, text_join, Int.add_assoc]

end SearchRequest

namespace Query

/-- The columns that the strategy of a request adds, its values numbered from `n` on. -/
def scoreTemplate (r : SearchRequest) (language : String) (n : Int) : Template :=
  match r.strategy with
  | .semantic => [.fixed ", 1 - (embedding <-> ", .ref n, .fixed "::vector) AS semantic_score"]
  | .fullText =>
    [.fixed (", ts_rank(\"search_tsv\", plainto_tsquery('" ++ language ++ "', "), .ref n,
      .fixed ")) AS rank"] ++
    if r.fuzzy then [.fixed ", similarity(\"title\", ", .ref (n + 1), .fixed ") AS fuzzy_score"]
    else [.fixed ", 0 AS fuzzy_score"]
  | .filterOnly => []

/-- The condition that the strategy of a request adds. -/
def matchTemplates (r : SearchRequest) (language : String) (n : Int) : List Template :=
  match r.strategy with
  | .fullText =>
    if r.fuzzy then
      [[.fixed ("(\"search_tsv\" @@ plainto_tsquery('" ++ language ++ "', "), .ref n,
        .fixed ") OR \"title\" % ", .ref (n + 1), .fixed ")"]]
    else
      [[.fixed ("\"search_tsv\" @@ plainto_tsquery('" ++ language ++ "', "), .ref n, .fixed ")"]]
  | _ => []

/-- How many values the strategy of a request binds. -/
def slotCount (r : SearchRequest) : Nat :=
  match r.strategy with
  | .semantic => 1
  | .fullText => if r.fuzzy then 2 else 1
  | .filterOnly => 0

/-- The values that the strategy of a request binds; `literal` is the embedding of its query. -/
def strategyValues (r : SearchRequest) (literal : String) : List Value :=
  match r.strategy with
  | .semantic => [.text literal]
  | .fullText => if r.fuzzy then [r.query, r.query] else [r.query]
  | .filterOnly => []

/-- The keys of the order, first to last. -/
def orderKeys (r : SearchRequest) : List String :=
  match r.strategy with
  | .semantic => ["semantic_score DESC", r.orderBy]
  | .fullText => ["rank DESC", "fuzzy_score DESC", r.orderBy]
  | .filterOnly => [r.orderBy]

def whereTemplate (fs : List Template) : Template :=
  if fs = [] then [] else .fixed "\nWHERE " :: join " AND " fs

/-- **The statement of a request** over fragments, with `n` the first number that they leave
free. -/
def statement (r : SearchRequest) (language : String) (fs : List Template) (n : Int) : Template :=
  .fixed ("SELECT " ++ resourceColumns) :: scoreTemplate r language n ++
    .fixed "\nFROM \"resources\"" :: whereTemplate (fs ++ matchTemplates r language n) ++
    [.fixed ("\nORDER BY " ++ String.intercalate ", " (orderKeys r) ++ "\nLIMIT "),
      .ref (n + slotCount r), .fixed " OFFSET ", .ref (n + slotCount r + 1)]

@[simp] theorem length_strategyValues (r : SearchRequest) (literal : String) :
    (strategyValues r literal).length = slotCount r := by
  unfold strategyValues slotCount
  cases r.strategy <;> simp
  split <;> rfl

/-- What a strategy contributes, compared with its template. -/
structure Contributes (r : SearchRequest) (p : PredicateSet) (language literal : String)
    (q : Parts) : Prop where
  values : q.bound.values = p.values ++ strategyValues r literal
  nextIndex : q.bound.nextIndex = p.nextIndex + slotCount r
  order : q.order = orderKeys r
  sql : ∀ fs, p.fragments = fs.map text →
    render q.scores q.bound q.order = (statement r language fs p.nextIndex).text

/-- A list of columns is its first one and the others, each behind a comma. -/
theorem intercalate_cons (sep s : String) (ss : List String) :
    String.intercalate sep (s :: ss) = s ++ String.join (ss.map (sep ++ ·)) := by
  induction ss generalizing s with
  | nil => simp
  | cons t ss ih => rw [String.intercalate_cons_cons, ih]; simp [String.append_assoc]

theorem whereClause_of_nil {p : PredicateSet} (h : p.fragments = []) : p.whereClause = "" := by
  simp [PredicateSet.whereClause, h]

theorem whereClause_of_ne_nil {p : PredicateSet} (h : p.fragments ≠ []) :
    p.whereClause = "WHERE " ++ p.condition ∧ p.whereClause ≠ "" := by
  have hw : p.whereClause = "WHERE " ++ p.condition := by
    unfold PredicateSet.whereClause; rw [if_neg (by simpa using h)]
  refine ⟨hw, ?_⟩
  rw [hw, Ne, ← String.toList_inj]
  simp

/-- The rendered text of scores and fragments that are written as templates. -/
theorem render_eq_text (score : Template) (fs : List Template) {scores : List String}
    {p : PredicateSet} {order : List String}
    (hs : String.join (scores.map (", " ++ ·)) = score.text) (hp : p.fragments = fs.map text) :
    render scores p order =
      (.fixed ("SELECT " ++ resourceColumns) :: score ++
        .fixed "\nFROM \"resources\"" :: whereTemplate fs ++
        [.fixed ("\nORDER BY " ++ String.intercalate ", " order ++ "\nLIMIT "),
          .ref p.nextIndex, .fixed " OFFSET ", .ref (p.nextIndex + 1)] : Template).text := by
  unfold render
  simp only
  rw [intercalate_cons, hs]
  rcases eq_or_ne fs [] with rfl | hf
  · rw [whereClause_of_nil (by simpa using hp), ← String.toList_inj]
    simp [whereTemplate, PredicateSet.placeholder_eq]
  · obtain ⟨hw, hne⟩ := whereClause_of_ne_nil (p := p) (by simpa [hp] using hf)
    have hc : p.condition = (join " AND " fs).text := by
      rw [text_join, ← hp]; rfl
    rw [if_neg hne, hw, hc, ← String.toList_inj]
    simp [whereTemplate, hf, PredicateSet.placeholder_eq]

theorem semanticParts_contributes {r : SearchRequest} (h : r.strategy = .semantic)
    (p : PredicateSet) (language literal : String) :
    Contributes r p language literal (semanticParts r p literal) where
  values := by simp [semanticParts, PredicateSet.bind, strategyValues, h]
  nextIndex := by simp [semanticParts, PredicateSet.bind, slotCount, h]
  order := by simp [semanticParts, orderKeys, h]
  sql fs hp := by
    rw [render_eq_text (scoreTemplate r language p.nextIndex) fs]
    · simp [statement, matchTemplates, slotCount, orderKeys, semanticParts, PredicateSet.bind, h]
    · rw [← String.toList_inj]
      simp [semanticParts, scoreTemplate, h, PredicateSet.placeholder_eq]
    · exact hp

theorem fullTextParts_contributes {r : SearchRequest} (h : r.strategy = .fullText)
    (p : PredicateSet) (language literal : String) :
    Contributes r p language literal (fullTextParts r p language) where
  values := by
    by_cases hz : r.fuzzy <;>
      simp [fullTextParts, PredicateSet.append, PredicateSet.bind, strategyValues, h, hz]
  nextIndex := by
    by_cases hz : r.fuzzy <;>
      simp [fullTextParts, PredicateSet.append, PredicateSet.bind, slotCount, h, hz]
  order := by by_cases hz : r.fuzzy <;> simp [fullTextParts, orderKeys, h, hz]
  sql fs hp := by
    have hm : (fullTextParts r p language).bound.fragments =
        (fs ++ matchTemplates r language p.nextIndex).map text := by
      by_cases hz : r.fuzzy
      · simp [fullTextParts, PredicateSet.append, PredicateSet.bind, matchTemplates, h, hz, hp,
          ← String.toList_inj, PredicateSet.placeholder_eq]
      · simp [fullTextParts, PredicateSet.append, PredicateSet.bind, matchTemplates, h, hz, hp,
          ← String.toList_inj, PredicateSet.placeholder_eq]
    rw [render_eq_text (scoreTemplate r language p.nextIndex) _ _ hm]
    · by_cases hz : r.fuzzy <;>
        simp [statement, slotCount, orderKeys, fullTextParts, PredicateSet.append,
          PredicateSet.bind, h, hz]
    · rw [← String.toList_inj]
      by_cases hz : r.fuzzy <;>
        simp [fullTextParts, scoreTemplate, h, hz, PredicateSet.placeholder_eq]

theorem filterParts_contributes {r : SearchRequest} (h : r.strategy = .filterOnly)
    (p : PredicateSet) (language literal : String) :
    Contributes r p language literal (filterParts r p) where
  values := by simp [filterParts, strategyValues, h]
  nextIndex := by simp [filterParts, slotCount, h]
  order := by simp [filterParts, orderKeys, h]
  sql fs hp := by
    rw [render_eq_text (scoreTemplate r language p.nextIndex) fs]
    · simp [statement, matchTemplates, slotCount, orderKeys, filterParts, h]
    · simp [filterParts, scoreTemplate, h]
    · exact hp

/-- **What a strategy contributes**, if it does: the semantic one needs the embedding. -/
theorem parts_ok {r : SearchRequest} {p : PredicateSet} {vector : Option Value}
    {language : String} {q : Parts} (h : parts r p vector language = .ok q) :
    ∃ literal, Contributes r p language literal q ∧
      (r.strategy = .semantic → ∃ v, vector = some v ∧ v.vectorLiteral = .ok literal) := by
  unfold parts at h
  cases hs : r.strategy with
  | semantic =>
    rw [hs] at h
    cases vector with
    | none => simp at h
    | some v =>
      simp only at h
      split at h
      · simp at h
      · cases hv : v.vectorLiteral with
        | error why => simp [hv] at h
        | ok literal =>
          simp only [hv, Except.ok.injEq] at h
          subst h
          exact ⟨literal, semanticParts_contributes hs p language literal,
            fun _ => ⟨v, rfl, hv⟩⟩
  | fullText =>
    rw [hs] at h
    simp only [Except.ok.injEq] at h
    subst h
    exact ⟨"", fullTextParts_contributes hs p language "", by simp⟩
  | filterOnly =>
    rw [hs] at h
    simp only [Except.ok.injEq] at h
    subst h
    exact ⟨"", filterParts_contributes hs p language "", by simp⟩

theorem exists_parts {r : SearchRequest} {p : PredicateSet} {vector : Option Value}
    (language : String) (hp : p.canRefer 1)
    (hv : r.strategy = .semantic → ∃ v literal, vector = some v ∧ v.vectorLiteral = .ok literal) :
    ∃ q, parts r p vector language = .ok q := by
  unfold parts
  cases hs : r.strategy with
  | semantic =>
    obtain ⟨v, literal, rfl, hl⟩ := hv hs
    exact ⟨semanticParts r p literal, by simp [hp, hl]⟩
  | fullText => exact ⟨_, rfl⟩
  | filterOnly => exact ⟨_, rfl⟩

theorem mem_refs_scoreTemplate {r : SearchRequest} {language : String} {m n : Int} :
    m ∈ (scoreTemplate r language n).refs ↔ n ≤ m ∧ m < n + slotCount r := by
  unfold scoreTemplate slotCount
  cases r.strategy with
  | semantic => simp; omega
  | fullText => by_cases hz : r.fuzzy <;> simp [hz] <;> omega
  | filterOnly => simp

theorem bound_of_mem_refs_matchTemplates {r : SearchRequest} {language : String} {m n : Int}
    (h : m ∈ (matchTemplates r language n).flatMap refs) : n ≤ m ∧ m < n + slotCount r := by
  unfold matchTemplates at h
  unfold slotCount
  cases hs : r.strategy with
  | semantic => simp [hs] at h
  | fullText => by_cases hz : r.fuzzy <;> simp [hs, hz] at h ⊢ <;> omega
  | filterOnly => simp [hs] at h

theorem refs_whereTemplate (fs : List Template) : (whereTemplate fs).refs = fs.flatMap refs := by
  unfold whereTemplate
  split
  · rename_i h; rw [h]; rfl
  · rw [refs_fixed, refs_join]

/-- **The references of a statement**: those of its fragments, those of the strategy and the
page. A value that is used twice is referred to twice. -/
theorem mem_refs_statement {r : SearchRequest} {language : String} {fs : List Template}
    {m n : Int} : m ∈ (statement r language fs n).refs ↔
      m ∈ fs.flatMap refs ∨ n ≤ m ∧ m < n + slotCount r + 2 := by
  have hs : m ∈ (scoreTemplate r language n).refs ↔ n ≤ m ∧ m < n + slotCount r :=
    mem_refs_scoreTemplate
  have hm : m ∈ (matchTemplates r language n).flatMap refs → n ≤ m ∧ m < n + slotCount r :=
    bound_of_mem_refs_matchTemplates
  simp only [statement, List.cons_append, refs_fixed, refs_append, refs_whereTemplate, refs_ref,
    refs_nil, List.flatMap_append, List.mem_append, List.mem_cons, List.not_mem_nil, or_false, hs]
  constructor
  · rintro ((h | h | h) | h | h)
    · omega
    · exact Or.inl h
    · have := hm h; omega
    · omega
    · omega
  · rintro (h | h)
    · exact Or.inl (Or.inr (Or.inl h))
    · by_cases h1 : m < n + slotCount r
      · exact Or.inl (Or.inl ⟨h.1, h1⟩)
      · omega

/-- How many parameters the plan of a request has. -/
def paramCount (r : SearchRequest) : Nat := r.filterValues.length + slotCount r + 2

/-- The statement of a request over its own filters, numbered from `n` on. -/
def ownStatement (r : SearchRequest) (language : String) (n : Int) : Template :=
  statement r language (r.filterFragments n) (n + r.filterValues.length)

/-- **The references of a statement are consecutive numbers**, as many as there are parameters. -/
theorem mem_refs_ownStatement {r : SearchRequest} {language : String} {m n : Int} :
    m ∈ (ownStatement r language n).refs ↔ n ≤ m ∧ m < n + paramCount r := by
  unfold ownStatement paramCount
  rw [mem_refs_statement, SearchRequest.flatMap_refs_filterFragments, mem_countFrom]
  push_cast
  omega

end Query

end CatalogSearch
