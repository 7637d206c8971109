import CatalogSearch.Filters

/-!
# Tags added together and one by one

Tags that are added together are numbered by their distance from the next free number and stand in
one fragment; tags added one after another move the numbering on and stand in fragments of their
own. The clause joins fragments as a fragment joins its tests, so that it is the same either way,
behind whatever the set already holds. Where a reference cannot be written, both ways refuse.

* `PredicateSet.SameClause`: two sets that come to the same clause and go on alike.
* `intercalate_splice`: parts that have been joined may be joined again, wherever they stand.
* `PredicateSet.condition_addTags`: the tags stand in the condition as tests of their own.
* `PredicateSet.addTags?_batched`: a batch against its parts, and against its tags one by one.
-/

namespace CatalogSearch

/-! ### Joins of joins -/

/-- **Parts that have been joined may be joined again**, wherever they stand. -/
theorem intercalate_splice (sep : String) (xs : List String) {ys : List String} (hy : ys ≠ [])
    (zs : List String) :
    String.intercalate sep (xs ++ String.intercalate sep ys :: zs) =
      String.intercalate sep (xs ++ (ys ++ zs)) := by
  induction xs with
  | nil =>
    by_cases hz : zs = []
    · rw [hz, List.append_nil, List.nil_append, List.nil_append, String.intercalate_singleton]
    · rw [List.nil_append, List.nil_append, String.intercalate_cons_of_ne_nil hz,
        String.intercalate_append_of_ne_nil hy hz]
  | cons x xs ih =>
    rw [List.cons_append, List.cons_append, String.intercalate_cons_of_ne_nil (by simp), ih,
      String.intercalate_cons_of_ne_nil (by simp [hy])]

namespace PredicateSet

/-- **Two sets that come to the same clause** and go on alike: their conditions and clauses are the
same text, and so are their values and the next free number. -/
structure SameClause (p q : PredicateSet) : Prop where
  condition : p.condition = q.condition
  whereClause : p.whereClause = q.whereClause
  values : p.values = q.values
  nextIndex : p.nextIndex = q.nextIndex

theorem SameClause.refl (p : PredicateSet) : SameClause p p := ⟨rfl, rfl, rfl, rfl⟩

theorem SameClause.trans {p q r : PredicateSet} (h : SameClause p q) (h' : SameClause q r) :
    SameClause p r :=
  ⟨h.condition.trans h'.condition, h.whereClause.trans h'.whereClause, h.values.trans h'.values,
    h.nextIndex.trans h'.nextIndex⟩

theorem rel_sameClause_trans {a b c : Option PredicateSet} (h : Option.Rel SameClause a b)
    (h' : Option.Rel SameClause b c) : Option.Rel SameClause a c := by
  cases h with
  | none => exact h'
  | some h =>
    cases h' with
    | some h' => exact .some (h.trans h')

/-! ### What a batch adds -/

variable {p : PredicateSet} {tags : List Value}

@[simp] theorem addTags_nil (p : PredicateSet) : p.addTags [] = p := rfl

/-- The tests of a batch, one for each tag. -/
def tagTests (p : PredicateSet) (tags : List Value) : List String :=
  (List.range tags.length).map p.tagTest

theorem addTags_of_ne_nil (h : tags ≠ []) :
    p.addTags tags = p.append (String.intercalate " AND " (p.tagTests tags)) tags := by
  unfold addTags
  rw [if_neg (by simpa using h)]
  rfl

theorem tagTests_ne_nil (h : tags ≠ []) : p.tagTests tags ≠ [] := by
  simpa [tagTests] using h

theorem values_addTags (p : PredicateSet) (tags : List Value) :
    (p.addTags tags).values = p.values ++ tags := by
  by_cases h : tags = []
  · rw [h, addTags_nil, List.append_nil]
  · rw [addTags_of_ne_nil h]
    rfl

theorem nextIndex_addTags (p : PredicateSet) (tags : List Value) :
    (p.addTags tags).nextIndex = p.nextIndex + tags.length := by
  by_cases h : tags = []
  · rw [h, addTags_nil, List.length_nil, Int.natCast_zero, Int.add_zero]
  · rw [addTags_of_ne_nil h]
    rfl

theorem fragments_addTags_eq_nil_iff :
    (p.addTags tags).fragments = [] ↔ p.fragments = [] ∧ tags = [] := by
  by_cases h : tags = []
  · simp [h]
  · rw [addTags_of_ne_nil h]
    simp [append, h]

/-- **The tags stand in the join of the fragments as tests of their own**, whatever is behind. -/
theorem intercalate_addTags (p : PredicateSet) (tags : List Value) (behind : List String) :
    String.intercalate " AND " ((p.addTags tags).fragments ++ behind) =
      String.intercalate " AND " (p.fragments ++ (p.tagTests tags ++ behind)) := by
  by_cases h : tags = []
  · rw [h, addTags_nil, show p.tagTests [] = [] from rfl, List.nil_append]
  · rw [addTags_of_ne_nil h, append, List.append_assoc, List.singleton_append,
      intercalate_splice " AND " p.fragments (tagTests_ne_nil h)]

theorem condition_addTags (p : PredicateSet) (tags : List Value) :
    (p.addTags tags).condition = String.intercalate " AND " (p.fragments ++ p.tagTests tags) := by
  have hjoin := intercalate_addTags p tags []
  rwa [List.append_nil, List.append_nil] at hjoin

/-- The tests of the tags behind others are numbered behind those of the others. -/
theorem tagTests_append (p : PredicateSet) (xs ys : List Value) :
    p.tagTests (xs ++ ys) = p.tagTests xs ++ (p.addTags xs).tagTests ys := by
  have hbehind : ∀ i, (p.addTags xs).tagTest i = p.tagTest (xs.length + i) := by
    intro i
    unfold tagTest placeholder
    rw [nextIndex_addTags, Int.natCast_add, Int.add_assoc]
  unfold tagTests
  rw [List.length_append, List.range_add, List.map_append, List.map_map]
  exact congrArg _ (List.map_congr_left fun i _ => (hbehind i).symm)

/-! ### Batches -/

/-- The clause follows the condition, and whether there is any fragment. -/
theorem whereClause_congr {p q : PredicateSet} (hcondition : p.condition = q.condition)
    (hnil : p.fragments = [] ↔ q.fragments = []) : p.whereClause = q.whereClause := by
  unfold whereClause
  rw [hcondition]
  by_cases h : p.fragments = []
  · rw [h, hnil.1 h]
  · rw [if_neg (by simpa using h), if_neg (by simpa using fun hq => h (hnil.2 hq))]

/-- **A batch comes to the same clause as its two parts**, one after the other. -/
theorem sameClause_addTags_append (p : PredicateSet) (xs ys : List Value) :
    SameClause (p.addTags (xs ++ ys)) ((p.addTags xs).addTags ys) := by
  have hcondition :
      (p.addTags (xs ++ ys)).condition = ((p.addTags xs).addTags ys).condition := by
    rw [condition_addTags, condition_addTags, tagTests_append, intercalate_addTags]
  refine ⟨hcondition, whereClause_congr hcondition ?_, ?_, ?_⟩
  · rw [fragments_addTags_eq_nil_iff, fragments_addTags_eq_nil_iff, fragments_addTags_eq_nil_iff,
      List.append_eq_nil_iff, and_assoc]
  · rw [values_addTags, values_addTags, values_addTags, List.append_assoc]
  · rw [nextIndex_addTags, nextIndex_addTags, nextIndex_addTags, List.length_append,
      Int.natCast_add, Int.add_assoc]

theorem canRefer_append (p : PredicateSet) (xs ys : List Value) :
    p.canRefer (xs ++ ys).length =
      (p.canRefer xs.length && (p.addTags xs).canRefer ys.length) := by
  unfold canRefer
  rw [List.length_append, areWritable_add, nextIndex_addTags]

/-- A batch is refused exactly if one of its two parts is, and comes to the same clause. -/
theorem addTags?_append (p : PredicateSet) (xs ys : List Value) :
    Option.Rel SameClause (p.addTags? (xs ++ ys)) ((p.addTags? xs).bind (·.addTags? ys)) := by
  unfold addTags?
  rw [canRefer_append]
  by_cases hfront : p.canRefer xs.length = true
  · rw [hfront, Bool.true_and, if_pos rfl, Option.bind_some]
    split
    · exact .some (p.sameClause_addTags_append xs ys)
    · exact .none
  · rw [if_neg (by simp [hfront]), if_neg hfront]
    exact .none

/-- Adding tags one after another, until one is refused. -/
def addEach? (p : PredicateSet) (tags : List Value) : Option PredicateSet :=
  tags.foldlM (fun q tag => q.addTags? [tag]) p

/-- **A batch comes to the same clause as its tags one by one.** -/
theorem addTags?_addEach? (p : PredicateSet) (tags : List Value) :
    Option.Rel SameClause (p.addTags? tags) (p.addEach? tags) := by
  induction tags generalizing p with
  | nil => exact .some (.refl p)
  | cons tag tags ih =>
    -- the first tag is a batch, and the hypothesis is about the set it leaves
    have hparts := p.addTags?_append [tag] tags
    have hfirst : p.addEach? (tag :: tags) = (p.addTags? [tag]).bind (·.addEach? tags) :=
      List.foldlM_cons
    rw [hfirst]
    rcases hp : p.addTags? [tag] with _ | q
    · rwa [hp] at hparts
    · rw [hp] at hparts
      exact rel_sameClause_trans hparts (ih q)

/-- There is a set with the tags exactly if the number of each can be written. -/
theorem exists_addTags?_iff (p : PredicateSet) (tags : List Value) :
    (∃ q, p.addTags? tags = some q) ↔
      ∀ i < tags.length, isWritable (p.nextIndex + (i : Nat)) = true := by
  unfold addTags? canRefer
  rw [← areWritable_iff]
  simp only [Option.ite_none_right_eq_some, exists_and_left, Option.some.injEq, exists_eq',
    and_true]

/-- **Tags come to the same clause together, in two parts and one by one**, behind any fragments and
from any number on; they are refused in all three ways if the number of one of them cannot be
written, and in none otherwise. -/
theorem addTags?_batched (p : PredicateSet) :
    (∀ tags, (∃ q, p.addTags? tags = some q) ↔
      ∀ i < tags.length, isWritable (p.nextIndex + (i : Nat)) = true) ∧
    (∀ xs ys,
      Option.Rel SameClause (p.addTags? (xs ++ ys)) ((p.addTags? xs).bind (·.addTags? ys))) ∧
    ∀ tags, Option.Rel SameClause (p.addTags? tags) (p.addEach? tags) :=
  ⟨p.exists_addTags?_iff, p.addTags?_append, p.addTags?_addEach?⟩

/-- The fragments are not the same: one for the batch, one for each tag. -/
example :
    let p : PredicateSet :=
      { fragments := ["\"level\" = $1"], values := [.text "GCSE"], nextIndex := 2 }
    let tags : List Value := [.text "a", .text "b"]
    ((p.addTags? tags).map (·.fragments.length), (p.addEach? tags).map (·.fragments.length)) =
        (some 2, some 3) ∧
      (p.addEach? tags).map (·.whereClause) =
        some "WHERE \"level\" = $1 AND \"tags\" @> ARRAY[$2] AND \"tags\" @> ARRAY[$3]" := by
  decide +kernel

end PredicateSet

end CatalogSearch
