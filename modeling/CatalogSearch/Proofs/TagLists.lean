import CatalogSearch.Proofs.Renumbering
import CatalogSearch.Proofs.RoundTrip

/-!
# From a list of tags to its values

Tags are cut at commas and kept as they are, so that a text is as good as its tags: put together
with commas they are the text again, and there is one more of them than there are commas, those that
are empty counted. The only text that could come of two lists is the empty one. Each tag is then bound
as a value of its own, in the order of the text and in front of all other values, and has a test of
its own by its number.

* `PredicateSet.BindsTags`: predicates that bind tags first.
* `SearchRequest.bindsTags_predicates`: those of a request do.
* `Parameters.parseTags_exact`: tags as a text and as values.
-/

namespace CatalogSearch

open Template

/-- **Predicates that bind tags first**, numbered from `s`: the values begin with the tags; the
first fragment is the tests of the tags, one for each by its own number; and no other fragment
refers to a tag. Without tags there is no such fragment. -/
structure PredicateSet.BindsTags (p : PredicateSet) (s : Int) (tags : List Value) : Prop where
  values : ∃ more, p.values = tags ++ more
  fragments : ∃ others,
    p.fragments = (if tags = [] then [] else [String.intercalate " AND "
      ((List.range tags.length).map fun i : Nat =>
        "\"tags\" @> ARRAY[$" ++ toString (s + i) ++ "]")]) ++ others ∧
    ∀ fragment ∈ others, ∀ n ∈ references fragment, s + tags.length ≤ n

namespace SearchRequest

theorem text_tagTemplate (n : Int) :
    (tagTemplate n).text = "\"tags\" @> ARRAY[$" ++ toString n ++ "]" := by
  rw [show "\"tags\" @> ARRAY[$" = "\"tags\" @> ARRAY[" ++ "$" from rfl]
  simp only [tagTemplate, text_cons, text_nil, Piece.text, String.append_assoc,
    String.append_empty]

theorem text_tagTemplates (s : Int) (k : Nat) :
    (tagTemplates k s).map text =
      (List.range k).map fun i : Nat => "\"tags\" @> ARRAY[$" ++ toString (s + i) ++ "]" := by
  have htests := PredicateSet.tagTests_eq { nextIndex := s } k
  rw [← htests]
  refine List.map_congr_left fun i _ => ?_
  rw [PredicateSet.tagTest_eq, text_tagTemplate]

/-- **The predicates of a request bind its tags first.** -/
theorem bindsTags_predicates (r : SearchRequest) (s : Int) :
    (r.predicates s).BindsTags s r.tags := by
  rw [predicates_eq]
  refine ⟨⟨_, rfl⟩, (equalityTemplates r.columns (s + r.tags.length)).map text, ?_, ?_⟩
  · unfold filterFragments
    rw [List.map_append]
    split
    · rfl
    · rw [List.map_singleton, text_join, text_tagTemplates]
  · rw [List.forall_mem_map]
    intro t ht n hn
    have hclean : t.Clean := r.clean_filterFragments s t (List.mem_append_right _ ht)
    rw [hclean.references_text] at hn
    have hcount : n ∈ countFrom (s + r.tags.length) r.columns.length := by
      rw [← flatMap_refs_equalityTemplates]
      exact List.mem_flatMap.2 ⟨t, ht, hn⟩
    exact (mem_countFrom.1 hcount).1

/-- A list of tags in memory can be numbered from one on. -/
theorem exists_predicates?_one {r : SearchRequest} (htags : r.tags.length < 2 ^ 63) :
    ∃ p, r.predicates? 1 = some p := by
  have hwritable := areWritable_iff.1 (Query.areWritable_one htags)
  refine (r.exists_predicates?_iff 1).2 fun i hi => hwritable i ?_
  rw [← r.count_filterValues] at hi
  unfold Query.paramCount
  omega

end SearchRequest

namespace Parameters

/-- A text that is not empty has one tag more than it has commas. -/
theorem length_parseTags {raw : String} (hraw : raw ≠ "") :
    (parseTags raw).length = raw.toList.count ',' + 1 := by
  rw [parseTags, if_neg hraw, List.length_map, Text.length_pieces]

/-- **Tags as a text and as values.** -/
theorem parseTags_exact :
    (∀ raw : String, String.intercalate "," (parseTags raw) = raw ∧
      (∀ tag ∈ parseTags raw, ',' ∉ tag.toList) ∧
      (raw ≠ "" → (parseTags raw).length = raw.toList.count ',' + 1)) ∧
    (∀ tags : List String, tags ≠ [] → tags ≠ [""] → (∀ tag ∈ tags, ',' ∉ tag.toList) →
      parseTags (String.intercalate "," tags) = tags) ∧
    ∀ (raw : String) (r : SearchRequest), r.tags = (parseTags raw).map Value.text →
      (∀ s p, r.predicates? s = some p → p.BindsTags s ((parseTags raw).map Value.text)) ∧
      ((parseTags raw).length < 2 ^ 63 → ∃ p, r.predicates? 1 = some p) := by
  refine ⟨fun raw => ⟨intercalate_parseTags raw, comma_notMem_parseTags raw, length_parseTags⟩,
    fun tags _ hne hcomma => parseTags_intercalate hcomma hne, fun raw r hr => ⟨?_, ?_⟩⟩
  · intro s p hp
    obtain rfl := SearchRequest.eq_predicates hp
    exact hr ▸ r.bindsTags_predicates s
  · intro hlength
    refine SearchRequest.exists_predicates?_one ?_
    rwa [hr, List.length_map]

/-- Two tags between which there is an empty one, behind another empty one, and a level. -/
theorem parseTags_exact_gaps :
    let r : SearchRequest := {
      tags := [.text "", .text "a", .text "", .text "b"], level := .text "GCSE" }
    parseTags ",a,,b" = ["", "a", "", "b"] ∧
      ∃ p, r.predicates? 1 = some p ∧ p.values = r.tags ++ [.text "GCSE"] ∧
        p.fragments = ["\"tags\" @> ARRAY[$1] AND \"tags\" @> ARRAY[$2] AND " ++
          "\"tags\" @> ARRAY[$3] AND \"tags\" @> ARRAY[$4]", "\"level\" = $5"] := by
  intro r
  obtain ⟨-, hread, hbound⟩ := parseTags_exact
  have htags : parseTags ",a,,b" = ["", "a", "", "b"] :=
    hread ["", "a", "", "b"] (by decide) (by decide) (by decide)
  obtain ⟨-, hexists⟩ := hbound ",a,,b" r (by rw [htags]; rfl)
  obtain ⟨p, hp⟩ := hexists (by rw [htags]; decide)
  refine ⟨htags, p, hp, ?_⟩
  obtain rfl := SearchRequest.eq_predicates hp
  exact ⟨rfl, by decide +kernel⟩

end Parameters

end CatalogSearch
