import CatalogSearch.Proofs.Batching
import CatalogSearch.Proofs.Compilation
import CatalogSearch.Proofs.References

/-!
# Predicates numbered from elsewhere

Tags are numbered by their distance from the start, and each filter behind them by the number that
is free when it is added; filters that are not given take none. Both count on from the start, so
that with another start the fragments are the same but for their references, which are all moved on
by as much. Where a number on the way is too long to be written there are no predicates.

* `SearchRequest.predicates?_eq_steps`: they are built step by step, and a step may refuse.
* `SearchRequest.IsNumberedFrom`: predicates whose references count from a start.
* `SearchRequest.predicates?_numbered`: those of a request do, and are moved on with the start.
* `SearchRequest.predicates?_unwritable`: a start from which there are none.
-/

namespace CatalogSearch

open Template

/-! ### Templates that are moved on -/

theorem moved_tagTemplates (d : Int) (k : Nat) (n : Int) :
    (tagTemplates k n).map (moved d) = tagTemplates k (n + d) := by
  induction k generalizing n with
  | zero => rfl
  | succ k ih =>
    rw [tagTemplates, List.map_cons, ih, tagTemplates, Int.add_right_comm]
    rfl

theorem moved_equalityTemplates (d : Int) (cs : List String) (n : Int) :
    (equalityTemplates cs n).map (moved d) = equalityTemplates cs (n + d) := by
  induction cs generalizing n with
  | nil => rfl
  | cons c cs ih =>
    rw [equalityTemplates, List.map_cons, ih, equalityTemplates, Int.add_right_comm]
    rfl

theorem Template.moved_join (d : Int) (sep : String) (ts : List Template) :
    moved d (join sep ts) = join sep (ts.map (moved d)) := by
  induction ts with
  | nil => rfl
  | cons t ts ih =>
    rcases eq_or_ne ts [] with rfl | h
    · rw [List.map_singleton, join_singleton, join_singleton]
    · rw [join_cons sep t h, List.map_cons, join_cons sep _ (by simpa using h), ← ih]
      simp [moved, Piece.moved]

/-- `countFrom` as a list of sums. -/
theorem countFrom_eq (n : Int) (k : Nat) :
    countFrom n k = (List.range k).map fun i : Nat => n + i := by
  induction k generalizing n with
  | zero => rfl
  | succ k ih =>
    rw [countFrom, ih, List.range_succ_eq_map, List.map_cons, List.map_map]
    refine congrArg₂ List.cons (Int.add_zero n).symm (List.map_congr_left fun i _ => ?_)
    show n + 1 + (i : Int) = n + (i + 1 : Nat)
    omega

/-! ### Building them step by step -/

namespace PredicateSet

/-- Equalities are added one by one while references to them can be written. -/
theorem foldlM_addEquality? (es : List (String × Value)) (p : PredicateSet) :
    es.foldlM (fun p e => p.addEquality? e.1 e.2) p =
      if areWritable p.nextIndex (given es).length then
        some (es.foldl (fun p e => p.addEquality e.1 e.2) p)
      else none := by
  induction es generalizing p with
  | nil => rfl
  | cons e es ih =>
    rw [List.foldlM_cons, List.foldl_cons, addEquality?]
    by_cases he : e.2.isTruthy = true
    -- a filter that is given takes the next number, and the others take those behind it
    · have hnext : (p.addEquality e.1 e.2).nextIndex = p.nextIndex + 1 := by
        rw [addEquality, if_pos he]
        rfl
      have hgiven : (given (e :: es)).length = 1 + (given es).length := by
        simp [given, he, Nat.add_comm]
      rw [hgiven, areWritable_add, he]
      cases hw : p.canRefer 1 with
      | false =>
        rw [canRefer] at hw
        rw [hw]
        rfl
      | true =>
        rw [canRefer] at hw
        rw [hw, Bool.true_and]
        change List.foldlM _ (p.addEquality e.1 e.2) es = _
        rw [ih, hnext]
        rfl
    · have hsame : p.addEquality e.1 e.2 = p := if_neg he
      have hgiven : given (e :: es) = given es := List.filter_cons_of_neg he
      rw [Bool.not_eq_true] at he
      rw [hgiven, hsame, ← ih, he]
      rfl

end PredicateSet

namespace SearchRequest

/-- **The predicates of a request are built step by step**, and there are none where a step
refuses. -/
theorem predicates?_eq_steps (r : SearchRequest) (n : Int) :
    r.predicates? n =
      (PredicateSet.addTags? { nextIndex := n } r.tags).bind fun p =>
        r.equalities.foldlM (fun p e => p.addEquality? e.1 e.2) p := by
  have hlength : r.filterValues.length =
      r.tags.length + (PredicateSet.given r.equalities).length := by
    rw [filterValues, List.length_append, List.length_map]
  rw [Query.predicates?_eq, hlength, areWritable_add, PredicateSet.addTags?, PredicateSet.canRefer]
  cases areWritable n r.tags.length with
  | false => rfl
  | true =>
    rw [Bool.true_and, if_pos rfl, Option.bind_some, PredicateSet.foldlM_addEquality?,
      PredicateSet.nextIndex_addTags]
    rfl

/-! ### Numbered from a start -/

/-- **The fragments of the filters move on with the start.** -/
theorem moved_filterFragments (r : SearchRequest) (d n : Int) :
    (r.filterFragments n).map (moved d) = r.filterFragments (n + d) := by
  unfold filterFragments
  rw [List.map_append, moved_equalityTemplates, Int.add_right_comm]
  split
  · rfl
  · rw [List.map_singleton, moved_join, moved_tagTemplates]

theorem clean_filterFragments (r : SearchRequest) (n : Int) :
    ∀ t ∈ r.filterFragments n, t.Clean := by
  have htags : ∀ t ∈ tagTemplates r.tags.length n, t.Clean :=
    Query.forall_tagTemplates (by decide) (fun _ _ => trivial) _
  have hcolumns : ∀ c ∈ r.columns, (Piece.fixed (c ++ " = ")).Clean := by
    intro c hc
    have hmem := mem_columns hc
    simp only [List.mem_cons, List.not_mem_nil, or_false] at hmem
    rcases hmem with rfl | rfl | rfl | rfl <;> decide
  unfold filterFragments
  rw [List.forall_mem_append]
  refine ⟨?_, Query.forall_equalityTemplates hcolumns fun _ _ => trivial⟩
  split
  · exact nofun
  · exact List.forall_mem_singleton.2 (forall_join (by decide) htags)

/-! ### Predicates -/

/-- **Predicates whose references count from `s`**: all tags are bound and then the filters that are
given, each referred to once and in this order, and the next free number is the one behind. -/
structure IsNumberedFrom (r : SearchRequest) (s : Int) (p : PredicateSet) : Prop where
  values : p.values = r.tags ++ [r.subject, r.examBoard, r.level, r.type].filter Value.isTruthy
  count : p.values.length =
    r.tags.length + [r.subject, r.examBoard, r.level, r.type].countP Value.isTruthy
  refs : p.fragments.flatMap references = (List.range p.values.length).map fun i : Nat => s + i
  nextIndex : p.nextIndex = s + p.values.length

theorem filterValues_eq_append (r : SearchRequest) :
    r.filterValues =
      r.tags ++ [r.subject, r.examBoard, r.level, r.type].filter Value.isTruthy := by
  have hgiven : (PredicateSet.given r.equalities).map (·.2) =
      (r.equalities.map (·.2)).filter Value.isTruthy := by
    rw [List.filter_map]
    rfl
  rw [filterValues, hgiven]
  rfl

theorem count_filterValues (r : SearchRequest) :
    r.filterValues.length =
      r.tags.length + [r.subject, r.examBoard, r.level, r.type].countP Value.isTruthy := by
  rw [r.filterValues_eq_append, List.length_append, List.countP_eq_length_filter]

theorem isNumberedFrom_predicates (r : SearchRequest) (s : Int) :
    r.IsNumberedFrom s (r.predicates s) := by
  have hrefs : ((r.filterFragments s).map text).flatMap references =
      (r.filterFragments s).flatMap refs := by
    rw [List.flatMap_map]
    exact List.flatMap_congr fun t ht => (r.clean_filterFragments s t ht).references_text
  rw [predicates_eq]
  constructor
  · exact r.filterValues_eq_append
  · exact r.count_filterValues
  · rw [hrefs, flatMap_refs_filterFragments, countFrom_eq]
  · rfl

/-- **With another start the references are moved on** by the difference, and nothing else is
changed. -/
theorem predicates_moved (r : SearchRequest) (s s' : Int) :
    (r.predicates s').values = (r.predicates s).values ∧
      (r.predicates s').fragments = (r.predicates s).fragments.map (renumbered (s' - s)) := by
  rw [predicates_eq, predicates_eq]
  refine ⟨rfl, ?_⟩
  have hstart : s' = s + (s' - s) := by omega
  dsimp only
  rw [hstart, ← moved_filterFragments, List.map_map, List.map_map, ← hstart]
  exact List.map_congr_left fun t ht =>
    ((r.clean_filterFragments s t ht).renumbered_text (s' - s)).symm

theorem eq_predicates {r : SearchRequest} {s : Int} {p : PredicateSet}
    (h : r.predicates? s = some p) : p = r.predicates s := by
  rw [Query.predicates?_eq] at h
  split at h
  · exact (Option.some.inj h).symm
  · exact nomatch h

/-- There are predicates exactly if the number of each value can be written. -/
theorem exists_predicates?_iff (r : SearchRequest) (s : Int) :
    (∃ p, r.predicates? s = some p) ↔
      ∀ i < r.tags.length + [r.subject, r.examBoard, r.level, r.type].countP Value.isTruthy,
        isWritable (s + (i : Nat)) = true := by
  rw [Query.predicates?_eq, ← r.count_filterValues, ← areWritable_iff]
  simp only [Option.ite_none_right_eq_some, exists_and_left, Option.some.injEq, exists_eq',
    and_true]

/-- **The predicates of a request count on from any start.** There are predicates exactly if each
number from the start on, one for each value, can be written; then they bind the tags and the
filters that are given, refer to them by these numbers, and are those from one on with the
references moved on. -/
theorem predicates?_numbered (r : SearchRequest) (s : Int) :
    ((∃ p, r.predicates? s = some p) ↔
      ∀ i < r.tags.length + [r.subject, r.examBoard, r.level, r.type].countP Value.isTruthy,
        isWritable (s + (i : Nat)) = true) ∧
    ∀ p, r.predicates? s = some p → r.IsNumberedFrom s p ∧
      ∀ q, r.predicates? 1 = some q →
        p.values = q.values ∧ p.fragments = q.fragments.map (renumbered (s - 1)) := by
  refine ⟨r.exists_predicates?_iff s, fun p hp => ?_⟩
  obtain rfl := eq_predicates hp
  refine ⟨r.isNumberedFrom_predicates s, fun q hq => ?_⟩
  obtain rfl := eq_predicates hq
  exact r.predicates_moved 1 s

/-- Numbered from below zero, with an empty filter between two tags and a level. -/
theorem predicates?_numbered_below :
    let r : SearchRequest := {
      tags := [.text "biology", .text "$9"], examBoard := .text "", level := .text "GCSE" }
    ∃ p q, r.predicates? (-1) = some p ∧ r.predicates? 1 = some q ∧
      p.fragments = ["\"tags\" @> ARRAY[$-1] AND \"tags\" @> ARRAY[$0]", "\"level\" = $1"] ∧
      p.fragments = q.fragments.map (renumbered (-2)) ∧
      p.fragments.flatMap references = [-1, 0, 1] := by
  intro r
  have hbelow : ∀ i < 3, isWritable (-1 + (i : Nat)) = true := by decide +kernel
  have hone : ∀ i < 3, isWritable (1 + (i : Nat)) = true := by decide +kernel
  obtain ⟨hiff, hnumbered⟩ := r.predicates?_numbered (-1)
  obtain ⟨p, hp⟩ := hiff.2 hbelow
  obtain ⟨q, hq⟩ := (r.exists_predicates?_iff 1).2 hone
  obtain ⟨hown, hmoved⟩ := hnumbered p hp
  have hrefs := hown.refs
  obtain rfl := eq_predicates hp
  exact ⟨_, q, hp, hq, by decide +kernel, (hmoved q hq).2, hrefs⟩

/-- **A start from which there are no predicates**: the second tag would be bound by a number of
one digit more than can be written. So it is not true of every start that the predicates are those
from one on with their references moved on. -/
theorem predicates?_unwritable :
    let r : SearchRequest := { tags := [.text "a", .text "b"] }
    (∃ q, r.predicates? 1 = some q) ∧
      r.predicates? (Nat.pow 10 digitLimit - 1 : Nat) = none := by
  intro r
  have hone : ∀ i < 2, isWritable (1 + (i : Nat)) = true := by decide +kernel
  refine ⟨(r.exists_predicates?_iff 1).2 hone, ?_⟩
  rw [Option.eq_none_iff_forall_ne_some]
  intro p hp
  have hsecond := (r.exists_predicates?_iff _).1 ⟨p, hp⟩ 1 (by decide)
  have hpow (k : Nat) : 0 < Nat.pow 10 k := Nat.pow_pos (by decide)
  have hpos := hpow digitLimit
  rw [isWritable, decide_eq_true_iff] at hsecond
  -- the power is not to be computed
  generalize Nat.pow 10 digitLimit = bound at hsecond hpos
  omega

end SearchRequest

end CatalogSearch
