import Mathlib.Algebra.Group.Nat.Defs
import CatalogSearch.Proofs.Numbering
import CatalogSearch.Proofs.Writing

/-!
# When a request compiles

A request is compiled over its own predicates, whose numbering starts at any whole number. Language
and vector apart, the numbering decides: the references of the statement are the consecutive numbers
from the start on, as many as there are parameters, so they are those from one on exactly when the
start is one.

* `Query.compileFrom`: filters numbered from a start, then the compiler.
* `Query.compileFrom_one`: from one on, an accepted language and vector give a plan.
* `Query.compileFrom_other`: from any other start the plan is refused.
* `Query.compileFrom_isOk_iff`: the two together.
-/

namespace CatalogSearch

open Template Text

/-- A value that can be written as a vector: its elements all stand for floating-point numbers. -/
def Value.IsVector (v : Value) : Prop :=
  ∃ xs, v.elements? = some xs ∧ ∀ x ∈ xs, ∃ f, x.toFloat = .ok f

theorem Value.coordinates_isOk_iff (xs : List Value) :
    (∃ cs, coordinates xs = .ok cs) ↔ ∀ x ∈ xs, ∃ f, x.toFloat = .ok f := by
  induction xs with
  | nil => simp [coordinates]
  | cons x xs ih =>
    rw [List.forall_mem_cons, ← ih]
    simp only [coordinates, bind_eq_ok_iff]
    constructor
    · rintro ⟨_, f, hf, fs, hfs, -⟩
      exact ⟨⟨f, hf⟩, fs, hfs⟩
    · rintro ⟨⟨f, hf⟩, fs, hfs⟩
      exact ⟨_, f, hf, fs, hfs, rfl⟩

theorem Value.vectorLiteral_isOk_iff (v : Value) :
    (∃ literal, v.vectorLiteral = .ok literal) ↔ v.IsVector := by
  unfold IsVector vectorLiteral
  cases v.elements? with
  | none => simp
  | some xs =>
    simp only [Option.some.injEq, exists_eq_left']
    rw [← coordinates_isOk_iff]
    cases coordinates xs <;> simp

namespace Query

theorem assemble_sql {r : SearchRequest} {n : Int} {literal language : String} {q : Parts}
    (hc : Contributes r (r.predicates n) language literal q) :
    (assemble r q).sql = (ownStatement r language n).text := by
  unfold ownStatement assemble
  rw [hc.sql (r.filterFragments n) (by rw [SearchRequest.predicates_eq]),
    SearchRequest.predicates_eq]

/-- The parameters are the values of the filters, those of the strategy, and the page. -/
theorem assemble_params {r : SearchRequest} {n : Int} {literal language : String} {q : Parts}
    (hc : Contributes r (r.predicates n) language literal q) :
    (assemble r q).params = r.filterValues ++ strategyValues r literal ++ [r.limit, r.offset] := by
  unfold assemble
  rw [hc.values, SearchRequest.predicates_eq]

theorem length_assemble_params {r : SearchRequest} {n : Int} {literal language : String}
    {q : Parts} (hc : Contributes r (r.predicates n) language literal q) :
    (assemble r q).params.length = paramCount r := by
  rw [assemble_params hc, List.length_append, List.length_append, length_strategyValues]
  rfl

/-- **What becomes of parts that are known**: the statement is put together, and its placeholders
are compared with the parameters. -/
theorem compile_eq_of_parts {r : SearchRequest} {p : PredicateSet} {vector : Option Value}
    {language : String} {q : Parts} (hl : isLanguage language = true)
    (hq : parts r p vector language = .ok q) :
    compile r p vector (.text language) =
      if !(p.canRefer 1 && q.bound.canRefer 2) then .error .unwritable
      else
        match Placeholder.check (assemble r q).sql (assemble r q).params.length with
        | .ok _ => .ok (assemble r q)
        | .error why => .error (.placeholders why) := by
  unfold compile
  rw [checkLanguage_eq_ok_iff.2 ⟨rfl, hl⟩]
  cases hcheck : Placeholder.check (assemble r q).sql (assemble r q).params.length with
  | ok _ => simp only [hq, hcheck]
  | error why => simp only [hq, hcheck]

/-- What becomes of parts that are known, over the request's own filters. -/
theorem compile_of_parts {r : SearchRequest} {n : Int} {vector : Option Value} {language : String}
    {q : Parts} (hl : isLanguage language = true)
    (hq : parts r (r.predicates n) vector language = .ok q) :
    compile r (r.predicates n) vector (.text language) =
      if !((r.predicates n).canRefer 1 && q.bound.canRefer 2) then .error .unwritable
      else
        match Placeholder.check (ownStatement r language n).text (paramCount r) with
        | .ok _ => .ok (assemble r q)
        | .error why => .error (.placeholders why) := by
  obtain ⟨literal, hc, -⟩ := parts_ok hq
  rw [compile_eq_of_parts hl hq, assemble_sql hc, length_assemble_params hc]

/-- All numbers of a run can be written if its ends can. -/
theorem isWritable_of_areWritable {a m : Int} {k : Nat} (h : areWritable a k = true) (h1 : a ≤ m)
    (h2 : m < a + k) : isWritable m = true := by
  obtain ⟨i, rfl⟩ : ∃ i : Nat, m = a + i := ⟨(m - a).toNat, by omega⟩
  exact areWritable_iff.1 h i (by omega)

/-- The three places where numbers are written make up one run. -/
theorem areWritable_paramCount {r : SearchRequest} {n : Int} {literal language : String}
    {q : Parts} (hc : Contributes r (r.predicates n) language literal q) :
    areWritable n (paramCount r) = true ↔
      areWritable n r.filterValues.length = true ∧ (r.predicates n).canRefer 1 = true ∧
        q.bound.canRefer 2 = true := by
  have hp : (r.predicates n).nextIndex = n + r.filterValues.length := by
    rw [SearchRequest.predicates_eq]
  unfold PredicateSet.canRefer paramCount
  rw [hc.nextIndex, hp]
  simp only [areWritable, isWritable, Bool.or_eq_true, Bool.and_eq_true, beq_iff_eq,
    decide_eq_true_iff]
  push_cast
  rw [false_or, false_or, false_or]
  generalize Nat.pow 10 digitLimit = bound
  omega

/-- Compiles a request over its own filters, numbered from `n` on. -/
def compileFrom (r : SearchRequest) (n : Int) (vector : Option Value) (language : Value) :
    Except CompileRefusal Plan :=
  match r.predicates? n with
  | none => .error .unwritable
  | some p => compile r p vector language

theorem predicates?_eq (r : SearchRequest) (n : Int) :
    r.predicates? n =
      if areWritable n r.filterValues.length then some (r.predicates n) else none := by
  have h : (r.predicates n).values = r.filterValues := by rw [SearchRequest.predicates_eq]
  unfold SearchRequest.predicates?
  simp only [h]

/-- The predicates come first: without them it is the numbers that cannot be written. -/
theorem compileFrom_eq (r : SearchRequest) (n : Int) (vector : Option Value) (language : Value) :
    compileFrom r n vector language =
      if areWritable n r.filterValues.length then compile r (r.predicates n) vector language
      else .error .unwritable := by
  unfold compileFrom
  rw [predicates?_eq]
  split_ifs <;> rfl

/-- **What becomes of a request** whose strategy can contribute: only a numbering from one gives
a plan. -/
theorem compileFrom_of_parts {r : SearchRequest} {n : Int} {vector : Option Value}
    {language : String} {q : Parts} (hl : isLanguage language = true)
    (hq : parts r (r.predicates n) vector language = .ok q) :
    compileFrom r n vector (.text language) =
      if areWritable n (paramCount r) = true then
        if n = 1 then .ok (assemble r q)
        else
          .error (.placeholders (.mismatch
            (Placeholder.numbers (ownStatement r language n).text) (paramCount r)))
      else .error .unwritable := by
  obtain ⟨literal, hc, -⟩ := parts_ok hq
  have hiff := areWritable_paramCount hc
  rw [compileFrom_eq, compile_of_parts hl hq]
  by_cases hw : areWritable n (paramCount r) = true
  · obtain ⟨h1, h2, h3⟩ := hiff.1 hw
    have hrefs : ∀ m ∈ (ownStatement r language n).refs, isWritable m = true := by
      intro m hm
      rw [mem_refs_ownStatement] at hm
      exact isWritable_of_areWritable hw hm.1 hm.2
    rw [if_pos h1, if_pos hw, h2, h3, if_neg (by decide),
      Placeholder.check_text (clean_ownStatement r hl n) hrefs]
    by_cases hn : n = 1
    · rw [if_pos ((numbers_ownStatement_iff r hl n).2 hn), if_pos hn]
    · rw [if_neg (fun h => hn ((numbers_ownStatement_iff r hl n).1 h)), if_neg hn]
  · rw [if_neg hw]
    by_cases h1 : areWritable n r.filterValues.length = true
    · rw [hiff, not_and] at hw
      rw [if_pos h1, if_pos (by simpa [imp_iff_not_or] using hw h1)]
    · rw [if_neg h1]

/-- A plan comes from an accepted language and from what the strategy contributes. -/
theorem compile_ok {r : SearchRequest} {p : PredicateSet} {vector : Option Value}
    {language : Value} {plan : Plan} (h : compile r p vector language = .ok plan) :
    ∃ s q, language = .text s ∧ isLanguage s = true ∧ parts r p vector s = .ok q ∧
      p.canRefer 1 = true ∧ q.bound.canRefer 2 = true ∧ plan = assemble r q := by
  unfold compile at h
  cases hl : checkLanguage language with
  | error why => simp [hl] at h
  | ok s =>
    simp only [hl] at h
    cases hq : parts r p vector s with
    | error why => simp [hq] at h
    | ok q =>
      simp only [hq] at h
      obtain ⟨hv, hs⟩ := checkLanguage_eq_ok_iff.1 hl
      split at h
      · simp at h
      · rename_i hw
        simp only [Bool.not_eq_true, Bool.not_eq_false', Bool.and_eq_true] at hw
        split at h
        · simp only [Except.ok.injEq] at h
          exact ⟨s, q, hv, hs, hq, hw.1, hw.2, h.symm⟩
        · simp at h

/-- The placeholders are only looked at in an accepted language and with all parts there. -/
theorem compile_placeholders {r : SearchRequest} {p : PredicateSet} {vector : Option Value}
    {language : Value} {why : PlaceholderRefusal}
    (h : compile r p vector language = .error (.placeholders why)) :
    ∃ s q, language = .text s ∧ isLanguage s = true ∧ parts r p vector s = .ok q := by
  unfold compile at h
  cases hl : checkLanguage language with
  | error why' =>
    simp only [hl, Except.error.injEq] at h
    subst h
    unfold checkLanguage at hl
    split at hl
    · split at hl <;> simp at hl
    · simp at hl
  | ok s =>
    obtain ⟨hv, hs⟩ := checkLanguage_eq_ok_iff.1 hl
    simp only [hl] at h
    cases hq : parts r p vector s with
    | error why' =>
      simp only [hq, Except.error.injEq] at h
      subst h
      unfold parts at hq
      split at hq
      · split at hq
        · simp at hq
        · split at hq
          · simp at hq
          · split at hq <;> simp at hq
      · simp at hq
      · simp at hq
    | ok q => exact ⟨s, q, hv, hs, hq⟩

/-- **A plan over the request's own filters**: its numbering starts from one. -/
theorem compileFrom_ok {r : SearchRequest} {n : Int} {vector : Option Value} {language : Value}
    {plan : Plan} (h : compileFrom r n vector language = .ok plan) :
    n = 1 ∧ ∃ s q, language = .text s ∧ isLanguage s = true ∧
      parts r (r.predicates n) vector s = .ok q ∧ plan = assemble r q := by
  have hp : compile r (r.predicates n) vector language = .ok plan := by
    rw [compileFrom_eq] at h
    split_ifs at h
    exact h
  obtain ⟨s, q, rfl, hs, hq, -, -, hplan⟩ := compile_ok hp
  refine ⟨?_, s, q, rfl, hs, hq, hplan⟩
  by_contra hn
  rw [compileFrom_of_parts hs hq, if_neg hn] at h
  split_ifs at h

/-- The embedding that a semantic search needs is there. -/
def HasVector (r : SearchRequest) (vector : Option Value) : Prop :=
  r.strategy = .semantic → ∃ v, vector = some v ∧ v.IsVector

theorem HasVector.literal {r : SearchRequest} {vector : Option Value} (h : HasVector r vector)
    (hs : r.strategy = .semantic) :
    ∃ v literal, vector = some v ∧ v.vectorLiteral = .ok literal := by
  obtain ⟨v, hv, hvec⟩ := h hs
  obtain ⟨literal, hl⟩ := v.vectorLiteral_isOk_iff.2 hvec
  exact ⟨v, literal, hv, hl⟩

theorem hasVector_of_parts {r : SearchRequest} {p : PredicateSet} {vector : Option Value}
    {language : String} {q : Parts} (h : parts r p vector language = .ok q) :
    HasVector r vector := by
  obtain ⟨literal, -, hv⟩ := parts_ok h
  intro hs
  obtain ⟨v, rfl, hl⟩ := hv hs
  exact ⟨v, rfl, v.vectorLiteral_isOk_iff.1 ⟨literal, hl⟩⟩

/-- A list of tags is as long as a machine can count at most, and that number can be written. -/
theorem areWritable_one {r : SearchRequest} (hr : r.tags.length < 2 ^ 63) :
    areWritable 1 (paramCount r) = true := by
  have htwenty : Nat.pow 10 20 = 100000000000000000000 := rfl
  have hk : paramCount r < Nat.pow 10 20 := by
    have h1 := r.length_filterValues
    have h2 := r.length_columns_le
    have h3 : slotCount r ≤ 2 := by
      unfold slotCount; cases r.strategy <;> simp; split <;> simp
    unfold paramCount
    omega
  simp only [areWritable, Bool.or_eq_true, Bool.and_eq_true, beq_iff_eq]
  exact Or.inr ⟨isWritable_of_lt (by decide), isWritable_of_lt (by omega)⟩

theorem canRefer_one {r : SearchRequest} (hr : r.tags.length < 2 ^ 63) :
    (r.predicates 1).canRefer 1 = true := by
  have hw := areWritable_one hr
  unfold PredicateSet.canRefer
  rw [SearchRequest.predicates_eq]
  simp only [areWritable, Bool.or_eq_true, Bool.and_eq_true, beq_iff_eq]
  exact Or.inr ⟨isWritable_of_areWritable hw (by omega) (by unfold paramCount; omega),
    isWritable_of_areWritable hw (by omega) (by unfold paramCount; push_cast; omega)⟩

/-- **Numbered from one, every request compiles** whose language and vector are accepted. -/
theorem compileFrom_one {r : SearchRequest} {vector : Option Value} {language : String}
    (hl : isLanguage language = true) (hv : HasVector r vector) (hr : r.tags.length < 2 ^ 63) :
    ∃ q, parts r (r.predicates 1) vector language = .ok q ∧
      compileFrom r 1 vector (.text language) = .ok (assemble r q) := by
  obtain ⟨q, hq⟩ := exists_parts language (canRefer_one hr) hv.literal
  refine ⟨q, hq, ?_⟩
  rw [compileFrom_of_parts hl hq, if_pos (areWritable_one hr), if_pos rfl]

/-- A vector that cannot be written is what a semantic search fails for. -/
theorem compileFrom_of_badVector {r : SearchRequest} {v : Value} {language : String}
    {why : VectorRefusal} (hl : isLanguage language = true) (hs : r.strategy = .semantic)
    (hr : r.tags.length < 2 ^ 63) (h : v.vectorLiteral = .error why) :
    compileFrom r 1 (some v) (.text language) = .error (.badVector why) := by
  have hfilters : areWritable 1 r.filterValues.length = true := areWritable_iff.2 fun i hi =>
    areWritable_iff.1 (areWritable_one hr) i (by unfold paramCount; omega)
  rw [compileFrom_eq, if_pos hfilters]
  unfold compile parts
  rw [checkLanguage_eq_ok_iff.2 ⟨rfl, hl⟩]
  simp [hs, canRefer_one hr, h]

/-- Without a reference to the next value nothing compiles. -/
theorem compile_of_not_canRefer {r : SearchRequest} {p : PredicateSet} {vector : Option Value}
    {language : String} (hl : isLanguage language = true) (hv : HasVector r vector)
    (hp : p.canRefer 1 = false) :
    compile r p vector (.text language) = .error .unwritable := by
  unfold compile parts
  rw [checkLanguage_eq_ok_iff.2 ⟨rfl, hl⟩]
  cases hs : r.strategy with
  | semantic =>
    obtain ⟨v, hv, -⟩ := hv hs
    simp [hv, hp]
  | fullText => simp [hp]
  | filterOnly => simp [hp]

/-- **Numbered from anywhere else, no request compiles**, and it is the numbering that is told. -/
theorem compileFrom_other {r : SearchRequest} {n : Int} {vector : Option Value}
    {language : String} (hl : isLanguage language = true) (hv : HasVector r vector)
    (hn : n ≠ 1) :
    compileFrom r n vector (.text language) = .error .unwritable ∨
      ∃ numbers, compileFrom r n vector (.text language) =
        .error (.placeholders (.mismatch numbers (paramCount r))) := by
  by_cases hp : (r.predicates n).canRefer 1 = true
  · obtain ⟨q, hq⟩ := exists_parts language hp hv.literal
    rw [compileFrom_of_parts hl hq, if_neg hn]
    split
    · exact Or.inr ⟨_, rfl⟩
    · exact Or.inl rfl
  · left
    rw [compileFrom_eq, compile_of_not_canRefer hl hv (by simpa using hp)]
    split_ifs <;> rfl

/-- **Compilation succeeds exactly from one on**, in an accepted language and with the vector that
a semantic search needs. Then the numbers found behind dollar signs are those of the parameters;
from any other start, the numbering is refused. A list in memory has fewer than 2⁶³ items, so `hr`
excludes no request. -/
theorem compileFrom_isOk_iff (r : SearchRequest) (n : Int) (vector : Option Value)
    (asked configured : Value) (hr : r.tags.length < 2 ^ 63) :
    ((∃ plan, compileFrom r n vector (effectiveLanguage asked configured) = .ok plan) ↔
      (∃ s, checkLanguage (effectiveLanguage asked configured) = .ok s) ∧ n = 1 ∧
        (r.strategy = .semantic → ∃ v, vector = some v ∧ v.IsVector)) ∧
    (∀ plan, compileFrom r n vector (effectiveLanguage asked configured) = .ok plan →
      ∀ m, m ∈ Placeholder.numbers plan.sql ↔ 1 ≤ m ∧ m ≤ plan.params.length) ∧
    (∀ why, compileFrom r 1 vector (effectiveLanguage asked configured) ≠
      .error (.placeholders why)) ∧
    ((∃ s, checkLanguage (effectiveLanguage asked configured) = .ok s) →
      (r.strategy = .semantic → ∃ v, vector = some v ∧ v.IsVector) → n ≠ 1 →
        compileFrom r n vector (effectiveLanguage asked configured) = .error .unwritable ∨
          ∃ numbers, compileFrom r n vector (effectiveLanguage asked configured) =
            .error (.placeholders (.mismatch numbers (paramCount r)))) := by
  generalize effectiveLanguage asked configured = language
  refine ⟨⟨?_, ?_⟩, ?_, ?_, ?_⟩
  · rintro ⟨plan, h⟩
    obtain ⟨hn, s, q, rfl, hs, hq, -⟩ := compileFrom_ok h
    exact ⟨⟨s, checkLanguage_eq_ok_iff.2 ⟨rfl, hs⟩⟩, hn, hasVector_of_parts hq⟩
  · rintro ⟨⟨s, hs⟩, rfl, hv⟩
    obtain ⟨rfl, hl⟩ := checkLanguage_eq_ok_iff.1 hs
    obtain ⟨q, -, h⟩ := compileFrom_one hl hv hr
    exact ⟨_, h⟩
  · intro plan h
    obtain ⟨rfl, s, q, rfl, hs, hq, rfl⟩ := compileFrom_ok h
    obtain ⟨literal, hc, -⟩ := parts_ok hq
    rw [assemble_sql hc, length_assemble_params hc, ← Placeholder.numbers_eq_range_iff]
    exact (numbers_ownStatement_iff r hs 1).2 rfl
  · intro why h
    have hp : compile r (r.predicates 1) vector language = .error (.placeholders why) := by
      rw [compileFrom_eq] at h
      split_ifs at h
      · exact h
      · simp at h
    obtain ⟨s, q, rfl, hs, hq⟩ := compile_placeholders hp
    rw [compileFrom_of_parts hs hq, if_pos rfl] at h
    split_ifs at h
    simp at h
  · rintro ⟨s, hs⟩ hv hn
    obtain ⟨rfl, hl⟩ := checkLanguage_eq_ok_iff.1 hs
    exact compileFrom_other hl hv hn

/-- A fuzzy search for words among two tags and one attribute. -/
theorem compileFrom_one_tagged :
    let r : SearchRequest :=
      { query := .text "cells", tags := [.text "biology", .text "$9"], level := .text "GCSE" }
    r.tags.length < 2 ^ 63 ∧
      (∃ plan, compileFrom r 1 none (effectiveLanguage .null (.text "english")) = .ok plan) ∧
      ¬ ∃ plan, compileFrom r 0 none (effectiveLanguage .null (.text "english")) = .ok plan := by
  intro r
  have hr : r.tags.length < 2 ^ 63 := by decide
  refine ⟨hr, ?_, ?_⟩
  · exact (compileFrom_isOk_iff r 1 none .null (.text "english") hr).1.2
      ⟨⟨"english", rfl⟩, rfl, fun h => by cases h⟩
  · rw [(compileFrom_isOk_iff r 0 none .null (.text "english") hr).1]
    exact fun h => absurd h.2.1 (by decide)

end Query

end CatalogSearch
