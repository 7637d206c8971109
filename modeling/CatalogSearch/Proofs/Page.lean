import CatalogSearch.Proofs.Calls
import CatalogSearch.Proofs.Independence
import CatalogSearch.Proofs.Number.Overflow

/-!
# The page of a plan

Raw parameters either are refused for their limit, offset or sort, or they come to a plan. With an
accepted language and a vector of finite numbers only one thing else can go wrong: a default page
size that is too long to be written cannot be clamped. Limit and offset are the last two parameters
of the plan, and its text ends in the references to them. The limit is what was asked for or the
default, clamped either way; the offset fits the store's whole numbers.

* `Query.IsPaged`: a plan that ends in a page.
* `Parameters.IsOverlong`: a default that cannot be clamped.
* `Parameters.normalize_cases`: what raw parameters come to.
* `Parameters.rejected_or_paged`: from raw parameters to the plan.
* `Parameters.neither_rejected_nor_paged`: a default page size and a vector that come to nothing.
-/

namespace CatalogSearch

namespace Parameters

/-! ### Reading the parameters -/

theorem count_of_parseCount {raw field : String} {fallback : Nat} {v : Value}
    (h : parseCount raw field (.int fallback) = .ok v) : ∃ n : Nat, v = .int n := by
  rcases parseCount_ok h with ⟨-, hv⟩ | ⟨n, hv, -⟩
  · exact ⟨fallback, hv⟩
  · exact ⟨n, hv⟩

/-- **The default page size applies, and is above the maximum and too long to be written.** -/
def IsOverlong (ps : Parameters) (defaultLimit maxLimit : Nat) : Prop :=
  ps.textOf "limit" = "" ∧ maxLimit < defaultLimit ∧ isWritable defaultLimit = false

/-- A count that is not above another that can be written can be written. -/
theorem isWritable_of_le {a b : Nat} (h : a ≤ b) (hb : isWritable b = true) :
    isWritable a = true := by
  simp only [isWritable, Int.natAbs_natCast, decide_eq_true_eq] at hb ⊢
  exact Nat.lt_of_le_of_lt h hb

/-- Counts that can be written are clamped to the lesser one. -/
theorem clampLimit_int {asked maximum : Nat} (h : maximum < asked → isWritable asked = true) :
    clampLimit (.int asked) (.int maximum) = .ok (.int (min asked maximum : Nat)) := by
  rw [clampLimit_whole, show min (asked : Int) maximum = (min asked maximum : Nat) by omega]
  intro habove
  have hlt : maximum < asked := by omega
  exact ⟨h hlt, isWritable_of_le (Nat.le_of_lt hlt) (h hlt)⟩

/-- Page sizes can be clamped unless the default applies and is overlong. -/
theorem clampsPage_iff_not_isOverlong (ps : Parameters) (defaultLimit maxLimit : Nat) :
    ps.ClampsPage (.int defaultLimit) (.int maxLimit) ↔ ¬ ps.IsOverlong defaultLimit maxLimit := by
  rw [clampsPage_whole_iff]
  constructor
  · rintro h ⟨hlimit, habove, hlong⟩
    have hasked : parseCount (ps.textOf "limit") "limit" (.int defaultLimit) =
        .ok (.int defaultLimit) := by
      rw [hlimit]
      rfl
    exact nomatch hlong.symm.trans (h defaultLimit hasked (by omega)).1
  · intro h asked hasked habove
    obtain ⟨n, hn⟩ := count_of_parseCount hasked
    obtain rfl : asked = n := by simpa using hn
    -- what is asked for fits the store, so only the default can be too long
    have hwritable : isWritable n = true := by
      rcases parseCount_ok hasked with ⟨hlimit, hv⟩ | ⟨k, hv, hk⟩
      · obtain rfl : n = defaultLimit := by simpa using hv
        exact Bool.eq_true_of_not_eq_false fun hlong => h ⟨hlimit, by omega, hlong⟩
      · obtain rfl : n = k := by simpa using hv
        exact isWritable_of_le_maxCount hk
    exact ⟨hwritable, isWritable_of_le (by omega) hwritable⟩

/-- **What raw parameters come to**, if the page size can be clamped: a refusal of limit, offset or
sort, or the request with its page read and clamped. -/
theorem normalize_cases {ps : Parameters} (hread : ps.IsReadable) {defaultLimit maxLimit : Nat}
    (hshort : ¬ ps.IsOverlong defaultLimit maxLimit) :
    (∃ why, ps.normalize (.int defaultLimit) (.int maxLimit) = .error (.rejected why) ∧
        why.field ∈ ["limit", "offset", "sort"]) ∨
      ∃ (asked offset : Nat) (sort : SortKey × SortDirection),
        parseCount (ps.textOf "limit") "limit" (.int defaultLimit) = .ok (.int asked) ∧
        parseCount (ps.textOf "offset") "offset" (.int 0) = .ok (.int offset) ∧
        offset ≤ maxCount ∧
        ps.normalize (.int defaultLimit) (.int maxLimit) =
          .ok (ps.request (.int (min asked maxLimit : Nat)) (.int offset) sort) := by
  have hclamps := (clampsPage_iff_not_isOverlong ps defaultLimit maxLimit).2 hshort
  rcases normalize_outcome hread (.int defaultLimit) (.int maxLimit) with
    ⟨-, p, why, hfirst, herror⟩ | ⟨hnot, -⟩ | ⟨-, -, r, hr⟩
  · obtain ⟨earlier, later, hsplit, hp, -⟩ := hfirst
    have hmem : p ∈ [Parameter.limit, .offset, .sort] := by
      rw [hsplit]
      exact List.mem_append_right _ List.mem_cons_self
    refine Or.inl ⟨why, herror, ?_⟩
    rw [field_of_refusal? hp]
    exact List.mem_map_of_mem (f := Parameter.name) hmem
  · exact absurd hclamps hnot
  · obtain ⟨-, _, _, _, sort, hasked, hlimit, hoffset, -, rfl⟩ := normalize_eq_ok_iff.1 hr
    obtain ⟨asked, rfl⟩ := count_of_parseCount hasked
    obtain ⟨offset, rfl, hfits⟩ : ∃ n : Nat, _ = Value.int n ∧ n ≤ maxCount := by
      rcases parseCount_ok hoffset with ⟨-, hv⟩ | hv
      · exact ⟨0, hv, Nat.zero_le _⟩
      · exact hv
    have hwritable : maxLimit < asked → isWritable asked = true := fun habove =>
      (clampsPage_whole_iff.1 hclamps asked hasked (by omega)).1
    rw [clampLimit_int hwritable] at hlimit
    cases hlimit
    exact Or.inr ⟨asked, offset, sort, hasked, hoffset, hfits, hr⟩

end Parameters

namespace Query

/-! ### The end of a plan -/

/-- **A plan that ends in a page**: limit and offset are bound last, and the last two references of
the text are to them. -/
structure IsPaged (plan : Plan) (limit offset : Nat) : Prop where
  params : ∃ front, plan.params = front ++ [.int limit, .int offset]
  text : ∃ head, plan.sql = head ++ "LIMIT $" ++ toString (plan.params.length - 1) ++
    " OFFSET $" ++ toString plan.params.length

theorem page_ownStatement (r : SearchRequest) (language : String) :
    ∃ head, (ownStatement r language 1).text = head ++ "LIMIT $" ++ toString (paramCount r - 1) ++
      " OFFSET $" ++ toString (paramCount r) := by
  have hlimit : (1 : Int) + r.filterValues.length + slotCount r = (paramCount r - 1 : Nat) := by
    unfold paramCount
    omega
  have hoffset : ((paramCount r - 1 : Nat) : Int) + 1 = (paramCount r : Nat) := by
    unfold paramCount
    omega
  have hpage : (ownPage r 1).text = "LIMIT $" ++ toString (paramCount r - 1) ++ " OFFSET $" ++
      toString (paramCount r) := by
    have hnumber (k : Nat) : (Piece.ref k).text = "$" ++ toString k := rfl
    unfold ownPage
    rw [hlimit, hoffset, ← String.toList_inj]
    simp [hnumber]
  refine ⟨(ownFront r language 1).text ++ ("\nORDER BY " ++
    (String.intercalate ", " (orderKeys r) ++ "\n")), ?_⟩
  rw [text_ownStatement, hpage]
  simp only [String.append_assoc]

theorem isPaged_assemble {r : SearchRequest} {language literal : String} {q : Parts}
    {limit offset : Nat} (hc : Contributes r (r.predicates 1) language literal q)
    (hlimit : r.limit = .int limit) (hoffset : r.offset = .int offset) :
    IsPaged (assemble r q) limit offset where
  params := ⟨_, by rw [assemble_params hc, hlimit, hoffset]⟩
  text := by
    rw [assemble_sql hc, length_assemble_params hc]
    exact page_ownStatement r language

end Query

namespace Parameters

open Query

/-- An overlong default that applies cannot be clamped. -/
theorem normalize_of_isOverlong {ps : Parameters} (hread : ps.IsReadable)
    {defaultLimit maxLimit : Nat} (h : ps.IsOverlong defaultLimit maxLimit) :
    ps.normalize (.int defaultLimit) (.int maxLimit) = .error (.unwritable .tooLong) := by
  obtain ⟨hlimit, habove, hlong⟩ := h
  have hasked : parseCount (ps.textOf "limit") "limit" (.int defaultLimit) =
      .ok (.int defaultLimit) := by
    rw [hlimit]
    rfl
  have hclamp : clampLimit (.int defaultLimit) (.int maxLimit) = .error (.unwritable .tooLong) :=
    clampLimit_unwritable (by omega) fun hboth => nomatch hlong.symm.trans hboth.1
  rw [normalize_of_isReadable hread, hasked]
  simp only [mapError_ok, ok_bind, error_bind, hclamp]

/-- **From raw parameters to the plan**, with a vector whose numbers the embedding client takes for
finite and an accepted language. A default page size that applies, is above the maximum and too long
to be written is noted in vain, and there is nothing. Otherwise limit, offset or sort is refused, or
the request compiles and its plan ends in the page, the limit clamped and the offset in range. A
list in memory has fewer than 2⁶³ items, so `htags` excludes no parameters. -/
theorem rejected_or_paged {ps : Parameters} (hread : ps.IsReadable) (defaultLimit maxLimit : Nat)
    {vector : List Value} {asked configured : Value} {language : String}
    (hvector : ∀ x ∈ vector, x.isFiniteNumber = .ok true)
    (hlanguage : checkLanguage (effectiveLanguage asked configured) = .ok language)
    (htags : (parseTags (ps.textOf "tags")).length < 2 ^ 63) :
    (ps.IsOverlong defaultLimit maxLimit →
      ps.normalize (.int defaultLimit) (.int maxLimit) = .error (.unwritable .tooLong)) ∧
    (¬ ps.IsOverlong defaultLimit maxLimit →
      (∃ why field message,
        ps.normalize (.int defaultLimit) (.int maxLimit) = .error (.rejected why) ∧
        why.toError = .invalidRequest field message ∧ field ∈ ["limit", "offset", "sort"]) ∨
      ∃ (r : SearchRequest) (plan : Plan) (size limit offset : Nat),
        ps.normalize (.int defaultLimit) (.int maxLimit) = .ok r ∧
        compileFrom r 1 (some (.list vector)) (effectiveLanguage asked configured) = .ok plan ∧
        parseCount (ps.textOf "limit") "limit" (.int defaultLimit) = .ok (.int size) ∧
        parseCount (ps.textOf "offset") "offset" (.int 0) = .ok (.int offset) ∧
        IsPaged plan limit offset ∧ limit = min size maxLimit ∧ limit ≤ maxLimit ∧
        offset ≤ 2 ^ 63 - 1) := by
  refine ⟨normalize_of_isOverlong hread, fun hshort => ?_⟩
  rcases normalize_cases hread hshort with
    ⟨why, hwhy, hfield⟩ | ⟨size, offset, sort, hsize, hoffset, hfits, hr⟩
  · exact Or.inl ⟨why, _, _, hwhy, rfl, hfield⟩
  · obtain ⟨htext, hl⟩ := checkLanguage_eq_ok_iff.1 hlanguage
    have hv : HasVector (ps.request (.int (min size maxLimit : Nat)) (.int offset) sort)
        (some (.list vector)) := fun _ => ⟨_, rfl, isVector_of_isFiniteNumber hvector⟩
    have htags' : (ps.request (.int (min size maxLimit : Nat)) (.int offset) sort).tags.length <
        2 ^ 63 := by simpa [request] using htags
    obtain ⟨q, hq, hplan⟩ := compileFrom_one hl hv htags'
    obtain ⟨literal, hc, -⟩ := parts_ok hq
    rw [← htext] at hplan
    exact Or.inr ⟨_, _, size, min size maxLimit, offset, hr, hplan, hsize, hoffset,
      isPaged_assemble hc rfl rfl, rfl, Nat.min_le_right _ _, hfits⟩

/-- A page that is asked for beyond the maximum, of a semantic search. -/
theorem rejected_or_paged_clamped :
    let ps : Parameters := [("query", .text "cells"), ("semantic", .text "true"),
      ("limit", .text "500"), ("offset", .text "40")]
    ∃ r plan, ps.normalize (.int 20) (.int 100) = .ok r ∧
      compileFrom r 1 (some (.list [.int 1, .int (-2)]))
        (effectiveLanguage .null (.text "english")) = .ok plan ∧ IsPaged plan 100 40 := by
  intro ps
  have hfinite : ∀ x ∈ [Value.int 1, .int (-2)], x.isFiniteNumber = .ok true := by
    simp only [List.forall_mem_cons, Value.isFiniteNumber_int]
    decide +kernel
  have haccepted : (ps.normalize (.int (20 : Nat)) (.int (100 : Nat))).toBool = true := by
    decide +kernel
  have hlimit : parseCount (ps.textOf "limit") "limit" (.int (20 : Nat)) = .ok (.int 500) := by
    rw [show ps.textOf "limit" = "500" from rfl]
    rfl
  have hoffset : parseCount (ps.textOf "offset") "offset" (.int 0) = .ok (.int 40) := by
    rw [show ps.textOf "offset" = "40" from rfl]
    rfl
  have hlanguage : checkLanguage (effectiveLanguage .null (.text "english")) = .ok "english" := rfl
  have hread : ps.IsReadable := isReadable_of_texts (by simp [ps])
  have hshort : ¬ ps.IsOverlong 20 100 := by
    rintro ⟨-, habove, -⟩
    omega
  rcases (rejected_or_paged hread 20 100 hfinite hlanguage (by decide)).2 hshort with
    ⟨why, _, _, hwhy, -⟩ | ⟨r, plan, size, limit, offset, hr, hplan, hs, ho, hpaged, rfl, -⟩
  · rw [hwhy] at haccepted
    exact nomatch haccepted
  · rw [hlimit] at hs
    rw [hoffset] at ho
    cases hs
    cases ho
    exact ⟨r, plan, hr, hplan, hpaged⟩

/-- **Some parameters are neither refused nor come to a plan**: a default page size of 4301 digits
cannot be clamped, and a whole number that rounds beyond floating point is no coordinate. -/
theorem neither_rejected_nor_paged :
    let semantic : Parameters := [("query", .text "algebra"), ("semantic", .text "true")]
    (∀ r, Parameters.normalize [] (.int (Nat.pow 10 digitLimit : Nat)) (.int 100) ≠ .ok r) ∧
      (∀ why, Parameters.normalize [] (.int (Nat.pow 10 digitLimit : Nat)) (.int 100) ≠
        .error (.rejected why)) ∧
      ∃ r, semantic.normalize (.int 20) (.int 100) = .ok r ∧
        compileFrom r 1 (some (.list [.int (Nat.pow 10 309 : Nat)]))
            (effectiveLanguage .null (.text "english")) =
          .error (.badVector (.coordinate .tooLarge)) := by
  intro semantic
  have hempty : IsReadable [] := isReadable_of_texts nofun
  have habove : 100 < Nat.pow 10 digitLimit :=
    Nat.lt_of_lt_of_le (by decide) ten_pow_le_pow_digitLimit
  have hoverlong : IsOverlong [] (Nat.pow 10 digitLimit) 100 :=
    ⟨rfl, by omega, isWritable_pow_digitLimit⟩
  have herror : Parameters.normalize [] (.int (Nat.pow 10 digitLimit : Nat)) (.int 100) =
      .error (.unwritable .tooLong) :=
    normalize_of_isOverlong hempty hoverlong
  have hliteral : (Value.list [.int (Nat.pow 10 309 : Nat)]).vectorLiteral =
      .error (.coordinate .tooLarge) := by
    decide +kernel
  have hr : semantic.normalize (.int 20) (.int 100) =
      .ok (semantic.request (.int 20) (.int 0) (.averageRating, .descending)) := rfl
  have hstrategy := (strategy_eq_semantic_iff hr).2 (by decide)
  refine ⟨fun r hr => ?_, fun why hwhy => ?_, _, hr, ?_⟩
  · rw [herror] at hr
    cases hr
  · rw [herror] at hwhy
    cases hwhy
  · exact compileFrom_of_badVector rfl hstrategy (by decide) hliteral

end Parameters

end CatalogSearch
