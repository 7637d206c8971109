import CatalogSearch.Proofs.Independence
import CatalogSearch.Proofs.Page

/-!
# Requests written back as parameters

A request can be written as raw parameters again: tags with commas between them, counts in decimal,
key and direction of the order with a colon, and the flags as words. Reading is lossy, since a page
size is clamped and an empty parameter is as good as none, but it is lossy only once: what has been
read is written in a form of its own, and that form is read as it is.

* `SearchRequest.parameters`: a request written back.
* `SearchRequest.IsCanonical`: the requests that reading can give.
* `Parameters.isCanonical_of_normalize`: it gives no others.
* `SearchRequest.IsCanonical.normalize_parameters`: and each of them is read from its own text.
* `Parameters.normalize_again`: hence what has been read is read again as it was.
-/

namespace CatalogSearch

open Text

namespace SearchRequest

/-- What is written of a field: texts as they are, whole numbers in decimal, and else nothing. -/
def fieldText : Value → String
  | .text s => s
  | .int i => toString i
  | _ => ""

def flagText (b : Bool) : String := if b then "true" else "false"

/-- The text that a request gives a parameter. -/
def textFor (r : SearchRequest) : Parameter → String
  | .query => fieldText r.query
  | .tags => String.intercalate "," (r.tags.map fieldText)
  | .subject => fieldText r.subject
  | .examBoard => fieldText r.examBoard
  | .level => fieldText r.level
  | .type => fieldText r.type
  | .limit => fieldText r.limit
  | .offset => fieldText r.offset
  | .sort => r.sortKey.name ++ ":" ++ r.sortDirection.name
  | .fuzzy => flagText r.fuzzy
  | .semantic => flagText r.semantic

/-- **A request written back** as raw parameters, all eleven of them. -/
def parameters (r : SearchRequest) : Parameters :=
  Parameter.all.map fun p => (p.name, .text (r.textFor p))

/-- A filter that has been read: none, or a text that is not empty. -/
def IsFilter (v : Value) : Prop :=
  v = .null ∨ ∃ s, s ≠ "" ∧ v = .text s

/-- **The requests that reading can give** under a maximum of the page size: texts, with no comma in
a tag and never the one empty tag; filters that are none where they are empty; and counts in
range. Order and flags may be any. -/
structure IsCanonical (r : SearchRequest) (maxLimit : Nat) : Prop where
  query : ∃ s, r.query = .text s
  tags : ∃ tags : List String, r.tags = tags.map Value.text ∧ (∀ tag ∈ tags, ',' ∉ tag.toList) ∧
    tags ≠ [""]
  subject : IsFilter r.subject
  examBoard : IsFilter r.examBoard
  level : IsFilter r.level
  type : IsFilter r.type
  limit : ∃ n : Nat, r.limit = .int n ∧ n ≤ maxLimit
  offset : ∃ n : Nat, r.offset = .int n ∧ n ≤ maxCount

theorem isReadable_parameters (r : SearchRequest) : r.parameters.IsReadable :=
  Parameters.isReadable_of_texts (List.forall_mem_map.2 fun _ _ => .inr ⟨_, rfl⟩)

theorem textOf_parameters (r : SearchRequest) (p : Parameter) :
    r.parameters.textOf p.name = r.textFor p := by
  cases p <;> rfl

/-- A flag that stands unless it is something else than true. -/
theorem fuzzy_flagText {text : String} {b : Bool} (h : text = flagText b) :
    (decide (text = "") || decide (text = "true")) = b := by
  rw [h]
  cases b <;> rfl

/-- A flag that stands only if it is true. -/
theorem semantic_flagText {text : String} {b : Bool} (h : text = flagText b) :
    decide (text = "true") = b := by
  rw [h]
  cases b <;> rfl

end SearchRequest

namespace Parameters

/-! ### Texts read back -/

/-- **The tags of a text are its own**: with commas between them they are the text again. -/
theorem intercalate_parseTags (raw : String) : String.intercalate "," (parseTags raw) = raw := by
  unfold parseTags
  by_cases hraw : raw = ""
  · rw [if_pos hraw, hraw]
    rfl
  · rw [if_neg hraw, ← String.toList_inj, String.toList_intercalate, List.map_map,
      pieces_eq_splitOn]
    have hid : String.toList ∘ String.ofList = id := funext fun cs => String.toList_ofList
    rw [hid, List.map_id]
    exact List.intercalate_splitOn ','

theorem comma_notMem_parseTags (raw : String) : ∀ tag ∈ parseTags raw, ',' ∉ tag.toList := by
  unfold parseTags
  by_cases hraw : raw = ""
  · rw [if_pos hraw]
    exact nofun
  · rw [if_neg hraw, List.forall_mem_map]
    intro cs hcs
    rw [String.toList_ofList]
    exact notMem_pieces ',' raw.toList cs hcs

theorem parseTags_ne_singleton_empty (raw : String) : parseTags raw ≠ [""] := by
  intro h
  have hraw : raw = "" := by rw [← intercalate_parseTags raw, h]; rfl
  rw [hraw] at h
  exact nomatch h

/-- **Tags without commas are read back**, unless all there is is one empty tag: its text is also
that of no tags. -/
theorem parseTags_intercalate {tags : List String} (hcomma : ∀ tag ∈ tags, ',' ∉ tag.toList)
    (hne : tags ≠ [""]) : parseTags (String.intercalate "," tags) = tags := by
  by_cases hnil : tags = []
  · rw [hnil]
    rfl
  · have hsplit : (String.intercalate "," tags).toList.splitOn ',' = tags.map String.toList := by
      rw [String.toList_intercalate]
      exact List.splitOn_intercalate ',' (List.forall_mem_map.2 hcomma) (by simpa using hnil)
    have hback : (tags.map String.toList).map String.ofList = tags := by
      have hid : String.ofList ∘ String.toList = id := funext fun s => String.ofList_toList
      rw [List.map_map, hid, List.map_id]
    have htext : String.intercalate "," tags ≠ "" := by
      intro hempty
      refine hne ?_
      rw [← hback, ← hsplit, hempty]
      rfl
    rw [parseTags, if_neg htext, pieces_eq_splitOn, hsplit, hback]

theorem toList_fieldText_count (n : Nat) :
    (SearchRequest.fieldText (.int n)).toList = Nat.toDigits 10 n := by
  rw [show SearchRequest.fieldText (.int n) = Nat.repr n from rfl, Nat.toList_repr]

/-- A number that fits the store is read from its decimal text. -/
theorem parseCount_written {n : Nat} (h : n ≤ maxCount) (field : String) (fallback : Value) :
    parseCount (SearchRequest.fieldText (.int n)) field fallback = .ok (.int n) := by
  have hdigits : ∀ c ∈ Nat.toDigits 10 n, c.isDigit = true := fun c =>
    Nat.isDigit_of_mem_toDigits (by decide) (by decide)
  have hraw : SearchRequest.fieldText (.int n) ≠ "" := by
    intro hempty
    refine Nat.toDigits_ne_nil (n := n) (b := 10) ?_
    rw [← toList_fieldText_count, hempty]
    rfl
  refine (parseCount_eq_ok_iff hraw).2 ⟨n, rfl, readsAs_iff.2
    ⟨Nat.toDigits 10 n, ?_, Nat.toDigits_ne_nil, ?_, hdigits, ?_, h⟩⟩
  · rw [toList_fieldText_count]
    exact (dropFinalNewline_eq_iff fun hn => nomatch hdigits _ hn).2 (.inl rfl)
  · rw [Nat.length_toDigits_le_iff (by decide) (by decide)]
    rw [maxCount_eq] at h
    omega
  · exact Nat.ofDigitChars_ten_toDigits.symm

/-- The name of a sort key is read as the key, whatever direction is asked for. -/
theorem parseSort_name (k : SortKey) (direction : String) :
    parseSort (k.name ++ ":" ++ direction) =
      .ok (k, if direction = "asc" then .ascending else .descending) := by
  have hne : k.name ≠ "" := by cases k <;> decide
  have hcolon : ':' ∉ k.name.toList := by cases k <;> decide
  have htext : (k.name ++ ":" ++ direction).toList = k.name.toList ++ ':' :: direction.toList := by
    simp
  unfold parseSort
  rw [htext, before_append_cons hcolon, after_append_cons hcolon, String.ofList_toList,
    String.ofList_toList]
  dsimp only
  rw [if_neg hne, SortKey.ofName?_name]

theorem parseSort_written (k : SortKey) (d : SortDirection) :
    parseSort (k.name ++ ":" ++ d.name) = .ok (k, d) := by
  rw [parseSort_name]
  cases d <;> rfl

theorem filterOf_fieldText {text : String} {v : Value} (hv : SearchRequest.IsFilter v)
    (h : text = SearchRequest.fieldText v) : filterOf text = v := by
  rw [h]
  rcases hv with rfl | ⟨s, hs, rfl⟩
  · rfl
  · exact if_neg hs

theorem isFilter_filterOf (text : String) : SearchRequest.IsFilter (filterOf text) := by
  by_cases h : text = ""
  · exact Or.inl (if_pos h)
  · exact Or.inr ⟨_, h, if_neg h⟩

/-! ### Requests read back -/

/-- **What has been read is canonical.** -/
theorem isCanonical_of_normalize {ps : Parameters} {d m : Nat} {r : SearchRequest}
    (h : ps.normalize (.int d) (.int m) = .ok r) : r.IsCanonical m := by
  have hread := (normalize_eq_ok_iff.1 h).1
  have hshort := (clampsPage_iff_not_isOverlong ps d m).1 (clampsPage_of_normalize h).1
  rcases normalize_cases hread hshort with ⟨_, herror, -⟩ | ⟨asked, offset, sort, -, -, hoffset, hr⟩
  · exact nomatch h.symm.trans herror
  · rw [h] at hr
    cases hr
    exact {
      query := ⟨_, rfl⟩
      tags := ⟨_, rfl, comma_notMem_parseTags _, parseTags_ne_singleton_empty _⟩
      subject := isFilter_filterOf _
      examBoard := isFilter_filterOf _
      level := isFilter_filterOf _
      type := isFilter_filterOf _
      limit := ⟨_, rfl, Nat.min_le_right _ _⟩
      offset := ⟨_, rfl, hoffset⟩ }

end Parameters

namespace SearchRequest

open Parameters

namespace IsCanonical

variable {r : SearchRequest} {m : Nat}

/-- With its own page and order, a canonical request is that of its own parameters. -/
theorem request_parameters (h : r.IsCanonical m) :
    r.parameters.request r.limit r.offset (r.sortKey, r.sortDirection) = r := by
  have htext := r.textOf_parameters
  refine Parameter.eq_of_sameField fun p => ?_
  cases p with
  | query =>
    obtain ⟨query, hquery⟩ := h.query
    have hown : Value.text (r.textFor .query) = r.query := by rw [textFor, hquery]; rfl
    exact (congrArg Value.text (htext .query)).trans hown
  | tags =>
    obtain ⟨tags, htags, hcomma, hne⟩ := h.tags
    have hjoin : r.textFor .tags = String.intercalate "," tags := by
      have hid : fieldText ∘ Value.text = id := rfl
      rw [textFor, htags, List.map_map, hid, List.map_id]
    have hown : (parseTags (r.textFor .tags)).map Value.text = r.tags := by
      rw [hjoin, parseTags_intercalate hcomma hne, htags]
    exact (congrArg (fun text => (parseTags text).map Value.text) (htext .tags)).trans hown
  | subject => exact filterOf_fieldText h.subject (htext .subject)
  | examBoard => exact filterOf_fieldText h.examBoard (htext .examBoard)
  | level => exact filterOf_fieldText h.level (htext .level)
  | type => exact filterOf_fieldText h.type (htext .type)
  | limit => rfl
  | offset => rfl
  | sort => exact ⟨rfl, rfl⟩
  | fuzzy => exact fuzzy_flagText (htext .fuzzy)
  | semantic => exact semantic_flagText (htext .semantic)

/-- **A canonical request is read from its own parameters**, whatever the default is, if its page
size fits the store. -/
theorem normalize_parameters (h : r.IsCanonical m) (hm : m ≤ maxCount) (d : Nat) :
    r.parameters.normalize (.int d) (.int m) = .ok r := by
  obtain ⟨limit, hlimit, hclamp⟩ := h.limit
  obtain ⟨offset, hoffset, hfits⟩ := h.offset
  refine normalize_eq_ok_iff.2 ⟨r.isReadable_parameters, r.limit, r.limit, r.offset,
    (r.sortKey, r.sortDirection), ?_, ?_, ?_, ?_, h.request_parameters.symm⟩
  · rw [show r.parameters.textOf "limit" = fieldText r.limit from r.textOf_parameters .limit,
      hlimit]
    exact parseCount_written (hclamp.trans hm) _ _
  · rw [hlimit, clampLimit_int (by omega), Nat.min_eq_left hclamp]
  · rw [show r.parameters.textOf "offset" = fieldText r.offset from r.textOf_parameters .offset,
      hoffset]
    exact parseCount_written hfits _ _
  · rw [show r.parameters.textOf "sort" = _ from r.textOf_parameters .sort]
    exact parseSort_written _ _

end IsCanonical

end SearchRequest

namespace Parameters

/-- **What has been read is read again as it was**: whatever was given for the parameters, the
request that came of it is written back in all eleven, and under the same default and maximum, the
maximum within the store's whole numbers, exactly that request comes of them. -/
theorem normalize_again (ps : Parameters) (d m : Nat) (hm : m ≤ 2 ^ 63 - 1) {r : SearchRequest}
    (h : ps.normalize (.int d) (.int m) = .ok r) :
    r.parameters.normalize (.int d) (.int m) = .ok r :=
  (isCanonical_of_normalize h).normalize_parameters hm d

/-- A page size beyond the maximum, the largest offset, empty tags at both ends, a direction that is
none and a flag that is no word. -/
theorem normalize_again_clamped :
    let ps : Parameters := [("tags", .text ",cells,"), ("level", .null), ("limit", .text "500"),
      ("offset", .text "9223372036854775807"), ("sort", .text "title:up"), ("fuzzy", .text "no")]
    let r : SearchRequest := {
      tags := [.text "", .text "cells", .text ""], limit := .int 100
      offset := .int 9223372036854775807, sortKey := .title, fuzzy := false }
    100 ≤ 2 ^ 63 - 1 ∧ ps.normalize (.int 20) (.int 100) = .ok r ∧
      r.parameters.normalize (.int 20) (.int 100) = .ok r := by
  intro ps r
  have hr : ps.normalize (.int (20 : Nat)) (.int (100 : Nat)) = .ok r := by
    subst ps r
    have hclamp := @clampLimit_int 500 100 fun _ => by decide +kernel
    exact normalize_eq_ok_iff.2 ⟨isReadable_of_texts (by simp), .int 500, .int 100,
      .int 9223372036854775807, (.title, .descending), rfl, hclamp, rfl, rfl, rfl⟩
  exact ⟨by decide, hr, normalize_again ps 20 100 (by decide) hr⟩

end Parameters

end CatalogSearch
