import CatalogSearch.Proofs.Writing
import CatalogSearch.Request.Parameters

/-!
# Normalised requests

What raw parameters are read into. Limit, offset and sort can be refused; everything else of the
request is taken from the parameters as it is. Two things can go wrong besides, and neither does
where parameters are texts and page sizes are as short as pages are: a parameter may have no text,
and a page size that has to be clamped may have no order or no text.

* `Parameters.request`: the request of parameters whose page and order have been read.
* `Parameters.IsReadable`, `Parameters.ClampsPage`: what does not go wrong as a rule.
* `Parameters.normalize_eq_ok_iff`: when parameters are accepted, and what the request then is.
* `Parameters.strategy_eq_semantic_iff`: which parameters ask for an embedding.
* `Parameters.normalize_rejected`: what refuses a request is wrong with one of three parameters.
-/

namespace CatalogSearch

namespace Parameters

/-- The text of a parameter, empty where there is none. -/
def textOf (ps : Parameters) (name : String) : String :=
  (ps.textOf? name).toOption.getD ""

/-- **All parameters of a search have a text.** -/
def IsReadable (ps : Parameters) : Prop :=
  ∀ name ∈ names, ∃ s, ps.textOf? name = .ok s

/-- The request of parameters whose page and order have been read. -/
def request (ps : Parameters) (limit offset : Value) (sort : SortKey × SortDirection) :
    SearchRequest where
  query := .text (ps.textOf "query")
  tags := (parseTags (ps.textOf "tags")).map Value.text
  subject := filterOf (ps.textOf "subject")
  examBoard := filterOf (ps.textOf "examboard")
  level := filterOf (ps.textOf "level")
  type := filterOf (ps.textOf "type")
  limit := limit
  offset := offset
  sortKey := sort.1
  sortDirection := sort.2
  fuzzy := ps.textOf "fuzzy" = "" || ps.textOf "fuzzy" = "true"
  semantic := ps.textOf "semantic" = "true"

variable {ps : Parameters} {defaultLimit maxLimit : Value} {r : SearchRequest} {name s : String}
variable {why : Rejection}

theorem textOf_eq (h : ps.textOf? name = .ok s) : ps.textOf name = s := by
  rw [textOf, h]
  rfl

theorem IsReadable.textOf? (h : ps.IsReadable) (hname : name ∈ names) :
    ps.textOf? name = .ok (ps.textOf name) := by
  obtain ⟨s, hs⟩ := h name hname
  rw [hs, textOf_eq hs]

theorem exists_textOf?_iff {p : String → Prop} :
    (∃ s, ps.textOf? name = .ok s ∧ p s) ↔ (∃ s, ps.textOf? name = .ok s) ∧ p (ps.textOf name) := by
  constructor
  · rintro ⟨s, hs, hp⟩
    exact ⟨⟨s, hs⟩, (textOf_eq hs).symm ▸ hp⟩
  · rintro ⟨⟨s, hs⟩, hp⟩
    exact ⟨s, hs, textOf_eq hs ▸ hp⟩

/-- Texts and null can be read. -/
theorem isReadable_of_texts (h : ∀ e ∈ ps, e.2 = .null ∨ ∃ s, e.2 = .text s) : ps.IsReadable := by
  intro name _
  unfold Parameters.textOf?
  cases hv : ps.lookup name with
  | none => exact ⟨_, rfl⟩
  | some v =>
    obtain ⟨front, behind, hps, -⟩ := List.lookup_eq_some_iff.1 hv
    have hmem : (name, v) ∈ ps := by simp [hps]
    obtain rfl | ⟨s, rfl⟩ : v = .null ∨ ∃ s, v = .text s := h _ hmem
    · exact ⟨_, rfl⟩
    · exact ⟨s, rfl⟩

/-- **Parameters are accepted** iff they have texts, page and order can be read and the page size
clamped. -/
theorem normalize_eq_ok_iff :
    ps.normalize defaultLimit maxLimit = .ok r ↔
      ps.IsReadable ∧ ∃ asked limit offset sort,
        parseCount (ps.textOf "limit") "limit" defaultLimit = .ok asked ∧
        clampLimit asked maxLimit = .ok limit ∧
        parseCount (ps.textOf "offset") "offset" (.int 0) = .ok offset ∧
        parseSort (ps.textOf "sort") = .ok sort ∧ r = ps.request limit offset sort := by
  unfold normalize
  simp only [read, bind_eq_ok_iff, mapError_eq_ok_iff, exists_textOf?_iff]
  constructor
  · rintro ⟨h₁, asked, ha, limit, hl, h₂, offset, ho, h₃, sort, hs, h₄, h₅, h₆, h₇, h₈, h₉, h₁₀,
      h₁₁, h⟩
    refine ⟨?_, asked, limit, offset, sort, ha, hl, ho, hs, (Except.ok.inj h).symm⟩
    simp only [IsReadable, names, List.forall_mem_cons]
    exact ⟨h₆, h₇, h₈, h₉, h₁₀, h₁₁, h₁, h₂, h₃, h₄, h₅, by simp⟩
  · rintro ⟨h, asked, limit, offset, sort, ha, hl, ho, hs, rfl⟩
    simp only [IsReadable, names, List.forall_mem_cons] at h
    obtain ⟨h₆, h₇, h₈, h₉, h₁₀, h₁₁, h₁, h₂, h₃, h₄, h₅, -⟩ := h
    exact ⟨h₁, asked, ha, limit, hl, h₂, offset, ho, h₃, sort, hs, h₄, h₅, h₆, h₇, h₈, h₉, h₁₀,
      h₁₁, rfl⟩

/-! ### The page size -/

/-- **The page size can be clamped**, if it has to be: it can be compared with the maximum, and
where it is the greater one, both can be written. -/
def ClampsPage (ps : Parameters) (defaultLimit maxLimit : Value) : Prop :=
  ∀ asked, parseCount (ps.textOf "limit") "limit" defaultLimit = .ok asked →
    asked.exceeds maxLimit = .ok false ∨
      asked.exceeds maxLimit = .ok true ∧ asked.isWritable = true ∧ maxLimit.isWritable = true

theorem clampLimit_of_ok_false {asked maximum : Value} (h : asked.exceeds maximum = .ok false) :
    clampLimit asked maximum = .ok asked := by
  rw [clampLimit, h]

/-- A page size above the maximum is clamped if both can be written. -/
theorem clampLimit_of_ok_true {asked maximum : Value} (h : asked.exceeds maximum = .ok true)
    (hasked : asked.isWritable = true) (hmaximum : maximum.isWritable = true) :
    clampLimit asked maximum = .ok maximum := by
  obtain ⟨above, habove⟩ := asked.exists_written?_iff.2 hasked
  obtain ⟨bound, hbound⟩ := maximum.exists_written?_iff.2 hmaximum
  have hnote : clampNote asked maximum = .ok ("Clamping limit " ++ above ++ " to " ++ bound) :=
    bind_eq_ok_iff.2 ⟨above, habove, bind_eq_ok_iff.2 ⟨bound, hbound, rfl⟩⟩
  simp only [clampLimit, h, hnote]

/-- **Which page sizes can be clamped**: those of `ClampsPage`. -/
theorem exists_clampLimit_iff (asked maximum : Value) :
    (∃ limit, clampLimit asked maximum = .ok limit) ↔
      asked.exceeds maximum = .ok false ∨
        asked.exceeds maximum = .ok true ∧ asked.isWritable = true ∧ maximum.isWritable = true := by
  cases h : asked.exceeds maximum with
  | error why => simp [clampLimit, h]
  | ok above =>
    cases above with
    | false => exact iff_of_true ⟨_, clampLimit_of_ok_false h⟩ (.inl rfl)
    | true =>
      constructor
      · rintro ⟨limit, hlimit⟩
        -- it has been noted, and the note shows both
        have hnote : ∃ note, clampNote asked maximum = .ok note := by
          cases hnote : clampNote asked maximum with
          | ok note => exact ⟨note, rfl⟩
          | error why => simp [clampLimit, h, hnote] at hlimit
        obtain ⟨note, hnote⟩ := hnote
        obtain ⟨above, habove, hnote⟩ := bind_eq_ok_iff.1 hnote
        obtain ⟨bound, hbound, -⟩ := bind_eq_ok_iff.1 hnote
        exact .inr ⟨rfl, asked.exists_written?_iff.1 ⟨above, habove⟩,
          maximum.exists_written?_iff.1 ⟨bound, hbound⟩⟩
      · rintro (hf | ⟨-, hasked, hmaximum⟩)
        · exact nomatch hf
        · exact ⟨_, clampLimit_of_ok_true h hasked hmaximum⟩

/-- Of a limit that is read, its own page size counts. -/
theorem clampsPage_iff {asked : Value}
    (hasked : parseCount (ps.textOf "limit") "limit" defaultLimit = .ok asked) :
    ps.ClampsPage defaultLimit maxLimit ↔ ∃ limit, clampLimit asked maxLimit = .ok limit := by
  rw [exists_clampLimit_iff]
  refine ⟨fun h => h asked hasked, fun h asked' hasked' => ?_⟩
  cases hasked.symm.trans hasked'
  exact h

theorem clampLimit_ne_rejected {asked maximum : Value}
    (h : clampLimit asked maximum = .error (.rejected why)) : False := by
  unfold clampLimit at h
  split at h
  · split at h <;> exact nomatch h
  · exact nomatch h
  · exact nomatch h

/-- Whole numbers that can be written are clamped to the lesser one. -/
theorem clampLimit_whole {asked maximum : Int}
    (h : maximum < asked → isWritable asked = true ∧ isWritable maximum = true) :
    clampLimit (.int asked) (.int maximum) = .ok (.int (min asked maximum)) := by
  have hexceeds := Value.exceeds_int asked maximum
  by_cases habove : maximum < asked
  · rw [decide_eq_true habove] at hexceeds
    rw [Int.min_eq_right (Int.le_of_lt habove)]
    exact clampLimit_of_ok_true hexceeds (h habove).1 (h habove).2
  · rw [decide_eq_false habove] at hexceeds
    rw [Int.min_eq_left (Int.not_lt.1 habove)]
    exact clampLimit_of_ok_false hexceeds

/-- One that cannot be written is not clamped. -/
theorem clampLimit_unwritable {asked maximum : Int} (habove : maximum < asked)
    (h : ¬ (isWritable asked = true ∧ isWritable maximum = true)) :
    clampLimit (.int asked) (.int maximum) = .error (.unwritable .tooLong) := by
  have hexceeds := Value.exceeds_int asked maximum
  rw [decide_eq_true habove] at hexceeds
  have hnote : clampNote (.int asked) (.int maximum) = .error .tooLong := by
    unfold clampNote
    rw [Value.written?_int, Value.written?_int]
    by_cases hasked : isWritable asked = true
    · have hmaximum : isWritable maximum = false := by simpa [hasked] using h
      rw [wholeText?_of_isWritable hasked, wholeText?_of_not_isWritable hmaximum]
      rfl
    · rw [Bool.not_eq_true] at hasked
      rw [wholeText?_of_not_isWritable hasked]
      rfl
  simp only [clampLimit, hexceeds, hnote]

/-! ### Requests for an embedding -/

theorem query_of_normalize (h : ps.normalize defaultLimit maxLimit = .ok r) :
    r.query = .text (ps.textOf "query") := by
  obtain ⟨-, _, _, _, _, -, -, -, -, rfl⟩ := normalize_eq_ok_iff.1 h
  rfl

/-- Whether parameters ask for the query to be embedded. -/
def IsSemantic (ps : Parameters) : Prop :=
  ps.textOf "query" ≠ "" ∧ ps.textOf "semantic" = "true"

instance (ps : Parameters) : Decidable ps.IsSemantic :=
  inferInstanceAs (Decidable (_ ∧ _))

/-- **A request is semantic** iff its parameters ask for an embedding. -/
theorem strategy_eq_semantic_iff (h : ps.normalize defaultLimit maxLimit = .ok r) :
    r.strategy = .semantic ↔ ps.IsSemantic := by
  obtain ⟨-, _, _, _, _, -, -, -, -, rfl⟩ := normalize_eq_ok_iff.1 h
  unfold SearchRequest.strategy IsSemantic
  by_cases hq : ps.textOf "query" = ""
  · simp [request, hq, Value.isTruthy]
  · by_cases hs : ps.textOf "semantic" = "true" <;> simp [request, hq, hs, Value.isTruthy]

/-! ### Parameters that are refused -/

/-- Why something is refused, if it is. -/
def refusalOf {α : Type} : Except Rejection α → Option Rejection
  | .error why => some why
  | .ok _ => none

/-- **What is wrong with the text of a parameter**, whatever the others say and the settings are. -/
def refusal? (name text : String) : Option Rejection :=
  if name = "sort" then refusalOf (parseSort text) else refusalOf (parseCount text name .null)

theorem refusalOf_eq_some_iff {α : Type} {x : Except Rejection α} :
    refusalOf x = some why ↔ x = .error why := by
  cases x with
  | error why' => simp [refusalOf]
  | ok a => exact iff_of_false nofun nofun

/-- A page size or an offset is refused for its text and not for its default. -/
theorem parseCount_error {raw field : String} {fallback : Value}
    (h : parseCount raw field fallback = .error why) :
    parseCount raw field .null = .error why ∧ why.field = field := by
  unfold parseCount at h ⊢
  by_cases hraw : raw = ""
  · rw [if_pos hraw] at h
    exact nomatch h
  · rw [if_neg hraw] at h ⊢
    -- the default is not looked at any more
    refine ⟨h, ?_⟩
    dsimp only at h
    split at h
    · cases h
      rfl
    · split at h
      · cases h
        rfl
      · exact nomatch h

theorem field_of_parseSort {raw : String} (h : parseSort raw = .error why) :
    why.field = "sort" := by
  unfold parseSort at h
  dsimp only at h
  split at h
  · exact nomatch h
  · split at h
    · cases h
      rfl
    · exact nomatch h

/-- A parameter without a text is no parameter that is refused. -/
theorem rejected_of_read {α : Type} {f : String → Except ParameterRefusal α}
    (h : ps.read name >>= f = .error (.rejected why)) :
    f (ps.textOf name) = .error (.rejected why) := by
  obtain hread | ⟨s, hs, h⟩ := bind_eq_error_iff.1 h
  · obtain ⟨_, -, hwhy⟩ := mapError_eq_error_iff.1 hread
    exact nomatch hwhy
  · rwa [textOf_eq (mapError_eq_ok_iff.1 hs)]

/-- **Whatever refuses a request** is wrong with one of three parameters, and names it. -/
theorem normalize_rejected (h : ps.normalize defaultLimit maxLimit = .error (.rejected why)) :
    ∃ name ∈ ["limit", "offset", "sort"],
      refusal? name (ps.textOf name) = some why ∧ why.field = name := by
  have hcount : ∀ name fallback, name ≠ "sort" →
      (parseCount (ps.textOf name) name fallback).mapError ParameterRefusal.rejected =
        .error (.rejected why) → refusal? name (ps.textOf name) = some why ∧ why.field = name := by
    intro name fallback hne hc
    obtain ⟨why', hc, hw⟩ := mapError_eq_error_iff.1 hc
    cases hw
    obtain ⟨hc, hfield⟩ := parseCount_error hc
    rw [refusal?, if_neg hne, hc]
    exact ⟨rfl, hfield⟩
  unfold normalize at h
  obtain hlimit | ⟨asked, -, h⟩ := bind_eq_error_iff.1 (rejected_of_read h)
  · exact ⟨"limit", by simp, hcount _ _ (by decide) hlimit⟩
  obtain hclamp | ⟨limit, -, h⟩ := bind_eq_error_iff.1 h
  · exact (clampLimit_ne_rejected hclamp).elim
  obtain hoffset | ⟨offset, -, h⟩ := bind_eq_error_iff.1 (rejected_of_read h)
  · exact ⟨"offset", by simp, hcount _ _ (by decide) hoffset⟩
  obtain hsort | ⟨sort, -, h⟩ := bind_eq_error_iff.1 (rejected_of_read h)
  · obtain ⟨why', hs, hw⟩ := mapError_eq_error_iff.1 hsort
    cases hw
    refine ⟨"sort", by simp, ?_, field_of_parseSort hs⟩
    rw [refusal?, if_pos rfl, hs]
    rfl
  -- what is left is read as it is
  · have htext := rejected_of_read (rejected_of_read (rejected_of_read (rejected_of_read h)))
    exact nomatch rejected_of_read (rejected_of_read (rejected_of_read (rejected_of_read htext)))

end Parameters

end CatalogSearch
