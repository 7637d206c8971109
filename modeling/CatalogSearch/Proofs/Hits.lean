import CatalogSearch.Proofs.Sql.Projection
import CatalogSearch.Search

/-!
# Rows as hits

The columns of a hit and the columns that statements project are two lists of names. They agree:
a statement projects the identifier and columns of hits only, in the order in which hits show them.
So a row with the projected columns and values of their kinds becomes a hit that shows these columns
and no other, and nothing of the row is lost.

* `WellTyped`: the values that the store has in a column.
* `Hit.shown`: a row as its hit is shown.
* `Hit.filter_projected`: the two lists of names agree.
* `Search.readRows_shown`: rows are read one by one and all of them.
-/

namespace CatalogSearch

/-! ### The rows of the store -/

def textColumns : List String := ["title", "description", "subject", "examboard", "level", "type"]

def numberColumns : List String := ["averagerating", "rank", "fuzzy_score", "semantic_score"]

/-- **The values of a column**: identifiers of three kinds, texts and finite numbers, of which any
may be missing, and the zero of a search that does not score likeness. -/
inductive WellTyped : String → Value → Prop where
  | idText (s : String) : WellTyped "id" (.text s)
  | idNumber (i : Int) : WellTyped "id" (.int i)
  | idUuid (u : Uuid) : WellTyped "id" (.uuid u)
  | text {name : String} (column : name ∈ textColumns) (s : String) : WellTyped name (.text s)
  | number {name : String} (column : name ∈ numberColumns) {x : Binary64}
    (finite : x.isFinite = true) : WellTyped name (.float x)
  | missing {name : String} (column : name ∈ textColumns ++ numberColumns) : WellTyped name .null
  | zero : WellTyped "fuzzy_score" (.int 0)

/-- A row with exactly the columns given, each with a value of its kind. -/
structure FitsColumns (columns : List String) (fields : List (String × Value)) : Prop where
  names : (fields.map Prod.fst).Perm columns
  typed : ∀ f ∈ fields, WellTyped f.1 f.2

/-- A value as it is shown in a column: unique identifiers by their texts, scores as fractions. -/
def shownIn (name : String) : Value → Value
  | .uuid u => .text u.text
  | .int i => if name = "fuzzy_score" then .float (.finite false .zero) else .int i
  | v => v

/-- **A row as its hit is shown**: the columns given, with the values of the row. -/
def Hit.shown (columns : List String) (fields : List (String × Value)) : Value :=
  .record (columns.map fun name => (name, shownIn name ((fields.lookup name).getD .null)))

namespace Row

variable {name : String} {fields : List (String × Value)}

theorem field?_cons (f : String × Value) (fields : List (String × Value)) :
    (ofFields (f :: fields)).field? name =
      ((ofFields fields).field? name).or (if f.1 = name then some f.2 else none) := by
  unfold field? ofFields
  rw [List.map_cons, List.reverse_cons, List.find?_append, Option.map_or]
  congr 1
  by_cases h : f.1 = name <;> simp [h]

theorem field?_of_notMem (h : name ∉ fields.map Prod.fst) :
    (ofFields fields).field? name = none := by
  induction fields with
  | nil => rfl
  | cons f fields ih =>
    simp only [List.map_cons, List.mem_cons, not_or] at h
    rw [field?_cons, ih h.2, if_neg (Ne.symm h.1), Option.or_none]

/-- With every name once, it does not matter from which end a name is looked up. -/
theorem field?_ofFields (h : (fields.map Prod.fst).Nodup) :
    (ofFields fields).field? name = fields.lookup name := by
  induction fields with
  | nil => rfl
  | cons f fields ih =>
    rw [List.map_cons, List.nodup_cons] at h
    rw [field?_cons, List.lookup_cons]
    by_cases hf : f.1 = name
    · rw [field?_of_notMem (hf ▸ h.1), if_pos hf, hf, beq_self_eq_true, Option.none_or]
    · rw [ih h.2, if_neg hf, Option.or_none, beq_false_of_ne (Ne.symm hf)]

end Row

namespace FitsColumns

variable {columns : List String} {fields : List (String × Value)} {name : String}

/-- The value of a row in a column. -/
theorem lookup_of_mem (h : FitsColumns columns fields) (hname : name ∈ columns) :
    ∃ v, fields.lookup name = some v ∧ WellTyped name v := by
  obtain ⟨f, hf, rfl⟩ := List.mem_map.1 (h.names.mem_iff.2 hname)
  obtain ⟨v, hv⟩ := Option.isSome_iff_exists.1
    (List.lookup_isSome_iff.2 ⟨f, hf, beq_self_eq_true _⟩)
  obtain ⟨before, behind, hfields, -⟩ := List.lookup_eq_some_iff.1 hv
  exact ⟨v, hv, h.typed (f.1, v) (by simp [hfields])⟩

/-- A row has its columns and no other. -/
theorem field?_eq (h : FitsColumns columns fields) (hn : columns.Nodup) :
    (Row.ofFields fields).field? name =
      if name ∈ columns then some ((fields.lookup name).getD .null) else none := by
  by_cases hname : name ∈ columns
  · obtain ⟨v, hv, -⟩ := h.lookup_of_mem hname
    rw [Row.field?_ofFields (h.names.nodup_iff.2 hn), hv, if_pos hname]
    rfl
  · rw [Row.field?_of_notMem (fun hc => hname (h.names.mem_iff.1 hc)), if_neg hname]

theorem wellTyped (h : FitsColumns columns fields) (hname : name ∈ columns) :
    WellTyped name ((fields.lookup name).getD .null) := by
  obtain ⟨v, hv, ht⟩ := h.lookup_of_mem hname
  rw [hv]
  exact ht

end FitsColumns

/-! ### Reading a row -/

theorem Column.name_ne_id (c : Column) : c.name ≠ "id" := by cases c <;> decide

theorem Column.isNumeric_of_text {c : Column} (h : c.name ∈ textColumns) :
    c.isNumeric = false := by
  revert h
  cases c <;> decide

theorem Column.isNumeric_of_number {c : Column} (h : c.name ∈ numberColumns) :
    c.isNumeric = true := by
  revert h
  cases c <;> decide

theorem Binary64.ofInt?_zero : ofInt? 0 = some (.finite false .zero) := by decide +kernel

theorem Value.toFloat_of_ofInt? {v : Value} {i : Int} {x : Binary64} (hv : v = .int i)
    (h : Binary64.ofInt? i = some x) : v.toFloat = .ok x := by
  unfold toFloat
  -- under a name of its own, the conversion is not computed
  obtain ⟨convert, hc⟩ : ∃ c, c = Binary64.ofInt? := ⟨_, rfl⟩
  rw [← hc] at h ⊢
  subst hv
  simp only [h]

theorem Cell.ofNumber_of_toFloat {v : Value} {x : Binary64} (hnull : v ≠ .null)
    (htext : ∀ s, v ≠ .text s) (h : v.toFloat = .ok x) : ofNumber v = .ok (.number x) := by
  unfold ofNumber
  split
  · exact absurd rfl hnull
  · exact absurd rfl (htext _)
  · rw [h]

/-- **A value of its column's kind can be read**, and is shown as it is meant to be. -/
theorem Cell.ofValue_of_wellTyped {c : Column} {v : Value} (h : WellTyped c.name v) :
    ∃ x, Cell.ofValue c v = .ok x ∧ x.toValue = shownIn c.name v := by
  generalize hname : c.name = name at h
  unfold Cell.ofValue
  cases h with
  | idText | idNumber | idUuid => exact absurd hname c.name_ne_id
  | text column s =>
    rw [Column.isNumeric_of_text (hname ▸ column)]
    exact ⟨.text s, rfl, rfl⟩
  | @number _ column x finite =>
    rw [Column.isNumeric_of_number (hname ▸ column)]
    refine ⟨.number x, rfl, ?_⟩
    simp only [Cell.toValue, if_pos finite, shownIn]
  | missing =>
    cases c.isNumeric <;> exact ⟨.null, rfl, rfl⟩
  | zero =>
    rw [Column.isNumeric_of_number (by rw [hname]; decide)]
    refine ⟨.number (.finite false .zero), ?_, rfl⟩
    rw [if_pos rfl]
    exact Cell.ofNumber_of_toFloat nofun nofun (Value.toFloat_of_ofInt? rfl Binary64.ofInt?_zero)

theorem ResourceId.ofValue_of_wellTyped {v : Value} (h : WellTyped "id" v) :
    ∃ i, ResourceId.ofValue v = .ok i ∧ i.toValue = shownIn "id" v := by
  generalize hname : "id" = name at h
  cases h with
  | idText s => exact ⟨.text s, rfl, rfl⟩
  | idNumber i => exact ⟨.number i, rfl, rfl⟩
  | idUuid u => exact ⟨.uuid u, rfl, rfl⟩
  | text column | number column | missing column => exact absurd (hname ▸ column) (by decide)
  | zero => exact absurd hname (by decide)

namespace Hit

variable {columns : List String} {fields : List (String × Value)}

/-- The columns of a hit that a row has are read without an issue, the others are left out. -/
theorem readCells_of_fits (h : FitsColumns columns fields) (hn : columns.Nodup)
    (cs : List Column) :
    ∃ cells, readCells (Row.ofFields fields) cs = (cells, []) ∧
      (cells.map fun (c, x) => (c.name, x.toValue)) =
        ((cs.map Column.name).filter (· ∈ columns)).map fun name =>
          (name, shownIn name ((fields.lookup name).getD .null)) := by
  induction cs with
  | nil => exact ⟨[], rfl, rfl⟩
  | cons c cs ih =>
    obtain ⟨cells, hcells, hshown⟩ := ih
    by_cases hc : c.name ∈ columns
    · obtain ⟨x, hx, hxs⟩ := Cell.ofValue_of_wellTyped (h.wellTyped hc)
      refine ⟨(c, x) :: cells, ?_, ?_⟩
      · simp only [readCells, hcells, h.field?_eq hn, if_pos hc, hx]
      · rw [List.map_cons, hshown, List.map_cons, List.filter_cons_of_pos (by simpa using hc)]
        simp only [List.map_cons, hxs]
    · refine ⟨cells, ?_, ?_⟩
      · simp only [readCells, hcells, h.field?_eq hn, if_neg hc]
      · rw [hshown, List.map_cons, List.filter_cons_of_neg (by simpa using hc)]

/-- **The columns of hits and of statements agree**: what a statement projects is the identifier
and columns of hits, as hits show them. -/
theorem filter_projected (r : SearchRequest) :
    "id" :: (Column.all.map Column.name).filter (· ∈ Query.projected r) = Query.projected r := by
  unfold Query.projected
  cases r.strategy <;> decide

/-- A row with the projected columns becomes a hit that shows them all. -/
theorem ofRow_of_fits {r : SearchRequest} (h : FitsColumns (Query.projected r) fields) :
    ∃ hit, ofRow (Row.ofFields fields) = .ok hit ∧
      hit.toRecord = shown (Query.projected r) fields := by
  have hn := Query.nodup_projected r
  have hid : "id" ∈ Query.projected r := by
    rw [← filter_projected]
    exact List.mem_cons_self
  obtain ⟨i, hi, his⟩ := ResourceId.ofValue_of_wellTyped (h.wellTyped hid)
  obtain ⟨cells, hcells, hshown⟩ := readCells_of_fits h hn Column.all
  refine ⟨⟨i, cells⟩, ?_, ?_⟩
  · have hread : readId (Row.ofFields fields) = .ok i := by
      simp only [readId, h.field?_eq hn, if_pos hid, hi]
    simp only [ofRow, hread, hcells]
  · have hall := congrArg (List.map fun name =>
      (name, shownIn name ((fields.lookup name).getD .null))) (filter_projected r)
    rw [List.map_cons, ← hshown, ← his] at hall
    exact congrArg Value.record hall

end Hit

/-- **Rows with the projected columns** become hits one by one, in their order and without loss. -/
theorem Search.readRows_shown {r : SearchRequest} {records : List (List (String × Value))}
    (h : ∀ fields ∈ records, FitsColumns (Query.projected r) fields) :
    ∃ hits, readRows (records.map Row.ofFields) = .ok hits ∧
      hits.map Hit.toRecord = records.map (Hit.shown (Query.projected r)) := by
  induction records with
  | nil => exact ⟨[], rfl, rfl⟩
  | cons fields records ih =>
    obtain ⟨hfields, hrecords⟩ := List.forall_mem_cons.1 h
    obtain ⟨hit, hhit, hshown⟩ := Hit.ofRow_of_fits hfields
    obtain ⟨hits, hhits, hall⟩ := ih hrecords
    refine ⟨hit :: hits, ?_, ?_⟩
    · simp only [List.map_cons, readRows, hhit, hhits]
    · rw [List.map_cons, List.map_cons, hshown, hall]

end CatalogSearch
