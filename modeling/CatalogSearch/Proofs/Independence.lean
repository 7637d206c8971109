import Mathlib.Data.List.Nodup
import CatalogSearch.Proofs.Counts

/-!
# Parameters read one by one

Each parameter is read by itself: limit, offset and sort are refused for their own texts, the first
of them is told, and what is not refused is read into a field of its own. Names that are not known
are not looked at, and a parameter that is null or empty is as good as absent.

One thing comes between: behind the limit, the page size is clamped, and a page size that cannot be
clamped ends all reading. So offset and sort are refused only if that does not happen.

* `Parameter`: the eleven parameters, in the order in which a request is described by them.
* `Parameters.IsFirstRefused`: the parameter that is told.
* `Parameter.SameField`: two requests agree on what a parameter is read into.
* `Parameters.normalize_congr`: only the texts of the eleven parameters matter.
* `Parameters.normalize_by_parameter`: refusal, independence and what can be left out.
* `Parameters.normalize_unclamped`: a sort that is not told of.
-/

namespace CatalogSearch

/-- The parameters of a search. -/
inductive Parameter where
  | query
  | tags
  | subject
  | examBoard
  | level
  | type
  | limit
  | offset
  | sort
  | fuzzy
  | semantic
deriving DecidableEq

namespace Parameter

def all : List Parameter :=
  [query, tags, subject, examBoard, level, type, limit, offset, sort, fuzzy, semantic]

def name : Parameter → String
  | query => "query"
  | tags => "tags"
  | subject => "subject"
  | examBoard => "examboard"
  | level => "level"
  | type => "type"
  | limit => "limit"
  | offset => "offset"
  | sort => "sort"
  | fuzzy => "fuzzy"
  | semantic => "semantic"

/-- **What is wrong with a text**, were it given for this parameter; most take any text. -/
def refusal? (text : String) : Parameter → Option Rejection
  | limit => Parameters.refusal? "limit" text
  | offset => Parameters.refusal? "offset" text
  | sort => Parameters.refusal? "sort" text
  | _ => none

/-- **Two requests agree on what a parameter is read into.** -/
def SameField (r r' : SearchRequest) : Parameter → Prop
  | query => r.query = r'.query
  | tags => r.tags = r'.tags
  | subject => r.subject = r'.subject
  | examBoard => r.examBoard = r'.examBoard
  | level => r.level = r'.level
  | type => r.type = r'.type
  | limit => r.limit = r'.limit
  | offset => r.offset = r'.offset
  | sort => r.sortKey = r'.sortKey ∧ r.sortDirection = r'.sortDirection
  | fuzzy => r.fuzzy = r'.fuzzy
  | semantic => r.semantic = r'.semantic

theorem mem_all (p : Parameter) : p ∈ all := by
  cases p <;> decide

theorem name_injective {p q : Parameter} (h : p.name = q.name) : p = q := by
  have hnodup : (all.map name).Nodup := by decide
  exact List.inj_on_of_nodup_map hnodup p.mem_all q.mem_all h

/-- Between them the parameters are read into all of a request. -/
theorem eq_of_sameField {r r' : SearchRequest} (h : ∀ p, SameField r r' p) : r = r' := by
  obtain ⟨hsort, hdirection⟩ := h .sort
  cases r
  cases r'
  simp only [SearchRequest.mk.injEq]
  exact ⟨h .query, h .tags, h .subject, h .examBoard, h .level, h .type, h .limit, h .offset,
    hsort, hdirection, h .fuzzy, h .semantic⟩

end Parameter

namespace Parameters

/-- **The first parameter that is refused**, and why: those read before it are not. -/
def IsFirstRefused (ps : Parameters) (p : Parameter) (why : Rejection) : Prop :=
  ∃ earlier later, [.limit, .offset, .sort] = earlier ++ p :: later ∧
    p.refusal? (ps.textOf p.name) = some why ∧ ∀ q ∈ earlier, q.refusal? (ps.textOf q.name) = none

/-- Whether a value is neither null nor the empty text. -/
def isGiven : Value → Bool
  | .null => false
  | .text s => s ≠ ""
  | _ => true

/-- **What is left of parameters** without unknown names and without null and empty values. -/
def pruned (ps : Parameters) : Parameters :=
  ps.filter fun e => (Parameter.all.map Parameter.name).contains e.1 && isGiven e.2

/-- The parameters with another text for one of them. -/
def assign (ps : Parameters) (p : Parameter) (text : String) : Parameters :=
  (p.name, .text text) :: ps.filter (·.1 ≠ p.name)

variable {ps ps' : Parameters} {name : String}

/-! ### Texts of parameters -/

theorem textOf?_cons_self (name : String) (v : Value) (ps : Parameters) :
    textOf? ((name, v) :: ps) name = textOf? [(name, v)] name := by
  unfold textOf?
  rw [List.lookup_cons_self, List.lookup_cons_self]

theorem textOf?_cons_of_ne {key : String} (h : name ≠ key) (v : Value) (ps : Parameters) :
    textOf? ((key, v) :: ps) name = textOf? ps name := by
  have hbeq : (name == key) = false := by simpa using h
  unfold textOf?
  rw [List.lookup_cons, hbeq]

theorem textOf?_of_notMem (h : name ∉ ps.map Prod.fst) : ps.textOf? name = .ok "" := by
  induction ps with
  | nil => rfl
  | cons e ps ih =>
    rw [List.map_cons, List.mem_cons, not_or] at h
    rw [textOf?_cons_of_ne h.1, ih h.2]

/-- A name keeps its text if its entries are only left out where they have none. -/
theorem textOf?_filter (hps : (ps.map Prod.fst).Nodup) {keep : String × Value → Bool}
    (hkeep : ∀ v, keep (name, v) = false → textOf? [(name, v)] name = .ok "") :
    textOf? (ps.filter keep) name = ps.textOf? name := by
  induction ps with
  | nil => rfl
  | cons e ps ih =>
    obtain ⟨key, v⟩ := e
    rw [List.map_cons, List.nodup_cons] at hps
    by_cases hkept : keep (key, v) = true
    · rw [List.filter_cons_of_pos hkept]
      by_cases hname : name = key
      · subst hname
        rw [textOf?_cons_self, textOf?_cons_self name v ps]
      · rw [textOf?_cons_of_ne hname, textOf?_cons_of_ne hname, ih hps.2]
    · rw [List.filter_cons_of_neg hkept]
      by_cases hname : name = key
      · subst hname
        -- no other entry has this name
        have hmore : name ∉ (ps.filter keep).map Prod.fst := fun hmem =>
          hps.1 ((List.filter_sublist.map Prod.fst).subset hmem)
        rw [textOf?_of_notMem hmore, textOf?_cons_self, hkeep v (by simpa using hkept)]
      · rw [textOf?_cons_of_ne hname, ih hps.2]

theorem textOf?_of_not_isGiven {v : Value} (h : isGiven v = false) :
    textOf? [(name, v)] name = .ok "" := by
  unfold textOf?
  rw [List.lookup_cons_self]
  cases v with
  | null => rfl
  | text s =>
    have hs : s = "" := by simpa [isGiven] using h
    exact congrArg Except.ok hs
  | _ => cases h

theorem textOf?_pruned (hps : (ps.map Prod.fst).Nodup) (p : Parameter) :
    ps.pruned.textOf? p.name = ps.textOf? p.name := by
  refine textOf?_filter hps fun v hv => textOf?_of_not_isGiven ?_
  have hknown : (Parameter.all.map Parameter.name).contains p.name = true := by
    simpa using ⟨p, p.mem_all, rfl⟩
  rwa [hknown, Bool.true_and] at hv

theorem textOf?_assign_self (ps : Parameters) (p : Parameter) (text : String) :
    (ps.assign p text).textOf? p.name = .ok text := by
  simp [assign, textOf?, Value.written?]

theorem textOf?_assign_of_ne (hps : (ps.map Prod.fst).Nodup) {p q : Parameter} (h : q ≠ p)
    (text : String) : (ps.assign p text).textOf? q.name = ps.textOf? q.name := by
  have hname : q.name ≠ p.name := fun hn => h (Parameter.name_injective hn)
  rw [assign, textOf?_cons_of_ne hname]
  exact textOf?_filter hps fun v hv => absurd hname (by simpa using hv)

theorem exists_name {name : String} (h : name ∈ names) : ∃ p : Parameter, p.name = name := by
  have hnames : names = Parameter.all.map Parameter.name := rfl
  obtain ⟨p, -, hp⟩ := List.mem_map.1 (hnames ▸ h)
  exact ⟨p, hp⟩

/-- With another text for one of them, parameters can be read as before. -/
theorem IsReadable.assign (h : ps.IsReadable) (hps : (ps.map Prod.fst).Nodup) (p : Parameter)
    (text : String) : (ps.assign p text).IsReadable := by
  intro name hname
  obtain ⟨q, rfl⟩ := exists_name hname
  by_cases hq : q = p
  · rw [hq]
    exact ⟨text, textOf?_assign_self ps p text⟩
  · rw [textOf?_assign_of_ne hps hq]
    exact h _ hname

theorem textOf_assign_self (ps : Parameters) (p : Parameter) (text : String) :
    (ps.assign p text).textOf p.name = text :=
  textOf_eq (textOf?_assign_self ps p text)

theorem textOf_assign_of_ne (hps : (ps.map Prod.fst).Nodup) {p q : Parameter} (h : q ≠ p)
    (text : String) : (ps.assign p text).textOf q.name = ps.textOf q.name := by
  unfold textOf
  rw [textOf?_assign_of_ne hps h]

/-! ### Requests -/

/-- **Only the texts of the known parameters matter**, whatever default and maximum are. -/
theorem normalize_congr (h : ∀ p : Parameter, ps.textOf? p.name = ps'.textOf? p.name)
    (defaultLimit maxLimit : Value) :
    ps.normalize defaultLimit maxLimit = ps'.normalize defaultLimit maxLimit := by
  have htext : ∀ name ∈ Parameter.all.map Parameter.name, ps.textOf? name = ps'.textOf? name :=
    List.forall_mem_map.2 fun p _ => h p
  unfold normalize read
  simp (disch := decide) only [htext]

/-- What is refused does not depend on the default. -/
theorem refusalOf_parseCount (raw field : String) (fallback fallback' : Value) :
    refusalOf (parseCount raw field fallback) = refusalOf (parseCount raw field fallback') := by
  unfold parseCount
  by_cases hraw : raw = ""
  · rw [if_pos hraw, if_pos hraw]
    rfl
  · rw [if_neg hraw, if_neg hraw]

theorem int_of_parseCount {raw field : String} {d : Int} {v : Value}
    (h : parseCount raw field (.int d) = .ok v) : ∃ i : Int, v = .int i := by
  rcases parseCount_ok h with ⟨-, hv⟩ | ⟨n, hv, -⟩
  · exact ⟨d, hv⟩
  · exact ⟨n, hv⟩

theorem refusal?_limit (text : String) (fallback : Value) :
    Parameter.limit.refusal? text = refusalOf (parseCount text "limit" fallback) :=
  refusalOf_parseCount text "limit" .null fallback

theorem refusal?_offset (text : String) (fallback : Value) :
    Parameter.offset.refusal? text = refusalOf (parseCount text "offset" fallback) :=
  refusalOf_parseCount text "offset" .null fallback

theorem refusal?_sort (text : String) :
    Parameter.sort.refusal? text = refusalOf (parseSort text) := rfl

/-- A refusal names the parameter. -/
theorem field_of_refusal? {p : Parameter} {text : String} {why : Rejection}
    (h : p.refusal? text = some why) : why.field = p.name := by
  cases p with
  | limit =>
    rw [refusal?_limit text .null, refusalOf_eq_some_iff] at h
    exact (parseCount_error h).2
  | offset =>
    rw [refusal?_offset text .null, refusalOf_eq_some_iff] at h
    exact (parseCount_error h).2
  | sort =>
    rw [refusal?_sort, refusalOf_eq_some_iff] at h
    exact field_of_parseSort h
  | _ => exact nomatch h

/-- **Whole page sizes can be clamped** unless one that is too long to be written has to be. -/
theorem clampsPage_whole_iff {d m : Int} :
    ps.ClampsPage (.int d) (.int m) ↔
      ∀ asked : Int, parseCount (ps.textOf "limit") "limit" (.int d) = .ok (.int asked) →
        m < asked → isWritable asked = true ∧ isWritable m = true := by
  constructor
  · intro h asked hasked habove
    have hcases := h _ hasked
    rw [Value.exceeds_int, decide_eq_true habove] at hcases
    obtain hf | ⟨-, hboth⟩ := hcases
    · exact nomatch hf
    · exact hboth
  · intro h v hv
    obtain ⟨asked, rfl⟩ := int_of_parseCount hv
    rw [Value.exceeds_int]
    by_cases habove : m < asked
    · exact .inr ⟨by rw [decide_eq_true habove], h asked hv habove⟩
    · exact .inl (by rw [decide_eq_false habove])

/-- Readable parameters are read one after the other. -/
theorem normalize_of_isReadable (h : ps.IsReadable) (defaultLimit maxLimit : Value) :
    ps.normalize defaultLimit maxLimit = do
      let asked ← (parseCount (ps.textOf "limit") "limit" defaultLimit).mapError .rejected
      let limit ← clampLimit asked maxLimit
      let offset ← (parseCount (ps.textOf "offset") "offset" (.int 0)).mapError .rejected
      let sort ← (parseSort (ps.textOf "sort")).mapError .rejected
      return ps.request limit offset sort := by
  have hread : ∀ name ∈ names, ps.read name = .ok (ps.textOf name) := fun name hname =>
    mapError_eq_ok_iff.2 (h.textOf? hname)
  unfold normalize
  simp (disch := decide) only [hread]
  rfl

/-- **The three outcomes**: the first parameter that is refused is told; or the limit is not refused
and its page size cannot be clamped; or none is refused and there is a request. -/
theorem normalize_outcome (h : ps.IsReadable) (d m : Value) :
    (ps.ClampsPage d m ∧ ∃ p why, ps.IsFirstRefused p why ∧
        ps.normalize d m = .error (.rejected why)) ∨
      (¬ ps.ClampsPage d m ∧
        ∃ e, ps.normalize d m = .error e ∧ ∀ why, e ≠ .rejected why) ∨
      ps.ClampsPage d m ∧ (∀ p : Parameter, p.refusal? (ps.textOf p.name) = none) ∧
        ∃ r, ps.normalize d m = .ok r := by
  have hlimit := refusal?_limit (ps.textOf "limit") d
  have hoffset := refusal?_offset (ps.textOf "offset") (.int 0)
  have hsort := refusal?_sort (ps.textOf "sort")
  rw [normalize_of_isReadable h]
  -- in the order of reading: the first step that has no value is the outcome
  cases hasked : parseCount (ps.textOf "limit") "limit" d with
  | error why =>
    rw [hasked] at hlimit
    have hclamps : ps.ClampsPage d m := fun asked ha => nomatch hasked.symm.trans ha
    exact .inl ⟨hclamps, .limit, why, ⟨[], [.offset, .sort], rfl, hlimit, nofun⟩, rfl⟩
  | ok asked =>
    rw [hasked] at hlimit
    cases hclamp : clampLimit asked m with
    | error e =>
      refine .inr (.inl ⟨?_, e, ?_, fun why hwhy => ?_⟩)
      · rw [clampsPage_iff hasked, hclamp]
        rintro ⟨limit, hok⟩
        exact nomatch hok
      · simp only [mapError_ok, ok_bind, error_bind, hclamp]
      · rw [hwhy] at hclamp
        exact clampLimit_ne_rejected hclamp
    | ok limit =>
      have hclamps : ps.ClampsPage d m := (clampsPage_iff hasked).2 ⟨limit, hclamp⟩
      cases hskipped : parseCount (ps.textOf "offset") "offset" (.int 0) with
      | error why =>
        rw [hskipped] at hoffset
        refine .inl ⟨hclamps, .offset, why, ⟨[.limit], [.sort], rfl, hoffset, ?_⟩, ?_⟩
        · exact List.forall_mem_singleton.2 hlimit
        · simp only [mapError_ok, mapError_error, ok_bind, error_bind, hclamp]
      | ok offset =>
        rw [hskipped] at hoffset
        cases hordered : parseSort (ps.textOf "sort") with
        | error why =>
          rw [hordered] at hsort
          refine .inl ⟨hclamps, .sort, why, ⟨[.limit, .offset], [], rfl, hsort, ?_⟩, ?_⟩
          · exact List.forall_mem_cons.2 ⟨hlimit, List.forall_mem_singleton.2 hoffset⟩
          · simp only [mapError_ok, mapError_error, ok_bind, error_bind, hclamp]
        | ok sort =>
          rw [hordered] at hsort
          refine .inr (.inr ⟨hclamps, fun p => ?_, ps.request limit offset sort, ?_⟩)
          · cases p with
            | limit => exact hlimit
            | offset => exact hoffset
            | sort => exact hsort
            | _ => rfl
          · simp only [mapError_ok, ok_bind, hclamp]
            rfl

/-- Only one refusal is the first. -/
theorem IsFirstRefused.unique {p q : Parameter} {why why' : Rejection}
    (h : ps.IsFirstRefused p why) (h' : ps.IsFirstRefused q why') : why = why' := by
  have hfind : ∀ {p : Parameter} {why : Rejection}, ps.IsFirstRefused p why →
      [.limit, .offset, .sort].findSome?
        (fun p : Parameter => p.refusal? (ps.textOf p.name)) = some why := by
    rintro p why ⟨earlier, later, hsplit, hp, hearlier⟩
    exact List.findSome?_eq_some_iff.2 ⟨earlier, p, later, hsplit, hp, hearlier⟩
  exact Option.some.inj ((hfind h).symm.trans (hfind h'))

variable {d m : Value} {r r' : SearchRequest}

theorem normalize_rejected_iff (h : ps.IsReadable) {why : Rejection} :
    ps.normalize d m = .error (.rejected why) ↔
      ps.ClampsPage d m ∧ ∃ p, ps.IsFirstRefused p why := by
  rcases normalize_outcome h d m with
    ⟨hclamps, p, why', hfirst, herror⟩ | ⟨hclamps, e, herror, he⟩ | ⟨-, hnone, r, hr⟩
  · rw [herror]
    constructor
    · intro heq
      cases heq
      exact ⟨hclamps, p, hfirst⟩
    · rintro ⟨-, q, hq⟩
      rw [hfirst.unique hq]
  · rw [herror, Except.error.injEq]
    exact iff_of_false (he why) fun hc => hclamps hc.1
  · rw [hr]
    refine iff_of_false nofun ?_
    rintro ⟨-, p, -, -, -, hp, -⟩
    exact nomatch (hnone p).symm.trans hp

theorem normalize_unrejected_iff (h : ps.IsReadable) :
    (∃ e, ps.normalize d m = .error e ∧ ∀ why, e ≠ .rejected why) ↔ ¬ ps.ClampsPage d m := by
  rcases normalize_outcome h d m with
    ⟨hclamps, p, why, -, herror⟩ | ⟨hclamps, he⟩ | ⟨hclamps, -, r, hr⟩
  · refine iff_of_false ?_ (not_not.2 hclamps)
    rintro ⟨e, he, hne⟩
    exact hne why (Except.error.inj (he.symm.trans herror))
  · exact iff_of_true he hclamps
  · refine iff_of_false ?_ (not_not.2 hclamps)
    rintro ⟨e, he, -⟩
    exact nomatch he.symm.trans hr

/-- A request is read only where no parameter is refused and the page size can be clamped. -/
theorem clampsPage_of_normalize (h : ps.normalize d m = .ok r) :
    ps.ClampsPage d m ∧ ∀ p : Parameter, p.refusal? (ps.textOf p.name) = none := by
  rcases normalize_outcome (normalize_eq_ok_iff.1 h).1 d m with
    ⟨-, _, _, -, herror⟩ | ⟨-, _, herror, -⟩ | ⟨hclamps, hnone, -⟩
  · exact nomatch h.symm.trans herror
  · exact nomatch h.symm.trans herror
  · exact ⟨hclamps, hnone⟩

theorem exists_of_refusal?_eq_none (h : ps.IsReadable) (hclamps : ps.ClampsPage d m)
    (hnone : ∀ p : Parameter, p.refusal? (ps.textOf p.name) = none) :
    ∃ r, ps.normalize d m = .ok r := by
  rcases normalize_outcome h d m with
    ⟨-, p, why, ⟨_, _, -, hp, -⟩, -⟩ | ⟨hnot, -⟩ | ⟨-, -, hr⟩
  · exact nomatch (hnone p).symm.trans hp
  · exact absurd hclamps hnot
  · exact hr

/-- **What a parameter is read into depends on its own text**, whatever the others say. -/
theorem sameField_of_textOf (hr : ps.normalize d m = .ok r)
    (hr' : ps'.normalize d m = .ok r') {p : Parameter}
    (h : ps.textOf p.name = ps'.textOf p.name) : p.SameField r r' := by
  obtain ⟨-, asked, limit, offset, sort, hasked, hlimit, hoffset, hsort, rfl⟩ :=
    normalize_eq_ok_iff.1 hr
  obtain ⟨-, asked', limit', offset', sort', hasked', hlimit', hoffset', hsort', rfl⟩ :=
    normalize_eq_ok_iff.1 hr'
  cases p with
  | query => exact congrArg Value.text h
  | tags => exact congrArg (fun text => (parseTags text).map Value.text) h
  | subject => exact congrArg filterOf h
  | examBoard => exact congrArg filterOf h
  | level => exact congrArg filterOf h
  | type => exact congrArg filterOf h
  | limit =>
    have htext : ps.textOf "limit" = ps'.textOf "limit" := h
    rw [htext, hasked'] at hasked
    cases hasked
    exact Except.ok.inj (hlimit.symm.trans hlimit')
  | offset =>
    have htext : ps.textOf "offset" = ps'.textOf "offset" := h
    rw [htext, hoffset'] at hoffset
    exact (Except.ok.inj hoffset).symm
  | sort =>
    have htext : ps.textOf "sort" = ps'.textOf "sort" := h
    rw [htext, hsort'] at hsort
    cases hsort
    exact ⟨rfl, rfl⟩
  | fuzzy => exact congrArg (fun text => decide (text = "") || decide (text = "true")) h
  | semantic => exact congrArg (fun text => decide (text = "true")) h

/-- Another text for any parameter but the limit leaves the page size as it is. -/
theorem ClampsPage.assign (h : ps.ClampsPage d m) (hps : (ps.map Prod.fst).Nodup) {p : Parameter}
    (hp : p ≠ .limit) (text : String) : (ps.assign p text).ClampsPage d m := by
  unfold ClampsPage
  rw [show (ps.assign p text).textOf "limit" = ps.textOf "limit" from
    textOf_assign_of_ne (q := .limit) hps (Ne.symm hp) text]
  exact h

/-- **Another accepted text for one parameter** is accepted, and changes no other field. -/
theorem normalize_assign (hps : (ps.map Prod.fst).Nodup) (hr : ps.normalize d m = .ok r)
    {p : Parameter} {text : String} (htext : p.refusal? text = none)
    (hlimit : p = .limit → (ps.assign p text).ClampsPage d m) :
    ∃ r', (ps.assign p text).normalize d m = .ok r' ∧ ∀ q ≠ p, q.SameField r r' := by
  obtain ⟨hclamps, haccepted⟩ := clampsPage_of_normalize hr
  have hread : (ps.assign p text).IsReadable := (normalize_eq_ok_iff.1 hr).1.assign hps p text
  have hclamps' : (ps.assign p text).ClampsPage d m := by
    by_cases hp : p = .limit
    · exact hlimit hp
    · exact hclamps.assign hps hp text
  -- the other parameters say what they said before
  have hnone : ∀ q : Parameter, q.refusal? ((ps.assign p text).textOf q.name) = none := by
    intro q
    by_cases hq : q = p
    · rw [hq, textOf_assign_self]
      exact htext
    · rw [textOf_assign_of_ne hps hq]
      exact haccepted q
  obtain ⟨r', hr'⟩ := exists_of_refusal?_eq_none hread hclamps' hnone
  exact ⟨r', hr', fun q hq => sameField_of_textOf hr hr' (textOf_assign_of_ne hps hq text).symm⟩

/-- **Parameters are read one by one**, whatever default and maximum of the page size are. A request
is refused exactly for the first of limit, offset and sort whose own text is refused, by its name,
if the page size that the limit asks for can be clamped; if not, nothing is told of a parameter.
Otherwise each field is read from its own parameter: parameters that agree on one text agree on its
field, and between them the fields are all of the request; with another text for one parameter that
is not refused, and whose page size can be clamped, there is a request whose other fields are the
same. Null and empty values and unknown names can be left out. That each name occurs once is what
makes a mapping. -/
theorem normalize_by_parameter {ps : Parameters} (hps : (ps.map Prod.fst).Nodup)
    (hread : ps.IsReadable) (d m : Value) :
    (∀ why, ps.normalize d m = .error (.rejected why) ↔
      ps.ClampsPage d m ∧ ∃ p, ps.IsFirstRefused p why ∧
        why.toError = .invalidRequest p.name why.message) ∧
    ((∃ e, ps.normalize d m = .error e ∧ ∀ why, e ≠ .rejected why) ↔ ¬ ps.ClampsPage d m) ∧
    (∀ r, ps.normalize d m = .ok r →
      (∀ (ps' : Parameters) r', ps'.normalize d m = .ok r' →
        (∀ p : Parameter, ps.textOf p.name = ps'.textOf p.name → p.SameField r r') ∧
          ((∀ p : Parameter, p.SameField r r') → r = r')) ∧
      ∀ (p : Parameter) (text : String), p.refusal? text = none →
        (p = .limit → (ps.assign p text).ClampsPage d m) →
        ∃ r', (ps.assign p text).normalize d m = .ok r' ∧ ∀ q ≠ p, q.SameField r r') ∧
    ps.pruned.normalize d m = ps.normalize d m := by
  refine ⟨fun why => ?_, normalize_unrejected_iff hread,
    fun r hr => ⟨fun ps' r' hr' => ⟨fun p h => ?_, ?_⟩, fun p text h hlimit => ?_⟩, ?_⟩
  · rw [normalize_rejected_iff hread]
    refine and_congr_right fun _ => exists_congr fun p => (and_iff_left_of_imp ?_).symm
    rintro ⟨_, _, -, hp, -⟩
    rw [Rejection.toError, field_of_refusal? hp]
  · exact sameField_of_textOf hr hr' h
  · exact Parameter.eq_of_sameField
  · exact normalize_assign hps hr h hlimit
  · exact normalize_congr (textOf?_pruned hps) _ _

/-- Of a bad offset and a bad sort the offset is told, with or without what can be left out; an
offset given where there was none changes nothing else. -/
theorem normalize_by_parameter_offset :
    let bad : Parameters := [("tags", .null), ("sort", .text "nope"), ("offset", .text "x"),
      ("limit", .text "500"), ("page", .text "3")]
    let good : Parameters := [("tags", .text ",a"), ("offset", .text ""), ("limit", .text "500")]
    bad.normalize (.int 20) (.int 100) = .error (.rejected (.notCount "offset" "x")) ∧
      bad.pruned.normalize (.int 20) (.int 100) = .error (.rejected (.notCount "offset" "x")) ∧
      ∃ r r', good.normalize (.int 20) (.int 100) = .ok r ∧
        (good.assign .offset "40").normalize (.int 20) (.int 100) = .ok r' ∧
        ∀ q ≠ Parameter.offset, q.SameField r r' := by
  intro bad good
  have hbad : (bad.map Prod.fst).Nodup := by decide
  have hgood : (good.map Prod.fst).Nodup := by decide
  have hclamps : bad.ClampsPage (.int 20) (.int 100) := by
    intro asked hasked
    rw [show bad.textOf "limit" = "500" from rfl] at hasked
    obtain rfl : .int 500 = asked := Except.ok.inj hasked
    exact .inr ⟨rfl, by decide +kernel, by decide +kernel⟩
  obtain ⟨hrefused, -, -, hpruned⟩ :=
    normalize_by_parameter hbad (isReadable_of_texts (by simp [bad])) (.int 20) (.int 100)
  have hfirst : bad.IsFirstRefused .offset (.notCount "offset" "x") := by
    refine ⟨[.limit], [.sort], rfl, ?_, List.forall_mem_singleton.2 ?_⟩
    · rw [show bad.textOf Parameter.offset.name = "x" from rfl]
      rfl
    · rw [show bad.textOf Parameter.limit.name = "500" from rfl]
      rfl
  have herror := (hrefused _).2 ⟨hclamps, _, hfirst, rfl⟩
  obtain ⟨-, -, haccepted, -⟩ :=
    normalize_by_parameter hgood (isReadable_of_texts (by simp [good])) (.int 20) (.int 100)
  have hread : (good.normalize (.int 20) (.int 100)).toBool = true := by
    decide +kernel
  cases hr : good.normalize (.int 20) (.int 100) with
  | error e =>
    rw [hr] at hread
    exact nomatch hread
  | ok r =>
    have hmore : Parameter.offset.refusal? "40" = none := rfl
    obtain ⟨r', hr', hsame⟩ := (haccepted r hr).2 .offset "40" hmore nofun
    exact ⟨herror, hpruned.trans herror, r, r', rfl, hr', hsame⟩

/-- **A page size that cannot be clamped comes before a sort that is refused**: neither one that is
too long to be written nor one that is no number is told of a bad sort. -/
theorem normalize_unclamped :
    let ps : Parameters := [("sort", .text "nope")]
    ps.IsFirstRefused .sort (.unsortable "nope") ∧
      ps.normalize (.int (Nat.pow 10 digitLimit : Nat)) (.int 100) =
        .error (.unwritable .tooLong) ∧
      ps.normalize (.text "20") (.int 100) = .error (.notComparable (.kinds "str" "int")) := by
  intro ps
  have hread : ps.IsReadable := isReadable_of_texts (by simp [ps])
  have hfirst : ps.IsFirstRefused .sort (.unsortable "nope") := by
    refine ⟨[.limit, .offset], [], rfl, ?_, ?_⟩
    · rw [show ps.textOf Parameter.sort.name = "nope" from rfl]
      rfl
    · exact List.forall_mem_cons.2 ⟨rfl, List.forall_mem_singleton.2 rfl⟩
  have hdefault : ∀ d, parseCount (ps.textOf "limit") "limit" d = .ok d := fun _ => rfl
  refine ⟨hfirst, ?_, ?_⟩
  · have habove : 100 < Nat.pow 10 digitLimit :=
      Nat.lt_of_lt_of_le (by decide) ten_pow_le_pow_digitLimit
    have hclamp : clampLimit (.int (Nat.pow 10 digitLimit : Nat)) (.int 100) =
        .error (.unwritable .tooLong) :=
      clampLimit_unwritable (by omega) (by rw [isWritable_pow_digitLimit]; simp)
    rw [normalize_of_isReadable hread, hdefault]
    simp only [mapError_ok, ok_bind, error_bind, hclamp]
  · rw [normalize_of_isReadable hread, hdefault]
    rfl

end Parameters

end CatalogSearch
