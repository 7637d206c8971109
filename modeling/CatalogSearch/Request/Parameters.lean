import CatalogSearch.Request.Basic
import CatalogSearch.SearchError
import CatalogSearch.Settings
import CatalogSearch.Text.Pieces
import CatalogSearch.Value.Order

/-!
# Raw parameters

A request arrives as named texts. `normalize` reads them into a canonical request: absent and empty
parameters take their defaults, the page size is clamped, and the first of limit, offset and sort
that cannot be read refuses the request. Default and maximum of the page size are whole numbers as a
rule; where they are not, the comparison of the two says what becomes of it. Clamping is noted, so a
number that is too long to be written cannot be clamped.
-/

namespace CatalogSearch

open Text

/-- Why a parameter is refused. -/
inductive Rejection where
  /-- The text is not a run of one to nineteen digits. -/
  | notCount (field text : String)
  /-- The number does not fit the store's whole numbers. -/
  | aboveBound (field : String)
  /-- No sort key has this name. -/
  | unsortable (name : String)
deriving DecidableEq, Repr

/-- The largest page size or offset that the store takes. -/
def maxCount : Nat := Nat.pow 2 63 - 1

namespace Rejection

def field : Rejection → String
  | notCount f _ => f
  | aboveBound f => f
  | unsortable _ => "sort"

/-- The reason in words; no more than 32 characters of a bad number are shown. -/
def message : Rejection → String
  | notCount f s =>
    f ++ " must be a non-negative integer, got " ++ quoted (String.ofList (s.toList.take 32))
  | aboveBound f => f ++ " must not exceed " ++ toString maxCount
  | unsortable s =>
    "Cannot sort by " ++ quoted s ++ "; allowed fields: " ++
      String.intercalate ", " (SortKey.all.map SortKey.name)

def toError (r : Rejection) : SearchError :=
  .invalidRequest r.field r.message

end Rejection

/-- Drops one line feed from the end of a text. -/
def dropFinalNewline (cs : List Char) : List Char :=
  if cs.getLast? = some '\n' then cs.dropLast else cs

/-- What is left of a text is the text, or the text is that with a line feed behind it. -/
theorem dropFinalNewline_eq_iff {cs ds : List Char} (h : '\n' ∉ ds) :
    dropFinalNewline cs = ds ↔ cs = ds ∨ cs = ds ++ ['\n'] := by
  unfold dropFinalNewline
  constructor
  · intro hcs
    split at hcs
    · rename_i hlast
      obtain ⟨front, rfl⟩ := List.getLast?_eq_some_iff.1 hlast
      rw [List.dropLast_concat] at hcs
      exact Or.inr (by rw [hcs])
    · exact Or.inl hcs
  · rintro (rfl | rfl)
    · rw [if_neg fun hlast => h (List.mem_of_getLast? hlast)]
    · rw [if_pos List.getLast?_concat, List.dropLast_concat]

/-- The same of the texts themselves. -/
theorem dropFinalNewline_toList_iff {s : String} {cs : List Char} (h : '\n' ∉ cs) :
    dropFinalNewline s.toList = cs ↔ ∃ ending ∈ ["", "\n"], s = String.ofList cs ++ ending := by
  rw [dropFinalNewline_eq_iff h]
  simp only [List.mem_cons, List.not_mem_nil, or_false, exists_eq_or_imp, exists_eq_left]
  simp only [← String.toList_inj, String.toList_append, String.toList_ofList,
    String.toList_empty, List.append_nil]
  exact Iff.rfl

/-- **Reads a page size or an offset**: empty means the default, else one to nineteen ASCII digits,
behind which one line feed is overlooked. -/
def parseCount (raw field : String) (fallback : Value) : Except Rejection Value :=
  if raw = "" then .ok fallback
  else
    let ds := dropFinalNewline raw.toList
    if ds = [] ∨ 19 < ds.length ∨ !ds.all Char.isDigit then .error (.notCount field raw)
    else
      let n := Nat.ofDigitChars 10 ds 0
      if maxCount < n then .error (.aboveBound field) else .ok (.int n)

/-- The tags of a comma-separated list, each verbatim; the empty text has none. -/
def parseTags (raw : String) : List String :=
  if raw = "" then [] else (pieces ',' raw.toList).map String.ofList

/-- **Reads `key:direction`.** The key is one of the sort keys; the direction is descending unless
it is exactly `asc`. Without a key the best rated come first. -/
def parseSort (raw : String) : Except Rejection (SortKey × SortDirection) :=
  let name := String.ofList (before ':' raw.toList)
  if name = "" then .ok (.averageRating, .descending)
  else
    match SortKey.ofName? name with
    | none => .error (.unsortable name)
    | some k =>
      let direction := String.ofList (after ':' raw.toList)
      .ok (k, if direction = "asc" then .ascending else .descending)

/-- Why raw parameters give no request. -/
inductive ParameterRefusal where
  | rejected (why : Rejection)
  /-- The page size cannot be compared with its maximum. -/
  | notComparable (why : ComparisonRefusal)
  /-- A parameter has no text, or a page size that is clamped cannot be shown. -/
  | unwritable (why : WritingRefusal)
deriving DecidableEq, Repr

/-- Raw parameters by name; the first entry of a name counts. -/
abbrev Parameters := List (String × Value)

namespace Parameters

/-- The names of all parameters of a search. -/
def names : List String :=
  ["query", "tags", "subject", "examboard", "level", "type", "limit", "offset", "sort", "fuzzy",
    "semantic"]

/-- The text of a parameter; absent and null are empty. -/
def textOf? (ps : Parameters) (name : String) : Except WritingRefusal String :=
  match ps.lookup name with
  | none | some .null => .ok ""
  | some v => v.written?

/-- The text of a parameter, without which there is no request. -/
def read (ps : Parameters) (name : String) : Except ParameterRefusal String :=
  (ps.textOf? name).mapError .unwritable

/-- A filter as its text gives it; empty is no filter. -/
def filterOf (text : String) : Value :=
  if text = "" then .null else .text text

/-- What is noted of a page size above the maximum. -/
def clampNote (asked maximum : Value) : Except WritingRefusal String := do
  let above ← asked.written?
  let bound ← maximum.written?
  return "Clamping limit " ++ above ++ " to " ++ bound

/-- The page size: what is asked for or the default, but never above the maximum. It is clamped only
once that has been noted. -/
def clampLimit (asked maximum : Value) : Except ParameterRefusal Value :=
  match asked.exceeds maximum with
  | .ok true =>
    match clampNote asked maximum with
    | .ok _ => .ok maximum
    | .error why => .error (.unwritable why)
  | .ok false => .ok asked
  | .error why => .error (.notComparable why)

/-- **The canonical request of raw parameters.** -/
def normalize (ps : Parameters) (defaultLimit maxLimit : Value) :
    Except ParameterRefusal SearchRequest := do
  let asked ← (parseCount (← ps.read "limit") "limit" defaultLimit).mapError .rejected
  let limit ← clampLimit asked maxLimit
  let offset ← (parseCount (← ps.read "offset") "offset" (.int 0)).mapError .rejected
  let (key, direction) ← (parseSort (← ps.read "sort")).mapError .rejected
  let fuzzy ← ps.read "fuzzy"
  let semantic ← ps.read "semantic"
  return {
    query := .text (← ps.read "query")
    tags := (parseTags (← ps.read "tags")).map Value.text
    subject := filterOf (← ps.read "subject")
    examBoard := filterOf (← ps.read "examboard")
    level := filterOf (← ps.read "level")
    type := filterOf (← ps.read "type")
    limit := limit
    offset := offset
    sortKey := key
    sortDirection := direction
    fuzzy := fuzzy = "" || fuzzy = "true"
    semantic := semantic = "true"
  }

end Parameters

end CatalogSearch
