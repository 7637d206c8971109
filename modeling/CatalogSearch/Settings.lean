import CatalogSearch.Text.Lowercase
import CatalogSearch.Text.Pieces
import CatalogSearch.Value.Conversion

/-!
# Settings

How the service is set up. What the environment gives has the kind of its setting, but settings can
be changed at run time to values of any kind. Those that are handed on, compared or shown are kept
as values; where another kind does not do, the one who needs it says so.

Every setting may be given as an environment variable of its name, in any case. Texts are taken as
they are; numbers and truth values are read leniently, and all that cannot be read are reported
together.
-/

namespace CatalogSearch

open Text

structure Settings where
  databaseUrl : Value := .null
  poolMinSize : Value := .int 2
  poolMaxSize : Value := .int 10
  commandTimeout : Value := .float (Binary64.ofWritten (.decimal false 10 0))
  statementTimeout : Value := .int 8000
  embeddingKey : Value := .null
  embeddingUrl : Value := .text "https://api.openai.com/v1"
  embeddingModel : Value := .text "text-embedding-3-small"
  embeddingDimensions : Value := .int 1536
  embeddingTimeout : Binary64 := Binary64.ofWritten (.decimal false 30 0)
  host : String := "0.0.0.0"
  port : Int := 8000
  debug : Bool := false
  logLevel : String := "info"
  defaultPageSize : Value := .int 20
  maxPageSize : Value := .int 100
  searchLanguage : Value := .text "english"
deriving Repr

/-! ### Settings from the environment -/

/-- Variables of the environment; the last entry of a name counts. -/
abbrev Environment := List (String × String)

namespace Environment

/-- The value of a variable, whatever the case of its name. -/
def get? (env : Environment) (name : String) : Option String :=
  (env.map fun (k, v) => (String.ofList (lowercase k.toList), v)).reverse.lookup name

/-- Splits off a minus. -/
def minus : List Char → Bool × List Char
  | '-' :: cs => (true, cs)
  | cs => (false, cs)

/-- The number that bare digits write: no zero stands before others, and there are no more of them
than the limit. -/
def plainNat? (ds : List Char) : Option Nat :=
  if !ds.isEmpty && ds.all Char.isDigit && (ds.length == 1 || ds.head? != some '0') &&
      ds.length ≤ digitLimit then
    some (Written.natOf ds)
  else none

/-- The number that bare digits write, behind at most a minus. -/
def plainInt? (cs : List Char) : Option Int :=
  let (negative, ds) := minus cs
  (plainNat? ds).map fun n => if negative then -(n : Int) else n

/-- Whether a text begins with a number that is plain but for its length. -/
def isOversized (cs : List Char) : Bool :=
  let (_, rest) := minus cs
  rest.head? != some '0' && digitLimit < (rest.takeWhile Char.isDigit).length

/-- Drops zeros, and the `_` among them, that stand before a number or a minus. The last one stays
if a point or nothing follows, and whatever else follows refuses the text. `last` is the character
before the text. -/
def afterZeros? (last : Char) : List Char → Option (List Char)
  | [] => some [last]
  | c :: cs =>
    if c = '0' ∨ c = '_' then afterZeros? c cs
    else if c = '.' then some (last :: c :: cs)
    else if c.isDigit ∨ c = '-' then some (c :: cs)
    else none

/-- Drops leading zeros; a text that does not begin with a digit is refused. -/
def withoutLeadingZeros? : List Char → Option (List Char)
  | '0' :: cs => afterZeros? '0' cs
  | c :: cs => if c.isDigit then some (c :: cs) else none
  | [] => none

/-- Drops a plus, which must not stand before a minus. -/
def withoutPlus? : List Char → Option (List Char)
  | '+' :: '-' :: _ => none
  | '+' :: cs => some cs
  | cs => some cs

/-- Drops a fraction of zeros from the end of a number text. -/
def withoutZeroFraction (cs : List Char) : List Char :=
  let fraction := after '.' cs
  if !fraction.isEmpty && fraction.all (· = '0') then before '.' cs else cs

/-- A number text without what may be taken away from one: leading zeros, a fraction of zeros and
single `_`. -/
def bare? (cs : List Char) : Option (List Char) := do
  Written.withoutMarks? (withoutZeroFraction (← withoutLeadingZeros? cs))

/-- The number of a text from which a sign, leading zeros, a fraction of zeros and single `_` are
taken away. Behind leading zeros there may be a minus, but only one in all. -/
def cleanInt? (cs : List Char) : Option Int := do
  let (negative, rest) := minus (← withoutPlus? cs)
  let bare ← bare? rest
  if negative then (plainNat? bare).map fun n => -(n : Int) else plainInt? bare

/-- **A whole number**: if the text is no plain one, the blanks around it and all else that may be
taken away is. -/
def readInt (s : String) : Except IssueKind Int :=
  let cs := s.toList
  match plainInt? cs with
  | some i => .ok i
  | none =>
    if isOversized cs then .error .oversized
    else
      match cleanInt? (trim isBlank cs) with
      | some i => .ok i
      | none => .error .unreadableInt

def readFloat (s : String) : Except IssueKind Binary64 :=
  match Written.readLenient? s.toList with
  | some w => .ok (Binary64.ofWritten w)
  | none => .error .unreadableFloat

/-- A truth value: one of a few words, in any case. -/
def readBool (s : String) : Except IssueKind Bool :=
  let word := s.toLower
  if ["1", "true", "t", "yes", "y", "on"].contains word then .ok true
  else if ["0", "false", "f", "no", "n", "off"].contains word then .ok false
  else .error .unreadableBool

variable {α : Type}

/-- A setting that is read from its variable, or its default; an issue is added to those found
before. -/
def setting (env : Environment) (name : String) (read : String → Except IssueKind α) (fallback : α)
    : StateM (List Issue) α := do
  match env.get? name with
  | none => return fallback
  | some s =>
    match read s with
    | .ok a => return a
    | .error why =>
      modify (· ++ [⟨[name], why⟩])
      return fallback

/-- All settings in declared order, with the issues among them. -/
def readAll (env : Environment) : StateM (List Issue) Settings := do
  let d : Settings := {}
  let plain := fun s => (.ok s : Except IssueKind String)
  let text := fun s => (.ok (.text s) : Except IssueKind Value)
  let value := fun (read : String → Except IssueKind Value) name fallback =>
    setting env name read fallback
  let int := fun s => (readInt s).map Value.int
  return {
    databaseUrl := ← value text "database_url" d.databaseUrl
    poolMinSize := ← value int "db_pool_min_size" d.poolMinSize
    poolMaxSize := ← value int "db_pool_max_size" d.poolMaxSize
    commandTimeout :=
      ← value (fun s => (readFloat s).map Value.float) "db_command_timeout" d.commandTimeout
    statementTimeout := ← value int "db_statement_timeout_ms" d.statementTimeout
    embeddingKey := ← value text "openai_api_key" d.embeddingKey
    embeddingUrl := ← value text "openai_base_url" d.embeddingUrl
    embeddingModel := ← value text "embedding_model" d.embeddingModel
    embeddingDimensions := ← value int "embedding_dimensions" d.embeddingDimensions
    embeddingTimeout := ← setting env "embedding_timeout" readFloat d.embeddingTimeout
    host := ← setting env "host" plain d.host
    port := ← setting env "port" readInt d.port
    debug := ← setting env "debug" readBool d.debug
    logLevel := ← setting env "log_level" plain d.logLevel
    defaultPageSize := ← value int "default_page_size" d.defaultPageSize
    maxPageSize := ← value int "max_page_size" d.maxPageSize
    searchLanguage := ← value text "text_search_language" d.searchLanguage
  }

end Environment

/-- **The settings that an environment gives**, or the issues with it in declared order. -/
def Settings.ofEnvironment (env : Environment) : Except (List Issue) Settings :=
  match (Environment.readAll env).run [] with
  | (st, []) => .ok st
  | (_, issues) => .error issues

end CatalogSearch
