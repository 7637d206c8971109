import Mathlib.Data.List.Forall2
import CatalogSearch.Proofs.EmbeddingFaults
import CatalogSearch.Proofs.Number.Numeral

/-!
# Embeddings as parameters

An embedding is checked where it arrives and written where a statement is compiled, and the two
have to agree on every number. Here the vector that the client returns is followed to the parameter
that is bound for it: it is the one in the answer, each coordinate is finite, and each has a token
of its own between the brackets, with nothing in it that is not part of a number.

* `Embedding.Holds`: the vector is found in an answer, at `data[0].embedding`.
* `Value.IsToken`: the token of a coordinate.
* `Value.IsLiteral`: a literal whose tokens are those of the coordinates.
* `Embedding.fetch_literal`: every vector that is returned has such a literal, and it is what a
  semantic search binds.
-/

namespace CatalogSearch

namespace Value

/-- **The token of a coordinate**: the shortest text of the floating-point number that it stands
for, written in digits, points, signs and marks of an exponent. -/
structure IsToken (x : Value) (token : List Char) : Prop where
  text : ∃ f, x.toFloat = .ok f ∧ f.isFinite = true ∧ token = f.text.toList
  nonempty : token ≠ []
  plain : ∀ c ∈ token, c.isDigit = true ∨ c ∈ ['.', '-', '+', 'e']

/-- **The literal of a vector**: between brackets, commas split it into the tokens of the
coordinates, one for each and in their order. -/
structure IsLiteral (v : List Value) (literal : String) : Prop where
  written : (list v).vectorLiteral = .ok literal
  tokens : ∃ body, literal = "[" ++ body ++ "]" ∧
    (body.toList.splitOn ',').length = v.length ∧
    List.Forall₂ IsToken v (body.toList.splitOn ',')

theorem isToken_of_isFinite {x : Value} {f : Binary64} (hx : x.toFloat = .ok f)
    (hf : f.isFinite = true) : IsToken x f.text.toList := by
  obtain ⟨cs, hcs, htext⟩ := Binary64.text_of_isFinite hf
  refine ⟨⟨f, hx, hf, rfl⟩, ?_, ?_⟩
  · obtain h | h := htext
    · rw [h]
      exact hcs.ne_nil
    · rw [h]
      exact List.cons_ne_nil _ _
  · intro c hc
    obtain h | h := htext
    · exact hcs.isDigit_or_mem (h ▸ hc)
    · rw [h, List.mem_cons] at hc
      obtain rfl | hc := hc
      · simp
      · exact hcs.isDigit_or_mem hc

theorem IsToken.comma_notMem {x : Value} {token : List Char} (h : IsToken x token) :
    ',' ∉ token := by
  intro hc
  have hplain := h.plain _ hc
  revert hplain
  decide

theorem exists_isToken_of_mem {xs : List Value} {tokens : List (List Char)}
    (h : List.Forall₂ IsToken xs tokens) : ∀ token ∈ tokens, ∃ x, IsToken x token := by
  induction h with
  | nil => simp
  | cons hx _ ih => exact List.forall_mem_cons.2 ⟨⟨_, hx⟩, ih⟩

theorem comma_notMem_of_isToken {xs : List Value} {tokens : List (List Char)}
    (h : List.Forall₂ IsToken xs tokens) : ∀ token ∈ tokens, ',' ∉ token := by
  intro token htoken
  obtain ⟨x, hx⟩ := exists_isToken_of_mem h token htoken
  exact hx.comma_notMem

theorem IsToken.three_le_length {x : Value} {token : List Char} (h : IsToken x token) :
    3 ≤ token.length := by
  obtain ⟨f, -, hf, rfl⟩ := h.text
  exact Binary64.three_le_length_text hf

/-- What stands for finite numbers is all written, each as a token. -/
theorem coordinates_of_isFinite {xs : List Value}
    (h : ∀ x ∈ xs, ∃ f, x.toFloat = .ok f ∧ f.isFinite = true) :
    ∃ tokens, coordinates xs = .ok tokens ∧ List.Forall₂ IsToken xs (tokens.map String.toList) := by
  induction xs with
  | nil => exact ⟨[], rfl, .nil⟩
  | cons x xs ih =>
    obtain ⟨⟨f, hf, hfinite⟩, hxs⟩ := List.forall_mem_cons.1 h
    obtain ⟨tokens, htokens, hall⟩ := ih hxs
    refine ⟨f.text :: tokens, ?_, .cons (isToken_of_isFinite hf hfinite) hall⟩
    rw [coordinates, hf, htokens]
    rfl

/-- **What stands for finite numbers has a literal.** -/
theorem exists_isLiteral_of_isFinite {v : List Value} (hne : v ≠ [])
    (h : ∀ x ∈ v, ∃ f, x.toFloat = .ok f ∧ f.isFinite = true) : ∃ literal, IsLiteral v literal := by
  obtain ⟨tokens, htokens, hall⟩ := coordinates_of_isFinite h
  have hlength : v.length = (tokens.map String.toList).length := hall.length_eq
  have hsplit : (String.intercalate "," tokens).toList.splitOn ',' = tokens.map String.toList := by
    rw [String.toList_intercalate]
    -- between the brackets of no coordinates there would still be one token, an empty one
    refine List.splitOn_intercalate ',' (comma_notMem_of_isToken hall) fun hnil => hne ?_
    rwa [hnil, List.length_nil, List.length_eq_zero_iff] at hlength
  refine ⟨_, ?_, String.intercalate "," tokens, rfl, ?_, ?_⟩
  · simp only [vectorLiteral, elements?, htokens]
  · rw [hsplit, hlength]
  · rw [hsplit]
    exact hall

/-- **Finite coordinates have a literal.** -/
theorem exists_isLiteral {v : List Value} (hne : v ≠ [])
    (h : ∀ x ∈ v, x.isFiniteNumber = .ok true) : ∃ literal, IsLiteral v literal :=
  exists_isLiteral_of_isFinite hne fun x hx => x.toFloat_of_isFiniteNumber (h x hx)

end Value

/-- **A semantic search binds the literal of its vector** behind the values of its predicates. -/
theorem Query.params_of_semantic {r : SearchRequest} {p : PredicateSet} {v language : Value}
    {literal : String} {plan : Plan} (hs : r.strategy = .semantic)
    (hv : v.vectorLiteral = .ok literal) (h : compile r p (some v) language = .ok plan) :
    plan.params = p.values ++ [.text literal] ++ [r.limit, r.offset] := by
  obtain ⟨s, q, -, -, hq, -, -, rfl⟩ := compile_ok h
  obtain ⟨bound, hc, hbound⟩ := parts_ok hq
  obtain ⟨w, hw, hl⟩ := hbound hs
  obtain rfl : v = w := Option.some.inj hw
  rw [hv] at hl
  cases hl
  unfold assemble
  rw [hc.values, strategyValues, hs]

namespace Embedding

/-- **The vector that an answer holds**, in its first item, where it can be read. -/
def Holds (depth : Nat) (body : List UInt8) (v : List Value) : Prop :=
  ∃ document first rest, Json.ofBytes depth body = .ok document ∧
    document.field? "data" = some (.list (first :: rest)) ∧
    first.field? "embedding" = some (.list v)

theorem locate?_eq_some {document v : Value} (h : locate? document = some v) :
    ∃ first rest, document.field? "data" = some (.list (first :: rest)) ∧
      first.field? "embedding" = some v := by
  unfold locate? at h
  obtain ⟨data, hdata, h⟩ := Option.bind_eq_some_iff.1 h
  obtain ⟨first, hfirst, h⟩ := Option.bind_eq_some_iff.1 h
  unfold Value.head? at hfirst
  split at hfirst
  · rename_i x rest
    obtain rfl : x = first := Option.some.inj hfirst
    exact ⟨x, rest, hdata, h⟩
  · exact nomatch hfirst

/-- The octets of an answer give the vector that they hold, if it is one of finite numbers. -/
theorem holds_of_ofBody {depth : Nat} {body : List UInt8} {v : List Value}
    (h : ofBody depth body = .ok v) :
    Holds depth body v ∧ v ≠ [] ∧ ∀ x ∈ v, x.isFiniteNumber = .ok true := by
  obtain ⟨document, hread, hdocument⟩ := ofBody_ok h
  obtain ⟨hlocated, hne, hfinite⟩ := ofDocument_ok hdocument
  obtain ⟨first, rest, hdata, hembedding⟩ := locate?_eq_some hlocated
  exact ⟨⟨document, first, rest, hread, hdata, hembedding⟩, hne, hfinite⟩

/-- **Every embedding that is returned is bound as it was answered**, whatever room there was to
read it: it is the vector in the one answer that arrived, whatever its length; all its coordinates
are finite numbers; and a literal is written of it, which a semantic search binds. -/
theorem fetch_literal {st : Settings} {depth : Nat} {service : EmbeddingRequest → EmbeddingReply}
    {text : Value} {v : List Value} (h : (fetch st depth service text).result = .ok v) :
    (∃ a body, access st = .ok a ∧ Arrives st a service text body ∧ Holds depth body v) ∧
      v ≠ [] ∧ (∀ x ∈ v, x.IsFinite) ∧
      ∃ literal, Value.IsLiteral v literal ∧
        ∀ (r : SearchRequest) (p : PredicateSet) (language : Value) (plan : Plan),
          r.strategy = .semantic → Query.compile r p (some (.list v)) language = .ok plan →
            plan.params = p.values ++ [.text literal] ++ [r.limit, r.offset] := by
  obtain ⟨a, ha, hsend, hreply⟩ := fetch_ok h
  obtain ⟨status, body, hanswered, habsolute, hlow, hhigh, hbody⟩ := ofReply_ok hreply
  obtain ⟨hholds, hne, hfinite⟩ := holds_of_ofBody hbody
  obtain ⟨literal, hliteral⟩ := Value.exists_isLiteral hne hfinite
  have harrives : Arrives st a service text body :=
    ⟨hsend, habsolute, status, hlow, hhigh, hanswered⟩
  exact ⟨⟨a, body, ha, harrives, hholds⟩, hne,
    fun x hx => Value.isFinite_of_isFiniteNumber (hfinite x hx), literal, hliteral,
    fun r p language plan hs hplan => Query.params_of_semantic hs hliteral.written hplan⟩

/-- A whole number and a small fraction, where 1536 coordinates are configured. -/
theorem fetch_literal_two :
    let body := Text.asciiOctets "\x7b\"data\":[\x7b\"embedding\":[7,-2.5e-7]\x7d]\x7d".toList
    ∃ v, (fetch {} 900 (fun _ => .answered 200 body) (.text "algebra")).result = .ok v ∧
      Value.IsLiteral v "[7.0,-2.5e-07]" := by
  intro body
  have hwritten : ((fetch {} 900 (fun _ => .answered 200 body)
      (.text "algebra")).result.toOption.bind fun v => (Value.list v).vectorLiteral.toOption) =
        some "[7.0,-2.5e-07]" := by
    decide +kernel
  cases hfetched : (fetch {} 900 (fun _ => .answered 200 body) (.text "algebra")).result with
  | error why =>
    rw [hfetched] at hwritten
    exact nomatch hwritten
  | ok v =>
    obtain ⟨-, -, -, literal, h, -⟩ := fetch_literal hfetched
    rw [hfetched, Except.toOption, Option.bind_some, h.written] at hwritten
    obtain rfl : literal = "[7.0,-2.5e-07]" := Option.some.inj hwritten
    exact ⟨v, rfl, h⟩

end Embedding

end CatalogSearch
