import CatalogSearch.Proofs.Quoting
import CatalogSearch.Proofs.References
import CatalogSearch.Proofs.StoreFaults
import CatalogSearch.Proofs.VectorLiteral

/-!
# Notes of statements that fail

A statement that fails is logged with its parameters, each of them quoted, the long ones cut to
their beginnings and lengths, if all of them can be written. From twenty coordinates on the literal
of an embedding is long. Then no note of a semantic search shows it: the statement refers to it by
number, and no parameter is shown in that many characters. What the store said is logged as it is.

* `Store.Describes`: how a note shows a value.
* `Value.IsLiteral.four_mul_length_lt`: how long a literal is at least.
* `Query.OpensOnReferences`: a statement in which brackets stand around references only.
* `Store.infix_of_failureNote`: a literal that a note shows was told by the store.
* `Store.notes_abbreviated`: what is logged of the parameters of a statement that fails.
* `Store.notes_unwritten`: parameters, and a vector, of which nothing is written.
-/

namespace CatalogSearch

open Template

/-! ### How a note shows a value -/

namespace Store

/-- A text cut to its first forty characters, its length behind them. -/
def abbreviated (s : String) : String :=
  String.ofList (s.toList.take 40) ++ "...<" ++ toString s.toList.length ++ " chars>"

/-- **How a note shows a value**: its quoted text, in full up to eighty characters and cut beyond.
What is cut has fifty-one characters, and the digits of its length. -/
structure Describes (room : Nat) (v : Value) (entry : String) : Prop where
  shown : ∃ s, v.quoted? room = .ok s ∧ (s.toList.length ≤ 80 → entry = s) ∧
    (80 < s.toList.length → entry = abbreviated s ∧
      entry.toList.length = 51 + (toString s.toList.length).toList.length)

variable {room : Nat} {s : String}

theorem abbreviate_of_le (h : s.toList.length ≤ 80) : abbreviate s = s := by
  unfold abbreviate descriptionLimit
  rw [if_neg (by omega)]

theorem abbreviate_of_lt (h : 80 < s.toList.length) : abbreviate s = abbreviated s := by
  unfold abbreviate descriptionLimit abbreviated
  rw [if_pos h]

theorem length_abbreviated (h : 80 < s.toList.length) :
    (abbreviated s).toList.length = 51 + (toString s.toList.length).toList.length := by
  unfold abbreviated
  simp only [String.toList_append, String.toList_ofList, List.length_append, List.length_take]
  rw [Nat.min_eq_left (by omega)]
  have hdots : "...<".toList.length = 4 := rfl
  have hchars : " chars>".toList.length = 7 := rfl
  omega

theorem describes {v : Value} {entry : String} (h : describe room v = .ok entry) :
    Describes room v entry := by
  obtain ⟨s, hs, rfl⟩ := map_eq_ok_iff.1 h
  refine ⟨s, hs, abbreviate_of_le, fun hlong => ?_⟩
  rw [abbreviate_of_lt hlong]
  exact ⟨rfl, length_abbreviated hlong⟩

/-- The entries of a note are those of the parameters, one for each and in their order. -/
theorem forall₂_of_descriptions {ps : List Value} {entries : List String}
    (h : descriptions room ps = .ok entries) :
    List.Forall₂ (fun v entry => describe room v = .ok entry) ps entries := by
  induction ps generalizing entries with
  | nil =>
    cases h
    exact .nil
  | cons v ps ih =>
    obtain ⟨entry, hentry, h⟩ := bind_eq_ok_iff.1 h
    obtain ⟨rest, hrest, h⟩ := bind_eq_ok_iff.1 h
    cases h
    exact .cons hentry (ih hrest)

theorem exists_of_mem_descriptions {ps : List Value} {entries : List String}
    (h : descriptions room ps = .ok entries) : ∀ entry ∈ entries, ∃ s, entry = abbreviate s := by
  have hall := forall₂_of_descriptions h
  clear h
  induction hall with
  | nil => exact nofun
  | cons hentry _ ih =>
    obtain ⟨s, -, hs⟩ := map_eq_ok_iff.1 hentry
    exact List.forall_mem_cons.2 ⟨⟨s, hs.symm⟩, ih⟩

/-- A text is quoted wherever there is any room. -/
theorem describe_text (hroom : 0 < room) (s : String) :
    describe room (.text s) = .ok (abbreviate (Text.quoted s)) := by
  obtain ⟨room, rfl⟩ : ∃ k, room = k + 1 := ⟨room - 1, by omega⟩
  rw [describe, Value.quoted?]
  rfl

end Store

/-! ### How long a literal is -/

theorem four_mul_length_le {tokens : List (List Char)} (h : ∀ token ∈ tokens, 3 ≤ token.length) :
    4 * tokens.length ≤ ([','].intercalate tokens).length + 1 := by
  induction tokens with
  | nil => simp
  | cons token tokens ih =>
    obtain ⟨htoken, hrest⟩ := List.forall_mem_cons.1 h
    by_cases hnil : tokens = []
    · subst hnil
      simp
      omega
    · have hlength := ih hrest
      rw [List.intercalate_cons_of_ne_nil hnil]
      simp only [List.length_append, List.length_cons, List.length_nil]
      omega

theorem mem_or_exists_of_mem_intercalate {sep c : Char} {tokens : List (List Char)}
    (h : c ∈ [sep].intercalate tokens) : c = sep ∨ ∃ token ∈ tokens, c ∈ token := by
  induction tokens with
  | nil => exact nomatch h
  | cons token tokens ih =>
    by_cases hnil : tokens = []
    · subst hnil
      exact Or.inr ⟨token, List.mem_cons_self, by simpa using h⟩
    · rw [List.intercalate_cons_of_ne_nil hnil, List.mem_append, List.mem_append,
        List.mem_singleton] at h
      obtain (h | h) | h := h
      · exact Or.inr ⟨token, List.mem_cons_self, h⟩
      · exact Or.inl h
      · obtain h | ⟨later, hlater, h⟩ := ih h
        · exact Or.inl h
        · exact Or.inr ⟨later, List.mem_cons_of_mem _ hlater, h⟩

/-- A literal is written of the parts of a value, whatever kind it is. -/
theorem Value.vectorLiteral_eq {v : Value} {xs : List Value} (h : v.elements? = some xs) :
    v.vectorLiteral = (list xs).vectorLiteral := by
  have hlist : (list xs).elements? = some xs := rfl
  unfold vectorLiteral
  rw [h, hlist]

namespace Value.IsLiteral

variable {xs : List Value} {literal : String}

/-- **A literal has more than four characters for each coordinate.** -/
theorem four_mul_length_lt (h : IsLiteral xs literal) : 4 * xs.length < literal.toList.length := by
  obtain ⟨body, rfl, hcount, htokens⟩ := h.tokens
  have hlong : ∀ token ∈ body.toList.splitOn ',', 3 ≤ token.length := by
    intro token htoken
    obtain ⟨x, hx⟩ := exists_isToken_of_mem htokens token htoken
    exact hx.three_le_length
  have hbody := four_mul_length_le hlong
  rw [List.intercalate_splitOn, hcount] at hbody
  simp
  omega

/-- What a literal is written with. -/
theorem isDigit_or_mem (h : IsLiteral xs literal) {c : Char} (hc : c ∈ literal.toList) :
    c.isDigit = true ∨ c ∈ ['[', ']', ',', '.', '-', '+', 'e'] := by
  obtain ⟨body, rfl, -, htokens⟩ := h.tokens
  have hcases : c = '[' ∨ c ∈ body.toList ∨ c = ']' := by simpa using hc
  obtain rfl | hc | rfl := hcases
  · simp
  · have hsplit : [','].intercalate (body.toList.splitOn ',') = body.toList :=
      List.intercalate_splitOn ','
    rw [← hsplit] at hc
    obtain rfl | ⟨token, htoken, hc⟩ := mem_or_exists_of_mem_intercalate hc
    · simp
    · obtain ⟨x, hx⟩ := exists_isToken_of_mem htokens token htoken
      refine (hx.plain c hc).imp id fun hmark => ?_
      simp only [List.mem_cons, List.not_mem_nil, or_false] at hmark ⊢
      tauto
  · simp

theorem notMem (h : IsLiteral xs literal) {c : Char}
    (hc : ¬ (c.isDigit = true ∨ c ∈ ['[', ']', ',', '.', '-', '+', 'e'])) :
    c ∉ literal.toList := fun hmem => hc (h.isDigit_or_mem hmem)

theorem bracketed (h : IsLiteral xs literal) : Text.Bracketed literal.toList where
  opened := by
    obtain ⟨body, rfl, -⟩ := h.tokens
    simp
  backslash := h.notMem (by decide)
  quotes := ⟨h.notMem (by decide), h.notMem (by decide)⟩

end Value.IsLiteral

/-! ### Brackets of a statement -/

namespace Query

/-- **Brackets stand around references only**: behind each that opens there is a dollar sign. -/
def OpensOnReferences (cs : List Char) : Prop :=
  ∀ rest, '[' :: rest <:+ cs → rest.head? = some '$'

variable {a b s : List Char} {t : Template} {ts : List Template}

theorem opensOnReferences_of_notMem (h : '[' ∉ a) : OpensOnReferences a := fun _ hrest =>
  absurd (hrest.subset List.mem_cons_self) h

theorem OpensOnReferences.append (ha : OpensOnReferences a) (hb : OpensOnReferences b) :
    OpensOnReferences (a ++ b) := by
  rintro rest ⟨front, hfront⟩
  obtain ⟨behind, rfl, hrest⟩ | ⟨front', -, rfl⟩ := List.append_eq_append_iff.1 hfront
  · -- the bracket stands in the first part, unless nothing of that is left
    cases behind with
    | nil => exact hb rest ⟨[], hrest⟩
    | cons c behind =>
      obtain ⟨rfl, rfl⟩ : '[' = c ∧ rest = behind ++ b := List.cons.inj hrest
      rw [List.head?_append, ha behind ⟨front, rfl⟩, Option.some_or]
  · exact hb rest ⟨front', rfl⟩

/-- What has no dollar sign is not found where brackets stand around references only. -/
theorem OpensOnReferences.notFound (h : OpensOnReferences a) (hopened : s.head? = some '[')
    (hlength : 1 < s.length) (hdollar : '$' ∉ s) : ¬ s <:+: a := by
  intro hfound
  obtain ⟨rest, rfl⟩ := List.head?_eq_some_iff.1 hopened
  obtain ⟨-, ⟨behind, rfl⟩, hsuffix⟩ := List.infix_iff_prefix_suffix.1 hfound
  have hhead := h _ hsuffix
  cases rest with
  | nil => simp at hlength
  | cons c rest =>
    obtain rfl : c = '$' := Option.some.inj hhead
    simp at hdollar

theorem opensOnReferences_text (h : ∀ x ∈ t, '[' ∉ x.text.toList) :
    OpensOnReferences t.text.toList := by
  refine opensOnReferences_of_notMem ?_
  induction t with
  | nil => simp
  | cons x t ih =>
    rw [List.forall_mem_cons] at h
    rw [text_cons, String.toList_append, List.mem_append, not_or]
    exact ⟨h.1, ih h.2⟩

theorem bracket_notMem_ref (n : Int) : '[' ∉ (Piece.ref n).text.toList := by
  rw [Piece.toList_text_ref]
  exact List.not_mem_cons_of_ne_of_not_mem (by decide) (notMem_toString (by decide) (by decide) n)

theorem opensOnReferences_tagTemplate (n : Int) :
    OpensOnReferences (tagTemplate n).text.toList := by
  have htext : (tagTemplate n).text.toList =
      "\"tags\" @> ARRAY".toList ++ '[' :: ((Piece.ref n).text.toList ++ [']']) := by
    simp [tagTemplate, Piece.text]
  have hnone : '[' ∉ (Piece.ref n).text.toList ++ [']'] :=
    List.not_mem_append (bracket_notMem_ref n) (by decide)
  intro rest hrest
  rw [htext] at hrest
  obtain h | h := List.suffix_cons_iff.1 (Text.suffix_of_suffix_append (by decide) hrest)
  · rw [(List.cons.inj h).2]
    simp [Piece.text]
  · exact absurd (h.subset List.mem_cons_self) hnone

theorem opensOnReferences_tagTemplates (k : Nat) (n : Int) :
    ∀ t ∈ tagTemplates k n, OpensOnReferences t.text.toList := by
  induction k generalizing n with
  | zero => simp [tagTemplates]
  | succ k ih => exact List.forall_mem_cons.2 ⟨opensOnReferences_tagTemplate n, ih (n + 1)⟩

theorem opensOnReferences_join {sep : String} (hsep : '[' ∉ sep.toList)
    (h : ∀ t ∈ ts, OpensOnReferences t.text.toList) :
    OpensOnReferences (join sep ts).text.toList := by
  induction ts with
  | nil => exact opensOnReferences_of_notMem (by simp)
  | cons t ts ih =>
    rw [List.forall_mem_cons] at h
    rcases eq_or_ne ts [] with rfl | hts
    · rw [join_singleton]
      exact h.1
    · rw [join_cons sep t hts, text_append, text_cons, Piece.text_fixed, String.toList_append,
        String.toList_append]
      exact h.1.append ((opensOnReferences_of_notMem hsep).append (ih h.2))

theorem opensOnReferences_filterTests (r : SearchRequest) (n : Int) :
    ∀ t ∈ r.filterTests n, OpensOnReferences t.text.toList := by
  have hnames : ∀ c ∈ ["\"subject\"", "\"examboard\"", "\"level\"", "\"type\""],
      '[' ∉ (c ++ " = ").toList := by
    decide
  have hequal : ∀ m, ∀ t ∈ equalityTemplates r.columns m, ∀ x ∈ t, '[' ∉ x.text.toList := fun m =>
    forall_equalityTemplates (fun c hc => hnames c (SearchRequest.mem_columns hc))
      fun k (_ : m ≤ k) => bracket_notMem_ref k
  exact List.forall_mem_append.2 ⟨opensOnReferences_tagTemplates _ n,
    fun t ht => opensOnReferences_text (hequal _ t ht)⟩

/-- **The statement of a semantic search has brackets around references only.** -/
theorem opensOnReferences_ownStatement {r : SearchRequest} (hs : r.strategy = .semantic)
    (language : String) (n : Int) : OpensOnReferences (ownStatement r language n).text.toList := by
  have hselected : '[' ∉ ("SELECT " ++ resourceColumns).toList := by decide
  have hcolumns : ∀ x ∈ .fixed ("SELECT " ++ resourceColumns) :: ownColumns r language n,
      '[' ∉ x.text.toList := by
    unfold ownColumns scoreTemplate
    rw [hs]
    simp only [List.cons_append, List.nil_append, List.forall_mem_cons]
    exact ⟨hselected, by decide, bracket_notMem_ref _, by decide, by decide, by simp⟩
  have hwhere : OpensOnReferences (whereTemplate (ownTests r language n)).text.toList := by
    have htests : ownTests r language n = r.filterTests n := by
      rw [ownTests, matchTemplates, hs, List.append_nil]
    unfold whereTemplate
    split_ifs
    · exact opensOnReferences_of_notMem (by simp)
    · rw [htests, text_cons, Piece.text_fixed, String.toList_append]
      exact (opensOnReferences_of_notMem (by decide)).append
        (opensOnReferences_join (by decide) (opensOnReferences_filterTests r n))
  have horder : '[' ∉ (orderText r).toList := by
    rw [orderText, String.toList_append, String.toList_append]
    exact List.not_mem_append (List.not_mem_append (by decide) (notMem_orderKeys r (by decide)))
      (by decide)
  have hpage : ∀ x ∈ ([.fixed (orderText r), .ref (n + r.filterValues.length + slotCount r),
      .fixed " OFFSET ", .ref (n + r.filterValues.length + slotCount r + 1)] : Template),
      '[' ∉ x.text.toList := by
    simp only [List.forall_mem_cons]
    exact ⟨horder, bracket_notMem_ref _, by decide, bracket_notMem_ref _, by simp⟩
  rw [ownStatement_eq, ← List.cons_append, text_append, text_append, String.toList_append,
    String.toList_append]
  exact ((opensOnReferences_text hcolumns).append hwhere).append (opensOnReferences_text hpage)

end Query

/-! ### What a note shows of a literal -/

namespace Store

variable {xs : List Value} {literal : String}

/-- A literal finds no room in what is shown of a text: eighty characters, or a beginning and a
length. -/
theorem notFound_abbreviate (h : Value.IsLiteral xs literal) (hlong : 80 < literal.toList.length)
    (s : String) : ¬ literal.toList <:+: (abbreviate s).toList := by
  intro hshown
  by_cases hs : s.toList.length ≤ 80
  · rw [abbreviate_of_le hs] at hshown
    have hle := hshown.length_le
    omega
  · -- the beginning is too short for a literal, and the length has no bracket
    have htext : (abbreviated s).toList = (s.toList.take 40 ++ "...".toList) ++
        '<' :: ((toString s.toList.length).toList ++ " chars>".toList) := by
      simp [abbreviated]
    have hnumber : '[' ∉ (toString s.toList.length).toList := by
      rw [Nat.toString_eq_repr, Nat.toList_repr]
      exact fun hc => nomatch Nat.isDigit_of_mem_toDigits (by decide) (by decide) hc
    rw [abbreviate_of_lt (by omega), htext] at hshown
    obtain hbeginning | hlength := infix_or_infix_of_notMem (h.notMem (by decide)) hshown
    · have hle := hbeginning.length_le
      have hdots : "...".toList.length = 3 := rfl
      rw [List.length_append, List.length_take] at hle
      omega
    · exact h.bracketed.notFound (List.not_mem_append hnumber (by decide)) hlength

/-- The literal is nowhere in the list of the parameters. -/
theorem notFound_described (h : Value.IsLiteral xs literal) (hlong : 80 < literal.toList.length)
    {room : Nat} {ps : List Value} {entries : List String}
    (hentries : descriptions room ps = .ok entries) :
    ¬ literal.toList <:+:
      ['['] ++ ((String.intercalate ", " (entries.map Text.quoted)).toList ++ [']']) := by
  intro hshown
  have hempty : ¬ literal.toList <:+: ['['] ++ [']'] := by
    intro hshown
    have hle := hshown.length_le
    simp at hle
    omega
  obtain ⟨entry, hentry, hshown⟩ := h.bracketed.infix_of_quoted_texts hempty hshown
  obtain ⟨s, rfl⟩ := exists_of_mem_descriptions hentries entry hentry
  exact notFound_abbreviate h hlong s hshown

/-- **A literal that a note shows was told by the store**, unless it stands in the statement. -/
theorem infix_of_failureNote (h : Value.IsLiteral xs literal) (hlong : 80 < literal.toList.length)
    {room : Nat} {stmt : Statement} {f : Fault} {line : LogLine}
    (hnote : failureNote room stmt f = .ok line) (hsql : ¬ literal.toList <:+: stmt.sql.toList)
    (hshown : literal.toList <:+: line.text.toList) : literal.toList <:+: f.text.toList := by
  obtain ⟨entries, hentries, hline⟩ := bind_eq_ok_iff.1 hnote
  cases hline
  have htext : ("Query execution failed: " ++ f.text ++ "\nSQL: " ++ stmt.sql ++ "\nParams: [" ++
      String.intercalate ", " (entries.map Text.quoted) ++ "]").toList =
        "Query execution failed:".toList ++
      ' ' :: (f.text.toList ++ '\n' :: ("SQL:".toList ++ ' ' :: (stmt.sql.toList ++
        '\n' :: ("Params:".toList ++ ' ' :: (['['] ++
          ((String.intercalate ", " (entries.map Text.quoted)).toList ++ [']'])))))) := by
    simp
  have hblank : ' ' ∉ literal.toList := h.notMem (by decide)
  have hline : '\n' ∉ literal.toList := h.notMem (by decide)
  rw [htext] at hshown
  -- neither blank nor line feed is part of a literal, so these divide the note
  obtain hs | hs := infix_or_infix_of_notMem hblank hshown
  · exact absurd hs (h.bracketed.notFound (by decide))
  obtain hs | hs := infix_or_infix_of_notMem hline hs
  · exact hs
  obtain hs | hs := infix_or_infix_of_notMem hblank hs
  · exact absurd hs (h.bracketed.notFound (by decide))
  obtain hs | hs := infix_or_infix_of_notMem hline hs
  · exact absurd hs hsql
  obtain hs | hs := infix_or_infix_of_notMem hblank hs
  · exact absurd hs (h.bracketed.notFound (by decide))
  · exact absurd hs (notFound_described h hlong hentries)

/-- All that is logged of a statement is the note of its fault. -/
theorem failureNote_of_logged {room : Nat} {reply : StoreReply} {stmt : Statement} {line : LogLine}
    (h : .logged line ∈ (query room reply stmt).events) :
    ∃ f, reply stmt = .error f ∧ failureNote room stmt f = .ok line := by
  unfold query at h
  cases hreply : reply stmt with
  | ok answers => simp [hreply] at h
  | error f =>
    refine ⟨f, rfl, ?_⟩
    rw [hreply] at h
    dsimp only at h
    split_ifs at h
    · cases hnote : failureNote room stmt f with
      | ok line' =>
        rw [Outcome.log_andThen_of_ok hnote] at h
        have hline : line = line' := by simpa [Outcome.after, Outcome.fail] using h
        rw [hline]
      | error why =>
        rw [Outcome.log_andThen_of_error hnote] at h
        simp [Outcome.after, Outcome.fail] at h
    · simp at h

/-- **What is logged of parameters.** There is a note iff all of them can be described, and it has
one entry for each of them, in their order, in full or cut. The literal of twenty finite numbers or
more is always cut, wherever there is any room, so if the statement of a semantic search fails, its
note does not show the literal unless the store itself told it. -/
theorem notes_abbreviated :
    (∀ room ps, (∃ entries, descriptions room ps = .ok entries) ↔ CanDescribe room ps) ∧
    (∀ room ps entries, descriptions room ps = .ok entries →
      List.Forall₂ (Describes room) ps entries) ∧
    ∀ (room : Nat) (v : Value) (xs : List Value), 0 < room → v.elements? = some xs →
      20 ≤ xs.length → (∀ x ∈ xs, ∃ f, x.toFloat = .ok f ∧ f.isFinite = true) →
      ∃ literal, v.vectorLiteral = .ok literal ∧ 80 < (Text.quoted literal).toList.length ∧
        describe room (.text literal) = .ok (abbreviated (Text.quoted literal)) ∧
        ∀ (r : SearchRequest) (n : Int) (language : Value) (plan : Plan),
          r.strategy = .semantic → Query.compileFrom r n (some v) language = .ok plan →
          .text literal ∈ plan.params ∧
          ∀ reply line, .logged line ∈ (query room reply ⟨plan.sql, plan.params⟩).events →
            ∃ f, reply ⟨plan.sql, plan.params⟩ = .error f ∧
              failureNote room ⟨plan.sql, plan.params⟩ f = .ok line ∧
              (literal.toList <:+: line.text.toList → literal.toList <:+: f.text.toList) := by
  refine ⟨exists_descriptions_iff, fun room ps entries h => ?_, ?_⟩
  · exact (forall₂_of_descriptions h).imp fun _ _ => describes
  intro room v xs hroom hv hcount hfinite
  have hne : xs ≠ [] := List.length_pos_iff.1 (by omega)
  obtain ⟨literal, h⟩ := Value.exists_isLiteral_of_isFinite hne hfinite
  have hlength := h.four_mul_length_lt
  have hlong : 80 < literal.toList.length := by omega
  have hquoted : 80 < (Text.quoted literal).toList.length :=
    hlong.trans_le (Text.length_le_quoted literal)
  have hwritten : v.vectorLiteral = .ok literal := (Value.vectorLiteral_eq hv).trans h.written
  refine ⟨literal, hwritten, hquoted, ?_, ?_⟩
  · rw [describe_text hroom, abbreviate_of_lt hquoted]
  intro r n language plan hs hplan
  obtain ⟨-, s, q, -, -, hq, rfl⟩ := Query.compileFrom_ok hplan
  obtain ⟨bound, hc, hbound⟩ := Query.parts_ok hq
  obtain ⟨w, hw, hwritten'⟩ := hbound hs
  obtain rfl : v = w := Option.some.inj hw
  obtain rfl : literal = bound := Except.ok.inj (hwritten.symm.trans hwritten')
  refine ⟨?_, fun reply line hline => ?_⟩
  · rw [Query.assemble_params hc, Query.strategyValues, hs]
    simp
  · obtain ⟨f, hreply, hnote⟩ := failureNote_of_logged hline
    have hsql : ¬ literal.toList <:+: (Query.assemble r q).sql.toList := by
      rw [Query.assemble_sql hc]
      exact (Query.opensOnReferences_ownStatement hs s n).notFound h.bracketed.opened (by omega)
        (h.notMem (by decide))
    exact ⟨f, hreply, hnote, infix_of_failureNote h hlong hnote hsql⟩

/-- The shortest literal of twenty coordinates: it has eighty-one characters, and two more with its
quotes. -/
theorem notes_abbreviated_ones :
    let v : Value := .list (List.replicate 20 (.int 1))
    let r : SearchRequest := { query := .text "algebra", semantic := true }
    ∃ literal plan, v.vectorLiteral = .ok literal ∧
      Query.compileFrom r 1 (some v) (.text "english") = .ok plan ∧ .text literal ∈ plan.params ∧
      describe 900 (.text literal) =
        .ok "'[1.0,1.0,1.0,1.0,1.0,1.0,1.0,1.0,1.0,1....<83 chars>" := by
  intro v r
  have hfinite : ∀ x ∈ List.replicate 20 (Value.int 1),
      ∃ f, x.toFloat = .ok f ∧ f.isFinite = true := by
    intro x hx
    rw [List.eq_of_mem_replicate hx]
    exact Value.toFloat_of_isFiniteNumber (by decide +kernel)
  obtain ⟨literal, hliteral, -, hentry, hplans⟩ :=
    notes_abbreviated.2.2 900 v _ (by decide) rfl (by decide) hfinite
  have hvector : Query.HasVector r (some v) := fun _ =>
    ⟨v, rfl, v.vectorLiteral_isOk_iff.1 ⟨literal, hliteral⟩⟩
  have hlanguage : Query.isLanguage "english" = true := rfl
  obtain ⟨q, -, hplan⟩ := Query.compileFrom_one hlanguage hvector (by decide)
  have hcut : v.vectorLiteral.toOption.map (fun l => abbreviated (Text.quoted l)) =
      some "'[1.0,1.0,1.0,1.0,1.0,1.0,1.0,1.0,1.0,1....<83 chars>" := by
    decide +kernel
  rw [hliteral] at hcut
  refine ⟨literal, _, hliteral, hplan, (hplans r 1 _ _ rfl hplan).1, ?_⟩
  rw [hentry]
  exact congrArg Except.ok (Option.some.inj hcut)

/-- **Some parameters cannot be described**: a number of 4301 digits is too long, and a thousand
lists in one another are too deep. Twenty whole numbers that round beyond floating point have no
literal. -/
theorem notes_unwritten :
    descriptions 900 [.int (Nat.pow 10 digitLimit : Nat)] = .error .tooLong ∧
      descriptions 900 [Nat.repeat (fun v => .list [v]) 1000 .null] = .error .tooDeep ∧
      (Value.list (List.replicate 20 (.int (Nat.pow 10 309 : Nat)))).vectorLiteral =
        .error (.coordinate .tooLarge) := by
  refine ⟨?_, ?_, ?_⟩
  · rw [descriptions, describe, Value.quoted?,
      wholeText?_of_not_isWritable isWritable_pow_digitLimit]
    rfl
  · decide +kernel
  · decide +kernel

end Store

end CatalogSearch
