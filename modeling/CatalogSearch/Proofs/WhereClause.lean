import CatalogSearch.Proofs.Numbering
import CatalogSearch.Proofs.Sql.Condition

/-!
# The WHERE clause of a statement

A statement is read by tokens. The columns in front of the clause contain no keyword of it, and
neither do its own tests, so the clause is what the template of the statement has in this place.

* `Inner`: pieces that can stand between others and open no clause.
* `inner_ownTests`, `inner_ownColumns`: the pieces in front of the order are such.
* `tokens_ownStatement`: the tokens of a statement, columns first.
* `clause_ownStatement`: the tokens between WHERE and ORDER BY.
-/

namespace CatalogSearch

open Template Sql

/-- The language of a text search stands in quotes. -/
theorem tokens_language {s language : String} {ts : List Token}
    (hl : Query.isLanguage language = true)
    (hs : Reading.between.feed s.toList = (ts, .quoted '\'' [])) :
    tokens (s ++ language ++ "', ") = ts ++ [.literal language, .mark ','] ∧
      Closed (s ++ language ++ "', ") :=
  tokens_quoted (Query.notMem_of_isLanguage hl).2 hs (t := ", ") rfl

/-- A piece of a statement that can stand between others and opens no clause. -/
def Inner (x : Piece) : Prop :=
  Whole x.text ∧ ∀ keyword ∈ ["WHERE", "ORDER"], .word keyword ∉ tokens x.text

instance : DecidablePred Inner := fun _ => inferInstanceAs (Decidable (_ ∧ _))

theorem inner_ref {n : Int} (h : 0 ≤ n) : Inner (.ref n) := by
  obtain ⟨n, rfl⟩ := Int.eq_ofNat_of_zero_le h
  obtain ⟨ht, hw⟩ := tokens_ref n
  exact ⟨hw, by rw [ht]; simp⟩

/-- The language of a text search is no keyword. -/
theorem inner_language {s language : String} {ts : List Token}
    (hl : Query.isLanguage language = true) (hb : Begins (s ++ language ++ "', "))
    (hs : Reading.between.feed s.toList = (ts, .quoted '\'' []))
    (hk : ∀ keyword ∈ ["WHERE", "ORDER"], .word keyword ∉ ts) :
    Inner (.fixed (s ++ language ++ "', ")) := by
  obtain ⟨ht, hc⟩ := tokens_language hl hs
  refine ⟨⟨hc, hb⟩, fun keyword hkey => ?_⟩
  rw [Piece.text_fixed, ht]
  simp [hk keyword hkey]

theorem keyword_notMem_tokensOf {t : Template} (h : ∀ x ∈ t, Inner x) :
    .word "WHERE" ∉ tokensOf t ∧ .word "ORDER" ∉ tokensOf t := by
  unfold tokensOf
  simp only [List.mem_flatMap, not_exists, not_and]
  exact ⟨fun x hx => (h x hx).2 _ (by simp), fun x hx => (h x hx).2 _ (by simp)⟩

namespace Query

theorem inner_ownTests (r : SearchRequest) {language : String} (hl : isLanguage language = true)
    {n : Int} (hn : 0 ≤ n) : ∀ t ∈ ownTests r language n, ∀ x ∈ t, Inner x := by
  have hmatch : ∀ s ∈ matchTexts language, Inner (.fixed s) := by
    simp only [matchTexts, List.forall_mem_cons]
    exact ⟨inner_language hl (by simp [Begins]; rfl) rfl (by decide), by decide, by decide,
      inner_language hl (by simp [Begins]; rfl) rfl (by decide), by simp⟩
  exact forall_ownTests r (List.forall_mem_append.2 ⟨by decide, hmatch⟩)
    fun m hm => inner_ref (by omega)

theorem inner_ownColumns (r : SearchRequest) {language : String} (hl : isLanguage language = true)
    {n : Int} (hn : 0 ≤ n) : ∀ x ∈ ownColumns r language n, Inner x := by
  have hscore : ∀ s ∈ scoreTexts language, Inner (.fixed s) := by
    simp only [scoreTexts, List.forall_mem_cons]
    exact ⟨by decide, by decide, inner_language hl (by simp [Begins]; rfl) rfl (by decide),
      by decide, by decide, by decide, by decide, by simp⟩
  exact forall_ownColumns r (List.forall_mem_cons.2 ⟨by decide, hscore⟩)
    fun m hm => inner_ref (by omega)

set_option maxRecDepth 2000 in
theorem tokens_columns :
    Closed ("SELECT " ++ resourceColumns) ∧
      .word "WHERE" ∉ tokens ("SELECT " ++ resourceColumns) ∧
      .word "ORDER" ∉ tokens ("SELECT " ++ resourceColumns) := by
  refine ⟨rfl, ?_, ?_⟩ <;> decide

theorem begins_order (rest : String) : Begins ("\nORDER BY " ++ rest) := by
  simp [Begins]; rfl

theorem tokens_order (rest : String) :
    tokens ("\nORDER BY " ++ rest) = .word "ORDER" :: .word "BY" :: tokens rest :=
  tokens_append_of_between (s := "\nORDER BY ") rfl rest

/-- **The tokens of a statement**: columns, clause and what follows. -/
theorem tokens_ownStatement (r : SearchRequest) {language : String}
    (hl : isLanguage language = true) {n : Int} (hn : 0 ≤ n) :
    ∃ rest, tokens (ownStatement r language n).text =
      tokens ("SELECT " ++ resourceColumns) ++ tokensOf (ownColumns r language n) ++
        (tokensOf (whereTemplate (ownTests r language n)) ++ .word "ORDER" :: rest) := by
  have hcolumns := inner_ownColumns r hl hn
  have htests := inner_ownTests r hl hn
  have hwhole : ∀ x ∈ ownColumns r language n ++ whereTemplate (ownTests r language n),
      Whole x.text := by
    rw [List.forall_mem_append]
    exact ⟨fun x hx => (hcolumns x hx).1,
      forall_whereTemplate (by decide) (by decide) fun t ht x hx => (htests t ht x hx).1⟩
  obtain ⟨ht, hclosed⟩ := tokens_text tokens_columns.1 hwhole
  rw [text_ownStatement, ownFront, text_cons, Piece.text_fixed]
  generalize String.intercalate ", " (orderKeys r) ++ ("\n" ++ (ownPage r n).text) = rest
  refine ⟨.word "BY" :: tokens rest, ?_⟩
  rw [tokens_append hclosed (begins_order rest), ht, tokens_order, tokensOf_append]
  simp only [List.append_assoc]

/-- **The clause of a statement** is made of its tests; without tests there is none. -/
theorem clause_ownStatement (r : SearchRequest) {language : String}
    (hl : isLanguage language = true) {n : Int} (hn : 0 ≤ n) :
    clause (tokens (ownStatement r language n).text) =
      if ownTests r language n = [] then none
      else some (tokensOf (join " AND " (ownTests r language n))) := by
  obtain ⟨-, hsw, hso⟩ := tokens_columns
  obtain ⟨hcw, hco⟩ := keyword_notMem_tokensOf (inner_ownColumns r hl hn)
  obtain ⟨rest, ht⟩ := tokens_ownStatement r hl hn
  rw [ht]
  -- in front stand the columns, whether or not there is a clause behind them
  by_cases h : ownTests r language n = []
  · rw [if_pos h, h]
    exact clause_of_none (by simp [hsw, hcw]) (by simp [hso, hco])
  · have hjoin : ∀ x ∈ join " AND " (ownTests r language n), Inner x :=
      forall_join (by decide) (inner_ownTests r hl hn)
    rw [if_neg h, whereTemplate, if_neg h]
    exact clause_of_where (by simp [hsw, hcw]) (by simp [hso, hco])
      (keyword_notMem_tokensOf hjoin).2

end Query

end CatalogSearch
