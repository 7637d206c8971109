import CatalogSearch.Proofs.Language
import CatalogSearch.Proofs.Sql.Projection

/-!
# The order of a statement and its columns

A strategy lists the columns that it adds and the keys that it orders by side by side, and only the
statement brings the two together. A key by a name that no column goes by would fail when the
statement is run. Here lines and items are read off the text of the statement and compared.

* `Sql.orderLines`: the lines of a text that begin an order.
* `Sql.selected`: the items that a statement selects.
* `Query.IsOrdered`: a plan whose keys are those of its order line, by the names of the columns that
  its statement adds.
* `Query.isOrdered_of_compileFrom`: every plan is ordered.
* `Query.compileFrom_ordered`: in an accepted language and with the vector it needs, a request has
  an ordered plan.
-/

namespace CatalogSearch

namespace Sql

/-- The lines of a text. -/
def lines (s : String) : List (List Char) := s.toList.splitOn '\n'

/-- **The lines that begin an order.** -/
def orderLines (s : String) : List (List Char) :=
  (lines s).filter ("ORDER BY ".toList.isPrefixOf ·)

/-- **The items that a statement selects**, first to last. -/
def selected : List Token → Option (List (List Token))
  | .word "SELECT" :: ts => items? 0 ts
  | _ => none

/-! ### Texts without an order line -/

/-- Whether something else than an O stands behind every line feed. -/
def isOrderless : List Char → Bool
  | [] => true
  | c :: cs => (c != '\n' || cs.head?.any (· != 'O')) && isOrderless cs

/-- What stands behind a line feed does so in a longer text. -/
theorem isOrderless_append {a b : List Char} (ha : isOrderless a = true)
    (hb : isOrderless b = true) : isOrderless (a ++ b) = true := by
  induction a with
  | nil => exact hb
  | cons c cs ih =>
    simp only [List.cons_append, isOrderless, Bool.and_eq_true] at ha ⊢
    refine ⟨?_, ih ha.2⟩
    cases cs with
    | nil =>
      -- nothing stands behind the last character, so it is no line feed
      have hc : (c != '\n') = true := by simpa using ha.1
      rw [hc, Bool.true_or]
    | cons d ds => exact ha.1

theorem isOrderless_of_notMem {cs : List Char} (h : '\n' ∉ cs) : isOrderless cs = true := by
  induction cs with
  | nil => rfl
  | cons c cs ih =>
    rw [List.mem_cons, not_or] at h
    have hc : (c != '\n') = true := by simpa using Ne.symm h.1
    rw [isOrderless, hc, ih h.2]
    rfl

/-- Only the first line can begin with an O, if the text itself does. -/
theorem splitOn_of_isOrderless {cs : List Char} (h : isOrderless cs = true) :
    ∃ first rest, cs.splitOn '\n' = first :: rest ∧
      (first.head? = some 'O' → cs.head? = some 'O') ∧
      ∀ line ∈ rest, line.head? ≠ some 'O' := by
  -- the first line is kept apart, as it alone grows at its front
  induction cs with
  | nil => exact ⟨[], [], List.splitOn_nil _, id, by simp⟩
  | cons c cs ih =>
    simp only [isOrderless, Bool.and_eq_true, Bool.or_eq_true] at h
    obtain ⟨first, rest, hsplit, hfirst, hrest⟩ := ih h.2
    rw [List.splitOn_cons_eq_if_modifyHead, hsplit]
    by_cases hc : c = '\n'
    · subst hc
      have hbehind : cs.head? ≠ some 'O' := by
        intro ho
        simp [ho] at h
      exact ⟨[], first :: rest, rfl, nofun,
        List.forall_mem_cons.2 ⟨fun ho => hbehind (hfirst ho), hrest⟩⟩
    · exact ⟨c :: first, rest, by simp [hc], id, hrest⟩

theorem orderLines_of_isOrderless {s : String} (h : isOrderless s.toList = true)
    (hfirst : s.toList.head? ≠ some 'O') : orderLines s = [] := by
  obtain ⟨first, rest, hsplit, ho, hrest⟩ := splitOn_of_isOrderless h
  have hlines : ∀ line ∈ lines s, line.head? ≠ some 'O' := by
    rw [lines, hsplit]
    exact List.forall_mem_cons.2 ⟨fun hline => hfirst (ho hline), hrest⟩
  refine List.filter_eq_nil_iff.2 fun line hline hprefix => hlines line hline ?_
  obtain ⟨behind, rfl⟩ := List.isPrefixOf_iff_prefix.1 hprefix
  rfl

/-- **The order line stands between two texts without one.** -/
theorem orderLines_between {front keys page : String} (hfront : orderLines front = [])
    (hkeys : '\n' ∉ keys.toList) (hpage : orderLines page = []) :
    orderLines (front ++ ("\nORDER BY " ++ (keys ++ ("\n" ++ page)))) =
      [("ORDER BY " ++ keys).toList] := by
  have hline : '\n' ∉ ("ORDER BY " ++ keys).toList := by simp [hkeys]
  have htext : (front ++ ("\nORDER BY " ++ (keys ++ ("\n" ++ page)))).toList =
      front.toList ++ '\n' :: (("ORDER BY " ++ keys).toList ++ '\n' :: page.toList) := by
    simp
  have hlines : lines (front ++ ("\nORDER BY " ++ (keys ++ ("\n" ++ page)))) =
      lines front ++ ([("ORDER BY " ++ keys).toList] ++ lines page) := by
    unfold lines
    rw [htext, List.splitOn_append_cons_self, List.splitOn_append_cons_self,
      List.splitOn_eq_singleton hline]
  have hprefix : "ORDER BY ".toList.isPrefixOf ("ORDER BY " ++ keys).toList = true := by
    rw [List.isPrefixOf_iff_prefix, String.toList_append]
    exact List.prefix_append _ _
  unfold orderLines at hfront hpage ⊢
  rw [hlines, List.filter_append, List.filter_append, hfront, hpage, List.filter_singleton, hprefix]
  rfl

end Sql

open Template Sql

/-- A piece that begins no order line, wherever it stands. -/
def Orderless (x : Piece) : Prop := isOrderless x.text.toList = true

instance : DecidablePred Orderless := fun _ => inferInstanceAs (Decidable (_ = true))

theorem orderless_ref {n : Int} (h : 0 ≤ n) : Orderless (.ref n) := by
  obtain ⟨n, rfl⟩ := Int.eq_ofNat_of_zero_le h
  refine isOrderless_of_notMem ?_
  rw [toList_ref, List.mem_cons, not_or]
  exact ⟨by decide, fun hn => absurd
    (Nat.isDigit_of_mem_toDigits (b := 10) (by decide) (by decide) hn) (by decide)⟩

/-- The quote behind a language closes its last line. -/
theorem orderless_language {s language : String} (hl : Query.isLanguage language = true)
    (hs : isOrderless s.toList = true) : Orderless (.fixed (s ++ language ++ "', ")) := by
  obtain ⟨word, ending, htext, hword, hending⟩ := Query.isLanguage_iff_passes.1 hl
  obtain rfl : language = word ++ ending := Value.text.inj htext
  -- a line feed at the end of the language is inside of the quotes
  have hclosed : ∀ ending ∈ ["", "\n"], isOrderless (ending ++ "', ").toList = true := by decide
  unfold Orderless
  rw [Piece.text_fixed, String.append_assoc, String.append_assoc, String.toList_append,
    String.toList_append]
  exact isOrderless_append hs (isOrderless_append
    (isOrderless_of_notMem (Query.notMem_of_isIdentifier hword)) (hclosed ending hending))

theorem isOrderless_text {t : Template} (h : ∀ x ∈ t, Orderless x) :
    isOrderless t.text.toList = true := by
  induction t with
  | nil => simp [isOrderless]
  | cons x t ih =>
    rw [List.forall_mem_cons] at h
    rw [text_cons, String.toList_append]
    exact isOrderless_append h.1 (ih h.2)

namespace Query

theorem orderless_ownFront (r : SearchRequest) {language : String}
    (hl : isLanguage language = true) {n : Int} (hn : 0 ≤ n) :
    ∀ x ∈ ownFront r language n, Orderless x := by
  have hrefs : ∀ m, n ≤ m → Orderless (.ref m) := fun m hm => orderless_ref (by omega)
  have hscore : ∀ s ∈ scoreTexts language, Orderless (.fixed s) := by
    simp only [scoreTexts, List.forall_mem_cons]
    exact ⟨by decide, by decide, orderless_language hl (by decide), by decide, by decide,
      by decide, by decide, by simp⟩
  have hmatch : ∀ s ∈ matchTexts language, Orderless (.fixed s) := by
    simp only [matchTexts, List.forall_mem_cons]
    exact ⟨orderless_language hl (by decide), by decide, by decide,
      orderless_language hl (by decide), by simp⟩
  unfold ownFront
  rw [List.forall_mem_cons, List.forall_mem_append]
  exact ⟨by decide, forall_ownColumns r (List.forall_mem_cons.2 ⟨by decide, hscore⟩) hrefs,
    forall_whereTemplate (by decide) (by decide)
      (forall_ownTests r (List.forall_mem_append.2 ⟨by decide, hmatch⟩) hrefs)⟩

/-- **The order line of a request's statement** is the list of its keys. -/
theorem orderLines_ownStatement (r : SearchRequest) {language : String}
    (hl : isLanguage language = true) {n : Nat} :
    orderLines (ownStatement r language n).text =
      [("ORDER BY " ++ String.intercalate ", " (orderKeys r)).toList] := by
  have hfront : isOrderless (ownFront r language n).text.toList = true :=
    isOrderless_text (orderless_ownFront r hl (Int.natCast_nonneg n))
  have hpage : isOrderless (ownPage r n).text.toList = true := by
    refine isOrderless_text ?_
    unfold ownPage
    simp only [List.forall_mem_cons]
    exact ⟨by decide, orderless_ref (by omega), by decide, orderless_ref (by omega), by simp⟩
  rw [text_ownStatement]
  exact orderLines_between (orderLines_of_isOrderless hfront (by simp [ownFront]))
    (notMem_orderKeys r (by decide)) (orderLines_of_isOrderless hpage (by simp [ownPage]))

/-- The items of the columns of a resource. -/
def resourceItems : List (List Token) :=
  [[.word "id"], [.word "title"], [.word "description"], [.name "averagerating"],
    [.word "subject"], [.name "examboard"], [.word "level"], [.word "type"]]

/-- **The items of a request's statement**: the columns of a resource, which are given no name, and
then those of its strategy, each with its own. -/
theorem selected_ownStatement (r : SearchRequest) {language : String}
    (hl : isLanguage language = true) {n : Nat} :
    ∃ scores, selected (tokens (ownStatement r language n).text) =
        some (resourceItems ++ scores) ∧
      scores.map alias? = (scoreNames r.strategy).map some := by
  obtain ⟨k, rest, ht⟩ := tokens_select (n := n) r hl
  rw [ht, tokens_resourceColumns]
  unfold scoreTokens
  cases r.strategy with
  | semantic => exact ⟨_, rfl, rfl⟩
  | fullText => cases r.fuzzy <;> exact ⟨_, rfl, rfl⟩
  | filterOnly => exact ⟨_, rfl, rfl⟩

theorem orderKeys_eq (r : SearchRequest) :
    orderKeys r = (scoreNames r.strategy).map (· ++ " DESC") ++ [r.orderBy] := by
  unfold orderKeys
  cases r.strategy <;> rfl

/-- **A plan whose order agrees with its columns**: its one order line is the list of its keys; its
statement selects the columns of a resource first; and what is selected behind them is ordered by,
in its order and by its name, in front of the key that the request asks for. -/
structure IsOrdered (r : SearchRequest) (plan : Plan) : Prop where
  line : orderLines plan.sql = [("ORDER BY " ++ String.intercalate ", " plan.tieBreak).toList]
  keys : ∃ (scores : List (List Token)) (aliases : List String),
    selected (tokens plan.sql) = some (resourceItems ++ scores) ∧
    scores.map alias? = aliases.map some ∧
    (resourceItems ++ scores).filterMap alias? = aliases ∧
    plan.tieBreak = aliases.map (· ++ " DESC") ++ [r.orderBy]

variable {r : SearchRequest} {vector : Option Value}

/-- **Every plan is ordered**, in whatever language and with whatever vector it was compiled. -/
theorem isOrdered_of_compileFrom {n : Int} {language : Value} {plan : Plan}
    (h : compileFrom r n vector language = .ok plan) : IsOrdered r plan := by
  obtain ⟨rfl, s, q, -, hs, hq, rfl⟩ := compileFrom_ok h
  obtain ⟨literal, hc, -⟩ := parts_ok hq
  have hkeys : (assemble r q).tieBreak = orderKeys r := hc.order
  obtain ⟨scores, hselected, hnames⟩ := selected_ownStatement (n := 1) r hs
  have haliases : (resourceItems ++ scores).filterMap alias? = scoreNames r.strategy := by
    have hnone : resourceItems.filterMap alias? = [] := rfl
    -- no score is without a name, so that none is left out
    have hid : scores.filterMap alias? = (scores.map alias?).filterMap id := by
      rw [List.filterMap_map]
      rfl
    rw [List.filterMap_append, hnone, List.nil_append, hid, hnames, List.filterMap_map]
    exact List.filterMap_some
  constructor
  · rw [assemble_sql hc, hkeys]
    exact orderLines_ownStatement (n := 1) r hs
  · rw [assemble_sql hc, hkeys]
    exact ⟨scores, scoreNames r.strategy, hselected, hnames, haliases, orderKeys_eq r⟩

/-- **Every request has an ordered plan**, in an accepted language and with the vector that it
needs. A list in memory has fewer than 2⁶³ items, so `htags` excludes no request. -/
theorem compileFrom_ordered {asked configured : Value} {language : String}
    (hlanguage : checkLanguage (effectiveLanguage asked configured) = .ok language)
    (hvector : HasVector r vector) (htags : r.tags.length < 2 ^ 63) :
    ∃ plan, compileFrom r 1 vector (effectiveLanguage asked configured) = .ok plan ∧
      IsOrdered r plan := by
  obtain ⟨htext, hl⟩ := checkLanguage_eq_ok_iff.1 hlanguage
  obtain ⟨q, -, hplan⟩ := compileFrom_one hl hvector htags
  rw [htext]
  exact ⟨_, hplan, isOrdered_of_compileFrom hplan⟩

/-- A search for words that is not fuzzy is ordered by a column that is the same everywhere. -/
theorem compileFrom_ordered_words :
    let r : SearchRequest :=
      { query := .text "cells", fuzzy := false, sortKey := .title, sortDirection := .ascending }
    ∃ plan, compileFrom r 1 none (effectiveLanguage .null (.text "english")) = .ok plan ∧
      plan.tieBreak = ["rank DESC", "fuzzy_score DESC", "\"title\" ASC"] ∧ IsOrdered r plan := by
  intro r
  have hlanguage : checkLanguage (effectiveLanguage .null (.text "english")) = .ok "english" := rfl
  obtain ⟨plan, hplan, hordered⟩ :=
    @compileFrom_ordered r none .null (.text "english") "english" hlanguage nofun (by decide)
  obtain ⟨-, s, q, -, -, hq, rfl⟩ := compileFrom_ok hplan
  obtain rfl : fullTextParts r (r.predicates 1) s = q := Except.ok.inj hq
  exact ⟨_, hplan, rfl, hordered⟩

end Query

end CatalogSearch
