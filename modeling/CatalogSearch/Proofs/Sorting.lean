import CatalogSearch.Proofs.Independence
import CatalogSearch.Proofs.Ordering

/-!
# From a sort text to the last key of the order

A sort text is cut at its first colon. What is in front of it is refused unless it is one of the six
names; what is behind it is ascending if it is the one word for that and descending otherwise,
further colons and all. Here the term is followed to the text of the statement, where it is the last
key of the order in each of the three strategies.

* `Parameters.IsSortText`: a sort text and the two sides of its first colon.
* `Sql.sortKeys`: the keys that a statement is ordered by, read off its text.
* `Query.sortKeys_of_compileFrom`: they are those of the request.
* `Parameters.rejected_or_sorted`: what becomes of a sort text.
-/

namespace CatalogSearch

namespace Sql

/-- The keys of a line that lists them: what stands between the commas, without blanks in front. -/
def keysOf (line : List Char) : List String :=
  (line.splitOn ',').map fun key => String.ofList (key.dropWhile (· == ' '))

/-- **The keys that a statement is ordered by**, first to last, read off its order lines. -/
def sortKeys (sql : String) : List String :=
  (orderLines sql).flatMap fun line => keysOf (line.drop "ORDER BY ".length)

/-- A key that a line can list. -/
def IsListable (key : String) : Prop :=
  ',' ∉ key.toList ∧ key.toList.head? ≠ some ' '

instance : DecidablePred IsListable := fun _ => inferInstanceAs (Decidable (_ ∧ _))

variable {blanks : List Char} {key : String}

/-- A listable key behind blanks is one piece of a line, and is read without the blanks. -/
theorem IsListable.behind (h : IsListable key) (hblanks : ∀ c ∈ blanks, c = ' ') :
    ',' ∉ blanks ++ key.toList ∧
      String.ofList ((blanks ++ key.toList).dropWhile (· == ' ')) = key := by
  constructor
  · rw [List.mem_append, not_or]
    exact ⟨fun hcomma => absurd (hblanks _ hcomma) (by decide), h.1⟩
  · rw [List.dropWhile_append_of_pos fun c hc => beq_iff_eq.2 (hblanks c hc),
      List.dropWhile_beq_eq_self_of_head?_ne h.2, String.ofList_toList]

theorem keysOf_last (h : IsListable key) (hblanks : ∀ c ∈ blanks, c = ' ') :
    keysOf (blanks ++ key.toList) = [key] := by
  obtain ⟨hcomma, hread⟩ := h.behind hblanks
  rw [keysOf, List.splitOn_eq_singleton hcomma, List.map_singleton, hread]

theorem keysOf_more (h : IsListable key) (hblanks : ∀ c ∈ blanks, c = ' ') (line : List Char) :
    keysOf (blanks ++ key.toList ++ ',' :: line) = key :: keysOf line := by
  obtain ⟨hcomma, hread⟩ := h.behind hblanks
  rw [keysOf, List.splitOn_append_cons_self, List.splitOn_eq_singleton hcomma,
    List.singleton_append, List.map_cons, hread, keysOf]

/-- **Keys are read back from a line that lists them.** -/
theorem keysOf_intercalate {keys : List String} (hne : keys ≠ [])
    (hkeys : ∀ key ∈ keys, IsListable key) (hblanks : ∀ c ∈ blanks, c = ' ') :
    keysOf (blanks ++ (String.intercalate ", " keys).toList) = keys := by
  induction keys generalizing blanks with
  | nil => exact absurd rfl hne
  | cons key keys ih =>
    rw [List.forall_mem_cons] at hkeys
    by_cases hlast : keys = []
    · rw [hlast, String.intercalate_singleton, keysOf_last hkeys.1 hblanks]
    · -- the blank behind the comma is in front of the next key
      have hline : blanks ++ (String.intercalate ", " (key :: keys)).toList =
          blanks ++ key.toList ++ ',' :: ([' '] ++ (String.intercalate ", " keys).toList) := by
        rw [String.intercalate_cons_of_ne_nil hlast]
        simp
      rw [hline, keysOf_more hkeys.1 hblanks, ih hlast hkeys.2 (by simp)]

end Sql

open Sql

namespace Query

theorem isListable_orderKeys (r : SearchRequest) : ∀ key ∈ orderKeys r, IsListable key := by
  have horder : IsListable r.orderBy := by
    unfold SearchRequest.orderBy
    cases r.sortKey <;> cases r.sortDirection <;> decide
  rw [orderKeys_eq, List.forall_mem_append, List.forall_mem_singleton, List.forall_mem_map]
  refine ⟨?_, horder⟩
  cases r.strategy <;> decide

variable {r : SearchRequest}

/-- **The keys that are read off a statement are those of its request.** -/
theorem sortKeys_of_compileFrom {n : Int} {vector : Option Value} {language : Value} {plan : Plan}
    (h : compileFrom r n vector language = .ok plan) : sortKeys plan.sql = orderKeys r := by
  obtain ⟨rfl, s, q, -, hs, hq, rfl⟩ := compileFrom_ok h
  obtain ⟨literal, hc, -⟩ := parts_ok hq
  have hline : orderLines (ownStatement r s 1).text = _ := orderLines_ownStatement (n := 1) r hs
  have hne : orderKeys r ≠ [] := by simp [orderKeys_eq]
  have hread := keysOf_intercalate hne (isListable_orderKeys r) (nofun : ∀ c ∈ [], c = ' ')
  rw [assemble_sql hc, sortKeys, hline, List.flatMap_singleton, String.toList_append,
    ← String.length_toList, List.drop_left]
  exact hread

/-- **A request whose statements are ordered last by a term**: with whatever vector and in whatever
language it is compiled; and it is, in an accepted language and with the vector that it needs, as
soon as its tags are no more than a list in memory can have. -/
structure IsOrderedLastBy (r : SearchRequest) (term : String) : Prop where
  last : ∀ vector language plan, compileFrom r 1 vector language = .ok plan →
    (sortKeys plan.sql).getLast? = some term
  compiles : ∀ vector asked configured language,
    checkLanguage (effectiveLanguage asked configured) = .ok language → HasVector r vector →
    r.tags.length < 2 ^ 63 →
    ∃ plan, compileFrom r 1 vector (effectiveLanguage asked configured) = .ok plan

theorem isOrderedLastBy_orderBy (r : SearchRequest) : IsOrderedLastBy r r.orderBy where
  last vector language plan hplan := by
    rw [sortKeys_of_compileFrom hplan, orderKeys_eq, List.getLast?_concat]
  compiles vector asked configured language hlanguage hvector htags := by
    obtain ⟨plan, hplan, -⟩ := compileFrom_ordered hlanguage hvector htags
    exact ⟨plan, hplan⟩

end Query

open Query

/-! ### Sort texts -/

/-- The names that results can be sorted by. -/
def sortNames : List String := ["subject", "examboard", "level", "type", "averagerating", "title"]

theorem mem_sortNames_iff {name : String} : name ∈ sortNames ↔ ∃ k : SortKey, k.name = name := by
  constructor
  · intro h
    simp only [sortNames, List.mem_cons, List.not_mem_nil, or_false] at h
    rcases h with rfl | rfl | rfl | rfl | rfl | rfl
    exacts [⟨.subject, rfl⟩, ⟨.examBoard, rfl⟩, ⟨.level, rfl⟩, ⟨.type, rfl⟩, ⟨.averageRating, rfl⟩,
      ⟨.title, rfl⟩]
  · rintro ⟨k, rfl⟩
    cases k <;> decide

/-- **The term that a name and a direction come to.** -/
def sortTerm (name direction : String) : String :=
  if name = "" then "\"averagerating\" DESC"
  else "\"" ++ name ++ "\" " ++ if direction = "asc" then "ASC" else "DESC"

namespace Parameters

/-- The two sides of a sort text at its first colon. -/
def IsSortText (raw name direction : String) : Prop :=
  Text.IsCut ':' raw.toList name.toList direction.toList

theorem exists_isSortText (raw : String) : ∃ name direction, IsSortText raw name direction := by
  obtain ⟨front, behind, hcut⟩ := Text.exists_isCut ':' raw.toList
  refine ⟨String.ofList front, String.ofList behind, ?_⟩
  rwa [IsSortText, String.toList_ofList, String.toList_ofList]

variable {raw name direction : String}

theorem parseSort_unsortable (h : IsSortText raw name direction) (hname : name ≠ "")
    (hmem : name ∉ sortNames) : parseSort raw = .error (.unsortable name) := by
  have hnone : SortKey.ofName? name = none := by
    refine List.find?_eq_none.2 fun k _ hk => hmem (mem_sortNames_iff.2 ⟨k, ?_⟩)
    simpa using hk
  unfold parseSort
  rw [h.before_eq, String.ofList_toList]
  dsimp only
  rw [if_neg hname, hnone]

/-- What is sorted by where there is no name or one of the six. -/
theorem parseSort_sortable (h : IsSortText raw name direction)
    (hname : name = "" ∨ name ∈ sortNames) :
    ∃ key keyword, parseSort raw = .ok (key, keyword) ∧
      key.column ++ " " ++ keyword.keyword = sortTerm name direction := by
  unfold parseSort
  rw [h.before_eq, h.after_eq, String.ofList_toList, String.ofList_toList]
  dsimp only
  by_cases hempty : name = ""
  · rw [if_pos hempty, sortTerm, if_pos hempty]
    exact ⟨_, _, rfl, rfl⟩
  · obtain ⟨k, rfl⟩ := mem_sortNames_iff.1 (hname.resolve_left hempty)
    have hkeyword : (if direction = "asc" then SortDirection.ascending else .descending).keyword =
        if direction = "asc" then "ASC" else "DESC" := by
      split <;> rfl
    rw [if_neg hempty, SortKey.ofName?_name, sortTerm, if_neg hempty, ← hkeyword]
    refine ⟨_, _, rfl, ?_⟩
    rw [SortKey.column, show "\" " = "\"" ++ " " from rfl]
    simp only [String.append_assoc]

variable {ps : Parameters} {d m : Value}

/-- Where nothing is wrong with any other parameter, the sort text is all that decides. -/
theorem normalize_of_sort (hread : ps.IsReadable) (hclamps : ps.ClampsPage d m)
    (hothers : ∀ p ≠ Parameter.sort, p.refusal? (ps.textOf p.name) = none) :
    (∃ why, parseSort (ps.textOf "sort") = .error why ∧
        ps.normalize d m = .error (.rejected why)) ∨
      ∃ r, parseSort (ps.textOf "sort") = .ok (r.sortKey, r.sortDirection) ∧
        ps.normalize d m = .ok r := by
  rcases normalize_outcome hread d m with
    ⟨-, p, why, ⟨_, _, -, hp, -⟩, herror⟩ | ⟨hnot, -⟩ | ⟨-, -, r, hr⟩
  · obtain rfl : p = .sort := by
      by_contra hne
      exact nomatch (hothers p hne).symm.trans hp
    exact Or.inl ⟨why, refusalOf_eq_some_iff.1 hp, herror⟩
  · exact absurd hclamps hnot
  · obtain ⟨-, _, _, _, sort, -, -, -, hsort, rfl⟩ := normalize_eq_ok_iff.1 hr
    exact Or.inr ⟨_, hsort, hr⟩

/-- **From a sort text to the last key of the order**, whatever default and maximum of the page size
are, where all other parameters are accepted: the page size can be clamped, and none is refused. A
name that is none of the six is refused as the sort; otherwise there is a request, and the last key
of its statements is the name in quotes and the direction, or the best rated first where there is no
name. -/
theorem rejected_or_sorted {ps : Parameters} {d m : Value} (hread : ps.IsReadable)
    (hclamps : ps.ClampsPage d m)
    (hothers : ∀ p ≠ Parameter.sort, p.refusal? (ps.textOf p.name) = none) :
    ∃ name direction, IsSortText (ps.textOf "sort") name direction ∧
      (name ≠ "" → name ∉ sortNames →
        ∃ why, ps.normalize d m = .error (.rejected why) ∧
          why.toError = .invalidRequest "sort" why.message) ∧
      (name = "" ∨ name ∈ sortNames →
        ∃ r, ps.normalize d m = .ok r ∧ IsOrderedLastBy r (sortTerm name direction)) := by
  obtain ⟨name, direction, htext⟩ := exists_isSortText (ps.textOf "sort")
  refine ⟨name, direction, htext, fun hname hmem => ?_, fun hname => ?_⟩
  · have hsort := parseSort_unsortable htext hname hmem
    rcases normalize_of_sort hread hclamps hothers with ⟨why, hwhy, herror⟩ | ⟨r, hr, -⟩
    · rw [hsort] at hwhy
      cases hwhy
      exact ⟨_, herror, rfl⟩
    · exact nomatch hsort.symm.trans hr
  · obtain ⟨key, keyword, hsort, hterm⟩ := parseSort_sortable htext hname
    rcases normalize_of_sort hread hclamps hothers with ⟨why, hwhy, -⟩ | ⟨r, hr, hnormalize⟩
    · exact nomatch hsort.symm.trans hwhy
    · rw [hsort] at hr
      cases hr
      exact ⟨r, hnormalize, hterm ▸ isOrderedLastBy_orderBy r⟩

/-- A name in capitals is refused; a direction with a colon behind it is none, and descending. -/
theorem rejected_or_sorted_title :
    let ps (sort : String) : Parameters := [("query", .text "cells"), ("sort", .text sort)]
    (∃ why, (ps "Title:asc").normalize (.int 20) (.int 100) = .error (.rejected why) ∧
        why.toError = .invalidRequest "sort" why.message) ∧
      ∃ r plan, (ps "title:asc:").normalize (.int 20) (.int 100) = .ok r ∧
        compileFrom r 1 none (effectiveLanguage .null (.text "english")) = .ok plan ∧
        (sortKeys plan.sql).getLast? = some "\"title\" DESC" := by
  intro ps
  have hread : ∀ sort, (ps sort).IsReadable := fun sort => isReadable_of_texts (by simp [ps])
  have hclamps : ∀ sort, (ps sort).ClampsPage (.int 20) (.int 100) := by
    intro sort asked hasked
    rw [show (ps sort).textOf "limit" = "" from rfl] at hasked
    obtain rfl : .int 20 = asked := Except.ok.inj hasked
    exact .inl rfl
  have hothers : ∀ sort, ∀ p ≠ Parameter.sort, p.refusal? ((ps sort).textOf p.name) = none := by
    intro sort p hp
    cases p with
    | sort => exact absurd rfl hp
    | _ => rfl
  constructor
  · obtain ⟨name, direction, htext, hrefused, -⟩ :=
      rejected_or_sorted (hread "Title:asc") (hclamps _) (hothers _)
    rw [show (ps "Title:asc").textOf "sort" = "Title:asc" from rfl] at htext
    obtain rfl : "Title" = name := String.toList_inj.1 htext.before_eq
    exact hrefused (by decide) (by decide)
  · obtain ⟨name, direction, htext, -, hsorted⟩ :=
      rejected_or_sorted (hread "title:asc:") (hclamps _) (hothers _)
    rw [show (ps "title:asc:").textOf "sort" = "title:asc:" from rfl] at htext
    obtain rfl : "title" = name := String.toList_inj.1 htext.before_eq
    obtain rfl : "asc:" = direction := String.toList_inj.1 htext.after_eq
    obtain ⟨r, hr, hlast⟩ := hsorted (.inr (by decide))
    have hvector : HasVector r none := fun hsemantic =>
      absurd ((strategy_eq_semantic_iff hr).1 hsemantic) (by decide)
    have htags : r.tags = [] := by
      obtain ⟨-, _, _, _, _, -, -, -, -, rfl⟩ := normalize_eq_ok_iff.1 hr
      rfl
    obtain ⟨plan, hplan⟩ := hlast.compiles none .null (.text "english") "english" rfl hvector
      (by rw [htags]; decide)
    exact ⟨_, plan, hr, hplan, hlast.last _ _ _ hplan⟩

end Parameters

end CatalogSearch
