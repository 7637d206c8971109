import Mathlib.Data.List.Infix
import Mathlib.Data.List.TakeWhile
import CatalogSearch.Proofs.Compilation
import CatalogSearch.Proofs.References

/-!
# The guard of the placeholders

Predicates may come from a caller, fragments, values and numbering alike, so a statement is compared
with its parameters before it is handed out. The comparison knows the digits of all scripts, and a
database knows those of ASCII only. Where the two read every dollar sign in the same way, the guard
keeps what it promises; a number that is written in digits of another script passes the guard and is
none to the database.

* `Placeholder.parameters`: the numbers that a database reads in a statement.
* `Placeholder.Fits`: these are the numbers of the parameters.
* `Placeholder.AsciiReferences`: guard and database read a text alike; what the compiler writes
  around the fragments of a caller is such text (`Query.asciiReferences_statement`).
* `Query.compile_guard_exact`: a plan and its parameters, whatever the caller brought.
* `Query.compile_unread`: a plan with a parameter that no database finds.
-/

namespace CatalogSearch

open Template Text

namespace Placeholder

/-- **The numbers that a database reads** in a statement: those of the ASCII digits behind its
dollar signs. -/
def parameters (sql : String) : List Nat :=
  sql.toList.tails.filterMap fun
    | '$' :: cs => (leadingCount? cs).map Prod.fst
    | _ => none

/-- **A database reads the numbers of the parameters**, all of them and no other. -/
def Fits (sql : String) (bound : Nat) : Prop := ∀ n, n ∈ parameters sql ↔ 1 ≤ n ∧ n ≤ bound

/-- **Behind its dollar signs a text has ASCII digits**, as far as it has digits there. -/
def AsciiReferences (s : String) : Prop :=
  ∀ cs, '$' :: cs <:+ s.toList → leadingDigits (cs.dropWhile Char.isDigit) = []

instance (s : String) : Decidable (AsciiReferences s) :=
  decidable_of_iff
    (∀ t ∈ s.toList.tails, t.head? = some '$' →
      leadingDigits (t.tail.dropWhile Char.isDigit) = []) <| by
    constructor
    · intro h cs hcs
      exact h _ ((List.mem_tails _ _).2 hcs) rfl
    · intro h t ht hhead
      obtain ⟨cs, rfl⟩ := List.head?_eq_some_iff.1 hhead
      exact h cs ((List.mem_tails _ _).1 ht)

variable {a b s : String} {cs : List Char} {n : Nat}

/-! ### What guard and database read behind one dollar sign -/

/-- The guard begins with the digits that the database reads, and may go on. -/
theorem leadingDigits_eq (cs : List Char) :
    leadingDigits cs = (cs.takeWhile Char.isDigit).map (·.toNat - 48) ++
      leadingDigits (cs.dropWhile Char.isDigit) := by
  have hdigits : ∀ c ∈ cs.takeWhile Char.isDigit, c.isDigit = true :=
    List.all_eq_true.1 List.all_takeWhile
  rw [← leadingDigits_append hdigits, List.takeWhile_append_dropWhile]

theorem numberOfDigits_map (cs : List Char) :
    numberOfDigits (cs.map (·.toNat - 48)) = Nat.ofDigitChars 10 cs 0 := by
  unfold numberOfDigits
  rw [List.foldl_map]
  rfl

/-- Digits that follow make no number smaller. -/
theorem numberOfDigits_le_append (ds es : List Nat) :
    numberOfDigits ds ≤ numberOfDigits (ds ++ es) := by
  unfold numberOfDigits
  rw [List.foldl_append]
  generalize ds.foldl (fun n d => 10 * n + d) 0 = m
  induction es generalizing m with
  | nil => exact le_rfl
  | cons d es ih =>
    rw [List.foldl_cons]
    exact le_trans (by omega) (ih _)

theorem leadingCount?_fst (cs : List Char) :
    (leadingCount? cs).map Prod.fst =
      if cs.takeWhile Char.isDigit = [] then none
      else some (Nat.ofDigitChars 10 (cs.takeWhile Char.isDigit) 0) := by
  unfold leadingCount?
  cases cs.takeWhile Char.isDigit <;> simp

/-! ### What they read in a whole text -/

theorem mem_parameters :
    n ∈ parameters s ↔ ∃ cs, '$' :: cs <:+ s.toList ∧ cs.takeWhile Char.isDigit ≠ [] ∧
      Nat.ofDigitChars 10 (cs.takeWhile Char.isDigit) 0 = n := by
  have hread : ∀ cs : List Char, (leadingCount? cs).map Prod.fst = some n ↔
      cs.takeWhile Char.isDigit ≠ [] ∧
        Nat.ofDigitChars 10 (cs.takeWhile Char.isDigit) 0 = n := by
    intro cs
    rw [leadingCount?_fst]
    split_ifs with h <;> simp [h]
  unfold parameters
  rw [List.mem_filterMap]
  constructor
  · rintro ⟨t, ht, hn⟩
    rw [List.mem_tails] at ht
    split at hn
    · exact ⟨_, ht, (hread _).1 hn⟩
    · exact nomatch hn
  · rintro ⟨cs, hcs, hn⟩
    exact ⟨'$' :: cs, (List.mem_tails _ _).2 hcs, (hread cs).2 hn⟩

theorem mem_runs {ds : List Nat} :
    ds ∈ runs cs ↔ ∃ rest, '$' :: rest <:+ cs ∧ leadingDigits rest ≠ [] ∧
      leadingDigits rest = ds := by
  induction cs with
  | nil => simp [runs]
  | cons c cs ih =>
    -- what begins with a dollar sign here is the whole text or stands further on
    simp only [List.suffix_cons_iff, List.cons.injEq, or_and_right, exists_or, ← ih]
    rw [runs]
    split_ifs with h
    · obtain ⟨rfl, hne⟩ := h
      simp only [List.mem_cons, true_and, exists_eq_left, hne, ne_eq, not_false_eq_true]
      rw [eq_comm]
    · refine ⟨Or.inr, ?_⟩
      rintro (⟨rest, ⟨rfl, rfl⟩, hne, -⟩ | hmem)
      · exact absurd ⟨rfl, hne⟩ h
      · exact hmem

/-- **The database reads no more than the guard**: its numbers are the guard's, or beginnings of
them. -/
theorem exists_number_of_parameter (h : n ∈ parameters s) : ∃ m ∈ numbers s, n ≤ m := by
  obtain ⟨cs, hcs, hne, rfl⟩ := mem_parameters.1 h
  have hguard : leadingDigits cs ≠ [] := by
    rw [leadingDigits_eq]
    simp [hne]
  -- behind the same dollar sign the guard may go on where the database stops
  refine ⟨_, mem_numbers.2 ⟨_, mem_runs.2 ⟨cs, hcs, hguard, rfl⟩, rfl⟩, ?_⟩
  rw [leadingDigits_eq, ← numberOfDigits_map]
  exact numberOfDigits_le_append _ _

/-- **Where all digits are ASCII, guard and database read the same numbers.** -/
theorem AsciiReferences.mem_parameters_iff (h : AsciiReferences s) :
    n ∈ parameters s ↔ n ∈ numbers s := by
  have hread : ∀ cs, '$' :: cs <:+ s.toList →
      leadingDigits cs = (cs.takeWhile Char.isDigit).map (·.toNat - 48) := by
    intro cs hcs
    rw [leadingDigits_eq, h cs hcs, List.append_nil]
  rw [mem_parameters, mem_numbers]
  simp only [mem_runs]
  constructor
  · rintro ⟨cs, hcs, hne, rfl⟩
    refine ⟨_, ⟨cs, hcs, ?_, rfl⟩, ?_⟩
    · rw [hread cs hcs]
      simpa using hne
    · rw [hread cs hcs, numberOfDigits_map]
  · rintro ⟨-, ⟨cs, hcs, hne, rfl⟩, rfl⟩
    rw [hread cs hcs] at hne ⊢
    exact ⟨cs, hcs, by simpa using hne, (numberOfDigits_map _).symm⟩

/-! ### Texts with ASCII references -/

theorem asciiReferences_of_notMem (h : '$' ∉ s.toList) : AsciiReferences s := fun _ hcs =>
  absurd (hcs.subset List.mem_cons_self) h

/-- Where a text has a dollar sign, its last reference may be followed by no digit. -/
theorem AsciiReferences.append (ha : AsciiReferences a) (hb : AsciiReferences b)
    (hlead : '$' ∈ a.toList → leadingDigits b.toList = []) : AsciiReferences (a ++ b) := by
  rintro cs ⟨front, hfront⟩
  rw [String.toList_append, List.append_eq_append_iff] at hfront
  obtain ⟨behind, hafter, hcs⟩ | ⟨front', -, hb'⟩ := hfront
  · cases behind with
    | nil => exact hb cs ⟨[], hcs⟩
    | cons c behind =>
      -- the dollar sign stands in the first text, which may end within the digits behind it
      obtain ⟨rfl, rfl⟩ : '$' = c ∧ cs = behind ++ b.toList := List.cons.inj hcs
      have hrest := ha behind ⟨front, hafter.symm⟩
      have hnext : leadingDigits b.toList = [] := hlead (by simp [hafter])
      rw [List.dropWhile_append]
      split_ifs with hempty
      · rw [leadingDigits_eq, List.append_eq_nil_iff] at hnext
        exact hnext.2
      · exact leadingDigits_append_of_nil (by simpa using hempty) hrest _
  · exact hb cs ⟨front', hb'.symm⟩

theorem asciiReferences_ref (n : Int) : AsciiReferences (Piece.ref n).text := by
  have hnumber : '$' ∉ (toString n).toList := notMem_toString (by decide) (by decide) n
  intro cs hcs
  rw [Piece.toList_text_ref, List.suffix_cons_iff] at hcs
  obtain hcs | hcs := hcs
  · rw [(List.cons.inj hcs).2, toList_toString]
    split
    · have hdigits : ∀ c ∈ Nat.toDigits 10 n.toNat, c.isDigit = true := fun c =>
        Nat.isDigit_of_mem_toDigits (by decide) (by decide)
      rw [List.dropWhile_eq_nil_iff.2 hdigits]
      rfl
    · rfl
  · exact absurd (hcs.subset List.mem_cons_self) hnumber

end Placeholder

open Placeholder

namespace Template

variable {t : Template} {ts : List Template}

theorem asciiReferences_text_fixed {s : String} (hs : (Piece.fixed s).Clean)
    (h : AsciiReferences t.text) : AsciiReferences (text (.fixed s :: t)) := by
  rw [text_cons]
  exact (asciiReferences_of_notMem hs.1).append h fun hmem => absurd hmem hs.1

theorem Clean.asciiReferences (h : t.Clean) : AsciiReferences t.text := by
  induction t with
  | nil => exact asciiReferences_of_notMem (by simp)
  | cons x t ih =>
    cases x with
    | fixed s =>
      obtain ⟨hs, ht⟩ := clean_fixed.1 h
      exact asciiReferences_text_fixed hs (ih ht)
    | ref n =>
      have ht := clean_ref.1 h
      rw [text_cons]
      exact (asciiReferences_ref n).append (ih ht) fun _ => ht.leadingDigits_text

/-- What is joined by clean text stays apart. -/
theorem asciiReferences_join {sep : String} (hsep : (Piece.fixed sep).Clean)
    (h : ∀ t ∈ ts, AsciiReferences t.text) : AsciiReferences (join sep ts).text := by
  induction ts with
  | nil => exact Clean.asciiReferences clean_nil
  | cons t ts ih =>
    rw [List.forall_mem_cons] at h
    rcases eq_or_ne ts [] with rfl | hts
    · rw [join_singleton]
      exact h.1
    · rw [join_cons sep t hts, text_append]
      exact h.1.append (asciiReferences_text_fixed hsep (ih h.2))
        fun _ => leadingDigits_text_fixed hsep _

end Template

namespace Query

variable {r : SearchRequest} {p : PredicateSet} {language : String} {q : Parts}

theorem clean_scoreTemplate (r : SearchRequest) (hl : isLanguage language = true) (n : Int) :
    (scoreTemplate r language n).Clean :=
  forall_scoreTemplate r (clean_scoreTexts hl) fun _ _ => trivial

theorem clean_matchTemplates (r : SearchRequest) (hl : isLanguage language = true) (n : Int) :
    ∀ t ∈ matchTemplates r language n, t.Clean :=
  forall_matchTemplates r (clean_matchTexts hl) fun _ _ => trivial

/-- **The compiler adds references in ASCII digits only**: a statement has such where the
fragments have. -/
theorem asciiReferences_statement (r : SearchRequest) (hl : isLanguage language = true) (n : Int)
    {fs : List Template} (h : ∀ t ∈ fs, AsciiReferences t.text) :
    AsciiReferences (statement r language fs n).text := by
  have htests : ∀ t ∈ fs ++ matchTemplates r language n, AsciiReferences t.text :=
    List.forall_mem_append.2 ⟨h, fun t ht => (clean_matchTemplates r hl n t ht).asciiReferences⟩
  have hwhere : AsciiReferences (whereTemplate (fs ++ matchTemplates r language n)).text := by
    unfold whereTemplate
    split_ifs
    · exact Clean.asciiReferences clean_nil
    · exact asciiReferences_text_fixed (by decide) (asciiReferences_join (by decide) htests)
  have hfrom : (Piece.fixed "\nFROM \"resources\"").Clean := by decide
  have hcolumns : Clean (.fixed ("SELECT " ++ resourceColumns) :: scoreTemplate r language n) :=
    clean_fixed.2 ⟨by decide, clean_scoreTemplate r hl n⟩
  have hpage : Clean [.fixed (orderText r), .ref (n + slotCount r), .fixed " OFFSET ",
      .ref (n + slotCount r + 1)] := by
    simp only [clean_fixed, clean_ref, clean_nil, and_true]
    exact ⟨clean_orderText r, by decide⟩
  have hfront := hcolumns.asciiReferences.append (asciiReferences_text_fixed hfrom hwhere)
    fun _ => leadingDigits_text_fixed hfrom _
  unfold statement
  rw [text_append, text_append]
  exact hfront.append hpage.asciiReferences fun _ => hpage.leadingDigits_text

/-- Fragments of a caller stand in the statement as they are. -/
theorem assemble_sql_of_fragments {literal : String} (hc : Contributes r p language literal q) :
    (assemble r q).sql =
      (statement r language (p.fragments.map fun f => [.fixed f]) p.nextIndex).text := by
  refine hc.sql _ ?_
  rw [List.map_map]
  exact (List.map_id'' (by simp) _).symm

theorem asciiReferences_assemble {vector : Option Value} (hl : isLanguage language = true)
    (hq : parts r p vector language = .ok q)
    (h : ∀ fragment ∈ p.fragments, AsciiReferences fragment) :
    AsciiReferences (assemble r q).sql := by
  obtain ⟨literal, hc, -⟩ := parts_ok hq
  rw [assemble_sql_of_fragments hc]
  refine asciiReferences_statement r hl _ fun t ht => ?_
  obtain ⟨fragment, hmem, rfl⟩ := List.mem_map.1 ht
  simpa using h fragment hmem

/-- What passes the check has the numbers of its parameters, as the guard reads them. -/
theorem mem_numbers_of_check {sql : String} {k n : Nat} (h : Placeholder.check sql k = .ok ()) :
    n ∈ numbers sql ↔ 1 ≤ n ∧ n ≤ k := by
  unfold Placeholder.check at h
  split at h
  · exact nomatch h
  · split_ifs at h with heq
    exact numbers_eq_range_iff.1 heq n

/-- A plan has passed the check. -/
theorem check_of_compile {vector : Option Value} {language : Value} {plan : Plan}
    (h : compile r p vector language = .ok plan) :
    Placeholder.check plan.sql plan.params.length = .ok () := by
  obtain ⟨s, q, rfl, hl, hq, -, -, rfl⟩ := compile_ok h
  cases hcheck : Placeholder.check (assemble r q).sql (assemble r q).params.length with
  | ok _ => rfl
  | error why =>
    rw [compile_eq_of_parts hl hq, hcheck] at h
    split_ifs at h

theorem compile_of_check {vector : Option Value} (hl : isLanguage language = true)
    (hq : parts r p vector language = .ok q) (hp : p.canRefer 1 = true)
    (hb : q.bound.canRefer 2 = true)
    (h : Placeholder.check (assemble r q).sql (assemble r q).params.length = .ok ()) :
    compile r p vector (.text language) = .ok (assemble r q) := by
  rw [compile_eq_of_parts hl hq, hp, hb, if_neg (by decide), h]

/-- **What the guard makes sure of**, whatever the predicates of the caller are. The numbers that
it reads in a plan are those of the parameters, so that a database reads no number beyond them. The
plan fits its parameters exactly if both read the same numbers, as they do if the caller's
fragments have ASCII digits only behind dollar signs. With such fragments a statement that would not
fit is refused. -/
theorem compile_guard_exact (r : SearchRequest) (p : PredicateSet) (vector : Option Value)
    (language : Value) :
    (∀ plan, compile r p vector language = .ok plan →
      (∀ n, n ∈ numbers plan.sql ↔ 1 ≤ n ∧ n ≤ plan.params.length) ∧
      (∀ n ∈ parameters plan.sql, n ≤ plan.params.length) ∧
      (Fits plan.sql plan.params.length ↔
        ∀ n, n ∈ parameters plan.sql ↔ n ∈ numbers plan.sql) ∧
      ((∀ fragment ∈ p.fragments, AsciiReferences fragment) →
        Fits plan.sql plan.params.length)) ∧
    ∀ s q, language = .text s → isLanguage s = true → parts r p vector s = .ok q →
      (∀ fragment ∈ p.fragments, AsciiReferences fragment) →
      ¬ Fits (assemble r q).sql (assemble r q).params.length →
      compile r p vector language = .error .unwritable ∨
        ∃ why, compile r p vector language = .error (.placeholders why) := by
  constructor
  · intro plan h
    have hnumbers : ∀ n, n ∈ numbers plan.sql ↔ 1 ≤ n ∧ n ≤ plan.params.length := fun n =>
      mem_numbers_of_check (check_of_compile h)
    refine ⟨hnumbers, ?_, ?_, ?_⟩
    · intro n hn
      obtain ⟨m, hm, hle⟩ := exists_number_of_parameter hn
      exact hle.trans ((hnumbers m).1 hm).2
    · simp only [Fits, hnumbers]
    · intro hascii n
      obtain ⟨s, q, -, hl, hq, -, -, rfl⟩ := compile_ok h
      rw [(asciiReferences_assemble hl hq hascii).mem_parameters_iff, hnumbers]
  · rintro s q rfl hl hq hascii hfits
    rw [compile_eq_of_parts hl hq]
    split_ifs
    · exact Or.inl rfl
    · split
      · rename_i hcheck
        refine absurd (fun n => ?_) hfits
        rw [(asciiReferences_assemble hl hq hascii).mem_parameters_iff, mem_numbers_of_check hcheck]
      · exact Or.inr ⟨_, rfl⟩

/-- One fragment of a caller that refers to two values, the second one first. -/
theorem compile_guard_exact_swapped :
    let p : PredicateSet :=
      { fragments := ["(level = $2 OR type = $1)"], values := [.text "quiz", .text "GCSE"],
        nextIndex := 3 }
    ∃ plan, compile {} p none (.text "english") = .ok plan ∧
      Fits plan.sql plan.params.length := by
  intro p
  have hascii : ∀ fragment ∈ p.fragments, AsciiReferences fragment := by decide
  have hread : (compile {} p none (.text "english")).toBool = true := by decide +kernel
  obtain ⟨hplan, -⟩ := compile_guard_exact {} p none (.text "english")
  cases h : compile {} p none (.text "english") with
  | error why =>
    rw [h] at hread
    exact nomatch hread
  | ok plan => exact ⟨plan, rfl, (hplan plan h).2.2.2 hascii⟩

/-- **A number in digits of another script passes the guard**: the plan binds three parameters,
and a database finds the last two. -/
theorem compile_unread :
    let p : PredicateSet :=
      { fragments := ["\"subject\" = $١"], values := [.text "Maths"], nextIndex := 2 }
    ∃ plan, compile {} p none (.text "english") = .ok plan ∧
      parameters plan.sql = [2, 3] ∧ plan.params.length = 3 ∧
      ¬ Fits plan.sql plan.params.length := by
  intro p
  have hwritten : p.canRefer 1 = true ∧ (filterParts {} p).bound.canRefer 2 = true := by
    decide +kernel
  have hcheck : Placeholder.check (assemble {} (filterParts {} p)).sql
      (assemble {} (filterParts {} p)).params.length = .ok () := by
    decide +kernel
  have hcompile : compile {} p none (.text "english") = .ok (assemble {} (filterParts {} p)) :=
    compile_of_check (by decide) rfl hwritten.1 hwritten.2 hcheck
  have hread : parameters (assemble {} (filterParts {} p)).sql = [2, 3] := by decide +kernel
  refine ⟨_, hcompile, hread, rfl, fun h => ?_⟩
  have hfirst := (h 1).2 (by decide)
  rw [hread] at hfirst
  exact absurd hfirst (by decide)

end Query

end CatalogSearch
