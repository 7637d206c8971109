import CatalogSearch.Proofs.Compilation

/-!
# The language of a text search

The language is the only text from outside that is written into a statement instead of being bound
to it. It is looked at before anything else: a plan comes of a plain identifier only, with one line
feed at most behind it, and whatever else the language may be is refused, in every strategy.

* `IsIdentifier`: lower-case letters and underscores.
* `Query.Passes`: the languages that are let through.
* `Query.compile_language_exact`: a plan means that the language passes, and otherwise it is the
  language that is told.
* `Query.compile_line_feed`: a language that passes and is no identifier.
-/

namespace CatalogSearch

/-- **A plain identifier**: lower-case letters and underscores, one of them at least. -/
structure IsIdentifier (s : String) : Prop where
  nonempty : s ≠ ""
  plain : ∀ c ∈ s.toList, 'a' ≤ c ∧ c ≤ 'z' ∨ c = '_'

namespace Query

/-- **The languages that are let through**: identifiers, with a line feed at most behind them. -/
def Passes (language : Value) : Prop :=
  ∃ word ending, language = .text (word ++ ending) ∧ IsIdentifier word ∧ ending ∈ ["", "\n"]

variable {r : SearchRequest} {p : PredicateSet} {vector : Option Value} {language : Value}

theorem notMem_of_isIdentifier {word : String} (h : IsIdentifier word) : '\n' ∉ word.toList := by
  intro hn
  rcases h.plain _ hn with hc | hc
  · exact absurd hc.1 (by decide)
  · exact absurd hc (by decide)

/-- What the check looks at is what is left of the text without the line feed. -/
theorem isLanguage_iff_isIdentifier {s : String} :
    isLanguage s = true ↔ IsIdentifier (String.ofList (dropFinalNewline s.toList)) := by
  unfold isLanguage
  simp only [Bool.and_eq_true, Bool.not_eq_true', List.isEmpty_eq_false_iff, List.all_eq_true,
    Bool.or_eq_true, beq_iff_eq, decide_eq_true_eq]
  generalize dropFinalNewline s.toList = cs
  constructor
  · rintro ⟨hne, hplain⟩
    refine ⟨fun h => hne (by simpa using h), fun c hc => ?_⟩
    rw [String.toList_ofList] at hc
    exact (hplain c hc).symm
  · rintro ⟨hne, hplain⟩
    rw [String.toList_ofList] at hplain
    exact ⟨fun h => hne (by rw [h]), fun c hc => (hplain c hc).symm⟩

theorem isLanguage_iff_passes {s : String} : isLanguage s = true ↔ Passes (.text s) := by
  rw [isLanguage_iff_isIdentifier]
  constructor
  · intro h
    have hn := notMem_of_isIdentifier h
    rw [String.toList_ofList] at hn
    obtain ⟨ending, hending, hs⟩ := (dropFinalNewline_toList_iff (s := s) hn).1 rfl
    exact ⟨_, ending, congrArg Value.text hs, h, hending⟩
  · rintro ⟨word, ending, hs, hword, hending⟩
    have hleft := (dropFinalNewline_toList_iff (s := s) (notMem_of_isIdentifier hword)).2
      ⟨ending, hending, by rw [String.ofList_toList]; exact Value.text.inj hs⟩
    rw [hleft, String.ofList_toList]
    exact hword

/-- A language either passes, or it is refused as a text or as no text. -/
theorem checkLanguage_cases (language : Value) :
    Passes language ∨
      (∃ s, language = .text s ∧ ¬ Passes (.text s) ∧
        checkLanguage language = .error (.badLanguage s)) ∨
      (∀ s, language ≠ .text s) ∧
        checkLanguage language = .error (.languageKind language.kindName) := by
  cases language with
  | text s =>
    unfold checkLanguage
    by_cases h : isLanguage s = true
    · exact Or.inl (isLanguage_iff_passes.1 h)
    · exact Or.inr (Or.inl ⟨s, rfl, fun hp => h (isLanguage_iff_passes.2 hp), if_neg h⟩)
  | _ => exact Or.inr (Or.inr ⟨nofun, rfl⟩)

/-- The language is looked at first. -/
theorem compile_of_checkLanguage {why : CompileRefusal}
    (h : checkLanguage language = .error why) : compile r p vector language = .error why := by
  unfold compile
  rw [h]

/-- **Only a language that passes gives a plan**, whatever the request, its predicates and the
vector are. Any other is told: a text as a bad language, and anything else by its kind. -/
theorem compile_language_exact (r : SearchRequest) (p : PredicateSet) (vector : Option Value)
    (asked configured : Value) :
    (∀ plan, compile r p vector (effectiveLanguage asked configured) = .ok plan →
        Passes (effectiveLanguage asked configured)) ∧
      (∀ s, effectiveLanguage asked configured = .text s → ¬ Passes (.text s) →
        compile r p vector (effectiveLanguage asked configured) = .error (.badLanguage s)) ∧
      ((∀ s, effectiveLanguage asked configured ≠ .text s) →
        compile r p vector (effectiveLanguage asked configured) =
          .error (.languageKind (effectiveLanguage asked configured).kindName)) := by
  -- the three parts exclude each other, so in each case two of them are void
  generalize effectiveLanguage asked configured = language
  rcases checkLanguage_cases language with hpass | ⟨s, rfl, hno, hcheck⟩ | ⟨hkind, hcheck⟩
  · refine ⟨fun _ _ => hpass, fun s hs hno => ?_, fun hkind => ?_⟩
    · rw [hs] at hpass
      exact absurd hpass hno
    · obtain ⟨word, ending, htext, -⟩ := hpass
      exact absurd htext (hkind _)
  · have hcompile : compile r p vector (.text s) = .error (.badLanguage s) :=
      compile_of_checkLanguage hcheck
    refine ⟨fun plan hplan => ?_, fun s' hs _ => ?_, fun hkind => absurd rfl (hkind s)⟩
    · rw [hcompile] at hplan
      exact nomatch hplan
    · cases hs
      exact hcompile
  · have hcompile : compile r p vector language = .error (.languageKind language.kindName) :=
      compile_of_checkLanguage hcheck
    refine ⟨fun plan hplan => ?_, fun s hs => absurd hs (hkind s), fun _ => hcompile⟩
    rw [hcompile] at hplan
    exact nomatch hplan

/-- A search that has no use for a language is refused for a capital letter in it. -/
theorem compile_language_exact_capital :
    compile {} (SearchRequest.predicates {} 1) none
        (effectiveLanguage (.text "English") (.text "english")) =
      .error (.badLanguage "English") := by
  refine (compile_language_exact {} _ none (.text "English") (.text "english")).2.1 "English" rfl ?_
  rw [← isLanguage_iff_passes]
  decide

/-- **A line feed passes**: a search for words compiles in a language that is no identifier. -/
theorem compile_line_feed :
    let r : SearchRequest := { query := .text "algebra" }
    (∃ plan, compile r (r.predicates 1) none
        (effectiveLanguage (.text "english\n") (.text "english")) = .ok plan) ∧
      ¬ IsIdentifier "english\n" := by
  intro r
  constructor
  · obtain ⟨q, -, hplan⟩ := @compileFrom_one r none "english\n" rfl nofun (by decide)
    rw [compileFrom_eq] at hplan
    split_ifs at hplan
    exact ⟨_, hplan⟩
  · exact fun h => notMem_of_isIdentifier h (by decide)

end Query

end CatalogSearch
