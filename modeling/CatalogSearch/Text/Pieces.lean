/-!
# Texts cut into pieces

* `pieces`: the parts of a text between the occurrences of a separator, empty ones included.
* `before`, `after`: the two sides of the first separator; `IsCut` says what they are.
* `dropTrailing`: a text without a character at its end.
-/

namespace CatalogSearch.Text

/-- Cuts a text at every `sep`: one piece more than there are separators, none of which holds
`sep`. -/
def pieces (sep : Char) : List Char → List (List Char)
  | [] => [[]]
  | c :: cs =>
    if c = sep then [] :: pieces sep cs
    else
      match pieces sep cs with
      | [] => [[c]]
      | p :: ps => (c :: p) :: ps

theorem pieces_eq_splitOn (sep : Char) (cs : List Char) : pieces sep cs = cs.splitOn sep := by
  induction cs with
  | nil => rfl
  | cons c cs ih =>
    rw [List.splitOn_cons_eq_if_modifyHead, ← ih, pieces]
    by_cases h : c = sep
    · rw [if_pos h, if_pos (beq_iff_eq.2 h)]
    · rw [if_neg h, if_neg fun hbeq => h (beq_iff_eq.1 hbeq)]
      cases hps : pieces sep cs with
      | nil => exact absurd (ih ▸ hps) (List.splitOn_ne_nil sep cs)
      | cons p ps => rfl

/-- No piece holds the separator. -/
theorem notMem_pieces (sep : Char) (cs : List Char) : ∀ p ∈ pieces sep cs, sep ∉ p := by
  induction cs with
  | nil => simp [pieces]
  | cons c cs ih =>
    unfold pieces
    by_cases hc : c = sep
    · rw [if_pos hc, List.forall_mem_cons]
      exact ⟨List.not_mem_nil, ih⟩
    · rw [if_neg hc]
      cases hps : pieces sep cs with
      | nil => exact List.forall_mem_singleton.2 fun h => hc (List.mem_singleton.1 h).symm
      | cons p ps =>
        rw [hps, List.forall_mem_cons] at ih
        rw [List.forall_mem_cons]
        exact ⟨List.not_mem_cons_of_ne_of_not_mem (Ne.symm hc) ih.1, ih.2⟩

/-- There is one piece more than there are separators. -/
theorem length_pieces (sep : Char) (cs : List Char) :
    (pieces sep cs).length = cs.count sep + 1 := by
  induction cs with
  | nil => rfl
  | cons c cs ih =>
    unfold pieces
    by_cases hc : c = sep
    · rw [if_pos hc, hc, List.length_cons, ih, List.count_cons_self]
    · rw [if_neg hc, List.count_cons_of_ne hc]
      cases hps : pieces sep cs with
      | nil =>
        rw [hps] at ih
        exact absurd ih (Nat.succ_ne_zero _).symm
      | cons p ps =>
        rw [← ih, hps]
        rfl

/-- The text up to the first `sep`. -/
def before (sep : Char) (cs : List Char) : List Char :=
  cs.takeWhile (· ≠ sep)

/-- The text behind the first `sep`; empty when there is none. -/
def after (sep : Char) (cs : List Char) : List Char :=
  (cs.dropWhile (· ≠ sep)).drop 1

theorem before_append_cons {sep : Char} {front : List Char} (h : sep ∉ front) (rest : List Char) :
    before sep (front ++ sep :: rest) = front := by
  unfold before
  rw [List.takeWhile_append_of_pos]
  · simp
  · intro c hc
    exact decide_eq_true fun he => h (he ▸ hc)

theorem after_append_cons {sep : Char} {front : List Char} (h : sep ∉ front) (rest : List Char) :
    after sep (front ++ sep :: rest) = rest := by
  unfold after
  rw [List.dropWhile_append_of_pos]
  · simp
  · intro c hc
    exact decide_eq_true fun he => h (he ▸ hc)

theorem before_of_notMem {sep : Char} {cs : List Char} (h : sep ∉ cs) : before sep cs = cs := by
  have hall : ∀ c ∈ cs, decide (c ≠ sep) = true := fun c hc => decide_eq_true fun he => h (he ▸ hc)
  have hwhole : before sep (cs ++ []) = cs ++ [] := List.takeWhile_append_of_pos hall
  rwa [List.append_nil] at hwhole

theorem after_of_notMem {sep : Char} {cs : List Char} (h : sep ∉ cs) : after sep cs = [] := by
  have hall : ∀ c ∈ cs, decide (c ≠ sep) = true := fun c hc => decide_eq_true fun he => h (he ▸ hc)
  have hnone : (cs ++ []).dropWhile (· ≠ sep) = [] := List.dropWhile_append_of_pos hall
  rw [List.append_nil] at hnone
  rw [after, hnone, List.drop_nil]

/-- **A text cut at its first separator**: what is in front of it and what is behind it. Without a
separator all of the text is in front, and nothing is behind. -/
inductive IsCut (sep : Char) : List Char → List Char → List Char → Prop
  | whole {front : List Char} : sep ∉ front → IsCut sep front front []
  | cut {front behind : List Char} : sep ∉ front →
      IsCut sep (front ++ sep :: behind) front behind

theorem exists_isCut (sep : Char) (cs : List Char) : ∃ front behind, IsCut sep cs front behind := by
  by_cases h : sep ∈ cs
  · obtain ⟨front, behind, rfl, hfront⟩ := List.eq_append_cons_of_mem h
    exact ⟨front, behind, .cut hfront⟩
  · exact ⟨cs, [], .whole h⟩

theorem IsCut.before_eq {sep : Char} {cs front behind : List Char}
    (h : IsCut sep cs front behind) : before sep cs = front := by
  cases h with
  | whole h => exact before_of_notMem h
  | cut h => exact before_append_cons h _

theorem IsCut.after_eq {sep : Char} {cs front behind : List Char}
    (h : IsCut sep cs front behind) : after sep cs = behind := by
  cases h with
  | whole h => exact after_of_notMem h
  | cut h => exact after_append_cons h _

/-- A text without the occurrences of `c` at its end. -/
def dropTrailing (c : Char) (cs : List Char) : List Char :=
  (cs.reverse.dropWhile (· = c)).reverse

end CatalogSearch.Text
