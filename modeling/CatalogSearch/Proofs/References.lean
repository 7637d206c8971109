import CatalogSearch.Proofs.Scan

/-!
# References read off a text

The scan for placeholders reads digits only, so that a reference to a negative number is not seen by
it. Here a reference is a dollar sign and the whole number behind it, with a sign if there is one.
On the text of a clean template these are the template's own references, and to move all of them on
in the text is to move them on in the template.

* `leadingNumber?`: the number that a text begins with, and what stands behind it.
* `references`: the numbers that a text refers to, from left to right.
* `renumbered`: the text with each of its references moved on by as much.
* `Template.Clean.references_text`, `Template.Clean.renumbered_text`: on clean templates.
-/

namespace CatalogSearch

/-- The digits that a text begins with, as their number, and what stands behind them. -/
def leadingCount? (cs : List Char) : Option (Nat × List Char) :=
  match cs.takeWhile Char.isDigit with
  | [] => none
  | ds => some (Nat.ofDigitChars 10 ds 0, cs.dropWhile Char.isDigit)

/-- **The whole number that a text begins with**, and what stands behind it. -/
def leadingNumber? (cs : List Char) : Option (Int × List Char) :=
  if cs.head? = some '-' then (leadingCount? cs.tail).map fun e => (-(e.1 : Int), e.2)
  else (leadingCount? cs).map fun e => ((e.1 : Int), e.2)

/-- **The numbers that a text refers to**, from left to right. -/
def references (s : String) : List Int :=
  (s.toList.splitOn '$').tail.filterMap fun cs => (leadingNumber? cs).map Prod.fst

/-- A text that begins with a number, the number moved on. -/
def advanced (d : Int) (cs : List Char) : List Char :=
  match leadingNumber? cs with
  | some (n, rest) => (toString (n + d)).toList ++ rest
  | none => cs

/-- **A text with its references moved on**, all of them by as much. -/
def renumbered (d : Int) (s : String) : String :=
  match s.toList.splitOn '$' with
  | [] => s
  | front :: behind => String.ofList (front ++ behind.flatMap fun cs => '$' :: advanced d cs)

/-! ### Numbers at the front of a text -/

/-- A text that does not go on with the digits in front of it. -/
def EndsNumber (cs : List Char) : Prop := ∀ c ∈ cs.head?, c.isDigit = false

theorem endsNumber_of_leadingDigits {cs : List Char} (h : Placeholder.leadingDigits cs = []) :
    EndsNumber cs := by
  intro c hc
  obtain ⟨rest, rfl⟩ := List.head?_eq_some_iff.1 hc
  by_contra hdigit
  rw [Placeholder.leadingDigits, Placeholder.digitValue?_of_isDigit (by simpa using hdigit)] at h
  exact List.cons_ne_nil _ _ h

theorem leadingCount?_toDigits (n : Nat) {rest : List Char} (h : EndsNumber rest) :
    leadingCount? (Nat.toDigits 10 n ++ rest) = some (n, rest) := by
  have hdigits : ∀ c ∈ Nat.toDigits 10 n, c.isDigit = true := fun c =>
    Nat.isDigit_of_mem_toDigits (by decide) (by decide)
  have hrest : rest.takeWhile Char.isDigit = [] ∧ rest.dropWhile Char.isDigit = rest := by
    cases rest with
    | nil => exact ⟨rfl, rfl⟩
    | cons c cs =>
      have hc : ¬ c.isDigit = true := by simpa using h c rfl
      exact ⟨List.takeWhile_cons_of_neg hc, List.dropWhile_cons_of_neg hc⟩
  have htake : (Nat.toDigits 10 n ++ rest).takeWhile Char.isDigit = Nat.toDigits 10 n := by
    rw [List.takeWhile_append_of_pos hdigits, hrest.1, List.append_nil]
  obtain ⟨c, cs, hcs⟩ := List.exists_cons_of_ne_nil (Nat.toDigits_ne_nil (n := n) (b := 10))
  unfold leadingCount?
  rw [htake, List.dropWhile_append_of_pos hdigits, hrest.2, hcs]
  dsimp only
  rw [← hcs, Nat.ofDigitChars_ten_toDigits]

/-- A whole number is written with its digits, behind a sign if it is negative. -/
theorem toList_toString (n : Int) :
    (toString n).toList =
      if 0 ≤ n then Nat.toDigits 10 n.toNat else '-' :: Nat.toDigits 10 (-n).toNat := by
  rw [Int.toString_eq_repr, Int.repr_eq_if]
  by_cases hn : 0 ≤ n
  · rw [if_pos hn, if_pos hn, Nat.toList_repr]
  · rw [if_neg hn, if_neg hn, String.toList_append, Nat.toList_repr]
    rfl

theorem notMem_toString {c : Char} (hdigit : c.isDigit = false) (hsign : c ≠ '-') (n : Int) :
    c ∉ (toString n).toList := by
  have hdigits : ∀ k : Nat, c ∉ Nat.toDigits 10 k := fun k hc =>
    nomatch hdigit.symm.trans (Nat.isDigit_of_mem_toDigits (by decide) (by decide) hc)
  rw [toList_toString]
  split
  · exact hdigits _
  · exact List.not_mem_cons_of_ne_of_not_mem hsign (hdigits _)

/-- **A number is read off the text that begins with it**, whatever its sign is. -/
theorem leadingNumber?_toString (n : Int) {rest : List Char} (h : EndsNumber rest) :
    leadingNumber? ((toString n).toList ++ rest) = some (n, rest) := by
  rw [toList_toString]
  unfold leadingNumber?
  by_cases hn : 0 ≤ n
  · have hsign : (Nat.toDigits 10 n.toNat ++ rest).head? ≠ some '-' := by
      rw [List.head?_append_of_ne_nil _ Nat.toDigits_ne_nil]
      intro hhead
      exact nomatch Nat.isDigit_of_mem_toDigits (b := 10) (n := n.toNat) (by decide) (by decide)
        (List.mem_of_head? hhead)
    rw [if_pos hn, if_neg hsign, leadingCount?_toDigits n.toNat h, Option.map_some,
      Int.toNat_of_nonneg hn]
  · rw [if_neg hn, List.cons_append, List.head?_cons, if_pos rfl, List.tail_cons,
      leadingCount?_toDigits (-n).toNat h, Option.map_some, Int.toNat_of_nonneg (by omega),
      Int.neg_neg]

/-! ### Texts put together -/

theorem splitOn_append_of_notMem {sep : Char} {front : List Char} (h : sep ∉ front)
    (rest : List Char) :
    (front ++ rest).splitOn sep = (rest.splitOn sep).modifyHead (front ++ ·) := by
  induction front with
  | nil => exact (congrFun List.modifyHead_id _).symm
  | cons c cs ih =>
    rw [List.mem_cons, not_or] at h
    have hc : ¬ (c == sep) = true := by simpa using Ne.symm h.1
    rw [List.cons_append, List.splitOn_cons_eq_if_modifyHead, if_neg hc, ih h.2,
      List.modifyHead_modifyHead]
    rfl

theorem exists_splitOn (sep : Char) (cs : List Char) :
    ∃ behind, cs.splitOn sep = Text.before sep cs :: behind := by
  induction cs with
  | nil => exact ⟨[], List.splitOn_nil _⟩
  | cons c cs ih =>
    obtain ⟨behind, hsplit⟩ := ih
    rw [List.splitOn_cons_eq_if_modifyHead, hsplit]
    by_cases hc : c = sep
    · exact ⟨Text.before sep cs :: behind, by simp [hc, Text.before]⟩
    · exact ⟨behind, by simp [hc, Text.before]⟩

theorem EndsNumber.before {cs : List Char} (h : EndsNumber cs) (sep : Char) :
    EndsNumber (Text.before sep cs) := by
  cases cs with
  | nil => exact h
  | cons c cs =>
    unfold Text.before
    rw [List.takeWhile_cons]
    split
    · exact h
    · exact nofun

variable {a b : String}

/-- What stands behind a reference is split off behind its number. -/
theorem splitOn_ref (n : Int) (b : String) :
    ∃ behind, b.toList.splitOn '$' = Text.before '$' b.toList :: behind ∧
      ((Piece.ref n).text ++ b).toList.splitOn '$' =
        [] :: ((toString n).toList ++ Text.before '$' b.toList) :: behind := by
  obtain ⟨behind, hsplit⟩ := exists_splitOn '$' b.toList
  have htext : ((Piece.ref n).text ++ b).toList = '$' :: ((toString n).toList ++ b.toList) := by
    rw [String.toList_append, Piece.toList_text_ref, List.cons_append]
  have hnumber : '$' ∉ (toString n).toList := notMem_toString (by decide) (by decide) n
  refine ⟨behind, hsplit, ?_⟩
  rw [htext, List.splitOn_cons_eq_if_modifyHead, if_pos (by decide),
    splitOn_append_of_notMem hnumber, hsplit, List.modifyHead_cons]

theorem references_append_of_notMem (h : '$' ∉ a.toList) (b : String) :
    references (a ++ b) = references b := by
  unfold references
  rw [String.toList_append, splitOn_append_of_notMem h, List.tail_modifyHead]

theorem references_ref (n : Int) (h : EndsNumber b.toList) :
    references ((Piece.ref n).text ++ b) = n :: references b := by
  obtain ⟨behind, hb, hsplit⟩ := splitOn_ref n b
  have hread := leadingNumber?_toString n (h.before '$')
  unfold references
  rw [hsplit, hb, List.tail_cons, List.tail_cons, List.filterMap_cons_some (by rw [hread]; rfl)]

theorem renumbered_append_of_notMem (d : Int) (h : '$' ∉ a.toList) (b : String) :
    renumbered d (a ++ b) = a ++ renumbered d b := by
  obtain ⟨behind, hb⟩ := exists_splitOn '$' b.toList
  unfold renumbered
  rw [String.toList_append, splitOn_append_of_notMem h, hb, List.modifyHead_cons]
  dsimp only
  rw [← String.toList_inj]
  simp

theorem renumbered_ref (d n : Int) (h : EndsNumber b.toList) :
    renumbered d ((Piece.ref n).text ++ b) = (Piece.ref (n + d)).text ++ renumbered d b := by
  obtain ⟨behind, hb, hsplit⟩ := splitOn_ref n b
  have hread := leadingNumber?_toString n (h.before '$')
  unfold renumbered
  rw [hsplit, hb]
  dsimp only
  rw [List.flatMap_cons, advanced, hread, ← String.toList_inj]
  simp [Piece.text]

/-! ### Clean templates -/

/-- A stretch of a statement with its reference moved on. -/
def Piece.moved (d : Int) : Piece → Piece
  | .fixed s => .fixed s
  | .ref n => .ref (n + d)

namespace Template

/-- A template with its references moved on. -/
def moved (d : Int) (t : Template) : Template := t.map (Piece.moved d)

@[simp] theorem moved_nil (d : Int) : moved d [] = [] := rfl

@[simp] theorem moved_cons (d : Int) (x : Piece) (t : Template) :
    moved d (x :: t) = x.moved d :: moved d t := rfl

variable {t : Template}

theorem Clean.endsNumber_text (h : t.Clean) : EndsNumber t.text.toList :=
  endsNumber_of_leadingDigits h.leadingDigits_text

/-- **The text of a clean template refers to what the template does**, in the same order. -/
theorem Clean.references_text (h : t.Clean) : references t.text = t.refs := by
  induction t with
  | nil => rfl
  | cons x t ih =>
    cases x with
    | fixed s =>
      obtain ⟨hs, ht⟩ := clean_fixed.1 h
      rw [text_cons, Piece.text_fixed, references_append_of_notMem hs.1, ih ht, refs_fixed]
    | ref n =>
      have ht := clean_ref.1 h
      rw [text_cons, references_ref n ht.endsNumber_text, ih ht, refs_ref]

/-- **Moving references on in the text** of a clean template moves them on in the template. -/
theorem Clean.renumbered_text (h : t.Clean) (d : Int) :
    renumbered d t.text = (t.moved d).text := by
  induction t with
  | nil => rfl
  | cons x t ih =>
    cases x with
    | fixed s =>
      obtain ⟨hs, ht⟩ := clean_fixed.1 h
      rw [text_cons, Piece.text_fixed, renumbered_append_of_notMem d hs.1, ih ht, moved_cons,
        text_cons]
      rfl
    | ref n =>
      have ht := clean_ref.1 h
      rw [text_cons, renumbered_ref d n ht.endsNumber_text, ih ht, moved_cons, text_cons]
      rfl

end Template

end CatalogSearch
