import Mathlib.Data.List.Infix
import Mathlib.Data.Nat.Digits.Defs
import CatalogSearch.Text.Quoted

/-!
# What quoted text shows

A note that quotes a text shows all of its plain stretches, and escapes in between. Here the other
direction is of interest: what opens with a bracket and has neither a quote nor a backslash is found
in a quoted text only if it stands in the text itself, and in a quoted list only if it stands in
one of its items.

* `infix_or_infix_of_notMem`: what does not have a character is found on one side of it.
* `Text.Bracketed`: a text that no escape is part of.
* `Text.Bracketed.infix_of_quoted`, `Text.Bracketed.infix_of_quoted_texts`: where it is found.
-/

namespace CatalogSearch

/-- What does not have a character is found on one side of it, if it is found. -/
theorem infix_or_infix_of_notMem {α : Type} {s u w : List α} {c : α} (hc : c ∉ s)
    (h : s <:+: u ++ c :: w) : s <:+: u ∨ s <:+: w := by
  obtain h | h | ⟨front, behind, rfl, hfront, hbehind⟩ := List.infix_append_iff.1 h
  · exact Or.inl h
  · obtain h | h := List.infix_cons_iff.1 h
    · obtain rfl | ⟨rest, rfl, -⟩ := List.prefix_cons_iff.1 h
      · exact Or.inl List.nil_infix
      · exact absurd List.mem_cons_self hc
    · exact Or.inr h
  · obtain rfl | ⟨rest, rfl, -⟩ := List.prefix_cons_iff.1 hbehind
    · rw [List.append_nil]
      exact Or.inl hfront.isInfix
    · simp at hc

namespace Text

/-- The characters with which a number is written are digits of its base. -/
theorem exists_digitChar_of_mem_toDigits {b n : Nat} (hb : 1 < b) {c : Char}
    (h : c ∈ Nat.toDigits b n) : ∃ d < b, c = d.digitChar := by
  induction n using Nat.strongRecOn with
  | ind n ih =>
    rw [Nat.toDigits_eq_if hb] at h
    split_ifs at h with hn
    · exact ⟨n, hn, List.mem_singleton.1 h⟩
    · obtain h | h := List.mem_append.1 h
      · exact ih (n / b) (Nat.div_lt_self (by omega) hb) h
      · exact ⟨n % b, Nat.mod_lt _ (by omega), List.mem_singleton.1 h⟩

theorem bracket_notMem_hex (width n : Nat) : '[' ∉ hex width n := by
  have hdigit : ∀ d < 16, '[' ≠ Nat.digitChar d := by decide
  intro h
  obtain h | h := List.mem_append.1 h
  · exact absurd (List.eq_of_mem_replicate h) (by decide)
  · obtain ⟨d, hd, hc⟩ := exists_digitChar_of_mem_toDigits (by decide) h
    exact hdigit d hd hc

variable {q c : Char} {s cs w : List Char}

/-- **A character is shown as it is or behind a backslash**; there is no bracket among what stands
for it there. -/
theorem escape_cases (hq : q ≠ '[') (c : Char) :
    escape q c = [c] ∨ ∃ t, escape q c = '\\' :: t ∧ '[' ∉ t := by
  unfold escape
  split_ifs with hquote
  · refine Or.inr ⟨[c], rfl, fun h => ?_⟩
    obtain rfl : '[' = c := List.mem_singleton.1 h
    obtain rfl | h := hquote
    · exact hq rfl
    · exact absurd h (by decide)
  · exact Or.inr ⟨['n'], rfl, by decide⟩
  · exact Or.inr ⟨['r'], rfl, by decide⟩
  · exact Or.inr ⟨['t'], rfl, by decide⟩
  · exact Or.inl rfl
  · refine Or.inr ?_
    unfold codeEscape
    split_ifs
    · exact ⟨_, rfl, List.not_mem_cons_of_ne_of_not_mem (by decide) (bracket_notMem_hex _ _)⟩
    · exact ⟨_, rfl, List.not_mem_cons_of_ne_of_not_mem (by decide) (bracket_notMem_hex _ _)⟩
    · exact ⟨_, rfl, List.not_mem_cons_of_ne_of_not_mem (by decide) (bracket_notMem_hex _ _)⟩

theorem escape_ne_nil (q c : Char) : escape q c ≠ [] := by
  unfold escape codeEscape
  split_ifs <;> exact List.cons_ne_nil _ _

/-- No quoted text is shorter than the text itself. -/
theorem length_le_quoted (e : String) : e.toList.length ≤ (quoted e).toList.length := by
  have hshown : ∀ (q : Char) (cs : List Char), cs.length ≤ (cs.flatMap (escape q)).length := by
    intro q cs
    induction cs with
    | nil => exact le_rfl
    | cons c cs ih =>
      have hc := List.length_pos_iff.2 (escape_ne_nil q c)
      rw [List.flatMap_cons, List.length_append, List.length_cons]
      omega
  have hlength := hshown (quoteFor e.toList) e.toList
  simp only [quoted, quotedChars, String.toList_ofList, List.length_append, List.length_cons]
  omega

/-- What begins with a bracket begins behind whatever has none. -/
theorem suffix_of_suffix_append {t : List Char} (ht : '[' ∉ t) (h : '[' :: w <:+ t ++ cs) :
    '[' :: w <:+ cs := by
  induction t with
  | nil => exact h
  | cons d t ih =>
    rw [List.mem_cons, not_or] at ht
    obtain h | h := List.suffix_cons_iff.1 h
    · exact absurd (List.cons.inj h).1 ht.1
    · exact ih ht.2 h

/-- A bracket that is shown is one of the text, and what is shown behind it is what follows. -/
theorem suffix_of_suffix_escaped (hq : q ≠ '[') (h : '[' :: w <:+ cs.flatMap (escape q)) :
    ∃ v, '[' :: v <:+ cs ∧ w = v.flatMap (escape q) := by
  induction cs with
  | nil => exact absurd (List.suffix_nil.1 h) (List.cons_ne_nil _ _)
  | cons c cs ih =>
    rw [List.flatMap_cons] at h
    have hlater : '[' :: w <:+ cs.flatMap (escape q) →
        ∃ v, '[' :: v <:+ c :: cs ∧ w = v.flatMap (escape q) := by
      intro h
      obtain ⟨v, hv, rfl⟩ := ih h
      exact ⟨v, hv.trans (List.suffix_cons _ _), rfl⟩
    obtain hshown | ⟨t, hshown, ht⟩ := escape_cases hq c
    · rw [hshown] at h
      obtain h | h := List.suffix_cons_iff.1 h
      · obtain ⟨rfl, rfl⟩ := List.cons.inj h
        exact ⟨cs, List.suffix_rfl, rfl⟩
      · exact hlater h
    · rw [hshown] at h
      have hnone : '[' ∉ '\\' :: t := List.not_mem_cons_of_ne_of_not_mem (by decide) ht
      exact hlater (suffix_of_suffix_append hnone h)

/-- What has no backslash is shown only where the text begins with it. -/
theorem prefix_of_prefix_escaped (hq : q ≠ '[') (hs : '\\' ∉ s)
    (h : s <+: cs.flatMap (escape q)) : s <+: cs := by
  induction cs generalizing s with
  | nil => exact h
  | cons c cs ih =>
    rw [List.flatMap_cons] at h
    obtain hshown | ⟨t, hshown, -⟩ := escape_cases hq c
    · rw [hshown] at h
      obtain rfl | ⟨rest, rfl, hrest⟩ := List.prefix_cons_iff.1 h
      · exact List.nil_prefix
      · rw [List.mem_cons, not_or] at hs
        exact List.cons_prefix_cons.2 ⟨rfl, ih hs.2 hrest⟩
    · rw [hshown] at h
      obtain rfl | ⟨rest, rfl, -⟩ := List.prefix_cons_iff.1 h
      · exact List.nil_prefix
      · exact absurd List.mem_cons_self hs

/-- **A text that no escape is part of**: it opens with a bracket, and has no quote and no
backslash. -/
structure Bracketed (s : List Char) : Prop where
  opened : s.head? = some '['
  backslash : '\\' ∉ s
  quotes : '\'' ∉ s ∧ '"' ∉ s

namespace Bracketed

theorem mem (h : Bracketed s) : '[' ∈ s := List.mem_of_head? h.opened

theorem notFound (h : Bracketed s) (hcs : '[' ∉ cs) : ¬ s <:+: cs := fun hfound =>
  hcs (hfound.subset h.mem)

theorem quoteFor_notMem (h : Bracketed s) (cs : List Char) : quoteFor cs ∉ s := by
  unfold quoteFor
  split
  · exact h.quotes.2
  · exact h.quotes.1

theorem infix_of_escaped (h : Bracketed s) (hq : q ≠ '[')
    (hfound : s <:+: cs.flatMap (escape q)) : s <:+: cs := by
  -- first the place of its bracket is found, then what follows is read from there
  obtain ⟨rest, rfl⟩ := List.head?_eq_some_iff.1 h.opened
  obtain ⟨tail, hprefix, hsuffix⟩ := List.infix_iff_prefix_suffix.1 hfound
  obtain ⟨behind, rfl⟩ := hprefix
  obtain ⟨v, hv, hshown⟩ := suffix_of_suffix_escaped hq hsuffix
  have hrest : rest <+: v :=
    prefix_of_prefix_escaped hq (fun hmem => h.backslash (List.mem_cons_of_mem _ hmem))
      ⟨behind, hshown⟩
  exact List.infix_iff_prefix_suffix.2 ⟨_, List.cons_prefix_cons.2 ⟨rfl, hrest⟩, hv⟩

/-- **What is found in a quoted text stands in the text**, if it is not found in front of the quotes
or behind them. -/
theorem infix_of_quoted (h : Bracketed s) {e : String}
    (hfound : s <:+: w ++ ((quoted e).toList ++ cs)) :
    s <:+: w ∨ s <:+: e.toList ∨ s <:+: cs := by
  have hquote : quoteFor e.toList ∉ s := h.quoteFor_notMem _
  have hopen : quoteFor e.toList ≠ '[' := fun heq => hquote (heq ▸ h.mem)
  have htext : (quoted e).toList ++ cs = quoteFor e.toList ::
      (e.toList.flatMap (escape (quoteFor e.toList)) ++ quoteFor e.toList :: cs) := by
    simp [quoted, quotedChars]
  -- the quotes are no part of what is found, so it lies on one side of each of them
  rw [htext] at hfound
  obtain hfront | hfound := infix_or_infix_of_notMem hquote hfound
  · exact Or.inl hfront
  · obtain hshown | hbehind := infix_or_infix_of_notMem hquote hfound
    · exact Or.inr (Or.inl (h.infix_of_escaped hopen hshown))
    · exact Or.inr (Or.inr hbehind)

/-- **What is found in a quoted list of texts stands in one of them**; `w` is what is written in
front of the first one. -/
theorem infix_of_quoted_texts (h : Bracketed s) {es : List String} (hw : ¬ s <:+: w ++ [']'])
    (hfound : s <:+: w ++ ((String.intercalate ", " (es.map quoted)).toList ++ [']'])) :
    ∃ e ∈ es, s <:+: e.toList := by
  have hnone : ¬ s <:+: [']'] := h.notFound (by decide)
  have hfront : ¬ s <:+: w := fun hs => hw (hs.trans (List.prefix_append _ _).isInfix)
  induction es generalizing w with
  | nil => exact absurd (by simpa using hfound) hw
  | cons e es ih =>
    by_cases hes : es = []
    · subst hes
      obtain hs | hs | hs := h.infix_of_quoted (e := e) (by simpa using hfound)
      · exact absurd hs hfront
      · exact ⟨e, List.mem_cons_self, hs⟩
      · exact absurd hs hnone
    · have hmap : es.map quoted ≠ [] := by simpa using hes
      rw [List.map_cons, String.intercalate_cons_of_ne_nil hmap, String.toList_append,
        String.toList_append, List.append_assoc, List.append_assoc] at hfound
      obtain hs | hs | hs := h.infix_of_quoted hfound
      · exact absurd hs hfront
      · exact ⟨e, List.mem_cons_self, hs⟩
      · obtain ⟨e', he', hs⟩ := ih (w := ", ".toList) (h.notFound (by decide)) hs
          (h.notFound (by decide))
        exact ⟨e', List.mem_cons_of_mem _ he', hs⟩

end Bracketed

end Text

end CatalogSearch
