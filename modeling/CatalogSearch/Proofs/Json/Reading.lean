import CatalogSearch.Json.Document

/-!
# Reading a whole number in a document

Octets of ASCII characters are read as these characters, a run of word characters as one word, and a
word of digits as the whole number that it writes. So a document with a whole number in it can be
read without looking at its digits.

* `Text.Utf8.decode_ascii`: ASCII octets are the characters they stand for.
* `Json.Scan.run_word`: a word ends where the word characters end.
* `Json.ofWord?_of_digits`: digits spell a whole number.
-/

namespace CatalogSearch

namespace Text

/-- The octets of a text of ASCII characters. -/
def asciiOctets (cs : List Char) : List UInt8 := cs.map Char.toUInt8

def IsAscii (cs : List Char) : Prop := ∀ c ∈ cs, c.toNat < 0x80

instance (cs : List Char) : Decidable (IsAscii cs) :=
  List.decidableBAll _ cs

theorem IsAscii.append {cs ds : List Char} (hcs : IsAscii cs) (hds : IsAscii ds) :
    IsAscii (cs ++ ds) := by
  intro c hc
  exact (List.mem_append.1 hc).elim (hcs c) (hds c)

theorem isAscii_of_isDigit {cs : List Char} (h : cs.all Char.isDigit = true) : IsAscii cs := by
  intro c hc
  have hd := List.all_eq_true.1 h c hc
  rw [Char.isDigit, Bool.and_eq_true, decide_eq_true_eq, decide_eq_true_eq] at hd
  exact Nat.lt_of_le_of_lt (UInt32.le_iff_toNat_le.1 hd.2) (by decide)

theorem toNat_toUInt8 {c : Char} (h : c.toNat < 0x80) : c.toUInt8.toNat = c.toNat := by
  simp only [Char.toUInt8, UInt32.toNat_toUInt8]
  exact Nat.mod_eq_of_lt (by simpa using Nat.lt_trans h (by decide))

theorem Utf8.decode_ascii {surrogates : Bool} {cs : List Char} (h : IsAscii cs) :
    decode surrogates .start (asciiOctets cs) = cs.map some := by
  induction cs with
  | nil => rfl
  | cons c cs ih =>
    obtain ⟨hc, hcs⟩ := List.forall_mem_cons.1 h
    have hstep : step surrogates .start c.toUInt8.toNat = ([some c], .start) := by
      simp only [step, first, toNat_toUInt8 hc, if_pos hc, Char.ofNat_toNat]
    simp only [asciiOctets, List.map_cons, decode, hstep]
    exact congrArg (some c :: ·) (ih hcs)

theorem utf8?_ascii {cs : List Char} (h : IsAscii cs) : utf8? (asciiOctets cs) = some cs := by
  rw [utf8?, Utf8.decode_ascii h]
  induction cs with
  | nil => rfl
  | cons c cs ih => simp [ih (List.forall_mem_cons.1 h).2]

end Text

namespace Json

open Text Written

theorem Scan.begin?_of_digit {d : Char} (h : d.isDigit = true) :
    begin? d = some ([], .word [d]) := by
  have hword : isWordChar d = true := by simp [isWordChar, Char.isAlphanum, h]
  have hne : ∀ c : Char, c.isDigit = false → d ≠ c := by
    rintro _ hc rfl
    rw [h] at hc
    exact nomatch hc
  simp [begin?, isSpace, isMark, hword, hne]

theorem Scan.run_word {rest done ds : List Char} {c : Char} (hds : ∀ d ∈ ds, isWordChar d = true)
    (hc : isMark c = true) (hword : isWordChar c = false) (hspace : isSpace c = false) :
    run (.word done) (ds ++ c :: rest) =
      .word (done.reverse ++ ds) :: .mark c :: run .between rest := by
  induction ds generalizing done with
  | nil => simp [run, step?, begin?, hc, hword, hspace]
  | cons d ds ih =>
    obtain ⟨hd, hds⟩ := List.forall_mem_cons.1 hds
    simp only [List.cons_append, run, step?, if_pos hd, List.nil_append]
    rw [ih hds]
    simp

/-- **Digits spell a whole number**, which none of the literal names does. -/
theorem ofWord?_of_digits {cs : List Char} (hcs : cs.all Char.isDigit = true)
    (hn : isNumber cs = true) (hl : cs.length ≤ digitLimit) :
    ofWord? cs = some (.int (natOf cs)) := by
  have hsign : sign cs = (false, cs) := by
    unfold sign
    split <;> simp_all
  have hname : ∀ s : String, s.toList.all Char.isDigit = false → String.ofList cs ≠ s := by
    rintro _ h rfl
    rw [String.toList_ofList, hcs] at h
    exact nomatch h
  unfold ofWord?
  split
  · exact absurd ‹_› (hname _ (by decide))
  · exact absurd ‹_› (hname _ (by decide))
  · exact absurd ‹_› (hname _ (by decide))
  · exact absurd ‹_› (hname _ (by decide))
  · exact absurd ‹_› (hname _ (by decide))
  · exact absurd ‹_› (hname _ (by decide))
  · simp [hsign, hn, hcs, hl]

end Json

end CatalogSearch
