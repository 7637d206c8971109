import CatalogSearch.Proofs.Template

/-!
# Tokens of a statement

What a database reads in a statement: words, names and texts in quotes, references, operators and
single marks. The text is read one character at a time, `Reading` being what has been begun.

* `tokens`: the tokens of a text.
* `tokens_append`: two texts are read one after the other if the first leaves no quote open and the
  second begins with a character that ends whatever stands before it.
* `tokens_text`: a template is read piece by piece.
-/

namespace CatalogSearch.Sql

inductive Token where
  | word (s : String)
  /-- A name between double quotes. -/
  | name (s : String)
  /-- A text between single quotes. -/
  | literal (s : String)
  /-- A dollar sign and the number behind it. -/
  | reference (n : Nat)
  | operator (s : String)
  | mark (c : Char)
deriving DecidableEq

/-- What has been begun and may go on with the next character. -/
inductive Reading where
  | between
  | word (cs : List Char)
  | operator (cs : List Char)
  | quoted (quote : Char) (cs : List Char)
  | dollar
  | reference (n : Nat)
deriving DecidableEq

def isBlank (c : Char) : Bool := c == ' ' || c == '\n'

def isMark (c : Char) : Bool := "()[],:;".toList.contains c

def isQuote (c : Char) : Bool := c == '\'' || c == '"'

def isOperator (c : Char) : Bool := "+-*/<>=~!@#%^&|?".toList.contains c

/-- Characters that end whatever stands before them, quotes apart. -/
def isBreak (c : Char) : Bool := isBlank c || isMark c || isQuote c || c == '$'

theorem isBreak_apart {c : Char} (h : isBreak c = true) :
    isOperator c = false ∧ c.isDigit = false := by
  have hc : c ∈ " \n()[],:;'\"$".toList := by
    simpa [isBreak, isBlank, isMark, isQuote, or_assoc] using h
  have hall : " \n()[],:;'\"$".toList.all (fun c => !isOperator c && !c.isDigit) = true := by rfl
  simpa using List.all_eq_true.1 hall c hc

namespace Reading

/-- The token that has been begun; a quote that is never closed is a mark. -/
def finish : Reading → List Token
  | between => []
  | word cs => [.word (String.ofList cs)]
  | operator cs => [.operator (String.ofList cs)]
  | quoted q _ => [.mark q]
  | dollar => [.mark '$']
  | reference n => [.reference n]

def isOpen : Reading → Bool
  | quoted .. => true
  | _ => false

/-- A token begins. -/
def start (c : Char) : List Token × Reading :=
  if isBlank c then ([], between)
  else if isMark c then ([.mark c], between)
  else if isQuote c then ([], quoted c [])
  else if c = '$' then ([], dollar)
  else if isOperator c then ([], operator [c])
  else ([], word [c])

/-- What has been begun goes on, or it ends and another token begins. -/
def step : Reading → Char → List Token × Reading
  | quoted q cs, c =>
    if c = q then ([if q = '"' then .name (String.ofList cs) else .literal (String.ofList cs)],
      between)
    else ([], quoted q (cs ++ [c]))
  | word cs, c =>
    if isBreak c || isOperator c then ((word cs).finish ++ (start c).1, (start c).2)
    else ([], word (cs ++ [c]))
  | operator cs, c =>
    if isOperator c then ([], operator (cs ++ [c]))
    else ((operator cs).finish ++ (start c).1, (start c).2)
  | reference n, c =>
    if c.isDigit then ([], reference (10 * n + (c.toNat - '0'.toNat)))
    else ((reference n).finish ++ (start c).1, (start c).2)
  | dollar, c =>
    if c.isDigit then ([], reference (c.toNat - '0'.toNat))
    else (dollar.finish ++ (start c).1, (start c).2)
  | between, c => start c

/-- The tokens that end within a text, and what is left begun. -/
def feed : Reading → List Char → List Token × Reading
  | m, [] => ([], m)
  | m, c :: cs => ((m.step c).1 ++ (feed (m.step c).2 cs).1, (feed (m.step c).2 cs).2)

theorem feed_append (m : Reading) (a b : List Char) :
    m.feed (a ++ b) =
      ((m.feed a).1 ++ ((m.feed a).2.feed b).1, ((m.feed a).2.feed b).2) := by
  induction a generalizing m with
  | nil => rfl
  | cons c a ih => rw [List.cons_append, feed, ih, feed, List.append_assoc]

theorem feed_quoted {q : Char} {cs : List Char} (h : q ∉ cs) (ds : List Char) :
    (quoted q ds).feed cs = ([], quoted q (ds ++ cs)) := by
  induction cs generalizing ds with
  | nil => simp [feed]
  | cons c cs ih =>
    simp only [List.mem_cons, not_or] at h
    rw [feed, step, if_neg (Ne.symm h.1), ih h.2]
    simp

theorem feed_reference {cs : List Char} (h : ∀ c ∈ cs, c.isDigit = true) (n : Nat) :
    (reference n).feed cs = ([], reference (Nat.ofDigitChars 10 cs n)) := by
  induction cs generalizing n with
  | nil => simp [feed]
  | cons c cs ih =>
    rw [List.forall_mem_cons] at h
    rw [feed, step, if_pos h.1, ih h.2, Nat.ofDigitChars_cons]
    rfl

/-- A break ends what has been begun. -/
theorem step_of_isBreak {m : Reading} {c : Char} (hm : m.isOpen = false) (hc : isBreak c = true) :
    m.step c = (m.finish ++ (start c).1, (start c).2) := by
  obtain ⟨ho, hd⟩ := isBreak_apart hc
  cases m with
  | between => rfl
  | word cs => simp [step, hc]
  | operator cs => simp [step, ho]
  | quoted q cs => simp [isOpen] at hm
  | dollar => simp [step, hd]
  | reference n => simp [step, hd]

/-- What follows a complete text is read from anew, if it begins with a break. -/
theorem feed_of_isBreak {m : Reading} {c : Char} (hm : m.isOpen = false) (hc : isBreak c = true)
    (cs : List Char) :
    m.feed (c :: cs) =
      (m.finish ++ (between.feed (c :: cs)).1, (between.feed (c :: cs)).2) := by
  rw [feed, step_of_isBreak hm hc, feed, List.append_assoc]
  rfl

end Reading

open Reading

/-- **The tokens of a text.** -/
def tokens (s : String) : List Token :=
  (between.feed s.toList).1 ++ (between.feed s.toList).2.finish

/-- No quote is left open at the end. -/
def Closed (s : String) : Prop := (between.feed s.toList).2.isOpen = false

/-- Whatever stands before the text ends there. -/
def Begins (s : String) : Prop := s.toList.head?.any isBreak = true

/-- A text that can stand between others. -/
def Whole (s : String) : Prop := Closed s ∧ Begins s

instance : DecidablePred Whole := fun s =>
  inferInstanceAs (Decidable
    ((between.feed s.toList).2.isOpen = false ∧ s.toList.head?.any isBreak = true))

theorem feed_of_begins {m : Reading} (hm : m.isOpen = false) {s : String} (hs : Begins s) :
    m.feed s.toList =
      (m.finish ++ (between.feed s.toList).1, (between.feed s.toList).2) := by
  unfold Begins at hs
  cases he : s.toList with
  | nil => simp [he] at hs
  | cons c cs => exact feed_of_isBreak hm (by simpa [he] using hs) cs

/-- **One text is read after another.** -/
theorem tokens_append {s t : String} (hs : Closed s) (ht : Begins t) :
    tokens (s ++ t) = tokens s ++ tokens t := by
  unfold tokens
  rw [String.toList_append, feed_append, feed_of_begins hs ht]
  simp

theorem Closed.append {s t : String} (hs : Closed s) (ht : Whole t) : Closed (s ++ t) := by
  unfold Closed
  rw [String.toList_append, feed_append, feed_of_begins hs ht.2]
  exact ht.1

/-- Nothing has been begun at the end of the first text. -/
theorem tokens_append_of_between {s : String} {ts : List Token}
    (h : between.feed s.toList = (ts, between)) (t : String) :
    tokens (s ++ t) = ts ++ tokens t := by
  unfold tokens
  rw [String.toList_append, feed_append, h]
  simp

theorem feed_number (n : Nat) :
    between.feed ('$' :: Nat.toDigits 10 n) = ([], reference n) := by
  have hd : ∀ c ∈ Nat.toDigits 10 n, c.isDigit = true := fun c hc =>
    Nat.isDigit_of_mem_toDigits (by decide) (by decide) hc
  have hn : Nat.ofDigitChars 10 (Nat.toDigits 10 n) 0 = n := Nat.ofDigitChars_ten_toDigits
  rw [feed, show step between '$' = ([], dollar) from rfl]
  cases hs : Nat.toDigits 10 n with
  | nil => exact absurd hs Nat.toDigits_ne_nil
  | cons c cs =>
    rw [hs] at hd hn
    rw [List.forall_mem_cons] at hd
    rw [Nat.ofDigitChars_cons, Nat.mul_zero, Nat.zero_add] at hn
    -- the first digit begins the number, the others go on with it
    rw [feed, show step dollar c = ([], reference (c.toNat - '0'.toNat)) from if_pos hd.1,
      feed_reference hd.2, hn]
    rfl

theorem toList_ref (n : Nat) : (Piece.ref n).text.toList = '$' :: Nat.toDigits 10 n := by
  rw [Piece.text, Int.toString_eq_repr, Int.repr_eq_if]
  simp [Nat.toList_repr]

/-- **A reference is read in full**, whatever its number. -/
theorem tokens_ref (n : Nat) :
    tokens (Piece.ref n).text = [.reference n] ∧ Whole (Piece.ref n).text := by
  have ht := toList_ref n
  refine ⟨?_, ?_, ?_⟩
  · rw [tokens, ht, feed_number]; rfl
  · rw [Closed, ht, feed_number]; rfl
  · rw [Begins, ht]; rfl

/-- **A text in quotes is read as it is**, if it has no quote in itself. -/
theorem tokens_quoted {s word t : String} {ts : List Token} (hw : '\'' ∉ word.toList)
    (hs : between.feed s.toList = (ts, quoted '\'' [])) (ht : Closed t) :
    tokens (s ++ word ++ ("'" ++ t)) = ts ++ .literal word :: tokens t ∧
      Closed (s ++ word ++ ("'" ++ t)) := by
  have hl : (s ++ word ++ ("'" ++ t)).toList = s.toList ++ (word.toList ++ '\'' :: t.toList) := by
    simp
  have hq : (quoted '\'' word.toList).feed ('\'' :: t.toList) =
      (.literal word :: (between.feed t.toList).1, (between.feed t.toList).2) := by
    rw [feed, show step (quoted '\'' word.toList) '\'' =
      ([.literal (String.ofList word.toList)], between) from rfl, String.ofList_toList]
    rfl
  have hf : between.feed (s ++ word ++ ("'" ++ t)).toList =
      (ts ++ .literal word :: (between.feed t.toList).1, (between.feed t.toList).2) := by
    rw [hl, feed_append, hs, feed_append, feed_quoted hw]
    simp only [List.nil_append, hq]
  unfold Closed at ht ⊢
  unfold tokens
  rw [hf]
  exact ⟨by simp, ht⟩

/-- The tokens of a template, piece by piece. -/
def tokensOf (t : Template) : List Token := t.flatMap fun x => tokens x.text

@[simp] theorem tokensOf_nil : tokensOf [] = [] := rfl

@[simp] theorem tokensOf_cons (x : Piece) (t : Template) :
    tokensOf (x :: t) = tokens x.text ++ tokensOf t := rfl

@[simp] theorem tokensOf_append (t u : Template) :
    tokensOf (t ++ u) = tokensOf t ++ tokensOf u := by
  simp [tokensOf]

/-- **A template is read piece by piece.** -/
theorem tokens_text {s : String} {t : Template} (hs : Closed s) (ht : ∀ x ∈ t, Whole x.text) :
    tokens (s ++ t.text) = tokens s ++ tokensOf t ∧ Closed (s ++ t.text) := by
  induction t generalizing s with
  | nil => simpa using hs
  | cons x t ih =>
    rw [List.forall_mem_cons] at ht
    -- the text so far stays closed, so the next piece is read from anew
    obtain ⟨h, hc⟩ := ih (hs.append ht.1) ht.2
    rw [Template.text_cons, ← String.append_assoc, h, tokens_append hs ht.1.2, tokensOf_cons,
      List.append_assoc]
    exact ⟨rfl, hc⟩

/-- The tokens of a join stand one behind another, those of the separator in between. -/
theorem tokensOf_join (sep : String) (ts : List Template) :
    tokensOf (Template.join sep ts) = (tokens sep).intercalate (ts.map tokensOf) := by
  induction ts with
  | nil => rfl
  | cons t ts ih =>
    rcases eq_or_ne ts [] with rfl | h
    · simp
    · rw [Template.join_cons sep t h, List.map_cons,
        List.intercalate_cons_of_ne_nil (by simpa using h), ← ih]
      simp

end CatalogSearch.Sql
