import Mathlib.Data.List.Basic
import CatalogSearch.Query.Plan

/-!
# Templates of statements

The text of a statement is fixed text with references to bound values in between. A `Template`
keeps the two apart, so that what is found in the text can be computed from the template.

* `Template.text`: the text written out.
* `Template.refs`: the numbers of the references, from left to right.
* `Template.join`: templates with a fixed text between them; joins of joins are flat (`join_join`).
* `countFrom`: consecutive numbers.
-/

namespace CatalogSearch

/-- A stretch of a statement: fixed text, or the reference to a bound value. -/
inductive Piece where
  | fixed (s : String)
  | ref (n : Int)
deriving DecidableEq

abbrev Template := List Piece

namespace Piece

def text : Piece → String
  | fixed s => s
  | ref n => "$" ++ toString n

/-- The number of a reference. -/
def ref? : Piece → Option Int
  | fixed _ => none
  | ref n => some n

@[simp] theorem text_fixed (s : String) : (fixed s).text = s := rfl

theorem toList_text_ref (n : Int) : (ref n).text.toList = '$' :: (toString n).toList := by
  simp [text]

@[simp] theorem ref?_fixed (s : String) : (fixed s).ref? = none := rfl

@[simp] theorem ref?_ref (n : Int) : (ref n).ref? = some n := rfl

end Piece

theorem PredicateSet.placeholder_eq (p : PredicateSet) (i : Int) :
    p.placeholder i = (Piece.ref (p.nextIndex + i)).text := rfl

namespace Template

/-- The text of a template. -/
def text (t : Template) : String := String.join (t.map Piece.text)

/-- The numbers that a template refers to, from left to right. -/
def refs (t : Template) : List Int := t.filterMap Piece.ref?

/-- Templates with a fixed text between them. -/
def join (sep : String) (ts : List Template) : Template := [Piece.fixed sep].intercalate ts

@[simp] theorem text_nil : text [] = "" := by simp [text]

@[simp] theorem text_cons (x : Piece) (t : Template) : text (x :: t) = x.text ++ text t := by
  simp [text]

@[simp] theorem text_append (t u : Template) : text (t ++ u) = text t ++ text u := by
  simp [text]

@[simp] theorem refs_nil : refs [] = [] := rfl

@[simp] theorem refs_fixed (s : String) (t : Template) : refs (.fixed s :: t) = refs t := rfl

@[simp] theorem refs_ref (n : Int) (t : Template) : refs (.ref n :: t) = n :: refs t := rfl

@[simp] theorem refs_append (t u : Template) : refs (t ++ u) = refs t ++ refs u := by
  simp [refs]

@[simp] theorem join_nil (sep : String) : join sep [] = [] := rfl

@[simp] theorem join_singleton (sep : String) (t : Template) : join sep [t] = t := by
  simp [join]

theorem join_cons (sep : String) (t : Template) {ts : List Template} (h : ts ≠ []) :
    join sep (t :: ts) = t ++ .fixed sep :: join sep ts := by
  unfold join
  rw [List.intercalate_cons_of_ne_nil h, List.append_assoc, List.singleton_append]

/-- The text of a join is the join of the texts. -/
theorem text_join (sep : String) (ts : List Template) :
    (join sep ts).text = String.intercalate sep (ts.map text) := by
  induction ts with
  | nil => simp
  | cons t ts ih =>
    rcases eq_or_ne ts [] with rfl | h
    · simp
    · rw [join_cons sep t h, List.map_cons, String.intercalate_cons_of_ne_nil (by simpa using h),
        ← ih, text_append, text_cons, Piece.text_fixed, String.append_assoc]

theorem join_append (sep : String) {ts us : List Template} (ht : ts ≠ []) (hu : us ≠ []) :
    join sep (ts ++ us) = join sep ts ++ .fixed sep :: join sep us := by
  induction ts with
  | nil => exact absurd rfl ht
  | cons t ts ih =>
    rcases eq_or_ne ts [] with rfl | h
    · rw [List.singleton_append, join_cons sep t hu, join_singleton]
    · rw [List.cons_append, join_cons sep t (by simp [hu]), ih h, join_cons sep t h]
      simp

/-- **Joining a join again changes nothing.** -/
theorem join_join (sep : String) {ts : List Template} (us : List Template) (h : ts ≠ []) :
    join sep (join sep ts :: us) = join sep (ts ++ us) := by
  rcases eq_or_ne us [] with rfl | hu
  · simp
  · rw [join_cons sep _ hu, join_append sep h hu]

theorem refs_join (sep : String) (ts : List Template) : (join sep ts).refs = ts.flatMap refs := by
  induction ts with
  | nil => rfl
  | cons t ts ih =>
    rcases eq_or_ne ts [] with rfl | h
    · simp
    · rw [join_cons sep t h, refs_append, refs_fixed, ih, List.flatMap_cons]

/-- The pieces of a join are those of its parts, and the separator. -/
theorem forall_join {P : Piece → Prop} {sep : String} (hs : P (.fixed sep)) {ts : List Template}
    (h : ∀ t ∈ ts, ∀ x ∈ t, P x) : ∀ x ∈ join sep ts, P x := by
  induction ts with
  | nil => simp
  | cons t ts ih =>
    rw [List.forall_mem_cons] at h
    rcases eq_or_ne ts [] with rfl | hts
    · rw [join_singleton]
      exact h.1
    · rw [join_cons sep t hts, List.forall_mem_append, List.forall_mem_cons]
      exact ⟨h.1, hs, ih h.2⟩

end Template

/-- The `k` numbers from `n` on. -/
def countFrom : Int → Nat → List Int
  | _, 0 => []
  | n, k + 1 => n :: countFrom (n + 1) k

theorem countFrom_append (n : Int) (j k : Nat) :
    countFrom n j ++ countFrom (n + j) k = countFrom n (j + k) := by
  induction j generalizing n with
  | zero => simp [countFrom]
  | succ j ih =>
    rw [show j + 1 + k = (j + k) + 1 by omega, countFrom, countFrom, List.cons_append, ← ih]
    push_cast
    rw [Int.add_assoc n, Int.add_comm 1]

theorem mem_countFrom {m n : Int} {k : Nat} : m ∈ countFrom n k ↔ n ≤ m ∧ m < n + k := by
  induction k generalizing n with
  | zero => simp [countFrom]
  | succ k ih => rw [countFrom, List.mem_cons, ih]; omega

end CatalogSearch
