import Mathlib.Data.List.TakeWhile
import CatalogSearch.Proofs.Sql.Token
import CatalogSearch.Value

/-!
# Conditions

The boolean expression between WHERE and ORDER BY. `AND` binds tighter than `OR`, parentheses
group, and a test compares a column with a value that is bound behind the statement.

* `Condition.Holds`: what a condition says, given which tests hold.
* `Condition.read`: the condition that tokens spell, its references replaced by the values that are
  bound.
* `clause`: the tokens between WHERE and ORDER BY.
* `read_intercalate`: parts with `AND` between them spell the conjunction of what they spell.
-/

namespace CatalogSearch.Sql

/-- A test of a column against a value, or against the reference to one. -/
inductive Test (ρ : Type) where
  | contains (column : String) (x : ρ)
  | equals (column : String) (x : ρ)
  | matchesWords (column language : String) (x : ρ)
  | resembles (column : String) (x : ρ)

inductive Condition (ρ : Type) where
  | test (t : Test ρ)
  | and (a b : Condition ρ)
  | or (a b : Condition ρ)

/-- The value that number `n` refers to, counted from one. -/
def bound? (params : List Value) : Nat → Option Value
  | 0 => none
  | n + 1 => params[n]?

def Test.bind? (params : List Value) : Test Nat → Option (Test Value)
  | contains c n => (bound? params n).map (contains c)
  | equals c n => (bound? params n).map (equals c)
  | matchesWords c l n => (bound? params n).map (matchesWords c l)
  | resembles c n => (bound? params n).map (resembles c)

/-- Reads a test: column, operator and reference. -/
def readTest : List Token → Option (Test Nat × List Token)
  | .name c :: .operator "=" :: .reference n :: ts => some (.equals c n, ts)
  | .name c :: .operator "%" :: .reference n :: ts => some (.resembles c n, ts)
  | .name c :: .operator "@>" :: .word "ARRAY" :: .mark '[' :: .reference n :: .mark ']' :: ts =>
    some (.contains c n, ts)
  | .name c :: .operator "@@" :: .word "plainto_tsquery" :: .mark '(' :: .literal l ::
      .mark ',' :: .reference n :: .mark ')' :: ts =>
    some (.matchesWords c l n, ts)
  | _ => none

/-- The tokens of a test. -/
def Test.tokens : Test Nat → List Token
  | contains c n =>
    [.name c, .operator "@>", .word "ARRAY", .mark '[', .reference n, .mark ']']
  | equals c n => [.name c, .operator "=", .reference n]
  | matchesWords c l n =>
    [.name c, .operator "@@", .word "plainto_tsquery", .mark '(', .literal l, .mark ',',
      .reference n, .mark ')']
  | resembles c n => [.name c, .operator "%", .reference n]

theorem readTest_tokens (t : Test Nat) (rest : List Token) :
    readTest (t.tokens ++ rest) = some (t, rest) := by
  cases t <;> rfl

namespace Condition

/-- **What a condition says**, given which tests hold. -/
def Holds {ρ : Type} (val : Test ρ → Prop) : Condition ρ → Prop
  | test t => val t
  | and a b => a.Holds val ∧ b.Holds val
  | or a b => a.Holds val ∨ b.Holds val

/-- Puts the bound values where they are referred to. -/
def bind? (params : List Value) : Condition Nat → Option (Condition Value)
  | test t => (t.bind? params).map test
  | and a b => do return and (← a.bind? params) (← b.bind? params)
  | or a b => do return or (← a.bind? params) (← b.bind? params)

end Condition

/-- Reads what `read` reads once or more often, with a keyword in between. -/
def chain {α : Type} (keyword : String) (combine : α → α → α)
    (read : List Token → Option (α × List Token)) : Nat → List Token → Option (α × List Token)
  | 0, _ => none
  | k + 1, ts =>
    match read ts with
    | some (a, .word w :: rest) =>
      if w = keyword then
        (chain keyword combine read k rest).map fun (b, rest) => (combine a b, rest)
      else some (a, .word w :: rest)
    | r => r

/-- Reads operands with `AND` and `OR` between them; not longer than the tokens are many. -/
def expression (operand : List Token → Option (Condition Nat × List Token)) (ts : List Token) :
    Option (Condition Nat × List Token) :=
  chain "OR" .or (chain "AND" .and operand ts.length) ts.length ts

/-- Reads a test, or an expression in parentheses that are nested `depth` deep at most. -/
def operand : (depth : Nat) → List Token → Option (Condition Nat × List Token)
  | d + 1, .mark '(' :: ts =>
    match expression (operand d) ts with
    | some (a, .mark ')' :: rest) => some (a, rest)
    | _ => none
  | _, ts => (readTest ts).map fun (t, rest) => (.test t, rest)

/-- **The condition that tokens spell** with values bound behind the statement. -/
def Condition.read (params : List Value) (ts : List Token) : Option (Condition Value) :=
  match expression (operand ts.length) ts with
  | some (c, []) => c.bind? params
  | _ => none

/-- **The tokens between WHERE and ORDER BY**, if there is a WHERE. -/
def clause (ts : List Token) : Option (List Token) :=
  match (ts.takeWhile (· ≠ .word "ORDER")).dropWhile (· ≠ .word "WHERE") with
  | [] => none
  | _ :: ts => some ts

theorem forall_ne {t : Token} {ts : List Token} (h : t ∉ ts) :
    ∀ x ∈ ts, decide (x ≠ t) = true := by
  intro x hx
  exact decide_eq_true (fun he => h (he ▸ hx))

theorem takeWhile_ne {t : Token} {head rest : List Token} (h : t ∉ head) :
    (head ++ t :: rest).takeWhile (· ≠ t) = head := by
  rw [List.takeWhile_append_of_pos (forall_ne h), List.takeWhile_cons_of_neg (by simp),
    List.append_nil]

theorem clause_of_where {head ts rest : List Token} (hw : .word "WHERE" ∉ head)
    (ho : .word "ORDER" ∉ head) (ht : .word "ORDER" ∉ ts) :
    clause (head ++ .word "WHERE" :: (ts ++ .word "ORDER" :: rest)) = some ts := by
  have hq : .word "ORDER" ∉ head ++ .word "WHERE" :: ts := by simp [ho, ht]
  rw [clause, ← List.cons_append, ← List.append_assoc, takeWhile_ne hq,
    List.dropWhile_append_of_pos (forall_ne hw), List.dropWhile_cons_of_neg (by simp)]

theorem clause_of_none {head rest : List Token} (hw : .word "WHERE" ∉ head)
    (ho : .word "ORDER" ∉ head) : clause (head ++ .word "ORDER" :: rest) = none := by
  rw [clause, takeWhile_ne ho, List.dropWhile_eq_nil_iff.2 (forall_ne hw)]

section Chain

variable {α : Type} {keyword : String} {combine : α → α → α}
variable {read : List Token → Option (α × List Token)} {ts rest : List Token} {a : α} {k : Nat}

theorem chain_last (h : read ts = some (a, rest)) (hr : rest.head? ≠ some (.word keyword)) :
    chain keyword combine read (k + 1) ts = some (a, rest) := by
  rw [chain, h]
  cases rest with
  | nil => rfl
  | cons t rest =>
    cases t with
    | word w => simp only; rw [if_neg (by simpa using hr)]
    | _ => rfl

theorem chain_more (h : read ts = some (a, .word keyword :: rest)) :
    chain keyword combine read (k + 1) ts =
      (chain keyword combine read k rest).map fun (b, rest) => (combine a b, rest) := by
  rw [chain, h]
  exact if_pos rfl

end Chain

theorem operand_tokens (d : Nat) (t : Test Nat) (rest : List Token) :
    operand d (t.tokens ++ rest) = some (.test t, rest) := by
  have h : operand d (t.tokens ++ rest) =
      (readTest (t.tokens ++ rest)).map fun (t, rest) => (.test t, rest) := by
    cases d <;> cases t <;> rfl
  rw [h, readTest_tokens]
  rfl

/-- Tokens that are an operand of their own, whatever follows, and spell the condition `c`. -/
def Spells (params : List Value) (ts : List Token) (c : Condition Value) : Prop :=
  ∃ a : Condition Nat, a.bind? params = some c ∧
    ∀ d rest, operand (d + 1) (ts ++ rest) = some (a, rest)

variable {params : List Value}

theorem Spells.ne_nil {ts : List Token} {c : Condition Value} (h : Spells params ts c) :
    ts ≠ [] := by
  rintro rfl
  obtain ⟨a, -, h⟩ := h
  exact absurd (h 0 []) nofun

theorem spells_test {t : Test Nat} {u : Test Value} (h : t.bind? params = some u) :
    Spells params t.tokens (.test u) :=
  ⟨.test t, by simp [Condition.bind?, h], fun d rest => operand_tokens _ t rest⟩

/-- **Either of two tests**, in parentheses. -/
theorem spells_or {s t : Test Nat} {u v : Test Value} (hs : s.bind? params = some u)
    (ht : t.bind? params = some v) :
    Spells params (.mark '(' :: (s.tokens ++ .word "OR" :: (t.tokens ++ [.mark ')'])))
      (.or (.test u) (.test v)) := by
  refine ⟨.or (.test s) (.test t), by simp [Condition.bind?, hs, ht], fun d rest => ?_⟩
  -- no `AND` follows a test, so each of them is a conjunction by itself
  have h2 (k : Nat) : chain "AND" .and (operand d) (k + 1) (t.tokens ++ .mark ')' :: rest) =
      some (.test t, .mark ')' :: rest) :=
    chain_last (operand_tokens d t _) (by simp)
  have h1 (k : Nat) :
      chain "AND" .and (operand d) (k + 1)
          (s.tokens ++ .word "OR" :: (t.tokens ++ .mark ')' :: rest)) =
        some (.test s, .word "OR" :: (t.tokens ++ .mark ')' :: rest)) :=
    chain_last (operand_tokens d s _) (by simp)
  obtain ⟨k, hk⟩ : ∃ k,
      (s.tokens ++ .word "OR" :: (t.tokens ++ .mark ')' :: rest)).length = k + 2 :=
    ⟨(s.tokens ++ t.tokens ++ rest).length, by simp; omega⟩
  have he : expression (operand d) (s.tokens ++ .word "OR" :: (t.tokens ++ .mark ')' :: rest)) =
      some (.or (.test s) (.test t), .mark ')' :: rest) := by
    rw [expression, hk, chain_more (h1 _), chain_last (h2 _) (by simp)]
    rfl
  simp only [List.cons_append, List.append_assoc, List.nil_append, operand]
  rw [he]
  rfl

/-- Operands with `AND` in between are read to the end, and their conditions are joined. -/
theorem chain_and {tss : List (List Token)} {cs : List (Condition Value)} {d k : Nat}
    (h : List.Forall₂ (Spells params) tss cs) (hne : tss ≠ [])
    (hk : ([.word "AND"].intercalate tss).length ≤ k) :
    ∃ a c, chain "AND" .and (operand (d + 1)) k ([.word "AND"].intercalate tss) = some (a, []) ∧
      a.bind? params = some c ∧ ∀ val, c.Holds val ↔ ∀ e ∈ cs, e.Holds val := by
  induction h generalizing k with
  | nil => exact absurd rfl hne
  | @cons ts c tss cs h hs ih =>
    have hpos : 0 < ts.length := List.length_pos_of_ne_nil h.ne_nil
    obtain ⟨a, ha, hr⟩ := h
    rcases eq_or_ne tss [] with rfl | htss
    · cases hs
      rw [List.intercalate_singleton] at hk ⊢
      obtain ⟨k, rfl⟩ : ∃ j, k = j + 1 := ⟨k - 1, by omega⟩
      refine ⟨a, c, chain_last ?_ (by simp), ha, by simp⟩
      simpa using hr d []
    · -- the part and the keyword take two tokens or more, so enough steps are left for the others
      rw [List.intercalate_cons_of_ne_nil htss, List.append_assoc, List.singleton_append] at hk ⊢
      rw [List.length_append, List.length_cons] at hk
      obtain ⟨k, rfl⟩ : ∃ j, k = j + 1 := ⟨k - 1, by omega⟩
      obtain ⟨b, e, hb, hbe, he⟩ := ih htss (k := k) (by omega)
      refine ⟨.and a b, .and c e, ?_, by simp [Condition.bind?, ha, hbe], fun val => ?_⟩
      · rw [chain_more (hr d _), hb]
        rfl
      · rw [Condition.Holds, he, List.forall_mem_cons]

/-- **Parts with `AND` between them spell the conjunction of what they spell.** -/
theorem read_intercalate {tss : List (List Token)} {cs : List (Condition Value)}
    (h : List.Forall₂ (Spells params) tss cs) (hne : tss ≠ []) :
    ∃ c, Condition.read params ([.word "AND"].intercalate tss) = some c ∧
      ∀ val, c.Holds val ↔ ∀ e ∈ cs, e.Holds val := by
  cases hn : ([.word "AND"].intercalate tss).length with
  | zero =>
    -- nothing is read from no tokens
    obtain ⟨a, c, ha, -⟩ := chain_and h hne (d := 0) (Nat.le_of_eq hn)
    exact absurd ha nofun
  | succ k =>
    obtain ⟨a, c, ha, hc, hv⟩ := chain_and h hne (d := k) (Nat.le_of_eq hn)
    refine ⟨c, ?_, hv⟩
    rw [Condition.read, hn, expression, hn, chain_last ha (by simp)]
    exact hc

example :
    Condition.read [.int 7, .int 8] (tokens "\"a\" = $2 OR \"b\" = $1 AND \"c\" = $2") =
      some (.or (.test (.equals "a" (.int 8)))
        (.and (.test (.equals "b" (.int 7))) (.test (.equals "c" (.int 8))))) := by rfl

end CatalogSearch.Sql
