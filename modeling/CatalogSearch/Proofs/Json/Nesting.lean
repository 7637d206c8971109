import CatalogSearch.Json.Document

/-!
# How deep a document nests

Every open frame goes back to a bracket that was read, and no bracket opens two. So a document is
refused for its depth only if it has more brackets than there is room for.

* `Json.Awaits.openCount`: the containers that have been opened and not closed.
* `Json.Awaits.openCount_step?`: one token opens a container at most, and only a bracket does.
* `Json.opened_of_tooDeep`: what is too deep has more brackets than may be open.
-/

namespace CatalogSearch.Json

/-- Whether a token can open a container. -/
def Token.isOpening : Token → Bool
  | .mark c => c = '[' || c = '\x7b'
  | _ => false

namespace Awaits

variable {q q' : Awaits} {fs fs' : List Frame} {t : Token} {ts : List Token} {c : Container}
variable {depth : Nat}

/-- **The containers that are open**: an object whose next name has not been read is one, although
its frame comes with the name. -/
def openCount : Awaits → List Frame → Nat
  | .firstKey _, fs | .key _, fs | .colon .., fs => fs.length + 1
  | _, fs => fs.length

theorem length_le_openCount (q : Awaits) (fs : List Frame) : fs.length ≤ openCount q fs := by
  cases q <;> simp [openCount]

theorem isOpening_of_opened? (h : opened? q t = some c) : t.isOpening = true := by
  unfold opened? at h
  split at h
  all_goals first | rfl | exact nomatch h

/-- **One token** opens one container at most, and only if it is a bracket. -/
theorem openCount_step? (h : step? q fs t = some (q', fs')) :
    openCount q' fs' ≤ openCount q fs + if t.isOpening then 1 else 0 := by
  unfold step? at h
  split at h
  -- a word is a scalar and leaves the frames as they are
  case h_3 | h_8 =>
    obtain ⟨v, -, hv⟩ := Option.map_eq_some_iff.1 h
    obtain ⟨rfl, rfl⟩ := Prod.mk.inj hv
    exact Nat.le_add_right _ _
  case h_18 => exact nomatch h
  all_goals
    obtain ⟨rfl, rfl⟩ := Prod.mk.inj (Option.some.inj h)
    simp [openCount, Token.isOpening]

theorem step_ok (h : step depth q fs t = .ok (q', fs')) : step? q fs t = some (q', fs') := by
  unfold step at h
  split at h
  · exact nomatch h
  · exact nomatch h
  · rename_i hnext
    rw [hnext, Except.ok.inj h]

theorem step_tooDeep (h : step depth q fs t = .error (.tooDeep c)) :
    depth ≤ fs.length ∧ opened? q t = some c := by
  unfold step at h
  split at h
  · rename_i hopened
    cases h
    by_cases hdeep : depth ≤ fs.length
    · rw [if_pos hdeep] at hopened
      exact ⟨hdeep, hopened⟩
    · rw [if_neg hdeep] at hopened
      exact nomatch hopened
  · exact nomatch h
  · exact nomatch h

theorem run_nil_ne : run depth q fs [] ≠ .error (.tooDeep c) := by
  cases q <;> cases fs <;> exact nofun

theorem run_cons (depth : Nat) (q : Awaits) (fs : List Frame) (t : Token) (ts : List Token) :
    run depth q fs (t :: ts) =
      match step depth q fs t with
      | .error why => .error why
      | .ok (q', fs') => run depth q' fs' ts := by
  cases q <;> cases fs <;> rfl

/-- **A run that goes too deep** reads a bracket for each container that it opens, and one more. -/
theorem openCount_run (h : run depth q fs ts = .error (.tooDeep c)) :
    depth < openCount q fs + ts.countP Token.isOpening := by
  induction ts generalizing q fs with
  | nil => exact absurd h run_nil_ne
  | cons t ts ih =>
    rw [run_cons] at h
    rw [List.countP_cons]
    cases hs : step depth q fs t with
    | error why =>
      simp only [hs, Except.error.injEq] at h
      subst h
      -- here all room is taken, and the bracket is the one too many
      obtain ⟨hdeep, hopened⟩ := step_tooDeep hs
      have hlength := length_le_openCount q fs
      rw [isOpening_of_opened? hopened, if_pos rfl]
      omega
    | ok next =>
      obtain ⟨q', fs'⟩ := next
      simp only [hs] at h
      have hrest := ih h
      have hstep := openCount_step? (step_ok hs)
      omega

end Awaits

/-- **What is too deep has more brackets than may be open at once.** -/
theorem opened_of_tooDeep {depth : Nat} {ts : List Token} {c : Container}
    (h : ofTokens depth ts = .error (.tooDeep c)) : depth < ts.countP Token.isOpening := by
  have hrun : depth < 0 + ts.countP Token.isOpening := Awaits.openCount_run h
  omega

end CatalogSearch.Json
