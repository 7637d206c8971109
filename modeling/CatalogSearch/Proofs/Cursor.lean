import CatalogSearch.Proofs.Slots

/-!
# The cursor of a predicate set

Predicates are gathered one operation after another: tags, equalities, values without a fragment,
and fragments that a caller writes with references obtained from the set. Some operations change
nothing and some bind many values at once, but no order of them moves a value away from the
references to it.

* `PredicateSet.Operation`: what can be done to a set, and which of it is allowed.
* `PredicateSet.Run`: any number of operations, one after another.
* `PredicateSet.exists_bound`: a reference that an operation writes is to a value that it binds.
* `PredicateSet.run_stable`: in every later state that value is still where the reference points.
-/

namespace CatalogSearch

open Template

namespace PredicateSet

/-- What can be done to a set of predicates. -/
inductive Operation where
  | addTags (tags : List Value)
  | addEquality (column : String) (value : Value)
  | bind (values : List Value)
  | append (fragment : String) (values : List Value)

namespace Operation

/-- The set after an operation. -/
def apply (p : PredicateSet) : Operation → PredicateSet
  | addTags tags => p.addTags tags
  | addEquality column value => p.addEquality column value
  | bind values => p.bind values
  | append fragment values => p.append fragment values

/-- The values that an operation binds, in their order. -/
def values : Operation → List Value
  | addTags tags => tags
  | addEquality _ value => if value.isTruthy then [value] else []
  | bind values => values
  | append _ values => values

/-- **Operations that a caller may apply**: a column is written without a dollar sign, and each
reference in a fragment was obtained from the set, for one of the values bound with it. -/
def Allowed (p : PredicateSet) : Operation → Prop
  | addEquality column _ => '$' ∉ column.toList
  | append fragment values =>
    ∀ n ∈ Placeholder.numbers fragment, ∃ i < values.length, "$" ++ toString n = p.placeholder i
  | _ => True

/-- **The numbers that an operation writes** behind dollar signs: those found in the fragments that
it adds. -/
def written (p : PredicateSet) (op : Operation) : List Nat :=
  ((op.apply p).fragments.drop p.fragments.length).flatMap Placeholder.numbers

end Operation

/-- **Any number of operations**, each of them allowed where it is applied. -/
inductive Run : PredicateSet → List Operation → PredicateSet → Prop where
  | done (p : PredicateSet) : Run p [] p
  | step {p q : PredicateSet} {op : Operation} {ops : List Operation} (allowed : op.Allowed p)
    (rest : Run (op.apply p) ops q) : Run p (op :: ops) q

variable {p q : PredicateSet} {op : Operation} {ops : List Operation}

/-! ### One operation -/

theorem placeholder_of_eq {n : Nat} {i : Int} (h : (n : Int) = p.nextIndex + i) :
    "$" ++ toString n = p.placeholder i := by
  unfold placeholder
  rw [← h]
  rfl

/-- Tags are referred to from the next place on. -/
theorem mem_numbers_tagTests {k n : Nat}
    (hn : n ∈ Placeholder.numbers
      (String.intercalate " AND " ((List.range k).map p.tagTest))) :
    ∃ i < k, "$" ++ toString n = p.placeholder (i : Nat) := by
  have htext : String.intercalate " AND " ((List.range k).map p.tagTest) =
      (join " AND " (tagTemplates k p.nextIndex)).text := by rw [tagTests_eq, text_join]
  have hclean : (join " AND " (tagTemplates k p.nextIndex)).Clean :=
    forall_join (by decide) (Query.forall_tagTemplates (by decide) (fun _ _ => trivial) k)
  rw [htext, Placeholder.mem_numbers_text hclean, refs_join,
    SearchRequest.flatMap_refs_tagTemplates, mem_countFrom] at hn
  exact ⟨(n - p.nextIndex).toNat, by omega, placeholder_of_eq (by omega)⟩

/-- In a reference its own number is found. -/
theorem mem_numbers_ref {n : Nat} {m : Int} :
    n ∈ Placeholder.numbers (Piece.ref m).text ↔ (n : Int) = m := by
  have htext : (Piece.ref m).text = text [.ref m] := by simp
  rw [htext, Placeholder.mem_numbers_text (clean_ref.2 clean_nil), refs_ref, refs_nil,
    List.mem_singleton]

/-- The value of a column is referred to as the next one. -/
theorem mem_numbers_equality {column : String} (hcolumn : '$' ∉ column.toList) {n : Nat}
    (hn : n ∈ Placeholder.numbers (column ++ " = " ++ p.placeholder 0)) :
    "$" ++ toString n = p.placeholder 0 := by
  have hfront : '$' ∉ (column ++ " = ").toList := by simp [hcolumn]
  have htext : Placeholder.numbers (column ++ " = " ++ p.placeholder 0) =
      Placeholder.numbers (Piece.ref (p.nextIndex + 0)).text := by
    unfold Placeholder.numbers
    rw [String.toList_append, Placeholder.runs_append_of_notMem hfront, placeholder_eq]
  rw [htext, mem_numbers_ref] at hn
  exact placeholder_of_eq hn

/-- **What an operation does**: its fragments and its values come behind those there are, the
numbering moves on by the values, and each reference was obtained for one of them. -/
theorem exists_added (hop : op.Allowed p) :
    ∃ added, op.apply p =
        { fragments := p.fragments ++ added
          values := p.values ++ op.values
          nextIndex := p.nextIndex + op.values.length } ∧
      ∀ fragment ∈ added, ∀ n ∈ Placeholder.numbers fragment,
        ∃ i < op.values.length, "$" ++ toString n = p.placeholder (i : Nat) := by
  cases op with
  | addTags tags =>
    by_cases htags : tags = []
    · exact ⟨[], by simp [Operation.apply, addTags, htags, Operation.values], nofun⟩
    · refine ⟨[String.intercalate " AND " ((List.range tags.length).map p.tagTest)], ?_, ?_⟩
      · simp [Operation.apply, addTags, htags, Operation.values, append, bind]
      · exact List.forall_mem_singleton.2 fun n hn => mem_numbers_tagTests hn
  | addEquality column value =>
    by_cases hvalue : value.isTruthy = true
    · refine ⟨[column ++ " = " ++ p.placeholder 0], ?_, ?_⟩
      · simp [Operation.apply, addEquality, hvalue, Operation.values, append, bind]
      · refine List.forall_mem_singleton.2 fun n hn => ⟨0, ?_, mem_numbers_equality hop hn⟩
        simp [Operation.values, hvalue]
    · exact ⟨[], by simp [Operation.apply, addEquality, hvalue, Operation.values], nofun⟩
  | bind values => exact ⟨[], by simp [Operation.apply, bind, Operation.values], nofun⟩
  | append fragment values => exact ⟨[fragment], rfl, List.forall_mem_singleton.2 hop⟩

theorem Aligned.apply (h : p.Aligned) (hop : op.Allowed p) : (op.apply p).Aligned := by
  obtain ⟨added, hadded, -⟩ := exists_added hop
  unfold Aligned at h ⊢
  rw [hadded, h, List.length_append]
  push_cast
  omega

/-- A reference obtained from a set has the number of its place. -/
theorem Aligned.number_of_placeholder (h : p.Aligned) {n i : Nat}
    (hn : "$" ++ toString n = p.placeholder i) : n = p.values.length + i + 1 := by
  have hown : n ∈ Placeholder.numbers (Piece.ref n).text := mem_numbers_ref.2 rfl
  have htext : (Piece.ref n).text = p.placeholder i := hn
  rw [htext, placeholder_eq, mem_numbers_ref, h] at hown
  omega

/-- **A reference that an operation writes** is to a value that it binds, at the place of which the
value stands afterwards. -/
theorem exists_bound (h : p.Aligned) (hop : op.Allowed p) {n : Nat} (hn : n ∈ op.written p) :
    ∃ i v, op.values[i]? = some v ∧ "$" ++ toString n = p.placeholder (i : Nat) ∧ 1 ≤ n ∧
      (op.apply p).values[n - 1]? = some v := by
  obtain ⟨added, hadded, hrefs⟩ := exists_added hop
  unfold Operation.written at hn
  rw [hadded, List.drop_left, List.mem_flatMap] at hn
  obtain ⟨fragment, hfragment, hn⟩ := hn
  obtain ⟨i, hi, hplaceholder⟩ := hrefs fragment hfragment n hn
  have hnumber : n = p.values.length + i + 1 := h.number_of_placeholder hplaceholder
  refine ⟨i, op.values[i], List.getElem?_eq_getElem hi, hplaceholder, by omega, ?_⟩
  rw [hadded, hnumber, Nat.add_sub_cancel, List.getElem?_append_right (by omega),
    Nat.add_sub_cancel_left, List.getElem?_eq_getElem hi]

/-! ### Any number of operations -/

theorem Run.aligned (h : Run p ops q) (hp : p.Aligned) : q.Aligned := by
  induction h with
  | done p => exact hp
  | step allowed _ ih => exact ih (hp.apply allowed)

/-- Nothing that was gathered is moved or lost. -/
theorem Run.grows (h : Run p ops q) : p.fragments <+: q.fragments ∧ p.values <+: q.values := by
  induction h with
  | done p => exact ⟨List.prefix_rfl, List.prefix_rfl⟩
  | step allowed _ ih =>
    obtain ⟨added, hadded, -⟩ := exists_added allowed
    rw [hadded] at ih
    exact ⟨(List.prefix_append _ _).trans ih.1, (List.prefix_append _ _).trans ih.2⟩

/-- **References stay where they point.** Begun with nothing, any run of operations keeps the
numbering one ahead of the values; what an earlier state holds is what a later one begins with; and
each reference that an operation writes is, in every later state, to the value that the operation
has bound for it. -/
theorem run_stable {earlier later : List Operation} {p q : PredicateSet}
    (hp : Run {} earlier p) (hq : Run p later q) :
    q.nextIndex = 1 + q.values.length ∧ p.fragments <+: q.fragments ∧ p.values <+: q.values ∧
      ∀ op ∈ later.head?, ∀ n ∈ op.written p,
        1 ≤ n ∧ n ≤ q.values.length ∧
          ∃ i v, op.values[i]? = some v ∧ "$" ++ toString n = p.placeholder (i : Nat) ∧
            q.values[n - 1]? = some v := by
  have hstart : Aligned {} := rfl
  have haligned : p.Aligned := hp.aligned hstart
  refine ⟨hq.aligned haligned, hq.grows.1, hq.grows.2, fun op hop n hn => ?_⟩
  cases hq with
  | done p => exact nomatch hop
  | step allowed rest =>
    obtain rfl := Option.some.inj hop
    obtain ⟨i, v, hv, hplaceholder, hpos, hbound⟩ := exists_bound haligned allowed hn
    -- the place of the value is the same in every longer list
    obtain ⟨more, hmore⟩ := rest.grows.2
    obtain ⟨hlt, -⟩ := List.getElem?_eq_some_iff.1 hbound
    refine ⟨hpos, ?_, i, v, hv, hplaceholder, ?_⟩
    · rw [← hmore, List.length_append]
      omega
    · rw [← hmore, List.getElem?_append_left hlt]
      exact hbound

/-- A fragment with its references in disorder, behind tags that look like references and with a
filter that is not given before it. -/
theorem run_stable_fragment :
    let earlier : List Operation :=
      [.addTags [.text "biology", .text "$9"], .addEquality "\"level\"" .null, .bind [.int 7]]
    let p := earlier.foldl Operation.apply {}
    let op : Operation := .append "(a = $5 OR b = $4)" [.text "x", .text "y"]
    let later : List Operation := [op, .addTags [], .addEquality "\"subject\"" (.text "Maths")]
    let q := later.foldl Operation.apply p
    (Run {} earlier p ∧ Run p later q) ∧ q.nextIndex = 7 ∧ 5 ∈ op.written p ∧
      q.values[4]? = some (.text "y") := by
  intro earlier p op later q
  have hnumbers : Placeholder.numbers "(a = $5 OR b = $4)" = [4, 5] := by decide
  have hfour : "$" ++ toString 4 = p.placeholder (0 : Nat) := by decide
  have hfive : "$" ++ toString 5 = p.placeholder (1 : Nat) := by decide
  have hop : op.Allowed p := by
    intro n hn
    rw [hnumbers, List.mem_cons, List.mem_singleton] at hn
    obtain rfl | rfl := hn
    · exact ⟨0, by decide, hfour⟩
    · exact ⟨1, by decide, hfive⟩
  have hlevel : '$' ∉ "\"level\"".toList := by decide
  have hsubject : '$' ∉ "\"subject\"".toList := by decide
  have hp : Run {} earlier p := .step trivial (.step hlevel (.step trivial (.done p)))
  have hq : Run p later q := .step hop (.step trivial (.step hsubject (.done q)))
  have hwritten : 5 ∈ op.written p := by decide
  obtain ⟨hnext, -, -, hrefs⟩ := run_stable hp hq
  obtain ⟨-, -, i, v, hv, hplaceholder, hvalue⟩ := hrefs op rfl 5 hwritten
  have hi : 5 = 3 + i + 1 := (hp.aligned rfl).number_of_placeholder hplaceholder
  obtain rfl : i = 1 := by omega
  obtain rfl : .text "y" = v := Option.some.inj hv
  exact ⟨⟨hp, hq⟩, hnext, hwritten, hvalue⟩

end PredicateSet

end CatalogSearch
