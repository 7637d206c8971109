import CatalogSearch.Outcome

/-!
# What can be written

A value is written part by part, and the first part that cannot be written is told. So there is a
text of a value exactly if the stack has room for all its levels and none of its whole numbers is
too long; the plain text takes the room that it needs, and only the numbers count.

* `Value.exists_quoted?_iff`: which values have a quoted text.
* `Value.exists_written?_iff`: which values have a plain one.
-/

namespace CatalogSearch

section

variable {ε δ α β : Type} {e : ε}

theorem ok_bind (a : α) (f : α → Except ε β) : (Except.ok a >>= f) = f a :=
  rfl

theorem error_bind (e : ε) (f : α → Except ε β) : (Except.error e >>= f) = .error e :=
  rfl

theorem bind_eq_ok_iff {x : Except ε α} {f : α → Except ε β} {b : β} :
    x >>= f = .ok b ↔ ∃ a, x = .ok a ∧ f a = .ok b := by
  cases x with
  | error e => simp [error_bind]
  | ok a => simp [ok_bind]

theorem bind_eq_error_iff {x : Except ε α} {f : α → Except ε β} :
    x >>= f = .error e ↔ x = .error e ∨ ∃ a, x = .ok a ∧ f a = .error e := by
  cases x with
  | error e' => simp [error_bind]
  | ok a => simp [ok_bind]

theorem map_eq_ok_iff {x : Except ε α} {f : α → β} {b : β} :
    x.map f = .ok b ↔ ∃ a, x = .ok a ∧ f a = b := by
  cases x with
  | error e => simp [Except.map]
  | ok a => simp [Except.map]

theorem map_eq_error_iff {x : Except ε α} {f : α → β} : x.map f = .error e ↔ x = .error e := by
  cases x with
  | error e => simp [Except.map]
  | ok a => simp [Except.map]

theorem mapError_ok (a : α) (f : ε → δ) : (.ok a : Except ε α).mapError f = .ok a :=
  rfl

theorem mapError_error (e : ε) (f : ε → δ) : (.error e : Except ε α).mapError f = .error (f e) :=
  rfl

theorem mapError_eq_ok_iff {x : Except ε α} {f : ε → δ} {a : α} :
    x.mapError f = .ok a ↔ x = .ok a := by
  cases x with
  | error e => simp [mapError_error]
  | ok b => simp [mapError_ok]

theorem mapError_eq_error_iff {x : Except ε α} {f : ε → δ} {d : δ} :
    x.mapError f = .error d ↔ ∃ e, x = .error e ∧ f e = d := by
  cases x with
  | error e => simp [mapError_error]
  | ok a => simp [mapError_ok]

end

/-- The limit is far above the numbers that searches count with. -/
theorem ten_pow_le_pow_digitLimit : Nat.pow 10 20 ≤ Nat.pow 10 digitLimit :=
  Nat.pow_le_pow_right (by decide) (by decide +kernel)

theorem isWritable_of_lt {i : Int} (h : i.natAbs < Nat.pow 10 20) : isWritable i = true :=
  decide_eq_true (Nat.lt_of_lt_of_le h ten_pow_le_pow_digitLimit)

/-- The least number that is too long. -/
theorem isWritable_pow_digitLimit : isWritable (Nat.pow 10 digitLimit : Nat) = false := by
  rw [isWritable, Int.natAbs_natCast, decide_eq_false (Nat.lt_irrefl _)]

theorem wholeText?_of_isWritable {i : Int} (h : isWritable i = true) :
    wholeText? i = .ok (toString i) :=
  if_pos h

theorem wholeText?_of_not_isWritable {i : Int} (h : isWritable i = false) :
    wholeText? i = .error .tooLong :=
  if_neg (by simp [h])

namespace Value

variable {room : Nat} {v : Value}

theorem one_le_levels (v : Value) : 1 ≤ v.levels := by
  cases v with
  | list xs => exact Nat.le_add_left 1 _
  | record fs => exact Nat.le_add_left 1 _
  | uuid u => exact show 1 ≤ Uuid.levels by decide
  | _ => exact Nat.le_refl 1

mutual

/-- **A value has a quoted text** iff there is room for its levels and its numbers can be
written. -/
theorem exists_quoted?_iff (room : Nat) (v : Value) :
    (∃ s, v.quoted? room = .ok s) ↔ v.levels ≤ room ∧ v.isWritable = true := by
  cases room with
  | zero =>
    have hlevels := v.one_le_levels
    exact iff_of_false (fun h => by simp [quoted?] at h) fun h => by omega
  | succ room =>
    cases v with
    | bool b => cases b <;> simp [quoted?, levels, isWritable]
    | int i =>
      simp only [quoted?, levels, isWritable]
      by_cases hi : CatalogSearch.isWritable i = true
      · simp [wholeText?_of_isWritable hi, hi]
      · rw [Bool.not_eq_true] at hi
        simp [wholeText?_of_not_isWritable hi, hi]
    | uuid u =>
      by_cases hroom : room + 1 < Uuid.levels
      · simp [quoted?, levels, isWritable, hroom]
      · simp [quoted?, levels, isWritable, hroom, Nat.not_lt.1 hroom]
    | list xs =>
      have hxs := exists_quotedList?_iff room xs
      simp only [quoted?, levels, isWritable, Nat.add_le_add_iff_right, ← hxs, bind_eq_ok_iff]
      exact ⟨fun ⟨_, items, hitems, _⟩ => ⟨items, hitems⟩, fun ⟨items, hitems⟩ =>
        ⟨_, items, hitems, rfl⟩⟩
    | record fs =>
      have hfs := exists_quotedFields?_iff room fs
      simp only [quoted?, levels, isWritable, Nat.add_le_add_iff_right, ← hfs, bind_eq_ok_iff]
      exact ⟨fun ⟨_, fields, hfields, _⟩ => ⟨fields, hfields⟩, fun ⟨fields, hfields⟩ =>
        ⟨_, fields, hfields, rfl⟩⟩
    | _ => simp [quoted?, levels, isWritable]

theorem exists_quotedList?_iff (room : Nat) (xs : List Value) :
    (∃ ss, quotedList? room xs = .ok ss) ↔ levelsOfList xs ≤ room ∧ areWritable xs = true := by
  cases xs with
  | nil => simp [quotedList?, levelsOfList, areWritable]
  | cons x xs =>
    have hx := exists_quoted?_iff room x
    have hxs := exists_quotedList?_iff room xs
    rw [levelsOfList, areWritable, Nat.max_le, Bool.and_eq_true, and_and_and_comm, ← hx, ← hxs]
    simp only [quotedList?, bind_eq_ok_iff]
    exact ⟨fun ⟨_, item, hitem, items, hitems, _⟩ => ⟨⟨item, hitem⟩, items, hitems⟩,
      fun ⟨⟨item, hitem⟩, items, hitems⟩ => ⟨_, item, hitem, items, hitems, rfl⟩⟩

theorem exists_quotedFields?_iff (room : Nat) (fs : List (String × Value)) :
    (∃ ss, quotedFields? room fs = .ok ss) ↔
      levelsOfFields fs ≤ room ∧ haveWritable fs = true := by
  cases fs with
  | nil => simp [quotedFields?, levelsOfFields, haveWritable]
  | cons f fs =>
    obtain ⟨k, x⟩ := f
    have hx := exists_quoted?_iff room x
    have hfs := exists_quotedFields?_iff room fs
    rw [levelsOfFields, haveWritable, Nat.max_le, Bool.and_eq_true, and_and_and_comm, ← hx, ← hfs]
    simp only [quotedFields?, bind_eq_ok_iff]
    exact ⟨fun ⟨_, value, hvalue, fields, hfields, _⟩ => ⟨⟨value, hvalue⟩, fields, hfields⟩,
      fun ⟨⟨value, hvalue⟩, fields, hfields⟩ => ⟨_, value, hvalue, fields, hfields, rfl⟩⟩

end

/-- With room for all of it, a value is shown iff its numbers can be. -/
theorem exists_shown?_iff (v : Value) : (∃ s, v.shown? = .ok s) ↔ v.isWritable = true := by
  rw [shown?, exists_quoted?_iff]
  exact and_iff_right (Nat.le_refl _)

/-- **A value has a plain text** iff its numbers can be written. -/
theorem exists_written?_iff (v : Value) : (∃ s, v.written? = .ok s) ↔ v.isWritable = true := by
  cases v with
  | text s => exact iff_of_true ⟨s, rfl⟩ rfl
  | uuid u => exact iff_of_true ⟨u.text, rfl⟩ rfl
  | decimal d => exact iff_of_true ⟨d.text, rfl⟩ rfl
  | _ => exact exists_shown?_iff _

theorem written?_int (i : Int) : (int i).written? = wholeText? i := by
  simp only [written?, shown?, levels, quoted?]

end Value

end CatalogSearch
