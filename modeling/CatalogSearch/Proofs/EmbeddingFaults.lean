import CatalogSearch.Proofs.Embedding
import CatalogSearch.Proofs.Json.Nesting
import CatalogSearch.Proofs.Json.Reading
import CatalogSearch.Proofs.Number.Overflow

/-!
# Answers of the embedding service that are not reported

An answer without a usable vector is meant to be reported as a failure of the embedding service,
whatever is wrong with it. Three kinds of answers get past that: documents that are nested too
deeply for the stack that is left; vectors with a whole number that is beyond floating point where
the other coordinates before it are finite; and vectors of another length than configured, where
that is too long to be written. Every other answer gives a vector or is reported.

* `Embedding.IsClassified`: a vector, or a failure of the embedding service by name.
* `Embedding.Escapes`: the octets that get past the classification, each with its failure.
* `Embedding.fetch_isClassified_iff`: which answers are classified.
* `Embedding.fetch_unclassified`: a number of 310 digits is enough.
-/

namespace CatalogSearch

namespace Embedding

variable {α β : Type} {st : Settings} {a : Access} {service : EmbeddingRequest → EmbeddingReply}
variable {text : Value} {depth : Nat} {d : Int} {body : List UInt8}

/-- **A result, or a failure of the embedding service** that is reported as such. -/
def IsClassified (result : Except Failure α) : Prop :=
  (∃ a, result = .ok a) ∨
    ∃ e : SearchError, result = .error (.reported e) ∧ e.code = "EMBEDDING_SERVICE_FAILURE" ∧
      e.status = 502

theorem isClassified_ok (a : α) : IsClassified (.ok a : Except Failure α) := Or.inl ⟨a, rfl⟩

theorem isClassified_refused (r : EmbeddingRefusal) :
    IsClassified (.error r.toFailure : Except Failure α) :=
  Or.inr ⟨_, rfl, rfl, rfl⟩

/-- Only failures with a name are classified. -/
theorem not_isClassified {e : Failure} (h : ∀ s, e ≠ .reported s) :
    ¬ IsClassified (.error e : Except Failure α) := by
  rintro (⟨a, ha⟩ | ⟨s, hs, -⟩)
  · exact nomatch ha
  · exact h s (Except.error.inj hs)

/-- A result is classified unless it is one of the failures given. -/
structure ClassifiedBut (escapes : Failure → Prop) (result : Except Failure α) : Prop where
  escaped : ∀ e, escapes e → result = .error e
  classified : (∀ e, ¬ escapes e) → IsClassified result

theorem ClassifiedBut.of_isClassified {escapes : Failure → Prop} {result : Except Failure α}
    (hr : IsClassified result) (he : ∀ e, ¬ escapes e) : ClassifiedBut escapes result :=
  ⟨fun e h => absurd h (he e), fun _ => hr⟩

/-- What goes on with a result can fail in ways of its own. -/
theorem ClassifiedBut.bind {escapes : Failure → Prop} {later : α → Failure → Prop}
    {x : Except Failure α} {f : α → Except Failure β} (hx : ClassifiedBut escapes x)
    (hf : ∀ a, ClassifiedBut (later a) (f a)) :
    ClassifiedBut (fun e => escapes e ∨ ∃ a, x = .ok a ∧ later a e) (x >>= f) := by
  constructor
  · rintro e (he | ⟨a, rfl, he⟩)
    · rw [hx.escaped e he]
      rfl
    · exact (hf a).escaped e he
  · intro h
    cases x with
    | ok a => exact (hf a).classified fun e he => h e (.inr ⟨a, rfl, he⟩)
    | error e =>
      rcases hx.classified fun e he => h e (.inl he) with ⟨a, ha⟩ | ⟨s, hs, hcode⟩
      · exact nomatch ha
      · cases hs
        exact .inr ⟨s, rfl, hcode⟩

/-! ### From the coordinates to the octets -/

/-- **The first coordinate that is not known to be finite** is a whole number beyond floating
point. -/
inductive Overflows : List Value → Prop where
  | here {i : Int} {xs : List Value} (beyond : Magnitude.overflowBound ≤ i.natAbs) :
    Overflows (.int i :: xs)
  | later {x : Value} {xs : List Value} (finite : x.isFiniteNumber = .ok true)
    (rest : Overflows xs) : Overflows (x :: xs)

theorem not_overflows_of_not_finite {x : Value} {xs : List Value}
    (h : x.isFiniteNumber = .ok false) : ¬ Overflows (x :: xs) := by
  rintro (hi | ⟨hf, -⟩)
  · rw [Value.isFiniteNumber_int, if_pos hi] at h
    exact nomatch h
  · rw [h] at hf
    exact nomatch hf

theorem overflows_cons_of_finite {x : Value} {xs : List Value} (h : x.isFiniteNumber = .ok true) :
    Overflows (x :: xs) ↔ Overflows xs := by
  refine ⟨?_, Overflows.later h⟩
  rintro (hi | ⟨-, hxs⟩)
  · rw [Value.isFiniteNumber_int, if_pos hi] at h
    exact nomatch h
  · exact hxs

theorem checkCoordinates_classifiedBut (xs : List Value) :
    ClassifiedBut (fun e => e = .notFloat .tooLarge ∧ Overflows xs) (checkCoordinates xs) := by
  induction xs with
  | nil => exact .of_isClassified (isClassified_ok ()) fun _ h => nomatch h.2
  | cons x xs ih =>
    unfold checkCoordinates
    cases hx : x.isFiniteNumber with
    | ok isFinite =>
      cases isFinite with
      | true =>
        simp only [overflows_cons_of_finite hx]
        exact ih
      | false =>
        exact .of_isClassified (isClassified_refused _)
          fun _ h => not_overflows_of_not_finite hx h.2
    | error why =>
      obtain ⟨rfl, i, rfl, hi⟩ := Value.isFiniteNumber_eq_error_iff.1 hx
      exact ⟨fun e h => by rw [h.1], fun h => absurd ⟨rfl, .here hi⟩ (h _)⟩

theorem ofDocument_classifiedBut (document : Value) :
    ClassifiedBut
      (fun e => e = .notFloat .tooLarge ∧ ∃ xs, locate? document = some (.list xs) ∧ Overflows xs)
      (ofDocument document) := by
  unfold ofDocument
  cases hl : locate? document with
  | none => exact .of_isClassified (isClassified_refused _) (by simp)
  | some v =>
    cases v with
    | list xs =>
      have hxs := checkCoordinates_classifiedBut xs
      cases xs with
      | nil =>
        refine .of_isClassified (isClassified_refused _) ?_
        rintro e ⟨-, ys, hys, ho⟩
        cases hys
        exact nomatch ho
      | cons x xs =>
        refine ⟨?_, fun h => ?_⟩
        · rintro e ⟨rfl, ys, hys, ho⟩
          cases hys
          simp only [hxs.escaped _ ⟨rfl, ho⟩]
        · have hc := hxs.classified fun e he => h e ⟨he.1, x :: xs, rfl, he.2⟩
          rcases hc with ⟨a, ha⟩ | ⟨s, hs, hcode⟩
          · simp only [ha]
            exact isClassified_ok _
          · simp only [hs]
            exact Or.inr ⟨s, rfl, hcode⟩
    | _ => exact .of_isClassified (isClassified_refused _) (by simp)

/-- **The octets that give neither a vector nor a failure by name**, with the failure that comes of
them. -/
inductive Unreadable (depth : Nat) (body : List UInt8) : Failure → Prop where
  | nested {c : Json.Container} (deep : Json.ofBytes depth body = .error (.tooDeep c)) :
    Unreadable depth body (.tooDeep c)
  | overflow {document : Value} {xs : List Value} (read : Json.ofBytes depth body = .ok document)
    (located : locate? document = some (.list xs)) (overflows : Overflows xs) :
    Unreadable depth body (.notFloat .tooLarge)

/-- To be nested too deeply takes more brackets than there is room for. -/
theorem opened_of_nested {c : Json.Container} (h : Unreadable depth body (.tooDeep c)) :
    ∃ cs, Text.decodeDetected? body = some cs ∧
      depth < (Json.Scan.run .between cs).countP Json.Token.isOpening := by
  obtain ⟨deep⟩ := h
  unfold Json.ofBytes at deep
  cases hcs : Text.decodeDetected? body with
  | none =>
    rw [hcs] at deep
    exact nomatch deep
  | some cs =>
    rw [hcs] at deep
    exact ⟨cs, rfl, Json.opened_of_tooDeep deep⟩

theorem ofBody_classifiedBut (depth : Nat) (body : List UInt8) :
    ClassifiedBut (Unreadable depth body) (ofBody depth body) := by
  unfold ofBody
  cases hb : Json.ofBytes depth body with
  | ok document =>
    have hd := ofDocument_classifiedBut document
    refine ⟨?_, fun h => hd.classified ?_⟩
    · rintro e (hdeep | ⟨hread, hl, ho⟩)
      · rw [hb] at hdeep
        exact nomatch hdeep
      · rw [hb] at hread
        cases hread
        exact hd.escaped _ ⟨rfl, _, hl, ho⟩
    · rintro e ⟨-, xs, hl, ho⟩
      exact h _ (.overflow hb hl ho)
  | error why =>
    cases why with
    | malformed =>
      refine .of_isClassified (isClassified_refused _) ?_
      rintro e (hdeep | ⟨hread, -, -⟩)
      · rw [hb] at hdeep
        exact nomatch hdeep
      · rw [hb] at hread
        exact nomatch hread
    | tooDeep c =>
      refine ⟨?_, fun h => absurd (.nested hb) (h _)⟩
      rintro e (hdeep | ⟨hread, -, -⟩)
      · rw [hb] at hdeep
        cases hdeep
        rfl
      · rw [hb] at hread
        exact nomatch hread

/-! ### The length of a vector -/

/-- A vector is accepted unless its length has to be warned of and cannot. -/
theorem accept_classifiedBut (hd : st.embeddingDimensions = .int d) (vector : List Value) :
    ClassifiedBut
      (fun e => e = .unwritten .tooLong ∧ (vector.length : Int) ≠ d ∧ isWritable d = false)
      (accept st vector).result := by
  unfold accept
  rw [hd, Value.same?_int]
  by_cases hsame : (vector.length : Int) = d
  · rw [decide_eq_true hsame]
    exact .of_isClassified (isClassified_ok vector) fun _ h => h.2.1 hsame
  · rw [decide_eq_false hsame]
    cases hdigits : isWritable d with
    | true =>
      have hwritable : st.embeddingDimensions.isWritable = true := by rw [hd]; exact hdigits
      obtain ⟨line, hnote⟩ := (exists_lengthNote_iff vector).2 hwritable
      refine .of_isClassified ?_ fun _ h => nomatch h.2.2
      simp only [Outcome.log_andThen_of_ok hnote]
      exact isClassified_ok vector
    | false =>
      have hnote : lengthNote st vector = .error .tooLong := by
        rw [lengthNote, hd, Value.written?_int, wholeText?_of_not_isWritable hdigits]
        rfl
      simp only [Outcome.log_andThen_of_error hnote]
      refine ⟨?_, fun h => absurd ⟨rfl, hsame, trivial⟩ (h _)⟩
      rintro e ⟨rfl, -⟩
      rfl

/-- **The answers that are not classified** where a length is configured, with the failure that
comes of them: what cannot be read, and vectors whose length cannot be warned of. -/
inductive Escapes (depth : Nat) (d : Int) (body : List UInt8) : Failure → Prop where
  | unreadable {e : Failure} (unread : Unreadable depth body e) : Escapes depth d body e
  | unwarned {v : List Value} (read : ofBody depth body = .ok v) (other : (v.length : Int) ≠ d)
    (digits : isWritable d = false) : Escapes depth d body (.unwritten .tooLong)

theorem Escapes.not_reported {e : Failure} (h : Escapes depth d body e) (s : SearchError) :
    e ≠ .reported s := by
  rcases h with (_ | _) | _ <;> exact nofun

theorem escapes_iff {e : Failure} :
    Escapes depth d body e ↔ Unreadable depth body e ∨ ∃ v, ofBody depth body = .ok v ∧
      e = .unwritten .tooLong ∧ (v.length : Int) ≠ d ∧ isWritable d = false := by
  constructor
  · rintro (hunread | ⟨hread, hother, hdigits⟩)
    · exact .inl hunread
    · exact .inr ⟨_, hread, rfl, hother, hdigits⟩
  · rintro (hunread | ⟨v, hread, rfl, hother, hdigits⟩)
    · exact .unreadable hunread
    · exact .unwarned hread hother hdigits

/-- What becomes of octets that arrive. -/
theorem answer_classifiedBut (hd : st.embeddingDimensions = .int d) (depth : Nat)
    (body : List UInt8) :
    ClassifiedBut (Escapes depth d body) (ofBody depth body >>= fun v => (accept st v).result) := by
  have hbind := (ofBody_classifiedBut depth body).bind (accept_classifiedBut hd)
  exact ⟨fun e he => hbind.escaped e (escapes_iff.1 he), fun h =>
    hbind.classified fun e he => h e (escapes_iff.2 he)⟩

/-! ### The answer with one coordinate -/

/-- The answer with a vector of one coordinate, by the digits of a whole number. -/
def answerOf (digits : List Char) : List UInt8 :=
  Text.asciiOctets
    ("\x7b\"data\":[\x7b\"embedding\":[".toList ++ (digits ++ "]\x7d]\x7d".toList))

theorem ofTokens_coordinate {cs : List Char} {v : Value} (h : Json.ofWord? cs = some v) :
    Json.ofTokens 900 [.mark '\x7b', .string "data", .mark ':', .mark '[', .mark '\x7b',
        .string "embedding", .mark ':', .mark '[', .word cs, .mark ']', .mark '\x7d', .mark ']',
        .mark '\x7d'] =
      .ok (.record [("data", .list [.record [("embedding", .list [v])]])]) := by
  have hword (fs : List Json.Frame) :
      Json.Awaits.step 900 .firstItem fs (.word cs) = .ok (.more v, fs) := by
    simp [Json.Awaits.step, Json.Awaits.step?, Json.Awaits.opened?, h]
  -- nothing before the word hangs on it, and behind it only its value counts
  change Json.Awaits.run 900 .firstItem
    [.array [], .object [] "embedding", .array [], .object [] "data"]
    (.word cs :: [.mark ']', .mark '\x7d', .mark ']', .mark '\x7d']) = _
  rw [Json.Awaits.run_cons, hword]
  rfl

theorem run_answerOf {d : Char} {ds : List Char} (h : (d :: ds).all Char.isDigit = true) :
    Json.Scan.run .between
        ("\x7b\"data\":[\x7b\"embedding\":[".toList ++ (d :: ds ++ "]\x7d]\x7d".toList)) =
      [.mark '\x7b', .string "data", .mark ':', .mark '[', .mark '\x7b', .string "embedding",
        .mark ':', .mark '[', .word (d :: ds), .mark ']', .mark '\x7d', .mark ']',
        .mark '\x7d'] := by
  have hword : ∀ c ∈ d :: ds, Json.Scan.isWordChar c = true := by
    intro c hc
    simp [Json.Scan.isWordChar, Char.isAlphanum, List.all_eq_true.1 h c hc]
  have hbegin : Json.Scan.begin? d = some ([], .word [d]) :=
    Json.Scan.begin?_of_digit (List.all_eq_true.1 h d (List.mem_cons_self ..))
  have hrest : Json.Scan.run (.word [d]) (ds ++ ']' :: "\x7d]\x7d".toList) =
      .word (d :: ds) :: .mark ']' :: Json.Scan.run .between "\x7d]\x7d".toList :=
    Json.Scan.run_word (List.forall_mem_cons.1 hword).2 rfl rfl rfl
  calc _ = [.mark '\x7b', .string "data", .mark ':', .mark '[', .mark '\x7b', .string "embedding",
        .mark ':', .mark '['] ++
          Json.Scan.run .between (d :: (ds ++ ']' :: "\x7d]\x7d".toList)) := rfl
    _ = _ := by
      simp only [Json.Scan.run, Json.Scan.step?, hbegin, List.nil_append]
      rw [hrest]
      rfl

theorem ofBytes_answerOf {d : Char} {ds : List Char} (hd : (d :: ds).all Char.isDigit = true)
    (hn : Json.isNumber (d :: ds) = true) (hl : (d :: ds).length ≤ digitLimit) :
    Json.ofBytes 900 (answerOf (d :: ds)) =
      .ok (.record [("data", .list [.record
        [("embedding", .list [.int (Written.natOf (d :: ds))])]])]) := by
  have hascii : Text.IsAscii
      ("\x7b\"data\":[\x7b\"embedding\":[".toList ++ (d :: ds ++ "]\x7d]\x7d".toList)) :=
    .append (by decide) (.append (Text.isAscii_of_isDigit hd) (by decide))
  have hdecoded : Text.decodeDetected? (answerOf (d :: ds)) =
      Text.utf8? (answerOf (d :: ds)) := rfl
  unfold Json.ofBytes
  rw [hdecoded, answerOf, Text.utf8?_ascii hascii]
  dsimp only
  rw [run_answerOf hd]
  exact ofTokens_coordinate (Json.ofWord?_of_digits hd hn hl)

/-! ### From the octets to the client -/

/-- The request is sent and answered with success, by the octets given. -/
structure Arrives (st : Settings) (a : Access) (service : EmbeddingRequest → EmbeddingReply)
    (text : Value) (body : List UInt8) : Prop where
  sendable : isSendable st a text = true
  absolute : a.url.isAbsolute = true
  answered : ∃ status, 200 ≤ status ∧ status < 300 ∧
    service (request st a text) = .answered status body

theorem Arrives.ofReply (h : Arrives st a service text body) (depth : Nat) :
    ofReply depth a.url (service (request st a text)) = ofBody depth body := by
  obtain ⟨status, hlow, hhigh, hs⟩ := h.answered
  have hrange : ¬ (status < 200 ∨ 300 ≤ status) := by omega
  simp only [hs, Embedding.ofReply, h.absolute, if_neg hrange]
  rfl

/-- A reply whose octets do not arrive is useless, and that is told. -/
theorem exists_refusal_of_not_arrives (depth : Nat)
    (hfault : ∀ f, service (request st a text) = .failed f → f.kind = .transport)
    (hsend : isSendable st a text = true) (h : ∀ body, ¬ Arrives st a service text body) :
    ∃ r : EmbeddingRefusal, ofReply depth a.url (service (request st a text)) =
      .error r.toFailure := by
  cases hr : service (request st a text) with
  | failed f =>
    obtain ⟨kind, words⟩ := f
    obtain rfl : kind = .transport := hfault _ hr
    exact ⟨_, rfl⟩
  | answered status body =>
    by_cases habs : a.url.isAbsolute = true
    · have hrange : status < 200 ∨ 300 ≤ status := by
        by_contra hc
        exact h body ⟨hsend, habs, status, by omega, by omega, hr⟩
      simp only [Embedding.ofReply, habs, if_pos hrange]
      exact ⟨_, rfl⟩
    · rw [Bool.not_eq_true] at habs
      simp only [Embedding.ofReply, habs]
      exact ⟨_, rfl⟩

theorem fetch_result (ha : access st = .ok a) :
    (fetch st depth service text).result =
      if isSendable st a text then
        ofReply depth a.url (service (request st a text)) >>= fun v => (accept st v).result
      else .error EmbeddingRefusal.invalidResponse.toFailure := by
  cases hs : isSendable st a text with
  | false => simp [fetch, ha, hs, Outcome.fail]
  | true =>
    simp only [fetch, ha, hs, Bool.not_true, Bool.false_eq_true, if_false, if_true]
    cases hr : ofReply depth a.url (service (request st a text)) with
    | error e => rfl
    | ok vector => rfl

/-- An answer whose octets escape fails with what they fail with. -/
theorem fetch_escaped {e : Failure} (ha : access st = .ok a)
    (hd : st.embeddingDimensions = .int d) (harrives : Arrives st a service text body)
    (he : Escapes depth d body e) : (fetch st depth service text).result = .error e := by
  rw [fetch_result ha, if_pos harrives.sendable, harrives.ofReply]
  exact (answer_classifiedBut hd depth body).escaped e he

/-- **Which answers are classified**, with room for `depth` containers in one another: all but those
whose octets arrive and escape. An escape is the failure of the whole call, and to be nested too
deeply takes more brackets than there is room for. -/
theorem fetch_isClassified_iff (depth : Nat) (ha : access st = .ok a)
    (hd : st.embeddingDimensions = .int d)
    (hfault : ∀ r f, service r = .failed f → f.kind = .transport) :
    (IsClassified (fetch st depth service text).result ↔
        ∀ body e, Arrives st a service text body → ¬ Escapes depth d body e) ∧
      (∀ body e, Arrives st a service text body → Escapes depth d body e →
        (fetch st depth service text).result = .error e) ∧
      ∀ body c, Unreadable depth body (.tooDeep c) →
        ∃ cs, Text.decodeDetected? body = some cs ∧
          depth < (Json.Scan.run .between cs).countP Json.Token.isOpening := by
  refine ⟨⟨?_, ?_⟩, fun body e => fetch_escaped ha hd, fun body c => opened_of_nested⟩
  · intro hc body e harrives he
    rw [fetch_escaped ha hd harrives he] at hc
    exact not_isClassified he.not_reported hc
  · intro h
    rw [fetch_result ha]
    by_cases hs : isSendable st a text = true
    · rw [if_pos hs]
      by_cases harrives : ∃ body, Arrives st a service text body
      · obtain ⟨body, harrives⟩ := harrives
        rw [harrives.ofReply]
        exact (answer_classifiedBut hd depth body).classified fun e => h body e harrives
      · obtain ⟨r, hr⟩ := exists_refusal_of_not_arrives depth (hfault _) hs
          fun body hb => harrives ⟨body, hb⟩
        rw [hr]
        exact isClassified_refused _
    · rw [if_neg hs]
      exact isClassified_refused _

/-- A service that answers in the wrong form is reported. -/
theorem fetch_isClassified_malformed :
    IsClassified
      (fetch {} 900 (fun _ => .answered 200 (Text.asciiOctets "[]".toList))
        (.text "algebra")).result := by
  refine (fetch_isClassified_iff (a := _) (d := 1536) 900 rfl rfl ?_).1.2 ?_
  · exact nofun
  · rintro body e ⟨-, -, status, -, -, hs⟩ he
    cases hs
    have hread : ofBody 900 (Text.asciiOctets "[]".toList) =
        .error EmbeddingRefusal.invalidResponse.toFailure := rfl
    rcases he with (hdeep | ⟨hread, hl, -⟩) | ⟨hvector, -, -⟩
    · exact nomatch hdeep
    · cases hread
      exact nomatch hl
    · exact nomatch hread.symm.trans hvector

/-- **A vector with a coordinate beyond floating point** is not classified: one of 310 digits is
enough. -/
theorem fetch_unclassified :
    ¬ IsClassified
      (fetch {} 900 (fun _ => .answered 200 (answerOf ('1' :: List.replicate 309 '0')))
        (.text "algebra")).result := by
  have hread := @ofBytes_answerOf '1' (List.replicate 309 '0') (by decide +kernel)
    (by decide +kernel) (by decide +kernel)
  have hbeyond : Magnitude.overflowBound ≤
      (Written.natOf ('1' :: List.replicate 309 '0') : Int).natAbs := by decide +kernel
  rw [fetch_escaped (d := 1536) rfl rfl ⟨rfl, rfl, 200, by decide, by decide, rfl⟩
    (.unreadable (.overflow hread rfl (.here hbeyond)))]
  exact not_isClassified nofun

end Embedding

end CatalogSearch
