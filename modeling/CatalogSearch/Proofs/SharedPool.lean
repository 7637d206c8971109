import CatalogSearch.Proofs.StoreFaults

/-!
# The life of the shared pool

The shared pool is wanted, used and closed by one call after another, while the settings change and
the client of the store may raise wherever it is asked. The pool is shared as soon as it is made and
until it has closed, so a pool that is open is always the shared one, and a call that fails leaves
behind what the next one needs. A pool that was made is noted only then: where its sizes cannot be
written, the caller is refused, and the pool is shared all the same.

* `Pools.Turn`: one call, with what the client does if it is asked.
* `Pools.Sound`: the open pools are the shared one; no turn changes that.
* `Pools.Orderly`: what the calls do with the shared pool, and what they leave behind.
* `Pools.afterTurns_orderly`: every run of calls keeps this order.
-/

namespace CatalogSearch.Pools

/-- **What happens to the pools, one after the other**: a call with the settings of its time and
with what the client of the store does if it is asked. Between calls the store behind a pool may
come to answer in another way. -/
inductive Turn where
  | acquire (st : Settings) (connect : Connector)
  | fetch (st : Settings) (room : Nat) (connect : Connector) (stmt : Statement)
  | close (closed : Except Fault Unit)
  | answer (pool : Nat) (reply : StoreReply)

/-- The pools after a turn. -/
def Turn.apply (s : Pools) : Turn → Pools
  | acquire st connect => (s.acquire st connect).1
  | fetch st room connect stmt => (s.fetch st room connect stmt).1
  | close closed => (s.close closed).1
  | answer n reply => { s with made := s.made.modify n fun p => { p with reply := reply } }

/-- The pools after any number of turns; at first there are none. -/
def afterTurns (ts : List Turn) : Pools := ts.foldl Turn.apply {}

/-- **The open pools are the shared one**: every pool that was made and has not closed is shared,
and the shared one is open. -/
def Sound (s : Pools) : Prop :=
  ∀ n, (∃ p, s.made[n]? = some p ∧ p.closed = false) ↔ s.shared = some n

variable {st : Settings} {room : Nat} {connect : Connector} {stmt : Statement} {s : Pools}

/-! ### What a call does -/

/-- A pool that was just made is open. -/
theorem closed_of_make {url : Value} {p : Pool} (h : (make st url connect).result = .ok p) :
    p.closed = false := by
  unfold make at h
  cases connect with
  | error f =>
    dsimp only at h
    split at h <;> exact nomatch h
  | ok reply =>
    dsimp only at h
    cases hlimit : sessionStatement st with
    | error why =>
      rw [hlimit] at h
      exact nomatch h
    | ok limit =>
      rw [hlimit] at h
      cases h
      rfl

/-- **The ways to want the shared pool**: it is there, there is no store to connect to, it cannot be
made, or it is made, and that is noted or cannot be. -/
inductive Acquires (st : Settings) (connect : Connector) (s : Pools) :
    Pools × Outcome Effect Nat → Prop where
  | shared {n : Nat} (present : s.shared = some n) : Acquires st connect s (s, .ok n)
  | unconfigured (absent : s.shared = none) (unset : st.databaseUrl.isTruthy = false) :
    Acquires st connect s (s, .fail notConfigured)
  | unmade {e : Failure} (absent : s.shared = none) (set : st.databaseUrl.isTruthy = true)
    (failed : (make st st.databaseUrl connect).result = .error e) :
    Acquires st connect s (s, ⟨(make st st.databaseUrl connect).events, .error e⟩)
  | made {p : Pool} {line : LogLine} (absent : s.shared = none)
    (set : st.databaseUrl.isTruthy = true)
    (opened : (make st st.databaseUrl connect).result = .ok p)
    (noted : creationNote st = .ok line) :
    Acquires st connect s
      ({ made := s.made ++ [p], shared := some s.made.length },
        ⟨(make st st.databaseUrl connect).events ++ [.logged line], .ok s.made.length⟩)
  | unnoted {p : Pool} {why : WritingRefusal} (absent : s.shared = none)
    (set : st.databaseUrl.isTruthy = true)
    (opened : (make st st.databaseUrl connect).result = .ok p)
    (silent : creationNote st = .error why) :
    Acquires st connect s
      ({ made := s.made ++ [p], shared := some s.made.length },
        ⟨(make st st.databaseUrl connect).events, .error (.unwritten why)⟩)

theorem acquires (st : Settings) (connect : Connector) (s : Pools) :
    Acquires st connect s (s.acquire st connect) := by
  cases hs : s.shared with
  | some n =>
    rw [acquire_shared hs]
    exact .shared hs
  | none =>
    by_cases hurl : st.databaseUrl.isTruthy = true
    · rw [acquire_make hurl hs]
      cases hmake : (make st st.databaseUrl connect).result with
      | error e =>
        rw [adopt_of_error hmake]
        exact .unmade hs hurl hmake
      | ok p =>
        cases hnote : creationNote st with
        | ok line =>
          rw [adopt_noted hmake hnote]
          exact .made hs hurl hmake hnote
        | error why =>
          rw [adopt_unnoted hmake hnote]
          exact .unnoted hs hurl hmake hnote
    · have henter : s.acquire st connect = (s, .fail notConfigured) := by
        simp only [acquire, enter, hs, if_neg hurl]
      rw [henter]
      exact .unconfigured hs (by simpa using hurl)

theorem shared_of_acquire_ok {n : Nat} (h : (s.acquire st connect).2.result = .ok n) :
    (s.acquire st connect).1.shared = some n := by
  have hcases := acquires st connect s
  generalize s.acquire st connect = out at h hcases
  cases hcases with
  | shared present =>
    cases h
    exact present
  | unconfigured => exact nomatch h
  | unmade => exact nomatch h
  | made =>
    cases h
    rfl
  | unnoted => exact nomatch h

/-- **A pool is made, but that cannot be noted.** -/
def IsUnnoted (st : Settings) (connect : Connector) (s : Pools) (e : Failure) : Prop :=
  ∃ p why, (make st st.databaseUrl connect).result = .ok p ∧ creationNote st = .error why ∧
    e = .unwritten why ∧
    (s.acquire st connect).1 = { made := s.made ++ [p], shared := some s.made.length }

/-- Whoever does not get the shared pool leaves the pools as they are, unless it was made and only
its note fails. -/
theorem acquire_error {e : Failure} (h : (s.acquire st connect).2.result = .error e) :
    s.shared = none ∧ ((s.acquire st connect).1 = s ∧
        (∀ p, st.databaseUrl.isTruthy = true → (make st st.databaseUrl connect).result ≠ .ok p) ∨
      IsUnnoted st connect s e) := by
  have hcases := acquires st connect s
  unfold IsUnnoted
  generalize s.acquire st connect = out at h hcases ⊢
  cases hcases with
  | shared => exact nomatch h
  | unconfigured absent unset =>
    exact ⟨absent, .inl ⟨rfl, fun _ set => nomatch unset.symm.trans set⟩⟩
  | unmade absent _ failed =>
    exact ⟨absent, .inl ⟨rfl, fun p _ hp => nomatch failed.symm.trans hp⟩⟩
  | made => exact nomatch h
  | unnoted absent _ opened silent =>
    cases h
    exact ⟨absent, .inr ⟨_, _, opened, silent, rfl, rfl⟩⟩

/-- A pool is to be made only where none is shared and an address is configured. -/
theorem enter_eq_creating_iff {url : Value} :
    s.enter st = .creating url ↔
      s.shared = none ∧ st.databaseUrl.isTruthy = true ∧ url = st.databaseUrl := by
  unfold enter
  cases hs : s.shared with
  | some n => simp
  | none =>
    by_cases hurl : st.databaseUrl.isTruthy = true
    · simp [hurl, eq_comm]
    · simp [hurl]

/-- Where no pool is to be made, it does not matter what the client would do. -/
theorem acquire_congr (h : ∀ url, s.enter st ≠ .creating url) (connect connect' : Connector) :
    s.acquire st connect = s.acquire st connect' := by
  unfold acquire
  cases henter : s.enter st with
  | served n => rfl
  | refused why => rfl
  | creating url => exact absurd henter (h url)

/-! ### The open pools -/

theorem sound_nil : Sound {} := by
  intro n
  simp

/-- The pool that is made next to closed ones is the open one. -/
theorem Sound.made {p : Pool} (h : s.Sound) (absent : s.shared = none) (opened : p.closed = false) :
    Sound { made := s.made ++ [p], shared := some s.made.length } := by
  intro n
  constructor
  · rintro ⟨q, hq, hopen⟩
    rw [List.getElem?_append] at hq
    -- the pools from before are closed, as none of them is shared
    split at hq
    · have hn := (h n).1 ⟨q, hq, hopen⟩
      rw [absent] at hn
      exact nomatch hn
    · obtain ⟨hi, -⟩ := List.getElem?_eq_some_iff.1 hq
      simp only [List.length_singleton] at hi
      have hlast : s.made.length = n := by omega
      exact congrArg some hlast
  · intro hn
    cases hn
    exact ⟨p, List.getElem?_concat_length, opened⟩

theorem Sound.acquire (h : s.Sound) (st : Settings) (connect : Connector) :
    (s.acquire st connect).1.Sound := by
  have hcases := acquires st connect s
  generalize s.acquire st connect = out at hcases
  cases hcases with
  | shared => exact h
  | unconfigured => exact h
  | unmade => exact h
  | made absent _ opened => exact h.made absent (closed_of_make opened)
  | unnoted absent _ opened => exact h.made absent (closed_of_make opened)

/-- What changes a pool without closing it does not matter. -/
theorem Sound.modify (h : s.Sound) (m : Nat) {f : Pool → Pool} (hf : ∀ p, (f p).closed = p.closed) :
    Sound { s with made := s.made.modify m f } := by
  intro n
  rw [← h n]
  simp only [List.getElem?_modify]
  by_cases hm : m = n
  · cases s.made[n]? <;> simp [hm, hf]
  · simp [hm]

/-- When the shared pool closes, no pool is open any more. -/
theorem Sound.closed {n : Nat} (h : s.Sound) (present : s.shared = some n) :
    Sound { made := s.made.modify n fun p => { p with closed := true }, shared := none } := by
  intro m
  refine iff_of_false ?_ nofun
  rintro ⟨p, hp, hopen⟩
  rw [List.getElem?_modify] at hp
  obtain ⟨q, hq, rfl⟩ := Option.map_eq_some_iff.1 hp
  by_cases hm : n = m
  · rw [if_pos hm] at hopen
    exact nomatch hopen
  · rw [if_neg hm] at hopen
    have hshared := (h m).1 ⟨q, hq, hopen⟩
    exact hm (Option.some.inj (present.symm.trans hshared))

theorem Sound.close (h : s.Sound) (closed : Except Fault Unit) : (s.close closed).1.Sound := by
  unfold Pools.close
  cases hs : s.shared with
  | none => exact h
  | some n =>
    have hasked : (s.askToClose n).Sound := h.modify n fun _ => rfl
    cases closed with
    | ok done => exact hasked.closed hs
    | error f => exact hasked

/-- **Every turn keeps the pools sound.** -/
theorem Sound.apply (h : s.Sound) (t : Turn) : (t.apply s).Sound := by
  cases t with
  | acquire st connect => exact h.acquire st connect
  | fetch st room connect stmt => exact h.acquire st connect
  | close closed => exact h.close closed
  | answer n reply => exact h.modify n fun _ => rfl

theorem afterTurns_sound (ts : List Turn) : (afterTurns ts).Sound := by
  -- from any sound pools on, so that the induction goes through
  have hrun : ∀ (ts : List Turn) (s : Pools), s.Sound → (ts.foldl Turn.apply s).Sound := by
    intro ts
    induction ts with
    | nil => exact fun s h => h
    | cons t ts ih => exact fun s h => ih _ (h.apply t)
  exact hrun ts {} sound_nil

/-! ### The order of the calls -/

/-- **What calls do with the shared pool**, and what they leave behind where the client raises. -/
structure Orderly (s : Pools) : Prop where
  /-- One pool at most is open, and it is the shared one. -/
  opened : ∀ n, (∃ p, s.made[n]? = some p ∧ p.closed = false) ↔ s.shared = some n
  /-- A pool is asked for only where none is shared and an address is configured. -/
  creates : ∀ st url, s.enter st = .creating url ↔
    s.shared = none ∧ st.databaseUrl.isTruthy = true ∧ url = st.databaseUrl
  /-- Otherwise it does not matter what the client would make of it. -/
  unasked : ∀ st room connect connect' stmt, (∀ url, s.enter st ≠ .creating url) →
    s.acquire st connect = s.acquire st connect' ∧
      s.fetch st room connect stmt = s.fetch st room connect' stmt
  /-- Without an address, nothing happens but the failure by name. -/
  unconfigured : ∀ st connect, s.shared = none → st.databaseUrl.isTruthy = false →
    s.acquire st connect = (s, .fail notConfigured)
  /-- A pool that is not made is not shared, and the next call tries again. One that is made is
  shared before that is noted, and stays so if there is no such note. -/
  unmade : ∀ st connect e, (s.acquire st connect).2.result = .error e →
    s.shared = none ∧ ((s.acquire st connect).1 = s ∧
        (∀ p, st.databaseUrl.isTruthy = true → (make st st.databaseUrl connect).result ≠ .ok p) ∨
      IsUnnoted st connect s e)
  /-- A statement is only run on the shared pool, which is open and stays as it is: whatever comes
  of the statement is the answer of this pool. -/
  fetches : ∀ st room connect stmt n, (s.acquire st connect).2.result = .ok n →
    ∃ p, (s.fetch st room connect stmt).1 = (s.acquire st connect).1 ∧
      (s.fetch st room connect stmt).1.shared = some n ∧
      (s.fetch st room connect stmt).1.made[n]? = some p ∧ p.closed = false ∧
      (s.fetch st room connect stmt).2 =
        (Store.query room p.reply stmt).after (s.acquire st connect).2.events
  /-- Whoever does not get the shared pool runs no statement, and leaves the pools as they are after
  that. -/
  unfetched : ∀ st room connect stmt e, (s.acquire st connect).2.result = .error e →
    (s.fetch st room connect stmt).1 = (s.acquire st connect).1 ∧
      (s.fetch st room connect stmt).2 = ⟨(s.acquire st connect).2.events, .error e⟩
  /-- A pool that cannot be closed stays the shared one, and only the asking is noted. -/
  unclosed : ∀ closed e, (s.close closed).2.result = .error e →
    ∃ n, s.shared = some n ∧ (s.close closed).1.shared = some n ∧
      (s.close closed).1 = s.askToClose n

theorem fetch_of_acquire_error {e : Failure} (h : (s.acquire st connect).2.result = .error e) :
    (s.fetch st room connect stmt).2 = ⟨(s.acquire st connect).2.events, .error e⟩ := by
  simp only [fetch, Outcome.andThen, h]

theorem fetch_of_acquire_ok {n : Nat} {p : Pool} (h : (s.acquire st connect).2.result = .ok n)
    (hp : (s.acquire st connect).1.made[n]? = some p) :
    (s.fetch st room connect stmt).2 =
      (Store.query room p.reply stmt).after (s.acquire st connect).2.events := by
  simp only [fetch, Outcome.andThen, h, hp]

theorem close_error {closed : Except Fault Unit} {e : Failure}
    (h : (s.close closed).2.result = .error e) :
    ∃ n, s.shared = some n ∧ (s.close closed).1.shared = some n ∧
      (s.close closed).1 = s.askToClose n := by
  unfold close at h ⊢
  cases hs : s.shared with
  | none =>
    rw [hs] at h
    exact nomatch h
  | some n =>
    rw [hs] at h
    cases closed with
    | ok done => exact nomatch h
    | error f => exact ⟨n, rfl, hs, rfl⟩

theorem Sound.orderly (h : s.Sound) : s.Orderly where
  opened := h
  creates _ _ := enter_eq_creating_iff
  unasked st room connect connect' stmt hn := by
    have hsame := acquire_congr hn connect connect'
    refine ⟨hsame, ?_⟩
    unfold fetch
    rw [hsame]
  unconfigured st connect absent unset := by
    have hcases := acquires st connect s
    generalize s.acquire st connect = out at hcases ⊢
    cases hcases with
    | shared present => exact nomatch absent.symm.trans present
    | unconfigured => rfl
    | unmade absent set => exact absurd (unset.symm.trans set) nofun
    | made absent set => exact absurd (unset.symm.trans set) nofun
    | unnoted absent set => exact absurd (unset.symm.trans set) nofun
  unmade _ _ _ := acquire_error
  fetches st room connect stmt n hok := by
    have hshared := shared_of_acquire_ok hok
    obtain ⟨p, hp, hopen⟩ := (h.acquire st connect n).2 hshared
    exact ⟨p, rfl, hshared, hp, hopen, fetch_of_acquire_ok hok hp⟩
  unfetched _ _ _ _ _ he := ⟨rfl, fetch_of_acquire_error he⟩
  unclosed _ _ := close_error

/-- **Whatever calls come one after another**, with whatever settings and outcomes: an open pool is
the shared one, it is made only if there is none, and a step that fails leaves it as it was. -/
theorem afterTurns_orderly (ts : List Turn) : (afterTurns ts).Orderly :=
  (afterTurns_sound ts).orderly

end CatalogSearch.Pools
