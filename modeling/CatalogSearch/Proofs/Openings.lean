import CatalogSearch.Proofs.StoreFaults
import CatalogSearch.Store.Callers

/-!
# Callers that want the shared pool at once

Any number of callers want the shared pool while there is none. They take turns in any order, a
creation may fail, and whoever waited for the lock tries again. If a pool was made and that cannot
be noted, the one who made it is refused, and the others have it all the same. Between two turns the
callers stand together in one of three ways: nobody creates and there is still no pool, one of them
holds the lock and creates, or the pool has been made and is shared.

* `Crowd.Move`, `Crowd.play`: one turn of one caller, and any number of them.
* `Crowd.play_induction`: what every turn keeps, all of them keep.
* `Crowd.Opened`: the pool has been made; nobody creates another one from then on.
* `Crowd.Phase`: the three ways to stand; every turn leads from one to one.
* `Crowd.play_onePool`: what callers that want the pool at once get.
-/

namespace CatalogSearch.Crowd

/-- **One turn**: whose it is, the settings of its time, and what the client of the store does if it
is asked to connect or to close. -/
structure Move where
  caller : Nat
  settings : Settings
  connect : Connector
  closed : Except Fault Unit

/-- The turns of the callers, one after the other. -/
def play (c : Crowd) (ms : List Move) : Crowd :=
  ms.foldl (fun c m => c.step m.settings m.connect m.closed m.caller) c

/-- What every turn keeps, all of them keep. -/
theorem play_induction {P : Crowd → Prop}
    (hstep : ∀ c st connect closed i, P c → P (step st connect closed c i)) {c : Crowd} (h : P c)
    (ms : List Move) : P (c.play ms) := by
  induction ms generalizing c with
  | nil => exact h
  | cons m ms ih => exact ih (hstep c m.settings m.connect m.closed m.caller h)

variable {st : Settings} {connect : Connector} {closed : Except Fault Unit} {c : Crowd} {i : Nat}
variable {s : Pools}

/-! ### One turn of a caller that wants the pool -/

theorem step_absent (h : c.callers[i]? = none) : c.step st connect closed i = c := by
  simp only [step, h]

theorem step_finished {k : Caller} (h : c.callers[i]? = some k)
    (hk : (∃ n, k = .opens (.served n)) ∨ ∃ why, k = .opens (.refused why)) :
    c.step st connect closed i = c := by
  obtain ⟨n, rfl⟩ | ⟨why, rfl⟩ := hk <;> simp only [step, h]

theorem step_queued_locked (h : c.callers[i]? = some (.opens .queued)) (hl : c.locked = true) :
    c.step st connect closed i = c := by
  simp only [step, h, if_pos hl]

theorem step_queued_free (h : c.callers[i]? = some (.opens .queued)) (hl : c.locked = false) :
    c.step st connect closed i = c.enter st i := by
  simp only [step, h, hl, Bool.false_eq_true, if_false]

theorem step_arriving_shared {n : Nat} (h : c.callers[i]? = some (.opens .arriving))
    (hs : c.pools.shared = some n) :
    c.step st connect closed i = c.put i (.opens (.served n)) := by
  simp only [step, h, hs]

theorem step_arriving_locked (h : c.callers[i]? = some (.opens .arriving))
    (hs : c.pools.shared = none) (hl : c.locked = true) :
    c.step st connect closed i = c.put i (.opens .queued) := by
  simp only [step, h, hs, if_pos hl]

theorem step_arriving_free (h : c.callers[i]? = some (.opens .arriving))
    (hs : c.pools.shared = none) (hl : c.locked = false) :
    c.step st connect closed i = c.enter st i := by
  simp only [step, h, hs, hl, Bool.false_eq_true, if_false]

theorem step_creating {url : Value} (h : c.callers[i]? = some (.opens (.creating url))) :
    c.step st connect closed i = c.adopt st (Pools.make st url connect) i := by
  simp only [step, h]

theorem enter_shared {n : Nat} (hs : c.pools.shared = some n) :
    c.enter st i = c.put i (.opens (.served n)) := by
  simp only [enter, Pools.enter, hs]

/-- Whoever has the lock where no pool is shared makes one or is refused. -/
theorem enter_unshared (st : Settings) (i : Nat) (hs : c.pools.shared = none) :
    (∃ why, c.enter st i = c.put i (.opens (.refused why))) ∨
      ∃ url, c.enter st i = { c.put i (.opens (.creating url)) with locked := true } := by
  simp only [enter, Pools.enter, hs]
  by_cases hurl : st.databaseUrl.isTruthy = true
  · rw [if_pos hurl]
    exact .inr ⟨_, rfl⟩
  · rw [if_neg hurl]
    exact .inl ⟨_, rfl⟩

/-- A pool was to be made: there is one more now, and the caller has it or is refused as that cannot
be noted; or all is as it was and the caller is refused. The lock is free in all cases. -/
theorem adopt_cases (st : Settings) (made : Outcome Effect Pool) (c : Crowd) (i : Nat) :
    (∃ p k events, (k = .opens (.served c.pools.made.length) ∨ ∃ why, k = .opens (.refused why)) ∧
        c.adopt st made i =
          ⟨{ made := c.pools.made ++ [p], shared := some c.pools.made.length }, false,
            c.callers.set i k, events⟩) ∨
      ∃ why events, c.adopt st made i =
        ⟨c.pools, false, c.callers.set i (.opens (.refused why)), events⟩ := by
  unfold adopt
  cases hmade : made.result with
  | ok p =>
    left
    cases hnote : Pools.creationNote st with
    | ok line =>
      rw [Pools.adopt_noted hmade hnote]
      exact ⟨p, _, _, .inl rfl, rfl⟩
    | error why =>
      rw [Pools.adopt_unnoted hmade hnote]
      exact ⟨p, _, _, .inr ⟨_, rfl⟩, rfl⟩
  | error why =>
    rw [Pools.adopt_of_error hmade]
    exact .inr ⟨why, _, rfl⟩

/-! ### The ways to stand -/

/-- A caller that neither creates a pool nor has one. -/
inductive Idle : Caller → Prop where
  | arriving : Idle (.opens .arriving)
  | queued : Idle (.opens .queued)
  | refused (why : Failure) : Idle (.opens (.refused why))

/-- A caller in a list in which one place was changed. -/
theorem of_mem_set {P : Caller → Prop} {ks : List Caller} {k : Caller} (hk : P k)
    (h : ∀ x ∈ ks, P x) : ∀ x ∈ ks.set i k, P x := by
  intro x hx
  obtain hx | rfl := List.mem_or_eq_of_mem_set hx
  · exact h x hx
  · exact hk

/-- Who stands where after one place was changed. -/
theorem of_getElem?_set {ks : List Caller} {i j : Nat} {new k : Caller}
    (h : (ks.set i new)[j]? = some k) : j = i ∧ k = new ∨ j ≠ i ∧ ks[j]? = some k := by
  rw [List.getElem?_set] at h
  by_cases hj : i = j
  · rw [if_pos hj] at h
    split at h
    · exact .inl ⟨hj.symm, (Option.some.inj h).symm⟩
    · exact nomatch h
  · rw [if_neg hj] at h
    exact .inr ⟨Ne.symm hj, h⟩

/-- **The pool has been made**: `p` is the one that is shared, the lock is free, and whoever was
served has this pool. -/
structure Opened (s : Pools) (p : Pool) (c : Crowd) : Prop where
  pools : c.pools = { made := s.made ++ [p], shared := some s.made.length }
  free : c.locked = false
  callers : ∀ k ∈ c.callers, Idle k ∨ k = .opens (.served s.made.length)

/-- **How callers stand together that found no pool**: still without one, with one of them
creating it, or with the pool. -/
inductive Phase (s : Pools) (c : Crowd) : Prop where
  | idle (pools : c.pools = s) (free : c.locked = false) (callers : ∀ k ∈ c.callers, Idle k)
  | creating (i : Nat) (url : Value) (pools : c.pools = s) (held : c.locked = true)
    (holder : c.callers[i]? = some (.opens (.creating url)))
    (others : ∀ j k, j ≠ i → c.callers[j]? = some k → Idle k)
  | opened (p : Pool) (h : Opened s p c)

/-- **Once the pool has been made, it stays**, and nobody creates another one. -/
theorem Opened.step {p : Pool} (h : Opened s p c) (st : Settings) (connect : Connector)
    (closed : Except Fault Unit) (i : Nat) : Opened s p (c.step st connect closed i) := by
  have hshared : c.pools.shared = some s.made.length := by rw [h.pools]
  have hserved : Opened s p (c.put i (.opens (.served s.made.length))) :=
    ⟨h.pools, h.free, of_mem_set (.inr rfl) h.callers⟩
  cases hi : c.callers[i]? with
  | none =>
    rw [step_absent hi]
    exact h
  | some k =>
    obtain hk | rfl := h.callers k (List.mem_of_getElem? hi)
    · cases hk with
      | arriving =>
        rw [step_arriving_shared hi hshared]
        exact hserved
      | queued =>
        rw [step_queued_free hi h.free, enter_shared hshared]
        exact hserved
      | refused why =>
        rw [step_finished hi (.inr ⟨why, rfl⟩)]
        exact h
    · rw [step_finished hi (.inl ⟨_, rfl⟩)]
      exact h

theorem Opened.play {p : Pool} (h : Opened s p c) (ms : List Move) : Opened s p (c.play ms) :=
  play_induction (fun _ st connect closed i hc => hc.step st connect closed i) h ms

/-- The caller that has the lock while there is no pool. -/
theorem Phase.enter (absent : s.shared = none) (pools : c.pools = s) (free : c.locked = false)
    (callers : ∀ k ∈ c.callers, Idle k) (hi : i < c.callers.length) : Phase s (c.enter st i) := by
  have hshared : c.pools.shared = none := by rw [pools, absent]
  obtain ⟨why, henter⟩ | ⟨url, henter⟩ := enter_unshared st i hshared
  · rw [henter]
    exact .idle pools free (of_mem_set (.refused why) callers)
  · rw [henter]
    refine .creating i url pools rfl (List.getElem?_set_self hi) ?_
    intro j k hj hk
    have hk' : c.callers[j]? = some k := (List.getElem?_set_ne (Ne.symm hj)).symm.trans hk
    exact callers k (List.mem_of_getElem? hk')

/-- The caller that creates has its pool, or it is refused: then the others have the pool, or the
next one may try. -/
theorem Phase.adopt (made : Outcome Effect Pool) (pools : c.pools = s)
    (others : ∀ j k, j ≠ i → c.callers[j]? = some k → Idle k) : Phase s (c.adopt st made i) := by
  have hset : ∀ {new k : Caller}, k ∈ c.callers.set i new → Idle k ∨ k = new := by
    intro new k hk
    obtain ⟨j, hj⟩ := List.mem_iff_getElem?.1 hk
    obtain ⟨-, rfl⟩ | ⟨hne, hj⟩ := of_getElem?_set hj
    · exact .inr rfl
    · exact .inl (others j k hne hj)
  obtain ⟨p, new, events, hnew, hadopt⟩ | ⟨why, events, hadopt⟩ := adopt_cases st made c i
  · rw [pools] at hnew
    rw [hadopt, pools]
    refine .opened p ⟨rfl, rfl, fun k hk => ?_⟩
    obtain hidle | rfl := hset hk
    · exact .inl hidle
    · obtain hserved | ⟨why, rfl⟩ := hnew
      · exact .inr hserved
      · exact .inl (.refused why)
  · rw [hadopt]
    refine .idle pools rfl fun k hk => ?_
    obtain hidle | rfl := hset hk
    · exact hidle
    · exact .refused why

/-- **Every turn leads from one way to stand to one.** -/
theorem Phase.step (absent : s.shared = none) (h : Phase s c) (st : Settings) (connect : Connector)
    (closed : Except Fault Unit) (i : Nat) : Phase s (c.step st connect closed i) := by
  cases hi : c.callers[i]? with
  | none =>
    rw [step_absent hi]
    exact h
  | some k =>
    obtain ⟨hlt, -⟩ := List.getElem?_eq_some_iff.1 hi
    cases h with
    | idle pools free callers =>
      -- the lock is free: whoever comes first has it
      have hshared : c.pools.shared = none := by rw [pools, absent]
      cases callers k (List.mem_of_getElem? hi) with
      | arriving =>
        rw [step_arriving_free hi hshared free]
        exact .enter absent pools free callers hlt
      | queued =>
        rw [step_queued_free hi free]
        exact .enter absent pools free callers hlt
      | refused why =>
        rw [step_finished hi (.inr ⟨why, rfl⟩)]
        exact .idle pools free callers
    | creating j url pools held holder others =>
      -- only the holder of the lock moves on; the others come no further than the queue
      have hshared : c.pools.shared = none := by rw [pools, absent]
      by_cases hj : i = j
      · subst hj
        rw [step_creating holder]
        exact .adopt _ pools others
      · cases others i k hj hi with
        | arriving =>
          rw [step_arriving_locked hi hshared held]
          refine .creating j url pools held ((List.getElem?_set_ne hj).trans holder) ?_
          intro m x hm hx
          obtain ⟨-, rfl⟩ | ⟨-, hx⟩ := of_getElem?_set hx
          · exact .queued
          · exact others m x hm hx
        | queued =>
          rw [step_queued_locked hi held]
          exact .creating j url pools held holder others
        | refused why =>
          rw [step_finished hi (.inr ⟨why, rfl⟩)]
          exact .creating j url pools held holder others
    | opened p hp => exact .opened p (hp.step st connect closed i)

theorem Phase.play (absent : s.shared = none) (h : Phase s c) (ms : List Move) :
    Phase s (c.play ms) :=
  play_induction (fun _ st connect closed i hc => hc.step absent st connect closed i) h ms

/-! ### What the callers get -/

/-- **One pool for all**: what holds of callers that found pools `s` without a shared one. -/
structure OnePool (s : Pools) (c : Crowd) : Prop where
  /-- At most one caller is creating a pool. -/
  inFlight : ∀ (i j : Nat) (url url' : Value), c.callers[i]? = some (.opens (.creating url)) →
    c.callers[j]? = some (.opens (.creating url')) → i = j
  /-- At most one pool has been made. -/
  made : c.pools.made = s.made ∨ ∃ p, c.pools.made = s.made ++ [p]
  /-- Once one has been made, the pools stay as they are, and nobody creates any more. -/
  settled : c.pools.made ≠ s.made → ∀ ms, (c.play ms).pools = c.pools ∧
    ∀ url, Caller.opens (.creating url) ∉ (c.play ms).callers
  /-- Whoever has a pool has the one that was made, and it is the shared one. -/
  served : ∀ n, Caller.opens (.served n) ∈ c.callers →
    n = s.made.length ∧ c.pools.shared = some n ∧ ∃ p, c.pools.made = s.made ++ [p]

theorem Opened.not_creating {p : Pool} (h : Opened s p c) (url : Value) :
    Caller.opens (.creating url) ∉ c.callers := by
  intro hmem
  obtain hidle | heq := h.callers _ hmem
  · exact nomatch hidle
  · exact nomatch heq

theorem Opened.onePool {p : Pool} (h : Opened s p c) : OnePool s c where
  inFlight _ _ url _ hi _ := absurd (List.mem_of_getElem? hi) (h.not_creating url)
  made := .inr ⟨p, by rw [h.pools]⟩
  settled _ ms := ⟨(h.play ms).pools.trans h.pools.symm, (h.play ms).not_creating⟩
  served n hn := by
    obtain hidle | heq := h.callers _ hn
    · exact nomatch hidle
    · cases heq
      rw [h.pools]
      exact ⟨rfl, rfl, p, rfl⟩

theorem Phase.onePool (h : Phase s c) : OnePool s c := by
  cases h with
  | idle pools free callers =>
    exact {
      inFlight := fun _ _ _ _ hi _ => nomatch callers _ (List.mem_of_getElem? hi)
      made := .inl (by rw [pools])
      settled := fun hne => absurd (by rw [pools]) hne
      served := fun _ hn => nomatch callers _ hn }
  | creating i url pools held holder others =>
    have hidle : ∀ {j k}, c.callers[j]? = some k → ¬ Idle k → j = i := by
      intro j k hj hk
      by_cases hji : j = i
      · exact hji
      · exact absurd (others j k hji hj) hk
    exact {
      inFlight := fun _ _ _ _ hi hj => (hidle hi nofun).trans (hidle hj nofun).symm
      made := .inl (by rw [pools])
      settled := fun hne => absurd (by rw [pools]) hne
      served := fun n hn => by
        obtain ⟨j, hj⟩ := List.mem_iff_getElem?.1 hn
        cases hidle hj nofun
        exact nomatch holder.symm.trans hj }
  | opened p hp => exact hp.onePool

/-- Before anybody has taken a turn. -/
theorem Phase.start {callers : List Caller}
    (start : ∀ k ∈ callers, k = .opens .arriving ∨ k = .opens .queued) :
    Phase s { pools := s, callers := callers } := by
  refine .idle rfl rfl fun k hk => ?_
  obtain rfl | rfl := start k hk
  · exact .arriving
  · exact .queued

/-- Callers that take turns in rounds until each of them has finished. -/
theorem openAll_onePool (absent : s.shared = none) (st : Settings) (connect : Connector) (n : Nat) :
    OnePool s (openAll st connect n s) := by
  have hstart : Phase s { pools := s, callers := List.replicate n (.opens .arriving) } :=
    .start fun k hk => .inl (List.eq_of_mem_replicate hk)
  have hrun := (hstart.play absent (((List.replicate (n + 2) (List.range n)).flatten).map
    fun i => ⟨i, st, connect, .ok ()⟩)).onePool
  rw [play, List.foldl_map] at hrun
  exact hrun

/-- **Callers that want the pool at once share one**, whatever their number, their turns, the
settings and the outcomes of the creations. Whoever has to wait for a lock that is free stands in
the queue from the start. -/
theorem play_onePool {callers : List Caller} (absent : s.shared = none)
    (start : ∀ k ∈ callers, k = .opens .arriving ∨ k = .opens .queued) (ms : List Move) :
    OnePool s (play { pools := s, callers := callers } ms) :=
  ((Phase.start start).play absent ms).onePool

/-- The first creation fails, a caller that waited makes the pool, and the third one shares it. -/
theorem play_onePool_retried :
    let st : Settings := { databaseUrl := .text "postgresql://h/db" }
    let turn (i : Nat) (connect : Connector) : Move := ⟨i, st, connect, .ok ()⟩
    let refusing : Connector := .error ⟨.system, "no route"⟩
    let accepting : Connector := .ok fun _ => .ok []
    let start : Crowd := { callers := List.replicate 3 (.opens .arriving) }
    let c := start.play
      [turn 0 refusing, turn 1 refusing, turn 2 accepting, turn 0 refusing, turn 2 accepting,
        turn 1 accepting, turn 2 accepting, turn 1 accepting]
    OnePool {} c ∧
      (c.callers.map fun k => match k with | .opens (.served n) => some n | _ => none) =
        [none, some 0, some 0] := by
  intro st turn refusing accepting start c
  refine ⟨play_onePool rfl (fun k hk => .inl (List.eq_of_mem_replicate hk)) _, ?_⟩
  decide +kernel

end CatalogSearch.Crowd
