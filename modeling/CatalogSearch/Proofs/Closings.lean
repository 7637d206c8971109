import Mathlib.Data.List.Induction
import CatalogSearch.Proofs.Openings

/-!
# Callers that open and close the shared pool at once

Pools are made under a lock and closed without it: a closer asks the shared pool to close, waits,
and only then takes it away, whichever pool is shared by that time. While one closer waits this is the
pool that it asked. When two of them wait for the same pool, the first one makes room for a new
pool, and the second one takes the new one away: nobody has asked it to close, and nobody can reach
it any more.

* `Crowd.Stretch`: what a turn does, whoever takes it.
* `Pools.Lost`: a pool that is neither shared nor asked to close; it stays lost.
* `Crowd.TakesAnother`: the turn that loses a pool.
* `Crowd.play_losesNone_iff`: no pool is lost iff there is no such turn.
* `Crowd.play_losesPool`: two closers and an opener between them.
-/

namespace CatalogSearch

namespace Pools

/-- How often a pool was asked to close, if it was made. -/
def closings? (s : Pools) (n : Nat) : Option Nat := (s.made.map Pool.closings)[n]?

/-- **A pool that is lost**: it was made, nobody asked it to close, and it is not the shared one. -/
def Lost (s : Pools) (n : Nat) : Prop := s.closings? n = some 0 ∧ s.shared ≠ some n

variable {s : Pools} {n k : Nat}

theorem closings?_isSome_iff : (s.closings? n).isSome = true ↔ n < s.made.length := by
  simp [closings?]

theorem lt_of_closings? (h : s.closings? n = some k) : n < s.made.length :=
  closings?_isSome_iff.1 (by rw [h]; rfl)

/-- A pool that is made leaves the others as they are. -/
theorem closings?_made (h : n < s.made.length) (p : Pool) (shared : Option Nat) :
    closings? { made := s.made ++ [p], shared := shared } n = s.closings? n := by
  unfold closings?
  rw [List.map_append, List.getElem?_append_left (by rwa [List.length_map])]

/-- To close is not to ask. -/
theorem closings?_closed (m : Nat) (shared : Option Nat) :
    closings?
        { made := s.made.modify m fun p => { p with closed := true }, shared := shared } n =
      s.closings? n := by
  unfold closings?
  rw [List.getElem?_map, List.getElem?_map, List.getElem?_modify]
  by_cases h : m = n <;> cases s.made[n]? <;> simp [h]

theorem closings?_askToClose (m : Nat) :
    (s.askToClose m).closings? n =
      if m = n then (s.closings? n).map (· + 1) else s.closings? n := by
  unfold closings? askToClose
  rw [List.getElem?_map, List.getElem?_map, List.getElem?_modify]
  by_cases h : m = n <;> cases s.made[n]? <;> simp [h]

/-- A pool was asked to close. -/
def Asked (s : Pools) (n : Nat) : Prop := ∃ k, s.closings? n = some (k + 1)

theorem Asked.made (h : s.Asked n) (p : Pool) (shared : Option Nat) :
    Asked { made := s.made ++ [p], shared := shared } n := by
  obtain ⟨k, hk⟩ := h
  exact ⟨k, by rw [closings?_made (lt_of_closings? hk), hk]⟩

theorem Asked.closed (h : s.Asked n) (m : Nat) (shared : Option Nat) :
    Asked { made := s.made.modify m fun p => { p with closed := true }, shared := shared } n := by
  obtain ⟨k, hk⟩ := h
  exact ⟨k, by rw [closings?_closed, hk]⟩

theorem Asked.askToClose (h : s.Asked n) (m : Nat) : (s.askToClose m).Asked n := by
  obtain ⟨k, hk⟩ := h
  unfold Asked
  rw [closings?_askToClose, hk]
  split
  · exact ⟨k + 1, rfl⟩
  · exact ⟨k, rfl⟩

theorem asked_askToClose (h : n < s.made.length) : (s.askToClose n).Asked n := by
  obtain ⟨k, hk⟩ := Option.isSome_iff_exists.1 (closings?_isSome_iff.2 h)
  exact ⟨k, by rw [closings?_askToClose, if_pos rfl, hk]; rfl⟩

end Pools

namespace Crowd

variable {st : Settings} {connect : Connector} {closed : Except Fault Unit} {c c' : Crowd} {i : Nat}

/-! ### What a turn does -/

/-- A caller that waits neither for a pool to be made nor for one to be closed. -/
structure Unbound (k : Caller) : Prop where
  notCreating : ∀ url, k ≠ .opens (.creating url)
  notWaiting : ∀ n, k ≠ .closes (.waiting n)

/-- **What a turn does**, whoever takes it. -/
inductive Stretch (closed : Except Fault Unit) (c : Crowd) (i : Nat) (c' : Crowd) : Prop where
  /-- The caller waits for the lock or has finished. -/
  | rests (moved : c' = c)
  /-- The caller finds out how the pools stand. -/
  | looks {k : Caller} (moved : c' = c.put i k) (unbound : Unbound k)
  /-- The caller takes the lock to make a pool. -/
  | locks {url : Value} (absent : c.pools.shared = none) (free : c.locked = false)
    (moved : c' = { c.put i (.opens (.creating url)) with locked := true })
  /-- The pool of the caller has been made. -/
  | adopts {url : Value} {p : Pool} {k : Caller} {events : List Effect}
    (creating : c.callers[i]? = some (.opens (.creating url)))
    (moved : c' =
      ⟨{ made := c.pools.made ++ [p], shared := some c.pools.made.length }, false,
        c.callers.set i k, events⟩) (unbound : Unbound k)
  /-- The pool of the caller has not been made. -/
  | forgoes {url : Value} {why : Failure} {events : List Effect}
    (creating : c.callers[i]? = some (.opens (.creating url)))
    (moved : c' = ⟨c.pools, false, c.callers.set i (.opens (.refused why)), events⟩)
  /-- The caller asks the shared pool to close. -/
  | asks {n : Nat} (arriving : c.callers[i]? = some (.closes .arriving))
    (present : c.pools.shared = some n)
    (moved : c' = { c.put i (.closes (.waiting n)) with pools := c.pools.askToClose n })
  /-- The pool that the caller asked has closed. -/
  | takes {n : Nat} {events : List Effect} (waiting : c.callers[i]? = some (.closes (.waiting n)))
    (success : closed = .ok ())
    (moved : c' =
      ⟨{ made := c.pools.made.modify n fun p => { p with closed := true }, shared := none },
        c.locked, c.callers.set i (.closes .done), events⟩)
  /-- The pool that the caller asked has not closed. -/
  | leaves {n : Nat} {why : Failure} {events : List Effect}
    (waiting : c.callers[i]? = some (.closes (.waiting n)))
    (moved : c' = ⟨c.pools, c.locked, c.callers.set i (.closes (.refused why)), events⟩)

/-- A caller that has the lock is served or refused, or it makes a pool. -/
theorem stretch_enter (free : c.locked = false) : Stretch closed c i (c.enter st i) := by
  cases hs : c.pools.shared with
  | some n => exact .looks (enter_shared hs) ⟨by simp, by simp⟩
  | none =>
    obtain ⟨why, henter⟩ | ⟨url, henter⟩ := enter_unshared st i hs
    · exact .looks henter ⟨by simp, by simp⟩
    · exact .locks hs free henter

theorem stretch_release {n : Nat} (h : c.callers[i]? = some (.closes (.waiting n))) :
    Stretch closed c i (c.release n closed i) := by
  cases closed with
  | ok done => exact .takes h rfl rfl
  | error f => exact .leaves h rfl

/-- **Every turn is one of these.** -/
theorem stretch_step (st : Settings) (connect : Connector) (closed : Except Fault Unit) (c : Crowd)
    (i : Nat) : Stretch closed c i (c.step st connect closed i) := by
  cases hi : c.callers[i]? with
  | none => exact .rests (step_absent hi)
  | some k =>
    cases k with
    | opens stage =>
      cases stage with
      | arriving =>
        cases hs : c.pools.shared with
        | some n => exact .looks (step_arriving_shared hi hs) ⟨by simp, by simp⟩
        | none =>
          cases hl : c.locked with
          | true => exact .looks (step_arriving_locked hi hs hl) ⟨by simp, by simp⟩
          | false =>
            rw [step_arriving_free hi hs hl]
            exact stretch_enter hl
      | queued =>
        cases hl : c.locked with
        | true => exact .rests (step_queued_locked hi hl)
        | false =>
          rw [step_queued_free hi hl]
          exact stretch_enter hl
      | creating url =>
        rw [step_creating hi]
        obtain ⟨p, k, events, hk, hadopt⟩ | ⟨why, events, hadopt⟩ :=
          adopt_cases st (Pools.make st url connect) c i
        · refine .adopts hi hadopt ?_
          obtain rfl | ⟨why, rfl⟩ := hk <;> exact ⟨by simp, by simp⟩
        · exact .forgoes hi hadopt
      | served n => exact .rests (step_finished hi (.inl ⟨n, rfl⟩))
      | refused why => exact .rests (step_finished hi (.inr ⟨why, rfl⟩))
    | closes stage =>
      cases stage with
      | arriving =>
        cases hs : c.pools.shared with
        | none =>
          have hstep : c.step st connect closed i = c.put i (.closes .done) := by
            simp only [step, hi, hs]
          exact .looks hstep ⟨by simp, by simp⟩
        | some n => exact .asks hi hs (by simp only [step, hi, hs])
      | waiting n =>
        have hstep : c.step st connect closed i = c.release n closed i := by simp only [step, hi]
        rw [hstep]
        exact stretch_release hi
      | done => exact .rests (by simp only [step, hi])
      | refused why => exact .rests (by simp only [step, hi])

/-- **What becomes of the pools** in a turn. -/
inductive Changes (closed : Except Fault Unit) (c : Crowd) (i : Nat) : Pools → Prop where
  | kept : Changes closed c i c.pools
  | made {url : Value} (p : Pool) (creating : c.callers[i]? = some (.opens (.creating url))) :
    Changes closed c i { made := c.pools.made ++ [p], shared := some c.pools.made.length }
  | asked {n : Nat} (present : c.pools.shared = some n) : Changes closed c i (c.pools.askToClose n)
  | taken {n : Nat} (waiting : c.callers[i]? = some (.closes (.waiting n)))
    (success : closed = .ok ()) :
    Changes closed c i
      { made := c.pools.made.modify n fun p => { p with closed := true }, shared := none }

theorem Stretch.changes (h : Stretch closed c i c') : Changes closed c i c'.pools := by
  cases h with
  | rests moved => rw [moved]; exact .kept
  | looks moved _ => rw [moved]; exact .kept
  | locks _ _ moved => rw [moved]; exact .kept
  | adopts creating moved _ => rw [moved]; exact .made _ creating
  | forgoes _ moved => rw [moved]; exact .kept
  | asks _ present moved => rw [moved]; exact .asked present
  | takes waiting success moved => rw [moved]; exact .taken waiting success
  | leaves _ moved => rw [moved]; exact .kept

/-! ### How callers stand together -/

/-- **What holds of callers at any time**, between two turns. -/
structure InOrder (c : Crowd) : Prop where
  /-- While a pool is made none is shared. -/
  creating : ∀ (i : Nat) url, c.callers[i]? = some (.opens (.creating url)) →
    c.locked = true ∧ c.pools.shared = none
  /-- One caller at most makes a pool. -/
  alone : ∀ (i j : Nat) url url', c.callers[i]? = some (.opens (.creating url)) →
    c.callers[j]? = some (.opens (.creating url')) → i = j
  /-- A pool that a caller waits for was asked to close. -/
  asked : ∀ (i : Nat) n, c.callers[i]? = some (.closes (.waiting n)) → c.pools.Asked n
  /-- The shared pool was made. -/
  known : ∀ n, c.pools.shared = some n → n < c.pools.made.length

/-- The caller that makes a pool is the only one. -/
theorem InOrder.others (h : InOrder c) {url : Value}
    (creating : c.callers[i]? = some (.opens (.creating url))) {j : Nat} (hj : j ≠ i)
    (url' : Value) : c.callers[j]? ≠ some (.opens (.creating url')) :=
  fun hother => hj (h.alone j i url' url hother creating)

/-- Nobody makes a pool while one is shared. -/
theorem InOrder.not_creating (h : InOrder c) {n : Nat} (present : c.pools.shared = some n) (j : Nat)
    (url : Value) : c.callers[j]? ≠ some (.opens (.creating url)) :=
  fun hj => nomatch (h.creating j url hj).2.symm.trans present

/-- **A turn keeps the callers in order** if it does so with the pools, as far as the callers are
concerned that make one or wait for one. -/
theorem InOrder.moved (h : InOrder c) {pools : Pools} {locked : Bool} {events : List Effect}
    {k : Caller}
    (makes : ∀ url, k = .opens (.creating url) → locked = true ∧ pools.shared = none ∧
      ∀ (j : Nat) url', j ≠ i → c.callers[j]? ≠ some (.opens (.creating url')))
    (waits : ∀ n, k = .closes (.waiting n) → pools.Asked n)
    (creating : ∀ (j : Nat) url, j ≠ i → c.callers[j]? = some (.opens (.creating url)) →
      locked = true ∧ pools.shared = none)
    (asked : ∀ n, c.pools.Asked n → pools.Asked n)
    (known : ∀ n, pools.shared = some n → n < pools.made.length) :
    InOrder ⟨pools, locked, c.callers.set i k, events⟩ where
  creating j url hj := by
    obtain ⟨-, hk⟩ | ⟨hne, hj⟩ := of_getElem?_set hj
    · exact ⟨(makes url hk.symm).1, (makes url hk.symm).2.1⟩
    · exact creating j url hne hj
  alone j l url url' hj hl := by
    obtain ⟨hji, hk⟩ | ⟨hji, hj⟩ := of_getElem?_set hj
    · obtain ⟨hli, -⟩ | ⟨hli, hl⟩ := of_getElem?_set hl
      · exact hji.trans hli.symm
      · exact absurd hl ((makes url hk.symm).2.2 l url' hli)
    · obtain ⟨-, hk⟩ | ⟨-, hl⟩ := of_getElem?_set hl
      · exact absurd hj ((makes url' hk.symm).2.2 j url hji)
      · exact h.alone j l url url' hj hl
  asked j n hj := by
    obtain ⟨-, hk⟩ | ⟨-, hj⟩ := of_getElem?_set hj
    · exact waits n hk.symm
    · exact asked n (h.asked j n hj)
  known := known

/-- **Every turn keeps the callers in order.** -/
theorem InOrder.stretch (h : InOrder c) (hstretch : Stretch closed c i c') : InOrder c' := by
  cases hstretch with
  | rests moved =>
    subst moved
    exact h
  | looks moved unbound =>
    subst moved
    exact h.moved (fun url hk => absurd hk (unbound.notCreating url))
      (fun n hk => absurd hk (unbound.notWaiting n)) (fun j url _ => h.creating j url)
      (fun _ => id) h.known
  | locks absent free moved =>
    subst moved
    -- nobody has made a pool so far, as the lock was free
    have hnone : ∀ (j : Nat) url, c.callers[j]? ≠ some (.opens (.creating url)) := fun j url hj =>
      nomatch (h.creating j url hj).1.symm.trans free
    exact h.moved (fun _ _ => ⟨rfl, absent, fun j url' _ => hnone j url'⟩) nofun
      (fun j url _ hj => absurd hj (hnone j url)) (fun _ => id) h.known
  | adopts creating moved unbound =>
    subst moved
    refine h.moved (fun url hk => absurd hk (unbound.notCreating url))
      (fun n hk => absurd hk (unbound.notWaiting n))
      (fun j url hj hother => absurd hother (h.others creating hj url))
      (fun n hn => hn.made _ _) fun n hn => ?_
    cases hn
    simp
  | forgoes creating moved =>
    subst moved
    exact h.moved nofun nofun (fun j url hj hother => absurd hother (h.others creating hj url))
      (fun _ => id) h.known
  | asks arriving present moved =>
    subst moved
    refine h.moved nofun (fun n hk => ?_)
      (fun j url _ hj => absurd hj (h.not_creating present j url))
      (fun n hn => hn.askToClose _) fun n hn => ?_
    · cases hk
      exact Pools.asked_askToClose (h.known _ present)
    · simpa [Pools.askToClose] using h.known n hn
  | takes waiting success moved =>
    subst moved
    exact h.moved nofun nofun (fun j url _ hj => ⟨(h.creating j url hj).1, rfl⟩)
      (fun n hn => hn.closed _ _) nofun
  | leaves waiting moved =>
    subst moved
    exact h.moved nofun nofun (fun j url _ => h.creating j url) (fun _ => id) h.known

theorem InOrder.play (h : InOrder c) (ms : List Move) : InOrder (c.play ms) :=
  play_induction (fun _ st connect closed i hc => hc.stretch (stretch_step st connect closed _ i))
    h ms

/-! ### Pools that are lost -/

/-- **The turn that loses a pool**: a closer has waited for one pool, and now that it goes on
another one is shared, which nobody has asked to close. -/
def TakesAnother (c : Crowd) (m : Move) : Prop :=
  ∃ n k, c.callers[m.caller]? = some (.closes (.waiting n)) ∧ m.closed = .ok () ∧
    c.pools.shared = some k ∧ k ≠ n ∧ c.pools.closings? k = some 0

theorem step_waiting {n : Nat} (h : c.callers[i]? = some (.closes (.waiting n))) :
    c.step st connect closed i = c.release n closed i := by
  simp only [step, h]

/-- The pool that is taken away unasked is lost. -/
theorem TakesAnother.lost {m : Move} (h : c.TakesAnother m) :
    ∃ k, (c.play [m]).pools.Lost k := by
  obtain ⟨n, k, hwaiting, hclosed, -, -, hk⟩ := h
  refine ⟨k, ?_⟩
  change (c.step m.settings m.connect m.closed m.caller).pools.Lost k
  rw [step_waiting hwaiting, hclosed]
  exact ⟨(Pools.closings?_closed n none).trans hk, nofun⟩

/-- **What is lost stays lost**: only the shared pool is asked to close, and only a new one becomes
shared. -/
theorem lost_of_changes {pools : Pools} {n : Nat} (hchanges : Changes closed c i pools)
    (h : c.pools.Lost n) : pools.Lost n := by
  obtain ⟨hzero, hshared⟩ := h
  have hlt := Pools.lt_of_closings? hzero
  cases hchanges with
  | kept => exact ⟨hzero, hshared⟩
  | made p _ =>
    refine ⟨(Pools.closings?_made hlt p _).trans hzero, fun heq => ?_⟩
    have hnew : c.pools.made.length = n := Option.some.inj heq
    omega
  | @asked m present =>
    have hne : m ≠ n := fun heq => hshared (heq ▸ present)
    exact ⟨by rw [Pools.closings?_askToClose, if_neg hne, hzero], hshared⟩
  | taken _ _ => exact ⟨(Pools.closings?_closed _ _).trans hzero, nofun⟩

theorem lost_play {n : Nat} (h : c.pools.Lost n) (ms : List Move) : (c.play ms).pools.Lost n :=
  play_induction (P := fun c => c.pools.Lost n)
    (fun _ st connect closed i => lost_of_changes (stretch_step st connect closed _ i).changes) h ms

/-- **A turn loses a pool only by taking it away unasked.** -/
theorem InOrder.lost_cases {pools : Pools} {n : Nat} (hc : InOrder c)
    (hchanges : Changes closed c i pools) (h : pools.Lost n) :
    c.pools.Lost n ∨ closed = .ok () ∧ ∃ k, c.callers[i]? = some (.closes (.waiting k)) ∧
      c.pools.shared = some n ∧ n ≠ k ∧ c.pools.closings? n = some 0 := by
  obtain ⟨hzero, hshared⟩ := h
  cases hchanges with
  | kept => exact .inl ⟨hzero, hshared⟩
  | made p creating =>
    -- the new pool is the shared one, and before it there was none
    have hlt : n < c.pools.made.length := by
      have hlength := Pools.lt_of_closings? hzero
      have hne : c.pools.made.length ≠ n := fun heq => hshared (congrArg some heq)
      rw [List.length_append, List.length_singleton] at hlength
      omega
    refine .inl ⟨(Pools.closings?_made hlt p _).symm.trans hzero, ?_⟩
    rw [(hc.creating i _ creating).2]
    exact nofun
  | @asked m present =>
    have hne : m ≠ n := fun heq => hshared (heq ▸ present)
    rw [Pools.closings?_askToClose, if_neg hne] at hzero
    exact .inl ⟨hzero, hshared⟩
  | @taken m waiting success =>
    rw [Pools.closings?_closed] at hzero
    by_cases hn : c.pools.shared = some n
    · refine .inr ⟨success, m, waiting, hn, ?_, hzero⟩
      rintro rfl
      obtain ⟨k, hk⟩ := hc.asked i n waiting
      exact nomatch hzero.symm.trans hk
    · exact .inl ⟨hzero, hn⟩

theorem play_append (c : Crowd) (ms ns : List Move) : c.play (ms ++ ns) = (c.play ms).play ns :=
  List.foldl_append

/-- Without a turn that takes a pool away unasked, no pool is lost. -/
theorem InOrder.not_lost_play (hc : InOrder c) (hnone : ∀ n, ¬ c.pools.Lost n) {ms : List Move}
    (h : ∀ before m after, ms = before ++ m :: after → ¬ (c.play before).TakesAnother m) :
    ∀ n, ¬ (c.play ms).pools.Lost n := by
  -- from the last turn backwards
  induction ms using List.reverseRecOn with
  | nil => exact hnone
  | append_singleton ms m ih =>
    intro n hn
    have hbefore : ∀ n, ¬ (c.play ms).pools.Lost n := by
      refine ih fun before m' after hms => h before m' (after ++ [m]) ?_
      rw [hms, List.append_assoc, List.cons_append]
    rw [play_append] at hn
    have hchanges := (stretch_step m.settings m.connect m.closed (c.play ms) m.caller).changes
    obtain hlost | ⟨hclosed, k, hwaiting, hshared, hne, hzero⟩ :=
      (hc.play ms).lost_cases hchanges hn
    · exact hbefore n hlost
    · exact h ms m [] rfl ⟨k, n, hwaiting, hclosed, hshared, hne, hzero⟩

/-! ### Closers one at a time -/

/-- Of the callers one at most waits for a pool to be closed. -/
def OneWaits (c : Crowd) : Prop :=
  ∀ (i j : Nat) m n, c.callers[i]? = some (.closes (.waiting m)) →
    c.callers[j]? = some (.closes (.waiting n)) → i = j

/-- **Whoever waits for a pool to be closed waits for the shared one.** -/
def Attached (c : Crowd) : Prop :=
  ∀ (i : Nat) n, c.callers[i]? = some (.closes (.waiting n)) → c.pools.shared = some n

/-- A turn keeps the closers attached if it does so with those whose turn it is not. -/
theorem attached_moved {pools : Pools} {locked : Bool} {events : List Effect} {k : Caller}
    (waits : ∀ n, k = .closes (.waiting n) → pools.shared = some n)
    (others : ∀ (j : Nat) n, j ≠ i → c.callers[j]? = some (.closes (.waiting n)) →
      pools.shared = some n) :
    Attached ⟨pools, locked, c.callers.set i k, events⟩ := by
  intro j n hj
  obtain ⟨-, hk⟩ | ⟨hne, hj⟩ := of_getElem?_set hj
  · exact waits n hk.symm
  · exact others j n hne hj

theorem Attached.stretch (h : Attached c) (hc : InOrder c) (hone : OneWaits c)
    (hstretch : Stretch closed c i c') : Attached c' := by
  cases hstretch with
  | rests moved =>
    subst moved
    exact h
  | looks moved unbound =>
    subst moved
    exact attached_moved (fun n hk => absurd hk (unbound.notWaiting n)) fun j n _ => h j n
  | locks _ _ moved =>
    subst moved
    exact attached_moved nofun fun j n _ => h j n
  | adopts creating moved unbound =>
    subst moved
    -- nobody waited, as there was no shared pool
    exact attached_moved (fun n hk => absurd hk (unbound.notWaiting n)) fun j n _ hj =>
      nomatch (hc.creating i _ creating).2.symm.trans (h j n hj)
  | forgoes _ moved =>
    subst moved
    exact attached_moved nofun fun j n _ => h j n
  | asks _ present moved =>
    subst moved
    refine attached_moved (fun n hk => ?_) fun j n _ => h j n
    cases hk
    exact present
  | takes waiting _ moved =>
    subst moved
    exact attached_moved nofun fun j n hne hj => absurd (hone j i n _ hj waiting) hne
  | leaves _ moved =>
    subst moved
    exact attached_moved nofun fun j n _ => h j n

/-- A closer that is attached takes no pool away unasked. -/
theorem Attached.not_takesAnother (h : Attached c) (m : Move) : ¬ c.TakesAnother m := by
  rintro ⟨n, k, hwaiting, -, hshared, hne, -⟩
  exact hne (Option.some.inj (hshared.symm.trans (h m.caller n hwaiting)))

theorem Attached.play (h : Attached c) (hc : InOrder c) {ms : List Move}
    (hone : ∀ before m after, ms = before ++ m :: after → OneWaits (c.play before)) :
    Attached (c.play ms) := by
  induction ms using List.reverseRecOn with
  | nil => exact h
  | append_singleton ms m ih =>
    have hbefore : Attached (c.play ms) := by
      refine ih fun before m' after hms => hone before m' (after ++ [m]) ?_
      rw [hms, List.append_assoc, List.cons_append]
    rw [play_append]
    exact hbefore.stretch (hc.play ms) (hone ms m [] rfl)
      (stretch_step m.settings m.connect m.closed (c.play ms) m.caller)

/-! ### Any number of callers -/

/-- Before anybody has taken a turn. -/
theorem inOrder_start {callers : List Caller}
    (start : ∀ k ∈ callers, Unbound k) : InOrder { callers := callers } where
  creating _ url hi := absurd rfl ((start _ (List.mem_of_getElem? hi)).notCreating url)
  alone _ _ url _ hi _ := absurd rfl ((start _ (List.mem_of_getElem? hi)).notCreating url)
  asked _ n hi := absurd rfl ((start _ (List.mem_of_getElem? hi)).notWaiting n)
  known := nofun

/-- **When no pool is lost**: whatever the callers, their turns, the settings and the outcomes are,
each pool that was made is the shared one or was asked to close, unless a closer takes away a pool
that nobody has asked. This cannot happen as long as one closer at most waits at a time. -/
theorem play_losesNone_iff {callers : List Caller}
    (start : ∀ k ∈ callers, k = .opens .arriving ∨ k = .opens .queued ∨ k = .closes .arriving)
    (ms : List Move) :
    ((∀ n, ¬ (play { callers := callers } ms).pools.Lost n) ↔
        ∀ before m after, ms = before ++ m :: after →
          ¬ (play { callers := callers } before).TakesAnother m) ∧
      ((∀ before m after, ms = before ++ m :: after →
          OneWaits (play { callers := callers } before)) →
        ∀ n, ¬ (play { callers := callers } ms).pools.Lost n) := by
  have hunbound : ∀ k ∈ callers, Unbound k := by
    intro k hk
    obtain rfl | rfl | rfl := start k hk <;> exact ⟨by simp, by simp⟩
  have hstart : InOrder { callers := callers } := inOrder_start hunbound
  have hnone : ∀ n, ¬ Pools.Lost {} n := fun n h => nomatch h.1
  refine ⟨⟨?_, hstart.not_lost_play hnone⟩, ?_⟩
  · rintro hkept before m after rfl htakes
    obtain ⟨k, hk⟩ := htakes.lost
    have hlost := lost_play hk after
    rw [← play_append, ← play_append] at hlost
    exact hkept k hlost
  · intro hone
    refine hstart.not_lost_play hnone fun before m after hms => ?_
    have hattached : Attached { callers := callers } := fun i n hi =>
      absurd rfl ((hunbound _ (List.mem_of_getElem? hi)).notWaiting n)
    refine (hattached.play hstart ?_).not_takesAnother m
    rintro before' m' after' rfl
    exact hone before' m' (after' ++ m :: after) (by rw [hms, List.append_assoc]; rfl)

/-- Two closers wait for the same pool, and another one is made when both have gone on. -/
theorem play_losesNone_iff_overlapping :
    let turn (i : Nat) : Move :=
      ⟨i, { databaseUrl := .text "postgresql://h/db" }, .ok fun _ => .ok [], .ok ()⟩
    let start : Crowd :=
      { callers := [.opens .arriving, .closes .arriving, .closes .arriving, .opens .arriving] }
    let ms := [0, 0, 1, 2, 1, 2, 3, 3].map turn
    (∀ n, ¬ (start.play ms).pools.Lost n) ∧
      ∀ before m after, ms = before ++ m :: after → ¬ (start.play before).TakesAnother m := by
  intro turn start ms
  have hclosings : (start.play ms).pools.made.map Pool.closings = [2, 0] := by decide +kernel
  have hshared : (start.play ms).pools.shared = some 1 := by decide +kernel
  have hnone : ∀ n, ¬ (start.play ms).pools.Lost n := by
    rintro n ⟨hzero, hne⟩
    unfold Pools.closings? at hzero
    rw [hclosings] at hzero
    match n with
    | 0 => exact absurd hzero (by decide)
    | 1 => exact hne hshared
    | n + 2 => exact nomatch hzero
  have hcallers : ∀ k ∈ start.callers,
      k = .opens .arriving ∨ k = .opens .queued ∨ k = .closes .arriving := by
    simp [start]
  exact ⟨hnone, (play_losesNone_iff hcallers ms).1.1 hnone⟩

/-- **A pool is lost between two closers**: the first pool is asked to close by both of them. One
goes on, a second pool is made and shared, and the other one takes it away. -/
theorem play_losesPool :
    let turn (i : Nat) : Move :=
      ⟨i, { databaseUrl := .text "postgresql://h/db" }, .ok fun _ => .ok [], .ok ()⟩
    let start : Crowd :=
      { callers := [.opens .arriving, .closes .arriving, .closes .arriving, .opens .arriving] }
    (start.play ([0, 0, 1, 2, 1, 3, 3, 2].map turn)).pools.Lost 1 := by
  unfold Pools.Lost
  decide +kernel

end Crowd

end CatalogSearch
