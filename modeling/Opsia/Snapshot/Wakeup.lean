import Opsia.Snapshot.WriterRuns

/-!
# Wakeups of the snapshot writer

When the run loop has found no pending task it returns, and the `finally` behind it clears the in-flight marker one
microtask later.  A request that is accepted in between becomes the pending task of a loop that no longer looks.  In a
run without such requests a pending task always has a loop that will take it, no request waits for ever, and tasks are
executed in the order of their requests; a run with one breaks this at once (`no_lost_wakeup_iff`).
-/

namespace Opsia

/-- Events that need no caller: the write, the timer and the microtasks of the loop. -/
def WriterEvent.Internal : WriterEvent → Prop
  | request .. => False
  | flush => False
  | _ => True

/-- How many steps an execution still has before it. -/
def Execution.rank (e : Execution) : Nat :=
  (match e.physical with
    | .queued => 2
    | .outstanding => 1
    | .settled => 0) + (if e.race = none then 1 else 0) + (if e.result = none then 1 else 0)

namespace Writer

open Machine

variable {config : SnapshotRuntimeConfig}

/-- A pending task has a run loop that has not yet made its exit check. -/
def Wakeup (w : Writer) : Prop := w.pending.isSome → w.loop.current.isSome

/-- Tasks are executed in the order of their requests. -/
def InRequestOrder (w : Writer) : Prop := (w.executions.map fun e => e.task.request).Pairwise (· < ·)

/-- Without another request the writer comes to rest, and then nothing is pending and every waiter is resolved. -/
structure Drains (config : SnapshotRuntimeConfig) (w : Writer) : Prop where
  bounded : ∃ bound, ∀ events w', (∀ event ∈ events, event.Internal) →
    runFrom (step config) w events = some w' → events.length ≤ bound
  atRest : ∀ events w', (∀ event ∈ events, event.Internal) → runFrom (step config) w events = some w' →
    (∀ event : WriterEvent, event.Internal → w'.step config event = none) →
    w'.pending = none ∧ ∀ n < w'.requests, ∃ r, (n, r) ∈ w'.resolved

/-- A request accepted between the exit check of the loop and its `finally`. -/
def LostInExitWindow (w : Writer) : WriterEvent → Prop
  | .request now _ => w.loop = .finishing ∧ w.circuitOpenUntil ≤ now
  | _ => False

/-! ### Order -/

/-- The tasks come in the order of their requests, the pending one last. -/
structure Ordered (w : Writer) : Prop where
  executed : w.InRequestOrder
  known : ∀ e ∈ w.executions, e.task.request < w.requests
  pendingKnown : ∀ task, w.pending = some task → task.request < w.requests
  pendingLast : ∀ task, w.pending = some task → ∀ e ∈ w.executions, e.task.request < task.request

theorem Ordered.start {w : Writer} (h : w.Ordered) (hp : w.pending = none) {task : PendingWrite}
    (hlast : ∀ e ∈ w.executions, e.task.request < task.request) (hknown : task.request < w.requests) (now : Nat)
    (build : Except String BuiltSnapshot) : (w.startRound config task now build).Ordered := by
  obtain ⟨e, hfresh, hexec, -, hpending, hrequests, -⟩ := startRound_spec config w task now build
  refine ⟨?_, ?_, ?_, ?_⟩
  · unfold InRequestOrder
    rw [hexec, List.map_append, List.pairwise_append]
    refine ⟨h.executed, List.pairwise_singleton _ _, ?_⟩
    intro a ha b hb
    obtain ⟨d, hd, rfl⟩ := List.mem_map.1 ha
    rw [List.map_singleton, List.mem_singleton] at hb
    rw [hb, hfresh.task_eq]
    exact hlast d hd
  · intro d hd
    rw [hexec] at hd
    rw [hrequests]
    rcases List.mem_append.1 hd with hd | hd
    · exact h.known d hd
    · rw [List.mem_singleton.1 hd, hfresh.task_eq]
      exact hknown
  · intro t ht
    rw [hpending, hp] at ht
    cases ht
  · intro t ht
    rw [hpending, hp] at ht
    cases ht

private theorem map_set_of_eq {α β : Type} {f : α → β} {l : List α} {i : Nat} {a a' : α} (hi : l[i]? = some a)
    (hf : f a' = f a) : (l.set i a').map f = l.map f := by
  refine List.ext_getElem? fun j => ?_
  rw [List.getElem?_map, List.getElem?_map, List.getElem?_set]
  split
  · rename_i hij
    subst hij
    split
    · rw [hi, Option.map_some, Option.map_some, hf]
    · rename_i hlt
      rw [List.getElem?_eq_none (by omega)] at hi
      cases hi
  · rfl

/-- A step that leaves the tasks of the executions alone leaves their order alone. -/
theorem Ordered.congr {w w' : Writer} (h : w.Ordered)
    (ht : w'.executions.map Execution.task = w.executions.map Execution.task) (hp : w'.pending = w.pending)
    (hr : w'.requests = w.requests) : w'.Ordered := by
  have hmem : ∀ e ∈ w'.executions, ∃ d ∈ w.executions, d.task = e.task := by
    intro e he
    have hm : e.task ∈ w.executions.map Execution.task := by rw [← ht]; exact List.mem_map.2 ⟨e, he, rfl⟩
    exact List.mem_map.1 hm
  have horder : w'.executions.map (fun e => e.task.request) = w.executions.map fun e => e.task.request := by
    have := congrArg (List.map PendingWrite.request) ht
    simpa [Function.comp_def] using this
  refine ⟨by unfold InRequestOrder; rw [horder]; exact h.executed, ?_, ?_, ?_⟩
  · intro e he
    obtain ⟨d, hd, hde⟩ := hmem e he
    rw [← hde, hr]
    exact h.known d hd
  · intro task htask
    rw [hr]
    exact h.pendingKnown task (hp ▸ htask)
  · intro task htask e he
    obtain ⟨d, hd, hde⟩ := hmem e he
    rw [← hde]
    exact h.pendingLast task (hp ▸ htask) d hd

/-! ### Good steps -/

/-- The invariant of the runs in which no request falls into the exit window. -/
structure Awake (config : SnapshotRuntimeConfig) (w : Writer) : Prop where
  sound : Sound config w
  wakeup : w.Wakeup
  ordered : w.Ordered

private theorem task_of_onExecution {w w' : Writer} {j : Nat} {f : Execution → Option Execution}
    (hf : ∀ e e', f e = some e' → e'.task = e.task) (hs : w.onExecution j f = some w') :
    w'.executions.map Execution.task = w.executions.map Execution.task ∧ w'.pending = w.pending ∧
      w'.requests = w.requests ∧ w'.loop = w.loop := by
  obtain ⟨e, e', hj, hfe, rfl⟩ := onExecution_eq_some.1 hs
  exact ⟨map_set_of_eq hj (hf e e' hfe), rfl, rfl, rfl⟩

/-- What the steps of a write, of its timer and of its race leave alone. -/
private theorem step_execution {w w' : Writer} {event : WriterEvent} (hs : w.step config event = some w')
    (hevent : (∃ j, event = .writeStart j) ∨ (∃ j o, event = .settle j o) ∨ (∃ j, event = .timer j) ∨
      ∃ j now, event = .decide j now) :
    w'.executions.map Execution.task = w.executions.map Execution.task ∧ w'.pending = w.pending ∧
      w'.requests = w.requests ∧ w'.loop = w.loop := by
  rcases hevent with ⟨j, rfl⟩ | ⟨j, o, rfl⟩ | ⟨j, rfl⟩ | ⟨j, now, rfl⟩
  · refine task_of_onExecution (fun e e' he => ?_) hs
    split at he <;> cases he
    rfl
  · refine task_of_onExecution (fun e e' he => ?_) hs
    dsimp only at he
    split at he <;> cases he
    rfl
  · refine task_of_onExecution (fun e e' he => ?_) hs
    split at he <;> cases he
    rfl
  · simp only [Writer.step] at hs
    split at hs
    · rename_i e hj
      split at hs
      · rename_i outcome hrace hres
        cases hs
        obtain ⟨r, hexec, hloop, hpending, hrequests, -⟩ := decideRace_spec config w j e outcome now
        exact ⟨by rw [hexec]; exact map_set_of_eq hj rfl, hpending, hrequests, hloop⟩
      · cases hs
    · cases hs

private theorem Wakeup.congr {w w' : Writer} (h : w.Wakeup) (hp : w'.pending = w.pending) (hl : w'.loop = w.loop) :
    w'.Wakeup := by
  unfold Wakeup
  rw [hp, hl]
  exact h

/-- A new round starts with nothing pending. -/
private theorem wakeup_of_none {w : Writer} (hp : w.pending = none) : w.Wakeup := by
  intro h
  rw [hp] at h
  cases h

theorem Ordered.coalesced {w : Writer} (h : w.Ordered) {task : PendingWrite} (ht : task.request = w.requests) :
    (({ w with
      requests := w.requests + 1, metrics := { w.metrics with circuitOpen := false } } : Writer).coalesce task).Ordered := by
  have hrequest : ∀ t, (({ w with
      requests := w.requests + 1, metrics := { w.metrics with circuitOpen := false } } : Writer).coalesce task).pending =
        some t → t.request = w.requests := by
    intro t htask
    unfold coalesce at htask
    cases hp : w.pending <;> simp only [hp, Option.some.injEq] at htask <;> rw [← htask] <;> exact ht
  refine ⟨h.executed, fun e he => Nat.lt_succ_of_lt (h.known e he), fun t htask => ?_, fun t htask e he => ?_⟩
  · rw [hrequest t htask]
    exact Nat.lt_succ_self w.requests
  · rw [hrequest t htask]
    exact h.known e he

theorem Awake.request {w : Writer} (h : Awake config w) (now : Nat) (build : Except String BuiltSnapshot)
    (hgood : ¬w.LostInExitWindow (.request now build)) : Awake config (w.request config now build) := by
  refine ⟨h.sound.request now build, ?_, ?_⟩
  · rcases request_cases config w now build with ⟨-, he⟩ | ⟨hopen, ⟨hl, he⟩ | ⟨hl, he⟩⟩
    · rw [he]
      exact h.wakeup
    · rw [he]
      refine wakeup_of_none ?_
      obtain ⟨e, -, -, -, hpending, -⟩ := startRound_spec config
        { w with requests := w.requests + 1, metrics := { w.metrics with circuitOpen := false } }
        { request := w.requests, requestedAt := now, waiters := [w.requests] } now build
      rw [hpending]
      by_contra hp
      have := h.wakeup (Option.isSome_iff_ne_none.2 hp)
      rw [hl] at this
      cases this
    · rw [he]
      intro _
      show w.loop.current.isSome
      -- outside the exit window a loop that runs still has its exit check before it
      cases hloop : w.loop with
      | idle => exact absurd hloop hl
      | awaitResult i => rfl
      | awaitSettled i => rfl
      | finishing => exact absurd ⟨hloop, hopen⟩ hgood
  · rcases request_cases config w now build with ⟨-, he⟩ | ⟨-, ⟨hl, he⟩ | ⟨-, he⟩⟩
    · rw [he]
      exact ⟨h.ordered.executed, fun e hm => Nat.lt_succ_of_lt (h.ordered.known e hm),
        fun t ht => Nat.lt_succ_of_lt (h.ordered.pendingKnown t ht), h.ordered.pendingLast⟩
    · rw [he]
      have hp : w.pending = none := by
        by_contra hp
        have := h.wakeup (Option.isSome_iff_ne_none.2 hp)
        rw [hl] at this
        cases this
      have haccepted : ({ w with
          requests := w.requests + 1, metrics := { w.metrics with circuitOpen := false } } : Writer).Ordered :=
        ⟨h.ordered.executed, fun e hm => Nat.lt_succ_of_lt (h.ordered.known e hm),
          fun t ht => Nat.lt_succ_of_lt (h.ordered.pendingKnown t ht), h.ordered.pendingLast⟩
      exact haccepted.start hp h.ordered.known (Nat.lt_succ_self w.requests) now build
    · rw [he]
      exact h.ordered.coalesced rfl

theorem Awake.afterSettled {w : Writer} (h : Awake config w) {j : Nat} {e : Execution} (hl : w.loop = .awaitSettled j)
    (hj : w.executions[j]? = some e) (hp : e.physical = .settled) (now : Nat) (build : Except String BuiltSnapshot) :
    Awake config (w.afterSettled config now build) := by
  refine ⟨h.sound.afterSettled hl hj hp now build, ?_, ?_⟩
  · unfold Writer.afterSettled
    cases hpend : w.pending with
    | none => exact wakeup_of_none rfl
    | some task =>
      dsimp only
      split
      · exact wakeup_of_none rfl
      · obtain ⟨e, -, -, -, hpending, -⟩ := startRound_spec config
          { w with pending := none, metrics := { w.metrics with pending := 0 } } task now build
        exact wakeup_of_none hpending
  · have hnone : ({ w with pending := none, metrics := { w.metrics with pending := 0 } } : Writer).Ordered :=
      ⟨h.ordered.executed, h.ordered.known, (fun t ht => by cases ht), fun t ht => by cases ht⟩
    unfold Writer.afterSettled
    cases hpend : w.pending with
    | none => exact hnone.congr rfl rfl rfl
    | some task =>
      dsimp only
      split
      · exact hnone.congr rfl rfl rfl
      · exact hnone.start rfl (h.ordered.pendingLast task hpend) (h.ordered.pendingKnown task hpend) now build

/-- Every step outside the exit window keeps the invariant. -/
theorem Awake.step {w w' : Writer} (h : Awake config w) {event : WriterEvent} (hgood : ¬w.LostInExitWindow event)
    (hs : w.step config event = some w') : Awake config w' := by
  have hsound := h.sound.step hs
  have hexecution : ((∃ j, event = .writeStart j) ∨ (∃ j o, event = .settle j o) ∨ (∃ j, event = .timer j) ∨
      ∃ j now, event = .decide j now) → Awake config w' := by
    intro hevent
    obtain ⟨ht, hp, hr, hl⟩ := step_execution hs hevent
    exact ⟨hsound, h.wakeup.congr hp hl, h.ordered.congr ht hp hr⟩
  cases event with
  | request now build =>
    cases hs
    exact h.request now build hgood
  | flush =>
    cases hs
    exact h
  | writeStart j => exact hexecution (Or.inl ⟨j, rfl⟩)
  | settle j outcome => exact hexecution (Or.inr (Or.inl ⟨j, outcome, rfl⟩))
  | timer j => exact hexecution (Or.inr (Or.inr (Or.inl ⟨j, rfl⟩)))
  | decide j now => exact hexecution (Or.inr (Or.inr (Or.inr ⟨j, now, rfl⟩)))
  | deliver =>
    simp only [Writer.step] at hs
    split at hs
    · rename_i j hl
      split at hs
      · rename_i e hj
        obtain ⟨r, hr, rfl⟩ := Option.map_eq_some_iff.1 hs
        exact ⟨hsound, fun _ => rfl, h.ordered.congr rfl rfl rfl⟩
      · cases hs
    · cases hs
  | exitCheck now build =>
    simp only [Writer.step] at hs
    split at hs
    · rename_i j hl
      split at hs
      · rename_i e hj
        split at hs
        · rename_i hp
          cases hs
          exact h.afterSettled hl hj hp now build
        · cases hs
      · cases hs
    · cases hs
  | finish =>
    simp only [Writer.step] at hs
    split at hs
    · rename_i hl
      cases hs
      refine ⟨hsound, fun hp => ?_, h.ordered.congr rfl rfl rfl⟩
      have := h.wakeup hp
      rw [hl] at this
      cases this
    · cases hs

/-! ### Coming to rest -/

/-- How many steps of the writer itself can follow; a pending task counts for the round it will start. -/
def rank (w : Writer) : Nat :=
  (w.executions.map Execution.rank).sum + (if w.pending = none then 0 else 6) +
    (match w.loop with
      | .idle => 0
      | .finishing => 1
      | .awaitSettled _ => 2
      | .awaitResult _ => 3)

private theorem sum_set {l : List Execution} {i : Nat} {e : Execution} (hi : l[i]? = some e) (e' : Execution) :
    ((l.set i e').map Execution.rank).sum + e.rank = (l.map Execution.rank).sum + e'.rank := by
  induction l generalizing i with
  | nil => simp at hi
  | cons a l ih =>
    cases i with
    | zero =>
      obtain rfl : a = e := by simpa using hi
      simp only [List.set_cons_zero, List.map_cons, List.sum_cons]
      omega
    | succ i =>
      have := ih (i := i) (by simpa using hi)
      simp only [List.set_cons_succ, List.map_cons, List.sum_cons]
      omega

private theorem rank_onExecution {w w' : Writer} {j : Nat} {f : Execution → Option Execution}
    (hf : ∀ e e', f e = some e' → e'.rank < e.rank) (hs : w.onExecution j f = some w') : w'.rank < w.rank := by
  obtain ⟨e, e', hj, hfe, rfl⟩ := onExecution_eq_some.1 hs
  have hlt := hf e e' hfe
  have hsum := sum_set hj e'
  unfold rank
  dsimp only
  omega

private theorem Fresh.rank_le {task : PendingWrite} {e : Execution} (h : Fresh task e) : e.rank ≤ 4 := by
  unfold Execution.rank
  rcases h.stage with ⟨hp, hr⟩ | ⟨hp, r, hr, -⟩ <;> simp [hp, hr, h.race]

variable (config) in
private theorem rank_startRound (w : Writer) (task : PendingWrite) (now : Nat) (build : Except String BuiltSnapshot) :
    (w.startRound config task now build).rank ≤
      (w.executions.map Execution.rank).sum + (if w.pending = none then 0 else 6) + 7 := by
  obtain ⟨e, hfresh, hexec, hloop, hpending, -⟩ := startRound_spec config w task now build
  have := hfresh.rank_le
  unfold rank
  rw [hexec, hloop, hpending, List.map_append, List.sum_append]
  simp only [List.map_singleton, List.sum_singleton]
  omega

/-- Every step of the writer itself lowers the rank. -/
theorem rank_step {w w' : Writer} {event : WriterEvent} (hi : event.Internal) (hs : w.step config event = some w') :
    w'.rank < w.rank := by
  cases event with
  | request now build => exact hi.elim
  | flush => exact hi.elim
  | writeStart j =>
    refine rank_onExecution (fun e e' he => ?_) hs
    split at he
    · rename_i hq
      cases he
      simp [Execution.rank, hq]
    · cases he
  | settle j outcome =>
    refine rank_onExecution (fun e e' he => ?_) hs
    dsimp only at he
    split at he
    · rename_i hq
      cases he
      cases hr : e.race <;> simp [Execution.rank, hq, hr]
    · cases he
  | timer j =>
    refine rank_onExecution (fun e e' he => ?_) hs
    split at he
    · rename_i hq
      cases he
      simp [Execution.rank, hq.1]
    · cases he
  | decide j now =>
    simp only [Writer.step] at hs
    split at hs
    · rename_i e hj
      split at hs
      · rename_i outcome hrace hres
        cases hs
        obtain ⟨r, hexec, hloop, hpending, -⟩ := decideRace_spec config w j e outcome now
        have hsum := sum_set hj { e with result := some r }
        have hlt : ({ e with result := some r } : Execution).rank + 1 = e.rank := by
          simp [Execution.rank, hres]
        unfold rank
        rw [hexec, hloop, hpending]
        omega
      · cases hs
    · cases hs
  | deliver =>
    simp only [Writer.step] at hs
    split at hs
    · rename_i j hl
      split at hs
      · rename_i e hj
        obtain ⟨r, hr, rfl⟩ := Option.map_eq_some_iff.1 hs
        simp [rank, resolve, hl]
      · cases hs
    · cases hs
  | exitCheck now build =>
    simp only [Writer.step] at hs
    split at hs
    · rename_i j hl
      split at hs
      · rename_i e hj
        split at hs
        · cases hs
          have hw : w.rank = (w.executions.map Execution.rank).sum + (if w.pending = none then 0 else 6) + 2 := by
            unfold rank
            rw [hl]
          rw [hw]
          unfold Writer.afterSettled
          cases hpend : w.pending with
          | none => simp [rank]
          | some task =>
            dsimp only
            split
            · simp only [rank, resolve]
              simp
            · have := rank_startRound config
                { w with pending := none, metrics := { w.metrics with pending := 0 } } task now build
              simp only [if_true, reduceCtorEq, if_false] at this ⊢
              omega
        · cases hs
      · cases hs
    · cases hs
  | finish =>
    simp only [Writer.step] at hs
    split at hs
    · rename_i hl
      cases hs
      simp [rank, hl]
    · cases hs

/-- A writer at rest whose pending task has a loop has no loop and nothing pending: every waiter is resolved. -/
theorem Awake.resolved_of_rest {w : Writer} (h : Awake config w)
    (hrest : ∀ event : WriterEvent, event.Internal → w.step config event = none) :
    w.pending = none ∧ ∀ n < w.requests, ∃ r, (n, r) ∈ w.resolved := by
  have hloop : w.loop = .idle := by
    have hstage := h.sound.stage
    unfold Stage at hstage
    -- a write that is not over can go on, and with a settled write the loop can
    have hphysical : ∀ {j : Nat} {e : Execution}, w.executions[j]? = some e → e.physical = .settled := by
      intro j e hj
      cases hp : e.physical with
      | settled => rfl
      | queued =>
        have hs := hrest (.writeStart j) trivial
        simp [Writer.step, Writer.onExecution, hj, hp] at hs
      | outstanding =>
        have hs := hrest (.settle j (.ok ())) trivial
        simp [Writer.step, Writer.onExecution, hj, hp] at hs
    cases hl : w.loop with
    | idle => rfl
    | finishing =>
      have hs := hrest .finish trivial
      simp [Writer.step, hl] at hs
    | awaitResult i =>
      simp only [hl] at hstage
      obtain ⟨done, e, hw, hlen, -, -, hrace⟩ := hstage
      have hj : w.executions[i]? = some e := by
        rw [hw]
        subst hlen
        simp
      cases hres : e.result with
      | some r =>
        have hs := hrest .deliver trivial
        simp [Writer.step, hl, hj, hres] at hs
      | none =>
        obtain ⟨outcome, ho⟩ := Option.isSome_iff_exists.1 (hrace (hphysical hj) hres)
        have hs := hrest (.decide i 0) trivial
        simp [Writer.step, hj, hres, ho] at hs
    | awaitSettled i =>
      simp only [hl] at hstage
      obtain ⟨done, e, hw, hlen, -⟩ := hstage
      have hj : w.executions[i]? = some e := by
        rw [hw]
        subst hlen
        simp
      have hs := hrest (.exitCheck 0 (.error "")) trivial
      simp [Writer.step, hl, hj, hphysical hj] at hs
  have hpending : w.pending = none := by
    by_contra hp
    have := h.wakeup (Option.isSome_iff_ne_none.2 hp)
    rw [hloop] at this
    cases this
  refine ⟨hpending, fun n hn => ?_⟩
  have hplaced := h.sound.placed
  have ha : w.awaiting = [] := by unfold awaiting; rw [hloop]
  have hwait : w.waiting = [] := by unfold waiting; rw [hpending]; rfl
  rw [ha, hwait, List.append_nil, List.append_nil] at hplaced
  obtain ⟨p, hp, rfl⟩ := List.mem_map.1 (hplaced.mem_iff.2 (List.mem_range.2 hn))
  exact ⟨p.2, hp⟩

private theorem not_lost_of_internal {w : Writer} {event : WriterEvent} (hi : event.Internal) :
    ¬w.LostInExitWindow event := by
  cases event with
  | request now build => exact hi.elim
  | _ => exact id

theorem Awake.run {w w' : Writer} (h : Awake config w) {events : List WriterEvent}
    (hi : ∀ event ∈ events, event.Internal) (hr : runFrom (Writer.step config) w events = some w') :
    Awake config w' := by
  induction events generalizing w with
  | nil =>
    cases hr
    exact h
  | cons event events ih =>
    rw [runFrom] at hr
    obtain ⟨v, hs, hr⟩ := Option.bind_eq_some_iff.1 hr
    have hv := h.step (not_lost_of_internal (hi event (List.mem_cons_self ..))) hs
    exact ih hv (fun e he => hi e (List.mem_cons_of_mem event he)) hr

theorem Awake.drains {w : Writer} (h : Awake config w) : Drains config w where
  bounded := by
    refine ⟨w.rank, fun events w' hi hr => ?_⟩
    have := length_le_of_rank (P := WriterEvent.Internal) (fun _ _ _ hp hs => rank_step hp hs) hr hi
    omega
  atRest events w' hi hr hrest := (h.run hi hr).resolved_of_rest hrest

variable (config) in
theorem awake_init : Awake config {} where
  sound := sound_init
  wakeup := wakeup_of_none rfl
  ordered := ⟨List.Pairwise.nil, by simp, (fun t ht => by cases ht), fun t ht => by cases ht⟩

/-- A request in the exit window becomes the pending task of a loop that will not look again. -/
theorem not_wakeup_of_lost {w w' : Writer} {event : WriterEvent} (h : w.LostInExitWindow event)
    (hs : w.step config event = some w') : ¬w'.Wakeup := by
  cases event with
  | request now build =>
    obtain ⟨hl, hopen⟩ := h
    cases hs
    rcases request_cases config w now build with ⟨hlt, -⟩ | ⟨-, ⟨hidle, -⟩ | ⟨-, he⟩⟩
    · omega
    · rw [hl] at hidle
      cases hidle
    · rw [he]
      intro hw
      have hsome := hw (by unfold coalesce; rfl)
      have hloop : (({ w with
          requests := w.requests + 1, metrics := { w.metrics with circuitOpen := false } } : Writer).coalesce
            { request := w.requests, requestedAt := now, waiters := [w.requests] }).loop = .finishing := hl
      rw [hloop] at hsome
      cases hsome
  | _ => exact h.elim

/-- In a run of the writer a pending task has a loop, the writer drains and tasks keep their order in every state, just
when no step of the run accepts a request between the exit check of the loop and its `finally`. -/
theorem no_lost_wakeup_iff (config : SnapshotRuntimeConfig) (events : List WriterEvent) :
    Throughout (step config) (fun w => w.Wakeup ∧ Drains config w ∧ w.InRequestOrder) {} events ↔
      EachStep (step config) (fun w event => ¬w.LostInExitWindow event) {} events := by
  refine throughout_iff_eachStep ?_ ?_ ?_ (awake_init config) events
  · exact fun w h => ⟨h.wakeup, h.drains, h.ordered.executed⟩
  · exact fun w event w' h hgood hs => h.step hgood hs
  · intro w event w' _ hbad hs hq
    exact not_wakeup_of_lost (not_not.1 hbad) hs hq.1

/-- A save requested in the continuation of an awaited save: the second task stays pending with no loop. -/
theorem request_in_exit_window_lost :
    (runFrom (step ⟨8388608, 3, 5000⟩) {}
      [.request 0 (.ok { roomEpoch := 1, serverTick := 10, checksum := "a", payloadBytes := 100 }), .writeStart 0, .settle 0 (.ok ()), .decide 0 1, .deliver,
        .exitCheck 1 (.error ""), .request 1 (.ok { roomEpoch := 1, serverTick := 11, checksum := "b", payloadBytes := 100 }), .finish]).map
      (fun w => (w.loop, w.pending.map PendingWrite.waiters, w.resolved.map Prod.fst)) =
      some (.idle, some [1], [0]) := by decide +kernel

end Writer

end Opsia
