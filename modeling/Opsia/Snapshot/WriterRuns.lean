import Opsia.Snapshot.Writer
import Mathlib.Data.List.Nodup

/-!
# What the snapshot writer guarantees

Over all runs: at most one physical write is under way, every waiter is resolved at most once and with the outcome of
the task that covered it, and the failure counter and the circuit move together (`writer_guarantees`).  The invariant is
`Sound`: where the executions stand by the position of the loop, and where every waiter is.
-/

namespace Opsia

/-- The execution that the loop waits for. -/
def RunLoop.current : RunLoop → Option Nat
  | awaitResult i => some i
  | awaitSettled i => some i
  | _ => none

/-- The write is over and its result is known. -/
def Execution.Quiet (e : Execution) : Prop := e.physical = .settled ∧ e.result.isSome

/-- How many results there are since the last one that was saved. -/
def trailingFailures (results : List SnapshotSaveResult) : Nat :=
  (results.reverse.takeWhile fun r => decide (r.status ≠ .saved)).length

namespace Writer

open Machine

variable {config : SnapshotRuntimeConfig}

/-! ### What the pieces of a step do -/

theorem onExecution_eq_some {w w' : Writer} {i : Nat} {f : Execution → Option Execution} :
    w.onExecution i f = some w' ↔
      ∃ e e', w.executions[i]? = some e ∧ f e = some e' ∧ w' = { w with executions := w.executions.set i e' } := by
  unfold onExecution
  constructor
  · intro h
    obtain ⟨e', he, rfl⟩ := Option.map_eq_some_iff.1 h
    obtain ⟨e, hi, hf⟩ := Option.bind_eq_some_iff.1 he
    exact ⟨e, e', hi, hf, rfl⟩
  · rintro ⟨e, e', hi, hf, rfl⟩
    simp [hi, hf]

/-- What an execution is when `execute` has started it. -/
structure Fresh (task : PendingWrite) (e : Execution) : Prop where
  task_eq : e.task = task
  race : e.race = none
  stage : (e.physical = .queued ∧ e.result = none) ∨
    (e.physical = .settled ∧ ∃ r, e.result = some r ∧ r.status = .failed)

@[simp] theorem recordFailure_consecutive (m : SnapshotWriterMetrics) (u : Nat) (message : String) (status : SaveStatus)
    (startedAt now : Nat) :
    (recordFailure config m u message status startedAt now).1.consecutiveFailures = m.consecutiveFailures + 1 := by
  unfold recordFailure
  dsimp only
  split <;> rfl

@[simp] theorem recordFailure_pending (m : SnapshotWriterMetrics) (u : Nat) (message : String) (status : SaveStatus)
    (startedAt now : Nat) : (recordFailure config m u message status startedAt now).1.pending = m.pending := by
  unfold recordFailure
  dsimp only
  split <;> rfl

@[simp] theorem recordFailure_status (m : SnapshotWriterMetrics) (u : Nat) (message : String) (status : SaveStatus)
    (startedAt now : Nat) : (recordFailure config m u message status startedAt now).2.2.status = status := by
  unfold recordFailure
  dsimp only
  split <;> rfl

/-- The circuit is open only when the failures have reached the threshold. -/
def CircuitSound (config : SnapshotRuntimeConfig) (m : SnapshotWriterMetrics) : Prop :=
  m.circuitOpen = true → config.failureThreshold ≤ m.consecutiveFailures

theorem recordFailure_sound {m : SnapshotWriterMetrics} (h : CircuitSound config m) (u : Nat) (message : String)
    (status : SaveStatus) (startedAt now : Nat) :
    CircuitSound config (recordFailure config m u message status startedAt now).1 := by
  intro ho
  rw [recordFailure_consecutive]
  unfold recordFailure at ho
  dsimp only at ho
  split at ho
  · assumption
  · have := h ho
    omega

variable (config) in
/-- The executions, the metrics and the rest of the writer after a round has started. -/
theorem startRound_spec (w : Writer) (task : PendingWrite) (now : Nat) (build : Except String BuiltSnapshot) :
    ∃ e, Fresh task e ∧ (w.startRound config task now build).executions = w.executions ++ [e] ∧
      (w.startRound config task now build).loop = .awaitResult w.executions.length ∧
      (w.startRound config task now build).pending = w.pending ∧
      (w.startRound config task now build).requests = w.requests ∧
      (w.startRound config task now build).resolved = w.resolved ∧
      (w.startRound config task now build).metrics.pending = w.pending.toList.length ∧
      (CircuitSound config w.metrics → CircuitSound config (w.startRound config task now build).metrics) ∧
      (w.startRound config task now build).metrics.consecutiveFailures =
        w.metrics.consecutiveFailures + (if e.result.isSome then 1 else 0) := by
  unfold startRound execute
  cases checkSize config build with
  | ok b =>
    refine ⟨{ task, startedAt := now, built := some b, physical := .queued }, ⟨rfl, rfl, Or.inl ⟨rfl, rfl⟩⟩,
      rfl, rfl, rfl, rfl, rfl, rfl, fun h => h, rfl⟩
  | error message =>
    dsimp only
    refine ⟨_, ⟨?_, ?_, Or.inr ⟨?_, _, rfl, ?_⟩⟩, rfl, rfl, rfl, rfl, rfl, ?_, fun h => ?_, ?_⟩
    · rfl
    · rfl
    · rfl
    · exact recordFailure_status _ _ _ _ _ _
    · simp
    · exact recordFailure_sound (by exact h) _ _ _ _ _
    · simp

variable (config) in
/-- What deciding a race changes. -/
theorem decideRace_spec (w : Writer) (i : Nat) (e : Execution) (outcome : RaceOutcome) (now : Nat) :
    ∃ r, (w.decideRace config i e outcome now).executions = w.executions.set i { e with result := some r } ∧
      (w.decideRace config i e outcome now).loop = w.loop ∧ (w.decideRace config i e outcome now).pending = w.pending ∧
      (w.decideRace config i e outcome now).requests = w.requests ∧
      (w.decideRace config i e outcome now).resolved = w.resolved ∧
      (w.decideRace config i e outcome now).metrics.pending = w.metrics.pending ∧
      (CircuitSound config w.metrics → CircuitSound config (w.decideRace config i e outcome now).metrics) ∧
      (if outcome = .saved then
        r.status = .saved ∧ (w.decideRace config i e outcome now).metrics.consecutiveFailures = 0 ∧
          (w.decideRace config i e outcome now).metrics.circuitOpen = false
      else (r.status = .failed ∨ r.status = .timeout) ∧
        (w.decideRace config i e outcome now).metrics.consecutiveFailures = w.metrics.consecutiveFailures + 1) := by
  unfold decideRace
  cases outcome with
  | saved =>
    dsimp only
    refine ⟨_, rfl, rfl, rfl, rfl, rfl, rfl, ?_, by simp⟩
    intro _ ho
    cases ho
  | failed message =>
    dsimp only
    refine ⟨_, rfl, rfl, rfl, rfl, rfl, ?_, fun h => ?_, ?_⟩
    · exact recordFailure_pending _ _ _ _ _ _
    · exact recordFailure_sound (by exact h) _ _ _ _ _
    · simp
  | timeout =>
    dsimp only
    refine ⟨_, rfl, rfl, rfl, rfl, rfl, ?_, fun h => ?_, ?_⟩
    · exact recordFailure_pending _ _ _ _ _ _
    · exact recordFailure_sound (by exact h) _ _ _ _ _
    · simp

variable (config) in
/-- The three ways a request goes. -/
theorem request_cases (w : Writer) (now : Nat) (build : Except String BuiltSnapshot) :
    (now < w.circuitOpenUntil ∧ w.request config now build =
      { w with requests := w.requests + 1, resolved := w.resolved ++ [(w.requests, circuitOpenResult)] }) ∨
    (w.circuitOpenUntil ≤ now ∧
      let accepted := { w with requests := w.requests + 1, metrics := { w.metrics with circuitOpen := false } }
      let task : PendingWrite := { request := w.requests, requestedAt := now, waiters := [w.requests] }
      (w.loop = .idle ∧ w.request config now build = accepted.startRound config task now build) ∨
        (w.loop ≠ .idle ∧ w.request config now build = accepted.coalesce task)) := by
  unfold request
  by_cases h : now < w.circuitOpenUntil
  · exact Or.inl ⟨h, by simp [h]⟩
  · refine Or.inr ⟨by omega, ?_⟩
    cases hl : w.loop with
    | idle => exact Or.inl ⟨rfl, by simp [h]⟩
    | awaitResult i => exact Or.inr ⟨by simp, by simp [h]⟩
    | awaitSettled i => exact Or.inr ⟨by simp, by simp [h]⟩
    | finishing => exact Or.inr ⟨by simp, by simp [h]⟩

/-! ### The invariant -/

/-- The waiters of the execution whose result is still to come. -/
def awaiting (w : Writer) : List Nat :=
  match w.loop with
  | .awaitResult i => (w.executions[i]?.map fun e => e.task.waiters).getD []
  | _ => []

/-- The waiters of the pending task. -/
def waiting (w : Writer) : List Nat := (w.pending.map PendingWrite.waiters).getD []

/-- Every waiter of an execution with a result has got that result, and every result was that of an execution or a
refusal. -/
structure Covered (resolved : List (Nat × SnapshotSaveResult)) (done : List Execution) : Prop where
  covered : ∀ e ∈ done, ∀ r, e.result = some r → ∀ n ∈ e.task.waiters, (n, r) ∈ resolved
  outcome : ∀ p ∈ resolved, p.2 = circuitOpenResult ∨ ∃ e ∈ done, p.1 ∈ e.task.waiters ∧ e.result = some p.2

/-- Where the executions stand, by the position of the loop. -/
def Stage (w : Writer) : Prop :=
  match w.loop with
  | .idle => (∀ e ∈ w.executions, e.Quiet) ∧ Covered w.resolved w.executions
  | .finishing => (∀ e ∈ w.executions, e.Quiet) ∧ Covered w.resolved w.executions
  | .awaitResult i => ∃ done e, w.executions = done ++ [e] ∧ done.length = i ∧ (∀ d ∈ done, d.Quiet) ∧
    Covered w.resolved done ∧ (e.physical = .settled → e.result = none → e.race.isSome)
  | .awaitSettled i => ∃ done e, w.executions = done ++ [e] ∧ done.length = i ∧ (∀ d ∈ done, d.Quiet) ∧
    Covered w.resolved (done ++ [e]) ∧ e.result.isSome

/-- What holds in every state of the writer. -/
structure Sound (config : SnapshotRuntimeConfig) (w : Writer) : Prop where
  stage : w.Stage
  placed : (w.resolved.map Prod.fst ++ w.awaiting ++ w.waiting).Perm (List.range w.requests)
  failures : w.metrics.consecutiveFailures = trailingFailures (w.executions.filterMap Execution.result)
  circuit : CircuitSound config w.metrics
  flag : w.metrics.pending = w.pending.toList.length

/-- An execution that is not over is the last one, and the loop waits for it. -/
theorem Stage.last {w : Writer} (h : w.Stage) {j : Nat} {e : Execution} (hj : w.executions[j]? = some e)
    (hq : ¬e.Quiet) : ∃ done, w.executions = done ++ [e] ∧ done.length = j ∧ (∀ d ∈ done, d.Quiet) ∧
      ((w.loop = .awaitResult j ∧ Covered w.resolved done ∧ (e.physical = .settled → e.result = none → e.race.isSome)) ∨
        (w.loop = .awaitSettled j ∧ Covered w.resolved (done ++ [e]) ∧ e.result.isSome)) := by
  have hm := List.mem_of_getElem? hj
  have key : ∀ {done : List Execution} {c : Execution}, w.executions = done ++ [c] → (∀ d ∈ done, d.Quiet) →
      done.length = j ∧ c = e := by
    intro done c hw hd
    rw [hw] at hj
    rcases Nat.lt_trichotomy j done.length with hlt | heq | hgt
    · rw [List.getElem?_append_left hlt] at hj
      exact absurd (hd e (List.mem_of_getElem? hj)) hq
    · subst heq
      simpa using hj
    · rw [List.getElem?_eq_none (by simp; omega)] at hj
      cases hj
  unfold Stage at h
  cases hl : w.loop with
  | idle => simp only [hl] at h; exact absurd (h.1 e hm) hq
  | finishing => simp only [hl] at h; exact absurd (h.1 e hm) hq
  | awaitResult i =>
    simp only [hl] at h
    obtain ⟨done, c, hw, hlen, hd, hc, hr⟩ := h
    obtain ⟨hlast, rfl⟩ := key hw hd
    obtain rfl : i = j := by omega
    exact ⟨done, hw, hlen, hd, Or.inl ⟨rfl, hc, hr⟩⟩
  | awaitSettled i =>
    simp only [hl] at h
    obtain ⟨done, c, hw, hlen, hd, hc, hr⟩ := h
    obtain ⟨hlast, rfl⟩ := key hw hd
    obtain rfl : i = j := by omega
    exact ⟨done, hw, hlen, hd, Or.inr ⟨rfl, hc, hr⟩⟩

theorem Covered.mono {resolved : List (Nat × SnapshotSaveResult)} {done : List Execution} (h : Covered resolved done)
    {more : List (Nat × SnapshotSaveResult)} (hm : ∀ p ∈ more, p.2 = circuitOpenResult) : Covered (resolved ++ more) done where
  covered e he r hr n hn := List.mem_append_left _ (h.covered e he r hr n hn)
  outcome p hp := by
    rcases List.mem_append.1 hp with hp | hp
    · exact h.outcome p hp
    · exact Or.inl (hm p hp)

/-- The state in which a new round may start. -/
structure Ready (config : SnapshotRuntimeConfig) (w : Writer) (task : PendingWrite) : Prop where
  quiet : ∀ e ∈ w.executions, e.Quiet
  covered : Covered w.resolved w.executions
  placed : (w.resolved.map Prod.fst ++ task.waiters ++ w.waiting).Perm (List.range w.requests)
  failures : w.metrics.consecutiveFailures = trailingFailures (w.executions.filterMap Execution.result)
  circuit : CircuitSound config w.metrics

theorem trailingFailures_append_failure {results : List SnapshotSaveResult} {r : SnapshotSaveResult}
    (h : r.status ≠ .saved) : trailingFailures (results ++ [r]) = trailingFailures results + 1 := by
  simp [trailingFailures, h]

theorem trailingFailures_append_saved {results : List SnapshotSaveResult} {r : SnapshotSaveResult}
    (h : r.status = .saved) : trailingFailures (results ++ [r]) = 0 := by
  simp [trailingFailures, h]

theorem Ready.start {w : Writer} {task : PendingWrite} (h : Ready config w task) (now : Nat)
    (build : Except String BuiltSnapshot) : Sound config (w.startRound config task now build) := by
  obtain ⟨e, hfresh, hexec, hloop, hpending, hrequests, hresolved, hflag, hcircuit, hcf⟩ :=
    startRound_spec config w task now build
  refine ⟨?_, ?_, ?_, hcircuit h.circuit, by rw [hflag, hpending]⟩
  · unfold Stage
    rw [hloop, hresolved]
    refine ⟨w.executions, e, hexec, rfl, h.quiet, h.covered, ?_⟩
    intro hp hr
    rcases hfresh.stage with hs | ⟨_, r, hr', _⟩
    · rw [hs.1] at hp; cases hp
    · rw [hr'] at hr; cases hr
  · have ha : (w.startRound config task now build).awaiting = task.waiters := by
      unfold awaiting
      rw [hloop, hexec]
      simp [hfresh.task_eq]
    have hw : (w.startRound config task now build).waiting = w.waiting := by unfold waiting; rw [hpending]
    rw [hresolved, ha, hw, hrequests]
    exact h.placed
  · rw [hcf, hexec, List.filterMap_append, h.failures]
    rcases hfresh.stage with ⟨_, hr⟩ | ⟨_, r, hr, hs⟩
    · simp [hr]
    · have hne : r.status ≠ .saved := by rw [hs]; decide
      simp [hr, trailingFailures_append_failure hne]

/-! ### One lemma for each kind of step -/

private theorem set_last {done : List Execution} {e e' : Execution} {j : Nat} (h : done.length = j) :
    (done ++ [e]).set j e' = done ++ [e'] := by
  subst h
  simp

private theorem awaiting_of_last {w : Writer} {done : List Execution} {e : Execution} {j : Nat}
    (hw : w.executions = done ++ [e]) (hj : done.length = j) (hl : w.loop = .awaitResult j) :
    w.awaiting = e.task.waiters := by
  unfold awaiting
  rw [hl, hw]
  subst hj
  simp

private theorem Covered.congr_last {resolved : List (Nat × SnapshotSaveResult)} {done : List Execution}
    {e e' : Execution} (h : Covered resolved (done ++ [e])) (ht : e'.task = e.task) (hr : e'.result = e.result) :
    Covered resolved (done ++ [e']) where
  covered d hd r hd' n hn := by
    rcases List.mem_append.1 hd with hd | hd
    · exact h.covered d (List.mem_append_left _ hd) r hd' n hn
    · rw [List.mem_singleton.1 hd] at hd' hn
      rw [hr] at hd'
      rw [ht] at hn
      exact h.covered e (by simp) r hd' n hn
  outcome p hp := by
    rcases h.outcome p hp with h | ⟨d, hd, hn, hd'⟩
    · exact Or.inl h
    · rcases List.mem_append.1 hd with hd | hd
      · exact Or.inr ⟨d, List.mem_append_left _ hd, hn, hd'⟩
      · rw [List.mem_singleton.1 hd] at hd' hn
        exact Or.inr ⟨e', by simp, by rw [ht]; exact hn, by rw [hr]; exact hd'⟩

/-- A step of the write or of the timer. -/
theorem Sound.onExecution {w w' : Writer} (h : Sound config w) {j : Nat} {f : Execution → Option Execution}
    (hf : ∀ e e', f e = some e' → ¬e.Quiet ∧ e'.task = e.task ∧ e'.result = e.result ∧
      (e'.physical = .settled → e'.race.isSome))
    (hs : w.onExecution j f = some w') : Sound config w' := by
  obtain ⟨e, e', hj, hfe, rfl⟩ := onExecution_eq_some.1 hs
  obtain ⟨hq, ht, hr, hrace⟩ := hf e e' hfe
  obtain ⟨done, hw, hlen, hd, hcase⟩ := h.stage.last hj hq
  have hset : w.executions.set j e' = done ++ [e'] := by rw [hw, set_last hlen]
  have hresults : (done ++ [e']).filterMap Execution.result = w.executions.filterMap Execution.result := by
    rw [hw]
    simp only [List.filterMap_append, List.filterMap_cons, hr]
  rcases hcase with ⟨hl, hc, -⟩ | ⟨hl, hc, hsome⟩
  · refine ⟨?_, ?_, by simp only [hset, hresults]; exact h.failures, h.circuit, h.flag⟩
    · unfold Stage
      simp only [hl, hset]
      exact ⟨done, e', rfl, hlen, hd, hc, fun hp _ => hrace hp⟩
    · have ha := awaiting_of_last hw hlen hl
      have ha' : { w with executions := w.executions.set j e' }.awaiting = e'.task.waiters :=
        awaiting_of_last hset hlen hl
      have hp := h.placed
      rw [ha, ← ht] at hp
      rw [ha']
      exact hp
  · refine ⟨?_, ?_, by simp only [hset, hresults]; exact h.failures, h.circuit, h.flag⟩
    · unfold Stage
      simp only [hl, hset]
      exact ⟨done, e', rfl, hlen, hd, hc.congr_last ht hr, by rw [hr]; exact hsome⟩
    · have ha : w.awaiting = [] := by unfold awaiting; rw [hl]
      have ha' : { w with executions := w.executions.set j e' }.awaiting = [] := by unfold awaiting; simp only [hl]
      have hp := h.placed
      rw [ha] at hp
      rw [ha']
      exact hp

/-- The step that turns a race into a result. -/
theorem Sound.decideRace {w : Writer} (h : Sound config w) {j : Nat} {e : Execution} {outcome : RaceOutcome}
    (hj : w.executions[j]? = some e) (hr : e.result = none) (now : Nat) :
    Sound config (w.decideRace config j e outcome now) := by
  obtain ⟨r, hexec, hloop, hpending, hrequests, hresolved, hflag, hcircuit, hcf⟩ :=
    decideRace_spec config w j e outcome now
  have hq : ¬e.Quiet := fun hq => by have := hq.2; rw [hr] at this; cases this
  obtain ⟨done, hw, hlen, hd, hcase⟩ := h.stage.last hj hq
  have hset : (w.decideRace config j e outcome now).executions = done ++ [{ e with result := some r }] := by
    rw [hexec, hw, set_last hlen]
  rcases hcase with ⟨hl, hc, _⟩ | ⟨_, _, hsome⟩
  · refine ⟨?_, ?_, ?_, hcircuit h.circuit, by rw [hflag, hpending]; exact h.flag⟩
    · unfold Stage
      rw [hloop, hl, hresolved]
      exact ⟨done, _, hset, hlen, hd, hc, fun _ hn => by cases hn⟩
    · have ha := awaiting_of_last hw hlen hl
      have ha' := awaiting_of_last hset hlen (hloop.trans hl)
      have hwait : (w.decideRace config j e outcome now).waiting = w.waiting := by unfold waiting; rw [hpending]
      have hp := h.placed
      rw [ha] at hp
      rw [hresolved, ha', hwait, hrequests]
      exact hp
    · have hbefore := h.failures
      rw [hw] at hbefore
      rw [hset]
      simp only [List.filterMap_append, List.filterMap_cons, List.filterMap_nil, hr, List.append_nil] at hbefore ⊢
      split at hcf
      · rw [hcf.2.1, trailingFailures_append_saved hcf.1]
      · have hne : r.status ≠ .saved := by rcases hcf.1 with hs | hs <;> rw [hs] <;> decide
        rw [hcf.2, trailingFailures_append_failure hne, hbefore]
  · rw [hr] at hsome; cases hsome

/-- The loop resumes with a result and resolves the waiters. -/
theorem Sound.deliver {w : Writer} (h : Sound config w) {j : Nat} {e : Execution} {r : SnapshotSaveResult}
    (hl : w.loop = .awaitResult j) (hj : w.executions[j]? = some e) (hr : e.result = some r) :
    Sound config { w.resolve e.task r with loop := .awaitSettled j } := by
  have hstage := h.stage
  unfold Stage at hstage
  simp only [hl] at hstage
  obtain ⟨done, c, hw, hlen, hd, hc, -⟩ := hstage
  obtain rfl : c = e := by
    rw [hw] at hj
    subst hlen
    simpa using hj
  have ha := awaiting_of_last hw hlen hl
  refine ⟨?_, ?_, h.failures, h.circuit, h.flag⟩
  · unfold Stage
    refine ⟨done, c, hw, hlen, hd, ⟨?_, ?_⟩, by rw [hr]; rfl⟩
    · intro d hdm r' hd' n hn
      rcases List.mem_append.1 hdm with hdm | hdm
      · exact List.mem_append_left _ (hc.covered d hdm r' hd' n hn)
      · rw [List.mem_singleton.1 hdm] at hd' hn
        rw [hr, Option.some.injEq] at hd'
        subst hd'
        exact List.mem_append_right _ (List.mem_map.2 ⟨n, hn, rfl⟩)
    · intro p hp
      rcases List.mem_append.1 hp with hp | hp
      · rcases hc.outcome p hp with h | ⟨d, hdm, hn, hd'⟩
        · exact Or.inl h
        · exact Or.inr ⟨d, List.mem_append_left _ hdm, hn, hd'⟩
      · obtain ⟨n, hn, rfl⟩ := List.mem_map.1 hp
        exact Or.inr ⟨c, by simp, hn, hr⟩
  · have hp := h.placed
    rw [ha] at hp
    have hmap : (w.resolve c.task r).resolved.map Prod.fst = w.resolved.map Prod.fst ++ c.task.waiters := by
      simp [resolve, Function.comp_def]
    show ((w.resolve c.task r).resolved.map Prod.fst ++ [] ++ w.waiting).Perm _
    rw [hmap, List.append_nil]
    exact hp

/-- A request that the open circuit refuses. -/
theorem Sound.refused {w : Writer} (h : Sound config w) :
    Sound config { w with requests := w.requests + 1, resolved := w.resolved ++ [(w.requests, circuitOpenResult)] } := by
  have hmore : ∀ p ∈ [(w.requests, circuitOpenResult)], p.2 = circuitOpenResult := by simp
  refine ⟨?_, ?_, h.failures, h.circuit, h.flag⟩
  · have hstage := h.stage
    unfold Stage at hstage ⊢
    cases hl : w.loop with
    | idle => simp only [hl] at hstage ⊢; exact ⟨hstage.1, hstage.2.mono hmore⟩
    | finishing => simp only [hl] at hstage ⊢; exact ⟨hstage.1, hstage.2.mono hmore⟩
    | awaitResult i =>
      simp only [hl] at hstage ⊢
      obtain ⟨done, e, hw, hlen, hd, hc, hr⟩ := hstage
      exact ⟨done, e, hw, hlen, hd, hc.mono hmore, hr⟩
    | awaitSettled i =>
      simp only [hl] at hstage ⊢
      obtain ⟨done, e, hw, hlen, hd, hc, hr⟩ := hstage
      exact ⟨done, e, hw, hlen, hd, hc.mono hmore, hr⟩
  · have hp := h.placed
    show ((w.resolved ++ [(w.requests, circuitOpenResult)]).map Prod.fst ++ w.awaiting ++ w.waiting).Perm _
    rw [List.map_append, List.map_singleton, List.range_succ, List.append_assoc, List.append_assoc]
    refine List.Perm.trans ?_ ((List.append_assoc _ _ _ ▸ hp).append_right _)
    exact (List.perm_append_comm.append_left _).trans (by simp)

/-- A request that is merged into the pending task. -/
theorem Sound.coalesced {w : Writer} (h : Sound config w) {task : PendingWrite} (ht : task.waiters = [w.requests]) :
    Sound config (({ w with
      requests := w.requests + 1, metrics := { w.metrics with circuitOpen := false } } : Writer).coalesce task) := by
  refine ⟨h.stage, ?_, h.failures, (fun ho => by cases ho), rfl⟩
  have hw : (({ w with
      requests := w.requests + 1, metrics := { w.metrics with circuitOpen := false } } : Writer).coalesce task).waiting =
      w.waiting ++ [w.requests] := by
    unfold coalesce waiting
    cases w.pending <;> simp [ht]
  have hp := h.placed
  rw [hw]
  show (w.resolved.map Prod.fst ++ w.awaiting ++ (w.waiting ++ [w.requests])).Perm (List.range (w.requests + 1))
  rw [List.range_succ, ← List.append_assoc]
  exact hp.append_right _

theorem Sound.request {w : Writer} (h : Sound config w) (now : Nat) (build : Except String BuiltSnapshot) :
    Sound config (w.request config now build) := by
  rcases request_cases config w now build with ⟨-, he⟩ | ⟨-, ⟨hl, he⟩ | ⟨-, he⟩⟩
  · rw [he]
    exact h.refused
  · rw [he]
    have hstage := h.stage
    unfold Stage at hstage
    simp only [hl] at hstage
    refine Ready.start (w := { w with requests := w.requests + 1, metrics := { w.metrics with circuitOpen := false } })
      ⟨hstage.1, hstage.2, ?_, h.failures, fun ho => by cases ho⟩ now build
    have ha : w.awaiting = [] := by unfold awaiting; rw [hl]
    have hp := h.placed
    rw [ha, List.append_nil] at hp
    show (w.resolved.map Prod.fst ++ [w.requests] ++ w.waiting).Perm (List.range (w.requests + 1))
    rw [List.range_succ, List.append_assoc]
    exact ((List.perm_append_comm).append_left _).trans (by rw [← List.append_assoc]; exact hp.append_right _)
  · rw [he]
    exact h.coalesced rfl

/-- The loop resumes after its write has settled. -/
theorem Sound.afterSettled {w : Writer} (h : Sound config w) {j : Nat} {e : Execution} (hl : w.loop = .awaitSettled j)
    (hj : w.executions[j]? = some e) (hp : e.physical = .settled) (now : Nat) (build : Except String BuiltSnapshot) :
    Sound config (w.afterSettled config now build) := by
  have hstage := h.stage
  unfold Stage at hstage
  simp only [hl] at hstage
  obtain ⟨done, c, hw, hlen, hd, hc, hr⟩ := hstage
  obtain rfl : c = e := by
    rw [hw] at hj
    subst hlen
    simpa using hj
  have hquiet : ∀ d ∈ w.executions, d.Quiet := by
    intro d hdm
    rw [hw] at hdm
    rcases List.mem_append.1 hdm with hdm | hdm
    · exact hd d hdm
    · rw [List.mem_singleton.1 hdm]; exact ⟨hp, hr⟩
  have hcover : Covered w.resolved w.executions := by rw [hw]; exact hc
  have ha : w.awaiting = [] := by unfold awaiting; rw [hl]
  have hplaced := h.placed
  rw [ha, List.append_nil] at hplaced
  unfold Writer.afterSettled
  cases hpend : w.pending with
  | none =>
    have hwait : w.waiting = [] := by unfold waiting; rw [hpend]; rfl
    rw [hwait, List.append_nil] at hplaced
    refine ⟨⟨hquiet, hcover⟩, ?_, h.failures, h.circuit, rfl⟩
    show (w.resolved.map Prod.fst ++ [] ++ []).Perm _
    simpa using hplaced
  | some task =>
    have hwait : w.waiting = task.waiters := by unfold waiting; rw [hpend]; rfl
    rw [hwait] at hplaced
    dsimp only
    split
    · have hmore : ∀ p ∈ task.waiters.map fun n => (n, circuitOpenResult), p.2 = circuitOpenResult := by simp
      refine ⟨⟨hquiet, hcover.mono hmore⟩, ?_, h.failures, h.circuit, rfl⟩
      show ((w.resolved ++ task.waiters.map fun n => (n, circuitOpenResult)).map Prod.fst ++ [] ++ []).Perm
        (List.range w.requests)
      simpa [Function.comp_def] using hplaced
    · refine Ready.start (w := { w with pending := none, metrics := { w.metrics with pending := 0 } })
        ⟨hquiet, hcover, ?_, h.failures, h.circuit⟩ now build
      show (w.resolved.map Prod.fst ++ task.waiters ++ []).Perm (List.range w.requests)
      simpa using hplaced

/-- Every step keeps the invariant. -/
theorem Sound.step {w w' : Writer} (h : Sound config w) {event : WriterEvent} (hs : w.step config event = some w') :
    Sound config w' := by
  cases event with
  | request now build =>
    cases hs
    exact h.request now build
  | flush =>
    cases hs
    exact h
  | writeStart j =>
    refine h.onExecution (fun e e' he => ?_) hs
    split at he
    · rename_i hq
      cases he
      refine ⟨fun hquiet => ?_, rfl, rfl, fun hp => by cases hp⟩
      rw [hquiet.1] at hq; cases hq
    · cases he
  | settle j outcome =>
    refine h.onExecution (fun e e' he => ?_) hs
    dsimp only at he
    split at he
    · rename_i hq
      cases he
      refine ⟨fun hquiet => ?_, rfl, rfl, fun _ => by simp⟩
      rw [hquiet.1] at hq; cases hq
    · cases he
  | timer j =>
    refine h.onExecution (fun e e' he => ?_) hs
    split at he
    · rename_i hq
      cases he
      refine ⟨fun hquiet => ?_, rfl, rfl, fun _ => rfl⟩
      have := hquiet.2
      rw [hq.2] at this; cases this
    · cases he
  | decide j now =>
    simp only [Writer.step] at hs
    split at hs
    · rename_i e hj
      split at hs
      · rename_i outcome hrace hres
        cases hs
        exact h.decideRace hj hres now
      · cases hs
    · cases hs
  | deliver =>
    simp only [Writer.step] at hs
    split at hs
    · rename_i j hl
      split at hs
      · rename_i e hj
        obtain ⟨r, hr, rfl⟩ := Option.map_eq_some_iff.1 hs
        exact h.deliver hl hj hr
      · cases hs
    · cases hs
  | exitCheck now build =>
    simp only [Writer.step] at hs
    split at hs
    · rename_i j hl
      split at hs
      · rename_i e hj
        split at hs
        · rename_i hp
          cases hs
          exact h.afterSettled hl hj hp now build
        · cases hs
      · cases hs
    · cases hs
  | finish =>
    simp only [Writer.step] at hs
    split at hs
    · rename_i hl
      cases hs
      have hstage := h.stage
      unfold Stage at hstage
      simp only [hl] at hstage
      have ha : w.awaiting = [] := by unfold awaiting; rw [hl]
      have hp := h.placed
      rw [ha] at hp
      exact ⟨hstage, hp, h.failures, h.circuit, rfl⟩
    · cases hs

theorem sound_init : Sound config {} where
  stage := ⟨by simp, by simp, by simp⟩
  placed := by simp [awaiting, waiting]
  failures := rfl
  circuit := fun ho => by cases ho
  flag := rfl

/-! ### Single flight, waiters and the circuit -/

/-- What the writer promises about writes, waiters and its metrics. -/
structure Guarantees (config : SnapshotRuntimeConfig) (w : Writer) : Prop where
  oneWrite : (w.executions.filter fun e => decide (e.physical ≠ .settled)).length ≤ 1
  onePending : w.metrics.pending = w.pending.toList.length
  resolvedOnce : (w.resolved.map Prod.fst).Nodup
  resolvedWith : ∀ n r, (n, r) ∈ w.resolved →
    (∃ e ∈ w.executions, n ∈ e.task.waiters ∧ e.result = some r) ∨
      (r = circuitOpenResult ∧ ∀ e ∈ w.executions, n ∉ e.task.waiters)
  coveringOutcome : ∀ e ∈ w.executions, ∀ n ∈ e.task.waiters, ∀ r, (n, r) ∈ w.resolved → e.result = some r
  failures : w.metrics.consecutiveFailures = trailingFailures (w.executions.filterMap Execution.result)
  circuit : w.metrics.circuitOpen = true → config.failureThreshold ≤ w.metrics.consecutiveFailures
  handoff : ∀ now, (w.readMetrics config now).handoffEnabled = true ↔
    w.metrics.consecutiveFailures < config.failureThreshold
  success : ∀ j now w', w.step config (.decide j now) = some w' →
    (w.executions[j]?.bind Execution.race) = some .saved →
    w'.metrics.circuitOpen = false ∧ w'.metrics.consecutiveFailures = 0

private theorem unsettled_le_one {done : List Execution} (hd : ∀ d ∈ done, d.Quiet) (e : Execution) :
    ((done ++ [e]).filter fun e => decide (e.physical ≠ .settled)).length ≤ 1 := by
  have hnil : done.filter (fun e => decide (e.physical ≠ .settled)) = [] := by
    refine List.filter_eq_nil_iff.2 fun d hdm => ?_
    simp [(hd d hdm).1]
  rw [List.filter_append, hnil, List.nil_append]
  exact List.length_filter_le _ _

theorem Sound.oneWrite {w : Writer} (h : Sound config w) :
    (w.executions.filter fun e => decide (e.physical ≠ .settled)).length ≤ 1 := by
  have hstage := h.stage
  have hall : (∀ e ∈ w.executions, e.Quiet) →
      (w.executions.filter fun e => decide (e.physical ≠ .settled)).length ≤ 1 := by
    intro hq
    have hnil : w.executions.filter (fun e => decide (e.physical ≠ .settled)) = [] :=
      List.filter_eq_nil_iff.2 fun d hdm => by simp [(hq d hdm).1]
    rw [hnil]
    exact Nat.zero_le 1
  unfold Stage at hstage
  cases hl : w.loop with
  | idle => simp only [hl] at hstage; exact hall hstage.1
  | finishing => simp only [hl] at hstage; exact hall hstage.1
  | awaitResult i =>
    simp only [hl] at hstage
    obtain ⟨done, e, hw, -, hd, -⟩ := hstage
    rw [hw]
    exact unsettled_le_one hd e
  | awaitSettled i =>
    simp only [hl] at hstage
    obtain ⟨done, e, hw, -, hd, -⟩ := hstage
    rw [hw]
    exact unsettled_le_one hd e

private theorem placed_nodup {w : Writer} (h : Sound config w) :
    (w.resolved.map Prod.fst ++ w.awaiting ++ w.waiting).Nodup := h.placed.nodup_iff.2 List.nodup_range

private theorem eq_of_mem_resolved {w : Writer} (h : Sound config w) {n : Nat} {r r' : SnapshotSaveResult}
    (h1 : (n, r) ∈ w.resolved) (h2 : (n, r') ∈ w.resolved) : r = r' := by
  have hn : (w.resolved.map Prod.fst).Nodup := (List.nodup_append.1 (List.nodup_append.1 (placed_nodup h)).1).1
  have := List.inj_on_of_nodup_map hn h1 h2 rfl
  exact (Prod.mk.injEq _ _ _ _ ▸ this).2

/-- A waiter that has been resolved got the result of the execution that covered it. -/
theorem Sound.coveringOutcome {w : Writer} (h : Sound config w) {e : Execution} (he : e ∈ w.executions) {n : Nat}
    (hn : n ∈ e.task.waiters) {r : SnapshotSaveResult} (hr : (n, r) ∈ w.resolved) : e.result = some r := by
  have hstage := h.stage
  have hdone : ∀ {done : List Execution}, (e ∈ done) → e.result.isSome → Covered w.resolved done → e.result = some r := by
    intro done hm hsome hc
    obtain ⟨r', hr'⟩ := Option.isSome_iff_exists.1 hsome
    rw [hr', eq_of_mem_resolved h (hc.covered e hm r' hr' n hn) hr]
  unfold Stage at hstage
  cases hl : w.loop with
  | idle => simp only [hl] at hstage; exact hdone he (hstage.1 e he).2 hstage.2
  | finishing => simp only [hl] at hstage; exact hdone he (hstage.1 e he).2 hstage.2
  | awaitResult i =>
    simp only [hl] at hstage
    obtain ⟨done, c, hw, hlen, hd, hc, -⟩ := hstage
    have ha := awaiting_of_last hw hlen hl
    rw [hw] at he
    rcases List.mem_append.1 he with he | he
    · exact hdone he (hd e he).2 hc
    · rw [List.mem_singleton.1 he] at hn
      have hnodup := (List.nodup_append.1 (placed_nodup h)).1
      rw [ha] at hnodup
      exact absurd rfl ((List.nodup_append.1 hnodup).2.2 n (List.mem_map.2 ⟨(n, r), hr, rfl⟩) n hn)
  | awaitSettled i =>
    simp only [hl] at hstage
    obtain ⟨done, c, hw, hlen, hd, hc, hsome⟩ := hstage
    rw [hw] at he
    refine hdone he ?_ hc
    rcases List.mem_append.1 he with he | he
    · exact (hd e he).2
    · rw [List.mem_singleton.1 he]; exact hsome

private theorem Sound.outcome {w : Writer} (h : Sound config w) {n : Nat} {r : SnapshotSaveResult}
    (hr : (n, r) ∈ w.resolved) :
    r = circuitOpenResult ∨ ∃ e ∈ w.executions, n ∈ e.task.waiters ∧ e.result = some r := by
  have hstage := h.stage
  unfold Stage at hstage
  cases hl : w.loop with
  | idle => simp only [hl] at hstage; exact hstage.2.outcome _ hr
  | finishing => simp only [hl] at hstage; exact hstage.2.outcome _ hr
  | awaitResult i =>
    simp only [hl] at hstage
    obtain ⟨done, c, hw, -, -, hc, -⟩ := hstage
    rcases hc.outcome _ hr with h | ⟨e, he, hn, hres⟩
    · exact Or.inl h
    · exact Or.inr ⟨e, by rw [hw]; exact List.mem_append_left _ he, hn, hres⟩
  | awaitSettled i =>
    simp only [hl] at hstage
    obtain ⟨done, c, hw, -, -, hc, -⟩ := hstage
    rw [hw]
    exact hc.outcome _ hr

theorem Sound.guarantees {w : Writer} (h : Sound config w) : Guarantees config w where
  oneWrite := h.oneWrite
  onePending := h.flag
  resolvedOnce := (List.nodup_append.1 (List.nodup_append.1 (placed_nodup h)).1).1
  resolvedWith n r hr := by
    by_cases hc : ∃ e ∈ w.executions, n ∈ e.task.waiters
    · obtain ⟨e, he, hn⟩ := hc
      exact Or.inl ⟨e, he, hn, h.coveringOutcome he hn hr⟩
    · rcases h.outcome hr with hr | ⟨e, he, hn, -⟩
      · exact Or.inr ⟨hr, fun e he hn => hc ⟨e, he, hn⟩⟩
      · exact absurd ⟨e, he, hn⟩ hc
  coveringOutcome e he n hn r hr := h.coveringOutcome he hn hr
  failures := h.failures
  circuit := h.circuit
  handoff now := by
    have hc := h.circuit
    unfold CircuitSound at hc
    unfold readMetrics
    simp only [Bool.and_eq_true, Bool.not_eq_true', decide_eq_true_eq]
    constructor
    · exact fun hh => hh.2
    · intro hlt
      refine ⟨?_, hlt⟩
      cases ho : w.metrics.circuitOpen with
      | false => rfl
      | true => have := hc ho; omega
  success j now w' hs hrace := by
    simp only [Writer.step] at hs
    split at hs
    · rename_i e hj
      rw [hj, Option.bind_some] at hrace
      simp only [hrace] at hs
      split at hs
      · rename_i outcome _ ho _
        cases ho
        cases hs
        obtain ⟨r, -, -, -, -, -, -, -, hcf⟩ := decideRace_spec config w j e .saved now
        simp only [if_true] at hcf
        exact ⟨hcf.2.2, hcf.2.1⟩
      · cases hs
    · cases hs

/-- Single flight and the circuit, over every run: at most one physical write under way and one task pending, every
waiter resolved at most once and with the outcome of the task that covered it, the circuit open only after enough
consecutive failures, handoff enabled just below that number, and both reset by a write that succeeds in time. -/
theorem writer_guarantees (config : SnapshotRuntimeConfig) (events : List WriterEvent) :
    Throughout (step config) (Guarantees config) {} events :=
  (throughout_of_step (fun _ _ _ h hs => Sound.step h hs) sound_init events).mono fun _ h => h.guarantees

/-- A write that succeeds after its timer leaves the circuit open and the failure counted. -/
theorem late_success_ignored :
    (runFrom (step ⟨8388608, 1, 5000⟩) {}
      [.request 0 (.ok { roomEpoch := 1, serverTick := 10, checksum := "c", payloadBytes := 100 }), .writeStart 0, .timer 0, .decide 0 750, .settle 0 (.ok ())]).map
      (fun w => (w.executions.map fun e => e.physical, w.metrics.circuitOpen, w.metrics.consecutiveFailures)) =
      some ([.settled], true, 1) := by decide +kernel

end Writer

end Opsia
