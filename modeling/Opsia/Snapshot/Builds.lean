import Opsia.Snapshot.WriterRuns

/-!
# What the writer has built

The tick in the metrics is that of the last envelope built, the checksum that of the last one acknowledged: a round sets
the one (`request_round`, `exitCheck_round`), a decided race the other (`decide_outcomes`), and no other step touches
either (`step_unchanged`).
-/

namespace Opsia

namespace Writer

variable {config : SnapshotRuntimeConfig}

/-- What each execution has built, and its result. -/
def outcomes (w : Writer) : List (Option BuiltSnapshot × Option SnapshotSaveResult) :=
  w.executions.map fun e => (e.built, e.result)

/-- Nothing has been built or decided. -/
structure Unchanged (w w' : Writer) : Prop where
  outcomes : w'.outcomes = w.outcomes
  serverTick : w'.metrics.serverTick = w.metrics.serverTick
  lastChecksum : w'.metrics.lastChecksum = w.metrics.lastChecksum

/-- A round has been started with a build, after everything before it has got its result. -/
structure Round (config : SnapshotRuntimeConfig) (build : Except String BuiltSnapshot) (w w' : Writer) : Prop where
  decided : ∀ o ∈ w.outcomes, o.2.isSome
  lastChecksum : w'.metrics.lastChecksum = w.metrics.lastChecksum
  built : (∃ b, checkSize config build = .ok b ∧ w'.outcomes = w.outcomes ++ [(some b, none)] ∧
      w'.metrics.serverTick = b.serverTick) ∨
    ∃ message r, checkSize config build = .error message ∧ w'.outcomes = w.outcomes ++ [(none, some r)] ∧
      w'.metrics.serverTick = w.metrics.serverTick

private theorem recordFailure_kept (m : SnapshotWriterMetrics) (u : Nat) (message : String) (status : SaveStatus)
    (startedAt now : Nat) :
    (recordFailure config m u message status startedAt now).1.serverTick = m.serverTick ∧
      (recordFailure config m u message status startedAt now).1.lastChecksum = m.lastChecksum := by
  unfold recordFailure
  dsimp only
  split <;> exact ⟨rfl, rfl⟩

private theorem startRound_round {w : Writer} (hq : ∀ e ∈ w.executions, e.Quiet) (task : PendingWrite) (now : Nat)
    (build : Except String BuiltSnapshot) : Round config build w (w.startRound config task now build) := by
  have hdecided : ∀ o ∈ w.outcomes, o.2.isSome := by
    intro o ho
    obtain ⟨e, he, rfl⟩ := List.mem_map.1 ho
    exact (hq e he).2
  unfold startRound execute
  cases hc : checkSize config build with
  | ok b =>
    refine ⟨hdecided, rfl, Or.inl ⟨b, hc, ?_, rfl⟩⟩
    simp [outcomes]
  | error message =>
    let m := { w.metrics with inflight := 1, pending := w.pending.toList.length }
    refine ⟨hdecided, ?_, Or.inr ⟨message, (recordFailure config m w.circuitOpenUntil message .failed now now).2.2, hc,
      ?_, ?_⟩⟩
    · exact (recordFailure_kept _ _ _ _ _ _).2
    · simp [outcomes, m]
    · exact (recordFailure_kept _ _ _ _ _ _).1

private theorem onExecution_unchanged {w w' : Writer} {i : Nat} {f : Execution → Option Execution}
    (hf : ∀ e e', f e = some e' → e'.built = e.built ∧ e'.result = e.result) (h : w.onExecution i f = some w') :
    Unchanged w w' := by
  obtain ⟨e, e', hi, hfe, rfl⟩ := onExecution_eq_some.1 h
  obtain ⟨hb, hr⟩ := hf e e' hfe
  refine ⟨?_, rfl, rfl⟩
  unfold outcomes
  rw [List.map_set, hb, hr]
  refine List.ext_getElem? fun j => ?_
  rw [List.getElem?_set]
  split
  · rename_i hij
    subst hij
    rw [List.getElem?_map, hi, List.length_map, if_pos (List.getElem?_eq_some_iff.1 hi).1]
    rfl
  · rfl

/-- The steps that neither start a round nor decide a race. -/
theorem step_unchanged {w w' : Writer} {event : WriterEvent} (h : w.step config event = some w')
    (he : match event with
      | .request .. | .exitCheck .. | .decide .. => False
      | _ => True) : Unchanged w w' := by
  cases event with
  | request | exitCheck | decide => cases he
  | flush =>
    cases h
    exact ⟨rfl, rfl, rfl⟩
  | writeStart i =>
    refine onExecution_unchanged (fun e e' hf => ?_) h
    split at hf <;> cases hf
    exact ⟨rfl, rfl⟩
  | settle i outcome =>
    refine onExecution_unchanged (fun e e' hf => ?_) h
    dsimp only at hf
    split at hf <;> cases hf
    exact ⟨rfl, rfl⟩
  | timer i =>
    refine onExecution_unchanged (fun e e' hf => ?_) h
    split at hf <;> cases hf
    exact ⟨rfl, rfl⟩
  | deliver =>
    simp only [step] at h
    split at h
    · split at h
      · obtain ⟨r, -, rfl⟩ := Option.map_eq_some_iff.1 h
        exact ⟨rfl, rfl, rfl⟩
      · cases h
    · cases h
  | finish =>
    simp only [step] at h
    split at h <;> cases h
    exact ⟨rfl, rfl, rfl⟩

/-- A request that does not start a round. -/
theorem request_unchanged {w : Writer} {now : Nat} {build : Except String BuiltSnapshot}
    (h : now < w.circuitOpenUntil ∨ w.loop ≠ .idle) : Unchanged w (w.request config now build) := by
  rcases request_cases config w now build with ⟨-, he⟩ | ⟨hnow, ⟨hl, he⟩ | ⟨-, he⟩⟩
  · rw [he]
    exact ⟨rfl, rfl, rfl⟩
  · rcases h with h | h
    · omega
    · exact absurd hl h
  · rw [he]
    exact ⟨rfl, rfl, rfl⟩

/-- A request that starts a round. -/
theorem request_round {w : Writer} (hw : Sound config w) {now : Nat} (build : Except String BuiltSnapshot)
    (hnow : ¬now < w.circuitOpenUntil) (hidle : w.loop = .idle) : Round config build w (w.request config now build) := by
  rcases request_cases config w now build with ⟨h, -⟩ | ⟨-, ⟨-, he⟩ | ⟨hl, -⟩⟩
  · exact absurd h hnow
  · rw [he]
    have hstage := hw.stage
    unfold Stage at hstage
    simp only [hidle] at hstage
    have hround := @startRound_round config
      { w with requests := w.requests + 1, metrics := { w.metrics with circuitOpen := false } } hstage.1
      { request := w.requests, requestedAt := now, waiters := [w.requests] } now build
    exact ⟨hround.decided, hround.lastChecksum, hround.built⟩
  · exact absurd hidle hl

/-- The exit check starts a round with the pending task, or none. -/
theorem exitCheck_round {w w' : Writer} (hw : Sound config w) {now : Nat} {build : Except String BuiltSnapshot}
    (h : w.step config (.exitCheck now build) = some w') :
    if w.pending.isSome ∧ ¬now < w.circuitOpenUntil then Round config build w w' else Unchanged w w' := by
  simp only [step] at h
  split at h
  · rename_i j hl
    split at h
    · rename_i e hj
      split at h
      · rename_i hp
        cases h
        have hstage := hw.stage
        unfold Stage at hstage
        simp only [hl] at hstage
        obtain ⟨done, c, hexec, hlen, hd, -, hr⟩ := hstage
        obtain rfl : c = e := by
          rw [hexec] at hj
          subst hlen
          simpa using hj
        have hquiet : ∀ d ∈ w.executions, d.Quiet := by
          intro d hdm
          rw [hexec] at hdm
          rcases List.mem_append.1 hdm with hdm | hdm
          · exact hd d hdm
          · rw [List.mem_singleton.1 hdm]
            exact ⟨hp, hr⟩
        unfold afterSettled
        cases hpend : w.pending with
        | none => exact ⟨rfl, rfl, rfl⟩
        | some task =>
          dsimp only
          by_cases hnow : now < w.circuitOpenUntil
          · simp only [hnow, not_true_eq_false, and_false, if_true, if_false]
            exact ⟨rfl, rfl, rfl⟩
          · simp only [hnow, not_false_eq_true, Option.isSome_some, and_self, if_true, if_false]
            have hround := @startRound_round config
              { w with pending := none, metrics := { w.metrics with pending := 0 } } hquiet task now build
            exact ⟨hround.decided, hround.lastChecksum, hround.built⟩
      · cases h
    · cases h
  · cases h

/-- A decided race: the result, and the checksum of what has been saved. -/
theorem decide_outcomes {w w' : Writer} {i now : Nat} (h : w.step config (.decide i now) = some w') :
    ∃ built r, w.outcomes[i]? = some (built, none) ∧ w'.outcomes = w.outcomes.set i (built, some r) ∧
      w'.metrics.serverTick = w.metrics.serverTick ∧
      if r.status = .saved then w'.metrics.lastChecksum = built.map fun b => b.checksum
      else w'.metrics.lastChecksum = w.metrics.lastChecksum := by
  simp only [step] at h
  split at h
  · rename_i e hi
    split at h
    · rename_i outcome hrace hres
      cases h
      have houtcome : w.outcomes[i]? = some (e.built, none) := by
        unfold outcomes
        rw [List.getElem?_map, hi, Option.map_some, hres]
      unfold decideRace
      cases outcome with
      | saved =>
        let r : SnapshotSaveResult :=
          { status := .saved, checksum := e.built.map fun b => b.checksum, payloadBytes := some w.metrics.payloadBytes,
            durationMs := some (now - e.startedAt) }
        refine ⟨e.built, r, houtcome, ?_, rfl, rfl⟩
        simp [outcomes, List.map_set, r]
      | failed message =>
        refine ⟨e.built, (recordFailure config w.metrics w.circuitOpenUntil message .failed e.startedAt now).2.2, houtcome,
          ?_, (recordFailure_kept _ _ _ _ _ _).1, ?_⟩
        · simp [outcomes, List.map_set]
        · rw [recordFailure_status, if_neg (by decide)]
          exact (recordFailure_kept _ _ _ _ _ _).2
      | timeout =>
        refine ⟨e.built, (recordFailure config { w.metrics with timeoutsTotal := w.metrics.timeoutsTotal + 1 }
          w.circuitOpenUntil "snapshot_write_timeout" .timeout e.startedAt now).2.2, houtcome, ?_,
          (recordFailure_kept _ _ _ _ _ _).1, ?_⟩
        · simp [outcomes, List.map_set]
        · rw [recordFailure_status, if_neg (by decide)]
          exact (recordFailure_kept _ _ _ _ _ _).2
    · cases h
  · cases h

end Writer

end Opsia
