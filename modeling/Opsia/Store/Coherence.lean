import Opsia.Store.Captured

/-!
# What the reported status describes

The status of an active takes its tick from the last snapshot built, its checksum from the last one acknowledged (or
from the hand-over), and its epoch from the store.  The three belong to one snapshot, the one stored last, when the last
snapshot built has been acknowledged under the present epoch and nothing has been stored since; a candidate repeats the
status of its last seeding or release, which holds as long as nothing is stored (`reports_coherent`).
-/

namespace Opsia

/-- The status names no envelope, or the one stored last. -/
def Report.Coherent (r : Report) : Prop :=
  r.status.triple = none ∨ r.status.triple = r.newest.map SnapshotView.triple

namespace Store

variable {config : SnapshotRuntimeConfig}

/-- The status that `handoffStatus` gives is settled. -/
def AtRest (room : Room) (s : Store) : Prop :=
  if s.role = .candidate then (∀ status ∈ s.candidateStatus, status.triple = none) ∨ s.statusAt = some room.stored.length
  else s.currentChecksum = none ∨ SavedLast room s

instance (room : Room) (s : Store) : Decidable (AtRest room s) := by
  unfold AtRest
  infer_instance

/-- The status that a release is about to give is settled: the store was saved when its flush ended, and since then
nothing has been stored and neither the epoch nor the checksum has changed. -/
def Release.AtRest (room : Room) (s : Store) (release : Release) : Prop :=
  ∃ triple ∈ release.released, release.versions = room.stored.length ∧ triple.1 = s.roomEpoch ∧
    s.authorityChecksum = some triple.2.2

instance (room : Room) (s : Store) (release : Release) : Decidable (Release.AtRest room s release) := by
  unfold Release.AtRest
  infer_instance

/-- What a triple is on record as is stored. -/
def StoredAs (room : Room) (n : Nat) (triple : Int × Nat × String) : Prop :=
  ∃ v : SnapshotView, room.stored[n - 1]? = some v ∧ v.triple = triple

/-- What is on record about the status of a candidate and about releases under way. -/
structure Recorded (room : Room) (s : Store) : Prop where
  status : s.alive = true → ∀ n status triple, s.statusAt = some n → s.candidateStatus = some status →
    status.triple = some triple → StoredAs room n triple
  releases : ∀ release ∈ s.releases, ∀ triple, release.released = some triple →
    triple.2.1 = release.serverTick ∧ StoredAs room release.versions triple

theorem StoredAs.mono {room room' : Room} {n : Nat} {triple : Int × Nat × String} (h : StoredAs room n triple)
    (hp : room.stored <+: room'.stored) : StoredAs room' n triple := by
  obtain ⟨v, hv, ht⟩ := h
  obtain ⟨more, hmore⟩ := hp
  refine ⟨v, ?_, ht⟩
  rw [← hmore, List.getElem?_append_left (List.getElem?_eq_some_iff.1 hv).1]
  exact hv

theorem Recorded.mono {room room' : Room} {s : Store} (h : Recorded room s) (hp : room.stored <+: room'.stored) :
    Recorded room' s where
  status ha n status triple hn hs ht := (h.status ha n status triple hn hs ht).mono hp
  releases release hr triple ht := (h.releases release hr triple ht).imp id fun hs => hs.mono hp

private theorem Recorded.congr {room : Room} {s s' : Store} (h : Recorded room s) (ha : s'.alive = true → s.alive = true)
    (hn : s'.statusAt = s.statusAt) (hs : s'.candidateStatus = s.candidateStatus)
    (hr : ∀ release ∈ s'.releases, release ∈ s.releases) : Recorded room s' where
  status hal n status triple hn' hs' ht := h.status (ha hal) n status triple (hn ▸ hn') (hs ▸ hs') ht
  releases release hm := h.releases release (hr release hm)

theorem recorded_exit {room : Room} {s t : Store} (hr : ∀ release ∈ t.releases, release ∈ s.releases)
    (h : Recorded room s) : Recorded room t.exit where
  status ha := by cases ha
  releases release hm := h.releases release (hr release hm)

/-- The newest snapshot is the last one stored. -/
theorem storedAs_length {room : Room} {triple : Int × Nat × String} (h : StoredAs room room.stored.length triple) :
    room.snapshot.map SnapshotView.triple = some triple := by
  obtain ⟨v, hv, ht⟩ := h
  unfold Room.snapshot
  rw [List.getLast?_eq_getElem?, hv, Option.map_some, ht]

private theorem storedAs_snapshot {room : Room} {v : SnapshotView} (h : room.snapshot = some v) :
    StoredAs room room.stored.length v.triple := by
  unfold Room.snapshot at h
  rw [List.getLast?_eq_getElem?] at h
  exact ⟨v, h, rfl⟩

/-- A store that has saved last reports what is stored last. -/
theorem SavedLast.stored {room : Room} {s : Store} (hc : s.Consistent config room) (h : SavedLast room s) :
    ∃ checksum, s.writer.metrics.lastChecksum = some checksum ∧
      StoredAs room room.stored.length (s.roomEpoch, s.writer.metrics.serverTick, checksum) := by
  obtain ⟨hack, hsync, v, hv, hepoch⟩ := h
  obtain ⟨u, hu, hsnapshot⟩ := hc.synced.newest hsync
  obtain ⟨i, hi⟩ := Option.isSome_iff_exists.1 (hc.captured.acknowledged hack)
  obtain ⟨b, r, -, hb, htick, -, hdone⟩ := hc.captured.capture i hi
  have hsum := (hdone hack).2
  rw [hb] at hv hu
  cases hv
  cases hu
  refine ⟨b.checksum, hsum, ?_⟩
  have := storedAs_snapshot hsnapshot
  unfold SnapshotView.triple at this
  rw [hepoch] at this
  rw [htick]
  exact this

/-! ### The record is kept -/

private theorem answers_triple {status : OpsiaHandoffStatusData} {reached : Option SnapshotView}
    {triple : Int × Nat × String} (h : Answers status reached) (ht : status.triple = some triple) :
    ∃ v, reached = some v ∧ v.triple = triple := by
  unfold OpsiaHandoffStatusData.triple at ht
  rcases h.fields with ⟨hroom, -, -⟩ | ⟨v, hv, hepoch, htick, hsum⟩
  · rw [hroom] at ht
    cases ht
  · rw [hepoch, htick, hsum] at ht
    cases ht
    exact ⟨v, hv, rfl⟩

private theorem recorded_seedFinish {room : Room} {s s' : Store} {k now : Nat} {status : OpsiaHandoffStatusData}
    {chain : List JournalDelta} {restore : Except String Unit} (h : Recorded room s)
    (hs : s.seedFinish room k now status chain restore = some s') : Recorded room s' := by
  obtain ⟨seeding, reached, t, error, -, -, -, hanswers, ht, rfl⟩ := seedFinish_cases hs
  -- the seeding changes the record of the status only
  have hframe : t.releases = s.releases ∧ t.statusAt = (s.arrival room k seeding reached).statusAt := by
    unfold applyOutcome applyCandidateEnvelope at ht
    repeat' split at ht
    all_goals cases ht
    all_goals exact ⟨rfl, rfl⟩
  obtain ⟨hreleases, hat⟩ := hframe
  have hrecorded : ∀ n triple, t.statusAt = some n → status.triple = some triple → StoredAs room n triple := by
    intro n triple hn ht
    obtain ⟨v, rfl, rfl⟩ := answers_triple hanswers ht
    rw [hat] at hn
    unfold arrival at hn
    dsimp only at hn
    split at hn
    · rename_i hnewest
      cases hn
      exact storedAs_snapshot hnewest.2
    · cases hn
  have hkept : ∀ release ∈ t.releases, release ∈ s.releases := fun release hm => hreleases ▸ hm
  split
  · unfold settleStart
    split
    · exact recorded_exit hkept h
    · refine ⟨fun _ n status' triple hn hs' ht => ?_, fun release hm => h.releases release (hkept _ hm)⟩
      cases hs'
      exact hrecorded n triple hn ht
  · unfold settleSeeding
    split
    all_goals refine ⟨fun _ n status' triple hn hs' ht => ?_, fun release hm => h.releases release (hkept _ hm)⟩
    all_goals cases hs'
    all_goals exact hrecorded n triple hn ht

private theorem recorded_acquired {room room' : Room} {i k : Nat} {s s' : Store} {lost : Bool} (h : Recorded room s)
    (hs : s.acquired room i k lost = some (room', s')) : Recorded room s' := by
  obtain ⟨a, reply, -, -, heq⟩ := acquired_cases hs
  have hnone : ∀ t : Store, t.candidateStatus = none → t.releases = s.releases → Recorded room t := by
    intro t hstatus hreleases
    refine ⟨fun _ n status triple _ hs' => ?_, fun release hm => h.releases release (hreleases ▸ hm)⟩
    rw [hstatus] at hs'
    cases hs'
  dsimp only at heq
  split at heq
  · unfold startAcquired at heq
    repeat' split at heq
    all_goals cases heq
    · exact h.congr id rfl rfl fun _ hm => hm
    · exact h.congr id rfl rfl fun _ hm => hm
    · exact h.congr id rfl rfl fun _ hm => hm
    · exact ⟨fun ha => (by cases ha), fun r hm => h.releases r hm⟩
  · unfold promoteAcquired at heq
    dsimp only at heq
    split at heq
    · cases heq
      exact hnone _ rfl rfl
    · split at heq <;> cases heq <;> exact h.congr id rfl rfl fun _ hm => hm
  · unfold recoverAcquired at heq
    split at heq <;> cases heq
    · exact hnone _ rfl rfl
    · exact h.congr id rfl rfl fun _ hm => hm
    · exact ⟨fun ha => (by cases ha), fun r hm => h.releases r hm⟩

private theorem recorded_authority {room room' : Room} {i : Nat} {s s' : Store} {event : AuthorityEvent}
    (hc : s.Consistent config room) (h : Recorded room s) (hs : s.authorityStep room i event = some (room', s')) :
    Recorded room s' := by
  cases event with
  | loadFinish now result =>
    obtain ⟨hk, rfl⟩ := keeping_eq_some.1 hs
    unfold loadFinish at hk
    split at hk
    · cases hk
      exact h.congr id rfl rfl fun _ hm => hm
    · split at hk <;> cases hk
      · exact h.congr id rfl rfl fun _ hm => hm
      · exact h.congr id rfl rfl fun _ hm => hm
      · exact recorded_exit (fun _ hm => hm) h
    · cases hk
  | acquired k lost => exact recorded_acquired h hs
  | seedFinish k now status chain restore =>
    obtain ⟨hk, rfl⟩ := keeping_eq_some.1 hs
    exact recorded_seedFinish h hk
  | release request =>
    obtain ⟨hk, rfl⟩ := keeping_eq_some.1 hs
    unfold releaseActiveForHandoff at hk
    split at hk <;> cases hk
    refine ⟨h.status, fun release hm triple ht => ?_⟩
    rcases List.mem_append.1 hm with hm | hm
    · exact h.releases release hm triple ht
    · rw [List.mem_singleton.1 hm] at ht
      cases ht
  | releaseFlushed k =>
    obtain ⟨hk, rfl⟩ := keeping_eq_some.1 hs
    obtain ⟨currentChecksum, -, rfl⟩ := releaseFlushed_cases hk
    refine ⟨h.status, fun release hm triple ht => ?_⟩
    rcases List.mem_or_eq_of_mem_set hm with hm | rfl
    · exact h.releases release hm triple ht
    · dsimp only at ht ⊢
      split at ht
      · rename_i hsaved
        cases ht
        obtain ⟨checksum, hsum, hstored⟩ := hsaved.stored hc
        rw [hsum]
        exact ⟨rfl, hstored⟩
      · cases ht
  | releaseLease k =>
    simp only [authorityStep, releaseLease] at hs
    repeat' split at hs
    all_goals cases hs
    rename_i release hk _
    refine ⟨h.status, fun r hm triple ht => ?_⟩
    rcases List.mem_or_eq_of_mem_set hm with hm | rfl
    · exact h.releases r hm triple ht
    · exact h.releases release (List.mem_of_getElem? hk) triple ht
  | released k now lost =>
    obtain ⟨release, call, reply, hk, -, -, ⟨-, -, rfl⟩ | ⟨-, -, rfl⟩⟩ := released_cases hs
    · exact h.congr id rfl rfl fun _ hm => List.mem_of_mem_eraseIdx hm
    · refine ⟨fun _ n status triple hn hs' ht => ?_, fun r hm => h.releases r (List.mem_of_mem_eraseIdx hm)⟩
      cases hs'
      dsimp only at hn
      split at hn
      · rename_i hsame
        cases hn
        rw [hsame] at ht
        exact (h.releases release (List.mem_of_getElem? hk) triple ht).2
      · cases hn
  | _ =>
    obtain ⟨_, _, _, _, _, _, _, _, _, _, _, _, _, -, ha, rfl⟩ := authorityStep_quiet rfl hs
    exact h.congr ha rfl rfl fun _ hm => hm

/-- One step keeps the record. -/
theorem recorded_step {room room' : Room} {i : Nat} {s s' : Store} {e : StoreEvent} (hc : s.Consistent config room)
    (h : Recorded room s) (hs : s.step config room i e = some (room', s')) : Recorded room' s' := by
  have hextended := (consistent_step hc hs).2.1
  refine Recorded.mono ?_ hextended
  cases e with
  | saving e =>
    simp only [Store.step] at hs
    split at hs
    · obtain ⟨_, _, _, _, _, _, _, _, _, _, _, _, _, -, rfl⟩ := savingStep_frame hs
      exact h.congr id rfl rfl fun _ hm => hm
    · cases hs
  | authority e =>
    simp only [Store.step] at hs
    split at hs
    · exact recorded_authority hc h hs
    · cases hs
  | session e =>
    simp only [Store.step] at hs
    split at hs
    · cases hs
      cases e <;> exact h.congr id rfl rfl fun _ hm => hm
    · cases hs
  | handoffStatus now =>
    simp only [Store.step] at hs
    split at hs <;> cases hs
    exact h

/-! ### Reports -/

theorem handoffStatus_coherent {room : Room} {s : Store} {now : Nat} (hc : s.Consistent config room)
    (h : Recorded room s) (ha : s.alive = true) (hrest : s.AtRest room) :
    Report.Coherent { status := s.handoffStatus config now, newest := room.snapshot } := by
  unfold Report.Coherent handoffStatus
  dsimp only
  unfold AtRest at hrest
  split
  · rename_i hrole
    rw [if_pos hrole] at hrest
    cases hstatus : s.candidateStatus with
    | none => exact Or.inl rfl
    | some status =>
      rw [Option.getD_some]
      cases ht : status.triple with
      | none => exact Or.inl rfl
      | some triple =>
        rcases hrest with hnone | hat
        · rw [hnone status hstatus] at ht
          cases ht
        · exact Or.inr (storedAs_length (h.status ha _ status triple hat hstatus ht)).symm
  · rename_i hrole
    rw [if_neg hrole] at hrest
    rcases hrest with hnone | hsaved
    · left
      unfold OpsiaHandoffStatusData.triple
      dsimp only
      rw [hnone]
    · right
      obtain ⟨checksum, hsum, hstored⟩ := hsaved.stored hc
      rw [storedAs_length hstored]
      unfold OpsiaHandoffStatusData.triple
      dsimp only
      unfold currentChecksum
      rw [hsum]
      rfl

theorem releasedStatus_coherent {room : Room} {s : Store} {release : Release} {now : Nat}
    (h : Recorded room s) (hm : release ∈ s.releases) (hrest : Release.AtRest room s release) :
    Report.Coherent { status := s.releasedStatus release now, newest := room.snapshot } := by
  obtain ⟨triple, ht, hversions, hepoch, hsum⟩ := hrest
  obtain ⟨htick, hstored⟩ := h.releases release hm triple ht
  right
  rw [hversions] at hstored
  rw [storedAs_length hstored]
  unfold OpsiaHandoffStatusData.triple releasedStatus
  dsimp only
  rw [hsum, ← hepoch, ← htick]

end Store

namespace World

open Machine

variable {config : SnapshotRuntimeConfig}

/-- Every status that was reported names the snapshot stored last. -/
def ReportsCoherent (w : World) : Prop := ∀ r ∈ w.room.reports, r.Coherent

/-- A status is only reported, by `handoffStatus` or at the end of a release, when it is settled. -/
def ReportedAtRest (w : World) : WorldEvent → Prop
  | .at i (.handoffStatus _) => ∀ s ∈ w.stores[i]?, s.AtRest w.room
  | .at i (.authority (.released k _ _)) => ∀ s ∈ w.stores[i]?, ∀ release ∈ s.releases[k]?, Store.Release.AtRest w.room s release
  | _ => True

instance (w : World) (event : WorldEvent) : Decidable (ReportedAtRest w event) := by
  unfold ReportedAtRest
  split <;> infer_instance

/-- A step reports nothing, or one status: that of `handoffStatus` or of a release that ends. -/
theorem step_reports {room room' : Room} {i : Nat} {s s' : Store} {e : StoreEvent}
    (h : s.step config room i e = some (room', s')) :
    room'.reports = room.reports ∨
    (∃ now, e = .handoffStatus now ∧ s.alive = true ∧
      room'.reports = room.reports ++ [{ status := s.handoffStatus config now, newest := room.snapshot }]) ∨
    ∃ k now lost release, e = .authority (.released k now lost) ∧ s.releases[k]? = some release ∧
      room'.reports = room.reports ++ [{ status := s.releasedStatus release now, newest := room.snapshot }] := by
  cases e with
  | saving e =>
    simp only [Store.step] at h
    split at h
    · obtain ⟨_, _, _, _, _, _, _, _, _, _, _, _, _, rfl, -⟩ := Store.savingStep_frame h
      exact Or.inl rfl
    · cases h
  | session e =>
    simp only [Store.step] at h
    split at h <;> cases h
    exact Or.inl rfl
  | handoffStatus now =>
    simp only [Store.step] at h
    split at h <;> cases h
    exact Or.inr (Or.inl ⟨now, rfl, ‹_›, rfl⟩)
  | authority e =>
    simp only [Store.step] at h
    split at h
    · cases e with
      | acquired k lost =>
        obtain ⟨a, reply, -, -, heq⟩ := Store.acquired_cases h
        dsimp only at heq
        left
        split at heq
        · unfold Store.startAcquired at heq
          repeat' split at heq
          all_goals cases heq
          all_goals rfl
        · unfold Store.promoteAcquired at heq
          dsimp only at heq
          repeat' split at heq
          all_goals cases heq
          all_goals rfl
        · unfold Store.recoverAcquired at heq
          repeat' split at heq
          all_goals cases heq
          all_goals rfl
      | released k now lost =>
        obtain ⟨release, call, reply, hk, -, -, ⟨-, rfl, -⟩ | ⟨-, rfl, -⟩⟩ := Store.released_cases h
        · exact Or.inl rfl
        · exact Or.inr (Or.inr ⟨k, now, lost, release, rfl, hk, rfl⟩)
      | releaseLease k =>
        simp only [Store.authorityStep, Store.releaseLease] at h
        repeat' split at h
        all_goals cases h
        unfold Room.releaseLease
        split <;> exact Or.inl rfl
      | loadFinish | seedFinish | release | releaseFlushed =>
        obtain ⟨-, rfl⟩ := Store.keeping_eq_some.1 h
        exact Or.inl rfl
      | _ =>
        obtain ⟨_, _, _, _, _, _, _, _, _, _, _, _, _, rfl, -, -⟩ := Store.authorityStep_quiet rfl h
        exact Or.inl rfl
    · cases h

/-- What holds in a run that reports at rest. -/
structure Reporting (config : SnapshotRuntimeConfig) (w : World) : Prop where
  consistent : Consistent config w
  recorded : ∀ (i : Nat) s, w.stores[i]? = some s → s.Recorded w.room
  reports : w.ReportsCoherent

theorem Reporting.step {w w' : World} {event : WorldEvent} (h : Reporting config w) (hrest : ReportedAtRest w event)
    (hs : w.step config event = some w') : Reporting config w' := by
  refine ⟨h.consistent.step hs, ?_, ?_⟩
  · refine each_step (I := fun room _ s => s.Recorded room) h.recorded hs ?_ ?_ ?_ ?_ ?_
    · exact fun env => ⟨fun _ n status triple hn => (by cases hn), fun release hm => (by cases hm)⟩
    · exact fun i s hi => Store.recorded_exit (fun _ hm => hm) hi
    · exact fun i s hi => hi.mono (List.prefix_refl _)
    · exact fun i s e room' s' _ hk hi hstep => Store.recorded_step (h.consistent i s hk) hi hstep
    · exact fun i s e room' s' j t _ hk hstep _ _ ht => ht.mono (Store.consistent_step (h.consistent i s hk) hstep).2.1
  · rcases step_cases hs with ⟨env, -, rfl⟩ | ⟨i, s, -, -, rfl⟩ | ⟨-, rfl⟩ | ⟨i, e, s, room', s', rfl, hi, hstep, rfl⟩
    · exact h.reports
    · exact h.reports
    · exact h.reports
    · have happend : ∀ r, room'.reports = w.room.reports ++ [r] → r.Coherent → ∀ q ∈ room'.reports, q.Coherent := by
        intro r heq hr q hq
        rw [heq] at hq
        rcases List.mem_append.1 hq with hq | hq
        · exact h.reports q hq
        · rw [List.mem_singleton.1 hq]
          exact hr
      rcases step_reports hstep with heq | ⟨now, rfl, ha, heq⟩ | ⟨k, now, lost, release, rfl, hk, heq⟩
      · exact fun r hr => h.reports r (heq ▸ hr)
      · exact happend _ heq (Store.handoffStatus_coherent (h.consistent i s hi) (h.recorded i s hi) ha (hrest s hi))
      · exact happend _ heq
          (Store.releasedStatus_coherent (h.recorded i s hi) (List.mem_of_getElem? hk) (hrest s hi release hk))

/-- In a run in which a status is reported only when it is settled, each status that names an envelope names the one
stored last. -/
theorem reports_coherent (config : SnapshotRuntimeConfig) (lease : Option String) (stored : List SnapshotView)
    (journal : List JournalDelta) (events : List WorldEvent) :
    EachStep (step config) ReportedAtRest (init lease stored journal) events →
      Throughout (step config) ReportsCoherent (init lease stored journal) events := by
  intro h
  have hinit : Reporting config (init lease stored journal) := by
    refine ⟨consistent_init lease stored journal, fun i s hi => ?_, fun r hr => ?_⟩
    · simp [init] at hi
    · cases hr
  refine (throughout_of_eachStep ?_ hinit h).mono fun w hw => hw.reports
  exact fun w event w' hw hrest hs => hw.step hrest hs

open Sample in
/-- The active reports its status, and releases the room. -/
theorem saved_reported :
    Throughout (step limits) ReportsCoherent (init none [] [])
      (startActive 0 ++ saveSent 0 0 10 digestA ++ settled 0 0 ++ [.at 0 (.handoffStatus 0)] ++ release 0 digestA) :=
  reports_coherent limits none [] [] _ (by decide +kernel)

open Sample in
/-- While a further snapshot is on its way, the status names a pair that was never stored. -/
theorem reported_mixed :
    (runFrom (step limits) (init none [] [])
      (startActive 0 ++ saveSent 0 0 10 digestA ++ settled 0 0 ++
        [saves 0 (.save 20 20 (capture digestB)), .at 0 (.handoffStatus 20)])).map
      (fun w => (w.room.reports.map fun r => (r.status.serverTick, r.status.checksum),
        w.room.stored.map fun v => (v.serverTick, v.checksum))) =
      some ([(some 20, some digestA)], [(10, digestA)]) := by
  decide +kernel

end World

end Opsia
