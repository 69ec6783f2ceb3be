import Opsia.Store.Freshness

/-!
# The recovery of an abandoned room

A candidate of role `auto` retries the lease of its room, so that a room whose authority dies is taken over in the end.
A started store that is in role candidate is `Guarded` when its takeover timer runs or an attempt at the lease is under
way.  Start, a refused promotion and a refused takeover arm the timer.  A release of the room does not, so an active
that hands its room over never tries to get it back (`recovery_armed_iff`, `released_unguarded`).
-/

namespace Opsia

namespace Store

variable {config : SnapshotRuntimeConfig}

/-- A promotion or a takeover is under way. -/
def Attempted (s : Store) : Prop := ∃ a ∈ s.acquisitions, a.purpose.takesOver = true

/-- The takeover timer is armed, or a promotion or a takeover is under way. -/
def Attempting (s : Store) : Prop := s.candidateTakeoverTimer = true ∨ s.Attempted

/-- A store that is up, neither stopped nor about to stop, and configured to take part in recovery. -/
structure Recoverer (s : Store) : Prop where
  alive : s.alive = true
  started : s.starting = .started
  running : s.stopping = .running
  auto : s.env.configuredRole = .auto

instance (s : Store) : Decidable s.Attempted := by
  unfold Attempted
  infer_instance

instance (s : Store) : Decidable s.Attempting := by
  unfold Attempting
  infer_instance

instance (s : Store) : Decidable s.Recoverer :=
  decidable_of_iff (s.alive = true ∧ s.starting = .started ∧ s.stopping = .running ∧ s.env.configuredRole = .auto)
    ⟨fun h => ⟨h.1, h.2.1, h.2.2.1, h.2.2.2⟩, fun h => ⟨h.alive, h.started, h.running, h.auto⟩⟩

/-- Recovery stays armed at a candidate. -/
def Guarded (s : Store) : Prop := s.Recoverer → s.role = .candidate → s.Attempting

instance (s : Store) : Decidable s.Guarded := by
  unfold Guarded
  infer_instance

/-- The answer of Redis ends a release, and with it the role of the active. -/
def endsRelease (s : Store) (k : Nat) (lost : Bool) : Bool :=
  match s.releases[k]? with
  | some { stage := .releasing call, .. } =>
    call.settle lost == some (some true) || call.settle lost == some (some false)
  | _ => false

/-- The stop has failed at its last command, and the store goes on. -/
def failsStop (s : Store) (lost : Bool) : Bool :=
  match s.stopping with
  | .releasing call => call.settle lost == some none
  | _ => false

/-- The store as it was before its stop. -/
def resumed (s : Store) : Store := { s with stopping := .running }

/-- The steps that may leave a candidate alone.  At the end of a release, and at a stop that fails, the timer runs
already or an attempt is under way.  When the timer runs out the store is ready, or another attempt is under way. -/
def StaysGuarded (s : Store) : AuthorityEvent → Prop
  | .released k _ lost => s.endsRelease k lost = true → s.Recoverer → s.Attempting
  | .takeover => s.Recoverer → s.role = .candidate → s.ready = true ∨ s.Attempted
  | .stopped lost => s.failsStop lost = true → s.resumed.Guarded
  | _ => True

instance (s : Store) (event : AuthorityEvent) : Decidable (s.StaysGuarded event) := by
  unfold StaysGuarded
  split <;> infer_instance

/-! ### Before a store is started -/

/-- A store that has not gone beyond its lease. -/
structure Unstarted (s : Store) : Prop where
  ready : s.ready = false
  timer : s.candidateTakeoverTimer = false
  loader : s.candidateLoader = false
  status : s.candidateStatus = none
  authority : s.authorityChecksum = none
  writer : s.writer = {}
  persisting : s.persisting = none
  seedings : s.seedings = []
  releases : s.releases = []

/-- A store whose `start` has not gone beyond the lease, with what it asks for. -/
structure Early (s : Store) : Prop extends s.Unstarted where
  starting : match s.starting with
    | .constructed | .waiting _ => s.acquisitions = []
    | .acquiring => ∃ attempt call, s.acquisitions = [{ purpose := .start attempt, call }]
    | .loading _ => s.acquisitions = [] ∧ s.role = .active
    | .loadingCandidate | .started => False

/-- A store whose `start` has gone beyond the lease. -/
structure Underway (s : Store) : Prop where
  starting : s.starting = .loadingCandidate ∨ s.starting = .started
  attempts : ∀ a ∈ s.acquisitions, a.purpose.takesOver = true
  status : s.starting = .started → s.role = .candidate → s.candidateStatus.isSome = true

/-- How far a store has come. -/
def Staged (s : Store) : Prop := s.Early ∨ s.Underway

theorem Early.attempted {s : Store} (h : s.Early) : ¬s.Attempted := by
  rintro ⟨a, ha, htakes⟩
  have hs := h.starting
  split at hs
  · rw [hs] at ha
    cases ha
  · rw [hs] at ha
    cases ha
  · obtain ⟨attempt, call, hs⟩ := hs
    rw [hs, List.mem_singleton] at ha
    rw [ha] at htakes
    cases htakes
  · rw [hs.1] at ha
    cases ha
  · exact hs
  · exact hs

/-- Nothing that saves can happen before the store is started. -/
theorem Unstarted.no_saving {room room' : Room} {s s' : Store} {event : SaveEvent} (h : s.Unstarted) :
    s.savingStep config room event ≠ some (room', s') := by
  have hstep : ∀ e, (∀ now build, e ≠ .request now build) → e ≠ .flush → s.writerStep config e = none := by
    intro e hrequest hflush
    unfold writerStep
    rw [h.writer]
    cases e with
    | request now build => exact absurd rfl (hrequest now build)
    | flush => exact absurd rfl hflush
    | writeStart | settle | timer | decide | deliver | exitCheck | finish => rfl
  intro hs
  cases event with
  | save now serverTick capture => simp [savingStep, save, h.ready] at hs
  | exitCheck now capture =>
    have hpending : s.writer.pending = none := by rw [h.writer]
    simp [savingStep, exitCheck, hpending, hstep] at hs
  | timer i => simp [savingStep, keeping, hstep] at hs
  | decide i now => simp [savingStep, keeping, decideWrite, hstep] at hs
  | deliver => simp [savingStep, keeping, hstep] at hs
  | finish => simp [savingStep, keeping, hstep] at hs
  | writeStart i => simp [savingStep, keeping, writeStart, h.writer] at hs
  | saveSet => simp [savingStep, saveSet, h.persisting] at hs
  | saveAnswered lost result => simp [savingStep, keeping, saveAnswered, h.persisting] at hs
  | appendSet => simp [savingStep, appendSet, h.persisting] at hs
  | appendAnswered lost => simp [savingStep, keeping, appendAnswered, h.persisting] at hs

theorem Underway.savingStep {room room' : Room} {s s' : Store} {event : SaveEvent} (h : s.Underway)
    (hs : s.savingStep config room event = some (room', s')) : s'.Underway := by
  obtain ⟨_, _, _, _, _, _, _, _, _, _, _, _, _, -, rfl⟩ := savingStep_frame hs
  exact ⟨h.starting, h.attempts, h.status⟩

/-! ### What the authority side keeps -/

/-- The first lease is granted or not, or its answer ends the process. -/
private theorem early_acquired {room room' : Room} {i k : Nat} {s s' : Store} {lost : Bool} (h : s.Early)
    (hs : s.acquired room i k lost = some (room', s')) (ha : s'.alive = true) : s'.Staged := by
  obtain ⟨a, reply, hk, -, heq⟩ := acquired_cases hs
  have hacquiring : ∃ attempt, a.purpose = .start attempt ∧ s.acquisitions.eraseIdx k = [] ∧
      s.starting = .acquiring := by
    have hstarting := h.starting
    have hmem := List.mem_of_getElem? hk
    split at hstarting
    · rw [hstarting] at hmem
      cases hmem
    · rw [hstarting] at hmem
      cases hmem
    · obtain ⟨attempt, call, hone⟩ := hstarting
      have hk0 : k = 0 := by
        have := (List.getElem?_eq_some_iff.1 hk).1
        rw [hone, List.length_singleton] at this
        omega
      rw [hone, List.mem_singleton] at hmem
      rw [hmem, hone, hk0]
      exact ⟨attempt, rfl, rfl, ‹_›⟩
    · rw [hstarting.1] at hmem
      cases hmem
    · exact hstarting.elim
    · exact hstarting.elim
  obtain ⟨attempt, hpurpose, hnone, hstarting⟩ := hacquiring
  rw [hpurpose] at heq
  dsimp only at heq
  unfold startAcquired at heq
  split at heq
  · cases heq
    exact Or.inl { h.toUnstarted with starting := ⟨hnone, rfl⟩ }
  · split at heq
    · cases heq
      refine Or.inr ⟨Or.inl rfl, fun b hb => ?_, fun hc => (by cases hc)⟩
      rw [show (Store.loadCandidate _).acquisitions = s.acquisitions.eraseIdx k from rfl, hnone] at hb
      cases hb
    · cases heq
      exact Or.inl { h.toUnstarted with starting := hnone }
  · cases heq
    cases ha

private theorem early_step {room room' : Room} {i : Nat} {s s' : Store} {event : AuthorityEvent} (h : s.Early)
    (hs : s.authorityStep room i event = some (room', s')) (ha : s'.alive = true) : s'.Staged := by
  have hu := h.toUnstarted
  have hstage := h.starting
  cases event with
  | start =>
    obtain ⟨hk, -⟩ := keeping_eq_some.1 hs
    unfold start at hk
    split at hk
    · cases hk
    · rename_i hconstructed
      rw [not_not] at hconstructed
      rw [hconstructed] at hstage
      split at hk
      · cases hk
        refine Or.inr ⟨Or.inl rfl, fun a hm => ?_, fun hc => (by cases hc)⟩
        rw [show s.loadCandidate.acquisitions = s.acquisitions from rfl, hstage] at hm
        cases hm
      · cases hk
        refine Or.inl { hu with starting := ⟨0, s.call, ?_⟩ }
        simp [acquireLease, hstage, call]
  | retry =>
    obtain ⟨hk, -⟩ := keeping_eq_some.1 hs
    unfold retry at hk
    split at hk
    · rename_i attempt hwaiting
      rw [hwaiting] at hstage
      split at hk
      · cases hk
        refine Or.inl { hu with starting := ⟨attempt, s.call, ?_⟩ }
        simp [acquireLease, hstage, call]
      · cases hk
        cases ha
    · cases hk
  | loadRead =>
    obtain ⟨hk, -⟩ := keeping_eq_some.1 hs
    unfold loadRead at hk
    split at hk
    · rename_i hloading
      rw [hloading] at hstage
      cases hk
      exact Or.inl { hu with starting := hstage }
    · cases hk
  | loadFinish now result =>
    obtain ⟨hk, -⟩ := keeping_eq_some.1 hs
    have hload : ∀ read, s.starting = .loading read → s.acquisitions = [] ∧ s.role = .active := by
      intro read hloading
      rwa [hloading] at hstage
    -- an active that has loaded holds the lease, whatever it has found
    have hactive : ∀ read (t : Store), s.starting = .loading read → t.starting = .started →
        t.acquisitions = s.acquisitions → t.role = s.role → t.Staged := by
      intro read t hloading hstarting hacquisitions hrole
      obtain ⟨hnone, hact⟩ := hload read hloading
      refine Or.inr ⟨Or.inr hstarting, fun a hm => ?_, fun _ hc => ?_⟩
      · rw [hacquisitions, hnone] at hm
        cases hm
      · rw [hrole, hact] at hc
        cases hc
    unfold loadFinish at hk
    split at hk
    · cases hk
      exact hactive _ _ ‹_› rfl rfl rfl
    · split at hk
      · cases hk
        exact hactive _ _ ‹_› rfl rfl rfl
      · cases hk
        exact hactive _ _ ‹_› rfl rfl rfl
      · cases hk
        cases ha
    · cases hk
  | leaseSet k =>
    simp only [authorityStep, leaseSet] at hs
    split at hs
    · rename_i purpose hget
      cases hs
      refine Or.inl { hu with starting := ?_ }
      have hmem := List.mem_of_getElem? hget
      dsimp only
      split at hstage
      · rw [hstage] at hmem
        cases hmem
      · rw [hstage] at hmem
        cases hmem
      · obtain ⟨attempt, call, hone⟩ := hstage
        rw [hone, List.mem_singleton] at hmem
        have hk0 : k = 0 := by
          have := (List.getElem?_eq_some_iff.1 hget).1
          rw [hone, List.length_singleton] at this
          omega
        cases hmem
        simp only [*]
        exact ⟨attempt, _, rfl⟩
      · rw [hstage.1] at hmem
        cases hmem
      · exact hstage.elim
      · exact hstage.elim
    · cases hs
  | acquired k lost => exact early_acquired h hs ha
  | promote request =>
    obtain ⟨hk, -⟩ := keeping_eq_some.1 hs
    simp [promoteCandidate, Promotable, hu.status] at hk
  | takeover =>
    obtain ⟨hk, -⟩ := keeping_eq_some.1 hs
    simp [recoverAbandonedLease, hu.timer] at hk
  | seed =>
    obtain ⟨hk, -⟩ := keeping_eq_some.1 hs
    simp [seedCandidate, hu.loader] at hk
  | seedRead k =>
    obtain ⟨hk, -⟩ := keeping_eq_some.1 hs
    simp [seedRead, hu.seedings] at hk
  | seedRejected k =>
    obtain ⟨hk, -⟩ := keeping_eq_some.1 hs
    simp [seedRejected, hu.seedings] at hk
  | seedFinish k now status chain restore =>
    obtain ⟨hk, -⟩ := keeping_eq_some.1 hs
    simp [seedFinish, hu.seedings] at hk
  | release request =>
    obtain ⟨hk, -⟩ := keeping_eq_some.1 hs
    simp [releaseActiveForHandoff, currentChecksum, hu.writer, hu.authority] at hk
  | releaseFlushed k =>
    obtain ⟨hk, -⟩ := keeping_eq_some.1 hs
    simp [releaseFlushed, hu.releases] at hk
  | releaseLease k => simp [authorityStep, releaseLease, hu.releases] at hs
  | released k now lost => simp [authorityStep, released, hu.releases] at hs
  | stop =>
    obtain ⟨hk, -⟩ := keeping_eq_some.1 hs
    unfold stop at hk
    split at hk
    · cases hk
      exact Or.inl { hu with ready := rfl, timer := rfl, starting := hstage }
    · cases hk
  | stopFlushed =>
    obtain ⟨hk, -⟩ := keeping_eq_some.1 hs
    unfold stopFlushed at hk
    split at hk
    · cases hk
      exact Or.inl { hu with starting := hstage }
    · cases hk
  | stopLease =>
    simp only [authorityStep, stopLease] at hs
    split at hs
    · cases hs
      exact Or.inl { hu with starting := hstage }
    · cases hs
  | stopped lost =>
    obtain ⟨hk, -⟩ := keeping_eq_some.1 hs
    unfold stopped at hk
    split at hk
    · obtain ⟨reply, -, rfl⟩ := Option.map_eq_some_iff.1 hk
      exact Or.inl { hu with starting := hstage }
    · cases hk

private theorem takesOver_append {acquisitions : List Acquisition} {b : Acquisition}
    (h : ∀ a ∈ acquisitions, a.purpose.takesOver = true) (hb : b.purpose.takesOver = true) :
    ∀ a ∈ acquisitions ++ [b], a.purpose.takesOver = true := by
  intro a ha
  rcases List.mem_append.1 ha with ha | ha
  · exact h a ha
  · rw [List.mem_singleton.1 ha]
    exact hb

private theorem underway_acquired {room room' : Room} {i k : Nat} {s s' : Store} {lost : Bool} (h : s.Underway)
    (hs : s.acquired room i k lost = some (room', s')) : s'.Underway := by
  obtain ⟨a, reply, hk, -, heq⟩ := acquired_cases hs
  have htakes := h.attempts a (List.mem_of_getElem? hk)
  have hrest : ∀ b ∈ s.acquisitions.eraseIdx k, b.purpose.takesOver = true :=
    fun b hb => h.attempts b (List.mem_of_mem_eraseIdx hb)
  cases hpurpose : a.purpose with
  | start attempt =>
    rw [hpurpose] at htakes
    cases htakes
  | promote expectedEpoch expectedChecksum =>
    rw [hpurpose] at heq
    dsimp only at heq
    unfold promoteAcquired at heq
    dsimp only at heq
    split at heq
    · cases heq
      exact ⟨h.starting, hrest, fun _ hc => (by cases hc)⟩
    · split at heq
      · cases heq
        exact ⟨h.starting, hrest, h.status⟩
      · cases heq
        exact ⟨h.starting, hrest, h.status⟩
  | recover roomEpoch checksum =>
    rw [hpurpose] at heq
    dsimp only at heq
    unfold recoverAcquired at heq
    split at heq
    · cases heq
      exact ⟨h.starting, hrest, fun _ hc => (by cases hc)⟩
    · cases heq
      exact ⟨h.starting, hrest, h.status⟩
    · cases heq
      exact ⟨h.starting, hrest, h.status⟩

private theorem applyOutcome_eq {room : Room} {s t : Store} {status : OpsiaHandoffStatusData}
    {reached : Option SnapshotView} {now : Nat} {restore : Except String Unit} {error : Option String}
    (h : s.applyOutcome room status reached now restore = (t, error)) :
    t.env = s.env ∧ t.alive = s.alive ∧ t.starting = s.starting ∧ t.stopping = s.stopping ∧ t.role = s.role ∧
      t.acquisitions = s.acquisitions ∧ t.candidateTakeoverTimer = s.candidateTakeoverTimer ∧
      t.candidateStatus = s.candidateStatus := by
  unfold applyOutcome applyCandidateEnvelope at h
  repeat' split at h
  all_goals cases h
  all_goals exact ⟨rfl, rfl, rfl, rfl, rfl, rfl, rfl, rfl⟩

private theorem underway_step {room room' : Room} {i : Nat} {s s' : Store} {event : AuthorityEvent} (h : s.Underway)
    (hs : s.authorityStep room i event = some (room', s')) : s'.Underway := by
  have hno : ∀ {p : Prop} {starting}, s.starting = starting → starting ≠ .loadingCandidate → starting ≠ .started →
      p := by
    intro p starting heq hl hst
    rcases h.starting with hc | hc
    · exact absurd (heq.symm.trans hc) hl
    · exact absurd (heq.symm.trans hc) hst
  cases event with
  | start =>
    obtain ⟨hk, -⟩ := keeping_eq_some.1 hs
    unfold start at hk
    split at hk
    · cases hk
    · rename_i hconstructed
      exact hno (not_not.1 hconstructed) (by decide) (by decide)
  | retry =>
    obtain ⟨hk, -⟩ := keeping_eq_some.1 hs
    unfold retry at hk
    split at hk
    · exact hno ‹_› (by simp) (by simp)
    · cases hk
  | loadRead =>
    obtain ⟨hk, -⟩ := keeping_eq_some.1 hs
    unfold loadRead at hk
    split at hk
    · exact hno ‹_› (by simp) (by simp)
    · cases hk
  | loadFinish now result =>
    obtain ⟨hk, -⟩ := keeping_eq_some.1 hs
    unfold loadFinish at hk
    split at hk
    · exact hno ‹_› (by simp) (by simp)
    · exact hno ‹_› (by simp) (by simp)
    · cases hk
  | leaseSet k =>
    simp only [authorityStep, leaseSet] at hs
    split at hs
    · rename_i purpose hget
      cases hs
      refine ⟨h.starting, fun a ha => ?_, h.status⟩
      rcases List.mem_or_eq_of_mem_set ha with ha | rfl
      · exact h.attempts a ha
      · exact h.attempts { purpose, call := .issued } (List.mem_of_getElem? hget)
    · cases hs
  | acquired k lost => exact underway_acquired h hs
  | promote request =>
    obtain ⟨hk, -⟩ := keeping_eq_some.1 hs
    unfold promoteCandidate at hk
    split at hk
    · cases hk
      exact ⟨h.starting, takesOver_append h.attempts rfl, h.status⟩
    · cases hk
  | takeover =>
    obtain ⟨hk, -⟩ := keeping_eq_some.1 hs
    obtain ⟨timer, rfl | ⟨-, status, checksum, -, -, -, rfl⟩⟩ := recoverAbandonedLease_cases hk
    · exact ⟨h.starting, h.attempts, h.status⟩
    · exact ⟨h.starting, takesOver_append h.attempts rfl, h.status⟩
  | seed =>
    obtain ⟨hk, -⟩ := keeping_eq_some.1 hs
    unfold seedCandidate at hk
    split at hk <;> cases hk
    exact ⟨h.starting, h.attempts, h.status⟩
  | seedRead k =>
    obtain ⟨hk, -⟩ := keeping_eq_some.1 hs
    unfold seedRead at hk
    split at hk <;> cases hk
    exact ⟨h.starting, h.attempts, h.status⟩
  | seedRejected k =>
    obtain ⟨hk, -⟩ := keeping_eq_some.1 hs
    unfold seedRejected at hk
    split at hk
    · cases hk
      split
      · exact ⟨h.starting, h.attempts, h.status⟩
      · exact ⟨h.starting, h.attempts, h.status⟩
    · cases hk
  | seedFinish k now status chain restore =>
    obtain ⟨hk, -⟩ := keeping_eq_some.1 hs
    obtain ⟨seeding, reached, t, error, -, -, -, -, ht, rfl⟩ := seedFinish_cases hk
    obtain ⟨-, -, hstarting, -, hrole, hacquisitions, -, hstatus⟩ := applyOutcome_eq ht
    have hattempts : ∀ a ∈ t.acquisitions, a.purpose.takesOver = true := by
      rw [hacquisitions]
      exact h.attempts
    have hstands : t.starting = .loadingCandidate ∨ t.starting = .started := by
      rw [hstarting]
      exact h.starting
    split
    · unfold settleStart
      split
      · refine ⟨hstands, hattempts, fun hst hc => ?_⟩
        rw [show t.exit.candidateStatus = s.candidateStatus from hstatus]
        exact h.status (hstarting.symm.trans hst) (hrole.symm.trans hc)
      · exact ⟨Or.inr rfl, hattempts, fun _ _ => rfl⟩
    · unfold settleSeeding
      split
      · exact ⟨hstands, hattempts, fun _ _ => rfl⟩
      · exact ⟨hstands, hattempts, fun _ _ => rfl⟩
  | release request =>
    obtain ⟨hk, -⟩ := keeping_eq_some.1 hs
    unfold releaseActiveForHandoff at hk
    split at hk <;> cases hk
    exact ⟨h.starting, h.attempts, h.status⟩
  | releaseFlushed k =>
    obtain ⟨hk, -⟩ := keeping_eq_some.1 hs
    obtain ⟨currentChecksum, -, rfl⟩ := releaseFlushed_cases hk
    exact ⟨h.starting, h.attempts, h.status⟩
  | releaseLease k =>
    simp only [authorityStep, releaseLease] at hs
    repeat' split at hs
    all_goals cases hs
    exact ⟨h.starting, h.attempts, h.status⟩
  | released k now lost =>
    obtain ⟨release, call, reply, -, -, -, ⟨-, -, rfl⟩ | ⟨-, -, rfl⟩⟩ := released_cases hs
    · exact ⟨h.starting, h.attempts, h.status⟩
    · exact ⟨h.starting, h.attempts, fun _ _ => rfl⟩
  | stop =>
    obtain ⟨hk, -⟩ := keeping_eq_some.1 hs
    unfold stop at hk
    split at hk <;> cases hk
    exact ⟨h.starting, h.attempts, h.status⟩
  | stopFlushed =>
    obtain ⟨hk, -⟩ := keeping_eq_some.1 hs
    unfold stopFlushed at hk
    split at hk <;> cases hk
    exact ⟨h.starting, h.attempts, h.status⟩
  | stopLease =>
    simp only [authorityStep, stopLease] at hs
    split at hs <;> cases hs
    exact ⟨h.starting, h.attempts, h.status⟩
  | stopped lost =>
    obtain ⟨hk, -⟩ := keeping_eq_some.1 hs
    unfold stopped at hk
    split at hk
    · obtain ⟨reply, -, rfl⟩ := Option.map_eq_some_iff.1 hk
      exact ⟨h.starting, h.attempts, h.status⟩
    · cases hk

/-- `start` is followed through by a process that stays alive. -/
theorem Staged.authorityStep {room room' : Room} {i : Nat} {s s' : Store} {event : AuthorityEvent} (h : s.Staged)
    (hs : s.authorityStep room i event = some (room', s')) (ha : s'.alive = true) : s'.Staged := by
  rcases h with h | h
  · exact early_step h hs ha
  · exact Or.inr (underway_step h hs)

/-! ### Recovery -/

/-- What leaves a store guarded. -/
theorem Guarded.congr {s s' : Store} (h : s.Guarded) (hr : s'.Recoverer → s.Recoverer)
    (hrole : s'.role = .candidate → s.role = .candidate) (ha : s.Attempting → s'.Attempting) : s'.Guarded :=
  fun hrec hc => ha (h (hr hrec) (hrole hc))

private theorem guarded_of_not_recoverer {s : Store} (h : ¬s.Recoverer) : s.Guarded := fun hr => absurd hr h

private theorem guarded_of_active {s : Store} (h : s.role = .active) : s.Guarded := by
  intro _ hc
  rw [h] at hc
  cases hc

private theorem guarded_scheduled (s : Store) : s.scheduleCandidateTakeover.Guarded := by
  intro hr _
  have hauto : s.env.configuredRole = .auto := hr.auto
  exact Or.inl (by simp [scheduleCandidateTakeover, hauto])

private theorem Attempting.append {s s' : Store} {a : Acquisition} (h : s'.acquisitions = s.acquisitions ++ [a])
    (ha : a.purpose.takesOver = true) : s'.Attempting := by
  refine Or.inr ⟨a, ?_, ha⟩
  rw [h]
  exact List.mem_append_right _ (List.mem_singleton_self a)

private theorem guarded_acquired {room room' : Room} {i k : Nat} {s s' : Store} {lost : Bool} (h : s.Staged)
    (hs : s.acquired room i k lost = some (room', s')) : s'.Guarded := by
  obtain ⟨a, reply, hk, -, heq⟩ := acquired_cases hs
  have hmem := List.mem_of_getElem? hk
  cases hpurpose : a.purpose with
  | start attempt =>
    have hearly : s.Early := by
      rcases h with h | h
      · exact h
      · have := h.attempts a hmem
        rw [hpurpose] at this
        cases this
    have hstarted : s.starting ≠ .started := by
      intro hst
      have := hearly.starting
      rw [hst] at this
      exact this
    rw [hpurpose] at heq
    dsimp only at heq
    unfold startAcquired at heq
    split at heq
    · cases heq
      exact guarded_of_active rfl
    · split at heq
      · cases heq
        exact guarded_of_not_recoverer fun hr => (by cases hr.started)
      · cases heq
        exact guarded_of_not_recoverer fun hr => (by cases hr.started)
    · cases heq
      exact guarded_of_not_recoverer fun hr => (by cases hr.alive)
  | promote expectedEpoch expectedChecksum =>
    have hunder : s.Underway := by
      rcases h with h | h
      · exact absurd ⟨a, hmem, by rw [hpurpose]; rfl⟩ h.attempted
      · exact h
    rw [hpurpose] at heq
    dsimp only at heq
    unfold promoteAcquired at heq
    dsimp only at heq
    split at heq
    · cases heq
      exact guarded_of_active rfl
    · split at heq
      · cases heq
        exact guarded_scheduled _
      · rename_i hnone
        cases heq
        intro hr hc
        have hsome := hunder.status hr.started hc
        rw [hnone] at hsome
        cases hsome
  | recover roomEpoch checksum =>
    rw [hpurpose] at heq
    dsimp only at heq
    unfold recoverAcquired at heq
    split at heq
    · cases heq
      exact guarded_of_active rfl
    · cases heq
      exact guarded_scheduled _
    · cases heq
      exact guarded_of_not_recoverer fun hr => (by cases hr.alive)

/-- When the timer runs out. -/
private theorem guarded_takeover {s s' : Store} (hs : s.recoverAbandonedLease = some s') :
    s'.Guarded ↔ (s.Recoverer → s.role = .candidate → s.ready = true ∨ s.Attempted) := by
  have hsame : ∀ {timer}, { s with candidateTakeoverTimer := timer }.Recoverer → s.Recoverer :=
    fun hr => ⟨hr.alive, hr.started, hr.running, hr.auto⟩
  unfold recoverAbandonedLease at hs
  split at hs
  · dsimp only at hs
    split at hs
    · split at hs
      · rename_i hc
        cases hs
        exact iff_of_true (guarded_scheduled _) fun _ _ => Or.inl hc.2
      · rename_i hc
        cases hs
        constructor
        · intro hg hr hrole
          rcases hg ⟨hr.alive, hr.started, hr.running, hr.auto⟩ hrole with htimer | ha
          · cases htimer
          · exact Or.inr ha
        · intro hp hr hrole
          rcases hp (hsame hr) hrole with hready | ha
          · exact absurd ⟨hrole, hready⟩ hc
          · exact Or.inr ha
    · rename_i hc
      have hready : s.ready = true := by
        simp only [not_or, Bool.not_eq_false] at hc
        exact hc.2.2.1
      refine iff_of_true ?_ fun _ _ => Or.inl hready
      split at hs
      · cases hs
        exact guarded_scheduled _
      · split at hs
        · cases hs
          exact guarded_scheduled _
        · split at hs
          · cases hs
            exact guarded_scheduled _
          · cases hs
            exact fun _ _ => Attempting.append rfl rfl
  · cases hs

/-- When a release is answered. -/
private theorem guarded_released {room room' : Room} {s s' : Store} {k now : Nat} {lost : Bool} (h : s.Guarded)
    (hs : s.released room k now lost = some (room', s')) :
    s'.Guarded ↔ (s.endsRelease k lost = true → s.Recoverer → s.Attempting) := by
  obtain ⟨release, call, reply, hk, hstage, hreply, ⟨rfl, -, rfl⟩ | ⟨hsome, -, rfl⟩⟩ := released_cases hs
  · have hends : s.endsRelease k lost = false := by
      obtain ⟨_, stage, _, _, _⟩ := release
      cases hstage
      simp [endsRelease, hk, hreply]
    rw [hends]
    exact iff_of_true (h.congr (fun hr => ⟨hr.alive, hr.started, hr.running, hr.auto⟩) id id) (fun he => (by cases he))
  · have hends : s.endsRelease k lost = true := by
      obtain ⟨_, stage, _, _, _⟩ := release
      cases hstage
      obtain ⟨b, rfl⟩ := Option.isSome_iff_exists.1 hsome
      cases b <;> simp [endsRelease, hk, hreply]
    constructor
    · intro hg _ hr
      exact hg ⟨hr.alive, hr.started, hr.running, hr.auto⟩ rfl
    · intro hp hr _
      exact hp hends ⟨hr.alive, hr.started, hr.running, hr.auto⟩

/-- When a stop is answered. -/
private theorem guarded_stopped {s s' : Store} {lost : Bool} (hs : s.stopped lost = some s') :
    s'.Guarded ↔ (s.failsStop lost = true → s.resumed.Guarded) := by
  unfold stopped at hs
  split at hs
  · rename_i call hcall
    obtain ⟨reply, hreply, rfl⟩ := Option.map_eq_some_iff.1 hs
    cases reply with
    | none =>
      have hfails : s.failsStop lost = true := by simp [failsStop, hcall, hreply]
      exact ⟨fun hg _ => hg, fun hp => hp hfails⟩
    | some reply =>
      have hfails : s.failsStop lost = false := by simp [failsStop, hcall, hreply]
      rw [hfails]
      exact iff_of_true (guarded_of_not_recoverer fun hr => (by cases hr.running)) fun he => (by cases he)
  · cases hs

/-- A guarded store stays guarded by a step of its authority side just when the step does not leave it alone. -/
theorem guarded_authorityStep {room room' : Room} {i : Nat} {s s' : Store} {event : AuthorityEvent} (hst : s.Staged)
    (h : s.Guarded) (hs : s.authorityStep room i event = some (room', s')) : s'.Guarded ↔ s.StaysGuarded event := by
  have hsame : ∀ {t : Store}, t.alive = s.alive → t.starting = s.starting → t.stopping = s.stopping → t.env = s.env →
      t.role = s.role → (s.Attempting → t.Attempting) → t.Guarded := by
    intro t halive hstarting hstopping henv hrole ha
    refine h.congr (fun hr => ?_) (fun hc => ?_) ha
    · exact ⟨halive ▸ hr.alive, hstarting ▸ hr.started, hstopping ▸ hr.running, henv ▸ hr.auto⟩
    · rw [← hrole]
      exact hc
  cases event with
  | released k now lost => exact guarded_released h hs
  | takeover => exact guarded_takeover (keeping_eq_some.1 hs).1
  | stopped lost => exact guarded_stopped (keeping_eq_some.1 hs).1
  | start =>
    refine iff_of_true ?_ trivial
    obtain ⟨hk, -⟩ := keeping_eq_some.1 hs
    unfold start at hk
    repeat' split at hk
    all_goals cases hk
    · exact guarded_of_not_recoverer fun hr => (by cases hr.started)
    · exact guarded_of_not_recoverer fun hr => (by cases hr.started)
  | retry =>
    refine iff_of_true ?_ trivial
    obtain ⟨hk, -⟩ := keeping_eq_some.1 hs
    unfold retry at hk
    repeat' split at hk
    all_goals cases hk
    · exact guarded_of_not_recoverer fun hr => (by cases hr.started)
    · exact guarded_of_not_recoverer fun hr => (by cases hr.alive)
  | loadRead =>
    refine iff_of_true ?_ trivial
    obtain ⟨hk, -⟩ := keeping_eq_some.1 hs
    unfold loadRead at hk
    split at hk <;> cases hk
    exact guarded_of_not_recoverer fun hr => (by cases hr.started)
  | loadFinish now result =>
    refine iff_of_true ?_ trivial
    obtain ⟨hk, -⟩ := keeping_eq_some.1 hs
    have hactive : ∀ read, s.starting = .loading read → s.role = .active := by
      intro read hloading
      rcases hst with he | hunder
      · have hstage := he.starting
        rw [hloading] at hstage
        exact hstage.2
      · rcases hunder.starting with hc | hc
        · exact absurd (hloading.symm.trans hc) (by simp)
        · exact absurd (hloading.symm.trans hc) (by simp)
    unfold loadFinish at hk
    split at hk
    · cases hk
      exact guarded_of_active (hactive _ ‹_›)
    · split at hk
      · cases hk
        exact guarded_of_active (hactive _ ‹_›)
      · cases hk
        exact guarded_of_active (hactive _ ‹_›)
      · cases hk
        exact guarded_of_not_recoverer fun hr => (by cases hr.alive)
    · cases hk
  | leaseSet k =>
    refine iff_of_true ?_ trivial
    simp only [authorityStep, leaseSet] at hs
    split at hs
    · rename_i purpose hget
      cases hs
      refine hsame rfl rfl rfl rfl rfl fun ha => ?_
      rcases ha with htimer | ⟨a, ha, htakes⟩
      · exact Or.inl htimer
      · obtain ⟨n, hn⟩ := List.getElem?_of_mem ha
        have hlt := (List.getElem?_eq_some_iff.1 hget).1
        by_cases hnk : k = n
        · subst hnk
          rw [hget] at hn
          cases hn
          exact Or.inr ⟨_, List.mem_set hlt _, htakes⟩
        · refine Or.inr ⟨a, List.mem_of_getElem? (i := n) ?_, htakes⟩
          dsimp only
          rw [List.getElem?_set_ne hnk]
          exact hn
    · cases hs
  | acquired k lost => exact iff_of_true (guarded_acquired hst hs) trivial
  | promote request =>
    refine iff_of_true ?_ trivial
    obtain ⟨hk, -⟩ := keeping_eq_some.1 hs
    unfold promoteCandidate at hk
    split at hk <;> cases hk
    exact fun _ _ => Attempting.append rfl rfl
  | seed =>
    refine iff_of_true ?_ trivial
    obtain ⟨hk, -⟩ := keeping_eq_some.1 hs
    unfold seedCandidate at hk
    split at hk <;> cases hk
    exact hsame rfl rfl rfl rfl rfl id
  | seedRead k =>
    refine iff_of_true ?_ trivial
    obtain ⟨hk, -⟩ := keeping_eq_some.1 hs
    unfold seedRead at hk
    split at hk <;> cases hk
    exact hsame rfl rfl rfl rfl rfl id
  | seedRejected k =>
    refine iff_of_true ?_ trivial
    obtain ⟨hk, -⟩ := keeping_eq_some.1 hs
    unfold seedRejected at hk
    split at hk
    · cases hk
      split
      · exact guarded_of_not_recoverer fun hr => (by cases hr.alive)
      · exact hsame rfl rfl rfl rfl rfl id
    · cases hk
  | seedFinish k now status chain restore =>
    refine iff_of_true ?_ trivial
    obtain ⟨hk, -⟩ := keeping_eq_some.1 hs
    obtain ⟨seeding, reached, t, error, -, -, -, -, ht, rfl⟩ := seedFinish_cases hk
    obtain ⟨henv, halive, hstarting, hstopping, hrole, hacquisitions, htimer, -⟩ := applyOutcome_eq ht
    have hattempting : s.Attempting → t.Attempting := by
      intro ha
      unfold Attempting Attempted
      rw [htimer, hacquisitions]
      exact ha
    split
    · unfold settleStart
      split
      · exact guarded_of_not_recoverer fun hr => (by cases hr.alive)
      · exact guarded_scheduled _
    · unfold settleSeeding
      split
      · exact hsame halive hstarting hstopping henv hrole hattempting
      · exact hsame halive hstarting hstopping henv hrole hattempting
  | release request =>
    refine iff_of_true ?_ trivial
    obtain ⟨hk, -⟩ := keeping_eq_some.1 hs
    unfold releaseActiveForHandoff at hk
    split at hk <;> cases hk
    exact hsame rfl rfl rfl rfl rfl id
  | releaseFlushed k =>
    refine iff_of_true ?_ trivial
    obtain ⟨hk, -⟩ := keeping_eq_some.1 hs
    obtain ⟨currentChecksum, -, rfl⟩ := releaseFlushed_cases hk
    exact hsame rfl rfl rfl rfl rfl id
  | releaseLease k =>
    refine iff_of_true ?_ trivial
    simp only [authorityStep, releaseLease] at hs
    repeat' split at hs
    all_goals cases hs
    exact hsame rfl rfl rfl rfl rfl id
  | stop =>
    refine iff_of_true ?_ trivial
    obtain ⟨hk, -⟩ := keeping_eq_some.1 hs
    unfold stop at hk
    split at hk <;> cases hk
    exact guarded_of_not_recoverer fun hr => (by cases hr.running)
  | stopFlushed =>
    refine iff_of_true ?_ trivial
    obtain ⟨hk, -⟩ := keeping_eq_some.1 hs
    unfold stopFlushed at hk
    split at hk <;> cases hk
    refine guarded_of_not_recoverer fun hr => ?_
    have hrunning := hr.running
    dsimp only at hrunning
    split at hrunning <;> cases hrunning
  | stopLease =>
    refine iff_of_true ?_ trivial
    simp only [authorityStep, stopLease] at hs
    split at hs <;> cases hs
    exact guarded_of_not_recoverer fun hr => (by cases hr.running)

/-- What Redis does for a store leaves the store's own state alone. -/
theorem atRedis_frame {room room' : Room} {i : Nat} {s s' : Store} {event : AuthorityEvent}
    (hr : event.atRedis = true) (hs : s.authorityStep room i event = some (room', s')) :
    s'.alive = s.alive ∧ s'.role = s.role ∧ s'.seedings = s.seedings := by
  cases event with
  | leaseSet k =>
    simp only [authorityStep, leaseSet] at hs
    split at hs <;> cases hs
    exact ⟨rfl, rfl, rfl⟩
  | releaseLease k =>
    simp only [authorityStep, releaseLease] at hs
    repeat' split at hs
    all_goals cases hs
    exact ⟨rfl, rfl, rfl⟩
  | stopLease =>
    simp only [authorityStep, stopLease] at hs
    split at hs <;> cases hs
    exact ⟨rfl, rfl, rfl⟩
  | start | retry | loadRead | loadFinish | acquired | promote | takeover | seed | seedRead | seedRejected | seedFinish
  | release | releaseFlushed | released | stop | stopFlushed | stopped => cases hr

/-- Every step of a process that stays alive keeps to the stages of `start`. -/
theorem staged_step {room room' : Room} {i : Nat} {s s' : Store} {event : StoreEvent}
    (h : s.alive = true → s.Staged) (hs : s.step config room i event = some (room', s')) :
    s'.alive = true → s'.Staged := by
  intro ha'
  cases event with
  | authority event =>
    simp only [Store.step] at hs
    split at hs
    · rename_i hcan
      by_cases ha : s.alive = true
      · exact (h ha).authorityStep hs ha'
      · obtain ⟨halive, -, -⟩ := atRedis_frame (hcan.resolve_left ha) hs
        exact absurd (halive ▸ ha') ha
    · cases hs
  | saving event =>
    simp only [Store.step] at hs
    split at hs
    · have halive : s'.alive = s.alive := by
        obtain ⟨_, _, _, _, _, _, _, _, _, _, _, _, _, -, rfl⟩ := savingStep_frame hs
        rfl
      rcases h (halive ▸ ha') with hearly | hunder
      · exact absurd hs hearly.no_saving
      · exact Or.inr (hunder.savingStep hs)
    · cases hs
  | session event =>
    simp only [Store.step] at hs
    split at hs <;> cases hs
    cases event with
    | attach | detach | drop =>
      rcases h ha' with hearly | hunder
      · exact Or.inl { hearly.toUnstarted with starting := hearly.starting }
      · exact Or.inr ⟨hunder.starting, hunder.attempts, hunder.status⟩
  | handoffStatus now =>
    simp only [Store.step] at hs
    split at hs <;> cases hs
    exact h ha'

/-- A process that is alive has come as far as its `start` says, and its recovery is armed. -/
structure Watched (s : Store) : Prop where
  staged : s.alive = true → s.Staged
  guarded : s.Guarded

theorem watched_boot (env : StoreEnv) : (boot env).Watched := by
  constructor
  · intro _
    exact Or.inl ⟨⟨rfl, rfl, rfl, rfl, rfl, rfl, rfl, rfl, rfl⟩, rfl⟩
  · exact guarded_of_not_recoverer fun hr => (by cases hr.started)

theorem watched_exit (s : Store) : s.exit.Watched := by
  constructor
  · intro ha
    cases ha
  · exact guarded_of_not_recoverer fun hr => (by cases hr.alive)

/-- What a step must not do to a store. -/
def Keeps (s : Store) : StoreEvent → Prop
  | .authority event => s.StaysGuarded event
  | _ => True

instance (s : Store) (event : StoreEvent) : Decidable (s.Keeps event) := by
  unfold Keeps
  split <;> infer_instance

theorem Watched.step_iff {room room' : Room} {i : Nat} {s s' : Store} {event : StoreEvent} (h : s.Watched)
    (hs : s.step config room i event = some (room', s')) : s'.Guarded ↔ s.Keeps event := by
  cases event with
  | authority event =>
    simp only [Store.step] at hs
    split at hs
    · rename_i hcan
      by_cases ha : s.alive = true
      · exact guarded_authorityStep (h.staged ha) h.guarded hs
      · have hredis := hcan.resolve_left ha
        obtain ⟨halive, -, -⟩ := atRedis_frame hredis hs
        have hkeeps : s.StaysGuarded event := by
          cases event with
          | leaseSet | releaseLease | stopLease => trivial
          | start | retry | loadRead | loadFinish | acquired | promote | takeover | seed | seedRead | seedRejected
          | seedFinish | release | releaseFlushed | released | stop | stopFlushed | stopped => cases hredis
        exact iff_of_true (guarded_of_not_recoverer fun hr => ha (halive ▸ hr.alive)) hkeeps
    · cases hs
  | saving event =>
    simp only [Store.step] at hs
    split at hs
    · refine iff_of_true ?_ trivial
      obtain ⟨_, _, _, _, _, _, _, _, _, _, _, _, _, -, rfl⟩ := savingStep_frame hs
      exact h.guarded.congr (fun hr => ⟨hr.alive, hr.started, hr.running, hr.auto⟩) id id
    · cases hs
  | session event =>
    simp only [Store.step] at hs
    split at hs <;> cases hs
    cases event with
    | attach | detach | drop =>
      refine iff_of_true ?_ trivial
      exact h.guarded.congr (fun hr => ⟨hr.alive, hr.started, hr.running, hr.auto⟩) id id
  | handoffStatus now =>
    simp only [Store.step] at hs
    split at hs <;> cases hs
    exact iff_of_true h.guarded trivial

end Store

namespace World

open Machine

variable {config : SnapshotRuntimeConfig}

/-- At every store the recovery of the room is armed. -/
def RecoveryArmed (w : World) : Prop := ∀ s ∈ w.stores, s.Guarded

/-- The step does not leave a candidate without timer and attempt. -/
def StaysArmed (w : World) : WorldEvent → Prop
  | .at i event => ∀ s ∈ w.stores[i]?, s.Keeps event
  | _ => True

instance (w : World) : Decidable w.RecoveryArmed := by
  unfold RecoveryArmed
  infer_instance

instance (w : World) (event : WorldEvent) : Decidable (w.StaysArmed event) := by
  unfold StaysArmed
  split <;> infer_instance

/-- All stores are watched. -/
def AllWatched (w : World) : Prop := ∀ (i : Nat) (s : Store), w.stores[i]? = some s → s.Watched

theorem AllWatched.armed {w : World} (h : w.AllWatched) : w.RecoveryArmed := by
  intro s hs
  obtain ⟨i, hi⟩ := List.getElem?_of_mem hs
  exact (h i s hi).guarded

theorem AllWatched.step {w w' : World} {event : WorldEvent} (h : w.AllWatched) (hstays : w.StaysArmed event)
    (hs : w.step config event = some w') : w'.AllWatched := by
  refine each_step (I := fun _ _ s => s.Watched) h hs ?_ ?_ ?_ ?_ ?_
  · exact fun env => Store.watched_boot env
  · exact fun i s _ => s.watched_exit
  · exact fun i s hw => hw
  · intro i s e room' s' he hi hw hstep
    subst he
    exact ⟨Store.staged_step hw.staged hstep, (hw.step_iff hstep).2 (hstays s hi)⟩
  · exact fun i s e room' s' j t _ _ _ _ _ hw => hw

theorem AllWatched.step_alone {w w' : World} {event : WorldEvent} (h : w.AllWatched) (halone : ¬w.StaysArmed event)
    (hs : w.step config event = some w') : ¬w'.RecoveryArmed := by
  intro harmed
  refine halone ?_
  cases event with
  | boot | kill | expire => trivial
  | «at» i e =>
    intro s hi
    rcases step_cases hs with ⟨_, he, _⟩ | ⟨_, _, he, _⟩ | ⟨he, _⟩ | ⟨k, e', t, room', t', he, hk, hstep, rfl⟩
    · cases he
    · cases he
    · cases he
    · cases he
      have hst : s = t := Option.some.inj (hi.symm.trans hk)
      subst hst
      refine ((h i s hi).step_iff hstep).1 (harmed t' ?_)
      exact List.mem_of_getElem? (List.getElem?_set_self (List.getElem?_eq_some_iff.1 hk).1)

/-- In every run recovery stays armed at all stores just when no step leaves a candidate alone: the answer that ends a
release, and the failure of a stop, find the timer armed or an attempt under way, and the timer runs out at a store that
is ready or has another attempt under way. -/
theorem recovery_armed_iff (config : SnapshotRuntimeConfig) (lease : Option String) (stored : List SnapshotView)
    (journal : List JournalDelta) (events : List WorldEvent) :
    Throughout (step config) RecoveryArmed (init lease stored journal) events ↔
      EachStep (step config) StaysArmed (init lease stored journal) events := by
  have hinit : (init lease stored journal).AllWatched := by
    intro i s hi
    simp [init] at hi
  refine throughout_iff_eachStep (fun w hw => hw.armed) ?_ ?_ hinit events
  · exact fun w event w' hw hstays hs => hw.step hstays hs
  · exact fun w event w' hw halone hs => hw.step_alone halone hs

open Sample in
/-- An `auto` pod that has found the room free releases it for a handoff, and never tries to get it back. -/
theorem released_unguarded :
    ¬Throughout (step limits) RecoveryArmed (init none [] [])
      ([.boot (env .auto "game-0"), auth 0 .start, auth 0 (.leaseSet 0), auth 0 (.acquired 0 false), auth 0 .loadRead,
        auth 0 (.loadFinish 0 .restored)] ++ saveSent 0 0 10 digestA ++ settled 0 0 ++ release 0 digestA) := by
  decide +kernel

end World

end Opsia
