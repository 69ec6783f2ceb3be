import Opsia.Store.Steps

/-!
# What the steps of a store leave alone

Saving changes neither the role nor the epoch of a store (`savingStep_frame`); the authority side leaves the writer and
everything that has been stored as they are (`authorityStep_room`).  A step of the world is a step of one store or a
change from outside (`step_each` lifts what a step keeps to all stores).
-/

namespace Opsia

/-- A continuation that sees a reply comes after that reply. -/
theorem Call.eq_answered {call : Call} {lost reply : Bool} (h : call.settle lost = some (some reply)) :
    call = .answered reply := by
  unfold Call.settle at h
  split at h
  · cases h
  · cases call <;> cases h
    rfl

namespace Store

variable {config : SnapshotRuntimeConfig}

theorem keeping_eq_some {room room' : Room} {s : Option Store} {s' : Store} :
    keeping room s = some (room', s') ↔ s = some s' ∧ room' = room := by
  unfold keeping
  constructor
  · intro h
    obtain ⟨t, ht, h⟩ := Option.map_eq_some_iff.1 h
    cases h
    exact ⟨ht, rfl⟩
  · rintro ⟨rfl, rfl⟩
    rfl

/-! ### Saving -/

/-- The fields that saving may change. -/
def SavingFrame (room : Room) (s : Store) (room' : Room) (s' : Store) : Prop :=
  ∃ stored journal written pendingPlayers snapshotTick lastJournalEnvelope writer persisting requestTicks materialized
      capturedIn acknowledged syncedAt,
    room' = { room with stored, journal, written } ∧
    s' = { s with
      pendingPlayers, snapshotTick, lastJournalEnvelope, writer, persisting, requestTicks, materialized, capturedIn
      acknowledged, syncedAt }

theorem SavingFrame.refl (room : Room) (s : Store) : SavingFrame room s room s :=
  ⟨_, _, _, _, _, _, _, _, _, _, _, _, _, rfl, rfl⟩

theorem SavingFrame.trans {room room₁ room₂ : Room} {s s₁ s₂ : Store} (h : SavingFrame room s room₁ s₁)
    (h' : SavingFrame room₁ s₁ room₂ s₂) : SavingFrame room s room₂ s₂ := by
  obtain ⟨_, _, _, _, _, _, _, _, _, _, _, _, _, rfl, rfl⟩ := h
  obtain ⟨_, _, _, _, _, _, _, _, _, _, _, _, _, rfl, rfl⟩ := h'
  exact ⟨_, _, _, _, _, _, _, _, _, _, _, _, _, rfl, rfl⟩

theorem writerStep_eq_some {s s' : Store} {event : WriterEvent} :
    s.writerStep config event = some s' ↔ ∃ w, s.writer.step config event = some w ∧ s' = { s with writer := w } := by
  unfold writerStep
  constructor
  · intro h
    obtain ⟨w, hw, rfl⟩ := Option.map_eq_some_iff.1 h
    exact ⟨w, hw, rfl⟩
  · rintro ⟨w, hw, rfl⟩
    rw [hw, Option.map_some]

theorem writerStep_frame {room : Room} {s s' : Store} {event : WriterEvent}
    (h : s.writerStep config event = some s') : SavingFrame room s room s' := by
  obtain ⟨w, -, rfl⟩ := writerStep_eq_some.1 h
  exact ⟨_, _, _, _, _, _, _, _, _, _, _, _, _, rfl, rfl⟩

theorem factory_eq (s : Store) (now serverTick : Nat) (capture : Except String Capture) :
    ∃ pendingPlayers snapshotTick, (s.factory now serverTick capture).1 = { s with pendingPlayers, snapshotTick } := by
  unfold factory
  split
  · exact ⟨_, _, rfl⟩
  · exact ⟨_, _, rfl⟩

theorem factory_frame (room : Room) (s : Store) (now serverTick : Nat) (capture : Except String Capture) :
    SavingFrame room s room (s.factory now serverTick capture).1 := by
  obtain ⟨_, _, h⟩ := s.factory_eq now serverTick capture
  rw [h]
  exact ⟨_, _, _, _, _, _, _, _, _, _, _, _, _, rfl, rfl⟩

theorem recordBuild_frame (room : Room) (s : Store) (now : Nat) (build : Except String BuiltSnapshot) :
    SavingFrame room s (s.recordBuild config room now build).1 (s.recordBuild config room now build).2 := by
  unfold recordBuild
  split <;> exact ⟨_, _, _, _, _, _, _, _, _, _, _, _, _, rfl, rfl⟩

theorem settleWrite_frame {room : Room} {s s' : Store} {execution : Nat} {outcome : Except String Unit}
    (h : s.settleWrite config execution outcome = some s') : SavingFrame room s room s' :=
  SavingFrame.trans ⟨_, _, _, _, _, _, _, _, _, _, _, _, _, rfl, rfl⟩ (writerStep_frame h)

theorem savingStep_frame {room room' : Room} {s s' : Store} {event : SaveEvent}
    (h : s.savingStep config room event = some (room', s')) : SavingFrame room s room' s' := by
  cases event with
  | save now serverTick capture =>
    simp only [savingStep, save] at h
    split at h
    · cases h
    split at h
    · obtain ⟨t, ht, h⟩ := Option.map_eq_some_iff.1 h
      cases h
      exact SavingFrame.trans ⟨_, _, _, _, _, _, _, _, _, _, _, _, _, rfl, rfl⟩ (writerStep_frame ht)
    · obtain ⟨t, ht, h⟩ := Option.map_eq_some_iff.1 h
      cases h
      refine SavingFrame.trans ?_ (writerStep_frame ht)
      refine SavingFrame.trans ?_ (recordBuild_frame ..)
      refine SavingFrame.trans ?_ (factory_frame ..)
      exact ⟨_, _, _, _, _, _, _, _, _, _, _, _, _, rfl, rfl⟩
  | exitCheck now capture =>
    simp only [savingStep, exitCheck] at h
    split at h
    · split at h
      · obtain ⟨t, ht, h⟩ := Option.map_eq_some_iff.1 h
        cases h
        exact writerStep_frame ht
      · obtain ⟨t, ht, h⟩ := Option.map_eq_some_iff.1 h
        cases h
        refine SavingFrame.trans ?_ (writerStep_frame ht)
        exact SavingFrame.trans (factory_frame ..) (recordBuild_frame ..)
    · obtain ⟨t, ht, h⟩ := Option.map_eq_some_iff.1 h
      cases h
      exact writerStep_frame ht
  | timer i | deliver | finish =>
    obtain ⟨hs, rfl⟩ := keeping_eq_some.1 h
    exact writerStep_frame hs
  | decide i now =>
    obtain ⟨hs, rfl⟩ := keeping_eq_some.1 h
    obtain ⟨t, ht, rfl⟩ := Option.map_eq_some_iff.1 hs
    exact SavingFrame.trans (writerStep_frame ht) ⟨_, _, _, _, _, _, _, _, _, _, _, _, _, rfl, rfl⟩
  | writeStart i =>
    obtain ⟨hs, rfl⟩ := keeping_eq_some.1 h
    unfold writeStart at hs
    split at hs
    · obtain ⟨t, ht, rfl⟩ := Option.map_eq_some_iff.1 hs
      exact SavingFrame.trans (writerStep_frame ht) ⟨_, _, _, _, _, _, _, _, _, _, _, _, _, rfl, rfl⟩
    · cases hs
  | saveSet =>
    simp only [savingStep, saveSet] at h
    split at h
    · rename_i execution view _
      cases h
      refine ⟨(room.saveSnapshot s.env.owner view).1.stored, room.journal, room.written, _, _, _, _, _, _, _, _, _, _, ?_, rfl⟩
      unfold Room.saveSnapshot
      split <;> rfl
    · cases h
  | saveAnswered lost result =>
    obtain ⟨hs, rfl⟩ := keeping_eq_some.1 h
    unfold saveAnswered at hs
    split at hs
    · split at hs
      · split at hs
        · exact settleWrite_frame hs
        · split at hs
          · cases hs
            exact ⟨_, _, _, _, _, _, _, _, _, _, _, _, _, rfl, rfl⟩
          · exact settleWrite_frame hs
        · exact SavingFrame.trans ⟨_, _, _, _, _, _, _, _, _, _, _, _, _, rfl, rfl⟩ (settleWrite_frame hs)
      · exact settleWrite_frame hs
      · exact settleWrite_frame hs
      · cases hs
    · cases hs
  | appendSet =>
    simp only [savingStep, appendSet] at h
    split at h
    · rename_i execution view base _
      cases h
      refine ⟨room.stored, (room.append s.env.owner { base, target := view }).1.journal, room.written, _, _, _, _, _, _,
        _, _, _, _, ?_, rfl⟩
      unfold Room.append
      split <;> rfl
    · cases h
  | appendAnswered lost =>
    obtain ⟨hs, rfl⟩ := keeping_eq_some.1 h
    unfold appendAnswered at hs
    split at hs
    · split at hs
      · exact SavingFrame.trans ⟨_, _, _, _, _, _, _, _, _, _, _, _, _, rfl, rfl⟩ (settleWrite_frame hs)
      · exact settleWrite_frame hs
      · exact settleWrite_frame hs
      · cases hs
    · cases hs

/-! ### Authority -/

/-- What the authority side leaves as it is. -/
structure AuthorityFrame (room : Room) (s : Store) (room' : Room) (s' : Store) : Prop where
  stored : room'.stored = room.stored
  journal : room'.journal = room.journal
  written : room'.written = room.written
  env : s'.env = s.env
  writer : s'.writer = s.writer
  persisting : s'.persisting = s.persisting
  requestTicks : s'.requestTicks = s.requestTicks
  sessions : s'.sessions = s.sessions

theorem AuthorityFrame.refl (room : Room) (s : Store) : AuthorityFrame room s room s :=
  ⟨rfl, rfl, rfl, rfl, rfl, rfl, rfl, rfl⟩

theorem AuthorityFrame.trans {room room₁ room₂ : Room} {s s₁ s₂ : Store} (h : AuthorityFrame room s room₁ s₁)
    (h' : AuthorityFrame room₁ s₁ room₂ s₂) : AuthorityFrame room s room₂ s₂ :=
  ⟨h'.stored.trans h.stored, h'.journal.trans h.journal, h'.written.trans h.written, h'.env.trans h.env,
    h'.writer.trans h.writer, h'.persisting.trans h.persisting, h'.requestTicks.trans h.requestTicks,
    h'.sessions.trans h.sessions⟩

theorem startAcquired_frame (room : Room) (i : Nat) (s : Store) (attempt : Nat) (reply : Option Bool) :
    AuthorityFrame room s (startAcquired room i s attempt reply).1 (startAcquired room i s attempt reply).2 := by
  unfold startAcquired
  split
  · exact ⟨rfl, rfl, rfl, rfl, rfl, rfl, rfl, rfl⟩
  · split <;> exact ⟨rfl, rfl, rfl, rfl, rfl, rfl, rfl, rfl⟩
  · exact ⟨rfl, rfl, rfl, rfl, rfl, rfl, rfl, rfl⟩

theorem promoteAcquired_frame (room : Room) (i : Nat) (s : Store) (expectedEpoch : Int) (expectedChecksum : String)
    (reply : Option Bool) :
    AuthorityFrame room s (promoteAcquired room i s expectedEpoch expectedChecksum reply).1
      (promoteAcquired room i s expectedEpoch expectedChecksum reply).2 := by
  unfold promoteAcquired
  dsimp only
  split
  · exact ⟨rfl, rfl, rfl, rfl, rfl, rfl, rfl, rfl⟩
  · split <;> exact ⟨rfl, rfl, rfl, rfl, rfl, rfl, rfl, rfl⟩

theorem recoverAcquired_frame (room : Room) (i : Nat) (s : Store) (roomEpoch : Option Int) (checksum : String)
    (reply : Option Bool) :
    AuthorityFrame room s (recoverAcquired room i s roomEpoch checksum reply).1
      (recoverAcquired room i s roomEpoch checksum reply).2 := by
  unfold recoverAcquired
  split <;> exact ⟨rfl, rfl, rfl, rfl, rfl, rfl, rfl, rfl⟩

/-- The continuation of an acquisition, by what it was for. -/
theorem acquired_cases {room room' : Room} {i k : Nat} {s s' : Store} {lost : Bool}
    (h : s.acquired room i k lost = some (room', s')) :
    ∃ a reply, s.acquisitions[k]? = some a ∧ a.call.settle lost = some reply ∧
      let rest := { s with acquisitions := s.acquisitions.eraseIdx k }
      (room', s') = match a.purpose with
        | .start attempt => startAcquired room i rest attempt reply
        | .promote expectedEpoch expectedChecksum => promoteAcquired room i rest expectedEpoch expectedChecksum reply
        | .recover roomEpoch checksum => recoverAcquired room i rest roomEpoch checksum reply := by
  unfold acquired at h
  split at h
  · rename_i a ha
    obtain ⟨reply, hreply, h⟩ := Option.map_eq_some_iff.1 h
    exact ⟨a, reply, ha, hreply, h.symm⟩
  · cases h

/-- Behind the timer: nothing but the timer changes, or an acquisition starts. -/
theorem recoverAbandonedLease_cases {s s' : Store} (h : s.recoverAbandonedLease = some s') :
    ∃ timer, s' = { s with candidateTakeoverTimer := timer } ∨
      (s.role = .candidate ∧ ∃ status checksum, s.candidateStatus = some status ∧ status.ready = true ∧
        status.checksum = some checksum ∧
        s' = { s with candidateTakeoverTimer := timer }.acquireLease (.recover status.roomEpoch checksum)) := by
  unfold recoverAbandonedLease at h
  split at h
  · dsimp only at h
    split at h
    · split at h
      · cases h
        exact ⟨_, Or.inl rfl⟩
      · cases h
        exact ⟨_, Or.inl rfl⟩
    · rename_i hguard
      push Not at hguard
      split at h
      · cases h
        exact ⟨_, Or.inl rfl⟩
      · rename_i status hstatus
        split at h
        · cases h
          exact ⟨_, Or.inl rfl⟩
        · rename_i checksum hchecksum
          split at h
          · cases h
            exact ⟨_, Or.inl rfl⟩
          · rename_i hready
            cases h
            refine ⟨false, Or.inr ⟨hguard.2.1, status, checksum, hstatus, ?_, hchecksum, rfl⟩⟩
            simpa using fun hr => hready (Or.inl hr)
  · cases h

theorem applyOutcome_frame (room : Room) (s : Store) (status : OpsiaHandoffStatusData) (reached : Option SnapshotView)
    (now : Nat) (restore : Except String Unit) :
    AuthorityFrame room s room (s.applyOutcome room status reached now restore).1 := by
  unfold applyOutcome applyCandidateEnvelope
  repeat' split
  all_goals exact ⟨rfl, rfl, rfl, rfl, rfl, rfl, rfl, rfl⟩

theorem settleSeeding_frame (room : Room) (s : Store) (status : OpsiaHandoffStatusData) (now : Nat)
    (error : Option String) : AuthorityFrame room s room (s.settleSeeding status now error) := by
  unfold settleSeeding
  split <;> exact ⟨rfl, rfl, rfl, rfl, rfl, rfl, rfl, rfl⟩

theorem settleStart_frame (room : Room) (s : Store) (status : OpsiaHandoffStatusData) (error : Option String) :
    AuthorityFrame room s room (s.settleStart status error) := by
  unfold settleStart
  split <;> exact ⟨rfl, rfl, rfl, rfl, rfl, rfl, rfl, rfl⟩

theorem seedFinish_cases {room : Room} {s s' : Store} {k now : Nat} {status : OpsiaHandoffStatusData}
    {chain : List JournalDelta} {restore : Except String Unit}
    (h : s.seedFinish room k now status chain restore = some s') :
    ∃ seeding reached t error, s.seedings[k]? = some seeding ∧ Store.reached seeding chain = some reached ∧
      (∀ d ∈ chain, d ∈ room.journal) ∧ Answers status reached ∧
      (s.arrival room k seeding reached).applyOutcome room status reached now restore = (t, error) ∧
      s' = if seeding.atStart then t.settleStart status error else t.settleSeeding status now error := by
  unfold seedFinish at h
  split at h
  · rename_i seeding hseeding
    split at h
    · rename_i reached hreached
      split at h
      · rename_i hok
        cases h
        exact ⟨seeding, reached, _, _, hseeding, hreached, hok.1, hok.2, rfl, rfl⟩
      · cases h
    · cases h
  · cases h

theorem authorityStep_frame {room room' : Room} {i : Nat} {s s' : Store} {event : AuthorityEvent}
    (h : s.authorityStep room i event = some (room', s')) : AuthorityFrame room s room' s' := by
  cases event with
  | start =>
    obtain ⟨hs, rfl⟩ := keeping_eq_some.1 h
    unfold start at hs
    repeat' split at hs
    all_goals cases hs
    all_goals exact ⟨rfl, rfl, rfl, rfl, rfl, rfl, rfl, rfl⟩
  | retry =>
    obtain ⟨hs, rfl⟩ := keeping_eq_some.1 h
    unfold retry at hs
    repeat' split at hs
    all_goals cases hs
    all_goals exact ⟨rfl, rfl, rfl, rfl, rfl, rfl, rfl, rfl⟩
  | loadRead =>
    obtain ⟨hs, rfl⟩ := keeping_eq_some.1 h
    unfold loadRead at hs
    split at hs
    all_goals cases hs
    exact ⟨rfl, rfl, rfl, rfl, rfl, rfl, rfl, rfl⟩
  | loadFinish now result =>
    obtain ⟨hs, rfl⟩ := keeping_eq_some.1 h
    unfold loadFinish at hs
    repeat' split at hs
    all_goals cases hs
    all_goals exact ⟨rfl, rfl, rfl, rfl, rfl, rfl, rfl, rfl⟩
  | leaseSet k =>
    simp only [authorityStep, leaseSet] at h
    split at h
    · cases h
      unfold Room.setLease
      split <;> exact ⟨rfl, rfl, rfl, rfl, rfl, rfl, rfl, rfl⟩
    · cases h
  | acquired k lost =>
    obtain ⟨a, reply, -, -, h⟩ := acquired_cases h
    have hrest : AuthorityFrame room s room { s with acquisitions := s.acquisitions.eraseIdx k } :=
      ⟨rfl, rfl, rfl, rfl, rfl, rfl, rfl, rfl⟩
    refine hrest.trans ?_
    dsimp only at h
    split at h
    · have := startAcquired_frame room i { s with acquisitions := s.acquisitions.eraseIdx k } ‹_› reply
      rwa [← h] at this
    · have := promoteAcquired_frame room i { s with acquisitions := s.acquisitions.eraseIdx k } ‹_› ‹_› reply
      rwa [← h] at this
    · have := recoverAcquired_frame room i { s with acquisitions := s.acquisitions.eraseIdx k } ‹_› ‹_› reply
      rwa [← h] at this
  | promote request =>
    obtain ⟨hs, rfl⟩ := keeping_eq_some.1 h
    unfold promoteCandidate at hs
    split at hs
    all_goals cases hs
    exact ⟨rfl, rfl, rfl, rfl, rfl, rfl, rfl, rfl⟩
  | takeover =>
    obtain ⟨hs, rfl⟩ := keeping_eq_some.1 h
    obtain ⟨timer, rfl | ⟨-, status, checksum, -, -, -, rfl⟩⟩ := recoverAbandonedLease_cases hs
    · exact ⟨rfl, rfl, rfl, rfl, rfl, rfl, rfl, rfl⟩
    · exact ⟨rfl, rfl, rfl, rfl, rfl, rfl, rfl, rfl⟩
  | seed =>
    obtain ⟨hs, rfl⟩ := keeping_eq_some.1 h
    unfold seedCandidate at hs
    split at hs
    all_goals cases hs
    exact ⟨rfl, rfl, rfl, rfl, rfl, rfl, rfl, rfl⟩
  | seedRead k =>
    obtain ⟨hs, rfl⟩ := keeping_eq_some.1 h
    unfold seedRead at hs
    split at hs
    all_goals cases hs
    exact ⟨rfl, rfl, rfl, rfl, rfl, rfl, rfl, rfl⟩
  | seedRejected k =>
    obtain ⟨hs, rfl⟩ := keeping_eq_some.1 h
    unfold seedRejected at hs
    split at hs
    · cases hs
      split <;> exact ⟨rfl, rfl, rfl, rfl, rfl, rfl, rfl, rfl⟩
    · cases hs
  | seedFinish k now status chain restore =>
    obtain ⟨hs, rfl⟩ := keeping_eq_some.1 h
    obtain ⟨seeding, reached, t, error, -, -, -, -, ht, rfl⟩ := seedFinish_cases hs
    have harrival : AuthorityFrame room' s room' (s.arrival room' k seeding reached) :=
      ⟨rfl, rfl, rfl, rfl, rfl, rfl, rfl, rfl⟩
    have houtcome := applyOutcome_frame room' (s.arrival room' k seeding reached) status reached now restore
    rw [ht] at houtcome
    refine harrival.trans (houtcome.trans ?_)
    split
    · exact settleStart_frame ..
    · exact settleSeeding_frame ..
  | release request =>
    obtain ⟨hs, rfl⟩ := keeping_eq_some.1 h
    unfold releaseActiveForHandoff at hs
    split at hs
    all_goals cases hs
    exact ⟨rfl, rfl, rfl, rfl, rfl, rfl, rfl, rfl⟩
  | releaseFlushed k =>
    obtain ⟨hs, rfl⟩ := keeping_eq_some.1 h
    unfold releaseFlushed at hs
    repeat' split at hs
    all_goals cases hs
    all_goals exact ⟨rfl, rfl, rfl, rfl, rfl, rfl, rfl, rfl⟩
  | releaseLease k =>
    simp only [authorityStep, releaseLease] at h
    repeat' split at h
    all_goals cases h
    unfold Room.releaseLease
    split <;> exact ⟨rfl, rfl, rfl, rfl, rfl, rfl, rfl, rfl⟩
  | released k now lost =>
    simp only [authorityStep, released] at h
    split at h
    · split at h
      · cases h
      · obtain ⟨reply, -, h⟩ := Option.map_eq_some_iff.1 h
        split at h <;> cases h <;> exact ⟨rfl, rfl, rfl, rfl, rfl, rfl, rfl, rfl⟩
    · cases h
  | stop =>
    obtain ⟨hs, rfl⟩ := keeping_eq_some.1 h
    unfold stop at hs
    split at hs
    all_goals cases hs
    exact ⟨rfl, rfl, rfl, rfl, rfl, rfl, rfl, rfl⟩
  | stopFlushed =>
    obtain ⟨hs, rfl⟩ := keeping_eq_some.1 h
    unfold stopFlushed at hs
    split at hs
    all_goals cases hs
    exact ⟨rfl, rfl, rfl, rfl, rfl, rfl, rfl, rfl⟩
  | stopLease =>
    simp only [authorityStep, stopLease] at h
    split at h
    all_goals cases h
    unfold Room.releaseLease
    split <;> exact ⟨rfl, rfl, rfl, rfl, rfl, rfl, rfl, rfl⟩
  | stopped lost =>
    obtain ⟨hs, rfl⟩ := keeping_eq_some.1 h
    unfold stopped at hs
    split at hs
    · obtain ⟨reply, -, rfl⟩ := Option.map_eq_some_iff.1 hs
      exact ⟨rfl, rfl, rfl, rfl, rfl, rfl, rfl, rfl⟩
    · cases hs

/-- The events that only move calls along. -/
def quiet : AuthorityEvent → Bool
  | .loadFinish .. | .acquired .. | .seedFinish .. | .release _ | .releaseFlushed _ | .releaseLease _ | .released .. => false
  | _ => true

/-- The fields that a quiet event may change. -/
def QuietFrame (room : Room) (s : Store) (room' : Room) (s' : Store) : Prop :=
  ∃ lease role roomEpoch ready candidatePromotionInFlight candidateTakeoverTimer candidateLoader candidateSeedInFlight alive
      starting acquisitions seedings stopping,
    room' = { room with lease } ∧ (alive = true → s.alive = true) ∧
    s' = { s with
      role, roomEpoch, ready, candidatePromotionInFlight, candidateTakeoverTimer, candidateLoader, candidateSeedInFlight
      alive, starting, acquisitions, seedings, stopping }

theorem authorityStep_quiet {room room' : Room} {i : Nat} {s s' : Store} {event : AuthorityEvent}
    (hq : quiet event = true) (h : s.authorityStep room i event = some (room', s')) :
    QuietFrame room s room' s' := by
  cases event with
  | loadFinish | acquired | seedFinish | release | releaseFlushed | releaseLease | released => cases hq
  | start =>
    obtain ⟨hk, rfl⟩ := keeping_eq_some.1 h
    unfold start at hk
    repeat' split at hk
    all_goals cases hk
    all_goals exact ⟨_, _, _, _, _, _, _, _, _, _, _, _, _, rfl, id, rfl⟩
  | retry =>
    obtain ⟨hk, rfl⟩ := keeping_eq_some.1 h
    unfold retry at hk
    repeat' split at hk
    all_goals cases hk
    · exact ⟨_, _, _, _, _, _, _, _, _, _, _, _, _, rfl, id, rfl⟩
    · exact ⟨_, _, _, _, _, _, _, _, _, _, _, _, _, rfl, fun ha => (by cases ha), rfl⟩
  | loadRead =>
    obtain ⟨hk, rfl⟩ := keeping_eq_some.1 h
    unfold loadRead at hk
    split at hk <;> cases hk
    exact ⟨_, _, _, _, _, _, _, _, _, _, _, _, _, rfl, id, rfl⟩
  | leaseSet k =>
    simp only [authorityStep, leaseSet] at h
    split at h <;> cases h
    refine ⟨(room.setLease s.env.owner).1.lease, _, _, _, _, _, _, _, _, _, _, _, _, ?_, id, rfl⟩
    unfold Room.setLease
    split <;> rfl
  | promote request =>
    obtain ⟨hk, rfl⟩ := keeping_eq_some.1 h
    unfold promoteCandidate at hk
    split at hk <;> cases hk
    exact ⟨_, _, _, _, _, _, _, _, _, _, _, _, _, rfl, id, rfl⟩
  | takeover =>
    obtain ⟨hk, rfl⟩ := keeping_eq_some.1 h
    obtain ⟨timer, rfl | ⟨-, status, checksum, -, -, -, rfl⟩⟩ := recoverAbandonedLease_cases hk
    · exact ⟨_, _, _, _, _, _, _, _, _, _, _, _, _, rfl, id, rfl⟩
    · exact ⟨_, _, _, _, _, _, _, _, _, _, _, _, _, rfl, id, rfl⟩
  | seed =>
    obtain ⟨hk, rfl⟩ := keeping_eq_some.1 h
    unfold seedCandidate at hk
    split at hk <;> cases hk
    exact ⟨_, _, _, _, _, _, _, _, _, _, _, _, _, rfl, id, rfl⟩
  | seedRead k =>
    obtain ⟨hk, rfl⟩ := keeping_eq_some.1 h
    unfold seedRead at hk
    split at hk <;> cases hk
    exact ⟨_, _, _, _, _, _, _, _, _, _, _, _, _, rfl, id, rfl⟩
  | seedRejected k =>
    obtain ⟨hk, rfl⟩ := keeping_eq_some.1 h
    unfold seedRejected at hk
    split at hk
    · cases hk
      split
      · exact ⟨_, _, _, _, _, _, _, _, _, _, _, _, _, rfl, fun ha => (by cases ha), rfl⟩
      · exact ⟨_, _, _, _, _, _, _, _, _, _, _, _, _, rfl, id, rfl⟩
    · cases hk
  | stop =>
    obtain ⟨hk, rfl⟩ := keeping_eq_some.1 h
    unfold stop at hk
    split at hk <;> cases hk
    exact ⟨_, _, _, _, _, _, _, _, _, _, _, _, _, rfl, id, rfl⟩
  | stopFlushed =>
    obtain ⟨hk, rfl⟩ := keeping_eq_some.1 h
    unfold stopFlushed at hk
    split at hk <;> cases hk
    exact ⟨_, _, _, _, _, _, _, _, _, _, _, _, _, rfl, id, rfl⟩
  | stopLease =>
    simp only [authorityStep, stopLease] at h
    split at h <;> cases h
    refine ⟨(room.releaseLease s.env.owner).lease, _, _, _, _, _, _, _, _, _, _, _, _, ?_, id, rfl⟩
    unfold Room.releaseLease
    split <;> rfl
  | stopped lost =>
    obtain ⟨hk, rfl⟩ := keeping_eq_some.1 h
    unfold stopped at hk
    split at hk
    · obtain ⟨reply, -, rfl⟩ := Option.map_eq_some_iff.1 hk
      exact ⟨_, _, _, _, _, _, _, _, _, _, _, _, _, rfl, id, rfl⟩
    · cases hk

/-- The ways in which a release moves on. -/
theorem released_cases {room room' : Room} {s s' : Store} {k now : Nat} {lost : Bool}
    (h : s.released room k now lost = some (room', s')) :
    ∃ release call reply, s.releases[k]? = some release ∧ release.stage = .releasing call ∧
      call.settle lost = some reply ∧
      ((reply = none ∧ room' = room ∧ s' = { s with releases := s.releases.eraseIdx k }) ∨
        (reply.isSome ∧
          room' = { room with reports := room.reports ++
            [{ status := s.releasedStatus release now, newest := room.snapshot }] } ∧
          s' = { s with
            releases := s.releases.eraseIdx k
            role := .candidate
            journalFenced := false
            candidateLoader := true
            candidateStatus := some (s.releasedStatus release now)
            statusAt :=
              if (s.releasedStatus release now).triple = release.released then some release.versions else none })) := by
  unfold released at h
  split at h
  · rename_i release hrelease
    split at h
    · cases h
    · rename_i call hcall
      obtain ⟨reply, hreply, h⟩ := Option.map_eq_some_iff.1 h
      refine ⟨release, call, reply, hrelease, hcall, hreply, ?_⟩
      split at h <;> cases h
      · exact Or.inl ⟨rfl, rfl, rfl⟩
      · exact Or.inr ⟨rfl, rfl, rfl⟩
  · cases h

theorem releaseFlushed_cases {room : Room} {s s' : Store} {k : Nat} (h : s.releaseFlushed room k = some s') :
    ∃ currentChecksum, s.writer.loop = .idle ∧
      let checksum := s.writer.metrics.lastChecksum.getD currentChecksum
      s' = { s with
        authorityChecksum := some checksum
        releases := s.releases.set k {
          currentChecksum
          stage := .releasing s.call
          serverTick := s.writer.metrics.serverTick
          released :=
            if SavedLast room s then some (s.roomEpoch, s.writer.metrics.serverTick, checksum) else none
          versions := room.stored.length } } := by
  unfold releaseFlushed at h
  split at h
  · split at h
    · cases h
      exact ⟨_, ‹_›, rfl⟩
    · cases h
  · cases h

end Store

namespace World

variable {config : SnapshotRuntimeConfig}

/-- A step of the world is a change from outside or a step of one store. -/
theorem step_cases {w w' : World} {event : WorldEvent} (h : w.step config event = some w') :
    (∃ env, event = .boot env ∧ w' = { w with stores := w.stores ++ [Store.boot env] }) ∨
    (∃ i s, event = .kill i ∧ w.stores[i]? = some s ∧ w' = { w with stores := w.stores.set i s.exit }) ∨
    (event = .expire ∧ w' = { w with room := { w.room with lease := none } }) ∨
    ∃ i e s room' s', event = .at i e ∧ w.stores[i]? = some s ∧ s.step config w.room i e = some (room', s') ∧
      w' = { room := room', stores := w.stores.set i s' } := by
  cases event with
  | boot env =>
    cases h
    exact Or.inl ⟨env, rfl, rfl⟩
  | kill i =>
    obtain ⟨s, hs, rfl⟩ := Option.map_eq_some_iff.1 h
    exact Or.inr (Or.inl ⟨i, s, rfl, hs, rfl⟩)
  | expire =>
    cases h
    exact Or.inr (Or.inr (Or.inl ⟨rfl, rfl⟩))
  | «at» i e =>
    simp only [step] at h
    split at h
    · rename_i s hs
      obtain ⟨⟨room', s'⟩, hstep, rfl⟩ := Option.map_eq_some_iff.1 h
      exact Or.inr (Or.inr (Or.inr ⟨i, e, s, room', s', rfl, hs, hstep, rfl⟩))
    · cases h

/-- A property of each store in the room, kept by everything that can happen to it and to the others. -/
theorem each_step {I : Room → Nat → Store → Prop} {w w' : World} {event : WorldEvent}
    (h : ∀ i s, w.stores[i]? = some s → I w.room i s) (hs : w.step config event = some w')
    (hboot : ∀ env, I w.room w.stores.length (Store.boot env)) (hexit : ∀ i s, I w.room i s → I w.room i s.exit)
    (hexpire : ∀ i s, I w.room i s → I { w.room with lease := none } i s)
    (hown : ∀ i s e room' s', event = .at i e → w.stores[i]? = some s → I w.room i s →
      s.step config w.room i e = some (room', s') → I room' i s')
    (hother : ∀ i s e room' s' j t, event = .at i e → w.stores[i]? = some s → s.step config w.room i e = some (room', s') →
      j ≠ i → w.stores[j]? = some t → I w.room j t → I room' j t) :
    ∀ i s, w'.stores[i]? = some s → I w'.room i s := by
  rcases step_cases hs with ⟨env, -, rfl⟩ | ⟨k, s, -, hk, rfl⟩ | ⟨-, rfl⟩ | ⟨k, e, s, room', s', he, hk, hstep, rfl⟩
  · intro i s hi
    rcases Nat.lt_trichotomy i w.stores.length with hlt | rfl | hgt
    · rw [List.getElem?_append_left hlt] at hi
      exact h i s hi
    · rw [List.getElem?_concat_length] at hi
      cases hi
      exact hboot env
    · rw [List.getElem?_eq_none (by simp; omega)] at hi
      cases hi
  · intro i t hi
    by_cases hik : i = k
    · subst hik
      rw [List.getElem?_set_self (List.getElem?_eq_some_iff.1 hk).1] at hi
      cases hi
      exact hexit _ _ (h _ _ hk)
    · rw [List.getElem?_set_ne (Ne.symm hik)] at hi
      exact h i t hi
  · exact fun i s hi => hexpire i s (h i s hi)
  · intro i t hi
    by_cases hik : i = k
    · subst hik
      rw [List.getElem?_set_self (List.getElem?_eq_some_iff.1 hk).1] at hi
      cases hi
      exact hown _ _ _ _ _ he hk (h _ _ hk) hstep
    · rw [List.getElem?_set_ne (Ne.symm hik)] at hi
      exact hother _ _ _ _ _ _ _ he hk hstep hik hi (h i t hi)

end World

end Opsia
