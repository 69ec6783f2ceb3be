import Opsia.Store.Captured

/-!
# The state an authority starts from

A candidate that is promoted, or that recovers an abandoned lease, goes on from the state it has last materialized, and
reads nothing again.  Where nothing has been stored since that state was the newest one, it is the newest one
(`authority_taken_on_newest`).  A released active stays promotable, and the recovery timer does not seed, so both can
fall behind.
-/

namespace Opsia

/-- The candidate had materialized the snapshot stored last. -/
def Activation.Current (a : Activation) : Prop :=
  ∃ v newest, a.materialized = some v ∧ a.newest = some newest ∧ v.triple = newest.triple

/-- A promotion or a recovery. -/
def AcquirePurpose.takesOver : AcquirePurpose → Bool
  | start _ => false
  | _ => true

namespace World

open Machine

variable {config : SnapshotRuntimeConfig}

/-- Every authority taken by a promotion or a recovery was taken on the newest stored state. -/
def TakenOnNewest (w : World) : Prop := ∀ a ∈ w.room.activations, a.Current

/-- A record in the journal leads to a stored snapshot, unless it was there before. -/
def JournalStored (before : List JournalDelta) (w : World) : Prop :=
  ∀ d ∈ w.room.journal, d ∈ before ∨ d.target ∈ w.room.stored

/-- Where a promotion or a recovery takes the lease, no snapshot has been stored since the store's last seeding reached
the newest one, or since the store's own last capture was stored. -/
def NothingStoredSince (w : World) : WorldEvent → Prop
  | .at i (.authority (.acquired k lost)) =>
    ∀ s ∈ w.stores[i]?, ∀ a ∈ s.acquisitions[k]?, a.call.settle lost = some (some true) → a.purpose.takesOver = true →
      s.syncedAt = some w.room.stored.length
  | _ => True

instance (w : World) (event : WorldEvent) : Decidable (NothingStoredSince w event) := by
  unfold NothingStoredSince
  split <;> infer_instance

/-- The activations after a step of a store. -/
theorem step_activations {room room' : Room} {i : Nat} {s s' : Store} {e : StoreEvent}
    (h : s.step config room i e = some (room', s')) :
    room'.activations = room.activations ∨
      ∃ k lost a, e = .authority (.acquired k lost) ∧ s.acquisitions[k]? = some a ∧
        a.call.settle lost = some (some true) ∧ a.purpose.takesOver = true ∧
        room'.activations = room.activations ++ [{ materialized := s.materialized, newest := room.snapshot }] := by
  cases e with
  | saving e =>
    simp only [Store.step] at h
    split at h
    · obtain ⟨_, _, _, _, _, _, _, _, _, _, _, _, _, rfl, -⟩ := Store.savingStep_frame h
      exact Or.inl rfl
    · cases h
  | session e =>
    simp only [Store.step] at h
    split at h <;> cases h
    exact Or.inl rfl
  | handoffStatus now =>
    simp only [Store.step] at h
    split at h <;> cases h
    exact Or.inl rfl
  | authority e =>
    simp only [Store.step] at h
    split at h
    · cases e with
      | acquired k lost =>
        obtain ⟨a, reply, ha, hreply, heq⟩ := Store.acquired_cases h
        dsimp only at heq
        cases hp : a.purpose <;> rw [hp] at heq <;> dsimp only at heq
        · unfold Store.startAcquired at heq
          repeat' split at heq
          all_goals cases heq
          all_goals exact Or.inl rfl
        · unfold Store.promoteAcquired at heq
          dsimp only at heq
          split at heq
          · cases heq
            exact Or.inr ⟨k, lost, a, rfl, ha, hreply, (by rw [hp]; rfl), rfl⟩
          · split at heq <;> cases heq <;> exact Or.inl rfl
        · unfold Store.recoverAcquired at heq
          split at heq <;> cases heq
          · exact Or.inr ⟨k, lost, a, rfl, ha, hreply, (by rw [hp]; rfl), rfl⟩
          · exact Or.inl rfl
          · exact Or.inl rfl
      | leaseSet k =>
        simp only [Store.authorityStep, Store.leaseSet] at h
        split at h <;> cases h
        unfold Room.setLease
        split <;> exact Or.inl rfl
      | releaseLease k =>
        simp only [Store.authorityStep, Store.releaseLease] at h
        repeat' split at h
        all_goals cases h
        unfold Room.releaseLease
        split <;> exact Or.inl rfl
      | released k now lost =>
        simp only [Store.authorityStep, Store.released] at h
        split at h
        · split at h
          · cases h
          · obtain ⟨reply, -, h⟩ := Option.map_eq_some_iff.1 h
            split at h <;> cases h <;> exact Or.inl rfl
        · cases h
      | stopLease =>
        simp only [Store.authorityStep, Store.stopLease] at h
        split at h <;> cases h
        unfold Room.releaseLease
        split <;> exact Or.inl rfl
      | _ =>
        obtain ⟨-, rfl⟩ := Store.keeping_eq_some.1 h
        exact Or.inl rfl
    · cases h

/-- What holds in a run whose authorities find nothing stored since. -/
structure Fresh (config : SnapshotRuntimeConfig) (before : List JournalDelta) (w : World) : Prop where
  consistent : Consistent config w
  taken : w.TakenOnNewest
  journal : JournalStored before w

theorem Fresh.step {before : List JournalDelta} {w w' : World} {event : WorldEvent} (h : Fresh config before w)
    (hsince : NothingStoredSince w event) (hs : w.step config event = some w') : Fresh config before w' := by
  refine ⟨h.consistent.step hs, ?_, ?_⟩
  · rcases step_cases hs with ⟨env, -, rfl⟩ | ⟨i, s, -, -, rfl⟩ | ⟨-, rfl⟩ | ⟨i, e, s, room', s', rfl, hi, hstep, rfl⟩
    · exact h.taken
    · exact h.taken
    · exact h.taken
    · rcases step_activations hstep with heq | ⟨k, lost, a, rfl, ha, hreply, hp, heq⟩
      · intro b hb
        exact h.taken b (heq ▸ hb)
      · intro b hb
        have hb : b ∈ w.room.activations ++ [{ materialized := s.materialized, newest := w.room.snapshot }] := heq ▸ hb
        rcases List.mem_append.1 hb with hb | hb
        · exact h.taken b hb
        · rw [List.mem_singleton.1 hb]
          obtain ⟨v, hv, hroom⟩ := (h.consistent i s hi).synced.newest (hsince s hi a ha hreply hp)
          exact ⟨v, v, hv, hroom, rfl⟩
  · rcases step_cases hs with ⟨env, -, rfl⟩ | ⟨i, s, -, -, rfl⟩ | ⟨-, rfl⟩ | ⟨i, e, s, room', s', rfl, hi, hstep, rfl⟩
    · exact h.journal
    · exact h.journal
    · exact h.journal
    · obtain ⟨-, hextended, hjournal⟩ := Store.consistent_step (h.consistent i s hi) hstep
      intro d hd
      rcases hjournal d hd with hd | hd
      · exact (h.journal d hd).imp id fun hm => hextended.subset hm
      · exact Or.inr hd

/-- In a run in which every promotion and every recovery finds nothing stored since the store was last known to hold the
newest state, each of them takes the authority on the newest stored state, and the journal leads nowhere else. -/
theorem authority_taken_on_newest (config : SnapshotRuntimeConfig) (lease : Option String) (stored : List SnapshotView)
    (journal : List JournalDelta) (events : List WorldEvent) :
    EachStep (step config) NothingStoredSince (init lease stored journal) events →
      Throughout (step config) (fun w => w.TakenOnNewest ∧ JournalStored journal w) (init lease stored journal) events := by
  intro h
  have hinit : Fresh config journal (init lease stored journal) := by
    refine ⟨consistent_init lease stored journal, ?_, fun d hd => Or.inl hd⟩
    intro a ha
    cases ha
  refine (throughout_of_eachStep ?_ hinit h).mono fun w hw => ⟨hw.taken, hw.journal⟩
  exact fun w event w' hw hsince hs => hw.step hsince hs

open Sample in
/-- A candidate seeded with the last snapshot of an active, promoted after its release. -/
theorem promoted_on_newest :
    Throughout (step limits) (fun w => w.TakenOnNewest ∧ JournalStored [] w) (init none [] [])
      (startActive 0 ++ saveSent 0 0 10 digestA ++ settled 0 0 ++ startCandidate 1 10 digestA ++ release 0 digestA ++
        promote 1 digestA) :=
  authority_taken_on_newest limits none [] [] _ (by decide +kernel)

open Sample in
/-- The active saves once more and dies; the candidate recovers the lease on the state it was seeded with. -/
theorem recovered_on_older :
    (runFrom (step limits) (init none [] [])
      (startActive 0 ++ saveSent 0 0 10 digestA ++ settled 0 0 ++ startCandidate 1 10 digestA ++
        saveSent 0 1 20 digestB ++ [.kill 0, .expire, auth 1 .takeover, auth 1 (.leaseSet 0), auth 1 (.acquired 0 false)])).map
      (fun w => w.room.activations.map fun a => (a.materialized.map fun v => v.serverTick, a.newest.map fun v => v.serverTick)) =
      some [(some 10, some 20)] := by
  decide +kernel

end World

end Opsia
