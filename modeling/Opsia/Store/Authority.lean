import Opsia.Store.Frames

/-!
# Epochs of the authority

A store takes its epoch from the environment when it starts, from the request when it is promoted, and from itself and
its status when it recovers an abandoned lease.  The epochs increase strictly just when each of these is above all
epochs granted before (`epochs_fenced_iff`); a restarted process takes the epoch of its environment once more.
-/

namespace Opsia

namespace World

open Machine

variable {config : SnapshotRuntimeConfig}

/-- Every acquisition of the lease has a larger epoch than all before it. -/
def EpochsIncrease (w : World) : Prop := w.room.grants.Pairwise fun g h => g.2 < h.2

/-- `acceptsGatewayInput`, up to the state of the connection. -/
def Authoritative (s : Store) : Prop := s.ready = true ∧ s.role = .active

/-- No two processes are authoritative at one epoch. -/
def NoSharedEpoch (w : World) : Prop :=
  ∀ (i j : Nat) (s t : Store), w.stores[i]? = some s → w.stores[j]? = some t → i ≠ j → Authoritative s → Authoritative t →
    s.roomEpoch ≠ t.roomEpoch

/-- Where a store takes the lease, the epoch it goes by is above all that were granted: at a start the `ROOM_EPOCH` of
the environment, at a promotion the requested epoch, and at a recovery the larger of the store's own epoch and that of
its status is at least as large. -/
def FreshEpoch (w : World) : WorldEvent → Prop
  | .at i (.authority (.acquired k lost)) =>
    ∀ s a, w.stores[i]? = some s → s.acquisitions[k]? = some a → a.call.settle lost = some (some true) →
      match a.purpose with
      | .recover roomEpoch _ => ∀ g ∈ w.room.grants, g.2 ≤ s.roomEpoch ∨ ∃ epoch ∈ roomEpoch, g.2 ≤ epoch
      | _ => ∀ g ∈ w.room.grants, g.2 < s.roomEpoch
  | _ => True

/-- A promotion is refused after another call has made the store active, while a seeding has left it a status. -/
def LateRefusal (w : World) : WorldEvent → Prop
  | .at i (.authority (.acquired k lost)) =>
    ∃ s a reply expectedEpoch expectedChecksum, w.stores[i]? = some s ∧ s.acquisitions[k]? = some a ∧
      a.purpose = .promote expectedEpoch expectedChecksum ∧ a.call.settle lost = some reply ∧ reply ≠ some true ∧
      s.role = .active ∧ s.candidateStatus.isSome = true
  | _ => False

/-! ### Grants -/

/-- The epoch at which a step takes the lease. -/
def taken (s : Store) : StoreEvent → Option Int
  | .authority (.acquired k lost) =>
    match s.acquisitions[k]? with
    | some a =>
      if a.call.settle lost = some (some true) then
        match a.purpose with
        | .recover roomEpoch _ => some (s.recoveredEpoch roomEpoch)
        | _ => some s.roomEpoch
      else none
    | none => none
  | _ => none

private theorem setLease_grants (room : Room) (owner : String) : (room.setLease owner).1.grants = room.grants := by
  unfold Room.setLease
  split <;> rfl

private theorem releaseLease_grants (room : Room) (owner : String) : (room.releaseLease owner).grants = room.grants := by
  unfold Room.releaseLease
  split <;> rfl

private theorem acquired_grants {room room' : Room} {i k : Nat} {s s' : Store} {lost : Bool}
    (h : s.acquired room i k lost = some (room', s')) :
    room'.grants = room.grants ++ ((taken s (.authority (.acquired k lost))).map fun epoch => (i, epoch)).toList := by
  obtain ⟨a, reply, ha, hreply, h⟩ := Store.acquired_cases h
  have htaken : taken s (.authority (.acquired k lost)) =
      if reply = some true then
        match a.purpose with
        | .recover roomEpoch _ => some (s.recoveredEpoch roomEpoch)
        | _ => some s.roomEpoch
      else none := by
    simp only [taken, ha, hreply, Option.some.injEq]
  rw [htaken]
  dsimp only at h
  rcases reply with - | - | -
  · cases hp : a.purpose <;> simp only [hp, Store.startAcquired, Store.promoteAcquired, Store.recoverAcquired] at h
    · cases h
      simp
    · split at h <;> cases h <;> simp
    · cases h
      simp
  · cases hp : a.purpose <;> simp only [hp, Store.startAcquired, Store.promoteAcquired, Store.recoverAcquired] at h
    · split at h <;> cases h <;> simp
    · split at h <;> cases h <;> simp
    · cases h
      simp
  · cases hp : a.purpose <;> simp only [hp, Store.startAcquired, Store.promoteAcquired, Store.recoverAcquired] at h <;>
      cases h <;> rfl

/-- The grants after a step. -/
theorem step_grants {room room' : Room} {i : Nat} {s s' : Store} {e : StoreEvent}
    (h : s.step config room i e = some (room', s')) :
    room'.grants = room.grants ++ ((taken s e).map fun epoch => (i, epoch)).toList := by
  cases e with
  | saving e =>
    simp only [Store.step] at h
    split at h
    · obtain ⟨_, _, _, _, _, _, _, _, _, _, _, _, _, rfl, -⟩ := Store.savingStep_frame h
      simp [taken]
    · cases h
  | session e =>
    simp only [Store.step] at h
    split at h <;> cases h
    simp [taken]
  | handoffStatus now =>
    simp only [Store.step] at h
    split at h <;> cases h
    simp [taken]
  | authority e =>
    simp only [Store.step] at h
    split at h
    · cases e with
      | acquired k lost => exact acquired_grants h
      | leaseSet k =>
        simp only [Store.authorityStep, Store.leaseSet] at h
        split at h
        · cases h
          simp [taken, setLease_grants]
        · cases h
      | releaseLease k =>
        simp only [Store.authorityStep, Store.releaseLease] at h
        repeat' split at h
        all_goals cases h
        simp [taken, releaseLease_grants]
      | released k now lost =>
        simp only [Store.authorityStep, Store.released] at h
        split at h
        · split at h
          · cases h
          · obtain ⟨reply, -, h⟩ := Option.map_eq_some_iff.1 h
            split at h <;> cases h <;> simp [taken]
        · cases h
      | stopLease =>
        simp only [Store.authorityStep, Store.stopLease] at h
        split at h
        all_goals cases h
        simp [taken, releaseLease_grants]
      | _ =>
        obtain ⟨-, rfl⟩ := Store.keeping_eq_some.1 h
        simp [taken]
    · cases h

/-! ### One step of the epochs -/

private theorem recoveredEpoch_fresh {s : Store} {roomEpoch : Option Int} {n : Int} :
    n < s.recoveredEpoch roomEpoch ↔ n ≤ s.roomEpoch ∨ ∃ epoch ∈ roomEpoch, n ≤ epoch := by
  unfold Store.recoveredEpoch
  cases roomEpoch with
  | none => simp [Int.lt_add_one_iff]
  | some epoch =>
    simp only [Option.getD_some, Option.mem_def, Option.some.injEq, exists_eq_left']
    omega

/-- A fresh epoch is one that keeps the grants increasing. -/
private theorem freshEpoch_iff {w : World} {i : Nat} {s : Store} {e : StoreEvent} (hi : w.stores[i]? = some s) :
    FreshEpoch w (.at i e) ↔ ∀ epoch ∈ taken s e, ∀ g ∈ w.room.grants, g.2 < epoch := by
  cases e with
  | authority e =>
    cases e with
    | acquired k lost =>
      simp only [taken]
      constructor
      · intro h epoch hepoch g hg
        split at hepoch
        · rename_i a ha
          split at hepoch
          · rename_i hr
            have hfresh := h s a hi ha hr
            cases hp : a.purpose <;> rw [hp] at hfresh hepoch <;> cases hepoch
            · exact hfresh g hg
            · exact hfresh g hg
            · exact recoveredEpoch_fresh.2 (hfresh g hg)
          · cases hepoch
        · cases hepoch
      · intro h t a ht ha hr
        obtain rfl : s = t := by rw [hi] at ht; exact Option.some.inj ht
        rw [ha] at h
        simp only [hr, if_true] at h
        cases hp : a.purpose <;> rw [hp] at h
        · exact h _ rfl
        · exact h _ rfl
        · exact fun g hg => recoveredEpoch_fresh.1 (h _ rfl g hg)
    | _ => simp [FreshEpoch, taken]
  | _ => simp [FreshEpoch, taken]

private theorem increase_append {grants : List (Nat × Int)} {i : Nat} {epoch : Option Int} :
    (grants ++ (epoch.map fun epoch => (i, epoch)).toList).Pairwise (fun g h => g.2 < h.2) ↔
      grants.Pairwise (fun g h => g.2 < h.2) ∧ ∀ e ∈ epoch, ∀ g ∈ grants, g.2 < e := by
  cases epoch with
  | none => simp
  | some e =>
    rw [List.pairwise_append]
    simp

/-- After a step the epochs still increase just when the step took the lease at a fresh epoch. -/
theorem increase_step {w w' : World} {event : WorldEvent} (h : w.EpochsIncrease) (hs : w.step config event = some w') :
    w'.EpochsIncrease ↔ FreshEpoch w event := by
  rcases step_cases hs with ⟨env, rfl, rfl⟩ | ⟨i, s, rfl, -, rfl⟩ | ⟨rfl, rfl⟩ | ⟨i, e, s, room', s', rfl, hi, hstep, rfl⟩
  · exact iff_of_true h trivial
  · exact iff_of_true h trivial
  · exact iff_of_true h trivial
  · unfold EpochsIncrease
    rw [freshEpoch_iff hi, step_grants hstep, increase_append]
    exact and_iff_right h

/-! ### Who is authoritative -/

/-- An active that has not yet asked for the lease, or has not got it. -/
structure Unheld (s : Store) : Prop where
  ready : s.ready = false
  starting : s.starting = .constructed ∨ s.starting = .acquiring ∨ ∃ attempt, s.starting = .waiting attempt
  seedings : ∀ seeding ∈ s.seedings, seeding.atStart = false

theorem Unheld.not_loading {s : Store} (h : Unheld s) (read : Option (Option SnapshotView)) :
    s.starting ≠ .loading read := by
  intro hloading
  rcases h.starting with hc | hc | ⟨attempt, hc⟩ <;> rw [hloading] at hc <;> cases hc

/-- An active store has been granted its epoch, or is still waiting for the lease. -/
def Standing (room : Room) (i : Nat) (s : Store) : Prop :=
  s.role = .active → (i, s.roomEpoch) ∈ room.grants ∨ Unheld s

private theorem Standing.congr {room room' : Room} {i : Nat} {s s' : Store} (h : Standing room i s)
    (hg : ∀ g ∈ room.grants, g ∈ room'.grants) (hrole : s'.role = .active → s.role = .active)
    (hepoch : s'.roomEpoch = s.roomEpoch) (hready : s.ready = false → s'.ready = false)
    (hstarting : s'.starting = s.starting) (hseedings : ∀ seeding ∈ s'.seedings, seeding.atStart = true →
      seeding ∈ s.seedings) : Standing room' i s' := by
  intro hr
  rcases h (hrole hr) with hm | hu
  · exact Or.inl (hg _ (by rw [hepoch]; exact hm))
  · refine Or.inr ⟨hready hu.ready, by rw [hstarting]; exact hu.starting, fun seeding hm => ?_⟩
    by_cases ha : seeding.atStart = true
    · exact hu.seedings seeding (hseedings seeding hm ha)
    · simpa using ha

private theorem not_active_of_candidate {role : OpsiaRuntimeRole} (h : role = .candidate) : role ≠ .active := by
  rw [h]
  decide

private theorem standing_promoteAcquired {room : Room} {i : Nat} {s : Store} {expectedEpoch : Int}
    {expectedChecksum : String} {reply : Option Bool} (h : Standing room i s)
    (hlate : reply ≠ some true → s.role = .active → s.candidateStatus = none) :
    Standing (Store.promoteAcquired room i s expectedEpoch expectedChecksum reply).1 i
      (Store.promoteAcquired room i s expectedEpoch expectedChecksum reply).2 := by
  unfold Store.promoteAcquired
  dsimp only
  split
  · exact fun _ => Or.inl (by simp [Store.granted, Store.activated])
  · rename_i hreply
    split
    · rename_i status hstatus
      intro hr
      rw [hlate hreply hr] at hstatus
      cases hstatus
    · exact h.congr (fun _ hg => hg) id rfl id rfl fun _ hm _ => hm

private theorem standing_acquired {room room' : Room} {i k : Nat} {s s' : Store} {lost : Bool}
    (h : Standing room i s) (hs : s.acquired room i k lost = some (room', s'))
    (hlate : ∀ a reply expectedEpoch expectedChecksum, s.acquisitions[k]? = some a → a.call.settle lost = some reply →
      a.purpose = .promote expectedEpoch expectedChecksum → reply ≠ some true → s.role = .active →
      s.candidateStatus = none) : Standing room' i s' := by
  obtain ⟨a, reply, ha, hreply, heq⟩ := Store.acquired_cases hs
  have hrest : Standing room i { s with acquisitions := s.acquisitions.eraseIdx k } :=
    h.congr (fun _ hg => hg) id rfl id rfl fun _ hm _ => hm
  dsimp only at heq
  split at heq
  · unfold Store.startAcquired at heq
    split at heq
    · cases heq
      exact fun _ => Or.inl (by simp [Store.granted])
    · split at heq
      · cases heq
        exact fun hr => absurd hr (not_active_of_candidate rfl)
      · cases heq
        intro hr
        rcases h hr with hm | hu
        · exact Or.inl hm
        · exact Or.inr ⟨hu.ready, Or.inr (Or.inr ⟨_, rfl⟩), hu.seedings⟩
    · cases heq
      exact hrest.congr (fun _ hg => hg) id rfl id rfl fun _ hm _ => hm
  · rename_i expectedEpoch expectedChecksum hp
    have := @standing_promoteAcquired _ _ _ expectedEpoch expectedChecksum _ hrest fun hne hr =>
      hlate a reply expectedEpoch expectedChecksum ha hreply hp hne hr
    rwa [← heq] at this
  · unfold Store.recoverAcquired at heq
    split at heq
    · cases heq
      exact fun _ => Or.inl (by simp [Store.granted, Store.activated])
    · cases heq
      exact hrest.congr (fun _ hg => hg) id rfl id rfl fun _ hm _ => hm
    · cases heq
      exact hrest.congr (fun _ hg => hg) id rfl id rfl fun _ hm _ => hm

private theorem standing_seedFinish {room : Room} {i k now : Nat} {s s' : Store} {status : OpsiaHandoffStatusData}
    {chain : List JournalDelta} {restore : Except String Unit} (h : Standing room i s)
    (hs : s.seedFinish room k now status chain restore = some s') : Standing room i s' := by
  obtain ⟨seeding, reached, t, error, hk, -, -, -, ht, rfl⟩ := Store.seedFinish_cases hs
  have hmem := List.mem_of_getElem? hk
  have harrival : Standing room i (s.arrival room k seeding reached) :=
    h.congr (fun _ hg => hg) id rfl id rfl fun _ hm _ => List.mem_of_mem_eraseIdx hm
  have hframe : t.role = s.role ∧ t.roomEpoch = s.roomEpoch ∧ Standing room i t := by
    unfold Store.applyOutcome Store.applyCandidateEnvelope at ht
    repeat' split at ht
    all_goals cases ht
    all_goals exact ⟨rfl, rfl, harrival.congr (fun _ hg => hg) id rfl id rfl fun _ hm _ => hm⟩
  obtain ⟨hrole, hepoch, hstanding⟩ := hframe
  have hheld : seeding.atStart = true → t.role = .active → (i, t.roomEpoch) ∈ room.grants := by
    intro hstart hr
    rw [hepoch]
    rcases h (hrole ▸ hr) with hm | hu
    · exact hm
    · rw [hu.seedings seeding hmem] at hstart
      cases hstart
  split
  · rename_i hstart
    unfold Store.settleStart
    split
    · exact hstanding.congr (fun _ hg => hg) id rfl id rfl fun _ hm _ => hm
    · exact fun hr => Or.inl (hheld hstart hr)
  · unfold Store.settleSeeding
    split <;> exact hstanding.congr (fun _ hg => hg) id rfl id rfl fun _ hm _ => hm

/-- A store keeps its standing, unless a promotion is refused late. -/
theorem standing_authority {room room' : Room} {i : Nat} {s s' : Store} {e : AuthorityEvent} (h : Standing room i s)
    (hs : s.authorityStep room i e = some (room', s'))
    (hlate : ∀ k lost a reply expectedEpoch expectedChecksum, e = .acquired k lost → s.acquisitions[k]? = some a →
      a.call.settle lost = some reply → a.purpose = .promote expectedEpoch expectedChecksum → reply ≠ some true →
      s.role = .active → s.candidateStatus = none) : Standing room' i s' := by
  cases e with
  | acquired k lost =>
    exact standing_acquired h hs fun a reply expectedEpoch expectedChecksum =>
      hlate k lost a reply expectedEpoch expectedChecksum rfl
  | start =>
    obtain ⟨hk, rfl⟩ := Store.keeping_eq_some.1 hs
    unfold Store.start at hk
    split at hk
    · cases hk
    · split at hk
      · cases hk
        exact fun hr => absurd hr (not_active_of_candidate rfl)
      · cases hk
        intro hr
        rcases h hr with hm | hu
        · exact Or.inl hm
        · exact Or.inr ⟨hu.ready, Or.inr (Or.inl rfl), hu.seedings⟩
  | retry =>
    obtain ⟨hk, rfl⟩ := Store.keeping_eq_some.1 hs
    unfold Store.retry at hk
    split at hk
    · split at hk
      · cases hk
        intro hr
        rcases h hr with hm | hu
        · exact Or.inl hm
        · exact Or.inr ⟨hu.ready, Or.inr (Or.inl rfl), hu.seedings⟩
      · cases hk
        exact h.congr (fun _ hg => hg) id rfl id rfl fun _ hm _ => hm
    · cases hk
  | loadRead =>
    obtain ⟨hk, rfl⟩ := Store.keeping_eq_some.1 hs
    unfold Store.loadRead at hk
    split at hk
    · rename_i hloading
      cases hk
      intro hr
      rcases h hr with hm | hu
      · exact Or.inl hm
      · exact absurd hloading (hu.not_loading _)
    · cases hk
  | loadFinish now result =>
    obtain ⟨hk, rfl⟩ := Store.keeping_eq_some.1 hs
    -- a store that loads has been granted the lease
    have hheld : ∀ read, s.starting = .loading read → s.role = .active → (i, s.roomEpoch) ∈ room'.grants := by
      intro read hloading hr
      rcases h hr with hm | hu
      · exact hm
      · exact absurd hloading (hu.not_loading _)
    unfold Store.loadFinish at hk
    split at hk
    · rename_i hloading
      cases hk
      exact fun hr => Or.inl (hheld _ hloading hr)
    · rename_i hloading
      split at hk
      · cases hk
        exact fun hr => Or.inl (hheld _ hloading hr)
      · cases hk
        exact fun hr => Or.inl (hheld _ hloading hr)
      · cases hk
        exact h.congr (fun _ hg => hg) id rfl id rfl fun _ hm _ => hm
    · cases hk
  | leaseSet k =>
    simp only [Store.authorityStep, Store.leaseSet] at hs
    split at hs
    · cases hs
      exact h.congr (fun _ hg => by rw [setLease_grants]; exact hg) id rfl id rfl fun _ hm _ => hm
    · cases hs
  | promote request =>
    obtain ⟨hk, rfl⟩ := Store.keeping_eq_some.1 hs
    unfold Store.promoteCandidate at hk
    split at hk
    · rename_i hp
      cases hk
      exact fun hr => absurd hr (not_active_of_candidate hp.1)
    · cases hk
  | takeover =>
    obtain ⟨hk, rfl⟩ := Store.keeping_eq_some.1 hs
    obtain ⟨timer, rfl | ⟨hrole, status, checksum, -, -, -, rfl⟩⟩ := Store.recoverAbandonedLease_cases hk
    · exact h.congr (fun _ hg => hg) id rfl id rfl fun _ hm _ => hm
    · exact fun hr => absurd hr (not_active_of_candidate hrole)
  | seed =>
    obtain ⟨hk, rfl⟩ := Store.keeping_eq_some.1 hs
    unfold Store.seedCandidate at hk
    split at hk
    · rename_i hc
      cases hk
      exact fun hr => absurd hr (not_active_of_candidate hc.1)
    · cases hk
  | seedRead k =>
    obtain ⟨hk, rfl⟩ := Store.keeping_eq_some.1 hs
    unfold Store.seedRead at hk
    split at hk
    · rename_i atStart hread
      cases hk
      intro hr
      rcases h hr with hm | hu
      · exact Or.inl hm
      · refine Or.inr ⟨hu.ready, hu.starting, fun seeding hm => ?_⟩
        rcases List.mem_or_eq_of_mem_set hm with hm | rfl
        · exact hu.seedings seeding hm
        · exact hu.seedings { atStart } (List.mem_of_getElem? hread)
    · cases hk
  | seedRejected k =>
    obtain ⟨hk, rfl⟩ := Store.keeping_eq_some.1 hs
    unfold Store.seedRejected at hk
    split at hk
    · cases hk
      split
      · exact h.congr (fun _ hg => hg) id rfl id rfl fun _ hm _ => hm
      · exact h.congr (fun _ hg => hg) id rfl id rfl fun _ hm _ => List.mem_of_mem_eraseIdx hm
    · cases hk
  | seedFinish k now status chain restore =>
    obtain ⟨hk, rfl⟩ := Store.keeping_eq_some.1 hs
    exact standing_seedFinish h hk
  | release request =>
    obtain ⟨hk, rfl⟩ := Store.keeping_eq_some.1 hs
    unfold Store.releaseActiveForHandoff at hk
    split at hk
    all_goals cases hk
    exact h.congr (fun _ hg => hg) id rfl id rfl fun _ hm _ => hm
  | releaseFlushed k =>
    obtain ⟨hk, rfl⟩ := Store.keeping_eq_some.1 hs
    unfold Store.releaseFlushed at hk
    repeat' split at hk
    all_goals cases hk
    all_goals exact h.congr (fun _ hg => hg) id rfl id rfl fun _ hm _ => hm
  | releaseLease k =>
    simp only [Store.authorityStep, Store.releaseLease] at hs
    repeat' split at hs
    all_goals cases hs
    exact h.congr (fun _ hg => by rw [releaseLease_grants]; exact hg) id rfl id rfl fun _ hm _ => hm
  | released k now lost =>
    simp only [Store.authorityStep, Store.released] at hs
    split at hs
    · split at hs
      · cases hs
      · obtain ⟨reply, -, hs⟩ := Option.map_eq_some_iff.1 hs
        split at hs
        · cases hs
          exact h.congr (fun _ hg => hg) id rfl id rfl fun _ hm _ => hm
        · cases hs
          exact fun hr => absurd hr (not_active_of_candidate rfl)
    · cases hs
  | stop =>
    obtain ⟨hk, rfl⟩ := Store.keeping_eq_some.1 hs
    unfold Store.stop at hk
    split at hk
    all_goals cases hk
    exact h.congr (fun _ hg => hg) id rfl (fun _ => rfl) rfl fun _ hm _ => hm
  | stopFlushed =>
    obtain ⟨hk, rfl⟩ := Store.keeping_eq_some.1 hs
    unfold Store.stopFlushed at hk
    split at hk
    all_goals cases hk
    exact h.congr (fun _ hg => hg) id rfl id rfl fun _ hm _ => hm
  | stopLease =>
    simp only [Store.authorityStep, Store.stopLease] at hs
    split at hs
    all_goals cases hs
    exact h.congr (fun _ hg => by rw [releaseLease_grants]; exact hg) id rfl id rfl fun _ hm _ => hm
  | stopped lost =>
    obtain ⟨hk, rfl⟩ := Store.keeping_eq_some.1 hs
    unfold Store.stopped at hk
    split at hk
    · obtain ⟨reply, -, rfl⟩ := Option.map_eq_some_iff.1 hk
      exact h.congr (fun _ hg => hg) id rfl id rfl fun _ hm _ => hm
    · cases hk

private theorem standing_step {room room' : Room} {i : Nat} {s s' : Store} {e : StoreEvent} (h : Standing room i s)
    (hs : s.step config room i e = some (room', s'))
    (hlate : ∀ k lost a reply expectedEpoch expectedChecksum, e = .authority (.acquired k lost) →
      s.acquisitions[k]? = some a → a.call.settle lost = some reply →
      a.purpose = .promote expectedEpoch expectedChecksum → reply ≠ some true → s.role = .active →
      s.candidateStatus = none) : Standing room' i s' := by
  cases e with
  | saving e =>
    simp only [Store.step] at hs
    split at hs
    · obtain ⟨_, _, _, _, _, _, _, _, _, _, _, _, _, rfl, rfl⟩ := Store.savingStep_frame hs
      exact h.congr (fun _ hg => hg) id rfl id rfl fun _ hm _ => hm
    · cases hs
  | session e =>
    simp only [Store.step] at hs
    split at hs <;> cases hs
    cases e <;> exact h.congr (fun _ hg => hg) id rfl id rfl fun _ hm _ => hm
  | handoffStatus now =>
    simp only [Store.step] at hs
    split at hs <;> cases hs
    exact h.congr (fun _ hg => hg) id rfl id rfl fun _ hm _ => hm
  | authority e =>
    simp only [Store.step] at hs
    split at hs
    · exact standing_authority h hs fun k lost a reply expectedEpoch expectedChecksum he =>
        hlate k lost a reply expectedEpoch expectedChecksum (by rw [he])
    · cases hs

/-! ### Runs -/

/-- The epochs increase and every store has its standing. -/
structure Fenced (w : World) : Prop where
  increase : w.EpochsIncrease
  standing : ∀ i s, w.stores[i]? = some s → Standing w.room i s

theorem Fenced.step {w w' : World} {event : WorldEvent} (h : Fenced w) (hfresh : FreshEpoch w event)
    (hlate : ¬LateRefusal w event) (hs : w.step config event = some w') : Fenced w' := by
  refine ⟨(increase_step h.increase hs).2 hfresh, ?_⟩
  refine each_step h.standing hs ?_ ?_ ?_ ?_ ?_
  · intro env hr
    refine Or.inr ⟨rfl, Or.inl rfl, ?_⟩
    intro seeding hm
    cases hm
  · exact fun i s hi => hi.congr (fun _ hg => hg) id rfl id rfl fun _ hm _ => hm
  · exact fun i s hi => hi
  · intro i s e room' s' he hi hstanding hstep
    refine standing_step hstanding hstep fun k lost a reply expectedEpoch expectedChecksum hacq ha hreply hp hne hr => ?_
    by_contra hstatus
    refine hlate ?_
    rw [he, hacq]
    exact ⟨s, a, reply, expectedEpoch, expectedChecksum, hi, ha, hp, hreply, hne, hr,
      by rw [Option.isSome_iff_ne_none]; exact hstatus⟩
  · intro i s e room' s' j t _ _ hstep _ _ ht
    refine ht.congr (fun g hg => ?_) id rfl id rfl fun _ hm _ => hm
    rw [step_grants hstep]
    exact List.mem_append_left _ hg

/-- Two stores with a standing that are authoritative at one epoch are the same. -/
theorem Fenced.noSharedEpoch {w : World} (h : Fenced w) : w.NoSharedEpoch := by
  intro i j s t hi hj hne hs ht heq
  have hheld : ∀ k u, w.stores[k]? = some u → Authoritative u → (k, u.roomEpoch) ∈ w.room.grants := by
    intro k u hk hu
    rcases h.standing k u hk hu.2 with hm | hun
    · exact hm
    · have hready := hu.1
      rw [hun.ready] at hready
      cases hready
  have hsg := hheld i s hi hs
  have htg := hheld j t hj ht
  rw [← heq] at htg
  -- two grants with one epoch would have to come before each other
  obtain ⟨a, ha, hag⟩ := List.getElem_of_mem hsg
  obtain ⟨b, hb, hbg⟩ := List.getElem_of_mem htg
  have hpair := List.pairwise_iff_getElem.1 h.increase
  rcases Nat.lt_trichotomy a b with hab | rfl | hab
  · have := hpair a b ha hb hab
    rw [hag, hbg] at this
    exact lt_irrefl _ this
  · rw [hag] at hbg
    cases hbg
    exact hne rfl
  · have := hpair b a hb ha hab
    rw [hag, hbg] at this
    exact lt_irrefl _ this

end World

end Opsia
