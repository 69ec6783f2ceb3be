import Opsia.Store.Takeover

/-!
# Seedings that finish late

`seedCandidate` looks at the role when it is called, and applies what the loader has read several waits later.  A
promotion or a takeover may be granted the lease in between.  The runs of one store are followed with a mark for each of
its seedings, whether it has been overtaken in this way.  A seeding that has not been overtaken finds the store in role
candidate (`late_seedings_iff`); one that has replaces the state of the authority (`promoted_then_seeded`).
-/

namespace Opsia

namespace Store

variable {config : SnapshotRuntimeConfig}

/-- A promotion or a takeover is granted the lease. -/
def takesAuthority (s : Store) : StoreEvent → Bool
  | .authority (.acquired k lost) =>
    match s.acquisitions[k]? with
    | some a => a.purpose.takesOver && a.call.settle lost == some (some true)
    | none => false
  | _ => false

/-- The marks of the seedings behind a step: a grant overtakes those under way, and a new one has no mark. -/
def remark (s s' : Store) (overtaken : List Bool) (event : StoreEvent) : List Bool :=
  if s.takesAuthority event then overtaken.map fun _ => true
  else match event with
    | .authority (.seedFinish k ..) | .authority (.seedRejected k) => overtaken.eraseIdx k
    | _ => if s.seedings.length < s'.seedings.length then overtaken ++ [false] else overtaken

/-- There is a mark for each seeding, and a store with a seeding that has not been overtaken is a candidate. -/
structure Marked (s : Store) (overtaken : List Bool) : Prop where
  length : s.alive = true → overtaken.length = s.seedings.length
  candidate : false ∈ overtaken → s.role = .candidate

theorem Marked.nil {s : Store} {overtaken : List Bool} (h : s.Marked overtaken) (ha : s.alive = true)
    (hs : s.seedings = []) : overtaken = [] := by
  have := h.length ha
  rw [hs] at this
  exact List.length_eq_zero_iff.1 this

/-- What keeps the marks as they are. -/
theorem Marked.congr {s s' : Store} {overtaken : List Bool} (h : s.Marked overtaken)
    (ha : s'.alive = true → s.alive = true) (hrole : s.role = .candidate → s'.role = .candidate)
    (hseedings : s'.seedings.length = s.seedings.length) : s'.Marked overtaken :=
  ⟨fun halive => by rw [hseedings]; exact h.length (ha halive), fun hm => hrole (h.candidate hm)⟩

private theorem remark_same {s s' : Store} {overtaken : List Bool} {event : AuthorityEvent}
    (hacquired : ∀ k lost, event ≠ .acquired k lost)
    (hfinish : ∀ k now status chain restore, event ≠ .seedFinish k now status chain restore)
    (hrejected : ∀ k, event ≠ .seedRejected k) (hseedings : s'.seedings.length = s.seedings.length) :
    remark s s' overtaken (.authority event) = overtaken := by
  unfold remark
  have htakes : s.takesAuthority (.authority event) = false := by
    unfold takesAuthority
    split
    · rename_i heq
      cases heq
      exact absurd rfl (hacquired _ _)
    · rfl
  rw [htakes, hseedings]
  split
  · rename_i hc
    cases hc
  · split
    · rename_i heq
      cases heq
      exact absurd rfl (hfinish _ _ _ _ _)
    · rename_i heq
      cases heq
      exact absurd rfl (hrejected _)
    · simp

/-- A new seeding is requested at a candidate. -/
private theorem marked_new {s s' : Store} {overtaken : List Bool} {event : AuthorityEvent} (h : s.Marked overtaken)
    (halive : s'.alive = true → s.alive = true) (htakes : s.takesAuthority (.authority event) = false)
    (hfinish : ∀ k now status chain restore, event ≠ .seedFinish k now status chain restore)
    (hrejected : ∀ k, event ≠ .seedRejected k) (hrole : s'.role = .candidate)
    (hseedings : s'.seedings.length = s.seedings.length + 1) :
    s'.Marked (remark s s' overtaken (.authority event)) := by
  have hmarks : remark s s' overtaken (.authority event) = overtaken ++ [false] := by
    unfold remark
    rw [htakes, hseedings]
    split
    · rename_i hc
      cases hc
    · split
      · rename_i heq
        cases heq
        exact absurd rfl (hfinish _ _ _ _ _)
      · rename_i heq
        cases heq
        exact absurd rfl (hrejected _)
      · simp
  rw [hmarks]
  refine ⟨fun ha => ?_, fun _ => hrole⟩
  rw [List.length_append, List.length_singleton, hseedings, h.length (halive ha)]

/-- A seeding is over. -/
private theorem marked_over {s s' : Store} {overtaken : List Bool} {k : Nat} {seeding : Seeding}
    (h : s.Marked overtaken) (hk : s.seedings[k]? = some seeding) (halive : s'.alive = true → s.alive = true)
    (hrole : s'.role = s.role) (hseedings : s'.alive = true → s'.seedings = s.seedings.eraseIdx k) :
    s'.Marked (overtaken.eraseIdx k) := by
  refine ⟨fun ha => ?_, fun hm => ?_⟩
  · have hlt := (List.getElem?_eq_some_iff.1 hk).1
    have hlength := h.length (halive ha)
    rw [hseedings ha, List.length_eraseIdx_of_lt hlt, List.length_eraseIdx_of_lt (by omega), hlength]
  · rw [hrole]
    exact h.candidate (List.mem_of_mem_eraseIdx hm)

/-- A promotion or a takeover leaves the seedings alone, and changes the role when it is granted. -/
private theorem overtaking_frame {room room' : Room} {i k : Nat} {s s' : Store} {a : Acquisition} {reply : Option Bool}
    (htakes : a.purpose.takesOver = true)
    (heq : (room', s') = match a.purpose with
      | .start attempt => startAcquired room i { s with acquisitions := s.acquisitions.eraseIdx k } attempt reply
      | .promote expectedEpoch expectedChecksum =>
        promoteAcquired room i { s with acquisitions := s.acquisitions.eraseIdx k } expectedEpoch expectedChecksum reply
      | .recover roomEpoch checksum =>
        recoverAcquired room i { s with acquisitions := s.acquisitions.eraseIdx k } roomEpoch checksum reply) :
    s'.seedings = s.seedings ∧ (reply ≠ some true → s'.role = s.role) := by
  cases hpurpose : a.purpose with
  | start attempt =>
    rw [hpurpose] at htakes
    cases htakes
  | promote expectedEpoch expectedChecksum =>
    rw [hpurpose] at heq
    dsimp only at heq
    unfold promoteAcquired at heq
    dsimp only at heq
    split at heq
    · cases heq
      exact ⟨rfl, fun hne => absurd rfl hne⟩
    · split at heq
      · cases heq
        exact ⟨rfl, fun _ => rfl⟩
      · cases heq
        exact ⟨rfl, fun _ => rfl⟩
  | recover roomEpoch checksum =>
    rw [hpurpose] at heq
    dsimp only at heq
    unfold recoverAcquired at heq
    split at heq
    · cases heq
      exact ⟨rfl, fun hne => absurd rfl hne⟩
    · cases heq
      exact ⟨rfl, fun _ => rfl⟩
    · cases heq
      exact ⟨rfl, fun _ => rfl⟩

private theorem marked_acquired {room room' : Room} {i k : Nat} {s s' : Store} {lost : Bool} {overtaken : List Bool}
    (h : s.Marked overtaken) (ha : s.alive = true) (hst : s.Staged) (hs : s.acquired room i k lost = some (room', s')) :
    s'.Marked (remark s s' overtaken (.authority (.acquired k lost))) := by
  obtain ⟨a, reply, hk, hreply, heq⟩ := acquired_cases hs
  have hmem := List.mem_of_getElem? hk
  cases hpurpose : a.purpose with
  | start attempt =>
    have htakes : s.takesAuthority (.authority (.acquired k lost)) = false := by
      simp [takesAuthority, hk, hpurpose, AcquirePurpose.takesOver]
    have hearly : s.Early := by
      rcases hst with hst | hst
      · exact hst
      · have := hst.attempts a hmem
        rw [hpurpose] at this
        cases this
    have hnone := h.nil ha hearly.seedings
    subst hnone
    have hsame : s'.seedings = s.seedings → s'.Marked (remark s s' [] (.authority (.acquired k lost))) := by
      intro hseedings
      have hmarks : remark s s' [] (.authority (.acquired k lost)) = [] := by
        simp [remark, htakes, hseedings]
      rw [hmarks]
      exact ⟨fun _ => by rw [hseedings, hearly.seedings]; rfl, fun hm => (by cases hm)⟩
    rw [hpurpose] at heq
    dsimp only at heq
    unfold startAcquired at heq
    split at heq
    · cases heq
      exact hsame rfl
    · split at heq
      · cases heq
        refine marked_new h (fun _ => ha) htakes (by simp) (by simp) rfl ?_
        simp [loadCandidate]
      · cases heq
        exact hsame rfl
    · cases heq
      exact hsame rfl
  | promote | recover =>
    have hseedings : s'.seedings = s.seedings ∧ (reply ≠ some true → s'.role = s.role) :=
      overtaking_frame (by rw [hpurpose]; rfl) heq
    have htakes : s.takesAuthority (.authority (.acquired k lost)) = (reply == some true) := by
      simp only [takesAuthority, hk, hpurpose, AcquirePurpose.takesOver, hreply, Bool.true_and]
      rfl
    by_cases hgranted : reply = some true
    · have hmarks : remark s s' overtaken (.authority (.acquired k lost)) = overtaken.map fun _ => true := by
        simp [remark, htakes, hgranted]
      rw [hmarks]
      refine ⟨fun _ => ?_, fun hm => ?_⟩
      · rw [List.length_map, hseedings.1, h.length ha]
      · simp at hm
    · have hmarks : remark s s' overtaken (.authority (.acquired k lost)) = overtaken := by
        simp [remark, htakes, hgranted, hseedings.1]
      rw [hmarks]
      exact h.congr (fun _ => ha) (fun hc => by rw [hseedings.2 hgranted]; exact hc) (by rw [hseedings.1])

/-- The marks follow the authority side of a live store. -/
private theorem marked_authorityStep {room room' : Room} {i : Nat} {s s' : Store} {event : AuthorityEvent}
    {overtaken : List Bool} (h : s.Marked overtaken) (ha : s.alive = true) (hst : s.Staged)
    (hs : s.authorityStep room i event = some (room', s')) :
    s'.Marked (remark s s' overtaken (.authority event)) := by
  -- most steps leave the seedings alone, and the role or make it that of a candidate
  have hsame : (∀ k lost, event ≠ .acquired k lost) →
      (∀ k now status chain restore, event ≠ .seedFinish k now status chain restore) →
      (∀ k, event ≠ .seedRejected k) → s'.seedings.length = s.seedings.length →
      (s.role = .candidate → s'.role = .candidate) → s'.Marked (remark s s' overtaken (.authority event)) := by
    intro hacquired hfinish hrejected hseedings hrole
    rw [remark_same hacquired hfinish hrejected hseedings]
    exact h.congr (fun _ => ha) hrole hseedings
  cases event with
  | acquired k lost => exact marked_acquired h ha hst hs
  | start =>
    obtain ⟨hk, -⟩ := keeping_eq_some.1 hs
    unfold start at hk
    split at hk
    · cases hk
    · split at hk
      · cases hk
        exact marked_new h (fun _ => ha) rfl (by simp) (by simp) rfl (by simp [loadCandidate])
      · cases hk
        exact hsame (by simp) (by simp) (by simp) rfl id
  | retry =>
    obtain ⟨hk, -⟩ := keeping_eq_some.1 hs
    unfold retry at hk
    repeat' split at hk
    all_goals cases hk
    · exact hsame (by simp) (by simp) (by simp) rfl id
    · exact hsame (by simp) (by simp) (by simp) rfl id
  | loadRead =>
    obtain ⟨hk, -⟩ := keeping_eq_some.1 hs
    unfold loadRead at hk
    split at hk <;> cases hk
    exact hsame (by simp) (by simp) (by simp) rfl id
  | loadFinish now result =>
    obtain ⟨hk, -⟩ := keeping_eq_some.1 hs
    unfold loadFinish at hk
    repeat' split at hk
    all_goals cases hk
    all_goals exact hsame (by simp) (by simp) (by simp) rfl id
  | leaseSet k =>
    simp only [authorityStep, leaseSet] at hs
    split at hs <;> cases hs
    exact hsame (by simp) (by simp) (by simp) rfl id
  | promote request =>
    obtain ⟨hk, -⟩ := keeping_eq_some.1 hs
    unfold promoteCandidate at hk
    split at hk <;> cases hk
    exact hsame (by simp) (by simp) (by simp) rfl id
  | takeover =>
    obtain ⟨hk, -⟩ := keeping_eq_some.1 hs
    obtain ⟨timer, rfl | ⟨-, status, checksum, -, -, -, rfl⟩⟩ := recoverAbandonedLease_cases hk
    · exact hsame (by simp) (by simp) (by simp) rfl id
    · exact hsame (by simp) (by simp) (by simp) rfl id
  | seed =>
    obtain ⟨hk, -⟩ := keeping_eq_some.1 hs
    unfold seedCandidate at hk
    split at hk
    · rename_i hc
      cases hk
      exact marked_new h (fun _ => ha) rfl (by simp) (by simp) hc.1 (by simp)
    · cases hk
  | seedRead k =>
    obtain ⟨hk, -⟩ := keeping_eq_some.1 hs
    unfold seedRead at hk
    split at hk <;> cases hk
    exact hsame (by simp) (by simp) (by simp) (by simp) id
  | seedRejected k =>
    obtain ⟨hk, -⟩ := keeping_eq_some.1 hs
    unfold seedRejected at hk
    split at hk
    · rename_i seeding hget
      cases hk
      have hmarks : ∀ t, remark s t overtaken (.authority (.seedRejected k)) = overtaken.eraseIdx k := fun t => by
        simp [remark, takesAuthority]
      rw [hmarks]
      split
      · exact marked_over h hget (fun _ => ha) rfl fun hdead => (by cases hdead)
      · exact marked_over h hget (fun _ => ha) rfl fun _ => rfl
    · cases hk
  | seedFinish k now status chain restore =>
    obtain ⟨hk, -⟩ := keeping_eq_some.1 hs
    obtain ⟨seeding, reached, t, error, hget, -, -, -, ht, rfl⟩ := seedFinish_cases hk
    have hmarks : ∀ t, remark s t overtaken (.authority (.seedFinish k now status chain restore)) =
        overtaken.eraseIdx k := fun t => by
      simp [remark, takesAuthority]
    have hframe : t.role = s.role ∧ t.seedings = s.seedings.eraseIdx k := by
      unfold applyOutcome applyCandidateEnvelope at ht
      repeat' split at ht
      all_goals cases ht
      all_goals exact ⟨rfl, rfl⟩
    rw [hmarks]
    split
    · unfold settleStart
      split
      · exact marked_over h hget (fun _ => ha) hframe.1 fun _ => hframe.2
      · exact marked_over h hget (fun _ => ha) hframe.1 fun _ => hframe.2
    · unfold settleSeeding
      split
      · exact marked_over h hget (fun _ => ha) hframe.1 fun _ => hframe.2
      · exact marked_over h hget (fun _ => ha) hframe.1 fun _ => hframe.2
  | release request =>
    obtain ⟨hk, -⟩ := keeping_eq_some.1 hs
    unfold releaseActiveForHandoff at hk
    split at hk <;> cases hk
    exact hsame (by simp) (by simp) (by simp) rfl id
  | releaseFlushed k =>
    obtain ⟨hk, -⟩ := keeping_eq_some.1 hs
    obtain ⟨currentChecksum, -, rfl⟩ := releaseFlushed_cases hk
    exact hsame (by simp) (by simp) (by simp) rfl id
  | releaseLease k =>
    simp only [authorityStep, releaseLease] at hs
    repeat' split at hs
    all_goals cases hs
    exact hsame (by simp) (by simp) (by simp) rfl id
  | released k now lost =>
    obtain ⟨release, call, reply, -, -, -, ⟨-, -, rfl⟩ | ⟨-, -, rfl⟩⟩ := released_cases hs
    · exact hsame (by simp) (by simp) (by simp) rfl id
    · exact hsame (by simp) (by simp) (by simp) rfl fun _ => rfl
  | stop =>
    obtain ⟨hk, -⟩ := keeping_eq_some.1 hs
    unfold stop at hk
    split at hk <;> cases hk
    exact hsame (by simp) (by simp) (by simp) rfl id
  | stopFlushed =>
    obtain ⟨hk, -⟩ := keeping_eq_some.1 hs
    unfold stopFlushed at hk
    split at hk <;> cases hk
    exact hsame (by simp) (by simp) (by simp) rfl id
  | stopLease =>
    simp only [authorityStep, stopLease] at hs
    split at hs <;> cases hs
    exact hsame (by simp) (by simp) (by simp) rfl id
  | stopped lost =>
    obtain ⟨hk, -⟩ := keeping_eq_some.1 hs
    unfold stopped at hk
    split at hk
    · obtain ⟨reply, -, rfl⟩ := Option.map_eq_some_iff.1 hk
      exact hsame (by simp) (by simp) (by simp) rfl id
    · cases hk

/-- A store whose marks are kept. -/
structure Followed (s : Store) (overtaken : List Bool) : Prop where
  staged : s.alive = true → s.Staged
  marked : s.Marked overtaken

theorem Followed.step {room room' : Room} {i : Nat} {s s' : Store} {event : StoreEvent} {overtaken : List Bool}
    (h : s.Followed overtaken) (hs : s.step config room i event = some (room', s')) :
    s'.Followed (remark s s' overtaken event) := by
  refine ⟨staged_step h.staged hs, ?_⟩
  have hsame : s'.seedings = s.seedings → (∀ e, event ≠ .authority e) → remark s s' overtaken event = overtaken := by
    intro hseedings hne
    cases event with
    | authority e => exact absurd rfl (hne e)
    | saving | session | handoffStatus => simp [remark, takesAuthority, hseedings]
  cases event with
  | authority e =>
    simp only [Store.step] at hs
    split at hs
    · rename_i hcan
      by_cases ha : s.alive = true
      · exact marked_authorityStep h.marked ha (h.staged ha) hs
      · have hredis := hcan.resolve_left ha
        obtain ⟨halive, hrole, hseedings⟩ := atRedis_frame hredis hs
        have hmarks : remark s s' overtaken (.authority e) = overtaken := by
          refine remark_same ?_ ?_ ?_ (by rw [hseedings])
          · rintro k lost rfl
            cases hredis
          · rintro k now status chain restore rfl
            cases hredis
          · rintro k rfl
            cases hredis
        rw [hmarks]
        exact h.marked.congr (fun ha' => halive ▸ ha') (fun hc => hrole.trans hc) (by rw [hseedings])
    · cases hs
  | saving e =>
    simp only [Store.step] at hs
    split at hs
    · obtain ⟨_, _, _, _, _, _, _, _, _, _, _, _, _, -, rfl⟩ := savingStep_frame hs
      rw [hsame rfl (by simp)]
      exact h.marked.congr id id rfl
    · cases hs
  | session e =>
    simp only [Store.step] at hs
    split at hs <;> cases hs
    cases e with
    | attach | detach | drop =>
      rw [hsame rfl (by simp)]
      exact h.marked.congr id id rfl
  | handoffStatus now =>
    simp only [Store.step] at hs
    split at hs <;> cases hs
    rw [hsame rfl (by simp)]
    exact h.marked

/-- Nothing is overtaken by a step that does not take the authority while a seeding is under way. -/
theorem remark_fresh {s s' : Store} {event : StoreEvent} {overtaken : List Bool} (h : true ∉ overtaken)
    (hnone : s.takesAuthority event = true → overtaken = []) : true ∉ remark s s' overtaken event := by
  unfold remark
  split
  · rename_i htakes
    rw [hnone htakes]
    simp
  · split
    · exact fun hm => h (List.mem_of_mem_eraseIdx hm)
    · exact fun hm => h (List.mem_of_mem_eraseIdx hm)
    · split
      · simpa using h
      · exact h

end Store

/-- The room, and the marks of the seedings of one store. -/
structure MarkedWorld where
  world : World
  overtaken : List Bool

namespace MarkedWorld

open Machine

variable {config : SnapshotRuntimeConfig}

/-- The marks of store `i` behind a step of the world. -/
def marks (i : Nat) (t : MarkedWorld) (w : World) : WorldEvent → List Bool
  | .at j event =>
    match decide (j = i), t.world.stores[i]?, w.stores[i]? with
    | true, some s, some s' => s.remark s' t.overtaken event
    | _, _, _ => t.overtaken
  | _ => t.overtaken

/-- A step of the world, seen from store `i`. -/
def step (config : SnapshotRuntimeConfig) (i : Nat) (t : MarkedWorld) (event : WorldEvent) : Option MarkedWorld :=
  (t.world.step config event).map fun w => { world := w, overtaken := t.marks i w event }

def init (lease : Option String) (stored : List SnapshotView) (journal : List JournalDelta) : MarkedWorld where
  world := World.init lease stored journal
  overtaken := []

/-- What a seeding leaves behind in store `i` is left at a candidate that has not become the authority since the seeding
was requested. -/
def AppliedAsCandidate (i : Nat) (t : MarkedWorld) : WorldEvent → Prop
  | .at j (.authority (.seedFinish k ..)) =>
    j = i → ∀ s ∈ t.world.stores[i]?, s.role = .candidate ∧ t.overtaken[k]? = some false
  | _ => True

/-- Between the request of a seeding and the answer of the loader no promotion and no takeover is granted the lease. -/
def AnsweredInTime (i : Nat) (t : MarkedWorld) : WorldEvent → Prop
  | .at j (.authority (.seedFinish k ..)) => j = i → ∀ _s ∈ t.world.stores[i]?, t.overtaken[k]? = some false
  | _ => True

/-- No promotion and no takeover of store `i` is granted the lease while a seeding of it is under way. -/
def TakenBetweenSeedings (i : Nat) (t : MarkedWorld) : WorldEvent → Prop
  | .at j event => j = i → ∀ s ∈ t.world.stores[i]?, s.takesAuthority event = true → s.seedings = []
  | _ => True

instance (i : Nat) (t : MarkedWorld) (event : WorldEvent) : Decidable (AppliedAsCandidate i t event) := by
  unfold AppliedAsCandidate
  split <;> infer_instance

/-- The marks of store `i` are kept, and there are none before there is such a store. -/
structure Kept (i : Nat) (t : MarkedWorld) : Prop where
  followed : ∀ s, t.world.stores[i]? = some s → s.Followed t.overtaken
  none : t.world.stores[i]? = none → t.overtaken = []

theorem Kept.step {i : Nat} {t t' : MarkedWorld} {event : WorldEvent} (h : t.Kept i)
    (hs : t.step config i event = some t') : t'.Kept i := by
  obtain ⟨w, hw, rfl⟩ := Option.map_eq_some_iff.1 hs
  rcases World.step_cases hw with ⟨env, rfl, rfl⟩ | ⟨k, s, rfl, hk, rfl⟩ | ⟨rfl, rfl⟩ |
    ⟨k, e, s, room', s', rfl, hk, hstep, rfl⟩
  · constructor
    · intro s hi
      rcases Nat.lt_trichotomy i t.world.stores.length with hlt | rfl | hgt
      · rw [List.getElem?_append_left hlt] at hi
        exact h.followed s hi
      · rw [List.getElem?_concat_length] at hi
        cases hi
        have hnone : t.overtaken = [] := h.none (List.getElem?_eq_none (le_refl _))
        refine ⟨(Store.watched_boot env).staged, ?_⟩
        rw [show marks _ t _ (.boot env) = t.overtaken from rfl, hnone]
        exact ⟨fun _ => rfl, fun hm => (by cases hm)⟩
      · rw [List.getElem?_eq_none (by simp; omega)] at hi
        cases hi
    · intro hi
      refine h.none (List.getElem?_eq_none ?_)
      have := List.getElem?_eq_none_iff.1 hi
      simp at this
      omega
  · constructor
    · intro u hi
      by_cases hik : i = k
      · subst hik
        rw [List.getElem?_set_self (List.getElem?_eq_some_iff.1 hk).1] at hi
        cases hi
        refine ⟨(Store.watched_exit s).staged, ?_⟩
        exact (h.followed s hk).marked.congr (fun ha => (by cases ha)) id rfl
      · rw [List.getElem?_set_ne (Ne.symm hik)] at hi
        exact h.followed u hi
    · intro hi
      refine h.none ?_
      rw [List.getElem?_eq_none_iff] at hi ⊢
      simpa using hi
  · exact ⟨h.followed, h.none⟩
  · by_cases hki : k = i
    · subst hki
      have hlt := (List.getElem?_eq_some_iff.1 hk).1
      have hset : (t.world.stores.set k s')[k]? = some s' := List.getElem?_set_self hlt
      have hmarks : marks k t { room := room', stores := t.world.stores.set k s' } (.at k e) =
          s.remark s' t.overtaken e := by
        simp [marks, hk, hset]
      constructor
      · intro u hi
        rw [show (t.world.stores.set k s')[k]? = some s' from hset] at hi
        cases hi
        rw [hmarks]
        exact (h.followed s hk).step hstep
      · intro hi
        rw [hset] at hi
        cases hi
    · have hmarks : marks i t { room := room', stores := t.world.stores.set k s' } (.at k e) = t.overtaken := by
        simp [marks, hki]
      have hstores : (t.world.stores.set k s')[i]? = t.world.stores[i]? := List.getElem?_set_ne hki
      constructor
      · intro u hi
        rw [hmarks]
        exact h.followed u (hstores.symm.trans hi)
      · intro hi
        rw [hmarks]
        exact h.none (hstores.symm.trans hi)

/-- A seeding that has not been overtaken finds a candidate. -/
theorem Kept.applied_iff {i : Nat} {t : MarkedWorld} (h : t.Kept i) (event : WorldEvent) :
    AppliedAsCandidate i t event ↔ AnsweredInTime i t event := by
  unfold AppliedAsCandidate AnsweredInTime
  split
  · constructor
    · exact fun happlied hj s hs => (happlied hj s hs).2
    · intro htime hj s hs
      have hmark := htime hj s hs
      exact ⟨(h.followed s hs).marked.candidate (List.mem_of_getElem? hmark), hmark⟩
  · exact Iff.rfl

/-- The mark of a seeding that is over, where nothing has been overtaken. -/
theorem Kept.applied_of_fresh {i : Nat} {t t' : MarkedWorld} {event : WorldEvent} (h : t.Kept i)
    (hfresh : true ∉ t.overtaken) (hs : t.step config i event = some t') : AppliedAsCandidate i t event := by
  rw [h.applied_iff]
  unfold AnsweredInTime
  split
  · rename_i j k now status chain restore
    intro hj s hi
    subst hj
    obtain ⟨w, hw, -⟩ := Option.map_eq_some_iff.1 hs
    rcases World.step_cases hw with ⟨_, he, _⟩ | ⟨_, _, he, _⟩ | ⟨he, _⟩ | ⟨_, _, u, room', s', he, hk, hstep, -⟩
    · cases he
    · cases he
    · cases he
    · cases he
      obtain rfl : s = u := Option.some.inj (hi.symm.trans hk)
      simp only [Store.step] at hstep
      split at hstep
      · rename_i hcan
        have ha : s.alive = true := hcan.resolve_right (by simp [AuthorityEvent.atRedis])
        obtain ⟨seeding, _, _, _, hget, -⟩ := Store.seedFinish_cases (Store.keeping_eq_some.1 hstep).1
        have hlt : k < t.overtaken.length := by
          rw [(h.followed s hi).marked.length ha]
          exact (List.getElem?_eq_some_iff.1 hget).1
        rw [List.getElem?_eq_getElem hlt]
        cases hmark : t.overtaken[k] with
        | false => rfl
        | true => exact absurd (hmark ▸ List.getElem_mem hlt) hfresh
      · cases hstep
  · trivial

theorem Kept.fresh_step {i : Nat} {t t' : MarkedWorld} {event : WorldEvent} (h : t.Kept i) (hfresh : true ∉ t.overtaken)
    (hbetween : TakenBetweenSeedings i t event) (hs : t.step config i event = some t') : true ∉ t'.overtaken := by
  obtain ⟨w, hw, rfl⟩ := Option.map_eq_some_iff.1 hs
  show true ∉ t.marks i w event
  unfold marks
  split
  · rename_i j e
    split
    · rename_i s s' hj hi _
      have hj : j = i := of_decide_eq_true hj
      refine Store.remark_fresh hfresh fun htakes => ?_
      by_cases ha : s.alive = true
      · exact (h.followed s hi).marked.nil ha (hbetween hj s hi htakes)
      · exfalso
        subst hj
        simp only [World.step, hi] at hw
        obtain ⟨_, hstep, -⟩ := Option.map_eq_some_iff.1 hw
        cases e with
        | authority e =>
          simp only [Store.step] at hstep
          split at hstep
          · rename_i hcan
            have hredis := hcan.resolve_left ha
            have hnot : s.takesAuthority (.authority e) = false := by
              cases e with
              | acquired => cases hredis
              | _ => rfl
            rw [hnot] at htakes
            cases htakes
          · cases hstep
        | saving | session | handoffStatus => cases htakes
    · exact hfresh
  · exact hfresh

theorem kept_init (i : Nat) (lease : Option String) (stored : List SnapshotView) (journal : List JournalDelta) :
    (init lease stored journal).Kept i := by
  constructor
  · intro s hi
    simp [init, World.init] at hi
  · exact fun _ => rfl

end MarkedWorld

end Opsia
