import Opsia.Orchestrator.Rollout

/-!
# What a finished rollout is worth

A rollout says that it has passed only behind a completed handoff of every room that was active when it was accepted,
one after the other, each with a candidate of the requested revision and the approved image; it turns to a room only
when all rooms before it are done; and it gives its reservation back once (`rollout_sound`).
-/

namespace Opsia

open Json HandoffLog

/-! ### Completed handoffs -/

namespace RoomHandoffCoordinator

variable (coordinator : RoomHandoffCoordinator) {target : RoomHandoffTarget} {operationId : String}

/-- The result is of the target's room, its candidate has the target's revision and image, and the old pod was
drained. -/
structure Returns (target : RoomHandoffTarget) (log : HandoffLog) (result : RoomHandoffResult) : Prop where
  room : result.roomId = target.roomId
  revision : result.candidate.revision = target.revision
  image : ∀ digest ∈ presentText target.imageDigest, result.candidate.imageDigest = some digest
  drained : Answered log (.drainOldPod target) ()

private theorem obeys_require_true {condition : Bool} {message : String} {vars : HandoffProgress} {log : HandoffLog}
    {post : HandoffLog → HandoffProgress → Unit → Prop} (hpost : condition = true → post log vars ()) :
    (require condition message).Obeys (fun _ _ => True) vars log post (fun _ _ _ => True) := by
  unfold require
  split
  · exact Procedure.obeys_pure (hpost ‹_›)
  · exact Procedure.obeys_throw trivial

private theorem obeys_schedule_fits {vars : HandoffProgress} {log : HandoffLog} :
    (coordinator.schedule target operationId).Obeys (fun _ _ => True) vars log
      (fun _ _ candidate => candidate.revision = target.revision ∧
        ∀ digest ∈ presentText target.imageDigest, candidate.imageDigest = some digest) (fun _ _ _ => True) := by
  refine Procedure.obeys_bind (Procedure.obeys_perform trivial (fun _ => ?_) fun _ => trivial)
  refine Procedure.obeys_bind (Procedure.obeys_perform trivial (fun candidate => ?_) fun _ => trivial)
  refine Procedure.obeys_bind (Procedure.obeys_modify ?_)
  refine Procedure.obeys_bind (obeys_require_true fun hrevision => ?_)
  refine Procedure.obeys_bind (obeys_require_true fun himage => ?_)
  refine Procedure.obeys_bind (Procedure.obeys_perform trivial (fun _ => ?_) fun _ => trivial)
  refine Procedure.obeys_pure ⟨of_decide_eq_true hrevision, fun digest hdigest => ?_⟩
  rw [Option.mem_def] at hdigest
  rw [hdigest] at himage
  exact of_decide_eq_true himage

private theorem obeys_drain_drained {vars : HandoffProgress} {log : HandoffLog} :
    (coordinator.drain target operationId).Obeys (fun _ _ => True) vars log
      (fun log _ _ => Answered log (.drainOldPod target) ()) (fun _ _ _ => True) := by
  refine Procedure.obeys_bind (Procedure.obeys_modify ?_)
  refine Procedure.obeys_bind (Procedure.obeys_perform trivial (fun _ => ?_) fun _ => trivial)
  refine Procedure.obeys_bind (Procedure.obeys_perform trivial (fun _ => ?_) fun _ => trivial)
  refine Procedure.obeys_perform trivial (fun _ => ?_) fun _ => trivial
  exact List.mem_append_left _ (List.mem_append_left _ (List.mem_append_right _ (List.mem_singleton_self _)))

private theorem obeys_attempt_returns {vars : HandoffProgress} {log : HandoffLog} :
    (coordinator.attempt target operationId).Obeys (fun _ _ => True) vars log
      (fun log _ result => Returns target log result) (fun _ _ _ => True) := by
  refine Procedure.obeys_bind (coordinator.obeys_schedule_fits.mono (fun _ _ candidate hfits => ?_) fun _ _ _ h => h)
  refine Procedure.obeys_bind (Procedure.obeys_skip.mono (fun _ _ _ _ => ?_) fun _ _ _ h => h)
  refine Procedure.obeys_bind (Procedure.obeys_skip.mono (fun _ _ frozen _ => ?_) fun _ _ _ h => h)
  refine Procedure.obeys_bind (Procedure.obeys_skip.mono (fun _ _ expected _ => ?_) fun _ _ _ h => h)
  refine Procedure.obeys_bind (Procedure.obeys_skip.mono (fun _ _ own _ => ?_) fun _ _ _ h => h)
  refine Procedure.obeys_bind (Procedure.obeys_skip.mono (fun _ _ checksum _ => ?_) fun _ _ _ h => h)
  refine Procedure.obeys_bind (Procedure.obeys_skip.mono (fun _ _ cutover _ => ?_) fun _ _ _ h => h)
  refine Procedure.obeys_bind (Procedure.obeys_skip.mono (fun _ _ _ _ => ?_) fun _ _ _ h => h)
  refine Procedure.obeys_bind (coordinator.obeys_drain_drained.mono (fun _ _ _ hdrained => ?_) fun _ _ _ h => h)
  exact Procedure.obeys_pure ⟨rfl, hfits.1, hfits.2, hdrained⟩

/-- The catch block does not return. -/
private theorem obeys_recover_throws {error : HandoffError} {vars : HandoffProgress} {log : HandoffLog} :
    (coordinator.recover target operationId error).Obeys (fun _ _ => True) vars log (fun _ _ _ => False)
      (fun _ _ _ => True) := by
  refine Procedure.obeys_bind (Procedure.obeys_modify ?_)
  refine Procedure.obeys_bind (Procedure.obeys_get ?_)
  refine Procedure.obeys_bind (Procedure.obeys_skip.mono (fun _ _ aborted _ => ?_) fun _ _ _ h => h)
  refine Procedure.obeys_bind (Procedure.obeys_skip.mono (fun _ _ recovered _ => ?_) fun _ _ _ h => h)
  refine Procedure.obeys_bind (Procedure.obeys_skip.mono (fun _ _ _ _ => ?_) fun _ _ _ h => h)
  refine Procedure.obeys_bind (Procedure.obeys_get ?_)
  refine Procedure.obeys_bind (Procedure.obeys_perform trivial (fun _ => ?_) fun _ => trivial)
  refine Procedure.obeys_bind (Procedure.obeys_perform trivial (fun _ => ?_) fun _ => trivial)
  exact Procedure.obeys_throw trivial

/-- A handoff that returns has handed its room over. -/
theorem returns_of_runs {log : HandoffLog} {result : RoomHandoffResult} {vars : HandoffProgress}
    (h : ((coordinator.body target operationId).script (initial target)).Runs log (.ok result, vars)) :
    Returns target log result := by
  have hbody : (coordinator.body target operationId).Obeys (fun _ _ => True) (initial target) []
      (fun log _ result => Returns target log result) (fun _ _ _ => True) := by
    refine Procedure.obeys_tryCatch (coordinator.obeys_attempt_returns.mono (fun _ _ _ h => h) fun _ _ error _ => ?_)
    exact coordinator.obeys_recover_throws.mono (fun _ _ _ h => h.elim) fun _ _ _ h => h
  exact hbody.returned h

end RoomHandoffCoordinator

/-! ### What the calls so far permit -/

namespace FleetRollout

variable (rollout : FleetRollout)

/-- The exchanges of a handoff as exchanges of the rollout. -/
def lift (log : HandoffLog) : RolloutLog := Script.embedLog RolloutCall.handoff (fun _ => Equiv.refl _) log

/-- The active ones of the records, each once, in ascending order. -/
structure Lined (records rooms : List RoomRegistryRecord) : Prop where
  active : rooms.Perm (records.filter fun record => decide (record.status ≠ .inactive))
  ascending : rooms.Pairwise fun record other => record.ordinal ≤ other.ordinal

/-- The rollout was accepted after these exchanges, with this approval and these rooms. -/
inductive Accepted : RolloutLog → Option Canary.SealedCanaryApproval → List RoomRegistryRecord → Prop
  | unapproved (hrequire : rollout.requireCanaryApproval = false) (records rooms : List RoomRegistryRecord)
    (hrooms : Lined records rooms) : Accepted [⟨.listRooms, .ok records⟩] none rooms
  | approved (hrequire : rollout.requireCanaryApproval = true) (events : List GameOperationEvent)
    (approval : Canary.SealedCanaryApproval)
    (happroval : Canary.sealedCanaryApprovalForRevision rollout.platform events rollout.revision = some approval)
    (records rooms : List RoomRegistryRecord) (hrooms : Lined records rooms) :
    Accepted [⟨.readRetained, .ok events⟩, ⟨.listRooms, .ok records⟩] (some approval) rooms

/-- The exchanges of a room up to its handoff. -/
def opening (approval : Option Canary.SealedCanaryApproval) (room : RoomRegistryRecord) (observed : ObservedRoom)
    (active : Option String) : RolloutLog :=
  [⟨.resolveTarget (rollout.input approval room), .ok observed⟩, ⟨.activeOperation, .ok active⟩]

/-- The script of the handoff of a room. -/
def handoffScript (approval : Option Canary.SealedCanaryApproval) (room : RoomRegistryRecord)
    (observed : ObservedRoom) :
    Script (fun c : HandoffCall => Except HandoffError c.Result)
      (Except HandoffError RoomHandoffResult × HandoffProgress) :=
  (rollout.coordinator.body (observed.target (rollout.input approval room)) rollout.operationId).script
    (RoomHandoffCoordinator.initial (observed.target (rollout.input approval room)))

/-- These are the exchanges of a whole handoff of the room, which returned. -/
def Completed (approval : Option Canary.SealedCanaryApproval) (room : RoomRegistryRecord) (log : RolloutLog) : Prop :=
  ∃ observed active handoffLog result vars, log = rollout.opening approval room observed active ++ lift handoffLog ∧
    (rollout.handoffScript approval room observed).Runs handoffLog (.ok result, vars) ∧
    result.roomId = room.roomId ∧ result.candidate.revision = rollout.revision ∧
    (∀ sealed ∈ approval, result.candidate.imageDigest = some sealed.imageDigest) ∧
    Answered handoffLog (.drainOldPod (observed.target (rollout.input approval room))) ()

/-- The call comes next in the handling of the room after these exchanges. -/
def Handling (approval : Option Canary.SealedCanaryApproval) (room : RoomRegistryRecord) (log : RolloutLog) :
    RolloutCall → Prop
  | .resolveTarget input => log = [] ∧ input = rollout.input approval room
  | .activeOperation => ∃ observed, log = [⟨.resolveTarget (rollout.input approval room), .ok observed⟩]
  | .handoff call => ∃ observed active handoffLog next,
      log = rollout.opening approval room observed active ++ lift handoffLog ∧
        (rollout.handoffScript approval room observed).Reaches handoffLog (.call call next)
  | _ => False

/-- When a call is allowed by the exchanges before it: the event only behind a completed handoff of every room, and a
call for a room only behind those of all rooms before it. -/
def Allowed (log : RolloutLog) : RolloutCall → Prop
  | .readRetained => log = []
  | .listRooms => log = [] ∨ ∃ events, log = [⟨.readRetained, .ok events⟩]
  | .publish .. => ∃ approval rooms before segments, rollout.Accepted before approval rooms ∧
      List.Forall₂ (rollout.Completed approval) rooms segments ∧ log = before ++ segments.flatten
  | call => ∃ approval done room rooms before segments current,
      rollout.Accepted before approval (done ++ room :: rooms) ∧
        List.Forall₂ (rollout.Completed approval) done segments ∧ log = before ++ segments.flatten ++ current ∧
        rollout.Handling approval room current call

theorem lined_roomsToHandOver (records : List RoomRegistryRecord) : Lined records (roomsToHandOver records) := by
  have : Std.Total fun record other : RoomRegistryRecord => record.ordinal ≤ other.ordinal :=
    ⟨fun record other => Nat.le_total _ _⟩
  have : IsTrans RoomRegistryRecord fun record other => record.ordinal ≤ other.ordinal :=
    ⟨fun _ _ _ h h' => Nat.le_trans h h'⟩
  exact ⟨List.perm_insertionSort _ _, List.pairwise_insertionSort _ _⟩

variable {rollout} {log : RolloutLog} {progress : RolloutProgress}

/-! ### The preflight -/

theorem obeys_approve {post : RolloutLog → RolloutProgress → Option Canary.SealedCanaryApproval → Prop}
    {failed : RolloutLog → RolloutProgress → HandoffError → Prop}
    (hpost : ∀ log approval, (∀ records, rollout.Accepted (log ++ [⟨.listRooms, .ok records⟩]) approval
      (roomsToHandOver records)) → (log = [] ∨ ∃ events, log = [⟨.readRetained, .ok events⟩]) →
      post log progress approval) (hfailed : ∀ log e, failed log progress e) :
    rollout.approve.Obeys rollout.Allowed progress [] post failed := by
  unfold approve
  split
  · rename_i hrequire
    refine Procedure.obeys_bind (Procedure.obeys_perform rfl (fun events => ?_) fun e => hfailed _ e)
    cases happroval : Canary.sealedCanaryApprovalForRevision rollout.platform events rollout.revision with
    | some approval =>
      refine Procedure.obeys_pure (hpost _ _ (fun records => ?_) (Or.inr ⟨events, rfl⟩))
      exact .approved hrequire events approval happroval records _ (lined_roomsToHandOver records)
    | none => exact Procedure.obeys_throw (hfailed _ _)
  · rename_i hrequire
    refine Procedure.obeys_pure (hpost _ _ (fun records => ?_) (Or.inl rfl))
    exact .unapproved (Bool.eq_false_iff.2 hrequire) records _ (lined_roomsToHandOver records)

theorem obeys_acceptRooms (hlist : rollout.Allowed log .listRooms)
    {post : RolloutLog → RolloutProgress → List RoomRegistryRecord → Prop}
    {failed : RolloutLog → RolloutProgress → HandoffError → Prop}
    (hpost : ∀ records, post (log ++ [⟨.listRooms, .ok records⟩]) progress (roomsToHandOver records))
    (hfailed : ∀ log e, failed log progress e) :
    acceptRooms.Obeys rollout.Allowed progress log post failed := by
  refine Procedure.obeys_bind (Procedure.obeys_perform hlist (fun records => ?_) fun e => hfailed _ e)
  dsimp only
  split
  · exact Procedure.obeys_throw (hfailed _ _)
  · exact Procedure.obeys_pure (hpost records)

/-- The reservation is held behind a preflight that passes, and given back by one that fails. -/
theorem obeys_preflight (hheld : progress.released = 0) :
    rollout.preflight.Obeys rollout.Allowed progress []
      (fun log progress result => progress.released = 0 ∧ rollout.Accepted log result.1 result.2)
      (fun _ progress _ => progress.released = 1) := by
  refine Procedure.obeys_tryCatch (Procedure.obeys_bind ?_)
  have hrelease : ∀ (log : RolloutLog) (error : HandoffError),
      (do release; throw error : Rollout (Option Canary.SealedCanaryApproval × List RoomRegistryRecord)).Obeys
        rollout.Allowed progress log
        (fun log progress result => progress.released = 0 ∧ rollout.Accepted log result.1 result.2)
        (fun _ progress _ => progress.released = 1) := by
    intro log error
    refine Procedure.obeys_bind (Procedure.obeys_modify (Procedure.obeys_throw ?_))
    rw [hheld]
  refine obeys_approve (fun log approval haccepted hlog => ?_) hrelease
  refine Procedure.obeys_bind (obeys_acceptRooms hlog (fun records => ?_) hrelease)
  exact Procedure.obeys_pure ⟨hheld, haccepted records⟩

/-! ### The waves -/

/-- The rooms that are done and those that follow, with the exchanges so far. -/
structure Reached (approval : Option Canary.SealedCanaryApproval) (done rooms : List RoomRegistryRecord)
    (log : RolloutLog) : Prop where
  reached : ∃ before segments, rollout.Accepted before approval (done ++ rooms) ∧
    List.Forall₂ (rollout.Completed approval) done segments ∧ log = before ++ segments.flatten

theorem Accepted.presentText {before : RolloutLog} {approval : Option Canary.SealedCanaryApproval}
    {rooms : List RoomRegistryRecord} (h : rollout.Accepted before approval rooms) :
    presentText (approval.map Canary.SealedCanaryApproval.imageDigest) =
      approval.map Canary.SealedCanaryApproval.imageDigest := by
  cases h with
  | unapproved => rfl
  | approved hrequire events sealed happroval =>
    have hpattern := Canary.imageDigest_of_sealed happroval
    refine Option.filter_eq_some_iff.2 ⟨rfl, decide_eq_true fun hempty => ?_⟩
    rw [hempty] at hpattern
    cases hpattern

theorem Reached.allowed {approval : Option Canary.SealedCanaryApproval} {done rooms : List RoomRegistryRecord}
    {room : RoomRegistryRecord} {current : RolloutLog} {c : RolloutCall}
    (h : rollout.Reached approval done (room :: rooms) log) (hc : rollout.Handling approval room current c) :
    rollout.Allowed (log ++ current) c := by
  obtain ⟨before, segments, haccepted, hdone, rfl⟩ := h.reached
  have hall : ∃ approval done room rooms before' segments' current', rollout.Accepted before' approval
      (done ++ room :: rooms) ∧ List.Forall₂ (rollout.Completed approval) done segments' ∧
        before ++ segments.flatten ++ current = before' ++ segments'.flatten ++ current' ∧
        rollout.Handling approval room current' c :=
    ⟨approval, done, room, rooms, before, segments, current, haccepted, hdone, rfl, hc⟩
  cases c with
  | readRetained => exact hc.elim
  | listRooms => exact hc.elim
  | publish context payload => exact hc.elim
  | resolveTarget input => exact hall
  | activeOperation => exact hall
  | handoff call => exact hall

theorem Reached.next {approval : Option Canary.SealedCanaryApproval} {done rooms : List RoomRegistryRecord}
    {room : RoomRegistryRecord} {segment : RolloutLog} (h : rollout.Reached approval done (room :: rooms) log)
    (hsegment : rollout.Completed approval room segment) :
    rollout.Reached approval (done ++ [room]) rooms (log ++ segment) := by
  obtain ⟨before, segments, haccepted, hdone, rfl⟩ := h.reached
  refine ⟨before, segments ++ [segment], ?_, ?_, ?_⟩
  · rw [List.append_assoc]
    exact haccepted
  · exact List.rel_append hdone (.cons hsegment .nil)
  · rw [List.flatten_append, List.flatten_singleton, List.append_assoc]

/-- The handoff that the coordinator begins ends with a completed room, or it fails. -/
theorem obeys_handoff {approval : Option Canary.SealedCanaryApproval} {done rooms : List RoomRegistryRecord}
    {room : RoomRegistryRecord} (h : rollout.Reached approval done (room :: rooms) log) (observed : ObservedRoom)
    {failed : RolloutLog → RolloutProgress → HandoffError → Prop} (hfailed : ∀ log e, failed log progress e) :
    (rollout.handoff (observed.target (rollout.input approval room))).Obeys rollout.Allowed progress
      (log ++ [⟨.resolveTarget (rollout.input approval room), .ok observed⟩])
      (fun log progress' _ => rollout.Reached approval (done ++ [room]) rooms log ∧ progress' = progress) failed := by
  have hactive : rollout.Allowed (log ++ [⟨.resolveTarget (rollout.input approval room), .ok observed⟩])
      .activeOperation := h.allowed ⟨observed, rfl⟩
  refine Procedure.obeys_bind (Procedure.obeys_perform hactive (fun active => ?_) fun e => hfailed _ e)
  rw [List.append_assoc]
  dsimp only
  split
  · exact Procedure.obeys_throw (hfailed _ _)
  split
  · refine Procedure.obeys_within (fun handoffLog call next hreaches => ?_)
      (fun handoffLog result vars hruns => ?_) fun _ e _ _ => hfailed _ e
    · rw [List.append_assoc]
      exact h.allowed ⟨observed, active, handoffLog, next, rfl, hreaches⟩
    · have hreturns := rollout.coordinator.returns_of_runs hruns
      obtain ⟨before, segments, haccepted, -, -⟩ := h.reached
      rw [List.append_assoc]
      refine ⟨h.next ⟨observed, active, handoffLog, result, vars, rfl, hruns, hreturns.room, hreturns.revision,
        fun sealed hsealed => hreturns.image _ ?_, hreturns.drained⟩, rfl⟩
      have himage : (observed.target (rollout.input approval room)).imageDigest =
          approval.map Canary.SealedCanaryApproval.imageDigest := haccepted.presentText
      rw [himage, haccepted.presentText]
      exact Option.mem_map_of_mem _ hsealed
  · exact Procedure.obeys_throw (hfailed _ _)

theorem obeys_wave {approval : Option Canary.SealedCanaryApproval} {done rooms : List RoomRegistryRecord}
    {room : RoomRegistryRecord} (h : rollout.Reached approval done (room :: rooms) log) (hheld : progress.released = 0) :
    (rollout.wave approval room).Obeys rollout.Allowed progress log
      (fun log progress _ => rollout.Reached approval (done ++ [room]) rooms log ∧ progress.released = 0)
      (fun _ progress _ => progress.released = 0) := by
  have hresolve : rollout.Allowed (log ++ []) (.resolveTarget (rollout.input approval room)) := h.allowed ⟨rfl, rfl⟩
  rw [List.append_nil] at hresolve
  refine Procedure.obeys_bind (Procedure.obeys_modify ?_)
  refine Procedure.obeys_bind (Procedure.obeys_perform hresolve (fun observed => ?_) fun e => hheld)
  refine Procedure.obeys_bind ((obeys_handoff h observed fun _ _ => hheld).mono (fun _ _ result hnext => ?_)
    fun _ _ _ h => h)
  refine Procedure.obeys_modify ⟨hnext.1, ?_⟩
  rw [hnext.2]
  exact hheld

theorem obeys_waves {approval : Option Canary.SealedCanaryApproval} {done rooms : List RoomRegistryRecord}
    (h : rollout.Reached approval done rooms log) (hheld : progress.released = 0) :
    (rollout.waves approval rooms).Obeys rollout.Allowed progress log
      (fun log progress _ => rollout.Reached approval (done ++ rooms) [] log ∧ progress.released = 0)
      (fun _ progress _ => progress.released = 0) := by
  induction rooms generalizing done log progress with
  | nil =>
    refine Procedure.obeys_pure ⟨?_, hheld⟩
    rwa [List.append_nil]
  | cons room rooms ih =>
    refine Procedure.obeys_bind ((obeys_wave h hheld).mono (fun log' progress' _ hnext => ?_) fun _ _ _ h => h)
    have hrest := ih hnext.1 hnext.2
    rwa [List.append_assoc] at hrest

theorem obeys_handOver {approval : Option Canary.SealedCanaryApproval} {rooms : List RoomRegistryRecord}
    (h : rollout.Reached approval [] rooms log) (hheld : progress.released = 0) :
    (rollout.handOver approval rooms).Obeys rollout.Allowed progress log (fun _ progress _ => progress.released = 0)
      (fun _ progress _ => progress.released = 0) := by
  refine Procedure.obeys_bind ((obeys_waves h hheld).mono (fun log' progress' _ hdone => ?_) fun _ _ _ h => h)
  obtain ⟨⟨before, segments, haccepted, hcompleted, rfl⟩, hheld'⟩ := hdone
  refine Procedure.obeys_bind (Procedure.obeys_modify (Procedure.obeys_bind (Procedure.obeys_get ?_)))
  refine Procedure.obeys_bind (Procedure.obeys_perform ?_ (fun _ => ?_) fun _ => hheld')
  · rw [List.append_nil] at haccepted
    exact ⟨approval, rooms, before, segments, haccepted, hcompleted, rfl⟩
  · exact Procedure.obeys_modify hheld'

theorem obeys_run (rollout : FleetRollout) :
    rollout.run.Obeys rollout.Allowed .initial [] (fun _ progress _ => progress.released = 1)
      (fun _ progress _ => progress.released = 1) := by
  refine Procedure.obeys_bind ((obeys_preflight rfl).mono (fun log progress result haccepted => ?_) fun _ _ _ h => h)
  obtain ⟨approval, rooms⟩ := result
  obtain ⟨hheld, haccepted⟩ := haccepted
  have hreached : rollout.Reached approval [] rooms log :=
    ⟨log, [], haccepted, .nil, (List.append_nil log).symm⟩
  have hrelease : ∀ (log : RolloutLog) (progress : RolloutProgress), progress.released = 0 →
      release.Obeys rollout.Allowed progress log (fun _ progress _ => progress.released = 1)
        (fun _ progress _ => progress.released = 1) := by
    intro log progress hheld
    refine Procedure.obeys_modify ?_
    rw [hheld]
  refine Procedure.obeys_bind (Procedure.obeys_tryCatch ((obeys_handOver hreached hheld).mono
    (fun log progress _ hheld => hrelease log progress hheld) fun log progress error hheld => ?_))
  exact Procedure.obeys_modify (hrelease log _ hheld)

/-- However the registry, the event log, the driver and the publisher answer: the event that a rollout has passed is
published only behind a completed handoff of every room that was active when it was accepted, to the revision and the
approved image, each once, in ascending order and one after the other; a room is turned to only when all rooms before it
are done; and at its end the rollout has given its reservation back once. -/
theorem rollout_sound (rollout : FleetRollout)
    (answers : List ((c : RolloutCall) → Except HandoffError c.Result)) :
    (ScriptExecution.after (rollout.run.script .initial) answers).CallsAllowed rollout.Allowed ∧
      match (ScriptExecution.after (rollout.run.script .initial) answers).rest with
      | .done (_, progress) => progress.released = 1
      | .call .. => True := by
  obtain ⟨hobeying, hrest⟩ := ScriptExecution.after_obeys (obeys_run rollout) answers
  refine ⟨hobeying.callsAllowed, ?_⟩
  split
  · rename_i result progress hdone
    rw [hdone] at hrest
    cases result with
    | ok _ => exact hrest
    | error _ => exact hrest
  · trivial

end FleetRollout

end Opsia
