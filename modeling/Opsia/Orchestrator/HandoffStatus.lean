import Opsia.Orchestrator.EventReads

/-!
# The status of a handoff

The orchestrator keeps a record of each handoff, which its subscription to the published events brings up to date, and
serves it as the handoff's status.  After a restart there are no records, and the status is read off the log.  The
reader takes one event of the operation, which is its first and not its latest one, so the two agree only if the first
event tells what the whole history tells (`status_agrees_iff`).
-/

namespace Opsia

open Json

inductive HandoffOperationStatus
  | queued
  | running
  | completed
  | failed
deriving DecidableEq

structure HandoffOperationState where
  operationId : String
  roomId : String
  status : HandoffOperationStatus := .queued
  updatedAt : Option String := none
  lastEvent : Option GameOperationSubject := none
deriving DecidableEq

/-- What the process remembers of handoffs. -/
structure HandoffMemory where
  handoffOperations : Fields HandoffOperationState := []
  latestHandoffByRoom : Fields String := []

/-! ### The subscription -/

/-- The status that an event of this subject brings. -/
def subjectStatus : GameOperationSubject → Option HandoffOperationStatus
  | .rolloutWaveStarted => some .running
  | .rolloutWaveCompleted => some .completed
  | .rolloutWaveBlocked => some .failed
  | .roomHandoffFailed => some .failed
  | _ => none

def HandoffOperationState.notify (state : HandoffOperationState) (event : GameOperationEvent) : HandoffOperationState :=
  { state with
    lastEvent := some event.subject
    updatedAt := some event.createdAt
    status := (subjectStatus event.subject).getD state.status }

/-- The subscription hears of an event. -/
def HandoffMemory.notify (memory : HandoffMemory) (event : GameOperationEvent) : HandoffMemory :=
  match memory.handoffOperations.get? event.correlationId with
  | none => memory
  | some state =>
    { memory with
      handoffOperations := memory.handoffOperations.assign event.correlationId (state.notify event) }

/-- The memory of a process that has started the latest handoff of the room and has heard of all events. -/
def HandoffMemory.after (events : List GameOperationEvent) (roomId : String) : HandoffMemory :=
  match latestPersisted events roomId with
  | none => {}
  | some operationId =>
    events.foldl HandoffMemory.notify {
      handoffOperations := [(operationId, { operationId, roomId })], latestHandoffByRoom := [(roomId, operationId)] }

/-! ### The endpoint -/

/-- The status that the endpoint reads off an event. -/
def persistedStatus : GameOperationSubject → HandoffOperationStatus
  | .rolloutWaveCompleted => .completed
  | .rolloutWaveBlocked => .failed
  | _ => .running

/-- `GET /rooms/:room/handoff/status`; `none` is the answer 404. -/
def handoffStatus (memory : HandoffMemory) (events : List GameOperationEvent) (roomId : String)
    (requested : Option String) : Except String (Option HandoffOperationState) :=
  match (EventsEndpoint.handoff roomId (memory.latestHandoffByRoom.get? roomId)).operation events requested with
  | none => .ok none
  | some operationId =>
    match memory.handoffOperations.get? operationId with
    | some state =>
      if state.roomId ≠ roomId then .ok none
      else
        match selectEvents events { operationId, limit := .ofNat 1 } with
        | .error message => .error message
        | .ok _ => .ok (some state)
    | none =>
      match selectEvents events { operationId, limit := .ofNat 1 } with
      | .error message => .error message
      | .ok selected =>
        .ok (selected.getLast?.map fun last => {
          operationId, roomId
          status := persistedStatus last.subject
          lastEvent := some last.subject
          updatedAt := some last.createdAt })

/-- The operation and the phase of a status. -/
def HandoffOperationState.phase (state : HandoffOperationState) :
    String × HandoffOperationStatus × Option GameOperationSubject := (state.operationId, state.status, state.lastEvent)

/-- After a restart the endpoint tells the operation and the phase that the process would tell that has heard of all
events. -/
def StatusAgrees (events : List GameOperationEvent) (roomId : String) : Prop :=
  (handoffStatus {} events roomId none).map (Option.map HandoffOperationState.phase) =
    (handoffStatus (.after events roomId) events roomId none).map (Option.map HandoffOperationState.phase)

/-- The first event of the operation has the subject of its latest one, and that subject, or the latest event with a
status if it has none, brings the status that the endpoint reads off it. -/
def FirstTellsPhase (events : List GameOperationEvent) : Prop :=
  ∀ first ∈ events.head?, ∀ last ∈ events.getLast?, first.subject = last.subject ∧
    last.subject ≠ .roomHandoffFailed ∧
    (subjectStatus last.subject = none →
      ((events.map GameOperationEvent.subject).filterMap subjectStatus).getLast? = some .running)

/-! ### What the subscription holds -/

theorem get?_foldl_notify (events : List GameOperationEvent) (memory : HandoffMemory) (operationId : String) :
    (events.foldl HandoffMemory.notify memory).handoffOperations.get? operationId =
      (memory.handoffOperations.get? operationId).map fun state =>
        (ofOperation operationId events).foldl HandoffOperationState.notify state := by
  induction events generalizing memory with
  | nil =>
    rw [List.foldl_nil]
    cases memory.handoffOperations.get? operationId with
    | none => rfl
    | some state => rfl
  | cons event events ih =>
    rw [List.foldl_cons, ih, ofOperation_cons]
    unfold HandoffMemory.notify
    by_cases hsame : event.correlationId = operationId
    · rw [if_pos hsame, hsame]
      cases hstate : memory.handoffOperations.get? operationId with
      | none =>
        dsimp only
        rw [hstate]
        rfl
      | some state =>
        dsimp only
        rw [Fields.get?_assign, if_pos rfl]
        rfl
    · rw [if_neg hsame]
      cases hother : memory.handoffOperations.get? event.correlationId with
      | none => rfl
      | some state =>
        dsimp only
        rw [Fields.get?_assign, if_neg fun heq => hsame heq.symm]

theorem latest_foldl_notify (events : List GameOperationEvent) (memory : HandoffMemory) :
    (events.foldl HandoffMemory.notify memory).latestHandoffByRoom = memory.latestHandoffByRoom := by
  induction events generalizing memory with
  | nil => rfl
  | cons event events ih =>
    rw [List.foldl_cons, ih]
    unfold HandoffMemory.notify
    split
    · rfl
    · rfl

/-- The state after all events has the operation it had, the subject of the last event and the last status. -/
theorem foldl_notify (events : List GameOperationEvent) (state : HandoffOperationState) :
    let folded := events.foldl HandoffOperationState.notify state
    folded.operationId = state.operationId ∧ folded.roomId = state.roomId ∧
      folded.lastEvent = (events.getLast?.map GameOperationEvent.subject).or state.lastEvent ∧
      folded.status =
        (((events.map GameOperationEvent.subject).filterMap subjectStatus).getLast?).getD state.status := by
  induction events generalizing state with
  | nil => exact ⟨rfl, rfl, rfl, rfl⟩
  | cons event events ih =>
    obtain ⟨hoperation, hroom, hlast, hstatus⟩ := ih (state.notify event)
    dsimp only
    rw [List.foldl_cons]
    refine ⟨hoperation, hroom, ?_, ?_⟩
    · rw [hlast]
      cases hrest : events.getLast? with
      | none =>
        rw [List.getLast?_eq_none_iff] at hrest
        rw [hrest]
        rfl
      | some last =>
        rw [List.getLast?_cons, hrest]
        rfl
    · rw [hstatus, List.map_cons, List.filterMap_cons]
      cases hsubject : subjectStatus event.subject with
      | none =>
        unfold HandoffOperationState.notify
        rw [hsubject]
        rfl
      | some status =>
        dsimp only
        rw [List.getLast?_cons, Option.getD_some]
        unfold HandoffOperationState.notify
        rw [hsubject]
        rfl

/-! ### After a restart -/

/-- The operation of the room's latest event is in the log and has a name. -/
private theorem latestPersisted_spec {log : OperationEventLog} {roomId operationId : String}
    (h : latestPersisted log.events roomId = some operationId) :
    operationId ≠ "" ∧ ofOperation operationId log.events ≠ [] := by
  unfold latestPersisted at h
  obtain ⟨last, hlast, rfl⟩ := Option.map_eq_some_iff.1 h
  have hin := List.mem_of_mem_filter (List.mem_of_getLast? hlast)
  refine ⟨log.named last hin, List.ne_nil_of_mem (a := last) ?_⟩
  exact List.mem_filter.2 ⟨hin, decide_eq_true rfl⟩

/-- The page of one event that the endpoint reads. -/
private theorem selectEvents_one (log : OperationEventLog) {operationId : String} (h : operationId ≠ "") :
    selectEvents log.events { operationId, limit := .ofNat 1 } = .ok ((ofOperation operationId log.events).take 1) := by
  have hselect := selectEvents_ok log.events h (Nat.zero_le 9007199254740991) (le_refl 1) (by decide)
  have hall : (ofOperation operationId log.events).filter (fun event => decide (0 < event.sequence)) =
      ofOperation operationId log.events := by
    rw [List.filter_eq_self]
    exact fun event hin => decide_eq_true (log.positive event (List.mem_of_mem_filter hin))
  rw [hall] at hselect
  exact hselect

/-- Right after a restart the endpoint tells the first event of the operation. -/
private theorem handoffStatus_restarted {log : OperationEventLog} {roomId operationId : String}
    (h : latestPersisted log.events roomId = some operationId) {first : GameOperationEvent}
    (hfirst : (ofOperation operationId log.events).head? = some first) :
    handoffStatus {} log.events roomId none = .ok (some {
      operationId, roomId, status := persistedStatus first.subject, lastEvent := some first.subject
      updatedAt := some first.createdAt }) := by
  obtain ⟨hnamed, hne⟩ := latestPersisted_spec h
  have hoperation : (EventsEndpoint.handoff roomId none).operation log.events none = some operationId := by
    change (latestPersisted log.events roomId).filter (fun operationId => decide (operationId ≠ "")) = some operationId
    rw [h, Option.filter_some, if_pos (decide_eq_true hnamed)]
  obtain ⟨head, rest, hevents⟩ := List.exists_cons_of_ne_nil hne
  rw [hevents] at hfirst
  cases hfirst
  unfold handoffStatus
  dsimp only [Fields.get?]
  rw [hoperation]
  dsimp only
  rw [selectEvents_one log hnamed, hevents]
  rfl

/-- The process that has heard of all events tells the latest one. -/
private theorem handoffStatus_remembered {log : OperationEventLog} {roomId operationId : String}
    (h : latestPersisted log.events roomId = some operationId) {last : GameOperationEvent}
    (hlast : (ofOperation operationId log.events).getLast? = some last) :
    (handoffStatus (.after log.events roomId) log.events roomId none).map (Option.map HandoffOperationState.phase) =
      .ok (some (operationId,
        ((((ofOperation operationId log.events).map GameOperationEvent.subject).filterMap subjectStatus).getLast?).getD
          .queued, some last.subject)) := by
  obtain ⟨hnamed, -⟩ := latestPersisted_spec h
  have hmemory : HandoffMemory.after log.events roomId = log.events.foldl HandoffMemory.notify {
      handoffOperations := [(operationId, { operationId, roomId })]
      latestHandoffByRoom := [(roomId, operationId)] } := by
    unfold HandoffMemory.after
    rw [h]
  have hlatest : (HandoffMemory.after log.events roomId).latestHandoffByRoom.get? roomId = some operationId := by
    rw [hmemory, latest_foldl_notify]
    dsimp only [Fields.get?]
    rw [if_pos rfl]
  have hstate : (HandoffMemory.after log.events roomId).handoffOperations.get? operationId = some
      ((ofOperation operationId log.events).foldl HandoffOperationState.notify { operationId, roomId }) := by
    rw [hmemory, get?_foldl_notify]
    dsimp only [Fields.get?]
    rw [if_pos rfl]
    rfl
  have hoperation : (EventsEndpoint.handoff roomId (some operationId)).operation log.events none = some operationId := by
    change (some operationId).filter (fun operationId => decide (operationId ≠ "")) = some operationId
    rw [Option.filter_some, if_pos (decide_eq_true hnamed)]
  obtain ⟨hid, hroom, hevent, hstatus⟩ := foldl_notify (ofOperation operationId log.events) { operationId, roomId }
  unfold handoffStatus
  rw [hlatest, hoperation]
  dsimp only
  rw [hstate]
  dsimp only
  rw [if_neg (not_not.2 hroom), selectEvents_one log hnamed]
  unfold HandoffOperationState.phase
  rw [hlast] at hevent
  change Except.ok (some (_, _, _)) = Except.ok (some (_, _, _))
  rw [hid, hevent, hstatus]
  rfl

/-- A subject with a status has it in the log too, but for a failed handoff. -/
private theorem persistedStatus_iff {subject : GameOperationSubject} {status : HandoffOperationStatus}
    (h : subjectStatus subject = some status) : persistedStatus subject = status ↔ subject ≠ .roomHandoffFailed := by
  revert h
  cases subject <;> cases status <;> decide

private theorem persistedStatus_of_none {subject : GameOperationSubject} (h : subjectStatus subject = none) :
    persistedStatus subject = .running ∧ subject ≠ .roomHandoffFailed := by
  revert h
  cases subject <;> decide

private theorem phase_iff {events : List GameOperationEvent} {first last : GameOperationEvent}
    (hfirst : events.head? = some first) (hlast : events.getLast? = some last) :
    (persistedStatus first.subject =
        ((events.map GameOperationEvent.subject).filterMap subjectStatus).getLast?.getD .queued ∧
      first.subject = last.subject) ↔ FirstTellsPhase events := by
  have hunfold : FirstTellsPhase events ↔ first.subject = last.subject ∧ last.subject ≠ .roomHandoffFailed ∧
      (subjectStatus last.subject = none →
        ((events.map GameOperationEvent.subject).filterMap subjectStatus).getLast? = some .running) := by
    unfold FirstTellsPhase
    rw [hfirst, hlast]
    constructor
    · intro h
      exact h first rfl last rfl
    · intro h first' hfirst' last' hlast'
      cases hfirst'
      cases hlast'
      exact h
  rw [hunfold, and_comm]
  refine and_congr_right fun hsame => ?_
  rw [hsame]
  cases hstatus : subjectStatus last.subject with
  | some status =>
    -- the latest event has the last word
    have hlastStatus : ((events.map GameOperationEvent.subject).filterMap subjectStatus).getLast? = some status := by
      obtain ⟨earlier, rfl⟩ := List.getLast?_eq_some_iff.1 hlast
      rw [List.map_append, List.filterMap_append, List.map_singleton, List.filterMap_cons, hstatus]
      exact List.getLast?_concat ..
    rw [hlastStatus, Option.getD_some, persistedStatus_iff hstatus]
    exact ⟨fun h => ⟨h, fun hnone => (nomatch hnone)⟩, fun h => h.1⟩
  | none =>
    obtain ⟨hrunning, hfailed⟩ := persistedStatus_of_none hstatus
    rw [hrunning]
    cases hlastStatus : ((events.map GameOperationEvent.subject).filterMap subjectStatus).getLast? with
    | none =>
      constructor
      · intro h
        cases h
      · intro h
        cases h.2 rfl
    | some status =>
      rw [Option.getD_some]
      constructor
      · rintro rfl
        exact ⟨hfailed, fun _ => rfl⟩
      · intro h
        cases h.2 rfl
        rfl

/-- After a restart the status agrees with what the process would remember just when the room has no handoff, or the
first event of its latest one tells what its whole history tells. -/
theorem status_agrees_iff (log : OperationEventLog) (roomId : String) :
    StatusAgrees log.events roomId ↔
      ∀ operationId ∈ latestPersisted log.events roomId, FirstTellsPhase (ofOperation operationId log.events) := by
  unfold StatusAgrees
  cases hlatest : latestPersisted log.events roomId with
  | none =>
    have hmemory : HandoffMemory.after log.events roomId = {} := by
      unfold HandoffMemory.after
      rw [hlatest]
    rw [hmemory]
    exact ⟨fun _ _ h => (nomatch h), fun _ => rfl⟩
  | some operationId =>
    obtain ⟨-, hne⟩ := latestPersisted_spec hlatest
    obtain ⟨first, hfirst⟩ := Option.ne_none_iff_exists'.1 (fun h => hne (List.head?_eq_none_iff.1 h))
    obtain ⟨last, hlast⟩ := Option.ne_none_iff_exists'.1 (fun h => hne (List.getLast?_eq_none_iff.1 h))
    rw [handoffStatus_restarted hlatest hfirst, handoffStatus_remembered hlatest hlast]
    have hphase := phase_iff hfirst hlast
    constructor
    · intro h other hother
      cases hother
      unfold Except.map HandoffOperationState.phase at h
      simp only [Option.map_some, Except.ok.injEq, Option.some.injEq, Prod.mk.injEq] at h
      exact hphase.1 h.2
    · intro h
      obtain ⟨hstatus, hsubject⟩ := hphase.2 (h operationId rfl)
      unfold Except.map HandoffOperationState.phase
      simp only [Option.map_some]
      rw [hstatus, hsubject]

private def handoffEvent (eventId : String) (subject : GameOperationSubject) (sequence : Nat) : GameOperationEvent where
  eventId := eventId
  subject := subject
  source := "demo-game/room-orchestrator"
  workspaceId := "demo-game"
  correlationId := "op_1"
  causationId := none
  createdAt := "2026-01-01T00:00:00.000Z"
  sequence := sequence
  payload := [("room_id", .str "room-1")]

/-- A handoff that is completed. -/
private def completedHandoff : OperationEventLog where
  events := [handoffEvent "evt_1" .rolloutWaveStarted 1, handoffEvent "evt_2" .rolloutWaveCompleted 2]
  increasing operationId := by
    unfold ofOperation
    refine List.Pairwise.filter _ ?_
    simp [handoffEvent]
  positive := by simp [handoffEvent]
  safe := by simp [handoffEvent]
  named := by simp [handoffEvent]

/-- After a restart a completed handoff is running. -/
theorem completed_handoff_running : ¬∀ (log : OperationEventLog) (roomId : String), StatusAgrees log.events roomId := by
  intro h
  have hstatus : (handoffStatus {} completedHandoff.events "room-1" none).map
      (Option.map HandoffOperationState.phase) = .ok (some ("op_1", .running, some .rolloutWaveStarted)) := rfl
  have hremembered : (handoffStatus (.after completedHandoff.events "room-1") completedHandoff.events "room-1" none).map
      (Option.map HandoffOperationState.phase) = .ok (some ("op_1", .completed, some .rolloutWaveCompleted)) := rfl
  have hagrees := h completedHandoff "room-1"
  unfold StatusAgrees at hagrees
  rw [hstatus, hremembered] at hagrees
  cases hagrees

end Opsia
