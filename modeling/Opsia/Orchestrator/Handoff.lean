import Opsia.Json.Value
import Opsia.Json.Number
import Opsia.Script

/-!
# A room handoff

`RoomHandoffCoordinator.handoff` moves a room from its active pod to a candidate: it schedules the candidate, freezes
the gateway, seeds the candidate and lets it catch up, transfers the authority, cuts the gateway over, verifies and
drains the old pod.  It is a procedure over the calls of its driver and of the event publisher, whose variables are
those the catch block reads.  What a driver answers is arbitrary.
-/

namespace Opsia

open Json

/-! ### Targets, candidates and evidence -/

structure RoomResourceRef where
  name : String
  uid : String
  resourceVersion : Option String
  deriving DecidableEq, Repr

/-- The room to move; `currentEpoch` is the one `resolveTarget` has read from the active pod and checked. -/
structure RoomHandoffTarget where
  roomId : String
  activeEndpoint : String
  activePod : RoomResourceRef
  currentEpoch : Nat
  revision : String
  imageDigest : Option String
  workflowRunId : Option String
  applicationId : Option String
  deriving DecidableEq, Repr

structure RoomCandidate extends RoomResourceRef where
  endpoint : String
  revision : String
  imageDigest : Option String
  deriving DecidableEq, Repr

structure SnapshotSeedResult where
  checksum : String
  snapshotTick : JsNumber
  payloadBytes : JsNumber

structure HandoffCatchUpResult where
  activeTick : JsNumber
  candidateTick : JsNumber
  lagTicks : JsNumber
  checksum : Option String

structure PostVerificationResult where
  healthy : Bool
  sessionContinuity : Bool
  stateChecksum : String

structure FrozenRoom where
  sessions : JsNumber
  unackedInputs : JsNumber

structure CutoverResult where
  sessions : JsNumber
  replayedInputs : JsNumber

structure RollbackResult extends CutoverResult where
  roomEpoch : Nat

structure CutoverInput where
  operationId : String
  roomId : String
  endpoint : String
  expectedEpoch : Nat
  nextEpoch : Nat
  revision : String
  checksum : String

structure RollbackInput where
  operationId : String
  roomId : String
  endpoint : String
  expectedEpoch : Nat
  nextEpoch : Nat
  revision : String

structure ActivationInput where
  target : RoomHandoffTarget
  candidate : RoomCandidate
  roomEpoch : Nat
  checksum : String

structure RoomHandoffResult where
  operationId : String
  roomId : String
  oldEpoch : Nat
  newEpoch : Nat
  checksum : String
  sessions : JsNumber
  replayedInputs : JsNumber
  candidate : RoomCandidate

structure OperationEventContext where
  operationId : String
  workspaceId : String
  workflowRunId : String
  applicationId : String

/-- The subjects that a handoff publishes. -/
inductive HandoffSubject
  | rolloutWaveStarted
  | roomCandidateScheduled
  | roomCandidateReady
  | roomSnapshotSeeded
  | roomJournalCaughtUp
  | roomChecksumMismatched
  | roomChecksumMatched
  | roomEpochFenced
  | roomGatewayCutover
  | roomInputReplayCompleted
  | roomPostVerificationCompleted
  | roomOldPodDrained
  | rolloutWaveCompleted
  | roomHandoffFailed
  | rolloutWaveBlocked

/-! ### Calls -/

/-- What is thrown: an error, a `RoomCutoverCommittedError`, or a value that is no `Error`. -/
inductive HandoffError
  | error (message : String)
  | cutoverCommitted (message : String) (committedEpoch : Nat)
  | other

/-- The message, or what is said of a value that is no `Error`. -/
def HandoffError.messageOr (fallback : String) : HandoffError → String
  | .error message => message
  | .cutoverCommitted message _ => message
  | .other => fallback

/-- The calls that are awaited: the publisher's and the driver's. -/
inductive HandoffCall
  | publish (context : OperationEventContext) (subject : HandoffSubject) (payload : Fields JsValue)
  | scheduleCandidate (target : RoomHandoffTarget) (operationId : String)
  | waitUntilReady (candidate : RoomCandidate)
  | freezeGateway (operationId roomId : String) (expectedEpoch : Nat)
  | abortGatewayPreparation (operationId roomId : String)
  | seedSnapshot (target : RoomHandoffTarget) (candidate : RoomCandidate)
  | catchUpJournal (target : RoomHandoffTarget) (candidate : RoomCandidate) (snapshotTick : JsNumber)
  | candidateChecksum (candidate : RoomCandidate)
  | cutoverGateway (input : CutoverInput)
  | rollbackGateway (input : RollbackInput)
  | verify (candidate : RoomCandidate) (expectedChecksum : String)
  | activateCandidate (input : ActivationInput)
  | finalizeGateway (operationId roomId : String) (roomEpoch : Nat)
  | drainOldPod (target : RoomHandoffTarget)
  | discardCandidate (candidate : RoomCandidate) (reason : String)

/-- What each call resolves to. -/
def HandoffCall.Result : HandoffCall → Type
  | .scheduleCandidate .. => RoomCandidate
  | .freezeGateway .. => FrozenRoom
  | .seedSnapshot .. => SnapshotSeedResult
  | .catchUpJournal .. => HandoffCatchUpResult
  | .candidateChecksum _ => String
  | .cutoverGateway _ => CutoverResult
  | .rollbackGateway _ => RollbackResult
  | .verify .. => PostVerificationResult
  | .activateCandidate _ => String
  | .publish .. | .waitUntilReady _ | .abortGatewayPreparation .. | .finalizeGateway .. | .drainOldPod _
  | .discardCandidate .. => Unit

inductive HandoffStage
  | schedule
  | ready
  | freeze
  | snapshot
  | journal
  | checksum
  | cutover
  | verify
  | activate
  | drain
  deriving DecidableEq, Repr

def HandoffStage.name : HandoffStage → String
  | .schedule => "schedule"
  | .ready => "ready"
  | .freeze => "freeze"
  | .snapshot => "snapshot"
  | .journal => "journal"
  | .checksum => "checksum"
  | .cutover => "cutover"
  | .verify => "verify"
  | .activate => "activate"
  | .drain => "drain"

/-- The variables of `handoff` that its catch block reads. -/
structure HandoffProgress where
  stage : HandoffStage
  candidate : Option RoomCandidate
  gatewayFrozen : Bool
  authorityTransferStarted : Bool
  authorityCommitted : Bool
  cutoverCommitted : Bool
  committedEpoch : Nat

abbrev Handoff (α : Type) := Procedure HandoffCall.Result HandoffError HandoffProgress α

abbrev HandoffLog := Procedure.Log HandoffCall.Result HandoffError

def perform (call : HandoffCall) : Handoff call.Result := Procedure.perform call

/-- Throw an error with this message unless the condition holds. -/
def require (condition : Bool) (message : String) : Handoff Unit :=
  if condition then pure () else throw (.error message)

/-! ### The coordinator -/

/-- The coordinator's own settings; its constructor refuses other numbers of waves. -/
structure RoomHandoffCoordinator where
  workspaceId : String
  clusterId : String
  namespaceName : String
  totalWaves : SafeNat
  waves_pos : 1 ≤ totalWaves.1

/-- The number in a room id `room-<digits>`, if it is one. -/
def roomOrdinal? (roomId : String) : Option Nat :=
  match roomId.toList with
  | 'r' :: 'o' :: 'o' :: 'm' :: '-' :: digits =>
    if digits = [] then none else (digits.mapM digitVal?).map valueOf
  | _ => none

/-- An optional text that JavaScript takes for true. -/
def presentText (text : Option String) : Option String := text.filter (· ≠ "")

def optionalField (key : String) (value : Option JsValue) : Fields JsValue :=
  match value with
  | some v => [(key, v)]
  | none => []

def RoomResourceRef.toJs (pod : RoomResourceRef) : JsValue :=
  .obj ([("kind", .str "Pod"), ("name", .str pod.name), ("uid", .str pod.uid)]
    ++ optionalField "resourceVersion" (pod.resourceVersion.map .str))

def RoomCandidate.toJs (candidate : RoomCandidate) : JsValue :=
  .obj ([("kind", .str "Pod"), ("name", .str candidate.name), ("uid", .str candidate.uid)]
    ++ optionalField "resourceVersion" (candidate.resourceVersion.map .str)
    ++ [("endpoint", .str candidate.endpoint), ("revision", .str candidate.revision)]
    ++ optionalField "imageDigest" (candidate.imageDigest.map .str))

def epochField (key : String) (epoch : Nat) : String × JsValue := (key, .num (JsNumber.ofNat epoch))

namespace RoomHandoffCoordinator

variable (coordinator : RoomHandoffCoordinator) (target : RoomHandoffTarget) (operationId : String)

def context : OperationEventContext where
  operationId := operationId
  workspaceId := coordinator.workspaceId
  workflowRunId := target.workflowRunId.getD operationId
  applicationId := target.applicationId.getD "demo-game"

def common : Fields JsValue :=
  [("operation_id", .str operationId),
   ("workflow_run_id", .str (target.workflowRunId.getD operationId)),
   ("application_id", .str (target.applicationId.getD "demo-game")),
   ("cluster_id", .str coordinator.clusterId),
   ("namespace", .str coordinator.namespaceName),
   ("room_id", .str target.roomId),
   ("git_revision", .str target.revision)]

def wave : Fields JsValue :=
  [("wave_number", .num (JsNumber.ofNat ((roomOrdinal? target.roomId).getD 0 + 1))),
   ("total_waves", .num (JsNumber.ofNat coordinator.totalWaves.1))]

/-- Publish an event whose payload is the common fields and these. -/
def publish (subject : HandoffSubject) (payload : Fields JsValue) : Handoff Unit :=
  perform (.publish (coordinator.context target operationId) subject
    (coordinator.common target operationId ++ payload))

/-- Publish an event about the candidate. -/
def publishFor (candidate : RoomCandidate) (subject : HandoffSubject) (payload : Fields JsValue) : Handoff Unit :=
  coordinator.publish target operationId subject (("resource_ref", candidate.toJs) :: payload)

def enter (stage : HandoffStage) : Handoff Unit := modify fun progress => { progress with stage := stage }

/-! ### The stages -/

def schedule : Handoff RoomCandidate := do
  coordinator.publish target operationId .rolloutWaveStarted
    (coordinator.wave target ++ [epochField "room_epoch" target.currentEpoch, ("status", .str "running")])
  let candidate : RoomCandidate ← perform (.scheduleCandidate target operationId)
  modify fun progress => { progress with candidate := some candidate }
  require (candidate.revision = target.revision) "candidate_revision_mismatch"
  require ((presentText target.imageDigest).all fun digest => candidate.imageDigest = some digest)
    "candidate_image_digest_mismatch"
  coordinator.publishFor target operationId candidate .roomCandidateScheduled
    (optionalField "image_digest" ((presentText candidate.imageDigest).map .str)
      ++ [epochField "room_epoch" target.currentEpoch, ("status", .str "running")])
  return candidate

def ready (candidate : RoomCandidate) : Handoff Unit := do
  enter .ready
  perform (.waitUntilReady candidate)
  coordinator.publishFor target operationId candidate .roomCandidateReady [("status", .str "completed")]

def freeze : Handoff FrozenRoom := do
  enter .freeze
  let frozen : FrozenRoom ← perform (.freezeGateway operationId target.roomId target.currentEpoch)
  modify fun progress => { progress with gatewayFrozen := true }
  return frozen

/-- The snapshot and journal stages: the checksum that the candidate is expected to have. -/
def seed (candidate : RoomCandidate) (frozen : FrozenRoom) : Handoff String := do
  enter .snapshot
  let seeded : SnapshotSeedResult ← perform (.seedSnapshot target candidate)
  coordinator.publishFor target operationId candidate .roomSnapshotSeeded
    [("server_tick", .num seeded.snapshotTick), ("state_checksum", .str seeded.checksum),
     ("payload_bytes", .num seeded.payloadBytes), ("frozen_sessions", .num frozen.sessions),
     ("buffered_inputs", .num frozen.unackedInputs), ("status", .str "completed")]
  enter .journal
  let caughtUp : HandoffCatchUpResult ← perform (.catchUpJournal target candidate seeded.snapshotTick)
  require (caughtUp.lagTicks.strictEq (JsNumber.ofNat 0) && caughtUp.candidateTick.strictEq caughtUp.activeTick)
    ("candidate_tick_lag:" ++ String.ofList caughtUp.lagTicks.render)
  coordinator.publishFor target operationId candidate .roomJournalCaughtUp
    [("server_tick", .num caughtUp.candidateTick), ("lag_ticks", .num caughtUp.lagTicks),
     ("state_checksum", .str (caughtUp.checksum.getD seeded.checksum)), ("status", .str "completed")]
  return caughtUp.checksum.getD seeded.checksum

/-- The checksum stage: the candidate's own checksum, which is the expected one. -/
def compareChecksum (candidate : RoomCandidate) (expectedChecksum : String) : Handoff String := do
  enter .checksum
  let candidateChecksum : String ← perform (.candidateChecksum candidate)
  if candidateChecksum ≠ expectedChecksum then
    coordinator.publishFor target operationId candidate .roomChecksumMismatched
      [("expected_checksum", .str expectedChecksum), ("actual_checksum", .str candidateChecksum),
       ("status", .str "blocked"), ("reason_code", .str "state_checksum_mismatch")]
    throw (.error "state_checksum_mismatch")
  else
    coordinator.publishFor target operationId candidate .roomChecksumMatched
      [("state_checksum", .str candidateChecksum), ("status", .str "completed")]
    return candidateChecksum

/-- The activate stage: the checksum with which the candidate has taken the authority over. -/
def transfer (candidate : RoomCandidate) (candidateChecksum : String) : Handoff String := do
  let newEpoch := target.currentEpoch + 1
  modify fun progress => { progress with stage := .activate, authorityTransferStarted := true }
  let checksum : String ← perform (.activateCandidate
    { target := target, candidate := candidate, roomEpoch := newEpoch, checksum := candidateChecksum })
  modify fun progress => { progress with authorityCommitted := true, committedEpoch := newEpoch }
  coordinator.publishFor target operationId candidate .roomEpochFenced
    [epochField "old_epoch" target.currentEpoch, epochField "room_epoch" newEpoch,
     ("state_checksum", .str checksum), ("status", .str "completed")]
  return checksum

def cutover (candidate : RoomCandidate) (checksum : String) : Handoff CutoverResult := do
  let newEpoch := target.currentEpoch + 1
  enter .cutover
  let result : CutoverResult ← perform (.cutoverGateway
    { operationId := operationId, roomId := target.roomId, endpoint := candidate.endpoint,
      expectedEpoch := target.currentEpoch, nextEpoch := newEpoch, revision := target.revision,
      checksum := checksum })
  modify fun progress => { progress with cutoverCommitted := true, gatewayFrozen := false }
  coordinator.publishFor target operationId candidate .roomGatewayCutover
    [epochField "room_epoch" newEpoch, ("sessions", .num result.sessions), ("status", .str "completed")]
  coordinator.publishFor target operationId candidate .roomInputReplayCompleted
    [epochField "room_epoch" newEpoch, ("replayed_inputs", .num result.replayedInputs), ("status", .str "completed")]
  return result

def verify (candidate : RoomCandidate) (checksum : String) : Handoff Unit := do
  let newEpoch := target.currentEpoch + 1
  enter .verify
  let verification : PostVerificationResult ← perform (.verify candidate checksum)
  require (verification.healthy && verification.sessionContinuity) "post_cutover_verification_failed"
  coordinator.publishFor target operationId candidate .roomPostVerificationCompleted
    [epochField "room_epoch" newEpoch, ("session_continuity", .bool verification.sessionContinuity),
     ("state_checksum", .str verification.stateChecksum), ("status", .str "completed")]
  perform (.finalizeGateway operationId target.roomId newEpoch)

def drain : Handoff Unit := do
  let newEpoch := target.currentEpoch + 1
  enter .drain
  perform (.drainOldPod target)
  coordinator.publish target operationId .roomOldPodDrained
    [("resource_ref", target.activePod.toJs), epochField "room_epoch" newEpoch, ("status", .str "completed")]
  coordinator.publish target operationId .rolloutWaveCompleted
    (coordinator.wave target ++ [epochField "room_epoch" newEpoch, ("status", .str "completed")])

/-- The try block of `handoff`. -/
def attempt : Handoff RoomHandoffResult := do
  let candidate ← coordinator.schedule target operationId
  coordinator.ready target operationId candidate
  let frozen ← freeze target operationId
  let expectedChecksum ← coordinator.seed target operationId candidate frozen
  let candidateChecksum ← coordinator.compareChecksum target operationId candidate expectedChecksum
  let checksum ← coordinator.transfer target operationId candidate candidateChecksum
  let result ← coordinator.cutover target operationId candidate checksum
  coordinator.verify target operationId candidate checksum
  coordinator.drain target operationId
  return {
    operationId := operationId, roomId := target.roomId, oldEpoch := target.currentEpoch,
    newEpoch := target.currentEpoch + 1, checksum := checksum, sessions := result.sessions,
    replayedInputs := result.replayedInputs, candidate := candidate }

/-! ### The catch block -/

/-- What the catch block works out before it decides about the candidate. -/
structure Recovery where
  reason : String
  rollback : String
  reportedEpoch : Nat
  mayDiscardCandidate : Bool

/-- A `RoomCutoverCommittedError` says that the gateway has been cut over. -/
def noteCommitted : HandoffError → HandoffProgress → HandoffProgress
  | .cutoverCommitted _ epoch, progress =>
    { progress with cutoverCommitted := true, gatewayFrozen := false, committedEpoch := epoch }
  | _, progress => progress

/-- Resume a room that was frozen and whose authority has not begun to move. -/
def abortPreparation (recovery : Recovery) : Handoff Recovery := do
  let progress ← get
  if progress.gatewayFrozen && !progress.authorityTransferStarted && !progress.cutoverCommitted then
    tryCatch
      (do
        perform (.abortGatewayPreparation operationId target.roomId)
        modify fun progress => { progress with gatewayFrozen := false }
        return { recovery with rollback := "active_resumed" })
      fun abortError =>
        return { recovery with
          reason := recovery.reason ++ ";abort:" ++ abortError.messageOr "gateway_abort_failed"
          rollback := "gateway_abort_failed"
          mayDiscardCandidate := false }
  else
    return recovery

/-- Bring the authority and the gateway back to the old pod. -/
def rollBack (recovery : Recovery) : Handoff Recovery := do
  let progress ← get
  if (progress.authorityTransferStarted || progress.cutoverCommitted || progress.authorityCommitted)
      && decide (progress.stage ≠ .drain) then
    tryCatch
      (do
        let recovered : RollbackResult ← perform (.rollbackGateway
          { operationId := operationId, roomId := target.roomId, endpoint := target.activeEndpoint,
            expectedEpoch := progress.committedEpoch, nextEpoch := progress.committedEpoch + 1,
            revision := target.revision })
        return { recovery with
          reportedEpoch := recovered.roomEpoch, rollback := "gateway_rolled_back", mayDiscardCandidate := true })
      fun rollbackError =>
        return { recovery with
          reason := recovery.reason ++ ";rollback:" ++ rollbackError.messageOr "gateway_rollback_failed"
          rollback := "rollback_failed_candidate_retained"
          mayDiscardCandidate := false }
  else if progress.cutoverCommitted || progress.authorityCommitted then
    return { recovery with rollback := "candidate_retained_after_drain_failure" }
  else
    return recovery

/-- Delete the candidate where that is allowed; a failure is swallowed. -/
def discard (recovery : Recovery) : Handoff Unit := do
  let progress ← get
  match progress.candidate with
  | some candidate =>
    if recovery.mayDiscardCandidate && decide (progress.stage ≠ .drain) then
      tryCatch (perform (.discardCandidate candidate recovery.reason)) fun _ => pure ()
    else
      return ()
  | none => return ()

/-- The events of a failure, after which the error is thrown on. -/
def report (recovery : Recovery) (error : HandoffError) : Handoff RoomHandoffResult := do
  let progress ← get
  coordinator.publish target operationId .roomHandoffFailed
    (optionalField "resource_ref" (progress.candidate.map RoomCandidate.toJs)
      ++ [epochField "room_epoch" recovery.reportedEpoch, ("failed_stage", .str progress.stage.name),
          ("status", .str "failed"), ("reason_code", .str recovery.reason), ("rollback", .str recovery.rollback)])
  coordinator.publish target operationId .rolloutWaveBlocked
    (coordinator.wave target
      ++ [epochField "room_epoch" recovery.reportedEpoch, ("failed_stage", .str progress.stage.name),
          ("status", .str "blocked"), ("reason_code", .str recovery.reason)])
  throw error

/-- The catch block of `handoff`. -/
def recover (error : HandoffError) : Handoff RoomHandoffResult := do
  modify (noteCommitted error)
  let progress ← get
  let aborted ← abortPreparation target operationId
    { reason := error.messageOr "room_handoff_failed", rollback := "active_preserved",
      reportedEpoch := progress.committedEpoch,
      mayDiscardCandidate := !progress.authorityTransferStarted && !progress.cutoverCommitted }
  let recovered ← rollBack target operationId aborted
  discard recovered
  coordinator.report target operationId recovered error

/-- The body of `handoff` between taking and releasing the wave. -/
def body : Handoff RoomHandoffResult :=
  tryCatch (coordinator.attempt target operationId) (coordinator.recover target operationId)

/-- The variables as `handoff` declares them. -/
def initial : HandoffProgress where
  stage := .schedule
  candidate := none
  gatewayFrozen := false
  authorityTransferStarted := false
  authorityCommitted := false
  cutoverCommitted := false
  committedEpoch := target.currentEpoch

end RoomHandoffCoordinator

end Opsia
