import Opsia.Orchestrator.CanaryApproval
import Opsia.Orchestrator.Coordinator
import Opsia.Orchestrator.Fleet

/-!
# A rollout to the fleet

`POST /rollouts/handoff` reads the approval of the revision and the active rooms, and then hands the rooms over one
after the other, each to the image that was approved.  The rollout is a procedure that holds a reservation of the
release gate from its start; `released` counts how often it has given the reservation back.

The requests of `resolveTarget` are one call, which answers with what was observed of the room or an error.  The read of
the coordinator's `activeOperation` is a call too, as other handoffs may have set it.
-/

namespace Opsia

open Json

/-! ### Calls -/

structure ResolveRoomHandoffTargetInput where
  roomId : String
  revision : String
  imageDigest : Option String
  workflowRunId : Option String
  applicationId : Option String

/-- What `resolveTarget` reads off the pods of a room. -/
structure ObservedRoom where
  activeEndpoint : String
  activePod : RoomResourceRef
  currentEpoch : Nat

def ObservedRoom.target (observed : ObservedRoom) (input : ResolveRoomHandoffTargetInput) : RoomHandoffTarget where
  roomId := input.roomId
  activeEndpoint := observed.activeEndpoint
  activePod := observed.activePod
  currentEpoch := observed.currentEpoch
  revision := input.revision
  imageDigest := presentText input.imageDigest
  workflowRunId := input.workflowRunId
  applicationId := input.applicationId

inductive RolloutCall
  | readRetained
  | listRooms
  | resolveTarget (input : ResolveRoomHandoffTargetInput)
  | activeOperation
  | handoff (call : HandoffCall)
  /-- The publication of `PostVerificationCompleted`. -/
  | publish (context : OperationEventContext) (payload : Fields JsValue)

def RolloutCall.Result : RolloutCall → Type
  | .readRetained => List GameOperationEvent
  | .listRooms => List RoomRegistryRecord
  | .resolveTarget _ => ObservedRoom
  | .activeOperation => Option String
  | .handoff call => call.Result
  | .publish .. => Unit

/-- `FleetRolloutOperationState`, with the number of times that the reservation was released or aborted. -/
structure RolloutProgress where
  status : String
  currentRoomId : Option String
  completedRooms : List String
  results : List RoomHandoffResult
  error : Option String
  released : Nat

def RolloutProgress.initial : RolloutProgress where
  status := "queued"
  currentRoomId := none
  completedRooms := []
  results := []
  error := none
  released := 0

abbrev Rollout (α : Type) := Procedure RolloutCall.Result HandoffError RolloutProgress α

abbrev RolloutLog := Procedure.Log RolloutCall.Result HandoffError

/-! ### The rollout -/

/-- The settings of the process and the request, whose fields have been checked. -/
structure FleetRollout where
  coordinator : RoomHandoffCoordinator
  platform : Canary.Platform
  requireCanaryApproval : Bool
  revision : String
  operationId : String
  workflowRunId : String
  applicationId : String

namespace FleetRollout

variable (rollout : FleetRollout)

def input (approval : Option Canary.SealedCanaryApproval) (room : RoomRegistryRecord) :
    ResolveRoomHandoffTargetInput where
  roomId := room.roomId
  revision := rollout.revision
  imageDigest := approval.map Canary.SealedCanaryApproval.imageDigest
  workflowRunId := some rollout.workflowRunId
  applicationId := some rollout.applicationId

def context : OperationEventContext where
  operationId := rollout.operationId
  workspaceId := rollout.coordinator.workspaceId
  workflowRunId := rollout.workflowRunId
  applicationId := rollout.applicationId

def approvalFields (approval : Option Canary.SealedCanaryApproval) : Fields JsValue :=
  match approval with
  | some approval =>
    [("canary_operation_id", .str approval.operationId), ("canary_evidence_bundle_id", .str approval.bundleId),
     ("image_digest", .str approval.imageDigest)]
  | none => []

def resultFields (result : RoomHandoffResult) : JsValue :=
  .obj [("room_id", .str result.roomId), epochField "room_epoch" result.newEpoch,
    ("state_checksum", .str result.checksum), ("sessions", .num result.sessions),
    ("replayed_inputs", .num result.replayedInputs), ("candidate_uid", .str result.candidate.uid)]

/-- The payload of `PostVerificationCompleted`. -/
def payload (approval : Option Canary.SealedCanaryApproval) (progress : RolloutProgress) : Fields JsValue :=
  [("workflow_run_id", .str rollout.workflowRunId), ("application_id", .str rollout.applicationId),
   ("cluster_id", .str rollout.coordinator.clusterId), ("namespace", .str rollout.coordinator.namespaceName),
   ("git_revision", .str rollout.revision), ("status", .str "completed"), ("passed", .bool true),
   ("checks", .arr [.str "five_room_wave_completed", .str "room_state_checksums_matched",
     .str "session_gateway_continuity_verified", .str "old_pods_drained"]),
   ("details", .obj (approvalFields approval ++
     [("completed_rooms", .arr (progress.completedRooms.map .str)),
      ("room_results", .arr (progress.results.map resultFields))]))]

def call (c : RolloutCall) : Rollout c.Result := Procedure.perform c

def release : Rollout Unit := modify fun progress => { progress with released := progress.released + 1 }

/-- The approval of the revision, where one is required. -/
def approve : Rollout (Option Canary.SealedCanaryApproval) := do
  if rollout.requireCanaryApproval then
    let events : List GameOperationEvent ← call .readRetained
    match Canary.sealedCanaryApprovalForRevision rollout.platform events rollout.revision with
    | some approval => return some approval
    | none => throw (.error "canary_approval_required_for_revision")
  else
    return none

/-- The active records by ordinal. -/
def roomsToHandOver (records : List RoomRegistryRecord) : List RoomRegistryRecord :=
  (records.filter fun record => decide (record.status ≠ .inactive)).insertionSort
    fun record other => record.ordinal ≤ other.ordinal

def acceptRooms : Rollout (List RoomRegistryRecord) := do
  let records : List RoomRegistryRecord ← call .listRooms
  let rooms := roomsToHandOver records
  if rooms.isEmpty || rooms.any (fun room => (roomOrdinal? room.roomId).isNone) then
    throw (.error "all_game_rooms_must_be_active_for_rollout")
  return rooms

/-- The checks before the operation exists; if they fail the reservation is aborted. -/
def preflight : Rollout (Option Canary.SealedCanaryApproval × List RoomRegistryRecord) :=
  tryCatch
    (do
      let approval ← rollout.approve
      let rooms ← acceptRooms
      return (approval, rooms))
    fun error => do
      release
      throw error

/-- `handoff` of the coordinator -/
def handoff (target : RoomHandoffTarget) : Rollout RoomHandoffResult := do
  let active : Option String ← call .activeOperation
  if (presentText active).isSome then throw (.error "handoff_wave_already_running")
  if (roomOrdinal? target.roomId).any fun ordinal => ordinal < rollout.coordinator.totalWaves.1 then
    (rollout.coordinator.body target rollout.operationId).within RolloutCall.handoff (fun _ => Equiv.refl _)
      (RoomHandoffCoordinator.initial target)
  else
    throw (.error "invalid_handoff_wave_room")

def wave (approval : Option Canary.SealedCanaryApproval) (room : RoomRegistryRecord) : Rollout Unit := do
  modify fun progress => { progress with currentRoomId := some room.roomId }
  let observed : ObservedRoom ← call (.resolveTarget (rollout.input approval room))
  let result ← rollout.handoff (observed.target (rollout.input approval room))
  modify fun progress => { progress with
    results := progress.results ++ [result], completedRooms := progress.completedRooms ++ [room.roomId] }

def waves (approval : Option Canary.SealedCanaryApproval) : List RoomRegistryRecord → Rollout Unit
  | [] => return
  | room :: rooms => do
    rollout.wave approval room
    waves approval rooms

/-- The waves and the event at their end. -/
def handOver (approval : Option Canary.SealedCanaryApproval) (rooms : List RoomRegistryRecord) : Rollout Unit := do
  rollout.waves approval rooms
  modify fun progress => { progress with currentRoomId := none }
  let progress ← get
  call (.publish rollout.context (rollout.payload approval progress))
  modify fun progress => { progress with status := "completed" }

def run : Rollout Unit := do
  let (approval, rooms) ← rollout.preflight
  tryCatch (rollout.handOver approval rooms) fun error =>
    modify fun progress => { progress with
      status := "failed", error := some (error.messageOr "fleet_handoff_failed") }
  release

end FleetRollout

end Opsia
