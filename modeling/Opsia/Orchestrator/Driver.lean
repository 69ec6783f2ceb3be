import Mathlib.Data.List.Sort
import Mathlib.Logic.Function.Basic
import Opsia.Orchestrator.CanaryMetrics
import Opsia.Orchestrator.Coordinator

/-!
# The driver of a handoff

`KubernetesRoomHandoffDriver` serves the calls of a handoff by requests to the cluster and to the room's pods, and keeps
a context for the room and for its candidate from the scheduling to the drain or the discard.  What is embedded is what
decides about the contexts: the scheduling, the drain and the discard as they are, and of the other methods the look at
the context they begin with; the rest of such a method is one call, `DriverCall.behind`.  What a call is answered is
arbitrary.
-/

namespace Opsia

open Json
open Canary (imageDigestPattern)

/-! ### Deployments and pods -/

/-- A container of a template or of a pod; lists that are left out are empty, here and below. -/
structure KubernetesContainer where
  name : Option String
  image : Option String
  env : List (Option String × Option String)

structure KubernetesDeployment where
  annotations : List (String × String)
  containers : List KubernetesContainer

/-- A container's name and the id of the image it runs. -/
structure KubernetesImageStatus where
  name : Option String
  imageID : Option String

structure KubernetesPod where
  name : Option String
  uid : Option String
  resourceVersion : Option String
  creationTimestamp : Option String
  deletionTimestamp : Option String
  annotations : List (String × String)
  containers : List KubernetesContainer
  phase : Option String
  podIP : Option String
  containerStatuses : List KubernetesImageStatus

/-- What the driver remembers of a handoff from one call to the next. -/
structure DriverContext where
  operationId : String
  target : RoomHandoffTarget
  candidate : Option RoomCandidate
  deploymentName : String
  originalImage : String
  originalRevision : String
  originalBuildRevision : String
  originalTemplateAnnotations : List (String × Option String)
  desiredImage : String

/-! ### Images -/

/-- The text after the last separator, if there is one. -/
def afterLast? (separator : Char) (chars : List Char) : Option (List Char) :=
  if separator ∈ chars then some (chars.reverse.takeWhile (· ≠ separator)).reverse else none

/-- The last characters of a text. -/
def takeLast (n : Nat) (chars : List Char) : List Char := chars.drop (chars.length - n)

/-- The digest of an image, or else its tag. -/
def imageRevision (image : String) : String :=
  let tagged : String :=
    let tail := (afterLast? '/' image.toList).getD image.toList
    ((afterLast? ':' tail).map String.ofList).getD "unavailable"
  match takeLast 72 image.toList with
  | '@' :: digest => if imageDigestPattern (String.ofList digest) then String.ofList digest else tagged
  | _ => tagged

/-- The digest at the end of an image id, in lower case. -/
def runtimeImageDigest (imageId : String) : Option String :=
  let digest := String.ofList ((takeLast 71 imageId.toList).map Char.toLower)
  if imageDigestPattern digest then some digest else none

/-- `/^[A-Za-z0-9_][A-Za-z0-9_.-]{0,127}$/` -/
def imageTagPattern (text : String) : Bool :=
  match text.toList with
  | first :: rest =>
    (first.isAlphanum || first == '_') && decide (rest.length ≤ 127) &&
      rest.all fun c => c.isAlphanum || c == '_' || c == '.' || c == '-'
  | [] => false

def endpointForPodIp (podIp : String) (port : Nat) : String :=
  "http://" ++ (if ':' ∈ podIp.toList then "[" ++ podIp ++ "]" else podIp) ++ ":" ++ toString port

/-! ### Requests -/

/-- The requests of the driver.  The roles of the old pod and of the candidate are patched together. -/
inductive DriverCall
  | readDeployment (name : String)
  | patchDeployment (name image revision : String) (annotations : List (String × Option String))
  | listRoomPods (roomId : String)
  | patchPodRoles (active candidate : RoomResourceRef) (roomEpoch : Nat)
  | deletePod (name uid : String)
  | behind (call : HandoffCall)

def DriverCall.Result : DriverCall → Type
  | .readDeployment _ => KubernetesDeployment
  | .listRoomPods _ => List KubernetesPod
  | .behind call => call.Result
  | .patchDeployment .. | .patchPodRoles .. | .deletePod .. => Unit

/-! ### Contexts -/

/-- The maps `contextByRoom` and `contextByCandidateUid`.  Both hold the same context in the source; here an assignment
to its candidate is made in both. -/
structure DriverContexts where
  byRoom : String → Option DriverContext
  byCandidateUid : String → Option DriverContext

namespace DriverContexts

def empty : DriverContexts where
  byRoom := fun _ => none
  byCandidateUid := fun _ => none

def set (contexts : DriverContexts) (context : DriverContext) : DriverContexts :=
  { contexts with byRoom := Function.update contexts.byRoom context.target.roomId (some context) }

/-- `context.candidate = candidate`, which the second map then holds too. -/
def assign (contexts : DriverContexts) (context : DriverContext) (candidate : RoomCandidate) : DriverContexts :=
  let assigned : DriverContext := { context with candidate := some candidate }
  { byRoom := Function.update contexts.byRoom context.target.roomId (some assigned)
    byCandidateUid := Function.update contexts.byCandidateUid candidate.uid (some assigned) }

def clearContext (contexts : DriverContexts) (context : DriverContext) : DriverContexts where
  byRoom := Function.update contexts.byRoom context.target.roomId none
  byCandidateUid :=
    match context.candidate with
    | some candidate => Function.update contexts.byCandidateUid candidate.uid none
    | none => contexts.byCandidateUid

end DriverContexts

abbrev Driver (α : Type) := Procedure DriverCall.Result HandoffError DriverContexts α

abbrev DriverLog := Procedure.Log DriverCall.Result HandoffError

namespace Driver

def request (call : DriverCall) : Driver call.Result := Procedure.perform call

def require (condition : Bool) (message : String) : Driver Unit :=
  if condition then pure () else throw (.error message)

/-- `.catch(() => undefined)` -/
def swallow (x : Driver Unit) : Driver Unit := tryCatch x fun _ => pure ()

end Driver

open Driver (request swallow)

/-! ### The driver -/

/-- The driver's settings, and the order of texts that its sort follows. -/
structure KubernetesRoomHandoffDriver where
  deploymentPrefix : String
  roomCount : Nat
  gameImageRepository : String
  gamePort : Nat
  localeCompare : String → String → Ordering

/-- The annotations that a handoff puts on the template. -/
def handoffAnnotations : List String :=
  ["opsia.dev/handoff-operation", "opsia.dev/handoff-revision", "opsia.dev/handoff-rollback"]

namespace KubernetesRoomHandoffDriver

variable (driver : KubernetesRoomHandoffDriver)

def imageForRevision (revision : String) : Driver String :=
  if imageDigestPattern revision then pure (driver.gameImageRepository ++ "@" ++ revision)
  else if imageTagPattern revision then pure (driver.gameImageRepository ++ ":" ++ revision)
  else throw (.error "invalid_game_revision")

def ordinalForRoom (roomId : String) : Driver Nat :=
  match (roomOrdinal? roomId).filter (· < driver.roomCount) with
  | some ordinal => pure ordinal
  | none => throw (.error "invalid_room_id")

def contextFor (candidate : RoomCandidate) : Driver DriverContext := do
  let contexts ← get
  match contexts.byCandidateUid candidate.uid with
  | some context => pure context
  | none => throw (.error "handoff_context_not_found")

/-- The context of a room, if it is one of this operation. -/
def contextForRoom (roomId operationId : String) : Driver DriverContext := do
  let contexts ← get
  match (contexts.byRoom roomId).filter (·.operationId = operationId) with
  | some context => pure context
  | none => throw (.error "handoff_context_not_found")

/-- The template as it was before the handoff. -/
def restoreDeployment (context : DriverContext) : Driver Unit :=
  request (.patchDeployment context.deploymentName context.originalImage context.originalBuildRevision
    context.originalTemplateAnnotations)

/-- The newest of the room's pods that this operation has made and that is not being deleted. -/
def newestPod (context : DriverContext) (pods : List KubernetesPod) : Option KubernetesPod :=
  let made := pods.filter fun pod =>
    decide (pod.uid ≠ some context.target.activePod.uid) &&
      decide (pod.annotations.lookup "opsia.dev/handoff-operation" = some context.operationId) &&
      (presentText pod.deletionTimestamp).isNone
  (made.insertionSort fun left right =>
    driver.localeCompare (right.creationTimestamp.getD "") (left.creationTimestamp.getD "") ≠ .gt).head?

/-- The name, uid and address of a pod that runs. -/
def running? (pod : KubernetesPod) : Option (String × String × String) := do
  let name ← presentText pod.name
  let uid ← presentText pod.uid
  guard (pod.phase = some "Running")
  let podIP ← presentText pod.podIP
  return (name, uid, podIP)

/-- The checks of a candidate's pod, the context that remembers it and the roles. -/
def acceptPod (context : DriverContext) (pod : KubernetesPod) (name uid podIP : String) : Driver RoomCandidate := do
  let target := context.target
  let container := pod.containers.find? fun entry => decide (entry.name = some "game-server")
  match presentText (container.bind (·.image)) with
  | none => throw (.error "candidate_pod_image_mismatch")
  | some observedImage =>
    Driver.require (observedImage = context.desiredImage) "candidate_pod_image_mismatch"
    Driver.require (imageRevision observedImage = target.imageDigest.getD target.revision)
      "candidate_pod_revision_mismatch"
    let status := pod.containerStatuses.find? fun entry => decide (entry.name = some "game-server")
    let observedDigest := (status.bind (·.imageID)).bind runtimeImageDigest
    Driver.require ((presentText target.imageDigest).all fun digest => observedDigest = some digest)
      "candidate_pod_image_digest_mismatch"
    let candidate : RoomCandidate :=
      { name := name, uid := uid, resourceVersion := pod.resourceVersion,
        endpoint := endpointForPodIp podIP driver.gamePort, revision := target.revision, imageDigest := observedDigest }
    modify fun contexts => contexts.assign context candidate
    request (.patchPodRoles target.activePod candidate.toRoomResourceRef target.currentEpoch)
    return candidate

/-- Look for the candidate's pod as often as the deadline leaves time for. -/
def awaitPod (context : DriverContext) : Nat → Driver RoomCandidate
  | 0 => throw (.error "candidate_pod_schedule_timeout")
  | polls + 1 => do
    let pods : List KubernetesPod ← request (.listRoomPods context.target.roomId)
    match (driver.newestPod context pods).bind fun pod => (running? pod).map fun found => (pod, found) with
    | some (pod, name, uid, podIP) => driver.acceptPod context pod name uid podIP
    | none => awaitPod context polls

/-- The try block of `scheduleCandidate`. -/
def rollOut (polls : Nat) (context : DriverContext) : Driver RoomCandidate := do
  request (.patchDeployment context.deploymentName context.desiredImage context.target.revision
    [("opsia.dev/handoff-operation", some context.operationId),
     ("opsia.dev/handoff-revision", some context.target.revision)])
  driver.awaitPod context polls

/-- The catch block of `scheduleCandidate`, which clears the context whatever its requests come to. -/
def undo (context : DriverContext) (error : HandoffError) : Driver RoomCandidate := do
  swallow (restoreDeployment context)
  let contexts ← get
  -- the candidate may have been assigned since
  let current := (contexts.byRoom context.target.roomId).getD context
  match current.candidate with
  | some candidate => swallow (request (.deletePod candidate.name candidate.uid))
  | none => pure ()
  modify fun contexts => contexts.clearContext current
  throw error

def scheduleCandidate (polls : Nat) (target : RoomHandoffTarget) (operationId : String) : Driver RoomCandidate := do
  let ordinal ← driver.ordinalForRoom target.roomId
  let contexts ← get
  Driver.require (decide (operationId ≠ "") && (contexts.byRoom target.roomId).isNone) "room_handoff_already_scheduled"
  let deploymentName := driver.deploymentPrefix ++ "-" ++ toString ordinal
  let deployment : KubernetesDeployment ← request (.readDeployment deploymentName)
  match deployment.containers.find? fun entry => decide (entry.name = some "game-server") with
  | none => throw (.error "game_deployment_image_unavailable")
  | some container =>
    match presentText container.image with
    | none => throw (.error "game_deployment_image_unavailable")
    | some image =>
      let desiredImage ← driver.imageForRevision (target.imageDigest.getD target.revision)
      let buildRevision := container.env.find? fun entry => decide (entry.1 = some "OPSIA_GAME_BUILD_REVISION")
      let context : DriverContext :=
        { operationId := operationId, target := target, candidate := none, deploymentName := deploymentName,
          originalImage := image, originalRevision := imageRevision image,
          originalBuildRevision := (buildRevision.bind (·.2)).getD (imageRevision image),
          originalTemplateAnnotations := handoffAnnotations.map fun key => (key, deployment.annotations.lookup key),
          desiredImage := desiredImage }
      modify fun contexts => contexts.set context
      tryCatch (driver.rollOut polls context) (undo context)

def drainOldPod (target : RoomHandoffTarget) : Driver Unit := do
  request (.deletePod target.activePod.name target.activePod.uid)
  let contexts ← get
  match contexts.byRoom target.roomId with
  | some context => modify fun contexts => contexts.clearContext context
  | none => pure ()

def discardCandidate (candidate : RoomCandidate) : Driver Unit := do
  let context ← contextFor candidate
  restoreDeployment context
  request (.deletePod candidate.name candidate.uid)
  modify fun contexts => contexts.clearContext context

def rollbackGateway (input : RollbackInput) : Driver RollbackResult := do
  let context ← contextForRoom input.roomId input.operationId
  Driver.require context.candidate.isSome "handoff_context_not_found"
  request (.behind (.rollbackGateway input))

/-- The method for each call; `polls` is how often the scheduling looks for the candidate's pod. -/
def method (polls : Nat) : (call : HandoffCall) → Driver call.Result
  | .scheduleCandidate target operationId => driver.scheduleCandidate polls target operationId
  | .drainOldPod target => drainOldPod target
  | .discardCandidate candidate _ => discardCandidate candidate
  | .rollbackGateway input => rollbackGateway input
  | .cutoverGateway input => do
    let _ ← contextForRoom input.roomId input.operationId
    request (.behind (.cutoverGateway input))
  | .seedSnapshot target candidate => do
    let _ ← contextFor candidate
    request (.behind (.seedSnapshot target candidate))
  | .catchUpJournal target candidate tick => do
    let _ ← contextFor candidate
    request (.behind (.catchUpJournal target candidate tick))
  | .verify candidate checksum => do
    let _ ← contextFor candidate
    request (.behind (.verify candidate checksum))
  | .activateCandidate input => do
    let _ ← contextFor input.candidate
    request (.behind (.activateCandidate input))
  | call => request (.behind call)

end KubernetesRoomHandoffDriver

/-! ### Handoffs over the driver -/

/-- A call of `handoff` that has come to its end: how often its driver looked for the candidate's pod, and the answers
its requests got. -/
structure FinishedHandoff where
  target : RoomHandoffTarget
  operationId : OperationId
  polls : Nat
  answers : List ((call : DriverCall) → Except HandoffError call.Result)

namespace FinishedHandoff

variable (coordinator : RoomHandoffCoordinator) (driver : KubernetesRoomHandoffDriver)

/-- `handoff` over the driver. -/
def procedure (handoff : FinishedHandoff) :
    Procedure DriverCall.Result HandoffError (HandoffProgress × DriverContexts) RoomHandoffResult :=
  (coordinator.body handoff.target handoff.operationId.value).serve (driver.method handoff.polls)

def execution (contexts : DriverContexts) (handoff : FinishedHandoff) :
    ScriptExecution (fun call : DriverCall => Except HandoffError call.Result)
      (Except HandoffError RoomHandoffResult × HandoffProgress × DriverContexts) :=
  .after ((handoff.procedure coordinator driver).script (RoomHandoffCoordinator.initial handoff.target, contexts))
    handoff.answers

/-- The exchanges of the handoff. -/
def log (contexts : DriverContexts) (handoff : FinishedHandoff) : DriverLog :=
  (handoff.execution coordinator driver contexts).log

/-- What the call returns or throws, if its answers bring it to its end. -/
def outcome (contexts : DriverContexts) (handoff : FinishedHandoff) :
    Option (Except HandoffError RoomHandoffResult) :=
  match (handoff.execution coordinator driver contexts).rest with
  | .done (result, _) => some result
  | .call .. => none

/-- The contexts after the handoff, if its answers bring it to its end. -/
def step (contexts : DriverContexts) (handoff : FinishedHandoff) : Option DriverContexts :=
  match (handoff.execution coordinator driver contexts).rest with
  | .done (_, _, contexts') => some contexts'
  | .call .. => none

end FinishedHandoff

end Opsia
