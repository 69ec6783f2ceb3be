import Mathlib.Data.List.Range
import Opsia.Gateway.Session
import Opsia.Json.Record
import Opsia.Machine

/-!
# The handoff of a room at the gateway

The gateway keeps, for each room, its sessions, at most one preparation, at most one pending verification and a record
of every cutover operation.  Everything but the registry is kept by room, and no request of one room reads what belongs
to another, so the state here is that of one room, whose id is fixed.

A session is a position in the list of all sessions there have been; `listed` says that the map of sessions still holds
it.  A cutover waits for the promises of its sessions.  Its continuation is a microtask: it runs before the next event,
so while some cutover is decided nothing else happens.  A reconciliation waits for the authority's answer.  The number
of a preparation stands for the identity of its object.
-/

namespace Opsia

open Json
open GatewaySession (PreparePromise Continuity)

/-- The room and what its environment sets: `GATEWAY_ALLOW_UNPREPARED_CUTOVER`, and whether
`GATEWAY_PREPARE_TIMEOUT_MS` is valid. -/
structure GatewaySettings where
  roomId : String
  allowUnpreparedCutover : Bool := false
  prepareTimeoutValid : Bool := true

structure RoomSession (limits : GatewayLimits) where
  session : GatewaySession limits
  listed : Bool := true

structure RoomPreparation where
  serial : Nat
  operationId : String
  expectedEpoch : Nat
  supersedesOperationId : Option String
  sessionIds : List Nat
  unackedInputs : Nat
deriving DecidableEq

structure RoomVerification where
  operationId : String
  epoch : Nat
  sessionIds : List Nat
deriving DecidableEq

inductive CutoverStatus
  | preparing
  | registryCommitted
  | committed
  | failed
deriving DecidableEq

structure RoomCutoverOperation where
  operationId : String
  expectedEpoch : JsNumber
  nextEpoch : JsNumber
  endpoint : String
  revision : Option String
  status : CutoverStatus := .preparing
  sessionIds : List Nat
  replayedInputs : Nat := 0
  failure : Option String := none
deriving DecidableEq

/-- The body of a cutover request; without an operation id there is a fresh one. -/
structure CutoverRequest where
  operationId : String
  expectedEpoch : JsNumber
  nextEpoch : JsNumber
  endpoint : String
  revision : Option String
  checksumMatched : Bool
  caughtUp : Bool
deriving DecidableEq

/-- The route that a request asks for. -/
def CutoverRequest.route (settings : GatewaySettings) (request : CutoverRequest) : RouteArgument where
  roomId := settings.roomId
  endpoint := request.endpoint
  epoch := request.nextEpoch
  revision := request.revision

structure CutoverResponse where
  operationId : String
  route : Option GatewayRoomRoute
  sessions : Nat
  replayedInputs : Nat
deriving DecidableEq

/-- A call of `cutoverRoom` behind its first wait: the preparation that it found, and the promises of its sessions. -/
structure CutoverCall where
  request : CutoverRequest
  preparation : Option Nat
  promises : List (Nat × PreparePromise)
  waiting : Bool := true
deriving DecidableEq

/-- A reconciliation between its guard and its update. -/
structure ReconcileCall where
  endpoint : String
  epoch : JsNumber
deriving DecidableEq

structure GatewayRoom (limits : GatewayLimits) where
  registry : FencedGatewayRoomRegistry
  sessions : List (RoomSession limits) := []
  preparation : Option RoomPreparation := none
  verification : Option RoomVerification := none
  operations : Fields RoomCutoverOperation := []
  cutovers : List CutoverCall := []
  reconciles : List ReconcileCall := []
  preparations : Nat := 0

namespace GatewayRoom

variable {limits : GatewayLimits} (urls : UrlParser) (codec : GatewayJoinCodec) (settings : GatewaySettings)

/-! ### Sessions and operations -/

def route (room : GatewayRoom limits) : Option GatewayRoomRoute := room.registry.get settings.roomId

/-- `sessions.has(id)` -/
def isListed (room : GatewayRoom limits) (id : Nat) : Bool :=
  match room.sessions[id]? with
  | some entry => entry.listed
  | none => false

/-- `[...sessions.values()]` -/
def listedIds (room : GatewayRoom limits) : List Nat := (List.range room.sessions.length).filter room.isListed

def session (room : GatewayRoom limits) (id : Nat) : Option (GatewaySession limits) :=
  room.sessions[id]?.map RoomSession.session

def setSession (room : GatewayRoom limits) (id : Nat) (session : GatewaySession limits) : GatewayRoom limits :=
  { room with sessions := room.sessions.modify id fun entry => { entry with session } }

/-- `sessions.delete(id)` -/
def unlist (room : GatewayRoom limits) (id : Nat) : GatewayRoom limits :=
  { room with sessions := room.sessions.modify id fun entry => { entry with listed := false } }

/-- `roomCutoverOperations.get` -/
def operation (room : GatewayRoom limits) (operationId : String) : Option RoomCutoverOperation :=
  room.operations.get? operationId

/-- `roomCutoverOperations.set`, or an assignment to the fields of an operation. -/
def setOperation (room : GatewayRoom limits) (operation : RoomCutoverOperation) : GatewayRoom limits :=
  { room with operations := room.operations.assign operation.operationId operation }

/-- `abortPrepared` for one session after the other; an exception ends the loop. -/
def abortAll (room : GatewayRoom limits) : List Nat → GatewayRoom limits × Except String Unit
  | [] => (room, .ok ())
  | id :: ids =>
    match room.session id with
    | none => abortAll room ids
    | some session =>
      match session.abortPrepared with
      | (session, .ok _) => abortAll (room.setSession id session) ids
      | (session, .error message) => (room.setSession id session, .error message)

def freezeAll (room : GatewayRoom limits) (ids : List Nat) : GatewayRoom limits :=
  ids.foldl (fun room id =>
    match room.session id with
    | some session => room.setSession id session.freeze
    | none => room) room

/-- `prepare` for one session after the other, up to their first waits. -/
def prepareAll (route : RouteArgument) (room : GatewayRoom limits) :
    List Nat → GatewayRoom limits × List (Nat × PreparePromise)
  | [] => (room, [])
  | id :: ids =>
    match room.session id with
    | none => prepareAll route room ids
    | some session =>
      let (session, promise) := session.prepare route
      let (room, promises) := prepareAll route (room.setSession id session) ids
      (room, (id, promise) :: promises)

/-! ### Preparation and verification -/

def abortRoomPreparation (room : GatewayRoom limits) (operationId : Option String) :
    GatewayRoom limits × Except String Unit :=
  match room.preparation with
  | none => (room, .ok ())
  | some preparation =>
    if operationId.any fun operationId => operationId ≠ preparation.operationId then
      (room, .error "gateway_preparation_operation_conflict")
    else
      { room with preparation := none }.abortAll (preparation.sessionIds.filter room.isListed)

/-- `sameGatewayFreezeIntent` -/
def sameGatewayFreezeIntent (preparation : RoomPreparation) (operationId : String) (expectedEpoch : Nat)
    (supersedesOperationId : Option String) : Bool :=
  decide (preparation.operationId = operationId ∧ preparation.expectedEpoch = expectedEpoch ∧
    preparation.supersedesOperationId = supersedesOperationId)

/-- The check of the pending verification in `freezeRoom`. -/
def verificationBlocks (room : GatewayRoom limits) (operationId : String) (supersedesOperationId : Option String) : Bool :=
  match room.verification with
  | none => false
  | some verification =>
    decide (verification.operationId ≠ operationId) && decide (supersedesOperationId ≠ some verification.operationId)

def freezeRoom (room : GatewayRoom limits) (operationId : String) (expectedEpoch : JsNumber)
    (supersedesOperationId : Option String) : GatewayRoom limits × Except String Unit :=
  match room.route settings with
  | none => (room, .error "gateway_room_not_found")
  | some route =>
    if (JsNumber.ofNat route.epoch).strictEq expectedEpoch = false then (room, .error "gateway_epoch_conflict")
    else if operationId = "" then (room, .error "gateway_operation_id_required")
    else
      match room.preparation with
      | some existing =>
        if sameGatewayFreezeIntent existing operationId route.epoch supersedesOperationId then (room, .ok ())
        else if existing.operationId = operationId then (room, .error "gateway_freeze_request_conflict")
        else (room, .error "gateway_room_preparation_in_progress")
      | none =>
        if room.verificationBlocks operationId supersedesOperationId then
          (room, .error "gateway_room_verification_in_progress")
        else
          let selected := room.listedIds
          let room := { room with verification := room.verification.filter fun verification =>
            verification.operationId = operationId }
          let frozen := room.freezeAll selected
          if settings.prepareTimeoutValid = false then
            ((frozen.abortAll selected).1, .error "gateway_prepare_timeout_invalid")
          else
            ({ frozen with
                preparation := some {
                  serial := room.preparations, operationId, expectedEpoch := route.epoch, supersedesOperationId
                  sessionIds := selected
                  unackedInputs := (selected.filterMap frozen.session).foldl
                    (fun total session => total + session.inputs.entries.length) 0 }
                preparations := room.preparations + 1 }, .ok ())

/-- What `roomVerificationView` finds at the sessions of a verification. -/
structure VerificationView where
  expectedSessions : Nat
  liveSessions : Nat
  upstreamSessions : Nat
  epochSessions : Nat
  routeMatches : Bool

def roomVerificationView (room : GatewayRoom limits) (verification : RoomVerification) : VerificationView :=
  let continuities : List Continuity :=
    match room.route settings with
    | none => []
    | some route =>
      ((verification.sessionIds.filter room.isListed).filterMap room.session).map fun session => session.continuity route
  { expectedSessions := verification.sessionIds.length
    liveSessions := continuities.countP fun continuity => continuity.downstream
    upstreamSessions := continuities.countP fun continuity => continuity.upstream
    epochSessions := continuities.countP fun continuity => continuity.epoch
    routeMatches := (room.route settings).any fun route => route.epoch = verification.epoch }

/-- `proof.continuous`; `stale` says that the verification is too old. -/
def VerificationView.continuous (view : VerificationView) (stale : Bool) : Bool :=
  !stale && view.routeMatches && decide (view.liveSessions = view.expectedSessions) &&
    decide (view.upstreamSessions = view.expectedSessions) && decide (view.epochSessions = view.expectedSessions)

def finalizeRoomVerification (room : GatewayRoom limits) (operationId : String) (stale : Bool) :
    GatewayRoom limits × Except String Unit :=
  match room.verification with
  | none => (room, .ok ())
  | some verification =>
    if verification.operationId ≠ operationId then (room, .error "gateway_verification_operation_conflict")
    else if (room.roomVerificationView settings verification).continuous stale = false then
      (room, .error "gateway_session_continuity_invalid")
    else
      let finalized := (verification.sessionIds.filter room.isListed).foldl (fun room id =>
        match room.session id with
        | some session => room.setSession id session.finalizeVerification
        | none => room) room
      ({ finalized with verification := none }, .ok ())

/-! ### Cutover -/

/-- The catch block of `cutoverRoom`. -/
def failCutover (room : GatewayRoom limits) (operationId : String) (selected : List Nat) (reason : String) :
    GatewayRoom limits :=
  match room.operation operationId with
  | none => room
  | some operation =>
    if operation.status = .registryCommitted then room.setOperation { operation with failure := some reason }
    else
      match (room.setOperation { operation with failure := some reason, status := .failed }).abortAll selected with
      | (room, .ok _) => { room with preparation := none }
      | (room, .error _) => room

def RequestConflicts (operation : RoomCutoverOperation) (request : CutoverRequest) : Prop :=
  operation.expectedEpoch.strictEq request.expectedEpoch = false ∨
    operation.nextEpoch.strictEq request.nextEpoch = false ∨ operation.endpoint ≠ request.endpoint ∨
    operation.revision ≠ request.revision

instance (operation : RoomCutoverOperation) (request : CutoverRequest) :
    Decidable (RequestConflicts operation request) := by
  unfold RequestConflicts
  infer_instance

/-- The sessions that a new operation selects. -/
def initiallySelected (room : GatewayRoom limits) : List Nat :=
  match room.preparation with
  | some preparation => preparation.sessionIds.filter room.isListed
  | none => room.listedIds

def operationFor (room : GatewayRoom limits) (request : CutoverRequest) : RoomCutoverOperation :=
  (room.operation request.operationId).getD {
    operationId := request.operationId, expectedEpoch := request.expectedEpoch, nextEpoch := request.nextEpoch
    endpoint := request.endpoint, revision := request.revision, sessionIds := room.initiallySelected }

/-- The preparation of the room is another one. -/
def preparationRefusal (room : GatewayRoom limits) (request : CutoverRequest) : Option (Except String CutoverResponse) :=
  match room.preparation with
  | none => none
  | some preparation =>
    if preparation.operationId ≠ request.operationId then some (.error "gateway_preparation_operation_conflict")
    else if (JsNumber.ofNat preparation.expectedEpoch).strictEq request.expectedEpoch = false then
      some (.error "gateway_preparation_epoch_conflict")
    else none

/-- The checks of `cutoverRoom` before it touches anything; a recorded outcome is given again. -/
def cutoverRefusal (room : GatewayRoom limits) (request : CutoverRequest) :
    Option (Except String CutoverResponse) :=
  match room.route settings with
  | none => some (.error "gateway_room_not_found")
  | some route =>
    match room.operation request.operationId with
    | some existing =>
      if RequestConflicts existing request then some (.error "gateway_operation_request_conflict")
      else if existing.status = .committed then
        some (.ok {
          operationId := request.operationId, route := some route, sessions := existing.sessionIds.length
          replayedInputs := existing.replayedInputs })
      else if existing.status = .failed then some (.error (existing.failure.getD "gateway_cutover_failed"))
      else room.preparationRefusal request
    | none => room.preparationRefusal request

/-- The guards at the start of the try block. -/
def cutoverGuard (room : GatewayRoom limits) (request : CutoverRequest) (operation : RoomCutoverOperation)
    (selected : List Nat) : Option String :=
  if room.preparation.isNone && decide (operation.status ≠ .registryCommitted) && !settings.allowUnpreparedCutover then
    some "gateway_room_not_frozen"
  else if request.checksumMatched = false then some "gateway_checksum_not_verified"
  else if request.caughtUp = false then some "gateway_candidate_not_caught_up"
  else if selected.length ≠ operation.sessionIds.length then some "gateway_session_continuity_lost_before_cutover"
  else none

/-- `cutoverRoom`, up to its wait; without a result it waits. -/
def cutover (room : GatewayRoom limits) (request : CutoverRequest) :
    GatewayRoom limits × Option (Except String CutoverResponse) :=
  match cutoverRefusal settings room request with
  | some refusal => (room, some refusal)
  | none =>
    let operation := room.operationFor request
    let room := room.setOperation operation
    let selected := operation.sessionIds.filter room.isListed
    match cutoverGuard settings room request operation selected with
    | some reason => (room.failCutover request.operationId selected reason, some (.error reason))
    | none =>
      let (room, promises) := prepareAll (request.route settings) room selected
      ({ room with cutovers := room.cutovers ++
          [{ request, preparation := room.preparation.map RoomPreparation.serial, promises }] }, none)

/-- The state of a promise of a session. -/
def outcome (room : GatewayRoom limits) (id : Nat) (promise : PreparePromise) : Option (Except String Unit) :=
  (room.session id).bind fun session => session.outcome promise

/-- `Promise.all`: rejected with the first rejection, resolved when all are. -/
def allSettled (room : GatewayRoom limits) (promises : List (Nat × PreparePromise)) : Option (Except String Unit) :=
  match promises.findSome? fun p =>
      match room.outcome p.1 p.2 with
      | some (.error reason) => some reason
      | _ => none with
  | some reason => some (.error reason)
  | none => if promises.all fun p => (room.outcome p.1 p.2).isSome then some (.ok ()) else none

/-- A cutover that waits and whose promises are settled. -/
def decided (room : GatewayRoom limits) (call : CutoverCall) : Option (Except String Unit) :=
  if call.waiting then room.allSettled call.promises else none

/-- `new URL(endpoint).toString().replace(/\/$/, "")` -/
def endpointText (endpoint : String) : Except String String :=
  match urls.parse endpoint with
  | none => .error "Invalid URL"
  | some url => .ok (stripSlash (urls.toString url))

/-- The route of the room after the swap, which is made unless it has been made before. -/
def swap (room : GatewayRoom limits) (request : CutoverRequest) : GatewayRoom limits × Except String GatewayRoomRoute :=
  match room.route settings with
  | none => (room, .error "gateway_room_not_found")
  | some current =>
    if (JsNumber.ofNat current.epoch).strictEq request.expectedEpoch then
      match room.registry.compareAndSwap urls settings.roomId request.expectedEpoch request.endpoint request.nextEpoch
          request.revision with
      | (result, registry) => ({ room with registry }, result)
    else if (JsNumber.ofNat current.epoch).strictEq request.nextEpoch = false then (room, .error "gateway_epoch_conflict")
    else
      match endpointText urls request.endpoint with
      | .error message => (room, .error message)
      | .ok text => if current.endpoint = text then (room, .ok current) else (room, .error "gateway_epoch_conflict")

/-- A session has been committed, and the operation counts the inputs that it replayed. -/
def setCommitted (room : GatewayRoom limits) (operationId : String) (id : Nat) (session : GatewaySession limits)
    (replayed : Nat) : GatewayRoom limits :=
  match room.operation operationId with
  | none => room.setSession id session
  | some operation =>
    (room.setSession id session).setOperation
      { operation with replayedInputs := operation.replayedInputs + replayed }

/-- The commits of a cutover; an exception ends the loop. -/
def commitAll (operationId : String) (next : GatewayRoomRoute) (room : GatewayRoom limits) :
    List Nat → GatewayRoom limits × Except String Unit
  | [] => (room, .ok ())
  | id :: ids =>
    match room.session id with
    | none => commitAll operationId next room ids
    | some session =>
      match session.commitPrepared next with
      | (session, .error message) => (room.setSession id session, .error message)
      | (session, .ok replayed) => commitAll operationId next (room.setCommitted operationId id session replayed) ids

def setStatus (room : GatewayRoom limits) (operationId : String) (status : CutoverStatus) : GatewayRoom limits :=
  match room.operation operationId with
  | none => room
  | some operation => room.setOperation { operation with status }

/-- `cutoverRoom` behind its wait when all sessions are prepared. -/
def continueCutover (room : GatewayRoom limits) (call : CutoverCall) :
    GatewayRoom limits × Except String CutoverResponse :=
  let request := call.request
  let selected := call.promises.map Prod.fst
  let committed := (room.operation request.operationId).any fun operation => operation.status = .registryCommitted
  let room := if call.preparation.isNone && !committed then room.freezeAll selected else room
  match swap urls settings room request with
  | (room, .error reason) => (room.failCutover request.operationId selected reason, .error reason)
  | (room, .ok next) =>
    let room := { room.setStatus request.operationId .registryCommitted with preparation := none }
    match commitAll request.operationId next room selected with
    | (room, .error reason) => (room.failCutover request.operationId selected reason, .error reason)
    | (room, .ok _) =>
      match room.operation request.operationId with
      | none => (room, .error "gateway_cutover_failed")
      | some operation =>
        ({ room.setOperation { operation with status := .committed, failure := none } with
            verification := some { operationId := request.operationId, epoch := next.epoch, sessionIds := selected } },
          .ok { operationId := request.operationId, route := some next, sessions := selected.length
                replayedInputs := operation.replayedInputs })

/-- The cutover at this position is decided and goes on. -/
def resume (room : GatewayRoom limits) (i : Nat) : Option (GatewayRoom limits × Except String CutoverResponse) :=
  match room.cutovers[i]? with
  | none => none
  | some call =>
    (room.decided call).map fun result =>
      let room := { room with cutovers := room.cutovers.set i { call with waiting := false } }
      match result with
      | .error reason =>
        (room.failCutover call.request.operationId (call.promises.map Prod.fst) reason, .error reason)
      | .ok _ => continueCutover urls settings room call

/-! ### Connections and routes -/

/-- A browser connects: the checks of the upgrade, and `start`. -/
def connect (room : GatewayRoom limits) : Option (GatewayRoom limits) :=
  match room.route settings with
  | none => none
  | some route =>
    if room.preparation.isSome || room.verification.isSome then none
    else some { room with sessions := room.sessions ++ [{ session := GatewaySession.start route }] }

/-- The browser of a session goes. -/
def disconnect (room : GatewayRoom limits) (id : Nat) : Option (GatewayRoom limits) :=
  match room.sessions[id]? with
  | none => none
  | some entry => if entry.listed then some ((room.setSession id entry.session.stop).unlist id) else none

/-- `start` of the session has failed, which takes it off the map. -/
def startFailed (session : GatewaySession limits) : Bool :=
  match (session.upstream 0).map UpstreamConnection.phase with
  | some (.failed _) => true
  | _ => false

def socketEvent (room : GatewayRoom limits) (id : Nat) (event : SocketEvent) : Option (GatewayRoom limits) :=
  match room.sessions[id]? with
  | none => none
  | some entry =>
    match event, entry.listed with
    | .receive _ _, false => none
    | event, _ =>
      (entry.session.socketStep codec event).map fun session =>
        if startFailed session then (room.setSession id session).unlist id else room.setSession id session

/-- The `register` endpoint. -/
def register (room : GatewayRoom limits) (endpoint : String) (epoch : JsNumber) : GatewayRoom limits :=
  { room with registry := (room.registry.register urls { roomId := settings.roomId, endpoint, epoch }).2 }

/-- The `reconcile` endpoint, up to its wait for the authority. -/
def reconcile (room : GatewayRoom limits) (endpoint : String) (epoch : JsNumber) : GatewayRoom limits × Except String Unit :=
  match room.route settings with
  | none => (room, .error "gateway_room_not_found")
  | some current =>
    if current.endpoint ≠ endpoint then (room, .error "gateway_room_reconciliation_endpoint_conflict")
    else if room.preparation.isSome || room.verification.isSome || !room.listedIds.isEmpty then
      (room, .error "gateway_room_reconciliation_in_use")
    else ({ room with reconciles := room.reconciles ++ [{ endpoint, epoch }] }, .ok ())

/-- The `reconcile` endpoint behind its wait; `confirmed` says that the authority is active, ready and at this epoch. -/
def reconciled (room : GatewayRoom limits) (i : Nat) (confirmed : Bool) : Option (GatewayRoom limits) :=
  match room.reconciles[i]? with
  | none => none
  | some call =>
    let room := { room with reconciles := room.reconciles.eraseIdx i }
    if confirmed then
      some { room with registry := (room.registry.reconcileStableRoute urls
        { roomId := settings.roomId, endpoint := call.endpoint, epoch := call.epoch }).2 }
    else some room

end GatewayRoom

/-! ### Runs of the gateway -/

inductive RoomEvent
  | connect
  | disconnect (session : Nat)
  | socket (session : Nat) (event : SocketEvent)
  | freeze (operationId : String) (expectedEpoch : JsNumber) (supersedesOperationId : Option String)
  | abort (operationId : Option String)
  | timeout
  | cutover (request : CutoverRequest)
  | resume (cutover : Nat)
  | finalize (operationId : String) (stale : Bool)
  | register (endpoint : String) (epoch : JsNumber)
  | reconcile (endpoint : String) (epoch : JsNumber)
  | reconciled (reconcile : Nat) (confirmed : Bool)

namespace GatewayRoom

variable {limits : GatewayLimits} (urls : UrlParser) (codec : GatewayJoinCodec) (settings : GatewaySettings)

/-- An event other than the continuation of a cutover. -/
def eventStep (room : GatewayRoom limits) : RoomEvent → Option (GatewayRoom limits)
  | .connect => room.connect settings
  | .disconnect id => room.disconnect id
  | .socket id event => room.socketEvent codec id event
  | .freeze operationId expectedEpoch supersedesOperationId =>
    some (room.freezeRoom settings operationId expectedEpoch supersedesOperationId).1
  | .abort operationId => some (room.abortRoomPreparation operationId).1
  | .timeout =>
    room.preparation.map fun preparation => (room.abortRoomPreparation (some preparation.operationId)).1
  | .cutover request => some (room.cutover settings request).1
  | .finalize operationId stale => some (room.finalizeRoomVerification settings operationId stale).1
  | .register endpoint epoch => some (room.register urls settings endpoint epoch)
  | .reconcile endpoint epoch => some (room.reconcile settings endpoint epoch).1
  | .reconciled i confirmed => room.reconciled urls settings i confirmed
  | .resume _ => none

/-- One event; a decided cutover goes on before anything else happens. -/
def step (room : GatewayRoom limits) (event : RoomEvent) : Option (GatewayRoom limits) :=
  match event with
  | .resume i => (room.resume urls settings i).map Prod.fst
  | event => if room.cutovers.any fun call => (room.decided call).isSome then none else room.eventStep urls codec settings event

/-- The gateway before its first event. -/
def init (registry : FencedGatewayRoomRegistry) : GatewayRoom limits := { registry }

end GatewayRoom

/-! ### A small gateway

The environment of the concrete runs. -/

/-- The text of an `http:` URL, without query and fragment, as its host and its path. -/
def plainUrls : UrlParser where
  Url := List Char × List Char
  parse endpoint :=
    match endpoint.toList with
    | 'h' :: 't' :: 't' :: 'p' :: ':' :: '/' :: '/' :: rest =>
      let host := rest.takeWhile (· ≠ '/')
      let path := rest.dropWhile (· ≠ '/')
      if host = [] then none else some (host, if path = [] then ['/'] else path)
    | _ => none
  protocol _ := "http:"
  pathname url := String.ofList url.2
  setPathname url path := (url.1, if path = "" then ['/'] else path.toList)
  toString url := "http://" ++ String.ofList (url.1 ++ url.2)

def fourInputs : GatewayLimits where
  maxMessages := 4
  maxBytes := 1024
  one_le := GatewayLimits.one_le_four
  kilobyte_le := GatewayLimits.kilobyte_le_kilobyte

/-- A join message starts with a one, and a resumed one is the same. -/
def plainJoins : GatewayJoinCodec where
  readGatewayJoin payload := .ok (if payload.head? = some 1 then some "token" else none)
  writeGatewayJoin join _ := .ok join

def firstRoom : GatewaySettings := { roomId := "room-1" }

end Opsia
