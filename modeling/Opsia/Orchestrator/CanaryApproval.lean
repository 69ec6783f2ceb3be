import Mathlib.Data.List.Sort
import Opsia.Machine
import Opsia.Orchestrator.CanaryEvidence

/-!
# Approvals from recorded events

`sealedCanaryApprovalForRevision` reads the approval of a revision off recorded events: an operation whose last event is
a complete bundle of evidence that contains its decision to approve.  `CanarySystem` is the process that records them:
it runs canary validations one at a time, next to other publishers.  `RolledOut` says what an approval promises of its
operation.
-/

namespace Opsia

open Json

namespace Canary

/-! ### Reading approvals -/

mutual

/-- `String(value)` -/
def textOf : JsValue → String
  | .undefined => "undefined"
  | .null => "null"
  | .bool b => if b then "true" else "false"
  | .num x => String.ofList x.render
  | .str s => s
  | .arr items => ",".intercalate (textsOf items)
  | .obj _ => "[object Object]"

/-- The texts that an array is joined of. -/
def textsOf : List JsValue → List String
  | [] => []
  | .undefined :: items => "" :: textsOf items
  | .null :: items => "" :: textsOf items
  | item :: items => textOf item :: textsOf items

end

/-- `String(value ?? "")` -/
def textOrEmpty : Option JsValue → String
  | none | some .undefined | some .null => ""
  | some value => textOf value

structure SealedCanaryApproval where
  operationId : String
  revision : String
  imageDigest : String
  bundleId : String
  approvalEventId : String
  bundleEventId : String
deriving DecidableEq

/-- An event of the canary's room and of the revision. -/
def ofRevision (revision : String) (event : GameOperationEvent) : Bool :=
  decide (event.payload.get? "room_id" = some (.str canaryRoomId) ∧
    event.payload.get? "git_revision" = some (.str revision))

/-- The bundle's details say that it is complete. -/
def saysComplete (details : Option JsValue) : Bool :=
  match details with
  | some (.obj fields) => decide (JsValue.field fields "completeness" = .str "complete")
  | _ => false

/-- `Array.isArray(evidenceIds) && evidenceIds.includes(eventId)` -/
def includesId (evidenceIds : Option JsValue) (eventId : String) : Bool :=
  match evidenceIds with
  | some (.arr ids) => decide (JsValue.str eventId ∈ ids)
  | _ => false

def bySequence (events : List GameOperationEvent) : List GameOperationEvent :=
  events.insertionSort fun left right => left.sequence ≤ right.sequence

/-- The approval that the events of an operation make up, with the time of its bundle. -/
def operationApproval (platform : Platform) (revision operationId : String) (unsorted : List GameOperationEvent) :
    Option (SealedCanaryApproval × Option Int) :=
  let operation := bySequence unsorted
  if operation.any (ofRevision revision) = false then none
  else
    match operation.getLast? with
    | none => none
    | some terminal =>
      if ¬(terminal.subject = .evidenceBundleSealed ∧ terminal.payload.get? "status" = some (.str "completed") ∧
          ofRevision revision terminal) then none
      else if saysComplete (terminal.payload.get? "details") = false then none
      else
        match operation.reverse.find? fun event =>
          decide (event.subject = .promotionApproved) && ofRevision revision event with
        | none => none
        | some approval =>
          let imageDigest := textOrEmpty (terminal.payload.get? "image_digest")
          let bundleId := textOrEmpty (terminal.payload.get? "bundle_id")
          if terminal.sequence ≤ approval.sequence then none
          else if operation.any fun event =>
            decide (event.subject = .promotionBlocked ∧ approval.sequence < event.sequence) then none
          else if imageDigestPattern imageDigest = false ∨
              approval.payload.get? "image_digest" ≠ some (.str imageDigest) then none
          else if includesId (terminal.payload.get? "evidence_ids") approval.eventId = false then none
          else if bundleId = "" then none
          else some ({
            operationId := operationId, revision := revision, imageDigest := imageDigest, bundleId := bundleId,
            approvalEventId := approval.eventId, bundleEventId := terminal.eventId },
            platform.dateParse terminal.createdAt)

/-- `right.sealedAt - left.sealedAt` does not put the second approval first; a date that is none compares as equal. -/
def notAfter (left right : SealedCanaryApproval × Option Int) : Bool :=
  match left.2, right.2 with
  | some l, some r => decide (r ≤ l)
  | _, _ => true

def sealedCanaryApprovalForRevision (platform : Platform) (events : List GameOperationEvent) (revision : String) :
    Option SealedCanaryApproval :=
  let byOperation := (events.map GameOperationEvent.correlationId).eraseDups
  let approvals := byOperation.filterMap fun operationId =>
    operationApproval platform revision operationId (ofOperation operationId events)
  (approvals.insertionSort fun left right => notAfter left right = true).head?.map Prod.fst

/-- The bundle and the decision that an approval is read off. -/
structure ReadOff (revision : String) (approval : SealedCanaryApproval) (bundle decision : GameOperationEvent) :
    Prop where
  bundleOf : bundle.correlationId = approval.operationId ∧ bundle.subject = .evidenceBundleSealed ∧
    bundle.eventId = approval.bundleEventId
  decisionOf : decision.correlationId = approval.operationId ∧ decision.subject = .promotionApproved ∧
    decision.eventId = approval.approvalEventId
  revision : approval.revision = revision ∧ bundle.payload.get? "git_revision" = some (.str revision)
  complete : saysComplete (bundle.payload.get? "details") = true
  image : decision.payload.get? "image_digest" = some (.str approval.imageDigest)

private theorem operationApproval_readOff {platform : Platform} {revision operationId : String}
    {events : List GameOperationEvent} {approval : SealedCanaryApproval} {sealedAt : Option Int}
    (h : operationApproval platform revision operationId (ofOperation operationId events) = some (approval, sealedAt)) :
    (∃ bundle ∈ events, ∃ decision ∈ events, ReadOff revision approval bundle decision) ∧
      imageDigestPattern approval.imageDigest = true := by
  have hof : ∀ event ∈ bySequence (ofOperation operationId events),
      event ∈ events ∧ event.correlationId = operationId := by
    intro event hevent
    obtain ⟨hin, hid⟩ := List.mem_filter.1 ((List.mem_insertionSort _).1 hevent)
    exact ⟨hin, of_decide_eq_true hid⟩
  unfold operationApproval at h
  generalize bySequence (ofOperation operationId events) = operation at h hof
  dsimp only at h
  split at h
  · cases h
  split at h
  · cases h
  rename_i terminal hterminal
  split at h
  · cases h
  rename_i hsealed
  rw [not_not] at hsealed
  split at h
  · cases h
  rename_i hcomplete
  split at h
  · cases h
  rename_i decision hdecision
  split_ifs at h with _ _ himage _ _
  simp only [Option.some.injEq, Prod.mk.injEq] at h
  obtain ⟨rfl, -⟩ := h
  obtain ⟨hbundleIn, hbundleId⟩ := hof terminal (List.mem_of_getLast? hterminal)
  obtain ⟨hdecisionIn, hdecisionId⟩ := hof decision (List.mem_reverse.1 (List.mem_of_find?_eq_some hdecision))
  have hfound := List.find?_some hdecision
  obtain ⟨happroved, -⟩ := Bool.and_eq_true_iff.1 hfound
  have hrevision := (of_decide_eq_true hsealed.2.2).2
  rw [not_or, not_not] at himage
  refine ⟨⟨terminal, hbundleIn, decision, hdecisionIn, ⟨hbundleId, hsealed.1, rfl⟩,
    ⟨hdecisionId, of_decide_eq_true happroved, rfl⟩, ⟨rfl, hrevision⟩, by simpa using hcomplete, himage.2⟩, ?_⟩
  exact Bool.not_eq_false _ ▸ himage.1

/-- An approval is read off a bundle and a decision among the recorded events. -/
theorem sealedCanaryApproval_readOff {platform : Platform} {revision : String} {events : List GameOperationEvent}
    {approval : SealedCanaryApproval} (h : sealedCanaryApprovalForRevision platform events revision = some approval) :
    ∃ bundle ∈ events, ∃ decision ∈ events, ReadOff revision approval bundle decision := by
  obtain ⟨⟨approval', sealedAt⟩, hhead, rfl⟩ := Option.map_eq_some_iff.1 h
  obtain ⟨operationId, -, hoperation⟩ := List.mem_filterMap.1 ((List.mem_insertionSort _).1 (List.mem_of_head? hhead))
  exact (operationApproval_readOff hoperation).1

theorem imageDigest_of_sealed {platform : Platform} {revision : String} {events : List GameOperationEvent}
    {approval : SealedCanaryApproval} (h : sealedCanaryApprovalForRevision platform events revision = some approval) :
    imageDigestPattern approval.imageDigest = true := by
  obtain ⟨⟨approval', sealedAt⟩, hhead, rfl⟩ := Option.map_eq_some_iff.1 h
  obtain ⟨operationId, -, hoperation⟩ := List.mem_filterMap.1 ((List.mem_insertionSort _).1 (List.mem_of_head? hhead))
  exact (operationApproval_readOff hoperation).2

/-! ### Validations and other publishers -/

/-- `endpointOrigin` of both endpoints, which must be the same. -/
def sameOrigin (platform : Platform) (endpoint allowed : String) : Except String Unit :=
  match platform.originOf endpoint, platform.originOf allowed with
  | .ok origin, .ok other => if origin = other then .ok () else .error "canary_live_endpoint_forbidden"
  | .error message, _ => .error message
  | .ok _, .error message => .error message

def validateTarget (coordinator : CanaryValidationCoordinator) (target : CanaryValidationTarget) : Except String Unit :=
  let policy := coordinator.isolation
  if target.canaryId = "" ∨ target.revision = "" then .error "canary_target_identity_required"
  else if target.roomId ≠ canaryRoomId ∨ target.roomId ≠ policy.roomId then .error "canary_live_room_forbidden"
  else
    match sameOrigin coordinator.platform target.endpoint policy.endpointOrigin with
    | .error message => .error message
    | .ok _ =>
      if target.redisKeyPrefix ≠ policy.redisKeyPrefix then .error "canary_redis_prefix_not_isolated"
      else if target.redisDatabase ≠ policy.redisDatabase ∨ target.redisDatabase ∈ policy.liveRedisDatabases then
        .error "canary_redis_database_not_isolated"
      else .ok ()

/-- A validation; `awaiting` is the call of the publisher whose promise it waits for. -/
structure CanaryOperation where
  operationId : String
  target : CanaryValidationTarget
  execution : ScriptExecution (fun c : CanaryCall => Except CanaryError c.Result)
    (Except CanaryError CanaryValidationResult × CanaryProgress)
  awaiting : Option Nat := none

/-- The publisher, the operation that runs and those that are over. -/
structure CanarySystem where
  publisher : OperationEventPublisher := {}
  activeOperation : Option CanaryOperation := none
  finished : List CanaryOperation := []

/-- `validate` starts an operation with a new id, `publish` hands its publication to the publisher and `published` is
the answer, `answer` that of another call, and `finish` its end; `other` is a call of `publish` by somebody else. -/
inductive CanarySystemEvent
  | validate (target : CanaryValidationTarget) (operationId : String)
  | publish
  | published
  | answer (answers : (c : CanaryCall) → Except CanaryError c.Result)
  | finish
  | other (context : PublishContext) (subject : GameOperationSubject) (payload : Fields JsValue)
  | publisher (event : PublisherEvent)

/-- The subjects that only canary validations publish. -/
def canarySubjects : List GameOperationSubject := [.promotionApproved, .promotionBlocked, .evidenceBundleSealed]

/-- What a promise of the publisher means to the validation. -/
def publishedAnswer (result : Except String GameOperationEvent) : (c : CanaryCall) → Except CanaryError c.Result
  | .publish _ =>
    match result with
    | .ok event => .ok event.eventId
    | .error message => .error (.error message)
  | _ => .error .other

namespace CanarySystem

def operations (system : CanarySystem) : List CanaryOperation := system.activeOperation.toList ++ system.finished

def publishContext (coordinator : CanaryValidationCoordinator) (operation : CanaryOperation) : PublishContext where
  operationId := operation.operationId
  workspaceId := coordinator.workspaceId

def step (coordinator : CanaryValidationCoordinator) (system : CanarySystem) : CanarySystemEvent → Option CanarySystem
  | .validate target operationId =>
    match validateTarget coordinator target, system.activeOperation with
    | .ok _, none =>
      if operationId ∈ system.finished.map CanaryOperation.operationId then none
      else some { system with
        activeOperation := some {
          operationId, target, execution := .start ((coordinator.validateOperation target).script {}) } }
    | _, _ => none
  | .publish =>
    match system.activeOperation with
    | none => none
    | some operation =>
      match operation.execution.pending?, operation.awaiting with
      | some (.publish publication), none =>
        (system.publisher.step (.publish (publishContext coordinator operation) publication.subject
          (coordinator.payload operation.target operation.operationId publication))).map fun publisher =>
            { system with
              publisher := publisher
              activeOperation := some { operation with awaiting := some system.publisher.calls.length } }
      | _, _ => none
  | .published =>
    match system.activeOperation with
    | none => none
    | some operation =>
      match (operation.awaiting.bind fun n => system.publisher.calls[n]?).bind PublishCall.result with
      | some result => some { system with
          activeOperation := some { operation with
            execution := operation.execution.resume (publishedAnswer result), awaiting := none } }
      | none => none
  | .answer answers =>
    match system.activeOperation with
    | none => none
    | some operation =>
      match operation.execution.pending? with
      | none | some (.publish _) => none
      | some _ => some { system with
          activeOperation := some { operation with execution := operation.execution.resume answers } }
  | .finish =>
    match system.activeOperation with
    | none => none
    | some operation =>
      match operation.execution.pending? with
      | none => some { system with activeOperation := none, finished := operation :: system.finished }
      | some _ => none
  | .other context subject payload =>
    if subject ∈ canarySubjects then none
    else (system.publisher.step (.publish context subject payload)).map fun publisher =>
      { system with publisher := publisher }
  | .publisher event =>
    match event with
    | .publish .. => none
    | _ => (system.publisher.step event).map fun publisher => { system with publisher := publisher }

end CanarySystem

/-! ### What an approval says -/

def CanaryOperation.history (coordinator : CanaryValidationCoordinator) (operation : CanaryOperation) : CanaryHistory :=
  historyOf coordinator.platform operation.execution.log

/-- The operation finished its polls, each of which passed with its memory within the threshold of its own pod; no OOM
kill was observed; the bots were stopped; the bundle is complete and holds every event that was acknowledged; and no
event of the operation blocks the promotion. -/
structure RolledOut (coordinator : CanaryValidationCoordinator) (system : CanarySystem) (operation : CanaryOperation)
    (approval : SealedCanaryApproval) : Prop where
  revision : operation.target.revision = approval.revision
  finished : (operation.history coordinator).polls.length = coordinator.options.validationPolls
  passed : ∀ poll ∈ (operation.history coordinator).polls,
    PollPassed coordinator operation.target approval.imageDigest poll
  memory : ∀ poll ∈ (operation.history coordinator).polls, PollMemoryWithin coordinator operation.target poll.pod poll
  survived : (operation.history coordinator).oomKilled = false
  stopped : (operation.history coordinator).loadStopped = true
  evidence : ∃ bundle ∈ system.publisher.durable, bundle.correlationId = operation.operationId ∧
    bundle.eventId = approval.bundleEventId ∧ saysComplete (bundle.payload.get? "details") = true ∧
    ∀ eventId ∈ (operation.history coordinator).acknowledged,
      includesId (bundle.payload.get? "evidence_ids") eventId = true
  unopposed : ∀ event ∈ system.publisher.durable, event.correlationId = operation.operationId →
    event.subject ≠ .promotionBlocked

/-- The approval is that of an operation that was rolled out. -/
def ApprovalSound (coordinator : CanaryValidationCoordinator) (system : CanarySystem)
    (approval : SealedCanaryApproval) : Prop :=
  ∃ operation ∈ system.operations, operation.operationId = approval.operationId ∧
    RolledOut coordinator system operation approval

/-- Every approval that is read off recorded events meets a condition. -/
def Approvals (coordinator : CanaryValidationCoordinator)
    (condition : CanarySystem → SealedCanaryApproval → Prop) (system : CanarySystem) : Prop :=
  ∀ (recorded : List GameOperationEvent) (revision : String) (approval : SealedCanaryApproval),
    (∀ event ∈ recorded, event ∈ system.publisher.durable) →
    sealedCanaryApprovalForRevision coordinator.platform recorded revision = some approval →
    condition system approval

/-- A working set within the threshold share of the memory limit of the pod that was polled last is within that of the
pod it was read with, and no report of an OOM kill failed. -/
structure Undisturbed (coordinator : CanaryValidationCoordinator) (operation : CanaryOperation) : Prop where
  memory : ∀ last, (operation.history coordinator).polls.getLast? = some last →
    ∀ poll ∈ (operation.history coordinator).polls, PollMemoryWithin coordinator operation.target last.pod poll →
      PollMemoryWithin coordinator operation.target poll.pod poll
  reports : (operation.history coordinator).oomReportFailed = false

/-- The operation of the approval is undisturbed. -/
def ApprovalUndisturbed (coordinator : CanaryValidationCoordinator) (system : CanarySystem)
    (approval : SealedCanaryApproval) : Prop :=
  ∀ operation ∈ system.operations, operation.operationId = approval.operationId → Undisturbed coordinator operation

end Canary

end Opsia
