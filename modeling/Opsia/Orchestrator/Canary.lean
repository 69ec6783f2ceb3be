import Opsia.Orchestrator.CanaryMetrics
import Opsia.Orchestrator.Handoff
import Opsia.Orchestrator.Publisher

/-!
# A canary validation

`CanaryValidationCoordinator.validateOperation` waits for the canary's pod to become ready, starts bots, polls the pod
and its metrics, stops the bots, evaluates the gates, and publishes its decision and a sealed bundle of evidence.  It is
a procedure over the calls of its dependencies, whose variables outlive the exceptions that its catch blocks see.  What
the dependencies answer is arbitrary; that an answer may come too late is one of its errors.  Pauses between polls are
left out.
-/

namespace Opsia

open Json

namespace Canary

/-! ### What is published -/

structure BotValidationRun where
  jobId : String
  botCount : Int
  sessionCount : Int
  evidenceIds : Option (List String)

/-- The arguments of `publishGate`. -/
structure GateReport where
  metricName : String
  observedValue : JsNumber
  thresholdValue : JsNumber
  comparator : GateComparator
  passed : Bool
  details : Fields JsValue

/-- The arguments of `publishAvailabilityGate`; the replicas are those that are ready and those that are desired. -/
structure AvailabilityReport where
  metricName : String
  replicas : Option (Int × Int)
  unavailableReason : String

structure SnapshotBacklog where
  firstObservedAt : Int
  lastObservedAt : Int
  maxInflight : ℚ
  maxPending : ℚ
  pod : CanaryPodObservation

structure MemoryPressure where
  workingSetBytes : ℚ
  memoryLimitBytes : Int
  metricSource : Option String
  observedAt : String
  pod : CanaryPodObservation

structure CanaryDecision where
  approved : Bool
  reasonCode : Option String
  unavailable : List String
  evidenceIds : List String
  pod : Option CanaryPodObservation

structure EvidenceBundle where
  unavailable : List String
  evidenceIds : List String
  pod : Option CanaryPodObservation
  startedAt : Int
  observedTo : Int

inductive CanaryPublication
  | scheduled
  | ready (pod : CanaryPodObservation)
  | validationLoadStarted (pod : CanaryPodObservation) (run : BotValidationRun)
  | metricGate (report : GateReport)
  | availabilityGate (report : AvailabilityReport)
  | snapshotBacklog (backlog : SnapshotBacklog)
  | memoryPressure (pressure : MemoryPressure)
  | oomKilled (pod : CanaryPodObservation) (oom : OomObservation)
  | decision (decision : CanaryDecision)
  | bundle (bundle : EvidenceBundle)

def CanaryPublication.subject : CanaryPublication → GameOperationSubject
  | .scheduled => .canaryScheduled
  | .ready _ => .canaryReady
  | .validationLoadStarted .. => .validationLoadStarted
  | .metricGate _ | .availabilityGate _ => .metricGateEvaluated
  | .snapshotBacklog _ => .snapshotBacklogDetected
  | .memoryPressure _ => .memoryPressureObserved
  | .oomKilled .. => .containerOOMKilled
  | .decision outcome => if outcome.approved then .promotionApproved else .promotionBlocked
  | .bundle _ => .evidenceBundleSealed

/-! ### Calls -/

/-- What is thrown: an error, or a value that is no `Error`. -/
inductive CanaryError
  | error (message : String)
  | other

def CanaryError.messageOr (fallback : String) : CanaryError → String
  | .error message => message
  | .other => fallback

/-- The calls that are awaited, and the clock. -/
inductive CanaryCall
  | publish (publication : CanaryPublication)
  | observe
  | scrape
  | startBots
  | stopBots (run : BotValidationRun)
  | now

/-- What each call resolves to; a publication to the id of its event. -/
def CanaryCall.Result : CanaryCall → Type
  | .publish _ => String
  | .observe => CanaryPodObservation
  | .scrape => CanaryMetricsScrape
  | .startBots => BotValidationRun
  | .stopBots _ => Unit
  | .now => Int

/-- The variables of `validateOperation`. -/
structure CanaryProgress where
  evidenceIds : List String := []
  unavailableReasons : List String := []
  latestPod : Option CanaryPodObservation := none
  observedImageDigest : Option String := none
  readinessFailure : Option String := none
  botRun : Option BotValidationRun := none
  cleanupAttempted : Bool := false
  observations : List MetricObservation := []
  hardFailure : Option String := none
  oom : Option OomObservation := none
  backlog : Option SnapshotBacklog := none
  memoryPressure : Option MemoryPressure := none

abbrev Validation (α : Type) := Procedure CanaryCall.Result CanaryError CanaryProgress α

abbrev CanaryLog := Procedure.Log CanaryCall.Result CanaryError

structure CanaryValidationResult where
  approved : Bool
  reasonCode : Option String
  unavailable : List String
  evidenceIds : List String
  pod : Option CanaryPodObservation

/-- The coordinator's settings, and the platform that it runs on. -/
structure CanaryValidationCoordinator where
  options : CanaryValidationOptions
  isolation : CanaryIsolationPolicy
  workspaceId : String
  clusterId : String
  namespaceName : String
  platform : Platform

def GateComparator.text : GateComparator → String
  | .atMost => "<="
  | .atLeast => ">="

def resourceRef (observation : CanaryPodObservation) (endpoint : String) : JsValue :=
  .obj ([("kind", .str observation.pod.kind), ("name", .str observation.pod.name), ("uid", .str observation.pod.uid)]
    ++ optionalField "resourceVersion" ((presentText observation.pod.resourceVersion).map .str)
    ++ [("endpoint", .str endpoint)])

/-- The fields that name the pod of a decision or of a bundle. -/
def podFields (pod : Option CanaryPodObservation) (endpoint : String) : Fields JsValue :=
  optionalField "resource_ref" (pod.map fun p => resourceRef p endpoint)
    ++ optionalField "image_digest" (pod.map fun p => .str p.pod.imageDigest)

def unavailableField (unavailable : List String) : Fields JsValue :=
  if unavailable = [] then [] else [("unavailable_reason", .str (",".intercalate unavailable))]

def texts (items : List String) : JsValue := .arr (items.map .str)

namespace CanaryValidationCoordinator

variable (coordinator : CanaryValidationCoordinator) (target : CanaryValidationTarget) (operationId : String)

def number (value : ℚ) : JsValue := .num (coordinator.platform.number value)

def isoDate (time : Int) : JsValue := .str (coordinator.platform.isoString time)

def common : Fields JsValue :=
  [("workflow_run_id", .str (target.workflowRunId.getD operationId)),
   ("application_id", .str (target.applicationId.getD "demo-game")),
   ("cluster_id", .str coordinator.clusterId),
   ("namespace", .str coordinator.namespaceName),
   ("room_id", .str target.roomId),
   ("git_revision", .str target.revision)]

/-- What each publication adds to the common fields. -/
def payloadOf : CanaryPublication → Fields JsValue
  | .scheduled =>
    [("canary_id", .str target.canaryId), ("status", .str "running"),
     ("details", .obj [("endpoint", .str target.endpoint), ("redis_key_prefix", .str target.redisKeyPrefix),
       ("redis_database", coordinator.number target.redisDatabase)])]
  | .ready pod =>
    [("canary_id", .str target.canaryId), ("ready_replicas", coordinator.number pod.readyReplicas),
     ("desired_replicas", coordinator.number pod.desiredReplicas), ("resource_ref", resourceRef pod target.endpoint),
     ("status", .str "completed")]
  | .validationLoadStarted pod run =>
    [("resource_ref", resourceRef pod target.endpoint), ("session_count", coordinator.number run.sessionCount),
     ("bot_count", coordinator.number run.botCount), ("status", .str "running"),
     ("details", .obj [("bot_job_id", .str run.jobId)])]
  | .metricGate report =>
    [("metric_name", .str report.metricName), ("observed_value", .num report.observedValue),
     ("threshold_value", .num report.thresholdValue), ("comparator", .str report.comparator.text),
     ("passed", .bool report.passed), ("status", .str (if report.passed then "completed" else "blocked"))]
      ++ optionalField "details" (if report.details = [] then none else some (.obj report.details))
  | .availabilityGate report =>
    [("metric_name", .str report.metricName)]
      ++ optionalField "observed_value" (report.replicas.map fun r => coordinator.number r.1)
      ++ optionalField "threshold_value" (report.replicas.map fun r => coordinator.number r.2)
      ++ [("comparator", .str "available"), ("passed", .bool false), ("status", .str "blocked"),
          ("unavailable_reason", .str report.unavailableReason)]
  | .snapshotBacklog backlog =>
    let pending := decide (coordinator.options.maxSnapshotPending < backlog.maxPending)
    [("resource_ref", resourceRef backlog.pod target.endpoint), ("pod_uid", .str backlog.pod.pod.uid),
     ("inflight_saves", coordinator.number backlog.maxInflight),
     ("pending_saves", coordinator.number backlog.maxPending),
     ("oldest_age_ms", coordinator.number (max 0 (backlog.lastObservedAt - backlog.firstObservedAt))),
     ("backlog_threshold", coordinator.number
       (if pending then coordinator.options.maxSnapshotPending else coordinator.options.maxSnapshotInflight)),
     ("observed_at", coordinator.isoDate backlog.firstObservedAt), ("status", .str "observed"),
     ("reason_code", .str "snapshot_backlog"),
     ("details", .obj [("trigger", .str (if pending then "pending" else "inflight"))])]
  | .memoryPressure pressure =>
    [("resource_ref", resourceRef pressure.pod target.endpoint),
     ("working_set_bytes", coordinator.number pressure.workingSetBytes),
     ("memory_limit_bytes", coordinator.number pressure.memoryLimitBytes), ("observed_at", .str pressure.observedAt),
     ("status", .str "observed"),
     ("details", .obj [("ratio", coordinator.number (pressure.workingSetBytes / pressure.memoryLimitBytes)),
       ("metric_source", (pressure.metricSource.map .str).getD .undefined)])]
  | .oomKilled pod oom =>
    [("resource_ref", resourceRef pod target.endpoint), ("pod_uid", .str oom.podUid),
     ("container_name", .str oom.containerName), ("exit_code", coordinator.number oom.exitCode),
     ("restart_count", coordinator.number oom.restartCount), ("evidence_ids", texts oom.eventUid.toList),
     ("observed_at", .str oom.observedAt), ("status", .str "observed"), ("reason_code", .str "container_oom_killed"),
     ("details", .obj (optionalField "kubernetes_event_uid" (oom.eventUid.map .str)))]
  | .decision outcome =>
    [("gate_name", .str "canary_validation")] ++ podFields outcome.pod target.endpoint
      ++ [("status", .str (if outcome.approved then "completed" else "blocked"))]
      ++ optionalField "reason_code" (outcome.reasonCode.map .str) ++ unavailableField outcome.unavailable
      ++ [("evidence_ids", texts outcome.evidenceIds)]
  | .bundle bundle =>
    podFields bundle.pod target.endpoint
      ++ [("bundle_id", .str ("bundle_" ++ operationId)),
          ("evidence_count", coordinator.number bundle.evidenceIds.length),
          ("evidence_ids", texts bundle.evidenceIds), ("status", .str "completed")]
      ++ unavailableField bundle.unavailable
      ++ [("details", .obj
          [("completeness", .str (if bundle.unavailable = [] then "complete" else "partial")),
           ("missing_reasons", texts bundle.unavailable), ("observed_from", coordinator.isoDate bundle.startedAt),
           ("observed_to", coordinator.isoDate bundle.observedTo)])]

/-- The payload of a publication. -/
def payload (publication : CanaryPublication) : Fields JsValue :=
  coordinator.common target operationId ++ coordinator.payloadOf target operationId publication

end CanaryValidationCoordinator

/-! ### Small steps -/

def perform (call : CanaryCall) : Validation call.Result := Procedure.perform call

/-- Publish an event, whose id becomes evidence. -/
def publish (publication : CanaryPublication) : Validation Unit := do
  let eventId : String ← perform (.publish publication)
  modify fun progress => { progress with evidenceIds := progress.evidenceIds ++ [eventId] }

def pushUnavailable (reason : String) : Validation Unit :=
  modify fun progress => { progress with unavailableReasons := progress.unavailableReasons ++ [reason] }

def noteMissingUid (oom : OomObservation) : Validation Unit :=
  if oom.eventUid.isNone then pushUnavailable "kubernetes_oom_event_uid_missing" else return ()

/-- Publish an event if there is one to publish. -/
def publishSome : Option CanaryPublication → Validation Unit
  | some publication => publish publication
  | none => return ()

def publishAll : List CanaryPublication → Validation Unit
  | [] => return ()
  | publication :: rest => do
    publish publication
    publishAll rest

def oomGate : CanaryPublication :=
  .metricGate {
    metricName := "container_oom_killed", observedValue := .ofNat 1, thresholdValue := .ofNat 0, comparator := .atMost,
    passed := false, details := [("observation", .str "kubernetes_container_status")] }

/-- The gates that a broken isolation and an unready pod fail. -/
def isolationGate (reason : String) : CanaryPublication :=
  .metricGate {
    metricName := "canary_isolation_policy", observedValue := .ofNat 0, thresholdValue := .ofNat 1,
    comparator := .atLeast, passed := false,
    details := [("observation", .str "kubernetes_isolation_policy"), ("reason", .str reason)] }

/-- `hardFailure.startsWith("observed_canary_")` -/
def isIsolationFailure (failure : String) : Bool := "observed_canary_".toList.isPrefixOf failure.toList

namespace CanaryValidationCoordinator

variable (coordinator : CanaryValidationCoordinator) (target : CanaryValidationTarget)

def readinessGate (pod : CanaryPodObservation) (details : Fields JsValue) : CanaryPublication :=
  .metricGate {
    metricName := "canary_readiness", observedValue := coordinator.platform.number pod.readyReplicas,
    thresholdValue := coordinator.platform.number pod.desiredReplicas, comparator := .atLeast, passed := false,
    details := details }

/-- The report of an evaluated metric gate. -/
def gateReport (gate : MetricGate) : CanaryPublication :=
  .metricGate {
    metricName := gate.metricName
    observedValue := (gate.observedValue.map coordinator.platform.number).getD .nan
    thresholdValue := coordinator.platform.number gate.thresholdValue
    comparator := gate.comparator
    passed := gate.passed
    details := (gate.details.map fun details =>
      [("working_set_bytes", .num ((details.workingSetBytes.map coordinator.platform.number).getD .nan)),
       ("memory_limit_bytes", (details.memoryLimitBytes.map fun limit => coordinator.number limit).getD .undefined),
       ("metric_source", (details.metricSource.map .str).getD .undefined)]).getD [] }

def observePod : Validation CanaryPodObservation := do
  let observation : CanaryPodObservation ← perform .observe
  match validatePodObservation coordinator.platform observation with
  | .ok _ => return observation
  | .error message => throw (.error message)

/-- Publish the decision, and the bundle that ends with it. -/
def finalize (approved : Bool) (reasonCode : Option String) (unavailableReasons : List String) (startedAt : Int)
    (pod : Option CanaryPodObservation) : Validation CanaryValidationResult := do
  let unavailable := unavailableReasons.eraseDups
  let progress ← get
  publish (.decision {
    approved := approved, reasonCode := reasonCode, unavailable := unavailable, evidenceIds := progress.evidenceIds,
    pod := pod })
  let observedTo : Int ← perform .now
  let progress ← get
  let _ : String ← perform (.publish (.bundle {
    unavailable := unavailable, evidenceIds := progress.evidenceIds, pod := pod, startedAt := startedAt,
    observedTo := observedTo }))
  return {
    approved := approved, reasonCode := reasonCode, unavailable := unavailable, evidenceIds := progress.evidenceIds,
    pod := pod }

/-- A blocked decision with the reasons and the pod as the variables have them. -/
def block (reasonCode : String) (startedAt : Int) : Validation CanaryValidationResult := do
  let progress ← get
  finalize false (some reasonCode) progress.unavailableReasons startedAt progress.latestPod

/-! ### Readiness -/

/-- How the readiness loop goes on after an attempt: with the next one, not at all, or to a blocked decision. -/
inductive ReadinessStep
  | again
  | stop
  | killed

def failReadiness (reason : String) : Validation ReadinessStep := do
  modify fun progress => { progress with readinessFailure := some reason }
  return .stop

/-- An attempt; what goes wrong while an OOM kill is reported is caught as if the pod had not been observed. -/
def readinessAttempt : Validation ReadinessStep :=
  tryCatch
    (do
      let pod ← coordinator.observePod
      modify fun progress => { progress with latestPod := some pod, readinessFailure := none }
      let progress ← get
      if progress.observedImageDigest.any fun digest => decide (pod.pod.imageDigest ≠ digest) then
        failReadiness "observed_canary_image_digest_changed"
      else
        modify fun progress => { progress with observedImageDigest := some pod.pod.imageDigest }
        match observedIsolationError pod target coordinator.isolation with
        | some reason => failReadiness reason
        | none =>
          match observedOom coordinator.platform pod with
          | some oom =>
            noteMissingUid oom
            publish (.oomKilled pod oom)
            publish oomGate
            return .killed
          | none => return if podReady pod then .stop else .again)
    fun error => do
      modify fun progress => { progress with
        readinessFailure := some (error.messageOr "canary_kubernetes_observation_unavailable") }
      return .again

def readiness (readinessStarted : Int) : Nat → Validation ReadinessStep
  | 0 => return .stop
  | polls + 1 => do
    let now : Int ← perform .now
    if coordinator.options.readinessTimeoutMs ≤ now - readinessStarted then return .stop
    else
      match ← coordinator.readinessAttempt target with
      | .again => readiness readinessStarted polls
      | step => return step

/-- The pod, if it is ready and nothing failed; an empty message is no failure. -/
def readyPod (progress : CanaryProgress) : Option CanaryPodObservation :=
  if (presentText progress.readinessFailure).isSome then none
  else progress.latestPod.filter fun pod => podReady pod

/-- What is published when the pod did not become ready. -/
def unready (startedAt : Int) : Validation CanaryValidationResult := do
  let progress ← get
  let unavailable := progress.readinessFailure.getD "canary_readiness_timeout"
  if isIsolationFailure unavailable then
    publish (isolationGate unavailable)
    block "canary_isolation_mismatch" startedAt
  else
    match progress.latestPod, presentText progress.readinessFailure with
    | some pod, none =>
      publish (coordinator.readinessGate pod [])
      block "canary_readiness_timeout" startedAt
    | latestPod, failure =>
      pushUnavailable unavailable
      publish (.availabilityGate {
        metricName := "canary_readiness", replicas := latestPod.map fun p => (p.readyReplicas, p.desiredReplicas),
        unavailableReason := unavailable })
      block (if failure.isSome then "canary_observation_unavailable" else "canary_readiness_timeout") startedAt

/-! ### The load and the polls -/

/-- The bots that were asked for. -/
def validRun (run : BotValidationRun) : Bool :=
  decide (run.jobId ≠ "") && isSafeInteger run.botCount && decide (1 ≤ run.botCount) &&
    isSafeInteger run.sessionCount && decide (0 ≤ run.sessionCount) &&
    decide (run.botCount = coordinator.options.botCount ∧ run.sessionCount = run.botCount)

/-- Start the bots; whether that succeeded. -/
def startLoad (pod : CanaryPodObservation) : Validation Bool :=
  tryCatch
    (do
      let run : BotValidationRun ← perform .startBots
      modify fun progress => { progress with botRun := some run }
      if coordinator.validRun run then
        modify fun progress => { progress with evidenceIds := progress.evidenceIds ++ run.evidenceIds.getD [] }
        publish (.validationLoadStarted pod run)
        return true
      else
        throw (.error "canary_validation_load_response_invalid"))
    fun error => do
      let reason := error.messageOr "canary_validation_load_unavailable"
      pushUnavailable reason
      publish (.availabilityGate { metricName := "validation_load", replicas := none, unavailableReason := reason })
      return false

/-- The snapshot backlog after an observation. -/
def trackBacklog (backlog : Option SnapshotBacklog) (observation : MetricObservation) (pod : CanaryPodObservation) :
    Option SnapshotBacklog :=
  match observation.value .snapshotInflight, observation.value .snapshotPending with
  | some inflight, some pending =>
    if coordinator.options.maxSnapshotInflight < inflight ∨ coordinator.options.maxSnapshotPending < pending then
      let observedAt := (coordinator.platform.dateParse observation.observedAt).getD 0
      match backlog with
      | some known => some { known with
          lastObservedAt := observedAt
          maxInflight := max known.maxInflight inflight
          maxPending := max known.maxPending pending }
      | none => some {
          firstObservedAt := observedAt, lastObservedAt := observedAt, maxInflight := inflight, maxPending := pending,
          pod := pod }
    else backlog
  | _, _ => backlog

/-- The greatest memory pressure after an observation, each working set against the limit of its own pod. -/
def trackPressure (pressure : Option MemoryPressure) (observation : MetricObservation) (pod : CanaryPodObservation) :
    Option MemoryPressure :=
  match observation.value .memoryWorkingSetBytes, pod.memoryLimitBytes with
  | some used, some limit =>
    if coordinator.options.memoryPressureRatio ≤ used / limit ∧
        (pressure.all fun known => decide (known.workingSetBytes < used)) then
      some {
        workingSetBytes := used, memoryLimitBytes := limit, metricSource := observation.memoryMetricName,
        observedAt := observation.observedAt, pod := pod }
    else pressure
  | _, _ => pressure

/-- The reasons why an observation is not complete. -/
def missingReasons (observation : MetricObservation) (pod : CanaryPodObservation) : List String :=
  ((requiredMetricNames.filter fun entry => (observation.value entry.1).isNone).map fun entry =>
      "metric_missing:" ++ entry.2)
    ++ (if pod.memoryLimitBytes.isNone then ["kubernetes_memory_limit_missing"] else [])

/-- The variables after an observation of a pod's metrics. -/
def record (observation : MetricObservation) (pod : CanaryPodObservation) (progress : CanaryProgress) :
    CanaryProgress :=
  { progress with
    observations := progress.observations ++ [observation]
    unavailableReasons := progress.unavailableReasons ++ missingReasons observation pod
    backlog := coordinator.trackBacklog progress.backlog observation pod
    memoryPressure := coordinator.trackPressure progress.memoryPressure observation pod }

/-- Throw what an expression throws. -/
def liftExcept {α : Type} (result : Except String α) : Validation α :=
  match result with
  | .ok value => return value
  | .error message => throw (.error message)

def failHard (reason : String) : Validation Bool := do
  modify fun progress => { progress with hardFailure := some reason }
  return false

/-- The metrics of a pod that has passed its checks. -/
def pollMetrics (pod : CanaryPodObservation) : Validation Bool := do
  let scrape : CanaryMetricsScrape ← perform .scrape
  let url ← liftExcept (coordinator.platform.urlText scrape.url)
  let endpoint ← liftExcept (coordinator.platform.metricsEndpoint target.endpoint)
  if url ≠ endpoint then throw (.error "canary_metrics_source_endpoint_mismatch")
  else
    let observation ← liftExcept (metricObservation coordinator.platform scrape target.roomId)
    modify (coordinator.record observation pod)
    return true

/-- A validation poll; whether the loop goes on. -/
def poll : Validation Bool :=
  tryCatch
    (do
      let pod ← coordinator.observePod
      modify fun progress => { progress with latestPod := some pod }
      let progress ← get
      if some pod.pod.imageDigest ≠ progress.observedImageDigest then failHard "observed_canary_image_digest_changed"
      else
        match observedIsolationError pod target coordinator.isolation with
        | some reason => failHard reason
        | none =>
          modify fun progress => { progress with oom := observedOom coordinator.platform pod }
          match observedOom coordinator.platform pod with
          | some oom =>
            noteMissingUid oom
            failHard "container_oom_killed"
          | none => if podReady pod then coordinator.pollMetrics target pod else failHard "canary_became_unready")
    fun error => do
      pushUnavailable (error.messageOr "canary_validation_observation_unavailable")
      return false

def polls : Nat → Validation Unit
  | 0 => return ()
  | attempts + 1 => do
    if ← coordinator.poll target then polls attempts else return ()

/-! ### The decision -/

/-- The reports that go out before the bots are stopped. -/
def reports : Validation Unit := do
  let progress ← get
  publishSome (progress.backlog.map .snapshotBacklog)
  publishSome (progress.memoryPressure.map .memoryPressure)
  publishSome (progress.latestPod.bind fun pod => progress.oom.map fun oom => .oomKilled pod oom)

def stopLoad : Validation Unit := do
  let progress ← get
  match progress.botRun with
  | some run =>
    modify fun progress => { progress with cleanupAttempted := true }
    tryCatch (perform (.stopBots run)) fun error =>
      pushUnavailable (error.messageOr "canary_validation_cleanup_unavailable")
  | none => throw .other

/-- Evaluate the gates and decide; there is a pod by then, else a `TypeError` would be thrown. -/
def judge (startedAt : Int) : Validation CanaryValidationResult := do
  let progress ← get
  match progress.latestPod with
  | none => throw .other
  | some pod =>
    let gates := metricGates coordinator.options progress.observations pod
    publishAll (gates.map coordinator.gateReport)
    let failed := gates.find? fun gate => !gate.passed
    finalize failed.isNone (failed.map fun gate => "metric_gate_failed:" ++ gate.metricName) progress.unavailableReasons
      startedAt (some pod)

/-- What follows the polls, once the bots have been stopped. -/
def conclude (startedAt : Int) : Validation CanaryValidationResult := do
  let progress ← get
  match progress.oom, progress.hardFailure with
  | some _, _ =>
    publish oomGate
    block "container_oom_killed" startedAt
  | none, some failure =>
    if isIsolationFailure failure then
      publish (isolationGate failure)
      block "canary_isolation_mismatch" startedAt
    else
      match progress.latestPod with
      | some pod =>
        publish (coordinator.readinessGate pod [("observation", .str "kubernetes_readiness"), ("reason", .str failure)])
        block failure startedAt
      | none => throw .other
  | none, none =>
    let unavailable := progress.unavailableReasons.eraseDups
    if progress.observations = [] ∨ unavailable ≠ [] then
      let joined := ",".intercalate unavailable
      let reason := if joined = "" then "canary_metrics_unavailable" else joined
      publish (.availabilityGate {
        metricName := "metrics_availability", replicas := none, unavailableReason := reason })
      finalize false (some "metric_observation_unavailable") (if unavailable = [] then [reason] else unavailable)
        startedAt progress.latestPod
    else
      coordinator.judge startedAt

/-- The try block around the load. -/
def underLoad (pod : CanaryPodObservation) (startedAt : Int) : Validation CanaryValidationResult := do
  if ← coordinator.startLoad pod then
    coordinator.polls target coordinator.options.validationPolls
    reports
    stopLoad
    coordinator.conclude startedAt
  else
    block "validation_load_unavailable" startedAt

/-- The finally block: stop bots that are still running, whatever comes of it. -/
def cleanUp : Validation Unit := do
  let progress ← get
  match progress.botRun with
  | some run => if progress.cleanupAttempted then pure () else tryCatch (perform (.stopBots run)) fun _ => pure ()
  | none => pure ()

/-- `finalize` is not awaited before the finally block runs; here it is over by then. -/
def withCleanUp {α : Type} (body : Validation α) : Validation α := do
  let result ← tryCatch body fun error => do
    cleanUp
    throw error
  cleanUp
  return result

def validateOperation : Validation CanaryValidationResult := do
  let startedAt : Int ← perform .now
  publish .scheduled
  let readinessStarted : Int ← perform .now
  match ← coordinator.readiness target readinessStarted coordinator.options.maxReadinessPolls with
  | .killed => block "container_oom_killed" startedAt
  | _ =>
    let progress ← get
    match readyPod progress with
    | none => coordinator.unready startedAt
    | some pod =>
      publish (.ready pod)
      withCleanUp (coordinator.underLoad target pod startedAt)

end CanaryValidationCoordinator

end Canary

end Opsia
