import Mathlib.Algebra.Order.Field.Rat
import Mathlib.Data.Rat.Floor
import Mathlib.Data.List.MinMax
import Opsia.Json.Number

/-!
# What a canary is observed to do

A canary validation reads observations of the pod and scrapes of its metrics.  `observedIsolationError`, `observedOom`
and `podReady` look at a pod, `metricObservation` reads the required metrics off a scrape, and `metricGates` compares
the worst value of each metric over all polls with its threshold.

A scrape carries what `parsePrometheus` makes of its body.  Sample values are finite, so they are rational numbers here,
and quotients are exact.
-/

namespace Opsia

namespace Canary

/-! ### Pods -/

structure KubernetesTerminationStatus where
  reason : String
  exitCode : Int
  finishedAt : Option String

structure KubernetesContainerStatus where
  name : String
  ready : Bool
  restartCount : Int
  terminated : Option KubernetesTerminationStatus
  lastTerminated : Option KubernetesTerminationStatus

structure KubernetesEventObservation where
  uid : String
  reason : String
  observedAt : Option String
  involvedObjectUid : Option String

structure CanaryPod where
  kind : String
  name : String
  uid : String
  resourceVersion : Option String
  phase : String
  canaryId : String
  revision : String
  imageDigest : String

structure CanaryIsolation where
  roomId : String
  fleet : String
  publicEnabled : Bool
  matchmakingEnabled : Bool
  redisKeyPrefix : String
  redisDatabase : Int

structure CanaryPodObservation where
  observedAt : String
  pod : CanaryPod
  readyReplicas : Int
  desiredReplicas : Int
  containers : List KubernetesContainerStatus
  events : List KubernetesEventObservation
  isolation : CanaryIsolation
  memoryLimitBytes : Option Int

structure CanaryValidationTarget where
  canaryId : String
  roomId : String
  endpoint : String
  revision : String
  redisKeyPrefix : String
  redisDatabase : Int
  workflowRunId : Option String
  applicationId : Option String

structure CanaryIsolationPolicy where
  roomId : String
  endpointOrigin : String
  redisKeyPrefix : String
  redisDatabase : Int
  liveRedisDatabases : List Int

/-- What the platform makes of texts and values: the text of a time, the double that stands for a value, the text of a
parsed URL, that of the metrics endpoint and the origin of an endpoint, or the error that is thrown, and the time of a
date, if it is one. -/
structure Platform where
  isoString : Int → String
  number : ℚ → Json.JsNumber
  urlText : String → Except String String
  metricsEndpoint : String → Except String String
  originOf : String → Except String String
  dateParse : String → Option Int

def canaryRoomId : String := "canary-room"

def isSafeInteger (n : Int) : Bool := decide (-9007199254740991 ≤ n ∧ n ≤ 9007199254740991)

def isLowerHex (c : Char) : Bool := c.isDigit || decide ('a' ≤ c ∧ c ≤ 'f')

/-- `/^sha256:[a-f\d]{64}$/` -/
def imageDigestPattern (text : String) : Bool :=
  match text.toList with
  | 's' :: 'h' :: 'a' :: '2' :: '5' :: '6' :: ':' :: hex => decide (hex.length = 64) && hex.all isLowerHex
  | _ => false

/-- A date that is left out or valid. -/
def Platform.dateValid (platform : Platform) (date : Option String) : Bool :=
  date.all fun text => (platform.dateParse text).isSome

def validTermination (platform : Platform) (termination : KubernetesTerminationStatus) : Bool :=
  decide (termination.reason ≠ "") && isSafeInteger termination.exitCode && decide (0 ≤ termination.exitCode) &&
    platform.dateValid termination.finishedAt

def validContainer (container : KubernetesContainerStatus) : Bool :=
  decide (container.name ≠ "") && isSafeInteger container.restartCount && decide (0 ≤ container.restartCount)

def validEvent (platform : Platform) (event : KubernetesEventObservation) : Bool :=
  decide (event.uid ≠ "" ∧ event.reason ≠ "") && platform.dateValid event.observedAt

/-- The checks of each container in turn: first the container itself, then its terminations. -/
def containerError (platform : Platform) (containers : List KubernetesContainerStatus) : Option String :=
  containers.findSome? fun container =>
    if validContainer container = false then some "canary_kubernetes_container_status_invalid"
    else if (container.terminated.toList ++ container.lastTerminated.toList).all (validTermination platform) then none
    else some "canary_kubernetes_termination_status_invalid"

def validatePodObservation (platform : Platform) (observation : CanaryPodObservation) : Except String Unit :=
  let pod := observation.pod
  if ¬(pod.kind = "Pod" ∧ pod.name ≠ "" ∧ pod.uid ≠ "" ∧ pod.phase ≠ "" ∧ pod.canaryId ≠ "" ∧ pod.revision ≠ "" ∧
      imageDigestPattern pod.imageDigest ∧ (platform.dateParse observation.observedAt).isSome ∧
      isSafeInteger observation.readyReplicas ∧ 0 ≤ observation.readyReplicas ∧
      isSafeInteger observation.desiredReplicas ∧ 0 ≤ observation.desiredReplicas ∧
      observation.readyReplicas ≤ observation.desiredReplicas) then
    .error "canary_kubernetes_observation_invalid"
  else if observation.memoryLimitBytes.any fun limit => !isSafeInteger limit || decide (limit ≤ 0) then
    .error "canary_kubernetes_memory_limit_invalid"
  else
    match containerError platform observation.containers with
    | some message => .error message
    | none => if observation.events.all (validEvent platform) then .ok () else .error "canary_kubernetes_event_invalid"

/-- A valid observation has a positive memory limit, if any. -/
theorem memoryLimit_pos {platform : Platform} {pod : CanaryPodObservation} {limit : Int}
    (h : validatePodObservation platform pod = .ok ()) (hlimit : pod.memoryLimitBytes = some limit) : 0 < limit := by
  unfold validatePodObservation at h
  dsimp only at h
  split at h
  · cases h
  · split at h
    · cases h
    · rename_i hvalid
      by_contra hle
      refine hvalid ?_
      rw [hlimit]
      simp only [Option.any_some, Bool.or_eq_true, decide_eq_true_eq]
      exact Or.inr (not_lt.1 hle)

def podReady (observation : CanaryPodObservation) : Bool :=
  decide (observation.pod.phase = "Running" ∧ 0 < observation.desiredReplicas ∧
    observation.readyReplicas = observation.desiredReplicas ∧ observation.containers ≠ []) &&
    observation.containers.all KubernetesContainerStatus.ready

def observedIsolationError (observation : CanaryPodObservation) (target : CanaryValidationTarget)
    (policy : CanaryIsolationPolicy) : Option String :=
  let isolation := observation.isolation
  if observation.pod.canaryId ≠ target.canaryId then some "observed_canary_id_mismatch"
  else if observation.pod.revision ≠ target.revision then some "observed_canary_revision_mismatch"
  else if isolation.roomId ≠ canaryRoomId ∨ isolation.roomId ≠ target.roomId then some "observed_canary_room_mismatch"
  else if isolation.fleet ≠ "canary" then some "observed_canary_fleet_mismatch"
  else if isolation.publicEnabled then some "observed_canary_public_enabled"
  else if isolation.matchmakingEnabled then some "observed_canary_matchmaking_enabled"
  else if isolation.redisKeyPrefix ≠ policy.redisKeyPrefix then some "observed_canary_redis_prefix_mismatch"
  else if isolation.redisDatabase ≠ policy.redisDatabase ∨ isolation.redisDatabase ∈ policy.liveRedisDatabases then
    some "observed_canary_redis_database_mismatch"
  else none

structure OomObservation where
  podUid : String
  containerName : String
  exitCode : Int
  restartCount : Int
  eventUid : Option String
  observedAt : String

/-- The termination of a container that was killed for its memory. -/
def KubernetesContainerStatus.oomKilled (container : KubernetesContainerStatus) : Option KubernetesTerminationStatus :=
  (container.terminated.filter fun t => decide (t.reason = "OOMKilled")).or
    (container.lastTerminated.filter fun t => decide (t.reason = "OOMKilled"))

def observedOom (platform : Platform) (observation : CanaryPodObservation) : Option OomObservation :=
  observation.containers.findSome? fun container =>
    container.oomKilled.map fun termination =>
      let event := observation.events.find? fun candidate =>
        decide (candidate.reason = "OOMKilled" ∧ candidate.involvedObjectUid = some observation.pod.uid)
      { podUid := observation.pod.uid
        containerName := container.name
        exitCode := termination.exitCode
        restartCount := container.restartCount
        eventUid := event.map KubernetesEventObservation.uid
        observedAt :=
          ([termination.finishedAt, event.bind KubernetesEventObservation.observedAt,
            some observation.observedAt].findSome? fun date =>
              date.filter fun text => decide (text ≠ "") && (platform.dateParse text).isSome).getD
            observation.observedAt }

/-- The pod belongs to the canary and to nothing that is live. -/
structure Isolated (observation : CanaryPodObservation) (target : CanaryValidationTarget)
    (policy : CanaryIsolationPolicy) : Prop where
  canaryId : observation.pod.canaryId = target.canaryId
  revision : observation.pod.revision = target.revision
  room : observation.isolation.roomId = canaryRoomId ∧ observation.isolation.roomId = target.roomId
  fleet : observation.isolation.fleet = "canary"
  hidden : observation.isolation.publicEnabled = false ∧ observation.isolation.matchmakingEnabled = false
  redisKeyPrefix : observation.isolation.redisKeyPrefix = policy.redisKeyPrefix
  redisDatabase : observation.isolation.redisDatabase = policy.redisDatabase ∧
    observation.isolation.redisDatabase ∉ policy.liveRedisDatabases

/-! ### Metrics -/

/-- The metrics that are required of every scrape. -/
inductive MetricKey
  | snapshotInflight
  | snapshotPending
  | snapshotWriteDurationSeconds
  | snapshotFailuresTotal
  | snapshotTimeoutsTotal
  | snapshotCircuitOpen
  | snapshotHandoffEnabled
  | tickRate
  | memoryWorkingSetBytes
deriving DecidableEq

/-- `requiredMetricNames` -/
def requiredMetricNames : List (MetricKey × String) :=
  [(.snapshotInflight, "game_snapshot_inflight"), (.snapshotPending, "game_snapshot_pending"),
   (.snapshotWriteDurationSeconds, "game_snapshot_write_duration_seconds"),
   (.snapshotFailuresTotal, "game_snapshot_failures_total"), (.snapshotTimeoutsTotal, "game_snapshot_timeouts_total"),
   (.snapshotCircuitOpen, "game_snapshot_circuit_open"), (.snapshotHandoffEnabled, "game_snapshot_handoff_enabled"),
   (.tickRate, "game_tick_rate"),
   (.memoryWorkingSetBytes, "container_memory_working_set_bytes|process_resident_memory_bytes")]

def MetricKey.field : MetricKey → String
  | .snapshotInflight => "snapshotInflight"
  | .snapshotPending => "snapshotPending"
  | .snapshotWriteDurationSeconds => "snapshotWriteDurationSeconds"
  | .snapshotFailuresTotal => "snapshotFailuresTotal"
  | .snapshotTimeoutsTotal => "snapshotTimeoutsTotal"
  | .snapshotCircuitOpen => "snapshotCircuitOpen"
  | .snapshotHandoffEnabled => "snapshotHandoffEnabled"
  | .tickRate => "tickRate"
  | .memoryWorkingSetBytes => "memoryWorkingSetBytes"

/-- A sample, with its `room` label if it has one. -/
structure PrometheusSample where
  name : String
  room : Option String
  value : ℚ

structure CanaryMetricsScrape where
  observedAt : String
  url : String
  samples : Except String (List PrometheusSample)

def metricValue (samples : List PrometheusSample) (name roomId : String) (allowUnlabelled : Bool) : Option ℚ :=
  ((samples.filter fun sample =>
    decide (sample.name = name) && (decide (sample.room = some roomId) || (allowUnlabelled && sample.room.isNone))).map
      PrometheusSample.value).max?

structure MetricObservation where
  observedAt : String
  value : MetricKey → Option ℚ
  memoryMetricName : Option String

/-- The values that are read off the samples, before they are checked. -/
def readMetrics (samples : List PrometheusSample) (roomId : String) : MetricKey → Option ℚ
  | .snapshotInflight => metricValue samples "game_snapshot_inflight" roomId false
  | .snapshotPending => metricValue samples "game_snapshot_pending" roomId false
  | .snapshotWriteDurationSeconds => metricValue samples "game_snapshot_write_duration_seconds" roomId false
  | .snapshotFailuresTotal => metricValue samples "game_snapshot_failures_total" roomId false
  | .snapshotTimeoutsTotal => metricValue samples "game_snapshot_timeouts_total" roomId false
  | .snapshotCircuitOpen => metricValue samples "game_snapshot_circuit_open" roomId false
  | .snapshotHandoffEnabled => metricValue samples "game_snapshot_handoff_enabled" roomId false
  | .tickRate => metricValue samples "game_tick_rate" roomId false
  | .memoryWorkingSetBytes =>
    (metricValue samples "container_memory_working_set_bytes" roomId true).or
      (metricValue samples "process_resident_memory_bytes" roomId true)

/-- The keys whose values must be safe integers. -/
def integerKeys : List MetricKey :=
  [.snapshotInflight, .snapshotPending, .snapshotFailuresTotal, .snapshotTimeoutsTotal, .snapshotCircuitOpen,
   .snapshotHandoffEnabled, .memoryWorkingSetBytes]

/-- The first key whose value does not pass. -/
def firstInvalid (value : MetricKey → Option ℚ) : Option MetricKey :=
  let keys := requiredMetricNames.map Prod.fst
  (keys.find? fun key => (value key).any fun v => decide (v < 0)).or
    ((integerKeys.find? fun key => (value key).any fun v => !(decide (v.den = 1) && isSafeInteger v.num)).or
      ([MetricKey.snapshotCircuitOpen, .snapshotHandoffEnabled].find? fun key =>
        (value key).any fun v => decide (v ≠ 0 ∧ v ≠ 1)))

def metricObservation (platform : Platform) (scrape : CanaryMetricsScrape) (roomId : String) :
    Except String MetricObservation :=
  if (platform.dateParse scrape.observedAt).isNone then .error "canary_metrics_timestamp_invalid"
  else
    match scrape.samples with
    | .error message => .error message
    | .ok samples =>
      let container := metricValue samples "container_memory_working_set_bytes" roomId true
      let process := metricValue samples "process_resident_memory_bytes" roomId true
      let value := readMetrics samples roomId
      match firstInvalid value with
      | some key => .error ("canary_metric_invalid:" ++ key.field)
      | none => .ok {
          observedAt := scrape.observedAt
          value := value
          memoryMetricName :=
            if container.isSome then some "container_memory_working_set_bytes"
            else if process.isSome then some "process_resident_memory_bytes"
            else none }

/-! ### Gates -/

structure CanaryValidationOptions where
  readinessTimeoutMs : Int
  maxReadinessPolls : Nat
  validationPolls : Nat
  botCount : Int
  maxSnapshotInflight : ℚ
  maxSnapshotPending : ℚ
  maxSnapshotWriteDurationSeconds : ℚ
  maxSnapshotFailuresTotal : ℚ
  maxSnapshotTimeoutsTotal : ℚ
  minimumTickRate : ℚ
  memoryPressureRatio : ℚ
  maxMemoryRatio : ℚ

inductive GateComparator
  | atMost
  | atLeast

/-- What the memory gate says about its ratio. -/
structure MemoryDetails where
  workingSetBytes : Option ℚ
  memoryLimitBytes : Option Int
  metricSource : Option String

/-- A gate; a value that is no number does not pass. -/
structure MetricGate where
  metricName : String
  observedValue : Option ℚ
  thresholdValue : ℚ
  comparator : GateComparator
  passed : Bool
  details : Option MemoryDetails := none

/-- `Math.max` of a metric over the polls; no number when a poll misses it. -/
def maximum (observations : List MetricObservation) (key : MetricKey) : Option ℚ :=
  if observations.all fun observation => (observation.value key).isSome then
    (observations.filterMap fun observation => observation.value key).max?
  else none

def minimum (observations : List MetricObservation) (key : MetricKey) : Option ℚ :=
  if observations.all fun observation => (observation.value key).isSome then
    (observations.filterMap fun observation => observation.value key).min?
  else none

def gateAtMost (metricName : String) (observedValue : Option ℚ) (thresholdValue : ℚ) : MetricGate where
  metricName := metricName
  observedValue := observedValue
  thresholdValue := thresholdValue
  comparator := .atMost
  passed := observedValue.any fun v => decide (v ≤ thresholdValue)

def gateAtLeast (metricName : String) (observedValue : Option ℚ) (thresholdValue : ℚ) : MetricGate where
  metricName := metricName
  observedValue := observedValue
  thresholdValue := thresholdValue
  comparator := .atLeast
  passed := observedValue.any fun v => decide (thresholdValue ≤ v)

/-- The greatest working set of all polls, as a share of the memory limit of the pod that was observed last. -/
def memoryRatio (observations : List MetricObservation) (pod : CanaryPodObservation) : Option ℚ := do
  let used ← maximum observations .memoryWorkingSetBytes
  let limit ← pod.memoryLimitBytes
  return used / limit

def metricGates (options : CanaryValidationOptions) (observations : List MetricObservation)
    (pod : CanaryPodObservation) : List MetricGate :=
  [gateAtMost "game_snapshot_inflight" (maximum observations .snapshotInflight) options.maxSnapshotInflight,
   gateAtMost "game_snapshot_pending" (maximum observations .snapshotPending) options.maxSnapshotPending,
   gateAtMost "game_snapshot_write_duration_seconds" (maximum observations .snapshotWriteDurationSeconds)
     options.maxSnapshotWriteDurationSeconds,
   gateAtMost "game_snapshot_failures_total" (maximum observations .snapshotFailuresTotal)
     options.maxSnapshotFailuresTotal,
   gateAtMost "game_snapshot_timeouts_total" (maximum observations .snapshotTimeoutsTotal)
     options.maxSnapshotTimeoutsTotal,
   gateAtMost "game_snapshot_circuit_open" (maximum observations .snapshotCircuitOpen) 0,
   gateAtLeast "game_snapshot_handoff_enabled" (minimum observations .snapshotHandoffEnabled) 1,
   gateAtLeast "game_tick_rate" (minimum observations .tickRate) options.minimumTickRate,
   { gateAtMost "canary_memory_working_set_ratio" (memoryRatio observations pod) options.maxMemoryRatio with
     details := some {
       workingSetBytes := maximum observations .memoryWorkingSetBytes
       memoryLimitBytes := pod.memoryLimitBytes
       metricSource := observations.getLast?.bind MetricObservation.memoryMetricName } }]

/-! ### Within the thresholds -/

/-- Every required metric but the memory is present and within its threshold. -/
structure MetricsWithin (options : CanaryValidationOptions) (observation : MetricObservation) : Prop where
  inflight : ∃ v, observation.value .snapshotInflight = some v ∧ v ≤ options.maxSnapshotInflight
  pending : ∃ v, observation.value .snapshotPending = some v ∧ v ≤ options.maxSnapshotPending
  writeDuration : ∃ v, observation.value .snapshotWriteDurationSeconds = some v ∧
    v ≤ options.maxSnapshotWriteDurationSeconds
  failures : ∃ v, observation.value .snapshotFailuresTotal = some v ∧ v ≤ options.maxSnapshotFailuresTotal
  timeouts : ∃ v, observation.value .snapshotTimeoutsTotal = some v ∧ v ≤ options.maxSnapshotTimeoutsTotal
  circuit : ∃ v, observation.value .snapshotCircuitOpen = some v ∧ v ≤ 0
  handoff : ∃ v, observation.value .snapshotHandoffEnabled = some v ∧ 1 ≤ v
  tickRate : ∃ v, observation.value .tickRate = some v ∧ options.minimumTickRate ≤ v

/-- The working set is within the threshold share of the memory limit of the pod it was read with. -/
def MemoryWithin (options : CanaryValidationOptions) (pod : CanaryPodObservation) (observation : MetricObservation) :
    Prop :=
  ∃ used limit, observation.value .memoryWorkingSetBytes = some used ∧ pod.memoryLimitBytes = some limit ∧
    used / limit ≤ options.maxMemoryRatio

theorem observedIsolationError_eq_none_iff {observation : CanaryPodObservation} {target : CanaryValidationTarget}
    {policy : CanaryIsolationPolicy} :
    observedIsolationError observation target policy = none ↔ Isolated observation target policy := by
  constructor
  · intro h
    simp only [observedIsolationError] at h
    split_ifs at h with hid hrevision hroom hfleet hpublic hmatchmaking hprefix hdatabase
    push Not at hid hrevision hroom hfleet hprefix hdatabase
    exact ⟨hid, hrevision, hroom, hfleet, ⟨by simpa using hpublic, by simpa using hmatchmaking⟩, hprefix, hdatabase⟩
  · intro h
    simp [observedIsolationError, h.canaryId, h.revision, h.room.1, ← h.room.2, h.fleet, h.hidden.1, h.hidden.2,
      h.redisKeyPrefix, ← h.redisDatabase.1, h.redisDatabase.2]

theorem exists_of_forall₂ {α β : Type} {R : α → β → Prop} {xs : List α} {ys : List β}
    (h : List.Forall₂ R xs ys) : ∀ x ∈ xs, ∃ y ∈ ys, R x y := by
  induction h with
  | nil => exact fun x hx => absurd hx List.not_mem_nil
  | cons hhead _ ih =>
    intro x hx
    rcases List.mem_cons.1 hx with rfl | hx
    · exact ⟨_, List.mem_cons_self, hhead⟩
    · obtain ⟨y, hy, hxy⟩ := ih x hx
      exact ⟨y, List.mem_cons_of_mem _ hy, hxy⟩

/-- The worst value of a metric is within a threshold just when every poll has one that is; the worst is the greatest or
the least. -/
private theorem worst_any_iff {worst : List ℚ → Option ℚ} (hnil : ∀ xs, worst xs = none ↔ xs = []) {within : ℚ → Bool}
    (hworst : ∀ xs a, worst xs = some a → (within a = true ↔ ∀ b ∈ xs, within b = true))
    (observations : List MetricObservation) (key : MetricKey) :
    ((if observations.all fun observation => (observation.value key).isSome then
        worst (observations.filterMap fun observation => observation.value key)
      else none).any within) = true ↔
      observations ≠ [] ∧ ∀ observation ∈ observations, ∃ v, observation.value key = some v ∧ within v = true := by
  by_cases hall : (observations.all fun observation => (observation.value key).isSome) = true
  · rw [if_pos hall]
    have hsome : ∀ observation ∈ observations, ∃ v, observation.value key = some v :=
      fun observation hmem => Option.isSome_iff_exists.1 (List.all_eq_true.1 hall observation hmem)
    cases hvalue : worst (observations.filterMap fun observation => observation.value key) with
    | none =>
      have hempty := (hnil _).1 hvalue
      have hno : observations = [] := by
        rw [List.eq_nil_iff_forall_not_mem]
        intro observation hmem
        obtain ⟨v, hv⟩ := hsome observation hmem
        have : v ∈ observations.filterMap fun observation => observation.value key :=
          List.mem_filterMap.2 ⟨observation, hmem, hv⟩
        rw [hempty] at this
        cases this
      simp [hno]
    | some value =>
      have hne : observations ≠ [] := by
        rintro rfl
        rw [List.filterMap_nil, (hnil []).2 rfl] at hvalue
        cases hvalue
      rw [Option.any_some, hworst _ _ hvalue]
      constructor
      · intro h
        refine ⟨hne, fun observation hmem => ?_⟩
        obtain ⟨v, hv⟩ := hsome observation hmem
        exact ⟨v, hv, h v (List.mem_filterMap.2 ⟨observation, hmem, hv⟩)⟩
      · rintro ⟨-, h⟩ v hmem
        obtain ⟨observation, hobservation, hv⟩ := List.mem_filterMap.1 hmem
        obtain ⟨v', hv', hwithin⟩ := h observation hobservation
        rw [hv] at hv'
        cases hv'
        exact hwithin
  · rw [if_neg hall]
    refine iff_of_false (by simp) fun h => hall (List.all_eq_true.2 fun observation hmem => ?_)
    obtain ⟨v, hv, -⟩ := h.2 observation hmem
    rw [hv]
    rfl

private theorem gateAtMost_passed (metricName : String) (observations : List MetricObservation) (key : MetricKey)
    (threshold : ℚ) : (gateAtMost metricName (maximum observations key) threshold).passed = true ↔
      observations ≠ [] ∧ ∀ observation ∈ observations, ∃ v, observation.value key = some v ∧ v ≤ threshold := by
  refine (worst_any_iff (fun _ => List.max?_eq_none_iff) (fun xs a h => ?_) observations key).trans ?_
  · rw [decide_eq_true_eq, List.max?_le_iff h]
    simp only [decide_eq_true_eq]
  · simp only [decide_eq_true_eq]

private theorem gateAtLeast_passed (metricName : String) (observations : List MetricObservation) (key : MetricKey)
    (threshold : ℚ) : (gateAtLeast metricName (minimum observations key) threshold).passed = true ↔
      observations ≠ [] ∧ ∀ observation ∈ observations, ∃ v, observation.value key = some v ∧ threshold ≤ v := by
  refine (worst_any_iff (fun _ => List.min?_eq_none_iff) (fun xs a h => ?_) observations key).trans ?_
  · rw [decide_eq_true_eq, List.le_min?_iff h]
    simp only [decide_eq_true_eq]
  · simp only [decide_eq_true_eq]

/-- The greatest working set is within the threshold share of the last limit just when every poll's is. -/
theorem memoryRatio_within_iff (options : CanaryValidationOptions) (observations : List MetricObservation)
    (pod : CanaryPodObservation) {limit : Int} (hlimit : pod.memoryLimitBytes = some limit) (hpos : 0 < limit) :
    ((memoryRatio observations pod).any fun v => decide (v ≤ options.maxMemoryRatio)) = true ↔
      observations ≠ [] ∧ ∀ observation ∈ observations, ∃ used, observation.value .memoryWorkingSetBytes = some used ∧
        used / limit ≤ options.maxMemoryRatio := by
  have hbound : (0 : ℚ) < limit := by exact_mod_cast hpos
  have hratio : ((memoryRatio observations pod).any fun v => decide (v ≤ options.maxMemoryRatio)) =
      (maximum observations .memoryWorkingSetBytes).any fun used => decide (used / limit ≤ options.maxMemoryRatio) := by
    unfold memoryRatio
    rw [hlimit]
    cases maximum observations .memoryWorkingSetBytes with
    | none => rfl
    | some used => rfl
  rw [hratio]
  refine (worst_any_iff (fun _ => List.max?_eq_none_iff) (fun xs a h => ?_) observations _).trans ?_
  · simp only [decide_eq_true_eq, div_le_iff₀ hbound]
    exact List.max?_le_iff h
  · simp only [decide_eq_true_eq]

/-- All gates pass just when every poll is within the thresholds and the memory ratio is. -/
theorem metricGates_passed_iff (options : CanaryValidationOptions) (observations : List MetricObservation)
    (pod : CanaryPodObservation) : (∀ gate ∈ metricGates options observations pod, gate.passed = true) ↔
      observations ≠ [] ∧ (∀ observation ∈ observations, MetricsWithin options observation) ∧
        ((memoryRatio observations pod).any fun v => decide (v ≤ options.maxMemoryRatio)) = true := by
  simp only [metricGates, List.forall_mem_cons, gateAtMost_passed, gateAtLeast_passed]
  constructor
  · rintro ⟨h₁, h₂, h₃, h₄, h₅, h₆, h₇, h₈, h₉, -⟩
    refine ⟨h₁.1, fun observation hmem => ?_, h₉⟩
    exact ⟨h₁.2 observation hmem, h₂.2 observation hmem, h₃.2 observation hmem, h₄.2 observation hmem,
      h₅.2 observation hmem, h₆.2 observation hmem, h₇.2 observation hmem, h₈.2 observation hmem⟩
  · rintro ⟨hne, hwithin, h₉⟩
    exact ⟨⟨hne, fun o h => (hwithin o h).inflight⟩, ⟨hne, fun o h => (hwithin o h).pending⟩,
      ⟨hne, fun o h => (hwithin o h).writeDuration⟩, ⟨hne, fun o h => (hwithin o h).failures⟩,
      ⟨hne, fun o h => (hwithin o h).timeouts⟩, ⟨hne, fun o h => (hwithin o h).circuit⟩,
      ⟨hne, fun o h => (hwithin o h).handoff⟩, ⟨hne, fun o h => (hwithin o h).tickRate⟩, h₉,
      fun gate hgate => absurd hgate List.not_mem_nil⟩

end Canary

end Opsia
