import Opsia.Machine
import Opsia.Json.Value
import Mathlib.Data.List.Basic
import Mathlib.Data.List.Range
import Mathlib.Data.List.Perm.Basic

/-!
# The bounded snapshot writer

`BoundedSnapshotWriter` runs one physical write at a time and keeps at most one pending task; later requests are merged
into it.  The model is a step function on the writer's state.  A step is one piece of code that the event loop runs
without interruption: a call of `request`, the start and the settling of a physical write, the timer, the microtask that
decides a race, the three continuations of the run loop (after the result, after the settling, and the `finally` that
clears the loop).  What the factory builds is given by the event in which it is called.  Real time is not modelled: the
clock is read from the event, and the timer of a write may fire at any moment before the write settles.

The fields behind the comment `-- history` are not in the source; they record what has happened.
-/

namespace Opsia

structure SnapshotRuntimeConfig where
  maxPayloadBytes : Nat
  failureThreshold : Nat
  circuitCooldownMs : Nat

/-- A player in a snapshot; only the session is looked at, the rest is one value. -/
structure LoosePlayerState where
  sessionId : String
  state : Json.JsValue
deriving DecidableEq

/-- The parts of an envelope that the writer and the store look at. -/
structure SnapshotView where
  roomEpoch : Nat
  serverTick : Nat
  snapshotTick : Nat := 0
  checksum : String
  players : List LoosePlayerState := []
deriving DecidableEq

/-- What a factory and `createSnapshotEnvelope` give. -/
structure BuiltSnapshot extends SnapshotView where
  payloadBytes : Nat
deriving DecidableEq

inductive SaveStatus
  | saved
  | failed
  | timeout
  | circuitOpen
deriving DecidableEq

structure SnapshotSaveResult where
  status : SaveStatus
  checksum : Option String := none
  payloadBytes : Option Nat := none
  durationMs : Option Nat := none
  error : Option String := none
deriving DecidableEq

def circuitOpenResult : SnapshotSaveResult := { status := .circuitOpen, error := some "snapshot_circuit_open" }

structure SnapshotWriterMetrics where
  roomEpoch : Nat := 0
  serverTick : Nat := 0
  inflight : Nat := 0
  pending : Nat := 0
  payloadBytes : Nat := 0
  writeDurationMs : Nat := 0
  coalescedTotal : Nat := 0
  failuresTotal : Nat := 0
  timeoutsTotal : Nat := 0
  consecutiveFailures : Nat := 0
  circuitOpen : Bool := false
  handoffEnabled : Bool := true
  oldestPendingAgeMs : Nat := 0
  lastChecksum : Option String := none
  lastError : Option String := none
deriving DecidableEq

/-- A task; waiters and tasks are named by the number of the request that made them. -/
structure PendingWrite where
  request : Nat
  requestedAt : Nat
  waiters : List Nat
deriving DecidableEq

inductive Physical
  | queued
  | outstanding
  | settled
deriving DecidableEq

/-- What settled the race between the write and its timer. -/
inductive RaceOutcome
  | saved
  | failed (message : String)
  | timeout
deriving DecidableEq

/-- One call of `execute`. -/
structure Execution where
  task : PendingWrite
  startedAt : Nat
  built : Option BuiltSnapshot
  physical : Physical
  race : Option RaceOutcome := none
  result : Option SnapshotSaveResult := none
deriving DecidableEq

/-- Where the run loop stands; `finishing` is after its exit check, before the `finally`. -/
inductive RunLoop
  | idle
  | awaitResult (execution : Nat)
  | awaitSettled (execution : Nat)
  | finishing
deriving DecidableEq

structure Writer where
  metrics : SnapshotWriterMetrics := {}
  loop : RunLoop := .idle
  pending : Option PendingWrite := none
  circuitOpenUntil : Nat := 0
  inFlightStartedAt : Nat := 0
  -- history
  executions : List Execution := []
  requests : Nat := 0
  resolved : List (Nat × SnapshotSaveResult) := []
deriving DecidableEq

inductive WriterEvent
  | request (now : Nat) (build : Except String BuiltSnapshot)
  | flush
  | writeStart (execution : Nat)
  | settle (execution : Nat) (outcome : Except String Unit)
  | timer (execution : Nat)
  | decide (execution : Nat) (now : Nat)
  | deliver
  | exitCheck (now : Nat) (build : Except String BuiltSnapshot)
  | finish

namespace Writer

variable (config : SnapshotRuntimeConfig)

def recordFailure (m : SnapshotWriterMetrics) (circuitOpenUntil : Nat) (message : String) (status : SaveStatus)
    (startedAt now : Nat) : SnapshotWriterMetrics × Nat × SnapshotSaveResult :=
  let m := { m with
    writeDurationMs := now - startedAt
    failuresTotal := m.failuresTotal + 1
    consecutiveFailures := m.consecutiveFailures + 1
    lastError := some message }
  let result : SnapshotSaveResult := { status, error := some message, durationMs := some (now - startedAt) }
  if config.failureThreshold ≤ m.consecutiveFailures then
    ({ m with circuitOpen := true, handoffEnabled := false }, now + config.circuitCooldownMs, result)
  else (m, circuitOpenUntil, result)

/-- The payload limit inside `execute`. -/
def checkSize (build : Except String BuiltSnapshot) : Except String BuiltSnapshot :=
  match build with
  | .ok b => if config.maxPayloadBytes < b.payloadBytes then .error "snapshot_payload_too_large" else .ok b
  | .error message => .error message

/-- `execute`, up to its first asynchronous step. -/
def execute (w : Writer) (task : PendingWrite) (now : Nat) (build : Except String BuiltSnapshot) : Writer :=
  match checkSize config build with
  | .ok b =>
    { w with
      metrics := { w.metrics with payloadBytes := b.payloadBytes, roomEpoch := b.roomEpoch, serverTick := b.serverTick }
      executions := w.executions ++ [{ task, startedAt := now, built := some b, physical := .queued }] }
  | .error message =>
    let (metrics, circuitOpenUntil, result) := recordFailure config w.metrics w.circuitOpenUntil message .failed now now
    { w with
      metrics, circuitOpenUntil
      executions :=
        w.executions ++ [{ task, startedAt := now, built := none, physical := .settled, result := some result }] }

/-- One round of the run loop, up to its first `await`. -/
def startRound (w : Writer) (task : PendingWrite) (now : Nat) (build : Except String BuiltSnapshot) : Writer :=
  let w := { w with
    inFlightStartedAt := now
    metrics := { w.metrics with inflight := 1, pending := w.pending.toList.length } }
  { execute config w task now build with loop := .awaitResult w.executions.length }

/-- Merges a task into the pending one. -/
def coalesce (w : Writer) (task : PendingWrite) : Writer :=
  let task : PendingWrite :=
    match w.pending with
    | some replaced => { task with requestedAt := replaced.requestedAt, waiters := replaced.waiters ++ task.waiters }
    | none => task
  { w with
    pending := some task
    metrics := { w.metrics with pending := 1, coalescedTotal := w.metrics.coalescedTotal + 1 } }

def request (w : Writer) (now : Nat) (build : Except String BuiltSnapshot) : Writer :=
  let id := w.requests
  let w := { w with requests := w.requests + 1 }
  if now < w.circuitOpenUntil then { w with resolved := w.resolved ++ [(id, circuitOpenResult)] }
  else
    let w := { w with metrics := { w.metrics with circuitOpen := false } }
    let task : PendingWrite := { request := id, requestedAt := now, waiters := [id] }
    match w.loop with
    | .idle => startRound config w task now build
    | _ => coalesce w task

/-- Resolves the waiters of a task. -/
def resolve (w : Writer) (task : PendingWrite) (result : SnapshotSaveResult) : Writer :=
  { w with resolved := w.resolved ++ task.waiters.map fun n => (n, result) }

/-- The microtask in which the race of an execution becomes its result. -/
def decideRace (w : Writer) (i : Nat) (e : Execution) (outcome : RaceOutcome) (now : Nat) : Writer :=
  match outcome with
  | .saved =>
    let metrics := { w.metrics with
      writeDurationMs := now - e.startedAt
      consecutiveFailures := 0
      circuitOpen := false
      handoffEnabled := true
      lastChecksum := e.built.map fun b => b.checksum
      lastError := none }
    let result : SnapshotSaveResult :=
      { status := .saved, checksum := e.built.map fun b => b.checksum, payloadBytes := some w.metrics.payloadBytes,
        durationMs := some (now - e.startedAt) }
    { w with metrics, circuitOpenUntil := 0, executions := w.executions.set i { e with result := some result } }
  | .timeout =>
    let m := { w.metrics with timeoutsTotal := w.metrics.timeoutsTotal + 1 }
    let (metrics, circuitOpenUntil, result) :=
      recordFailure config m w.circuitOpenUntil "snapshot_write_timeout" .timeout e.startedAt now
    { w with metrics, circuitOpenUntil, executions := w.executions.set i { e with result := some result } }
  | .failed message =>
    let (metrics, circuitOpenUntil, result) :=
      recordFailure config w.metrics w.circuitOpenUntil message .failed e.startedAt now
    { w with metrics, circuitOpenUntil, executions := w.executions.set i { e with result := some result } }

/-- The loop after a write has settled: take the pending task, refuse it, or leave. -/
def afterSettled (w : Writer) (now : Nat) (build : Except String BuiltSnapshot) : Writer :=
  let current := w.pending
  let w := { w with pending := none, metrics := { w.metrics with pending := 0 } }
  match current with
  | none => { w with loop := .finishing }
  | some task =>
    if now < w.circuitOpenUntil then { resolve w task circuitOpenResult with loop := .finishing }
    else startRound config w task now build

/-- Changes one execution. -/
def onExecution (w : Writer) (i : Nat) (f : Execution → Option Execution) : Option Writer :=
  (w.executions[i]?.bind f).map fun e => { w with executions := w.executions.set i e }

def step (w : Writer) : WriterEvent → Option Writer
  | .request now build => some (w.request config now build)
  | .flush => some w
  | .writeStart i => w.onExecution i fun e =>
    if e.physical = .queued then some { e with physical := .outstanding } else none
  | .settle i outcome => w.onExecution i fun e =>
    if e.physical = .outstanding then
      let lost := match outcome with
        | .ok () => RaceOutcome.saved
        | .error message => .failed message
      some { e with physical := .settled, race := e.race.or (some lost) }
    else none
  | .timer i => w.onExecution i fun e =>
    if e.race = none ∧ e.result = none then some { e with race := some .timeout } else none
  | .decide i now =>
    match w.executions[i]? with
    | some e =>
      match e.race, e.result with
      | some outcome, none => some (w.decideRace config i e outcome now)
      | _, _ => none
    | none => none
  | .deliver =>
    match w.loop with
    | .awaitResult i =>
      match w.executions[i]? with
      | some e => e.result.map fun r => { w.resolve e.task r with loop := .awaitSettled i }
      | none => none
    | _ => none
  | .exitCheck now build =>
    match w.loop with
    | .awaitSettled i =>
      match w.executions[i]? with
      | some e => if e.physical = .settled then some (w.afterSettled config now build) else none
      | none => none
    | _ => none
  | .finish =>
    match w.loop with
    | .finishing => some { w with
        loop := .idle
        inFlightStartedAt := 0
        metrics := { w.metrics with inflight := 0, pending := w.pending.toList.length } }
    | _ => none

/-- `metrics()`. -/
def readMetrics (w : Writer) (now : Nat) : SnapshotWriterMetrics :=
  { w.metrics with
    handoffEnabled := !w.metrics.circuitOpen && decide (w.metrics.consecutiveFailures < config.failureThreshold)
    oldestPendingAgeMs :=
      match w.pending with
      | some task => now - task.requestedAt
      | none => 0 }

end Writer

end Opsia
