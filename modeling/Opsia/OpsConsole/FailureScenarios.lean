import Mathlib.Logic.Function.Basic
import Opsia.Json.Record
import Opsia.Machine
import Opsia.OpsConsole.AdmissionLoad

/-!
# The failure scenarios of the operations console

`FailureScenarioController` keeps one active run a room.  Its methods wait for other services in many places, and what
goes on behind such a wait holds a run and a room id and writes to the map of active runs by the room id: the answer of
a start sets the run (or deletes the entry, when it failed), the answer of a job poll sets it, the end of a surge poll
sets it where there is an entry, and completing a run deletes the entry.  A `SuspendedCall` is a call that waits, cut
where the source awaits an answer; between two waits a call goes on without interruption.  Runs are objects that change
in place, so the map holds ids of runs.  The evidence of a run, but for the two fields that tell what a stop of the load
came upon, and the bot inventory are left out: nothing depends on them.  Times are in milliseconds.
-/

namespace Opsia

open Json

inductive FailureScenarioId
  | admissionLock
  | botSurge
  | maliciousInput
  | admissionStorm
  | processCrash
  | podFailure
deriving DecidableEq

inductive FailureScenarioStatus
  | starting
  | active
  | recovering
  | failed
deriving DecidableEq

structure MutableRun where
  scenarioId : FailureScenarioId
  status : FailureScenarioStatus
  startedAt : Int
  jobId : Option String := none
  autoRecoverAtMs : Option Int := none
  jobIds : List String := []
  surgeBotsRequested : Option Int := none
  surgeMaxBots : Option Int := none
  surgeNextRampAtMs : Option Int := none
  surgeHoldUntilMs : Option Int := none
  surgePeakTickP95Ms : Option Rat := none

inductive BotJobState
  | running
  | completed
  | cancelled
  | failed
deriving DecidableEq

structure BotJob where
  jobId : String
  state : BotJobState

/-- What the controller reads of a room. -/
structure AdminRoom where
  id : String
  maxPlayers : Int
  players : Int
  status : String
  podHealthy : Bool
  tickP95Ms : Rat

inductive FailureScenarioError
  | upstream (status : Nat) (error : String) (activeScenarioId : Option FailureScenarioId) (roomStatus : Option String)
  | error (message : String)

structure FailureScenarioResult where
  atMs : Int
  message : String

inductive FailureScenarioAction
  | start
  | recover
deriving DecidableEq

inductive FailureScenarioActionStatus
  | active
  | recovering
  | completed
deriving DecidableEq

structure FailureScenarioActionResult where
  roomId : String
  scenarioId : FailureScenarioId
  action : FailureScenarioAction
  status : FailureScenarioActionStatus
  message : String
  idempotent : Bool := false
  loadStopped : Bool := false
deriving DecidableEq

def botSurgeInitialSize : Int := 25
def botSurgeRampSize : Int := 10
def botSurgeMaxAdditionalBots : Int := 60
def botSurgeReservedPlayerSlots : Int := 10
def botSurgeTargetTickP95Ms : Rat := 60
def botSurgeRampIntervalMs : Int := 3000
def botSurgeHoldMs : Int := 10000

def scenarioConflict (active : MutableRun) : FailureScenarioError :=
  .upstream 409 "scenario_already_active" (some active.scenarioId) none

abbrev RunId := Nat

/-- An id that counts as given: the empty text does not. -/
def given (jobId : Option String) : Option String := jobId.filter fun id => decide (id ≠ "")

/-- `run.jobIds?.length ? run.jobIds : run.jobId ? [run.jobId] : []` -/
def MutableRun.allJobIds (run : MutableRun) : List String :=
  if run.jobIds = [] then (given run.jobId).toList else run.jobIds

structure FailureScenarioController where
  activeRuns : Fields RunId
  runs : RunId → MutableRun
  runCount : Nat
  advancingBotSurges : List String
  lastResults : Fields (List (FailureScenarioId × FailureScenarioResult))
  admissionLoad : AdmissionLoadController
  now : Int
  /-- The runs that were completed or recovered or have failed: a history that the controller itself does not keep. -/
  ended : List RunId

/-- Where a call that holds a run waits. -/
inductive AwaitPoint
  | startJoinLock
  | startSurge (count maxBots : Int) (tickP95Ms : Rat)
  | startMalicious
  | startProcessCrash
  | startPodFailure
  | recovery
  | jobPoll
  | health (phase : AdmissionLoadPhase)
  | surgePoll (tickP95Ms : Rat) (jobIds : List String)
  | surgeCleanup
  | surgeRamp (count requestedBots : Int) (jobIds : List String) (now : Int)

/-- A call that waits, with what it holds: its room, its run, and the `getState` call it belongs to. -/
structure SuspendedCall where
  roomId : String
  run : RunId
  refresh : Option Nat
  point : AwaitPoint

/-- How far a call comes before it waits or ends. -/
inductive CallOutcome
  | returned (result : Except FailureScenarioError FailureScenarioActionResult)
  | settled
  | suspended (call : SuspendedCall)

namespace FailureScenarioController

def init (options : AdmissionLoadOptions) : FailureScenarioController where
  activeRuns := []
  runs := fun _ => { scenarioId := .admissionLock, status := .failed, startedAt := 0 }
  runCount := 0
  advancingBotSurges := []
  lastResults := []
  admissionLoad := .create options
  now := 0
  ended := []

variable (c : FailureScenarioController)

/-! ### Shared steps -/

def modifyRun (run : RunId) (f : MutableRun → MutableRun) : FailureScenarioController :=
  { c with runs := Function.update c.runs run (f (c.runs run)) }

def setStatus (run : RunId) (status : FailureScenarioStatus) : FailureScenarioController :=
  c.modifyRun run fun r => { r with status }

def remember (roomId : String) (scenarioId : FailureScenarioId) (message : String) : FailureScenarioController :=
  let others := ((c.lastResults.get? roomId).getD []).filter fun result => decide (result.1 ≠ scenarioId)
  { c with lastResults := c.lastResults.put roomId (others ++ [(scenarioId, { atMs := c.now, message })]) }

def completed (roomId : String) (scenarioId : FailureScenarioId) (message : String) (idempotent loadStopped : Bool) :
    FailureScenarioActionResult where
  roomId := roomId
  scenarioId := scenarioId
  action := .recover
  status := .completed
  message := message
  idempotent := idempotent
  loadStopped := loadStopped

/-- Deletes the entry of the room and remembers how the run ended. -/
def endRun (roomId : String) (run : RunId) (message : String) : FailureScenarioController :=
  let deleted := { c with activeRuns := c.activeRuns.remove roomId, ended := c.ended ++ [run] }
  deleted.remember roomId (c.runs run).scenarioId message

def completeRun (roomId : String) (run : RunId) (message : String) (loadStopped : Bool) :
    FailureScenarioActionResult × FailureScenarioController :=
  (completed roomId (c.runs run).scenarioId message false loadStopped, c.endRun roomId run message)

def started (roomId : String) (run : RunId) (message : String) :
    FailureScenarioActionResult × FailureScenarioController :=
  ({ roomId, scenarioId := (c.runs run).scenarioId, action := .start
     status := if (c.runs run).status = .recovering then .recovering else .active, message },
   { c with activeRuns := c.activeRuns.put roomId run })

/-- Ends the runs that a condition picks out of the active ones. -/
def endWhere (p : MutableRun → Bool) (message : String) : FailureScenarioController :=
  c.activeRuns.foldl (fun c' entry => if p (c.runs entry.2) then c'.endRun entry.1 entry.2 message else c') c

/-- A run other than a surge that has an `autoRecoverAtMs` (zero counts as none), and that time has come. -/
def expired (now : Int) (run : MutableRun) : Bool :=
  match run.autoRecoverAtMs with
  | none => false
  | some autoRecoverAtMs =>
    decide (run.scenarioId ≠ .botSurge) && decide (autoRecoverAtMs ≠ 0) && decide (autoRecoverAtMs ≤ now)

def expireAutomaticRuns : FailureScenarioController :=
  c.endWhere (expired c.now) "입장 rate limit과 예약 슬롯이 자동 복구됐습니다."

def scenarioFailedMessage : String := "시나리오 실행이 실패했습니다. 새 시나리오를 다시 실행할 수 있습니다."

/-! ### Starting a run -/

/-- The handler of a start that throws. -/
def startFailed (roomId : String) (run : RunId) (error : FailureScenarioError) :
    CallOutcome × FailureScenarioController :=
  (.returned (.error error), { c with activeRuns := c.activeRuns.remove roomId, ended := c.ended ++ [run] })

def startedOutcome (roomId : String) (run : RunId) (message : String) : CallOutcome × FailureScenarioController :=
  let result := c.started roomId run message
  (.returned (.ok result.1), result.2)

/-- Another room has an active admission storm. -/
def stormElsewhere (roomId : String) : Bool :=
  c.activeRuns.any fun entry => decide (entry.1 ≠ roomId) && decide ((c.runs entry.2).scenarioId = .admissionStorm)

/-- The body of `start` with the run it has created. -/
def startRun (room : AdminRoom) (run : RunId) (scalingAvailable : Bool) (uuid : String) :
    CallOutcome × FailureScenarioController :=
  let wait (point : AwaitPoint) : CallOutcome × FailureScenarioController :=
    (.suspended { roomId := room.id, run, refresh := none, point }, c)
  match (c.runs run).scenarioId with
  | .admissionLock => wait .startJoinLock
  | .botSurge =>
    let available := max 0 (room.maxPlayers - room.players - botSurgeReservedPlayerSlots)
    let maxBots := min botSurgeMaxAdditionalBots available
    let count := min botSurgeInitialSize maxBots
    if count < 1 then c.startFailed room.id run (.upstream 409 "room_has_no_bot_capacity" none none)
    else wait (.startSurge count maxBots room.tickP95Ms)
  | .maliciousInput => wait .startMalicious
  | .admissionStorm =>
    if c.stormElsewhere room.id then c.startFailed room.id run (.error "admission_load_already_running")
    else
      match c.admissionLoad.start room.id uuid c.now with
      | (.error message, load) => ({ c with admissionLoad := load }).startFailed room.id run (.error message)
      | (.ok job, load) =>
        (({ c with admissionLoad := load }).modifyRun run fun r =>
          { r with jobId := some job.jobId, status := .active }).startedOutcome room.id run
            (toString job.targetRps ++ " RPS부터 실패가 재현될 때까지 로비 입장 부하를 빠르게 올립니다.")
  | .processCrash => wait .startProcessCrash
  | .podFailure =>
    if scalingAvailable then wait .startPodFailure
    else c.startFailed room.id run (.upstream 409 "pod_failure_requires_kubernetes" none none)

/-- Creates a run, makes it the active one of the room, and starts it. -/
def startNew (room : AdminRoom) (scenarioId : FailureScenarioId) (scalingAvailable : Bool) (uuid : String) :
    CallOutcome × FailureScenarioController :=
  let run := c.runCount
  let created : FailureScenarioController :=
    { c with
      runs := Function.update c.runs run { scenarioId, status := .starting, startedAt := c.now }
      runCount := c.runCount + 1
      activeRuns := c.activeRuns.put room.id run }
  created.startRun room run scalingAvailable uuid

def start (room : AdminRoom) (scenarioId : FailureScenarioId) (scalingAvailable : Bool) (uuid : String) :
    CallOutcome × FailureScenarioController :=
  let c := c.expireAutomaticRuns
  match c.activeRuns.get? room.id with
  | none => c.startNew room scenarioId scalingAvailable uuid
  | some existing =>
    if (c.runs existing).status = .failed then
      (c.endRun room.id existing scenarioFailedMessage).startNew room scenarioId scalingAvailable uuid
    else if (c.runs existing).scenarioId = scenarioId then
      c.startedOutcome room.id existing "이미 같은 장애 시나리오가 실행 중입니다."
    else (.returned (.error (scenarioConflict (c.runs existing))), c)

/-! ### Recovering a run -/

def stopAdmissionLoad (roomId : String) :
    Except FailureScenarioError FailureScenarioActionResult × FailureScenarioController :=
  let c := c.expireAutomaticRuns
  match c.activeRuns.get? roomId with
  | none => (.ok (completed roomId .admissionStorm "이미 입장 부하가 중지되어 있습니다." true true), c)
  | some run =>
    if (c.runs run).scenarioId ≠ .admissionStorm then (.error (scenarioConflict (c.runs run)), c)
    else
      match given (c.runs run).jobId with
      | none => (.error (.error "admission_load_job_not_found"), c)
      | some jobId =>
        let c := c.setStatus run .recovering
        match c.admissionLoad.stop jobId with
        | (.error message, load) => (.error (.error message), { c with admissionLoad := load })
        | (.ok (), load) =>
          let result := ({ c with admissionLoad := load }).completeRun roomId run
            "입장 부하를 즉시 중단했습니다. 기존 게임 세션은 그대로 유지됩니다." true
          (.ok result.1, result.2)

def recover (roomId : String) (room : Option AdminRoom) (scenarioId : FailureScenarioId) :
    CallOutcome × FailureScenarioController :=
  let c := c.expireAutomaticRuns
  match c.activeRuns.get? roomId with
  | none => (.returned (.ok (completed roomId scenarioId "이미 안전 상태입니다." true false)), c)
  | some run =>
    let recovering := c.setStatus run .recovering
    let wait : CallOutcome × FailureScenarioController :=
      (.suspended { roomId, run, refresh := none, point := .recovery }, recovering)
    if (c.runs run).scenarioId ≠ scenarioId then (.returned (.error (scenarioConflict (c.runs run))), c)
    else
      match scenarioId with
      | .admissionLock | .processCrash => wait
      | .botSurge | .maliciousInput =>
        if (given (c.runs run).jobId).isSome ∨ (c.runs run).jobIds ≠ [] then wait
        else
          let result := recovering.completeRun roomId run "정리할 시나리오 봇이 없습니다." false
          (.returned (.ok result.1), result.2)
      | .admissionStorm =>
        let result := c.stopAdmissionLoad roomId
        (.returned result.1, result.2)
      | .podFailure =>
        match room with
        | none => (.returned (.error (.error "pod_failure_room_state_required")), recovering)
        | some room =>
          if room.status ≠ "running" ∨ room.podHealthy = false then
            (.returned (.error (.upstream 409 "scenario_recovery_not_ready" none (some room.status))), recovering)
          else wait

/-- What `recover` answers once its services have answered. -/
def recoveredMessage : FailureScenarioId → String
  | .admissionLock => "신규 플레이어 입장을 다시 허용했습니다."
  | .botSurge | .maliciousInput => "시나리오가 만든 봇만 제거했습니다."
  | .processCrash => "게임 process와 snapshot 연결이 정상 복구됐습니다."
  | .podFailure => "교체된 Pod와 snapshot 연결이 정상 복구됐습니다."
  | .admissionStorm => "입장 부하를 즉시 중단했습니다. 기존 게임 세션은 그대로 유지됩니다."

/-! ### Refreshing a run -/

/-- What a surge does once its current job is done. -/
inductive SurgeDecision
  | hold
  | finish
  | release
  | wait
  | ramp (count : Int)

/-- The decision of `advanceBotSurge` at a tick time and a time of the clock. -/
def surgeDecision (run : MutableRun) (tickP95Ms : Rat) (now : Int) : SurgeDecision :=
  let requestedBots := run.surgeBotsRequested.getD 0
  let maximumBots := run.surgeMaxBots.getD requestedBots
  match run.surgeHoldUntilMs with
  | some surgeHoldUntilMs => if now < surgeHoldUntilMs then .hold else .release
  | none =>
    if botSurgeTargetTickP95Ms ≤ tickP95Ms ∨ maximumBots ≤ requestedBots then .finish
    else if now < run.surgeNextRampAtMs.getD 0 then .wait
    else
      let count := min botSurgeRampSize (maximumBots - requestedBots)
      if count < 1 then .wait else .ramp count

/-- The end of every way through `advanceBotSurge`. -/
def surgeFinally (roomId : String) (run : RunId) : CallOutcome × FailureScenarioController :=
  (.settled,
   { c with
     activeRuns := if (c.activeRuns.get? roomId).isSome then c.activeRuns.put roomId run else c.activeRuns
     advancingBotSurges := c.advancingBotSurges.filter fun advancing => decide (advancing ≠ roomId) })

/-- `advanceBotSurge` from where it looks at the tick time. -/
def surgeTick (roomId : String) (run : RunId) (refresh : Nat) (tickP95Ms : Rat) (jobIds : List String) :
    CallOutcome × FailureScenarioController :=
  let c := c.modifyRun run fun r => { r with surgePeakTickP95Ms := some (max (r.surgePeakTickP95Ms.getD 0) tickP95Ms) }
  match surgeDecision (c.runs run) tickP95Ms c.now with
  | .hold => (c.setStatus run .active).surgeFinally roomId run
  | .release => (.suspended { roomId, run, refresh := some refresh, point := .surgeCleanup }, c)
  | .finish =>
    (c.modifyRun run fun r =>
      { r with
        surgeHoldUntilMs := some (c.now + botSurgeHoldMs), autoRecoverAtMs := some (c.now + botSurgeHoldMs)
        status := .active }).surgeFinally roomId run
  | .wait => c.surgeFinally roomId run
  | .ramp count =>
    (.suspended {
      roomId, run, refresh := some refresh
      point := .surgeRamp count ((c.runs run).surgeBotsRequested.getD 0) jobIds c.now }, c)

def advanceBotSurge (roomId : String) (run : RunId) (refresh : Nat) (room : Option AdminRoom) :
    CallOutcome × FailureScenarioController :=
  match room with
  | none => (.settled, c)
  | some room =>
    if roomId ∈ c.advancingBotSurges then (.settled, c)
    else
      let c := { c with advancingBotSurges := c.advancingBotSurges ++ [roomId] }
      let jobIds := (c.runs run).allJobIds
      match given jobIds.getLast? with
      | some _ =>
        (.suspended { roomId, run, refresh := some refresh, point := .surgePoll room.tickP95Ms jobIds }, c)
      | none => c.surgeTick roomId run refresh room.tickP95Ms jobIds

def syncAdmissionRun (roomId : String) (run : RunId) (refresh : Nat) : CallOutcome × FailureScenarioController :=
  match given (c.runs run).jobId with
  | none => (.settled, c)
  | some jobId =>
    match c.admissionLoad.status jobId with
    | none => (.settled, c.setStatus run .failed)
    | some phase => (.suspended { roomId, run, refresh := some refresh, point := .health phase }, c)

/-- What `getState` does for one of the runs that are active when it is called. -/
def refreshRun (rooms : List AdminRoom) (refresh : Nat) (roomId : String) (run : RunId) :
    CallOutcome × FailureScenarioController :=
  match (c.runs run).scenarioId with
  | .admissionStorm => c.syncAdmissionRun roomId run refresh
  | .botSurge =>
    -- of two rooms with one id the later one is in the map
    c.advanceBotSurge roomId run refresh (rooms.reverse.find? fun room => decide (room.id = roomId))
  | _ =>
    match given (c.runs run).jobId with
    | none => (.settled, c)
    | some _ => (.suspended { roomId, run, refresh := some refresh, point := .jobPoll }, c)

/-- `getState` behind its refreshes: runs that have failed end. -/
def endFailed : FailureScenarioController :=
  c.endWhere (fun run => decide (run.status = .failed)) scenarioFailedMessage

/-! ### Going on behind a wait -/

/-- What a call does when its wait ends with an answer: a job, or an answer nothing is read of (`none`), or an error.
An answer of the wrong kind does not come. -/
def goOn (call : SuspendedCall) (answer : Except FailureScenarioError (Option BotJob)) :
    Option (CallOutcome × FailureScenarioController) :=
  let { roomId, run, refresh, point } := call
  match point, answer with
  | .startJoinLock, .ok none =>
    some ((c.setStatus run .active).startedOutcome roomId run "신규 플레이어 입장을 차단했습니다.")
  | .startSurge count maxBots tickP95Ms, .ok (some job) =>
    some ((c.modifyRun run fun r =>
      { r with
        jobId := some job.jobId, jobIds := [job.jobId], surgeBotsRequested := some count, surgeMaxBots := some maxBots
        surgeNextRampAtMs := some (c.now + botSurgeRampIntervalMs), surgePeakTickP95Ms := some tickP95Ms
        status := .starting }).startedOutcome roomId run
          ("실접속 부하 봇 " ++ toString count ++ "명을 빠르게 투입하고 있습니다."))
  | .startMalicious, .ok (some job) =>
    some ((c.modifyRun run fun r => { r with jobId := some job.jobId, status := .starting }).startedOutcome roomId run
      "비정상 입력을 보내는 프로토콜 클라이언트를 투입했습니다.")
  | .startProcessCrash, .ok none =>
    some ((c.setStatus run .recovering).startedOutcome roomId run
      "게임 child process를 종료했습니다. 자동 복구를 기다리는 중입니다.")
  | .startPodFailure, .ok none =>
    some ((c.setStatus run .recovering).startedOutcome roomId run
      "게임 Pod를 삭제했습니다. Room Deployment 자동 복구를 기다리는 중입니다.")
  | .startJoinLock, .error error | .startSurge .., .error error | .startMalicious, .error error
  | .startProcessCrash, .error error | .startPodFailure, .error error => some (c.startFailed roomId run error)
  | .recovery, .ok none =>
    let result := c.completeRun roomId run (recoveredMessage (c.runs run).scenarioId) false
    some (.returned (.ok result.1), result.2)
  | .recovery, .error error => some (.returned (.error error), c)
  | .jobPoll, .ok (some job) =>
    let status :=
      match job.state with
      | .failed => .failed
      | .running => .starting
      | .completed | .cancelled => .active
    let c := c.setStatus run status
    some (.settled, { c with activeRuns := c.activeRuns.put roomId run })
  | .jobPoll, .ok none | .jobPoll, .error _ => some (.settled, c)
  | .health phase, .ok none | .health phase, .error _ =>
    let c := c.setStatus run (if phase = .failed then .failed else .active)
    if phase = .safetyTimeout then
      some (.settled, (c.completeRun roomId run
        "안전 제한 시간에 도달해 장애 부하만 중단했습니다. 서비스 복구로 처리하지 않습니다." false).2)
    else some (.settled, c)
  | .surgePoll tickP95Ms jobIds, .ok (some job) =>
    match job.state with
    | .failed => some ((c.setStatus run .failed).surgeFinally roomId run)
    | .running => some ((c.setStatus run .starting).surgeFinally roomId run)
    | .completed | .cancelled =>
      some ((c.setStatus run .active).surgeTick roomId run (refresh.getD 0) tickP95Ms jobIds)
  | .surgePoll .., .ok none | .surgePoll .., .error _ => some (c.surgeFinally roomId run)
  | .surgeCleanup, .ok none =>
    some ((c.completeRun roomId run "Tick 부하 유지가 끝나 장애 봇을 자동으로 정리했습니다." false).2.surgeFinally roomId run)
  | .surgeCleanup, .error _ => some ((c.setStatus run .recovering).surgeFinally roomId run)
  | .surgeRamp count requestedBots jobIds now, .ok (some job) =>
    some ((c.modifyRun run fun r =>
      { r with
        jobId := some job.jobId, jobIds := jobIds ++ [job.jobId], surgeBotsRequested := some (requestedBots + count)
        surgeNextRampAtMs := some (now + botSurgeRampIntervalMs), status := .starting }).surgeFinally roomId run)
  | .surgeRamp .., .error _ => some ((c.setStatus run .failed).surgeFinally roomId run)
  | _, _ => none

end FailureScenarioController

/-! ### Runs of the controller -/

def CallOutcome.call? : CallOutcome → Option SuspendedCall
  | .suspended call => some call
  | _ => none

/-- The controller with the calls that wait, and the `getState` calls that wait for their refreshes. -/
structure FailureScenarios where
  controller : FailureScenarioController
  suspended : List SuspendedCall
  refreshing : List Nat
  refreshes : Nat
  /-- A history: the active runs that a call for another run has deleted or replaced. -/
  evicted : List RunId

inductive FailureScenarioEvent
  | getState (rooms : List AdminRoom)
  | refreshed (refresh : Nat)
  | start (room : AdminRoom) (scenarioId : FailureScenarioId) (scalingAvailable : Bool) (uuid : String)
  | recover (roomId : String) (room : Option AdminRoom) (scenarioId : FailureScenarioId)
  | stopAdmissionLoad (roomId : String)
  | resume (n : Nat) (answer : Except FailureScenarioError (Option BotJob))
  | clock (now : Int)
  | loadRamps (jobId : String)
  | loadSaturates (jobId : String)
  | loadTimesOut (jobId : String)
  | loadFails (jobId : String)

namespace FailureScenarios

def init (options : AdmissionLoadOptions) : FailureScenarios where
  controller := .init options
  suspended := []
  refreshing := []
  refreshes := 0
  evicted := []

variable (s : FailureScenarios)

/-- The controller and the waiting call that an uninterrupted stretch of a call leaves behind. -/
def withOutcome (outcome : CallOutcome × FailureScenarioController) : FailureScenarios :=
  { s with controller := outcome.2, suspended := s.suspended ++ outcome.1.call?.toList }

/-- The refreshes of `getState`, one for each active run, up to their first waits. -/
def refreshRuns (rooms : List AdminRoom) (refresh : Nat) (entries : Fields RunId) : FailureScenarios :=
  entries.foldl (fun s entry => s.withOutcome (s.controller.refreshRun rooms refresh entry.1 entry.2)) s

def withLoad (load : AdmissionLoadController) : FailureScenarios :=
  { s with controller := { s.controller with admissionLoad := load } }

/-- The run that the entry of the room held before, if it is not the one of the call and no longer there. -/
def evictedBy (call : SuspendedCall) (before after : FailureScenarioController) : List RunId :=
  match before.activeRuns.get? call.roomId with
  | none => []
  | some other => if other ≠ call.run ∧ after.activeRuns.get? call.roomId ≠ some other then [other] else []

/-- One event.  The id of a new load job is fresh. -/
def step : FailureScenarioEvent → Option FailureScenarios
  | .getState rooms =>
    let c := s.controller.expireAutomaticRuns
    let refreshed := ({ s with controller := c }).refreshRuns rooms s.refreshes c.activeRuns
    some { refreshed with refreshing := s.refreshing ++ [s.refreshes], refreshes := s.refreshes + 1 }
  | .refreshed refresh =>
    if refresh ∈ s.refreshing ∧ ∀ call ∈ s.suspended, call.refresh ≠ some refresh then
      some { s with controller := s.controller.endFailed, refreshing := s.refreshing.erase refresh }
    else none
  | .start room scenarioId scalingAvailable uuid =>
    if s.controller.admissionLoad.job? ("admission-" ++ uuid) = none then
      some (s.withOutcome (s.controller.start room scenarioId scalingAvailable uuid))
    else none
  | .recover roomId room scenarioId => some (s.withOutcome (s.controller.recover roomId room scenarioId))
  | .stopAdmissionLoad roomId => some { s with controller := (s.controller.stopAdmissionLoad roomId).2 }
  | .resume n answer =>
    match s.suspended[n]? with
    | none => none
    | some call =>
      match s.controller.goOn call answer with
      | none => none
      | some outcome =>
        let resumed := ({ s with suspended := s.suspended.eraseIdx n }).withOutcome outcome
        some { resumed with evicted := s.evicted ++ evictedBy call s.controller outcome.2 }
  | .clock now => some { s with controller := { s.controller with now } }
  | .loadRamps jobId => some (s.withLoad (s.controller.admissionLoad.ramp jobId))
  | .loadSaturates jobId => some (s.withLoad (s.controller.admissionLoad.saturate jobId))
  | .loadTimesOut jobId => (s.controller.admissionLoad.timeOut jobId s.controller.now).map s.withLoad
  | .loadFails jobId => (s.controller.admissionLoad.fail jobId).map s.withLoad

/-! ### Run identity -/

/-- No run that has ended is active. -/
def EndedInactive : Prop :=
  ∀ roomId run, s.controller.activeRuns.get? roomId = some run → run ∉ s.controller.ended

/-- Where `stopAdmissionLoad` answers that the load is stopped and there was no active run, no job of the room runs. -/
def LoadStopped : Prop :=
  ∀ roomId result, (s.controller.stopAdmissionLoad roomId).1 = .ok result → result.idempotent = true →
    result.loadStopped = true → s.controller.admissionLoad.running roomId = []

/-- No run that has ended is active, no call has deleted or replaced the run of another one, and a load that is said to
be stopped is. -/
structure RunIdentity : Prop where
  inactive : s.EndedInactive
  kept : s.evicted = []
  stopped : s.LoadStopped

/-- What a call does to the entry of its room when it goes on. -/
inductive EntryWrite
  | keep
  | set
  | setIfPresent
  | delete
deriving DecidableEq

/-- Read off where the call waits, the answer, and, for a surge whose job is done, the decision on the surge. -/
def entryWrite (c : FailureScenarioController) (call : SuspendedCall)
    (answer : Except FailureScenarioError (Option BotJob)) : EntryWrite :=
  match call.point, answer with
  | .startJoinLock, .ok _ | .startSurge .., .ok _ | .startMalicious, .ok _ | .startProcessCrash, .ok _
  | .startPodFailure, .ok _ | .jobPoll, .ok (some _) => .set
  | .startJoinLock, .error _ | .startSurge .., .error _ | .startMalicious, .error _ | .startProcessCrash, .error _
  | .startPodFailure, .error _ | .recovery, .ok _ | .surgeCleanup, .ok _ => .delete
  | .recovery, .error _ | .jobPoll, _ => .keep
  | .health phase, _ => if phase = .safetyTimeout then .delete else .keep
  | .surgePoll tickP95Ms _, .ok (some job) =>
    match job.state with
    | .failed | .running => .setIfPresent
    | .completed | .cancelled =>
      match FailureScenarioController.surgeDecision (c.runs call.run) tickP95Ms c.now with
      | .release | .ramp _ => .keep
      | .hold | .finish | .wait => .setIfPresent
  | .surgePoll .., _ | .surgeCleanup, .error _ | .surgeRamp .., _ => .setIfPresent

/-- A call that sets the entry of its room finds its run there; one that deletes it, or sets it where there is one,
finds its run or no entry. -/
def WritesOwnEntry (c : FailureScenarioController) (call : SuspendedCall)
    (answer : Except FailureScenarioError (Option BotJob)) : Prop :=
  match entryWrite c call answer with
  | .keep => True
  | .set => c.activeRuns.get? call.roomId = some call.run
  | .setIfPresent | .delete => ∀ other, c.activeRuns.get? call.roomId = some other → other = call.run

/-- A call that goes on writes to the entry of its own run only. -/
def WritesOwn : FailureScenarioEvent → Prop
  | .resume n answer => ∀ call, s.suspended[n]? = some call → WritesOwnEntry s.controller call answer
  | _ => True

end FailureScenarios

end Opsia
