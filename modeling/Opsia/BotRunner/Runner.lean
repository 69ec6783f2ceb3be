import Mathlib.Data.List.Nodup
import Mathlib.Logic.Function.Basic

/-!
# The bot runner

The bot runner keeps a table of bots and a table of jobs. A handler, a job and a round of reconciliation run until they
wait, for the room directory, a room's summary, a match, a connection, the target store or a timer; `Task` is what
waits, with what it does next, and an event lets one task go on with an answer. Bots and jobs are objects that are named
by numbers; a job that the table has dropped still runs.

Manual spawns and kills are left out. A bot that has been stopped is in no table. Each bot carries the job it was made
for, and each job when it was first cancelled and whether it was cleaned up; no function reads these.
-/

namespace Opsia

structure RunnerSettings where
  minimumBotsPerRoom : Nat
  reconcileBatchSize : Nat

namespace BotRunner

inductive BotMode
  | normal
  | surge
  | hack
deriving DecidableEq

structure Bot where
  roomId : String
  mode : BotMode
  connected : Bool := false
  job : Option Nat

inductive JobState
  | running
  | completed
  | cancelled
  | failed
deriving DecidableEq

structure Job where
  roomId : String
  total : Nat
  completed : Nat := 0
  createdBotIds : List Nat := []
  intervalMs : Nat
  mode : BotMode
  state : JobState
  target : Option Nat
  cancelledAt : Option Nat := none
  cleaned : Bool := false

inductive UpdateKind
  | put (target intervalMs : Nat)
  | delete

/-- What an update makes of the room's target. -/
def UpdateKind.target : UpdateKind → Option Nat
  | put target _ => some target
  | delete => none

/-- A target update that has been enqueued, with the update of its room it waits for. -/
structure Update where
  id : Nat
  roomId : String
  kind : UpdateKind
  previous : Option Nat

/-- The arguments of `startJob`, with the update and revision it is a part of. -/
structure StartRequest where
  count : Nat
  roomId : String
  mode : BotMode
  intervalMs : Nat
  target : Option Nat
  update : Option (Update × Nat)

/-- What `startJob` waits for; behind the second check, how many jobs there were then. -/
inductive StartStage
  | rooms
  | summary
  | body (checked : Nat)

inductive SpawnStage
  | rooms
  | findGame
  | connecting (bot : Nat)

/-- A room of a reconciliation round, with the target and version it works for. -/
structure Round where
  roomId : String
  desiredBots : Nat
  targetRevision : Nat

inductive RoundStage
  | summary
  | body

inductive SpawnCaller
  | job (job index : Nat)
  | round (round : Round) (requested index : Nat)

inductive Task
  | start (request : StartRequest) (stage : StartStage)
  | spawn (roomId : String) (mode : BotMode) (caller : SpawnCaller) (stage : SpawnStage)
  | sleep (job index : Nat)
  /-- A job whose `spawnOne` has found its target reached. -/
  | declined (job : Nat)
  | queued (update : Update)
  /-- An update that waits for the store, which has taken the write or not. -/
  | storing (update : Update) (revision : Nat) (written : Bool)
  | round (round : Round) (deficit : Nat) (stage : RoundStage)

/-- What a task that waits is given. -/
inductive Answer
  | failed
  /-- The store has taken the write, and its answer is under way. -/
  | written
  | done
  | summary (players maxPlayers : Int)

end BotRunner

open BotRunner in
structure BotRunner where
  botObject : Nat → Bot
  bots : List Nat
  nextBot : Nat
  jobObject : Nat → Job
  jobs : List Nat
  nextJob : Nat
  roomBotTargets : String → Option Nat
  /-- The targets in the store. -/
  botTargetStore : String → Option Nat
  targetAdjustmentRevisions : String → Option Nat
  roomTargetVersions : String → Nat
  targetAdjustmentRevision : Nat
  targetUpdateQueues : String → Option Nat
  released : Nat → Bool
  nextUpdate : Nat
  tasks : List Task

namespace BotRunner

variable (settings : RunnerSettings)

/-- The runner starts with the targets of the store. -/
def start (stored : String → Option Nat) : BotRunner where
  botObject := fun _ => { roomId := "", mode := .normal, job := none }
  bots := []
  nextBot := 0
  jobObject := fun _ =>
    { roomId := "", total := 0, intervalMs := 0, mode := .normal, state := .completed, target := none }
  jobs := []
  nextJob := 0
  roomBotTargets := stored
  botTargetStore := stored
  targetAdjustmentRevisions := fun _ => none
  roomTargetVersions := fun _ => 0
  targetAdjustmentRevision := 0
  targetUpdateQueues := fun _ => none
  released := fun _ => false
  nextUpdate := 0
  tasks := []

def addTask (s : BotRunner) (task : Task) : BotRunner := { s with tasks := s.tasks ++ [task] }

def setJob (s : BotRunner) (j : Nat) (f : Job → Job) : BotRunner :=
  { s with jobObject := Function.update s.jobObject j (f (s.jobObject j)) }

/-- `roomBotTargets.get` -/
def target (s : BotRunner) (roomId : String) : Nat := (s.roomBotTargets roomId).getD settings.minimumBotsPerRoom

/-! ### Bots -/

/-- `stop`, which takes the bot off the table -/
def stopBot (s : BotRunner) (b : Nat) : BotRunner := { s with bots := s.bots.erase b }

def activeTargetBots (s : BotRunner) (roomId : String) : List Nat :=
  s.bots.filter fun b => decide ((s.botObject b).roomId = roomId ∧ (s.botObject b).mode = .normal)

def activeTargetBotCount (s : BotRunner) (roomId : String) : Nat := (s.activeTargetBots roomId).length

def removeTargetBotsAboveTarget (s : BotRunner) (roomId : String) (target : Nat) : BotRunner :=
  let selected := s.activeTargetBots roomId
  let removable := selected.length - target
  let removed := selected.drop (selected.length - removable)
  { s with bots := s.bots.filter fun b => decide (b ∉ removed) }

/-! ### Jobs -/

def running (s : BotRunner) (j : Nat) : Bool := decide ((s.jobObject j).state = .running)

def runningRoomJob (s : BotRunner) (roomId : String) : Option Nat :=
  s.jobs.find? fun j => decide ((s.jobObject j).roomId = roomId) && s.running j

/-- A job that runs leaves that state. -/
def endJob (s : BotRunner) (j : Nat) (state : JobState) : BotRunner :=
  if s.running j then s.setJob j fun job => { job with state } else s

def Job.cancel (nextBot : Nat) (job : Job) : Job :=
  { job with
    state := if job.state = .running then .cancelled else job.state
    cancelledAt := some (job.cancelledAt.getD nextBot) }

def cancelRoomJobs (s : BotRunner) (roomId : String) : BotRunner :=
  { s with
    jobObject := fun j =>
      if j ∈ s.jobs ∧ (s.jobObject j).roomId = roomId ∧ s.running j then (s.jobObject j).cancel s.nextBot
      else s.jobObject j }

/-- `spawnOne` up to its first wait -/
def spawnOne (s : BotRunner) (j index : Nat) : BotRunner :=
  if s.running j then
    if (s.jobObject j).target.any fun target => decide (target ≤ s.activeTargetBotCount (s.jobObject j).roomId) then
      s.addTask (.declined j)
    else s.addTask (.spawn (s.jobObject j).roomId (s.jobObject j).mode (.job j index) .rooms)
  else s

/-- The table keeps a hundred jobs. -/
def evict (jobs : List Nat) : List Nat := jobs.drop (jobs.length - 100)

def StartRequest.toJob (request : StartRequest) : Job where
  roomId := request.roomId
  total := request.count
  intervalMs := request.intervalMs
  mode := request.mode
  state := .running
  target := request.target

/-- The request has a job in the table, which has not spawned yet. -/
def withJob (s : BotRunner) (request : StartRequest) : BotRunner :=
  { s with
    jobObject := Function.update s.jobObject s.nextJob request.toJob
    jobs := evict (s.jobs ++ [s.nextJob])
    nextJob := s.nextJob + 1 }

/-- `startJob` behind its last wait -/
def register (s : BotRunner) (request : StartRequest) : BotRunner :=
  match request.mode with
  | .surge => (List.range request.count).foldl (fun t index => t.spawnOne s.nextJob index) (s.withJob request)
  | .normal | .hack => (s.withJob request).spawnOne s.nextJob 0

/-- The task spawns for the job. -/
def Task.spawnsFor (j : Nat) : Task → Bool
  | .spawn _ _ (.job j' _) _ => decide (j' = j)
  | _ => false

/-- A job lists a bot that has connected. -/
def listBot (s : BotRunner) (j b : Nat) : BotRunner :=
  s.setJob j fun job => { job with createdBotIds := job.createdBotIds ++ [b], completed := job.completed + 1 }

/-- A job that has a target stops what is above it. -/
def keepTarget (s : BotRunner) (j : Nat) : BotRunner :=
  match (s.jobObject j).target with
  | some target =>
    if target < s.activeTargetBotCount (s.jobObject j).roomId then
      s.removeTargetBotsAboveTarget (s.jobObject j).roomId target
    else s
  | none => s

/-- The loop of a job behind one of its spawns. -/
def jobLoop (s : BotRunner) (j index : Nat) : BotRunner :=
  match (s.jobObject j).mode with
  | .surge => if s.tasks.any (Task.spawnsFor j) then s else s.endJob j .completed
  | .normal | .hack =>
    if index + 1 < (s.jobObject j).total then s.addTask (.sleep j (index + 1)) else s.endJob j .completed

/-- A job goes on behind a bot that has connected. -/
def jobSpawned (s : BotRunner) (j index b : Nat) : BotRunner :=
  if s.running j then ((s.listBot j b).keepTarget j).jobLoop j index else s.stopBot b

/-! ### Reconciliation -/

/-- The target of the room is being changed, or has been since the round looked. -/
def changed (s : BotRunner) (round : Round) : Bool :=
  (s.targetAdjustmentRevisions round.roomId).isSome || decide (s.target settings round.roomId ≠ round.desiredBots) ||
    decide (round.targetRevision ≠ s.roomTargetVersions round.roomId)

/-- The loop of a round from one index on, up to its next wait or its end. -/
def roundLoop (s : BotRunner) (round : Round) (requested index : Nat) : BotRunner :=
  if index < requested ∧ s.changed settings round = false then
    s.addTask (.spawn round.roomId .normal (.round round requested index) .rooms)
  else if s.target settings round.roomId < s.activeTargetBotCount round.roomId then
    s.removeTargetBotsAboveTarget round.roomId (s.target settings round.roomId)
  else s

/-- A round at one room; `ready` is whether the time of the room's next try has come. -/
def beginRound (ready : String → Bool) (s : BotRunner) (roomId : String) : BotRunner :=
  let deficit := s.target settings roomId - s.activeTargetBotCount roomId
  if ready roomId = true ∧ s.targetAdjustmentRevisions roomId = none ∧ s.runningRoomJob roomId = none ∧ 0 < deficit then
    s.addTask (.round ⟨roomId, s.target settings roomId, s.roomTargetVersions roomId⟩ deficit .summary)
  else s

def Task.isRound : Task → Bool
  | .round _ _ _ => true
  | .spawn _ _ (.round _ _ _) _ => true
  | _ => false

/-! ### Target updates -/

def enqueue (s : BotRunner) (roomId : String) (kind : UpdateKind) : BotRunner :=
  { s with
    targetUpdateQueues := Function.update s.targetUpdateQueues roomId (some s.nextUpdate)
    nextUpdate := s.nextUpdate + 1
    tasks := s.tasks ++ [.queued ⟨s.nextUpdate, roomId, kind, s.targetUpdateQueues roomId⟩] }

/-- The update that was enqueued before has been released. -/
def mayBegin (s : BotRunner) (update : Update) : Bool := update.previous.all s.released

def beginUpdate (s : BotRunner) (update : Update) : BotRunner :=
  let revision := s.targetAdjustmentRevision + 1
  { s with
    targetAdjustmentRevision := revision
    targetAdjustmentRevisions := Function.update s.targetAdjustmentRevisions update.roomId (some revision)
    tasks := s.tasks ++ [.storing update revision false] }

/-- The two `finally` of an update -/
def finishUpdate (s : BotRunner) (update : Update) (revision : Nat) : BotRunner :=
  { s with
    targetAdjustmentRevisions :=
      if s.targetAdjustmentRevisions update.roomId = some revision then
        Function.update s.targetAdjustmentRevisions update.roomId none
      else s.targetAdjustmentRevisions
    released := Function.update s.released update.id true
    targetUpdateQueues :=
      if s.targetUpdateQueues update.roomId = some update.id then
        Function.update s.targetUpdateQueues update.roomId none
      else s.targetUpdateQueues }

def writeTarget (s : BotRunner) (update : Update) (revision : Nat) : BotRunner :=
  { s with
    botTargetStore := Function.update s.botTargetStore update.roomId update.kind.target
    tasks := s.tasks ++ [.storing update revision true] }

def setTarget (s : BotRunner) (roomId : String) (target : Option Nat) (revision : Nat) : BotRunner :=
  { s with
    roomBotTargets := Function.update s.roomBotTargets roomId target
    roomTargetVersions := Function.update s.roomTargetVersions roomId revision }

/-- An update behind its write of the store. -/
def stored (s : BotRunner) (update : Update) (revision : Nat) : BotRunner :=
  match update.kind with
  | .delete =>
    ((s.setTarget update.roomId none revision).cancelRoomJobs update.roomId).finishUpdate update revision
  | .put target intervalMs =>
    let s := (s.setTarget update.roomId (some target) revision).cancelRoomJobs update.roomId
    let before := s.activeTargetBotCount update.roomId
    if target < before then (s.removeTargetBotsAboveTarget update.roomId target).finishUpdate update revision
    else if before < target then
      s.addTask
        (.start ⟨target - before, update.roomId, .normal, intervalMs, some target, some (update, revision)⟩ .rooms)
    else s.finishUpdate update revision

/-! ### Tasks -/

/-- `startJob` has returned or failed, and the update it is a part of goes on to its end. -/
def startEnds (s : BotRunner) (request : StartRequest) : BotRunner :=
  match request.update with
  | some (update, revision) => s.finishUpdate update revision
  | none => s

/-- What is left of a room's capacity. -/
def available (s : BotRunner) (roomId : String) (players maxPlayers : Int) : Int :=
  let connecting := (s.bots.filter fun b =>
    decide ((s.botObject b).roomId = roomId) && !(s.botObject b).connected).length
  max 0 (maxPlayers - players - connecting)

def resumeStart (s : BotRunner) (request : StartRequest) : StartStage → Answer → Option BotRunner
  | .rooms, .done =>
    some (if (s.runningRoomJob request.roomId).isSome then s.startEnds request else s.addTask (.start request .summary))
  | .summary, .done =>
    some (if (s.runningRoomJob request.roomId).isSome then s.startEnds request
      else s.addTask (.start request (.body s.nextJob)))
  | .body _, .summary players maxPlayers =>
    some (if s.available request.roomId players maxPlayers < request.count then s.startEnds request
      else (s.register request).startEnds request)
  | _, .failed => some (s.startEnds request)
  | _, _ => none

/-- A failed spawn ends the job or the round it is for. -/
def spawnFailed (s : BotRunner) : SpawnCaller → BotRunner
  | .job j _ => s.endJob j .failed
  | .round _ _ _ => s

def SpawnCaller.job? : SpawnCaller → Option Nat
  | .job j _ => some j
  | .round _ _ _ => none

/-- The bot of a match; its socket is not yet connected. -/
def addBot (s : BotRunner) (roomId : String) (mode : BotMode) (caller : SpawnCaller) : BotRunner :=
  { s with
    botObject := Function.update s.botObject s.nextBot { roomId, mode, job := caller.job? }
    bots := s.bots ++ [s.nextBot]
    nextBot := s.nextBot + 1
    tasks := s.tasks ++ [.spawn roomId mode caller (.connecting s.nextBot)] }

def connectBot (s : BotRunner) (b : Nat) : BotRunner :=
  { s with botObject := Function.update s.botObject b { s.botObject b with connected := true } }

def resumeSpawn (s : BotRunner) (roomId : String) (mode : BotMode) (caller : SpawnCaller) :
    SpawnStage → Answer → Option BotRunner
  | .rooms, .done => some (s.addTask (.spawn roomId mode caller .findGame))
  | .findGame, .done => some (s.addBot roomId mode caller)
  | .connecting b, .done =>
    if b ∈ s.bots then
      match caller with
      | .job j index => some ((s.connectBot b).jobSpawned j index b)
      | .round round requested index => some ((s.connectBot b).roundLoop settings round requested (index + 1))
    else none
  | .connecting b, .failed => some ((s.stopBot b).spawnFailed caller)
  | _, .failed => some (s.spawnFailed caller)
  | _, _ => none

def resumeRound (s : BotRunner) (round : Round) (deficit : Nat) : RoundStage → Answer → Option BotRunner
  | .summary, .done => some (s.addTask (.round round deficit .body))
  | .body, .summary players maxPlayers =>
    let available := max 0 (maxPlayers - players)
    some (if available < 1 ∨ s.changed settings round = true then s
      else s.roundLoop settings round (min deficit (min settings.reconcileBatchSize available.toNat)) 0)
  | _, .failed => some s
  | _, _ => none

/-- A task goes on; it has been taken from the tasks. -/
def resume (s : BotRunner) : Task → Answer → Option BotRunner
  | .start request stage, answer => s.resumeStart request stage answer
  | .spawn roomId mode caller stage, answer => s.resumeSpawn settings roomId mode caller stage answer
  | .sleep j index, .done => some (s.spawnOne j index)
  | .declined j, .done => some (s.endJob j .completed)
  | .queued update, .done => if s.mayBegin update then some (s.beginUpdate update) else none
  | .storing update revision false, .written => some (s.writeTarget update revision)
  | .storing update revision false, .failed => some (s.finishUpdate update revision)
  | .storing update revision true, .done => some (s.stored update revision)
  | .round round deficit stage, answer => s.resumeRound settings round deficit stage answer
  | _, _ => none

/-! ### Steps -/

inductive RunnerEvent
  | post (count : Nat) (roomId : String) (mode : BotMode) (intervalMs : Nat)
  | put (roomId : String) (target intervalMs : Nat)
  | delete (roomId : String)
  | cancel (j : Nat)
  | cleanup (j : Nat)
  | reconcile (rooms : List String) (ready : String → Bool)
  | closed (b : Nat)
  | resume (i : Nat) (answer : Answer)

def validInterval (intervalMs : Nat) : Bool := decide (50 ≤ intervalMs ∧ intervalMs ≤ 5000)

def cleanupJob (s : BotRunner) (j : Nat) : BotRunner :=
  { s.setJob j fun job => { job.cancel s.nextBot with cleaned := true } with
    bots := s.bots.filter fun b => decide (b ∉ (s.jobObject j).createdBotIds) }

def step (s : BotRunner) : RunnerEvent → Option BotRunner
  | .post count roomId mode intervalMs =>
    if 1 ≤ count ∧ count ≤ 500 ∧ validInterval intervalMs then
      some (s.addTask (.start ⟨count, roomId, mode, intervalMs, none, none⟩ .rooms))
    else none
  | .put roomId target intervalMs =>
    if target ≤ 500 ∧ validInterval intervalMs then some (s.enqueue roomId (.put target intervalMs)) else none
  | .delete roomId => some (s.enqueue roomId .delete)
  | .cancel j => if j ∈ s.jobs then some (s.setJob j (Job.cancel s.nextBot)) else none
  | .cleanup j => if j ∈ s.jobs then some (s.cleanupJob j) else none
  | .reconcile rooms ready =>
    if rooms.Nodup ∧ s.tasks.any Task.isRound = false then some (rooms.foldl (beginRound settings ready) s) else none
  | .closed b => if b ∈ s.bots then some (s.stopBot b) else none
  | .resume i answer =>
    s.tasks[i]?.bind fun task => resume settings { s with tasks := s.tasks.eraseIdx i } task answer

end BotRunner

end Opsia
