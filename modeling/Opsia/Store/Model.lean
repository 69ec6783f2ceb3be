import Opsia.Snapshot.Writer
import Opsia.Candidate.Loader

/-!
# The stores of a room

Any number of `OpsiaSnapshotStore`s share the keys of one room in Redis: the lease, the snapshot and the journal.  A
step is what one event loop runs without interruption, or one command that Redis executes.  A command is issued in one
step, executed in another and answered in a third, so everything else may happen in between; a command whose answer is
lost has been executed before, or never is.  A process may die, be started again or lose its lease at any moment.  A
call that the code refuses changes nothing and is not a step.

The value of the snapshot key is the last element of `stored`.  Neither the legacy format without an envelope nor the
in-memory substitute for Redis is modelled.  What the loader answers is given by the event, as long as it fits the
snapshot that was read and the journal (`Answers`); so are the results of capturing and restoring the game.  The fields
behind `-- history` are not in the source; they record what has happened.
-/

namespace Opsia

open Json

inductive OpsiaConfiguredRole
  | active
  | candidate
  | auto
deriving DecidableEq

/-- What names an envelope: its epoch, tick and checksum. -/
def SnapshotView.triple (v : SnapshotView) : Int × Nat × String := (v.roomEpoch, v.serverTick, v.checksum)

/-- The envelope that a status names, if it names one. -/
def OpsiaHandoffStatusData.triple (status : OpsiaHandoffStatusData) : Option (Int × Nat × String) :=
  match status.roomEpoch, status.serverTick, status.checksum with
  | some roomEpoch, some serverTick, some checksum => some (roomEpoch, serverTick, checksum)
  | _, _, _ => none

/-- A `state-delta` record of the journal. -/
structure JournalDelta where
  base : SnapshotView
  target : SnapshotView
deriving DecidableEq

/-- The envelope that a chain of records leads to. -/
def replayed (v : SnapshotView) : List JournalDelta → Option SnapshotView
  | [] => some v
  | d :: ds => if d.base.triple = v.triple then replayed d.target ds else none

/-- The state in which a candidate became the authority, and the snapshot stored at that moment. -/
structure Activation where
  materialized : Option SnapshotView
  newest : Option SnapshotView
deriving DecidableEq

/-- A status that was given out, and the snapshot stored at that moment. -/
structure Report where
  status : OpsiaHandoffStatusData
  newest : Option SnapshotView

/-- A snapshot handed to the writer, and the seeded players that were still to come. -/
structure Written where
  view : SnapshotView
  owed : List LoosePlayerState
deriving DecidableEq

/-- The keys of the room. -/
structure Room where
  lease : Option String := none
  stored : List SnapshotView := []
  journal : List JournalDelta := []
  -- history
  grants : List (Nat × Int) := []
  activations : List Activation := []
  reports : List Report := []
  written : List Written := []

namespace Room

/-- The value of the snapshot key. -/
def snapshot (room : Room) : Option SnapshotView := room.stored.getLast?

/-- `SET NX`. -/
def setLease (room : Room) (owner : String) : Room × Bool :=
  match room.lease with
  | none => ({ room with lease := some owner }, true)
  | some _ => (room, false)

/-- `releaseLeaseScript` -/
def releaseLease (room : Room) (owner : String) : Room :=
  if room.lease = some owner then { room with lease := none } else room

/-- `saveSnapshotScript` -/
def saveSnapshot (room : Room) (owner : String) (v : SnapshotView) : Room × Bool :=
  if room.lease = some owner then ({ room with stored := room.stored ++ [v] }, true) else (room, false)

/-- `appendFencedScript` -/
def append (room : Room) (owner : String) (d : JournalDelta) : Room × Bool :=
  if room.lease = some owner then ({ room with journal := room.journal ++ [d] }, true) else (room, false)

end Room

/-- A command: on its way, executed, or refused by a client that has quit. -/
inductive Call
  | issued
  | answered (reply : Bool)
  | refused
deriving DecidableEq

/-- What the continuation behind a command sees, `none` for an error; the answer may be lost on the way. -/
def Call.settle (call : Call) (lost : Bool) : Option (Option Bool) :=
  if lost then some none
  else match call with
    | issued => none
    | answered reply => some (some reply)
    | refused => some none

/-- The environment of a process. -/
structure StoreEnv where
  roomId : String
  configuredRole : OpsiaConfiguredRole
  roomEpoch : SafeNat
  owner : String
deriving DecidableEq

/-- Why a lease is being acquired, with what the caller has at hand afterwards. -/
inductive AcquirePurpose
  | start (attempt : Nat)
  | promote (expectedEpoch : Int) (expectedChecksum : String)
  | recover (roomEpoch : Option Int) (checksum : String)
deriving DecidableEq

structure Acquisition where
  purpose : AcquirePurpose
  call : Call
deriving DecidableEq

/-- Where `start` stands. -/
inductive Starting
  | constructed
  | acquiring
  | waiting (attempt : Nat)
  | loading (read : Option (Option SnapshotView))
  | loadingCandidate
  | started
deriving DecidableEq

/-- A call of the loader, from `start` or from `seedCandidate`. -/
structure Seeding where
  atStart : Bool
  read : Option (Option SnapshotView) := none
deriving DecidableEq

inductive ReleaseStage
  | flushing
  | releasing (call : Call)
deriving DecidableEq

structure Release where
  currentChecksum : String
  stage : ReleaseStage := .flushing
  serverTick : Nat := 0
  -- history
  released : Option (Int × Nat × String) := none
  versions : Nat := 0
deriving DecidableEq

inductive Stopping
  | running
  | flushing
  | releasing (call : Call)
  | stopped
deriving DecidableEq

inductive PersistStage
  | saving (call : Call)
  | appending (base : SnapshotView) (call : Call)
deriving DecidableEq

/-- A run of `persistEnvelope`. -/
structure Persisting where
  execution : Nat
  view : SnapshotView
  stage : PersistStage
deriving DecidableEq

/-- A session with a player object in the game. -/
structure Session where
  sessionId : String
  connected : Bool
deriving DecidableEq

/-- A store, and the process and the game around it. -/
structure Store where
  env : StoreEnv
  role : OpsiaRuntimeRole
  roomEpoch : Int
  ready : Bool := false
  candidatePromotionInFlight : Bool := false
  candidateTakeoverTimer : Bool := false
  candidateLoader : Bool := false
  candidateSeedInFlight : Bool := false
  candidateStatus : Option OpsiaHandoffStatusData := none
  authorityChecksum : Option String := none
  journalFenced : Bool := false
  pendingPlayers : List LoosePlayerState := []
  pendingRestoreUntil : Nat := 0
  snapshotTick : Nat := 0
  lastJournalEnvelope : Option SnapshotView := none
  writer : Writer := {}
  sessions : List Session := []
  alive : Bool := true
  -- calls under way
  starting : Starting := .constructed
  acquisitions : List Acquisition := []
  seedings : List Seeding := []
  releases : List Release := []
  stopping : Stopping := .running
  persisting : Option Persisting := none
  requestTicks : List Nat := []
  -- history
  materialized : Option SnapshotView := none
  capturedIn : Option Nat := none
  acknowledged : Bool := false
  syncedAt : Option Nat := none
  statusAt : Option Nat := none
  owed : List LoosePlayerState := []
  owedUntil : Nat := 0

structure CandidatePromoteRequest where
  expectedEpoch : Int
  nextEpoch : Int
  expectedChecksum : String

structure ActiveReleaseRequest where
  expectedEpoch : Int
  expectedChecksum : String

/-- `Number.isSafeInteger`, for an integer. -/
def isSafeInteger (n : Int) : Bool := decide (-9007199254740991 ≤ n ∧ n ≤ 9007199254740991)

/-- What `serializeGame` and `createSnapshotEnvelope` find: the state of each player of the game, and the checksum and
the bytes of the envelope or why there is none. -/
structure Capture where
  states : String → JsValue
  envelope : Except String (String × Nat)

/-- How `load` and the checks behind it end when there is a snapshot. -/
inductive LoadResult
  | restored
  | incompatible
  | failed

/-- How the steps of `persistEnvelope` after the save end: an error, a delta to append, or one that is too large. -/
inductive DeltaResult
  | failed (message : String)
  | delta
  | tooLarge

inductive AuthorityEvent
  | start
  | retry
  | loadRead
  | loadFinish (now : Nat) (result : LoadResult)
  | leaseSet (acquisition : Nat)
  | acquired (acquisition : Nat) (lost : Bool)
  | promote (request : CandidatePromoteRequest)
  | takeover
  | seed
  | seedRead (seeding : Nat)
  | seedRejected (seeding : Nat)
  | seedFinish (seeding now : Nat) (status : OpsiaHandoffStatusData) (chain : List JournalDelta)
      (restore : Except String Unit)
  | release (request : ActiveReleaseRequest)
  | releaseFlushed (release : Nat)
  | releaseLease (release : Nat)
  | released (release now : Nat) (lost : Bool)
  | stop
  | stopFlushed
  | stopLease
  | stopped (lost : Bool)

inductive SaveEvent
  | save (now serverTick : Nat) (capture : Except String Capture)
  | exitCheck (now : Nat) (capture : Except String Capture)
  | timer (execution : Nat)
  | decide (execution now : Nat)
  | deliver
  | finish
  | writeStart (execution : Nat)
  | saveSet
  | saveAnswered (lost : Bool) (result : DeltaResult)
  | appendSet
  | appendAnswered (lost : Bool)

inductive SessionEvent
  | attach (sessionId : String)
  | detach (sessionId : String)
  | drop (sessionId : String)

inductive StoreEvent
  | authority (event : AuthorityEvent)
  | saving (event : SaveEvent)
  | session (event : SessionEvent)
  | handoffStatus (now : Nat)

/-- The steps that Redis makes for a command already on its way. -/
def AuthorityEvent.atRedis : AuthorityEvent → Bool
  | .leaseSet _ | .releaseLease _ | .stopLease => true
  | _ => false

def SaveEvent.atRedis : SaveEvent → Bool
  | .saveSet | .appendSet => true
  | _ => false

end Opsia
