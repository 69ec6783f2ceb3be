import Opsia.Store.Model

/-!
# The steps of a store

The functions of `OpsiaSnapshotStore`, cut where they wait: up to a command or a flush, and behind it.
-/

namespace Opsia

open Json

namespace Store

/-- A new process. -/
def boot (env : StoreEnv) : Store where
  env
  role := if env.configuredRole = .active then .active else .candidate
  roomEpoch := env.roomEpoch.val

/-- A command of this store's client. -/
def call (s : Store) : Call := if s.stopping = .stopped then .refused else .issued

/-- `process.exit` -/
def exit (s : Store) : Store := { s with alive := false }

/-- `acquireLease`, up to its answer. -/
def acquireLease (s : Store) (purpose : AcquirePurpose) : Store :=
  { s with acquisitions := s.acquisitions ++ [{ purpose, call := s.call }] }

/-- `scheduleCandidateTakeover`, which only `auto` pods call. -/
def scheduleCandidateTakeover (s : Store) : Store :=
  { s with candidateTakeoverTimer := s.candidateTakeoverTimer || decide (s.env.configuredRole = .auto) }

/-! ### Start -/

/-- The candidate branch of `start`, up to the loader's answer. -/
def loadCandidate (s : Store) : Store :=
  { s with
    role := .candidate
    candidateLoader := true
    starting := .loadingCandidate
    seedings := s.seedings ++ [{ atStart := true }] }

def start (s : Store) : Option Store :=
  if s.starting ≠ .constructed then none
  else if s.env.configuredRole = .candidate then some s.loadCandidate
  else some ({ s with starting := .acquiring }.acquireLease (.start 0))

/-- The next attempt of an active, a second after the last one. -/
def retry (s : Store) : Option Store :=
  match s.starting with
  | .waiting attempt =>
    if attempt < 15 then some ({ s with starting := .acquiring }.acquireLease (.start attempt)) else some s.exit
  | _ => none

def loadRead (room : Room) (s : Store) : Option Store :=
  match s.starting with
  | .loading none => some { s with starting := .loading (some room.snapshot) }
  | _ => none

/-- The rest of the active branch of `start`. -/
def loadFinish (room : Room) (s : Store) (now : Nat) (result : LoadResult) : Option Store :=
  match s.starting with
  | .loading (some none) => some { s with starting := .started, ready := true }
  | .loading (some (some v)) =>
    match result with
    | .restored => some { s with
        starting := .started
        ready := true
        snapshotTick := v.snapshotTick
        lastJournalEnvelope := some v
        pendingPlayers := v.players
        pendingRestoreUntil := now + 2 * 60000
        materialized := some v
        capturedIn := none
        acknowledged := false
        syncedAt := if room.snapshot = some v then some room.stored.length else none }
    | .incompatible => some { s with
        starting := .started, ready := true, snapshotTick := v.snapshotTick, lastJournalEnvelope := none }
    | .failed => some s.exit
  | _ => none

/-! ### The lease -/

/-- What the room remembers of a store that has become the authority. -/
def granted (room : Room) (i : Nat) (roomEpoch : Int) : Room := { room with grants := room.grants ++ [(i, roomEpoch)] }

/-- What the room remembers of a candidate that has become the authority. -/
def activated (room : Room) (s : Store) : Room :=
  { room with activations := room.activations ++ [{ materialized := s.materialized, newest := room.snapshot }] }

/-- `start`, behind `acquireLease`. -/
def startAcquired (room : Room) (i : Nat) (s : Store) (attempt : Nat) (reply : Option Bool) : Room × Store :=
  match reply with
  | some true =>
    (granted room i s.roomEpoch, { s with role := .active, journalFenced := true, starting := .loading none })
  | some false =>
    if s.env.configuredRole = .auto then (room, s.loadCandidate)
    else (room, { s with starting := .waiting (attempt + 1) })
  | none => (room, s.exit)

/-- `promoteCandidate`, behind `acquireLease`; the status it returns is that of a `handoffStatus` right after.  With no
`candidateStatus` the handler of the refusal fails itself. -/
def promoteAcquired (room : Room) (i : Nat) (s : Store) (expectedEpoch : Int) (expectedChecksum : String)
    (reply : Option Bool) : Room × Store :=
  let s := { s with candidatePromotionInFlight := false }
  match reply with
  | some true =>
    (activated (granted room i s.roomEpoch) s, { s with
      role := .active
      authorityChecksum := some expectedChecksum
      journalFenced := true
      candidateStatus := none
      ready := true })
  | _ =>
    match s.candidateStatus with
    | some status => (room, { s with roomEpoch := status.roomEpoch.getD expectedEpoch }.scheduleCandidateTakeover)
    | none => (room, s)

/-- The epoch that `recoverAbandonedLease` chooses. -/
def recoveredEpoch (s : Store) (roomEpoch : Option Int) : Int := max s.roomEpoch (roomEpoch.getD s.roomEpoch) + 1

/-- `recoverAbandonedLease`, behind `acquireLease`; an error other than a refusal ends the process. -/
def recoverAcquired (room : Room) (i : Nat) (s : Store) (roomEpoch : Option Int) (checksum : String)
    (reply : Option Bool) : Room × Store :=
  match reply with
  | some true =>
    (activated (granted room i (s.recoveredEpoch roomEpoch)) s, { s with
      roomEpoch := s.recoveredEpoch roomEpoch
      role := .active
      authorityChecksum := some checksum
      journalFenced := true
      candidateStatus := none })
  | some false => (room, s.scheduleCandidateTakeover)
  | none => (room, s.exit)

/-- Redis executes the `SET NX` of an acquisition. -/
def leaseSet (room : Room) (s : Store) (k : Nat) : Option (Room × Store) :=
  match s.acquisitions[k]? with
  | some { purpose, call := .issued } =>
    let (room, reply) := room.setLease s.env.owner
    some (room, { s with acquisitions := s.acquisitions.set k { purpose, call := .answered reply } })
  | _ => none

def acquired (room : Room) (i : Nat) (s : Store) (k : Nat) (lost : Bool) : Option (Room × Store) :=
  match s.acquisitions[k]? with
  | some a => (a.call.settle lost).map fun reply =>
    let s := { s with acquisitions := s.acquisitions.eraseIdx k }
    match a.purpose with
    | .start attempt => startAcquired room i s attempt reply
    | .promote expectedEpoch expectedChecksum => promoteAcquired room i s expectedEpoch expectedChecksum reply
    | .recover roomEpoch checksum => recoverAcquired room i s roomEpoch checksum reply
  | none => none

/-- The guard of `promoteCandidate`. -/
def Promotable (s : Store) (request : CandidatePromoteRequest) : Prop :=
  s.role = .candidate ∧ isSafeInteger request.expectedEpoch = true ∧ isSafeInteger request.nextEpoch = true ∧
    request.nextEpoch = request.expectedEpoch + 1 ∧ isChecksum request.expectedChecksum = true ∧
    ∃ status ∈ s.candidateStatus, status.ready = true ∧ status.checksum = some request.expectedChecksum

instance (s : Store) (request : CandidatePromoteRequest) : Decidable (s.Promotable request) := by
  unfold Promotable
  infer_instance

/-- `promoteCandidate`, up to `acquireLease`. -/
def promoteCandidate (s : Store) (request : CandidatePromoteRequest) : Option Store :=
  if s.Promotable request then
    some ({ s with
      candidateTakeoverTimer := false
      candidatePromotionInFlight := true
      roomEpoch := request.nextEpoch }.acquireLease (.promote request.expectedEpoch request.expectedChecksum))
  else none

/-- `recoverAbandonedLease`, up to `acquireLease`. -/
def recoverAbandonedLease (s : Store) : Option Store :=
  if s.candidateTakeoverTimer then
    let s := { s with candidateTakeoverTimer := false }
    if s.env.configuredRole ≠ .auto ∨ s.role ≠ .candidate ∨ s.ready = false ∨ s.candidatePromotionInFlight then
      if s.role = .candidate ∧ s.ready then some s.scheduleCandidateTakeover else some s
    else
      match s.candidateStatus with
      | none => some s.scheduleCandidateTakeover
      | some status =>
        match status.checksum with
        | none => some s.scheduleCandidateTakeover
        | some checksum =>
          if status.ready = false ∨ checksum = "" then some s.scheduleCandidateTakeover
          else some (s.acquireLease (.recover status.roomEpoch checksum))
  else none

/-! ### Seeding -/

/-- The status is one that the loader can give after it has read a snapshot and a chain of records behind it. -/
structure Answers (status : OpsiaHandoffStatusData) (reached : Option SnapshotView) : Prop where
  fields : (status.roomEpoch = none ∧ status.serverTick = none ∧ status.checksum = none) ∨
    ∃ v ∈ reached, status.roomEpoch = some (v.roomEpoch : Int) ∧ status.serverTick = some v.serverTick ∧
      status.checksum = some v.checksum
  ready : status.ready = true → status.checksum.isSome = true

instance (status : OpsiaHandoffStatusData) (reached : Option SnapshotView) : Decidable (Answers status reached) :=
  decidable_of_iff _ ⟨fun h => ⟨h.1, h.2⟩, fun h => (⟨h.fields, h.ready⟩ : _ ∧ _)⟩

/-- `seedCandidate`, up to the loader's answer. -/
def seedCandidate (s : Store) : Option Store :=
  if s.role = .candidate ∧ s.candidateLoader ∧ s.candidateSeedInFlight = false then
    some { s with candidateSeedInFlight := true, seedings := s.seedings ++ [{ atStart := false }] }
  else none

def seedRead (room : Room) (s : Store) (k : Nat) : Option Store :=
  match s.seedings[k]? with
  | some { atStart, read := none } => some { s with seedings := s.seedings.set k { atStart, read := some room.snapshot } }
  | _ => none

/-- Takes a seeding off the list. -/
def endSeeding (s : Store) (k : Nat) (seeding : Seeding) : Store :=
  { s with
    seedings := s.seedings.eraseIdx k
    candidateSeedInFlight := if seeding.atStart then s.candidateSeedInFlight else false }

/-- The loader rejects. -/
def seedRejected (s : Store) (k : Nat) : Option Store :=
  match s.seedings[k]? with
  | some seeding => some (if seeding.atStart then s.exit else s.endSeeding k seeding)
  | none => none

/-- What the game holds after a seeding is the envelope; after one that failed half-way it is not known. -/
def applyCandidateEnvelope (room : Room) (s : Store) (v : SnapshotView) (now : Nat) (restore : Except String Unit) :
    Store × Option String :=
  if s.sessions.any fun session => session.connected then (s, some "candidate_sessions_already_attached")
  else match restore with
    | .error message =>
      ({ s with materialized := none, capturedIn := none, acknowledged := false, syncedAt := none }, some message)
    | .ok () =>
      ({ s with
        snapshotTick := v.snapshotTick
        lastJournalEnvelope := some v
        materialized := some v
        capturedIn := none
        acknowledged := false
        syncedAt := if room.snapshot = some v then some room.stored.length else none
        owed := v.players
        owedUntil := now + 2 * 60000 }, none)

/-- The envelope that a seeding has reached; `none` when the chain of records does not fit. -/
def reached (seeding : Seeding) (chain : List JournalDelta) : Option (Option SnapshotView) :=
  match seeding.read with
  | some (some v) => (replayed v chain).map some
  | _ => some none

/-- Behind the loader's answer: the seeding is over, and what it has reached may be the snapshot stored now. -/
def arrival (room : Room) (s : Store) (k : Nat) (seeding : Seeding) (reached : Option SnapshotView) : Store :=
  { s.endSeeding k seeding with
    statusAt := if reached.isSome ∧ room.snapshot = reached then some room.stored.length else none }

/-- The envelope of an outcome that is ready is applied. -/
def applyOutcome (room : Room) (s : Store) (status : OpsiaHandoffStatusData) (reached : Option SnapshotView) (now : Nat)
    (restore : Except String Unit) : Store × Option String :=
  match reached with
  | some v => if status.ready then s.applyCandidateEnvelope room v now restore else (s, none)
  | none => (s, none)

/-- What the outcome leaves behind in `seedCandidate`. -/
def settleSeeding (s : Store) (status : OpsiaHandoffStatusData) (now : Nat) : Option String → Store
  | some reason => { s with candidateStatus := some { status with
      ready := false, phase := .blocked, caughtUp := some false, reason := some reason, observedAt := now } }
  | none => { s with candidateStatus := some status, authorityChecksum := status.checksum }

/-- What the outcome leaves behind in `start`, which ends the process when the envelope cannot be applied. -/
def settleStart (s : Store) (status : OpsiaHandoffStatusData) : Option String → Store
  | some _ => s.exit
  | none =>
    { s with
      candidateStatus := some status
      authorityChecksum := status.checksum
      starting := .started
      ready := true }.scheduleCandidateTakeover

/-- The continuation behind the loader's answer, in `start` and in `seedCandidate`. -/
def seedFinish (room : Room) (s : Store) (k now : Nat) (status : OpsiaHandoffStatusData) (chain : List JournalDelta)
    (restore : Except String Unit) : Option Store :=
  match s.seedings[k]? with
  | some seeding =>
    match reached seeding chain with
    | some reached =>
      if (∀ d ∈ chain, d ∈ room.journal) ∧ Answers status reached then
        let (s, error) := (s.arrival room k seeding reached).applyOutcome room status reached now restore
        some (if seeding.atStart then s.settleStart status error else s.settleSeeding status now error)
      else none
    | none => none
  | none => none

/-! ### Status, release and stop -/

/-- The checksum of the last save, or else the one the authority was taken over with. -/
def currentChecksum (s : Store) : Option String := s.writer.metrics.lastChecksum.or s.authorityChecksum

def handoffStatus (config : SnapshotRuntimeConfig) (s : Store) (now : Nat) : OpsiaHandoffStatusData :=
  if s.role = .candidate then
    s.candidateStatus.getD {
      role := .candidate, roomId := s.env.roomId, ready := false, phase := .waitingSnapshot
      reason := some "candidate_not_started", observedAt := now }
  else
    let metrics := s.writer.readMetrics config now
    let ready := s.ready && metrics.handoffEnabled
    { role := .active
      roomId := s.env.roomId
      ready
      phase := if ready then .active else .blocked
      roomEpoch := some s.roomEpoch
      serverTick := some metrics.serverTick
      checksum := s.currentChecksum
      caughtUp := some ready
      reason := if ready then none else some (metrics.lastError.getD "snapshot_handoff_disabled")
      observedAt := now }

/-- The last snapshot that the writer built under this epoch has been acknowledged, and nothing has been stored
since. -/
def SavedLast (room : Room) (s : Store) : Prop :=
  s.acknowledged = true ∧ s.syncedAt = some room.stored.length ∧ ∃ v ∈ s.materialized, (v.roomEpoch : Int) = s.roomEpoch

instance (room : Room) (s : Store) : Decidable (SavedLast room s) := by
  unfold SavedLast
  infer_instance

/-- `releaseActiveForHandoff`, up to its flush. -/
def releaseActiveForHandoff (s : Store) (request : ActiveReleaseRequest) : Option Store :=
  if s.role = .active ∧ isSafeInteger request.expectedEpoch = true ∧ request.expectedEpoch = s.roomEpoch ∧
      isChecksum request.expectedChecksum = true ∧ s.starting ≠ .constructed ∧
      s.currentChecksum = some request.expectedChecksum then
    some { s with releases := s.releases ++ [{ currentChecksum := request.expectedChecksum }] }
  else none

/-- The release goes on when the flush is over. -/
def releaseFlushed (room : Room) (s : Store) (k : Nat) : Option Store :=
  match s.releases[k]? with
  | some { currentChecksum, stage := .flushing, .. } =>
    if s.writer.loop = .idle then
      let checksum := s.writer.metrics.lastChecksum.getD currentChecksum
      some { s with
        authorityChecksum := some checksum
        releases := s.releases.set k {
          currentChecksum
          stage := .releasing s.call
          serverTick := s.writer.metrics.serverTick
          released :=
            if SavedLast room s then some (s.roomEpoch, s.writer.metrics.serverTick, checksum) else none
          versions := room.stored.length } }
    else none
  | _ => none

/-- Redis executes the release script. -/
def releaseLease (room : Room) (s : Store) (k : Nat) : Option (Room × Store) :=
  match s.releases[k]? with
  | some release =>
    if release.stage = .releasing .issued then
      some (room.releaseLease s.env.owner,
        { s with releases := s.releases.set k { release with stage := .releasing (.answered true) } })
    else none
  | none => none

/-- The status after a release. -/
def releasedStatus (s : Store) (release : Release) (now : Nat) : OpsiaHandoffStatusData where
  role := .candidate
  roomId := s.env.roomId
  ready := true
  phase := .seeded
  roomEpoch := some s.roomEpoch
  serverTick := some release.serverTick
  snapshotTick := some release.serverTick
  checksum := s.authorityChecksum
  caughtUp := some true
  observedAt := now

/-- The rest of `releaseActiveForHandoff`. -/
def released (room : Room) (s : Store) (k now : Nat) (lost : Bool) : Option (Room × Store) :=
  match s.releases[k]? with
  | some release =>
    match release.stage with
    | .flushing => none
    | .releasing call => (call.settle lost).map fun reply =>
      let s := { s with releases := s.releases.eraseIdx k }
      match reply with
      | none => (room, s)
      | some _ =>
        let status := s.releasedStatus release now
        ({ room with reports := room.reports ++ [{ status, newest := room.snapshot }] }, { s with
          role := .candidate
          journalFenced := false
          candidateLoader := true
          candidateStatus := some status
          statusAt := if status.triple = release.released then some release.versions else none })
  | none => none

/-- `stop`, up to its flush. -/
def stop (s : Store) : Option Store :=
  if s.stopping = .running then some { s with ready := false, candidateTakeoverTimer := false, stopping := .flushing }
  else none

def stopFlushed (s : Store) : Option Store :=
  if s.stopping = .flushing ∧ s.writer.loop = .idle then
    some { s with stopping := if s.role = .active then .releasing s.call else .stopped }
  else none

def stopLease (room : Room) (s : Store) : Option (Room × Store) :=
  if s.stopping = .releasing .issued then
    some (room.releaseLease s.env.owner, { s with stopping := .releasing (.answered true) })
  else none

def stopped (s : Store) (lost : Bool) : Option Store :=
  match s.stopping with
  | .releasing call => (call.settle lost).map fun reply =>
    { s with stopping := if reply.isSome then .stopped else .running }
  | _ => none

/-! ### Saving -/

variable (config : SnapshotRuntimeConfig)

/-- The factory of a save, with what `createSnapshotEnvelope` makes of it. -/
def factory (s : Store) (now serverTick : Nat) (capture : Except String Capture) : Store × Except String BuiltSnapshot :=
  match capture with
  | .error message => (s, .error message)
  | .ok c =>
    let live := s.sessions.map fun session => ⟨session.sessionId, c.states session.sessionId⟩
    let pendingPlayers :=
      if now < s.pendingRestoreUntil then
        s.pendingPlayers.filter fun player => decide (player.sessionId ∉ live.map LoosePlayerState.sessionId)
      else []
    let snapshotTick := max (s.snapshotTick + 1) serverTick
    let build :=
      if s.roomEpoch < 0 then .error "invalid_snapshot_context"
      else c.envelope.map fun (checksum, payloadBytes) => {
        roomEpoch := s.roomEpoch.toNat, serverTick, snapshotTick, checksum, players := live ++ pendingPlayers, payloadBytes }
    ({ s with pendingPlayers, snapshotTick }, build)

/-- The seeded players that are still to come, at a store that has become the authority. -/
def owedNow (s : Store) (now : Nat) : List LoosePlayerState :=
  if s.role = .active ∧ now < s.owedUntil then s.owed else []

/-- What is remembered of a snapshot that goes to `write`. -/
def recordBuild (room : Room) (s : Store) (now : Nat) (build : Except String BuiltSnapshot) : Room × Store :=
  match Writer.checkSize config build with
  | .ok b =>
    ({ room with written := room.written ++ [{ view := b.toSnapshotView, owed := s.owedNow now }] }, { s with
      materialized := some b.toSnapshotView
      capturedIn := some s.writer.executions.length
      acknowledged := false
      syncedAt := none })
  | .error _ => (room, s)

/-- A step of the writer. -/
def writerStep (s : Store) (event : WriterEvent) : Option Store :=
  (s.writer.step config event).map fun writer => { s with writer }

def save (room : Room) (s : Store) (now serverTick : Nat) (capture : Except String Capture) : Option (Room × Store) :=
  if s.role = .candidate ∨ s.ready = false then none
  else
    let s := { s with requestTicks := s.requestTicks ++ [serverTick] }
    if now < s.writer.circuitOpenUntil ∨ s.writer.loop ≠ .idle then
      (s.writerStep config (.request now (.error ""))).map fun s => (room, s)
    else
      let (s, build) := s.factory now serverTick capture
      let (room, s) := s.recordBuild config room now build
      (s.writerStep config (.request now build)).map fun s => (room, s)

/-- The exit check of the run loop, with the factory of the pending task if it takes it. -/
def exitCheck (room : Room) (s : Store) (now : Nat) (capture : Except String Capture) : Option (Room × Store) :=
  match s.writer.pending with
  | some task =>
    if now < s.writer.circuitOpenUntil then (s.writerStep config (.exitCheck now (.error ""))).map fun s => (room, s)
    else
      let (s, build) := s.factory now (s.requestTicks.getD task.request 0) capture
      let (room, s) := s.recordBuild config room now build
      (s.writerStep config (.exitCheck now build)).map fun s => (room, s)
  | none => (s.writerStep config (.exitCheck now (.error ""))).map fun s => (room, s)

/-- The result of an execution is that it was saved. -/
def Saved (s : Store) (i : Nat) : Prop :=
  (s.writer.executions[i]?.bind Execution.result).map SnapshotSaveResult.status = some .saved

instance (s : Store) (i : Nat) : Decidable (s.Saved i) := by
  unfold Saved
  infer_instance

def decideWrite (s : Store) (i now : Nat) : Option Store :=
  (s.writerStep config (.decide i now)).map fun s =>
    { s with acknowledged := s.acknowledged || decide (s.capturedIn = some i ∧ s.Saved i) }

/-- The write of an execution starts: `persistEnvelope` sends the save. -/
def writeStart (s : Store) (i : Nat) : Option Store :=
  match (s.writer.executions[i]?.bind Execution.built) with
  | some b => (s.writerStep config (.writeStart i)).map fun s =>
    { s with persisting := some { execution := i, view := b.toSnapshotView, stage := .saving s.call } }
  | none => none

/-- Redis executes the save script. -/
def saveSet (room : Room) (s : Store) : Option (Room × Store) :=
  match s.persisting with
  | some { execution, view, stage := .saving .issued } =>
    let (room, reply) := room.saveSnapshot s.env.owner view
    some (room, { s with
      persisting := some { execution, view, stage := .saving (.answered reply) }
      syncedAt := if reply ∧ s.capturedIn = some execution then some room.stored.length else s.syncedAt })
  | _ => none

/-- The promise of `persistEnvelope` settles. -/
def settleWrite (s : Store) (execution : Nat) (outcome : Except String Unit) : Option Store :=
  { s with persisting := none }.writerStep config (.settle execution outcome)

/-- The envelope that a delta is taken from, if one is due. -/
def deltaBase (s : Store) (view : SnapshotView) : Option SnapshotView :=
  s.lastJournalEnvelope.filter fun base =>
    decide (base.roomEpoch = view.roomEpoch ∧ base.serverTick < view.serverTick)

/-- `persistEnvelope` behind the save. -/
def saveAnswered (s : Store) (lost : Bool) (result : DeltaResult) : Option Store :=
  match s.persisting with
  | some { execution, view, stage := .saving call } =>
    match call.settle lost with
    | some (some true) =>
      match result, s.deltaBase view with
      | .failed message, _ => s.settleWrite config execution (.error message)
      | .delta, some base =>
        if s.journalFenced then
          some { s with persisting := some { execution, view, stage := .appending base s.call } }
        else s.settleWrite config execution (.error "room_journal_lease_required")
      | _, _ => { s with lastJournalEnvelope := some view }.settleWrite config execution (.ok ())
    | some (some false) => s.settleWrite config execution (.error "room_lease_lost")
    | some none => s.settleWrite config execution (.error "redis_connection_lost")
    | none => none
  | _ => none

/-- Redis executes the append script. -/
def appendSet (room : Room) (s : Store) : Option (Room × Store) :=
  match s.persisting with
  | some { execution, view, stage := .appending base .issued } =>
    let (room, reply) := room.append s.env.owner { base, target := view }
    some (room, { s with persisting := some { execution, view, stage := .appending base (.answered reply) } })
  | _ => none

/-- `persistEnvelope` behind the append. -/
def appendAnswered (s : Store) (lost : Bool) : Option Store :=
  match s.persisting with
  | some { execution, view, stage := .appending _ call } =>
    match call.settle lost with
    | some (some true) => { s with lastJournalEnvelope := some view }.settleWrite config execution (.ok ())
    | some (some false) => s.settleWrite config execution (.error "room_lease_lost")
    | some none => s.settleWrite config execution (.error "redis_connection_lost")
    | none => none
  | _ => none

/-! ### Steps -/

/-- Keeps the room as it is. -/
def keeping (room : Room) (s : Option Store) : Option (Room × Store) := s.map fun s => (room, s)

def authorityStep (room : Room) (i : Nat) (s : Store) : AuthorityEvent → Option (Room × Store)
  | .start => keeping room s.start
  | .retry => keeping room s.retry
  | .loadRead => keeping room (s.loadRead room)
  | .loadFinish now result => keeping room (s.loadFinish room now result)
  | .leaseSet k => s.leaseSet room k
  | .acquired k lost => s.acquired room i k lost
  | .promote request => keeping room (s.promoteCandidate request)
  | .takeover => keeping room s.recoverAbandonedLease
  | .seed => keeping room s.seedCandidate
  | .seedRead k => keeping room (s.seedRead room k)
  | .seedRejected k => keeping room (s.seedRejected k)
  | .seedFinish k now status chain restore => keeping room (s.seedFinish room k now status chain restore)
  | .release request => keeping room (s.releaseActiveForHandoff request)
  | .releaseFlushed k => keeping room (s.releaseFlushed room k)
  | .releaseLease k => s.releaseLease room k
  | .released k now lost => s.released room k now lost
  | .stop => keeping room s.stop
  | .stopFlushed => keeping room s.stopFlushed
  | .stopLease => s.stopLease room
  | .stopped lost => keeping room (s.stopped lost)

def savingStep (room : Room) (s : Store) : SaveEvent → Option (Room × Store)
  | .save now serverTick capture => s.save config room now serverTick capture
  | .exitCheck now capture => s.exitCheck config room now capture
  | .timer i => keeping room (s.writerStep config (.timer i))
  | .decide i now => keeping room (s.decideWrite config i now)
  | .deliver => keeping room (s.writerStep config .deliver)
  | .finish => keeping room (s.writerStep config .finish)
  | .writeStart i => keeping room (s.writeStart config i)
  | .saveSet => s.saveSet room
  | .saveAnswered lost result => keeping room (s.saveAnswered config lost result)
  | .appendSet => s.appendSet room
  | .appendAnswered lost => keeping room (s.appendAnswered config lost)

/-- Sessions come, lose their connection and are forgotten. -/
def sessionStep (s : Store) : SessionEvent → Store
  | .attach sessionId => { s with
    sessions := { sessionId, connected := true } :: s.sessions.filter fun session => session.sessionId ≠ sessionId
    owed := s.owed.filter fun player => player.sessionId ≠ sessionId }
  | .detach sessionId => { s with
    sessions := s.sessions.map fun session =>
      if session.sessionId = sessionId then { session with connected := false } else session }
  | .drop sessionId => { s with sessions := s.sessions.filter fun session => session.sessionId ≠ sessionId }

/-- A step of the process, or of Redis on its behalf; a dead process makes none. -/
def step (room : Room) (i : Nat) (s : Store) : StoreEvent → Option (Room × Store)
  | .authority event => if s.alive ∨ event.atRedis then s.authorityStep room i event else none
  | .saving event => if s.alive ∨ event.atRedis then s.savingStep config room event else none
  | .session event => if s.alive then some (room, s.sessionStep event) else none
  | .handoffStatus now =>
    if s.alive then
      some ({ room with reports := room.reports ++ [{ status := s.handoffStatus config now, newest := room.snapshot }] }, s)
    else none

end Store

/-- The room and every process there has been for it. -/
structure World where
  room : Room
  stores : List Store

inductive WorldEvent
  | boot (env : StoreEnv)
  | kill (store : Nat)
  | expire
  | at (store : Nat) (event : StoreEvent)

namespace World

/-- Before the first process; the keys may hold anything. -/
def init (lease : Option String) (stored : List SnapshotView) (journal : List JournalDelta) : World where
  room := { lease, stored, journal }
  stores := []

def step (config : SnapshotRuntimeConfig) (w : World) : WorldEvent → Option World
  | .boot env => some { w with stores := w.stores ++ [Store.boot env] }
  | .kill i => w.stores[i]?.map fun s => { w with stores := w.stores.set i s.exit }
  | .expire => some { w with room := { w.room with lease := none } }
  | .at i event =>
    match w.stores[i]? with
    | some s => (s.step config w.room i event).map fun (room, s) => { room, stores := w.stores.set i s }
    | none => none

end World

/-! ### Pieces of sample runs -/

namespace Sample

def limits : SnapshotRuntimeConfig := ⟨8388608, 3, 5000⟩

def env (configuredRole : OpsiaConfiguredRole) (owner : String) : StoreEnv := ⟨"room-1", configuredRole, ⟨1, one_safe⟩, owner⟩

def digestA : String := "aaaaaaaaaaaaaaaaaaaaaaaaaaaaaaaaaaaaaaaaaaaaaaaaaaaaaaaaaaaaaaaa"
def digestB : String := "bbbbbbbbbbbbbbbbbbbbbbbbbbbbbbbbbbbbbbbbbbbbbbbbbbbbbbbbbbbbbbbb"

/-- An event of the authority side of store `i`. -/
def auth (i : Nat) (event : AuthorityEvent) : WorldEvent := .at i (.authority event)

/-- An event of the saving side of store `i`. -/
def saves (i : Nat) (event : SaveEvent) : WorldEvent := .at i (.saving event)

/-- A first active starts in an empty room. -/
def startActive (i : Nat) : List WorldEvent :=
  [.boot (env .active "game-0"), auth i .start, auth i (.leaseSet 0), auth i (.acquired 0 false), auth i .loadRead,
    auth i (.loadFinish 0 .restored)]

def capture (digest : String) : Except String Capture := .ok ⟨fun _ => .null, .ok (digest, 100)⟩

/-- A save of the `n`-th snapshot, up to the answer of Redis. -/
def saveSent (i n serverTick : Nat) (digest : String) : List WorldEvent :=
  [saves i (.save serverTick serverTick (capture digest)), saves i (.writeStart n), saves i .saveSet,
    saves i (.saveAnswered false .delta)]

/-- The run loop ends behind a write that has settled. -/
def settled (i n : Nat) : List WorldEvent :=
  [saves i (.decide n 0), saves i .deliver, saves i (.exitCheck 0 (capture digestA)), saves i .finish]

/-- The status of a seeding that has reached a snapshot. -/
def seeded (serverTick : Nat) (digest : String) : OpsiaHandoffStatusData where
  role := .candidate
  roomId := "room-1"
  ready := true
  phase := .seeded
  roomEpoch := some 1
  serverTick := some serverTick
  checksum := some digest
  observedAt := 0

/-- An `auto` pod starts while the lease is held, and seeds itself. -/
def startCandidate (i serverTick : Nat) (digest : String) : List WorldEvent :=
  [.boot (env .auto "game-1"), auth i .start, auth i (.leaseSet 0), auth i (.acquired 0 false), auth i (.seedRead 0),
    auth i (.seedFinish 0 0 (seeded serverTick digest) [] (.ok ()))]

/-- The active releases the room. -/
def release (i : Nat) (digest : String) : List WorldEvent :=
  [auth i (.release ⟨1, digest⟩), auth i (.releaseFlushed 0), auth i (.releaseLease 0), auth i (.released 0 0 false)]

/-- The candidate is promoted. -/
def promote (i : Nat) (digest : String) : List WorldEvent :=
  [auth i (.promote ⟨1, 2, digest⟩), auth i (.leaseSet 0), auth i (.acquired 0 false)]

end Sample

end Opsia
