import Opsia.Candidate.Delta
import Opsia.Journal

/-!
# Seeding a candidate

`CandidateStateLoader.seed` reads the stored snapshot, replays journal records on it until the requested tick, and
reports the envelope it has reached, or why there is none.  A refusal is an `Except.ok` with a status that is not ready;
an `Except.error` is a rejected promise.
-/

namespace Opsia

open Json

inductive OpsiaRuntimeRole
  | active
  | candidate
deriving DecidableEq

inductive HandoffPhase
  | active
  | waitingSnapshot
  | seeded
  | blocked
deriving DecidableEq

structure OpsiaHandoffStatusData where
  role : OpsiaRuntimeRole
  roomId : String
  ready : Bool
  phase : HandoffPhase
  roomEpoch : Option Int := none
  serverTick : Option Nat := none
  snapshotTick : Option Nat := none
  checksum : Option String := none
  mapName : JsValue := .undefined
  players : JsValue := .undefined
  targetTick : Option JsNumber := none
  journalCursor : Option StreamId := none
  journalEntries : Option Nat := none
  scannedEntries : Option Nat := none
  caughtUp : Option Bool := none
  reason : Option String := none
  observedAt : Nat

structure CandidateSeedRequest where
  expectedEpoch : JsNumber
  targetTick : JsNumber
  expectedChecksum : Option String := none
  maxEntries : Option JsNumber := none

structure CandidateSeedOutcome where
  status : OpsiaHandoffStatusData
  envelope : Option GameSnapshotEnvelope := none

/-- `checksumPattern.test(text)`: 64 lower-case hexadecimal digits. -/
def isChecksum (text : String) : Bool := text.toList.length == 64 && text.toList.all isLowerHex

/-- `value.length`. -/
def lengthOf : JsValue → Except String JsValue
  | .undefined => .error "Cannot read properties of undefined (reading 'length')"
  | .null => .error "Cannot read properties of null (reading 'length')"
  | .arr items => .ok (.num (.ofNat items.length))
  | .str s => .ok (.num (.ofNat (utf16 s).length))
  | .obj fields => .ok (JsValue.field fields "length")
  | _ => .ok .undefined

/-- The input of `seedInternal`. -/
structure SeedInput where
  expectedEpoch : Option SafeNat
  targetTick : SafeNat
  expectedChecksum : Option String
  maxEntries : Nat

/-- The loader with what it will read: the stored snapshot, and the journal as each read of it finds it. -/
structure CandidateStateLoader where
  roomId : String
  mapName : String
  maxPayloadBytes : Nat
  readSnapshot : Except String (Option String)
  journal : RoomStateJournal
  journalReads : Nat → Except String (List StoredRecord)
  now : Nat

/-- Where replaying the journal has led. -/
structure Replayed where
  envelope : GameSnapshotEnvelope
  journalCursor : StreamId := ⟨0, 0⟩
  journalEntries : Nat := 0
  scannedEntries : Nat := 0

namespace CandidateStateLoader

variable (sha256 : List Char → HexDigest) (loader : CandidateStateLoader)

/-- What the loader asks of every envelope. -/
def expected : Expected := { roomId := some loader.roomId, maxPayloadBytes := some loader.maxPayloadBytes }

def statusForEnvelope (envelope : GameSnapshotEnvelope) : Except String OpsiaHandoffStatusData :=
  (lengthOf (JsValue.field envelope.payload "players")).map fun players => {
    role := .candidate
    roomId := loader.roomId
    ready := false
    phase := .blocked
    roomEpoch := some envelope.roomEpoch.val
    serverTick := some envelope.serverTick
    snapshotTick := some envelope.snapshotTick
    checksum := some envelope.checksum
    mapName := JsValue.field envelope.payload "mapName"
    players
    observedAt := loader.now }

/-- `blocked` without an envelope. -/
def blocked (reason : String) (targetTick : JsNumber) : CandidateSeedOutcome where
  status := {
    role := .candidate, roomId := loader.roomId, ready := false, phase := .blocked, observedAt := loader.now
    targetTick := some targetTick, caughtUp := some false, reason := some reason }

/-- `blocked` with the envelope reached so far. -/
def blockedAt (reason : String) (targetTick : JsNumber) (envelope : GameSnapshotEnvelope) :
    Except String CandidateSeedOutcome :=
  (loader.statusForEnvelope envelope).map fun status => { status := { status with
    ready := false, phase := .blocked, targetTick := some targetTick, caughtUp := some false, reason := some reason } }

def waiting (reason : String) (targetTick : JsNumber) : CandidateSeedOutcome where
  status := {
    role := .candidate, roomId := loader.roomId, ready := false, phase := .waitingSnapshot
    targetTick := some targetTick, caughtUp := some false, reason := some reason, observedAt := loader.now }

/-- `envelope.payload.mapName === this.mapName`. -/
def OnMap (envelope : GameSnapshotEnvelope) : Prop :=
  (JsValue.field envelope.payload "mapName").asStr? = some loader.mapName

instance (envelope : GameSnapshotEnvelope) : Decidable (loader.OnMap envelope) := by unfold OnMap; infer_instance

/-- One round of the loop over the journal records.  An error comes with the envelope it is reported with. -/
def applyRecord (finalEnvelope : GameSnapshotEnvelope) (record : RoomJournalRecord) :
    Except (String × GameSnapshotEnvelope) GameSnapshotEnvelope :=
  if record.eventType = "state-delta" then
    match applySnapshotEnvelopeDelta sha256 finalEnvelope record.payload loader.expected with
    | .error message => .error (message, finalEnvelope)
    | .ok envelope =>
      if envelope.serverTick ≠ record.serverTick ∨ ¬loader.OnMap envelope then
        .error ("candidate_journal_delta_mismatch", envelope)
      else .ok envelope
  else if record.eventType ≠ "state-checkpoint" then .ok finalEnvelope
  else
    match verifySnapshotEnvelope sha256 record.payload loader.expected with
    | .error message => .error (message, finalEnvelope)
    | .ok checkpoint =>
      if checkpoint.roomEpoch ≠ finalEnvelope.roomEpoch ∨ checkpoint.serverTick ≠ record.serverTick ∨
          ¬loader.OnMap checkpoint then
        .error ("candidate_journal_envelope_mismatch", finalEnvelope)
      else .ok checkpoint

/-- The options of the catch-up behind an envelope. -/
def catchUpOptions (input : SeedInput) (envelope : GameSnapshotEnvelope) : JournalCatchUpOptions where
  afterTick := envelope.serverTick
  targetTick := input.targetTick
  roomEpoch := envelope.roomEpoch
  maxEntries := input.maxEntries

/-- Brings the stored envelope up to the requested tick. -/
def replay (input : SeedInput) (envelope : GameSnapshotEnvelope) : Except (String × GameSnapshotEnvelope) Replayed :=
  if envelope.serverTick < input.targetTick then
    match catchUp sha256 loader.journal loader.journalReads (catchUpOptions input envelope) with
    | .error message => .error (message, envelope)
    | .ok result => (result.entries.foldlM (loader.applyRecord sha256) envelope).map fun finalEnvelope => {
        envelope := finalEnvelope
        journalCursor := result.cursor
        journalEntries := result.entries.length
        scannedEntries := result.scannedEntries }
  else .ok { envelope }

/-- The gates after the replay. -/
def conclude (input : SeedInput) (replayed : Replayed) : Except String CandidateSeedOutcome :=
  let finalEnvelope := replayed.envelope
  if finalEnvelope.serverTick < input.targetTick then
    (loader.statusForEnvelope finalEnvelope).map fun status => { status := { status with
      ready := false
      phase := .blocked
      targetTick := some (.ofNat input.targetTick)
      journalCursor := some replayed.journalCursor
      journalEntries := some replayed.journalEntries
      scannedEntries := some replayed.scannedEntries
      caughtUp := some false
      reason := some "candidate_not_caught_up" } }
  else if ∃ checksum ∈ input.expectedChecksum, finalEnvelope.checksum ≠ checksum then
    loader.blockedAt "candidate_checksum_mismatch" (.ofNat input.targetTick) finalEnvelope
  else (loader.statusForEnvelope finalEnvelope).map fun status => {
    envelope := some finalEnvelope
    status := { status with
      ready := true
      phase := .seeded
      targetTick := some (.ofNat (if input.targetTick.val = 0 then finalEnvelope.serverTick else input.targetTick))
      journalCursor := some replayed.journalCursor
      journalEntries := some replayed.journalEntries
      scannedEntries := some replayed.scannedEntries
      caughtUp := some true } }

def seedInternal (input : SeedInput) : Except String CandidateSeedOutcome :=
  let targetTick := JsNumber.ofNat input.targetTick
  match loader.readSnapshot with
  | .error message => .ok (loader.blocked message targetTick)
  | .ok serialized =>
    match serialized.filter fun text => decide (text ≠ "") with
    | none => .ok (loader.waiting "candidate_snapshot_missing" targetTick)
    | some text =>
      match parseSnapshotEnvelope sha256 text loader.expected with
      | .error message => .ok (loader.blocked message targetTick)
      | .ok envelope =>
        if ¬loader.OnMap envelope then loader.blockedAt "candidate_map_mismatch" targetTick envelope
        else if ∃ epoch ∈ input.expectedEpoch, envelope.roomEpoch ≠ epoch then
          loader.blockedAt "candidate_epoch_mismatch" targetTick envelope
        else
          match loader.replay sha256 input envelope with
          | .error (reason, reached) => loader.blockedAt reason targetTick reached
          | .ok replayed => loader.conclude input replayed

def loadLatest (expectedEpoch : Option SafeNat) : Except String CandidateSeedOutcome :=
  loader.seedInternal sha256 { expectedEpoch, targetTick := ⟨0, by decide⟩, expectedChecksum := none, maxEntries := 1 }

/-- `request.maxEntries ?? 128`, between 1 and 512. -/
def readMaxEntries? : Option JsNumber → Option Nat
  | none => some 128
  | some x => (x.safeNat?.filter fun n => decide (1 ≤ n.val ∧ n.val ≤ 512)).map fun n => n.val

/-- The request, when `seed` accepts it. -/
def readRequest? (request : CandidateSeedRequest) : Option SeedInput := do
  let expectedEpoch ← request.expectedEpoch.safeNat?
  let targetTick ← request.targetTick.safeNat?
  guard (∀ checksum ∈ request.expectedChecksum, isChecksum checksum = true)
  let maxEntries ← readMaxEntries? request.maxEntries
  return { expectedEpoch := some expectedEpoch, targetTick, expectedChecksum := request.expectedChecksum, maxEntries }

def seed (request : CandidateSeedRequest) : Except String CandidateSeedOutcome :=
  match readRequest? request with
  | none => .ok (loader.blocked "candidate_seed_invalid" request.targetTick)
  | some input => loader.seedInternal sha256 input

end CandidateStateLoader

end Opsia
