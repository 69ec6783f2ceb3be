import Opsia.Snapshot.Checksum

/-!
# Snapshot envelopes

An envelope carries a payload with the room, epoch and ticks it was taken at, and a checksum over all of it.
`createSnapshotEnvelope` builds one, `verifySnapshotEnvelope` reads one from any value.  The two do not check the same
fields: `FieldChecks` is what verification asks beyond the types.
-/

namespace Opsia

open Json

inductive ChecksumEncoding
  | canonicalJson
  | orderedJson
deriving DecidableEq

namespace ChecksumEncoding

def text : ChecksumEncoding → String
  | canonicalJson => "canonical-json"
  | orderedJson => "ordered-json"

/-- The optional `checksumEncoding` field. -/
def read? : JsValue → Option (Option ChecksumEncoding)
  | .undefined => some none
  | .str s => if s = "canonical-json" then some (some canonicalJson)
    else if s = "ordered-json" then some (some orderedJson) else none
  | _ => none

def toFields : Option ChecksumEncoding → Fields JsValue
  | some e => [("checksumEncoding", .str e.text)]
  | none => []

end ChecksumEncoding

structure SnapshotEnvelopeContext where
  roomId : String
  roomEpoch : JsNumber
  serverTick : JsNumber
  snapshotTick : JsNumber
  gameBuildRevision : String
  mapSeed : JsNumber
  /-- `context.createdAt ?? Date.now()` -/
  createdAt : JsNumber

structure GameSnapshotEnvelope where
  payloadSchemaVersion : SafeNat
  roomId : String
  roomEpoch : SafeNat
  serverTick : SafeNat
  snapshotTick : SafeNat
  gameBuildRevision : String
  mapSeed : JsNumber
  createdAt : JsNumber
  checksumEncoding : Option ChecksumEncoding
  checksum : String
  payload : Fields JsValue
deriving DecidableEq

/-- A successful result, or the given error. -/
def orThrow {α : Type} (x : Option α) (reason : String) : Except String α :=
  match x with
  | some a => .ok a
  | none => .error reason

/-- Throws when the condition holds. -/
def refuse (p : Prop) [Decidable p] (reason : String) : Except String Unit := if p then .error reason else .ok ()

theorem orThrow_eq_ok {α : Type} {x : Option α} {reason : String} {a : α} :
    orThrow x reason = .ok a ↔ x = some a := by
  cases x <;> simp [orThrow]

theorem refuse_eq_ok {p : Prop} [Decidable p] {reason : String} {u : Unit} : refuse p reason = .ok u ↔ ¬p := by
  unfold refuse
  split <;> simp_all

theorem bind_eq_ok {ε α β : Type} {r : Except ε α} {f : α → Except ε β} {b : β} :
    r >>= f = .ok b ↔ ∃ a, r = .ok a ∧ f a = .ok b := by
  cases r <;> simp [bind, Except.bind]

namespace GameSnapshotEnvelope

/-- The fields before `payload`. -/
def header (e : GameSnapshotEnvelope) : Fields JsValue :=
  [("kind", .str "opsia.game-snapshot"), ("schemaVersion", .num (.ofNat 1)),
    ("payloadSchemaVersion", .num (.ofNat e.payloadSchemaVersion)), ("roomId", .str e.roomId),
    ("roomEpoch", .num (.ofNat e.roomEpoch)), ("serverTick", .num (.ofNat e.serverTick)),
    ("snapshotTick", .num (.ofNat e.snapshotTick)), ("gameBuildRevision", .str e.gameBuildRevision),
    ("mapSeed", .num e.mapSeed), ("createdAt", .num e.createdAt), ("checksumAlgorithm", .str "sha256")] ++
    ChecksumEncoding.toFields e.checksumEncoding

/-- `envelopeContent`: what the checksum is taken of. -/
def content (e : GameSnapshotEnvelope) : JsValue := .obj (e.header ++ [("payload", .obj e.payload)])

/-- The envelope as an object. -/
def toRecord (e : GameSnapshotEnvelope) : Fields JsValue :=
  e.header ++ [("payload", .obj e.payload), ("checksum", .str e.checksum)]

/-- The checks on single fields that verification makes. -/
def FieldChecks (e : GameSnapshotEnvelope) : Prop :=
  (utf16 e.checksum).length = 64 ∧ e.roomId ≠ "" ∧ e.gameBuildRevision ≠ "" ∧ e.mapSeed.isFinite = true ∧
    e.createdAt.safeNat?.isSome ∧ 1 ≤ e.payloadSchemaVersion.val ∧
    (JsValue.field e.payload "schemaVersion").asSafeNat? = some e.payloadSchemaVersion ∧
    ∀ id ∈ (JsValue.field e.payload "roomId").asStr?, id = e.roomId

instance (e : GameSnapshotEnvelope) : Decidable e.FieldChecks := by unfold FieldChecks; infer_instance

end GameSnapshotEnvelope

section

variable (sha256 : List Char → HexDigest)

def envelopeChecksum (e : GameSnapshotEnvelope) : Except String String :=
  if e.checksumEncoding = some .orderedJson then checksumOrderedValue sha256 e.content
  else checksumValue sha256 e.content

/-- The encoding a payload asks for. -/
def payloadEncoding (payload : Fields JsValue) : ChecksumEncoding :=
  if (JsValue.field payload "stateChecksumAlgorithm").asStr? = some "ordered-json-sha256" then .orderedJson
  else .canonicalJson

/-- `payload.schemaVersion`, when it is a safe integer and at least one. -/
def payloadSchema? (payload : Fields JsValue) : Option SafeNat :=
  (JsValue.field payload "schemaVersion").asSafeNat?.filter fun n => decide (1 ≤ n.val)

def createSnapshotEnvelope (payload : Fields JsValue) (context : SnapshotEnvelopeContext) :
    Except String GameSnapshotEnvelope := do
  refuse (context.roomId = "") "invalid_snapshot_context"
  let roomEpoch ← orThrow context.roomEpoch.safeNat? "invalid_snapshot_context"
  let serverTick ← orThrow context.serverTick.safeNat? "invalid_snapshot_server_tick"
  let snapshotTick ← orThrow context.snapshotTick.safeNat? "invalid_snapshot_tick"
  let payloadSchemaVersion ← orThrow (payloadSchema? payload) "invalid_snapshot_payload_schema"
  let unsigned : GameSnapshotEnvelope := {
    payloadSchemaVersion, roomEpoch, serverTick, snapshotTick, payload
    roomId := context.roomId
    gameBuildRevision := context.gameBuildRevision
    mapSeed := context.mapSeed
    createdAt := context.createdAt
    checksumEncoding := some (payloadEncoding payload)
    checksum := "" }
  let checksum ← envelopeChecksum sha256 unsigned
  return { unsigned with checksum }

/-- What a caller expects of an envelope. -/
structure Expected where
  roomId : Option String := none
  maxPayloadBytes : Option Nat := none

/-- The envelope in a record, when every field passes its check. -/
def readEnvelope? (fs : Fields JsValue) : Option GameSnapshotEnvelope := do
  guard ((JsValue.field fs "kind").asStr? = some "opsia.game-snapshot")
  guard ((JsValue.field fs "schemaVersion").asSafeNat? = some ⟨1, one_safe⟩)
  guard ((JsValue.field fs "checksumAlgorithm").asStr? = some "sha256")
  let checksumEncoding ← ChecksumEncoding.read? (JsValue.field fs "checksumEncoding")
  let checksum ← (JsValue.field fs "checksum").asStr?
  let roomId ← (JsValue.field fs "roomId").asStr?
  let roomEpoch ← (JsValue.field fs "roomEpoch").asSafeNat?
  let serverTick ← (JsValue.field fs "serverTick").asSafeNat?
  let snapshotTick ← (JsValue.field fs "snapshotTick").asSafeNat?
  let gameBuildRevision ← (JsValue.field fs "gameBuildRevision").asStr?
  let mapSeed ← (JsValue.field fs "mapSeed").asNum?
  let createdAt ← (JsValue.field fs "createdAt").asNum?
  let payload ← (JsValue.field fs "payload").asRecord?
  let payloadSchemaVersion ← (JsValue.field fs "payloadSchemaVersion").asSafeNat?
  let e : GameSnapshotEnvelope := {
    payloadSchemaVersion, roomId, roomEpoch, serverTick, snapshotTick, gameBuildRevision, mapSeed, createdAt,
    checksumEncoding, checksum, payload }
  guard e.FieldChecks
  return e

/-- `Buffer.byteLength(JSON.stringify(value), "utf8")`. -/
def textBytes (v : JsValue) : Nat := (String.ofList (write v.detach)).utf8ByteSize

def verifySnapshotEnvelope (value : JsValue) (expected : Expected := {}) : Except String GameSnapshotEnvelope := do
  let e ← orThrow (value.asRecord?.bind readEnvelope?) "invalid_snapshot_envelope"
  refuse (∃ id ∈ expected.roomId, e.roomId ≠ id) "snapshot_room_mismatch"
  refuse (∃ n ∈ expected.maxPayloadBytes, n < textBytes value) "snapshot_payload_too_large"
  let calculated ← envelopeChecksum sha256 e
  refuse (hexBytes e.checksum.toList ≠ hexBytes calculated.toList) "snapshot_checksum_mismatch"
  return e

def parseSnapshotEnvelope (serialized : String) (expected : Expected := {}) : Except String GameSnapshotEnvelope := do
  refuse (∃ n ∈ expected.maxPayloadBytes, n < serialized.utf8ByteSize) "snapshot_payload_too_large"
  let parsed ← orThrow (parse serialized) "invalid_snapshot_json"
  verifySnapshotEnvelope sha256 parsed expected

/-! ### What a created envelope satisfies -/

theorem createSnapshotEnvelope_eq_ok {payload : Fields JsValue} {context : SnapshotEnvelopeContext}
    {e : GameSnapshotEnvelope} (h : createSnapshotEnvelope sha256 payload context = .ok e) :
    e.payload = payload ∧ e.roomId = context.roomId ∧ e.roomId ≠ "" ∧ context.roomEpoch.safeNat? = some e.roomEpoch ∧
      context.serverTick.safeNat? = some e.serverTick ∧ e.checksumEncoding = some (payloadEncoding payload) ∧
      payloadSchema? payload = some e.payloadSchemaVersion ∧
      envelopeChecksum sha256 { e with checksum := "" } = .ok e.checksum := by
  unfold createSnapshotEnvelope at h
  simp only [bind_eq_ok, refuse_eq_ok, orThrow_eq_ok] at h
  obtain ⟨_, hid, epoch, he, tick, ht, stick, hs, schema, hp, checksum, hc, h⟩ := h
  cases h
  exact ⟨rfl, rfl, hid, he, ht, rfl, hp, hc⟩

/-- The checksum of an envelope does not depend on the checksum field. -/
@[simp] theorem envelopeChecksum_checksum (e : GameSnapshotEnvelope) (checksum : String) :
    envelopeChecksum sha256 { e with checksum } = envelopeChecksum sha256 e := rfl

/-- The text that the checksum of an envelope is taken of. -/
def checksumText (e : GameSnapshotEnvelope) : Except String (List Char) :=
  if e.checksumEncoding = some .orderedJson then orderedText e.content else canonicalJson e.content

theorem envelopeChecksum_eq_ok {e : GameSnapshotEnvelope} {checksum : String} :
    envelopeChecksum sha256 e = .ok checksum ↔ ∃ text, checksumText e = .ok text ∧ (sha256 text).text = checksum := by
  unfold envelopeChecksum checksumText checksumOrderedValue checksumValue
  split <;> exact map_eq_ok

/-- The numbers in the header of an envelope with a checksum are finite. -/
theorem envelopeChecksum_number {e : GameSnapshotEnvelope} {checksum : String}
    (h : envelopeChecksum sha256 e = .ok checksum) {key : String} {x : JsNumber} (hx : (key, JsValue.num x) ∈ e.header) :
    x.isFinite = true := by
  have hm : (key, JsValue.num x) ∈ e.header ++ [("payload", .obj e.payload)] := List.mem_append_left _ hx
  obtain ⟨text, htext, -⟩ := (envelopeChecksum_eq_ok sha256).1 h
  unfold checksumText at htext
  split at htext
  · exact allFinite_obj.1 (allFinite_of_orderedText htext) _ hm
  · obtain ⟨t, ht⟩ := canonical_obj.1 ⟨text, htext⟩ _ (List.mem_filter.2 ⟨hm, rfl⟩)
    simp only [canonicalJson] at ht
    split at ht
    · assumption
    · cases ht

theorem envelopeChecksum_mapSeed {e : GameSnapshotEnvelope} {checksum : String}
    (h : envelopeChecksum sha256 e = .ok checksum) : e.mapSeed.isFinite = true := by
  have hseed : ("mapSeed", JsValue.num e.mapSeed) ∈ e.header := by simp [GameSnapshotEnvelope.header]
  exact envelopeChecksum_number sha256 h hseed

/-! ### Reading an envelope back -/

open GameSnapshotEnvelope in
/-- A record that has the fields of an envelope is read as that envelope, if it passes the field checks. -/
theorem readEnvelope?_eq {fs : Fields JsValue} {e : GameSnapshotEnvelope}
    (h : ∀ key, JsValue.field fs key = JsValue.field e.toRecord key) :
    readEnvelope? fs = if e.FieldChecks then some e else none := by
  have hone : (JsNumber.ofNat 1).safeNat? = some ⟨1, by decide⟩ := JsNumber.safeNat?_ofNat ⟨1, by decide⟩
  have hnat : ∀ n : SafeNat, (JsNumber.ofNat n).safeNat? = some n := JsNumber.safeNat?_ofNat
  have henc : ChecksumEncoding.read? (JsValue.field e.toRecord "checksumEncoding") = some e.checksumEncoding := by
    unfold toRecord header
    cases e.checksumEncoding with
    | none => rfl
    | some c => cases c <;> rfl
  have hpayload : JsValue.field e.toRecord "payload" = .obj e.payload := by
    unfold toRecord header
    cases e.checksumEncoding <;> rfl
  have hchecksum : JsValue.field e.toRecord "checksum" = .str e.checksum := by
    unfold toRecord header
    cases e.checksumEncoding <;> rfl
  have h1 : JsValue.field e.toRecord "kind" = .str "opsia.game-snapshot" := rfl
  have h2 : JsValue.field e.toRecord "schemaVersion" = .num (.ofNat 1) := rfl
  have h3 : JsValue.field e.toRecord "checksumAlgorithm" = .str "sha256" := rfl
  have h4 : JsValue.field e.toRecord "roomId" = .str e.roomId := rfl
  have h5 : JsValue.field e.toRecord "roomEpoch" = .num (.ofNat e.roomEpoch) := rfl
  have h6 : JsValue.field e.toRecord "serverTick" = .num (.ofNat e.serverTick) := rfl
  have h7 : JsValue.field e.toRecord "snapshotTick" = .num (.ofNat e.snapshotTick) := rfl
  have h8 : JsValue.field e.toRecord "gameBuildRevision" = .str e.gameBuildRevision := rfl
  have h9 : JsValue.field e.toRecord "mapSeed" = .num e.mapSeed := rfl
  have h10 : JsValue.field e.toRecord "createdAt" = .num e.createdAt := rfl
  have h11 : JsValue.field e.toRecord "payloadSchemaVersion" = .num (.ofNat e.payloadSchemaVersion) := rfl
  unfold readEnvelope?
  simp only [h, h1, h2, h3, h4, h5, h6, h7, h8, h9, h10, h11, hpayload, hchecksum, henc, JsValue.asStr?, JsValue.asNum?,
    JsValue.asSafeNat?, JsValue.asRecord?, Option.bind_some, hnat, hone, guard, if_true]
  by_cases hc : e.FieldChecks
  · simp [hc]
  · simp [hc]

/-- When verification succeeds. -/
theorem verifySnapshotEnvelope_eq_ok {value : JsValue} {expected : Expected} {e : GameSnapshotEnvelope} :
    verifySnapshotEnvelope sha256 value expected = .ok e ↔
      value.asRecord?.bind readEnvelope? = some e ∧ (∀ id ∈ expected.roomId, e.roomId = id) ∧
        (∀ n ∈ expected.maxPayloadBytes, textBytes value ≤ n) ∧
        ∃ calculated, envelopeChecksum sha256 e = .ok calculated ∧
          hexBytes e.checksum.toList = hexBytes calculated.toList := by
  unfold verifySnapshotEnvelope
  simp only [bind_eq_ok, refuse_eq_ok, orThrow_eq_ok]
  constructor
  · rintro ⟨e', he, _, hroom, _, hsize, calculated, hc, _, hhex, h⟩
    cases h
    push Not at hroom hsize hhex
    exact ⟨he, hroom, hsize, calculated, hc, hhex⟩
  · rintro ⟨he, hroom, hsize, calculated, hc, hhex⟩
    exact ⟨e, he, (), by push Not; exact hroom, (), by push Not; exact hsize, calculated, hc, (), by simpa using hhex, rfl⟩

end

end Opsia
