import Opsia.Snapshot.Envelope

/-!
# Snapshot deltas

A delta patches the payload of one envelope into the payload of a later one: `createSnapshotEnvelopeDelta` compares the
two payloads and lists operations addressed by path, `applySnapshotEnvelopeDelta` replays them on a copy of the base
payload and verifies what comes out.  The source patches the copy in place; here each operation gives a new payload.
-/

namespace Opsia

open Json

inductive PathSegment
  | key (k : String)
  | index (n : Nat)
deriving DecidableEq

abbrev Path := List PathSegment

inductive SnapshotDeltaOperation
  | set (path : Path) (value : JsValue)
  | delete (path : Path)
  | truncate (path : Path) (length : Nat)

namespace SnapshotDeltaOperation

def path : SnapshotDeltaOperation → Path
  | set p _ => p
  | delete p => p
  | truncate p _ => p

end SnapshotDeltaOperation

/-- `JSON.parse(JSON.stringify(value))` for a value other than `undefined` (`cloneJson_eq`). -/
def cloneJson (v : JsValue) : JsValue := v.detach

theorem cloneJson_eq {v : JsValue} (hw : v.WellFormed) (hu : v.isUndefined = false) :
    (stringify v).bind parse = some (cloneJson v) := by
  have hs : stringify v = some (String.ofList (write v.detach)) := by simp [stringify, hu]
  rw [hs, Option.bind_some, parse_stringify hw hs, cloneJson]

/-! ### Comparing two payloads -/

/-- `Object.is`, for values that share no arrays or objects. -/
def objectIs : JsValue → JsValue → Bool
  | .undefined, .undefined => true
  | .null, .null => true
  | .bool a, .bool b => a == b
  | .num x, .num y => decide (x = y)
  | .str s, .str t => s == t
  | _, _ => false

/-- Deletes the keys that are gone, in sorted order. -/
def deleteOperations (before after : Fields JsValue) (path : Path) : List SnapshotDeltaOperation :=
  ((before.keys.insertionSort keyLe).filter fun k => decide (k ∉ after.keys)).map fun k => .delete (path ++ [.key k])

mutual

/-- The operations that turn `before` into `after`, both parsed from JSON.  An inherited name such as `toString` counts
as present in the source, but what is read there is a function, so the operation is the one for an absent key. -/
def appendDeltaOperations (before : JsValue) : JsValue → Path → List SnapshotDeltaOperation
  | .arr items, path =>
    match before with
    | .arr bs =>
      appendItemOperations bs items 0 path ++
        if items.length < bs.length then [.truncate path items.length] else []
    | _ => [.set path (cloneJson (.arr items))]
  | .obj fields, path =>
    match before with
    | .obj bs =>
      deleteOperations bs fields path ++ (Fields.sortByKey (appendFieldOperations bs fields path)).flatMap Prod.snd
    | _ => [.set path (cloneJson (.obj fields))]
  | .undefined, path => if objectIs before .undefined then [] else [.set path (cloneJson .undefined)]
  | .null, path => if objectIs before .null then [] else [.set path (cloneJson .null)]
  | .bool b, path => if objectIs before (.bool b) then [] else [.set path (cloneJson (.bool b))]
  | .num x, path => if objectIs before (.num x) then [] else [.set path (cloneJson (.num x))]
  | .str s, path => if objectIs before (.str s) then [] else [.set path (cloneJson (.str s))]

/-- The operations for the elements from position `i` on: the shared ones are compared, the others added. -/
def appendItemOperations : List JsValue → List JsValue → Nat → Path → List SnapshotDeltaOperation
  | _, [], _, _ => []
  | b :: bs, v :: vs, i, path => appendDeltaOperations b v (path ++ [.index i]) ++ appendItemOperations bs vs (i + 1) path
  | [], v :: vs, i, path => .set (path ++ [.index i]) (cloneJson v) :: appendItemOperations [] vs (i + 1) path

/-- The operations for each key of the later object. -/
def appendFieldOperations (bs : Fields JsValue) :
    List (String × JsValue) → Path → List (String × List SnapshotDeltaOperation)
  | [], _ => []
  | (k, v) :: fs, path =>
    (k, match bs.get? k with
      | some b => appendDeltaOperations b v (path ++ [.key k])
      | none => [.set (path ++ [.key k]) (cloneJson v)]) :: appendFieldOperations bs fs path

end

structure SnapshotEnvelopeDelta where
  baseChecksum : String
  baseServerTick : SafeNat
  target : Fields JsValue
  operations : List SnapshotDeltaOperation

def createSnapshotEnvelopeDelta (base targetEnvelope : GameSnapshotEnvelope) : Except String SnapshotEnvelopeDelta := do
  refuse (base.roomId ≠ targetEnvelope.roomId ∨ base.roomEpoch ≠ targetEnvelope.roomEpoch ∨
    targetEnvelope.serverTick ≤ base.serverTick) "snapshot_delta_context_mismatch"
  let before := cloneJson (.obj base.payload)
  let after := cloneJson (.obj targetEnvelope.payload)
  return {
    baseChecksum := base.checksum
    baseServerTick := base.serverTick
    target := targetEnvelope.toRecord.remove "payload"
    operations := appendDeltaOperations before after [] }

/-! ### Deltas as values -/

def PathSegment.toJs : PathSegment → JsValue
  | key k => .str k
  | index n => .num (.ofNat n)

def SnapshotDeltaOperation.toJs : SnapshotDeltaOperation → JsValue
  | set p v => .obj [("op", .str "set"), ("path", .arr (p.map PathSegment.toJs)), ("value", v)]
  | delete p => .obj [("op", .str "delete"), ("path", .arr (p.map PathSegment.toJs))]
  | truncate p n =>
    .obj [("op", .str "truncate"), ("path", .arr (p.map PathSegment.toJs)), ("length", .num (.ofNat n))]

def SnapshotEnvelopeDelta.toJs (d : SnapshotEnvelopeDelta) : JsValue :=
  .obj [("kind", .str "opsia.snapshot-delta"), ("schemaVersion", .num (.ofNat 1)), ("baseChecksum", .str d.baseChecksum),
    ("baseServerTick", .num (.ofNat d.baseServerTick)), ("target", .obj d.target),
    ("operations", .arr (d.operations.map SnapshotDeltaOperation.toJs))]

/-! ### Applying operations -/

def unsafePathKey (k : String) : Bool := k == "__proto__" || k == "prototype" || k == "constructor"

/-- The names that `in` finds on every object. -/
def inheritedKeys : List String :=
  ["constructor", "__defineGetter__", "__defineSetter__", "hasOwnProperty", "__lookupGetter__", "__lookupSetter__",
    "isPrototypeOf", "propertyIsEnumerable", "toString", "valueOf", "__proto__", "toLocaleString"]

def validateSegment : JsValue → Option PathSegment
  | .str k => if unsafePathKey k then none else some (.key k)
  | .num x => x.safeNat?.map fun n => .index n
  | _ => none

def validatePath (v : JsValue) : Except String Path :=
  match v with
  | .arr segments =>
    if 64 < segments.length then .error "snapshot_delta_path_invalid"
    else orThrow (segments.mapM validateSegment) "snapshot_delta_path_invalid"
  | _ => .error "snapshot_delta_path_invalid"

/-- Changes the child at an existing place; the step that `deltaParent` takes. -/
def descend (parent : JsValue) (segment : PathSegment) (f : JsValue → Except String JsValue) : Except String JsValue :=
  match parent, segment with
  | .arr items, .index n =>
    match items[n]? with
    | some child => (f child).map fun c => .arr (items.set n c)
    | none => .error "snapshot_delta_path_invalid"
  | .obj fields, .key k =>
    match Fields.get? fields k with
    | some child => (f child).map fun c => .obj (Fields.replace fields k c)
    | none => .error "snapshot_delta_path_invalid"
  | _, _ => .error "snapshot_delta_path_invalid"

/-- `parent[key] = value`; an array grows by at most one element. -/
def assignChild (parent : JsValue) (segment : PathSegment) (v : JsValue) : Except String JsValue :=
  match parent, segment with
  | .arr items, .index n =>
    if n < items.length then .ok (.arr (items.set n v))
    else if n = items.length then .ok (.arr (items ++ [v]))
    else .error "snapshot_delta_path_invalid"
  | .obj fields, .key k => .ok (.obj (Fields.assign fields k v))
  | _, _ => .error "snapshot_delta_path_invalid"

/-- `delete parent[key]`. -/
def deleteChild (parent : JsValue) (segment : PathSegment) : Except String JsValue :=
  match parent, segment with
  | .obj fields, .key k =>
    if k ∈ Fields.keys fields ∨ k ∈ inheritedKeys then .ok (.obj (Fields.remove fields k))
    else .error "snapshot_delta_path_invalid"
  | _, _ => .error "snapshot_delta_path_invalid"

def setAt (v : JsValue) : Path → JsValue → Except String JsValue
  | [], _ => .ok v
  | [s], parent => assignChild parent s v
  | s :: p, parent => descend parent s (setAt v p)

def deleteAt : Path → JsValue → Except String JsValue
  | [], _ => .error "snapshot_delta_path_invalid"
  | [s], parent => deleteChild parent s
  | s :: p, parent => descend parent s (deleteAt p)

def truncateAt (n : Nat) : Path → JsValue → Except String JsValue
  | [], .arr items => if items.length < n then .error "snapshot_delta_path_invalid" else .ok (.arr (items.take n))
  | [], _ => .error "snapshot_delta_path_invalid"
  | s :: p, parent => descend parent s (truncateAt n p)

/-- One round of the loop over the operations. -/
def applyOperation (payload rawOperation : JsValue) : Except String JsValue := do
  let op ← orThrow rawOperation.asRecord? "snapshot_delta_operation_invalid"
  let name ← orThrow (JsValue.field op "op").asStr? "snapshot_delta_operation_invalid"
  let path ← validatePath (JsValue.field op "path")
  if name = "set" then
    let value ← orThrow (op.get? "value") "snapshot_delta_operation_invalid"
    refuse (value.isUndefined = true) "\"undefined\" is not valid JSON"
    setAt (cloneJson value) path payload
  else if name = "delete" then deleteAt path payload
  else if name = "truncate" then
    let length ← orThrow (JsValue.field op "length").asSafeNat? "snapshot_delta_operation_invalid"
    truncateAt length path payload
  else throw "snapshot_delta_operation_invalid"

def asArray? : JsValue → Option (List JsValue)
  | .arr items => some items
  | _ => none

/-- The target and the operations of a delta that fits the base. -/
def readDelta? (base : GameSnapshotEnvelope) (value : JsValue) : Option (Fields JsValue × List JsValue) := do
  let delta ← value.asRecord?
  guard ((JsValue.field delta "kind").asStr? = some "opsia.snapshot-delta")
  guard ((JsValue.field delta "schemaVersion").asSafeNat? = some ⟨1, one_safe⟩)
  guard ((JsValue.field delta "baseChecksum").asStr? = some base.checksum)
  guard ((JsValue.field delta "baseServerTick").asSafeNat? = some base.serverTick)
  let target ← (JsValue.field delta "target").asRecord?
  let operations ← asArray? (JsValue.field delta "operations")
  guard (operations.length ≤ 250000)
  return (target, operations)

def applySnapshotEnvelopeDelta (sha256 : List Char → HexDigest) (base : GameSnapshotEnvelope) (value : JsValue)
    (expected : Expected := {}) : Except String GameSnapshotEnvelope := do
  let (target, operations) ← orThrow (readDelta? base value) "snapshot_delta_base_mismatch"
  let payload ← operations.foldlM applyOperation (cloneJson (.obj base.payload))
  let envelope ← verifySnapshotEnvelope sha256 (.obj (target.assign "payload" payload)) expected
  refuse (envelope.roomId ≠ base.roomId ∨ envelope.roomEpoch ≠ base.roomEpoch ∨ envelope.serverTick ≤ base.serverTick)
    "snapshot_delta_context_mismatch"
  return envelope

end Opsia
