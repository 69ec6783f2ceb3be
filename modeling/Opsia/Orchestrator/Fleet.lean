import Mathlib.Data.List.Basic
import Mathlib.Tactic.Common
import Opsia.Json.Record

/-!
# The rooms of a fleet

Each room is a deployment in the cluster with no or one replica, and a record in the registry.  Discovery rebuilds the
records from the deployments (`reconcileWorkloads`); the orchestrator scales the deployments, always all of them at
once, to those with an ordinal below some number.  Its requests run one after the other (`serializeMutation`).

Room ids are `room-<ordinal>`, so a room is its ordinal here.  Requests for the cluster and the gateway that fail are
left out: such a request fails, and what it has done is discovered.  So are the writes to the registry that change
neither a spec nor which rooms are active.
-/

namespace Opsia

/-! ### Profiles -/

structure RoomProfile where
  mapKey : String
  name : String
  description : String
  region : String
  map : String
  mode : String
  maxPlayers : Nat
  deriving DecidableEq, Repr

def roomProfiles : List RoomProfile :=
  [⟨"faction", "Faction Front", "Survev 50:50 faction live room", "Seoul / ap-northeast-2", "Faction Island",
      "Faction 50v50", 100⟩,
   ⟨"desert", "Desert Run", "Survev desert solo live room", "Seoul / ap-northeast-2", "Desert", "Solo FFA", 80⟩,
   ⟨"snow", "Snowfield", "Survev snow solo live room", "Seoul / ap-northeast-2", "Snow", "Solo FFA", 80⟩,
   ⟨"main", "Main Island", "Survev classic island solo live room", "Seoul / ap-northeast-2", "Main Island", "Solo FFA",
      80⟩,
   ⟨"woods", "Woods Patrol", "Survev woods solo live room", "Seoul / ap-northeast-2", "Woods", "Solo FFA", 80⟩]

/-- The profiles in turn; those of later rounds get a number. -/
def roomProfileForOrdinal (ordinal : Nat) : RoomProfile :=
  let profile := roomProfiles.get ⟨ordinal % roomProfiles.length, Nat.mod_lt _ (by decide)⟩
  let fleetCycle := ordinal / roomProfiles.length
  if fleetCycle = 0 then profile
  else
    { profile with
      name := profile.name ++ " " ++ toString (fleetCycle + 1)
      description := profile.description ++ " (auto room " ++ toString ordinal ++ ")" }

/-! ### Records -/

structure RoomSpec where
  name : String
  description : String
  region : String
  map : String
  mode : String
  maxPlayers : Nat
  createdAt : String
  deriving DecidableEq, Repr

inductive RegistryStatus
  | waiting
  | running
  | ended
  | inactive
  deriving DecidableEq, Repr

structure RoomRegistryRecord where
  roomId : String
  ordinal : Nat
  podName : String
  endpoint : String
  status : RegistryStatus
  players : Nat
  alive : Nat
  strictMode : Bool
  joinLocked : Option Bool
  statusChangedAt : Option String
  spec : Option RoomSpec
  deriving DecidableEq, Repr

def legacyRoomName (name : String) (ordinal : Nat) : Bool :=
  name = "Faction Room " ++ toString (ordinal + 1) || name = "Survev Faction Room"

def legacyDescription : String := "Survev 50:50 faction live room"

/-- The spec of a room: its profile, with the name, description and creation time that it has already. -/
def specForOrdinal (now : String) (ordinal : Nat) (current : Option RoomSpec) : RoomSpec :=
  let profile := roomProfileForOrdinal ordinal
  { name := ((current.map RoomSpec.name).filter fun name => !legacyRoomName name ordinal).getD profile.name
    description :=
      ((current.map RoomSpec.description).filter fun text => text != legacyDescription).getD profile.description
    region := profile.region
    map := profile.map
    mode := profile.mode
    maxPlayers := profile.maxPlayers
    createdAt := (current.map RoomSpec.createdAt).getD now }

def recordForOrdinal (now : String) (ordinal : Nat) (endpoint workloadName : String) : RoomRegistryRecord where
  roomId := "room-" ++ toString ordinal
  ordinal := ordinal
  podName := workloadName
  endpoint := endpoint
  status := .waiting
  players := 0
  alive := 0
  strictMode := false
  joinLocked := some false
  statusChangedAt := some now
  spec := some (specForOrdinal now ordinal none)

/-! ### The registry -/

/-- The records as `list` has them, by ordinal. -/
structure RoomRegistry where
  records : List RoomRegistryRecord
  sorted : records.Pairwise fun record other => record.ordinal < other.ordinal

namespace RoomRegistry

def empty : RoomRegistry := ⟨[], List.Pairwise.nil⟩

def get (registry : RoomRegistry) (ordinal : Nat) : Option RoomRegistryRecord :=
  registry.records.find? fun record => decide (record.ordinal = ordinal)

/-- The record in its place, instead of the one that is there. -/
def insertRecord (record : RoomRegistryRecord) : List RoomRegistryRecord → List RoomRegistryRecord
  | [] => [record]
  | other :: rest =>
    if record.ordinal < other.ordinal then record :: other :: rest
    else if record.ordinal = other.ordinal then record :: rest
    else other :: insertRecord record rest

theorem mem_insertRecord {record other : RoomRegistryRecord} {records : List RoomRegistryRecord}
    (h : other ∈ insertRecord record records) : other = record ∨ other ∈ records := by
  induction records with
  | nil => exact Or.inl (List.mem_singleton.1 h)
  | cons first rest ih =>
    unfold insertRecord at h
    split at h
    · simpa using h
    · split at h
      · rcases List.mem_cons.1 h with h | h
        · exact Or.inl h
        · exact Or.inr (List.mem_cons_of_mem _ h)
      · rcases List.mem_cons.1 h with h | h
        · exact Or.inr (h ▸ List.mem_cons_self)
        · exact (ih h).imp_right (List.mem_cons_of_mem _)

theorem sorted_insertRecord (record : RoomRegistryRecord) {records : List RoomRegistryRecord}
    (h : records.Pairwise fun record other => record.ordinal < other.ordinal) :
    (insertRecord record records).Pairwise fun record other => record.ordinal < other.ordinal := by
  induction records with
  | nil => exact List.pairwise_singleton _ _
  | cons first rest ih =>
    obtain ⟨hfirst, hrest⟩ := List.pairwise_cons.1 h
    unfold insertRecord
    split
    · rename_i hlt
      refine List.pairwise_cons.2 ⟨fun other hmem => ?_, h⟩
      rcases List.mem_cons.1 hmem with rfl | hmem
      · exact hlt
      · exact Nat.lt_trans hlt (hfirst other hmem)
    · split
      · rename_i heq
        exact List.pairwise_cons.2 ⟨fun other hmem => heq ▸ hfirst other hmem, hrest⟩
      · rename_i hnot hne
        refine List.pairwise_cons.2 ⟨fun other hmem => ?_, ih hrest⟩
        rcases mem_insertRecord hmem with rfl | hmem
        · omega
        · exact hfirst other hmem

def put (registry : RoomRegistry) (record : RoomRegistryRecord) : RoomRegistry where
  records := insertRecord record registry.records
  sorted := sorted_insertRecord record registry.sorted

def remove (registry : RoomRegistry) (ordinal : Nat) : RoomRegistry where
  records := registry.records.filter fun record => decide (record.ordinal ≠ ordinal)
  sorted := registry.sorted.filter _

/-- `activeRooms` of the whole list -/
def activeRooms (registry : RoomRegistry) : List RoomRegistryRecord :=
  registry.records.filter fun record => decide (record.status ≠ .inactive)

/-- Records that are put one after the other. -/
def putAll (registry : RoomRegistry) (records : List RoomRegistryRecord) : RoomRegistry := records.foldl put registry

end RoomRegistry

/-! ### Workloads -/

/-- A deployment of a room, with the name of the room's service. -/
structure RoomWorkload where
  ordinal : Nat
  deploymentName : String
  serviceName : String
  replicas : Fin 2

def RoomWorkload.endpoint (workload : RoomWorkload) : String := "http://" ++ workload.serviceName ++ ":8001"

/-- The deployments that `roomWorkloads` accepts: of rooms below the maximum, each of another room. -/
structure RoomFleet (maxRooms : Nat) where
  workloads : List RoomWorkload
  sorted : workloads.Pairwise fun workload other => workload.ordinal < other.ordinal
  bounded : ∀ workload ∈ workloads, workload.ordinal < maxRooms

def RoomFleet.workload {maxRooms : Nat} (fleet : RoomFleet maxRooms) (ordinal : Nat) : Option RoomWorkload :=
  fleet.workloads.find? fun workload => decide (workload.ordinal = ordinal)

/-- The replicas of a room, where it has a deployment. -/
def RoomFleet.replicas {maxRooms : Nat} (fleet : RoomFleet maxRooms) (ordinal : Nat) : Option (Fin 2) :=
  (fleet.workload ordinal).map RoomWorkload.replicas

def RoomWorkload.scale (replicas : Nat) (workload : RoomWorkload) : RoomWorkload :=
  { workload with replicas := if workload.ordinal < replicas then 1 else 0 }

/-- Every deployment with an ordinal below the number gets one replica, every other one none. -/
def RoomFleet.scale {maxRooms : Nat} (fleet : RoomFleet maxRooms) (replicas : Nat) : RoomFleet maxRooms where
  workloads := fleet.workloads.map (RoomWorkload.scale replicas)
  sorted := List.pairwise_map.2 fleet.sorted
  bounded := by
    intro workload hmem
    obtain ⟨old, hold, rfl⟩ := List.mem_map.1 hmem
    exact fleet.bounded old hold

/-! ### Discovery -/

/-- What `reconcileWorkloads` puts for a workload. -/
def RoomWorkload.reconcile (now : String) (existing : Option RoomRegistryRecord) (workload : RoomWorkload) :
    RoomRegistryRecord :=
  let record := existing.getD (recordForOrdinal now workload.ordinal workload.endpoint workload.deploymentName)
  let status :=
    if workload.replicas = 1 then if record.status = .inactive then .waiting else record.status else .inactive
  { record with
    ordinal := workload.ordinal
    podName := workload.deploymentName
    endpoint := workload.endpoint
    status := status
    players := if status = .inactive then 0 else record.players
    alive := if status = .inactive then 0 else record.alive
    spec := some (specForOrdinal now workload.ordinal record.spec)
    joinLocked := some (record.joinLocked.getD false)
    statusChangedAt :=
      if status = record.status then
        some ((record.statusChangedAt.or (record.spec.map RoomSpec.createdAt)).getD now)
      else some now }

def RoomRegistryRecord.deactivate (now : String) (record : RoomRegistryRecord) : RoomRegistryRecord :=
  { record with status := .inactive, players := 0, alive := 0, statusChangedAt := some now }

/-- The active records of rooms without a workload. -/
def RoomRegistry.undiscovered (registry : RoomRegistry) (workloads : List RoomWorkload) : List RoomRegistryRecord :=
  registry.activeRooms.filter fun record => workloads.all fun workload => decide (workload.ordinal ≠ record.ordinal)

def RoomRegistry.reconcileWorkloads (now : String) (registry : RoomRegistry) (workloads : List RoomWorkload) :
    RoomRegistry :=
  (registry.putAll (workloads.map fun workload => workload.reconcile now (registry.get workload.ordinal))).putAll
    ((registry.undiscovered workloads).map (RoomRegistryRecord.deactivate now))

/-! ### Requests -/

/-- The body of a request; its texts are trimmed. -/
structure RoomSpecBody where
  name : Option String
  description : Option String
  region : Option String
  map : Option String
  mode : Option String
  maxPlayers : Option Nat

def gameModes : List String := ["Faction 50v50", "Solo FFA"]

def gameMaps : List String := ["Faction Island", "Desert", "Snow", "Main Island", "Woods"]

def validText (text : String) : Bool := text ≠ "" && (Json.utf16 text).length ≤ 160

def validateSpecFields (body : RoomSpecBody) : Bool :=
  body.mode.all gameModes.contains && body.map.all gameMaps.contains &&
    body.region.all (fun region => region = "Seoul / ap-northeast-2") &&
    body.maxPlayers.all fun players => players = 80 || players = 100

/-- The spec that a body asks for, where it is valid. -/
def parseSpec (now : String) (body : RoomSpecBody) (ordinal : Nat) (current : Option RoomSpec) : Option RoomSpec :=
  let canonical := specForOrdinal now ordinal current
  let spec := { canonical with
    name := body.name.getD canonical.name, description := body.description.getD canonical.description }
  if validateSpecFields body && body.mode.all (fun mode => mode = canonical.mode) &&
      body.map.all (fun map => map = canonical.map) &&
      body.maxPlayers.all (fun players => players = canonical.maxPlayers) && validText spec.name &&
      validText spec.description then some spec
  else none

inductive RoomMutation
  | scale (replicas : Int)
  | create (body : RoomSpecBody)
  | start (room : Nat)
  | stop (room : Nat)
  | delete (room : Nat)

/-- The cluster and the registry. -/
structure RoomOrchestrator (maxRooms : Nat) where
  fleet : RoomFleet maxRooms
  registry : RoomRegistry

/-- What a request that succeeds leaves behind, and the endpoints where snapshots were saved. -/
structure MutationOutcome (maxRooms : Nat) where
  rooms : RoomOrchestrator maxRooms
  saved : List String

namespace RoomOrchestrator

variable {maxRooms : Nat}

/-- The process has started, or the rooms were listed: the registry is rebuilt from the cluster. -/
def discover (now : String) (registry : RoomRegistry) (fleet : RoomFleet maxRooms) : RoomOrchestrator maxRooms where
  fleet := fleet
  registry := registry.reconcileWorkloads now fleet.workloads

def scaleAndReconcile (now : String) (rooms : RoomOrchestrator maxRooms) (replicas : Int) :
    Option (RoomOrchestrator maxRooms) :=
  if 0 ≤ replicas ∧ replicas ≤ maxRooms then some (discover now rooms.registry (rooms.fleet.scale replicas.toNat))
  else none

/-- Snapshots of the rooms are saved one after the other; `answers` says where a save succeeds. -/
def saveSnapshots (answers : String → Bool) (records : List RoomRegistryRecord) : Option (List String) :=
  if records.all fun record => answers record.endpoint then some (records.map RoomRegistryRecord.endpoint) else none

def scaleWithSnapshots (now : String) (answers : String → Bool) (rooms : RoomOrchestrator maxRooms) (replicas : Int) :
    Option (MutationOutcome maxRooms) := do
  let active := rooms.registry.activeRooms
  let stopping := if replicas < active.length then active.filter fun record => decide (replicas ≤ record.ordinal) else []
  let saved ← saveSnapshots answers stopping.reverse
  let scaled ← rooms.scaleAndReconcile now replicas
  return ⟨scaled, saved⟩

def create (now : String) (rooms : RoomOrchestrator maxRooms) (body : RoomSpecBody) :
    Option (MutationOutcome maxRooms) := do
  let count := rooms.registry.activeRooms.length
  guard (count < maxRooms)
  let requestedSpec ← parseSpec now body count none
  let scaled ← rooms.scaleAndReconcile now (count + 1 : Nat)
  let created ← scaled.registry.get count
  return ⟨{ scaled with registry := scaled.registry.put { created with spec := some requestedSpec } }, []⟩

/-- A room that is active already is left as it is. -/
def start (now : String) (rooms : RoomOrchestrator maxRooms) (room : Nat) : Option (MutationOutcome maxRooms) := do
  let current ← rooms.registry.get room
  if current.status ≠ .inactive then
    return ⟨rooms, []⟩
  let count := rooms.registry.activeRooms.length
  guard (current.ordinal = count)
  let scaled ← rooms.scaleAndReconcile now (count + 1 : Nat)
  return ⟨scaled, []⟩

def stop (now : String) (answers : String → Bool) (rooms : RoomOrchestrator maxRooms) (room : Nat) :
    Option (MutationOutcome maxRooms) := do
  let current ← rooms.registry.get room
  guard (rooms.registry.activeRooms.getLast?.map RoomRegistryRecord.ordinal = some current.ordinal)
  let saved ← saveSnapshots answers [current]
  let scaled ← rooms.scaleAndReconcile now current.ordinal
  return ⟨scaled, saved⟩

/-- A room that is inactive only loses its record. -/
def delete (now : String) (answers : String → Bool) (rooms : RoomOrchestrator maxRooms) (room : Nat) :
    Option (MutationOutcome maxRooms) := do
  let current ← rooms.registry.get room
  if current.status = .inactive then
    return ⟨{ rooms with registry := rooms.registry.remove current.ordinal }, []⟩
  guard (rooms.registry.activeRooms.getLast?.map RoomRegistryRecord.ordinal = some current.ordinal)
  let saved ← saveSnapshots answers [current]
  let scaled ← rooms.scaleAndReconcile now current.ordinal
  return ⟨{ scaled with registry := scaled.registry.remove current.ordinal }, saved⟩

def mutate (now : String) (answers : String → Bool) (rooms : RoomOrchestrator maxRooms) :
    RoomMutation → Option (MutationOutcome maxRooms)
  | .scale replicas => rooms.scaleWithSnapshots now answers replicas
  | .create body => rooms.create now body
  | .start room => rooms.start now room
  | .stop room => rooms.stop now answers room
  | .delete room => rooms.delete now answers room

/-- `PATCH` of a room's spec -/
def patch (now : String) (rooms : RoomOrchestrator maxRooms) (room : Nat) (body : RoomSpecBody) :
    Option (RoomOrchestrator maxRooms) := do
  let current ← rooms.registry.get room
  let spec ← parseSpec now body current.ordinal current.spec
  return { rooms with registry := rooms.registry.put { current with spec := some spec } }

end RoomOrchestrator

/-- Someone has changed the cluster and it is discovered, or a request is served. -/
inductive RoomRequest (maxRooms : Nat)
  | discover (fleet : RoomFleet maxRooms)
  | patch (room : Nat) (body : RoomSpecBody)
  | mutate (mutation : RoomMutation) (answers : String → Bool)

/-- A request at a time; one that fails is no step. -/
def RoomOrchestrator.step {maxRooms : Nat} (rooms : RoomOrchestrator maxRooms) (request : String × RoomRequest maxRooms) :
    Option (RoomOrchestrator maxRooms) :=
  match request.2 with
  | .discover fleet => some (discover request.1 rooms.registry fleet)
  | .patch room body => rooms.patch request.1 room body
  | .mutate mutation answers => (rooms.mutate request.1 answers mutation).map MutationOutcome.rooms

end Opsia
