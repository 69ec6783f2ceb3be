import Mathlib.Data.List.Sort
import Opsia.Json.Literal
import Opsia.Orchestrator.Fleet

/-!
# Discovered workloads

`reconcileWorkloads` writes the registry as it goes through the workloads and throws at the first one that is invalid or
names a room twice, so the records of the workloads before it are written already.  It leaves the registry as it was
just when those records say what their workloads say (`reconcile_atomic_iff`).  Discovery does not rule invalid
workloads out: `parseRoomId` takes `room-01` for the room with ordinal 1, whose id is `room-1`.
-/

namespace Opsia

open Json

/-- `/^room-(\d+)$/`: the digits. -/
def roomIdDigits (roomId : String) : Option (List Char) :=
  match roomId.toList with
  | 'r' :: 'o' :: 'o' :: 'm' :: '-' :: digits =>
    if digits ≠ [] ∧ digits.all Char.isDigit = true then some digits else none
  | _ => none

/-- The room that a label names, below the number of rooms. -/
def parseRoomId (roomCount : Nat) (label : Option String) : Option (String × JsNumber) := do
  let roomId ← label
  let digits ← roomIdDigits roomId
  let ordinal ← (JsNumber.ofText digits).integer?
  if ordinal < 0 ∨ roomCount ≤ ordinal then none else some (roomId, JsNumber.ofText digits)

/-- A workload as `reconcileWorkloads` is given it. -/
structure DiscoveredWorkload where
  roomId : String
  ordinal : JsNumber
  deploymentName : String
  serviceName : String
  endpoint : String
  replicas : JsNumber

/-- The ordinal of a workload that passes the checks, and whether it has a replica. -/
def DiscoveredWorkload.checked (workload : DiscoveredWorkload) : Option (Nat × Bool) :=
  match workload.ordinal.integer?, workload.replicas.integer? with
  | some ordinal, some replicas =>
    if (roomIdDigits workload.roomId).isSome ∧ 0 ≤ ordinal ∧
        workload.roomId = "room-" ++ String.ofList workload.ordinal.render ∧ (replicas = 0 ∨ replicas = 1) ∧
        workload.deploymentName ≠ "" ∧ workload.serviceName ≠ "" ∧ workload.endpoint ≠ "" then
      some (ordinal.toNat, decide (replicas = 1))
    else none
  | _, _ => none

/-! ### The registry -/

/-- The records of the registry under their room ids. -/
structure RoomRecords where
  records : Fields RoomRegistryRecord
  nodup : records.keys.Nodup
  keyed : ∀ entry ∈ records, entry.2.roomId = entry.1

namespace RoomRecords

def empty : RoomRecords := ⟨[], List.nodup_nil, by simp⟩

def get (registry : RoomRecords) (roomId : String) : Option RoomRegistryRecord := registry.records.get? roomId

def list (registry : RoomRecords) : List RoomRegistryRecord :=
  (registry.records.map Prod.snd).mergeSort fun record other => decide (record.ordinal ≤ other.ordinal)

private theorem mem_put {entries : Fields RoomRegistryRecord} {key : String} {record : RoomRegistryRecord}
    (hnodup : entries.keys.Nodup) {entry : String × RoomRegistryRecord} (h : entry ∈ entries.put key record) :
    entry = (key, record) ∨ entry ∈ entries := by
  have hget := Fields.get?_of_mem (Fields.nodup_keys_put hnodup key record) h
  rw [Fields.get?_put] at hget
  split at hget
  · rename_i hkey
    cases hget
    exact Or.inl (Prod.ext hkey rfl)
  · exact Or.inr (Fields.mem_of_get? hget)

def put (registry : RoomRecords) (record : RoomRegistryRecord) : RoomRecords where
  records := registry.records.put record.roomId record
  nodup := Fields.nodup_keys_put registry.nodup _ _
  keyed := by
    intro entry hentry
    rcases mem_put registry.nodup hentry with rfl | hentry
    · rfl
    · exact registry.keyed entry hentry

theorem get_put (registry : RoomRecords) (record : RoomRegistryRecord) (roomId : String) :
    (registry.put record).get roomId = if roomId = record.roomId then some record else registry.get roomId :=
  Fields.get?_put ..

theorem roomId_of_get {registry : RoomRecords} {roomId : String} {record : RoomRegistryRecord}
    (h : registry.get roomId = some record) : record.roomId = roomId :=
  registry.keyed _ (Fields.mem_of_get? h)

/-- `new Map(existing.map((record) => [record.roomId, record])).get(roomId)`; no room has two records. -/
def existingById (existing : List RoomRegistryRecord) (roomId : String) : Option RoomRegistryRecord :=
  existing.find? fun record => decide (record.roomId = roomId)

theorem existingById_list (registry : RoomRecords) (roomId : String) :
    existingById registry.list roomId = registry.get roomId := by
  have hmem : ∀ record, record ∈ registry.list ↔ registry.get record.roomId = some record := by
    intro record
    unfold list
    rw [List.mem_mergeSort, List.mem_map]
    constructor
    · rintro ⟨entry, hentry, rfl⟩
      rw [registry.keyed entry hentry]
      exact Fields.get?_of_mem registry.nodup hentry
    · intro h
      exact ⟨_, Fields.mem_of_get? h, rfl⟩
  unfold existingById
  cases hfind : registry.list.find? fun record => decide (record.roomId = roomId) with
  | some record =>
    have hid : record.roomId = roomId := by simpa using List.find?_some hfind
    rw [← hid]
    exact ((hmem record).1 (List.mem_of_find?_eq_some hfind)).symm
  | none =>
    cases hget : registry.get roomId with
    | none => rfl
    | some record =>
      have hid := roomId_of_get hget
      have hin := (hmem record).2 (hid ▸ hget)
      have hnot := List.find?_eq_none.1 hfind record hin
      simp [hid] at hnot

end RoomRecords

/-! ### Reconciling -/

/-- What is put for a workload that passes the checks. -/
def DiscoveredWorkload.reconcile (now : String) (existing : Option RoomRegistryRecord) (ordinal : Nat) (active : Bool)
    (workload : DiscoveredWorkload) : RoomRegistryRecord :=
  let record := existing.getD (recordForOrdinal now ordinal workload.endpoint workload.deploymentName)
  let status := if active then if record.status = .inactive then .waiting else record.status else .inactive
  { record with
    ordinal := ordinal
    podName := workload.deploymentName
    endpoint := workload.endpoint
    status := status
    players := if status = .inactive then 0 else record.players
    alive := if status = .inactive then 0 else record.alive
    spec := some (specForOrdinal now ordinal record.spec)
    joinLocked := some (record.joinLocked.getD false)
    statusChangedAt :=
      if status = record.status then
        some ((record.statusChangedAt.or (record.spec.map RoomSpec.createdAt)).getD now)
      else some now }

namespace RoomRecords

/-- The loop over the workloads: the rooms it has discovered, or the error it throws, and the registry it leaves. -/
def reconcileEach (now : String) (existing : List RoomRegistryRecord) :
    List DiscoveredWorkload → List String → RoomRecords → Except String (List String) × RoomRecords
  | [], discovered, registry => (.ok discovered, registry)
  | workload :: workloads, discovered, registry =>
    match workload.checked with
    | none => (.error "invalid_room_workload", registry)
    | some (ordinal, active) =>
      if workload.roomId ∈ discovered then (.error "duplicate_room_workload", registry)
      else reconcileEach now existing workloads (workload.roomId :: discovered)
        (registry.put (workload.reconcile now (existingById existing workload.roomId) ordinal active))

/-- Rooms that were not discovered are deactivated. -/
def deactivateEach (now : String) (discovered : List String) (existing : List RoomRegistryRecord)
    (registry : RoomRecords) : RoomRecords :=
  existing.foldl (fun registry record =>
    if record.roomId ∈ discovered ∨ record.status = .inactive then registry
    else registry.put (record.deactivate now)) registry

def reconcileWorkloads (now : String) (registry : RoomRecords) (workloads : List DiscoveredWorkload) :
    Except String (List RoomRegistryRecord) × RoomRecords :=
  let existing := registry.list
  match reconcileEach now existing workloads [] registry with
  | (.error message, registry) => (.error message, registry)
  | (.ok discovered, registry) =>
    let registry := deactivateEach now discovered existing registry
    (.ok registry.list, registry)

end RoomRecords

/-- A workload of a fleet as it is discovered. -/
def RoomWorkload.discovered (workload : RoomWorkload) : DiscoveredWorkload where
  roomId := "room-" ++ toString workload.ordinal
  ordinal := .ofNat workload.ordinal
  deploymentName := workload.deploymentName
  serviceName := workload.serviceName
  endpoint := workload.endpoint
  replicas := .ofNat workload.replicas

/-- The two models of reconciliation put the same record. -/
theorem RoomWorkload.reconcile_discovered (now : String) (existing : Option RoomRegistryRecord)
    (workload : RoomWorkload) :
    workload.discovered.reconcile now existing workload.ordinal (decide (workload.replicas = 1)) =
      workload.reconcile now existing := by
  unfold DiscoveredWorkload.reconcile RoomWorkload.reconcile
  simp only [decide_eq_true_eq, RoomWorkload.discovered]
  rfl

/-! ### Records that say what their workloads say -/

/-- The record needs no change for a workload with this ordinal that has a replica or none. -/
structure AsDescribed (record : RoomRegistryRecord) (workload : DiscoveredWorkload) (room : Nat) (active : Bool) :
    Prop where
  ordinal : record.ordinal = room
  podName : record.podName = workload.deploymentName
  endpoint : record.endpoint = workload.endpoint
  active : active = true ↔ record.status ≠ .inactive
  deserted : record.status = .inactive → record.players = 0 ∧ record.alive = 0
  spec : ∃ spec, record.spec = some spec ∧ specForOrdinal spec.createdAt room (some spec) = spec
  joinLocked : record.joinLocked.isSome = true
  statusChangedAt : record.statusChangedAt.isSome = true

/-- What is put for a workload is the record that is there just when that needs no change. -/
theorem reconcile_eq_iff (now : String) (record : RoomRegistryRecord) (workload : DiscoveredWorkload) (ordinal : Nat)
    (active : Bool) : workload.reconcile now (some record) ordinal active = record ↔
      AsDescribed record workload ordinal active := by
  obtain ⟨roomId, recordOrdinal, podName, endpoint, status, players, alive, strictMode, joinLocked, statusChangedAt,
    spec⟩ := record
  unfold DiscoveredWorkload.reconcile
  simp only [Option.getD_some, RoomRegistryRecord.mk.injEq, true_and]
  constructor
  · rintro ⟨hordinal, hpod, hendpoint, hstatus, hplayers, halive, hlocked, hchanged, hspec⟩
    rw [hstatus] at hplayers halive hchanged
    refine ⟨hordinal.symm, hpod.symm, hendpoint.symm, ?_, ?_, ?_, ?_, ?_⟩
    · cases active with
      | true =>
        refine iff_of_true rfl fun hinactive => ?_
        have hinactive : status = .inactive := hinactive
        rw [if_pos rfl, if_pos hinactive, hinactive] at hstatus
        cases hstatus
      | false =>
        refine iff_of_false (by decide) fun hne => hne ?_
        exact hstatus.symm
    · intro hinactive
      rw [if_pos hinactive] at hplayers halive
      exact ⟨hplayers.symm, halive.symm⟩
    · cases spec with
      | none => cases hspec
      | some spec => exact ⟨spec, rfl, Option.some.inj hspec⟩
    · show joinLocked.isSome = true
      rw [← hlocked]
      rfl
    · show statusChangedAt.isSome = true
      rw [if_pos rfl] at hchanged
      rw [← hchanged]
      rfl
  · rintro ⟨hordinal, hpod, hendpoint, hactive, hdeserted, ⟨spec', hspec, hcanonical⟩, hlocked, hchanged⟩
    dsimp only at hordinal hpod hendpoint hactive hdeserted hspec hlocked hchanged
    have hstatus : (if active = true then if status = .inactive then .waiting else status else .inactive) = status := by
      cases active with
      | true => rw [if_pos rfl, if_neg (hactive.1 rfl)]
      | false =>
        have hinactive : status = .inactive := by
          by_contra hne
          exact absurd (hactive.2 hne) (by decide)
        rw [hinactive]
        rfl
    obtain ⟨locked, rfl⟩ := Option.isSome_iff_exists.1 hlocked
    obtain ⟨changed, rfl⟩ := Option.isSome_iff_exists.1 hchanged
    subst hspec
    refine ⟨hordinal.symm, hpod.symm, hendpoint.symm, hstatus, ?_, ?_, rfl, ?_, ?_⟩
    · rw [hstatus]
      split
      · rename_i hinactive
        exact (hdeserted hinactive).1.symm
      · rfl
    · rw [hstatus]
      split
      · rename_i hinactive
        exact (hdeserted hinactive).2.symm
      · rfl
    · rw [if_pos hstatus]
      rfl
    · exact congrArg some hcanonical

/-! ### Runs -/

/-- The workloads pass the checks and are of different rooms. -/
structure AcceptableWorkloads (workloads : List DiscoveredWorkload) : Prop where
  checked : ∀ workload ∈ workloads, workload.checked.isSome = true
  nodup : (workloads.map DiscoveredWorkload.roomId).Nodup

/-- The loop throws at the workload `bad` behind the workloads `before`. -/
structure FirstBad (before : List DiscoveredWorkload) (bad : DiscoveredWorkload) : Prop where
  acceptable : AcceptableWorkloads before
  bad : bad.checked = none ∨ bad.roomId ∈ before.map DiscoveredWorkload.roomId

private theorem acceptable_concat {workloads : List DiscoveredWorkload} {workload : DiscoveredWorkload}
    (h : AcceptableWorkloads workloads) (hchecked : workload.checked.isSome = true)
    (hfresh : workload.roomId ∉ workloads.map DiscoveredWorkload.roomId) :
    AcceptableWorkloads (workloads ++ [workload]) where
  checked := by
    intro other hother
    rcases List.mem_append.1 hother with hother | hother
    · exact h.checked other hother
    · rw [List.mem_singleton.1 hother]
      exact hchecked
  nodup := by
    rw [List.map_append, List.map_singleton]
    exact h.nodup.append (List.nodup_singleton _) (List.disjoint_singleton.2 hfresh)

private theorem acceptable_or_firstBad_from (done : List DiscoveredWorkload) (hdone : AcceptableWorkloads done)
    (workloads : List DiscoveredWorkload) :
    AcceptableWorkloads (done ++ workloads) ∨
      ∃ before bad after, done ++ workloads = before ++ bad :: after ∧ FirstBad before bad := by
  induction workloads generalizing done with
  | nil => exact Or.inl (by rwa [List.append_nil])
  | cons workload workloads ih =>
    by_cases hbad : workload.checked = none ∨ workload.roomId ∈ done.map DiscoveredWorkload.roomId
    · exact Or.inr ⟨done, workload, workloads, rfl, hdone, hbad⟩
    · obtain ⟨hchecked, hfresh⟩ := not_or.1 hbad
      have hnext := ih (done ++ [workload]) (acceptable_concat hdone (Option.isSome_iff_ne_none.2 hchecked) hfresh)
      rwa [List.append_assoc] at hnext

/-- Every list of workloads is acceptable or has a first bad one. -/
theorem acceptable_or_firstBad (workloads : List DiscoveredWorkload) :
    AcceptableWorkloads workloads ∨
      ∃ before bad after, workloads = before ++ bad :: after ∧ FirstBad before bad :=
  acceptable_or_firstBad_from [] ⟨by simp, List.nodup_nil⟩ workloads

namespace DiscoveredWorkload

private theorem digits_of_roomIdDigits {text : List Char}
    (h : (roomIdDigits ("room-" ++ String.ofList text)).isSome = true) : text.all Char.isDigit = true := by
  have htext : ("room-" ++ String.ofList text).toList = 'r' :: 'o' :: 'o' :: 'm' :: '-' :: text := by simp
  simp only [roomIdDigits, htext] at h
  split at h
  · rename_i hdigits
    exact hdigits.2
  · cases h

theorem roomId_of_checked {workload : DiscoveredWorkload} {ordinal : Nat} {active : Bool}
    (h : workload.checked = some (ordinal, active)) : workload.roomId = "room-" ++ toString ordinal := by
  unfold checked at h
  split at h
  · rename_i value replicas hvalue hreplicas
    split at h
    · rename_i hpass
      cases h
      obtain ⟨hdigits, hpos, hid, -⟩ := hpass
      rw [hid] at hdigits ⊢
      rw [JsNumber.render_of_digits hvalue hpos (digits_of_roomIdDigits hdigits)]
    · cases h
  · cases h

/-- The record that is put is the record of the workload's room. -/
theorem reconcile_roomId (now : String) {workload : DiscoveredWorkload} {existing : Option RoomRegistryRecord}
    {ordinal : Nat} {active : Bool} (h : workload.checked = some (ordinal, active))
    (hexisting : ∀ record, existing = some record → record.roomId = workload.roomId) :
    (workload.reconcile now existing ordinal active).roomId = workload.roomId := by
  cases existing with
  | none => exact (roomId_of_checked h).symm
  | some record => exact hexisting record rfl

end DiscoveredWorkload

namespace RoomRecords
variable (now : String) (existing : List RoomRegistryRecord)

/-- The records of the workloads are put, in their order. -/
def putEach (workloads : List DiscoveredWorkload) (registry : RoomRecords) : RoomRecords :=
  workloads.foldl (fun registry workload =>
    match workload.checked with
    | some (ordinal, active) =>
      registry.put (workload.reconcile now (existingById existing workload.roomId) ordinal active)
    | none => registry) registry

/-- The loop goes through acceptable workloads and on to the others. -/
theorem reconcileEach_append {workloads : List DiscoveredWorkload} (h : AcceptableWorkloads workloads)
    (rest : List DiscoveredWorkload) {discovered : List String}
    (hfresh : ∀ workload ∈ workloads, workload.roomId ∉ discovered) (registry : RoomRecords) :
    reconcileEach now existing (workloads ++ rest) discovered registry =
      reconcileEach now existing rest ((workloads.map DiscoveredWorkload.roomId).reverse ++ discovered)
        (putEach now existing workloads registry) := by
  induction workloads generalizing discovered registry with
  | nil => rfl
  | cons workload workloads ih =>
    obtain ⟨⟨ordinal, active⟩, hchecked⟩ := Option.isSome_iff_exists.1 (h.checked workload List.mem_cons_self)
    obtain ⟨hnew, hnodup⟩ := List.nodup_cons.1 h.nodup
    have htail : AcceptableWorkloads workloads :=
      ⟨fun other hother => h.checked other (List.mem_cons_of_mem _ hother), hnodup⟩
    have hnext : ∀ other ∈ workloads, other.roomId ∉ workload.roomId :: discovered := by
      intro other hother hmem
      rcases List.mem_cons.1 hmem with heq | hmem
      · exact hnew (heq ▸ List.mem_map_of_mem hother)
      · exact hfresh other (List.mem_cons_of_mem _ hother) hmem
    rw [List.cons_append, reconcileEach, hchecked]
    dsimp only
    rw [if_neg (hfresh workload List.mem_cons_self), ih htail hnext, List.map_cons, List.reverse_cons,
      List.append_assoc]
    unfold putEach
    rw [List.foldl_cons, hchecked]
    rfl

theorem reconcileEach_bad {bad : DiscoveredWorkload} {discovered : List String}
    (h : bad.checked = none ∨ bad.roomId ∈ discovered) (after : List DiscoveredWorkload) (registry : RoomRecords) :
    ∃ message, reconcileEach now existing (bad :: after) discovered registry = (.error message, registry) := by
  cases hchecked : bad.checked with
  | none => exact ⟨_, by rw [reconcileEach, hchecked]⟩
  | some checked =>
    have hmem : bad.roomId ∈ discovered := h.resolve_left (by rw [hchecked]; exact Option.some_ne_none _)
    exact ⟨"duplicate_room_workload", by rw [reconcileEach, hchecked]; dsimp only; rw [if_pos hmem]⟩

/-- A room that no workload names keeps its record. -/
theorem get_putEach_of_not_mem {workloads : List DiscoveredWorkload} {registry : RoomRecords}
    (hexisting : ∀ roomId record, existingById existing roomId = some record → record.roomId = roomId)
    {roomId : String} (h : roomId ∉ workloads.map DiscoveredWorkload.roomId) :
    (putEach now existing workloads registry).get roomId = registry.get roomId := by
  induction workloads generalizing registry with
  | nil => rfl
  | cons workload workloads ih =>
    obtain ⟨hne, htail⟩ := not_or.1 (mt List.mem_cons.2 h)
    unfold putEach at ih ⊢
    rw [List.foldl_cons, ih htail]
    split
    · rename_i ordinal active hchecked
      rw [get_put, DiscoveredWorkload.reconcile_roomId now hchecked (hexisting _), if_neg hne]
    · rfl

/-- The room of a workload has the record that was put for it. -/
theorem get_putEach_of_mem {workloads : List DiscoveredWorkload} {registry : RoomRecords}
    (hexisting : ∀ roomId record, existingById existing roomId = some record → record.roomId = roomId)
    (hnodup : (workloads.map DiscoveredWorkload.roomId).Nodup) {workload : DiscoveredWorkload}
    (hmem : workload ∈ workloads) {ordinal : Nat} {active : Bool} (h : workload.checked = some (ordinal, active)) :
    (putEach now existing workloads registry).get workload.roomId =
      some (workload.reconcile now (existingById existing workload.roomId) ordinal active) := by
  induction workloads generalizing registry with
  | nil => cases hmem
  | cons other workloads ih =>
    obtain ⟨hnew, hnodup⟩ := List.nodup_cons.1 hnodup
    rcases List.mem_cons.1 hmem with rfl | hmem
    · have hrest : (putEach now existing workloads (registry.put (workload.reconcile now
          (existingById existing workload.roomId) ordinal active))).get workload.roomId = _ :=
        get_putEach_of_not_mem now existing hexisting hnew
      unfold putEach at hrest ⊢
      rw [List.foldl_cons, h, hrest, get_put, DiscoveredWorkload.reconcile_roomId now h (hexisting _), if_pos rfl]
    · exact ih hnodup hmem

end RoomRecords

/-! ### Atomicity -/

/-- The records of the rooms of these workloads are there and say what the workloads say. -/
def AllDescribed (registry : RoomRecords) (workloads : List DiscoveredWorkload) : Prop :=
  ∀ workload ∈ workloads, ∃ record ordinal active, registry.get workload.roomId = some record ∧
    workload.checked = some (ordinal, active) ∧ AsDescribed record workload ordinal active

namespace RoomRecords
variable (now : String) (registry : RoomRecords)

private theorem existing_roomId (roomId : String) (record : RoomRegistryRecord)
    (h : existingById registry.list roomId = some record) : record.roomId = roomId := by
  rw [existingById_list] at h
  exact roomId_of_get h

/-- Going through acceptable workloads changes nothing just when the records say what they say. -/
theorem putEach_unchanged_iff {workloads : List DiscoveredWorkload} (h : AcceptableWorkloads workloads) :
    (∀ roomId, (putEach now registry.list workloads registry).get roomId = registry.get roomId) ↔
      AllDescribed registry workloads := by
  have hput : ∀ workload ∈ workloads, ∀ ordinal active, workload.checked = some (ordinal, active) →
      (putEach now registry.list workloads registry).get workload.roomId =
        some (workload.reconcile now (registry.get workload.roomId) ordinal active) := by
    intro workload hmem ordinal active hchecked
    rw [get_putEach_of_mem now _ (existing_roomId registry) h.nodup hmem hchecked, existingById_list]
  constructor
  · intro hsame workload hmem
    obtain ⟨⟨ordinal, active⟩, hchecked⟩ := Option.isSome_iff_exists.1 (h.checked workload hmem)
    have hget := hput workload hmem ordinal active hchecked
    rw [hsame] at hget
    cases hrecord : registry.get workload.roomId with
    | none =>
      rw [hrecord] at hget
      cases hget
    | some record =>
      rw [hrecord] at hget
      have hkept := (Option.some.inj hget).symm
      exact ⟨record, ordinal, active, rfl, hchecked, (reconcile_eq_iff now record workload ordinal active).1 hkept⟩
  · intro hdescribed roomId
    by_cases hmem : roomId ∈ workloads.map DiscoveredWorkload.roomId
    · obtain ⟨workload, hworkload, rfl⟩ := List.mem_map.1 hmem
      obtain ⟨record, ordinal, active, hget, hchecked, has⟩ := hdescribed workload hworkload
      rw [hput workload hworkload ordinal active hchecked, hget,
        (reconcile_eq_iff now record workload ordinal active).2 has]
    · exact get_putEach_of_not_mem now _ (existing_roomId registry) hmem

theorem reconcileWorkloads_of_firstBad {before : List DiscoveredWorkload} {bad : DiscoveredWorkload}
    (h : FirstBad before bad) (after : List DiscoveredWorkload) :
    ∃ message, reconcileWorkloads now registry (before ++ bad :: after) =
      (.error message, putEach now registry.list before registry) := by
  have hbad : bad.checked = none ∨ bad.roomId ∈ (before.map DiscoveredWorkload.roomId).reverse ++ [] := by
    rw [List.append_nil, List.mem_reverse]
    exact h.bad
  obtain ⟨message, heq⟩ :=
    reconcileEach_bad now registry.list hbad after (putEach now registry.list before registry)
  refine ⟨message, ?_⟩
  simp only [reconcileWorkloads]
  rw [reconcileEach_append now registry.list h.acceptable (bad :: after) (by simp) registry, heq]

theorem reconcileWorkloads_of_acceptable {workloads : List DiscoveredWorkload} (h : AcceptableWorkloads workloads) :
    ∃ records, (reconcileWorkloads now registry workloads).1 = .ok records := by
  have heach : reconcileEach now registry.list (workloads ++ []) [] registry = _ :=
    reconcileEach_append now registry.list h [] (by simp) registry
  rw [List.append_nil] at heach
  simp only [reconcileWorkloads]
  rw [heach]
  exact ⟨_, rfl⟩

/-- Reconciliation completes or leaves every record as it was just when all workloads are acceptable or the records of
those before the first bad one say what their workloads say. -/
theorem reconcile_atomic_iff (workloads : List DiscoveredWorkload) :
    ((∃ records, (reconcileWorkloads now registry workloads).1 = .ok records) ∨
        ∀ roomId, (reconcileWorkloads now registry workloads).2.get roomId = registry.get roomId) ↔
      AcceptableWorkloads workloads ∨ ∃ before bad after, workloads = before ++ bad :: after ∧
        FirstBad before bad ∧ AllDescribed registry before := by
  constructor
  · intro hatomic
    rcases acceptable_or_firstBad workloads with hok | ⟨before, bad, after, rfl, hbad⟩
    · exact Or.inl hok
    · obtain ⟨message, heq⟩ := reconcileWorkloads_of_firstBad now registry hbad after
      rw [heq] at hatomic
      refine Or.inr ⟨before, bad, after, rfl, hbad, (putEach_unchanged_iff now registry hbad.acceptable).1 ?_⟩
      rcases hatomic with ⟨records, hrecords⟩ | hsame
      · cases hrecords
      · exact hsame
  · rintro (hok | ⟨before, bad, after, rfl, hbad, hdescribed⟩)
    · exact Or.inl (reconcileWorkloads_of_acceptable now registry hok)
    · obtain ⟨message, heq⟩ := reconcileWorkloads_of_firstBad now registry hbad after
      rw [heq]
      exact Or.inr ((putEach_unchanged_iff now registry hbad.acceptable).2 hdescribed)

end RoomRecords

/-- A workload with a replica whose label names a room. -/
def labelledWorkload (label : String) : Option DiscoveredWorkload :=
  (parseRoomId 100 (some label)).map fun (roomId, ordinal) =>
    { roomId, ordinal, deploymentName := "game", serviceName := "game", endpoint := "http://game:8001",
      replicas := .ofNat 1 }

/-- The labels `room-0` and `room-01` are both taken for rooms; reconciliation throws at the second and has written
the record of the first. -/
theorem room_with_leading_zero_is_half_written : ∃ workloads,
    ["room-0", "room-01"].mapM labelledWorkload = some workloads ∧
    (RoomRecords.reconcileWorkloads "" .empty workloads).1 = .error "invalid_room_workload" ∧
    (RoomRecords.reconcileWorkloads "" .empty workloads).2.get "room-0" ≠ RoomRecords.empty.get "room-0" := by
  refine ⟨_, rfl, ?_, ?_⟩
  · decide +kernel
  · decide +kernel

end Opsia
