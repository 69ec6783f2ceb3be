import Mathlib.Algebra.Ring.Nat
import Mathlib.Data.Option.Basic
import Opsia.Machine
import Opsia.Orchestrator.Fleet

/-!
# What the requests for a fleet change

`create` and `start` take the number of active rooms for the ordinal of the next one, `stop` and `delete` the ordinal of
the room for the number of rooms that stay, and a scale request looks for the rooms to be saved only where the number of
replicas is below that of the active rooms.  All of this is right as long as the active ordinals have no gap; the fleet
is rebuilt from what the cluster has, which may have gaps (`mutations_local_iff`).
-/

namespace Opsia

open Machine

/-! ### Records -/

/-- Where keys increase, an element is what is found under its key. -/
theorem find?_key {α : Type} {key : α → Nat} {as : List α} (h : as.Pairwise fun a b => key a < key b) {a : α}
    (hmem : a ∈ as) : as.find? (fun b => decide (key b = key a)) = some a := by
  induction as with
  | nil => cases hmem
  | cons first rest ih =>
    obtain ⟨hfirst, hrest⟩ := List.pairwise_cons.1 h
    rcases List.mem_cons.1 hmem with rfl | hmem
    · simp
    · have hne : key first ≠ key a := (hfirst a hmem).ne
      simpa [List.find?_cons, hne] using ih hrest hmem

theorem find?_key_eq_some_iff {α : Type} {key : α → Nat} {as : List α} (h : as.Pairwise fun a b => key a < key b)
    {ordinal : Nat} {a : α} : as.find? (fun b => decide (key b = ordinal)) = some a ↔ a ∈ as ∧ key a = ordinal := by
  constructor
  · intro hfound
    exact ⟨List.mem_of_find?_eq_some hfound, of_decide_eq_true (List.find?_some hfound :)⟩
  · rintro ⟨hmem, rfl⟩
    exact find?_key h hmem

namespace RoomRegistry

theorem get_insertRecord {record : RoomRegistryRecord} {records : List RoomRegistryRecord}
    (h : records.Pairwise fun record other => record.ordinal < other.ordinal) (ordinal : Nat) :
    (insertRecord record records).find? (fun other => decide (other.ordinal = ordinal)) =
      if record.ordinal = ordinal then some record
      else records.find? fun other => decide (other.ordinal = ordinal) := by
  induction records with
  | nil =>
    unfold insertRecord
    rw [List.find?_singleton]
    simp
  | cons first rest ih =>
    obtain ⟨hfirst, hrest⟩ := List.pairwise_cons.1 h
    unfold insertRecord
    split
    · by_cases hself : record.ordinal = ordinal <;> simp [hself]
    · split
      · rename_i heq
        by_cases hself : record.ordinal = ordinal
        · simp [hself]
        · have hother : first.ordinal ≠ ordinal := heq ▸ hself
          simp [hself, hother]
      · rename_i hne
        by_cases hother : first.ordinal = ordinal
        · have hself : record.ordinal ≠ ordinal := fun heq => hne (heq.trans hother.symm)
          simp [hself, hother]
        · simpa [List.find?_cons, hother] using ih hrest

theorem get_put (registry : RoomRegistry) (record : RoomRegistryRecord) (ordinal : Nat) :
    (registry.put record).get ordinal = if record.ordinal = ordinal then some record else registry.get ordinal :=
  get_insertRecord registry.sorted ordinal

theorem get_eq_some_iff {registry : RoomRegistry} {ordinal : Nat} {record : RoomRegistryRecord} :
    registry.get ordinal = some record ↔ record ∈ registry.records ∧ record.ordinal = ordinal :=
  find?_key_eq_some_iff registry.sorted

theorem get_ordinal {registry : RoomRegistry} {ordinal : Nat} {record : RoomRegistryRecord}
    (h : registry.get ordinal = some record) : record.ordinal = ordinal :=
  (get_eq_some_iff.1 h).2

theorem get_remove (registry : RoomRegistry) (room ordinal : Nat) :
    (registry.remove room).get ordinal = if ordinal = room then none else registry.get ordinal := by
  unfold get remove
  rw [List.find?_filter]
  split
  · rename_i heq
    refine List.find?_eq_none.2 fun record _ => ?_
    simp [heq]
  · rename_i hne
    refine congrArg (fun p => List.find? p registry.records) (funext fun record => ?_)
    by_cases h : record.ordinal = ordinal <;> simp [h, hne]

/-- The last record that is put for an ordinal is the one that is there. -/
theorem get_putAll (registry : RoomRegistry) {records : List RoomRegistryRecord}
    (h : records.Pairwise fun record other => record.ordinal ≠ other.ordinal) (ordinal : Nat) :
    (registry.putAll records).get ordinal =
      (records.find? fun record => decide (record.ordinal = ordinal)).or (registry.get ordinal) := by
  induction records generalizing registry with
  | nil => rfl
  | cons first rest ih =>
    obtain ⟨hfirst, hrest⟩ := List.pairwise_cons.1 h
    have hput : registry.putAll (first :: rest) = (registry.put first).putAll rest := rfl
    rw [hput, ih _ hrest, get_put]
    by_cases hself : first.ordinal = ordinal
    · have hnone : rest.find? (fun record => decide (record.ordinal = ordinal)) = none := by
        refine List.find?_eq_none.2 fun record hmem => ?_
        have hne := hfirst record hmem
        simpa using fun heq => hne (hself.trans heq.symm)
      simp [hself, hnone]
    · simp [hself]

theorem mem_activeRooms {registry : RoomRegistry} {record : RoomRegistryRecord} :
    record ∈ registry.activeRooms ↔ record ∈ registry.records ∧ record.status ≠ .inactive := by
  unfold activeRooms
  rw [List.mem_filter, decide_eq_true_iff]

end RoomRegistry

/-! ### Discovery -/

variable {maxRooms : Nat}

namespace RoomFleet

theorem workload_ordinal {fleet : RoomFleet maxRooms} {ordinal : Nat} {workload : RoomWorkload}
    (h : fleet.workload ordinal = some workload) : workload.ordinal = ordinal :=
  of_decide_eq_true (List.find?_some h :)

theorem workload_of_mem {fleet : RoomFleet maxRooms} {workload : RoomWorkload} (h : workload ∈ fleet.workloads) :
    fleet.workload workload.ordinal = some workload := find?_key fleet.sorted h

theorem replicas_of_mem {fleet : RoomFleet maxRooms} {workload : RoomWorkload} (h : workload ∈ fleet.workloads) :
    fleet.replicas workload.ordinal = some workload.replicas := by
  unfold RoomFleet.replicas
  rw [workload_of_mem h, Option.map_some]

theorem exists_of_replicas {fleet : RoomFleet maxRooms} {ordinal : Nat} {replicas : Fin 2}
    (h : fleet.replicas ordinal = some replicas) :
    ∃ workload ∈ fleet.workloads, workload.ordinal = ordinal ∧ workload.replicas = replicas := by
  obtain ⟨workload, hfound, hreplicas⟩ := Option.map_eq_some_iff.1 h
  exact ⟨workload, List.mem_of_find?_eq_some hfound, workload_ordinal hfound, hreplicas⟩

theorem workload_scale (fleet : RoomFleet maxRooms) (replicas ordinal : Nat) :
    (fleet.scale replicas).workload ordinal = (fleet.workload ordinal).map (RoomWorkload.scale replicas) := by
  unfold workload scale
  rw [List.find?_map]
  rfl

theorem replicas_scale (fleet : RoomFleet maxRooms) (replicas ordinal : Nat) :
    (fleet.scale replicas).replicas ordinal =
      (fleet.replicas ordinal).map fun _ => if ordinal < replicas then 1 else 0 := by
  unfold RoomFleet.replicas
  rw [fleet.workload_scale replicas ordinal, Option.map_map, Option.map_map]
  cases hfound : fleet.workload ordinal with
  | none => rfl
  | some workload =>
    have hordinal := workload_ordinal hfound
    simp [RoomWorkload.scale, hordinal]

end RoomFleet

namespace RoomRegistry

theorem mem_undiscovered {registry : RoomRegistry} {workloads : List RoomWorkload} {record : RoomRegistryRecord} :
    record ∈ registry.undiscovered workloads ↔
      record ∈ registry.activeRooms ∧ ∀ workload ∈ workloads, workload.ordinal ≠ record.ordinal := by
  unfold undiscovered
  rw [List.mem_filter, List.all_eq_true]
  simp only [decide_eq_true_iff]

theorem find?_undiscovered (now : String) (registry : RoomRegistry) (fleet : RoomFleet maxRooms) (ordinal : Nat) :
    ((registry.undiscovered fleet.workloads).map (RoomRegistryRecord.deactivate now)).find?
        (fun record => decide (record.ordinal = ordinal)) =
      match fleet.workload ordinal with
      | some _ => none
      | none => ((registry.get ordinal).filter fun record => decide (record.status ≠ .inactive)).map
          (RoomRegistryRecord.deactivate now) := by
  have hsorted : (registry.undiscovered fleet.workloads).Pairwise fun record other => record.ordinal < other.ordinal :=
    (registry.sorted.filter _).filter _
  have hfound : ∀ record, (registry.undiscovered fleet.workloads).find? (fun record => decide (record.ordinal = ordinal))
      = some record ↔ record ∈ registry.undiscovered fleet.workloads ∧ record.ordinal = ordinal := fun record =>
    find?_key_eq_some_iff hsorted
  rw [List.find?_map]
  change Option.map _ ((registry.undiscovered fleet.workloads).find? fun record => decide (record.ordinal = ordinal)) = _
  cases hworkload : fleet.workload ordinal with
  | some workload =>
    have hnone : (registry.undiscovered fleet.workloads).find? (fun record => decide (record.ordinal = ordinal)) =
        none := by
      refine Option.eq_none_iff_forall_ne_some.2 fun record h => ?_
      obtain ⟨hmem, hordinal⟩ := (hfound record).1 h
      refine (mem_undiscovered.1 hmem).2 workload (List.mem_of_find?_eq_some hworkload) ?_
      rw [RoomFleet.workload_ordinal hworkload, hordinal]
    rw [hnone]
    rfl
  | none =>
    refine congrArg (Option.map (RoomRegistryRecord.deactivate now)) (Option.ext fun record => ?_)
    rw [hfound, mem_undiscovered, mem_activeRooms, Option.filter_eq_some_iff, get_eq_some_iff, decide_eq_true_iff]
    constructor
    · rintro ⟨⟨⟨hmem, hactive⟩, -⟩, hordinal⟩
      exact ⟨⟨hmem, hordinal⟩, hactive⟩
    · rintro ⟨⟨hmem, hordinal⟩, hactive⟩
      refine ⟨⟨⟨hmem, hactive⟩, fun workload hin heq => ?_⟩, hordinal⟩
      have hsame := RoomFleet.workload_of_mem hin
      rw [heq, hordinal, hworkload] at hsame
      cases hsame

/-- Discovery rewrites the record of every room with a workload and makes the others inactive. -/
theorem get_reconcileWorkloads (now : String) (registry : RoomRegistry) (fleet : RoomFleet maxRooms) (ordinal : Nat) :
    (registry.reconcileWorkloads now fleet.workloads).get ordinal =
      match fleet.workload ordinal with
      | some workload => some (workload.reconcile now (registry.get ordinal))
      | none =>
        (registry.get ordinal).map fun record =>
          if record.status = .inactive then record else record.deactivate now := by
  have hworkloads : (fleet.workloads.map fun workload =>
      workload.reconcile now (registry.get workload.ordinal)).Pairwise
        fun record other => record.ordinal < other.ordinal := List.pairwise_map.2 fleet.sorted
  have hstale : ((registry.undiscovered fleet.workloads).map (RoomRegistryRecord.deactivate now)).Pairwise
      fun record other => record.ordinal < other.ordinal :=
    List.pairwise_map.2 ((registry.sorted.filter _).filter _)
  have hfound : (fleet.workloads.map fun workload => workload.reconcile now (registry.get workload.ordinal)).find?
      (fun record => decide (record.ordinal = ordinal)) =
        (fleet.workload ordinal).map fun workload => workload.reconcile now (registry.get workload.ordinal) := by
    rw [List.find?_map]
    rfl
  unfold reconcileWorkloads
  rw [get_putAll _ (hstale.imp Nat.ne_of_lt), get_putAll _ (hworkloads.imp Nat.ne_of_lt), find?_undiscovered, hfound]
  cases hworkload : fleet.workload ordinal with
  | some workload =>
    rw [Option.none_or, Option.map_some, Option.some_or, RoomFleet.workload_ordinal hworkload]
  | none =>
    cases hget : registry.get ordinal with
    | none => rfl
    | some record => by_cases hactive : record.status = .inactive <;> simp [Option.filter, hactive]

end RoomRegistry

namespace RoomOrchestrator

/-- The active records are those of the workloads with a replica, and have their endpoints. -/
structure Synced (rooms : RoomOrchestrator maxRooms) : Prop where
  active : ∀ workload ∈ rooms.fleet.workloads, workload.replicas = 1 →
    ∃ record ∈ rooms.registry.get workload.ordinal, record.status ≠ .inactive ∧ record.endpoint = workload.endpoint
  discovered : ∀ ordinal, ∀ record ∈ rooms.registry.get ordinal, record.status ≠ .inactive →
    rooms.fleet.replicas ordinal = some 1

theorem synced_discover (now : String) (registry : RoomRegistry) (fleet : RoomFleet maxRooms) :
    (discover now registry fleet).Synced := by
  refine ⟨fun workload hmem hone => ?_, fun ordinal record hrecord hactive => ?_⟩
  · have hget := registry.get_reconcileWorkloads now fleet workload.ordinal
    have hworkload : fleet.workload workload.ordinal = some workload := RoomFleet.workload_of_mem hmem
    rw [hworkload] at hget
    refine ⟨_, hget, ?_, rfl⟩
    unfold RoomWorkload.reconcile
    dsimp only
    rw [if_pos hone]
    split
    · exact RegistryStatus.noConfusion
    · assumption
  · have hget := registry.get_reconcileWorkloads now fleet ordinal
    have hsome : (registry.reconcileWorkloads now fleet.workloads).get ordinal = some record := hrecord
    rw [hsome] at hget
    cases hworkload : fleet.workload ordinal with
    | some workload =>
      rw [hworkload] at hget
      obtain rfl := Option.some.inj hget
      have hone : workload.replicas = 1 := by
        by_contra hzero
        refine hactive ?_
        unfold RoomWorkload.reconcile
        exact if_neg hzero
      change (fleet.workload ordinal).map RoomWorkload.replicas = some 1
      rw [hworkload, Option.map_some, hone]
    | none =>
      rw [hworkload] at hget
      obtain ⟨old, -, hold⟩ := Option.map_eq_some_iff.1 hget.symm
      rw [← hold] at hactive
      split at hactive
      · exact absurd ‹_› hactive
      · exact absurd rfl hactive

/-- Another spec of a room leaves the records in step with the cluster. -/
theorem Synced.putSpec {rooms : RoomOrchestrator maxRooms} (h : rooms.Synced) {room : Nat} {record : RoomRegistryRecord}
    (hrecord : rooms.registry.get room = some record) (spec : RoomSpec) :
    Synced { rooms with registry := rooms.registry.put { record with spec := some spec } } := by
  have hordinal := RoomRegistry.get_ordinal hrecord
  have hget : ∀ ordinal, (rooms.registry.put { record with spec := some spec }).get ordinal =
      if ordinal = room then some { record with spec := some spec } else rooms.registry.get ordinal := by
    intro ordinal
    rw [RoomRegistry.get_put, hordinal]
    simp only [eq_comm]
  refine ⟨fun workload hmem hone => ?_, fun ordinal other hother hactive => ?_⟩
  · obtain ⟨other, hother, hactive, hendpoint⟩ := h.active workload hmem hone
    by_cases heq : workload.ordinal = room
    · have hsame : other = record := Option.some.inj (hother.symm.trans (heq ▸ hrecord))
      rw [hsame] at hactive hendpoint
      exact ⟨{ record with spec := some spec }, (hget workload.ordinal).trans (if_pos heq), hactive, hendpoint⟩
    · exact ⟨other, ((hget workload.ordinal).trans (if_neg heq)).trans hother, hactive, hendpoint⟩
  · have hfound := (hget ordinal).symm.trans hother
    split at hfound
    · rename_i heq
      obtain rfl := Option.some.inj hfound
      exact heq ▸ h.discovered room record hrecord hactive
    · exact h.discovered ordinal other hfound hactive

/-- A room without a replica may lose its record. -/
theorem Synced.removeRecord {rooms : RoomOrchestrator maxRooms} (h : rooms.Synced) {room : Nat}
    (hoff : rooms.fleet.replicas room ≠ some 1) :
    Synced { rooms with registry := rooms.registry.remove room } := by
  refine ⟨fun workload hmem hone => ?_, fun ordinal record hrecord hactive => ?_⟩
  · obtain ⟨record, hrecord, hactive, hendpoint⟩ := h.active workload hmem hone
    have hne : workload.ordinal ≠ room := by
      intro heq
      rw [← heq, RoomFleet.replicas_of_mem hmem, hone] at hoff
      exact hoff rfl
    exact ⟨record, ((RoomRegistry.get_remove ..).trans (if_neg hne)).trans hrecord, hactive, hendpoint⟩
  · have hfound := (RoomRegistry.get_remove rooms.registry room ordinal).symm.trans hrecord
    split at hfound
    · cases hfound
    · exact h.discovered ordinal record hfound hactive

/-! ### What each request does -/

theorem scaleAndReconcile_eq_some {now : String} {rooms scaled : RoomOrchestrator maxRooms} {replicas : Int}
    (h : rooms.scaleAndReconcile now replicas = some scaled) :
    0 ≤ replicas ∧ replicas ≤ maxRooms ∧ scaled = discover now rooms.registry (rooms.fleet.scale replicas.toNat) := by
  unfold scaleAndReconcile at h
  split at h
  · rename_i hguard
    exact ⟨hguard.1, hguard.2, (Option.some.inj h).symm⟩
  · cases h

theorem saveSnapshots_eq_some {answers : String → Bool} {records : List RoomRegistryRecord} {saved : List String}
    (h : saveSnapshots answers records = some saved) : saved = records.map RoomRegistryRecord.endpoint := by
  unfold saveSnapshots at h
  split at h
  · exact (Option.some.inj h).symm
  · cases h

theorem scaleWithSnapshots_eq_some {now : String} {answers : String → Bool} {rooms : RoomOrchestrator maxRooms}
    {replicas : Int} {outcome : MutationOutcome maxRooms}
    (h : rooms.scaleWithSnapshots now answers replicas = some outcome) :
    0 ≤ replicas ∧ outcome.rooms = discover now rooms.registry (rooms.fleet.scale replicas.toNat) ∧
      ∀ endpoint, endpoint ∈ outcome.saved ↔ replicas < rooms.registry.activeRooms.length ∧
        ∃ record ∈ rooms.registry.activeRooms, replicas ≤ record.ordinal ∧ record.endpoint = endpoint := by
  obtain ⟨saved, hsaved, h⟩ := Option.bind_eq_some_iff.1 h
  obtain ⟨scaled, hscaled, h⟩ := Option.bind_eq_some_iff.1 h
  obtain rfl := Option.some.inj h
  obtain ⟨hpos, -, rfl⟩ := scaleAndReconcile_eq_some hscaled
  refine ⟨hpos, rfl, fun endpoint => ?_⟩
  rw [saveSnapshots_eq_some hsaved]
  simp only [List.mem_map, List.mem_reverse]
  split
  · rename_i hlt
    simp [hlt, and_assoc]
  · rename_i hnot
    simp [hnot]

theorem create_eq_some {now : String} {rooms : RoomOrchestrator maxRooms} {body : RoomSpecBody}
    {outcome : MutationOutcome maxRooms} (h : rooms.create now body = some outcome) :
    outcome.saved = [] ∧ ∃ spec created,
      (discover now rooms.registry (rooms.fleet.scale (rooms.registry.activeRooms.length + 1))).registry.get
        rooms.registry.activeRooms.length = some created ∧
      outcome.rooms =
        { discover now rooms.registry (rooms.fleet.scale (rooms.registry.activeRooms.length + 1)) with
          registry := (discover now rooms.registry
            (rooms.fleet.scale (rooms.registry.activeRooms.length + 1))).registry.put
              { created with spec := some spec } } := by
  obtain ⟨-, -, h⟩ := Option.bind_eq_some_iff.1 h
  obtain ⟨spec, -, h⟩ := Option.bind_eq_some_iff.1 h
  obtain ⟨scaled, hscaled, h⟩ := Option.bind_eq_some_iff.1 h
  obtain ⟨created, hcreated, h⟩ := Option.bind_eq_some_iff.1 h
  obtain rfl := Option.some.inj h
  obtain ⟨-, -, rfl⟩ := scaleAndReconcile_eq_some hscaled
  exact ⟨rfl, spec, created, hcreated, rfl⟩

theorem start_eq_some {now : String} {rooms : RoomOrchestrator maxRooms} {room : Nat}
    {outcome : MutationOutcome maxRooms} (h : rooms.start now room = some outcome) :
    outcome.saved = [] ∧ ∃ current, rooms.registry.get room = some current ∧
      (current.status ≠ .inactive ∧ outcome.rooms = rooms ∨
        current.status = .inactive ∧ outcome.rooms = discover now rooms.registry (rooms.fleet.scale (room + 1))) := by
  obtain ⟨current, hcurrent, h⟩ := Option.bind_eq_some_iff.1 h
  split at h
  · rename_i hactive
    obtain rfl := Option.some.inj h
    exact ⟨rfl, current, hcurrent, Or.inl ⟨hactive, rfl⟩⟩
  · rename_i hinactive
    obtain ⟨_, hguard, h⟩ := Option.bind_eq_some_iff.1 h
    obtain ⟨scaled, hscaled, h⟩ := Option.bind_eq_some_iff.1 h
    obtain rfl := Option.some.inj h
    obtain ⟨-, -, rfl⟩ := scaleAndReconcile_eq_some hscaled
    have hcount : room = rooms.registry.activeRooms.length :=
      (RoomRegistry.get_ordinal hcurrent).symm.trans ((Option.guard_eq_some' _).1 hguard)
    refine ⟨rfl, current, hcurrent, Or.inr ⟨not_not.1 hinactive, ?_⟩⟩
    rw [hcount]
    rfl

/-- The ordinals of active rooms are at most that of the last one. -/
theorem ordinal_le_last {registry : RoomRegistry} {room : Nat}
    (h : registry.activeRooms.getLast?.map RoomRegistryRecord.ordinal = some room) {record : RoomRegistryRecord}
    (hmem : record ∈ registry.activeRooms) : record.ordinal ≤ room := by
  obtain ⟨last, hlast, rfl⟩ := Option.map_eq_some_iff.1 h
  obtain ⟨init, hinit⟩ := List.getLast?_eq_some_iff.1 hlast
  have hsorted : registry.activeRooms.Pairwise fun record other => record.ordinal < other.ordinal :=
    registry.sorted.filter _
  rw [hinit] at hmem hsorted
  rcases List.mem_append.1 hmem with hmem | hmem
  · exact ((List.pairwise_append.1 hsorted).2.2 record hmem last (List.mem_singleton_self _)).le
  · rw [List.mem_singleton.1 hmem]

theorem stop_eq_some {now : String} {answers : String → Bool} {rooms : RoomOrchestrator maxRooms} {room : Nat}
    {outcome : MutationOutcome maxRooms} (h : rooms.stop now answers room = some outcome) :
    ∃ current, rooms.registry.get room = some current ∧
      rooms.registry.activeRooms.getLast?.map RoomRegistryRecord.ordinal = some room ∧
      outcome.saved = [current.endpoint] ∧
      outcome.rooms = discover now rooms.registry (rooms.fleet.scale room) := by
  obtain ⟨current, hcurrent, h⟩ := Option.bind_eq_some_iff.1 h
  obtain ⟨_, hguard, h⟩ := Option.bind_eq_some_iff.1 h
  obtain ⟨saved, hsaved, h⟩ := Option.bind_eq_some_iff.1 h
  obtain ⟨scaled, hscaled, h⟩ := Option.bind_eq_some_iff.1 h
  obtain rfl := Option.some.inj h
  obtain ⟨-, -, rfl⟩ := scaleAndReconcile_eq_some hscaled
  have hordinal := RoomRegistry.get_ordinal hcurrent
  rw [hordinal] at hguard ⊢
  exact ⟨current, hcurrent, (Option.guard_eq_some' _).1 hguard, saveSnapshots_eq_some hsaved, rfl⟩

theorem delete_eq_some {now : String} {answers : String → Bool} {rooms : RoomOrchestrator maxRooms} {room : Nat}
    {outcome : MutationOutcome maxRooms} (h : rooms.delete now answers room = some outcome) :
    ∃ current, rooms.registry.get room = some current ∧
      (current.status = .inactive ∧ outcome.saved = [] ∧
          outcome.rooms = { rooms with registry := rooms.registry.remove room } ∨
        current.status ≠ .inactive ∧
          rooms.registry.activeRooms.getLast?.map RoomRegistryRecord.ordinal = some room ∧
          outcome.saved = [current.endpoint] ∧
          outcome.rooms = { discover now rooms.registry (rooms.fleet.scale room) with
            registry := (discover now rooms.registry (rooms.fleet.scale room)).registry.remove room }) := by
  obtain ⟨current, hcurrent, h⟩ := Option.bind_eq_some_iff.1 h
  have hordinal := RoomRegistry.get_ordinal hcurrent
  rw [hordinal] at h
  split at h
  · rename_i hinactive
    obtain rfl := Option.some.inj h
    exact ⟨current, hcurrent, Or.inl ⟨hinactive, rfl, rfl⟩⟩
  · rename_i hactive
    obtain ⟨_, hguard, h⟩ := Option.bind_eq_some_iff.1 h
    obtain ⟨saved, hsaved, h⟩ := Option.bind_eq_some_iff.1 h
    obtain ⟨scaled, hscaled, h⟩ := Option.bind_eq_some_iff.1 h
    obtain rfl := Option.some.inj h
    obtain ⟨-, -, rfl⟩ := scaleAndReconcile_eq_some hscaled
    exact ⟨current, hcurrent, Or.inr ⟨hactive, (Option.guard_eq_some' _).1 hguard, saveSnapshots_eq_some hsaved, rfl⟩⟩

/-! ### Local and lossless -/

/-- The room goes from no replica to one; no other room's replicas change, and no other record's spec. -/
structure TurnedOn (before after : RoomOrchestrator maxRooms) (room : Nat) : Prop where
  off : before.fleet.replicas room = some 0
  on : after.fleet.replicas room = some 1
  others : ∀ ordinal, ordinal ≠ room → after.fleet.replicas ordinal = before.fleet.replicas ordinal
  specs : ∀ ordinal, ordinal ≠ room → ∀ record ∈ before.registry.get ordinal,
    (after.registry.get ordinal).bind RoomRegistryRecord.spec = record.spec

/-- The room has no replica, and no other room's replicas change. -/
structure TurnedOff (before after : RoomOrchestrator maxRooms) (room : Nat) : Prop where
  off : after.fleet.replicas room ≠ some 1
  others : ∀ ordinal, ordinal ≠ room → after.fleet.replicas ordinal = before.fleet.replicas ordinal

/-- What the mutations that address a room change.  The room of `create` is the one it answers with; a start of a room
that is active changes nothing. -/
def Local (before : RoomOrchestrator maxRooms) (outcome : MutationOutcome maxRooms) : RoomMutation → Prop
  | .scale _ => True
  | .create _ => TurnedOn before outcome.rooms before.registry.activeRooms.length
  | .start room => ∀ current ∈ before.registry.get room,
      if current.status = .inactive then TurnedOn before outcome.rooms room else outcome.rooms = before
  | .stop room | .delete room => TurnedOff before outcome.rooms room

-- a number of replicas is written as a literal below
local instance twoReplicas : NeZero 2 := ⟨Nat.succ_ne_zero 1⟩

/-- A workload that loses its replica has had its snapshot saved. -/
def Lossless (before : RoomOrchestrator maxRooms) (outcome : MutationOutcome maxRooms) : Prop :=
  ∀ workload ∈ before.fleet.workloads, workload.replicas = 1 →
    outcome.rooms.fleet.replicas workload.ordinal ≠ some 1 → workload.endpoint ∈ outcome.saved

/-- The rooms below the ordinal are active and no others, and it is the ordinal of another room. -/
def Next (rooms : RoomOrchestrator maxRooms) (ordinal : Nat) : Prop :=
  (∀ workload ∈ rooms.fleet.workloads, workload.replicas = 1 ↔ workload.ordinal < ordinal) ∧
    ∃ workload ∈ rooms.fleet.workloads, workload.ordinal = ordinal

/-- Discovery leaves the specs of the other rooms as they are. -/
def Settled (now : String) (rooms : RoomOrchestrator maxRooms) (room : Nat) : Prop :=
  ∀ workload ∈ rooms.fleet.workloads, workload.ordinal ≠ room → ∀ record ∈ rooms.registry.get workload.ordinal,
    some (specForOrdinal now workload.ordinal record.spec) = record.spec

/-- No workload below the ordinal is without a replica. -/
def Filled (rooms : RoomOrchestrator maxRooms) (ordinal : Nat) : Prop :=
  ∀ workload ∈ rooms.fleet.workloads, workload.ordinal < ordinal → workload.replicas = 1

/-- The active ordinals have no gap that the request runs into. -/
def Gapless (now : String) (rooms : RoomOrchestrator maxRooms) : RoomMutation → Prop
  | .scale replicas => replicas < rooms.registry.activeRooms.length ∨
      ∀ workload ∈ rooms.fleet.workloads, workload.replicas = 1 → (workload.ordinal : Int) < replicas
  | .create _ => rooms.Next rooms.registry.activeRooms.length ∧
      rooms.Settled now rooms.registry.activeRooms.length
  | .start room => ∀ current ∈ rooms.registry.get room, current.status = .inactive →
      rooms.Next room ∧ rooms.Settled now room
  | .stop room | .delete room => ∀ current ∈ rooms.registry.get room, current.status ≠ .inactive → rooms.Filled room

theorem replicas_discover (now : String) (registry : RoomRegistry) (fleet : RoomFleet maxRooms) (replicas ordinal : Nat) :
    (discover now registry (fleet.scale replicas)).fleet.replicas ordinal =
      (fleet.replicas ordinal).map fun _ => if ordinal < replicas then 1 else 0 := fleet.replicas_scale replicas ordinal

theorem replicas_next_iff {rooms : RoomOrchestrator maxRooms} {room : Nat} :
    (rooms.fleet.replicas room = some 0 ∧ ∀ ordinal, ordinal ≠ room →
      ((rooms.fleet.replicas ordinal).map fun _ => if ordinal < room + 1 then 1 else 0) = rooms.fleet.replicas ordinal) ↔
      rooms.Next room := by
  constructor
  · rintro ⟨hoff, hothers⟩
    refine ⟨fun workload hmem => ?_, ?_⟩
    · have hreplicas := RoomFleet.replicas_of_mem hmem
      by_cases hself : workload.ordinal = room
      · rw [hself, hoff] at hreplicas
        rw [← Option.some.inj hreplicas, hself]
        simp
      · have hother := hothers workload.ordinal hself
        rw [hreplicas, Option.map_some, Option.some_inj] at hother
        rw [← hother]
        split
        · exact iff_of_true rfl (by omega)
        · exact iff_of_false (by decide) (by omega)
    · obtain ⟨workload, hmem, hordinal, -⟩ := RoomFleet.exists_of_replicas hoff
      exact ⟨workload, hmem, hordinal⟩
  · rintro ⟨hactive, workload, hmem, rfl⟩
    have hzero : ∀ other ∈ rooms.fleet.workloads,
        other.replicas = if other.ordinal < workload.ordinal then 1 else 0 := by
      intro other hother
      have hone := hactive other hother
      split
      · exact hone.2 ‹_›
      · have hne : other.replicas ≠ 1 := fun h => absurd (hone.1 h) ‹_›
        omega
    refine ⟨?_, fun ordinal hne => ?_⟩
    · rw [RoomFleet.replicas_of_mem hmem, hzero workload hmem, if_neg (lt_irrefl _)]
    · cases hreplicas : rooms.fleet.replicas ordinal with
      | none => rfl
      | some replicas =>
        obtain ⟨other, hother, rfl, rfl⟩ := RoomFleet.exists_of_replicas hreplicas
        rw [Option.map_some, hzero other hother]
        congr 1
        split <;> split <;> first | rfl | omega

theorem spec_discover {now : String} {registry : RoomRegistry} {fleet : RoomFleet maxRooms} {replicas ordinal : Nat}
    {record : RoomRegistryRecord} (h : registry.get ordinal = some record) :
    ((discover now registry (fleet.scale replicas)).registry.get ordinal).bind RoomRegistryRecord.spec =
      match fleet.workload ordinal with
      | some _ => some (specForOrdinal now ordinal record.spec)
      | none => record.spec := by
  have hget := registry.get_reconcileWorkloads now (fleet.scale replicas) ordinal
  rw [fleet.workload_scale, h] at hget
  change ((registry.reconcileWorkloads now (fleet.scale replicas).workloads).get ordinal).bind _ = _
  rw [hget]
  cases hworkload : fleet.workload ordinal with
  | none =>
    rw [Option.map_none]
    dsimp only
    rw [Option.map_some, Option.bind_some]
    split <;> rfl
  | some workload =>
    have hordinal := RoomFleet.workload_ordinal hworkload
    rw [← hordinal]
    rfl

theorem settled_iff {now : String} {rooms : RoomOrchestrator maxRooms} (replicas : Nat) {room : Nat} :
    (∀ ordinal, ordinal ≠ room → ∀ record ∈ rooms.registry.get ordinal,
        ((discover now rooms.registry (rooms.fleet.scale replicas)).registry.get ordinal).bind
          RoomRegistryRecord.spec = record.spec) ↔ rooms.Settled now room := by
  constructor
  · intro h workload hmem hne record hrecord
    have hspec := h workload.ordinal hne record hrecord
    rw [spec_discover hrecord, RoomFleet.workload_of_mem hmem] at hspec
    exact hspec
  · intro h ordinal hne record hrecord
    rw [spec_discover hrecord]
    cases hworkload : rooms.fleet.workload ordinal with
    | none => rfl
    | some workload =>
      have hordinal := RoomFleet.workload_ordinal hworkload
      rw [← hordinal] at hne hrecord ⊢
      exact h workload (List.mem_of_find?_eq_some hworkload) hne record hrecord

/-- Scaling to the rooms up to one turns that one on, and no other, just when it is the next. -/
theorem turnedOn_iff (now : String) {rooms after : RoomOrchestrator maxRooms} {room : Nat}
    (hfleet : after.fleet = rooms.fleet.scale (room + 1))
    (hspecs : ∀ ordinal, ordinal ≠ room → (after.registry.get ordinal).bind RoomRegistryRecord.spec =
      ((discover now rooms.registry (rooms.fleet.scale (room + 1))).registry.get ordinal).bind
        RoomRegistryRecord.spec) :
    TurnedOn rooms after room ↔ rooms.Next room ∧ rooms.Settled now room := by
  have hreplicas : ∀ ordinal, after.fleet.replicas ordinal =
      (rooms.fleet.replicas ordinal).map fun _ => if ordinal < room + 1 then 1 else 0 := by
    intro ordinal
    rw [hfleet, rooms.fleet.replicas_scale]
  rw [← replicas_next_iff, ← settled_iff (room + 1)]
  constructor
  · rintro ⟨hoff, -, hothers, hsame⟩
    refine ⟨⟨hoff, fun ordinal hne => ?_⟩, fun ordinal hne record hrecord => ?_⟩
    · rw [← hreplicas, hothers ordinal hne]
    · rw [← hspecs ordinal hne, hsame ordinal hne record hrecord]
  · rintro ⟨⟨hoff, hothers⟩, hsame⟩
    refine ⟨hoff, ?_, fun ordinal hne => ?_, fun ordinal hne record hrecord => ?_⟩
    · rw [hreplicas, hoff, Option.map_some, if_pos (Nat.lt_succ_self room)]
    · rw [hreplicas, hothers ordinal hne]
    · rw [hspecs ordinal hne, hsame ordinal hne record hrecord]

/-- Scaling to the rooms below the last active one turns that one off, and changes no other, just when no room below it
is inactive. -/
theorem turnedOff_iff {rooms after : RoomOrchestrator maxRooms} (h : rooms.Synced) {room : Nat}
    (hlast : rooms.registry.activeRooms.getLast?.map RoomRegistryRecord.ordinal = some room)
    (hfleet : after.fleet = rooms.fleet.scale room) : TurnedOff rooms after room ↔ rooms.Filled room := by
  have hreplicas : ∀ ordinal, after.fleet.replicas ordinal =
      (rooms.fleet.replicas ordinal).map fun _ => if ordinal < room then 1 else 0 := by
    intro ordinal
    rw [hfleet, rooms.fleet.replicas_scale]
  constructor
  · rintro ⟨-, hothers⟩ workload hmem hlt
    have hsame := hothers workload.ordinal hlt.ne
    rw [hreplicas, RoomFleet.replicas_of_mem hmem, Option.map_some, if_pos hlt] at hsame
    exact (Option.some.inj hsame).symm
  · intro hfilled
    refine ⟨fun hon => ?_, fun ordinal hne => ?_⟩
    · rw [hreplicas] at hon
      obtain ⟨replicas, -, hone⟩ := Option.map_eq_some_iff.1 hon
      rw [if_neg (lt_irrefl _)] at hone
      cases hone
    · rw [hreplicas]
      cases hfound : rooms.fleet.replicas ordinal with
      | none => rfl
      | some replicas =>
        obtain ⟨workload, hmem, rfl, rfl⟩ := RoomFleet.exists_of_replicas hfound
        rw [Option.map_some]
        congr 1
        split
        · exact (hfilled workload hmem ‹_›).symm
        · -- a room above the last active one is not active
          have hnot : workload.replicas ≠ 1 := by
            intro hone
            obtain ⟨record, hrecord, hactive, -⟩ := h.active workload hmem hone
            obtain ⟨hin, hordinal⟩ := RoomRegistry.get_eq_some_iff.1 hrecord
            have hle := ordinal_le_last hlast (RoomRegistry.mem_activeRooms.2 ⟨hin, hactive⟩)
            omega
          omega

/-! ### Every request -/

theorem TurnedOn.lossless {before : RoomOrchestrator maxRooms} {outcome : MutationOutcome maxRooms} {room : Nat}
    (h : TurnedOn before outcome.rooms room) : Lossless before outcome := by
  intro workload hmem hone hoff
  have hbefore := RoomFleet.replicas_of_mem hmem
  rw [hone] at hbefore
  by_cases hself : workload.ordinal = room
  · rw [hself, h.off] at hbefore
    cases hbefore
  · exact absurd ((h.others _ hself).trans hbefore) hoff

theorem TurnedOff.lossless {before : RoomOrchestrator maxRooms} {outcome : MutationOutcome maxRooms} {room : Nat}
    (hsynced : before.Synced) {current : RoomRegistryRecord} (hcurrent : before.registry.get room = some current)
    (hsaved : outcome.saved = [current.endpoint]) (h : TurnedOff before outcome.rooms room) :
    Lossless before outcome := by
  intro workload hmem hone hoff
  have hbefore := RoomFleet.replicas_of_mem hmem
  rw [hone] at hbefore
  by_cases hself : workload.ordinal = room
  · obtain ⟨record, hrecord, -, hendpoint⟩ := hsynced.active workload hmem hone
    rw [hself] at hrecord
    have hsame : current = record := Option.some.inj (hcurrent.symm.trans hrecord)
    rw [hsaved, hsame, hendpoint]
    exact List.mem_singleton_self _
  · exact absurd ((h.others _ hself).trans hbefore) hoff

theorem lossless_scale_iff {now : String} {answers : String → Bool} {rooms : RoomOrchestrator maxRooms}
    (h : rooms.Synced) {replicas : Int} {outcome : MutationOutcome maxRooms}
    (hout : rooms.scaleWithSnapshots now answers replicas = some outcome) :
    Lossless rooms outcome ↔ rooms.Gapless now (.scale replicas) := by
  obtain ⟨hpos, hrooms, hsaved⟩ := scaleWithSnapshots_eq_some hout
  have hafter : ∀ workload ∈ rooms.fleet.workloads,
      outcome.rooms.fleet.replicas workload.ordinal ≠ some 1 ↔ replicas ≤ workload.ordinal := by
    intro workload hmem
    rw [hrooms, replicas_discover, RoomFleet.replicas_of_mem hmem, Option.map_some]
    split
    · exact iff_of_false (fun hne => hne rfl) (by omega)
    · exact iff_of_true (by decide) (by omega)
  constructor
  · intro hlossless
    by_cases hlt : replicas < rooms.registry.activeRooms.length
    · exact Or.inl hlt
    · refine Or.inr fun workload hmem hone => ?_
      by_contra hge
      have hin := hlossless workload hmem hone ((hafter workload hmem).2 (by omega))
      exact hlt ((hsaved _).1 hin).1
  · rintro (hlt | hall) workload hmem hone hoff
    · obtain ⟨record, hrecord, hactive, hendpoint⟩ := h.active workload hmem hone
      obtain ⟨hin, hordinal⟩ := RoomRegistry.get_eq_some_iff.1 hrecord
      refine (hsaved _).2 ⟨hlt, record, RoomRegistry.mem_activeRooms.2 ⟨hin, hactive⟩, ?_, hendpoint⟩
      rw [hordinal]
      exact (hafter workload hmem).1 hoff
    · have hge := (hafter workload hmem).1 hoff
      have hlt := hall workload hmem hone
      omega

theorem create_iff {now : String} {rooms : RoomOrchestrator maxRooms} {body : RoomSpecBody}
    {outcome : MutationOutcome maxRooms} (hout : rooms.create now body = some outcome) :
    TurnedOn rooms outcome.rooms rooms.registry.activeRooms.length ↔ rooms.Gapless now (.create body) := by
  obtain ⟨-, spec, created, hcreated, hrooms⟩ := create_eq_some hout
  refine turnedOn_iff now ?_ fun ordinal hne => ?_
  · rw [hrooms]
    rfl
  · rw [hrooms]
    dsimp only
    rw [RoomRegistry.get_put, if_neg]
    rw [RoomRegistry.get_ordinal hcreated]
    exact hne.symm

theorem start_iff {now : String} {rooms : RoomOrchestrator maxRooms} {room : Nat} {outcome : MutationOutcome maxRooms}
    (hout : rooms.start now room = some outcome) :
    Lossless rooms outcome ∧ Local rooms outcome (.start room) ↔ rooms.Gapless now (.start room) := by
  obtain ⟨-, current, hcurrent, ⟨hactive, hrooms⟩ | ⟨hinactive, hrooms⟩⟩ := start_eq_some hout
  · -- the room is active already
    refine iff_of_true ⟨fun workload hmem hone hoff => ?_, fun record hrecord => ?_⟩ fun record hrecord hinactive => ?_
    · rw [hrooms, RoomFleet.replicas_of_mem hmem, hone] at hoff
      exact absurd rfl hoff
    · obtain rfl := Option.some.inj (hcurrent.symm.trans hrecord)
      rw [if_neg hactive]
      exact hrooms
    · obtain rfl := Option.some.inj (hcurrent.symm.trans hrecord)
      exact absurd hinactive hactive
  · have hiff : TurnedOn rooms outcome.rooms room ↔ rooms.Next room ∧ rooms.Settled now room :=
      turnedOn_iff now (by rw [hrooms]; rfl) fun ordinal _ => by rw [hrooms]
    constructor
    · rintro ⟨-, hlocal⟩ record hrecord -
      have hturned := hlocal current hcurrent
      rw [if_pos hinactive] at hturned
      exact hiff.1 hturned
    · intro hgapless
      have hturned := hiff.2 (hgapless current hcurrent hinactive)
      refine ⟨hturned.lossless, fun record hrecord => ?_⟩
      obtain rfl := Option.some.inj (hcurrent.symm.trans hrecord)
      rw [if_pos hinactive]
      exact hturned

theorem status_of_last {registry : RoomRegistry} {room : Nat} {current : RoomRegistryRecord}
    (hcurrent : registry.get room = some current)
    (hlast : registry.activeRooms.getLast?.map RoomRegistryRecord.ordinal = some room) : current.status ≠ .inactive := by
  obtain ⟨last, hmem, hordinal⟩ := Option.map_eq_some_iff.1 hlast
  obtain ⟨hin, hactive⟩ := RoomRegistry.mem_activeRooms.1 (List.mem_of_getLast? hmem)
  have hsame := RoomRegistry.get_eq_some_iff.2 ⟨hin, hordinal⟩
  rw [Option.some.inj (hcurrent.symm.trans hsame)]
  exact hactive

theorem stop_iff {now : String} {answers : String → Bool} {rooms : RoomOrchestrator maxRooms} (h : rooms.Synced)
    {room : Nat} {outcome : MutationOutcome maxRooms} (hout : rooms.stop now answers room = some outcome) :
    Lossless rooms outcome ∧ Local rooms outcome (.stop room) ↔ rooms.Gapless now (.stop room) := by
  obtain ⟨current, hcurrent, hlast, hsaved, hrooms⟩ := stop_eq_some hout
  have hiff : TurnedOff rooms outcome.rooms room ↔ rooms.Filled room := turnedOff_iff h hlast (by rw [hrooms]; rfl)
  constructor
  · rintro ⟨-, hlocal⟩ record - -
    exact hiff.1 hlocal
  · intro hgapless
    have hturned := hiff.2 (hgapless current hcurrent (status_of_last hcurrent hlast))
    exact ⟨hturned.lossless h hcurrent hsaved, hturned⟩

theorem delete_iff {now : String} {answers : String → Bool} {rooms : RoomOrchestrator maxRooms} (h : rooms.Synced)
    {room : Nat} {outcome : MutationOutcome maxRooms} (hout : rooms.delete now answers room = some outcome) :
    Lossless rooms outcome ∧ Local rooms outcome (.delete room) ↔ rooms.Gapless now (.delete room) := by
  obtain ⟨current, hcurrent, ⟨hinactive, -, hrooms⟩ | ⟨hactive, hlast, hsaved, hrooms⟩⟩ := delete_eq_some hout
  · -- an inactive room has no replica already
    refine iff_of_true ⟨fun workload hmem hone hoff => ?_, fun hon => ?_, fun ordinal _ => ?_⟩
      fun record hrecord hactive => ?_
    · rw [hrooms] at hoff
      exact absurd ((RoomFleet.replicas_of_mem hmem).trans (congrArg some hone)) hoff
    · rw [hrooms] at hon
      obtain ⟨workload, hmem, hordinal, hone⟩ := RoomFleet.exists_of_replicas hon
      obtain ⟨record, hrecord, hactive, -⟩ := h.active workload hmem hone
      rw [hordinal] at hrecord
      obtain rfl := Option.some.inj (hcurrent.symm.trans hrecord)
      exact hactive hinactive
    · rw [hrooms]
    · obtain rfl := Option.some.inj (hcurrent.symm.trans hrecord)
      exact absurd hinactive hactive
  · have hiff : TurnedOff rooms outcome.rooms room ↔ rooms.Filled room := turnedOff_iff h hlast (by rw [hrooms]; rfl)
    constructor
    · rintro ⟨-, hlocal⟩ record - -
      exact hiff.1 hlocal
    · intro hgapless
      have hturned := hiff.2 (hgapless current hcurrent hactive)
      exact ⟨hturned.lossless h hcurrent hsaved, hturned⟩

/-- A request that succeeds is local and loses nothing just when it runs into no gap. -/
theorem mutate_iff {now : String} {answers : String → Bool} {rooms : RoomOrchestrator maxRooms} (h : rooms.Synced)
    {mutation : RoomMutation} {outcome : MutationOutcome maxRooms}
    (hout : rooms.mutate now answers mutation = some outcome) :
    Lossless rooms outcome ∧ Local rooms outcome mutation ↔ rooms.Gapless now mutation := by
  cases mutation with
  | scale replicas => exact (and_iff_left trivial).trans (lossless_scale_iff h hout)
  | create body => exact (and_iff_right_of_imp TurnedOn.lossless).trans (create_iff hout)
  | start room => exact start_iff hout
  | stop room => exact stop_iff h hout
  | delete room => exact delete_iff h hout

theorem synced_mutate {now : String} {answers : String → Bool} {rooms : RoomOrchestrator maxRooms} (h : rooms.Synced)
    {mutation : RoomMutation} {outcome : MutationOutcome maxRooms}
    (hout : rooms.mutate now answers mutation = some outcome) : outcome.rooms.Synced := by
  cases mutation with
  | scale replicas =>
    obtain ⟨-, hrooms, -⟩ := scaleWithSnapshots_eq_some hout
    rw [hrooms]
    exact synced_discover ..
  | create body =>
    obtain ⟨-, spec, created, hcreated, hrooms⟩ := create_eq_some hout
    rw [hrooms]
    exact (synced_discover ..).putSpec hcreated spec
  | start room =>
    obtain ⟨-, current, -, ⟨-, hrooms⟩ | ⟨-, hrooms⟩⟩ := start_eq_some hout
    · rw [hrooms]
      exact h
    · rw [hrooms]
      exact synced_discover ..
  | stop room =>
    obtain ⟨current, -, -, -, hrooms⟩ := stop_eq_some hout
    rw [hrooms]
    exact synced_discover ..
  | delete room =>
    obtain ⟨current, hcurrent, ⟨hinactive, -, hrooms⟩ | ⟨-, -, -, hrooms⟩⟩ := delete_eq_some hout
    · rw [hrooms]
      refine h.removeRecord fun hon => ?_
      obtain ⟨workload, hmem, hordinal, hone⟩ := RoomFleet.exists_of_replicas hon
      obtain ⟨record, hrecord, hactive, -⟩ := h.active workload hmem hone
      rw [hordinal] at hrecord
      obtain rfl := Option.some.inj (hcurrent.symm.trans hrecord)
      exact hactive hinactive
    · rw [hrooms]
      refine (synced_discover ..).removeRecord fun hon => ?_
      rw [replicas_discover] at hon
      obtain ⟨replicas, -, hone⟩ := Option.map_eq_some_iff.1 hon
      rw [if_neg (lt_irrefl _)] at hone
      cases hone

theorem synced_step {rooms rooms' : RoomOrchestrator maxRooms} {request : String × RoomRequest maxRooms}
    (h : rooms.Synced) (hs : rooms.step request = some rooms') : rooms'.Synced := by
  obtain ⟨now, request⟩ := request
  cases request with
  | discover fleet =>
    obtain rfl := Option.some.inj hs
    exact synced_discover ..
  | patch room body =>
    obtain ⟨current, hcurrent, hs⟩ := Option.bind_eq_some_iff.1 hs
    obtain ⟨spec, -, hs⟩ := Option.bind_eq_some_iff.1 hs
    obtain rfl := Option.some.inj hs
    exact h.putSpec hcurrent spec
  | mutate mutation answers =>
    obtain ⟨outcome, hout, rfl⟩ := Option.map_eq_some_iff.1 hs
    exact synced_mutate h hout

/-- The request is local and loses nothing, if it mutates rooms. -/
def Sound (rooms : RoomOrchestrator maxRooms) (request : String × RoomRequest maxRooms) : Prop :=
  match request.2 with
  | .mutate mutation answers =>
    ∀ outcome ∈ rooms.mutate request.1 answers mutation, Lossless rooms outcome ∧ Local rooms outcome mutation
  | _ => True

/-- The request runs into no gap. -/
def Clear (rooms : RoomOrchestrator maxRooms) (request : String × RoomRequest maxRooms) : Prop :=
  match request.2 with
  | .mutate mutation _ => rooms.Gapless request.1 mutation
  | _ => True

/-- In every run of requests, whatever the cluster becomes in between, every request that succeeds changes its room only
and saves what it turns off, if and only if none runs into a gap of the active ordinals. -/
theorem mutations_local_iff (now : String) (registry : RoomRegistry) (fleet : RoomFleet maxRooms)
    (requests : List (String × RoomRequest maxRooms)) :
    EachStep step Sound (discover now registry fleet) requests ↔
      EachStep step Clear (discover now registry fleet) requests := by
  have hstep : ∀ (rooms : RoomOrchestrator maxRooms) request rooms', Synced rooms → rooms.step request = some rooms' →
      Synced rooms' := fun rooms request rooms' h hs => synced_step h hs
  have hiff : ∀ (rooms : RoomOrchestrator maxRooms) request rooms', Synced rooms → rooms.step request = some rooms' →
      (Sound rooms request ↔ Clear rooms request) := by
    rintro rooms ⟨now, request⟩ rooms' h hs
    cases request with
    | discover fleet => exact Iff.rfl
    | patch room body => exact Iff.rfl
    | mutate mutation answers =>
      obtain ⟨outcome, hout, -⟩ := Option.map_eq_some_iff.1 hs
      have hmutate := mutate_iff h hout
      constructor
      · intro hsound
        exact hmutate.1 (hsound outcome hout)
      · intro hclear other hother
        rw [← Option.some.inj (hout.symm.trans hother)]
        exact hmutate.2 hclear
  exact eachStep_congr_of_step hstep hiff (synced_discover now registry fleet) requests

/-- Rooms 0 and 2 are active, room 1 is not. -/
def gapped : RoomFleet 5 where
  workloads := [⟨0, "game-room-0", "game-room-0", 1⟩, ⟨1, "game-room-1", "game-room-1", 0⟩,
    ⟨2, "game-room-2", "game-room-2", 1⟩]
  sorted := by decide
  bounded := by decide

/-- A scale request to two replicas, which is what there are, turns room 2 off without a snapshot. -/
theorem unsaved_above_gap : ¬EachStep step Sound (discover "" RoomRegistry.empty gapped)
    [("", .mutate (.scale 2) fun _ => true)] := by
  intro h
  obtain ⟨hsound, -⟩ := h _ rfl
  obtain ⟨hlossless, -⟩ := hsound _ rfl
  have hsaved := hlossless ⟨2, "game-room-2", "game-room-2", 1⟩ (by simp [gapped, discover]) rfl (by decide)
  cases hsaved

end RoomOrchestrator

end Opsia
