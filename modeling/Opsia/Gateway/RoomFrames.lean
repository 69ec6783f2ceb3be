import Opsia.Gateway.Rooms

/-!
# What the calls of a room leave alone

The loops over the sessions of a room change sessions only (`SessionsOnly`); `setOperation` changes the operations only.
From these, one lemma for each call says which parts of the room it may change.
-/

namespace Opsia

open Json
open GatewaySession (PreparePromise Continuity)

namespace GatewayRoom

variable {limits : GatewayLimits} {urls : UrlParser} {codec : GatewayJoinCodec} {settings : GatewaySettings}

/-! ### Lookups -/

theorem session_setSession (room : GatewayRoom limits) (id : Nat) (session : GatewaySession limits) (other : Nat) :
    (room.setSession id session).session other =
      if other = id then (room.session other).map fun _ => session else room.session other := by
  unfold GatewayRoom.session setSession
  dsimp only
  rw [List.getElem?_modify]
  by_cases h : other = id
  · subst h
    rw [if_pos rfl]
    cases room.sessions[other]? with
    | none => rfl
    | some entry => simp
  · rw [if_neg h]
    cases room.sessions[other]? with
    | none => rfl
    | some entry => simp [Ne.symm h]

theorem session_unlist (room : GatewayRoom limits) (id other : Nat) :
    (room.unlist id).session other = room.session other := by
  unfold GatewayRoom.session unlist
  dsimp only
  rw [List.getElem?_modify]
  cases room.sessions[other]? with
  | none => rfl
  | some entry =>
    by_cases h : id = other
    · simp [h]
    · simp [h]

theorem isListed_setSession (room : GatewayRoom limits) (id : Nat) (session : GatewaySession limits) (other : Nat) :
    (room.setSession id session).isListed other = room.isListed other := by
  unfold isListed setSession
  dsimp only
  rw [List.getElem?_modify]
  cases room.sessions[other]? with
  | none => rfl
  | some entry =>
    by_cases h : id = other
    · simp [h]
    · simp [h]

theorem isListed_unlist (room : GatewayRoom limits) (id other : Nat) :
    (room.unlist id).isListed other = (decide (other ≠ id) && room.isListed other) := by
  unfold isListed unlist
  dsimp only
  rw [List.getElem?_modify]
  cases room.sessions[other]? with
  | none => simp
  | some entry =>
    by_cases h : id = other
    · subst h
      simp
    · simp [h, Ne.symm h]

theorem length_setSession (room : GatewayRoom limits) (id : Nat) (session : GatewaySession limits) :
    (room.setSession id session).sessions.length = room.sessions.length := List.length_modify ..

theorem mem_listedIds {room : GatewayRoom limits} {id : Nat} : id ∈ room.listedIds ↔ room.isListed id = true := by
  unfold listedIds
  rw [List.mem_filter, List.mem_range]
  refine ⟨fun h => h.2, fun h => ⟨?_, h⟩⟩
  unfold isListed at h
  split at h
  · rename_i entry hentry
    exact (List.getElem?_eq_some_iff.1 hentry).1
  · cases h

theorem session_of_isListed {room : GatewayRoom limits} {id : Nat} (h : room.isListed id = true) :
    ∃ session, room.session id = some session := by
  unfold isListed at h
  split at h
  · rename_i entry hentry
    exact ⟨entry.session, by rw [GatewayRoom.session, hentry]; rfl⟩
  · cases h

/-! ### Loops over sessions -/

/-- Only the sessions differ, and the map of sessions holds the same ones. -/
structure SessionsOnly (room next : GatewayRoom limits) : Prop where
  registry : next.registry = room.registry
  preparation : next.preparation = room.preparation
  verification : next.verification = room.verification
  operations : next.operations = room.operations
  cutovers : next.cutovers = room.cutovers
  reconciles : next.reconciles = room.reconciles
  preparations : next.preparations = room.preparations
  listed : ∀ id, next.isListed id = room.isListed id
  length : next.sessions.length = room.sessions.length

theorem SessionsOnly.refl (room : GatewayRoom limits) : SessionsOnly room room :=
  ⟨rfl, rfl, rfl, rfl, rfl, rfl, rfl, fun _ => rfl, rfl⟩

theorem SessionsOnly.trans {first second third : GatewayRoom limits} (h : SessionsOnly first second)
    (h' : SessionsOnly second third) : SessionsOnly first third :=
  ⟨h'.registry.trans h.registry, h'.preparation.trans h.preparation, h'.verification.trans h.verification,
    h'.operations.trans h.operations, h'.cutovers.trans h.cutovers, h'.reconciles.trans h.reconciles,
    h'.preparations.trans h.preparations, fun id => (h'.listed id).trans (h.listed id), h'.length.trans h.length⟩

theorem sessionsOnly_setSession (room : GatewayRoom limits) (id : Nat) (session : GatewaySession limits) :
    SessionsOnly room (room.setSession id session) :=
  ⟨rfl, rfl, rfl, rfl, rfl, rfl, rfl, room.isListed_setSession id session, room.length_setSession id session⟩

theorem sessionsOnly_abortAll (room : GatewayRoom limits) (ids : List Nat) : SessionsOnly room (room.abortAll ids).1 := by
  induction ids generalizing room with
  | nil => exact .refl room
  | cons id ids ih =>
    unfold abortAll
    split
    · exact ih room
    · split
      · exact (room.sessionsOnly_setSession id _).trans (ih _)
      · exact room.sessionsOnly_setSession id _

theorem sessionsOnly_freezeAll (room : GatewayRoom limits) (ids : List Nat) : SessionsOnly room (room.freezeAll ids) := by
  unfold freezeAll
  induction ids generalizing room with
  | nil => exact .refl room
  | cons id ids ih =>
    rw [List.foldl_cons]
    refine SessionsOnly.trans ?_ (ih _)
    split
    · exact room.sessionsOnly_setSession id _
    · exact .refl room

theorem sessionsOnly_prepareAll (route : RouteArgument) (room : GatewayRoom limits) (ids : List Nat) :
    SessionsOnly room (prepareAll route room ids).1 := by
  induction ids generalizing room with
  | nil => exact .refl room
  | cons id ids ih =>
    unfold prepareAll
    split
    · exact ih room
    · exact (room.sessionsOnly_setSession id _).trans (ih _)

/-! ### Operations -/

/-- Only the operations differ. -/
structure OperationsOnly (room next : GatewayRoom limits) : Prop where
  registry : next.registry = room.registry
  sessions : next.sessions = room.sessions
  preparation : next.preparation = room.preparation
  verification : next.verification = room.verification
  cutovers : next.cutovers = room.cutovers
  reconciles : next.reconciles = room.reconciles
  preparations : next.preparations = room.preparations

theorem operationsOnly_setOperation (room : GatewayRoom limits) (operation : RoomCutoverOperation) :
    OperationsOnly room (room.setOperation operation) :=
  ⟨rfl, rfl, rfl, rfl, rfl, rfl, rfl⟩

theorem operationsOnly_setStatus (room : GatewayRoom limits) (operationId : String) (status : CutoverStatus) :
    OperationsOnly room (room.setStatus operationId status) := by
  unfold setStatus
  split
  · exact ⟨rfl, rfl, rfl, rfl, rfl, rfl, rfl⟩
  · exact room.operationsOnly_setOperation _

theorem OperationsOnly.listed {room next : GatewayRoom limits} (h : OperationsOnly room next) (id : Nat) :
    next.isListed id = room.isListed id := by
  unfold isListed
  rw [h.sessions]

theorem OperationsOnly.session {room next : GatewayRoom limits} (h : OperationsOnly room next) (id : Nat) :
    next.session id = room.session id := by
  unfold GatewayRoom.session
  rw [h.sessions]

theorem operation_setOperation (room : GatewayRoom limits) (operation : RoomCutoverOperation) (operationId : String) :
    (room.setOperation operation).operation operationId =
      if operationId = operation.operationId then some operation else room.operation operationId :=
  Fields.get?_assign ..

/-! ### Calls -/

theorem abortRoomPreparation_cases (room : GatewayRoom limits) (operationId : Option String) :
    (room.abortRoomPreparation operationId).1 = room ∨
      ∃ preparation, room.preparation = some preparation ∧
        (room.abortRoomPreparation operationId).1 =
          ({ room with preparation := none }.abortAll (preparation.sessionIds.filter room.isListed)).1 := by
  unfold abortRoomPreparation
  split
  · exact Or.inl rfl
  · rename_i preparation hpreparation
    split
    · exact Or.inl rfl
    · exact Or.inr ⟨preparation, hpreparation, rfl⟩

/-- The preparation of a freeze that goes through. -/
def frozenPreparation (room frozen : GatewayRoom limits) (operationId : String) (expectedEpoch : Nat)
    (supersedesOperationId : Option String) : RoomPreparation where
  serial := room.preparations
  operationId := operationId
  expectedEpoch := expectedEpoch
  supersedesOperationId := supersedesOperationId
  sessionIds := room.listedIds
  unackedInputs := (room.listedIds.filterMap frozen.session).foldl
    (fun total session => total + session.inputs.entries.length) 0

variable (settings) in
/-- A freeze changes nothing; it freezes the sessions of a room without preparation and releases them again; or it sets
up a preparation of all sessions. -/
theorem freezeRoom_cases (room : GatewayRoom limits) (operationId : String) (expectedEpoch : JsNumber)
    (supersedesOperationId : Option String) :
    (room.freezeRoom settings operationId expectedEpoch supersedesOperationId).1 = room ∨
      ∃ route cleared, room.route settings = some route ∧
        (JsNumber.ofNat route.epoch).strictEq expectedEpoch = true ∧ room.preparation = none ∧
        cleared = { room with verification := room.verification.filter fun verification =>
          verification.operationId = operationId } ∧
        ((room.freezeRoom settings operationId expectedEpoch supersedesOperationId).1 =
            ((cleared.freezeAll room.listedIds).abortAll room.listedIds).1 ∨
          (room.freezeRoom settings operationId expectedEpoch supersedesOperationId).1 =
            { cleared.freezeAll room.listedIds with
              preparation := some (room.frozenPreparation (cleared.freezeAll room.listedIds) operationId route.epoch
                supersedesOperationId)
              preparations := room.preparations + 1 }) := by
  unfold freezeRoom
  split
  · exact Or.inl rfl
  · rename_i route hroute
    split
    · exact Or.inl rfl
    · rename_i hepoch
      have hepoch : (JsNumber.ofNat route.epoch).strictEq expectedEpoch = true := by simpa using hepoch
      split
      · exact Or.inl rfl
      · split
        · split
          · exact Or.inl rfl
          · split <;> exact Or.inl rfl
        · rename_i hpreparation
          split
          · exact Or.inl rfl
          · refine Or.inr ⟨route, _, hroute, hepoch, hpreparation, rfl, ?_⟩
            dsimp only
            split
            · exact Or.inl rfl
            · exact Or.inr rfl

theorem sessionsOnly_finalizeAll (room : GatewayRoom limits) (ids : List Nat) :
    SessionsOnly room (ids.foldl (fun room id =>
      match room.session id with
      | some session => room.setSession id session.finalizeVerification
      | none => room) room) := by
  induction ids generalizing room with
  | nil => exact .refl room
  | cons id ids ih =>
    rw [List.foldl_cons]
    refine SessionsOnly.trans ?_ (ih _)
    split
    · exact room.sessionsOnly_setSession id _
    · exact .refl room

/-- Only the sessions and the operations differ, and the preparation may be given up. -/
structure CutoverFrame (room next : GatewayRoom limits) : Prop where
  registry : next.registry = room.registry
  preparation : next.preparation = room.preparation ∨ next.preparation = none
  verification : next.verification = room.verification
  cutovers : next.cutovers = room.cutovers
  reconciles : next.reconciles = room.reconciles
  preparations : next.preparations = room.preparations
  listed : ∀ id, next.isListed id = room.isListed id
  length : next.sessions.length = room.sessions.length

theorem CutoverFrame.trans {first second third : GatewayRoom limits} (h : CutoverFrame first second)
    (h' : CutoverFrame second third) : CutoverFrame first third := by
  refine ⟨h'.registry.trans h.registry, ?_, h'.verification.trans h.verification, h'.cutovers.trans h.cutovers,
    h'.reconciles.trans h.reconciles, h'.preparations.trans h.preparations,
    fun id => (h'.listed id).trans (h.listed id), h'.length.trans h.length⟩
  rcases h'.preparation with hkept | hgone
  · rw [hkept]
    exact h.preparation
  · exact Or.inr hgone

theorem SessionsOnly.cutoverFrame {room next : GatewayRoom limits} (h : SessionsOnly room next) :
    CutoverFrame room next :=
  ⟨h.registry, Or.inl h.preparation, h.verification, h.cutovers, h.reconciles, h.preparations, h.listed, h.length⟩

theorem OperationsOnly.cutoverFrame {room next : GatewayRoom limits} (h : OperationsOnly room next) :
    CutoverFrame room next :=
  ⟨h.registry, Or.inl h.preparation, h.verification, h.cutovers, h.reconciles, h.preparations, h.listed,
    by rw [h.sessions]⟩

theorem CutoverFrame.withoutPreparation {room next : GatewayRoom limits} (h : CutoverFrame room next) :
    CutoverFrame room { next with preparation := none } :=
  ⟨h.registry, Or.inr rfl, h.verification, h.cutovers, h.reconciles, h.preparations, h.listed, h.length⟩

/-- A cutover that fails records it, and gives up the preparation and its sessions before the point of no return. -/
theorem failCutover_cases (room : GatewayRoom limits) (operationId : String) (selected : List Nat) (reason : String) :
    (room.operation operationId = none ∧ room.failCutover operationId selected reason = room) ∨
      ∃ operation, room.operation operationId = some operation ∧
        ((operation.status = .registryCommitted ∧
            room.failCutover operationId selected reason = room.setOperation { operation with failure := some reason }) ∨
          (operation.status ≠ .registryCommitted ∧ ∃ failed aborted,
            failed = room.setOperation { operation with failure := some reason, status := .failed } ∧
            aborted = (failed.abortAll selected).1 ∧
            (room.failCutover operationId selected reason = { aborted with preparation := none } ∨
              room.failCutover operationId selected reason = aborted ∧
                ∃ message, (failed.abortAll selected).2 = .error message))) := by
  unfold failCutover
  split
  · exact Or.inl ⟨by assumption, rfl⟩
  · rename_i operation hoperation
    refine Or.inr ⟨operation, hoperation, ?_⟩
    split
    · exact Or.inl ⟨by assumption, rfl⟩
    · refine Or.inr ⟨by assumption, _, _, rfl, rfl, ?_⟩
      split
      · rename_i heq
        rw [heq]
        exact Or.inl rfl
      · rename_i heq
        rw [heq]
        exact Or.inr ⟨rfl, _, rfl⟩

theorem cutoverFrame_failCutover (room : GatewayRoom limits) (operationId : String) (selected : List Nat)
    (reason : String) : CutoverFrame room (room.failCutover operationId selected reason) := by
  rcases room.failCutover_cases operationId selected reason with
    ⟨-, heq⟩ | ⟨operation, -, ⟨-, heq⟩ | ⟨-, failed, aborted, rfl, rfl, heq | ⟨heq, -⟩⟩⟩
  · rw [heq]
    exact (SessionsOnly.refl room).cutoverFrame
  · rw [heq]
    exact (room.operationsOnly_setOperation _).cutoverFrame
  all_goals
    rw [heq]
    have hframe := (room.operationsOnly_setOperation _).cutoverFrame.trans
      (sessionsOnly_abortAll (room.setOperation { operation with failure := some reason, status := .failed })
        selected).cutoverFrame
  · exact hframe.withoutPreparation
  · exact hframe

variable (settings) in
/-- A cutover is refused, fails at a guard, or waits. -/
theorem cutover_cases (room : GatewayRoom limits) (request : CutoverRequest) :
    (room.cutover settings request).1 = room ∨
      ∃ operation started selected, cutoverRefusal settings room request = none ∧
        operation = room.operationFor request ∧ started = room.setOperation operation ∧
        selected = operation.sessionIds.filter started.isListed ∧
        ((∃ reason, cutoverGuard settings started request operation selected = some reason ∧
            (room.cutover settings request).1 = started.failCutover request.operationId selected reason) ∨
          (cutoverGuard settings started request operation selected = none ∧
            ∃ prepared promises, prepareAll (request.route settings) started selected = (prepared, promises) ∧
              (room.cutover settings request).1 = { prepared with cutovers := prepared.cutovers ++
                [{ request, preparation := room.preparation.map RoomPreparation.serial, promises }] })) := by
  unfold cutover
  split
  · exact Or.inl rfl
  · rename_i hrefusal
    refine Or.inr ⟨_, _, _, hrefusal, rfl, rfl, rfl, ?_⟩
    cases hguard : cutoverGuard settings (room.setOperation (room.operationFor request)) request
        (room.operationFor request)
        ((room.operationFor request).sessionIds.filter (room.setOperation (room.operationFor request)).isListed) with
    | some reason => exact Or.inl ⟨reason, rfl, by simp only [hguard]⟩
    | none =>
      refine Or.inr ⟨rfl, _, _, rfl, ?_⟩
      have hprepared := (sessionsOnly_prepareAll (request.route settings)
        (room.setOperation (room.operationFor request)) ((room.operationFor request).sessionIds.filter
          (room.setOperation (room.operationFor request)).isListed)).preparation
      simp only [hguard, hprepared]
      rfl

variable (settings) in
theorem cutoverFrame_cutover (room : GatewayRoom limits) (request : CutoverRequest) :
    ∃ cutovers, CutoverFrame { room with cutovers } (room.cutover settings request).1 := by
  rcases room.cutover_cases settings request with
    heq | ⟨operation, started, selected, -, -, rfl, -, ⟨reason, -, heq⟩ | ⟨-, prepared, promises, hprepared, heq⟩⟩
  · exact ⟨room.cutovers, by rw [heq]; exact (SessionsOnly.refl room).cutoverFrame⟩
  · refine ⟨room.cutovers, ?_⟩
    rw [heq]
    exact (room.operationsOnly_setOperation operation).cutoverFrame.trans (cutoverFrame_failCutover ..)
  · refine ⟨prepared.cutovers ++ [{ request, preparation := room.preparation.map RoomPreparation.serial, promises }], ?_⟩
    rw [heq]
    have hframe := (room.operationsOnly_setOperation operation).cutoverFrame.trans
      (sessionsOnly_prepareAll (request.route settings) (room.setOperation operation) selected).cutoverFrame
    rw [hprepared] at hframe
    exact ⟨hframe.registry, hframe.preparation, hframe.verification, rfl, hframe.reconciles, hframe.preparations,
      hframe.listed, hframe.length⟩

variable (urls settings) in
/-- A swap fails and changes nothing, or finds the route that it has set before, or sets it. -/
theorem swap_cases (room : GatewayRoom limits) (request : CutoverRequest) :
    (∃ reason, swap urls settings room request = (room, .error reason)) ∨
      (∃ current, room.route settings = some current ∧
        (JsNumber.ofNat current.epoch).strictEq request.expectedEpoch = false ∧
        (JsNumber.ofNat current.epoch).strictEq request.nextEpoch = true ∧
        endpointText urls request.endpoint = .ok current.endpoint ∧
        swap urls settings room request = (room, .ok current)) ∨
      ∃ current next, room.route settings = some current ∧
        (JsNumber.ofNat current.epoch).strictEq request.expectedEpoch = true ∧ next.roomId = settings.roomId ∧
        current.epoch < next.epoch ∧ normalizeRoute urls (request.route settings) = .ok next ∧
        swap urls settings room request = ({ room with registry := room.registry.set next }, .ok next) := by
  unfold swap
  split
  · exact Or.inl ⟨_, rfl⟩
  · rename_i current hroute
    split
    · rename_i hepoch
      rcases FencedGatewayRoomRegistry.compareAndSwap_cases urls room.registry settings.roomId request.expectedEpoch
        request.endpoint request.nextEpoch request.revision with ⟨message, heq⟩ | ⟨current', next, hget, hroom, -, hlt, heq⟩
      · rw [heq]
        exact Or.inl ⟨message, rfl⟩
      · have hcurrent : some current' = some current := hget.symm.trans hroute
        cases hcurrent
        refine Or.inr (Or.inr ⟨current, next, hroute, hepoch, hroom, hlt, ?_, by rw [heq]⟩)
        unfold FencedGatewayRoomRegistry.compareAndSwap at heq
        rw [hget] at heq
        dsimp only at heq
        split at heq
        · cases heq
        · split at heq
          · cases heq
          · unfold CutoverRequest.route
            split at heq
            · cases heq
            · rename_i normalized hnormalized
              simp only [Prod.mk.injEq, Except.ok.injEq] at heq
              rw [hnormalized, heq.1]
    · rename_i hexpected
      split
      · exact Or.inl ⟨_, rfl⟩
      · rename_i hnext
        split
        · exact Or.inl ⟨_, rfl⟩
        · rename_i text htext
          split
          · rename_i hendpoint
            refine Or.inr (Or.inl ⟨current, hroute, by simpa using hexpected, by simpa using hnext, ?_, rfl⟩)
            rw [htext, hendpoint]
          · exact Or.inl ⟨_, rfl⟩

/-- The swap depends on the registry only. -/
theorem swap_snd {room next : GatewayRoom limits} (h : next.registry = room.registry) (request : CutoverRequest) :
    (swap urls settings next request).2 = (swap urls settings room request).2 := by
  have hroute : next.route settings = room.route settings := by
    unfold GatewayRoom.route
    rw [h]
  unfold swap
  rw [hroute, h]
  cases room.route settings with
  | none => rfl
  | some current =>
    dsimp only
    split
    · rfl
    · split
      · rfl
      · cases endpointText urls request.endpoint with
        | error message => rfl
        | ok text =>
          dsimp only
          split
          · rfl
          · rfl

theorem cutoverFrame_setCommitted (room : GatewayRoom limits) (operationId : String) (id : Nat)
    (session : GatewaySession limits) (replayed : Nat) :
    CutoverFrame room (room.setCommitted operationId id session replayed) := by
  unfold setCommitted
  split
  · exact (room.sessionsOnly_setSession id session).cutoverFrame
  · exact (room.sessionsOnly_setSession id session).cutoverFrame.trans
      (operationsOnly_setOperation _ _).cutoverFrame

theorem cutoverFrame_commitAll (operationId : String) (next : GatewayRoomRoute) (room : GatewayRoom limits)
    (ids : List Nat) : CutoverFrame room (commitAll operationId next room ids).1 := by
  induction ids generalizing room with
  | nil => exact (SessionsOnly.refl room).cutoverFrame
  | cons id ids ih =>
    unfold commitAll
    split
    · exact ih room
    · split
      · exact (room.sessionsOnly_setSession id _).cutoverFrame
      · exact (room.cutoverFrame_setCommitted ..).trans (ih _)

/-- The sessions that a cutover without preparation freezes before its swap. -/
def freezeUnprepared (room : GatewayRoom limits) (call : CutoverCall) : GatewayRoom limits :=
  if call.preparation.isNone &&
      !(room.operation call.request.operationId).any fun operation => operation.status = .registryCommitted then
    room.freezeAll (call.promises.map Prod.fst)
  else room

theorem sessionsOnly_freezeUnprepared (room : GatewayRoom limits) (call : CutoverCall) :
    SessionsOnly room (room.freezeUnprepared call) := by
  unfold freezeUnprepared
  split
  · exact room.sessionsOnly_freezeAll _
  · exact .refl room

variable (urls settings) in
private theorem continueCutover_eq (room : GatewayRoom limits) (call : CutoverCall) :
    room.continueCutover urls settings call =
      match swap urls settings (room.freezeUnprepared call) call.request with
      | (swapped, .error reason) =>
        (swapped.failCutover call.request.operationId (call.promises.map Prod.fst) reason, .error reason)
      | (swapped, .ok next) =>
        match commitAll call.request.operationId next
            { swapped.setStatus call.request.operationId .registryCommitted with preparation := none }
            (call.promises.map Prod.fst) with
        | (committed, .error reason) =>
          (committed.failCutover call.request.operationId (call.promises.map Prod.fst) reason, .error reason)
        | (committed, .ok _) =>
          match committed.operation call.request.operationId with
          | none => (committed, .error "gateway_cutover_failed")
          | some operation =>
            ({ committed.setOperation { operation with status := .committed, failure := none } with
                verification := some {
                  operationId := call.request.operationId, epoch := next.epoch
                  sessionIds := call.promises.map Prod.fst } },
              .ok { operationId := call.request.operationId, route := some next
                    sessions := (call.promises.map Prod.fst).length
                    replayedInputs := operation.replayedInputs }) := rfl

variable (urls settings) in
/-- The continuation of a cutover fails at the swap, fails at a commit, or reaches its verification. -/
theorem continueCutover_cases (room : GatewayRoom limits) (call : CutoverCall) :
    (∃ reason, swap urls settings (room.freezeUnprepared call) call.request = (room.freezeUnprepared call, .error reason) ∧
        room.continueCutover urls settings call =
          ((room.freezeUnprepared call).failCutover call.request.operationId (call.promises.map Prod.fst) reason,
            .error reason)) ∨
      ∃ swapped next begun committed,
        swap urls settings (room.freezeUnprepared call) call.request = (swapped, .ok next) ∧
        begun = { swapped.setStatus call.request.operationId .registryCommitted with preparation := none } ∧
        committed = commitAll call.request.operationId next begun (call.promises.map Prod.fst) ∧
        ((∃ reason, committed.2 = .error reason ∧ room.continueCutover urls settings call =
            (committed.1.failCutover call.request.operationId (call.promises.map Prod.fst) reason, .error reason)) ∨
          (committed.2 = .ok () ∧
            ((committed.1.operation call.request.operationId = none ∧
                room.continueCutover urls settings call = (committed.1, .error "gateway_cutover_failed")) ∨
              ∃ operation, committed.1.operation call.request.operationId = some operation ∧
                (room.continueCutover urls settings call).1 =
                  { committed.1.setOperation { operation with status := .committed, failure := none } with
                    verification := some {
                      operationId := call.request.operationId, epoch := next.epoch
                      sessionIds := call.promises.map Prod.fst } } ∧
                ∃ response, (room.continueCutover urls settings call).2 = .ok response))) := by
  rw [continueCutover_eq]
  cases hswap : swap urls settings (room.freezeUnprepared call) call.request with
  | mk swapped result =>
    cases result with
    | error reason =>
      have hswapped : swapped = room.freezeUnprepared call := by
        rcases swap_cases urls settings (room.freezeUnprepared call) call.request with
          ⟨_, heq⟩ | ⟨_, _, _, _, _, heq⟩ | ⟨_, _, _, _, _, _, _, heq⟩
        all_goals
          rw [hswap] at heq
          cases heq
        rfl
      subst hswapped
      exact Or.inl ⟨reason, rfl, rfl⟩
    | ok next =>
      refine Or.inr ⟨swapped, next, _, _, rfl, rfl, rfl, ?_⟩
      dsimp only
      cases hcommit : commitAll call.request.operationId next
          { swapped.setStatus call.request.operationId .registryCommitted with preparation := none }
          (call.promises.map Prod.fst) with
      | mk committed result =>
        cases result with
        | error reason => exact Or.inl ⟨reason, rfl, rfl⟩
        | ok _ =>
          refine Or.inr ⟨rfl, ?_⟩
          dsimp only
          cases hoperation : committed.operation call.request.operationId with
          | none => exact Or.inl ⟨rfl, rfl⟩
          | some operation => exact Or.inr ⟨operation, rfl, rfl, _, rfl⟩

/-- A cutover goes on when its promises are settled: it fails with their rejection, or continues. -/
theorem resume_cases {room : GatewayRoom limits} {i : Nat} {next : GatewayRoom limits × Except String CutoverResponse}
    (h : room.resume urls settings i = some next) :
    ∃ call resumed, room.cutovers[i]? = some call ∧ call.waiting = true ∧
      resumed = { room with cutovers := room.cutovers.set i { call with waiting := false } } ∧
      ((∃ reason, room.allSettled call.promises = some (.error reason) ∧
          next = (resumed.failCutover call.request.operationId (call.promises.map Prod.fst) reason, .error reason)) ∨
        (room.allSettled call.promises = some (.ok ()) ∧ next = resumed.continueCutover urls settings call)) := by
  unfold GatewayRoom.resume at h
  split at h
  · cases h
  · rename_i call hcall
    obtain ⟨result, hresult, rfl⟩ := Option.map_eq_some_iff.1 h
    unfold decided at hresult
    split at hresult
    · rename_i hwaiting
      refine ⟨call, _, hcall, hwaiting, rfl, ?_⟩
      cases result with
      | error reason => exact Or.inl ⟨reason, hresult, rfl⟩
      | ok _ => exact Or.inr ⟨hresult, rfl⟩
    · cases hresult

theorem CutoverFrame.withRegistry {room next : GatewayRoom limits} (h : CutoverFrame room next)
    (registry : FencedGatewayRoomRegistry) : CutoverFrame { room with registry } { next with registry } :=
  ⟨rfl, h.preparation, h.verification, h.cutovers, h.reconciles, h.preparations, h.listed, h.length⟩

theorem CutoverFrame.withVerification {room next : GatewayRoom limits} (h : CutoverFrame room next)
    (verification : Option RoomVerification) : CutoverFrame { room with verification } { next with verification } :=
  ⟨h.registry, h.preparation, rfl, h.cutovers, h.reconciles, h.preparations, h.listed, h.length⟩

theorem cutoverFrame_swap {room swapped : GatewayRoom limits} {request : CutoverRequest}
    {result : Except String GatewayRoomRoute} (h : swap urls settings room request = (swapped, result)) :
    swapped = { room with registry := swapped.registry } := by
  rcases swap_cases urls settings room request with
    ⟨_, heq⟩ | ⟨_, _, _, _, _, heq⟩ | ⟨_, _, _, _, _, _, _, heq⟩
  all_goals
    rw [h] at heq
    cases heq
    rfl

variable (urls settings) in
/-- The continuation changes the route at most, and sets a verification only when it succeeds. -/
theorem cutoverFrame_continueCutover (room : GatewayRoom limits) (call : CutoverCall) :
    ∃ registry verification,
      CutoverFrame { room with registry, verification } (room.continueCutover urls settings call).1 ∧
      ((∃ reason, (room.continueCutover urls settings call).2 = .error reason) → verification = room.verification) := by
  have hfrozen := (room.sessionsOnly_freezeUnprepared call).cutoverFrame
  rcases room.continueCutover_cases urls settings call with
    ⟨reason, -, heq⟩ | ⟨swapped, next, begun, committed, hswap, hbegun, hcommitted, hend⟩
  · refine ⟨room.registry, room.verification, ?_, fun _ => rfl⟩
    rw [heq]
    exact hfrozen.trans (cutoverFrame_failCutover ..)
  · have hswapped : CutoverFrame { room with registry := swapped.registry } swapped := by
      rw [cutoverFrame_swap hswap]
      exact hfrozen.withRegistry _
    have hbegun : CutoverFrame { room with registry := swapped.registry } begun := by
      rw [hbegun]
      exact hswapped.trans (swapped.operationsOnly_setStatus _ _).cutoverFrame.withoutPreparation
    have hcommitted : CutoverFrame { room with registry := swapped.registry } committed.1 := by
      rw [hcommitted]
      exact hbegun.trans (cutoverFrame_commitAll ..)
    rcases hend with ⟨reason, -, heq⟩ | ⟨-, ⟨-, heq⟩ | ⟨operation, -, heq, response, hok⟩⟩
    · refine ⟨swapped.registry, room.verification, ?_, fun _ => rfl⟩
      rw [heq]
      exact hcommitted.trans (cutoverFrame_failCutover ..)
    · refine ⟨swapped.registry, room.verification, ?_, fun _ => rfl⟩
      rw [heq]
      exact hcommitted
    · refine ⟨swapped.registry, some {
        operationId := call.request.operationId, epoch := next.epoch, sessionIds := call.promises.map Prod.fst }, ?_, ?_⟩
      · rw [heq]
        exact (hcommitted.trans (committed.1.operationsOnly_setOperation _).cutoverFrame).withVerification _
      · rintro ⟨reason, herror⟩
        rw [hok] at herror
        cases herror

/-- A cutover that goes on changes the route at most, and leaves the verification alone unless it succeeds. -/
theorem cutoverFrame_resume {room : GatewayRoom limits} {i : Nat}
    {next : GatewayRoom limits × Except String CutoverResponse} (h : room.resume urls settings i = some next) :
    ∃ registry verification cutovers, CutoverFrame { room with registry, verification, cutovers } next.1 ∧
      ((∃ reason, next.2 = .error reason) → verification = room.verification) := by
  obtain ⟨call, resumed, -, -, hresumed, ⟨reason, -, rfl⟩ | ⟨-, rfl⟩⟩ := resume_cases h
  · refine ⟨room.registry, room.verification, room.cutovers.set i { call with waiting := false }, ?_, fun _ => rfl⟩
    rw [hresumed]
    exact cutoverFrame_failCutover ..
  · obtain ⟨registry, verification, hframe, herror⟩ := cutoverFrame_continueCutover urls settings
      resumed call
    refine ⟨registry, verification, resumed.cutovers, ?_, ?_⟩
    · rw [hresumed] at hframe ⊢
      exact hframe
    · rw [hresumed] at herror ⊢
      exact herror

/-- A step is the continuation of a cutover, or another event while no cutover is decided. -/
theorem step_cases {room next : GatewayRoom limits} {event : RoomEvent}
    (h : room.step urls codec settings event = some next) :
    (∃ i result, event = .resume i ∧ room.resume urls settings i = some result ∧ next = result.1) ∨
      ((∀ call ∈ room.cutovers, room.decided call = none) ∧ room.eventStep urls codec settings event = some next) := by
  unfold GatewayRoom.step at h
  split at h
  · rename_i i
    obtain ⟨result, hresult, rfl⟩ := Option.map_eq_some_iff.1 h
    exact Or.inl ⟨i, result, rfl, hresult, rfl⟩
  · split at h
    · cases h
    · rename_i hquiet
      refine Or.inr ⟨fun call hcall => ?_, h⟩
      rw [List.any_eq_true, not_exists] at hquiet
      have hnone := hquiet call
      cases hdecided : room.decided call with
      | none => rfl
      | some result => exact absurd ⟨hcall, by rw [hdecided]; rfl⟩ hnone

end GatewayRoom

end Opsia
