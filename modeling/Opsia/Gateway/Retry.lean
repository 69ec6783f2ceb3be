import Opsia.Gateway.Recovery
import Opsia.Gateway.RoomSessions

/-!
# Repeating a cutover behind its swap

Behind the swap of the registry there is no way back: a commit that throws, or a session that goes, leaves the operation
`registryCommitted`, and the only recovery is the same request again.  It runs through the guards of the first attempt,
prepares every session that is not on the new route, and commits them all.

The repeated cutover commits the operation and leaves every session unfrozen on the new route exactly when no selected
session has gone and each gets through (`retry_completes_iff`).  A session that has gone fails the guard for ever; a
session whose own commit threw behind its switch is on the new route and stays frozen; and an endpoint that is not in
normal form fits no candidate.
-/

namespace Opsia

open Json
open GatewaySession (PreparePromise)

namespace GatewayRoom

variable {limits : GatewayLimits} (urls : UrlParser) (codec : GatewayJoinCodec) (settings : GatewaySettings)

/-! ### The repeated request -/

/-- The candidate answers the promise of one session. -/
def answer (epoch : Nat) (answers : Nat → CandidateAnswer) (room : GatewayRoom limits) (p : Nat × PreparePromise) :
    GatewayRoom limits :=
  match room.session p.1 with
  | none => room
  | some session =>
    (session.answerEvents epoch (answers p.1) p.2).foldl
      (fun room event => (room.socketEvent codec p.1 event).getD room) room

/-- The same request again, of a room on this epoch, while the candidate is reachable: the sessions whose promises wait
get their answers, and the cutover goes on. -/
def retry (room : GatewayRoom limits) (request : CutoverRequest) (epoch : Nat) (answers : Nat → CandidateAnswer) :
    GatewayRoom limits :=
  let begun := (room.cutover settings request).1
  match begun.cutovers[room.cutovers.length]? with
  | none => begun
  | some call =>
    let answered := call.promises.foldl (answer codec epoch answers) begun
    ((answered.resume urls settings room.cutovers.length).map Prod.fst).getD answered

/-- What a cutover that fails behind its swap leaves: the operation is there, the route is the one it has set, and the
preparation is gone. -/
structure Swapped (room : GatewayRoom limits) (request : CutoverRequest) (operation : RoomCutoverOperation)
    (next : GatewayRoomRoute) : Prop where
  recorded : room.operation request.operationId = some operation
  named : operation.operationId = request.operationId
  status : operation.status = .registryCommitted
  same : ¬RequestConflicts operation request
  checksumMatched : request.checksumMatched = true
  caughtUp : request.caughtUp = true
  nodup : operation.sessionIds.Nodup
  route : room.route settings = some next
  moved : (JsNumber.ofNat next.epoch).strictEq request.expectedEpoch = false
  epoch : (JsNumber.ofNat next.epoch).strictEq request.nextEpoch = true
  preparation : room.preparation = none

/-- The operation is committed, and the selected sessions that are still open play on at the new route. -/
def Completed (room ended : GatewayRoom limits) (operation : RoomCutoverOperation) (next : GatewayRoomRoute) : Prop :=
  ((ended.operation operation.operationId).any fun operation => operation.status = .committed) = true ∧
    ∀ id ∈ operation.sessionIds, room.isListed id = true →
      ∃ session, ended.session id = some session ∧ session.PlaysAt next

end GatewayRoom

/-! ### The sessions of a room -/

namespace GatewayRoom

variable {limits : GatewayLimits} {urls : UrlParser} {codec : GatewayJoinCodec} {settings : GatewaySettings}

/-- Only the sessions differ. -/
private structure Answered (room next : GatewayRoom limits) : Prop where
  registry : next.registry = room.registry
  preparation : next.preparation = room.preparation
  operations : next.operations = room.operations
  cutovers : next.cutovers = room.cutovers

private theorem Answered.trans {first second third : GatewayRoom limits} (h : Answered first second)
    (h' : Answered second third) : Answered first third :=
  ⟨h'.registry.trans h.registry, h'.preparation.trans h.preparation, h'.operations.trans h.operations,
    h'.cutovers.trans h.cutovers⟩

private theorem session_ite (room : GatewayRoom limits) (id : Nat) (session : GatewaySession limits) (other : Nat) :
    (if GatewayRoom.startFailed session then (room.setSession id session).unlist id
      else room.setSession id session).session other = (room.setSession id session).session other := by
  split
  · rw [session_unlist]
  · rfl

variable (codec) in
/-- An event at the sockets of a session is an event of that session. -/
private theorem socketEvent_spec {room : GatewayRoom limits} {id : Nat} {session : GatewaySession limits}
    (h : room.session id = some session) {event : SocketEvent}
    (hevent : ∀ payload admitted, event ≠ .receive payload admitted) :
    let next := (room.socketEvent codec id event).getD room
    next.session id = some ((session.socketStep codec event).getD session) ∧
      (∀ other, other ≠ id → next.session other = room.session other) ∧ Answered room next := by
  obtain ⟨entry, hentry, hsession⟩ := Option.map_eq_some_iff.1 h
  have heq : room.socketEvent codec id event = (session.socketStep codec event).map fun session =>
      if GatewayRoom.startFailed session then (room.setSession id session).unlist id else room.setSession id session := by
    subst hsession
    unfold socketEvent
    rw [hentry]
    cases event with
    | receive payload admitted => exact absurd rfl (hevent payload admitted)
    | _ => rfl
  dsimp only
  rw [heq]
  cases hstep : session.socketStep codec event with
  | none => exact ⟨h, fun _ _ => rfl, rfl, rfl, rfl, rfl⟩
  | some moved =>
    rw [Option.map_some, Option.getD_some, Option.getD_some]
    refine ⟨?_, fun other hother => ?_, ?_⟩
    · rw [session_ite, session_setSession, if_pos rfl, h, Option.map_some]
    · rw [session_ite, session_setSession, if_neg hother]
    · split
      · exact ⟨rfl, rfl, rfl, rfl⟩
      · exact ⟨rfl, rfl, rfl, rfl⟩

variable (codec) in
private theorem answer_spec (epoch : Nat) (answers : Nat → CandidateAnswer) {room : GatewayRoom limits} {id : Nat}
    {session : GatewaySession limits} (h : room.session id = some session) (promise : PreparePromise) :
    let next := answer codec epoch answers room (id, promise)
    next.session id = some (session.answered codec epoch (answers id) promise) ∧
      (∀ other, other ≠ id → next.session other = room.session other) ∧ Answered room next := by
  have hevents : ∀ event ∈ session.answerEvents epoch (answers id) promise,
      ∀ payload admitted, event ≠ .receive payload admitted := by
    intro event hevent payload admitted heq
    subst heq
    cases promise with
    | pending call => simp [GatewaySession.answerEvents] at hevent
    | resolved | rejected _ => cases hevent
  dsimp only
  unfold answer GatewaySession.answered
  dsimp only
  rw [h]
  dsimp only
  generalize session.answerEvents epoch (answers id) promise = events at hevents
  induction events generalizing room session with
  | nil => exact ⟨h, fun _ _ => rfl, rfl, rfl, rfl, rfl⟩
  | cons event events ih =>
    obtain ⟨hself, hothers, hframe⟩ := socketEvent_spec codec h (hevents event (List.mem_cons_self ..))
    obtain ⟨hself', hothers', hframe'⟩ := ih hself fun event hevent => hevents event (List.mem_cons_of_mem _ hevent)
    rw [List.foldl_cons, List.foldl_cons]
    exact ⟨hself', fun other hother => (hothers' other hother).trans (hothers other hother), hframe.trans hframe'⟩

variable (codec) in
private theorem answerAll_spec (epoch : Nat) (answers : Nat → CandidateAnswer) (sessions : Nat → GatewaySession limits)
    {promises : List (Nat × PreparePromise)} {room : GatewayRoom limits} (hnodup : (promises.map Prod.fst).Nodup)
    (h : ∀ p ∈ promises, room.session p.1 = some (sessions p.1)) :
    let next := promises.foldl (answer codec epoch answers) room
    (∀ p ∈ promises, next.session p.1 = some ((sessions p.1).answered codec epoch (answers p.1) p.2)) ∧
      (∀ other, other ∉ promises.map Prod.fst → next.session other = room.session other) ∧ Answered room next := by
  induction promises generalizing room with
  | nil => exact ⟨fun _ hp => (nomatch hp), fun _ _ => rfl, rfl, rfl, rfl, rfl⟩
  | cons p promises ih =>
    rw [List.map_cons, List.nodup_cons] at hnodup
    obtain ⟨hself, hothers, hframe⟩ := answer_spec codec epoch answers (h p (List.mem_cons_self ..)) p.2
    have hrest : ∀ q ∈ promises, (answer codec epoch answers room p).session q.1 = some (sessions q.1) := by
      intro q hq
      have hne : q.1 ≠ p.1 := fun heq => hnodup.1 (heq ▸ List.mem_map_of_mem hq)
      rw [hothers q.1 hne]
      exact h q (List.mem_cons_of_mem _ hq)
    obtain ⟨hall, houtside, hframe'⟩ := ih hnodup.2 hrest
    dsimp only
    rw [List.foldl_cons]
    refine ⟨fun q hq => ?_, fun other hother => ?_, hframe.trans hframe'⟩
    · rcases List.mem_cons.1 hq with rfl | hq
      · rw [houtside q.1 hnodup.1]
        exact hself
      · exact hall q hq
    · rw [List.map_cons, List.mem_cons, not_or] at hother
      rw [houtside other hother.2, hothers other hother.1]

private theorem prepareAll_spec (route : RouteArgument) (sessions : Nat → GatewaySession limits)
    (room : GatewayRoom limits) {ids : List Nat} (hnodup : ids.Nodup)
    (h : ∀ id ∈ ids, room.session id = some (sessions id)) :
    (prepareAll route room ids).2 = ids.map (fun id => (id, ((sessions id).prepare route).2)) ∧
      (∀ id ∈ ids, (prepareAll route room ids).1.session id = some ((sessions id).prepare route).1) ∧
      ∀ other, other ∉ ids → (prepareAll route room ids).1.session other = room.session other := by
  induction ids generalizing room with
  | nil => exact ⟨rfl, fun _ hid => (nomatch hid), fun _ _ => rfl⟩
  | cons id ids ih =>
    rw [List.nodup_cons] at hnodup
    have hrest : ∀ other ∈ ids, (room.setSession id ((sessions id).prepare route).1).session other =
        some (sessions other) := by
      intro other hother
      have hne : other ≠ id := fun heq => hnodup.1 (heq ▸ hother)
      rw [session_setSession, if_neg hne]
      exact h other (List.mem_cons_of_mem _ hother)
    obtain ⟨hpromises, hall, houtside⟩ := ih _ hnodup.2 hrest
    unfold prepareAll
    rw [h id (List.mem_cons_self ..)]
    refine ⟨by rw [List.map_cons, ← hpromises], fun other hother => ?_, fun other hother => ?_⟩
    · rcases List.mem_cons.1 hother with rfl | hother
      · exact (houtside other hnodup.1).trans (by
          rw [session_setSession, if_pos rfl, h other (List.mem_cons_self ..), Option.map_some])
      · exact hall other hother
    · rw [List.mem_cons, not_or] at hother
      exact (houtside other hother.2).trans (by rw [session_setSession, if_neg hother.1])

private theorem allSettled_ok_iff (room : GatewayRoom limits) (promises : List (Nat × PreparePromise)) :
    room.allSettled promises = some (.ok ()) ↔ ∀ p ∈ promises, room.outcome p.1 p.2 = some (.ok ()) := by
  unfold allSettled
  constructor
  · intro h p hp
    split at h
    · cases h
    · rename_i hnone
      split at h
      · rename_i hall
        obtain ⟨result, hresult⟩ := Option.isSome_iff_exists.1 (List.all_eq_true.1 hall p hp)
        have hkept := List.findSome?_eq_none_iff.1 hnone p hp
        rw [hresult] at hkept ⊢
        cases result with
        | error reason => cases hkept
        | ok _ => rfl
      · cases h
  · intro h
    split
    · rename_i reason hsome
      obtain ⟨p, hp, heq⟩ := List.exists_of_findSome?_eq_some hsome
      rw [h p hp] at heq
      cases heq
    · rw [if_pos]
      exact List.all_eq_true.2 fun p hp => by rw [h p hp]; rfl

theorem session_setCommitted (room : GatewayRoom limits) (operationId : String) (id : Nat)
    (session : GatewaySession limits) (replayed other : Nat) :
    (room.setCommitted operationId id session replayed).session other = (room.setSession id session).session other := by
  unfold setCommitted
  split
  · rfl
  · rfl

private theorem operation_setCommitted {room : GatewayRoom limits} {operationId : String}
    {operation : RoomCutoverOperation} (h : room.operation operationId = some operation)
    (hnamed : operation.operationId = operationId) (id : Nat) (session : GatewaySession limits) (replayed : Nat) :
    (room.setCommitted operationId id session replayed).operation operationId =
      some { operation with replayedInputs := operation.replayedInputs + replayed } := by
  unfold setCommitted
  rw [h]
  dsimp only
  rw [operation_setOperation, if_pos hnamed.symm]

/-- The commits all succeed when each session's does, and the operation only counts inputs. -/
private theorem commitAll_spec (next : GatewayRoomRoute) (sessions : Nat → GatewaySession limits) {ids : List Nat}
    {room : GatewayRoom limits} {operationId : String} {operation : RoomCutoverOperation} (hnodup : ids.Nodup)
    (h : ∀ id ∈ ids, room.session id = some (sessions id)) (hoperation : room.operation operationId = some operation)
    (hnamed : operation.operationId = operationId) :
    let committed := commitAll operationId next room ids
    (∀ other, other ∉ ids → committed.1.session other = room.session other) ∧
      (committed.2 = .ok () ↔ ∀ id ∈ ids, ∃ replayed, ((sessions id).commitPrepared next).2 = .ok replayed) ∧
      (committed.2 = .ok () → ∀ id ∈ ids, committed.1.session id = some ((sessions id).commitPrepared next).1) := by
  induction ids generalizing room operation with
  | nil =>
    exact ⟨fun _ _ => rfl, ⟨fun _ _ hid => absurd hid List.not_mem_nil, fun _ => rfl⟩,
      fun _ _ hid => absurd hid List.not_mem_nil⟩
  | cons id ids ih =>
    rw [List.nodup_cons] at hnodup
    dsimp only
    unfold commitAll
    rw [h id (List.mem_cons_self ..)]
    dsimp only
    cases hcommit : (sessions id).commitPrepared next with
    | mk after result =>
      cases result with
      | error message =>
        refine ⟨fun other hother => ?_, iff_of_false (fun h => by cases h) ?_, fun h => by cases h⟩
        · rw [List.mem_cons, not_or] at hother
          exact (session_setSession ..).trans (if_neg hother.1)
        · intro hall
          obtain ⟨replayed, hok⟩ := hall id (List.mem_cons_self ..)
          rw [hcommit] at hok
          cases hok
      | ok replayed =>
        dsimp only
        have hrest : ∀ other ∈ ids, (room.setCommitted operationId id after replayed).session other =
            some (sessions other) := by
          intro other hother
          have hne : other ≠ id := fun heq => hnodup.1 (heq ▸ hother)
          rw [session_setCommitted, session_setSession, if_neg hne]
          exact h other (List.mem_cons_of_mem _ hother)
        obtain ⟨houtside, hok, hsessions⟩ := ih hnodup.2 hrest
          (operation_setCommitted hoperation hnamed id after replayed) hnamed
        refine ⟨fun other hother => ?_, hok.trans ?_, fun hresult other hother => ?_⟩
        · rw [List.mem_cons, not_or] at hother
          rw [houtside other hother.2, session_setCommitted, session_setSession, if_neg hother.1]
        · rw [List.forall_mem_cons, and_iff_right]
          exact ⟨replayed, by rw [hcommit]⟩
        · rcases List.mem_cons.1 hother with rfl | hother
          · rw [houtside other hnodup.1, session_setCommitted, session_setSession, if_pos rfl,
              h other (List.mem_cons_self ..), Option.map_some, hcommit]
          · exact hsessions hresult other hother

theorem commitAll_operation (next : GatewayRoomRoute) (ids : List Nat) {room : GatewayRoom limits}
    {operationId : String} {operation : RoomCutoverOperation} (h : room.operation operationId = some operation)
    (hnamed : operation.operationId = operationId) :
    ∃ replayedInputs, (commitAll operationId next room ids).1.operation operationId =
      some { operation with replayedInputs } := by
  induction ids generalizing room operation with
  | nil => exact ⟨_, h⟩
  | cons id ids ih =>
    unfold commitAll
    split
    · exact ih h hnamed
    · split
      · exact ⟨_, h⟩
      · obtain ⟨replayedInputs, heq⟩ := ih (operation_setCommitted h hnamed ..) hnamed
        exact ⟨replayedInputs, heq⟩

/-! ### The repeated cutover -/

theorem failCutover_swapped {room : GatewayRoom limits} {operationId : String} {operation : RoomCutoverOperation}
    (h : room.operation operationId = some operation) (hnamed : operation.operationId = operationId)
    (hstatus : operation.status = .registryCommitted) (selected : List Nat) (reason : String) :
    (room.failCutover operationId selected reason).operation operationId =
      some { operation with failure := some reason } := by
  unfold failCutover
  rw [h]
  dsimp only
  rw [if_pos hstatus, operation_setOperation, if_pos hnamed.symm]

private theorem freezeUnprepared_swapped {room : GatewayRoom limits} {request : CutoverRequest}
    {operation : RoomCutoverOperation} {next : GatewayRoomRoute} (h : Swapped settings room request operation next)
    {call : CutoverCall} (hcall : call.request = request) : room.freezeUnprepared call = room := by
  unfold freezeUnprepared
  rw [hcall, h.recorded, Option.any_some, decide_eq_true h.status, Bool.not_true, Bool.and_false, if_neg (by decide)]

/-- The route is another one than the request names: the swap fails again. -/
private theorem continueCutover_refused {room : GatewayRoom limits} {request : CutoverRequest}
    {operation : RoomCutoverOperation} {next : GatewayRoomRoute} (h : Swapped settings room request operation next)
    (hendpoint : endpointText urls request.endpoint ≠ .ok next.endpoint) (call : CutoverCall)
    (hcall : call.request = request) :
    (((room.continueCutover urls settings call).1.operation operation.operationId).any fun operation =>
      operation.status = .committed) = false := by
  have hswap : ∃ reason, swap urls settings room request = (room, .error reason) := by
    unfold swap
    rw [h.route]
    dsimp only
    rw [h.moved, h.epoch, if_neg (by decide), if_neg (by decide)]
    cases htext : endpointText urls request.endpoint with
    | error message => exact ⟨message, rfl⟩
    | ok text =>
      dsimp only
      rw [if_neg fun heq => hendpoint (by rw [htext, heq])]
      exact ⟨_, rfl⟩
  obtain ⟨reason, hswap⟩ := hswap
  rcases room.continueCutover_cases urls settings call with ⟨reason, -, heq⟩ | ⟨swapped, next', -, -, hswapped, -⟩
  · rw [heq, freezeUnprepared_swapped h hcall, hcall, h.named, failCutover_swapped h.recorded h.named h.status,
      Option.any_some, h.status]
    rfl
  · rw [freezeUnprepared_swapped h hcall, hcall, hswap] at hswapped
    cases hswapped

/-- Behind the swap, the swap finds its own route and nothing is frozen: what decides is the commits. -/
private theorem continueCutover_swapped {room : GatewayRoom limits} {request : CutoverRequest}
    {operation : RoomCutoverOperation} {next : GatewayRoomRoute}
    (h : Swapped settings room request operation next)
    (hendpoint : endpointText urls request.endpoint = .ok next.endpoint) (call : CutoverCall)
    (hcall : call.request = request) (sessions : Nat → GatewaySession limits) {ids : List Nat}
    (hids : call.promises.map Prod.fst = ids)
    (hnodup : ids.Nodup) (hsessions : ∀ id ∈ ids, room.session id = some (sessions id)) :
    let ended := (room.continueCutover urls settings call).1
    (((ended.operation operation.operationId).any fun operation => operation.status = .committed) = true ↔
        ∀ id ∈ ids, ∃ replayed, ((sessions id).commitPrepared next).2 = .ok replayed) ∧
      ((∀ id ∈ ids, ∃ replayed, ((sessions id).commitPrepared next).2 = .ok replayed) →
        ∀ id ∈ ids, ended.session id = some ((sessions id).commitPrepared next).1) := by
  have hunfrozen := freezeUnprepared_swapped h hcall
  have hswap : swap urls settings room request = (room, .ok next) := by
    unfold swap
    rw [h.route]
    dsimp only
    rw [h.moved, h.epoch, if_neg (by decide), if_neg (by decide), hendpoint]
    dsimp only
    rw [if_pos rfl]
  rcases room.continueCutover_cases urls settings call with ⟨reason, herror, -⟩ |
    ⟨swapped, next', begun, committed, hswapped, hbegun, hcommitted, hend⟩
  · rw [hunfrozen, hcall, hswap] at herror
    cases herror
  · rw [hunfrozen, hcall, hswap] at hswapped
    cases hswapped
    have hbegunSessions : ∀ id, begun.session id = room.session id := by
      intro id
      rw [hbegun]
      exact (room.operationsOnly_setStatus _ _).session id
    have hbegunOperation : begun.operation request.operationId = some { operation with status := .registryCommitted } := by
      rw [hbegun, hcall]
      show (room.setStatus request.operationId .registryCommitted).operation request.operationId = _
      unfold setStatus
      rw [h.recorded]
      dsimp only
      rw [operation_setOperation, if_pos h.named.symm]
    obtain ⟨-, hok, hafter⟩ := commitAll_spec next sessions hnodup
      (fun id hid => (hbegunSessions id).trans (hsessions id hid)) hbegunOperation h.named
    obtain ⟨replayedInputs, hlater⟩ := commitAll_operation next ids hbegunOperation h.named
    rw [hcall, hids] at hcommitted
    rw [← hcommitted] at hlater hok hafter
    rw [hcall, hids] at hend
    dsimp only
    rw [h.named]
    rcases hend with ⟨reason, herror, heq⟩ | ⟨hcommits, ⟨hnone, -⟩ | ⟨last, hlast, heq, -⟩⟩
    · -- a commit has thrown
      have hnot : ¬∀ id ∈ ids, ∃ replayed, ((sessions id).commitPrepared next).2 = .ok replayed := by
        intro hall
        rw [hok.2 hall] at herror
        cases herror
      refine ⟨iff_of_false ?_ hnot, fun hall => absurd hall hnot⟩
      rw [heq, failCutover_swapped hlater h.named rfl, Option.any_some]
      simp
    · rw [hlater] at hnone
      cases hnone
    · rw [hlater] at hlast
      cases hlast
      refine ⟨iff_of_true ?_ (hok.1 hcommits), fun _ id hid => ?_⟩
      · rw [heq]
        show ((committed.1.setOperation _).operation request.operationId).any _ = true
        rw [operation_setOperation, if_pos h.named.symm]
        rfl
      · rw [heq]
        exact hafter hcommits id hid

theorem Swapped.congr {room other : GatewayRoom limits} {request : CutoverRequest} {operation : RoomCutoverOperation}
    {next : GatewayRoomRoute} (h : Swapped settings room request operation next)
    (hoperation : other.operation request.operationId = some operation) (hregistry : other.registry = room.registry)
    (hpreparation : other.preparation = none) : Swapped settings other request operation next :=
  { h with
    recorded := hoperation
    route := by rw [GatewayRoom.route, hregistry]; exact h.route
    preparation := hpreparation }

/-- The repeated request passes the guards unless a selected session has gone. -/
private theorem cutover_swapped {room : GatewayRoom limits} {request : CutoverRequest}
    {operation : RoomCutoverOperation} {next : GatewayRoomRoute}
    (h : Swapped settings room request operation next) :
    let started := room.setOperation operation
    (room.cutover settings request).1 =
      if ∀ id ∈ operation.sessionIds, room.isListed id = true then
        let prepared := prepareAll (request.route settings) started operation.sessionIds
        { prepared.1 with cutovers := prepared.1.cutovers ++ [{ request, preparation := none, promises := prepared.2 }] }
      else started.failCutover request.operationId (operation.sessionIds.filter started.isListed)
        "gateway_session_continuity_lost_before_cutover" := by
  have hrefusal : cutoverRefusal settings room request = none := by
    unfold cutoverRefusal preparationRefusal
    rw [h.route, h.recorded, h.preparation]
    dsimp only
    rw [if_neg h.same, h.status, if_neg (by decide), if_neg (by decide)]
  have hoperation : room.operationFor request = operation := by
    unfold operationFor
    rw [h.recorded, Option.getD_some]
  have hguard : ∀ selected : List Nat, cutoverGuard settings (room.setOperation operation) request operation selected =
      if selected.length ≠ operation.sessionIds.length then some "gateway_session_continuity_lost_before_cutover"
      else none := by
    intro selected
    unfold cutoverGuard
    rw [h.status, h.checksumMatched, h.caughtUp]
    simp
  have hlisted : ∀ id, (room.setOperation operation).isListed id = room.isListed id :=
    (room.operationsOnly_setOperation operation).listed
  have hselected : (operation.sessionIds.filter (room.setOperation operation).isListed).length ≠
      operation.sessionIds.length ↔ ¬∀ id ∈ operation.sessionIds, room.isListed id = true := by
    rw [Ne, List.length_filter_eq_length_iff]
    simp only [hlisted]
  unfold cutover
  rw [hrefusal]
  dsimp only
  rw [hoperation, hguard]
  by_cases hall : ∀ id ∈ operation.sessionIds, room.isListed id = true
  · rw [if_neg fun hne => hselected.1 hne hall, if_pos hall, List.filter_eq_self.2 fun id hid =>
      (hlisted id).trans (hall id hid)]
    dsimp only
    rw [(sessionsOnly_prepareAll ..).preparation, show (room.setOperation operation).preparation = none from h.preparation]
    rfl
  · rw [if_pos (hselected.2 hall), if_neg hall]

variable (urls settings) in
/-- A cutover that waits goes on as its promises say. -/
private theorem resume_waiting {room resumed : GatewayRoom limits} {i : Nat} {call : CutoverCall}
    (hcall : room.cutovers[i]? = some call) (hwaiting : call.waiting = true)
    (hresumed : resumed = { room with cutovers := room.cutovers.set i { call with waiting := false } }) :
    room.resume urls settings i = (room.allSettled call.promises).map fun result =>
      match result with
      | .error reason =>
        (resumed.failCutover call.request.operationId (call.promises.map Prod.fst) reason, .error reason)
      | .ok _ => resumed.continueCutover urls settings call := by
  subst hresumed
  unfold GatewayRoom.resume
  rw [hcall]
  exact congrArg (Option.map _) (show room.decided call = room.allSettled call.promises from if_pos hwaiting)

variable (urls codec) in
/-- When all selected sessions are there, each of them decides by itself. -/
private theorem retry_swapped {room : GatewayRoom limits} {request : CutoverRequest} {operation : RoomCutoverOperation}
    {next : GatewayRoomRoute} (answers : Nat → CandidateAnswer)
    (h : Swapped settings room request operation next)
    (hlisted : ∀ id ∈ operation.sessionIds, room.isListed id = true) (sessions : Nat → GatewaySession limits)
    (hsessions : ∀ id ∈ operation.sessionIds, room.session id = some (sessions id))
    (ended : Nat → GatewaySession limits)
    (hended : ∀ id, ended id = ((sessions id).prepare (request.route settings)).1.answered codec next.epoch (answers id)
      ((sessions id).prepare (request.route settings)).2) :
    Completed room (room.retry urls codec settings request next.epoch answers) operation next ↔
      endpointText urls request.endpoint = .ok next.endpoint ∧ ∀ id ∈ operation.sessionIds,
        (ended id).outcome ((sessions id).prepare (request.route settings)).2 = some (.ok ()) ∧
        (∃ replayed, ((ended id).commitPrepared next).2 = .ok replayed) ∧
        ((ended id).commitPrepared next).1.PlaysAt next := by
  have hcutover := cutover_swapped h
  dsimp only at hcutover
  rw [if_pos hlisted] at hcutover
  obtain ⟨hpromises, hprepared, -⟩ := prepareAll_spec (request.route settings) sessions (room.setOperation operation)
    h.nodup hsessions
  have hframe := sessionsOnly_prepareAll (request.route settings) (room.setOperation operation) operation.sessionIds
  generalize prepareAll (request.route settings) (room.setOperation operation) operation.sessionIds = prepared
    at hcutover hpromises hprepared hframe
  obtain ⟨prepared, promises⟩ := prepared
  dsimp only at hcutover hpromises hprepared hframe
  have hids : promises.map Prod.fst = operation.sessionIds := by
    rw [hpromises, List.map_map]
    exact List.map_id _
  have hcall : (room.cutover settings request).1.cutovers[room.cutovers.length]? =
      some { request, preparation := none, promises } := by
    rw [hcutover, hframe.cutovers]
    exact List.getElem?_concat_length
  unfold retry
  dsimp only
  rw [hcall]
  dsimp only
  have hbegun : ∀ p ∈ promises, (room.cutover settings request).1.session p.1 =
      some ((sessions p.1).prepare (request.route settings)).1 := by
    intro p hp
    rw [hcutover]
    exact hprepared p.1 (hids ▸ List.mem_map_of_mem hp)
  obtain ⟨hanswered, -, hkept⟩ := answerAll_spec codec next.epoch answers
    (fun id => ((sessions id).prepare (request.route settings)).1) (hids ▸ h.nodup) hbegun
  generalize promises.foldl (answer codec next.epoch answers) (room.cutover settings request).1 = answered
    at hanswered hkept
  have hended' : ∀ id ∈ operation.sessionIds, answered.session id = some (ended id) := by
    intro id hid
    have hp : (id, ((sessions id).prepare (request.route settings)).2) ∈ promises := by
      rw [hpromises]
      exact List.mem_map_of_mem hid
    exact (hanswered _ hp).trans (congrArg some (hended id).symm)
  have hsettled : answered.allSettled promises = some (.ok ()) ↔ ∀ id ∈ operation.sessionIds,
      (ended id).outcome ((sessions id).prepare (request.route settings)).2 = some (.ok ()) := by
    rw [allSettled_ok_iff, hpromises, List.forall_mem_map]
    refine forall₂_congr fun id hid => ?_
    unfold outcome
    rw [hended' id hid, Option.bind_some]
  have hrecorded : answered.operation request.operationId = some operation := by
    unfold GatewayRoom.operation
    rw [hkept.operations, hcutover]
    dsimp only
    rw [hframe.operations]
    exact (room.operation_setOperation operation request.operationId).trans (if_pos h.named.symm)
  have hregistry : answered.registry = room.registry := by
    rw [hkept.registry, hcutover]
    exact hframe.registry
  have hpreparation : answered.preparation = none := by
    rw [hkept.preparation, hcutover]
    exact hframe.preparation.trans h.preparation
  obtain ⟨resumed, hresumed⟩ : ∃ resumed, resumed = { answered with
      cutovers := answered.cutovers.set room.cutovers.length
        { request, preparation := none, promises, waiting := false } } := ⟨_, rfl⟩
  have hrecorded' : resumed.operation request.operationId = some operation := by
    rw [hresumed]
    exact hrecorded
  rw [← hkept.cutovers] at hcall
  rw [resume_waiting urls settings hcall rfl hresumed]
  dsimp only
  by_cases hok : answered.allSettled promises = some (.ok ())
  · rw [hok]
    have hswapped : Swapped settings resumed request operation next := by
      refine h.congr hrecorded' ?_ ?_
      · rw [hresumed]
        exact hregistry
      · rw [hresumed]
        exact hpreparation
    have hsame : ∀ id ∈ operation.sessionIds, resumed.session id = some (ended id) := by
      intro id hid
      rw [hresumed]
      exact hended' id hid
    rw [Option.map_some, Option.map_some, Option.getD_some]
    by_cases hendpoint : endpointText urls request.endpoint = .ok next.endpoint
    · obtain ⟨hcommitted, hafter⟩ := continueCutover_swapped hswapped hendpoint
        { request, preparation := none, promises } rfl ended hids h.nodup hsame
      rw [and_iff_right hendpoint]
      constructor
      · rintro ⟨hdone, hplays⟩
        have hcommits := hcommitted.1 hdone
        refine fun id hid => ⟨hsettled.1 hok id hid, hcommits id hid, ?_⟩
        obtain ⟨session, hsession, hplays⟩ := hplays id hid (hlisted id hid)
        cases (hafter hcommits id hid).symm.trans hsession
        exact hplays
      · intro hall
        have hcommits := fun id hid => (hall id hid).2.1
        exact ⟨hcommitted.2 hcommits, fun id hid _ => ⟨_, hafter hcommits id hid, (hall id hid).2.2⟩⟩
    · refine iff_of_false (fun hdone => ?_) fun hgood => hendpoint hgood.1
      have hrefused := continueCutover_refused hswapped hendpoint { request, preparation := none, promises } rfl
      exact absurd hdone.1 (by rw [hrefused]; decide)
  · refine iff_of_false ?_ fun hall => hok (hsettled.2 fun id hid => (hall.2 id hid).1)
    rintro ⟨hdone, -⟩
    rw [h.named] at hdone
    cases hresult : answered.allSettled promises with
    | none =>
      rw [hresult, Option.map_none, Option.map_none, Option.getD_none, hrecorded, Option.any_some, h.status] at hdone
      cases hdone
    | some result =>
      cases result with
      | ok _ => exact hok hresult
      | error reason =>
        rw [hresult, Option.map_some, Option.map_some, Option.getD_some] at hdone
        dsimp only at hdone
        rw [failCutover_swapped hrecorded' h.named h.status, Option.any_some, h.status] at hdone
        cases hdone

/-- In every room that a run reaches behind a failure that came after the swap, the same request with a reachable
candidate completes the cutover exactly when its endpoint has the text of the route, no selected session has gone, and
each can be prepared and committed. -/
theorem retry_completes_iff {registry : FencedGatewayRoomRegistry} {events : List RoomEvent} {room : GatewayRoom limits}
    {request : CutoverRequest} {operation : RoomCutoverOperation} {next : GatewayRoomRoute}
    (answers : Nat → CandidateAnswer)
    (hrun : Machine.runFrom (step urls codec settings) (init registry) events = some room)
    (h : Swapped settings room request operation next) :
    Completed room (room.retry urls codec settings request next.epoch answers) operation next ↔
      endpointText urls request.endpoint = .ok next.endpoint ∧
      ∀ id ∈ operation.sessionIds, room.isListed id = true ∧ ∃ session, room.session id = some session ∧
        session.Preparable codec (request.route settings) (answers id).token ∧
        session.Committable (request.route settings) next := by
  have hcurrent : ∀ id session, room.session id = some session → session.HasCurrent := by
    refine sessions_keep (fun route i hi => ?_) (fun _ _ _ hsession hs => hsession.step hs)
      (fun id session hsession => ?_) hrun
    · cases hi
      exact Nat.zero_lt_one
    · cases hsession
  have hstarted : (room.setOperation operation).operation request.operationId = some operation := by
    rw [operation_setOperation, if_pos h.named.symm]
  have hcutover := cutover_swapped h
  dsimp only at hcutover
  unfold retry
  dsimp only
  by_cases hall : ∀ id ∈ operation.sessionIds, room.isListed id = true
  · have hsessions : ∀ id ∈ operation.sessionIds,
        room.session id = some ((room.session id).getD (.start next)) := by
      intro id hid
      obtain ⟨session, hsession⟩ := session_of_isListed (hall id hid)
      rw [hsession]
      rfl
    have hretry := retry_swapped urls codec answers h hall _ hsessions _ fun id => rfl
    unfold retry at hretry
    rw [hretry]
    refine and_congr_right fun _ => forall₂_congr fun id hid => ?_
    rw [GatewaySession.recovers_iff codec _ (request.route settings) h.epoch (answers id)
      (hcurrent id _ (hsessions id hid)) rfl, and_iff_right (hall id hid)]
    constructor
    · exact fun hgood => ⟨_, hsessions id hid, hgood⟩
    · rintro ⟨session, hsession, hgood⟩
      rw [hsession]
      exact hgood
  · rw [if_neg hall] at hcutover
    have hnone : (room.cutover settings request).1.cutovers[room.cutovers.length]? = none := by
      rw [hcutover, (cutoverFrame_failCutover ..).cutovers]
      exact List.getElem?_eq_none (Nat.le_refl _)
    rw [hnone, hcutover]
    refine iff_of_false ?_ fun hgood => hall fun id hid => (hgood.2 id hid).1
    rintro ⟨hcommitted, -⟩
    rw [h.named, failCutover_swapped hstarted h.named h.status] at hcommitted
    simp [h.status] at hcommitted

/-! ### Failures behind the swap -/

/-- A swap that goes through leaves the route on the next epoch. -/
theorem route_swap {room swapped : GatewayRoom limits} {request : CutoverRequest} {next : GatewayRoomRoute}
    (h : swap urls settings room request = (swapped, .ok next)) :
    swapped.route settings = some next ∧ (JsNumber.ofNat next.epoch).strictEq request.expectedEpoch = false ∧
      (JsNumber.ofNat next.epoch).strictEq request.nextEpoch = true := by
  rcases swap_cases urls settings room request with
    ⟨reason, heq⟩ | ⟨current, hroute, hmoved, hepoch, -, heq⟩ |
    ⟨current, next', hroute, hexpected, hroom, hlt, hnormal, heq⟩
  · rw [h] at heq
    cases heq
  · rw [h] at heq
    cases heq
    exact ⟨hroute, hmoved, hepoch⟩
  · rw [h] at heq
    cases heq
    refine ⟨?_, ?_, ?_⟩
    · rw [GatewayRoom.route, ← hroom]
      exact FencedGatewayRoomRegistry.get_set_self ..
    · by_contra hsame
      have := JsNumber.strictEq_ofNat_inj hexpected (by simpa using hsame)
      omega
    · unfold normalizeRoute at hnormal
      split at hnormal
      · cases hnormal
      · split at hnormal
        · cases hnormal
        · split at hnormal
          · rename_i epoch _ hsafe
            split at hnormal
            · cases hnormal
            · cases hnormal
              exact JsNumber.strictEq_of_safeNat? hsafe
          · cases hnormal

theorem failCutover_failed {room : GatewayRoom limits} {operationId : String} {operation : RoomCutoverOperation}
    (h : room.operation operationId = some operation) (hnamed : operation.operationId = operationId)
    (hstatus : operation.status ≠ .registryCommitted) (selected : List Nat) (reason : String) :
    (room.failCutover operationId selected reason).operation operationId =
      some { operation with failure := some reason, status := .failed } := by
  have hfailed := room.operation_setOperation { operation with failure := some reason, status := .failed } operationId
  rw [if_pos hnamed.symm] at hfailed
  have haborted := (sessionsOnly_abortAll (room.setOperation { operation with failure := some reason, status := .failed })
    selected).operations
  rcases room.failCutover_cases operationId selected reason with ⟨hnone, -⟩ |
    ⟨operation', hoperation', ⟨hcommitted, -⟩ | ⟨-, failed, aborted, rfl, rfl, heq | ⟨heq, -⟩⟩⟩
  · rw [h] at hnone
    cases hnone
  · rw [h] at hoperation'
    cases hoperation'
    exact absurd hcommitted hstatus
  all_goals
    rw [h] at hoperation'
    cases hoperation'
    rw [heq, ← hfailed]
    exact congrArg (fun operations : Fields RoomCutoverOperation => operations.get? operationId) haborted

/-- A cutover that fails behind its swap leaves a room in which it can be repeated. -/
theorem swapped_of_resume {room after : GatewayRoom limits} {i : Nat} {call : CutoverCall}
    {operation later : RoomCutoverOperation} {reason : String} (hcall : room.cutovers[i]? = some call)
    (hoperation : room.operation call.request.operationId = some operation)
    (hnamed : operation.operationId = call.request.operationId) (hsame : ¬RequestConflicts operation call.request)
    (hchecksum : call.request.checksumMatched = true) (hcaughtUp : call.request.caughtUp = true)
    (hnodup : operation.sessionIds.Nodup) (hbefore : operation.status ≠ .registryCommitted)
    (hresume : room.resume urls settings i = some (after, .error reason))
    (hlater : after.operation call.request.operationId = some later) (hstatus : later.status = .registryCommitted) :
    ∃ next, Swapped settings after call.request later next ∧ later.sessionIds = operation.sessionIds := by
  obtain ⟨call', resumed, hcall', -, hresumed, hend⟩ := resume_cases hresume
  rw [hcall] at hcall'
  cases hcall'
  have hrecorded : resumed.operation call.request.operationId = some operation := by
    rw [hresumed]
    exact hoperation
  -- before the swap a failure would have ended the operation
  have hnotFailed : ∀ (before : GatewayRoom limits) (why : String),
      before.operation call.request.operationId = some operation →
      after ≠ before.failCutover call.request.operationId (call.promises.map Prod.fst) why := by
    intro before why hop heq
    rw [heq, failCutover_failed hop hnamed hbefore] at hlater
    cases hlater
    cases hstatus
  rcases hend with ⟨why, -, heq⟩ | ⟨-, heq⟩
  · exact absurd (congrArg Prod.fst heq) (hnotFailed resumed why hrecorded)
  rcases resumed.continueCutover_cases urls settings call with ⟨why, -, hfail⟩ |
    ⟨swapped, next, begun, committed, hswap, hbegun, hcommitted, hend⟩
  · rw [hfail] at heq
    refine absurd (congrArg Prod.fst heq) (hnotFailed _ why ?_)
    unfold GatewayRoom.operation
    rw [(resumed.sessionsOnly_freezeUnprepared call).operations]
    exact hrecorded
  have hoperations : swapped.operations = resumed.operations := by
    rw [cutoverFrame_swap hswap]
    exact (resumed.sessionsOnly_freezeUnprepared call).operations
  have hswapped : swapped.operation call.request.operationId = some operation := by
    unfold GatewayRoom.operation
    rw [hoperations]
    exact hrecorded
  have hbegunOperation : begun.operation call.request.operationId =
      some { operation with status := .registryCommitted } := by
    rw [hbegun]
    show (swapped.setStatus call.request.operationId .registryCommitted).operation call.request.operationId = _
    unfold setStatus
    rw [hswapped]
    dsimp only
    rw [operation_setOperation, if_pos hnamed.symm]
  obtain ⟨replayedInputs, hcommittedOperation⟩ := commitAll_operation next (call.promises.map Prod.fst) hbegunOperation
    hnamed
  rw [← hcommitted] at hcommittedOperation
  rcases hend with ⟨why, -, hfail⟩ | ⟨-, ⟨hnone, -⟩ | ⟨-, -, -, response, hok⟩⟩
  · have hafter : after = committed.1.failCutover call.request.operationId (call.promises.map Prod.fst) why :=
      congrArg Prod.fst (heq.trans hfail)
    have hframe : CutoverFrame begun after := by
      rw [hafter, hcommitted]
      exact (cutoverFrame_commitAll ..).trans (cutoverFrame_failCutover ..)
    have hbegunRegistry : begun.registry = swapped.registry := by
      rw [hbegun]
      exact (swapped.operationsOnly_setStatus _ _).registry
    have hbegunPreparation : begun.preparation = none := by rw [hbegun]
    obtain ⟨hroute, hmoved, hepoch⟩ := route_swap hswap
    have hlaterEq := hlater
    rw [hafter, failCutover_swapped hcommittedOperation hnamed rfl] at hlaterEq
    cases hlaterEq
    refine ⟨next, ?_, rfl⟩
    exact {
      recorded := hlater
      named := hnamed
      status := rfl
      same := hsame
      checksumMatched := hchecksum
      caughtUp := hcaughtUp
      nodup := hnodup
      route := by
        rw [GatewayRoom.route, hframe.registry, hbegunRegistry]
        exact hroute
      moved := hmoved
      epoch := hepoch
      preparation := hframe.preparation.elim (fun h => h.trans hbegunPreparation) id }
  · rw [hcommittedOperation] at hnone
    cases hnone
  · rw [← heq] at hok
    cases hok

/-- Sessions that go, and whatever happens at their sockets, leave it so. -/
theorem Swapped.socket {room next : GatewayRoom limits} {request : CutoverRequest} {operation : RoomCutoverOperation}
    {route : GatewayRoomRoute} (h : Swapped settings room request operation route) {id : Nat} {event : SocketEvent}
    (hs : room.disconnect id = some next ∨ room.socketEvent codec id event = some next) :
    Swapped settings next request operation route := by
  rcases hs with hs | hs
  · unfold GatewayRoom.disconnect at hs
    split at hs
    · cases hs
    · split at hs
      · cases hs
        exact h.congr h.recorded rfl h.preparation
      · cases hs
  · unfold GatewayRoom.socketEvent at hs
    split at hs
    · cases hs
    · split at hs
      · cases hs
      · obtain ⟨after, -, rfl⟩ := Option.map_eq_some_iff.1 hs
        split
        · exact h.congr h.recorded rfl h.preparation
        · exact h.congr h.recorded rfl h.preparation

/-! ### A failed commit -/

private def cutoverOfTwo : CutoverRequest where
  operationId := "op"
  expectedEpoch := .ofNat 1
  nextEpoch := .ofNat 2
  endpoint := "http://candidate:3000"
  revision := none
  checksumMatched := true
  caughtUp := true

private def joined (session : Nat) : List RoomEvent :=
  [.connect, .socket session (.receive [1] true), .socket session (.opened 0)]

private def prepared (session : Nat) : List RoomEvent :=
  [.socket session (.matchFound 0 "token"), .socket session (.opened 1),
    .socket session (.frame 1 (.frame (.output 2 0 [])))]

/-- The timer of the preparation fires when the first of two sessions is prepared, and takes its candidate away; when the
second one is prepared the cutover goes on, and the commit of the first one throws. -/
private def failedCommit : List RoomEvent :=
  [.register "http://active:3000" (.ofNat 1)] ++ joined 0 ++ joined 1 ++
    [.freeze "op" (.ofNat 1) none, .cutover cutoverOfTwo] ++ prepared 0 ++ [.timeout] ++ prepared 1 ++ [.resume 0]

private def afterRun (events : List RoomEvent) : GatewayRoom fourInputs :=
  (Machine.runFrom (step plainUrls plainJoins firstRoom) (init .empty) events).getD (init .empty)

private theorem runFrom_afterRun {events : List RoomEvent}
    (h : (Machine.runFrom (step plainUrls plainJoins firstRoom) (init .empty : GatewayRoom fourInputs) events).isSome =
      true) :
    Machine.runFrom (step plainUrls plainJoins firstRoom) (init .empty) events = some (afterRun events) := by
  obtain ⟨room, hroom⟩ := Option.isSome_iff_exists.1 h
  unfold afterRun
  rw [hroom]
  rfl

private def operationOfTwo : RoomCutoverOperation where
  operationId := "op"
  expectedEpoch := .ofNat 1
  nextEpoch := .ofNat 2
  endpoint := "http://candidate:3000"
  revision := none
  status := .registryCommitted
  sessionIds := [0, 1]
  failure := some "gateway_candidate_not_prepared"

private def candidateRoute : GatewayRoomRoute where
  roomId := "room-1"
  endpoint := "http://candidate:3000"
  epoch := 2
  revision := none

private def secondAnswer (_ : Nat) : CandidateAnswer := { token := "again", serverTick := 0, payload := [] }

private theorem swapped_afterRun {events : List RoomEvent}
    (hoperation : (afterRun events).operation "op" = some operationOfTwo)
    (hroute : (afterRun events).route firstRoom = some candidateRoute)
    (hpreparation : (afterRun events).preparation = none) :
    Swapped firstRoom (afterRun events) cutoverOfTwo operationOfTwo candidateRoute where
  recorded := hoperation
  named := rfl
  status := rfl
  same := by decide
  checksumMatched := rfl
  caughtUp := rfl
  nodup := by decide
  route := hroute
  moved := by decide
  epoch := by decide
  preparation := hpreparation

/-- As long as both sessions are there, the cutover with the failed commit is completed by its repetition. -/
theorem retry_after_failed_commit : Completed (afterRun failedCommit)
    ((afterRun failedCommit).retry plainUrls plainJoins firstRoom cutoverOfTwo 2 secondAnswer) operationOfTwo
    candidateRoute := by
  refine (retry_completes_iff secondAnswer (runFrom_afterRun (by decide +kernel)) (swapped_afterRun (by decide +kernel)
    (by decide +kernel) (by decide +kernel))).2 ⟨rfl, fun id hid => ?_⟩
  have hopen : ∀ id ∈ operationOfTwo.sessionIds, (afterRun failedCommit).isListed id = true := by decide +kernel
  refine ⟨hopen id hid, ?_⟩
  have hsides : id = 0 ∨ id = 1 := by simpa [operationOfTwo] using hid
  rcases hsides with rfl | rfl
  · -- the first session has no candidate and can get one
    have hfirst : ((afterRun failedCommit).session 0).any fun session =>
        !session.stopped && decide (session.initialJoin = some [1]) && session.preparedUpstream.isNone &&
          !session.boundTo "http://candidate:3000" (.ofNat 2) && session.replay.isEmpty := by decide +kernel
    obtain ⟨session, hsession, hfirst⟩ := (Option.any_eq_true _ _).1 hfirst
    simp only [Bool.and_eq_true, Bool.not_eq_true', decide_eq_true_eq, Option.isNone_iff_eq_none, List.isEmpty_iff]
      at hfirst
    obtain ⟨⟨⟨⟨hopen, hjoin⟩, hnone⟩, hbound⟩, hreplay⟩ := hfirst
    refine ⟨session, hsession, ⟨hopen, [1], hjoin, Or.inr ?_⟩, ?_⟩
    · rw [hnone]
      exact ⟨by decide, [1], rfl⟩
    · unfold GatewaySession.Committable GatewaySession.ReplayFits
      rw [show session.boundTo candidateRoute.endpoint (.ofNat candidateRoute.epoch) = false from hbound,
        if_neg (by decide), hreplay, hnone]
      exact ⟨⟨Or.inr rfl, by decide, by decide⟩, hbound, rfl⟩
  · -- the second one has kept its candidate
    have hsecond : ((afterRun failedCommit).session 1).any fun session =>
        !session.stopped && decide (session.initialJoin = some [1]) && session.replay.isEmpty &&
          !session.boundTo "http://candidate:3000" (.ofNat 2) && session.preparedUpstream.any fun candidate =>
            decide (candidate.epoch = .ofNat 2) && decide (candidate.endpoint = "http://candidate:3000") &&
              decide (candidate.readyState = .opened) := by decide +kernel
    obtain ⟨session, hsession, hsecond⟩ := (Option.any_eq_true _ _).1 hsecond
    simp only [Bool.and_eq_true, Bool.not_eq_true', decide_eq_true_eq, List.isEmpty_iff] at hsecond
    obtain ⟨⟨⟨⟨hopen, hjoin⟩, hreplay⟩, hbound⟩, hcandidate⟩ := hsecond
    obtain ⟨candidate, hprepared, hcandidate⟩ := (Option.any_eq_true _ _).1 hcandidate
    simp only [Bool.and_eq_true, decide_eq_true_eq] at hcandidate
    obtain ⟨⟨hepoch, hendpoint⟩, hstate⟩ := hcandidate
    refine ⟨session, hsession, ⟨hopen, [1], hjoin, Or.inr ?_⟩, ?_⟩
    · rw [hprepared]
      exact ⟨by rw [hepoch]; decide, hendpoint⟩
    · unfold GatewaySession.Committable GatewaySession.ReplayFits
      rw [show session.boundTo candidateRoute.endpoint (.ofNat candidateRoute.epoch) = false from hbound,
        if_neg (by decide), hreplay, hprepared]
      exact ⟨⟨Or.inr rfl, by decide, by decide⟩, by rw [hepoch]; decide, hendpoint, hstate⟩

/-- The second session goes behind the failed commit: the request is refused whenever it is repeated. -/
theorem retry_without_session : ¬∀ (limits : GatewayLimits) (urls : UrlParser) (codec : GatewayJoinCodec)
    (settings : GatewaySettings) (registry : FencedGatewayRoomRegistry) (events : List RoomEvent)
    (room : GatewayRoom limits) (request : CutoverRequest) (operation : RoomCutoverOperation) (next : GatewayRoomRoute)
    (answers : Nat → CandidateAnswer),
    Machine.runFrom (step urls codec settings) (init registry) events = some room →
    Swapped settings room request operation next →
    Completed room (room.retry urls codec settings request next.epoch answers) operation next := by
  intro h
  have hdone := h fourInputs plainUrls plainJoins firstRoom .empty (failedCommit ++ [.disconnect 1]) _ cutoverOfTwo
    operationOfTwo candidateRoute secondAnswer (runFrom_afterRun (by decide +kernel))
    (swapped_afterRun (by decide +kernel) (by decide +kernel) (by decide +kernel))
  exact absurd hdone.1 (by decide +kernel)

end GatewayRoom

end Opsia
