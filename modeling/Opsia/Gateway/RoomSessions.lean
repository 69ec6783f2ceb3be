import Opsia.Gateway.RoomFrames
import Opsia.Gateway.Sockets

/-!
# The sessions of a room run as sessions

Whatever happens at a room, each of its sessions only makes steps of a session, and only such as the event makes
(`RoomEvent.Makes`); a session that comes new has just been started (`session_step`).  What every step of a session keeps
therefore holds at every session of every room that is reached (`sessions_keep`).
-/

namespace Opsia

open Json

/-- The second session is the first one after some events and calls of these kinds. -/
inductive GatewaySession.Moves {limits : GatewayLimits} (codec : GatewayJoinCodec) (kinds : GatewaySessionEvent → Prop)
    (session : GatewaySession limits) : GatewaySession limits → Prop
  | refl : Moves codec kinds session session
  | step {middle last : GatewaySession limits} {event : GatewaySessionEvent} (h : Moves codec kinds session middle)
      (hkind : kinds event) (hs : middle.step codec event = some last) : Moves codec kinds session last

namespace GatewaySession

variable {limits : GatewayLimits} {codec : GatewayJoinCodec} {kinds : GatewaySessionEvent → Prop}
variable {first second third : GatewaySession limits}

theorem Moves.trans (h : Moves codec kinds first second) (h' : Moves codec kinds second third) :
    Moves codec kinds first third := by
  induction h' with
  | refl => exact h
  | step _ hkind hs ih => exact ih.step hkind hs

theorem Moves.one (event : GatewaySessionEvent) (hkind : kinds event) (hs : first.step codec event = some second) :
    Moves codec kinds first second := .step .refl hkind hs

/-- What every step of these kinds keeps is kept. -/
theorem Moves.keeps (h : Moves codec kinds first second) {I : GatewaySession limits → Prop}
    (hstep : ∀ session event next, kinds event → I session → session.step codec event = some next → I next)
    (hfirst : I first) : I second := by
  induction h with
  | refl => exact hfirst
  | step _ hkind hs ih => exact hstep _ _ _ hkind ih hs

end GatewaySession

/-- What an event at a room makes of its sessions. -/
def RoomEvent.Makes : RoomEvent → GatewaySessionEvent → Prop
  | .disconnect _, made => made = .stop
  | .socket _ event, made => made = .socket event
  | .freeze .., made => made = .freeze ∨ made = .abortPrepared
  | .abort _, made | .timeout, made => made = .abortPrepared
  | .cutover _, made => (∃ route, made = .prepare route) ∨ made = .abortPrepared
  | .resume _, made => made = .freeze ∨ (∃ route, made = .commitPrepared route) ∨ made = .abortPrepared
  | .finalize .., made => made = .finalizeVerification
  | .connect, _ | .register .., _ | .reconcile .., _ | .reconciled .., _ => False

namespace GatewayRoom

variable {limits : GatewayLimits} {urls : UrlParser} {codec : GatewayJoinCodec} {settings : GatewaySettings}
variable {kinds : GatewaySessionEvent → Prop}

open GatewaySession (Moves)

/-- Each session of the room has moved, and there is no new one. -/
structure SessionsMove (codec : GatewayJoinCodec) (kinds : GatewaySessionEvent → Prop) (room next : GatewayRoom limits) :
    Prop where
  moved : ∀ id session, room.session id = some session →
    ∃ after, next.session id = some after ∧ Moves codec kinds session after
  absent : ∀ id, room.session id = none → next.session id = none

theorem SessionsMove.refl (room : GatewayRoom limits) : SessionsMove codec kinds room room :=
  ⟨fun _ session h => ⟨session, h, .refl⟩, fun _ => id⟩

theorem SessionsMove.trans {first second third : GatewayRoom limits} (h : SessionsMove codec kinds first second)
    (h' : SessionsMove codec kinds second third) : SessionsMove codec kinds first third := by
  refine ⟨fun id session hsession => ?_, fun id hnone => h'.absent id (h.absent id hnone)⟩
  obtain ⟨middle, hmiddle, hmoves⟩ := h.moved id session hsession
  obtain ⟨last, hlast, hmoves'⟩ := h'.moved id middle hmiddle
  exact ⟨last, hlast, hmoves.trans hmoves'⟩

theorem SessionsMove.of_sessions {room next : GatewayRoom limits} (h : ∀ id, next.session id = room.session id) :
    SessionsMove codec kinds room next :=
  ⟨fun id session hsession => ⟨session, (h id).trans hsession, .refl⟩, fun id hnone => (h id).trans hnone⟩

theorem sessionsMove_setSession {room : GatewayRoom limits} {id : Nat} {session after : GatewaySession limits}
    (hsession : room.session id = some session) (hmoves : Moves codec kinds session after) :
    SessionsMove codec kinds room (room.setSession id after) := by
  refine ⟨fun other first hfirst => ?_, fun other hnone => ?_⟩
  · rw [session_setSession]
    by_cases h : other = id
    · subst h
      rw [hsession] at hfirst
      cases hfirst
      rw [if_pos rfl, hsession]
      exact ⟨after, rfl, hmoves⟩
    · rw [if_neg h]
      exact ⟨first, hfirst, .refl⟩
  · rw [session_setSession, hnone]
    exact ite_self _

variable (codec) in
theorem sessionsMove_abortAll (hkind : kinds .abortPrepared) (room : GatewayRoom limits) (ids : List Nat) :
    SessionsMove codec kinds room (room.abortAll ids).1 := by
  induction ids generalizing room with
  | nil => exact .refl room
  | cons id ids ih =>
    unfold abortAll
    split
    · exact ih room
    · rename_i session hsession
      have hmoves : Moves codec kinds session session.abortPrepared.1 :=
        .one .abortPrepared hkind rfl
      split
      · rename_i moved _ heq
        rw [heq] at hmoves
        exact (sessionsMove_setSession hsession hmoves).trans (ih _)
      · rename_i moved _ heq
        rw [heq] at hmoves
        exact sessionsMove_setSession hsession hmoves

theorem sessionsMove_freezeAll (hkind : kinds .freeze) (room : GatewayRoom limits) (ids : List Nat) :
    SessionsMove codec kinds room (room.freezeAll ids) := by
  unfold freezeAll
  induction ids generalizing room with
  | nil => exact .refl room
  | cons id ids ih =>
    rw [List.foldl_cons]
    refine SessionsMove.trans ?_ (ih _)
    split
    · rename_i session hsession
      exact sessionsMove_setSession hsession (.one .freeze hkind rfl)
    · exact .refl room

variable (codec) in
theorem sessionsMove_finalizeAll (hkind : kinds .finalizeVerification) (room : GatewayRoom limits) (ids : List Nat) :
    SessionsMove codec kinds room (ids.foldl (fun room id =>
      match room.session id with
      | some session => room.setSession id session.finalizeVerification
      | none => room) room) := by
  induction ids generalizing room with
  | nil => exact .refl room
  | cons id ids ih =>
    rw [List.foldl_cons]
    refine SessionsMove.trans ?_ (ih _)
    split
    · rename_i session hsession
      exact sessionsMove_setSession hsession (.one .finalizeVerification hkind rfl)
    · exact .refl room

theorem sessionsMove_prepareAll {route : RouteArgument} (hkind : kinds (.prepare route)) (room : GatewayRoom limits)
    (ids : List Nat) :
    SessionsMove codec kinds room (prepareAll route room ids).1 := by
  induction ids generalizing room with
  | nil => exact .refl room
  | cons id ids ih =>
    unfold prepareAll
    split
    · exact ih room
    · rename_i session hsession
      exact (sessionsMove_setSession hsession (.one (.prepare route) hkind rfl)).trans (ih _)

theorem OperationsOnly.sessionsMove {room next : GatewayRoom limits} (h : OperationsOnly room next) :
    SessionsMove codec kinds room next := .of_sessions h.session

theorem sessionsMove_commitAll (operationId : String) {next : GatewayRoomRoute} (hkind : kinds (.commitPrepared next))
    (room : GatewayRoom limits) (ids : List Nat) :
    SessionsMove codec kinds room (commitAll operationId next room ids).1 := by
  induction ids generalizing room with
  | nil => exact .refl room
  | cons id ids ih =>
    unfold commitAll
    split
    · exact ih room
    · rename_i session hsession
      have hmoves : Moves codec kinds session (session.commitPrepared next).1 :=
        .one (.commitPrepared next) hkind rfl
      split
      · rename_i moved _ heq
        rw [heq] at hmoves
        exact sessionsMove_setSession hsession hmoves
      · rename_i moved replayed heq
        rw [heq] at hmoves
        refine ((sessionsMove_setSession hsession hmoves).trans ?_).trans (ih _)
        unfold setCommitted
        split
        · exact .refl _
        · exact (operationsOnly_setOperation ..).sessionsMove

/-! ### Calls -/

theorem sessionsMove_abortRoomPreparation (hkind : kinds .abortPrepared) (room : GatewayRoom limits)
    (operationId : Option String) :
    SessionsMove codec kinds room (room.abortRoomPreparation operationId).1 := by
  rcases room.abortRoomPreparation_cases operationId with heq | ⟨preparation, -, heq⟩
  · rw [heq]
    exact .refl room
  · rw [heq]
    obtain ⟨hmoved, habsent⟩ := sessionsMove_abortAll codec hkind { room with preparation := none }
      (preparation.sessionIds.filter room.isListed)
    exact ⟨hmoved, habsent⟩

theorem sessionsMove_freezeRoom (hfreeze : kinds .freeze) (habort : kinds .abortPrepared) (room : GatewayRoom limits)
    (operationId : String) (expectedEpoch : JsNumber) (supersedesOperationId : Option String) :
    SessionsMove codec kinds room (room.freezeRoom settings operationId expectedEpoch supersedesOperationId).1 := by
  rcases room.freezeRoom_cases settings operationId expectedEpoch supersedesOperationId with
    heq | ⟨route, cleared, -, -, -, hcleared, heq⟩
  · rw [heq]
    exact .refl room
  have hfrozen : SessionsMove codec kinds room (cleared.freezeAll room.listedIds) := by
    refine .trans (.of_sessions fun id => ?_) (sessionsMove_freezeAll hfreeze cleared room.listedIds)
    rw [hcleared]
    rfl
  rcases heq with heq | heq
  · rw [heq]
    exact hfrozen.trans (sessionsMove_abortAll codec habort ..)
  · rw [heq]
    exact hfrozen.trans (.of_sessions fun _ => rfl)

theorem sessionsMove_finalizeRoomVerification (hkind : kinds .finalizeVerification) (room : GatewayRoom limits)
    (operationId : String) (stale : Bool) :
    SessionsMove codec kinds room (room.finalizeRoomVerification settings operationId stale).1 := by
  unfold finalizeRoomVerification
  split
  · exact .refl room
  · split
    · exact .refl room
    · split
      · exact .refl room
      · rename_i verification _ _ _
        obtain ⟨hmoved, habsent⟩ := sessionsMove_finalizeAll codec hkind room
          (verification.sessionIds.filter room.isListed)
        exact ⟨hmoved, habsent⟩

theorem sessionsMove_failCutover (hkind : kinds .abortPrepared) (room : GatewayRoom limits) (operationId : String)
    (selected : List Nat) (reason : String) :
    SessionsMove codec kinds room (room.failCutover operationId selected reason) := by
  rcases room.failCutover_cases operationId selected reason with
    ⟨-, heq⟩ | ⟨operation, -, ⟨-, heq⟩ | ⟨-, failed, aborted, rfl, rfl, heq | ⟨heq, -⟩⟩⟩
  · rw [heq]
    exact .refl room
  · rw [heq]
    exact (room.operationsOnly_setOperation _).sessionsMove
  · rw [heq]
    exact ((room.operationsOnly_setOperation _).sessionsMove.trans (sessionsMove_abortAll codec hkind ..)).trans
      (.of_sessions fun _ => rfl)
  · rw [heq]
    exact (room.operationsOnly_setOperation _).sessionsMove.trans (sessionsMove_abortAll codec hkind ..)

theorem sessionsMove_cutover (hprepare : ∀ route, kinds (.prepare route)) (habort : kinds .abortPrepared)
    (room : GatewayRoom limits) (request : CutoverRequest) :
    SessionsMove codec kinds room (room.cutover settings request).1 := by
  rcases room.cutover_cases settings request with
    heq | ⟨operation, started, selected, -, -, rfl, -, ⟨reason, -, heq⟩ | ⟨-, prepared, promises, hprepared, heq⟩⟩
  · rw [heq]
    exact .refl room
  · rw [heq]
    exact (room.operationsOnly_setOperation operation).sessionsMove.trans (sessionsMove_failCutover habort ..)
  · have hmoves : SessionsMove codec kinds (room.setOperation operation)
        (prepareAll (request.route settings) (room.setOperation operation) selected).1 :=
      sessionsMove_prepareAll (hprepare _) ..
    rw [hprepared] at hmoves
    rw [heq]
    exact ((room.operationsOnly_setOperation operation).sessionsMove.trans hmoves).trans (.of_sessions fun _ => rfl)

theorem sessionsMove_resume {room : GatewayRoom limits} {i : Nat} (hfreeze : kinds .freeze)
    (hcommit : ∀ call ∈ room.cutovers[i]?, ∀ route, (swap urls settings room call.request).2 = .ok route →
      kinds (.commitPrepared route))
    (habort : kinds .abortPrepared) {next : GatewayRoom limits × Except String CutoverResponse}
    (h : room.resume urls settings i = some next) : SessionsMove codec kinds room next.1 := by
  obtain ⟨call, resumed, hcall, -, hresumed, hend⟩ := resume_cases h
  have hsame : SessionsMove codec kinds room resumed := by
    rw [hresumed]
    exact .of_sessions fun _ => rfl
  refine hsame.trans ?_
  rcases hend with ⟨reason, -, rfl⟩ | ⟨-, rfl⟩
  · exact sessionsMove_failCutover habort ..
  · have hfrozen : SessionsMove codec kinds resumed (resumed.freezeUnprepared call) := by
      unfold freezeUnprepared
      split
      · exact sessionsMove_freezeAll hfreeze ..
      · exact .refl resumed
    rcases resumed.continueCutover_cases urls settings call with
      ⟨reason, -, heq⟩ | ⟨swapped, next, begun, committed, hswap, rfl, rfl, hend⟩
    · rw [heq]
      exact hfrozen.trans (sessionsMove_failCutover habort ..)
    · have hcommitted : SessionsMove codec kinds resumed (commitAll call.request.operationId next
          { swapped.setStatus call.request.operationId .registryCommitted with preparation := none }
          (call.promises.map Prod.fst)).1 := by
        have hroute : (swap urls settings room call.request).2 = .ok next := by
          have hregistry : (resumed.freezeUnprepared call).registry = room.registry :=
            (sessionsOnly_freezeUnprepared resumed call).registry.trans (hresumed ▸ rfl)
          rw [← swap_snd hregistry, hswap]
        refine (hfrozen.trans (.of_sessions fun id => ?_)).trans
          (sessionsMove_commitAll _ (hcommit call hcall next hroute) ..)
        rw [show ({ swapped.setStatus call.request.operationId .registryCommitted with preparation := none } :
          GatewayRoom limits).session id = (swapped.setStatus call.request.operationId .registryCommitted).session id
          from rfl, (swapped.operationsOnly_setStatus _ _).session, cutoverFrame_swap hswap]
        rfl
      rcases hend with ⟨reason, -, heq⟩ | ⟨-, ⟨-, heq⟩ | ⟨operation, -, heq, -⟩⟩
      · rw [heq]
        exact hcommitted.trans (sessionsMove_failCutover habort ..)
      · rw [heq]
        exact hcommitted
      · rw [heq]
        obtain ⟨hmoved, habsent⟩ := hcommitted.trans (operationsOnly_setOperation _
          { operation with status := .committed, failure := none }).sessionsMove
        exact ⟨hmoved, habsent⟩

theorem sessionsMove_disconnect (hkind : kinds .stop) {room next : GatewayRoom limits} {id : Nat}
    (h : room.disconnect id = some next) :
    SessionsMove codec kinds room next := by
  unfold GatewayRoom.disconnect at h
  split at h
  · cases h
  · rename_i entry hentry
    split at h
    · cases h
      have hsession : room.session id = some entry.session := by
        unfold GatewayRoom.session
        rw [hentry]
        rfl
      exact (sessionsMove_setSession hsession (.one .stop hkind rfl)).trans (.of_sessions (session_unlist _ _))
    · cases h

/-- An event at the sockets of a session is an event of that session and of no other. -/
theorem socketEvent_cases {room next : GatewayRoom limits} {id : Nat} {event : SocketEvent}
    (h : room.socketEvent codec id event = some next) :
    ∃ session after, room.session id = some session ∧ session.socketStep codec event = some after ∧
      (∀ other, next.session other = if other = id then some after else room.session other) ∧
      next.registry = room.registry ∧ next.preparation = room.preparation ∧ next.verification = room.verification ∧
      next.operations = room.operations ∧ next.cutovers = room.cutovers := by
  unfold GatewayRoom.socketEvent at h
  split at h
  · cases h
  · rename_i entry hentry
    have hsession : room.session id = some entry.session := by
      unfold GatewayRoom.session
      rw [hentry]
      rfl
    split at h
    · cases h
    · obtain ⟨after, hafter, rfl⟩ := Option.map_eq_some_iff.1 h
      have hset : ∀ other, (room.setSession id after).session other =
          if other = id then some after else room.session other := by
        intro other
        rw [session_setSession]
        split
        · rename_i heq
          rw [heq, hsession]
          rfl
        · rfl
      refine ⟨entry.session, after, hsession, hafter, ?_⟩
      split
      · exact ⟨fun other => (session_unlist ..).trans (hset other), rfl, rfl, rfl, rfl, rfl⟩
      · exact ⟨hset, rfl, rfl, rfl, rfl, rfl⟩

theorem sessionsMove_socketEvent {room next : GatewayRoom limits} {id : Nat} {event : SocketEvent}
    (hkind : kinds (.socket event)) (h : room.socketEvent codec id event = some next) :
    SessionsMove codec kinds room next := by
  obtain ⟨session, after, hsession, hafter, hset, -⟩ := socketEvent_cases h
  refine .trans (sessionsMove_setSession hsession (.one (.socket event) hkind hafter)) (.of_sessions fun other => ?_)
  rw [hset, session_setSession]
  split
  · rename_i heq
    rw [heq, hsession]
    rfl
  · rfl

/-- In a step each session of the room moves as the event makes it, and a new one has just been started on the route of
the room. -/
theorem session_step {room next : GatewayRoom limits} {event : RoomEvent}
    (hs : room.step urls codec settings event = some next) :
    SessionsMove codec event.Makes room next ∨ (∀ id, id < room.sessions.length → next.session id = room.session id) ∧
      ∀ id session, room.sessions.length ≤ id → next.session id = some session →
        ∃ route, room.route settings = some route ∧ session = .start route := by
  rcases step_cases hs with ⟨i, result, rfl, hresume, rfl⟩ | ⟨-, hevent⟩
  · exact Or.inl (sessionsMove_resume (Or.inl rfl) (fun _ _ route _ => Or.inr (Or.inl ⟨route, rfl⟩))
      (Or.inr (Or.inr rfl)) hresume)
  cases event with
  | resume i => cases hevent
  | connect =>
    simp only [eventStep] at hevent
    unfold GatewayRoom.connect at hevent
    split at hevent
    · cases hevent
    rename_i route hroute
    split at hevent
    · cases hevent
    · cases hevent
      unfold GatewayRoom.session
      dsimp only
      refine Or.inr ⟨fun id hid => by rw [List.getElem?_append_left hid], fun id session hid hsession => ?_⟩
      rw [List.getElem?_append_right hid] at hsession
      obtain ⟨entry, hentry, rfl⟩ := Option.map_eq_some_iff.1 hsession
      rw [List.mem_singleton.1 (List.mem_of_getElem? hentry)]
      exact ⟨route, hroute, rfl⟩
  | disconnect id =>
    refine Or.inl (sessionsMove_disconnect ?_ hevent)
    rfl
  | socket id event => exact Or.inl (sessionsMove_socketEvent rfl hevent)
  | freeze operationId expectedEpoch supersedesOperationId =>
    cases hevent
    exact Or.inl (sessionsMove_freezeRoom (Or.inl rfl) (Or.inr rfl) ..)
  | abort operationId =>
    cases hevent
    refine Or.inl (sessionsMove_abortRoomPreparation ?_ ..)
    rfl
  | timeout =>
    obtain ⟨preparation, -, rfl⟩ := Option.map_eq_some_iff.1 hevent
    refine Or.inl (sessionsMove_abortRoomPreparation ?_ ..)
    rfl
  | cutover request =>
    cases hevent
    exact Or.inl (sessionsMove_cutover (fun route => Or.inl ⟨route, rfl⟩) (Or.inr rfl) ..)
  | finalize operationId stale =>
    cases hevent
    refine Or.inl (sessionsMove_finalizeRoomVerification ?_ ..)
    rfl
  | register endpoint epoch =>
    cases hevent
    exact Or.inl (.of_sessions fun _ => rfl)
  | reconcile endpoint epoch =>
    cases hevent
    unfold GatewayRoom.reconcile
    repeat' split
    all_goals exact Or.inl (.of_sessions fun _ => rfl)
  | reconciled i confirmed =>
    simp only [eventStep] at hevent
    unfold GatewayRoom.reconciled at hevent
    split at hevent
    · cases hevent
    split at hevent
    all_goals
      cases hevent
      exact Or.inl (.of_sessions fun _ => rfl)

/-- In a step the sessions keep what a new session has, what the event at a socket keeps for its session, and what every
call keeps for every session; a commit is to the route that a swap has given. -/
theorem sessions_step {I : Nat → GatewaySession limits → Prop} {room next : GatewayRoom limits} {event : RoomEvent}
    (hbefore : ∀ id session, room.session id = some session → I id session)
    (hstart : ∀ id route, room.route settings = some route → I id (.start route))
    (hsocket : ∀ id made session after, event = .socket id made → room.session id = some session →
      session.socketStep codec made = some after → I id after)
    (hcall : ∀ id session made after, (∀ socket, made ≠ .socket socket) →
      (∀ route, made = .commitPrepared route → ∃ i, event = .resume i ∧
        ∃ call ∈ room.cutovers[i]?, (swap urls settings room call.request).2 = .ok route) →
      I id session → session.step codec made = some after → I id after)
    (hs : room.step urls codec settings event = some next) :
    ∀ id session, next.session id = some session → I id session := by
  have hmoves : ∀ {kinds : GatewaySessionEvent → Prop}, SessionsMove codec kinds room next →
      (∀ id session made after, kinds made → I id session → session.step codec made = some after → I id after) →
      ∀ id session, next.session id = some session → I id session := by
    intro kinds hmove hkinds id session hsession
    cases hfirst : room.session id with
    | none =>
      rw [hmove.absent id hfirst] at hsession
      cases hsession
    | some first =>
      obtain ⟨moved, hmoved, hmoves⟩ := hmove.moved id first hfirst
      cases hsession.symm.trans hmoved
      exact hmoves.keeps (I := I id) (fun session made after hkind hkept hmade =>
        hkinds id session made after hkind hkept hmade) (hbefore id first hfirst)
  by_cases hresume : ∃ i, event = .resume i
  · obtain ⟨i, rfl⟩ := hresume
    rcases step_cases hs with ⟨j, result, heq, hresume, rfl⟩ | ⟨-, hevent⟩
    · cases heq
      refine @hmoves (fun made => (∀ socket, made ≠ .socket socket) ∧
        ∀ route, made = .commitPrepared route →
          ∃ call ∈ room.cutovers[i]?, (swap urls settings room call.request).2 = .ok route)
        (sessionsMove_resume ⟨nofun, nofun⟩ ?_ ⟨nofun, nofun⟩ hresume)
        fun id session made after hkind => hcall id session made after hkind.1 fun route heq =>
          ⟨i, rfl, hkind.2 route heq⟩
      rintro call hcall route hroute
      refine ⟨nofun, ?_⟩
      rintro route' ⟨⟩
      exact ⟨call, hcall, hroute⟩
    · cases hevent
  by_cases hmade : ∃ id made, event = .socket id made
  · obtain ⟨id, made, rfl⟩ := hmade
    rcases step_cases hs with ⟨i, result, heq, -⟩ | ⟨-, hevent⟩
    · cases heq
    obtain ⟨session, after, hsession, hafter, hset, -⟩ := socketEvent_cases hevent
    intro other moved hmoved
    rw [hset] at hmoved
    split at hmoved
    · rename_i heq
      cases hmoved
      rw [heq]
      exact hsocket id made session after rfl hsession hafter
    · exact hbefore other moved hmoved
  · rcases session_step hs with hmove | ⟨hold, hnew⟩
    · refine hmoves hmove fun id session made after hkind => hcall id session made after ?_ ?_
      · rintro socket rfl
        cases event with
        | socket id event => exact hmade ⟨id, event, rfl⟩
        | resume i => exact hresume ⟨i, rfl⟩
        | disconnect | abort | timeout | finalize => cases hkind
        | freeze => rcases hkind with hkind | hkind <;> cases hkind
        | cutover => rcases hkind with ⟨route, hkind⟩ | hkind <;> cases hkind
        | connect | register | reconcile | reconciled => exact hkind
      · rintro route rfl
        cases event with
        | socket id event => exact absurd ⟨id, event, rfl⟩ hmade
        | resume i => exact absurd ⟨i, rfl⟩ hresume
        | disconnect | abort | timeout | finalize => cases hkind
        | freeze => rcases hkind with hkind | hkind <;> cases hkind
        | cutover => rcases hkind with ⟨route, hkind⟩ | hkind <;> cases hkind
        | connect | register | reconcile | reconciled => exact hkind.elim
    · intro id session hsession
      by_cases hid : id < room.sessions.length
      · exact hbefore id session ((hold id hid).symm.trans hsession)
      · obtain ⟨route, hroute, rfl⟩ := hnew id session (by omega) hsession
        exact hstart id route hroute

/-- What every session has at its start and keeps at its steps, every session has in every room that is reached. -/
theorem sessions_keep {I : GatewaySession limits → Prop} (hstart : ∀ route, I (.start route))
    (hstep : ∀ session event next, I session → session.step codec event = some next → I next)
    {room last : GatewayRoom limits} {events : List RoomEvent}
    (hinit : ∀ id session, room.session id = some session → I session)
    (hrun : Machine.runFrom (step urls codec settings) room events = some last) :
    ∀ id session, last.session id = some session → I session := by
  have hroom : ∀ (before : GatewayRoom limits) event after,
      (∀ id session, before.session id = some session → I session) →
      before.step urls codec settings event = some after →
      ∀ id session, after.session id = some session → I session := by
    intro before event after hbefore hs
    refine sessions_step (I := fun _ => I) hbefore (fun _ route _ => hstart route) ?_ ?_ hs
    · exact fun id made session after _ hsession hmade =>
        hstep session (.socket made) after (hbefore id session hsession) hmade
    · exact fun _ session made after _ _ => hstep session made after
  exact Machine.invariant_of_step hroom hinit hrun

end GatewayRoom

end Opsia
