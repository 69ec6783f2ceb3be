import Opsia.Gateway.JoinMsg
import Opsia.Gateway.Rooms

/-!
# The message handler

Every message of a browser goes to the `receive` of its session.  The handler catches nothing, and `receive` reads and
sends the join outside its `try`: an exception there leaves the handler.  It does so exactly for a join that is cut off,
and for a join that is admitted while the current upstream is open with an epoch that no frame can carry
(`deliverAll_iff`).  Whatever happens, no other session changes (`deliver_other`).
-/

namespace Opsia

open Json

variable {limits : GatewayLimits}

/-! ### The call and its exception -/

namespace GatewaySession

/-- The join of `receive` that the admissions let through: it is kept, and sent if the current upstream is open. -/
def recordJoin (session : GatewaySession limits) (payload : Payload) : GatewaySession limits × Option String :=
  let session := { session with initialJoin := some payload }
  match session.current, session.currentUpstream with
  | some i, some connection =>
    if connection.readyState = .opened then
      match connection.sendInput payload 0 session.clientTick with
      | .error message => (session, some message)
      | .ok connection => (session.setUpstream i connection, none)
    else (session, none)
  | _, _ => (session, none)

/-- `receive`, with what it throws. -/
def receiveCall (codec : GatewayJoinCodec) (session : GatewaySession limits) (payload : Payload) (admitted : Bool) :
    GatewaySession limits × Option String :=
  if session.stopped then (session, none)
  else if session.initialJoin.isNone then
    match codec.readGatewayJoin payload with
    | .error message => (session, some message)
    | .ok none => (session.receiveInput payload, none)
    | .ok (some _) =>
      if admitted = false then ((session.endDownstream 1008 "gateway_session_identity_mismatch").stop, none)
      else session.recordJoin payload
  else (session.receiveInput payload, none)

/-- The session of a call is the one that `receive` leaves. -/
theorem receiveCall_fst (codec : GatewayJoinCodec) (session : GatewaySession limits) (payload : Payload)
    (admitted : Bool) : (session.receiveCall codec payload admitted).1 = session.receive codec payload admitted := by
  unfold receiveCall receive
  split
  · rfl
  split
  · cases codec.readGatewayJoin payload with
    | error message => rfl
    | ok template =>
      cases template with
      | none => rfl
      | some token =>
        dsimp only
        split
        · rfl
        · unfold recordJoin
          dsimp only
          generalize ({ session with initialJoin := some payload } : GatewaySession limits) = joined
          cases session.current with
          | none => rfl
          | some i =>
            cases joined.currentUpstream with
            | none => rfl
            | some connection =>
              dsimp only
              split
              · cases connection.sendInput payload 0 session.clientTick <;> rfl
              · rfl
  · rfl

end GatewaySession

/-- What a call of `receive` that returns has done. -/
inductive ReceiveOutcome
  | ignored
  | joined
  | buffered
  | closed
deriving DecidableEq

namespace GatewaySession

/-- Inputs go on to the room: the session is not frozen and its current upstream is open. -/
def Forwards (session : GatewaySession limits) : Prop :=
  session.frozen = false ∧ ∃ connection ∈ session.currentUpstream, connection.readyState = .opened

/-- The entry has gone out through the current upstream, and nothing else has. -/
def SentOn (session next : GatewaySession limits) (entry : BufferedGatewayInput) : Prop :=
  ∃ i connection frame, session.current = some i ∧ session.upstream i = some connection ∧
    frame.payload = entry.payload ∧ frame.inputSequence = entry.sequence ∧
    next.upstreams = session.upstreams.set i { connection with
      sent := connection.sent ++ [frame], sentThroughSequence := entry.sequence }

/-- What a call has done to the session, outcome by outcome. -/
def Did (session : GatewaySession limits) (payload : Payload) (next : GatewaySession limits) : ReceiveOutcome → Prop
  | .ignored => session.stopped = true ∧ next = session
  | .joined =>
    session.stopped = false ∧ next.stopped = false ∧ session.initialJoin = none ∧ next.initialJoin = some payload ∧
      next.inputs = session.inputs ∧ next.ended = session.ended
  | .buffered =>
    session.stopped = false ∧ next.stopped = false ∧ next.initialJoin = session.initialJoin ∧
      next.ended = session.ended ∧ ∃ entry, session.inputs.push payload = .ok (entry, next.inputs) ∧
        (session.Forwards → SentOn session next entry) ∧ (¬session.Forwards → next.upstreams = session.upstreams)
  | .closed =>
    session.stopped = false ∧ next.stopped = true ∧ ∃ code reason, next.ended = session.ended ++ [(code, reason)]

/-- The outcome of a call can be told from the two sessions, so there is at most one. -/
theorem Did.eq {session next : GatewaySession limits} {payload : Payload} {outcome : ReceiveOutcome}
    (h : session.Did payload next outcome) :
    outcome = if session.stopped then .ignored else if next.stopped then .closed
      else if next.initialJoin = session.initialJoin then .buffered else .joined := by
  cases outcome with
  | ignored => rw [if_pos h.1]
  | joined =>
    obtain ⟨hstopped, hstopped', hnone, hsome, -⟩ := h
    simp [hstopped, hstopped', hnone, hsome]
  | buffered =>
    obtain ⟨hstopped, hstopped', hjoin, -⟩ := h
    simp [hstopped, hstopped', hjoin]
  | closed =>
    obtain ⟨hstopped, hstopped', -⟩ := h
    simp [hstopped, hstopped']

/-! ### An input -/

theorem stopped_stop (session : GatewaySession limits) : session.stop.stopped = true := by
  unfold stop
  split
  · assumption
  · rfl

theorem ended_stop (session : GatewaySession limits) : session.stop.ended = session.ended := by
  unfold stop
  split
  · rfl
  · unfold closeUpstream
    split <;> split <;> rfl

theorem did_closed {session before : GatewaySession limits} {payload : Payload} (hstopped : session.stopped = false)
    (hended : before.ended = session.ended) (code : ℕ) (reason : String) :
    session.Did payload (before.endDownstream code reason).stop .closed := by
  refine ⟨hstopped, stopped_stop _, code, reason, ?_⟩
  rw [ended_stop, ← hended]
  rfl

theorem did_overflow {session before : GatewaySession limits} {payload : Payload} (hstopped : session.stopped = false)
    (hended : before.ended = session.ended) : session.Did payload before.overflow .closed :=
  did_closed hstopped hended 1013 "gateway_input_buffer_overflow"

/-- Keeping an entry for a rollback changes only what is kept. -/
theorem retainForRollback_frame {session next : GatewaySession limits} {entry : BufferedGatewayInput}
    (h : session.retainForRollback entry = .ok next) :
    ∃ shadow bytes, next = { session with verificationShadow := shadow, verificationShadowBytes := bytes } := by
  unfold retainForRollback at h
  split at h
  · cases h
    exact ⟨_, _, rfl⟩
  · split at h
    · cases h
    · split at h
      · cases h
      · cases h
        exact ⟨_, _, rfl⟩

theorem sendInput_frame {upstream sent : UpstreamConnection} {payload : Payload} {inputSequence clientTick : ℕ}
    (hopen : upstream.readyState = .opened) (h : upstream.sendInput payload inputSequence clientTick = .ok sent) :
    ∃ frame : GatewayInputFrame, frame.payload = payload ∧ frame.inputSequence = inputSequence ∧
      sent = { upstream with sent := upstream.sent ++ [frame] } := by
  unfold UpstreamConnection.sendInput encodeGatewayInput at h
  split at h
  · cases h
  · rename_i frame hframe
    split at hframe
    · cases hframe
      rw [if_pos hopen] at h
      cases h
      exact ⟨_, rfl, rfl, rfl⟩
    · cases hframe

/-- An input of a session that has not stopped is buffered, and forwarded when the session is live, or ends it. -/
theorem receiveInput_did {session : GatewaySession limits} (hstopped : session.stopped = false) (payload : Payload) :
    ∃ outcome, session.Did payload (session.receiveInput payload) outcome := by
  unfold receiveInput
  cases hpush : session.inputs.push payload with
  | error message => exact ⟨.closed, did_overflow hstopped rfl⟩
  | ok result =>
    obtain ⟨entry, inputs⟩ := result
    dsimp only
    cases hretain : (if session.verificationActive = true then
        ({ session with inputs, clientTick := (session.clientTick + 1) % 4294967296 }).retainForRollback entry
      else .ok { session with inputs, clientTick := (session.clientTick + 1) % 4294967296 }) with
    | error message => exact ⟨.closed, did_overflow hstopped rfl⟩
    | ok retained =>
      obtain ⟨shadow, bytes, rfl⟩ : ∃ shadow bytes, retained = { session with
          inputs, clientTick := (session.clientTick + 1) % 4294967296,
          verificationShadow := shadow, verificationShadowBytes := bytes } := by
        split at hretain
        · exact retainForRollback_frame hretain
        · cases hretain
          exact ⟨_, _, rfl⟩
      dsimp only
      split
      · rename_i i connection hfrozen hcurrent hconnection
        have hupstream : session.upstream i = some connection := by
          unfold currentUpstream at hconnection
          dsimp only at hcurrent hconnection
          rw [hcurrent] at hconnection
          exact hconnection
        split
        · rename_i hopen
          have hlive : session.Forwards := ⟨hfrozen, connection, hconnection, hopen⟩
          split
          · exact ⟨.closed, did_overflow hstopped rfl⟩
          · rename_i sent hsend
            obtain ⟨frame, hframe, hsequence, rfl⟩ := sendInput_frame hopen hsend
            exact ⟨.buffered, hstopped, hstopped, rfl, rfl, entry, hpush,
              fun _ => ⟨i, connection, frame, hcurrent, hupstream, hframe, hsequence, rfl⟩,
              fun hnot => absurd hlive hnot⟩
        · rename_i hshut
          refine ⟨.buffered, hstopped, hstopped, rfl, rfl, entry, hpush, fun ⟨_, other, hother, hopen⟩ => ?_, fun _ => rfl⟩
          rw [show session.currentUpstream = some connection from hconnection] at hother
          cases hother
          exact absurd hopen hshut
      · rename_i hnone
        refine ⟨.buffered, hstopped, hstopped, rfl, rfl, entry, hpush, fun ⟨hfrozen, other, hother, _⟩ => ?_, fun _ => rfl⟩
        obtain ⟨i, hi, -⟩ := Option.bind_eq_some_iff.1 hother
        exact (hnone i other hfrozen hi hother).elim

/-! ### A join -/

/-- The current upstream is open, and its epoch does not fit the frames. -/
def EpochUnfit (session : GatewaySession limits) : Prop :=
  ∃ connection ∈ session.currentUpstream, connection.readyState = .opened ∧ safeUint32 connection.epoch = none

/-- Recording a join throws exactly for an epoch that no frame can carry; else the join is recorded. -/
theorem recordJoin_spec {session : GatewaySession limits} (hstopped : session.stopped = false)
    (hjoin : session.initialJoin = none) (payload : Payload) :
    (session.EpochUnfit → (session.recordJoin payload).2 ≠ none) ∧
      (¬session.EpochUnfit → (session.recordJoin payload).2 = none ∧
        session.Did payload (session.recordJoin payload).1 .joined) := by
  unfold recordJoin EpochUnfit
  dsimp only
  split
  · rename_i i connection hcurrent hconnection
    have hcurrentUpstream : session.currentUpstream = some connection := hconnection
    rw [hcurrentUpstream]
    split
    · rename_i hopen
      cases hepoch : safeUint32 connection.epoch with
      | none =>
        refine ⟨fun _ => ?_, fun hfit => absurd ⟨connection, rfl, hopen, hepoch⟩ hfit⟩
        unfold UpstreamConnection.sendInput encodeGatewayInput
        rw [hepoch]
        exact fun h => nomatch h
      | some epoch =>
        refine ⟨fun ⟨other, hother, _, hnone⟩ => ?_, fun _ => ?_⟩
        · cases hother
          rw [hepoch] at hnone
          cases hnone
        · unfold UpstreamConnection.sendInput encodeGatewayInput
          rw [hepoch]
          dsimp only
          rw [if_pos hopen]
          exact ⟨rfl, hstopped, hstopped, hjoin, rfl, rfl, rfl⟩
    · rename_i hshut
      refine ⟨fun ⟨other, hother, hopen, _⟩ => ?_, fun _ => ⟨rfl, hstopped, hstopped, hjoin, rfl, rfl, rfl⟩⟩
      cases hother
      exact absurd hopen hshut
  · rename_i hnone
    refine ⟨fun ⟨other, hother, _⟩ => ?_, fun _ => ⟨rfl, hstopped, hstopped, hjoin, rfl, rfl, rfl⟩⟩
    obtain ⟨i, hi, -⟩ := Option.bind_eq_some_iff.1 hother
    exact (hnone i other hi hother).elim

/-- What makes `receive` throw: a first message that says it is a join and is cut off, or is admitted when it cannot be
sent. -/
def Throws (maxArguments : ℕ) (session : GatewaySession limits) (payload : Payload) (admitted : Bool) : Prop :=
  session.stopped = false ∧ session.initialJoin = none ∧ payload.head? = some 1 ∧
    (¬JoinFits maxArguments payload ∨ admitted = true ∧ session.EpochUnfit)

/-- `receive` throws exactly then, and otherwise it has done exactly one of its four things. -/
theorem receiveCall_iff {register : GameObjectRegister} {maxArguments : ℕ} (hmax : PlayerNameMaxLen ≤ maxArguments)
    (session : GatewaySession limits) (payload : Payload) (admitted : Bool) :
    (session.Throws maxArguments payload admitted →
      (session.receiveCall (gatewayJoinCodec register maxArguments) payload admitted).2 ≠ none) ∧
    (¬session.Throws maxArguments payload admitted →
      (session.receiveCall (gatewayJoinCodec register maxArguments) payload admitted).2 = none ∧
        ∃! outcome, session.Did payload
          (session.receiveCall (gatewayJoinCodec register maxArguments) payload admitted).1 outcome) := by
  have hunique {next : GatewaySession limits} (h : ∃ outcome, session.Did payload next outcome) :
      ∃! outcome, session.Did payload next outcome := by
    obtain ⟨outcome, hdid⟩ := h
    exact ⟨outcome, hdid, fun other hother => hother.eq.trans hdid.eq.symm⟩
  unfold receiveCall Throws
  by_cases hstopped : session.stopped = true
  · rw [if_pos hstopped]
    refine ⟨fun h => ?_, fun _ => ⟨rfl, hunique ⟨.ignored, hstopped, rfl⟩⟩⟩
    rw [hstopped] at h
    cases h.1
  have hstopped : session.stopped = false := by simpa using hstopped
  rw [if_neg (by simp [hstopped])]
  cases hjoin : session.initialJoin with
  | some join =>
    rw [Option.isNone_some, if_neg (by decide)]
    exact ⟨fun h => (nomatch h.2.1), fun _ => ⟨rfl, hunique (receiveInput_did hstopped payload)⟩⟩
  | none =>
    rw [Option.isNone_none, if_pos rfl]
    unfold gatewayJoinCodec
    dsimp only
    by_cases htype : payload.head? = some 1
    · obtain ⟨hfits, hcut⟩ := readGatewayJoin_of_join register hmax htype
      by_cases hjoinFits : JoinFits maxArguments payload
      · obtain ⟨template, -, hread⟩ := hfits hjoinFits
        rw [hread]
        dsimp only [Except.map, Option.map_some]
        obtain ⟨hthrows, hrecords⟩ := recordJoin_spec hstopped hjoin payload
        cases admitted with
        | false =>
          rw [if_pos rfl]
          refine ⟨fun h => ?_, fun _ => ⟨rfl, hunique ⟨.closed, did_closed hstopped rfl _ _⟩⟩⟩
          rcases h.2.2.2 with hnot | ⟨hfalse, _⟩
          · exact absurd hjoinFits hnot
          · cases hfalse
        | true =>
          rw [if_neg (by decide)]
          refine ⟨fun h => hthrows ?_, fun h => ?_⟩
          · rcases h.2.2.2 with hnot | ⟨_, hunfit⟩
            · exact absurd hjoinFits hnot
            · exact hunfit
          · obtain ⟨hnone, hdid⟩ := hrecords fun hunfit => h ⟨hstopped, rfl, htype, Or.inr ⟨rfl, hunfit⟩⟩
            exact ⟨hnone, hunique ⟨.joined, hdid⟩⟩
      · obtain ⟨message, hread⟩ := hcut hjoinFits
        rw [hread]
        exact ⟨fun _ h => (nomatch h), fun h => absurd ⟨hstopped, rfl, htype, Or.inl hjoinFits⟩ h⟩
    · rw [readGatewayJoin_of_other htype]
      exact ⟨fun h => absurd h.2.2.1 htype, fun _ => ⟨rfl, hunique (receiveInput_did hstopped payload)⟩⟩

end GatewaySession

/-! ### The handler -/

/-- A message of the browser of a session, with the answer that the admissions have for it. -/
structure Delivery where
  sessionId : ℕ
  payload : Payload
  admitted : Bool
deriving DecidableEq

namespace GatewayRoom

variable (codec : GatewayJoinCodec)

/-- The `message` handler: `sessions.get(id)?.receive(payload)`, with what it throws. -/
def deliver (room : GatewayRoom limits) (delivery : Delivery) : GatewayRoom limits × Option String :=
  match room.sessions[delivery.sessionId]? with
  | none => (room, none)
  | some entry =>
    if entry.listed then
      let (session, thrown) := entry.session.receiveCall codec delivery.payload delivery.admitted
      (room.setSession delivery.sessionId session, thrown)
    else (room, none)

/-- The handler has returned, the session has done exactly one of the four things, and no other one has changed. -/
def Handles (room : GatewayRoom limits) (delivery : Delivery) : Prop :=
  (room.deliver codec delivery).2 = none ∧
    (∀ entry, room.sessions[delivery.sessionId]? = some entry → entry.listed = true →
      ∃ session, (room.deliver codec delivery).1.session delivery.sessionId = some session ∧
        ∃! outcome, entry.session.Did delivery.payload session outcome) ∧
    ∀ id ≠ delivery.sessionId, (room.deliver codec delivery).1.sessions[id]? = room.sessions[id]?

/-- One message after the other, and each of them is handled. -/
def HandlesAll (room : GatewayRoom limits) : List Delivery → Prop
  | [] => True
  | delivery :: deliveries => room.Handles codec delivery ∧ HandlesAll (room.deliver codec delivery).1 deliveries

/-- The message meets no session, or one whose `receive` does not throw. -/
def Spares (maxArguments : ℕ) (room : GatewayRoom limits) (delivery : Delivery) : Prop :=
  ∀ entry, room.sessions[delivery.sessionId]? = some entry → entry.listed = true →
    ¬entry.session.Throws maxArguments delivery.payload delivery.admitted

/-- One message after the other, and none of them makes its session throw. -/
def SparesAll (maxArguments : ℕ) (room : GatewayRoom limits) : List Delivery → Prop
  | [] => True
  | delivery :: deliveries =>
    room.Spares maxArguments delivery ∧ SparesAll maxArguments (room.deliver codec delivery).1 deliveries

variable {codec}

/-- No other session changes, also when the handler throws. -/
theorem deliver_other (room : GatewayRoom limits) (delivery : Delivery) {id : ℕ} (hne : id ≠ delivery.sessionId) :
    (room.deliver codec delivery).1.sessions[id]? = room.sessions[id]? := by
  unfold deliver
  split
  · rfl
  · split
    · unfold setSession
      dsimp only
      exact List.getElem?_modify_ne _ _ (Ne.symm hne)
    · rfl

/-- What the handler does to a session that its map holds. -/
theorem deliver_listed {room : GatewayRoom limits} {delivery : Delivery} {entry : RoomSession limits}
    (hentry : room.sessions[delivery.sessionId]? = some entry) (hlisted : entry.listed = true) :
    (room.deliver codec delivery).2 = (entry.session.receiveCall codec delivery.payload delivery.admitted).2 ∧
      (room.deliver codec delivery).1.session delivery.sessionId =
        some (entry.session.receiveCall codec delivery.payload delivery.admitted).1 := by
  unfold deliver
  rw [hentry]
  dsimp only
  rw [if_pos hlisted]
  refine ⟨rfl, ?_⟩
  unfold GatewayRoom.session setSession
  dsimp only
  rw [List.getElem?_modify_eq, hentry]
  rfl

theorem handles_iff_spares {register : GameObjectRegister} {maxArguments : ℕ} (hmax : PlayerNameMaxLen ≤ maxArguments)
    (room : GatewayRoom limits) (delivery : Delivery) :
    room.Handles (gatewayJoinCodec register maxArguments) delivery ↔ room.Spares maxArguments delivery := by
  constructor
  · rintro ⟨hnone, -, -⟩ entry hentry hlisted hthrows
    rw [(deliver_listed hentry hlisted).1] at hnone
    exact (entry.session.receiveCall_iff hmax delivery.payload delivery.admitted).1 hthrows hnone
  · intro hspares
    refine ⟨?_, fun entry hentry hlisted => ?_, fun id hne => deliver_other room delivery hne⟩
    · cases hentry : room.sessions[delivery.sessionId]? with
      | none =>
        unfold deliver
        rw [hentry]
      | some entry =>
        cases hlisted : entry.listed with
        | false =>
          unfold deliver
          rw [hentry]
          dsimp only
          rw [if_neg (by simp [hlisted])]
        | true =>
          rw [(deliver_listed hentry hlisted).1]
          exact ((entry.session.receiveCall_iff hmax delivery.payload delivery.admitted).2
            (hspares entry hentry hlisted)).1
    · exact ⟨_, (deliver_listed hentry hlisted).2,
        ((entry.session.receiveCall_iff hmax delivery.payload delivery.admitted).2 (hspares entry hentry hlisted)).2⟩

/-- Whatever the state of a room, a sequence of messages is handled to its end exactly if none of them is a join that is
cut off, or an admitted join for an upstream whose epoch no frame can carry, before its session has a join. -/
theorem deliverAll_iff {register : GameObjectRegister} {maxArguments : ℕ} (hmax : PlayerNameMaxLen ≤ maxArguments)
    (room : GatewayRoom limits) (deliveries : List Delivery) :
    room.HandlesAll (gatewayJoinCodec register maxArguments) deliveries ↔
      room.SparesAll (gatewayJoinCodec register maxArguments) maxArguments deliveries := by
  induction deliveries generalizing room with
  | nil => exact Iff.rfl
  | cons delivery deliveries ih => exact and_congr (handles_iff_spares hmax room delivery) (ih _)

/-- A room with one session, whose browser has sent nothing yet. -/
def freshRoom : GatewayRoom
    { maxMessages := 4, maxBytes := 4096, one_le := GatewayLimits.one_le_four, kilobyte_le := by decide } where
  registry := .empty
  sessions := [{ session := .start { roomId := "room-1", endpoint := "ws://room-1", epoch := 1, revision := none } }]

/-- A complete join and an input after it are handled. -/
theorem freshRoom_handles_join :
    freshRoom.HandlesAll (gatewayJoinCodec sampleRegister 65536)
      [{ sessionId := 0, payload := sampleJoin 0xf8 0x1f, admitted := true },
        { sessionId := 0, payload := [3], admitted := false }] := by
  refine (deliverAll_iff (by decide) freshRoom _).2
    ⟨fun entry hentry _ ⟨_, _, _, hthrows⟩ => ?_, fun _ _ _ ⟨_, _, htype, _⟩ => absurd htype (by decide), trivial⟩
  obtain rfl : _ = entry := Option.some.inj hentry
  rcases hthrows with hcut | ⟨_, connection, hconnection, hopen, _⟩
  · exact hcut (by decide +kernel)
  · obtain rfl : _ = connection := Option.some.inj hconnection
    cases hopen

/-- A browser that sends the single byte 1 makes the handler throw. -/
theorem freshRoom_throws :
    (freshRoom.deliver (gatewayJoinCodec sampleRegister 65536)
      { sessionId := 0, payload := [1], admitted := true }).2 ≠ none := by
  rw [(deliver_listed rfl rfl).1]
  exact (GatewaySession.receiveCall_iff (by decide) _ _ _).1 ⟨rfl, rfl, rfl, Or.inl (by decide)⟩

end GatewayRoom

end Opsia
