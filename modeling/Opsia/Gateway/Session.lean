import Mathlib.Data.List.Sort
import Opsia.Gateway.Buffer
import Opsia.Gateway.Registry

/-!
# A gateway session

`GatewaySession` stands between one browser and the rooms that hold its player.  It has at most one current upstream
and at most one prepared upstream, buffers what the browser sends, and moves from one upstream to the other at a
cutover.  The connections a session has made are kept in a list, and `current` and `prepared` are positions in it: the
listeners of a connection outlive its use.

The methods are functions of the session.  What comes from outside (the browser, the sockets, the timers, the answer of
`find_game`) is a `SocketEvent`, handled by `socketStep`; an event that cannot happen gives `none`.  A socket that its
peer closes is closed by one event; `close` of our side leaves it closing until that event.  The text of the join
message is a parameter, and so is the answer of the join admissions.
-/

namespace Opsia

open Json BufferedGatewayInput

/-! ### Frames -/

structure GatewayInputFrame where
  roomEpoch : Nat
  inputSequence : Nat
  clientTick : Nat
  payload : Payload
deriving DecidableEq

/-- A frame of the gateway wire. -/
inductive GatewayWireFrame
  | input (frame : GatewayInputFrame)
  | ack (roomEpoch lastAckInputSequence serverTick : Nat)
  | output (roomEpoch serverTick : Nat) (payload : Payload)
deriving DecidableEq

/-- What `decodeGatewayFrame` makes of a message: it throws, finds no frame, or finds one. -/
inductive DecodedFrame
  | invalid
  | unframed
  | frame (frame : GatewayWireFrame)
deriving DecidableEq

/-- `safeUint32`: a number that fits 32 bits. -/
def safeUint32 (value : JsNumber) : Option Nat :=
  match value.safeNat? with
  | some ⟨n, _⟩ => if n ≤ 0xffffffff then some n else none
  | none => none

theorem safeUint32_ofNat (n : Nat) : safeUint32 (.ofNat n) = if n ≤ 0xffffffff then some n else none := by
  unfold safeUint32
  split
  · rename_i k _ hsafe
    have heq := JsNumber.eq_of_safeNat?_ofNat hsafe
    dsimp only at heq
    rw [heq]
  · rename_i hunsafe
    by_cases hle : n ≤ 9007199254740991
    · rw [JsNumber.safeNat?_ofNat ⟨n, hle⟩] at hunsafe
      cases hunsafe
    · rw [if_neg (by omega)]

theorem safeUint32_congr {x y : JsNumber} (h : x.strictEq y = true) : safeUint32 x = safeUint32 y := by
  rcases JsNumber.strictEq_iff.1 h with ⟨rfl, _⟩ | ⟨rfl, rfl⟩ | ⟨rfl, rfl⟩
  · rfl
  · rw [safeUint32_ofNat]
    rfl
  · rw [safeUint32_ofNat]
    rfl

/-- `encodeGatewayInput`.  The sequences and ticks of a session always fit their fields. -/
def encodeGatewayInput (roomEpoch : JsNumber) (inputSequence clientTick : Nat) (payload : Payload) :
    Except String GatewayInputFrame :=
  match safeUint32 roomEpoch with
  | some roomEpoch => .ok { roomEpoch, inputSequence, clientTick, payload }
  | none => .error "gateway_room_epoch_invalid"

/-- The message starts with the type of `Joined` or of `Map`. -/
def isGatewayResumeBootstrapFrame (payload : Payload) : Bool := payload.head? = some 5 || payload.head? = some 10

/-- The join message: `readGatewayJoin` finds one (and its match token), `writeGatewayJoin` makes the message of a
resumed session from the one the browser sent and a new token. -/
structure GatewayJoinCodec where
  readGatewayJoin : Payload → Except String (Option String)
  writeGatewayJoin : Payload → String → Except String Payload

/-! ### Connections -/

inductive ReadyState
  | connecting
  | opened
  | closing
  | closed
deriving DecidableEq

/-- Where the call that made a connection stands: it waits for the socket to open, for the first output, is done, or
has been rejected. -/
inductive UpstreamPhase
  | opening
  | awaiting
  | ready
  | failed (reason : String)
deriving DecidableEq

/-- What a connection made by `prepare` has on top of the others.  `token` is the match token, `listening` says that
the listeners of the second wait are there. -/
structure PreparedUpstream where
  token : String
  frames : List Payload := []
  committed : Bool := false
  listening : Bool := false
deriving DecidableEq

/-- A candidate keeps its first frames for the browser, without those of a bootstrap. -/
def PreparedUpstream.keep (candidate : PreparedUpstream) (payload : Payload) : PreparedUpstream :=
  if !isGatewayResumeBootstrapFrame payload && decide (candidate.frames.length < 16) then
    { candidate with frames := candidate.frames ++ [payload] }
  else candidate

/-- A connection to a room.  `sent` is what went out through its socket while it was open. -/
structure UpstreamConnection where
  endpoint : String
  epoch : JsNumber
  sentThroughSequence : Nat := 0
  readyState : ReadyState := .connecting
  sent : List GatewayInputFrame := []
  phase : UpstreamPhase := .opening
  candidate : Option PreparedUpstream := none
deriving DecidableEq

namespace UpstreamConnection

/-- `socket.close` -/
def close (upstream : UpstreamConnection) : UpstreamConnection :=
  match upstream.readyState with
  | .connecting | .opened => { upstream with readyState := .closing }
  | .closing | .closed => upstream

/-- `prepared.committed = true` -/
def commit (upstream : UpstreamConnection) : UpstreamConnection :=
  { upstream with candidate := upstream.candidate.map fun prepared => { prepared with committed := true } }

/-- The promise of the second wait is settled once. -/
def settle (upstream : UpstreamConnection) (phase : UpstreamPhase) : UpstreamConnection :=
  match upstream.phase with
  | .awaiting => { upstream with phase }
  | _ => upstream

def sendInput (upstream : UpstreamConnection) (payload : Payload) (inputSequence clientTick : Nat) :
    Except String UpstreamConnection :=
  match encodeGatewayInput upstream.epoch inputSequence clientTick payload with
  | .error message => .error message
  | .ok frame =>
    if upstream.readyState = .opened then .ok { upstream with sent := upstream.sent ++ [frame] } else .ok upstream

/-- `sendInput` for one entry after the other. -/
def sendInputs (upstream : UpstreamConnection) (entries : List BufferedGatewayInput) (clientTick : Nat) :
    Except String UpstreamConnection :=
  entries.foldlM (fun upstream entry => upstream.sendInput entry.payload entry.sequence clientTick) upstream

theorem sendInput_ok {upstream upstream' : UpstreamConnection} {payload : Payload} {inputSequence clientTick : Nat}
    (h : upstream.sendInput payload inputSequence clientTick = .ok upstream') :
    ∃ frames, upstream' = { upstream with sent := upstream.sent ++ frames } ∧
      (upstream.readyState = .opened → frames.map GatewayInputFrame.inputSequence = [inputSequence] ∧
        frames.map GatewayInputFrame.payload = [payload]) ∧ (upstream.readyState ≠ .opened → frames = []) := by
  unfold sendInput encodeGatewayInput at h
  split at h
  · cases h
  · rename_i frame hframe
    split at hframe
    · cases hframe
      split at h
      · cases h
        exact ⟨[_], rfl, fun _ => ⟨rfl, rfl⟩, fun hne => absurd ‹_› hne⟩
      · cases h
        exact ⟨[], by simp, fun hopen => absurd hopen ‹_›, fun _ => rfl⟩
    · cases hframe

theorem fits_of_sendInput {upstream upstream' : UpstreamConnection} {payload : Payload} {inputSequence clientTick : Nat}
    (h : upstream.sendInput payload inputSequence clientTick = .ok upstream') : safeUint32 upstream.epoch ≠ none := by
  intro hnone
  unfold sendInput encodeGatewayInput at h
  rw [hnone] at h
  cases h

/-- What goes out through an open socket is exactly the entries; nothing goes out through another one. -/
theorem sendInputs_ok {upstream upstream' : UpstreamConnection} {entries : List BufferedGatewayInput}
    {clientTick : Nat} (h : upstream.sendInputs entries clientTick = .ok upstream') :
    ∃ frames, upstream' = { upstream with sent := upstream.sent ++ frames } ∧
      (upstream.readyState = .opened → frames.map GatewayInputFrame.inputSequence = entries.map sequence ∧
        frames.map GatewayInputFrame.payload = entries.map BufferedGatewayInput.payload) ∧
      (upstream.readyState ≠ .opened → frames = []) := by
  unfold sendInputs at h
  induction entries generalizing upstream with
  | nil =>
    cases h
    exact ⟨[], by simp, fun _ => ⟨rfl, rfl⟩, fun _ => rfl⟩
  | cons entry entries ih =>
    rw [List.foldlM_cons] at h
    cases hfirst : upstream.sendInput entry.payload entry.sequence clientTick with
    | error message =>
      rw [hfirst] at h
      cases h
    | ok middle =>
      rw [hfirst] at h
      obtain ⟨first, rfl, hopen, hshut⟩ := sendInput_ok hfirst
      obtain ⟨rest, rfl, hopen', hshut'⟩ := ih h
      refine ⟨first ++ rest, by simp, fun ho => ?_, fun hs => by rw [hshut hs, hshut' hs]; rfl⟩
      rw [List.map_append, List.map_append, (hopen ho).1, (hopen ho).2, (hopen' ho).1, (hopen' ho).2]
      exact ⟨rfl, rfl⟩

theorem sendInputs_of_fits {upstream : UpstreamConnection} {epoch : Nat} (h : safeUint32 upstream.epoch = some epoch)
    (entries : List BufferedGatewayInput) (clientTick : Nat) :
    ∃ upstream', upstream.sendInputs entries clientTick = .ok upstream' := by
  unfold sendInputs
  induction entries generalizing upstream with
  | nil => exact ⟨upstream, rfl⟩
  | cons entry entries ih =>
    have hfirst : ∃ middle, upstream.sendInput entry.payload entry.sequence clientTick = .ok middle := by
      unfold sendInput encodeGatewayInput
      rw [h]
      dsimp only
      split
      · exact ⟨_, rfl⟩
      · exact ⟨_, rfl⟩
    obtain ⟨middle, hmiddle⟩ := hfirst
    obtain ⟨frames, rfl, -⟩ := sendInput_ok hmiddle
    rw [List.foldlM_cons, hmiddle]
    exact ih h

theorem sendInputs_of_not_fits {upstream : UpstreamConnection} (h : safeUint32 upstream.epoch = none)
    {entries : List BufferedGatewayInput} (hne : entries ≠ []) (clientTick : Nat) :
    ∃ message, upstream.sendInputs entries clientTick = .error message := by
  obtain ⟨entry, entries, rfl⟩ := List.exists_cons_of_ne_nil hne
  refine ⟨"gateway_room_epoch_invalid", ?_⟩
  unfold sendInputs
  rw [List.foldlM_cons]
  unfold sendInput encodeGatewayInput
  rw [h]
  rfl

end UpstreamConnection

/-! ### The session -/

/-- How far a `prepare` that looks for a match has come. -/
inductive CandidateMatch
  | discovering
  | failed (reason : String)
  | connected (upstream : Nat)
deriving DecidableEq

structure PrepareCall where
  route : RouteArgument
  candidateMatch : CandidateMatch := .discovering

structure GatewaySession (limits : GatewayLimits) where
  inputs : BoundedGatewayInputBuffer limits
  upstreams : List UpstreamConnection
  current : Option Nat
  prepared : Option Nat := none
  initialJoin : Option Payload := none
  frozen : Bool := false
  stopped : Bool := false
  clientTick : Nat := 0
  verificationShadow : List BufferedGatewayInput := []
  verificationShadowBytes : Nat := 0
  verificationActive : Bool := false
  calls : List PrepareCall := []
  delivered : List Payload := []
  ended : List (Nat × String) := []

namespace GatewaySession

variable {limits : GatewayLimits}

/-- `start`, up to its first wait. -/
def start (route : GatewayRoomRoute) : GatewaySession limits where
  inputs := .empty
  upstreams := [{ endpoint := route.endpoint, epoch := .ofNat route.epoch }]
  current := some 0

def upstream (session : GatewaySession limits) (i : Nat) : Option UpstreamConnection := session.upstreams[i]?

def setUpstream (session : GatewaySession limits) (i : Nat) (upstream : UpstreamConnection) : GatewaySession limits :=
  { session with upstreams := session.upstreams.set i upstream }

/-- `connection?.socket.close` -/
def closeUpstream (session : GatewaySession limits) (connection : Option Nat) : GatewaySession limits :=
  match connection with
  | none => session
  | some i => { session with upstreams := session.upstreams.modify i UpstreamConnection.close }

def currentUpstream (session : GatewaySession limits) : Option UpstreamConnection :=
  session.current.bind session.upstream

def preparedUpstream (session : GatewaySession limits) : Option UpstreamConnection :=
  session.prepared.bind session.upstream

/-- The check that starts `prepare` and `commitPrepared`: the current upstream is the route's, and open. -/
def boundTo (session : GatewaySession limits) (endpoint : String) (epoch : JsNumber) : Bool :=
  match session.currentUpstream with
  | none => false
  | some upstream =>
    upstream.epoch.strictEq epoch && decide (upstream.endpoint = endpoint) && decide (upstream.readyState = .opened)

def stop (session : GatewaySession limits) : GatewaySession limits :=
  if session.stopped then session
  else
    { (session.closeUpstream session.current).closeUpstream session.prepared with
      stopped := true, current := none, prepared := none }

/-- `downstream.end` -/
def endDownstream (session : GatewaySession limits) (code : Nat) (reason : String) : GatewaySession limits :=
  { session with ended := session.ended ++ [(code, reason)] }

def flushInputs (session : GatewaySession limits) (i : Nat) : Except String (GatewaySession limits) :=
  match session.upstream i with
  | none => .ok session
  | some connection =>
    let replay := session.inputs.replayAfter connection.sentThroughSequence
    match connection.sendInputs replay session.clientTick with
    | .error message => .error message
    | .ok connection =>
      .ok (session.setUpstream i { connection with
        sentThroughSequence := (replay.getLast?.map sequence).getD connection.sentThroughSequence })

def retainForRollback (session : GatewaySession limits) (entry : BufferedGatewayInput) :
    Except String (GatewaySession limits) :=
  if session.verificationShadow.any fun candidate => candidate.sequence = entry.sequence then .ok session
  else if limits.maxMessages < session.verificationShadow.length + 1 then
    .error "gateway_verification_buffer_overflow:message_limit"
  else if limits.maxBytes < session.verificationShadowBytes + entry.bytes then
    .error "gateway_verification_buffer_overflow:byte_limit"
  else
    .ok { session with
      verificationShadow := session.verificationShadow ++ [entry]
      verificationShadowBytes := session.verificationShadowBytes + entry.bytes }

/-- `merged.set(entry.sequence, entry)`: a key that is there keeps its place. -/
def setEntry (merged : List BufferedGatewayInput) (entry : BufferedGatewayInput) : List BufferedGatewayInput :=
  if merged.any fun other => other.sequence = entry.sequence then
    merged.map fun other => if other.sequence = entry.sequence then entry else other
  else merged ++ [entry]

def mergeRollbackInputs (session : GatewaySession limits) (unacked : List BufferedGatewayInput) :
    List BufferedGatewayInput :=
  ((session.verificationShadow ++ unacked).foldl setEntry []).insertionSort fun left right =>
    left.sequence ≤ right.sequence

/-- The loop of `setRollbackInputs`, with the session as an exception leaves it. -/
def retainAll (session : GatewaySession limits) : List BufferedGatewayInput → GatewaySession limits × Except String Unit
  | [] => (session, .ok ())
  | entry :: entries =>
    match session.retainForRollback entry with
    | .error message => (session, .error message)
    | .ok session => retainAll session entries

def setRollbackInputs (session : GatewaySession limits) (entries : List BufferedGatewayInput) :
    GatewaySession limits × Except String Unit :=
  retainAll { session with verificationShadow := [], verificationShadowBytes := 0 } entries

/-! ### What the browser sends -/

/-- The handler of an exception while an input is taken. -/
def overflow (session : GatewaySession limits) : GatewaySession limits :=
  (session.endDownstream 1013 "gateway_input_buffer_overflow").stop

/-- The second half of `receive`: an input. -/
def receiveInput (session : GatewaySession limits) (payload : Payload) : GatewaySession limits :=
  match session.inputs.push payload with
  | .error _ => session.overflow
  | .ok (entry, inputs) =>
    let session := { session with inputs, clientTick := (session.clientTick + 1) % 4294967296 }
    match if session.verificationActive then session.retainForRollback entry else .ok session with
    | .error _ => session.overflow
    | .ok session =>
      match session.frozen, session.current, session.currentUpstream with
      | false, some i, some connection =>
        if connection.readyState = .opened then
          match connection.sendInput entry.payload entry.sequence session.clientTick with
          | .error _ => session.overflow
          | .ok connection => session.setUpstream i { connection with sentThroughSequence := entry.sequence }
        else session
      | _, _, _ => session

variable (codec : GatewayJoinCodec)

def receive (session : GatewaySession limits) (payload : Payload) (admitted : Bool) : GatewaySession limits :=
  if session.stopped then session
  else if session.initialJoin.isNone then
    match codec.readGatewayJoin payload with
    | .error _ => session
    | .ok none => session.receiveInput payload
    | .ok (some _) =>
      if admitted = false then (session.endDownstream 1008 "gateway_session_identity_mismatch").stop
      else
        let session := { session with initialJoin := some payload }
        match session.current, session.currentUpstream with
        | some i, some connection =>
          if connection.readyState = .opened then
            match connection.sendInput payload 0 session.clientTick with
            | .error _ => session
            | .ok connection => session.setUpstream i connection
          else session
        | _, _ => session
  else session.receiveInput payload

/-! ### The calls of a cutover -/

/-- What `prepare` returns: a promise that is settled already, or that waits for a match. -/
inductive PreparePromise
  | resolved
  | rejected (reason : String)
  | pending (call : Nat)
deriving DecidableEq

/-- `prepare`, up to its first wait. -/
def prepare (session : GatewaySession limits) (route : RouteArgument) : GatewaySession limits × PreparePromise :=
  if session.stopped then (session, .rejected "gateway_session_closed")
  else if session.initialJoin.isNone then (session, .rejected "gateway_join_not_observed")
  else if session.boundTo route.endpoint route.epoch then (session, .resolved)
  else
    match session.preparedUpstream with
    | some candidate =>
      if candidate.epoch.strictEq route.epoch && decide (candidate.endpoint = route.endpoint) then (session, .resolved)
      else (session, .rejected "gateway_candidate_already_prepared")
    | none => ({ session with calls := session.calls ++ [{ route }] }, .pending session.calls.length)

/-- The state of a promise: not settled, resolved, or rejected. -/
def outcome (session : GatewaySession limits) : PreparePromise → Option (Except String Unit)
  | .resolved => some (.ok ())
  | .rejected reason => some (.error reason)
  | .pending call =>
    match session.calls[call]? with
    | none => none
    | some prepareCall =>
      match prepareCall.candidateMatch with
      | .discovering => none
      | .failed reason => some (.error reason)
      | .connected i =>
        match session.upstream i with
        | none => none
        | some candidate =>
          match candidate.phase with
          | .opening | .awaiting => none
          | .ready => some (.ok ())
          | .failed reason => some (.error reason)

def freeze (session : GatewaySession limits) : GatewaySession limits := { session with frozen := true }

/-- The first half of `commitPrepared`: the candidate is the current upstream, the previous socket is closed and the
candidate's frames go to the browser. -/
def switchTo (session : GatewaySession limits) (i : Nat) (candidate : UpstreamConnection) : GatewaySession limits :=
  let frames := (candidate.candidate.map PreparedUpstream.frames).getD []
  let switched :=
    ({ session.setUpstream i candidate with current := some i, prepared := none }).closeUpstream session.current
  if session.stopped then switched else { switched with delivered := switched.delivered ++ frames }

/-- The second half of `commitPrepared`: the replay. -/
def replayTo (session : GatewaySession limits) (i : Nat) (candidate : UpstreamConnection) :
    GatewaySession limits × Except String Nat :=
  let replay := session.mergeRollbackInputs (session.inputs.replayAfter session.inputs.acknowledgedSequence)
  match candidate.sendInputs replay session.clientTick with
  | .error message => (session, .error message)
  | .ok candidate =>
    match (session.setUpstream i candidate).setRollbackInputs replay with
    | (loaded, .error message) => (loaded, .error message)
    | (loaded, .ok _) =>
      ({ loaded.setUpstream i { candidate with
            sentThroughSequence := (replay.getLast?.map sequence).getD loaded.inputs.lastAcknowledgedSequence } with
          verificationActive := true, frozen := false }, .ok replay.length)

def commitPrepared (session : GatewaySession limits) (route : GatewayRoomRoute) :
    GatewaySession limits × Except String Nat :=
  if session.boundTo route.endpoint (.ofNat route.epoch) then (session, .ok 0)
  else
    match session.prepared, session.preparedUpstream with
    | some i, some candidate =>
      if candidate.epoch.strictEq (.ofNat route.epoch) = false ∨ candidate.endpoint ≠ route.endpoint then
        (session, .error "gateway_candidate_route_conflict")
      else (session.switchTo i candidate.commit).replayTo i candidate.commit
    | _, _ => (session, .error "gateway_candidate_not_prepared")

/-- The guards of `commitPrepared` let the route through: the prepared upstream becomes the current one. -/
def GoesThrough (session : GatewaySession limits) (route : GatewayRoomRoute) : Prop :=
  session.boundTo route.endpoint (.ofNat route.epoch) = false ∧
    ∃ candidate ∈ session.preparedUpstream,
      candidate.epoch.strictEq (.ofNat route.epoch) = true ∧ candidate.endpoint = route.endpoint

theorem commitPrepared_of_not {session : GatewaySession limits} {route : GatewayRoomRoute}
    (h : ¬session.GoesThrough route) : (session.commitPrepared route).1 = session := by
  unfold commitPrepared
  split
  · rfl
  · rename_i hbound
    split
    · rename_i i candidate hprepared hcandidate
      split
      · rfl
      · rename_i hmatch
        refine absurd ⟨by simpa using hbound, candidate, hcandidate, ?_, ?_⟩ h
        · by_contra hne
          exact hmatch (Or.inl (by simpa using hne))
        · by_contra hne
          exact hmatch (Or.inr hne)
    · rfl

/-- A commit that goes through is a switch and a replay. -/
theorem commitPrepared_of_goesThrough {session : GatewaySession limits} {route : GatewayRoomRoute}
    (h : session.GoesThrough route) :
    ∃ i candidate, session.prepared = some i ∧ session.preparedUpstream = some candidate ∧
      i < session.upstreams.length ∧ candidate.epoch.strictEq (.ofNat route.epoch) = true ∧
      session.commitPrepared route = (session.switchTo i candidate.commit).replayTo i candidate.commit := by
  obtain ⟨hbound, candidate, hcandidate, hepoch, hendpoint⟩ := h
  obtain ⟨i, hprepared, hi⟩ := Option.bind_eq_some_iff.1 hcandidate
  refine ⟨i, candidate, hprepared, hcandidate, (List.getElem?_eq_some_iff.1 hi).1, hepoch, ?_⟩
  unfold commitPrepared
  rw [hbound, hprepared, show session.preparedUpstream = some candidate from hcandidate]
  dsimp only
  rw [if_neg (by decide), if_neg]
  rintro (hne | hne)
  · rw [hepoch] at hne
    cases hne
  · exact hne hendpoint

def abortPrepared (session : GatewaySession limits) : GatewaySession limits × Except String Unit :=
  let aborted := { session.closeUpstream session.prepared with prepared := none, frozen := false }
  match aborted.current with
  | none => (aborted, .ok ())
  | some i =>
    match aborted.flushInputs i with
    | .error message => (aborted, .error message)
    | .ok flushed => (flushed, .ok ())

def finalizeVerification (session : GatewaySession limits) : GatewaySession limits :=
  { session with verificationActive := false, verificationShadow := [], verificationShadowBytes := 0 }

structure Continuity where
  downstream : Bool
  upstream : Bool
  epoch : Bool

/-- `continuity` of a session whose browser has not gone. -/
def continuity (session : GatewaySession limits) (route : GatewayRoomRoute) : Continuity :=
  match session.currentUpstream with
  | none => { downstream := !session.stopped, upstream := false, epoch := false }
  | some connection =>
    { downstream := !session.stopped
      upstream := decide (connection.readyState = .opened) && decide (connection.endpoint = route.endpoint)
      epoch := connection.epoch.strictEq (.ofNat route.epoch) }

/-! ### What the sockets and the answers do -/

/-- The handler of a failed `start`. -/
def startFailed (session : GatewaySession limits) : GatewaySession limits :=
  if session.stopped then session else (session.endDownstream 1013 "gateway_upstream_unavailable").stop

/-- A connection has failed to open: the wait of the call that made it is rejected, and so is `start`. -/
def rejectOpening (session : GatewaySession limits) (i : Nat) (connection : UpstreamConnection) (reason : String) :
    GatewaySession limits :=
  let session := session.setUpstream i { connection with phase := .failed reason }
  match connection.candidate with
  | none => session.startFailed
  | some _ => session

/-- `start` goes on: the join, if the browser has sent it, and the inputs. -/
def startOpened (session : GatewaySession limits) (i : Nat) (connection : UpstreamConnection) : GatewaySession limits :=
  let joined : Except String UpstreamConnection :=
    match session.initialJoin with
    | none => .ok connection
    | some join => connection.sendInput join 0 session.clientTick
  match joined with
  | .error reason => session.rejectOpening i connection reason
  | .ok connection =>
    match (session.setUpstream i connection).flushInputs i with
    | .error reason => session.rejectOpening i connection reason
    | .ok flushed => flushed

/-- `prepare` goes on: the join with the new token, and the listeners of the second wait. -/
def candidateOpened (session : GatewaySession limits) (i : Nat) (connection : UpstreamConnection)
    (candidate : PreparedUpstream) : GatewaySession limits :=
  match codec.writeGatewayJoin (session.initialJoin.getD []) candidate.token with
  | .error reason => session.rejectOpening i connection reason
  | .ok join =>
    match connection.sendInput join 0 session.clientTick with
    | .error reason => session.rejectOpening i connection reason
    | .ok connection =>
      session.setUpstream i { connection with
        phase := .awaiting, candidate := some { candidate with listening := true } }

def opened (session : GatewaySession limits) (i : Nat) (connection : UpstreamConnection) : GatewaySession limits :=
  match connection.candidate with
  | none => session.startOpened i { connection with readyState := .opened, phase := .ready }
  | some candidate => session.candidateOpened codec i { connection with readyState := .opened } candidate

/-- A frame that the connection may not send ends the session. -/
def refuseFrame (session : GatewaySession limits) (reason : String) : GatewaySession limits :=
  (session.endDownstream 1011 reason).stop

/-- The `message` listener of `bindCurrent`. -/
def currentFrame (session : GatewaySession limits) (i : Nat) (connection : UpstreamConnection) (frame : DecodedFrame) :
    GatewaySession limits :=
  if session.stopped ∨ session.current ≠ some i then session
  else
    match frame with
    | .invalid => session.refuseFrame "invalid_upstream_gateway_frame"
    | .unframed => session.refuseFrame "unframed_upstream_gateway_output"
    | .frame (.ack roomEpoch lastAckInputSequence _) =>
      if (JsNumber.ofNat roomEpoch).strictEq connection.epoch then
        { session with inputs := session.inputs.acknowledge lastAckInputSequence }
      else session
    | .frame (.input _) => session.refuseFrame "upstream_gateway_output_epoch_mismatch"
    | .frame (.output roomEpoch _ payload) =>
      if (JsNumber.ofNat roomEpoch).strictEq connection.epoch then
        { session with delivered := session.delivered ++ [payload] }
      else session.refuseFrame "upstream_gateway_output_epoch_mismatch"

/-- A candidate sends a frame that it may not send: its wait is rejected and its socket closed. -/
def refuseCandidate (session : GatewaySession limits) (i : Nat) (connection : UpstreamConnection) (reason : String) :
    GatewaySession limits := session.setUpstream i (connection.settle (.failed reason)).close

/-- The `message` listener of `prepare`. -/
def candidateFrame (session : GatewaySession limits) (i : Nat) (connection : UpstreamConnection)
    (candidate : PreparedUpstream) (frame : DecodedFrame) : GatewaySession limits :=
  match frame with
  | .invalid => session.refuseCandidate i connection "gateway_candidate_wire_invalid"
  | .unframed => session.refuseCandidate i connection "gateway_candidate_output_unframed"
  | .frame (.ack roomEpoch lastAckInputSequence _) =>
    if (JsNumber.ofNat roomEpoch).strictEq connection.epoch then
      { session with inputs := session.inputs.acknowledge lastAckInputSequence }
    else session
  | .frame (.input _) => session.refuseCandidate i connection "gateway_candidate_output_epoch_mismatch"
  | .frame (.output roomEpoch _ payload) =>
    if (JsNumber.ofNat roomEpoch).strictEq connection.epoch = false then
      session.refuseCandidate i connection "gateway_candidate_output_epoch_mismatch"
    else
      let session := session.setUpstream i { connection.settle .ready with candidate := some (candidate.keep payload) }
      if candidate.committed && !isGatewayResumeBootstrapFrame payload && decide (session.current = some i) &&
          !session.stopped then
        { session with delivered := session.delivered ++ [payload] }
      else session

/-- The `close` listeners. -/
def closed (session : GatewaySession limits) (i : Nat) (connection : UpstreamConnection) : GatewaySession limits :=
  let connection := { connection with readyState := .closed }
  match connection.candidate with
  | none =>
    let session := session.setUpstream i connection
    if session.stopped ∨ session.current ≠ some i ∨ session.frozen then session
    else (session.endDownstream 1012 "active_upstream_closed").stop
  | some candidate =>
    if candidate.listening = false then session.setUpstream i connection
    else if candidate.committed then
      ((session.setUpstream i connection).endDownstream 1012 "active_upstream_closed").stop
    else session.setUpstream i (connection.settle (.failed "gateway_candidate_closed_before_ready"))

/-- The `error` listener of `prepare`, behind the first wait. -/
def errored (session : GatewaySession limits) (i : Nat) (connection : UpstreamConnection)
    (candidate : PreparedUpstream) : GatewaySession limits :=
  if candidate.committed then session
  else session.setUpstream i (connection.settle (.failed "gateway_candidate_failed_before_ready"))

/-- `prepare` goes on with a match: the candidate is the prepared upstream from here on, whatever was there. -/
def connectCandidate (session : GatewaySession limits) (call : Nat) (route : RouteArgument) (token : String) :
    GatewaySession limits :=
  { session with
    upstreams := session.upstreams ++
      [{ endpoint := route.endpoint, epoch := route.epoch, candidate := some { token } }]
    prepared := some session.upstreams.length
    calls := session.calls.set call { route, candidateMatch := .connected session.upstreams.length } }

end GatewaySession

/-- What happens at the browser, at the sockets of a session and to its waits. -/
inductive SocketEvent
  | receive (payload : Payload) (admitted : Bool)
  | matchFound (call : Nat) (token : String)
  | matchFailed (call : Nat) (reason : String)
  | opened (upstream : Nat)
  | openFailed (upstream : Nat)
  | openTimedOut (upstream : Nat)
  | frame (upstream : Nat) (frame : DecodedFrame)
  | closed (upstream : Nat)
  | errored (upstream : Nat)
  | readyTimedOut (upstream : Nat)

namespace GatewaySession

variable {limits : GatewayLimits} (codec : GatewayJoinCodec)

def socketStep (session : GatewaySession limits) : SocketEvent → Option (GatewaySession limits)
  | .receive payload admitted => some (session.receive codec payload admitted)
  | .matchFound call token =>
    match session.calls[call]? with
    | some ⟨route, .discovering⟩ => some (session.connectCandidate call route token)
    | _ => none
  | .matchFailed call reason =>
    match session.calls[call]? with
    | some ⟨route, .discovering⟩ =>
      some { session with calls := session.calls.set call { route, candidateMatch := .failed reason } }
    | _ => none
  | .opened i =>
    match session.upstream i with
    | some connection =>
      if connection.readyState = .connecting ∧ connection.phase = .opening then some (session.opened codec i connection)
      else none
    | none => none
  | .openFailed i =>
    match session.upstream i with
    | some connection =>
      if (connection.readyState = .connecting ∨ connection.readyState = .closing) ∧ connection.phase = .opening then
        some (session.rejectOpening i { connection with readyState := .closed } "gateway_upstream_open_failed")
      else none
    | none => none
  | .openTimedOut i =>
    match session.upstream i with
    | some connection =>
      if connection.phase = .opening then
        some (session.rejectOpening i connection.close "gateway_upstream_open_timeout")
      else none
    | none => none
  | .frame i frame =>
    match session.upstream i with
    | some connection =>
      if connection.readyState ≠ .opened then none
      else
        match connection.candidate with
        | none => some (session.currentFrame i connection frame)
        | some candidate =>
          if candidate.listening then some (session.candidateFrame i connection candidate frame) else none
    | none => none
  | .closed i =>
    match session.upstream i with
    | some connection =>
      if (connection.readyState = .opened ∨ connection.readyState = .closing) ∧ connection.phase ≠ .opening then
        some (session.closed i connection)
      else none
    | none => none
  | .errored i =>
    match session.upstream i with
    | some connection =>
      if connection.readyState = .opened ∨ connection.readyState = .closing then
        match connection.candidate with
        | some candidate => if candidate.listening then some (session.errored i connection candidate) else none
        | none => none
      else none
    | none => none
  | .readyTimedOut i =>
    match session.upstream i with
    | some connection =>
      if connection.phase = .awaiting then
        some (session.setUpstream i (connection.settle (.failed "gateway_candidate_ready_timeout")))
      else none
    | none => none

end GatewaySession

/-! ### Runs of a session -/

/-- An event at a session, or a call of one of its methods. -/
inductive GatewaySessionEvent
  | socket (event : SocketEvent)
  | prepare (route : RouteArgument)
  | freeze
  | commitPrepared (route : GatewayRoomRoute)
  | abortPrepared
  | finalizeVerification
  | stop

/-- One event or call, in any order. -/
def GatewaySession.step {limits : GatewayLimits} (codec : GatewayJoinCodec) (session : GatewaySession limits) :
    GatewaySessionEvent → Option (GatewaySession limits)
  | .socket event => session.socketStep codec event
  | .prepare route => some (session.prepare route).1
  | .freeze => some session.freeze
  | .commitPrepared route => some (session.commitPrepared route).1
  | .abortPrepared => some session.abortPrepared.1
  | .finalizeVerification => some session.finalizeVerification
  | .stop => some session.stop

end Opsia
