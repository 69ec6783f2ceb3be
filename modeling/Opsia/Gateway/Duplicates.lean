import Opsia.Gateway.Retry

/-!
# Identical cutover requests

Any number of copies of one cutover request may be under way at a room: a copy that finds the operation begun prepares
the same sessions again and waits beside the others, and each goes on by itself when its promises are settled.  The
copies share the record of the operation, and nothing keeps a copy from going on behind the end of the operation.

The operation stays in order (`copies_in_order`) in every run in which no copy goes on once the operation is committed,
a copy that goes on behind a failure fails as well, a failure closes every candidate that nothing else would close, and
a match is found only for a session that has no candidate and does not play at the new epoch (`Orderly`).
-/

namespace Opsia

open Json
open GatewaySession (PreparePromise)

/-- What a status may become; a continuation goes from `preparing` behind `registryCommitted` in one step. -/
inductive CutoverStatus.Advances : Option CutoverStatus → Option CutoverStatus → Prop
  | stays (status : Option CutoverStatus) : Advances status status
  | begins : Advances none (some .preparing)
  | refused : Advances none (some .failed)
  | swaps : Advances (some .preparing) (some .registryCommitted)
  | commits : Advances (some .preparing) (some .committed)
  | completes : Advances (some .registryCommitted) (some .committed)
  | fails : Advances (some .preparing) (some .failed)

open CutoverStatus (Advances)

namespace GatewaySession

variable {limits : GatewayLimits}

/-- The session has a candidate whose socket is not closed. -/
def CandidateAlive (session : GatewaySession limits) : Prop :=
  ∃ upstream ∈ session.preparedUpstream, upstream.Alive

/-- The socket of the current upstream is not closed, and it is of this epoch. -/
def CurrentAt (session : GatewaySession limits) (epoch : JsNumber) : Prop :=
  ∃ upstream ∈ session.currentUpstream, upstream.Alive ∧ upstream.epoch.strictEq epoch = true

/-- The inputs of the session can be sent to its current upstream, or there is none. -/
def CurrentFits (session : GatewaySession limits) : Prop :=
  ∀ upstream ∈ session.currentUpstream, safeUint32 upstream.epoch ≠ none

instance (session : GatewaySession limits) : Decidable session.CandidateAlive :=
  inferInstanceAs (Decidable (∃ upstream ∈ session.preparedUpstream, upstream.Alive))

instance (session : GatewaySession limits) (epoch : JsNumber) : Decidable (session.CurrentAt epoch) :=
  inferInstanceAs (Decidable (∃ upstream ∈ session.currentUpstream, _ ∧ _))

instance (session : GatewaySession limits) : Decidable session.CurrentFits :=
  inferInstanceAs (Decidable (∀ upstream ∈ session.currentUpstream, safeUint32 upstream.epoch ≠ none))

/-- Every open connection to a candidate is the current one, or the prepared one while the operation has yet to decide
about it. -/
def Accounted (session : GatewaySession limits) (pending : Prop) : Prop :=
  ∀ i upstream, session.upstream i = some upstream → upstream.candidate.isSome = true → upstream.Alive →
    session.current = some i ∨ session.prepared = some i ∧ pending

end GatewaySession

namespace GatewayRoom

variable {limits : GatewayLimits} (urls : UrlParser) (codec : GatewayJoinCodec) (settings : GatewaySettings)

/-! ### The record of the operation -/

/-- The status of the operation that a request names. -/
def statusOf (room : GatewayRoom limits) (request : CutoverRequest) : Option CutoverStatus :=
  (room.operation request.operationId).map RoomCutoverOperation.status

/-- Some cutover has yet to go on. -/
def Waits (room : GatewayRoom limits) : Prop := ∃ call ∈ room.cutovers, call.waiting = true

/-- The operation has yet to decide about the candidate of this session: behind the swap its repetition commits it, and
before its end a copy that waits commits or closes it. -/
def Pending (room : GatewayRoom limits) (request : CutoverRequest) (id : Nat) : Prop :=
  ∃ operation ∈ room.operation request.operationId, id ∈ operation.sessionIds ∧
    (operation.status = .registryCommitted ∨ operation.status ≠ .committed ∧ room.Waits)

/-- The aborts of these sessions reach every candidate: behind a session whose inputs cannot be sent there is none. -/
def AbortsReach (room : GatewayRoom limits) (ids : List Nat) : Prop :=
  ids.Pairwise fun earlier later =>
    (∀ session ∈ room.session earlier, session.CurrentFits) ∨ ∀ session ∈ room.session later, ¬session.CandidateAlive

/-- A copy that goes on fails before its swap: a promise of it is rejected, or the registry refuses. -/
def FailsFirst (room : GatewayRoom limits) (call : CutoverCall) : Prop :=
  ((room.allSettled call.promises).any fun result => !result.isOk) = true ∨
    (swap urls settings room call.request).2.isOk = false

/-- A copy goes on before the operation is committed; behind a failure it fails as well; and when it fails, the
candidates are closed, or another copy is left to close them. -/
def ResumesOrderly (room : GatewayRoom limits) (i : Nat) : Prop :=
  ∀ call ∈ room.cutovers[i]?, ∀ operation ∈ room.operation call.request.operationId,
    operation.status = .registryCommitted ∨
      (operation.status = .preparing ∨ operation.status = .failed ∧ room.FailsFirst urls settings call) ∧
        (room.FailsFirst urls settings call →
          room.AbortsReach operation.sessionIds ∨ ∃ other ∈ room.cutovers.eraseIdx i, other.waiting = true)

/-- A match is found for a session of a running operation that has no candidate and does not play at the new epoch. -/
def MatchesOrderly (room : GatewayRoom limits) (request : CutoverRequest) (id : Nat) : Prop :=
  room.Pending request id ∧
    ∀ session ∈ room.session id, ¬session.CandidateAlive ∧ ¬session.CurrentAt request.nextEpoch

/-- Copies of a request keep the operation in order. -/
def Orderly (room : GatewayRoom limits) (request : CutoverRequest) : RoomEvent → Prop
  | .resume i => room.ResumesOrderly urls settings i
  | .socket id (.matchFound _ _) => room.MatchesOrderly request id
  | _ => True

instance (room : GatewayRoom limits) : Decidable room.Waits :=
  inferInstanceAs (Decidable (∃ call ∈ room.cutovers, call.waiting = true))

instance (room : GatewayRoom limits) (request : CutoverRequest) (id : Nat) : Decidable (room.Pending request id) :=
  inferInstanceAs (Decidable (∃ operation ∈ room.operation request.operationId, _ ∧ _))

instance (room : GatewayRoom limits) (ids : List Nat) : Decidable (room.AbortsReach ids) :=
  inferInstanceAs (Decidable (ids.Pairwise fun earlier later =>
    (∀ session ∈ room.session earlier, session.CurrentFits) ∨ ∀ session ∈ room.session later, ¬session.CandidateAlive))

instance (room : GatewayRoom limits) (call : CutoverCall) : Decidable (room.FailsFirst urls settings call) :=
  inferInstanceAs (Decidable (_ ∨ _))

instance (room : GatewayRoom limits) (i : Nat) : Decidable (room.ResumesOrderly urls settings i) :=
  inferInstanceAs (Decidable (∀ call ∈ room.cutovers[i]?, ∀ operation ∈ room.operation call.request.operationId, _ ∨ _))

instance (room : GatewayRoom limits) (request : CutoverRequest) (id : Nat) :
    Decidable (room.MatchesOrderly request id) :=
  inferInstanceAs (Decidable (_ ∧ ∀ session ∈ room.session id, _ ∧ _))

instance (room : GatewayRoom limits) (request : CutoverRequest) :
    (event : RoomEvent) → Decidable (room.Orderly urls settings request event)
  | .resume i => inferInstanceAs (Decidable (room.ResumesOrderly urls settings i))
  | .socket id (.matchFound _ _) => inferInstanceAs (Decidable (room.MatchesOrderly request id))
  | .socket _ (.receive ..) | .socket _ (.matchFailed ..) | .socket _ (.opened _) | .socket _ (.openFailed _) |
    .socket _ (.openTimedOut _) | .socket _ (.frame ..) | .socket _ (.closed _) | .socket _ (.errored _) |
    .socket _ (.readyTimedOut _) | .connect | .disconnect _ | .freeze .. | .abort _ | .timeout | .cutover _ |
    .finalize .. | .register .. | .reconcile .. | .reconciled .. => isTrue trivial

end GatewayRoom

/-! ### Counted runs -/

/-- The room, how often a cutover has changed the route, and how often one has set up its verification. -/
structure CountedRoom (limits : GatewayLimits) where
  room : GatewayRoom limits
  swaps : Nat := 0
  records : Nat := 0

namespace CountedRoom

variable {limits : GatewayLimits} (urls : UrlParser) (codec : GatewayJoinCodec) (settings : GatewaySettings)

/-- What an event adds to the counts. -/
def count (counted : CountedRoom limits) (event : RoomEvent) (next : GatewayRoom limits) : CountedRoom limits :=
  match event with
  | .resume i =>
    { room := next
      swaps := counted.swaps + if next.route settings = counted.room.route settings then 0 else 1
      records := counted.records +
        if (counted.room.resume urls settings i).any fun result => result.2.isOk then 1 else 0 }
  | _ => { counted with room := next }

def step (counted : CountedRoom limits) (event : RoomEvent) : Option (CountedRoom limits) :=
  (counted.room.step urls codec settings event).map fun next => counted.count urls settings event next

def init (registry : FencedGatewayRoomRegistry) : CountedRoom limits := { room := .init registry }

/-- A step leaves the operation in order: its status advances; a copy leaves the sessions and the verification of a
committed operation alone; the route has been changed at most once and the verification set up at most once; and every
open candidate is accounted for. -/
structure InOrder (request : CutoverRequest) (counted : CountedRoom limits) (event : RoomEvent)
    (next : CountedRoom limits) : Prop where
  status : Advances (counted.room.statusOf request) (next.room.statusOf request)
  settled : counted.room.statusOf request = some .committed →
    (∃ copy, event = .cutover copy) ∨ (∃ i, event = .resume i) →
    next.room.sessions = counted.room.sessions ∧ next.room.verification = counted.room.verification
  swaps : next.swaps ≤ 1
  records : next.records ≤ 1
  accounted : ∀ id session, next.room.session id = some session → session.Accounted (next.room.Pending request id)

end CountedRoom

/-! ### Sessions under several copies -/

open UpstreamConnection

namespace GatewaySession

variable {limits : GatewayLimits} {session next : GatewaySession limits} {epoch : JsNumber} {pending : Prop}

/-- Every open candidate is accounted for, and a session that has one does not play at the new epoch yet. -/
structure InHand (session : GatewaySession limits) (epoch : JsNumber) (pending : Prop) : Prop where
  accounted : session.Accounted pending
  apart : session.CandidateAlive → ¬session.CurrentAt epoch
  hasCurrent : session.HasCurrent

private theorem candidateAlive_iff : session.CandidateAlive ↔
    ∃ i upstream, session.prepared = some i ∧ session.upstream i = some upstream ∧ upstream.Alive := by
  unfold CandidateAlive preparedUpstream
  constructor
  · rintro ⟨upstream, hget, halive⟩
    obtain ⟨i, hi, hget⟩ := Option.bind_eq_some_iff.1 hget
    exact ⟨i, upstream, hi, hget, halive⟩
  · rintro ⟨i, upstream, hi, hget, halive⟩
    exact ⟨upstream, by rw [hi]; exact hget, halive⟩

private theorem currentAt_iff : session.CurrentAt epoch ↔ ∃ i upstream, session.current = some i ∧
    session.upstream i = some upstream ∧ upstream.Alive ∧ upstream.epoch.strictEq epoch = true := by
  unfold CurrentAt currentUpstream
  constructor
  · rintro ⟨upstream, hget, hat⟩
    obtain ⟨i, hi, hget⟩ := Option.bind_eq_some_iff.1 hget
    exact ⟨i, upstream, hi, hget, hat⟩
  · rintro ⟨i, upstream, hi, hget, hat⟩
    exact ⟨upstream, by rw [hi]; exact hget, hat⟩

private theorem not_candidateAlive (h : session.prepared = none) : ¬session.CandidateAlive := by
  rw [candidateAlive_iff]
  rintro ⟨i, upstream, hi, -⟩
  rw [h] at hi
  cases hi

theorem InHand.mono {pending' : Prop} (h : InHand session epoch pending) (hpending : pending → pending') :
    InHand session epoch pending' where
  accounted i upstream hget hcandidate halive :=
    (h.accounted i upstream hget hcandidate halive).imp id fun hprepared => ⟨hprepared.1, hpending hprepared.2⟩
  apart := h.apart
  hasCurrent := h.hasCurrent

/-- Without an open candidate nothing is left to decide. -/
theorem InHand.settled (h : InHand session epoch pending) (hnone : ¬session.CandidateAlive) :
    InHand session epoch False where
  accounted i upstream hget hcandidate halive :=
    (h.accounted i upstream hget hcandidate halive).imp id fun hprepared =>
      absurd (candidateAlive_iff.2 ⟨i, upstream, hprepared.1, hget, halive⟩) hnone
  apart := h.apart
  hasCurrent := h.hasCurrent

/-- What goes on with the same upstreams keeps a candidate dead and a current upstream elsewhere. -/
private theorem SameSockets.candidateAlive (h : SameSockets session next) (halive : next.CandidateAlive) :
    session.CandidateAlive := by
  obtain ⟨i, second, hi, hsecond, halive⟩ := candidateAlive_iff.1 halive
  obtain ⟨first, hfirst⟩ := upstream_of_length h.length hsecond
  exact candidateAlive_iff.2 ⟨i, first, h.prepared ▸ hi, hfirst, (h.later i first second hfirst hsecond).alive halive⟩

private theorem SameSockets.currentAt (h : SameSockets session next) (hat : next.CurrentAt epoch) :
    session.CurrentAt epoch := by
  obtain ⟨i, second, hi, hsecond, halive, hepoch⟩ := currentAt_iff.1 hat
  obtain ⟨first, hfirst⟩ := upstream_of_length h.length hsecond
  have hlater := h.later i first second hfirst hsecond
  exact currentAt_iff.2 ⟨i, first, h.current ▸ hi, hfirst, hlater.alive halive, hlater.epoch ▸ hepoch⟩

theorem InHand.same (h : InHand session epoch pending) (hsame : SameSockets session next) :
    InHand next epoch pending where
  accounted i second hsecond hcandidate halive := by
    obtain ⟨first, hfirst⟩ := upstream_of_length hsame.length hsecond
    have hlater := hsame.later i first second hfirst hsecond
    rw [hsame.current, hsame.prepared]
    exact h.accounted i first hfirst (hlater.candidate ▸ hcandidate) (hlater.alive halive)
  apart hcandidate hat := h.apart (hsame.candidateAlive hcandidate) (hsame.currentAt hat)
  hasCurrent i hi := hsame.length ▸ h.hasCurrent i (hsame.current ▸ hi)

theorem InHand.ended (h : InHand session epoch pending) (hended : Ended session next) : InHand next epoch pending where
  accounted i second hsecond hcandidate halive := by
    obtain ⟨first, hfirst⟩ := upstream_of_length hended.length hsecond
    have hlater := hended.later i first second hfirst hsecond
    obtain ⟨hcurrent, hprepared⟩ := hended.closed i second hsecond halive
    rcases h.accounted i first hfirst (hlater.candidate ▸ hcandidate) (hlater.alive halive) with hi | hi
    · exact absurd hi hcurrent
    · exact absurd hi.1 hprepared
  apart hcandidate := absurd hcandidate (not_candidateAlive hended.prepared)
  hasCurrent i hi := by
    rw [hended.current] at hi
    cases hi

/-- An abort leaves nothing to decide. -/
theorem InHand.aborted (h : InHand session epoch pending) (haborted : Aborted session next) :
    InHand next epoch False where
  accounted i second hsecond hcandidate halive := by
    obtain ⟨first, hfirst⟩ := upstream_of_length haborted.length hsecond
    have hlater := haborted.later i first second hfirst hsecond
    rcases h.accounted i first hfirst (hlater.candidate ▸ hcandidate) (hlater.alive halive) with hi | hi
    · exact Or.inl (haborted.current.trans hi)
    · exact absurd hi.1 (haborted.closed i second hsecond halive)
  apart hcandidate := absurd hcandidate (not_candidateAlive haborted.prepared)
  hasCurrent i hi := haborted.length ▸ h.hasCurrent i (haborted.current ▸ hi)

/-- Neither does a commit that switches. -/
theorem InHand.switched (h : InHand session epoch pending) (hswitched : Switched session next) :
    InHand next epoch False where
  accounted i second hsecond hcandidate halive := by
    obtain ⟨first, hfirst⟩ := upstream_of_length hswitched.length hsecond
    have hlater := hswitched.later i first second hfirst hsecond
    obtain ⟨k, hprepared, hcurrent, -⟩ := hswitched.prepared_some
    have hmoved : session.prepared = some i → next.current = some i := fun hi => by rw [hcurrent, ← hprepared, hi]
    rcases h.accounted i first hfirst (hlater.candidate ▸ hcandidate) (hlater.alive halive) with hi | hi
    · rcases hswitched.closed i second hsecond halive with hnot | hi'
      · exact absurd hi hnot
      · exact Or.inl (hmoved hi')
    · exact Or.inl (hmoved hi.1)
  apart hcandidate := absurd hcandidate (not_candidateAlive hswitched.prepared)
  hasCurrent i hi := by
    obtain ⟨k, -, hcurrent, hk⟩ := hswitched.prepared_some
    rw [hcurrent] at hi
    cases hi
    exact hswitched.length ▸ hk

/-- A match for a session without an open candidate that plays elsewhere makes one. -/
theorem InHand.connectCandidate (h : InHand session epoch pending) (hpending : pending)
    (hnone : ¬session.CandidateAlive) (hapart : ¬session.CurrentAt epoch) (call : Nat) (route : RouteArgument)
    (token : String) : InHand (session.connectCandidate call route token) epoch pending where
  accounted i upstream hget hcandidate halive := by
    unfold GatewaySession.connectCandidate GatewaySession.upstream at hget
    dsimp only at hget
    by_cases hi : i < session.upstreams.length
    · rw [List.getElem?_append_left hi] at hget
      rcases h.accounted i upstream hget hcandidate halive with hcurrent | hprepared
      · exact Or.inl hcurrent
      · exact absurd (candidateAlive_iff.2 ⟨i, upstream, hprepared.1, hget, halive⟩) hnone
    · have hlt := (List.getElem?_eq_some_iff.1 hget).1
      rw [List.length_append, List.length_singleton] at hlt
      have heq : i = session.upstreams.length := by omega
      exact Or.inr ⟨congrArg some heq.symm, hpending⟩
  apart _ hat := by
    obtain ⟨i, upstream, hi, hget, hat⟩ := currentAt_iff.1 hat
    unfold GatewaySession.connectCandidate GatewaySession.upstream at hget
    dsimp only at hget
    rw [List.getElem?_append_left (h.hasCurrent i hi)] at hget
    exact hapart (currentAt_iff.2 ⟨i, upstream, hi, hget, hat⟩)
  hasCurrent i hi := by
    have hlt := h.hasCurrent i hi
    unfold GatewaySession.connectCandidate
    dsimp only
    rw [List.length_append]
    omega

theorem inHand_start (route : GatewayRoomRoute) (epoch : JsNumber) :
    InHand (start route : GatewaySession limits) epoch False where
  accounted i upstream hget hcandidate _ := by
    have hmem := List.mem_singleton.1 (List.mem_of_getElem? hget)
    rw [hmem] at hcandidate
    cases hcandidate
  apart := fun h => absurd h (not_candidateAlive rfl)
  hasCurrent i hi := by
    cases hi
    exact Nat.zero_lt_one

/-- A commit that succeeds leaves nothing to decide: it switches, or finds the session at the new epoch. -/
theorem InHand.commitPrepared (h : InHand session epoch pending) {route : GatewayRoomRoute}
    (hepoch : (JsNumber.ofNat route.epoch).strictEq epoch = true) {replayed : Nat}
    (hok : (session.commitPrepared route).2 = .ok replayed) : InHand (session.commitPrepared route).1 epoch False := by
  by_cases hthrough : session.GoesThrough route
  · exact h.switched (switched_of_goesThrough hthrough)
  · have hbound : session.boundTo route.endpoint (.ofNat route.epoch) = true := by
      by_contra hbound
      unfold GatewaySession.commitPrepared at hok
      rw [if_neg hbound] at hok
      split at hok
      · rename_i i candidate _ hcandidate
        split at hok
        · cases hok
        · rename_i hmatch
          rw [not_or, not_not, Bool.not_eq_false] at hmatch
          exact hthrough ⟨by simpa using hbound, candidate, hcandidate, hmatch⟩
      · cases hok
    obtain ⟨connection, hconnection, hat, -, hopen⟩ := boundTo_iff.1 hbound
    rw [commitPrepared_of_not hthrough]
    refine h.settled fun hcandidate => h.apart hcandidate ?_
    exact ⟨connection, hconnection, Or.inr hopen, JsNumber.strictEq_trans hat hepoch⟩

/-- Whatever a session does but make a candidate keeps it so. -/
theorem InHand.step {codec : GatewayJoinCodec} {event : GatewaySessionEvent} (h : InHand session epoch pending)
    (hevent : ∀ call token, event ≠ .socket (.matchFound call token)) (hs : session.step codec event = some next) :
    InHand next epoch pending := by
  cases event with
  | socket event =>
    exact (settles_of_socketStep hs fun call token heq => hevent call token (congrArg _ heq)).elim h.same h.ended
  | prepare route =>
    cases hs
    exact h.same (session.sameSockets_prepare route)
  | freeze =>
    cases hs
    exact h.same (.of_eq rfl rfl rfl rfl)
  | commitPrepared route =>
    cases hs
    rcases session.commitPrepared_sockets route with heq | hswitched
    · rw [heq]
      exact h
    · exact (h.switched hswitched).mono False.elim
  | abortPrepared =>
    cases hs
    exact (h.aborted session.aborted_abortPrepared).mono False.elim
  | finalizeVerification =>
    cases hs
    exact h.same (.of_eq rfl rfl rfl rfl)
  | stop =>
    cases hs
    exact session.stop_sockets.elim h.same h.ended

/-- The second session has no new candidate, and its current upstream is of the same epoch. -/
structure Calmer (session next : GatewaySession limits) : Prop where
  fits : session.CurrentFits → next.CurrentFits
  candidate : next.CandidateAlive → session.CandidateAlive

private theorem currentFits_later (hcurrent : next.current = session.current)
    (hlength : next.upstreams.length = session.upstreams.length)
    (hlater : ∀ i first second, session.upstream i = some first → next.upstream i = some second → Later first second)
    (h : session.CurrentFits) : next.CurrentFits := by
  intro second hsecond
  obtain ⟨i, hi, hsecond⟩ := Option.bind_eq_some_iff.1 hsecond
  obtain ⟨first, hfirst⟩ := upstream_of_length hlength hsecond
  rw [(hlater i first second hfirst hsecond).epoch]
  refine h first ?_
  rw [currentUpstream, ← hcurrent, hi]
  exact hfirst

theorem SameSockets.calmer (h : SameSockets session next) : Calmer session next :=
  ⟨currentFits_later h.current h.length h.later, h.candidateAlive⟩

theorem Aborted.calmer (h : Aborted session next) : Calmer session next :=
  ⟨currentFits_later h.current h.length h.later, fun halive => absurd halive (not_candidateAlive h.prepared)⟩

private theorem flushInputs_ne_error {i : Nat}
    (h : ∀ connection ∈ session.upstream i, safeUint32 connection.epoch ≠ none) (message : String) :
    session.flushInputs i ≠ .error message := by
  unfold flushInputs
  cases hconnection : session.upstream i with
  | none => exact fun heq => (nomatch heq)
  | some connection =>
    obtain ⟨epoch, hepoch⟩ := Option.ne_none_iff_exists'.1 (h connection hconnection)
    obtain ⟨sent, hsent⟩ := sendInputs_of_fits hepoch (session.inputs.replayAfter connection.sentThroughSequence)
      session.clientTick
    dsimp only
    rw [hsent]
    exact fun heq => (nomatch heq)

/-- An abort throws only where the inputs cannot be sent. -/
theorem abortPrepared_ok (h : session.CurrentFits) : session.abortPrepared.2 = .ok () := by
  have hclosed := (session.sameSockets_closeUpstream session.prepared).1.calmer.fits h
  unfold GatewaySession.abortPrepared
  dsimp only
  split
  · rfl
  · rename_i i hcurrent
    split
    · rename_i message hflush
      refine absurd hflush (flushInputs_ne_error (fun connection hconnection => hclosed connection ?_) message)
      rw [currentUpstream, hcurrent]
      exact hconnection
    · rfl

end GatewaySession

/-! ### Rooms under several copies -/

namespace GatewayRoom

variable {limits : GatewayLimits} {urls : UrlParser} {codec : GatewayJoinCodec} {settings : GatewaySettings}
variable {room next : GatewayRoom limits} {epoch : JsNumber} {pending : Nat → Prop}

/-- Every session of the room is in hand. -/
def SessionsInHand (room : GatewayRoom limits) (epoch : JsNumber) (pending : Nat → Prop) : Prop :=
  ∀ id session, room.session id = some session → session.InHand epoch (pending id)

theorem SessionsInHand.mono {pending' : Nat → Prop} (h : room.SessionsInHand epoch pending)
    (hpending : ∀ id, pending id → pending' id) : room.SessionsInHand epoch pending' :=
  fun id session hsession => (h id session hsession).mono (hpending id)

theorem SessionsInHand.of_sessions (h : room.SessionsInHand epoch pending)
    (hsame : ∀ id, next.session id = room.session id) : next.SessionsInHand epoch pending :=
  fun id session hsession => h id session ((hsame id).symm.trans hsession)

theorem SessionsInHand.setSession {pending' : Nat → Prop} (h : room.SessionsInHand epoch pending) {id : Nat}
    {after : GatewaySession limits} (hafter : after.InHand epoch (pending' id))
    (hothers : ∀ other, other ≠ id → pending other → pending' other) :
    (room.setSession id after).SessionsInHand epoch pending' := by
  intro other session hsession
  rw [session_setSession] at hsession
  split at hsession
  · rename_i heq
    obtain ⟨_, -, rfl⟩ := Option.map_eq_some_iff.1 hsession
    rw [heq]
    exact hafter
  · rename_i hne
    exact (h other session hsession).mono (hothers other hne)

theorem SessionsInHand.moves {kinds : GatewaySessionEvent → Prop} (h : room.SessionsInHand epoch pending)
    (hmove : SessionsMove codec kinds room next) (hkinds : ∀ call token, ¬kinds (.socket (.matchFound call token))) :
    next.SessionsInHand epoch pending := by
  intro id after hafter
  cases hsession : room.session id with
  | none =>
    rw [hmove.absent id hsession] at hafter
    cases hafter
  | some session =>
    obtain ⟨moved, hmoved, hmoves⟩ := hmove.moved id session hsession
    cases hafter.symm.trans hmoved
    exact hmoves.keeps (I := fun session => session.InHand epoch (pending id))
      (fun _ _ _ hkind hbefore hs => hbefore.step (fun call token heq => hkinds call token (heq ▸ hkind)) hs)
      (h id session hsession)

/-- Every event keeps the sessions in hand, if a match makes a candidate only where there is none. -/
theorem SessionsInHand.step {event : RoomEvent} (h : room.SessionsInHand epoch pending)
    (hmatch : ∀ id call token, event = .socket id (.matchFound call token) →
      pending id ∧ ∀ session ∈ room.session id, ¬session.CandidateAlive ∧ ¬session.CurrentAt epoch)
    (hs : room.step urls codec settings event = some next) : next.SessionsInHand epoch pending := by
  refine sessions_step (I := fun id session => session.InHand epoch (pending id)) h
    (fun id route _ => (GatewaySession.inHand_start route epoch).mono False.elim) ?_ ?_ hs
  · intro id made session after hevent hsession hmade
    by_cases hfound : ∃ call token, made = .matchFound call token
    · obtain ⟨call, token, rfl⟩ := hfound
      obtain ⟨hpending, hidle⟩ := hmatch id call token hevent
      obtain ⟨hnone, hapart⟩ := hidle session hsession
      obtain ⟨route, -, rfl⟩ := GatewaySession.matchFound_sockets hmade
      exact (h id session hsession).connectCandidate hpending hnone hapart call route token
    · have hstep : session.step codec (.socket made) = some after := hmade
      refine (h id session hsession).step (fun call token heq => ?_) hstep
      cases heq
      exact hfound ⟨call, token, rfl⟩
  · intro id session made after hnot _ hkept hmade
    exact hkept.step (fun call token heq => hnot (.matchFound call token) heq) hmade

/-- The aborts reach no less of sessions that have calmed down. -/
theorem AbortsReach.calmer {ids : List Nat} (h : room.AbortsReach ids) (hcalmer : ∀ id after,
    next.session id = some after → ∃ session, room.session id = some session ∧ session.Calmer after) :
    next.AbortsReach ids := by
  refine List.Pairwise.imp (fun hpair => ?_) h
  rcases hpair with hfits | hnone
  · refine Or.inl fun after hafter => ?_
    obtain ⟨session, hsession, hcalm⟩ := hcalmer _ after hafter
    exact hcalm.fits (hfits session hsession)
  · refine Or.inr fun after hafter halive => ?_
    obtain ⟨session, hsession, hcalm⟩ := hcalmer _ after hafter
    exact hnone session hsession (hcalm.candidate halive)

/-- The aborts of a failing cutover leave nothing to decide about its sessions. -/
theorem SessionsInHand.abortAll {ids : List Nat} (h : room.SessionsInHand epoch pending)
    (hreach : room.AbortsReach ids) :
    (room.abortAll ids).1.SessionsInHand epoch fun id => pending id ∧ id ∉ ids := by
  induction ids generalizing room pending with
  | nil => exact h.mono fun id hid => ⟨hid, List.not_mem_nil⟩
  | cons id ids ih =>
    unfold GatewayRoom.abortAll
    obtain ⟨hfirst, hrest⟩ := List.pairwise_cons.1 hreach
    have hrest : room.AbortsReach ids := hrest
    cases hsession : room.session id with
    | none =>
      dsimp only
      intro other session hother
      have hmove : SessionsMove plainJoins (fun _ => True) room (room.abortAll ids).1 :=
        sessionsMove_abortAll plainJoins trivial room ids
      have hne : other ≠ id := by
        rintro rfl
        rw [hmove.absent other hsession] at hother
        cases hother
      exact (ih h hrest other session hother).mono fun hpending =>
        ⟨hpending.1, List.not_mem_cons_of_ne_of_not_mem hne hpending.2⟩
    | some session =>
      have haborted := session.aborted_abortPrepared
      have hset : (room.setSession id session.abortPrepared.1).SessionsInHand epoch fun other =>
          pending other ∧ other ≠ id :=
        h.setSession (((h id session hsession).aborted haborted).mono False.elim) fun other hne hpending =>
          ⟨hpending, hne⟩
      have hcalmer : ∀ other after, (room.setSession id session.abortPrepared.1).session other = some after →
          ∃ before, room.session other = some before ∧ before.Calmer after := by
        intro other after hafter
        rw [session_setSession] at hafter
        split at hafter
        · rename_i heq
          obtain ⟨before, hbefore, rfl⟩ := Option.map_eq_some_iff.1 hafter
          rw [heq, hsession] at hbefore
          cases hbefore
          exact ⟨session, heq ▸ hsession, haborted.calmer⟩
        · exact ⟨after, hafter, (GatewaySession.SameSockets.refl after).calmer⟩
      dsimp only
      split
      · rename_i moved _ heq
        rw [heq] at hset hcalmer
        exact (ih hset (hrest.calmer hcalmer)).mono fun other hpending =>
          ⟨hpending.1.1, List.not_mem_cons_of_ne_of_not_mem hpending.1.2 hpending.2⟩
      · rename_i moved message heq
        -- the loop stops here, and behind this session there is no candidate
        have hunfit : ¬session.CurrentFits := fun hfits =>
          (nomatch (congrArg Prod.snd heq).symm.trans (GatewaySession.abortPrepared_ok hfits))
        rw [heq] at hset hcalmer
        intro other after hafter
        by_cases hother : other ∈ ids
        · obtain ⟨before, hbefore, hcalm⟩ := hcalmer other after hafter
          have hnone : ¬before.CandidateAlive := by
            rcases hfirst other hother with hfits | hnone
            · exact absurd (hfits session hsession) hunfit
            · exact hnone before hbefore
          exact ((hset other after hafter).settled fun halive => hnone (hcalm.candidate halive)).mono False.elim
        · exact (hset other after hafter).mono fun hpending =>
            ⟨hpending.1, List.not_mem_cons_of_ne_of_not_mem hpending.2 hother⟩

/-- The commits of a cutover leave nothing to decide about its sessions. -/
theorem SessionsInHand.commitAll {operationId : String} {route : GatewayRoomRoute} {ids : List Nat}
    (h : room.SessionsInHand epoch pending) (hepoch : (JsNumber.ofNat route.epoch).strictEq epoch = true)
    (hok : (commitAll operationId route room ids).2 = .ok ()) :
    (commitAll operationId route room ids).1.SessionsInHand epoch fun id => pending id ∧ id ∉ ids := by
  induction ids generalizing room pending with
  | nil => exact h.mono fun id hid => ⟨hid, List.not_mem_nil⟩
  | cons id ids ih =>
    unfold GatewayRoom.commitAll at hok ⊢
    cases hsession : room.session id with
    | none =>
      rw [hsession] at hok
      dsimp only at hok ⊢
      intro other session hother
      have hmove : SessionsMove plainJoins (fun _ => True) room (GatewayRoom.commitAll operationId route room ids).1 :=
        sessionsMove_commitAll operationId trivial room ids
      have hne : other ≠ id := by
        rintro rfl
        rw [hmove.absent other hsession] at hother
        cases hother
      exact (ih h hok other session hother).mono fun hpending =>
        ⟨hpending.1, List.not_mem_cons_of_ne_of_not_mem hne hpending.2⟩
    | some session =>
      rw [hsession] at hok
      dsimp only at hok ⊢
      have hcommitted : ∀ replayed, (session.commitPrepared route).2 = .ok replayed →
          (session.commitPrepared route).1.InHand epoch False :=
        fun replayed hok => (h id session hsession).commitPrepared hepoch hok
      split at hok
      · cases hok
      · rename_i moved replayed heq
        rw [heq] at hcommitted
        have hset : (room.setCommitted operationId id moved replayed).SessionsInHand epoch fun other =>
            pending other ∧ other ≠ id := by
          refine SessionsInHand.of_sessions (h.setSession ((hcommitted replayed rfl).mono False.elim) ?_)
            (session_setCommitted room operationId id moved replayed)
          exact fun other hne hpending => ⟨hpending, hne⟩
        exact (ih hset hok).mono fun other hpending =>
          ⟨hpending.1.1, List.not_mem_cons_of_ne_of_not_mem hpending.1.2 hpending.2⟩

/-! ### Copies -/

/-- What is not a copy leaves the operations and the cutovers alone, and takes no route back. -/
theorem quiet_step {event : RoomEvent} (hcutover : ∀ request, event ≠ .cutover request)
    (hresume : ∀ i, event ≠ .resume i)
    (hs : room.step urls codec settings event = some next) :
    next.operations = room.operations ∧ next.cutovers = room.cutovers ∧ room.registry.Precedes next.registry := by
  have hkept : ∀ {registry : FencedGatewayRoomRegistry}, registry = room.registry → room.registry.Precedes registry :=
    fun h => by rw [h]; exact .refl _
  have hcall : ∀ c, room.registry.Precedes (room.registry.call urls c).2 :=
    fun c => FencedGatewayRoomRegistry.precedes_after urls room.registry [c]
  rcases step_cases hs with ⟨i, result, rfl, -⟩ | ⟨-, hevent⟩
  · exact absurd rfl (hresume i)
  have habort : ∀ operationId, (room.abortRoomPreparation operationId).1.operations = room.operations ∧
      (room.abortRoomPreparation operationId).1.cutovers = room.cutovers ∧
      room.registry.Precedes (room.abortRoomPreparation operationId).1.registry := by
    intro operationId
    rcases room.abortRoomPreparation_cases operationId with heq | ⟨preparation, -, heq⟩
    · rw [heq]
      exact ⟨rfl, rfl, .refl _⟩
    · obtain ⟨hregistry, -, -, hoperations, hcutovers, -⟩ := sessionsOnly_abortAll { room with preparation := none }
        (preparation.sessionIds.filter room.isListed)
      rw [heq]
      exact ⟨hoperations, hcutovers, hkept hregistry⟩
  cases event with
  | resume i => exact absurd rfl (hresume i)
  | cutover request => exact absurd rfl (hcutover request)
  | connect =>
    simp only [eventStep] at hevent
    unfold GatewayRoom.connect at hevent
    split at hevent
    · cases hevent
    split at hevent
    · cases hevent
    · cases hevent
      exact ⟨rfl, rfl, .refl _⟩
  | disconnect id =>
    simp only [eventStep] at hevent
    unfold GatewayRoom.disconnect at hevent
    split at hevent
    · cases hevent
    split at hevent
    · cases hevent
      exact ⟨rfl, rfl, .refl _⟩
    · cases hevent
  | socket id event =>
    simp only [eventStep] at hevent
    obtain ⟨_, _, -, -, -, hregistry, -, -, hoperations, hcutovers⟩ := socketEvent_cases hevent
    exact ⟨hoperations, hcutovers, hkept hregistry⟩
  | freeze operationId expectedEpoch supersedesOperationId =>
    cases hevent
    rcases room.freezeRoom_cases settings operationId expectedEpoch supersedesOperationId with
      heq | ⟨route, cleared, -, -, -, rfl, heq | heq⟩
    · rw [heq]
      exact ⟨rfl, rfl, .refl _⟩
    · obtain ⟨hregistry, -, -, hoperations, hcutovers, -⟩ :=
        (sessionsOnly_freezeAll { room with verification := room.verification.filter fun verification =>
          verification.operationId = operationId } room.listedIds).trans (sessionsOnly_abortAll _ room.listedIds)
      rw [heq]
      exact ⟨hoperations, hcutovers, hkept hregistry⟩
    · obtain ⟨hregistry, -, -, hoperations, hcutovers, -⟩ :=
        sessionsOnly_freezeAll { room with verification := room.verification.filter fun verification =>
          verification.operationId = operationId } room.listedIds
      rw [heq]
      exact ⟨hoperations, hcutovers, hkept hregistry⟩
  | abort operationId =>
    cases hevent
    exact habort operationId
  | timeout =>
    obtain ⟨preparation, -, rfl⟩ := Option.map_eq_some_iff.1 hevent
    exact habort _
  | finalize operationId stale =>
    cases hevent
    unfold GatewayRoom.finalizeRoomVerification
    split
    · exact ⟨rfl, rfl, .refl _⟩
    rename_i verification _
    · split
      · exact ⟨rfl, rfl, .refl _⟩
      · split
        · exact ⟨rfl, rfl, .refl _⟩
        · obtain ⟨hregistry, -, -, hoperations, hcutovers, -⟩ := sessionsOnly_finalizeAll room
            (verification.sessionIds.filter room.isListed)
          exact ⟨hoperations, hcutovers, hkept hregistry⟩
  | register endpoint epoch =>
    cases hevent
    exact ⟨rfl, rfl, hcall (.register _)⟩
  | reconcile endpoint epoch =>
    cases hevent
    unfold GatewayRoom.reconcile
    repeat' split
    all_goals exact ⟨rfl, rfl, .refl _⟩
  | reconciled i confirmed =>
    simp only [eventStep] at hevent
    unfold GatewayRoom.reconciled at hevent
    split at hevent
    · cases hevent
    split at hevent
    · cases hevent
      exact ⟨rfl, rfl, hcall (.reconcileStableRoute _)⟩
    · cases hevent
      exact ⟨rfl, rfl, .refl _⟩

/-- What a copy that goes on does to the record of the operation and to its sessions: it fails before its swap, stops at
a commit, or commits. -/
inductive Resumes (urls : UrlParser) (settings : GatewaySettings) (room : GatewayRoom limits) (call : CutoverCall)
    (operation : RoomCutoverOperation) (pending : Nat → Prop)
    (result : GatewayRoom limits × Except String CutoverResponse) : Prop
  | fails (later : RoomCutoverOperation) (hfails : room.FailsFirst urls settings call)
      (hlater : result.1.operation call.request.operationId = some later)
      (hnamed : later.operationId = operation.operationId) (hids : later.sessionIds = operation.sessionIds)
      (hstatus : later.status = if operation.status = .registryCommitted then .registryCommitted else .failed)
      (hroute : result.1.route settings = room.route settings) (hresult : result.2.isOk = false)
      (hkept : result.1.SessionsInHand call.request.nextEpoch pending)
      (hclosed : operation.status ≠ .registryCommitted → room.AbortsReach operation.sessionIds →
        result.1.SessionsInHand call.request.nextEpoch fun id => pending id ∧ id ∉ operation.sessionIds)
  | stops (later : RoomCutoverOperation) (hgoes : ¬room.FailsFirst urls settings call)
      (hlater : result.1.operation call.request.operationId = some later)
      (hnamed : later.operationId = operation.operationId) (hids : later.sessionIds = operation.sessionIds)
      (hstatus : later.status = .registryCommitted)
      (hroute : result.1.route settings = room.route settings ∨ ∃ current next, room.route settings = some current ∧
        (JsNumber.ofNat current.epoch).strictEq call.request.expectedEpoch = true ∧
        result.1.route settings = some next ∧ current.epoch < next.epoch)
      (hresult : result.2.isOk = false) (hkept : result.1.SessionsInHand call.request.nextEpoch pending)
  | commits (later : RoomCutoverOperation) (hgoes : ¬room.FailsFirst urls settings call)
      (hlater : result.1.operation call.request.operationId = some later)
      (hnamed : later.operationId = operation.operationId) (hids : later.sessionIds = operation.sessionIds)
      (hstatus : later.status = .committed)
      (hroute : result.1.route settings = room.route settings ∨ ∃ current next, room.route settings = some current ∧
        (JsNumber.ofNat current.epoch).strictEq call.request.expectedEpoch = true ∧
        result.1.route settings = some next ∧ current.epoch < next.epoch)
      (hresult : result.2.isOk = true)
      (hclosed : result.1.SessionsInHand call.request.nextEpoch fun id => pending id ∧ id ∉ operation.sessionIds)

/-- A failing copy, in a room that differs from the one before in what is frozen. -/
private theorem resumes_failed {before : GatewayRoom limits} {call : CutoverCall} {operation : RoomCutoverOperation}
    (hfails : room.FailsFirst urls settings call) (hregistry : before.registry = room.registry)
    (hoperation : before.operation call.request.operationId = some operation)
    (hnamed : operation.operationId = call.request.operationId)
    (hids : call.promises.map Prod.fst = operation.sessionIds)
    (hcalmer : ∀ id after, before.session id = some after →
      ∃ session, room.session id = some session ∧ session.Calmer after)
    (h : before.SessionsInHand call.request.nextEpoch pending) (reason : String) :
    Resumes urls settings room call operation pending
      (before.failCutover call.request.operationId (call.promises.map Prod.fst) reason, .error reason) := by
  have hroute : (before.failCutover call.request.operationId (call.promises.map Prod.fst) reason).route settings =
      room.route settings := by
    unfold GatewayRoom.route
    rw [(cutoverFrame_failCutover before _ _ _).registry, hregistry]
  have hmove : SessionsMove plainJoins (· = .abortPrepared) before
      (before.failCutover call.request.operationId (call.promises.map Prod.fst) reason) := by
    refine sessionsMove_failCutover ?_ ..
    rfl
  have hkept := h.moves hmove fun _ _ heq => (nomatch heq)
  by_cases hstatus : operation.status = .registryCommitted
  · exact .fails _ hfails (failCutover_swapped hoperation hnamed hstatus _ _) rfl rfl
      (by rw [if_pos hstatus]; exact hstatus) hroute rfl hkept fun hne => absurd hstatus hne
  · refine .fails _ hfails (failCutover_failed hoperation hnamed hstatus _ _) rfl rfl (by rw [if_neg hstatus]) hroute
      rfl hkept fun _ hreach => ?_
    have hclosed : ∀ failed : RoomCutoverOperation,
        ((before.setOperation failed).abortAll (call.promises.map Prod.fst)).1.SessionsInHand call.request.nextEpoch
          fun id => pending id ∧ id ∉ operation.sessionIds := by
      intro failed
      have hsame : ∀ id, (before.setOperation failed).session id = before.session id :=
        (before.operationsOnly_setOperation failed).session
      rw [hids]
      refine SessionsInHand.abortAll (h.of_sessions hsame) (hreach.calmer fun id after hafter => ?_)
      exact hcalmer id after ((hsame id).symm.trans hafter)
    rcases before.failCutover_cases call.request.operationId (call.promises.map Prod.fst) reason with
      ⟨hnone, -⟩ | ⟨operation', hoperation', ⟨hcommitted, -⟩ | ⟨-, failed, aborted, rfl, rfl, heq | ⟨heq, -⟩⟩⟩
    · rw [hoperation] at hnone
      cases hnone
    · rw [hoperation] at hoperation'
      cases hoperation'
      exact absurd hcommitted hstatus
    · rw [heq]
      exact (hclosed _).of_sessions fun _ => rfl
    · rw [heq]
      exact hclosed _

/-- A copy that goes on. -/
theorem resumes {i : Nat} {result : GatewayRoom limits × Except String CutoverResponse}
    (hresume : room.resume urls settings i = some result) {call : CutoverCall} (hcall : room.cutovers[i]? = some call)
    {operation : RoomCutoverOperation} (hoperation : room.operation call.request.operationId = some operation)
    (hnamed : operation.operationId = call.request.operationId)
    (hids : call.promises.map Prod.fst = operation.sessionIds)
    (h : room.SessionsInHand call.request.nextEpoch pending) :
    call.waiting = true ∧ result.1.cutovers = room.cutovers.set i { call with waiting := false } ∧
      Resumes urls settings room call operation pending result := by
  obtain ⟨call', resumed, hcall', hwaiting, hresumed, hend⟩ := resume_cases hresume
  rw [hcall] at hcall'
  cases hcall'
  have hresumedOperation : resumed.operation call.request.operationId = some operation := by
    rw [hresumed]
    exact hoperation
  have hresumedSession : ∀ id, resumed.session id = room.session id := by
    rw [hresumed]
    exact fun _ => rfl
  have hresumedRegistry : resumed.registry = room.registry := by rw [hresumed]
  have hresumedCutovers : resumed.cutovers = room.cutovers.set i { call with waiting := false } := by rw [hresumed]
  refine ⟨hwaiting, ?_⟩
  rcases hend with ⟨reason, hrejected, rfl⟩ | ⟨hsettled, rfl⟩
  · refine ⟨(cutoverFrame_failCutover resumed _ _ _).cutovers.trans hresumedCutovers, ?_⟩
    refine resumes_failed (Or.inl ?_) hresumedRegistry hresumedOperation hnamed hids (fun id after hafter => ?_)
      (h.of_sessions hresumedSession) reason
    · rw [hrejected]
      rfl
    · exact ⟨after, (hresumedSession id).symm.trans hafter, (GatewaySession.SameSockets.refl after).calmer⟩
  have hfrozen := resumed.sessionsOnly_freezeUnprepared call
  have hfrozenOperation : (resumed.freezeUnprepared call).operation call.request.operationId = some operation := by
    unfold GatewayRoom.operation
    rw [hfrozen.operations]
    exact hresumedOperation
  have hfrozenMoves : SessionsMove plainJoins (· = .freeze) resumed (resumed.freezeUnprepared call) := by
    unfold freezeUnprepared
    split
    · refine sessionsMove_freezeAll ?_ ..
      rfl
    · exact .refl resumed
  have hfrozenHand : (resumed.freezeUnprepared call).SessionsInHand call.request.nextEpoch pending :=
    (h.of_sessions hresumedSession).moves hfrozenMoves fun _ _ heq => (nomatch heq)
  have hrefusal : (swap urls settings (resumed.freezeUnprepared call) call.request).2 =
      (swap urls settings room call.request).2 := swap_snd (hfrozen.registry.trans hresumedRegistry) call.request
  rcases resumed.continueCutover_cases urls settings call with ⟨reason, hswap, heq⟩ |
    ⟨swapped, route, begun, committed, hswap, hbegun, hcommitted, hend⟩
  · rw [heq]
    refine ⟨(cutoverFrame_failCutover _ _ _ _).cutovers.trans (hfrozen.cutovers.trans hresumedCutovers), ?_⟩
    refine resumes_failed (Or.inr ?_) (hfrozen.registry.trans hresumedRegistry) hfrozenOperation hnamed hids
      (fun id after hafter => ?_) hfrozenHand reason
    · rw [← hrefusal, hswap]
      rfl
    · cases hsession : resumed.session id with
      | none =>
        rw [hfrozenMoves.absent id hsession] at hafter
        cases hafter
      | some session =>
        obtain ⟨moved, hmoved, hmoves⟩ := hfrozenMoves.moved id session hsession
        cases hafter.symm.trans hmoved
        refine ⟨session, (hresumedSession id).symm.trans hsession, ?_⟩
        have hsame : GatewaySession.SameSockets session after :=
          hmoves.keeps (I := fun other => GatewaySession.SameSockets session other) (by
            intro middle event last hkind hbefore hs
            subst hkind
            cases hs
            exact hbefore.trans (.of_eq rfl rfl rfl rfl)) (.refl session)
        exact hsame.calmer
  have hgoes : ¬room.FailsFirst urls settings call := by
    rintro (hrejected | hrefused)
    · rw [hsettled] at hrejected
      cases hrejected
    · rw [← hrefusal, hswap] at hrefused
      cases hrefused
  have hswappedEq : swapped = { resumed.freezeUnprepared call with registry := swapped.registry } :=
    cutoverFrame_swap hswap
  have hswappedOperation : swapped.operation call.request.operationId = some operation := by
    rw [hswappedEq]
    exact hfrozenOperation
  have hbegunOperation : begun.operation call.request.operationId =
      some { operation with status := .registryCommitted } := by
    rw [hbegun]
    show (swapped.setStatus call.request.operationId .registryCommitted).operation call.request.operationId = _
    unfold setStatus
    rw [hswappedOperation]
    dsimp only
    rw [operation_setOperation, if_pos hnamed.symm]
  have hbegunHand : begun.SessionsInHand call.request.nextEpoch pending := by
    refine hfrozenHand.of_sessions fun id => ?_
    rw [hbegun]
    refine ((swapped.operationsOnly_setStatus _ _).session id).trans ?_
    rw [hswappedEq]
    rfl
  have hbegunFrame : begun.cutovers = room.cutovers.set i { call with waiting := false } ∧
      begun.registry = swapped.registry := by
    rw [hbegun]
    refine ⟨(swapped.operationsOnly_setStatus _ _).cutovers.trans ?_, (swapped.operationsOnly_setStatus _ _).registry⟩
    rw [hswappedEq]
    exact hfrozen.cutovers.trans hresumedCutovers
  have hcommittedFrame : CutoverFrame begun committed.1 := by
    rw [hcommitted]
    exact cutoverFrame_commitAll ..
  obtain ⟨hrouteNext, hmoved, hepoch⟩ := route_swap hswap
  have hroute : ∀ after : GatewayRoom limits, after.registry = committed.1.registry →
      after.route settings = room.route settings ∨ ∃ current next, room.route settings = some current ∧
        (JsNumber.ofNat current.epoch).strictEq call.request.expectedEpoch = true ∧
        after.route settings = some next ∧ current.epoch < next.epoch := by
    intro after hafter
    have hafterRoute : after.route settings = swapped.route settings := by
      unfold GatewayRoom.route
      rw [hafter, hcommittedFrame.registry, hbegunFrame.2]
    have hfrozenRoute : (resumed.freezeUnprepared call).route settings = room.route settings := by
      unfold GatewayRoom.route
      rw [hfrozen.registry, hresumedRegistry]
    rw [hafterRoute]
    rcases swap_cases urls settings (resumed.freezeUnprepared call) call.request with
      ⟨reason, heq⟩ | ⟨current, hcurrent, -, -, -, heq⟩ | ⟨current, next', hcurrent, hexpected, -, hlt, -, heq⟩
    · rw [hswap] at heq
      cases heq
    · rw [hswap] at heq
      cases heq
      exact Or.inl hfrozenRoute
    · rw [hswap] at heq
      cases heq
      exact Or.inr ⟨current, route, hfrozenRoute.symm.trans hcurrent, hexpected, hrouteNext, hlt⟩
  obtain ⟨replayedInputs, hcommittedOperation⟩ :=
    commitAll_operation route (call.promises.map Prod.fst) hbegunOperation hnamed
  rw [← hcommitted] at hcommittedOperation
  rcases hend with ⟨reason, -, heq⟩ | ⟨hok, ⟨hnone, -⟩ | ⟨last, hlast, heq, response, hresponse⟩⟩
  · have hcommitMoves :
        SessionsMove plainJoins (fun event => ∃ route, event = .commitPrepared route) begun committed.1 := by
      rw [hcommitted]
      exact sessionsMove_commitAll _ ⟨route, rfl⟩ ..
    have hfailMoves : SessionsMove plainJoins (· = .abortPrepared) committed.1
        (committed.1.failCutover call.request.operationId (call.promises.map Prod.fst) reason) := by
      refine sessionsMove_failCutover ?_ ..
      rfl
    have hframe := cutoverFrame_failCutover committed.1 call.request.operationId (call.promises.map Prod.fst) reason
    rw [heq]
    refine ⟨hframe.cutovers.trans (hcommittedFrame.cutovers.trans hbegunFrame.1), ?_⟩
    exact .stops _ hgoes (failCutover_swapped hcommittedOperation hnamed rfl _ _) rfl rfl rfl
      (hroute _ hframe.registry) rfl
      ((hbegunHand.moves hcommitMoves fun _ _ ⟨_, heq⟩ => (nomatch heq)).moves hfailMoves fun _ _ heq => (nomatch heq))
  · rw [hcommittedOperation] at hnone
    cases hnone
  · rw [hcommittedOperation] at hlast
    cases hlast
    have hframe := committed.1.operationsOnly_setOperation
      { operation with status := .committed, replayedInputs, failure := none }
    have hclosed : committed.1.SessionsInHand call.request.nextEpoch fun id =>
        pending id ∧ id ∉ operation.sessionIds := by
      rw [hcommitted, ← hids]
      exact hbegunHand.commitAll hepoch (by rw [← hcommitted]; exact hok)
    generalize resumed.continueCutover urls settings call = result at heq hresponse ⊢
    obtain ⟨after, outcome⟩ := result
    dsimp only at heq hresponse ⊢
    subst heq hresponse
    refine ⟨hframe.cutovers.trans (hcommittedFrame.cutovers.trans hbegunFrame.1), ?_⟩
    refine .commits { operation with status := .committed, replayedInputs, failure := none } hgoes ?_ rfl rfl rfl
      (hroute _ hframe.registry) rfl (hclosed.of_sessions hframe.session)
    exact (operation_setOperation committed.1 _ _).trans (if_pos hnamed.symm)

end GatewayRoom

namespace GatewayRoom

variable {limits : GatewayLimits} {urls : UrlParser} {codec : GatewayJoinCodec} {settings : GatewaySettings}
variable {room next : GatewayRoom limits} {request : CutoverRequest}

private theorem prepareAll_ids (route : RouteArgument) {ids : List Nat}
    (h : ∀ id ∈ ids, ∃ session, room.session id = some session) :
    (prepareAll route room ids).2.map Prod.fst = ids := by
  induction ids generalizing room with
  | nil => rfl
  | cons id ids ih =>
    obtain ⟨session, hsession⟩ := h id (List.mem_cons_self ..)
    have hrest : ∀ other ∈ ids, ∃ after, (room.setSession id (session.prepare route).1).session other = some after := by
      intro other hother
      obtain ⟨before, hbefore⟩ := h other (List.mem_cons_of_mem _ hother)
      rw [session_setSession, hbefore]
      split
      · exact ⟨_, rfl⟩
      · exact ⟨before, rfl⟩
    unfold prepareAll
    rw [hsession]
    exact congrArg _ (ih hrest)

variable (settings) in
/-- A copy that is not refused finds the operation running or begins it; then it fails at a guard, or it waits for the
promises of all the sessions. -/
private theorem cutover_record (hnamed : ∀ operation, room.operation request.operationId = some operation →
    operation.operationId = request.operationId) :
    (room.cutover settings request).1 = room ∨
      ∃ operation later, operation = room.operationFor request ∧
        (∀ existing, room.operation request.operationId = some existing →
          existing.status = .preparing ∨ existing.status = .registryCommitted) ∧
        (room.cutover settings request).1.operation request.operationId = some later ∧
        later.operationId = request.operationId ∧ later.sessionIds = operation.sessionIds ∧
        (room.cutover settings request).1.route settings = room.route settings ∧
        ((later.status = (if operation.status = .registryCommitted then .registryCommitted else .failed) ∧
            (room.cutover settings request).1.cutovers = room.cutovers) ∨
          (later.status = operation.status ∧ ∃ call : CutoverCall, call.request = request ∧ call.waiting = true ∧
            call.promises.map Prod.fst = operation.sessionIds ∧
            (room.cutover settings request).1.cutovers = room.cutovers ++ [call])) := by
  rcases room.cutover_cases settings request with heq | ⟨operation, started, selected, hrefusal, hoperation, hstarted,
    hselected, hend⟩
  · exact Or.inl heq
  refine Or.inr ⟨operation, ?_⟩
  have hrunning : ∀ existing, room.operation request.operationId = some existing →
      existing.status = .preparing ∨ existing.status = .registryCommitted := by
    intro existing hexisting
    unfold cutoverRefusal at hrefusal
    rw [hexisting] at hrefusal
    split at hrefusal
    · cases hrefusal
    dsimp only at hrefusal
    split at hrefusal
    · cases hrefusal
    split at hrefusal
    · cases hrefusal
    split at hrefusal
    · cases hrefusal
    · rename_i hcommitted hfailed
      cases hstatus : existing.status with
      | preparing => exact Or.inl rfl
      | registryCommitted => exact Or.inr rfl
      | committed => exact absurd hstatus hcommitted
      | failed => exact absurd hstatus hfailed
  have hname : operation.operationId = request.operationId := by
    rw [hoperation]
    unfold operationFor
    cases hexisting : room.operation request.operationId with
    | none => rfl
    | some existing => exact hnamed existing hexisting
  have hrecord : started.operation request.operationId = some operation := by
    rw [hstarted, operation_setOperation, if_pos hname.symm]
  have hframe : CutoverFrame room started := by
    rw [hstarted]
    exact (room.operationsOnly_setOperation operation).cutoverFrame
  have hroute : ∀ after : GatewayRoom limits, after.registry = started.registry →
      after.route settings = room.route settings := by
    intro after hafter
    unfold GatewayRoom.route
    rw [hafter, hframe.registry]
  rcases hend with ⟨reason, -, heq⟩ | ⟨hguard, prepared, promises, hprepared, heq⟩
  · have hfailed := cutoverFrame_failCutover started request.operationId selected reason
    rw [heq]
    by_cases hstatus : operation.status = .registryCommitted
    · exact ⟨_, hoperation, hrunning, failCutover_swapped hrecord hname hstatus _ _, hname, rfl,
        hroute _ hfailed.registry,
        Or.inl ⟨by rw [if_pos hstatus]; exact hstatus, hfailed.cutovers.trans hframe.cutovers⟩⟩
    · exact ⟨_, hoperation, hrunning, failCutover_failed hrecord hname hstatus _ _, hname, rfl,
        hroute _ hfailed.registry, Or.inl ⟨by rw [if_neg hstatus], hfailed.cutovers.trans hframe.cutovers⟩⟩
  · have hsame := sessionsOnly_prepareAll (request.route settings) started selected
    -- the guard has found every session of the operation
    have hall : selected = operation.sessionIds ∧ ∀ id ∈ operation.sessionIds, started.isListed id = true := by
      have hlength : selected.length = operation.sessionIds.length := by
        unfold cutoverGuard at hguard
        split at hguard
        · cases hguard
        split at hguard
        · cases hguard
        split at hguard
        · cases hguard
        split at hguard
        · cases hguard
        · rename_i hlength
          exact not_not.1 hlength
      rw [hselected] at hlength ⊢
      have hlisted := List.length_filter_eq_length_iff.1 hlength
      exact ⟨List.filter_eq_self.2 hlisted, hlisted⟩
    have hids : promises.map Prod.fst = operation.sessionIds := by
      have hall' : (prepareAll (request.route settings) started operation.sessionIds).2.map Prod.fst =
          operation.sessionIds := prepareAll_ids _ fun id hid => session_of_isListed (hall.2 id hid)
      rw [← hall.1, hprepared] at hall'
      rw [← hall.1]
      exact hall'
    rw [hprepared] at hsame
    have hrecorded : prepared.operation request.operationId = some operation := by
      unfold GatewayRoom.operation
      rw [hsame.operations]
      exact hrecord
    rw [heq]
    exact ⟨operation, hoperation, hrunning, hrecorded, hname, rfl, hroute _ hsame.registry,
      Or.inr ⟨rfl, _, rfl, rfl, hids, congrArg (· ++ _) (hsame.cutovers.trans hframe.cutovers)⟩⟩

private theorem mem_set_of_mem_eraseIdx {α : Type} {l : List α} {i : Nat} {a b : α} (h : a ∈ l.eraseIdx i) :
    a ∈ l.set i b := by
  obtain ⟨j, hj, hget⟩ := List.mem_eraseIdx_iff_getElem?.1 h
  exact List.mem_of_getElem? ((List.getElem?_set_ne hj.symm).trans hget)

end GatewayRoom

namespace CountedRoom

open GatewayRoom (quiet_step step_cases cutover_record resumes Resumes statusOf Pending Waits operationFor)

variable {limits : GatewayLimits} {urls : UrlParser} {codec : GatewayJoinCodec} {settings : GatewaySettings}
variable {counted next : CountedRoom limits} {request : CutoverRequest}

/-- The copies that there are belong to the operation; while it is prepared a copy waits; and what has been done once
cannot be done again. -/
structure InHand (settings : GatewaySettings) (request : CutoverRequest) (counted : CountedRoom limits) : Prop where
  named : ∀ operation, counted.room.operation request.operationId = some operation →
    operation.operationId = request.operationId
  asked : ∀ call ∈ counted.room.cutovers, call.request = request ∧
    ∃ operation, counted.room.operation request.operationId = some operation ∧
      call.promises.map Prod.fst = operation.sessionIds
  waits : counted.room.statusOf request = some .preparing → counted.room.Waits
  sessions : counted.room.SessionsInHand request.nextEpoch (counted.room.Pending request)
  swaps : counted.swaps = 0 ∨ counted.swaps = 1 ∧ ∃ route, counted.room.route settings = some route ∧
    ∀ n, (JsNumber.ofNat n).strictEq request.expectedEpoch = true → n < route.epoch
  records : counted.records = 0 ∨ counted.records = 1 ∧ counted.room.statusOf request = some .committed

theorem inHand_init (registry : FencedGatewayRoomRegistry) :
    InHand settings request (init registry : CountedRoom limits) where
  named := fun _ h => (nomatch h)
  asked := fun _ h => (nomatch h)
  waits := fun h => (nomatch h)
  sessions := fun _ _ h => (nomatch h)
  swaps := Or.inl rfl
  records := Or.inl rfl

theorem InHand.inOrder_of (h : InHand settings request next) {event : RoomEvent}
    (hstatus : Advances (counted.room.statusOf request) (next.room.statusOf request))
    (hsettled : counted.room.statusOf request = some .committed →
      (∃ copy, event = .cutover copy) ∨ (∃ i, event = .resume i) →
      next.room.sessions = counted.room.sessions ∧ next.room.verification = counted.room.verification) :
    InOrder request counted event next where
  status := hstatus
  settled := hsettled
  swaps := by rcases h.swaps with h | h <;> omega
  records := by rcases h.records with h | h <;> omega
  accounted := fun id session hsession => (h.sessions id session hsession).accounted

/-- A step that leaves the operation and its copies alone. -/
private theorem InHand.quiet {event : RoomEvent} (h : InHand settings request counted)
    (hcutover : ∀ copy, event ≠ .cutover copy) (hresume : ∀ i, event ≠ .resume i)
    (horderly : counted.room.Orderly urls settings request event)
    (hs : counted.step urls codec settings event = some next) :
    InOrder request counted event next ∧ InHand settings request next := by
  obtain ⟨room, hroom, hnext⟩ := Option.map_eq_some_iff.1 hs
  have hnext : next = { counted with room } := by
    rw [← hnext]
    cases event with
    | resume i => exact absurd rfl (hresume i)
    | _ => rfl
  subst hnext
  obtain ⟨hoperations, hcutovers, hprecedes⟩ := quiet_step hcutover hresume hroom
  have hoperation : room.operation request.operationId = counted.room.operation request.operationId := by
    unfold GatewayRoom.operation
    rw [hoperations]
  have hstatus : room.statusOf request = counted.room.statusOf request := by
    unfold statusOf
    rw [hoperation]
  have hpending : ∀ id, room.Pending request id ↔ counted.room.Pending request id := by
    intro id
    unfold Pending Waits
    rw [hoperation, hcutovers]
  have hsessions := h.sessions.step (fun id call token heq => by subst heq; exact horderly) hroom
  have hkept : InHand settings request { counted with room } := {
    named := by rw [hoperation]; exact h.named
    asked := by rw [hoperation, hcutovers]; exact h.asked
    waits := by unfold Waits; rw [hstatus, hcutovers]; exact h.waits
    sessions := hsessions.mono fun id => (hpending id).2
    swaps := h.swaps.imp id fun hswapped => ⟨hswapped.1, by
      obtain ⟨route, hroute, hpast⟩ := hswapped.2
      obtain ⟨later, hlater, hle⟩ := hprecedes _ route hroute
      exact ⟨later, hlater, fun n hn => Nat.lt_of_lt_of_le (hpast n hn) hle⟩⟩
    records := by rw [hstatus]; exact h.records }
  refine ⟨hkept.inOrder_of (by rw [hstatus]; exact .stays _) fun _ hcopy => ?_, hkept⟩
  rcases hcopy with ⟨copy, heq⟩ | ⟨i, heq⟩
  · exact absurd heq (hcutover copy)
  · exact absurd heq (hresume i)

/-- The request once more. -/
private theorem InHand.cutover (h : InHand settings request counted)
    (hs : counted.step urls codec settings (.cutover request) = some next) :
    InOrder request counted (.cutover request) next ∧ InHand settings request next := by
  obtain ⟨room, hroom, rfl⟩ := Option.map_eq_some_iff.1 hs
  have hsessions := h.sessions.step (fun _ _ _ heq => by cases heq) hroom
  have hroomEq : room = (counted.room.cutover settings request).1 := by
    rcases step_cases hroom with ⟨i, result, heq, -⟩ | ⟨-, hevent⟩
    · cases heq
    · exact (Option.some.inj hevent).symm
  rcases cutover_record settings h.named with heq |
    ⟨operation, later, hoperation, hrunning, hlater, hname, hids, hroute, hend⟩
  · -- the outcome that is recorded is given again
    rw [← hroomEq] at heq
    subst heq
    exact ⟨h.inOrder_of (.stays _) fun _ _ => ⟨rfl, rfl⟩, h⟩
  rw [← hroomEq] at hlater hroute hend
  have hrunningStatus :
      counted.room.statusOf request = none ∧ operation.status = .preparing ∧ counted.room.cutovers = [] ∨
      counted.room.operation request.operationId = some operation ∧
        (operation.status = .preparing ∨ operation.status = .registryCommitted) := by
    cases hexisting : counted.room.operation request.operationId with
    | none =>
      refine Or.inl ⟨by rw [statusOf, hexisting]; rfl, ?_, ?_⟩
      · rw [hoperation, operationFor, hexisting]
        rfl
      · refine List.eq_nil_iff_forall_not_mem.2 fun call hcall => ?_
        obtain ⟨-, existing, hrecorded, -⟩ := h.asked call hcall
        rw [hexisting] at hrecorded
        cases hrecorded
    | some existing =>
      have heq : operation = existing := by rw [hoperation, operationFor, hexisting]; rfl
      rw [heq]
      exact Or.inr ⟨rfl, hrunning existing hexisting⟩
  have hlaterStatus : room.statusOf request = some later.status := by rw [statusOf, hlater]; rfl
  have hasked : ∀ call ∈ counted.room.cutovers, call.request = request ∧
      ∃ operation, room.operation request.operationId = some operation ∧
        call.promises.map Prod.fst = operation.sessionIds := by
    intro call hcall
    obtain ⟨hsame, existing, hrecorded, hpromises⟩ := h.asked call hcall
    refine ⟨hsame, later, hlater, ?_⟩
    rcases hrunningStatus with ⟨-, -, hnil⟩ | ⟨hrecorded', -⟩
    · rw [hnil] at hcall
      cases hcall
    · rw [hrecorded] at hrecorded'
      cases hrecorded'
      rw [hids, hpromises]
  -- what was to be decided still is
  have hpending : (counted.room.Waits → room.Waits) →
      (later.status = .registryCommitted ∨ operation.status ≠ .registryCommitted ∧ later.status ≠ .committed) →
      ∀ id, counted.room.Pending request id → room.Pending request id := by
    rintro hwaits hleft id ⟨existing, hrecorded, hid, hopen⟩
    rcases hrunningStatus with ⟨hnone, -⟩ | ⟨hrecorded', -⟩
    · rw [statusOf, Option.map_eq_none_iff] at hnone
      rw [Option.mem_def, hnone] at hrecorded
      cases hrecorded
    · rw [Option.mem_def, hrecorded'] at hrecorded
      cases hrecorded
      refine ⟨later, hlater, hids ▸ hid, hleft.imp (fun h => h) fun hbefore => ⟨hbefore.2, hwaits ?_⟩⟩
      rcases hopen with hswapped | hwaiting
      · exact absurd hswapped hbefore.1
      · exact hwaiting.2
  have hadvances : later.status = operation.status ∨
      later.status = (if operation.status = .registryCommitted then .registryCommitted else .failed) →
      Advances (counted.room.statusOf request) (room.statusOf request) := by
    intro hstatus
    rw [hlaterStatus]
    rcases hrunningStatus with ⟨hnone, hpreparing, -⟩ | ⟨hrecorded, hpreparing | hswapped⟩
    · rw [hpreparing, if_neg (by decide)] at hstatus
      rw [hnone]
      rcases hstatus with hstatus | hstatus
      · rw [hstatus]
        exact .begins
      · rw [hstatus]
        exact .refused
    · rw [hpreparing, if_neg (by decide)] at hstatus
      rw [statusOf, hrecorded, Option.map_some, hpreparing]
      rcases hstatus with hstatus | hstatus
      · rw [hstatus]
        exact .stays _
      · rw [hstatus]
        exact .fails
    · rw [hswapped, if_pos rfl, or_self] at hstatus
      rw [statusOf, hrecorded, Option.map_some, hswapped, hstatus]
      exact .stays _
  have hsettled : counted.room.statusOf request ≠ some .committed := by
    intro hcommitted
    rcases hrunningStatus with ⟨hnone, -⟩ | ⟨hrecorded, hstatus⟩
    · rw [hnone] at hcommitted
      cases hcommitted
    · rw [statusOf, hrecorded, Option.map_some] at hcommitted
      rcases hstatus with hstatus | hstatus
      · rw [hstatus] at hcommitted
        cases hcommitted
      · rw [hstatus] at hcommitted
        cases hcommitted
  have hnotRecorded : counted.records = 0 := by
    rcases h.records with hzero | ⟨-, hcommitted⟩
    · exact hzero
    · exact absurd hcommitted hsettled
  have hswaps : counted.swaps = 0 ∨ counted.swaps = 1 ∧ ∃ route, room.route settings = some route ∧
      ∀ n, (JsNumber.ofNat n).strictEq request.expectedEpoch = true → n < route.epoch := by
    rw [hroute]
    exact h.swaps
  have hnamed : ∀ operation, room.operation request.operationId = some operation →
      operation.operationId = request.operationId := by
    intro other hother
    rw [hlater] at hother
    cases hother
    exact hname
  rcases hend with ⟨hstatus, hcutovers⟩ | ⟨hstatus, call, hsame, hwaiting, hpromises, hcutovers⟩
  · have hkept : InHand settings request { counted with room } := {
      named := hnamed
      asked := by rw [hcutovers]; exact hasked
      waits := by
        rw [hlaterStatus, hstatus]
        split
        · exact fun heq => (nomatch heq)
        · exact fun heq => (nomatch heq)
      sessions := hsessions.mono (hpending (by unfold Waits; rw [hcutovers]; exact id) (by
        rw [hstatus]
        split
        · exact Or.inl rfl
        · rename_i hbefore
          exact Or.inr ⟨hbefore, by decide⟩))
      swaps := hswaps
      records := Or.inl hnotRecorded }
    exact ⟨hkept.inOrder_of (hadvances (Or.inr hstatus)) fun hcommitted => absurd hcommitted hsettled, hkept⟩
  · have hmem : call ∈ room.cutovers := by
      rw [hcutovers]
      exact List.mem_append_right _ (List.mem_singleton_self call)
    have hkept : InHand settings request { counted with room } := {
      named := hnamed
      asked := by
        intro other hother
        rw [hcutovers] at hother
        rcases List.mem_append.1 hother with hother | hother
        · exact hasked other hother
        · rw [List.mem_singleton.1 hother]
          exact ⟨hsame, later, hlater, hids ▸ hpromises⟩
      waits := fun _ => ⟨call, hmem, hwaiting⟩
      sessions := hsessions.mono (hpending (fun _ => ⟨call, hmem, hwaiting⟩) (by
        rw [hstatus]
        rcases hrunningStatus with ⟨-, hpreparing, -⟩ | ⟨-, hpreparing | hswapped⟩
        · exact Or.inr ⟨by rw [hpreparing]; decide, by rw [hpreparing]; decide⟩
        · exact Or.inr ⟨by rw [hpreparing]; decide, by rw [hpreparing]; decide⟩
        · exact Or.inl hswapped))
      swaps := hswaps
      records := Or.inl hnotRecorded }
    exact ⟨hkept.inOrder_of (hadvances (Or.inl hstatus)) fun hcommitted => absurd hcommitted hsettled, hkept⟩

/-- A route that has been moved is behind the expected epoch for good. -/
private theorem InHand.swapped (h : InHand settings request counted) {after : GatewayRoom limits}
    (hroute : after.route settings = counted.room.route settings ∨ ∃ current next,
      counted.room.route settings = some current ∧
      (JsNumber.ofNat current.epoch).strictEq request.expectedEpoch = true ∧ after.route settings = some next ∧
      current.epoch < next.epoch) :
    let swaps := counted.swaps + if after.route settings = counted.room.route settings then 0 else 1
    swaps = 0 ∨ swaps = 1 ∧ ∃ route, after.route settings = some route ∧
      ∀ n, (JsNumber.ofNat n).strictEq request.expectedEpoch = true → n < route.epoch := by
  rcases hroute with hsame | ⟨current, next, hcurrent, hexpected, hnext, hlt⟩
  · rw [if_pos hsame, hsame]
    exact h.swaps
  · have hpast : ∀ n, (JsNumber.ofNat n).strictEq request.expectedEpoch = true → n < next.epoch := by
      intro n hn
      rw [JsNumber.strictEq_ofNat_inj hn hexpected]
      exact hlt
    have hne : after.route settings ≠ counted.room.route settings := by
      rw [hcurrent, hnext]
      rintro ⟨⟩
      omega
    have hzero : counted.swaps = 0 := by
      rcases h.swaps with hzero | ⟨-, route, hroute, hbehind⟩
      · exact hzero
      · rw [hcurrent] at hroute
        cases hroute
        exact absurd (hbehind current.epoch hexpected) (Nat.lt_irrefl _)
    rw [if_neg hne, hzero]
    exact Or.inr ⟨rfl, next, hnext, hpast⟩

/-- A copy goes on. -/
private theorem InHand.resume {i : Nat} (h : InHand settings request counted)
    (horderly : counted.room.ResumesOrderly urls settings i)
    (hs : counted.step urls codec settings (.resume i) = some next) :
    InOrder request counted (.resume i) next ∧ InHand settings request next := by
  obtain ⟨room, hroom, rfl⟩ := Option.map_eq_some_iff.1 hs
  rcases step_cases hroom with ⟨j, result, heq, hresume, rfl⟩ | ⟨-, hevent⟩
  case inr => cases hevent
  cases heq
  obtain ⟨call, -, hcall, -⟩ := GatewayRoom.resume_cases hresume
  obtain ⟨rfl, operation, hoperation, hids⟩ := h.asked call (List.mem_of_getElem? hcall)
  have hnamed := h.named operation hoperation
  obtain ⟨-, hcutovers, hend⟩ := resumes hresume hcall hoperation hnamed hids h.sessions
  have horderly := horderly call hcall operation hoperation
  have hbefore : counted.room.statusOf call.request = some operation.status := by
    rw [statusOf, hoperation]
    rfl
  have hpending : ∀ id, counted.room.Pending call.request id → id ∈ operation.sessionIds := by
    rintro id ⟨other, hother, hid, -⟩
    rw [Option.mem_def, hoperation] at hother
    cases hother
    exact hid
  have hrecords : ∀ outcome : Bool, result.2.isOk = outcome → counted.records +
      (if (counted.room.resume urls settings i).any fun result => result.2.isOk then 1 else 0) =
        counted.records + if outcome then 1 else 0 := by
    rintro outcome rfl
    rw [hresume]
    rfl
  have hrunning : operation.status ≠ .committed := by
    rcases horderly with heq | ⟨heq | heq, -⟩
    · rw [heq]
      decide
    · rw [heq]
      decide
    · rw [heq.1]
      decide
  have hsettled : counted.room.statusOf call.request ≠ some .committed := by
    rw [hbefore]
    exact fun heq => hrunning (Option.some.inj heq)
  have hnotRecorded : counted.records = 0 := h.records.elim (fun h => h) fun hrecorded => absurd hrecorded.2 hsettled
  -- what is left is the status, the candidates, and what is counted
  have hkeeps : ∀ later : RoomCutoverOperation, ∀ outcome : Bool,
      result.1.operation call.request.operationId = some later → later.operationId = operation.operationId →
      later.sessionIds = operation.sessionIds → later.status ≠ .preparing →
      (result.1.route settings = counted.room.route settings ∨ ∃ current next,
        counted.room.route settings = some current ∧
        (JsNumber.ofNat current.epoch).strictEq call.request.expectedEpoch = true ∧
        result.1.route settings = some next ∧ current.epoch < next.epoch) →
      result.2.isOk = outcome → (outcome = true → later.status = .committed) →
      result.1.SessionsInHand call.request.nextEpoch (result.1.Pending call.request) →
      Advances (some operation.status) (some later.status) →
      InOrder call.request counted (.resume i) (counted.count urls settings (.resume i) result.1) ∧
        InHand settings call.request (counted.count urls settings (.resume i) result.1) := by
    intro later outcome hlater hname hlaterIds hlaterStatus hroute hresult hcommitted hsessions hadvances
    have hlaterBefore : result.1.statusOf call.request = some later.status := by
      rw [statusOf, hlater]
      rfl
    have hkept : InHand settings call.request (counted.count urls settings (.resume i) result.1) := {
      named := by
        intro other hother
        rw [show (counted.count urls settings (.resume i) result.1).room = result.1 from rfl, hlater] at hother
        cases hother
        exact hname.trans hnamed
      asked := by
        intro other hother
        rw [show (counted.count urls settings (.resume i) result.1).room = result.1 from rfl, hcutovers] at hother
        rcases List.mem_or_eq_of_mem_set hother with hother | rfl
        · obtain ⟨hsame, operation', hoperation', hids'⟩ := h.asked other hother
          rw [hoperation] at hoperation'
          cases hoperation'
          exact ⟨hsame, later, hlater, hlaterIds ▸ hids'⟩
        · exact ⟨rfl, later, hlater, hlaterIds ▸ hids⟩
      waits := fun hpreparing => absurd (Option.some.inj (hlaterBefore.symm.trans hpreparing)) hlaterStatus
      sessions := hsessions
      swaps := h.swapped hroute
      records := by
        rw [show (counted.count urls settings (.resume i) result.1).records = _ from hrecords outcome hresult,
          hnotRecorded]
        cases outcome with
        | false => exact Or.inl rfl
        | true => exact Or.inr ⟨rfl, hlaterBefore.trans (congrArg some (hcommitted rfl))⟩ }
    refine ⟨hkept.inOrder_of ?_ fun hcommitted => absurd hcommitted hsettled, hkept⟩
    rw [hbefore, show (counted.count urls settings (.resume i) result.1).room = result.1 from rfl, hlaterBefore]
    exact hadvances
  cases hend with
  | fails later hfails hlater hname hlaterIds hstatus hroute hresult hkept hclosed =>
    refine hkeeps later false hlater hname hlaterIds ?_ (Or.inl hroute) hresult (fun heq => (nomatch heq)) ?_ ?_
    · rw [hstatus]
      split
      · decide
      · decide
    · rcases horderly with hswapped | ⟨hbefore, hleft⟩
      · rw [if_pos hswapped] at hstatus
        exact hkept.mono fun id hid => ⟨later, hlater, hlaterIds ▸ hpending id hid, Or.inl hstatus⟩
      · have hne : operation.status ≠ .registryCommitted := by
          rcases hbefore with heq | heq
          · rw [heq]
            decide
          · rw [heq.1]
            decide
        rw [if_neg hne] at hstatus
        rcases hleft hfails with hreach | ⟨other, hother, hwaiting⟩
        · exact (hclosed hne hreach).mono fun id hid => absurd (hpending id hid.1) hid.2
        · refine hkept.mono fun id hid => ⟨later, hlater, hlaterIds ▸ hpending id hid, Or.inr ⟨?_, other, ?_, hwaiting⟩⟩
          · rw [hstatus]
            decide
          · rw [hcutovers]
            exact GatewayRoom.mem_set_of_mem_eraseIdx hother
    · rcases horderly with hswapped | ⟨hpreparing | hfailed, -⟩
      · rw [hstatus, hswapped, if_pos rfl]
        exact .stays _
      · rw [hstatus, hpreparing, if_neg (by decide)]
        exact .fails
      · rw [hstatus, hfailed.1, if_neg (by decide)]
        exact .stays _
  | stops later hgoes hlater hname hlaterIds hstatus hroute hresult hkept =>
    refine hkeeps later false hlater hname hlaterIds (by rw [hstatus]; decide) hroute hresult (fun heq => (nomatch heq))
      (hkept.mono fun id hid => ⟨later, hlater, hlaterIds ▸ hpending id hid, Or.inl hstatus⟩) ?_
    rcases horderly with hswapped | ⟨hpreparing | hfailed, -⟩
    · rw [hstatus, hswapped]
      exact .stays _
    · rw [hstatus, hpreparing]
      exact .swaps
    · exact absurd hfailed.2 hgoes
  | commits later hgoes hlater hname hlaterIds hstatus hroute hresult hclosed =>
    refine hkeeps later true hlater hname hlaterIds (by rw [hstatus]; decide) hroute hresult (fun _ => hstatus)
      (hclosed.mono fun id hid => absurd (hpending id hid.1) hid.2) ?_
    rcases horderly with hswapped | ⟨hpreparing | hfailed, -⟩
    · rw [hstatus, hswapped]
      exact .completes
    · rw [hstatus, hpreparing]
      exact .commits
    · exact absurd hfailed.2 hgoes

/-- An orderly step leaves the operation in order. -/
theorem InHand.step {event : RoomEvent} (h : InHand settings request counted)
    (hcopy : ∀ copy, event = .cutover copy → copy = request)
    (horderly : counted.room.Orderly urls settings request event)
    (hs : counted.step urls codec settings event = some next) :
    InOrder request counted event next ∧ InHand settings request next := by
  cases event with
  | resume i => exact h.resume horderly hs
  | cutover copy =>
    cases hcopy copy rfl
    exact h.cutover hs
  | _ => exact h.quiet (fun _ heq => by cases heq) (fun _ heq => by cases heq) horderly hs

/-- In every run of copies of one request, beside whatever else happens at the room, the operation stays in order, if
each step is orderly. -/
theorem copies_in_order (registry : FencedGatewayRoomRegistry) (request : CutoverRequest) (events : List RoomEvent)
    (hcopies : ∀ copy, .cutover copy ∈ events → copy = request)
    (horderly : Machine.EachStep (step urls codec settings)
      (fun counted event => counted.room.Orderly urls settings request event) (init registry : CountedRoom limits)
      events) :
    Machine.EachStep (step urls codec settings)
      (fun (counted : CountedRoom limits) event => ∀ next, counted.step urls codec settings event = some next →
        InOrder request counted event next) (init registry) events := by
  have hboth := horderly.and_mem (R := fun event => ∀ copy, event = .cutover copy → copy = request)
    fun event hevent copy heq => hcopies copy (heq ▸ hevent)
  have hinit : InHand settings request (init registry : CountedRoom limits) := inHand_init registry
  exact Machine.EachStep.of_inv (fun counted event next (h : InHand settings request counted) hcondition hs =>
    ⟨fun next' hs' => (h.step hcondition.2 hcondition.1 hs').1, (h.step hcondition.2 hcondition.1 hs).2⟩) hinit hboth

private def cutoverOfOne : CutoverRequest where
  operationId := "op"
  expectedEpoch := .ofNat 1
  nextEpoch := .ofNat 2
  endpoint := "http://candidate:3000"
  revision := none
  checksumMatched := true
  caughtUp := true

private def frozenRoom : List RoomEvent :=
  [.register "http://active:3000" (.ofNat 1), .connect, .socket 0 (.receive [1] true), .socket 0 (.opened 0),
    .freeze "op" (.ofNat 1) none]

/-- One copy runs to its end, and the others come behind it: one before and one behind the verification. -/
theorem copies_one_after_the_other : Machine.EachStep (step plainUrls plainJoins firstRoom)
    (fun (counted : CountedRoom fourInputs) event =>
      ∀ next, counted.step plainUrls plainJoins firstRoom event = some next → InOrder cutoverOfOne counted event next)
    (init .empty)
    (frozenRoom ++ [.cutover cutoverOfOne, .socket 0 (.matchFound 0 "token"), .socket 0 (.opened 1),
      .socket 0 (.frame 1 (.frame (.output 2 0 []))), .resume 0, .cutover cutoverOfOne, .finalize "op" false,
      .cutover cutoverOfOne]) :=
  copies_in_order .empty cutoverOfOne _ (by simp [frozenRoom]) (by decide +kernel)

/-- Two copies look for a match at the same time, and the session forgets the socket of the first one. -/
theorem overlapping_copies : ¬∀ (limits : GatewayLimits) (urls : UrlParser) (codec : GatewayJoinCodec)
    (settings : GatewaySettings) (registry : FencedGatewayRoomRegistry) (request : CutoverRequest)
    (events : List RoomEvent), (∀ copy, .cutover copy ∈ events → copy = request) →
    Machine.EachStep (step urls codec settings)
      (fun (counted : CountedRoom limits) event => ∀ next, counted.step urls codec settings event = some next →
        InOrder request counted event next) (init registry) events := by
  intro h
  have horphan := (h fourInputs plainUrls plainJoins firstRoom .empty cutoverOfOne (frozenRoom ++ [.cutover cutoverOfOne,
    .cutover cutoverOfOne, .socket 0 (.matchFound 0 "first"), .socket 0 (.matchFound 1 "second")])
    (by simp [frozenRoom])).mono (R := fun counted event => ∀ next ∈ counted.step plainUrls plainJoins firstRoom event,
      ∀ session ∈ next.room.session 0, ∀ upstream ∈ session.upstream 1, upstream.candidate.isSome = true →
        upstream.Alive → session.current = some 1 ∨ session.prepared = some 1)
    fun counted event horder next hnext session hsession upstream hupstream hcandidate halive =>
      ((horder next hnext).accounted 0 session hsession 1 upstream hupstream hcandidate halive).imp (fun h => h)
        fun hprepared => hprepared.1
  exact absurd horphan (by decide +kernel)

end CountedRoom

end Opsia
