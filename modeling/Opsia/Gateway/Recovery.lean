import Opsia.Gateway.Replay
import Opsia.Gateway.Sockets
import Opsia.Gateway.Upstreams

/-!
# One session in a repeated cutover

A cutover that is repeated behind its swap prepares the session again, lets its candidate answer and commits it.  The
session gets through exactly when it can be prepared and can be committed (`recovers_iff`): it is open and joined, has
or gets an open candidate of the route and its replay fits, or it is on the route already and has not been left frozen.
-/

namespace Opsia

open Json BufferedGatewayInput
open GatewaySession (PreparePromise)

/-- What a reachable candidate gives a session that prepares: its match token and its first output. -/
structure CandidateAnswer where
  token : String
  serverTick : Nat
  payload : Payload

namespace GatewaySession

variable {limits : GatewayLimits}

/-- The events of a candidate that answers a `prepare`. -/
def answerEvents (session : GatewaySession limits) (epoch : Nat) (answer : CandidateAnswer) :
    PreparePromise → List SocketEvent
  | .pending call =>
    [.matchFound call answer.token, .opened session.upstreams.length,
      .frame session.upstreams.length (.frame (.output epoch answer.serverTick answer.payload))]
  | .resolved | .rejected _ => []

/-- The replay fits the wire and the shadow. -/
def ReplayFits (session : GatewaySession limits) (epoch : Nat) : Prop :=
  (epoch ≤ 0xffffffff ∨ session.replay = []) ∧
    session.replay.length ≤ limits.maxMessages ∧ totalBytes session.replay ≤ limits.maxBytes

/-- The session is open and joined, and is on the route, has its candidate, or can join one. -/
def Preparable (codec : GatewayJoinCodec) (session : GatewaySession limits) (route : RouteArgument) (token : String) :
    Prop :=
  session.stopped = false ∧ ∃ join, session.initialJoin = some join ∧
    (session.boundTo route.endpoint route.epoch = true ∨
      match session.preparedUpstream with
      | some candidate => candidate.epoch.strictEq route.epoch = true ∧ candidate.endpoint = route.endpoint
      | none => safeUint32 route.epoch ≠ none ∧ ∃ payload, codec.writeGatewayJoin join token = .ok payload)

/-- A session on the route has not been left frozen; any other has, or gets, an open candidate of the route, and its
replay fits. -/
def Committable (session : GatewaySession limits) (route : RouteArgument) (next : GatewayRoomRoute) : Prop :=
  if session.boundTo next.endpoint (.ofNat next.epoch) then session.frozen = false
  else
    session.ReplayFits next.epoch ∧
      match session.preparedUpstream with
      | some candidate =>
        candidate.epoch.strictEq (.ofNat next.epoch) = true ∧ candidate.endpoint = next.endpoint ∧
          candidate.readyState = .opened
      | none => session.boundTo route.endpoint route.epoch = false ∧ route.endpoint = next.endpoint

/-- The session plays on at the route. -/
def PlaysAt (session : GatewaySession limits) (route : GatewayRoomRoute) : Prop :=
  session.boundTo route.endpoint (.ofNat route.epoch) = true ∧ session.frozen = false

variable (codec : GatewayJoinCodec)

/-- The candidate answers; an event that cannot happen is left out. -/
def answered (session : GatewaySession limits) (epoch : Nat) (answer : CandidateAnswer) (promise : PreparePromise) :
    GatewaySession limits :=
  (session.answerEvents epoch answer promise).foldl (fun session event => (session.socketStep codec event).getD session)
    session

end GatewaySession
/-! ### Preparing one session -/

namespace GatewaySession

variable {limits : GatewayLimits}

/-- The current upstream is a connection that was made. -/
def HasCurrent (session : GatewaySession limits) : Prop :=
  ∀ i, session.current = some i → i < session.upstreams.length

private theorem HasCurrent.settles {session next : GatewaySession limits} (h : HasCurrent session)
    (hs : Settles session next) : HasCurrent next := by
  intro i hi
  rcases hs with hsame | hended
  · rw [hsame.length]
    exact h i (hsame.current ▸ hi)
  · rw [hended.current] at hi
    cases hi

/-- Every step keeps it. -/
theorem HasCurrent.step {codec : GatewayJoinCodec} {session next : GatewaySession limits}
    {event : GatewaySessionEvent} (h : HasCurrent session) (hs : session.step codec event = some next) :
    HasCurrent next := by
  cases event with
  | socket event =>
    by_cases hmatch : ∃ call token, event = .matchFound call token
    · obtain ⟨call, token, rfl⟩ := hmatch
      have hs : session.socketStep codec (.matchFound call token) = some next := hs
      obtain ⟨route, -, rfl⟩ := matchFound_sockets hs
      intro i hi
      exact (h i hi).trans (by simp [connectCandidate])
    · have hs : session.socketStep codec event = some next := hs
      exact h.settles (settles_of_socketStep hs fun call token heq => hmatch ⟨call, token, heq⟩)
  | prepare route =>
    cases hs
    exact h.settles (Or.inl (session.sameSockets_prepare route))
  | freeze =>
    cases hs
    exact h
  | commitPrepared route =>
    cases hs
    rcases session.commitPrepared_sockets route with heq | hswitched
    · rw [heq]
      exact h
    · obtain ⟨i, -, hcurrent, hi⟩ := hswitched.prepared_some
      intro j hj
      rw [hcurrent] at hj
      cases hj
      rw [hswitched.length]
      exact hi
  | abortPrepared =>
    cases hs
    have haborted := session.aborted_abortPrepared
    intro i hi
    rw [haborted.length]
    exact h i (haborted.current ▸ hi)
  | finalizeVerification =>
    cases hs
    exact h
  | stop =>
    cases hs
    exact h.settles session.stop_sockets

theorem boundTo_congr {session other : GatewaySession limits} (h : other.currentUpstream = session.currentUpstream)
    (endpoint : String) (epoch : JsNumber) : other.boundTo endpoint epoch = session.boundTo endpoint epoch := by
  unfold boundTo
  rw [h]

/-- What `prepare` does, by its guards. -/
private theorem prepare_cases (session : GatewaySession limits) (route : RouteArgument) :
    (∃ reason, session.prepare route = (session, .rejected reason) ∧
        (session.stopped = true ∨ session.initialJoin = none ∨
          session.boundTo route.endpoint route.epoch = false ∧ ∃ candidate, session.preparedUpstream = some candidate ∧
            ¬(candidate.epoch.strictEq route.epoch = true ∧ candidate.endpoint = route.endpoint))) ∨
      ∃ join, session.stopped = false ∧ session.initialJoin = some join ∧
        ((session.prepare route = (session, .resolved) ∧
            (session.boundTo route.endpoint route.epoch = true ∨ ∃ candidate, session.preparedUpstream = some candidate ∧
              candidate.epoch.strictEq route.epoch = true ∧ candidate.endpoint = route.endpoint)) ∨
          (session.prepare route =
              ({ session with calls := session.calls ++ [{ route }] }, .pending session.calls.length) ∧
            session.boundTo route.endpoint route.epoch = false ∧ session.preparedUpstream = none)) := by
  unfold GatewaySession.prepare
  split
  · exact Or.inl ⟨_, rfl, Or.inl (by assumption)⟩
  · rename_i hstopped
    split
    · rename_i hjoin
      exact Or.inl ⟨_, rfl, Or.inr (Or.inl (Option.isNone_iff_eq_none.1 hjoin))⟩
    · rename_i hjoin
      obtain ⟨join, hjoin⟩ := Option.ne_none_iff_exists'.1 fun h => hjoin (Option.isNone_iff_eq_none.2 h)
      split
      · exact Or.inr ⟨join, by simpa using hstopped, hjoin, Or.inl ⟨rfl, Or.inl (by assumption)⟩⟩
      · rename_i hbound
        split
        · rename_i candidate hcandidate
          split
          · rename_i hmatch
            exact Or.inr ⟨join, by simpa using hstopped, hjoin, Or.inl ⟨rfl, Or.inr ⟨candidate, hcandidate, by
              simpa using hmatch⟩⟩⟩
          · rename_i hmatch
            exact Or.inl ⟨_, rfl, Or.inr (Or.inr ⟨by simpa using hbound, candidate, hcandidate, by simpa using hmatch⟩)⟩
        · rename_i hcandidate
          exact Or.inr ⟨join, by simpa using hstopped, hjoin, Or.inr ⟨rfl, by simpa using hbound, hcandidate⟩⟩

variable {codec : GatewayJoinCodec}

private theorem setUpstream_setUpstream (session : GatewaySession limits) (i : Nat)
    (first second : UpstreamConnection) :
    (session.setUpstream i first).setUpstream i second = session.setUpstream i second := by
  unfold setUpstream
  rw [List.set_set]

private theorem upstream_setUpstream_self {session : GatewaySession limits} {i : Nat} {old : UpstreamConnection}
    (h : session.upstream i = some old) (connection : UpstreamConnection) :
    (session.setUpstream i connection).upstream i = some connection := by
  have hi := (List.getElem?_eq_some_iff.1 h).1
  unfold upstream setUpstream
  exact List.getElem?_set_self hi

variable (codec) in
/-- A candidate that is connecting opens and sends its first output: it is ready if it got a join. -/
private theorem candidate_answers (session : GatewaySession limits) {i : Nat} {connection : UpstreamConnection}
    {candidate : PreparedUpstream} (hupstream : session.upstream i = some connection)
    (hcandidate : connection.candidate = some candidate) (hstate : connection.readyState = .connecting)
    (hphase : connection.phase = .opening) (hcommitted : candidate.committed = false)
    (hlistening : candidate.listening = false) {epoch : Nat}
    (hepoch : (JsNumber.ofNat epoch).strictEq connection.epoch = true) (serverTick : Nat) (payload : Payload)
    {join : Payload} (hjoin : session.initialJoin = some join) {ended : GatewaySession limits}
    (hended : ended = [.opened i, .frame i (.frame (.output epoch serverTick payload))].foldl
      (fun session event => (session.socketStep codec event).getD session) session) :
    ∃ last, ended = session.setUpstream i last ∧ last.endpoint = connection.endpoint ∧ last.epoch = connection.epoch ∧
      last.readyState = .opened ∧
      ((safeUint32 connection.epoch ≠ none ∧ (∃ joined, codec.writeGatewayJoin join candidate.token = .ok joined) ∧
          last.phase = .ready) ∨
        (¬(safeUint32 connection.epoch ≠ none ∧ ∃ joined, codec.writeGatewayJoin join candidate.token = .ok joined) ∧
          ∃ reason, last.phase = .failed reason)) := by
  have hopen : session.socketStep codec (.opened i) =
      some (session.candidateOpened codec i { connection with readyState := .opened } candidate) := by
    simp only [socketStep, hupstream, hstate, hphase, opened, hcandidate, and_self, if_true]
  rw [List.foldl_cons, hopen, Option.getD_some, List.foldl_cons, List.foldl_nil] at hended
  -- a candidate without a join has no listeners, and its frame is not read
  have hrejected : ∀ reason, session.candidateOpened codec i { connection with readyState := .opened } candidate =
      session.setUpstream i { connection with readyState := .opened, phase := .failed reason } →
      ended = session.setUpstream i { connection with readyState := .opened, phase := .failed reason } := by
    intro reason heq
    rw [heq] at hended
    rw [hended]
    simp only [socketStep, upstream_setUpstream_self hupstream, hcandidate, hlistening]
    rfl
  cases hwrite : codec.writeGatewayJoin join candidate.token with
  | error reason =>
    refine ⟨_, hrejected reason ?_, rfl, rfl, rfl, Or.inr ⟨?_, reason, rfl⟩⟩
    · simp only [candidateOpened, hjoin, Option.getD_some, hwrite, rejectOpening, hcandidate]
    · rintro ⟨-, joined, heq⟩
      cases heq
  | ok joined =>
    cases hfits : safeUint32 connection.epoch with
    | none =>
      refine ⟨_, hrejected "gateway_room_epoch_invalid" ?_, rfl, rfl, rfl, Or.inr ⟨fun h => h.1 rfl, _, rfl⟩⟩
      simp only [candidateOpened, hjoin, Option.getD_some, hwrite, UpstreamConnection.sendInput, encodeGatewayInput,
        hfits, rejectOpening, hcandidate]
    | some fits =>
      have hawaits : ∃ sent, session.candidateOpened codec i { connection with readyState := .opened } candidate =
          session.setUpstream i { connection with
            readyState := .opened, sent, phase := .awaiting, candidate := some { candidate with listening := true } } := by
        simp only [candidateOpened, hjoin, Option.getD_some, hwrite, UpstreamConnection.sendInput, encodeGatewayInput,
          hfits, if_true]
        exact ⟨_, rfl⟩
      obtain ⟨sent, hawaits⟩ := hawaits
      rw [hawaits] at hended
      simp only [socketStep, upstream_setUpstream_self hupstream, candidateFrame, hepoch, UpstreamConnection.settle,
        hcommitted, setUpstream_setUpstream] at hended
      exact ⟨_, hended, rfl, rfl, rfl, Or.inl ⟨by simp, ⟨joined, rfl⟩, rfl⟩⟩

variable (codec) in
/-- A session that waits for a match gets an open candidate, if it can write its join; otherwise its promise is
rejected. -/
private theorem answered_pending (session : GatewaySession limits) (route : RouteArgument) {epoch : Nat}
    (hepoch : (JsNumber.ofNat epoch).strictEq route.epoch = true) (answer : CandidateAnswer) {join : Payload}
    (hjoin : session.initialJoin = some join) {ended : GatewaySession limits}
    (hended : ended = answered codec { session with calls := session.calls ++ [{ route }] } epoch answer
      (.pending session.calls.length)) :
    (safeUint32 route.epoch ≠ none ∧ (∃ payload, codec.writeGatewayJoin join answer.token = .ok payload) ∧
        ended.outcome (.pending session.calls.length) = some (.ok ()) ∧
        ∃ connection calls, ended = { session with
            calls, upstreams := session.upstreams ++ [connection], prepared := some session.upstreams.length } ∧
          connection.endpoint = route.endpoint ∧ connection.epoch = route.epoch ∧ connection.readyState = .opened) ∨
      (¬(safeUint32 route.epoch ≠ none ∧ ∃ payload, codec.writeGatewayJoin join answer.token = .ok payload) ∧
        ∃ reason, ended.outcome (.pending session.calls.length) = some (.error reason)) := by
  have hfound : ({ session with calls := session.calls ++ [{ route }] } : GatewaySession limits).socketStep codec
      (.matchFound session.calls.length answer.token) = some (connectCandidate
        { session with calls := session.calls ++ [{ route }] } session.calls.length route answer.token) := by
    simp [socketStep]
  unfold answered answerEvents at hended
  rw [List.foldl_cons, hfound, Option.getD_some] at hended
  have hupstream : (connectCandidate { session with calls := session.calls ++ [{ route }] } session.calls.length route
      answer.token).upstream session.upstreams.length = some {
        endpoint := route.endpoint, epoch := route.epoch, candidate := some { token := answer.token } } := by
    simp [upstream, connectCandidate]
  obtain ⟨last, hlast, hendpoint, hsame, hopened, hend⟩ := candidate_answers codec _ hupstream rfl rfl rfl rfl rfl hepoch
    answer.serverTick answer.payload hjoin hended
  have hended' : ended = { session with
      calls := List.set (session.calls ++ [{ route }]) session.calls.length
        { route, candidateMatch := .connected session.upstreams.length }
      upstreams := session.upstreams ++ [last], prepared := some session.upstreams.length } := by
    rw [hlast]
    simp [connectCandidate, setUpstream]
  rcases hend with ⟨hfits, hjoined, hphase⟩ | ⟨hnot, reason, hphase⟩
  · have houtcome : ended.outcome (.pending session.calls.length) = some (.ok ()) := by
      rw [hended']
      simp [outcome, upstream, hphase]
    exact Or.inl ⟨hfits, hjoined, houtcome, last, _, hended', hendpoint, hsame, hopened⟩
  · have houtcome : ended.outcome (.pending session.calls.length) = some (.error reason) := by
      rw [hended']
      simp [outcome, upstream, hphase]
    exact Or.inr ⟨hnot, reason, houtcome⟩

/-! ### Committing one session -/

private theorem setEntry_distinct {merged : List BufferedGatewayInput}
    (h : merged.Pairwise fun left right => left.sequence ≠ right.sequence) (entry : BufferedGatewayInput) :
    (setEntry merged entry).Pairwise fun left right => left.sequence ≠ right.sequence := by
  unfold setEntry
  split
  · have hkept : ∀ other : BufferedGatewayInput,
        (if other.sequence = entry.sequence then entry else other).sequence = other.sequence := by
      intro other
      split
      · exact Eq.symm (by assumption)
      · rfl
    exact List.pairwise_map.2 (h.imp fun hne => by rwa [hkept, hkept])
  · rename_i hnew
    refine List.pairwise_append.2 ⟨h, List.pairwise_singleton .., fun other hother e he heq => hnew ?_⟩
    rw [List.mem_singleton.1 he] at heq
    exact List.any_eq_true.2 ⟨other, hother, decide_eq_true heq⟩

/-- Whatever the shadow holds, a replay is in order. -/
theorem increasing_replay (session : GatewaySession limits) : Increasing session.replay := by
  have hdistinct : ∀ entries merged : List BufferedGatewayInput,
      merged.Pairwise (fun left right => left.sequence ≠ right.sequence) →
      (entries.foldl setEntry merged).Pairwise fun left right => left.sequence ≠ right.sequence := by
    intro entries
    induction entries with
    | nil => exact fun _ h => h
    | cons entry entries ih => exact fun merged h => ih _ (setEntry_distinct h entry)
  have htotal : Std.Total fun left right : BufferedGatewayInput => left.sequence ≤ right.sequence :=
    ⟨fun left right => Nat.le_total ..⟩
  have htrans : IsTrans BufferedGatewayInput fun left right => left.sequence ≤ right.sequence :=
    ⟨fun _ _ _ => Nat.le_trans⟩
  have hle := List.pairwise_insertionSort (fun left right : BufferedGatewayInput => left.sequence ≤ right.sequence)
    ((session.verificationShadow ++ session.inputs.entries).foldl setEntry [])
  have hperm := List.perm_insertionSort (fun left right : BufferedGatewayInput => left.sequence ≤ right.sequence)
    ((session.verificationShadow ++ session.inputs.entries).foldl setEntry [])
  have hne := hperm.symm.pairwise (hdistinct _ [] List.Pairwise.nil) fun h => Ne.symm h
  exact (hle.and hne).imp fun h => Nat.lt_of_le_of_ne h.1 h.2

theorem boundTo_iff {session : GatewaySession limits} {endpoint : String} {epoch : JsNumber} :
    session.boundTo endpoint epoch = true ↔ ∃ connection, session.currentUpstream = some connection ∧
      connection.epoch.strictEq epoch = true ∧ connection.endpoint = endpoint ∧ connection.readyState = .opened := by
  unfold boundTo
  cases session.currentUpstream with
  | none => simp
  | some connection => simp [and_assoc]

/-- A commit that goes through and succeeds leaves the session unfrozen on its candidate. -/
private theorem commitPrepared_lands {session : GatewaySession limits} {route : GatewayRoomRoute}
    (h : session.GoesThrough route) {replayed : Nat} (hok : (session.commitPrepared route).2 = .ok replayed) :
    (session.commitPrepared route).1.frozen = false ∧
      ∃ candidate connection, session.preparedUpstream = some candidate ∧
        (session.commitPrepared route).1.currentUpstream = some connection ∧
        connection.endpoint = candidate.endpoint ∧ connection.epoch = candidate.epoch ∧
        connection.readyState = candidate.readyState := by
  obtain ⟨i, candidate, -, hcandidate, hi, -, heq⟩ := commitPrepared_of_goesThrough h
  obtain ⟨-, -, hcurrent, hlength⟩ := switchTo_inputs session i candidate.commit
  rw [heq] at hok ⊢
  unfold replayTo at hok ⊢
  dsimp only at hok ⊢
  split at hok
  · cases hok
  · rename_i sent hsend
    obtain ⟨frames, rfl, -, -⟩ := UpstreamConnection.sendInputs_ok hsend
    obtain ⟨shadow, bytes, hloaded, -⟩ := retainAll_shadow
      { (session.switchTo i candidate.commit).setUpstream i { candidate.commit with
          sent := candidate.commit.sent ++ frames } with verificationShadow := [], verificationShadowBytes := 0 }
      ((session.switchTo i candidate.commit).mergeRollbackInputs ((session.switchTo i candidate.commit).inputs.replayAfter
        (session.switchTo i candidate.commit).inputs.acknowledgedSequence))
    split at hok
    · cases hok
    · rename_i loaded result hload
      have hloaded' : loaded = _ := (congrArg Prod.fst hload).symm.trans hloaded
      subst hloaded'
      refine ⟨rfl, candidate, ?connection, hcandidate, ?current, ?_, ?_, ?_⟩
      case current =>
        simp only [currentUpstream, upstream, setUpstream, hcurrent, Option.bind_some, List.set_set]
        exact List.getElem?_set_self (by rw [hlength]; exact hi)
      all_goals rfl

/-- When a commit succeeds and leaves the session at the route. -/
private theorem commits_iff (session : GatewaySession limits) (next : GatewayRoomRoute) :
    ((∃ replayed, (session.commitPrepared next).2 = .ok replayed) ∧ (session.commitPrepared next).1.PlaysAt next) ↔
      if session.boundTo next.endpoint (.ofNat next.epoch) then session.frozen = false
      else
        session.ReplayFits next.epoch ∧ ∃ candidate, session.preparedUpstream = some candidate ∧
          candidate.epoch.strictEq (.ofNat next.epoch) = true ∧ candidate.endpoint = next.endpoint ∧
          candidate.readyState = .opened := by
  split
  · rename_i hbound
    have heq : session.commitPrepared next = (session, .ok 0) := by
      unfold commitPrepared
      rw [if_pos hbound]
    rw [heq]
    exact ⟨fun h => h.2.2, fun h => ⟨⟨0, rfl⟩, hbound, h⟩⟩
  · rename_i hbound
    constructor
    · rintro ⟨⟨replayed, hok⟩, hplays⟩
      have hthrough : session.GoesThrough next := by
        by_contra hnot
        rw [commitPrepared_of_not hnot] at hplays
        exact hbound hplays.1
      obtain ⟨-, candidate, connection, hcandidate, hconnection, hendpoint, hepoch, hstate⟩ :=
        commitPrepared_lands hthrough hok
      obtain ⟨connection', hconnection', hepoch', hendpoint', hopened⟩ := boundTo_iff.1 hplays.1
      cases hconnection.symm.trans hconnection'
      rcases commitPrepared_inputs hthrough session.increasing_replay with
        ⟨-, -, ⟨message, herror⟩, -⟩ | ⟨hfits, -, -, loaded, rest, hsplit, -, -, hlimits, hresult⟩
      · rw [hok] at herror
        cases herror
      · rcases hresult with ⟨rfl, -⟩ | ⟨_, _, message, -, herror, -⟩
        · rw [List.append_nil] at hsplit
          refine ⟨⟨hfits, ?_⟩, candidate, hcandidate, hepoch ▸ hepoch', hendpoint ▸ hendpoint', hstate ▸ hopened⟩
          rw [hsplit]
          rcases hlimits with rfl | hlimits
          · exact ⟨Nat.zero_le _, Nat.zero_le _⟩
          · exact hlimits
        · rw [hok] at herror
          cases herror
    · rintro ⟨⟨hfits, hmessages, hbytes⟩, candidate, hcandidate, hepoch, hendpoint, hopened⟩
      have hthrough : session.GoesThrough next := ⟨by simpa using hbound, candidate, hcandidate, hepoch, hendpoint⟩
      have hok : ∃ replayed, (session.commitPrepared next).2 = .ok replayed := by
        rcases commitPrepared_inputs hthrough session.increasing_replay with
          ⟨hlt, hne, -⟩ | ⟨-, -, -, loaded, rest, hsplit, -, -, -, hresult⟩
        · rcases hfits with hle | hnil
          · omega
          · exact absurd hnil hne
        · rcases hresult with ⟨-, hok, -⟩ | ⟨entry, later, message, rfl, -, -, hfull⟩
          · exact ⟨_, hok⟩
          · exfalso
            rw [hsplit, List.length_append, List.length_cons] at hmessages
            rw [hsplit, totalBytes_append, totalBytes_cons] at hbytes
            omega
      obtain ⟨replayed, hok⟩ := hok
      obtain ⟨hfrozen, candidate', connection, hcandidate', hconnection, hsameEndpoint, hsameEpoch, hstate⟩ :=
        commitPrepared_lands hthrough hok
      cases hcandidate.symm.trans hcandidate'
      exact ⟨⟨replayed, hok⟩, boundTo_iff.2 ⟨connection, hconnection, hsameEpoch ▸ hepoch,
        hsameEndpoint.trans hendpoint, hstate.trans hopened⟩, hfrozen⟩

variable (codec) in
/-- A session goes through the repeated cutover when it can be prepared and can be committed. -/
theorem recovers_iff (session : GatewaySession limits) (route : RouteArgument) {next : GatewayRoomRoute}
    (hepoch : (JsNumber.ofNat next.epoch).strictEq route.epoch = true) (answer : CandidateAnswer)
    (hcurrent : session.HasCurrent) {ended : GatewaySession limits}
    (hended : ended = (session.prepare route).1.answered codec next.epoch answer (session.prepare route).2) :
    (ended.outcome (session.prepare route).2 = some (.ok ()) ∧
        (∃ replayed, (ended.commitPrepared next).2 = .ok replayed) ∧ (ended.commitPrepared next).1.PlaysAt next) ↔
      session.Preparable codec route answer.token ∧ session.Committable route next := by
  rw [commits_iff]
  rcases session.prepare_cases route with ⟨reason, heq, hwhy⟩ |
    ⟨join, hstopped, hjoin, ⟨heq, hthere⟩ | ⟨heq, hbound, hnone⟩⟩
  · rw [heq] at hended ⊢
    refine iff_of_false (fun h => ?_) ?_
    · cases h.1
    · rintro ⟨⟨hstopped, join, hjoin, hcan⟩, -⟩
      rcases hwhy with hwhy | hwhy | ⟨hbound, candidate, hcandidate, hwhy⟩
      · rw [hstopped] at hwhy
        cases hwhy
      · rw [hjoin] at hwhy
        cases hwhy
      · rw [hbound, hcandidate] at hcan
        rcases hcan with hcan | hcan
        · cases hcan
        · exact hwhy hcan
  · rw [heq] at hended ⊢
    have hended : ended = session := hended
    subst hended
    have hcan : ended.Preparable codec route answer.token := by
      refine ⟨hstopped, join, hjoin, hthere.imp id ?_⟩
      rintro ⟨candidate, hcandidate, hmatch⟩
      rw [hcandidate]
      exact hmatch
    rw [and_iff_right hcan, and_iff_right (show ended.outcome .resolved = some (.ok ()) from rfl)]
    unfold Committable
    split
    · rfl
    · refine and_congr_right fun _ => ?_
      cases hprepared : ended.preparedUpstream with
      | some candidate => simp
      | none =>
        rcases hthere with hthere | ⟨_, hcandidate, -⟩
        · simp [hthere]
        · rw [hprepared] at hcandidate
          cases hcandidate
  · rw [heq] at hended ⊢
    rcases answered_pending codec session route hepoch answer hjoin hended with
      ⟨hfits, hjoined, houtcome, connection, calls, hended, hendpoint, hsame, hopened⟩ | ⟨hnot, reason, houtcome⟩
    · have hcan : session.Preparable codec route answer.token := by
        refine ⟨hstopped, join, hjoin, Or.inr ?_⟩
        rw [hnone]
        exact ⟨hfits, hjoined⟩
      have hupstream : ended.currentUpstream = session.currentUpstream := by
        rw [hended]
        unfold currentUpstream upstream
        dsimp only
        cases hi : session.current with
        | none => rfl
        | some i => exact List.getElem?_append_left (hcurrent i hi)
      have hprepared : ended.preparedUpstream = some connection := by
        rw [hended]
        simp [preparedUpstream, upstream]
      have hreplay : ended.ReplayFits next.epoch ↔ session.ReplayFits next.epoch := by
        rw [hended]
        rfl
      have hfrozen : ended.frozen = session.frozen := by rw [hended]
      rw [and_iff_right hcan, and_iff_right houtcome, boundTo_congr hupstream, hfrozen, hreplay, hprepared]
      unfold Committable
      split
      · rfl
      · refine and_congr_right fun _ => ?_
        rw [hnone]
        constructor
        · rintro ⟨candidate, hcandidate, -, hat, -⟩
          cases hcandidate
          exact ⟨hbound, hendpoint ▸ hat⟩
        · rintro ⟨-, hat⟩
          exact ⟨connection, rfl, hsame ▸ JsNumber.strictEq_symm hepoch, hendpoint.trans hat, hopened⟩
    · refine iff_of_false (fun h => ?_) ?_
      · rw [houtcome] at h
        cases h.1
      · rintro ⟨⟨-, join', hjoin', hcan⟩, -⟩
        rw [hjoin] at hjoin'
        cases hjoin'
        rw [hbound, hnone] at hcan
        rcases hcan with hcan | hcan
        · cases hcan
        · exact hnot hcan

end GatewaySession

end Opsia
