import Opsia.Gateway.Session

/-!
# The sockets of a session

What the methods of a session and the events at its sockets do to its upstreams.  An upstream that is made stays where
it is, and once it is closing or closed it stays so.  The current and the prepared upstream change in four ways only: a
match makes the prepared one, a commit makes it current and closes the one before, an abort closes it, and a stop closes
both.
-/

namespace Opsia

open Json

namespace UpstreamConnection

/-- The socket is not closing or closed. -/
def Alive (upstream : UpstreamConnection) : Prop := upstream.readyState = .connecting ∨ upstream.readyState = .opened

instance (upstream : UpstreamConnection) : Decidable upstream.Alive := by
  unfold Alive
  infer_instance

/-- The second connection is the first one later on. -/
structure Later (first second : UpstreamConnection) : Prop where
  endpoint : second.endpoint = first.endpoint
  epoch : second.epoch = first.epoch
  candidate : second.candidate.isSome = first.candidate.isSome
  alive : second.Alive → first.Alive

theorem Later.refl (upstream : UpstreamConnection) : Later upstream upstream := ⟨rfl, rfl, rfl, id⟩

theorem Later.trans {first second third : UpstreamConnection} (h : Later first second) (h' : Later second third) :
    Later first third :=
  ⟨h'.endpoint.trans h.endpoint, h'.epoch.trans h.epoch, h'.candidate.trans h.candidate,
    fun halive => h.alive (h'.alive halive)⟩

theorem later_close (upstream : UpstreamConnection) : Later upstream upstream.close ∧ ¬upstream.close.Alive := by
  unfold close Alive
  split
  · rename_i h
    exact ⟨⟨rfl, rfl, rfl, fun _ => Or.inl h⟩, by simp⟩
  · rename_i h
    exact ⟨⟨rfl, rfl, rfl, fun _ => Or.inr h⟩, by simp⟩
  · rename_i h
    exact ⟨.refl upstream, by simp [h]⟩
  · rename_i h
    exact ⟨.refl upstream, by simp [h]⟩

theorem later_settle (upstream : UpstreamConnection) (phase : UpstreamPhase) :
    Later upstream (upstream.settle phase) := by
  unfold settle
  split
  · exact ⟨rfl, rfl, rfl, id⟩
  · exact .refl upstream

theorem later_closed (upstream : UpstreamConnection) : Later upstream { upstream with readyState := .closed } :=
  ⟨rfl, rfl, rfl, by rintro (h | h) <;> cases h⟩

theorem later_sendInput {upstream sent : UpstreamConnection} {payload : Payload} {inputSequence clientTick : Nat}
    (h : upstream.sendInput payload inputSequence clientTick = .ok sent) : Later upstream sent := by
  obtain ⟨frames, rfl, -, -⟩ := sendInput_ok h
  exact ⟨rfl, rfl, rfl, id⟩

theorem later_sendInputs {upstream sent : UpstreamConnection} {entries : List BufferedGatewayInput} {clientTick : Nat}
    (h : upstream.sendInputs entries clientTick = .ok sent) : Later upstream sent := by
  obtain ⟨frames, rfl, -, -⟩ := sendInputs_ok h
  exact ⟨rfl, rfl, rfl, id⟩

end UpstreamConnection

open UpstreamConnection

namespace GatewaySession

variable {limits : GatewayLimits} {session next last : GatewaySession limits}

/-- The same upstreams, later on. -/
structure SameSockets (session next : GatewaySession limits) : Prop where
  current : next.current = session.current
  prepared : next.prepared = session.prepared
  stopped : next.stopped = session.stopped
  length : next.upstreams.length = session.upstreams.length
  later : ∀ i first second, session.upstream i = some first → next.upstream i = some second → Later first second

/-- The session has been stopped: its current and its prepared upstream are closed. -/
structure Ended (session next : GatewaySession limits) : Prop where
  stopped : next.stopped = true
  current : next.current = none
  prepared : next.prepared = none
  length : next.upstreams.length = session.upstreams.length
  later : ∀ i first second, session.upstream i = some first → next.upstream i = some second → Later first second
  closed : ∀ i second, next.upstream i = some second → second.Alive → session.current ≠ some i ∧ session.prepared ≠ some i

theorem upstream_of_length (h : next.upstreams.length = session.upstreams.length) {i : Nat}
    {second : UpstreamConnection} (hsecond : next.upstream i = some second) :
    ∃ first, session.upstream i = some first := by
  have hi := (List.getElem?_eq_some_iff.1 hsecond).1
  exact ⟨_, List.getElem?_eq_getElem (h ▸ hi)⟩

theorem SameSockets.refl (session : GatewaySession limits) : SameSockets session session where
  current := rfl
  prepared := rfl
  stopped := rfl
  length := rfl
  later i first second hfirst hsecond := by
    rw [hfirst] at hsecond
    cases hsecond
    exact .refl first

/-- A change elsewhere. -/
theorem SameSockets.of_eq (hcurrent : next.current = session.current) (hprepared : next.prepared = session.prepared)
    (hstopped : next.stopped = session.stopped) (hupstreams : next.upstreams = session.upstreams) :
    SameSockets session next where
  current := hcurrent
  prepared := hprepared
  stopped := hstopped
  length := by rw [hupstreams]
  later i first second hfirst hsecond := by
    unfold upstream at hfirst hsecond
    rw [hupstreams, hfirst] at hsecond
    cases hsecond
    exact .refl first

theorem SameSockets.trans (h : SameSockets session next) (h' : SameSockets next last) : SameSockets session last where
  current := h'.current.trans h.current
  prepared := h'.prepared.trans h.prepared
  stopped := h'.stopped.trans h.stopped
  length := h'.length.trans h.length
  later i first third hfirst hthird := by
    obtain ⟨second, hsecond⟩ := upstream_of_length h'.length hthird
    exact (h.later i first second hfirst hsecond).trans (h'.later i second third hsecond hthird)

theorem SameSockets.ended (h : SameSockets session next) (h' : Ended next last) : Ended session last where
  stopped := h'.stopped
  current := h'.current
  prepared := h'.prepared
  length := h'.length.trans h.length
  later i first third hfirst hthird := by
    obtain ⟨second, hsecond⟩ := upstream_of_length h'.length hthird
    exact (h.later i first second hfirst hsecond).trans (h'.later i second third hsecond hthird)
  closed i third hthird halive := by
    rw [← h.current, ← h.prepared]
    exact h'.closed i third hthird halive

theorem upstream_setUpstream_cases {i j : Nat} {connection second : UpstreamConnection}
    (h : (session.setUpstream i connection).upstream j = some second) :
    (i = j ∧ second = connection) ∨ (i ≠ j ∧ session.upstream j = some second) := by
  unfold upstream setUpstream at h
  dsimp only at h
  by_cases hij : i = j
  · subst hij
    have hi := (List.getElem?_eq_some_iff.1 h).1
    rw [List.length_set] at hi
    rw [List.getElem?_set_self hi] at h
    cases h
    exact Or.inl ⟨rfl, rfl⟩
  · rw [List.getElem?_set_ne hij] at h
    exact Or.inr ⟨hij, h⟩

theorem sameSockets_setUpstream {i : Nat} {old connection : UpstreamConnection} (hold : session.upstream i = some old)
    (hlater : Later old connection) : SameSockets session (session.setUpstream i connection) where
  current := rfl
  prepared := rfl
  stopped := rfl
  length := List.length_set ..
  later j first second hfirst hsecond := by
    rcases upstream_setUpstream_cases hsecond with ⟨rfl, rfl⟩ | ⟨-, hsame⟩
    · rw [hold] at hfirst
      cases hfirst
      exact hlater
    · rw [hfirst] at hsame
      cases hsame
      exact .refl first

/-- A close leaves the connection dead. -/
theorem sameSockets_closeUpstream (session : GatewaySession limits) (connection : Option Nat) :
    SameSockets session (session.closeUpstream connection) ∧
      ∀ i second, connection = some i → (session.closeUpstream connection).upstream i = some second → ¬second.Alive := by
  cases connection with
  | none => exact ⟨.refl session, fun i second h => (nomatch h)⟩
  | some i =>
    have hget : ∀ j, (session.closeUpstream (some i)).upstream j =
        if i = j then (session.upstream j).map UpstreamConnection.close else session.upstream j := by
      intro j
      unfold closeUpstream upstream
      dsimp only
      rw [List.getElem?_modify]
      by_cases hij : i = j
      · simp [hij]
      · simp [hij]
    refine ⟨⟨rfl, rfl, rfl, List.length_modify .., fun j first second hfirst hsecond => ?_⟩, ?_⟩
    · rw [hget, hfirst] at hsecond
      split at hsecond
      · cases hsecond
        exact (later_close first).1
      · cases hsecond
        exact .refl first
    · rintro j second ⟨⟩ hsecond
      rw [hget, if_pos rfl] at hsecond
      obtain ⟨first, -, rfl⟩ := Option.map_eq_some_iff.1 hsecond
      exact (later_close first).2

/-- A stop ends the session, unless it has been stopped before. -/
theorem stop_sockets (session : GatewaySession limits) :
    SameSockets session session.stop ∨ Ended session session.stop := by
  unfold stop
  split
  · exact Or.inl (.refl session)
  · obtain ⟨hfirst, hfirstDead⟩ := session.sameSockets_closeUpstream session.current
    obtain ⟨hsecond, hsecondDead⟩ := (session.closeUpstream session.current).sameSockets_closeUpstream session.prepared
    have hboth := hfirst.trans hsecond
    refine Or.inr ⟨rfl, rfl, rfl, hboth.length, hboth.later, fun i second hget halive => ⟨fun hi => ?_, fun hi => ?_⟩⟩
    · obtain ⟨middle, hmiddle⟩ := upstream_of_length hsecond.length hget
      exact hfirstDead i middle hi hmiddle ((hsecond.later i middle second hmiddle hget).alive halive)
    · exact hsecondDead i second hi hget halive

/-- What an event other than a match does. -/
def Settles (session next : GatewaySession limits) : Prop := SameSockets session next ∨ Ended session next

theorem Settles.stop (h : SameSockets session next) : Settles session next.stop :=
  next.stop_sockets.imp h.trans h.ended

theorem sameSockets_endDownstream (session : GatewaySession limits) (code : Nat) (reason : String) :
    SameSockets session (session.endDownstream code reason) := .of_eq rfl rfl rfl rfl

theorem settles_end_stop (session : GatewaySession limits) (code : Nat) (reason : String) :
    Settles session (session.endDownstream code reason).stop := .stop (session.sameSockets_endDownstream code reason)

theorem Settles.trans (h : SameSockets session next) (h' : Settles next last) : Settles session last :=
  h'.imp h.trans h.ended

/-! ### Events -/

theorem sameSockets_flushInputs {flushed : GatewaySession limits} {i : Nat} (h : session.flushInputs i = .ok flushed) :
    SameSockets session flushed := by
  unfold flushInputs at h
  split at h
  · cases h
    exact .refl session
  · rename_i connection hconnection
    dsimp only at h
    split at h
    · cases h
    · rename_i sent hsent
      cases h
      obtain ⟨hendpoint, hepoch, hcandidate, halive⟩ := later_sendInputs hsent
      exact sameSockets_setUpstream hconnection ⟨hendpoint, hepoch, hcandidate, halive⟩

private theorem rejectOpening_settles {i : Nat} {old connection : UpstreamConnection}
    (hold : session.upstream i = some old) (hlater : Later old connection) (reason : String) :
    Settles session (session.rejectOpening i connection reason) := by
  have hset : SameSockets session (session.setUpstream i { connection with phase := .failed reason }) :=
    sameSockets_setUpstream hold ⟨hlater.endpoint, hlater.epoch, hlater.candidate, hlater.alive⟩
  unfold rejectOpening GatewaySession.startFailed
  dsimp only
  split
  · split
    · exact Or.inl hset
    · exact .trans hset (settles_end_stop _ _ _)
  · exact Or.inl hset

private theorem opened_settles (codec : GatewayJoinCodec) {i : Nat} {connection : UpstreamConnection}
    (h : session.upstream i = some connection) (hstate : connection.readyState = .connecting) :
    Settles session (session.opened codec i connection) := by
  have hopened : ∀ phase, Later connection { connection with readyState := .opened, phase } :=
    fun _ => ⟨rfl, rfl, rfl, fun _ => Or.inl hstate⟩
  unfold opened
  split
  · unfold startOpened
    dsimp only
    split
    · exact rejectOpening_settles h (hopened _) _
    · rename_i joined hjoined
      have hlater : Later connection joined := by
        split at hjoined
        · cases hjoined
          exact hopened _
        · exact (hopened _).trans (later_sendInput hjoined)
      split
      · exact rejectOpening_settles h hlater _
      · rename_i hflush
        exact Or.inl ((sameSockets_setUpstream h hlater).trans (sameSockets_flushInputs hflush))
  · rename_i candidate hcandidate
    unfold candidateOpened
    split
    · exact rejectOpening_settles h (hopened _) _
    · split
      · exact rejectOpening_settles h (hopened _) _
      · rename_i sent hsent
        obtain ⟨hendpoint, hepoch, hsome, halive⟩ := (hopened connection.phase).trans (later_sendInput hsent)
        exact Or.inl (sameSockets_setUpstream h ⟨hendpoint, hepoch, by rw [hcandidate]; rfl, halive⟩)

theorem sameSockets_retainForRollback {retained : GatewaySession limits} {entry : BufferedGatewayInput}
    (h : session.retainForRollback entry = .ok retained) : SameSockets session retained := by
  unfold retainForRollback at h
  split at h
  · cases h
    exact .refl session
  · split at h
    · cases h
    · split at h
      · cases h
      · cases h
        exact .of_eq rfl rfl rfl rfl

private theorem receiveInput_settles (session : GatewaySession limits) (payload : Payload) :
    Settles session (session.receiveInput payload) := by
  unfold receiveInput
  split
  · exact settles_end_stop _ _ _
  · rename_i entry inputs _
    dsimp only
    have htaken : SameSockets session { session with inputs, clientTick := (session.clientTick + 1) % 4294967296 } :=
      .of_eq rfl rfl rfl rfl
    split
    · exact .trans htaken (settles_end_stop _ _ _)
    · rename_i retained hretained
      have hretained : SameSockets session retained := by
        split at hretained
        · exact htaken.trans (sameSockets_retainForRollback hretained)
        · cases hretained
          exact htaken
      split
      · rename_i i connection _ hcurrent hconnection
        have hget : retained.upstream i = some connection := by
          rw [currentUpstream, hcurrent] at hconnection
          exact hconnection
        split
        · split
          · exact .trans hretained (settles_end_stop _ _ _)
          · rename_i sent hsent
            obtain ⟨hendpoint, hepoch, hcandidate, halive⟩ := later_sendInput hsent
            exact Or.inl (hretained.trans (sameSockets_setUpstream hget ⟨hendpoint, hepoch, hcandidate, halive⟩))
        · exact Or.inl hretained
      · exact Or.inl hretained

private theorem receive_settles (codec : GatewayJoinCodec) (session : GatewaySession limits) (payload : Payload)
    (admitted : Bool) : Settles session (session.receive codec payload admitted) := by
  unfold receive
  split
  · exact Or.inl (.refl session)
  split
  · split
    · exact Or.inl (.refl session)
    · exact receiveInput_settles session payload
    · split
      · exact settles_end_stop _ _ _
      · dsimp only
        have hjoined : SameSockets session { session with initialJoin := some payload } := .of_eq rfl rfl rfl rfl
        split
        · rename_i i connection hcurrent hconnection
          have hget : ({ session with initialJoin := some payload } : GatewaySession limits).upstream i =
              some connection := by
            rw [currentUpstream, hcurrent] at hconnection
            exact hconnection
          split
          · split
            · exact Or.inl hjoined
            · rename_i sent hsent
              exact Or.inl (hjoined.trans (sameSockets_setUpstream hget (later_sendInput hsent)))
          · exact Or.inl hjoined
        · exact Or.inl hjoined
  · exact receiveInput_settles session payload

private theorem frame_settles {i : Nat} {connection : UpstreamConnection} (h : session.upstream i = some connection)
    (frame : DecodedFrame) :
    Settles session (session.currentFrame i connection frame) ∧ ∀ candidate, connection.candidate = some candidate →
      Settles session (session.candidateFrame i connection candidate frame) := by
  have hinputs : ∀ sequence, SameSockets session { session with inputs := session.inputs.acknowledge sequence } :=
    fun _ => .of_eq rfl rfl rfl rfl
  constructor
  · unfold currentFrame refuseFrame
    split
    · exact Or.inl (.refl session)
    · split
      · exact settles_end_stop _ _ _
      · exact settles_end_stop _ _ _
      · split
        · exact Or.inl (hinputs _)
        · exact Or.inl (.refl session)
      · exact settles_end_stop _ _ _
      · split
        · exact Or.inl (.of_eq rfl rfl rfl rfl)
        · exact settles_end_stop _ _ _
  · intro candidate hcandidate
    have hrefuse : ∀ reason, Settles session (session.refuseCandidate i connection reason) := fun reason =>
      Or.inl (sameSockets_setUpstream h ((later_settle connection _).trans (later_close _).1))
    unfold candidateFrame
    split
    · exact hrefuse _
    · exact hrefuse _
    · split
      · exact Or.inl (hinputs _)
      · exact Or.inl (.refl session)
    · exact hrefuse _
    · split
      · exact hrefuse _
      · dsimp only
        obtain ⟨hendpoint, hepoch, hsome, halive⟩ := later_settle connection .ready
        rename_i payload _
        have hkept : SameSockets session (session.setUpstream i
            { connection.settle .ready with candidate := some (candidate.keep payload) }) :=
          sameSockets_setUpstream h ⟨hendpoint, hepoch, by rw [hcandidate]; rfl, halive⟩
        split
        · exact Or.inl (hkept.trans (.of_eq rfl rfl rfl rfl))
        · exact Or.inl hkept

private theorem closed_settles {i : Nat} {connection : UpstreamConnection} (h : session.upstream i = some connection) :
    Settles session (session.closed i connection) := by
  have hshut := connection.later_closed
  have hset := sameSockets_setUpstream h hshut
  unfold closed
  dsimp only
  split
  · split
    · exact Or.inl hset
    · exact .trans hset (settles_end_stop _ _ _)
  · split
    · exact Or.inl hset
    · split
      · exact .trans hset (settles_end_stop _ _ _)
      · exact Or.inl (sameSockets_setUpstream h (hshut.trans (later_settle ..)))

/-- An event other than a match settles or closes what is there. -/
theorem settles_of_socketStep {codec : GatewayJoinCodec} {event : SocketEvent}
    (h : session.socketStep codec event = some next) (hevent : ∀ call token, event ≠ .matchFound call token) :
    Settles session next := by
  cases event with
  | receive payload admitted =>
    cases h
    exact receive_settles codec session payload admitted
  | matchFound call token => exact absurd rfl (hevent call token)
  | matchFailed call reason =>
    simp only [socketStep] at h
    split at h
    · cases h
      exact Or.inl (.of_eq rfl rfl rfl rfl)
    · cases h
  | opened i =>
    simp only [socketStep] at h
    split at h
    · rename_i connection hconnection
      split at h
      · rename_i hstate
        cases h
        exact opened_settles codec hconnection hstate.1
      · cases h
    · cases h
  | openFailed i =>
    simp only [socketStep] at h
    split at h
    · rename_i connection hconnection
      split at h
      · cases h
        exact rejectOpening_settles hconnection connection.later_closed _
      · cases h
    · cases h
  | openTimedOut i =>
    simp only [socketStep] at h
    split at h
    · rename_i connection hconnection
      split at h
      · cases h
        exact rejectOpening_settles hconnection (later_close connection).1 _
      · cases h
    · cases h
  | frame i frame =>
    simp only [socketStep] at h
    split at h
    · rename_i connection hconnection
      split at h
      · cases h
      · split at h
        · cases h
          exact (frame_settles hconnection frame).1
        · rename_i candidate hcandidate
          split at h
          · cases h
            exact (frame_settles hconnection frame).2 candidate hcandidate
          · cases h
    · cases h
  | closed i =>
    simp only [socketStep] at h
    split at h
    · rename_i connection hconnection
      split at h
      · cases h
        exact closed_settles hconnection
      · cases h
    · cases h
  | errored i =>
    simp only [socketStep] at h
    split at h
    · rename_i connection hconnection
      split at h
      · split at h
        · split at h
          · cases h
            unfold errored
            split
            · exact Or.inl (.refl session)
            · exact Or.inl (sameSockets_setUpstream hconnection (later_settle ..))
          · cases h
        · cases h
      · cases h
    · cases h
  | readyTimedOut i =>
    simp only [socketStep] at h
    split at h
    · rename_i connection hconnection
      split at h
      · cases h
        exact Or.inl (sameSockets_setUpstream hconnection (later_settle ..))
      · cases h
    · cases h

/-! ### The calls of a cutover -/

/-- A match makes a new upstream, and it is the prepared one. -/
theorem matchFound_sockets {codec : GatewayJoinCodec} {call : Nat} {token : String}
    (h : session.socketStep codec (.matchFound call token) = some next) :
    ∃ route, session.calls[call]? = some { route, candidateMatch := .discovering } ∧
      next = session.connectCandidate call route token := by
  simp only [socketStep] at h
  split at h
  · rename_i route hcall
    cases h
    exact ⟨route, hcall, rfl⟩
  · cases h

theorem sameSockets_prepare (session : GatewaySession limits) (route : RouteArgument) :
    SameSockets session (session.prepare route).1 := by
  unfold GatewaySession.prepare
  split
  · exact .refl session
  split
  · exact .refl session
  split
  · exact .refl session
  split
  · split <;> exact .refl session
  · exact .of_eq rfl rfl rfl rfl

/-- The prepared upstream has been closed. -/
structure Aborted (session next : GatewaySession limits) : Prop where
  current : next.current = session.current
  prepared : next.prepared = none
  stopped : next.stopped = session.stopped
  length : next.upstreams.length = session.upstreams.length
  later : ∀ i first second, session.upstream i = some first → next.upstream i = some second → Later first second
  closed : ∀ i second, next.upstream i = some second → second.Alive → session.prepared ≠ some i

theorem aborted_abortPrepared (session : GatewaySession limits) : Aborted session session.abortPrepared.1 := by
  obtain ⟨hclose, hdead⟩ := session.sameSockets_closeUpstream session.prepared
  have haborted : Aborted session { session.closeUpstream session.prepared with prepared := none, frozen := false } :=
    ⟨hclose.current, rfl, hclose.stopped, hclose.length, hclose.later,
      fun i second hget halive hi => hdead i second hi hget halive⟩
  unfold abortPrepared
  dsimp only
  split
  · exact haborted
  · split
    · exact haborted
    · rename_i hflush
      have hsame := sameSockets_flushInputs hflush
      refine ⟨hsame.current.trans haborted.current, hsame.prepared.trans haborted.prepared,
        hsame.stopped.trans haborted.stopped, hsame.length.trans haborted.length, fun i first third hfirst hthird => ?_,
        fun i third hthird halive => ?_⟩
      · obtain ⟨second, hsecond⟩ := upstream_of_length hsame.length hthird
        exact (haborted.later i first second hfirst hsecond).trans (hsame.later i second third hsecond hthird)
      · obtain ⟨second, hsecond⟩ := upstream_of_length hsame.length hthird
        exact haborted.closed i second hsecond ((hsame.later i second third hsecond hthird).alive halive)

/-- The prepared upstream has become the current one, and the one before has been closed. -/
structure Switched (session next : GatewaySession limits) : Prop where
  prepared_some : ∃ i, session.prepared = some i ∧ next.current = some i ∧ i < session.upstreams.length
  prepared : next.prepared = none
  stopped : next.stopped = session.stopped
  length : next.upstreams.length = session.upstreams.length
  later : ∀ i first second, session.upstream i = some first → next.upstream i = some second → Later first second
  closed : ∀ i second, next.upstream i = some second → second.Alive → session.current ≠ some i ∨ session.prepared = some i

private theorem sameSockets_retainAll (session : GatewaySession limits) (entries : List BufferedGatewayInput) :
    SameSockets session (session.retainAll entries).1 := by
  induction entries generalizing session with
  | nil => exact .refl session
  | cons entry entries ih =>
    rw [retainAll]
    split
    · exact .refl session
    · rename_i hretained
      exact (sameSockets_retainForRollback hretained).trans (ih _)

private theorem replayTo_sockets (session : GatewaySession limits) (i : Nat) (candidate : UpstreamConnection) :
    (session.replayTo i candidate).1.current = session.current ∧
      (session.replayTo i candidate).1.prepared = session.prepared ∧
      (session.replayTo i candidate).1.stopped = session.stopped ∧
      (session.replayTo i candidate).1.upstreams.length = session.upstreams.length ∧
      ∀ j second, (session.replayTo i candidate).1.upstream j = some second →
        (∃ first, session.upstream j = some first ∧ Later first second) ∨ i = j ∧ Later candidate second := by
  have hsame : ∀ j second, session.upstream j = some second →
      (∃ first, session.upstream j = some first ∧ Later first second) ∨ i = j ∧ Later candidate second :=
    fun j second h => Or.inl ⟨second, h, .refl second⟩
  unfold replayTo
  dsimp only
  split
  · exact ⟨rfl, rfl, rfl, rfl, hsame⟩
  · rename_i sent hsent
    have hlater := later_sendInputs hsent
    have hset : ∀ j second, (session.setUpstream i sent).upstream j = some second →
        (∃ first, session.upstream j = some first ∧ Later first second) ∨ i = j ∧ Later candidate second := by
      intro j second h
      rcases upstream_setUpstream_cases h with ⟨rfl, rfl⟩ | ⟨-, h⟩
      · exact Or.inr ⟨rfl, hlater⟩
      · exact hsame j second h
    have hload := sameSockets_retainAll { session.setUpstream i sent with
      verificationShadow := [], verificationShadowBytes := 0 }
      (session.mergeRollbackInputs (session.inputs.replayAfter session.inputs.acknowledgedSequence))
    have hlength : (session.setUpstream i sent).upstreams.length = session.upstreams.length := List.length_set ..
    have hkept : ∀ j second, ((session.setUpstream i sent).setRollbackInputs (session.mergeRollbackInputs
        (session.inputs.replayAfter session.inputs.acknowledgedSequence))).1.upstream j = some second →
        (∃ first, session.upstream j = some first ∧ Later first second) ∨ i = j ∧ Later candidate second := by
      intro j second h
      obtain ⟨middle, hmiddle⟩ := upstream_of_length hload.length h
      have hback := hload.later j middle second hmiddle h
      rcases hset j middle hmiddle with ⟨first, hfirst, hl⟩ | ⟨hij, hl⟩
      · exact Or.inl ⟨first, hfirst, hl.trans hback⟩
      · exact Or.inr ⟨hij, hl.trans hback⟩
    split
    · rename_i loaded message hloaded
      have hloaded : loaded = _ := (congrArg Prod.fst hloaded).symm
      subst hloaded
      exact ⟨hload.current, hload.prepared, hload.stopped, hload.length.trans hlength, hkept⟩
    · rename_i loaded result hloaded
      have hloaded : loaded = _ := (congrArg Prod.fst hloaded).symm
      subst hloaded
      refine ⟨hload.current, hload.prepared, hload.stopped, ?_, fun j second h => ?_⟩
      · exact (List.length_set ..).trans (hload.length.trans hlength)
      · rcases upstream_setUpstream_cases h with ⟨rfl, rfl⟩ | ⟨-, h⟩
        · exact Or.inr ⟨rfl, hlater.endpoint, hlater.epoch, hlater.candidate, hlater.alive⟩
        · exact hkept j second h

/-- A commit that goes through switches, whether or not it throws behind that. -/
theorem switched_of_goesThrough {route : GatewayRoomRoute} (h : session.GoesThrough route) :
    Switched session (session.commitPrepared route).1 := by
  obtain ⟨i, candidate, hprepared, hcandidate, hi, -, heq⟩ := commitPrepared_of_goesThrough h
  have hget : session.upstream i = some candidate := by
    rw [preparedUpstream, hprepared] at hcandidate
    exact hcandidate
  have hcommit : Later candidate candidate.commit := ⟨rfl, rfl, by simp [UpstreamConnection.commit], id⟩
  obtain ⟨hcurrent, hnone, hstopped, hlength, hlater⟩ :=
    replayTo_sockets (session.switchTo i candidate.commit) i candidate.commit
  have hset := sameSockets_setUpstream hget hcommit
  obtain ⟨hclose, hdead⟩ := ({ session.setUpstream i candidate.commit with current := some i, prepared := none } :
    GatewaySession limits).sameSockets_closeUpstream session.current
  have hswitch : SameSockets (({ session.setUpstream i candidate.commit with current := some i, prepared := none } :
      GatewaySession limits).closeUpstream session.current) (session.switchTo i candidate.commit) := by
    unfold switchTo
    dsimp only
    split
    · exact .refl _
    · exact .of_eq rfl rfl rfl rfl
  have hswitched := hclose.trans hswitch
  have hlength' : (session.switchTo i candidate.commit).upstreams.length = session.upstreams.length :=
    hswitched.length.trans hset.length
  rw [heq]
  refine ⟨⟨i, hprepared, hcurrent.trans hswitched.current, hi⟩, hnone.trans hswitched.prepared,
    hstopped.trans hswitched.stopped, hlength.trans hlength', fun j first third hfirst hthird => ?_,
    fun j third hthird halive => ?_⟩
  · rcases hlater j third hthird with ⟨second, hsecond, hl⟩ | ⟨rfl, hl⟩
    · obtain ⟨middle, hmiddle⟩ := upstream_of_length hswitched.length hsecond
      exact ((hset.later j first middle hfirst hmiddle).trans (hswitched.later j middle second hmiddle hsecond)).trans hl
    · rw [hget] at hfirst
      cases hfirst
      exact hcommit.trans hl
  · rcases hlater j third hthird with ⟨second, hsecond, hl⟩ | ⟨rfl, -⟩
    · refine Or.inl fun hj => ?_
      obtain ⟨middle, hmiddle⟩ := upstream_of_length hswitch.length hsecond
      exact hdead j middle hj hmiddle ((hswitch.later j middle second hmiddle hsecond).alive (hl.alive halive))
    · exact Or.inr hprepared

/-- A commit leaves everything as it is, or switches. -/
theorem commitPrepared_sockets (session : GatewaySession limits) (route : GatewayRoomRoute) :
    (session.commitPrepared route).1 = session ∨ Switched session (session.commitPrepared route).1 := by
  by_cases h : session.GoesThrough route
  · exact Or.inr (switched_of_goesThrough h)
  · exact Or.inl (commitPrepared_of_not h)

end GatewaySession

end Opsia
