import Opsia.Gateway.Reconciliation

/-!
# How long a handoff keeps a room closed

A preparation is given up by its timer, but a pending verification only gets stale: it stays until it is finalised,
superseded or renewed, and while it is there nobody connects and no other operation freezes the room.  So a room is open
again once its handoff is too old only in runs in which no verification is left pending for longer than its timeout
(`closed_only_while_young`).
-/

namespace Opsia

open Json

/-! ### Ages -/

/-- `GATEWAY_PREPARE_TIMEOUT_MS` and `GATEWAY_VERIFICATION_TIMEOUT_MS`; what is no whole number is as good as zero. -/
structure GatewayTimeouts where
  prepareTimeoutMs : Nat
  verificationTimeoutMs : Nat

/-- The room's settings with the preparation's timeout checked. -/
def GatewayTimeouts.apply (timeouts : GatewayTimeouts) (settings : GatewaySettings) : GatewaySettings :=
  { settings with
    prepareTimeoutValid := decide (2000 ≤ timeouts.prepareTimeoutMs ∧ timeouts.prepareTimeoutMs ≤ 60000) }

/-- The room at some time, with the `startedAt` of its preparation and of its verification. -/
structure TimedRoom (limits : GatewayLimits) where
  room : GatewayRoom limits
  now : Nat := 0
  preparedAt : Nat := 0
  verifiedAt : Nat := 0

/-- Time passes, or something happens at the room. -/
inductive TimedEvent
  | elapse (milliseconds : Nat)
  | event (event : RoomEvent)

namespace TimedRoom

variable {limits : GatewayLimits} (urls : UrlParser) (codec : GatewayJoinCodec) (settings : GatewaySettings)
  (timeouts : GatewayTimeouts)

/-- `stale` of `roomVerificationView` -/
def stale (timed : TimedRoom limits) : Bool :=
  decide (timeouts.verificationTimeoutMs < 1000) || decide (120000 < timeouts.verificationTimeoutMs) ||
    decide (timeouts.verificationTimeoutMs < timed.now - timed.verifiedAt)

/-- The timer of the preparation goes off. -/
def due (timed : TimedRoom limits) : Bool := decide (timed.preparedAt + timeouts.prepareTimeoutMs ≤ timed.now)

/-- Whether the event can happen now: the timer when it is due, and a finalisation with the verification as stale as it
is. -/
def happensNow (timed : TimedRoom limits) : RoomEvent → Bool
  | .timeout => timed.due timeouts
  | .finalize _ stale => stale == timed.stale timeouts
  | _ => true

/-- The cutover goes on and succeeds, with a new verification. -/
def verifies (timed : TimedRoom limits) : RoomEvent → Bool
  | .resume i => (timed.room.resume urls (timeouts.apply settings) i).any fun next => next.2.isOk
  | _ => false

/-- Time passes up to the preparation's timer; everything else happens at an instant. -/
def step (timed : TimedRoom limits) : TimedEvent → Option (TimedRoom limits)
  | .elapse milliseconds =>
    if timed.room.preparation.isSome && decide (timed.preparedAt + timeouts.prepareTimeoutMs < timed.now + milliseconds)
    then none
    else some { timed with now := timed.now + milliseconds }
  | .event event =>
    if timed.happensNow timeouts event then
      (timed.room.step urls codec (timeouts.apply settings) event).map fun next =>
        { timed with
          room := next
          preparedAt := if next.preparations = timed.room.preparations then timed.preparedAt else timed.now
          verifiedAt := if timed.verifies urls settings timeouts event then timed.now else timed.verifiedAt }
    else none

/-! ### Open rooms -/

/-- Browsers of the room are upgraded, and a new operation freezes it. -/
structure Open (timed : TimedRoom limits) : Prop where
  upgrade : ∀ route, timed.room.route settings = some route → (timed.room.connect settings).isSome = true
  freeze : ∀ route operationId supersedesOperationId, timed.room.route settings = some route → operationId ≠ "" →
    (timeouts.apply settings).prepareTimeoutValid = true →
    (timed.room.freezeRoom (timeouts.apply settings) operationId (.ofNat route.epoch) supersedesOperationId).2 = .ok ()

/-- The room has a preparation or a verification that is not older than its timeout. -/
def Young (timed : TimedRoom limits) : Prop :=
  (timed.room.preparation.isSome = true ∧ timed.now ≤ timed.preparedAt + timeouts.prepareTimeoutMs) ∨
    (timed.room.verification.isSome = true ∧ timed.now ≤ timed.verifiedAt + timeouts.verificationTimeoutMs)

/-- The room is closed only while it has a young preparation or verification. -/
def ClosedOnlyYoung (timed : TimedRoom limits) : Prop := ¬timed.Young timeouts → timed.Open settings timeouts

/-- While a verification is pending, time does not pass beyond its timeout. -/
def VerifiedInTime (timed : TimedRoom limits) : TimedEvent → Prop
  | .elapse milliseconds => timed.room.verification.isSome = true →
    timed.now + milliseconds ≤ timed.verifiedAt + timeouts.verificationTimeoutMs
  | .event _ => True

variable {urls codec settings timeouts}

/-! ### Where preparations and verifications come from -/

open GatewayRoom

/-- Only a freeze sets up a preparation, and it counts it; only a cutover that succeeds sets a verification. -/
private theorem step_origins {room next : GatewayRoom limits} {event : RoomEvent}
    (hs : room.step urls codec settings event = some next) :
    (room.preparation = none → next.preparation = none ∨ next.preparations ≠ room.preparations) ∧
      (room.verification = none → next.verification = none ∨
        ∃ i result, event = .resume i ∧ room.resume urls settings i = some result ∧ result.2.isOk = true) := by
  have hcalm : Calms room next →
      (room.preparation = none → next.preparation = none ∨ next.preparations ≠ room.preparations) ∧
        (room.verification = none → next.verification = none ∨
          ∃ i result, event = .resume i ∧ room.resume urls settings i = some result ∧ result.2.isOk = true) :=
    fun h => ⟨fun hnone => Or.inl (h.preparation hnone), fun hnone => Or.inl (h.verification hnone)⟩
  rcases step_cases hs with ⟨i, result, rfl, hresume, rfl⟩ | ⟨-, hevent⟩
  · obtain ⟨registry, verification, cutovers, hframe, hfailed⟩ := cutoverFrame_resume hresume
    refine ⟨fun hnone => Or.inl (hframe.calms.preparation hnone), fun hnone => ?_⟩
    cases hresult : result.2 with
    | ok response => exact Or.inr ⟨i, result, rfl, hresume, by rw [hresult]; rfl⟩
    | error reason =>
      refine Or.inl (hframe.verification.trans ?_)
      rw [hfailed ⟨reason, hresult⟩]
      exact hnone
  cases event with
  | resume i => cases hevent
  | connect =>
    simp only [eventStep] at hevent
    unfold GatewayRoom.connect at hevent
    split at hevent
    · cases hevent
    split at hevent
    · cases hevent
    · cases hevent
      exact ⟨fun hnone => Or.inl hnone, fun hnone => Or.inl hnone⟩
  | disconnect id =>
    simp only [eventStep] at hevent
    unfold GatewayRoom.disconnect at hevent
    split at hevent
    · cases hevent
    split at hevent
    · cases hevent
      exact hcalm ((sessionsOnly_setSession room id _).calms.trans (unlist_calms _ id))
    · cases hevent
  | socket id event => exact hcalm (socketEvent_calms hevent).1
  | freeze operationId expectedEpoch supersedesOperationId =>
    cases hevent
    rcases room.freezeRoom_cases settings operationId expectedEpoch supersedesOperationId with
      heq | ⟨route, cleared, -, -, -, rfl, heq | heq⟩
    · rw [heq]
      exact ⟨fun hnone => Or.inl hnone, fun hnone => Or.inl hnone⟩
    · have hframe := (sessionsOnly_freezeAll { room with verification := room.verification.filter fun verification =>
        verification.operationId = operationId } room.listedIds).trans (sessionsOnly_abortAll _ room.listedIds)
      rw [heq]
      refine ⟨fun hnone => Or.inl (hframe.preparation.trans hnone),
        fun hnone => Or.inl (hframe.verification.trans ?_)⟩
      dsimp only
      rw [hnone]
      rfl
    · have hframe := sessionsOnly_freezeAll { room with verification := room.verification.filter fun verification =>
        verification.operationId = operationId } room.listedIds
      rw [heq]
      refine ⟨fun _ => Or.inr (Nat.succ_ne_self _), fun hnone => Or.inl (hframe.verification.trans ?_)⟩
      dsimp only
      rw [hnone]
      rfl
  | abort operationId =>
    cases hevent
    exact hcalm (room.abortRoomPreparation_calms operationId).1
  | timeout =>
    obtain ⟨preparation, -, rfl⟩ := Option.map_eq_some_iff.1 hevent
    exact hcalm (room.abortRoomPreparation_calms _).1
  | cutover request =>
    cases hevent
    obtain ⟨cutovers, hframe⟩ := cutoverFrame_cutover settings room request
    exact ⟨fun hnone => Or.inl (hframe.calms.preparation hnone),
      fun hnone => Or.inl (hframe.calms.verification hnone)⟩
  | finalize operationId stale =>
    cases hevent
    exact hcalm (room.finalizeRoomVerification_calms operationId stale).1
  | register endpoint epoch =>
    cases hevent
    exact ⟨fun hnone => Or.inl hnone, fun hnone => Or.inl hnone⟩
  | reconcile endpoint epoch =>
    cases hevent
    unfold GatewayRoom.reconcile
    repeat' split
    all_goals exact ⟨fun hnone => Or.inl hnone, fun hnone => Or.inl hnone⟩
  | reconciled i confirmed =>
    simp only [eventStep] at hevent
    unfold GatewayRoom.reconciled at hevent
    split at hevent
    · cases hevent
    split at hevent
    all_goals
      cases hevent
      exact ⟨fun hnone => Or.inl hnone, fun hnone => Or.inl hnone⟩

/-! ### Runs -/

/-- Neither the preparation nor the verification is older than its timeout. -/
structure InTime (timeouts : GatewayTimeouts) (timed : TimedRoom limits) : Prop where
  preparation : timed.room.preparation ≠ none → timed.now ≤ timed.preparedAt + timeouts.prepareTimeoutMs
  verification : timed.room.verification ≠ none → timed.now ≤ timed.verifiedAt + timeouts.verificationTimeoutMs

/-- A room without preparation and verification is open. -/
theorem open_of_idle {timed : TimedRoom limits} (hpreparation : timed.room.preparation = none)
    (hverification : timed.room.verification = none) : timed.Open settings timeouts where
  upgrade := fun route hroute => by
    unfold GatewayRoom.connect
    rw [hroute, hpreparation, hverification]
    rfl
  freeze := fun route operationId supersedesOperationId hroute hid hvalid => by
    have hepoch : (JsNumber.ofNat route.epoch).strictEq (.ofNat route.epoch) = true :=
      JsNumber.strictEq_iff.2 (Or.inl ⟨rfl, fun h => nomatch h⟩)
    have hroute' : timed.room.route (timeouts.apply settings) = some route := hroute
    unfold freezeRoom
    rw [hroute', hpreparation]
    dsimp only
    rw [hepoch, if_neg (by simp), if_neg hid, verificationBlocks, hverification]
    dsimp only
    rw [if_neg (by simp), hvalid, if_neg (by simp)]

theorem InTime.closedOnlyYoung {timed : TimedRoom limits} (h : InTime timeouts timed) :
    timed.ClosedOnlyYoung settings timeouts := by
  intro hold
  unfold Young at hold
  rw [not_or, not_and, not_and] at hold
  apply open_of_idle
  · by_contra hsome
    exact hold.1 (Option.isSome_iff_ne_none.2 hsome) (h.preparation hsome)
  · by_contra hsome
    exact hold.2 (Option.isSome_iff_ne_none.2 hsome) (h.verification hsome)

/-- Where no time passes beyond the timeout of a pending verification, everything stays in time. -/
theorem InTime.step {timed next : TimedRoom limits} {event : TimedEvent} (h : InTime timeouts timed)
    (hevent : timed.VerifiedInTime timeouts event)
    (hs : timed.step urls codec settings timeouts event = some next) : InTime timeouts next := by
  cases event with
  | elapse milliseconds =>
    simp only [TimedRoom.step] at hs
    split at hs
    · cases hs
    rename_i htimer
    obtain rfl := Option.some.inj hs
    refine ⟨fun hsome => ?_, fun hsome => hevent (Option.isSome_iff_ne_none.2 hsome)⟩
    have hsome : timed.room.preparation.isSome = true := Option.isSome_iff_ne_none.2 hsome
    rw [hsome, Bool.true_and, decide_eq_true_eq] at htimer
    exact Nat.le_of_not_lt htimer
  | event event =>
    simp only [TimedRoom.step] at hs
    split at hs
    · obtain ⟨room, hroom, rfl⟩ := Option.map_eq_some_iff.1 hs
      obtain ⟨hpreparation, hverification⟩ := step_origins hroom
      refine ⟨fun hsome => ?_, fun hsome => ?_⟩
      · dsimp only at hsome ⊢
        split
        · rename_i hsame
          refine h.preparation fun hnone => ?_
          rcases hpreparation hnone with hgone | hcounted
          · exact hsome hgone
          · exact hcounted hsame
        · exact Nat.le_add_right _ _
      · dsimp only at hsome ⊢
        split
        · exact Nat.le_add_right _ _
        · rename_i hverifies
          refine h.verification fun hnone => ?_
          rcases hverification hnone with hgone | ⟨i, result, rfl, hresume, hok⟩
          · exact hsome hgone
          · refine hverifies ?_
            change Option.any _ (resume urls (timeouts.apply settings) timed.room i) = true
            rw [hresume]
            exact hok
    · cases hs

/-- The gateway before its first event. -/
def init (registry : FencedGatewayRoomRegistry) : TimedRoom limits := { room := .init registry }

/-- A cutover to the next epoch. -/
def cutoverOfEmptyRoom : CutoverRequest where
  operationId := "op"
  expectedEpoch := .ofNat 1
  nextEpoch := .ofNat 2
  endpoint := "http://candidate:3000"
  revision := none
  checksumMatched := true
  caughtUp := true

instance (timed : TimedRoom limits) (event : TimedEvent) : Decidable (timed.VerifiedInTime timeouts event) := by
  unfold VerifiedInTime
  split <;> infer_instance

/-- In every run of the gateway in which no verification stays pending for longer than its timeout, whatever else happens
and in whatever order, the room refuses browsers and freezes only while it has a preparation or a verification that is
not older than its timeout. -/
theorem closed_only_while_young (registry : FencedGatewayRoomRegistry) (events : List TimedEvent)
    (h : Machine.EachStep (step urls codec settings timeouts) (VerifiedInTime timeouts)
      (init registry : TimedRoom limits) events) :
    Machine.Throughout (step urls codec settings timeouts) (ClosedOnlyYoung settings timeouts)
      (init registry : TimedRoom limits) events := by
  have hinit : InTime timeouts (init registry : TimedRoom limits) :=
    ⟨fun hsome => absurd rfl hsome, fun hsome => absurd rfl hsome⟩
  have hstep : ∀ (timed : TimedRoom limits) event next, InTime timeouts timed → timed.VerifiedInTime timeouts event →
      timed.step urls codec settings timeouts event = some next → InTime timeouts next :=
    fun timed event next hin hevent hs => hin.step hevent hs
  exact (Machine.throughout_of_eachStep hstep hinit h).mono fun timed hin => hin.closedOnlyYoung

/-- A handoff is frozen, cut over and finalised in time, and a browser connects later. -/
theorem closed_while_verifying : Machine.Throughout
    (step plainUrls plainJoins firstRoom { prepareTimeoutMs := 15000, verificationTimeoutMs := 15000 })
    (ClosedOnlyYoung firstRoom { prepareTimeoutMs := 15000, verificationTimeoutMs := 15000 })
    (init .empty : TimedRoom fourInputs)
    [.event (.register "http://active:3000" (.ofNat 1)), .event (.freeze "op" (.ofNat 1) none), .elapse 10000,
      .event (.cutover cutoverOfEmptyRoom), .event (.resume 0), .elapse 15000, .event (.finalize "op" false),
      .elapse 60000, .event .connect] :=
  closed_only_while_young _ _ (by decide +kernel)

/-- A verification that is older than its timeout closes a registered room, as long as no preparation does. -/
theorem overdue_closes {timed : TimedRoom limits} {route : GatewayRoomRoute}
    (hroute : timed.room.route settings = some route) (hpreparation : timed.room.preparation = none)
    (hverification : timed.room.verification.isSome = true)
    (hoverdue : timed.verifiedAt + timeouts.verificationTimeoutMs < timed.now) :
    ¬timed.ClosedOnlyYoung settings timeouts := by
  intro hclosed
  have hold : ¬timed.Young timeouts := by
    rintro (⟨hsome, -⟩ | ⟨-, hle⟩)
    · rw [hpreparation] at hsome
      cases hsome
    · omega
  have hupgrade := (hclosed hold).upgrade route hroute
  unfold GatewayRoom.connect at hupgrade
  rw [hroute, hverification, Bool.or_true] at hupgrade
  cases hupgrade

/-- The owner of a handoff gives up after its cutover; the room is still closed when its verification is stale. -/
theorem closed_by_stale_verification : ¬∀ (limits : GatewayLimits) (urls : UrlParser) (codec : GatewayJoinCodec)
    (settings : GatewaySettings) (timeouts : GatewayTimeouts) (registry : FencedGatewayRoomRegistry)
    (events : List TimedEvent), Machine.Throughout (step urls codec settings timeouts)
      (ClosedOnlyYoung settings timeouts) (init registry : TimedRoom limits) events := by
  intro h
  have hrun := h fourInputs plainUrls plainJoins firstRoom
    { prepareTimeoutMs := 15000, verificationTimeoutMs := 15000 } .empty
    [.event (.register "http://active:3000" (.ofNat 1)), .event (.freeze "op" (.ofNat 1) none),
      .event (.cutover cutoverOfEmptyRoom), .event (.resume 0), .elapse 15001]
  have hend : ((Machine.runFrom (step plainUrls plainJoins firstRoom
      { prepareTimeoutMs := 15000, verificationTimeoutMs := 15000 }) (init .empty : TimedRoom fourInputs)
      [.event (.register "http://active:3000" (.ofNat 1)), .event (.freeze "op" (.ofNat 1) none),
        .event (.cutover cutoverOfEmptyRoom), .event (.resume 0), .elapse 15001]).any fun timed =>
      (timed.room.route firstRoom).isSome && timed.room.preparation.isNone && timed.room.verification.isSome &&
        decide (timed.verifiedAt + 15000 < timed.now)) = true := by decide +kernel
  obtain ⟨timed, hreached, hclosed⟩ := (Option.any_eq_true _ _).1 hend
  simp only [Bool.and_eq_true, decide_eq_true_eq] at hclosed
  obtain ⟨⟨⟨hroute, hpreparation⟩, hverification⟩, hoverdue⟩ := hclosed
  obtain ⟨route, hroute⟩ := Option.isSome_iff_exists.1 hroute
  exact overdue_closes hroute (Option.isNone_iff_eq_none.1 hpreparation) hverification hoverdue (hrun.last hreached)

end TimedRoom

end Opsia
