import Opsia.Gateway.RoomFrames

/-!
# Reconciliation of a stable route

The `reconcile` endpoint checks that the room is idle, waits for the authority, and then moves the route.  Nothing
checks again behind the wait.  The route of a room that is in use moves only if the room came into use meanwhile: a
browser connected, a freeze set up a preparation, or a cutover that was under way reached its verification.
-/

namespace Opsia

open Json

namespace GatewayRoom

variable {limits : GatewayLimits} {urls : UrlParser} {codec : GatewayJoinCodec} {settings : GatewaySettings}

/-- The room has no sessions, no preparation and no pending verification. -/
structure Idle (room : GatewayRoom limits) : Prop where
  sessions : room.listedIds = []
  preparation : room.preparation = none
  verification : room.verification = none

instance (room : GatewayRoom limits) : Decidable room.Idle :=
  decidable_of_iff (room.listedIds = [] ∧ room.preparation = none ∧ room.verification = none)
    ⟨fun h => ⟨h.1, h.2.1, h.2.2⟩, fun h => ⟨h.1, h.2, h.3⟩⟩

variable (urls settings) in
/-- A reconciliation that changes the route finds the room idle. -/
def MovesIdle (room : GatewayRoom limits) : RoomEvent → Prop
  | .reconciled i confirmed =>
    ∀ next ∈ room.reconciled urls settings i confirmed, next.route settings ≠ room.route settings → room.Idle
  | _ => True

variable (urls settings) in
/-- While a reconciliation waits, nobody connects, no freeze goes through and no cutover succeeds. -/
def LeavesIdle (room : GatewayRoom limits) (event : RoomEvent) : Prop :=
  room.reconciles = [] ∨
    match event with
    | .connect => False
    | .freeze operationId expectedEpoch supersedesOperationId =>
      (room.freezeRoom settings operationId expectedEpoch supersedesOperationId).1.preparation = none
    | .resume i => ∀ next ∈ room.resume urls settings i, next.2.isOk = false
    | _ => True

/-! ### An idle room stays idle -/

/-- Nothing makes the room busier. -/
structure Calms (room next : GatewayRoom limits) : Prop where
  listed : ∀ id, next.isListed id = true → room.isListed id = true
  preparation : room.preparation = none → next.preparation = none
  verification : room.verification = none → next.verification = none

theorem Calms.refl (room : GatewayRoom limits) : Calms room room := ⟨fun _ => id, id, id⟩

theorem Calms.idle {room next : GatewayRoom limits} (h : Calms room next) (hidle : room.Idle) : next.Idle := by
  refine ⟨?_, h.preparation hidle.preparation, h.verification hidle.verification⟩
  rw [List.eq_nil_iff_forall_not_mem]
  intro id hid
  have hlisted := mem_listedIds.2 (h.listed id (mem_listedIds.1 hid))
  rw [hidle.sessions] at hlisted
  cases hlisted

theorem SessionsOnly.calms {room next : GatewayRoom limits} (h : SessionsOnly room next) : Calms room next :=
  ⟨fun id hid => (h.listed id).symm.trans hid, h.preparation.trans, h.verification.trans⟩

theorem CutoverFrame.calms {room next : GatewayRoom limits} (h : CutoverFrame room next) : Calms room next := by
  refine ⟨fun id hid => (h.listed id).symm.trans hid, fun hnone => ?_, h.verification.trans⟩
  rcases h.preparation with hkept | hgone
  · rw [hkept, hnone]
  · exact hgone

theorem abortRoomPreparation_calms (room : GatewayRoom limits) (operationId : Option String) :
    Calms room (room.abortRoomPreparation operationId).1 ∧
      (room.abortRoomPreparation operationId).1.reconciles = room.reconciles := by
  rcases room.abortRoomPreparation_cases operationId with heq | ⟨preparation, -, heq⟩
  · rw [heq]
    exact ⟨.refl room, rfl⟩
  · rw [heq]
    have hframe := sessionsOnly_abortAll { room with preparation := none } (preparation.sessionIds.filter room.isListed)
    exact ⟨⟨hframe.calms.listed, fun _ => hframe.preparation, hframe.calms.verification⟩, hframe.reconciles⟩

theorem freezeRoom_calms {room : GatewayRoom limits} {operationId : String} {expectedEpoch : JsNumber}
    {supersedesOperationId : Option String}
    (h : (room.freezeRoom settings operationId expectedEpoch supersedesOperationId).1.preparation = none) :
    Calms room (room.freezeRoom settings operationId expectedEpoch supersedesOperationId).1 := by
  rcases room.freezeRoom_cases settings operationId expectedEpoch supersedesOperationId with
    heq | ⟨route, cleared, -, -, -, hcleared, heq | heq⟩
  · rw [heq]
    exact .refl room
  · have hframe := (cleared.sessionsOnly_freezeAll room.listedIds).trans (sessionsOnly_abortAll _ room.listedIds)
    rw [heq]
    rw [hcleared] at hframe ⊢
    refine ⟨hframe.calms.listed, hframe.calms.preparation, fun hnone => hframe.verification.trans ?_⟩
    dsimp only
    rw [hnone]
    rfl
  · rw [heq] at h
    cases h

theorem freezeRoom_reconciles (room : GatewayRoom limits) (operationId : String) (expectedEpoch : JsNumber)
    (supersedesOperationId : Option String) :
    (room.freezeRoom settings operationId expectedEpoch supersedesOperationId).1.reconciles = room.reconciles := by
  rcases room.freezeRoom_cases settings operationId expectedEpoch supersedesOperationId with
    heq | ⟨route, cleared, -, -, -, rfl, heq | heq⟩
  · rw [heq]
  · rw [heq]
    exact ((sessionsOnly_freezeAll _ room.listedIds).trans (sessionsOnly_abortAll _ room.listedIds)).reconciles
  · rw [heq]
    exact (sessionsOnly_freezeAll _ room.listedIds).reconciles

theorem finalizeRoomVerification_calms (room : GatewayRoom limits) (operationId : String) (stale : Bool) :
    Calms room (room.finalizeRoomVerification settings operationId stale).1 ∧
      (room.finalizeRoomVerification settings operationId stale).1.reconciles = room.reconciles := by
  unfold finalizeRoomVerification
  split
  · exact ⟨.refl room, rfl⟩
  · rename_i verification _
    split
    · exact ⟨.refl room, rfl⟩
    · split
      · exact ⟨.refl room, rfl⟩
      · have hframe := room.sessionsOnly_finalizeAll (verification.sessionIds.filter room.isListed)
        exact ⟨⟨hframe.calms.listed, hframe.calms.preparation, fun _ => rfl⟩, hframe.reconciles⟩

theorem unlist_calms (room : GatewayRoom limits) (id : Nat) : Calms room (room.unlist id) := by
  refine ⟨fun other hother => ?_, fun h => h, fun h => h⟩
  rw [room.isListed_unlist] at hother
  exact (Bool.and_eq_true_iff.1 hother).2

theorem Calms.trans {first second third : GatewayRoom limits} (h : Calms first second) (h' : Calms second third) :
    Calms first third :=
  ⟨fun id hid => h.listed id (h'.listed id hid), fun hnone => h'.preparation (h.preparation hnone),
    fun hnone => h'.verification (h.verification hnone)⟩

theorem socketEvent_calms {room next : GatewayRoom limits} {id : Nat} {event : SocketEvent}
    (h : room.socketEvent codec id event = some next) : Calms room next ∧ next.reconciles = room.reconciles := by
  unfold socketEvent at h
  split at h
  · cases h
  · split at h
    · cases h
    · obtain ⟨session, -, rfl⟩ := Option.map_eq_some_iff.1 h
      have hset := (room.sessionsOnly_setSession id session).calms
      split
      · exact ⟨hset.trans (unlist_calms _ id), rfl⟩
      · exact ⟨hset, rfl⟩

/-- An event that leaves the room idle keeps it so, and only a reconciliation of an idle room starts to wait. -/
theorem idle_step {room next : GatewayRoom limits} {event : RoomEvent}
    (hidle : room.reconciles ≠ [] → room.Idle) (hleaves : LeavesIdle urls settings room event)
    (hs : room.step urls codec settings event = some next) : next.reconciles ≠ [] → next.Idle := by
  -- it is enough that the reconciliations stay the same and the room does not get busier while there are some
  have hkeeps : next.reconciles = room.reconciles → (room.reconciles ≠ [] → Calms room next) →
      next.reconciles ≠ [] → next.Idle := by
    intro hsame hcalms hne
    rw [hsame] at hne
    exact (hcalms hne).idle (hidle hne)
  rcases step_cases hs with ⟨i, result, rfl, hresume, rfl⟩ | ⟨-, hevent⟩
  · obtain ⟨registry, verification, cutovers, hframe, hfailed⟩ := cutoverFrame_resume hresume
    refine hkeeps hframe.reconciles fun hne => ?_
    rcases hleaves with hnone | hfails
    · exact absurd hnone hne
    · have hfails : result.2.isOk = false := hfails result hresume
      have hsame := hfailed (by
        cases hresult : result.2 with
        | error reason => exact ⟨reason, rfl⟩
        | ok response =>
          rw [hresult] at hfails
          cases hfails)
      subst hsame
      exact ⟨hframe.calms.listed, hframe.calms.preparation, hframe.calms.verification⟩
  cases event with
  | resume i => cases hevent
  | connect =>
    obtain hnone | hfalse := hleaves
    · refine hkeeps ?_ fun hne => absurd hnone hne
      simp only [eventStep] at hevent
      unfold GatewayRoom.connect at hevent
      split at hevent
      · cases hevent
      · split at hevent
        · cases hevent
        · cases hevent
          rfl
    · exact hfalse.elim
  | disconnect id =>
    simp only [eventStep] at hevent
    unfold GatewayRoom.disconnect at hevent
    split at hevent
    · cases hevent
    · split at hevent
      · cases hevent
        exact hkeeps rfl fun _ => (sessionsOnly_setSession room id _).calms.trans (unlist_calms _ id)
      · cases hevent
  | socket id event =>
    have hsocket := socketEvent_calms hevent
    exact hkeeps hsocket.2 fun _ => hsocket.1
  | freeze operationId expectedEpoch supersedesOperationId =>
    cases hevent
    refine hkeeps (room.freezeRoom_reconciles ..) fun hne => ?_
    rcases hleaves with hnone | hquiet
    · exact absurd hnone hne
    · exact freezeRoom_calms hquiet
  | abort operationId =>
    cases hevent
    exact hkeeps (room.abortRoomPreparation_calms operationId).2 fun _ => (room.abortRoomPreparation_calms operationId).1
  | timeout =>
    obtain ⟨preparation, -, rfl⟩ := Option.map_eq_some_iff.1 hevent
    exact hkeeps (room.abortRoomPreparation_calms _).2 fun _ => (room.abortRoomPreparation_calms _).1
  | cutover request =>
    cases hevent
    obtain ⟨cutovers, hframe⟩ := cutoverFrame_cutover settings room request
    exact hkeeps hframe.reconciles fun _ =>
      ⟨hframe.calms.listed, hframe.calms.preparation, hframe.calms.verification⟩
  | finalize operationId stale =>
    cases hevent
    exact hkeeps (room.finalizeRoomVerification_calms operationId stale).2 fun _ =>
      (room.finalizeRoomVerification_calms operationId stale).1
  | register endpoint epoch =>
    cases hevent
    exact hkeeps rfl fun _ => ⟨fun _ => id, id, id⟩
  | reconcile endpoint epoch =>
    cases hevent
    unfold GatewayRoom.reconcile
    -- the guard is what makes the room idle
    split
    · exact hidle
    · split
      · exact hidle
      · split
        · exact hidle
        · rename_i hfree
          intro _
          simp only [Bool.or_eq_true, not_or, Bool.not_eq_true, Option.isSome_eq_false_iff, Option.isNone_iff_eq_none,
            Bool.not_eq_false', List.isEmpty_iff] at hfree
          exact ⟨hfree.2, hfree.1.1, hfree.1.2⟩
  | reconciled i confirmed =>
    simp only [eventStep] at hevent
    unfold GatewayRoom.reconciled at hevent
    split at hevent
    · cases hevent
    · rename_i call hcall
      have hne : room.reconciles ≠ [] := by
        intro hnil
        rw [hnil] at hcall
        cases hcall
      have hidle := hidle hne
      split at hevent
      · cases hevent
        exact fun _ => ⟨hidle.sessions, hidle.preparation, hidle.verification⟩
      · cases hevent
        exact fun _ => ⟨hidle.sessions, hidle.preparation, hidle.verification⟩

/-! ### Runs -/

/-- In every run in which nothing busies the room while a reconciliation waits, a reconciliation that changes the route
finds the room without sessions, preparation and verification. -/
theorem route_moves_idle (registry : FencedGatewayRoomRegistry) (events : List RoomEvent)
    (h : Machine.EachStep (step urls codec settings) (LeavesIdle urls settings)
      (init registry : GatewayRoom limits) events) :
    Machine.EachStep (step urls codec settings) (MovesIdle urls settings)
      (init registry : GatewayRoom limits) events := by
  suffices hrun : ∀ room : GatewayRoom limits, (room.reconciles ≠ [] → room.Idle) →
      Machine.EachStep (step urls codec settings) (LeavesIdle urls settings) room events →
      Machine.EachStep (step urls codec settings) (MovesIdle urls settings) room events from
    hrun _ (fun hne => absurd rfl hne) h
  clear h
  intro room hidle h
  induction events generalizing room with
  | nil => trivial
  | cons event events ih =>
    intro next hs
    obtain ⟨hleaves, hrest⟩ := h next hs
    refine ⟨?_, ih next (idle_step hidle hleaves hs) hrest⟩
    unfold MovesIdle
    split
    · intro after hafter _
      refine hidle fun hnil => ?_
      rw [Option.mem_def] at hafter
      unfold GatewayRoom.reconciled at hafter
      rw [hnil] at hafter
      cases hafter
    · trivial

instance (room : GatewayRoom limits) (event : RoomEvent) : Decidable (MovesIdle urls settings room event) := by
  unfold MovesIdle
  split <;> infer_instance

instance (room : GatewayRoom limits) (event : RoomEvent) : Decidable (LeavesIdle urls settings room event) := by
  unfold LeavesIdle
  split <;> infer_instance

/-- A room is reconciled before anybody connects. -/
theorem route_moves_idle_before_connect :
    Machine.EachStep (step plainUrls plainJoins firstRoom) (MovesIdle plainUrls firstRoom)
      (init .empty : GatewayRoom fourInputs)
      [.register "http://active:3000" (.ofNat 1), .reconcile "http://active:3000" (.ofNat 2), .reconciled 0 true,
        .connect] :=
  route_moves_idle _ _ (by decide +kernel)

/-- A browser connects while the authority is asked, and the route moves under its session. -/
theorem route_moves_under_session : ¬∀ (limits : GatewayLimits) (urls : UrlParser) (codec : GatewayJoinCodec)
    (settings : GatewaySettings) (registry : FencedGatewayRoomRegistry) (events : List RoomEvent),
    Machine.EachStep (step urls codec settings) (MovesIdle urls settings)
      (init registry : GatewayRoom limits) events := by
  intro h
  have hrun := h fourInputs plainUrls plainJoins firstRoom .empty
    [.register "http://active:3000" (.ofNat 1), .reconcile "http://active:3000" (.ofNat 2), .connect,
      .reconciled 0 true]
  revert hrun
  decide +kernel

end GatewayRoom

end Opsia
