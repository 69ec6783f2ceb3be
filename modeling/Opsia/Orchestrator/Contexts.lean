import Opsia.Orchestrator.Driver

/-!
# When a handoff releases its room

A handoff that has come to its end leaves its driver without contexts just when no request that undoes it, and no
deletion of a pod, failed after its candidate was scheduled (`CleanedUp`); otherwise the context stays, and with it the
room is taken for every later handoff (`handoffs_release_iff`).  `scheduleCandidate` itself forgets the context whatever
its requests come to.
-/

namespace Opsia

open Json

/-! ### What a handoff asked for -/

/-- The candidate's pod was found and the roles were patched, with which `scheduleCandidate` resolves. -/
def scheduled : (Exchange fun call : DriverCall => Except HandoffError call.Result) → Bool
  | ⟨.patchPodRoles .., .ok _⟩ => true
  | _ => false

/-- A request that undoes a handoff, or the deletion of a pod, and it failed. -/
def cleanupFailed : (Exchange fun call : DriverCall => Except HandoffError call.Result) → Bool
  | ⟨.behind (.abortGatewayPreparation ..), .error _⟩ => true
  | ⟨.behind (.rollbackGateway _), .error _⟩ => true
  | ⟨.patchDeployment .., .error _⟩ => true
  | ⟨.deletePod .., .error _⟩ => true
  | _ => false

/-- Nothing that undoes the handoff failed after its candidate was scheduled: neither the abort of the gateway's
preparation, nor the rollback, nor the restoring of the deployment, nor the deletion of a pod. -/
def CleanedUp (log : DriverLog) : Prop :=
  log.Pairwise fun e e' => scheduled e = true → cleanupFailed e' = false

instance (log : DriverLog) : Decidable (CleanedUp log) := by
  unfold CleanedUp
  infer_instance

/-- The driver keeps no context, neither for a room nor for a candidate. -/
structure DriverContexts.Released (contexts : DriverContexts) : Prop where
  rooms : ∀ roomId, contexts.byRoom roomId = none
  candidates : ∀ uid, contexts.byCandidateUid uid = none

namespace DriverLog

def Unscheduled (log : DriverLog) : Prop := ∀ e ∈ log, scheduled e = false

def Scheduled (log : DriverLog) : Prop := ∃ e ∈ log, scheduled e = true

/-- The log has grown by exchanges that neither schedule the candidate nor fail to undo the handoff. -/
def Grows (log log' : DriverLog) : Prop :=
  ∃ more : DriverLog, log' = log ++ more ∧ ∀ e ∈ more, scheduled e = false ∧ cleanupFailed e = false

variable {log log' : DriverLog} {e : Exchange fun call : DriverCall => Except HandoffError call.Result}

theorem Grows.refl (log : DriverLog) : Grows log log := ⟨[], (List.append_nil log).symm, fun _ he => (nomatch he)⟩

theorem Grows.one (hs : scheduled e = false) (hc : cleanupFailed e = false) : Grows log (log ++ [e]) := by
  refine ⟨[e], rfl, fun e' he => ?_⟩
  obtain rfl := List.mem_singleton.1 he
  exact ⟨hs, hc⟩

theorem Unscheduled.append (h : Unscheduled log) (he : scheduled e = false) : Unscheduled (log ++ [e]) := by
  intro e' hmem
  rcases List.mem_append.1 hmem with hmem | hmem
  · exact h e' hmem
  · obtain rfl := List.mem_singleton.1 hmem
    exact he

theorem Unscheduled.grows (h : Unscheduled log) (hg : Grows log log') : Unscheduled log' := by
  obtain ⟨more, rfl, hmore⟩ := hg
  intro e hmem
  rcases List.mem_append.1 hmem with hmem | hmem
  · exact h e hmem
  · exact (hmore e hmem).1

/-- As long as nothing is scheduled nothing has to be undone. -/
theorem Unscheduled.cleanedUp (h : Unscheduled log) : CleanedUp log := by
  refine List.Pairwise.imp_of_mem ?_ (List.pairwise_of_forall (R := fun _ _ => True) fun _ _ => trivial)
  intro e e' he _ _ hs
  rw [h e he] at hs
  cases hs

theorem Scheduled.grows (h : Scheduled log) (hg : Grows log log') : Scheduled log' := by
  obtain ⟨more, rfl, -⟩ := hg
  obtain ⟨e, he, hs⟩ := h
  exact ⟨e, List.mem_append_left more he, hs⟩

theorem cleanedUp_append {log more : DriverLog} (h : CleanedUp (log ++ more)) : CleanedUp log :=
  (List.pairwise_append.1 h).1

theorem cleanedUp_grows (hg : Grows log log') : CleanedUp log' ↔ CleanedUp log := by
  obtain ⟨more, rfl, hmore⟩ := hg
  refine ⟨cleanedUp_append, fun h => List.pairwise_append.2 ⟨h, ?_, fun e _ e' he' _ => (hmore e' he').2⟩⟩
  refine List.Pairwise.imp_of_mem ?_ (List.pairwise_of_forall (R := fun _ _ => True) fun _ _ => trivial)
  exact fun _ he' _ _ => (hmore _ he').2

/-- The exchange that schedules the candidate leaves nothing undone behind it. -/
theorem Unscheduled.cleanedUp_append (h : Unscheduled log) : CleanedUp (log ++ [e]) := by
  refine List.pairwise_append.2 ⟨h.cleanedUp, List.pairwise_singleton _ _, fun e' he' _ _ hs => ?_⟩
  rw [h e' he'] at hs
  cases hs

/-- After the candidate was scheduled one failure is enough. -/
theorem Scheduled.not_cleanedUp (h : Scheduled log) (he : cleanupFailed e = true) : ¬CleanedUp (log ++ [e]) := by
  intro hclean
  obtain ⟨e', he', hs⟩ := h
  have hok := (List.pairwise_append.1 hclean).2.2 e' he' e (List.mem_singleton_self e) hs
  rw [he] at hok
  cases hok

end DriverLog

open DriverLog

/-! ### Where a handoff may be -/

namespace DriverContexts

/-- One context, for its room and its candidate. -/
def holding (context : DriverContext) (candidate : RoomCandidate) : DriverContexts where
  byRoom := Function.update (fun _ => none) context.target.roomId (some context)
  byCandidateUid := Function.update (fun _ => none) candidate.uid (some context)

theorem released_empty : empty.Released := ⟨fun _ => rfl, fun _ => rfl⟩

theorem Released.eq_empty {contexts : DriverContexts} (h : contexts.Released) : contexts = empty := by
  obtain ⟨byRoom, byCandidateUid⟩ := contexts
  obtain ⟨hrooms, hcandidates⟩ := h
  obtain rfl : byRoom = fun _ => none := funext hrooms
  obtain rfl : byCandidateUid = fun _ => none := funext hcandidates
  rfl

theorem holding_byRoom (context : DriverContext) (candidate : RoomCandidate) :
    (holding context candidate).byRoom context.target.roomId = some context := by
  simp only [holding, Function.update_self]

theorem holding_clearContext {context : DriverContext} {candidate : RoomCandidate}
    (h : context.candidate = some candidate) : (holding context candidate).clearContext context = empty := by
  unfold clearContext holding empty
  simp only [h, Function.update_idem]
  rw [Function.update_eq_self, Function.update_eq_self]

theorem not_released_holding (context : DriverContext) (candidate : RoomCandidate) :
    ¬(holding context candidate).Released := by
  intro h
  have hroom := h.rooms context.target.roomId
  rw [holding_byRoom] at hroom
  cases hroom

end DriverContexts

open DriverContexts

/-- The contexts are released just when the handoff has been cleaned up. -/
def ContextsSettled (log : DriverLog) (contexts : DriverContexts) : Prop :=
  (contexts = empty ∧ CleanedUp log) ∨ (¬contexts.Released ∧ ¬CleanedUp log)

/-- The driver holds the candidate of the handoff, and so do the variables of the coordinator. -/
structure Held (target : RoomHandoffTarget) (operationId : String) (log : DriverLog) (progress : HandoffProgress)
    (contexts : DriverContexts) : Prop where
  holding : ∃ context candidate, contexts = holding context candidate ∧ context.candidate = some candidate ∧
    context.target = target ∧ context.operationId = operationId ∧ progress.candidate = some candidate
  scheduled : Scheduled log
  cleanedUp : CleanedUp log
  stage : progress.stage ≠ .drain
  started : progress.authorityCommitted = true → progress.authorityTransferStarted = true

/-- Where an exception leaves a handoff: before its candidate was scheduled, with the candidate held, or at the
drain. -/
inductive HandoffLeft (target : RoomHandoffTarget) (operationId : String) (log : DriverLog) (progress : HandoffProgress)
    (contexts : DriverContexts) : Prop
  | unscheduled (hcontexts : contexts = empty) (hlog : Unscheduled log) (hcandidate : progress.candidate = none)
  | held (h : Held target operationId log progress contexts)
  | drain (hstage : progress.stage = .drain) (hstarted : progress.authorityTransferStarted = true)
      (hsettled : ContextsSettled log contexts)

variable {target : RoomHandoffTarget} {operationId : String} {log log' : DriverLog} {progress : HandoffProgress}
  {contexts : DriverContexts}

theorem ContextsSettled.grows (h : ContextsSettled log contexts) (hg : Grows log log') :
    ContextsSettled log' contexts := by
  unfold ContextsSettled
  rw [cleanedUp_grows hg]
  exact h

theorem ContextsSettled.released_iff (h : ContextsSettled log contexts) : contexts.Released ↔ CleanedUp log := by
  rcases h with ⟨rfl, hclean⟩ | ⟨hheld, hleft⟩
  · exact iff_of_true released_empty hclean
  · exact iff_of_false hheld hleft

theorem Held.grows (h : Held target operationId log progress contexts) (hg : Grows log log') :
    Held target operationId log' progress contexts where
  holding := h.holding
  scheduled := h.scheduled.grows hg
  cleanedUp := (cleanedUp_grows hg).2 h.cleanedUp
  stage := h.stage
  started := h.started

/-- Where the candidate stays held after a request of the cleanup failed. -/
theorem Held.settled_of_failed (h : Held target operationId log progress contexts)
    {e : Exchange fun call : DriverCall => Except HandoffError call.Result} (he : cleanupFailed e = true) :
    ContextsSettled (log ++ [e]) contexts := by
  obtain ⟨context, candidate, rfl, -⟩ := h.holding
  exact Or.inr ⟨not_released_holding _ _, h.scheduled.not_cleanedUp he⟩

/-! ### The methods of the driver -/

/-- Nothing is asked of the requests themselves. -/
private abbrev Anything : DriverLog → DriverCall → Prop := fun _ _ => True

/-- The contexts stay and the log grows by what does not matter. -/
private abbrev Through (log : DriverLog) (contexts : DriverContexts) {α : Type} :
    DriverLog → DriverContexts → α → Prop :=
  fun log' contexts' _ => contexts' = contexts ∧ Grows log log'

namespace KubernetesRoomHandoffDriver

variable (driver : KubernetesRoomHandoffDriver)

private theorem obeys_require {condition : Bool} {message : String} {post : DriverLog → DriverContexts → Unit → Prop}
    {failed : DriverLog → DriverContexts → HandoffError → Prop} (hpost : condition = true → post log contexts ())
    (hfailed : condition = false → failed log contexts (.error message)) :
    (Driver.require condition message).Obeys Anything contexts log post failed := by
  unfold Driver.require
  split
  · exact Procedure.obeys_pure (hpost ‹_›)
  · exact Procedure.obeys_throw (hfailed (Bool.not_eq_true _ ▸ ‹_›))

private theorem obeys_quiet {call : DriverCall} (hs : ∀ answer, scheduled ⟨call, answer⟩ = false)
    (hc : ∀ answer, cleanupFailed ⟨call, answer⟩ = false) :
    (Driver.request call).Obeys Anything contexts log (Through log contexts) (Through log contexts) :=
  Procedure.obeys_perform trivial (fun _ => ⟨rfl, Grows.one (hs _) (hc _)⟩) fun _ => ⟨rfl, Grows.one (hs _) (hc _)⟩

private theorem obeys_contextFor {candidate : RoomCandidate} {post : DriverLog → DriverContexts → DriverContext → Prop}
    {failed : DriverLog → DriverContexts → HandoffError → Prop}
    (hpost : ∀ context, contexts.byCandidateUid candidate.uid = some context → post log contexts context)
    (hfailed : contexts.byCandidateUid candidate.uid = none → ∀ e, failed log contexts e) :
    (contextFor candidate).Obeys Anything contexts log post failed := by
  refine Procedure.obeys_bind (Procedure.obeys_get ?_)
  cases hcontext : contexts.byCandidateUid candidate.uid with
  | some context => exact Procedure.obeys_pure (hpost context hcontext)
  | none => exact Procedure.obeys_throw (hfailed hcontext _)

private theorem obeys_contextForRoom {roomId operationId : String}
    {post : DriverLog → DriverContexts → DriverContext → Prop}
    {failed : DriverLog → DriverContexts → HandoffError → Prop}
    (hpost : ∀ context, (contexts.byRoom roomId).filter (·.operationId = operationId) = some context →
      post log contexts context)
    (hfailed : (contexts.byRoom roomId).filter (·.operationId = operationId) = none → ∀ e, failed log contexts e) :
    (contextForRoom roomId operationId).Obeys Anything contexts log post failed := by
  refine Procedure.obeys_bind (Procedure.obeys_get ?_)
  cases hcontext : (contexts.byRoom roomId).filter (·.operationId = operationId) with
  | some context => exact Procedure.obeys_pure (hpost context hcontext)
  | none => exact Procedure.obeys_throw (hfailed hcontext _)

/-- The calls that neither make nor clear a context nor undo anything. -/
private def Passing : HandoffCall → Prop
  | .scheduleCandidate .. | .drainOldPod _ | .discardCandidate .. | .rollbackGateway _ | .abortGatewayPreparation .. =>
    False
  | _ => True

/-- Such a call leaves the contexts as they are, whether it finds its context or not. -/
private theorem obeys_passing (polls : Nat) {call : HandoffCall} (h : Passing call) :
    (driver.method polls call).Obeys Anything contexts log (Through log contexts) (Through log contexts) := by
  have hnotFound : ∀ e : HandoffError, Through log contexts log contexts e := fun _ => ⟨rfl, Grows.refl log⟩
  cases call with
  | scheduleCandidate | drainOldPod | discardCandidate | rollbackGateway | abortGatewayPreparation => cases h
  | publish | waitUntilReady | freezeGateway | candidateChecksum | finalizeGateway =>
    exact obeys_quiet (fun _ => rfl) fun _ => rfl
  | seedSnapshot | catchUpJournal | verify | activateCandidate =>
    exact Procedure.obeys_bind (obeys_contextFor (fun _ _ => obeys_quiet (fun _ => rfl) fun _ => rfl)
      fun _ e => hnotFound e)
  | cutoverGateway =>
    exact Procedure.obeys_bind (obeys_contextForRoom (fun _ _ => obeys_quiet (fun _ => rfl) fun _ => rfl)
      fun _ e => hnotFound e)

/-! ### Scheduling -/

private theorem obeys_swallow {x : Driver Unit} {post : DriverLog → DriverContexts → Unit → Prop}
    {failed : DriverLog → DriverContexts → HandoffError → Prop}
    (h : x.Obeys Anything contexts log post fun log' contexts' _ => post log' contexts' ()) :
    (Driver.swallow x).Obeys Anything contexts log post failed :=
  Procedure.obeys_tryCatch (h.mono (fun _ _ _ h => h) fun _ _ _ h => Procedure.obeys_pure h)

/-- The try block of `scheduleCandidate` has not resolved; it may have assigned the candidate. -/
private structure Scheduling (context : DriverContext) (log : DriverLog) (contexts : DriverContexts) : Prop where
  log : Unscheduled log
  contexts : contexts = empty.set context ∨
    ∃ candidate, contexts = holding { context with candidate := some candidate } candidate

/-- The candidate is held and its scheduling is the last that was asked for. -/
private def Resolved (context : DriverContext) (log : DriverLog) (contexts : DriverContexts)
    (candidate : RoomCandidate) : Prop :=
  contexts = holding { context with candidate := some candidate } candidate ∧ Scheduled log ∧ CleanedUp log

private theorem obeys_acceptPod {context : DriverContext} (h : Unscheduled log) (pod : KubernetesPod)
    (name uid podIP : String) :
    (driver.acceptPod context pod name uid podIP).Obeys Anything (empty.set context) log (Resolved context)
      fun log' contexts' _ => Scheduling context log' contexts' := by
  have hset : Scheduling context log (empty.set context) := ⟨h, Or.inl rfl⟩
  unfold acceptPod
  dsimp only
  split
  · exact Procedure.obeys_throw hset
  refine Procedure.obeys_bind (obeys_require (fun _ => ?_) fun _ => hset)
  refine Procedure.obeys_bind (obeys_require (fun _ => ?_) fun _ => hset)
  refine Procedure.obeys_bind (obeys_require (fun _ => ?_) fun _ => hset)
  refine Procedure.obeys_bind (Procedure.obeys_modify ?_)
  have hassign : ∀ candidate, (empty.set context).assign context candidate =
      holding { context with candidate := some candidate } candidate := by
    intro candidate
    simp only [assign, DriverContexts.set, empty, holding, Function.update_idem]
  rw [hassign]
  refine Procedure.obeys_bind (Procedure.obeys_perform trivial (fun _ => Procedure.obeys_pure ?_) fun e => ?_)
  · exact ⟨rfl, ⟨_, List.mem_append_right log (List.mem_singleton_self _), rfl⟩, h.cleanedUp_append⟩
  · exact ⟨h.append rfl, Or.inr ⟨_, rfl⟩⟩

private theorem obeys_awaitPod {context : DriverContext} (h : Unscheduled log) (polls : Nat) :
    (driver.awaitPod context polls).Obeys Anything (empty.set context) log (Resolved context)
      fun log' contexts' _ => Scheduling context log' contexts' := by
  induction polls generalizing log with
  | zero => exact Procedure.obeys_throw ⟨h, Or.inl rfl⟩
  | succ polls ih =>
    refine Procedure.obeys_bind (Procedure.obeys_perform trivial (fun pods => ?_) fun e => ⟨h.append rfl, Or.inl rfl⟩)
    split
    · exact driver.obeys_acceptPod (h.append rfl) _ _ _ _
    · exact ih (h.append rfl)

private theorem obeys_rollOut {context : DriverContext} (h : Unscheduled log) (polls : Nat) :
    (driver.rollOut polls context).Obeys Anything (empty.set context) log (Resolved context)
      fun log' contexts' _ => Scheduling context log' contexts' := by
  refine Procedure.obeys_bind (Procedure.obeys_perform trivial (fun _ => ?_) fun e => ⟨h.append rfl, Or.inl rfl⟩)
  exact driver.obeys_awaitPod (h.append rfl) polls

/-- Clearing the context of the room, as it is by then, releases the contexts. -/
private theorem Scheduling.clear {context : DriverContext} (h : Scheduling context log contexts)
    (hcandidate : context.candidate = none) :
    contexts.clearContext ((contexts.byRoom context.target.roomId).getD context) = empty := by
  rcases h.contexts with rfl | ⟨candidate, rfl⟩
  · have hcurrent : (empty.set context).byRoom context.target.roomId = some context := Function.update_self ..
    rw [hcurrent, Option.getD_some, clearContext, hcandidate]
    simp only [DriverContexts.set, empty, Function.update_idem, Function.update_eq_self]
  · have hcurrent := holding_byRoom { context with candidate := some candidate } candidate
    rw [hcurrent, Option.getD_some]
    exact holding_clearContext rfl

/-- The catch block clears the context, and its failing requests are swallowed. -/
private theorem obeys_undo {context : DriverContext} (h : Scheduling context log contexts)
    (hcandidate : context.candidate = none) (error : HandoffError)
    {post : DriverLog → DriverContexts → RoomCandidate → Prop} :
    (undo context error).Obeys Anything contexts log post fun log' contexts' _ =>
      contexts' = empty ∧ Unscheduled log' := by
  refine Procedure.obeys_bind (obeys_swallow (Procedure.obeys_perform trivial (fun _ => ?_) fun _ => ?_))
  all_goals
    refine Procedure.obeys_bind (Procedure.obeys_get ?_)
    dsimp only
    split
    · refine Procedure.obeys_bind (obeys_swallow (Procedure.obeys_perform trivial (fun _ => ?_) fun _ => ?_))
      all_goals
        refine Procedure.obeys_bind (Procedure.obeys_modify (Procedure.obeys_throw ?_))
        exact ⟨h.clear hcandidate, (h.log.append rfl).append rfl⟩
    · refine Procedure.obeys_bind (Procedure.obeys_modify (Procedure.obeys_throw ?_))
      exact ⟨h.clear hcandidate, h.log.append rfl⟩

/-- From released contexts `scheduleCandidate` holds its candidate or leaves them released. -/
private theorem obeys_scheduleCandidate (h : Unscheduled log) (polls : Nat) :
    (driver.scheduleCandidate polls target operationId).Obeys Anything empty log
      (fun log' contexts' candidate => (∃ context : DriverContext, contexts' = holding context candidate ∧
        context.candidate = some candidate ∧ context.target = target ∧ context.operationId = operationId) ∧
        Scheduled log' ∧ CleanedUp log')
      fun log' contexts' _ => contexts' = empty ∧ Unscheduled log' := by
  unfold scheduleCandidate
  have hordinal : ∀ {post : DriverLog → DriverContexts → Nat → Prop},
      (∀ ordinal, post log empty ordinal) → (driver.ordinalForRoom target.roomId).Obeys Anything empty log post
        fun log' contexts' _ => contexts' = empty ∧ Unscheduled log' := by
    intro post hpost
    unfold ordinalForRoom
    split
    · exact Procedure.obeys_pure (hpost _)
    · exact Procedure.obeys_throw ⟨rfl, h⟩
  refine Procedure.obeys_bind (hordinal fun ordinal => ?_)
  refine Procedure.obeys_bind (Procedure.obeys_get ?_)
  refine Procedure.obeys_bind (obeys_require (fun _ => ?_) fun _ => ⟨rfl, h⟩)
  refine Procedure.obeys_bind (Procedure.obeys_perform trivial (fun deployment => ?_) fun e => ⟨rfl, h.append rfl⟩)
  dsimp only
  split
  · exact Procedure.obeys_throw ⟨rfl, h.append rfl⟩
  split
  · exact Procedure.obeys_throw ⟨rfl, h.append rfl⟩
  have himage : ∀ {revision : String} {log : DriverLog} {post : DriverLog → DriverContexts → String → Prop},
      Unscheduled log → (∀ image, post log empty image) →
      (driver.imageForRevision revision).Obeys Anything empty log post
        fun log' contexts' _ => contexts' = empty ∧ Unscheduled log' := by
    intro revision log post hlog hpost
    unfold imageForRevision
    split
    · exact Procedure.obeys_pure (hpost _)
    split
    · exact Procedure.obeys_pure (hpost _)
    · exact Procedure.obeys_throw ⟨rfl, hlog⟩
  refine Procedure.obeys_bind (himage (h.append rfl) fun desiredImage => ?_)
  refine Procedure.obeys_bind (Procedure.obeys_modify ?_)
  refine Procedure.obeys_tryCatch ((driver.obeys_rollOut (h.append rfl) polls).mono ?_ ?_)
  · rintro log' contexts' candidate ⟨rfl, hlog⟩
    exact ⟨⟨_, rfl, rfl, rfl, rfl⟩, hlog⟩
  · exact fun log' contexts' e hscheduling => obeys_undo hscheduling rfl e

/-- A room of the driver is rejected just when it has a context; else the scheduling looks at its deployment. -/
theorem scheduleCandidate_begins (polls : Nat) (operationId : OperationId) {ordinal : Nat}
    (hordinal : (roomOrdinal? target.roomId).filter (· < driver.roomCount) = some ordinal) :
    ((contexts.byRoom target.roomId).isSome = true →
      (driver.scheduleCandidate polls target operationId.value).script contexts =
        .done (.error (.error "room_handoff_already_scheduled"), contexts)) ∧
    (contexts.byRoom target.roomId = none →
      ∃ next, (driver.scheduleCandidate polls target operationId.value).script contexts =
        .call (.readDeployment (driver.deploymentPrefix ++ "-" ++ toString ordinal)) next) := by
  have hpresent : operationId.value ≠ "" := by
    intro hempty
    have htext := operationId.present
    rw [hempty] at htext
    cases htext
  have hsplit : ∃ rest next, (driver.scheduleCandidate polls target operationId.value).script contexts =
      (Driver.require (decide (operationId.value ≠ "") && (contexts.byRoom target.roomId).isNone)
        "room_handoff_already_scheduled" >>= rest).script contexts ∧
      (rest ()).script contexts =
        .call (.readDeployment (driver.deploymentPrefix ++ "-" ++ toString ordinal)) next := by
    unfold scheduleCandidate ordinalForRoom
    rw [hordinal]
    exact ⟨_, _, rfl, rfl⟩
  obtain ⟨rest, next, hscript, hrest⟩ := hsplit
  rw [decide_eq_true hpresent, Bool.true_and] at hscript
  constructor
  · intro hkept
    rw [hscript, ← Option.not_isSome, hkept]
    rfl
  · intro hfree
    rw [hscript, hfree]
    exact ⟨next, hrest⟩

/-! ### Drain, discard and rollback -/

private abbrev SettledAfter {α : Type} : DriverLog → DriverContexts → α → Prop :=
  fun log' contexts' _ => ContextsSettled log' contexts'

private theorem obeys_drainOldPod (h : Held target operationId log progress contexts) :
    (drainOldPod target).Obeys Anything contexts log SettledAfter SettledAfter := by
  refine Procedure.obeys_bind (Procedure.obeys_perform trivial (fun _ => ?_) fun _ => h.settled_of_failed rfl)
  obtain ⟨context, candidate, rfl, hcandidate, rfl, -⟩ := h.holding
  refine Procedure.obeys_bind (Procedure.obeys_get ?_)
  rw [holding_byRoom]
  refine Procedure.obeys_modify ?_
  rw [holding_clearContext hcandidate]
  exact Or.inl ⟨rfl, (cleanedUp_grows (Grows.one rfl rfl)).2 h.cleanedUp⟩

private theorem obeys_discardCandidate (h : Held target operationId log progress contexts) {candidate : RoomCandidate}
    (hcandidate : progress.candidate = some candidate) :
    (discardCandidate candidate).Obeys Anything contexts log SettledAfter SettledAfter := by
  obtain ⟨context, held, rfl, hheld, -, -, hprogress⟩ := h.holding
  obtain rfl : held = candidate := Option.some.inj (hprogress.symm.trans hcandidate)
  have hfound : (holding context held).byCandidateUid held.uid = some context := by
    simp only [holding, Function.update_self]
  refine Procedure.obeys_bind (obeys_contextFor (fun context' hcontext => ?_) fun hnone => ?_)
  · obtain rfl : context = context' := Option.some.inj (hfound.symm.trans hcontext)
    refine Procedure.obeys_bind (Procedure.obeys_perform trivial (fun _ => ?_) fun _ => h.settled_of_failed rfl)
    have hpatched := h.grows (Grows.one (e := ⟨.patchDeployment context.deploymentName context.originalImage
      context.originalBuildRevision context.originalTemplateAnnotations, .ok ()⟩) rfl rfl)
    refine Procedure.obeys_bind (Procedure.obeys_perform trivial (fun _ => ?_)
      fun _ => hpatched.settled_of_failed rfl)
    refine Procedure.obeys_modify ?_
    rw [holding_clearContext hheld]
    exact Or.inl ⟨rfl, (cleanedUp_grows (Grows.one rfl rfl)).2 hpatched.cleanedUp⟩
  · rw [hfound] at hnone
    cases hnone

/-- A rollback finds its context; where it throws the candidate is not cleaned up. -/
private theorem obeys_rollbackGateway (h : Held target operationId log progress contexts) {input : RollbackInput}
    (hroom : input.roomId = target.roomId) (hoperation : input.operationId = operationId) :
    (rollbackGateway input).Obeys Anything contexts log (Through log contexts) fun log' contexts' _ =>
      contexts' = contexts ∧ ContextsSettled log' contexts := by
  have hheld := h
  obtain ⟨context, candidate, rfl, hcandidate, htarget, hcontext, -⟩ := hheld.holding
  have hfound : ((holding context candidate).byRoom input.roomId).filter (·.operationId = input.operationId) =
      some context := by
    rw [hroom, ← htarget, holding_byRoom, Option.filter_some, hcontext, hoperation,
      if_pos (decide_eq_true rfl)]
  refine Procedure.obeys_bind (obeys_contextForRoom (fun context' hcontext' => ?_) fun hnone => ?_)
  · obtain rfl : context = context' := Option.some.inj (hfound.symm.trans hcontext')
    refine Procedure.obeys_bind (obeys_require (fun _ => ?_) fun hnone => ?_)
    · exact Procedure.obeys_perform trivial (fun _ => ⟨rfl, Grows.one rfl rfl⟩)
        fun _ => ⟨rfl, h.settled_of_failed rfl⟩
    · rw [hcandidate] at hnone
      cases hnone
  · rw [hfound] at hnone
    cases hnone

/-- Without a context there is nothing to roll back. -/
private theorem obeys_rollbackGateway_empty (input : RollbackInput) :
    (rollbackGateway input).Obeys Anything empty log (fun _ _ _ => False) (Through log empty) :=
  Procedure.obeys_bind (obeys_contextForRoom (fun _ hcontext => (nomatch hcontext)) fun _ _ => ⟨rfl, Grows.refl log⟩)

end KubernetesRoomHandoffDriver

/-! ### The stages of the coordinator -/

open KubernetesRoomHandoffDriver

variable (coordinator : RoomHandoffCoordinator) (driver : KubernetesRoomHandoffDriver) (polls : Nat)

/-- A procedure of the coordinator, served by the driver. -/
private abbrev driven {α : Type} (x : Handoff α) :
    Procedure DriverCall.Result HandoffError (HandoffProgress × DriverContexts) α := x.serve (driver.method polls)

private abbrev AnyLeft (target : RoomHandoffTarget) (operationId : String) :
    DriverLog → HandoffProgress × DriverContexts → HandoffError → Prop :=
  fun log vars _ => HandoffLeft target operationId log vars.1 vars.2

private abbrev StillHeld (target : RoomHandoffTarget) (operationId : String) {α : Type} :
    DriverLog → HandoffProgress × DriverContexts → α → Prop :=
  fun log vars _ => Held target operationId log vars.1 vars.2

variable {coordinator driver polls}

/-- The rule for a passing call while the candidate is held. -/
private theorem obeys_held {call : HandoffCall} (h : Held target operationId log progress contexts)
    (hpassing : Passing call)
    {post : DriverLog → HandoffProgress × DriverContexts → call.Result → Prop}
    (hpost : ∀ log' result, Held target operationId log' progress contexts → post log' (progress, contexts) result) :
    (driven driver polls (perform call)).Obeys Anything (progress, contexts) log post (AnyLeft target operationId) := by
  refine Procedure.obeys_serve_perform ((driver.obeys_passing polls hpassing).mono ?_ ?_)
  · rintro log' _ result ⟨rfl, hg⟩
    exact hpost log' result (h.grows hg)
  · rintro log' _ e ⟨rfl, hg⟩
    exact HandoffLeft.held (h.grows hg)

private theorem Held.congr {progress' : HandoffProgress} (h : Held target operationId log progress contexts)
    (hcandidate : progress'.candidate = progress.candidate) (hstage : progress'.stage ≠ .drain)
    (hstarted : progress'.authorityCommitted = true → progress'.authorityTransferStarted = true) :
    Held target operationId log progress' contexts where
  holding := by
    rw [hcandidate]
    exact h.holding
  scheduled := h.scheduled
  cleanedUp := h.cleanedUp
  stage := hstage
  started := hstarted

private theorem obeys_requireHeld {condition : Bool} {message : String}
    (h : Held target operationId log progress contexts)
    {post : DriverLog → HandoffProgress × DriverContexts → Unit → Prop}
    (hpost : post log (progress, contexts) ()) :
    (driven driver polls (require condition message)).Obeys Anything (progress, contexts) log post
      (AnyLeft target operationId) := by
  unfold require
  split
  · exact Procedure.obeys_serve_pure hpost
  · exact Procedure.obeys_serve_throw (HandoffLeft.held h)

private theorem obeys_enterHeld {stage : HandoffStage} (h : Held target operationId log progress contexts)
    (hstage : stage ≠ .drain) {post : DriverLog → HandoffProgress × DriverContexts → PUnit → Prop}
    (hpost : Held target operationId log { progress with stage := stage } contexts →
      post log ({ progress with stage := stage }, contexts) ⟨⟩) :
    (driven driver polls (RoomHandoffCoordinator.enter stage)).Obeys Anything (progress, contexts) log post
      (AnyLeft target operationId) :=
  Procedure.obeys_serve_modify (hpost (h.congr rfl hstage h.started))

namespace RoomHandoffCoordinator

/-- Publishing is a passing call. -/
private theorem obeys_publishHeld {subject : HandoffSubject} {payload : Fields JsValue}
    (h : Held target operationId log progress contexts)
    {post : DriverLog → HandoffProgress × DriverContexts → Unit → Prop}
    (hpost : ∀ log', Held target operationId log' progress contexts → post log' (progress, contexts) ()) :
    (driven driver polls (coordinator.publish target operationId subject payload)).Obeys Anything (progress, contexts)
      log post (AnyLeft target operationId) :=
  obeys_held h (by trivial) fun log' _ h' => hpost log' h'

private theorem obeys_publishForHeld {candidate : RoomCandidate} {subject : HandoffSubject} {payload : Fields JsValue}
    (h : Held target operationId log progress contexts)
    {post : DriverLog → HandoffProgress × DriverContexts → Unit → Prop}
    (hpost : ∀ log', Held target operationId log' progress contexts → post log' (progress, contexts) ()) :
    (driven driver polls (coordinator.publishFor target operationId candidate subject payload)).Obeys Anything
      (progress, contexts) log post (AnyLeft target operationId) :=
  obeys_publishHeld h hpost

/-- From released contexts the schedule stage holds a candidate, or it leaves them released with nothing scheduled. -/
private theorem schedule_holds (hlog : Unscheduled log) (hcandidate : progress.candidate = none)
    (hstage : progress.stage ≠ .drain)
    (hstarted : progress.authorityCommitted = true → progress.authorityTransferStarted = true) :
    (driven driver polls (coordinator.schedule target operationId)).Obeys Anything (progress, empty) log
      (StillHeld target operationId) (AnyLeft target operationId) := by
  refine Procedure.obeys_serve_bind (Procedure.obeys_serve_perform
    ((driver.obeys_passing polls (by trivial)).mono ?_ ?_))
  · rintro log₁ _ - ⟨rfl, hg⟩
    refine Procedure.obeys_serve_bind (Procedure.obeys_serve_perform
      ((driver.obeys_scheduleCandidate (hlog.grows hg) polls).mono ?_ ?_))
    · rintro log₂ _ candidate ⟨⟨context, rfl, hheld, htarget, hoperation⟩, hscheduled, hclean⟩
      refine Procedure.obeys_serve_bind (Procedure.obeys_serve_modify ?_)
      have h₂ : Held target operationId log₂ { progress with candidate := some candidate }
          (holding context candidate) :=
        ⟨⟨context, candidate, rfl, hheld, htarget, hoperation, rfl⟩, hscheduled, hclean, hstage, hstarted⟩
      refine Procedure.obeys_serve_bind (obeys_requireHeld h₂ ?_)
      refine Procedure.obeys_serve_bind (obeys_requireHeld h₂ ?_)
      refine Procedure.obeys_serve_bind (obeys_publishForHeld h₂ fun log₃ h₃ => ?_)
      exact Procedure.obeys_serve_pure h₃
    · rintro log₂ _ e ⟨rfl, hlog₂⟩
      exact HandoffLeft.unscheduled rfl hlog₂ hcandidate
  · rintro log₁ _ e ⟨rfl, hg⟩
    exact HandoffLeft.unscheduled rfl (hlog.grows hg) hcandidate

private theorem ready_holds (candidate : RoomCandidate) (h : Held target operationId log progress contexts) :
    (driven driver polls (coordinator.ready target operationId candidate)).Obeys Anything (progress, contexts) log
      (StillHeld target operationId) (AnyLeft target operationId) := by
  refine Procedure.obeys_serve_bind (obeys_enterHeld h (by decide) fun h₁ => ?_)
  refine Procedure.obeys_serve_bind (obeys_held h₁ (by trivial) fun log₂ _ h₂ => ?_)
  exact obeys_publishForHeld h₂ fun _ h₃ => h₃

private theorem freeze_holds (h : Held target operationId log progress contexts) :
    (driven driver polls (freeze target operationId)).Obeys Anything (progress, contexts) log
      (StillHeld target operationId) (AnyLeft target operationId) := by
  refine Procedure.obeys_serve_bind (obeys_enterHeld h (by decide) fun h₁ => ?_)
  refine Procedure.obeys_serve_bind (obeys_held h₁ (by trivial) fun log₂ _ h₂ => ?_)
  refine Procedure.obeys_serve_bind (Procedure.obeys_serve_modify ?_)
  exact Procedure.obeys_serve_pure (h₂.congr rfl h₂.stage h₂.started)

private theorem seed_holds (candidate : RoomCandidate) (frozen : FrozenRoom)
    (h : Held target operationId log progress contexts) :
    (driven driver polls (coordinator.seed target operationId candidate frozen)).Obeys Anything (progress, contexts) log
      (StillHeld target operationId) (AnyLeft target operationId) := by
  refine Procedure.obeys_serve_bind (obeys_enterHeld h (by decide) fun h₁ => ?_)
  refine Procedure.obeys_serve_bind (obeys_held h₁ (by trivial) fun log₂ seeded h₂ => ?_)
  refine Procedure.obeys_serve_bind (obeys_publishForHeld h₂ fun log₃ h₃ => ?_)
  refine Procedure.obeys_serve_bind (obeys_enterHeld h₃ (by decide) fun h₄ => ?_)
  refine Procedure.obeys_serve_bind (obeys_held h₄ (by trivial) fun log₅ caughtUp h₅ => ?_)
  refine Procedure.obeys_serve_bind (obeys_requireHeld h₅ ?_)
  refine Procedure.obeys_serve_bind (obeys_publishForHeld h₅ fun log₆ h₆ => ?_)
  exact Procedure.obeys_serve_pure h₆

private theorem compareChecksum_holds (candidate : RoomCandidate) (expectedChecksum : String)
    (h : Held target operationId log progress contexts) :
    (driven driver polls (coordinator.compareChecksum target operationId candidate expectedChecksum)).Obeys Anything
      (progress, contexts) log (StillHeld target operationId) (AnyLeft target operationId) := by
  refine Procedure.obeys_serve_bind (obeys_enterHeld h (by decide) fun h₁ => ?_)
  refine Procedure.obeys_serve_bind (obeys_held h₁ (by trivial) fun log₂ checksum h₂ => ?_)
  split
  · refine Procedure.obeys_serve_bind (obeys_publishForHeld h₂ fun log₃ h₃ => ?_)
    exact Procedure.obeys_serve_throw (HandoffLeft.held h₃)
  · refine Procedure.obeys_serve_bind (obeys_publishForHeld h₂ fun log₃ h₃ => ?_)
    exact Procedure.obeys_serve_pure h₃

/-- After the activate stage the transfer has started. -/
private theorem transfer_holds (candidate : RoomCandidate) (candidateChecksum : String)
    (h : Held target operationId log progress contexts) :
    (driven driver polls (coordinator.transfer target operationId candidate candidateChecksum)).Obeys Anything
      (progress, contexts) log
      (fun log vars _ => Held target operationId log vars.1 vars.2 ∧ vars.1.authorityTransferStarted = true)
      (AnyLeft target operationId) := by
  refine Procedure.obeys_serve_bind (Procedure.obeys_serve_modify ?_)
  have h₁ : Held target operationId log { progress with stage := .activate, authorityTransferStarted := true }
      contexts := h.congr rfl (fun he => nomatch he) fun _ => rfl
  refine Procedure.obeys_serve_bind (obeys_held h₁ (by trivial) fun log₂ checksum h₂ => ?_)
  refine Procedure.obeys_serve_bind (Procedure.obeys_serve_modify ?_)
  have h₃ : Held target operationId log₂ { progress with
      stage := .activate, authorityTransferStarted := true, authorityCommitted := true,
      committedEpoch := target.currentEpoch + 1 } contexts := h₂.congr rfl (fun he => nomatch he) fun _ => rfl
  refine Procedure.obeys_serve_bind (obeys_publishForHeld h₃ fun log₄ h₄ => ?_)
  exact Procedure.obeys_serve_pure ⟨h₄, rfl⟩

private theorem cutover_holds (candidate : RoomCandidate) (checksum : String)
    (h : Held target operationId log progress contexts) (hstarted : progress.authorityTransferStarted = true) :
    (driven driver polls (coordinator.cutover target operationId candidate checksum)).Obeys Anything
      (progress, contexts) log
      (fun log vars _ => Held target operationId log vars.1 vars.2 ∧ vars.1.authorityTransferStarted = true)
      (AnyLeft target operationId) := by
  refine Procedure.obeys_serve_bind (obeys_enterHeld h (by decide) fun h₁ => ?_)
  refine Procedure.obeys_serve_bind (obeys_held h₁ (by trivial) fun log₂ result h₂ => ?_)
  refine Procedure.obeys_serve_bind (Procedure.obeys_serve_modify ?_)
  have h₃ : Held target operationId log₂ { progress with
      stage := .cutover, cutoverCommitted := true, gatewayFrozen := false } contexts :=
    h₂.congr rfl (fun he => nomatch he) fun _ => hstarted
  refine Procedure.obeys_serve_bind (obeys_publishForHeld h₃ fun log₄ h₄ => ?_)
  refine Procedure.obeys_serve_bind (obeys_publishForHeld h₄ fun log₅ h₅ => ?_)
  exact Procedure.obeys_serve_pure ⟨h₅, hstarted⟩

private theorem verify_holds (candidate : RoomCandidate) (checksum : String)
    (h : Held target operationId log progress contexts) (hstarted : progress.authorityTransferStarted = true) :
    (driven driver polls (coordinator.verify target operationId candidate checksum)).Obeys Anything (progress, contexts)
      log (fun log vars _ => Held target operationId log vars.1 vars.2 ∧ vars.1.authorityTransferStarted = true)
      (AnyLeft target operationId) := by
  refine Procedure.obeys_serve_bind (obeys_enterHeld h (by decide) fun h₁ => ?_)
  refine Procedure.obeys_serve_bind (obeys_held h₁ (by trivial) fun log₂ verification h₂ => ?_)
  refine Procedure.obeys_serve_bind (obeys_requireHeld h₂ ?_)
  refine Procedure.obeys_serve_bind (obeys_publishForHeld h₂ fun log₃ h₃ => ?_)
  exact obeys_held h₃ (by trivial) fun log₄ _ h₄ => ⟨h₄, hstarted⟩

/-- Where the drain is over, the contexts and the log agree. -/
private structure Drained (log : DriverLog) (progress : HandoffProgress) (contexts : DriverContexts) : Prop where
  stage : progress.stage = .drain
  started : progress.authorityTransferStarted = true
  settled : ContextsSettled log contexts

private theorem obeys_publishDrained {subject : HandoffSubject} {payload : Fields JsValue}
    (h : Drained log progress contexts) {post : DriverLog → HandoffProgress × DriverContexts → Unit → Prop}
    (hpost : ∀ log', Drained log' progress contexts → post log' (progress, contexts) ()) :
    (driven driver polls (coordinator.publish target operationId subject payload)).Obeys Anything (progress, contexts)
      log post (AnyLeft target operationId) := by
  refine Procedure.obeys_serve_perform ((driver.obeys_passing polls (by trivial)).mono ?_ ?_)
  · rintro log' _ _ ⟨rfl, hg⟩
    exact hpost log' ⟨h.stage, h.started, h.settled.grows hg⟩
  · rintro log' _ e ⟨rfl, hg⟩
    exact HandoffLeft.drain h.stage h.started (h.settled.grows hg)

private theorem drain_settles (h : Held target operationId log progress contexts)
    (hstarted : progress.authorityTransferStarted = true) :
    (driven driver polls (coordinator.drain target operationId)).Obeys Anything (progress, contexts) log
      (fun log vars _ => ContextsSettled log vars.2) (AnyLeft target operationId) := by
  refine Procedure.obeys_serve_bind (Procedure.obeys_serve_modify ?_)
  refine Procedure.obeys_serve_bind (Procedure.obeys_serve_perform ((obeys_drainOldPod h).mono ?_ ?_))
  · intro log₁ contexts₁ _ hsettled
    have h₁ : Drained log₁ { progress with stage := .drain } contexts₁ := ⟨rfl, hstarted, hsettled⟩
    refine Procedure.obeys_serve_bind (obeys_publishDrained h₁ fun log₂ h₂ => ?_)
    exact obeys_publishDrained h₂ fun log₃ h₃ => h₃.settled
  · exact fun log₁ contexts₁ e hsettled => HandoffLeft.drain rfl hstarted hsettled

/-- The try block of `handoff` settles, or it leaves by an exception from one of three kinds of states. -/
private theorem attempt_settles (hlog : Unscheduled log) :
    (driven driver polls (coordinator.attempt target operationId)).Obeys Anything (initial target, empty) log
      (fun log vars _ => ContextsSettled log vars.2) (AnyLeft target operationId) := by
  have hstage : (initial target).stage ≠ .drain := by simp [initial]
  refine Procedure.obeys_serve_bind ((schedule_holds hlog rfl hstage fun h => h).mono
    (fun log₁ vars₁ candidate h₁ => ?_) fun _ _ _ h => h)
  refine Procedure.obeys_serve_bind ((ready_holds candidate h₁).mono (fun log₂ vars₂ _ h₂ => ?_) fun _ _ _ h => h)
  refine Procedure.obeys_serve_bind ((freeze_holds h₂).mono (fun log₃ vars₃ frozen h₃ => ?_) fun _ _ _ h => h)
  refine Procedure.obeys_serve_bind ((seed_holds candidate frozen h₃).mono
    (fun log₄ vars₄ expectedChecksum h₄ => ?_) fun _ _ _ h => h)
  refine Procedure.obeys_serve_bind ((compareChecksum_holds candidate expectedChecksum h₄).mono
    (fun log₅ vars₅ candidateChecksum h₅ => ?_) fun _ _ _ h => h)
  refine Procedure.obeys_serve_bind ((transfer_holds candidate candidateChecksum h₅).mono
    (fun log₆ vars₆ checksum h₆ => ?_) fun _ _ _ h => h)
  refine Procedure.obeys_serve_bind ((cutover_holds candidate checksum h₆.1 h₆.2).mono
    (fun log₇ vars₇ result h₇ => ?_) fun _ _ _ h => h)
  refine Procedure.obeys_serve_bind ((verify_holds candidate checksum h₇.1 h₇.2).mono
    (fun log₈ vars₈ _ h₈ => ?_) fun _ _ _ h => h)
  refine Procedure.obeys_serve_bind ((drain_settles h₈.1 h₈.2).mono (fun log₉ vars₉ _ h₉ => ?_) fun _ _ _ h => h)
  exact Procedure.obeys_serve_pure h₉

/-! ### The catch block -/

private abbrev SettledVars {α : Type} : DriverLog → HandoffProgress × DriverContexts → α → Prop :=
  fun log vars _ => ContextsSettled log vars.2

/-- The events of a failure do not change what is settled. -/
private theorem report_settles (recovery : Recovery) (error : HandoffError) (h : ContextsSettled log contexts)
    {post : DriverLog → HandoffProgress × DriverContexts → RoomHandoffResult → Prop} :
    (driven driver polls (coordinator.report target operationId recovery error)).Obeys Anything (progress, contexts) log
      post SettledVars := by
  refine Procedure.obeys_serve_bind (Procedure.obeys_serve_get ?_)
  refine Procedure.obeys_serve_bind (Procedure.obeys_serve_perform
    ((driver.obeys_passing polls (by trivial)).mono ?_ ?_))
  · rintro log₁ _ - ⟨rfl, hg₁⟩
    refine Procedure.obeys_serve_bind (Procedure.obeys_serve_perform
      ((driver.obeys_passing polls (by trivial)).mono ?_ ?_))
    · rintro log₂ _ - ⟨rfl, hg₂⟩
      exact Procedure.obeys_serve_throw ((h.grows hg₁).grows hg₂)
    · rintro log₂ _ e ⟨rfl, hg₂⟩
      exact (h.grows hg₁).grows hg₂
  · rintro log₁ _ e ⟨rfl, hg₁⟩
    exact h.grows hg₁

/-- What the catch block has decided: the candidate is held and may be discarded, or everything is settled. -/
private inductive CleanupDecided (target : RoomHandoffTarget) (operationId : String) (log : DriverLog)
    (progress : HandoffProgress) (contexts : DriverContexts) (recovery : Recovery) : Prop
  | discard (h : Held target operationId log progress contexts) (hmay : recovery.mayDiscardCandidate = true)
  | keep (h : ContextsSettled log contexts)
      (hkeep : recovery.mayDiscardCandidate = false ∨ progress.candidate = none ∨ progress.stage = .drain)

private theorem discard_settles {recovery : Recovery}
    (h : CleanupDecided target operationId log progress contexts recovery) :
    (driven driver polls (discard recovery)).Obeys Anything (progress, contexts) log SettledVars
      fun _ _ _ => False := by
  refine Procedure.obeys_serve_bind (Procedure.obeys_serve_get ?_)
  cases h with
  | discard h hmay =>
    obtain ⟨context, candidate, rfl, hheld, htarget, hoperation, hcandidate⟩ := h.holding
    rw [hcandidate]
    dsimp only
    rw [hmay, Bool.true_and, if_pos (decide_eq_true h.stage)]
    refine Procedure.obeys_serve_tryCatch (Procedure.obeys_serve_perform
      ((obeys_discardCandidate h hcandidate).mono (fun _ _ _ hsettled => hsettled) fun _ _ _ hsettled => ?_))
    exact Procedure.obeys_serve_pure hsettled
  | keep h hkeep =>
    cases hcandidate : progress.candidate with
    | none => exact Procedure.obeys_serve_pure h
    | some candidate =>
      have hno : ¬(recovery.mayDiscardCandidate && decide (progress.stage ≠ .drain)) = true := by
        rcases hkeep with hmay | hnone | hstage
        · rw [hmay]
          simp
        · rw [hcandidate] at hnone
          cases hnone
        · rw [hstage]
          simp
      dsimp only
      rw [if_neg hno]
      exact Procedure.obeys_serve_pure h

/-- What the abort leaves to the rollback. -/
private inductive Aborted (target : RoomHandoffTarget) (operationId : String) (log : DriverLog)
    (progress : HandoffProgress) (contexts : DriverContexts) (recovery : Recovery) : Prop
  | unscheduled (hcontexts : contexts = empty) (hlog : Unscheduled log) (hcandidate : progress.candidate = none)
  | held (h : Held target operationId log progress contexts)
      (hmay : recovery.mayDiscardCandidate = (!progress.authorityTransferStarted && !progress.cutoverCommitted))
  | failed (h : ContextsSettled log contexts) (hmay : recovery.mayDiscardCandidate = false)
      (hquiet : (progress.authorityTransferStarted || progress.cutoverCommitted || progress.authorityCommitted) = false)
  | drain (h : Drained log progress contexts)

private theorem abort_leaves {recovery : Recovery} (h : HandoffLeft target operationId log progress contexts)
    (hmay : recovery.mayDiscardCandidate = (!progress.authorityTransferStarted && !progress.cutoverCommitted)) :
    (driven driver polls (abortPreparation target operationId recovery)).Obeys Anything (progress, contexts) log
      (fun log' vars recovery' => Aborted target operationId log' vars.1 vars.2 recovery') fun _ _ _ => False := by
  refine Procedure.obeys_serve_bind (Procedure.obeys_serve_get ?_)
  split
  case isFalse hcond =>
    refine Procedure.obeys_serve_pure ?_
    cases h with
    | unscheduled hcontexts hlog hcandidate => exact Aborted.unscheduled hcontexts hlog hcandidate
    | held h => exact Aborted.held h hmay
    | drain hstage hstarted hsettled => exact Aborted.drain ⟨hstage, hstarted, hsettled⟩
  case isTrue hcond =>
    simp only [Bool.and_eq_true, Bool.not_eq_true'] at hcond
    obtain ⟨⟨hfrozen, hstarted⟩, hcut⟩ := hcond
    cases h with
    | unscheduled hcontexts hlog hcandidate =>
      refine Procedure.obeys_serve_tryCatch (Procedure.obeys_serve_bind (Procedure.obeys_serve_perform
        (Procedure.obeys_perform trivial (fun _ => ?_) fun _ => ?_)))
      · refine Procedure.obeys_serve_bind (Procedure.obeys_serve_modify (Procedure.obeys_serve_pure ?_))
        exact Aborted.unscheduled hcontexts (hlog.append rfl) hcandidate
      · exact Procedure.obeys_serve_pure (Aborted.unscheduled hcontexts (hlog.append rfl) hcandidate)
    | held h =>
      refine Procedure.obeys_serve_tryCatch (Procedure.obeys_serve_bind (Procedure.obeys_serve_perform
        (Procedure.obeys_perform trivial (fun _ => ?_) fun _ => ?_)))
      · refine Procedure.obeys_serve_bind (Procedure.obeys_serve_modify (Procedure.obeys_serve_pure ?_))
        exact Aborted.held ((h.grows (Grows.one rfl rfl)).congr rfl h.stage h.started) hmay
      · refine Procedure.obeys_serve_pure (Aborted.failed (h.settled_of_failed rfl) rfl ?_)
        -- the authority can not have been committed before its transfer started
        have hcommitted : progress.authorityCommitted = false := by
          refine Bool.eq_false_iff.2 fun hc => ?_
          rw [h.started hc] at hstarted
          cases hstarted
        rw [hstarted, hcut, hcommitted]
        rfl
    | drain hstage hstarted' hsettled =>
      rw [hstarted] at hstarted'
      cases hstarted'

private theorem rollBack_decides {recovery : Recovery}
    (h : Aborted target operationId log progress contexts recovery) :
    (driven driver polls (rollBack target operationId recovery)).Obeys Anything (progress, contexts) log
      (fun log' vars recovery' => CleanupDecided target operationId log' vars.1 vars.2 recovery')
      fun _ _ _ => False := by
  refine Procedure.obeys_serve_bind (Procedure.obeys_serve_get ?_)
  split
  case isTrue hcond =>
    simp only [Bool.and_eq_true, Bool.or_eq_true, decide_eq_true_eq] at hcond
    obtain ⟨hmoved, hstage⟩ := hcond
    cases h with
    | unscheduled hcontexts hlog hcandidate =>
      subst hcontexts
      refine Procedure.obeys_serve_tryCatch (Procedure.obeys_serve_bind (Procedure.obeys_serve_perform
        ((obeys_rollbackGateway_empty _).mono (fun _ _ _ h => h.elim) ?_)))
      rintro log₁ _ e ⟨rfl, hg⟩
      exact Procedure.obeys_serve_pure (CleanupDecided.keep (Or.inl ⟨rfl, (hlog.grows hg).cleanedUp⟩) (Or.inl rfl))
    | held h hmay =>
      refine Procedure.obeys_serve_tryCatch (Procedure.obeys_serve_bind (Procedure.obeys_serve_perform
        ((obeys_rollbackGateway h rfl rfl).mono ?_ ?_)))
      · rintro log₁ _ result ⟨rfl, hg⟩
        exact Procedure.obeys_serve_pure (CleanupDecided.discard (h.grows hg) rfl)
      · rintro log₁ _ e ⟨rfl, hsettled⟩
        exact Procedure.obeys_serve_pure (CleanupDecided.keep hsettled (Or.inl rfl))
    | failed hsettled hmay hquiet =>
      simp only [Bool.or_eq_false_iff] at hquiet
      obtain ⟨⟨hstarted, hcut⟩, hcommitted⟩ := hquiet
      rw [hstarted, hcut, hcommitted] at hmoved
      simp at hmoved
    | drain h => exact absurd h.stage hstage
  case isFalse hcond =>
    -- both branches that are left keep what may be discarded
    have hkept : ∀ recovery' : Recovery, recovery'.mayDiscardCandidate = recovery.mayDiscardCandidate →
        CleanupDecided target operationId log progress contexts recovery' := by
      intro recovery' hsame
      cases h with
      | unscheduled hcontexts hlog hcandidate =>
        exact CleanupDecided.keep (Or.inl ⟨hcontexts, hlog.cleanedUp⟩) (Or.inr (Or.inl hcandidate))
      | held h hmay =>
        refine CleanupDecided.discard h (hsame.trans (hmay.trans ?_))
        rw [decide_eq_true h.stage, Bool.and_true, Bool.not_eq_true] at hcond
        simp only [Bool.or_eq_false_iff] at hcond
        rw [hcond.1.1, hcond.1.2]
        rfl
      | failed hsettled hmay hquiet => exact CleanupDecided.keep hsettled (Or.inl (hsame.trans hmay))
      | drain h => exact CleanupDecided.keep h.settled (Or.inr (Or.inr h.stage))
    split
    · exact Procedure.obeys_serve_pure (hkept _ rfl)
    · exact Procedure.obeys_serve_pure (hkept _ rfl)

private theorem left_noteCommitted (h : HandoffLeft target operationId log progress contexts) (error : HandoffError) :
    HandoffLeft target operationId log (noteCommitted error progress) contexts := by
  have hsame : (RoomHandoffCoordinator.noteCommitted error progress).candidate = progress.candidate ∧
      (RoomHandoffCoordinator.noteCommitted error progress).stage = progress.stage ∧
      (RoomHandoffCoordinator.noteCommitted error progress).authorityTransferStarted =
        progress.authorityTransferStarted ∧
      (RoomHandoffCoordinator.noteCommitted error progress).authorityCommitted = progress.authorityCommitted := by
    cases error <;> exact ⟨rfl, rfl, rfl, rfl⟩
  obtain ⟨hcandidate, hstage, hstarted, hcommitted⟩ := hsame
  cases h with
  | unscheduled hcontexts hlog hnone => exact .unscheduled hcontexts hlog (hcandidate.trans hnone)
  | held h =>
    refine .held (h.congr hcandidate (hstage ▸ h.stage) fun hc => ?_)
    rw [hstarted]
    exact h.started (hcommitted ▸ hc)
  | drain hs ht hsettled => exact .drain (hstage.trans hs) (hstarted.trans ht) hsettled

private theorem recover_settles (error : HandoffError) (h : HandoffLeft target operationId log progress contexts) :
    (driven driver polls (coordinator.recover target operationId error)).Obeys Anything (progress, contexts) log
      SettledVars SettledVars := by
  refine Procedure.obeys_serve_bind (Procedure.obeys_serve_modify ?_)
  refine Procedure.obeys_serve_bind (Procedure.obeys_serve_get ?_)
  refine Procedure.obeys_serve_bind ((abort_leaves (left_noteCommitted h error) rfl).mono
    (fun log₁ vars₁ aborted h₁ => ?_) fun _ _ _ h => h.elim)
  refine Procedure.obeys_serve_bind ((rollBack_decides h₁).mono
    (fun log₂ vars₂ recovered h₂ => ?_) fun _ _ _ h => h.elim)
  refine Procedure.obeys_serve_bind ((discard_settles h₂).mono (fun log₃ vars₃ _ h₃ => ?_) fun _ _ _ h => h.elim)
  exact report_settles recovered error h₃

/-- However a handoff from released contexts ends, the contexts are released just when it was cleaned up. -/
theorem body_settles (coordinator : RoomHandoffCoordinator) (driver : KubernetesRoomHandoffDriver) (polls : Nat)
    (target : RoomHandoffTarget) (operationId : String) :
    ((coordinator.body target operationId).serve (driver.method polls)).Obeys (fun _ _ => True)
      (initial target, empty) [] (fun log vars _ => ContextsSettled log vars.2)
      fun log vars _ => ContextsSettled log vars.2 := by
  refine Procedure.obeys_serve_tryCatch
    ((attempt_settles fun _ he => absurd he List.not_mem_nil).mono (fun _ _ _ h => h) ?_)
  exact fun log₁ vars₁ error h₁ => recover_settles error h₁

end RoomHandoffCoordinator

/-! ### Runs of handoffs -/

namespace FinishedHandoff

/-- In every run of handoffs over one driver, whatever their requests are answered, the driver keeps no context between
them just when each of them was cleaned up. -/
theorem handoffs_release_iff (coordinator : RoomHandoffCoordinator) (driver : KubernetesRoomHandoffDriver)
    (handoffs : List FinishedHandoff) :
    Machine.Throughout (step coordinator driver) Released empty handoffs ↔
      Machine.EachStep (step coordinator driver)
        (fun contexts handoff => CleanedUp (handoff.log coordinator driver contexts)) empty handoffs := by
  have hstep : ∀ contexts (handoff : FinishedHandoff) contexts', contexts.Released →
      step coordinator driver contexts handoff = some contexts' →
      (contexts'.Released ↔ CleanedUp (handoff.log coordinator driver contexts)) := by
    intro contexts handoff contexts' hreleased hs
    obtain rfl := hreleased.eq_empty
    have hsettles := coordinator.body_settles driver handoff.polls handoff.target handoff.operationId.value
    have hafter := (ScriptExecution.after_obeys hsettles handoff.answers).2
    unfold step at hs
    split at hs
    · rename_i result progress contexts'' hdone
      obtain rfl := Option.some.inj hs
      change (handoff.execution coordinator driver empty).rest.Obeys _ _ _ at hafter
      rw [hdone] at hafter
      have hsettled : ContextsSettled (handoff.log coordinator driver empty) contexts'' := by
        cases result with
        | ok _ => exact hafter
        | error _ => exact hafter
      exact hsettled.released_iff
    · cases hs
  have hgood : ∀ contexts (handoff : FinishedHandoff) contexts', contexts.Released →
      CleanedUp (handoff.log coordinator driver contexts) → step coordinator driver contexts handoff = some contexts' →
      contexts'.Released :=
    fun contexts handoff contexts' h hclean hs => (hstep contexts handoff contexts' h hs).2 hclean
  have hbad : ∀ contexts (handoff : FinishedHandoff) contexts', contexts.Released →
      ¬CleanedUp (handoff.log coordinator driver contexts) →
      step coordinator driver contexts handoff = some contexts' → ¬contexts'.Released :=
    fun contexts handoff contexts' h hclean hs hr => hclean ((hstep contexts handoff contexts' h hs).1 hr)
  exact Machine.throughout_iff_eachStep (fun _ h => h) hgood hbad released_empty handoffs

/-! ### A context that is left behind -/

def oneRoomCoordinator : RoomHandoffCoordinator where
  workspaceId := "workspace"
  clusterId := "cluster"
  namespaceName := "game"
  totalWaves := ⟨1, by decide⟩
  waves_pos := by decide

def oneRoomDriver : KubernetesRoomHandoffDriver where
  deploymentPrefix := "game"
  roomCount := 1
  gameImageRepository := "registry/game-server"
  gamePort := 8001
  localeCompare := compare

def oneRoomTarget : RoomHandoffTarget where
  roomId := "room-0"
  activeEndpoint := "http://10.0.0.1:8001"
  activePod := { name := "game-0-a", uid := "a", resourceVersion := none }
  currentEpoch := 1
  revision := "v2"
  imageDigest := none
  workflowRunId := none
  applicationId := none

/-- The candidate does not become ready in time, and the cluster refuses to restore the deployment. -/
def unrestoredAnswer : (call : DriverCall) → Except HandoffError call.Result
  | .readDeployment _ => .ok
      { annotations := []
        containers := [{ name := some "game-server", image := some "registry/game-server:v1", env := [] }] }
  | .listRoomPods _ => .ok
      [{ name := some "game-0-b", uid := some "b", resourceVersion := none, creationTimestamp := none
         deletionTimestamp := none, annotations := [("opsia.dev/handoff-operation", "operation-1")]
         containers := [{ name := some "game-server", image := some "registry/game-server:v2", env := [] }]
         phase := some "Running", podIP := some "10.0.0.2", containerStatuses := [] }]
  | .patchDeployment _ image _ _ =>
    if image = "registry/game-server:v1" then .error (.error "kubernetes_request_failed:503") else .ok ()
  | .patchPodRoles .. => .ok ()
  | .deletePod .. => .ok ()
  | .behind (.publish ..) => .ok ()
  | .behind (.waitUntilReady _) => .error (.error "candidate_ready_timeout:candidate_status_unavailable")
  | .behind _ => .error .other

def unrestoredHandoff : FinishedHandoff where
  target := oneRoomTarget
  operationId := ⟨"operation-1", by decide⟩
  polls := 1
  answers := List.replicate 10 unrestoredAnswer

/-- The next handoff of the room, whose requests would be answered. -/
def nextHandoff : FinishedHandoff where
  target := oneRoomTarget
  operationId := ⟨"operation-2", by decide⟩
  polls := 1
  answers := List.replicate 3 unrestoredAnswer

/-- The deployment is not restored, the handoff has thrown, and the next one of the room is rejected. -/
theorem unrestored_deployment_blocks_room :
    ¬Machine.Throughout (step oneRoomCoordinator oneRoomDriver) Released empty [unrestoredHandoff] ∧
      ((step oneRoomCoordinator oneRoomDriver empty unrestoredHandoff).bind fun contexts =>
        outcome oneRoomCoordinator oneRoomDriver contexts nextHandoff) =
          some (.error (.error "room_handoff_already_scheduled")) := by
  refine ⟨fun hreleased => ?_, rfl⟩
  have hkept : ((step oneRoomCoordinator oneRoomDriver empty unrestoredHandoff).any fun contexts =>
      (contexts.byRoom "room-0").isSome) = true := by decide +kernel
  obtain ⟨contexts, hs, hroom⟩ := (Option.any_eq_true _ _).1 hkept
  rw [(hreleased.2 contexts hs).rooms "room-0"] at hroom
  cases hroom

end FinishedHandoff

end Opsia
