import Opsia.Machine
import Opsia.Orchestrator.Handoff

/-!
# What the coordinator may do

A handoff drains the old pod, cuts the gateway over and discards the candidate only where the answers so far permit it,
whatever they are (`body_permitted`), and `RoomHandoffCoordinator.handoff` lets one handoff run at a time; both hold in
every run of concurrent requests (`handoffs_permitted`).
-/

namespace Opsia

open Json

/-! ### What the answers so far permit -/

namespace HandoffLog

/-- The call was made and resolved to this result. -/
def Answered (log : HandoffLog) (call : HandoffCall) (result : call.Result) : Prop :=
  (⟨call, .ok result⟩ : Exchange fun c : HandoffCall => Except HandoffError c.Result) ∈ log

/-- The authority transfer never started. -/
def NotActivated (log : HandoffLog) : Prop := ∀ e ∈ log, ∀ input, e.call ≠ .activateCandidate input

/-- The gateway was frozen. -/
def Frozen (log : HandoffLog) : Prop :=
  ∃ operationId roomId epoch result, Answered log (.freezeGateway operationId roomId epoch) result

/-- The candidate took the authority over for the next epoch and reported this checksum. -/
def Activated (target : RoomHandoffTarget) (candidate : RoomCandidate) (checksum : String) (log : HandoffLog) : Prop :=
  ∃ seeded, Answered log (.activateCandidate
    { target := target, candidate := candidate, roomEpoch := target.currentEpoch + 1, checksum := seeded }) checksum

/-- Healthy and continuous evidence was reported, and then the finalisation succeeded. -/
def Verified (target : RoomHandoffTarget) (operationId : String) (log : HandoffLog) : Prop :=
  ∃ before after : HandoffLog, log = before ++ after ∧
    (∃ candidate checksum verification, Answered before (.verify candidate checksum) verification ∧
      verification.healthy = true ∧ verification.sessionContinuity = true) ∧
    Answered after (.finalizeGateway operationId target.roomId (target.currentEpoch + 1)) ()

variable {log : HandoffLog}

private theorem Answered.append {call : HandoffCall} {result : call.Result} (h : Answered log call result)
    (more : HandoffLog) : Answered (log ++ more) call result := List.mem_append_left more h

private theorem answered_last (call : HandoffCall) (result : call.Result) (log : HandoffLog) :
    Answered (log ++ [⟨call, .ok result⟩]) call result := List.mem_append_right log (List.mem_singleton_self _)

private theorem NotActivated.append {e : Exchange fun c : HandoffCall => Except HandoffError c.Result}
    (h : NotActivated log) (he : ∀ input, e.call ≠ .activateCandidate input) : NotActivated (log ++ [e]) := by
  intro e' hmem input
  rcases List.mem_append.1 hmem with hmem | hmem
  · exact h e' hmem input
  · obtain rfl := List.mem_singleton.1 hmem
    exact he input

private theorem Frozen.of_append {e : Exchange fun c : HandoffCall => Except HandoffError c.Result}
    (he : ∀ operationId roomId epoch result, e ≠ ⟨.freezeGateway operationId roomId epoch, .ok result⟩)
    (h : Frozen (log ++ [e])) : Frozen log := by
  obtain ⟨operationId, roomId, epoch, result, hmem⟩ := h
  rcases List.mem_append.1 hmem with hmem | hmem
  · exact ⟨operationId, roomId, epoch, result, hmem⟩
  · exact absurd (List.mem_singleton.1 hmem).symm (he operationId roomId epoch result)

end HandoffLog

open HandoffLog

/-- When a call is permitted by the exchanges before it. -/
def Permitted (target : RoomHandoffTarget) (operationId : String) (log : HandoffLog) : HandoffCall → Prop
  | .cutoverGateway input =>
    ∃ candidate, Activated target candidate input.checksum log ∧ input.endpoint = candidate.endpoint ∧
      input.roomId = target.roomId ∧ input.nextEpoch = target.currentEpoch + 1
  | .drainOldPod pod => pod = target ∧ Verified target operationId log
  | .discardCandidate candidate _ =>
    Answered log (.scheduleCandidate target operationId) candidate ∧
      ((NotActivated log ∧
          (Frozen log → Answered log (.abortGatewayPreparation operationId target.roomId) ())) ∨
        ∃ input result, Answered log (.rollbackGateway input) result ∧ input.roomId = target.roomId ∧
          input.endpoint = target.activeEndpoint)
  | _ => True

/-! ### What the variables say about the exchanges -/

/-- As long as the authority transfer has not started the variables know whether the gateway is frozen, and the
candidate they hold is the scheduled one. -/
structure Tracked (target : RoomHandoffTarget) (operationId : String) (log : HandoffLog) (progress : HandoffProgress) :
    Prop where
  quiet : progress.authorityTransferStarted = false →
    progress.cutoverCommitted = false ∧ NotActivated log ∧ (Frozen log → progress.gatewayFrozen = true)
  scheduled : ∀ candidate, progress.candidate = some candidate →
    Answered log (.scheduleCandidate target operationId) candidate

/-- A call that is always permitted and neither freezes the gateway nor starts the transfer. -/
def Quiet : HandoffCall → Prop
  | .freezeGateway .. | .cutoverGateway _ | .activateCandidate _ | .drainOldPod _ | .discardCandidate .. => False
  | _ => True

variable {target : RoomHandoffTarget} {operationId : String} {log : HandoffLog} {progress : HandoffProgress}

/-- An exchange that neither freezes the gateway nor starts the transfer leaves what the variables say true. -/
private theorem Tracked.append (h : Tracked target operationId log progress)
    {e : Exchange fun c : HandoffCall => Except HandoffError c.Result}
    (hactivate : progress.authorityTransferStarted = false → ∀ input, e.call ≠ .activateCandidate input)
    (hfreeze : ∀ operationId roomId epoch result, e ≠ ⟨.freezeGateway operationId roomId epoch, .ok result⟩) :
    Tracked target operationId (log ++ [e]) progress where
  quiet := fun hstarted => by
    obtain ⟨hcut, hnot, hfrozen⟩ := h.quiet hstarted
    exact ⟨hcut, hnot.append (hactivate hstarted), fun hf => hfrozen (Frozen.of_append hfreeze hf)⟩
  scheduled := fun candidate hc => (h.scheduled candidate hc).append _

private theorem Tracked.congr {progress' : HandoffProgress} (h : Tracked target operationId log progress)
    (hcandidate : progress'.candidate = progress.candidate)
    (hstarted : progress'.authorityTransferStarted = progress.authorityTransferStarted)
    (hcut : progress'.cutoverCommitted = progress.cutoverCommitted)
    (hfrozen : progress'.gatewayFrozen = progress.gatewayFrozen) : Tracked target operationId log progress' where
  quiet := fun hs => by
    rw [hcut, hfrozen]
    exact h.quiet (hstarted ▸ hs)
  scheduled := fun candidate hc => h.scheduled candidate (hcandidate ▸ hc)

/-- Where the variables are left by an exception. -/
private abbrev Left (target : RoomHandoffTarget) (operationId : String) :
    HandoffLog → HandoffProgress → HandoffError → Prop :=
  fun log progress _ => Tracked target operationId log progress

private theorem Quiet.exchange {call : HandoffCall} (h : Quiet call) (answer : Except HandoffError call.Result) :
    (∀ input, call ≠ .activateCandidate input) ∧
      ∀ operationId roomId epoch result,
        (⟨call, answer⟩ : Exchange fun c : HandoffCall => Except HandoffError c.Result) ≠
          ⟨.freezeGateway operationId roomId epoch, .ok result⟩ := by
  refine ⟨fun input he => ?_, fun operationId roomId epoch result he => ?_⟩
  · rw [he] at h
    exact h
  · have hcall : call = .freezeGateway operationId roomId epoch := congrArg Exchange.call he
    rw [hcall] at h
    exact h

private theorem Quiet.permitted {call : HandoffCall} (h : Quiet call) : Permitted target operationId log call := by
  cases call <;> trivial

/-- The rule for a quiet call. -/
private theorem obeys_quiet {call : HandoffCall} (h : Tracked target operationId log progress) (hquiet : Quiet call)
    {post : HandoffLog → HandoffProgress → call.Result → Prop}
    (hpost : ∀ result, Tracked target operationId (log ++ [⟨call, .ok result⟩]) progress →
      post (log ++ [⟨call, .ok result⟩]) progress result) :
    (perform call).Obeys (Permitted target operationId) progress log post (Left target operationId) := by
  have happend : ∀ answer, Tracked target operationId (log ++ [⟨call, answer⟩]) progress := fun answer =>
    h.append (fun _ => (hquiet.exchange answer).1) (hquiet.exchange answer).2
  exact Procedure.obeys_perform hquiet.permitted (fun result => hpost result (happend _)) fun e => happend _

private theorem obeys_require {condition : Bool} {message : String} (h : Tracked target operationId log progress)
    {post : HandoffLog → HandoffProgress → Unit → Prop} (hpost : condition = true → post log progress ()) :
    (require condition message).Obeys (Permitted target operationId) progress log post (Left target operationId) := by
  unfold require
  split
  · exact Procedure.obeys_pure (hpost ‹_›)
  · exact Procedure.obeys_throw h

/-! ### The stages -/

namespace RoomHandoffCoordinator

variable (coordinator : RoomHandoffCoordinator)

private theorem obeys_publish {subject : HandoffSubject} {payload : Fields JsValue}
    (h : Tracked target operationId log progress) {post : HandoffLog → HandoffProgress → Unit → Prop}
    (hpost : ∀ log', Tracked target operationId log' progress → log <+: log' → post log' progress ()) :
    (coordinator.publish target operationId subject payload).Obeys (Permitted target operationId) progress log post
      (Left target operationId) :=
  obeys_quiet h (by trivial) fun _ htracked => hpost _ htracked (List.prefix_append ..)

private theorem obeys_publishFor {candidate : RoomCandidate} {subject : HandoffSubject} {payload : Fields JsValue}
    (h : Tracked target operationId log progress) {post : HandoffLog → HandoffProgress → Unit → Prop}
    (hpost : ∀ log', Tracked target operationId log' progress → log <+: log' → post log' progress ()) :
    (coordinator.publishFor target operationId candidate subject payload).Obeys (Permitted target operationId) progress
      log post (Left target operationId) :=
  coordinator.obeys_publish h hpost

private theorem obeys_enter {stage : HandoffStage} (h : Tracked target operationId log progress)
    {post : HandoffLog → HandoffProgress → PUnit → Prop}
    (hpost : Tracked target operationId log { progress with stage := stage } →
      post log { progress with stage := stage } ⟨⟩) :
    (enter stage).Obeys (Permitted target operationId) progress log post (Left target operationId) :=
  Procedure.obeys_modify (hpost (h.congr rfl rfl rfl rfl))

/-- The variables are tracked, whatever the result. -/
private abbrev Kept (target : RoomHandoffTarget) (operationId : String) {α : Type} :
    HandoffLog → HandoffProgress → α → Prop :=
  fun log progress _ => Tracked target operationId log progress

private theorem obeys_schedule (h : Tracked target operationId log progress) :
    (coordinator.schedule target operationId).Obeys (Permitted target operationId) progress log
      (Kept target operationId) (Left target operationId) := by
  refine Procedure.obeys_bind (coordinator.obeys_publish h fun log₁ h₁ _ => ?_)
  refine Procedure.obeys_bind (obeys_quiet h₁ (by trivial) fun candidate h₂ => ?_)
  refine Procedure.obeys_bind (Procedure.obeys_modify ?_)
  have h₃ : Tracked target operationId (log₁ ++ [⟨.scheduleCandidate target operationId, .ok candidate⟩])
      { progress with candidate := some candidate } := by
    refine ⟨h₂.quiet, fun candidate' hc => ?_⟩
    obtain rfl : candidate = candidate' := Option.some.inj hc
    exact answered_last (.scheduleCandidate target operationId) candidate log₁
  refine Procedure.obeys_bind (obeys_require h₃ fun _ => ?_)
  refine Procedure.obeys_bind (obeys_require h₃ fun _ => ?_)
  exact Procedure.obeys_bind (coordinator.obeys_publishFor h₃ fun _ h₄ _ => Procedure.obeys_pure h₄)

private theorem obeys_ready (candidate : RoomCandidate) (h : Tracked target operationId log progress) :
    (coordinator.ready target operationId candidate).Obeys (Permitted target operationId) progress log
      (Kept target operationId) (Left target operationId) := by
  refine Procedure.obeys_bind (obeys_enter h fun h₁ => ?_)
  refine Procedure.obeys_bind (obeys_quiet h₁ (by trivial) fun _ h₂ => ?_)
  exact coordinator.obeys_publishFor h₂ fun _ h₃ _ => h₃

private theorem obeys_freeze (h : Tracked target operationId log progress) :
    (freeze target operationId).Obeys (Permitted target operationId) progress log
      (Kept target operationId) (Left target operationId) := by
  refine Procedure.obeys_bind (obeys_enter h fun h₁ => ?_)
  refine Procedure.obeys_bind (Procedure.obeys_perform trivial (fun frozen => ?_) fun e => ?_)
  · -- the gateway is frozen, and the variables say so
    refine Procedure.obeys_bind (Procedure.obeys_modify (Procedure.obeys_pure ?_))
    refine ⟨fun hstarted => ?_, fun candidate hc => (h₁.scheduled candidate hc).append _⟩
    obtain ⟨hcut, hnot, -⟩ := h₁.quiet hstarted
    exact ⟨hcut, hnot.append fun _ he => (nomatch he), fun _ => rfl⟩
  · exact h₁.append (fun _ _ he => (nomatch he)) fun _ _ _ _ he => (nomatch he)

private theorem obeys_seed (candidate : RoomCandidate) (frozen : FrozenRoom)
    (h : Tracked target operationId log progress) :
    (coordinator.seed target operationId candidate frozen).Obeys (Permitted target operationId) progress log
      (Kept target operationId) (Left target operationId) := by
  refine Procedure.obeys_bind (obeys_enter h fun h₁ => ?_)
  refine Procedure.obeys_bind (obeys_quiet h₁ (by trivial) fun seeded h₂ => ?_)
  refine Procedure.obeys_bind (coordinator.obeys_publishFor h₂ fun _ h₃ _ => ?_)
  refine Procedure.obeys_bind (obeys_enter h₃ fun h₄ => ?_)
  refine Procedure.obeys_bind (obeys_quiet h₄ (by trivial) fun caughtUp h₅ => ?_)
  refine Procedure.obeys_bind (obeys_require h₅ fun _ => ?_)
  exact Procedure.obeys_bind (coordinator.obeys_publishFor h₅ fun _ h₆ _ => Procedure.obeys_pure h₆)

private theorem obeys_compareChecksum (candidate : RoomCandidate) (expectedChecksum : String)
    (h : Tracked target operationId log progress) :
    (coordinator.compareChecksum target operationId candidate expectedChecksum).Obeys (Permitted target operationId)
      progress log (Kept target operationId) (Left target operationId) := by
  refine Procedure.obeys_bind (obeys_enter h fun h₁ => ?_)
  refine Procedure.obeys_bind (obeys_quiet h₁ (by trivial) fun checksum h₂ => ?_)
  split
  · exact Procedure.obeys_bind (coordinator.obeys_publishFor h₂ fun _ h₃ _ => Procedure.obeys_throw h₃)
  · exact Procedure.obeys_bind (coordinator.obeys_publishFor h₂ fun _ h₃ _ => Procedure.obeys_pure h₃)

/-- After the activate stage the transfer has started and the candidate has reported the checksum. -/
private theorem obeys_transfer (candidate : RoomCandidate) (candidateChecksum : String)
    (h : Tracked target operationId log progress) :
    (coordinator.transfer target operationId candidate candidateChecksum).Obeys (Permitted target operationId) progress
      log
      (fun log progress checksum => Tracked target operationId log progress ∧
        progress.authorityTransferStarted = true ∧ Activated target candidate checksum log)
      (Left target operationId) := by
  have hstarted : ∀ {log : HandoffLog} {progress : HandoffProgress}, progress.authorityTransferStarted = true →
      (∀ candidate, progress.candidate = some candidate → Answered log (.scheduleCandidate target operationId) candidate) →
      Tracked target operationId log progress := by
    intro log progress hstarted hscheduled
    exact ⟨fun hs => absurd (hstarted.symm.trans hs) (by decide), hscheduled⟩
  refine Procedure.obeys_bind (Procedure.obeys_modify ?_)
  refine Procedure.obeys_bind (Procedure.obeys_perform trivial (fun checksum => ?_) fun e => ?_)
  · refine Procedure.obeys_bind (Procedure.obeys_modify ?_)
    refine Procedure.obeys_bind (coordinator.obeys_publishFor ?_ fun log₁ h₁ hprefix => ?_)
    · exact hstarted rfl fun c hc => (h.scheduled c hc).append _
    · refine Procedure.obeys_pure ⟨h₁, rfl, candidateChecksum, ?_⟩
      exact hprefix.subset (answered_last (.activateCandidate _) checksum log)
  · exact hstarted rfl fun c hc => (h.scheduled c hc).append _

private theorem obeys_cutover (candidate : RoomCandidate) (checksum : String)
    (h : Tracked target operationId log progress) (hstarted : progress.authorityTransferStarted = true)
    (hactivated : Activated target candidate checksum log) :
    (coordinator.cutover target operationId candidate checksum).Obeys (Permitted target operationId) progress log
      (Kept target operationId) (Left target operationId) := by
  refine Procedure.obeys_bind (obeys_enter h fun h₁ => ?_)
  have happend : ∀ {e : Exchange fun c : HandoffCall => Except HandoffError c.Result},
      (∀ operationId roomId epoch result, e ≠ ⟨.freezeGateway operationId roomId epoch, .ok result⟩) →
      Tracked target operationId (log ++ [e]) { progress with stage := .cutover } := by
    intro e he
    exact h₁.append (fun hs => absurd (hstarted.symm.trans hs) (by decide)) he
  refine Procedure.obeys_bind (Procedure.obeys_perform ⟨candidate, hactivated, rfl, rfl, rfl⟩ (fun result => ?_)
    fun e => happend fun _ _ _ _ he => (nomatch he))
  refine Procedure.obeys_bind (Procedure.obeys_modify ?_)
  have h₂ := happend (e := ⟨_, .ok result⟩) fun _ _ _ _ he => (nomatch he)
  have h₃ : Tracked target operationId _
      { progress with stage := .cutover, cutoverCommitted := true, gatewayFrozen := false } :=
    ⟨fun hs => absurd (hstarted.symm.trans hs) (by decide), h₂.scheduled⟩
  refine Procedure.obeys_bind (coordinator.obeys_publishFor h₃ fun _ h₄ _ => ?_)
  exact Procedure.obeys_bind (coordinator.obeys_publishFor h₄ fun _ h₅ _ => Procedure.obeys_pure h₅)

/-- After the verify stage the evidence was good and the finalisation succeeded. -/
private theorem obeys_verify (candidate : RoomCandidate) (checksum : String)
    (h : Tracked target operationId log progress) :
    (coordinator.verify target operationId candidate checksum).Obeys (Permitted target operationId) progress log
      (fun log progress _ => Tracked target operationId log progress ∧ Verified target operationId log)
      (Left target operationId) := by
  refine Procedure.obeys_bind (obeys_enter h fun h₁ => ?_)
  refine Procedure.obeys_bind (obeys_quiet h₁ (by trivial) fun verification h₂ => ?_)
  refine Procedure.obeys_bind (obeys_require h₂ fun hgood => ?_)
  obtain ⟨hhealthy, hcontinuous⟩ := Bool.and_eq_true_iff.1 hgood
  refine Procedure.obeys_bind (coordinator.obeys_publishFor h₂ fun log₃ h₃ hprefix => ?_)
  refine obeys_quiet h₃ (by trivial) fun _ h₄ => ⟨h₄, log₃, _, rfl, ?_, List.mem_singleton_self _⟩
  exact ⟨candidate, checksum, verification, hprefix.subset (answered_last (.verify candidate checksum) verification log),
    hhealthy, hcontinuous⟩

private theorem obeys_drain (h : Tracked target operationId log progress) (hverified : Verified target operationId log) :
    (coordinator.drain target operationId).Obeys (Permitted target operationId) progress log
      (Kept target operationId) (Left target operationId) := by
  refine Procedure.obeys_bind (obeys_enter h fun h₁ => ?_)
  have happend : ∀ answer, Tracked target operationId (log ++ [⟨.drainOldPod target, answer⟩])
      { progress with stage := .drain } := fun answer =>
    h₁.append (fun _ _ he => (nomatch he)) fun _ _ _ _ he => (nomatch he)
  refine Procedure.obeys_bind (Procedure.obeys_perform ⟨rfl, hverified⟩ (fun _ => ?_) fun e => happend _)
  refine Procedure.obeys_bind (coordinator.obeys_publish (happend _) fun _ h₂ _ => ?_)
  exact coordinator.obeys_publish h₂ fun _ h₃ _ => h₃

/-- The try block makes permitted calls only, and an exception leaves the variables true. -/
private theorem obeys_attempt (h : Tracked target operationId log progress) :
    (coordinator.attempt target operationId).Obeys (Permitted target operationId) progress log
      (fun _ _ _ => True) (Left target operationId) := by
  refine Procedure.obeys_bind ((coordinator.obeys_schedule h).mono (fun _ _ candidate h₁ => ?_) fun _ _ _ h => h)
  refine Procedure.obeys_bind ((coordinator.obeys_ready candidate h₁).mono (fun _ _ _ h₂ => ?_) fun _ _ _ h => h)
  refine Procedure.obeys_bind ((obeys_freeze h₂).mono (fun _ _ frozen h₃ => ?_) fun _ _ _ h => h)
  refine Procedure.obeys_bind
    ((coordinator.obeys_seed candidate frozen h₃).mono (fun _ _ expected h₄ => ?_) fun _ _ _ h => h)
  refine Procedure.obeys_bind
    ((coordinator.obeys_compareChecksum candidate expected h₄).mono (fun _ _ own h₅ => ?_) fun _ _ _ h => h)
  refine Procedure.obeys_bind
    ((coordinator.obeys_transfer candidate own h₅).mono (fun _ _ checksum h₆ => ?_) fun _ _ _ h => h)
  obtain ⟨htracked, hstarted, hactivated⟩ := h₆
  refine Procedure.obeys_bind
    ((coordinator.obeys_cutover candidate checksum htracked hstarted hactivated).mono (fun _ _ _ h₇ => ?_)
      fun _ _ _ h => h)
  refine Procedure.obeys_bind
    ((coordinator.obeys_verify candidate checksum h₇).mono (fun _ _ _ h₈ => ?_) fun _ _ _ h => h)
  refine Procedure.obeys_bind
    ((coordinator.obeys_drain h₈.1 h₈.2).mono (fun _ _ _ _ => ?_) fun _ _ _ h => h)
  exact Procedure.obeys_pure trivial

/-! ### The catch block -/

/-- The transfer never started and a frozen gateway was resumed, or the room was rolled back. -/
private def Discardable (target : RoomHandoffTarget) (operationId : String) (log : HandoffLog) : Prop :=
  (NotActivated log ∧ (Frozen log → Answered log (.abortGatewayPreparation operationId target.roomId) ())) ∨
    ∃ input result, Answered log (.rollbackGateway input) result ∧ input.roomId = target.roomId ∧
      input.endpoint = target.activeEndpoint

private abbrev Scheduled (target : RoomHandoffTarget) (operationId : String) (log : HandoffLog)
    (progress : HandoffProgress) : Prop :=
  ∀ candidate, progress.candidate = some candidate → Answered log (.scheduleCandidate target operationId) candidate

/-- What the catch block has worked out is right: the candidate is marked as discardable only where it is. -/
private abbrev Decided (target : RoomHandoffTarget) (operationId : String) :
    HandoffLog → HandoffProgress → Recovery → Prop :=
  fun log progress recovery => Scheduled target operationId log progress ∧
    (recovery.mayDiscardCandidate = true → Discardable target operationId log)

private theorem obeys_abortPreparation {recovery : Recovery} (hscheduled : Scheduled target operationId log progress)
    (hmay : recovery.mayDiscardCandidate = true → progress.authorityTransferStarted = false ∧
      progress.cutoverCommitted = false ∧ NotActivated log ∧ (Frozen log → progress.gatewayFrozen = true))
    {failed : HandoffLog → HandoffProgress → HandoffError → Prop} :
    (abortPreparation target operationId recovery).Obeys (Permitted target operationId) progress log
      (Decided target operationId) failed := by
  refine Procedure.obeys_bind (Procedure.obeys_get ?_)
  have hnever : ∀ answer : Except HandoffError Unit, recovery.mayDiscardCandidate = true →
      NotActivated (log ++ [⟨.abortGatewayPreparation operationId target.roomId, answer⟩]) := fun answer h =>
    (hmay h).2.2.1.append fun _ he => (nomatch he)
  split
  · refine Procedure.obeys_tryCatch (Procedure.obeys_bind (Procedure.obeys_perform trivial (fun _ => ?_) fun e => ?_))
    · refine Procedure.obeys_bind (Procedure.obeys_modify (Procedure.obeys_pure ⟨fun c hc => ?_, fun h => ?_⟩))
      · exact (hscheduled c hc).append _
      · exact Or.inl ⟨hnever _ h, fun _ => answered_last (.abortGatewayPreparation operationId target.roomId) () log⟩
    · exact Procedure.obeys_pure ⟨fun c hc => (hscheduled c hc).append _, fun h => (nomatch h)⟩
  · rename_i hcond
    refine Procedure.obeys_pure ⟨hscheduled, fun h => Or.inl ?_⟩
    -- the room is not frozen: otherwise the preparation would be aborted
    obtain ⟨hstarted, hcut, hnot, hfrozen⟩ := hmay h
    refine ⟨hnot, fun hf => absurd ?_ hcond⟩
    rw [hfrozen hf, hstarted, hcut]
    rfl

private theorem obeys_rollBack {recovery : Recovery} (h : Decided target operationId log progress recovery)
    {failed : HandoffLog → HandoffProgress → HandoffError → Prop} :
    (rollBack target operationId recovery).Obeys (Permitted target operationId) progress log
      (Decided target operationId) failed := by
  obtain ⟨hscheduled, hmay⟩ := h
  refine Procedure.obeys_bind (Procedure.obeys_get ?_)
  split
  · refine Procedure.obeys_tryCatch (Procedure.obeys_bind (Procedure.obeys_perform trivial (fun recovered => ?_)
      fun e => ?_))
    · refine Procedure.obeys_pure ⟨fun c hc => (hscheduled c hc).append _, fun _ => Or.inr ?_⟩
      exact ⟨_, recovered, answered_last (.rollbackGateway _) recovered log, rfl, rfl⟩
    · exact Procedure.obeys_pure ⟨fun c hc => (hscheduled c hc).append _, fun h => (nomatch h)⟩
  · split
    · exact Procedure.obeys_pure ⟨hscheduled, hmay⟩
    · exact Procedure.obeys_pure ⟨hscheduled, hmay⟩

private theorem obeys_discard {recovery : Recovery} (h : Decided target operationId log progress recovery)
    {failed : HandoffLog → HandoffProgress → HandoffError → Prop} :
    (discard recovery).Obeys (Permitted target operationId) progress log (fun _ _ _ => True) failed := by
  obtain ⟨hscheduled, hmay⟩ := h
  refine Procedure.obeys_bind (Procedure.obeys_get ?_)
  split
  · rename_i candidate hcandidate
    split
    · rename_i hcond
      have hallowed := hmay (Bool.and_eq_true_iff.1 hcond).1
      refine Procedure.obeys_tryCatch (Procedure.obeys_perform ⟨hscheduled candidate hcandidate, hallowed⟩
        (fun _ => trivial) fun _ => Procedure.obeys_pure trivial)
    · exact Procedure.obeys_pure trivial
  · exact Procedure.obeys_pure trivial

private theorem obeys_report {recovery : Recovery} {error : HandoffError} :
    (coordinator.report target operationId recovery error).Obeys (Permitted target operationId) progress log
      (fun _ _ _ => True) (fun _ _ _ => True) := by
  refine Procedure.obeys_bind (Procedure.obeys_get ?_)
  refine Procedure.obeys_bind (Procedure.obeys_perform trivial (fun _ => ?_) fun _ => trivial)
  refine Procedure.obeys_bind (Procedure.obeys_perform trivial (fun _ => ?_) fun _ => trivial)
  exact Procedure.obeys_throw trivial

private theorem noteCommitted_flags (error : HandoffError) (progress : HandoffProgress) :
    (noteCommitted error progress).candidate = progress.candidate ∧
      (noteCommitted error progress).authorityTransferStarted = progress.authorityTransferStarted ∧
      ((noteCommitted error progress).cutoverCommitted = false →
        (noteCommitted error progress).gatewayFrozen = progress.gatewayFrozen) := by
  cases error with
  | error message => exact ⟨rfl, rfl, fun _ => rfl⟩
  | cutoverCommitted message epoch => exact ⟨rfl, rfl, fun h => (nomatch h)⟩
  | other => exact ⟨rfl, rfl, fun _ => rfl⟩

/-- The catch block makes permitted calls only. -/
private theorem obeys_recover (error : HandoffError) (h : Tracked target operationId log progress) :
    (coordinator.recover target operationId error).Obeys (Permitted target operationId) progress log
      (fun _ _ _ => True) (fun _ _ _ => True) := by
  obtain ⟨hcandidate, hstarted, hfrozen⟩ := noteCommitted_flags error progress
  refine Procedure.obeys_bind (Procedure.obeys_modify ?_)
  refine Procedure.obeys_bind (Procedure.obeys_get ?_)
  refine Procedure.obeys_bind ((obeys_abortPreparation (fun c hc => h.scheduled c (hcandidate ▸ hc))
    fun hmay => ?_).mono (fun _ _ aborted h₁ => ?_) fun _ _ _ h => h)
  · obtain ⟨hnot, hcut⟩ := Bool.and_eq_true_iff.1 hmay
    rw [Bool.not_eq_true'] at hnot hcut
    obtain ⟨-, hnever, hknown⟩ := h.quiet (hstarted ▸ hnot)
    exact ⟨hnot, hcut, hnever, fun hf => (hfrozen hcut).trans (hknown hf)⟩
  refine Procedure.obeys_bind ((obeys_rollBack h₁).mono (fun _ _ recovered h₂ => ?_) fun _ _ _ h => h)
  refine Procedure.obeys_bind ((obeys_discard h₂).mono (fun _ _ _ _ => ?_) fun _ _ _ h => h)
  exact coordinator.obeys_report

/-- A handoff makes permitted calls only, whatever it is answered. -/
theorem body_permitted (target : RoomHandoffTarget) (operationId : String) :
    ((coordinator.body target operationId).script (initial target)).Obeys (Permitted target operationId)
      (fun _ _ => True) [] := by
  have hinitial : Tracked target operationId [] (initial target) := by
    refine ⟨fun _ => ⟨rfl, fun e he => (nomatch he), fun ⟨_, _, _, _, he⟩ => (nomatch he)⟩, fun c hc => (nomatch hc)⟩
  have hbody : (coordinator.body target operationId).Obeys (Permitted target operationId) (initial target) []
      (fun _ _ _ => True) (fun _ _ _ => True) := by
    refine Procedure.obeys_tryCatch ((coordinator.obeys_attempt hinitial).mono (fun _ _ _ h => h) ?_)
    exact fun _ _ error h => coordinator.obeys_recover error h
  exact Script.Obeys.mono (fun _ _ _ => trivial) hbody

end RoomHandoffCoordinator

/-! ### Concurrent requests -/

/-- The operation ids that the orchestrator's endpoints accept: one to 128 letters, digits, `_`, `.`, `:` and `-`. -/
def acceptsOperationId (value : String) : Bool :=
  decide (1 ≤ value.length ∧ value.length ≤ 128) &&
    value.toList.all fun c => c.isAlphanum || c = '_' || c = '.' || c = ':' || c = '-'

/-- The id of an operation: the requested one, which the endpoints check, or `op_` and a UUID. -/
structure OperationId where
  value : String
  accepted : acceptsOperationId value = true

theorem OperationId.present (operationId : OperationId) :
    presentText (some operationId.value) = some operationId.value := by
  obtain ⟨hlength, -⟩ := Bool.and_eq_true_iff.1 operationId.accepted
  have hne : operationId.value ≠ "" := by
    intro he
    rw [he] at hlength
    exact absurd hlength (by decide)
  simp [presentText, hne]

/-- A call of `handoff` that took the wave. -/
structure HandoffRun where
  target : RoomHandoffTarget
  operationId : OperationId
  execution : ScriptExecution (fun c : HandoffCall => Except HandoffError c.Result)
    (Except HandoffError RoomHandoffResult × HandoffProgress)

/-- The coordinator, the handoffs it has begun and the calls it has refused. -/
structure HandoffWaves where
  activeOperation : Option String
  runs : List HandoffRun
  refused : List (OperationId × HandoffError)

inductive HandoffEvent
  | handoff (target : RoomHandoffTarget) (operationId : OperationId)
  | settled (run : Nat) (answers : (c : HandoffCall) → Except HandoffError c.Result)

namespace HandoffWaves

def init : HandoffWaves where
  activeOperation := none
  runs := []
  refused := []

def refuse (waves : HandoffWaves) (operationId : OperationId) (message : String) : HandoffWaves :=
  { waves with refused := waves.refused ++ [(operationId, .error message)] }

/-- A call of `handoff`, up to its first await. -/
def handoff (coordinator : RoomHandoffCoordinator) (waves : HandoffWaves) (target : RoomHandoffTarget)
    (operationId : OperationId) : HandoffWaves :=
  if (presentText waves.activeOperation).isSome then
    waves.refuse operationId "handoff_wave_already_running"
  else if (roomOrdinal? target.roomId).any fun ordinal => ordinal < coordinator.totalWaves.1 then
    { waves with
      activeOperation := some operationId.value
      runs := waves.runs ++
        [{ target := target, operationId := operationId
           execution := .start ((coordinator.body target operationId.value).script
             (RoomHandoffCoordinator.initial target)) }] }
  else
    waves.refuse operationId "invalid_handoff_wave_room"

/-- The call that a handoff awaits is answered; at its end the wave is released. -/
def settled (waves : HandoffWaves) (i : Nat) (answers : (c : HandoffCall) → Except HandoffError c.Result) :
    Option HandoffWaves := do
  let run ← waves.runs[i]?
  let _ ← run.execution.pending?
  let execution := run.execution.resume answers
  return { waves with
    activeOperation := if execution.pending?.isSome then waves.activeOperation else none
    runs := waves.runs.set i { run with execution := execution } }

def step (coordinator : RoomHandoffCoordinator) (waves : HandoffWaves) : HandoffEvent → Option HandoffWaves
  | .handoff target operationId => some (waves.handoff coordinator target operationId)
  | .settled i answers => waves.settled i answers

/-- The handoff at this index is running. -/
def Running (waves : HandoffWaves) (i : Nat) : Prop :=
  ∃ run, waves.runs[i]? = some run ∧ run.execution.pending?.isSome = true

/-- Every handoff has made permitted calls only, and at most one is running. -/
structure Safe (waves : HandoffWaves) : Prop where
  permitted : ∀ run ∈ waves.runs, run.execution.CallsAllowed (Permitted run.target run.operationId.value)
  alone : ∀ i j, waves.Running i → waves.Running j → i = j

/-- Every handoff obeys, and one that is running is the only one and holds the wave. -/
private structure Held (waves : HandoffWaves) : Prop where
  obeying : ∀ run ∈ waves.runs, run.execution.Obeying (Permitted run.target run.operationId.value)
  held : ∀ i, waves.Running i → ∃ operationId : OperationId, waves.activeOperation = some operationId.value
  alone : ∀ i j, waves.Running i → waves.Running j → i = j

private theorem Held.safe {waves : HandoffWaves} (h : waves.Held) : waves.Safe :=
  ⟨fun run hrun => (h.obeying run hrun).callsAllowed, h.alone⟩

private theorem Held.handoff {coordinator : RoomHandoffCoordinator} {waves : HandoffWaves} (h : waves.Held)
    (target : RoomHandoffTarget) (operationId : OperationId) : (waves.handoff coordinator target operationId).Held := by
  unfold HandoffWaves.handoff
  split
  · exact ⟨h.obeying, h.held, h.alone⟩
  rename_i hfree
  split
  · -- no handoff was running, as it would hold the wave
    have hidle : ∀ i, ¬waves.Running i := by
      intro i hi
      obtain ⟨active, hactive⟩ := h.held i hi
      rw [hactive, active.present] at hfree
      exact hfree rfl
    have hnew : ∀ i, Running { waves with
        activeOperation := some operationId.value
        runs := waves.runs ++ [{ target := target, operationId := operationId
                                 execution := .start ((coordinator.body target operationId.value).script
                                   (RoomHandoffCoordinator.initial target)) }] } i → i = waves.runs.length := by
      rintro i ⟨run, hrun, hpending⟩
      by_contra hne
      by_cases hi : i < waves.runs.length
      · rw [List.getElem?_append_left hi] at hrun
        exact hidle i ⟨run, hrun, hpending⟩
      · rw [List.getElem?_append_right (by omega), List.getElem?_eq_none (by simp; omega)] at hrun
        cases hrun
    refine ⟨fun run hrun => ?_, fun i _ => ⟨operationId, rfl⟩, fun i j hi hj => (hnew i hi).trans (hnew j hj).symm⟩
    rcases List.mem_append.1 hrun with hrun | hrun
    · exact h.obeying run hrun
    · obtain rfl := List.mem_singleton.1 hrun
      exact ScriptExecution.Obeying.start (coordinator.body_permitted target operationId.value)
  · exact ⟨h.obeying, h.held, h.alone⟩

private theorem Held.settled {waves next : HandoffWaves} (h : waves.Held) {i : Nat}
    {answers : (c : HandoffCall) → Except HandoffError c.Result} (hs : waves.settled i answers = some next) :
    next.Held := by
  obtain ⟨run, hrun, hs⟩ := Option.bind_eq_some_iff.1 hs
  obtain ⟨call, hcall, hs⟩ := Option.bind_eq_some_iff.1 hs
  obtain rfl := Option.some.inj hs
  have hrunning : waves.Running i := ⟨run, hrun, by rw [hcall]; rfl⟩
  have hlt : i < waves.runs.length := (List.getElem?_eq_some_iff.1 hrun).1
  -- the others are not running, before and after
  have hother : ∀ j, j ≠ i → ¬Running { waves with
      activeOperation := if (run.execution.resume answers).pending?.isSome then waves.activeOperation else none
      runs := waves.runs.set i { run with execution := run.execution.resume answers } } j := by
    rintro j hne ⟨run', hrun', hpending⟩
    rw [List.getElem?_set_ne (Ne.symm hne)] at hrun'
    exact hne (h.alone j i ⟨run', hrun', hpending⟩ hrunning)
  refine ⟨fun run' hrun' => ?_, fun j hj => ?_, fun j k hj hk => ?_⟩
  · rcases List.mem_or_eq_of_mem_set hrun' with hrun' | rfl
    · exact h.obeying run' hrun'
    · exact (h.obeying run (List.mem_of_getElem? hrun)).resume answers
  · obtain rfl : j = i := by
      by_contra hne
      exact hother j hne hj
    obtain ⟨run', hrun', hpending⟩ := hj
    rw [List.getElem?_set_self hlt] at hrun'
    obtain rfl := Option.some.inj hrun'
    obtain ⟨operationId, hactive⟩ := h.held j hrunning
    exact ⟨operationId, by rw [← hactive]; exact if_pos hpending⟩
  · have hj' : j = i := by
      by_contra hne
      exact hother j hne hj
    have hk' : k = i := by
      by_contra hne
      exact hother k hne hk
    exact hj'.trans hk'.symm

/-- In every run of concurrent requests, whatever the driver and the publisher answer, every handoff makes permitted
calls only, and one handoff runs at a time. -/
theorem handoffs_permitted (coordinator : RoomHandoffCoordinator) (events : List HandoffEvent) :
    Machine.Throughout (step coordinator) Safe init events := by
  have hinit : Held init :=
    ⟨fun run hrun => (nomatch hrun), fun i ⟨_, hrun, _⟩ => (nomatch hrun), fun i _ ⟨_, hrun, _⟩ => (nomatch hrun)⟩
  refine (Machine.throughout_of_step (fun waves event next h hs => ?_) hinit events).mono fun waves h => h.safe
  cases event with
  | handoff target operationId =>
    obtain rfl := Option.some.inj hs
    exact h.handoff target operationId
  | settled i answers => exact h.settled hs

end HandoffWaves

end Opsia
