import Opsia.Orchestrator.CanaryApproval

/-!
# What an approval is worth

An operation that is approved has made every poll and found every pod and every metric in order, with two exceptions:
the memory is measured by the limit of the pod that was polled last, and an OOM kill is forgotten when it could not be
reported before the polls (`canary_approvals_sound_iff`).
-/

namespace Opsia

open Json

namespace Canary

/-! ### The invariant -/

/-- The publication was asked for by a call of an operation. -/
def AskedBy (coordinator : CanaryValidationCoordinator) (system : CanarySystem)
    (request : PublishContext × GameOperationSubject × Fields JsValue) : Prop :=
  ∃ operation ∈ system.operations, ∃ before publication,
    operation.execution.Made before (.publish publication) ∧ request.1.operationId = operation.operationId ∧
    request.2.1 = publication.subject ∧
    request.2.2 = coordinator.payload operation.target operation.operationId publication

/-- Operations have different ids and make admissible calls, decisions and bundles are asked for by them, and events
carry what was asked for. -/
structure Accountable (coordinator : CanaryValidationCoordinator) (system : CanarySystem) : Prop where
  reserving : OperationEventPublisher.Reserving system.publisher
  carries : ∀ event ∈ system.publisher.reserved, system.publisher.Carries event
  asked : ∀ request ∈ system.publisher.requested, request.2.1 ∈ canarySubjects → AskedBy coordinator system request
  distinct : (system.operations.map CanaryOperation.operationId).Nodup
  obeying : ∀ operation ∈ system.operations,
    operation.execution.Obeying (Admissible coordinator operation.target)

section

variable {coordinator : CanaryValidationCoordinator} {system next : CanarySystem}

/-- A step of the publisher alone. -/
private theorem Accountable.publisher (h : Accountable coordinator system) {event : PublisherEvent}
    {publisher : OperationEventPublisher} (hs : system.publisher.step event = some publisher)
    (hasked : ∀ request ∈ publisher.requested, request ∈ system.publisher.requested ∨
      (request.2.1 ∈ canarySubjects → AskedBy coordinator system request)) :
    Accountable coordinator { system with publisher := publisher } where
  reserving := h.reserving.step hs
  carries := OperationEventPublisher.carries_step h.carries hs
  asked := fun request hrequest hsubject => by
    rcases hasked request hrequest with hold | hnew
    · exact h.asked request hold hsubject
    · exact hnew hsubject
  distinct := h.distinct
  obeying := h.obeying

/-- The active operation goes on: what it has made stays made. -/
private theorem Accountable.advance (h : Accountable coordinator system) {operation operation' : CanaryOperation}
    (hactive : system.activeOperation = some operation) (hid : operation'.operationId = operation.operationId)
    (htarget : operation'.target = operation.target)
    (hexecution : operation'.execution = operation.execution ∨
      ∃ answers, operation'.execution = operation.execution.resume answers) :
    Accountable coordinator { system with activeOperation := some operation' } := by
  have hmade : ∀ before call, operation.execution.Made before call → operation'.execution.Made before call := by
    intro before call hm
    rcases hexecution with heq | ⟨answers, heq⟩
    · rw [heq]
      exact hm
    · rw [heq]
      exact hm.resume answers
  have hin : operation ∈ system.operations := by
    simp [CanarySystem.operations, hactive]
  have hmem : ∀ o, o ∈ CanarySystem.operations { system with activeOperation := some operation' } ↔
      o = operation' ∨ o ∈ system.finished := fun o => by simp [CanarySystem.operations]
  have hold : ∀ o, o ∈ system.operations ↔ o = operation ∨ o ∈ system.finished := fun o => by
    simp [CanarySystem.operations, hactive]
  refine ⟨h.reserving, h.carries, fun request hrequest hsubject => ?_, ?_, fun o ho => ?_⟩
  · obtain ⟨o, ho, before, publication, hm, hoid, hrest⟩ := h.asked request hrequest hsubject
    rcases (hold o).1 ho with rfl | ho
    · exact ⟨operation', (hmem _).2 (Or.inl rfl), before, publication, hmade _ _ hm, hoid.trans hid.symm, hrest.1,
        by rw [htarget, hid]; exact hrest.2⟩
    · exact ⟨o, (hmem o).2 (Or.inr ho), before, publication, hm, hoid, hrest⟩
  · have hd := h.distinct
    simp only [CanarySystem.operations, hactive, Option.toList_some, List.singleton_append, List.map_cons] at hd ⊢
    rw [hid]
    exact hd
  · rcases (hmem o).1 ho with rfl | ho
    · rw [htarget]
      have hobeying := h.obeying operation hin
      rcases hexecution with heq | ⟨answers, heq⟩
      · rw [heq]
        exact hobeying
      · rw [heq]
        exact hobeying.resume answers
    · exact h.obeying o ((hold o).2 (Or.inr ho))

/-- A step of the publisher that asks for nothing. -/
private theorem Accountable.quiet (h : Accountable coordinator system) {event : PublisherEvent}
    {publisher : OperationEventPublisher} (hs : system.publisher.step event = some publisher)
    (hevent : ∀ context subject payload, event ≠ .publish context subject payload) :
    Accountable coordinator { system with publisher := publisher } := by
  refine h.publisher hs fun request hrequest => Or.inl ?_
  rw [OperationEventPublisher.requested_step hs] at hrequest
  cases event with
  | publish context subject payload => exact absurd rfl (hevent context subject payload)
  | _ => simpa using hrequest

private theorem Accountable.publish (h : Accountable coordinator system)
    (hs : system.step coordinator .publish = some next) : Accountable coordinator next := by
  simp only [CanarySystem.step] at hs
  split at hs
  · cases hs
  rename_i operation hactive
  split at hs
  · rename_i publication hpending _
    obtain ⟨publisher, hpublisher, rfl⟩ := Option.map_eq_some_iff.1 hs
    have hin : operation ∈ system.operations := by
      simp [CanarySystem.operations, hactive]
    refine Accountable.advance (h.publisher hpublisher fun request hrequest => ?_) hactive rfl rfl (Or.inl rfl)
    rw [OperationEventPublisher.requested_step hpublisher] at hrequest
    rcases List.mem_append.1 hrequest with hold | hnew
    · exact Or.inl hold
    · rw [List.mem_singleton.1 hnew]
      exact Or.inr fun _ => ⟨operation, hin, _, publication, Or.inl ⟨rfl, hpending⟩, rfl, rfl, rfl⟩
  · cases hs

private theorem Accountable.validate (h : Accountable coordinator system) {target : CanaryValidationTarget}
    {operationId : String} (hs : system.step coordinator (.validate target operationId) = some next) :
    Accountable coordinator next := by
  simp only [CanarySystem.step] at hs
  split at hs
  · rename_i hidle
    split at hs
    · cases hs
    · rename_i hfresh
      cases hs
      have hold : system.operations = system.finished := by
        simp [CanarySystem.operations, hidle]
      refine ⟨h.reserving, h.carries, fun request hrequest hsubject => ?_, ?_, fun o ho => ?_⟩
      · obtain ⟨o, ho, hrest⟩ := h.asked request hrequest hsubject
        rw [hold] at ho
        exact ⟨o, List.mem_append_right _ ho, hrest⟩
      · have hd := h.distinct
        rw [hold] at hd
        exact List.nodup_cons.2 ⟨hfresh, hd⟩
      · rcases List.mem_append.1 ho with ho | ho
        · obtain rfl := List.mem_singleton.1 ho
          exact ScriptExecution.Obeying.start (coordinator.validateOperation_admissible target)
        · exact h.obeying o (hold ▸ ho)
  · cases hs

private theorem Accountable.finish (h : Accountable coordinator system)
    (hs : system.step coordinator .finish = some next) : Accountable coordinator next := by
  simp only [CanarySystem.step] at hs
  split at hs
  · cases hs
  rename_i operation hactive
  split at hs
  · cases hs
    have hsame : CanarySystem.operations
        { system with activeOperation := none, finished := operation :: system.finished } = system.operations := by
      simp [CanarySystem.operations, hactive]
    refine ⟨h.reserving, h.carries, fun request hrequest hsubject => ?_, hsame ▸ h.distinct, hsame ▸ h.obeying⟩
    have hasked := h.asked request hrequest hsubject
    unfold AskedBy at hasked ⊢
    rw [hsame]
    exact hasked
  · cases hs

theorem Accountable.step (h : Accountable coordinator system) {event : CanarySystemEvent}
    (hs : system.step coordinator event = some next) : Accountable coordinator next := by
  cases event with
  | validate target operationId => exact h.validate hs
  | publish => exact h.publish hs
  | finish => exact h.finish hs
  | published =>
    simp only [CanarySystem.step] at hs
    split at hs
    · cases hs
    rename_i operation hactive
    split at hs
    · cases hs
      exact h.advance hactive rfl rfl (Or.inr ⟨_, rfl⟩)
    · cases hs
  | answer answers =>
    simp only [CanarySystem.step] at hs
    split at hs
    · cases hs
    rename_i operation hactive
    split at hs
    · cases hs
    · cases hs
    · cases hs
      exact h.advance hactive rfl rfl (Or.inr ⟨answers, rfl⟩)
  | other context subject payload =>
    simp only [CanarySystem.step] at hs
    split at hs
    · cases hs
    · rename_i hother
      obtain ⟨publisher, hpublisher, rfl⟩ := Option.map_eq_some_iff.1 hs
      refine h.publisher hpublisher fun request hrequest => ?_
      rw [OperationEventPublisher.requested_step hpublisher] at hrequest
      rcases List.mem_append.1 hrequest with hold | hnew
      · exact Or.inl hold
      · rw [List.mem_singleton.1 hnew]
        exact Or.inr fun hsubject => absurd hsubject hother
  | publisher event =>
    simp only [CanarySystem.step] at hs
    split at hs
    · cases hs
    · rename_i hevent
      obtain ⟨publisher, hpublisher, rfl⟩ := Option.map_eq_some_iff.1 hs
      exact h.quiet hpublisher hevent

theorem accountable_init : Accountable coordinator {} := by
  have hinit : Machine.runFrom OperationEventPublisher.step .init [] = some {} := rfl
  refine ⟨OperationEventPublisher.reserving_of_run hinit, fun event h => ?_, fun request h => ?_, List.nodup_nil,
    fun operation h => ?_⟩
  · exact absurd h List.not_mem_nil
  · exact absurd h List.not_mem_nil
  · exact absurd h List.not_mem_nil

/-! ### From recorded events to the operation -/

private theorem operation_unique (h : Accountable coordinator system) {first second : CanaryOperation}
    (hfirst : first ∈ system.operations) (hsecond : second ∈ system.operations)
    (hid : first.operationId = second.operationId) : first = second :=
  List.inj_on_of_nodup_map h.distinct hfirst hsecond hid

/-- A recorded decision or bundle was published by an operation. -/
private theorem publication_of_durable (h : Accountable coordinator system) {event : GameOperationEvent}
    (hin : event ∈ system.publisher.durable) (hsubject : event.subject ∈ canarySubjects) :
    ∃ operation ∈ system.operations, ∃ before publication,
      operation.execution.Made before (.publish publication) ∧ event.correlationId = operation.operationId ∧
      event.subject = publication.subject ∧ ∀ key ∉ OperationEventPublisher.stampedKeys, event.payload.get? key =
        (coordinator.payload operation.target operation.operationId publication).get? key := by
  obtain ⟨context, payload, hrequest, hcontext, hpayload⟩ := h.carries event (h.reserving.durable.subset hin)
  obtain ⟨operation, hoperation, before, publication, hmade, hid, hsame, hasked⟩ := h.asked _ hrequest hsubject
  refine ⟨operation, hoperation, before, publication, hmade, hcontext.symm.trans hid, hsame, fun key hkey => ?_⟩
  rw [hpayload key hkey, ← hasked]

private theorem decision_of_subject {publication : CanaryPublication}
    (h : publication.subject = .promotionApproved ∨ publication.subject = .promotionBlocked) :
    ∃ decision, publication = .decision decision ∧
      (decision.approved = true ↔ publication.subject = .promotionApproved) := by
  cases publication with
  | decision decision =>
    refine ⟨decision, rfl, ?_⟩
    simp only [CanaryPublication.subject]
    split
    · simp [*]
    · simp [*]
  | _ => simp [CanaryPublication.subject] at h

private theorem bundle_of_subject {publication : CanaryPublication} (h : publication.subject = .evidenceBundleSealed) :
    ∃ bundle, publication = .bundle bundle := by
  cases publication with
  | bundle bundle => exact ⟨bundle, rfl⟩
  | decision decision =>
    simp only [CanaryPublication.subject] at h
    split at h
    · cases h
    · cases h
  | _ => simp [CanaryPublication.subject] at h

/-- An operation decides once. -/
private theorem decision_unique (h : Accountable coordinator system) {operation : CanaryOperation}
    (hoperation : operation ∈ system.operations) {before before' : CanaryLog} {decision decision' : CanaryDecision}
    (hmade : operation.execution.Made before (.publish (.decision decision)))
    (hmade' : operation.execution.Made before' (.publish (.decision decision'))) :
    before = before' ∧ decision = decision' := by
  have hallowed := (h.obeying operation hoperation).callsAllowed
  rcases hmade.compare hmade' with ⟨hbefore, hcall⟩ | ⟨answer, hin⟩ | ⟨answer, hin⟩
  · refine ⟨hbefore, ?_⟩
    simpa using hcall
  · have hundecided := (hallowed.made hmade').1
    rw [decided_of_mem hin] at hundecided
    cases hundecided
  · have hundecided := (hallowed.made hmade).1
    rw [decided_of_mem hin] at hundecided
    cases hundecided

/-- The operation that an approval is read off, with its decision, which was acknowledged and then sealed. -/
private structure Approving (coordinator : CanaryValidationCoordinator) (system : CanarySystem)
    (approval : SealedCanaryApproval) (operation : CanaryOperation) (before after : CanaryLog)
    (decision : CanaryDecision) (eventId : String) : Prop where
  log : operation.execution.log = before ++ ⟨.publish (.decision decision), .ok eventId⟩ :: after
  approved : decision.approved = true
  revision : operation.target.revision = approval.revision
  image : ∀ pod, decision.pod = some pod → approval.imageDigest = pod.pod.imageDigest
  bundle : ∃ event ∈ system.publisher.durable, event.correlationId = operation.operationId ∧
    event.eventId = approval.bundleEventId ∧ saysComplete (event.payload.get? "details") = true ∧
    event.payload.get? "evidence_ids" = some (texts (decision.evidenceIds ++ [eventId]))

private theorem bundle_evidenceIds (coordinator : CanaryValidationCoordinator) (target : CanaryValidationTarget)
    (operationId : String) (bundle : EvidenceBundle) :
    (coordinator.payload target operationId (.bundle bundle)).get? "evidence_ids" = some (texts bundle.evidenceIds) := by
  have hpod : ∀ pod, (podFields pod target.endpoint).get? "evidence_ids" = none := by
    intro pod
    cases pod <;> simp [podFields, optionalField, Fields.get?]
  simp [CanaryValidationCoordinator.payload, CanaryValidationCoordinator.common, CanaryValidationCoordinator.payloadOf,
    Fields.get?_append, Fields.get?, hpod]

private theorem decision_imageDigest (coordinator : CanaryValidationCoordinator) (target : CanaryValidationTarget)
    (operationId : String) {decision : CanaryDecision} {pod : CanaryPodObservation} (h : decision.pod = some pod) :
    (coordinator.payload target operationId (.decision decision)).get? "image_digest" =
      some (.str pod.pod.imageDigest) := by
  simp [CanaryValidationCoordinator.payload, CanaryValidationCoordinator.common, CanaryValidationCoordinator.payloadOf,
    Fields.get?, h, podFields, optionalField]

private theorem approving_of_readOff (h : Accountable coordinator system) {revision : String}
    {approval : SealedCanaryApproval} {bundleEvent decisionEvent : GameOperationEvent}
    (hread : ReadOff revision approval bundleEvent decisionEvent) (hbundleIn : bundleEvent ∈ system.publisher.durable)
    (hdecisionIn : decisionEvent ∈ system.publisher.durable) :
    ∃ operation ∈ system.operations, operation.operationId = approval.operationId ∧
      ∃ before after decision eventId, Approving coordinator system approval operation before after decision eventId := by
  obtain ⟨operation, hoperation, beforeBundle, publication, hmadeBundle, hid, hsubject, hpayload⟩ :=
    publication_of_durable h hbundleIn (by rw [hread.bundleOf.2.1]; decide)
  obtain ⟨bundle, rfl⟩ := bundle_of_subject (hsubject.symm.trans hread.bundleOf.2.1)
  -- the bundle follows a decision of the same operation
  have hallowed := (h.obeying operation hoperation).callsAllowed
  obtain ⟨before, decision, eventId, between, rfl, -, hpod, hids⟩ := hallowed.made hmadeBundle
  obtain ⟨after, hlog⟩ : ∃ after, operation.execution.log =
      before ++ ⟨.publish (.decision decision), .ok eventId⟩ :: after := by
    rcases hmadeBundle with ⟨hlog, -⟩ | ⟨answer, after, hlog⟩
    · exact ⟨between, hlog⟩
    · exact ⟨between ++ ⟨.publish (.bundle bundle), answer⟩ :: after, by rw [hlog, List.append_assoc]; rfl⟩
  -- and it is the decision that was recorded
  obtain ⟨operation', hoperation', before', publication', hmadeDecision, hid', hsubject', hcarried⟩ :=
    publication_of_durable h hdecisionIn (by rw [hread.decisionOf.2.1]; decide)
  obtain ⟨decision', rfl, happroved⟩ := decision_of_subject (Or.inl (hsubject'.symm.trans hread.decisionOf.2.1))
  obtain rfl : operation' = operation := by
    refine operation_unique h hoperation' hoperation ?_
    rw [← hid', ← hid, hread.decisionOf.1, hread.bundleOf.1]
  obtain ⟨rfl, rfl⟩ := decision_unique h hoperation (ScriptExecution.Made.of_log hlog) hmadeDecision
  refine ⟨operation', hoperation, hid.symm.trans hread.bundleOf.1, before, after, decision, eventId, hlog, ?_, ?_, ?_, ?_⟩
  · exact happroved.2 (hsubject'.symm.trans hread.decisionOf.2.1)
  · have hrevision := hread.revision.2
    rw [hpayload "git_revision" (by decide), ← hread.revision.1] at hrevision
    simpa [CanaryValidationCoordinator.payload, CanaryValidationCoordinator.common, Fields.get?] using hrevision
  · intro pod hpod
    have himage := hread.image
    rw [hcarried "image_digest" (by decide), decision_imageDigest _ _ _ hpod] at himage
    simpa using himage.symm
  · refine ⟨bundleEvent, hbundleIn, hid, hread.bundleOf.2.2, hread.complete, ?_⟩
    rw [hpayload "evidence_ids" (by decide), ← hids]
    exact bundle_evidenceIds ..

/-- What the decision rested on is what the operation has found. -/
private theorem Approving.approvable (h : Accountable coordinator system) {approval : SealedCanaryApproval}
    {operation : CanaryOperation} (hoperation : operation ∈ system.operations) {before after : CanaryLog}
    {decision : CanaryDecision} {eventId : String}
    (ha : Approving coordinator system approval operation before after decision eventId) :
    Approvable coordinator operation.target (operation.history coordinator) decision ∧
      ∀ id ∈ (operation.history coordinator).acknowledged, id ∈ decision.evidenceIds ++ [eventId] := by
  have hallowed := (h.obeying operation hoperation).callsAllowed
  obtain ⟨-, hacknowledged, happrovable⟩ := hallowed.made (ScriptExecution.Made.of_log ha.log)
  have hrest := happrovable ha.approved
  -- the decision itself adds its event, and nothing is found after it
  have hdecision : historyOf coordinator.platform (before ++ [⟨.publish (.decision decision), .ok eventId⟩]) =
      { historyOf coordinator.platform before with
        acknowledged := (historyOf coordinator.platform before).acknowledged ++ [eventId]
        decided := true } := by
    rw [historyOf_concat]
    simp [CanaryHistory.feed, CanaryHistory.published, CanaryPublication.isBundle, CanaryPublication.isDecision]
  have hlog : operation.execution.log = (before ++ [⟨.publish (.decision decision), .ok eventId⟩]) ++ after := by
    rw [ha.log, List.append_assoc]
    rfl
  have hlate : ∀ earlier e later,
      (before ++ [⟨.publish (.decision decision), .ok eventId⟩]) ++ after = earlier ++ e :: later →
      Admissible coordinator operation.target earlier e.call := fun earlier e later he =>
    hallowed.answered earlier e later (hlog.trans he)
  have hsame : SameFindings
      (historyOf coordinator.platform (before ++ [⟨.publish (.decision decision), .ok eventId⟩]))
      (operation.history coordinator) := by
    unfold CanaryOperation.history
    rw [hlog]
    exact sameFindings_of_decided (by rw [hdecision]) hlate
  rw [hdecision] at hsame
  obtain ⟨hpolls, hkilled, hfailed, hids, hstopped⟩ := hsame
  dsimp only at hpolls hkilled hfailed hids hstopped
  refine ⟨⟨?_, hrest.complete, hstopped hrest.stopped, ?_, ?_⟩, fun id hid => ?_⟩
  · rw [hpolls]
    exact hrest.finished
  · rw [hkilled, hfailed]
    exact hrest.killed
  · rw [hpolls]
    exact hrest.polls
  · rw [hids] at hid
    rcases List.mem_append.1 hid with hid | hid
    · exact List.mem_append_left _ (hacknowledged id hid)
    · exact List.mem_append_right _ hid

/-- No recorded event of an operation that approved blocks it. -/
private theorem Approving.unopposed (h : Accountable coordinator system) {approval : SealedCanaryApproval}
    {operation : CanaryOperation} (hoperation : operation ∈ system.operations) {before after : CanaryLog}
    {decision : CanaryDecision} {eventId : String}
    (ha : Approving coordinator system approval operation before after decision eventId) {event : GameOperationEvent}
    (hin : event ∈ system.publisher.durable) (hid : event.correlationId = operation.operationId) :
    event.subject ≠ .promotionBlocked := by
  intro hblocked
  obtain ⟨operation', hoperation', before', publication, hmade, hid', hsubject, -⟩ :=
    publication_of_durable h hin (by rw [hblocked]; decide)
  obtain ⟨decision', rfl, happroved⟩ := decision_of_subject (Or.inr (hsubject.symm.trans hblocked))
  obtain rfl : operation' = operation := operation_unique h hoperation' hoperation (hid'.symm.trans hid)
  obtain ⟨-, rfl⟩ := decision_unique h hoperation (ScriptExecution.Made.of_log ha.log) hmade
  have hsame := (happroved.1 ha.approved).symm.trans (hsubject.symm.trans hblocked)
  cases hsame

private theorem includesId_texts {ids : List String} {eventId : String} (h : eventId ∈ ids) :
    includesId (some (texts ids)) eventId = true := by
  simp only [includesId, texts, decide_eq_true_eq]
  exact List.mem_map.2 ⟨eventId, h, rfl⟩

/-- An approving operation was rolled out just when it was undisturbed. -/
private theorem rolledOut_iff (h : Accountable coordinator system) {approval : SealedCanaryApproval}
    {operation : CanaryOperation} (hoperation : operation ∈ system.operations) {before after : CanaryLog}
    {decision : CanaryDecision} {eventId : String}
    (ha : Approving coordinator system approval operation before after decision eventId) :
    RolledOut coordinator system operation approval ↔ Undisturbed coordinator operation := by
  obtain ⟨happrovable, hevidence⟩ := ha.approvable h hoperation
  obtain ⟨last, hlast, hpod, hpolls⟩ := happrovable.polls
  constructor
  · intro hrolled
    refine ⟨fun _ _ poll hpoll _ => hrolled.memory poll hpoll, ?_⟩
    by_contra hfailed
    have hkilled := happrovable.killed.2 (by simpa using hfailed)
    rw [hrolled.survived] at hkilled
    cases hkilled
  · intro hundisturbed
    refine ⟨ha.revision, happrovable.finished, fun poll hpoll => ?_, fun poll hpoll => ?_, ?_, happrovable.stopped, ?_,
      fun event hin hid => ha.unopposed h hoperation hin hid⟩
    · rw [ha.image last.pod hpod]
      exact (hpolls poll hpoll).1
    · exact hundisturbed.memory last hlast poll hpoll (hpolls poll hpoll).2
    · by_contra hkilled
      have hfailed := happrovable.killed.1 (by simpa using hkilled)
      rw [hundisturbed.reports] at hfailed
      cases hfailed
    · obtain ⟨event, hin, hid, hbundle, hcomplete, hids⟩ := ha.bundle
      refine ⟨event, hin, hid, hbundle, hcomplete, fun id hacknowledged => ?_⟩
      rw [hids]
      exact includesId_texts (hevidence id hacknowledged)

private theorem Accountable.approvals (h : Accountable coordinator system) :
    Approvals coordinator
      (fun system approval => ApprovalSound coordinator system approval ↔ ApprovalUndisturbed coordinator system approval)
      system := by
  intro recorded revision approval hrecorded hsealed
  obtain ⟨bundleEvent, hbundle, decisionEvent, hdecision, hread⟩ := sealedCanaryApproval_readOff hsealed
  obtain ⟨operation, hoperation, hid, before, after, decision, eventId, ha⟩ :=
    approving_of_readOff h hread (hrecorded _ hbundle) (hrecorded _ hdecision)
  have hiff := rolledOut_iff h hoperation ha
  constructor
  · rintro ⟨operation', hoperation', hid', hrolled⟩ other hother hotherId
    obtain rfl := operation_unique h hoperation' hoperation (hid'.trans hid.symm)
    obtain rfl := operation_unique h hother hoperation (hotherId.trans hid.symm)
    exact hiff.1 hrolled
  · intro hundisturbed
    exact ⟨operation, hoperation, hid, hiff.2 (hundisturbed operation hoperation hid)⟩

/-- In every state of every run of canary validations and other publishers, an approval that is read off recorded events
is sound just when its operation was undisturbed: the limit of the pod that was polled last bore out no working set that
the limit of its own pod did not, and no report of an OOM kill failed. -/
theorem canary_approvals_sound_iff (coordinator : CanaryValidationCoordinator) (events : List CanarySystemEvent) :
    Machine.Throughout (CanarySystem.step coordinator)
      (Approvals coordinator fun system approval =>
        ApprovalSound coordinator system approval ↔ ApprovalUndisturbed coordinator system approval)
      {} events :=
  (Machine.throughout_of_step (fun _ _ _ haccountable hs => haccountable.step hs) accountable_init events).mono
    fun _ => Accountable.approvals

end

/-! ### An approval of a canary that was short of memory -/

instance (coordinator : CanaryValidationCoordinator) (target : CanaryValidationTarget) (pod : CanaryPodObservation)
    (poll : CanaryPoll) : Decidable (PollMemoryWithin coordinator target pod poll) :=
  decidable_of_iff
    (((poll.metrics coordinator.platform target.roomId).any fun observation =>
      (observation.value .memoryWorkingSetBytes).any fun used => pod.memoryLimitBytes.any fun (limit : Int) =>
        decide (used / limit ≤ coordinator.options.maxMemoryRatio)) = true) (by
    simp only [Option.any_eq_true, decide_eq_true_eq, PollMemoryWithin, MemoryWithin]
    constructor
    · rintro ⟨observation, hmetrics, used, hused, limit, hlimit, hle⟩
      exact ⟨observation, hmetrics, used, limit, hused, hlimit, hle⟩
    · rintro ⟨observation, hmetrics, used, limit, hused, hlimit, hle⟩
      exact ⟨observation, hmetrics, used, hused, limit, hlimit, hle⟩)

/-- The default thresholds, one attempt and two polls, on a platform whose clock stands still. -/
def smallCoordinator : CanaryValidationCoordinator where
  options := {
    readinessTimeoutMs := 60000, maxReadinessPolls := 1, validationPolls := 2, botCount := 1, maxSnapshotInflight := 1,
    maxSnapshotPending := 0, maxSnapshotWriteDurationSeconds := 2, maxSnapshotFailuresTotal := 0,
    maxSnapshotTimeoutsTotal := 0, minimumTickRate := 60, memoryPressureRatio := 4 / 5, maxMemoryRatio := 9 / 10 }
  isolation := {
    roomId := canaryRoomId, endpointOrigin := "http://game-room-canary:8001", redisKeyPrefix := "room:canary-room:",
    redisDatabase := 1, liveRedisDatabases := [0] }
  workspaceId := "demo-game"
  clusterId := "game-server"
  namespaceName := "sandbox"
  platform := {
    isoString := fun _ => "1970-01-01T00:00:00.000Z"
    number := fun value => .ofNat value.num.toNat
    urlText := .ok
    metricsEndpoint := fun _ => .ok "http://game-room-canary:8001/metrics"
    originOf := .ok
    dateParse := fun _ => some 0 }

def smallTarget : CanaryValidationTarget where
  canaryId := "canary-1"
  roomId := canaryRoomId
  endpoint := "http://game-room-canary:8001"
  revision := "r2"
  redisKeyPrefix := "room:canary-room:"
  redisDatabase := 1
  workflowRunId := none
  applicationId := none

/-- A ready pod with this memory limit. -/
def podLimitedTo (limit : Int) : CanaryPodObservation where
  observedAt := "1970-01-01T00:00:00.000Z"
  pod := {
    kind := "Pod", name := "game-room-canary", uid := "pod-1", resourceVersion := none, phase := "Running",
    canaryId := "canary-1", revision := "r2",
    imageDigest := "sha256:0123456789abcdef0123456789abcdef0123456789abcdef0123456789abcdef" }
  readyReplicas := 1
  desiredReplicas := 1
  containers := [{ name := "game", ready := true, restartCount := 0, terminated := none, lastTerminated := none }]
  events := []
  isolation := {
    roomId := canaryRoomId, fleet := "canary", publicEnabled := false, matchmakingEnabled := false,
    redisKeyPrefix := "room:canary-room:", redisDatabase := 1 }
  memoryLimitBytes := some limit

/-- A scrape in which everything is in order, with this working set. -/
def scrapeUsing (used : ℚ) : CanaryMetricsScrape where
  observedAt := "1970-01-01T00:00:00.000Z"
  url := "http://game-room-canary:8001/metrics"
  samples := .ok ([("game_snapshot_inflight", 0), ("game_snapshot_pending", 0),
    ("game_snapshot_write_duration_seconds", 1), ("game_snapshot_failures_total", 0), ("game_snapshot_timeouts_total", 0), ("game_snapshot_circuit_open", 0),
    ("game_snapshot_handoff_enabled", 1), ("game_tick_rate", 60), ("container_memory_working_set_bytes", used)].map
      fun sample => ⟨sample.1, some canaryRoomId, sample.2⟩)

/-- The dependencies answer with this pod and this working set. -/
def answerWith (limit : Int) (used : ℚ) : CanarySystemEvent :=
  .answer fun
    | .publish _ => .error .other
    | .observe => .ok (podLimitedTo limit)
    | .scrape => .ok (scrapeUsing used)
    | .startBots => .ok { jobId := "job-1", botCount := 1, sessionCount := 1, evidenceIds := none }
    | .stopBots _ => .ok ()
    | .now => .ok (0 : Int)

/-- A publication is asked for, accepted and acknowledged. -/
def publishAs (eventId : String) : List CanarySystemEvent :=
  [.publish, .publisher (.run eventId "1970-01-01T00:00:00.000Z" "1970-01-01T00:00:00.000Z"), .publisher .accept,
   .publisher (.settle (.ok ())), .published]

/-- A pod with 100 bytes of memory uses 95 of them; a pod with 200 takes its place and uses 50. -/
def replacedPodRun : List CanarySystemEvent :=
  [.validate smallTarget "op-1", answerWith 200 50] ++ publishAs "scheduled"
    ++ [answerWith 200 50, answerWith 200 50, answerWith 200 50] ++ publishAs "ready" ++ [answerWith 200 50]
    ++ publishAs "load" ++ [answerWith 100 95, answerWith 100 95, answerWith 200 50, answerWith 200 50]
    ++ publishAs "pressure" ++ [answerWith 200 50]
    ++ ["gate-1", "gate-2", "gate-3", "gate-4", "gate-5", "gate-6", "gate-7", "gate-8", "gate-9"].flatMap publishAs
    ++ publishAs "decision" ++ [answerWith 200 50] ++ publishAs "bundle"

/-- What the run comes to: an approval, and operations that all have a poll that was short of memory. -/
private theorem replacedPodRun_result :
    ((Machine.runFrom (CanarySystem.step smallCoordinator) {} replacedPodRun).any fun system =>
      (sealedCanaryApprovalForRevision smallCoordinator.platform system.publisher.durable "r2").isSome &&
        system.operations.all fun operation => (operation.history smallCoordinator).polls.any fun poll =>
          !decide (PollMemoryWithin smallCoordinator operation.target poll.pod poll)) = true := by
  decide +kernel

/-- The canary is approved although one of its polls was over the threshold. -/
theorem replaced_pod_approved : ¬Machine.Throughout (CanarySystem.step smallCoordinator)
    (Approvals smallCoordinator (ApprovalSound smallCoordinator)) {} replacedPodRun := by
  intro h
  obtain ⟨system, hrun, hresult⟩ := (Option.any_eq_true _ _).1 replacedPodRun_result
  obtain ⟨hsealed, hshort⟩ := Bool.and_eq_true_iff.1 hresult
  obtain ⟨approval, happroval⟩ := Option.isSome_iff_exists.1 hsealed
  obtain ⟨operation, hin, -, hrolled⟩ :=
    h.last hrun system.publisher.durable "r2" approval (fun _ hevent => hevent) happroval
  obtain ⟨poll, hpoll, hover⟩ := List.any_eq_true.1 (List.all_eq_true.1 hshort operation hin)
  have hwithin := hrolled.memory poll hpoll
  simp [hwithin] at hover

end Canary

end Opsia
