import Opsia.Orchestrator.CanaryHistory

/-!
# What a canary validation may do

`validateOperation` makes admissible calls only, whatever it is answered (`validateOperation_admissible`).  The proof
goes through its stages: before the polls an OOM kill is known of only where its report failed (`Waiting`), while they
go on either something has gone wrong or every poll has passed (`Polling`), and a decision to approve finds that nothing
has.
-/

namespace Opsia

open Json

namespace Canary

/-! ### What the variables say about the history -/

/-- Before the decision the evidence holds every event that was acknowledged, and OOM kills are known of and reported
only where they were observed. -/
structure Undecided (history : CanaryHistory) (progress : CanaryProgress) : Prop where
  undecided : history.decided = false
  acknowledged : ∀ eventId ∈ history.acknowledged, eventId ∈ progress.evidenceIds
  oom : progress.oom.isSome = true → history.oomKilled = true
  reported : history.oomReportFailed = true → history.oomKilled = true

/-- Before the polls an OOM kill was observed only where its report failed. -/
structure Waiting (history : CanaryHistory) (progress : CanaryProgress) : Prop extends Undecided history progress where
  polls : history.polls = []
  observations : progress.observations = []
  killed : history.oomKilled = true → history.oomReportFailed = true

/-- The pod of a poll has passed the checks that stand before the scrape. -/
structure PodPassed (coordinator : CanaryValidationCoordinator) (target : CanaryValidationTarget)
    (imageDigest : Option String) (pod : CanaryPodObservation) : Prop where
  ready : podReady pod = true
  isolated : Isolated pod target coordinator.isolation
  image : some pod.pod.imageDigest = imageDigest
  alive : observedOom coordinator.platform pod = none
  valid : validatePodObservation coordinator.platform pod = .ok ()

/-- Nothing has gone wrong so far. -/
def CanaryProgress.Clean (progress : CanaryProgress) : Prop :=
  progress.hardFailure = none ∧ progress.unavailableReasons = []

/-- So many polls have passed their checks, and their metrics are the observations. -/
structure Sampled (coordinator : CanaryValidationCoordinator) (target : CanaryValidationTarget) (n : Nat)
    (history : CanaryHistory) (progress : CanaryProgress) : Prop where
  length : history.polls.length = n
  observed : List.Forall₂ (fun poll observation => poll.metrics coordinator.platform target.roomId = some observation)
    history.polls progress.observations
  passed : ∀ poll ∈ history.polls, PodPassed coordinator target progress.observedImageDigest poll.pod
  limited : ∀ poll ∈ history.polls, poll.pod.memoryLimitBytes ≠ none
  killed : history.oomKilled = true → history.oomReportFailed = true

/-- While the polls go on, so many have been made and the last one was of the latest pod, if nothing has gone wrong. -/
structure Polling (coordinator : CanaryValidationCoordinator) (target : CanaryValidationTarget) (n : Nat)
    (history : CanaryHistory) (progress : CanaryProgress) : Prop extends Undecided history progress where
  sampled : progress.Clean → Sampled coordinator target n history progress
  last : progress.Clean → ∀ poll, history.polls.getLast? = some poll → progress.latestPod = some poll.pod

/-! ### Exchanges -/

variable {coordinator : CanaryValidationCoordinator} {target : CanaryValidationTarget} {log : CanaryLog}
  {history history' : CanaryHistory} {progress progress' : CanaryProgress}

theorem Undecided.of_frame (h : Undecided history progress)
    (hhistory : history'.decided = history.decided ∧ history'.acknowledged = history.acknowledged ∧
      history'.oomReportFailed = history.oomReportFailed)
    (hkilled : history.oomKilled = true → history'.oomKilled = true)
    (hprogress : progress'.evidenceIds = progress.evidenceIds ∧ progress'.oom = progress.oom) :
    Undecided history' progress' := by
  obtain ⟨hdecided, hacknowledged, hreported⟩ := hhistory
  obtain ⟨hevidence, hoom⟩ := hprogress
  refine ⟨hdecided.trans h.undecided, ?_, fun hs => hkilled (h.oom (hoom ▸ hs)), fun hr =>
    hkilled (h.reported (hreported ▸ hr))⟩
  rw [hacknowledged, hevidence]
  exact h.acknowledged

theorem Waiting.of_frame (h : Waiting history progress)
    (hprogress : progress'.evidenceIds = progress.evidenceIds ∧ progress'.oom = progress.oom ∧
      progress'.observations = progress.observations) : Waiting history progress' where
  toUndecided := h.toUndecided.of_frame ⟨rfl, rfl, rfl⟩ id ⟨hprogress.1, hprogress.2.1⟩
  polls := h.polls
  observations := hprogress.2.2.trans h.observations
  killed := h.killed

/-- A plain event is acknowledged and becomes evidence. -/
theorem Undecided.acknowledge (h : Undecided history progress) (eventId : String) :
    Undecided { history with acknowledged := history.acknowledged ++ [eventId] }
      { progress with evidenceIds := progress.evidenceIds ++ [eventId] } := by
  refine ⟨h.undecided, fun id hid => ?_, h.oom, h.reported⟩
  rcases List.mem_append.1 hid with hid | hid
  · exact List.mem_append_left _ (h.acknowledged id hid)
  · exact List.mem_append_right _ hid

/-- The report of an OOM kill that was observed fails. -/
theorem Undecided.reportFailed (h : Undecided history progress) {report : Bool}
    (hreport : report = true → history.oomKilled = true) :
    Undecided { history with oomReportFailed := history.oomReportFailed || report } progress := by
  refine ⟨h.undecided, h.acknowledged, h.oom, fun hfailed => ?_⟩
  rcases Bool.or_eq_true_iff.1 hfailed with hfailed | hfailed
  · exact h.reported hfailed
  · exact hreport hfailed

/-- A publication that is neither a decision nor a bundle. -/
def CanaryPublication.Plain (publication : CanaryPublication) : Prop :=
  publication.isDecision = false ∧ publication.isBundle = false

private theorem Plain.admissible {publication : CanaryPublication} (h : publication.Plain)
    (hundecided : (historyOf coordinator.platform log).decided = false)
    (hreport : publication.isOomReport = true → (historyOf coordinator.platform log).oomKilled = true) :
    Admissible coordinator target log (.publish publication) := by
  cases publication with
  | decision _ => exact absurd h.1 (by simp [CanaryPublication.isDecision])
  | bundle _ => exact absurd h.2 (by simp [CanaryPublication.isBundle])
  | _ => exact ⟨hundecided, hreport⟩

/-- The rule for a plain publication. -/
private theorem obeys_publish {publication : CanaryPublication}
    (h : Undecided (historyOf coordinator.platform log) progress) (hplain : publication.Plain)
    (hreport : publication.isOomReport = true → (historyOf coordinator.platform log).oomKilled = true)
    {post : CanaryLog → CanaryProgress → Unit → Prop} {failed : CanaryLog → CanaryProgress → CanaryError → Prop}
    (hpost : ∀ log' eventId, historyOf coordinator.platform log' =
        { historyOf coordinator.platform log with
          acknowledged := (historyOf coordinator.platform log).acknowledged ++ [eventId] } →
      post log' { progress with evidenceIds := progress.evidenceIds ++ [eventId] } ())
    (hfailed : ∀ log' e, historyOf coordinator.platform log' =
        { historyOf coordinator.platform log with
          oomReportFailed := (historyOf coordinator.platform log).oomReportFailed || publication.isOomReport } →
      failed log' progress e) :
    (publish publication).Obeys (Admissible coordinator target) progress log post failed := by
  obtain ⟨hdecision, hbundle⟩ := hplain
  refine Procedure.obeys_bind (Procedure.obeys_perform (Plain.admissible ⟨hdecision, hbundle⟩ h.undecided hreport)
    (fun eventId => ?_) fun e => ?_)
  · refine Procedure.obeys_modify (hpost _ eventId ?_)
    rw [historyOf_concat]
    simp [CanaryHistory.feed, CanaryHistory.published, hdecision, hbundle]
  · refine hfailed _ e ?_
    rw [historyOf_concat]
    simp [CanaryHistory.feed, CanaryHistory.published, hdecision]

/-- The rule for the observation of a pod. -/
private theorem obeys_observePod (hundecided : (historyOf coordinator.platform log).decided = false)
    {post : CanaryLog → CanaryProgress → CanaryPodObservation → Prop}
    {failed : CanaryLog → CanaryProgress → CanaryError → Prop}
    (hpost : ∀ log' pod, validatePodObservation coordinator.platform pod = .ok () →
      historyOf coordinator.platform log' =
        { historyOf coordinator.platform log with
          pod := some pod
          oomKilled := (historyOf coordinator.platform log).oomKilled ||
            (observedOom coordinator.platform pod).isSome } →
      post log' progress pod)
    (hfailed : ∀ log' e, historyOf coordinator.platform log' = historyOf coordinator.platform log →
      failed log' progress e) :
    coordinator.observePod.Obeys (Admissible coordinator target) progress log post failed := by
  refine Procedure.obeys_bind (Procedure.obeys_perform hundecided (fun pod => ?_) fun e => hfailed _ e ?_)
  · have hfeed : historyOf coordinator.platform (log ++ [⟨.observe, .ok pod⟩]) =
        (historyOf coordinator.platform log).observe coordinator.platform pod := historyOf_concat ..
    unfold CanaryHistory.observe at hfeed
    split
    · rename_i hvalid
      rw [hvalid] at hfeed
      exact Procedure.obeys_pure (hpost _ pod hvalid hfeed)
    · rename_i hvalid
      rw [hvalid] at hfeed
      exact Procedure.obeys_throw (hfailed _ _ hfeed)
  · rw [historyOf_concat]
    rfl

/-- Events were acknowledged and became evidence, and nothing else changed. -/
def Grown (history : CanaryHistory) (progress : CanaryProgress) (history' : CanaryHistory)
    (progress' : CanaryProgress) : Prop :=
  ∃ acknowledged evidenceIds, history' = { history with acknowledged := acknowledged } ∧
    progress' = { progress with evidenceIds := evidenceIds }

private theorem obeys_publishPlain {publication : CanaryPublication}
    (h : Undecided (historyOf coordinator.platform log) progress) (hplain : publication.Plain)
    (hreport : publication.isOomReport = true → (historyOf coordinator.platform log).oomKilled = true) :
    (publish publication).Obeys (Admissible coordinator target) progress log
      (fun log' s _ => Undecided (historyOf coordinator.platform log') s ∧
        Grown (historyOf coordinator.platform log) progress (historyOf coordinator.platform log') s)
      fun _ _ _ => True := by
  refine obeys_publish h hplain hreport (fun log₁ eventId h₁ => ⟨?_, ?_⟩) fun _ _ _ => trivial
  · rw [h₁]
    exact h.acknowledge eventId
  · exact ⟨_, _, h₁, rfl⟩

theorem Grown.trans {history'' : CanaryHistory} {progress'' : CanaryProgress}
    (h : Grown history progress history' progress') (h' : Grown history' progress' history'' progress'') :
    Grown history progress history'' progress'' := by
  obtain ⟨_, _, rfl, rfl⟩ := h
  obtain ⟨acknowledged, evidenceIds, rfl, rfl⟩ := h'
  exact ⟨acknowledged, evidenceIds, rfl, rfl⟩

theorem Waiting.grown (h : Waiting history progress) (hgrown : Grown history progress history' progress')
    (hu : Undecided history' progress') : Waiting history' progress' := by
  obtain ⟨acknowledged, evidenceIds, rfl, rfl⟩ := hgrown
  exact ⟨hu, h.polls, h.observations, h.killed⟩

/-! ### The readiness loop -/

namespace CanaryValidationCoordinator

/-- Where a readiness attempt leads: to a blocked decision, or on with an OOM kill only where its report failed. -/
private def AfterAttempt (history : CanaryHistory) (progress : CanaryProgress) : ReadinessStep → Prop
  | .killed => Undecided history progress
  | .again => Waiting history progress
  | .stop => Undecided history progress ∧ (presentText progress.readinessFailure = none → Waiting history progress)

private theorem Waiting.afterAttempt (h : Waiting history progress) (step : ReadinessStep) :
    AfterAttempt history progress step := by
  cases step with
  | again => exact h
  | stop => exact ⟨h.toUndecided, fun _ => h⟩
  | killed => exact h.toUndecided

/-- An OOM kill is reported; where that fails the history says so. -/
private theorem obeys_reportOom {pod : CanaryPodObservation} {oom : OomObservation}
    (h : Undecided (historyOf coordinator.platform log) progress)
    (hkilled : (historyOf coordinator.platform log).oomKilled = true)
    (hpolls : (historyOf coordinator.platform log).polls = []) (hobservations : progress.observations = []) :
    (publish (.oomKilled pod oom) >>= fun _ => publish oomGate >>= fun _ => pure ReadinessStep.killed).Obeys
      (Admissible coordinator target) progress log
      (fun log' s step => AfterAttempt (historyOf coordinator.platform log') s step)
      fun log' s _ => Waiting (historyOf coordinator.platform log') s := by
  refine Procedure.obeys_bind (obeys_publish h ⟨rfl, rfl⟩ (fun _ => hkilled) (fun log₁ id₁ h₁ => ?_) fun log₁ e h₁ => ?_)
  · have hu₁ : Undecided (historyOf coordinator.platform log₁) _ := h₁ ▸ h.acknowledge id₁
    have hkilled₁ : (historyOf coordinator.platform log₁).oomKilled = true := by rw [h₁]; exact hkilled
    refine Procedure.obeys_bind (obeys_publish hu₁ ⟨rfl, rfl⟩ (fun _ => hkilled₁) (fun log₂ id₂ h₂ => ?_)
      fun log₂ e h₂ => ?_)
    · refine Procedure.obeys_pure ?_
      rw [h₂]
      exact hu₁.acknowledge id₂
    · rw [h₂]
      refine ⟨hu₁.reportFailed fun _ => hkilled₁, ?_, hobservations, fun _ => ?_⟩
      · dsimp only
        rw [h₁]
        exact hpolls
      · simp [oomGate, CanaryPublication.isOomReport]
  · rw [h₁]
    exact ⟨h.reportFailed fun _ => hkilled, hpolls, hobservations, fun _ => by simp [CanaryPublication.isOomReport]⟩

private theorem obeys_noteMissingUid {oom : OomObservation} {post : CanaryLog → CanaryProgress → Unit → Prop}
    {failed : CanaryLog → CanaryProgress → CanaryError → Prop}
    (hpost : ∀ reasons, (progress.unavailableReasons = reasons ∨ reasons ≠ []) →
      post log { progress with unavailableReasons := reasons } ()) :
    (noteMissingUid oom).Obeys (Admissible coordinator target) progress log post failed := by
  unfold noteMissingUid
  split
  · exact Procedure.obeys_modify (hpost _ (Or.inr (by simp)))
  · exact Procedure.obeys_pure (hpost _ (Or.inl rfl))

private theorem obeys_failReadiness {reason : String} (h : Undecided (historyOf coordinator.platform log) progress)
    (hreason : reason ≠ "") {failed : CanaryLog → CanaryProgress → CanaryError → Prop} :
    (failReadiness reason).Obeys (Admissible coordinator target) progress log
      (fun log' s step => AfterAttempt (historyOf coordinator.platform log') s step) failed := by
  refine Procedure.obeys_bind (Procedure.obeys_modify (Procedure.obeys_pure ⟨?_, fun hnone => ?_⟩))
  · exact h.of_frame ⟨rfl, rfl, rfl⟩ id ⟨rfl, rfl⟩
  · simp [presentText, hreason] at hnone

private theorem isolationError_ne_empty {pod : CanaryPodObservation} {reason : String}
    (h : observedIsolationError pod target coordinator.isolation = some reason) : reason ≠ "" := by
  unfold observedIsolationError at h
  dsimp only at h
  split_ifs at h <;> (cases h; decide)

private theorem obeys_readinessAttempt (h : Waiting (historyOf coordinator.platform log) progress)
    {failed : CanaryLog → CanaryProgress → CanaryError → Prop} :
    (coordinator.readinessAttempt target).Obeys (Admissible coordinator target) progress log
      (fun log' s step => AfterAttempt (historyOf coordinator.platform log') s step) failed := by
  refine Procedure.obeys_tryCatch_through (fun log' s _ => Waiting (historyOf coordinator.platform log') s)
    (fun log' s e h' => ?_) ?_
  · exact Procedure.obeys_bind (Procedure.obeys_modify (Procedure.obeys_pure (h'.of_frame ⟨rfl, rfl, rfl⟩)))
  refine Procedure.obeys_bind (obeys_observePod h.undecided (fun log₁ pod hvalid h₁ => ?_) fun log₁ e h₁ => ?_)
  · refine Procedure.obeys_bind (Procedure.obeys_modify (Procedure.obeys_bind (Procedure.obeys_get ?_)))
    have hu : ∀ {s : CanaryProgress}, s.evidenceIds = progress.evidenceIds → s.oom = progress.oom →
        Undecided (historyOf coordinator.platform log₁) s := by
      intro s hevidence hoom
      rw [h₁]
      exact h.toUndecided.of_frame ⟨rfl, rfl, rfl⟩ (fun hk => by simp [hk]) ⟨hevidence, hoom⟩
    have hpolls : (historyOf coordinator.platform log₁).polls = [] := by
      rw [h₁]
      exact h.polls
    split
    · refine obeys_failReadiness ?_ (by decide)
      exact hu rfl rfl
    · refine Procedure.obeys_bind (Procedure.obeys_modify ?_)
      split
      · rename_i reason hreason
        refine obeys_failReadiness ?_ (isolationError_ne_empty hreason)
        exact hu rfl rfl
      · split
        · rename_i oom hoom
          refine Procedure.obeys_bind (obeys_noteMissingUid fun reasons _ => ?_)
          refine obeys_reportOom ?_ ?_ hpolls h.observations
          · exact hu rfl rfl
          · rw [h₁]
            simp [hoom]
        · -- no OOM kill: what was true before is true still
          rename_i hoom
          refine Procedure.obeys_pure (Waiting.afterAttempt ?_ _)
          refine ⟨hu rfl rfl, hpolls, h.observations, ?_⟩
          rw [h₁]
          simpa [hoom] using h.killed
  · rw [h₁]
    exact h

private theorem obeys_readiness (readinessStarted : Int) (polls : Nat)
    (h : Waiting (historyOf coordinator.platform log) progress) :
    (coordinator.readiness target readinessStarted polls).Obeys (Admissible coordinator target) progress log
      (fun log' s step => AfterAttempt (historyOf coordinator.platform log') s step) fun _ _ _ => True := by
  induction polls generalizing log progress with
  | zero => exact Procedure.obeys_pure (Waiting.afterAttempt h _)
  | succ polls ih =>
    refine Procedure.obeys_bind (Procedure.obeys_perform trivial (fun now => ?_) fun _ => trivial)
    have h₁ : Waiting (historyOf coordinator.platform (log ++ [⟨.now, .ok now⟩])) progress := by
      rw [historyOf_concat]
      exact h
    split
    · exact Procedure.obeys_pure (Waiting.afterAttempt h₁ _)
    · refine Procedure.obeys_bind ((obeys_readinessAttempt h₁).mono (fun log₂ s step h₂ => ?_) fun _ _ _ h => h)
      cases step with
      | again => exact ih h₂
      | stop => exact Procedure.obeys_pure h₂
      | killed => exact Procedure.obeys_pure h₂

/-! ### The load and the polls -/

private theorem obeys_startLoad (pod : CanaryPodObservation)
    (h : Waiting (historyOf coordinator.platform log) progress) :
    (coordinator.startLoad pod).Obeys (Admissible coordinator target) progress log
      (fun log' s _ => Waiting (historyOf coordinator.platform log') s) fun _ _ _ => True := by
  have hplain : ∀ {log : CanaryLog} {s : CanaryProgress} {publication : CanaryPublication} {started : Bool},
      Waiting (historyOf coordinator.platform log) s → publication.Plain → publication.isOomReport = false →
      (publish publication >>= fun _ => pure started).Obeys (Admissible coordinator target) s log
        (fun log' s _ => Waiting (historyOf coordinator.platform log') s)
        fun log' s _ => Waiting (historyOf coordinator.platform log') s := by
    intro log s publication started hw hp hreport
    refine Procedure.obeys_bind (obeys_publish hw.toUndecided hp (fun hr => absurd (hreport.symm.trans hr) (by decide))
      (fun log₁ eventId h₁ => Procedure.obeys_pure ?_) fun log₁ e h₁ => ?_)
    · rw [h₁]
      exact ⟨hw.toUndecided.acknowledge eventId, hw.polls, hw.observations, hw.killed⟩
    · rw [h₁, hreport, Bool.or_false]
      exact hw
  refine Procedure.obeys_tryCatch_through (fun log' s _ => Waiting (historyOf coordinator.platform log') s)
    (fun log' s e h' => ?_) ?_
  · refine Procedure.obeys_bind (Procedure.obeys_modify ?_)
    refine Procedure.Obeys.mono (fun _ _ _ h => h) (fun _ _ _ _ => trivial) (hplain ?_ ⟨rfl, rfl⟩ rfl)
    exact h'.of_frame ⟨rfl, rfl, rfl⟩
  · refine Procedure.obeys_bind (Procedure.obeys_perform trivial (fun run => ?_) fun e => ?_)
    · have h₁ : Waiting (historyOf coordinator.platform (log ++ [⟨.startBots, .ok run⟩])) progress := by
        rw [historyOf_concat]
        exact h
      refine Procedure.obeys_bind (Procedure.obeys_modify ?_)
      split
      · refine Procedure.obeys_bind (Procedure.obeys_modify (hplain ?_ ⟨rfl, rfl⟩ rfl))
        refine ⟨⟨h₁.undecided, fun eventId hid => ?_, h₁.oom, h₁.reported⟩, h₁.polls, h₁.observations, h₁.killed⟩
        exact List.mem_append_left _ (h₁.acknowledged eventId hid)
      · exact Procedure.obeys_throw (h₁.of_frame ⟨rfl, rfl, rfl⟩)
    · rw [historyOf_concat]
      exact h

/-- Where a poll leads: on with one more, or to the end with something gone wrong. -/
private def AfterPoll (coordinator : CanaryValidationCoordinator) (target : CanaryValidationTarget) (n : Nat)
    (history : CanaryHistory) (progress : CanaryProgress) : Bool → Prop
  | true => Polling coordinator target (n + 1) history progress
  | false => ∀ m, Polling coordinator target m history progress

private theorem Undecided.polling (h : Undecided history progress) (hwrong : ¬progress.Clean) (n : Nat) :
    Polling coordinator target n history progress :=
  ⟨h, fun hc => absurd hc hwrong, fun hc => absurd hc hwrong⟩

private theorem obeys_failHard {reason : String} {n : Nat} (h : Undecided (historyOf coordinator.platform log) progress)
    {failed : CanaryLog → CanaryProgress → CanaryError → Prop} :
    (failHard reason).Obeys (Admissible coordinator target) progress log
      (fun log' s goesOn => AfterPoll coordinator target n (historyOf coordinator.platform log') s goesOn) failed := by
  refine Procedure.obeys_bind (Procedure.obeys_modify (Procedure.obeys_pure fun m => ?_))
  refine Undecided.polling ?_ ?_ m
  · exact h.of_frame ⟨rfl, rfl, rfl⟩ id ⟨rfl, rfl⟩
  · rintro ⟨hnone, -⟩
    cases hnone

private theorem obeys_liftExcept {α : Type} {result : Except String α} {post : CanaryLog → CanaryProgress → α → Prop}
    {failed : CanaryLog → CanaryProgress → CanaryError → Prop}
    (hpost : ∀ value, result = .ok value → post log progress value)
    (hfailed : ∀ e, failed log progress e) :
    (liftExcept result).Obeys (Admissible coordinator target) progress log post failed := by
  unfold liftExcept
  split
  · exact Procedure.obeys_pure (hpost _ rfl)
  · exact Procedure.obeys_throw (hfailed _)

/-- One more poll has passed its checks. -/
private theorem Sampled.record {n : Nat} {pod : CanaryPodObservation} {scrape : CanaryMetricsScrape}
    {observation : MetricObservation} (h : Sampled coordinator target n history progress)
    (hpod : PodPassed coordinator target progress.observedImageDigest pod)
    (hobservation : metricObservation coordinator.platform scrape target.roomId = .ok observation)
    (hmissing : missingReasons observation pod = []) :
    Sampled coordinator target (n + 1) { history with polls := history.polls ++ [⟨pod, scrape⟩] }
      (coordinator.record observation pod progress) := by
  have hmetrics : (⟨pod, scrape⟩ : CanaryPoll).metrics coordinator.platform target.roomId = some observation := by
    simp [CanaryPoll.metrics, hobservation]
  have hlimit : pod.memoryLimitBytes ≠ none := by
    intro hnone
    simp [missingReasons, hnone] at hmissing
  refine ⟨by simp [h.length], ?_, ?_, ?_, h.killed⟩
  · exact List.rel_append h.observed (List.Forall₂.cons hmetrics List.Forall₂.nil)
  · intro poll hpoll
    rcases List.mem_append.1 hpoll with hpoll | hpoll
    · exact h.passed poll hpoll
    · rw [List.mem_singleton.1 hpoll]
      exact hpod
  · intro poll hpoll
    rcases List.mem_append.1 hpoll with hpoll | hpoll
    · exact h.limited poll hpoll
    · rw [List.mem_singleton.1 hpoll]
      exact hlimit

private theorem obeys_pollMetrics {n : Nat} {pod : CanaryPodObservation}
    (h : Undecided (historyOf coordinator.platform log) progress)
    (hpod : (historyOf coordinator.platform log).pod = some pod) (hlatest : progress.latestPod = some pod)
    (hpassed : PodPassed coordinator target progress.observedImageDigest pod)
    (hsampled : progress.Clean → Sampled coordinator target n (historyOf coordinator.platform log) progress) :
    (coordinator.pollMetrics target pod).Obeys (Admissible coordinator target) progress log
      (fun log' s goesOn => AfterPoll coordinator target n (historyOf coordinator.platform log') s goesOn)
      fun log' s _ => Undecided (historyOf coordinator.platform log') s := by
  refine Procedure.obeys_bind (Procedure.obeys_perform h.undecided (fun scrape => ?_) fun e => ?_)
  · have h₁ : historyOf coordinator.platform (log ++ [⟨.scrape, .ok scrape⟩]) =
        { historyOf coordinator.platform log with
          polls := (historyOf coordinator.platform log).polls ++ [⟨pod, scrape⟩] } := by
      rw [historyOf_concat]
      simp [CanaryHistory.feed, CanaryHistory.scrape, hpod]
    generalize log ++ [_] = log₁ at h₁
    have hu : Undecided (historyOf coordinator.platform log₁) progress := by
      rw [h₁]
      exact h.of_frame ⟨rfl, rfl, rfl⟩ id ⟨rfl, rfl⟩
    refine Procedure.obeys_bind (obeys_liftExcept (fun url _ => ?_) fun _ => hu)
    refine Procedure.obeys_bind (obeys_liftExcept (fun endpoint _ => ?_) fun _ => hu)
    split
    · exact Procedure.obeys_throw hu
    · refine Procedure.obeys_bind (obeys_liftExcept (fun observation hobservation => ?_) fun _ => hu)
      refine Procedure.obeys_bind (Procedure.obeys_modify (Procedure.obeys_pure ?_))
      refine ⟨hu.of_frame ⟨rfl, rfl, rfl⟩ id ⟨rfl, rfl⟩, fun hclean => ?_, fun _ poll hlast => ?_⟩
      · obtain ⟨hreasons, hmissing⟩ := List.append_eq_nil_iff.1 hclean.2
        rw [h₁]
        exact Sampled.record (hsampled ⟨hclean.1, hreasons⟩) hpassed hobservation hmissing
      · rw [h₁, List.getLast?_concat] at hlast
        obtain rfl := Option.some.inj hlast
        exact hlatest
  · rw [historyOf_concat]
    exact h

private theorem obeys_poll {n : Nat} (h : Polling coordinator target n (historyOf coordinator.platform log) progress)
    {failed : CanaryLog → CanaryProgress → CanaryError → Prop} :
    (coordinator.poll target).Obeys (Admissible coordinator target) progress log
      (fun log' s goesOn => AfterPoll coordinator target n (historyOf coordinator.platform log') s goesOn) failed := by
  refine Procedure.obeys_tryCatch_through (fun log' s _ => Undecided (historyOf coordinator.platform log') s)
    (fun log' s e h' => ?_) ?_
  · -- the reason that is pushed keeps the validation from being approved
    refine Procedure.obeys_bind (Procedure.obeys_modify (Procedure.obeys_pure fun m => ?_))
    refine Undecided.polling ?_ (fun hclean => ?_) m
    · exact h'.of_frame ⟨rfl, rfl, rfl⟩ id ⟨rfl, rfl⟩
    · exact List.append_ne_nil_of_right_ne_nil _ (List.cons_ne_nil _ _) hclean.2
  refine Procedure.obeys_bind (obeys_observePod h.undecided (fun log₁ pod hvalid h₁ => ?_) fun log₁ e h₁ => ?_)
  · refine Procedure.obeys_bind (Procedure.obeys_modify (Procedure.obeys_bind (Procedure.obeys_get ?_)))
    have hkilled : (historyOf coordinator.platform log).oomKilled = true →
        (historyOf coordinator.platform log₁).oomKilled = true := by
      intro hk
      rw [h₁]
      simp [hk]
    have hu : ∀ {s : CanaryProgress}, s.evidenceIds = progress.evidenceIds →
        (s.oom.isSome = true → (historyOf coordinator.platform log₁).oomKilled = true) →
        Undecided (historyOf coordinator.platform log₁) s := by
      intro s hevidence hoom
      refine ⟨?_, ?_, hoom, fun hr => hkilled (h.reported ?_)⟩
      · rw [h₁]
        exact h.undecided
      · rw [h₁, hevidence]
        exact h.acknowledged
      · rw [h₁] at hr
        exact hr
    split
    · refine obeys_failHard ?_
      exact hu rfl fun hs => hkilled (h.oom hs)
    · rename_i himage
      split
      · refine obeys_failHard ?_
        exact hu rfl fun hs => hkilled (h.oom hs)
      · rename_i hisolated
        refine Procedure.obeys_bind (Procedure.obeys_modify ?_)
        split
        · rename_i oom hoom
          refine Procedure.obeys_bind (obeys_noteMissingUid fun reasons _ => obeys_failHard ?_)
          refine hu rfl fun _ => ?_
          rw [h₁]
          simp [hoom]
        · rename_i hoom
          have hnone : ∀ {s : CanaryProgress}, s.evidenceIds = progress.evidenceIds →
              s.oom = observedOom coordinator.platform pod → Undecided (historyOf coordinator.platform log₁) s := by
            intro s hevidence hs
            refine hu hevidence fun hsome => ?_
            rw [hs, hoom] at hsome
            cases hsome
          split
          · rename_i hready
            refine obeys_pollMetrics (hnone rfl rfl) ?_ rfl ?_ fun hclean => ?_
            · rw [h₁]
            · exact ⟨hready, observedIsolationError_eq_none_iff.1 hisolated, not_not.1 himage, hoom, hvalid⟩
            · have hs := h.sampled hclean
              rw [h₁]
              refine ⟨hs.length, hs.observed, hs.passed, hs.limited, fun hk => hs.killed ?_⟩
              simpa [hoom] using hk
          · refine obeys_failHard ?_
            exact hnone rfl rfl
  · rw [h₁]
    exact h.toUndecided

private theorem obeys_polls (attempts : Nat) {n : Nat}
    (h : Polling coordinator target n (historyOf coordinator.platform log) progress)
    {failed : CanaryLog → CanaryProgress → CanaryError → Prop} :
    (coordinator.polls target attempts).Obeys (Admissible coordinator target) progress log
      (fun log' s _ => Polling coordinator target (n + attempts) (historyOf coordinator.platform log') s) failed := by
  induction attempts generalizing log progress n with
  | zero => exact Procedure.obeys_pure h
  | succ attempts ih =>
    refine Procedure.obeys_bind ((obeys_poll h).mono (fun log₁ s goesOn h₁ => ?_) fun _ _ _ h => h)
    cases goesOn with
    | true =>
      have hnext := ih h₁
      rw [Nat.add_right_comm n 1 attempts] at hnext
      exact hnext
    | false => exact Procedure.obeys_pure (h₁ _)

/-! ### The decision -/

private theorem Polling.grown {n : Nat} (h : Polling coordinator target n history progress)
    (hgrown : Grown history progress history' progress') (hu : Undecided history' progress') :
    Polling coordinator target n history' progress' := by
  obtain ⟨acknowledged, evidenceIds, rfl, rfl⟩ := hgrown
  refine ⟨hu, fun hclean => ?_, h.last⟩
  have hs := h.sampled hclean
  exact ⟨hs.length, hs.observed, hs.passed, hs.limited, hs.killed⟩

private theorem obeys_publishSome {n : Nat} {publication : Option CanaryPublication}
    (h : Polling coordinator target n (historyOf coordinator.platform log) progress)
    (hplain : ∀ p, publication = some p → p.Plain ∧
      (p.isOomReport = true → (historyOf coordinator.platform log).oomKilled = true)) :
    (publishSome publication).Obeys (Admissible coordinator target) progress log
      (fun log' s _ => Polling coordinator target n (historyOf coordinator.platform log') s ∧
        Grown (historyOf coordinator.platform log) progress (historyOf coordinator.platform log') s)
      fun _ _ _ => True := by
  cases publication with
  | none => exact Procedure.obeys_pure ⟨h, _, _, rfl, rfl⟩
  | some p =>
    obtain ⟨hp, hreport⟩ := hplain p rfl
    exact (obeys_publishPlain h.toUndecided hp hreport).mono (fun _ _ _ h' => ⟨Polling.grown h h'.2 h'.1, h'.2⟩)
      fun _ _ _ _ => trivial

private theorem obeys_reports {n : Nat}
    (h : Polling coordinator target n (historyOf coordinator.platform log) progress) :
    reports.Obeys (Admissible coordinator target) progress log
      (fun log' s _ => Polling coordinator target n (historyOf coordinator.platform log') s) fun _ _ _ => True := by
  refine Procedure.obeys_bind (Procedure.obeys_get ?_)
  refine Procedure.obeys_bind ((obeys_publishSome h fun p hp => ?_).mono (fun log₁ s₁ _ h₁ => ?_) fun _ _ _ h => h)
  · obtain ⟨backlog, -, rfl⟩ := Option.map_eq_some_iff.1 hp
    exact ⟨⟨rfl, rfl⟩, fun hr => nomatch hr⟩
  refine Procedure.obeys_bind ((obeys_publishSome h₁.1 fun p hp => ?_).mono (fun log₂ s₂ _ h₂ => ?_) fun _ _ _ h => h)
  · obtain ⟨pressure, -, rfl⟩ := Option.map_eq_some_iff.1 hp
    exact ⟨⟨rfl, rfl⟩, fun hr => nomatch hr⟩
  refine (obeys_publishSome h₂.1 fun p hp => ?_).mono (fun _ _ _ h₃ => h₃.1) fun _ _ _ h => h
  obtain ⟨pod, -, hp⟩ := Option.bind_eq_some_iff.1 hp
  obtain ⟨oom, hoom, rfl⟩ := Option.map_eq_some_iff.1 hp
  -- the variables know of an OOM kill only where one was observed
  refine ⟨⟨rfl, rfl⟩, fun _ => h₂.1.oom ?_⟩
  obtain ⟨_, _, -, hs⟩ := h₁.2.trans h₂.2
  rw [hs]
  simp [hoom]

/-- After the polls, with the bots stopped if nothing has gone wrong. -/
private def Stopped (coordinator : CanaryValidationCoordinator) (target : CanaryValidationTarget) (n : Nat)
    (history : CanaryHistory) (progress : CanaryProgress) : Prop :=
  Polling coordinator target n history progress ∧ (progress.Clean → history.loadStopped = true)

private theorem obeys_stopLoad {n : Nat}
    (h : Polling coordinator target n (historyOf coordinator.platform log) progress) :
    stopLoad.Obeys (Admissible coordinator target) progress log
      (fun log' s _ => Stopped coordinator target n (historyOf coordinator.platform log') s) fun _ _ _ => True := by
  refine Procedure.obeys_bind (Procedure.obeys_get ?_)
  split
  · refine Procedure.obeys_bind (Procedure.obeys_modify (Procedure.obeys_tryCatch (Procedure.obeys_perform trivial
      (fun _ => ?_) fun e => ?_)))
    · rw [historyOf_concat]
      refine ⟨⟨h.toUndecided.of_frame ⟨rfl, rfl, rfl⟩ id ⟨rfl, rfl⟩, fun hclean => ?_, h.last⟩, fun _ => rfl⟩
      have hs := h.sampled hclean
      exact ⟨hs.length, hs.observed, hs.passed, hs.limited, hs.killed⟩
    · -- the reason that is pushed keeps the validation from being approved
      refine Procedure.obeys_modify ?_
      have hwrong : ∀ {s : CanaryProgress} {reason : String},
          ¬{ s with unavailableReasons := s.unavailableReasons ++ [reason] }.Clean := by
        rintro s reason ⟨-, hreasons⟩
        exact List.append_ne_nil_of_right_ne_nil _ (List.cons_ne_nil _ _) hreasons
      rw [historyOf_concat]
      refine ⟨Undecided.polling ?_ hwrong n, fun hclean => absurd hclean hwrong⟩
      exact h.toUndecided.of_frame ⟨rfl, rfl, rfl⟩ id ⟨rfl, rfl⟩
  · exact Procedure.obeys_throw trivial

/-- A decision that is not made without cause, and the bundle that seals it. -/
private theorem obeys_finalize {approved : Bool} {reasonCode : Option String} {reasons : List String} {startedAt : Int}
    {pod : Option CanaryPodObservation} (h : Undecided (historyOf coordinator.platform log) progress)
    (happroved : approved = true → Approvable coordinator target (historyOf coordinator.platform log)
      ⟨approved, reasonCode, reasons.eraseDups, progress.evidenceIds, pod⟩) :
    (finalize approved reasonCode reasons startedAt pod).Obeys (Admissible coordinator target) progress log
      (fun _ _ _ => True) fun _ _ _ => True := by
  refine Procedure.obeys_bind (Procedure.obeys_get ?_)
  refine Procedure.obeys_bind (Procedure.obeys_bind (Procedure.obeys_perform ⟨h.undecided, h.acknowledged, happroved⟩
    (fun eventId => ?_) fun _ => trivial))
  refine Procedure.obeys_modify ?_
  refine Procedure.obeys_bind (Procedure.obeys_perform trivial (fun observedTo => ?_) fun _ => trivial)
  refine Procedure.obeys_bind (Procedure.obeys_get ?_)
  refine Procedure.obeys_bind (Procedure.obeys_perform ?_ (fun _ => Procedure.obeys_pure trivial) fun _ => trivial)
  refine ⟨log, ⟨approved, reasonCode, reasons.eraseDups, progress.evidenceIds, pod⟩, eventId,
    [⟨.now, .ok observedTo⟩], ?_, rfl, rfl, rfl⟩
  rw [List.append_assoc]
  rfl

private theorem obeys_block {reasonCode : String} {startedAt : Int}
    (h : Undecided (historyOf coordinator.platform log) progress) :
    (block reasonCode startedAt).Obeys (Admissible coordinator target) progress log (fun _ _ _ => True)
      fun _ _ _ => True :=
  Procedure.obeys_bind (Procedure.obeys_get (obeys_finalize h fun hfalse => nomatch hfalse))

/-- A gate that is published and fails, and the blocked decision that follows. -/
private theorem obeys_publishBlock {publication : CanaryPublication} {reasonCode : String} {startedAt : Int}
    (h : Undecided (historyOf coordinator.platform log) progress) (hplain : publication.Plain)
    (hreport : publication.isOomReport = true → (historyOf coordinator.platform log).oomKilled = true) :
    (publish publication >>= fun _ => block reasonCode startedAt).Obeys (Admissible coordinator target) progress log
      (fun _ _ _ => True) fun _ _ _ => True :=
  Procedure.obeys_bind ((obeys_publishPlain h hplain hreport).mono (fun _ _ _ h₁ => obeys_block h₁.1) fun _ _ _ h => h)

private theorem obeys_publishAll {publications : List CanaryPublication}
    (h : Undecided (historyOf coordinator.platform log) progress)
    (hplain : ∀ p ∈ publications, p.Plain ∧ p.isOomReport = false) :
    (publishAll publications).Obeys (Admissible coordinator target) progress log
      (fun log' s _ => Undecided (historyOf coordinator.platform log') s ∧
        Grown (historyOf coordinator.platform log) progress (historyOf coordinator.platform log') s)
      fun _ _ _ => True := by
  induction publications generalizing log progress with
  | nil => exact Procedure.obeys_pure ⟨h, _, _, rfl, rfl⟩
  | cons p rest ih =>
    obtain ⟨hp, hreport⟩ := hplain p List.mem_cons_self
    refine Procedure.obeys_bind ((obeys_publishPlain h hp fun hr => absurd (hreport.symm.trans hr) (by decide)).mono
      (fun log₁ s₁ _ h₁ => ?_) fun _ _ _ h => h)
    refine (ih h₁.1 fun q hq => hplain q (List.mem_cons_of_mem _ hq)).mono (fun _ _ _ h₂ => ?_) fun _ _ _ h => h
    exact ⟨h₂.1, h₁.2.trans h₂.2⟩

/-- Where nothing has gone wrong and all gates pass, the polls bear an approval. -/
private theorem Stopped.approvable {n : Nat} {pod : CanaryPodObservation} {decision : CanaryDecision}
    (h : Stopped coordinator target n history progress) (hn : n = coordinator.options.validationPolls)
    (hclean : progress.Clean) (hpod : progress.latestPod = some pod)
    (hgates : ∀ gate ∈ metricGates coordinator.options progress.observations pod, gate.passed = true)
    (hcomplete : decision.unavailable = []) (hdecision : decision.pod = some pod) :
    Approvable coordinator target history decision := by
  obtain ⟨hpolling, hstopped⟩ := h
  have hs := hpolling.sampled hclean
  obtain ⟨hne, hwithin, hratio⟩ := (metricGates_passed_iff ..).1 hgates
  refine ⟨hs.length.trans hn, hcomplete, hstopped hclean, ⟨hs.killed, hpolling.reported⟩, ?_⟩
  obtain ⟨last, hlast⟩ : ∃ last, history.polls.getLast? = some last := by
    cases hpolls : history.polls.getLast? with
    | some last => exact ⟨last, rfl⟩
    | none =>
      have hnil := hs.observed
      rw [List.getLast?_eq_none_iff.1 hpolls] at hnil
      exact absurd (List.forall₂_nil_left_iff.1 hnil) hne
  obtain rfl : pod = last.pod := Option.some.inj (hpod.symm.trans (hpolling.last hclean last hlast))
  have hin : last ∈ history.polls := List.mem_of_getLast? hlast
  obtain ⟨limit, hlimit⟩ := Option.ne_none_iff_exists'.1 (hs.limited last hin)
  have hmemory := ((memoryRatio_within_iff coordinator.options progress.observations last.pod hlimit
    (memoryLimit_pos (hs.passed last hin).valid hlimit)).1 hratio).2
  refine ⟨last, hlast, hdecision, fun poll hpoll => ?_⟩
  obtain ⟨observation, hobservation, hmetrics⟩ := exists_of_forall₂ hs.observed poll hpoll
  have hp := hs.passed poll hpoll
  have himage : poll.pod.pod.imageDigest = last.pod.pod.imageDigest :=
    Option.some.inj (hp.image.trans (hs.passed last hin).image.symm)
  obtain ⟨used, hused, hle⟩ := hmemory observation hobservation
  exact ⟨⟨hp.ready, hp.isolated, himage, hp.alive, observation, hmetrics, hwithin observation hobservation⟩,
    observation, hmetrics, used, limit, hused, hlimit, hle⟩

private theorem gateReport_plain {observations : List MetricObservation} {pod : CanaryPodObservation} :
    ∀ p ∈ (metricGates coordinator.options observations pod).map coordinator.gateReport,
      p.Plain ∧ p.isOomReport = false := by
  intro p hp
  obtain ⟨gate, hgate, rfl⟩ := List.mem_map.1 hp
  refine ⟨⟨rfl, rfl⟩, ?_⟩
  simp only [metricGates, List.mem_cons, List.not_mem_nil, or_false] at hgate
  rcases hgate with rfl | rfl | rfl | rfl | rfl | rfl | rfl | rfl | rfl <;> rfl

private theorem obeys_judge {n : Nat} (startedAt : Int)
    (h : Stopped coordinator target n (historyOf coordinator.platform log) progress)
    (hn : n = coordinator.options.validationPolls) (hclean : progress.Clean) :
    (coordinator.judge startedAt).Obeys (Admissible coordinator target) progress log (fun _ _ _ => True)
      fun _ _ _ => True := by
  refine Procedure.obeys_bind (Procedure.obeys_get ?_)
  split
  · exact Procedure.obeys_throw trivial
  · rename_i pod hpod
    refine Procedure.obeys_bind ((obeys_publishAll h.1.toUndecided gateReport_plain).mono (fun log₁ s₁ _ h₁ => ?_)
      fun _ _ _ h => h)
    obtain ⟨hu, hgrown⟩ := h₁
    refine obeys_finalize hu fun happroved => ?_
    have hstopped : Stopped coordinator target n (historyOf coordinator.platform log₁) s₁ := by
      refine ⟨Polling.grown h.1 hgrown hu, fun _ => ?_⟩
      obtain ⟨_, _, hhistory, -⟩ := hgrown
      rw [hhistory]
      exact h.2 hclean
    obtain ⟨_, _, -, rfl⟩ := hgrown
    refine hstopped.approvable hn hclean hpod (fun gate hgate => ?_) ?_ rfl
    · have hnone := List.find?_eq_none.1 (Option.isNone_iff_eq_none.1 happroved) gate hgate
      simpa using hnone
    · dsimp only
      rw [hclean.2]
      rfl

private theorem obeys_conclude {n : Nat} (startedAt : Int)
    (h : Stopped coordinator target n (historyOf coordinator.platform log) progress)
    (hn : n = coordinator.options.validationPolls) :
    (coordinator.conclude startedAt).Obeys (Admissible coordinator target) progress log (fun _ _ _ => True)
      fun _ _ _ => True := by
  have hu := h.1.toUndecided
  refine Procedure.obeys_bind (Procedure.obeys_get ?_)
  split
  · rename_i oom hoom
    refine obeys_publishBlock hu ⟨rfl, rfl⟩ fun _ => hu.oom ?_
    rw [hoom]
    rfl
  · split
    · exact obeys_publishBlock hu ⟨rfl, rfl⟩ fun hr => nomatch hr
    · split
      · exact obeys_publishBlock hu ⟨rfl, rfl⟩ fun hr => nomatch hr
      · exact Procedure.obeys_throw trivial
  · rename_i hfailure
    dsimp only
    split
    · refine Procedure.obeys_bind (Procedure.Obeys.mono (fun log₁ s₁ _ h₁ => ?_) (fun _ _ _ h => h)
        (obeys_publishPlain hu ⟨rfl, rfl⟩ fun hr => ?_))
      · exact obeys_finalize h₁.1 fun hfalse => nomatch hfalse
      · cases hr
    · rename_i hsome
      rw [not_or, not_not] at hsome
      refine obeys_judge startedAt h hn ⟨hfailure, ?_⟩
      cases hreasons : progress.unavailableReasons with
      | nil => rfl
      | cons reason rest =>
        rw [hreasons, List.eraseDups_cons] at hsome
        exact absurd hsome.2 (List.cons_ne_nil _ _)

/-! ### The whole validation -/

private theorem obeys_underLoad (pod : CanaryPodObservation) (startedAt : Int)
    (h : Waiting (historyOf coordinator.platform log) progress) :
    (coordinator.underLoad target pod startedAt).Obeys (Admissible coordinator target) progress log (fun _ _ _ => True)
      fun _ _ _ => True := by
  refine Procedure.obeys_bind ((obeys_startLoad pod h).mono (fun log₁ s₁ started h₁ => ?_) fun _ _ _ h => h)
  split
  · have hstart : Polling coordinator target 0 (historyOf coordinator.platform log₁) s₁ := by
      refine ⟨h₁.toUndecided, fun _ => ⟨?_, ?_, ?_, ?_, h₁.killed⟩, fun _ poll hlast => ?_⟩
      · rw [h₁.polls]
        rfl
      · rw [h₁.polls, h₁.observations]
        exact List.Forall₂.nil
      · rw [h₁.polls]
        exact fun poll hpoll => absurd hpoll List.not_mem_nil
      · rw [h₁.polls]
        exact fun poll hpoll => absurd hpoll List.not_mem_nil
      · rw [h₁.polls] at hlast
        cases hlast
    refine Procedure.obeys_bind ((obeys_polls coordinator.options.validationPolls hstart).mono
      (fun log₂ s₂ _ h₂ => ?_) fun _ _ _ h => h)
    refine Procedure.obeys_bind ((obeys_reports h₂).mono (fun log₃ s₃ _ h₃ => ?_) fun _ _ _ h => h)
    refine Procedure.obeys_bind ((obeys_stopLoad h₃).mono (fun log₄ s₄ _ h₄ => ?_) fun _ _ _ h => h)
    exact obeys_conclude startedAt h₄ (Nat.zero_add _)
  · exact obeys_block h₁.toUndecided

private theorem obeys_cleanUp {failed : CanaryLog → CanaryProgress → CanaryError → Prop} :
    cleanUp.Obeys (Admissible coordinator target) progress log (fun _ _ _ => True) failed := by
  refine Procedure.obeys_bind (Procedure.obeys_get ?_)
  split
  · split
    · exact Procedure.obeys_pure trivial
    · exact Procedure.obeys_tryCatch (Procedure.obeys_perform trivial (fun _ => trivial) fun _ =>
        Procedure.obeys_pure trivial)
  · exact Procedure.obeys_pure trivial

private theorem obeys_withCleanUp {α : Type} {body : Validation α}
    (h : body.Obeys (Admissible coordinator target) progress log (fun _ _ _ => True) fun _ _ _ => True) :
    (withCleanUp body).Obeys (Admissible coordinator target) progress log (fun _ _ _ => True) fun _ _ _ => True := by
  refine Procedure.obeys_bind (Procedure.obeys_tryCatch (h.mono (fun _ _ _ _ => ?_) fun _ _ _ _ => ?_))
  · refine Procedure.obeys_bind (obeys_cleanUp.mono (fun _ _ _ _ => Procedure.obeys_pure trivial) fun _ _ _ h => h)
  · exact Procedure.obeys_bind (obeys_cleanUp.mono (fun _ _ _ _ => Procedure.obeys_throw trivial) fun _ _ _ h => h)

private theorem obeys_unready (startedAt : Int) (h : Undecided (historyOf coordinator.platform log) progress) :
    (coordinator.unready startedAt).Obeys (Admissible coordinator target) progress log (fun _ _ _ => True)
      fun _ _ _ => True := by
  refine Procedure.obeys_bind (Procedure.obeys_get ?_)
  dsimp only
  split
  · exact obeys_publishBlock h ⟨rfl, rfl⟩ fun hr => nomatch hr
  · split
    · exact obeys_publishBlock h ⟨rfl, rfl⟩ fun hr => nomatch hr
    · refine Procedure.obeys_bind (Procedure.obeys_modify (obeys_publishBlock ?_ ⟨rfl, rfl⟩ fun hr => nomatch hr))
      exact h.of_frame ⟨rfl, rfl, rfl⟩ id ⟨rfl, rfl⟩

/-- Once the readiness is decided a pod is put under load, or the canary is reported unready. -/
private theorem obeys_readied (startedAt : Int) (hu : Undecided (historyOf coordinator.platform log) progress)
    (hw : presentText progress.readinessFailure = none → Waiting (historyOf coordinator.platform log) progress) :
    Procedure.Obeys (Admissible coordinator target)
      (match readyPod progress with
        | none => coordinator.unready startedAt
        | some pod => publish (.ready pod) >>= fun _ => withCleanUp (coordinator.underLoad target pod startedAt))
      progress log (fun _ _ _ => True) fun _ _ _ => True := by
  split
  · exact obeys_unready startedAt hu
  · rename_i pod hpod
    have hnone : presentText progress.readinessFailure = none := by
      unfold readyPod at hpod
      split at hpod
      · cases hpod
      · rename_i hfailure
        simpa using hfailure
    refine Procedure.obeys_bind (Procedure.Obeys.mono (fun log' s' _ h => ?_) (fun _ _ _ h => h)
      (obeys_publishPlain hu ⟨rfl, rfl⟩ fun hr => ?_))
    · exact obeys_withCleanUp (obeys_underLoad pod startedAt ((hw hnone).grown h.2 h.1))
    · cases hr

private theorem obeys_validateOperation (coordinator : CanaryValidationCoordinator) (target : CanaryValidationTarget) :
    (coordinator.validateOperation target).Obeys (Admissible coordinator target) {} [] (fun _ _ _ => True)
      fun _ _ _ => True := by
  have hstart : Waiting (historyOf coordinator.platform []) ({} : CanaryProgress) := by
    refine ⟨⟨rfl, fun _ hid => absurd hid List.not_mem_nil, fun hs => ?_, fun hr => ?_⟩, rfl, rfl, fun hk => ?_⟩
    · cases hs
    · cases hr
    · cases hk
  refine Procedure.obeys_bind (Procedure.obeys_perform trivial (fun startedAt => ?_) fun _ => trivial)
  have h₁ : Waiting (historyOf coordinator.platform ([] ++ [⟨.now, .ok startedAt⟩])) ({} : CanaryProgress) := by
    rw [historyOf_concat]
    exact hstart
  refine Procedure.obeys_bind (Procedure.Obeys.mono (fun log₂ s₂ _ h₂ => ?_) (fun _ _ _ h => h)
    (obeys_publishPlain h₁.toUndecided ⟨rfl, rfl⟩ fun hr => ?_))
  swap
  · cases hr
  refine Procedure.obeys_bind (Procedure.obeys_perform trivial (fun readinessStarted => ?_) fun _ => trivial)
  have h₃ : Waiting (historyOf coordinator.platform (log₂ ++ [⟨.now, .ok readinessStarted⟩])) s₂ := by
    rw [historyOf_concat]
    exact h₁.grown h₂.2 h₂.1
  refine Procedure.obeys_bind ((obeys_readiness readinessStarted coordinator.options.maxReadinessPolls h₃).mono
    (fun log₄ s₄ step h₄ => ?_) fun _ _ _ h => h)
  cases step with
  | killed => exact obeys_block h₄
  | again => exact Procedure.obeys_bind (Procedure.obeys_get (obeys_readied startedAt h₄.toUndecided fun _ => h₄))
  | stop => exact Procedure.obeys_bind (Procedure.obeys_get (obeys_readied startedAt h₄.1 h₄.2))

/-- A canary validation makes admissible calls only, whatever it is answered. -/
theorem validateOperation_admissible (coordinator : CanaryValidationCoordinator) (target : CanaryValidationTarget) :
    ((coordinator.validateOperation target).script {}).Obeys (Admissible coordinator target) (fun _ _ => True) [] :=
  Script.Obeys.mono (fun _ _ _ => trivial) (obeys_validateOperation coordinator target)

end CanaryValidationCoordinator

end Canary

end Opsia
