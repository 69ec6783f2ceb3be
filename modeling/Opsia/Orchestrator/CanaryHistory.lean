import Opsia.Orchestrator.Canary

/-!
# What a canary validation is fed

`CanaryHistory` is what a canary validation has been fed, read off its exchanges: its polls, whether an OOM kill was
observed and whether a report of one failed, whether the bots were stopped, and the events that were acknowledged.
`Admissible` says when a call may follow a history: pods are observed and events published only before the decision, a
decision to approve follows polls that have all passed, and a bundle follows its decision.
-/

namespace Opsia

open Json

namespace Canary

/-! ### Histories -/

/-- A validation poll: a pod, and the scrape that followed its observation. -/
structure CanaryPoll where
  pod : CanaryPodObservation
  scrape : CanaryMetricsScrape

structure CanaryHistory where
  pod : Option CanaryPodObservation := none
  polls : List CanaryPoll := []
  oomKilled : Bool := false
  oomReportFailed : Bool := false
  loadStopped : Bool := false
  acknowledged : List String := []
  decided : Bool := false

/-- The event of an OOM kill, and the gate it fails. -/
def CanaryPublication.isOomReport : CanaryPublication → Bool
  | .oomKilled .. => true
  | .metricGate report => decide (report.metricName = "container_oom_killed")
  | _ => false

def CanaryPublication.isDecision : CanaryPublication → Bool
  | .decision _ => true
  | _ => false

def CanaryPublication.isBundle : CanaryPublication → Bool
  | .bundle _ => true
  | _ => false

abbrev CanaryExchange := Exchange fun c : CanaryCall => Except CanaryError c.Result

/-- A valid observation of a pod. -/
def CanaryHistory.observe (platform : Platform) (history : CanaryHistory) (pod : CanaryPodObservation) :
    CanaryHistory :=
  match validatePodObservation platform pod with
  | .ok _ => { history with
      pod := some pod, oomKilled := history.oomKilled || (observedOom platform pod).isSome }
  | .error _ => history

def CanaryHistory.scrape (history : CanaryHistory) (scrape : CanaryMetricsScrape) : CanaryHistory :=
  match history.pod with
  | some pod => { history with polls := history.polls ++ [⟨pod, scrape⟩] }
  | none => history

/-- The answer of a publication; nothing is made of the bundle, which comes last. -/
def CanaryHistory.published (history : CanaryHistory) (publication : CanaryPublication) :
    Except CanaryError String → CanaryHistory
  | .ok eventId => { history with
      acknowledged := history.acknowledged ++ (if publication.isBundle then [] else [eventId])
      decided := history.decided || publication.isDecision }
  | .error _ => { history with
      oomReportFailed := history.oomReportFailed || publication.isOomReport
      decided := history.decided || publication.isDecision }

def CanaryHistory.feed (platform : Platform) (history : CanaryHistory) : CanaryExchange → CanaryHistory
  | ⟨.observe, .ok pod⟩ => history.observe platform pod
  | ⟨.scrape, .ok scrape⟩ => history.scrape scrape
  | ⟨.stopBots _, .ok _⟩ => { history with loadStopped := true }
  | ⟨.publish publication, answer⟩ => history.published publication answer
  | _ => history

/-- What a canary validation has been fed. -/
def historyOf (platform : Platform) (log : CanaryLog) : CanaryHistory := log.foldl (CanaryHistory.feed platform) {}

@[simp] theorem historyOf_concat (platform : Platform) (log : CanaryLog) (e : CanaryExchange) :
    historyOf platform (log ++ [e]) = (historyOf platform log).feed platform e := by
  simp [historyOf]

/-! ### What may be done -/

/-- The metrics that are read off a poll's scrape. -/
def CanaryPoll.metrics (platform : Platform) (roomId : String) (poll : CanaryPoll) : Option MetricObservation :=
  match metricObservation platform poll.scrape roomId with
  | .ok observation => some observation
  | .error _ => none

/-- The poll observed the canary's pod, ready, isolated, with this image and not killed for its memory, and every
required metric but the memory present and within its threshold. -/
structure PollPassed (coordinator : CanaryValidationCoordinator) (target : CanaryValidationTarget)
    (imageDigest : String) (poll : CanaryPoll) : Prop where
  ready : podReady poll.pod = true
  isolated : Isolated poll.pod target coordinator.isolation
  image : poll.pod.pod.imageDigest = imageDigest
  alive : observedOom coordinator.platform poll.pod = none
  metrics : ∃ observation, poll.metrics coordinator.platform target.roomId = some observation ∧
    MetricsWithin coordinator.options observation

/-- The working set that the poll read is within the threshold share of the memory limit of this pod. -/
def PollMemoryWithin (coordinator : CanaryValidationCoordinator) (target : CanaryValidationTarget)
    (pod : CanaryPodObservation) (poll : CanaryPoll) : Prop :=
  ∃ observation, poll.metrics coordinator.platform target.roomId = some observation ∧
    MemoryWithin coordinator.options pod observation

/-- What a decision to approve rests on; the memory is measured by the pod that was observed last. -/
structure Approvable (coordinator : CanaryValidationCoordinator) (target : CanaryValidationTarget)
    (history : CanaryHistory) (decision : CanaryDecision) : Prop where
  finished : history.polls.length = coordinator.options.validationPolls
  complete : decision.unavailable = []
  stopped : history.loadStopped = true
  killed : history.oomKilled = true ↔ history.oomReportFailed = true
  polls : ∃ last, history.polls.getLast? = some last ∧ decision.pod = some last.pod ∧
    ∀ poll ∈ history.polls, PollPassed coordinator target last.pod.pod.imageDigest poll ∧
      PollMemoryWithin coordinator target last.pod poll

/-- The decision was published and acknowledged, and the bundle says the same. -/
def Seals (log : CanaryLog) (bundle : EvidenceBundle) : Prop :=
  ∃ (before : CanaryLog) (decision : CanaryDecision) (eventId : String) (after : CanaryLog),
    log = before ++ ⟨.publish (.decision decision), .ok eventId⟩ :: after ∧ bundle.unavailable = decision.unavailable ∧
      bundle.pod = decision.pod ∧ bundle.evidenceIds = decision.evidenceIds ++ [eventId]

/-- When a call may follow the exchanges before it. -/
def Admissible (coordinator : CanaryValidationCoordinator) (target : CanaryValidationTarget) (log : CanaryLog) :
    CanaryCall → Prop
  | .publish (.decision decision) =>
    (historyOf coordinator.platform log).decided = false ∧
      (∀ eventId ∈ (historyOf coordinator.platform log).acknowledged, eventId ∈ decision.evidenceIds) ∧
      (decision.approved = true → Approvable coordinator target (historyOf coordinator.platform log) decision)
  | .publish (.bundle bundle) => Seals log bundle
  | .publish publication =>
    (historyOf coordinator.platform log).decided = false ∧
      (publication.isOomReport = true → (historyOf coordinator.platform log).oomKilled = true)
  | .observe | .scrape => (historyOf coordinator.platform log).decided = false
  | .startBots | .stopBots _ | .now => True

variable {coordinator : CanaryValidationCoordinator} {target : CanaryValidationTarget} {log : CanaryLog}
  {history : CanaryHistory}

/-! ### After the decision -/

private theorem feed_decided {platform : Platform} (h : history.decided = true) (e : CanaryExchange) :
    (history.feed platform e).decided = true := by
  obtain ⟨call, answer⟩ := e
  cases call with
  | publish publication => cases answer <;> simp [CanaryHistory.feed, CanaryHistory.published, h]
  | observe =>
    cases answer with
    | error e => exact h
    | ok pod =>
      simp only [CanaryHistory.feed, CanaryHistory.observe]
      split <;> exact h
  | scrape =>
    cases answer with
    | error e => exact h
    | ok scrape =>
      simp only [CanaryHistory.feed, CanaryHistory.scrape]
      split <;> exact h
  | stopBots run => cases answer <;> exact h
  | _ => exact h

private theorem decided_append {platform : Platform} (h : (historyOf platform log).decided = true) (more : CanaryLog) :
    (historyOf platform (log ++ more)).decided = true := by
  induction more generalizing log with
  | nil => rwa [List.append_nil]
  | cons e more ih =>
    rw [List.append_cons]
    refine ih ?_
    rw [historyOf_concat]
    exact feed_decided h e

/-- Once a decision has been published the history says so. -/
theorem decided_of_mem {platform : Platform} {decision : CanaryDecision} {answer : Except CanaryError String}
    (h : (⟨.publish (.decision decision), answer⟩ : CanaryExchange) ∈ log) :
    (historyOf platform log).decided = true := by
  obtain ⟨before, after, rfl⟩ := List.append_of_mem h
  rw [List.append_cons]
  refine decided_append ?_ after
  rw [historyOf_concat]
  cases answer <;> simp [CanaryHistory.feed, CanaryHistory.published, CanaryPublication.isDecision]

/-- Nothing more has been found. -/
structure SameFindings (history history' : CanaryHistory) : Prop where
  polls : history'.polls = history.polls
  oomKilled : history'.oomKilled = history.oomKilled
  oomReportFailed : history'.oomReportFailed = history.oomReportFailed
  acknowledged : history'.acknowledged = history.acknowledged
  loadStopped : history.loadStopped = true → history'.loadStopped = true

private theorem feed_late {e : CanaryExchange} (hdecided : (historyOf coordinator.platform log).decided = true)
    (hadmissible : Admissible coordinator target log e.call) :
    SameFindings (historyOf coordinator.platform log)
      ((historyOf coordinator.platform log).feed coordinator.platform e) := by
  have hnot : ∀ {P : Prop}, (historyOf coordinator.platform log).decided = false → P := fun hfalse =>
    absurd (hdecided.symm.trans hfalse) (by decide)
  obtain ⟨call, answer⟩ := e
  cases call with
  | publish publication =>
    cases publication with
    | bundle bundle =>
      cases answer <;>
        exact ⟨rfl, rfl, by simp [CanaryHistory.feed, CanaryHistory.published, CanaryPublication.isOomReport],
          by simp [CanaryHistory.feed, CanaryHistory.published, CanaryPublication.isBundle], id⟩
    | _ => exact hnot hadmissible.1
  | observe => exact hnot hadmissible
  | scrape => exact hnot hadmissible
  | stopBots run =>
    cases answer with
    | ok _ => exact ⟨rfl, rfl, rfl, rfl, fun _ => rfl⟩
    | error _ => exact ⟨rfl, rfl, rfl, rfl, id⟩
  | _ => exact ⟨rfl, rfl, rfl, rfl, id⟩

/-- After the decision nothing more is found. -/
theorem sameFindings_of_decided {before after : CanaryLog}
    (hdecided : (historyOf coordinator.platform before).decided = true)
    (hadmissible : ∀ earlier e later, before ++ after = earlier ++ e :: later →
      Admissible coordinator target earlier e.call) :
    SameFindings (historyOf coordinator.platform before) (historyOf coordinator.platform (before ++ after)) := by
  induction after using List.reverseRecOn with
  | nil =>
    rw [List.append_nil]
    exact ⟨rfl, rfl, rfl, rfl, id⟩
  | append_singleton after e ih =>
    have hearlier := ih fun earlier e' later h => hadmissible earlier e' (later ++ [e]) (by
      rw [← List.append_assoc, h]
      simp)
    have hlast := hadmissible (before ++ after) e [] (by simp)
    have hlate := feed_late (decided_append hdecided after) hlast
    rw [← List.append_assoc, historyOf_concat]
    exact ⟨hlate.polls.trans hearlier.polls, hlate.oomKilled.trans hearlier.oomKilled,
      hlate.oomReportFailed.trans hearlier.oomReportFailed, hlate.acknowledged.trans hearlier.acknowledged,
      fun h => hlate.loadStopped (hearlier.loadStopped h)⟩

end Canary

end Opsia
