import Mathlib.Algebra.Order.Floor.Ring
import Mathlib.Data.Rat.Floor
import Opsia.BotBrain.ExactNumber
import Opsia.Machine
import Opsia.OpsConsole.AdmissionLoad

/-!
# The verdict of the admission load

The admission load with what it measures: the requests of a job, the samples they leave, and the evaluations of its
ramp.  The loop of a job runs up to its sleep in one piece; an answer to a request comes between two rounds.  Every
reading of the clock is its own.  A job keeps, for the record, what its evaluations saw (`RampEvaluation`); the verdict
compares a percentage that is rounded to one decimal place, so it may count an evaluation that saw too few failures
(`NearMiss`).  Left out are the endpoint, what a request says, and what a status shows besides the rate of failures.
-/

namespace Opsia

/-! ### Settings -/

/-- The options as they are given; one that is missing has a default. -/
structure AdmissionSettingsInput where
  initialRps : Option ExactNumber := none
  rampStepRps : Option ExactNumber := none
  rampIntervalMs : Option ExactNumber := none
  maximumRps : Option ExactNumber := none
  failureThreshold : Option ExactNumber := none
  failureConfirmations : Option ExactNumber := none
  minimumSamples : Option ExactNumber := none
  metricWindowMs : Option ExactNumber := none
  safetyTtlMs : Option ExactNumber := none

/-- The settings of a controller, which are checked when it is made. -/
structure AdmissionSettings where
  initialRps : ℤ
  rampStepRps : ℤ
  rampIntervalMs : ℤ
  maximumRps : ℤ
  failureThreshold : ExactNumber
  failureConfirmations : ℤ
  minimumSamples : ℤ
  metricWindowMs : ℤ
  safetyTtlMs : ℤ
  initial_le : initialRps ≤ maximumRps
  step_pos : 1 ≤ rampStepRps
  confirmations_pos : 1 ≤ failureConfirmations
  samples_pos : 1 ≤ minimumSamples
  threshold_ratio : (failureThreshold.le (.finite 0) || (ExactNumber.finite 1).le failureThreshold) = false

def boundedInteger (value : ExactNumber) (minimum maximum : ℤ) (name : String) :
    Except String { v : ℤ // minimum ≤ v ∧ v ≤ maximum } :=
  match value with
  | .finite q =>
    if h : q.den = 1 ∧ minimum ≤ q.num ∧ q.num ≤ maximum then .ok ⟨q.num, h.2⟩ else .error (name ++ "_invalid")
  | _ => .error (name ++ "_invalid")

def AdmissionSettings.create (options : AdmissionSettingsInput) : Except String AdmissionSettings := do
  let initialRps ← boundedInteger (options.initialRps.getD (.finite 40)) 1 1000 "admission_initial_rps"
  let rampStepRps ← boundedInteger (options.rampStepRps.getD (.finite 40)) 1 1000 "admission_ramp_step_rps"
  let rampIntervalMs ← boundedInteger (options.rampIntervalMs.getD (.finite 2000)) 500 60000
    "admission_ramp_interval_ms"
  let maximumRps ← boundedInteger (options.maximumRps.getD (.finite 400)) initialRps 5000 "admission_maximum_rps"
  let failureThreshold := options.failureThreshold.getD (.finite (2 / 10))
  let failureConfirmations ← boundedInteger (options.failureConfirmations.getD (.finite 2)) 1 10
    "admission_failure_confirmations"
  let minimumSamples ← boundedInteger (options.minimumSamples.getD (.finite 20)) 1 100000 "admission_minimum_samples"
  let metricWindowMs ← boundedInteger (options.metricWindowMs.getD (.finite 60000)) 1000 120000
    "admission_metric_window_ms"
  let safetyTtlMs ← boundedInteger (options.safetyTtlMs.getD (.finite (30 * 60000))) 10000 (30 * 60000)
    "admission_safety_ttl_ms"
  if h : (failureThreshold.le (.finite 0) || (ExactNumber.finite 1).le failureThreshold) = true then
    .error "admission_load_ratio_invalid"
  else
    .ok
      { initialRps, rampStepRps, rampIntervalMs, maximumRps, failureThreshold, failureConfirmations, minimumSamples
        metricWindowMs, safetyTtlMs
        initial_le := maximumRps.2.1
        step_pos := rampStepRps.2.1
        confirmations_pos := failureConfirmations.2.1
        samples_pos := minimumSamples.2.1
        threshold_ratio := Bool.eq_false_iff.2 h }

/-! ### Jobs -/

structure AdmissionSample where
  «at» : ℚ
  accepted : Bool
  rateLimited : Bool
  durationMs : ℚ
deriving DecidableEq

inductive SaturationReason
  | failureThreshold
  | maximumLoad
deriving DecidableEq

/-- What an evaluation of the ramp saw: the samples in the window, those that failed, and the target rate then. -/
structure RampEvaluation where
  targetRps : ℤ
  samples : ℕ
  failed : ℕ
deriving DecidableEq

structure MeasuredJob where
  jobId : String
  roomId : String
  phase : AdmissionLoadPhase
  startedAtMs : ℚ
  expiresAtMs : ℚ
  targetRps : ℤ
  requests : ℕ
  issued : ℕ
  accepted : ℕ
  rateLimited : ℕ
  rejected : ℕ
  nextRampAtMs : ℚ
  consecutiveFailureWindows : ℕ
  incidentTriggered : Bool
  saturationReason : Option SaturationReason
  error : Option String
  samples : List AdmissionSample
  /-- `controller.signal.aborted` -/
  aborted : Bool
  /-- The loop has not ended, and what it keeps from round to round. -/
  looping : Bool
  carry : ℚ
  previous : ℚ
  /-- The requests without an answer yet, with the times at which they were issued. -/
  inFlight : List (ℕ × ℚ)
  /-- The evaluations so far, the earliest first. -/
  evaluations : List RampEvaluation
deriving DecidableEq

/-- `Number(value.toFixed(1))`, for a value that is not negative -/
def toFixed1 (value : ℚ) : ℚ := ⌊value * 10 + 1 / 2⌋ / 10

def failedSamples (samples : List AdmissionSample) : ℕ :=
  let accepted := (samples.filter AdmissionSample.accepted).length
  let rateLimited := (samples.filter AdmissionSample.rateLimited).length
  let rejected := samples.length - accepted - rateLimited
  rateLimited + rejected

/-- The percentage of failed samples as a status shows it. -/
def failureRatePercent (failed total : ℕ) : ℚ := toFixed1 (if total = 0 then 0 else failed / total * 100)

/-- `failureRatePercent >= failureThreshold * 100` -/
def reachesThreshold (threshold : ExactNumber) (percent : ℚ) : Bool :=
  match threshold with
  | .finite q => decide (q * 100 ≤ percent)
  | .infinity neg => neg
  | .nan => false

/-- The readings of the clock in a round. -/
structure RoundClock where
  now : ℚ
  issuedAt : ℕ → ℚ
  due : ℚ
  seen : ℚ
  counted : ℚ
  next : ℚ

namespace MeasuredJob

/-- `samples(job)` at a reading of the clock -/
def samplesAt (job : MeasuredJob) (settings : AdmissionSettings) (now : ℚ) : List AdmissionSample :=
  job.samples.filter fun sample => decide (now - settings.metricWindowMs ≤ sample.at)

/-- A request goes out, unless the job is aborted. -/
def issue (job : MeasuredJob) (startedAt : ℚ) : MeasuredJob :=
  if job.aborted then job
  else { job with issued := job.issued + 1, inFlight := job.inFlight ++ [(job.issued + 1, startedAt)] }

/-- The answer to a request: the status of the response, if there is one. -/
def answer (job : MeasuredJob) (settings : AdmissionSettings) (sequence : ℕ) (startedAt : ℚ) (response : Option ℕ)
    (now finished cutoffNow : ℚ) : MeasuredJob :=
  let job := { job with inFlight := job.inFlight.filter fun request => decide (request.1 ≠ sequence) }
  if job.aborted then job
  else
    let accepted := response.any fun status => decide (200 ≤ status ∧ status ≤ 299)
    let rateLimited := response.any fun status => decide (status = 429)
    let sample : AdmissionSample := ⟨now, accepted, rateLimited, max 0 (finished - startedAt)⟩
    let retentionCutoff := cutoffNow - settings.metricWindowMs * 6
    { job with
      requests := job.requests + 1
      accepted := if accepted then job.accepted + 1 else job.accepted
      rateLimited := if !accepted && rateLimited then job.rateLimited + 1 else job.rateLimited
      rejected := if !accepted && !rateLimited then job.rejected + 1 else job.rejected
      samples := (job.samples ++ [sample]).dropWhile fun sample => decide (sample.at < retentionCutoff) }

def evaluateRamp (settings : AdmissionSettings) (clock : RoundClock) (job : MeasuredJob) : MeasuredJob :=
  if job.phase ≠ .ramping ∨ clock.due < job.nextRampAtMs then job
  else
    let seen := job.samplesAt settings clock.seen
    let enoughSamples := decide (settings.minimumSamples ≤ (job.samplesAt settings clock.counted).length)
    let evaluated : MeasuredJob :=
      { job with evaluations := job.evaluations ++ [⟨job.targetRps, seen.length, failedSamples seen⟩] }
    if enoughSamples && reachesThreshold settings.failureThreshold
        (failureRatePercent (failedSamples seen) seen.length) then
      let job : MeasuredJob :=
        { evaluated with
          consecutiveFailureWindows := job.consecutiveFailureWindows + 1
          nextRampAtMs := clock.next + settings.rampIntervalMs }
      if settings.failureConfirmations ≤ job.consecutiveFailureWindows then
        { job with phase := .saturated, incidentTriggered := true, saturationReason := some .failureThreshold }
      else job
    else
      let job : MeasuredJob := { evaluated with consecutiveFailureWindows := 0 }
      if settings.maximumRps ≤ job.targetRps then
        { job with
          phase := .saturated
          saturationReason := some .maximumLoad
          nextRampAtMs := clock.next + settings.rampIntervalMs }
      else
        { job with
          targetRps := min settings.maximumRps (job.targetRps + settings.rampStepRps)
          nextRampAtMs := clock.next + settings.rampIntervalMs }

/-- The loop throws. -/
def failWith (job : MeasuredJob) (error : String) : MeasuredJob :=
  { job with phase := .failed, error := some error, aborted := true, looping := false }

/-- The requests of a round, which depend on the time since the last one. -/
def issueDue (clock : RoundClock) (job : MeasuredJob) : MeasuredJob :=
  let elapsedMs := max 1 (clock.now - job.previous)
  let stalled := decide (250 < elapsedMs)
  let effectiveElapsedMs := if stalled then 100 else elapsedMs
  let perTickLimit : ℚ := max 1 ⌈(job.targetRps * 100 / 1000 : ℚ)⌉
  let carry := min perTickLimit ((if stalled then 0 else job.carry) + job.targetRps * effectiveElapsedMs / 1000)
  let count := ⌊carry⌋
  (List.range count.toNat).foldl (fun job index => job.issue (clock.issuedAt index))
    { job with previous := clock.now, carry := carry - count }

/-- A round of the loop, up to the sleep; what it evaluates may throw. -/
def round (settings : AdmissionSettings) (clock : RoundClock) (thrown : Option String) (job : MeasuredJob) :
    MeasuredJob :=
  if job.aborted then { job with looping := false }
  else if job.expiresAtMs ≤ clock.now then
    { job with phase := .safetyTimeout, aborted := true, looping := false }
  else
    match thrown with
    | some error => (job.issueDue clock).failWith error
    | none => (job.issueDue clock).evaluateRamp settings clock

end MeasuredJob

/-! ### The controller -/

structure MeasuredLoad where
  jobs : List MeasuredJob
  activeJobId : Option String
deriving DecidableEq

namespace MeasuredLoad

def empty : MeasuredLoad := ⟨[], none⟩

def job? (load : MeasuredLoad) (jobId : String) : Option MeasuredJob :=
  load.jobs.find? fun job => decide (job.jobId = jobId)

/-- What becomes of a job; it is not the active one any more if it has ended. -/
def update (load : MeasuredLoad) (jobId : String) (f : MeasuredJob → MeasuredJob) : MeasuredLoad where
  jobs := load.jobs.map fun job => if job.jobId = jobId then f job else job
  activeJobId :=
    if load.activeJobId = some jobId ∧ ((load.job? jobId).any fun job => (f job).phase.terminal) = true then none
    else load.activeJobId

/-- A job that is started, before its loop. -/
def newJob (settings : AdmissionSettings) (roomId uuid : String) (now previous : ℚ) : MeasuredJob :=
  { jobId := "admission-" ++ uuid, roomId, phase := .ramping, startedAtMs := now
    expiresAtMs := now + settings.safetyTtlMs, targetRps := settings.initialRps
    requests := 0, issued := 0, accepted := 0, rateLimited := 0, rejected := 0
    nextRampAtMs := now + settings.rampIntervalMs, consecutiveFailureWindows := 0, incidentTriggered := false
    saturationReason := none, error := none, samples := [], aborted := false
    looping := true, carry := 0, previous, inFlight := [], evaluations := [] }

/-- `start` puts the job in the place of the active one and runs its loop up to the first sleep. -/
def start (settings : AdmissionSettings) (load : MeasuredLoad) (roomId uuid : String) (now previous : ℚ)
    (clock : RoundClock) (thrown : Option String) : Except String String × MeasuredLoad :=
  if isRoomId roomId = false then (.error "admission_load_room_invalid", load)
  else
    let created := newJob settings roomId uuid now previous
    let started : MeasuredLoad :=
      ({ jobs := load.jobs ++ [created], activeJobId := some created.jobId } : MeasuredLoad).update created.jobId
        (MeasuredJob.round settings clock thrown)
    match load.activeJobId.bind load.job? with
    | none => (.ok created.jobId, started)
    | some active =>
      if active.phase.terminal then (.ok created.jobId, started)
      else if active.roomId = roomId then (.ok active.jobId, load)
      else (.error "admission_load_already_running", load)

def stop (load : MeasuredLoad) (jobId : String) : Except String String × MeasuredLoad :=
  match load.job? jobId with
  | none => (.error "admission_load_job_not_found", load)
  | some _ => (.ok jobId, load.update jobId fun job => { job with aborted := true, phase := .stopped })

inductive Event
  | start (roomId uuid : String) (now previous : ℚ) (clock : RoundClock) (thrown : Option String)
  | stop (jobId : String)
  | round (jobId : String) (clock : RoundClock) (thrown : Option String)
  | sleepFails (jobId error : String)
  | answer (jobId : String) (sequence : ℕ) (response : Option ℕ) (now finished cutoffNow : ℚ)

/-- New jobs get new ids; a loop that has ended has no further rounds; a request is answered once. -/
def step (settings : AdmissionSettings) (load : MeasuredLoad) : Event → Option MeasuredLoad
  | .start roomId uuid now previous clock thrown =>
    if (load.job? ("admission-" ++ uuid)).isSome then none
    else some (load.start settings roomId uuid now previous clock thrown).2
  | .stop jobId => some (load.stop jobId).2
  | .round jobId clock thrown =>
    if (load.job? jobId).any MeasuredJob.looping then some (load.update jobId (MeasuredJob.round settings clock thrown))
    else none
  | .sleepFails jobId error =>
    if (load.job? jobId).any MeasuredJob.looping then some (load.update jobId fun job => job.failWith error) else none
  | .answer jobId sequence response now finished cutoffNow =>
    (load.job? jobId).bind fun job =>
      (job.inFlight.find? fun request => decide (request.1 = sequence)).map fun request =>
        load.update jobId fun job => job.answer settings sequence request.2 response now finished cutoffNow

end MeasuredLoad

/-! ### What a step does to a job -/

/-- A job goes on: it keeps its id, its target rate does not fall, nor rise above the maximum, and once it is aborted it
stays so and issues nothing; it is aborted just when it has ended. -/
structure MeasuredJob.Goes (settings : AdmissionSettings) (job job' : MeasuredJob) : Prop where
  sameId : job'.jobId = job.jobId
  sameRoom : job'.roomId = job.roomId
  rises : job.targetRps ≤ job'.targetRps
  bounded : job.targetRps ≤ settings.maximumRps → job'.targetRps ≤ settings.maximumRps
  idle : job.aborted = true → job'.aborted = true ∧ job'.issued = job.issued
  flags : job.aborted = job.phase.terminal → job'.aborted = job'.phase.terminal

namespace MeasuredJob

variable {settings : AdmissionSettings} {job job' job'' : MeasuredJob} {clock : RoundClock}

theorem Goes.refl (job : MeasuredJob) : job.Goes settings job := ⟨rfl, rfl, le_rfl, id, fun h => ⟨h, rfl⟩, id⟩

theorem Goes.trans (h : job.Goes settings job') (h' : job'.Goes settings job'') : job.Goes settings job'' where
  sameId := h'.sameId.trans h.sameId
  sameRoom := h'.sameRoom.trans h.sameRoom
  rises := h.rises.trans h'.rises
  bounded hle := h'.bounded (h.bounded hle)
  idle ha := by
    obtain ⟨ha', hissued⟩ := h.idle ha
    obtain ⟨ha'', hissued'⟩ := h'.idle ha'
    exact ⟨ha'', hissued'.trans hissued⟩
  flags hf := h'.flags (h.flags hf)

/-- What the requests of a round leave as it is. -/
structure SameVerdict (job job' : MeasuredJob) : Prop where
  targetRps : job'.targetRps = job.targetRps
  consecutive : job'.consecutiveFailureWindows = job.consecutiveFailureWindows
  incident : job'.incidentTriggered = job.incidentTriggered
  evaluations : job'.evaluations = job.evaluations

private structure Issues (job job' : MeasuredJob) : Prop where
  same : job.SameVerdict job'
  samples : job'.samples = job.samples
  phase : job'.phase = job.phase
  aborted : job'.aborted = job.aborted
  next : job'.nextRampAtMs = job.nextRampAtMs
  id : job'.jobId = job.jobId
  room : job'.roomId = job.roomId

private theorem issue_issues (job : MeasuredJob) (startedAt : ℚ) : job.Issues (job.issue startedAt) := by
  unfold issue
  split
  · exact ⟨⟨rfl, rfl, rfl, rfl⟩, rfl, rfl, rfl, rfl, rfl, rfl⟩
  · exact ⟨⟨rfl, rfl, rfl, rfl⟩, rfl, rfl, rfl, rfl, rfl, rfl⟩

private theorem Issues.trans (h : job.Issues job') (h' : job'.Issues job'') : job.Issues job'' where
  same := ⟨h'.same.1.trans h.same.1, h'.same.2.trans h.same.2, h'.same.3.trans h.same.3, h'.same.4.trans h.same.4⟩
  samples := h'.samples.trans h.samples
  phase := h'.phase.trans h.phase
  aborted := h'.aborted.trans h.aborted
  next := h'.next.trans h.next
  id := h'.id.trans h.id
  room := h'.room.trans h.room

private theorem issueDue_issues (job : MeasuredJob) (clock : RoundClock) : job.Issues (job.issueDue clock) := by
  have hfold : ∀ (indices : List ℕ) (start : MeasuredJob), start.Issues
      (indices.foldl (fun job index => job.issue (clock.issuedAt index)) start) := by
    intro indices
    induction indices with
    | nil => exact fun start => ⟨⟨rfl, rfl, rfl, rfl⟩, rfl, rfl, rfl, rfl, rfl, rfl⟩
    | cons index indices ih => exact fun start => (issue_issues start _).trans (ih _)
  unfold issueDue
  refine Issues.trans ?_ (hfold _ _)
  exact ⟨⟨rfl, rfl, rfl, rfl⟩, rfl, rfl, rfl, rfl, rfl, rfl⟩

private theorem Issues.goes (h : job.Issues job') (hlive : job.aborted = false) : job.Goes settings job' where
  sameId := h.id
  sameRoom := h.room
  rises := h.same.targetRps.ge
  bounded hle := h.same.targetRps.le.trans hle
  idle ha := by
    rw [hlive] at ha
    cases ha
  flags hf := by rw [h.aborted, h.phase, hf]

private theorem evaluateRamp_goes (job : MeasuredJob) (clock : RoundClock) :
    job.Goes settings (job.evaluateRamp settings clock) := by
  unfold evaluateRamp
  split
  · exact .refl job
  · rename_i hdue
    have hramping : job.phase = .ramping := by
      by_contra hne
      exact hdue (.inl hne)
    have hflags : ∀ {phase : AdmissionLoadPhase}, phase.terminal = false → job.aborted = job.phase.terminal →
        job.aborted = phase.terminal := by
      intro phase hphase hf
      rw [hf, hramping, hphase]
      rfl
    dsimp only
    split
    · split
      · exact ⟨rfl, rfl, le_rfl, id, fun ha => ⟨ha, rfl⟩, hflags rfl⟩
      · exact ⟨rfl, rfl, le_rfl, id, fun ha => ⟨ha, rfl⟩, id⟩
    · split
      · exact ⟨rfl, rfl, le_rfl, id, fun ha => ⟨ha, rfl⟩, hflags rfl⟩
      · rename_i hlow
        refine ⟨rfl, rfl, ?_, fun _ => min_le_left _ _, fun ha => ⟨ha, rfl⟩, id⟩
        have := settings.step_pos
        exact le_min (not_le.1 hlow).le (by omega)

private theorem failWith_goes (job : MeasuredJob) (error : String) : job.Goes settings (job.failWith error) :=
  ⟨rfl, rfl, le_rfl, id, fun _ => ⟨rfl, rfl⟩, fun _ => rfl⟩

theorem round_goes (job : MeasuredJob) (clock : RoundClock) (thrown : Option String) :
    job.Goes settings (job.round settings clock thrown) := by
  unfold round
  split
  · exact ⟨rfl, rfl, le_rfl, id, fun ha => ⟨ha, rfl⟩, id⟩
  · rename_i hlive
    have hissues : job.Goes settings (job.issueDue clock) := (issueDue_issues job clock).goes (Bool.eq_false_iff.2 hlive)
    split
    · exact ⟨rfl, rfl, le_rfl, id, fun ha => absurd ha hlive, fun _ => rfl⟩
    · cases thrown with
      | some error => exact hissues.trans (failWith_goes _ error)
      | none => exact hissues.trans (evaluateRamp_goes _ clock)

private theorem stop_goes (job : MeasuredJob) :
    job.Goes settings { job with aborted := true, phase := .stopped } :=
  ⟨rfl, rfl, le_rfl, id, fun _ => ⟨rfl, rfl⟩, fun _ => rfl⟩

private theorem answer_same (settings : AdmissionSettings) (job : MeasuredJob) (sequence : ℕ) (startedAt : ℚ) (response : Option ℕ)
    (now finished cutoffNow : ℚ) :
    job.SameVerdict (job.answer settings sequence startedAt response now finished cutoffNow) ∧
      (job.answer settings sequence startedAt response now finished cutoffNow).phase = job.phase ∧
      job.Goes settings (job.answer settings sequence startedAt response now finished cutoffNow) := by
  unfold answer
  dsimp only
  split
  · exact ⟨⟨rfl, rfl, rfl, rfl⟩, rfl, rfl, rfl, le_rfl, id, fun ha => ⟨ha, rfl⟩, id⟩
  · exact ⟨⟨rfl, rfl, rfl, rfl⟩, rfl, rfl, rfl, le_rfl, id, fun ha => ⟨ha, rfl⟩, id⟩

end MeasuredJob

/-! ### The verdict -/

/-- The evaluation saw enough samples, and at least the threshold of them had failed. -/
def RampEvaluation.Confirms (settings : AdmissionSettings) (e : RampEvaluation) : Prop :=
  settings.minimumSamples ≤ e.samples ∧ ∃ q, settings.failureThreshold = .finite q ∧ q * e.samples ≤ e.failed

/-- Fewer samples than the threshold have failed, but their percentage reaches it when it is rounded to one decimal
place. -/
def NearMiss (threshold : ExactNumber) (failed total : ℕ) : Prop :=
  ∃ q, threshold = .finite q ∧ (failed : ℚ) < q * total ∧
    reachesThreshold threshold (failureRatePercent failed total) = true

instance (threshold : ExactNumber) (failed total : ℕ) : Decidable (NearMiss threshold failed total) :=
  match threshold with
  | .finite q => decidable_of_iff ((failed : ℚ) < q * total ∧
      reachesThreshold (.finite q) (failureRatePercent failed total) = true)
      ⟨fun h => ⟨q, rfl, h⟩, fun ⟨_, heq, h⟩ => by cases heq; exact h⟩
  | .infinity _ => isFalse fun ⟨_, heq, _⟩ => by cases heq
  | .nan => isFalse fun ⟨_, heq, _⟩ => by cases heq

/-- The percentages of near misses lie within half a tenth of the threshold, or less. -/
theorem nearMiss_iff {q : ℚ} {failed total : ℕ} (htotal : 0 < total) :
    NearMiss (.finite q) failed total ↔
      (failed : ℚ) / total * 100 < q * 100 ∧ ⌈q * 100 * 10⌉ ≤ (failed : ℚ) / total * 100 * 10 + 1 / 2 := by
  have hpos : (0 : ℚ) < total := Nat.cast_pos.2 htotal
  have hrate : failureRatePercent failed total = ⌊(failed : ℚ) / total * 100 * 10 + 1 / 2⌋ / 10 := by
    unfold failureRatePercent toFixed1
    rw [if_neg htotal.ne']
  have hreach : reachesThreshold (.finite q) (failureRatePercent failed total) = true ↔
      ⌈q * 100 * 10⌉ ≤ (failed : ℚ) / total * 100 * 10 + 1 / 2 := by
    unfold reachesThreshold
    dsimp only
    rw [decide_eq_true_eq, hrate, le_div_iff₀ (by norm_num), ← Int.ceil_le, Int.le_floor]
  have hbelow : (failed : ℚ) < q * total ↔ (failed : ℚ) / total * 100 < q * 100 := by
    rw [mul_lt_mul_iff_left₀ (by norm_num : (0 : ℚ) < 100), div_lt_iff₀ hpos]
  unfold NearMiss
  constructor
  · rintro ⟨q', heq, hlt, hreaches⟩
    cases heq
    exact ⟨hbelow.1 hlt, hreach.1 hreaches⟩
  · rintro ⟨hlt, hreaches⟩
    exact ⟨q, rfl, hbelow.2 hlt, hreach.2 hreaches⟩

namespace MeasuredJob

variable {settings : AdmissionSettings} {job job' : MeasuredJob} {clock : RoundClock} {thrown : Option String}

/-- The round evaluates the ramp. -/
structure Evaluates (job : MeasuredJob) (clock : RoundClock) (thrown : Option String) : Prop where
  live : job.aborted = false
  unexpired : clock.now < job.expiresAtMs
  unthrown : thrown = none
  ramping : job.phase = .ramping
  due : job.nextRampAtMs ≤ clock.due

instance (job : MeasuredJob) (clock : RoundClock) (thrown : Option String) : Decidable (job.Evaluates clock thrown) :=
  decidable_of_iff (job.aborted = false ∧ clock.now < job.expiresAtMs ∧ thrown = none ∧ job.phase = .ramping ∧
    job.nextRampAtMs ≤ clock.due) ⟨fun ⟨h₁, h₂, h₃, h₄, h₅⟩ => ⟨h₁, h₂, h₃, h₄, h₅⟩, fun ⟨h₁, h₂, h₃, h₄, h₅⟩ =>
    ⟨h₁, h₂, h₃, h₄, h₅⟩⟩

/-- If the round evaluates the ramp, with enough samples, the clock does not go back while it does, and it is no near
miss. -/
def NoNearMiss (settings : AdmissionSettings) (clock : RoundClock) (thrown : Option String) (job : MeasuredJob) : Prop :=
  job.Evaluates clock thrown → settings.minimumSamples ≤ (job.samplesAt settings clock.counted).length →
    clock.seen ≤ clock.counted ∧ ¬NearMiss settings.failureThreshold
      (failedSamples (job.samplesAt settings clock.seen)) (job.samplesAt settings clock.seen).length

instance (job : MeasuredJob) : Decidable (job.NoNearMiss settings clock thrown) := by
  unfold NoNearMiss
  infer_instance

/-- As many evaluations as are counted, at the present target rate and one after the other, were confirmations; an
incident is triggered only when they are enough. -/
structure Tracked (settings : AdmissionSettings) (job : MeasuredJob) : Prop where
  counted : ∃ before last, job.evaluations = before ++ last ∧ last.length = job.consecutiveFailureWindows ∧
    ∀ e ∈ last, e.targetRps = job.targetRps ∧ e.Confirms settings
  triggered : job.incidentTriggered = true → settings.failureConfirmations ≤ job.consecutiveFailureWindows
  held : job.incidentTriggered = true → job.phase ≠ .ramping

theorem Tracked.of_same (h : job.Tracked settings) (hsame : job.SameVerdict job')
    (hphase : job'.phase = job.phase ∨ job'.phase ≠ .ramping) : job'.Tracked settings := by
  obtain ⟨htarget, hconsecutive, hincident, hevaluations⟩ := hsame
  refine ⟨?_, ?_, fun hi => ?_⟩
  · rw [hevaluations, hconsecutive, htarget]
    exact h.counted
  · rw [hincident, hconsecutive]
    exact h.triggered
  · rcases hphase with hphase | hphase
    · rw [hphase]
      exact h.held (hincident ▸ hi)
    · exact hphase

/-- An evaluation that counts a failure, and is no near miss, is a confirmation. -/
private theorem confirms_of_reaches {evaluated : List AdmissionSample} (targetRps : ℤ)
    (henough : settings.minimumSamples ≤ evaluated.length)
    (hreaches : reachesThreshold settings.failureThreshold
      (failureRatePercent (failedSamples evaluated) evaluated.length) = true)
    (hmiss : ¬NearMiss settings.failureThreshold (failedSamples evaluated) evaluated.length) :
    (RampEvaluation.mk targetRps evaluated.length (failedSamples evaluated)).Confirms settings := by
  refine ⟨henough, ?_⟩
  have hratio := settings.threshold_ratio
  cases hthreshold : settings.failureThreshold with
  | finite q =>
    refine ⟨q, rfl, not_lt.1 fun hlt => hmiss ⟨q, hthreshold, hlt, hreaches⟩⟩
  | infinity neg =>
    rw [hthreshold] at hratio
    cases neg <;> cases hratio
  | nan =>
    rw [hthreshold] at hreaches
    cases hreaches

private theorem Tracked.evaluateRamp (h : job.Tracked settings)
    (hcond : job.phase = .ramping → job.nextRampAtMs ≤ clock.due →
      settings.minimumSamples ≤ (job.samplesAt settings clock.counted).length →
      clock.seen ≤ clock.counted ∧ ¬NearMiss settings.failureThreshold
        (failedSamples (job.samplesAt settings clock.seen)) (job.samplesAt settings clock.seen).length) :
    (job.evaluateRamp settings clock).Tracked settings := by
  unfold MeasuredJob.evaluateRamp
  split
  · exact h
  · rename_i hdue
    have hramping : job.phase = .ramping := by
      by_contra hne
      exact hdue (.inl hne)
    have hnot : job.incidentTriggered ≠ true := fun hi => h.held hi hramping
    obtain ⟨before, last, hevaluations, hlength, hlast⟩ := h.counted
    dsimp only
    split
    · rename_i hfails
      rw [Bool.and_eq_true, decide_eq_true_eq] at hfails
      obtain ⟨hclock, hmiss⟩ := hcond hramping (not_lt.1 fun hlt => hdue (.inr hlt)) hfails.1
      -- what is in the later window is in the earlier one
      have hwindow : (job.samplesAt settings clock.counted).length ≤ (job.samplesAt settings clock.seen).length := by
        unfold samplesAt
        rw [← List.countP_eq_length_filter, ← List.countP_eq_length_filter]
        refine List.countP_mono_left fun sample _ hin => ?_
        exact decide_eq_true ((sub_le_sub_right hclock _).trans (of_decide_eq_true hin))
      have henough : settings.minimumSamples ≤ (job.samplesAt settings clock.seen).length :=
        hfails.1.trans (Int.ofNat_le.2 hwindow)
      have hconfirms := confirms_of_reaches job.targetRps henough hfails.2 hmiss
      have hcounted : ∀ e ∈ last ++ [RampEvaluation.mk job.targetRps (job.samplesAt settings clock.seen).length
          (failedSamples (job.samplesAt settings clock.seen))],
          e.targetRps = job.targetRps ∧ e.Confirms settings := by
        intro e he
        rcases List.mem_append.1 he with he | he
        · exact hlast e he
        · rw [List.mem_singleton.1 he]
          exact ⟨rfl, hconfirms⟩
      have hlength' : (last ++ [RampEvaluation.mk job.targetRps (job.samplesAt settings clock.seen).length
          (failedSamples (job.samplesAt settings clock.seen))]).length = job.consecutiveFailureWindows + 1 := by
        rw [List.length_append, hlength]
        rfl
      split
      · rename_i hconfirmed
        refine ⟨⟨before, _, ?_, hlength', hcounted⟩, fun _ => hconfirmed, fun _ => (nomatch ·)⟩
        rw [hevaluations, List.append_assoc]
      · refine ⟨⟨before, _, ?_, hlength', hcounted⟩, fun hi => absurd hi hnot, fun hi => absurd hi hnot⟩
        rw [hevaluations, List.append_assoc]
    · split
      · exact ⟨⟨_, [], (List.append_nil _).symm, rfl, fun _ he => absurd he List.not_mem_nil⟩,
          fun hi => absurd hi hnot, fun hi => absurd hi hnot⟩
      · exact ⟨⟨_, [], (List.append_nil _).symm, rfl, fun _ he => absurd he List.not_mem_nil⟩,
          fun hi => absurd hi hnot, fun hi => absurd hi hnot⟩

theorem Tracked.round (h : job.Tracked settings) (hcond : job.NoNearMiss settings clock thrown) :
    (job.round settings clock thrown).Tracked settings := by
  unfold MeasuredJob.round
  split
  · exact h.of_same ⟨rfl, rfl, rfl, rfl⟩ (.inl rfl)
  · rename_i hlive
    have hissues := issueDue_issues job clock
    have hissued : (job.issueDue clock).Tracked settings := h.of_same hissues.same (.inl hissues.phase)
    split
    · exact h.of_same ⟨rfl, rfl, rfl, rfl⟩ (.inr (nomatch ·))
    · rename_i hexpires
      cases thrown with
      | some error => exact hissued.of_same ⟨rfl, rfl, rfl, rfl⟩ (.inr (nomatch ·))
      | none =>
        refine hissued.evaluateRamp fun hramping hdue henough => ?_
        have hsamples : ∀ now, (job.issueDue clock).samplesAt settings now = job.samplesAt settings now := by
          intro now
          unfold samplesAt
          rw [hissues.samples]
        rw [hissues.phase] at hramping
        rw [hissues.next] at hdue
        rw [hsamples] at henough ⊢
        exact hcond ⟨Bool.eq_false_iff.2 hlive, not_le.1 hexpires, rfl, hramping, hdue⟩ henough

end MeasuredJob

/-! ### The controller at work -/

namespace MeasuredLoad

variable {settings : AdmissionSettings} {load load' : MeasuredLoad}

/-- The ids are distinct, a job that has not ended is the active one, and jobs are aborted when they have ended. -/
structure WellRun (settings : AdmissionSettings) (load : MeasuredLoad) : Prop where
  distinct : (load.jobs.map MeasuredJob.jobId).Nodup
  active : ∀ job ∈ load.jobs, job.phase.terminal = false → load.activeJobId = some job.jobId
  flags : ∀ job ∈ load.jobs, job.aborted = job.phase.terminal
  bounded : ∀ job ∈ load.jobs, job.targetRps ≤ settings.maximumRps

theorem wellRun_empty : WellRun settings empty where
  distinct := List.nodup_nil
  active _ h := absurd h List.not_mem_nil
  flags _ h := absurd h List.not_mem_nil
  bounded _ h := absurd h List.not_mem_nil

private theorem WellRun.job?_of_mem (h : WellRun settings load) {job : MeasuredJob} (hmem : job ∈ load.jobs) :
    load.job? job.jobId = some job := by
  cases hfind : load.job? job.jobId with
  | none => exact absurd (List.find?_eq_none.1 hfind job hmem) (by simp)
  | some other =>
    have hsame : other.jobId = job.jobId := by simpa using List.find?_some hfind
    rw [List.inj_on_of_nodup_map h.distinct (List.mem_of_find?_eq_some hfind) hmem hsame]

/-- At most one job has not ended. -/
theorem WellRun.at_most_one (h : WellRun settings load) :
    (load.jobs.filter fun job => !job.phase.terminal).length ≤ 1 := by
  have hnodup : ((load.jobs.filter fun job => !job.phase.terminal).map MeasuredJob.jobId).Nodup :=
    h.distinct.sublist (List.filter_sublist.map _)
  have hsub : (load.jobs.filter fun job => !job.phase.terminal).map MeasuredJob.jobId ⊆ load.activeJobId.toList := by
    intro jobId hid
    obtain ⟨job, hjob, rfl⟩ := List.mem_map.1 hid
    rw [List.mem_filter, Bool.not_eq_true'] at hjob
    rw [h.active job hjob.1 hjob.2]
    exact List.mem_singleton_self _
  have hlength := (hnodup.subperm hsub).length_le
  rw [List.length_map] at hlength
  refine hlength.trans ?_
  cases load.activeJobId with
  | none => exact Nat.zero_le 1
  | some jobId => exact le_rfl

private theorem WellRun.update (h : WellRun settings load) {jobId : String} {f : MeasuredJob → MeasuredJob}
    (hf : ∀ job : MeasuredJob, job.Goes settings (f job)) : WellRun settings (load.update jobId f) := by
  have hgoes : ∀ job : MeasuredJob, job.Goes settings (if job.jobId = jobId then f job else job) := by
    intro job
    split
    · exact hf job
    · exact .refl job
  refine ⟨?_, fun job' hjob' hruns => ?_, fun job' hjob' => ?_, fun job' hjob' => ?_⟩
  · unfold MeasuredLoad.update
    rw [List.map_map]
    have hids : MeasuredJob.jobId ∘ (fun job => if job.jobId = jobId then f job else job) = MeasuredJob.jobId :=
      funext fun job => (hgoes job).sameId
    rw [hids]
    exact h.distinct
  · obtain ⟨job, hjob, rfl⟩ := List.mem_map.1 hjob'
    have hran : job.phase.terminal = false := by
      by_contra hended
      rw [Bool.not_eq_false, ← h.flags job hjob] at hended
      have hstays := ((hgoes job).idle hended).1
      rw [(hgoes job).flags (h.flags job hjob), hruns] at hstays
      cases hstays
    have hactive := h.active job hjob hran
    rw [(hgoes job).sameId]
    unfold MeasuredLoad.update
    dsimp only
    rw [if_neg, hactive]
    rintro ⟨hsame, hends⟩
    rw [hactive, Option.some.injEq] at hsame
    rw [if_pos hsame] at hruns
    rw [← hsame, h.job?_of_mem hjob, Option.any_some, hruns] at hends
    cases hends
  · obtain ⟨job, hjob, rfl⟩ := List.mem_map.1 hjob'
    exact (hgoes job).flags (h.flags job hjob)
  · obtain ⟨job, hjob, rfl⟩ := List.mem_map.1 hjob'
    exact (hgoes job).bounded (h.bounded job hjob)

/-- The controller with a new job in the place of the active one. -/
private def withNew (settings : AdmissionSettings) (load : MeasuredLoad) (roomId uuid : String) (now previous : ℚ) :
    MeasuredLoad where
  jobs := load.jobs ++ [newJob settings roomId uuid now previous]
  activeJobId := some ("admission-" ++ uuid)

private theorem WellRun.withNew (h : WellRun settings load) (hidle : ∀ job ∈ load.jobs, job.phase.terminal = true)
    (roomId : String) {uuid : String} (hfresh : load.job? ("admission-" ++ uuid) = none) (now previous : ℚ) :
    WellRun settings (load.withNew settings roomId uuid now previous) := by
  refine ⟨?_, fun job hjob hruns => ?_, fun job hjob => ?_, fun job hjob => ?_⟩
  · have hnew : "admission-" ++ uuid ∉ load.jobs.map MeasuredJob.jobId := by
      intro hmem
      obtain ⟨job, hjob, hid⟩ := List.mem_map.1 hmem
      exact absurd (List.find?_eq_none.1 hfresh job hjob) (by simp [hid])
    unfold MeasuredLoad.withNew
    rw [List.map_append]
    exact List.Nodup.append h.distinct (List.nodup_singleton _) (List.disjoint_singleton.2 hnew)
  · rcases List.mem_append.1 hjob with hjob | hjob
    · rw [hidle job hjob] at hruns
      cases hruns
    · rw [List.mem_singleton.1 hjob]
      rfl
  · rcases List.mem_append.1 hjob with hjob | hjob
    · exact h.flags job hjob
    · rw [List.mem_singleton.1 hjob]
      rfl
  · rcases List.mem_append.1 hjob with hjob | hjob
    · exact h.bounded job hjob
    · rw [List.mem_singleton.1 hjob]
      exact settings.initial_le

/-- What a step does: nothing, something to one job, or it adds a job, when all have ended, and runs it. -/
private theorem step_cases (h : WellRun settings load) {event : Event} (hstep : load.step settings event = some load') :
    load' = load ∨
      (∃ jobId f, (∀ job : MeasuredJob, job.Goes settings (f job)) ∧ load' = load.update jobId f ∧
        ((∀ job : MeasuredJob, job.SameVerdict (f job) ∧ ((f job).phase = job.phase ∨ (f job).phase ≠ .ramping)) ∨
          ∃ clock thrown, event = .round jobId clock thrown ∧ f = MeasuredJob.round settings clock thrown)) ∨
      ∃ roomId uuid now previous clock thrown, (∀ job ∈ load.jobs, job.phase.terminal = true) ∧
        load.job? ("admission-" ++ uuid) = none ∧
        load' = (load.withNew settings roomId uuid now previous).update ("admission-" ++ uuid)
          (MeasuredJob.round settings clock thrown) := by
  cases event with
  | start roomId uuid now previous clock thrown =>
    unfold step at hstep
    dsimp only at hstep
    split at hstep
    · cases hstep
    · rename_i hfresh
      rw [Bool.not_eq_true, Option.isSome_eq_false_iff, Option.isNone_iff_eq_none] at hfresh
      cases hstep
      unfold start
      by_cases hroom : isRoomId roomId = false
      · rw [if_pos hroom]
        exact .inl rfl
      · rw [if_neg hroom]
        dsimp only
        cases hactive : load.activeJobId.bind load.job? with
        | none =>
          refine .inr (.inr ⟨roomId, uuid, now, previous, clock, thrown, fun job hjob => ?_, hfresh, rfl⟩)
          by_contra hruns
          rw [h.active job hjob (by simpa using hruns), Option.bind_some, h.job?_of_mem hjob] at hactive
          cases hactive
        | some active =>
          dsimp only
          by_cases hended : active.phase.terminal = true
          · rw [if_pos hended]
            refine .inr (.inr ⟨roomId, uuid, now, previous, clock, thrown, fun job hjob => ?_, hfresh, rfl⟩)
            by_contra hruns
            rw [h.active job hjob (by simpa using hruns), Option.bind_some, h.job?_of_mem hjob] at hactive
            cases hactive
            exact hruns hended
          · rw [if_neg hended]
            split <;> exact .inl rfl
  | stop jobId =>
    cases hstep
    unfold stop
    cases hjob : load.job? jobId with
    | none => exact .inl rfl
    | some job =>
      exact .inr (.inl ⟨jobId, _, MeasuredJob.stop_goes, rfl,
        .inl fun job => ⟨⟨rfl, rfl, rfl, rfl⟩, .inr (nomatch ·)⟩⟩)
  | round jobId clock thrown =>
    unfold step at hstep
    dsimp only at hstep
    split at hstep
    · cases hstep
      exact .inr (.inl ⟨jobId, _, fun job => MeasuredJob.round_goes job clock thrown, rfl,
        .inr ⟨clock, thrown, rfl, rfl⟩⟩)
    · cases hstep
  | sleepFails jobId error =>
    unfold step at hstep
    dsimp only at hstep
    split at hstep
    · cases hstep
      exact .inr (.inl ⟨jobId, _, fun job => MeasuredJob.failWith_goes job error, rfl,
        .inl fun job => ⟨⟨rfl, rfl, rfl, rfl⟩, .inr (nomatch ·)⟩⟩)
    · cases hstep
  | answer jobId sequence response now finished cutoffNow =>
    obtain ⟨job, -, hstep⟩ := Option.bind_eq_some_iff.1 hstep
    obtain ⟨request, -, rfl⟩ := Option.map_eq_some_iff.1 hstep
    have hanswer := fun job : MeasuredJob =>
      job.answer_same settings sequence request.2 response now finished cutoffNow
    exact .inr (.inl ⟨jobId, _, fun job => (hanswer job).2.2, rfl,
      .inl fun job => ⟨(hanswer job).1, .inl (hanswer job).2.1⟩⟩)

private theorem WellRun.step (h : WellRun settings load) {event : Event}
    (hstep : load.step settings event = some load') : WellRun settings load' := by
  rcases step_cases h hstep with rfl | ⟨jobId, f, hf, rfl, -⟩ |
    ⟨roomId, uuid, now, previous, clock, thrown, hidle, hfresh, rfl⟩
  · exact h
  · exact h.update hf
  · exact (h.withNew hidle roomId hfresh now previous).update fun job => MeasuredJob.round_goes job clock thrown

private theorem mem_update {jobId : String} {f : MeasuredJob → MeasuredJob}
    (hf : ∀ job : MeasuredJob, job.Goes settings (f job)) {job : MeasuredJob} (hjob : job ∈ load.jobs) :
    ∃ job' ∈ (load.update jobId f).jobs, job.Goes settings job' := by
  refine ⟨_, List.mem_map_of_mem hjob, ?_⟩
  split
  · exact hf job
  · exact .refl job

/-- A step lets every job go on. -/
private theorem goes_step (h : WellRun settings load) {event : Event} (hstep : load.step settings event = some load')
    {job : MeasuredJob} (hjob : job ∈ load.jobs) : ∃ job' ∈ load'.jobs, job.Goes settings job' := by
  rcases step_cases h hstep with rfl | ⟨jobId, f, hf, rfl, -⟩ |
    ⟨roomId, uuid, now, previous, clock, thrown, -, -, rfl⟩
  · exact ⟨job, hjob, .refl job⟩
  · exact mem_update hf hjob
  · have hnew : job ∈ (load.withNew settings roomId uuid now previous).jobs := List.mem_append_left _ hjob
    exact mem_update (fun job => MeasuredJob.round_goes job clock thrown) hnew

/-- A round of a job evaluates no near miss. -/
def NoNearMiss (settings : AdmissionSettings) (load : MeasuredLoad) : Event → Prop
  | .round jobId clock thrown => ∀ job, load.job? jobId = some job → job.NoNearMiss settings clock thrown
  | _ => True

instance (load : MeasuredLoad) (event : Event) : Decidable (load.NoNearMiss settings event) :=
  match event with
  | .round jobId clock thrown =>
    match h : load.job? jobId with
    | none => isTrue fun job hjob => by rw [h] at hjob; cases hjob
    | some job => decidable_of_iff (job.NoNearMiss settings clock thrown)
        ⟨fun hmiss other hother => by rw [h] at hother; cases hother; exact hmiss, fun hmiss => hmiss job h⟩
  | .start .. | .stop _ | .sleepFails .. | .answer .. => isTrue trivial

private theorem tracked_step (h : WellRun settings load) (htracked : ∀ job ∈ load.jobs, job.Tracked settings)
    {event : Event} (hcond : load.NoNearMiss settings event) (hstep : load.step settings event = some load') :
    ∀ job ∈ load'.jobs, job.Tracked settings := by
  rcases step_cases h hstep with rfl | ⟨jobId, f, -, rfl, hverdict⟩ |
    ⟨roomId, uuid, now, previous, clock, thrown, -, hfresh, rfl⟩
  · exact htracked
  · intro job' hjob'
    obtain ⟨job, hjob, rfl⟩ := List.mem_map.1 hjob'
    split
    · rename_i hid
      rcases hverdict with hsame | ⟨clock, thrown, rfl, rfl⟩
      · exact (htracked job hjob).of_same (hsame job).1 (hsame job).2
      · exact (htracked job hjob).round (hcond job (hid ▸ h.job?_of_mem hjob))
    · exact htracked job hjob
  · intro job' hjob'
    obtain ⟨job, hjob, rfl⟩ := List.mem_map.1 hjob'
    rcases List.mem_append.1 hjob with hjob | hjob
    · rw [if_neg fun hid => absurd (List.find?_eq_none.1 hfresh job hjob) (by simp [hid])]
      exact htracked job hjob
    · obtain rfl := List.mem_singleton.1 hjob
      have hnew : (newJob settings roomId uuid now previous).Tracked settings :=
        ⟨⟨[], [], rfl, rfl, nofun⟩, nofun, nofun⟩
      rw [if_pos (show (newJob settings roomId uuid now previous).jobId = "admission-" ++ uuid from rfl)]
      -- a new job has no samples yet
      refine hnew.round fun _ henough => ?_
      have hnone : (newJob settings roomId uuid now previous).samplesAt settings clock.counted = [] := rfl
      rw [hnone] at henough
      exact absurd (settings.samples_pos.trans henough) (by decide)

end MeasuredLoad

open MeasuredLoad

/-- In every run at most one job has not ended, no step lowers a target rate or issues a request for a job that has
ended, and no target rate is above the maximum.  In a run whose evaluations are no near misses, an incident is triggered
only after as many evaluations as are asked for, one after the other and at one target rate, each of which saw enough
samples and at least the threshold of them failed. -/
theorem admissionLoad_verdict (settings : AdmissionSettings) (events : List MeasuredLoad.Event) (load : MeasuredLoad)
    (h : Machine.runFrom (MeasuredLoad.step settings) empty events = some load) :
    (load.jobs.filter fun job => !job.phase.terminal).length ≤ 1 ∧
    (∀ job ∈ load.jobs, job.targetRps ≤ settings.maximumRps) ∧
    (∀ event load', load.step settings event = some load' → ∀ job ∈ load.jobs, ∃ job' ∈ load'.jobs,
      job'.jobId = job.jobId ∧ job.targetRps ≤ job'.targetRps ∧
        (job.phase.terminal = true → job'.issued = job.issued)) ∧
    (Machine.EachStep (MeasuredLoad.step settings) (MeasuredLoad.NoNearMiss settings) empty events →
      ∀ job ∈ load.jobs, job.incidentTriggered = true → ∃ before last, job.evaluations = before ++ last ∧
        settings.failureConfirmations ≤ last.length ∧
        ∀ e ∈ last, e.targetRps = job.targetRps ∧ e.Confirms settings) := by
  have hwell : WellRun settings load :=
    Machine.invariant_of_step (fun _ _ _ hx hstep => hx.step hstep) wellRun_empty h
  refine ⟨hwell.at_most_one, hwell.bounded, fun event load' hstep job hjob => ?_, fun hsteps job hjob htriggered => ?_⟩
  · obtain ⟨job', hjob', hgoes⟩ := goes_step hwell hstep hjob
    exact ⟨job', hjob', hgoes.sameId, hgoes.rises, fun hended =>
      (hgoes.idle ((hwell.flags job hjob).trans hended)).2⟩
  · let Inv := fun x : MeasuredLoad => WellRun settings x ∧ ∀ job ∈ x.jobs, job.Tracked settings
    have hkept : Machine.Throughout (step settings) Inv empty events :=
      Machine.throughout_of_eachStep (fun _ _ _ hx hcond hstep => ⟨hx.1.step hstep, tracked_step hx.1 hx.2 hcond hstep⟩)
        ⟨wellRun_empty, fun _ hjob => absurd hjob List.not_mem_nil⟩ hsteps
    have htracked : WellRun settings load ∧ ∀ job ∈ load.jobs, job.Tracked settings := hkept.last h
    obtain ⟨before, last, hevaluations, hlength, hlast⟩ := (htracked.2 job hjob).counted
    have henough := (htracked.2 job hjob).triggered htriggered
    rw [← hlength] at henough
    exact ⟨before, last, hevaluations, henough, hlast⟩

/-- One confirmation of three samples, and a threshold just above two thirds. -/
def twoThirdsSettings : AdmissionSettings where
  initialRps := 40
  rampStepRps := 40
  rampIntervalMs := 500
  maximumRps := 400
  failureThreshold := .finite (667 / 1000)
  failureConfirmations := 1
  minimumSamples := 3
  metricWindowMs := 1000
  safetyTtlMs := 10000
  initial_le := by decide
  step_pos := by decide
  confirmations_pos := by decide
  samples_pos := by decide
  threshold_ratio := by decide +kernel

private def stillClock (now : ℚ) : RoundClock := ⟨now, fun _ => now, now, now, now, now⟩

/-- A job whose first three requests have these answers, up to the first evaluation of its ramp. -/
private def threeAnswers (first second third : Option ℕ) : List MeasuredLoad.Event :=
  [.start "room-0" "1" 0 0 (stillClock 0) none, .round "admission-1" (stillClock 100) none,
    .answer "admission-1" 1 first 110 110 110, .answer "admission-1" 2 second 120 120 120,
    .answer "admission-1" 3 third 130 130 130, .round "admission-1" (stillClock 500) none]

/-- Three failures of three trigger an incident, after a confirmation. -/
theorem three_failures_confirmed :
    ∃ load, Machine.runFrom (MeasuredLoad.step twoThirdsSettings) empty
        (threeAnswers (some 429) none (some 500)) = some load ∧
      (load.jobs.map MeasuredJob.incidentTriggered) = [true] ∧
      ∀ job ∈ load.jobs, job.incidentTriggered = true → ∃ before last, job.evaluations = before ++ last ∧
        twoThirdsSettings.failureConfirmations ≤ last.length ∧
        ∀ e ∈ last, e.targetRps = job.targetRps ∧ e.Confirms twoThirdsSettings := by
  have hruns : ((Machine.runFrom (MeasuredLoad.step twoThirdsSettings) empty
      (threeAnswers (some 429) none (some 500))).map fun load => load.jobs.map MeasuredJob.incidentTriggered) =
      some [true] := by decide +kernel
  obtain ⟨load, hload, htriggered⟩ := Option.map_eq_some_iff.1 hruns
  exact ⟨load, hload, htriggered, (admissionLoad_verdict twoThirdsSettings _ load hload).2.2.2 (by decide +kernel)⟩

/-- Two failures of three are fewer than the threshold, and trigger an incident: 66.66… rounds to 66.7. -/
theorem two_of_three_reported :
    ((Machine.runFrom (MeasuredLoad.step twoThirdsSettings) empty
        (threeAnswers (some 429) none (some 200))).map fun load =>
          load.jobs.map fun job => (job.incidentTriggered, job.evaluations)) = some [(true, [⟨40, 3, 2⟩])] ∧
      twoThirdsSettings.failureThreshold = .finite (667 / 1000) ∧ (2 : ℚ) < 667 / 1000 * 3 := by
  refine ⟨by decide +kernel, rfl, by norm_num⟩

end Opsia
