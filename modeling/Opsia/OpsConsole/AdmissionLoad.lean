import Opsia.Gateway.Registry

/-!
# The admission load of the operations console

`AdmissionLoadController` keeps the jobs that put load on the admission of a room, of which at most one is active.  A
job ramps up, holds once it is saturated, and ends when it is stopped, when its time runs out, or when its loop fails.
The requests of a job and what it measures of them are left out: to the controller they are the reason why a ramping
job ramps on or becomes saturated.
-/

namespace Opsia

inductive AdmissionLoadPhase
  | ramping
  | saturated
  | stopped
  | safetyTimeout
  | failed
deriving DecidableEq

/-- `["stopped", "safety_timeout", "failed"].includes(phase)` -/
def AdmissionLoadPhase.terminal : AdmissionLoadPhase → Bool
  | .ramping | .saturated => false
  | .stopped | .safetyTimeout | .failed => true

structure AdmissionJob where
  jobId : String
  roomId : String
  phase : AdmissionLoadPhase
  startedAtMs : Int
  expiresAtMs : Int
  targetRps : Int
deriving DecidableEq

structure AdmissionLoadOptions where
  initialRps : Int := 40
  rampStepRps : Int := 40
  maximumRps : Int := 400
  safetyTtlMs : Int := 30 * 60000

structure AdmissionLoadController where
  options : AdmissionLoadOptions
  jobs : List AdmissionJob
  activeJobId : Option String

namespace AdmissionLoadController

def create (options : AdmissionLoadOptions) : AdmissionLoadController where
  options := options
  jobs := []
  activeJobId := none

variable (load : AdmissionLoadController)

def job? (jobId : String) : Option AdmissionJob := load.jobs.find? fun job => decide (job.jobId = jobId)

/-- A new job takes the id made of `uuid`. -/
def start (roomId uuid : String) (now : Int) : Except String AdmissionJob × AdmissionLoadController :=
  if isRoomId roomId = false then (.error "admission_load_room_invalid", load)
  else
    let created : AdmissionJob :=
      { jobId := "admission-" ++ uuid, roomId, phase := .ramping, startedAtMs := now
        expiresAtMs := now + load.options.safetyTtlMs, targetRps := load.options.initialRps }
    let started : AdmissionLoadController :=
      { load with jobs := load.jobs ++ [created], activeJobId := some created.jobId }
    match load.activeJobId.bind load.job? with
    | none => (.ok created, started)
    | some active =>
      if active.phase.terminal then (.ok created, started)
      else if active.roomId = roomId then (.ok active, load)
      else (.error "admission_load_already_running", load)

/-- The phase that `status` shows of a job. -/
def status (jobId : String) : Option AdmissionLoadPhase := (load.job? jobId).map AdmissionJob.phase

/-- The job enters a phase. -/
def enter (jobId : String) (phase : AdmissionLoadPhase) : AdmissionLoadController :=
  { load with jobs := load.jobs.map fun job => if job.jobId = jobId then { job with phase } else job }

/-- The job is no longer the active one. -/
def deactivate (jobId : String) : AdmissionLoadController :=
  { load with activeJobId := if load.activeJobId = some jobId then none else load.activeJobId }

def stop (jobId : String) : Except String Unit × AdmissionLoadController :=
  match load.job? jobId with
  | none => (.error "admission_load_job_not_found", load)
  | some _ => (.ok (), (load.enter jobId .stopped).deactivate jobId)

/-- The loop of a ramping job raises its load. -/
def ramp (jobId : String) : AdmissionLoadController :=
  { load with jobs := load.jobs.map fun job =>
    if job.jobId = jobId ∧ job.phase = .ramping ∧ job.targetRps < load.options.maximumRps then
      { job with targetRps := min load.options.maximumRps (job.targetRps + load.options.rampStepRps) }
    else job }

/-- The loop of a ramping job finds the failures confirmed or the maximum reached. -/
def saturate (jobId : String) : AdmissionLoadController :=
  { load with jobs := load.jobs.map fun job =>
    if job.jobId = jobId ∧ job.phase = .ramping then { job with phase := .saturated } else job }

/-- The loop of a job finds its time run out. -/
def timeOut (jobId : String) (now : Int) : Option AdmissionLoadController :=
  match load.job? jobId with
  | none => none
  | some job =>
    if job.phase.terminal = false ∧ job.expiresAtMs ≤ now then
      some ((load.enter jobId .safetyTimeout).deactivate jobId)
    else none

/-- The loop of a job throws. -/
def fail (jobId : String) : Option AdmissionLoadController :=
  match load.job? jobId with
  | none => none
  | some _ => some ((load.enter jobId .failed).deactivate jobId)

/-- The jobs of a room that still run. -/
def running (roomId : String) : List AdmissionJob :=
  load.jobs.filter fun job => decide (job.roomId = roomId) && !job.phase.terminal

/-! ### Jobs that end stay ended -/

/-- No two jobs have one id. -/
def Distinct : Prop := (load.jobs.map AdmissionJob.jobId).Nodup

/-- The job is there and has ended. -/
def JobEnded (jobId : String) : Prop := ∃ job, load.job? jobId = some job ∧ job.phase.terminal = true

variable {load} {load' : AdmissionLoadController}

theorem job?_spec {jobId : String} {job : AdmissionJob} (h : load.job? jobId = some job) :
    job ∈ load.jobs ∧ job.jobId = jobId :=
  ⟨List.mem_of_find?_eq_some h, by simpa using List.find?_some h⟩

theorem Distinct.job?_of_mem (h : load.Distinct) {job : AdmissionJob} (hmem : job ∈ load.jobs) :
    load.job? job.jobId = some job := by
  cases hfind : load.job? job.jobId with
  | none => exact absurd (List.find?_eq_none.1 hfind job hmem) (by simp)
  | some other =>
    obtain ⟨hother, hsame⟩ := job?_spec hfind
    rw [List.inj_on_of_nodup_map h hother hmem hsame]

/-- A job that runs has not ended. -/
theorem Distinct.not_jobEnded (h : load.Distinct) {job : AdmissionJob} (hmem : job ∈ load.jobs)
    (hruns : job.phase.terminal = false) : ¬load.JobEnded job.jobId := by
  rintro ⟨other, hother, hterminal⟩
  rw [h.job?_of_mem hmem, Option.some.injEq] at hother
  rw [hother, hterminal] at hruns
  cases hruns

/-- What the jobs become when no job is created: each keeps its id and its room, and stays ended if it has ended. -/
def Evolves (load load' : AdmissionLoadController) : Prop :=
  ∃ f : AdmissionJob → AdmissionJob, load'.jobs = load.jobs.map f ∧
    ∀ job, (f job).jobId = job.jobId ∧ (f job).roomId = job.roomId ∧
      (job.phase.terminal = true → (f job).phase.terminal = true)

theorem Evolves.distinct (h : Evolves load load') (hdistinct : load.Distinct) : load'.Distinct := by
  obtain ⟨f, hjobs, hf⟩ := h
  have hids : AdmissionJob.jobId ∘ f = AdmissionJob.jobId := funext fun job => (hf job).1
  unfold Distinct
  rw [hjobs, List.map_map, hids]
  exact hdistinct

theorem Evolves.job? {f : AdmissionJob → AdmissionJob} (hjobs : load'.jobs = load.jobs.map f)
    (hf : ∀ job, (f job).jobId = job.jobId) (jobId : String) : load'.job? jobId = (load.job? jobId).map f := by
  unfold AdmissionLoadController.job?
  rw [hjobs, List.find?_map]
  congr 2
  funext job
  exact congrArg (fun id => decide (id = jobId)) (hf job)

theorem Evolves.isSome_job? (h : Evolves load load') {jobId : String} (hjob : (load.job? jobId).isSome = true) :
    (load'.job? jobId).isSome = true := by
  obtain ⟨f, hjobs, hf⟩ := h
  rw [Evolves.job? hjobs fun job => (hf job).1, Option.isSome_map]
  exact hjob

theorem Evolves.jobEnded (h : Evolves load load') {jobId : String} (hended : load.JobEnded jobId) :
    load'.JobEnded jobId := by
  obtain ⟨f, hjobs, hf⟩ := h
  obtain ⟨job, hjob, hterminal⟩ := hended
  refine ⟨f job, ?_, (hf job).2.2 hterminal⟩
  rw [Evolves.job? hjobs fun job => (hf job).1, hjob]
  rfl

/-- A job that runs has run before. -/
theorem Evolves.ran (h : Evolves load load') {job' : AdmissionJob} (hmem : job' ∈ load'.jobs)
    (hruns : job'.phase.terminal = false) :
    ∃ job ∈ load.jobs, job.jobId = job'.jobId ∧ job.roomId = job'.roomId ∧ job.phase.terminal = false := by
  obtain ⟨f, hjobs, hf⟩ := h
  rw [hjobs] at hmem
  obtain ⟨job, hjob, rfl⟩ := List.mem_map.1 hmem
  refine ⟨job, hjob, (hf job).1.symm, (hf job).2.1.symm, ?_⟩
  by_contra hterminal
  rw [(hf job).2.2 (by simpa using hterminal)] at hruns
  cases hruns

theorem Evolves.refl (load : AdmissionLoadController) : Evolves load load :=
  ⟨id, (List.map_id _).symm, fun _ => ⟨rfl, rfl, id⟩⟩

private theorem evolves_enter (jobId : String) {phase : AdmissionLoadPhase} (h : phase.terminal = true) :
    Evolves load ((load.enter jobId phase).deactivate jobId) := by
  refine ⟨_, rfl, fun job => ?_⟩
  split
  · exact ⟨rfl, rfl, fun _ => h⟩
  · exact ⟨rfl, rfl, id⟩

theorem evolves_ramp (jobId : String) : Evolves load (load.ramp jobId) := by
  refine ⟨_, rfl, fun job => ?_⟩
  split
  · exact ⟨rfl, rfl, id⟩
  · exact ⟨rfl, rfl, id⟩

theorem evolves_saturate (jobId : String) : Evolves load (load.saturate jobId) := by
  refine ⟨_, rfl, fun job => ?_⟩
  split
  · rename_i hramping
    refine ⟨rfl, rfl, fun hterminal => ?_⟩
    rw [hramping.2] at hterminal
    cases hterminal
  · exact ⟨rfl, rfl, id⟩

theorem evolves_timeOut {jobId : String} {now : Int} (h : load.timeOut jobId now = some load') :
    Evolves load load' := by
  unfold timeOut at h
  split at h
  · cases h
  · split at h
    · cases h
      exact evolves_enter jobId rfl
    · cases h

theorem evolves_fail {jobId : String} (h : load.fail jobId = some load') : Evolves load load' := by
  unfold fail at h
  split at h
  · cases h
  · cases h
    exact evolves_enter jobId rfl

/-- A stop that goes through ends the job. -/
theorem stop_spec (load : AdmissionLoadController) (jobId : String) :
    Evolves load (load.stop jobId).2 ∧ ((load.stop jobId).1 = .ok () → (load.stop jobId).2.JobEnded jobId) := by
  unfold stop
  cases hjob : load.job? jobId with
  | none => exact ⟨Evolves.refl load, fun h => nomatch h⟩
  | some job =>
    refine ⟨evolves_enter jobId rfl, fun _ => ⟨{ job with phase := .stopped }, ?_, rfl⟩⟩
    have hjobs : ((load.enter jobId .stopped).deactivate jobId).jobs = load.jobs.map fun job =>
        if job.jobId = jobId then { job with phase := .stopped } else job := rfl
    rw [Evolves.job? hjobs fun job => by split <;> rfl, hjob, Option.map_some, if_pos (job?_spec hjob).2]

/-- A start that goes through answers with a job of the room: one that is there, or a new one. -/
theorem start_cases {roomId uuid : String} {now : Int} {job : AdmissionJob}
    (h : load.start roomId uuid now = (.ok job, load')) :
    job.roomId = roomId ∧ (load' = load ∧ load.job? job.jobId = some job ∨
      job.jobId = "admission-" ++ uuid ∧ load'.jobs = load.jobs ++ [job]) := by
  unfold start at h
  split at h
  · cases h
  · dsimp only at h
    split at h
    · cases h
      exact ⟨rfl, Or.inr ⟨rfl, rfl⟩⟩
    · rename_i active hactive
      split at h
      · cases h
        exact ⟨rfl, Or.inr ⟨rfl, rfl⟩⟩
      · split at h
        · rename_i hroom
          cases h
          refine ⟨hroom, Or.inl ⟨rfl, ?_⟩⟩
          obtain ⟨jobId, -, hjob⟩ := Option.bind_eq_some_iff.1 hactive
          rw [(job?_spec hjob).2]
          exact hjob
        · cases h

/-- A start that goes through with a fresh id keeps what there is. -/
theorem start_keeps {roomId uuid : String} {now : Int} {job : AdmissionJob} (hdistinct : load.Distinct)
    (hfresh : load.job? ("admission-" ++ uuid) = none) (h : load.start roomId uuid now = (.ok job, load')) :
    load'.Distinct ∧ (load'.job? job.jobId).isSome = true ∧
      (∀ jobId, (load.job? jobId).isSome = true → load'.job? jobId = load.job? jobId) ∧
      ∀ other ∈ load'.jobs, other ∈ load.jobs ∨ other = job := by
  obtain ⟨-, ⟨rfl, hjob⟩ | ⟨hid, hjobs⟩⟩ := start_cases h
  · exact ⟨hdistinct, by rw [hjob]; rfl, fun _ _ => rfl, fun _ hmem => Or.inl hmem⟩
  · have hnew : job.jobId ∉ load.jobs.map AdmissionJob.jobId := by
      intro hmem
      obtain ⟨other, hother, hsame⟩ := List.mem_map.1 hmem
      have hfound := hdistinct.job?_of_mem hother
      rw [hsame, hid, hfresh] at hfound
      cases hfound
    refine ⟨?_, ?_, ?_, ?_⟩
    · unfold Distinct
      rw [hjobs, List.map_append]
      exact List.Nodup.append hdistinct (List.nodup_singleton _) (List.disjoint_singleton.2 hnew)
    · unfold job?
      rw [hjobs, List.find?_isSome]
      exact ⟨job, List.mem_append_right _ (List.mem_singleton_self job), by simp⟩
    · intro jobId hsome
      obtain ⟨other, hother⟩ := Option.isSome_iff_exists.1 hsome
      unfold job? at hother ⊢
      rw [hjobs, List.find?_append, hother, Option.some_or]
    · intro other hmem
      rw [hjobs] at hmem
      exact (List.mem_append.1 hmem).imp_right List.mem_singleton.1

/-- A start that is refused leaves the jobs as they are. -/
theorem start_refused {roomId uuid message : String} {now : Int}
    (h : load.start roomId uuid now = (.error message, load')) : load' = load := by
  unfold start at h
  split at h
  · cases h
    rfl
  · dsimp only at h
    split at h
    · cases h
    · split at h
      · cases h
      · split at h
        · cases h
        · cases h
          rfl

end AdmissionLoadController

end Opsia
