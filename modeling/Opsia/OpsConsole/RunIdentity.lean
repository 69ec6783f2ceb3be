import Opsia.OpsConsole.FailureScenarios

/-!
# One run a room

`WellKept` is the invariant of the controller: an active run has not ended and belongs to one room, and a load job that
runs belongs to the active storm of its room.  `CallKept` says of a call that waits that its run is still the active one
of its room or has ended.  `Advances` is what may happen to the controller in between, as the other calls see it.  As
long as calls write to the entry of their own run, every uninterrupted stretch of a call advances the controller
(`goOn_good`), and a call that does not breaks the identity of runs at once (`run_identity_iff`).
-/

namespace Opsia

open Json

/-- The scenarios whose runs wait at a point. -/
def AwaitPoint.Fits (point : AwaitPoint) (scenarioId : FailureScenarioId) : Prop :=
  match point with
  | .health _ => scenarioId = .admissionStorm
  | .surgePoll .. => scenarioId = .botSurge
  | _ => scenarioId ≠ .admissionStorm

namespace FailureScenarioController

/-! ### What is kept -/

/-- The invariant of the controller. -/
structure WellKept (c : FailureScenarioController) : Prop where
  nodup : c.activeRuns.keys.Nodup
  created : ∀ roomId run, c.activeRuns.get? roomId = some run → run < c.runCount
  endedCreated : ∀ run ∈ c.ended, run < c.runCount
  inactive : ∀ roomId run, c.activeRuns.get? roomId = some run → run ∉ c.ended
  oneRoom : ∀ roomId roomId' run, c.activeRuns.get? roomId = some run → c.activeRuns.get? roomId' = some run →
    roomId = roomId'
  plain : ∀ run, (c.runs run).scenarioId ≠ .botSurge → (c.runs run).autoRecoverAtMs = none
  storm : ∀ roomId run, c.activeRuns.get? roomId = some run → (c.runs run).scenarioId = .admissionStorm →
    ∃ jobId, (c.runs run).jobId = some jobId ∧ (c.admissionLoad.job? jobId).isSome = true ∧
      ((c.runs run).status = .failed → c.admissionLoad.JobEnded jobId)
  distinct : c.admissionLoad.Distinct
  loaded : ∀ job ∈ c.admissionLoad.jobs, job.phase.terminal = false →
    ∃ run, c.activeRuns.get? job.roomId = some run ∧ (c.runs run).scenarioId = .admissionStorm ∧
      (c.runs run).jobId = some job.jobId

/-- What the calls that wait rely on, and what has become of the controller meanwhile. -/
structure Advances (c c' : FailureScenarioController) : Prop where
  wellKept : WellKept c'
  runCount_le : c.runCount ≤ c'.runCount
  ended : ∀ run ∈ c.ended, run ∈ c'.ended
  active : ∀ roomId run, c.activeRuns.get? roomId = some run →
    c'.activeRuns.get? roomId = some run ∨ run ∈ c'.ended
  scenarioId : ∀ run < c.runCount, (c'.runs run).scenarioId = (c.runs run).scenarioId
  jobId : ∀ run < c.runCount, (c.runs run).scenarioId = .admissionStorm → (c'.runs run).jobId = (c.runs run).jobId
  jobEnded : ∀ jobId, c.admissionLoad.JobEnded jobId → c'.admissionLoad.JobEnded jobId

/-- A call that waits. -/
structure CallKept (c : FailureScenarioController) (call : SuspendedCall) : Prop where
  created : call.run < c.runCount
  held : c.activeRuns.get? call.roomId = some call.run ∨ call.run ∈ c.ended
  fits : call.point.Fits (c.runs call.run).scenarioId
  phase : ∀ phase, call.point = .health phase → phase.terminal = true →
    ∃ jobId, (c.runs call.run).jobId = some jobId ∧ c.admissionLoad.JobEnded jobId

/-- An uninterrupted stretch of a call advances the controller and leaves a call behind that is kept. -/
structure Good (c : FailureScenarioController) (outcome : CallOutcome × FailureScenarioController) : Prop where
  advances : Advances c outcome.2
  call : ∀ call, outcome.1.call? = some call → CallKept outcome.2 call

variable {c c' c'' : FailureScenarioController}

theorem Advances.refl (h : WellKept c) : Advances c c where
  wellKept := h
  runCount_le := le_refl _
  ended := fun _ hrun => hrun
  active := fun _ _ hrun => Or.inl hrun
  scenarioId := fun _ _ => rfl
  jobId := fun _ _ _ => rfl
  jobEnded := fun _ hjob => hjob

theorem Advances.trans (h : Advances c c') (h' : Advances c' c'') : Advances c c'' where
  wellKept := h'.wellKept
  runCount_le := h.runCount_le.trans h'.runCount_le
  ended := fun run hrun => h'.ended run (h.ended run hrun)
  active := by
    intro roomId run hrun
    rcases h.active roomId run hrun with hactive | hended
    · exact h'.active roomId run hactive
    · exact Or.inr (h'.ended run hended)
  scenarioId := fun run hrun => (h'.scenarioId run (hrun.trans_le h.runCount_le)).trans (h.scenarioId run hrun)
  jobId := by
    intro run hrun hstorm
    have hstorm' : (c'.runs run).scenarioId = .admissionStorm := (h.scenarioId run hrun).trans hstorm
    exact (h'.jobId run (hrun.trans_le h.runCount_le) hstorm').trans (h.jobId run hrun hstorm)
  jobEnded := fun jobId hjob => h'.jobEnded jobId (h.jobEnded jobId hjob)

theorem CallKept.advances {call : SuspendedCall} (h : CallKept c call) (hadvances : Advances c c') :
    CallKept c' call where
  created := h.created.trans_le hadvances.runCount_le
  held := by
    rcases h.held with hactive | hended
    · exact hadvances.active _ _ hactive
    · exact Or.inr (hadvances.ended _ hended)
  fits := by
    rw [hadvances.scenarioId _ h.created]
    exact h.fits
  phase := by
    intro phase hpoint hterminal
    obtain ⟨jobId, hjob, hended⟩ := h.phase phase hpoint hterminal
    have hstorm : (c.runs call.run).scenarioId = .admissionStorm := by
      have hfits := h.fits
      rw [hpoint] at hfits
      exact hfits
    exact ⟨jobId, (hadvances.jobId _ h.created hstorm).trans hjob, hadvances.jobEnded _ hended⟩

theorem Advances.good {outcome : CallOutcome × FailureScenarioController} (h : Advances c c') (h' : Good c' outcome) :
    Good c outcome :=
  ⟨h.trans h'.advances, h'.call⟩

/-! ### Steps that change no entry -/

/-- The two controllers differ at most in what the invariant does not look at. -/
structure SameRuns (c c' : FailureScenarioController) : Prop where
  nodup : c'.activeRuns.keys.Nodup
  entries : ∀ roomId, c'.activeRuns.get? roomId = c.activeRuns.get? roomId
  runs : c'.runs = c.runs
  runCount : c'.runCount = c.runCount
  load : c'.admissionLoad = c.admissionLoad
  ended : c'.ended = c.ended

theorem SameRuns.wellKept (hsame : SameRuns c c') (h : WellKept c) : WellKept c' where
  nodup := hsame.nodup
  created := by
    simp only [hsame.entries, hsame.runCount]
    exact h.created
  endedCreated := by
    rw [hsame.ended, hsame.runCount]
    exact h.endedCreated
  inactive := by
    simp only [hsame.entries, hsame.ended]
    exact h.inactive
  oneRoom := by
    simp only [hsame.entries]
    exact h.oneRoom
  plain := by
    rw [hsame.runs]
    exact h.plain
  storm := by
    simp only [hsame.entries, hsame.runs, hsame.load]
    exact h.storm
  distinct := by
    rw [hsame.load]
    exact h.distinct
  loaded := by
    simp only [hsame.entries, hsame.runs, hsame.load]
    exact h.loaded

theorem SameRuns.advances (hsame : SameRuns c c') (h : WellKept c) : Advances c c' where
  wellKept := hsame.wellKept h
  runCount_le := hsame.runCount.ge
  ended := by
    rw [hsame.ended]
    exact fun _ hrun => hrun
  active := by
    simp only [hsame.entries]
    exact fun _ _ hrun => Or.inl hrun
  scenarioId := by
    rw [hsame.runs]
    exact fun _ _ => rfl
  jobId := by
    rw [hsame.runs]
    exact fun _ _ _ => rfl
  jobEnded := by
    rw [hsame.load]
    exact fun _ hjob => hjob

/-- Setting the entry of a room to the run it holds. -/
theorem sameRuns_put (h : WellKept c) {roomId : String} {run : RunId} (hentry : c.activeRuns.get? roomId = some run) :
    SameRuns c { c with activeRuns := c.activeRuns.put roomId run } where
  nodup := Fields.nodup_keys_put h.nodup roomId run
  entries := by
    intro other
    rw [Fields.get?_put]
    split
    · rename_i hother
      rw [hother, hentry]
    · rfl
  runs := rfl
  runCount := rfl
  load := rfl
  ended := rfl

@[simp] theorem startedOutcome_runs (c : FailureScenarioController) (roomId : String) (run : RunId) (message : String) :
    (c.startedOutcome roomId run message).2.runs = c.runs := rfl

theorem good_startedOutcome (h : WellKept c) {roomId : String} {run : RunId}
    (hentry : c.activeRuns.get? roomId = some run) (message : String) : Good c (c.startedOutcome roomId run message) :=
  ⟨(sameRuns_put h hentry).advances h, fun _ hcall => nomatch hcall⟩

theorem good_surgeFinally (h : WellKept c) {roomId : String} {run : RunId}
    (hentry : ∀ other, c.activeRuns.get? roomId = some other → other = run) : Good c (c.surgeFinally roomId run) := by
  refine ⟨SameRuns.advances ?_ h, fun _ hcall => nomatch hcall⟩
  unfold surgeFinally
  cases hrun : c.activeRuns.get? roomId with
  | none => exact ⟨h.nodup, fun _ => rfl, rfl, rfl, rfl, rfl⟩
  | some other =>
    have hput := sameRuns_put h (hrun.trans (congrArg some (hentry other hrun)))
    exact ⟨hput.nodup, hput.entries, rfl, rfl, rfl, rfl⟩

/-! ### Changing a run -/

/-- A change of a run that keeps what the invariant says of it. -/
structure KeepsRun (c : FailureScenarioController) (run : RunId) (f : MutableRun → MutableRun) : Prop where
  scenarioId : (f (c.runs run)).scenarioId = (c.runs run).scenarioId
  autoRecoverAtMs : (c.runs run).scenarioId ≠ .botSurge →
    (f (c.runs run)).autoRecoverAtMs = (c.runs run).autoRecoverAtMs
  jobId : (c.runs run).scenarioId = .admissionStorm → (f (c.runs run)).jobId = (c.runs run).jobId
  failed : (c.runs run).scenarioId = .admissionStorm → (f (c.runs run)).status = .failed →
    (c.runs run).status = .failed ∨ ∃ jobId, (c.runs run).jobId = some jobId ∧ c.admissionLoad.JobEnded jobId

theorem modifyRun_runs (c : FailureScenarioController) (run other : RunId) (f : MutableRun → MutableRun) :
    (c.modifyRun run f).runs other = if other = run then f (c.runs run) else c.runs other :=
  Function.update_apply ..

theorem advances_modifyRun (h : WellKept c) {run : RunId} {f : MutableRun → MutableRun} (hf : KeepsRun c run f) :
    Advances c (c.modifyRun run f) := by
  have hscenario : ∀ other, ((c.modifyRun run f).runs other).scenarioId = (c.runs other).scenarioId := by
    intro other
    rw [modifyRun_runs]
    split
    · rename_i hother
      rw [hother, hf.scenarioId]
    · rfl
  have hjob : ∀ other, (c.runs other).scenarioId = .admissionStorm →
      ((c.modifyRun run f).runs other).jobId = (c.runs other).jobId := by
    intro other hstorm
    rw [modifyRun_runs]
    split
    · rename_i hother
      rw [hother] at hstorm ⊢
      exact hf.jobId hstorm
    · rfl
  refine ⟨⟨h.nodup, h.created, h.endedCreated, h.inactive, h.oneRoom, ?_, ?_, h.distinct, ?_⟩, le_refl _,
    fun _ hrun => hrun, fun _ _ hrun => Or.inl hrun, fun other _ => hscenario other, fun other _ => hjob other,
    fun _ hended => hended⟩
  · intro other hplain
    rw [hscenario] at hplain
    rw [modifyRun_runs]
    split
    · rename_i hother
      rw [hother] at hplain
      rw [hf.autoRecoverAtMs hplain]
      exact h.plain run hplain
    · exact h.plain other hplain
  · intro roomId other hentry hstorm
    rw [hscenario] at hstorm
    rw [hjob other hstorm]
    obtain ⟨jobId, hjobId, hsome, hfailed⟩ := h.storm roomId other hentry hstorm
    refine ⟨jobId, hjobId, hsome, fun hstatus => ?_⟩
    rw [modifyRun_runs] at hstatus
    split at hstatus
    · rename_i hother
      rw [hother] at hstorm hjobId hfailed
      rcases hf.failed hstorm hstatus with hbefore | ⟨ended, hended, hover⟩
      · exact hfailed hbefore
      · rw [hjobId, Option.some.injEq] at hended
        rw [hended]
        exact hover
    · exact hfailed hstatus
  · intro job hmem hruns
    obtain ⟨other, hentry, hstorm, hjobId⟩ := h.loaded job hmem hruns
    exact ⟨other, hentry, (hscenario other).trans hstorm, (hjob other hstorm).trans hjobId⟩

/-- A status other than `failed` can always be set. -/
theorem keepsRun_status (run : RunId) {status : FailureScenarioStatus} (h : status ≠ .failed) :
    KeepsRun c run fun r => { r with status } :=
  ⟨rfl, fun _ => rfl, fun _ => rfl, fun _ hfailed => absurd hfailed h⟩

/-- A run that is no storm can be changed in everything but its scenario and its recovery time. -/
theorem keepsRun_of_ne {run : RunId} {f : MutableRun → MutableRun} (h : (c.runs run).scenarioId ≠ .admissionStorm)
    (hscenario : (f (c.runs run)).scenarioId = (c.runs run).scenarioId)
    (hauto : (f (c.runs run)).autoRecoverAtMs = (c.runs run).autoRecoverAtMs) : KeepsRun c run f :=
  ⟨hscenario, fun _ => hauto, fun hstorm => absurd hstorm h, fun hstorm => absurd hstorm h⟩

/-! ### Ending a run -/

/-- The run ends, and the entry of its room is deleted. -/
structure Drops (c c' : FailureScenarioController) (roomId : String) (run : RunId) : Prop where
  nodup : c'.activeRuns.keys.Nodup
  entries : ∀ other, c'.activeRuns.get? other = if other = roomId then none else c.activeRuns.get? other
  ended : c'.ended = c.ended ++ [run]
  runs : c'.runs = c.runs
  runCount : c'.runCount = c.runCount
  load : c'.admissionLoad = c.admissionLoad

/-- A run that is the active one of a room, or has ended, while no other run is active there, and whose load job, if it
is a storm, has ended. -/
structure Droppable (c : FailureScenarioController) (roomId : String) (run : RunId) : Prop where
  created : run < c.runCount
  held : c.activeRuns.get? roomId = some run ∨ run ∈ c.ended
  entry : ∀ other, c.activeRuns.get? roomId = some other → other = run
  quiet : (c.runs run).scenarioId = .admissionStorm →
    ∃ jobId, (c.runs run).jobId = some jobId ∧ c.admissionLoad.JobEnded jobId

theorem Drops.advances {roomId : String} {run : RunId} (hdrops : Drops c c' roomId run) (h : WellKept c)
    (hrun : Droppable c roomId run) : Advances c c' := by
  have hbefore : ∀ {other run'}, c'.activeRuns.get? other = some run' →
      other ≠ roomId ∧ c.activeRuns.get? other = some run' := by
    intro other run' hentry
    rw [hdrops.entries] at hentry
    split at hentry
    · cases hentry
    · exact ⟨by assumption, hentry⟩
  refine ⟨⟨hdrops.nodup, ?_, ?_, ?_, ?_, ?_, ?_, ?_, ?_⟩, hdrops.runCount.ge, ?_, ?_, ?_, ?_, ?_⟩
  · intro other run' hentry
    rw [hdrops.runCount]
    exact h.created other run' (hbefore hentry).2
  · rw [hdrops.ended, hdrops.runCount]
    intro run' hmem
    rcases List.mem_append.1 hmem with hmem | hmem
    · exact h.endedCreated run' hmem
    · rw [List.mem_singleton.1 hmem]
      exact hrun.created
  · intro other run' hentry hmem
    obtain ⟨hne, hentry⟩ := hbefore hentry
    rw [hdrops.ended] at hmem
    rcases List.mem_append.1 hmem with hmem | hmem
    · exact h.inactive other run' hentry hmem
    · -- the run that ends is active in no other room
      rw [List.mem_singleton.1 hmem] at hentry
      rcases hrun.held with hactive | hended
      · exact hne (h.oneRoom other roomId run hentry hactive)
      · exact h.inactive other run hentry hended
  · intro other other' run' hentry hentry'
    exact h.oneRoom other other' run' (hbefore hentry).2 (hbefore hentry').2
  · rw [hdrops.runs]
    exact h.plain
  · intro other run' hentry
    rw [hdrops.runs, hdrops.load]
    exact h.storm other run' (hbefore hentry).2
  · rw [hdrops.load]
    exact h.distinct
  · rw [hdrops.load, hdrops.runs]
    intro job hmem hruns
    obtain ⟨run', hentry, hstorm, hjobId⟩ := h.loaded job hmem hruns
    refine ⟨run', ?_, hstorm, hjobId⟩
    rw [hdrops.entries, if_neg ?_]
    · exact hentry
    · -- the job of the run that ends has ended
      intro hroom
      rw [hroom] at hentry
      rw [hrun.entry run' hentry] at hstorm hjobId
      obtain ⟨jobId, hjob, hended⟩ := hrun.quiet hstorm
      rw [hjobId, Option.some.injEq] at hjob
      rw [← hjob] at hended
      exact h.distinct.not_jobEnded hmem hruns hended
  · intro run' hmem
    rw [hdrops.ended]
    exact List.mem_append_left _ hmem
  · intro other run' hentry
    by_cases hother : other = roomId
    · rw [hother] at hentry
      rw [hdrops.ended, hrun.entry run' hentry]
      exact Or.inr (List.mem_append_right _ (List.mem_singleton_self run))
    · rw [hdrops.entries, if_neg hother]
      exact Or.inl hentry
  · rw [hdrops.runs]
    exact fun _ _ => rfl
  · rw [hdrops.runs]
    exact fun _ _ _ => rfl
  · rw [hdrops.load]
    exact fun _ hended => hended

theorem drops_endRun (h : WellKept c) (roomId : String) (run : RunId) (message : String) :
    Drops c (c.endRun roomId run message) roomId run :=
  ⟨Fields.nodup_keys_remove h.nodup roomId, Fields.get?_remove _ _, rfl, rfl, rfl, rfl⟩

theorem good_startFailed (h : WellKept c) {roomId : String} {run : RunId} (hrun : Droppable c roomId run)
    (error : FailureScenarioError) : Good c (c.startFailed roomId run error) := by
  have hdrops : Drops c (c.startFailed roomId run error).2 roomId run :=
    ⟨Fields.nodup_keys_remove h.nodup roomId, Fields.get?_remove _ _, rfl, rfl, rfl, rfl⟩
  exact ⟨hdrops.advances h hrun, fun _ hcall => nomatch hcall⟩

theorem advances_endRun (h : WellKept c) {roomId : String} {run : RunId} (hrun : Droppable c roomId run)
    (message : String) : Advances c (c.endRun roomId run message) :=
  (drops_endRun h roomId run message).advances h hrun

/-- An active run can be dropped if it is no storm, or a storm that has failed. -/
theorem droppable_of_entry (h : WellKept c) {roomId : String} {run : RunId}
    (hentry : c.activeRuns.get? roomId = some run)
    (hstorm : (c.runs run).scenarioId = .admissionStorm → (c.runs run).status = .failed) :
    Droppable c roomId run where
  created := h.created roomId run hentry
  held := Or.inl hentry
  entry := by
    intro other hother
    rw [hentry, Option.some.injEq] at hother
    exact hother.symm
  quiet := by
    intro hscenario
    obtain ⟨jobId, hjobId, -, hended⟩ := h.storm roomId run hentry hscenario
    exact ⟨jobId, hjobId, hended (hstorm hscenario)⟩

/-- So can the run of a call that waits, if it is no storm and no other run is active in its room. -/
theorem CallKept.droppable {call : SuspendedCall} (h : CallKept c call)
    (hentry : ∀ other, c.activeRuns.get? call.roomId = some other → other = call.run)
    (hne : (c.runs call.run).scenarioId ≠ .admissionStorm) : Droppable c call.roomId call.run where
  created := h.created
  held := h.held
  entry := hentry
  quiet := fun hstorm => absurd hstorm hne

/-! ### Runs that are no surge do not expire -/

theorem endWhere_eq_self {p : MutableRun → Bool} (h : ∀ run, p (c.runs run) = false) (message : String) :
    c.endWhere p message = c := by
  unfold endWhere
  have hfold : ∀ entries : Fields RunId, entries.foldl (fun c' entry =>
      if p (c.runs entry.2) then c'.endRun entry.1 entry.2 message else c') c = c := by
    intro entries
    induction entries with
    | nil => rfl
    | cons entry entries ih =>
      rw [List.foldl_cons, if_neg (by rw [h]; exact Bool.false_ne_true)]
      exact ih
  exact hfold c.activeRuns

/-- No run is ever recovered for its time: only surges get one, and surges are passed over. -/
theorem expireAutomaticRuns_eq (h : WellKept c) : c.expireAutomaticRuns = c := by
  refine endWhere_eq_self (fun run => ?_) _
  unfold expired
  by_cases hsurge : (c.runs run).scenarioId = .botSurge
  · cases (c.runs run).autoRecoverAtMs with
    | none => rfl
    | some autoRecoverAtMs => simp [hsurge]
  · rw [h.plain run hsurge]

/-- Ending the runs that have failed. -/
theorem advances_endFailed (h : WellKept c) : Advances c c.endFailed := by
  have hfold : ∀ (entries : Fields RunId) (c' : FailureScenarioController), WellKept c' → c'.runs = c.runs →
      entries.keys.Nodup → (∀ entry ∈ entries, c'.activeRuns.get? entry.1 = some entry.2) →
      Advances c' (entries.foldl (fun c' entry =>
        if decide ((c.runs entry.2).status = .failed) then c'.endRun entry.1 entry.2 scenarioFailedMessage else c') c') := by
    intro entries
    induction entries with
    | nil => exact fun c' hc' _ _ _ => Advances.refl hc'
    | cons entry entries ih =>
      intro c' hc' hruns hnodup hentries
      obtain ⟨hnotmem, hnodup⟩ := List.nodup_cons.1 hnodup
      have hentry := hentries entry (List.mem_cons_self ..)
      rw [List.foldl_cons]
      split
      · rename_i hfailed
        have hdrop := droppable_of_entry hc' hentry fun _ => by
          rw [hruns]
          exact of_decide_eq_true hfailed
        have hadvances := advances_endRun hc' hdrop scenarioFailedMessage
        refine hadvances.trans (ih _ hadvances.wellKept hruns hnodup fun other hother => ?_)
        rw [(drops_endRun hc' entry.1 entry.2 scenarioFailedMessage).entries, if_neg ?_]
        · exact hentries other (List.mem_cons_of_mem _ hother)
        · intro hsame
          have hkey := Fields.mem_keys_of_mem hother
          rw [hsame] at hkey
          exact hnotmem hkey
      · exact ih c' hc' hruns hnodup fun other hother => hentries other (List.mem_cons_of_mem _ hother)
  exact hfold c.activeRuns c h rfl h.nodup fun entry hentry => Fields.get?_of_mem h.nodup hentry

/-! ### Going on behind a wait -/

theorem good_completeRun (h : WellKept c) {roomId : String} {run : RunId} (hrun : Droppable c roomId run)
    (outcome : CallOutcome) (houtcome : outcome.call? = none) (message : String) (loadStopped : Bool) :
    Good c (outcome, (c.completeRun roomId run message loadStopped).2) := by
  refine ⟨advances_endRun h hrun message, fun call hcall => ?_⟩
  dsimp only at hcall
  rw [houtcome] at hcall
  cases hcall

theorem good_settled (h : Advances c c') : Good c (.settled, c') := ⟨h, fun _ hcall => nomatch hcall⟩

theorem good_returned (h : Advances c c') (result : Except FailureScenarioError FailureScenarioActionResult) :
    Good c (.returned result, c') := ⟨h, fun _ hcall => nomatch hcall⟩

/-- A call that waits again for the same run. -/
theorem good_suspended (h : Advances c c') {call : SuspendedCall} (hcall : CallKept c' call) :
    Good c (.suspended call, c') := by
  refine ⟨h, fun call' hcall' => ?_⟩
  cases hcall'
  exact hcall

theorem good_surgeTick (h : WellKept c) {roomId : String} {run : RunId} (refresh : Nat) {tickP95Ms : Rat}
    (jobIds : List String) (hcreated : run < c.runCount)
    (hheld : c.activeRuns.get? roomId = some run ∨ run ∈ c.ended) (hsurge : (c.runs run).scenarioId = .botSurge)
    (hentry : surgeDecision (c.runs run) tickP95Ms c.now = .release ∨
      (∃ count, surgeDecision (c.runs run) tickP95Ms c.now = .ramp count) ∨
      ∀ other, c.activeRuns.get? roomId = some other → other = run) :
    Good c (c.surgeTick roomId run refresh tickP95Ms jobIds) := by
  have hne : (c.runs run).scenarioId ≠ .admissionStorm := by
    rw [hsurge]
    decide
  have hpeak : Advances c (c.modifyRun run fun r =>
      { r with surgePeakTickP95Ms := some (max (r.surgePeakTickP95Ms.getD 0) tickP95Ms) }) :=
    advances_modifyRun h (keepsRun_of_ne hne rfl rfl)
  unfold surgeTick
  dsimp only
  -- the peak has no say in the decision
  have hdecision : ∀ peak now, surgeDecision { c.runs run with surgePeakTickP95Ms := peak } tickP95Ms now =
      surgeDecision (c.runs run) tickP95Ms now := fun _ _ => rfl
  rw [modifyRun_runs, if_pos rfl, hdecision]
  generalize hc₁ : (c.modifyRun run fun r =>
    { r with surgePeakTickP95Ms := some (max (r.surgePeakTickP95Ms.getD 0) tickP95Ms) }) = c₁ at hpeak ⊢
  have hnow : c₁.now = c.now := by rw [← hc₁]; rfl
  have hactive : c₁.activeRuns = c.activeRuns := by rw [← hc₁]; rfl
  have hcall : ∀ point : AwaitPoint, point.Fits .botSurge → (∀ phase, point ≠ .health phase) →
      CallKept c₁ { roomId, run, refresh := some refresh, point } := by
    intro point hfits hhealth
    have hkept : CallKept c { roomId, run, refresh := some refresh, point } :=
      ⟨hcreated, hheld, by rw [hsurge]; exact hfits, fun phase hpoint => absurd hpoint (hhealth phase)⟩
    exact hkept.advances hpeak
  have hne₁ : (c₁.runs run).scenarioId = .botSurge := (hpeak.scenarioId run hcreated).trans hsurge
  have hown : (∀ other, c.activeRuns.get? roomId = some other → other = run) →
      ∀ f : MutableRun → MutableRun, KeepsRun c₁ run f → Good c ((c₁.modifyRun run f).surgeFinally roomId run) := by
    intro hown f hf
    have hchange := advances_modifyRun hpeak.wellKept hf
    refine (hpeak.trans hchange).good ?_
    refine good_surgeFinally hchange.wellKept fun other hother => hown other ?_
    rw [← hactive]
    exact hother
  rw [hnow]
  cases hcase : surgeDecision (c.runs run) tickP95Ms c.now with
  | hold =>
    rcases hentry with hwaits | ⟨count, hwaits⟩ | hentry
    · cases hcase.symm.trans hwaits
    · cases hcase.symm.trans hwaits
    · exact hown hentry _ (keepsRun_status run (by decide))
  | finish =>
    rcases hentry with hwaits | ⟨count, hwaits⟩ | hentry
    · cases hcase.symm.trans hwaits
    · cases hcase.symm.trans hwaits
    · refine hown hentry _ ⟨rfl, fun hplain => absurd hne₁ hplain, fun hstorm => ?_, fun hstorm => ?_⟩
      · cases hne₁.symm.trans hstorm
      · cases hne₁.symm.trans hstorm
  | release => exact good_suspended hpeak (hcall _ (by unfold AwaitPoint.Fits; decide) fun _ hpoint => nomatch hpoint)
  | wait =>
    rcases hentry with hwaits | ⟨count, hwaits⟩ | hentry
    · cases hcase.symm.trans hwaits
    · cases hcase.symm.trans hwaits
    · refine hpeak.good (good_surgeFinally hpeak.wellKept fun other hother => hentry other ?_)
      rw [← hactive]
      exact hother
  | ramp count =>
    refine good_suspended hpeak (hcall _ ?_ fun _ hpoint => nomatch hpoint)
    show FailureScenarioId.botSurge ≠ .admissionStorm
    decide

/-- A change of a run that is no storm, and the answer of its start. -/
private theorem good_startAnswered (h : WellKept c) {roomId : String} {run : RunId} {f : MutableRun → MutableRun}
    (hf : KeepsRun c run f) (hentry : c.activeRuns.get? roomId = some run) (message : String) :
    Good c ((c.modifyRun run f).startedOutcome roomId run message) := by
  have hchange := advances_modifyRun h hf
  exact hchange.good (good_startedOutcome hchange.wellKept hentry message)

private theorem good_surgeEnds (h : WellKept c) {roomId : String} {run : RunId} {f : MutableRun → MutableRun}
    (hf : KeepsRun c run f) (hentry : ∀ other, c.activeRuns.get? roomId = some other → other = run) :
    Good c ((c.modifyRun run f).surgeFinally roomId run) := by
  have hchange := advances_modifyRun h hf
  exact hchange.good (good_surgeFinally hchange.wellKept hentry)

open FailureScenarios in
/-- A call that writes to the entry of its own run only advances the controller when it goes on. -/
theorem goOn_good (h : WellKept c) {call : SuspendedCall} (hcall : CallKept c call)
    {answer : Except FailureScenarioError (Option BotJob)} {outcome : CallOutcome × FailureScenarioController}
    (hgo : c.goOn call answer = some outcome) (howns : WritesOwnEntry c call answer) : Good c outcome := by
  obtain ⟨roomId, run, refresh, point⟩ := call
  have hfits := hcall.fits
  cases point with
  | startJoinLock =>
    rcases answer with error | _ | job
    · cases hgo
      exact good_startFailed h (hcall.droppable howns hfits) error
    · cases hgo
      exact good_startAnswered h (keepsRun_status run (by decide)) howns _
    · cases hgo
  | startSurge count maxBots tickP95Ms =>
    rcases answer with error | _ | job
    · cases hgo
      exact good_startFailed h (hcall.droppable howns hfits) error
    · cases hgo
    · cases hgo
      exact good_startAnswered h (keepsRun_of_ne hfits rfl rfl) howns _
  | startMalicious =>
    rcases answer with error | _ | job
    · cases hgo
      exact good_startFailed h (hcall.droppable howns hfits) error
    · cases hgo
    · cases hgo
      exact good_startAnswered h (keepsRun_of_ne hfits rfl rfl) howns _
  | startProcessCrash =>
    rcases answer with error | _ | job
    · cases hgo
      exact good_startFailed h (hcall.droppable howns hfits) error
    · cases hgo
      exact good_startAnswered h (keepsRun_status run (by decide)) howns _
    · cases hgo
  | startPodFailure =>
    rcases answer with error | _ | job
    · cases hgo
      exact good_startFailed h (hcall.droppable howns hfits) error
    · cases hgo
      exact good_startAnswered h (keepsRun_status run (by decide)) howns _
    · cases hgo
  | recovery =>
    rcases answer with error | _ | job
    · cases hgo
      exact good_returned (Advances.refl h) _
    · cases hgo
      exact good_completeRun h (hcall.droppable howns hfits) _ rfl _ _
    · cases hgo
  | jobPoll =>
    rcases answer with error | _ | job
    · cases hgo
      exact good_settled (Advances.refl h)
    · cases hgo
      exact good_settled (Advances.refl h)
    · cases hgo
      have hchange : ∀ status, Advances c (c.setStatus run status) := fun status =>
        advances_modifyRun h (keepsRun_of_ne hfits rfl rfl)
      exact good_settled ((hchange _).trans ((sameRuns_put (hchange _).wellKept howns).advances (hchange _).wellKept))
  | health phase =>
    have hkeeps : KeepsRun c run fun r => { r with status := if phase = .failed then .failed else .active } := by
      refine ⟨rfl, fun _ => rfl, fun _ => rfl, fun _ hfailed => Or.inr (hcall.phase phase rfl ?_)⟩
      by_cases hphase : phase = .failed
      · rw [hphase]
        rfl
      · dsimp only at hfailed
        rw [if_neg hphase] at hfailed
        cases hfailed
    have hchange := advances_modifyRun h hkeeps
    have hcall' := hcall.advances hchange
    have hgood : ∀ outcome : CallOutcome × FailureScenarioController,
        (if phase = .safetyTimeout then
          some (CallOutcome.settled, ((c.setStatus run (if phase = .failed then .failed else .active)).completeRun roomId
            run "안전 제한 시간에 도달해 장애 부하만 중단했습니다. 서비스 복구로 처리하지 않습니다." false).2)
        else some (.settled, c.setStatus run (if phase = .failed then .failed else .active))) = some outcome →
        Good c outcome := by
      intro outcome houtcome
      by_cases hphase : phase = .safetyTimeout
      · rw [if_pos hphase] at houtcome
        cases houtcome
        have hentry : ∀ other, c.activeRuns.get? roomId = some other → other = run := by
          unfold WritesOwnEntry entryWrite at howns
          dsimp only at howns
          rw [if_pos hphase] at howns
          exact howns
        refine hchange.good (good_completeRun hchange.wellKept ⟨hcall'.created, hcall'.held, hentry, fun _ => ?_⟩ _ rfl _ _)
        exact hcall'.phase phase rfl (by rw [hphase]; rfl)
      · rw [if_neg hphase] at houtcome
        cases houtcome
        exact good_settled hchange
    rcases answer with error | _ | job
    · exact hgood outcome hgo
    · exact hgood outcome hgo
    · cases hgo
  | surgePoll tickP95Ms jobIds =>
    have hne : (c.runs run).scenarioId ≠ .admissionStorm := by
      rw [show (c.runs run).scenarioId = .botSurge from hfits]
      decide
    rcases answer with error | _ | ⟨jobId, state⟩
    · cases hgo
      exact good_surgeFinally h howns
    · cases hgo
      exact good_surgeFinally h howns
    · have htick : (surgeDecision (c.runs run) tickP95Ms c.now = .release ∨
          (∃ count, surgeDecision (c.runs run) tickP95Ms c.now = .ramp count) ∨
          ∀ other, c.activeRuns.get? roomId = some other → other = run) →
          Good c ((c.setStatus run .active).surgeTick roomId run (refresh.getD 0) tickP95Ms jobIds) := by
        intro hentry
        have hchange := advances_modifyRun h (keepsRun_status run (show FailureScenarioStatus.active ≠ .failed by decide))
        have hcall' := hcall.advances hchange
        refine hchange.good (good_surgeTick hchange.wellKept _ jobIds hcall'.created hcall'.held hcall'.fits ?_)
        rw [modifyRun_runs, if_pos rfl]
        exact hentry
      -- once the job is done the decision says whether the surge writes to the entry
      have hdecided : entryWrite c { roomId, run, refresh, point := .surgePoll tickP95Ms jobIds }
          (.ok (some ⟨jobId, state⟩)) =
            entryWrite c { roomId, run, refresh, point := .surgePoll tickP95Ms jobIds }
              (.ok (some ⟨jobId, .completed⟩)) →
          Good c ((c.setStatus run .active).surgeTick roomId run (refresh.getD 0) tickP95Ms jobIds) := by
        intro hwrite
        unfold WritesOwnEntry at howns
        rw [hwrite] at howns
        unfold entryWrite at howns
        dsimp only at howns
        refine htick ?_
        cases hcase : surgeDecision (c.runs run) tickP95Ms c.now with
        | release => exact Or.inl rfl
        | ramp count => exact Or.inr (Or.inl ⟨count, rfl⟩)
        | hold =>
          rw [hcase] at howns
          exact Or.inr (Or.inr howns)
        | finish =>
          rw [hcase] at howns
          exact Or.inr (Or.inr howns)
        | wait =>
          rw [hcase] at howns
          exact Or.inr (Or.inr howns)
      cases state with
      | failed =>
        cases hgo
        exact good_surgeEnds h (keepsRun_of_ne hne rfl rfl) howns
      | running =>
        cases hgo
        exact good_surgeEnds h (keepsRun_status run (by decide)) howns
      | completed =>
        cases hgo
        exact hdecided rfl
      | cancelled =>
        cases hgo
        exact hdecided rfl
  | surgeCleanup =>
    rcases answer with error | _ | job
    · cases hgo
      exact good_surgeEnds h (keepsRun_status run (by decide)) howns
    · cases hgo
      have hends := advances_endRun h (hcall.droppable howns hfits)
        "Tick 부하 유지가 끝나 장애 봇을 자동으로 정리했습니다."
      refine hends.good (good_surgeFinally hends.wellKept fun other hother => ?_)
      rw [(drops_endRun h roomId run _).entries, if_pos rfl] at hother
      cases hother
    · cases hgo
  | surgeRamp count requestedBots jobIds now =>
    rcases answer with error | _ | job
    · cases hgo
      exact good_surgeEnds h (keepsRun_of_ne hfits rfl rfl) howns
    · cases hgo
    · cases hgo
      exact good_surgeEnds h (keepsRun_of_ne hfits rfl rfl) howns

/-! ### Starting a run -/

/-- A new run that is the active one of its room: if it is a storm, it has its load job. -/
structure Creates (c c' : FailureScenarioController) (roomId : String) : Prop where
  nodup : c'.activeRuns.keys.Nodup
  entries : ∀ other, c'.activeRuns.get? other = if other = roomId then some c.runCount else c.activeRuns.get? other
  ended : c'.ended = c.ended
  runs : ∀ other, other ≠ c.runCount → c'.runs other = c.runs other
  runCount : c'.runCount = c.runCount + 1
  plain : (c'.runs c.runCount).autoRecoverAtMs = none
  storm : (c'.runs c.runCount).scenarioId = .admissionStorm → ∃ jobId,
    (c'.runs c.runCount).jobId = some jobId ∧ (c'.admissionLoad.job? jobId).isSome = true ∧
      (c'.runs c.runCount).status ≠ .failed
  distinct : c'.admissionLoad.Distinct
  jobs : ∀ jobId, (c.admissionLoad.job? jobId).isSome = true → c'.admissionLoad.job? jobId = c.admissionLoad.job? jobId
  loaded : ∀ job ∈ c'.admissionLoad.jobs, job ∈ c.admissionLoad.jobs ∨
    job.roomId = roomId ∧ (c'.runs c.runCount).scenarioId = .admissionStorm ∧
      (c'.runs c.runCount).jobId = some job.jobId

theorem Creates.advances {roomId : String} (hcreates : Creates c c' roomId) (h : WellKept c)
    (hnone : c.activeRuns.get? roomId = none) : Advances c c' := by
  have hbefore : ∀ {other run}, c'.activeRuns.get? other = some run →
      other = roomId ∧ run = c.runCount ∨ other ≠ roomId ∧ c.activeRuns.get? other = some run := by
    intro other run hentry
    rw [hcreates.entries] at hentry
    split at hentry
    · exact Or.inl ⟨by assumption, (Option.some.inj hentry).symm⟩
    · exact Or.inr ⟨by assumption, hentry⟩
  have hold : ∀ {other run}, c.activeRuns.get? other = some run → other ≠ roomId := by
    intro other run hentry hother
    rw [hother, hnone] at hentry
    cases hentry
  have hruns : ∀ run < c.runCount, c'.runs run = c.runs run := fun run hrun => hcreates.runs run (Nat.ne_of_lt hrun)
  have hended : ∀ jobId, c.admissionLoad.JobEnded jobId → c'.admissionLoad.JobEnded jobId := by
    rintro jobId ⟨job, hjob, hterminal⟩
    refine ⟨job, ?_, hterminal⟩
    rw [hcreates.jobs jobId (by rw [hjob]; rfl), hjob]
  refine ⟨⟨hcreates.nodup, ?_, ?_, ?_, ?_, ?_, ?_, hcreates.distinct, ?_⟩, ?_, ?_, ?_, ?_, ?_, hended⟩
  · intro other run hentry
    rw [hcreates.runCount]
    rcases hbefore hentry with ⟨-, hrun⟩ | ⟨-, hentry⟩
    · rw [hrun]
      exact Nat.lt_succ_self _
    · exact Nat.lt_succ_of_lt (h.created other run hentry)
  · rw [hcreates.ended, hcreates.runCount]
    intro run hmem
    exact Nat.lt_succ_of_lt (h.endedCreated run hmem)
  · intro other run hentry hmem
    rw [hcreates.ended] at hmem
    rcases hbefore hentry with ⟨-, hrun⟩ | ⟨-, hentry⟩
    · exact absurd hrun (Nat.ne_of_lt (h.endedCreated run hmem))
    · exact h.inactive other run hentry hmem
  · intro other other' run hentry hentry'
    rcases hbefore hentry with ⟨hother, hrun⟩ | ⟨-, hentry⟩
    · rcases hbefore hentry' with ⟨hother', -⟩ | ⟨-, hentry'⟩
      · rw [hother, hother']
      · exact absurd hrun (Nat.ne_of_lt (h.created other' run hentry'))
    · rcases hbefore hentry' with ⟨-, hrun⟩ | ⟨-, hentry'⟩
      · exact absurd hrun (Nat.ne_of_lt (h.created other run hentry))
      · exact h.oneRoom other other' run hentry hentry'
  · intro run hplain
    by_cases hrun : run = c.runCount
    · rw [hrun]
      exact hcreates.plain
    · rw [hcreates.runs run hrun] at hplain ⊢
      exact h.plain run hplain
  · intro other run hentry hstorm
    rcases hbefore hentry with ⟨-, hrun⟩ | ⟨-, hentry⟩
    · rw [hrun] at hstorm ⊢
      obtain ⟨jobId, hjobId, hsome, hstatus⟩ := hcreates.storm hstorm
      exact ⟨jobId, hjobId, hsome, fun hfailed => absurd hfailed hstatus⟩
    · rw [hruns run (h.created other run hentry)] at hstorm ⊢
      obtain ⟨jobId, hjobId, hsome, hfailed⟩ := h.storm other run hentry hstorm
      exact ⟨jobId, hjobId, by rw [hcreates.jobs jobId hsome]; exact hsome, fun hstatus => hended _ (hfailed hstatus)⟩
  · intro job hmem hterminal
    rcases hcreates.loaded job hmem with hmem | ⟨hroom, hstorm, hjobId⟩
    · obtain ⟨run, hentry, hstorm, hjobId⟩ := h.loaded job hmem hterminal
      refine ⟨run, ?_, ?_⟩
      · rw [hcreates.entries, if_neg (hold hentry)]
        exact hentry
      · rw [hruns run (h.created _ run hentry)]
        exact ⟨hstorm, hjobId⟩
    · refine ⟨c.runCount, ?_, hstorm, hjobId⟩
      rw [hcreates.entries, if_pos hroom]
  · rw [hcreates.runCount]
    exact Nat.le_succ _
  · rw [hcreates.ended]
    exact fun _ hmem => hmem
  · intro other run hentry
    rw [hcreates.entries, if_neg (hold hentry)]
    exact Or.inl hentry
  · intro run hrun
    rw [hruns run hrun]
  · intro run hrun _
    rw [hruns run hrun]

/-- A run that is created and fails to start at once. -/
theorem advances_stillborn (h : WellKept c)
    (hnodup : c'.activeRuns.keys.Nodup) (hentries : ∀ other, c'.activeRuns.get? other = c.activeRuns.get? other)
    (hended : c'.ended = c.ended ++ [c.runCount]) (hruns : ∀ other, other ≠ c.runCount → c'.runs other = c.runs other)
    (hplain : (c'.runs c.runCount).autoRecoverAtMs = none) (hcount : c'.runCount = c.runCount + 1)
    (hload : c'.admissionLoad = c.admissionLoad) : Advances c c' := by
  have hruns' : ∀ run < c.runCount, c'.runs run = c.runs run := fun run hrun => hruns run (Nat.ne_of_lt hrun)
  refine ⟨⟨hnodup, ?_, ?_, ?_, ?_, ?_, ?_, ?_, ?_⟩, ?_, ?_, ?_, ?_, ?_, ?_⟩
  · intro other run hentry
    rw [hentries] at hentry
    rw [hcount]
    exact Nat.lt_succ_of_lt (h.created other run hentry)
  · rw [hended, hcount]
    intro run hmem
    rcases List.mem_append.1 hmem with hmem | hmem
    · exact Nat.lt_succ_of_lt (h.endedCreated run hmem)
    · rw [List.mem_singleton.1 hmem]
      exact Nat.lt_succ_self _
  · intro other run hentry hmem
    rw [hentries] at hentry
    rw [hended] at hmem
    rcases List.mem_append.1 hmem with hmem | hmem
    · exact h.inactive other run hentry hmem
    · exact absurd (List.mem_singleton.1 hmem) (Nat.ne_of_lt (h.created other run hentry))
  · simp only [hentries]
    exact h.oneRoom
  · intro run hsurge
    by_cases hrun : run = c.runCount
    · rw [hrun]
      exact hplain
    · rw [hruns run hrun] at hsurge ⊢
      exact h.plain run hsurge
  · intro other run hentry
    rw [hentries] at hentry
    rw [hruns' run (h.created other run hentry), hload]
    exact h.storm other run hentry
  · rw [hload]
    exact h.distinct
  · rw [hload]
    intro job hmem hterminal
    obtain ⟨run, hentry, hstorm⟩ := h.loaded job hmem hterminal
    refine ⟨run, ?_, ?_⟩
    · rw [hentries]
      exact hentry
    · rw [hruns' run (h.created _ run hentry)]
      exact hstorm
  · rw [hcount]
    exact Nat.le_succ _
  · rw [hended]
    exact fun _ hmem => List.mem_append_left _ hmem
  · intro other run hentry
    rw [hentries]
    exact Or.inl hentry
  · intro run hrun
    rw [hruns' run hrun]
  · intro run hrun _
    rw [hruns' run hrun]
  · rw [hload]
    exact fun _ hjob => hjob

/-- The controller with the new run of a start. -/
private def created (c : FailureScenarioController) (roomId : String) (scenarioId : FailureScenarioId) :
    FailureScenarioController :=
  { c with
    runs := Function.update c.runs c.runCount { scenarioId, status := .starting, startedAt := c.now }
    runCount := c.runCount + 1
    activeRuns := c.activeRuns.put roomId c.runCount }

private theorem created_run (c : FailureScenarioController) (roomId : String) (scenarioId : FailureScenarioId) :
    (created c roomId scenarioId).runs c.runCount = { scenarioId, status := .starting, startedAt := c.now } :=
  Function.update_self ..

private theorem created_failed (h : WellKept c) {roomId : String} (hnone : c.activeRuns.get? roomId = none)
    (scenarioId : FailureScenarioId) (error : FailureScenarioError) :
    Good c ((created c roomId scenarioId).startFailed roomId c.runCount error) := by
  refine ⟨advances_stillborn h ?_ ?_ rfl ?_ ?_ rfl rfl, fun _ hcall => nomatch hcall⟩
  · exact Fields.nodup_keys_remove (Fields.nodup_keys_put h.nodup _ _) _
  · intro other
    show ((c.activeRuns.put roomId c.runCount).remove roomId).get? other = _
    rw [Fields.get?_remove, Fields.get?_put]
    by_cases hother : other = roomId
    · rw [if_pos hother, hother, hnone]
    · rw [if_neg hother, if_neg hother]
  · intro other hother
    exact Function.update_of_ne hother ..
  · show ((created c roomId scenarioId).runs c.runCount).autoRecoverAtMs = none
    rw [created_run]

private theorem created_waits (h : WellKept c) {roomId : String} (hnone : c.activeRuns.get? roomId = none)
    {scenarioId : FailureScenarioId} (hne : scenarioId ≠ .admissionStorm) {point : AwaitPoint}
    (hpoint : point.Fits scenarioId) (hhealth : ∀ phase, point ≠ .health phase) :
    Good c (.suspended { roomId, run := c.runCount, refresh := none, point }, created c roomId scenarioId) := by
  have hcreates : Creates c (created c roomId scenarioId) roomId := by
    refine ⟨Fields.nodup_keys_put h.nodup _ _, fun other => Fields.get?_put _ _ other _, rfl, ?_, rfl, ?_, ?_,
      h.distinct, fun _ _ => rfl, fun _ hmem => Or.inl hmem⟩
    · intro other hother
      exact Function.update_of_ne hother ..
    · rw [created_run]
    · rw [created_run]
      exact fun hstorm => absurd hstorm hne
  refine good_suspended (hcreates.advances h hnone) ⟨Nat.lt_succ_self _, Or.inl ?_, ?_, ?_⟩
  · rw [hcreates.entries, if_pos rfl]
  · rw [created_run]
    exact hpoint
  · exact fun phase hphase => absurd hphase (hhealth phase)

/-- A start where no run is active, and the id of whose load job is fresh. -/
theorem startNew_good (h : WellKept c) {room : AdminRoom} (hnone : c.activeRuns.get? room.id = none)
    (scenarioId : FailureScenarioId) (scalingAvailable : Bool) {uuid : String}
    (hfresh : c.admissionLoad.job? ("admission-" ++ uuid) = none) :
    Good c (c.startNew room scenarioId scalingAvailable uuid) := by
  have hstart : c.startNew room scenarioId scalingAvailable uuid =
      (created c room.id scenarioId).startRun room c.runCount scalingAvailable uuid := rfl
  have hscenario : ((created c room.id scenarioId).runs c.runCount).scenarioId = scenarioId := by rw [created_run]
  rw [hstart]
  unfold startRun
  rw [hscenario]
  cases scenarioId with
  | admissionLock =>
    refine created_waits h hnone (by decide) ?_ fun _ hpoint => nomatch hpoint
    show FailureScenarioId.admissionLock ≠ .admissionStorm
    decide
  | botSurge =>
    dsimp only
    split
    · exact created_failed h hnone _ _
    · refine created_waits h hnone (by decide) ?_ fun _ hpoint => nomatch hpoint
      show FailureScenarioId.botSurge ≠ .admissionStorm
      decide
  | maliciousInput =>
    refine created_waits h hnone (by decide) ?_ fun _ hpoint => nomatch hpoint
    show FailureScenarioId.maliciousInput ≠ .admissionStorm
    decide
  | processCrash =>
    refine created_waits h hnone (by decide) ?_ fun _ hpoint => nomatch hpoint
    show FailureScenarioId.processCrash ≠ .admissionStorm
    decide
  | podFailure =>
    dsimp only
    split
    · refine created_waits h hnone (by decide) ?_ fun _ hpoint => nomatch hpoint
      show FailureScenarioId.podFailure ≠ .admissionStorm
      decide
    · exact created_failed h hnone _ _
  | admissionStorm =>
    dsimp only
    split
    · exact created_failed h hnone _ _
    · have hload : (created c room.id .admissionStorm).admissionLoad = c.admissionLoad := rfl
      rw [hload]
      cases hjob : c.admissionLoad.start room.id uuid (created c room.id .admissionStorm).now with
      | mk result load =>
        cases result with
        | error message =>
          rw [AdmissionLoadController.start_refused hjob]
          exact created_failed h hnone _ _
        | ok job =>
          obtain ⟨hdistinct, hsome, hjobs, hmem⟩ := AdmissionLoadController.start_keeps h.distinct hfresh hjob
          have hroom := (AdmissionLoadController.start_cases hjob).1
          dsimp only
          refine ⟨Creates.advances ?_ h hnone, fun _ hcall => nomatch hcall⟩
          have hrun : (({ created c room.id .admissionStorm with admissionLoad := load }).modifyRun c.runCount fun r =>
              { r with jobId := some job.jobId, status := .active }).runs c.runCount =
              { scenarioId := .admissionStorm, status := .active, startedAt := c.now, jobId := some job.jobId } := by
            rw [modifyRun_runs, if_pos rfl, created_run]
          refine ⟨Fields.nodup_keys_put (Fields.nodup_keys_put h.nodup _ _) _ _, ?_, rfl, ?_, rfl, ?_, ?_, hdistinct,
            hjobs, ?_⟩
          · intro other
            refine (Fields.get?_put _ _ other _).trans ?_
            split
            · rfl
            · rename_i hother
              exact (Fields.get?_put _ _ other _).trans (if_neg hother)
          · intro other hother
            rw [startedOutcome_runs, modifyRun_runs, if_neg hother]
            exact Function.update_of_ne hother ..
          · exact congrArg MutableRun.autoRecoverAtMs hrun
          · intro _
            exact ⟨job.jobId, congrArg MutableRun.jobId hrun, hsome, fun hstatus =>
              nomatch (congrArg MutableRun.status hrun).symm.trans hstatus⟩
          · intro other hother
            refine (hmem other hother).imp_right fun hsame => ?_
            rw [hsame]
            exact ⟨hroom, congrArg MutableRun.scenarioId hrun, congrArg MutableRun.jobId hrun⟩

theorem start_good (h : WellKept c) (room : AdminRoom) (scenarioId : FailureScenarioId) (scalingAvailable : Bool)
    {uuid : String} (hfresh : c.admissionLoad.job? ("admission-" ++ uuid) = none) :
    Good c (c.start room scenarioId scalingAvailable uuid) := by
  unfold start
  dsimp only
  rw [expireAutomaticRuns_eq h]
  cases hentry : c.activeRuns.get? room.id with
  | none => exact startNew_good h hentry scenarioId scalingAvailable hfresh
  | some existing =>
    dsimp only
    split
    · rename_i hfailed
      -- a run that has failed makes place for the new one
      have hends := advances_endRun h (droppable_of_entry h hentry fun _ => hfailed) scenarioFailedMessage
      refine hends.good (startNew_good hends.wellKept ?_ scenarioId scalingAvailable hfresh)
      rw [(drops_endRun h room.id existing scenarioFailedMessage).entries, if_pos rfl]
    · split
      · exact good_startedOutcome h hentry _
      · exact good_returned (Advances.refl h) _

/-! ### Recovering a run -/

/-- The load controller goes on. -/
theorem advances_evolves (h : WellKept c) {load : AdmissionLoadController}
    (hload : AdmissionLoadController.Evolves c.admissionLoad load) : Advances c { c with admissionLoad := load } := by
  refine ⟨⟨h.nodup, h.created, h.endedCreated, h.inactive, h.oneRoom, h.plain, ?_, hload.distinct h.distinct, ?_⟩,
    le_refl _, fun _ hrun => hrun, fun _ _ hrun => Or.inl hrun, fun _ _ => rfl, fun _ _ _ => rfl,
    fun _ hended => hload.jobEnded hended⟩
  · intro roomId run hentry hstorm
    obtain ⟨jobId, hjobId, hsome, hfailed⟩ := h.storm roomId run hentry hstorm
    exact ⟨jobId, hjobId, hload.isSome_job? hsome, fun hstatus => hload.jobEnded (hfailed hstatus)⟩
  · intro job hmem hterminal
    obtain ⟨before, hbefore, hid, hroom, hruns⟩ := hload.ran hmem hterminal
    rw [← hid, ← hroom]
    exact h.loaded before hbefore hruns

theorem stopAdmissionLoad_advances (h : WellKept c) (roomId : String) : Advances c (c.stopAdmissionLoad roomId).2 := by
  unfold stopAdmissionLoad
  dsimp only
  rw [expireAutomaticRuns_eq h]
  cases hentry : c.activeRuns.get? roomId with
  | none => exact Advances.refl h
  | some run =>
    dsimp only
    split
    · exact Advances.refl h
    · rename_i hscenario
      have hstorm : (c.runs run).scenarioId = .admissionStorm := not_not.1 hscenario
      cases hgiven : given (c.runs run).jobId with
      | none => exact Advances.refl h
      | some jobId =>
        have hjobId : (c.runs run).jobId = some jobId := (Option.filter_eq_some_iff.1 hgiven).1
        have hstatus := advances_modifyRun h (keepsRun_status run (show FailureScenarioStatus.recovering ≠ .failed by decide))
        dsimp only
        have hload : (c.setStatus run .recovering).admissionLoad = c.admissionLoad := rfl
        rw [hload]
        obtain ⟨hevolves, hends⟩ := AdmissionLoadController.stop_spec c.admissionLoad jobId
        cases hstop : c.admissionLoad.stop jobId with
        | mk result load =>
          rw [hstop] at hevolves hends
          have hstopped := advances_evolves hstatus.wellKept hevolves
          cases result with
          | error message => exact hstatus.trans hstopped
          | ok _ =>
            refine (hstatus.trans hstopped).trans (advances_endRun hstopped.wellKept ?_ _)
            refine ⟨hstopped.wellKept.created roomId run hentry, Or.inl hentry, fun other hother => ?_, fun _ => ?_⟩
            · exact (Option.some.inj (hentry.symm.trans hother)).symm
            · refine ⟨jobId, ?_, hends rfl⟩
              show ((c.setStatus run .recovering).runs run).jobId = some jobId
              unfold setStatus
              rw [modifyRun_runs, if_pos rfl]
              exact hjobId

theorem recover_good (h : WellKept c) (roomId : String) (room : Option AdminRoom) (scenarioId : FailureScenarioId) :
    Good c (c.recover roomId room scenarioId) := by
  unfold recover
  dsimp only
  rw [expireAutomaticRuns_eq h]
  cases hentry : c.activeRuns.get? roomId with
  | none => exact good_returned (Advances.refl h) _
  | some run =>
    dsimp only
    split
    · exact good_returned (Advances.refl h) _
    · rename_i hscenario
      have hsame : (c.runs run).scenarioId = scenarioId := not_not.1 hscenario
      have hstatus := advances_modifyRun h (keepsRun_status run (show FailureScenarioStatus.recovering ≠ .failed by decide))
      have hwait : scenarioId ≠ .admissionStorm →
          Good c (.suspended { roomId, run, refresh := none, point := .recovery }, c.setStatus run .recovering) := by
        intro hne
        have hcall : CallKept c { roomId, run, refresh := none, point := .recovery } := by
          refine ⟨h.created roomId run hentry, Or.inl hentry, ?_, fun _ hpoint => nomatch hpoint⟩
          show (c.runs run).scenarioId ≠ .admissionStorm
          rw [hsame]
          exact hne
        exact good_suspended hstatus (hcall.advances hstatus)
      have hnothing : scenarioId ≠ .admissionStorm → ∀ message,
          Good c (.returned (.ok ((c.setStatus run .recovering).completeRun roomId run message false).1),
            ((c.setStatus run .recovering).completeRun roomId run message false).2) := by
        intro hne message
        refine hstatus.good (good_completeRun hstatus.wellKept ?_ _ rfl _ _)
        refine droppable_of_entry hstatus.wellKept hentry fun hstorm => absurd ?_ hne
        rw [← hsame, ← hstatus.scenarioId run (h.created roomId run hentry)]
        exact hstorm
      cases scenarioId with
      | admissionLock => exact hwait (by decide)
      | processCrash => exact hwait (by decide)
      | botSurge =>
        dsimp only
        split
        · exact hwait (by decide)
        · exact hnothing (by decide) _
      | maliciousInput =>
        dsimp only
        split
        · exact hwait (by decide)
        · exact hnothing (by decide) _
      | admissionStorm => exact good_returned (stopAdmissionLoad_advances h roomId) _
      | podFailure =>
        cases room with
        | none => exact good_returned hstatus _
        | some room =>
          dsimp only
          split
          · exact good_returned hstatus _
          · exact hwait (by decide)

/-! ### Refreshing a run -/

private theorem surgeFinally_entries {roomId : String} {run : RunId} (hentry : c.activeRuns.get? roomId = some run)
    (other : String) : (c.surgeFinally roomId run).2.activeRuns.get? other = c.activeRuns.get? other := by
  unfold surgeFinally
  rw [hentry, Option.isSome_some, if_pos rfl]
  dsimp only
  rw [Fields.get?_put]
  split
  · rename_i hother
    rw [hother, hentry]
  · rfl

private theorem surgeTick_entries {roomId : String} {run : RunId} (hentry : c.activeRuns.get? roomId = some run)
    (refresh : Nat) (tickP95Ms : Rat) (jobIds : List String) (other : String) :
    (c.surgeTick roomId run refresh tickP95Ms jobIds).2.activeRuns.get? other = c.activeRuns.get? other := by
  unfold surgeTick
  dsimp only
  split
  · exact surgeFinally_entries hentry other
  · rfl
  · exact surgeFinally_entries hentry other
  · exact surgeFinally_entries hentry other
  · rfl

/-- A refresh of an active run advances the controller and changes no entry. -/
theorem refreshRun_good (h : WellKept c) (rooms : List AdminRoom) (refresh : Nat) {roomId : String} {run : RunId}
    (hentry : c.activeRuns.get? roomId = some run) :
    Good c (c.refreshRun rooms refresh roomId run) ∧
      ∀ other, (c.refreshRun rooms refresh roomId run).2.activeRuns.get? other = c.activeRuns.get? other := by
  have hcreated := h.created roomId run hentry
  have hstay : Good c (.settled, c) := good_settled (Advances.refl h)
  have hpoll : (c.runs run).scenarioId ≠ .admissionStorm →
      Good c (.suspended { roomId, run, refresh := some refresh, point := .jobPoll }, c) := fun hne =>
    good_suspended (Advances.refl h) ⟨hcreated, Or.inl hentry, hne, fun _ hpoint => nomatch hpoint⟩
  have hplain : (c.runs run).scenarioId ≠ .admissionStorm → (c.runs run).scenarioId ≠ .botSurge →
      Good c (c.refreshRun rooms refresh roomId run) ∧
        ∀ other, (c.refreshRun rooms refresh roomId run).2.activeRuns.get? other = c.activeRuns.get? other := by
    intro hstorm hsurge
    unfold refreshRun
    split
    · exact absurd (by assumption) hstorm
    · exact absurd (by assumption) hsurge
    · split
      · exact ⟨hstay, fun _ => rfl⟩
      · exact ⟨hpoll hstorm, fun _ => rfl⟩
  by_cases hstorm : (c.runs run).scenarioId = .admissionStorm
  · unfold refreshRun
    rw [hstorm]
    dsimp only
    unfold syncAdmissionRun
    obtain ⟨jobId, hjobId, hsome, hfailed⟩ := h.storm roomId run hentry hstorm
    cases hgiven : given (c.runs run).jobId with
    | none => exact ⟨hstay, fun _ => rfl⟩
    | some jobId' =>
      have hsame : jobId' = jobId :=
        Option.some.inj ((Option.filter_eq_some_iff.1 hgiven).1.symm.trans hjobId)
      obtain ⟨job, hjob⟩ := Option.isSome_iff_exists.1 hsome
      have hstatus : c.admissionLoad.status jobId' = some job.phase := by
        unfold AdmissionLoadController.status
        rw [hsame, hjob]
        rfl
      dsimp only
      rw [hstatus]
      refine ⟨good_suspended (Advances.refl h) ⟨hcreated, Or.inl hentry, hstorm, ?_⟩, fun _ => rfl⟩
      intro phase hpoint hterminal
      cases hpoint
      exact ⟨jobId, hjobId, job, hjob, hterminal⟩
  · by_cases hsurge : (c.runs run).scenarioId = .botSurge
    · unfold refreshRun
      rw [hsurge]
      dsimp only
      unfold advanceBotSurge
      cases rooms.reverse.find? fun room => decide (room.id = roomId) with
      | none => exact ⟨hstay, fun _ => rfl⟩
      | some room =>
        dsimp only
        split
        · exact ⟨hstay, fun _ => rfl⟩
        · have hmark : Advances c { c with advancingBotSurges := c.advancingBotSurges ++ [roomId] } :=
            SameRuns.advances ⟨h.nodup, fun _ => rfl, rfl, rfl, rfl, rfl⟩ h
          split
          · refine ⟨good_suspended hmark ⟨hcreated, Or.inl hentry, hsurge, fun _ hpoint => nomatch hpoint⟩, fun _ => rfl⟩
          · have hmarked : ({ c with advancingBotSurges := c.advancingBotSurges ++ [roomId] }).activeRuns.get? roomId =
                some run := hentry
            refine ⟨hmark.good (good_surgeTick hmark.wellKept refresh _ hcreated (Or.inl hentry) hsurge
              (Or.inr (Or.inr fun other hother => ?_))), surgeTick_entries hmarked refresh _ _⟩
            exact (Option.some.inj (hentry.symm.trans hother)).symm
    · exact hplain hstorm hsurge

end FailureScenarioController

namespace FailureScenarios

open FailureScenarioController

/-! ### The identity of runs -/

/-- The invariant of the runs of the controller. -/
structure Kept (s : FailureScenarios) : Prop where
  wellKept : WellKept s.controller
  calls : ∀ call ∈ s.suspended, CallKept s.controller call
  evicted : s.evicted = []

variable {s s' : FailureScenarios}

/-- A load is said to be stopped where no run is active, and then no job of the room runs. -/
theorem Kept.runIdentity (h : Kept s) : s.RunIdentity where
  inactive := h.wellKept.inactive
  kept := h.evicted
  stopped := by
    intro roomId result hresult hidempotent _
    unfold stopAdmissionLoad at hresult
    dsimp only at hresult
    rw [expireAutomaticRuns_eq h.wellKept] at hresult
    cases hentry : s.controller.activeRuns.get? roomId with
    | none =>
      refine List.filter_eq_nil_iff.2 fun job hmem hruns => ?_
      simp only [Bool.and_eq_true, decide_eq_true_eq, Bool.not_eq_true'] at hruns
      obtain ⟨run, hactive, -⟩ := h.wellKept.loaded job hmem hruns.2
      rw [hruns.1, hentry] at hactive
      cases hactive
    | some run =>
      -- with an active run the answer is another one
      rw [hentry] at hresult
      dsimp only at hresult
      split at hresult
      · cases hresult
      · split at hresult
        · cases hresult
        · split at hresult
          · cases hresult
          · cases hresult
            cases hidempotent

theorem init_kept (options : AdmissionLoadOptions) : Kept (init options) where
  wellKept := by
    refine ⟨List.nodup_nil, ?_, ?_, ?_, ?_, fun _ _ => rfl, ?_, List.nodup_nil, ?_⟩
    · exact fun _ _ hentry => nomatch hentry
    · exact fun _ hmem => nomatch hmem
    · exact fun _ _ hentry => nomatch hentry
    · exact fun _ _ _ hentry => nomatch hentry
    · exact fun _ _ hentry => nomatch hentry
    · exact fun _ hmem => nomatch hmem
  calls := fun _ hmem => nomatch hmem
  evicted := rfl

/-- An uninterrupted stretch of a call keeps the invariant. -/
theorem Kept.withOutcome (h : Kept s) {outcome : CallOutcome × FailureScenarioController}
    (hgood : Good s.controller outcome) : Kept (s.withOutcome outcome) where
  wellKept := hgood.advances.wellKept
  calls := by
    intro call hmem
    rcases List.mem_append.1 hmem with hmem | hmem
    · exact (h.calls call hmem).advances hgood.advances
    · exact hgood.call call (Option.mem_toList.1 hmem)
  evicted := h.evicted

theorem Kept.withController (h : Kept s) {c : FailureScenarioController} (hadvances : Advances s.controller c) :
    Kept { s with controller := c } :=
  ⟨hadvances.wellKept, fun call hmem => (h.calls call hmem).advances hadvances, h.evicted⟩

/-- The refreshes of `getState` keep the invariant, one after the other. -/
theorem Kept.refreshRuns (rooms : List AdminRoom) (refresh : Nat) (entries : Fields RunId) (h : Kept s)
    (hentries : ∀ entry ∈ entries, s.controller.activeRuns.get? entry.1 = some entry.2) :
    Kept (s.refreshRuns rooms refresh entries) := by
  induction entries generalizing s with
  | nil => exact h
  | cons entry entries ih =>
    obtain ⟨hgood, hsame⟩ := refreshRun_good h.wellKept rooms refresh (hentries entry (List.mem_cons_self ..))
    refine ih (h.withOutcome hgood) fun other hother => ?_
    exact (hsame other.1).trans (hentries other (List.mem_cons_of_mem _ hother))

/-! ### What a call that goes on writes -/

/-- The entry of a room after a write for a run. -/
def EntryWrite.apply (write : EntryWrite) (run : RunId) (entry : Option RunId) : Option RunId :=
  match write with
  | .keep => entry
  | .set => some run
  | .setIfPresent => if entry.isSome then some run else none
  | .delete => none

/-- The entry of the room is written so, and no run that has ended is forgotten. -/
structure Writes (c c' : FailureScenarioController) (roomId : String) (run : RunId) (write : EntryWrite) : Prop where
  entry : c'.activeRuns.get? roomId = write.apply run (c.activeRuns.get? roomId)
  ended : ∀ run' ∈ c.ended, run' ∈ c'.ended

variable {c : FailureScenarioController} {roomId : String} {run : RunId}

/-- What a change of runs comes before. -/
private theorem Writes.after {c₁ c' : FailureScenarioController} {write : EntryWrite}
    (h : Writes c₁ c' roomId run write) (hactive : c₁.activeRuns = c.activeRuns) (hended : c₁.ended = c.ended) :
    Writes c c' roomId run write := by
  obtain ⟨hentry, hkept⟩ := h
  rw [hactive] at hentry
  rw [hended] at hkept
  exact ⟨hentry, hkept⟩

private theorem writes_keep : Writes c c roomId run .keep := ⟨rfl, fun _ hmem => hmem⟩

private theorem writes_put : Writes c { c with activeRuns := c.activeRuns.put roomId run } roomId run .set :=
  ⟨(Fields.get?_put _ _ _ _).trans (if_pos rfl), fun _ hmem => hmem⟩

private theorem writes_endRun (message : String) : Writes c (c.endRun roomId run message) roomId run .delete :=
  ⟨(Fields.get?_remove _ _ _).trans (if_pos rfl), fun _ hmem => List.mem_append_left _ hmem⟩

private theorem writes_startFailed (error : FailureScenarioError) :
    Writes c (c.startFailed roomId run error).2 roomId run .delete :=
  ⟨(Fields.get?_remove _ _ _).trans (if_pos rfl), fun _ hmem => List.mem_append_left _ hmem⟩

private theorem writes_surgeFinally : Writes c (c.surgeFinally roomId run).2 roomId run .setIfPresent := by
  refine ⟨?_, fun _ hmem => hmem⟩
  unfold surgeFinally EntryWrite.apply
  dsimp only
  split
  · rw [Fields.get?_put, if_pos rfl]
  · rename_i hnone
    rw [Option.not_isSome_iff_eq_none] at hnone
    exact hnone

private theorem writes_surgeTick (refresh : Nat) (tickP95Ms : Rat) (jobIds : List String) :
    Writes c (c.surgeTick roomId run refresh tickP95Ms jobIds).2 roomId run
      (match surgeDecision (c.runs run) tickP95Ms c.now with
      | .release | .ramp _ => .keep
      | .hold | .finish | .wait => .setIfPresent) := by
  unfold surgeTick
  dsimp only
  have hdecision : ∀ peak now, surgeDecision { c.runs run with surgePeakTickP95Ms := peak } tickP95Ms now =
      surgeDecision (c.runs run) tickP95Ms now := fun _ _ => rfl
  have hnow : ∀ f, (c.modifyRun run f).now = c.now := fun _ => rfl
  rw [modifyRun_runs, if_pos rfl, hdecision, hnow]
  cases surgeDecision (c.runs run) tickP95Ms c.now with
  | hold => exact Writes.after writes_surgeFinally rfl rfl
  | finish => exact Writes.after writes_surgeFinally rfl rfl
  | wait => exact Writes.after writes_surgeFinally rfl rfl
  | release => exact Writes.after writes_keep rfl rfl
  | ramp count => exact Writes.after writes_keep rfl rfl

/-- A call that goes on writes to the entry of its room what `entryWrite` says. -/
theorem goOn_writes {call : SuspendedCall} {answer : Except FailureScenarioError (Option BotJob)}
    {outcome : CallOutcome × FailureScenarioController} (hgo : c.goOn call answer = some outcome) :
    Writes c outcome.2 call.roomId call.run (entryWrite c call answer) := by
  obtain ⟨roomId, run, refresh, point⟩ := call
  cases point with
  | startJoinLock =>
    rcases answer with error | _ | job <;> cases hgo
    · exact writes_startFailed error
    · exact Writes.after writes_put rfl rfl
  | startSurge count maxBots tickP95Ms =>
    rcases answer with error | _ | job <;> cases hgo
    · exact writes_startFailed error
    · exact Writes.after writes_put rfl rfl
  | startMalicious =>
    rcases answer with error | _ | job <;> cases hgo
    · exact writes_startFailed error
    · exact Writes.after writes_put rfl rfl
  | startProcessCrash =>
    rcases answer with error | _ | job <;> cases hgo
    · exact writes_startFailed error
    · exact Writes.after writes_put rfl rfl
  | startPodFailure =>
    rcases answer with error | _ | job <;> cases hgo
    · exact writes_startFailed error
    · exact Writes.after writes_put rfl rfl
  | recovery =>
    rcases answer with error | _ | job <;> cases hgo
    · exact writes_keep
    · exact writes_endRun _
  | jobPoll =>
    rcases answer with error | _ | job <;> cases hgo
    · exact writes_keep
    · exact writes_keep
    · exact Writes.after writes_put rfl rfl
  | health phase =>
    have hwrites : ∀ outcome : CallOutcome × FailureScenarioController,
        (if phase = .safetyTimeout then
          some (CallOutcome.settled, ((c.setStatus run (if phase = .failed then .failed else .active)).completeRun roomId
            run "안전 제한 시간에 도달해 장애 부하만 중단했습니다. 서비스 복구로 처리하지 않습니다." false).2)
        else some (.settled, c.setStatus run (if phase = .failed then .failed else .active))) = some outcome →
        Writes c outcome.2 roomId run (if phase = .safetyTimeout then .delete else .keep) := by
      intro outcome houtcome
      by_cases hphase : phase = .safetyTimeout
      · rw [if_pos hphase] at houtcome ⊢
        cases houtcome
        exact Writes.after (writes_endRun _) rfl rfl
      · rw [if_neg hphase] at houtcome ⊢
        cases houtcome
        exact Writes.after writes_keep rfl rfl
    rcases answer with error | _ | job
    · exact hwrites outcome hgo
    · exact hwrites outcome hgo
    · cases hgo
  | surgePoll tickP95Ms jobIds =>
    have htick : Writes c ((c.setStatus run .active).surgeTick roomId run (refresh.getD 0) tickP95Ms jobIds).2 roomId run
        (match surgeDecision (c.runs run) tickP95Ms c.now with
        | .release | .ramp _ => .keep
        | .hold | .finish | .wait => .setIfPresent) := by
      have hdecision : surgeDecision ((c.setStatus run .active).runs run) tickP95Ms (c.setStatus run .active).now =
          surgeDecision (c.runs run) tickP95Ms c.now := by
        unfold setStatus
        rw [modifyRun_runs, if_pos rfl]
        rfl
      rw [← hdecision]
      exact Writes.after (writes_surgeTick (refresh.getD 0) tickP95Ms jobIds) rfl rfl
    rcases answer with error | _ | ⟨jobId, state⟩
    · cases hgo
      exact Writes.after writes_surgeFinally rfl rfl
    · cases hgo
      exact Writes.after writes_surgeFinally rfl rfl
    · cases state with
      | failed =>
        cases hgo
        exact Writes.after writes_surgeFinally rfl rfl
      | running =>
        cases hgo
        exact Writes.after writes_surgeFinally rfl rfl
      | completed =>
        cases hgo
        exact htick
      | cancelled =>
        cases hgo
        exact htick
  | surgeCleanup =>
    rcases answer with error | _ | job <;> cases hgo
    · exact Writes.after writes_surgeFinally rfl rfl
    · -- behind the completed run there is no entry to set
      obtain ⟨hentry, hended⟩ : Writes c _ roomId run .delete :=
        writes_endRun "Tick 부하 유지가 끝나 장애 봇을 자동으로 정리했습니다."
      obtain ⟨hfinally, hkept⟩ : Writes _ _ roomId run .setIfPresent := writes_surgeFinally
      exact ⟨hfinally.trans (congrArg (EntryWrite.setIfPresent.apply run) hentry),
        fun run' hmem => hkept run' (hended run' hmem)⟩
  | surgeRamp count requestedBots jobIds now =>
    rcases answer with error | _ | job <;> cases hgo
    · exact Writes.after writes_surgeFinally rfl rfl
    · exact Writes.after writes_surgeFinally rfl rfl

/-- A call that writes to the entry of its own run only evicts no other run. -/
private theorem evictedBy_eq_nil {c' : FailureScenarioController} {call : SuspendedCall}
    {answer : Except FailureScenarioError (Option BotJob)}
    (hwrites : Writes c c' call.roomId call.run (entryWrite c call answer)) (howns : WritesOwnEntry c call answer) :
    evictedBy call c c' = [] := by
  have hentry := hwrites.entry
  unfold evictedBy
  cases hbefore : c.activeRuns.get? call.roomId with
  | none => rfl
  | some other =>
    dsimp only
    refine if_neg fun ⟨hne, hgone⟩ => ?_
    unfold WritesOwnEntry at howns
    rw [hbefore] at hentry howns
    cases hwrite : entryWrite c call answer with
    | keep =>
      rw [hwrite] at hentry
      exact hgone hentry
    | set =>
      rw [hwrite] at howns
      exact hne (Option.some.inj howns)
    | setIfPresent =>
      rw [hwrite] at howns
      exact hne (howns other rfl)
    | delete =>
      rw [hwrite] at howns
      exact hne (howns other rfl)

/-- A call that does not evicts another run, or makes a run active that has ended. -/
private theorem not_runIdentity_of_not_owns {c' : FailureScenarioController} {call : SuspendedCall}
    {answer : Except FailureScenarioError (Option BotJob)} (hcall : CallKept c call)
    (hwrites : Writes c c' call.roomId call.run (entryWrite c call answer)) (howns : ¬WritesOwnEntry c call answer) :
    evictedBy call c c' ≠ [] ∨ ∃ roomId run, c'.activeRuns.get? roomId = some run ∧ run ∈ c'.ended := by
  have hentry := hwrites.entry
  -- a write over another run evicts it
  have hevicts : ∀ other, c.activeRuns.get? call.roomId = some other → other ≠ call.run →
      c'.activeRuns.get? call.roomId ≠ some other → evictedBy call c c' ≠ [] := by
    intro other hbefore hne hgone
    unfold evictedBy
    rw [hbefore]
    dsimp only
    rw [if_pos ⟨hne, hgone⟩]
    exact List.cons_ne_nil other []
  unfold WritesOwnEntry at howns
  cases hwrite : entryWrite c call answer with
  | keep =>
    rw [hwrite] at howns
    exact absurd trivial howns
  | set =>
    rw [hwrite] at hentry howns
    cases hbefore : c.activeRuns.get? call.roomId with
    | none =>
      -- its run is not active, so it has ended
      right
      refine ⟨call.roomId, call.run, hentry, hwrites.ended _ ?_⟩
      rcases hcall.held with hactive | hended
      · rw [hbefore] at hactive
        cases hactive
      · exact hended
    | some other =>
      have hne : other ≠ call.run := by
        intro hsame
        rw [hsame] at hbefore
        exact howns hbefore
      refine Or.inl (hevicts other hbefore hne ?_)
      rw [hentry]
      exact fun hsame => hne (Option.some.inj hsame).symm
  | setIfPresent =>
    rw [hwrite] at hentry howns
    dsimp only at howns
    push Not at howns
    obtain ⟨other, hbefore, hne⟩ := howns
    refine Or.inl (hevicts other hbefore hne ?_)
    rw [hentry, hbefore]
    exact fun hsame => hne (Option.some.inj hsame).symm
  | delete =>
    rw [hwrite] at hentry howns
    dsimp only at howns
    push Not at howns
    obtain ⟨other, hbefore, hne⟩ := howns
    refine Or.inl (hevicts other hbefore hne ?_)
    rw [hentry]
    exact fun hsame => nomatch hsame

theorem Kept.withLoad (h : Kept s) {load : AdmissionLoadController}
    (hload : AdmissionLoadController.Evolves s.controller.admissionLoad load) : Kept (s.withLoad load) :=
  h.withController (advances_evolves h.wellKept hload)

/-- An event whose call writes to the entry of its own run only keeps the invariant. -/
theorem Kept.step (h : Kept s) {event : FailureScenarioEvent} (howns : s.WritesOwn event)
    (hs : s.step event = some s') : Kept s' := by
  cases event with
  | getState rooms =>
    cases hs
    have hexpire := expireAutomaticRuns_eq h.wellKept
    have hrefreshed : Kept (({ s with controller := s.controller.expireAutomaticRuns }).refreshRuns rooms s.refreshes
        s.controller.expireAutomaticRuns.activeRuns) := by
      rw [hexpire]
      exact h.refreshRuns rooms s.refreshes _ fun entry hmem => Fields.get?_of_mem h.wellKept.nodup hmem
    exact ⟨hrefreshed.wellKept, hrefreshed.calls, hrefreshed.evicted⟩
  | refreshed refresh =>
    simp only [FailureScenarios.step] at hs
    split at hs
    · cases hs
      have hends := h.withController (advances_endFailed h.wellKept)
      exact ⟨hends.wellKept, hends.calls, hends.evicted⟩
    · cases hs
  | start room scenarioId scalingAvailable uuid =>
    simp only [FailureScenarios.step] at hs
    split at hs
    · rename_i hfresh
      cases hs
      exact h.withOutcome (start_good h.wellKept room scenarioId scalingAvailable hfresh)
    · cases hs
  | recover roomId room scenarioId =>
    cases hs
    exact h.withOutcome (recover_good h.wellKept roomId room scenarioId)
  | stopAdmissionLoad roomId =>
    cases hs
    exact h.withController (stopAdmissionLoad_advances h.wellKept roomId)
  | resume n answer =>
    simp only [FailureScenarios.step] at hs
    split at hs
    · cases hs
    · rename_i call hcall
      split at hs
      · cases hs
      · rename_i outcome hgo
        cases hs
        have hkept := h.calls call (List.mem_of_getElem? hcall)
        have hown := howns call hcall
        have hgood := goOn_good h.wellKept hkept hgo hown
        have hrest : Kept { s with suspended := s.suspended.eraseIdx n } :=
          ⟨h.wellKept, fun other hmem => h.calls other (List.mem_of_mem_eraseIdx hmem), h.evicted⟩
        have hresumed := hrest.withOutcome hgood
        refine ⟨hresumed.wellKept, hresumed.calls, ?_⟩
        dsimp only
        rw [h.evicted, evictedBy_eq_nil (goOn_writes hgo) hown]
        rfl
  | clock now =>
    cases hs
    exact h.withController (SameRuns.advances ⟨h.wellKept.nodup, fun _ => rfl, rfl, rfl, rfl, rfl⟩ h.wellKept)
  | loadRamps jobId =>
    cases hs
    exact h.withLoad (AdmissionLoadController.evolves_ramp jobId)
  | loadSaturates jobId =>
    cases hs
    exact h.withLoad (AdmissionLoadController.evolves_saturate jobId)
  | loadTimesOut jobId =>
    obtain ⟨load, hload, rfl⟩ := Option.map_eq_some_iff.1 hs
    exact h.withLoad (AdmissionLoadController.evolves_timeOut hload)
  | loadFails jobId =>
    obtain ⟨load, hload, rfl⟩ := Option.map_eq_some_iff.1 hs
    exact h.withLoad (AdmissionLoadController.evolves_fail hload)

/-- An event whose call writes over another run, or sets a run that has ended, breaks the identity of runs. -/
theorem Kept.step_breaks (h : Kept s) {event : FailureScenarioEvent} (howns : ¬s.WritesOwn event)
    (hs : s.step event = some s') : ¬s'.RunIdentity := by
  cases event with
  | resume n answer =>
    unfold WritesOwn at howns
    push Not at howns
    obtain ⟨call, hcall, hnot⟩ := howns
    simp only [FailureScenarios.step] at hs
    rw [hcall] at hs
    dsimp only at hs
    split at hs
    · cases hs
    · rename_i outcome hgo
      cases hs
      intro hidentity
      have hkept := hidentity.kept
      dsimp only at hkept
      rcases not_runIdentity_of_not_owns (h.calls call (List.mem_of_getElem? hcall)) (goOn_writes hgo) hnot with
        hevicts | ⟨roomId, run, hactive, hended⟩
      · exact hevicts (List.append_eq_nil_iff.1 hkept).2
      · exact hidentity.inactive roomId run hactive hended
  | getState rooms => exact absurd trivial howns
  | refreshed refresh => exact absurd trivial howns
  | start room scenarioId scalingAvailable uuid => exact absurd trivial howns
  | recover roomId room scenarioId => exact absurd trivial howns
  | stopAdmissionLoad roomId => exact absurd trivial howns
  | clock now => exact absurd trivial howns
  | loadRamps jobId => exact absurd trivial howns
  | loadSaturates jobId => exact absurd trivial howns
  | loadTimesOut jobId => exact absurd trivial howns
  | loadFails jobId => exact absurd trivial howns

/-- In every run of the controller the identity of runs holds throughout just when every call that goes on writes to the
entry of its own run only. -/
theorem run_identity_iff (options : AdmissionLoadOptions) (events : List FailureScenarioEvent) :
    Machine.Throughout step RunIdentity (init options) events ↔
      Machine.EachStep step WritesOwn (init options) events :=
  Machine.throughout_iff_eachStep (fun _ => Kept.runIdentity) (fun _ _ _ h howns hs => h.step howns hs)
    (fun _ _ _ h howns hs => h.step_breaks howns hs) (init_kept options) events

private def roomZero : AdminRoom where
  id := "room-0"
  maxPlayers := 100
  players := 10
  status := "running"
  podHealthy := true
  tickP95Ms := 20

/-- A run of malicious input is recovered while a poll of its job waits for the bot runner. -/
private def recoveredWhilePolled : List FailureScenarioEvent :=
  [.start roomZero .maliciousInput true "1", .resume 0 (.ok (some ⟨"job-1", .running⟩)), .getState [roomZero],
    .recover "room-0" none .maliciousInput, .resume 1 (.ok none), .resume 0 (.ok (some ⟨"job-1", .completed⟩))]

/-- The answer of the poll makes the recovered run the active one again. -/
theorem recovered_run_returns : ¬∀ options events, Machine.Throughout step RunIdentity (init options) events := by
  intro h
  have hreturns : (Machine.runFrom step (init {}) recoveredWhilePolled).any (fun s =>
      decide (s.controller.activeRuns.get? "room-0" = some 0) && decide (0 ∈ s.controller.ended)) = true := by
    decide +kernel
  obtain ⟨s, hrun, hs⟩ := (Option.any_eq_true _ _).1 hreturns
  simp only [Bool.and_eq_true, decide_eq_true_eq] at hs
  exact ((h {} recoveredWhilePolled).last hrun).inactive "room-0" 0 hs.1 hs.2

end FailureScenarios

end Opsia
