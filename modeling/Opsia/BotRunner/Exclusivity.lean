import Opsia.BotRunner.Runner
import Opsia.Machine

/-!
# One running job for a room

`startJob` looks twice for a running job of its room, but waits for the body of the summary behind the second look, and
it looks only at the jobs that are in the table.  So the room has at most one running job as long as no job of the room
that was registered since the second look, and none that the table has dropped, runs when a job is registered.

What a job has made is stopped as it should be: a bot is in the table only if its job lists it or a spawn of the job
still waits for it (`Tidy.made`), a spawn of a job that does not run any more stops its bot, and a cleanup stops what
the job lists.
-/

namespace Opsia

open Machine

namespace BotRunner

variable {settings : RunnerSettings}

/-! ### What waits -/

/-- The task waits for the bot that the job makes. -/
def Task.connects (j b : Nat) : Task → Prop
  | .spawn _ _ caller (.connecting b') => caller.job? = some j ∧ b' = b
  | _ => False

/-- What a task that waits relies on. -/
def TaskTidy (s : BotRunner) : Task → Prop
  | .start request (.body checked) =>
    checked ≤ s.nextJob ∧
      ∀ k < checked, (s.jobObject k).roomId = request.roomId → s.running k = true → k ∉ s.jobs
  | .spawn _ _ caller stage =>
    (∀ j ∈ caller.job?, j < s.nextJob) ∧
      ∀ b, stage = .connecting b → b < s.nextBot ∧ (s.botObject b).job = caller.job?
  | .sleep j _ | .declined j => j < s.nextJob
  | _ => True

/-- What holds of the tables between two steps, up to a bot whose task has just been taken. -/
structure Tidy (s : BotRunner) (taken : Option Nat) : Prop where
  jobs : ∀ j ∈ s.jobs, j < s.nextJob
  nodup : s.bots.Nodup
  bots : ∀ b ∈ s.bots, b < s.nextBot
  jobOf : ∀ b ∈ s.bots, ∀ j ∈ (s.botObject b).job, j < s.nextJob
  tasks : ∀ task ∈ s.tasks, s.TaskTidy task
  created : ∀ j, ∀ b ∈ (s.jobObject j).createdBotIds, b < s.nextBot
  made : ∀ b ∈ s.bots, taken ≠ some b → ∀ j ∈ (s.botObject b).job,
    b ∈ (s.jobObject j).createdBotIds ∨ ∃ task ∈ s.tasks, task.connects j b
  cancelled : ∀ j n, (s.jobObject j).cancelledAt = some n →
    s.running j = false ∧ n ≤ s.nextBot ∧ ∀ b ∈ (s.jobObject j).createdBotIds, b < n
  cleaned : ∀ j, (s.jobObject j).cleaned = true →
    s.running j = false ∧ ∀ b ∈ (s.jobObject j).createdBotIds, b ∉ s.bots

theorem tidy_start (stored : String → Option Nat) : (start stored).Tidy none := by
  refine ⟨?_, List.nodup_nil, ?_, ?_, ?_, ?_, ?_, ?_, ?_⟩
  · exact fun j hj => absurd hj List.not_mem_nil
  · exact fun b hb => absurd hb List.not_mem_nil
  · exact fun b hb => absurd hb List.not_mem_nil
  · exact fun task htask => absurd htask List.not_mem_nil
  · exact fun j b hb => absurd hb List.not_mem_nil
  · exact fun b hb => absurd hb List.not_mem_nil
  · exact fun j n hn => absurd hn (Option.some_ne_none n).symm
  · exact fun j hj => absurd hj Bool.false_ne_true

/-! ### Going on -/

/-- Jobs and bots are as before, except that bots have been stopped, jobs have ended or been cancelled, and tasks have
been added. -/
structure Goes (s s' : BotRunner) : Prop where
  jobs : s'.jobs = s.jobs
  nextJob : s'.nextJob = s.nextJob
  nextBot : s'.nextBot = s.nextBot
  botJob : ∀ b, (s'.botObject b).job = (s.botObject b).job
  bots : s'.bots.Sublist s.bots
  roomId : ∀ j, (s'.jobObject j).roomId = (s.jobObject j).roomId
  created : ∀ j, (s'.jobObject j).createdBotIds = (s.jobObject j).createdBotIds
  cleaned : ∀ j, (s'.jobObject j).cleaned = true →
    (s.jobObject j).cleaned = true ∨ s'.running j = false ∧ ∀ b ∈ (s'.jobObject j).createdBotIds, b ∉ s'.bots
  running : ∀ j, s'.running j = true → s.running j = true
  cancelled : ∀ j n, (s'.jobObject j).cancelledAt = some n →
    (s.jobObject j).cancelledAt = some n ∨ n = s.nextBot ∧ s'.running j = false
  tasks : ∀ task ∈ s.tasks, task ∈ s'.tasks
  newTasks : ∀ task ∈ s'.tasks, task ∈ s.tasks ∨ s'.TaskTidy task

theorem Goes.refl (s : BotRunner) : Goes s s :=
  ⟨rfl, rfl, rfl, fun _ => rfl, List.Sublist.refl _, fun _ => rfl, fun _ => rfl, fun _ h => Or.inl h,
    fun _ h => h, fun _ _ h => Or.inl h, fun _ h => h, fun _ h => Or.inl h⟩

theorem Goes.taskTidy {s s' : BotRunner} (hg : Goes s s') {task : Task} (h : s.TaskTidy task) : s'.TaskTidy task := by
  unfold TaskTidy at h ⊢
  split
  · dsimp only at h
    rw [hg.nextJob, hg.jobs]
    exact ⟨h.1, fun k hk hroom hrun => h.2 k hk ((hg.roomId k).symm.trans hroom) (hg.running k hrun)⟩
  · dsimp only at h
    rw [hg.nextJob, hg.nextBot]
    exact ⟨h.1, fun b hb => ⟨(h.2 b hb).1, (hg.botJob b).trans (h.2 b hb).2⟩⟩
  · rw [hg.nextJob]
    exact h
  · rw [hg.nextJob]
    exact h
  · trivial

theorem Goes.quiet {s s' : BotRunner} (hg : Goes s s') {j : Nat} (hno : s.running j = false) :
    s'.running j = false := by
  rw [Bool.eq_false_iff] at hno ⊢
  exact fun hyes => hno (hg.running j hyes)

theorem Goes.trans {s s' s'' : BotRunner} (h : Goes s s') (h' : Goes s' s'') : Goes s s'' where
  jobs := h'.jobs.trans h.jobs
  nextJob := h'.nextJob.trans h.nextJob
  nextBot := h'.nextBot.trans h.nextBot
  botJob := fun b => (h'.botJob b).trans (h.botJob b)
  bots := h'.bots.trans h.bots
  roomId := fun j => (h'.roomId j).trans (h.roomId j)
  created := fun j => (h'.created j).trans (h.created j)
  cleaned := fun j hj => by
    rcases h'.cleaned j hj with hj | hj
    · rcases h.cleaned j hj with hj | ⟨hno, hb⟩
      · exact Or.inl hj
      · refine Or.inr ⟨h'.quiet hno, fun b hc hin => ?_⟩
        exact hb b (h'.created j ▸ hc) (h'.bots.subset hin)
    · exact Or.inr hj
  running := fun j hj => h.running j (h'.running j hj)
  cancelled := fun j n hn => by
    rcases h'.cancelled j n hn with hn | ⟨rfl, hno⟩
    · rcases h.cancelled j n hn with hn | ⟨rfl, hno⟩
      · exact Or.inl hn
      · exact Or.inr ⟨rfl, h'.quiet hno⟩
    · exact Or.inr ⟨h.nextBot, hno⟩
  tasks := fun task ht => h'.tasks task (h.tasks task ht)
  newTasks := fun task ht => by
    rcases h'.newTasks task ht with ht | ht
    · rcases h.newTasks task ht with ht | ht
      · exact Or.inl ht
      · exact Or.inr (h'.taskTidy ht)
    · exact Or.inr ht

theorem Goes.tidy {s s' : BotRunner} {taken : Option Nat} (hg : Goes s s') (h : s.Tidy taken) : s'.Tidy taken := by
  refine ⟨fun j hj => ?_, h.nodup.sublist hg.bots, fun b hb => ?_, fun b hb j hj => ?_, fun task ht => ?_,
    fun j b hb => ?_, fun b hb hne j hj => ?_, fun j n hn => ?_, fun j hj => ?_⟩
  · rw [hg.nextJob]
    exact h.jobs j (hg.jobs ▸ hj)
  · rw [hg.nextBot]
    exact h.bots b (hg.bots.subset hb)
  · rw [hg.nextJob]
    exact h.jobOf b (hg.bots.subset hb) j ((hg.botJob b) ▸ hj)
  · rcases hg.newTasks task ht with ht | ht
    · exact hg.taskTidy (h.tasks task ht)
    · exact ht
  · rw [hg.nextBot]
    exact h.created j b ((hg.created j) ▸ hb)
  · rw [hg.created]
    rcases h.made b (hg.bots.subset hb) hne j ((hg.botJob b) ▸ hj) with hc | ⟨task, ht, hc⟩
    · exact Or.inl hc
    · exact Or.inr ⟨task, hg.tasks task ht, hc⟩
  · rw [hg.created, hg.nextBot]
    rcases hg.cancelled j n hn with hn | ⟨rfl, hno⟩
    · obtain ⟨hrun, hle, hb⟩ := h.cancelled j n hn
      exact ⟨hg.quiet hrun, hle, hb⟩
    · exact ⟨hno, Nat.le_refl _, h.created j⟩
  · rcases hg.cleaned j hj with hj | hj
    · obtain ⟨hrun, hb⟩ := h.cleaned j hj
      rw [hg.created]
      exact ⟨hg.quiet hrun, fun b hc hin => hb b hc (hg.bots.subset hin)⟩
    · exact hj

theorem goes_addTask (s : BotRunner) (task : Task) (ht : s.TaskTidy task) : Goes s (s.addTask task) := by
  refine { Goes.refl s with tasks := fun t h => List.mem_append_left _ h, newTasks := fun t h => ?_ }
  rcases List.mem_append.1 h with h | h
  · exact Or.inl h
  · rw [List.mem_singleton.1 h]
    exact Or.inr ht

theorem goes_stopBot (s : BotRunner) (b : Nat) : Goes s (s.stopBot b) :=
  { Goes.refl s with bots := List.erase_sublist, cleaned := fun _ h => Or.inl h }

theorem goes_removeTarget (s : BotRunner) (roomId : String) (target : Nat) :
    Goes s (s.removeTargetBotsAboveTarget roomId target) :=
  { Goes.refl s with bots := List.filter_sublist, cleaned := fun _ h => Or.inl h }

theorem jobObject_setJob (s : BotRunner) (j k : Nat) (f : Job → Job) :
    (s.setJob j f).jobObject k = if k = j then f (s.jobObject j) else s.jobObject k :=
  Function.update_apply _ _ _ _

theorem running_iff {s : BotRunner} {j : Nat} : s.running j = true ↔ (s.jobObject j).state = .running :=
  decide_eq_true_iff

/-- A job that ends keeps its bots. -/
theorem goes_endJob (s : BotRunner) (j : Nat) {state : JobState} (hstate : state ≠ .running) :
    Goes s (s.endJob j state) := by
  unfold endJob
  split
  · have hobject : ∀ k, (s.setJob j fun job => { job with state }).jobObject k =
        if k = j then { s.jobObject j with state } else s.jobObject k := fun k => jobObject_setJob _ _ _ _
    refine { Goes.refl s with roomId := fun k => ?_, created := fun k => ?_, cleaned := fun k hk => Or.inl ?_,
                              running := fun k hk => ?_, cancelled := fun k n hk => Or.inl ?_,
                              newTasks := fun _ ht => Or.inl ht }
    · rw [hobject]
      split
      · rename_i hkj
        rw [hkj]
      · rfl
    · rw [hobject]
      split
      · rename_i hkj
        rw [hkj]
      · rfl
    · rw [hobject] at hk
      split at hk
      · rename_i hkj
        rw [hkj]
        exact hk
      · exact hk
    · rw [running_iff, hobject] at hk
      rw [running_iff]
      split at hk
      · exact absurd hk hstate
      · exact hk
    · rw [hobject] at hk
      split at hk
      · rename_i hkj
        rw [hkj]
        exact hk
      · exact hk
  · exact Goes.refl s

theorem cancel_state (n : Nat) (job : Job) : (job.cancel n).state ≠ .running := by
  unfold Job.cancel
  dsimp only
  split
  · exact fun h => absurd h (by decide)
  · assumption

/-- Jobs have been cancelled. -/
theorem goes_cancels {s : BotRunner} {jobObject : Nat → Job}
    (h : ∀ j, jobObject j = s.jobObject j ∨ jobObject j = (s.jobObject j).cancel s.nextBot) :
    Goes s { s with jobObject } := by
  refine { Goes.refl s with roomId := fun j => ?_, created := fun j => ?_, cleaned := fun j hj => Or.inl ?_,
                            running := fun j hj => ?_, cancelled := fun j n hj => ?_,
                            newTasks := fun _ ht => Or.inl ht }
  · rcases h j with h | h
    · exact congrArg Job.roomId h
    · exact (congrArg Job.roomId h : _ = ((s.jobObject j).cancel s.nextBot).roomId)
  · rcases h j with h | h
    · exact congrArg Job.createdBotIds h
    · exact (congrArg Job.createdBotIds h : _ = ((s.jobObject j).cancel s.nextBot).createdBotIds)
  · rcases h j with h | h <;> exact (congrArg Job.cleaned h).symm.trans hj
  · rw [running_iff] at hj ⊢
    rcases h j with h | h
    · exact (congrArg Job.state h).symm.trans hj
    · exact absurd ((congrArg Job.state h).symm.trans hj) (cancel_state _ _)
  · rcases h j with h | h
    · exact Or.inl ((congrArg Job.cancelledAt h).symm.trans hj)
    · have hat : some ((s.jobObject j).cancelledAt.getD s.nextBot) = some n :=
        (congrArg Job.cancelledAt h).symm.trans hj
      have hquiet : running { s with jobObject } j = false := by
        rw [Bool.eq_false_iff, ne_eq, running_iff]
        exact fun hrun => cancel_state _ _ ((congrArg Job.state h).symm.trans hrun)
      cases hold : (s.jobObject j).cancelledAt with
      | some m =>
        rw [hold, Option.getD_some] at hat
        exact Or.inl hat
      | none =>
        rw [hold, Option.getD_none, Option.some.injEq] at hat
        exact Or.inr ⟨hat.symm, hquiet⟩

theorem goes_cancelRoomJobs (s : BotRunner) (roomId : String) : Goes s (s.cancelRoomJobs roomId) := by
  refine goes_cancels fun j => ?_
  split
  · exact Or.inr rfl
  · exact Or.inl rfl

theorem goes_cancel (s : BotRunner) (j : Nat) : Goes s (s.setJob j (Job.cancel s.nextBot)) := by
  refine goes_cancels fun k => ?_
  rw [Function.update_apply]
  split
  · rename_i hkj
    rw [hkj]
    exact Or.inr rfl
  · exact Or.inl rfl

theorem goes_cleanupJob (s : BotRunner) (j : Nat) : Goes s (s.cleanupJob j) := by
  have hg := goes_cancel s j
  have hself : (s.cleanupJob j).jobObject j = { (s.jobObject j).cancel s.nextBot with cleaned := true } :=
    Function.update_self ..
  have hother : ∀ k, k ≠ j → (s.cleanupJob j).jobObject k = (s.setJob j (Job.cancel s.nextBot)).jobObject k := by
    intro k hk
    exact (Function.update_of_ne hk _ _).trans (Function.update_of_ne hk _ _).symm
  have hsame : ∀ k, { (s.setJob j (Job.cancel s.nextBot)).jobObject k with
      cleaned := ((s.cleanupJob j).jobObject k).cleaned } = (s.cleanupJob j).jobObject k := by
    intro k
    by_cases hk : k = j
    · subst hk
      rw [hself, jobObject_setJob, if_pos rfl]
    · rw [hother k hk]
  have hstate : ∀ k, (s.cleanupJob j).running k = (s.setJob j (Job.cancel s.nextBot)).running k := by
    intro k
    rw [running, running, ← hsame k]
  refine { Goes.refl s with bots := List.filter_sublist, roomId := fun k => ?_, created := fun k => ?_,
                            cleaned := fun k hk => ?_, running := fun k hk => ?_, cancelled := fun k n hk => ?_,
                            newTasks := fun _ ht => Or.inl ht }
  · rw [← hsame k]
    exact hg.roomId k
  · rw [← hsame k]
    exact hg.created k
  · by_cases hkj : k = j
    · subst hkj
      refine Or.inr ⟨?_, fun b hb hin => ?_⟩
      · rw [Bool.eq_false_iff, ne_eq, running_iff, hself]
        exact cancel_state s.nextBot (s.jobObject k)
      · have hb : b ∈ (s.jobObject k).createdBotIds := by
          rw [hself] at hb
          exact hb
        exact of_decide_eq_true (List.mem_filter.1 hin).2 hb
    · rw [hother k hkj, jobObject_setJob, if_neg hkj] at hk
      exact Or.inl hk
  · rw [hstate] at hk
    exact hg.running k hk
  · rw [hstate]
    rw [← hsame k] at hk
    exact hg.cancelled k n hk

theorem goes_finishUpdate (s : BotRunner) (update : Update) (revision : Nat) :
    Goes s (s.finishUpdate update revision) := { Goes.refl s with }

theorem goes_setTarget (s : BotRunner) (roomId : String) (target : Option Nat) (revision : Nat) :
    Goes s (s.setTarget roomId target revision) := { Goes.refl s with }

theorem goes_connectBot (s : BotRunner) (b : Nat) : Goes s (s.connectBot b) := by
  refine { Goes.refl s with botJob := fun c => ?_, newTasks := fun _ ht => Or.inl ht }
  unfold connectBot
  dsimp only
  rw [Function.update_apply]
  split
  · rename_i hc
    rw [hc]
  · rfl

theorem goes_spawnOne {s : BotRunner} {j : Nat} (hj : j < s.nextJob) (index : Nat) : Goes s (s.spawnOne j index) := by
  unfold spawnOne
  split
  · split
    · exact goes_addTask _ _ hj
    · refine goes_addTask _ _ ⟨fun k hk => ?_, fun b hb => by cases hb⟩
      cases Option.mem_some.1 hk
      exact hj
  · exact Goes.refl s

theorem goes_spawnOnes {s : BotRunner} {j : Nat} (hj : j < s.nextJob) (indices : List Nat) :
    Goes s (indices.foldl (fun s index => s.spawnOne j index) s) := by
  induction indices generalizing s with
  | nil => exact Goes.refl s
  | cons index indices ih =>
    have hg := goes_spawnOne hj index
    exact hg.trans (ih (hg.nextJob ▸ hj))

theorem goes_roundLoop (settings : RunnerSettings) (s : BotRunner) (round : Round) (requested index : Nat) :
    Goes s (s.roundLoop settings round requested index) := by
  unfold roundLoop
  split
  · exact goes_addTask _ _ ⟨fun k hk => absurd hk (Option.not_mem_none k), fun b hb => by cases hb⟩
  · split
    · exact goes_removeTarget s _ _
    · exact Goes.refl s

theorem goes_beginRounds (s : BotRunner) (ready : String → Bool) (rooms : List String) :
    Goes s (rooms.foldl (beginRound settings ready) s) := by
  induction rooms generalizing s with
  | nil => exact Goes.refl s
  | cons roomId rooms ih =>
    refine Goes.trans ?_ (ih _)
    unfold beginRound
    dsimp only
    split
    · exact goes_addTask _ _ trivial
    · exact Goes.refl s

theorem goes_startEnds (s : BotRunner) (request : StartRequest) : Goes s (s.startEnds request) := by
  unfold startEnds
  split
  · exact goes_finishUpdate s _ _
  · exact Goes.refl s

theorem goes_stored (s : BotRunner) (update : Update) (revision : Nat) : Goes s (s.stored update revision) := by
  have hset : ∀ target : Option Nat,
      Goes s ((s.setTarget update.roomId target revision).cancelRoomJobs update.roomId) :=
    fun target => (goes_setTarget s _ _ _).trans (goes_cancelRoomJobs _ _)
  unfold stored
  split
  · exact (hset none).trans (goes_finishUpdate _ _ _)
  · rename_i target intervalMs _
    dsimp only
    split
    · exact ((hset _).trans (goes_removeTarget _ _ _)).trans (goes_finishUpdate _ _ _)
    · split
      · exact (hset _).trans (goes_addTask _ _ trivial)
      · exact (hset _).trans (goes_finishUpdate _ _ _)

theorem goes_writeTarget (s : BotRunner) (update : Update) (revision : Nat) :
    Goes s (s.writeTarget update revision) := by
  refine { Goes.refl s with tasks := fun t h => List.mem_append_left _ h, newTasks := fun t h => ?_ }
  rcases List.mem_append.1 h with h | h
  · exact Or.inl h
  · rw [List.mem_singleton.1 h]
    exact Or.inr trivial

theorem goes_beginUpdate (s : BotRunner) (update : Update) : Goes s (s.beginUpdate update) := by
  refine { Goes.refl s with tasks := fun t h => List.mem_append_left _ h, newTasks := fun t h => ?_ }
  rcases List.mem_append.1 h with h | h
  · exact Or.inl h
  · rw [List.mem_singleton.1 h]
    exact Or.inr trivial

theorem goes_enqueue (s : BotRunner) (roomId : String) (kind : UpdateKind) : Goes s (s.enqueue roomId kind) := by
  refine { Goes.refl s with tasks := fun t h => List.mem_append_left _ h, newTasks := fun t h => ?_ }
  rcases List.mem_append.1 h with h | h
  · exact Or.inl h
  · rw [List.mem_singleton.1 h]
    exact Or.inr trivial

theorem goes_spawnFailed (s : BotRunner) (caller : SpawnCaller) : Goes s (s.spawnFailed caller) := by
  cases caller with
  | job j index => exact goes_endJob s j (by decide)
  | round round requested index => exact Goes.refl s

/-! ### A task is taken -/

/-- A task that does not wait for a bot's connection leaves the tables as they are. -/
theorem Tidy.erase {s : BotRunner} {taken : Option Nat} (h : s.Tidy none) {i : Nat} {task : Task}
    (hi : s.tasks[i]? = some task) (hconnects : ∀ j b, task.connects j b → taken = some b) :
    Tidy { s with tasks := s.tasks.eraseIdx i } taken := by
  refine { h with tasks := fun t ht => ?_, made := fun b hb hne j hj => ?_ }
  · exact h.tasks t (List.mem_of_mem_eraseIdx ht)
  · rcases h.made b hb (fun h => by cases h) j hj with hc | ⟨t, ht, hc⟩
    · exact Or.inl hc
    · refine Or.inr ⟨t, ?_, hc⟩
      obtain ⟨k, hk⟩ := List.getElem?_of_mem ht
      refine List.mem_eraseIdx_iff_getElem?.2 ⟨k, ?_, hk⟩
      rintro rfl
      rw [hi] at hk
      cases hk
      exact hne (hconnects j b hc)

/-- The bot whose task has been taken is stopped. -/
theorem Tidy.stopBot {s : BotRunner} {b : Nat} (h : s.Tidy (some b)) : (s.stopBot b).Tidy none := by
  have hg := (goes_stopBot s b).tidy h
  refine { hg with made := fun c hc _ j hj => ?_ }
  refine hg.made c hc (fun hcb => ?_) j hj
  cases hcb
  exact List.Nodup.not_mem_erase h.nodup hc

/-- The bot whose task has been taken is of no job. -/
theorem Tidy.forget {s : BotRunner} {b : Nat} (h : s.Tidy (some b)) (hb : (s.botObject b).job = none) :
    s.Tidy none := by
  refine { h with made := fun c hc _ j hj => ?_ }
  refine h.made c hc (fun hcb => ?_) j hj
  cases hcb
  rw [hb] at hj
  cases hj

/-- A running job lists the bot whose task has been taken. -/
theorem Tidy.listBot {s : BotRunner} {j b : Nat} (h : s.Tidy (some b)) (hjob : (s.botObject b).job = some j)
    (hb : b < s.nextBot) (hrun : s.running j = true) : (s.listBot j b).Tidy none := by
  have hobject : ∀ k, (s.listBot j b).jobObject k = if k = j then
      { s.jobObject j with
        createdBotIds := (s.jobObject j).createdBotIds ++ [b], completed := (s.jobObject j).completed + 1 }
      else s.jobObject k := fun k => jobObject_setJob s j k _
  have hnot : s.running j ≠ false := fun hno => by
    rw [hrun] at hno
    cases hno
  refine ⟨h.jobs, h.nodup, h.bots, h.jobOf, fun task ht => ?_, fun k c hc => ?_, fun c hc _ k hk => ?_,
    fun k n hn => ?_, fun k hk => ?_⟩
  · have htidy := h.tasks task ht
    unfold TaskTidy at htidy ⊢
    split
    · refine ⟨htidy.1, fun k hk hroom hk' => htidy.2 k hk ?_ ?_⟩
      · rw [← hroom, hobject]
        split
        · rename_i hkj
          rw [hkj]
        · rfl
      · rw [running_iff, hobject] at hk'
        rw [running_iff]
        split at hk'
        · rename_i hkj
          rw [hkj]
          exact hk'
        · exact hk'
    · exact htidy
    · exact htidy
    · exact htidy
    · trivial
  · rw [hobject] at hc
    split at hc
    · rcases List.mem_append.1 hc with hc | hc
      · exact h.created j c hc
      · rw [List.mem_singleton.1 hc]
        exact hb
    · exact h.created k c hc
  · rw [hobject]
    by_cases hcb : c = b
    · subst hcb
      have hkj : k = j := by
        have hk : (s.botObject c).job = some k := hk
        rw [hjob] at hk
        exact (Option.some.inj hk).symm
      rw [if_pos hkj]
      exact Or.inl (List.mem_append_right _ (List.mem_singleton_self c))
    · rcases h.made c hc (fun hbc => hcb (Option.some.inj hbc).symm) k hk with hin | htask
      · left
        split
        · rename_i hkj
          rw [hkj] at hin
          exact List.mem_append_left _ hin
        · exact hin
      · exact Or.inr htask
  · rw [hobject] at hn
    split at hn
    · exact absurd (h.cancelled j n hn).1 hnot
    · rename_i hkj
      obtain ⟨hno, hle, hc⟩ := h.cancelled k n hn
      refine ⟨?_, hle, ?_⟩
      · rw [Bool.eq_false_iff, ne_eq, running_iff, hobject, if_neg hkj, ← running_iff, hno]
        exact Bool.false_ne_true
      · rw [hobject, if_neg hkj]
        exact hc
  · rw [hobject] at hk
    split at hk
    · exact absurd (h.cleaned j hk).1 hnot
    · rename_i hkj
      obtain ⟨hno, hc⟩ := h.cleaned k hk
      refine ⟨?_, ?_⟩
      · rw [Bool.eq_false_iff, ne_eq, running_iff, hobject, if_neg hkj, ← running_iff, hno]
        exact Bool.false_ne_true
      · rw [hobject, if_neg hkj]
        exact hc

theorem goes_keepTarget (s : BotRunner) (j : Nat) : Goes s (s.keepTarget j) := by
  unfold keepTarget
  split
  · split
    · exact goes_removeTarget s _ _
    · exact Goes.refl s
  · exact Goes.refl s

theorem goes_jobLoop {s : BotRunner} {j : Nat} (hj : j < s.nextJob) (index : Nat) : Goes s (s.jobLoop j index) := by
  have hends : Goes s (s.endJob j .completed) := goes_endJob s j (by decide)
  unfold jobLoop
  split
  · split
    · exact Goes.refl s
    · exact hends
  · split
    · exact goes_addTask _ _ hj
    · exact hends
  · split
    · exact goes_addTask _ _ hj
    · exact hends

theorem Tidy.jobSpawned {s : BotRunner} {j b : Nat} (h : s.Tidy (some b)) (hjob : (s.botObject b).job = some j)
    (hb : b < s.nextBot) (hj : j < s.nextJob) (index : Nat) : (s.jobSpawned j index b).Tidy none := by
  unfold BotRunner.jobSpawned
  split
  · rename_i hrun
    have hkeep := goes_keepTarget (s.listBot j b) j
    have hloop := goes_jobLoop (hkeep.nextJob ▸ hj : j < ((s.listBot j b).keepTarget j).nextJob) index
    exact (hkeep.trans hloop).tidy (h.listBot hjob hb hrun)
  · exact h.stopBot

/-! ### New bots and jobs -/

theorem Tidy.addBot {s : BotRunner} (h : s.Tidy none) (roomId : String) (mode : BotMode) {caller : SpawnCaller}
    (hcaller : ∀ j ∈ caller.job?, j < s.nextJob) : (s.addBot roomId mode caller).Tidy none := by
  have hnew : ((s.addBot roomId mode caller).botObject s.nextBot).job = caller.job? := by
    unfold BotRunner.addBot
    dsimp only
    rw [Function.update_self]
  have hold : ∀ b < s.nextBot, (s.addBot roomId mode caller).botObject b = s.botObject b := fun b hb =>
    Function.update_of_ne (Nat.ne_of_lt hb) _ _
  have hbots : ∀ b ∈ (s.addBot roomId mode caller).bots, b ∈ s.bots ∨ b = s.nextBot := by
    intro b hb
    rcases List.mem_append.1 hb with hb | hb
    · exact Or.inl hb
    · exact Or.inr (List.mem_singleton.1 hb)
  refine ⟨h.jobs, ?_, fun b hb => ?_, fun b hb j hj => ?_, fun task ht => ?_, fun j b hb => ?_,
    fun b hb _ j hj => ?_, fun j n hn => ?_, fun j hj => ?_⟩
  · refine List.Nodup.append h.nodup (List.nodup_singleton _) ?_
    intro b hb hb'
    rw [List.mem_singleton.1 hb'] at hb
    exact Nat.lt_irrefl _ (h.bots _ hb)
  · rcases hbots b hb with hb | rfl
    · exact Nat.lt_succ_of_lt (h.bots b hb)
    · exact Nat.lt_succ_self _
  · rcases hbots b hb with hb | rfl
    · rw [hold b (h.bots b hb)] at hj
      exact h.jobOf b hb j hj
    · rw [hnew] at hj
      exact hcaller j hj
  · rcases List.mem_append.1 ht with ht | ht
    · have htidy := h.tasks task ht
      unfold TaskTidy at htidy ⊢
      split
      · exact htidy
      · refine ⟨htidy.1, fun b hb => ?_⟩
        obtain ⟨hlt, hjob⟩ := htidy.2 b hb
        exact ⟨Nat.lt_succ_of_lt hlt, by rw [hold b hlt, hjob]⟩
      · exact htidy
      · exact htidy
      · trivial
    · rw [List.mem_singleton.1 ht]
      refine ⟨hcaller, fun b hb => ?_⟩
      cases hb
      exact ⟨Nat.lt_succ_self _, hnew⟩
  · exact Nat.lt_succ_of_lt (h.created j b hb)
  · rcases hbots b hb with hb | rfl
    · rw [hold b (h.bots b hb)] at hj
      rcases h.made b hb (fun h => by cases h) j hj with hc | ⟨task, ht, hc⟩
      · exact Or.inl hc
      · exact Or.inr ⟨task, List.mem_append_left _ ht, hc⟩
    · rw [hnew] at hj
      exact Or.inr ⟨_, List.mem_append_right _ (List.mem_singleton_self _), hj, rfl⟩
  · obtain ⟨hno, hle, hc⟩ := h.cancelled j n hn
    exact ⟨hno, Nat.le_succ_of_le hle, hc⟩
  · obtain ⟨hno, hc⟩ := h.cleaned j hj
    refine ⟨hno, fun b hb hin => ?_⟩
    rcases hbots b hin with hin | rfl
    · exact hc b hb hin
    · exact Nat.lt_irrefl _ (h.created j _ hb)

/-- A step that registers no job starts none. -/
structure Quiets (s s' : BotRunner) : Prop where
  nextJob : s'.nextJob = s.nextJob
  roomId : ∀ j, (s'.jobObject j).roomId = (s.jobObject j).roomId
  running : ∀ j, s'.running j = true → s.running j = true

/-- A job of the room has been registered, and the other jobs run as before. -/
structure Registers (s s' : BotRunner) (roomId : String) : Prop where
  nextJob : s'.nextJob = s.nextJob + 1
  newRoom : (s'.jobObject s.nextJob).roomId = roomId
  newRuns : s'.running s.nextJob = true
  roomId : ∀ j < s.nextJob, (s'.jobObject j).roomId = (s.jobObject j).roomId
  running : ∀ j < s.nextJob, s'.running j = s.running j

theorem Goes.quiets {s s' : BotRunner} (h : Goes s s') : Quiets s s' := ⟨h.nextJob, h.roomId, h.running⟩

theorem Quiets.trans {s s' s'' : BotRunner} (h : Quiets s s') (h' : Quiets s' s'') : Quiets s s'' :=
  ⟨h'.nextJob.trans h.nextJob, fun j => (h'.roomId j).trans (h.roomId j), fun j hj => h.running j (h'.running j hj)⟩

theorem jobObject_spawnOne (s : BotRunner) (j index : Nat) : (s.spawnOne j index).jobObject = s.jobObject := by
  unfold spawnOne
  split
  · split <;> rfl
  · rfl

theorem jobObject_spawnOnes (s : BotRunner) (j : Nat) (indices : List Nat) :
    (indices.foldl (fun s index => s.spawnOne j index) s).jobObject = s.jobObject := by
  induction indices generalizing s with
  | nil => rfl
  | cons index indices ih => exact (ih _).trans (jobObject_spawnOne s j index)

theorem jobObject_startEnds (s : BotRunner) (request : StartRequest) :
    (s.startEnds request).jobObject = s.jobObject := by
  unfold startEnds
  split <;> rfl

theorem jobObject_withJob (s : BotRunner) (request : StartRequest) (j : Nat) :
    (s.withJob request).jobObject j = if j = s.nextJob then request.toJob else s.jobObject j :=
  Function.update_apply _ _ _ _

theorem mem_jobs_withJob {s : BotRunner} {request : StartRequest} {j : Nat} (hj : j ∈ (s.withJob request).jobs) :
    j ∈ s.jobs ∨ j = s.nextJob := by
  rcases List.mem_append.1 (List.mem_of_mem_drop hj) with hj | hj
  · exact Or.inl hj
  · exact Or.inr (List.mem_singleton.1 hj)

theorem Tidy.withJob {s : BotRunner} (h : s.Tidy none) (request : StartRequest) : (s.withJob request).Tidy none := by
  have hobject := jobObject_withJob s request
  refine ⟨fun j hj => ?_, h.nodup, h.bots, fun b hb j hj => Nat.lt_succ_of_lt (h.jobOf b hb j hj), fun task ht => ?_,
    fun j b hb => ?_, fun b hb hne j hj => ?_, fun j n hn => ?_, fun j hj => ?_⟩
  · rcases mem_jobs_withJob hj with hj | rfl
    · exact Nat.lt_succ_of_lt (h.jobs j hj)
    · exact Nat.lt_succ_self _
  · have htidy := h.tasks task ht
    unfold TaskTidy at htidy ⊢
    split
    · obtain ⟨hle, hgone⟩ := htidy
      refine ⟨Nat.le_succ_of_le hle, fun k hk hroom hrun hin => ?_⟩
      have hne : k ≠ s.nextJob := by omega
      rw [hobject, if_neg hne] at hroom
      rw [running_iff, hobject, if_neg hne] at hrun
      rcases mem_jobs_withJob hin with hin | hin
      · exact hgone k hk hroom (running_iff.2 hrun) hin
      · exact hne hin
    · exact ⟨fun j hj => Nat.lt_succ_of_lt (htidy.1 j hj), htidy.2⟩
    · exact Nat.lt_succ_of_lt htidy
    · exact Nat.lt_succ_of_lt htidy
    · trivial
  · rw [hobject] at hb
    split at hb
    · exact absurd hb List.not_mem_nil
    · exact h.created j b hb
  · have hlt : j < s.nextJob := h.jobOf b hb j hj
    rw [hobject, if_neg (Nat.ne_of_lt hlt)]
    exact h.made b hb hne j hj
  · rw [hobject] at hn
    split at hn
    · cases hn
    · rename_i hne
      rw [running, hobject, if_neg hne]
      exact h.cancelled j n hn
  · rw [hobject] at hj
    split at hj
    · cases hj
    · rename_i hne
      rw [running, hobject, if_neg hne]
      exact h.cleaned j hj

theorem goes_register (s : BotRunner) (request : StartRequest) : Goes (s.withJob request) (s.register request) := by
  have hlt : s.nextJob < (s.withJob request).nextJob := Nat.lt_succ_self _
  unfold register
  split
  · exact goes_spawnOnes hlt _
  · exact goes_spawnOne hlt 0
  · exact goes_spawnOne hlt 0

theorem jobObject_register (s : BotRunner) (request : StartRequest) :
    (s.register request).jobObject = (s.withJob request).jobObject := by
  unfold register
  split
  · exact jobObject_spawnOnes (s.withJob request) _ _
  · exact jobObject_spawnOne (s.withJob request) _ _
  · exact jobObject_spawnOne (s.withJob request) _ _

theorem registers_register (s : BotRunner) (request : StartRequest) :
    Registers s ((s.register request).startEnds request) request.roomId := by
  have hgoes := (goes_register s request).trans (goes_startEnds (s.register request) request)
  have hobject : ∀ j, ((s.register request).startEnds request).jobObject j =
      if j = s.nextJob then request.toJob else s.jobObject j := by
    intro j
    rw [jobObject_startEnds, jobObject_register, jobObject_withJob]
  refine ⟨hgoes.nextJob, ?_, ?_, fun j hj => ?_, fun j hj => ?_⟩
  · rw [hobject, if_pos rfl]
    rfl
  · rw [running_iff, hobject, if_pos rfl]
    rfl
  · rw [hobject, if_neg (Nat.ne_of_lt hj)]
  · rw [running, hobject, if_neg (Nat.ne_of_lt hj)]
    rfl

theorem Goes.step {s s' : BotRunner} (hg : Goes s s') (h : s.Tidy none) : s'.Tidy none ∧ Quiets s s' :=
  ⟨hg.tidy h, hg.quiets⟩

theorem not_running_of_none {s : BotRunner} {roomId : String} (h : (s.runningRoomJob roomId).isSome = false) :
    ∀ j, (s.jobObject j).roomId = roomId → s.running j = true → j ∉ s.jobs := by
  intro j hroom hrun hin
  rw [Option.isSome_eq_false_iff, Option.isNone_iff_eq_none] at h
  have hnone := List.find?_eq_none.1 h j hin
  rw [hrun, Bool.and_true, decide_eq_true_eq] at hnone
  exact hnone hroom

/-! ### Steps -/

theorem Tidy.resumeStart {s s' : BotRunner} (h : s.Tidy none) {request : StartRequest} {stage : StartStage}
    {answer : Answer} (hs : s.resumeStart request stage answer = some s') :
    s'.Tidy none ∧ (Quiets s s' ∨ ∃ checked players maxPlayers, stage = .body checked ∧
      answer = .summary players maxPlayers ∧ ¬s.available request.roomId players maxPlayers < request.count ∧
      Registers s s' request.roomId) := by
  have hends := (goes_startEnds s request).step h
  unfold BotRunner.resumeStart at hs
  split at hs
  · rw [Option.some.injEq] at hs
    rw [← hs]
    split
    · exact ⟨hends.1, Or.inl hends.2⟩
    · have hg := (goes_addTask s (.start request .summary) trivial).step h
      exact ⟨hg.1, Or.inl hg.2⟩
  · rw [Option.some.injEq] at hs
    rw [← hs]
    split
    · exact ⟨hends.1, Or.inl hends.2⟩
    · rename_i hnone
      have hgone := not_running_of_none (Bool.eq_false_iff.2 hnone)
      have hg := (goes_addTask s (.start request (.body s.nextJob))
        ⟨Nat.le_refl _, fun k _ => hgone k⟩).step h
      exact ⟨hg.1, Or.inl hg.2⟩
  · rename_i checked players maxPlayers
    rw [Option.some.injEq] at hs
    rw [← hs]
    split
    · exact ⟨hends.1, Or.inl hends.2⟩
    · rename_i havailable
      have hg := (goes_register s request).trans (goes_startEnds (s.register request) request)
      exact ⟨hg.tidy (h.withJob request),
        Or.inr ⟨checked, players, maxPlayers, rfl, rfl, havailable, registers_register s request⟩⟩
  · rw [Option.some.injEq] at hs
    rw [← hs]
    exact ⟨hends.1, Or.inl hends.2⟩
  · cases hs

theorem quiets_listBot (s : BotRunner) (j b : Nat) : Quiets s (s.listBot j b) := by
  refine ⟨rfl, fun k => ?_, fun k hk => ?_⟩
  · unfold BotRunner.listBot
    rw [jobObject_setJob]
    split
    · rename_i hkj
      rw [hkj]
    · rfl
  · unfold BotRunner.listBot at hk
    rw [running_iff, jobObject_setJob] at hk
    rw [running_iff]
    split at hk
    · rename_i hkj
      rw [hkj]
      exact hk
    · exact hk

theorem quiets_jobSpawned {s : BotRunner} {j : Nat} (hj : j < s.nextJob) (index b : Nat) :
    Quiets s (s.jobSpawned j index b) := by
  unfold BotRunner.jobSpawned
  split
  · have hkeep := goes_keepTarget (s.listBot j b) j
    have hloop := goes_jobLoop (hkeep.nextJob ▸ hj : j < ((s.listBot j b).keepTarget j).nextJob) index
    exact (quiets_listBot s j b).trans (hkeep.trans hloop).quiets
  · exact (goes_stopBot s b).quiets

/-- The bot whose connection a spawn waits for. -/
def SpawnStage.bot : SpawnStage → Option Nat
  | .connecting b => some b
  | _ => none

theorem Tidy.resumeSpawn {s s' : BotRunner} {roomId : String} {mode : BotMode} {caller : SpawnCaller}
    {stage : SpawnStage} {answer : Answer} (h : s.Tidy stage.bot)
    (htask : s.TaskTidy (.spawn roomId mode caller stage))
    (hs : s.resumeSpawn settings roomId mode caller stage answer = some s') : s'.Tidy none ∧ Quiets s s' := by
  obtain ⟨hcaller, hbot⟩ := htask
  unfold BotRunner.resumeSpawn at hs
  split at hs
  · rw [Option.some.injEq] at hs
    rw [← hs]
    exact (goes_addTask s (.spawn roomId mode caller .findGame)
      ⟨hcaller, fun b hb => by cases hb⟩).step h
  · rw [Option.some.injEq] at hs
    rw [← hs]
    exact ⟨h.addBot roomId mode hcaller, rfl, fun _ => rfl, fun _ hj => hj⟩
  · rename_i b
    obtain ⟨hlt, hjob⟩ := hbot b rfl
    have hg := goes_connectBot s b
    have hconnect : (s.connectBot b).Tidy (some b) := hg.tidy h
    split at hs
    · cases caller with
      | job j index =>
        cases hs
        have hj : j < s.nextJob := hcaller j rfl
        exact ⟨hconnect.jobSpawned ((hg.botJob b).trans hjob) hlt hj index,
          hg.quiets.trans (quiets_jobSpawned (hg.nextJob ▸ hj) index b)⟩
      | round round requested index =>
        cases hs
        have hloop := goes_roundLoop settings (s.connectBot b) round requested (index + 1)
        exact ⟨hloop.tidy (hconnect.forget ((hg.botJob b).trans hjob)), (hg.trans hloop).quiets⟩
    · cases hs
  · rename_i b
    rw [Option.some.injEq] at hs
    rw [← hs]
    have hstop : (s.stopBot b).Tidy none := Tidy.stopBot h
    have hfail := goes_spawnFailed (s.stopBot b) caller
    exact ⟨hfail.tidy hstop, ((goes_stopBot s b).trans hfail).quiets⟩
  · rename_i hno
    rw [Option.some.injEq] at hs
    rw [← hs]
    have hnone : stage.bot = none := by
      cases stage with
      | rooms => rfl
      | findGame => rfl
      | connecting b => exact absurd rfl (hno b)
    rw [hnone] at h
    exact (goes_spawnFailed s caller).step h
  · cases hs

theorem Tidy.resumeRound {s s' : BotRunner} (h : s.Tidy none) {round : Round} {deficit : Nat} {stage : RoundStage}
    {answer : Answer} (hs : s.resumeRound settings round deficit stage answer = some s') :
    s'.Tidy none ∧ Quiets s s' := by
  unfold BotRunner.resumeRound at hs
  split at hs
  · cases hs
    exact (goes_addTask s (.round round deficit .body) trivial).step h
  · dsimp only at hs
    rw [Option.some.injEq] at hs
    rw [← hs]
    split
    · exact (Goes.refl s).step h
    · exact (goes_roundLoop settings s round _ 0).step h
  · cases hs
    exact (Goes.refl s).step h
  · cases hs

/-- A task goes on: the tables stay tidy, and only `startJob` behind its last wait registers a job. -/
theorem Tidy.resume {s s' : BotRunner} (h : s.Tidy none) {i : Nat} {task : Task} {answer : Answer}
    (hi : s.tasks[i]? = some task)
    (hs : BotRunner.resume settings { s with tasks := s.tasks.eraseIdx i } task answer = some s') :
    s'.Tidy none ∧ (Quiets s s' ∨ ∃ request checked players maxPlayers, task = .start request (.body checked) ∧
      answer = .summary players maxPlayers ∧ ¬s.available request.roomId players maxPlayers < request.count ∧
      Registers s s' request.roomId) := by
  have htidy := h.tasks task (List.mem_of_getElem? hi)
  have hquiet : ∀ {t : BotRunner}, t.Tidy none ∧ Quiets { s with tasks := s.tasks.eraseIdx i } t →
      t.Tidy none ∧ (Quiets s t ∨ ∃ request checked players maxPlayers, task = .start request (.body checked) ∧
        answer = .summary players maxPlayers ∧ ¬s.available request.roomId players maxPlayers < request.count ∧
        Registers s t request.roomId) := fun ht => ⟨ht.1, Or.inl ⟨ht.2.nextJob, ht.2.roomId, ht.2.running⟩⟩
  have hnone : (∀ j b, ¬task.connects j b) → Tidy { s with tasks := s.tasks.eraseIdx i } none :=
    fun hno => h.erase hi fun j b hc => absurd hc (hno j b)
  cases task with
  | start request stage =>
    obtain ⟨ht, hq | ⟨checked, players, maxPlayers, rfl, rfl, havailable, hr⟩⟩ :=
      (hnone fun j b hc => hc).resumeStart hs
    · exact hquiet ⟨ht, hq⟩
    · exact ⟨ht, Or.inr ⟨request, checked, players, maxPlayers, rfl, rfl, havailable,
        hr.nextJob, hr.newRoom, hr.newRuns, hr.roomId, hr.running⟩⟩
  | spawn roomId mode caller stage =>
    have htaken : ∀ j b, Task.connects j b (.spawn roomId mode caller stage) → stage.bot = some b := by
      intro j b hc
      cases stage with
      | rooms => exact absurd hc id
      | findGame => exact absurd hc id
      | connecting b' => exact congrArg some hc.2
    exact hquiet ((h.erase hi htaken).resumeSpawn htidy hs)
  | sleep j index =>
    have herase := hnone fun j b hc => hc
    cases answer with
    | done =>
      cases hs
      have hlt : j < nextJob { s with tasks := s.tasks.eraseIdx i } := htidy
      exact hquiet ((goes_spawnOne hlt index).step herase)
    | failed => cases hs
    | written => cases hs
    | summary players maxPlayers => cases hs
  | declined j =>
    have herase := hnone fun j b hc => hc
    cases answer with
    | done =>
      cases hs
      exact hquiet ((goes_endJob _ j (by decide)).step herase)
    | failed => cases hs
    | written => cases hs
    | summary players maxPlayers => cases hs
  | queued update =>
    have herase := hnone fun j b hc => hc
    cases answer with
    | done =>
      unfold BotRunner.resume at hs
      dsimp only at hs
      split at hs
      · cases hs
        exact hquiet ((goes_beginUpdate _ update).step herase)
      · cases hs
    | failed => cases hs
    | written => cases hs
    | summary players maxPlayers => cases hs
  | storing update revision written =>
    have herase := hnone fun j b hc => hc
    cases written with
    | false =>
      cases answer with
      | written =>
        cases hs
        exact hquiet ((goes_writeTarget _ update revision).step herase)
      | failed =>
        cases hs
        exact hquiet ((goes_finishUpdate _ update revision).step herase)
      | done => cases hs
      | summary players maxPlayers => cases hs
    | true =>
      cases answer with
      | done =>
        cases hs
        exact hquiet ((goes_stored _ update revision).step herase)
      | failed => cases hs
      | written => cases hs
      | summary players maxPlayers => cases hs
  | round round deficit stage =>
    exact hquiet ((hnone fun j b hc => hc).resumeRound hs)

/-- When a job is registered, no job of its room runs that is younger than the second look, and none that has left the
table. -/
def StillAlone (s : BotRunner) : RunnerEvent → Prop
  | .resume i (.summary players maxPlayers) =>
    match s.tasks[i]? with
    | some (.start request (.body checked)) =>
      request.count ≤ s.available request.roomId players maxPlayers →
        ∀ k < s.nextJob, (s.jobObject k).roomId = request.roomId → s.running k = true → k < checked ∧ k ∈ s.jobs
    | _ => True
  | _ => True

theorem Tidy.step {s s' : BotRunner} (h : s.Tidy none) {event : RunnerEvent} (hs : s.step settings event = some s') :
    s'.Tidy none ∧ (Quiets s s' ∨ ∃ i request checked players maxPlayers,
      event = .resume i (.summary players maxPlayers) ∧ s.tasks[i]? = some (.start request (.body checked)) ∧
      request.count ≤ s.available request.roomId players maxPlayers ∧ Registers s s' request.roomId) := by
  have hquiet : ∀ {t : BotRunner}, Goes s t → t.Tidy none ∧ (Quiets s t ∨ ∃ i request checked players maxPlayers,
      event = .resume i (.summary players maxPlayers) ∧ s.tasks[i]? = some (.start request (.body checked)) ∧
      request.count ≤ s.available request.roomId players maxPlayers ∧ Registers s t request.roomId) :=
    fun hg => ⟨hg.tidy h, Or.inl hg.quiets⟩
  cases event with
  | post count roomId mode intervalMs =>
    unfold BotRunner.step at hs
    dsimp only at hs
    split at hs
    · cases hs
      exact hquiet (goes_addTask _ _ trivial)
    · cases hs
  | put roomId target intervalMs =>
    unfold BotRunner.step at hs
    dsimp only at hs
    split at hs
    · cases hs
      exact hquiet (goes_enqueue s _ _)
    · cases hs
  | delete roomId =>
    cases hs
    exact hquiet (goes_enqueue s _ _)
  | cancel j =>
    unfold BotRunner.step at hs
    dsimp only at hs
    split at hs
    · cases hs
      exact hquiet (goes_cancel s j)
    · cases hs
  | cleanup j =>
    unfold BotRunner.step at hs
    dsimp only at hs
    split at hs
    · cases hs
      exact hquiet (goes_cleanupJob s j)
    · cases hs
  | reconcile rooms ready =>
    unfold BotRunner.step at hs
    dsimp only at hs
    split at hs
    · cases hs
      exact hquiet (goes_beginRounds s ready rooms)
    · cases hs
  | closed b =>
    unfold BotRunner.step at hs
    dsimp only at hs
    split at hs
    · cases hs
      exact hquiet (goes_stopBot s b)
    · cases hs
  | resume i answer =>
    obtain ⟨task, hi, hs⟩ := Option.bind_eq_some_iff.1 hs
    obtain ⟨ht, hq | ⟨request, checked, players, maxPlayers, rfl, rfl, havailable, hr⟩⟩ := h.resume hi hs
    · exact ⟨ht, Or.inl hq⟩
    · exact ⟨ht, Or.inr ⟨i, request, checked, players, maxPlayers, rfl, hi, Int.not_lt.1 havailable, hr⟩⟩

/-! ### The bot runner -/

/-- No room has two running jobs. -/
def RunningOnce (s : BotRunner) : Prop :=
  ∀ j < s.nextJob, ∀ k < s.nextJob, s.running j = true → s.running k = true →
    (s.jobObject j).roomId = (s.jobObject k).roomId → j = k

/-- A job that has been cancelled and does not spawn any more has no bot of a later time, and none at all if it has
been cleaned up. -/
def Settled (s : BotRunner) : Prop :=
  ∀ j < s.nextJob, s.tasks.any (Task.spawnsFor j) = false →
    (∀ n ∈ (s.jobObject j).cancelledAt, ∀ b ∈ s.bots, (s.botObject b).job = some j → b < n) ∧
      ((s.jobObject j).cleaned = true → ∀ b ∈ s.bots, (s.botObject b).job ≠ some j)

instance (s : BotRunner) : Decidable s.RunningOnce := by
  unfold RunningOnce
  infer_instance

theorem Task.connects.spawnsFor {j b : Nat} {task : Task} (h : task.connects j b) : task.spawnsFor j = true := by
  unfold connects at h
  split at h
  · rename_i roomId mode caller b'
    cases caller with
    | job j' index => exact decide_eq_true (Option.some.inj h.1)
    | round round requested index => cases h.1
  · exact absurd h id

theorem Tidy.settled {s : BotRunner} (h : s.Tidy none) : s.Settled := by
  intro j _ hno
  have hmade : ∀ b ∈ s.bots, (s.botObject b).job = some j → b ∈ (s.jobObject j).createdBotIds := by
    intro b hb hjob
    rcases h.made b hb (fun h => by cases h) j hjob with hc | ⟨task, ht, hc⟩
    · exact hc
    · have hany := List.any_eq_false.1 hno task ht
      exact absurd hc.spawnsFor hany
  exact ⟨fun n hn b hb hjob => (h.cancelled j n hn).2.2 b (hmade b hb hjob),
    fun hc b hb hjob => (h.cleaned j hc).2 b (hmade b hb hjob) hb⟩

theorem RunningOnce.quiets {s s' : BotRunner} (h : s.RunningOnce) (hq : Quiets s s') : s'.RunningOnce := by
  intro j hj k hk hjr hkr hroom
  rw [hq.nextJob] at hj hk
  rw [hq.roomId, hq.roomId] at hroom
  exact h j hj k hk (hq.running j hjr) (hq.running k hkr) hroom

/-- A job is registered: its room has no other running job just when none ran before. -/
theorem runningOnce_registers {s s' : BotRunner} {roomId : String} (h : s.RunningOnce)
    (hr : Registers s s' roomId) :
    s'.RunningOnce ↔ ∀ k < s.nextJob, (s.jobObject k).roomId = roomId → s.running k = false := by
  have hself : s.nextJob < s'.nextJob := by
    rw [hr.nextJob]
    exact Nat.lt_succ_self _
  constructor
  · intro hone k hk hroom
    rw [Bool.eq_false_iff]
    intro hrun
    have hkn : k = s.nextJob := by
      refine hone k (Nat.lt_trans hk hself) s.nextJob hself ?_ hr.newRuns ?_
      · rw [hr.running k hk]
        exact hrun
      · rw [hr.roomId k hk, hroom, hr.newRoom]
    exact Nat.ne_of_lt hk hkn
  · intro hnone j hj k hk hjr hkr hroom
    rw [hr.nextJob] at hj hk
    have hnew : ∀ i < s.nextJob, s'.running i = true → (s'.jobObject i).roomId ≠ roomId := by
      intro i hi hrun hi'
      rw [hr.roomId i hi] at hi'
      rw [hr.running i hi, hnone i hi hi'] at hrun
      cases hrun
    rcases Nat.lt_succ_iff_lt_or_eq.1 hj with hj | rfl
    · rcases Nat.lt_succ_iff_lt_or_eq.1 hk with hk | rfl
      · rw [hr.roomId j hj, hr.roomId k hk] at hroom
        rw [hr.running j hj] at hjr
        rw [hr.running k hk] at hkr
        exact h j hj k hk hjr hkr hroom
      · exact absurd (hroom.trans hr.newRoom) (hnew j hj hjr)
    · rcases Nat.lt_succ_iff_lt_or_eq.1 hk with hk | rfl
      · exact absurd (hroom.symm.trans hr.newRoom) (hnew k hk hkr)
      · rfl

/-- A job that was in the table at the second look does not run, so what runs is younger or out of the table. -/
theorem Tidy.alone_iff {s : BotRunner} (h : s.Tidy none) {i : Nat} {request : StartRequest} {checked : Nat}
    (hi : s.tasks[i]? = some (.start request (.body checked))) :
    (∀ k < s.nextJob, (s.jobObject k).roomId = request.roomId → s.running k = true → k < checked ∧ k ∈ s.jobs) ↔
      ∀ k < s.nextJob, (s.jobObject k).roomId = request.roomId → s.running k = false := by
  have htask : s.TaskTidy (.start request (.body checked)) := h.tasks _ (List.mem_of_getElem? hi)
  constructor
  · intro hk k hlt hroom
    rw [Bool.eq_false_iff]
    intro hrun
    obtain ⟨hchecked, hin⟩ := hk k hlt hroom hrun
    exact htask.2 k hchecked hroom hrun hin
  · intro hk k hlt hroom hrun
    rw [hk k hlt hroom] at hrun
    cases hrun

theorem registers_step {s s' : BotRunner} {i checked : Nat} {request : StartRequest} {players maxPlayers : Int}
    (hi : s.tasks[i]? = some (.start request (.body checked)))
    (havailable : request.count ≤ s.available request.roomId players maxPlayers)
    (hs : s.step settings (.resume i (.summary players maxPlayers)) = some s') : Registers s s' request.roomId := by
  obtain ⟨task, hi', hs⟩ := Option.bind_eq_some_iff.1 hs
  rw [hi] at hi'
  cases hi'
  have hs : some (if s.available request.roomId players maxPlayers < request.count then _ else _) = some s' := hs
  rw [if_neg (Int.not_lt.2 havailable), Option.some.injEq] at hs
  rw [← hs]
  have hr := registers_register { s with tasks := s.tasks.eraseIdx i } request
  exact ⟨hr.nextJob, hr.newRoom, hr.newRuns, hr.roomId, hr.running⟩

theorem RunningOnce.step {s s' : BotRunner} (h : s.RunningOnce) (htidy : s.Tidy none) {event : RunnerEvent}
    (hs : s.step settings event = some s') : s'.RunningOnce ↔ s.StillAlone event := by
  obtain ⟨-, hq | ⟨i, request, checked, players, maxPlayers, rfl, hi, havailable, hr⟩⟩ := htidy.step hs
  · refine ⟨fun _ => ?_, fun _ => h.quiets hq⟩
    unfold StillAlone
    split
    · split
      · rename_i hi
        intro havailable
        have hr := registers_step hi havailable hs
        have hsame := hr.nextJob.symm.trans hq.nextJob
        exact absurd hsame (Nat.succ_ne_self _)
      · trivial
    · trivial
  · rw [runningOnce_registers h hr, ← htidy.alone_iff hi]
    unfold StillAlone
    dsimp only
    rw [hi]
    exact ⟨fun hk _ => hk, fun hk => hk havailable⟩

/-- No room ever has two running jobs just when no job is registered in a room that has a running job, one that is
younger than the second look or that the table has dropped.  Jobs that were cancelled or cleaned up leave no bots. -/
theorem running_once_iff (stored : String → Option Nat) (events : List RunnerEvent) :
    Throughout (step settings) (fun s => s.RunningOnce ∧ s.Settled) (start stored) events ↔
      EachStep (step settings) StillAlone (start stored) events := by
  have hinit : (start stored).Tidy none ∧ (start stored).RunningOnce :=
    ⟨tidy_start stored, fun j hj => absurd hj (Nat.not_lt_zero j)⟩
  have hQ : ∀ s : BotRunner, s.Tidy none ∧ s.RunningOnce → s.RunningOnce ∧ s.Settled :=
    fun _ h => ⟨h.2, h.1.settled⟩
  have hgood : ∀ s event s', s.Tidy none ∧ s.RunningOnce → StillAlone s event →
      BotRunner.step settings s event = some s' → s'.Tidy none ∧ s'.RunningOnce :=
    fun s event s' h halone hs => ⟨(h.1.step hs).1, (h.2.step h.1 hs).2 halone⟩
  have hbad : ∀ s event s', s.Tidy none ∧ s.RunningOnce → ¬StillAlone s event →
      BotRunner.step settings s event = some s' → ¬(s'.RunningOnce ∧ s'.Settled) :=
    fun s event s' h hnot hs h' => hnot ((h.2.step h.1 hs).1 h'.1)
  exact throughout_iff_eachStep hQ hgood hbad hinit events

namespace Sample

def defaults : RunnerSettings := ⟨0, 5⟩

/-- Two requests for one room pass their second looks before either has the body of its summary. -/
def posts : List RunnerEvent :=
  [.post 1 "room-1" .normal 300, .post 1 "room-1" .normal 300, .resume 0 .done, .resume 0 .done, .resume 0 .done,
    .resume 0 .done, .resume 0 (.summary 0 100), .resume 0 (.summary 0 100)]

end Sample

open Sample in
/-- Both requests register their job, and both jobs run. -/
theorem two_jobs_run :
    ¬Throughout (step defaults) (fun s => s.RunningOnce ∧ s.Settled) (start fun _ => none) posts := by
  intro h
  have hone := h.mono (fun _ hs => hs.1)
  exact absurd hone (by decide +kernel)

end BotRunner

end Opsia
