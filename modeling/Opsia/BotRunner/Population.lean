import Opsia.BotRunner.Exclusivity
import Opsia.BotRunner.Updates

/-!
# The population of a room

In a room that gets no requests for jobs, bots are made by the job of the last target update and by the rounds of
reconciliation.  What keeps them at the target is that a round that still counts has room left for all that it wants
(`Bounded.live`), that no round counts while a job runs, and that a job stops what is above its target.  A job that the
table has dropped is not cancelled with the others, so none may be running when it is dropped.
-/

namespace Opsia

open Machine

namespace BotRunner

variable {settings : RunnerSettings} {room : String}

/-! ### The bots that count -/

def Task.awaits (b : Nat) : Task → Bool
  | .spawn _ _ _ (.connecting b') => decide (b' = b)
  | _ => false

/-- The room's normal bots that no spawn waits for. -/
def present (s : BotRunner) (room : String) : Nat :=
  ((s.activeTargetBots room).filter fun b => !s.tasks.any (Task.awaits b)).length

theorem present_le_count (s : BotRunner) (room : String) : s.present room ≤ s.activeTargetBotCount room :=
  List.length_filter_le _ _

/-- Without spawns all bots count. -/
theorem present_of_settled {s : BotRunner}
    (h : ∀ task ∈ s.tasks, ∀ b, task.awaits b = true → (s.botObject b).roomId ≠ room) :
    s.present room = s.activeTargetBotCount room := by
  refine congrArg List.length (List.filter_eq_self.2 fun b hb => ?_)
  have hroom := (of_decide_eq_true (List.mem_filter.1 hb).2).1
  rw [Bool.not_eq_true', List.any_eq_false]
  intro task ht haw
  exact h task ht b haw hroom

/-- The bot is one of the room's normal bots, and no spawn waits for it. -/
def counts (s : BotRunner) (room : String) (b : Nat) : Bool :=
  !s.tasks.any (Task.awaits b) && decide ((s.botObject b).roomId = room ∧ (s.botObject b).mode = .normal)

theorem present_eq_countP (s : BotRunner) (room : String) : s.present room = s.bots.countP (s.counts room) := by
  unfold present activeTargetBots
  rw [List.filter_filter, ← List.countP_eq_length_filter]
  rfl

theorem counts_mono (s s' : BotRunner) {b : Nat} (hroom : (s'.botObject b).roomId = (s.botObject b).roomId)
    (hmode : (s'.botObject b).mode = (s.botObject b).mode)
    (hawaits : s.tasks.any (Task.awaits b) = true → s'.tasks.any (Task.awaits b) = true)
    (h : s'.counts room b = true) : s.counts room b = true := by
  unfold counts at h ⊢
  rw [Bool.and_eq_true, Bool.not_eq_true', hroom, hmode] at h
  rw [Bool.and_eq_true, Bool.not_eq_true']
  refine ⟨?_, h.2⟩
  rw [Bool.eq_false_iff]
  intro hyes
  have hno := h.1
  rw [hawaits hyes] at hno
  cases hno

/-- Bots are stopped, and spawns begin to wait. -/
theorem present_le {s s' : BotRunner} (hbots : s'.bots.Sublist s.bots)
    (hobject : ∀ b ∈ s'.bots, (s'.botObject b).roomId = (s.botObject b).roomId ∧
      (s'.botObject b).mode = (s.botObject b).mode)
    (hawaits : ∀ b, s.tasks.any (Task.awaits b) = true → s'.tasks.any (Task.awaits b) = true) :
    s'.present room ≤ s.present room := by
  rw [present_eq_countP, present_eq_countP]
  refine Nat.le_trans (List.countP_mono_left fun b hb hcounts => ?_) hbots.countP_le
  exact counts_mono s s' (hobject b hb).1 (hobject b hb).2 (hawaits b) hcounts

theorem length_filter_drop (l : List Nat) (n : Nat) : (l.filter fun b => decide (b ∉ l.drop n)).length ≤ n := by
  have hsplit := congrArg (List.filter fun b => decide (b ∉ l.drop n)) (List.take_append_drop n l).symm
  have hnone : (l.drop n).filter (fun b => decide (b ∉ l.drop n)) = [] :=
    List.filter_eq_nil_iff.2 fun b hb => by
      rw [decide_eq_true_eq, not_not]
      exact hb
  rw [hsplit, List.filter_append, hnone, List.append_nil]
  exact Nat.le_trans (List.length_filter_le _ _) (List.length_take_le n l)

/-- What is above the target is stopped. -/
theorem count_removeTarget (s : BotRunner) (room : String) (target : Nat) :
    (s.removeTargetBotsAboveTarget room target).activeTargetBotCount room ≤ target := by
  have hcount := length_filter_drop (s.activeTargetBots room)
    ((s.activeTargetBots room).length - ((s.activeTargetBots room).length - target))
  have hcomm : (s.removeTargetBotsAboveTarget room target).activeTargetBots room =
      (s.activeTargetBots room).filter fun b => decide (b ∉ (s.activeTargetBots room).drop
        ((s.activeTargetBots room).length - ((s.activeTargetBots room).length - target))) := by
    unfold removeTargetBotsAboveTarget activeTargetBots
    dsimp only
    rw [List.filter_comm]
  unfold activeTargetBotCount
  rw [hcomm]
  omega

/-! ### What tasks rely on -/

/-- The round of a task, and how many bots it still wants. -/
def Task.rounds : Task → Option (Round × Nat)
  | .round r deficit _ => some (r, deficit)
  | .spawn _ _ (.round r requested index) _ => some (r, requested - index)
  | _ => none

def Task.isRoundOf (room : String) (task : Task) : Bool := task.rounds.any fun p => decide (p.1.roomId = room)

/-- A job of the room runs. -/
def Working (s : BotRunner) (room : String) : Prop := ∃ j, s.running j = true ∧ (s.jobObject j).roomId = room

/-- A round that still counts has begun behind the last update, and no job runs. -/
def RoundFair (s : BotRunner) (room : String) (round : Round) : Prop :=
  round.targetRevision ≤ s.roomTargetVersions room ∧
    (∀ revision ∈ s.targetAdjustmentRevisions room, round.targetRevision < revision) ∧
    (round.targetRevision = s.roomTargetVersions room → ¬s.Working room)

/-- A job of the room is being started by the update that has just set the target. -/
def Opening (settings : RunnerSettings) (s : BotRunner) (room : String) (request : StartRequest) : Prop :=
  ∃ update revision, request.update = some (update, revision) ∧
    s.targetAdjustmentRevisions room = some revision ∧ s.roomTargetVersions room = revision ∧
    request.target = some (s.target settings room) ∧ ¬s.Working room

/-- What a task relies on, apart from the number of bots. -/
def TaskFair (settings : RunnerSettings) (s : BotRunner) (room : String) : Task → Prop
  | .start request _ =>
    (∀ p ∈ request.update, p.1.roomId = request.roomId) ∧
      (request.roomId = room → s.Opening settings room request)
  | .spawn roomId _ caller stage =>
    (∀ b, stage = .connecting b → b < s.nextBot ∧ (s.botObject b).roomId = roomId) ∧
      match caller with
      | .job j _ => j < s.nextJob ∧ (s.jobObject j).roomId = roomId
      | .round round requested index =>
        round.roomId = roomId ∧ index < requested ∧ (round.roomId = room → s.RoundFair room round)
  | .queued update => update.roomId = room → update.kind ≠ .delete
  | .storing update revision _ =>
    update.roomId = room → update.kind ≠ .delete ∧ s.targetAdjustmentRevisions room = some revision
  | .round round _ _ => round.roomId = room → s.RoundFair room round
  | _ => True

structure Bounded (settings : RunnerSettings) (s : BotRunner) (room : String) : Prop where
  present : s.present room ≤ s.target settings room
  live : ∀ task ∈ s.tasks, ∀ p ∈ task.rounds, p.1.roomId = room →
    p.1.targetRevision = s.roomTargetVersions room → s.present room + p.2 ≤ s.target settings room
  jobs : ∀ j, s.running j = true → (s.jobObject j).roomId = room →
    j ∈ s.jobs ∧ (s.jobObject j).target = some (s.target settings room)
  version : s.roomTargetVersions room ≤ s.targetAdjustmentRevision
  adjusting : ∀ revision ∈ s.targetAdjustmentRevisions room, revision ≤ s.targetAdjustmentRevision
  tasks : ∀ task ∈ s.tasks, s.TaskFair settings room task
  rounds : s.tasks.countP (Task.isRoundOf room) ≤ 1

/-! ### Steps that leave the room's target alone -/

/-- The room's target and its update are as before, no job or round of the room has begun, and tasks that have been
added are fair. -/
structure Frames (settings : RunnerSettings) (room : String) (s s' : BotRunner) : Prop where
  target : s'.target settings room = s.target settings room
  version : s'.roomTargetVersions room = s.roomTargetVersions room
  adjusting : s'.targetAdjustmentRevisions room = s.targetAdjustmentRevisions room
  counter : s.targetAdjustmentRevision ≤ s'.targetAdjustmentRevision
  nextJob : s.nextJob ≤ s'.nextJob
  nextBot : s.nextBot ≤ s'.nextBot
  jobRoom : ∀ j < s.nextJob, (s'.jobObject j).roomId = (s.jobObject j).roomId
  botRoom : ∀ b < s.nextBot, (s'.botObject b).roomId = (s.botObject b).roomId
  running : ∀ j, s'.running j = true → (s'.jobObject j).roomId = room →
    s.running j = true ∧ (s.jobObject j).roomId = room ∧ (s'.jobObject j).target = (s.jobObject j).target ∧
      (j ∈ s.jobs → j ∈ s'.jobs)
  tasks : ∀ task ∈ s'.tasks, task ∈ s.tasks ∨ s'.TaskFair settings room task
  oldRounds : ∀ task ∈ s'.tasks, ∀ p ∈ task.rounds, p.1.roomId = room → ∃ old ∈ s.tasks, p ∈ old.rounds
  rounds : s'.tasks.countP (Task.isRoundOf room) ≤ s.tasks.countP (Task.isRoundOf room)

theorem Frames.refl (s : BotRunner) : Frames settings room s s where
  target := rfl
  version := rfl
  adjusting := rfl
  counter := Nat.le_refl _
  nextJob := Nat.le_refl _
  nextBot := Nat.le_refl _
  jobRoom := fun _ _ => rfl
  botRoom := fun _ _ => rfl
  running := fun _ hrun hroom => ⟨hrun, hroom, rfl, id⟩
  tasks := fun _ ht => Or.inl ht
  oldRounds := fun task ht _ hp _ => ⟨task, ht, hp⟩
  rounds := Nat.le_refl _

theorem Frames.working {s s' : BotRunner} (hf : Frames settings room s s') (h : s'.Working room) : s.Working room := by
  obtain ⟨j, hrun, hroom⟩ := h
  exact ⟨j, (hf.running j hrun hroom).1, (hf.running j hrun hroom).2.1⟩

theorem Frames.roundFair {s s' : BotRunner} (hf : Frames settings room s s') {round : Round}
    (h : s.RoundFair room round) : s'.RoundFair room round := by
  obtain ⟨hle, hlt, hidle⟩ := h
  unfold RoundFair
  rw [hf.version, hf.adjusting]
  exact ⟨hle, hlt, fun heq hw => hidle heq (hf.working hw)⟩

theorem Frames.taskFair {s s' : BotRunner} (hf : Frames settings room s s') {task : Task}
    (h : s.TaskFair settings room task) : s'.TaskFair settings room task := by
  cases task with
  | start request stage =>
    refine ⟨h.1, fun hroom => ?_⟩
    obtain ⟨update, revision, hupdate, hadjusting, hversion, htarget, hidle⟩ := h.2 hroom
    exact ⟨update, revision, hupdate, hf.adjusting.trans hadjusting, hf.version.trans hversion,
      hf.target.symm ▸ htarget, fun hw => hidle (hf.working hw)⟩
  | spawn roomId mode caller stage =>
    refine ⟨fun b hb => ?_, ?_⟩
    · obtain ⟨hlt, hroom⟩ := h.1 b hb
      exact ⟨Nat.lt_of_lt_of_le hlt hf.nextBot, (hf.botRoom b hlt).trans hroom⟩
    · cases caller with
      | job j index =>
        have hjob : j < s.nextJob ∧ (s.jobObject j).roomId = roomId := h.2
        exact ⟨Nat.lt_of_lt_of_le hjob.1 hf.nextJob, (hf.jobRoom j hjob.1).trans hjob.2⟩
      | round round requested index =>
        have hround : round.roomId = roomId ∧ index < requested ∧ (round.roomId = room → s.RoundFair room round) := h.2
        exact ⟨hround.1, hround.2.1, fun hroom => hf.roundFair (hround.2.2 hroom)⟩
  | sleep j index => trivial
  | declined j => trivial
  | queued update => exact h
  | storing update revision written =>
    intro hroom
    rw [hf.adjusting]
    exact h hroom
  | round round deficit stage => exact fun hroom => hf.roundFair (h hroom)

theorem Frames.trans {s s' s'' : BotRunner} (h : Frames settings room s s') (h' : Frames settings room s' s'') :
    Frames settings room s s'' where
  target := h'.target.trans h.target
  version := h'.version.trans h.version
  adjusting := h'.adjusting.trans h.adjusting
  counter := Nat.le_trans h.counter h'.counter
  nextJob := Nat.le_trans h.nextJob h'.nextJob
  nextBot := Nat.le_trans h.nextBot h'.nextBot
  jobRoom := fun j hj => (h'.jobRoom j (Nat.lt_of_lt_of_le hj h.nextJob)).trans (h.jobRoom j hj)
  botRoom := fun b hb => (h'.botRoom b (Nat.lt_of_lt_of_le hb h.nextBot)).trans (h.botRoom b hb)
  running := fun j hrun hroom => by
    obtain ⟨hrun', hroom', htarget', hin'⟩ := h'.running j hrun hroom
    obtain ⟨hrun'', hroom'', htarget, hin⟩ := h.running j hrun' hroom'
    exact ⟨hrun'', hroom'', htarget'.trans htarget, fun hj => hin' (hin hj)⟩
  tasks := fun task ht => by
    rcases h'.tasks task ht with ht | ht
    · rcases h.tasks task ht with ht | hfair
      · exact Or.inl ht
      · exact Or.inr (h'.taskFair hfair)
    · exact Or.inr ht
  oldRounds := fun task ht p hp hroom => by
    obtain ⟨old', hold', hp'⟩ := h'.oldRounds task ht p hp hroom
    exact h.oldRounds old' hold' p hp' hroom
  rounds := Nat.le_trans h'.rounds h.rounds

theorem TaskFair.roundFair {s : BotRunner} {task : Task} (h : s.TaskFair settings room task) {p : Round × Nat}
    (hp : p ∈ task.rounds) (hroom : p.1.roomId = room) : s.RoundFair room p.1 := by
  cases task with
  | round round deficit stage =>
    cases hp
    exact h hroom
  | spawn roomId mode caller stage =>
    cases caller with
    | job j index => cases hp
    | round round requested index =>
      cases hp
      have hround : round.roomId = roomId ∧ index < requested ∧ (round.roomId = room → s.RoundFair room round) := h.2
      exact hround.2.2 hroom
  | start request stage => cases hp
  | sleep j index => cases hp
  | declined j => cases hp
  | queued update => cases hp
  | storing update revision written => cases hp

theorem isRoundOf_of_rounds {task : Task} {p : Round × Nat} (hp : p ∈ task.rounds) (hroom : p.1.roomId = room) :
    task.isRoundOf room = true := by
  have hp : task.rounds = some p := hp
  rw [Task.isRoundOf, hp, Option.any_some]
  exact decide_eq_true hroom

/-- A framed step keeps the bound if the bots that count have not become more, or may have and no round counts. -/
theorem Bounded.frames {s s' : BotRunner} (h : s.Bounded settings room) (hf : Frames settings room s s')
    (hpresent : s'.present room ≤ s.target settings room)
    (hlive : s'.present room ≤ s.present room ∨ s.Working room ∨ s'.tasks.countP (Task.isRoundOf room) = 0) :
    s'.Bounded settings room where
  present := hf.target.symm ▸ hpresent
  live := fun task ht p hp hroom hversion => by
    rw [hf.version] at hversion
    rw [hf.target]
    obtain ⟨old, hold, hp'⟩ := hf.oldRounds task ht p hp hroom
    rcases hlive with hle | hworking | hnone
    · exact Nat.le_trans (Nat.add_le_add_right hle _) (h.live old hold p hp' hroom hversion)
    · exact absurd hworking (((h.tasks old hold).roundFair hp' hroom).2.2 hversion)
    · exact absurd (isRoundOf_of_rounds hp hroom) (List.countP_eq_zero.1 hnone task ht)
  jobs := fun j hrun hroom => by
    obtain ⟨hrun', hroom', htarget, hin⟩ := hf.running j hrun hroom
    obtain ⟨hj, htarget'⟩ := h.jobs j hrun' hroom'
    rw [htarget, hf.target]
    exact ⟨hin hj, htarget'⟩
  version := by
    rw [hf.version]
    exact Nat.le_trans h.version hf.counter
  adjusting := fun revision hr => by
    rw [hf.adjusting] at hr
    exact Nat.le_trans (h.adjusting revision hr) hf.counter
  tasks := fun task ht => by
    rcases hf.tasks task ht with ht | ht
    · exact hf.taskFair (h.tasks task ht)
    · exact ht
  rounds := Nat.le_trans hf.rounds h.rounds

/-- A framed step behind which no more bots count. -/
structure Calm (settings : RunnerSettings) (room : String) (s s' : BotRunner) : Prop where
  frames : Frames settings room s s'
  present : s'.present room ≤ s.present room

theorem Calm.refl (s : BotRunner) : Calm settings room s s := ⟨Frames.refl s, Nat.le_refl _⟩

theorem Calm.trans {s s' s'' : BotRunner} (h : Calm settings room s s') (h' : Calm settings room s' s'') :
    Calm settings room s s'' := ⟨h.frames.trans h'.frames, Nat.le_trans h'.present h.present⟩

theorem Bounded.calm {s s' : BotRunner} (h : s.Bounded settings room) (hc : Calm settings room s s') :
    s'.Bounded settings room :=
  h.frames hc.frames (Nat.le_trans hc.present h.present) (Or.inl hc.present)

theorem any_awaits_append {tasks : List Task} (task : Task) {b : Nat} (h : tasks.any (Task.awaits b) = true) :
    (tasks ++ [task]).any (Task.awaits b) = true := by
  rw [List.any_append, h, Bool.true_or]

theorem calm_addTask (s : BotRunner) {task : Task} (hround : task.isRoundOf room = false)
    (hfair : s.TaskFair settings room task) : Calm settings room s (s.addTask task) := by
  have hpresent : (s.addTask task).present room ≤ s.present room :=
    present_le (List.Sublist.refl _) (fun _ _ => ⟨rfl, rfl⟩) fun b hb => any_awaits_append task hb
  refine ⟨{ Frames.refl s with
    tasks := fun t ht => ?_
    oldRounds := fun t ht p hp hroom => ?_
    rounds := ?_ }, hpresent⟩
  · rcases List.mem_append.1 ht with ht | ht
    · exact Or.inl ht
    · rw [List.mem_singleton.1 ht]
      exact Or.inr hfair
  · rcases List.mem_append.1 ht with ht | ht
    · exact ⟨t, ht, hp⟩
    · rw [List.mem_singleton.1 ht] at hp
      rw [isRoundOf_of_rounds hp hroom] at hround
      cases hround
  · unfold addTask
    dsimp only
    rw [List.countP_append, List.countP_singleton, hround]
    exact Nat.le_refl _

/-- Jobs have ended or been cancelled, or have listed bots. -/
theorem calm_jobs (s : BotRunner) {jobObject : Nat → Job}
    (h : ∀ j, (jobObject j).roomId = (s.jobObject j).roomId ∧ (jobObject j).target = (s.jobObject j).target ∧
      ((jobObject j).state = .running → (s.jobObject j).state = .running)) :
    Calm settings room s { s with jobObject } := by
  refine ⟨{ Frames.refl s with
    jobRoom := fun j _ => (h j).1
    running := fun j hrun hroom => ?_
    tasks := fun _ ht => Or.inl ht }, Nat.le_refl _⟩
  obtain ⟨hjr, htarget, hstate⟩ := h j
  exact ⟨running_iff.2 (hstate (running_iff.1 hrun)), hjr.symm.trans hroom, htarget, id⟩

theorem calm_bots (s : BotRunner) {bots : List Nat} (h : bots.Sublist s.bots) : Calm settings room s { s with bots } :=
  ⟨{ Frames.refl s with }, present_le h (fun _ _ => ⟨rfl, rfl⟩) fun _ hb => hb⟩

theorem calm_setJob (s : BotRunner) (j : Nat) {f : Job → Job}
    (h : (f (s.jobObject j)).roomId = (s.jobObject j).roomId ∧ (f (s.jobObject j)).target = (s.jobObject j).target ∧
      ((f (s.jobObject j)).state = .running → (s.jobObject j).state = .running)) :
    Calm settings room s (s.setJob j f) := by
  refine calm_jobs s fun k => ?_
  rw [Function.update_apply]
  split
  · rename_i hkj
    rw [hkj]
    exact h
  · exact ⟨rfl, rfl, id⟩

theorem calm_endJob (s : BotRunner) (j : Nat) {state : JobState} (hstate : state ≠ .running) :
    Calm settings room s (s.endJob j state) := by
  unfold endJob
  split
  · exact calm_setJob s j ⟨rfl, rfl, fun h => absurd h hstate⟩
  · exact Calm.refl s

theorem calm_cancel (s : BotRunner) (j : Nat) : Calm settings room s (s.setJob j (Job.cancel s.nextBot)) :=
  calm_setJob s j ⟨rfl, rfl, fun h => absurd h (cancel_state _ _)⟩

theorem calm_cancelRoomJobs (s : BotRunner) (roomId : String) : Calm settings room s (s.cancelRoomJobs roomId) := by
  refine calm_jobs s fun j => ?_
  split
  · exact ⟨rfl, rfl, fun h => absurd h (cancel_state _ _)⟩
  · exact ⟨rfl, rfl, id⟩

theorem calm_stopBot (s : BotRunner) (b : Nat) : Calm settings room s (s.stopBot b) := calm_bots s List.erase_sublist

theorem calm_removeTarget (s : BotRunner) (roomId : String) (target : Nat) :
    Calm settings room s (s.removeTargetBotsAboveTarget roomId target) := calm_bots s List.filter_sublist

theorem calm_cleanupJob (s : BotRunner) (j : Nat) : Calm settings room s (s.cleanupJob j) := by
  have hjob : Calm settings room s (s.setJob j fun job => { job.cancel s.nextBot with cleaned := true }) :=
    calm_setJob s j ⟨rfl, rfl, fun h => absurd h (cancel_state s.nextBot (s.jobObject j))⟩
  exact hjob.trans (calm_bots _ List.filter_sublist)

theorem calm_connectBot (s : BotRunner) (b : Nat) : Calm settings room s (s.connectBot b) := by
  have hobject : ∀ c, ((s.connectBot b).botObject c).roomId = (s.botObject c).roomId ∧
      ((s.connectBot b).botObject c).mode = (s.botObject c).mode := by
    intro c
    unfold connectBot
    dsimp only
    rw [Function.update_apply]
    split
    · rename_i hcb
      rw [hcb]
      exact ⟨rfl, rfl⟩
    · exact ⟨rfl, rfl⟩
  exact ⟨{ Frames.refl s with botRoom := fun c _ => (hobject c).1, tasks := fun _ ht => Or.inl ht },
    present_le (List.Sublist.refl _) (fun c _ => hobject c) fun _ hb => hb⟩

theorem calm_listBot (s : BotRunner) (j b : Nat) : Calm settings room s (s.listBot j b) :=
  calm_setJob s j ⟨rfl, rfl, id⟩

theorem calm_keepTarget (s : BotRunner) (j : Nat) : Calm settings room s (s.keepTarget j) := by
  unfold keepTarget
  split
  · split
    · exact calm_removeTarget s _ _
    · exact Calm.refl s
  · exact Calm.refl s

theorem calm_jobLoop (s : BotRunner) (j index : Nat) : Calm settings room s (s.jobLoop j index) := by
  have hends : Calm settings room s (s.endJob j .completed) := calm_endJob s j (by decide)
  unfold jobLoop
  split
  · split
    · exact Calm.refl s
    · exact hends
  · split
    · exact calm_addTask s rfl trivial
    · exact hends
  · split
    · exact calm_addTask s rfl trivial
    · exact hends

theorem calm_spawnOne {s : BotRunner} {j : Nat} (hj : j < s.nextJob) (index : Nat) :
    Calm settings room s (s.spawnOne j index) := by
  unfold spawnOne
  split
  · split
    · exact calm_addTask s rfl trivial
    · exact calm_addTask s rfl ⟨fun b hb => SpawnStage.noConfusion hb, hj, rfl⟩
  · exact Calm.refl s

theorem calm_spawnOnes {s : BotRunner} {j : Nat} (hj : j < s.nextJob) (indices : List Nat) :
    Calm settings room s (indices.foldl (fun s index => s.spawnOne j index) s) := by
  induction indices generalizing s with
  | nil => exact Calm.refl s
  | cons index indices ih =>
    have hc : Calm settings room s (s.spawnOne j index) := calm_spawnOne hj index
    exact hc.trans (ih (Nat.lt_of_lt_of_le hj hc.frames.nextJob))

theorem calm_spawnFailed (s : BotRunner) (caller : SpawnCaller) : Calm settings room s (s.spawnFailed caller) := by
  cases caller with
  | job j index => exact calm_endJob s j (by decide)
  | round round requested index => exact Calm.refl s

/-- A round of another room goes on. -/
theorem calm_roundLoop (s : BotRunner) {round : Round} {requested index : Nat} (hroom : round.roomId ≠ room) :
    Calm settings room s (s.roundLoop settings round requested index) := by
  unfold roundLoop
  split
  · rename_i hindex
    refine calm_addTask s ?_ ⟨fun b hb => SpawnStage.noConfusion hb, rfl, hindex.1, fun h => absurd h hroom⟩
    exact decide_eq_false hroom
  · split
    · exact calm_removeTarget s _ _
    · exact Calm.refl s

/-! ### Tasks that wait again -/

theorem countP_taken {s : BotRunner} {i : Nat} {task : Task} (hi : s.tasks[i]? = some task) (p : Task → Bool) :
    s.tasks.countP p = (s.tasks.eraseIdx i).countP p + if p task then 1 else 0 := by
  obtain ⟨hlt, rfl⟩ := List.getElem?_eq_some_iff.1 hi
  rw [← (List.getElem_cons_eraseIdx_perm hlt).countP_eq, List.countP_cons]

theorem any_taken {s : BotRunner} {i : Nat} {task : Task} (hi : s.tasks[i]? = some task) (p : Task → Bool) :
    s.tasks.any p = (p task || (s.tasks.eraseIdx i).any p) := by
  obtain ⟨hlt, rfl⟩ := List.getElem?_eq_some_iff.1 hi
  rw [← (List.getElem_cons_eraseIdx_perm hlt).any_eq, List.any_cons]

theorem frames_erase (s : BotRunner) (i : Nat) : Frames settings room s { s with tasks := s.tasks.eraseIdx i } :=
  { Frames.refl s with
    tasks := fun _ ht => Or.inl (List.mem_of_mem_eraseIdx ht)
    oldRounds := fun task ht _ hp _ => ⟨task, List.mem_of_mem_eraseIdx ht, hp⟩
    rounds := (List.eraseIdx_sublist _ _).countP_le }

/-- A task that does not wait for a bot is taken. -/
theorem calm_erase {s : BotRunner} {i : Nat} {task : Task} (hi : s.tasks[i]? = some task)
    (hawaits : ∀ b, task.awaits b = false) : Calm settings room s { s with tasks := s.tasks.eraseIdx i } := by
  refine ⟨frames_erase s i, present_le (List.Sublist.refl _) (fun _ _ => ⟨rfl, rfl⟩) fun b hb => ?_⟩
  rw [any_taken hi, hawaits b, Bool.false_or] at hb
  exact hb

/-- A task waits again, for something else. -/
theorem calm_replace {s : BotRunner} {i : Nat} {task task' : Task} (hi : s.tasks[i]? = some task)
    (hawaits : ∀ b, task.awaits b = false) (hrounds : task'.rounds = task.rounds)
    (hfair : s.TaskFair settings room task') :
    Calm settings room s (addTask { s with tasks := s.tasks.eraseIdx i } task') := by
  refine ⟨{ Frames.refl s with
    tasks := fun t ht => ?_
    oldRounds := fun t ht p hp hroom => ?_
    rounds := ?_ }, ?_⟩
  · rcases List.mem_append.1 ht with ht | ht
    · exact Or.inl (List.mem_of_mem_eraseIdx ht)
    · rw [List.mem_singleton.1 ht]
      exact Or.inr hfair
  · rcases List.mem_append.1 ht with ht | ht
    · exact ⟨t, List.mem_of_mem_eraseIdx ht, hp⟩
    · rw [List.mem_singleton.1 ht, hrounds] at hp
      exact ⟨task, List.mem_of_getElem? hi, hp⟩
  · have hsame : task'.isRoundOf room = task.isRoundOf room := congrArg (Option.any _) hrounds
    refine Nat.le_of_eq ?_
    unfold addTask
    dsimp only
    rw [List.countP_append, List.countP_singleton, countP_taken hi, hsame]
  · refine present_le (List.Sublist.refl _) (fun _ _ => ⟨rfl, rfl⟩) fun b hb => ?_
    rw [any_taken hi, hawaits b, Bool.false_or] at hb
    exact any_awaits_append task' hb

/-- A spawn that has found its match gets its bot, which does not count yet. -/
theorem calm_addBot {s : BotRunner} {i : Nat} {roomId : String} {mode : BotMode} {caller : SpawnCaller}
    (hi : s.tasks[i]? = some (.spawn roomId mode caller .findGame)) (hbots : ∀ b ∈ s.bots, b < s.nextBot)
    (hfair : s.TaskFair settings room (.spawn roomId mode caller .findGame)) :
    Calm settings room s (addBot { s with tasks := s.tasks.eraseIdx i } roomId mode caller) := by
  have hold : ∀ b < s.nextBot,
      (addBot { s with tasks := s.tasks.eraseIdx i } roomId mode caller).botObject b = s.botObject b :=
    fun b hb => Function.update_of_ne (Nat.ne_of_lt hb) ..
  have hnew : ((addBot { s with tasks := s.tasks.eraseIdx i } roomId mode caller).botObject s.nextBot).roomId =
      roomId := by
    unfold addBot
    dsimp only
    rw [Function.update_self]
  have hrounds : (Task.spawn roomId mode caller (.connecting s.nextBot)).rounds =
      (Task.spawn roomId mode caller .findGame).rounds := by
    cases caller with
    | job j index => rfl
    | round round requested index => rfl
  refine ⟨{ Frames.refl s with
    nextBot := Nat.le_succ _
    botRoom := fun b hb => congrArg Bot.roomId (hold b hb)
    tasks := fun t ht => ?_
    oldRounds := fun t ht p hp hroom => ?_
    rounds := ?_ }, ?_⟩
  · rcases List.mem_append.1 ht with ht | ht
    · exact Or.inl (List.mem_of_mem_eraseIdx ht)
    · rw [List.mem_singleton.1 ht]
      refine Or.inr ⟨fun b hb => ?_, hfair.2⟩
      cases hb
      exact ⟨Nat.lt_succ_self _, hnew⟩
  · rcases List.mem_append.1 ht with ht | ht
    · exact ⟨t, List.mem_of_mem_eraseIdx ht, hp⟩
    · rw [List.mem_singleton.1 ht] at hp
      exact ⟨_, List.mem_of_getElem? hi, hrounds ▸ hp⟩
  · have hsame : (Task.spawn roomId mode caller (.connecting s.nextBot)).isRoundOf room =
        (Task.spawn roomId mode caller .findGame).isRoundOf room := congrArg (Option.any _) hrounds
    refine Nat.le_of_eq ?_
    unfold addBot
    dsimp only
    rw [List.countP_append, List.countP_singleton, countP_taken hi, hsame]
  · have hawaits : ∀ b, s.tasks.any (Task.awaits b) = true →
        ((addBot { s with tasks := s.tasks.eraseIdx i } roomId mode caller).tasks.any (Task.awaits b)) = true := by
      intro b hb
      rw [any_taken hi] at hb
      exact any_awaits_append _ hb
    have hself : (addBot { s with tasks := s.tasks.eraseIdx i } roomId mode caller).tasks.any
        (Task.awaits s.nextBot) = true := by
      unfold addBot
      dsimp only
      rw [List.any_append, Bool.or_eq_true]
      exact Or.inr (List.any_eq_true.2 ⟨_, List.mem_singleton_self _, decide_eq_true rfl⟩)
    have hnone : (addBot { s with tasks := s.tasks.eraseIdx i } roomId mode caller).counts room s.nextBot = false := by
      rw [counts, hself]
      rfl
    rw [present_eq_countP, present_eq_countP]
    have hsplit : (addBot { s with tasks := s.tasks.eraseIdx i } roomId mode caller).bots = s.bots ++ [s.nextBot] := rfl
    rw [hsplit, List.countP_append, List.countP_singleton, hnone]
    refine List.countP_mono_left fun b hb hcounts => ?_
    exact counts_mono s _ (congrArg Bot.roomId (hold b (hbots b hb))) (congrArg Bot.mode (hold b (hbots b hb)))
      (hawaits b) hcounts

/-! ### Spawns that settle -/

theorem awaits_connecting {roomId : String} {mode : BotMode} {caller : SpawnCaller} {b c : Nat} (h : c ≠ b) :
    Task.awaits c (.spawn roomId mode caller (.connecting b)) = false := decide_eq_false fun hbc => h hbc.symm

/-- The bot of a spawn that has been taken is stopped. -/
theorem present_stopBot {s : BotRunner} {i b : Nat} {roomId : String} {mode : BotMode} {caller : SpawnCaller}
    (hi : s.tasks[i]? = some (.spawn roomId mode caller (.connecting b))) (hnodup : s.bots.Nodup) :
    (stopBot { s with tasks := s.tasks.eraseIdx i } b).present room ≤ s.present room := by
  rw [present_eq_countP, present_eq_countP]
  refine Nat.le_trans (List.countP_mono_left fun c hc hcounts => ?_) (List.erase_sublist (a := b)).countP_le
  have hne : c ≠ b := fun hcb => by
    rw [hcb] at hc
    exact List.Nodup.not_mem_erase hnodup hc
  have hawaits : s.tasks.any (Task.awaits c) = true → (s.tasks.eraseIdx i).any (Task.awaits c) = true := by
    intro haw
    rw [any_taken hi, awaits_connecting hne, Bool.false_or] at haw
    exact haw
  exact counts_mono s (stopBot { s with tasks := s.tasks.eraseIdx i } b) rfl rfl hawaits hcounts

/-- The bot of a spawn that has been taken counts, if it is one of the room's. -/
theorem present_settle {s : BotRunner} {i b : Nat} {roomId : String} {mode : BotMode} {caller : SpawnCaller}
    (hi : s.tasks[i]? = some (.spawn roomId mode caller (.connecting b))) (hnodup : s.bots.Nodup) :
    present { s with tasks := s.tasks.eraseIdx i } room ≤ s.present room +
      if (s.botObject b).roomId = room then 1 else 0 := by
  have hstop : (stopBot { s with tasks := s.tasks.eraseIdx i } b).present room ≤ s.present room :=
    present_stopBot hi hnodup
  have hperm : present { s with tasks := s.tasks.eraseIdx i } room ≤
      (stopBot { s with tasks := s.tasks.eraseIdx i } b).present room +
        if counts { s with tasks := s.tasks.eraseIdx i } room b then 1 else 0 := by
    rw [present_eq_countP, present_eq_countP]
    by_cases hb : b ∈ s.bots
    · rw [(List.perm_cons_erase hb).countP_eq, List.countP_cons]
      exact Nat.le_refl _
    · have hsame : (stopBot { s with tasks := s.tasks.eraseIdx i } b).bots = s.bots := List.erase_of_not_mem hb
      rw [hsame]
      exact Nat.le_add_right _ _
  have hcounts : (if counts { s with tasks := s.tasks.eraseIdx i } room b then 1 else 0) ≤
      if (s.botObject b).roomId = room then 1 else 0 := by
    split
    · rename_i hyes
      rw [counts, Bool.and_eq_true, decide_eq_true_eq] at hyes
      have hroom : (s.botObject b).roomId = room := hyes.2.1
      exact Nat.le_of_eq (if_pos hroom).symm
    · exact Nat.zero_le _
  omega

/-- A round of the room gets a task. -/
theorem Bounded.addRound {s : BotRunner} {task : Task} (h : s.Bounded settings room)
    (hnone : s.tasks.countP (Task.isRoundOf room) = 0) (hfair : s.TaskFair settings room task)
    (hlive : ∀ p ∈ task.rounds, p.1.targetRevision = s.roomTargetVersions room →
      s.present room + p.2 ≤ s.target settings room) : (s.addTask task).Bounded settings room := by
  have hpresent : (s.addTask task).present room ≤ s.present room :=
    present_le (List.Sublist.refl _) (fun _ _ => ⟨rfl, rfl⟩) fun b hb => any_awaits_append task hb
  refine { h with
    present := Nat.le_trans hpresent h.present
    live := fun t ht p hp hroom hversion => ?_
    tasks := fun t ht => ?_
    rounds := ?_ }
  · refine Nat.le_trans (Nat.add_le_add_right hpresent _) ?_
    rcases List.mem_append.1 ht with ht | ht
    · exact h.live t ht p hp hroom hversion
    · rw [List.mem_singleton.1 ht] at hp
      exact hlive p hp hversion
  · rcases List.mem_append.1 ht with ht | ht
    · exact h.tasks t ht
    · rw [List.mem_singleton.1 ht]
      exact hfair
  · unfold addTask
    dsimp only
    rw [List.countP_append, hnone, Nat.zero_add]
    exact List.countP_le_length

theorem changed_version {s : BotRunner} {round : Round} (h : s.changed settings round = false) :
    round.targetRevision = s.roomTargetVersions round.roomId := by
  unfold changed at h
  rw [Bool.or_eq_false_iff, decide_eq_false_iff_not, not_not] at h
  exact h.2

/-- The room's round goes on, or ends and stops what is above the target. -/
theorem Bounded.roundLoop {s t : BotRunner} (h : s.Bounded settings room) (hf : Frames settings room s t)
    (hnone : t.tasks.countP (Task.isRoundOf room) = 0) {round : Round} {requested index : Nat}
    (hroom : round.roomId = room) (hfair : t.RoundFair room round)
    (hlive : index < requested → round.targetRevision = t.roomTargetVersions room →
      t.present room + (requested - index) ≤ t.target settings room) :
    (t.roundLoop settings round requested index).Bounded settings room := by
  unfold BotRunner.roundLoop
  split
  · rename_i hgo
    have hversion := changed_version hgo.2
    rw [hroom] at hversion
    have hroomLeft := hlive hgo.1 hversion
    have ht : t.Bounded settings room := by
      refine h.frames hf ?_ (Or.inr (Or.inr hnone))
      rw [← hf.target]
      omega
    refine ht.addRound hnone ⟨fun b hb => SpawnStage.noConfusion hb, rfl, hgo.1, fun _ => hfair⟩ fun p hp _ => ?_
    cases hp
    exact hroomLeft
  · split
    · have hc : Calm settings room t (t.removeTargetBotsAboveTarget round.roomId (t.target settings round.roomId)) :=
        calm_removeTarget t _ _
      refine h.frames (hf.trans hc.frames) ?_ (Or.inr (Or.inr hnone))
      rw [← hf.target, hroom]
      exact Nat.le_trans (present_le_count _ _) (count_removeTarget t room _)
    · rename_i hle
      refine h.frames hf ?_ (Or.inr (Or.inr hnone))
      rw [← hf.target, ← hroom]
      exact Nat.le_trans (present_le_count _ _) (Nat.le_of_not_lt hle)

/-- A job of the room has no more bots behind it than its target. -/
theorem count_keepTarget {s : BotRunner} {j target : Nat} (htarget : (s.jobObject j).target = some target) :
    (s.keepTarget j).activeTargetBotCount (s.jobObject j).roomId ≤ target := by
  unfold keepTarget
  rw [htarget]
  dsimp only
  split
  · exact count_removeTarget s _ _
  · rename_i hle
    exact Nat.le_of_not_lt hle

theorem Bounded.jobSpawned {s t : BotRunner} (h : s.Bounded settings room) (hf : Frames settings room s t) {j b : Nat}
    (hstop : (t.stopBot b).present room ≤ s.present room)
    (hother : (t.jobObject j).roomId ≠ room → t.present room ≤ s.present room) (index : Nat) :
    (t.jobSpawned j index b).Bounded settings room := by
  unfold BotRunner.jobSpawned
  split
  · rename_i hrun
    have hlist : Calm settings room t (t.listBot j b) := calm_listBot t j b
    have hkeep : Calm settings room t ((t.listBot j b).keepTarget j) := hlist.trans (calm_keepTarget _ j)
    have hloop : Calm settings room ((t.listBot j b).keepTarget j) (((t.listBot j b).keepTarget j).jobLoop j index) :=
      calm_jobLoop _ j index
    refine Bounded.calm ?_ hloop
    by_cases hroom : (t.jobObject j).roomId = room
    · obtain ⟨hrun', hroom', htarget, -⟩ := hf.running j hrun hroom
      have hjob : (t.jobObject j).target = some (s.target settings room) := htarget.trans (h.jobs j hrun' hroom').2
      refine h.frames (hf.trans hkeep.frames) ?_ (Or.inr (Or.inl ⟨j, hrun', hroom'⟩))
      refine Nat.le_trans (present_le_count _ _) ?_
      have hobject : ((t.listBot j b).jobObject j).target = (t.jobObject j).target ∧
          ((t.listBot j b).jobObject j).roomId = (t.jobObject j).roomId := by
        unfold BotRunner.listBot
        rw [jobObject_setJob, if_pos rfl]
        exact ⟨rfl, rfl⟩
      have hcount := count_keepTarget (hobject.1.trans hjob)
      rw [hobject.2, hroom] at hcount
      exact hcount
    · have hle := Nat.le_trans hkeep.present (hother hroom)
      exact h.frames (hf.trans hkeep.frames) (Nat.le_trans hle h.present) (Or.inl hle)
  · have hc : Calm settings room t (t.stopBot b) := calm_stopBot t b
    exact h.frames (hf.trans hc.frames) (Nat.le_trans hstop h.present) (Or.inl hstop)

/-- The room's round has been taken, and there is no other. -/
theorem Bounded.noRound {s : BotRunner} (h : s.Bounded settings room) {i : Nat} {task : Task}
    (hi : s.tasks[i]? = some task) {p : Round × Nat} (hp : p ∈ task.rounds) (hroom : p.1.roomId = room) :
    (s.tasks.eraseIdx i).countP (Task.isRoundOf room) = 0 := by
  have hcount := h.rounds
  rw [countP_taken hi, if_pos (isRoundOf_of_rounds hp hroom)] at hcount
  omega

theorem Bounded.connected {s s' : BotRunner} (h : s.Bounded settings room) (hnodup : s.bots.Nodup) {i b : Nat}
    {roomId : String} {mode : BotMode} {caller : SpawnCaller}
    (hi : s.tasks[i]? = some (.spawn roomId mode caller (.connecting b)))
    (hs : resumeSpawn settings { s with tasks := s.tasks.eraseIdx i } roomId mode caller (.connecting b) .done =
      some s') : s'.Bounded settings room := by
  have hfair := h.tasks _ (List.mem_of_getElem? hi)
  have hbot := (hfair.1 b rfl).2
  have hconnect : Calm settings room { s with tasks := s.tasks.eraseIdx i }
      (connectBot { s with tasks := s.tasks.eraseIdx i } b) := calm_connectBot _ b
  have hf := (frames_erase s i).trans hconnect.frames
  have hpresent := Nat.le_trans hconnect.present (present_settle hi hnodup)
  have hother : roomId ≠ room →
      (connectBot { s with tasks := s.tasks.eraseIdx i } b).present room ≤ s.present room := by
    intro hne
    rw [hbot, if_neg hne] at hpresent
    exact hpresent
  unfold BotRunner.resumeSpawn at hs
  dsimp only at hs
  split at hs
  · cases caller with
    | job j index =>
      have hjob : j < s.nextJob ∧ (s.jobObject j).roomId = roomId := hfair.2
      cases hs
      have hconnectStop : Calm settings room (stopBot { s with tasks := s.tasks.eraseIdx i } b)
          (connectBot (stopBot { s with tasks := s.tasks.eraseIdx i } b) b) := calm_connectBot _ b
      have hstop := Nat.le_trans hconnectStop.present (present_stopBot hi hnodup)
      exact h.jobSpawned hf hstop (fun hne => hother (hjob.2 ▸ hne)) index
    | round round requested index =>
      have hround : round.roomId = roomId ∧ index < requested ∧ (round.roomId = room → s.RoundFair room round) :=
        hfair.2
      cases hs
      by_cases hroom : round.roomId = room
      · have hnone := h.noRound hi (p := (round, requested - index)) rfl hroom
        refine h.roundLoop hf hnone hroom (hf.roundFair (hround.2.2 hroom)) fun hindex hversion => ?_
        have hlive := h.live _ (List.mem_of_getElem? hi) (round, requested - index) rfl hroom (hf.version ▸ hversion)
        have hlt := hround.2.1
        have hone : (if (s.botObject b).roomId = room then 1 else 0) ≤ 1 := by
          split <;> omega
        rw [hf.target]
        dsimp only at hlive
        omega
      · have hc : Calm settings room s (connectBot { s with tasks := s.tasks.eraseIdx i } b) :=
          ⟨hf, hother (hround.1 ▸ hroom)⟩
        exact h.calm (hc.trans (calm_roundLoop _ hroom))
  · cases hs

theorem Bounded.resumeSpawn {s s' : BotRunner} (h : s.Bounded settings room) (ht : s.Tidy none) {i : Nat}
    {roomId : String} {mode : BotMode} {caller : SpawnCaller} {stage : SpawnStage} {answer : Answer}
    (hi : s.tasks[i]? = some (.spawn roomId mode caller stage))
    (hs : BotRunner.resumeSpawn settings { s with tasks := s.tasks.eraseIdx i } roomId mode caller stage answer =
      some s') : s'.Bounded settings room := by
  have hfair := h.tasks _ (List.mem_of_getElem? hi)
  have hs' := hs
  unfold BotRunner.resumeSpawn at hs
  split at hs
  · cases hs
    refine h.calm (calm_replace hi (fun b => rfl) ?_ ⟨fun b hb => SpawnStage.noConfusion hb, hfair.2⟩)
    cases caller with
    | job j index => rfl
    | round round requested index => rfl
  · cases hs
    exact h.calm (calm_addBot hi ht.bots hfair)
  · exact h.connected ht.nodup hi hs'
  · rename_i b
    cases hs
    have hstop : Calm settings room s (stopBot { s with tasks := s.tasks.eraseIdx i } b) :=
      ⟨(frames_erase s i).trans (calm_stopBot _ b).frames, present_stopBot hi ht.nodup⟩
    exact h.calm (hstop.trans (calm_spawnFailed _ caller))
  · rename_i hno
    cases hs
    have hawaits : ∀ b, Task.awaits b (.spawn roomId mode caller stage) = false := by
      intro b
      cases stage with
      | rooms => rfl
      | findGame => rfl
      | connecting b' => exact absurd rfl (hno b')
    exact h.calm ((calm_erase hi hawaits).trans (calm_spawnFailed _ caller))
  · cases hs

/-! ### Rounds -/

theorem Bounded.resumeRound {s s' : BotRunner} (h : s.Bounded settings room) {i : Nat} {round : Round} {deficit : Nat}
    {stage : RoundStage} {answer : Answer} (hi : s.tasks[i]? = some (.round round deficit stage))
    (hs : BotRunner.resumeRound settings { s with tasks := s.tasks.eraseIdx i } round deficit stage answer =
      some s') : s'.Bounded settings room := by
  have hfair := h.tasks _ (List.mem_of_getElem? hi)
  have herase : Calm settings room s { s with tasks := s.tasks.eraseIdx i } := calm_erase hi fun b => rfl
  unfold BotRunner.resumeRound at hs
  split at hs
  · cases hs
    exact h.calm (calm_replace hi (fun b => rfl) rfl hfair)
  · dsimp only at hs
    rw [Option.some.injEq] at hs
    rw [← hs]
    split
    · exact h.calm herase
    · by_cases hroom : round.roomId = room
      · have hnone := h.noRound hi (p := (round, deficit)) rfl hroom
        refine h.roundLoop herase.frames hnone hroom (herase.frames.roundFair (hfair hroom)) fun _ hversion => ?_
        have hlive := h.live _ (List.mem_of_getElem? hi) (round, deficit) rfl hroom hversion
        have hpresent := herase.present
        rw [herase.frames.target]
        dsimp only at hlive
        omega
      · exact h.calm (herase.trans (calm_roundLoop _ hroom))
  · cases hs
    exact h.calm herase
  · cases hs

theorem Bounded.notWorking {s : BotRunner} (h : s.Bounded settings room) (hnone : s.runningRoomJob room = none) :
    ¬s.Working room := by
  rintro ⟨j, hrun, hroom⟩
  have hgone := not_running_of_none (by rw [hnone]; rfl) j hroom hrun
  exact hgone (h.jobs j hrun hroom).1

/-- A round of reconciliation begins in rooms that have none. -/
theorem Bounded.beginRounds {s : BotRunner} (h : s.Bounded settings room) (ready : String → Bool) {rooms : List String}
    (hnodup : rooms.Nodup) (hnone : room ∈ rooms → s.tasks.countP (Task.isRoundOf room) = 0) :
    (rooms.foldl (beginRound settings ready) s).Bounded settings room := by
  induction rooms generalizing s with
  | nil => exact h
  | cons roomId rooms ih =>
    rw [List.nodup_cons] at hnodup
    by_cases hroom : roomId = room
    · subst hroom
      have hfree := hnone List.mem_cons_self
      have hlater : roomId ∈ rooms → (beginRound settings ready s roomId).tasks.countP (Task.isRoundOf roomId) = 0 :=
        fun hin => absurd hin hnodup.1
      refine ih ?_ hnodup.2 hlater
      unfold beginRound
      dsimp only
      split
      · rename_i hbegin
        have hidle := h.notWorking hbegin.2.2.1
        have hpresent := present_le_count s roomId
        refine h.addRound hfree (fun _ => ⟨Nat.le_refl _, fun revision hr => ?_, fun _ => hidle⟩) fun p hp _ => ?_
        · rw [hbegin.2.1] at hr
          cases hr
        · cases hp
          dsimp only
          omega
      · exact h
    · have hc : Calm settings room s (beginRound settings ready s roomId) := by
        unfold beginRound
        dsimp only
        split
        · exact calm_addTask s (decide_eq_false hroom) fun h => absurd h hroom
        · exact Calm.refl s
      refine ih (h.calm hc) hnodup.2 fun hin => ?_
      have hzero := hnone (List.mem_cons_of_mem _ hin)
      have hle := hc.frames.rounds
      omega

/-! ### Updates of other rooms -/

theorem calm_finishUpdate (s : BotRunner) {update : Update} (hne : update.roomId ≠ room) (revision : Nat) :
    Calm settings room s (s.finishUpdate update revision) := by
  have hadjusting : (s.finishUpdate update revision).targetAdjustmentRevisions room =
      s.targetAdjustmentRevisions room := by
    unfold finishUpdate
    dsimp only
    split
    · exact Function.update_of_ne hne.symm ..
    · rfl
  exact ⟨{ Frames.refl s with adjusting := hadjusting, tasks := fun _ ht => Or.inl ht }, Nat.le_refl _⟩

theorem calm_setTarget (s : BotRunner) {roomId : String} (hne : roomId ≠ room) (target : Option Nat) (revision : Nat) :
    Calm settings room s (s.setTarget roomId target revision) := by
  have htarget : (s.setTarget roomId target revision).target settings room = s.target settings room := by
    unfold BotRunner.target setTarget
    dsimp only
    rw [Function.update_of_ne hne.symm]
  exact ⟨{ (Frames.refl s : Frames settings room s s) with
    target := htarget
    version := Function.update_of_ne hne.symm ..
    tasks := fun _ ht => Or.inl ht }, Nat.le_refl _⟩

theorem calm_stored (s : BotRunner) {update : Update} (hne : update.roomId ≠ room) (revision : Nat) :
    Calm settings room s (s.stored update revision) := by
  have hset : ∀ target : Option Nat,
      Calm settings room s ((s.setTarget update.roomId target revision).cancelRoomJobs update.roomId) :=
    fun target => (calm_setTarget s hne target revision).trans (calm_cancelRoomJobs _ _)
  unfold stored
  split
  · exact (hset none).trans (calm_finishUpdate _ hne revision)
  · rename_i target intervalMs _
    dsimp only
    split
    · exact ((hset _).trans (calm_removeTarget _ _ _)).trans (calm_finishUpdate _ hne revision)
    · split
      · refine (hset _).trans (calm_addTask _ rfl ⟨fun p hp => ?_, fun h => absurd h hne⟩)
        cases hp
        rfl
      · exact (hset _).trans (calm_finishUpdate _ hne revision)

theorem calm_enqueue (s : BotRunner) {roomId : String} {kind : UpdateKind} (hkind : roomId = room → kind ≠ .delete) :
    Calm settings room s (s.enqueue roomId kind) := by
  have hadd : Calm settings room s
      (s.addTask (.queued ⟨s.nextUpdate, roomId, kind, s.targetUpdateQueues roomId⟩)) := calm_addTask s rfl hkind
  refine hadd.trans ⟨{ Frames.refl _ with tasks := fun _ ht => Or.inl ht }, Nat.le_refl _⟩

theorem calm_beginUpdate (s : BotRunner) {update : Update} (hne : update.roomId ≠ room) :
    Calm settings room s (s.beginUpdate update) := by
  have hadd : Calm settings room s (s.addTask (.storing update (s.targetAdjustmentRevision + 1) false)) :=
    calm_addTask s rfl fun h => absurd h hne
  refine hadd.trans ⟨{ Frames.refl _ with
    adjusting := Function.update_of_ne hne.symm ..
    counter := Nat.le_succ _
    tasks := fun _ ht => Or.inl ht }, Nat.le_refl _⟩

/-- The store takes the write of an update. -/
theorem calm_writeTarget {s : BotRunner} {i : Nat} {update : Update} {revision : Nat}
    (hi : s.tasks[i]? = some (.storing update revision false))
    (hfair : s.TaskFair settings room (.storing update revision false)) :
    Calm settings room s (writeTarget { s with tasks := s.tasks.eraseIdx i } update revision) := by
  have hadd : Calm settings room s (addTask { s with tasks := s.tasks.eraseIdx i } (.storing update revision true)) :=
    calm_replace hi (fun _ => rfl) rfl hfair
  exact hadd.trans ⟨{ Frames.refl _ with tasks := fun _ ht => Or.inl ht }, Nat.le_refl _⟩

/-- A job of another room is registered, and no running job of the room is dropped. -/
theorem calm_withJob (s : BotRunner) {request : StartRequest} (hne : request.roomId ≠ room)
    (hkeeps : ∀ j ∈ s.jobs.take (s.jobs.length + 1 - 100), (s.jobObject j).roomId = room → s.running j = false) :
    Calm settings room s (s.withJob request) := by
  have hobject := jobObject_withJob s request
  have hold : ∀ j < s.nextJob, (s.withJob request).jobObject j = s.jobObject j := by
    intro j hj
    rw [hobject, if_neg (Nat.ne_of_lt hj)]
  refine ⟨{ Frames.refl s with
    nextJob := Nat.le_succ _
    jobRoom := fun j hj => congrArg Job.roomId (hold j hj)
    running := fun j hrun hroom => ?_
    tasks := fun _ ht => Or.inl ht }, Nat.le_refl _⟩
  have hjob : (s.withJob request).jobObject j = s.jobObject j := by
    rw [hobject]
    split
    · rename_i hj
      rw [hobject, if_pos hj] at hroom
      exact absurd hroom hne
    · rfl
  have hrun' : s.running j = true := by
    rw [running_iff, hjob] at hrun
    exact running_iff.2 hrun
  rw [hjob] at hroom
  refine ⟨hrun', hroom, congrArg Job.target hjob, fun hin => ?_⟩
  unfold withJob evict
  dsimp only
  rw [List.length_append, List.length_singleton]
  have hdropped : j ∉ s.jobs.take (s.jobs.length + 1 - 100) := by
    intro hin
    rw [hkeeps j hin hroom] at hrun'
    cases hrun'
  rw [← List.take_append_drop (s.jobs.length + 1 - 100) s.jobs] at hin
  rw [List.drop_append]
  exact List.mem_append_left _ ((List.mem_append.1 hin).resolve_left hdropped)

/-! ### Updates of the room -/

/-- No other update of the room has begun. -/
def Others (s : BotRunner) (room : String) : Prop :=
  ∀ task ∈ s.tasks, ∀ update ∈ task.update, update.roomId = room → task.begun = false

theorem Others.untouched {s s' : BotRunner} (h : s.Others room) (hu : Untouched s s') : s'.Others room := by
  intro task ht update hupdate hroom
  have hsome : task.update.isSome = true := by
    rw [show task.update = some update from hupdate]
    rfl
  have hin : task ∈ s'.tasks.filter fun task => task.update.isSome := List.mem_filter.2 ⟨ht, hsome⟩
  rw [hu.updates] at hin
  exact h task (List.mem_of_mem_filter hin) update hupdate hroom

/-- What is fair stays so when the room's own update goes on. -/
theorem TaskFair.changed {s s' : BotRunner} {task : Task} (h : s.TaskFair settings room task)
    (hothers : ∀ update ∈ task.update, update.roomId = room → task.begun = false) (hnextJob : s.nextJob ≤ s'.nextJob)
    (hnextBot : s'.nextBot = s.nextBot) (hjob : ∀ j < s.nextJob, (s'.jobObject j).roomId = (s.jobObject j).roomId)
    (hbot : s'.botObject = s.botObject) (hround : ∀ round, s.RoundFair room round → s'.RoundFair room round) :
    s'.TaskFair settings room task := by
  cases task with
  | start request stage =>
    refine ⟨h.1, fun hroom => ?_⟩
    obtain ⟨update, revision, hupdate, -⟩ := h.2 hroom
    have hp : (update, revision) ∈ request.update := hupdate
    have hin : update ∈ (Task.start request stage).update := by
      rw [Task.update, hupdate]
      rfl
    have hbegun := hothers update hin ((h.1 _ hp).trans hroom)
    cases hbegun
  | spawn roomId mode caller stage =>
    refine ⟨fun b hb => ?_, ?_⟩
    · rw [hnextBot, hbot]
      exact h.1 b hb
    · cases caller with
      | job j index =>
        have hj : j < s.nextJob ∧ (s.jobObject j).roomId = roomId := h.2
        exact ⟨Nat.lt_of_lt_of_le hj.1 hnextJob, (hjob j hj.1).trans hj.2⟩
      | round round requested index =>
        have hfair : round.roomId = roomId ∧ index < requested ∧ (round.roomId = room → s.RoundFair room round) := h.2
        exact ⟨hfair.1, hfair.2.1, fun hroom => hround round (hfair.2.2 hroom)⟩
  | sleep j index => trivial
  | declined j => trivial
  | queued update => exact h
  | storing update revision written =>
    intro hroom
    have hbegun := hothers update rfl hroom
    cases hbegun
  | round round deficit stage => exact fun hroom => hround round (h hroom)

theorem Bounded.finishUpdate {s : BotRunner} (h : s.Bounded settings room) (hothers : s.Others room) {update : Update}
    (hroom : update.roomId = room) (revision : Nat) : (s.finishUpdate update revision).Bounded settings room := by
  have hadjusting : ∀ r ∈ (s.finishUpdate update revision).targetAdjustmentRevisions room,
      r ∈ s.targetAdjustmentRevisions room := by
    intro r hr
    unfold BotRunner.finishUpdate at hr
    dsimp only at hr
    split at hr
    · rw [hroom, Function.update_self] at hr
      cases hr
    · exact hr
  refine { h with adjusting := fun r hr => h.adjusting r (hadjusting r hr), tasks := fun task ht => ?_ }
  exact (h.tasks task ht).changed (hothers task ht) (Nat.le_refl _) rfl (fun _ _ => rfl) rfl
    fun round hfair => ⟨hfair.1, fun r hr => hfair.2.1 r (hadjusting r hr), hfair.2.2⟩

theorem Bounded.beginUpdate {s : BotRunner} (h : s.Bounded settings room) (hothers : s.Others room) {update : Update}
    (hroom : update.roomId = room) (hkind : update.kind ≠ .delete) : (s.beginUpdate update).Bounded settings room := by
  have hadjusting : (s.beginUpdate update).targetAdjustmentRevisions room = some (s.targetAdjustmentRevision + 1) := by
    unfold BotRunner.beginUpdate
    dsimp only
    rw [hroom, Function.update_self]
  have hversion := h.version
  have hpresent : (s.beginUpdate update).present room ≤ s.present room :=
    present_le (List.Sublist.refl _) (fun _ _ => ⟨rfl, rfl⟩) fun b hb => any_awaits_append _ hb
  refine { h with
    present := Nat.le_trans hpresent h.present
    live := fun task ht p hp hroom' hv => ?_
    version := Nat.le_succ_of_le hversion
    adjusting := fun r hr => ?_
    tasks := fun task ht => ?_
    rounds := ?_ }
  · refine Nat.le_trans (Nat.add_le_add_right hpresent _) ?_
    rcases List.mem_append.1 ht with ht | ht
    · exact h.live task ht p hp hroom' hv
    · rw [List.mem_singleton.1 ht] at hp
      cases hp
  · rw [hadjusting] at hr
    cases hr
    exact Nat.le_refl _
  · rcases List.mem_append.1 ht with ht | ht
    · refine (h.tasks task ht).changed (hothers task ht) (Nat.le_refl _) rfl (fun _ _ => rfl) rfl fun round hfair => ?_
      refine ⟨hfair.1, fun r hr => ?_, hfair.2.2⟩
      rw [hadjusting] at hr
      cases hr
      exact Nat.lt_succ_of_le (Nat.le_trans hfair.1 hversion)
    · rw [List.mem_singleton.1 ht]
      exact fun _ => ⟨hkind, hadjusting⟩
  · unfold BotRunner.beginUpdate
    dsimp only
    rw [List.countP_append]
    exact h.rounds

/-- The room gets a new target: its jobs are cancelled and no round counts any more. -/
theorem Bounded.setTarget {s : BotRunner} (h : s.Bounded settings room) (hothers : s.Others room)
    {target revision : Nat}
    (hadjusting : s.targetAdjustmentRevisions room = some revision) (hpresent : s.present room ≤ target) :
    ((s.setTarget room (some target) revision).cancelRoomJobs room).Bounded settings room ∧
      ¬((s.setTarget room (some target) revision).cancelRoomJobs room).Working room := by
  have hobject : ∀ j, ((s.setTarget room (some target) revision).cancelRoomJobs room).jobObject j = s.jobObject j ∨
      ((s.setTarget room (some target) revision).cancelRoomJobs room).jobObject j =
        (s.jobObject j).cancel s.nextBot := by
    intro j
    unfold BotRunner.cancelRoomJobs
    dsimp only
    split
    · exact Or.inr rfl
    · exact Or.inl rfl
  have hjobRoom : ∀ j, (((s.setTarget room (some target) revision).cancelRoomJobs room).jobObject j).roomId =
      (s.jobObject j).roomId := by
    intro j
    rcases hobject j with hj | hj
    · rw [hj]
    · rw [hj]
      rfl
  have hidle : ¬((s.setTarget room (some target) revision).cancelRoomJobs room).Working room := by
    rintro ⟨j, hrun, hroom⟩
    rw [hjobRoom] at hroom
    rw [running_iff] at hrun
    have hrunning : s.running j = true := by
      rcases hobject j with hj | hj
      · rw [hj] at hrun
        exact running_iff.2 hrun
      · rw [hj] at hrun
        exact absurd hrun (cancel_state _ _)
    have hcancel : ((s.setTarget room (some target) revision).cancelRoomJobs room).jobObject j =
        (s.jobObject j).cancel s.nextBot := if_pos ⟨(h.jobs j hrunning hroom).1, hroom, hrunning⟩
    rw [hcancel] at hrun
    exact cancel_state _ _ hrun
  have htarget : ((s.setTarget room (some target) revision).cancelRoomJobs room).target settings room = target := by
    unfold BotRunner.target BotRunner.cancelRoomJobs BotRunner.setTarget
    dsimp only
    rw [Function.update_self, Option.getD_some]
  have hnewVersion : ((s.setTarget room (some target) revision).cancelRoomJobs room).roomTargetVersions room =
      revision := Function.update_self ..
  have hcounter := h.adjusting revision hadjusting
  refine ⟨?_, hidle⟩
  refine
    { present := ?_
      live := fun task ht p hp hroom hv => ?_
      jobs := fun j hrun hroom => absurd ⟨j, hrun, hroom⟩ hidle
      version := Nat.le_trans (Nat.le_of_eq hnewVersion) hcounter
      adjusting := h.adjusting
      tasks := fun task ht => ?_
      rounds := h.rounds }
  · rw [htarget]
    exact hpresent
  · have hlt := ((h.tasks task ht).roundFair hp hroom).2.1 revision hadjusting
    rw [hnewVersion] at hv
    exact absurd hv (Nat.ne_of_lt hlt)
  · refine (h.tasks task ht).changed (hothers task ht) (Nat.le_refl _) rfl (fun j _ => hjobRoom j) rfl
      fun round hfair => ⟨?_, hfair.2.1, fun _ => hidle⟩
    rw [hnewVersion]
    exact Nat.le_of_lt (hfair.2.1 revision hadjusting)

theorem Bounded.stored {s : BotRunner} (h : s.Bounded settings room) (hothers : s.Others room) {update : Update}
    {revision : Nat} (hroom : update.roomId = room) (hkind : update.kind ≠ .delete)
    (hadjusting : s.targetAdjustmentRevisions room = some revision) :
    (s.stored update revision).Bounded settings room := by
  unfold BotRunner.stored
  split
  · rename_i hdelete
    exact absurd hdelete hkind
  · rename_i target intervalMs _
    rw [hroom]
    dsimp only
    split
    · have hremove : Calm settings room s (s.removeTargetBotsAboveTarget room target) := calm_removeTarget s _ _
      have hbounded := (h.calm hremove).setTarget hothers hadjusting
        (Nat.le_trans (present_le_count _ _) (count_removeTarget s room target))
      exact hbounded.1.finishUpdate hothers hroom revision
    · rename_i hle
      have hcount : s.activeTargetBotCount room ≤ target := Nat.le_of_not_lt hle
      have hbounded := h.setTarget hothers hadjusting (Nat.le_trans (present_le_count _ _) hcount)
      split
      · refine hbounded.1.calm (calm_addTask _ rfl ⟨fun p hp => ?_, fun _ => ?_⟩)
        · cases hp
          exact hroom
        · refine ⟨update, revision, rfl, hadjusting, Function.update_self .., ?_, hbounded.2⟩
          unfold BotRunner.target BotRunner.cancelRoomJobs BotRunner.setTarget
          dsimp only
          rw [Function.update_self, Option.getD_some]
      · exact hbounded.1.finishUpdate hothers hroom revision

/-- The job of the room's update is registered. -/
theorem Bounded.withJob {s : BotRunner} (h : s.Bounded settings room) (hothers : s.Others room)
    {request : StartRequest} (hopening : s.Opening settings room request) :
    (s.withJob request).Bounded settings room := by
  obtain ⟨update, revision, -, hadjusting, hversion, htarget, hidle⟩ := hopening
  have hobject := jobObject_withJob s request
  have hstale : ∀ round, s.RoundFair room round → round.targetRevision ≠ s.roomTargetVersions room := by
    intro round hfair
    have hlt := hfair.2.1 revision hadjusting
    omega
  refine { h with
    live := fun task ht p hp hroom' hv => ?_
    jobs := fun j hrun hroom' => ?_
    tasks := fun task ht => ?_ }
  · exact absurd hv (hstale p.1 ((h.tasks task ht).roundFair hp hroom'))
  · rw [running_iff, hobject] at hrun
    rw [hobject] at hroom'
    rw [hobject]
    split at hrun
    · rename_i hj
      rw [if_pos hj, hj]
      refine ⟨?_, htarget⟩
      unfold BotRunner.withJob evict
      dsimp only
      rw [List.length_append, List.length_singleton, List.drop_append]
      refine List.mem_append_right _ ?_
      have hzero : s.jobs.length + 1 - 100 - s.jobs.length = 0 := by omega
      rw [hzero]
      exact List.mem_singleton_self _
    · rename_i hj
      rw [if_neg hj] at hroom'
      exact absurd ⟨j, running_iff.2 hrun, hroom'⟩ hidle
  · refine (h.tasks task ht).changed (hothers task ht) (Nat.le_succ _) rfl (fun j hj => ?_) rfl fun round hfair => ?_
    · rw [hobject, if_neg (Nat.ne_of_lt hj)]
    · exact ⟨hfair.1, hfair.2.1, fun hv => absurd hv (hstale round hfair)⟩

theorem calm_register (s : BotRunner) (request : StartRequest) :
    Calm settings room (s.withJob request) (s.register request) := by
  have hlt : s.nextJob < (s.withJob request).nextJob := Nat.lt_succ_self _
  unfold register
  split
  · exact calm_spawnOnes hlt _
  · exact calm_spawnOne hlt 0
  · exact calm_spawnOne hlt 0

/-! ### Steps -/

/-- No running job of the room is dropped from the table. -/
def KeepsRunning (room : String) (s : BotRunner) : RunnerEvent → Prop
  | .resume i (.summary players maxPlayers) =>
    match s.tasks[i]? with
    | some (.start request (.body _)) =>
      request.count ≤ s.available request.roomId players maxPlayers →
        ∀ j ∈ s.jobs.take (s.jobs.length + 1 - 100), (s.jobObject j).roomId = room → s.running j = false
    | _ => True
  | _ => True

/-- Not a request for jobs in the room, and not one to forget its target. -/
def RunnerEvent.spares (room : String) : RunnerEvent → Prop
  | .post _ roomId _ _ => roomId ≠ room
  | .delete roomId => roomId ≠ room
  | _ => True

theorem others_taken {s s' : BotRunner} (hc : s.Coherent none) {i : Nat} {answer : Answer}
    (hs : s.step settings (.resume i answer) = some s') {task : Task} (hi : s.tasks[i]? = some task) {update : Update}
    (hupdate : update ∈ task.update) (hroom : update.roomId = room) :
    Others { s with tasks := s.tasks.eraseIdx i } room := by
  intro other hother update' hupdate' hroom'
  exact (hc.oldestFirst hs task hi update hupdate other hother update' hupdate' (hroom'.trans hroom.symm)).2

theorem Bounded.startEnds {s : BotRunner} (h : s.Bounded settings room) {request : StartRequest}
    (hrequest : ∀ p ∈ request.update, p.1.roomId = request.roomId)
    (hothers : request.roomId = room → s.Others room) : (s.startEnds request).Bounded settings room := by
  unfold BotRunner.startEnds
  split
  · rename_i update revision hupdate
    have hroom : update.roomId = request.roomId := hrequest (update, revision) hupdate
    by_cases hr : update.roomId = room
    · exact h.finishUpdate (hothers (hroom.symm.trans hr)) hr revision
    · exact h.calm (calm_finishUpdate s hr revision)
  · exact h

theorem Bounded.resumeStart {s s' : BotRunner} (h : s.Bounded settings room) {i : Nat} {request : StartRequest}
    {stage : StartStage} {answer : Answer} (hi : s.tasks[i]? = some (.start request stage))
    (hothers : request.roomId = room → Others { s with tasks := s.tasks.eraseIdx i } room)
    (hkeeps : KeepsRunning room s (.resume i answer))
    (hs : BotRunner.resumeStart { s with tasks := s.tasks.eraseIdx i } request stage answer = some s') :
    s'.Bounded settings room := by
  have hfair : s.TaskFair settings room (.start request stage) := h.tasks _ (List.mem_of_getElem? hi)
  have herase : Calm settings room s { s with tasks := s.tasks.eraseIdx i } := calm_erase hi fun b => rfl
  have htaken := h.calm herase
  have hends := htaken.startEnds hfair.1 hothers
  have hwait : ∀ stage',
      (addTask { s with tasks := s.tasks.eraseIdx i } (.start request stage')).Bounded settings room := fun stage' =>
    h.calm (calm_replace hi (fun b => rfl) rfl hfair)
  unfold BotRunner.resumeStart at hs
  split at hs
  · rw [Option.some.injEq] at hs
    rw [← hs]
    split
    · exact hends
    · exact hwait _
  · rw [Option.some.injEq] at hs
    rw [← hs]
    split
    · exact hends
    · exact hwait _
  · rename_i checked players maxPlayers
    rw [Option.some.injEq] at hs
    rw [← hs]
    split
    · exact hends
    · rename_i havailable
      unfold KeepsRunning at hkeeps
      dsimp only at hkeeps
      rw [hi] at hkeeps
      have hjobs := hkeeps (Int.not_lt.1 havailable)
      have hregister : Untouched { s with tasks := s.tasks.eraseIdx i }
          (register { s with tasks := s.tasks.eraseIdx i } request) := untouched_register _ request
      refine Bounded.startEnds ?_ hfair.1 fun hroom => (hothers hroom).untouched hregister
      by_cases hroom : request.roomId = room
      · have hjob := htaken.withJob (hothers hroom) ((herase.frames.taskFair hfair).2 hroom)
        exact hjob.calm (calm_register _ request)
      · have hjob : Calm settings room { s with tasks := s.tasks.eraseIdx i }
            (BotRunner.withJob { s with tasks := s.tasks.eraseIdx i } request) := calm_withJob _ hroom hjobs
        exact htaken.calm (hjob.trans (calm_register _ request))
  · cases hs
    exact hends
  · cases hs

theorem Bounded.resume {s s' : BotRunner} (h : s.Bounded settings room) (ht : s.Tidy none) (hc : s.Coherent none)
    {i : Nat} {answer : Answer} (hkeeps : KeepsRunning room s (.resume i answer))
    (hs : s.step settings (.resume i answer) = some s') : s'.Bounded settings room := by
  have hothers : ∀ {task : Task}, s.tasks[i]? = some task → ∀ {update : Update}, update ∈ task.update →
      update.roomId = room → Others { s with tasks := s.tasks.eraseIdx i } room :=
    fun hi _ hu hroom => others_taken hc hs hi hu hroom
  obtain ⟨task, hi, hs⟩ := Option.bind_eq_some_iff.1 hs
  have hfair := h.tasks _ (List.mem_of_getElem? hi)
  cases task with
  | start request stage =>
    refine h.resumeStart hi (fun hroom => ?_) hkeeps hs
    obtain ⟨update, revision, hupdate, -⟩ := hfair.2 hroom
    have hin : update ∈ (Task.start request stage).update := by
      rw [Task.update, hupdate]
      rfl
    exact hothers hi hin ((hfair.1 (update, revision) hupdate).trans hroom)
  | spawn roomId mode caller stage => exact h.resumeSpawn ht hi hs
  | sleep j index =>
    have herase : Calm settings room s { s with tasks := s.tasks.eraseIdx i } := calm_erase hi fun b => rfl
    cases answer with
    | done =>
      cases hs
      have hlt : j < nextJob { s with tasks := s.tasks.eraseIdx i } := ht.tasks _ (List.mem_of_getElem? hi)
      exact h.calm (herase.trans (calm_spawnOne hlt index))
    | failed => cases hs
    | written => cases hs
    | summary players maxPlayers => cases hs
  | declined j =>
    have herase : Calm settings room s { s with tasks := s.tasks.eraseIdx i } := calm_erase hi fun b => rfl
    cases answer with
    | done =>
      cases hs
      exact h.calm (herase.trans (calm_endJob _ j (by decide)))
    | failed => cases hs
    | written => cases hs
    | summary players maxPlayers => cases hs
  | queued update =>
    have herase : Calm settings room s { s with tasks := s.tasks.eraseIdx i } := calm_erase hi fun b => rfl
    cases answer with
    | done =>
      unfold BotRunner.resume at hs
      dsimp only at hs
      split at hs
      · cases hs
        by_cases hroom : update.roomId = room
        · exact (h.calm herase).beginUpdate (hothers hi rfl hroom) hroom (hfair hroom)
        · exact h.calm (herase.trans (calm_beginUpdate _ hroom))
      · cases hs
    | failed => cases hs
    | written => cases hs
    | summary players maxPlayers => cases hs
  | storing update revision written =>
    have herase : Calm settings room s { s with tasks := s.tasks.eraseIdx i } := calm_erase hi fun b => rfl
    cases written with
    | false =>
      cases answer with
      | written =>
        cases hs
        exact h.calm (calm_writeTarget hi hfair)
      | failed =>
        cases hs
        by_cases hroom : update.roomId = room
        · exact (h.calm herase).finishUpdate (hothers hi rfl hroom) hroom revision
        · exact h.calm (herase.trans (calm_finishUpdate _ hroom revision))
      | done => cases hs
      | summary players maxPlayers => cases hs
    | true =>
      cases answer with
      | done =>
        cases hs
        by_cases hroom : update.roomId = room
        · obtain ⟨hkind, hadjusting⟩ := hfair hroom
          exact (h.calm herase).stored (hothers hi rfl hroom) hroom hkind hadjusting
        · exact h.calm (herase.trans (calm_stored _ hroom revision))
      | failed => cases hs
      | written => cases hs
      | summary players maxPlayers => cases hs
  | round round deficit stage => exact h.resumeRound hi hs

theorem isRound_of_isRoundOf {task : Task} (h : task.isRoundOf room = true) : task.isRound = true := by
  cases task with
  | round round deficit stage => rfl
  | spawn roomId mode caller stage =>
    cases caller with
    | job j index => cases h
    | round round requested index => rfl
  | start request stage => cases h
  | sleep j index => cases h
  | declined j => cases h
  | queued update => cases h
  | storing update revision written => cases h

theorem Bounded.step {s s' : BotRunner} (h : s.Bounded settings room) (ht : s.Tidy none) (hc : s.Coherent none)
    {event : RunnerEvent} (hspares : event.spares room) (hkeeps : KeepsRunning room s event)
    (hs : s.step settings event = some s') : s'.Bounded settings room := by
  cases event with
  | post count roomId mode intervalMs =>
    unfold BotRunner.step at hs
    dsimp only at hs
    split at hs
    · cases hs
      refine h.calm (calm_addTask s rfl ⟨fun p hp => ?_, fun hroom => absurd hroom hspares⟩)
      cases hp
    · cases hs
  | put roomId target intervalMs =>
    unfold BotRunner.step at hs
    dsimp only at hs
    split at hs
    · cases hs
      exact h.calm (calm_enqueue s fun _ => UpdateKind.noConfusion)
    · cases hs
  | delete roomId =>
    cases hs
    exact h.calm (calm_enqueue s fun hroom => absurd hroom hspares)
  | cancel j =>
    unfold BotRunner.step at hs
    dsimp only at hs
    split at hs
    · cases hs
      exact h.calm (calm_cancel s j)
    · cases hs
  | cleanup j =>
    unfold BotRunner.step at hs
    dsimp only at hs
    split at hs
    · cases hs
      exact h.calm (calm_cleanupJob s j)
    · cases hs
  | reconcile rooms ready =>
    unfold BotRunner.step at hs
    dsimp only at hs
    split at hs
    · rename_i hfree
      cases hs
      refine h.beginRounds ready hfree.1 fun _ => List.countP_eq_zero.2 fun task ht' hround => ?_
      have hno := List.any_eq_false.1 hfree.2 task ht'
      exact hno (isRound_of_isRoundOf hround)
    · cases hs
  | closed b =>
    unfold BotRunner.step at hs
    dsimp only at hs
    split at hs
    · cases hs
      exact h.calm (calm_stopBot s b)
    · cases hs
  | resume i answer => exact h.resume ht hc hkeeps hs

/-! ### The population -/

def Task.spawnsIn (room : String) : Task → Bool
  | .spawn roomId _ _ _ => decide (roomId = room)
  | _ => false

/-- Without spawns under way the room has no more normal bots than its target. -/
def AtMostTarget (settings : RunnerSettings) (room : String) (s : BotRunner) : Prop :=
  (∀ task ∈ s.tasks, task.spawnsIn room = false) → s.activeTargetBotCount room ≤ s.target settings room

theorem Bounded.atMostTarget {s : BotRunner} (h : s.Bounded settings room) : s.AtMostTarget settings room := by
  intro hsettled
  rw [← present_of_settled fun task ht b hb => ?_]
  · exact h.present
  · have hno := hsettled task ht
    have hfair := h.tasks task ht
    unfold Task.awaits at hb
    split at hb
    · rename_i roomId mode caller b'
      rw [← of_decide_eq_true hb, (hfair.1 b' rfl).2]
      exact of_decide_eq_false hno
    · cases hb

theorem bounded_start (stored : String → Option Nat) : (start stored).Bounded settings room where
  present := Nat.zero_le _
  live := fun _ ht => absurd ht List.not_mem_nil
  jobs := fun _ hrun => absurd (running_iff.1 hrun) JobState.noConfusion
  version := Nat.le_refl _
  adjusting := fun revision hr => absurd hr (Option.not_mem_none revision)
  tasks := fun _ ht => absurd ht List.not_mem_nil
  rounds := Nat.zero_le _

/-- As long as the table drops no running job of the room, the room never has more bots than its target behind its
spawns.  Its updates go on one at a time and in their order, and the memory has what the store has. -/
theorem population_le_target (room : String) (stored : String → Option Nat) (events : List RunnerEvent)
    (hspares : ∀ event ∈ events, event.spares room)
    (hkeeps : EachStep (step settings) (KeepsRunning room) (start stored) events) :
    Throughout (step settings) (fun s => s.AtMostTarget settings room ∧ s.MemoryIsStored) (start stored) events ∧
      EachStep (step settings) OldestFirst (start stored) events := by
  have hinit : (start stored).Tidy none ∧ (start stored).Coherent none ∧ (start stored).Bounded settings room :=
    ⟨tidy_start stored, coherent_start stored, bounded_start stored⟩
  have hstep : ∀ s event s', s.Tidy none ∧ s.Coherent none ∧ s.Bounded settings room →
      KeepsRunning room s event ∧ event.spares room → BotRunner.step settings s event = some s' →
      s'.Tidy none ∧ s'.Coherent none ∧ s'.Bounded settings room :=
    fun s event s' h hp hs => ⟨(h.1.step hs).1, h.2.1.step hs, h.2.2.step h.1 h.2.1 hp.2 hp.1 hs⟩
  have hrun := throughout_of_eachStep hstep hinit (hkeeps.and_mem hspares)
  exact ⟨hrun.mono fun s h => ⟨h.2.2.atMostTarget, h.2.1.memory⟩, (updates_in_order stored events).1⟩

instance (s : BotRunner) : Decidable (s.AtMostTarget settings room) := by
  unfold AtMostTarget
  infer_instance

instance (event : RunnerEvent) : Decidable (event.spares room) := by
  unfold RunnerEvent.spares
  split <;> infer_instance

instance (s : BotRunner) (event : RunnerEvent) : Decidable (KeepsRunning room s event) := by
  unfold KeepsRunning
  split
  · split <;> infer_instance
  · infer_instance

namespace Sample

/-- The room gets a target, its update registers a job, and the job's first spawn begins. -/
def raised (target : Nat) : List RunnerEvent :=
  [.put "room-1" target 100, .resume 0 .done, .resume 0 .written, .resume 0 .done, .resume 0 .done, .resume 0 .done,
    .resume 0 (.summary 0 100)]

/-- A job of another room, whose only spawn fails. -/
def failing : List RunnerEvent :=
  [.post 1 "room-2" .normal 300, .resume 1 .done, .resume 1 .done, .resume 1 (.summary 0 100), .resume 1 .failed]

/-- The room's target goes to nothing; `i` tasks wait before. -/
def emptied (i : Nat) : List RunnerEvent := [.put "room-1" 0 100, .resume i .done, .resume i .written, .resume i .done]

def connected : List RunnerEvent := [.resume 0 .done, .resume 0 .done, .resume 0 .done]

def overtaken : List RunnerEvent := raised 2 ++ (List.replicate 100 failing).flatten ++ emptied 1 ++ connected

theorem overtaken_overshoots :
    (runFrom (step defaults) (start fun _ => none) overtaken).any
      (fun s => !decide (s.AtMostTarget defaults "room-1")) = true := by decide +kernel

end Sample

open Sample in
/-- A job that the table has dropped is not cancelled when the target goes to nothing, and its bot stays. -/
theorem dropped_job_overshoots :
    ¬(Throughout (step defaults) (fun s => s.AtMostTarget defaults "room-1" ∧ s.MemoryIsStored) (start fun _ => none)
        overtaken ∧ EachStep (step defaults) OldestFirst (start fun _ => none) overtaken) := by
  intro h
  obtain ⟨s, hs, hover⟩ := (Option.any_eq_true _ _).1 overtaken_overshoots
  have hbound := (h.1.last hs).1
  rw [decide_eq_true hbound] at hover
  cases hover

open Sample in
/-- Without other jobs the room gets its bot, and loses it again. -/
theorem target_reached :
    Throughout (step defaults) (fun s => s.AtMostTarget defaults "room-1" ∧ s.MemoryIsStored) (start fun _ => none)
        (raised 1 ++ connected ++ emptied 0) ∧
      EachStep (step defaults) OldestFirst (start fun _ => none) (raised 1 ++ connected ++ emptied 0) :=
  population_le_target "room-1" (fun _ => none) _ (by decide +kernel) (by decide +kernel)

end BotRunner

end Opsia
