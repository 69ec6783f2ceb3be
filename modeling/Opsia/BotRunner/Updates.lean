import Opsia.BotRunner.Runner
import Opsia.Machine
import Opsia.Turnstile

/-!
# Target updates

The updates of a room go through a turnstile, so one goes on at a time, and the oldest first (`OldestFirst`).  Between
the store's write and its answer the memory is behind; else it has the target of the store (`MemoryIsStored`).
-/

namespace Opsia

open Machine Turnstile

namespace BotRunner

variable {settings : RunnerSettings}

/-! ### The turnstile of updates -/

/-- The update that a task is, or is a part of. -/
def Task.update : Task → Option Update
  | .queued update => some update
  | .storing update _ _ => some update
  | .start request _ => request.update.map Prod.fst
  | _ => none

def Task.begun : Task → Bool
  | .storing _ _ _ => true
  | .start _ _ => true
  | _ => false

def Update.ticket (update : Update) (entered : Bool) : Ticket String :=
  ⟨update.id, update.roomId, update.previous, entered⟩

def Task.ticket (task : Task) : Option (Ticket String) := task.update.map fun update => update.ticket task.begun

def turnstile (s : BotRunner) : Turnstile String := ⟨s.targetUpdateQueues, s.released, s.nextUpdate⟩

def tickets (tasks : List Task) : List (Ticket String) := tasks.filterMap Task.ticket

/-- Only the updates' own tasks change their turnstile and the targets. -/
structure Untouched (s s' : BotRunner) : Prop where
  turnstile : s'.turnstile = s.turnstile
  updates : s'.tasks.filter (fun task => task.update.isSome) = s.tasks.filter fun task => task.update.isSome
  memory : s'.roomBotTargets = s.roomBotTargets
  store : s'.botTargetStore = s.botTargetStore

theorem Untouched.refl (s : BotRunner) : Untouched s s := ⟨rfl, rfl, rfl, rfl⟩

theorem Untouched.trans {s s' s'' : BotRunner} (h : Untouched s s') (h' : Untouched s' s'') : Untouched s s'' :=
  ⟨h'.turnstile.trans h.turnstile, h'.updates.trans h.updates, h'.memory.trans h.memory, h'.store.trans h.store⟩

theorem untouched_addTask (s : BotRunner) {task : Task} (h : task.update = none) : Untouched s (s.addTask task) := by
  refine ⟨rfl, ?_, rfl, rfl⟩
  unfold addTask
  dsimp only
  rw [List.filter_append, List.filter_singleton, h]
  exact List.append_nil _

theorem untouched_spawnOne (s : BotRunner) (j index : Nat) : Untouched s (s.spawnOne j index) := by
  unfold spawnOne
  split
  · split
    · exact untouched_addTask s rfl
    · exact untouched_addTask s rfl
  · exact Untouched.refl s

theorem untouched_spawnOnes (s : BotRunner) (j : Nat) (indices : List Nat) :
    Untouched s (indices.foldl (fun s index => s.spawnOne j index) s) := by
  induction indices generalizing s with
  | nil => exact Untouched.refl s
  | cons index indices ih => exact (untouched_spawnOne s j index).trans (ih _)

theorem untouched_register (s : BotRunner) (request : StartRequest) : Untouched s (s.register request) := by
  have hjob : Untouched s (s.withJob request) := ⟨rfl, rfl, rfl, rfl⟩
  unfold register
  split
  · exact hjob.trans (untouched_spawnOnes _ _ _)
  · exact hjob.trans (untouched_spawnOne _ _ 0)
  · exact hjob.trans (untouched_spawnOne _ _ 0)

theorem untouched_endJob (s : BotRunner) (j : Nat) (state : JobState) : Untouched s (s.endJob j state) := by
  unfold endJob
  split
  · exact ⟨rfl, rfl, rfl, rfl⟩
  · exact Untouched.refl s

theorem untouched_cancelRoomJobs (s : BotRunner) (roomId : String) : Untouched s (s.cancelRoomJobs roomId) :=
  ⟨rfl, rfl, rfl, rfl⟩

theorem untouched_removeTarget (s : BotRunner) (roomId : String) (target : Nat) :
    Untouched s (s.removeTargetBotsAboveTarget roomId target) := ⟨rfl, rfl, rfl, rfl⟩

theorem untouched_keepTarget (s : BotRunner) (j : Nat) : Untouched s (s.keepTarget j) := by
  unfold keepTarget
  split
  · split
    · exact untouched_removeTarget s _ _
    · exact Untouched.refl s
  · exact Untouched.refl s

theorem untouched_jobLoop (s : BotRunner) (j index : Nat) : Untouched s (s.jobLoop j index) := by
  unfold jobLoop
  split
  · split
    · exact Untouched.refl s
    · exact untouched_endJob s j _
  · split
    · exact untouched_addTask s rfl
    · exact untouched_endJob s j _
  · split
    · exact untouched_addTask s rfl
    · exact untouched_endJob s j _

theorem untouched_jobSpawned (s : BotRunner) (j index b : Nat) : Untouched s (s.jobSpawned j index b) := by
  unfold jobSpawned
  split
  · have hlist : Untouched s (s.listBot j b) := ⟨rfl, rfl, rfl, rfl⟩
    exact (hlist.trans (untouched_keepTarget _ j)).trans (untouched_jobLoop _ j index)
  · exact ⟨rfl, rfl, rfl, rfl⟩

theorem untouched_roundLoop (settings : RunnerSettings) (s : BotRunner) (round : Round) (requested index : Nat) :
    Untouched s (s.roundLoop settings round requested index) := by
  unfold roundLoop
  split
  · exact untouched_addTask s rfl
  · split
    · exact ⟨rfl, rfl, rfl, rfl⟩
    · exact Untouched.refl s

theorem untouched_beginRounds (s : BotRunner) (ready : String → Bool) (rooms : List String) :
    Untouched s (rooms.foldl (beginRound settings ready) s) := by
  induction rooms generalizing s with
  | nil => exact Untouched.refl s
  | cons roomId rooms ih =>
    refine Untouched.trans ?_ (ih _)
    unfold beginRound
    dsimp only
    split
    · exact untouched_addTask s rfl
    · exact Untouched.refl s

theorem untouched_addBot (s : BotRunner) (roomId : String) (mode : BotMode) (caller : SpawnCaller) :
    Untouched s (s.addBot roomId mode caller) := by
  refine ⟨rfl, ?_, rfl, rfl⟩
  unfold addBot
  dsimp only
  rw [List.filter_append]
  exact List.append_nil _

theorem untouched_resumeSpawn {s s' : BotRunner} {roomId : String} {mode : BotMode} {caller : SpawnCaller}
    {stage : SpawnStage} {answer : Answer} (hs : s.resumeSpawn settings roomId mode caller stage answer = some s') :
    Untouched s s' := by
  have hfailed : ∀ t : BotRunner, Untouched t (t.spawnFailed caller) := by
    intro t
    cases caller with
    | job j index => exact untouched_endJob t j _
    | round round requested index => exact Untouched.refl t
  unfold resumeSpawn at hs
  split at hs
  · cases hs
    exact untouched_addTask s rfl
  · cases hs
    exact untouched_addBot s roomId mode caller
  · rename_i b
    have hconnect : Untouched s (s.connectBot b) := ⟨rfl, rfl, rfl, rfl⟩
    split at hs
    · split at hs
      · cases hs
        exact hconnect.trans (untouched_jobSpawned _ _ _ b)
      · cases hs
        exact hconnect.trans (untouched_roundLoop settings _ _ _ _)
    · cases hs
  · rename_i b
    cases hs
    have hstop : Untouched s (s.stopBot b) := ⟨rfl, rfl, rfl, rfl⟩
    exact hstop.trans (hfailed (s.stopBot b))
  · cases hs
    exact hfailed s
  · cases hs

theorem untouched_resumeRound {s s' : BotRunner} {round : Round} {deficit : Nat} {stage : RoundStage} {answer : Answer}
    (hs : s.resumeRound settings round deficit stage answer = some s') : Untouched s s' := by
  unfold resumeRound at hs
  split at hs
  · cases hs
    exact untouched_addTask s rfl
  · dsimp only at hs
    rw [Option.some.injEq] at hs
    rw [← hs]
    split
    · exact Untouched.refl s
    · exact untouched_roundLoop settings s round _ 0
  · cases hs
    exact Untouched.refl s
  · cases hs

/-! ### Memory and store -/

/-- The task waits for the answer of a store that has taken its write. -/
def Task.wrote : Task → Option Update
  | .storing update _ true => some update
  | _ => none

/-- What holds of updates, memory and store between two steps, but for a task that has just been taken. -/
structure Coherent (s : BotRunner) (taken : Option (Ticket String)) : Prop where
  turns : s.turnstile.InTurn (taken.toList ++ tickets s.tasks)
  memory : ∀ roomId, (∀ task ∈ s.tasks, ∀ update ∈ task.wrote, update.roomId ≠ roomId) →
    s.roomBotTargets roomId = s.botTargetStore roomId
  written : ∀ task ∈ s.tasks, ∀ update ∈ task.wrote, s.botTargetStore update.roomId = update.kind.target

theorem coherent_start (stored : String → Option Nat) : (start stored).Coherent none :=
  ⟨inTurn_nil fun _ _ => rfl, fun _ _ => rfl, fun _ ht => absurd ht List.not_mem_nil⟩

theorem tickets_filter (tasks : List Task) :
    tickets (tasks.filter fun task => task.update.isSome) = tickets tasks := by
  unfold tickets
  rw [List.filterMap_filter]
  refine List.filterMap_congr fun task _ => ?_
  unfold Task.ticket
  cases task.update with
  | none => rfl
  | some update => rfl

theorem wrote_update {task : Task} {update : Update} (h : update ∈ task.wrote) : task.update = some update := by
  cases task with
  | storing update' revision written =>
    cases written with
    | false => cases h
    | true => exact h
  | start request stage => cases h
  | spawn roomId mode caller stage => cases h
  | sleep j index => cases h
  | declined j => cases h
  | queued update' => cases h
  | round round deficit stage => cases h

theorem wrote_begun {task : Task} {update : Update} (h : update ∈ task.wrote) :
    task.ticket = some (update.ticket true) := by
  have hbegun : task.begun = true := by
    cases task with
    | storing update' revision written => rfl
    | start request stage => rfl
    | spawn roomId mode caller stage => cases h
    | sleep j index => cases h
    | declined j => cases h
    | queued update' => cases h
    | round round deficit stage => cases h
  rw [Task.ticket, wrote_update h, hbegun]
  rfl

theorem Untouched.wrote {s s' : BotRunner} (hu : Untouched s s') {task : Task} {update : Update}
    (h : update ∈ task.wrote) : task ∈ s'.tasks ↔ task ∈ s.tasks := by
  have hsome : task.update.isSome = true := by
    rw [wrote_update h]
    rfl
  have hmem : ∀ tasks : List Task, task ∈ tasks ↔ task ∈ tasks.filter fun task => task.update.isSome := by
    intro tasks
    rw [List.mem_filter, hsome, and_iff_left rfl]
  rw [hmem s'.tasks, hu.updates, ← hmem]

theorem Coherent.untouched {s s' : BotRunner} {taken : Option (Ticket String)} (h : s.Coherent taken)
    (hu : Untouched s s') : s'.Coherent taken := by
  refine ⟨?_, fun roomId hno => ?_, fun task ht update hw => ?_⟩
  · rw [hu.turnstile, ← tickets_filter s'.tasks, hu.updates, tickets_filter]
    exact h.turns
  · rw [hu.memory, hu.store]
    exact h.memory roomId fun task ht update hw => hno task ((hu.wrote hw).2 ht) update hw
  · rw [hu.store]
    exact h.written task ((hu.wrote hw).1 ht) update hw

theorem tickets_taken {tasks : List Task} {i : Nat} {task : Task} (hi : tasks[i]? = some task) :
    (tickets tasks).Perm (task.ticket.toList ++ tickets (tasks.eraseIdx i)) := by
  obtain ⟨hlt, rfl⟩ := List.getElem?_eq_some_iff.1 hi
  have hperm := (List.getElem_cons_eraseIdx_perm hlt).symm.filterMap Task.ticket
  unfold tickets
  refine hperm.trans ?_
  rw [List.filterMap_cons]
  cases (tasks[i]).ticket with
  | none => exact List.Perm.refl _
  | some k => exact List.Perm.refl _

/-- A task whose write the store has not taken yet is taken. -/
theorem Coherent.taken {s : BotRunner} (h : s.Coherent none) {i : Nat} {task : Task} (hi : s.tasks[i]? = some task)
    (hwrote : task.wrote = none) : Coherent { s with tasks := s.tasks.eraseIdx i } task.ticket := by
  refine ⟨h.turns.perm (tickets_taken hi), fun roomId hno => ?_, fun t ht => ?_⟩
  · refine h.memory roomId fun t ht update hw => ?_
    obtain ⟨k, hk⟩ := List.getElem?_of_mem ht
    refine hno t (List.mem_eraseIdx_iff_getElem?.2 ⟨k, ?_, hk⟩) update hw
    rintro rfl
    rw [hi] at hk
    cases hk
    rw [hwrote] at hw
    cases hw
  · exact h.written t (List.mem_of_mem_eraseIdx ht)

theorem tickets_append (tasks : List Task) (task : Task) :
    (tickets (tasks ++ [task])).Perm (task.ticket.toList ++ tickets tasks) := by
  unfold tickets
  rw [List.filterMap_append]
  refine List.perm_append_comm.trans ?_
  cases h : task.ticket with
  | none => rw [List.filterMap_cons_none h]; exact List.Perm.refl _
  | some k => rw [List.filterMap_cons_some h]; exact List.Perm.refl _

/-- A task waits again, behind the same ticket. -/
theorem Coherent.wait {s : BotRunner} {task : Task} (h : s.Coherent task.ticket) (hwrote : task.wrote = none) :
    (s.addTask task).Coherent none := by
  refine ⟨h.turns.perm (tickets_append s.tasks task).symm, fun roomId hno => ?_, fun t ht update hw => ?_⟩
  · exact h.memory roomId fun t ht => hno t (List.mem_append_left _ ht)
  · rcases List.mem_append.1 ht with ht | ht
    · exact h.written t ht update hw
    · rw [List.mem_singleton.1 ht, hwrote] at hw
      cases hw

theorem Coherent.finishUpdate {s : BotRunner} {update : Update} (h : s.Coherent (some (update.ticket true)))
    (revision : Nat) : (s.finishUpdate update revision).Coherent none :=
  ⟨h.turns.leave rfl, h.memory, h.written⟩

theorem Coherent.beginUpdate {s : BotRunner} {update : Update} (h : s.Coherent (some (update.ticket false)))
    (hmay : s.mayBegin update = true) : (s.beginUpdate update).Coherent none := by
  have hturns : s.turnstile.InTurn (update.ticket true :: tickets s.tasks) := h.turns.enter hmay
  have hbegun : Coherent s (Task.storing update (s.targetAdjustmentRevision + 1) false).ticket :=
    ⟨hturns, h.memory, h.written⟩
  have hwait := hbegun.wait rfl
  exact ⟨hwait.turns, hwait.memory, hwait.written⟩

/-- The store takes a write: the memory of the room is behind. -/
theorem Coherent.writeTarget {s : BotRunner} {update : Update} (h : s.Coherent (some (update.ticket true)))
    (revision : Nat) : (s.writeTarget update revision).Coherent none := by
  have hbefore : ∀ task ∈ s.tasks, ∀ other ∈ task.wrote, other.roomId ≠ update.roomId := by
    intro task ht other hw hroom
    have hin : other.ticket true ∈ tickets s.tasks := List.mem_filterMap.2 ⟨task, ht, wrote_begun hw⟩
    have hfalse := (h.turns.before rfl hin hroom).2
    cases hfalse
  refine ⟨h.turns.perm (tickets_append s.tasks (.storing update revision true)).symm, fun roomId hno => ?_,
    fun task ht other hw => ?_⟩
  · have hne : roomId ≠ update.roomId := fun heq =>
      hno _ (List.mem_append_right _ (List.mem_singleton_self _)) update rfl heq.symm
    have hstore : (s.writeTarget update revision).botTargetStore roomId = s.botTargetStore roomId :=
      Function.update_of_ne hne ..
    rw [hstore]
    exact h.memory roomId fun task ht => hno task (List.mem_append_left _ ht)
  · rcases List.mem_append.1 ht with ht | ht
    · exact (Function.update_of_ne (hbefore task ht other hw) _ _).trans (h.written task ht other hw)
    · rw [List.mem_singleton.1 ht] at hw
      cases hw
      exact Function.update_self ..

/-- The store's answer comes, and the memory follows. -/
theorem Coherent.setTarget {s : BotRunner} (h : s.Coherent none) {i : Nat} {update : Update} {revision : Nat}
    (hi : s.tasks[i]? = some (.storing update revision true)) :
    (BotRunner.setTarget { s with tasks := s.tasks.eraseIdx i } update.roomId update.kind.target revision).Coherent
      (some (update.ticket true)) := by
  refine ⟨h.turns.perm (tickets_taken hi), fun roomId hno => ?_, fun task ht => ?_⟩
  · by_cases hroom : roomId = update.roomId
    · rw [hroom]
      refine (Function.update_self ..).trans ?_
      exact (h.written _ (List.mem_of_getElem? hi) update rfl).symm
    · refine (Function.update_of_ne hroom _ _).trans (h.memory roomId fun task ht other hw => ?_)
      obtain ⟨k, hk⟩ := List.getElem?_of_mem ht
      by_cases hki : k = i
      · rw [hki, hi] at hk
        cases hk
        cases hw
        exact fun heq => hroom heq.symm
      · exact hno task (List.mem_eraseIdx_iff_getElem?.2 ⟨k, hki, hk⟩) other hw
  · exact h.written task (List.mem_of_mem_eraseIdx ht)

theorem Coherent.stored {s : BotRunner} (h : s.Coherent none) {i : Nat} {update : Update} {revision : Nat}
    (hi : s.tasks[i]? = some (.storing update revision true)) :
    (BotRunner.stored { s with tasks := s.tasks.eraseIdx i } update revision).Coherent none := by
  have hset := h.setTarget hi
  unfold BotRunner.stored
  split
  · rename_i hkind
    rw [hkind] at hset
    have hcancel := hset.untouched (untouched_cancelRoomJobs _ update.roomId)
    exact hcancel.finishUpdate revision
  · rename_i target intervalMs hkind
    rw [hkind] at hset
    have hcancel := hset.untouched (untouched_cancelRoomJobs _ update.roomId)
    dsimp only
    split
    · have hremove := hcancel.untouched (untouched_removeTarget _ update.roomId target)
      exact hremove.finishUpdate revision
    · split
      · exact hcancel.wait rfl
      · exact hcancel.finishUpdate revision

/-! ### Steps -/

theorem Coherent.startEnds {s : BotRunner} {request : StartRequest} {stage : StartStage}
    (h : s.Coherent (Task.start request stage).ticket) : (s.startEnds request).Coherent none := by
  have hticket : (Task.start request stage).ticket = request.update.map fun update => update.1.ticket true := by
    unfold Task.ticket Task.update
    rw [Option.map_map]
    rfl
  rw [hticket] at h
  unfold BotRunner.startEnds
  split
  · rename_i update revision hupdate
    rw [hupdate] at h
    exact h.finishUpdate revision
  · rename_i hupdate
    rw [hupdate] at h
    exact h

theorem Coherent.resumeStart {s s' : BotRunner} {request : StartRequest} {stage : StartStage} {answer : Answer}
    (h : s.Coherent (Task.start request stage).ticket) (hs : s.resumeStart request stage answer = some s') :
    s'.Coherent none := by
  have hends := h.startEnds
  have hwait : ∀ stage', (s.addTask (.start request stage')).Coherent none := fun stage' =>
    Coherent.wait (h : s.Coherent (Task.start request stage').ticket) rfl
  unfold BotRunner.resumeStart at hs
  split at hs
  · rw [Option.some.injEq] at hs
    rw [← hs]
    split
    · exact hends
    · exact hwait .summary
  · rw [Option.some.injEq] at hs
    rw [← hs]
    split
    · exact hends
    · exact hwait (.body s.nextJob)
  · rw [Option.some.injEq] at hs
    rw [← hs]
    split
    · exact hends
    · exact (h.untouched (untouched_register s request)).startEnds
  · cases hs
    exact hends
  · cases hs

theorem Coherent.resume {s s' : BotRunner} (h : s.Coherent none) {i : Nat} {task : Task} {answer : Answer}
    (hi : s.tasks[i]? = some task)
    (hs : BotRunner.resume settings { s with tasks := s.tasks.eraseIdx i } task answer = some s') :
    s'.Coherent none := by
  cases task with
  | start request stage => exact (h.taken hi rfl).resumeStart hs
  | spawn roomId mode caller stage => exact (h.taken hi rfl).untouched (untouched_resumeSpawn hs)
  | sleep j index =>
    cases answer with
    | done =>
      cases hs
      exact (h.taken hi rfl).untouched (untouched_spawnOne _ j index)
    | failed => cases hs
    | written => cases hs
    | summary players maxPlayers => cases hs
  | declined j =>
    cases answer with
    | done =>
      cases hs
      exact (h.taken hi rfl).untouched (untouched_endJob _ j _)
    | failed => cases hs
    | written => cases hs
    | summary players maxPlayers => cases hs
  | queued update =>
    cases answer with
    | done =>
      unfold BotRunner.resume at hs
      dsimp only at hs
      split at hs
      · rename_i hmay
        cases hs
        exact (h.taken hi rfl).beginUpdate hmay
      · cases hs
    | failed => cases hs
    | written => cases hs
    | summary players maxPlayers => cases hs
  | storing update revision written =>
    cases written with
    | false =>
      cases answer with
      | written =>
        cases hs
        exact (h.taken hi rfl).writeTarget revision
      | failed =>
        cases hs
        exact (h.taken hi rfl).finishUpdate revision
      | done => cases hs
      | summary players maxPlayers => cases hs
    | true =>
      cases answer with
      | done =>
        cases hs
        exact h.stored hi
      | failed => cases hs
      | written => cases hs
      | summary players maxPlayers => cases hs
  | round round deficit stage => exact (h.taken hi rfl).untouched (untouched_resumeRound hs)

theorem Coherent.enqueue {s : BotRunner} (h : s.Coherent none) (roomId : String) (kind : UpdateKind) :
    (s.enqueue roomId kind).Coherent none := by
  have hperm := (tickets_append s.tasks (.queued ⟨s.nextUpdate, roomId, kind, s.targetUpdateQueues roomId⟩)).symm
  have hdraw : (s.turnstile.draw roomId).InTurn (s.turnstile.ticket roomId :: tickets s.tasks) := h.turns.draw roomId
  refine ⟨hdraw.perm hperm, fun room hno => ?_, fun task ht update hw => ?_⟩
  · exact h.memory room fun task ht => hno task (List.mem_append_left _ ht)
  · rcases List.mem_append.1 ht with ht | ht
    · exact h.written task ht update hw
    · rw [List.mem_singleton.1 ht] at hw
      cases hw

theorem Coherent.step {s s' : BotRunner} (h : s.Coherent none) {event : RunnerEvent}
    (hs : s.step settings event = some s') : s'.Coherent none := by
  unfold BotRunner.step at hs
  split at hs
  · split at hs
    · cases hs
      exact h.untouched (untouched_addTask s rfl)
    · cases hs
  · split at hs
    · cases hs
      exact h.enqueue _ _
    · cases hs
  · cases hs
    exact h.enqueue _ _
  · split at hs
    · cases hs
      exact h.untouched ⟨rfl, rfl, rfl, rfl⟩
    · cases hs
  · split at hs
    · cases hs
      exact h.untouched ⟨rfl, rfl, rfl, rfl⟩
    · cases hs
  · split at hs
    · cases hs
      exact h.untouched (untouched_beginRounds s _ _)
    · cases hs
  · split at hs
    · cases hs
      exact h.untouched ⟨rfl, rfl, rfl, rfl⟩
    · cases hs
  · obtain ⟨task, hi, hs⟩ := Option.bind_eq_some_iff.1 hs
    exact h.resume hi hs

/-! ### One at a time -/

/-- An update that begins or goes on is the oldest of its room, and the room's others have not begun. -/
def OldestFirst (s : BotRunner) : RunnerEvent → Prop
  | .resume i _ =>
    ∀ task ∈ s.tasks[i]?, ∀ update ∈ task.update, ∀ other ∈ s.tasks.eraseIdx i, ∀ update' ∈ other.update,
      update'.roomId = update.roomId → update.id < update'.id ∧ other.begun = false
  | _ => True

/-- The room's target is what the store has, unless the store's answer to a write is under way. -/
def MemoryIsStored (s : BotRunner) : Prop :=
  ∀ roomId, (∀ task ∈ s.tasks, ∀ update ∈ task.wrote, update.roomId ≠ roomId) →
    s.roomBotTargets roomId = s.botTargetStore roomId

/-- An update that has not begun goes on only when the one before has been released. -/
theorem mayBegin_of_resume {s s' : BotRunner} {i : Nat} {answer : Answer} {task : Task} {update : Update}
    (hi : s.tasks[i]? = some task) (hupdate : task.update = some update) (hbegun : task.begun = false)
    (hs : s.step settings (.resume i answer) = some s') : s.turnstile.mayEnter (update.ticket false) = true := by
  obtain ⟨task', hi', hs⟩ := Option.bind_eq_some_iff.1 hs
  rw [hi] at hi'
  cases hi'
  cases task with
  | queued update' =>
    cases hupdate
    cases answer with
    | done =>
      unfold BotRunner.resume at hs
      dsimp only at hs
      split at hs
      · assumption
      · cases hs
    | failed => cases hs
    | written => cases hs
    | summary players maxPlayers => cases hs
  | start request stage => cases hbegun
  | spawn roomId mode caller stage => cases hupdate
  | sleep j index => cases hupdate
  | declined j => cases hupdate
  | storing update' revision written => cases hbegun
  | round round deficit stage => cases hupdate

theorem Coherent.oldestFirst {s s' : BotRunner} (h : s.Coherent none) {event : RunnerEvent}
    (hs : s.step settings event = some s') : s.OldestFirst event := by
  cases event with
  | resume i answer =>
    intro task hi update hupdate other hother update' hupdate' hroom
    have hi : s.tasks[i]? = some task := hi
    have hupdate : task.update = some update := hupdate
    have hupdate' : other.update = some update' := hupdate'
    have hturns := h.turns.perm (tickets_taken hi)
    have hticket : task.ticket = some (update.ticket task.begun) := by
      rw [Task.ticket, hupdate]
      rfl
    have hin : update'.ticket other.begun ∈ tickets (s.tasks.eraseIdx i) := by
      refine List.mem_filterMap.2 ⟨other, hother, ?_⟩
      rw [Task.ticket, hupdate']
      rfl
    rw [hticket] at hturns
    cases hbegun : task.begun with
    | true =>
      rw [hbegun] at hturns
      exact hturns.before rfl hin hroom
    | false =>
      rw [hbegun] at hturns
      have hmay := mayBegin_of_resume hi hupdate hbegun hs
      exact (hturns.enter hmay).before rfl hin hroom
  | post count roomId mode intervalMs => trivial
  | put roomId target intervalMs => trivial
  | delete roomId => trivial
  | cancel j => trivial
  | cleanup j => trivial
  | reconcile rooms ready => trivial
  | closed b => trivial

/-- In every run the updates of a room go on one at a time and in their order, and the memory has what the store has. -/
theorem updates_in_order (stored : String → Option Nat) (events : List RunnerEvent) :
    EachStep (step settings) OldestFirst (start stored) events ∧
      Throughout (step settings) MemoryIsStored (start stored) events := by
  have hstep : ∀ s event s', s.Coherent none → BotRunner.step settings s event = some s' → s'.Coherent none :=
    fun s event s' h hs => h.step hs
  have horder : ∀ s event s', s.Coherent none → BotRunner.step settings s event = some s' →
      s.OldestFirst event ∧ s'.Coherent none := fun s event s' h hs => ⟨h.oldestFirst hs, h.step hs⟩
  have hstored : ∀ s : BotRunner, s.Coherent none → s.MemoryIsStored := fun s h => h.memory
  exact ⟨eachStep_of_inv horder (coherent_start stored) events,
    (throughout_of_step hstep (coherent_start stored) events).mono hstored⟩

end BotRunner

end Opsia
