import Mathlib.Data.List.Chain
import Opsia.BotBrain.Calls

/-!
# The fire discipline of a bot

A run is any sequence of calls of `decideBotIntent` on one state, with any snapshots, clock values and draws.
Whenever an intent fires, the bot aims at a selected enemy, strikes a crate or throws a grenade it holds, except in
one case: a bot that cooks a grenade goes on firing until the deadline, whatever it holds by then (`CooksOn`).  No
call at or past the deadline fires for the throw.
-/

namespace Opsia.BotDecision

open Effects

variable {N : Type} [JsMath N]

/-! ### Runs -/

structure BotCall (N : Type) where
  snapshot : Option (BotBrainSnapshot N)
  now : N

/-- A call with the state it finds, the intent it returns and the state it leaves. -/
structure BotStep (N : Type) where
  call : BotCall N
  before : BotBrainState N
  intent : BotIntent N
  after : BotBrainState N

variable (world : BotWorld N) (sessionId : String)

/-- The calls on one state. -/
def botRun : List (BotCall N) → BotMemory N → List (BotStep N)
  | [], _ => []
  | call :: rest, memory =>
    let decided := decideBotIntent world call.snapshot sessionId call.now memory
    { call, before := memory.state, intent := decided.1, after := decided.2.state } :: botRun rest decided.2

/-- The memory of a bot that has just been created; `createBotBrainState` takes the first three draws. -/
def createdMemory (random : ℕ → N) : BotMemory N where
  state := createBotBrainState random
  random := fun k => random (k + 3)

/-- What a call does; `drawable` says which values `random` can return. -/
inductive CallStep (drawable : N → Prop) (step : BotStep N) : Prop
  | absent (hpresent : present step.call.snapshot sessionId step.call.now = none) (hmode : step.intent.mode = .wander)
      (hshoot : step.intent.shoot = false) (huse : step.intent.useItem = none)
      (hafter : step.after.arms =
        { step.before.arms with grenadePhase := .idle, grenadeCookUntil := 0, grenadeTargetSessionId := none })
  | present (snapshot : BotBrainSnapshot N) (self : BotBrainPlayer N)
      (hpresent : present step.call.snapshot sessionId step.call.now = some (snapshot, self))
      (hstep : PresentStep world snapshot sessionId self step.call.now drawable step.before.attention step.before.arms
        step.intent step.after.arms)

theorem decideBotIntent_step {drawable : N → Prop} (call : BotCall N) (memory : BotMemory N)
    (hdrawable : ∀ value, memory.Drawable value → drawable value) :
    CallStep world sessionId drawable
        { call
          before := memory.state
          intent := (decideBotIntent world call.snapshot sessionId call.now memory).1
          after := (decideBotIntent world call.snapshot sessionId call.now memory).2.state } ∧
      memory.DrawsOn (decideBotIntent world call.snapshot sessionId call.now memory).2 := by
  have hactions : Quiet (periodicActions call.now) := inferInstance
  have hdraws := (hactions.moves memory).drawsOn
  rw [decideBotIntent, bind_apply]
  cases hpresent : present call.snapshot sessionId call.now with
  | none =>
    obtain ⟨hmode, hshoot, huse, hafter, hdraws'⟩ := @decideAbsent_step N _ call.now (periodicActions call.now memory).1
      (periodicActions call.now memory).2
    rw [Option.elim_none]
    exact ⟨.absent hpresent hmode hshoot huse (hafter.trans (by rw [hactions.arms memory])), hdraws.trans hdraws'⟩
  | some found =>
    obtain ⟨snapshot, self⟩ := found
    obtain ⟨hstep, hdraws'⟩ := @decidePresent_step N _ world snapshot sessionId self call.now drawable
      (periodicActions call.now memory).1 (periodicActions call.now memory).2
      fun value hvalue => hdrawable value (hdraws value hvalue)
    rw [hactions.attention memory, hactions.arms memory] at hstep
    rw [Option.elim_some]
    exact ⟨.present snapshot self hpresent hstep, hdraws.trans hdraws'⟩

/-- Every step of a run is a call's. -/
theorem botRun_steps {drawable : N → Prop} (calls : List (BotCall N)) (memory : BotMemory N)
    (hdrawable : ∀ value, memory.Drawable value → drawable value) :
    ∀ step ∈ botRun world sessionId calls memory, CallStep world sessionId drawable step := by
  induction calls generalizing memory with
  | nil => exact fun _ h => nomatch h
  | cons call rest ih =>
    obtain ⟨hcall, hdraws⟩ := decideBotIntent_step world sessionId call memory hdrawable
    intro step hstep
    rcases List.mem_cons.mp hstep with rfl | hstep
    · exact hcall
    · exact ih _ (fun value hvalue => hdrawable value (hdraws value hvalue)) step hstep

/-- Each step finds the state that the step before it has left. -/
theorem botRun_chain (calls : List (BotCall N)) (memory : BotMemory N) :
    (botRun world sessionId calls memory).IsChain fun step next => next.before = step.after := by
  induction calls generalizing memory with
  | nil => exact .nil
  | cons call rest ih =>
    cases rest with
    | nil => exact .singleton _
    | cons next rest => exact .cons_cons rfl (ih _)

/-! ### What the bot sees -/

section Sees

variable (call : BotCall N) (snapshot : BotBrainSnapshot N) (self : BotBrainPlayer N)

/-- The snapshot of the call is fresh, and the bot is in it connected, alive and not down. -/
structure Sees : Prop where
  found : present call.snapshot sessionId call.now = some (snapshot, self)
  given : call.snapshot = some snapshot
  fresh : call.now - snapshot.capturedAt ≤ snapshotFreshnessMs
  listed : self ∈ snapshot.players
  isSelf : self.sessionId = sessionId
  connected : self.connected = true
  alive : self.alive = true
  up : self.downed ≠ some true

/-- A player of the snapshot that is an enemy of the bot, connected, alive and not down. -/
structure Enemy (enemy : Target N) : Prop where
  listed : enemy.player ∈ snapshot.players
  connected : enemy.player.connected = true
  alive : enemy.player.alive = true
  up : enemy.player.downed ≠ some true
  other : enemy.player.sessionId ≠ sessionId
  hostile : enemy.player.teamId ≠ self.teamId
  distance_eq : enemy.distance = distance self.x self.y enemy.player.x enemy.player.y

end Sees

variable {world sessionId} {snapshot : BotBrainSnapshot N} {self : BotBrainPlayer N} {drawable : N → Prop}

theorem sees_of_present {call : BotCall N}
    (h : present call.snapshot sessionId call.now = some (snapshot, self)) (hup : self.downed ≠ some true) :
    Sees sessionId call snapshot self := by
  obtain ⟨given, hgiven, hrest⟩ := Option.bind_eq_some_iff.mp h
  split at hrest
  · rename_i hfresh
    obtain ⟨found, hfound, halive⟩ := Option.bind_eq_some_iff.mp hrest
    split at halive
    · rename_i hlives
      cases halive
      have hfit := List.find?_some hfound
      obtain ⟨hself, hconnected⟩ := of_decide_eq_true hfit
      exact ⟨h, hgiven, hfresh, List.mem_of_find?_eq_some hfound, hself, hconnected, hlives, hup⟩
    · cases halive
  · cases hrest

private theorem enemy_of_mem {enemy : Target N} (h : enemy ∈ allEnemies snapshot sessionId self) :
    Enemy sessionId snapshot self enemy := by
  obtain ⟨player, hplayer, rfl⟩ := List.mem_map.mp (mem_sortBy h)
  obtain ⟨hlisted, hwanted⟩ := List.mem_filter.mp hplayer
  obtain ⟨hconnected, halive, hup, hother, hhostile⟩ := of_decide_eq_true hwanted
  exact ⟨hlisted, hconnected, halive, hup, hother, hhostile, rfl⟩

/-- Whom the bot perceives is an enemy. -/
private theorem perceived_enemy {now : N} {attention : Attention N} {enemy : Target N}
    (h : enemy ∈ perceivedEnemies world snapshot sessionId self now attention) :
    Enemy sessionId snapshot self enemy := by
  have hseen : ∀ enemy ∈ directlyPerceived world snapshot sessionId self now attention,
      Enemy sessionId snapshot self enemy := fun enemy henemy => enemy_of_mem (List.mem_of_mem_filter henemy)
  unfold perceivedEnemies at h
  dsimp only at h
  split at h
  · rename_i remembered hremembered
    have hknown : Enemy sessionId snapshot self remembered := by
      unfold rememberedTarget at hremembered
      split at hremembered
      · exact enemy_of_mem (List.mem_of_find?_eq_some hremembered)
      · cases hremembered
    split at h
    · exact hseen enemy h
    · rcases List.mem_append.mp (mem_sortBy h) with h | h
      · exact hseen enemy h
      · rwa [List.mem_singleton.mp h]
  · exact hseen enemy h

/-! ### The discipline -/

variable (world sessionId)

/-- When the intent fires, the bot sees, and it aims at the enemy selected as target, strikes a crate, or throws the
grenade it holds. -/
def Disciplined (step : BotStep N) : Prop :=
  step.intent.shoot = true →
    ∃ snapshot self, Sees sessionId step.call snapshot self ∧
      ((∃ target, Enemy sessionId snapshot self target ∧
          Aims world snapshot sessionId self step.call.now step.before.attention target) ∨
        Strikes world snapshot self step.intent.mode ∨ step.intent.mode = .grenade ∧ HoldsGrenade world self)

/-- The call finds a grenade that is cooked and an enemy to throw it at, before the deadline, but the bot does not
hold a grenade any more, and cannot shoot the enemy it selects. -/
def CooksOn (step : BotStep N) : Prop :=
  ∃ snapshot self, Sees sessionId step.call snapshot self ∧ step.before.grenadePhase = .cook ∧
    step.call.now < step.before.grenadeCookUntil ∧
    enemiesSeen world snapshot sessionId self step.call.now step.before.attention ≠ [] ∧ ¬HoldsGrenade world self ∧
    ¬∃ target, Aims world snapshot sessionId self step.call.now step.before.attention target

/-- The call pulls the pin: a throw is cooked from here on, until the deadline that the state names. -/
def PullsPin (step : BotStep N) : Prop := step.intent.mode = .grenade ∧ step.intent.forceShootStart = some true

/-- No call at or past the deadline of a throw fires for it. -/
def KeepsDeadlines (steps : List (BotStep N)) : Prop :=
  ∀ earlier pin between step later, steps = earlier ++ pin :: (between ++ step :: later) → PullsPin pin →
    (∀ other ∈ between ++ [step], ¬PullsPin other) → step.intent.mode = .grenade → step.intent.shoot = true →
    step.call.now < pin.after.grenadeCookUntil

variable {world sessionId}

private theorem aims_enemy {step : BotStep N} {target : Target N}
    (h : Aims world snapshot sessionId self step.call.now step.before.attention target) :
    Enemy sessionId snapshot self target := by
  obtain ⟨hselected, -, -, -, -⟩ := h
  exact perceived_enemy (chooseTarget_mem world hselected)

private theorem sees_unique {call : BotCall N} {snapshot' : BotBrainSnapshot N} {self' : BotBrainPlayer N}
    (h : Sees sessionId call snapshot self) (h' : Sees sessionId call snapshot' self') :
    snapshot' = snapshot ∧ self' = self := by
  obtain ⟨hfound, -⟩ := h
  obtain ⟨hfound', -⟩ := h'
  exact Prod.mk.inj (Option.some.inj (hfound'.symm.trans hfound))

/-- A bot that cooks on fires, and nothing justifies it. -/
private theorem cooksOn_fires {step : BotStep N} (h : CallStep world sessionId drawable step)
    (hcooks : CooksOn world sessionId step) :
    step.intent.shoot = true ∧ ¬Disciplined world sessionId step := by
  obtain ⟨snapshot, self, hsees, hphase, htime, hseen, hempty, haims⟩ := hcooks
  have hfound := hsees
  obtain ⟨hfound, -, -, -, -, -, -, hup⟩ := hfound
  have hfires : step.intent.shoot = true ∧ step.intent.mode = .grenade := by
    cases h with
    | absent hpresent => cases hpresent.symm.trans hfound
    | present snapshot' self' hpresent hstep =>
      cases hfound.symm.trans hpresent
      generalize step.after.arms = after at hstep
      cases hstep with
      | down hdown => exact absurd hdown hup
      | throwing _ _ hmode _ hstep =>
        cases hstep with
        | hold _ _ _ hshoot => exact ⟨hshoot, hmode⟩
        | cook _ _ hequip => cases hequip.symm.trans hphase
        | wait hequip => cases hequip.symm.trans hphase
        | release _ hover => exact absurd ⟨hseen, htime⟩ hover
        | recover _ _ hother =>
          rcases hother with ⟨hother, -⟩ | hother | hother <;> cases hother.symm.trans hphase
      | beginThrow _ _ hidle => cases hidle.symm.trans hphase
      | useItem _ _ hidle => cases hidle.symm.trans hphase
      | ordinary _ hidle => cases hidle.symm.trans hphase
  refine ⟨hfires.1, fun hdisciplined => ?_⟩
  obtain ⟨snapshot', self', hsees', hreason⟩ := hdisciplined hfires.1
  obtain ⟨rfl, rfl⟩ := sees_unique hsees hsees'
  rcases hreason with ⟨target, -, htarget⟩ | hstrikes | ⟨-, hholds⟩
  · exact haims ⟨target, htarget⟩
  · obtain ⟨hmode, -, -⟩ := hstrikes
    cases hmode.symm.trans hfires.2
  · exact hempty hholds

/-- A call is disciplined unless the bot cooks on. -/
theorem disciplined_iff {step : BotStep N} (h : CallStep world sessionId drawable step) :
    Disciplined world sessionId step ↔ ¬CooksOn world sessionId step := by
  refine ⟨fun hdisciplined hcooks => (cooksOn_fires h hcooks).2 hdisciplined, fun hcooks hfires => ?_⟩
  cases h with
  | absent _ _ hshoot => cases hshoot.symm.trans hfires
  | present snapshot self hpresent hstep =>
    generalize step.after.arms = after at hstep
    cases hstep with
    | down _ _ hshoot => cases hshoot.symm.trans hfires
    | throwing hup _ hmode _ hstep =>
      have hsees := sees_of_present hpresent hup
      cases hstep with
      | cook _ _ _ hholds => exact ⟨snapshot, self, hsees, .inr (.inr ⟨hmode, hholds⟩)⟩
      | wait _ _ _ _ hshoot => cases hshoot.symm.trans hfires
      | hold hphase hseen htime =>
        by_cases hholds : HoldsGrenade world self
        · exact ⟨snapshot, self, hsees, .inr (.inr ⟨hmode, hholds⟩)⟩
        · by_cases haims : ∃ target, Aims world snapshot sessionId self step.call.now step.before.attention target
          · obtain ⟨target, htarget⟩ := haims
            exact ⟨snapshot, self, hsees, .inl ⟨target, aims_enemy htarget, htarget⟩⟩
          · exact absurd ⟨snapshot, self, hsees, hphase, htime, hseen, hholds, haims⟩ hcooks
      | release _ _ hshoot => cases hshoot.symm.trans hfires
      | recover _ _ _ hshoot => cases hshoot.symm.trans hfires
    | beginThrow _ _ _ _ _ _ _ hshoot => cases hshoot.symm.trans hfires
    | useItem _ _ _ _ _ _ _ hshoot => cases hshoot.symm.trans hfires
    | ordinary hup _ _ _ hreason =>
      refine ⟨snapshot, self, sees_of_present hpresent hup, ?_⟩
      rcases hreason hfires with ⟨target, htarget⟩ | hstrikes
      · exact .inl ⟨target, aims_enemy htarget, htarget⟩
      · exact .inr (.inl hstrikes)

/-! ### Deadlines -/

/-- A grenade is cooked after a call only if the call pulls the pin or found it cooked, with the same deadline. -/
private theorem cook_step {step : BotStep N} (h : CallStep world sessionId drawable step)
    (hafter : step.after.grenadePhase = .cook) :
    PullsPin step ∨
      step.before.grenadePhase = .cook ∧ step.before.grenadeCookUntil = step.after.grenadeCookUntil := by
  change step.after.arms.grenadePhase = .cook at hafter
  change _ ∨ step.before.arms.grenadePhase = .cook ∧
    step.before.arms.grenadeCookUntil = step.after.arms.grenadeCookUntil
  cases h with
  | absent _ _ _ _ harms =>
    rw [harms] at hafter
    cases hafter
  | present snapshot self hpresent hstep =>
    generalize step.after.arms = after at hstep hafter ⊢
    cases hstep with
    | down => cases hafter
    | throwing _ _ hmode _ hstep =>
      cases hstep with
      | cook _ _ _ _ _ hstart => exact .inl ⟨hmode, hstart⟩
      | wait => exact .inr ⟨hafter, rfl⟩
      | hold => exact .inr ⟨hafter, rfl⟩
      | release => cases hafter
      | recover => cases hafter
    | beginThrow => cases hafter
    | useItem => exact .inr ⟨hafter, rfl⟩
    | ordinary => exact .inr ⟨hafter, rfl⟩

/-- A call that fires for a throw pulls the pin, or finds the grenade cooked before the deadline. -/
private theorem grenade_fires {step : BotStep N} (h : CallStep world sessionId drawable step)
    (hmode : step.intent.mode = .grenade)
    (hshoot : step.intent.shoot = true) :
    PullsPin step ∨ step.before.grenadePhase = .cook ∧ step.call.now < step.before.grenadeCookUntil := by
  cases h with
  | absent _ hwander => cases hwander.symm.trans hmode
  | present snapshot self hpresent hstep =>
    generalize step.after.arms = after at hstep
    cases hstep with
    | down _ hdown => cases hdown.symm.trans hmode
    | throwing _ _ _ _ hstep =>
      cases hstep with
      | cook _ _ _ _ _ hstart => exact .inl ⟨hmode, hstart⟩
      | wait _ _ _ _ hsilent => cases hsilent.symm.trans hshoot
      | hold hphase _ htime => exact .inr ⟨hphase, htime⟩
      | release _ _ hsilent => cases hsilent.symm.trans hshoot
      | recover _ _ _ hsilent => cases hsilent.symm.trans hshoot
    | beginThrow _ _ _ _ _ _ _ hsilent => cases hsilent.symm.trans hshoot
    | useItem _ _ _ _ _ _ _ hsilent => cases hsilent.symm.trans hshoot
    | ordinary _ _ hother => exact absurd hmode hother

theorem keepsDeadlines_run (calls : List (BotCall N)) (memory : BotMemory N) :
    KeepsDeadlines (botRun world sessionId calls memory) := by
  intro earlier pin between step later hrun hpin hpins hmode hshoot
  have hsteps := botRun_steps world sessionId calls memory fun _ => id
  have hchain := botRun_chain world sessionId calls memory
  rw [hrun] at hsteps hchain
  have hshorter := chain_between hchain
  have hstep := hsteps step (by simp)
  rcases grenade_fires hstep hmode hshoot with hpulls | ⟨hcook, htime⟩
  · exact absurd hpulls (hpins step (by simp))
  · -- as long as no other pin is pulled, a grenade that is cooked keeps its deadline
    have huntil := chain_kept
      (fun state => state.grenadePhase = .cook → state.grenadeCookUntil = pin.after.grenadeCookUntil)
      hshorter (fun other hother hkept hafter => ?_) (fun _ => rfl) hcook
    · rwa [huntil] at htime
    · rcases cook_step (hsteps other (by simp [hother])) hafter with hpulls | ⟨hphase, huntil⟩
      · exact absurd hpulls (hpins other (by simp [hother]))
      · exact huntil.symm.trans (hkept hphase)

/-! ### The fire discipline -/

/-- A run keeps the fire discipline exactly when no call of it cooks on; the deadlines are kept in any case. -/
theorem fire_discipline_iff (world : BotWorld N) (sessionId : String) (random : ℕ → N) (calls : List (BotCall N)) :
    ((∀ step ∈ botRun world sessionId calls (createdMemory random), Disciplined world sessionId step) ∧
        KeepsDeadlines (botRun world sessionId calls (createdMemory random))) ↔
      ∀ step ∈ botRun world sessionId calls (createdMemory random), ¬CooksOn world sessionId step := by
  have hsteps := botRun_steps world sessionId calls (createdMemory random) fun _ => id
  constructor
  · exact fun ⟨hdisciplined, _⟩ step hstep => (disciplined_iff (hsteps step hstep)).mp (hdisciplined step hstep)
  · intro hcooks
    exact ⟨fun step hstep => (disciplined_iff (hsteps step hstep)).mpr (hcooks step hstep),
      keepsDeadlines_run calls (createdMemory random)⟩

/-! ### A bot that fires with its fists -/

section LostGrenade

/-- Rational numbers, with the functions of `Math` as they are on the values that the run below asks for: everything
lies on one axis, to the right of the bot. -/
local instance axisMath : JsMath ℚ where
  lt a b := a < b
  le a b := a ≤ b
  literal q := q
  infinity := 10 ^ 309
  pi := 884279719003555 / 281474976710656
  abs a := if a < 0 then -a else a
  sqrt a := a
  log2 a := a
  sign a := if 0 < a then 1 else if a < 0 then -1 else 0
  floor a := a.floor
  round a := (a + 1 / 2).floor
  cos _ := 1
  sin _ := 0
  atan2 _ _ := 0
  hypot x _ := if x < 0 then -x else x
  min a b := if a ≤ b then a else b
  max a b := if a ≤ b then b else a
  isFinite a := a < 10 ^ 309
  toText a := toString a.num

/-- A map without obstacles. -/
def bareWorld : BotWorld ℚ where
  typeToDefSafe name := if name = "frag" then some .throwable else if name = "fists" then some .melee else none
  segmentIsClear _ _ _ _ _ := true
  segmentIsNavigable _ _ _ _ _ := true
  rayClearance _ _ _ maxDistance := maxDistance
  firstBlockingObstacle _ _ _ := none
  planNavigationPath _ _ _ goalX goalY := [{ x := goalX, y := goalY }]

/-- A healthy player on the axis, with a grenade in slot 3. -/
def axisPlayer (sessionId : String) (teamId : ℕ) (x : ℚ) (weapon : String) (activeSlot : ℕ) : BotBrainPlayer ℚ where
  sessionId
  teamId
  x
  y := 500
  vx := 0
  vy := 0
  alive := true
  connected := true
  health := 100
  armor := 0
  weapon
  ammo := 0
  bandages := none
  healthkits := none
  sodas := none
  painkillers := none
  boost := some 100
  downed := some false
  activeSlot := some activeSlot
  primaryWeapon := none
  primaryAmmo := none
  primaryReserve := none
  secondaryWeapon := none
  secondaryAmmo := none
  secondaryReserve := none
  throwableWeapon := some "frag"
  throwableCount := some 1
  isBot := some true
  indoors := some false

/-- The bot, and two enemies that stand close to each other. -/
def axisSnapshot (capturedAt : ℚ) (weapon : String) (activeSlot : ℕ) : BotBrainSnapshot ℚ where
  capturedAt
  mapWidth := 1000
  mapHeight := 1000
  zone := { x := 500, y := 500, radius := 0, nextX := 500, nextY := 500, nextRadius := 0 }
  loot := none
  obstacles := none
  players :=
    [axisPlayer "bot" 1 500 weapon activeSlot, axisPlayer "first" 2 530 "fists" 2, axisPlayer "second" 2 540 "fists" 2]

/-- The bot takes the grenade, pulls the pin, and then has its fists in its hands. -/
def lostGrenadeCalls : List (BotCall ℚ) :=
  [{ snapshot := some (axisSnapshot 1000 "fists" 2), now := 1000 },
    { snapshot := some (axisSnapshot 1750 "frag" 3), now := 1750 },
    { snapshot := some (axisSnapshot 2000 "fists" 2), now := 2000 }]

/-- The memory behind the second call. -/
def cookingMemory : BotMemory ℚ :=
  (decideBotIntent bareWorld (some (axisSnapshot 1750 "frag" 3)) "bot" 1750
    (decideBotIntent bareWorld (some (axisSnapshot 1000 "fists" 2)) "bot" 1000 (createdMemory fun _ => 1 / 4)).2).2

/-- The third call. -/
def fistsStep : BotStep ℚ :=
  let decided := decideBotIntent bareWorld (some (axisSnapshot 2000 "fists" 2)) "bot" 2000 cookingMemory
  { call := { snapshot := some (axisSnapshot 2000 "fists" 2), now := 2000 }
    before := cookingMemory.state
    intent := decided.1
    after := decided.2.state }

private theorem fistsStep_cooksOn : CooksOn bareWorld "bot" fistsStep := by
  have hfound : present fistsStep.call.snapshot "bot" fistsStep.call.now =
      some (axisSnapshot 2000 "fists" 2, axisPlayer "bot" 1 500 "fists" 2) := by
    have hfresh : Comparisons.le ((2000 : ℚ) - 2000) snapshotFreshnessMs = true := by decide +kernel
    exact (if_pos hfresh).trans rfl
  have hphase : fistsStep.before.grenadePhase = .cook := by decide +kernel
  have htime : Comparisons.lt fistsStep.call.now fistsStep.before.grenadeCookUntil = true := by decide +kernel
  have hdistances : (enemiesSeen bareWorld (axisSnapshot 2000 "fists" 2) "bot" (axisPlayer "bot" 1 500 "fists" 2)
      fistsStep.call.now fistsStep.before.attention).map Target.distance = [30, 40] := by decide +kernel
  refine ⟨_, _, sees_of_present hfound (by decide), hphase, htime, fun hnil => ?_, fun hholds => ?_, fun haims => ?_⟩
  · rw [hnil] at hdistances
    cases hdistances
  · cases hholds.1
  · obtain ⟨target, hselected, hrange, -, -, -⟩ := haims
    have hmem : target.distance ∈ ([30, 40] : List ℚ) :=
      hdistances ▸ List.mem_map_of_mem (chooseTarget_mem bareWorld hselected)
    change Comparisons.le target.distance (weaponProfile bareWorld "fists").effectiveRange = true at hrange
    simp only [List.mem_cons, List.not_mem_nil, or_false] at hmem
    rcases hmem with h | h <;> rw [h] at hrange <;> revert hrange <;> decide +kernel

/-- The third call fires with the fists at enemies that are thirty units away. -/
theorem fists_fire :
    ¬((∀ step ∈ botRun bareWorld "bot" lostGrenadeCalls (createdMemory fun _ => 1 / 4),
          Disciplined bareWorld "bot" step) ∧
        KeepsDeadlines (botRun bareWorld "bot" lostGrenadeCalls (createdMemory fun _ => 1 / 4))) := by
  rintro ⟨hdisciplined, -⟩
  have hmem : fistsStep ∈ botRun bareWorld "bot" lostGrenadeCalls (createdMemory fun _ => 1 / 4) :=
    .tail _ (.tail _ (.head _))
  have hstep := botRun_steps bareWorld "bot" lostGrenadeCalls (createdMemory fun _ => 1 / 4) (fun _ => id) fistsStep
    hmem
  exact (cooksOn_fires hstep fistsStep_cooksOn).2 (hdisciplined fistsStep hmem)

end LostGrenade

end Opsia.BotDecision
