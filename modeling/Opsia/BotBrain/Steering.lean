import Opsia.BotBrain.Brain
import Opsia.Effects

/-!
# The movements of a bot

Where a bot goes: the rhythm of its movements, its way around walls and along a planned path, the flank of an enemy, the
distance to its allies, and where it roams.  All of this moves the state, and none of it any of the fields that decide
what the bot fires, throws or uses (`Quiet`).
-/

namespace Opsia.BotDecision

open Effects

/-! ### What is left alone -/

section Quiet

variable {N : Type}

/-- What a state says about throwing grenades and healing. -/
structure Arms (N : Type) where
  grenadePhase : BotGrenadePhase
  grenadeCookUntil : N
  grenadeCooldownUntil : N
  grenadeTargetSessionId : Option String
  nextHealAt : N

def BotBrainState.arms (state : BotBrainState N) : Arms N where
  grenadePhase := state.grenadePhase
  grenadeCookUntil := state.grenadeCookUntil
  grenadeCooldownUntil := state.grenadeCooldownUntil
  grenadeTargetSessionId := state.grenadeTargetSessionId
  nextHealAt := state.nextHealAt

/-- What a state says about the bursts of a gun. -/
structure Trigger (N : Type) where
  nextBurstAt : N
  burstUntil : N

def BotBrainState.trigger (state : BotBrainState N) : Trigger N where
  nextBurstAt := state.nextBurstAt
  burstUntil := state.burstUntil

/-- What a state says about the enemies of the bot. -/
structure Attention (N : Type) where
  targetSessionId : Option String
  targetLockedUntil : N
  targetMemoryUntil : N
  lastHealth : Option N
  underFireUntil : N

def BotBrainState.attention (state : BotBrainState N) : Attention N where
  targetSessionId := state.targetSessionId
  targetLockedUntil := state.targetLockedUntil
  targetMemoryUntil := state.targetMemoryUntil
  lastHealth := state.lastHealth
  underFireUntil := state.underFireUntil

/-- The value is one of those that `random` is going to return. -/
def BotMemory.Drawable (memory : BotMemory N) (value : N) : Prop := ∃ k, memory.random k = value

/-- Whatever `random` is going to return from the second memory on, it could return from the first one on. -/
def BotMemory.DrawsOn (before after : BotMemory N) : Prop := ∀ value, after.Drawable value → before.Drawable value

theorem BotMemory.DrawsOn.trans {first second third : BotMemory N} (h : first.DrawsOn second)
    (h' : second.DrawsOn third) : first.DrawsOn third := fun value hvalue => h value (h' value hvalue)

/-- Two memories agree on what `part` reads of the state, and the draws go on. -/
structure Keeps {γ : Type} (part : BotBrainState N → γ) (before after : BotMemory N) : Prop where
  part_eq : part after.state = part before.state
  drawsOn : before.DrawsOn after

instance {γ : Type} {part : BotBrainState N → γ} : Std.Refl (Keeps part) := ⟨fun _ => ⟨rfl, fun _ => id⟩⟩

instance {γ : Type} {part : BotBrainState N → γ} : IsTrans (BotMemory N) (Keeps part) :=
  ⟨fun _ _ _ h h' => ⟨h'.part_eq.trans h.part_eq, h.drawsOn.trans h'.drawsOn⟩⟩

/-- The program leaves the arms, the trigger and the attention of the bot as they are. -/
abbrev Quiet {α : Type} (x : Brain N α) : Prop :=
  Moves (Keeps fun state => (state.arms, state.trigger, state.attention)) x

theorem Quiet.arms {α : Type} {x : Brain N α} (h : Quiet x) (memory : BotMemory N) :
    (x memory).2.state.arms = memory.state.arms := congrArg Prod.fst (h.moves memory).part_eq

theorem Quiet.keeps_arms {α : Type} {x : Brain N α} (h : Quiet x) : Moves (Keeps BotBrainState.arms) x :=
  ⟨fun memory => ⟨h.arms memory, (h.moves memory).drawsOn⟩⟩

theorem Quiet.attention {α : Type} {x : Brain N α} (h : Quiet x) (memory : BotMemory N) :
    (x memory).2.state.attention = memory.state.attention := congrArg (·.2.2) (h.moves memory).part_eq

variable {γ : Type} {part : BotBrainState N → γ}

instance keeps_getState : Moves (Keeps part) (getState : Brain N _) := ⟨fun memory => refl memory⟩

instance keeps_random : Moves (Keeps part) (random : Brain N N) := ⟨fun _ => ⟨rfl, fun _ ⟨k, hk⟩ => ⟨k + 1, hk⟩⟩⟩

theorem keeps_setState {f : BotBrainState N → BotBrainState N} (h : ∀ state, part (f state) = part state) :
    Moves (Keeps part) (setState f) := ⟨fun memory => ⟨h memory.state, fun _ => id⟩⟩

theorem quiet_setState {f : BotBrainState N → BotBrainState N}
    (h : ∀ state, (f state).arms = state.arms ∧ (f state).trigger = state.trigger ∧
      (f state).attention = state.attention) : Quiet (setState f) :=
  keeps_setState fun state => Prod.ext (h state).1 (Prod.ext (h state).2.1 (h state).2.2)

end Quiet

variable {N : Type} [JsMath N]

/-! ### Rhythm -/

/-- The part of an intent that `periodicActions` and `weaponActions` decide. -/
structure BotActions where
  interact : Bool
  reload : Bool
  equip : Option BotEquipIntent := none

def periodicActions (now : N) : Brain N BotActions := do
  let state ← getState
  if state.nextInteractAt ≤ now then
    let drawn ← random
    setState fun state => { state with nextInteractAt := now + 420 + drawn * 380 }
    pure { interact := true, reload := false }
  else
    pure { interact := false, reload := false }

instance quiet_periodicActions {now : N} : Quiet (periodicActions now) := by
  unfold periodicActions
  refine .bind inferInstance fun state => ?_
  split
  · exact .bind inferInstance fun drawn => .bind (quiet_setState fun _ => ⟨rfl, rfl, rfl⟩) inferInstance
  · infer_instance

def movementPhaseDuration (mode : BotIntentMode) (phase : BotMovementPhase) : Brain N N := do
  let drawn ← random
  pure <|
    match mode, phase with
    | .combat, .travel => 900 + drawn * 1900
    | .combat, .rest => 250 + drawn * 750
    | .zone, .travel | .edge, .travel => 2000 + drawn * 2500
    | .zone, .rest | .edge, .rest => 150 + drawn * 450
    | .hunt, .travel => 1800 + drawn * 2200
    | .hunt, .rest => 200 + drawn * 700
    | _, .travel => 2000 + drawn * 3000
    | _, .rest => 350 + drawn * 1050

instance quiet_movementPhaseDuration {mode : BotIntentMode} {phase : BotMovementPhase} :
    Quiet (movementPhaseDuration mode phase : Brain N N) := by
  unfold movementPhaseDuration
  infer_instance

/-- A new phase of the movement begins. -/
def beginMovementPhase (mode : BotIntentMode) (phase : BotMovementPhase) (now : N) : Brain N Unit := do
  let duration ← movementPhaseDuration mode phase
  setState fun state => { state with movementPhase := phase, movementPhaseUntil := now + duration }

instance quiet_beginMovementPhase {mode : BotIntentMode} {phase : BotMovementPhase} {now : N} :
    Quiet (beginMovementPhase mode phase now) :=
  .bind inferInstance fun _ => quiet_setState fun _ => ⟨rfl, rfl, rfl⟩

def rhythmicMovement (mode : BotIntentMode) (now : N) : Brain N Bool := do
  let state ← getState
  (if state.movementPhaseUntil ≤ 0 then beginMovementPhase mode .travel now
    else if state.movementPhaseUntil ≤ now then beginMovementPhase mode state.movementPhase.flip now
    else pure ())
  let state ← getState
  pure (state.movementPhase = .travel)

instance quiet_rhythmicMovement {mode : BotIntentMode} {now : N} : Quiet (rhythmicMovement mode now) := by
  unfold rhythmicMovement
  infer_instance

/-- Whether the bot moves. -/
def commandMovement (mode : BotIntentMode) (now : N) : MovementPolicy → Brain N Bool
  | .force => pure true
  | .stop => pure false
  | .rhythm => rhythmicMovement mode now

instance quiet_commandMovement {mode : BotIntentMode} {now : N} {policy : MovementPolicy} :
    Quiet (commandMovement mode now policy) := by
  cases policy with
  | rhythm => exact quiet_rhythmicMovement
  | force => exact moves_pure true
  | stop => exact moves_pure false

def finishIntent (intent : BotIntentWithoutMovement N) (policy : MovementPolicy) (now : N) :
    Brain N (BotIntent N) := do
  let moving ← commandMovement intent.mode now policy
  setState fun state =>
    { state with
      lastMovementCommanded := moving
      lastMoveAngle := if moving then some intent.moveAngle else state.lastMoveAngle }
  pure { intent with moving }

instance quiet_finishIntent {intent : BotIntentWithoutMovement N} {policy : MovementPolicy} {now : N} :
    Quiet (finishIntent intent policy now) :=
  .bind inferInstance fun _ => .bind (quiet_setState fun _ => ⟨rfl, rfl, rfl⟩) fun _ => inferInstance

/-- The movement is added to the intent and changes nothing of it. -/
@[simp] theorem finishIntent_fst {intent : BotIntentWithoutMovement N} {policy : MovementPolicy} {now : N}
    {memory : BotMemory N} : (finishIntent intent policy now memory).1.toBotIntentWithoutMovement = intent := rfl

/-! ### Walls and paths -/

variable (world : BotWorld N) (snapshot : BotBrainSnapshot N) (self : BotBrainPlayer N)

def hasClearShot (target : BotBrainPlayer N) : Bool :=
  world.segmentIsClear snapshot self.x self.y target.x target.y

/-- The side on which there is more room, `sign` where both have the same. -/
def roomierSide (desiredAngle : N) (sign : BotSign) : BotSign :=
  let clearance := fun angle => world.rayClearance snapshot self angle 52
  let left := JsMath.max (clearance (desiredAngle - JsMath.pi / 3)) (clearance (desiredAngle - JsMath.pi / 2))
  let right := JsMath.max (clearance (desiredAngle + JsMath.pi / 3)) (clearance (desiredAngle + JsMath.pi / 2))
  if right < left then .minus else if left < right then .plus else sign

def steerAroundWalls (desiredAngle now : N) : Brain N N := do
  let state ← getState
  if 52 ≤ world.rayClearance snapshot self desiredAngle 52 then
    pure <|
      if state.avoidanceUntil ≤ now then desiredAngle
      else desiredAngle + state.avoidanceSign.value * JsMath.pi * 0.18
  else
    let sign :=
      if state.avoidanceUntil ≤ now then roomierSide world snapshot self desiredAngle state.avoidanceSign
      else state.avoidanceSign
    setState fun state => { state with avoidanceSign := sign, avoidanceUntil := now + 850 }
    pure (desiredAngle + sign.value * JsMath.pi / 2)

instance quiet_steerAroundWalls {desiredAngle now : N} :
    Quiet (steerAroundWalls world snapshot self desiredAngle now) := by
  unfold steerAroundWalls
  refine .bind inferInstance fun state => ?_
  split
  · infer_instance
  · exact .bind (quiet_setState fun _ => ⟨rfl, rfl, rfl⟩) inferInstance

/-- The index of the first waypoint from `index` on that the bot has not reached, the last one at most. -/
def skipReached (waypoints : List (NavigationPoint N)) (index : ℕ) : ℕ :=
  let reached := (waypoints.drop index).dropLast.takeWhile fun waypoint =>
    distance self.x self.y waypoint.x waypoint.y ≤ 7
  index + reached.length

/-- The state behind the choice of a route and the skipping of the waypoints that are reached. -/
def followRoute (goalX goalY : N) (goalKey : String) (now : N) (state : BotBrainState N) : BotBrainState N :=
  let routeIsReusable := state.navigationGoalKey = some goalKey ∧ now < state.navigationReplanAt ∧
    state.navigationWaypointIndex < state.navigationWaypoints.length
  let state :=
    if routeIsReusable then state
    else
      { state with
        navigationGoalKey := some goalKey
        navigationWaypoints := world.planNavigationPath snapshot self.x self.y goalX goalY
        navigationWaypointIndex := 0
        navigationReplanAt := now + 1350 }
  { state with
    navigationWaypointIndex := skipReached self state.navigationWaypoints state.navigationWaypointIndex }

def navigateTo (goalX goalY : N) (goalKey : String) (now : N) : Brain N N :=
  let clampedX := JsMath.max 6 (JsMath.min (snapshot.mapWidth - 6) goalX)
  let clampedY := JsMath.max 6 (JsMath.min (snapshot.mapHeight - 6) goalY)
  if world.segmentIsNavigable snapshot self.x self.y clampedX clampedY then do
    setState fun state =>
      { state with navigationGoalKey := none, navigationWaypoints := [], navigationWaypointIndex := 0 }
    pure (angleTo self.x self.y clampedX clampedY)
  else do
    setState (followRoute world snapshot self clampedX clampedY goalKey now)
    let state ← getState
    let reachable := state.navigationWaypoints[state.navigationWaypointIndex]?.filter fun waypoint =>
      world.segmentIsNavigable snapshot self.x self.y waypoint.x waypoint.y
    reachable.elim
      (do
        setState fun state => { state with navigationReplanAt := 0 }
        steerAroundWalls world snapshot self (angleTo self.x self.y clampedX clampedY) now)
      fun waypoint => pure (angleTo self.x self.y waypoint.x waypoint.y)

theorem followRoute_quiet {goalX goalY now : N} {goalKey : String} {state : BotBrainState N} :
    (followRoute world snapshot self goalX goalY goalKey now state).arms = state.arms ∧
      (followRoute world snapshot self goalX goalY goalKey now state).trigger = state.trigger ∧
      (followRoute world snapshot self goalX goalY goalKey now state).attention = state.attention := by
  unfold followRoute
  dsimp only
  split <;> exact ⟨rfl, rfl, rfl⟩

instance quiet_navigateTo {goalX goalY now : N} {goalKey : String} :
    Quiet (navigateTo world snapshot self goalX goalY goalKey now) := by
  unfold navigateTo
  dsimp only
  split
  · exact .bind (quiet_setState fun _ => ⟨rfl, rfl, rfl⟩) inferInstance
  · have hreplan : Quiet (setState fun state : BotBrainState N => { state with navigationReplanAt := 0 }) :=
      quiet_setState fun _ => ⟨rfl, rfl, rfl⟩
    exact .bind (quiet_setState fun _ => followRoute_quiet world snapshot self) inferInstance

/-! ### Flanks -/

/-- A corner around the object in the way, and what it costs to go there. -/
structure FlankCandidate (N : Type) where
  x : N
  y : N
  score : N

/-- The corners from which the enemy can be flanked, the cheapest first. -/
def flankCandidates (target : BotBrainPlayer N) (avoidanceSign : BotSign) (blocker : BotBrainMapObstacle N) :
    List (FlankCandidate N) :=
  let padding : N := 8
  let minX := blocker.x - blocker.width / 2 - padding
  let maxX := blocker.x + blocker.width / 2 + padding
  let minY := blocker.y - blocker.height / 2 - padding
  let maxY := blocker.y + blocker.height / 2 + padding
  let directX := target.x - self.x
  let directY := target.y - self.y
  let usable := fun (corner : N × N) =>
    8 < corner.1 ∧ 8 < corner.2 ∧ corner.1 < snapshot.mapWidth - 8 ∧ corner.2 < snapshot.mapHeight - 8 ∧
      world.segmentIsClear snapshot self.x self.y corner.1 corner.2
  let rated := fun (corner : N × N) =>
    let side := JsMath.sign (directX * (corner.2 - self.y) - directY * (corner.1 - self.x))
    let sidePenalty : N := if ¬same side 0 ∧ ¬same side avoidanceSign.value then 18 else 0
    let exposesTarget := world.segmentIsClear snapshot corner.1 corner.2 target.x target.y
    { x := corner.1
      y := corner.2
      score := distance self.x self.y corner.1 corner.2 + distance corner.1 corner.2 target.x target.y * 0.45 +
        sidePenalty - if exposesTarget then 90 else 0 : FlankCandidate N }
  let corners := [(minX, minY), (minX, maxY), (maxX, minY), (maxX, maxY)]
  sortBy FlankCandidate.score ((corners.filter fun corner => usable corner).map rated)

/-- The waypoint that is kept from an earlier call. -/
def keptFlank (target : BotBrainPlayer N) (now : N) (state : BotBrainState N) : Option (NavigationPoint N) :=
  match state.flankX, state.flankY with
  | some x, some y =>
    if state.flankTargetSessionId = some target.sessionId ∧ now < state.flankUntil ∧
        7 < distance self.x self.y x y ∧ world.segmentIsClear snapshot self.x self.y x y then some { x, y }
    else none
  | _, _ => none

def forgetFlank (state : BotBrainState N) : BotBrainState N :=
  { state with flankTargetSessionId := none, flankX := none, flankY := none, flankUntil := 0 }

def selectFlankWaypoint (target : BotBrainPlayer N) (now : N) : Brain N (Option (NavigationPoint N)) := do
  let state ← getState
  (keptFlank world snapshot self target now state).elim
    ((world.firstBlockingObstacle snapshot self target).elim
      (do
        setState forgetFlank
        pure none)
      fun blocker =>
        let candidates := flankCandidates world snapshot self target state.avoidanceSign blocker
        candidates.head?.elim (pure none) fun waypoint => do
          setState fun state =>
            { state with
              flankTargetSessionId := some target.sessionId
              flankX := some waypoint.x
              flankY := some waypoint.y
              flankUntil := now + 1500 }
          pure (some { x := waypoint.x, y := waypoint.y }))
    fun waypoint => pure (some waypoint)

instance quiet_selectFlankWaypoint {target : BotBrainPlayer N} {now : N} :
    Quiet (selectFlankWaypoint world snapshot self target now) := by
  have hforget : Quiet (setState (forgetFlank : BotBrainState N → _)) := quiet_setState fun _ => ⟨rfl, rfl, rfl⟩
  have htake (waypoint : FlankCandidate N) :
      Quiet (setState fun state : BotBrainState N =>
        { state with
          flankTargetSessionId := some target.sessionId
          flankX := some waypoint.x
          flankY := some waypoint.y
          flankUntil := now + 1500 }) := quiet_setState fun _ => ⟨rfl, rfl, rfl⟩
  unfold selectFlankWaypoint
  infer_instance

def aimDistance (target : Option (Target N)) (fallback : N) : N :=
  match target with
  | some target => JsMath.min 64 (JsMath.max 30 target.distance)
  | none => fallback

/-! ### Allies and destinations -/

/-- `movementWithSeparation`; the state is not involved. -/
def movementWithSeparation (desiredAngle : N) : N :=
  let pushed := snapshot.players.foldl
    (fun (direction : N × N) player =>
      let allyDistance := distance self.x self.y player.x player.y
      if !player.connected ∨ !player.alive ∨ player.sessionId = self.sessionId ∨ player.teamId ≠ self.teamId ∨
          allyDistance ≤ 0.01 ∨ 18 ≤ allyDistance then direction
      else
        let strength := (18 - allyDistance) / 18 * 1.35
        (direction.1 + (self.x - player.x) / allyDistance * strength,
          direction.2 + (self.y - player.y) / allyDistance * strength))
    (JsMath.cos desiredAngle, JsMath.sin desiredAngle)
  let separatedAngle := JsMath.atan2 pushed.2 pushed.1
  if 16 ≤ world.rayClearance snapshot self separatedAngle 20 then separatedAngle else desiredAngle

def distributedDestination (sessionId purpose : String) (centerX centerY radius : N) : NavigationPoint N :=
  let angle := hashUnit sessionId (purpose ++ ":angle") * JsMath.pi * 2
  let distanceScale := 0.28 + hashUnit sessionId (purpose ++ ":radius") * 0.48
  { x := centerX + JsMath.cos angle * radius * distanceScale
    y := centerY + JsMath.sin angle * radius * distanceScale }

def mapInteriorMargin : N :=
  let shortestSide := JsMath.min snapshot.mapWidth snapshot.mapHeight
  JsMath.min (shortestSide * 0.22) (JsMath.max 72 (shortestSide * 0.12))

def outsideMapInterior (margin : N) : Bool :=
  self.x < margin ∨ self.y < margin ∨ snapshot.mapWidth - margin < self.x ∨ snapshot.mapHeight - margin < self.y

def mapInteriorDestination (sessionId : String) : NavigationPoint N :=
  distributedDestination sessionId "map-interior" (snapshot.mapWidth / 2) (snapshot.mapHeight / 2)
    (JsMath.min snapshot.mapWidth snapshot.mapHeight * 0.2)

/-- The destination that is kept from an earlier call. -/
def keptRoam (now : N) (state : BotBrainState N) : Option (NavigationPoint N) :=
  match state.roamX, state.roamY with
  | some x, some y => if now < state.decisionUntil ∧ 14 < distance self.x self.y x y then some { x, y } else none
  | _, _ => none

/-- The destination of the bot's roaming with the given number. -/
def roamDestination (sessionId : String) (roamSequence : ℕ) : NavigationPoint N :=
  let shortestSide := JsMath.min snapshot.mapWidth snapshot.mapHeight
  let zoneUsable := 0 < snapshot.zone.radius
  let centerX := if zoneUsable then snapshot.zone.x else snapshot.mapWidth / 2
  let centerY := if zoneUsable then snapshot.zone.y else snapshot.mapHeight / 2
  let maxRadius :=
    if zoneUsable then JsMath.min (snapshot.zone.radius * 0.68) (shortestSide * 0.36) else shortestSide * 0.34
  let destination := distributedDestination sessionId (s!"roam:{roamSequence}") centerX centerY maxRadius
  let margin := mapInteriorMargin snapshot
  { x := JsMath.max margin (JsMath.min (snapshot.mapWidth - margin) destination.x)
    y := JsMath.max margin (JsMath.min (snapshot.mapHeight - margin) destination.y) }

def updateRoamDestination (sessionId : String) (now : N) : Brain N (NavigationPoint N) := do
  let state ← getState
  (keptRoam self now state).elim
    (do
      let roamSequence := state.roamSequence + 1
      let destination := roamDestination snapshot sessionId roamSequence
      setState fun state =>
        { state with
          roamSequence
          roamX := some destination.x
          roamY := some destination.y
          decisionUntil := now + 3200 + hashUnit sessionId (s!"roam:{roamSequence}:duration") * 4600 }
      pure destination)
    fun destination => pure destination

instance quiet_updateRoamDestination {sessionId : String} {now : N} :
    Quiet (updateRoamDestination snapshot self sessionId now) := by
  unfold updateRoamDestination
  refine .bind inferInstance fun state => @moves_elim _ _ _ _ _ _ _ ?_ inferInstance
  exact .bind (quiet_setState fun _ => ⟨rfl, rfl, rfl⟩) inferInstance

/-! ### Being stuck -/

/-- The angles out of a blocked way, the one with the most room first. -/
def escapeAngles (blockedAngle : N) (strafeSign : BotSign) : List N :=
  sortDown (fun angle => world.rayClearance snapshot self angle 64)
    [blockedAngle + strafeSign.value * JsMath.pi / 2, blockedAngle - strafeSign.value * JsMath.pi / 2,
      blockedAngle + JsMath.pi]

/-- The bot turns away from what blocks it. -/
def escape (now : N) : Brain N Unit := do
  let drawn ← random
  setState fun state =>
    let blockedAngle := state.lastMoveAngle.getD state.wanderAngle
    { state with
      stuckSamples := 0
      unstuckUntil := now + 1100 + drawn * 650
      wanderAngle := (escapeAngles world snapshot self blockedAngle state.strafeSign).headD state.wanderAngle
      strafeSign := state.strafeSign.flip
      navigationReplanAt := 0 }

/-- The bot counts the samples in which it did not move. -/
def countStuckSample (now lastX lastY : N) : Brain N Unit := do
  setState fun state =>
    { state with stuckSamples := if distance lastX lastY self.x self.y < 1.1 then state.stuckSamples + 1 else 0 }
  let state ← getState
  if 2 ≤ state.stuckSamples then escape world snapshot self now else pure ()

instance quiet_countStuckSample {now lastX lastY : N} :
    Quiet (countStuckSample world snapshot self now lastX lastY) := by
  have hescape : Quiet (escape world snapshot self now) :=
    .bind inferInstance fun _ => quiet_setState fun _ => ⟨rfl, rfl, rfl⟩
  exact .bind (quiet_setState fun _ => ⟨rfl, rfl, rfl⟩) inferInstance

def updateStuckState (now : N) : Brain N Unit := do
  let state ← getState
  if same snapshot.capturedAt state.lastSnapshotAt then pure ()
  else
    (match state.lastX, state.lastY with
      | some lastX, some lastY =>
        if state.lastMovementCommanded then countStuckSample world snapshot self now lastX lastY else pure ()
      | _, _ => pure ())
    setState fun state =>
      { state with lastX := some self.x, lastY := some self.y, lastSnapshotAt := snapshot.capturedAt }

instance quiet_updateStuckState {now : N} : Quiet (updateStuckState world snapshot self now) := by
  unfold updateStuckState
  refine .bind inferInstance fun state => ?_
  split
  · infer_instance
  · refine .bind ?_ fun _ => quiet_setState fun _ => ⟨rfl, rfl, rfl⟩
    split <;> infer_instance

end Opsia.BotDecision
