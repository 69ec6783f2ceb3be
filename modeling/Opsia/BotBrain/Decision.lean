import Opsia.BotBrain.Arsenal
import Opsia.BotBrain.Loot

/-!
# The decision of a bot

`decideBotIntent` is a cascade: the first branch that gives an intent decides.  Before the branches, the bot looks
around (`look`): whom it perceives, its target, and whether it fires.  All branches read what it saw (`Sight`) and the
state.
-/

namespace Opsia.BotDecision

open Effects

variable {N : Type} [JsMath N] (world : BotWorld N)

/-! ### Looking around -/

/-- The snapshot and the bot in it, when the snapshot is fresh and the bot is connected and alive. -/
def present (snapshot? : Option (BotBrainSnapshot N)) (sessionId : String) (now : N) :
    Option (BotBrainSnapshot N × BotBrainPlayer N) := do
  let snapshot ← snapshot?
  if now - snapshot.capturedAt ≤ snapshotFreshnessMs then
    let self ← snapshot.players.find? fun player => player.sessionId = sessionId ∧ player.connected
    if self.alive then some (snapshot, self) else none
  else none

section Look

variable (snapshot : BotBrainSnapshot N) (sessionId : String) (self : BotBrainPlayer N) (now : N)

/-- The bot has lost health since the last call. -/
def isHurt (lastHealth : Option N) : Bool := lastHealth.any fun lastHealth => self.health < lastHealth - 0.5

/-- The bot evades. -/
def takeFire (state : BotBrainState N) : BotBrainState N :=
  { state with
    underFireUntil := now + 1100
    strafeSign := state.strafeSign.flip
    nextStrafeFlipAt := now + 1100
    movementPhase := .travel
    movementPhaseUntil := now + 1100 }

/-- The bot notices that it was hit. -/
def noticeDamage (state : BotBrainState N) : BotBrainState N :=
  let state := if isHurt self state.lastHealth then takeFire now state else state
  { state with lastHealth := some self.health }

/-- The players with the property and how far away they are, the nearest first. -/
def playersByDistance (wanted : BotBrainPlayer N → Bool) : List (Target N) :=
  sortBy Target.distance ((snapshot.players.filter wanted).map fun player =>
    { player, distance := distance self.x self.y player.x player.y })

def allEnemies : List (Target N) :=
  playersByDistance snapshot self fun player =>
    player.connected ∧ player.alive ∧ player.downed ≠ some true ∧ player.sessionId ≠ sessionId ∧
      player.teamId ≠ self.teamId

def allies : List (Target N) :=
  playersByDistance snapshot self fun player =>
    player.connected ∧ player.alive ∧ player.teamId = self.teamId ∧ player.sessionId ≠ sessionId

def directlyPerceived (attention : Attention N) : List (Target N) :=
  let sightRange := 350 + hashUnit sessionId "sight-range" * 170
  (allEnemies snapshot sessionId self).filter fun enemy =>
    enemy.distance ≤ 125 ∨ (enemy.distance ≤ sightRange ∧ hasClearShot world snapshot self enemy.player) ∨
      (now < attention.underFireUntil ∧ enemy.distance ≤ 300)

def rememberedTarget (attention : Attention N) : Option (Target N) :=
  if now < attention.targetMemoryUntil then
    (allEnemies snapshot sessionId self).find? fun enemy => some enemy.player.sessionId = attention.targetSessionId
  else none

/-- The enemies the bot perceives, and the one it remembers. -/
def perceivedEnemies (attention : Attention N) : List (Target N) :=
  let seen := directlyPerceived world snapshot sessionId self now attention
  match rememberedTarget snapshot sessionId self now attention with
  | some remembered =>
    if seen.any fun enemy => enemy.player.sessionId = remembered.player.sessionId then seen
    else sortBy Target.distance (seen ++ [remembered])
  | none => seen

/-- The bot remembers where it saw its target. -/
def rememberTarget (seen : List (Target N)) (target : Option (Target N)) (state : BotBrainState N) : BotBrainState N :=
  match target with
  | some target =>
    if seen.any fun enemy => enemy.player.sessionId = target.player.sessionId then
      { state with
        targetLastSeenX := some target.player.x
        targetLastSeenY := some target.player.y
        targetMemoryUntil := now + 2200 + (botPersonality sessionId).aggression * 450 }
    else state
  | none => { state with targetLastSeenX := none, targetLastSeenY := none, targetMemoryUntil := 0 }

/-- The angle at which the target will be when a bullet reaches it. -/
def leadAngle (target : Target N) : N :=
  let selfWeapon := weaponProfile world self.weapon
  let projectileTravelSeconds :=
    if JsMath.isFinite selfWeapon.projectileSpeed then
      JsMath.min 0.72 (target.distance / JsMath.max 1 selfWeapon.projectileSpeed)
    else 0
  angleTo self.x self.y (target.player.x + target.player.vx * projectileTravelSeconds)
    (target.player.y + target.player.vy * projectileTravelSeconds)

/-- What the branches of the decision read besides the state. -/
structure Sight (N : Type) where
  enemies : List (Target N)
  target : Option (Target N)
  targetAngle : N
  combatActions : BotActions
  clearShot : Bool
  shoot : Bool

def look (actions : BotActions) : Brain N (Sight N) := do
  let state ← getState
  let seen := directlyPerceived world snapshot sessionId self now state.attention
  let enemies := perceivedEnemies world snapshot sessionId self now state.attention
  let target ← selectTarget world enemies now
  setState (rememberTarget sessionId now seen target)
  let state ← getState
  let weapon ← weaponActions world self (target.map Target.distance) now
  let clearShot := target.any fun target => hasClearShot world snapshot self target.player
  let shoot ← controlledFire world self target clearShot now
  pure
    { enemies
      target
      targetAngle := target.elim state.wanderAngle (leadAngle world self)
      combatActions := { interact := actions.interact, reload := weapon.reload, equip := weapon.equip }
      clearShot
      shoot }

end Look

/-! ### The branches -/

/-- The intent of a branch that decides. -/
def conclude (intent : BotIntentWithoutMovement N) (policy : MovementPolicy) (now : N) :
    Brain N (Option (BotIntent N)) := do
  let intent ← finishIntent intent policy now
  pure (some intent)

instance quiet_conclude {intent : BotIntentWithoutMovement N} {policy : MovementPolicy} {now : N} :
    Quiet (conclude intent policy now) := by
  unfold conclude
  infer_instance

section Branches

variable (snapshot : BotBrainSnapshot N) (sessionId : String) (self : BotBrainPlayer N) (now : N) (sight : Sight N)

/-- A bot that is down crawls to an ally who is not. -/
def crawl : Brain N (Option (BotIntent N)) := do
  let rescueAlly := (allies snapshot sessionId self).find? fun ally => ally.player.downed ≠ some true
  let crawlAngle ← rescueAlly.elim
    (pure (if sight.target.isSome then sight.targetAngle + JsMath.pi
      else angleTo self.x self.y snapshot.zone.x snapshot.zone.y))
    fun ally => navigateTo world snapshot self ally.player.x ally.player.y ("downed:" ++ ally.player.sessionId) now
  let moveAngle ← steerAroundWalls world snapshot self crawlAngle now
  conclude
    { mode := .downed
      moveAngle := movementWithSeparation world snapshot self moveAngle
      aimAngle := sight.targetAngle
      aimDistance := aimDistance sight.target 48
      shoot := false
      interact := false
      reload := false }
    .force now

def downedBranch : Brain N (Option (BotIntent N)) :=
  if self.downed = some true then do
    setState fun state => { state with healingUntil := 0, grenadePhase := .idle }
    crawl world snapshot sessionId self now sight
  else pure none

/-- The enemy at whom the grenade is thrown. -/
def grenadeTarget (state : BotBrainState N) : Option (Target N) :=
  (sight.enemies.find? fun enemy => some enemy.player.sessionId = state.grenadeTargetSessionId).or sight.target

def grenadeAngle (target : Option (Target N)) : N :=
  target.elim sight.targetAngle fun target => angleTo self.x self.y target.player.x target.player.y

/-- An intent of the grenade branch. -/
def grenadeIntent (target : Option (Target N)) (moveAngle : N) (shoot : Bool) (equip : Option BotEquipIntent)
    (forceShootStart : Option Bool) : BotIntentWithoutMovement N where
  mode := .grenade
  moveAngle
  aimAngle := grenadeAngle self sight target
  aimDistance := aimDistance target 48
  shoot
  interact := false
  reload := false
  equip
  forceShootStart

/-- The pin is pulled. -/
def beginCooking (cookUntil : N) (state : BotBrainState N) : BotBrainState N :=
  { state with grenadePhase := .cook, grenadeCookUntil := cookUntil }

/-- The throw is over. -/
def endThrow (cooldownUntil : N) (state : BotBrainState N) : BotBrainState N :=
  { state with grenadePhase := .idle, grenadeCooldownUntil := cooldownUntil, grenadeTargetSessionId := none }

def enterPhase (phase : BotGrenadePhase) (state : BotBrainState N) : BotBrainState N :=
  { state with grenadePhase := phase }

def equipGrenade (target : Option (Target N)) : Brain N (Option (BotIntent N)) := do
  let state ← getState
  let aside := grenadeAngle self sight target + state.strafeSign.value * JsMath.pi / 2
  if state.grenadePhase = .equip then
    if self.activeSlot = some 3 ∧ isExplosiveThrowable world self.weapon then
      let drawn ← random
      setState (beginCooking (now + 720 + drawn * 420))
      conclude (grenadeIntent self sight target aside true none (some true)) .rhythm now
    else if target.isNone ∨ state.grenadeCookUntil ≤ now then
      setState (enterPhase .recover)
      pure none
    else
      conclude (grenadeIntent self sight target aside false (some .throwable) none) .rhythm now
  else pure none

def cookGrenade (target : Option (Target N)) : Brain N (Option (BotIntent N)) := do
  let state ← getState
  let aside := grenadeAngle self sight target + state.strafeSign.value * JsMath.pi / 2
  if state.grenadePhase = .cook then
    if target.isSome ∧ now < state.grenadeCookUntil then
      conclude (grenadeIntent self sight target aside true none none) .rhythm now
    else
      setState (enterPhase .release)
      conclude (grenadeIntent self sight target (grenadeAngle self sight target + JsMath.pi) false none none) .force now
  else pure none

/-- The end of a throw. -/
def finishThrow (target : Option (Target N)) : Brain N (Option (BotIntent N)) := do
  let drawn ← random
  setState (endThrow (now + 7000 + drawn * 5000))
  conclude
    (grenadeIntent self sight target (grenadeAngle self sight target + JsMath.pi) false (some .lastWeapon) none)
    .force now

/-- `if (state.grenadePhase === "recover")` -/
def recoverStep (target : Option (Target N)) : Brain N (Option (BotIntent N)) := do
  let state ← getState
  if state.grenadePhase = .recover then finishThrow self now sight target else pure none

def recoverGrenade (target : Option (Target N)) : Brain N (Option (BotIntent N)) := do
  setState fun state => if state.grenadePhase = .release then enterPhase .recover state else state
  recoverStep self now sight target

def grenadeBranch : Brain N (Option (BotIntent N)) := do
  let state ← getState
  let target := grenadeTarget sight state
  if state.grenadePhase = .idle then pure none
  else
    firstOf [equipGrenade world self now sight target, cookGrenade self now sight target,
      recoverGrenade self now sight target]

def unstuckBranch : Brain N (Option (BotIntent N)) := do
  let state ← getState
  if now < state.unstuckUntil then
    setState fun state => { state with healingUntil := 0 }
    conclude
      { mode := .unstuck
        moveAngle := state.wanderAngle
        aimAngle := sight.targetAngle
        aimDistance := aimDistance sight.target 48
        shoot := sight.shoot
        interact := sight.combatActions.interact
        reload := sight.combatActions.reload
        equip := sight.combatActions.equip }
      .force now
  else pure none

/-- The coordinates of a destination in the key of a route. -/
def roundedKey (values : List N) : String :=
  ":".intercalate (values.map fun value => JsMath.toText (JsMath.round value))

def edgeBranch : Brain N (Option (BotIntent N)) :=
  let edgeMargin := mapInteriorMargin snapshot
  if outsideMapInterior snapshot self edgeMargin then do
    let edgeDestination := mapInteriorDestination snapshot sessionId
    setState fun state =>
      { state with
        healingUntil := 0
        roamX := some edgeDestination.x
        roamY := some edgeDestination.y
        decisionUntil := JsMath.max state.decisionUntil (now + 1800) }
    let centerAngle ← navigateTo world snapshot self edgeDestination.x edgeDestination.y
      ("edge:" ++ roundedKey [edgeDestination.x, edgeDestination.y]) now
    let atHardEdge := outsideMapInterior snapshot self (edgeMargin * 0.35)
    conclude
      { mode := .edge
        moveAngle := movementWithSeparation world snapshot self centerAngle
        aimAngle := sight.targetAngle
        aimDistance := aimDistance sight.target 60
        shoot := sight.shoot
        interact := sight.combatActions.interact
        reload := sight.combatActions.reload
        equip := sight.combatActions.equip }
      (if atHardEdge then .force else .rhythm) now
  else pure none

def zoneBranch : Brain N (Option (BotIntent N)) :=
  let zone := snapshot.zone
  let zoneDistance := distance self.x self.y zone.x zone.y
  let shouldReturnToCurrentZone := 0 < zone.radius ∧ zone.radius * 0.78 < zoneDistance
  let nextZoneDistance := distance self.x self.y zone.nextX zone.nextY
  let shouldPrepositionForNextZone := ¬shouldReturnToCurrentZone ∧ 0 < zone.nextRadius ∧
    zone.nextRadius < zone.radius * 0.98 ∧ zone.nextRadius * 0.82 < nextZoneDistance
  if shouldReturnToCurrentZone ∨ shouldPrepositionForNextZone then do
    setState fun state => { state with healingUntil := 0 }
    let zoneX := if shouldReturnToCurrentZone then zone.x else zone.nextX
    let zoneY := if shouldReturnToCurrentZone then zone.y else zone.nextY
    let zoneRadius := if shouldReturnToCurrentZone then zone.radius else zone.nextRadius
    let safeDestination := distributedDestination sessionId
      (if shouldReturnToCurrentZone then "current-zone" else "next-zone") zoneX zoneY (zoneRadius * 0.58)
    let safeAngle ← navigateTo world snapshot self safeDestination.x safeDestination.y
      ("zone:" ++ roundedKey [zoneX, zoneY, zoneRadius]) now
    let outsideCurrentZone := 0 < zone.radius ∧ zone.radius < zoneDistance
    conclude
      { mode := .zone
        moveAngle := movementWithSeparation world snapshot self safeAngle
        aimAngle := sight.targetAngle
        aimDistance := aimDistance sight.target 60
        shoot := sight.shoot
        interact := sight.combatActions.interact
        reload := sight.combatActions.reload
        equip := sight.combatActions.equip }
      (if outsideCurrentZone then .force else .rhythm) now
  else pure none

/-- An enemy is so near that the bot does not heal. -/
def closeThreat : Bool :=
  let selfWeapon := weaponProfile world self.weapon
  let closeThreatDistance :=
    if selfWeapon.kind = .gun then JsMath.max 70 (JsMath.min 220 (selfWeapon.effectiveRange * 1.15)) else 70
  sight.enemies.head?.any fun nearestEnemy => nearestEnemy.distance ≤ closeThreatDistance

def grenadeOpportunity (state : BotBrainState N) : Bool :=
  sight.target.any fun target =>
    ¬(now < state.grenadeCooldownUntil ∨ self.throwableCount.getD 0 ≤ 0 ∨
        ¬isExplosiveThrowable world (self.throwableWeapon.getD "") ∨ target.distance < 24 ∨ 68 < target.distance ∨
        target.player.downed = some true) ∧
      (¬(allies snapshot sessionId self).any fun ally =>
        distance target.player.x target.player.y ally.player.x ally.player.y ≤ 28) ∧
      (2 ≤ (sight.enemies.filter fun enemy =>
          distance target.player.x target.player.y enemy.player.x enemy.player.y ≤ 24).length ∨
        ¬hasClearShot world snapshot self target.player)

/-- A throw begins: the bot takes the grenade in its hand. -/
def beginThrow (state : BotBrainState N) : BotBrainState N :=
  { state with
    grenadePhase := .equip
    grenadeCookUntil := now + 1600
    grenadeTargetSessionId := sight.target.map fun target => target.player.sessionId }

def throwBranch : Brain N (Option (BotIntent N)) := do
  let state ← getState
  if grenadeOpportunity world snapshot sessionId self now sight state then
    setState (beginThrow now sight)
    conclude
      { mode := .grenade
        moveAngle := sight.targetAngle + state.strafeSign.value * JsMath.pi / 2
        aimAngle := sight.targetAngle
        aimDistance := aimDistance sight.target 48
        shoot := false
        interact := false
        reload := false
        equip := some .throwable }
      .rhythm now
  else pure none

/-- The intent of a bot that heals, and the item it uses. -/
def healIntent (wanderAngle : N) (useItem : Option BotUseItemIntent) : BotIntentWithoutMovement N where
  mode := .heal
  moveAngle := wanderAngle
  aimAngle := sight.targetAngle
  aimDistance := aimDistance sight.target 48
  shoot := false
  interact := false
  reload := false
  useItem

/-- The bot uses an item, and waits until it may use another one. -/
def beginHealing (useItem : BotUseItemIntent) (wanderAngle healingUntil nextHealAt : N) :
    Brain N (Option (BotIntent N)) := do
  setState fun state => { state with healingUntil, nextHealAt }
  conclude (healIntent sight wanderAngle (some useItem)) .stop now

def healingBranch : Brain N (Option (BotIntent N)) := do
  let state ← getState
  if now < state.healingUntil ∧ ¬closeThreat world self sight then
    conclude (healIntent sight state.wanderAngle none) .stop now
  else
    setState fun state =>
      if closeThreat world self sight ∨ 90 ≤ self.health then { state with healingUntil := 0 } else state
    pure none

/-- The item against low health. -/
def medicine : Option BotUseItemIntent :=
  let bandages := self.bandages.getD 0
  let healthkits := self.healthkits.getD 0
  if self.health ≤ 32 ∧ 0 < healthkits then some .healthkit
  else if 0 < bandages then some .bandage
  else if 0 < healthkits then some .healthkit
  else none

def medicineBranch : Brain N (Option (BotIntent N)) := do
  let state ← getState
  if self.health < 68 ∧ ¬closeThreat world self sight ∧ state.nextHealAt ≤ now then
    (medicine self).elim
      (do
        setState fun state => { state with healingUntil := 0 }
        pure none)
      fun useItem =>
        beginHealing now sight useItem state.wanderAngle (now + if useItem = .healthkit then 6200 else 3200)
          (now + 10000)
  else pure none

/-- The item for a boost. -/
def booster : Option BotUseItemIntent :=
  if 0 < self.painkillers.getD 0 then some .painkiller else if 0 < self.sodas.getD 0 then some .soda else none

def boostBranch : Brain N (Option (BotIntent N)) := do
  let state ← getState
  if self.boost.getD 0 < 35 ∧ ¬closeThreat world self sight ∧ state.nextHealAt ≤ now then
    (booster self).elim (pure none) fun useItem =>
      beginHealing now sight useItem state.wanderAngle (now + if useItem = .painkiller then 5200 else 3200) (now + 8000)
  else pure none

def rescueBranch : Brain N (Option (BotIntent N)) :=
  let downedAlly := (allies snapshot sessionId self).find? fun ally => ally.player.downed = some true
  let exposedRescueThreat := sight.target.any fun target =>
    target.distance ≤ 150 ∧ hasClearShot world snapshot target.player self
  downedAlly.elim (pure none) fun downedAlly =>
    if exposedRescueThreat then pure none
    else do
      let rescueAngle ← navigateTo world snapshot self downedAlly.player.x downedAlly.player.y
        ("rescue:" ++ downedAlly.player.sessionId) now
      let canRevive := downedAlly.distance ≤ 5.5
      conclude
        { mode := .rescue
          moveAngle := movementWithSeparation world snapshot self rescueAngle
          aimAngle := sight.targetAngle
          aimDistance := aimDistance sight.target 48
          shoot := false
          interact := canRevive
          reload := false }
        (if canRevive then .stop else .force) now

/-! ### Crates and loot -/

def needsWeaponOrAmmo : Bool := weaponKind world self.weapon ≠ .gun ∨ self.ammo ≤ 0

def canBreakForLoot (lootTarget : Option (LootTarget N)) : Bool :=
  let personality : BotPersonality N := botPersonality sessionId
  let clearance :=
    if needsWeaponOrAmmo world self then 70
    else if 82 ≤ (lootTarget.map LootTarget.utility).getD 0 then 65 + personality.lootDrive * 28
    else 560 + personality.caution * 70
  sight.target.all fun target => clearance < target.distance

def shouldBreakCrate (breakableTarget : BreakableTarget N) (lootTarget : Option (LootTarget N)) : Bool :=
  let clearance : N := if needsWeaponOrAmmo world self then 110 else 240
  (sight.target.all fun target => clearance < target.distance) ∧
    lootTarget.all fun lootTarget =>
      lootTarget.utility < breakableTarget.utility + if needsWeaponOrAmmo world self then 48 else 22

/-- How far the crate's edge is. -/
def perimeterDistance (breakableTarget : BreakableTarget N) : N :=
  let obstacle := breakableTarget.obstacle
  JsMath.max 0 (breakableTarget.distance - JsMath.max obstacle.width obstacle.height / 2)

def canStrike (breakableTarget : BreakableTarget N) : Bool :=
  weaponKind world self.weapon = .melee ∧ perimeterDistance breakableTarget ≤ meleeAttackDistance

def breakCrate (breakableTarget : BreakableTarget N) : Brain N (Option (BotIntent N)) := do
  let obstacle := breakableTarget.obstacle
  let obstacleAngle := angleTo self.x self.y obstacle.x obstacle.y
  let shouldEquipMelee := weaponKind world self.weapon ≠ .melee ∧ perimeterDistance breakableTarget ≤ 22
  let approachDistance := JsMath.max obstacle.width obstacle.height / 2 + 2.8
  let moveAngle ← navigateTo world snapshot self (obstacle.x - JsMath.cos obstacleAngle * approachDistance)
    (obstacle.y - JsMath.sin obstacleAngle * approachDistance) ("break:" ++ toString obstacle.obstacleId) now
  let strikes := canStrike world self breakableTarget
  conclude
    { mode := .break
      moveAngle := movementWithSeparation world snapshot self moveAngle
      aimAngle := obstacleAngle
      aimDistance := JsMath.min 64 (JsMath.max 8 breakableTarget.distance)
      shoot := strikes
      interact := false
      reload := false
      equip := if shouldEquipMelee then some .melee else none
      forceShootStart := some strikes }
    (if strikes ∨ shouldEquipMelee then .stop else .force) now

def pickUpLoot (lootTarget : LootTarget N) : Brain N (Option (BotIntent N)) := do
  let lootAngle := angleTo self.x self.y lootTarget.loot.x lootTarget.loot.y
  let lootMoveAngle ← navigateTo world snapshot self lootTarget.loot.x lootTarget.loot.y
    ("loot:" ++ toString lootTarget.loot.lootId) now
  conclude
    { mode := .loot
      moveAngle := movementWithSeparation world snapshot self lootMoveAngle
      aimAngle := if sight.target.isSome then sight.targetAngle else lootAngle
      aimDistance := aimDistance sight.target (JsMath.min 64 (JsMath.max 12 lootTarget.distance))
      shoot := false
      interact := lootTarget.distance ≤ 1.8
      reload := false }
    .force now

def lootBranch : Brain N (Option (BotIntent N)) := do
  let lootTarget ← selectLootTarget world snapshot self sessionId now
  let breakableTarget ← selectBreakableTarget snapshot self sessionId now
  let crate := breakableTarget.filter fun breakableTarget =>
    shouldBreakCrate world self sight breakableTarget lootTarget
  let loot := lootTarget.filter fun _ => canBreakForLoot world sessionId self sight lootTarget
  crate.elim (loot.elim (pure none) (pickUpLoot world snapshot self now sight)) (breakCrate world snapshot self now)

/-! ### Enemies -/

def flankBranch : Brain N (Option (BotIntent N)) :=
  sight.target.elim (pure none) fun target =>
    if target.distance ≤ combatAwarenessDistance ∧ ¬hasClearShot world snapshot self target.player then do
      let waypoint ← selectFlankWaypoint world snapshot self target.player now
      waypoint.elim (pure none) fun waypoint => do
        let moveAngle ← navigateTo world snapshot self waypoint.x waypoint.y ("flank:" ++ target.player.sessionId) now
        conclude
          { mode := .flank
            moveAngle := movementWithSeparation world snapshot self moveAngle
            aimAngle := sight.targetAngle
            aimDistance := aimDistance sight.target 48
            shoot := false
            interact := sight.combatActions.interact
            reload := sight.combatActions.reload
            equip := sight.combatActions.equip }
          .force now
    else do
      setState forgetFlank
      pure none

def updateCombatFeint : Brain N Unit := do
  let personality : BotPersonality N := botPersonality sessionId
  let state ← getState
  if state.nextCombatFeintAt ≤ now then
    let drawnAngle ← random
    let drawnPause ← random
    setState fun state =>
      { state with
        combatFeintAngle := (drawnAngle - 0.5) * personality.orbitAngle * 0.8
        nextCombatFeintAt := now + (480 + drawnPause * 1750) * personality.cadenceScale }
  else pure ()

/-- The time of the next change of sides is drawn, and the sides are changed or not. -/
def planStrafeFlip (flip : Bool) : Brain N Unit := do
  let drawn ← random
  setState fun state =>
    { state with
      strafeSign := if flip then state.strafeSign.flip else state.strafeSign
      nextStrafeFlipAt := now + (420 + drawn * 1100) * (botPersonality sessionId).cadenceScale }

def updateStrafe : Brain N Unit := do
  let state ← getState
  if state.nextStrafeFlipAt ≤ 0 then planStrafeFlip sessionId now false
  else if state.nextStrafeFlipAt ≤ now then
    let drawn ← random
    planStrafeFlip sessionId now (drawn < 0.48 + (botPersonality sessionId).aggression * 0.2)
  else pure ()

/-- How a bot moves in combat. -/
structure CombatMovement (N : Type) where
  mode : BotIntentMode
  policy : MovementPolicy
  moveAngle : N

def styleRangeScale : CombatStyle → N
  | .breacher => 0.72
  | .marksman => 1.22
  | .flanker => 0.95

/-- The share of the preferred range within which a bot backs off. -/
def backOffScale (style : CombatStyle) : N := if style = .marksman then 0.88 else 0.62

/-- The movement of a bot with a gun. -/
def gunMovement (target : Target N) (state : BotBrainState N) : CombatMovement N :=
  let personality : BotPersonality N := botPersonality sessionId
  let selfWeapon := weaponProfile world self.weapon
  let underFire := now < state.underFireUntil
  let policy : MovementPolicy := if underFire then .force else .rhythm
  let strafe : N := state.strafeSign.value
  let preferredRange := selfWeapon.preferredRange * styleRangeScale personality.style * personality.preferredRangeScale
  let dodged := fun moveAngle => if underFire then moveAngle + strafe * 0.24 else moveAngle
  let angle := sight.targetAngle
  if self.health ≤ 28 ∧ target.distance ≤ JsMath.max 100 (selfWeapon.effectiveRange * 1.45) then
    { mode := .retreat, policy := .force, moveAngle := angle + (JsMath.pi + strafe * 0.18) }
  else if target.distance < preferredRange * backOffScale personality.style then
    { mode := .combat, policy, moveAngle := dodged (angle + JsMath.pi) }
  else if target.distance ≤ preferredRange * 1.3 then
    { mode := .combat, policy
      moveAngle := dodged (angle + (strafe * personality.orbitAngle + state.combatFeintAngle)) }
  else
    let weave := (if personality.style = .flanker then 0.2 else 0.08) + personality.aggression * 0.08
    { mode := .combat
      policy := if personality.style = .breacher then .force else policy
      moveAngle := dodged (angle + (strafe * weave + state.combatFeintAngle * 0.35)) }

def combatMovement (target : Target N) (state : BotBrainState N) : CombatMovement N :=
  if (weaponProfile world self.weapon).kind = .gun then gunMovement world sessionId self now sight target state
  else
    { mode := .combat
      policy := if now < state.underFireUntil then .force else .rhythm
      moveAngle := sight.targetAngle }

def combatBranch : Brain N (Option (BotIntent N)) :=
  sight.target.elim (pure none) fun target =>
    if target.distance ≤ combatAwarenessDistance then do
      updateCombatFeint sessionId now
      updateStrafe sessionId now
      let state ← getState
      let movement := combatMovement world sessionId self now sight target state
      let moveAngle ← steerAroundWalls world snapshot self movement.moveAngle now
      conclude
        { mode := movement.mode
          moveAngle := movementWithSeparation world snapshot self moveAngle
          aimAngle := sight.targetAngle
          aimDistance := aimDistance sight.target 48
          shoot := sight.shoot
          interact := sight.combatActions.interact
          reload := sight.combatActions.reload
          equip := sight.combatActions.equip }
        movement.policy now
    else pure none

def huntBranch : Brain N (Option (BotIntent N)) :=
  sight.target.elim (pure none) fun target => do
    let personality : BotPersonality N := botPersonality sessionId
    let waypoint ←
      (if sight.clearShot then pure none else selectFlankWaypoint world snapshot self target.player now)
    let state ← getState
    let huntX := (waypoint.map NavigationPoint.x).getD (state.targetLastSeenX.getD target.player.x)
    let huntY := (waypoint.map NavigationPoint.y).getD (state.targetLastSeenY.getD target.player.y)
    let goalKey := "hunt:" ++ target.player.sessionId ++ ":" ++ if waypoint.isSome then "flank" else "seen"
    let huntAngle ← navigateTo world snapshot self huntX huntY goalKey now
    let lean := state.strafeSign.value * personality.orbitAngle * if personality.style = .flanker then 0.08 else 0.025
    conclude
      { mode := .hunt
        moveAngle := movementWithSeparation world snapshot self (huntAngle + lean)
        aimAngle := sight.targetAngle
        aimDistance := aimDistance sight.target 64
        shoot := false
        interact := sight.combatActions.interact
        reload := sight.combatActions.reload
        equip := sight.combatActions.equip }
      (if weaponKind world self.weapon = .gun then .force else .rhythm) now

/-! ### Without an enemy -/

def wanderBranch : Brain N (BotIntent N) := do
  let destination ← updateRoamDestination snapshot self sessionId now
  let state ← getState
  let squad := allies snapshot sessionId self
  let followed := squad.head?.filter fun nearestAlly => squad.length ≤ 3 ∧ 260 < nearestAlly.distance
  let wanderAngle ← navigateTo world snapshot self (followed.elim destination.x fun ally => ally.player.x)
    (followed.elim destination.y fun ally => ally.player.y)
    (followed.elim ("roam:" ++ toString state.roamSequence) fun ally => "squad:" ++ ally.player.sessionId) now
  let lean := if followed.isSome then formationOffset sessionId else (botPersonality sessionId).roamBias * 0.05
  finishIntent
    { mode := .wander
      moveAngle := movementWithSeparation world snapshot self (wanderAngle + lean)
      aimAngle := sight.targetAngle
      aimDistance := aimDistance sight.target 48
      shoot := false
      interact := sight.combatActions.interact
      reload := sight.combatActions.reload
      equip := sight.combatActions.equip }
    .rhythm now

end Branches

/-! ### The decision -/

/-- The bot forgets what it was about. -/
def forgetWorld (state : BotBrainState N) : BotBrainState N :=
  { state with
    targetSessionId := none
    targetLockedUntil := 0
    targetLootId := none
    lootLockedUntil := 0
    healingUntil := 0
    lastHealth := none
    underFireUntil := 0
    flankTargetSessionId := none
    flankX := none
    flankY := none
    flankUntil := 0
    grenadePhase := .idle
    grenadeCookUntil := 0
    grenadeTargetSessionId := none
    targetBreakableId := none
    breakableLockedUntil := 0
    navigationGoalKey := none
    navigationWaypoints := []
    navigationWaypointIndex := 0
    targetMemoryUntil := 0 }

/-- A new direction is drawn when the last one is due. -/
def redecideWander (now least spread : N) : Brain N Unit := do
  let state ← getState
  if state.decisionUntil ≤ now then
    let drawnAngle ← random
    let drawnPause ← random
    setState fun state =>
      { state with wanderAngle := drawnAngle * JsMath.pi * 2, decisionUntil := now + least + drawnPause * spread }
  else pure ()

instance quiet_redecideWander {now least spread : N} : Quiet (redecideWander now least spread) := by
  unfold redecideWander
  refine .bind inferInstance fun state => ?_
  split
  · exact .bind inferInstance fun _ => .bind inferInstance fun _ => quiet_setState fun _ => ⟨rfl, rfl, rfl⟩
  · infer_instance

/-- What a bot does that is not in a fresh snapshot. -/
def decideAbsent (now : N) (actions : BotActions) : Brain N (BotIntent N) := do
  setState forgetWorld
  redecideWander now 550 500
  let state ← getState
  finishIntent
    { mode := .wander
      moveAngle := state.wanderAngle
      aimAngle := state.wanderAngle
      aimDistance := 48
      shoot := false
      interact := actions.interact
      reload := actions.reload }
    .rhythm now

/-- The branches behind the one of the grenades, in their order. -/
def laterBranches (snapshot : BotBrainSnapshot N) (sessionId : String) (self : BotBrainPlayer N) (now : N)
    (sight : Sight N) : Brain N (Option (BotIntent N)) :=
  firstOf [unstuckBranch now sight, edgeBranch world snapshot sessionId self now sight,
    zoneBranch world snapshot sessionId self now sight, throwBranch world snapshot sessionId self now sight,
    healingBranch world self now sight, medicineBranch world self now sight, boostBranch world self now sight,
    rescueBranch world snapshot sessionId self now sight, lootBranch world snapshot sessionId self now sight,
    flankBranch world snapshot self now sight, combatBranch world snapshot sessionId self now sight,
    huntBranch world snapshot sessionId self now sight]

/-- What a bot that sees does before it decides. -/
def prepare (snapshot : BotBrainSnapshot N) (sessionId : String) (self : BotBrainPlayer N) (now : N)
    (actions : BotActions) : Brain N (Sight N) := do
  updateStuckState world snapshot self now
  setState (noticeDamage self now)
  look world snapshot sessionId self now actions

/-- The decision of a bot that has looked around. -/
def decideSeen (snapshot : BotBrainSnapshot N) (sessionId : String) (self : BotBrainPlayer N) (now : N)
    (sight : Sight N) : Brain N (BotIntent N) := do
  let decided ← firstOf [downedBranch world snapshot sessionId self now sight, grenadeBranch world self now sight,
    laterBranches world snapshot sessionId self now sight]
  decided.elim (wanderBranch world snapshot sessionId self now sight) pure

/-- The decision of a bot that sees. -/
def decidePresent (snapshot : BotBrainSnapshot N) (sessionId : String) (self : BotBrainPlayer N) (now : N)
    (actions : BotActions) : Brain N (BotIntent N) := do
  let sight ← prepare world snapshot sessionId self now actions
  decideSeen world snapshot sessionId self now sight

def decideBotIntent (snapshot? : Option (BotBrainSnapshot N)) (sessionId : String) (now : N) :
    Brain N (BotIntent N) := do
  let actions ← periodicActions now
  (present snapshot? sessionId now).elim (decideAbsent now actions) fun (snapshot, self) =>
    decidePresent world snapshot sessionId self now actions

end Opsia.BotDecision
