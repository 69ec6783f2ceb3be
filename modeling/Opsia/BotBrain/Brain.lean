import Mathlib.Data.List.Sort
import Opsia.BotBrain.OpenList
import Opsia.Json.Record

/-!
# The brain of a bot

What a bot sees (`BotBrainSnapshot`), what it keeps between two decisions (`BotBrainState`) and what it decides
(`BotIntent`), and the helpers of the decision.  The helpers change the state and draw random values, so they are
programs over the state and the draws that are left.  Numbers are those of any `JsMath`, without laws; the queries of
the map and the table of the definitions are parameters (`BotWorld`).
-/

namespace Opsia.BotDecision

open Json

/-! ### Numbers and definitions -/

/-- Numbers with the operations and the functions of `Math` that the brain computes with. -/
class JsMath (N : Type) extends Comparisons N, Add N, Sub N, Mul N, Div N, Neg N where
  literal : ℚ → N
  infinity : N
  pi : N
  abs : N → N
  sqrt : N → N
  log2 : N → N
  sign : N → N
  floor : N → N
  round : N → N
  cos : N → N
  sin : N → N
  atan2 : N → N → N
  hypot : N → N → N
  min : N → N → N
  max : N → N → N
  isFinite : N → Bool
  toText : N → String

/-! Literals and comparisons are written as in the source. -/

section Notations

variable {N : Type} [JsMath N]

scoped instance (priority := low) jsLiteral (n : ℕ) : OfNat N n := ⟨JsMath.literal n⟩

scoped instance (priority := low) jsDecimal : OfScientific N :=
  ⟨fun mantissa negative exponent => JsMath.literal (OfScientific.ofScientific mantissa negative exponent)⟩

scoped instance (priority := low) jsLess : LT N := ⟨fun a b => Comparisons.lt a b = true⟩

scoped instance (priority := low) jsAtMost : LE N := ⟨fun a b => Comparisons.le a b = true⟩

instance (priority := low) jsDecidableLess (a b : N) : Decidable (a < b) :=
  inferInstanceAs (Decidable (Comparisons.lt a b = true))

instance (priority := low) jsDecidableAtMost (a b : N) : Decidable (a ≤ b) :=
  inferInstanceAs (Decidable (Comparisons.le a b = true))

end Notations

section Definitions

variable (N : Type)

inductive FireMode
  | single
  | burst
  | auto
deriving DecidableEq

structure GunDef where
  bulletType : String
  ammo : String
  bulletCount : N
  fireDelay : N
  maxClip : N
  reloadTime : N
  reloadTimeAlt : Option N
  fireMode : FireMode

structure BulletDef where
  distance : N
  speed : N
  damage : N

/-- A definition of `GameObjectDefs`, as far as the brain asks. -/
inductive GameObjectDef
  | gun (definition : GunDef N)
  | bullet (definition : BulletDef N)
  | melee
  | throwable
  | other

/-! ### What a bot sees -/

structure BotBrainPlayer where
  sessionId : String
  teamId : ℕ
  x : N
  y : N
  vx : N
  vy : N
  alive : Bool
  connected : Bool
  health : N
  armor : N
  weapon : String
  ammo : N
  bandages : Option N
  healthkits : Option N
  sodas : Option N
  painkillers : Option N
  boost : Option N
  downed : Option Bool
  activeSlot : Option ℕ
  primaryWeapon : Option String
  primaryAmmo : Option N
  primaryReserve : Option N
  secondaryWeapon : Option String
  secondaryAmmo : Option N
  secondaryReserve : Option N
  throwableWeapon : Option String
  throwableCount : Option N
  isBot : Option Bool
  indoors : Option Bool

structure BotBrainObstacle where
  obstacleId : ℕ
  x : N
  y : N
  width : N
  height : N
  destructible : Bool
  containsLoot : Bool
  health : N

structure BotBrainLoot where
  lootId : ℕ
  type : String
  kind : String
  x : N
  y : N

/-- An object of the map that blocks the way. -/
structure BotBrainMapObstacle where
  x : N
  y : N
  width : N
  height : N

structure BotBrainZone where
  x : N
  y : N
  radius : N
  nextX : N
  nextY : N
  nextRadius : N

structure BotBrainSnapshot where
  capturedAt : N
  mapWidth : N
  mapHeight : N
  zone : BotBrainZone N
  loot : Option (List (BotBrainLoot N))
  obstacles : Option (List (BotBrainObstacle N))
  players : List (BotBrainPlayer N)

structure NavigationPoint where
  x : N
  y : N

/-- What the brain asks of the definitions and of the map; the answers depend on the snapshot only. -/
structure BotWorld where
  typeToDefSafe : String → Option (GameObjectDef N)
  segmentIsClear : BotBrainSnapshot N → (ax ay bx «by» : N) → Bool
  segmentIsNavigable : BotBrainSnapshot N → (ax ay bx «by» : N) → Bool
  rayClearance : BotBrainSnapshot N → BotBrainPlayer N → (angle maxDistance : N) → N
  firstBlockingObstacle : BotBrainSnapshot N → BotBrainPlayer N → BotBrainPlayer N → Option (BotBrainMapObstacle N)
  planNavigationPath : BotBrainSnapshot N → (startX startY goalX goalY : N) → List (NavigationPoint N)

/-! ### What a bot decides and keeps -/

inductive BotIntentMode
  | wander
  | loot
  | break
  | hunt
  | combat
  | flank
  | retreat
  | rescue
  | downed
  | grenade
  | zone
  | edge
  | unstuck
  | heal
deriving DecidableEq

inductive BotEquipIntent
  | otherGun
  | primary
  | secondary
  | melee
  | throwable
  | lastWeapon
deriving DecidableEq

inductive BotUseItemIntent
  | bandage
  | healthkit
  | soda
  | painkiller
deriving DecidableEq

inductive BotMovementPhase
  | travel
  | rest
deriving DecidableEq

inductive BotGrenadePhase
  | idle
  | equip
  | cook
  | release
  | recover
deriving DecidableEq

/-- `-1 | 1` -/
inductive BotSign
  | minus
  | plus
deriving DecidableEq

structure BotBrainState where
  wanderAngle : N
  decisionUntil : N
  strafeSign : BotSign
  movementPhase : BotMovementPhase
  movementPhaseUntil : N
  lastMovementCommanded : Bool
  lastMoveAngle : Option N
  lastSnapshotAt : N
  lastX : Option N
  lastY : Option N
  stuckSamples : ℕ
  unstuckUntil : N
  nextInteractAt : N
  targetSessionId : Option String
  targetLockedUntil : N
  targetLootId : Option ℕ
  lootLockedUntil : N
  nextStrafeFlipAt : N
  emptyAmmoWeapon : Option String
  emptyAmmoSince : N
  nextReloadAt : N
  nextWeaponSwapAt : N
  healingUntil : N
  nextHealAt : N
  avoidanceSign : BotSign
  avoidanceUntil : N
  lastHealth : Option N
  underFireUntil : N
  flankTargetSessionId : Option String
  flankX : Option N
  flankY : Option N
  flankUntil : N
  nextWeaponEvaluationAt : N
  nextBurstAt : N
  burstUntil : N
  nextCombatFeintAt : N
  combatFeintAngle : N
  grenadePhase : BotGrenadePhase
  grenadeCookUntil : N
  grenadeCooldownUntil : N
  grenadeTargetSessionId : Option String
  targetBreakableId : Option ℕ
  breakableAttackUntil : N
  breakableLockedUntil : N
  navigationGoalKey : Option String
  navigationWaypoints : List (NavigationPoint N)
  navigationWaypointIndex : ℕ
  navigationReplanAt : N
  roamX : Option N
  roamY : Option N
  roamSequence : ℕ
  targetLastSeenX : Option N
  targetLastSeenY : Option N
  targetMemoryUntil : N

structure BotIntentWithoutMovement where
  mode : BotIntentMode
  moveAngle : N
  aimAngle : N
  aimDistance : N
  shoot : Bool
  interact : Bool
  reload : Bool
  equip : Option BotEquipIntent := none
  useItem : Option BotUseItemIntent := none
  forceShootStart : Option Bool := none

structure BotIntent extends BotIntentWithoutMovement N where
  moving : Bool

inductive MovementPolicy
  | rhythm
  | force
  | stop
deriving DecidableEq

structure Target where
  player : BotBrainPlayer N
  distance : N

structure LootTarget where
  loot : BotBrainLoot N
  distance : N
  utility : N
  score : N

structure BreakableTarget where
  obstacle : BotBrainObstacle N
  distance : N
  utility : N

/-- The state of a bot, and the values that `random` is going to return. -/
structure BotMemory where
  state : BotBrainState N
  random : ℕ → N

end Definitions

/-! ### Reading, writing and drawing -/

/-- A program of the brain: it reads and writes the state and draws random values. -/
abbrev Brain (N : Type) := StateM (BotMemory N)

section Helpers

variable {N : Type}

def getState : Brain N (BotBrainState N) := fun memory => (memory.state, memory)

def setState (f : BotBrainState N → BotBrainState N) : Brain N Unit :=
  fun memory => ((), { memory with state := f memory.state })

def random : Brain N N :=
  fun memory => (memory.random 0, { memory with random := fun k => memory.random (k + 1) })

/-- `sign === 1 ? -1 : 1` -/
def BotSign.flip : BotSign → BotSign
  | .minus => .plus
  | .plus => .minus

/-- `phase === "travel" ? "rest" : "travel"` -/
def BotMovementPhase.flip : BotMovementPhase → BotMovementPhase
  | .travel => .rest
  | .rest => .travel

variable [JsMath N]

/-- `a === b` -/
def same (a b : N) : Prop := a ≤ b ∧ b ≤ a

instance (a b : N) : Decidable (same a b) := inferInstanceAs (Decidable (a ≤ b ∧ b ≤ a))

def BotSign.value : BotSign → N
  | .minus => -1
  | .plus => 1

def distance (ax ay bx «by» : N) : N := JsMath.hypot (bx - ax) («by» - ay)

def angleTo (ax ay bx «by» : N) : N := JsMath.atan2 («by» - ay) (bx - ax)

def snapshotFreshnessMs : N := 2000

def targetLockMinMs : N := 1000

def targetLockJitterMs : N := 800

def meleeAttackDistance : N := 5.5

def combatAwarenessDistance : N := 520

/-- `sort((left, right) => key(left) - key(right))` -/
def sortBy {α : Type} (key : α → N) (items : List α) : List α :=
  items.insertionSort fun left right => ¬0 < key left - key right

/-- `sort((left, right) => key(right) - key(left))` -/
def sortDown {α : Type} (key : α → N) (items : List α) : List α :=
  items.insertionSort fun left right => ¬0 < key right - key left

theorem mem_sortBy {α : Type} {key : α → N} {items : List α} {a : α} (h : a ∈ sortBy key items) : a ∈ items :=
  (List.perm_insertionSort _ items).mem_iff.mp h

theorem mem_sortDown {α : Type} {key : α → N} {items : List α} {a : α} (h : a ∈ sortDown key items) : a ∈ items :=
  (List.perm_insertionSort _ items).mem_iff.mp h

def createBotBrainState (random : ℕ → N) : BotBrainState N where
  wanderAngle := random 0 * JsMath.pi * 2
  decisionUntil := 0
  strafeSign := if random 1 < 0.5 then .minus else .plus
  movementPhase := .travel
  movementPhaseUntil := 0
  lastMovementCommanded := false
  lastMoveAngle := none
  lastSnapshotAt := 0
  lastX := none
  lastY := none
  stuckSamples := 0
  unstuckUntil := 0
  nextInteractAt := 0
  targetSessionId := none
  targetLockedUntil := 0
  targetLootId := none
  lootLockedUntil := 0
  nextStrafeFlipAt := 0
  emptyAmmoWeapon := none
  emptyAmmoSince := 0
  nextReloadAt := 0
  nextWeaponSwapAt := 0
  healingUntil := 0
  nextHealAt := 0
  avoidanceSign := if random 2 < 0.5 then .minus else .plus
  avoidanceUntil := 0
  lastHealth := none
  underFireUntil := 0
  flankTargetSessionId := none
  flankX := none
  flankY := none
  flankUntil := 0
  nextWeaponEvaluationAt := 0
  nextBurstAt := 0
  burstUntil := 0
  nextCombatFeintAt := 0
  combatFeintAngle := 0
  grenadePhase := .idle
  grenadeCookUntil := 0
  grenadeCooldownUntil := 0
  grenadeTargetSessionId := none
  targetBreakableId := none
  breakableAttackUntil := 0
  breakableLockedUntil := 0
  navigationGoalKey := none
  navigationWaypoints := []
  navigationWaypointIndex := 0
  navigationReplanAt := 0
  roamX := none
  roamY := none
  roamSequence := 0
  targetLastSeenX := none
  targetLastSeenY := none
  targetMemoryUntil := 0

/-! ### Personality -/

def stableHash (value : String) : BitVec 32 :=
  (utf16 value).foldl (fun hash code => (hash ^^^ BitVec.ofNat 32 code) * 16777619) 2166136261

def hashUnit (sessionId trait : String) : N :=
  JsMath.literal (stableHash (sessionId ++ ":" ++ trait)).toNat / 0xffffffff

inductive CombatStyle
  | breacher
  | flanker
  | marksman
deriving DecidableEq

structure BotPersonality (N : Type) where
  style : CombatStyle
  aggression : N
  caution : N
  lootDrive : N
  lootRadius : N
  preferredRangeScale : N
  orbitAngle : N
  cadenceScale : N
  roamBias : N

/-- `botPersonality`; the cache keeps what is computed here. -/
def botPersonality (sessionId : String) : BotPersonality N where
  style :=
    match (stableHash sessionId).toNat % 3 with
    | 0 => .breacher
    | 1 => .flanker
    | _ => .marksman
  aggression := 0.78 + hashUnit sessionId "aggression" * 0.58
  caution := 0.72 + hashUnit sessionId "caution" * 0.58
  lootDrive := 0.82 + hashUnit sessionId "loot-drive" * 0.62
  lootRadius := 280 + hashUnit sessionId "loot-radius" * 240
  preferredRangeScale := 0.78 + hashUnit sessionId "range" * 0.5
  orbitAngle := JsMath.pi * (0.34 + hashUnit sessionId "orbit" * 0.4)
  cadenceScale := 0.68 + hashUnit sessionId "cadence" * 0.82
  roamBias := (hashUnit sessionId "roam" - 0.5) * JsMath.pi * 0.62

/-- `formationOffset`, with a hash of its own. -/
def formationOffset (sessionId : String) : N :=
  let hash := (utf16 sessionId).foldl (fun (hash : BitVec 32) code => hash * 31 + BitVec.ofNat 32 code) 0
  (JsMath.literal (hash.toInt.natAbs % 1001 : ℕ) / 1000 - 0.5) * 0.36

/-! ### Weapons -/

variable (world : BotWorld N)

inductive WeaponKind
  | gun
  | melee
  | other
deriving DecidableEq

/-- The definition of a weapon, if it is a gun. -/
def gunDefinition (weapon : String) : Option (GunDef N) :=
  match world.typeToDefSafe weapon with
  | some (.gun definition) => some definition
  | _ => none

/-- The definition of a bullet. -/
def bulletDefinition (bulletType : String) : Option (BulletDef N) :=
  match world.typeToDefSafe bulletType with
  | some (.bullet definition) => some definition
  | _ => none

/-- `definition?.type === "melee" || weapon === "fists"` -/
def isMelee (weapon : String) : Bool :=
  match world.typeToDefSafe weapon with
  | some .melee => true
  | _ => weapon = "fists"

def weaponKind (weapon : String) : WeaponKind :=
  if (gunDefinition world weapon).isSome then .gun else if isMelee world weapon then .melee else .other

structure WeaponProfile (N : Type) where
  kind : WeaponKind
  effectiveRange : N
  preferredRange : N
  projectileSpeed : N
  powerScore : N
  maxClip : N

/-- The profile of a gun. -/
def gunProfile (definition : GunDef N) : WeaponProfile N :=
  let bullet := bulletDefinition world definition.bulletType
  let bulletDistance := (bullet.map BulletDef.distance).getD 100
  let projectileSpeed := (bullet.map BulletDef.speed).getD 85
  let bulletDamage := (bullet.map BulletDef.damage).getD 10
  let effectiveRange := JsMath.min 360 (JsMath.max 18 bulletDistance)
  let sustainedDamage := bulletDamage * definition.bulletCount / JsMath.max 0.05 definition.fireDelay
  { kind := .gun
    effectiveRange
    preferredRange := effectiveRange * if 1 < definition.bulletCount then 0.62 else 0.68
    projectileSpeed
    powerScore := sustainedDamage * JsMath.sqrt effectiveRange
    maxClip := JsMath.max 1 definition.maxClip }

def weaponProfile (weapon : String) : WeaponProfile N :=
  match gunDefinition world weapon with
  | some definition => gunProfile world definition
  | none =>
    if isMelee world weapon then
      { kind := .melee
        effectiveRange := meleeAttackDistance
        preferredRange := meleeAttackDistance * 0.72
        projectileSpeed := JsMath.infinity
        powerScore := 1
        maxClip := 0 }
    else
      { kind := .other
        effectiveRange := 0
        preferredRange := 0
        projectileSpeed := JsMath.infinity
        powerScore := 0
        maxClip := 0 }

/-- `weapon` contains the text, in any case of its letters. -/
def containsText (weapon text : String) : Bool :=
  (weapon.toList.map Char.toLower).tails.any text.toList.isPrefixOf

def isExplosiveThrowable (weapon : String) : Bool :=
  match world.typeToDefSafe weapon with
  | some .throwable =>
    !(containsText weapon "smoke" || containsText weapon "sensor" || containsText weapon "snowball")
  | _ => false

end Helpers

end Opsia.BotDecision
