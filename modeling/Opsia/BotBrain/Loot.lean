import Opsia.BotBrain.Steering

/-!
# What a bot collects and breaks

The loot a bot goes for and the crate it breaks.  Both are the best candidate of a list, or the one the bot has
already set its mind on while that is still in the list.  A crate that is selected can be destroyed, holds loot and is
not broken yet.
-/

namespace Opsia.BotDecision

open Effects

variable {N : Type} [JsMath N] (world : BotWorld N) (snapshot : BotBrainSnapshot N) (self : BotBrainPlayer N)

/-! ### The value of loot -/

structure LootGunSlot (N : Type) where
  weapon : String
  ammo : N
  reserve : N

/-- The guns in the slots, or the gun at hand where the slots have none. -/
def lootGunSlots : List (LootGunSlot N) :=
  let slots : List (LootGunSlot N) :=
    [{ weapon := self.primaryWeapon.getD "", ammo := self.primaryAmmo.getD 0, reserve := self.primaryReserve.getD 0 },
      { weapon := self.secondaryWeapon.getD ""
        ammo := self.secondaryAmmo.getD 0
        reserve := self.secondaryReserve.getD 0 }]
  let gunSlots := slots.filter fun slot => weaponKind world slot.weapon = .gun
  if gunSlots.isEmpty ∧ weaponKind world self.weapon = .gun then
    [{ weapon := self.weapon, ammo := self.ammo, reserve := 0 }]
  else gunSlots

/-- The value of a gun. -/
def gunUtility (type : String) : N :=
  let gunSlots := lootGunSlots world self
  let candidateProfile := weaponProfile world type
  if candidateProfile.kind ≠ .gun then 8
  else
    match gunSlots with
    | [] => 138
    | [_] => 118
    | first :: rest =>
      let powers := (first :: rest).map fun slot => (weaponProfile world slot.weapon).powerScore
      let weakestPower := (sortBy (fun power => power) powers).headD 0
      let upgradeRatio := candidateProfile.powerScore / JsMath.max 1 weakestPower
      if 1.35 ≤ upgradeRatio then 112 else if 1.12 ≤ upgradeRatio then 82 else 24

/-- The value of ammunition. -/
def ammoUtility (type : String) : N :=
  let matchingAmmoSlots := (lootGunSlots world self).filter fun slot =>
    (gunDefinition world slot.weapon).any fun definition => definition.ammo = type
  if matchingAmmoSlots.isEmpty then 14
  else
    let supply : N := matchingAmmoSlots.foldl (fun total slot => total + slot.ammo + slot.reserve) 0
    if supply < 20 then 128 else if supply < 60 then 96 else if supply < 120 then 58 else 22

def lootUtility (loot : BotBrainLoot N) : N :=
  if loot.kind = "gun" then gunUtility world self loot.type
  else if loot.kind = "ammo" then ammoUtility world self loot.type
  else if loot.kind = "heal" then
    if self.health < 45 then 122 else if self.bandages.getD 0 + self.healthkits.getD 0 < 2 then 82 else 30
  else if loot.kind = "chest" ∨ loot.kind = "helmet" then
    if self.armor < 35 then 92 else if self.armor < 70 then 56 else 18
  else if loot.kind = "backpack" ∨ loot.kind = "scope" then 48
  else if loot.kind = "boost" then if self.health < 80 ∨ self.boost.getD 0 < 35 then 58 else 28
  else if loot.kind = "melee" then if weaponKind world self.weapon = .gun then 20 else 38
  else if loot.kind = "throwable" then if self.throwableCount.getD 0 ≤ 1 then 58 else 30
  else 8

/-! ### Loot -/

def lootAffinity (sessionId : String) (lootId : ℕ) : N :=
  JsMath.literal ((stableHash (sessionId ++ ":" ++ toString lootId)).toNat % 13 : ℕ)

/-- The key of a cell of `lootGrid`. -/
def lootCellKey (cellX cellY : N) : String := JsMath.toText cellX ++ ":" ++ JsMath.toText cellY

/-- The bucket of a cell in `lootGrid`, in the order of the snapshot. -/
def lootBucket (key : String) : List (BotBrainLoot N) :=
  (snapshot.loot.getD []).filter fun loot =>
    lootCellKey (JsMath.floor (loot.x / 32)) (JsMath.floor (loot.y / 32)) = key

def nearbyLoot (loot : BotBrainLoot N) : List (BotBrainLoot N) :=
  let cellX := JsMath.floor (loot.x / 32)
  let cellY := JsMath.floor (loot.y / 32)
  let offsets : List N := [-1, 0, 1]
  offsets.flatMap fun xOffset => offsets.flatMap fun yOffset =>
    lootBucket snapshot (lootCellKey (cellX + xOffset) (cellY + yOffset))

/-- What the loot around a piece of loot adds to its value. -/
def clusterUtility (loot : BotBrainLoot N) : N :=
  (nearbyLoot snapshot loot).foldl
    (fun total nearby =>
      if nearby.lootId = loot.lootId ∨ 24 < distance loot.x loot.y nearby.x nearby.y then total
      else total + JsMath.max 0 (lootUtility world self nearby - 16) * 0.12)
    0

/-- The score of a candidate. -/
def lootScore (sessionId : String) (loot : BotBrainLoot N) (lootDistance utility : N) : N :=
  let personality := botPersonality sessionId
  let enemies := snapshot.players.filter fun player =>
    player.connected ∧ player.alive ∧ player.downed ≠ some true ∧ player.teamId ≠ self.teamId
  let nearestEnemyDistance := enemies.foldl
    (fun nearest enemy => JsMath.min nearest (distance loot.x loot.y enemy.x enemy.y)) JsMath.infinity
  let exposedPenalty :=
    if nearestEnemyDistance < 75 then (75 - nearestEnemyDistance) * 0.42 * personality.caution else 0
  let pathPenalty :=
    if world.segmentIsClear snapshot self.x self.y loot.x loot.y then 0 else 26 + lootDistance * 0.045
  utility * personality.lootDrive + JsMath.min 42 (clusterUtility world snapshot self loot) +
        lootAffinity sessionId loot.lootId -
      lootDistance * (0.075 + personality.caution * 0.035) -
    exposedPenalty - pathPenalty

/-- The loot within reach that is worth a way, the best first. -/
def lootCandidates (sessionId : String) : List (LootTarget N) :=
  let rated := (snapshot.loot.getD []).map fun loot =>
    let lootDistance := distance self.x self.y loot.x loot.y
    let utility := lootUtility world self loot
    { loot
      distance := lootDistance
      utility
      score := lootScore world snapshot self sessionId loot lootDistance utility : LootTarget N }
  sortDown LootTarget.score
    (rated.filter fun candidate => candidate.distance ≤ (botPersonality sessionId).lootRadius ∧ 20 ≤ candidate.utility)

def selectLootTarget (sessionId : String) (now : N) : Brain N (Option (LootTarget N)) := do
  let state ← getState
  let candidates := lootCandidates world snapshot self sessionId
  let locked :=
    if now < state.lootLockedUntil then
      candidates.find? fun candidate => some candidate.loot.lootId = state.targetLootId
    else none
  (locked.or candidates.head?).elim
    (do
      setState fun state => { state with targetLootId := none, lootLockedUntil := 0 }
      pure none)
    fun target => do
      setState fun state =>
        if some target.loot.lootId = state.targetLootId then state
        else
          { state with
            targetLootId := some target.loot.lootId
            lootLockedUntil := now + 850 + (botPersonality sessionId).caution * 450 }
      pure (some target)

instance quiet_selectLootTarget {sessionId : String} {now : N} :
    Quiet (selectLootTarget world snapshot self sessionId now) := by
  unfold selectLootTarget
  refine .bind inferInstance fun state => @moves_elim _ _ _ _ _ _ _ ?_ fun target => ?_
  · exact .bind (quiet_setState fun _ => ⟨rfl, rfl, rfl⟩) inferInstance
  · refine .bind (quiet_setState fun state => ?_) inferInstance
    split <;> exact ⟨rfl, rfl, rfl⟩

/-! ### Crates -/

/-- The crates within reach, the best first. -/
def breakableCandidates (sessionId : String) : List (BreakableTarget N) :=
  let personality : BotPersonality N := botPersonality sessionId
  let allies := snapshot.players.filter fun player =>
    player.connected ∧ player.alive ∧ player.sessionId ≠ sessionId ∧ player.teamId = self.teamId
  let breakable := (snapshot.obstacles.getD []).filter fun obstacle =>
    obstacle.destructible ∧ obstacle.containsLoot ∧ 0 < obstacle.health
  let rated := breakable.map fun obstacle =>
    let obstacleDistance := distance self.x self.y obstacle.x obstacle.y
    let competition := (allies.filter fun ally =>
      distance ally.x ally.y obstacle.x obstacle.y + 12 < obstacleDistance).length
    { obstacle
      distance := obstacleDistance
      utility := 104 + JsMath.min 24 (obstacle.health * 0.06) + lootAffinity sessionId obstacle.obstacleId * 1.8 -
          obstacleDistance * (0.22 + personality.caution * 0.04) -
        JsMath.literal competition * 34 : BreakableTarget N }
  sortDown BreakableTarget.utility
    (rated.filter fun candidate => candidate.distance ≤ JsMath.min 190 (personality.lootRadius * 0.55))

/-- The crate that `selectBreakableTarget` returns. -/
def chooseBreakable (sessionId : String) (now : N) (state : BotBrainState N) : Option (BreakableTarget N) :=
  let candidates := breakableCandidates snapshot self sessionId
  let locked :=
    if now < state.breakableLockedUntil then
      candidates.find? fun candidate => some candidate.obstacle.obstacleId = state.targetBreakableId
    else none
  (locked.or candidates.head?).filter fun target => ¬target.utility < 34

def selectBreakableTarget (sessionId : String) (now : N) : Brain N (Option (BreakableTarget N)) := do
  let state ← getState
  (chooseBreakable snapshot self sessionId now state).elim
    (do
      setState fun state => { state with targetBreakableId := none, breakableLockedUntil := 0 }
      pure none)
    fun target => do
      setState fun state =>
        if some target.obstacle.obstacleId = state.targetBreakableId then state
        else { state with targetBreakableId := some target.obstacle.obstacleId, breakableLockedUntil := now + 1700 }
      pure (some target)

instance quiet_selectBreakableTarget {sessionId : String} {now : N} :
    Quiet (selectBreakableTarget snapshot self sessionId now) := by
  unfold selectBreakableTarget
  refine .bind inferInstance fun state => @moves_elim _ _ _ _ _ _ _ ?_ fun target => ?_
  · exact .bind (quiet_setState fun _ => ⟨rfl, rfl, rfl⟩) inferInstance
  · refine .bind (quiet_setState fun state => ?_) inferInstance
    split <;> exact ⟨rfl, rfl, rfl⟩

/-- An obstacle of the snapshot that can be destroyed, holds loot and is not broken. -/
structure Breakable (obstacle : BotBrainObstacle N) : Prop where
  mem : obstacle ∈ snapshot.obstacles.getD []
  destructible : obstacle.destructible = true
  containsLoot : obstacle.containsLoot = true
  health : 0 < obstacle.health

private theorem breakableCandidates_mem {sessionId : String} {target : BreakableTarget N}
    (h : target ∈ breakableCandidates snapshot self sessionId) :
    Breakable snapshot target.obstacle ∧
      target.distance = distance self.x self.y target.obstacle.x target.obstacle.y := by
  have hrated := List.mem_of_mem_filter (mem_sortDown h)
  obtain ⟨obstacle, hobstacle, rfl⟩ := List.mem_map.mp hrated
  obtain ⟨hmem, hbreakable⟩ := List.mem_filter.mp hobstacle
  obtain ⟨hdestructible, hloot, hhealth⟩ := of_decide_eq_true hbreakable
  exact ⟨⟨hmem, hdestructible, hloot, hhealth⟩, rfl⟩

/-- What the bot breaks can be broken. -/
theorem selectBreakableTarget_fst {sessionId : String} {now : N} {memory : BotMemory N} {target : BreakableTarget N}
    (h : target ∈ (selectBreakableTarget snapshot self sessionId now memory).1) :
    Breakable snapshot target.obstacle ∧
      target.distance = distance self.x self.y target.obstacle.x target.obstacle.y := by
  have hfst : (selectBreakableTarget snapshot self sessionId now memory).1 =
      chooseBreakable snapshot self sessionId now memory.state := by
    change (((chooseBreakable snapshot self sessionId now memory.state).elim _ _ :
      Brain N (Option (BreakableTarget N))) memory).1 = _
    cases chooseBreakable snapshot self sessionId now memory.state <;> rfl
  rw [hfst] at h
  have hchosen := (Option.mem_filter_iff.mp h).1
  rcases Option.or_eq_some_iff.mp hchosen with hlocked | ⟨-, hbest⟩
  · split at hlocked
    · exact breakableCandidates_mem snapshot self (List.mem_of_find?_eq_some hlocked)
    · cases hlocked
  · exact breakableCandidates_mem snapshot self (List.mem_of_mem_head? hbest)

end Opsia.BotDecision
