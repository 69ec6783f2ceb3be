import Opsia.BotBrain.Steering

/-!
# The weapons and the targets of a bot

What a bot does with its weapons: when it reloads and swaps them, whether it can shoot its target, the bursts of a
gun, and which enemy is its target.  The choice of the target is a function of what the bot remembers
(`chooseTarget`); the draws decide only for how long the target is kept.
-/

namespace Opsia.BotDecision

open Effects

variable {N : Type} [JsMath N] (world : BotWorld N) (self : BotBrainPlayer N)

/-! ### Reloading and swapping -/

omit self in
/-- A melee weapon reaches as far as any other. -/
theorem weaponProfile_melee {weapon : String} (h : (weaponProfile world weapon).kind = .melee) :
    (weaponProfile world weapon).effectiveRange = meleeAttackDistance := by
  unfold weaponProfile at h ⊢
  split at h
  · cases h
  · split at h
    · rename_i hmelee
      rw [if_pos hmelee]
    · cases h

def reloadGraceMs (weapon : String) : N :=
  match gunDefinition world weapon with
  | none => 2800
  | some definition =>
    let longestReloadSeconds := JsMath.max definition.reloadTime (definition.reloadTimeAlt.getD 0)
    JsMath.max 2800 (longestReloadSeconds * 1000 + 750)

structure TacticalGunSlot (N : Type) where
  slot : ℕ
  equip : BotEquipIntent
  weapon : String
  ammo : N
  reserve : N

def tacticalGunSlots : List (TacticalGunSlot N) :=
  let slots : List (TacticalGunSlot N) :=
    [{ slot := 0
       equip := .primary
       weapon := self.primaryWeapon.getD ""
       ammo := self.primaryAmmo.getD 0
       reserve := self.primaryReserve.getD 0 },
      { slot := 1
        equip := .secondary
        weapon := self.secondaryWeapon.getD ""
        ammo := self.secondaryAmmo.getD 0
        reserve := self.secondaryReserve.getD 0 }]
  slots.filter fun slot => weaponKind world slot.weapon = .gun ∧ 0 < slot.ammo + slot.reserve

def weaponRangeScore (weapon : String) (targetDistance : N) : N :=
  let profile := weaponProfile world weapon
  if profile.kind = .gun then
    let beyondRangePenalty :=
      if profile.effectiveRange < targetDistance then (targetDistance - profile.effectiveRange) * 7 else 0
    let rangeFit := 180 - JsMath.abs (targetDistance - profile.preferredRange) * 0.55
    rangeFit + JsMath.log2 (JsMath.max 2 profile.powerScore) * 18 - beyondRangePenalty
  else
    -JsMath.infinity

/-- The gun that is worth a swap at this distance, if there is one. -/
def betterGun (targetDistance : N) : Option BotEquipIntent :=
  let score := fun (slot : TacticalGunSlot N) => weaponRangeScore world slot.weapon targetDistance
  match sortDown score (tacticalGunSlots world self) with
  | [] => none
  | best :: _ =>
    let currentScore := weaponRangeScore world self.weapon targetDistance
    let activeEmpty := self.ammo ≤ 0 ∧ (self.activeSlot = some 0 ∨ self.activeSlot = some 1)
    if some best.slot = self.activeSlot then none
    else if weaponKind world self.weapon ≠ .gun ∨ activeEmpty ∨ currentScore + 18 < score best then some best.equip
    else none

def preferredGunEquip (targetDistance : Option N) (now : N) : Brain N (Option BotEquipIntent) := do
  let state ← getState
  targetDistance.elim (pure none) fun targetDistance =>
    if now < state.nextWeaponEvaluationAt ∨ now < state.nextWeaponSwapAt then pure none
    else do
      setState fun state => { state with nextWeaponEvaluationAt := now + 450 }
      (betterGun world self targetDistance).elim (pure none) fun equip => do
        setState fun state => { state with nextWeaponSwapAt := now + 800 }
        pure (some equip)

instance quiet_preferredGunEquip {targetDistance : Option N} {now : N} :
    Quiet (preferredGunEquip world self targetDistance now) := by
  have hevaluated :
      Quiet (setState fun state : BotBrainState N => { state with nextWeaponEvaluationAt := now + 450 }) :=
    quiet_setState fun _ => ⟨rfl, rfl, rfl⟩
  have hswapped : Quiet (setState fun state : BotBrainState N => { state with nextWeaponSwapAt := now + 800 }) :=
    quiet_setState fun _ => ⟨rfl, rfl, rfl⟩
  unfold preferredGunEquip
  infer_instance

/-- What `weaponActions` decides. -/
structure WeaponActions where
  reload : Bool
  equip : Option BotEquipIntent := none

/-- A gun without ammunition is reloaded, and put away when reloading takes too long. -/
def emptyGunActions (now : N) : Brain N WeaponActions := do
  setState fun state =>
    if state.emptyAmmoWeapon = some self.weapon then state
    else { state with emptyAmmoWeapon := some self.weapon, emptyAmmoSince := now, nextReloadAt := now }
  let state ← getState
  if reloadGraceMs world self.weapon ≤ now - state.emptyAmmoSince ∧ state.nextWeaponSwapAt ≤ now then
    setState fun state =>
      { state with emptyAmmoSince := now, nextReloadAt := now + 300, nextWeaponSwapAt := now + 1800 }
    pure { reload := false, equip := some .otherGun }
  else if state.nextReloadAt ≤ now then
    setState fun state => { state with nextReloadAt := now + 900 }
    pure { reload := true }
  else
    pure { reload := false }

/-- The ammunition is low and no enemy is in range. -/
def reloadsEarly (targetDistance : Option N) : Bool :=
  let profile := weaponProfile world self.weapon
  weaponKind world self.weapon = .gun ∧
    self.ammo ≤ JsMath.max 2 (JsMath.floor (profile.maxClip * 0.2)) ∧
    targetDistance.all fun targetDistance => profile.effectiveRange * 0.9 < targetDistance

/-- Low ammunition is replenished early, and another gun is taken where no enemy is close. -/
def otherWeaponActions (targetDistance : Option N) (now : N) : Brain N WeaponActions := do
  setState fun state => { state with emptyAmmoWeapon := none, emptyAmmoSince := 0 }
  let state ← getState
  if reloadsEarly world self targetDistance ∧ state.nextReloadAt ≤ now then
    setState fun state => { state with nextReloadAt := now + 2400 }
    pure { reload := true }
  else if weaponKind world self.weapon ≠ .gun ∧ state.nextWeaponSwapAt ≤ now ∧
      targetDistance.all fun targetDistance => meleeAttackDistance < targetDistance then
    setState fun state => { state with nextWeaponSwapAt := now + 1800 }
    pure { reload := false, equip := some .otherGun }
  else
    pure { reload := false }

def weaponActions (targetDistance : Option N) (now : N) : Brain N WeaponActions := do
  let tacticalEquip ← preferredGunEquip world self targetDistance now
  if tacticalEquip.isSome then pure { reload := false, equip := tacticalEquip }
  else if weaponKind world self.weapon = .gun ∧ self.ammo ≤ 0 then emptyGunActions world self now
  else otherWeaponActions world self targetDistance now

instance quiet_emptyGunActions {now : N} : Quiet (emptyGunActions world self now) := by
  unfold emptyGunActions
  refine .bind (quiet_setState fun state => ?_) fun _ => .bind inferInstance fun state => ?_
  · split <;> exact ⟨rfl, rfl, rfl⟩
  · split
    · exact .bind (quiet_setState fun _ => ⟨rfl, rfl, rfl⟩) inferInstance
    · split
      · exact .bind (quiet_setState fun _ => ⟨rfl, rfl, rfl⟩) inferInstance
      · infer_instance

instance quiet_otherWeaponActions {targetDistance : Option N} {now : N} :
    Quiet (otherWeaponActions world self targetDistance now) := by
  unfold otherWeaponActions
  refine .bind (quiet_setState fun _ => ⟨rfl, rfl, rfl⟩) fun _ => .bind inferInstance fun state => ?_
  split
  · exact .bind (quiet_setState fun _ => ⟨rfl, rfl, rfl⟩) inferInstance
  · split
    · exact .bind (quiet_setState fun _ => ⟨rfl, rfl, rfl⟩) inferInstance
    · infer_instance

instance quiet_weaponActions {targetDistance : Option N} {now : N} :
    Quiet (weaponActions world self targetDistance now) := by
  unfold weaponActions
  infer_instance

/-! ### Firing -/

def canShootTarget (target : Option (Target N)) : Bool :=
  match target with
  | none => false
  | some target =>
    let profile := weaponProfile world self.weapon
    match profile.kind with
    | .gun => 0 < self.ammo ∧ target.distance ≤ profile.effectiveRange
    | .melee => target.distance ≤ meleeAttackDistance
    | .other => false

/-- How long a burst lasts. -/
def burstDuration (fireMode : FireMode) (drawn : N) : N :=
  match fireMode with
  | .burst => 260 + drawn * 540
  | .single => 120 + drawn * 220
  | .auto => 300 + drawn * 500

/-- How long the pause behind a burst lasts. -/
def pauseDuration (fireMode : FireMode) (drawn : N) : N :=
  match fireMode with
  | .single => 450 + drawn * 1550
  | .burst => 350 + drawn * 1250
  | .auto => 400 + drawn * 1600

def controlledGunFire (weapon : String) (now : N) : Brain N Bool :=
  (gunDefinition world weapon).elim (pure false) fun definition => do
    let state ← getState
    if now < state.burstUntil then
      pure true
    else if now < state.nextBurstAt then
      pure false
    else
      let drawnBurst ← random
      let drawnPause ← random
      let burstUntil := now + burstDuration definition.fireMode drawnBurst
      setState fun state =>
        { state with burstUntil, nextBurstAt := burstUntil + pauseDuration definition.fireMode drawnPause }
      pure true

def controlledFire (target : Option (Target N)) (clearShot : Bool) (now : N) : Brain N Bool :=
  if !clearShot ∨ !canShootTarget world self target then pure false
  else if target.isNone ∨ (gunDefinition world self.weapon).isNone then pure true
  else controlledGunFire world self.weapon now

/-! ### Targets -/

/-- The score of an enemy; the lowest has priority. -/
def targetScore (candidate : Target N) : N :=
  candidate.distance - (100 - JsMath.max 0 candidate.player.health) * 0.42 -
      (if weaponKind world candidate.player.weapon = .gun ∧ 0 < candidate.player.ammo then 14 else 0) -
    if candidate.player.isBot = some false then 52 else 0

/-- The one of lower score, the first one where the scores are equal. -/
def preferTarget (best : Option (Target N)) (candidate : Target N) : Option (Target N) :=
  match best with
  | none => some candidate
  | some best => if targetScore world candidate < targetScore world best then some candidate else some best

/-- The first enemy of the lowest score. -/
def priorityTarget (enemies : List (Target N)) : Option (Target N) := enemies.foldl (preferTarget world) none

/-- The enemy on which the bot has set its mind. -/
def lockedTarget (enemies : List (Target N)) (attention : Attention N) (now : N) : Option (Target N) :=
  if now < attention.targetLockedUntil then
    enemies.find? fun enemy => some enemy.player.sessionId = attention.targetSessionId
  else none

/-- The nearest enemy is a threat and the bot has set its mind on another one. -/
def immediateThreat (nearest locked : Option (Target N)) : Bool :=
  match nearest, locked with
  | some nearest, some locked => nearest.distance < 70 ∨ nearest.distance < locked.distance * 0.55
  | _, _ => false

/-- The first human that is near enough. -/
def humanOpportunity (enemies : List (Target N)) (locked : Option (Target N)) : Option (Target N) :=
  enemies.find? fun enemy =>
    enemy.player.isBot = some false ∧ locked.all fun locked => enemy.distance ≤ JsMath.max 220 (locked.distance * 1.3)

/-- The target that `selectTarget` returns. -/
def chooseTarget (enemies : List (Target N)) (attention : Attention N) (now : N) : Option (Target N) :=
  let locked := lockedTarget enemies attention now
  if immediateThreat enemies.head? locked then enemies.head?
  else (humanOpportunity enemies locked).or (locked.or (priorityTarget world enemies))

def selectTarget (enemies : List (Target N)) (now : N) : Brain N (Option (Target N)) := do
  let state ← getState
  (chooseTarget world enemies state.attention now).elim
    (do
      setState fun state => { state with targetSessionId := none, targetLockedUntil := 0 }
      pure none)
    fun target =>
      if some target.player.sessionId ≠ state.targetSessionId ∨ state.targetLockedUntil ≤ now then do
        let drawn ← random
        setState fun state =>
          { state with
            targetSessionId := some target.player.sessionId
            targetLockedUntil := now + targetLockMinMs + drawn * targetLockJitterMs }
        pure (some target)
      else pure (some target)

/-! ### What the choices are -/

theorem selectTarget_fst {enemies : List (Target N)} {now : N} {memory : BotMemory N} :
    (selectTarget world enemies now memory).1 = chooseTarget world enemies memory.state.attention now := by
  change (((chooseTarget world enemies memory.state.attention now).elim _ _ : Brain N (Option (Target N))) memory).1 = _
  cases chooseTarget world enemies memory.state.attention now with
  | none => rfl
  | some target =>
    dsimp only [Option.elim_some]
    split <;> rfl

private theorem priorityTarget_mem {enemies : List (Target N)} {target : Target N}
    (h : priorityTarget world enemies = some target) : target ∈ enemies := by
  have hfold (best : Option (Target N)) (rest : List (Target N)) (hrest : rest ⊆ enemies)
      (hbest : ∀ enemy ∈ best, enemy ∈ enemies) :
      ∀ enemy ∈ rest.foldl (preferTarget world) best, enemy ∈ enemies := by
    induction rest generalizing best with
    | nil => exact hbest
    | cons candidate rest ih =>
      refine ih _ (fun enemy henemy => hrest (.tail _ henemy)) fun enemy henemy => ?_
      have hcandidate : candidate ∈ enemies := hrest (.head _)
      cases best with
      | none => exact Option.some.inj henemy ▸ hcandidate
      | some best =>
        unfold preferTarget at henemy
        dsimp only at henemy
        split at henemy
        · exact Option.some.inj henemy ▸ hcandidate
        · exact hbest _ henemy
  exact hfold none enemies (fun _ h => h) (fun _ h => nomatch h) target h

/-- The target is one of the enemies. -/
theorem chooseTarget_mem {enemies : List (Target N)} {attention : Attention N} {now : N} {target : Target N}
    (h : chooseTarget world enemies attention now = some target) : target ∈ enemies := by
  unfold chooseTarget at h
  dsimp only at h
  split at h
  · exact List.mem_of_mem_head? (h ▸ rfl)
  · rcases Option.or_eq_some_iff.mp h with h | ⟨-, h⟩
    · exact List.mem_of_find?_eq_some h
    · rcases Option.or_eq_some_iff.mp h with h | ⟨-, h⟩
      · unfold lockedTarget at h
        split at h
        · exact List.mem_of_find?_eq_some h
        · cases h
      · exact priorityTarget_mem world h

/-- Where there is an enemy, there is a target. -/
theorem chooseTarget_isSome {enemies : List (Target N)} (h : enemies ≠ []) (attention : Attention N) (now : N) :
    (chooseTarget world enemies attention now).isSome := by
  have hfold (best : Target N) (rest : List (Target N)) :
      (rest.foldl (preferTarget world) (some best)).isSome := by
    induction rest generalizing best with
    | nil => rfl
    | cons candidate rest ih =>
      rw [List.foldl_cons, preferTarget]
      split <;> exact ih _
  obtain ⟨first, rest, rfl⟩ := List.exists_cons_of_ne_nil h
  have hpriority : (priorityTarget world (first :: rest)).isSome := hfold first rest
  unfold chooseTarget
  dsimp only
  split
  · rfl
  · rw [Option.isSome_or, Option.isSome_or, hpriority, Bool.or_true, Bool.or_true]

instance arms_selectTarget {enemies : List (Target N)} {now : N} :
    Moves (Keeps BotBrainState.arms) (selectTarget world enemies now) := by
  have hkept (target : Target N) (drawn : N) : Moves (Keeps BotBrainState.arms) (setState fun state : BotBrainState N =>
      { state with
        targetSessionId := some target.player.sessionId
        targetLockedUntil := now + targetLockMinMs + drawn * targetLockJitterMs }) := keeps_setState fun _ => rfl
  have hlost : Moves (Keeps BotBrainState.arms) (setState fun state : BotBrainState N =>
      { state with targetSessionId := none, targetLockedUntil := 0 }) := keeps_setState fun _ => rfl
  unfold selectTarget
  infer_instance

instance arms_controlledFire {target : Option (Target N)} {clearShot : Bool} {now : N} :
    Moves (Keeps BotBrainState.arms) (controlledFire world self target clearShot now) := by
  have hgun : Moves (Keeps BotBrainState.arms) (controlledGunFire world self.weapon now) := by
    unfold controlledGunFire
    refine @moves_elim _ _ _ _ _ _ _ inferInstance fun definition => .bind inferInstance fun state => ?_
    refine @moves_ite _ _ _ _ _ _ _ inferInstance (@moves_ite _ _ _ _ _ _ _ inferInstance ?_)
    exact .bind inferInstance fun _ => .bind inferInstance fun _ => .bind (keeps_setState fun _ => rfl) inferInstance
  unfold controlledFire
  infer_instance

/-- A bot fires only at a target that it can shoot, and only where the way is free. -/
theorem controlledFire_fst {target : Option (Target N)} {clearShot : Bool} {now : N} {memory : BotMemory N}
    (h : (controlledFire world self target clearShot now memory).1 = true) :
    clearShot = true ∧ canShootTarget world self target = true := by
  unfold controlledFire at h
  split at h
  · cases h
  · rename_i hshot
    simpa using hshot

end Opsia.BotDecision
