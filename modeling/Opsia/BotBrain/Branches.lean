import Opsia.BotBrain.Grenades

/-!
# What the branches of the decision do

Most branches leave the arms of the bot alone, and they fire only when the bot decided to while it looked around, or
when it strikes a crate (`Ordinary`).  The others begin a throw or use an item.  What a whole call does to the arms,
with the intent it returns, is one of six things (`ArmsStep`).
-/

namespace Opsia.BotDecision

open Effects

variable {N : Type} [JsMath N] (world : BotWorld N) (snapshot : BotBrainSnapshot N) (sessionId : String)
  (self : BotBrainPlayer N) (now : N) (sight : Sight N)

/-- The bot strikes with a melee weapon at a crate in reach. -/
structure Strikes (mode : BotIntentMode) : Prop where
  mode_eq : mode = .break
  melee : weaponKind world self.weapon = .melee
  reach : ∃ obstacle, Breakable snapshot obstacle ∧
    JsMath.max 0 (distance self.x self.y obstacle.x obstacle.y - JsMath.max obstacle.width obstacle.height / 2) ≤
      meleeAttackDistance

/-- The intent of a branch that throws no grenade and uses no item. -/
structure Ordinary (intent : BotIntentWithoutMovement N) : Prop where
  mode : intent.mode ≠ .grenade
  useItem : intent.useItem = none
  shoot : intent.shoot = true → sight.shoot = true ∨ Strikes world snapshot self intent.mode

/-- The program leaves the arms alone, and what it decides is ordinary. -/
abbrev DecidesOrdinary (x : Brain N (Option (BotIntent N))) : Prop :=
  Decides (Keeps fun state => (state.arms, state.trigger, state.attention))
    (fun intent => Ordinary world snapshot self sight intent.toBotIntentWithoutMovement) x

section

variable {world snapshot self sight}

private theorem conclude_ordinary {intent : BotIntentWithoutMovement N} {policy : MovementPolicy} {now : N}
    (h : Ordinary world snapshot self sight intent) :
    DecidesOrdinary world snapshot self sight (conclude intent policy now) := by
  refine ⟨quiet_conclude, fun memory given hgiven => ?_⟩
  cases hgiven
  exact h

/-- A branch that fires as the bot decided while it looked around. -/
private theorem ordinary_sight {intent : BotIntentWithoutMovement N} (hmode : intent.mode ≠ .grenade)
    (huse : intent.useItem = none) (hshoot : intent.shoot = sight.shoot) : Ordinary world snapshot self sight intent :=
  ⟨hmode, huse, fun h => .inl (hshoot.symm.trans h)⟩

/-- A branch that does not fire. -/
private theorem ordinary_silent {intent : BotIntentWithoutMovement N} (hmode : intent.mode ≠ .grenade)
    (huse : intent.useItem = none) (hshoot : intent.shoot = false) : Ordinary world snapshot self sight intent :=
  ⟨hmode, huse, fun h => absurd (hshoot.symm.trans h) Bool.false_ne_true⟩

end

/-! ### The ordinary branches -/

theorem unstuckBranch_ordinary : DecidesOrdinary world snapshot self sight (unstuckBranch now sight) := by
  unfold unstuckBranch
  refine .bind inferInstance fun state => decides_ite ?_ decides_none
  exact .bind (quiet_setState fun _ => ⟨rfl, rfl, rfl⟩) fun _ => conclude_ordinary (ordinary_sight nofun rfl rfl)

theorem edgeBranch_ordinary :
    DecidesOrdinary world snapshot self sight (edgeBranch world snapshot sessionId self now sight) := by
  unfold edgeBranch
  refine decides_ite ?_ decides_none
  refine .bind (quiet_setState fun _ => ⟨rfl, rfl, rfl⟩) fun _ => .bind inferInstance fun _ => ?_
  exact conclude_ordinary (ordinary_sight nofun rfl rfl)

theorem zoneBranch_ordinary :
    DecidesOrdinary world snapshot self sight (zoneBranch world snapshot sessionId self now sight) := by
  unfold zoneBranch
  refine decides_ite ?_ decides_none
  refine .bind (quiet_setState fun _ => ⟨rfl, rfl, rfl⟩) fun _ => .bind inferInstance fun _ => ?_
  exact conclude_ordinary (ordinary_sight nofun rfl rfl)

theorem healingBranch_ordinary :
    DecidesOrdinary world snapshot self sight (healingBranch world self now sight) := by
  unfold healingBranch
  refine .bind inferInstance fun state => decides_ite (conclude_ordinary (ordinary_silent nofun rfl rfl)) ?_
  refine .bind (quiet_setState fun state => ?_) fun _ => decides_none
  split <;> exact ⟨rfl, rfl, rfl⟩

theorem rescueBranch_ordinary :
    DecidesOrdinary world snapshot self sight (rescueBranch world snapshot sessionId self now sight) := by
  unfold rescueBranch
  refine decides_elim decides_none fun downedAlly _ => decides_ite decides_none (.bind inferInstance fun _ => ?_)
  exact conclude_ordinary (ordinary_silent nofun rfl rfl)

private theorem breakCrate_ordinary {breakableTarget : BreakableTarget N}
    (hbreakable : Breakable snapshot breakableTarget.obstacle)
    (hdistance : breakableTarget.distance =
      distance self.x self.y breakableTarget.obstacle.x breakableTarget.obstacle.y) :
    DecidesOrdinary world snapshot self sight (breakCrate world snapshot self now breakableTarget) := by
  unfold breakCrate
  refine .bind inferInstance fun _ => conclude_ordinary ⟨nofun, rfl, fun hstrikes => .inr ?_⟩
  obtain ⟨hmelee, hreach⟩ := of_decide_eq_true hstrikes
  refine ⟨rfl, hmelee, breakableTarget.obstacle, hbreakable, ?_⟩
  rw [← hdistance]
  exact hreach

theorem lootBranch_ordinary :
    DecidesOrdinary world snapshot self sight (lootBranch world snapshot sessionId self now sight) := by
  unfold lootBranch
  refine .bind inferInstance fun lootTarget => decides_bind_fst inferInstance fun memory => ?_
  refine decides_elim (decides_elim decides_none fun loot _ => ?_) fun crate hcrate => ?_
  · exact .bind inferInstance fun _ => conclude_ordinary (ordinary_silent nofun rfl rfl)
  · obtain ⟨hbreakable, hdistance⟩ := selectBreakableTarget_fst snapshot self (Option.mem_filter_iff.mp hcrate).1
    exact breakCrate_ordinary world snapshot self now sight hbreakable hdistance

theorem flankBranch_ordinary :
    DecidesOrdinary world snapshot self sight (flankBranch world snapshot self now sight) := by
  unfold flankBranch
  refine decides_elim decides_none fun target _ => decides_ite ?_ ?_
  · refine .bind inferInstance fun waypoint => decides_elim decides_none fun waypoint _ => ?_
    refine .bind inferInstance fun _ => ?_
    exact conclude_ordinary (ordinary_silent nofun rfl rfl)
  · exact .bind (quiet_setState fun _ => ⟨rfl, rfl, rfl⟩) fun _ => decides_none

instance quiet_updateCombatFeint : Quiet (updateCombatFeint sessionId now) := by
  unfold updateCombatFeint
  refine .bind inferInstance fun state => ?_
  split
  · exact .bind inferInstance fun _ => .bind inferInstance fun _ => quiet_setState fun _ => ⟨rfl, rfl, rfl⟩
  · infer_instance

instance quiet_updateStrafe : Quiet (updateStrafe sessionId now) := by
  have hplan (flip : Bool) : Quiet (planStrafeFlip sessionId now flip) :=
    .bind inferInstance fun _ => quiet_setState fun _ => ⟨rfl, rfl, rfl⟩
  unfold updateStrafe
  infer_instance

private theorem combatMovement_mode (target : Target N) (state : BotBrainState N) :
    (combatMovement world sessionId self now sight target state).mode = .retreat ∨
      (combatMovement world sessionId self now sight target state).mode = .combat := by
  unfold combatMovement
  split
  · unfold gunMovement
    dsimp only
    split
    · exact .inl rfl
    · split
      · exact .inr rfl
      · split <;> exact .inr rfl
  · exact .inr rfl

theorem combatBranch_ordinary :
    DecidesOrdinary world snapshot self sight (combatBranch world snapshot sessionId self now sight) := by
  unfold combatBranch
  refine decides_elim decides_none fun target _ => decides_ite ?_ decides_none
  refine .bind inferInstance fun _ => .bind inferInstance fun _ => .bind inferInstance fun state => ?_
  refine .bind inferInstance fun _ => conclude_ordinary (ordinary_sight ?_ rfl rfl)
  rcases combatMovement_mode world sessionId self now sight target state with h | h <;> dsimp only <;> rw [h] <;> nofun

theorem huntBranch_ordinary :
    DecidesOrdinary world snapshot self sight (huntBranch world snapshot sessionId self now sight) := by
  unfold huntBranch
  refine decides_elim decides_none fun target _ => .bind inferInstance fun _ => .bind inferInstance fun state => ?_
  exact .bind inferInstance fun _ => conclude_ordinary (ordinary_silent nofun rfl rfl)

/-! ### What the bot sees -/

/-- `noticeDamage`, as far as the attention goes. -/
def Attention.noticing (attention : Attention N) : Attention N where
  targetSessionId := attention.targetSessionId
  targetLockedUntil := attention.targetLockedUntil
  targetMemoryUntil := attention.targetMemoryUntil
  lastHealth := some self.health
  underFireUntil := if isHurt self attention.lastHealth then now + 1100 else attention.underFireUntil

/-- The enemies that the bot perceives in a call that finds this attention. -/
def enemiesSeen (attention : Attention N) : List (Target N) :=
  perceivedEnemies world snapshot sessionId self now (attention.noticing self now)

/-- The enemy that is selected as target in a call that finds this attention. -/
def targetSeen (attention : Attention N) : Option (Target N) :=
  chooseTarget world (enemiesSeen world snapshot sessionId self now attention) (attention.noticing self now) now

private theorem noticeDamage_attention (state : BotBrainState N) :
    (noticeDamage self now state).attention = state.attention.noticing self now := by
  change ({ (if isHurt self state.lastHealth then _ else _ : BotBrainState N) with lastHealth := _ }).attention =
    Attention.mk _ _ _ _ (if isHurt self state.lastHealth then _ else _)
  split <;> rfl

private theorem noticeDamage_arms (state : BotBrainState N) : (noticeDamage self now state).arms = state.arms := by
  change (if isHurt self state.lastHealth then takeFire now state else state).arms = state.arms
  split <;> rfl

/-- What a bot that sees knows when it decides. -/
structure Prepared (attention : Attention N) : Prop where
  enemies : sight.enemies = enemiesSeen world snapshot sessionId self now attention
  target : sight.target = targetSeen world snapshot sessionId self now attention
  shoot : sight.shoot = true →
    canShootTarget world self sight.target = true ∧
      sight.target.any (fun target => hasClearShot world snapshot self target.player) = true

theorem prepare_spec (actions : BotActions) (memory : BotMemory N) :
    Prepared world snapshot sessionId self now (prepare world snapshot sessionId self now actions memory).1
        memory.state.attention ∧
      Keeps BotBrainState.arms memory (prepare world snapshot sessionId self now actions memory).2 := by
  have hlooking : ∀ m : BotMemory N, m.state.attention = memory.state.attention.noticing self now →
      Prepared world snapshot sessionId self now (look world snapshot sessionId self now actions m).1
        memory.state.attention := by
    intro m hm
    have htarget : (look world snapshot sessionId self now actions m).1.target =
        chooseTarget world (perceivedEnemies world snapshot sessionId self now m.state.attention)
          m.state.attention now :=
      selectTarget_fst world
    refine ⟨congrArg (perceivedEnemies world snapshot sessionId self now) hm, ?_, fun hshoot => ?_⟩
    · rw [htarget, hm]
      rfl
    · obtain ⟨hclear, hcan⟩ := controlledFire_fst world self hshoot
      exact ⟨hcan, hclear⟩
  have hkeeps : ∀ m : BotMemory N,
      Keeps BotBrainState.arms m (look world snapshot sessionId self now actions m).2 := by
    intro m
    have hlook : Moves (Keeps BotBrainState.arms) (look world snapshot sessionId self now actions) := by
      have hweapon (targetDistance : Option N) : Moves _ (weaponActions world self targetDistance now) :=
        (quiet_weaponActions world self).keeps_arms
      refine .bind inferInstance fun state => .bind inferInstance fun target => ?_
      refine .bind (keeps_setState fun state => ?_) ?_
      · unfold rememberTarget
        split
        · split <;> rfl
        · rfl
      · intro _
        exact .bind inferInstance fun state => .bind (hweapon _) fun weapon => .bind inferInstance inferInstance
    exact hlook.moves m
  have hstuck : Quiet (updateStuckState world snapshot self now) := inferInstance
  have hnotice : Moves (Keeps BotBrainState.arms) (setState (noticeDamage self now) : Brain N Unit) :=
    keeps_setState (noticeDamage_arms self now)
  refine ⟨hlooking _ ?_, Trans.trans (hstuck.keeps_arms.moves memory) (Trans.trans (hnotice.moves _) (hkeeps _))⟩
  exact (noticeDamage_attention self now _).trans (congrArg (·.noticing self now) (hstuck.attention memory))

end Opsia.BotDecision
