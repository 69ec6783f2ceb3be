import Opsia.BotBrain.Decision

/-!
# The throw of a grenade

A throw goes on over many decisions: the bot takes the grenade in its hand, cooks it, releases it and recovers.  What
one call of the branch makes of a throw is a step of a machine on the arms of the bot (`GrenadeStep`); all other
programs of the decision leave the throw alone, except that it is given up when the bot is down or not in a fresh
snapshot, and begun by `throwBranch`.
-/

namespace Opsia.BotDecision

open Effects

variable {N : Type} [JsMath N] {world : BotWorld N} {snapshot : BotBrainSnapshot N} {sessionId : String}
  {self : BotBrainPlayer N} {now : N} {sight : Sight N} {memory : BotMemory N}

/-- The bot holds the grenade it throws. -/
def HoldsGrenade (world : BotWorld N) (self : BotBrainPlayer N) : Prop :=
  self.activeSlot = some 3 ∧ isExplosiveThrowable world self.weapon = true

/-- What a call makes of a throw that is under way; `seen` says that there is an enemy to throw at, and `drawable` which
values `random` can return. -/
inductive GrenadeStep (holds seen : Prop) (drawable : N → Prop) (now : N) (before : Arms N) (intent : BotIntent N) :
    Arms N → Prop
  | cook (drawn : N) (hdrawn : drawable drawn) (hphase : before.grenadePhase = .equip) (hholds : holds)
      (hshoot : intent.shoot = true) (hstart : intent.forceShootStart = some true) :
      GrenadeStep holds seen drawable now before intent
        { before with grenadePhase := .cook, grenadeCookUntil := now + 720 + drawn * 420 }
  | wait (hphase : before.grenadePhase = .equip) (hholds : ¬holds) (hseen : seen)
      (htime : ¬before.grenadeCookUntil ≤ now) (hshoot : intent.shoot = false)
      (hstart : intent.forceShootStart = none) :
      GrenadeStep holds seen drawable now before intent before
  | hold (hphase : before.grenadePhase = .cook) (hseen : seen) (htime : now < before.grenadeCookUntil)
      (hshoot : intent.shoot = true) (hstart : intent.forceShootStart = none) :
      GrenadeStep holds seen drawable now before intent before
  | release (hphase : before.grenadePhase = .cook) (hover : ¬(seen ∧ now < before.grenadeCookUntil))
      (hshoot : intent.shoot = false) (hstart : intent.forceShootStart = none) :
      GrenadeStep holds seen drawable now before intent { before with grenadePhase := .release }
  | recover (drawn : N) (hdrawn : drawable drawn)
      (hphase : before.grenadePhase = .equip ∧ ¬holds ∧ (¬seen ∨ before.grenadeCookUntil ≤ now) ∨
        before.grenadePhase = .release ∨ before.grenadePhase = .recover)
      (hshoot : intent.shoot = false) (hstart : intent.forceShootStart = none) :
      GrenadeStep holds seen drawable now before intent
        { before with
          grenadePhase := .idle
          grenadeCooldownUntil := now + 7000 + drawn * 5000
          grenadeTargetSessionId := none }

theorem GrenadeStep.mono {holds seen : Prop} {drawable drawable' : N → Prop} {before after : Arms N}
    {intent : BotIntent N} (h : GrenadeStep holds seen drawable now before intent after)
    (hmono : ∀ value, drawable value → drawable' value) : GrenadeStep holds seen drawable' now before intent after := by
  cases h with
  | cook drawn hdrawn hphase hholds hshoot hstart => exact .cook drawn (hmono drawn hdrawn) hphase hholds hshoot hstart
  | wait hphase hholds hseen htime hshoot hstart => exact .wait hphase hholds hseen htime hshoot hstart
  | hold hphase hseen htime hshoot hstart => exact .hold hphase hseen htime hshoot hstart
  | release hphase hover hshoot hstart => exact .release hphase hover hshoot hstart
  | recover drawn hdrawn hphase hshoot hstart => exact .recover drawn (hmono drawn hdrawn) hphase hshoot hstart

/-! ### The branch of the grenades -/

theorem conclude_apply (intent : BotIntentWithoutMovement N) (policy : MovementPolicy) (now : N)
    (memory : BotMemory N) :
    ∃ given after, conclude intent policy now memory = (some given, after) ∧
      given.toBotIntentWithoutMovement = intent ∧ after.state.arms = memory.state.arms ∧
      memory.DrawsOn after :=
  ⟨_, _, rfl, rfl, quiet_finishIntent.arms memory, (quiet_finishIntent.moves memory).drawsOn⟩

omit [JsMath N] in
private theorem drawsOn_draw {state : BotBrainState N} : memory.DrawsOn ⟨state, fun k => memory.random (k + 1)⟩ :=
  fun _ ⟨k, hk⟩ => ⟨k + 1, hk⟩

private theorem equipGrenade_skip {target : Option (Target N)} (hphase : memory.state.grenadePhase ≠ .equip) :
    equipGrenade world self now sight target memory = (none, memory) := by
  change (if memory.state.grenadePhase = .equip then _ else pure none : Brain N _) memory = _
  rw [if_neg hphase]
  rfl

private theorem cookGrenade_skip {target : Option (Target N)} (hphase : memory.state.grenadePhase ≠ .cook) :
    cookGrenade self now sight target memory = (none, memory) := by
  change (if memory.state.grenadePhase = .cook then _ else pure none : Brain N _) memory = _
  rw [if_neg hphase]
  rfl

private theorem finishThrow_apply (target : Option (Target N)) (memory : BotMemory N) :
    ∃ intent after drawn, finishThrow self now sight target memory = (some intent, after) ∧ memory.Drawable drawn ∧
      intent.mode = .grenade ∧ intent.useItem = none ∧ intent.shoot = false ∧ intent.forceShootStart = none ∧
      after.state.arms = { memory.state.arms with
        grenadePhase := .idle, grenadeCooldownUntil := now + 7000 + drawn * 5000, grenadeTargetSessionId := none } ∧
      memory.DrawsOn after := by
  obtain ⟨intent, after, happly, hintent, hafter, hlater⟩ := conclude_apply (grenadeIntent self sight target
    (grenadeAngle self sight target + JsMath.pi) false (some .lastWeapon) none) .force now
    { state := endThrow (now + 7000 + memory.random 0 * 5000) memory.state, random := fun k => memory.random (k + 1) }
  exact ⟨intent, after, memory.random 0, happly, ⟨0, rfl⟩, congrArg (·.mode) hintent, congrArg (·.useItem) hintent,
    congrArg (·.shoot) hintent, congrArg (·.forceShootStart) hintent, hafter,
    drawsOn_draw.trans hlater⟩

private theorem recoverGrenade_apply (target : Option (Target N))
    (hphase : memory.state.grenadePhase = .recover ∨ memory.state.grenadePhase = .release) :
    ∃ intent after drawn, recoverGrenade self now sight target memory = (some intent, after) ∧
      memory.Drawable drawn ∧ intent.mode = .grenade ∧ intent.useItem = none ∧ intent.shoot = false ∧
      intent.forceShootStart = none ∧
      after.state.arms = { memory.state.arms with
        grenadePhase := .idle, grenadeCooldownUntil := now + 7000 + drawn * 5000, grenadeTargetSessionId := none } ∧
      memory.DrawsOn after := by
  rcases hphase with h | h
  · have happly : recoverGrenade self now sight target memory = finishThrow self now sight target memory := by
      have hstate : (if memory.state.grenadePhase = .release then enterPhase .recover memory.state
          else memory.state) = memory.state := if_neg (by rw [h]; decide)
      change recoverStep self now sight target
        { memory with state := if memory.state.grenadePhase = .release then _ else _ } = _
      rw [hstate]
      exact congrFun (if_pos h) memory
    rw [happly]
    exact finishThrow_apply target memory
  · have happly : recoverGrenade self now sight target memory =
        finishThrow self now sight target { memory with state := enterPhase .recover memory.state } := by
      change recoverStep self now sight target
        { memory with state := if memory.state.grenadePhase = .release then _ else _ } = _
      rw [if_pos h]
      rfl
    rw [happly]
    exact finishThrow_apply target _

/-- The call is decided by an intent of the grenades, and the throw takes a step. -/
private def Steps (world : BotWorld N) (self : BotBrainPlayer N) (now : N) (target : Option (Target N))
    (x : Brain N (Option (BotIntent N))) (memory : BotMemory N) : Prop :=
  ∃ intent after, x memory = (some intent, after) ∧ intent.mode = .grenade ∧ intent.useItem = none ∧
    GrenadeStep (HoldsGrenade world self) (target.isSome = true) memory.Drawable now memory.state.arms intent
      after.state.arms ∧
    memory.DrawsOn after

private theorem equip_steps {target : Option (Target N)} (h : memory.state.grenadePhase = .equip) :
    Steps world self now target (firstOf [equipGrenade world self now sight target, cookGrenade self now sight target,
      recoverGrenade self now sight target]) memory := by
  by_cases hholds : HoldsGrenade world self
  · -- the grenade is in the hand: the pin is pulled
    obtain ⟨intent, after, happly, hintent, hafter, hlater⟩ := conclude_apply (grenadeIntent self sight target
      (grenadeAngle self sight target + memory.state.strafeSign.value * JsMath.pi / 2) true none (some true))
      .rhythm now
      { state := beginCooking (now + 720 + memory.random 0 * 420) memory.state
        random := fun k => memory.random (k + 1) }
    have hequip : equipGrenade world self now sight target memory = (some intent, after) :=
      (congrFun ((if_pos h).trans (if_pos hholds)) memory).trans happly
    refine ⟨intent, after, firstOf_cons_some hequip, congrArg (·.mode) hintent, congrArg (·.useItem) hintent, ?_,
      drawsOn_draw.trans hlater⟩
    rw [hafter]
    exact .cook (memory.random 0) ⟨0, rfl⟩ h hholds (congrArg (·.shoot) hintent) (congrArg (·.forceShootStart) hintent)
  · by_cases hover : target.isNone ∨ memory.state.grenadeCookUntil ≤ now
    · -- nobody is left, or it took too long: the throw is over
      have hequip : equipGrenade world self now sight target memory =
          (none, { memory with state := enterPhase .recover memory.state }) :=
        congrFun ((if_pos h).trans ((if_neg hholds).trans (if_pos hover))) memory
      obtain ⟨intent, after, drawn, happly, hdrawn, hmode, huse, hshoot, hstart, hafter, hlater⟩ :=
        @recoverGrenade_apply N _ self now sight { memory with state := enterPhase .recover memory.state } target
          (.inl rfl)
      refine ⟨intent, after, ?_, hmode, huse, ?_, hlater⟩
      · rw [firstOf_cons_none hequip,
          firstOf_cons_none (cookGrenade_skip (by decide : BotGrenadePhase.recover ≠ .cook))]
        exact firstOf_cons_some happly
      · rw [hafter]
        exact .recover drawn hdrawn (.inl ⟨h, hholds, hover.imp_left fun hnone => by simpa using hnone⟩) hshoot hstart
    · obtain ⟨intent, after, happly, hintent, hafter, hlater⟩ := conclude_apply (grenadeIntent self sight target
        (grenadeAngle self sight target + memory.state.strafeSign.value * JsMath.pi / 2) false (some .throwable) none)
        .rhythm now memory
      have hequip : equipGrenade world self now sight target memory = (some intent, after) :=
        (congrFun ((if_pos h).trans ((if_neg hholds).trans (if_neg hover))) memory).trans happly
      refine ⟨intent, after, firstOf_cons_some hequip, congrArg (·.mode) hintent, congrArg (·.useItem) hintent, ?_,
        hlater⟩
      rw [hafter]
      have hseen : target.isSome = true := by
        rw [Option.isSome_iff_ne_none]
        exact fun hnone => hover (.inl (hnone ▸ rfl))
      exact .wait h hholds hseen (fun htime => hover (.inr htime)) (congrArg (·.shoot) hintent)
        (congrArg (·.forceShootStart) hintent)

private theorem cook_steps {target : Option (Target N)} (h : memory.state.grenadePhase = .cook) :
    Steps world self now target (firstOf [equipGrenade world self now sight target, cookGrenade self now sight target,
      recoverGrenade self now sight target]) memory := by
  have hskip : equipGrenade world self now sight target memory = (none, memory) :=
    equipGrenade_skip (by rw [h]; decide)
  by_cases hcooking : target.isSome ∧ now < memory.state.grenadeCookUntil
  · obtain ⟨intent, after, happly, hintent, hafter, hlater⟩ := conclude_apply (grenadeIntent self sight target
      (grenadeAngle self sight target + memory.state.strafeSign.value * JsMath.pi / 2) true none none) .rhythm now
      memory
    have hcook : cookGrenade self now sight target memory = (some intent, after) :=
      (congrFun ((if_pos h).trans (if_pos hcooking)) memory).trans happly
    refine ⟨intent, after, (firstOf_cons_none hskip).trans (firstOf_cons_some hcook), congrArg (·.mode) hintent,
      congrArg (·.useItem) hintent, ?_, hlater⟩
    rw [hafter]
    exact .hold h hcooking.1 hcooking.2 (congrArg (·.shoot) hintent) (congrArg (·.forceShootStart) hintent)
  · obtain ⟨intent, after, happly, hintent, hafter, hlater⟩ := conclude_apply (grenadeIntent self sight target
      (grenadeAngle self sight target + JsMath.pi) false none none) .force now
      { memory with state := enterPhase .release memory.state }
    have hcook : cookGrenade self now sight target memory = (some intent, after) :=
      (congrFun ((if_pos h).trans (if_neg hcooking)) memory).trans happly
    refine ⟨intent, after, (firstOf_cons_none hskip).trans (firstOf_cons_some hcook), congrArg (·.mode) hintent,
      congrArg (·.useItem) hintent, ?_, hlater⟩
    rw [hafter]
    exact .release h hcooking (congrArg (·.shoot) hintent) (congrArg (·.forceShootStart) hintent)

private theorem recover_steps {target : Option (Target N)}
    (h : memory.state.grenadePhase = .recover ∨ memory.state.grenadePhase = .release) :
    Steps world self now target (firstOf [equipGrenade world self now sight target, cookGrenade self now sight target,
      recoverGrenade self now sight target]) memory := by
  have hequip : memory.state.grenadePhase ≠ .equip := by
    rcases h with h | h <;> rw [h] <;> decide
  have hcook : memory.state.grenadePhase ≠ .cook := by
    rcases h with h | h <;> rw [h] <;> decide
  obtain ⟨intent, after, drawn, happly, hdrawn, hmode, huse, hshoot, hstart, hafter, hlater⟩ :=
    recoverGrenade_apply target h
  refine ⟨intent, after, ?_, hmode, huse, ?_, hlater⟩
  · rw [firstOf_cons_none (equipGrenade_skip hequip), firstOf_cons_none (cookGrenade_skip hcook)]
    exact firstOf_cons_some happly
  · rw [hafter]
    exact .recover drawn hdrawn (.inr h.symm) hshoot hstart

/-- A throw that is under way takes one step, and the call is decided. -/
theorem grenadeBranch_step (hphase : memory.state.grenadePhase ≠ .idle) :
    ∃ intent after, grenadeBranch world self now sight memory = (some intent, after) ∧ intent.mode = .grenade ∧
      intent.useItem = none ∧
      GrenadeStep (HoldsGrenade world self) ((grenadeTarget sight memory.state).isSome = true) memory.Drawable now
        memory.state.arms intent after.state.arms ∧
      memory.DrawsOn after := by
  have hbranch : grenadeBranch world self now sight memory =
      firstOf [equipGrenade world self now sight (grenadeTarget sight memory.state),
        cookGrenade self now sight (grenadeTarget sight memory.state),
        recoverGrenade self now sight (grenadeTarget sight memory.state)] memory := congrFun (if_neg hphase) memory
  rw [hbranch]
  cases h : memory.state.grenadePhase with
  | idle => contradiction
  | equip => exact equip_steps h
  | cook => exact cook_steps h
  | release => exact recover_steps (.inr h)
  | recover => exact recover_steps (.inl h)

theorem grenadeBranch_idle (hphase : memory.state.grenadePhase = .idle) :
    grenadeBranch world self now sight memory = (none, memory) := congrFun (if_pos hphase) memory

end Opsia.BotDecision
