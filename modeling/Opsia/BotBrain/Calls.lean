import Opsia.BotBrain.Branches

/-!
# What a call does

A call of `decideBotIntent` by a bot that is not in a fresh snapshot gives up the throw and does not fire.  A call by
a bot that sees does one of five things to the arms of the bot (`PresentStep`): it gives up the throw of a bot that is
down, takes the throw one step further, begins a throw, uses an item, or leaves the arms alone.  The intent says which
it is.
-/

namespace Opsia.BotDecision

open Effects

variable {N : Type} [JsMath N] (world : BotWorld N) (snapshot : BotBrainSnapshot N) (sessionId : String)
  (self : BotBrainPlayer N) (now : N)

/-! ### Aimed fire -/

/-- The enemy that is selected as target can be shot: the weapon at hand reaches it, has ammunition if it is a gun,
and the way is free. -/
structure Aims (attention : Attention N) (target : Target N) : Prop where
  selected : targetSeen world snapshot sessionId self now attention = some target
  inRange : target.distance ≤ (weaponProfile world self.weapon).effectiveRange
  loaded : (weaponProfile world self.weapon).kind = .gun → 0 < self.ammo
  armed : (weaponProfile world self.weapon).kind ≠ .other
  clear : hasClearShot world snapshot self target.player = true

/-- The item is among the things the bot carries. -/
def Carries (self : BotBrainPlayer N) : BotUseItemIntent → Prop
  | .bandage => 0 < self.bandages.getD 0
  | .healthkit => 0 < self.healthkits.getD 0
  | .soda => 0 < self.sodas.getD 0
  | .painkiller => 0 < self.painkillers.getD 0

/-- How long the bot waits before it uses another item. -/
def healPause : BotUseItemIntent → N
  | .bandage | .healthkit => 10000
  | .soda | .painkiller => 8000

/-- What a call of a bot that sees does to its arms, with the intent it returns; `drawable` says which values `random`
can return. -/
inductive PresentStep (drawable : N → Prop) (attention : Attention N) (before : Arms N) (intent : BotIntent N) :
    Arms N → Prop
  | down (hdown : self.downed = some true) (hmode : intent.mode = .downed) (hshoot : intent.shoot = false)
      (huse : intent.useItem = none) :
      PresentStep drawable attention before intent { before with grenadePhase := .idle }
  | throwing {after : Arms N} (hup : self.downed ≠ some true) (hphase : before.grenadePhase ≠ .idle)
      (hmode : intent.mode = .grenade) (huse : intent.useItem = none)
      (hstep : GrenadeStep (HoldsGrenade world self)
        (enemiesSeen world snapshot sessionId self now attention ≠ []) drawable now before intent after) :
      PresentStep drawable attention before intent after
  | beginThrow (target : Target N) (hup : self.downed ≠ some true) (hphase : before.grenadePhase = .idle)
      (htarget : targetSeen world snapshot sessionId self now attention = some target)
      (hcool : ¬now < before.grenadeCooldownUntil)
      (hgrenade : ¬self.throwableCount.getD 0 ≤ 0 ∧ isExplosiveThrowable world (self.throwableWeapon.getD "") = true)
      (hmode : intent.mode = .grenade) (hshoot : intent.shoot = false) (huse : intent.useItem = none)
      (hstart : intent.forceShootStart = none) :
      PresentStep drawable attention before intent
        { before with
          grenadePhase := .equip
          grenadeCookUntil := now + 1600
          grenadeTargetSessionId := some target.player.sessionId }
  | useItem (item : BotUseItemIntent) (hup : self.downed ≠ some true) (hphase : before.grenadePhase = .idle)
      (hitem : intent.useItem = some item) (hcarried : Carries self item) (hdue : before.nextHealAt ≤ now)
      (hmode : intent.mode = .heal) (hshoot : intent.shoot = false) :
      PresentStep drawable attention before intent { before with nextHealAt := now + healPause item }
  | ordinary (hup : self.downed ≠ some true) (hphase : before.grenadePhase = .idle)
      (hmode : intent.mode ≠ .grenade) (huse : intent.useItem = none)
      (hshoot : intent.shoot = true →
        (∃ target, Aims world snapshot sessionId self now attention target) ∨
          Strikes world snapshot self intent.mode) :
      PresentStep drawable attention before intent before

/-! ### The branches that change the arms -/

variable {world snapshot sessionId self now} {sight : Sight N}

/-- What a branch does to the arms when it has decided. -/
private inductive BranchStep (world : BotWorld N) (snapshot : BotBrainSnapshot N) (self : BotBrainPlayer N) (now : N)
    (sight : Sight N) (before : Arms N) (intent : BotIntent N) : Arms N → Prop
  | beginThrow (target : Target N) (htarget : sight.target = some target) (hcool : ¬now < before.grenadeCooldownUntil)
      (hgrenade : ¬self.throwableCount.getD 0 ≤ 0 ∧ isExplosiveThrowable world (self.throwableWeapon.getD "") = true)
      (hmode : intent.mode = .grenade) (hshoot : intent.shoot = false) (huse : intent.useItem = none)
      (hstart : intent.forceShootStart = none) :
      BranchStep world snapshot self now sight before intent
        { before with
          grenadePhase := .equip
          grenadeCookUntil := now + 1600
          grenadeTargetSessionId := some target.player.sessionId }
  | useItem (item : BotUseItemIntent) (hitem : intent.useItem = some item) (hcarried : Carries self item)
      (hdue : before.nextHealAt ≤ now) (hmode : intent.mode = .heal) (hshoot : intent.shoot = false) :
      BranchStep world snapshot self now sight before intent { before with nextHealAt := now + healPause item }
  | ordinary (h : Ordinary world snapshot self sight intent.toBotIntentWithoutMovement) :
      BranchStep world snapshot self now sight before intent before

/-- What a branch does: nothing to the arms unless it decides; and the draws go on. -/
private def BranchDoes (world : BotWorld N) (snapshot : BotBrainSnapshot N) (self : BotBrainPlayer N) (now : N)
    (sight : Sight N) (before : BotMemory N) (given : Option (BotIntent N)) (after : BotMemory N) : Prop :=
  before.DrawsOn after ∧
    match given with
    | none => after.state.arms = before.state.arms
    | some intent => BranchStep world snapshot self now sight before.state.arms intent after.state.arms

private theorem branchDoes_ordinary {x : Brain N (Option (BotIntent N))}
    (h : DecidesOrdinary world snapshot self sight x)
    (memory : BotMemory N) : BranchDoes world snapshot self now sight memory (x memory).1 (x memory).2 := by
  have harms := Quiet.arms h.toMoves memory
  refine ⟨(h.moves memory).drawsOn, ?_⟩
  cases hgiven : (x memory).1 with
  | none => exact harms
  | some intent =>
    change BranchStep _ _ _ _ _ _ _ (x memory).2.state.arms
    rw [harms]
    exact .ordinary (h.gives memory intent hgiven)

private theorem throwBranch_does (memory : BotMemory N) : BranchDoes world snapshot self now sight memory
    (throwBranch world snapshot sessionId self now sight memory).1
    (throwBranch world snapshot sessionId self now sight memory).2 := by
  by_cases h : grenadeOpportunity world snapshot sessionId self now sight memory.state
  · have happly : throwBranch world snapshot sessionId self now sight memory = conclude _ .rhythm now
        { memory with state := beginThrow now sight memory.state } := congrFun (if_pos h) memory
    rw [happly]
    obtain ⟨intent, after, hconclude, hintent, hafter, hdraws⟩ := conclude_apply _ .rhythm now
        { memory with state := beginThrow now sight memory.state }
    rw [hconclude]
    refine ⟨hdraws, ?_⟩
    change BranchStep _ _ _ _ _ _ intent after.state.arms
    rw [hafter]
    obtain ⟨target, htarget, hopportunity⟩ := (Option.any_eq_true _ _).mp h
    obtain ⟨hfit, -⟩ := of_decide_eq_true hopportunity
    have harms : (beginThrow now sight memory.state).arms =
        { memory.state.arms with
          grenadePhase := .equip
          grenadeCookUntil := now + 1600
          grenadeTargetSessionId := some target.player.sessionId } := by
      unfold beginThrow
      rw [htarget]
      rfl
    rw [harms]
    exact .beginThrow target htarget (fun hcool => hfit (.inl hcool))
      ⟨fun hcount => hfit (.inr (.inl hcount)), not_not.mp fun hexplosive => hfit (.inr (.inr (.inl hexplosive)))⟩
      (congrArg (·.mode) hintent) (congrArg (·.shoot) hintent) (congrArg (·.useItem) hintent)
      (congrArg (·.forceShootStart) hintent)
  · have happly : throwBranch world snapshot sessionId self now sight memory = (none, memory) :=
      congrFun (if_neg h) memory
    rw [happly]
    exact ⟨fun _ => id, rfl⟩

private theorem medicine_spec {item : BotUseItemIntent} (h : medicine self = some item) :
    Carries self item ∧ (healPause item : N) = 10000 := by
  unfold medicine at h
  dsimp only at h
  split at h
  · cases h
    exact ⟨‹_ ∧ _›.2, rfl⟩
  · split at h
    · cases h
      exact ⟨‹_›, rfl⟩
    · split at h
      · cases h
        exact ⟨‹_›, rfl⟩
      · cases h

private theorem booster_spec {item : BotUseItemIntent} (h : booster self = some item) :
    Carries self item ∧ (healPause item : N) = 8000 := by
  unfold booster at h
  split at h
  · cases h
    exact ⟨‹_›, rfl⟩
  · split at h
    · cases h
      exact ⟨‹_›, rfl⟩
    · cases h

/-- An item is used: the next one is due after a pause. -/
private theorem beginHealing_does {item : BotUseItemIntent} {pause : N}
    (hitem : Carries self item ∧ healPause item = pause)
    {memory : BotMemory N} (hdue : memory.state.nextHealAt ≤ now) (wanderAngle healingUntil : N) :
    BranchDoes world snapshot self now sight memory
      (beginHealing now sight item wanderAngle healingUntil (now + pause) memory).1
      (beginHealing now sight item wanderAngle healingUntil (now + pause) memory).2 := by
  obtain ⟨intent, after, hconclude, hintent, hafter, hdraws⟩ :=
    conclude_apply (healIntent sight wanderAngle (some item)) .stop now
    { memory with state := { memory.state with healingUntil, nextHealAt := now + pause } }
  have happly :
      beginHealing now sight item wanderAngle healingUntil (now + pause) memory = (some intent, after) := hconclude
  rw [happly]
  refine ⟨hdraws, ?_⟩
  change BranchStep _ _ _ _ _ _ intent after.state.arms
  rw [hafter]
  obtain ⟨hcarried, rfl⟩ := hitem
  exact .useItem item (congrArg (·.useItem) hintent) hcarried hdue (congrArg (·.mode) hintent)
    (congrArg (·.shoot) hintent)

private theorem medicineBranch_does (memory : BotMemory N) : BranchDoes world snapshot self now sight memory
    (medicineBranch world self now sight memory).1 (medicineBranch world self now sight memory).2 := by
  by_cases h : self.health < 68 ∧ ¬closeThreat world self sight ∧ memory.state.nextHealAt ≤ now
  · have happly : medicineBranch world self now sight memory = _ := congrFun (if_pos h) memory
    cases hitem : medicine self with
    | none =>
      rw [happly, hitem]
      exact ⟨fun _ => id, rfl⟩
    | some item =>
      rw [happly, hitem]
      exact beginHealing_does (medicine_spec hitem) h.2.2 _ _
  · have happly : medicineBranch world self now sight memory = (none, memory) := congrFun (if_neg h) memory
    rw [happly]
    exact ⟨fun _ => id, rfl⟩

private theorem boostBranch_does (memory : BotMemory N) : BranchDoes world snapshot self now sight memory
    (boostBranch world self now sight memory).1 (boostBranch world self now sight memory).2 := by
  by_cases h : self.boost.getD 0 < 35 ∧ ¬closeThreat world self sight ∧ memory.state.nextHealAt ≤ now
  · have happly : boostBranch world self now sight memory = _ := congrFun (if_pos h) memory
    cases hitem : booster self with
    | none =>
      rw [happly, hitem]
      exact ⟨fun _ => id, rfl⟩
    | some item =>
      rw [happly, hitem]
      exact beginHealing_does (booster_spec hitem) h.2.2 _ _
  · have happly : boostBranch world self now sight memory = (none, memory) := congrFun (if_neg h) memory
    rw [happly]
    exact ⟨fun _ => id, rfl⟩

private theorem laterBranches_does (memory : BotMemory N) : BranchDoes world snapshot self now sight memory
    (laterBranches world snapshot sessionId self now sight memory).1
    (laterBranches world snapshot sessionId self now sight memory).2 := by
  refine firstOf_does (fun _ => ⟨fun _ => id, rfl⟩) (fun hbefore hafter => ?_) (fun branch hbranch memory => ?_) memory
  · rename_i given
    obtain ⟨hdraws, hbefore⟩ := hbefore
    obtain ⟨hdraws', hafter⟩ := hafter
    refine ⟨hdraws.trans hdraws', ?_⟩
    cases given with
    | none => exact hafter.trans hbefore
    | some intent =>
      change BranchStep _ _ _ _ _ _ _ _ at hafter ⊢
      rwa [hbefore] at hafter
  · simp only [List.mem_cons, List.not_mem_nil, or_false] at hbranch
    rcases hbranch with rfl | rfl | rfl | rfl | rfl | rfl | rfl | rfl | rfl | rfl | rfl | rfl
    · exact branchDoes_ordinary (unstuckBranch_ordinary world snapshot self now sight) memory
    · exact branchDoes_ordinary (edgeBranch_ordinary world snapshot sessionId self now sight) memory
    · exact branchDoes_ordinary (zoneBranch_ordinary world snapshot sessionId self now sight) memory
    · exact throwBranch_does memory
    · exact branchDoes_ordinary (healingBranch_ordinary world snapshot self now sight) memory
    · exact medicineBranch_does memory
    · exact boostBranch_does memory
    · exact branchDoes_ordinary (rescueBranch_ordinary world snapshot sessionId self now sight) memory
    · exact branchDoes_ordinary (lootBranch_ordinary world snapshot sessionId self now sight) memory
    · exact branchDoes_ordinary (flankBranch_ordinary world snapshot self now sight) memory
    · exact branchDoes_ordinary (combatBranch_ordinary world snapshot sessionId self now sight) memory
    · exact branchDoes_ordinary (huntBranch_ordinary world snapshot sessionId self now sight) memory

private theorem wanderBranch_spec (memory : BotMemory N) :
    Ordinary world snapshot self sight
        (wanderBranch world snapshot sessionId self now sight memory).1.toBotIntentWithoutMovement ∧
      Keeps BotBrainState.arms memory (wanderBranch world snapshot sessionId self now sight memory).2 := by
  have hquiet : Quiet (wanderBranch world snapshot sessionId self now sight) := by
    unfold wanderBranch
    infer_instance
  exact ⟨⟨nofun, rfl, fun h => absurd h Bool.false_ne_true⟩, hquiet.keeps_arms.moves memory⟩

private theorem downedBranch_spec (hdown : self.downed = some true) (memory : BotMemory N) :
    ∃ intent after, downedBranch world snapshot sessionId self now sight memory = (some intent, after) ∧
      intent.mode = .downed ∧ intent.shoot = false ∧ intent.useItem = none ∧
      after.state.arms = { memory.state.arms with grenadePhase := .idle } ∧ memory.DrawsOn after := by
  have hcrawl : Quiet (crawl world snapshot sessionId self now sight) := by
    unfold crawl
    infer_instance
  have hkept := hcrawl.keeps_arms.moves
    { memory with state := { memory.state with healingUntil := 0, grenadePhase := .idle } }
  exact ⟨_, _, congrFun (if_pos hdown) memory, rfl, rfl, rfl, hkept.part_eq, hkept.drawsOn⟩

/-! ### Calls -/

/-- A bot that decided to fire while it looked around aims at its target. -/
private theorem aims_of_prepared {attention : Attention N}
    (hprepared : Prepared world snapshot sessionId self now sight attention) (hfires : sight.shoot = true) :
    ∃ target, Aims world snapshot sessionId self now attention target := by
  obtain ⟨-, htarget, hshoot⟩ := hprepared
  obtain ⟨hcan, hclear⟩ := hshoot hfires
  obtain ⟨target, hsome, hclear⟩ := (Option.any_eq_true _ _).mp hclear
  rw [hsome] at hcan
  have hselected := htarget.symm.trans hsome
  unfold canShootTarget at hcan
  dsimp only at hcan
  split at hcan
  · rename_i hkind
    obtain ⟨hloaded, hrange⟩ := of_decide_eq_true hcan
    exact ⟨target, hselected, hrange, fun _ => hloaded,
      fun hother => WeaponKind.noConfusion (hkind.symm.trans hother), hclear⟩
  · rename_i hkind
    refine ⟨target, hselected, ?_, fun hgun => WeaponKind.noConfusion (hkind.symm.trans hgun),
      fun hother => WeaponKind.noConfusion (hkind.symm.trans hother), hclear⟩
    rw [weaponProfile_melee world hkind]
    exact of_decide_eq_true hcan
  · cases hcan

private theorem grenadeTarget_isSome {attention : Attention N}
    (hprepared : Prepared world snapshot sessionId self now sight attention) (state : BotBrainState N) :
    ((grenadeTarget sight state).isSome = true) = (enemiesSeen world snapshot sessionId self now attention ≠ []) := by
  obtain ⟨henemies, htarget, -⟩ := hprepared
  rw [eq_iff_iff, grenadeTarget, henemies, htarget, Option.isSome_or, Bool.or_eq_true]
  constructor
  · rintro (h | h) hnil
    · rw [hnil] at h
      cases h
    · obtain ⟨target, hsome⟩ := Option.isSome_iff_exists.mp h
      have hmem := chooseTarget_mem world hsome
      rw [hnil] at hmem
      cases hmem
  · exact fun h => .inr (chooseTarget_isSome world h _ now)

private theorem presentStep_of_branch {drawable : N → Prop} {attention : Attention N} {before : Arms N}
    (hprepared : Prepared world snapshot sessionId self now sight attention) (hup : self.downed ≠ some true)
    (hphase : before.grenadePhase = .idle) {intent : BotIntent N} {after : Arms N}
    (h : BranchStep world snapshot self now sight before intent after) :
    PresentStep world snapshot sessionId self now drawable attention before intent after := by
  cases h with
  | beginThrow target htarget hcool hgrenade hmode hshoot huse hstart =>
    obtain ⟨-, hseen, -⟩ := hprepared
    exact .beginThrow target hup hphase (hseen.symm.trans htarget) hcool hgrenade hmode hshoot huse hstart
  | useItem item hitem hcarried hdue hmode hshoot => exact .useItem item hup hphase hitem hcarried hdue hmode hshoot
  | ordinary h =>
    obtain ⟨hmode, huse, hshoot⟩ := h
    exact .ordinary hup hphase hmode huse fun hfires => (hshoot hfires).imp_left (aims_of_prepared hprepared)

/-- What the branches do, once the bot has looked around. -/
private theorem branches_step {drawable : N → Prop} {attention : Attention N} {before : Arms N}
    {prepared : BotMemory N} (hprepared : Prepared world snapshot sessionId self now sight attention)
    (harms : prepared.state.arms = before) (hdrawable : ∀ value, prepared.Drawable value → drawable value) :
    PresentStep world snapshot sessionId self now drawable attention before
        (decideSeen world snapshot sessionId self now sight prepared).1
        (decideSeen world snapshot sessionId self now sight prepared).2.state.arms ∧
      prepared.DrawsOn (decideSeen world snapshot sessionId self now sight prepared).2 := by
  rw [decideSeen, bind_apply]
  by_cases hdown : self.downed = some true
  · obtain ⟨intent, after, happly, hmode, hshoot, huse, hafter, hdraws⟩ :=
      @downedBranch_spec N _ world snapshot sessionId self now sight hdown prepared
    rw [firstOf_cons_some happly]
    refine ⟨?_, hdraws⟩
    change PresentStep _ _ _ _ _ _ _ _ intent after.state.arms
    rw [hafter, harms]
    exact .down hdown hmode hshoot huse
  · have hup : downedBranch world snapshot sessionId self now sight prepared = (none, prepared) :=
      congrFun (if_neg hdown) prepared
    have hphases : prepared.state.grenadePhase = before.grenadePhase := congrArg (·.grenadePhase) harms
    rw [firstOf_cons_none hup]
    by_cases hphase : prepared.state.grenadePhase = .idle
    · have hidle := hphases.symm.trans hphase
      rw [firstOf_cons_none (grenadeBranch_idle hphase)]
      have hlater := @laterBranches_does N _ world snapshot sessionId self now sight prepared
      cases hgiven : laterBranches world snapshot sessionId self now sight prepared with
      | mk given after =>
        rw [hgiven] at hlater
        obtain ⟨hdraws, hlater⟩ := hlater
        cases given with
        | none =>
          rw [firstOf_cons_none hgiven]
          obtain ⟨hordinary, hafter, hdraws'⟩ := @wanderBranch_spec N _ world snapshot sessionId self now sight after
          refine ⟨?_, hdraws.trans hdraws'⟩
          change PresentStep _ _ _ _ _ _ _ _ _
            (wanderBranch world snapshot sessionId self now sight after).2.state.arms
          rw [hafter.trans (hlater.trans harms)]
          exact presentStep_of_branch hprepared hdown hidle (.ordinary hordinary)
        | some intent =>
          rw [firstOf_cons_some hgiven]
          refine ⟨?_, hdraws⟩
          change PresentStep _ _ _ _ _ _ _ _ intent after.state.arms
          have hstep : BranchStep world snapshot self now sight before intent after.state.arms := harms ▸ hlater
          exact presentStep_of_branch hprepared hdown hidle hstep
    · obtain ⟨intent, after, happly, hmode, huse, hstep, hdraws⟩ :=
        @grenadeBranch_step N _ world self now sight prepared hphase
      rw [firstOf_cons_some happly]
      rw [grenadeTarget_isSome hprepared, harms] at hstep
      exact ⟨.throwing hdown (hphases ▸ hphase) hmode huse (hstep.mono hdrawable), hdraws⟩

theorem decidePresent_step {drawable : N → Prop} (actions : BotActions) {memory : BotMemory N}
    (hdrawable : ∀ value, memory.Drawable value → drawable value) :
    PresentStep world snapshot sessionId self now drawable memory.state.attention memory.state.arms
        (decidePresent world snapshot sessionId self now actions memory).1
        (decidePresent world snapshot sessionId self now actions memory).2.state.arms ∧
      memory.DrawsOn (decidePresent world snapshot sessionId self now actions memory).2 := by
  obtain ⟨hprepared, harms, hdraws⟩ := prepare_spec world snapshot sessionId self now actions memory
  rw [decidePresent, bind_apply]
  obtain ⟨hstep, hdraws'⟩ := branches_step hprepared harms fun value hvalue => hdrawable value (hdraws value hvalue)
  exact ⟨hstep, hdraws.trans hdraws'⟩

theorem decideAbsent_step (actions : BotActions) (memory : BotMemory N) :
    (decideAbsent now actions memory).1.mode = .wander ∧ (decideAbsent now actions memory).1.shoot = false ∧
      (decideAbsent now actions memory).1.useItem = none ∧
      (decideAbsent now actions memory).2.state.arms =
        { memory.state.arms with grenadePhase := .idle, grenadeCookUntil := 0, grenadeTargetSessionId := none } ∧
      memory.DrawsOn (decideAbsent now actions memory).2 := by
  have hrest : Quiet (do
      redecideWander now 550 500
      let state ← getState
      finishIntent
        { mode := .wander
          moveAngle := state.wanderAngle
          aimAngle := state.wanderAngle
          aimDistance := 48
          shoot := false
          interact := actions.interact
          reload := actions.reload }
        .rhythm now : Brain N (BotIntent N)) := by
    infer_instance
  have hkept := hrest.keeps_arms.moves { memory with state := forgetWorld memory.state }
  exact ⟨rfl, rfl, rfl, hkept.part_eq, hkept.drawsOn⟩

end Opsia.BotDecision
