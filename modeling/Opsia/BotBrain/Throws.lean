import Opsia.BotBrain.FireDiscipline

/-!
# Throws and items over a run

Two rhythms that only whole runs show.  An item is used only when the pause behind the last one is over, and only if
the bot carries it (`items_paced`).  A grenade is thrown in one order: between two pins a new throw is begun, and no
throw is begun before the cooldown of the last one is over (`throws_in_order`).
-/

namespace Opsia.BotDecision

open Effects

variable {N : Type} [JsMath N] {world : BotWorld N} {sessionId : String} {drawable : N → Prop}

/-! ### Items -/

/-- The call uses the item. -/
def UsesItem (step : BotStep N) (item : BotUseItemIntent) : Prop := step.intent.useItem = some item

private theorem usesItem_step {step : BotStep N} {item : BotUseItemIntent} (h : CallStep world sessionId drawable step)
    (huse : UsesItem step item) :
    ∃ snapshot self, Sees sessionId step.call snapshot self ∧ Carries self item ∧ step.intent.shoot = false ∧
      step.before.nextHealAt ≤ step.call.now ∧ step.after.nextHealAt = step.call.now + healPause item := by
  change ∃ snapshot self, Sees sessionId step.call snapshot self ∧ Carries self item ∧ step.intent.shoot = false ∧
    step.before.arms.nextHealAt ≤ step.call.now ∧ step.after.arms.nextHealAt = step.call.now + healPause item
  cases h with
  | absent _ _ _ hnone => cases hnone.symm.trans huse
  | present snapshot self hpresent hstep =>
    generalize step.after.arms = after at hstep ⊢
    cases hstep with
    | down _ _ _ hnone => cases hnone.symm.trans huse
    | throwing _ _ _ hnone => cases hnone.symm.trans huse
    | beginThrow _ _ _ _ _ _ _ _ hnone => cases hnone.symm.trans huse
    | ordinary _ _ _ hnone => cases hnone.symm.trans huse
    | useItem other hup _ hitem hcarried hdue _ hshoot =>
      cases Option.some.inj (hitem.symm.trans huse)
      exact ⟨snapshot, self, sees_of_present hpresent hup, hcarried, hshoot, hdue, rfl⟩

private theorem nextHealAt_kept {step : BotStep N} (h : CallStep world sessionId drawable step)
    (hnone : step.intent.useItem = none) :
    step.after.nextHealAt = step.before.nextHealAt := by
  change step.after.arms.nextHealAt = step.before.arms.nextHealAt
  cases h with
  | absent _ _ _ _ hafter => rw [hafter]
  | present snapshot self hpresent hstep =>
    generalize step.after.arms = after at hstep ⊢
    cases hstep with
    | down => rfl
    | throwing _ _ _ _ hstep => cases hstep <;> rfl
    | beginThrow => rfl
    | useItem item _ _ hitem => cases hnone.symm.trans hitem
    | ordinary => rfl

/-- In every run, an item is used only by a bot that sees, does not fire and carries it, and from one use to the next
the pause of the first one's kind goes by. -/
theorem items_paced (world : BotWorld N) (sessionId : String) (random : ℕ → N) (calls : List (BotCall N)) :
    (∀ step ∈ botRun world sessionId calls (createdMemory random), ∀ item, UsesItem step item →
      step.intent.shoot = false ∧ ∃ snapshot self, Sees sessionId step.call snapshot self ∧ Carries self item) ∧
    ∀ earlier first between second later item item',
      botRun world sessionId calls (createdMemory random) = earlier ++ first :: (between ++ second :: later) →
      UsesItem first item → UsesItem second item' → (∀ step ∈ between, step.intent.useItem = none) →
      first.call.now + healPause item ≤ second.call.now := by
  have hsteps := botRun_steps world sessionId calls (createdMemory random) fun _ => id
  refine ⟨fun step hstep item huse => ?_,
    fun earlier first between second later item item' hrun hfirst hsecond hnone => ?_⟩
  · obtain ⟨snapshot, self, hsees, hcarried, hshoot, -⟩ := usesItem_step (hsteps step hstep) huse
    exact ⟨hshoot, snapshot, self, hsees, hcarried⟩
  · have hchain := botRun_chain world sessionId calls (createdMemory random)
    rw [hrun] at hsteps hchain
    obtain ⟨-, -, -, -, -, -, hpause⟩ := usesItem_step (hsteps first (by simp)) hfirst
    obtain ⟨-, -, -, -, -, hdue, -⟩ := usesItem_step (hsteps second (by simp)) hsecond
    have hkept : second.before.nextHealAt = first.call.now + healPause item :=
      chain_kept (fun state => state.nextHealAt = first.call.now + healPause item) (chain_between hchain)
        (fun step hstep hbefore =>
          (nextHealAt_kept (hsteps step (by simp [hstep])) (hnone step hstep)).trans hbefore) hpause
    rwa [hkept] at hdue

/-! ### Throws -/

/-- The call begins a throw. -/
def BeginsThrow (step : BotStep N) : Prop :=
  step.before.grenadePhase = .idle ∧ step.after.grenadePhase = .equip

/-- The call ends a throw of the bot. -/
def EndsThrow (step : BotStep N) : Prop :=
  step.intent.mode = .grenade ∧ step.before.grenadePhase ≠ .idle ∧ step.after.grenadePhase = .idle

/-- What a call does to the throw: the phase before and behind it, and the cooldown. -/
private inductive ThrowEdge (drawable : N → Prop) (step : BotStep N) : Prop
  | giveUp (hmode : step.intent.mode ≠ .grenade) (hafter : step.after.grenadePhase = .idle)
      (hcool : step.after.grenadeCooldownUntil = step.before.grenadeCooldownUntil)
  | start (hbefore : step.before.grenadePhase = .idle) (hafter : step.after.grenadePhase = .equip)
      (htime : ¬step.call.now < step.before.grenadeCooldownUntil) (hstart : step.intent.forceShootStart = none)
      (hcool : step.after.grenadeCooldownUntil = step.before.grenadeCooldownUntil)
  | pin (hbefore : step.before.grenadePhase = .equip) (hafter : step.after.grenadePhase = .cook)
      (hcool : step.after.grenadeCooldownUntil = step.before.grenadeCooldownUntil)
  | stay (hpin : ¬PullsPin step) (hafter : step.after.grenadePhase = step.before.grenadePhase)
      (hcool : step.after.grenadeCooldownUntil = step.before.grenadeCooldownUntil)
  | release (hpin : ¬PullsPin step) (hafter : step.after.grenadePhase = .release)
      (hcool : step.after.grenadeCooldownUntil = step.before.grenadeCooldownUntil)
  | finish (drawn : N) (hdrawn : drawable drawn) (hmode : step.intent.mode = .grenade) (hpin : ¬PullsPin step)
      (hbefore : step.before.grenadePhase ≠ .idle) (hafter : step.after.grenadePhase = .idle)
      (hcool : step.after.grenadeCooldownUntil = step.call.now + 7000 + drawn * 5000)

omit [JsMath N] in
private theorem not_pullsPin {step : BotStep N} (h : step.intent.forceShootStart = none) : ¬PullsPin step :=
  fun hpin => nomatch h.symm.trans hpin.2

private theorem throwEdge_of_step {step : BotStep N} (h : CallStep world sessionId drawable step) :
    ThrowEdge drawable step := by
  obtain ⟨call, before, intent, after⟩ := step
  cases h with
  | absent _ hmode _ _ hafter =>
    exact .giveUp (by rw [hmode]; decide) (congrArg (·.grenadePhase) hafter) (congrArg (·.grenadeCooldownUntil) hafter)
  | present snapshot self hpresent hstep =>
    dsimp only at hstep
    generalize hafter : after.arms = arms at hstep
    have hphase : after.grenadePhase = arms.grenadePhase := congrArg (·.grenadePhase) hafter
    have hcool : after.grenadeCooldownUntil = arms.grenadeCooldownUntil := congrArg (·.grenadeCooldownUntil) hafter
    cases hstep with
    | down _ hmode => exact .giveUp (by rw [hmode]; decide) hphase hcool
    | throwing _ hthrow hmode _ hstep =>
      cases hstep with
      | cook _ _ hequip => exact .pin hequip hphase hcool
      | wait _ _ _ _ _ hstart => exact .stay (not_pullsPin hstart) hphase hcool
      | hold _ _ _ _ hstart => exact .stay (not_pullsPin hstart) hphase hcool
      | release _ _ _ hstart => exact .release (not_pullsPin hstart) hphase hcool
      | recover drawn hdrawn _ _ hstart => exact .finish drawn hdrawn hmode (not_pullsPin hstart) hthrow hphase hcool
    | beginThrow _ _ hidle _ htime _ _ _ _ hstart => exact .start hidle hphase htime hstart hcool
    | useItem _ _ _ _ _ _ hmode => exact .stay (fun hpin => nomatch hmode.symm.trans hpin.1) hphase hcool
    | ordinary _ _ hmode => exact .stay (fun hpin => hmode hpin.1) hphase hcool

private theorem equip_begun {step : BotStep N} (h : ThrowEdge drawable step)
    (hafter : step.after.grenadePhase = .equip) :
    BeginsThrow step ∨ step.before.grenadePhase = .equip := by
  cases h with
  | giveUp _ hidle => cases hidle.symm.trans hafter
  | start hidle => exact .inl ⟨hidle, hafter⟩
  | pin _ hcook => cases hcook.symm.trans hafter
  | stay _ hkept => exact .inr (hkept.symm.trans hafter)
  | release _ hreleased => cases hreleased.symm.trans hafter
  | finish _ _ _ _ _ hidle => cases hidle.symm.trans hafter

private theorem pin_step {step : BotStep N} (h : ThrowEdge drawable step) (hpin : PullsPin step) :
    step.before.grenadePhase = .equip ∧ step.after.grenadePhase = .cook := by
  cases h with
  | giveUp hmode => exact absurd hpin.1 hmode
  | start _ _ _ hstart => exact absurd hpin (not_pullsPin hstart)
  | pin hequip hcook => exact ⟨hequip, hcook⟩
  | stay hnone => exact absurd hpin hnone
  | release hnone => exact absurd hpin hnone
  | finish _ _ _ hnone => exact absurd hpin hnone

private theorem begin_step {step : BotStep N} (h : ThrowEdge drawable step) (hbegin : BeginsThrow step) :
    ¬step.call.now < step.before.grenadeCooldownUntil := by
  obtain ⟨hidle, hequip⟩ := hbegin
  cases h with
  | giveUp _ hafter => cases hafter.symm.trans hequip
  | start _ _ htime => exact htime
  | pin hbefore => cases hbefore.symm.trans hidle
  | stay _ hafter => cases (hafter.symm.trans hequip).symm.trans hidle
  | release _ hafter => cases hafter.symm.trans hequip
  | finish _ _ _ _ hbefore => exact absurd hidle hbefore

private theorem end_step {step : BotStep N} (h : ThrowEdge drawable step) (hend : EndsThrow step) :
    ∃ drawn, drawable drawn ∧ step.after.grenadeCooldownUntil = step.call.now + 7000 + drawn * 5000 := by
  obtain ⟨hmode, hbefore, hidle⟩ := hend
  cases h with
  | giveUp hother => exact absurd hmode hother
  | start hbegun => exact absurd hbegun hbefore
  | pin _ hafter => cases hafter.symm.trans hidle
  | stay _ hafter => exact absurd (hafter.symm.trans hidle) hbefore
  | release _ hafter => cases hafter.symm.trans hidle
  | finish drawn hdrawn _ _ _ _ hcool => exact ⟨drawn, hdrawn, hcool⟩

private theorem cooldown_kept {step : BotStep N} (h : ThrowEdge drawable step) (hend : ¬EndsThrow step) :
    step.after.grenadeCooldownUntil = step.before.grenadeCooldownUntil := by
  cases h with
  | giveUp _ _ hcool => exact hcool
  | start _ _ _ _ hcool => exact hcool
  | pin _ _ hcool => exact hcool
  | stay _ _ hcool => exact hcool
  | release _ _ hcool => exact hcool
  | finish _ _ hmode _ hbefore hafter => exact absurd ⟨hmode, hbefore, hafter⟩ hend

end Opsia.BotDecision
