import Opsia.Game.References
import Opsia.Machine

/-!
# Sessions that rejoin in any order

Every entry of a side table is resolved when its session rejoins, whatever the order (`Filled`).  Two kinds of object
ids are not in the side tables: the target of a player's action, which is captured by its id alone and whose entry is
only looked at when a session rejoins, and the ids that a snapshot keeps because no player had them.  So the references
name the same sessions as long as no rejoining player gets such an id, and no player rejoins with an action on another
that is not already there under its old id (`same_sessions_iff`).
-/

namespace Opsia

open Machine

namespace RestoredGame

variable {snapshot : Snapshot}

/-! ### Object ids -/

theorem sessionForObjectId_restorePlayer {g : RestoredGame} {id : Nat} (hid : id ≠ 0)
    (hfree : ∀ p ∈ g.players, p.id ≠ id) (sessionId : String) (state : PlayerState) (x : Nat) :
    (g.restorePlayer sessionId id state).sessionForObjectId x =
      if x = id then some sessionId else g.sessionForObjectId x := by
  unfold sessionForObjectId restorePlayer
  dsimp only
  rw [List.find?_append, List.find?_map]
  by_cases hx : x = id
  · have hnone : g.players.find? ((fun p => decide (p.id = x)) ∘
        fun p => { p with actionTarget := p.actionTarget.resolve sessionId id }) = none := by
      refine List.find?_eq_none.2 fun p hp hyes => ?_
      exact hfree p hp ((of_decide_eq_true hyes).trans hx)
    rw [hnone, if_pos hx, if_neg (hx ▸ hid), Option.map_none, Option.none_or, List.find?_singleton,
      if_pos (decide_eq_true hx.symm)]
    rfl
  · have hnew : List.find? (fun p => decide (p.id = x))
        [(⟨id, sessionId, (state.action.map (ActionState.restore sessionId id)).getD ⟨0, none⟩⟩ : Player)] = none := by
      rw [List.find?_singleton, if_neg]
      exact fun hyes => hx (of_decide_eq_true hyes).symm
    rw [hnew, Option.or_none, if_neg hx, Option.map_map]
    rfl

/-- The session has a player in the game. -/
def Rejoined (g : RestoredGame) (sessionId : String) : Prop := ∃ p ∈ g.players, p.opsiaSessionId = sessionId

theorem rejoined_restorePlayer (g : RestoredGame) (sessionId : String) (id : Nat) (state : PlayerState) (s : String) :
    (g.restorePlayer sessionId id state).Rejoined s ↔ g.Rejoined s ∨ s = sessionId := by
  unfold Rejoined restorePlayer
  dsimp only
  constructor
  · rintro ⟨p, hp, hs⟩
    rcases List.mem_append.1 hp with hp | hp
    · obtain ⟨q, hq, rfl⟩ := List.mem_map.1 hp
      exact Or.inl ⟨q, hq, hs⟩
    · rw [List.mem_singleton.1 hp] at hs
      exact Or.inr hs.symm
  · rintro (⟨p, hp, hs⟩ | rfl)
    · exact ⟨_, List.mem_append_left _ (List.mem_map_of_mem hp), hs⟩
    · exact ⟨_, List.mem_append_right _ (List.mem_singleton_self _), rfl⟩

theorem rejoined_of_sessionForObjectId {g : RestoredGame} {id : Nat} {sessionId : String}
    (h : g.sessionForObjectId id = some sessionId) : g.Rejoined sessionId := by
  unfold sessionForObjectId at h
  split at h
  · cases h
  · obtain ⟨p, hp, hs⟩ := Option.map_eq_some_iff.1 h
    exact ⟨p, List.mem_of_find?_eq_some hp, hs⟩

theorem sessionForObjectId_zero (g : RestoredGame) : g.sessionForObjectId 0 = none := if_pos rfl

theorem sessionForObjectId_free {g : RestoredGame} {id : Nat} (hfree : ∀ p ∈ g.players, p.id ≠ id) :
    g.sessionForObjectId id = none := by
  unfold sessionForObjectId
  split
  · rfl
  · rw [List.find?_eq_none.2 fun p hp hyes => hfree p hp (of_decide_eq_true hyes)]
    rfl

/-! ### References in the side tables -/

/-- The reference waits for the session it names, or is to its player. -/
def Reference.Fits (g : RestoredGame) (id : Nat) (name : Option String) (r : Reference) : Prop :=
  (r.pending = name ∧ r.id = id ∧ ∀ s, name = some s → ¬g.Rejoined s) ∨
    (r.pending = none ∧ ∃ s, name = some s ∧ g.sessionForObjectId r.id = some s)

theorem Reference.fits_awaiting {g : RestoredGame} (h : g.players = []) (id : Nat) (name : Option String) :
    Fits g id name ⟨id, name⟩ := by
  refine Or.inl ⟨rfl, rfl, fun s _ hs => ?_⟩
  obtain ⟨p, hp, -⟩ := hs
  rw [h] at hp
  cases hp

theorem Reference.Fits.resolve {g : RestoredGame} {sessionId : String} {id : Nat} {state : PlayerState} (hid : id ≠ 0)
    (hfree : ∀ p ∈ g.players, p.id ≠ id) {raw : Nat} {name : Option String} {r : Reference} (h : r.Fits g raw name) :
    (r.resolve sessionId id).Fits (g.restorePlayer sessionId id state) raw name := by
  have hlookup := sessionForObjectId_restorePlayer hid hfree sessionId state
  unfold Reference.resolve
  rcases h with ⟨hpending, hr, hno⟩ | ⟨hpending, s, hname, hs⟩
  · split
    · rename_i hself
      refine Or.inr ⟨rfl, sessionId, hpending.symm.trans hself, ?_⟩
      rw [hlookup, if_pos rfl]
    · rename_i hself
      refine Or.inl ⟨hpending, hr, fun s hname hs => ?_⟩
      rcases (rejoined_restorePlayer g sessionId id state s).1 hs with hs | rfl
      · exact hno s hname hs
      · exact hself (hpending.trans hname)
  · rw [hpending, if_neg (Option.some_ne_none sessionId).symm]
    refine Or.inr ⟨hpending, s, hname, ?_⟩
    have hne : r.id ≠ id := by
      intro heq
      rw [heq, sessionForObjectId_free hfree] at hs
      cases hs
    rw [hlookup, if_neg hne]
    exact hs

/-- A reference that fits is captured as what it names, if the id it has been restored with is no player's. -/
theorem Reference.Fits.captured {g : RestoredGame} {raw : Nat} {name : Option String} {r : Reference}
    (h : r.Fits g raw name) (hraw : name = none → g.sessionForObjectId raw = none) : g.captureReference r = name := by
  unfold captureReference
  rcases h with ⟨hpending, hr, -⟩ | ⟨hpending, s, hname, hs⟩
  · rw [hpending, hr]
    cases name with
    | none => rw [hraw rfl]; rfl
    | some s => rfl
  · rw [hpending, hs, hname]
    rfl

/-- Obstacles are captured by the id first. -/
theorem Reference.Fits.captured_id {g : RestoredGame} {name : Option String} {r : Reference} (h : r.Fits g 0 name) :
    (g.sessionForObjectId r.id).or r.pending = name := by
  rcases h with ⟨hpending, hr, -⟩ | ⟨hpending, s, hname, hs⟩
  · rw [hpending, hr, sessionForObjectId_zero]
    rfl
  · rw [hs, hname]
    rfl

/-! ### Filling in -/

def Obstacle.Fits (g : RestoredGame) (o : Obstacle) (state : ObstacleState) : Prop :=
  o.interactedBy.Fits g 0 state.interactedBySessionId ∧ o.delayedPlayer.Fits g 0 state.delayedPlayerSessionId ∧
    o.owner.Fits g 0 state.ownerSessionId ∧ o.skinPlayer.Fits g 0 state.skinPlayerSessionId

/-- The ids of the players that a bullet has damaged, with the sessions that it waits for. -/
structure Bullet.Damaged (g : RestoredGame) (b : Bullet) (state : BulletState) : Prop where
  pending : ∀ s, s ∈ b.damagedPending ↔ s ∈ state.damagedPlayerSessionIds ∧ ¬g.Rejoined s
  ids : ∀ id ∈ b.damagedObjIds,
    id ∈ state.damagedObjectIds ∨ ∃ s ∈ state.damagedPlayerSessionIds, g.sessionForObjectId id = some s
  kept : ∀ id ∈ state.damagedObjectIds, id ∈ b.damagedObjIds
  rejoined : ∀ s ∈ state.damagedPlayerSessionIds, g.Rejoined s →
    ∃ id ∈ b.damagedObjIds, g.sessionForObjectId id = some s

def Bullet.Fits (g : RestoredGame) (b : Bullet) (state : BulletState) : Prop :=
  b.source.Fits g 0 state.sourceSessionId ∧
    b.reflect.Fits g state.reflectObjectId state.reflectPlayerSessionId ∧ b.Damaged g state

/-- Whatever the order, the entries of the sessions that have rejoined are resolved and the others wait. -/
structure Filled (snapshot : Snapshot) (g : RestoredGame) : Prop where
  waiting : ∀ s state, g.restoredPlayers s = some state → snapshot.player s = some state ∧ ¬g.Rejoined s
  known : ∀ p ∈ g.players, ∃ state, snapshot.player p.opsiaSessionId = some state
  obstacles : List.Forall₂ (Obstacle.Fits g) g.obstacles snapshot.obstacles
  loot : List.Forall₂ (fun r name => r.Fits g 0 name) g.loot snapshot.loot
  projectiles : List.Forall₂ (fun r name => r.Fits g 0 name) g.projectiles snapshot.projectiles
  bullets : List.Forall₂ (Bullet.Fits g) g.bullets snapshot.bullets
  explosions : List.Forall₂ (fun r name => r.Fits g 0 name) g.explosions snapshot.explosions
  deadBodies : List.Forall₂ (fun r name => r.Fits g 0 name) g.deadBodies snapshot.deadBodies

theorem not_rejoined {g : RestoredGame} (h : g.players = []) (s : String) : ¬g.Rejoined s := by
  rintro ⟨p, hp, -⟩
  rw [h] at hp
  cases hp

theorem filled_restoreGame (snapshot : Snapshot) : Filled snapshot (restoreGame snapshot) := by
  have hnone : (restoreGame snapshot).players = [] := rfl
  have hrefs (names : List (Option String)) :
      List.Forall₂ (fun (r : Reference) name => r.Fits (restoreGame snapshot) 0 name)
        (names.map Reference.awaiting) names :=
    List.forall₂_map_left_iff.2 (List.forall₂_same.2 fun name _ => Reference.fits_awaiting hnone 0 name)
  refine ⟨fun s state h => ⟨h, not_rejoined hnone s⟩, fun p hp => ?_, ?_, hrefs _, hrefs _, ?_, hrefs _, hrefs _⟩
  · rw [hnone] at hp
    cases hp
  · refine List.forall₂_map_left_iff.2 (List.forall₂_same.2 fun state _ => ?_)
    have hfits := Reference.fits_awaiting hnone 0
    exact ⟨hfits _, hfits _, hfits _, hfits _⟩
  · refine List.forall₂_map_left_iff.2 (List.forall₂_same.2 fun state _ => ?_)
    refine ⟨Reference.fits_awaiting hnone 0 _, Reference.fits_awaiting hnone _ _, ?_⟩
    refine ⟨fun s => ?_, fun id hid => Or.inl hid, fun id hid => hid, fun s _ hs => absurd hs (not_rejoined hnone s)⟩
    exact (and_iff_left (not_rejoined hnone s)).symm

theorem Bullet.Damaged.resolve {g : RestoredGame} {sessionId : String} {id : Nat} {state : PlayerState} (hid : id ≠ 0)
    (hfree : ∀ p ∈ g.players, p.id ≠ id) {b : Bullet} {shot : BulletState} (h : b.Damaged g shot) :
    (b.resolve sessionId id).Damaged (g.restorePlayer sessionId id state) shot := by
  have hlookup := sessionForObjectId_restorePlayer hid hfree sessionId state
  have hrejoined := rejoined_restorePlayer g sessionId id state
  -- An id that is a player's keeps its session, since the new id is free.
  have hkeeps : ∀ x s, g.sessionForObjectId x = some s →
      (g.restorePlayer sessionId id state).sessionForObjectId x = some s := by
    intro x s hx
    have hne : x ≠ id := by
      intro heq
      rw [heq, sessionForObjectId_free hfree] at hx
      cases hx
    rw [hlookup, if_neg hne]
    exact hx
  have hmono : ∀ x ∈ b.damagedObjIds, x ∈ (b.resolve sessionId id).damagedObjIds := by
    intro x hx
    unfold Bullet.resolve
    dsimp only
    split
    · exact List.mem_append_left _ hx
    · exact hx
  refine ⟨fun s => ?_, fun x hx => ?_, fun x hx => hmono x (h.kept x hx), fun s hs hin => ?_⟩
  · have hmem : s ∈ (b.resolve sessionId id).damagedPending ↔ s ∈ b.damagedPending ∧ s ≠ sessionId := by
      unfold Bullet.resolve
      rw [List.mem_filter, decide_eq_true_iff]
    rw [hmem, h.pending s, hrejoined s, not_or, and_assoc]
  · unfold Bullet.resolve at hx
    dsimp only at hx
    have hold : x ∈ b.damagedObjIds → x ∈ shot.damagedObjectIds ∨
        ∃ s ∈ shot.damagedPlayerSessionIds, (g.restorePlayer sessionId id state).sessionForObjectId x = some s := by
      intro hx
      rcases h.ids x hx with hraw | ⟨s, hs, hlook⟩
      · exact Or.inl hraw
      · exact Or.inr ⟨s, hs, hkeeps x s hlook⟩
    split at hx
    · rename_i hpending
      rcases List.mem_append.1 hx with hx | hx
      · exact hold hx
      · refine Or.inr ⟨sessionId, ((h.pending sessionId).1 hpending).1, ?_⟩
        rw [hlookup, if_pos (List.mem_singleton.1 hx)]
    · exact hold hx
  · have hold : g.Rejoined s → ∃ x ∈ (b.resolve sessionId id).damagedObjIds,
        (g.restorePlayer sessionId id state).sessionForObjectId x = some s := by
      intro hin
      obtain ⟨x, hx, hlook⟩ := h.rejoined s hs hin
      exact ⟨x, hmono x hx, hkeeps x s hlook⟩
    by_cases hbefore : g.Rejoined s
    · exact hold hbefore
    · rcases (hrejoined s).1 hin with hin | rfl
      · exact hold hin
      · refine ⟨id, ?_, ?_⟩
        · unfold Bullet.resolve
          rw [if_pos ((h.pending s).2 ⟨hs, hbefore⟩)]
          exact List.mem_append_right _ (List.mem_singleton_self _)
        · rw [hlookup, if_pos rfl]

theorem Filled.restorePlayer {g : RestoredGame} {sessionId : String} {id : Nat} {state : PlayerState} (hid : id ≠ 0)
    (hfree : ∀ p ∈ g.players, p.id ≠ id) (hstate : g.restoredPlayers sessionId = some state) (h : Filled snapshot g) :
    Filled snapshot (g.restorePlayer sessionId id state) := by
  have hrefs {rs : List Reference} {names : List (Option String)}
      (hrs : List.Forall₂ (fun r name => r.Fits g 0 name) rs names) :
      List.Forall₂ (fun r name => r.Fits (g.restorePlayer sessionId id state) 0 name)
        (rs.map (Reference.resolve sessionId id)) names :=
    List.forall₂_map_left_iff.2 (hrs.imp fun r name hr => hr.resolve hid hfree)
  refine ⟨fun s other hs => ?_, fun p hp => ?_, ?_, hrefs h.loot, hrefs h.projectiles, ?_, hrefs h.explosions,
    hrefs h.deadBodies⟩
  · by_cases hself : s = sessionId
    · have hnone : (g.restorePlayer sessionId id state).restoredPlayers s = none := by
        rw [hself]
        exact Function.update_self ..
      rw [hnone] at hs
      cases hs
    · have hsame : (g.restorePlayer sessionId id state).restoredPlayers s = g.restoredPlayers s :=
        Function.update_of_ne hself ..
      rw [hsame] at hs
      obtain ⟨hplayer, hno⟩ := h.waiting s other hs
      refine ⟨hplayer, fun hin => ?_⟩
      rcases (rejoined_restorePlayer g sessionId id state s).1 hin with hin | heq
      · exact hno hin
      · exact hself heq
  · rcases List.mem_append.1 hp with hp | hp
    · obtain ⟨q, hq, rfl⟩ := List.mem_map.1 hp
      exact h.known q hq
    · rw [List.mem_singleton.1 hp]
      exact ⟨state, (h.waiting sessionId state hstate).1⟩
  · refine List.forall₂_map_left_iff.2 (h.obstacles.imp fun o st ho => ?_)
    obtain ⟨h1, h2, h3, h4⟩ := ho
    exact ⟨h1.resolve hid hfree, h2.resolve hid hfree, h3.resolve hid hfree, h4.resolve hid hfree⟩
  · refine List.forall₂_map_left_iff.2 (h.bullets.imp fun b shot hb => ?_)
    obtain ⟨h1, h2, h3⟩ := hb
    exact ⟨h1.resolve hid hfree, h2.resolve hid hfree, h3.resolve hid hfree⟩

/-! ### Object ids outside the side tables -/

/-- The ids that the state of a bullet keeps are players' of the sessions that it names. -/
structure BulletState.Kept (g : RestoredGame) (b : BulletState) : Prop where
  reflected : b.reflectPlayerSessionId = none → g.sessionForObjectId b.reflectObjectId = none
  damaged : ∀ id ∈ b.damagedObjectIds, ∀ s, g.sessionForObjectId id = some s → s ∈ b.damagedPlayerSessionIds

/-- The ids outside the side tables are players' of the sessions that the snapshot names for them. -/
structure Named (snapshot : Snapshot) (g : RestoredGame) : Prop where
  bullets : ∀ b ∈ snapshot.bullets, b.Kept g
  targets : ∀ p ∈ g.players, ∀ state ∈ snapshot.player p.opsiaSessionId,
    g.sessionForObjectId p.actionTarget.id = state.targetSessionId

theorem named_restoreGame (snapshot : Snapshot) : Named snapshot (restoreGame snapshot) := by
  have hnone (id : Nat) : (restoreGame snapshot).sessionForObjectId id = none := by
    refine sessionForObjectId_free fun p hp => ?_
    cases hp
  refine ⟨fun b _ => ⟨fun _ => hnone _, fun id _ s hs => ?_⟩, fun p hp => ?_⟩
  · rw [hnone] at hs
    cases hs
  · cases hp

theorem captureReferences {g : RestoredGame} {rs : List Reference} {names : List (Option String)}
    (h : List.Forall₂ (fun r name => r.Fits g 0 name) rs names) : rs.map g.captureReference = names := by
  refine List.forall₂_eq_eq_eq ▸ List.forall₂_map_left_iff.2 (h.imp fun r name hr => ?_)
  exact hr.captured fun _ => sessionForObjectId_zero g

theorem captureObstacle_of_fits {g : RestoredGame} {o : Obstacle} {state : ObstacleState} (h : o.Fits g state) :
    g.captureObstacle o = state := by
  obtain ⟨h1, h2, h3, h4⟩ := h
  unfold captureObstacle
  rw [h1.captured_id, h2.captured_id, h3.captured_id, h4.captured_id]

theorem mem_captureBullet_damaged {g : RestoredGame} {b : Bullet} {s : String} :
    s ∈ (g.captureBullet b).damagedPlayerSessionIds ↔
      s ∈ b.damagedPending ∨ ∃ id ∈ b.damagedObjIds, g.sessionForObjectId id = some s := by
  unfold captureBullet
  dsimp only
  rw [List.mem_append, List.mem_filterMap]

/-- A bullet whose entries are filled is captured under the same sessions if the ids it was restored with are. -/
theorem captureBullet_sameSessions_iff {g : RestoredGame} {b : Bullet} {state : BulletState} (h : b.Fits g state) :
    (g.captureBullet b).SameSessions state ↔ state.Kept g := by
  obtain ⟨hsource, hreflect, hdamaged⟩ := h
  constructor
  · rintro ⟨-, hname, hsessions⟩
    refine ⟨fun hnone => ?_, fun id hid s hs => ?_⟩
    · rcases hreflect with ⟨hpending, hid, -⟩ | ⟨-, s, hs, -⟩
      · have hcaptured : b.reflect.pending.or (g.sessionForObjectId b.reflect.id) = state.reflectPlayerSessionId := hname
        rw [hpending, hnone, Option.none_or, hid] at hcaptured
        exact hcaptured
      · rw [hnone] at hs
        cases hs
    · exact (hsessions s).1 (mem_captureBullet_damaged.2 (Or.inr ⟨id, hdamaged.kept id hid, hs⟩))
  · rintro ⟨hfree, hraw⟩
    refine ⟨hsource.captured fun _ => sessionForObjectId_zero g, hreflect.captured hfree, fun s => ?_⟩
    rw [mem_captureBullet_damaged]
    constructor
    · rintro (hpending | ⟨id, hid, hs⟩)
      · exact ((hdamaged.pending s).1 hpending).1
      · rcases hdamaged.ids id hid with hkept | ⟨s', hs', hlook⟩
        · exact hraw id hkept s hs
        · rw [Option.some.inj (hs.symm.trans hlook)]
          exact hs'
    · intro hs
      by_cases hin : g.Rejoined s
      · exact Or.inr (hdamaged.rejoined s hs hin)
      · exact Or.inl ((hdamaged.pending s).2 ⟨hs, hin⟩)

/-- Where one relation holds of two lists, another that is about the second list's elements there is about its members. -/
theorem forall₂_iff_forall_mem {α β : Type} {F R : α → β → Prop} {C : β → Prop}
    (hiff : ∀ a b, F a b → (R a b ↔ C b)) {as : List α} {bs : List β} (h : List.Forall₂ F as bs) :
    List.Forall₂ R as bs ↔ ∀ b ∈ bs, C b := by
  induction h with
  | nil => simp
  | cons hab _ ih => rw [List.forall₂_cons, List.forall_mem_cons, hiff _ _ hab, ih]

/-- With all entries filled, a capture names the same sessions just when the ids outside the side tables do. -/
theorem Filled.sameSessions_iff {g : RestoredGame} (h : Filled snapshot g) :
    g.serializeGame.SameSessions snapshot ↔ Named snapshot g := by
  have hbullet : ∀ b state, Bullet.Fits g b state → ((g.captureBullet b).SameSessions state ↔ state.Kept g) :=
    fun b state hb => captureBullet_sameSessions_iff hb
  have hbullets : List.Forall₂ BulletState.SameSessions (g.bullets.map g.captureBullet) snapshot.bullets ↔
      ∀ b ∈ snapshot.bullets, b.Kept g :=
    List.forall₂_map_left_iff.trans (forall₂_iff_forall_mem hbullet h.bullets)
  constructor
  · intro hsame
    refine ⟨hbullets.1 hsame.bullets, fun p hp state hstate => ?_⟩
    exact hsame.players _ (List.mem_map_of_mem hp) state hstate
  · intro hnamed
    refine ⟨?_, captureReferences h.loot, captureReferences h.projectiles, ?_, captureReferences h.explosions,
      captureReferences h.deadBodies, fun later hlater state hstate => ?_⟩
    · refine List.forall₂_eq_eq_eq ▸ List.forall₂_map_left_iff.2 (h.obstacles.imp fun o state ho => ?_)
      exact captureObstacle_of_fits ho
    · exact hbullets.2 hnamed.bullets
    · obtain ⟨p, hp, rfl⟩ := List.mem_map.1 hlater
      exact hnamed.targets p hp state hstate

/-! ### What a reference denotes -/

/-- The id is no player's where no session is named, and that of the named session's player, once it is there. -/
def Denotes (g : RestoredGame) (id : Nat) (name : Option String) : Prop :=
  (name = none → g.sessionForObjectId id = none) ∧
    ∀ s, name = some s → g.Rejoined s → g.sessionForObjectId id = some s

/-- Every reference denotes the player of the session that the snapshot has for it. -/
structure Resolved (snapshot : Snapshot) (g : RestoredGame) : Prop where
  obstacles : List.Forall₂ (fun (o : Obstacle) (state : ObstacleState) =>
    g.Denotes o.interactedBy.id state.interactedBySessionId ∧
      g.Denotes o.delayedPlayer.id state.delayedPlayerSessionId ∧ g.Denotes o.owner.id state.ownerSessionId ∧
      g.Denotes o.skinPlayer.id state.skinPlayerSessionId) g.obstacles snapshot.obstacles
  loot : List.Forall₂ (fun r name => g.Denotes r.id name) g.loot snapshot.loot
  projectiles : List.Forall₂ (fun r name => g.Denotes r.id name) g.projectiles snapshot.projectiles
  bullets : List.Forall₂ (fun (b : Bullet) (state : BulletState) =>
    g.Denotes b.source.id state.sourceSessionId ∧ g.Denotes b.reflect.id state.reflectPlayerSessionId ∧
      ∀ s, g.Rejoined s →
        (s ∈ state.damagedPlayerSessionIds ↔ ∃ id ∈ b.damagedObjIds, g.sessionForObjectId id = some s))
    g.bullets snapshot.bullets
  explosions : List.Forall₂ (fun r name => g.Denotes r.id name) g.explosions snapshot.explosions
  deadBodies : List.Forall₂ (fun r name => g.Denotes r.id name) g.deadBodies snapshot.deadBodies
  actions : ∀ p ∈ g.players, ∀ state ∈ snapshot.player p.opsiaSessionId,
    g.Denotes p.actionTarget.id state.targetSessionId

theorem Reference.Fits.denotes {g : RestoredGame} {raw : Nat} {name : Option String} {r : Reference}
    (h : r.Fits g raw name) (hraw : name = none → g.sessionForObjectId raw = none) : g.Denotes r.id name := by
  rcases h with ⟨-, hid, hno⟩ | ⟨-, s, hname, hs⟩
  · refine ⟨fun hnone => ?_, fun s hname hin => absurd hin (hno s hname)⟩
    rw [hid]
    exact hraw hnone
  · refine ⟨fun hnone => ?_, fun s' hname' _ => ?_⟩
    · rw [hnone] at hname
      cases hname
    · rw [hs, ← hname, hname']

theorem Filled.resolved {g : RestoredGame} (h : Filled snapshot g) (hnamed : Named snapshot g) :
    Resolved snapshot g := by
  have hzero (name : Option String) : name = none → g.sessionForObjectId 0 = none :=
    fun _ => sessionForObjectId_zero g
  have hrefs {rs : List Reference} {names : List (Option String)}
      (hrs : List.Forall₂ (fun r name => r.Fits g 0 name) rs names) :
      List.Forall₂ (fun (r : Reference) name => g.Denotes r.id name) rs names :=
    hrs.imp fun r name hr => hr.denotes (hzero name)
  refine ⟨h.obstacles.imp fun o state ho => ?_, hrefs h.loot, hrefs h.projectiles, ?_, hrefs h.explosions,
    hrefs h.deadBodies, fun p hp state hstate => ?_⟩
  · obtain ⟨h1, h2, h3, h4⟩ := ho
    exact ⟨h1.denotes (hzero _), h2.denotes (hzero _), h3.denotes (hzero _), h4.denotes (hzero _)⟩
  · have hkept : List.Forall₂ (fun _ (state : BulletState) => state.Kept g) g.bullets snapshot.bullets :=
      (forall₂_iff_forall_mem (R := fun (_ : Bullet) (state : BulletState) => state.Kept g) (fun _ _ _ => Iff.rfl)
        h.bullets).2 hnamed.bullets
    refine h.bullets.mp (fun b state hb hk => ?_) hkept
    obtain ⟨hsource, hreflect, hdamaged⟩ := hb
    refine ⟨hsource.denotes (hzero _), hreflect.denotes hk.reflected, fun s hin => ?_⟩
    constructor
    · intro hs
      exact hdamaged.rejoined s hs hin
    · rintro ⟨id, hid, hs⟩
      obtain ⟨-, -, hsame⟩ := (captureBullet_sameSessions_iff ⟨hsource, hreflect, hdamaged⟩).2 hk
      exact (hsame s).1 (mem_captureBullet_damaged.2 (Or.inr ⟨id, hid, hs⟩))
  · have htarget := hnamed.targets p hp state hstate
    exact ⟨fun hnone => htarget.trans hnone, fun s hname _ => htarget.trans hname⟩

/-! ### Fair joins -/

/-- No id outside the side tables goes to a session that is not named for it, and an action on another player is
restored when that player is there under the id that the action has. -/
structure Fair (snapshot : Snapshot) (g : RestoredGame) (rejoin : Rejoin) : Prop where
  reflected : ∀ b ∈ snapshot.bullets, b.reflectPlayerSessionId = none → b.reflectObjectId ≠ rejoin.id
  damaged : ∀ b ∈ snapshot.bullets, rejoin.id ∈ b.damagedObjectIds → rejoin.sessionId ∈ b.damagedPlayerSessionIds
  others : ∀ p ∈ g.players, p.actionTarget.id ≠ rejoin.id
  own : ∀ state ∈ snapshot.player rejoin.sessionId, ∀ action ∈ state.action,
    action.targetSessionId ≠ some rejoin.sessionId →
      action.targetId ≠ rejoin.id ∧ g.sessionForObjectId action.targetId = action.targetSessionId

/-- The entries of actions are of sessions that have rejoined. -/
def Settled (g : RestoredGame) : Prop := ∀ p ∈ g.players, ∀ s ∈ p.actionTarget.pending, g.Rejoined s

theorem kept_restorePlayer {g : RestoredGame} {id : Nat} (hid : id ≠ 0) (hfree : ∀ p ∈ g.players, p.id ≠ id)
    (sessionId : String) (state : PlayerState) {b : BulletState} (h : b.Kept g) :
    b.Kept (g.restorePlayer sessionId id state) ↔
      (b.reflectPlayerSessionId = none → b.reflectObjectId ≠ id) ∧
        (id ∈ b.damagedObjectIds → sessionId ∈ b.damagedPlayerSessionIds) := by
  have hlookup := sessionForObjectId_restorePlayer hid hfree sessionId state
  constructor
  · intro hkept
    refine ⟨fun hnone heq => ?_, fun hmem => hkept.damaged id hmem sessionId ?_⟩
    · have hfound := hkept.reflected hnone
      rw [hlookup, if_pos heq] at hfound
      cases hfound
    · rw [hlookup, if_pos rfl]
  · rintro ⟨hreflect, hdamaged⟩
    refine ⟨fun hnone => ?_, fun x hx s hs => ?_⟩
    · rw [hlookup, if_neg (hreflect hnone)]
      exact h.reflected hnone
    · rw [hlookup] at hs
      split at hs
      · rename_i heq
        rw [← Option.some.inj hs]
        exact hdamaged (heq ▸ hx)
      · exact h.damaged x hx s hs

/-- The target of a player that is there keeps what it is, since its entry is not of the session that rejoins. -/
theorem Settled.resolve {g : RestoredGame} {sessionId : String} (h : g.Settled) (hnew : ¬g.Rejoined sessionId)
    (id : Nat) {p : Player} (hp : p ∈ g.players) : p.actionTarget.resolve sessionId id = p.actionTarget :=
  if_neg fun hself => hnew (h p hp sessionId hself)

theorem restore_id_self {sessionId : String} {id : Nat} {action : ActionState}
    (h : action.targetSessionId = some sessionId) : (action.restore sessionId id).id = id := if_pos h

theorem restore_id_other {sessionId : String} {id : Nat} {action : ActionState}
    (h : action.targetSessionId ≠ some sessionId) : (action.restore sessionId id).id = action.targetId := if_neg h

/-- What a player's own action is restored to names the session it is for just when the id it has is that player's. -/
theorem own_target_iff {g : RestoredGame} {id : Nat} (hid : id ≠ 0) (hfree : ∀ p ∈ g.players, p.id ≠ id)
    (sessionId : String) (state : PlayerState) :
    (g.restorePlayer sessionId id state).sessionForObjectId
        ((state.action.map (ActionState.restore sessionId id)).getD ⟨0, none⟩).id = state.targetSessionId ↔
      ∀ action ∈ state.action, action.targetSessionId ≠ some sessionId →
        action.targetId ≠ id ∧ g.sessionForObjectId action.targetId = action.targetSessionId := by
  have hlookup := sessionForObjectId_restorePlayer hid hfree sessionId state
  unfold PlayerState.targetSessionId
  cases haction : state.action with
  | none =>
    refine iff_of_true ?_ fun action h => nomatch h
    exact sessionForObjectId_zero _
  | some action =>
    have hget : (((some action).map (ActionState.restore sessionId id)).getD ⟨0, none⟩ : Reference) =
        action.restore sessionId id := rfl
    rw [hget, Option.bind_some]
    by_cases hself : action.targetSessionId = some sessionId
    · rw [restore_id_self hself, hlookup, if_pos rfl]
      refine iff_of_true hself.symm fun other hother hno => ?_
      rw [← Option.some.inj hother] at hno
      exact absurd hself hno
    · rw [restore_id_other hself, hlookup]
      by_cases hnew : action.targetId = id
      · rw [if_pos hnew]
        refine iff_of_false (fun heq => hself heq.symm) fun hall => ?_
        exact (hall action rfl hself).1 hnew
      · rw [if_neg hnew]
        constructor
        · intro h other hother _
          rw [← Option.some.inj hother]
          exact ⟨hnew, h⟩
        · intro hall
          exact (hall action rfl hself).2

/-- What holds before and between the joins, as long as they are fair. -/
structure Coherent (snapshot : Snapshot) (g : RestoredGame) : Prop where
  filled : Filled snapshot g
  named : Named snapshot g
  settled : g.Settled

theorem coherent_restoreGame (snapshot : Snapshot) : Coherent snapshot (restoreGame snapshot) := by
  refine ⟨filled_restoreGame snapshot, named_restoreGame snapshot, fun p hp => ?_⟩
  cases hp

theorem step_eq_some {g g' : RestoredGame} {rejoin : Rejoin} (h : step g rejoin = some g') :
    rejoin.id ≠ 0 ∧ (∀ p ∈ g.players, p.id ≠ rejoin.id) ∧
      ∃ state, g.restoredPlayers rejoin.sessionId = some state ∧
        g' = g.restorePlayer rejoin.sessionId rejoin.id state := by
  unfold step at h
  split at h
  · rename_i hguard
    obtain ⟨state, hstate, rfl⟩ := Option.map_eq_some_iff.1 h
    exact ⟨hguard.1, hguard.2, state, hstate, rfl⟩
  · cases h

/-- Of the joins the fair ones are just those after which the ids outside the side tables are named. -/
theorem Coherent.named_restorePlayer_iff {g : RestoredGame} {rejoin : Rejoin} {state : PlayerState}
    (h : Coherent snapshot g) (hid : rejoin.id ≠ 0) (hfree : ∀ p ∈ g.players, p.id ≠ rejoin.id)
    (hstate : g.restoredPlayers rejoin.sessionId = some state) :
    Named snapshot (g.restorePlayer rejoin.sessionId rejoin.id state) ↔ Fair snapshot g rejoin := by
  have hlookup := sessionForObjectId_restorePlayer hid hfree rejoin.sessionId state
  obtain ⟨hfirst, hnew⟩ := h.filled.waiting _ _ hstate
  have hkept (b : BulletState) (hb : b ∈ snapshot.bullets) :=
    kept_restorePlayer hid hfree rejoin.sessionId state (h.named.bullets b hb)
  have hown := own_target_iff hid hfree rejoin.sessionId state
  constructor
  · intro hnamed
    refine ⟨fun b hb => ((hkept b hb).1 (hnamed.bullets b hb)).1, fun b hb => ((hkept b hb).1 (hnamed.bullets b hb)).2,
      fun p hp heq => ?_, fun first hmem => ?_⟩
    · obtain ⟨first, hplayer⟩ := h.filled.known p hp
      have hbefore := h.named.targets p hp first hplayer
      have hafter := hnamed.targets _ (List.mem_append_left _ (List.mem_map_of_mem hp)) first hplayer
      dsimp only at hafter
      rw [h.settled.resolve hnew rejoin.id hp, hlookup, if_pos heq] at hafter
      rw [heq, sessionForObjectId_free hfree, ← hafter] at hbefore
      cases hbefore
    · have hsame : first = state := Option.some.inj (hmem.symm.trans hfirst)
      rw [hsame]
      exact hown.1 (hnamed.targets _ (List.mem_append_right _ (List.mem_singleton_self _)) state hfirst)
  · intro hfair
    refine ⟨fun b hb => (hkept b hb).2 ⟨hfair.reflected b hb, hfair.damaged b hb⟩, fun p hp first hplayer => ?_⟩
    rcases List.mem_append.1 hp with hp | hp
    · obtain ⟨q, hq, rfl⟩ := List.mem_map.1 hp
      dsimp only
      rw [h.settled.resolve hnew rejoin.id hq, hlookup, if_neg (hfair.others q hq)]
      exact h.named.targets q hq first hplayer
    · rw [List.mem_singleton.1 hp] at hplayer ⊢
      have hsame : first = state := Option.some.inj (hplayer.symm.trans hfirst)
      rw [hsame]
      exact hown.2 (hfair.own state hfirst)

theorem Coherent.restorePlayer {g : RestoredGame} {rejoin : Rejoin} {state : PlayerState} (h : Coherent snapshot g)
    (hid : rejoin.id ≠ 0) (hfree : ∀ p ∈ g.players, p.id ≠ rejoin.id)
    (hstate : g.restoredPlayers rejoin.sessionId = some state) (hfair : Fair snapshot g rejoin) :
    Coherent snapshot (g.restorePlayer rejoin.sessionId rejoin.id state) := by
  obtain ⟨hfirst, hnew⟩ := h.filled.waiting _ _ hstate
  refine ⟨h.filled.restorePlayer hid hfree hstate, (h.named_restorePlayer_iff hid hfree hstate).2 hfair,
    fun p hp s hs => ?_⟩
  refine (rejoined_restorePlayer g rejoin.sessionId rejoin.id state s).2 (Or.inl ?_)
  rcases List.mem_append.1 hp with hp | hp
  · obtain ⟨q, hq, rfl⟩ := List.mem_map.1 hp
    dsimp only at hs
    rw [h.settled.resolve hnew rejoin.id hq] at hs
    exact h.settled q hq s hs
  · rw [List.mem_singleton.1 hp] at hs
    -- Only a fair action on another player leaves an entry, and that player is there.
    cases haction : state.action with
    | none =>
      rw [haction] at hs
      cases hs
    | some action =>
      rw [haction] at hs
      have hpending : (action.restore rejoin.sessionId rejoin.id).pending = some s := hs
      unfold ActionState.restore at hpending
      split at hpending
      · cases hpending
      · rename_i hother
        have htarget := (hfair.own state hfirst action haction hother).2
        exact rejoined_of_sessionForObjectId (htarget.trans hpending)

/-- In every run of joins in any order, every capture names the sessions of the restored snapshot and, once all have
rejoined, every reference denotes the player of its session, if and only if every join is fair. -/
theorem same_sessions_iff (snapshot : Snapshot) (rejoins : List Rejoin) :
    Throughout step (fun g => g.serializeGame.SameSessions snapshot ∧
        ((∀ s, g.restoredPlayers s = none) → g.Resolved snapshot)) (restoreGame snapshot) rejoins ↔
      EachStep step (Fair snapshot) (restoreGame snapshot) rejoins := by
  have hsame : ∀ g, Coherent snapshot g → g.serializeGame.SameSessions snapshot ∧
      ((∀ s, g.restoredPlayers s = none) → g.Resolved snapshot) := by
    intro g h
    exact ⟨h.filled.sameSessions_iff.2 h.named, fun _ => h.filled.resolved h.named⟩
  have hgood : ∀ g rejoin g', Coherent snapshot g → Fair snapshot g rejoin → step g rejoin = some g' →
      Coherent snapshot g' := by
    intro g rejoin g' h hfair hs
    obtain ⟨hid, hfree, state, hstate, rfl⟩ := step_eq_some hs
    exact h.restorePlayer hid hfree hstate hfair
  have hbad : ∀ g rejoin g', Coherent snapshot g → ¬Fair snapshot g rejoin → step g rejoin = some g' →
      ¬(g'.serializeGame.SameSessions snapshot ∧ ((∀ s, g'.restoredPlayers s = none) → g'.Resolved snapshot)) := by
    intro g rejoin g' h hunfair hs hsame
    obtain ⟨hid, hfree, state, hstate, rfl⟩ := step_eq_some hs
    have hnamed := (h.filled.restorePlayer hid hfree hstate).sameSessions_iff.1 hsame.1
    exact hunfair ((h.named_restorePlayer_iff hid hfree hstate).1 hnamed)
  exact throughout_iff_eachStep hsame hgood hbad (coherent_restoreGame snapshot) rejoins

/-- Two sessions, the first with an action on the second, whose object id was 7. -/
def revival : Snapshot where
  obstacles := []
  loot := []
  projectiles := []
  bullets := []
  explosions := []
  deadBodies := []
  players := [⟨"session-00000001", some ⟨7, some "session-00000002"⟩⟩, ⟨"session-00000002", none⟩]

/-- When the target rejoins before the player that acts on it, the action is left with the old object id. -/
theorem target_before_source : ∃ g,
    runFrom step (restoreGame revival) [⟨"session-00000002", 1⟩, ⟨"session-00000001", 2⟩] = some g ∧
      (∀ s, g.restoredPlayers s = none) ∧ ¬g.Resolved revival := by
  refine ⟨_, rfl, fun s => ?_, fun h => ?_⟩
  · by_cases hfirst : s = "session-00000001"
    · rw [hfirst]
      rfl
    · by_cases hsecond : s = "session-00000002"
      · rw [hsecond]
        rfl
      · have hnone : revival.player s = none := by
          refine List.find?_eq_none.2 fun state hstate hyes => ?_
          simp only [revival, List.reverse_cons, List.reverse_nil, List.nil_append, List.mem_append, List.mem_singleton]
            at hstate
          rcases hstate with rfl | rfl
          · exact hsecond (of_decide_eq_true hyes).symm
          · exact hfirst (of_decide_eq_true hyes).symm
        exact (Function.update_of_ne hfirst ..).trans ((Function.update_of_ne hsecond ..).trans hnone)
  · have hdenotes := (h.actions ⟨2, "session-00000001", ⟨7, some "session-00000002"⟩⟩
      (List.mem_append_right _ (List.mem_singleton_self _)) _ rfl).2 "session-00000002" rfl
        ⟨_, List.mem_append_left _ (List.mem_singleton_self _), rfl⟩
    cases hdenotes

end RestoredGame

end Opsia
