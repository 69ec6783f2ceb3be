import Mathlib.Data.List.Forall2
import Mathlib.Logic.Function.Basic

/-!
# References to players in a restored game

The objects of a game refer to players by their object ids, and a snapshot names their sessions instead.  `restoreGame`
makes the objects without references and keeps the names in side tables; when a session rejoins, `restorePlayer` gives
its player's id to every object whose entry names the session, and deletes the entry.  An entry is kept beside the
object it is about.

References by pointer are by object id here, with 0 for none.  What the objects have besides is left out, and so is the
game between the joins.  Session ids are not empty.
-/

namespace Opsia

namespace RestoredGame

/-! ### Snapshots -/

structure ObstacleState where
  interactedBySessionId : Option String
  delayedPlayerSessionId : Option String
  ownerSessionId : Option String
  skinPlayerSessionId : Option String
deriving DecidableEq

structure BulletState where
  sourceSessionId : Option String
  reflectObjectId : Nat
  reflectPlayerSessionId : Option String
  damagedObjectIds : List Nat
  damagedPlayerSessionIds : List String

structure ActionState where
  targetId : Nat
  targetSessionId : Option String

structure PlayerState where
  sessionId : String
  action : Option ActionState

/-- What a snapshot says of sessions; loot by its owner, projectiles, explosions and dead bodies by their source. -/
structure Snapshot where
  obstacles : List ObstacleState
  loot : List (Option String)
  projectiles : List (Option String)
  bullets : List BulletState
  explosions : List (Option String)
  deadBodies : List (Option String)
  players : List PlayerState

/-- The snapshot's entry of the session; the last one, where there are several. -/
def Snapshot.player (snapshot : Snapshot) (sessionId : String) : Option PlayerState :=
  snapshot.players.reverse.find? fun state => decide (state.sessionId = sessionId)

/-! ### Games -/

/-- The object id of a player that an object refers to, with its entry in the side table. -/
structure Reference where
  id : Nat
  pending : Option String

structure Obstacle where
  interactedBy : Reference
  delayedPlayer : Reference
  owner : Reference
  skinPlayer : Reference

structure Bullet where
  source : Reference
  reflect : Reference
  damagedObjIds : List Nat
  /-- The entry in `restoredBulletDamagedPlayers`. -/
  damagedPending : List String

/-- A player, with its entry in `restoredActionTargets`. -/
structure Player where
  id : Nat
  opsiaSessionId : String
  actionTarget : Reference

end RestoredGame

open RestoredGame in
structure RestoredGame where
  obstacles : List Obstacle
  loot : List Reference
  projectiles : List Reference
  bullets : List Bullet
  explosions : List Reference
  deadBodies : List Reference
  players : List Player
  restoredPlayers : String → Option PlayerState

namespace RestoredGame

/-! ### Restoring -/

/-- A reference that waits for its session. -/
def Reference.awaiting (sessionId : Option String) : Reference := ⟨0, sessionId⟩

def ObstacleState.restore (state : ObstacleState) : Obstacle where
  interactedBy := .awaiting state.interactedBySessionId
  delayedPlayer := .awaiting state.delayedPlayerSessionId
  owner := .awaiting state.ownerSessionId
  skinPlayer := .awaiting state.skinPlayerSessionId

def BulletState.restore (state : BulletState) : Bullet where
  source := .awaiting state.sourceSessionId
  reflect := ⟨state.reflectObjectId, state.reflectPlayerSessionId⟩
  damagedObjIds := state.damagedObjectIds
  damagedPending := state.damagedPlayerSessionIds

/-- `restoreGame`, into a game without players -/
def restoreGame (snapshot : Snapshot) : RestoredGame where
  obstacles := snapshot.obstacles.map ObstacleState.restore
  loot := snapshot.loot.map Reference.awaiting
  projectiles := snapshot.projectiles.map Reference.awaiting
  bullets := snapshot.bullets.map BulletState.restore
  explosions := snapshot.explosions.map Reference.awaiting
  deadBodies := snapshot.deadBodies.map Reference.awaiting
  players := []
  restoredPlayers := snapshot.player

/-! ### Rejoining -/

/-- The entry of the session is resolved to its player. -/
def Reference.resolve (sessionId : String) (id : Nat) (r : Reference) : Reference :=
  if r.pending = some sessionId then ⟨id, none⟩ else r

def Obstacle.resolve (sessionId : String) (id : Nat) (o : Obstacle) : Obstacle where
  interactedBy := o.interactedBy.resolve sessionId id
  delayedPlayer := o.delayedPlayer.resolve sessionId id
  owner := o.owner.resolve sessionId id
  skinPlayer := o.skinPlayer.resolve sessionId id

def Bullet.resolve (sessionId : String) (id : Nat) (b : Bullet) : Bullet where
  source := b.source.resolve sessionId id
  reflect := b.reflect.resolve sessionId id
  damagedObjIds := if sessionId ∈ b.damagedPending then b.damagedObjIds ++ [id] else b.damagedObjIds
  damagedPending := b.damagedPending.filter fun other => decide (other ≠ sessionId)

/-- The action of a player that is restored: its target is itself, or waits for its session. -/
def ActionState.restore (sessionId : String) (id : Nat) (action : ActionState) : Reference where
  id := if action.targetSessionId = some sessionId then id else action.targetId
  pending := if action.targetSessionId = some sessionId then none else action.targetSessionId

def restorePlayer (g : RestoredGame) (sessionId : String) (id : Nat) (state : PlayerState) : RestoredGame where
  obstacles := g.obstacles.map (Obstacle.resolve sessionId id)
  loot := g.loot.map (Reference.resolve sessionId id)
  projectiles := g.projectiles.map (Reference.resolve sessionId id)
  bullets := g.bullets.map (Bullet.resolve sessionId id)
  explosions := g.explosions.map (Reference.resolve sessionId id)
  deadBodies := g.deadBodies.map (Reference.resolve sessionId id)
  players :=
    (g.players.map fun p => { p with actionTarget := p.actionTarget.resolve sessionId id }) ++
      [⟨id, sessionId, (state.action.map (ActionState.restore sessionId id)).getD ⟨0, none⟩⟩]
  restoredPlayers := Function.update g.restoredPlayers sessionId none

structure Rejoin where
  sessionId : String
  id : Nat

/-- A session that the snapshot has rejoins, with a new object id. -/
def step (g : RestoredGame) (rejoin : Rejoin) : Option RestoredGame :=
  if rejoin.id ≠ 0 ∧ ∀ p ∈ g.players, p.id ≠ rejoin.id then
    (g.restoredPlayers rejoin.sessionId).map fun state => g.restorePlayer rejoin.sessionId rejoin.id state
  else none

/-! ### Capturing -/

def sessionForObjectId (g : RestoredGame) (id : Nat) : Option String :=
  if id = 0 then none else (g.players.find? fun p => decide (p.id = id)).map Player.opsiaSessionId

/-- Loot, projectiles, bullets, explosions and dead bodies are captured by their entry first. -/
def captureReference (g : RestoredGame) (r : Reference) : Option String :=
  r.pending.or (g.sessionForObjectId r.id)

def captureObstacle (g : RestoredGame) (o : Obstacle) : ObstacleState where
  interactedBySessionId := (g.sessionForObjectId o.interactedBy.id).or o.interactedBy.pending
  delayedPlayerSessionId := (g.sessionForObjectId o.delayedPlayer.id).or o.delayedPlayer.pending
  ownerSessionId := (g.sessionForObjectId o.owner.id).or o.owner.pending
  skinPlayerSessionId := (g.sessionForObjectId o.skinPlayer.id).or o.skinPlayer.pending

/-- The two lists are sorted in the source. -/
def captureBullet (g : RestoredGame) (b : Bullet) : BulletState where
  sourceSessionId := g.captureReference b.source
  reflectObjectId := if (g.captureReference b.reflect).isSome then 0 else b.reflect.id
  reflectPlayerSessionId := g.captureReference b.reflect
  damagedObjectIds := b.damagedObjIds.filter fun id => (g.sessionForObjectId id).isNone
  damagedPlayerSessionIds := b.damagedPending ++ b.damagedObjIds.filterMap g.sessionForObjectId

def capturePlayer (g : RestoredGame) (p : Player) : PlayerState where
  sessionId := p.opsiaSessionId
  action := some ⟨p.actionTarget.id, g.sessionForObjectId p.actionTarget.id⟩

def serializeGame (g : RestoredGame) : Snapshot where
  obstacles := g.obstacles.map g.captureObstacle
  loot := g.loot.map g.captureReference
  projectiles := g.projectiles.map g.captureReference
  bullets := g.bullets.map g.captureBullet
  explosions := g.explosions.map g.captureReference
  deadBodies := g.deadBodies.map g.captureReference
  players := g.players.map g.capturePlayer

/-! ### Naming the same sessions -/

def BulletState.SameSessions (b b' : BulletState) : Prop :=
  b.sourceSessionId = b'.sourceSessionId ∧ b.reflectPlayerSessionId = b'.reflectPlayerSessionId ∧
    ∀ sessionId, sessionId ∈ b.damagedPlayerSessionIds ↔ sessionId ∈ b'.damagedPlayerSessionIds

def PlayerState.targetSessionId (state : PlayerState) : Option String := state.action.bind ActionState.targetSessionId

/-- The references of a later snapshot name the sessions of the first; players that have not rejoined have none. -/
structure Snapshot.SameSessions (later first : Snapshot) : Prop where
  obstacles : later.obstacles = first.obstacles
  loot : later.loot = first.loot
  projectiles : later.projectiles = first.projectiles
  bullets : List.Forall₂ BulletState.SameSessions later.bullets first.bullets
  explosions : later.explosions = first.explosions
  deadBodies : later.deadBodies = first.deadBodies
  players : ∀ state ∈ later.players, ∀ state' ∈ first.player state.sessionId,
    state.targetSessionId = state'.targetSessionId

end RestoredGame

end Opsia
