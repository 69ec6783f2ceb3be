import Mathlib.Data.List.Sort
import Mathlib.Data.Rat.Defs
import Mathlib.Logic.Function.Basic
import Opsia.Json.Record

/-!
# The lists of a player barn

`PlayerBarn` keeps its players and the living ones; a group and a team keep theirs, and every one of these lists is
updated by its own hand: by a join, by a kill, by the countdown that brings a dead player back in an infinite room, by
a close and by what a snapshot has left for a session.  Groups and teams are named by their ids, players are objects
named by numbers.  `PlayerBarns` are the processes of a room with the snapshots taken so far.

The retention of a player and the dispatch of a join are kept as far as they decide whether a player is made, taken up
again or removed.  The maximum of 255 group ids is the source's; an error thrown in a handler is not a step.
-/

namespace Opsia

/-- What the process and its map are configured with. -/
structure BarnRules where
  opsiaRoom : Bool
  opsiaInfinite : Bool
  factionMode : Bool
  /-- The size of a group; one is no team mode. -/
  teamMode : Nat
  factions : Nat
  killLeaderEnabled : Bool

def BarnRules.isTeamMode (rules : BarnRules) : Bool := decide (rules.teamMode ≠ 1)

namespace PlayerBarn

/-- `BasePlayerGroup` -/
structure PlayerGroup where
  players : List Nat := []
  livingPlayers : List Nat := []
  allDeadOrDisconnected : Bool := true

structure Group extends PlayerGroup where
  hash : String := ""
  autoFill : Bool := false
  maxPlayers : Nat := 0
  reservedSlots : Int := 0

structure Player where
  opsiaSessionId : String := ""
  findGameIp : String := ""
  bot : Bool := false
  disconnected : Bool := false
  groupId : Nat := 0
  teamId : Nat := 0
  group : Option Nat := none
  team : Option Nat := none
  dead : Bool := false
  downed : Bool := false
  timeAlive : Rat := 0
  role : String := ""
  kills : Nat := 0
  isKillLeader : Bool := false
  opsiaRespawnTicker : Rat := -1

/-- What a snapshot keeps of a player. -/
structure LoosePlayerState where
  sessionId : String
  teamId : Nat
  score : Nat
  downed : Option Bool
  dead : Option Bool
  timeAlive : Option Rat
  role : Option String
  isKillLeader : Option Bool

/-- The token of a join, the hash of a group it may make, and whether the player it finds is still retained. -/
structure JoinData where
  opsiaSessionId : Option String
  findGameIp : String
  bot : Bool
  groupHashToJoin : String
  autoFill : Bool
  playerCount : Nat
  newHash : String
  retained : Bool

def JoinData.session (join : JoinData) : Option String := join.opsiaSessionId.filter fun id => decide (id ≠ "")

end PlayerBarn

open PlayerBarn in
structure PlayerBarn where
  playerObject : Nat → Player
  nextPlayer : Nat
  players : List Nat
  livingPlayers : List Nat
  killLeader : Option Nat
  groupObject : Nat → Group
  groups : List Nat
  groupsByHash : String → Option Nat
  nextGroupId : Nat
  teamObject : Nat → PlayerGroup
  teams : List Nat
  restoredPlayers : List LoosePlayerState

namespace PlayerBarn

variable (rules : BarnRules)

/-- A new process; a map with factions has its teams from the start. -/
def new : PlayerBarn where
  playerObject := fun _ => {}
  nextPlayer := 0
  players := []
  livingPlayers := []
  killLeader := none
  groupObject := fun _ => {}
  groups := []
  groupsByHash := fun _ => none
  nextGroupId := 1
  teamObject := fun _ => {}
  teams := if rules.factionMode then List.range' 1 rules.factions else []
  restoredPlayers := []

def dead (b : PlayerBarn) (p : Nat) : Bool := (b.playerObject p).dead

def group (b : PlayerBarn) (p : Nat) : Option Nat := (b.playerObject p).group

def team (b : PlayerBarn) (p : Nat) : Option Nat := (b.playerObject p).team

def setPlayer (b : PlayerBarn) (p : Nat) (f : Player → Player) : PlayerBarn :=
  { b with playerObject := Function.update b.playerObject p (f (b.playerObject p)) }

/-! ### Groups and teams -/

/-- `checkPlayers` -/
def PlayerGroup.checkPlayers (b : PlayerBarn) (g : PlayerGroup) : PlayerGroup where
  players := g.players
  livingPlayers := g.players.filter fun p => !b.dead p
  allDeadOrDisconnected := g.players.all fun p => b.dead p || (b.playerObject p).disconnected

/-- `addPlayer` of a group or team, behind the player's own fields. -/
def PlayerGroup.addPlayer (b : PlayerBarn) (g : PlayerGroup) (p : Nat) : PlayerGroup :=
  PlayerGroup.checkPlayers b ⟨g.players ++ [p], g.livingPlayers ++ [p], false⟩

/-- `removePlayer` of a group or team -/
def PlayerGroup.removePlayer (b : PlayerBarn) (g : PlayerGroup) (p : Nat) : PlayerGroup :=
  PlayerGroup.checkPlayers b { g with players := g.players.erase p }

def setGroup (b : PlayerBarn) (group : Nat) (f : PlayerGroup → PlayerGroup) : PlayerBarn :=
  { b with
    groupObject := Function.update b.groupObject group
      { b.groupObject group with toPlayerGroup := f (b.groupObject group).toPlayerGroup } }

def setTeam (b : PlayerBarn) (team : Nat) (f : PlayerGroup → PlayerGroup) : PlayerBarn :=
  { b with teamObject := Function.update b.teamObject team (f (b.teamObject team)) }

/-- `player.group?.checkPlayers()` -/
def checkGroup (b : PlayerBarn) (p : Nat) : PlayerBarn :=
  match b.group p with
  | none => b
  | some group => b.setGroup group (PlayerGroup.checkPlayers b)

def joinGroup (b : PlayerBarn) (p group : Nat) : PlayerBarn :=
  let b := b.setPlayer p fun player => { player with groupId := group, group := some group }
  b.setGroup group fun g => PlayerGroup.addPlayer b g p

def joinTeam (b : PlayerBarn) (p team : Nat) : PlayerBarn :=
  let b := b.setPlayer p fun player => { player with teamId := team, team := some team }
  b.setTeam team fun g => PlayerGroup.addPlayer b g p

/-- `player.team?.removePlayer(player)` -/
def leaveTeam (b : PlayerBarn) (p : Nat) : PlayerBarn :=
  match b.team p with
  | none => b
  | some team => b.setTeam team fun g => PlayerGroup.removePlayer b g p

/-- The player leaves its group, and an empty group leaves the barn. -/
def leaveGroup (b : PlayerBarn) (p : Nat) : PlayerBarn :=
  match b.group p with
  | none => b
  | some group =>
    let b := b.setGroup group fun g => PlayerGroup.removePlayer b g p
    if (b.groupObject group).players = [] then
      { b with
        groups := b.groups.erase group
        groupsByHash := Function.update b.groupsByHash (b.groupObject group).hash none }
    else b

/-! ### Kills -/

/-- `kills` of the player that is credited -/
def credit (b : PlayerBarn) (p : Nat) (killCreditSource : Option Nat) : PlayerBarn :=
  match killCreditSource with
  | none => b
  | some source =>
    if source ≠ p ∧ (b.playerObject source).teamId ≠ (b.playerObject p).teamId then
      b.setPlayer source fun player => { player with kills := player.kills + 1 }
    else b

/-- `killLeaderMinKills` is three. -/
def getPlayerWithHighestKills (b : PlayerBarn) : Option Nat :=
  ((b.livingPlayers.filter fun p => decide (3 ≤ (b.playerObject p).kills)).insertionSort fun p q =>
    (b.playerObject q).kills ≤ (b.playerObject p).kills).head?

/-- The kill leader there was is no longer flagged. -/
def unflag (b : PlayerBarn) (leader : Option Nat) : PlayerBarn :=
  match leader with
  | none => b
  | some leader => b.setPlayer leader fun player => { player with isKillLeader := false }

def promoteToKillLeader (b : PlayerBarn) (p : Nat) : PlayerBarn :=
  if (b.playerObject p).isKillLeader then b
  else
    { (b.setPlayer p fun player => { player with isKillLeader := true }).unflag b.killLeader with killLeader := some p }

def killLeaderKills (b : PlayerBarn) : Nat :=
  match b.killLeader with
  | none => 0
  | some leader => if b.dead leader then 0 else (b.playerObject leader).kills

/-- The player that is credited is promoted when it is ahead of the kill leader. -/
def electKillLeader (b : PlayerBarn) (killCreditSource : Option Nat) : PlayerBarn :=
  match killCreditSource with
  | none => b
  | some source =>
    if rules.killLeaderEnabled = true ∧ b.killLeader ≠ b.getPlayerWithHighestKills ∧
        b.getPlayerWithHighestKills = some source ∧ b.killLeaderKills < (b.playerObject source).kills then
      b.promoteToKillLeader source
    else b

def dropKillLeader (b : PlayerBarn) (p : Nat) : PlayerBarn :=
  if (b.playerObject p).isKillLeader then
    { b.unflag (some p) with killLeader := none }
  else b

/-- `util.removeFrom(this.team.livingPlayers, this)` -/
def leaveLiving (b : PlayerBarn) (p : Nat) : PlayerBarn :=
  match b.team p with
  | none => b
  | some team => b.setTeam team fun g => { g with livingPlayers := g.livingPlayers.erase p }

/-- The lists a kill updates. -/
def die (b : PlayerBarn) (p : Nat) : PlayerBarn :=
  let b := b.setPlayer p fun player =>
    { player with
      dead := true
      downed := false
      opsiaRespawnTicker := if rules.opsiaInfinite then 3 else player.opsiaRespawnTicker }
  let b := { b with livingPlayers := b.livingPlayers.erase p }
  (b.checkGroup p).leaveLiving p

def kill (b : PlayerBarn) (p : Nat) (killCreditSource : Option Nat) : PlayerBarn :=
  if b.dead p then b
  else (((b.die rules p).credit p killCreditSource).electKillLeader rules killCreditSource).dropKillLeader p

/-! ### Ticks -/

/-- The player is put on the living players of its team, unless it is there. -/
def enterLiving (b : PlayerBarn) (p : Nat) : PlayerBarn :=
  match b.team p with
  | none => b
  | some team => b.setTeam team fun g =>
    { g with livingPlayers := if p ∈ g.livingPlayers then g.livingPlayers else g.livingPlayers ++ [p] }

/-- The lists a player that comes back is put on. -/
def respawn (b : PlayerBarn) (p : Nat) : PlayerBarn :=
  let b := b.setPlayer p fun player => { player with dead := false, downed := false, timeAlive := 0 }
  let b := { b with
    livingPlayers := if p ∈ b.livingPlayers then b.livingPlayers else b.livingPlayers ++ [p] }
  b.enterLiving p

/-- `update` of one player, up to what live play does to it. -/
def update (b : PlayerBarn) (p : Nat) (dt : Rat) : PlayerBarn :=
  let age := fun b : PlayerBarn => b.setPlayer p fun player => { player with timeAlive := player.timeAlive + dt }
  if b.dead p then
    if rules.opsiaInfinite = true ∧ 0 ≤ (b.playerObject p).opsiaRespawnTicker then
      let b := b.setPlayer p fun player => { player with opsiaRespawnTicker := player.opsiaRespawnTicker - dt }
      if (b.playerObject p).opsiaRespawnTicker ≤ 0 then age (b.respawn p) else b
    else b
  else age b

/-! ### Joins -/

/-- `groupIdAllocator.getNextId()`; no id is ever given back. -/
def getNextId (b : PlayerBarn) : Option (Nat × PlayerBarn) :=
  if b.nextGroupId ≤ 255 then some (b.nextGroupId, { b with nextGroupId := b.nextGroupId + 1 }) else none

def addGroup (b : PlayerBarn) (hash : String) (autoFill : Bool) : Option (Nat × PlayerBarn) :=
  b.getNextId.map fun (group, b) =>
    (group,
      { b with
        groupObject := Function.update b.groupObject group { hash, autoFill, maxPlayers := rules.teamMode }
        groups := b.groups ++ [group]
        groupsByHash := Function.update b.groupsByHash hash (some group) })

def getSmallestTeam (b : PlayerBarn) : Option Nat :=
  b.teams.head?.map fun first =>
    b.teams.foldl (fun smallest current =>
      if (b.teamObject current).livingPlayers.length < (b.teamObject smallest).livingPlayers.length then current
      else smallest) first

/-- `canJoin` of a group -/
def canJoin (b : PlayerBarn) (group : Nat) (players : Nat) : Bool :=
  decide (0 ≤ ((b.groupObject group).maxPlayers : Int) - (b.groupObject group).reservedSlots - players) &&
    !(b.groupObject group).allDeadOrDisconnected

/-- `getGroups` of a team, whose groups have a first player. -/
def getGroups (b : PlayerBarn) (team : Nat) : List Nat :=
  b.groups.filter fun group =>
    (b.groupObject group).players.head?.any fun p => decide ((b.playerObject p).teamId = team)

/-- The group that a join finds. -/
def findGroup (b : PlayerBarn) (join : JoinData) (team : Option Nat) : Option Nat :=
  (b.groupsByHash join.groupHashToJoin).or
    (if join.autoFill then
      (team.elim b.groups b.getGroups).find? fun group =>
        (b.groupObject group).autoFill && b.canJoin group join.playerCount
    else none)

/-- The group a join takes: the one it has found, or a new one. -/
def takeGroup (b : PlayerBarn) (join : JoinData) (found : Option Nat) : Option (Nat × PlayerBarn) :=
  match found with
  | some group => some (group, b)
  | none => b.addGroup rules join.newHash join.autoFill

/-- A token that names another group is used for the first time. -/
def reserveSlots (b : PlayerBarn) (join : JoinData) (group : Nat) : PlayerBarn :=
  if (b.groupObject group).hash = join.groupHashToJoin then b
  else
    { b with
      groupObject := Function.update b.groupObject group
        { b.groupObject group with reservedSlots := (b.groupObject group).reservedSlots + join.playerCount } }

/-- Players of one group are of one team. -/
def groupTeam (b : PlayerBarn) (group : Nat) (team : Option Nat) : Option Nat :=
  match (b.groupObject group).players.head? with
  | some p => if rules.factionMode then b.team p else team
  | none => team

def getGroupAndTeam (b : PlayerBarn) (join : JoinData) : Option (Option Nat × Option Nat × PlayerBarn) :=
  if rules.isTeamMode then
    let team := if rules.factionMode then b.getSmallestTeam else none
    let found := (b.findGroup join team).filter fun group =>
      decide ((b.groupObject group).players.length < rules.teamMode)
    (b.takeGroup rules join found).map fun (group, b) =>
      (some group, b.groupTeam rules group team, b.reserveSlots join group)
  else some (none, none, b)

/-- The group and team of a new player, or ids of its own. -/
def enterGroups (b : PlayerBarn) (p : Nat) (group team : Option Nat) : Option PlayerBarn :=
  match team, group with
  | some team, some group => some ((b.joinTeam p team).joinGroup p group)
  | none, some group =>
    some ((b.joinGroup p group).setPlayer p fun player => { player with teamId := player.groupId })
  | some team, none => (b.joinTeam p team).getNextId.map fun (id, b) =>
    b.setPlayer p fun player => { player with groupId := id }
  | none, none => b.getNextId.map fun (id, b) =>
    b.setPlayer p fun player => { player with groupId := id, teamId := id }

def activatePlayer (b : PlayerBarn) (p : Nat) (group team : Option Nat) : Option PlayerBarn :=
  (b.enterGroups p group team).map fun b =>
    { b with
      players := b.players ++ [p]
      livingPlayers := (b.livingPlayers ++ [p]).insertionSort fun p q =>
        (b.playerObject p).teamId ≤ (b.playerObject q).teamId }

/-- What the snapshot has left for a session. -/
def restoredState (b : PlayerBarn) (sessionId : String) : Option LoosePlayerState :=
  b.restoredPlayers.reverse.find? fun state => decide (state.sessionId = sessionId)

def LoosePlayerState.restore (state : LoosePlayerState) (player : Player) : Player :=
  { player with
    kills := state.score
    downed := state.downed.getD player.downed
    dead := decide (state.dead = some true)
    timeAlive := state.timeAlive.getD player.timeAlive
    role := state.role.getD player.role
    isKillLeader := state.isKillLeader.getD player.isKillLeader }

/-- The player is put in the team of the snapshot. -/
def restoreTeam (b : PlayerBarn) (p : Nat) (state : LoosePlayerState) : PlayerBarn :=
  if state.teamId ∈ b.teams ∧ b.team p ≠ some state.teamId then (b.leaveTeam p).joinTeam p state.teamId else b

def restorePlayer (b : PlayerBarn) (p : Nat) (join : JoinData) : PlayerBarn :=
  match join.session with
  | none => b
  | some sessionId =>
    let b := b.setPlayer p fun player => { player with opsiaSessionId := sessionId }
    match b.restoredState sessionId with
    | none => b
    | some state =>
      let b := (b.restoreTeam p state).setPlayer p state.restore
      { b with restoredPlayers := b.restoredPlayers.filter fun state => decide (state.sessionId ≠ sessionId) }

/-- The player that `addPlayer` makes. -/
def newPlayer (b : PlayerBarn) (join : JoinData) : PlayerBarn :=
  { b with
    playerObject := Function.update b.playerObject b.nextPlayer { findGameIp := join.findGameIp, bot := join.bot }
    nextPlayer := b.nextPlayer + 1 }

def addPlayer (b : PlayerBarn) (join : JoinData) : Option PlayerBarn :=
  (b.getGroupAndTeam rules join).bind fun (group, team, b) =>
    let team := if rules.factionMode && !rules.isTeamMode then b.getSmallestTeam else team
    ((b.newPlayer join).activatePlayer b.nextPlayer group team).map fun b' => b'.restorePlayer b.nextPlayer join

def sessionPlayer (b : PlayerBarn) (sessionId : String) : Option Nat :=
  b.players.find? fun p => decide ((b.playerObject p).opsiaSessionId = sessionId)

/-- The player of the session is connected again. -/
def reattach (b : PlayerBarn) (p : Nat) : PlayerBarn :=
  (b.setPlayer p fun player => { player with disconnected := false }).checkGroup p

/-- `addClient` of a token that asks for a player: the join takes the player of its session up again, is refused, or
makes a player. -/
def addClient (b : PlayerBarn) (join : JoinData) : Option PlayerBarn :=
  match join.session.bind b.sessionPlayer with
  | some p => some (if (b.playerObject p).disconnected && join.retained then b.reattach p else b)
  | none => b.addPlayer rules join

/-! ### Closes -/

/-- `minActiveTime` is ten seconds. -/
def canDespawn (b : PlayerBarn) (p : Nat) : Bool :=
  !(rules.factionMode && decide ((b.playerObject p).role ≠ "")) &&
    (decide ((b.playerObject p).timeAlive < 10) && !b.dead p && !(b.playerObject p).downed)

def removePlayer (b : PlayerBarn) (p : Nat) : PlayerBarn :=
  let b := { b with players := b.players.erase p, livingPlayers := b.livingPlayers.erase p }
  let b := (b.leaveTeam p).leaveGroup p
  if rules.isTeamMode then
    { b with livingPlayers := b.livingPlayers.insertionSort fun p q =>
        (b.playerObject p).teamId ≤ (b.playerObject q).teamId }
  else b

/-- The player is removed when its socket closes: a bot always, a player that is not retained if it can despawn. -/
def leavesAtClose (b : PlayerBarn) (p : Nat) : Bool :=
  if rules.opsiaRoom && (b.playerObject p).bot then true
  else if rules.opsiaRoom && decide (16 ≤ (Json.utf16 (b.playerObject p).opsiaSessionId).length) then false
  else b.canDespawn rules p

def handleSocketClose (b : PlayerBarn) (p : Nat) : PlayerBarn :=
  let b := (b.setPlayer p fun player => { player with disconnected := true }).checkGroup p
  if b.leavesAtClose rules p then b.removePlayer rules p else b

/-- The player is removed when its retention ends. -/
def leavesAtCleanup (b : PlayerBarn) (p : Nat) : Bool := (b.playerObject p).disconnected && b.canDespawn rules p

/-- The retention of a player ends. -/
def cleanupRetained (b : PlayerBarn) (p : Nat) : PlayerBarn :=
  if b.leavesAtCleanup rules p then b.removePlayer rules p else b

/-! ### Snapshots -/

/-- `playerSessionId` -/
def playerSessionId (player : Player) : String :=
  if player.opsiaSessionId = "" then player.findGameIp else player.opsiaSessionId

def capturePlayer (player : Player) : LoosePlayerState where
  sessionId := playerSessionId player
  teamId := player.teamId
  score := player.kills
  downed := some player.downed
  dead := some player.dead
  timeAlive := some player.timeAlive
  role := some player.role
  isKillLeader := some player.isKillLeader

/-- The players of `serializeGame`; the sort keeps players of one session id in order. -/
def serializeGame (b : PlayerBarn) : List LoosePlayerState := b.players.map fun p => capturePlayer (b.playerObject p)

/-! ### Steps -/

inductive BarnEvent
  | join (join : JoinData)
  | kill (p : Nat) (killCreditSource : Option Nat)
  | update (p : Nat) (dt : Rat)
  /-- What live play does to a player otherwise. -/
  | play (p : Nat) (downed : Bool) (role : String)
  | socketClose (p : Nat)
  | cleanup (p : Nat)

def step (b : PlayerBarn) : BarnEvent → Option PlayerBarn
  | .join join => b.addClient rules join
  | .kill p killCreditSource => if p ∈ b.players then some (b.kill rules p killCreditSource) else none
  | .update p dt => if p ∈ b.players then some (b.update rules p dt) else none
  | .play p downed role =>
    if p ∈ b.players then some (b.setPlayer p fun player => { player with downed, role }) else none
  | .socketClose p =>
    if p ∈ b.players ∧ (b.playerObject p).disconnected = false then some (b.handleSocketClose rules p) else none
  | .cleanup p => if p ∈ b.players then some (b.cleanupRetained rules p) else none

end PlayerBarn

/-- The processes of a room and the snapshots that have been taken. -/
structure PlayerBarns where
  barns : List PlayerBarn
  snapshots : List (List PlayerBarn.LoosePlayerState)

namespace PlayerBarns

open PlayerBarn (BarnEvent)

variable (rules : BarnRules)

inductive HandoffEvent
  | start
  | barn (i : Nat) (event : BarnEvent)
  | snapshot (i : Nat)
  /-- The process restores a snapshot; nobody is connected to it. -/
  | restore (i k : Nat)

def init : PlayerBarns := ⟨[], []⟩

def step (s : PlayerBarns) : HandoffEvent → Option PlayerBarns
  | .start => some { s with barns := s.barns ++ [PlayerBarn.new rules] }
  | .barn i event => s.barns[i]?.bind fun b => (b.step rules event).map fun b' => { s with barns := s.barns.set i b' }
  | .snapshot i => s.barns[i]?.map fun b => { s with snapshots := s.snapshots ++ [b.serializeGame] }
  | .restore i k => s.barns[i]?.bind fun b => s.snapshots[k]?.bind fun snapshot =>
    if b.players.all fun p => (b.playerObject p).disconnected then
      some { s with barns := s.barns.set i { b with restoredPlayers := snapshot } }
    else none

end PlayerBarns

end Opsia
