import Opsia.Game.Joins

/-!
# Sockets, clients and players

The game process keeps the sockets it has been told of.  A join makes a `Client` the user data of its socket and gives
it a player: a new one, or the one its session has left behind.  Clients and players are objects that are named by
numbers and point at each other.  `ClientBarn` also keeps the sessions whose player may be taken up again.

A step is a message of the parent process, the cleanup of an update, or what live play does to one player.  The
restored states are kept as far as they decide whether a player can despawn.  An error thrown in a handler ends the
process and is not a step; `livingPlayers` and the map of the retained sessions are kept up to their order.
-/

namespace Opsia

open Game (JoinTokenData RetainedSession)

/-- What the process is configured with. -/
structure BarnSettings where
  opsiaRoom : Bool
  allowBots : Bool
  rateLimitsEnabled : Bool
  factionMode : Bool
  sessionReattachTtlMs : Option Int

def BarnSettings.ttlMs (settings : BarnSettings) : Int :=
  max 5000 (min 300000 (settings.sessionReattachTtlMs.getD 120000))

namespace GameProcess

/-- A `ProcessSocket`; `client` is its user data. -/
structure Socket where
  gatewaySessionId : Option String
  ip : String
  closed : Bool := false
  client : Option Nat := none

structure Client where
  ip : String
  findGameIp : String
  userId : Option String
  disconnected : Bool := false
  player : Option Nat

/-- What decides whether a player can despawn; `role` is whether it has one. -/
structure Condition where
  timeAlive : Rat := 0
  dead : Bool := false
  downed : Bool := false
  role : Bool := false
deriving DecidableEq

structure Player where
  opsiaSessionId : String
  bot : Bool
  client : Nat
  condition : Condition

/-- What a snapshot has left for a session. -/
structure RestoredState where
  dead : Bool
  downed : Option Bool
  timeAlive : Option Rat
  role : Option Bool

/-- `restorePlayer` -/
def RestoredState.restore (state : RestoredState) (condition : Condition) : Condition where
  timeAlive := state.timeAlive.getD condition.timeAlive
  dead := state.dead
  downed := state.downed.getD condition.downed
  role := state.role.getD condition.role

structure JoinMsg where
  matchPriv : String
  bot : Bool

end GameProcess

open GameProcess in
structure GameProcess where
  sockets : String → Option Socket
  clientObject : Nat → Client
  clients : List Nat
  nextClient : Nat
  playerObject : Nat → Player
  players : List Nat
  livingPlayers : List Nat
  nextPlayer : Nat
  retainedSessions : List (String × RetainedSession)
  joinTokens : String → Option JoinTokenData
  restoredPlayers : String → Option RestoredState

namespace GameProcess

variable (settings : BarnSettings)

def init : GameProcess where
  sockets := fun _ => none
  clientObject := fun _ => { ip := "", findGameIp := "", userId := none, player := none }
  clients := []
  nextClient := 0
  playerObject := fun _ => { opsiaSessionId := "", bot := false, client := 0, condition := {} }
  players := []
  livingPlayers := []
  nextPlayer := 0
  retainedSessions := []
  joinTokens := fun _ => none
  restoredPlayers := fun _ => none

/-! ### Pieces -/

/-- The server side of a close; the process still hears of it when the socket has closed. -/
def close (g : GameProcess) (id : String) : GameProcess :=
  { g with sockets := Function.update g.sockets id ((g.sockets id).map fun socket => { socket with closed := true }) }

def session (g : GameProcess) (player : Nat) : String := (g.playerObject player).opsiaSessionId

def disconnected (g : GameProcess) (player : Nat) : Bool := (g.clientObject (g.playerObject player).client).disconnected

def sessionPlayer (g : GameProcess) (sessionId : String) : Option Nat :=
  g.players.find? fun player => decide (g.session player = sessionId)

def retained (g : GameProcess) (sessionId : String) : Option RetainedSession :=
  (g.retainedSessions.find? fun entry => decide (entry.1 = sessionId)).map Prod.snd

def forget (g : GameProcess) (sessionId : String) : GameProcess :=
  { g with retainedSessions := g.retainedSessions.filter fun entry => decide (entry.1 ≠ sessionId) }

def retain (g : GameProcess) (sessionId : String) (retained : RetainedSession) : GameProcess :=
  { g.forget sessionId with retainedSessions := (g.forget sessionId).retainedSessions ++ [(sessionId, retained)] }

/-- `minActiveTime` is ten seconds. -/
def canDespawn (player : Player) : Bool :=
  !(settings.factionMode && player.condition.role) &&
    (decide (player.condition.timeAlive < 10) && !player.condition.dead && !player.condition.downed)

def removePlayer (g : GameProcess) (player : Nat) : GameProcess :=
  { g with players := g.players.erase player, livingPlayers := g.livingPlayers.erase player }

/-! ### Joins -/

def rateLimited (g : GameProcess) (socket : Socket) (data : JoinTokenData) : Bool :=
  let count := g.clients.filter fun c =>
    decide ((g.clientObject c).ip = socket.ip) || decide ((g.clientObject c).findGameIp = data.findGameIp) ||
      (data.userId.isSome && decide ((g.clientObject c).userId = data.userId))
  settings.rateLimitsEnabled && decide ((if settings.opsiaRoom then 100 else 5) ≤ count.length)

/-- What becomes of a join that is let in: the session and its player object, if there are any. -/
inductive Admission
  | tokenInvalid
  | refused (reason : String)
  | spectator (data : JoinTokenData)
  | returning (data : JoinTokenData) (sessionId : String) (player : Nat)
  | new (data : JoinTokenData)

/-- The checks of `addClient` before it makes a client, and what the join is then taken for. -/
def admission (g : GameProcess) (socket : Socket) (join : JoinMsg) (now : Int) : Admission :=
  match g.joinTokens join.matchPriv with
  | none => .tokenInvalid
  | some data =>
    let existing := data.session.bind g.sessionPlayer
    if data.expiresAt < now then .tokenInvalid
    else if socket.gatewaySessionId.any (fun id => decide (id ≠ "" ∧ data.opsiaSessionId ≠ some id)) then
      .refused "gateway_session_identity_mismatch"
    else if existing.any (fun player => !g.disconnected player) then .refused "session_already_connected"
    else if g.rateLimited settings socket data then .refused "rate_limited"
    else if data.spectator then .spectator data
    else
      match data.session, existing with
      | some sessionId, some player => .returning data sessionId player
      | _, _ => .new data

/-- The session can be taken up again with this player. -/
def Reattachable (g : GameProcess) (sessionId : String) (player : Nat) (now : Int) : Prop :=
  ∃ retained ∈ g.retained sessionId, retained.player = player ∧ now ≤ retained.expiresAt

instance (g : GameProcess) (sessionId : String) (player : Nat) (now : Int) :
    Decidable (g.Reattachable sessionId player now) := by
  unfold Reattachable
  infer_instance

/-- `new Client` -/
def newClient (g : GameProcess) (id : String) (socket : Socket) (data : JoinTokenData) (player : Option Nat) :
    GameProcess :=
  { g with
    sockets := Function.update g.sockets id (some { socket with client := some g.nextClient })
    clientObject := Function.update g.clientObject g.nextClient
      { ip := socket.ip, findGameIp := data.findGameIp, userId := data.userId, player }
    clients := g.clients ++ [g.nextClient]
    nextClient := g.nextClient + 1 }

/-- The client takes the player over from the one that had it. -/
def reattach (g : GameProcess) (id : String) (socket : Socket) (data : JoinTokenData) (sessionId : String)
    (player : Nat) : GameProcess :=
  let previousClient := (g.playerObject player).client
  let left := { g with
    clientObject :=
      Function.update g.clientObject previousClient { g.clientObject previousClient with player := none } }
  let joined := left.newClient id socket data (some player)
  { joined with
    playerObject := Function.update g.playerObject player { g.playerObject player with client := g.nextClient } }.forget
    sessionId

/-- `PlayerBarn.addPlayer` -/
def addPlayer (g : GameProcess) (id : String) (socket : Socket) (data : JoinTokenData) (join : JoinMsg) : GameProcess :=
  let joined := g.newClient id socket data (some g.nextPlayer)
  let player : Player := {
    opsiaSessionId := data.opsiaSessionId.getD ""
    bot := (settings.allowBots || settings.opsiaRoom) && join.bot
    client := g.nextClient
    condition := ((data.session.bind g.restoredPlayers).map fun state => state.restore {}).getD {} }
  { joined with
    playerObject := Function.update g.playerObject g.nextPlayer player
    players := g.players ++ [g.nextPlayer]
    livingPlayers := g.livingPlayers ++ [g.nextPlayer]
    nextPlayer := g.nextPlayer + 1
    restoredPlayers :=
      data.session.elim g.restoredPlayers fun sessionId => Function.update g.restoredPlayers sessionId none }

def addClient (g : GameProcess) (id : String) (socket : Socket) (join : JoinMsg) (now : Int) : GameProcess :=
  let taken := { g with joinTokens := Function.update g.joinTokens join.matchPriv none }
  match g.admission settings socket join now with
  | .tokenInvalid => taken.close id
  | .refused _ => taken.close id
  | .spectator data => taken.newClient id socket data none
  | .returning data sessionId player =>
    if g.Reattachable sessionId player now then taken.reattach id socket data sessionId player
    else { (taken.newClient id socket data none).forget sessionId with clients := g.clients }.close id
  | .new data => taken.addPlayer settings id socket data join

/-! ### Closes and cleanup -/

/-- What becomes of the player of a client that has gone. -/
def leave (g : GameProcess) (player : Nat) (now : Int) : GameProcess :=
  if settings.opsiaRoom && (g.playerObject player).bot then g.removePlayer player
  else if settings.opsiaRoom && decide (16 ≤ (Json.utf16 (g.session player)).length) then
    g.retain (g.session player) ⟨player, now + settings.ttlMs⟩
  else if canDespawn settings (g.playerObject player) then g.removePlayer player
  else g

/-- The client has been told that its socket has closed. -/
def closeClient (g : GameProcess) (c : Nat) : GameProcess :=
  { g with
    clientObject := Function.update g.clientObject c { g.clientObject c with disconnected := true }
    clients := g.clients.erase c }

def handleSocketClose (g : GameProcess) (socket : Socket) (now : Int) : GameProcess :=
  match socket.client with
  | none => g
  | some c =>
    match (g.clientObject c).player with
    | none => g.closeClient c
    | some player => (g.closeClient c).leave settings player now

/-- One round of the cleanup loop. -/
def cleanupEntry (now : Int) (g : GameProcess) (entry : String × RetainedSession) : GameProcess :=
  if entry.2.player ∉ g.players then g.forget entry.1
  else if now < entry.2.expiresAt then g
  else if g.disconnected entry.2.player && canDespawn settings (g.playerObject entry.2.player) then
    (g.forget entry.1).removePlayer entry.2.player
  else g.forget entry.1

def cleanupRetainedSessions (g : GameProcess) (now : Int) : GameProcess :=
  g.retainedSessions.foldl (cleanupEntry settings now) g

/-! ### Steps -/

/-- What a message of a socket turns out to be when it is read. -/
inductive Message
  | invalid
  | join (join : JoinMsg)
  | other

inductive Event
  | addJoinToken (token : String) (data : JoinTokenData)
  | socketOpen (id ip : String) (gatewaySessionId : Option String)
  | message (id : String) (message : Message) (now : Int)
  | disconnect (id : String)
  | socketClose (id : String) (now : Int)
  | update (now : Int)
  | play (player : Nat) (condition : Condition)
  | restore (states : String → Option RestoredState)

def handleMsg (g : GameProcess) (id : String) (socket : Socket) (message : Message) (now : Int) : GameProcess :=
  match message, socket.client with
  | .invalid, _ => g.close id
  | .join join, none => g.addClient settings id socket join now
  | .join _, some _ => g
  | .other, none => g.close id
  | .other, some _ => g

/-- Live play: a player that dies leaves `livingPlayers`, one that respawns comes back. -/
def live (g : GameProcess) (player : Nat) (condition : Condition) : GameProcess :=
  { g with
    playerObject := Function.update g.playerObject player { g.playerObject player with condition }
    livingPlayers :=
      match (g.playerObject player).condition.dead, condition.dead with
      | false, true => g.livingPlayers.erase player
      | true, false => if player ∈ g.livingPlayers then g.livingPlayers else g.livingPlayers ++ [player]
      | _, _ => g.livingPlayers }

/-- A snapshot is restored while no player is connected. -/
def restoreGame (g : GameProcess) (states : String → Option RestoredState) : GameProcess :=
  if g.players.any fun player => !g.disconnected player then g else { g with restoredPlayers := states }

def step (g : GameProcess) : Event → Option GameProcess
  | .addJoinToken token data => some { g with joinTokens := Function.update g.joinTokens token (some data) }
  | .socketOpen id ip gatewaySessionId =>
    some { g with sockets := Function.update g.sockets id (some { gatewaySessionId, ip }) }
  | .message id message now => (g.sockets id).map fun socket => g.handleMsg settings id socket message now
  | .disconnect id => some (g.close id)
  | .socketClose id now => (g.sockets id).map fun socket =>
    { g.handleSocketClose settings socket now with sockets := Function.update g.sockets id none }
  | .update now => some (g.cleanupRetainedSessions settings now)
  | .play player condition => if player ∈ g.players then some (g.live player condition) else none
  | .restore states => some (g.restoreGame states)

end GameProcess

end Opsia
