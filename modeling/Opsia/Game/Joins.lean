import Opsia.Game.Players
import Opsia.Json.Record

/-!
# Joining a game

A join takes one of three ways to a player object.  A session whose player object is still in the game gets that object
back while it is retained (`reattach`); otherwise survev makes a new player, and `restorePlayer` gives it what the last
seeding left for the session, once.  A seeding replaces what is left for the sessions and their input sequences, and
leaves the player objects of the game as they are.

Each message of the process and each update of the game is one step.  What is random or up to the play is read from the
event: the body a new player is made with, the gun a bot starts with, whether a player can despawn, and what live play
does to a player.  The fields behind the comment `-- history` are not in the source.
-/

namespace Opsia

namespace Game

structure JoinTokenData where
  expiresAt : Int
  userId : Option String
  findGameIp : String
  opsiaSessionId : Option String
  spectator : Bool

/-- The session of a join, if it names one. -/
def JoinTokenData.session (data : JoinTokenData) : Option String := data.opsiaSessionId.filter fun s => decide (s ≠ "")

/-- A join message and the socket it came on, with what survev makes of it. -/
structure JoinRequest where
  matchPriv : String
  bot : Bool
  gatewaySessionId : Option String
  ip : String
  now : Int
  spawned : PlayerBody
  starterWeapon : Option StarterGun

/-- A client whose socket is open. -/
structure Client where
  id : Nat
  ip : String
  findGameIp : String
  userId : Option String
  player : Option Nat

/-- A player object; `id` is its identity. -/
structure Player where
  id : Nat
  opsiaSessionId : String
  bot : Bool
  client : Nat
  body : PlayerBody

structure RetainedSession where
  player : Nat
  expiresAt : Int

structure RoomSettings where
  defs : GameDefs
  opsiaRoom : Bool
  allowBots : Bool
  rateLimitsEnabled : Bool
  sessionReattachTtlMs : Option Int

def RoomSettings.ttlMs (settings : RoomSettings) : Int :=
  max 5000 (min 300000 (settings.sessionReattachTtlMs.getD 120000))

structure GameSnapshot (defs : GameDefs) where
  players : List LoosePlayerState
  captured : ∀ player ∈ players, player.Captured defs

/-- The player of a session: the last one listed, as in `new Map`. -/
def GameSnapshot.player? {defs : GameDefs} (snapshot : GameSnapshot defs) (sessionId : String) : Option LoosePlayerState :=
  snapshot.players.reverse.find? fun player => decide (player.sessionId = sessionId)

inductive RuntimeRole
  | active
  | candidate
deriving DecidableEq

/-- A game and the maps the runtime keeps for it. -/
structure RoomGame (settings : RoomSettings) where
  role : RuntimeRole
  joinTokens : String → Option JoinTokenData
  players : List Player
  clients : List Client
  retainedSessions : String → Option RetainedSession
  restoredPlayers : String → Option LoosePlayerState
  processedInputSequences : String → Nat
  nextPlayer : Nat
  nextClient : Nat
  -- history
  seeded : Option (GameSnapshot settings.defs)
  joinedSince : List String
  inputsSince : List String

namespace RoomGame

variable {settings : RoomSettings}

def sessionPlayer (game : RoomGame settings) (sessionId : String) : Option Player :=
  game.players.find? fun player => decide (player.opsiaSessionId = sessionId)

def disconnected (game : RoomGame settings) (player : Player) : Bool :=
  !game.clients.any fun client => decide (client.id = player.client)

def rateLimited (game : RoomGame settings) (join : JoinRequest) (data : JoinTokenData) : Bool :=
  let count := game.clients.filter fun c =>
    decide (c.ip = join.ip) || decide (c.findGameIp = data.findGameIp) ||
      (data.userId.isSome && decide (c.userId = data.userId))
  settings.rateLimitsEnabled && decide ((if settings.opsiaRoom then 100 else 5) ≤ count.length)

/-- What `addClient` does with a join. -/
inductive JoinPath
  | tokenInvalid
  | refused (reason : String)
  | spectator (data : JoinTokenData)
  | reattachExpired (sessionId : String)
  | reattach (data : JoinTokenData) (sessionId : String) (player : Player)
  | addPlayer (data : JoinTokenData)

/-- The checks of `addClient`, in their order. -/
def joinPath (game : RoomGame settings) (join : JoinRequest) : JoinPath :=
  match game.joinTokens join.matchPriv with
  | none => .tokenInvalid
  | some data =>
    let existing := data.session.bind game.sessionPlayer
    if data.expiresAt < join.now then .tokenInvalid
    else if join.gatewaySessionId.any (fun id => decide (id ≠ "" ∧ data.opsiaSessionId ≠ some id)) then
      .refused "gateway_session_identity_mismatch"
    else if existing.any (fun player => !game.disconnected player) then .refused "session_already_connected"
    else if game.rateLimited join data then .refused "rate_limited"
    else if data.spectator then .spectator data
    else
      match data.session, existing with
      | some sessionId, some player =>
        match game.retainedSessions sessionId with
        | none => .reattachExpired sessionId
        | some retained =>
          if retained.player ≠ player.id ∨ retained.expiresAt < join.now then .reattachExpired sessionId
          else .reattach data sessionId player
      | _, _ => .addPlayer data

def newClient (game : RoomGame settings) (join : JoinRequest) (data : JoinTokenData) (player : Option Nat) : Client where
  id := game.nextClient
  ip := join.ip
  findGameIp := data.findGameIp
  userId := data.userId
  player := player

/-- The body of a player that has just been made, restored from what is left for its session; a bot gets its starter
weapon on top. -/
def newBody (game : RoomGame settings) (join : JoinRequest) (data : JoinTokenData) : Except String PlayerBody :=
  let restored : Except String PlayerBody :=
    match data.session.bind game.restoredPlayers with
    | none => .ok join.spawned
    | some state => restorePlayer settings.defs state join.spawned
  restored.map fun body =>
    if settings.opsiaRoom && join.bot then body.equipOpsiaBotStarterWeapon settings.defs join.starterWeapon else body

/-- Lets a client in: the player object it is attached to, if any, and the game after that.  A client that is replaced
has been closed before, so that it is no longer among the clients. -/
def addClient (game : RoomGame settings) (join : JoinRequest) : Except String (Option Nat × RoomGame settings) :=
  let taken := { game with joinTokens := Function.update game.joinTokens join.matchPriv none }
  match game.joinPath join with
  | .tokenInvalid => .ok (none, taken)
  | .refused _ => .ok (none, taken)
  | .spectator data =>
    .ok (none, { taken with
      clients := taken.clients ++ [game.newClient join data none]
      nextClient := taken.nextClient + 1 })
  | .reattachExpired sessionId =>
    .ok (none, { taken with
      retainedSessions := Function.update taken.retainedSessions sessionId none
      nextClient := taken.nextClient + 1 })
  | .reattach data sessionId player =>
    .ok (some player.id, { taken with
      players := taken.players.map fun p => if p.id = player.id then { p with client := taken.nextClient } else p
      clients := taken.clients ++ [game.newClient join data (some player.id)]
      retainedSessions := Function.update taken.retainedSessions sessionId none
      nextClient := taken.nextClient + 1 })
  | .addPlayer data =>
    (game.newBody join data).map fun body =>
      let player : Player := {
        id := taken.nextPlayer
        opsiaSessionId := data.opsiaSessionId.getD ""
        bot := (settings.allowBots || settings.opsiaRoom) && join.bot
        client := taken.nextClient
        body := body }
      (some player.id, { taken with
        players := taken.players ++ [player]
        clients := taken.clients ++ [game.newClient join data (some player.id)]
        restoredPlayers := data.session.elim taken.restoredPlayers fun s => Function.update taken.restoredPlayers s none
        nextPlayer := taken.nextPlayer + 1
        nextClient := taken.nextClient + 1
        joinedSince := data.session.elim taken.joinedSince fun s => s :: taken.joinedSince })

def removePlayer (game : RoomGame settings) (id : Nat) : RoomGame settings :=
  { game with players := game.players.filter fun player => decide (player.id ≠ id) }

def handleSocketClose (game : RoomGame settings) (clientId : Nat) (now : Int) (canDespawn : Bool) : RoomGame settings :=
  match game.clients.find? fun client => decide (client.id = clientId) with
  | none => game
  | some client =>
    let closed := { game with clients := game.clients.filter fun c => decide (c.id ≠ clientId) }
    match client.player.bind fun id => game.players.find? fun player => decide (player.id = id) with
    | none => closed
    | some player =>
      if settings.opsiaRoom && player.bot then closed.removePlayer player.id
      else if settings.opsiaRoom && decide (16 ≤ (Json.utf16 player.opsiaSessionId).length) then
        { closed with
          retainedSessions := Function.update closed.retainedSessions player.opsiaSessionId
            (some ⟨player.id, now + settings.ttlMs⟩) }
      else if canDespawn then closed.removePlayer player.id
      else closed

/-- The retained session of a player has run out, so that the player leaves the game if it can. -/
def leaves (game : RoomGame settings) (now : Int) (canDespawn : Nat → Bool) (player : Player) : Bool :=
  match game.retainedSessions player.opsiaSessionId with
  | none => false
  | some retained =>
    decide (retained.player = player.id) && decide (retained.expiresAt ≤ now) && game.disconnected player &&
      canDespawn player.id

def cleanupRetainedSessions (game : RoomGame settings) (now : Int) (canDespawn : Nat → Bool) : RoomGame settings :=
  { game with
    retainedSessions := fun sessionId =>
      (game.retainedSessions sessionId).filter fun retained =>
        (game.players.any fun player => decide (player.id = retained.player)) && decide (now < retained.expiresAt)
    players := game.players.filter fun player => !game.leaves now canDespawn player }

def recordProcessedGatewayInput (game : RoomGame settings) (sessionId : String) (sequence : Nat) : RoomGame settings :=
  if game.processedInputSequences sessionId < sequence then
    { game with
      processedInputSequences := Function.update game.processedInputSequences sessionId sequence
      inputsSince := sessionId :: game.inputsSince }
  else game

/-- How far a seeding gets: the snapshot is refused before the game is touched, or when the game that has been restored
does not have the checksum of the snapshot, or it is in the game. -/
inductive SeedOutcome
  | refused
  | checksumMismatch
  | restored

def restoreGame (game : RoomGame settings) (snapshot : GameSnapshot settings.defs) (outcome : SeedOutcome) :
    RoomGame settings :=
  let replaced := { game with
    restoredPlayers := snapshot.player?
    processedInputSequences := fun sessionId => (snapshot.player? sessionId).elim 0 LoosePlayerState.sequence
    joinedSince := []
    inputsSince := [] }
  match outcome with
  | .refused => game
  | .checksumMismatch => { replaced with seeded := none }
  | .restored => { replaced with seeded := some snapshot }

def applyCandidateEnvelope (game : RoomGame settings) (snapshot : GameSnapshot settings.defs) (outcome : SeedOutcome) :
    RoomGame settings :=
  if game.players.any fun player => !game.disconnected player then game else game.restoreGame snapshot outcome

end RoomGame

/-! ### Steps -/

inductive GameEvent (settings : RoomSettings)
  | addJoinToken (token : String) (data : JoinTokenData)
  | join (request : JoinRequest)
  | socketClose (client : Nat) (now : Int) (canDespawn : Bool)
  | update (now : Int) (canDespawn : Nat → Bool)
  | play (player : Nat) (body : PlayerBody)
  | gatewayInput (sessionId : String) (sequence : Nat)
  | seedCandidate (snapshot : GameSnapshot settings.defs) (outcome : RoomGame.SeedOutcome)
  | promote
  | release

namespace RoomGame

variable {settings : RoomSettings}

/-- One step.  An error that is thrown in a message handler ends the process. -/
def step (game : RoomGame settings) : GameEvent settings → Option (RoomGame settings)
  | .addJoinToken token data => some { game with joinTokens := Function.update game.joinTokens token (some data) }
  | .join request => (game.addClient request).toOption.map Prod.snd
  | .socketClose client now canDespawn => some (game.handleSocketClose client now canDespawn)
  | .update now canDespawn => some (game.cleanupRetainedSessions now canDespawn)
  | .play player body =>
    some { game with players := game.players.map fun p => if p.id = player then { p with body := body } else p }
  | .gatewayInput sessionId sequence =>
    if game.role = .active ∧ sessionId ≠ "" ∧ 1 ≤ sequence ∧ sequence ≤ 9007199254740991 then
      some (game.recordProcessedGatewayInput sessionId sequence)
    else some game
  | .seedCandidate snapshot outcome =>
    if game.role = .candidate then some (game.applyCandidateEnvelope snapshot outcome) else some game
  | .promote => some { game with role := .active }
  | .release => some { game with role := .candidate }

/-- A game whose store has started: as a candidate, or as an active with the snapshot it has loaded. -/
def start (role : RuntimeRole) (loaded : Option (GameSnapshot settings.defs)) : RoomGame settings where
  role := role
  joinTokens := fun _ => none
  players := []
  clients := []
  retainedSessions := fun _ => none
  restoredPlayers := fun sessionId => loaded.bind fun snapshot => snapshot.player? sessionId
  processedInputSequences := fun sessionId =>
    (loaded.bind fun snapshot => snapshot.player? sessionId).elim 0 LoosePlayerState.sequence
  nextPlayer := 0
  nextClient := 0
  seeded := none
  joinedSince := []
  inputsSince := []

/-! ### What a join is to hand over -/

/-- The player object a join attaches to its session carries the snapshot the store was last seeded with. -/
def JoinCarriesSeed (game : RoomGame settings) (join : JoinRequest) : Prop :=
  ∀ id game', game.addClient join = .ok (some id, game') → ∀ player ∈ game'.players, player.id = id →
    player.opsiaSessionId ≠ "" → ∀ snapshot, game'.seeded = some snapshot →
      ∀ state, snapshot.player? player.opsiaSessionId = some state →
        player.body.Carries settings.defs state ∧
          state.lastInputSequence = some (game'.processedInputSequences player.opsiaSessionId : Int)

/-- The seeding reaches the player of this join.  A session that gets a retained object back must find it as the
snapshot says already.  A new player is restored if no player has been made for its session since the seeding: then it
must not lose grenades with a flak jacket it was made with, and a bot's starter weapon must not add ammunition. -/
def SeedReaches (game : RoomGame settings) (join : JoinRequest) : Prop :=
  ∀ snapshot, game.seeded = some snapshot →
    match game.joinPath join with
    | .reattach _ _ player => ∀ state, snapshot.player? player.opsiaSessionId = some state →
      player.opsiaSessionId ∉ game.inputsSince ∧ player.body.Carries settings.defs state
    | .addPlayer data => ∀ sessionId, data.session = some sessionId →
      ∀ state, snapshot.player? sessionId = some state →
        sessionId ∉ game.inputsSince ∧
          if sessionId ∈ game.joinedSince then
            (if settings.opsiaRoom && join.bot then
              join.spawned.equipOpsiaBotStarterWeapon settings.defs join.starterWeapon
            else join.spawned).Carries settings.defs state
          else
            ("flak_jacket" ∈ join.spawned.perks → state.FitsBackpack settings.defs) ∧
              (settings.opsiaRoom = true → join.bot = true → state.StarterAddsNothing settings.defs join.starterWeapon)
    | _ => True

end RoomGame

end Game

end Opsia
