import Opsia.Machine
import Opsia.Manager.Capacity

/-!
# A manager and its room

The manager and the child process send each other messages over two channels, each in order.  The child has a game, and
after a reset another one: it first clears what the store has of the game that is to go, while it still hands its
messages to that game, then makes the new game and starts it.  A game that is ready tells the manager its data, a game
that is not only that it is alive.

The fields behind the comment `-- history` are not in the source: games are numbered in the order in which they are made,
and the tokens carry the number of resets that there had been when they were given out.

A step is something that happens at the manager, at the child, or to the clock they share.  The game sends its data at
joins, deaths, gas stages and every five seconds, and here at any time.  A socket is opened by the manager some time
after its upgrade has been let in.  An error that ends the child ends the run; what a message costs in time is in its
delivery.  A game that has been replaced may still become ready and send its data (`stray`).
-/

namespace Opsia.Manager

structure RoomSettings where
  barn : BarnSettings
  maxPlayers : Nat
  opsiaInfinite : Bool
  telemetryIntervalMs : Nat
  opsiaRoom : barn.opsiaRoom = true
  telemetryInterval_admissible : 500 ≤ telemetryIntervalMs ∧ telemetryIntervalMs ≤ 60000

/-! ### Messages -/

/-- The messages to the child. -/
inductive ProcessMsg
  | addJoinToken (tokens : List PlayerData) (resets : Nat)
  | socketOpen (id ip : String) (gatewaySessionId : Option String)
  | clientSocketMsg (id : String) (message : Opsia.GameProcess.Message)
  | socketClose (id : String)
  | opsiaReset (requestId : String)

def ProcessMsg.isReset : ProcessMsg → Bool
  | .opsiaReset _ => true
  | _ => false

def ProcessMsg.bringsTokens : ProcessMsg → Bool
  | .addJoinToken _ _ => true
  | _ => false

/-- The messages to the manager; `generation` is the game that sends its data. -/
inductive RoomMsg
  | keepAlive
  | updateData (data : GameData) (generation : Nat)
  | opsiaSnapshot (players : List SnapshotPlayer)
  | opsiaResetResult (requestId : String)

/-- A manager that waits goes on with this message. -/
def RoomMsg.endsWait : RoomMsg → Bool
  | .updateData data _ => data.canJoin || !data.stopped
  | _ => false

/-! ### The child -/

/-- What decides whether a game can be joined. -/
structure GameStatus where
  aliveCount : Nat
  startedTime : Rat
  gameOver : Bool
  stopped : Bool

def GameStatus.canJoin (settings : RoomSettings) (status : GameStatus) : Bool :=
  if settings.opsiaInfinite then decide (status.aliveCount < settings.maxPlayers) && !status.stopped
  else decide (status.aliveCount < settings.maxPlayers) && !status.gameOver && decide (status.startedTime < 60)

def GameStatus.gameData (settings : RoomSettings) (status : GameStatus) : GameData :=
  ⟨status.canJoin settings, status.aliveCount, status.startedTime, status.stopped⟩

/-- The child process.  `clearing` are the resets whose game is still there, `starting` the games that are being
started, with the reset that waits for them. -/
structure RoomProcess where
  barn : Opsia.GameProcess
  hasGame : Bool
  opsiaReady : Bool
  startedTime : Rat
  gameOver : Bool
  stopped : Bool
  clearing : List String
  starting : List (Nat × Option String)
  lastOpsiaSnapshotAt : Int
  -- history
  generation : Nat
  readied : List Nat

namespace RoomProcess

def status (c : RoomProcess) : GameStatus := ⟨c.barn.livingPlayers.length, c.startedTime, c.gameOver, c.stopped⟩

/-- `updateData` of the game. -/
def updateData (settings : RoomSettings) (c : RoomProcess) : RoomProcess × RoomMsg :=
  if c.opsiaReady then
    ({ c with hasGame := c.hasGame && !c.stopped }, .updateData (c.status.gameData settings) c.generation)
  else (c, .keepAlive)

/-- `updateData` of a game that has been replaced. -/
def strayUpdate (settings : RoomSettings) (c : RoomProcess) (generation : Nat) (ready : Bool) (stray : GameStatus) :
    RoomProcess × RoomMsg :=
  if ready then ({ c with hasGame := c.hasGame && !stray.stopped }, .updateData (stray.gameData settings) generation)
  else (c, .keepAlive)

/-- A promise of a game has come to its end: the game is ready or not, and sends its data. -/
def settle (settings : RoomSettings) (c : RoomProcess) (generation : Nat) (ready : Bool) (stray : GameStatus) :
    RoomProcess × RoomMsg :=
  let settled := { c with readied := if ready then generation :: c.readied else c.readied }
  if generation = c.generation then { settled with opsiaReady := ready }.updateData settings
  else settled.strayUpdate settings generation ready stray

/-- `playerSessionId` -/
def playerSessionId (g : Opsia.GameProcess) (player : Nat) : String :=
  if g.session player = "" then (g.clientObject (g.playerObject player).client).findGameIp else g.session player

/-- The players of `makeOpsSnapshot`. -/
def snapshotPlayers (c : RoomProcess) : List SnapshotPlayer :=
  c.barn.players.map fun player => ⟨playerSessionId c.barn player, !c.barn.disconnected player⟩

def joinTokenData (token : PlayerData) (now : Int) : Game.JoinTokenData :=
  ⟨now + 10000, token.userId, token.ip, token.opsiaSessionId, token.spectator⟩

def addJoinTokens (c : RoomProcess) (tokens : List PlayerData) (now : Int) : RoomProcess :=
  { c with
    barn := { c.barn with
      joinTokens := tokens.foldl
        (fun joinTokens token => Function.update joinTokens token.token (some (joinTokenData token now)))
        c.barn.joinTokens } }

/-- The game takes an event. -/
def play (settings : RoomSettings) (c : RoomProcess) (event : Opsia.GameProcess.Event) : Option RoomProcess :=
  (c.barn.step settings.barn event).map fun barn => { c with barn }

/-- A socket message for a socket that is not there is dropped. -/
def playOrDrop (settings : RoomSettings) (c : RoomProcess) (event : Opsia.GameProcess.Event) : RoomProcess :=
  (c.play settings event).getD c

/-- `OpsiaReset`, up to the first `await`. -/
def opsiaReset (c : RoomProcess) (requestId : String) : RoomProcess :=
  { c with
    barn := { c.barn with sockets := fun _ => none }
    opsiaReady := false
    clearing := c.clearing ++ [requestId] }

/-- `new ServerGame`; sockets, clients and players are objects of the process. -/
def newGame (c : RoomProcess) (requestId : String) : RoomProcess :=
  { c with
    barn := { c.barn with
      clients := []
      players := []
      livingPlayers := []
      retainedSessions := []
      joinTokens := fun _ => none
      restoredPlayers := fun _ => none }
    hasGame := true
    opsiaReady := false
    startedTime := 0
    gameOver := false
    stopped := false
    starting := c.starting ++ [(c.generation + 1, some requestId)]
    generation := c.generation + 1 }

/-- The message handler. -/
def handle (settings : RoomSettings) (c : RoomProcess) (now : Int) : ProcessMsg → RoomProcess
  | .addJoinToken tokens _ => c.addJoinTokens tokens now
  | .socketOpen id ip gatewaySessionId => c.playOrDrop settings (.socketOpen id ip gatewaySessionId)
  | .clientSocketMsg id message => c.playOrDrop settings (.message id message now)
  | .socketClose id => c.playOrDrop settings (.socketClose id now)
  | .opsiaReset requestId => c.opsiaReset requestId

/-- `Game.stop`, which closes the sockets of the clients. -/
def stop (c : RoomProcess) : RoomProcess :=
  { c with
    stopped := true
    barn := { c.barn with
      sockets := fun id => (c.barn.sockets id).map fun socket =>
        if socket.client.any (· ∈ c.barn.clients) then { socket with closed := true } else socket } }

end RoomProcess

/-! ### The room -/

/-- An entry of `playerData` for which a token has been given out, with the resets there had been by then and the games
that had become ready. -/
structure Grant where
  data : PlayerData
  resets : Nat
  readied : List Nat

/-- A socket whose upgrade has been let in. -/
structure Upgrade where
  id : String
  ip : String
  gatewaySessionId : Option String
deriving DecidableEq

structure Room where
  now : Int
  process : ManagedProcess
  upgrades : List Upgrade
  toRoom : List ProcessMsg
  child : RoomProcess
  toManager : List RoomMsg
  -- history
  resets : Nat
  granted : List Grant
  registered : List (Nat × Option Nat)

inductive Event
  | findGame (playerData : List PlayerData)
  | readyTimeout (index : Nat)
  | reset (requestId : String)
  | resetTimeout (requestId : String)
  | upgrade (upgrade : Upgrade)
  | socketOpen (upgrade : Upgrade)
  | clientSocketMsg (id : String) (message : Opsia.GameProcess.Message)
  | socketClose (id : String)
  | receive
  | handle
  | updateData
  | telemetry
  | update (seconds : Rat)
  | play (player : Nat) (condition : Opsia.GameProcess.Condition)
  | restore (states : String → Option Opsia.GameProcess.RestoredState)
  | disconnect (id : String)
  | gameOver
  | stop
  | cleared (index : Nat)
  | started (index : Nat) (ready : Bool) (stray : GameStatus)
  | handoff (generation : Nat) (ready : Bool) (stray : GameStatus)
  | tick (ms : Nat)

namespace Room

variable (settings : RoomSettings)

def init : Room where
  now := 0
  process := .create settings.maxPlayers
  upgrades := []
  toRoom := []
  child := {
    barn := .init
    hasGame := true
    opsiaReady := false
    startedTime := 0
    gameOver := false
    stopped := false
    clearing := []
    starting := [(0, none)]
    lastOpsiaSnapshotAt := 0
    generation := 0
    readied := [] }
  toManager := []
  resets := 0
  granted := []
  registered := []

def send (r : Room) (msg : ProcessMsg) : Room := { r with toRoom := r.toRoom ++ [msg] }

/-- The child's state after what it has done, and the message it sends. -/
def reply (r : Room) (out : RoomProcess × RoomMsg) : Room :=
  { r with child := out.1, toManager := r.toManager ++ [out.2] }

def grant (r : Room) (tokens : List PlayerData) : Room :=
  { r.send (.addJoinToken tokens r.resets) with
    granted := r.granted ++ tokens.map fun data => ⟨data, r.resets, r.child.readied⟩ }

/-- The manager has done something and sends join tokens. -/
def grantAll (r : Room) (out : ManagedProcess × List (List PlayerData)) : Room :=
  out.2.foldl grant { r with process := out.1 }

/-- `_onProcessMsg` -/
def onProcessMsg (r : Room) : RoomMsg → Room
  | .keepAlive => r
  | .updateData data _ => r.grantAll (r.process.updateData settings.maxPlayers data r.now)
  | .opsiaSnapshot players => { r with process := r.process.showSnapshot settings.maxPlayers players r.now }
  | .opsiaResetResult requestId => { r with process := r.process.endReset requestId }

/-- The child's message handler; what is not for a game is dropped when there is none. -/
def onRoomMsg (r : Room) (msg : ProcessMsg) : Room :=
  { r with
    child := if r.child.hasGame then r.child.handle settings r.now msg else r.child
    registered :=
      match msg with
      | .addJoinToken _ resets =>
        r.registered ++ [(resets, if r.child.hasGame then some r.child.generation else none)]
      | _ => r.registered }

/-- Something happens in the game. -/
def live (r : Room) (event : Opsia.GameProcess.Event) : Option Room :=
  if r.child.hasGame then (r.child.play settings event).map fun child => { r with child } else none

/-- A game's start has come to its end; the reset that waits for it is answered. -/
def started (r : Room) (index : Nat) (ready : Bool) (stray : GameStatus) : Option Room :=
  r.child.starting[index]?.map fun start =>
    let settled := r.reply
      ({ r.child with starting := r.child.starting.eraseIdx index }.settle settings start.1 ready stray)
    match start.2 with
    | none => settled
    | some requestId =>
      { settled with toManager := settled.toManager ++ [.opsiaResetResult requestId] }

def step (r : Room) : Event → Option Room
  | .findGame playerData =>
    if ((playerData.map PlayerData.token) ++ r.granted.map fun grant => grant.data.token).Nodup then
      some (r.grantAll (r.process.findGame settings.maxPlayers playerData r.now))
    else none
  | .readyTimeout index =>
    if r.process.onCreatedCbs[index]?.any fun request => decide (request.timeoutAt ≤ r.now) then
      some { r with process := { r.process with onCreatedCbs := r.process.onCreatedCbs.eraseIdx index } }
    else none
  | .reset requestId =>
    if r.process.gameData.stopped || r.process.opsiaResetInFlight then some r
    else some { ({ r with process := r.process.reset requestId r.now }.send (.opsiaReset requestId)) with
      resets := r.resets + 1 }
  | .resetTimeout requestId =>
    if r.process.pendingOpsiaResets.any fun entry => decide (entry.1 = requestId ∧ entry.2 ≤ r.now) then
      some { r with process := r.process.endReset requestId }
    else none
  | .upgrade upgrade =>
    if r.process.gameData.canJoin then some { r with upgrades := r.upgrades ++ [upgrade] } else some r
  | .socketOpen upgrade =>
    if upgrade ∈ r.upgrades then
      some ({ r with upgrades := r.upgrades.erase upgrade }.send
        (.socketOpen upgrade.id upgrade.ip upgrade.gatewaySessionId))
    else none
  | .clientSocketMsg id message => some (r.send (.clientSocketMsg id message))
  | .socketClose id => some (r.send (.socketClose id))
  | .receive =>
    match r.toManager with
    | [] => none
    | msg :: rest => some ({ r with toManager := rest }.onProcessMsg settings msg)
  | .handle =>
    match r.toRoom with
    | [] => none
    | msg :: rest => some ({ r with toRoom := rest }.onRoomMsg settings msg)
  | .updateData => if r.child.hasGame then some (r.reply (r.child.updateData settings)) else none
  | .telemetry =>
    if r.child.hasGame ∧ r.child.opsiaReady ∧
        r.child.lastOpsiaSnapshotAt + settings.telemetryIntervalMs ≤ r.now then
      some (r.reply ({ r.child with lastOpsiaSnapshotAt := r.now }, .opsiaSnapshot r.child.snapshotPlayers))
    else none
  | .update seconds =>
    if 0 ≤ seconds then
      { r with child := { r.child with startedTime := r.child.startedTime + seconds } }.live settings (.update r.now)
    else none
  | .play player condition => r.live settings (.play player condition)
  | .restore states => r.live settings (.restore states)
  | .disconnect id => r.live settings (.disconnect id)
  | .gameOver =>
    if r.child.hasGame ∧ settings.opsiaInfinite = false then
      some { r with child := { r.child with gameOver := true } }
    else none
  | .stop =>
    if r.child.hasGame ∧ r.child.gameOver ∧ r.child.stopped = false then
      some (r.reply (r.child.stop.updateData settings))
    else none
  | .cleared index =>
    r.child.clearing[index]?.map fun requestId =>
      { r with child := { r.child with clearing := r.child.clearing.eraseIdx index }.newGame requestId }
  | .started index ready stray => r.started settings index ready stray
  | .handoff generation ready stray =>
    if generation ≤ r.child.generation then some (r.reply (r.child.settle settings generation ready stray)) else none
  | .tick ms => some { r with now := r.now + ms }

end Room

end Opsia.Manager
