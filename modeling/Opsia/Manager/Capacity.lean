import Opsia.Game.ClientBarn

/-!
# The capacity of a room

The manager runs in the game server, the room in a child process of it.  The manager lets a request for a game in by
what it knows: the players that the last telemetry has shown, and the join tokens that it has given out in the last
fifteen seconds.  `OPSIA_ROOM` is set throughout.

Of the data of a process the identifier, the mode and the map are left out, and of a snapshot all but the players.  The
reservations are kept up to their order.
-/

namespace Opsia.Manager

/-- An entry of `playerData`; a token is a random UUID. -/
structure PlayerData where
  token : String
  userId : Option String
  ip : String
  opsiaSessionId : Option String
  spectator : Bool
deriving DecidableEq

structure Reservation where
  expiresAt : Int
  sessionId : Option String
  ip : String
  spectator : Bool
deriving DecidableEq

/-- The session that is named, if there is one. -/
def PlayerData.session (data : PlayerData) : Option String := data.opsiaSessionId.filter fun s => decide (s ≠ "")

def Reservation.session (r : Reservation) : Option String := r.sessionId.filter fun s => decide (s ≠ "")

/-- A player of the telemetry. -/
structure SnapshotPlayer where
  sessionId : String
  connected : Bool
deriving DecidableEq

structure GameData where
  canJoin : Bool
  aliveCount : Nat
  startedTime : Rat
  stopped : Bool
deriving DecidableEq

inductive ProcState
  | idle
  | creatingGame
  | running
deriving DecidableEq

/-- A request that waits for the process in `onCreatedCbs`. -/
structure WaitingRequest where
  playerData : List PlayerData
  timeoutAt : Int
deriving DecidableEq

/-- `GameProcess`, as the manager keeps it; a pending reset has the time of its timeout. -/
structure ManagedProcess where
  gameData : GameData
  state : ProcState
  onCreatedCbs : List WaitingRequest
  avaliableSlots : Nat
  opsiaSnapshot : Option (List SnapshotPlayer)
  opsiaReservations : List (String × Reservation)
  pendingOpsiaResets : List (String × Int)
  opsiaResetInFlight : Bool

namespace ManagedProcess

/-- A process for which a game is being created. -/
def create (maxPlayers : Nat) : ManagedProcess where
  gameData := ⟨false, 0, 0, false⟩
  state := .creatingGame
  onCreatedCbs := []
  avaliableSlots := maxPlayers
  opsiaSnapshot := none
  opsiaReservations := []
  pendingOpsiaResets := []
  opsiaResetInFlight := false

def connected (p : ManagedProcess) : List SnapshotPlayer :=
  (p.opsiaSnapshot.getD []).filter fun player => player.connected

def showsConnected (p : ManagedProcess) (sessionId : String) : Bool :=
  p.connected.any fun player => decide (player.sessionId = sessionId)

def reserves (p : ManagedProcess) (sessionId : String) : Bool :=
  p.opsiaReservations.any fun entry => decide (entry.2.session = some sessionId)

/-- The reservations that take a slot. -/
def participantReservations (p : ManagedProcess) : List (String × Reservation) :=
  p.opsiaReservations.filter fun entry => !entry.2.spectator

/-- The reservation is to go: its time is over, or its session has been shown as connected. -/
def releases (p : ManagedProcess) (now : Int) (r : Reservation) : Bool :=
  decide (r.expiresAt ≤ now) || r.session.any p.showsConnected

variable (maxPlayers : Nat)

def refreshOpsiaCapacity (p : ManagedProcess) (now : Int) : ManagedProcess :=
  let kept := { p with opsiaReservations := p.opsiaReservations.filter fun entry => !p.releases now entry.2 }
  { kept with avaliableSlots := maxPlayers - kept.connected.length - kept.participantReservations.length }

def maxOutstandingPerIp : Nat := 20

def exceedsOutstanding (p : ManagedProcess) (tokens : List PlayerData) (ip : String) : Bool :=
  decide (maxOutstandingPerIp <
    (p.opsiaReservations.filter fun entry => decide (entry.2.ip = ip)).length +
      (tokens.filter fun token => decide (token.ip = ip)).length)

/-- `canAcceptOpsia`, after the refresh it begins with. -/
def canAcceptOpsia (p : ManagedProcess) (tokens : List PlayerData) : Bool :=
  let requestedSessions := tokens.filterMap PlayerData.session
  decide requestedSessions.Nodup &&
    !(requestedSessions.any fun s => p.showsConnected s || p.reserves s) &&
    !(tokens.any fun token => p.exceedsOutstanding tokens token.ip) &&
    (decide (0 < tokens.length) &&
      decide ((tokens.filter fun token => !token.spectator).length ≤ p.avaliableSlots))

/-- `opsiaReservations.set` -/
def reserve (expiresAt : Int) (p : ManagedProcess) (token : PlayerData) : ManagedProcess :=
  { p with
    opsiaReservations := (p.opsiaReservations.filter fun entry => decide (entry.1 ≠ token.token)) ++
      [(token.token, ⟨expiresAt, token.opsiaSessionId, token.ip, token.spectator⟩)] }

/-- `addJoinTokens`, with whether the tokens are sent to the room; where they are not, the room is full. -/
def addJoinTokens (p : ManagedProcess) (tokens : List PlayerData) (now : Int) : ManagedProcess × Bool :=
  let refreshed := p.refreshOpsiaCapacity maxPlayers now
  if refreshed.canAcceptOpsia tokens then
    ((tokens.foldl (reserve (now + 15000)) refreshed).refreshOpsiaCapacity maxPlayers now, true)
  else (refreshed, false)

/-- The callbacks of the waiting requests, in their order, with the tokens that are sent to the room. -/
def runCallbacks (p : ManagedProcess) (now : Int) : List WaitingRequest → ManagedProcess × List (List PlayerData)
  | [] => (p, [])
  | request :: rest =>
    let (added, sent) := p.addJoinTokens maxPlayers request.playerData now
    let (done, others) := added.runCallbacks now rest
    (done, if sent then request.playerData :: others else others)

/-- `findGame`, with the tokens that are sent to the room at once. -/
def findGame (p : ManagedProcess) (playerData : List PlayerData) (now : Int) :
    ManagedProcess × List (List PlayerData) :=
  if p.gameData.stopped then (p, [])
  else
    let refreshed := p.refreshOpsiaCapacity maxPlayers now
    if !refreshed.canAcceptOpsia playerData then (refreshed, [])
    else if refreshed.state ≠ .running then
      ({ refreshed with onCreatedCbs := refreshed.onCreatedCbs ++ [⟨playerData, now + 5000⟩] }, [])
    else
      let (added, sent) := refreshed.addJoinTokens maxPlayers playerData now
      (added, if sent then [playerData] else [])

/-- What an `UpdateData` does, with the tokens that are sent to the room. -/
def updateData (p : ManagedProcess) (data : GameData) (now : Int) : ManagedProcess × List (List PlayerData) :=
  let (created, sent) :=
    if p.state = .creatingGame ∧ (data.canJoin = true ∨ data.stopped = false) then
      let (done, sent) := { p with state := .running }.runCallbacks maxPlayers now p.onCreatedCbs
      ({ done with onCreatedCbs := [] }, sent)
    else (p, [])
  ({ created with gameData := data, state := if data.stopped then .idle else created.state }, sent)

def showSnapshot (p : ManagedProcess) (players : List SnapshotPlayer) (now : Int) : ManagedProcess :=
  { p with opsiaSnapshot := some players }.refreshOpsiaCapacity maxPlayers now

/-- `reset`, when no reset is under way. -/
def reset (p : ManagedProcess) (requestId : String) (now : Int) : ManagedProcess :=
  { p with
    opsiaResetInFlight := true
    state := .creatingGame
    opsiaSnapshot := none
    opsiaReservations := []
    avaliableSlots := 0
    pendingOpsiaResets := p.pendingOpsiaResets ++ [(requestId, now + 7000)] }

/-- The timeout of a reset, and its answer. -/
def endReset (p : ManagedProcess) (requestId : String) : ManagedProcess :=
  if p.pendingOpsiaResets.any fun entry => decide (entry.1 = requestId) then
    { p with
      pendingOpsiaResets := p.pendingOpsiaResets.filter fun entry => decide (entry.1 ≠ requestId)
      opsiaResetInFlight := false }
  else p

end ManagedProcess

end Opsia.Manager
