import Opsia.Game.ClientBarn
import Opsia.Machine

/-!
# Who owns a player

A client that has a player is the client of that player (`Owned.pointsBack`), whatever order joins, closes and
cleanups come in: a join takes a player over only when the client before it has been told of its close, and then lets
that client go. So a late close event finds no player at the client it closes.
-/

namespace Opsia

namespace GameProcess

open Machine

variable {settings : BarnSettings}

/-- Numbers of clients and players are given out once. -/
structure Numbered (g : GameProcess) : Prop where
  socket : ∀ id socket c, g.sockets id = some socket → socket.client = some c → c < g.nextClient
  client : ∀ c player, (g.clientObject c).player = some player → c < g.nextClient ∧ player < g.nextPlayer
  player : ∀ player ∈ g.players, player < g.nextPlayer

/-- Sockets, clients and players point at each other. -/
structure Owned (g : GameProcess) : Prop extends Numbered g where
  nodup : g.players.Nodup
  sessions : ∀ p ∈ g.players, ∀ q ∈ g.players, g.session p = g.session q → g.session p ≠ "" → p = q
  pointsBack : ∀ c player, (g.clientObject c).player = some player → (g.playerObject player).client = c
  single : ∀ id id' socket socket' c, g.sockets id = some socket → g.sockets id' = some socket' →
    socket.client = some c → socket'.client = some c → id = id'
  gateway : ∀ id socket c player gatewaySessionId, g.sockets id = some socket → socket.client = some c →
    (g.clientObject c).player = some player → socket.gatewaySessionId = some gatewaySessionId → gatewaySessionId ≠ "" →
      g.session player = gatewaySessionId

/-- What the process keeps of the sockets, the clients' players and the players, up to closes. -/
structure SameOwners (g g' : GameProcess) : Prop where
  sockets : ∀ id socket', g'.sockets id = some socket' → ∃ socket, g.sockets id = some socket ∧
    socket'.client = socket.client ∧ socket'.gatewaySessionId = socket.gatewaySessionId
  players : g'.players.Sublist g.players
  clientPlayer : ∀ c, (g'.clientObject c).player = (g.clientObject c).player
  playerClient : ∀ p, (g'.playerObject p).client = (g.playerObject p).client
  session : ∀ p, g'.session p = g.session p
  nextClient : g'.nextClient = g.nextClient
  nextPlayer : g'.nextPlayer = g.nextPlayer

theorem SameOwners.refl (g : GameProcess) : SameOwners g g :=
  ⟨fun _ socket h => ⟨socket, h, rfl, rfl⟩, List.Sublist.refl _, fun _ => rfl, fun _ => rfl, fun _ => rfl, rfl, rfl⟩

theorem SameOwners.trans {g g' g'' : GameProcess} (h : SameOwners g g') (h' : SameOwners g' g'') :
    SameOwners g g'' := by
  constructor
  · intro id socket hs
    obtain ⟨socket', hs', hc', hg'⟩ := h'.sockets id socket hs
    obtain ⟨socket'', hs'', hc'', hg''⟩ := h.sockets id socket' hs'
    exact ⟨socket'', hs'', hc'.trans hc'', hg'.trans hg''⟩
  · exact h'.players.trans h.players
  · exact fun c => (h'.clientPlayer c).trans (h.clientPlayer c)
  · exact fun p => (h'.playerClient p).trans (h.playerClient p)
  · exact fun p => (h'.session p).trans (h.session p)
  · exact h'.nextClient.trans h.nextClient
  · exact h'.nextPlayer.trans h.nextPlayer

theorem SameOwners.owned {g g' : GameProcess} (hsame : SameOwners g g') (h : g.Owned) : g'.Owned := by
  have hplayer : ∀ {p}, p ∈ g'.players → p ∈ g.players := fun hp => hsame.players.subset hp
  refine ⟨⟨?_, ?_, ?_⟩, ?_, ?_, ?_, ?_, ?_⟩
  · intro id socket' c hs hc
    obtain ⟨socket, hs, hclient, -⟩ := hsame.sockets id socket' hs
    rw [hsame.nextClient]
    exact h.socket id socket c hs (hclient.symm.trans hc)
  · intro c player hc
    rw [hsame.clientPlayer] at hc
    rw [hsame.nextClient, hsame.nextPlayer]
    exact h.client c player hc
  · intro p hp
    rw [hsame.nextPlayer]
    exact h.player p (hplayer hp)
  · exact h.nodup.sublist hsame.players
  · intro p hp q hq heq hne
    rw [hsame.session, hsame.session] at heq
    rw [hsame.session] at hne
    exact h.sessions p (hplayer hp) q (hplayer hq) heq hne
  · intro c player hc
    rw [hsame.clientPlayer] at hc
    rw [hsame.playerClient]
    exact h.pointsBack c player hc
  · intro id id' socket₁ socket₂ c hs₁ hs₂ hc₁ hc₂
    obtain ⟨t₁, ht₁, hclient₁, -⟩ := hsame.sockets id socket₁ hs₁
    obtain ⟨t₂, ht₂, hclient₂, -⟩ := hsame.sockets id' socket₂ hs₂
    exact h.single id id' t₁ t₂ c ht₁ ht₂ (hclient₁.symm.trans hc₁) (hclient₂.symm.trans hc₂)
  · intro id socket' c player gatewaySessionId hs hc hp hg hne
    obtain ⟨socket, hs, hclient, hgateway⟩ := hsame.sockets id socket' hs
    rw [hsame.clientPlayer] at hp
    rw [hsame.session]
    exact h.gateway id socket c player gatewaySessionId hs (hclient.symm.trans hc) hp (hgateway.symm.trans hg) hne

/-! ### Pieces -/

theorem sameOwners_close (g : GameProcess) (id : String) : SameOwners g (g.close id) := by
  refine ⟨?_, List.Sublist.refl _, fun _ => rfl, fun _ => rfl, fun _ => rfl, rfl, rfl⟩
  intro i socket' hs
  unfold close at hs
  by_cases hi : i = id
  · subst hi
    simp only [Function.update_self] at hs
    obtain ⟨socket, hsocket, rfl⟩ := Option.map_eq_some_iff.1 hs
    exact ⟨socket, hsocket, rfl, rfl⟩
  · simp only [Function.update_of_ne hi] at hs
    exact ⟨socket', hs, rfl, rfl⟩

theorem sameOwners_forget (g : GameProcess) (sessionId : String) : SameOwners g (g.forget sessionId) :=
  { SameOwners.refl g with }

theorem sameOwners_retain (g : GameProcess) (sessionId : String) (retained : Game.RetainedSession) :
    SameOwners g (g.retain sessionId retained) :=
  { SameOwners.refl g with }

theorem sameOwners_removePlayer (g : GameProcess) (player : Nat) : SameOwners g (g.removePlayer player) :=
  { SameOwners.refl g with players := List.erase_sublist }

theorem sameOwners_leave (g : GameProcess) (player : Nat) (now : Int) :
    SameOwners g (g.leave settings player now) := by
  unfold leave
  split
  · exact sameOwners_removePlayer g player
  · split
    · exact sameOwners_retain g _ _
    · split
      · exact sameOwners_removePlayer g player
      · exact SameOwners.refl g

theorem sameOwners_closeClient (g : GameProcess) (c : Nat) : SameOwners g (g.closeClient c) := by
  refine { SameOwners.refl g with clientPlayer := fun c' => ?_ }
  by_cases hc : c' = c
  · subst hc
    simp [closeClient]
  · simp [closeClient, Function.update_of_ne hc]

theorem sameOwners_handleSocketClose (g : GameProcess) (socket : Socket) (now : Int) :
    SameOwners g (g.handleSocketClose settings socket now) := by
  unfold handleSocketClose
  split
  · exact SameOwners.refl g
  · rename_i c _
    split
    · exact sameOwners_closeClient g c
    · exact (sameOwners_closeClient g c).trans (sameOwners_leave ..)

/-- What becomes of a player changes nothing at the sockets and the objects. -/
theorem leave_frame (g : GameProcess) (player : Nat) (now : Int) :
    (g.leave settings player now).sockets = g.sockets ∧ (g.leave settings player now).playerObject = g.playerObject ∧
      (g.leave settings player now).clientObject = g.clientObject := by
  unfold leave
  repeat' split
  all_goals exact ⟨rfl, rfl, rfl⟩

theorem sockets_handleSocketClose (g : GameProcess) (socket : Socket) (now : Int) :
    (g.handleSocketClose settings socket now).sockets = g.sockets := by
  unfold handleSocketClose
  split
  · rfl
  · split
    · rfl
    · exact (leave_frame _ _ now).1

theorem sameOwners_cleanupEntry (g : GameProcess) (now : Int) (entry : String × Game.RetainedSession) :
    SameOwners g (cleanupEntry settings now g entry) := by
  unfold cleanupEntry
  split
  · exact sameOwners_forget g _
  · split
    · exact SameOwners.refl g
    · split
      · exact (sameOwners_forget g _).trans (sameOwners_removePlayer _ _)
      · exact sameOwners_forget g _

theorem sameOwners_cleanup (g : GameProcess) (now : Int) : SameOwners g (g.cleanupRetainedSessions settings now) := by
  unfold cleanupRetainedSessions
  generalize g.retainedSessions = entries
  induction entries generalizing g with
  | nil => exact SameOwners.refl g
  | cons entry entries ih =>
    rw [List.foldl_cons]
    exact (sameOwners_cleanupEntry g now entry).trans (ih _)

theorem sameOwners_live (g : GameProcess) (player : Nat) (condition : Condition) :
    SameOwners g (g.live player condition) := by
  have hobject : ∀ p, ((g.live player condition).playerObject p).client = (g.playerObject p).client ∧
      ((g.live player condition).playerObject p).opsiaSessionId = (g.playerObject p).opsiaSessionId := by
    intro p
    unfold live
    by_cases hp : p = player
    · subst hp
      simp
    · simp [Function.update_of_ne hp]
  exact { SameOwners.refl g with playerClient := fun p => (hobject p).1, session := fun p => (hobject p).2 }

/-! ### Joins -/

/-- A new client for a socket, which lets go of `target` whoever had it. -/
structure Joins (g g' : GameProcess) (id : String) (socket : Socket) (target : Option Nat) : Prop where
  sockets : g'.sockets = Function.update g.sockets id (some { socket with client := some g.nextClient })
  nextClient : g'.nextClient = g.nextClient + 1
  nextPlayer : g.nextPlayer ≤ g'.nextPlayer
  newest : (g'.clientObject g.nextClient).player = target
  others : ∀ c p, c ≠ g.nextClient → (g'.clientObject c).player = some p →
    (g.clientObject c).player = some p ∧ target ≠ some p
  taken : ∀ p, target = some p → p < g'.nextPlayer ∧ (g'.playerObject p).client = g.nextClient
  kept : ∀ p, target ≠ some p → (g'.playerObject p).client = (g.playerObject p).client ∧ g'.session p = g.session p
  gateway : ∀ p gatewaySessionId, target = some p → socket.gatewaySessionId = some gatewaySessionId →
    gatewaySessionId ≠ "" → g'.session p = gatewaySessionId

theorem Joins.owned {g g' : GameProcess} {id : String} {socket : Socket} {target : Option Nat}
    (hj : Joins g g' id socket target) (h : g.Owned) (hbound : ∀ p ∈ g'.players, p < g'.nextPlayer)
    (hnodup : g'.players.Nodup)
    (hsessions : ∀ p ∈ g'.players, ∀ q ∈ g'.players, g'.session p = g'.session q → g'.session p ≠ "" → p = q) :
    g'.Owned := by
  -- a socket has the new client, or it is one from before and its client is older
  have hsocket : ∀ i socket' c, g'.sockets i = some socket' → socket'.client = some c →
      (i = id ∧ c = g.nextClient ∧ socket'.gatewaySessionId = socket.gatewaySessionId) ∨
        (c < g.nextClient ∧ g.sockets i = some socket') := by
    intro i socket' c hi hc
    rw [hj.sockets] at hi
    by_cases heq : i = id
    · subst heq
      rw [Function.update_self, Option.some.injEq] at hi
      subst hi
      cases hc
      exact Or.inl ⟨rfl, rfl, rfl⟩
    · rw [Function.update_of_ne heq] at hi
      exact Or.inr ⟨h.socket i socket' c hi hc, hi⟩
  refine ⟨⟨?_, ?_, hbound⟩, hnodup, hsessions, ?_, ?_, ?_⟩
  · intro i socket' c hi hc
    rw [hj.nextClient]
    rcases hsocket i socket' c hi hc with ⟨-, rfl, -⟩ | ⟨hlt, -⟩
    · exact Nat.lt_succ_self _
    · exact Nat.lt_succ_of_lt hlt
  · intro c p hp
    rw [hj.nextClient]
    by_cases hc : c = g.nextClient
    · subst hc
      rw [hj.newest] at hp
      exact ⟨Nat.lt_succ_self _, (hj.taken p hp).1⟩
    · have hold := h.client c p (hj.others c p hc hp).1
      exact ⟨Nat.lt_succ_of_lt hold.1, hold.2.trans_le hj.nextPlayer⟩
  · intro c p hp
    by_cases hc : c = g.nextClient
    · subst hc
      rw [hj.newest] at hp
      exact (hj.taken p hp).2
    · obtain ⟨hold, hne⟩ := hj.others c p hc hp
      rw [(hj.kept p hne).1]
      exact h.pointsBack c p hold
  · intro i i' socket₁ socket₂ c hi hi' hc₁ hc₂
    rcases hsocket i socket₁ c hi hc₁ with ⟨h₁, hc, -⟩ | ⟨hlt, h₁⟩
    · rcases hsocket i' socket₂ c hi' hc₂ with ⟨h₂, -, -⟩ | ⟨hlt, -⟩
      · rw [h₁, h₂]
      · omega
    · rcases hsocket i' socket₂ c hi' hc₂ with ⟨-, hc, -⟩ | ⟨-, h₂⟩
      · omega
      · exact h.single i i' socket₁ socket₂ c h₁ h₂ hc₁ hc₂
  · intro i socket' c p gatewaySessionId hi hc hp hg hne
    rcases hsocket i socket' c hi hc with ⟨-, rfl, hgateway⟩ | ⟨hlt, hold⟩
    · rw [hj.newest] at hp
      exact hj.gateway p gatewaySessionId hp (hgateway.symm.trans hg) hne
    · obtain ⟨hpold, hnot⟩ := hj.others c p (Nat.ne_of_lt hlt) hp
      rw [(hj.kept p hnot).2]
      exact h.gateway i socket' c p gatewaySessionId hold hc hpold hg hne

theorem joins_newClient {g : GameProcess} {id : String} {socket : Socket} {data : Game.JoinTokenData} :
    Joins g (g.newClient id socket data none) id socket none := by
  constructor
  · rfl
  · rfl
  · exact Nat.le_refl _
  · simp [newClient]
  · intro c p hc hp
    refine ⟨?_, by simp⟩
    simpa [newClient, Function.update_of_ne hc] using hp
  · intro p hp
    cases hp
  · exact fun p _ => ⟨rfl, rfl⟩
  · intro p _ hp
    cases hp

theorem joins_addPlayer {g : GameProcess} {id : String} {socket : Socket} {data : Game.JoinTokenData}
    {join : JoinMsg} (h : g.Owned)
    (hgateway : ∀ gatewaySessionId, socket.gatewaySessionId = some gatewaySessionId → gatewaySessionId ≠ "" →
      data.opsiaSessionId = some gatewaySessionId) :
    Joins g (g.addPlayer settings id socket data join) id socket (some g.nextPlayer) := by
  constructor
  · rfl
  · rfl
  · exact Nat.le_succ _
  · simp [addPlayer, newClient]
  · intro c p hc hp
    have hold : (g.clientObject c).player = some p := by
      simpa [addPlayer, newClient, Function.update_of_ne hc] using hp
    refine ⟨hold, fun heq => ?_⟩
    have := (h.client c p hold).2
    cases heq
    omega
  · intro p hp
    cases hp
    refine ⟨Nat.lt_succ_self _, ?_⟩
    simp [addPlayer]
  · intro p hp
    have hne : p ≠ g.nextPlayer := fun heq => hp (by rw [heq])
    simp [addPlayer, session, Function.update_of_ne hne]
  · intro p gatewaySessionId hp hg hne
    cases hp
    simp [addPlayer, session, hgateway gatewaySessionId hg hne]

theorem joins_reattach {g : GameProcess} {id : String} {socket : Socket} {data : Game.JoinTokenData}
    {sessionId : String} {player : Nat} (h : g.Owned) (hplayer : player < g.nextPlayer)
    (hgateway : ∀ gatewaySessionId, socket.gatewaySessionId = some gatewaySessionId → gatewaySessionId ≠ "" →
      g.session player = gatewaySessionId) :
    Joins g (g.reattach id socket data sessionId player) id socket (some player) := by
  have hsession : ∀ p, (g.reattach id socket data sessionId player).session p = g.session p := by
    intro p
    by_cases hp : p = player
    · subst hp
      simp [reattach, forget, session]
    · simp [reattach, forget, newClient, session, Function.update_of_ne hp]
  constructor
  · rfl
  · rfl
  · exact Nat.le_refl _
  · simp [reattach, forget, newClient]
  · intro c p hc hp
    by_cases hprevious : c = (g.playerObject player).client
    · subst hprevious
      simp [reattach, forget, newClient, Function.update_of_ne hc] at hp
    · have hold : (g.clientObject c).player = some p := by
        simpa [reattach, forget, newClient, Function.update_of_ne hc, Function.update_of_ne hprevious] using hp
      refine ⟨hold, fun heq => ?_⟩
      cases heq
      exact hprevious (h.pointsBack c player hold).symm
  · intro p hp
    cases hp
    refine ⟨hplayer, ?_⟩
    simp [reattach, forget]
  · intro p hp
    have hne : p ≠ player := fun heq => hp (by rw [heq])
    refine ⟨?_, hsession p⟩
    simp [reattach, forget, newClient, Function.update_of_ne hne]
  · intro p gatewaySessionId hp hg hne
    cases hp
    rw [hsession]
    exact hgateway gatewaySessionId hg hne

/-! ### What a join is taken for -/

theorem session_eq {data : Game.JoinTokenData} {sessionId : String} (h : data.session = some sessionId) :
    data.opsiaSessionId = some sessionId ∧ sessionId ≠ "" := by
  obtain ⟨hs, hne⟩ := Option.filter_eq_some_iff.1 h
  exact ⟨hs, of_decide_eq_true hne⟩

theorem mem_of_sessionPlayer {g : GameProcess} {sessionId : String} {player : Nat}
    (h : g.sessionPlayer sessionId = some player) : player ∈ g.players ∧ g.session player = sessionId :=
  ⟨List.mem_of_find?_eq_some h, by simpa using List.find?_some h⟩

/-- The signed session of a gateway socket is the session of the token. -/
def Signed (socket : Socket) (data : Game.JoinTokenData) : Prop :=
  ∀ gatewaySessionId, socket.gatewaySessionId = some gatewaySessionId → gatewaySessionId ≠ "" →
    data.opsiaSessionId = some gatewaySessionId

private theorem signed_of_check {socket : Socket} {data : Game.JoinTokenData}
    (h : ¬socket.gatewaySessionId.any (fun id => decide (id ≠ "" ∧ data.opsiaSessionId ≠ some id)) = true) :
    Signed socket data := by
  intro gatewaySessionId hg hne
  by_contra hnot
  exact h (by simp [hg, hne, hnot])

/-- A session comes back to its player, which has been told of the close of its client. -/
theorem admission_returning {g : GameProcess} {socket : Socket} {join : JoinMsg} {now : Int}
    {data : Game.JoinTokenData} {sessionId : String} {player : Nat}
    (h : g.admission settings socket join now = .returning data sessionId player) :
    g.joinTokens join.matchPriv = some data ∧ data.session = some sessionId ∧ g.sessionPlayer sessionId = some player ∧
      g.disconnected player = true ∧ Signed socket data := by
  unfold admission at h
  split at h
  · cases h
  · rename_i data' htoken
    dsimp only at h
    split at h
    · cases h
    split at h
    · cases h
    rename_i hsigned
    split at h
    · cases h
    rename_i hconnected
    split at h
    · cases h
    split at h
    · cases h
    split at h
    · rename_i sid p hsid hexisting
      cases h
      refine ⟨htoken, hsid, ?_, ?_, signed_of_check hsigned⟩
      · rwa [hsid, Option.bind_some] at hexisting
      · simpa [hexisting] using hconnected
    · cases h

/-- A session gets a new player only if it has none. -/
theorem admission_new {g : GameProcess} {socket : Socket} {join : JoinMsg} {now : Int} {data : Game.JoinTokenData}
    (h : g.admission settings socket join now = .new data) :
    (∀ sessionId, data.session = some sessionId → g.sessionPlayer sessionId = none) ∧ Signed socket data := by
  unfold admission at h
  split at h
  · cases h
  · rename_i data' _
    dsimp only at h
    split at h
    · cases h
    split at h
    · cases h
    rename_i hsigned
    split at h
    · cases h
    split at h
    · cases h
    split at h
    · cases h
    split at h
    · cases h
    · rename_i hnone
      cases h
      refine ⟨fun sessionId hsid => ?_, signed_of_check hsigned⟩
      cases hplayer : g.sessionPlayer sessionId with
      | none => rfl
      | some player => exact (hnone sessionId player hsid (by rw [hsid, Option.bind_some, hplayer])).elim

/-- A join keeps every pointer in order. -/
theorem Owned.addClient {g : GameProcess} {id : String} {socket : Socket} {join : JoinMsg} {now : Int} (h : g.Owned) :
    (g.addClient settings id socket join now).Owned := by
  have htaken : { g with joinTokens := Function.update g.joinTokens join.matchPriv none }.Owned :=
    SameOwners.owned { SameOwners.refl g with } h
  unfold GameProcess.addClient
  split
  · exact (sameOwners_close _ id).owned htaken
  · exact (sameOwners_close _ id).owned htaken
  · exact joins_newClient.owned htaken h.player h.nodup h.sessions
  · rename_i data sessionId player hadmission
    obtain ⟨-, hsid, hexisting, -, hsigned⟩ := admission_returning hadmission
    obtain ⟨hmem, hsession⟩ := mem_of_sessionPlayer hexisting
    split
    · have hgateway : ∀ gatewaySessionId, socket.gatewaySessionId = some gatewaySessionId → gatewaySessionId ≠ "" →
          g.session player = gatewaySessionId := by
        intro gatewaySessionId hg hne
        have heq := (session_eq hsid).1.symm.trans (hsigned gatewaySessionId hg hne)
        rw [hsession]
        exact Option.some.inj heq
      have hj := @joins_reattach _ id socket data sessionId player htaken (h.player player hmem) hgateway
      have hkept : ∀ p, (GameProcess.reattach { g with
          joinTokens := Function.update g.joinTokens join.matchPriv none } id socket data sessionId player).session p =
            g.session p := by
        intro p
        by_cases hp : p = player
        · subst hp
          simp [reattach, forget, session]
        · simp [reattach, forget, GameProcess.newClient, session, Function.update_of_ne hp]
      refine hj.owned htaken h.player h.nodup fun p hp q hq heq hne => ?_
      rw [hkept, hkept] at heq
      rw [hkept] at hne
      exact h.sessions p hp q hq heq hne
    · refine (sameOwners_close _ id).owned ?_
      have hnew : (GameProcess.newClient { g with
          joinTokens := Function.update g.joinTokens join.matchPriv none } id socket data none).Owned :=
        joins_newClient.owned htaken h.player h.nodup h.sessions
      refine SameOwners.owned ?_ hnew
      exact { SameOwners.refl _ with }
  · rename_i data hadmission
    obtain ⟨hnone, hsigned⟩ := admission_new hadmission
    have hold : ∀ p ∈ g.players, (GameProcess.addPlayer settings { g with
        joinTokens := Function.update g.joinTokens join.matchPriv none } id socket data join).session p =
          g.session p := by
      intro p hp
      have hne : p ≠ g.nextPlayer := Nat.ne_of_lt (h.player p hp)
      simp [GameProcess.addPlayer, session, Function.update_of_ne hne]
    have hnew : (GameProcess.addPlayer settings { g with
        joinTokens := Function.update g.joinTokens join.matchPriv none } id socket data join).session g.nextPlayer =
          data.opsiaSessionId.getD "" := by
      simp [GameProcess.addPlayer, session]
    have hfresh : g.nextPlayer ∉ g.players := fun hm => Nat.lt_irrefl _ (h.player _ hm)
    -- no player has the session of the new one
    have hother : ∀ p ∈ g.players, g.session p = data.opsiaSessionId.getD "" → g.session p ≠ "" → False := by
      intro p hp heq hne
      cases hdata : data.opsiaSessionId with
      | none =>
        rw [hdata] at heq
        exact hne heq
      | some sessionId =>
        have heq : g.session p = sessionId := by rwa [hdata] at heq
        have hsid : data.session = some sessionId := by
          rw [Game.JoinTokenData.session, hdata, Option.filter_some, if_pos]
          simpa [heq] using hne
        have hnot := List.find?_eq_none.1 (hnone sessionId hsid) p hp
        exact hnot (by simpa using heq)
    refine (joins_addPlayer htaken hsigned).owned htaken ?_ ?_ ?_
    · intro p hp
      rcases List.mem_append.1 hp with hp | hp
      · exact Nat.lt_succ_of_lt (h.player p hp)
      · rw [List.mem_singleton.1 hp]
        exact Nat.lt_succ_self _
    · exact List.nodup_append'.2 ⟨h.nodup, List.nodup_singleton _, by simpa using hfresh⟩
    · intro p hp q hq heq hne
      rcases List.mem_append.1 hp with hp | hp
      · rcases List.mem_append.1 hq with hq | hq
        · rw [hold p hp, hold q hq] at heq
          rw [hold p hp] at hne
          exact h.sessions p hp q hq heq hne
        · have hq' : q = g.nextPlayer := List.mem_singleton.1 hq
          subst hq'
          rw [hold p hp, hnew] at heq
          rw [hold p hp] at hne
          exact (hother p hp heq hne).elim
      · have hp' : p = g.nextPlayer := List.mem_singleton.1 hp
        subst hp'
        rcases List.mem_append.1 hq with hq | hq
        · rw [hnew, hold q hq] at heq
          rw [hnew, heq] at hne
          exact (hother q hq heq.symm hne).elim
        · exact (List.mem_singleton.1 hq).symm

/-! ### Runs -/

theorem owned_init : init.Owned := by
  refine ⟨⟨?_, ?_, ?_⟩, List.nodup_nil, ?_, ?_, ?_, ?_⟩
  · intro id socket c hs
    cases hs
  · intro c player hp
    cases hp
  · intro p hp
    cases hp
  · intro p hp
    cases hp
  · intro c player hp
    cases hp
  · intro id id' socket socket' c hs
    cases hs
  · intro id socket c player gatewaySessionId hs
    cases hs

theorem Owned.step {g g' : GameProcess} {event : Event} (h : g.Owned) (hs : g.step settings event = some g') :
    g'.Owned := by
  have hrest : ∀ {g' : GameProcess}, g'.sockets = g.sockets → g'.clientObject = g.clientObject →
      g'.players = g.players → g'.playerObject = g.playerObject → g'.nextClient = g.nextClient →
      g'.nextPlayer = g.nextPlayer → g'.Owned := by
    intro g' hsockets hclient hplayers hplayer hnextClient hnextPlayer
    refine SameOwners.owned (g := g) ⟨fun _ socket hi => ⟨socket, hsockets ▸ hi, rfl, rfl⟩, ?_, ?_, ?_, ?_, hnextClient,
      hnextPlayer⟩ h
    · rw [hplayers]
    · exact fun c => by rw [hclient]
    · exact fun p => by rw [hplayer]
    · exact fun p => by rw [session, hplayer, session]
  cases event with
  | addJoinToken token data =>
    cases hs
    exact hrest rfl rfl rfl rfl rfl rfl
  | socketOpen id ip gatewaySessionId =>
    cases hs
    have hsocket : ∀ i socket c, Function.update g.sockets id (some { gatewaySessionId, ip }) i = some socket →
        socket.client = some c → g.sockets i = some socket := by
      intro i socket c hi hc
      by_cases heq : i = id
      · subst heq
        rw [Function.update_self, Option.some.injEq] at hi
        subst hi
        cases hc
      · rwa [Function.update_of_ne heq] at hi
    refine ⟨⟨?_, h.client, h.player⟩, h.nodup, h.sessions, h.pointsBack, ?_, ?_⟩
    · exact fun i socket c hi hc => h.socket i socket c (hsocket i socket c hi hc) hc
    · intro i i' socket socket' c hi hi' hc hc'
      exact h.single i i' socket socket' c (hsocket i socket c hi hc) (hsocket i' socket' c hi' hc') hc hc'
    · exact fun i socket c player gw hi hc => h.gateway i socket c player gw (hsocket i socket c hi hc) hc
  | message id message now =>
    obtain ⟨socket, hsocket, rfl⟩ := Option.map_eq_some_iff.1 hs
    unfold handleMsg
    split
    · exact (sameOwners_close g id).owned h
    · exact h.addClient
    · exact h
    · exact (sameOwners_close g id).owned h
    · exact h
  | disconnect id =>
    cases hs
    exact (sameOwners_close g id).owned h
  | socketClose id now =>
    obtain ⟨socket, hsocket, rfl⟩ := Option.map_eq_some_iff.1 hs
    have hclosed : (g.handleSocketClose settings socket now).Owned :=
      (sameOwners_handleSocketClose g socket now).owned h
    refine SameOwners.owned ?_ hclosed
    refine ⟨fun i socket' hi => ?_, List.Sublist.refl _, fun _ => rfl, fun _ => rfl, fun _ => rfl, rfl, rfl⟩
    by_cases heq : i = id
    · subst heq
      simp at hi
    · refine ⟨socket', ?_, rfl, rfl⟩
      rw [sockets_handleSocketClose]
      simpa [Function.update_of_ne heq] using hi
  | update now =>
    cases hs
    exact (sameOwners_cleanup g now).owned h
  | play player condition =>
    simp only [GameProcess.step] at hs
    split at hs <;> cases hs
    exact (sameOwners_live g player condition).owned h
  | restore states =>
    cases hs
    unfold restoreGame
    split
    · exact h
    · exact hrest rfl rfl rfl rfl rfl rfl

/-- A session has at most one player, a player at most one socket, and a signed socket no player of another session. -/
structure SessionsOwned (g : GameProcess) : Prop where
  onePlayer : g.players.Nodup ∧
    ∀ p ∈ g.players, ∀ q ∈ g.players, g.session p = g.session q → g.session p ≠ "" → p = q
  oneSocket : ∀ id id' socket socket' c c' player, g.sockets id = some socket → g.sockets id' = some socket' →
    socket.client = some c → socket'.client = some c' → (g.clientObject c).player = some player →
      (g.clientObject c').player = some player → id = id'
  ownSession : ∀ id socket c player gatewaySessionId, g.sockets id = some socket → socket.client = some c →
    (g.clientObject c).player = some player → socket.gatewaySessionId = some gatewaySessionId → gatewaySessionId ≠ "" →
      g.session player = gatewaySessionId

theorem Owned.sessionsOwned {g : GameProcess} (h : g.Owned) : g.SessionsOwned := by
  refine ⟨⟨h.nodup, h.sessions⟩, ?_, h.gateway⟩
  intro id id' socket socket' c c' player hi hi' hc hc' hp hp'
  have heq : c = c' := (h.pointsBack c player hp).symm.trans (h.pointsBack c' player hp')
  subst heq
  exact h.single id id' socket socket' c hi hi' hc hc'

/-- The close of a socket leaves alone every player that is not its client's: the player stays in the game, with the
client it has, connected or not. -/
def CloseSpares (settings : BarnSettings) (g : GameProcess) : Event → Prop
  | .socketClose id now => ∀ socket ∈ g.sockets id, ∀ g' ∈ g.step settings (.socketClose id now), ∀ p ∈ g.players,
      socket.client ≠ some (g.playerObject p).client →
        p ∈ g'.players ∧ (g'.playerObject p).client = (g.playerObject p).client ∧ g'.disconnected p = g.disconnected p
  | _ => True

private theorem leave_spares {g : GameProcess} {player p : Nat} {now : Int} (hne : p ≠ player) (hp : p ∈ g.players) :
    p ∈ (g.leave settings player now).players := by
  unfold leave
  split
  · exact (List.mem_erase_of_ne hne).2 hp
  · split
    · exact hp
    · split
      · exact (List.mem_erase_of_ne hne).2 hp
      · exact hp

theorem Owned.closeSpares {g : GameProcess} (h : g.Owned) (event : Event) : g.CloseSpares settings event := by
  cases event with
  | socketClose id now =>
    intro socket hsocket g' hg' p hp hother
    simp only [GameProcess.step, Option.mem_def.1 hsocket, Option.map_some, Option.mem_def, Option.some.injEq] at hg'
    subst hg'
    show p ∈ (g.handleSocketClose settings socket now).players ∧
      ((g.handleSocketClose settings socket now).playerObject p).client = _ ∧
      (g.handleSocketClose settings socket now).disconnected p = _
    unfold handleSocketClose
    split
    · exact ⟨hp, rfl, rfl⟩
    · rename_i c hc
      have hne : (g.playerObject p).client ≠ c := fun heq => hother (by rw [hc, heq])
      have hclosed : (g.closeClient c).disconnected p = g.disconnected p := by
        simp [closeClient, disconnected, Function.update_of_ne hne]
      split
      · exact ⟨hp, rfl, hclosed⟩
      · rename_i player hplayer
        have hpne : p ≠ player := by
          intro heq
          subst heq
          exact hne (h.pointsBack c p hplayer)
        obtain ⟨-, hobjects, hclients⟩ := @leave_frame settings (g.closeClient c) player now
        refine ⟨leave_spares hpne hp, by rw [hobjects]; rfl, ?_⟩
        rw [← hclosed, disconnected, hobjects, hclients, disconnected]
  | addJoinToken | socketOpen | message | disconnect | update | play | restore => trivial

/-- In every run of the process each session has at most one player, each player is controlled from at most one socket,
a socket that was signed for a session controls no other session's player, and the close of a socket disconnects or
removes no player but its own client's. -/
theorem session_ownership (settings : BarnSettings) (events : List Event) :
    Throughout (step settings) SessionsOwned init events ∧
      EachStep (step settings) (CloseSpares settings) init events := by
  constructor
  · exact (throughout_of_step (fun g event g' h hs => Owned.step h hs) owned_init events).mono
      fun g h => h.sessionsOwned
  · exact eachStep_of_inv (fun g event g' h hs => ⟨h.closeSpares event, h.step hs⟩) owned_init events

end GameProcess

end Opsia
