import Opsia.Game.Ownership

/-!
# Sessions that cannot come back

A session whose socket has closed can take its player up again as long as it is retained.  When the retention has run
out, the cleanup removes the player, if it can despawn; a join that comes before the cleanup ends the retention too.
A player that stays without retention keeps its session out for good (`LockedOut.forever`).  No session is locked out,
and everything else is as it should be, just when neither happens (`sessions_released_iff`).
-/

namespace Opsia

namespace GameProcess

open Machine Game

variable {settings : BarnSettings}

/-- A session id as the join interface admits it. -/
def Stable (sessionId : String) : Prop := 16 ≤ (Json.utf16 sessionId).length

instance (sessionId : String) : Decidable (Stable sessionId) := inferInstanceAs (Decidable (_ ≤ _))

/-- The session of this player can take it up again, for some time. -/
def Held (g : GameProcess) (player : Nat) : Prop :=
  ∃ retained ∈ g.retained (g.session player), retained.player = player

/-- The player is in the game, without client and without retention. -/
def LockedOut (g : GameProcess) (player : Nat) : Prop :=
  player ∈ g.players ∧ Stable (g.session player) ∧ g.disconnected player = true ∧ ¬g.Held player

/-- A session that comes back, with the player it has left. -/
def Admission.returns : Admission → Option (String × Nat)
  | .returning _ sessionId player => some (sessionId, player)
  | _ => none

def NoLockout (g : GameProcess) : Prop := ∀ player ∈ g.players, ¬g.LockedOut player

instance (g : GameProcess) (player : Nat) : Decidable (g.Held player) := by
  unfold Held
  infer_instance

instance (g : GameProcess) (player : Nat) : Decidable (g.LockedOut player) := by
  unfold LockedOut
  infer_instance

instance (g : GameProcess) : Decidable g.NoLockout := by
  unfold NoLockout
  infer_instance

/-! ### Retention -/

theorem retained_forget (g : GameProcess) (sessionId s : String) :
    (g.forget sessionId).retained s = if s = sessionId then none else g.retained s := by
  unfold retained forget
  rw [List.find?_filter]
  by_cases h : s = sessionId
  · rw [if_pos h, Option.map_eq_none_iff, List.find?_eq_none]
    intro e _
    simp [h]
  · rw [if_neg h]
    congr 2
    funext e
    by_cases he : e.1 = s
    · simp [he, h]
    · simp [he]

theorem retained_retain (g : GameProcess) (sessionId s : String) (r : RetainedSession) :
    (g.retain sessionId r).retained s = if s = sessionId then some r else g.retained s := by
  have hforget := retained_forget g sessionId s
  unfold retain retained at *
  rw [List.find?_append]
  by_cases h : s = sessionId
  · rw [if_pos h, Option.map_eq_none_iff] at hforget
    rw [if_pos h, hforget]
    simp [h]
  · rw [if_neg h] at hforget
    have hnone : List.find? (fun entry => decide (entry.1 = s)) [(sessionId, r)] = none := by
      simp [Ne.symm h]
    rw [if_neg h, hnone, Option.or_none]
    exact hforget

theorem mem_of_retained {g : GameProcess} {sessionId : String} {r : RetainedSession}
    (h : g.retained sessionId = some r) : (sessionId, r) ∈ g.retainedSessions := by
  obtain ⟨e, he, rfl⟩ := Option.map_eq_some_iff.1 h
  have hkey : e.1 = sessionId := by simpa using List.find?_some he
  subst hkey
  exact List.mem_of_find?_eq_some he

theorem retained_of_mem {g : GameProcess} {e : String × RetainedSession}
    (hkeys : (g.retainedSessions.map Prod.fst).Nodup) (he : e ∈ g.retainedSessions) : g.retained e.1 = some e.2 := by
  cases hfind : g.retained e.1 with
  | none =>
    have := List.find?_eq_none.1 (Option.map_eq_none_iff.1 hfind) e he
    simp at this
  | some r =>
    have hsame : (e.1, r) = e := List.inj_on_of_nodup_map hkeys (mem_of_retained hfind) he rfl
    rw [← hsame]

theorem Held.of_forget {g : GameProcess} {sessionId : String} {player : Nat} (h : g.Held player)
    (hne : g.session player ≠ sessionId) : (g.forget sessionId).Held player := by
  obtain ⟨r, hr, hp⟩ := h
  refine ⟨r, ?_, hp⟩
  rw [show (g.forget sessionId).session player = g.session player from rfl, retained_forget, if_neg hne]
  exact hr

/-! ### What holds in every state -/

/-- Players in the game have the client that has them, sockets have clients that have not been told of a close, and
what is retained is a player of the session. -/
structure Orderly (g : GameProcess) : Prop where
  owned : g.Owned
  owner : ∀ p ∈ g.players, (g.playerObject p).client < g.nextClient ∧
    (g.clientObject (g.playerObject p).client).player = some p
  connected : ∀ id socket c, g.sockets id = some socket → socket.client = some c →
    (g.clientObject c).disconnected = false ∧ ∀ p, (g.clientObject c).player = some p → p ∈ g.players
  entries : ∀ e ∈ g.retainedSessions, g.session e.2.player = e.1 ∧ e.2.player < g.nextPlayer
  keys : (g.retainedSessions.map Prod.fst).Nodup
  living : g.livingPlayers.Nodup ∧ ∀ p ∈ g.livingPlayers, p ∈ g.players

theorem orderly_init : init.Orderly := by
  refine ⟨owned_init, ?_, ?_, ?_, List.nodup_nil, List.nodup_nil, ?_⟩
  · intro p hp
    cases hp
  · intro id socket c hs
    cases hs
  · intro e he
    cases he
  · intro p hp
    cases hp

/-- What leaves clients, players and retention as they are. -/
theorem Orderly.congr {g g' : GameProcess} (h : g.Orderly) (howned : g'.Owned)
    (hsockets : ∀ id socket' c, g'.sockets id = some socket' → socket'.client = some c →
      ∃ socket, g.sockets id = some socket ∧ socket.client = some c)
    (hclient : g'.clientObject = g.clientObject) (hplayer : g'.playerObject = g.playerObject)
    (hplayers : g'.players = g.players) (hliving : g'.livingPlayers = g.livingPlayers)
    (hretained : g'.retainedSessions = g.retainedSessions) (hnextClient : g'.nextClient = g.nextClient)
    (hnextPlayer : g'.nextPlayer = g.nextPlayer) : g'.Orderly := by
  refine ⟨howned, ?_, ?_, ?_, ?_, ?_⟩
  · rw [hplayers, hplayer, hclient, hnextClient]
    exact h.owner
  · intro id socket' c hs hc
    obtain ⟨socket, hs, hc⟩ := hsockets id socket' c hs hc
    rw [hclient, hplayers]
    exact h.connected id socket c hs hc
  · intro e he
    rw [session, hplayer, hnextPlayer]
    exact h.entries e (hretained ▸ he)
  · rw [hretained]
    exact h.keys
  · rw [hliving, hplayers]
    exact h.living

/-- What a lockout depends on. -/
theorem lockedOut_congr {g g' : GameProcess} {p : Nat} (hplayers : p ∈ g'.players ↔ p ∈ g.players)
    (hsame : p ∈ g.players → g'.session p = g.session p ∧ g'.disconnected p = g.disconnected p ∧
      (Stable (g.session p) → g'.retained (g.session p) = g.retained (g.session p))) :
    g'.LockedOut p ↔ g.LockedOut p := by
  unfold LockedOut Held
  by_cases hp : p ∈ g.players
  · obtain ⟨hsession, hdisconnected, hretained⟩ := hsame hp
    rw [hplayers, hsession, hdisconnected]
    by_cases hstable : Stable (g.session p)
    · rw [hretained hstable]
    · exact iff_of_false (fun h => hstable h.2.1) (fun h => hstable h.2.1)
  · rw [hplayers]
    exact iff_of_false (fun h => hp h.1) (fun h => hp h.1)

theorem not_lockedOut_of_connected {g : GameProcess} {p : Nat} (h : g.disconnected p = false) : ¬g.LockedOut p := by
  intro hlocked
  rw [hlocked.2.2.1] at h
  cases h

theorem Stable.ne_empty {sessionId : String} (h : Stable sessionId) : sessionId ≠ "" := by
  rintro rfl
  exact absurd h (by decide)

/-! ### Joins -/

/-- The flags of the clients, when a new client comes. -/
structure Attaches (g g' : GameProcess) (target : Option Nat) : Prop where
  newest : (g'.clientObject g.nextClient).disconnected = false
  older : ∀ c, c < g.nextClient → (g'.clientObject c).disconnected = (g.clientObject c).disconnected
  keeps : ∀ c p, c < g.nextClient → (g.clientObject c).player = some p → target ≠ some p →
    (g'.clientObject c).player = some p
  players : ∀ p, p ∈ g'.players ↔ p ∈ g.players ∨ target = some p

theorem Orderly.disconnected_kept {g g' : GameProcess} {id : String} {socket : Socket} {target : Option Nat} {p : Nat}
    (h : g.Orderly) (hj : Joins g g' id socket target) (ha : Attaches g g' target) (hp : p ∈ g.players)
    (hne : target ≠ some p) : g'.disconnected p = g.disconnected p := by
  unfold disconnected
  rw [(hj.kept p hne).1]
  exact ha.older _ (h.owner p hp).1

theorem disconnected_taken {g g' : GameProcess} {id : String} {socket : Socket} {target : Option Nat} {p : Nat}
    (hj : Joins g g' id socket target) (ha : Attaches g g' target) (hp : target = some p) :
    g'.disconnected p = false := by
  unfold disconnected
  rw [(hj.taken p hp).2]
  exact ha.newest

theorem Orderly.joins {g g' : GameProcess} {id : String} {socket : Socket} {target : Option Nat} (h : g.Orderly)
    (hj : Joins g g' id socket target) (ha : Attaches g g' target) (howned : g'.Owned)
    (hentries : g'.retainedSessions.Sublist g.retainedSessions)
    (hsession : ∀ p < g.nextPlayer, g'.session p = g.session p)
    (hliving : g'.livingPlayers.Nodup ∧ ∀ p ∈ g'.livingPlayers, p ∈ g'.players) : g'.Orderly := by
  refine ⟨howned, ?_, ?_, ?_, h.keys.sublist (hentries.map _), hliving⟩
  · intro p hp
    rw [hj.nextClient]
    by_cases htarget : target = some p
    · rw [(hj.taken p htarget).2, hj.newest]
      exact ⟨Nat.lt_succ_self _, htarget⟩
    · have hold : p ∈ g.players := ((ha.players p).1 hp).resolve_right htarget
      obtain ⟨hlt, hplayer⟩ := h.owner p hold
      rw [(hj.kept p htarget).1]
      exact ⟨Nat.lt_succ_of_lt hlt, ha.keeps _ p hlt hplayer htarget⟩
  · intro i socket' c hi hc
    rw [hj.sockets] at hi
    by_cases heq : i = id
    · subst heq
      rw [Function.update_self, Option.some.injEq] at hi
      subst hi
      cases hc
      refine ⟨ha.newest, fun p hp => ?_⟩
      rw [hj.newest] at hp
      exact (ha.players p).2 (Or.inr hp)
    · rw [Function.update_of_ne heq] at hi
      obtain ⟨hflag, hplayers⟩ := h.connected i socket' c hi hc
      have hlt := h.owned.socket i socket' c hi hc
      refine ⟨(ha.older c hlt).trans hflag, fun p hp => ?_⟩
      have hold := (hj.others c p (Nat.ne_of_lt hlt) hp).1
      exact (ha.players p).2 (Or.inl (hplayers p hold))
  · intro e he
    obtain ⟨hkey, hlt⟩ := h.entries e (hentries.subset he)
    exact ⟨(hsession _ hlt).trans hkey, hlt.trans_le hj.nextPlayer⟩

private theorem attaches_newClient (g : GameProcess) (id : String) (socket : Socket) (data : JoinTokenData) :
    Attaches g (g.newClient id socket data none) none := by
  refine ⟨by simp [newClient], ?_, ?_, by simp [newClient]⟩
  · intro c hc
    simp [newClient, Function.update_of_ne (Nat.ne_of_lt hc)]
  · intro c p hc hp _
    simpa [newClient, Function.update_of_ne (Nat.ne_of_lt hc)] using hp

private theorem attaches_addPlayer (g : GameProcess) (id : String) (socket : Socket) (data : JoinTokenData)
    (join : JoinMsg) : Attaches g (g.addPlayer settings id socket data join) (some g.nextPlayer) := by
  refine ⟨by simp [addPlayer, newClient], ?_, ?_, ?_⟩
  · intro c hc
    simp [addPlayer, newClient, Function.update_of_ne (Nat.ne_of_lt hc)]
  · intro c p hc hp _
    simpa [addPlayer, newClient, Function.update_of_ne (Nat.ne_of_lt hc)] using hp
  · intro p
    simp [addPlayer, eq_comm]

private theorem attaches_reattach {g : GameProcess} (id : String) (socket : Socket) (data : JoinTokenData)
    (sessionId : String) {player : Nat} (h : g.Orderly) (hp : player ∈ g.players) :
    Attaches g (g.reattach id socket data sessionId player) (some player) := by
  refine ⟨by simp [reattach, forget, newClient], ?_, ?_, ?_⟩
  · intro c hc
    by_cases hprevious : c = (g.playerObject player).client
    · subst hprevious
      simp [reattach, forget, newClient, Function.update_of_ne (Nat.ne_of_lt hc)]
    · simp [reattach, forget, newClient, Function.update_of_ne (Nat.ne_of_lt hc), Function.update_of_ne hprevious]
  · intro c p hc hplayer hne
    have hprevious : c ≠ (g.playerObject player).client := by
      intro heq
      subst heq
      rw [(h.owner player hp).2] at hplayer
      exact hne hplayer
    simpa [reattach, forget, newClient, Function.update_of_ne (Nat.ne_of_lt hc), Function.update_of_ne hprevious]
      using hplayer
  · intro p
    simp only [reattach, forget, newClient, Option.some.injEq]
    constructor
    · exact Or.inl
    · rintro (hp' | rfl)
      · exact hp'
      · exact hp

private theorem orderly_newClient {g : GameProcess} {id : String} {socket : Socket} {data : JoinTokenData}
    (h : g.Orderly) : (g.newClient id socket data none).Orderly := by
  have howned : (g.newClient id socket data none).Owned :=
    joins_newClient.owned h.owned h.owned.player h.owned.nodup h.owned.sessions
  exact h.joins joins_newClient (attaches_newClient g id socket data) howned (List.Sublist.refl _) (fun _ _ => rfl)
    h.living

private theorem lockedOut_newClient {g : GameProcess} {id : String} {socket : Socket} {data : JoinTokenData} {p : Nat}
    (h : g.Orderly) : (g.newClient id socket data none).LockedOut p ↔ g.LockedOut p := by
  refine lockedOut_congr Iff.rfl fun hp => ⟨rfl, ?_, fun _ => rfl⟩
  exact h.disconnected_kept joins_newClient (attaches_newClient g id socket data) hp (by simp)

private theorem orderly_addPlayer {g : GameProcess} {id : String} {socket : Socket} {data : JoinTokenData}
    {join : JoinMsg} (h : g.Orderly) (hsigned : Signed socket data)
    (howned : (g.addPlayer settings id socket data join).Owned) :
    (g.addPlayer settings id socket data join).Orderly := by
  refine h.joins (joins_addPlayer h.owned hsigned) (attaches_addPlayer g id socket data join) howned
    (List.Sublist.refl _) (fun p hp => ?_) ⟨?_, ?_⟩
  · simp [addPlayer, session, Function.update_of_ne (Nat.ne_of_lt hp)]
  · have hfresh : g.nextPlayer ∉ g.livingPlayers := fun hm => Nat.lt_irrefl _ (h.owned.player _ (h.living.2 _ hm))
    exact List.nodup_append'.2 ⟨h.living.1, List.nodup_singleton _, by simpa using hfresh⟩
  · intro p hp
    rcases List.mem_append.1 hp with hp | hp
    · exact List.mem_append_left _ (h.living.2 p hp)
    · exact List.mem_append_right _ hp

private theorem lockedOut_addPlayer {g : GameProcess} {id : String} {socket : Socket} {data : JoinTokenData}
    {join : JoinMsg} {p : Nat} (h : g.Orderly) (hsigned : Signed socket data) :
    (g.addPlayer settings id socket data join).LockedOut p ↔ g.LockedOut p := by
  have hj : Joins g (g.addPlayer settings id socket data join) id socket _ := joins_addPlayer h.owned hsigned
  have ha : Attaches g (g.addPlayer settings id socket data join) _ := attaches_addPlayer g id socket data join
  by_cases hp : p = g.nextPlayer
  · subst hp
    refine iff_of_false (not_lockedOut_of_connected (disconnected_taken hj ha rfl)) fun hlocked => ?_
    exact Nat.lt_irrefl _ (h.owned.player _ hlocked.1)
  · refine lockedOut_congr ?_ fun hmem => ⟨?_, ?_, fun _ => rfl⟩
    · simp [addPlayer, hp]
    · simp [addPlayer, session, Function.update_of_ne hp]
    · exact h.disconnected_kept hj ha hmem (by simpa using Ne.symm hp)

private theorem session_reattach (g : GameProcess) (id : String) (socket : Socket) (data : JoinTokenData)
    (sessionId : String) (player p : Nat) : (g.reattach id socket data sessionId player).session p = g.session p := by
  by_cases hp : p = player
  · subst hp
    simp [reattach, forget, session]
  · simp [reattach, forget, newClient, session, Function.update_of_ne hp]

private theorem orderly_reattach {g : GameProcess} {id : String} {socket : Socket} {data : JoinTokenData}
    {sessionId : String} {player : Nat} (h : g.Orderly) (hp : player ∈ g.players)
    (hj : Joins g (g.reattach id socket data sessionId player) id socket (some player)) :
    (g.reattach id socket data sessionId player).Orderly := by
  have hsession := session_reattach g id socket data sessionId player
  have howned : (g.reattach id socket data sessionId player).Owned := by
    refine hj.owned h.owned h.owned.player h.owned.nodup fun p hp q hq heq hne => ?_
    rw [hsession, hsession] at heq
    rw [hsession] at hne
    exact h.owned.sessions p hp q hq heq hne
  exact h.joins hj (attaches_reattach id socket data sessionId h hp) howned List.filter_sublist (fun p _ => hsession p)
    h.living

private theorem lockedOut_reattach {g : GameProcess} {id : String} {socket : Socket} {data : JoinTokenData}
    {sessionId : String} {player p : Nat} (h : g.Orderly) (hp : player ∈ g.players)
    (hplayer : g.session player = sessionId) (hheld : g.Held player)
    (hj : Joins g (g.reattach id socket data sessionId player) id socket (some player)) :
    (g.reattach id socket data sessionId player).LockedOut p ↔ g.LockedOut p := by
  have ha := attaches_reattach id socket data sessionId h hp
  by_cases heq : p = player
  · subst heq
    exact iff_of_false (not_lockedOut_of_connected (disconnected_taken hj ha rfl)) fun hlocked => hlocked.2.2.2 hheld
  · refine lockedOut_congr Iff.rfl fun hmem => ⟨session_reattach .., ?_, fun hstable => ?_⟩
    · exact h.disconnected_kept hj ha hmem (by simpa using Ne.symm heq)
    · have hne : g.session p ≠ sessionId := by
        intro hs
        exact heq (h.owned.sessions p hmem player hp (hs.trans hplayer.symm) hstable.ne_empty)
      unfold reattach
      rw [retained_forget, if_neg hne]
      rfl

/-- The retention of a session ends without a new connection. -/
private theorem lockedOut_forget {g : GameProcess} {sessionId : String} {player p : Nat} (h : g.Orderly)
    (hp : player ∈ g.players) (hplayer : g.session player = sessionId) (hdisconnected : g.disconnected player = true) :
    (g.forget sessionId).LockedOut p ↔ g.LockedOut p ∨ (p = player ∧ Stable sessionId) := by
  by_cases heq : p = player
  · subst heq
    have hforgotten : ¬(g.forget sessionId).Held p := by
      rintro ⟨r, hr, -⟩
      rw [show (g.forget sessionId).session p = sessionId from hplayer, retained_forget, if_pos rfl] at hr
      cases hr
    constructor
    · intro hlocked
      exact Or.inr ⟨rfl, hplayer ▸ hlocked.2.1⟩
    · rintro (hlocked | ⟨-, hstable⟩)
      · exact ⟨hlocked.1, hlocked.2.1, hlocked.2.2.1, hforgotten⟩
      · exact ⟨hp, by rw [← hplayer] at hstable; exact hstable, hdisconnected, hforgotten⟩
  · have hsame : (g.forget sessionId).LockedOut p ↔ g.LockedOut p := by
      refine lockedOut_congr Iff.rfl fun hmem => ⟨rfl, rfl, fun hstable => ?_⟩
      rw [retained_forget, if_neg]
      intro hs
      exact heq (h.owned.sessions p hmem player hp (hs.trans hplayer.symm) hstable.ne_empty)
    rw [hsame]
    simp [heq]

theorem Admission.returns_eq {admission : Admission} {sessionId : String} {player : Nat}
    (h : admission.returns = some (sessionId, player)) : ∃ data, admission = .returning data sessionId player := by
  cases admission with
  | returning data s p =>
    cases h
    exact ⟨data, rfl⟩
  | tokenInvalid | refused | spectator | new => cases h

/-- A join locks a player out when its session comes back after the retention has run out. -/
theorem Orderly.addClient {g : GameProcess} {id : String} {socket : Socket} {join : JoinMsg} {now : Int}
    (h : g.Orderly) :
    (g.addClient settings id socket join now).Orderly ∧
      ∀ p, (g.addClient settings id socket join now).LockedOut p ↔
        g.LockedOut p ∨ ∃ back ∈ (g.admission settings socket join now).returns,
          back.2 = p ∧ Stable back.1 ∧ ¬g.Reattachable back.1 p now := by
  have htaken : { g with joinTokens := Function.update g.joinTokens join.matchPriv none }.Orderly := by
    refine h.congr ?_ (fun id socket c hs hc => ⟨socket, hs, hc⟩) rfl rfl rfl rfl rfl rfl rfl
    exact SameOwners.owned { SameOwners.refl g with } h.owned
  have hclosed : ∀ {g : GameProcess} (id : String), g.Orderly → (g.close id).Orderly := by
    intro g id h
    refine h.congr ((sameOwners_close g id).owned h.owned) (fun i socket' c hs hc => ?_) rfl rfl rfl rfl rfl rfl rfl
    obtain ⟨socket, hs, hclient, -⟩ := (sameOwners_close g id).sockets i socket' hs
    exact ⟨socket, hs, hclient.symm.trans hc⟩
  cases hadmission : g.admission settings socket join now with
  | tokenInvalid =>
    simp only [GameProcess.addClient, hadmission]
    refine ⟨hclosed id htaken, fun p => ?_⟩
    simp only [Admission.returns, Option.mem_def, reduceCtorEq, false_and, exists_false, or_false]
    exact Iff.rfl
  | refused reason =>
    simp only [GameProcess.addClient, hadmission]
    refine ⟨hclosed id htaken, fun p => ?_⟩
    simp only [Admission.returns, Option.mem_def, reduceCtorEq, false_and, exists_false, or_false]
    exact Iff.rfl
  | spectator data =>
    simp only [GameProcess.addClient, hadmission]
    refine ⟨orderly_newClient htaken, fun p => ?_⟩
    simp only [Admission.returns, Option.mem_def, reduceCtorEq, false_and, exists_false, or_false]
    exact lockedOut_newClient htaken
  | new data =>
    obtain ⟨-, hsigned⟩ := admission_new hadmission
    have howned : (g.addClient settings id socket join now).Owned := h.owned.addClient
    simp only [GameProcess.addClient, hadmission] at howned ⊢
    refine ⟨orderly_addPlayer htaken hsigned howned, fun p => ?_⟩
    simp only [Admission.returns, Option.mem_def, reduceCtorEq, false_and, exists_false, or_false]
    exact lockedOut_addPlayer htaken hsigned
  | returning data sessionId player =>
    obtain ⟨-, hsid, hexisting, hdisconnected, hsigned⟩ := admission_returning hadmission
    obtain ⟨hmem, hplayer⟩ := mem_of_sessionPlayer hexisting
    have hgateway : ∀ gatewaySessionId, socket.gatewaySessionId = some gatewaySessionId → gatewaySessionId ≠ "" →
        g.session player = gatewaySessionId := by
      intro gatewaySessionId hg hne
      have heq := (session_eq hsid).1.symm.trans (hsigned gatewaySessionId hg hne)
      rw [hplayer]
      exact Option.some.inj heq
    simp only [GameProcess.addClient, hadmission]
    by_cases hback : g.Reattachable sessionId player now
    · have hj := @joins_reattach _ id socket data sessionId player htaken.owned (h.owned.player player hmem) hgateway
      have hheld : g.Held player := by
        obtain ⟨r, hr, heq, -⟩ := hback
        exact ⟨r, by rw [hplayer]; exact hr, heq⟩
      rw [if_pos hback]
      refine ⟨orderly_reattach htaken hmem hj, fun p => ?_⟩
      rw [lockedOut_reattach htaken hmem hplayer hheld hj]
      simp only [Admission.returns, Option.mem_def, Option.some.injEq, exists_eq_left']
      constructor
      · exact Or.inl
      · rintro (hlocked | ⟨rfl, -, hnot⟩)
        · exact hlocked
        · exact absurd hback hnot
    · rw [if_neg hback]
      have hnew := @orderly_newClient _ id socket data htaken
      have hforgot : (GameProcess.forget (GameProcess.newClient { g with
          joinTokens := Function.update g.joinTokens join.matchPriv none } id socket data none) sessionId).Orderly := by
        refine ⟨(sameOwners_forget _ sessionId).owned hnew.owned, hnew.owner, hnew.connected, ?_, ?_, hnew.living⟩
        · exact fun e he => hnew.entries e (List.mem_of_mem_filter he)
        · exact hnew.keys.sublist (List.filter_sublist.map _)
      refine ⟨hclosed id ⟨?_, hforgot.owner, hforgot.connected, hforgot.entries, hforgot.keys, hforgot.living⟩,
        fun p => ?_⟩
      · refine SameOwners.owned ?_ hforgot.owned
        exact { SameOwners.refl _ with }
      · have hdisc : (GameProcess.newClient { g with
            joinTokens := Function.update g.joinTokens join.matchPriv none } id socket data none).disconnected player =
              true := by
          rw [htaken.disconnected_kept joins_newClient (attaches_newClient _ id socket data) hmem (by simp)]
          exact hdisconnected
        have hiff := @lockedOut_forget _ sessionId player p hnew hmem hplayer hdisc
        rw [lockedOut_newClient htaken] at hiff
        refine Iff.trans (Iff.trans Iff.rfl hiff) ?_
        simp only [Admission.returns, Option.mem_def, Option.some.injEq, exists_eq_left']
        constructor
        · rintro (hlocked | ⟨rfl, hstable⟩)
          · exact Or.inl hlocked
          · exact Or.inr ⟨rfl, hstable, hback⟩
        · rintro (hlocked | ⟨rfl, hstable, -⟩)
          · exact Or.inl hlocked
          · exact Or.inr ⟨rfl, hstable⟩

/-! ### Closes -/

/-- A player leaves the game. -/
private theorem orderly_removePlayer {g : GameProcess} {player : Nat} (h : g.Orderly)
    (hgone : ∀ id socket c, g.sockets id = some socket → socket.client = some c →
      (g.clientObject c).player ≠ some player) : (g.removePlayer player).Orderly := by
  refine ⟨(sameOwners_removePlayer g player).owned h.owned, fun p hp => h.owner p (List.mem_of_mem_erase hp), ?_,
    h.entries, h.keys, h.living.1.erase _, ?_⟩
  · intro id socket c hs hc
    obtain ⟨hflag, hplayers⟩ := h.connected id socket c hs hc
    refine ⟨hflag, fun p hp => ?_⟩
    have hne : p ≠ player := fun heq => hgone id socket c hs hc (heq ▸ hp)
    exact (List.mem_erase_of_ne hne).2 (hplayers p hp)
  · intro p hp
    have hne : p ≠ player := by
      rintro rfl
      exact h.living.1.not_mem_erase hp
    exact (List.mem_erase_of_ne hne).2 (h.living.2 p (List.mem_of_mem_erase hp))

private theorem lockedOut_removePlayer {g : GameProcess} {player p : Nat} (h : g.Orderly) :
    (g.removePlayer player).LockedOut p ↔ g.LockedOut p ∧ p ≠ player := by
  by_cases heq : p = player
  · subst heq
    constructor
    · intro hlocked
      exact absurd hlocked.1 h.owned.nodup.not_mem_erase
    · intro hlocked
      exact absurd rfl hlocked.2
  · have hsame : (g.removePlayer player).LockedOut p ↔ g.LockedOut p :=
      lockedOut_congr (List.mem_erase_of_ne heq) fun _ => ⟨rfl, rfl, fun _ => rfl⟩
    rw [hsame]
    exact (and_iff_left heq).symm

private theorem orderly_retain {g : GameProcess} {player : Nat} {r : RetainedSession} (h : g.Orderly)
    (hp : player < g.nextPlayer) (hr : r.player = player) : (g.retain (g.session player) r).Orderly := by
  refine ⟨(sameOwners_retain g _ r).owned h.owned, h.owner, h.connected, ?_, ?_, h.living⟩
  · intro e he
    rcases List.mem_append.1 he with he | he
    · exact h.entries e (List.mem_of_mem_filter he)
    · rw [List.mem_singleton.1 he]
      exact ⟨by rw [hr]; rfl, by rw [hr]; exact hp⟩
  · show ((g.forget (g.session player)).retainedSessions ++ [(g.session player, r)]).map Prod.fst |>.Nodup
    rw [List.map_append, List.nodup_append']
    refine ⟨h.keys.sublist (List.filter_sublist.map _), List.nodup_singleton _, ?_⟩
    intro s hs hs'
    obtain ⟨e, he, rfl⟩ := List.mem_map.1 hs
    have hne := (List.mem_filter.1 he).2
    have heq : e.1 = g.session player := by simpa using hs'
    simp [heq] at hne

private theorem lockedOut_retain {g : GameProcess} {player p : Nat} {r : RetainedSession} (h : g.Orderly)
    (hp : player ∈ g.players) (hr : r.player = player) :
    (g.retain (g.session player) r).LockedOut p ↔ g.LockedOut p ∧ p ≠ player := by
  by_cases heq : p = player
  · subst heq
    constructor
    · intro hlocked
      refine absurd ⟨r, ?_, hr⟩ hlocked.2.2.2
      rw [show (g.retain (g.session p) r).session p = g.session p from rfl, retained_retain, if_pos rfl]
      rfl
    · intro hlocked
      exact absurd rfl hlocked.2
  · have hsame : (g.retain (g.session player) r).LockedOut p ↔ g.LockedOut p := by
      refine lockedOut_congr Iff.rfl fun hmem => ⟨rfl, rfl, fun hstable => ?_⟩
      rw [retained_retain, if_neg]
      intro hs
      exact heq (h.owned.sessions p hmem player hp hs hstable.ne_empty)
    rw [hsame]
    exact (and_iff_left heq).symm

/-- What becomes of the player of a closed client does not lock it out in an OPSIA room. -/
private theorem leave_spec {g : GameProcess} {player : Nat} {now : Int} (hroom : settings.opsiaRoom = true)
    (h : g.Orderly) (hp : player ∈ g.players)
    (hgone : ∀ id socket c, g.sockets id = some socket → socket.client = some c →
      (g.clientObject c).player ≠ some player) :
    (g.leave settings player now).Orderly ∧
      ∀ p, (g.leave settings player now).LockedOut p ↔ g.LockedOut p ∧ p ≠ player := by
  unfold leave
  rw [hroom, Bool.true_and, Bool.true_and]
  split
  · exact ⟨orderly_removePlayer h hgone, fun p => lockedOut_removePlayer h⟩
  · split
    · exact ⟨orderly_retain h (h.owned.player player hp) rfl, fun p => lockedOut_retain h hp rfl⟩
    · rename_i hunstable
      split
      · exact ⟨orderly_removePlayer h hgone, fun p => lockedOut_removePlayer h⟩
      · refine ⟨h, fun p => ⟨fun hlocked => ⟨hlocked, ?_⟩, And.left⟩⟩
        rintro rfl
        exact hunstable (decide_eq_true hlocked.2.1)

private theorem leave_sockets (g : GameProcess) (sockets : String → Option Socket) (player : Nat) (now : Int) :
    { g.leave settings player now with sockets } = { g with sockets }.leave settings player now := by
  unfold leave session
  dsimp only
  by_cases hbot : (settings.opsiaRoom && (g.playerObject player).bot) = true
  · rw [if_pos hbot, if_pos hbot]
    rfl
  rw [if_neg hbot, if_neg hbot]
  by_cases hstable : (settings.opsiaRoom &&
      decide (16 ≤ (Json.utf16 (g.playerObject player).opsiaSessionId).length)) = true
  · rw [if_pos hstable, if_pos hstable]
    rfl
  rw [if_neg hstable, if_neg hstable]
  by_cases hdespawn : canDespawn settings (g.playerObject player) = true
  · rw [if_pos hdespawn, if_pos hdespawn]
    rfl
  · rw [if_neg hdespawn, if_neg hdespawn]

/-- A client is told of its close, and its socket is forgotten. -/
private theorem orderly_closeClient {g : GameProcess} {id : String} {socket : Socket} {c : Nat} (h : g.Orderly)
    (hsocket : g.sockets id = some socket) (hclient : socket.client = some c) :
    { g.closeClient c with sockets := Function.update g.sockets id none }.Orderly := by
  have hsockets : ∀ i socket' c', Function.update g.sockets id none i = some socket' → socket'.client = some c' →
      g.sockets i = some socket' ∧ c' ≠ c := by
    intro i socket' c' hi hc
    by_cases heq : i = id
    · subst heq
      rw [Function.update_self] at hi
      cases hi
    · rw [Function.update_of_ne heq] at hi
      refine ⟨hi, ?_⟩
      rintro rfl
      exact heq (h.owned.single i id socket' socket c' hi hsocket hc hclient)
  refine ⟨?_, ?_, ?_, h.entries, h.keys, h.living⟩
  · refine SameOwners.owned ?_ ((sameOwners_closeClient g c).owned h.owned)
    refine ⟨fun i socket' hi => ?_, List.Sublist.refl _, fun _ => rfl, fun _ => rfl, fun _ => rfl, rfl, rfl⟩
    by_cases heq : i = id
    · subst heq
      simp at hi
    · exact ⟨socket', by simpa [closeClient, Function.update_of_ne heq] using hi, rfl, rfl⟩
  · intro p hp
    obtain ⟨hlt, hplayer⟩ := h.owner p hp
    exact ⟨hlt, ((sameOwners_closeClient g c).clientPlayer _).trans hplayer⟩
  · intro i socket' c' hi hc'
    obtain ⟨hold, hne⟩ := hsockets i socket' c' hi hc'
    simpa [closeClient, Function.update_of_ne hne] using h.connected i socket' c' hold hc'

private theorem lockedOut_closeClient {g : GameProcess} {c p : Nat} {sockets : String → Option Socket} (h : g.Orderly)
    (hp : (g.clientObject c).player ≠ some p) : { g.closeClient c with sockets }.LockedOut p ↔ g.LockedOut p := by
  refine lockedOut_congr Iff.rfl fun hmem => ⟨rfl, ?_, fun _ => rfl⟩
  have hne : (g.playerObject p).client ≠ c := fun heq => hp (heq ▸ (h.owner p hmem).2)
  simp [closeClient, disconnected, Function.update_of_ne hne]

/-- A close event locks nobody out. -/
theorem Orderly.socketClose {g g' : GameProcess} {id : String} {now : Int} (hroom : settings.opsiaRoom = true)
    (h : g.Orderly) (hs : g.step settings (.socketClose id now) = some g') :
    g'.Orderly ∧ ∀ p, g'.LockedOut p ↔ g.LockedOut p := by
  obtain ⟨socket, hsocket, rfl⟩ := Option.map_eq_some_iff.1 hs
  unfold handleSocketClose
  split
  · rename_i hnone
    refine ⟨h.congr ?_ (fun i socket' c hi hc => ?_) rfl rfl rfl rfl rfl rfl rfl, fun p => Iff.rfl⟩
    · refine SameOwners.owned (g := g) ⟨fun i socket' hi => ?_, List.Sublist.refl _, fun _ => rfl, fun _ => rfl,
        fun _ => rfl, rfl, rfl⟩ h.owned
      by_cases heq : i = id
      · subst heq
        simp at hi
      · exact ⟨socket', by simpa [Function.update_of_ne heq] using hi, rfl, rfl⟩
    · by_cases heq : i = id
      · subst heq
        simp at hi
      · exact ⟨socket', by simpa [Function.update_of_ne heq] using hi, hc⟩
  · rename_i c hclient
    have hgone := orderly_closeClient h hsocket hclient
    split
    · rename_i hplayer
      exact ⟨hgone, fun p => lockedOut_closeClient h (by rw [hplayer]; simp)⟩
    · rename_i player hplayer
      obtain ⟨hflag, hplayers⟩ := h.connected id socket c hsocket hclient
      have hback := h.owned.pointsBack c player hplayer
      rw [leave_sockets]
      have hspec := @leave_spec settings _ player now hroom hgone (hplayers player hplayer) (by
        intro i socket' c' hi hc' hp
        have hsame : c' = c := (hgone.owned.pointsBack c' player hp).symm.trans hback
        have hnot := (hgone.connected i socket' c' hi hc').1
        rw [hsame] at hnot
        simp [closeClient] at hnot)
      refine ⟨hspec.1, fun p => (hspec.2 p).trans ?_⟩
      by_cases heq : p = player
      · subst heq
        refine iff_of_false (fun hp => hp.2 rfl) (not_lockedOut_of_connected ?_)
        unfold disconnected
        rw [hback]
        exact hflag
      · rw [and_iff_left heq]
        exact lockedOut_closeClient h (by rw [hplayer]; simpa using Ne.symm heq)

/-! ### Cleanup -/

/-- The cleanup ends the retention of the player and leaves the player. -/
def Abandons (settings : BarnSettings) (g : GameProcess) (now : Int) (entry : String × RetainedSession) (p : Nat) :
    Prop :=
  p = entry.2.player ∧ p ∈ g.players ∧ Stable entry.1 ∧ g.disconnected p = true ∧ entry.2.expiresAt ≤ now ∧
    canDespawn settings (g.playerObject p) = false

instance (g : GameProcess) (now : Int) (entry : String × RetainedSession) (p : Nat) :
    Decidable (Abandons settings g now entry p) := by
  unfold Abandons
  infer_instance

private theorem orderly_forget {g : GameProcess} {sessionId : String} (h : g.Orderly) : (g.forget sessionId).Orderly :=
  ⟨(sameOwners_forget g sessionId).owned h.owned, h.owner, h.connected,
    fun e he => h.entries e (List.mem_of_mem_filter he), h.keys.sublist (List.filter_sublist.map _), h.living⟩

/-- An entry whose player is connected or gone says nothing. -/
private theorem lockedOut_forget_idle {g : GameProcess} {e : String × RetainedSession} {p : Nat} (h : g.Orderly)
    (he : e ∈ g.retainedSessions) (hidle : e.2.player ∈ g.players → g.disconnected e.2.player = false) :
    (g.forget e.1).LockedOut p ↔ g.LockedOut p := by
  by_cases hs : g.session p = e.1
  · have hretained : g.retained (g.session p) = some e.2 := by
      rw [hs]
      exact retained_of_mem h.keys he
    by_cases hp : p = e.2.player
    · subst hp
      by_cases hmem : e.2.player ∈ g.players
      · exact iff_of_false (not_lockedOut_of_connected (hidle hmem)) (not_lockedOut_of_connected (hidle hmem))
      · exact iff_of_false (fun hl => hmem hl.1) (fun hl => hmem hl.1)
    · have hnot : ¬g.Held p := by
        rintro ⟨r, hr, hrp⟩
        cases hretained.symm.trans hr
        exact hp hrp.symm
      have hnot' : ¬(g.forget e.1).Held p := by
        rintro ⟨r, hr, -⟩
        rw [show (g.forget e.1).session p = e.1 from hs, retained_forget, if_pos rfl] at hr
        cases hr
      exact ⟨fun hl => ⟨hl.1, hl.2.1, hl.2.2.1, hnot⟩, fun hl => ⟨hl.1, hl.2.1, hl.2.2.1, hnot'⟩⟩
  · refine lockedOut_congr Iff.rfl fun _ => ⟨rfl, rfl, fun _ => ?_⟩
    rw [retained_forget, if_neg hs]

theorem Orderly.cleanupEntry {g : GameProcess} {now : Int} {e : String × RetainedSession} (h : g.Orderly)
    (he : e ∈ g.retainedSessions) :
    (cleanupEntry settings now g e).Orderly ∧
      ∀ p, (cleanupEntry settings now g e).LockedOut p ↔ g.LockedOut p ∨ Abandons settings g now e p := by
  unfold GameProcess.cleanupEntry
  split
  · rename_i hgone
    refine ⟨orderly_forget h, fun p => ?_⟩
    rw [lockedOut_forget_idle h he fun hmem => absurd hmem hgone]
    refine (or_iff_left ?_).symm
    rintro ⟨rfl, hmem, -⟩
    exact hgone hmem
  · rename_i hmem
    rw [not_not] at hmem
    split
    · rename_i hlt
      refine ⟨h, fun p => (or_iff_left ?_).symm⟩
      rintro ⟨-, -, -, -, hle, -⟩
      omega
    · rename_i hexpired
      have hplayer : g.session e.2.player = e.1 := (h.entries e he).1
      have hheld : g.Held e.2.player := ⟨e.2, by rw [hplayer]; exact retained_of_mem h.keys he, rfl⟩
      split
      · rename_i hleaves
        rw [Bool.and_eq_true] at hleaves
        have hgone : ∀ id socket c, (g.forget e.1).sockets id = some socket → socket.client = some c →
            ((g.forget e.1).clientObject c).player ≠ some e.2.player := by
          intro id socket c hs hc hp
          have hflag := (h.connected id socket c hs hc).1
          rw [← h.owned.pointsBack c e.2.player hp] at hflag
          rw [disconnected, hflag] at hleaves
          cases hleaves.1
        refine ⟨orderly_removePlayer (orderly_forget h) hgone, fun p => ?_⟩
        rw [lockedOut_removePlayer (orderly_forget h), lockedOut_forget h hmem hplayer hleaves.1]
        constructor
        · rintro ⟨hlocked | ⟨rfl, -⟩, hne⟩
          · exact Or.inl hlocked
          · exact absurd rfl hne
        · rintro (hlocked | ⟨rfl, -, -, -, -, hdespawn⟩)
          · refine ⟨Or.inl hlocked, ?_⟩
            rintro rfl
            exact hlocked.2.2.2 hheld
          · rw [hleaves.2] at hdespawn
            cases hdespawn
      · rename_i hstays
        refine ⟨orderly_forget h, fun p => ?_⟩
        by_cases hdisconnected : g.disconnected e.2.player = true
        · rw [lockedOut_forget h hmem hplayer hdisconnected]
          have hdespawn : canDespawn settings (g.playerObject e.2.player) = false := by
            simpa [hdisconnected] using hstays
          constructor
          · rintro (hlocked | ⟨rfl, hstable⟩)
            · exact Or.inl hlocked
            · exact Or.inr ⟨rfl, hmem, hstable, hdisconnected, by omega, hdespawn⟩
          · rintro (hlocked | ⟨rfl, -, hstable, -⟩)
            · exact Or.inl hlocked
            · exact Or.inr ⟨rfl, hstable⟩
        · have hconnected : g.disconnected e.2.player = false := by simpa using hdisconnected
          rw [lockedOut_forget_idle h he fun _ => hconnected]
          refine (or_iff_left ?_).symm
          rintro ⟨rfl, -, -, hd, -⟩
          exact hdisconnected hd

/-- What a round of the cleanup leaves as it is. -/
private theorem cleanupEntry_frame (g : GameProcess) (now : Int) (e : String × RetainedSession) :
    (cleanupEntry settings now g e).playerObject = g.playerObject ∧
      (cleanupEntry settings now g e).clientObject = g.clientObject ∧
      (∀ e' ∈ (cleanupEntry settings now g e).retainedSessions, e' ∈ g.retainedSessions) ∧
      (∀ e' ∈ g.retainedSessions, e'.1 ≠ e.1 → e' ∈ (cleanupEntry settings now g e).retainedSessions) ∧
      (∀ p, p ∈ (cleanupEntry settings now g e).players → p ∈ g.players) ∧
      (∀ p ∈ g.players, p ≠ e.2.player → p ∈ (cleanupEntry settings now g e).players) ∧
      (e ∈ (cleanupEntry settings now g e).retainedSessions → now < e.2.expiresAt) := by
  have hkept : ∀ e' ∈ g.retainedSessions, e'.1 ≠ e.1 → e' ∈ (g.forget e.1).retainedSessions :=
    fun e' he' hne => List.mem_filter.2 ⟨he', by simpa using hne⟩
  have hgone : e ∉ (g.forget e.1).retainedSessions := by simp [forget]
  unfold cleanupEntry
  split
  · exact ⟨rfl, rfl, fun _ he' => List.mem_of_mem_filter he', hkept, fun _ hp => hp, fun _ hp _ => hp,
      fun he => absurd he hgone⟩
  · split
    · rename_i hlt
      exact ⟨rfl, rfl, fun _ he' => he', fun _ he' _ => he', fun _ hp => hp, fun _ hp _ => hp, fun _ => hlt⟩
    · split
      · exact ⟨rfl, rfl, fun _ he' => List.mem_of_mem_filter he', hkept, fun _ hp => List.mem_of_mem_erase hp,
          fun _ hp hne => (List.mem_erase_of_ne hne).2 hp, fun he => absurd he hgone⟩
      · exact ⟨rfl, rfl, fun _ he' => List.mem_of_mem_filter he', hkept, fun _ hp => hp, fun _ hp _ => hp,
          fun he => absurd he hgone⟩

private theorem cleanup_fold {entries : List (String × RetainedSession)} {g : GameProcess} {now : Int} (h : g.Orderly)
    (hmem : ∀ e ∈ entries, e ∈ g.retainedSessions) (hkeys : (entries.map Prod.fst).Nodup) :
    (entries.foldl (cleanupEntry settings now) g).Orderly ∧
      (∀ p, (entries.foldl (cleanupEntry settings now) g).LockedOut p ↔
        g.LockedOut p ∨ ∃ e ∈ entries, Abandons settings g now e p) ∧
      (∀ e ∈ (entries.foldl (cleanupEntry settings now) g).retainedSessions, e ∈ g.retainedSessions) ∧
      ∀ e ∈ entries, e ∈ (entries.foldl (cleanupEntry settings now) g).retainedSessions → now < e.2.expiresAt := by
  induction entries generalizing g with
  | nil => exact ⟨h, fun p => by simp, fun e he => he, fun e he => (by cases he)⟩
  | cons e entries ih =>
    obtain ⟨hhead, htail⟩ := List.nodup_cons.1 hkeys
    obtain ⟨horderly, hlocked⟩ := @Orderly.cleanupEntry settings g now e h (hmem e (List.mem_cons_self ..))
    obtain ⟨hplayer, hclient, hsub, hkeep, hfewer, hstay, hexpired⟩ := @cleanupEntry_frame settings g now e
    have hne : ∀ e' ∈ entries, e'.1 ≠ e.1 := fun e' he' heq => hhead (List.mem_map.2 ⟨e', he', heq⟩)
    obtain ⟨ho, hl, hs, hx⟩ := ih horderly
      (fun e' he' => hkeep e' (hmem e' (List.mem_cons_of_mem _ he')) (hne e' he')) htail
    rw [List.foldl_cons]
    refine ⟨ho, fun p => ?_, fun e' he' => hsub e' (hs e' he'), fun e' he' hin => ?_⟩
    · have hsame : ∀ e' ∈ entries,
          (Abandons settings (cleanupEntry settings now g e) now e' p ↔ Abandons settings g now e' p) := by
        intro e' he'
        unfold Abandons disconnected
        rw [hplayer, hclient]
        constructor
        · rintro ⟨hp, hin, hrest⟩
          exact ⟨hp, hfewer p hin, hrest⟩
        · rintro ⟨hp, hin, hrest⟩
          refine ⟨hp, hstay p hin fun heq => ?_, hrest⟩
          -- the two entries would be of one session
          have hkey := (h.entries e (hmem e (List.mem_cons_self ..))).1
          have hkey' := (h.entries e' (hmem e' (List.mem_cons_of_mem _ he'))).1
          rw [← hp, heq] at hkey'
          exact hne e' he' (hkey'.symm.trans hkey)
      rw [hl, hlocked, or_assoc]
      refine or_congr_right ?_
      rw [List.exists_mem_cons_iff]
      refine or_congr_right ?_
      constructor
      · rintro ⟨e', he', ha⟩
        exact ⟨e', he', (hsame e' he').1 ha⟩
      · rintro ⟨e', he', ha⟩
        exact ⟨e', he', (hsame e' he').2 ha⟩
    · rcases List.mem_cons.1 he' with rfl | he'
      · exact hexpired (hs _ hin)
      · exact hx e' he' hin

/-- The cleanup locks out the players it abandons, and what is still retained has not expired. -/
theorem Orderly.cleanup {g : GameProcess} {now : Int} (h : g.Orderly) :
    (g.cleanupRetainedSessions settings now).Orderly ∧
      (∀ p, (g.cleanupRetainedSessions settings now).LockedOut p ↔
        g.LockedOut p ∨ ∃ e ∈ g.retainedSessions, Abandons settings g now e p) ∧
      ∀ e ∈ (g.cleanupRetainedSessions settings now).retainedSessions, now < e.2.expiresAt := by
  obtain ⟨ho, hl, hs, hx⟩ := @cleanup_fold settings g.retainedSessions g now h (fun e he => he) h.keys
  exact ⟨ho, hl, fun e he => hx e (hs e he) he⟩

/-! ### Steps -/

private theorem orderly_live {g : GameProcess} {player : Nat} {condition : Condition} (h : g.Orderly)
    (hp : player ∈ g.players) : (g.live player condition).Orderly := by
  have hsame := sameOwners_live g player condition
  refine ⟨hsame.owned h.owned, fun p hmem => ?_, h.connected, fun e he => ?_, h.keys, ?_⟩
  · rw [hsame.playerClient]
    exact h.owner p hmem
  · rw [hsame.session]
    exact h.entries e he
  · unfold live
    dsimp only
    split
    · exact ⟨h.living.1.erase _, fun p hmem => h.living.2 p (List.mem_of_mem_erase hmem)⟩
    · split
      · exact h.living
      · rename_i hnot
        refine ⟨List.nodup_append'.2 ⟨h.living.1, List.nodup_singleton _, by simpa using hnot⟩, fun p hmem => ?_⟩
        rcases List.mem_append.1 hmem with hmem | hmem
        · exact h.living.2 p hmem
        · rw [List.mem_singleton.1 hmem]
          exact hp
    · exact h.living

/-- The steps that lock a player out: its session comes back, or the cleanup comes to it, too late. -/
def LocksOut (settings : BarnSettings) (g : GameProcess) (p : Nat) : Event → Prop
  | .message id (.join join) now => ∃ socket ∈ g.sockets id, socket.client = none ∧
      ∃ back ∈ (g.admission settings socket join now).returns,
        back.2 = p ∧ Stable back.1 ∧ ¬g.Reattachable back.1 p now
  | .update now => ∃ e ∈ g.retainedSessions, Abandons settings g now e p
  | _ => False

instance (g : GameProcess) (p : Nat) (event : Event) : Decidable (LocksOut settings g p event) := by
  unfold LocksOut
  split <;> infer_instance

/-- No session comes back between the end of its retention and the next cleanup, and each disconnected player whose
retention ends at a cleanup can despawn. -/
def InTime (settings : BarnSettings) (g : GameProcess) (event : Event) : Prop :=
  ∀ p ∈ g.players, ¬LocksOut settings g p event

instance (g : GameProcess) (event : Event) : Decidable (InTime settings g event) := by
  unfold InTime
  infer_instance

theorem LocksOut.mem {g : GameProcess} {p : Nat} {event : Event} (h : LocksOut settings g p event) : p ∈ g.players := by
  unfold LocksOut at h
  split at h
  · obtain ⟨socket, -, -, back, hback, rfl, -⟩ := h
    obtain ⟨data, hadmission⟩ := Admission.returns_eq hback
    exact (mem_of_sessionPlayer (admission_returning hadmission).2.2.1).1
  · obtain ⟨e, -, ha⟩ := h
    exact ha.2.1
  · exact h.elim

/-- A step locks out the players it names, and lets nobody back in. -/
theorem Orderly.step {g g' : GameProcess} {event : Event} (hroom : settings.opsiaRoom = true) (h : g.Orderly)
    (hs : g.step settings event = some g') :
    g'.Orderly ∧ ∀ p, g'.LockedOut p ↔ g.LockedOut p ∨ LocksOut settings g p event := by
  have howned := h.owned.step hs
  -- most steps touch neither clients, players nor retention
  have hsame : (∀ p, ¬LocksOut settings g p event) →
      (∀ id socket' c, g'.sockets id = some socket' → socket'.client = some c →
        ∃ socket, g.sockets id = some socket ∧ socket.client = some c) →
      g'.clientObject = g.clientObject → g'.playerObject = g.playerObject → g'.players = g.players →
      g'.livingPlayers = g.livingPlayers → g'.retainedSessions = g.retainedSessions → g'.nextClient = g.nextClient →
      g'.nextPlayer = g.nextPlayer →
      g'.Orderly ∧ ∀ p, g'.LockedOut p ↔ g.LockedOut p ∨ LocksOut settings g p event := by
    intro hno hsockets hclient hplayer hplayers hliving hretained hnextClient hnextPlayer
    refine ⟨h.congr howned hsockets hclient hplayer hplayers hliving hretained hnextClient hnextPlayer, fun p => ?_⟩
    rw [or_iff_left (hno p)]
    refine lockedOut_congr (by rw [hplayers]) fun _ => ⟨?_, ?_, fun _ => ?_⟩
    · rw [session, hplayer, session]
    · rw [disconnected, hplayer, hclient, disconnected]
    · rw [retained, hretained, retained]
  have hclose : ∀ id, (∀ p, ¬LocksOut settings g p event) → g' = g.close id →
      g'.Orderly ∧ ∀ p, g'.LockedOut p ↔ g.LockedOut p ∨ LocksOut settings g p event := by
    rintro id hno rfl
    refine hsame hno (fun i socket' c hi hc => ?_) rfl rfl rfl rfl rfl rfl rfl
    obtain ⟨socket, hi, hclient, -⟩ := (sameOwners_close g id).sockets i socket' hi
    exact ⟨socket, hi, hclient.symm.trans hc⟩
  cases event with
  | addJoinToken token data =>
    cases hs
    exact hsame (fun _ hno => hno) (fun i socket c hi hc => ⟨socket, hi, hc⟩) rfl rfl rfl rfl rfl rfl rfl
  | socketOpen id ip gatewaySessionId =>
    cases hs
    refine hsame (fun _ hno => hno) (fun i socket c hi hc => ?_) rfl rfl rfl rfl rfl rfl rfl
    by_cases heq : i = id
    · subst heq
      simp only [Function.update_self, Option.some.injEq] at hi
      subst hi
      cases hc
    · exact ⟨socket, by simpa [Function.update_of_ne heq] using hi, hc⟩
  | message id message now =>
    obtain ⟨socket, hsocket, rfl⟩ := Option.map_eq_some_iff.1 hs
    cases message with
    | invalid => exact hclose id (fun _ hno => hno) (by simp [handleMsg])
    | join join =>
      cases hclient : socket.client with
      | none =>
        obtain ⟨ho, hl⟩ := @Orderly.addClient settings g id socket join now h
        have hmsg : g.handleMsg settings id socket (.join join) now = g.addClient settings id socket join now := by
          simp [handleMsg, hclient]
        rw [hmsg]
        refine ⟨ho, fun p => ?_⟩
        rw [hl]
        simp [LocksOut, hsocket, hclient]
      | some c =>
        have hmsg : g.handleMsg settings id socket (.join join) now = g := by
          simp [handleMsg, hclient]
        rw [hmsg]
        refine ⟨h, fun p => (or_iff_left ?_).symm⟩
        rintro ⟨socket', hs', hnone, -⟩
        cases hsocket.symm.trans hs'
        rw [hclient] at hnone
        cases hnone
    | other =>
      cases hclient : socket.client with
      | none => exact hclose id (fun _ hno => hno) (by simp [handleMsg, hclient])
      | some c =>
        have hmsg : g.handleMsg settings id socket .other now = g := by simp [handleMsg, hclient]
        rw [hmsg]
        exact ⟨h, fun p => (or_iff_left fun hno => hno).symm⟩
  | disconnect id =>
    cases hs
    exact hclose id (fun _ hno => hno) rfl
  | socketClose id now =>
    obtain ⟨ho, hl⟩ := h.socketClose hroom hs
    exact ⟨ho, fun p => (hl p).trans (or_iff_left fun hno => hno).symm⟩
  | update now =>
    cases hs
    exact ⟨h.cleanup.1, h.cleanup.2.1⟩
  | play player condition =>
    simp only [GameProcess.step] at hs
    split at hs
    · rename_i hp
      cases hs
      refine ⟨orderly_live h hp, fun p => ?_⟩
      have hsame := sameOwners_live g player condition
      have hno : ¬LocksOut settings g p (.play player condition) := id
      rw [or_iff_left hno]
      refine lockedOut_congr Iff.rfl fun _ => ⟨hsame.session p, ?_, fun _ => rfl⟩
      unfold disconnected
      rw [hsame.playerClient]
      rfl
    · cases hs
  | restore states =>
    cases hs
    have hframe : ∃ states', g.restoreGame states = { g with restoredPlayers := states' } := by
      unfold restoreGame
      split
      · exact ⟨_, rfl⟩
      · exact ⟨_, rfl⟩
    obtain ⟨states', heq⟩ := hframe
    rw [heq] at howned hsame ⊢
    exact hsame (fun _ hno => hno) (fun i socket c hi hc => ⟨socket, hi, hc⟩) rfl rfl rfl rfl rfl rfl rfl

/-! ### Runs -/

/-- A player that is locked out stays so, whatever comes. -/
theorem LockedOut.forever (hroom : settings.opsiaRoom = true) {g : GameProcess} {p : Nat} (h : g.Orderly)
    (hlocked : g.LockedOut p) (events : List Event) : Throughout (step settings) (fun g => g.LockedOut p) g events := by
  have hstep : ∀ g event g', g.Orderly ∧ g.LockedOut p → GameProcess.step settings g event = some g' →
      g'.Orderly ∧ g'.LockedOut p := by
    intro g event g' ⟨h, hlocked⟩ hs
    obtain ⟨ho, hl⟩ := h.step hroom hs
    exact ⟨ho, (hl p).2 (Or.inl hlocked)⟩
  exact (throughout_of_step hstep ⟨h, hlocked⟩ events).mono fun _ hg => hg.2

/-- Behind a cleanup no disconnected player of a session is in the game whose retention has expired. -/
def Releases (settings : BarnSettings) (g : GameProcess) : Event → Prop
  | .update now => ∀ g' ∈ g.step settings (.update now),
      (∀ p ∈ g'.players, Stable (g'.session p) → g'.disconnected p = true →
        ∃ r ∈ g'.retained (g'.session p), r.player = p ∧ now < r.expiresAt) ∧
      ∀ p ∈ g'.livingPlayers, p ∈ g'.players
  | _ => True

/-- A join with a valid token is let in when its session has no connected player, and none whose retention has run out
before the next cleanup. -/
def Admits (settings : BarnSettings) (g : GameProcess) : Event → Prop
  | .message id (.join join) now => ∀ socket ∈ g.sockets id, socket.client = none →
      ∀ data ∈ g.joinTokens join.matchPriv, now ≤ data.expiresAt → Signed socket data →
        g.rateLimited settings socket data = false → data.spectator = false →
        ∀ sessionId ∈ data.session, Stable sessionId →
          (∀ p ∈ g.sessionPlayer sessionId, g.disconnected p = true ∧
            ∀ r ∈ g.retained sessionId, now ≤ r.expiresAt) →
          g.admission settings socket join now = .new data ∨
            ∃ p, g.admission settings socket join now = .returning data sessionId p ∧ g.Reattachable sessionId p now
  | _ => True

theorem Orderly.releases {g g' : GameProcess} {event : Event} (h : g.Orderly) (hs : g.step settings event = some g')
    (hfree : g'.NoLockout) : Releases settings g event := by
  cases event with
  | update now =>
    intro g'' hg''
    cases hg''.symm.trans hs
    cases hs
    refine ⟨fun p hp hstable hdisconnected => ?_, h.cleanup.1.living.2⟩
    have hheld : (g.cleanupRetainedSessions settings now).Held p := by
      by_contra hnot
      exact hfree p hp ⟨hp, hstable, hdisconnected, hnot⟩
    obtain ⟨r, hr, hrp⟩ := hheld
    exact ⟨r, hr, hrp, h.cleanup.2.2 _ (mem_of_retained hr)⟩
  | addJoinToken | socketOpen | message | disconnect | socketClose | play | restore => trivial

theorem admits_of_noLockout {g : GameProcess} (hfree : g.NoLockout) (event : Event) : Admits settings g event := by
  cases event with
  | message id message now =>
    cases message with
    | join join =>
      intro socket _ _ data hdata hexpires hsigned hlimit hspectator sessionId hsession hstable hplayer
      have hcheck :
          socket.gatewaySessionId.any (fun id => decide (id ≠ "" ∧ data.opsiaSessionId ≠ some id)) = false := by
        rw [Bool.eq_false_iff]
        intro hany
        obtain ⟨id, hid, hne⟩ := (Option.any_eq_true ..).1 hany
        have := of_decide_eq_true hne
        exact this.2 (hsigned id hid this.1)
      have hnot : ¬data.expiresAt < now := by omega
      cases hexisting : g.sessionPlayer sessionId with
      | none =>
        left
        simp only [admission, Option.mem_def.1 hdata, Option.mem_def.1 hsession, Option.bind_some, if_neg hnot, hcheck,
          hexisting, Option.any_none, hlimit, hspectator, Bool.false_eq_true, if_false]
      | some p =>
        right
        obtain ⟨hdisconnected, hretained⟩ := hplayer p hexisting
        obtain ⟨hmem, hp⟩ := mem_of_sessionPlayer hexisting
        refine ⟨p, ?_, ?_⟩
        · simp only [admission, Option.mem_def.1 hdata, Option.mem_def.1 hsession, Option.bind_some, if_neg hnot,
            hcheck, hexisting, Option.any_some, hdisconnected, Bool.not_true, hlimit, hspectator, Bool.false_eq_true,
            if_false]
        · have hheld : g.Held p := by
            by_contra hnot
            exact hfree p hmem ⟨hmem, hp ▸ hstable, hdisconnected, hnot⟩
          obtain ⟨r, hr, hrp⟩ := hheld
          rw [hp] at hr
          exact ⟨r, hr, hrp, hretained r hr⟩
    | invalid | other => trivial
  | addJoinToken | socketOpen | disconnect | socketClose | update | play | restore => trivial

/-- In every run of an OPSIA room no session is ever locked out, each cleanup removes the players whose retention has
expired and valid joins are let in, just when no session comes back between the end of its retention and the cleanup,
and each player whose retention ends at a cleanup can despawn. -/
theorem sessions_released_iff (hroom : settings.opsiaRoom = true) (events : List Event) :
    (Throughout (step settings) NoLockout init events ∧
      EachStep (step settings) (fun g event => Releases settings g event ∧ Admits settings g event) init events) ↔
      EachStep (step settings) (InTime settings) init events := by
  have hinit : init.Orderly ∧ init.NoLockout := by
    refine ⟨orderly_init, fun p hp => ?_⟩
    cases hp
  have hQ : ∀ g : GameProcess, g.Orderly ∧ g.NoLockout → g.NoLockout := fun _ hg => hg.2
  have hgood : ∀ g event g', g.Orderly ∧ g.NoLockout → InTime settings g event →
      GameProcess.step settings g event = some g' → g'.Orderly ∧ g'.NoLockout := by
    intro g event g' ⟨h, hfree⟩ hno hs
    obtain ⟨ho, hl⟩ := h.step hroom hs
    refine ⟨ho, fun p hp hlocked => ?_⟩
    rcases (hl p).1 hlocked with hold | hnew
    · exact hfree p hold.1 hold
    · exact hno p hnew.mem hnew
  have hbad : ∀ g event g', g.Orderly ∧ g.NoLockout → ¬InTime settings g event →
      GameProcess.step settings g event = some g' → ¬g'.NoLockout := by
    intro g event g' ⟨h, _⟩ hlocks hs hfree'
    refine hlocks fun p _ hp => ?_
    have hlocked := ((h.step hroom hs).2 p).2 (Or.inr hp)
    exact hfree' p hlocked.1 hlocked
  have hiff := throughout_iff_eachStep hQ hgood hbad hinit events
  constructor
  · exact fun h => hiff.1 h.1
  · intro h
    have hstep : ∀ g event g', g.Orderly ∧ g.NoLockout → InTime settings g event →
        GameProcess.step settings g event = some g' →
        (Releases settings g event ∧ Admits settings g event) ∧ g'.Orderly ∧ g'.NoLockout := by
      intro g event g' hg hno hs
      have hg' := hgood g event g' hg hno hs
      exact ⟨⟨hg.1.releases hs hg'.2, admits_of_noLockout hg.2 event⟩, hg'⟩
    exact ⟨hiff.2 h, EachStep.of_inv hstep hinit h⟩

namespace Sample

def room : BarnSettings := ⟨true, false, true, false, none⟩

def token : JoinTokenData := ⟨10000, none, "10.0.0.1", some "session-00000001", false⟩

/-- The session joins on a socket of its own. -/
def joins (id : String) (now : Int) : List Event :=
  [.addJoinToken id token, .socketOpen id "10.0.0.1" (some "session-00000001"), .message id (.join ⟨id, false⟩) now]

end Sample

open Sample in
/-- A player of ten seconds closes its socket, and the cleanup ends its retention after two minutes. -/
theorem survivor_locked_out :
    ¬(Throughout (step room) NoLockout init
        (joins "a" 0 ++ [.play 0 { timeAlive := 10 }, .socketClose "a" 10000, .update 130000]) ∧
      EachStep (step room) (fun g event => Releases room g event ∧ Admits room g event) init
        (joins "a" 0 ++ [.play 0 { timeAlive := 10 }, .socketClose "a" 10000, .update 130000])) := by
  intro h
  exact absurd h.1 (by decide +kernel)

open Sample in
/-- The same player comes back in time. -/
theorem survivor_back :
    Throughout (step room) NoLockout init
        (joins "a" 0 ++ [.play 0 { timeAlive := 10 }, .socketClose "a" 1000] ++ joins "b" 9000) ∧
      EachStep (step room) (fun g event => Releases room g event ∧ Admits room g event) init
        (joins "a" 0 ++ [.play 0 { timeAlive := 10 }, .socketClose "a" 1000] ++ joins "b" 9000) :=
  (sessions_released_iff rfl _).2 (by decide +kernel)

end GameProcess

end Opsia
