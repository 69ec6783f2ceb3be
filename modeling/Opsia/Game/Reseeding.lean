import Opsia.Game.Joins
import Opsia.Machine

/-!
# Does a seeding reach the players?

A join hands over what the store was last seeded with just when the session has no player object in the game and none
has been made for it since the seeding (`seed_reaches_iff`).  A session whose old player object is still retained gets
that object back as it was left, and what the seeding left for it is never looked at (`retained_player_outlives_seed`).
-/

namespace Opsia

namespace Game

open Json

namespace RoomGame

variable {settings : RoomSettings}

/-! ### What the maps of the runtime hold -/

/-- What a seeding has left: the players of the snapshot for which no object has been made, and the input sequences. -/
structure SeedKept (game : RoomGame settings) (snapshot : GameSnapshot settings.defs) : Prop where
  left : ∀ sessionId, game.restoredPlayers sessionId =
    if sessionId ∈ game.joinedSince then none else snapshot.player? sessionId
  still : ∀ sessionId, sessionId ∉ game.inputsSince →
    game.processedInputSequences sessionId = (snapshot.player? sessionId).elim 0 LoosePlayerState.sequence
  later : ∀ sessionId, sessionId ∈ game.inputsSince →
    (snapshot.player? sessionId).elim 0 LoosePlayerState.sequence < game.processedInputSequences sessionId

/-- The players of the game are different objects, and the maps hold what the last seeding has left. -/
structure Kept (game : RoomGame settings) : Prop where
  nodup : (game.players.map Player.id).Nodup
  fresh : ∀ id ∈ game.players.map Player.id, id < game.nextPlayer
  seed : ∀ snapshot, game.seeded = some snapshot → game.SeedKept snapshot

theorem start_kept (role : RuntimeRole) (loaded : Option (GameSnapshot settings.defs)) : (start role loaded).Kept := by
  refine ⟨List.nodup_nil, fun id h => ?_, fun snapshot h => ?_⟩
  · cases h
  · cases h

/-- A step that makes no player and leaves the maps of the last seeding alone. -/
structure SeedFrame (game game' : RoomGame settings) : Prop where
  seeded : game'.seeded = game.seeded
  restoredPlayers : game'.restoredPlayers = game.restoredPlayers
  processedInputSequences : game'.processedInputSequences = game.processedInputSequences
  joinedSince : game'.joinedSince = game.joinedSince
  inputsSince : game'.inputsSince = game.inputsSince
  players : (game'.players.map Player.id).Sublist (game.players.map Player.id)
  nextPlayer : game'.nextPlayer = game.nextPlayer

private theorem Kept.of_frame {game game' : RoomGame settings} (h : game.Kept) (hf : SeedFrame game game') :
    game'.Kept := by
  refine ⟨h.nodup.sublist hf.players, fun id hid => ?_, fun snapshot hs => ?_⟩
  · rw [hf.nextPlayer]
    exact h.fresh id (hf.players.subset hid)
  · obtain ⟨hleft, hstill, hlater⟩ := h.seed snapshot (hf.seeded ▸ hs)
    refine ⟨?_, ?_, ?_⟩
    · rw [hf.restoredPlayers, hf.joinedSince]
      exact hleft
    · rw [hf.processedInputSequences, hf.inputsSince]
      exact hstill
    · rw [hf.processedInputSequences, hf.inputsSince]
      exact hlater

private theorem map_id_of_map (players : List Player) (f : Player → Player) (hf : ∀ player, (f player).id = player.id) :
    (players.map f).map Player.id = players.map Player.id := by
  rw [List.map_map]
  exact List.map_congr_left fun player _ => hf player

private theorem removePlayer_frame (game : RoomGame settings) (id : Nat) : SeedFrame game (game.removePlayer id) :=
  ⟨rfl, rfl, rfl, rfl, rfl, List.filter_sublist.map _, rfl⟩

private theorem handleSocketClose_frame (game : RoomGame settings) (client : Nat) (now : Int) (canDespawn : Bool) :
    SeedFrame game (game.handleSocketClose client now canDespawn) := by
  unfold handleSocketClose
  split
  · exact ⟨rfl, rfl, rfl, rfl, rfl, List.Sublist.refl _, rfl⟩
  · simp only
    split
    · exact ⟨rfl, rfl, rfl, rfl, rfl, List.Sublist.refl _, rfl⟩
    · split
      · exact ⟨rfl, rfl, rfl, rfl, rfl, List.filter_sublist.map _, rfl⟩
      · split
        · exact ⟨rfl, rfl, rfl, rfl, rfl, List.Sublist.refl _, rfl⟩
        · split
          · exact ⟨rfl, rfl, rfl, rfl, rfl, List.filter_sublist.map _, rfl⟩
          · exact ⟨rfl, rfl, rfl, rfl, rfl, List.Sublist.refl _, rfl⟩

/-! ### A join -/

/-- A join that makes a player for the session of its token. -/
structure PlayerMade (game game' : RoomGame settings) (data : JoinTokenData) (player : Player) : Prop where
  id : player.id = game.nextPlayer
  session : player.opsiaSessionId = data.opsiaSessionId.getD ""
  players : game'.players = game.players ++ [player]
  nextPlayer : game'.nextPlayer = game.nextPlayer + 1
  seeded : game'.seeded = game.seeded
  restoredPlayers : game'.restoredPlayers =
    data.session.elim game.restoredPlayers fun s => Function.update game.restoredPlayers s none
  joinedSince : game'.joinedSince = data.session.elim game.joinedSince fun s => s :: game.joinedSince
  processedInputSequences : game'.processedInputSequences = game.processedInputSequences
  inputsSince : game'.inputsSince = game.inputsSince

private theorem addClient_reattach {game : RoomGame settings} {join : JoinRequest} {data : JoinTokenData}
    {sessionId : String} {player : Player} (hpath : game.joinPath join = .reattach data sessionId player) :
    ∃ game', game.addClient join = .ok (some player.id, game') ∧ SeedFrame game game' ∧ game'.players =
      game.players.map fun p => if p.id = player.id then { p with client := game.nextClient } else p := by
  unfold addClient
  rw [hpath]
  refine ⟨_, rfl, ⟨rfl, rfl, rfl, rfl, rfl, ?_, rfl⟩, rfl⟩
  have hids := map_id_of_map game.players
    (fun p => if p.id = player.id then { p with client := game.nextClient } else p)
    fun p => by by_cases hp : p.id = player.id <;> simp [hp]
  exact hids ▸ List.Sublist.refl _

private theorem addClient_addPlayer {game : RoomGame settings} {join : JoinRequest} {data : JoinTokenData}
    {body : PlayerBody} (hpath : game.joinPath join = .addPlayer data) (hbody : game.newBody join data = .ok body) :
    ∃ game' player, game.addClient join = .ok (some player.id, game') ∧ PlayerMade game game' data player ∧
      player.body = body := by
  unfold addClient
  rw [hpath]
  simp only
  rw [hbody]
  let player : Player := {
    id := game.nextPlayer
    opsiaSessionId := data.opsiaSessionId.getD ""
    bot := (settings.allowBots || settings.opsiaRoom) && join.bot
    client := game.nextClient
    body := body }
  exact ⟨_, player, rfl, ⟨rfl, rfl, rfl, rfl, rfl, rfl, rfl, rfl, rfl⟩, rfl⟩

/-- The ways a join that is let in can take. -/
private theorem addClient_cases {game game' : RoomGame settings} {join : JoinRequest} {attached : Option Nat}
    (h : game.addClient join = .ok (attached, game')) :
    (attached = none ∧ SeedFrame game game') ∨
    (∃ data sessionId player, game.joinPath join = .reattach data sessionId player ∧ attached = some player.id ∧
      SeedFrame game game' ∧
      game'.players = game.players.map fun p => if p.id = player.id then { p with client := game.nextClient } else p) ∨
    (∃ data player, game.joinPath join = .addPlayer data ∧ game.newBody join data = .ok player.body ∧
      attached = some player.id ∧ PlayerMade game game' data player) := by
  cases hpath : game.joinPath join with
  | reattach data sessionId player =>
    obtain ⟨_, hok, hf, hplayers⟩ := addClient_reattach hpath
    rw [h] at hok
    cases hok
    exact .inr (.inl ⟨data, sessionId, player, rfl, rfl, hf, hplayers⟩)
  | addPlayer data =>
    cases hbody : game.newBody join data with
    | error message =>
      unfold addClient at h
      rw [hpath] at h
      simp only at h
      rw [hbody] at h
      cases h
    | ok body =>
      obtain ⟨_, player, hok, hmade, rfl⟩ := addClient_addPlayer hpath hbody
      rw [h] at hok
      cases hok
      exact .inr (.inr ⟨data, player, rfl, hbody, rfl, hmade⟩)
  | tokenInvalid =>
    unfold addClient at h
    rw [hpath] at h
    cases h
    exact .inl ⟨rfl, rfl, rfl, rfl, rfl, rfl, List.Sublist.refl _, rfl⟩
  | refused reason =>
    unfold addClient at h
    rw [hpath] at h
    cases h
    exact .inl ⟨rfl, rfl, rfl, rfl, rfl, rfl, List.Sublist.refl _, rfl⟩
  | spectator data =>
    unfold addClient at h
    rw [hpath] at h
    cases h
    exact .inl ⟨rfl, rfl, rfl, rfl, rfl, rfl, List.Sublist.refl _, rfl⟩
  | reattachExpired sessionId =>
    unfold addClient at h
    rw [hpath] at h
    cases h
    exact .inl ⟨rfl, rfl, rfl, rfl, rfl, rfl, List.Sublist.refl _, rfl⟩

private theorem addClient_kept {game game' : RoomGame settings} {join : JoinRequest} {attached : Option Nat}
    (h : game.Kept) (hjoin : game.addClient join = .ok (attached, game')) : game'.Kept := by
  rcases addClient_cases hjoin with ⟨-, hf⟩ | ⟨-, -, -, -, -, hf, -⟩ | ⟨data, player, -, -, -, hmade⟩
  · exact h.of_frame hf
  · exact h.of_frame hf
  · refine ⟨?_, fun id hmem => ?_, fun snapshot hs => ?_⟩
    · rw [hmade.players, List.map_append, List.nodup_append]
      refine ⟨h.nodup, List.nodup_singleton _, fun id hid other hother => ?_⟩
      have hother : other = game.nextPlayer := by simpa [hmade.id] using hother
      rw [hother]
      exact Nat.ne_of_lt (h.fresh id hid)
    · rw [hmade.players, List.map_append, List.mem_append] at hmem
      rw [hmade.nextPlayer]
      rcases hmem with hmem | hmem
      · exact Nat.lt_succ_of_lt (h.fresh id hmem)
      · have : id = game.nextPlayer := by simpa [hmade.id] using hmem
        rw [this]
        exact Nat.lt_succ_self _
    · obtain ⟨hl, hstill, hlater⟩ := h.seed snapshot (hmade.seeded ▸ hs)
      refine ⟨fun sessionId => ?_, ?_, ?_⟩
      · have hleft := hmade.restoredPlayers
        have hsince := hmade.joinedSince
        cases hsession : data.session with
        | none =>
          rw [hsession, Option.elim_none] at hleft hsince
          rw [hleft, hsince]
          exact hl sessionId
        | some joined =>
          rw [hsession, Option.elim_some] at hleft hsince
          rw [hleft, hsince]
          by_cases heq : sessionId = joined
          · rw [heq, Function.update_self, if_pos (List.mem_cons_self ..)]
          · rw [Function.update_of_ne heq, hl sessionId]
            simp [heq]
      · rw [hmade.processedInputSequences, hmade.inputsSince]
        exact hstill
      · rw [hmade.processedInputSequences, hmade.inputsSince]
        exact hlater

/-! ### All steps -/

private theorem recordProcessedGatewayInput_kept {game : RoomGame settings} (h : game.Kept) (sessionId : String)
    (sequence : Nat) : (game.recordProcessedGatewayInput sessionId sequence).Kept := by
  unfold recordProcessedGatewayInput
  by_cases hlater : game.processedInputSequences sessionId < sequence
  · rw [if_pos hlater]
    refine ⟨h.nodup, h.fresh, fun snapshot hs => ?_⟩
    obtain ⟨hleft, hstill, hgreater⟩ := h.seed snapshot hs
    refine ⟨hleft, fun other hother => ?_, fun other hother => ?_⟩
    · have hne : other ≠ sessionId := fun heq => hother (heq ▸ List.mem_cons_self ..)
      have hnot : other ∉ game.inputsSince := fun hmem => hother (List.mem_cons_of_mem _ hmem)
      exact (Function.update_of_ne hne ..).trans (hstill other hnot)
    · simp only
      by_cases heq : other = sessionId
      · subst heq
        rw [Function.update_self]
        by_cases hmem : other ∈ game.inputsSince
        · exact Nat.lt_trans (hgreater other hmem) hlater
        · rw [← hstill other hmem]
          exact hlater
      · rw [Function.update_of_ne heq]
        exact hgreater other ((List.mem_cons.1 hother).resolve_left heq)
  · rw [if_neg hlater]
    exact h

private theorem applyCandidateEnvelope_kept {game : RoomGame settings} (h : game.Kept)
    (snapshot : GameSnapshot settings.defs) (outcome : SeedOutcome) :
    (game.applyCandidateEnvelope snapshot outcome).Kept := by
  unfold applyCandidateEnvelope
  split
  · exact h
  · cases outcome with
    | refused => exact h
    | checksumMismatch => exact ⟨h.nodup, h.fresh, fun other hs => by cases hs⟩
    | restored =>
      refine ⟨h.nodup, h.fresh, fun other hs => ?_⟩
      obtain rfl : snapshot = other := by simpa [restoreGame] using hs
      refine ⟨fun sessionId => ?_, fun sessionId _ => rfl, fun sessionId hmem => ?_⟩
      · exact (if_neg List.not_mem_nil).symm
      · cases hmem

theorem step_kept {game game' : RoomGame settings} {event : GameEvent settings} (h : game.Kept)
    (hs : game.step event = some game') : game'.Kept := by
  cases event with
  | addJoinToken token data =>
    cases hs
    exact h.of_frame ⟨rfl, rfl, rfl, rfl, rfl, List.Sublist.refl _, rfl⟩
  | join request =>
    simp only [step] at hs
    cases hjoin : game.addClient request with
    | error message =>
      rw [hjoin] at hs
      cases hs
    | ok result =>
      rw [hjoin] at hs
      cases hs
      exact addClient_kept h hjoin
  | socketClose client now canDespawn =>
    cases hs
    exact h.of_frame (handleSocketClose_frame game client now canDespawn)
  | update now canDespawn =>
    cases hs
    exact h.of_frame ⟨rfl, rfl, rfl, rfl, rfl, List.filter_sublist.map _, rfl⟩
  | play player body =>
    cases hs
    refine h.of_frame ⟨rfl, rfl, rfl, rfl, rfl, ?_, rfl⟩
    have hids := map_id_of_map game.players (fun p => if p.id = player then { p with body := body } else p)
      fun p => by by_cases hp : p.id = player <;> simp [hp]
    exact hids ▸ List.Sublist.refl _
  | gatewayInput sessionId sequence =>
    simp only [step] at hs
    split at hs
    · cases hs
      exact recordProcessedGatewayInput_kept h sessionId sequence
    · cases hs
      exact h
  | seedCandidate snapshot outcome =>
    simp only [step] at hs
    split at hs
    · cases hs
      exact applyCandidateEnvelope_kept h snapshot outcome
    · cases hs
      exact h
  | promote =>
    cases hs
    exact h.of_frame ⟨rfl, rfl, rfl, rfl, rfl, List.Sublist.refl _, rfl⟩
  | release =>
    cases hs
    exact h.of_frame ⟨rfl, rfl, rfl, rfl, rfl, List.Sublist.refl _, rfl⟩

/-! ### What a join hands over -/

private theorem mem_player? {snapshot : GameSnapshot settings.defs} {sessionId : String} {state : LoosePlayerState}
    (h : snapshot.player? sessionId = some state) : state ∈ snapshot.players :=
  List.mem_reverse.1 (List.mem_of_find?_eq_some h)

/-- The recorded input of a session is that of the snapshot just when none has been recorded since. -/
private theorem input_iff {game : RoomGame settings} {snapshot : GameSnapshot settings.defs} (h : game.SeedKept snapshot)
    {sessionId : String} {state : LoosePlayerState} (hstate : snapshot.player? sessionId = some state) :
    state.lastInputSequence = some (game.processedInputSequences sessionId : Int) ↔ sessionId ∉ game.inputsSince := by
  obtain ⟨sequence, hsequence, hsafe⟩ := (snapshot.captured state (mem_player? hstate)).sequence
  have hvalue : state.sequence = sequence := by
    simp only [LoosePlayerState.sequence, hsequence, Option.getD_some]
    rw [if_pos (by omega), Int.toNat_natCast]
  rw [hsequence, Option.some_inj, Int.natCast_inj]
  constructor
  · intro heq hmem
    have := h.later sessionId hmem
    rw [hstate, Option.elim_some, hvalue] at this
    omega
  · intro hnot
    rw [h.still sessionId hnot, hstate, Option.elim_some, hvalue]

private theorem joinPath_reattach {game : RoomGame settings} {join : JoinRequest} {data : JoinTokenData}
    {sessionId : String} {player : Player} (h : game.joinPath join = .reattach data sessionId player) :
    player ∈ game.players ∧ player.opsiaSessionId = sessionId ∧ data.session = some sessionId := by
  unfold joinPath at h
  split at h
  · cases h
  · rename_i token _
    simp only at h
    repeat' split at h
    all_goals try cases h
    rename_i hsession _ hexisting
    rw [hsession, Option.bind_some] at hexisting
    exact ⟨List.mem_of_find?_eq_some hexisting, by simpa using List.find?_some hexisting, hsession⟩

private theorem session_some {data : JoinTokenData} {sessionId : String} (h : data.session = some sessionId) :
    data.opsiaSessionId.getD "" = sessionId ∧ sessionId ≠ "" := by
  obtain ⟨hid, hne⟩ := Option.filter_eq_some_iff.1 h
  exact ⟨by rw [hid, Option.getD_some], by simpa using hne⟩

private theorem session_none {data : JoinTokenData} (h : data.session = none) : data.opsiaSessionId.getD "" = "" := by
  cases hid : data.opsiaSessionId with
  | none => rfl
  | some sessionId =>
    by_contra hne
    have hsome : data.session = some sessionId := by
      rw [JoinTokenData.session, hid]
      simpa using hne
    rw [h] at hsome
    cases hsome

/-- A session that gets its player object back gets it as it was left. -/
private theorem reattach_carries_iff {game : RoomGame settings} {join : JoinRequest} (h : game.Kept)
    {data : JoinTokenData} {sessionId : String} {player : Player}
    (hpath : game.joinPath join = .reattach data sessionId player) :
    game.JoinCarriesSeed join ↔ ∀ snapshot, game.seeded = some snapshot →
      ∀ state, snapshot.player? player.opsiaSessionId = some state →
        player.opsiaSessionId ∉ game.inputsSince ∧ player.body.Carries settings.defs state := by
  obtain ⟨game', hok, hf, hplayers⟩ := addClient_reattach hpath
  obtain ⟨hmem, hsession, hdata⟩ := joinPath_reattach hpath
  have hne : player.opsiaSessionId ≠ "" := by
    rw [hsession]
    exact (session_some hdata).2
  constructor
  · intro hcarries snapshot hs state hstate
    have hattached : { player with client := game.nextClient } ∈ game'.players := by
      rw [hplayers]
      exact List.mem_map.2 ⟨player, hmem, if_pos rfl⟩
    obtain ⟨hbody, hinput⟩ := hcarries player.id game' hok _ hattached rfl hne snapshot (hf.seeded.trans hs) state hstate
    rw [hf.processedInputSequences] at hinput
    exact ⟨(input_iff (h.seed snapshot hs) hstate).1 hinput, hbody⟩
  · intro hreaches id game'' hok' attached hattached hid _ snapshot hs state hstate
    rw [hok] at hok'
    cases hok'
    have hsame : attached = { player with client := game.nextClient } := by
      rw [hplayers] at hattached
      obtain ⟨p, hp, rfl⟩ := List.mem_map.1 hattached
      by_cases heq : p.id = player.id
      · obtain rfl : p = player := List.inj_on_of_nodup_map h.nodup hp hmem heq
        exact if_pos rfl
      · rw [if_neg heq] at hid
        exact absurd hid heq
    rw [hsame] at hstate ⊢
    have hs : game.seeded = some snapshot := hf.seeded ▸ hs
    obtain ⟨hinput, hbody⟩ := hreaches snapshot hs state hstate
    refine ⟨hbody, ?_⟩
    rw [hf.processedInputSequences]
    exact (input_iff (h.seed snapshot hs) hstate).2 hinput

/-- What a new player is made with, and whether that is what the snapshot says. -/
private theorem newBody_carries_iff {game : RoomGame settings} (join : JoinRequest) {data : JoinTokenData}
    {snapshot : GameSnapshot settings.defs} (h : game.SeedKept snapshot) {sessionId : String}
    (hsession : data.session = some sessionId) {state : LoosePlayerState}
    (hstate : snapshot.player? sessionId = some state) :
    ∃ body, game.newBody join data = .ok body ∧ (body.Carries settings.defs state ↔
      if sessionId ∈ game.joinedSince then
        (if settings.opsiaRoom && join.bot then
          join.spawned.equipOpsiaBotStarterWeapon settings.defs join.starterWeapon
        else join.spawned).Carries settings.defs state
      else
        ("flak_jacket" ∈ join.spawned.perks → state.FitsBackpack settings.defs) ∧
          (settings.opsiaRoom = true → join.bot = true → state.StarterAddsNothing settings.defs join.starterWeapon)) := by
  have hleft := h.left sessionId
  by_cases hsince : sessionId ∈ game.joinedSince
  · rw [if_pos hsince] at hleft
    refine ⟨if settings.opsiaRoom && join.bot then
      join.spawned.equipOpsiaBotStarterWeapon settings.defs join.starterWeapon else join.spawned, ?_, ?_⟩
    · rw [newBody, hsession, Option.bind_some, hleft]
      rfl
    · rw [if_pos hsince]
  · rw [if_neg hsince, hstate] at hleft
    have hcaptured := snapshot.captured state (mem_player? hstate)
    rw [if_neg hsince]
    by_cases hbot : (settings.opsiaRoom && join.bot) = true
    · obtain ⟨hroom, hisBot⟩ : settings.opsiaRoom = true ∧ join.bot = true := by simpa using hbot
      obtain ⟨restored, hok, hcarries⟩ := restorePlayer_starter_carries_iff hcaptured join.spawned join.starterWeapon
      refine ⟨restored.equipOpsiaBotStarterWeapon settings.defs join.starterWeapon, ?_, ?_⟩
      · rw [newBody, hsession, Option.bind_some, hleft]
        simp only [hok, Except.map, hbot, if_true]
      · rw [hcarries]
        simp [hroom, hisBot]
    · obtain ⟨restored, hok, hcarries⟩ := restorePlayer_carries_iff hcaptured join.spawned
      refine ⟨restored, ?_, ?_⟩
      · rw [newBody, hsession, Option.bind_some, hleft]
        simp only [hok, Except.map]
        rw [if_neg hbot]
      · rw [hcarries]
        constructor
        · exact fun hfits => ⟨hfits, fun hroom hisBot => absurd (by simp [hroom, hisBot]) hbot⟩
        · exact fun hfits => hfits.1

private theorem addPlayer_carries_iff {game : RoomGame settings} {join : JoinRequest} (h : game.Kept)
    {data : JoinTokenData} (hpath : game.joinPath join = .addPlayer data) :
    game.JoinCarriesSeed join ↔ ∀ snapshot, game.seeded = some snapshot →
      ∀ sessionId, data.session = some sessionId → ∀ state, snapshot.player? sessionId = some state →
        sessionId ∉ game.inputsSince ∧
          ∀ body, game.newBody join data = .ok body → body.Carries settings.defs state := by
  constructor
  · intro hcarries snapshot hs sessionId hsession state hstate
    obtain ⟨body, hbody, -⟩ := newBody_carries_iff join (h.seed snapshot hs) hsession hstate
    obtain ⟨game', player, hok, hmade, rfl⟩ := addClient_addPlayer hpath hbody
    obtain ⟨hid, hne⟩ := session_some hsession
    have hplayer : player.opsiaSessionId = sessionId := hmade.session.trans hid
    have hmem : player ∈ game'.players := by
      rw [hmade.players]
      exact List.mem_append_right _ (List.mem_singleton_self _)
    obtain ⟨hcarried, hinput⟩ := hcarries player.id game' hok player hmem rfl (hplayer ▸ hne) snapshot
      (hmade.seeded.trans hs) state (hplayer ▸ hstate)
    rw [hmade.processedInputSequences, hplayer] at hinput
    refine ⟨(input_iff (h.seed snapshot hs) hstate).1 hinput, fun body hbody' => ?_⟩
    rw [hbody] at hbody'
    cases hbody'
    exact hcarried
  · intro hreaches id game' hok attached hattached hid hne snapshot hs state hstate
    rcases addClient_cases hok with ⟨hnone, -⟩ | ⟨_, _, _, hpath', -⟩ | ⟨data', player, hpath', hbody, hsome, hmade⟩
    · cases hnone
    · rw [hpath] at hpath'
      cases hpath'
    · rw [hpath] at hpath'
      cases hpath'
      cases hsome
      -- the player that was made is the only one with its identity
      obtain rfl : attached = player := by
        rw [hmade.players, List.mem_append] at hattached
        rcases hattached with hold | hnew
        · have := h.fresh attached.id (List.mem_map_of_mem hold)
          rw [hid, hmade.id] at this
          exact absurd this (Nat.lt_irrefl _)
        · exact List.mem_singleton.1 hnew
      cases hsession : data.session with
      | none => exact absurd (hmade.session.trans (session_none hsession)) hne
      | some sessionId =>
        have hplayer : attached.opsiaSessionId = sessionId := hmade.session.trans (session_some hsession).1
        have hs : game.seeded = some snapshot := hmade.seeded ▸ hs
        rw [hplayer] at hstate
        obtain ⟨hinput, hcarried⟩ := hreaches snapshot hs sessionId hsession state hstate
        refine ⟨hcarried _ hbody, ?_⟩
        rw [hmade.processedInputSequences, hplayer]
        exact (input_iff (h.seed snapshot hs) hstate).2 hinput

/-- A join hands over the snapshot just when the seeding reaches its player. -/
theorem join_carries_seed_iff {game : RoomGame settings} (h : game.Kept) (join : JoinRequest) :
    game.JoinCarriesSeed join ↔ game.SeedReaches join := by
  have hnone : (∀ id game', game.addClient join ≠ .ok (some id, game')) → game.JoinCarriesSeed join :=
    fun hne id game' hok => absurd hok (hne id game')
  unfold SeedReaches
  cases hpath : game.joinPath join with
  | reattach data sessionId player => exact reattach_carries_iff h hpath
  | addPlayer data =>
    rw [addPlayer_carries_iff h hpath]
    refine forall₂_congr fun snapshot hs => forall₂_congr fun sessionId hsession => forall₂_congr fun state hstate =>
      and_congr_right fun _ => ?_
    obtain ⟨body, hbody, hcarries⟩ := newBody_carries_iff join (h.seed snapshot hs) hsession hstate
    rw [← hcarries]
    constructor
    · exact fun hall => hall body hbody
    · intro hcarried body' hbody'
      rw [hbody] at hbody'
      cases hbody'
      exact hcarried
  | tokenInvalid =>
    refine iff_of_true (hnone fun id game' hok => ?_) fun _ _ => trivial
    simp [addClient, hpath] at hok
  | refused reason =>
    refine iff_of_true (hnone fun id game' hok => ?_) fun _ _ => trivial
    simp [addClient, hpath] at hok
  | spectator data =>
    refine iff_of_true (hnone fun id game' hok => ?_) fun _ _ => trivial
    simp [addClient, hpath] at hok
  | reattachExpired sessionId =>
    refine iff_of_true (hnone fun id game' hok => ?_) fun _ _ => trivial
    simp [addClient, hpath] at hok

/-- Every join of a run hands over the snapshot the store was last seeded with just when every seeding reaches the
players that join after it. -/
theorem seed_reaches_iff (role : RuntimeRole) (loaded : Option (GameSnapshot settings.defs))
    (events : List (GameEvent settings)) :
    Machine.EachStep step (fun game event => ∀ join, event = .join join → game.JoinCarriesSeed join) (start role loaded)
        events ↔
      Machine.EachStep step (fun game event => ∀ join, event = .join join → game.SeedReaches join) (start role loaded)
        events :=
  Machine.eachStep_congr (fun _ _ _ h hs => step_kept h hs)
    (fun _ _ h => forall₂_congr fun join _ => join_carries_seed_iff h join) (start_kept role loaded) events

/-! ### A player object that is older than the seeding -/

private def bandages : GameDefs where
  bagItems := ["bandage"]
  nodup_bagItems := List.nodup_singleton _
  bagSizes := fun _ _ => 5
  gearLevel := fun _ => 0
  fragBonus := 0
  mirvBonus := 0

private def room : RoomSettings where
  defs := bandages
  opsiaRoom := true
  allowBots := false
  rateLimitsEnabled := false
  sessionReattachTtlMs := none

private def player (health : JsNumber) : PlayerBody where
  pos := ⟨.ofNat 0, .ofNat 0⟩
  health := health
  items := fun _ => 0
  backpack := "backpack00"
  perks := []

private theorem player_captured (health : JsNumber) :
    (capturePlayer bandages "session-00000001" 7 (player health)).Captured bandages :=
  capturePlayer_captured _ (by omega) fun _ => Nat.zero_le _

/-- The snapshot of the other game, in which the player has been hurt. -/
private def hurt : GameSnapshot bandages where
  players := [capturePlayer bandages "session-00000001" 7 (player (.ofNat 40))]
  captured := by
    intro state h
    obtain rfl := List.mem_singleton.1 h
    exact player_captured _

private def token : JoinTokenData where
  expiresAt := 10000
  userId := none
  findGameIp := "10.0.0.1"
  opsiaSessionId := some "session-00000001"
  spectator := false

private def joining : JoinRequest where
  matchPriv := "token"
  bot := false
  gatewaySessionId := some "session-00000001"
  ip := "10.0.0.1"
  now := 0
  spawned := player (.ofNat 100)
  starterWeapon := none

/-- A session joins an active game and leaves, the game hands the room over, is seeded again on rollback, and the
session comes back while its player object is still retained. -/
private def rollback : List (GameEvent room) :=
  [.addJoinToken "token" token, .join joining, .socketClose 0 0 false, .release, .seedCandidate hurt .restored, .promote,
    .addJoinToken "token" token, .join joining]

/-- On rollback a session gets its old player object back, although it has not joined since the seeding. -/
theorem retained_player_outlives_seed :
    ¬∀ (settings : RoomSettings) (role : RuntimeRole) (loaded : Option (GameSnapshot settings.defs))
      (events : List (GameEvent settings)),
      Machine.EachStep step (fun game event => ∀ join, event = .join join → "session-00000001" ∉ game.joinedSince →
        game.JoinCarriesSeed join) (start role loaded) events := by
  intro h
  obtain ⟨-, h⟩ := h room .active none rollback _ rfl
  obtain ⟨-, h⟩ := h _ rfl
  obtain ⟨-, h⟩ := h _ rfl
  obtain ⟨-, h⟩ := h _ rfl
  obtain ⟨-, h⟩ := h _ rfl
  obtain ⟨-, h⟩ := h _ rfl
  obtain ⟨-, h⟩ := h _ rfl
  have hcarries := (h _ rfl).1 joining rfl List.not_mem_nil
  have hhealth := (hcarries 0 _ rfl _ (List.mem_singleton_self _) rfl (by decide) hurt rfl _ rfl).1.health
  exact absurd hhealth (by decide)

end RoomGame

end Game

end Opsia
