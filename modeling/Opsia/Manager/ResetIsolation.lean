import Opsia.Manager.Room

/-!
# Resets and admission

After a reset the manager waits until the replacement is ready.  It knows this from any data of a game, and the old game
may have sent some before it heard of the reset: then join tokens are given out too early, and go to the game that is
about to be discarded (`stale_data_ends_the_wait`).  Where every wait ends with the replacement ready, a request is
answered by a ready game only, and the tokens come to the game that the last reset has made (`reset_isolates`).
-/

namespace Opsia.Manager

namespace Room

/-- A request for a game is answered only when the game of the last reset is ready, and its tokens are registered in
that game. -/
structure IsolatesReset (r : Room) : Prop where
  answered : ∀ grant ∈ r.granted, grant.resets ∈ grant.readied
  registered : ∀ entry ∈ r.registered, entry.2 = some entry.1

/-- Data of a game ends the wait of the manager only when the game of the last reset is ready already. -/
def WaitEndsReady (r : Room) : Prop :=
  ∀ msg ∈ r.toManager.head?, msg.endsWait = true → r.process.state = .creatingGame → r.resets ∈ r.child.readied

/-- Join tokens come to a child that has a game. -/
def TokensFindGame (r : Room) : Prop :=
  ∀ msg ∈ r.toRoom.head?, msg.bringsTokens = true → r.child.hasGame = true

/-- A message is received while the room meets these conditions. -/
def Orderly (r : Room) : Event → Prop
  | .receive => r.WaitEndsReady
  | .handle => r.TokensFindGame
  | _ => True

/-! ### Messages to the child -/

/-- The resets among the messages. -/
def pendingResets (msgs : List ProcessMsg) : Nat :=
  msgs.countP ProcessMsg.isReset

/-- Join tokens are for a game that there is, and for the last one before the resets behind them. -/
def Tagged (generation resets : Nat) : List ProcessMsg → Prop
  | [] => True
  | msg :: rest =>
    (∀ tokens tag, msg = .addJoinToken tokens tag → tag ≤ generation ∧ tag + pendingResets rest = resets) ∧
      Tagged generation resets rest

private theorem pendingResets_append (msgs : List ProcessMsg) (msg : ProcessMsg) :
    pendingResets (msgs ++ [msg]) = pendingResets msgs + if msg.isReset then 1 else 0 := by
  unfold pendingResets
  rw [List.countP_append, List.countP_singleton]

private theorem Tagged.mono {generation generation' resets : Nat} {msgs : List ProcessMsg}
    (h : Tagged generation resets msgs) (hle : generation ≤ generation') : Tagged generation' resets msgs := by
  induction msgs with
  | nil => trivial
  | cons msg rest ih =>
    refine ⟨fun tokens tag htag => ?_, ih h.2⟩
    obtain ⟨hmade, hcount⟩ := h.1 tokens tag htag
    exact ⟨hmade.trans hle, hcount⟩

/-- A message behind the others is a reset that counts, or join tokens for the last game. -/
private theorem Tagged.append {generation resets : Nat} {msgs : List ProcessMsg} (h : Tagged generation resets msgs)
    (msg : ProcessMsg) (htag : ∀ tokens tag, msg = .addJoinToken tokens tag → tag ≤ generation ∧ tag = resets) :
    Tagged generation (resets + if msg.isReset then 1 else 0) (msgs ++ [msg]) := by
  induction msgs with
  | nil =>
    refine ⟨fun tokens tag heq => ?_, trivial⟩
    obtain ⟨hle, rfl⟩ := htag tokens tag heq
    rw [heq]
    exact ⟨hle, rfl⟩
  | cons first rest ih =>
    rw [List.cons_append]
    refine ⟨fun tokens tag heq => ?_, ih h.2⟩
    obtain ⟨hle, hcount⟩ := h.1 tokens tag heq
    rw [pendingResets_append, ← Nat.add_assoc, hcount]
    exact ⟨hle, rfl⟩

/-! ### What the manager does with its process -/

section
variable (maxPlayers : Nat) (p : ManagedProcess) (now : Int)

private theorem reserveAll_state (expiresAt : Int) (tokens : List PlayerData) :
    (tokens.foldl (ManagedProcess.reserve expiresAt) p).state = p.state := by
  induction tokens generalizing p with
  | nil => rfl
  | cons token tokens ih => exact ih _

private theorem addJoinTokens_state (tokens : List PlayerData) :
    (p.addJoinTokens maxPlayers tokens now).1.state = p.state := by
  unfold ManagedProcess.addJoinTokens
  dsimp only
  split
  · exact reserveAll_state (p.refreshOpsiaCapacity maxPlayers now) (now + 15000) tokens
  · rfl

private theorem runCallbacks_state (requests : List WaitingRequest) :
    (p.runCallbacks maxPlayers now requests).1.state = p.state := by
  induction requests generalizing p with
  | nil => rfl
  | cons request rest ih => exact (ih _).trans (addJoinTokens_state maxPlayers p now request.playerData)

/-- A request is answered at once only by a process that runs. -/
private theorem findGame_spec (playerData : List PlayerData) :
    (p.findGame maxPlayers playerData now).1.state = p.state ∧
      ((p.findGame maxPlayers playerData now).2 ≠ [] → p.state = .running) := by
  unfold ManagedProcess.findGame
  split
  · exact ⟨rfl, fun h => absurd rfl h⟩
  dsimp only
  split
  · exact ⟨rfl, fun h => absurd rfl h⟩
  split
  · exact ⟨rfl, fun h => absurd rfl h⟩
  · rename_i hrunning
    exact ⟨addJoinTokens_state maxPlayers _ now playerData, fun _ => not_not.1 hrunning⟩

/-- A process that runs behind an update has run before, or the update has ended its wait. -/
private theorem updateData_spec (data : GameData) :
    ((p.updateData maxPlayers data now).1.state = .running → p.state = .running ∨
        p.state = .creatingGame ∧ (data.canJoin = true ∨ data.stopped = false)) ∧
      ((p.updateData maxPlayers data now).2 ≠ [] →
        p.state = .creatingGame ∧ (data.canJoin = true ∨ data.stopped = false)) := by
  unfold ManagedProcess.updateData
  by_cases hends : p.state = .creatingGame ∧ (data.canJoin = true ∨ data.stopped = false)
  · rw [if_pos hends]
    exact ⟨fun _ => Or.inr hends, fun _ => hends⟩
  · rw [if_neg hends]
    refine ⟨fun hrunning => Or.inl ?_, fun h => absurd rfl h⟩
    dsimp only at hrunning
    split at hrunning
    · cases hrunning
    · exact hrunning

end

/-! ### What a step keeps -/

/-- Where the games and the resets stand. -/
structure Isolated (r : Room) : Prop extends r.IsolatesReset where
  running : r.process.state = .running → r.resets ∈ r.child.readied
  readied : ∀ generation ∈ r.child.readied, generation ≤ r.child.generation
  starting : ∀ start ∈ r.child.starting, start.1 ≤ r.child.generation
  made : r.child.generation + r.child.clearing.length + pendingResets r.toRoom ≤ r.resets
  tagged : Tagged r.child.generation r.resets r.toRoom

private theorem isolated_init (settings : RoomSettings) : Isolated (init settings) where
  answered := by simp [init]
  registered := by simp [init]
  running := fun h => by cases h
  readied := by simp [init]
  starting := by simp [init]
  made := Nat.le_refl 0
  tagged := trivial

/-- The child has no other game than before, and games that have become ready are games that there are. -/
private structure SameGames (c c' : RoomProcess) : Prop where
  generation : c'.generation = c.generation
  clearing : c'.clearing = c.clearing
  kept : ∀ generation ∈ c.readied, generation ∈ c'.readied
  readied : ∀ generation ∈ c'.readied, generation ∈ c.readied ∨ generation ≤ c.generation
  starting : ∀ start ∈ c'.starting, start ∈ c.starting

private theorem SameGames.of_eq {c c' : RoomProcess} (hgeneration : c'.generation = c.generation)
    (hclearing : c'.clearing = c.clearing) (hreadied : c'.readied = c.readied) (hstarting : c'.starting = c.starting) :
    SameGames c c' where
  generation := hgeneration
  clearing := hclearing
  kept := fun _ h => hreadied ▸ h
  readied := fun _ h => Or.inl (hreadied ▸ h)
  starting := fun _ h => hstarting ▸ h

private theorem SameGames.trans {c c' c'' : RoomProcess} (h : SameGames c c') (h' : SameGames c' c'') :
    SameGames c c'' where
  generation := h'.generation.trans h.generation
  clearing := h'.clearing.trans h.clearing
  kept := fun generation hgeneration => h'.kept generation (h.kept generation hgeneration)
  readied := fun generation hgeneration =>
    (h'.readied generation hgeneration).elim (h.readied generation) fun hle => Or.inr (h.generation ▸ hle)
  starting := fun start hstart => h.starting start (h'.starting start hstart)

private theorem sameGames_play {settings : RoomSettings} {c c' : RoomProcess} {event : GameProcess.Event}
    (h : c.play settings event = some c') : SameGames c c' := by
  obtain ⟨barn, -, rfl⟩ := Option.map_eq_some_iff.1 h
  exact .of_eq rfl rfl rfl rfl

private theorem sameGames_playOrDrop (settings : RoomSettings) (c : RoomProcess) (event : GameProcess.Event) :
    SameGames c (c.playOrDrop settings event) := by
  unfold RoomProcess.playOrDrop
  cases hplay : c.play settings event with
  | none => exact .of_eq rfl rfl rfl rfl
  | some c' => exact sameGames_play hplay

private theorem sameGames_updateData (settings : RoomSettings) (c : RoomProcess) :
    SameGames c (c.updateData settings).1 := by
  unfold RoomProcess.updateData
  split <;> exact .of_eq rfl rfl rfl rfl

private theorem sameGames_settle (settings : RoomSettings) (c : RoomProcess) {generation : Nat}
    (hle : generation ≤ c.generation) (ready : Bool) (stray : GameStatus) :
    SameGames c (c.settle settings generation ready stray).1 := by
  have hsame : ∀ c', c'.generation = c.generation → c'.clearing = c.clearing →
      c'.readied = (if ready then generation :: c.readied else c.readied) → c'.starting = c.starting →
      SameGames c c' := by
    intro c' hgeneration hclearing hreadied hstarting
    refine ⟨hgeneration, hclearing, fun other h => ?_, fun other h => ?_, fun start h => hstarting ▸ h⟩
    · rw [hreadied]
      split
      · exact List.mem_cons_of_mem _ h
      · exact h
    · rw [hreadied] at h
      split at h
      · rcases List.mem_cons.1 h with rfl | h
        · exact Or.inr hle
        · exact Or.inl h
      · exact Or.inl h
  unfold RoomProcess.settle RoomProcess.updateData RoomProcess.strayUpdate
  dsimp only
  cases ready <;> split <;> exact hsame _ rfl rfl rfl rfl

namespace Isolated
variable {settings : RoomSettings} {r : Room}

private theorem withChild (h : Isolated r) {c : RoomProcess} (hsame : SameGames r.child c) :
    Isolated { r with child := c } where
  answered := h.answered
  registered := h.registered
  running := fun hrunning => hsame.kept _ (h.running hrunning)
  readied := by
    intro generation hgeneration
    show generation ≤ c.generation
    rw [hsame.generation]
    rcases hsame.readied generation hgeneration with hold | hle
    · exact h.readied generation hold
    · exact hle
  starting := by
    intro start hstart
    show start.1 ≤ c.generation
    rw [hsame.generation]
    exact h.starting start (hsame.starting start hstart)
  made := by
    show c.generation + c.clearing.length + pendingResets r.toRoom ≤ r.resets
    rw [hsame.generation, hsame.clearing]
    exact h.made
  tagged := by
    show Tagged c.generation r.resets r.toRoom
    rw [hsame.generation]
    exact h.tagged

/-- What the child sends does not matter here. -/
private theorem reply (h : Isolated r) {out : RoomProcess × RoomMsg} (hsame : SameGames r.child out.1) :
    Isolated (r.reply out) :=
  { h.withChild hsame with }

/-- A message to the child that is neither a reset nor brings join tokens. -/
private theorem send (h : Isolated r) (msg : ProcessMsg) (hreset : msg.isReset = false)
    (htokens : ∀ tokens tag, msg ≠ .addJoinToken tokens tag) : Isolated (r.send msg) where
  answered := h.answered
  registered := h.registered
  running := h.running
  readied := h.readied
  starting := h.starting
  made := by
    have hmade := h.made
    unfold Room.send
    rw [pendingResets_append, hreset]
    exact hmade
  tagged := by
    have htagged := h.tagged.append msg fun tokens tag heq => absurd heq (htokens tokens tag)
    rwa [hreset] at htagged

private theorem grant (h : Isolated r) (hready : r.resets ∈ r.child.readied) (tokens : List PlayerData) :
    Isolated (r.grant tokens) where
  answered := by
    intro grant hgrant
    rcases List.mem_append.1 hgrant with hgrant | hgrant
    · exact h.answered grant hgrant
    · obtain ⟨data, -, rfl⟩ := List.mem_map.1 hgrant
      exact hready
  registered := h.registered
  running := h.running
  readied := h.readied
  starting := h.starting
  made := by
    have hmade := h.made
    unfold Room.grant Room.send
    rw [pendingResets_append]
    exact hmade
  tagged := by
    refine h.tagged.append (.addJoinToken tokens r.resets) fun tokens' tag heq => ?_
    cases heq
    exact ⟨h.readied _ hready, rfl⟩

private theorem grantAll (h : Isolated r) {out : ManagedProcess × List (List PlayerData)}
    (hrunning : out.1.state = .running → r.resets ∈ r.child.readied)
    (hsent : out.2 ≠ [] → r.resets ∈ r.child.readied) : Isolated (r.grantAll out) := by
  obtain ⟨p, sent⟩ := out
  have hprocess : Isolated { r with process := p } := { h with running := hrunning }
  have hgrants : ∀ (sent : List (List PlayerData)) (r : Room), Isolated r →
      (sent ≠ [] → r.resets ∈ r.child.readied) →
      Isolated (sent.foldl Room.grant r) := by
    intro sent
    induction sent with
    | nil => exact fun r h _ => h
    | cons tokens sent ih =>
      intro r h hready
      have hready := hready (List.cons_ne_nil _ _)
      exact ih _ (h.grant hready tokens) fun _ => hready
  exact hgrants sent _ hprocess hsent

private theorem live (h : Isolated r) {event : GameProcess.Event} {next : Room}
    (hs : r.live settings event = some next) : Isolated next := by
  unfold Room.live at hs
  split at hs
  · obtain ⟨child, hplay, rfl⟩ := Option.map_eq_some_iff.1 hs
    exact h.withChild (sameGames_play hplay)
  · cases hs

/-- The child handles the first message. -/
private theorem handle {msg : ProcessMsg} {rest : List ProcessMsg} (h : Isolated r)
    (hroom : r.toRoom = msg :: rest) (hgame : r.TokensFindGame) :
    Isolated ({ r with toRoom := rest }.onRoomMsg settings msg) := by
  have hmade := h.made
  have htagged := h.tagged
  rw [hroom] at hmade htagged
  have hpending : pendingResets (msg :: rest) = pendingResets rest + if msg.isReset then 1 else 0 :=
    List.countP_cons
  rw [hpending] at hmade
  have hdropped : Isolated { r with toRoom := rest } :=
    { h with
      made := show r.child.generation + r.child.clearing.length + pendingResets rest ≤ r.resets by omega
      tagged := htagged.2 }
  unfold Room.onRoomMsg
  cases hmsg : msg with
  | addJoinToken tokens tag =>
    have hhas : r.child.hasGame = true := by
      refine hgame msg (by rw [hroom]; rfl) ?_
      rw [hmsg]
      rfl
    obtain ⟨hle, hcount⟩ := htagged.1 tokens tag hmsg
    -- the game that is there was made by the last reset before the tokens were given out
    have hlast : r.child.generation = tag := by omega
    dsimp only
    rw [if_pos hhas, if_pos hhas]
    have hadded : Isolated { r with toRoom := rest, child := r.child.addJoinTokens tokens r.now } :=
      hdropped.withChild (c := r.child.addJoinTokens tokens r.now) (.of_eq rfl rfl rfl rfl)
    refine { hadded with registered := fun entry hentry => ?_ }
    rcases List.mem_append.1 hentry with hentry | hentry
    · exact h.registered entry hentry
    · obtain rfl := List.mem_singleton.1 hentry
      exact congrArg some hlast
  | socketOpen id ip gatewaySessionId =>
    dsimp only
    split
    · exact hdropped.withChild (sameGames_playOrDrop ..)
    · exact hdropped
  | clientSocketMsg id message =>
    dsimp only
    split
    · exact hdropped.withChild (sameGames_playOrDrop ..)
    · exact hdropped
  | socketClose id =>
    dsimp only
    split
    · exact hdropped.withChild (sameGames_playOrDrop ..)
    · exact hdropped
  | opsiaReset requestId =>
    dsimp only
    split
    · refine { hdropped with made := ?_ }
      rw [hmsg] at hmade
      show r.child.generation + (r.child.clearing ++ [requestId]).length + pendingResets rest ≤ r.resets
      rw [List.length_append, List.length_singleton]
      simp only [ProcessMsg.isReset, if_true] at hmade
      omega
    · exact hdropped

/-- A new game in the place of one that has been cleared. -/
private theorem newGame {index : Nat} {requestId : String} (h : Isolated r)
    (hclearing : r.child.clearing[index]? = some requestId) :
    Isolated { r with child := { r.child with clearing := r.child.clearing.eraseIdx index }.newGame requestId } where
  answered := h.answered
  registered := h.registered
  running := h.running
  readied := fun generation hgeneration => (h.readied generation hgeneration).trans (Nat.le_succ _)
  starting := by
    intro start hstart
    rcases List.mem_append.1 hstart with hstart | hstart
    · exact (h.starting start hstart).trans (Nat.le_succ _)
    · obtain rfl := List.mem_singleton.1 hstart
      exact le_refl _
  made := by
    have hmade := h.made
    obtain ⟨hindex, -⟩ := List.getElem?_eq_some_iff.1 hclearing
    show r.child.generation + 1 + (r.child.clearing.eraseIdx index).length + pendingResets r.toRoom ≤ r.resets
    rw [List.length_eraseIdx_of_lt hindex]
    omega
  tagged := h.tagged.mono (Nat.le_succ _)

theorem step (h : Isolated r) {event : Event} (horderly : r.Orderly event) {next : Room}
    (hs : r.step settings event = some next) : Isolated next := by
  cases event with
  | findGame playerData =>
    simp only [Room.step] at hs
    split at hs
    · cases hs
      obtain ⟨hstate, hsent⟩ := findGame_spec settings.maxPlayers r.process r.now playerData
      exact h.grantAll (fun hrunning => h.running (hstate ▸ hrunning)) fun hne => h.running (hsent hne)
    · cases hs
  | readyTimeout index =>
    simp only [Room.step] at hs
    split at hs
    · cases hs
      exact { h with }
    · cases hs
  | reset requestId =>
    simp only [Room.step] at hs
    split at hs
    · cases hs
      exact h
    · cases hs
      have htagged := h.tagged.append (.opsiaReset requestId) fun tokens tag heq => by cases heq
      refine { h with running := (fun hrunning => by cases hrunning), made := ?_, tagged := htagged }
      have hmade := h.made
      show r.child.generation + r.child.clearing.length + pendingResets (r.toRoom ++ [_]) ≤ r.resets + 1
      rw [pendingResets_append]
      exact Nat.add_le_add_right hmade 1
  | resetTimeout requestId =>
    simp only [Room.step] at hs
    split at hs
    · cases hs
      refine { h with running := fun hrunning => h.running ?_ }
      unfold ManagedProcess.endReset at hrunning
      split at hrunning <;> exact hrunning
    · cases hs
  | upgrade upgrade =>
    simp only [Room.step] at hs
    split at hs <;> (cases hs; exact { h with })
  | socketOpen upgrade =>
    simp only [Room.step] at hs
    split at hs
    · cases hs
      have hsent := h.send (.socketOpen upgrade.id upgrade.ip upgrade.gatewaySessionId) rfl
        fun _ _ heq => by cases heq
      exact { hsent with }
    · cases hs
  | clientSocketMsg id message =>
    cases hs
    exact h.send _ rfl fun _ _ heq => by cases heq
  | socketClose id =>
    cases hs
    exact h.send _ rfl fun _ _ heq => by cases heq
  | receive =>
    simp only [Room.step] at hs
    split at hs
    · cases hs
    · rename_i msg rest hmanager
      cases hs
      have hends := horderly msg (by rw [hmanager]; rfl)
      have hreceived : Isolated { r with toManager := rest } := { h with }
      unfold Room.onProcessMsg
      cases hmsg : msg with
      | keepAlive => exact hreceived
      | updateData data generation =>
        obtain ⟨hrunning, hsent⟩ := updateData_spec settings.maxPlayers r.process r.now data
        have hready : r.process.state = .creatingGame ∧ (data.canJoin = true ∨ data.stopped = false) →
            r.resets ∈ r.child.readied := by
          rintro ⟨hwaits, hdata⟩
          refine hends ?_ hwaits
          rw [hmsg]
          simpa [RoomMsg.endsWait] using hdata
        refine hreceived.grantAll (fun h' => ?_) fun hne => hready (hsent hne)
        rcases hrunning h' with hbefore | hends
        · exact h.running hbefore
        · exact hready hends
      | opsiaSnapshot players => exact { hreceived with }
      | opsiaResetResult requestId =>
        refine { hreceived with running := fun hrunning => h.running ?_ }
        simp only [ManagedProcess.endReset] at hrunning
        split at hrunning <;> exact hrunning
  | handle =>
    simp only [Room.step] at hs
    split at hs
    · cases hs
    · rename_i msg rest hroom
      cases hs
      exact h.handle hroom horderly
  | updateData =>
    simp only [Room.step] at hs
    split at hs
    · cases hs
      exact h.reply (sameGames_updateData settings r.child)
    · cases hs
  | telemetry =>
    simp only [Room.step] at hs
    split at hs
    · cases hs
      exact h.reply (.of_eq rfl rfl rfl rfl)
    · cases hs
  | update seconds =>
    simp only [Room.step] at hs
    split at hs
    · exact (h.withChild (c := { r.child with startedTime := r.child.startedTime + seconds })
        (.of_eq rfl rfl rfl rfl)).live hs
    · cases hs
  | play player condition => exact h.live hs
  | restore states => exact h.live hs
  | disconnect id => exact h.live hs
  | gameOver =>
    simp only [Room.step] at hs
    split at hs
    · cases hs
      exact h.withChild (.of_eq rfl rfl rfl rfl)
    · cases hs
  | stop =>
    simp only [Room.step] at hs
    split at hs
    · cases hs
      have hstopped : SameGames r.child r.child.stop := .of_eq rfl rfl rfl rfl
      exact h.reply (hstopped.trans (sameGames_updateData settings r.child.stop))
    · cases hs
  | cleared index =>
    obtain ⟨requestId, hclearing, rfl⟩ := Option.map_eq_some_iff.1 hs
    exact h.newGame hclearing
  | started index ready stray =>
    obtain ⟨start, hstart, rfl⟩ := Option.map_eq_some_iff.1 hs
    have hended : SameGames r.child { r.child with starting := r.child.starting.eraseIdx index } :=
      ⟨rfl, rfl, fun _ => id, fun _ => Or.inl, fun _ => List.mem_of_mem_eraseIdx⟩
    have hle : start.1 ≤ r.child.generation := h.starting start (List.mem_of_getElem? hstart)
    have hsettled := h.reply (hended.trans (sameGames_settle settings
      { r.child with starting := r.child.starting.eraseIdx index } hle ready stray))
    dsimp only
    split
    · exact hsettled
    · exact { hsettled with }
  | handoff generation ready stray =>
    simp only [Room.step] at hs
    split at hs
    · rename_i hle
      cases hs
      exact h.reply (sameGames_settle settings r.child hle ready stray)
    · cases hs
  | tick ms =>
    cases hs
    exact { h with }

end Isolated

/-- In a run in which data of a game ends a wait only when the game of the last reset is ready, and join tokens find a
game, no request is answered before the replacement is ready, and its tokens are registered in the replacement. -/
theorem reset_isolates (settings : RoomSettings) (events : List Event)
    (h : Machine.EachStep (step settings) Orderly (init settings) events) :
    Machine.Throughout (step settings) IsolatesReset (init settings) events :=
  (Machine.throughout_of_eachStep (fun _ _ _ hisolated horderly hs => hisolated.step horderly hs)
    (isolated_init settings) h).mono fun _ hisolated => hisolated.toIsolatesReset

end Room

/-! ### Data of the old game -/

instance (r : Room) : Decidable r.WaitEndsReady := by unfold Room.WaitEndsReady; infer_instance

instance (r : Room) : Decidable r.TokensFindGame := by unfold Room.TokensFindGame; infer_instance

instance (r : Room) : (event : Event) → Decidable (r.Orderly event)
  | .receive => inferInstanceAs (Decidable r.WaitEndsReady)
  | .handle => inferInstanceAs (Decidable r.TokensFindGame)
  | .findGame _ | .readyTimeout _ | .reset _ | .resetTimeout _ | .upgrade _ | .socketOpen _ | .clientSocketMsg .. |
    .socketClose _ | .updateData | .telemetry | .update _ | .play .. | .restore _ | .disconnect _ | .gameOver | .stop |
    .cleared _ | .started .. | .handoff .. | .tick _ => isTrue trivial

instance (r : Room) : Decidable r.IsolatesReset :=
  decidable_of_iff
    ((∀ grant ∈ r.granted, grant.resets ∈ grant.readied) ∧ ∀ entry ∈ r.registered, entry.2 = some entry.1)
    ⟨fun h => ⟨h.1, h.2⟩, fun h => ⟨h.1, h.2⟩⟩

def smallRoom : RoomSettings where
  barn := {
    opsiaRoom := true
    allowBots := false
    rateLimitsEnabled := true
    factionMode := false
    sessionReattachTtlMs := none }
  maxPlayers := 80
  opsiaInfinite := true
  telemetryIntervalMs := 2000
  opsiaRoom := rfl
  telemetryInterval_admissible := by decide

def firstRequest : List PlayerData := [⟨"token-1", none, "10.0.0.1", some "session-000000001", false⟩]

/-- The old game sends its data, the room is reset, and the data comes in. -/
def staleDataRun : List Event :=
  [.started 0 true ⟨0, 0, false, false⟩, .receive, .updateData, .reset "reset-1", .receive, .findGame firstRequest]

/-- The request is answered before the child has heard of the reset. -/
theorem stale_data_ends_the_wait :
    ¬Machine.Throughout (Room.step smallRoom) Room.IsolatesReset (Room.init smallRoom) staleDataRun := by
  decide +kernel

/-- A reset that the child has carried out before a request comes. -/
def orderlyRun : List Event :=
  [.started 0 true ⟨0, 0, false, false⟩, .receive, .reset "reset-1", .handle, .cleared 0,
    .started 0 true ⟨0, 0, false, false⟩, .receive, .receive, .findGame firstRequest, .handle]

/-- Behind it the request is answered, and its token is registered in the new game. -/
theorem orderly_reset_isolates :
    Machine.Throughout (Room.step smallRoom) Room.IsolatesReset (Room.init smallRoom) orderlyRun ∧
      (Machine.runFrom (Room.step smallRoom) (Room.init smallRoom) orderlyRun).map (fun r => (r.granted.length,
        r.registered)) = some (1, [(1, some 1)]) := by
  refine ⟨Room.reset_isolates smallRoom orderlyRun ?_, by decide +kernel⟩
  decide +kernel

end Opsia.Manager
