import Opsia.Store.Frames

/-!
# The players that are still to come

A snapshot lists the players that have an object in the game, and those restored at an active start that are still to
come.  A seeding restores its players in the game but does not put them among those to come, so a promoted store that
saves before everyone has reattached forgets the others (`players_kept_iff`).
-/

namespace Opsia

namespace Store

variable {config : SnapshotRuntimeConfig}

/-- The capture that a step takes in a factory, if it takes one. -/
def capturing (s : Store) : StoreEvent → Option (Nat × Capture)
  | .saving (.save now _ (.ok c)) => if now < s.writer.circuitOpenUntil ∨ s.writer.loop ≠ .idle then none else some (now, c)
  | .saving (.exitCheck now (.ok c)) =>
    if now < s.writer.circuitOpenUntil ∨ s.writer.pending.isNone then none else some (now, c)
  | _ => none

/-- The capture becomes a snapshot that goes to `write`. -/
def Builds (config : SnapshotRuntimeConfig) (s : Store) (c : Capture) : Prop :=
  0 ≤ s.roomEpoch ∧ ∃ checksum payloadBytes, c.envelope = .ok (checksum, payloadBytes) ∧ payloadBytes ≤ config.maxPayloadBytes

/-- The player is in the game in that very state, or among the restored ones that are still to come. -/
def Present (s : Store) (now : Nat) (c : Capture) (player : LoosePlayerState) : Prop :=
  (player.sessionId ∈ s.sessions.map Session.sessionId ∧ c.states player.sessionId = player.state) ∨
  (now < s.pendingRestoreUntil ∧ player ∈ s.pendingPlayers ∧ player.sessionId ∉ s.sessions.map Session.sessionId)

/-! ### The factory -/

private theorem factory_ok {s : Store} {now serverTick : Nat} {capture : Except String Capture} {b : BuiltSnapshot}
    (h : Writer.checkSize config (s.factory now serverTick capture).2 = .ok b) :
    ∃ c, capture = .ok c ∧ Builds config s c ∧ ∀ player, player ∈ b.players ↔ Present s now c player := by
  cases capture with
  | error message => cases h
  | ok c =>
    refine ⟨c, rfl, ?_⟩
    simp only [factory, Writer.checkSize] at h
    by_cases hepoch : s.roomEpoch < 0
    · rw [if_pos hepoch] at h
      cases h
    · rw [if_neg hepoch] at h
      cases henvelope : c.envelope with
      | error message =>
        rw [henvelope] at h
        cases h
      | ok envelope =>
        obtain ⟨checksum, payloadBytes⟩ := envelope
        rw [henvelope] at h
        simp only [Except.map] at h
        split at h
        · cases h
        · rename_i hsize
          cases h
          refine ⟨⟨by omega, checksum, payloadBytes, henvelope, by omega⟩, fun player => ?_⟩
          obtain ⟨sessionId, state⟩ := player
          have hlive : (∃ session ∈ s.sessions, session.sessionId = sessionId ∧ c.states session.sessionId = state) ↔
              (∃ session ∈ s.sessions, session.sessionId = sessionId) ∧ c.states sessionId = state := by
            constructor
            · rintro ⟨session, hm, rfl, hstate⟩
              exact ⟨⟨session, hm, rfl⟩, hstate⟩
            · rintro ⟨⟨session, hm, rfl⟩, hstate⟩
              exact ⟨session, hm, rfl, hstate⟩
          unfold Present
          by_cases hopen : now < s.pendingRestoreUntil
          · simp [hopen, hlive]
          · simp [hopen, hlive]

private theorem factory_builds {s : Store} (now serverTick : Nat) {c : Capture} (h : Builds config s c) :
    ∃ b, Writer.checkSize config (s.factory now serverTick (.ok c)).2 = .ok b := by
  obtain ⟨hepoch, checksum, payloadBytes, henvelope, hsize⟩ := h
  simp only [factory, Writer.checkSize]
  rw [if_neg (by omega), henvelope]
  simp only [Except.map]
  rw [if_neg (by omega)]
  exact ⟨_, rfl⟩

private theorem recordBuild_written (config : SnapshotRuntimeConfig) (room : Room) (s : Store) (now : Nat) (build : Except String BuiltSnapshot) :
    (∃ b, Writer.checkSize config build = .ok b ∧ (s.recordBuild config room now build).1.written =
      room.written ++ [{ view := b.toSnapshotView, owed := s.owedNow now }]) ∨
    ((∀ b, Writer.checkSize config build ≠ .ok b) ∧ (s.recordBuild config room now build).1.written = room.written) := by
  unfold recordBuild
  split
  · exact Or.inl ⟨_, ‹_›, rfl⟩
  · rename_i hmessage
    exact Or.inr ⟨fun b hb => (by rw [hmessage] at hb; cases hb), rfl⟩

/-- What a factory leaves on record. -/
private theorem factory_written (config : SnapshotRuntimeConfig) (room : Room) (s : Store) (now serverTick : Nat) (capture : Except String Capture) :
    (∃ c v, capture = .ok c ∧ Builds config s c ∧ (∀ player, player ∈ v.players ↔ Present s now c player) ∧
      ((s.factory now serverTick capture).1.recordBuild config room now (s.factory now serverTick capture).2).1.written =
        room.written ++ [{ view := v, owed := s.owedNow now }]) ∨
    ((∀ c, capture = .ok c → ¬Builds config s c) ∧
      ((s.factory now serverTick capture).1.recordBuild config room now (s.factory now serverTick capture).2).1.written =
        room.written) := by
  have howed : (s.factory now serverTick capture).1.owedNow now = s.owedNow now := by
    obtain ⟨_, _, heq⟩ := s.factory_eq now serverTick capture
    rw [heq]
    rfl
  rcases recordBuild_written config room (s.factory now serverTick capture).1 now
    (s.factory now serverTick capture).2 with ⟨b, hb, heq⟩ | ⟨hnone, heq⟩
  · obtain ⟨c, hc, hbuilds, hplayers⟩ := factory_ok hb
    rw [howed] at heq
    exact Or.inl ⟨c, b.toSnapshotView, hc, hbuilds, hplayers, heq⟩
  · refine Or.inr ⟨fun c hc hbuilds => ?_, heq⟩
    subst hc
    obtain ⟨b, hb⟩ := factory_builds now serverTick hbuilds
    exact hnone b hb

/-! ### The steps that write -/

/-- The step takes no capture that becomes a snapshot. -/
def WritesNothing (config : SnapshotRuntimeConfig) (s : Store) (e : StoreEvent) : Prop :=
  ∀ now c, s.capturing e = some (now, c) → ¬Builds config s c

private theorem save_written {room room' : Room} {s s' : Store} {now serverTick : Nat} {capture : Except String Capture}
    (h : s.save config room now serverTick capture = some (room', s')) :
    (room'.written = room.written ∧ WritesNothing config s (.saving (.save now serverTick capture))) ∨
    ∃ c v, s.capturing (.saving (.save now serverTick capture)) = some (now, c) ∧ Builds config s c ∧
      (∀ player, player ∈ v.players ↔ Present s now c player) ∧
      room'.written = room.written ++ [{ view := v, owed := s.owedNow now }] := by
  unfold save at h
  split at h
  · cases h
  dsimp only at h
  split at h
  · rename_i hbusy
    obtain ⟨t, -, h⟩ := Option.map_eq_some_iff.1 h
    cases h
    refine Or.inl ⟨rfl, fun now' c hc => ?_⟩
    cases capture with
    | error message => cases hc
    | ok c' =>
      simp only [capturing] at hc
      rw [if_pos hbusy] at hc
      cases hc
  · rename_i hbusy
    obtain ⟨t, -, h⟩ := Option.map_eq_some_iff.1 h
    cases h
    rcases factory_written config room { s with requestTicks := s.requestTicks ++ [serverTick] } now serverTick
      capture with ⟨c, v, rfl, hbuilds, hplayers, heq⟩ | ⟨hnone, heq⟩
    · refine Or.inr ⟨c, v, ?_, hbuilds, hplayers, heq⟩
      simp only [capturing]
      rw [if_neg hbusy]
    · refine Or.inl ⟨heq, fun now' c hc => ?_⟩
      cases capture with
      | error message => cases hc
      | ok c' =>
        simp only [capturing] at hc
        rw [if_neg hbusy] at hc
        cases hc
        exact hnone c rfl

private theorem exitCheck_written {room room' : Room} {s s' : Store} {now : Nat} {capture : Except String Capture}
    (h : s.exitCheck config room now capture = some (room', s')) :
    (room'.written = room.written ∧ WritesNothing config s (.saving (.exitCheck now capture))) ∨
    ∃ c v, s.capturing (.saving (.exitCheck now capture)) = some (now, c) ∧ Builds config s c ∧
      (∀ player, player ∈ v.players ↔ Present s now c player) ∧
      room'.written = room.written ++ [{ view := v, owed := s.owedNow now }] := by
  have hquiet : now < s.writer.circuitOpenUntil ∨ s.writer.pending.isNone = true →
      WritesNothing config s (.saving (.exitCheck now capture)) := by
    intro hbusy now' c hc
    cases capture with
    | error message => cases hc
    | ok c' =>
      simp only [capturing] at hc
      rw [if_pos hbusy] at hc
      cases hc
  unfold exitCheck at h
  split at h
  · rename_i task htask
    split at h
    · rename_i hcircuit
      obtain ⟨t, -, h⟩ := Option.map_eq_some_iff.1 h
      cases h
      exact Or.inl ⟨rfl, hquiet (Or.inl hcircuit)⟩
    · rename_i hcircuit
      have hidle : ¬(now < s.writer.circuitOpenUntil ∨ s.writer.pending.isNone = true) := by
        rw [htask]
        simpa using hcircuit
      obtain ⟨t, -, h⟩ := Option.map_eq_some_iff.1 h
      cases h
      rcases factory_written config room s now (s.requestTicks.getD task.request 0) capture with
        ⟨c, v, rfl, hbuilds, hplayers, heq⟩ | ⟨hnone, heq⟩
      · refine Or.inr ⟨c, v, ?_, hbuilds, hplayers, heq⟩
        simp only [capturing]
        rw [if_neg hidle]
      · refine Or.inl ⟨heq, fun now' c hc => ?_⟩
        cases capture with
        | error message => cases hc
        | ok c' =>
          simp only [capturing] at hc
          rw [if_neg hidle] at hc
          cases hc
          exact hnone c rfl
  · rename_i hnone
    obtain ⟨t, -, h⟩ := Option.map_eq_some_iff.1 h
    cases h
    refine Or.inl ⟨rfl, hquiet (Or.inr ?_)⟩
    rw [hnone]
    rfl

/-- A step writes down the snapshot of its capture, with the players it lists and those still to come. -/
theorem step_written {room room' : Room} {i : Nat} {s s' : Store} {e : StoreEvent}
    (h : s.step config room i e = some (room', s')) :
    (room'.written = room.written ∧ WritesNothing config s e) ∨
    ∃ now c v, s.capturing e = some (now, c) ∧ Builds config s c ∧
      (∀ player, player ∈ v.players ↔ Present s now c player) ∧
      room'.written = room.written ++ [{ view := v, owed := s.owedNow now }] := by
  have hnothing : ∀ {e : StoreEvent}, s.capturing e = none → WritesNothing config s e := by
    intro e he now c hc
    rw [he] at hc
    cases hc
  cases e with
  | authority e =>
    simp only [Store.step] at h
    split at h
    · exact Or.inl ⟨(authorityStep_frame h).written, hnothing rfl⟩
    · cases h
  | session e =>
    simp only [Store.step] at h
    split at h <;> cases h
    exact Or.inl ⟨rfl, hnothing rfl⟩
  | handoffStatus now =>
    simp only [Store.step] at h
    split at h <;> cases h
    exact Or.inl ⟨rfl, hnothing rfl⟩
  | saving e =>
    simp only [Store.step] at h
    split at h
    · cases e with
      | save now serverTick capture =>
        rcases save_written h with hnone | ⟨c, v, hc, hbuilds, hplayers, heq⟩
        · exact Or.inl hnone
        · exact Or.inr ⟨now, c, v, hc, hbuilds, hplayers, heq⟩
      | exitCheck now capture =>
        rcases exitCheck_written h with hnone | ⟨c, v, hc, hbuilds, hplayers, heq⟩
        · exact Or.inl hnone
        · exact Or.inr ⟨now, c, v, hc, hbuilds, hplayers, heq⟩
      | saveSet =>
        simp only [savingStep, saveSet] at h
        split at h <;> cases h
        refine Or.inl ⟨?_, hnothing rfl⟩
        unfold Room.saveSnapshot
        split <;> rfl
      | appendSet =>
        simp only [savingStep, appendSet] at h
        split at h <;> cases h
        refine Or.inl ⟨?_, hnothing rfl⟩
        unfold Room.append
        split <;> rfl
      | _ =>
        obtain ⟨-, rfl⟩ := keeping_eq_some.1 h
        exact Or.inl ⟨rfl, hnothing rfl⟩
    · cases h

end Store

namespace World

open Machine

/-- Every snapshot written by an authority lists each seeded player that was still to come, in its seeded state. -/
def PlayersKept (w : World) : Prop := ∀ r ∈ w.room.written, ∀ player ∈ r.owed, player ∈ r.view.players

/-- Where an authority captures a snapshot, each seeded player that is still to come has an object of that very state in
the game, or is among the players of an active start that are still to come. -/
def NoneAbsent (config : SnapshotRuntimeConfig) (w : World) : WorldEvent → Prop
  | .at i e => ∀ s now c, w.stores[i]? = some s → s.capturing e = some (now, c) → s.Builds config c →
      ∀ player ∈ s.owedNow now, s.Present now c player
  | _ => True

private theorem playersKept_step {config : SnapshotRuntimeConfig} {w w' : World} {event : WorldEvent}
    (h : w.PlayersKept) (hs : w.step config event = some w') : w'.PlayersKept ↔ NoneAbsent config w event := by
  rcases step_cases hs with ⟨env, rfl, rfl⟩ | ⟨i, s, rfl, -, rfl⟩ | ⟨rfl, rfl⟩ | ⟨i, e, s, room', s', rfl, hi, hstep, rfl⟩
  · exact ⟨fun _ => trivial, fun _ => h⟩
  · exact ⟨fun _ => trivial, fun _ => h⟩
  · exact ⟨fun _ => trivial, fun _ => h⟩
  unfold PlayersKept NoneAbsent
  dsimp only
  rcases Store.step_written hstep with ⟨heq, hnone⟩ | ⟨now, c, v, hc, hbuilds, hplayers, heq⟩
  · rw [heq]
    refine ⟨fun _ t now c ht hc hb => ?_, fun _ => h⟩
    rw [hi] at ht
    cases ht
    exact absurd hb (hnone now c hc)
  · rw [heq]
    constructor
    · intro hkept t now' c' ht hc' _ player hp
      rw [hi] at ht
      cases ht
      rw [hc] at hc'
      cases hc'
      exact (hplayers player).1 (hkept _ (List.mem_append_right _ (List.mem_singleton.2 rfl)) player hp)
    · intro hpresent r hr player hp
      rcases List.mem_append.1 hr with hr | hr
      · exact h r hr player hp
      · rw [List.mem_singleton.1 hr] at hp ⊢
        exact (hplayers player).2 (hpresent s now c hi hc hbuilds player hp)

end World

end Opsia
