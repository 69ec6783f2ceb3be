import Opsia.Store.Frames
import Opsia.Snapshot.Builds

/-!
# What a store has captured and stored

The history of a store agrees with its writer: the state last materialized is the snapshot of one execution, and when it
has been acknowledged the metrics carry its tick and checksum (`Captured`).  What is on record as stored is stored
(`Synced`, `Backed`).  All of this holds in every run (`consistent`).
-/

namespace Opsia

namespace Store

variable {config : SnapshotRuntimeConfig}

/-- The history of the captures agrees with the writer. -/
structure Captured (config : SnapshotRuntimeConfig) (s : Store) : Prop where
  sound : s.writer.Sound config
  capture : ∀ i, s.capturedIn = some i → ∃ b r, s.writer.outcomes[i]? = some (some b, r) ∧
    s.materialized = some b.toSnapshotView ∧ s.writer.metrics.serverTick = b.serverTick ∧
    (∀ (j : Nat) o, j ≠ i → s.writer.outcomes[j]? = some o → o.2.isSome) ∧
    (s.acknowledged = true → r.isSome ∧ s.writer.metrics.lastChecksum = some b.checksum)
  acknowledged : s.acknowledged = true → s.capturedIn.isSome
  persisted : ∀ p, s.persisting = some p → ∃ b r, s.writer.outcomes[p.execution]? = some (some b, r) ∧
    p.view = b.toSnapshotView

/-- What the state last materialized is known to be stored as. -/
def Synced (room : Room) (s : Store) : Prop :=
  ∀ n, s.syncedAt = some n → ∃ v, s.materialized = some v ∧ 0 < n ∧ room.stored[n - 1]? = some v

/-- A write that is past its save has stored its snapshot. -/
def Backed (room : Room) (s : Store) : Prop :=
  ∀ p, s.persisting = some p → (p.stage = .saving (.answered true) ∨ ∃ base call, p.stage = .appending base call) →
    p.view ∈ room.stored

theorem Synced.mono {room room' : Room} {s : Store} (h : Synced room s) (hp : room.stored <+: room'.stored) :
    Synced room' s := by
  intro n hn
  obtain ⟨v, hv, hpos, hstored⟩ := h n hn
  obtain ⟨t, ht⟩ := hp
  refine ⟨v, hv, hpos, ?_⟩
  rw [← ht, List.getElem?_append_left (List.getElem?_eq_some_iff.1 hstored).1]
  exact hstored

theorem Backed.mono {room room' : Room} {s : Store} (h : Backed room s) (hp : room.stored <+: room'.stored) :
    Backed room' s := fun p hs hstage => hp.subset (h p hs hstage)

/-- What is on record as the newest is the newest. -/
theorem Synced.newest {room : Room} {s : Store} (h : Synced room s) (hn : s.syncedAt = some room.stored.length) :
    ∃ v, s.materialized = some v ∧ room.snapshot = some v := by
  obtain ⟨v, hv, -, hstored⟩ := h _ hn
  refine ⟨v, hv, ?_⟩
  unfold Room.snapshot
  rw [List.getLast?_eq_getElem?]
  exact hstored

/-! ### Captured -/

theorem Captured.congr {s s' : Store} (h : Captured config s) (hw : s'.writer = s.writer)
    (hc : s'.capturedIn = s.capturedIn) (hm : s'.materialized = s.materialized) (ha : s'.acknowledged = s.acknowledged)
    (hp : ∀ p, s'.persisting = some p → ∃ q, s.persisting = some q ∧ p.execution = q.execution ∧ p.view = q.view) :
    Captured config s' := by
  refine ⟨by rw [hw]; exact h.sound, ?_, ?_, ?_⟩
  · rw [hw, hc, hm, ha]
    exact h.capture
  · rw [ha, hc]
    exact h.acknowledged
  · intro p hps
    obtain ⟨q, hq, he, hv⟩ := hp p hps
    rw [hw, he, hv]
    exact h.persisted q hq

/-- The game now holds something else than a capture, or it is not known what. -/
theorem Captured.forget {s s' : Store} (h : Captured config s) (hw : s'.writer = s.writer) (hc : s'.capturedIn = none)
    (ha : s'.acknowledged = false) (hp : s'.persisting = s.persisting) : Captured config s' := by
  refine ⟨by rw [hw]; exact h.sound, ?_, ?_, ?_⟩
  · intro i hi
    rw [hc] at hi
    cases hi
  · intro hack
    rw [ha] at hack
    cases hack
  · rw [hw, hp]
    exact h.persisted

private theorem Captured.unchanged {s : Store} {w : Writer} {event : WriterEvent} (h : Captured config s)
    (hs : s.writer.step config event = some w) (hu : s.writer.Unchanged w) : Captured config { s with writer := w } := by
  refine ⟨h.sound.step hs, ?_, h.acknowledged, ?_⟩
  · intro i hi
    obtain ⟨b, r, ho, hm, ht, hothers, hack⟩ := h.capture i hi
    refine ⟨b, r, by rw [hu.outcomes]; exact ho, hm, hu.serverTick.trans ht, ?_, fun ha => ?_⟩
    · rw [hu.outcomes]
      exact hothers
    · exact ⟨(hack ha).1, hu.lastChecksum.trans (hack ha).2⟩
  · intro p hp
    rw [hu.outcomes]
    exact h.persisted p hp

private theorem getElem?_append_one {α : Type} {l : List α} {a o : α} {j : Nat} (h : (l ++ [a])[j]? = some o) :
    l[j]? = some o ∨ (j = l.length ∧ o = a) := by
  rcases Nat.lt_trichotomy j l.length with hlt | rfl | hgt
  · rw [List.getElem?_append_left hlt] at h
    exact Or.inl h
  · rw [List.getElem?_concat_length] at h
    cases h
    exact Or.inr ⟨rfl, rfl⟩
  · rw [List.getElem?_eq_none (by simp; omega)] at h
    cases h

/-- A round starts with what the factory has built. -/
private theorem Captured.round {room : Room} {s : Store} {w : Writer} {now : Nat} {build : Except String BuiltSnapshot}
    {event : WriterEvent} (h : Captured config s) (hs : s.writer.step config event = some w)
    (hr : Writer.Round config build s.writer w) :
    Captured config { (s.recordBuild config room now build).2 with writer := w } := by
  have hlen : s.writer.outcomes.length = s.writer.executions.length := by simp [Writer.outcomes]
  have hold : ∀ (j : Nat) o, s.writer.outcomes[j]? = some o → w.outcomes[j]? = some o := by
    intro j o hj
    have hlt := (List.getElem?_eq_some_iff.1 hj).1
    rcases hr.built with ⟨b, -, ho, -⟩ | ⟨message, r, -, ho, -⟩ <;> rw [ho, List.getElem?_append_left hlt] <;> exact hj
  have hpersisted : ∀ p, s.persisting = some p → ∃ b r, w.outcomes[p.execution]? = some (some b, r) ∧
      p.view = b.toSnapshotView := by
    intro p hp
    obtain ⟨b, r, ho, hv⟩ := h.persisted p hp
    exact ⟨b, r, hold _ _ ho, hv⟩
  have hsound := h.sound.step hs
  unfold recordBuild
  rcases hr.built with ⟨b, hb, ho, ht⟩ | ⟨message, r, hb, ho, ht⟩
  · rw [hb]
    refine ⟨hsound, ?_, fun ha => (by cases ha), hpersisted⟩
    intro i hi
    cases hi
    refine ⟨b, none, ?_, rfl, ht, ?_, fun ha => (by cases ha)⟩
    · rw [ho, ← hlen, List.getElem?_concat_length]
    · intro j o hj hjo
      rw [ho] at hjo
      rcases getElem?_append_one hjo with hjo | ⟨rfl, -⟩
      · exact hr.decided o (List.mem_of_getElem? hjo)
      · exact absurd hlen hj
  · rw [hb]
    refine ⟨hsound, ?_, h.acknowledged, hpersisted⟩
    intro i hi
    obtain ⟨c, q, hc, hm, htick, hothers, hack⟩ := h.capture i hi
    refine ⟨c, q, hold _ _ hc, hm, ht.trans htick, ?_, fun ha => ⟨(hack ha).1, hr.lastChecksum.trans (hack ha).2⟩⟩
    intro j o hj hjo
    rw [ho] at hjo
    rcases getElem?_append_one hjo with hjo | ⟨-, rfl⟩
    · exact hothers j o hj hjo
    · rfl

private theorem Captured.factory {s : Store} (h : Captured config s) (now serverTick : Nat)
    (capture : Except String Capture) : Captured config (s.factory now serverTick capture).1 := by
  obtain ⟨_, _, he⟩ := s.factory_eq now serverTick capture
  rw [he]
  exact h.congr rfl rfl rfl rfl fun p hp => ⟨p, hp, rfl, rfl⟩

private theorem writer_of_factory (s : Store) (now serverTick : Nat) (capture : Except String Capture) :
    (s.factory now serverTick capture).1.writer = s.writer := by
  obtain ⟨_, _, he⟩ := s.factory_eq now serverTick capture
  rw [he]

private theorem writer_of_recordBuild (room : Room) (s : Store) (now : Nat) (build : Except String BuiltSnapshot) :
    (s.recordBuild config room now build).2.writer = s.writer := by
  unfold recordBuild
  split <;> rfl

private theorem Captured.decide {s s' : Store} {i now : Nat} (h : Captured config s)
    (hs : s.decideWrite config i now = some s') : Captured config s' := by
  obtain ⟨t, ht, rfl⟩ := Option.map_eq_some_iff.1 hs
  obtain ⟨w, hw, rfl⟩ := writerStep_eq_some.1 ht
  obtain ⟨built, r, hi, ho, htick, hsum⟩ := Writer.decide_outcomes hw
  have hlt := (List.getElem?_eq_some_iff.1 hi).1
  refine ⟨h.sound.step hw, ?_, ?_, ?_⟩
  · intro j hj
    obtain ⟨b, q, hb, hm, hbt, hothers, hack⟩ := h.capture j hj
    -- only the captured execution can still be undecided
    obtain rfl : i = j := by
      by_contra hne
      have := hothers i _ hne hi
      cases this
    rw [hb] at hi
    cases hi
    refine ⟨b, some r, ?_, hm, htick.trans hbt, ?_, ?_⟩
    · rw [ho, List.getElem?_set_self hlt]
    · intro k o hk hko
      rw [ho, List.getElem?_set_ne (Ne.symm hk)] at hko
      exact hothers k o hk hko
    · intro ha
      refine ⟨rfl, ?_⟩
      rcases Bool.or_eq_true_iff.1 ha with ha | ha
      · have := (hack ha).1
        cases this
      · have hsaved := (of_decide_eq_true ha).2
        have hres : (w.executions[i]?.bind Execution.result) = some r := by
          have hwi : w.outcomes[i]? = some (some b, some r) := by rw [ho, List.getElem?_set_self hlt]
          unfold Writer.outcomes at hwi
          rw [List.getElem?_map] at hwi
          obtain ⟨e, he, heq⟩ := Option.map_eq_some_iff.1 hwi
          rw [he, Option.bind_some]
          exact (Prod.mk.injEq .. ▸ heq).2
        unfold Saved at hsaved
        rw [show ({ s with writer := w } : Store).writer = w from rfl, hres, Option.map_some, Option.some.injEq] at hsaved
        rw [if_pos hsaved] at hsum
        exact hsum
  · intro ha
    rcases Bool.or_eq_true_iff.1 ha with ha | ha
    · exact h.acknowledged ha
    · rw [show ({ s with writer := w } : Store).capturedIn = s.capturedIn from rfl] at ha
      have := (of_decide_eq_true ha).1
      show s.capturedIn.isSome
      rw [this]
      rfl
  · intro p hp
    obtain ⟨b, q, hb, hv⟩ := h.persisted p hp
    by_cases hip : i = p.execution
    · rw [← hip, hi] at hb
      cases hb
      exact ⟨b, some r, by rw [← hip, ho, List.getElem?_set_self hlt], hv⟩
    · exact ⟨b, q, by rw [ho, List.getElem?_set_ne hip]; exact hb, hv⟩

private theorem Captured.settle {s s' : Store} {execution : Nat} {outcome : Except String Unit} (h : Captured config s)
    (hs : s.settleWrite config execution outcome = some s') : Captured config s' := by
  obtain ⟨w, hw, rfl⟩ := writerStep_eq_some.1 hs
  refine Captured.unchanged (h.congr rfl rfl rfl rfl ?_) hw (Writer.step_unchanged hw trivial)
  intro p hp
  cases hp

private theorem Captured.step {s s' : Store} {event : WriterEvent} (h : Captured config s)
    (hs : s.writerStep config event = some s')
    (hu : ∀ w, s.writer.step config event = some w → s.writer.Unchanged w) : Captured config s' := by
  obtain ⟨w, hw, rfl⟩ := writerStep_eq_some.1 hs
  exact h.unchanged hw (hu w hw)

/-- A build whose round then starts. -/
private theorem Captured.build {room : Room} {s t : Store} {now serverTick : Nat} {capture : Except String Capture}
    {event : WriterEvent} (h : Captured config s)
    (hs : ((s.factory now serverTick capture).1.recordBuild config room now (s.factory now serverTick capture).2).2.writerStep
      config event = some t)
    (hr : ∀ w, s.writer.step config event = some w →
      Writer.Round config (s.factory now serverTick capture).2 s.writer w) : Captured config t := by
  obtain ⟨w, hw, rfl⟩ := writerStep_eq_some.1 hs
  rw [writer_of_recordBuild, writer_of_factory] at hw
  have hf := h.factory now serverTick capture
  refine hf.round (by rw [writer_of_factory]; exact hw) ?_
  rw [writer_of_factory]
  exact hr w hw

/-- Saving keeps the history in agreement with the writer. -/
theorem captured_saving {room room' : Room} {s s' : Store} {event : SaveEvent} (h : Captured config s)
    (hs : s.savingStep config room event = some (room', s')) : Captured config s' := by
  cases event with
  | save now serverTick capture =>
    simp only [savingStep, save] at hs
    split at hs
    · cases hs
    have hticks : Captured config { s with requestTicks := s.requestTicks ++ [serverTick] } :=
      h.congr rfl rfl rfl rfl fun p hp => ⟨p, hp, rfl, rfl⟩
    split at hs
    · rename_i hwait
      obtain ⟨t, ht, hs⟩ := Option.map_eq_some_iff.1 hs
      cases hs
      refine hticks.step ht fun w hw => ?_
      cases hw
      exact Writer.request_unchanged hwait
    · rename_i hidle
      push Not at hidle
      obtain ⟨t, ht, hs⟩ := Option.map_eq_some_iff.1 hs
      cases hs
      refine hticks.build ht fun w hw => ?_
      cases hw
      exact Writer.request_round h.sound _ (by omega) hidle.2
  | exitCheck now capture =>
    simp only [savingStep, exitCheck] at hs
    split at hs
    · rename_i task htask
      split at hs
      · rename_i hnow
        obtain ⟨t, ht, hs⟩ := Option.map_eq_some_iff.1 hs
        cases hs
        refine h.step ht fun w hw => ?_
        have hu := Writer.exitCheck_round h.sound hw
        rwa [if_neg (by simp [hnow])] at hu
      · rename_i hnow
        obtain ⟨t, ht, hs⟩ := Option.map_eq_some_iff.1 hs
        cases hs
        refine h.build ht fun w hw => ?_
        have hr := Writer.exitCheck_round h.sound hw
        rwa [if_pos (by simp [htask, hnow])] at hr
    · rename_i hnone
      obtain ⟨t, ht, hs⟩ := Option.map_eq_some_iff.1 hs
      cases hs
      refine h.step ht fun w hw => ?_
      have hu := Writer.exitCheck_round h.sound hw
      rwa [if_neg (by simp [hnone])] at hu
  | timer i | deliver | finish =>
    obtain ⟨hk, rfl⟩ := keeping_eq_some.1 hs
    exact h.step hk fun w hw => Writer.step_unchanged hw trivial
  | decide i now =>
    obtain ⟨hk, rfl⟩ := keeping_eq_some.1 hs
    exact h.decide hk
  | writeStart i =>
    obtain ⟨hk, rfl⟩ := keeping_eq_some.1 hs
    unfold writeStart at hk
    split at hk
    · rename_i b hb
      obtain ⟨t, ht, rfl⟩ := Option.map_eq_some_iff.1 hk
      have hc := h.step ht fun w hw => Writer.step_unchanged hw trivial
      obtain ⟨w, hw, rfl⟩ := writerStep_eq_some.1 ht
      refine ⟨hc.sound, hc.capture, hc.acknowledged, ?_⟩
      intro p hp
      cases hp
      have hu : s.writer.Unchanged w := Writer.step_unchanged hw trivial
      obtain ⟨e, he, heb⟩ := Option.bind_eq_some_iff.1 hb
      refine ⟨b, e.result, ?_, rfl⟩
      rw [hu.outcomes]
      unfold Writer.outcomes
      rw [List.getElem?_map, he, Option.map_some, heb]
    · cases hk
  | saveSet =>
    simp only [savingStep, saveSet] at hs
    split at hs
    · rename_i execution view hp
      cases hs
      refine h.congr rfl rfl rfl rfl fun p hp' => ?_
      cases hp'
      exact ⟨_, hp, rfl, rfl⟩
    · cases hs
  | saveAnswered lost result =>
    obtain ⟨hk, rfl⟩ := keeping_eq_some.1 hs
    unfold saveAnswered at hk
    split at hk
    · rename_i execution view call hp
      split at hk
      · split at hk
        · exact h.settle hk
        · split at hk
          · cases hk
            refine h.congr rfl rfl rfl rfl fun p hp' => ?_
            cases hp'
            exact ⟨_, hp, rfl, rfl⟩
          · exact h.settle hk
        · exact (h.congr rfl rfl rfl rfl fun p hp => ⟨p, hp, rfl, rfl⟩ :
            Captured config { s with lastJournalEnvelope := some view }).settle hk
      · exact h.settle hk
      · exact h.settle hk
      · cases hk
    · cases hk
  | appendSet =>
    simp only [savingStep, appendSet] at hs
    split at hs
    · rename_i execution view base hp
      cases hs
      refine h.congr rfl rfl rfl rfl fun p hp' => ?_
      cases hp'
      exact ⟨_, hp, rfl, rfl⟩
    · cases hs
  | appendAnswered lost =>
    obtain ⟨hk, rfl⟩ := keeping_eq_some.1 hs
    unfold appendAnswered at hk
    split at hk
    · rename_i execution view base call hp
      split at hk
      · exact (h.congr rfl rfl rfl rfl fun p hp => ⟨p, hp, rfl, rfl⟩ :
          Captured config { s with lastJournalEnvelope := some view }).settle hk
      · exact h.settle hk
      · exact h.settle hk
      · cases hk
    · cases hk

/-! ### Stored -/

private theorem saveSnapshot_stored (room : Room) (owner : String) (v : SnapshotView) :
    ((room.saveSnapshot owner v).2 = true ∧ (room.saveSnapshot owner v).1.stored = room.stored ++ [v]) ∨
      ((room.saveSnapshot owner v).2 = false ∧ (room.saveSnapshot owner v).1.stored = room.stored) := by
  unfold Room.saveSnapshot
  split
  · exact Or.inl ⟨rfl, rfl⟩
  · exact Or.inr ⟨rfl, rfl⟩

/-- Where the writer side touches neither the room nor what is on record as stored. -/
private theorem recordBuild_synced (room : Room) (s : Store) (now : Nat) (build : Except String BuiltSnapshot)
    (h : Synced room s) : Synced room (s.recordBuild config room now build).2 := by
  unfold recordBuild
  split
  · intro n hn
    cases hn
  · exact h

theorem recordBuild_room (room : Room) (s : Store) (now : Nat) (build : Except String BuiltSnapshot) :
    (s.recordBuild config room now build).1.stored = room.stored ∧
      (s.recordBuild config room now build).1.journal = room.journal := by
  unfold recordBuild
  split <;> exact ⟨rfl, rfl⟩

theorem recordBuild_persisting (room : Room) (s : Store) (now : Nat) (build : Except String BuiltSnapshot) :
    (s.recordBuild config room now build).2.persisting = s.persisting := by
  unfold recordBuild
  split <;> rfl

/-- What saving does to the snapshots and the journal, and to what is on record about them. -/
structure StoredStep (room : Room) (s : Store) (room' : Room) (s' : Store) : Prop where
  extended : room.stored <+: room'.stored
  synced : Synced room s → Synced room' s'
  backed : Backed room s → Backed room' s'
  journal : Backed room s → ∀ d ∈ room'.journal, d ∈ room.journal ∨ d.target ∈ room'.stored

private theorem StoredStep.of_eq {room room' : Room} {s s' : Store} (hroom : room'.stored = room.stored)
    (hjournal : room'.journal = room.journal) (hm : s'.materialized = s.materialized) (hs : s'.syncedAt = s.syncedAt)
    (hp : s'.persisting = s.persisting ∨ s'.persisting = none) : StoredStep room s room' s' where
  extended := by rw [hroom]
  synced := by
    unfold Synced
    rw [hroom, hm, hs]
    exact id
  backed := by
    intro h p hps
    rw [hroom]
    rcases hp with hp | hp
    · exact h p (hp ▸ hps)
    · rw [hp] at hps
      cases hps
  journal := fun _ d hd => Or.inl (hjournal ▸ hd)

private theorem StoredStep.settle {room : Room} {s s' : Store} {execution : Nat} {outcome : Except String Unit}
    (hs : s.settleWrite config execution outcome = some s') : StoredStep room s room s' := by
  obtain ⟨w, hw, rfl⟩ := writerStep_eq_some.1 hs
  exact .of_eq rfl rfl rfl rfl (Or.inr rfl)

private theorem StoredStep.writer {room : Room} {s s' : Store} {event : WriterEvent}
    (hs : s.writerStep config event = some s') : StoredStep room s room s' := by
  obtain ⟨w, hw, rfl⟩ := writerStep_eq_some.1 hs
  exact .of_eq rfl rfl rfl rfl (Or.inl rfl)

private theorem StoredStep.build {room : Room} {s t : Store} {now serverTick : Nat} {capture : Except String Capture}
    {event : WriterEvent}
    (hs : ((s.factory now serverTick capture).1.recordBuild config room now (s.factory now serverTick capture).2).2.writerStep
      config event = some t) :
    StoredStep room s
      ((s.factory now serverTick capture).1.recordBuild config room now (s.factory now serverTick capture).2).1 t := by
  obtain ⟨w, hw, rfl⟩ := writerStep_eq_some.1 hs
  obtain ⟨_, _, he⟩ := s.factory_eq now serverTick capture
  obtain ⟨hstored, hjournal⟩ := @recordBuild_room config room (s.factory now serverTick capture).1 now
    (s.factory now serverTick capture).2
  have hp := @recordBuild_persisting config room (s.factory now serverTick capture).1 now
    (s.factory now serverTick capture).2
  refine ⟨by rw [hstored], fun h => ?_, fun h => ?_, fun _ d hd => Or.inl (hjournal ▸ hd)⟩
  · have hf : Synced room (s.factory now serverTick capture).1 := by
      rw [he]
      exact h
    have hb := @recordBuild_synced config room _ now (s.factory now serverTick capture).2 hf
    unfold Synced
    rw [hstored]
    exact hb
  · intro p hps hstage
    rw [hstored]
    refine h p ?_ hstage
    have hfp : (s.factory now serverTick capture).1.persisting = s.persisting := by rw [he]
    rw [← hfp, ← hp]
    exact hps

theorem storedStep_saving {room room' : Room} {s s' : Store} {event : SaveEvent} (hc : Captured config s)
    (hs : s.savingStep config room event = some (room', s')) : StoredStep room s room' s' := by
  cases event with
  | save now serverTick capture =>
    simp only [savingStep, save] at hs
    split at hs
    · cases hs
    split at hs
    · obtain ⟨t, ht, hs⟩ := Option.map_eq_some_iff.1 hs
      cases hs
      have h : StoredStep room _ room s' := StoredStep.writer ht
      exact ⟨h.extended, h.synced, h.backed, h.journal⟩
    · obtain ⟨t, ht, hs⟩ := Option.map_eq_some_iff.1 hs
      cases hs
      have h := StoredStep.build ht
      exact ⟨h.extended, h.synced, h.backed, h.journal⟩
  | exitCheck now capture =>
    simp only [savingStep, exitCheck] at hs
    split at hs
    · split at hs
      · obtain ⟨t, ht, hs⟩ := Option.map_eq_some_iff.1 hs
        cases hs
        exact StoredStep.writer ht
      · obtain ⟨t, ht, hs⟩ := Option.map_eq_some_iff.1 hs
        cases hs
        exact StoredStep.build ht
    · obtain ⟨t, ht, hs⟩ := Option.map_eq_some_iff.1 hs
      cases hs
      exact StoredStep.writer ht
  | timer i | deliver | finish =>
    obtain ⟨hk, rfl⟩ := keeping_eq_some.1 hs
    exact StoredStep.writer hk
  | decide i now =>
    obtain ⟨hk, rfl⟩ := keeping_eq_some.1 hs
    obtain ⟨t, ht, rfl⟩ := Option.map_eq_some_iff.1 hk
    obtain ⟨w, hw, rfl⟩ := writerStep_eq_some.1 ht
    exact .of_eq rfl rfl rfl rfl (Or.inl rfl)
  | writeStart i =>
    obtain ⟨hk, rfl⟩ := keeping_eq_some.1 hs
    unfold writeStart at hk
    split at hk
    · obtain ⟨t, ht, rfl⟩ := Option.map_eq_some_iff.1 hk
      obtain ⟨w, hw, rfl⟩ := writerStep_eq_some.1 ht
      refine ⟨List.prefix_rfl, id, fun _ p hp hstage => ?_, fun _ d hd => Or.inl hd⟩
      cases hp
      rcases hstage with hstage | ⟨base, call, hstage⟩
      · have hcall : s.call = .answered true := PersistStage.saving.inj hstage
        unfold Store.call at hcall
        split at hcall <;> cases hcall
      · cases hstage
    · cases hk
  | saveSet =>
    simp only [savingStep, saveSet] at hs
    split at hs
    · rename_i execution view hp
      cases hs
      rcases saveSnapshot_stored room s.env.owner view with ⟨hok, hstored⟩ | ⟨hok, hstored⟩
      · refine ⟨by rw [hstored]; exact List.prefix_append .., ?_, ?_, ?_⟩
        · intro h n hn
          by_cases hcap : s.capturedIn = some execution
          · simp only [hok, hcap, and_self, if_true, Option.some.injEq] at hn
            obtain ⟨b, r, ho, hm, -⟩ := hc.capture _ hcap
            obtain ⟨b', r', ho', hv⟩ := hc.persisted _ hp
            rw [ho] at ho'
            cases ho'
            refine ⟨view, by rw [show view = b.toSnapshotView from hv]; exact hm, ?_, ?_⟩
            · rw [← hn, hstored]
              simp
            · rw [← hn, hstored]
              simp
          · simp only [hcap, and_false, if_false] at hn
            obtain ⟨v, hv, hpos, hat⟩ := h n hn
            refine ⟨v, hv, hpos, ?_⟩
            rw [hstored, List.getElem?_append_left (List.getElem?_eq_some_iff.1 hat).1]
            exact hat
        · intro h p hp' hstage
          cases hp'
          rw [hstored]
          simp
        · intro _ d hd
          have hj : (room.saveSnapshot s.env.owner view).1.journal = room.journal := by
            unfold Room.saveSnapshot
            split <;> rfl
          exact Or.inl (hj ▸ hd)
      · refine ⟨by rw [hstored], ?_, ?_, ?_⟩
        · intro h n hn
          simp only [hok, Bool.false_eq_true, false_and, if_false] at hn
          obtain ⟨v, hv, hpos, hat⟩ := h n hn
          exact ⟨v, hv, hpos, by rw [hstored]; exact hat⟩
        · intro h p hp' hstage
          cases hp'
          rcases hstage with hstage | ⟨base, call, hstage⟩
          · rw [hok] at hstage
            cases hstage
          · cases hstage
        · intro _ d hd
          have hj : (room.saveSnapshot s.env.owner view).1.journal = room.journal := by
            unfold Room.saveSnapshot
            split <;> rfl
          exact Or.inl (hj ▸ hd)
    · cases hs
  | saveAnswered lost result =>
    obtain ⟨hk, rfl⟩ := keeping_eq_some.1 hs
    unfold saveAnswered at hk
    split at hk
    · rename_i execution view call hp
      split at hk
      · rename_i hreply
        split at hk
        · exact StoredStep.settle hk
        · split at hk
          · cases hk
            refine ⟨List.prefix_rfl, id, fun h p hp' _ => ?_, fun _ d hd => Or.inl hd⟩
            cases hp'
            refine h { execution, view, stage := .saving call } hp (Or.inl ?_)
            rw [Call.eq_answered hreply]
          · exact StoredStep.settle hk
        · obtain ⟨w, hw, rfl⟩ := writerStep_eq_some.1 hk
          exact .of_eq rfl rfl rfl rfl (Or.inr rfl)
      · exact StoredStep.settle hk
      · exact StoredStep.settle hk
      · cases hk
    · cases hk
  | appendSet =>
    simp only [savingStep, appendSet] at hs
    split at hs
    · rename_i execution view base hp
      cases hs
      have hstored : (room.append s.env.owner { base, target := view }).1.stored = room.stored := by
        unfold Room.append
        split <;> rfl
      refine ⟨by rw [hstored], ?_, ?_, ?_⟩
      · intro h
        unfold Synced
        rw [hstored]
        exact h
      · intro h p hp' _
        cases hp'
        rw [hstored]
        exact h { execution, view, stage := .appending base .issued } hp (Or.inr ⟨_, _, rfl⟩)
      · intro h d hd
        have hview : view ∈ room.stored := h _ hp (Or.inr ⟨_, _, rfl⟩)
        unfold Room.append at hd ⊢
        split at hd
        · rcases List.mem_append.1 hd with hd | hd
          · exact Or.inl hd
          · rw [List.mem_singleton.1 hd]
            right
            split <;> exact hview
        · exact Or.inl hd
    · cases hs
  | appendAnswered lost =>
    obtain ⟨hk, rfl⟩ := keeping_eq_some.1 hs
    unfold appendAnswered at hk
    split at hk
    · split at hk
      · obtain ⟨w, hw, rfl⟩ := writerStep_eq_some.1 hk
        exact .of_eq rfl rfl rfl rfl (Or.inr rfl)
      · exact StoredStep.settle hk
      · exact StoredStep.settle hk
      · cases hk
    · cases hk

/-! ### The authority side -/

/-- The history of what the game holds: nothing new, or something that is not a capture. -/
structure HistoryStep (room : Room) (s s' : Store) : Prop where
  writer : s'.writer = s.writer
  persisting : s'.persisting = s.persisting
  held : (s'.materialized = s.materialized ∧ s'.capturedIn = s.capturedIn ∧ s'.acknowledged = s.acknowledged ∧
      s'.syncedAt = s.syncedAt) ∨
    (s'.capturedIn = none ∧ s'.acknowledged = false ∧ (s'.syncedAt = none ∨
      ∃ v, s'.materialized = some v ∧ room.snapshot = some v ∧ s'.syncedAt = some room.stored.length))

private theorem HistoryStep.same {room : Room} {s s' : Store} (hw : s'.writer = s.writer)
    (hp : s'.persisting = s.persisting) (hm : s'.materialized = s.materialized) (hc : s'.capturedIn = s.capturedIn)
    (ha : s'.acknowledged = s.acknowledged) (hs : s'.syncedAt = s.syncedAt) : HistoryStep room s s' :=
  ⟨hw, hp, Or.inl ⟨hm, hc, ha, hs⟩⟩

private theorem synced_if (room : Room) (v : SnapshotView) :
    (if room.snapshot = some v then some room.stored.length else none) = none ∨
      ∃ u, some v = some u ∧ room.snapshot = some u ∧
        (if room.snapshot = some v then some room.stored.length else none) = some room.stored.length := by
  by_cases h : room.snapshot = some v
  · exact Or.inr ⟨v, rfl, h, if_pos h⟩
  · exact Or.inl (if_neg h)

theorem captured_history {room : Room} {s s' : Store} (h : Captured config s) (hs : HistoryStep room s s') :
    Captured config s' := by
  rcases hs.held with ⟨hm, hc, ha, -⟩ | ⟨hc, ha, -⟩
  · exact h.congr hs.writer hc hm ha fun p hp => ⟨p, hs.persisting ▸ hp, rfl, rfl⟩
  · exact h.forget hs.writer hc ha hs.persisting

theorem synced_history {room : Room} {s s' : Store} (h : Synced room s) (hs : HistoryStep room s s') : Synced room s' := by
  intro n hn
  rcases hs.held with ⟨hm, -, -, hsync⟩ | ⟨-, -, hsync | ⟨v, hm, hroom, hsync⟩⟩
  · rw [hm]
    exact h n (hsync ▸ hn)
  · rw [hsync] at hn
    cases hn
  · rw [hsync] at hn
    cases hn
    unfold Room.snapshot at hroom
    have hlast := hroom
    rw [List.getLast?_eq_getElem?] at hlast
    have hlt := (List.getElem?_eq_some_iff.1 hlast).1
    exact ⟨v, hm, by omega, hlast⟩

private theorem applyCandidateEnvelope_history (room : Room) (s : Store) (v : SnapshotView) (now : Nat)
    (restore : Except String Unit) : HistoryStep room s (s.applyCandidateEnvelope room v now restore).1 := by
  unfold applyCandidateEnvelope
  split
  · exact .same rfl rfl rfl rfl rfl rfl
  · cases restore with
    | error message => exact ⟨rfl, rfl, Or.inr ⟨rfl, rfl, Or.inl rfl⟩⟩
    | ok _ => exact ⟨rfl, rfl, Or.inr ⟨rfl, rfl, synced_if room v⟩⟩

private theorem seedFinish_history {room : Room} {s s' : Store} {k now : Nat} {status : OpsiaHandoffStatusData}
    {chain : List JournalDelta} {restore : Except String Unit}
    (hs : s.seedFinish room k now status chain restore = some s') : HistoryStep room s s' := by
  obtain ⟨seeding, reached, t, error, -, -, -, -, ht, rfl⟩ := seedFinish_cases hs
  have h : HistoryStep room s t := by
    unfold applyOutcome at ht
    split at ht
    · split at ht
      · have := applyCandidateEnvelope_history room (s.arrival room k seeding (some ‹_›)) ‹_› now restore
        rw [ht] at this
        exact ⟨this.writer, this.persisting, this.held⟩
      · cases ht
        exact .same rfl rfl rfl rfl rfl rfl
    · cases ht
      exact .same rfl rfl rfl rfl rfl rfl
  split
  · unfold settleStart
    split <;> exact ⟨h.writer, h.persisting, h.held⟩
  · unfold settleSeeding
    split <;> exact ⟨h.writer, h.persisting, h.held⟩

theorem authorityStep_history {room room' : Room} {i : Nat} {s s' : Store} {event : AuthorityEvent}
    (h : s.authorityStep room i event = some (room', s')) : HistoryStep room s s' := by
  cases event with
  | loadFinish now result =>
    obtain ⟨hk, rfl⟩ := keeping_eq_some.1 h
    unfold loadFinish at hk
    split at hk
    · cases hk
      exact .same rfl rfl rfl rfl rfl rfl
    · rename_i v _
      split at hk <;> cases hk
      · exact ⟨rfl, rfl, Or.inr ⟨rfl, rfl, synced_if room' v⟩⟩
      · exact .same rfl rfl rfl rfl rfl rfl
      · exact .same rfl rfl rfl rfl rfl rfl
    · cases hk
  | seedFinish k now status chain restore =>
    obtain ⟨hk, rfl⟩ := keeping_eq_some.1 h
    exact seedFinish_history hk
  | acquired k lost =>
    obtain ⟨a, reply, -, -, heq⟩ := acquired_cases h
    dsimp only at heq
    split at heq
    · unfold startAcquired at heq
      repeat' split at heq
      all_goals cases heq
      all_goals exact .same rfl rfl rfl rfl rfl rfl
    · unfold promoteAcquired at heq
      dsimp only at heq
      repeat' split at heq
      all_goals cases heq
      all_goals exact .same rfl rfl rfl rfl rfl rfl
    · unfold recoverAcquired at heq
      repeat' split at heq
      all_goals cases heq
      all_goals exact .same rfl rfl rfl rfl rfl rfl
  | release request =>
    obtain ⟨hk, rfl⟩ := keeping_eq_some.1 h
    unfold releaseActiveForHandoff at hk
    split at hk <;> cases hk
    exact .same rfl rfl rfl rfl rfl rfl
  | releaseFlushed k =>
    obtain ⟨hk, rfl⟩ := keeping_eq_some.1 h
    obtain ⟨_, -, rfl⟩ := releaseFlushed_cases hk
    exact .same rfl rfl rfl rfl rfl rfl
  | releaseLease k =>
    simp only [authorityStep, releaseLease] at h
    repeat' split at h
    all_goals cases h
    exact .same rfl rfl rfl rfl rfl rfl
  | released k now lost =>
    obtain ⟨_, _, _, -, -, -, ⟨-, -, rfl⟩ | ⟨-, -, rfl⟩⟩ := released_cases h
    · exact .same rfl rfl rfl rfl rfl rfl
    · exact .same rfl rfl rfl rfl rfl rfl
  | _ =>
    obtain ⟨_, _, _, _, _, _, _, _, _, _, _, _, _, -, -, rfl⟩ := authorityStep_quiet rfl h
    exact .same rfl rfl rfl rfl rfl rfl

/-! ### Any step -/

/-- The history of a store agrees with its writer and with the room. -/
structure Consistent (config : SnapshotRuntimeConfig) (room : Room) (s : Store) : Prop where
  captured : Captured config s
  synced : Synced room s
  backed : Backed room s

theorem Consistent.boot (room : Room) (env : StoreEnv) : Consistent config room (Store.boot env) := by
  refine ⟨⟨Writer.sound_init, ?_, ?_, ?_⟩, ?_, ?_⟩
  · intro i hi
    cases hi
  · intro ha
    cases ha
  · intro p hp
    cases hp
  · intro n hn
    cases hn
  · intro p hp
    cases hp

/-- What one step does to the store that makes it, and to everything that has been stored. -/
theorem consistent_step {room room' : Room} {i : Nat} {s s' : Store} {e : StoreEvent} (h : Consistent config room s)
    (hs : s.step config room i e = some (room', s')) :
    Consistent config room' s' ∧ room.stored <+: room'.stored ∧
      ∀ d ∈ room'.journal, d ∈ room.journal ∨ d.target ∈ room'.stored := by
  cases e with
  | saving e =>
    simp only [Store.step] at hs
    split at hs
    · have hstored := storedStep_saving h.captured hs
      exact ⟨⟨captured_saving h.captured hs, hstored.synced h.synced, hstored.backed h.backed⟩, hstored.extended,
        hstored.journal h.backed⟩
    · cases hs
  | authority e =>
    simp only [Store.step] at hs
    split at hs
    · have hframe := authorityStep_frame hs
      have hhistory := authorityStep_history hs
      have hextended : room.stored <+: room'.stored := by rw [hframe.stored]
      refine ⟨⟨captured_history h.captured hhistory, (synced_history h.synced hhistory).mono hextended, ?_⟩, hextended,
        fun d hd => Or.inl (hframe.journal ▸ hd)⟩
      have hb := h.backed.mono hextended
      unfold Backed at hb ⊢
      rw [hframe.persisting]
      exact hb
    · cases hs
  | session e =>
    simp only [Store.step] at hs
    split at hs
    · cases hs
      refine ⟨⟨?_, ?_, ?_⟩, List.prefix_rfl, fun d hd => Or.inl hd⟩
      · cases e <;> exact h.captured.congr rfl rfl rfl rfl fun p hp => ⟨p, hp, rfl, rfl⟩
      · cases e <;> exact h.synced
      · cases e <;> exact h.backed
    · cases hs
  | handoffStatus now =>
    simp only [Store.step] at hs
    split at hs
    · cases hs
      exact ⟨⟨h.captured, h.synced, h.backed⟩, List.prefix_rfl, fun d hd => Or.inl hd⟩
    · cases hs

theorem Consistent.mono {room room' : Room} {s : Store} (h : Consistent config room s)
    (hp : room.stored <+: room'.stored) : Consistent config room' s :=
  ⟨h.captured, h.synced.mono hp, h.backed.mono hp⟩

end Store

namespace World

open Machine

variable {config : SnapshotRuntimeConfig}

/-- The history of every store is consistent. -/
def Consistent (config : SnapshotRuntimeConfig) (w : World) : Prop :=
  ∀ (i : Nat) s, w.stores[i]? = some s → s.Consistent config w.room

theorem consistent_init (lease : Option String) (stored : List SnapshotView) (journal : List JournalDelta) :
    Consistent config (init lease stored journal) := by
  intro i s hi
  simp [init] at hi

theorem Consistent.step {w w' : World} {event : WorldEvent} (h : Consistent config w)
    (hs : w.step config event = some w') : Consistent config w' := by
  refine each_step (I := fun room _ s => s.Consistent config room) h hs ?_ ?_ ?_ ?_ ?_
  · exact fun env => Store.Consistent.boot _ env
  · exact fun i s hi => ⟨hi.captured.congr rfl rfl rfl rfl fun p hp => ⟨p, hp, rfl, rfl⟩, hi.synced, hi.backed⟩
  · exact fun i s hi => ⟨hi.captured, hi.synced, hi.backed⟩
  · exact fun i s e room' s' _ _ hi hstep => (Store.consistent_step hi hstep).1
  · exact fun i s e room' s' j t _ hi hstep _ _ ht => ht.mono (Store.consistent_step (h i s hi) hstep).2.1

end World

end Opsia
