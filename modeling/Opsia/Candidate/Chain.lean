import Opsia.Candidate.Seeding

/-!
# Seeding behind the active's own journal

When the journal holds deltas that the active appended for envelopes it had persisted, replaying them leads through the
active's own envelopes.  The candidate's copies may order object keys differently, but the operations of a delta do not
depend on the key order of the base (`appendDeltaOperations_congr`), so the next delta still leads to the next envelope.
-/

namespace Opsia

open Json

/-- The envelope as `persistEnvelope` reads it back from the text it has stored. -/
def Persisted (sha256 : List Char → HexDigest) (e : GameSnapshotEnvelope) : Prop :=
  ∃ (created : GameSnapshotEnvelope) (text : String) (expected : Expected), (JsValue.obj created.payload).WellFormed ∧
    stringify (.obj created.toRecord) = some text ∧ parseSnapshotEnvelope sha256 text expected = .ok e

/-- The same envelope, up to the key order of the payload. -/
structure AgreesWith (e own : GameSnapshotEnvelope) : Prop where
  rest : { e with payload := own.payload } = own
  payload : JsValue.SameUpToKeyOrder (.obj e.payload) (.obj own.payload)

/-! ### Persisted envelopes -/

/-- The parts of an envelope that are read from a record. -/
theorem readEnvelope?_eq_some {fs : Fields JsValue} {e : GameSnapshotEnvelope} (h : readEnvelope? fs = some e) :
    (JsValue.field fs "mapSeed").asNum? = some e.mapSeed ∧ (JsValue.field fs "createdAt").asNum? = some e.createdAt ∧
      (JsValue.field fs "payload").asRecord? = some e.payload := by
  unfold readEnvelope? at h
  obtain ⟨_, -, h⟩ := Option.bind_eq_some_iff.1 h
  obtain ⟨_, -, h⟩ := Option.bind_eq_some_iff.1 h
  obtain ⟨_, -, h⟩ := Option.bind_eq_some_iff.1 h
  obtain ⟨_, -, h⟩ := Option.bind_eq_some_iff.1 h
  obtain ⟨_, -, h⟩ := Option.bind_eq_some_iff.1 h
  obtain ⟨_, -, h⟩ := Option.bind_eq_some_iff.1 h
  obtain ⟨_, -, h⟩ := Option.bind_eq_some_iff.1 h
  obtain ⟨_, -, h⟩ := Option.bind_eq_some_iff.1 h
  obtain ⟨_, -, h⟩ := Option.bind_eq_some_iff.1 h
  obtain ⟨_, -, h⟩ := Option.bind_eq_some_iff.1 h
  obtain ⟨mapSeed, hm, h⟩ := Option.bind_eq_some_iff.1 h
  obtain ⟨createdAt, hc, h⟩ := Option.bind_eq_some_iff.1 h
  obtain ⟨payload, hp, h⟩ := Option.bind_eq_some_iff.1 h
  obtain ⟨_, -, h⟩ := Option.bind_eq_some_iff.1 h
  obtain ⟨_, -, h⟩ := Option.bind_eq_some_iff.1 h
  cases h
  exact ⟨hm, hc, hp⟩

private theorem plain_field {fs : Fields JsValue} (hp : (JsValue.obj fs).Plain) {key : String}
    (hu : (JsValue.field fs key).isUndefined = false) : (JsValue.field fs key).Plain := by
  rw [JsValue.plain_obj] at hp
  unfold JsValue.field at hu ⊢
  cases h : Fields.get? fs key with
  | none => simp [h, JsValue.isUndefined] at hu
  | some v => exact hp _ (Fields.mem_of_get? h)

private theorem wellFormed_field {fs : Fields JsValue} (hw : (JsValue.obj fs).WellFormed) (key : String) :
    (JsValue.field fs key).WellFormed := by
  rw [JsValue.wellFormed_obj] at hw
  unfold JsValue.field
  cases h : Fields.get? fs key with
  | none => simp [JsValue.WellFormed]
  | some v => exact hw.2 _ (Fields.mem_of_get? h)

private theorem keys_toRecord (e : GameSnapshotEnvelope) :
    ∃ c, Fields.keys e.toRecord =
        ["kind", "schemaVersion", "payloadSchemaVersion", "roomId", "roomEpoch", "serverTick", "snapshotTick",
          "gameBuildRevision", "mapSeed", "createdAt", "checksumAlgorithm"] ++ c ++ ["payload", "checksum"] ∧
      (c = [] ∨ c = ["checksumEncoding"]) := by
  unfold GameSnapshotEnvelope.toRecord GameSnapshotEnvelope.header
  cases e.checksumEncoding with
  | none => exact ⟨[], rfl, Or.inl rfl⟩
  | some x => exact ⟨["checksumEncoding"], rfl, Or.inr rfl⟩

theorem toRecord_wellFormed {e : GameSnapshotEnvelope} (h : (JsValue.obj e.payload).WellFormed) :
    (JsValue.obj e.toRecord).WellFormed := by
  rw [JsValue.wellFormed_obj]
  obtain ⟨c, hk, hc⟩ := keys_toRecord e
  refine ⟨?_, ?_⟩
  · rcases hc with rfl | rfl
    · exact ⟨by rw [hk]; decide, by rw [hk]; decide⟩
    · exact ⟨by rw [hk]; decide, by rw [hk]; decide⟩
  · intro f hf
    unfold GameSnapshotEnvelope.toRecord at hf
    rcases List.mem_append.1 hf with hf | hf
    · have hhead : ∀ f ∈ e.header, f.2.WellFormed := by
        unfold GameSnapshotEnvelope.header
        cases e.checksumEncoding <;> simp [JsValue.WellFormed, ChecksumEncoding.toFields]
      exact hhead f hf
    · rcases List.mem_cons.1 hf with rfl | hf
      · exact h
      · rw [List.mem_singleton.1 hf]
        simp [JsValue.WellFormed]

theorem toRecord_plain {e : GameSnapshotEnvelope} (hp : (JsValue.obj e.payload).Plain) (hm : (JsValue.num e.mapSeed).Plain)
    (hc : (JsValue.num e.createdAt).Plain) : (JsValue.obj e.toRecord).Plain := by
  rw [JsValue.plain_obj]
  unfold GameSnapshotEnvelope.toRecord GameSnapshotEnvelope.header
  cases e.checksumEncoding <;> simp [JsValue.Plain, ChecksumEncoding.toFields, JsNumber.throughText, JsNumber.ofNat] <;>
    exact ⟨hm, hc, hp⟩

/-- A persisted envelope is what JSON text can denote. -/
theorem Persisted.plain {sha256 : List Char → HexDigest} {e : GameSnapshotEnvelope} (h : Persisted sha256 e) :
    (JsValue.obj e.toRecord).Plain ∧ (JsValue.obj e.payload).WellFormed := by
  obtain ⟨created, text, expected, hw, htext, hparse⟩ := h
  have hwell := toRecord_wellFormed hw
  unfold parseSnapshotEnvelope at hparse
  simp only [bind_eq_ok, orThrow_eq_ok] at hparse
  obtain ⟨_, -, value, hvalue, hverify⟩ := hparse
  rw [parse_stringify hwell htext, Option.some.injEq] at hvalue
  have hplain : value.Plain := by rw [← hvalue]; exact JsValue.plain_detach _ rfl
  have hwellv : value.WellFormed := by rw [← hvalue]; exact JsValue.wellFormed_detach _ hwell
  obtain ⟨hread, -⟩ := (verifySnapshotEnvelope_eq_ok sha256).1 hverify
  obtain ⟨fs, hfs, hread⟩ := Option.bind_eq_some_iff.1 hread
  obtain rfl : value = .obj fs := by cases value <;> simp_all [JsValue.asRecord?]
  obtain ⟨hseed, hcreated, hpayload⟩ := readEnvelope?_eq_some hread
  have hnum : ∀ {key : String} {x : JsNumber}, (JsValue.field fs key).asNum? = some x → (JsValue.num x).Plain := by
    intro key x hx
    have hf : JsValue.field fs key = .num x := by cases hv : JsValue.field fs key <;> simp_all [JsValue.asNum?]
    rw [← hf]
    exact plain_field hplain (by rw [hf]; rfl)
  have hobj : JsValue.field fs "payload" = .obj e.payload := by
    cases hv : JsValue.field fs "payload" <;> simp_all [JsValue.asRecord?]
  refine ⟨?_, by rw [← hobj]; exact wellFormed_field hwellv _⟩
  have hp : (JsValue.obj e.payload).Plain := by
    rw [← hobj]
    exact plain_field hplain (by rw [hobj]; rfl)
  exact toRecord_plain hp (hnum hseed) (hnum hcreated)

/-! ### Journal entries with deltas -/

section

variable {sha256 : List Char → HexDigest} {loader : CandidateStateLoader}

/-- The stored record holds the delta between two envelopes, as the active appends it. -/
def DeltaEntry (sha256 : List Char → HexDigest) (journal : RoomStateJournal) (base target : GameSnapshotEnvelope)
    (stored : StoredRecord) : Prop :=
  ∃ delta now text, createSnapshotEnvelopeDelta base target = .ok delta ∧ delta.toJs.WellFormed ∧
    journal.encodeEntry sha256 (.ofNat target.roomEpoch) (.ofNat target.serverTick) "state-delta" now delta.toJs =
      .ok text ∧ stored.encoded = some text

theorem readEntry?_eq_some {fs : Fields JsValue} {entry : RoomJournalEntry} (h : readEntry? fs = some entry) :
    (JsValue.field fs "eventType").asStr? = some entry.eventType ∧ entry.payload = JsValue.field fs "payload" := by
  unfold readEntry? at h
  simp only [Option.bind_eq_bind, Option.bind_eq_some_iff] at h
  obtain ⟨_, -, _, -, roomId, -, _, -, roomEpoch, -, serverTick, -, eventType, he, _, -, createdAt, -, _, -, _, -, checksum, -,
    _, -, hret⟩ := h
  cases hret
  exact ⟨he, rfl⟩

private theorem entry_wellFormed {entry : RoomJournalEntry} (h : entry.payload.WellFormed) :
    (JsValue.obj entry.toRecord).WellFormed := by
  have hk : Fields.keys entry.toRecord = ["kind", "schemaVersion", "roomId", "roomEpoch", "serverTick", "eventType",
      "createdAt", "checksumAlgorithm", "payload", "checksum"] := rfl
  rw [JsValue.wellFormed_obj]
  refine ⟨⟨by rw [hk]; decide, by rw [hk]; decide⟩, ?_⟩
  simp [RoomJournalEntry.toRecord, RoomJournalEntry.header, JsValue.WellFormed, h]

/-- The operations of a delta between persisted envelopes survive JSON. -/
private theorem operations_plain {base target : GameSnapshotEnvelope} (ht : (JsValue.obj target.payload).WellFormed) :
    ∀ op ∈ base.operationsTo target, op.toJs.Plain := by
  have hover := appendDeltaOperations_over (K := fun _ => True) (S := fun _ => True) (fun _ _ _ _ => trivial)
    (fun _ _ _ _ => ⟨trivial, trivial⟩) (cloneJson (.obj target.payload)) (JsValue.plain_detach _ rfl)
    (JsValue.wellFormed_detach _ ht) trivial (cloneJson (.obj base.payload)) trivial [] (by simp)
  have hpath : ∀ p : Path, (JsValue.arr (p.map PathSegment.toJs)).Plain := by
    intro p
    rw [JsValue.plain_arr]
    intro v hv
    obtain ⟨s, -, rfl⟩ := List.mem_map.1 hv
    cases s <;> simp [PathSegment.toJs, JsValue.Plain, JsNumber.throughText, JsNumber.ofNat]
  intro op hop
  have hop := hover op hop
  cases op with
  | set p v =>
    have hv : v.Plain := hop.2
    have := hpath p
    simp only [SnapshotDeltaOperation.toJs, JsValue.plain_obj, List.mem_cons, List.not_mem_nil, or_false, forall_eq_or_imp,
      forall_eq]
    exact ⟨by simp [JsValue.Plain], this, hv⟩
  | delete p =>
    have := hpath p
    simp only [SnapshotDeltaOperation.toJs, JsValue.plain_obj, List.mem_cons, List.not_mem_nil, or_false, forall_eq_or_imp,
      forall_eq]
    exact ⟨by simp [JsValue.Plain], this⟩
  | truncate p n =>
    have := hpath p
    simp only [SnapshotDeltaOperation.toJs, JsValue.plain_obj, List.mem_cons, List.not_mem_nil, or_false, forall_eq_or_imp,
      forall_eq]
    exact ⟨by simp [JsValue.Plain], this, by simp [JsValue.Plain, JsNumber.throughText, JsNumber.ofNat]⟩

/-- The delta that `createSnapshotEnvelopeDelta` builds. -/
theorem createSnapshotEnvelopeDelta_eq_ok {base target : GameSnapshotEnvelope} {delta : SnapshotEnvelopeDelta}
    (h : createSnapshotEnvelopeDelta base target = .ok delta) :
    base.serverTick < target.serverTick ∧
      delta = ⟨base.checksum, base.serverTick, target.toRecord.remove "payload", base.operationsTo target⟩ := by
  unfold createSnapshotEnvelopeDelta at h
  simp only [bind_eq_ok, refuse_eq_ok] at h
  obtain ⟨_, hctx, hret⟩ := h
  cases hret
  push Not at hctx
  exact ⟨hctx.2.2, rfl⟩

private theorem delta_plain {base target : GameSnapshotEnvelope} {delta : SnapshotEnvelopeDelta}
    (ht : Persisted sha256 target) (h : createSnapshotEnvelopeDelta base target = .ok delta) : delta.toJs.Plain := by
  obtain ⟨hplain, hwell⟩ := ht.plain
  obtain ⟨-, rfl⟩ := createSnapshotEnvelopeDelta_eq_ok h
  have hops : (JsValue.arr ((base.operationsTo target).map SnapshotDeltaOperation.toJs)).Plain := by
    rw [JsValue.plain_arr]
    intro v hv
    obtain ⟨op, hop, rfl⟩ := List.mem_map.1 hv
    exact operations_plain hwell op hop
  have htarget : (JsValue.obj (target.toRecord.remove "payload")).Plain := by
    rw [JsValue.plain_obj] at hplain ⊢
    exact fun f hf => hplain f (List.mem_filter.1 hf).1
  simp only [SnapshotEnvelopeDelta.toJs, JsValue.plain_obj, List.mem_cons, List.not_mem_nil, or_false, forall_eq_or_imp,
    forall_eq]
  rw [JsValue.plain_obj] at htarget
  exact ⟨by simp [JsValue.Plain], rfl, by simp [JsValue.Plain], rfl, htarget, hops⟩

/-- Reading the stored record of a delta gives the delta back. -/
theorem DeltaEntry.record {base target : GameSnapshotEnvelope} {stored : StoredRecord} (ht : Persisted sha256 target)
    (h : DeltaEntry sha256 loader.journal base target stored) {record : RoomJournalRecord}
    (hr : loader.journal.readRecord sha256 none stored = .ok record) :
    record.eventType = "state-delta" ∧
      ∃ delta, createSnapshotEnvelopeDelta base target = .ok delta ∧ record.payload = delta.toJs := by
  obtain ⟨delta, now, text, hdelta, hwell, hencode, hstored⟩ := h
  unfold RoomStateJournal.encodeEntry at hencode
  simp only [bind_eq_ok, orThrow_eq_ok, refuse_eq_ok] at hencode
  obtain ⟨entry, hentry, encoded, htext, _, -, hret⟩ := hencode
  cases hret
  unfold createRoomJournalEntry at hentry
  simp only [bind_eq_ok, orThrow_eq_ok, refuse_eq_ok] at hentry
  obtain ⟨_, -, epoch, -, tick, -, checksum, -, hret⟩ := hentry
  cases hret
  have hwf : (JsValue.obj (RoomJournalEntry.toRecord {
      roomId := loader.journal.roomId, roomEpoch := epoch, serverTick := tick, eventType := "state-delta", createdAt := now
      checksum := checksum, payload := delta.toJs })).WellFormed := entry_wellFormed hwell
  unfold RoomStateJournal.readRecord at hr
  simp only [bind_eq_ok, orThrow_eq_ok, refuse_eq_ok, hstored, Option.some.injEq] at hr
  obtain ⟨_, rfl, _, -, read, hread, _, -, _, -, hret⟩ := hr
  cases hret
  unfold parseRoomJournalEntry at hread
  simp only [bind_eq_ok, orThrow_eq_ok, refuse_eq_ok] at hread
  obtain ⟨value, hvalue, read', hread', _, -, _, -, hret⟩ := hread
  cases hret
  rw [parse_stringify hwf htext, Option.some.injEq, JsValue.detach_obj] at hvalue
  rw [← hvalue] at hread'
  obtain ⟨hevent, hpayload⟩ := readEntry?_eq_some (by simpa [JsValue.asRecord?] using hread')
  rw [JsValue.wellFormed_obj] at hwf
  rw [JsValue.field_detach hwf.1.nodup] at hevent hpayload
  refine ⟨?_, delta, hdelta, ?_⟩
  · have he : some "state-delta" = some read.eventType := hevent
    exact (Option.some.inj he).symm
  · rw [hpayload]
    exact JsValue.detach_of_plain _ (delta_plain ht hdelta)

/-! ### Replaying the active's deltas -/

/-- A copy of an envelope, up to key order, that is what JSON text can denote. -/
structure CopyOf (own e : GameSnapshotEnvelope) : Prop where
  agrees : AgreesWith e own
  plain : (JsValue.obj e.payload).Plain
  wellFormed : (JsValue.obj e.payload).WellFormed

private theorem AgreesWith.fields {e own : GameSnapshotEnvelope} (h : AgreesWith e own) :
    e.checksum = own.checksum ∧ e.serverTick = own.serverTick := by
  rw [← h.rest]
  exact ⟨rfl, rfl⟩

private theorem Persisted.payload_plain {e : GameSnapshotEnvelope} (h : Persisted sha256 e) :
    (JsValue.obj e.payload).Plain := by
  have hp := h.plain.1
  rw [JsValue.plain_obj] at hp
  exact hp ("payload", .obj e.payload) (by simp [GameSnapshotEnvelope.toRecord])

theorem Persisted.copyOf {e : GameSnapshotEnvelope} (h : Persisted sha256 e) : CopyOf e e :=
  ⟨⟨rfl, rfl⟩, h.payload_plain, h.plain.2⟩

/-- What is read of a delta on a base that it fits. -/
private theorem readDelta?_toJs {e : GameSnapshotEnvelope} {delta : SnapshotEnvelopeDelta} {target : Fields JsValue}
    {operations : List JsValue} (h : readDelta? e delta.toJs = some (target, operations)) :
    delta.baseServerTick = e.serverTick ∧ target = delta.target ∧
      operations = delta.operations.map SnapshotDeltaOperation.toJs := by
  unfold readDelta? at h
  simp only [Option.bind_eq_bind, Option.bind_eq_some_iff] at h
  obtain ⟨fs, hfs, _, -, _, -, _, -, _, htick, t, ht, ops, hops, _, -, hret⟩ := h
  cases hfs
  cases hret
  have htick : some delta.baseServerTick = some e.serverTick := by
    have hread : (JsNumber.ofNat delta.baseServerTick).safeNat? = some delta.baseServerTick := JsNumber.safeNat?_ofNat _
    unfold guard at htick
    split at htick
    · rename_i heq
      rw [← hread]
      exact heq
    · cases htick
  have ht : some delta.target = some target := ht
  have hops : some (delta.operations.map SnapshotDeltaOperation.toJs) = some operations := hops
  exact ⟨Option.some.inj htick, (Option.some.inj ht).symm, (Option.some.inj hops).symm⟩

/-- Applying the active's delta to a copy of its base gives a copy of its target. -/
theorem CopyOf.applyDelta {base target e e' : GameSnapshotEnvelope} (hb : Persisted sha256 base)
    (ht : Persisted sha256 target) (h : CopyOf base e) {delta : SnapshotEnvelopeDelta}
    (hd : createSnapshotEnvelopeDelta base target = .ok delta) {expected : Expected}
    (ha : applySnapshotEnvelopeDelta sha256 e delta.toJs expected = .ok e') : CopyOf target e' := by
  obtain ⟨-, rfl⟩ := createSnapshotEnvelopeDelta_eq_ok hd
  obtain ⟨fields, operations, payload, hread, hfold, hverify, -⟩ :=
    CandidateStateLoader.applySnapshotEnvelopeDelta_eq_ok ha
  obtain ⟨-, rfl, rfl⟩ := readDelta?_toJs hread
  dsimp only at hfold hverify
  have htw : (cloneJson (.obj target.payload)).WellFormed := JsValue.wellFormed_detach _ ht.plain.2
  have htp : (cloneJson (.obj target.payload)).Plain := JsValue.plain_detach _ rfl
  have hew : (cloneJson (.obj e.payload)).WellFormed := JsValue.wellFormed_detach _ h.wellFormed
  have hsame : JsValue.SameUpToKeyOrder (cloneJson (.obj base.payload)) (cloneJson (.obj e.payload)) := by
    have hp := h.agrees.payload
    unfold cloneJson
    rw [JsValue.detach_of_plain _ hb.payload_plain, JsValue.detach_of_plain _ h.plain]
    exact hp.symm
  -- the operations were computed from the active's base, but they are those from the copy
  have hops : base.operationsTo target = e.operationsTo target :=
    appendDeltaOperations_congr _ _ _ (JsValue.wellFormed_detach _ hb.plain.2) hew hsame []
  have hrun := SnapshotDeltaOperation.run_of_foldlM hfold
  rw [hops] at hrun
  unfold GameSnapshotEnvelope.operationsTo at hrun
  rw [run_appendDeltaOperations _ htp htw _ hew, DeltaPair.patched_clone, Except.ok.injEq] at hrun
  subst hrun
  obtain ⟨hread', -⟩ := (verifySnapshotEnvelope_eq_ok sha256).1 hverify
  rw [JsValue.asRecord?, Option.bind_some, readEnvelope?_eq (DeltaPair.field_reconstructed e target)] at hread'
  split at hread'
  · cases hread'
    have hpayload : JsValue.obj (e.patchedTowards target).payload =
        patched (cloneJson (.obj e.payload)) (cloneJson (.obj target.payload)) := (DeltaPair.patched_clone e target).symm
    refine ⟨⟨rfl, ?_⟩, ?_, ?_⟩
    · rw [hpayload]
      have hclone : cloneJson (.obj target.payload) = .obj target.payload := JsValue.detach_of_plain _ ht.payload_plain
      have := patched_same _ htw _ hew
      rwa [hclone] at this ⊢
    · rw [hpayload]
      exact patched_plain _ htp htw _ hew
    · rw [hpayload]
      exact patched_wellFormed _ htw _ hew
  · cases hread'

/-- The stored snapshot is the first of the active's persisted envelopes, and the journal holds only deltas between
neighbours among them. -/
structure AppendedByActive (sha256 : List Char → HexDigest) (loader : CandidateStateLoader)
    (active : List GameSnapshotEnvelope) : Prop where
  persisted : ∀ e ∈ active, Persisted sha256 e
  rising : active.Pairwise fun a b => a.serverTick < b.serverTick
  snapshot : ∀ text e, loader.storedText = some text → parseSnapshotEnvelope sha256 text loader.expected = .ok e →
    active[0]? = some e
  journal : ∀ n stream, loader.journalReads n = .ok stream → ∀ stored ∈ stream, ∃ i base target,
    active[i]? = some base ∧ active[i + 1]? = some target ∧ DeltaEntry sha256 loader.journal base target stored

namespace AppendedByActive

variable {active : List GameSnapshotEnvelope}

/-- Ticks tell the active's envelopes apart. -/
private theorem index_eq (h : AppendedByActive sha256 loader active) {i j : Nat} {a b : GameSnapshotEnvelope}
    (hi : active[i]? = some a) (hj : active[j]? = some b) (ht : a.serverTick = b.serverTick) : i = j := by
  obtain ⟨hi', rfl⟩ := List.getElem?_eq_some_iff.1 hi
  obtain ⟨hj', rfl⟩ := List.getElem?_eq_some_iff.1 hj
  have hrising := List.pairwise_iff_getElem.1 h.rising
  rcases Nat.lt_trichotomy i j with hlt | heq | hgt
  · have := hrising i j hi' hj' hlt
    rw [ht] at this
    exact absurd this (lt_irrefl _)
  · exact heq
  · have := hrising j i hj' hi' hgt
    rw [ht] at this
    exact absurd this (lt_irrefl _)

/-- A record of the active's journal that applies leads from a copy of one envelope to a copy of the next. -/
theorem applyRecord (h : AppendedByActive sha256 loader active) {i : Nat} {own e e' : GameSnapshotEnvelope}
    (hi : active[i]? = some own) (hc : CopyOf own e) {record : RoomJournalRecord}
    (hr : ∃ n stream stored, loader.journalReads n = .ok stream ∧ stored ∈ stream ∧
      loader.journal.readRecord sha256 none stored = .ok record)
    (ha : loader.applyRecord sha256 e record = .ok e') : ∃ next, active[i + 1]? = some next ∧ CopyOf next e' := by
  obtain ⟨n, stream, stored, hstream, hstored, hread⟩ := hr
  obtain ⟨j, base, target, hj, hj', hentry⟩ := h.journal n stream hstream stored hstored
  have hown := h.persisted own (List.mem_of_getElem? hi)
  have htarget := h.persisted target (List.mem_of_getElem? hj')
  obtain ⟨hevent, delta, hdelta, hpayload⟩ := hentry.record htarget hread
  unfold CandidateStateLoader.applyRecord at ha
  rw [if_pos hevent, hpayload] at ha
  split at ha
  · cases ha
  · rename_i envelope happly
    split at ha
    · cases ha
    · cases ha
      -- the delta names the tick of its base, so it is the one from the envelope reached
      obtain ⟨fields, operations, _, hfit, -⟩ := CandidateStateLoader.applySnapshotEnvelopeDelta_eq_ok happly
      have htick := (readDelta?_toJs hfit).1
      have hbase : delta.baseServerTick = base.serverTick := by rw [(createSnapshotEnvelopeDelta_eq_ok hdelta).2]
      have hij : i = j := h.index_eq hi hj (by rw [← hc.agrees.fields.2, ← htick, hbase])
      subst hij
      rw [hi, Option.some.injEq] at hj
      subst hj
      exact ⟨target, hj', hc.applyDelta hown htarget hdelta happly⟩

/-- Records of the active's journal that apply one after the other lead through its envelopes one by one. -/
theorem applyRecords (h : AppendedByActive sha256 loader active) {records : List RoomJournalRecord}
    (hr : ∀ record ∈ records, ∃ n stream stored, loader.journalReads n = .ok stream ∧ stored ∈ stream ∧
      loader.journal.readRecord sha256 none stored = .ok record) {i : Nat} {own e e' : GameSnapshotEnvelope}
    (hi : active[i]? = some own) (hc : CopyOf own e) (ha : records.foldlM (loader.applyRecord sha256) e = .ok e') :
    ∃ last, active[i + records.length]? = some last ∧ CopyOf last e' := by
  induction records generalizing i own e with
  | nil =>
    cases ha
    exact ⟨own, hi, hc⟩
  | cons record records ih =>
    rw [List.foldlM_cons] at ha
    obtain ⟨e1, h1, ha⟩ := bind_eq_ok.1 ha
    obtain ⟨next, hnext, hc1⟩ := h.applyRecord hi hc (hr record (List.mem_cons_self ..)) h1
    obtain ⟨last, hlast, hc'⟩ := ih (fun r hm => hr r (List.mem_cons_of_mem _ hm)) hnext hc1 ha
    refine ⟨last, ?_, hc'⟩
    rw [List.length_cons, ← hlast]
    congr 1
    omega

end AppendedByActive

/-! ### Soundness of seeding -/

namespace CandidateStateLoader

/-- Behind a journal that the active appended, the envelope is the active's own at the last record applied. -/
def FollowsActive (sha256 : List Char → HexDigest) (loader : CandidateStateLoader) (outcome : CandidateSeedOutcome) :
    Prop :=
  ∀ active, AppendedByActive sha256 loader active → ∀ e, outcome.envelope = some e →
    ∃ k own, outcome.status.journalEntries = some k ∧ active[k]? = some own ∧ AgreesWith e own

private theorem envelope_of_blockedAt {reason : String} {targetTick : JsNumber} {e : GameSnapshotEnvelope}
    {outcome : CandidateSeedOutcome} (h : loader.blockedAt reason targetTick e = .ok outcome) : outcome.envelope = none := by
  obtain ⟨status, -, rfl⟩ := map_eq_ok.1 h
  rfl

/-- Only the last gate lets an envelope through, and its status counts the records that led to it. -/
private theorem conclude_envelope {input : SeedInput} {replayed : Replayed} {outcome : CandidateSeedOutcome}
    (h : loader.conclude input replayed = .ok outcome) {e : GameSnapshotEnvelope} (he : outcome.envelope = some e) :
    e = replayed.envelope ∧ outcome.status.journalEntries = some replayed.journalEntries := by
  unfold conclude at h
  dsimp only at h
  split at h
  · obtain ⟨status, -, rfl⟩ := map_eq_ok.1 h
    cases he
  · split at h
    · rw [envelope_of_blockedAt h] at he
      cases he
    · obtain ⟨status, -, rfl⟩ := map_eq_ok.1 h
      cases he
      exact ⟨rfl, rfl⟩

/-- Replaying the active's journal on its first envelope leads to as many envelopes further as there were records. -/
private theorem replay_chain {active : List GameSnapshotEnvelope} (h : AppendedByActive sha256 loader active)
    {first : GameSnapshotEnvelope} (hfirst : active[0]? = some first) {input : SeedInput} {replayed : Replayed}
    (hr : loader.replay sha256 input first = .ok replayed) :
    ∃ own, active[replayed.journalEntries]? = some own ∧ AgreesWith replayed.envelope own := by
  have hcopy := (h.persisted first (List.mem_of_getElem? hfirst)).copyOf
  unfold replay at hr
  split at hr
  · split at hr
    · cases hr
    · rename_i result hresult
      obtain ⟨last, hfold, rfl⟩ := map_eq_ok.1 hr
      obtain ⟨own, hown, hc⟩ := h.applyRecords (catchUp_mem hresult) hfirst hcopy hfold
      rw [Nat.zero_add] at hown
      exact ⟨own, hown, hc.agrees⟩
  · cases hr
    exact ⟨first, hfirst, hcopy.agrees⟩

theorem seed_chain {request : CandidateSeedRequest} {outcome : CandidateSeedOutcome}
    (h : loader.seed sha256 request = .ok outcome) : FollowsActive sha256 loader outcome := by
  intro active hactive e he
  unfold seed at h
  split at h
  · cases h
    cases he
  rename_i input hinput
  rcases seedInternal_cases sha256 loader input with ⟨o, ho, -, hnone, -⟩ | ⟨text, first, htext, hparse, hrest⟩
  · rw [ho] at h
    cases h
    rw [hnone] at he
    cases he
  rw [hrest] at h
  split at h
  · rw [envelope_of_blockedAt h] at he
    cases he
  split at h
  · rw [envelope_of_blockedAt h] at he
    cases he
  split at h
  · rw [envelope_of_blockedAt h] at he
    cases he
  rename_i replayed hreplay
  obtain ⟨rfl, hk⟩ := conclude_envelope h he
  obtain ⟨own, hown, hagree⟩ := replay_chain hactive (hactive.snapshot text first htext hparse) hreplay
  exact ⟨replayed.journalEntries, own, hk, hown, hagree⟩

end CandidateStateLoader

end

namespace Sample

def unlistedDigest : HexDigest :=
  ⟨"606699d5fa6d97a3411e31f62415a3c94b79632af95f3fa0553c36934702777f", by decide +kernel, by decide +kernel⟩

theorem ten_safe : 10 ≤ 9007199254740991 := by decide

/-- A verified envelope whose payload has no players. -/
def unlisted : GameSnapshotEnvelope where
  payloadSchemaVersion := ⟨4, by decide⟩
  roomId := "room-1"
  roomEpoch := ⟨1, one_safe⟩
  serverTick := ⟨10, ten_safe⟩
  snapshotTick := ⟨1, one_safe⟩
  gameBuildRevision := "r1"
  mapSeed := .ofNat 7
  createdAt := .ofNat 1000
  checksumEncoding := some .canonicalJson
  checksum := unlistedDigest.text
  payload := [("schemaVersion", .num (.ofNat 4)), ("mapName", .str "main")]

def unlistedLoader : CandidateStateLoader where
  roomId := "room-1"
  mapName := "main"
  maxPayloadBytes := 8388608
  readSnapshot := .ok (some (String.ofList (write (.obj unlisted.toRecord))))
  journal := { roomId := "room-1", maxEntryBytes := 8454144 }
  journalReads := fun _ => .ok []
  now := 0

/-- SHA-256 on the text of this envelope. -/
def unlistedSha256 : List Char → HexDigest := digestTable [(unlisted, unlistedDigest)] canonicalBaseDigest

private theorem unlisted_parsed :
    parseSnapshotEnvelope unlistedSha256 (String.ofList (write (.obj unlisted.toRecord))) unlistedLoader.expected =
      .ok unlisted := by
  have hplain : (JsValue.obj unlisted.toRecord).Plain := by
    refine toRecord_plain ?_ rfl rfl
    rw [JsValue.plain_obj]
    simp [unlisted, JsValue.Plain, JsNumber.throughText, JsNumber.ofNat]
  have hwell : (JsValue.obj unlisted.toRecord).WellFormed := by
    refine toRecord_wellFormed ?_
    rw [JsValue.wellFormed_obj]
    exact ⟨⟨by decide, by decide⟩, by simp [unlisted, JsValue.WellFormed]⟩
  have hbytes : textBytes (.obj unlisted.toRecord) ≤ 8388608 := by
    unfold textBytes
    rw [utf8ByteSize_ofList]
    decide +kernel
  unfold parseSnapshotEnvelope
  refine bind_eq_ok.2 ⟨(), refuse_eq_ok.2 ?_, bind_eq_ok.2 ⟨_, orThrow_eq_ok.2 (parse_write hplain hwell), ?_⟩⟩
  · rw [← JsValue.detach_of_plain _ hplain]
    rintro ⟨n, hn, hlt⟩
    cases hn
    exact absurd hbytes (not_le.2 hlt)
  · refine (verifySnapshotEnvelope_eq_ok _).2 ⟨by decide +kernel, ?_, ?_, unlistedDigest.text, by decide +kernel, rfl⟩
    · rintro id ⟨⟩
      rfl
    · rintro n ⟨⟩
      exact hbytes

end Sample

end Opsia

