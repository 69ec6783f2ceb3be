import Opsia.Candidate.Chain
import Opsia.Snapshot.CanonicalEquality

/-!
# Reading back what was written

The JSON text of an envelope or of a journal entry denotes what is left of it after a trip through text.  Reading it
gives an equal envelope or entry just when the reader's checks pass on what the writer did not check
(`read_back_iff`): the build revision, the time of creation, the payload's own room id, and the arrays of a payload with
an ordered checksum, in which `undefined` is written as `null`.
-/

namespace Opsia

open Json

/-! ### Values that survive a trip through text -/

private theorem strictEq_throughText {x y : JsNumber} (h : x.throughText = some y) : x.strictEq y = true := by
  cases x with
  | finite d =>
    cases h
    simp [JsNumber.strictEq]
  | negZero =>
    cases h
    rfl
  | infinity neg => cases h
  | nan => cases h

private theorem exists_throughText {x : JsNumber} (h : x.isFinite = true) : ∃ y, x.throughText = some y := by
  cases x with
  | finite d => exact ⟨_, rfl⟩
  | negZero => exact ⟨_, rfl⟩
  | infinity neg => cases h
  | nan => cases h

private theorem detach_num {x y : JsNumber} (h : x.throughText = some y) : (JsValue.num x).detach = .num y := by
  simp only [JsValue.detach, h]

/-- A JSON-like value is the same behind its text. -/
theorem JsonLike.same_detach {v : JsValue} (h : JsonLike v) : SameJson v v.detach := by
  induction h with
  | null => exact .null
  | bool b => exact .bool b
  | str s => exact .str s
  | @num x hx =>
    obtain ⟨y, htext⟩ := exists_throughText hx
    rw [detach_num htext]
    exact .num (strictEq_throughText htext)
  | @arr items hitems ih =>
    rw [JsValue.detach_arr]
    refine .arr (List.length_map _).symm fun i hi hi' => ?_
    have hitem := hitems _ (List.getElem_mem hi)
    rw [List.getElem_map, JsValue.orNull_of_defined (by rw [JsValue.detach_isUndefined, hitem.isUndefined])]
    exact ih _ (List.getElem_mem hi)
  | @obj fields hkeys _ ih =>
    rw [JsValue.detach_obj]
    refine .obj fun key => ?_
    rw [JsValue.field_detach hkeys]
    cases hdef : (JsValue.field fields key).isUndefined with
    | true =>
      cases hvalue : JsValue.field fields key with
      | undefined => exact .undefined
      | _ => rw [hvalue] at hdef; cases hdef
    | false =>
      obtain ⟨f, hf, heq⟩ := field_of_defined hdef
      rw [heq]
      exact ih f hf

/-- A value without infinite numbers that is the same behind its text is JSON-like. -/
theorem jsonLike_of_same_detach (v : JsValue) (hu : v.isUndefined = false) (hfinite : allFinite v = true)
    (hw : v.WellFormed) (h : SameJson v v.detach) : JsonLike v := by
  induction v using JsValue.induct with
  | undefined => cases hu
  | null => exact .null
  | bool b => exact .bool b
  | num x => exact .num hfinite
  | str s => exact .str s
  | arr items ih =>
    rw [allFinite_arr] at hfinite
    rw [JsValue.wellFormed_arr] at hw
    rw [JsValue.detach_arr] at h
    cases h with
    | arr hlength heach =>
      refine .arr fun v hv => ?_
      obtain ⟨i, hi, rfl⟩ := List.getElem_of_mem hv
      have hitem := heach i hi (by rwa [List.length_map])
      rw [List.getElem_map] at hitem
      cases hdef : items[i].isUndefined with
      | true =>
        have hundef : items[i] = .undefined := by
          cases hvalue : items[i] with
          | undefined => rfl
          | _ => rw [hvalue] at hdef; cases hdef
        rw [hundef] at hitem
        cases hitem
      | false =>
        rw [JsValue.orNull_of_defined (by rw [JsValue.detach_isUndefined, hdef])] at hitem
        exact ih _ hv hdef (hfinite _ hv) (hw.2 _ hv) hitem
  | obj fields ih =>
    rw [allFinite_obj] at hfinite
    rw [JsValue.wellFormed_obj] at hw
    rw [JsValue.detach_obj] at h
    cases h with
    | obj heach =>
      refine .obj hw.1.nodup fun f hf => ?_
      obtain ⟨hmem, hdef⟩ := List.mem_filter.1 hf
      have hfield : JsValue.field fields f.1 = f.2 := by
        unfold JsValue.field
        rw [Fields.get?_of_mem hw.1.nodup hmem]
        rfl
      have hsame := heach f.1
      rw [JsValue.field_detach hw.1.nodup, hfield] at hsame
      exact ih f hmem (by simpa using hdef) (hfinite f hmem) (hw.2 f hmem) hsame

theorem Canonical.jsonLike (v : JsValue) (h : Canonical v) (hw : v.WellFormed) : JsonLike v := by
  induction v using JsValue.induct with
  | undefined => cases h.isUndefined
  | null => exact .null
  | bool b => exact .bool b
  | num x =>
    obtain ⟨text, htext⟩ := h
    rw [canonicalJson] at htext
    split at htext
    · rename_i hfinite
      exact .num hfinite
    · cases htext
  | str s => exact .str s
  | arr items ih =>
    rw [JsValue.wellFormed_arr] at hw
    exact .arr fun v hv => ih v hv (canonical_arr.1 h v hv) (hw.2 v hv)
  | obj fields ih =>
    rw [JsValue.wellFormed_obj] at hw
    refine .obj hw.1.nodup fun f hf => ?_
    have hmem := (List.mem_filter.1 hf).1
    exact ih f hmem (canonical_obj.1 h f hf) (hw.2 f hmem)

/-! ### Envelopes -/

/-- The number that JSON text denotes for a finite number. -/
def Json.JsNumber.detached (x : JsNumber) : JsNumber := x.throughText.getD x

private theorem detach_num_detached {x : JsNumber} (h : x.isFinite = true) :
    (JsValue.num x).detach = .num x.detached := by
  obtain ⟨y, hy⟩ := exists_throughText h
  rw [detach_num hy, JsNumber.detached, hy]
  rfl

private theorem safeNat?_detached (x : JsNumber) : x.detached.safeNat? = x.safeNat? := by
  cases x with
  | finite d => rfl
  | negZero => rfl
  | infinity neg => rfl
  | nan => rfl

private theorem isFinite_detached {x : JsNumber} (h : x.isFinite = true) : x.detached.isFinite = true := by
  cases x with
  | finite d => rfl
  | negZero => rfl
  | infinity neg => cases h
  | nan => cases h

namespace GameSnapshotEnvelope

/-- The envelope that the text of an envelope denotes. -/
def detached (e : GameSnapshotEnvelope) : GameSnapshotEnvelope :=
  { e with
    mapSeed := e.mapSeed.detached
    createdAt := e.createdAt.detached
    payload := Fields.mapValues JsValue.detach (JsValue.defined e.payload) }

/-- The numbers of the envelope's own fields are finite. -/
structure FiniteHeader (e : GameSnapshotEnvelope) : Prop where
  mapSeed : e.mapSeed.isFinite = true
  createdAt : e.createdAt.isFinite = true

private theorem header_detached {e : GameSnapshotEnvelope} (h : e.FiniteHeader) :
    Fields.mapValues JsValue.detach (JsValue.defined e.header) = e.detached.header := by
  have hseed := detach_num_detached h.mapSeed
  have hcreated := detach_num_detached h.createdAt
  obtain ⟨schema, roomId, epoch, tick, snapshotTick, revision, seed, created, encoding, checksum, payload⟩ := e
  have hfields : ∀ tail : Fields JsValue, Fields.mapValues JsValue.detach (JsValue.defined tail) = tail →
      Fields.mapValues JsValue.detach (JsValue.defined
        ([("mapSeed", .num seed), ("createdAt", .num created), ("checksumAlgorithm", .str "sha256")] ++ tail)) =
      [("mapSeed", .num seed.detached), ("createdAt", .num created.detached), ("checksumAlgorithm", .str "sha256")] ++
        tail := by
    intro tail htail
    rw [← hseed, ← hcreated]
    exact congrArg (_ :: _ :: _ :: ·) htail
  have hencoding : Fields.mapValues JsValue.detach (JsValue.defined (ChecksumEncoding.toFields encoding)) =
      ChecksumEncoding.toFields encoding := by
    cases encoding <;> rfl
  exact congrArg (_ :: _ :: _ :: _ :: _ :: _ :: _ :: _ :: ·) (hfields _ hencoding)

theorem detach_toRecord {e : GameSnapshotEnvelope} (h : e.FiniteHeader) :
    (JsValue.obj e.toRecord).detach = .obj e.detached.toRecord := by
  rw [JsValue.detach_obj]
  congr 1
  unfold toRecord
  rw [← header_detached h]
  simp only [JsValue.defined, List.filter_append, Fields.mapValues, List.map_append]
  congr 1
  exact congrArg (fun v => [("payload", v), ("checksum", .str e.checksum)]) (JsValue.detach_obj e.payload)

theorem detach_content {e : GameSnapshotEnvelope} (h : e.FiniteHeader) : e.content.detach = e.detached.content := by
  unfold content
  rw [JsValue.detach_obj]
  congr 1
  rw [← header_detached h]
  simp only [JsValue.defined, List.filter_append, Fields.mapValues, List.map_append]
  congr 1
  exact congrArg (fun v => [("payload", v)]) (JsValue.detach_obj e.payload)

end GameSnapshotEnvelope

section
variable (sha256 : List Char → HexDigest)

/-- The JSON text of the envelope is parsed, as an equal envelope that verification accepts. -/
def EnvelopeReadsBack (e : GameSnapshotEnvelope) : Prop :=
  ∃ text e', stringify (.obj e.toRecord) = some text ∧ parseSnapshotEnvelope sha256 text = .ok e' ∧
    SameJson (.obj e.toRecord) (.obj e'.toRecord) ∧ verifySnapshotEnvelope sha256 (.obj e'.toRecord) = .ok e'

variable {sha256} {e : GameSnapshotEnvelope}

private theorem finiteHeader (h : envelopeChecksum sha256 e = .ok e.checksum) : e.FiniteHeader where
  mapSeed := envelopeChecksum_mapSeed sha256 h
  createdAt := by
    have hcreated : ("createdAt", JsValue.num e.createdAt) ∈ e.header := by simp [GameSnapshotEnvelope.header]
    exact envelopeChecksum_number sha256 h hcreated

private theorem envelopeChecksum_detached (h : envelopeChecksum sha256 e = .ok e.checksum) :
    envelopeChecksum sha256 e.detached = .ok e.checksum := by
  obtain ⟨text, htext, hsum⟩ := (envelopeChecksum_eq_ok sha256).1 h
  refine (envelopeChecksum_eq_ok sha256).2 ⟨text, ?_, hsum⟩
  have hcontent := GameSnapshotEnvelope.detach_content (finiteHeader h)
  have hplain : e.detached.content.Plain := hcontent ▸ JsValue.plain_detach _ rfl
  have hdetach : e.content.detach = e.detached.content.detach := by rw [JsValue.detach_of_plain _ hplain, hcontent]
  unfold checksumText at htext ⊢
  have hencoding : e.detached.checksumEncoding = e.checksumEncoding := rfl
  rw [hencoding]
  split at htext
  · rename_i hordered
    rw [if_pos hordered, ← htext]
    exact orderedText_congr (allFinite_of_plain _ hplain) (allFinite_of_orderedText htext) rfl hdetach.symm
  · rename_i hcanonical
    rw [if_neg hcanonical, ← htext]
    exact (canonicalJson_congr ⟨text, htext⟩ (canonical_of_plain _ hplain)
      (congrArg JsValue.sortKeys hdetach)).symm

/-- The envelope that the text denotes passes the field checks when the metadata does. -/
private theorem fieldChecks_detached {payload : Fields JsValue} {context : SnapshotEnvelopeContext}
    (hw : (JsValue.obj payload).WellFormed) (h : createSnapshotEnvelope sha256 payload context = .ok e) :
    e.detached.FieldChecks ↔ e.MetadataVerifies := by
  obtain ⟨hpay, -, hroom, -, -, -, hschema, hsum⟩ := createSnapshotEnvelope_eq_ok sha256 h
  rw [envelopeChecksum_checksum] at hsum
  rw [JsValue.wellFormed_obj] at hw
  subst hpay
  obtain ⟨text, -, htext⟩ := (envelopeChecksum_eq_ok sha256).1 hsum
  have hlen : (utf16 e.checksum).length = 64 := by rw [← htext]; exact (sha256 text).utf16_length
  obtain ⟨hsome, hpos⟩ := Option.filter_eq_some_iff.1 hschema
  have hfield : ∀ key, JsValue.field e.detached.payload key = (JsValue.field e.payload key).detach :=
    JsValue.field_detach hw.1.nodup
  have hs : (JsValue.field e.detached.payload "schemaVersion").asSafeNat? = some e.payloadSchemaVersion := by
    rw [hfield, asSafeNat?_detach hsome]
  have hr : (JsValue.field e.detached.payload "roomId").asStr? = (JsValue.field e.payload "roomId").asStr? := by
    rw [hfield, asStr?_detach]
  unfold GameSnapshotEnvelope.FieldChecks GameSnapshotEnvelope.MetadataVerifies
  rw [hs, hr]
  have hcreated : e.detached.createdAt.safeNat? = e.createdAt.safeNat? := safeNat?_detached _
  rw [hcreated]
  constructor
  · rintro ⟨-, -, hrevision, -, hcreated, -, -, hid⟩
    exact ⟨hrevision, hcreated, hid⟩
  · rintro ⟨hrevision, hcreated, hid⟩
    exact ⟨hlen, hroom, hrevision, isFinite_detached (envelopeChecksum_mapSeed sha256 hsum), hcreated,
      of_decide_eq_true hpos, rfl, hid⟩

private theorem readEnvelope?_detached : (JsValue.obj e.detached.toRecord).asRecord?.bind readEnvelope? =
    if e.detached.FieldChecks then some e.detached else none :=
  readEnvelope?_eq fun _ => rfl

private theorem jsonLike_toRecord (h : envelopeChecksum sha256 e = .ok e.checksum)
    (hw : (JsValue.obj e.toRecord).WellFormed) (hlike : JsonLike (.obj e.payload)) : JsonLike (.obj e.toRecord) := by
  rw [JsValue.wellFormed_obj] at hw
  refine .obj hw.1.nodup fun f hf => ?_
  rcases List.mem_append.1 (List.mem_filter.1 hf).1 with hheader | htail
  · have hfinite := finiteHeader h
    unfold GameSnapshotEnvelope.header at hheader
    have hencoding : ∀ f ∈ ChecksumEncoding.toFields e.checksumEncoding, JsonLike f.2 := by
      intro f hf
      cases hc : e.checksumEncoding with
      | none =>
        rw [hc] at hf
        cases hf
      | some encoding =>
        rw [hc, ChecksumEncoding.toFields, List.mem_singleton] at hf
        rw [hf]
        exact .str _
    rcases List.mem_append.1 hheader with hheader | hheader
    · simp only [List.mem_cons, List.not_mem_nil, or_false] at hheader
      rcases hheader with rfl | rfl | rfl | rfl | rfl | rfl | rfl | rfl | rfl | rfl | rfl
      · exact .str _
      · exact .num rfl
      · exact .num rfl
      · exact .str _
      · exact .num rfl
      · exact .num rfl
      · exact .num rfl
      · exact .str _
      · exact .num hfinite.mapSeed
      · exact .num hfinite.createdAt
      · exact .str _
    · exact hencoding f hheader
  · simp only [List.mem_cons, List.not_mem_nil, or_false] at htail
    rcases htail with rfl | rfl
    · exact hlike
    · exact .str _

/-- A payload with a checksum is JSON-like if it is the same behind its text. -/
private theorem jsonLike_payload (h : envelopeChecksum sha256 e = .ok e.checksum)
    (hw : (JsValue.obj e.payload).WellFormed) (hsame : SameJson (.obj e.payload) (JsValue.obj e.payload).detach) :
    JsonLike (.obj e.payload) := by
  have hmem : ("payload", JsValue.obj e.payload) ∈ e.header ++ [("payload", .obj e.payload)] :=
    List.mem_append_right _ (List.mem_singleton.2 rfl)
  obtain ⟨text, htext, -⟩ := (envelopeChecksum_eq_ok sha256).1 h
  unfold checksumText at htext
  split at htext
  · have hfinite := allFinite_obj.1 (allFinite_of_orderedText htext) _ hmem
    exact jsonLike_of_same_detach _ rfl hfinite hw hsame
  · have hcanonical := canonical_obj.1 ⟨text, htext⟩ _ (List.mem_filter.2 ⟨hmem, rfl⟩)
    exact hcanonical.jsonLike _ hw

private theorem field_payload (e : GameSnapshotEnvelope) : JsValue.field e.toRecord "payload" = .obj e.payload := by
  unfold GameSnapshotEnvelope.toRecord GameSnapshotEnvelope.header
  cases e.checksumEncoding <;> rfl

private theorem detach_payload (e : GameSnapshotEnvelope) : (JsValue.obj e.payload).detach = .obj e.detached.payload :=
  JsValue.detach_obj e.payload

/-- An envelope that was created is read back just when its metadata would pass verification and its payload is
JSON-like. -/
theorem envelope_reads_back_iff {payload : Fields JsValue} {context : SnapshotEnvelopeContext}
    (hw : (JsValue.obj payload).WellFormed) (h : createSnapshotEnvelope sha256 payload context = .ok e) :
    EnvelopeReadsBack sha256 e ↔ e.MetadataVerifies ∧ JsonLike (.obj payload) := by
  obtain ⟨hpay, -, -, -, -, -, -, hsum⟩ := createSnapshotEnvelope_eq_ok sha256 h
  rw [envelopeChecksum_checksum] at hsum
  have hchecks := fieldChecks_detached hw h
  have hrecord := GameSnapshotEnvelope.detach_toRecord (finiteHeader hsum)
  have hwell : (JsValue.obj e.toRecord).WellFormed := toRecord_wellFormed (hpay ▸ hw)
  have htext : stringify (.obj e.toRecord) = some (String.ofList (write (JsValue.obj e.toRecord).detach)) := rfl
  have hparse := parse_stringify hwell htext
  rw [hrecord] at hparse
  have hverify : verifySnapshotEnvelope sha256 (.obj e.detached.toRecord) = .ok e.detached ↔ e.MetadataVerifies := by
    rw [verifySnapshotEnvelope_eq_ok, readEnvelope?_detached, ← hchecks]
    constructor
    · rintro ⟨hread, -⟩
      by_contra hno
      rw [if_neg hno] at hread
      cases hread
    · intro hyes
      rw [if_pos hyes]
      exact ⟨rfl, by simp, by simp, e.checksum, envelopeChecksum_detached hsum, rfl⟩
  have hparsed : ∀ e', parseSnapshotEnvelope sha256 (String.ofList (write (JsValue.obj e.toRecord).detach)) = .ok e' ↔
      verifySnapshotEnvelope sha256 (.obj e.detached.toRecord) = .ok e' := by
    intro e'
    unfold parseSnapshotEnvelope
    rw [hrecord, hparse]
    simp [refuse, orThrow, bind, Except.bind]
  rw [← hpay]
  constructor
  · rintro ⟨_, e', htext', hread, hsame, -⟩
    cases htext.symm.trans htext'
    have hread := (hparsed e').1 hread
    obtain rfl : e' = e.detached := by
      obtain ⟨hbind, -⟩ := (verifySnapshotEnvelope_eq_ok sha256).1 hread
      rw [readEnvelope?_detached] at hbind
      split at hbind
      · exact (Option.some.inj hbind).symm
      · cases hbind
    refine ⟨hverify.1 hread, jsonLike_payload hsum (hpay ▸ hw) ?_⟩
    cases hsame with
    | obj heach =>
      have hpayload := heach "payload"
      rwa [field_payload, field_payload, ← detach_payload] at hpayload
  · rintro ⟨hmetadata, hlike⟩
    have hread := hverify.2 hmetadata
    refine ⟨_, _, htext, (hparsed _).2 hread, ?_, hread⟩
    rw [← hrecord]
    exact (jsonLike_toRecord hsum hwell hlike).same_detach

end

/-! ### Journal entries -/

namespace RoomJournalEntry

/-- The entry that the text of an entry denotes. -/
def detached (entry : RoomJournalEntry) : RoomJournalEntry :=
  { entry with
    createdAt := entry.createdAt.detached
    payload := entry.payload.detach }

theorem toRecord_wellFormed {entry : RoomJournalEntry} (h : entry.payload.WellFormed) :
    (JsValue.obj entry.toRecord).WellFormed := by
  rw [JsValue.wellFormed_obj]
  have hkeys : Fields.keys entry.toRecord = ["kind", "schemaVersion", "roomId", "roomEpoch", "serverTick", "eventType",
    "createdAt", "checksumAlgorithm", "payload", "checksum"] := rfl
  refine ⟨⟨by rw [hkeys]; decide, by rw [hkeys]; decide⟩, ?_⟩
  simp only [toRecord, header, List.cons_append, List.nil_append, List.forall_mem_cons, List.not_mem_nil,
    JsValue.WellFormed, true_and]
  exact ⟨h, by simp⟩

private theorem detached_header {entry : RoomJournalEntry} (h : entry.createdAt.isFinite = true) :
    entry.detached.header = Fields.mapValues JsValue.detach entry.header := by
  have hcreated := detach_num_detached h
  unfold detached header
  rw [← hcreated]
  rfl

private theorem detached_content {entry : RoomJournalEntry} (h : entry.createdAt.isFinite = true) :
    entry.detached.content = .obj (Fields.mapValues JsValue.detach (entry.header ++ [("payload", entry.payload)])) := by
  unfold content
  rw [detached_header h, Fields.mapValues, Fields.mapValues, List.map_append]
  rfl

private theorem detached_toRecord {entry : RoomJournalEntry} (h : entry.createdAt.isFinite = true) :
    entry.detached.toRecord = Fields.mapValues JsValue.detach entry.toRecord := by
  unfold toRecord
  rw [detached_header h, Fields.mapValues, Fields.mapValues, List.map_append]
  rfl

/-- Reading a field of the text of an entry. -/
private theorem field_detached {entry : RoomJournalEntry} (h : entry.createdAt.isFinite = true) (key : String) :
    JsValue.field entry.detached.toRecord key = (JsValue.field entry.toRecord key).detach := by
  rw [detached_toRecord h]
  unfold JsValue.field
  rw [Fields.get?_mapValues]
  cases Fields.get? entry.toRecord key <;> rfl

private theorem detach_mapValues (fs : Fields JsValue) :
    (JsValue.obj (Fields.mapValues JsValue.detach fs)).detach = (JsValue.obj fs).detach := by
  rw [JsValue.detach_obj, JsValue.detach_obj]
  congr 1
  induction fs with
  | nil => rfl
  | cons f fs ih =>
    unfold JsValue.defined Fields.mapValues at ih ⊢
    rw [List.map_cons, List.filter_cons, List.filter_cons, JsValue.detach_isUndefined]
    split
    · rw [List.map_cons, List.map_cons, ih, JsValue.detach_detach]
    · exact ih

theorem detach_content {entry : RoomJournalEntry} (h : entry.createdAt.isFinite = true) :
    entry.detached.content.detach = entry.content.detach := by
  rw [detached_content h]
  exact detach_mapValues _

/-- The checks of a reader on the fields of an entry. -/
def FieldChecks (entry : RoomJournalEntry) : Prop :=
  entry.roomId ≠ "" ∧ entry.eventType ≠ "" ∧ entry.createdAt.safeNat?.isSome ∧ (utf16 entry.checksum).length = 64

instance (entry : RoomJournalEntry) : Decidable entry.FieldChecks := by unfold FieldChecks; infer_instance

end RoomJournalEntry

/-- A record that has the fields of an entry is read as that entry, if it passes the field checks. -/
theorem readEntry?_eq {fs : Fields JsValue} {entry : RoomJournalEntry}
    (h : ∀ key, JsValue.field fs key = JsValue.field entry.toRecord key) :
    readEntry? fs = if entry.FieldChecks then some entry else none := by
  have hone : (JsNumber.ofNat 1).safeNat? = some ⟨1, by decide⟩ := JsNumber.safeNat?_ofNat ⟨1, by decide⟩
  have hnat : ∀ n : SafeNat, (JsNumber.ofNat n).safeNat? = some n := JsNumber.safeNat?_ofNat
  have h1 : JsValue.field entry.toRecord "kind" = .str "opsia.room-journal-entry" := rfl
  have h2 : JsValue.field entry.toRecord "schemaVersion" = .num (.ofNat 1) := rfl
  have h3 : JsValue.field entry.toRecord "roomId" = .str entry.roomId := rfl
  have h4 : JsValue.field entry.toRecord "roomEpoch" = .num (.ofNat entry.roomEpoch) := rfl
  have h5 : JsValue.field entry.toRecord "serverTick" = .num (.ofNat entry.serverTick) := rfl
  have h6 : JsValue.field entry.toRecord "eventType" = .str entry.eventType := rfl
  have h7 : JsValue.field entry.toRecord "createdAt" = .num entry.createdAt := rfl
  have h8 : JsValue.field entry.toRecord "checksumAlgorithm" = .str "sha256" := rfl
  have h9 : JsValue.field entry.toRecord "checksum" = .str entry.checksum := rfl
  have h10 : JsValue.field entry.toRecord "payload" = entry.payload := rfl
  unfold readEntry?
  simp only [h, h1, h2, h3, h4, h5, h6, h7, h8, h9, h10, JsValue.asStr?, JsValue.asNum?, JsValue.asSafeNat?,
    Option.bind_some, hnat, hone, guard, if_true]
  unfold RoomJournalEntry.FieldChecks
  by_cases hroom : entry.roomId = ""
  · simp [hroom]
  by_cases hevent : entry.eventType = ""
  · simp [hevent]
  by_cases hcreated : entry.createdAt.safeNat?.isSome = true
  · by_cases hchecksum : (utf16 entry.checksum).length = 64
    · simp [hroom, hevent, hcreated, hchecksum]
    · simp [hchecksum]
  · simp [hcreated]

section
variable (sha256 : List Char → HexDigest)

/-- The JSON text of the entry is parsed, as an equal entry. -/
def EntryReadsBack (entry : RoomJournalEntry) : Prop :=
  ∃ text entry', stringify (.obj entry.toRecord) = some text ∧ parseRoomJournalEntry sha256 text = .ok entry' ∧
    SameJson (.obj entry.toRecord) (.obj entry'.toRecord)

/-- What a created entry satisfies. -/
structure CreatedEntry (input : RoomJournalInput) (entry : RoomJournalEntry) : Prop where
  createdAt : entry.createdAt = input.createdAt
  payload : entry.payload = input.payload
  roomId : entry.roomId ≠ ""
  eventType : entry.eventType ≠ ""
  canonical : Canonical entry.content
  checksum : checksumValue sha256 entry.content = .ok entry.checksum

variable {sha256}

theorem createRoomJournalEntry_eq_ok {input : RoomJournalInput} {entry : RoomJournalEntry}
    (h : createRoomJournalEntry sha256 input = .ok entry) : CreatedEntry sha256 input entry := by
  unfold createRoomJournalEntry at h
  simp only [bind_eq_ok, refuse_eq_ok, orThrow_eq_ok] at h
  obtain ⟨_, hnames, epoch, -, tick, -, checksum, hchecksum, h⟩ := h
  cases h
  obtain ⟨text, htext, -⟩ := map_eq_ok.1 hchecksum
  exact ⟨rfl, rfl, (not_or.1 hnames).1, (not_or.1 hnames).2, ⟨text, htext⟩, hchecksum⟩

namespace CreatedEntry

variable {input : RoomJournalInput} {entry : RoomJournalEntry}

private theorem field_canonical (h : CreatedEntry sha256 input entry) {key : String} {v : JsValue}
    (hmem : (key, v) ∈ entry.header ++ [("payload", entry.payload)]) (hdef : v.isUndefined = false) : Canonical v :=
  canonical_obj.1 h.canonical _ (List.mem_filter.2 ⟨hmem, by rw [hdef]; rfl⟩)

private theorem finite (h : CreatedEntry sha256 input entry) : entry.createdAt.isFinite = true := by
  have hmem : ("createdAt", JsValue.num entry.createdAt) ∈ entry.header ++ [("payload", entry.payload)] := by
    simp [RoomJournalEntry.header]
  obtain ⟨text, htext⟩ := h.field_canonical hmem rfl
  rw [canonicalJson] at htext
  split at htext
  · assumption
  · cases htext

private theorem checksum_detached (h : CreatedEntry sha256 input entry) :
    checksumValue sha256 entry.detached.content = .ok entry.checksum := by
  have hdetach := RoomJournalEntry.detach_content h.finite
  have hcanonical : Canonical entry.detached.content := by
    rw [RoomJournalEntry.detached_content h.finite]
    refine canonical_obj.2 fun f hf => ?_
    obtain ⟨hmem, hdef⟩ := List.mem_filter.1 hf
    obtain ⟨g, -, rfl⟩ := List.mem_map.1 hmem
    rw [JsValue.detach_isUndefined] at hdef
    exact canonical_of_plain _ (JsValue.plain_detach g.2 (by simpa using hdef))
  rw [← h.checksum]
  unfold checksumValue
  rw [canonicalJson_congr hcanonical h.canonical (congrArg JsValue.sortKeys hdetach)]

/-- The records of an entry and of what its text denotes are the same. -/
private theorem same_detached (h : CreatedEntry sha256 input entry) (hw : entry.payload.WellFormed) :
    SameJson (.obj entry.toRecord) (.obj entry.detached.toRecord) := by
  have hwell := RoomJournalEntry.toRecord_wellFormed hw
  have hcanonical : Canonical (.obj entry.toRecord) := by
    refine canonical_obj.2 fun f hf => ?_
    obtain ⟨hmem, hdef⟩ := List.mem_filter.1 hf
    have hfields : entry.toRecord =
        (entry.header ++ [("payload", entry.payload)]) ++ [("checksum", .str entry.checksum)] := rfl
    rw [hfields] at hmem
    rcases List.mem_append.1 hmem with hmem | hmem
    · exact h.field_canonical hmem (by simpa using hdef)
    · rw [List.mem_singleton.1 hmem]
      exact ⟨_, by rw [canonicalJson]⟩
  rw [JsValue.wellFormed_obj] at hwell
  have hsame := (hcanonical.jsonLike _ (RoomJournalEntry.toRecord_wellFormed hw)).same_detach
  rw [JsValue.detach_obj] at hsame
  cases hsame with
  | obj heach =>
    refine .obj fun key => ?_
    have hkey := heach key
    rwa [JsValue.field_detach hwell.1.nodup, ← RoomJournalEntry.field_detached h.finite] at hkey

end CreatedEntry

/-- An entry that was created is read back just when its time of creation is a safe integer that is not negative. -/
theorem entry_reads_back_iff {input : RoomJournalInput} {entry : RoomJournalEntry} (hw : input.payload.WellFormed)
    (h : createRoomJournalEntry sha256 input = .ok entry) :
    EntryReadsBack sha256 entry ↔ input.createdAt.safeNat?.isSome = true := by
  have hcreated := createRoomJournalEntry_eq_ok h
  rw [← hcreated.payload] at hw
  have hwell := RoomJournalEntry.toRecord_wellFormed hw
  have htext : stringify (.obj entry.toRecord) = some (String.ofList (write (JsValue.obj entry.toRecord).detach)) := rfl
  have hparse := parse_stringify hwell htext
  have hread : (JsValue.obj entry.toRecord).detach.asRecord?.bind readEntry? =
      if entry.detached.FieldChecks then some entry.detached else none := by
    rw [JsValue.detach_obj]
    refine readEntry?_eq fun key => ?_
    rw [JsValue.wellFormed_obj] at hwell
    rw [JsValue.field_detach hwell.1.nodup, RoomJournalEntry.field_detached hcreated.finite]
  have hchecks : entry.detached.FieldChecks ↔ input.createdAt.safeNat?.isSome = true := by
    obtain ⟨text, -, hchecksum⟩ := map_eq_ok.1 hcreated.checksum
    have hlength : (utf16 entry.checksum).length = 64 := by rw [← hchecksum]; exact (sha256 text).utf16_length
    have hsafe : entry.detached.createdAt.safeNat? = input.createdAt.safeNat? := by
      rw [← hcreated.createdAt]
      exact safeNat?_detached _
    unfold RoomJournalEntry.FieldChecks
    rw [hsafe]
    exact ⟨fun h => h.2.2.1, fun h => ⟨hcreated.roomId, hcreated.eventType, h, hlength⟩⟩
  rw [← hchecks]
  unfold EntryReadsBack parseRoomJournalEntry
  rw [htext]
  simp only [bind_eq_ok, orThrow_eq_ok, refuse_eq_ok]
  constructor
  · rintro ⟨_, entry', htext', ⟨value, hvalue, found, hfound, -⟩, -⟩
    cases htext'
    rw [hparse, Option.some.injEq] at hvalue
    rw [← hvalue, hread] at hfound
    by_contra hno
    rw [if_neg hno] at hfound
    cases hfound
  · intro hyes
    rw [if_pos hyes] at hread
    refine ⟨_, entry.detached, rfl, ⟨_, hparse, _, hread, entry.checksum, hcreated.checksum_detached, (), ?_, rfl⟩,
      hcreated.same_detached hw⟩
    exact fun hne => hne rfl

end

/-! ### Both -/

private theorem createSnapshotEnvelope_metadata {sha256 : List Char → HexDigest} {payload : Fields JsValue}
    {context : SnapshotEnvelopeContext} {e : GameSnapshotEnvelope}
    (h : createSnapshotEnvelope sha256 payload context = .ok e) :
    e.gameBuildRevision = context.gameBuildRevision ∧ e.createdAt = context.createdAt := by
  unfold createSnapshotEnvelope at h
  simp only [bind_eq_ok] at h
  obtain ⟨_, -, epoch, -, tick, -, stick, -, schema, -, checksum, -, h⟩ := h
  cases h
  exact ⟨rfl, rfl⟩

/-- Envelopes and entries that were created are read back just when the reader's checks pass on what the writer does
not check. -/
theorem read_back_iff (sha256 : List Char → HexDigest) :
    (∀ payload context e, (JsValue.obj payload).WellFormed → createSnapshotEnvelope sha256 payload context = .ok e →
      (EnvelopeReadsBack sha256 e ↔ context.gameBuildRevision ≠ "" ∧ context.createdAt.safeNat?.isSome = true ∧
        (∀ id ∈ (JsValue.field payload "roomId").asStr?, id = context.roomId) ∧ JsonLike (.obj payload))) ∧
    ∀ input entry, input.payload.WellFormed → createRoomJournalEntry sha256 input = .ok entry →
      (EntryReadsBack sha256 entry ↔ input.createdAt.safeNat?.isSome = true) := by
  refine ⟨fun payload context e hw h => ?_, fun input entry hw h => entry_reads_back_iff hw h⟩
  obtain ⟨hpayload, hroom, -⟩ := createSnapshotEnvelope_eq_ok sha256 h
  obtain ⟨hrevision, hcreated⟩ := createSnapshotEnvelope_metadata h
  rw [envelope_reads_back_iff hw h, GameSnapshotEnvelope.MetadataVerifies, hrevision, hcreated, hpayload, hroom,
    and_assoc, and_assoc]

namespace Sample

def journalInput : RoomJournalInput where
  roomId := "room-1"
  roomEpoch := .ofNat 1
  serverTick := .ofNat 10
  eventType := "checkpoint"
  createdAt := .ofNat 1000
  payload := .obj world

def journalDigest : HexDigest :=
  ⟨"9ea427c94e1f2c5112755c3d81f3c0d6b8f48d71d5b7dbe06b62baa14f4d1ece", by decide +kernel, by decide +kernel⟩

def journalEntry : RoomJournalEntry where
  roomId := "room-1"
  roomEpoch := ⟨1, one_safe⟩
  serverTick := ⟨10, ten_safe⟩
  eventType := "checkpoint"
  createdAt := .ofNat 1000
  checksum := journalDigest.text
  payload := .obj world

/-- SHA-256 on the canonical text of this entry and of the sample envelopes. -/
def writtenSha256 (text : List Char) : HexDigest :=
  if canonicalJson journalEntry.content = .ok text then journalDigest else canonicalSha256 text

end Sample

open Sample in
theorem envelope_and_entry_read_back :
    EnvelopeReadsBack writtenSha256 canonicalBase ∧ EntryReadsBack writtenSha256 journalEntry := by
  have hpayload : (JsValue.obj (payload [] world)).WellFormed := payload_wellFormed (Or.inl rfl) world_wellFormed
  have hplain : (JsValue.obj (payload [] world)).Plain := by
    rw [JsValue.plain_obj]
    simp [payload, world, JsValue.Plain, JsValue.PlainFields, JsNumber.throughText, JsNumber.ofNat]
  have hlike : JsonLike (.obj (payload [] world)) := (canonical_of_plain _ hplain).jsonLike _ hpayload
  have henvelope : createSnapshotEnvelope writtenSha256 (payload [] world) (context 10 1 "r1") = .ok canonicalBase := by
    decide +kernel
  have hchecksum : checksumValue writtenSha256 journalEntry.content = .ok journalDigest.text := by decide +kernel
  have hentry : createRoomJournalEntry writtenSha256 journalInput = .ok journalEntry :=
    bind_eq_ok.2 ⟨(), rfl, bind_eq_ok.2 ⟨_, rfl, bind_eq_ok.2 ⟨_, rfl, bind_eq_ok.2 ⟨_, hchecksum, rfl⟩⟩⟩⟩
  obtain ⟨henvelopes, hentries⟩ := read_back_iff writtenSha256
  exact ⟨(henvelopes _ _ _ hpayload henvelope).2 ⟨by decide, by decide +kernel, by decide +kernel, hlike⟩,
    (hentries _ _ world_wellFormed hentry).2 (by decide +kernel)⟩

open Sample in
/-- An envelope created with an empty build revision is not read back. -/
theorem unversioned_not_read_back :
    createSnapshotEnvelope canonicalSha256 (payload [] worldInserted) (context 20 2 "") = .ok unversionedTarget ∧
      ¬EnvelopeReadsBack canonicalSha256 unversionedTarget := by
  have hcreate : createSnapshotEnvelope canonicalSha256 (payload [] worldInserted) (context 20 2 "") =
      .ok unversionedTarget := by decide +kernel
  have hpayload : (JsValue.obj (payload [] worldInserted)).WellFormed :=
    payload_wellFormed (Or.inl rfl) worldInserted_wellFormed
  refine ⟨hcreate, fun h => ?_⟩
  exact ((envelope_reads_back_iff hpayload hcreate).1 h).1.1 rfl

end Opsia
