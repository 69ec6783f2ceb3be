import Opsia.Snapshot.Envelope

/-!
# The room journal

Every entry carries a payload with the epoch and the tick it belongs to and a checksum over all of it.  `readAfter`
reads a page of the stream behind a cursor and verifies each entry of it; `catchUp` pages through the stream until it
reaches a tick, its limit or the end.  The stream may change between two pages: what a read sees is given by the number
of the read.  A round of `catchUp` with a page always scans an entry of it, so as many rounds as the limit are enough
(`catchUpLoop_fuel`).  A stream of rising ticks that it can scan whole is caught up with to its end (`catchUp_reaches`).
-/

namespace Opsia

open Json

/-- The id of a stream entry, `ms-sequence`. -/
structure StreamId where
  ms : Nat
  sequence : Nat
deriving DecidableEq

/-- `compareStreamIds(left, right) > 0`. -/
def StreamId.isAfter (left right : StreamId) : Bool :=
  if left.ms = right.ms then right.sequence < left.sequence else right.ms < left.ms

structure RoomJournalEntry where
  roomId : String
  roomEpoch : SafeNat
  serverTick : SafeNat
  eventType : String
  createdAt : JsNumber
  checksum : String
  payload : JsValue

structure RoomJournalRecord extends RoomJournalEntry where
  id : StreamId

/-- An entry of the stream; its `entry` field may be missing. -/
structure StoredRecord where
  id : StreamId
  encoded : Option String

namespace RoomJournalEntry

/-- The fields before `payload`. -/
def header (e : RoomJournalEntry) : Fields JsValue :=
  [("kind", .str "opsia.room-journal-entry"), ("schemaVersion", .num (.ofNat 1)), ("roomId", .str e.roomId),
    ("roomEpoch", .num (.ofNat e.roomEpoch)), ("serverTick", .num (.ofNat e.serverTick)), ("eventType", .str e.eventType),
    ("createdAt", .num e.createdAt), ("checksumAlgorithm", .str "sha256")]

/-- `journalContent`: what the checksum is taken of. -/
def content (e : RoomJournalEntry) : JsValue := .obj (e.header ++ [("payload", e.payload)])

/-- The entry as an object. -/
def toRecord (e : RoomJournalEntry) : Fields JsValue := e.header ++ [("payload", e.payload), ("checksum", .str e.checksum)]

end RoomJournalEntry

structure RoomJournalInput where
  roomId : String
  roomEpoch : JsNumber
  serverTick : JsNumber
  eventType : String
  /-- `input.createdAt ?? Date.now()` -/
  createdAt : JsNumber
  payload : JsValue

section

variable (sha256 : List Char → HexDigest)

def createRoomJournalEntry (input : RoomJournalInput) : Except String RoomJournalEntry := do
  refuse (input.roomId = "" ∨ input.eventType = "") "invalid_room_journal_entry"
  let roomEpoch ← orThrow input.roomEpoch.safeNat? "invalid_room_journal_entry"
  let serverTick ← orThrow input.serverTick.safeNat? "invalid_room_journal_entry"
  let unsigned : RoomJournalEntry := {
    roomEpoch, serverTick
    roomId := input.roomId
    eventType := input.eventType
    createdAt := input.createdAt
    checksum := ""
    payload := input.payload }
  let checksum ← checksumValue sha256 unsigned.content
  return { unsigned with checksum }

/-- The entry in a record, when every field passes its check. -/
def readEntry? (fs : Fields JsValue) : Option RoomJournalEntry := do
  guard ((JsValue.field fs "kind").asStr? = some "opsia.room-journal-entry")
  guard ((JsValue.field fs "schemaVersion").asSafeNat? = some ⟨1, one_safe⟩)
  let roomId ← (JsValue.field fs "roomId").asStr?
  guard (roomId ≠ "")
  let roomEpoch ← (JsValue.field fs "roomEpoch").asSafeNat?
  let serverTick ← (JsValue.field fs "serverTick").asSafeNat?
  let eventType ← (JsValue.field fs "eventType").asStr?
  guard (eventType ≠ "")
  let createdAt ← (JsValue.field fs "createdAt").asNum?
  guard createdAt.safeNat?.isSome
  guard ((JsValue.field fs "checksumAlgorithm").asStr? = some "sha256")
  let checksum ← (JsValue.field fs "checksum").asStr?
  guard ((utf16 checksum).length = 64)
  return { roomId, roomEpoch, serverTick, eventType, createdAt, checksum, payload := JsValue.field fs "payload" }

def parseRoomJournalEntry (encoded : String) : Except String RoomJournalEntry := do
  let value ← orThrow (parse encoded) "invalid_room_journal_json"
  let entry ← orThrow (value.asRecord?.bind readEntry?) "invalid_room_journal_entry"
  let calculated ← checksumValue sha256 entry.content
  refuse (calculated ≠ entry.checksum) "room_journal_checksum_mismatch"
  return entry

/-- `RoomStateJournal`: the room it serves and the largest entry it takes. -/
structure RoomStateJournal where
  roomId : String
  maxEntryBytes : Nat

namespace RoomStateJournal

variable (journal : RoomStateJournal)

/-- The text that `append` sends to the stream. -/
def encodeEntry (roomEpoch serverTick : JsNumber) (eventType : String) (now : JsNumber) (payload : JsValue) :
    Except String String := do
  let entry ← createRoomJournalEntry sha256
    { roomId := journal.roomId, roomEpoch, serverTick, eventType, createdAt := now, payload }
  let encoded ← orThrow (stringify (.obj entry.toRecord)) "invalid_room_journal_entry"
  refuse (journal.maxEntryBytes < encoded.utf8ByteSize) "room_journal_entry_too_large"
  return encoded

/-- The checks on one entry of a page. -/
def readRecord (roomEpoch : Option SafeNat) (stored : StoredRecord) : Except String RoomJournalRecord := do
  let encoded ← orThrow stored.encoded "invalid_room_journal_entry"
  refuse (journal.maxEntryBytes < encoded.utf8ByteSize) "room_journal_entry_too_large"
  let entry ← parseRoomJournalEntry sha256 encoded
  refuse (entry.roomId ≠ journal.roomId) "room_journal_room_mismatch"
  refuse (∃ epoch ∈ roomEpoch, entry.roomEpoch ≠ epoch) "room_journal_epoch_mismatch"
  return { entry with id := stored.id }

def readAfter (stream : List StoredRecord) (cursor : StreamId) (count : Nat) (roomEpoch : Option SafeNat := none) :
    Except String (List RoomJournalRecord) := do
  refuse (count < 1 ∨ 1000 < count) "journal_read_count_invalid"
  let page := (stream.filter fun r => r.id.isAfter cursor).take count
  -- the client's answer is checked for missing fields before any entry is parsed
  refuse (∃ r ∈ page, r.encoded = none) "invalid_room_journal_entry"
  page.mapM (journal.readRecord sha256 roomEpoch)

end RoomStateJournal

end

structure JournalCatchUpOptions where
  afterId : StreamId := ⟨0, 0⟩
  afterTick : Nat := 0
  targetTick : Nat
  roomEpoch : SafeNat
  batchSize : Nat := 64
  maxEntries : Nat

/-- How far `catchUp` has come. -/
structure CatchUpState where
  entries : List RoomJournalRecord := []
  cursor : StreamId
  latestTick : Nat
  scannedEntries : Nat := 0

structure JournalCatchUpResult extends CatchUpState where
  targetTick : Nat
  caughtUp : Bool
  limitReached : Bool

/-- The loop over the records of a page. -/
def scanBatch (options : JournalCatchUpOptions) : List RoomJournalRecord → CatchUpState → Except String CatchUpState
  | [], s => .ok s
  | record :: batch, s =>
    let s := { s with scannedEntries := s.scannedEntries + 1, cursor := record.id }
    if record.roomEpoch.val < options.roomEpoch.val then scanBatch options batch s
    else if options.roomEpoch.val < record.roomEpoch.val then .error "room_journal_epoch_mismatch"
    else if record.serverTick.val ≤ s.latestTick then scanBatch options batch s
    else
      let s := { s with entries := s.entries ++ [record], latestTick := record.serverTick }
      if options.targetTick ≤ s.latestTick then .ok s else scanBatch options batch s

section

variable (sha256 : List Char → HexDigest) (journal : RoomStateJournal)
  (reads : Nat → Except String (List StoredRecord)) (options : JournalCatchUpOptions)

/-- The loop over the pages; `n` counts the reads. -/
def catchUpLoop : Nat → Nat → CatchUpState → Except String CatchUpState
  | 0, _, s => .ok s
  | fuel + 1, n, s =>
    if s.scannedEntries < options.maxEntries ∧ s.latestTick < options.targetTick then do
      let count := min options.batchSize (options.maxEntries - s.scannedEntries)
      let stream ← reads n
      let batch ← journal.readAfter sha256 stream s.cursor count
      if batch = [] then .ok s
      else
        let s' ← scanBatch options batch s
        if batch.length < count then .ok s' else catchUpLoop fuel (n + 1) s'
    else .ok s

def catchUp : Except String JournalCatchUpResult := do
  refuse (options.batchSize < 1 ∨ 1000 < options.batchSize) "journal_read_batch_invalid"
  refuse (options.maxEntries < 1 ∨ 10000 < options.maxEntries) "journal_catchup_limit_invalid"
  let s ← catchUpLoop sha256 journal reads options options.maxEntries 0
    { cursor := options.afterId, latestTick := options.afterTick }
  return { s with
    targetTick := options.targetTick
    caughtUp := decide (options.targetTick ≤ s.latestTick)
    limitReached := decide (options.maxEntries ≤ s.scannedEntries ∧ s.latestTick < options.targetTick) }

end

/-! ### What a catch-up reads -/

/-- What a page adds: records of the page, of the right epoch, with rising ticks behind the latest one. -/
structure ScanStep (options : JournalCatchUpOptions) (batch : List RoomJournalRecord) (s s' : CatchUpState) : Prop where
  entries : ∃ new, s'.entries = s.entries ++ new ∧ (∀ r ∈ new, r ∈ batch ∧ r.roomEpoch = options.roomEpoch) ∧
    (s.latestTick :: new.map fun r => r.serverTick.val).Pairwise (· < ·) ∧
    s'.latestTick = (s.latestTick :: new.map fun r => r.serverTick.val).getLast (List.cons_ne_nil _ _)
  scanned : s.scannedEntries ≤ s'.scannedEntries ∧ s'.scannedEntries ≤ s.scannedEntries + batch.length
  advanced : batch ≠ [] → s.scannedEntries < s'.scannedEntries

private theorem ScanStep.skip {options : JournalCatchUpOptions} {record : RoomJournalRecord}
    {batch : List RoomJournalRecord} {s s' : CatchUpState}
    (h : ScanStep options batch { s with scannedEntries := s.scannedEntries + 1, cursor := record.id } s') :
    ScanStep options (record :: batch) s s' := by
  obtain ⟨⟨new, hnew, hmem, hticks, hlast⟩, hscanned, -⟩ := h
  refine ⟨⟨new, hnew, fun r hr => ⟨List.mem_cons_of_mem _ (hmem r hr).1, (hmem r hr).2⟩, hticks, hlast⟩, ?_, ?_⟩
  · rw [List.length_cons]
    dsimp only at hscanned
    omega
  · intro _
    dsimp only at hscanned
    omega

theorem scanBatch_spec {options : JournalCatchUpOptions} {batch : List RoomJournalRecord} {s s' : CatchUpState}
    (h : scanBatch options batch s = .ok s') : ScanStep options batch s s' := by
  induction batch generalizing s with
  | nil =>
    cases h
    refine ⟨⟨[], by simp, by simp, by simp, by simp⟩, by simp, by simp⟩
  | cons record batch ih =>
    rw [scanBatch] at h
    dsimp only at h
    split at h
    · exact (ih h).skip
    split at h
    · cases h
    split at h
    · exact (ih h).skip
    rename_i hlow hhigh htick
    have hepoch : record.roomEpoch = options.roomEpoch := Subtype.ext (by omega)
    have hlt : s.latestTick < record.serverTick.val := by omega
    split at h
    · cases h
      refine ⟨⟨[record], rfl, by simp [hepoch], by simp [hlt], by simp⟩, by simp, by simp⟩
    · obtain ⟨⟨new, hnew, hmem, hticks, hlast⟩, hscanned, -⟩ := ih h
      dsimp only at hnew hticks hlast hscanned
      refine ⟨⟨record :: new, by rw [hnew, List.append_assoc]; rfl, ?_, ?_, ?_⟩, ?_, ?_⟩
      · intro r hr
        rcases List.mem_cons.1 hr with rfl | hr
        · exact ⟨List.mem_cons_self .., hepoch⟩
        · exact ⟨List.mem_cons_of_mem _ (hmem r hr).1, (hmem r hr).2⟩
      · rw [List.map_cons, List.pairwise_cons]
        refine ⟨?_, hticks⟩
        intro t ht
        rcases List.mem_cons.1 ht with rfl | ht
        · exact hlt
        · have := (List.pairwise_cons.1 hticks).1 t ht
          omega
      · rw [hlast, List.map_cons, List.getLast_cons (List.cons_ne_nil _ _)]
      · rw [List.length_cons]
        omega
      · intro _
        omega

section

variable {sha256 : List Char → HexDigest} {journal : RoomStateJournal}
  {reads : Nat → Except String (List StoredRecord)} {options : JournalCatchUpOptions}

/-- Every record of a page is a stored one that passed its checks. -/
theorem readAfter_mem {stream : List StoredRecord} {cursor : StreamId} {count : Nat} {roomEpoch : Option SafeNat}
    {batch : List RoomJournalRecord} (h : journal.readAfter sha256 stream cursor count roomEpoch = .ok batch) :
    ∀ r ∈ batch, ∃ stored ∈ stream, journal.readRecord sha256 roomEpoch stored = .ok r := by
  unfold RoomStateJournal.readAfter at h
  simp only [bind_eq_ok, refuse_eq_ok] at h
  obtain ⟨_, -, _, -, h⟩ := h
  have hmem : ∀ (stored : List StoredRecord) (batch : List RoomJournalRecord),
      stored.mapM (journal.readRecord sha256 roomEpoch) = .ok batch →
        ∀ r ∈ batch, ∃ x ∈ stored, journal.readRecord sha256 roomEpoch x = .ok r := by
    intro stored
    induction stored with
    | nil =>
      intro batch hb r hr
      cases hb
      cases hr
    | cons x stored ih =>
      intro batch hb r hr
      rw [List.mapM_cons] at hb
      obtain ⟨y, hy, hb⟩ := bind_eq_ok.1 hb
      obtain ⟨ys, hys, hb⟩ := bind_eq_ok.1 hb
      cases hb
      rcases List.mem_cons.1 hr with rfl | hr
      · exact ⟨x, List.mem_cons_self .., hy⟩
      · obtain ⟨z, hz, hzr⟩ := ih ys hys r hr
        exact ⟨z, List.mem_cons_of_mem _ hz, hzr⟩
  intro r hr
  obtain ⟨x, hx, hxr⟩ := hmem _ _ h r hr
  exact ⟨x, (List.mem_filter.1 (List.mem_of_mem_take hx)).1, hxr⟩

/-- One round of the loop over the pages, when it reads a page. -/
theorem catchUpLoop_succ {fuel n : Nat} {s t : CatchUpState}
    (h : catchUpLoop sha256 journal reads options (fuel + 1) n s = .ok t) :
    t = s ∨ ∃ stream batch s', s.scannedEntries < options.maxEntries ∧ reads n = .ok stream ∧
      journal.readAfter sha256 stream s.cursor (min options.batchSize (options.maxEntries - s.scannedEntries)) =
        .ok batch ∧ batch ≠ [] ∧ scanBatch options batch s = .ok s' ∧
      (t = s' ∨ catchUpLoop sha256 journal reads options fuel (n + 1) s' = .ok t) := by
  rw [catchUpLoop] at h
  split at h
  · rename_i hgo
    obtain ⟨stream, hstream, h⟩ := bind_eq_ok.1 h
    obtain ⟨batch, hbatch, h⟩ := bind_eq_ok.1 h
    split at h
    · cases h
      exact Or.inl rfl
    · rename_i hne
      obtain ⟨s', hscan, h⟩ := bind_eq_ok.1 h
      refine Or.inr ⟨stream, batch, s', hgo.1, hstream, hbatch, hne, hscan, ?_⟩
      split at h
      · cases h
        exact Or.inl rfl
      · exact Or.inr h
  · cases h
    exact Or.inl rfl

/-- The loop ends for the reasons the source gives, not for want of rounds: more rounds change nothing. -/
theorem catchUpLoop_fuel {fuel n : Nat} {s : CatchUpState} (hf : options.maxEntries ≤ fuel + s.scannedEntries) :
    catchUpLoop sha256 journal reads options (fuel + 1) n s = catchUpLoop sha256 journal reads options fuel n s := by
  induction fuel generalizing n s with
  | zero =>
    have hstop : ¬(s.scannedEntries < options.maxEntries ∧ s.latestTick < options.targetTick) := by omega
    rw [Nat.zero_add]
    simp only [catchUpLoop, if_neg hstop]
  | succ fuel ih =>
    rw [catchUpLoop, catchUpLoop]
    split
    · refine bind_congr fun stream => bind_congr fun batch => ?_
      split
      · rfl
      · rename_i hne
        cases hscan : scanBatch options batch s with
        | error e => rfl
        | ok s' =>
          have hadv := (scanBatch_spec hscan).advanced hne
          show (if _ then _ else _) = (if _ then _ else _)
          rw [ih (by omega)]
    · rfl

/-- Every entry a catch-up returns was read from the stream and passed its checks. -/
theorem catchUp_mem {result : JournalCatchUpResult} (h : catchUp sha256 journal reads options = .ok result) :
    ∀ r ∈ result.entries, ∃ n stream stored, reads n = .ok stream ∧ stored ∈ stream ∧
      journal.readRecord sha256 none stored = .ok r := by
  have hloop : ∀ (fuel n : Nat) (s t : CatchUpState), catchUpLoop sha256 journal reads options fuel n s = .ok t →
      ∀ r ∈ t.entries, r ∈ s.entries ∨ ∃ n stream stored, reads n = .ok stream ∧ stored ∈ stream ∧
        journal.readRecord sha256 none stored = .ok r := by
    intro fuel
    induction fuel with
    | zero =>
      intro n s t ht r hr
      cases ht
      exact Or.inl hr
    | succ fuel ih =>
      intro n s t ht r hr
      rcases catchUpLoop_succ ht with rfl | ⟨stream, batch, s', -, hstream, hbatch, -, hscan, ht⟩
      · exact Or.inl hr
      · have hr' : r ∈ s'.entries ∨ ∃ n stream stored, reads n = .ok stream ∧ stored ∈ stream ∧
            journal.readRecord sha256 none stored = .ok r := by
          rcases ht with rfl | ht
          · exact Or.inl hr
          · exact ih (n + 1) s' t ht r hr
        rcases hr' with hr' | hr'
        · obtain ⟨new, hnew, hmem, -⟩ := (scanBatch_spec hscan).entries
          rw [hnew] at hr'
          rcases List.mem_append.1 hr' with hr' | hr'
          · exact Or.inl hr'
          · obtain ⟨stored, hstored, hread⟩ := readAfter_mem hbatch r (hmem r hr').1
            exact Or.inr ⟨n, stream, stored, hstream, hstored, hread⟩
        · exact Or.inr hr'
  unfold catchUp at h
  simp only [bind_eq_ok, refuse_eq_ok] at h
  obtain ⟨_, -, _, -, s, hs, hret⟩ := h
  cases hret
  intro r hr
  rcases hloop _ _ _ _ hs r hr with hr | hr
  · cases hr
  · exact hr

end

/-! ### What a catch-up reaches -/

/-- The records that a catch-up is after. -/
def wanted (options : JournalCatchUpOptions) (records : List RoomJournalRecord) : List RoomJournalRecord :=
  records.filter fun r => decide (r.roomEpoch = options.roomEpoch ∧ options.afterTick < r.serverTick.val)

/-- Records of no larger epoch, the ticks of the right one rising up to the target, which the newest record has. -/
structure UpToTarget (options : JournalCatchUpOptions) (records : List RoomJournalRecord) : Prop where
  epochs : ∀ r ∈ records, r.roomEpoch.val ≤ options.roomEpoch.val
  ticks : records.Pairwise fun a b => a.roomEpoch = options.roomEpoch → b.roomEpoch = options.roomEpoch →
    a.serverTick.val < b.serverTick.val
  newest : ∃ older newest, records = older ++ [newest] ∧ newest.roomEpoch = options.roomEpoch ∧
    newest.serverTick.val = options.targetTick
  behind : options.afterTick < options.targetTick

/-- A catch-up has scanned these records. -/
structure Scanned (options : JournalCatchUpOptions) (done : List RoomJournalRecord) (s : CatchUpState) : Prop where
  entries : s.entries = wanted options done
  cursor : s.cursor = (done.getLast?.map RoomJournalRecord.id).getD options.afterId
  scanned : s.scannedEntries = done.length
  latest : s.latestTick = options.afterTick ∨ ∃ r ∈ done, r.roomEpoch = options.roomEpoch ∧ r.serverTick.val = s.latestTick
  after : options.afterTick ≤ s.latestTick
  passed : ∀ r ∈ done, r.roomEpoch = options.roomEpoch → r.serverTick.val ≤ s.latestTick

private theorem wanted_append (options : JournalCatchUpOptions) (records more : List RoomJournalRecord) :
    wanted options (records ++ more) = wanted options records ++ wanted options more := List.filter_append ..

/-- A record before others has a tick before the target. -/
private theorem UpToTarget.lt_target {options : JournalCatchUpOptions} {done rest : List RoomJournalRecord}
    (h : UpToTarget options (done ++ rest)) (hrest : rest ≠ []) {r : RoomJournalRecord} (hr : r ∈ done)
    (hepoch : r.roomEpoch = options.roomEpoch) : r.serverTick.val < options.targetTick := by
  obtain ⟨older, newest, heq, hnewest, htick⟩ := h.newest
  have hlast : newest ∈ rest := by
    have hl : (done ++ rest).getLast? = some newest := by
      rw [heq, List.getLast?_concat]
    rw [List.getLast?_append_of_ne_nil _ hrest] at hl
    exact List.mem_of_getLast? hl
  rw [← htick]
  exact (List.pairwise_append.1 h.ticks).2.2 r hr newest hlast hepoch hnewest

/-- A record in front of the rest is wanted just when it is behind the latest tick. -/
private theorem Scanned.wanted_iff {options : JournalCatchUpOptions} {done : List RoomJournalRecord}
    {record : RoomJournalRecord} {s : CatchUpState} (h : Scanned options done s) (rest : List RoomJournalRecord)
    (hall : UpToTarget options (done ++ record :: rest)) (hepoch : record.roomEpoch = options.roomEpoch) :
    options.afterTick < record.serverTick.val ↔ s.latestTick < record.serverTick.val := by
  constructor
  · intro hafter
    rcases h.latest with heq | ⟨r, hr, hre, htick⟩
    · omega
    · have := (List.pairwise_append.1 hall.ticks).2.2 r hr record (List.mem_cons_self ..) hre hepoch
      omega
  · have := h.after
    omega

/-- The records of a page are scanned. -/
private theorem scanBatch_scanned {options : JournalCatchUpOptions} {done : List RoomJournalRecord}
    (batch rest : List RoomJournalRecord) {s : CatchUpState} (h : Scanned options done s) (hall : UpToTarget options (done ++ (batch ++ rest))) :
    ∃ s', scanBatch options batch s = .ok s' ∧ Scanned options (done ++ batch) s' := by
  induction batch generalizing done s with
  | nil => exact ⟨s, rfl, by simpa using h⟩
  | cons record batch ih =>
    have hstep : UpToTarget options ((done ++ [record]) ++ (batch ++ rest)) := by simpa using hall
    have hskip : (record.roomEpoch = options.roomEpoch → record.serverTick.val ≤ s.latestTick) →
        Scanned options (done ++ [record])
          { s with scannedEntries := s.scannedEntries + 1, cursor := record.id } := by
      intro hpassed
      refine ⟨?_, by simp, by simp [h.scanned], ?_, h.after, ?_⟩
      · have : wanted options [record] = [] := by
          unfold wanted
          simp only [List.filter_cons, List.filter_nil, ite_eq_right_iff, decide_eq_true_eq, reduceCtorEq, imp_false]
          rintro ⟨hepoch, hafter⟩
          have := (h.wanted_iff (batch ++ rest) (by simpa using hall) hepoch).1 hafter
          have := hpassed hepoch
          omega
        rw [wanted_append, h.entries, this, List.append_nil]
      · exact h.latest.imp id fun ⟨r, hr, hrest⟩ => ⟨r, List.mem_append_left _ hr, hrest⟩
      · intro r hr
        rcases List.mem_append.1 hr with hr | hr
        · exact h.passed r hr
        · rw [List.mem_singleton.1 hr]
          exact hpassed
    have hnext : ∀ t, Scanned options (done ++ [record]) t →
        ∃ s', scanBatch options batch t = .ok s' ∧ Scanned options (done ++ record :: batch) s' := by
      intro t ht
      obtain ⟨s', hs', hscanned⟩ := ih ht hstep
      exact ⟨s', hs', by simpa using hscanned⟩
    rw [scanBatch]
    dsimp only
    split
    · rename_i hlow
      exact hnext _ (hskip fun he => by rw [he] at hlow; omega)
    split
    · rename_i hhigh
      have := hall.epochs record (by simp)
      omega
    rename_i hlow hhigh
    have hepoch : record.roomEpoch = options.roomEpoch := Subtype.ext (by omega)
    have hwanted := h.wanted_iff (batch ++ rest) (by simpa using hall) hepoch
    split
    · exact hnext _ (hskip fun _ => by assumption)
    rename_i hbehind
    have htaken : Scanned options (done ++ [record])
        { s with
          entries := s.entries ++ [record]
          cursor := record.id
          latestTick := record.serverTick
          scannedEntries := s.scannedEntries + 1 } := by
      refine ⟨?_, by simp, by simp [h.scanned], Or.inr ⟨record, by simp, hepoch, rfl⟩, ?_, ?_⟩
      · have hafter := hwanted.2 (by omega)
        have : wanted options [record] = [record] := by simp [wanted, hepoch, hafter]
        rw [wanted_append, h.entries, this]
      · have := h.after
        dsimp only
        omega
      · intro r hr hre
        dsimp only
        rcases List.mem_append.1 hr with hr | hr
        · have := h.passed r hr hre
          omega
        · rw [List.mem_singleton.1 hr]
    split
    · rename_i hreached
      -- the target is the tick of the newest record
      have hlast : batch ++ rest = [] := by
        by_contra hne
        have := hstep.lt_target hne (r := record) (by simp) hepoch
        omega
      obtain ⟨rfl, rfl⟩ := List.append_eq_nil_iff.1 hlast
      exact ⟨_, rfl, htaken⟩
    · exact hnext _ htaken

theorem isAfter_trans {a b c : StreamId} (hab : b.isAfter a = true) (hbc : c.isAfter b = true) :
    c.isAfter a = true := by
  simp only [StreamId.isAfter] at hab hbc ⊢
  split_ifs at hab hbc ⊢ <;> simp only [decide_eq_true_eq] at hab hbc ⊢ <;> omega

theorem isAfter_asymm {a b : StreamId} (hab : b.isAfter a = true) : a.isAfter b = false := by
  simp only [StreamId.isAfter] at hab ⊢
  split_ifs at hab ⊢ <;> simp only [decide_eq_true_eq, decide_eq_false_iff_not] at hab ⊢ <;> omega

section

variable {sha256 : List Char → HexDigest} {journal : RoomStateJournal} {options : JournalCatchUpOptions}

/-- The entries of a stream pass their checks and read as these records. -/
def ReadsAs (sha256 : List Char → HexDigest) (journal : RoomStateJournal) (stream : List StoredRecord)
    (records : List RoomJournalRecord) : Prop :=
  List.Forall₂ (fun stored r => journal.readRecord sha256 none stored = .ok r) stream records

theorem readRecord_id {stored : StoredRecord} {r : RoomJournalRecord}
    (h : journal.readRecord sha256 none stored = .ok r) : r.id = stored.id ∧ stored.encoded ≠ none := by
  unfold RoomStateJournal.readRecord at h
  simp only [bind_eq_ok, refuse_eq_ok] at h
  obtain ⟨encoded, hencoded, _, -, entry, -, _, -, _, -, hret⟩ := h
  cases hret
  refine ⟨rfl, fun hnone => ?_⟩
  rw [hnone] at hencoded
  cases hencoded

/-- A page of the entries behind the cursor. -/
theorem readAfter_of_filter {stream rest : List StoredRecord} {more : List RoomJournalRecord} {cursor : StreamId}
    {count : Nat} (hfilter : stream.filter (fun r => r.id.isAfter cursor) = rest) (hr : ReadsAs sha256 journal rest more)
    (hcount : 1 ≤ count ∧ count ≤ 1000) : journal.readAfter sha256 stream cursor count = .ok (more.take count) := by
  have hpage : ReadsAs sha256 journal (rest.take count) (more.take count) := List.forall₂_take count hr
  have hread : ∀ {page : List StoredRecord} {records : List RoomJournalRecord}, ReadsAs sha256 journal page records →
      (∀ r ∈ page, r.encoded ≠ none) ∧ page.mapM (journal.readRecord sha256 none) = .ok records := by
    intro page records h
    induction h with
    | nil => exact ⟨by simp, rfl⟩
    | cons hx _ ih =>
      refine ⟨List.forall_mem_cons.2 ⟨(readRecord_id hx).2, ih.1⟩, ?_⟩
      rw [List.mapM_cons, hx, ih.2]
      rfl
  obtain ⟨hencoded, hmap⟩ := hread hpage
  unfold RoomStateJournal.readAfter
  dsimp only
  rw [hfilter]
  simp only [bind_eq_ok, refuse_eq_ok]
  refine ⟨(), by omega, (), ?_, hmap⟩
  push Not
  exact hencoded

/-- The entries behind one of a stream. -/
theorem filter_isAfter {before after : List StoredRecord} {x : StoredRecord}
    (hids : (before ++ x :: after).Pairwise fun a b => b.id.isAfter a.id = true) :
    (before ++ x :: after).filter (fun r => r.id.isAfter x.id) = after := by
  obtain ⟨-, hrest, hcross⟩ := List.pairwise_append.1 hids
  have hbefore : before.filter (fun r => r.id.isAfter x.id) = [] := by
    rw [List.filter_eq_nil_iff]
    intro r hr
    rw [isAfter_asymm (hcross r hr x List.mem_cons_self)]
    simp
  have hself : x.id.isAfter x.id = false := by simp [StreamId.isAfter]
  have hafter : after.filter (fun r => r.id.isAfter x.id) = after := by
    rw [List.filter_eq_self]
    exact fun r hr => (List.pairwise_cons.1 hrest).1 r hr
  rw [List.filter_append, hbefore, List.filter_cons, hself, hafter]
  rfl

/-- A page of a stream that has been read up to the cursor. -/
private theorem readAfter_page {stream rest : List StoredRecord} {done more : List RoomJournalRecord} {count : Nat}
    (hd : ReadsAs sha256 journal stream done) (hr : ReadsAs sha256 journal rest more)
    (hids : (stream ++ rest).Pairwise fun a b => b.id.isAfter a.id = true)
    (hfirst : ∀ r ∈ rest, r.id.isAfter options.afterId = true) (hcount : 1 ≤ count ∧ count ≤ 1000) :
    journal.readAfter sha256 (stream ++ rest) ((done.getLast?.map RoomJournalRecord.id).getD options.afterId) count =
      .ok (more.take count) := by
  refine readAfter_of_filter ?_ hr hcount
  rcases List.eq_nil_or_concat done with rfl | ⟨before, last, heq⟩
  · cases hd
    rw [List.nil_append, List.filter_eq_self]
    exact hfirst
  · rw [List.concat_eq_append] at heq
    subst heq
    rw [List.getLast?_concat, Option.map_some, Option.getD_some]
    have hsplit : ∃ s₁ x, stream = s₁ ++ [x] ∧ x.id = last.id := by
      refine ⟨stream.take before.length, ?_⟩
      have hdrop := List.forall₂_drop_append stream before [last] hd
      obtain ⟨x, tail, hx, htail, heq⟩ := List.forall₂_cons_right_iff.1 hdrop
      cases htail
      exact ⟨x, by rw [← heq, List.take_append_drop], (readRecord_id hx).1.symm⟩
    obtain ⟨s₁, x, rfl, hx⟩ := hsplit
    rw [List.append_assoc, List.singleton_append] at hids ⊢
    rw [← hx]
    exact filter_isAfter hids

/-- As many rounds as there are records left scan all of them. -/
private theorem catchUpLoop_scanned (fuel n : Nat) {stream rest : List StoredRecord}
    {done more : List RoomJournalRecord} {s : CatchUpState} (hd : ReadsAs sha256 journal stream done) (hr : ReadsAs sha256 journal rest more)
    (hids : (stream ++ rest).Pairwise fun a b => b.id.isAfter a.id = true)
    (hfirst : ∀ r ∈ rest, r.id.isAfter options.afterId = true) (hbatch : 1 ≤ options.batchSize ∧ options.batchSize ≤ 1000)
    (hmax : (done ++ more).length ≤ options.maxEntries) (hall : UpToTarget options (done ++ more))
    (h : Scanned options done s) (hfuel : more.length ≤ fuel) :
    ∃ t, catchUpLoop sha256 journal (fun _ => .ok (stream ++ rest)) options fuel n s = .ok t ∧
      Scanned options (done ++ more) t := by
  induction fuel generalizing n stream rest done more s with
  | zero =>
    obtain rfl := List.length_eq_zero_iff.1 (Nat.le_zero.1 hfuel)
    exact ⟨s, rfl, by simpa using h⟩
  | succ fuel ih =>
    rw [catchUpLoop]
    by_cases hmore : more = []
    · subst hmore
      rw [List.append_nil] at hall ⊢
      obtain ⟨older, newest, rfl, hepoch, htick⟩ := hall.newest
      have := h.passed newest (by simp) hepoch
      rw [if_neg (by omega)]
      exact ⟨s, rfl, h⟩
    · have hlatest : s.latestTick < options.targetTick := by
        rcases h.latest with heq | ⟨r, hr', hepoch, heq⟩
        · have := hall.behind
          omega
        · have := hall.lt_target hmore hr' hepoch
          omega
      have hlength : 0 < more.length := List.length_pos_iff.2 hmore
      rw [List.length_append] at hmax
      have hscanned := h.scanned
      rw [if_pos ⟨by omega, hlatest⟩]
      dsimp only [bind, Except.bind]
      have hcount : 1 ≤ min options.batchSize (options.maxEntries - s.scannedEntries) ∧
          min options.batchSize (options.maxEntries - s.scannedEntries) ≤ 1000 := by omega
      rw [h.cursor, readAfter_page hd hr hids hfirst hcount]
      generalize hk : min options.batchSize (options.maxEntries - s.scannedEntries) = count at hcount
      have htake : more.take count ≠ [] := by
        rw [Ne, ← List.length_eq_zero_iff, List.length_take]
        omega
      obtain ⟨s', hs', hdone⟩ := scanBatch_scanned (more.take count) (more.drop count) h
        (by rwa [List.take_append_drop])
      dsimp only
      rw [if_neg htake, hs']
      dsimp only
      split
      · rename_i hshort
        rw [List.length_take] at hshort
        have hend : more.take count = more := List.take_of_length_le (by omega)
        rw [hend] at hdone
        exact ⟨s', rfl, hdone⟩
      · have hstream : stream ++ rest = (stream ++ rest.take count) ++ rest.drop count := by
          rw [List.append_assoc, List.take_append_drop]
        have hrecords : done ++ more = (done ++ more.take count) ++ more.drop count := by
          rw [List.append_assoc, List.take_append_drop]
        rw [hstream, hrecords]
        refine ih (n + 1) (List.rel_append hd (List.forall₂_take count hr)) (List.forall₂_drop count hr) (by rwa [← hstream])
          (fun r hr' => hfirst r (List.mem_of_mem_drop hr')) ?_ (by rwa [← hrecords]) hdone ?_
        · rw [← hrecords, List.length_append]
          exact hmax
        · rw [List.length_drop]
          omega

/-- A catch-up reaches the newest record of a stream that it can scan whole, if the ticks of its epoch rise and no
record is of a larger epoch; the records it returns are all those behind the first tick. -/
theorem catchUp_reaches {stream : List StoredRecord} {records : List RoomJournalRecord}
    (hr : ReadsAs sha256 journal stream records) (hids : stream.Pairwise fun a b => b.id.isAfter a.id = true)
    (hfirst : ∀ r ∈ stream, r.id.isAfter options.afterId = true)
    (hbatch : 1 ≤ options.batchSize ∧ options.batchSize ≤ 1000)
    (hmax : records.length ≤ options.maxEntries ∧ options.maxEntries ≤ 10000) (h : UpToTarget options records) :
    ∃ result, catchUp sha256 journal (fun _ => .ok stream) options = .ok result ∧
      result.entries = wanted options records ∧ result.latestTick = options.targetTick ∧ result.caughtUp = true := by
  obtain ⟨older, newest, hnewest, hepoch, htick⟩ := h.newest
  have hlength : 0 < records.length := by
    rw [hnewest, List.length_append, List.length_singleton]
    omega
  have hstart : Scanned options [] { cursor := options.afterId, latestTick := options.afterTick } :=
    ⟨rfl, rfl, rfl, Or.inl rfl, le_refl _, fun r hr => by cases hr⟩
  obtain ⟨t, ht, hdone⟩ := catchUpLoop_scanned options.maxEntries 0
    (List.Forall₂.nil : ReadsAs sha256 journal [] []) hr hids hfirst hbatch hmax.1 h hstart hmax.1
  rw [List.nil_append] at ht hdone
  have hlatest : t.latestTick = options.targetTick := by
    have hle := hdone.passed newest (by rw [hnewest]; simp) hepoch
    rcases hdone.latest with heq | ⟨r, hm, hre, heq⟩
    · have := h.behind
      omega
    · rw [hnewest] at hm h
      rcases List.mem_append.1 hm with hm | hm
      · have := h.lt_target (List.cons_ne_nil _ _) hm hre
        omega
      · rw [List.mem_singleton.1 hm] at heq
        omega
  unfold catchUp
  simp only [bind_eq_ok, refuse_eq_ok]
  exact ⟨_, ⟨(), by omega, (), by omega, t, ht, rfl⟩, hdone.entries, hlatest, decide_eq_true (by omega)⟩

end

end Opsia
