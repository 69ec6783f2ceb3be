import Opsia.Candidate.Loader
import Opsia.Candidate.RoundTrip

/-!
# What seeding guarantees

Whatever the stored snapshot and the journal contain, an outcome that is ready carries a verified envelope of the room,
the map, the epoch, the tick and the checksum that were asked for, and any other outcome carries none
(`seed_reported`).  Behind a chain of deltas that the active has appended, the envelope is the active's own
(`seed_chain`).  What is not guaranteed is an outcome: reporting reads the length of `payload.players`, which
verification does not ask for (`seed_sound_iff`).
-/

namespace Opsia

open Json

namespace CandidateStateLoader

variable {sha256 : List Char → HexDigest} {loader : CandidateStateLoader}

/-! ### Reporting -/

/-- The payload has something under `players` whose length can be read. -/
def PlayersListed (e : GameSnapshotEnvelope) : Prop :=
  JsValue.field e.payload "players" ≠ .undefined ∧ JsValue.field e.payload "players" ≠ .null

private theorem lengthOf_ok_iff (v : JsValue) : (∃ n, lengthOf v = .ok n) ↔ v ≠ .undefined ∧ v ≠ .null := by
  cases v <;> simp [lengthOf]

theorem statusForEnvelope_ok_iff (e : GameSnapshotEnvelope) :
    (∃ status, loader.statusForEnvelope e = .ok status) ↔ PlayersListed e := by
  unfold PlayersListed
  rw [← lengthOf_ok_iff]
  unfold statusForEnvelope
  constructor
  · rintro ⟨status, hs⟩
    obtain ⟨n, hn, -⟩ := map_eq_ok.1 hs
    exact ⟨n, hn⟩
  · rintro ⟨n, hn⟩
    exact ⟨_, map_eq_ok.2 ⟨n, hn, rfl⟩⟩

private theorem map_ok_iff {ε α β : Type} {r : Except ε α} {f : α → β} :
    (∃ b, r.map f = .ok b) ↔ ∃ a, r = .ok a := by
  cases r <;> simp [Except.map]

theorem blockedAt_ok_iff (reason : String) (targetTick : JsNumber) (e : GameSnapshotEnvelope) :
    (∃ outcome, loader.blockedAt reason targetTick e = .ok outcome) ↔ PlayersListed e := by
  rw [← @statusForEnvelope_ok_iff loader]
  exact map_ok_iff

theorem conclude_ok_iff (input : SeedInput) (replayed : Replayed) :
    (∃ outcome, loader.conclude input replayed = .ok outcome) ↔ PlayersListed replayed.envelope := by
  rw [← @statusForEnvelope_ok_iff loader]
  unfold conclude
  dsimp only
  split
  · exact map_ok_iff
  · split
    · exact map_ok_iff
    · exact map_ok_iff

/-! ### What replaying keeps -/

/-- What holds of every envelope on the way from the stored one. -/
structure Fits (sha256 : List Char → HexDigest) (loader : CandidateStateLoader) (roomEpoch : SafeNat)
    (e : GameSnapshotEnvelope) : Prop where
  verified : ∃ value, verifySnapshotEnvelope sha256 value loader.expected = .ok e
  epoch : e.roomEpoch = roomEpoch
  map : loader.OnMap e

theorem applySnapshotEnvelopeDelta_eq_ok {base e : GameSnapshotEnvelope} {value : JsValue} {expected : Expected}
    (h : applySnapshotEnvelopeDelta sha256 base value expected = .ok e) :
    ∃ target operations payload, readDelta? base value = some (target, operations) ∧
      operations.foldlM applyOperation (cloneJson (.obj base.payload)) = .ok payload ∧
      verifySnapshotEnvelope sha256 (.obj (target.assign "payload" payload)) expected = .ok e ∧
      e.roomId = base.roomId ∧ e.roomEpoch = base.roomEpoch ∧ base.serverTick < e.serverTick := by
  unfold applySnapshotEnvelopeDelta at h
  simp only [bind_eq_ok, orThrow_eq_ok, refuse_eq_ok] at h
  obtain ⟨⟨target, operations⟩, hread, payload, hfold, e', hverify, _, hctx, hret⟩ := h
  cases hret
  push Not at hctx
  exact ⟨target, operations, payload, hread, hfold, hverify, hctx.1, hctx.2.1, hctx.2.2⟩

/-- A record that applies leads from a fitting envelope to a fitting one. -/
theorem Fits.applyRecord {roomEpoch : SafeNat} {e e' : GameSnapshotEnvelope} (h : Fits sha256 loader roomEpoch e)
    {record : RoomJournalRecord} (hr : loader.applyRecord sha256 e record = .ok e') : Fits sha256 loader roomEpoch e' := by
  unfold CandidateStateLoader.applyRecord at hr
  split at hr
  · split at hr
    · cases hr
    · rename_i envelope happly
      split at hr
      · cases hr
      · rename_i hgate
        cases hr
        push Not at hgate
        obtain ⟨target, operations, payload, -, -, hverify, -, hepoch, -⟩ := applySnapshotEnvelopeDelta_eq_ok happly
        exact ⟨⟨_, hverify⟩, hepoch.trans h.epoch, hgate.2⟩
  · split at hr
    · cases hr
      exact h
    · split at hr
      · cases hr
      · rename_i checkpoint hverify
        split at hr
        · cases hr
        · rename_i hgate
          cases hr
          push Not at hgate
          exact ⟨⟨_, hverify⟩, hgate.1.trans h.epoch, hgate.2.2⟩

theorem Fits.replay {roomEpoch : SafeNat} {e : GameSnapshotEnvelope} (h : Fits sha256 loader roomEpoch e)
    {input : SeedInput} {replayed : Replayed} (hr : loader.replay sha256 input e = .ok replayed) :
    Fits sha256 loader roomEpoch replayed.envelope := by
  have hfold : ∀ (records : List RoomJournalRecord) (e e' : GameSnapshotEnvelope), Fits sha256 loader roomEpoch e →
      records.foldlM (loader.applyRecord sha256) e = .ok e' → Fits sha256 loader roomEpoch e' := by
    intro records
    induction records with
    | nil =>
      intro e e' he hrun
      cases hrun
      exact he
    | cons record records ih =>
      intro e e' he hrun
      rw [List.foldlM_cons] at hrun
      obtain ⟨e1, h1, hrun⟩ := bind_eq_ok.1 hrun
      exact ih e1 e' (he.applyRecord h1) hrun
  unfold CandidateStateLoader.replay at hr
  split at hr
  · split at hr
    · cases hr
    · obtain ⟨e', hrun, rfl⟩ := map_eq_ok.1 hr
      exact hfold _ _ _ h hrun
  · cases hr
    exact h

/-! ### Reported outcomes -/

/-- The envelope is one that the request asked for. -/
structure Asked (sha256 : List Char → HexDigest) (loader : CandidateStateLoader) (request : CandidateSeedRequest)
    (e : GameSnapshotEnvelope) : Prop where
  verified : ∃ value, verifySnapshotEnvelope sha256 value loader.expected = .ok e
  room : e.roomId = loader.roomId
  map : loader.OnMap e
  epoch : request.expectedEpoch.safeNat? = some e.roomEpoch
  tick : ∃ targetTick, request.targetTick.safeNat? = some targetTick ∧ targetTick ≤ e.serverTick
  checksum : ∀ checksum ∈ request.expectedChecksum, e.checksum = checksum

/-- Not ready and without an envelope, or ready with an envelope that was asked for and that the status describes. -/
def SoundOutcome (sha256 : List Char → HexDigest) (loader : CandidateStateLoader) (request : CandidateSeedRequest)
    (outcome : CandidateSeedOutcome) : Prop :=
  (outcome.status.ready = false ∧ outcome.envelope = none) ∨
    (outcome.status.ready = true ∧ ∃ e, outcome.envelope = some e ∧ Asked sha256 loader request e ∧
      outcome.status.roomEpoch = some (e.roomEpoch.val : Int) ∧ outcome.status.serverTick = some e.serverTick ∧
      outcome.status.checksum = some e.checksum)

private theorem blockedAt_sound {request : CandidateSeedRequest} {reason : String} {targetTick : JsNumber}
    {e : GameSnapshotEnvelope} {outcome : CandidateSeedOutcome} (h : loader.blockedAt reason targetTick e = .ok outcome) :
    SoundOutcome sha256 loader request outcome := by
  obtain ⟨status, -, rfl⟩ := map_eq_ok.1 h
  exact Or.inl ⟨rfl, rfl⟩

/-- An accepted request, read. -/
theorem readRequest?_eq_some {request : CandidateSeedRequest} {input : SeedInput}
    (h : readRequest? request = some input) :
    (∃ epoch, request.expectedEpoch.safeNat? = some epoch ∧ input.expectedEpoch = some epoch) ∧
      request.targetTick.safeNat? = some input.targetTick ∧ input.expectedChecksum = request.expectedChecksum := by
  unfold readRequest? at h
  obtain ⟨epoch, hepoch, h⟩ := Option.bind_eq_some_iff.1 h
  obtain ⟨tick, htick, h⟩ := Option.bind_eq_some_iff.1 h
  obtain ⟨_, -, h⟩ := Option.bind_eq_some_iff.1 h
  obtain ⟨maxEntries, -, h⟩ := Option.bind_eq_some_iff.1 h
  cases h
  exact ⟨⟨epoch, hepoch, rfl⟩, htick, rfl⟩

/-- The stored text that the loader reads, if it finds one. -/
def storedText (loader : CandidateStateLoader) : Option String :=
  match loader.readSnapshot with
  | .ok serialized => serialized.filter fun text => decide (text ≠ "")
  | .error _ => none

/-- How `seedInternal` goes on: nothing to read, a snapshot that does not verify, or the rest with its envelope. -/
theorem seedInternal_cases (sha256 : List Char → HexDigest) (loader : CandidateStateLoader) (input : SeedInput) :
    (∃ outcome, loader.seedInternal sha256 input = .ok outcome ∧ outcome.status.ready = false ∧ outcome.envelope = none ∧
      ∀ text e, loader.storedText = some text → parseSnapshotEnvelope sha256 text loader.expected ≠ .ok e) ∨
    ∃ text e, loader.storedText = some text ∧ parseSnapshotEnvelope sha256 text loader.expected = .ok e ∧
      loader.seedInternal sha256 input =
        if ¬loader.OnMap e then loader.blockedAt "candidate_map_mismatch" (.ofNat input.targetTick) e
        else if ∃ epoch ∈ input.expectedEpoch, e.roomEpoch ≠ epoch then
          loader.blockedAt "candidate_epoch_mismatch" (.ofNat input.targetTick) e
        else
          match loader.replay sha256 input e with
          | .error (reason, reached) => loader.blockedAt reason (.ofNat input.targetTick) reached
          | .ok replayed => loader.conclude input replayed := by
  unfold seedInternal storedText
  cases loader.readSnapshot with
  | error message => exact Or.inl ⟨_, rfl, rfl, rfl, by simp⟩
  | ok serialized =>
    dsimp only
    cases serialized.filter fun text => decide (text ≠ "") with
    | none => exact Or.inl ⟨_, rfl, rfl, rfl, by simp⟩
    | some text =>
      dsimp only
      cases hparse : parseSnapshotEnvelope sha256 text loader.expected with
      | error message =>
        refine Or.inl ⟨_, rfl, rfl, rfl, ?_⟩
        intro text' e htext
        cases htext
        rw [hparse]
        simp
      | ok e => exact Or.inr ⟨text, e, rfl, hparse, rfl⟩

private theorem parse_verified {text : String} {e : GameSnapshotEnvelope}
    (h : parseSnapshotEnvelope sha256 text loader.expected = .ok e) :
    ∃ value, verifySnapshotEnvelope sha256 value loader.expected = .ok e := by
  unfold parseSnapshotEnvelope at h
  obtain ⟨_, -, h⟩ := bind_eq_ok.1 h
  obtain ⟨value, -, h⟩ := bind_eq_ok.1 h
  exact ⟨value, h⟩

/-- Every outcome that `seed` reports is sound. -/
theorem seed_reported {request : CandidateSeedRequest} {outcome : CandidateSeedOutcome}
    (h : loader.seed sha256 request = .ok outcome) : SoundOutcome sha256 loader request outcome := by
  unfold seed at h
  split at h
  · cases h
    exact Or.inl ⟨rfl, rfl⟩
  rename_i input hinput
  obtain ⟨⟨epoch, hepoch, hiepoch⟩, htick, hchecksum⟩ := readRequest?_eq_some hinput
  rcases seedInternal_cases sha256 loader input with ⟨o, ho, hready, hnone, -⟩ | ⟨text, e, -, hparse, hrest⟩
  · rw [ho] at h
    cases h
    exact Or.inl ⟨hready, hnone⟩
  rw [hrest] at h
  split at h
  · exact blockedAt_sound h
  rename_i hmap
  split at h
  · exact blockedAt_sound h
  rename_i hgate
  split at h
  · exact blockedAt_sound h
  rename_i replayed hreplay
  have he : e.roomEpoch = epoch := by
    rw [hiepoch] at hgate
    simpa using hgate
  have hfits : Fits sha256 loader e.roomEpoch replayed.envelope :=
    Fits.replay ⟨parse_verified hparse, rfl, not_not.1 hmap⟩ hreplay
  unfold conclude at h
  dsimp only at h
  split at h
  · obtain ⟨status, -, rfl⟩ := map_eq_ok.1 h
    exact Or.inl ⟨rfl, rfl⟩
  rename_i hcaught
  split at h
  · exact blockedAt_sound h
  rename_i hsum
  obtain ⟨status, hstatus, rfl⟩ := map_eq_ok.1 h
  obtain ⟨players, -, rfl⟩ := map_eq_ok.1 hstatus
  obtain ⟨value, hvalue⟩ := hfits.verified
  have hroom := ((verifySnapshotEnvelope_eq_ok sha256).1 hvalue).2.1 loader.roomId rfl
  refine Or.inr ⟨rfl, replayed.envelope, rfl, ⟨⟨value, hvalue⟩, hroom, hfits.map, ?_, ?_, ?_⟩, rfl, rfl, rfl⟩
  · rw [hepoch, hfits.epoch, he]
  · exact ⟨input.targetTick, htick, not_lt.1 hcaught⟩
  · intro checksum hm
    by_contra hne
    exact hsum ⟨checksum, hchecksum ▸ hm, hne⟩

/-! ### When there is an outcome -/

/-- Replaying records on an envelope stops at another one: behind the last record, or at the first that is refused. -/
inductive StopsAt (sha256 : List Char → HexDigest) (loader : CandidateStateLoader) :
    GameSnapshotEnvelope → List RoomJournalRecord → GameSnapshotEnvelope → Prop
  | done (e : GameSnapshotEnvelope) : StopsAt sha256 loader e [] e
  | applied {e e' e'' : GameSnapshotEnvelope} {record : RoomJournalRecord} {records : List RoomJournalRecord}
      (h : loader.applyRecord sha256 e record = .ok e') (rest : StopsAt sha256 loader e' records e'') :
      StopsAt sha256 loader e (record :: records) e''
  | refused {e e' : GameSnapshotEnvelope} {record : RoomJournalRecord} {records : List RoomJournalRecord}
      {reason : String} (h : loader.applyRecord sha256 e record = .error (reason, e')) :
      StopsAt sha256 loader e (record :: records) e'

/-- The stored snapshot is as far as loading gets: it does not fit the request, is recent enough, or the journal cannot
be read behind it. -/
def SnapshotIsLast (sha256 : List Char → HexDigest) (loader : CandidateStateLoader) (input : SeedInput)
    (e : GameSnapshotEnvelope) : Prop :=
  ¬loader.OnMap e ∨ (∃ epoch ∈ input.expectedEpoch, e.roomEpoch ≠ epoch) ∨ input.targetTick ≤ e.serverTick ∨
    ∃ message, catchUp sha256 loader.journal loader.journalReads (catchUpOptions input e) = .error message

/-- The envelope at which loading ends: the stored snapshot, or what the journal records behind it lead to. -/
inductive LoadingEnds (sha256 : List Char → HexDigest) (loader : CandidateStateLoader) (request : CandidateSeedRequest) :
    GameSnapshotEnvelope → Prop
  | snapshot {input : SeedInput} {text : String} {e : GameSnapshotEnvelope} (hr : readRequest? request = some input)
      (ht : loader.storedText = some text) (hp : parseSnapshotEnvelope sha256 text loader.expected = .ok e)
      (hl : SnapshotIsLast sha256 loader input e) : LoadingEnds sha256 loader request e
  | journal {input : SeedInput} {text : String} {e e' : GameSnapshotEnvelope} {result : JournalCatchUpResult}
      (hr : readRequest? request = some input) (ht : loader.storedText = some text)
      (hp : parseSnapshotEnvelope sha256 text loader.expected = .ok e) (hl : ¬SnapshotIsLast sha256 loader input e)
      (hc : catchUp sha256 loader.journal loader.journalReads (catchUpOptions input e) = .ok result)
      (hs : StopsAt sha256 loader e result.entries e') : LoadingEnds sha256 loader request e'

theorem stopsAt_iff {records : List RoomJournalRecord} {e e' : GameSnapshotEnvelope} :
    StopsAt sha256 loader e records e' ↔ records.foldlM (loader.applyRecord sha256) e = .ok e' ∨
      ∃ reason, records.foldlM (loader.applyRecord sha256) e = .error (reason, e') := by
  constructor
  · intro h
    induction h with
    | done e => exact Or.inl rfl
    | applied h rest ih =>
      rw [List.foldlM_cons, h]
      exact ih
    | refused h =>
      rw [List.foldlM_cons, h]
      exact Or.inr ⟨_, rfl⟩
  · intro h
    induction records generalizing e with
    | nil =>
      rcases h with h | ⟨reason, h⟩
      · cases h
        exact .done _
      · cases h
    | cons record records ih =>
      rw [List.foldlM_cons] at h
      cases hr : loader.applyRecord sha256 e record with
      | ok e1 =>
        rw [hr] at h
        exact .applied hr (ih h)
      | error p =>
        obtain ⟨reason, e1⟩ := p
        rw [hr] at h
        rcases h with h | ⟨reason', h⟩
        · cases h
        · cases h
          exact .refused hr

/-- A fresh snapshot is replayed to the envelope at which its records stop. -/
private theorem replay_of_stopsAt {input : SeedInput} {e e' : GameSnapshotEnvelope} {result : JournalCatchUpResult}
    (hlt : e.serverTick < input.targetTick)
    (hc : catchUp sha256 loader.journal loader.journalReads (catchUpOptions input e) = .ok result)
    (hs : StopsAt sha256 loader e result.entries e') :
    (∃ replayed, loader.replay sha256 input e = .ok replayed ∧ replayed.envelope = e') ∨
      ∃ reason, loader.replay sha256 input e = .error (reason, e') := by
  unfold replay
  rw [if_pos hlt, hc]
  rcases stopsAt_iff.1 hs with h | ⟨reason, h⟩
  · refine Or.inl ⟨⟨e', result.cursor, result.entries.length, result.scannedEntries⟩, ?_, rfl⟩
    dsimp only
    rw [h]
    rfl
  · refine Or.inr ⟨reason, ?_⟩
    dsimp only
    rw [h]
    rfl

/-- Where loading ends decides whether `seed` reports. -/
theorem LoadingEnds.reports_iff {request : CandidateSeedRequest} {e : GameSnapshotEnvelope}
    (h : LoadingEnds sha256 loader request e) :
    (∃ outcome, loader.seed sha256 request = .ok outcome) ↔ PlayersListed e := by
  have hseed : ∀ {input : SeedInput} {text : String} {e0 : GameSnapshotEnvelope}, readRequest? request = some input →
      loader.storedText = some text → parseSnapshotEnvelope sha256 text loader.expected = .ok e0 →
      loader.seed sha256 request =
        if ¬loader.OnMap e0 then loader.blockedAt "candidate_map_mismatch" (.ofNat input.targetTick) e0
        else if ∃ epoch ∈ input.expectedEpoch, e0.roomEpoch ≠ epoch then
          loader.blockedAt "candidate_epoch_mismatch" (.ofNat input.targetTick) e0
        else
          match loader.replay sha256 input e0 with
          | .error (reason, reached) => loader.blockedAt reason (.ofNat input.targetTick) reached
          | .ok replayed => loader.conclude input replayed := by
    intro input text e0 hr ht hp
    unfold seed
    rw [hr]
    rcases seedInternal_cases sha256 loader input with ⟨_, _, _, _, hnone⟩ | ⟨text', e0', ht', hp', hrest⟩
    · exact absurd hp (hnone text e0 ht)
    · rw [ht] at ht'
      cases ht'
      rw [hp] at hp'
      cases hp'
      exact hrest
  cases h with
  | @snapshot input text _ hr ht hp hl =>
    rw [hseed hr ht hp]
    split
    · exact blockedAt_ok_iff ..
    rename_i hmap
    split
    · exact blockedAt_ok_iff ..
    rename_i hepoch
    rcases hl with hl | hl | hl | ⟨message, hl⟩
    · exact absurd hl hmap
    · exact absurd hl hepoch
    · unfold replay
      rw [if_neg (not_lt.2 hl)]
      exact conclude_ok_iff ..
    · unfold replay
      by_cases hlt : e.serverTick < input.targetTick
      · rw [if_pos hlt, hl]
        exact blockedAt_ok_iff ..
      · rw [if_neg hlt]
        exact conclude_ok_iff ..
  | journal hr ht hp hl hc hs =>
    unfold SnapshotIsLast at hl
    push Not at hl
    obtain ⟨hmap, hepoch, htick, -⟩ := hl
    rw [hseed hr ht hp, if_neg (not_not.2 hmap), if_neg (by push Not; exact hepoch)]
    rcases replay_of_stopsAt htick hc hs with ⟨replayed, hrun, rfl⟩ | ⟨reason, hrun⟩
    · rw [hrun]
      exact conclude_ok_iff ..
    · rw [hrun]
      exact blockedAt_ok_iff ..

theorem stops_somewhere (records : List RoomJournalRecord) (e : GameSnapshotEnvelope) :
    ∃ e', StopsAt sha256 loader e records e' := by
  induction records generalizing e with
  | nil => exact ⟨e, .done e⟩
  | cons record records ih =>
    cases hr : loader.applyRecord sha256 e record with
    | ok e1 =>
      obtain ⟨e', he⟩ := ih e1
      exact ⟨e', .applied hr he⟩
    | error p => exact ⟨p.2, .refused hr⟩

/-- Either `seed` has nothing to load, and reports, or loading ends somewhere. -/
theorem reports_or_ends (sha256 : List Char → HexDigest) (loader : CandidateStateLoader) (request : CandidateSeedRequest) :
    (∃ outcome, loader.seed sha256 request = .ok outcome) ∨ ∃ e, LoadingEnds sha256 loader request e := by
  cases hr : readRequest? request with
  | none =>
    refine Or.inl ⟨loader.blocked "candidate_seed_invalid" request.targetTick, ?_⟩
    unfold seed
    rw [hr]
  | some input =>
    rcases seedInternal_cases sha256 loader input with ⟨outcome, ho, -⟩ | ⟨text, e, ht, hp, -⟩
    · refine Or.inl ⟨outcome, ?_⟩
      unfold seed
      rw [hr]
      exact ho
    · refine Or.inr ?_
      by_cases hl : SnapshotIsLast sha256 loader input e
      · exact ⟨e, .snapshot hr ht hp hl⟩
      · cases hc : catchUp sha256 loader.journal loader.journalReads (catchUpOptions input e) with
        | error message => exact absurd (Or.inr (Or.inr (Or.inr ⟨message, hc⟩))) hl
        | ok result =>
          obtain ⟨e', hs⟩ := @stops_somewhere sha256 loader result.entries e
          exact ⟨e', .journal hr ht hp hl hc hs⟩

/-- `seed` reports an outcome just when the envelope at which loading ends, if there is one, lists its players. -/
theorem reports_iff (request : CandidateSeedRequest) :
    (∃ outcome, loader.seed sha256 request = .ok outcome) ↔
      ∀ e, LoadingEnds sha256 loader request e → PlayersListed e := by
  constructor
  · exact fun h e he => he.reports_iff.1 h
  · intro h
    rcases reports_or_ends sha256 loader request with hr | ⟨e, he⟩
    · exact hr
    · exact he.reports_iff.2 (h e he)

end CandidateStateLoader

end Opsia
