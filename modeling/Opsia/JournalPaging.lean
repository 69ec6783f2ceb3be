import Opsia.Journal

/-!
# Paging through the journal

What `catchUp` returns, whatever the stream is at each read: entries of the requested epoch with rising ticks behind
the first one, no more than the limit, and caught up just when one of them has the target tick or a later one.  On a
stream that does not change it does what a scan record by record does (`catchUpLoop_eq_scanEach`), so the size of the
pages makes no difference (`catchUp_pages`).
-/

namespace Opsia

open Json

/-! ### What comes out of the pages -/

/-- The entries so far and how many records were scanned for them. -/
structure CaughtSoFar (options : JournalCatchUpOptions) (s : CatchUpState) : Prop where
  rising : (options.afterTick :: s.entries.map fun r => r.serverTick.val).Pairwise (· < ·)
  latest : s.latestTick = (options.afterTick :: s.entries.map fun r => r.serverTick.val).getLast (List.cons_ne_nil _ _)
  epoch : ∀ r ∈ s.entries, r.roomEpoch = options.roomEpoch
  few : s.entries.length ≤ s.scannedEntries
  bounded : s.scannedEntries ≤ options.maxEntries

private theorem scanBatch_few {options : JournalCatchUpOptions} {batch : List RoomJournalRecord} {s s' : CatchUpState}
    (h : scanBatch options batch s = .ok s') (hfew : s.entries.length ≤ s.scannedEntries) :
    s'.entries.length ≤ s'.scannedEntries := by
  induction batch generalizing s with
  | nil =>
    cases h
    exact hfew
  | cons record batch ih =>
    rw [scanBatch] at h
    dsimp only at h
    split at h
    · exact ih h (Nat.le_succ_of_le hfew)
    split at h
    · cases h
    split at h
    · exact ih h (Nat.le_succ_of_le hfew)
    have htaken : (s.entries ++ [record]).length ≤ s.scannedEntries + 1 := by
      rw [List.length_append, List.length_singleton]
      exact Nat.succ_le_succ hfew
    split at h
    · cases h
      exact htaken
    · exact ih h htaken

private theorem le_getLast {ticks : List Nat} (h : ticks.Pairwise (· < ·)) (hne : ticks ≠ []) :
    ∀ t ∈ ticks, t ≤ ticks.getLast hne := by
  intro t ht
  rw [← List.dropLast_append_getLast hne] at h ht
  rcases List.mem_append.1 ht with ht | ht
  · exact Nat.le_of_lt ((List.pairwise_append.1 h).2.2 t ht _ (List.mem_singleton.2 rfl))
  · exact Nat.le_of_eq (List.mem_singleton.1 ht)

private theorem getLast_append_ticks {before after : List Nat} (hne : before ≠ []) :
    (before.getLast hne :: after).getLast (List.cons_ne_nil _ _) =
      (before ++ after).getLast (List.append_ne_nil_of_left_ne_nil hne after) := by
  cases after with
  | nil => simp
  | cons t after => simp

/-- A page that is not longer than what is left of the limit is scanned. -/
private theorem CaughtSoFar.scan {options : JournalCatchUpOptions} {batch : List RoomJournalRecord}
    {s s' : CatchUpState} (h : CaughtSoFar options s) (hbatch : s.scannedEntries + batch.length ≤ options.maxEntries)
    (hscan : scanBatch options batch s = .ok s') : CaughtSoFar options s' := by
  have hstep := scanBatch_spec hscan
  obtain ⟨new, hnew, hmem, hticks, hlast⟩ := hstep.entries
  have hmap : options.afterTick :: s'.entries.map (fun r => r.serverTick.val) =
      (options.afterTick :: s.entries.map fun r => r.serverTick.val) ++ new.map fun r => r.serverTick.val := by
    rw [hnew, List.map_append]
    rfl
  have hle : ∀ t ∈ options.afterTick :: s.entries.map (fun r => r.serverTick.val), t ≤ s.latestTick := by
    rw [h.latest]
    exact le_getLast h.rising (List.cons_ne_nil _ _)
  refine ⟨?_, ?_, ?_, scanBatch_few hscan h.few, by have := hstep.scanned; omega⟩
  · rw [hmap, List.pairwise_append]
    refine ⟨h.rising, (List.pairwise_cons.1 hticks).2, fun t ht t' ht' => ?_⟩
    exact lt_of_le_of_lt (hle t ht) ((List.pairwise_cons.1 hticks).1 t' ht')
  · rw [hlast, h.latest]
    simp only [hmap]
    exact getLast_append_ticks (List.cons_ne_nil _ _)
  · intro r hr
    rw [hnew] at hr
    rcases List.mem_append.1 hr with hr | hr
    · exact h.epoch r hr
    · exact (hmem r hr).2

section

variable {sha256 : List Char → HexDigest} {journal : RoomStateJournal}
  {reads : Nat → Except String (List StoredRecord)} {options : JournalCatchUpOptions}

private theorem mapM_length {ε α β : Type} {f : α → Except ε β} {xs : List α} {ys : List β} (h : xs.mapM f = .ok ys) :
    ys.length = xs.length := by
  induction xs generalizing ys with
  | nil =>
    cases h
    rfl
  | cons x xs ih =>
    rw [List.mapM_cons] at h
    obtain ⟨y, -, h⟩ := bind_eq_ok.1 h
    obtain ⟨ys, hys, h⟩ := bind_eq_ok.1 h
    cases h
    rw [List.length_cons, List.length_cons, ih hys]

private theorem readAfter_length {stream : List StoredRecord} {cursor : StreamId} {count : Nat}
    {roomEpoch : Option SafeNat} {batch : List RoomJournalRecord}
    (h : journal.readAfter sha256 stream cursor count roomEpoch = .ok batch) : batch.length ≤ count := by
  unfold RoomStateJournal.readAfter at h
  simp only [bind_eq_ok, refuse_eq_ok] at h
  obtain ⟨_, -, _, -, h⟩ := h
  rw [mapM_length h]
  exact List.length_take_le _ _

private theorem catchUpLoop_caught {fuel n : Nat} {s t : CatchUpState} (hs : CaughtSoFar options s)
    (h : catchUpLoop sha256 journal reads options fuel n s = .ok t) : CaughtSoFar options t := by
  induction fuel generalizing n s with
  | zero =>
    cases h
    exact hs
  | succ fuel ih =>
    rcases catchUpLoop_succ h with rfl | ⟨stream, batch, s', hlimit, -, hbatch, -, hscan, h⟩
    · exact hs
    · have hlength := readAfter_length hbatch
      have hs' := hs.scan (by omega) hscan
      rcases h with rfl | h
      · exact hs'
      · exact ih hs' h

end

/-! ### Record by record -/

/-- A catch-up that looks at one record at a time. -/
def scanEach (options : JournalCatchUpOptions) : List RoomJournalRecord → CatchUpState → Except String CatchUpState
  | [], s => .ok s
  | record :: records, s =>
    if s.scannedEntries < options.maxEntries ∧ s.latestTick < options.targetTick then do
      let s ← scanBatch options [record] s
      scanEach options records s
    else .ok s

section

variable {options : JournalCatchUpOptions}

private theorem scanEach_stop {s : CatchUpState}
    (h : ¬(s.scannedEntries < options.maxEntries ∧ s.latestTick < options.targetTick))
    (records : List RoomJournalRecord) :
    scanEach options records s = .ok s := by
  cases records with
  | nil => rfl
  | cons record records => rw [scanEach, if_neg h]

theorem scanEach_append (records more : List RoomJournalRecord) (s : CatchUpState) :
    scanEach options (records ++ more) s = scanEach options records s >>= scanEach options more := by
  induction records generalizing s with
  | nil => rfl
  | cons record records ih =>
    rw [List.cons_append, scanEach, scanEach]
    split
    · rw [bind_assoc]
      exact bind_congr fun s' => ih s'
    · rename_i hstop
      exact (scanEach_stop hstop more).symm

/-- A page is scanned record by record, up to the target. -/
private theorem scanBatch_cons (record : RoomJournalRecord) (batch : List RoomJournalRecord) {s : CatchUpState}
    (h : s.latestTick < options.targetTick) :
    scanBatch options (record :: batch) s = scanBatch options [record] s >>= fun s' =>
      if options.targetTick ≤ s'.latestTick then .ok s' else scanBatch options batch s' := by
  have hgo : ¬options.targetTick ≤ s.latestTick := not_le.2 h
  rw [scanBatch, scanBatch]
  dsimp only
  split
  · exact (if_neg hgo).symm
  split
  · rfl
  split
  · exact (if_neg hgo).symm
  split
  · rename_i hreached
    exact (if_pos hreached).symm
  · rename_i hreached
    exact (if_neg hreached).symm

private theorem scanBatch_singleton_scanned {record : RoomJournalRecord} {s s' : CatchUpState}
    (h : scanBatch options [record] s = .ok s') : s'.scannedEntries = s.scannedEntries + 1 ∧ s'.cursor = record.id := by
  rw [scanBatch] at h
  dsimp only at h
  split at h
  · cases h
    exact ⟨rfl, rfl⟩
  split at h
  · cases h
  split at h
  · cases h
    exact ⟨rfl, rfl⟩
  split at h
  · cases h
    exact ⟨rfl, rfl⟩
  · cases h
    exact ⟨rfl, rfl⟩

private theorem scanBatch_batchSize (size : Nat) (batch : List RoomJournalRecord) (s : CatchUpState) :
    scanBatch { options with batchSize := size } batch s = scanBatch options batch s := by
  induction batch generalizing s with
  | nil => rfl
  | cons record batch ih =>
    rw [scanBatch, scanBatch]
    simp only [ih]

private theorem scanEach_batchSize (size : Nat) (records : List RoomJournalRecord) (s : CatchUpState) :
    scanEach { options with batchSize := size } records s = scanEach options records s := by
  induction records generalizing s with
  | nil => rfl
  | cons record records ih =>
    rw [scanEach, scanEach, scanBatch_batchSize]
    simp only [ih]

theorem scanBatch_eq_scanEach {batch : List RoomJournalRecord} {s : CatchUpState}
    (htick : s.latestTick < options.targetTick) (hlimit : s.scannedEntries + batch.length ≤ options.maxEntries) :
    scanBatch options batch s = scanEach options batch s := by
  induction batch generalizing s with
  | nil => rfl
  | cons record batch ih =>
    rw [List.length_cons] at hlimit
    rw [scanBatch_cons record batch htick, scanEach, if_pos ⟨by omega, htick⟩]
    cases hscan : scanBatch options [record] s with
    | error e => rfl
    | ok s' =>
      obtain ⟨hscanned, -⟩ := scanBatch_singleton_scanned hscan
      show (if _ then _ else _) = scanEach options batch s'
      split
      · rename_i hreached
        exact (scanEach_stop (fun hgo => absurd hgo.2 (not_lt.2 hreached)) batch).symm
      · rename_i hbelow
        exact ih (not_le.1 hbelow) (by omega)

/-- A page that does not reach the target is scanned to its end. -/
private theorem scanBatch_cursor {batch : List RoomJournalRecord} {s s' : CatchUpState}
    (htick : s.latestTick < options.targetTick) (h : scanBatch options batch s = .ok s')
    (hbelow : s'.latestTick < options.targetTick) {last : RoomJournalRecord} (hlast : batch.getLast? = some last) :
    s'.cursor = last.id := by
  induction batch generalizing s with
  | nil => cases hlast
  | cons record batch ih =>
    rw [scanBatch_cons record batch htick] at h
    obtain ⟨t, ht, h⟩ := bind_eq_ok.1 h
    split at h
    · cases h
      omega
    · rename_i hnext
      cases batch with
      | nil =>
        cases h
        cases hlast
        exact (scanBatch_singleton_scanned ht).2
      | cons next batch => exact ih (not_le.1 hnext) h (by rwa [List.getLast?_cons_cons] at hlast)

end

section

variable {sha256 : List Char → HexDigest} {journal : RoomStateJournal} {options : JournalCatchUpOptions}

/-- The cursor moves on to the last entry of a page. -/
private theorem filter_next {stream rest : List StoredRecord} {more : List RoomJournalRecord} {cursor : StreamId}
    {count : Nat} {last : RoomJournalRecord} (hids : stream.Pairwise fun a b => b.id.isAfter a.id = true)
    (hfilter : stream.filter (fun r => r.id.isAfter cursor) = rest) (hmore : ReadsAs sha256 journal rest more)
    (hlast : (more.take count).getLast? = some last) :
    stream.filter (fun r => r.id.isAfter last.id) = rest.drop count := by
  obtain ⟨before, hbefore⟩ := List.getLast?_eq_some_iff.1 hlast
  have hpage : ReadsAs sha256 journal (rest.take count) (before ++ [last]) := hbefore ▸ List.forall₂_take count hmore
  obtain ⟨stored, x, hstored, hid⟩ : ∃ stored x, rest.take count = stored ++ [x] ∧ x.id = last.id := by
    refine ⟨(rest.take count).take before.length, ?_⟩
    have hdrop := List.forall₂_drop_append _ before [last] hpage
    obtain ⟨x, tail, hx, htail, heq⟩ := List.forall₂_cons_right_iff.1 hdrop
    cases htail
    exact ⟨x, by rw [← heq, List.take_append_drop], (readRecord_id hx).1.symm⟩
  have hrest : rest = stored ++ x :: rest.drop count := by
    rw [← List.singleton_append, ← List.append_assoc, ← hstored, List.take_append_drop]
  have hx : x.id.isAfter cursor = true := by
    have hmem : x ∈ rest := by
      rw [hrest]
      simp
    rw [← hfilter] at hmem
    exact (List.mem_filter.1 hmem).2
  have hbehind : stream.filter (fun r => r.id.isAfter x.id) = rest.filter fun r => r.id.isAfter x.id := by
    rw [← hfilter, List.filter_filter]
    refine List.filter_congr fun r _ => ?_
    cases hr : r.id.isAfter x.id with
    | true => rw [isAfter_trans hx hr]; rfl
    | false => rfl
  have hsorted : rest.Pairwise fun a b => b.id.isAfter a.id = true := by
    rw [← hfilter]
    exact hids.sublist List.filter_sublist
  rw [← hid, hbehind]
  rw [hrest] at hsorted
  conv_lhs => rw [hrest]
  exact filter_isAfter hsorted

private theorem catchUpLoop_stop {reads : Nat → Except String (List StoredRecord)} {s : CatchUpState}
    (h : ¬(s.scannedEntries < options.maxEntries ∧ s.latestTick < options.targetTick)) (fuel n : Nat) :
    catchUpLoop sha256 journal reads options fuel n s = .ok s := by
  cases fuel with
  | zero => rfl
  | succ fuel => rw [catchUpLoop, if_neg h]

/-- Paging scans what there is behind the cursor, record by record. -/
theorem catchUpLoop_eq_scanEach {fuel n : Nat} {stream rest : List StoredRecord} {more : List RoomJournalRecord}
    {s : CatchUpState} (hids : stream.Pairwise fun a b => b.id.isAfter a.id = true)
    (hfilter : stream.filter (fun r => r.id.isAfter s.cursor) = rest) (hmore : ReadsAs sha256 journal rest more)
    (hbatch : 1 ≤ options.batchSize ∧ options.batchSize ≤ 1000) (hfuel : options.maxEntries ≤ fuel + s.scannedEntries) :
    catchUpLoop sha256 journal (fun _ => .ok stream) options fuel n s = scanEach options more s := by
  induction fuel generalizing n rest more s with
  | zero =>
    rw [scanEach_stop (fun hgo => by omega)]
    rfl
  | succ fuel ih =>
    rw [catchUpLoop]
    split
    · rename_i hgo
      have hcount : 1 ≤ min options.batchSize (options.maxEntries - s.scannedEntries) ∧
          min options.batchSize (options.maxEntries - s.scannedEntries) ≤ 1000 := by omega
      have hleft : min options.batchSize (options.maxEntries - s.scannedEntries) ≤
          options.maxEntries - s.scannedEntries := Nat.min_le_right ..
      generalize min options.batchSize (options.maxEntries - s.scannedEntries) = count at hcount hleft
      dsimp only [bind, Except.bind]
      rw [readAfter_of_filter hfilter hmore hcount]
      dsimp only
      split
      · rename_i hempty
        have hnil : more = [] := by
          rw [← List.length_eq_zero_iff, List.length_take] at hempty
          exact List.length_eq_zero_iff.1 (by omega)
        rw [hnil]
        rfl
      · rename_i hpage
        have hsplit : scanEach options more s =
            scanEach options (more.take count) s >>= scanEach options (more.drop count) := by
          rw [← scanEach_append, List.take_append_drop]
        have hlength : s.scannedEntries + (more.take count).length ≤ options.maxEntries := by
          have := List.length_take_le count more
          omega
        rw [hsplit, scanBatch_eq_scanEach hgo.2 hlength]
        cases hscan : scanEach options (more.take count) s with
        | error e => rfl
        | ok s' =>
          rw [← scanBatch_eq_scanEach hgo.2 hlength] at hscan
          show (if _ then _ else _) = scanEach options (more.drop count) s'
          split
          · rename_i hshort
            rw [List.length_take] at hshort
            rw [List.drop_eq_nil_of_le (by omega)]
            rfl
          · by_cases hbelow : s'.latestTick < options.targetTick
            · have hlast := List.getLast?_eq_some_getLast hpage
              have hadvanced := (scanBatch_spec hscan).advanced hpage
              have hcursor := scanBatch_cursor hgo.2 hscan hbelow hlast
              refine ih ?_ (List.forall₂_drop count hmore) (by omega)
              rw [hcursor]
              exact filter_next hids hfilter hmore hlast
            · have hstop : ¬(s'.scannedEntries < options.maxEntries ∧ s'.latestTick < options.targetTick) :=
                fun hgo => hbelow hgo.2
              rw [catchUpLoop_stop hstop, scanEach_stop hstop]
    · rename_i hstop
      exact (scanEach_stop hstop more).symm

end

/-! ### Catching up -/

/-- A stream of records of this journal: every entry passes its checks, and the ids increase. -/
structure JournalStream (sha256 : List Char → HexDigest) (journal : RoomStateJournal) where
  stored : List StoredRecord
  records : List RoomJournalRecord
  reads : ReadsAs sha256 journal stored records
  increasing : stored.Pairwise fun a b => b.id.isAfter a.id = true

/-- The sizes of a page that `catchUp` accepts. -/
abbrev BatchSize := {n : Nat // 1 ≤ n ∧ n ≤ 1000}

section

variable {sha256 : List Char → HexDigest} {journal : RoomStateJournal} {options : JournalCatchUpOptions}

private theorem readsAs_filter {stored : List StoredRecord} {records : List RoomJournalRecord}
    (h : ReadsAs sha256 journal stored records) (cursor : StreamId) :
    ∃ more, ReadsAs sha256 journal (stored.filter fun r => r.id.isAfter cursor) more := by
  induction h with
  | nil => exact ⟨[], .nil⟩
  | @cons x r stored records hx _ ih =>
    obtain ⟨more, hmore⟩ := ih
    rw [List.filter_cons]
    split
    · exact ⟨r :: more, .cons hx hmore⟩
    · exact ⟨more, hmore⟩

/-- On a stream that does not change the size of the pages makes no difference. -/
theorem catchUp_batchSize (stream : JournalStream sha256 journal) (size other : BatchSize) :
    catchUp sha256 journal (fun _ => .ok stream.stored) { options with batchSize := size } =
      catchUp sha256 journal (fun _ => .ok stream.stored) { options with batchSize := other } := by
  obtain ⟨more, hmore⟩ := readsAs_filter stream.reads options.afterId
  have heach : ∀ size : BatchSize, catchUpLoop sha256 journal (fun _ => .ok stream.stored)
      { options with batchSize := size } options.maxEntries 0
      { cursor := options.afterId, latestTick := options.afterTick } =
        scanEach options more { cursor := options.afterId, latestTick := options.afterTick } := by
    intro size
    rw [catchUpLoop_eq_scanEach stream.increasing rfl hmore size.property (Nat.le_refl _), scanEach_batchSize]
  have hsize : ∀ size : BatchSize, ¬(size.val < 1 ∨ 1000 < size.val) := fun size => by
    have := size.property
    omega
  unfold catchUp
  simp only [heach, refuse, if_neg (hsize _)]

/-- Whatever the stream is at each read. -/
theorem catchUp_caught {reads : Nat → Except String (List StoredRecord)} {result : JournalCatchUpResult}
    (h : catchUp sha256 journal reads options = .ok result) :
    CaughtSoFar options result.toCatchUpState ∧ result.caughtUp = decide (options.targetTick ≤ result.latestTick) := by
  unfold catchUp at h
  simp only [bind_eq_ok, refuse_eq_ok] at h
  obtain ⟨_, -, _, -, s, hs, hret⟩ := h
  cases hret
  refine ⟨catchUpLoop_caught ⟨?_, rfl, ?_, Nat.le_refl _, Nat.zero_le _⟩ hs, rfl⟩
  · exact List.pairwise_singleton _ _
  · intro r hr
    cases hr

private theorem CaughtSoFar.reached_iff {s : CatchUpState} (h : CaughtSoFar options s) :
    options.targetTick ≤ s.latestTick ↔
      options.targetTick ≤ options.afterTick ∨ ∃ r ∈ s.entries, options.targetTick ≤ r.serverTick.val := by
  have hall : ∀ t ∈ options.afterTick :: s.entries.map (fun r => r.serverTick.val), t ≤ s.latestTick := by
    rw [h.latest]
    exact le_getLast h.rising (List.cons_ne_nil _ _)
  constructor
  · intro hreached
    have hlast := List.getLast_mem (List.cons_ne_nil options.afterTick (s.entries.map fun r => r.serverTick.val))
    rw [← h.latest] at hlast
    rcases List.mem_cons.1 hlast with heq | hmem
    · exact Or.inl (heq ▸ hreached)
    · obtain ⟨r, hr, heq⟩ := List.mem_map.1 hmem
      exact Or.inr ⟨r, hr, heq ▸ hreached⟩
  · rintro (hafter | ⟨r, hr, hreached⟩)
    · exact hafter.trans (hall _ List.mem_cons_self)
    · exact hreached.trans (hall _ (List.mem_cons_of_mem _ (List.mem_map_of_mem hr)))

end

/-- A catch-up returns entries of the requested epoch with strictly rising ticks behind the first one, no more than the
limit, and is caught up just when the target was reached; on a stream that does not change the size of the pages makes
no difference. -/
theorem catchUp_pages (sha256 : List Char → HexDigest) (journal : RoomStateJournal) (options : JournalCatchUpOptions) :
    (∀ reads result, catchUp sha256 journal reads options = .ok result →
      (result.entries.map fun r => r.serverTick.val).Pairwise (· < ·) ∧
      (∀ r ∈ result.entries, r.roomEpoch = options.roomEpoch ∧ options.afterTick < r.serverTick.val) ∧
      result.entries.length ≤ options.maxEntries ∧
      (result.caughtUp = true ↔ options.targetTick ≤ options.afterTick ∨
        ∃ r ∈ result.entries, options.targetTick ≤ r.serverTick.val)) ∧
    ∀ (stream : JournalStream sha256 journal) (size other : BatchSize),
      catchUp sha256 journal (fun _ => .ok stream.stored) { options with batchSize := size } =
        catchUp sha256 journal (fun _ => .ok stream.stored) { options with batchSize := other } := by
  refine ⟨fun reads result h => ?_, fun stream size other => catchUp_batchSize stream size other⟩
  obtain ⟨hcaught, hflag⟩ := catchUp_caught h
  obtain ⟨hbehind, hrising⟩ := List.pairwise_cons.1 hcaught.rising
  refine ⟨hrising, fun r hr => ⟨hcaught.epoch r hr, hbehind _ (List.mem_map_of_mem hr)⟩,
    hcaught.few.trans hcaught.bounded, ?_⟩
  rw [hflag, decide_eq_true_eq]
  exact hcaught.reached_iff

end Opsia
