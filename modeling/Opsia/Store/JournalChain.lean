import Mathlib.Data.List.Chain
import Opsia.Store.Captured

/-!
# The chain of the journal

Each record leads from one stored snapshot to the next.  The ticks of an epoch rise, each record goes on where the one
before it ends, and a catch-up from a stored snapshot ends at the newest record, as long as every snapshot is stored
with a larger tick and no record is left out between two of them (`journal_chained`).
-/

namespace Opsia

open Json

/-- The records of an epoch. -/
def Room.records (room : Room) (roomEpoch : Nat) : List JournalDelta :=
  room.journal.filter fun d => d.target.roomEpoch = roomEpoch

/-- The records behind a snapshot, of its epoch. -/
def beyond (journal : List JournalDelta) (v : SnapshotView) : List JournalDelta :=
  journal.filter fun d => d.target.roomEpoch = v.roomEpoch ∧ v.serverTick < d.target.serverTick

/-- The order of epochs and ticks. -/
def SnapshotView.Before (u v : SnapshotView) : Prop :=
  u.roomEpoch < v.roomEpoch ∨ (u.roomEpoch = v.roomEpoch ∧ u.serverTick < v.serverTick)

/-- The newest record leads to the last of these snapshots, or its epoch begins with it. -/
def Settled (stored : List SnapshotView) (journal : List JournalDelta) : Prop :=
  ∀ u ∈ stored.getLast?, (∃ d ∈ journal.getLast?, d.target = u) ∨
    ((∀ v ∈ stored.dropLast, v.roomEpoch ≠ u.roomEpoch) ∧ ∀ d ∈ journal, d.target.roomEpoch ≠ u.roomEpoch)

instance (u v : SnapshotView) : Decidable (u.Before v) := by
  unfold SnapshotView.Before
  infer_instance

instance (stored : List SnapshotView) (journal : List JournalDelta) : Decidable (Settled stored journal) := by
  unfold Settled
  infer_instance

/-- What Redis holds of a journal: a stream of entries in the order of their ids, which read as these records. -/
structure Holds (sha256 : List Char → HexDigest) (journal : RoomStateJournal) (stream : List StoredRecord)
    (records : List RoomJournalRecord) (kept : List JournalDelta) : Prop where
  reads : ReadsAs sha256 journal stream records
  ids : stream.Pairwise fun a b => b.id.isAfter a.id = true
  first : ∀ r ∈ stream, r.id.isAfter ⟨0, 0⟩ = true
  describes : List.Forall₂ (fun r d => r.roomEpoch.val = d.target.roomEpoch ∧ r.serverTick.val = d.target.serverTick)
    records kept

/-- A catch-up from the snapshot reads all records behind it that are held, and ends at the newest one; it is enough
that the stream is no longer than the limit. -/
def CatchesUp (kept : List JournalDelta) (newest : JournalDelta) (v : SnapshotView) : Prop :=
  ∀ sha256 journal stream records batchSize maxEntries (roomEpoch : SafeNat), Holds sha256 journal stream records kept →
    1 ≤ batchSize ∧ batchSize ≤ 1000 → kept.length ≤ maxEntries ∧ maxEntries ≤ 10000 → roomEpoch.val = v.roomEpoch →
    ∃ result, catchUp sha256 journal (fun _ => .ok stream)
        { afterTick := v.serverTick, targetTick := newest.target.serverTick, roomEpoch, batchSize, maxEntries } = .ok result ∧
      result.caughtUp = true ∧ result.latestTick = newest.target.serverTick ∧
      List.Forall₂ (fun r d => r.roomEpoch.val = d.target.roomEpoch ∧ r.serverTick.val = d.target.serverTick)
        result.entries (beyond kept v)

/-- The chain of the journal, in a room whose keys hold what they hold now. -/
structure Room.JournalChained (room : Room) : Prop where
  ticks : ∀ roomEpoch, (room.records roomEpoch).Pairwise fun d d' => d.target.serverTick < d'.target.serverTick
  bases : ∀ roomEpoch, (room.records roomEpoch).IsChain (fun d d' => d'.base.triple = d.target.triple) ∧
    ∀ d ∈ (room.records roomEpoch).head?, d.base ∈ room.stored
  /-- From a snapshot that has been stored, the records behind it lead to the newest one; so does a catch-up over the
  newest records, of which `kept` are those that Redis has not trimmed. -/
  reached : ∀ v ∈ room.stored, ∀ newest ∈ room.journal.getLast?, newest.target.roomEpoch = v.roomEpoch →
    v.serverTick < newest.target.serverTick →
    replayed v (beyond room.journal v) = some newest.target ∧
    ∀ kept, kept <:+ room.journal → kept ≠ [] → CatchesUp kept newest v

/-! ### Replaying -/

theorem replayed_append (v : SnapshotView) (ds es : List JournalDelta) :
    replayed v (ds ++ es) = (replayed v ds).bind fun t => replayed t es := by
  induction ds generalizing v with
  | nil => rfl
  | cons d ds ih =>
    rw [List.cons_append, replayed, replayed]
    split
    · exact ih d.target
    · rfl

theorem replayed_concat {v t : SnapshotView} {ds : List JournalDelta} {d : JournalDelta}
    (h : replayed v (ds ++ [d]) = some t) : t = d.target := by
  rw [replayed_append] at h
  obtain ⟨u, -, hu⟩ := Option.bind_eq_some_iff.1 h
  rw [replayed] at hu
  split at hu
  · cases hu
    rfl
  · cases hu

/-! ### The invariant -/

theorem SnapshotView.Before.trans {u v w : SnapshotView} (huv : u.Before v) (hvw : v.Before w) : u.Before w := by
  unfold SnapshotView.Before at *
  omega

/-- The records lead from each stored snapshot of an epoch to the next one, up to the last record. -/
structure Room.Ordered (room : Room) : Prop where
  stored : room.stored.Pairwise SnapshotView.Before
  targets : ∀ d ∈ room.journal, d.target ∈ room.stored ∧ d.base ∈ room.stored ∧ d.base.roomEpoch = d.target.roomEpoch
  journal : room.journal.Pairwise fun d d' => d.target.Before d'.target
  bases : ∀ roomEpoch, (room.records roomEpoch).IsChain fun d d' => d'.base = d.target
  replay : ∀ v ∈ room.stored, (replayed v (beyond room.journal v)).isSome = true

/-- Stored snapshots of one epoch and tick are one. -/
private theorem before_irrefl (v : SnapshotView) : ¬v.Before v := by
  unfold SnapshotView.Before
  omega

private theorem Room.Ordered.before_last {room : Room} {older : List SnapshotView} {u v : SnapshotView} (h : room.Ordered)
    (heq : room.stored = older ++ [u]) (hv : v ∈ room.stored) : v = u ∨ v.Before u := by
  rw [heq] at hv
  rcases List.mem_append.1 hv with hv | hv
  · have hpair := h.stored
    rw [heq] at hpair
    exact Or.inr ((List.pairwise_append.1 hpair).2.2 v hv u (List.mem_singleton.2 rfl))
  · exact Or.inl (List.mem_singleton.1 hv)

/-- A snapshot behind all others is stored. -/
theorem Room.Ordered.save {room : Room} {v : SnapshotView} (h : room.Ordered) (hlast : ∀ u ∈ room.snapshot, u.Before v) :
    Room.Ordered { room with stored := room.stored ++ [v] } := by
  have hbefore : ∀ u ∈ room.stored, u.Before v := by
    intro u hu
    rcases List.eq_nil_or_concat room.stored with hnil | ⟨older, last, heq⟩
    · rw [hnil] at hu
      cases hu
    · rw [List.concat_eq_append] at heq
      have hl : last.Before v := hlast last (by unfold Room.snapshot; rw [heq, List.getLast?_concat]; rfl)
      rcases h.before_last heq hu with rfl | hu
      · exact hl
      · exact hu.trans hl
  refine ⟨?_, ?_, h.journal, h.bases, ?_⟩
  · refine List.pairwise_append.2 ⟨h.stored, List.pairwise_singleton .., fun u hu w hw => ?_⟩
    rw [List.mem_singleton.1 hw]
    exact hbefore u hu
  · intro d hd
    obtain ⟨ht, hb, he⟩ := h.targets d hd
    exact ⟨List.mem_append_left _ ht, List.mem_append_left _ hb, he⟩
  · intro u hu
    rcases List.mem_append.1 hu with hu | hu
    · exact h.replay u hu
    · -- no record is behind the new snapshot
      rw [List.mem_singleton.1 hu]
      have hnone : beyond room.journal v = [] := by
        unfold beyond
        rw [List.filter_eq_nil_iff]
        intro d hd
        have := hbefore _ (h.targets d hd).1
        unfold SnapshotView.Before at this
        simp only [decide_eq_true_eq]
        omega
      dsimp only
      rw [hnone]
      rfl

private theorem records_append (room : Room) (d : JournalDelta) (roomEpoch : Nat) :
    Room.records { room with journal := room.journal ++ [d] } roomEpoch =
      room.records roomEpoch ++ if d.target.roomEpoch = roomEpoch then [d] else [] := by
  unfold Room.records
  simp only [List.filter_append, List.filter_cons, List.filter_nil, decide_eq_true_eq]

private theorem beyond_append (journal : List JournalDelta) (d : JournalDelta) (v : SnapshotView) :
    beyond (journal ++ [d]) v =
      beyond journal v ++ if d.target.roomEpoch = v.roomEpoch ∧ v.serverTick < d.target.serverTick then [d] else [] := by
  unfold beyond
  simp only [List.filter_append, List.filter_cons, List.filter_nil, decide_eq_true_eq]

/-- A record to the newest snapshot from the one before it, when that one is settled. -/
theorem Room.Ordered.append {room : Room} {older : List SnapshotView} {base view : SnapshotView} (h : room.Ordered)
    (hstored : room.stored = older ++ [base] ++ [view]) (hepoch : base.roomEpoch = view.roomEpoch)
    (hsettled : Settled (older ++ [base]) room.journal) :
    Room.Ordered { room with journal := room.journal ++ [{ base, target := view }] } := by
  have hbase : base ∈ room.stored := by
    rw [hstored]
    simp
  have hview : view ∈ room.stored := by
    rw [hstored]
    simp
  have hlast : ∀ v ∈ room.stored, v = view ∨ v.Before view := fun v hv => h.before_last hstored hv
  have hmiddle : ∀ v ∈ room.stored, v = view ∨ v = base ∨ (v ∈ older ∧ v.Before base) := by
    intro v hv
    have hpair := h.stored
    rw [hstored] at hv hpair
    rcases List.mem_append.1 hv with hv | hv
    · rcases List.mem_append.1 hv with hv | hv
      · have := (List.pairwise_append.1 (List.pairwise_append.1 hpair).1).2.2 v hv base (List.mem_singleton.2 rfl)
        exact Or.inr (Or.inr ⟨hv, this⟩)
      · exact Or.inr (Or.inl (List.mem_singleton.1 hv))
    · exact Or.inl (List.mem_singleton.1 hv)
  have hnewer : base.Before view := by
    have hpair := h.stored
    rw [hstored] at hpair
    exact (List.pairwise_append.1 hpair).2.2 base (by simp) view (List.mem_singleton.2 rfl)
  -- either the newest record leads to the base, or the base begins its epoch
  have hcase := hsettled base (by rw [List.getLast?_concat]; rfl)
  rw [List.dropLast_concat] at hcase
  have hrecorded : ∀ d ∈ room.journal, d.target = base ∨ d.target.Before base ∨
      (d.target.roomEpoch ≠ base.roomEpoch ∧ d.target.Before view) := by
    intro d hd
    rcases hcase with ⟨d', hd', rfl⟩ | ⟨-, hnone⟩
    · obtain ⟨before, hj⟩ := List.getLast?_eq_some_iff.1 hd'
      have hpair := h.journal
      rw [hj] at hpair hd
      rcases List.mem_append.1 hd with hd | hd
      · exact Or.inr (Or.inl ((List.pairwise_append.1 hpair).2.2 d hd d' (List.mem_singleton.2 rfl)))
      · rw [List.mem_singleton.1 hd]
        exact Or.inl rfl
    · refine Or.inr (Or.inr ⟨hnone d hd, ?_⟩)
      rcases hlast _ (h.targets d hd).1 with heq | hb
      · exact absurd (by rw [heq, hepoch]) (hnone d hd)
      · exact hb
  have hbehind : ∀ d ∈ room.journal, d.target.Before view := by
    intro d hd
    rcases hrecorded d hd with heq | hb | ⟨-, hb⟩
    · rw [heq]
      exact hnewer
    · exact hb.trans hnewer
    · exact hb
  refine ⟨h.stored, ?_, ?_, ?_, ?_⟩
  · intro d hd
    rcases List.mem_append.1 hd with hd | hd
    · exact h.targets d hd
    · rw [List.mem_singleton.1 hd]
      exact ⟨hview, hbase, hepoch⟩
  · refine List.pairwise_append.2 ⟨h.journal, List.pairwise_singleton .., fun d hd d' hd' => ?_⟩
    rw [List.mem_singleton.1 hd']
    exact hbehind d hd
  · intro roomEpoch
    rw [records_append]
    split
    · rename_i he
      refine List.isChain_append.2 ⟨h.bases roomEpoch, List.isChain_singleton _, fun x hx y hy => ?_⟩
      cases hy
      rcases hcase with ⟨d', hd', rfl⟩ | ⟨-, hnone⟩
      · obtain ⟨before, hj⟩ := List.getLast?_eq_some_iff.1 hd'
        have hrecords : room.records roomEpoch = (before.filter fun d => d.target.roomEpoch = roomEpoch) ++ [d'] := by
          unfold Room.records
          rw [hj, List.filter_append]
          simp [hepoch.trans he]
        rw [hrecords, List.getLast?_concat] at hx
        cases hx
        rfl
      · obtain ⟨hm, hxe⟩ := List.mem_filter.1 (List.mem_of_getLast? hx)
        exact absurd ((of_decide_eq_true hxe).trans (he.symm.trans hepoch.symm)) (hnone x hm)
    · rw [List.append_nil]
      exact h.bases roomEpoch
  · intro v hv
    dsimp only at hv ⊢
    rw [beyond_append]
    have hgo : replayed base [{ base, target := view }] = some view := by
      rw [replayed, if_pos rfl, replayed]
    split
    · rename_i hbeyond
      rcases hmiddle v hv with rfl | rfl | ⟨holder, hb⟩
      · exact absurd hbeyond.2 (lt_irrefl _)
      · have hnone : beyond room.journal v = [] := by
          unfold beyond
          rw [List.filter_eq_nil_iff]
          intro d hd
          simp only [decide_eq_true_eq]
          rintro ⟨he, ht⟩
          rcases hrecorded d hd with heq | hb | ⟨hne, -⟩
          · rw [heq] at ht
            exact lt_irrefl _ ht
          · unfold SnapshotView.Before at hb
            omega
          · exact hne he
        rw [hnone, List.nil_append, hgo]
        rfl
      · -- the records behind an older snapshot of the epoch lead to the base
        have hve : v.roomEpoch = base.roomEpoch := hbeyond.1.symm.trans hepoch.symm
        rcases hcase with ⟨d', hd', rfl⟩ | ⟨hfirst, -⟩
        · obtain ⟨before, hj⟩ := List.getLast?_eq_some_iff.1 hd'
          have hlast : beyond room.journal v = beyond before v ++ [d'] := by
            rw [hj, beyond_append, if_pos]
            unfold SnapshotView.Before at hb
            omega
          obtain ⟨t, ht⟩ := Option.isSome_iff_exists.1 (h.replay v hv)
          have hbt : t = d'.target := replayed_concat (hlast ▸ ht)
          rw [replayed_append, ht, Option.bind_some, hbt, hgo]
          rfl
        · exact absurd hve (hfirst v holder)
    · rw [List.append_nil]
      exact h.replay v hv

/-! ### What follows -/

private theorem describes_map {records : List RoomJournalRecord} {kept : List JournalDelta}
    (h : List.Forall₂ (fun r d => r.roomEpoch.val = d.target.roomEpoch ∧ r.serverTick.val = d.target.serverTick)
      records kept) :
    (records.map fun r => (r.roomEpoch.val, r.serverTick.val)) =
      kept.map fun d => (d.target.roomEpoch, d.target.serverTick) := by
  induction h with
  | nil => rfl
  | cons hd _ ih => rw [List.map_cons, List.map_cons, ih, hd.1, hd.2]

/-- A catch-up over held records in order ends at the newest one. -/
private theorem catchesUp {kept : List JournalDelta} {newest : JournalDelta} {v : SnapshotView}
    (hordered : kept.Pairwise fun d d' => d.target.Before d'.target) (hnewest : kept.getLast? = some newest)
    (hepoch : newest.target.roomEpoch = v.roomEpoch) (htick : v.serverTick < newest.target.serverTick) :
    CatchesUp kept newest v := by
  intro sha256 journal stream records batchSize maxEntries roomEpoch hheld hbatch hmax he
  obtain ⟨older, hkept⟩ := List.getLast?_eq_some_iff.1 hnewest
  have hmap := describes_map hheld.describes
  have hpair : records.Pairwise fun a b => a.roomEpoch.val < b.roomEpoch.val ∨
      (a.roomEpoch.val = b.roomEpoch.val ∧ a.serverTick.val < b.serverTick.val) := by
    have : (kept.map fun d => (d.target.roomEpoch, d.target.serverTick)).Pairwise fun p q =>
        p.1 < q.1 ∨ (p.1 = q.1 ∧ p.2 < q.2) := List.pairwise_map.2 hordered
    rw [← hmap] at this
    exact List.pairwise_map.1 this
  have hlast : ∃ front last, records = front ++ [last] ∧ last.roomEpoch.val = v.roomEpoch ∧
      last.serverTick.val = newest.target.serverTick := by
    rw [hkept, List.map_append] at hmap
    obtain ⟨front, tail, rfl, -, htail⟩ := List.map_eq_append_iff.1 hmap
    rw [List.map_singleton, List.map_eq_singleton_iff] at htail
    obtain ⟨last, rfl, hkey⟩ := htail
    rw [Prod.mk.injEq] at hkey
    exact ⟨front, last, rfl, hkey.1.trans hepoch, hkey.2⟩
  obtain ⟨front, last, hrecords, hle, hlt⟩ := hlast
  have hup : UpToTarget { afterTick := v.serverTick, targetTick := newest.target.serverTick, roomEpoch, batchSize, maxEntries }
      records := by
    refine ⟨?_, ?_, ⟨front, last, hrecords, Subtype.ext (hle.trans he.symm), hlt⟩, htick⟩
    · intro r hr
      rw [hrecords] at hr hpair
      rcases List.mem_append.1 hr with hr | hr
      · have := (List.pairwise_append.1 hpair).2.2 r hr last (List.mem_singleton.2 rfl)
        dsimp only
        omega
      · rw [List.mem_singleton.1 hr]
        dsimp only
        omega
    · refine hpair.imp fun {a b} hab ha hb => ?_
      rw [ha, hb] at hab
      omega
  have hlength : records.length = kept.length := hheld.describes.length_eq
  obtain ⟨result, hresult, hentries, hlatest, hcaught⟩ :=
    catchUp_reaches hheld.reads hheld.ids hheld.first hbatch (by rw [hlength]; exact hmax) hup
  refine ⟨result, hresult, hcaught, hlatest, ?_⟩
  rw [hentries]
  refine List.rel_filter (fun r d hrd => ?_) hheld.describes
  simp only [decide_eq_true_eq]
  rw [← hrd.1, ← hrd.2, ← he, ← Subtype.ext_iff]

theorem Room.Ordered.chained {room : Room} (h : room.Ordered) : room.JournalChained where
  ticks roomEpoch := by
    refine (h.journal.filter _).imp_of_mem fun {d d'} hd hd' hbefore => ?_
    have he := of_decide_eq_true (List.mem_filter.1 hd).2
    have he' := of_decide_eq_true (List.mem_filter.1 hd').2
    unfold SnapshotView.Before at hbefore
    omega
  bases roomEpoch := by
    refine ⟨(h.bases roomEpoch).imp fun _ _ hbase => congrArg SnapshotView.triple hbase, fun d hd => ?_⟩
    exact (h.targets d (List.mem_filter.1 (List.mem_of_head? hd)).1).2.1
  reached := by
    intro v hv newest hnewest hepoch htick
    obtain ⟨older, hj⟩ := List.getLast?_eq_some_iff.1 hnewest
    constructor
    · obtain ⟨t, ht⟩ := Option.isSome_iff_exists.1 (h.replay v hv)
      have hlast : beyond room.journal v = beyond older v ++ [newest] := by
        rw [hj, beyond_append, if_pos ⟨hepoch, htick⟩]
      rw [hlast] at ht ⊢
      rw [ht, replayed_concat ht]
    · intro kept hkept hne
      refine catchesUp (h.journal.sublist hkept.sublist) ?_ hepoch htick
      obtain ⟨trimmed, heq⟩ := hkept
      rw [← heq, List.getLast?_append_of_ne_nil _ hne] at hnewest
      exact hnewest

/-! ### Steps -/

namespace Store

variable {config : SnapshotRuntimeConfig}

/-- An append under way has a base of the epoch of its snapshot. -/
def AppendFits (s : Store) : Prop :=
  ∀ p base call, s.persisting = some p → p.stage = .appending base call → base.roomEpoch = p.view.roomEpoch

private theorem AppendFits.of_eq {s s' : Store} (h : AppendFits s)
    (hp : s'.persisting = s.persisting ∨ s'.persisting = none) : AppendFits s' := by
  intro p base call hs
  rcases hp with hp | hp
  · exact h p base call (hp ▸ hs)
  · rw [hp] at hs
    cases hs

private theorem writerStep_persisting {s s' : Store} {event : WriterEvent} (h : s.writerStep config event = some s') :
    s'.persisting = s.persisting := by
  obtain ⟨w, -, rfl⟩ := writerStep_eq_some.1 h
  rfl

private theorem appendFits_saving {room room' : Room} {s s' : Store} {event : SaveEvent} (h : AppendFits s)
    (hs : s.savingStep config room event = some (room', s')) : AppendFits s' := by
  have hbuild : ∀ (t : Store) now serverTick capture,
      ((t.factory now serverTick capture).1.recordBuild config room now (t.factory now serverTick capture).2).2.persisting =
        t.persisting := by
    intro t now serverTick capture
    obtain ⟨_, _, heq⟩ := t.factory_eq now serverTick capture
    rw [recordBuild_persisting, heq]
  cases event with
  | save now serverTick capture =>
    simp only [savingStep, save] at hs
    split at hs
    · cases hs
    split at hs
    · obtain ⟨t, ht, hs⟩ := Option.map_eq_some_iff.1 hs
      cases hs
      have hp := writerStep_persisting ht
      exact h.of_eq (Or.inl hp)
    · obtain ⟨t, ht, hs⟩ := Option.map_eq_some_iff.1 hs
      cases hs
      have hp := (writerStep_persisting ht).trans (hbuild ..)
      exact h.of_eq (Or.inl hp)
  | exitCheck now capture =>
    simp only [savingStep, exitCheck] at hs
    split at hs
    · split at hs
      · obtain ⟨t, ht, hs⟩ := Option.map_eq_some_iff.1 hs
        cases hs
        exact h.of_eq (Or.inl (writerStep_persisting ht))
      · obtain ⟨t, ht, hs⟩ := Option.map_eq_some_iff.1 hs
        cases hs
        exact h.of_eq (Or.inl ((writerStep_persisting ht).trans (hbuild ..)))
    · obtain ⟨t, ht, hs⟩ := Option.map_eq_some_iff.1 hs
      cases hs
      exact h.of_eq (Or.inl (writerStep_persisting ht))
  | timer i | deliver | finish =>
    obtain ⟨hk, rfl⟩ := keeping_eq_some.1 hs
    exact h.of_eq (Or.inl (writerStep_persisting hk))
  | decide i now =>
    obtain ⟨hk, rfl⟩ := keeping_eq_some.1 hs
    obtain ⟨t, ht, rfl⟩ := Option.map_eq_some_iff.1 hk
    have hp := writerStep_persisting ht
    exact h.of_eq (Or.inl hp)
  | writeStart i =>
    obtain ⟨hk, rfl⟩ := keeping_eq_some.1 hs
    unfold writeStart at hk
    split at hk
    · obtain ⟨t, -, rfl⟩ := Option.map_eq_some_iff.1 hk
      intro p base call hp hstage
      cases hp
      cases hstage
    · cases hk
  | saveSet =>
    simp only [savingStep, saveSet] at hs
    split at hs <;> cases hs
    intro p base call hp hstage
    cases hp
    cases hstage
  | saveAnswered lost result =>
    obtain ⟨hk, rfl⟩ := keeping_eq_some.1 hs
    unfold saveAnswered settleWrite at hk
    split at hk
    · split at hk
      · split at hk
        · exact h.of_eq (Or.inr (writerStep_persisting hk))
        · rename_i base hbase
          split at hk
          · cases hk
            intro p base' call' hp hstage
            cases hp
            cases hstage
            exact (of_decide_eq_true (Option.mem_filter_iff.1 hbase).2).1
          · exact h.of_eq (Or.inr (writerStep_persisting hk))
        · exact h.of_eq (Or.inr (writerStep_persisting hk))
      · exact h.of_eq (Or.inr (writerStep_persisting hk))
      · exact h.of_eq (Or.inr (writerStep_persisting hk))
      · cases hk
    · cases hk
  | appendSet =>
    simp only [savingStep, appendSet] at hs
    split at hs
    · rename_i execution view base hp
      cases hs
      intro p base' call' hp' hstage
      cases hp'
      cases hstage
      exact h { execution, view, stage := .appending base .issued } _ _ hp rfl
    · cases hs
  | appendAnswered lost =>
    obtain ⟨hk, rfl⟩ := keeping_eq_some.1 hs
    unfold appendAnswered settleWrite at hk
    split at hk
    · split at hk
      · exact h.of_eq (Or.inr (writerStep_persisting hk))
      · exact h.of_eq (Or.inr (writerStep_persisting hk))
      · exact h.of_eq (Or.inr (writerStep_persisting hk))
      · cases hk
    · cases hk

theorem AppendFits.step {room room' : Room} {i : Nat} {s s' : Store} {e : StoreEvent} (h : AppendFits s)
    (hs : s.step config room i e = some (room', s')) : AppendFits s' := by
  cases e with
  | authority e =>
    simp only [Store.step] at hs
    split at hs
    · exact h.of_eq (Or.inl (authorityStep_frame hs).persisting)
    · cases hs
  | saving e =>
    simp only [Store.step] at hs
    split at hs
    · exact appendFits_saving h hs
    · cases hs
  | session e =>
    simp only [Store.step] at hs
    split at hs <;> cases hs
    cases e <;> exact h.of_eq (Or.inl rfl)
  | handoffStatus now =>
    simp only [Store.step] at hs
    split at hs <;> cases hs
    exact h

/-- What a step does to the snapshot and the journal: nothing, or one of the two commands is executed. -/
theorem step_keys {room room' : Room} {i : Nat} {s s' : Store} {e : StoreEvent}
    (h : s.step config room i e = some (room', s')) :
    (room'.stored = room.stored ∧ room'.journal = room.journal) ∨
    (∃ p, e = .saving .saveSet ∧ s.persisting = some p ∧ p.stage = .saving .issued ∧ room.lease = some s.env.owner ∧
      room'.stored = room.stored ++ [p.view] ∧ room'.journal = room.journal) ∨
    ∃ p base, e = .saving .appendSet ∧ s.persisting = some p ∧ p.stage = .appending base .issued ∧
      room.lease = some s.env.owner ∧ room'.stored = room.stored ∧
      room'.journal = room.journal ++ [{ base, target := p.view }] := by
  cases e with
  | authority e =>
    simp only [Store.step] at h
    split at h
    · have hframe := authorityStep_frame h
      exact Or.inl ⟨hframe.stored, hframe.journal⟩
    · cases h
  | session e =>
    simp only [Store.step] at h
    split at h <;> cases h
    exact Or.inl ⟨rfl, rfl⟩
  | handoffStatus now =>
    simp only [Store.step] at h
    split at h <;> cases h
    exact Or.inl ⟨rfl, rfl⟩
  | saving e =>
    simp only [Store.step] at h
    split at h
    · cases e with
      | saveSet =>
        simp only [savingStep, saveSet] at h
        split at h
        · rename_i hp
          cases h
          unfold Room.saveSnapshot
          split
          · rename_i hlease
            exact Or.inr (Or.inl ⟨_, rfl, hp, rfl, hlease, rfl, rfl⟩)
          · exact Or.inl ⟨rfl, rfl⟩
        · cases h
      | appendSet =>
        simp only [savingStep, appendSet] at h
        split at h
        · rename_i hp
          cases h
          unfold Room.append
          split
          · rename_i hlease
            exact Or.inr (Or.inr ⟨_, _, rfl, hp, rfl, hlease, rfl, rfl⟩)
          · exact Or.inl ⟨rfl, rfl⟩
        · cases h
      | save now serverTick capture =>
        simp only [savingStep, save] at h
        split at h
        · cases h
        split at h
        · obtain ⟨t, -, h⟩ := Option.map_eq_some_iff.1 h
          cases h
          exact Or.inl ⟨rfl, rfl⟩
        · obtain ⟨t, -, h⟩ := Option.map_eq_some_iff.1 h
          cases h
          exact Or.inl (recordBuild_room ..)
      | exitCheck now capture =>
        simp only [savingStep, exitCheck] at h
        split at h
        · split at h
          · obtain ⟨t, -, h⟩ := Option.map_eq_some_iff.1 h
            cases h
            exact Or.inl ⟨rfl, rfl⟩
          · obtain ⟨t, -, h⟩ := Option.map_eq_some_iff.1 h
            cases h
            exact Or.inl (recordBuild_room ..)
        · obtain ⟨t, -, h⟩ := Option.map_eq_some_iff.1 h
          cases h
          exact Or.inl ⟨rfl, rfl⟩
      | _ =>
        obtain ⟨-, rfl⟩ := keeping_eq_some.1 h
        exact Or.inl ⟨rfl, rfl⟩
    · cases h

end Store

namespace World

open Machine

variable {config : SnapshotRuntimeConfig}

/-- The base of an append that is on its way. -/
def sentBase : PersistStage → Option SnapshotView
  | .appending base .issued => some base
  | _ => none

/-- A snapshot is only stored behind the one that is stored, at a larger epoch or at a larger tick of the same; a record
is only appended while its snapshot is the one stored, its base the one stored before that, and that one settled. -/
def InOrder (w : World) : WorldEvent → Prop
  | .at i (.saving .saveSet) => ∀ s ∈ w.stores[i]?, ∀ p ∈ s.persisting, p.stage = .saving .issued →
      w.room.lease = some s.env.owner → ∀ u ∈ w.room.snapshot, u.Before p.view
  | .at i (.saving .appendSet) => ∀ s ∈ w.stores[i]?, ∀ p ∈ s.persisting, ∀ base ∈ sentBase p.stage,
      w.room.lease = some s.env.owner → w.room.snapshot = some p.view ∧ w.room.stored.dropLast.getLast? = some base ∧
        Settled w.room.stored.dropLast w.room.journal
  | _ => True

instance (w : World) (event : WorldEvent) : Decidable (InOrder w event) := by
  unfold InOrder
  split <;> infer_instance

/-- What holds in a run that keeps the order. -/
structure Chaining (w : World) : Prop where
  ordered : w.room.Ordered
  fits : ∀ (i : Nat) s, w.stores[i]? = some s → s.AppendFits

private theorem ordered_congr {room room' : Room} (h : room.Ordered) (hstored : room'.stored = room.stored)
    (hjournal : room'.journal = room.journal) : room'.Ordered := by
  have hrecords : ∀ roomEpoch, room'.records roomEpoch = room.records roomEpoch := by
    intro roomEpoch
    unfold Room.records
    rw [hjournal]
  refine ⟨?_, ?_, ?_, fun roomEpoch => ?_, ?_⟩
  · rw [hstored]
    exact h.stored
  · rw [hstored, hjournal]
    exact h.targets
  · rw [hjournal]
    exact h.journal
  · rw [hrecords]
    exact h.bases roomEpoch
  · rw [hstored, hjournal]
    exact h.replay

theorem Chaining.step {w w' : World} {event : WorldEvent} (h : Chaining w) (horder : InOrder w event)
    (hs : w.step config event = some w') : Chaining w' := by
  refine ⟨?_, ?_⟩
  · rcases step_cases hs with ⟨env, -, rfl⟩ | ⟨i, s, -, -, rfl⟩ | ⟨-, rfl⟩ | ⟨i, e, s, room', s', rfl, hi, hstep, rfl⟩
    · exact h.ordered
    · exact h.ordered
    · exact ordered_congr h.ordered rfl rfl
    · rcases Store.step_keys hstep with ⟨hstored, hjournal⟩ | ⟨p, rfl, hp, hstage, hlease, hstored, hjournal⟩ |
        ⟨p, base, rfl, hp, hstage, hlease, hstored, hjournal⟩
      · exact ordered_congr h.ordered hstored hjournal
      · exact ordered_congr (h.ordered.save (horder s hi p hp hstage hlease)) hstored hjournal
      · obtain ⟨hview, hbase, hsettled⟩ := horder s hi p hp base (by rw [hstage]; rfl) hlease
        obtain ⟨older, hfront⟩ := List.getLast?_eq_some_iff.1 hbase
        obtain ⟨front, hall⟩ := List.getLast?_eq_some_iff.1 hview
        have hlist : w.room.stored = older ++ [base] ++ [p.view] := by
          rw [hall, List.dropLast_concat] at hfront
          rw [hall, hfront]
        rw [hfront] at hsettled
        exact ordered_congr (h.ordered.append hlist (h.fits i s hi p base _ hp hstage) hsettled) hstored hjournal
  · refine each_step (I := fun _ _ s => s.AppendFits) h.fits hs ?_ ?_ ?_ ?_ ?_
    · intro env p base call hp
      cases hp
    · exact fun i s hi => hi
    · exact fun i s hi => hi
    · exact fun i s e room' s' _ _ hi hstep => hi.step hstep
    · exact fun i s e room' s' j t _ _ _ _ _ ht => ht

end World

end Opsia
