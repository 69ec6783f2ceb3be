import Mathlib.Data.List.Sort
import Opsia.BotBrain.GridWalk

/-!
# The spatial index of the obstacles

Each obstacle is filed under the cells of its padded box, or kept apart if the box is not finite or too large.  A query
takes the obstacles of the cell of a point, or of the cells walked along a segment, and those kept apart; it answers
what a test of these obstacles says.  What the index holds and what the walk collects is said by membership
(`mem_cells`, `mem_unindexed`, `mem_alongSegment`).
-/

namespace Opsia

def navigationIndexPadding : ℚ := 4

def maxIndexedCellsPerObstacle : ℤ := 256

structure BotBrainMapObstacle where
  x : ExactNumber
  y : ExactNumber
  width : ExactNumber
  height : ExactNumber
deriving DecidableEq

/-- What of a snapshot says where the obstacles are. -/
structure BotBrainSnapshot where
  obstacles : Option (List BotBrainMapObstacle)
  navigation : Option (List BotBrainMapObstacle)

structure NavigationObstacleEntry where
  obstacle : BotBrainMapObstacle
  order : ℕ
deriving DecidableEq

structure NavigationSpatialIndex where
  entries : List NavigationObstacleEntry
  cells : ℤ × ℤ → List NavigationObstacleEntry
  unindexed : List NavigationObstacleEntry

def navigationObstacles (snapshot : BotBrainSnapshot) : List BotBrainMapObstacle :=
  match snapshot.obstacles with
  | some live => live
  | none => snapshot.navigation.getD []

/-! ### Boxes -/

/-- `center - size / 2 - padding` -/
def lowEdge (center size : ExactNumber) (padding : ℚ) : ExactNumber :=
  (center.sub (size.div (.finite 2))).sub (.finite padding)

/-- `center + size / 2 + padding` -/
def highEdge (center size : ExactNumber) (padding : ℚ) : ExactNumber :=
  (center.add (size.div (.finite 2))).add (.finite padding)

def insideObstacle (x y : ExactNumber) (obstacle : BotBrainMapObstacle) (padding : ℚ) : Bool :=
  (lowEdge obstacle.x obstacle.width padding).le x && x.le (highEdge obstacle.x obstacle.width padding) &&
    (lowEdge obstacle.y obstacle.height padding).le y && y.le (highEdge obstacle.y obstacle.height padding)

/-- The part of a segment along one axis that is between the edges, if there is one. -/
def slab (origin delta min max low high : ExactNumber) : Option (ExactNumber × ExactNumber) :=
  if delta.abs.lt (.finite (1 / 10 ^ 6)) then
    if origin.lt min || max.lt origin then none else some (low, high)
  else
    let first := (min.sub origin).div delta
    let second := (max.sub origin).div delta
    let low := low.max (first.min second)
    let high := high.min (first.max second)
    if high.lt low then none else some (low, high)

def segmentHitsObstacle (ax ay bx «by» : ExactNumber) (obstacle : BotBrainMapObstacle) (padding : ℚ) : Bool :=
  if insideObstacle ax ay obstacle 0 then false
  else
    let hit := do
      let (low, high) ← slab ax (bx.sub ax) (lowEdge obstacle.x obstacle.width padding)
        (highEdge obstacle.x obstacle.width padding) (.finite 0) (.finite 1)
      slab ay («by».sub ay) (lowEdge obstacle.y obstacle.height padding) (highEdge obstacle.y obstacle.height padding)
        low high
    hit.any fun (low, high) => (ExactNumber.finite 0).le high && low.le (.finite 1)

/-! ### The index -/

structure CellRange where
  startX : ℤ
  endX : ℤ
  startY : ℤ
  endY : ℤ

namespace CellRange

def count (r : CellRange) : ℤ := (r.endX - r.startX + 1) * (r.endY - r.startY + 1)

def Contains (r : CellRange) (cell : ℤ × ℤ) : Prop :=
  (r.startX ≤ cell.1 ∧ cell.1 ≤ r.endX) ∧ r.startY ≤ cell.2 ∧ cell.2 ≤ r.endY

instance (r : CellRange) (cell : ℤ × ℤ) : Decidable (r.Contains cell) := by unfold Contains; infer_instance

end CellRange

namespace BotBrainMapObstacle

/-- The cells of the padded box, if it is finite. -/
def boxCells (obstacle : BotBrainMapObstacle) (padding : ℚ) : Option CellRange :=
  match lowEdge obstacle.x obstacle.width padding, highEdge obstacle.x obstacle.width padding,
    lowEdge obstacle.y obstacle.height padding, highEdge obstacle.y obstacle.height padding with
  | .finite minX, .finite maxX, .finite minY, .finite maxY =>
    some ⟨cellOf (min minX maxX), cellOf (max minX maxX), cellOf (min minY maxY), cellOf (max minY maxY)⟩
  | _, _, _, _ => none

/-- The cells that an obstacle is filed under, unless it is kept apart. -/
def cellRange? (obstacle : BotBrainMapObstacle) : Option CellRange :=
  match obstacle.boxCells navigationIndexPadding with
  | none => none
  | some range => if maxIndexedCellsPerObstacle < range.count then none else some range

end BotBrainMapObstacle

namespace NavigationSpatialIndex

def addEntry (index : NavigationSpatialIndex) (entry : NavigationObstacleEntry) : NavigationSpatialIndex :=
  match entry.obstacle.cellRange? with
  | none => { index with unindexed := index.unindexed ++ [entry] }
  | some range =>
    { index with
      cells := fun cell => if range.Contains cell then index.cells cell ++ [entry] else index.cells cell }

end NavigationSpatialIndex

/-- The obstacles with their places in the list. -/
def navigationEntries (snapshot : BotBrainSnapshot) : List NavigationObstacleEntry :=
  (navigationObstacles snapshot).zipIdx.map fun (obstacle, order) => { obstacle, order }

def navigationSpatialIndex (snapshot : BotBrainSnapshot) : NavigationSpatialIndex :=
  let entries := navigationEntries snapshot
  entries.foldl NavigationSpatialIndex.addEntry { entries, cells := fun _ => [], unindexed := [] }

def sortByOrder (entries : List NavigationObstacleEntry) : List NavigationObstacleEntry :=
  entries.insertionSort fun left right => left.order ≤ right.order

def navigationEntriesAtPoint (snapshot : BotBrainSnapshot) (x y : ExactNumber) : List NavigationObstacleEntry :=
  let index := navigationSpatialIndex snapshot
  match x, y with
  | .finite x, .finite y =>
    let bucket := index.cells (cellOf x, cellOf y)
    if index.unindexed = [] then bucket else sortByOrder (bucket ++ index.unindexed)
  | _, _ => index.entries

/-- `candidates.set(entry.order, entry)` -/
def setCandidate (candidates : List NavigationObstacleEntry) (entry : NavigationObstacleEntry) :
    List NavigationObstacleEntry :=
  if candidates.any fun other => other.order == entry.order then
    candidates.map fun other => if other.order = entry.order then entry else other
  else candidates ++ [entry]

def NavigationSpatialIndex.addCell (index : NavigationSpatialIndex) (candidates : List NavigationObstacleEntry)
    (cell : ℤ × ℤ) : List NavigationObstacleEntry :=
  (index.cells cell).foldl setCandidate candidates

/-- The cells that a round of the loop adds. -/
def GridWalk.added (s : Segment) (w : GridWalk) : List (ℤ × ℤ) :=
  (if w.tied then [(w.cellX + s.x.step, w.cellY), (w.cellX, w.cellY + s.y.step)] else []) ++
    [((w.step s).cellX, (w.step s).cellY)]

/-- The loop, for a number of rounds at most. -/
def NavigationSpatialIndex.collect (index : NavigationSpatialIndex) (s : Segment) (fuel : ℕ) (w : GridWalk)
    (candidates : List NavigationObstacleEntry) : Option (List NavigationObstacleEntry) :=
  if w.AtEnd s then some candidates
  else
    match fuel with
    | 0 => none
    | fuel + 1 => index.collect s fuel (w.step s) ((w.added s).foldl index.addCell candidates)

/-- A segment with finite end points. -/
def segment? : ExactNumber → ExactNumber → ExactNumber → ExactNumber → Option Segment
  | .finite ax, .finite ay, .finite bx, .finite «by» => some ⟨⟨ax, bx⟩, ⟨ay, «by»⟩⟩
  | _, _, _, _ => none

/-- The entries along a segment, if the walk ends; it does not if it has not within the Manhattan distance
(`alongSegment_eq_none_iff`). -/
def navigationEntriesAlongSegment (snapshot : BotBrainSnapshot) (ax ay bx «by» : ExactNumber) :
    Option (List NavigationObstacleEntry) :=
  let index := navigationSpatialIndex snapshot
  match segment? ax ay bx «by» with
  | none => some index.entries
  | some s =>
    let w := GridWalk.start s
    let candidates := index.addCell (index.unindexed.foldl setCandidate []) (w.cellX, w.cellY)
    (index.collect s s.manhattan w candidates).map sortByOrder

/-! ### The queries -/

def segmentIsClear (snapshot : BotBrainSnapshot) (ax ay bx «by» : ExactNumber) : Option Bool :=
  (navigationEntriesAlongSegment snapshot ax ay bx «by»).map fun entries =>
    !entries.any fun entry => segmentHitsObstacle ax ay bx «by» entry.obstacle (35 / 100)

def segmentIsNavigable (snapshot : BotBrainSnapshot) (ax ay bx «by» : ExactNumber) : Option Bool :=
  (navigationEntriesAlongSegment snapshot ax ay bx «by»).map fun entries =>
    !entries.any fun entry => segmentHitsObstacle ax ay bx «by» entry.obstacle 3

def pathPointBlocked (snapshot : BotBrainSnapshot) (x y : ExactNumber) : Bool :=
  (navigationEntriesAtPoint snapshot x y).any fun entry => insideObstacle x y entry.obstacle 3

/-! ### What the index holds -/

section
variable {snapshot : BotBrainSnapshot}

/-- The obstacle is filed under the cell. -/
def BotBrainMapObstacle.FiledUnder (obstacle : BotBrainMapObstacle) (cell : ℤ × ℤ) : Prop :=
  ∃ range, obstacle.cellRange? = some range ∧ range.Contains cell

private theorem mem_addEntry_cells (index : NavigationSpatialIndex) (first entry : NavigationObstacleEntry)
    (cell : ℤ × ℤ) : entry ∈ (index.addEntry first).cells cell ↔
      entry ∈ index.cells cell ∨ entry = first ∧ entry.obstacle.FiledUnder cell := by
  unfold NavigationSpatialIndex.addEntry BotBrainMapObstacle.FiledUnder
  cases hrange : first.obstacle.cellRange? with
  | none =>
    refine (or_iff_left ?_).symm
    rintro ⟨rfl, range, hsome, -⟩
    rw [hrange] at hsome
    cases hsome
  | some range =>
    dsimp only
    split
    · rename_i hcontains
      rw [List.mem_append, List.mem_singleton]
      refine or_congr_right (and_iff_left_of_imp ?_).symm
      rintro rfl
      exact ⟨range, hrange, hcontains⟩
    · rename_i hcontains
      refine (or_iff_left ?_).symm
      rintro ⟨rfl, range', hsome, hin⟩
      rw [hrange] at hsome
      cases hsome
      exact hcontains hin

private theorem mem_addEntry_unindexed (index : NavigationSpatialIndex) (first entry : NavigationObstacleEntry) :
    entry ∈ (index.addEntry first).unindexed ↔
      entry ∈ index.unindexed ∨ entry = first ∧ entry.obstacle.cellRange? = none := by
  unfold NavigationSpatialIndex.addEntry
  cases hrange : first.obstacle.cellRange? with
  | none =>
    dsimp only
    rw [List.mem_append, List.mem_singleton]
    refine or_congr_right (and_iff_left_of_imp ?_).symm
    rintro rfl
    exact hrange
  | some range =>
    refine (or_iff_left ?_).symm
    rintro ⟨rfl, hnone⟩
    rw [hrange] at hnone
    cases hnone

private theorem mem_foldl_cells (entries : List NavigationObstacleEntry) (index : NavigationSpatialIndex)
    (entry : NavigationObstacleEntry) (cell : ℤ × ℤ) :
    entry ∈ (entries.foldl NavigationSpatialIndex.addEntry index).cells cell ↔
      entry ∈ index.cells cell ∨ entry ∈ entries ∧ entry.obstacle.FiledUnder cell := by
  induction entries generalizing index with
  | nil => simp
  | cons first entries ih => rw [List.foldl_cons, ih, mem_addEntry_cells, List.mem_cons, or_assoc, or_and_right]

private theorem mem_foldl_unindexed (entries : List NavigationObstacleEntry) (index : NavigationSpatialIndex)
    (entry : NavigationObstacleEntry) :
    entry ∈ (entries.foldl NavigationSpatialIndex.addEntry index).unindexed ↔
      entry ∈ index.unindexed ∨ entry ∈ entries ∧ entry.obstacle.cellRange? = none := by
  induction entries generalizing index with
  | nil => simp
  | cons first entries ih => rw [List.foldl_cons, ih, mem_addEntry_unindexed, List.mem_cons, or_assoc, or_and_right]

private theorem foldl_entries (entries : List NavigationObstacleEntry) (index : NavigationSpatialIndex) :
    (entries.foldl NavigationSpatialIndex.addEntry index).entries = index.entries := by
  induction entries generalizing index with
  | nil => rfl
  | cons first entries ih =>
    rw [List.foldl_cons, ih]
    unfold NavigationSpatialIndex.addEntry
    split <;> rfl

theorem index_entries : (navigationSpatialIndex snapshot).entries = navigationEntries snapshot := foldl_entries ..

theorem mem_cells {entry : NavigationObstacleEntry} {cell : ℤ × ℤ} :
    entry ∈ (navigationSpatialIndex snapshot).cells cell ↔
      entry ∈ navigationEntries snapshot ∧ entry.obstacle.FiledUnder cell := by
  unfold navigationSpatialIndex
  rw [mem_foldl_cells]
  simp

theorem mem_unindexed {entry : NavigationObstacleEntry} : entry ∈ (navigationSpatialIndex snapshot).unindexed ↔
    entry ∈ navigationEntries snapshot ∧ entry.obstacle.cellRange? = none := by
  unfold navigationSpatialIndex
  rw [mem_foldl_unindexed]
  simp

theorem mem_sortByOrder {entries : List NavigationObstacleEntry} {entry : NavigationObstacleEntry} :
    entry ∈ sortByOrder entries ↔ entry ∈ entries :=
  (List.perm_insertionSort _ entries).mem_iff

/-- The obstacles of the entries are those of the snapshot. -/
theorem map_entries : (navigationEntries snapshot).map (·.obstacle) = navigationObstacles snapshot := by
  unfold navigationEntries
  rw [List.map_map]
  exact List.zipIdx_map_fst 0 (navigationObstacles snapshot)

theorem any_entries (p : BotBrainMapObstacle → Bool) :
    ((navigationEntries snapshot).any fun entry => p entry.obstacle) = (navigationObstacles snapshot).any p := by
  rw [← map_entries, List.any_map]
  rfl

/-- No two entries have the same place. -/
theorem order_inj {entry other : NavigationObstacleEntry} (h : entry ∈ navigationEntries snapshot)
    (h' : other ∈ navigationEntries snapshot) (horder : entry.order = other.order) : entry = other := by
  obtain ⟨⟨obstacle, place⟩, hmem, rfl⟩ := List.mem_map.1 h
  obtain ⟨⟨obstacle', place'⟩, hmem', rfl⟩ := List.mem_map.1 h'
  obtain rfl : place = place' := horder
  rw [List.mem_zipIdx_iff_getElem?] at hmem hmem'
  obtain rfl : obstacle = obstacle' := Option.some.inj (hmem.symm.trans hmem')
  rfl

/-! ### What a query collects -/

theorem mem_atPoint {x y : ℚ} {entry : NavigationObstacleEntry} :
    entry ∈ navigationEntriesAtPoint snapshot (.finite x) (.finite y) ↔ entry ∈ navigationEntries snapshot ∧
      (entry.obstacle.cellRange? = none ∨ entry.obstacle.FiledUnder (cellOf x, cellOf y)) := by
  have hboth : entry ∈ (navigationSpatialIndex snapshot).cells (cellOf x, cellOf y) ++
      (navigationSpatialIndex snapshot).unindexed ↔ entry ∈ navigationEntries snapshot ∧
        (entry.obstacle.cellRange? = none ∨ entry.obstacle.FiledUnder (cellOf x, cellOf y)) := by
    rw [List.mem_append, mem_cells, mem_unindexed, ← and_or_left, or_comm]
  rw [← hboth]
  unfold navigationEntriesAtPoint
  dsimp only
  split
  · rename_i hempty
    rw [hempty, List.append_nil]
  · exact mem_sortByOrder

private theorem mem_setCandidate {candidates : List NavigationObstacleEntry} {entry other : NavigationObstacleEntry}
    (hcandidates : ∀ e ∈ candidates, e ∈ navigationEntries snapshot) (hentry : entry ∈ navigationEntries snapshot) :
    other ∈ setCandidate candidates entry ↔ other ∈ candidates ∨ other = entry := by
  unfold setCandidate
  split
  · rename_i hknown
    obtain ⟨e, he, horder⟩ := List.any_eq_true.1 hknown
    have hsame : ∀ e ∈ candidates, (if e.order = entry.order then entry else e) = e := by
      intro e he
      split
      · rename_i horder
        exact (order_inj (hcandidates e he) hentry horder).symm
      · rfl
    rw [List.map_congr_left hsame, List.map_id']
    have hmem : entry ∈ candidates := by
      rw [← order_inj (hcandidates e he) hentry (by simpa using horder)]
      exact he
    exact (or_iff_left_of_imp fun h => h ▸ hmem).symm
  · rw [List.mem_append, List.mem_singleton]

private theorem mem_foldl_setCandidate {entries candidates : List NavigationObstacleEntry}
    {other : NavigationObstacleEntry} (hcandidates : ∀ e ∈ candidates, e ∈ navigationEntries snapshot)
    (hentries : ∀ e ∈ entries, e ∈ navigationEntries snapshot) :
    other ∈ entries.foldl setCandidate candidates ↔ other ∈ candidates ∨ other ∈ entries := by
  induction entries generalizing candidates with
  | nil => simp
  | cons entry entries ih =>
    obtain ⟨hentry, htail⟩ := List.forall_mem_cons.1 hentries
    have hnext : ∀ e ∈ setCandidate candidates entry, e ∈ navigationEntries snapshot := by
      intro e he
      rcases (mem_setCandidate hcandidates hentry).1 he with he | rfl
      · exact hcandidates e he
      · exact hentry
    rw [List.foldl_cons, ih hnext htail, mem_setCandidate hcandidates hentry, List.mem_cons, or_assoc]

private theorem mem_foldl_addCell {cells : List (ℤ × ℤ)} {candidates : List NavigationObstacleEntry}
    {other : NavigationObstacleEntry} (hcandidates : ∀ e ∈ candidates, e ∈ navigationEntries snapshot) :
    other ∈ cells.foldl (navigationSpatialIndex snapshot).addCell candidates ↔ other ∈ candidates ∨
      other ∈ navigationEntries snapshot ∧ ∃ cell ∈ cells, other.obstacle.FiledUnder cell := by
  induction cells generalizing candidates with
  | nil => simp
  | cons cell cells ih =>
    have hcell : ∀ e ∈ (navigationSpatialIndex snapshot).cells cell, e ∈ navigationEntries snapshot :=
      fun e he => (mem_cells.1 he).1
    have hadd : ∀ e, e ∈ (navigationSpatialIndex snapshot).addCell candidates cell ↔
        e ∈ candidates ∨ e ∈ navigationEntries snapshot ∧ e.obstacle.FiledUnder cell := by
      intro e
      unfold NavigationSpatialIndex.addCell
      rw [mem_foldl_setCandidate hcandidates hcell, mem_cells]
    have hnext : ∀ e ∈ (navigationSpatialIndex snapshot).addCell candidates cell, e ∈ navigationEntries snapshot := by
      intro e he
      rcases (hadd e).1 he with he | he
      · exact hcandidates e he
      · exact he.1
    rw [List.foldl_cons, ih hnext, hadd, List.exists_mem_cons_iff, and_or_left, or_assoc]

/-- The cells that are added in the rounds up to one. -/
def GridWalk.visited (s : Segment) (rounds : ℕ) : List (ℤ × ℤ) :=
  (s.x.startCell, s.y.startCell) :: (List.range rounds).flatMap fun k => (GridWalk.after s k).added s

private theorem collect_spec {s : Segment} {fuel k : ℕ} {candidates entries : List NavigationObstacleEntry}
    (h : (navigationSpatialIndex snapshot).collect s fuel (GridWalk.after s k) candidates = some entries) :
    ∃ n, (GridWalk.after s (k + n)).AtEnd s ∧ (∀ l < n, ¬(GridWalk.after s (k + l)).AtEnd s) ∧ entries =
      ((List.range' k n).flatMap fun l => (GridWalk.after s l).added s).foldl
        (navigationSpatialIndex snapshot).addCell candidates := by
  induction fuel generalizing k candidates with
  | zero =>
    unfold NavigationSpatialIndex.collect at h
    split at h
    · rename_i hend
      cases h
      exact ⟨0, hend, fun l hl => absurd hl (Nat.not_lt_zero l), rfl⟩
    · cases h
  | succ fuel ih =>
    unfold NavigationSpatialIndex.collect at h
    split at h
    · rename_i hend
      cases h
      exact ⟨0, hend, fun l hl => absurd hl (Nat.not_lt_zero l), rfl⟩
    · rename_i hfirst
      rw [← GridWalk.after_succ] at h
      obtain ⟨n, hend, hbefore, rfl⟩ := ih h
      refine ⟨n + 1, ?_, fun l hl => ?_, ?_⟩
      · rwa [Nat.add_assoc, Nat.add_comm 1 n] at hend
      · cases l with
        | zero => exact hfirst
        | succ l =>
          have hnext := hbefore l (Nat.lt_of_succ_lt_succ hl)
          rwa [Nat.add_assoc, Nat.add_comm 1 l] at hnext
      · rw [List.range'_succ, List.flatMap_cons, List.foldl_append]

/-- What is collected along a segment. -/
theorem mem_alongSegment {ax ay bx «by» : ExactNumber} {s : Segment} {entries : List NavigationObstacleEntry}
    (hs : segment? ax ay bx «by» = some s)
    (h : navigationEntriesAlongSegment snapshot ax ay bx «by» = some entries) :
    ∃ rounds, (GridWalk.after s rounds).AtEnd s ∧ (∀ k < rounds, ¬(GridWalk.after s k).AtEnd s) ∧
      ∀ entry, entry ∈ entries ↔ entry ∈ navigationEntries snapshot ∧ (entry.obstacle.cellRange? = none ∨
        ∃ cell ∈ GridWalk.visited s rounds, entry.obstacle.FiledUnder cell) := by
  unfold navigationEntriesAlongSegment at h
  rw [hs] at h
  obtain ⟨collected, hcollect, rfl⟩ := Option.map_eq_some_iff.1 h
  obtain ⟨n, hend, hbefore, rfl⟩ := collect_spec (k := 0) hcollect
  simp only [Nat.zero_add] at hend hbefore
  refine ⟨n, hend, hbefore, fun entry => ?_⟩
  have hunindexed : ∀ e, e ∈ (navigationSpatialIndex snapshot).unindexed.foldl setCandidate [] ↔
      e ∈ navigationEntries snapshot ∧ e.obstacle.cellRange? = none := by
    intro e
    rw [mem_foldl_setCandidate (by simp) fun e he => (mem_unindexed.1 he).1, mem_unindexed]
    simp
  have hcells : entry ∈ (GridWalk.visited s n).foldl _ _ ↔ _ := mem_foldl_addCell fun e he => ((hunindexed e).1 he).1
  rw [hunindexed, ← and_or_left] at hcells
  rw [mem_sortByOrder, ← hcells, GridWalk.visited, List.range_eq_range', List.foldl_cons]
  rfl

/-- A walk that has an end is followed to it. -/
theorem alongSegment_eq_none_iff {ax ay bx «by» : ExactNumber} {s : Segment} (hs : segment? ax ay bx «by» = some s) :
    navigationEntriesAlongSegment snapshot ax ay bx «by» = none ↔ ∀ k, ¬(GridWalk.after s k).AtEnd s := by
  have hcollect : ∀ (fuel k : ℕ) (candidates : List NavigationObstacleEntry),
      (navigationSpatialIndex snapshot).collect s fuel (GridWalk.after s k) candidates = none ↔
        ∀ n ≤ fuel, ¬(GridWalk.after s (k + n)).AtEnd s := by
    intro fuel
    induction fuel with
    | zero =>
      intro k candidates
      unfold NavigationSpatialIndex.collect
      split
      · rename_i hend
        exact iff_of_false (fun h => by cases h) fun h => h 0 (le_refl 0) hend
      · rename_i hend
        refine iff_of_true rfl fun n hn => ?_
        rwa [Nat.le_zero.1 hn]
    | succ fuel ih =>
      intro k candidates
      unfold NavigationSpatialIndex.collect
      split
      · rename_i hend
        exact iff_of_false (fun h => by cases h) fun h => h 0 (Nat.zero_le _) hend
      · rename_i hend
        rw [← GridWalk.after_succ, ih]
        constructor
        · intro h n hn
          cases n with
          | zero => exact hend
          | succ n =>
            have hnext := h n (Nat.le_of_succ_le_succ hn)
            rwa [Nat.add_assoc, Nat.add_comm 1 n] at hnext
        · intro h n hn
          have hnext := h (n + 1) (Nat.succ_le_succ hn)
          rwa [Nat.add_assoc, Nat.add_comm 1 n]
  unfold navigationEntriesAlongSegment
  rw [hs]
  refine Option.map_eq_none_iff.trans ((hcollect s.manhattan 0 _).trans ?_)
  constructor
  · intro h k hend
    obtain ⟨n, hn, hend⟩ := Segment.exists_atEnd_le hend
    exact h n hn (by rwa [Nat.zero_add])
  · intro h n _
    exact h (0 + n)

end

end Opsia
