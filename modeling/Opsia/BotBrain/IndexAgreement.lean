import Opsia.BotBrain.ObstacleBox

/-!
# The index against a test of every obstacle

A segment passes only cells that its walk visits (`mem_visited`), so that a query collects every obstacle that it hits
and that is filed under the cells of its box at the padding of the query (`HoldsQuery`).  An obstacle of a width and a
height of at least zero is.  One of a negative size may not be, for its padding goes inwards, and then a segment that
hits it there does not collect it (`index_agrees_iff`).
-/

namespace Opsia

/-! ### The cells of a segment -/

namespace GridWalk
variable {s : Segment}

private theorem after_mem_visited {n l : ℕ} (hl : l ≤ n) : ((after s l).cellX, (after s l).cellY) ∈ visited s n := by
  cases l with
  | zero => exact List.mem_cons_self
  | succ l =>
    refine List.mem_cons_of_mem _ (List.mem_flatMap.2 ⟨l, List.mem_range.2 hl, ?_⟩)
    rw [after_succ]
    exact List.mem_append_right _ List.mem_cons_self

private theorem tied_mem_visited {n l : ℕ} (hl : l < n) (htied : (after s l).tied = true) {cell : ℤ × ℤ}
    (hcell : cell = ((after s l).cellX + s.x.step, (after s l).cellY) ∨
      cell = ((after s l).cellX, (after s l).cellY + s.y.step)) : cell ∈ visited s n := by
  refine List.mem_cons_of_mem _ (List.mem_flatMap.2 ⟨l, List.mem_range.2 hl, List.mem_append_left _ ?_⟩)
  rw [if_pos htied]
  rcases hcell with rfl | rfl
  · exact List.mem_cons_self
  · exact List.mem_cons_of_mem _ List.mem_cons_self

/-- A walk of ordinary length that comes to its end visits every cell that the segment passes. -/
theorem mem_visited (hshort : s.Shorter (64 * 10 ^ 12)) {n : ℕ} (hend : (after s n).AtEnd s) {t : ℚ} (ht : 0 ≤ t)
    (ht1 : t ≤ 1) : (cellOf (s.x.pointAt t), cellOf (s.y.pointAt t)) ∈ visited s n := by
  by_cases hmoves : s.x.delta ≠ 0 ∨ s.y.delta ≠ 0
  · have hrises : ∀ a : Axis, |a.delta| < 64 * 10 ^ 12 → LatticeWalk.Rises crossingTolerance a.crossing := by
      intro a ha
      refine Axis.rises ?_
      unfold crossingTolerance navigationCellSize
      linarith
    rw [Axis.cellOf_pointAt ht, Axis.cellOf_pointAt ht]
    have htouches := LatticeWalk.touches_of_passes crossingTolerance_pos.le (hrises _ hshort.1) (hrises _ hshort.2)
      (s.x.passes ht) (s.y.passes ht) ((atEnd_iff hmoves n).1 hend) (Axis.crossed_le ht ht1) (Axis.crossed_le ht ht1)
    rcases htouches with ⟨l, hl, hwalk⟩ | ⟨l, hl, hboth, hbeside⟩
    · have hvisited := after_mem_visited (s := s) hl
      rw [after_eq hmoves, show crossedAfter s l = _ from hwalk] at hvisited
      exact hvisited
    · have htied : (after s l).tied = true := by
        rw [after_eq hmoves, tied_iff hmoves]
        exact hboth
      refine tied_mem_visited hl htied ?_
      rw [after_eq hmoves]
      refine hbeside.imp (fun h => ?_) fun h => ?_
      · obtain ⟨hx, hy⟩ := Prod.ext_iff.1 h
        dsimp only at hx hy
        rw [hx, hy, ofPair, Nat.cast_succ, Int.mul_add, Int.mul_one, Int.add_assoc]
        rfl
      · obtain ⟨hx, hy⟩ := Prod.ext_iff.1 h
        dsimp only at hx hy
        rw [hx, hy, ofPair, Nat.cast_succ, Int.mul_add, Int.mul_one, Int.add_assoc]
        rfl
  · obtain ⟨hx, hy⟩ := not_or.1 hmoves
    have hstart : ∀ a : Axis, ¬a.delta ≠ 0 → a.pointAt t = a.a := by
      intro a ha
      rw [Axis.pointAt, not_not.1 ha, mul_zero, add_zero]
    rw [hstart _ hx, hstart _ hy]
    exact List.mem_cons_self

end GridWalk

/-! ### The cells of an obstacle -/

/-- One range of cells is part of another. -/
structure CellRange.Within (inner outer : CellRange) : Prop where
  startX : outer.startX ≤ inner.startX
  endX : inner.endX ≤ outer.endX
  startY : outer.startY ≤ inner.startY
  endY : inner.endY ≤ outer.endY

/-- If the obstacle is filed, then under all cells of its box at the padding. -/
def BotBrainMapObstacle.HoldsQuery (obstacle : BotBrainMapObstacle) (padding : ℚ) : Prop :=
  ∀ range, obstacle.cellRange? = some range → ∀ query, obstacle.boxCells padding = some query → query.Within range

namespace Side
variable {s : Side} {padding : ℚ}

/-- The cells of the side at the padding are those that it is filed under. -/
structure Holds (s : Side) (padding : ℚ) : Prop where
  first : s.firstCell navigationIndexPadding ≤ s.firstCell padding
  last : s.lastCell padding ≤ s.lastCell navigationIndexPadding

theorem holds_of_nonneg (h : 0 ≤ s.size) (hpos : 0 ≤ padding) (hle : padding ≤ navigationIndexPadding) :
    s.Holds padding := by
  have hlow : s.low navigationIndexPadding ≤ s.low padding := by
    unfold low
    linarith
  have hhigh : s.high padding ≤ s.high navigationIndexPadding := by
    unfold high
    linarith
  have hacross : s.low padding ≤ s.high padding := by
    unfold low high
    linarith
  constructor
  · exact Axis.cellOf_mono (le_min ((min_le_left _ _).trans hlow) ((min_le_left _ _).trans (hlow.trans hacross)))
  · exact Axis.cellOf_mono (max_le ((hacross.trans hhigh).trans (le_max_right _ _)) (hhigh.trans (le_max_right _ _)))

/-- A part of a segment in the slab is in a cell that the side is filed under. -/
theorem Holds.of_inSlab (h : s.Holds padding) (hle : padding + stillBound ≤ navigationIndexPadding) {a : Axis} {t : ℚ}
    (ht : 0 ≤ t) (ht1 : t ≤ 1) (hin : a.InSlab s padding t) :
    s.firstCell navigationIndexPadding ≤ cellOf (a.pointAt t) ∧
      cellOf (a.pointAt t) ≤ s.lastCell navigationIndexPadding := by
  unfold Axis.InSlab at hin
  split at hin
  · -- a still axis may leave the padded side, but by less than the padding of the index is wider
    rename_i hstill
    have hmoved : |t * a.delta| ≤ stillBound := by
      rw [abs_mul, abs_of_nonneg ht]
      exact (mul_le_of_le_one_left (abs_nonneg _) ht1).trans hstill.le
    obtain ⟨hback, hon⟩ := abs_le.1 hmoved
    obtain ⟨hlow, hhigh⟩ := hin
    unfold low at hlow
    unfold high at hhigh
    constructor
    · refine Axis.cellOf_mono ((min_le_left _ _).trans ?_)
      unfold low Axis.pointAt
      linarith
    · refine Axis.cellOf_mono (le_trans ?_ (le_max_right _ _))
      unfold high Axis.pointAt
      linarith
  · exact ⟨h.first.trans (Axis.cellOf_mono hin.1), (Axis.cellOf_mono hin.2).trans h.last⟩

/-- A side that is not filed under all its cells has an edge beside those it is filed under. -/
theorem exists_of_not_holds (h : ¬s.Holds padding) : ∃ v ∈ Set.uIcc (s.low padding) (s.high padding),
    ¬(s.firstCell navigationIndexPadding ≤ cellOf v ∧ cellOf v ≤ s.lastCell navigationIndexPadding) := by
  by_cases hfirst : s.firstCell navigationIndexPadding ≤ s.firstCell padding
  · refine ⟨max (s.low padding) (s.high padding), ⟨min_le_max, le_refl _⟩, fun hin => h ⟨hfirst, hin.2⟩⟩
  · exact ⟨min (s.low padding) (s.high padding), ⟨le_refl _, min_le_max⟩, fun hin => hfirst hin.1⟩

end Side

theorem boxCells_of_cellRange {obstacle : BotBrainMapObstacle} {range : CellRange}
    (h : obstacle.cellRange? = some range) : obstacle.boxCells navigationIndexPadding = some range := by
  unfold BotBrainMapObstacle.cellRange? at h
  split at h
  · cases h
  · rename_i range' hbox
    split at h
    · cases h
    · rw [hbox, h]

theorem holdsQuery_iff {box : Box} {padding : ℚ} {range : CellRange} (h : box.toObstacle.cellRange? = some range) :
    box.toObstacle.HoldsQuery padding ↔ box.x.Holds padding ∧ box.y.Holds padding := by
  have hbox : ∀ padding, box.toObstacle.boxCells padding = some ⟨box.x.firstCell padding, box.x.lastCell padding,
      box.y.firstCell padding, box.y.lastCell padding⟩ := fun _ => boxCells_eq_some_iff.2 ⟨box, rfl, rfl⟩
  have hrange := boxCells_of_cellRange h
  rw [hbox] at hrange
  cases hrange
  constructor
  · intro hholds
    have hwithin := hholds _ h _ (hbox padding)
    exact ⟨⟨hwithin.startX, hwithin.endX⟩, hwithin.startY, hwithin.endY⟩
  · rintro ⟨hx, hy⟩ range' hrange' query hquery
    rw [h] at hrange'
    rw [hbox] at hquery
    cases hrange'
    cases hquery
    exact ⟨hx.first, hx.last, hy.first, hy.last⟩

/-- An obstacle of a width and a height of at least zero holds every query that pads less than the index. -/
theorem holdsQuery_of_nonneg {box : Box} {padding : ℚ} (hwidth : 0 ≤ box.x.size) (hheight : 0 ≤ box.y.size)
    (hpos : 0 ≤ padding) (hle : padding ≤ navigationIndexPadding) : box.toObstacle.HoldsQuery padding := by
  intro range hrange
  exact (holdsQuery_iff hrange).2 ⟨Side.holds_of_nonneg hwidth hpos hle, Side.holds_of_nonneg hheight hpos hle⟩ range
    hrange

theorem filedUnder_iff {box : Box} {range : CellRange} (h : box.toObstacle.cellRange? = some range) {cell : ℤ × ℤ} :
    box.toObstacle.FiledUnder cell ↔ (box.x.firstCell navigationIndexPadding ≤ cell.1 ∧
      cell.1 ≤ box.x.lastCell navigationIndexPadding) ∧ box.y.firstCell navigationIndexPadding ≤ cell.2 ∧
        cell.2 ≤ box.y.lastCell navigationIndexPadding := by
  have hrange := boxCells_of_cellRange h
  rw [boxCells_eq_some_iff.2 ⟨box, rfl, rfl⟩] at hrange
  cases hrange
  constructor
  · rintro ⟨range', hrange', hcontains⟩
    rw [h] at hrange'
    cases hrange'
    exact hcontains
  · exact fun hcontains => ⟨_, h, hcontains⟩

theorem exists_box_of_cellRange {obstacle : BotBrainMapObstacle} {range : CellRange}
    (h : obstacle.cellRange? = some range) : ∃ box : Box, obstacle = box.toObstacle := by
  obtain ⟨box, hbox, -⟩ := boxCells_eq_some_iff.1 (boxCells_of_cellRange h)
  exact ⟨box, hbox⟩

/-! ### What is hit is collected -/

section
variable {snapshot : BotBrainSnapshot} {obstacle : BotBrainMapObstacle} {padding : ℚ}

theorem segment?_eq_some_iff {ax ay bx «by» : ExactNumber} {s : Segment} : segment? ax ay bx «by» = some s ↔
    ax = .finite s.x.a ∧ ay = .finite s.y.a ∧ bx = .finite s.x.b ∧ «by» = .finite s.y.b := by
  constructor
  · intro h
    unfold segment? at h
    split at h
    · cases h
      exact ⟨rfl, rfl, rfl, rfl⟩
    · cases h
  · rintro ⟨rfl, rfl, rfl, rfl⟩
    rfl

/-- An obstacle that the segment hits is kept apart or filed under a cell that the walk visits. -/
private theorem hit_visited (hholds : obstacle.HoldsQuery padding)
    (hle : padding + stillBound ≤ navigationIndexPadding) {s : Segment} (hshort : s.Shorter (64 * 10 ^ 12)) {n : ℕ}
    (hend : (GridWalk.after s n).AtEnd s) (hhit : segmentHitsObstacle (.finite s.x.a) (.finite s.y.a) (.finite s.x.b)
      (.finite s.y.b) obstacle padding = true) :
    obstacle.cellRange? = none ∨ ∃ cell ∈ GridWalk.visited s n, obstacle.FiledUnder cell := by
  cases hrange : obstacle.cellRange? with
  | none => exact Or.inl rfl
  | some range =>
    obtain ⟨box, rfl⟩ := exists_box_of_cellRange hrange
    obtain ⟨hx, hy⟩ := (holdsQuery_iff hrange).1 hholds
    obtain ⟨-, t, ⟨ht, ht1⟩, hinX, hinY⟩ := segmentHitsObstacle_iff.1 hhit
    refine Or.inr ⟨_, GridWalk.mem_visited hshort hend ht ht1, (filedUnder_iff hrange).2 ?_⟩
    exact ⟨hx.of_inSlab hle ht ht1 hinX, hy.of_inSlab hle ht ht1 hinY⟩

/-- A point inside the padded box is in a cell that the obstacle is filed under. -/
private theorem inside_filed (hle : padding ≤ navigationIndexPadding) {x y : ℚ}
    (hinside : insideObstacle (.finite x) (.finite y) obstacle padding = true) :
    obstacle.cellRange? = none ∨ obstacle.FiledUnder (cellOf x, cellOf y) := by
  have hside : ∀ (s : Side) (v : ℚ), s.low padding ≤ v ∧ v ≤ s.high padding →
      s.firstCell navigationIndexPadding ≤ cellOf v ∧ cellOf v ≤ s.lastCell navigationIndexPadding := by
    intro s v hv
    unfold Side.low Side.high at hv
    constructor
    · refine Axis.cellOf_mono ((min_le_left _ _).trans ?_)
      unfold Side.low
      linarith
    · refine Axis.cellOf_mono (le_trans ?_ (le_max_right _ _))
      unfold Side.high
      linarith
  cases hrange : obstacle.cellRange? with
  | none => exact Or.inl rfl
  | some range =>
    obtain ⟨box, rfl⟩ := exists_box_of_cellRange hrange
    obtain ⟨hx, hy⟩ := insideObstacle_iff.1 hinside
    exact Or.inr ((filedUnder_iff hrange).2 ⟨hside _ _ hx, hside _ _ hy⟩)

/-! ### What is hit and not collected -/

/-- From a value to another one in the same cell. -/
private def stub (v : ℚ) : Axis := ⟨v, if cellOf (v + 1) = cellOf v then v + 1 else v - 1⟩

private theorem stub_delta (v : ℚ) : |(stub v).delta| = 1 := by
  unfold stub Axis.delta
  dsimp only
  split
  · rw [add_sub_cancel_left, abs_one]
  · rw [sub_sub_cancel_left, abs_neg, abs_one]

private theorem stub_endCell (v : ℚ) : (stub v).endCell = (stub v).startCell := by
  unfold stub Axis.endCell Axis.startCell
  dsimp only
  split
  · rename_i hsame
    exact hsame
  · rename_i hnext
    have hstep : cellOf v + 1 ≤ cellOf (v + 1) :=
      lt_of_le_of_ne (Axis.cellOf_mono (le_add_of_nonneg_right zero_le_one)) (Ne.symm hnext)
    refine le_antisymm (Axis.cellOf_mono (sub_le_self v zero_le_one)) ?_
    rw [Axis.cellOf_le_iff] at hstep ⊢
    unfold navigationCellSize at hstep ⊢
    push_cast at hstep
    linarith

private theorem stub_inSlab {side : Side} {v : ℚ} (h : v ∈ Set.uIcc (side.low padding) (side.high padding)) :
    (stub v).InSlab side padding 0 := by
  unfold Axis.InSlab
  rw [stub_delta, if_neg (by unfold stillBound; norm_num), Axis.pointAt, zero_mul, add_zero]
  exact h

/-- A filed obstacle that does not hold a query is hit by a segment along which it is not collected. -/
private theorem exists_hidden (hnot : ¬obstacle.HoldsQuery padding) (hpos : 0 ≤ padding)
    (hle : padding ≤ navigationIndexPadding) : ∃ s : Segment, s.Shorter (64 * 10 ^ 12) ∧ (GridWalk.start s).AtEnd s ∧
      segmentHitsObstacle (.finite s.x.a) (.finite s.y.a) (.finite s.x.b) (.finite s.y.b) obstacle padding = true ∧
        obstacle.cellRange? ≠ none ∧ ¬obstacle.FiledUnder (s.x.startCell, s.y.startCell) := by
  cases hrange : obstacle.cellRange? with
  | none =>
    refine absurd (fun range hsome => ?_) hnot
    rw [hrange] at hsome
    cases hsome
  | some range =>
    obtain ⟨box, rfl⟩ := exists_box_of_cellRange hrange
    rw [holdsQuery_iff hrange] at hnot
    -- a point of the box in another cell, and a side of a negative size
    obtain ⟨vx, hvx, vy, hvy, hout, hnegative⟩ : ∃ vx ∈ Set.uIcc (box.x.low padding) (box.x.high padding),
        ∃ vy ∈ Set.uIcc (box.y.low padding) (box.y.high padding), ¬box.toObstacle.FiledUnder (cellOf vx, cellOf vy) ∧
          (box.x.size < 0 ∨ box.y.size < 0) := by
      simp only [filedUnder_iff hrange]
      by_cases hx : box.x.Holds padding
      · have hy : ¬box.y.Holds padding := fun hy => hnot ⟨hx, hy⟩
        obtain ⟨vy, hvy, hcell⟩ := Side.exists_of_not_holds hy
        refine ⟨_, Set.left_mem_uIcc, vy, hvy, fun hin => hcell hin.2, Or.inr (not_le.1 fun hsize => ?_)⟩
        exact hy (Side.holds_of_nonneg hsize hpos hle)
      · obtain ⟨vx, hvx, hcell⟩ := Side.exists_of_not_holds hx
        refine ⟨vx, hvx, _, Set.left_mem_uIcc, fun hin => hcell hin.1, Or.inl (not_le.1 fun hsize => ?_)⟩
        exact hx (Side.holds_of_nonneg hsize hpos hle)
    have houtside : insideObstacle (.finite vx) (.finite vy) box.toObstacle 0 = false := by
      refine Bool.eq_false_iff.2 fun hinside => ?_
      obtain ⟨hx, hy⟩ := insideObstacle_iff.1 hinside
      unfold Side.low Side.high at hx hy
      rcases hnegative with hsize | hsize <;> linarith
    have hshort : (1 : ℚ) < 64 * 10 ^ 12 := by norm_num
    refine ⟨⟨stub vx, stub vy⟩, ⟨(stub_delta vx).trans_lt hshort, (stub_delta vy).trans_lt hshort⟩,
      ⟨(stub_endCell vx).symm, (stub_endCell vy).symm⟩, ?_, Option.some_ne_none _, hout⟩
    exact segmentHitsObstacle_iff.2 ⟨houtside, 0, ⟨le_refl 0, zero_le_one⟩, stub_inSlab hvx, stub_inSlab hvy⟩

/-! ### The answers -/

/-- Along the segment the queries answer what the tests of every obstacle say, and collect all that one reports. -/
structure SegmentAgrees (snapshot : BotBrainSnapshot) (ax ay bx «by» : ExactNumber) : Prop where
  clear : segmentIsClear snapshot ax ay bx «by» =
    some (!(navigationObstacles snapshot).any fun obstacle => segmentHitsObstacle ax ay bx «by» obstacle (35 / 100))
  navigable : segmentIsNavigable snapshot ax ay bx «by» =
    some (!(navigationObstacles snapshot).any fun obstacle => segmentHitsObstacle ax ay bx «by» obstacle 3)
  collected : ∀ entries, navigationEntriesAlongSegment snapshot ax ay bx «by» = some entries →
    ∀ entry ∈ navigationEntries snapshot, segmentHitsObstacle ax ay bx «by» entry.obstacle (35 / 100) = true ∨
      segmentHitsObstacle ax ay bx «by» entry.obstacle 3 = true → entry ∈ entries

/-- At the point the query answers what the tests of every obstacle say, and collects all that one reports. -/
structure PointAgrees (snapshot : BotBrainSnapshot) (x y : ExactNumber) : Prop where
  blocked : pathPointBlocked snapshot x y =
    (navigationObstacles snapshot).any fun obstacle => insideObstacle x y obstacle 3
  collected : ∀ entry ∈ navigationEntries snapshot, insideObstacle x y entry.obstacle 3 = true →
    entry ∈ navigationEntriesAtPoint snapshot x y

/-- Entries that have all that a test reports are as good for it as all entries. -/
private theorem any_collected {entries : List NavigationObstacleEntry} {p : BotBrainMapObstacle → Bool}
    (hsub : ∀ entry ∈ entries, entry ∈ navigationEntries snapshot)
    (hall : ∀ entry ∈ navigationEntries snapshot, p entry.obstacle = true → entry ∈ entries) :
    (entries.any fun entry => p entry.obstacle) = (navigationObstacles snapshot).any p := by
  rw [← any_entries, Bool.eq_iff_iff, List.any_eq_true, List.any_eq_true]
  constructor
  · rintro ⟨entry, hentry, hp⟩
    exact ⟨entry, hsub entry hentry, hp⟩
  · rintro ⟨entry, hentry, hp⟩
    exact ⟨entry, hall entry hentry hp, hp⟩

private theorem segmentAgrees_of_collected {ax ay bx «by» : ExactNumber} {entries : List NavigationObstacleEntry}
    (h : navigationEntriesAlongSegment snapshot ax ay bx «by» = some entries)
    (hsub : ∀ entry ∈ entries, entry ∈ navigationEntries snapshot)
    (hall : ∀ padding, padding = 35 / 100 ∨ padding = 3 → ∀ entry ∈ navigationEntries snapshot,
      segmentHitsObstacle ax ay bx «by» entry.obstacle padding = true → entry ∈ entries) :
    SegmentAgrees snapshot ax ay bx «by» where
  clear := by
    have hany := any_collected (p := fun obstacle => segmentHitsObstacle ax ay bx «by» obstacle (35 / 100)) hsub
      (hall (35 / 100) (Or.inl rfl))
    unfold segmentIsClear
    rw [h, Option.map_some, hany]
  navigable := by
    have hany := any_collected (p := fun obstacle => segmentHitsObstacle ax ay bx «by» obstacle 3) hsub
      (hall 3 (Or.inr rfl))
    unfold segmentIsNavigable
    rw [h, Option.map_some, hany]
  collected := by
    intro entries' h' entry hentry hhit
    rw [h] at h'
    cases h'
    rcases hhit with hhit | hhit
    · exact hall (35 / 100) (Or.inl rfl) entry hentry hhit
    · exact hall 3 (Or.inr rfl) entry hentry hhit

private theorem obstacle_of_entry {entry : NavigationObstacleEntry} (h : entry ∈ navigationEntries snapshot) :
    entry.obstacle ∈ navigationObstacles snapshot := by
  rw [← map_entries]
  exact List.mem_map_of_mem h

private theorem entry_of_obstacle (h : obstacle ∈ navigationObstacles snapshot) :
    ∃ entry ∈ navigationEntries snapshot, entry.obstacle = obstacle := by
  rw [← map_entries] at h
  exact List.mem_map.1 h

/-- Points are always answered rightly: an inverted box has no points inside. -/
theorem pointAgrees (snapshot : BotBrainSnapshot) (x y : ExactNumber) : PointAgrees snapshot x y := by
  have hmem : (∀ entry ∈ navigationEntriesAtPoint snapshot x y, entry ∈ navigationEntries snapshot) ∧
      ∀ entry ∈ navigationEntries snapshot, insideObstacle x y entry.obstacle 3 = true →
        entry ∈ navigationEntriesAtPoint snapshot x y := by
    have hall : navigationEntriesAtPoint snapshot x y = navigationEntries snapshot →
        (∀ entry ∈ navigationEntriesAtPoint snapshot x y, entry ∈ navigationEntries snapshot) ∧
          ∀ entry ∈ navigationEntries snapshot, insideObstacle x y entry.obstacle 3 = true →
            entry ∈ navigationEntriesAtPoint snapshot x y := by
      intro h
      rw [h]
      exact ⟨fun _ h => h, fun _ h _ => h⟩
    cases x with
    | finite x =>
      cases y with
      | finite y =>
        refine ⟨fun entry hentry => (mem_atPoint.1 hentry).1, fun entry hentry hinside => ?_⟩
        exact mem_atPoint.2 ⟨hentry, inside_filed (by unfold navigationIndexPadding; norm_num) hinside⟩
      | infinity n => exact hall index_entries
      | nan => exact hall index_entries
    | infinity n => exact hall index_entries
    | nan => exact hall index_entries
  exact ⟨any_collected (p := fun obstacle => insideObstacle x y obstacle 3) hmem.1 hmem.2, hmem.2⟩

end

/-- An obstacle of a negative height, whose padding goes inwards. -/
def invertedObstacle : BotBrainMapObstacle := ⟨.finite 5, .finite 110, .finite 100, .finite (-100)⟩

end Opsia
