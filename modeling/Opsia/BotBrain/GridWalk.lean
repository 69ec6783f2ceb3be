import Opsia.BotBrain.ExactNumber
import Opsia.LatticeWalk

/-!
# The walk along a segment

The cells of a grid are walked from the start of a segment to its end: over the boundary that the segment crosses next,
or over two at once when it crosses them nearly together.  The walk stops at the end cell and nowhere else.  It comes
there if the segment, drawn on, leaves the end cell late enough behind its last crossing (`LeavesLate`), and for
segments of ordinary length only then; otherwise it steps past the end cell and never ends (`grid_walk_reaches_iff`).
-/

namespace Opsia

def navigationCellSize : ℚ := 64

/-- How near two crossings are that count as one. -/
def crossingTolerance : ℚ := 1 / 10 ^ 12

/-- `Math.floor(v / navigationCellSize)` -/
def cellOf (v : ℚ) : ℤ := ⌊v / navigationCellSize⌋

/-- `Math.sign` -/
def signOf (d : ℚ) : ℤ := if 0 < d then 1 else if d < 0 then -1 else 0

/-- What a segment is along one axis: `ax` and `bx`, or `ay` and `by`. -/
structure Axis where
  a : ℚ
  b : ℚ
deriving DecidableEq

/-- A segment with finite end points. -/
structure Segment where
  x : Axis
  y : Axis
deriving DecidableEq

namespace Axis
variable (s : Axis)

def delta : ℚ := s.b - s.a

def startCell : ℤ := cellOf s.a

def endCell : ℤ := cellOf s.b

def step : ℤ := signOf s.delta

def tDelta : ExactNumber := if s.step = 0 then .infinity false else .finite (navigationCellSize / |s.delta|)

/-- `tMaxX` and `tMaxY` before the loop. -/
def tMax : ExactNumber :=
  if s.step = 0 then .infinity false
  else .finite (((if 0 < s.step then s.startCell + 1 else s.startCell : ℤ) * navigationCellSize - s.a) / s.delta)

end Axis

structure GridWalk where
  cellX : ℤ
  cellY : ℤ
  tMaxX : ExactNumber
  tMaxY : ExactNumber
deriving DecidableEq

namespace GridWalk
variable (s : Segment)

def start : GridWalk := ⟨s.x.startCell, s.y.startCell, s.x.tMax, s.y.tMax⟩

/-- The next two crossings count as one. -/
def tied (w : GridWalk) : Bool := (w.tMaxX.sub w.tMaxY).abs.le (.finite crossingTolerance)

def stepX (w : GridWalk) : GridWalk :=
  { w with cellX := w.cellX + s.x.step, tMaxX := w.tMaxX.add s.x.tDelta }

def stepY (w : GridWalk) : GridWalk :=
  { w with cellY := w.cellY + s.y.step, tMaxY := w.tMaxY.add s.y.tDelta }

/-- The body of the loop. -/
def step (w : GridWalk) : GridWalk :=
  if w.tied then stepY s (stepX s w) else if w.tMaxX.lt w.tMaxY then stepX s w else stepY s w

/-- The loop stops. -/
def AtEnd (w : GridWalk) : Prop := w.cellX = s.x.endCell ∧ w.cellY = s.y.endCell

instance (w : GridWalk) : Decidable (w.AtEnd s) := by unfold AtEnd; infer_instance

/-- The walk after some rounds, if it were not to stop. -/
def after (k : ℕ) : GridWalk := (step s)^[k] (start s)

theorem after_succ (k : ℕ) : after s (k + 1) = step s (after s k) := Function.iterate_succ_apply' ..

end GridWalk

/-! ### Crossings of an axis -/

theorem navigationCellSize_pos : 0 < navigationCellSize := by
  unfold navigationCellSize
  norm_num

theorem crossingTolerance_pos : 0 < crossingTolerance := by
  unfold crossingTolerance
  norm_num

namespace Axis
variable {s : Axis}

/-- Where the segment, drawn on, crosses its `i`-th boundary of the axis. -/
def crossing (s : Axis) (i : ℕ) : WithTop ℚ :=
  if s.delta = 0 then ⊤
  else (((if 0 < s.delta then s.startCell + 1 + i else s.startCell - i : ℤ) * navigationCellSize - s.a) / s.delta : ℚ)

theorem step_of_pos (h : 0 < s.delta) : s.step = 1 := if_pos h

theorem step_of_neg (h : s.delta < 0) : s.step = -1 := by
  unfold step signOf
  rw [if_neg (not_lt.2 h.le), if_pos h]

theorem step_of_zero (h : s.delta = 0) : s.step = 0 := by
  unfold step signOf
  rw [h]
  rfl

theorem crossing_of_zero (h : s.delta = 0) (i : ℕ) : s.crossing i = ⊤ := if_pos h

theorem crossing_of_pos (h : 0 < s.delta) (i : ℕ) :
    s.crossing i = (((s.startCell + 1 + i : ℤ) * navigationCellSize - s.a) / s.delta : ℚ) := by
  unfold crossing
  rw [if_neg h.ne', if_pos h]

theorem crossing_of_neg (h : s.delta < 0) (i : ℕ) :
    s.crossing i = (((s.startCell - i : ℤ) * navigationCellSize - s.a) / s.delta : ℚ) := by
  unfold crossing
  rw [if_neg h.ne, if_neg (not_lt.2 h.le)]

theorem tMax_eq : s.tMax = .ofTop (s.crossing 0) := by
  unfold tMax
  rcases lt_trichotomy s.delta 0 with h | h | h
  · rw [step_of_neg h, crossing_of_neg h]
    simp
  · rw [step_of_zero h, crossing_of_zero h]
    rfl
  · rw [step_of_pos h, crossing_of_pos h]
    simp

/-- One crossing more. -/
theorem crossing_succ (i : ℕ) : (ExactNumber.ofTop (s.crossing i)).add s.tDelta = .ofTop (s.crossing (i + 1)) := by
  unfold tDelta
  rcases lt_trichotomy s.delta 0 with h | h | h
  · rw [step_of_neg h, crossing_of_neg h, crossing_of_neg h, if_neg (by decide), ExactNumber.ofTop_coe,
      ExactNumber.ofTop_coe, abs_of_neg h, ExactNumber.add]
    congr 1
    field_simp
    push_cast
    ring
  · rw [step_of_zero h, crossing_of_zero h, crossing_of_zero h]
    rfl
  · rw [step_of_pos h, crossing_of_pos h, crossing_of_pos h, if_neg (by decide), ExactNumber.ofTop_coe,
      ExactNumber.ofTop_coe, abs_of_pos h, ExactNumber.add]
    congr 1
    field_simp
    push_cast
    ring

theorem crossing_ne_top (h : s.delta ≠ 0) (i : ℕ) : s.crossing i ≠ ⊤ := by
  unfold crossing
  rw [if_neg h]
  exact WithTop.coe_ne_top

/-- Crossings of an axis are apart by more than any part of the segment that is shorter than a cell. -/
theorem rises {δ : ℚ} (h : δ * |s.delta| < navigationCellSize) : LatticeWalk.Rises δ s.crossing := by
  intro i v hv
  rcases lt_trichotomy s.delta 0 with hneg | hzero | hpos
  · rw [crossing_of_neg hneg, WithTop.coe_le_coe, div_le_iff_of_neg hneg] at hv
    rw [crossing_of_neg hneg, ← WithTop.coe_add, WithTop.coe_lt_coe, ← lt_sub_iff_add_lt, div_lt_iff_of_neg hneg]
    rw [abs_of_neg hneg] at h
    push_cast at hv ⊢
    linarith
  · rw [crossing_of_zero hzero, top_le_iff] at hv
    exact absurd hv WithTop.coe_ne_top
  · rw [crossing_of_pos hpos, WithTop.coe_le_coe, div_le_iff₀ hpos] at hv
    rw [crossing_of_pos hpos, ← WithTop.coe_add, WithTop.coe_lt_coe, ← lt_sub_iff_add_lt, div_lt_iff₀ hpos]
    rw [abs_of_pos hpos] at h
    push_cast at hv ⊢
    linarith

/-- The point of the axis at a part of the segment. -/
def pointAt (s : Axis) (t : ℚ) : ℚ := s.a + t * s.delta

/-- How many boundaries are crossed up to a part of the segment. -/
def crossed (s : Axis) (t : ℚ) : ℕ := (cellOf (s.pointAt t) - s.startCell).natAbs

theorem cellOf_le_iff {n : ℤ} {v : ℚ} : n ≤ cellOf v ↔ n * navigationCellSize ≤ v := by
  unfold cellOf
  rw [Int.le_floor, le_div_iff₀ navigationCellSize_pos]

theorem cellOf_mono {u v : ℚ} (h : u ≤ v) : cellOf u ≤ cellOf v :=
  Int.floor_le_floor (div_le_div_of_nonneg_right h navigationCellSize_pos.le)

/-- The cell at a part of the segment. -/
theorem cellOf_pointAt {t : ℚ} (ht : 0 ≤ t) : cellOf (s.pointAt t) = s.startCell + s.step * s.crossed t := by
  unfold crossed
  rcases lt_trichotomy s.delta 0 with hneg | hzero | hpos
  · have hle : cellOf (s.pointAt t) ≤ s.startCell := cellOf_mono (by
      unfold pointAt
      have := mul_nonpos_of_nonneg_of_nonpos ht hneg.le
      linarith)
    rw [step_of_neg hneg]
    omega
  · have heq : s.pointAt t = s.a := by
      unfold pointAt
      rw [hzero, mul_zero, add_zero]
    rw [step_of_zero hzero, heq, Int.zero_mul, Int.add_zero]
    rfl
  · have hle : s.startCell ≤ cellOf (s.pointAt t) := cellOf_mono (by
      unfold pointAt
      have := mul_nonneg ht hpos.le
      linarith)
    rw [step_of_pos hpos]
    omega

/-- The crossings before and after a part of the segment. -/
theorem passes {t : ℚ} (ht : 0 ≤ t) : LatticeWalk.Passes s.crossing t (s.crossed t) := by
  have hcell := s.cellOf_pointAt ht
  rcases lt_trichotomy s.delta 0 with hneg | hzero | hpos
  · rw [step_of_neg hneg] at hcell
    refine ⟨fun i hi => ?_, fun i hi => ?_⟩
    · rw [crossing_of_neg hneg, WithTop.coe_le_coe, div_le_iff_of_neg hneg]
      have hbefore : ¬s.startCell - i ≤ cellOf (s.pointAt t) := by omega
      rw [cellOf_le_iff, pointAt] at hbefore
      linarith
    · rw [crossing_of_neg hneg, WithTop.coe_le_coe, le_div_iff_of_neg hneg]
      have hafter : s.startCell - i ≤ cellOf (s.pointAt t) := by omega
      rw [cellOf_le_iff, pointAt] at hafter
      linarith
  · have hnone : s.crossed t = 0 := by
      unfold crossed pointAt
      rw [hzero, mul_zero, add_zero, startCell, sub_self]
      rfl
    rw [hnone]
    refine ⟨fun i hi => absurd hi (Nat.not_lt_zero i), fun i _ => ?_⟩
    rw [crossing_of_zero hzero]
    exact le_top
  · rw [step_of_pos hpos] at hcell
    refine ⟨fun i hi => ?_, fun i hi => ?_⟩
    · rw [crossing_of_pos hpos, WithTop.coe_le_coe, div_le_iff₀ hpos]
      have hbefore : s.startCell + 1 + i ≤ cellOf (s.pointAt t) := by omega
      rw [cellOf_le_iff, pointAt] at hbefore
      linarith
    · rw [crossing_of_pos hpos, WithTop.coe_le_coe, le_div_iff₀ hpos]
      have hafter : ¬s.startCell + 1 + i ≤ cellOf (s.pointAt t) := by omega
      rw [cellOf_le_iff, pointAt] at hafter
      linarith

/-- The boundaries between the start and the end cell. -/
def crossings (s : Axis) : ℕ := s.crossed 1

theorem endCell_eq : s.endCell = s.startCell + s.step * s.crossings := by
  have h := s.cellOf_pointAt (zero_le_one)
  have hb : s.pointAt 1 = s.b := by
    unfold pointAt delta
    ring
  rwa [hb] at h

theorem crossed_le {t : ℚ} (ht : 0 ≤ t) (h1 : t ≤ 1) : s.crossed t ≤ s.crossings := by
  by_contra hlt
  have hbefore := (s.passes ht).before s.crossings (not_le.1 hlt)
  have hafter := (s.passes zero_le_one).after s.crossings (le_refl _)
  obtain rfl : t = 1 := le_antisymm h1 (WithTop.coe_le_coe.1 (hafter.trans hbefore))
  exact hlt (le_refl _)

end Axis

/-! ### The walk and the lattice -/

namespace GridWalk
variable (s : Segment)

/-- The walk when it has crossed `p.1` boundaries along the one axis and `p.2` along the other. -/
def ofPair (p : ℕ × ℕ) : GridWalk where
  cellX := s.x.startCell + s.x.step * p.1
  cellY := s.y.startCell + s.y.step * p.2
  tMaxX := .ofTop (s.x.crossing p.1)
  tMaxY := .ofTop (s.y.crossing p.2)

/-- The boundaries crossed along either axis after some rounds. -/
def crossedAfter (k : ℕ) : ℕ × ℕ := LatticeWalk.walk crossingTolerance s.x.crossing s.y.crossing k

private theorem start_eq : start s = ofPair s (0, 0) := by
  unfold start ofPair
  rw [Axis.tMax_eq, Axis.tMax_eq]
  simp

private theorem stepX_ofPair (p : ℕ × ℕ) : stepX s (ofPair s p) = ofPair s (p.1 + 1, p.2) := by
  unfold stepX ofPair
  dsimp only
  rw [Axis.crossing_succ, Int.add_assoc, Nat.cast_succ, Int.mul_add, Int.mul_one]

private theorem stepY_ofPair (p : ℕ × ℕ) : stepY s (ofPair s p) = ofPair s (p.1, p.2 + 1) := by
  unfold stepY ofPair
  dsimp only
  rw [Axis.crossing_succ, Int.add_assoc, Nat.cast_succ, Int.mul_add, Int.mul_one]

variable {s}

private theorem near_iff {u v : WithTop ℚ} (h : u ≠ ⊤ ∨ v ≠ ⊤) :
    ((ExactNumber.ofTop u).sub (.ofTop v)).abs.le (.finite crossingTolerance) = true ↔
      ¬u + crossingTolerance < v ∧ ¬v + crossingTolerance < u := by
  cases u with
  | top =>
    cases v with
    | top => simp at h
    | coe q =>
      refine iff_of_false Bool.false_ne_true fun hfar => hfar.2 ?_
      rw [← WithTop.coe_add]
      exact WithTop.coe_lt_top _
  | coe p =>
    cases v with
    | top =>
      refine iff_of_false Bool.false_ne_true fun hfar => hfar.1 ?_
      rw [← WithTop.coe_add]
      exact WithTop.coe_lt_top _
    | coe q =>
      have hdiff : ((ExactNumber.finite p).sub (.finite q)).abs.le (.finite crossingTolerance) =
          decide (|p + -q| ≤ crossingTolerance) := rfl
      rw [ExactNumber.ofTop_coe, ExactNumber.ofTop_coe, hdiff, decide_eq_true_eq, ← WithTop.coe_add, ← WithTop.coe_add,
        WithTop.coe_lt_coe, WithTop.coe_lt_coe, abs_le, not_lt, not_lt]
      constructor
      · rintro ⟨hlow, hhigh⟩
        constructor <;> linarith
      · rintro ⟨hlow, hhigh⟩
        constructor <;> linarith

private theorem lt_ofTop {u v : WithTop ℚ} (h : u ≠ ⊤ ∨ v ≠ ⊤) :
    (ExactNumber.ofTop u).lt (.ofTop v) = true ↔ u < v := by
  cases u with
  | top =>
    cases v with
    | top => simp at h
    | coe q => exact iff_of_false Bool.false_ne_true not_top_lt
  | coe p =>
    cases v with
    | top => exact iff_of_true rfl (WithTop.coe_lt_top p)
    | coe q =>
      rw [WithTop.coe_lt_coe]
      exact decide_eq_true_iff

private theorem lt_of_far {u v : WithTop ℚ} (h : u + crossingTolerance < v) : u < v :=
  lt_of_le_of_lt (le_add_of_nonneg_right (WithTop.coe_nonneg.2 crossingTolerance_pos.le)) h

/-- Two crossings that count as one are crossed at once. -/
theorem tied_iff (hmoves : s.x.delta ≠ 0 ∨ s.y.delta ≠ 0) (p : ℕ × ℕ) : (ofPair s p).tied = true ↔
    LatticeWalk.turn crossingTolerance s.x.crossing s.y.crossing p = .both := by
  have hfinite : s.x.crossing p.1 ≠ ⊤ ∨ s.y.crossing p.2 ≠ ⊤ :=
    hmoves.imp (fun h => Axis.crossing_ne_top h _) (fun h => Axis.crossing_ne_top h _)
  refine (near_iff hfinite).trans ?_
  unfold LatticeWalk.turn
  split
  · rename_i hfirst
    exact iff_of_false (fun h => h.1 hfirst) fun h => by cases h
  split
  · rename_i hsecond
    exact iff_of_false (fun h => h.2 hsecond) fun h => by cases h
  · rename_i hfirst hsecond
    exact iff_of_true ⟨hfirst, hsecond⟩ rfl

/-- A round of the loop is a step of the lattice walk. -/
theorem step_ofPair (hmoves : s.x.delta ≠ 0 ∨ s.y.delta ≠ 0) (p : ℕ × ℕ) : step s (ofPair s p) =
    ofPair s ((LatticeWalk.turn crossingTolerance s.x.crossing s.y.crossing p).next p) := by
  have hfinite : s.x.crossing p.1 ≠ ⊤ ∨ s.y.crossing p.2 ≠ ⊤ :=
    hmoves.imp (fun h => Axis.crossing_ne_top h _) (fun h => Axis.crossing_ne_top h _)
  have hlt : (ofPair s p).tMaxX.lt (ofPair s p).tMaxY = true ↔ _ := lt_ofTop hfinite
  have htied := tied_iff hmoves p
  unfold step
  unfold LatticeWalk.turn at htied ⊢
  by_cases hfirst : s.x.crossing p.1 + crossingTolerance < s.y.crossing p.2
  · rw [if_pos hfirst] at htied ⊢
    rw [if_neg (fun h => by cases htied.1 h), if_pos (hlt.2 (lt_of_far hfirst))]
    exact stepX_ofPair s p
  rw [if_neg hfirst] at htied ⊢
  by_cases hsecond : s.y.crossing p.2 + crossingTolerance < s.x.crossing p.1
  · rw [if_pos hsecond] at htied ⊢
    rw [if_neg (fun h => by cases htied.1 h), if_neg fun h => lt_asymm (hlt.1 h) (lt_of_far hsecond)]
    exact stepY_ofPair s p
  · rw [if_neg hsecond] at htied ⊢
    rw [if_pos (htied.2 rfl), stepX_ofPair]
    exact stepY_ofPair s _

theorem after_eq (hmoves : s.x.delta ≠ 0 ∨ s.y.delta ≠ 0) (k : ℕ) : after s k = ofPair s (crossedAfter s k) := by
  induction k with
  | zero => exact start_eq s
  | succ k ih =>
    rw [after_succ, ih, step_ofPair hmoves]
    unfold crossedAfter
    rw [LatticeWalk.walk_succ]

theorem crossedAfter_fst (h : s.x.delta = 0) (hmoves : s.x.delta ≠ 0 ∨ s.y.delta ≠ 0) (k : ℕ) :
    (crossedAfter s k).1 = 0 :=
  LatticeWalk.walk_fst_of_top (Axis.crossing_of_zero h) (Axis.crossing_ne_top (hmoves.resolve_left (not_not.2 h))) k

theorem crossedAfter_snd (h : s.y.delta = 0) (hmoves : s.x.delta ≠ 0 ∨ s.y.delta ≠ 0) (k : ℕ) :
    (crossedAfter s k).2 = 0 :=
  LatticeWalk.walk_snd_of_top (Axis.crossing_ne_top (hmoves.resolve_right (not_not.2 h))) (Axis.crossing_of_zero h) k

/-- The loop stops when all boundaries up to the end cell are crossed, and no others. -/
theorem atEnd_iff (hmoves : s.x.delta ≠ 0 ∨ s.y.delta ≠ 0) (k : ℕ) :
    (after s k).AtEnd s ↔ crossedAfter s k = (s.x.crossings, s.y.crossings) := by
  have haxis : ∀ (a : Axis) (i : ℕ), (a.delta = 0 → i = 0) →
      (a.startCell + a.step * i = a.endCell ↔ i = a.crossings) := by
    intro a i hi
    rw [a.endCell_eq]
    rcases lt_trichotomy a.delta 0 with hneg | hzero | hpos
    · rw [Axis.step_of_neg hneg]
      omega
    · have hnone : a.crossings = 0 := by
        have hpasses := (a.passes zero_le_one).before
        by_contra hpos
        have htop := hpasses 0 (Nat.pos_of_ne_zero hpos)
        rw [Axis.crossing_of_zero hzero, top_le_iff] at htop
        exact WithTop.coe_ne_top htop
      rw [hi hzero, hnone]
      simp
    · rw [Axis.step_of_pos hpos]
      omega
  rw [after_eq hmoves, AtEnd, Prod.ext_iff]
  exact and_congr (haxis s.x _ fun h => crossedAfter_fst h hmoves k) (haxis s.y _ fun h => crossedAfter_snd h hmoves k)

end GridWalk

/-! ### Coming to the end cell -/

namespace Axis

/-- Where the segment enters its end cell, if it starts in another one. -/
def enters (s : Axis) : WithTop ℚ :=
  if s.delta = 0 then ⊤
  else (((if 0 < s.delta then s.endCell else s.endCell + 1 : ℤ) * navigationCellSize - s.a) / s.delta : ℚ)

/-- Where the segment, drawn on, leaves its end cell. -/
def leaves (s : Axis) : WithTop ℚ :=
  if s.delta = 0 then ⊤
  else (((if 0 < s.delta then s.endCell + 1 else s.endCell : ℤ) * navigationCellSize - s.a) / s.delta : ℚ)

variable {s : Axis}

theorem leaves_eq : s.leaves = s.crossing s.crossings := by
  unfold leaves
  rw [s.endCell_eq]
  rcases lt_trichotomy s.delta 0 with h | h | h
  · rw [if_neg h.ne, if_neg (not_lt.2 h.le), crossing_of_neg h, step_of_neg h]
    simp [sub_eq_add_neg]
  · rw [if_pos h, crossing_of_zero h]
  · rw [if_neg h.ne', if_pos h, crossing_of_pos h, step_of_pos h]
    simp [add_right_comm]

theorem crossings_pos_iff : 0 < s.crossings ↔ s.startCell ≠ s.endCell := by
  have hb : s.pointAt 1 = s.b := by
    unfold pointAt delta
    ring
  unfold crossings crossed
  rw [hb, Int.natAbs_pos, sub_ne_zero]
  exact ne_comm

theorem enters_eq (h : 0 < s.crossings) : s.enters = s.crossing (s.crossings - 1) := by
  unfold enters
  rw [s.endCell_eq]
  have hpred : ((s.crossings - 1 : ℕ) : ℤ) = s.crossings - 1 := by omega
  rcases lt_trichotomy s.delta 0 with hneg | hzero | hpos
  · rw [if_neg hneg.ne, if_neg (not_lt.2 hneg.le), crossing_of_neg hneg, step_of_neg hneg, hpred]
    congr 5
    ring
  · rw [if_pos hzero, crossing_of_zero hzero]
  · rw [if_neg hpos.ne', if_pos hpos, crossing_of_pos hpos, step_of_pos hpos, hpred]
    congr 5
    ring

theorem crossing_mono : Monotone s.crossing :=
  (s.rises (δ := 0) (by rw [zero_mul]; exact navigationCellSize_pos)).mono (le_refl 0)

end Axis

/-- The segment, drawn on, leaves its end cell along each axis behind its last crossing of the other one, by more than
what counts as one. -/
structure LeavesLate (s : Segment) : Prop where
  x : s.x.startCell ≠ s.x.endCell → s.x.enters + crossingTolerance < s.y.leaves
  y : s.y.startCell ≠ s.y.endCell → s.y.enters + crossingTolerance < s.x.leaves

theorem leavesLate_iff {s : Segment} : LeavesLate s ↔
    LatticeWalk.Opens crossingTolerance s.x.crossing s.y.crossing s.x.crossings s.y.crossings := by
  have haxis : ∀ a b : Axis, (a.startCell ≠ a.endCell → a.enters + crossingTolerance < b.leaves) ↔
      ∀ i < a.crossings, a.crossing i + crossingTolerance < b.crossing b.crossings := by
    intro a b
    rw [← Axis.crossings_pos_iff, Axis.leaves_eq]
    constructor
    · intro h i hi
      have hlast := h (Nat.zero_lt_of_lt hi)
      rw [Axis.enters_eq (Nat.zero_lt_of_lt hi)] at hlast
      exact lt_of_le_of_lt (add_le_add_left (Axis.crossing_mono (Nat.le_pred_of_lt hi)) _) hlast
    · intro h hpos
      rw [Axis.enters_eq hpos]
      exact h _ (Nat.sub_lt hpos Nat.one_pos)
  constructor
  · rintro ⟨hx, hy⟩
    exact ⟨(haxis _ _).1 hx, (haxis _ _).1 hy⟩
  · rintro ⟨hx, hy⟩
    exact ⟨(haxis _ _).2 hx, (haxis _ _).2 hy⟩

namespace Segment
variable (s : Segment)

/-- The segment moves by less than the bound along either axis. -/
def Shorter (bound : ℚ) : Prop := |s.x.delta| < bound ∧ |s.y.delta| < bound

/-- The number of cells between the start and the end cell, along both axes. -/
def manhattan : ℕ := (s.x.endCell - s.x.startCell).natAbs + (s.y.endCell - s.y.startCell).natAbs

/-- The walk comes to the end cell within the Manhattan distance and is never past it. -/
def ReachesEnd : Prop :=
  ∃ k ≤ s.manhattan, (GridWalk.after s k).AtEnd s ∧ ∀ l ≤ k,
    (GridWalk.after s l).cellX ∈ Set.uIcc s.x.startCell s.x.endCell ∧
      (GridWalk.after s l).cellY ∈ Set.uIcc s.y.startCell s.y.endCell

variable {s}

theorem manhattan_eq : s.manhattan = s.x.crossings + s.y.crossings := by
  have haxis : ∀ a : Axis, (a.endCell - a.startCell).natAbs = a.crossings := by
    intro a
    have hb : a.pointAt 1 = a.b := by
      unfold Axis.pointAt Axis.delta
      ring
    unfold Axis.crossings Axis.crossed
    rw [hb]
    rfl
  unfold manhattan
  rw [haxis, haxis]

private theorem axis_still {a : Axis} (h : a.delta = 0) : a.startCell = a.endCell := by
  have hab : a.b = a.a := sub_eq_zero.1 h
  unfold Axis.startCell Axis.endCell
  rw [hab]

private theorem mem_uIcc_cells {a : Axis} {i : ℕ} (hi : i ≤ a.crossings) :
    a.startCell + a.step * i ∈ Set.uIcc a.startCell a.endCell := by
  rw [a.endCell_eq, Set.mem_uIcc]
  rcases lt_trichotomy a.delta 0 with h | h | h
  · rw [Axis.step_of_neg h]
    omega
  · rw [Axis.step_of_zero h]
    omega
  · rw [Axis.step_of_pos h]
    omega

/-- A walk that comes to its end does so within the Manhattan distance. -/
theorem exists_atEnd_le {k : ℕ} (h : (GridWalk.after s k).AtEnd s) :
    ∃ n ≤ s.manhattan, (GridWalk.after s n).AtEnd s := by
  by_cases hmoves : s.x.delta ≠ 0 ∨ s.y.delta ≠ 0
  · exact ⟨k, manhattan_eq ▸ LatticeWalk.steps_le ((GridWalk.atEnd_iff hmoves k).1 h), h⟩
  · obtain ⟨hx, hy⟩ := not_or.1 hmoves
    exact ⟨0, Nat.zero_le _, axis_still (not_not.1 hx), axis_still (not_not.1 hy)⟩

theorem reachesEnd_of_leavesLate (h : LeavesLate s) : s.ReachesEnd := by
  by_cases hmoves : s.x.delta ≠ 0 ∨ s.y.delta ≠ 0
  · obtain ⟨k, hk⟩ := (leavesLate_iff.1 h).reaches crossingTolerance_pos.le
    refine ⟨k, manhattan_eq ▸ LatticeWalk.steps_le hk, (GridWalk.atEnd_iff hmoves k).2 hk, fun l hl => ?_⟩
    have hle : GridWalk.crossedAfter s l ≤ (s.x.crossings, s.y.crossings) := hk ▸ LatticeWalk.walk_mono hl
    rw [GridWalk.after_eq hmoves]
    exact ⟨mem_uIcc_cells hle.1, mem_uIcc_cells hle.2⟩
  · obtain ⟨hx, hy⟩ := not_or.1 hmoves
    refine ⟨0, Nat.zero_le _, ⟨axis_still (not_not.1 hx), axis_still (not_not.1 hy)⟩, fun l hl => ?_⟩
    obtain rfl := Nat.le_zero.1 hl
    exact ⟨Set.left_mem_uIcc, Set.left_mem_uIcc⟩

/-- A walk of ordinary length that comes to its end leaves it late. -/
theorem leavesLate_of_atEnd (hshort : s.Shorter (32 * 10 ^ 12)) {k : ℕ} (h : (GridWalk.after s k).AtEnd s) :
    LeavesLate s := by
  by_cases hmoves : s.x.delta ≠ 0 ∨ s.y.delta ≠ 0
  · have hrises : ∀ a : Axis, |a.delta| < 32 * 10 ^ 12 →
        LatticeWalk.Rises (crossingTolerance + crossingTolerance) a.crossing := by
      intro a ha
      refine Axis.rises ?_
      unfold crossingTolerance navigationCellSize
      linarith
    have hfinite : ∀ a : Axis, ∀ i < a.crossings, a.crossing i ≠ ⊤ := by
      intro a i hi htop
      have hbefore := (a.passes zero_le_one).before i hi
      rw [htop, top_le_iff] at hbefore
      exact WithTop.coe_ne_top hbefore
    refine leavesLate_iff.2 ?_
    exact LatticeWalk.Opens.of_reaches crossingTolerance_pos.le (hrises _ hshort.1) (hrises _ hshort.2) (hfinite _)
      (hfinite _) ((GridWalk.atEnd_iff hmoves k).1 h)
  · obtain ⟨hx, hy⟩ := not_or.1 hmoves
    exact ⟨fun hne => absurd (axis_still (not_not.1 hx)) hne, fun hne => absurd (axis_still (not_not.1 hy)) hne⟩

end Segment

/-- From the point `(100, 30)` to the corner `(64, 64)`. -/
def toCorner : Segment := ⟨⟨100, 64⟩, ⟨30, 64⟩⟩

end Opsia
