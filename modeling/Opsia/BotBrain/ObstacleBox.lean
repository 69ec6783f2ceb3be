import Mathlib.Order.Interval.Set.UnorderedInterval
import Opsia.BotBrain.SpatialIndex

/-!
# Boxes of finite obstacles

What the tests of an obstacle say on finite numbers: which points are inside (`insideObstacle_iff`), and which segments
hit it (`segmentHitsObstacle_iff`), namely those with a part that is in the slab of the box along both axes.
-/

namespace Opsia

/-- What a finite obstacle is along one axis. -/
structure Side where
  center : ℚ
  size : ℚ

/-- A finite obstacle. -/
structure Box where
  x : Side
  y : Side

namespace Side
variable (s : Side)

def low (padding : ℚ) : ℚ := s.center - s.size / 2 - padding

def high (padding : ℚ) : ℚ := s.center + s.size / 2 + padding

def firstCell (padding : ℚ) : ℤ := cellOf (min (s.low padding) (s.high padding))

def lastCell (padding : ℚ) : ℤ := cellOf (max (s.low padding) (s.high padding))

end Side

/-- The box of an obstacle. -/
def Box.toObstacle (box : Box) : BotBrainMapObstacle where
  x := .finite box.x.center
  y := .finite box.y.center
  width := .finite box.x.size
  height := .finite box.y.size

/-! ### Edges -/

namespace ExactNumber

theorem add_finite (p q : ℚ) : (finite p).add (finite q) = finite (p + q) := rfl

theorem sub_finite (p q : ℚ) : (finite p).sub (finite q) = finite (p - q) := by
  rw [sub_eq_add_neg]
  rfl

theorem div_finite {p q : ℚ} (h : q ≠ 0) : (finite p).div (finite q) = finite (p / q) := if_neg h

private theorem finite_of_add {u v : ExactNumber} {q : ℚ} (h : u.add v = finite q) :
    (∃ p, u = finite p) ∧ ∃ p, v = finite p := by
  cases u with
  | finite p =>
    cases v with
    | finite p' => exact ⟨⟨p, rfl⟩, p', rfl⟩
    | infinity n => cases h
    | nan => cases h
  | infinity m =>
    cases v with
    | finite p' => cases h
    | infinity n => cases m <;> cases n <;> cases h
    | nan => cases h
  | nan => cases v <;> cases h

private theorem finite_of_neg {v : ExactNumber} {q : ℚ} (h : v.neg = finite q) : ∃ p, v = finite p := by
  cases v with
  | finite p => exact ⟨p, rfl⟩
  | infinity n => cases h
  | nan => cases h

private theorem finite_of_half {v : ExactNumber} {q : ℚ} (h : v.div (finite 2) = finite q) : ∃ p, v = finite p := by
  cases v with
  | finite p => exact ⟨p, rfl⟩
  | infinity n =>
    unfold div at h
    dsimp only at h
    split at h <;> cases h
  | nan => cases h

end ExactNumber

theorem lowEdge_finite (s : Side) (padding : ℚ) :
    lowEdge (.finite s.center) (.finite s.size) padding = .finite (s.low padding) := by
  unfold lowEdge
  rw [ExactNumber.div_finite two_ne_zero, ExactNumber.sub_finite, ExactNumber.sub_finite]
  rfl

theorem highEdge_finite (s : Side) (padding : ℚ) :
    highEdge (.finite s.center) (.finite s.size) padding = .finite (s.high padding) := by
  unfold highEdge
  rw [ExactNumber.div_finite two_ne_zero, ExactNumber.add_finite, ExactNumber.add_finite]
  rfl

private theorem finite_of_lowEdge {center size : ExactNumber} {padding q : ℚ}
    (h : lowEdge center size padding = .finite q) : ∃ s : Side, center = .finite s.center ∧ size = .finite s.size := by
  obtain ⟨⟨_, hsub⟩, -⟩ := ExactNumber.finite_of_add h
  obtain ⟨⟨c, rfl⟩, hneg⟩ := ExactNumber.finite_of_add hsub
  obtain ⟨_, hneg⟩ := hneg
  obtain ⟨_, hhalf⟩ := ExactNumber.finite_of_neg hneg
  obtain ⟨w, rfl⟩ := ExactNumber.finite_of_half hhalf
  exact ⟨⟨c, w⟩, rfl, rfl⟩

/-- An obstacle whose padded box is finite. -/
theorem boxCells_eq_some_iff {obstacle : BotBrainMapObstacle} {padding : ℚ} {range : CellRange} :
    obstacle.boxCells padding = some range ↔ ∃ box : Box, obstacle = box.toObstacle ∧ range =
      ⟨box.x.firstCell padding, box.x.lastCell padding, box.y.firstCell padding, box.y.lastCell padding⟩ := by
  constructor
  · intro h
    unfold BotBrainMapObstacle.boxCells at h
    split at h
    · rename_i hminX hmaxX hminY hmaxY
      obtain ⟨x, hx, hwidth⟩ := finite_of_lowEdge hminX
      obtain ⟨y, hy, hheight⟩ := finite_of_lowEdge hminY
      rw [hx, hwidth, lowEdge_finite] at hminX
      rw [hx, hwidth, highEdge_finite] at hmaxX
      rw [hy, hheight, lowEdge_finite] at hminY
      rw [hy, hheight, highEdge_finite] at hmaxY
      cases hminX
      cases hmaxX
      cases hminY
      cases hmaxY
      refine ⟨⟨x, y⟩, ?_, (Option.some.inj h).symm⟩
      obtain ⟨ox, oy, ow, oh⟩ := obstacle
      dsimp only at hx hwidth hy hheight
      rw [hx, hwidth, hy, hheight]
      rfl
    · cases h
  · rintro ⟨box, rfl, rfl⟩
    unfold BotBrainMapObstacle.boxCells Box.toObstacle
    dsimp only
    rw [lowEdge_finite, highEdge_finite, lowEdge_finite, highEdge_finite]
    rfl

/-! ### Points and segments -/

variable {box : Box} {padding : ℚ}

theorem insideObstacle_iff {x y : ℚ} : insideObstacle (.finite x) (.finite y) box.toObstacle padding = true ↔
    (box.x.low padding ≤ x ∧ x ≤ box.x.high padding) ∧ box.y.low padding ≤ y ∧ y ≤ box.y.high padding := by
  unfold insideObstacle Box.toObstacle
  dsimp only
  rw [lowEdge_finite, highEdge_finite, lowEdge_finite, highEdge_finite]
  simp only [ExactNumber.le, Bool.and_eq_true, decide_eq_true_eq]
  tauto

/-- Movements below this count as none. -/
def stillBound : ℚ := 1 / 10 ^ 6

/-- The segment is in the slab of the side at the part `t`. -/
def Axis.InSlab (a : Axis) (side : Side) (padding t : ℚ) : Prop :=
  if |a.delta| < stillBound then side.low padding ≤ a.a ∧ a.a ≤ side.high padding
  else a.pointAt t ∈ Set.uIcc (side.low padding) (side.high padding)

/-- Between which parts a moving segment is between two values. -/
private theorem mem_uIcc_pointAt {a : Axis} (h : a.delta ≠ 0) (l u t : ℚ) :
    a.pointAt t ∈ Set.uIcc l u ↔ t ∈ Set.uIcc ((l - a.a) / a.delta) ((u - a.a) / a.delta) := by
  unfold Axis.pointAt
  rw [Set.mem_uIcc, Set.mem_uIcc]
  rcases lt_or_gt_of_ne h with hneg | hpos
  · rw [div_le_iff_of_neg hneg, div_le_iff_of_neg hneg, le_div_iff_of_neg hneg, le_div_iff_of_neg hneg,
      sub_le_iff_le_add', le_sub_iff_add_le', sub_le_iff_le_add', le_sub_iff_add_le', or_comm]
    tauto
  · rw [div_le_iff₀ hpos, div_le_iff₀ hpos, le_div_iff₀ hpos, le_div_iff₀ hpos, sub_le_iff_le_add',
      le_sub_iff_add_le', sub_le_iff_le_add', le_sub_iff_add_le']

/-- What is left of a segment between two edges. -/
private theorem slab_finite (a : Axis) (side : Side) (padding : ℚ) {low high : ℚ} (h : low ≤ high) :
    (∃ low' high', slab (.finite a.a) (.finite a.delta) (.finite (side.low padding)) (.finite (side.high padding))
        (.finite low) (.finite high) = some (.finite low', .finite high') ∧ low' ≤ high' ∧
        ∀ t, low' ≤ t ∧ t ≤ high' ↔ (low ≤ t ∧ t ≤ high) ∧ a.InSlab side padding t) ∨
      slab (.finite a.a) (.finite a.delta) (.finite (side.low padding)) (.finite (side.high padding))
        (.finite low) (.finite high) = none ∧ ∀ t, low ≤ t ∧ t ≤ high → ¬a.InSlab side padding t := by
  have hstill : (ExactNumber.finite a.delta).abs.lt (.finite (1 / 10 ^ 6)) = decide (|a.delta| < stillBound) := rfl
  unfold slab Axis.InSlab
  rw [hstill]
  by_cases hdelta : |a.delta| < stillBound
  · simp only [hdelta, decide_true, if_true, ExactNumber.lt, Bool.or_eq_true, decide_eq_true_eq]
    by_cases hout : a.a < side.low padding ∨ side.high padding < a.a
    · refine Or.inr ⟨if_pos hout, fun t _ hin => ?_⟩
      rcases hout with hout | hout
      · exact absurd hin.1 (not_le.2 hout)
      · exact absurd hin.2 (not_le.2 hout)
    · obtain ⟨hlow, hhigh⟩ := not_or.1 hout
      exact Or.inl ⟨low, high, if_neg hout, h, fun t => (and_iff_left ⟨not_lt.1 hlow, not_lt.1 hhigh⟩).symm⟩
  · have hne : a.delta ≠ 0 := by
      intro hzero
      rw [hzero, abs_zero] at hdelta
      exact hdelta (by unfold stillBound; norm_num)
    simp only [hdelta, decide_false, Bool.false_eq_true, if_false, mem_uIcc_pointAt hne, ExactNumber.sub_finite,
      ExactNumber.div_finite hne, ExactNumber.min_finite, ExactNumber.max_finite, ExactNumber.lt, decide_eq_true_eq]
    generalize (side.low padding - a.a) / a.delta = first
    generalize (side.high padding - a.a) / a.delta = second
    have hmem : ∀ t, (max low (min first second) ≤ t ∧ t ≤ min high (max first second)) ↔
        (low ≤ t ∧ t ≤ high) ∧ t ∈ Set.uIcc first second := by
      intro t
      rw [max_le_iff, le_min_iff, and_and_and_comm]
      rfl
    by_cases hempty : min high (max first second) < max low (min first second)
    · refine Or.inr ⟨if_pos hempty, fun t ht hin => ?_⟩
      obtain ⟨hlow, hhigh⟩ := (hmem t).2 ⟨ht, hin⟩
      exact absurd (hlow.trans hhigh) (not_le.2 hempty)
    · exact Or.inl ⟨_, _, if_neg hempty, not_lt.1 hempty, hmem⟩

/-- A segment hits a finite obstacle if it does not start inside and some part of it is in both slabs. -/
theorem segmentHitsObstacle_iff {s : Segment} :
    segmentHitsObstacle (.finite s.x.a) (.finite s.y.a) (.finite s.x.b) (.finite s.y.b) box.toObstacle padding = true ↔
      insideObstacle (.finite s.x.a) (.finite s.y.a) box.toObstacle 0 = false ∧
        ∃ t, (0 ≤ t ∧ t ≤ 1) ∧ s.x.InSlab box.x padding t ∧ s.y.InSlab box.y padding t := by
  have hx : (ExactNumber.finite s.x.b).sub (.finite s.x.a) = .finite s.x.delta := ExactNumber.sub_finite ..
  have hy : (ExactNumber.finite s.y.b).sub (.finite s.y.a) = .finite s.y.delta := ExactNumber.sub_finite ..
  unfold segmentHitsObstacle
  cases hinside : insideObstacle (.finite s.x.a) (.finite s.y.a) box.toObstacle 0 with
  | true => simp
  | false =>
    rw [if_neg Bool.false_ne_true, hx, hy]
    unfold Box.toObstacle
    dsimp only
    rw [lowEdge_finite, highEdge_finite, lowEdge_finite, highEdge_finite]
    simp only [true_and]
    rcases slab_finite s.x box.x padding zero_le_one with
      ⟨low, high, hslab, hle, hparts⟩ | ⟨hslab, hnone⟩
    · rw [hslab, Option.bind_eq_bind, Option.bind_some]
      dsimp only
      rcases slab_finite s.y box.y padding hle with
        ⟨low', high', hslab', hle', hparts'⟩ | ⟨hslab', hnone'⟩
      · have hlow := (hparts low').1 ((hparts' low').1 ⟨le_refl _, hle'⟩).1
        have hhigh := (hparts high').1 ((hparts' high').1 ⟨hle', le_refl _⟩).1
        rw [hslab', Option.any_some]
        refine iff_of_true ?_ ⟨low', hlow.1, hlow.2, ((hparts' low').1 ⟨le_refl _, hle'⟩).2⟩
        simp only [ExactNumber.le, Bool.and_eq_true, decide_eq_true_eq]
        exact ⟨hhigh.1.1, hlow.1.2⟩
      · rw [hslab', Option.any_none]
        refine iff_of_false Bool.false_ne_true ?_
        rintro ⟨t, ht, hinX, hinY⟩
        exact hnone' t ((hparts t).2 ⟨ht, hinX⟩) hinY
    · rw [hslab, Option.bind_eq_bind, Option.bind_none, Option.any_none]
      refine iff_of_false Bool.false_ne_true ?_
      rintro ⟨t, ht, hinX, -⟩
      exact hnone t ht hinX

end Opsia
