import Mathlib.Algebra.Order.Monoid.WithTop
import Mathlib.Algebra.Order.Monoid.Unbundled.WithTop
import Mathlib.Logic.Function.Iterate
import Mathlib.Order.Monotone.Basic

/-!
# Lattice walks

Two sequences rise, and a walk goes from `(0, 0)` through the pairs of indices: it advances the sequence that is behind
the other one, and both where they are apart by no more than a tolerance.  It comes to `(m, n)` when each sequence is
still ahead there of the last value of the other one by more than the tolerance (`Opens.reaches`), and otherwise passes
it by if each rises by more than twice the tolerance (`Opens.of_reaches`).  A walk that comes to `(m, n)` touches every
pair of indices at which the two sequences pass a common value, if each rises by more than the tolerance
(`touches_of_passed`).
-/

namespace Opsia.LatticeWalk

inductive Turn
  | first
  | second
  | both
deriving DecidableEq

section

variable {K : Type*} [AddCommMonoid K] [LinearOrder K]
variable (ε : K) (x y : ℕ → WithTop K)

/-- Which of the sequences is behind the other one. -/
def turn (p : ℕ × ℕ) : Turn :=
  if x p.1 + ε < y p.2 then .first else if y p.2 + ε < x p.1 then .second else .both

def Turn.next (t : Turn) (p : ℕ × ℕ) : ℕ × ℕ :=
  match t with
  | .first => (p.1 + 1, p.2)
  | .second => (p.1, p.2 + 1)
  | .both => (p.1 + 1, p.2 + 1)

/-- The pair of indices after some steps. -/
def walk (k : ℕ) : ℕ × ℕ := (fun p => (turn ε x y p).next p)^[k] (0, 0)

/-- A walk of `k` steps passes through the pair, or beside it where it advances both sequences. -/
def Touches (k : ℕ) (p : ℕ × ℕ) : Prop :=
  (∃ l ≤ k, walk ε x y l = p) ∨ ∃ l < k, turn ε x y (walk ε x y l) = .both ∧
    (p = ((walk ε x y l).1 + 1, (walk ε x y l).2) ∨ p = ((walk ε x y l).1, (walk ε x y l).2 + 1))

/-- Each sequence at its index is ahead of the last value of the other one before its index. -/
structure Opens (m n : ℕ) : Prop where
  first : ∀ i < m, x i + ε < y n
  second : ∀ j < n, y j + ε < x m

/-- The sequence rises by more than `δ` while it is finite. -/
def Rises (δ : K) (x : ℕ → WithTop K) : Prop := ∀ (i : ℕ) (v : K), x (i + 1) ≤ v → x i + δ < v

/-- The sequence passes the value at the index `c`. -/
structure Passes (x : ℕ → WithTop K) (v : K) (c : ℕ) : Prop where
  before : ∀ i < c, x i ≤ v
  after : ∀ i, c ≤ i → v ≤ x i

variable {ε x y}

theorem walk_zero : walk ε x y 0 = (0, 0) := rfl

theorem walk_succ (k : ℕ) : walk ε x y (k + 1) = (turn ε x y (walk ε x y k)).next (walk ε x y k) :=
  Function.iterate_succ_apply' ..

theorem le_next (t : Turn) (p : ℕ × ℕ) : p ≤ t.next p := by
  cases t <;> exact ⟨by simp [Turn.next], by simp [Turn.next]⟩

theorem walk_mono : Monotone (walk ε x y) :=
  monotone_nat_of_le_succ fun k => by
    rw [walk_succ]
    exact le_next _ _

/-- Every step advances. -/
theorem le_sum_walk (k : ℕ) : k ≤ (walk ε x y k).1 + (walk ε x y k).2 := by
  induction k with
  | zero => exact Nat.zero_le _
  | succ k ih =>
    rw [walk_succ]
    cases turn ε x y (walk ε x y k) <;> simp only [Turn.next] <;> omega

/-- A pair that the walk comes to is come to within as many steps as its sum. -/
theorem steps_le {k m n : ℕ} (h : walk ε x y k = (m, n)) : k ≤ m + n := by
  have := le_sum_walk (ε := ε) (x := x) (y := y) k
  rwa [h] at this

/-- A sequence that is never behind does not advance. -/
theorem walk_fst_of_top (hx : ∀ i, x i = ⊤) (hy : ∀ j, y j ≠ ⊤) (k : ℕ) : (walk ε x y k).1 = 0 := by
  induction k with
  | zero => rfl
  | succ k ih =>
    have hsecond : turn ε x y (walk ε x y k) = .second := by
      obtain ⟨v, hv⟩ := WithTop.ne_top_iff_exists.1 (hy (walk ε x y k).2)
      unfold turn
      rw [hx, ← hv, WithTop.top_add, if_neg not_top_lt, ← WithTop.coe_add, if_pos (WithTop.coe_lt_top _)]
    rw [walk_succ, hsecond]
    exact ih

theorem walk_snd_of_top (hx : ∀ i, x i ≠ ⊤) (hy : ∀ j, y j = ⊤) (k : ℕ) : (walk ε x y k).2 = 0 := by
  induction k with
  | zero => rfl
  | succ k ih =>
    have hfirst : turn ε x y (walk ε x y k) = .first := by
      obtain ⟨v, hv⟩ := WithTop.ne_top_iff_exists.1 (hx (walk ε x y k).1)
      unfold turn
      rw [hy, ← hv, ← WithTop.coe_add, if_pos (WithTop.coe_lt_top _)]
    rw [walk_succ, hfirst]
    exact ih

variable [IsOrderedAddMonoid K]

private theorem lt_of_add_lt {a b : WithTop K} (hε : 0 ≤ ε) (h : a + ε < b) : a < b :=
  lt_of_le_of_lt (le_add_of_nonneg_right (WithTop.coe_nonneg.2 hε)) h

theorem Rises.mono {δ : K} (hδ : 0 ≤ δ) (h : Rises δ x) : Monotone x :=
  monotone_nat_of_le_succ fun i => by
    cases hnext : x (i + 1) with
    | top => exact le_top
    | coe v => exact (lt_of_add_lt hδ (h i v (le_of_eq hnext))).le

/-! ### Coming to a pair -/

private theorem Opens.step {m n : ℕ} (hε : 0 ≤ ε) (h : Opens ε x y m n) {p : ℕ × ℕ} (hp : p ≤ (m, n))
    (hne : p ≠ (m, n)) : (turn ε x y p).next p ≤ (m, n) := by
  obtain ⟨i, j⟩ := p
  obtain ⟨hi, hj⟩ := hp
  dsimp only at hi hj
  unfold turn
  dsimp only
  rcases hi.eq_or_lt with rfl | hi
  · -- only the second sequence may advance
    have hj : j < n := lt_of_le_of_ne hj fun heq => hne (by rw [heq])
    have hsecond := h.second j hj
    have hnot : ¬x i + ε < y j := fun hfirst =>
      lt_asymm (lt_of_add_lt hε hsecond) (lt_of_add_lt hε hfirst)
    rw [if_neg hnot, if_pos hsecond]
    exact ⟨le_refl _, hj⟩
  rcases hj.eq_or_lt with rfl | hj
  · rw [if_pos (h.first i hi)]
    exact ⟨hi, le_refl _⟩
  · split
    · exact ⟨hi, hj.le⟩
    split
    · exact ⟨hi.le, hj⟩
    · exact ⟨hi, hj⟩

/-- A walk that cannot pass the pair comes to it. -/
theorem Opens.reaches {m n : ℕ} (hε : 0 ≤ ε) (h : Opens ε x y m n) : ∃ k, walk ε x y k = (m, n) := by
  by_contra hnever
  have hbelow : ∀ k, walk ε x y k ≤ (m, n) := by
    intro k
    induction k with
    | zero => exact ⟨Nat.zero_le _, Nat.zero_le _⟩
    | succ k ih =>
      rw [walk_succ]
      exact h.step hε ih fun heq => hnever ⟨k, heq⟩
  have hsum := le_sum_walk (ε := ε) (x := x) (y := y) (m + n + 1)
  have hle := hbelow (m + n + 1)
  have h1 := hle.1
  have h2 := hle.2
  dsimp only at h1 h2
  omega

/-! ### Passing a pair by -/

private theorem Opens.second_of_reaches (hε : 0 ≤ ε) (hx : Rises (ε + ε) x) {k m n : ℕ}
    (hfinite : ∀ j < n, y j ≠ ⊤) (hk : walk ε x y k = (m, n)) : ∀ j < n, y j + ε < x m := by
  intro j hj
  by_contra hclose
  have hmono := hx.mono (add_nonneg hε hε)
  obtain ⟨w, hw⟩ := WithTop.ne_top_iff_exists.1 (hfinite j hj)
  rw [← hw, not_lt] at hclose
  -- beyond `j` the walk is beyond `m`
  have hbeyond : ∀ l, (walk ε x y l).2 ≤ j ∨ m < (walk ε x y l).1 := by
    intro l
    induction l with
    | zero => exact Or.inl (Nat.zero_le _)
    | succ l ih =>
      have hle := walk_mono (ε := ε) (x := x) (y := y) (Nat.le_succ l)
      rcases ih with hlow | hhigh
      · rcases hlow.lt_or_eq with hlow | heq
        · refine Or.inl ?_
          rw [walk_succ]
          cases turn ε x y (walk ε x y l) <;> simp only [Turn.next] <;> omega
        · rw [walk_succ]
          unfold turn
          split
          · exact Or.inl hlow
          split
          · rename_i hsecond
            refine Or.inr ?_
            by_contra hi
            rw [heq, ← hw] at hsecond
            exact absurd (hmono (not_lt.1 hi)) (not_le.2 (lt_of_le_of_lt hclose hsecond))
          · rename_i hfirst hsecond
            refine Or.inr ?_
            by_contra hi
            rw [heq, ← hw] at hfirst
            have hnext := (hmono (not_lt.1 hi)).trans hclose
            have hrise := hx _ (w + ε) hnext
            have hback : (w : WithTop K) + ε ≤ x (walk ε x y l).1 + ε + ε := add_le_add_left (not_lt.1 hfirst) _
            rw [add_assoc, ← WithTop.coe_add] at hback
            exact absurd hrise (not_lt.2 hback)
      · exact Or.inr (lt_of_lt_of_le hhigh hle.1)
  rcases hbeyond k with hlow | hhigh
  · rw [hk] at hlow
    exact absurd hj (not_lt.2 hlow)
  · rw [hk] at hhigh
    exact lt_irrefl m hhigh

private theorem turn_swap (hε : 0 ≤ ε) (p : ℕ × ℕ) :
    (turn ε y x p.swap).next p.swap = ((turn ε x y p).next p).swap := by
  unfold turn
  dsimp only [Prod.fst_swap, Prod.snd_swap]
  by_cases hfirst : x p.1 + ε < y p.2
  · have hnot : ¬y p.2 + ε < x p.1 := fun h => lt_asymm (lt_of_add_lt hε h) (lt_of_add_lt hε hfirst)
    rw [if_neg hnot, if_pos hfirst, if_pos hfirst]
    rfl
  · rw [if_neg hfirst]
    split <;> rfl

theorem walk_swap (hε : 0 ≤ ε) (k : ℕ) : walk ε y x k = (walk ε x y k).swap := by
  induction k with
  | zero => rfl
  | succ k ih => rw [walk_succ, walk_succ, ih, turn_swap hε]

/-- A walk that comes to the pair cannot have passed it. -/
theorem Opens.of_reaches (hε : 0 ≤ ε) (hx : Rises (ε + ε) x) (hy : Rises (ε + ε) y) {k m n : ℕ}
    (hfx : ∀ i < m, x i ≠ ⊤) (hfy : ∀ j < n, y j ≠ ⊤) (hk : walk ε x y k = (m, n)) : Opens ε x y m n where
  first := by
    have hswap : walk ε y x k = (n, m) := by rw [walk_swap hε, hk]; rfl
    exact second_of_reaches hε hy hfx hswap
  second := second_of_reaches hε hx hfy hk

/-! ### What a walk touches -/

private theorem exists_last {P : ℕ → Prop} (k : ℕ) (h0 : P 0) (hk : ¬P k) : ∃ l < k, P l ∧ ¬P (l + 1) := by
  induction k with
  | zero => exact absurd h0 hk
  | succ k ih =>
    by_cases hP : P k
    · exact ⟨k, Nat.lt_succ_self k, hP, hk⟩
    · obtain ⟨l, hl, h⟩ := ih hP
      exact ⟨l, Nat.lt_succ_of_lt hl, h⟩

omit [IsOrderedAddMonoid K] in
/-- Where both advance, the one that has the value ahead of it is at most one behind. -/
private theorem passes_next (hy : Rises ε y) {v : K} {i j d : ℕ} (hd : Passes y v d) (hv : v ≤ x i)
    (hnear : ¬y j + ε < x i) : d ≤ j + 1 := by
  by_contra hfar
  have hrise := hy j v (hd.before (j + 1) (not_le.1 hfar))
  exact hnear (lt_of_lt_of_le hrise hv)

/-- A walk to `(m, n)` touches the pair of indices at which the sequences pass a value. -/
theorem touches_of_passes (hε : 0 ≤ ε) (hx : Rises ε x) (hy : Rises ε y) {v : K} {c d : ℕ} (hc : Passes x v c)
    (hd : Passes y v d) {k m n : ℕ} (hk : walk ε x y k = (m, n)) (hcm : c ≤ m) (hdn : d ≤ n) :
    Touches ε x y k (c, d) := by
  by_cases hend : walk ε x y k ≤ (c, d)
  · rw [hk] at hend
    obtain rfl : m = c := le_antisymm hend.1 hcm
    obtain rfl : n = d := le_antisymm hend.2 hdn
    exact Or.inl ⟨k, le_refl k, hk⟩
  obtain ⟨l, hl, hbelow, hbeyond⟩ := exists_last (P := fun l => walk ε x y l ≤ (c, d)) k
    ⟨Nat.zero_le _, Nat.zero_le _⟩ hend
  rw [walk_succ] at hbeyond
  generalize hp : walk ε x y l = p at hbelow hbeyond
  obtain ⟨i, j⟩ := p
  obtain ⟨hic, hjd⟩ := hbelow
  dsimp only at hic hjd
  by_cases heq : (i, j) = (c, d)
  · exact Or.inl ⟨l, hl.le, hp.trans heq⟩
  refine Or.inr ⟨l, hl, ?_⟩
  rw [hp]
  unfold turn at hbeyond ⊢
  dsimp only at hbeyond ⊢
  split at hbeyond
  · rename_i hfirst
    have hi : i = c := by
      by_contra hne
      exact hbeyond ⟨lt_of_le_of_ne hic hne, hjd⟩
    have hj : j < d := lt_of_le_of_ne hjd fun hj => heq (by rw [hi, hj])
    have hle : y j ≤ x i := (hd.before j hj).trans (hc.after i hi.ge)
    exact absurd (lt_of_add_lt hε hfirst) (not_lt.2 hle)
  split at hbeyond
  · rename_i hsecond
    have hj : j = d := by
      by_contra hne
      exact hbeyond ⟨hic, lt_of_le_of_ne hjd hne⟩
    have hi : i < c := lt_of_le_of_ne hic fun hi => heq (by rw [hi, hj])
    have hle : x i ≤ y j := (hc.before i hi).trans (hd.after j hj.ge)
    exact absurd (lt_of_add_lt hε hsecond) (not_lt.2 hle)
  · rename_i hfirst hsecond
    rw [if_neg hfirst, if_neg hsecond]
    refine ⟨rfl, ?_⟩
    rcases hic.eq_or_lt with rfl | hi
    · have hj : j < d := lt_of_le_of_ne hjd fun hj => heq (by rw [hj])
      have hnext := passes_next hy hd (hc.after i (le_refl i)) hsecond
      exact Or.inr (by rw [Nat.le_antisymm hnext hj])
    · rcases hjd.eq_or_lt with rfl | hj
      · have hnext := passes_next hx hc (hd.after j (le_refl j)) hfirst
        exact Or.inl (by rw [Nat.le_antisymm hnext hi])
      · exact absurd ⟨hi, hj⟩ hbeyond

end

end Opsia.LatticeWalk
