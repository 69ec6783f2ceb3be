import Mathlib.Algebra.Order.Field.Rat
import Mathlib.Algebra.Order.Floor.Ring
import Mathlib.Data.Rat.Floor
import Mathlib.Algebra.Order.Monoid.WithTop

/-!
# Exact numbers

The numbers of the language with exact arithmetic: a rational number, an infinity or not a number.  The sign of zero is
not kept; nothing here divides by zero.  Sums and comparisons of numbers that are finite or positive infinity are those
of `WithTop ℚ` (`ofTop`).
-/

namespace Opsia

inductive ExactNumber
  | finite (q : ℚ)
  | infinity (neg : Bool)
  | nan
deriving DecidableEq

namespace ExactNumber

/-- `Number.isFinite` -/
def isFinite : ExactNumber → Bool
  | finite _ => true
  | _ => false

def neg : ExactNumber → ExactNumber
  | finite q => finite (-q)
  | infinity n => infinity !n
  | nan => nan

def add : ExactNumber → ExactNumber → ExactNumber
  | finite p, finite q => finite (p + q)
  | finite _, infinity n => infinity n
  | infinity n, finite _ => infinity n
  | infinity m, infinity n => if m = n then infinity m else nan
  | _, _ => nan

def sub (u v : ExactNumber) : ExactNumber := u.add v.neg

def div : ExactNumber → ExactNumber → ExactNumber
  | finite p, finite q => if q = 0 then nan else finite (p / q)
  | finite _, infinity _ => finite 0
  | infinity n, finite q => if q < 0 then infinity !n else infinity n
  | _, _ => nan

/-- `Math.abs` -/
def abs : ExactNumber → ExactNumber
  | finite q => finite |q|
  | infinity _ => infinity false
  | nan => nan

/-- `u < v` -/
def lt : ExactNumber → ExactNumber → Bool
  | finite p, finite q => decide (p < q)
  | finite _, infinity n => !n
  | infinity n, finite _ => n
  | infinity m, infinity n => m && !n
  | _, _ => false

/-- `u <= v` -/
def le : ExactNumber → ExactNumber → Bool
  | finite p, finite q => decide (p ≤ q)
  | finite _, infinity n => !n
  | infinity n, finite _ => n
  | infinity m, infinity n => m || !n
  | _, _ => false

/-- `Math.min` -/
def min (u v : ExactNumber) : ExactNumber := if u = nan ∨ v = nan then nan else if v.lt u then v else u

/-- `Math.max` -/
def max (u v : ExactNumber) : ExactNumber := if u = nan ∨ v = nan then nan else if u.lt v then v else u

/-- A number that is finite or positive infinity. -/
def ofTop : WithTop ℚ → ExactNumber
  | none => infinity false
  | some q => finite q

@[simp] theorem ofTop_top : ofTop ⊤ = infinity false := rfl

@[simp] theorem ofTop_coe (q : ℚ) : ofTop q = finite q := rfl

theorem add_ofTop (u v : WithTop ℚ) : (ofTop u).add (ofTop v) = ofTop (u + v) := by
  cases u with
  | top => cases v <;> rfl
  | coe p =>
    cases v with
    | top => rfl
    | coe q => rfl

@[simp] theorem min_finite (p q : ℚ) : (finite p).min (finite q) = finite (Min.min p q) := by
  unfold min
  simp only [reduceCtorEq, or_self, if_false, lt, decide_eq_true_eq]
  rw [min_def]
  split
  · rename_i h
    rw [if_neg (not_le.2 h)]
  · rename_i h
    rw [if_pos (not_lt.1 h)]

@[simp] theorem max_finite (p q : ℚ) : (finite p).max (finite q) = finite (Max.max p q) := by
  unfold max
  simp only [reduceCtorEq, or_self, if_false, lt, decide_eq_true_eq]
  rw [max_def]
  split
  · rename_i h
    rw [if_pos h.le]
  · rename_i h
    rcases (not_lt.1 h).eq_or_lt with rfl | h
    · simp
    · rw [if_neg (not_le.2 h)]

end ExactNumber

end Opsia
