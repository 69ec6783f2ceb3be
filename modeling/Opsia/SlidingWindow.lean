import Mathlib.Algebra.Order.Group.Defs
import Mathlib.Algebra.Order.Monoid.Unbundled.Basic
import Mathlib.Data.List.Basic

/-!
# Sliding-window limits

A limiter keeps the times that it let in, drops those out of the window before the present time, and lets a new time in
unless the window is full.  It decides by all the times that it ever let in (`Keeps.recent_eq`), and a time that it
turns away makes no difference to what it decides later (`Keeps.refuse`).  No window of this width, wherever it lies,
holds more times than the least count that is full (`Limited.letIn`).
-/

namespace Opsia.SlidingWindow

variable {T : Type*} [AddCommGroup T] [LinearOrder T] (width : T)

/-- The times that are in the window before a time, or later. -/
def recent (times : List T) (now : T) : List T := times.filter fun time => decide (now - width < time)

/-- The times in the window that ends at a time. -/
def inWindow (times : List T) (t : T) : List T := times.filter fun time => decide (t - width < time ∧ time ≤ t)

/-- The times that a limiter keeps decide as all of those that it let in do, from a time on. -/
def Keeps (kept admitted : List T) (now : T) : Prop :=
  (∀ time ∈ admitted, time ≤ now) ∧ ∀ t, now ≤ t → recent width kept t = recent width admitted t

/-- No window holds more than so many times. -/
def Limited (admitted : List T) (bound : ℕ) : Prop := ∀ t, (inWindow width admitted t).length ≤ bound

variable {width} {kept admitted : List T} {now t : T}

theorem Keeps.nil : Keeps width [] [] now := ⟨fun _ h => absurd h List.not_mem_nil, fun _ _ => rfl⟩

theorem Keeps.recent_eq (h : Keeps width kept admitted now) (ht : now ≤ t) :
    recent width kept t = inWindow width admitted t := by
  rw [h.2 t ht]
  refine List.filter_congr fun time htime => decide_eq_decide.2 ?_
  exact (and_iff_left ((h.1 time htime).trans ht)).symm

theorem Keeps.mono (h : Keeps width kept admitted now) (ht : now ≤ t) : Keeps width kept admitted t :=
  ⟨fun time htime => (h.1 time htime).trans ht, fun t' ht' => h.2 t' (ht.trans ht')⟩

theorem Limited.nil (bound : ℕ) : Limited width ([] : List T) bound := fun _ => Nat.zero_le _

variable [IsOrderedAddMonoid T]

/-- What is out of the window now is out of it later. -/
private theorem recent_recent (times : List T) (ht : now ≤ t) :
    recent width (recent width times now) t = recent width times t := by
  unfold recent
  rw [List.filter_filter]
  refine List.filter_congr fun time _ => ?_
  rw [Bool.and_eq_left_iff_imp]
  intro hin
  exact decide_eq_true ((sub_le_sub_right ht width).trans_lt (of_decide_eq_true hin))

/-- A time that is turned away leaves the decisions as they are. -/
theorem Keeps.refuse (h : Keeps width kept admitted now) (ht : now ≤ t) :
    Keeps width (recent width kept t) admitted t :=
  ⟨fun time htime => (h.1 time htime).trans ht, fun t' ht' => by rw [recent_recent kept ht', h.2 t' (ht.trans ht')]⟩

/-- A time that is let in counts from then on. -/
theorem Keeps.letIn (h : Keeps width kept admitted now) (ht : now ≤ t) :
    Keeps width (recent width kept t ++ [t]) (admitted ++ [t]) t := by
  refine ⟨fun time htime => ?_, fun t' ht' => ?_⟩
  · rcases List.mem_append.1 htime with htime | htime
    · exact (h.1 time htime).trans ht
    · exact (List.mem_singleton.1 htime).le
  · have hold := (h.refuse ht).2 t' ht'
    unfold recent at hold ⊢
    rw [List.filter_append, List.filter_append, hold]

/-- A time that is let in while its window is not full leaves no window with more than the bound. -/
theorem Limited.letIn {bound : ℕ} (h : Limited width admitted bound) (hall : ∀ time ∈ admitted, time ≤ now)
    (hnow : (inWindow width admitted now).length < bound) : Limited width (admitted ++ [now]) bound := by
  intro t
  have hsplit : inWindow width (admitted ++ [now]) t = inWindow width admitted t ++ inWindow width [now] t :=
    List.filter_append _ _
  rw [hsplit, List.length_append]
  by_cases hin : t - width < now ∧ now ≤ t
  · -- the window that ends at `t` holds no more of the old times than the one that ends now
    have hsub : (inWindow width admitted t).length ≤ (inWindow width admitted now).length := by
      unfold inWindow
      rw [← List.countP_eq_length_filter, ← List.countP_eq_length_filter]
      refine List.countP_mono_left fun time htime hin' => ?_
      have hbefore := (of_decide_eq_true hin').1
      exact decide_eq_true ⟨(sub_le_sub_right hin.2 width).trans_lt hbefore, hall time htime⟩
    have hone : (inWindow width [now] t).length ≤ 1 := List.length_filter_le _ _
    omega
  · have hnone : inWindow width [now] t = [] := by
      unfold inWindow
      rw [List.filter_cons_of_neg (by simpa using hin)]
      rfl
    rw [hnone, List.length_nil, Nat.add_zero]
    exact h t

end Opsia.SlidingWindow
