import Mathlib.Data.List.Sort

/-!
# Pages that are cut before they are filtered

A reader takes the next `n` items of a list, keeps those that are its own, and goes on behind the last one that it kept.
It gets stuck in front of `n` items in a row that are not its own.  `GapsBelow` says that no item of its own stands
behind so many; the reader always makes progress just when this holds (`progress_iff_gapsBelow`).
-/

namespace Opsia.Paging

variable {α : Type} (own : α → Bool)

/-- The own items of a page of `n` items, and what is left behind the last of them. -/
def readPage : Nat → List α → List α × List α
  | 0, xs => ([], xs)
  | _ + 1, [] => ([], [])
  | n + 1, x :: xs =>
    let page := readPage n xs
    if own x then (x :: page.1, page.2) else if page.1.isEmpty then ([], x :: xs) else page

/-- What is left after a number of pages. -/
def remaining (limit : Nat) (xs : List α) : Nat → List α
  | 0 => xs
  | n + 1 => remaining limit (readPage own limit xs).2 n

/-- Fewer than `limit` other items stand in a row in front of each own item; `before` of them have been passed
already. -/
def GapsBelow (limit : Nat) : Nat → List α → Prop
  | _, [] => True
  | before, x :: xs => if own x then before < limit ∧ GapsBelow limit 0 xs else GapsBelow limit (before + 1) xs

instance instDecidableGapsBelow (limit : Nat) : (before : Nat) → (xs : List α) → Decidable (GapsBelow own limit before xs)
  | _, [] => isTrue trivial
  | before, x :: xs => by
    have := instDecidableGapsBelow limit 0 xs
    have := instDecidableGapsBelow limit (before + 1) xs
    unfold GapsBelow
    infer_instance

variable {own}

/-- What is left after one more page. -/
theorem remaining_succ (limit : Nat) (xs : List α) (n : Nat) :
    remaining own limit xs (n + 1) = (readPage own limit (remaining own limit xs n)).2 := by
  induction n generalizing xs with
  | zero => rfl
  | succ n ih =>
    rw [remaining, ih]
    rfl

theorem readPage_stuck {n : Nat} {xs : List α} (h : (readPage own n xs).1 = []) : (readPage own n xs).2 = xs := by
  induction n generalizing xs with
  | zero => rfl
  | succ n ih =>
    cases xs with
    | nil => rfl
    | cons x xs =>
      unfold readPage at h ⊢
      by_cases hx : own x = true
      · rw [if_pos hx] at h
        cases h
      · rw [if_neg hx] at h ⊢
        by_cases hempty : (readPage own n xs).1 = []
        · rw [if_pos (by rw [hempty]; rfl)]
        · rw [if_neg (by simpa using hempty)] at h
          exact absurd h hempty

/-- A page and the own items of what is left are the own items. -/
theorem readPage_filter (n : Nat) (xs : List α) :
    (readPage own n xs).1 ++ (readPage own n xs).2.filter own = xs.filter own := by
  induction n generalizing xs with
  | zero => rfl
  | succ n ih =>
    cases xs with
    | nil => rfl
    | cons x xs =>
      unfold readPage
      by_cases hx : own x = true
      · rw [if_pos hx, List.filter_cons_of_pos hx, ← ih xs]
        rfl
      · rw [if_neg hx]
        by_cases hempty : (readPage own n xs).1 = []
        · rw [if_pos (by rw [hempty]; rfl)]
          rfl
        · rw [if_neg (by simpa using hempty), List.filter_cons_of_neg (by simpa using hx)]
          exact ih xs

/-- The own items of a page are those of the first `n` items. -/
theorem readPage_take (n : Nat) (xs : List α) : (readPage own n xs).1 = (xs.take n).filter own := by
  induction n generalizing xs with
  | zero => rfl
  | succ n ih =>
    cases xs with
    | nil => rfl
    | cons x xs =>
      unfold readPage
      rw [List.take_succ_cons]
      by_cases hx : own x = true
      · rw [if_pos hx, List.filter_cons_of_pos hx, ← ih xs]
      · rw [if_neg hx, List.filter_cons_of_neg (by simpa using hx), ← ih xs]
        by_cases hempty : (readPage own n xs).1 = []
        · rw [if_pos (by rw [hempty]; rfl), hempty]
        · rw [if_neg (by simpa using hempty)]

theorem readPage_length {n : Nat} {xs : List α} (h : (readPage own n xs).1 ≠ []) :
    (readPage own n xs).2.length < xs.length := by
  induction n generalizing xs with
  | zero => exact absurd rfl h
  | succ n ih =>
    cases xs with
    | nil => exact absurd rfl h
    | cons x xs =>
      unfold readPage at h ⊢
      rw [List.length_cons]
      by_cases hx : own x = true
      · rw [if_pos hx]
        dsimp only
        by_cases hempty : (readPage own n xs).1 = []
        · rw [readPage_stuck hempty]
          omega
        · have := ih hempty
          omega
      · rw [if_neg hx] at h ⊢
        by_cases hempty : (readPage own n xs).1 = []
        · rw [if_pos (by rw [hempty]; rfl)] at h
          exact absurd rfl h
        · rw [if_neg (by simpa using hempty)]
          have := ih hempty
          omega

/-- What is left is behind the last item of the page, in any order that the list is sorted by. -/
theorem readPage_after {r : α → α → Bool} {n : Nat} {xs : List α} {last : α}
    (hsorted : xs.Pairwise fun first second => r first second = true ∧ r second first = false)
    (hirrefl : ∀ x, r x x = false) (hlast : (readPage own n xs).1.getLast? = some last) :
    xs.filter (r last) = (readPage own n xs).2 := by
  induction n generalizing xs with
  | zero => cases hlast
  | succ n ih =>
    cases xs with
    | nil => cases hlast
    | cons x xs =>
      rw [List.pairwise_cons] at hsorted
      unfold readPage at hlast ⊢
      have hskip : ∀ (hlast : (readPage own n xs).1.getLast? = some last), r last x = false := by
        intro hlast
        have hin := List.mem_of_getLast? hlast
        rw [readPage_take] at hin
        exact (hsorted.1 last (List.mem_of_mem_take (List.mem_of_mem_filter hin))).2
      by_cases hx : own x = true
      · rw [if_pos hx] at hlast ⊢
        dsimp only at hlast ⊢
        by_cases hempty : (readPage own n xs).1 = []
        · rw [hempty] at hlast
          cases hlast
          rw [readPage_stuck hempty, List.filter_cons_of_neg (by simp [hirrefl]), List.filter_eq_self]
          exact fun other hother => (hsorted.1 other hother).1
        · rw [List.getLast?_cons, Option.some_inj] at hlast
          obtain ⟨other, hother⟩ := Option.ne_none_iff_exists'.1 (fun hnone => hempty (List.getLast?_eq_none_iff.1 hnone))
          rw [hother, Option.getD_some] at hlast
          subst hlast
          rw [List.filter_cons_of_neg (by simp [hskip hother])]
          exact ih hsorted.2 hother
      · rw [if_neg hx] at hlast ⊢
        by_cases hempty : (readPage own n xs).1 = []
        · rw [if_pos (by rw [hempty]; rfl)] at hlast
          cases hlast
        · rw [if_neg (by simpa using hempty)] at hlast ⊢
          rw [List.filter_cons_of_neg (by simp [hskip hlast])]
          exact ih hsorted.2 hlast

/-! ### Progress -/

theorem gapsBelow_of_none {limit before : Nat} {xs : List α} (h : xs.filter own = []) :
    GapsBelow own limit before xs := by
  induction xs generalizing before with
  | nil => trivial
  | cons x xs ih =>
    unfold GapsBelow
    by_cases hx : own x = true
    · rw [List.filter_cons_of_pos hx] at h
      cases h
    · rw [if_neg hx]
      rw [List.filter_cons_of_neg (by simpa using hx)] at h
      exact ih h

/-- A page that finds something has no gap that is too long, so the gaps are those of what is left. -/
theorem gapsBelow_readPage {limit before n : Nat} {xs : List α} (h : (readPage own n xs).1 ≠ [])
    (hle : n + before ≤ limit) :
    GapsBelow own limit before xs ↔ GapsBelow own limit 0 (readPage own n xs).2 := by
  induction n generalizing xs before with
  | zero => exact absurd rfl h
  | succ n ih =>
    cases xs with
    | nil => exact absurd rfl h
    | cons x xs =>
      rw [GapsBelow]
      unfold readPage at h ⊢
      by_cases hx : own x = true
      · rw [if_pos hx, if_pos hx]
        have hbefore : before < limit := by omega
        by_cases hempty : (readPage own n xs).1 = []
        · rw [readPage_stuck hempty]
          exact and_iff_right hbefore
        · rw [ih hempty (by omega)]
          exact and_iff_right hbefore
      · rw [if_neg hx] at h ⊢
        by_cases hempty : (readPage own n xs).1 = []
        · rw [if_pos (by rw [hempty]; rfl)] at h
          exact absurd rfl h
        · rw [if_neg hx, if_neg (by simpa using hempty)]
          exact ih hempty (by omega)

/-- Where the gaps are short enough, a page finds something. -/
theorem readPage_finds {limit before n : Nat} {xs : List α} (h : GapsBelow own limit before xs)
    (hne : xs.filter own ≠ []) (hle : limit ≤ n + before) : (readPage own n xs).1 ≠ [] := by
  induction xs generalizing n before with
  | nil => exact absurd rfl hne
  | cons x xs ih =>
    rw [GapsBelow] at h
    cases n with
    | zero =>
      -- the first own item is too far away already
      exfalso
      have hfar : ∀ (before : Nat) (ys : List α), limit ≤ before → ys.filter own ≠ [] →
          ¬GapsBelow own limit before ys := by
        intro before ys hfar hne hgaps
        induction ys generalizing before with
        | nil => exact hne rfl
        | cons y ys ihy =>
          rw [GapsBelow] at hgaps
          by_cases hy : own y = true
          · rw [if_pos hy] at hgaps
            omega
          · rw [if_neg hy] at hgaps
            rw [List.filter_cons_of_neg (by simpa using hy)] at hne
            exact ihy (before + 1) (by omega) hne hgaps
      exact hfar before (x :: xs) (by omega) hne (by rw [GapsBelow]; exact h)
    | succ n =>
      unfold readPage
      by_cases hx : own x = true
      · rw [if_pos hx]
        exact List.cons_ne_nil _ _
      · rw [if_neg hx] at h ⊢
        rw [List.filter_cons_of_neg (by simpa using hx)] at hne
        have hfound := ih h hne (show limit ≤ n + (before + 1) by omega)
        rw [if_neg (by simpa using hfound)]
        exact hfound

/-- The reader makes progress as long as there are own items, on every page, just when the gaps are short enough. -/
theorem progress_iff_gapsBelow (limit : Nat) (xs : List α) :
    (∀ n, (remaining own limit xs n).filter own ≠ [] → (readPage own limit (remaining own limit xs n)).1 ≠ []) ↔
      GapsBelow own limit 0 xs := by
  constructor
  · -- a page that finds something leaves a shorter list
    induction hlength : xs.length using Nat.strong_induction_on generalizing xs with
    | _ length ih =>
      intro hprogress
      by_cases hnone : xs.filter own = []
      · exact gapsBelow_of_none hnone
      · have hfound := hprogress 0 hnone
        rw [remaining] at hfound
        refine (gapsBelow_readPage hfound (by omega)).2 ?_
        refine ih _ ?_ _ rfl fun n => hprogress (n + 1)
        rw [← hlength]
        exact readPage_length hfound
  · intro hgaps n
    induction n generalizing xs with
    | zero => exact fun hne => readPage_finds hgaps hne (by omega)
    | succ n ih =>
      rw [remaining]
      refine ih _ ?_
      by_cases hempty : (readPage own limit xs).1 = []
      · rw [readPage_stuck hempty]
        exact hgaps
      · exact (gapsBelow_readPage hempty (by omega)).1 hgaps

end Opsia.Paging
