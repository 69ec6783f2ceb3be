import Mathlib.Data.List.Basic

/-!
# Lists joined by a delimiter

A list without the delimiter can be cut off either end of a join (`cancel_left`, `cancel_right`).  Where two lists that
may hold the delimiter stand next to each other, a join can be cut in several places; `SoleCut` says that the parts of
every other cut are refused, and `soleCut_iff` that the two lists are then the only ones with their join.
-/

namespace Opsia.Delimited

variable {α : Type} {d : α}

private theorem cancel_of_le {x y r s : List α} (hy : d ∉ y) (hle : x.length ≤ y.length)
    (h : x ++ d :: r = y ++ d :: s) : x = y ∧ r = s := by
  rcases List.append_eq_append_iff.1 h with ⟨middle, hy', hr⟩ | ⟨middle, hx', hs⟩
  · cases middle with
    | nil =>
      rw [List.append_nil] at hy'
      exact ⟨hy'.symm, (List.cons.inj hr).2⟩
    | cons c middle =>
      have hd : d ∈ y := by
        rw [hy', (List.cons.inj hr).1]
        exact List.mem_append_right _ (List.mem_cons_self ..)
      exact absurd hd hy
  · have hlength : x.length = y.length + middle.length := by rw [hx', List.length_append]
    have hnil : middle = [] := List.length_eq_zero_iff.1 (by omega)
    rw [hnil, List.append_nil] at hx'
    rw [hnil] at hs
    exact ⟨hx', (List.cons.inj hs).2.symm⟩

/-- A list without the delimiter is cut off the front of a join. -/
theorem cancel_left {x y r s : List α} (hx : d ∉ x) (hy : d ∉ y) (h : x ++ d :: r = y ++ d :: s) : x = y ∧ r = s := by
  rcases Nat.le_total x.length y.length with hle | hle
  · exact cancel_of_le hy hle h
  · obtain ⟨hxy, hrs⟩ := cancel_of_le hx hle h.symm
    exact ⟨hxy.symm, hrs.symm⟩

/-- A list without the delimiter is cut off the end of a join. -/
theorem cancel_right {x y r s : List α} (hx : d ∉ x) (hy : d ∉ y) (h : r ++ d :: x = s ++ d :: y) : r = s ∧ x = y := by
  have hreverse := congrArg List.reverse h
  simp only [List.reverse_append, List.reverse_cons, List.append_assoc, List.singleton_append] at hreverse
  have hx' : d ∉ x.reverse := fun hd => hx (List.mem_reverse.1 hd)
  have hy' : d ∉ y.reverse := fun hd => hy (List.mem_reverse.1 hd)
  obtain ⟨hxy, hrs⟩ := cancel_left hx' hy' hreverse
  exact ⟨List.reverse_injective hrs, List.reverse_injective hxy⟩

/-- The parts of a join are what stands before and behind the delimiter at its place. -/
theorem join_eq_iff {a b text : List α} :
    a ++ d :: b = text ↔ text[a.length]? = some d ∧ text.take a.length = a ∧ text.drop (a.length + 1) = b := by
  constructor
  · intro h
    rw [← h]
    refine ⟨?_, List.take_left, ?_⟩
    · rw [List.getElem?_append_right (Nat.le_refl _), Nat.sub_self]
      rfl
    · rw [List.drop_append, List.drop_of_length_le (Nat.le_succ _), Nat.add_sub_cancel_left]
      rfl
  · rintro ⟨hd, htake, hdrop⟩
    obtain ⟨hlt, hget⟩ := List.getElem?_eq_some_iff.1 hd
    calc a ++ d :: b = text.take a.length ++ text[a.length] :: text.drop (a.length + 1) := by rw [htake, hdrop, hget]
      _ = text.take a.length ++ text.drop a.length := by rw [List.drop_eq_getElem_cons hlt]
      _ = text := List.take_append_drop ..

/-- Every delimiter in the join of `a` and `b`, other than the one between them, cuts it into parts of which one is
refused. -/
def SoleCut (d : α) (left right : List α → Prop) (a b : List α) : Prop :=
  ∀ n < (a ++ d :: b).length, n ≠ a.length → (a ++ d :: b)[n]? = some d →
    ¬(left ((a ++ d :: b).take n) ∧ right ((a ++ d :: b).drop (n + 1)))

instance [DecidableEq α] {left right : List α → Prop} [DecidablePred left] [DecidablePred right] (a b : List α) :
    Decidable (SoleCut d left right a b) :=
  inferInstanceAs (Decidable (∀ n < (a ++ d :: b).length, n ≠ a.length → (a ++ d :: b)[n]? = some d →
    ¬(left ((a ++ d :: b).take n) ∧ right ((a ++ d :: b).drop (n + 1)))))

/-- Two lists are the only acceptable ones with their join just when it has no other acceptable cut. -/
theorem soleCut_iff {left right : List α → Prop} {a b : List α} :
    SoleCut d left right a b ↔
      ∀ a' b', left a' → right b' → a' ++ d :: b' = a ++ d :: b → a' = a ∧ b' = b := by
  constructor
  · intro h a' b' hleft hright hjoin
    obtain ⟨hd, htake, hdrop⟩ := join_eq_iff.1 hjoin
    have hlt : a'.length < (a ++ d :: b).length := (List.getElem?_eq_some_iff.1 hd).1
    by_cases hn : a'.length = a.length
    · exact ⟨List.append_inj_left hjoin hn, (List.cons.inj (List.append_inj_right hjoin hn)).2⟩
    · refine absurd ⟨?_, ?_⟩ (h a'.length hlt hn hd)
      · rw [htake]
        exact hleft
      · rw [hdrop]
        exact hright
  · rintro h n hlt hn hd ⟨hleft, hright⟩
    have hlength : ((a ++ d :: b).take n).length = n := List.length_take_of_le (Nat.le_of_lt hlt)
    have hjoin : (a ++ d :: b).take n ++ d :: (a ++ d :: b).drop (n + 1) = a ++ d :: b := by
      refine join_eq_iff.2 ?_
      rw [hlength]
      exact ⟨hd, rfl, rfl⟩
    have heq := (h _ _ hleft hright hjoin).1
    exact hn (hlength.symm.trans (congrArg List.length heq))

end Opsia.Delimited
