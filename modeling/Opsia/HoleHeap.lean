import Mathlib.Data.List.Perm.Basic
import Mathlib.Order.Lattice

/-!
# Binary heaps with a moving hole

A heap is kept in an array.  An entry is put in by moving a hole up from the end, or down from the root, past the
entries that do not belong above or below it, and filling the hole last; in between, the slot of the hole still holds
an old entry.  The loops compare with tests `le` and `lt`; where these agree with a rank of the entries
(`Ranked`), a loop that starts with everything but the hole in order (`UpOrder`, `DownOrder`) ends with a heap in
order (`siftUp_ordered`, `siftDown_ordered`).  Whatever the tests are, it holds the entries that were there with the
hole filled (`siftUp_perm`, `siftDown_perm`).
-/

namespace Opsia.HoleHeap

def parent (index : ℕ) : ℕ := (index - 1) / 2

section

variable {α : Type*} (le lt : α → α → Bool)

/-- Moves the hole at `index` up to where the node belongs, and fills it. -/
def siftUp (heap : List α) (node : α) (index : ℕ) : List α :=
  if 0 < index then
    let above := heap.getD (parent index) node
    if le above node then heap.set index node else siftUp (heap.set index above) node (parent index)
  else heap.set index node
termination_by index
decreasing_by unfold parent; omega

/-- The right child if it is there and less than the left one, else the left child. -/
def lesserChild (heap : List α) (node : α) (index : ℕ) : ℕ :=
  let left := index * 2 + 1
  let right := left + 1
  if right < heap.length ∧ lt (heap.getD right node) (heap.getD left node) then right else left

/-- Moves the hole at `index` down to where the node belongs, and fills it. -/
def siftDown (heap : List α) (node : α) (index : ℕ) : List α :=
  if index * 2 + 1 < heap.length then
    let child := lesserChild lt heap node index
    let below := heap.getD child node
    if le node below then heap.set index node else siftDown (heap.set index below) node child
  else heap.set index node
termination_by heap.length - index
decreasing_by
  rw [List.length_set]
  unfold lesserChild
  dsimp only
  split <;> omega

end

section

variable {α : Type*} {le lt : α → α → Bool} {heap : List α} {node : α} {index : ℕ}

/-! ### Places -/

theorem parent_lt (h : 0 < index) : parent index < index := by
  unfold parent
  omega

theorem parent_eq_iff {child : ℕ} (h : 0 < child) :
    parent child = index ↔ child = index * 2 + 1 ∨ child = index * 2 + 2 := by
  unfold parent
  omega

theorem lesserChild_cases (lt : α → α → Bool) (heap : List α) (node : α) (index : ℕ) :
    lesserChild lt heap node index = index * 2 + 1 ∨
      lesserChild lt heap node index = index * 2 + 2 ∧ index * 2 + 2 < heap.length := by
  unfold lesserChild
  dsimp only
  split
  · rename_i h
    exact .inr ⟨rfl, h.1⟩
  · exact .inl rfl

theorem lesserChild_lt_length (h : index * 2 + 1 < heap.length) : lesserChild lt heap node index < heap.length := by
  rcases lesserChild_cases lt heap node index with hc | ⟨hc, hlt⟩ <;> omega

theorem lesserChild_pos : 0 < lesserChild lt heap node index := by
  rcases lesserChild_cases lt heap node index with hc | ⟨hc, -⟩ <;> omega

theorem parent_lesserChild : parent (lesserChild lt heap node index) = index := by
  rw [parent_eq_iff lesserChild_pos]
  rcases lesserChild_cases lt heap node index with hc | ⟨hc, -⟩
  · exact .inl hc
  · exact .inr hc

/-! ### What the heap holds -/

/-- The hole moves from `i` to `j`: once it is filled, the heap holds the same entries. -/
private theorem set_set_perm {i j : ℕ} {above : α} (hi : i < heap.length) (hne : j ≠ i) (hj : heap[j]? = some above) :
    ((heap.set i above).set j node).Perm (heap.set i node) := by
  obtain ⟨hlt, habove⟩ := List.getElem?_eq_some_iff.1 hj
  have hlt' : j < (heap.set i above).length := by rwa [List.length_set]
  have hget : (heap.set i above)[j] = above := by rw [List.getElem_set_ne (Ne.symm hne), habove]
  have hmoved : (above :: (heap.set i above).eraseIdx j).Perm (above :: heap.eraseIdx i) :=
    calc above :: (heap.set i above).eraseIdx j
      _ = (heap.set i above)[j] :: (heap.set i above).eraseIdx j := by rw [hget]
      _ |>.Perm (heap.set i above) := List.getElem_cons_eraseIdx_perm hlt'
      _ |>.Perm (above :: heap.eraseIdx i) := List.set_perm_cons_eraseIdx hi above
  calc (heap.set i above).set j node
    _ |>.Perm (node :: (heap.set i above).eraseIdx j) := List.set_perm_cons_eraseIdx hlt' node
    _ |>.Perm (node :: heap.eraseIdx i) := (hmoved.cons_inv).cons node
    _ |>.Perm (heap.set i node) := (List.set_perm_cons_eraseIdx hi node).symm

private theorem getElem?_getD {i : ℕ} (h : i < heap.length) : heap[i]? = some (heap.getD i node) := by
  rw [List.getD_eq_getElem?_getD, List.getElem?_eq_getElem h]
  rfl

/-- The heap holds what it held with the hole filled. -/
theorem siftUp_perm (h : index < heap.length) : (siftUp le heap node index).Perm (heap.set index node) := by
  fun_induction siftUp le heap node index with
  | case1 heap index hpos above hle => exact List.Perm.refl _
  | case2 heap index hpos above hle ih =>
    have hparent := parent_lt hpos
    exact (ih (by rw [List.length_set]; omega)).trans (set_set_perm h (by omega) (getElem?_getD (by omega)))
  | case3 heap index hpos => exact List.Perm.refl _

/-- The heap holds what it held with the hole filled. -/
theorem siftDown_perm (h : index < heap.length) : (siftDown le lt heap node index).Perm (heap.set index node) := by
  fun_induction siftDown le lt heap node index with
  | case1 heap index hchild child below hle => exact List.Perm.refl _
  | case2 heap index hchild child below hle ih =>
    have hlt : child < heap.length := lesserChild_lt_length hchild
    have hne : child ≠ index := by
      have hp : parent child = index := parent_lesserChild
      have hpos : 0 < child := lesserChild_pos
      have := parent_lt hpos
      omega
    exact (ih (by rwa [List.length_set])).trans (set_set_perm h hne (getElem?_getD hlt))
  | case3 heap index hchild => exact List.Perm.refl _

/-! ### The order -/

variable {K : Type*} [LinearOrder K] (rank : α → K)

/-- The entry at `i` does not rank below the one at its parent. -/
def OrderedAt (heap : List α) (i : ℕ) : Prop :=
  ∀ p c, heap[parent i]? = some p → heap[i]? = some c → rank p ≤ rank c

/-- No entry ranks below its parent. -/
def Ordered (heap : List α) : Prop := ∀ i, 0 < i → OrderedAt rank heap i

/-- On these entries the tests compare the ranks. -/
def Ranked (le lt : α → α → Bool) (entries : List α) : Prop :=
  ∀ a ∈ entries, ∀ b ∈ entries, (le a b = true ↔ rank a ≤ rank b) ∧ (lt a b = true ↔ rank a < rank b)

/-- The order that a hole on its way up leaves: all is in order that does not touch the hole, the hole's children do
not rank below its parent, nor below the node. -/
structure UpOrder (heap : List α) (node : α) (hole : ℕ) : Prop where
  except : ∀ i, 0 < i → i ≠ hole → parent i ≠ hole → OrderedAt rank heap i
  grand : 0 < hole → ∀ i, 0 < i → parent i = hole → ∀ p c, heap[parent hole]? = some p → heap[i]? = some c →
    rank p ≤ rank c
  below : ∀ i, 0 < i → parent i = hole → ∀ c, heap[i]? = some c → rank node ≤ rank c

/-- The order that a hole on its way down leaves: all is in order that does not touch the hole, the hole's children do
not rank below its parent, nor does the node. -/
structure DownOrder (heap : List α) (node : α) (hole : ℕ) : Prop where
  except : ∀ i, 0 < i → i ≠ hole → parent i ≠ hole → OrderedAt rank heap i
  grand : 0 < hole → ∀ i, 0 < i → parent i = hole → ∀ p c, heap[parent hole]? = some p → heap[i]? = some c →
    rank p ≤ rank c
  above : 0 < hole → ∀ p, heap[parent hole]? = some p → rank p ≤ rank node

variable {rank}

theorem ordered_nil : Ordered rank ([] : List α) := fun i _ p c _ hc => by simp at hc

/-- The root of a heap in order has the least rank. -/
theorem Ordered.root_le (ho : Ordered rank heap) {root : α} (hroot : heap[0]? = some root) {i : ℕ} {entry : α}
    (hentry : heap[i]? = some entry) : rank root ≤ rank entry := by
  induction i using Nat.strongRecOn generalizing entry with
  | ind i ih =>
    rcases Nat.eq_zero_or_pos i with rfl | hpos
    · rw [hroot] at hentry
      cases hentry
      exact le_rfl
    · have hlt := parent_lt hpos
      obtain ⟨hi, -⟩ := List.getElem?_eq_some_iff.1 hentry
      have hi' : parent i < heap.length := by omega
      have hparent : heap[parent i]? = some (heap[parent i]) := List.getElem?_eq_getElem hi'
      exact (ih _ hlt hparent).trans (ho i hpos _ _ hparent hentry)

private theorem getElem?_set_other {i j : ℕ} (h : i ≠ j) (x : α) : (heap.set j x)[i]? = heap[i]? :=
  List.getElem?_set_ne (Ne.symm h)

private theorem getElem?_set_here {i : ℕ} {x y : α} (h : (heap.set i x)[i]? = some y) : y = x := by
  rw [List.getElem?_set_self'] at h
  cases hx : heap[i]? with
  | none =>
    rw [hx] at h
    cases h
  | some z =>
    rw [hx] at h
    exact (Option.some.inj h).symm

/-- Filling the hole ends in a heap in order. -/
private theorem fill (hexcept : ∀ i, 0 < i → i ≠ index → parent i ≠ index → OrderedAt rank heap i)
    (habove : 0 < index → ∀ p, heap[parent index]? = some p → rank p ≤ rank node)
    (hbelow : ∀ i, 0 < i → parent i = index → ∀ c, heap[i]? = some c → rank node ≤ rank c) :
    Ordered rank (heap.set index node) := by
  intro i hpos p c hp hc
  have hne := (parent_lt hpos).ne
  by_cases hi : i = index
  · subst hi
    rw [getElem?_set_here hc]
    rw [getElem?_set_other hne] at hp
    exact habove hpos p hp
  · rw [getElem?_set_other hi] at hc
    by_cases hpi : parent i = index
    · rw [hpi] at hp
      rw [getElem?_set_here hp]
      exact hbelow i hpos hpi c hc
    · rw [getElem?_set_other hpi] at hp
      exact hexcept i hpos hi hpi p c hp hc

/-- The entry above comes down into the hole. -/
private theorem UpOrder.move (o : UpOrder rank heap node index) (hpos : 0 < index) {above : α}
    (habove : heap[parent index]? = some above) (hlt : rank node < rank above) :
    UpOrder rank (heap.set index above) node (parent index) := by
  have hparent := parent_lt hpos
  -- the children of the parent other than the hole, and the parent itself, are as before
  have hsibling : ∀ i, 0 < i → parent i = parent index → i ≠ index → ∀ c, heap[i]? = some c →
      rank above ≤ rank c := fun i hi hpi hne c hc =>
    o.except i hi hne (by omega) above c (by rw [hpi]; exact habove) hc
  refine ⟨fun i hi hne hpi p c hp hc => ?_, fun hq i hi hpi p c hp hc => ?_, fun i hi hpi c hc => ?_⟩
  · have hii : i ≠ index := by
      rintro rfl
      exact hpi rfl
    rw [getElem?_set_other hii] at hc
    by_cases hph : parent i = index
    · rw [hph] at hp
      rw [getElem?_set_here hp]
      exact o.grand hpos i hi hph above c habove hc
    · rw [getElem?_set_other hph] at hp
      exact o.except i hi hii hph p c hp hc
  · have hgrand := parent_lt hq
    rw [getElem?_set_other (by omega)] at hp
    have hup : rank p ≤ rank above := o.except (parent index) hq (by omega) (by omega) p above hp habove
    by_cases hii : i = index
    · subst hii
      rw [getElem?_set_here hc]
      exact hup
    · rw [getElem?_set_other hii] at hc
      exact hup.trans (hsibling i hi hpi hii c hc)
  · by_cases hii : i = index
    · subst hii
      rw [getElem?_set_here hc]
      exact hlt.le
    · rw [getElem?_set_other hii] at hc
      exact hlt.le.trans (hsibling i hi hpi hii c hc)

/-- The entries that the loop compares are those of the heap with the hole filled. -/
private theorem Ranked.of_move {i j : ℕ} {above : α} (hr : Ranked rank le lt (node :: heap))
    (hj : heap[j]? = some above) :
    Ranked rank le lt (node :: heap.set i above) := by
  have hsub : ∀ a ∈ node :: heap.set i above, a ∈ node :: heap := by
    intro a ha
    rcases List.mem_cons.1 ha with rfl | ha
    · exact List.mem_cons_self
    · rcases List.mem_or_eq_of_mem_set ha with ha | rfl
      · exact List.mem_cons_of_mem _ ha
      · exact List.mem_cons_of_mem _ (List.mem_of_getElem? hj)
  exact fun a ha b hb => hr a (hsub a ha) b (hsub b hb)

/-- A hole that moves up from an order that allows it ends in a heap in order. -/
theorem siftUp_ordered (hr : Ranked rank le lt (node :: heap)) (h : index < heap.length)
    (o : UpOrder rank heap node index) : Ordered rank (siftUp le heap node index) := by
  fun_induction siftUp le heap node index with
  | case1 heap index hpos above hle =>
    have habove : heap[parent index]? = some above := getElem?_getD ((parent_lt hpos).trans h)
    have hmem : above ∈ node :: heap := List.mem_cons_of_mem _ (List.mem_of_getElem? habove)
    refine fill o.except (fun _ p hp => ?_) o.below
    rw [habove] at hp
    cases hp
    exact (hr _ hmem _ List.mem_cons_self).1.1 hle
  | case2 heap index hpos above hle ih =>
    have habove : heap[parent index]? = some above := getElem?_getD ((parent_lt hpos).trans h)
    have hmem : above ∈ node :: heap := List.mem_cons_of_mem _ (List.mem_of_getElem? habove)
    have hlt : rank node < rank above := by
      rw [(hr _ hmem _ List.mem_cons_self).1] at hle
      exact not_le.1 hle
    refine ih (hr.of_move habove) ?_ (o.move hpos habove hlt)
    rw [List.length_set]
    exact (parent_lt hpos).trans h
  | case3 heap index hpos =>
    exact fill o.except (fun hpos' => absurd hpos' hpos) o.below

/-- No child ranks below the one that the loop takes. -/
private theorem lesserChild_le (hr : Ranked rank le lt (node :: heap)) (hchild : index * 2 + 1 < heap.length) {below : α}
    (hbelow : heap[lesserChild lt heap node index]? = some below) {i : ℕ} (hi : 0 < i) (hpi : parent i = index) {c : α}
    (hc : heap[i]? = some c) : rank below ≤ rank c := by
  have hleft : heap[index * 2 + 1]? = some (heap.getD (index * 2 + 1) node) := getElem?_getD hchild
  have hin : ∀ {k : ℕ} {x : α}, heap[k]? = some x → x ∈ node :: heap :=
    fun hx => List.mem_cons_of_mem _ (List.mem_of_getElem? hx)
  unfold lesserChild at hbelow
  dsimp only at hbelow
  split at hbelow
  · rename_i hright
    have hget : heap[index * 2 + 1 + 1]? = some (heap.getD (index * 2 + 1 + 1) node) := getElem?_getD hright.1
    have hlt := (hr _ (hin hget) _ (hin hleft)).2.1 hright.2
    rw [hget] at hbelow
    cases hbelow
    rcases (parent_eq_iff hi).1 hpi with rfl | rfl
    · rw [hleft] at hc
      cases hc
      exact hlt.le
    · rw [hget] at hc
      cases hc
      exact le_rfl
  · rename_i hright
    rw [hleft] at hbelow
    cases hbelow
    rcases (parent_eq_iff hi).1 hpi with rfl | rfl
    · rw [hleft] at hc
      cases hc
      exact le_rfl
    · obtain ⟨hlen, -⟩ := List.getElem?_eq_some_iff.1 hc
      have hget : heap[index * 2 + 1 + 1]? = some (heap.getD (index * 2 + 1 + 1) node) := getElem?_getD hlen
      have hnot : ¬ rank (heap.getD (index * 2 + 1 + 1) node) < rank (heap.getD (index * 2 + 1) node) :=
        fun hlt => hright ⟨hlen, (hr _ (hin hget) _ (hin hleft)).2.2 hlt⟩
      rw [hget] at hc
      cases hc
      exact not_lt.1 hnot

/-- The lesser child comes up into the hole. -/
private theorem DownOrder.move (o : DownOrder rank heap node index) {child : ℕ} {below : α} (hpos : 0 < child)
    (hparent : parent child = index) (hbelow : heap[child]? = some below) (hlt : rank below < rank node)
    (hleast : ∀ i, 0 < i → parent i = index → ∀ c, heap[i]? = some c → rank below ≤ rank c) :
    DownOrder rank (heap.set index below) node child := by
  have hgt := parent_lt hpos
  refine ⟨fun i hi hne hpi p c hp hc => ?_, fun _ i hi hpi p c hp hc => ?_, fun _ p hp => ?_⟩
  · have hne' := (parent_lt hi).ne
    by_cases hii : i = index
    · subst hii
      rw [getElem?_set_here hc]
      rw [getElem?_set_other hne'] at hp
      exact o.grand hi child hpos hparent p below hp hbelow
    · rw [getElem?_set_other hii] at hc
      by_cases hph : parent i = index
      · rw [hph] at hp
        rw [getElem?_set_here hp]
        exact hleast i hi hph c hc
      · rw [getElem?_set_other hph] at hp
        exact o.except i hi hii hph p c hp hc
  · have hi' := parent_lt hi
    rw [hparent] at hp
    rw [getElem?_set_here hp]
    rw [getElem?_set_other (by omega)] at hc
    exact o.except i hi (by omega) (by omega) below c (by rw [hpi]; exact hbelow) hc
  · rw [hparent] at hp
    rw [getElem?_set_here hp]
    exact hlt.le

/-- A hole that moves down from an order that allows it ends in a heap in order. -/
theorem siftDown_ordered (hr : Ranked rank le lt (node :: heap)) (o : DownOrder rank heap node index) :
    Ordered rank (siftDown le lt heap node index) := by
  fun_induction siftDown le lt heap node index with
  | case1 heap index hchild child below hle =>
    have hbelow : heap[child]? = some below := getElem?_getD (lesserChild_lt_length hchild)
    have hmem : below ∈ node :: heap := List.mem_cons_of_mem _ (List.mem_of_getElem? hbelow)
    refine fill o.except o.above fun i hi hpi c hc => ?_
    exact ((hr _ List.mem_cons_self _ hmem).1.1 hle).trans (lesserChild_le hr hchild hbelow hi hpi hc)
  | case2 heap index hchild child below hle ih =>
    have hbelow : heap[child]? = some below := getElem?_getD (lesserChild_lt_length hchild)
    have hmem : below ∈ node :: heap := List.mem_cons_of_mem _ (List.mem_of_getElem? hbelow)
    have hlt : rank below < rank node := by
      rw [(hr _ List.mem_cons_self _ hmem).1] at hle
      exact not_le.1 hle
    refine ih (hr.of_move hbelow) (o.move lesserChild_pos parent_lesserChild hbelow hlt ?_)
    exact fun i hi hpi c hc => lesserChild_le hr hchild hbelow hi hpi hc
  | case3 heap index hchild =>
    refine fill o.except o.above fun i hi hpi c hc => ?_
    obtain ⟨hlen, -⟩ := List.getElem?_eq_some_iff.1 hc
    rcases (parent_eq_iff hi).1 hpi with rfl | rfl <;> omega

end

end Opsia.HoleHeap
