import Mathlib.Data.Multiset.AddSub
import Opsia.BotBrain.ExactNumber
import Opsia.HoleHeap

/-!
# The open list of the path search

The open list is a binary heap on `f`, its functions are the loops of `HoleHeap` on an array one longer or one shorter.
What a call leaves in the list holds for any numbers (`pushOpenNode_perm`, `popOpenNode_perm`), its order where the
comparisons rank the nodes (`pushOpenNode_ordered`, `popOpenNode_ordered`, `popOpenNode_le`).  A run of calls is a heap
as long as no `f` is the value that is not a number, which no comparison ranks (`openListRun_spec`).
-/

namespace Opsia

open HoleHeap

/-- The comparisons `<` and `<=` of a type of numbers. -/
class Comparisons (N : Type) where
  lt : N → N → Bool
  le : N → N → Bool

instance : Comparisons ExactNumber := ⟨ExactNumber.lt, ExactNumber.le⟩

structure OpenPathNode (N : Type) where
  x : ℤ
  y : ℤ
  key : String
  g : N
  f : N
deriving DecidableEq

section

variable {N : Type} [Comparisons N]

namespace OpenPathNode

def le (a b : OpenPathNode N) : Bool := Comparisons.le a.f b.f

def lt (a b : OpenPathNode N) : Bool := Comparisons.lt a.f b.f

end OpenPathNode

def pushOpenNode (heap : List (OpenPathNode N)) (node : OpenPathNode N) : List (OpenPathNode N) :=
  siftUp OpenPathNode.le (heap ++ [node]) node heap.length

/-- The first node, if there is one, and the list after the call. -/
def popOpenNode (heap : List (OpenPathNode N)) : Option (OpenPathNode N) × List (OpenPathNode N) :=
  match heap[0]?, heap.getLast? with
  | some first, some last =>
    let rest := heap.dropLast
    if rest.length = 0 then (some first, rest) else (some first, siftDown OpenPathNode.le OpenPathNode.lt rest last 0)
  | _, _ => (none, heap)

/-! ### What a call does -/

variable {heap : List (OpenPathNode N)} {node : OpenPathNode N}

theorem pushOpenNode_perm : (pushOpenNode heap node).Perm (node :: heap) := by
  have hlt : heap.length < (heap ++ [node]).length := by simp
  refine (siftUp_perm hlt).trans ?_
  rw [List.set_append_right _ _ le_rfl, Nat.sub_self, List.set_cons_zero]
  exact List.perm_append_singleton node heap

@[simp] theorem popOpenNode_nil : popOpenNode ([] : List (OpenPathNode N)) = (none, []) := rfl

/-- A list that is not empty gives its first node, and keeps the others with the last one in the hole. -/
private theorem popOpenNode_cons (first : OpenPathNode N) (middle : List (OpenPathNode N)) :
    popOpenNode (first :: middle) = (some first, match middle.getLast? with
      | none => []
      | some last => siftDown OpenPathNode.le OpenPathNode.lt (first :: middle.dropLast) last 0) := by
  cases middle with
  | nil => rfl
  | cons second middle =>
    have hlast : (first :: second :: middle).getLast? = (second :: middle).getLast? := by
      rw [List.getLast?_cons_cons]
    have hsome : (second :: middle).getLast? = some ((second :: middle).getLast (by simp)) :=
      List.getLast?_eq_some_getLast _
    unfold popOpenNode
    rw [hlast, hsome]
    rfl

theorem popOpenNode_fst : (popOpenNode heap).1 = heap[0]? := by
  cases heap with
  | nil => rfl
  | cons first middle => rw [popOpenNode_cons]; rfl

theorem popOpenNode_perm (h : (popOpenNode heap).1 = some node) : (node :: (popOpenNode heap).2).Perm heap := by
  cases heap with
  | nil => cases h
  | cons first middle =>
    rw [popOpenNode_cons] at h ⊢
    cases h
    refine List.Perm.cons _ ?_
    cases hlast : middle.getLast? with
    | none => rw [List.getLast?_eq_none_iff.1 hlast]
    | some last =>
      refine (siftDown_perm (by simp)).trans ?_
      rw [List.set_cons_zero]
      calc last :: middle.dropLast
        _ |>.Perm (middle.dropLast ++ [last]) := (List.perm_append_singleton last middle.dropLast).symm
        _ |>.Perm middle := by rw [List.dropLast_append_getLast? last hlast]

theorem popOpenNode_none (h : (popOpenNode heap).1 = none) : heap = [] ∧ (popOpenNode heap).2 = [] := by
  rw [popOpenNode_fst, List.getElem?_eq_none_iff] at h
  have hnil := List.length_eq_zero_iff.1 (Nat.le_zero.1 h)
  rw [hnil]
  exact ⟨rfl, rfl⟩

/-! ### The order -/

variable {K : Type*} [LinearOrder K] {rank : OpenPathNode N → K}

theorem pushOpenNode_ordered (hr : Ranked rank OpenPathNode.le OpenPathNode.lt (node :: heap))
    (ho : Ordered rank heap) : Ordered rank (pushOpenNode heap node) := by
  have hold : ∀ {i : ℕ} {n : OpenPathNode N}, i ≠ heap.length → (heap ++ [node])[i]? = some n → heap[i]? = some n := by
    intro i n hne hn
    rcases Nat.lt_or_ge i heap.length with hlt | hge
    · rwa [List.getElem?_append_left hlt] at hn
    · rw [List.getElem?_eq_none (by simp; omega)] at hn
      cases hn
  -- the hole is the last place, which has no children
  have hleaf : ∀ {i : ℕ} {n : OpenPathNode N}, 0 < i → parent i = heap.length → (heap ++ [node])[i]? ≠ some n := by
    intro i n hi hpi hn
    obtain ⟨hlen, -⟩ := List.getElem?_eq_some_iff.1 hn
    have := parent_lt hi
    rw [List.length_append, List.length_singleton] at hlen
    omega
  have hranked : Ranked rank OpenPathNode.le OpenPathNode.lt (node :: (heap ++ [node])) := by
    have hmem : ∀ a ∈ node :: (heap ++ [node]), a ∈ node :: heap := by
      intro a ha
      simp only [List.mem_cons, List.mem_append, List.not_mem_nil, or_false] at ha ⊢
      tauto
    exact fun a ha b hb => hr a (hmem a ha) b (hmem b hb)
  refine siftUp_ordered hranked (by simp) ⟨fun i hi hne hpi p c hp hc => ?_, fun _ i hi hpi p c _ hc => ?_,
    fun i hi hpi c hc => ?_⟩
  · exact ho i hi p c (hold hpi hp) (hold hne hc)
  · exact absurd hc (hleaf hi hpi)
  · exact absurd hc (hleaf hi hpi)

theorem popOpenNode_ordered (hr : Ranked rank OpenPathNode.le OpenPathNode.lt heap) (ho : Ordered rank heap) :
    Ordered rank (popOpenNode heap).2 := by
  cases heap with
  | nil => exact ho
  | cons first middle =>
    rw [popOpenNode_cons]
    cases hlast : middle.getLast? with
    | none => exact ordered_nil
    | some last =>
      have hsplit := List.dropLast_append_getLast? last hlast
      have hold : ∀ {i : ℕ} {n : OpenPathNode N}, (first :: middle.dropLast)[i]? = some n →
          (first :: middle)[i]? = some n := by
        intro i n hn
        obtain ⟨hlen, -⟩ := List.getElem?_eq_some_iff.1 hn
        rw [← hsplit, ← List.cons_append, List.getElem?_append_left hlen]
        exact hn
      have hmem : ∀ a ∈ last :: first :: middle.dropLast, a ∈ first :: middle := by
        intro a ha
        rw [← hsplit]
        simp only [List.mem_cons, List.mem_append, List.not_mem_nil, or_false] at ha ⊢
        tauto
      refine siftDown_ordered (fun a ha b hb => hr a (hmem a ha) b (hmem b hb))
        ⟨fun i hi _ _ p c hp hc => ho i hi p c (hold hp) (hold hc), fun h0 => absurd h0 (lt_irrefl 0),
          fun h0 => absurd h0 (lt_irrefl 0)⟩

theorem popOpenNode_le (ho : Ordered rank heap) (h : (popOpenNode heap).1 = some node) {other : OpenPathNode N}
    (hother : other ∈ heap) : rank node ≤ rank other := by
  rw [popOpenNode_fst] at h
  obtain ⟨i, hi⟩ := List.getElem?_of_mem hother
  exact ho.root_le h hi

end

/-! ### Runs of calls -/

namespace ExactNumber

/-- The place of a number in the order; that of the value that is not a number is of no account. -/
def place : ExactNumber → WithBot (WithTop ℚ)
  | finite q => ((q : WithTop ℚ) : WithBot (WithTop ℚ))
  | infinity neg => if neg then ⊥ else ((⊤ : WithTop ℚ) : WithBot (WithTop ℚ))
  | nan => ⊥

theorem le_iff_place {u v : ExactNumber} (hu : u ≠ nan) (hv : v ≠ nan) : u.le v = true ↔ u.place ≤ v.place := by
  cases u with
  | nan => exact absurd rfl hu
  | finite p =>
    cases v with
    | nan => exact absurd rfl hv
    | finite q => simp [le, place]
    | infinity n => cases n <;> simp [le, place]
  | infinity m =>
    cases v with
    | nan => exact absurd rfl hv
    | finite q => cases m <;> simp [le, place]
    | infinity n => cases m <;> cases n <;> simp [le, place]

private theorem lt_iff_not_le {u v : ExactNumber} (hu : u ≠ nan) (hv : v ≠ nan) : u.lt v = true ↔ ¬ v.le u = true := by
  cases u with
  | nan => exact absurd rfl hu
  | finite p =>
    cases v with
    | nan => exact absurd rfl hv
    | finite q => simp [lt, le]
    | infinity n => simp [lt, le]
  | infinity m =>
    cases v with
    | nan => exact absurd rfl hv
    | finite q => simp [lt, le]
    | infinity n => cases m <;> simp [lt, le]

theorem lt_iff_place {u v : ExactNumber} (hu : u ≠ nan) (hv : v ≠ nan) : u.lt v = true ↔ u.place < v.place := by
  rw [lt_iff_not_le hu hv, le_iff_place hv hu, not_le]

end ExactNumber

inductive OpenListCall
  | push (node : OpenPathNode ExactNumber)
  | pop

/-- The array, the nodes that were pushed so far and those that were popped. -/
structure OpenListRun where
  heap : List (OpenPathNode ExactNumber)
  pushed : List (OpenPathNode ExactNumber)
  popped : List (OpenPathNode ExactNumber)

namespace OpenListRun

def call (r : OpenListRun) : OpenListCall → OpenListRun
  | .push node => { r with heap := pushOpenNode r.heap node, pushed := r.pushed ++ [node] }
  | .pop =>
    { r with heap := (popOpenNode r.heap).2, popped := r.popped ++ (popOpenNode r.heap).1.toList }

/-- The array keeps the order of a heap on `f`. -/
def InOrder (r : OpenListRun) : Prop :=
  ∀ i p c, 0 < i → r.heap[(i - 1) / 2]? = some p → r.heap[i]? = some c → p.f.le c.f = true

end OpenListRun

/-- A run of calls that starts from an empty list. -/
def openListRun (calls : List OpenListCall) : OpenListRun := calls.foldl OpenListRun.call ⟨[], [], []⟩

private def placeOf (node : OpenPathNode ExactNumber) : WithBot (WithTop ℚ) := node.f.place

private theorem ranked_of_ne_nan {nodes : List (OpenPathNode ExactNumber)} (h : ∀ node ∈ nodes, node.f ≠ .nan) :
    Ranked placeOf OpenPathNode.le OpenPathNode.lt nodes := fun a ha b hb =>
  ⟨ExactNumber.le_iff_place (h a ha) (h b hb), ExactNumber.lt_iff_place (h a ha) (h b hb)⟩

namespace OpenListRun

/-- What is in the list and what was popped is what was pushed. -/
private def Balanced (r : OpenListRun) : Prop :=
  (r.heap : Multiset (OpenPathNode ExactNumber)) + r.popped = r.pushed

private theorem Balanced.call {r : OpenListRun} (h : r.Balanced) (c : OpenListCall) : (r.call c).Balanced := by
  unfold Balanced at h ⊢
  cases c with
  | push node =>
    have hheap : (pushOpenNode r.heap node : Multiset (OpenPathNode ExactNumber)) = node ::ₘ r.heap :=
      Multiset.coe_eq_coe.2 pushOpenNode_perm
    have hpushed : ((r.pushed ++ [node] : List _) : Multiset (OpenPathNode ExactNumber)) = node ::ₘ r.pushed :=
      Multiset.coe_eq_coe.2 (List.perm_append_singleton node r.pushed)
    calc (pushOpenNode r.heap node : Multiset (OpenPathNode ExactNumber)) + r.popped
      _ = node ::ₘ (r.heap + r.popped) := by rw [hheap, Multiset.cons_add]
      _ = (r.pushed ++ [node] : List _) := by rw [h, hpushed]
  | pop =>
    cases hpop : (popOpenNode r.heap).1 with
    | none =>
      obtain ⟨hnil, hrest⟩ := popOpenNode_none hpop
      unfold OpenListRun.call
      dsimp only
      rw [hpop, hrest, Option.toList_none, List.append_nil, ← h, hnil]
    | some node =>
      have hheap : node ::ₘ ((popOpenNode r.heap).2 : Multiset (OpenPathNode ExactNumber)) = r.heap :=
        Multiset.coe_eq_coe.2 (popOpenNode_perm hpop)
      have hpopped : ((r.popped ++ [node] : List _) : Multiset (OpenPathNode ExactNumber)) = node ::ₘ r.popped :=
        Multiset.coe_eq_coe.2 (List.perm_append_singleton node r.popped)
      unfold OpenListRun.call
      dsimp only
      rw [hpop, Option.toList_some, hpopped, Multiset.add_cons, ← Multiset.cons_add, hheap, h]

/-- Every node in the list has a number for `f`, and the list is in order. -/
private structure Kept (r : OpenListRun) : Prop where
  numbers : ∀ node ∈ r.heap, node.f ≠ .nan
  ordered : Ordered placeOf r.heap

private theorem Kept.call {r : OpenListRun} (h : r.Kept) (c : OpenListCall)
    (hc : ∀ node, c = .push node → node.f ≠ .nan) : (r.call c).Kept := by
  cases c with
  | push node =>
    have hall : ∀ n ∈ node :: r.heap, n.f ≠ .nan := by
      intro n hn
      rcases List.mem_cons.1 hn with rfl | hn
      · exact hc n rfl
      · exact h.numbers n hn
    exact ⟨fun n hn => hall n (pushOpenNode_perm.mem_iff.1 hn), pushOpenNode_ordered (ranked_of_ne_nan hall) h.ordered⟩
  | pop =>
    refine ⟨fun n hn => ?_, popOpenNode_ordered (ranked_of_ne_nan h.numbers) h.ordered⟩
    cases hpop : (popOpenNode r.heap).1 with
    | none =>
      rw [show (r.call .pop).heap = (popOpenNode r.heap).2 from rfl, (popOpenNode_none hpop).2] at hn
      cases hn
    | some node => exact h.numbers n ((popOpenNode_perm hpop).mem_iff.1 (List.mem_cons_of_mem _ hn))

end OpenListRun

private theorem foldl_balanced (calls : List OpenListCall) {r : OpenListRun} (h : r.Balanced) :
    (calls.foldl OpenListRun.call r).Balanced := by
  induction calls generalizing r with
  | nil => exact h
  | cons c calls ih => exact ih (h.call c)

private theorem foldl_kept (calls : List OpenListCall) {r : OpenListRun} (h : r.Kept)
    (hcalls : ∀ node, .push node ∈ calls → node.f ≠ .nan) : (calls.foldl OpenListRun.call r).Kept := by
  induction calls generalizing r with
  | nil => exact h
  | cons c calls ih =>
    refine ih (h.call c fun node hc => hcalls node ?_) fun node hn => hcalls node (List.mem_cons_of_mem _ hn)
    rw [hc]
    exact List.mem_cons_self

/-- In every run from an empty list, the list holds what was pushed and not popped, and a pop gives nothing exactly when
it is empty.  Where every `f` is a number, the list is in order and a pop gives a node of least `f`. -/
theorem openListRun_spec (calls : List OpenListCall) :
    ((openListRun calls).heap : Multiset (OpenPathNode ExactNumber)) + (openListRun calls).popped =
        (openListRun calls).pushed ∧
      ((popOpenNode (openListRun calls).heap).1 = none ↔ (openListRun calls).heap = []) ∧
      (∀ node, (popOpenNode (openListRun calls).heap).1 = some node → node ∈ (openListRun calls).heap) ∧
      ((∀ node, .push node ∈ calls → node.f ≠ .nan) →
        (openListRun calls).InOrder ∧
          ∀ node, (popOpenNode (openListRun calls).heap).1 = some node →
            ∀ other ∈ (openListRun calls).heap, node.f.le other.f = true) := by
  refine ⟨foldl_balanced calls (r := ⟨[], [], []⟩) rfl, ⟨fun h => (popOpenNode_none h).1, fun h => by rw [h]; rfl⟩,
    fun node h => (popOpenNode_perm h).mem_iff.1 List.mem_cons_self, fun hcalls => ?_⟩
  have hkept : (openListRun calls).Kept :=
    foldl_kept calls (r := ⟨[], [], []⟩) ⟨fun _ hn => absurd hn List.not_mem_nil, ordered_nil⟩ hcalls
  refine ⟨fun i p c hi hp hc => ?_, fun node hpop other hother => ?_⟩
  · have hpn := hkept.numbers p (List.mem_of_getElem? hp)
    have hcn := hkept.numbers c (List.mem_of_getElem? hc)
    exact (ExactNumber.le_iff_place hpn hcn).2 (hkept.ordered i hi p c hp hc)
  · have hnode : node ∈ (openListRun calls).heap := (popOpenNode_perm hpop).mem_iff.1 List.mem_cons_self
    exact (ExactNumber.le_iff_place (hkept.numbers node hnode) (hkept.numbers other hother)).2
      (popOpenNode_le hkept.ordered hpop hother)

/-- A node at the origin. -/
private def originNode (f : ExactNumber) : OpenPathNode ExactNumber := ⟨0, 0, "0:0", .finite 0, f⟩

/-- Three pushes leave the least node at the root, and it is popped first. -/
theorem openListRun_three :
    (∀ node, (popOpenNode (openListRun [.push (originNode (.finite 2)), .push (originNode (.finite 3)),
        .push (originNode (.finite 1))]).heap).1 = some node →
      ∀ other ∈ (openListRun [.push (originNode (.finite 2)), .push (originNode (.finite 3)),
        .push (originNode (.finite 1))]).heap, node.f.le other.f = true) :=
  ((openListRun_spec [.push (originNode (.finite 2)), .push (originNode (.finite 3)),
    .push (originNode (.finite 1))]).2.2.2 (by simp [originNode])).2

/-- A node whose `f` is not a number lets a node into the root that is not the least. -/
theorem nan_breaks_order :
    (popOpenNode (openListRun [.push (originNode (.finite 10)), .push (originNode .nan),
        .push (originNode (.finite 20))]).heap).1 = some (originNode (.finite 20)) ∧
      originNode (.finite 10) ∈ (openListRun [.push (originNode (.finite 10)), .push (originNode .nan),
        .push (originNode (.finite 20))]).heap ∧
      (originNode (.finite 20)).f.le (originNode (.finite 10)).f = false ∧
      ¬ (openListRun [.push (originNode (.finite 10)), .push (originNode .nan),
        .push (originNode (.finite 20))]).InOrder := by
  have hheap : (openListRun [.push (originNode (.finite 10)), .push (originNode .nan),
      .push (originNode (.finite 20))]).heap =
      [originNode (.finite 20), originNode (.finite 10), originNode .nan] := by
    simp [openListRun, OpenListRun.call, pushOpenNode, siftUp, parent, OpenPathNode.le, Comparisons.le, originNode,
      ExactNumber.le]
  refine ⟨?_, ?_, by decide, fun h => ?_⟩
  · rw [popOpenNode_fst, hheap]
    rfl
  · rw [hheap]
    simp
  · have := h 1 (originNode (.finite 20)) (originNode (.finite 10)) one_pos (by rw [hheap]; rfl) (by rw [hheap]; rfl)
    revert this
    decide

end Opsia
