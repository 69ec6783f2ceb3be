import Std.Data.String.ToInt
import Opsia.BestFirst
import Opsia.BotBrain.PathSearch
import Opsia.Delimited

/-!
# The path that the search finds

What the maps and the open list say of the cells (`PathSearch.view`) is a best-first search over the moves
(`PathMove`): a pop takes a queued pair (`view_pop`), a visit tries a move (`view_visit`), and the heuristic is
consistent, since it is the norm whose values at the directions are their costs (`heuristic_le`).  So a search that pops
the goal has found it at the least cost, one that runs dry has found every cell that can be reached, and what was found
is traced back (`planNavigationPath_spec`).
-/

namespace Opsia

open BestFirst HoleHeap

/-! ### Keys -/

private theorem colon_notMem_toString (n : ℤ) : ':' ∉ (toString n).toList := by
  have hnat : ∀ m : ℕ, ':' ∉ (Nat.repr m).toList := by
    intro m h
    rw [Nat.toList_repr] at h
    exact absurd (Nat.isDigit_of_mem_toDigits (by decide) (by decide) h) (by decide)
  cases n with
  | ofNat m => exact hnat m
  | negSucc m =>
    intro h
    have hneg : toString (Int.negSucc m) = "-" ++ Nat.repr (m + 1) := rfl
    rw [hneg, String.toList_append, List.mem_append] at h
    rcases h with h | h
    · exact absurd h (by decide)
    · exact hnat _ h

theorem pathCellKey_inj {x y x' y' : ℤ} (h : pathCellKey x y = pathCellKey x' y') : x = x' ∧ y = y' := by
  have hlist := congrArg String.toList h
  have hshape : ∀ a b : ℤ, (pathCellKey a b).toList = (toString a).toList ++ ':' :: (toString b).toList := by
    intro a b
    unfold pathCellKey
    rw [String.toList_append, String.toList_append, List.append_assoc]
    rfl
  rw [hshape, hshape] at hlist
  obtain ⟨hx, hy⟩ := Delimited.cancel_left (colon_notMem_toString x) (colon_notMem_toString x') hlist
  exact ⟨Int.repr_inj.1 (String.toList_inj.1 hx), Int.repr_inj.1 (String.toList_inj.1 hy)⟩

theorem PathCell.key_inj {u v : PathCell} : u.key = v.key ↔ u = v := by
  refine ⟨fun h => ?_, fun h => by rw [h]⟩
  obtain ⟨hx, hy⟩ := pathCellKey_inj h
  exact PathCell.ext hx hy

private theorem PathCell.key_ne_empty (u : PathCell) : u.key ≠ "" := by
  intro h
  have hlist := congrArg String.toList h
  unfold PathCell.key pathCellKey at hlist
  rw [String.toList_append, String.toList_append] at hlist
  have hlen := congrArg List.length hlist
  simp at hlen

/-! ### The heuristic -/

private theorem sqrt2_sub_one_pos : (0 : PathCost) < sqrt2 - 1 := by decide

private theorem sqrt2_sub_one_le : (sqrt2 - 1 : PathCost) ≤ 1 := by decide

/-- The cost of going `x` and `y` cells along the axes and the diagonals, as the greater of two sums. -/
private def octile (x y : ℤ) : PathCost :=
  max ((|x| : ℤ) + (sqrt2 - 1) * (|y| : ℤ)) ((|y| : ℤ) + (sqrt2 - 1) * (|x| : ℤ))

private theorem mul_intCast_mono {k : PathCost} (hk : 0 ≤ k) {m n : ℤ} (h : m ≤ n) : k * (m : PathCost) ≤ k * n :=
  mul_le_mul_of_nonneg_left (Int.cast_le.2 h) hk

private theorem heuristic_eq (goal : PathCell) (x y : ℤ) :
    heuristic goal x y = octile (goal.x - x) (goal.y - y) := by
  -- the lesser side counts less than the greater one
  have hle : ∀ m n : ℤ, m ≤ n → (m : PathCost) + (sqrt2 - 1) * n ≤ n + (sqrt2 - 1) * m := by
    intro m n hmn
    have hdiff : (sqrt2 - 1) * ((n - m : ℤ) : PathCost) ≤ 1 * ((n - m : ℤ) : PathCost) :=
      mul_le_mul_of_nonneg_right sqrt2_sub_one_le (Int.cast_nonneg (by omega))
    rw [one_mul, Int.cast_sub, mul_sub] at hdiff
    linarith
  unfold heuristic octile
  dsimp only
  rcases le_total |goal.x - x| |goal.y - y| with h | h
  · rw [max_eq_right h, min_eq_left h, max_eq_right (hle _ _ h)]
  · rw [max_eq_left h, min_eq_right h, max_eq_left (hle _ _ h)]

private theorem octile_add (a b a' b' : ℤ) : octile (a + a') (b + b') ≤ octile a b + octile a' b' := by
  -- each of the sums obeys the triangle inequality
  have hsum : ∀ m n m' n' : ℤ, ((|m + m'| : ℤ) : PathCost) + (sqrt2 - 1) * (|n + n'| : ℤ) ≤
      ((|m| : ℤ) + (sqrt2 - 1) * (|n| : ℤ)) + ((|m'| : ℤ) + (sqrt2 - 1) * (|n'| : ℤ)) := by
    intro m n m' n'
    have hm : ((|m + m'| : ℤ) : PathCost) ≤ (|m| : ℤ) + (|m'| : ℤ) := by
      rw [← Int.cast_add]
      exact Int.cast_le.2 (abs_add_le m m')
    have hn := mul_intCast_mono sqrt2_sub_one_pos.le (abs_add_le n n')
    rw [Int.cast_add, mul_add] at hn
    linarith
  unfold octile
  exact max_le ((hsum a b a' b').trans (add_le_add (le_max_left _ _) (le_max_left _ _)))
    ((hsum b a b' a').trans (add_le_add (le_max_right _ _) (le_max_right _ _)))

private theorem octile_direction : ∀ d ∈ directions, octile d.x d.y = d.cost ∧ 0 < d.cost := by decide

/-- A step lowers the estimate by no more than it costs. -/
private theorem heuristic_le (goal cell : PathCell) {d : PathDirection} (hd : d ∈ directions) :
    heuristic goal cell.x cell.y ≤ d.cost + heuristic goal (d.next cell).x (d.next cell).y := by
  rw [heuristic_eq, heuristic_eq, ← (octile_direction d hd).1]
  have hx : goal.x - cell.x = d.x + (goal.x - (d.next cell).x) := by
    unfold PathDirection.next
    ring
  have hy : goal.y - cell.y = d.y + (goal.y - (d.next cell).y) := by
    unfold PathDirection.next
    ring
  rw [hx, hy]
  exact octile_add _ _ _ _

/-! ### Moves -/

namespace PathDirection

/-- What is asked of a step from a cell in a direction. -/
structure Allowed (snapshot : PathSnapshot) (window : PathWindow) (cell : PathCell) (d : PathDirection) : Prop where
  inside : window.contains (d.next cell) = true
  unblocked : snapshot.pointBlocked (d.next cell).point = false
  navigable : snapshot.navigable cell.point (d.next cell).point = some true
  corners : d.x ≠ 0 → d.y ≠ 0 → snapshot.pointBlocked (PathCell.mk (cell.x + d.x) cell.y).point = false ∧
    snapshot.pointBlocked (PathCell.mk cell.x (cell.y + d.y)).point = false

theorem allowed_iff {snapshot : PathSnapshot} {window : PathWindow} {cell : PathCell} {d : PathDirection} {b : Bool}
    (h : d.allowed snapshot window cell = some b) : b = true ↔ d.Allowed snapshot window cell := by
  unfold allowed at h
  cases hin : window.contains (d.next cell) with
  | false =>
    rw [hin] at h
    cases h
    exact ⟨fun hb => (Bool.false_ne_true hb).elim, fun ha => by rw [ha.inside] at hin; cases hin⟩
  | true =>
    cases hblocked : snapshot.pointBlocked (d.next cell).point with
    | true =>
      rw [hin, hblocked] at h
      cases h
      exact ⟨fun hb => (Bool.false_ne_true hb).elim, fun ha => by rw [ha.unblocked] at hblocked; cases hblocked⟩
    | false =>
      cases hnav : snapshot.navigable cell.point (d.next cell).point with
      | none =>
        rw [hin, hblocked, hnav] at h
        cases h
      | some clear =>
        rw [hin, hblocked, hnav] at h
        cases clear with
        | false =>
          cases h
          exact ⟨fun hb => (Bool.false_ne_true hb).elim, fun ha => by rw [ha.navigable] at hnav; cases hnav⟩
        | true =>
          cases h
          rw [Bool.not_eq_true', Bool.and_eq_false_iff, Bool.or_eq_false_iff, decide_eq_false_iff_not, not_and]
          exact ⟨fun hb => ⟨hin, hblocked, hnav, fun hx hy => hb.resolve_left fun hn => hn hx hy⟩, fun ha => by
            by_cases hxy : d.x ≠ 0 ∧ d.y ≠ 0
            · exact .inr (ha.corners hxy.1 hxy.2)
            · exact .inl fun hx hy => hxy ⟨hx, hy⟩⟩

theorem Allowed.congr {snapshot : PathSnapshot} {window : PathWindow} {cell : PathCell} {d d' : PathDirection}
    (h : d.Allowed snapshot window cell) (hx : d.x = d'.x) (hy : d.y = d'.y) : d'.Allowed snapshot window cell := by
  have hnext : d.next cell = d'.next cell := by
    unfold next
    rw [hx, hy]
  obtain ⟨hin, hblocked, hnav, hcorners⟩ := h
  rw [hnext] at hin hblocked hnav
  rw [hx, hy] at hcorners
  exact ⟨hin, hblocked, hnav, hcorners⟩

end PathDirection

/-- A move of the search from a cell to another one, with its cost. -/
def PathMove (snapshot : PathSnapshot) (window : PathWindow) (u v : PathCell) (cost : PathCost) : Prop :=
  ∃ d ∈ directions, d.Allowed snapshot window u ∧ v = d.next u ∧ cost = d.cost

/-! ### The maps -/

namespace PathSearch

/-- What the maps and the open list say of the cells. -/
def view (s : PathSearch) : Search PathCell PathCost where
  cost cell := s.costs.lookup cell.key
  parent v u := s.parents.lookup v.key = some u.key
  queue := {e | ∃ node ∈ s.openNodes, (PathCell.mk node.x node.y, node.g) = e}

/-- The nodes of the open list are in order, and the maps name the cells that they are about. -/
structure Formed (goal : PathCell) (s : PathSearch) : Prop where
  named : ∀ node ∈ s.openNodes, node.key = (PathCell.mk node.x node.y).key
  estimated : ∀ node ∈ s.openNodes, node.f = node.g + heuristic goal node.x node.y
  ordered : Ordered (fun node : OpenPathNode PathCost => node.f) s.openNodes
  placed : ∀ cell : PathCell, s.costs.lookup cell.key ≠ none → s.cells.lookup cell.key = some cell

private theorem ranked (nodes : List (OpenPathNode PathCost)) :
    Ranked (fun node : OpenPathNode PathCost => node.f) OpenPathNode.le OpenPathNode.lt nodes :=
  fun _ _ _ _ => ⟨decide_eq_true_iff, decide_eq_true_iff⟩

variable {snapshot : PathSnapshot} {window : PathWindow} {start goal : PathCell} {s s' : PathSearch}
variable {current : OpenPathNode PathCost} {rest : List (OpenPathNode PathCost)}

/-! ### A pop -/

private theorem Formed.pop (h : s.Formed goal) (hpop : popOpenNode s.openNodes = (some current, rest)) :
    ({ s with openNodes := rest } : PathSearch).Formed goal := by
  have hperm : (current :: rest).Perm s.openNodes := by
    have := popOpenNode_perm (congrArg Prod.fst hpop)
    rwa [hpop] at this
  have hmem : ∀ node ∈ rest, node ∈ s.openNodes := fun node hn => hperm.mem_iff.1 (List.mem_cons_of_mem _ hn)
  refine ⟨fun node hn => h.named node (hmem node hn), fun node hn => h.estimated node (hmem node hn), ?_, h.placed⟩
  have := popOpenNode_ordered (ranked s.openNodes) h.ordered
  rwa [hpop] at this

private theorem view_pop (hpop : popOpenNode s.openNodes = (some current, rest)) :
    s.view.Pops ({ s with openNodes := rest } : PathSearch).view ⟨current.x, current.y⟩ current.g := by
  have hperm : (current :: rest).Perm s.openNodes := by
    have := popOpenNode_perm (congrArg Prod.fst hpop)
    rwa [hpop] at this
  refine ⟨rfl, rfl, ⟨current, hperm.mem_iff.1 List.mem_cons_self, rfl⟩, ?_, ?_⟩
  · rintro e ⟨node, hnode, rfl⟩
    exact ⟨node, hperm.mem_iff.1 (List.mem_cons_of_mem _ hnode), rfl⟩
  · rintro e ⟨node, hnode, rfl⟩ hne
    rcases List.mem_cons.1 (hperm.mem_iff.2 hnode) with rfl | hrest
    · exact absurd rfl hne
    · exact ⟨node, hrest, rfl⟩

/-! ### A visit -/

/-- A cell is found at a cost, from the current one. -/
private def found (goal : PathCell) (current : OpenPathNode PathCost) (s : PathSearch) (cell : PathCell)
    (cost : PathCost) : PathSearch where
  costs := s.costs.insert cell.key cost
  parents := s.parents.insert cell.key current.key
  cells := s.cells.insert cell.key cell
  openNodes := pushOpenNode s.openNodes ⟨cell.x, cell.y, cell.key, cost, cost + heuristic goal cell.x cell.y⟩

private theorem Formed.found (h : s.Formed goal) (cell : PathCell) (cost : PathCost) :
    (s.found goal current cell cost).Formed goal := by
  have hmem : ∀ node ∈ (s.found goal current cell cost).openNodes,
      node = ⟨cell.x, cell.y, cell.key, cost, cost + heuristic goal cell.x cell.y⟩ ∨ node ∈ s.openNodes :=
    fun node hn => List.mem_cons.1 (pushOpenNode_perm.mem_iff.1 hn)
  refine ⟨fun node hn => ?_, fun node hn => ?_, pushOpenNode_ordered (ranked _) h.ordered, fun other hother => ?_⟩
  · rcases hmem node hn with rfl | hn
    · rfl
    · exact h.named node hn
  · rcases hmem node hn with rfl | hn
    · rfl
    · exact h.estimated node hn
  · by_cases heq : other.key = cell.key
    · obtain rfl := PathCell.key_inj.1 heq
      exact AList.lookup_insert _
    · refine (AList.lookup_insert_ne heq).trans (h.placed other fun hnone => hother ?_)
      exact (AList.lookup_insert_ne heq).trans hnone

private theorem view_found (hkey : current.key = (PathCell.mk current.x current.y).key) (cell : PathCell)
    (cost : PathCost) :
    (s.found goal current cell cost).view = s.view.improve ⟨current.x, current.y⟩ cell cost := by
  have hlookup : ∀ {β : Type} (m : AList fun _ : String => β) (b : β) (x : PathCell),
      (m.insert cell.key b).lookup x.key = if x = cell then some b else m.lookup x.key := by
    intro β m b x
    split
    · rename_i hx
      rw [hx]
      exact AList.lookup_insert m
    · rename_i hx
      exact AList.lookup_insert_ne fun hk => hx (PathCell.key_inj.1 hk)
  unfold view Search.improve
  congr 1
  · funext x
    exact hlookup s.costs cost x
  · funext x y
    dsimp only
    rw [show (s.found goal current cell cost).parents = s.parents.insert cell.key current.key from rfl, hlookup]
    split
    · rw [hkey, Option.some.injEq]
      exact propext (PathCell.key_inj.trans eq_comm)
    · rfl
  · ext e
    constructor
    · rintro ⟨node, hnode, rfl⟩
      rcases List.mem_cons.1 (pushOpenNode_perm.mem_iff.1 hnode) with rfl | hold
      · exact .inl rfl
      · exact .inr ⟨node, hold, rfl⟩
    · rintro (rfl | ⟨node, hnode, rfl⟩)
      · exact ⟨_, pushOpenNode_perm.mem_iff.2 List.mem_cons_self, rfl⟩
      · exact ⟨node, pushOpenNode_perm.mem_iff.2 (List.mem_cons_of_mem _ hnode), rfl⟩

private theorem view_visit (h : s.Formed goal) {d : PathDirection}
    (hkey : current.key = (PathCell.mk current.x current.y).key)
    (hvisit : s.visit snapshot window goal current d = some s') :
    s'.Formed goal ∧ (d.Allowed snapshot window ⟨current.x, current.y⟩ ∧
        s.view.Relaxes ⟨current.x, current.y⟩ (d.next ⟨current.x, current.y⟩) (current.g + d.cost) s'.view ∨
      ¬d.Allowed snapshot window ⟨current.x, current.y⟩ ∧ s' = s) := by
  unfold visit at hvisit
  obtain ⟨allowed, hallowed, hvisit⟩ := Option.bind_eq_some_iff.1 hvisit
  have hiff := PathDirection.allowed_iff hallowed
  cases allowed with
  | false =>
    cases hvisit
    exact ⟨h, .inr ⟨fun ha => Bool.false_ne_true (hiff.2 ha), rfl⟩⟩
  | true =>
    have hmove := hiff.1 rfl
    dsimp only at hvisit
    cases hat : s.atLeast (d.next ⟨current.x, current.y⟩).key (current.g + d.cost) with
    | true =>
      rw [hat] at hvisit
      cases hvisit
      unfold atLeast at hat
      cases hknown : s.costs.lookup (d.next ⟨current.x, current.y⟩).key with
      | none =>
        rw [hknown] at hat
        cases hat
      | some known =>
        rw [hknown] at hat
        exact ⟨h, .inl ⟨hmove, .keep hknown (of_decide_eq_true hat)⟩⟩
    | false =>
      rw [hat] at hvisit
      obtain rfl : s.found goal current (d.next ⟨current.x, current.y⟩) (current.g + d.cost) = s' :=
        Option.some.inj hvisit
      refine ⟨h.found _ _, .inl ⟨hmove, ?_⟩⟩
      rw [view_found hkey]
      refine .improve fun known hknown => ?_
      unfold atLeast at hat
      rw [show s.costs.lookup (d.next ⟨current.x, current.y⟩).key = some known from hknown] at hat
      exact not_le.1 (of_decide_eq_false hat)

/-! ### The loop -/

/-- The moves in these directions from the current cell. -/
private def Untried (current : PathCell) (remaining : List PathDirection) : PathCell → PathCell → PathCost → Prop :=
  fun a x b => a = current ∧ ∃ d ∈ remaining, x = d.next current ∧ b = d.cost

private theorem foldlM_visit (hkey : current.key = (PathCell.mk current.x current.y).key)
    (remaining : List PathDirection) (hsub : ∀ d ∈ remaining, d ∈ directions) (h : s.Formed goal)
    (hinv : Invariant (PathMove snapshot window) start (Untried ⟨current.x, current.y⟩ remaining) s.view)
    (hcost : s.view.cost ⟨current.x, current.y⟩ = some current.g)
    (hfold : remaining.foldlM (visit snapshot window goal current) s = some s') :
    s'.Formed goal ∧ Invariant (PathMove snapshot window) start None s'.view := by
  induction remaining generalizing s with
  | nil =>
    cases hfold
    exact ⟨h, hinv.forget fun v d x w _ _ ⟨_, d', hd', _⟩ => absurd hd' List.not_mem_nil⟩
  | cons d remaining ih =>
    obtain ⟨next, hvisit, hrest⟩ := Option.bind_eq_some_iff.1 hfold
    have hd := hsub d List.mem_cons_self
    obtain ⟨hformed, ⟨hallowed, hrelax⟩ | ⟨hnot, rfl⟩⟩ := view_visit h hkey hvisit
    · obtain ⟨hinv', hcost'⟩ := hinv.relax hcost ⟨d, hd, hallowed, rfl, rfl⟩ (octile_direction d hd).2 hrelax
      refine ih (fun d' hd' => hsub d' (List.mem_cons_of_mem _ hd')) hformed (hinv'.forget ?_) hcost' hrest
      rintro v e x w - - ⟨⟨rfl, d', hd', rfl, rfl⟩, hne⟩
      rcases List.mem_cons.1 hd' with rfl | hd'
      · exact absurd ⟨rfl, rfl, rfl⟩ hne
      · exact .inl ⟨rfl, d', hd', rfl, rfl⟩
    · refine ih (fun d' hd' => hsub d' (List.mem_cons_of_mem _ hd')) hformed (hinv.forget ?_) hcost hrest
      rintro v e x w - ⟨d'', hd'', hallowed, hx, -⟩ ⟨rfl, d', hd', rfl, rfl⟩
      rcases List.mem_cons.1 hd' with rfl | hd'
      · -- a move to the same cell is in the same direction
        have hxy : d'.x = d''.x ∧ d'.y = d''.y := by
          have := (PathCell.ext_iff.1 hx)
          unfold PathDirection.next at this
          dsimp only at this
          omega
        exact absurd (hallowed.congr hxy.1.symm hxy.2.symm) hnot
      · exact .inl ⟨rfl, d', hd', rfl, rfl⟩

/-- What the loop leaves behind: what was found is linked to the start, the goal is found at the least cost if it was
popped, and if nothing is left every cell that can be reached was found. -/
private structure Ended (snapshot : PathSnapshot) (window : PathWindow) (start goal : PathCell) (how : PathEnd)
    (s : PathSearch) : Prop where
  formed : s.Formed goal
  invariant : ∃ Pending, Invariant (PathMove snapshot window) start Pending s.view
  least : how = .goal → ∃ g, s.view.cost goal = some g ∧
    ∀ path c, IsWalk (PathMove snapshot window) start path goal c → g ≤ c
  all : how = .dry → ∀ path c, IsWalk (PathMove snapshot window) start path goal c → s.view.cost goal ≠ none

private theorem move_pos (u v : PathCell) (w : PathCost) (h : PathMove snapshot window u v w) : 0 < w := by
  obtain ⟨d, hd, -, -, rfl⟩ := h
  exact (octile_direction d hd).2

private theorem estimate_le (goal u v : PathCell) (w : PathCost) (h : PathMove snapshot window u v w) :
    heuristic goal u.x u.y ≤ w + heuristic goal v.x v.y := by
  obtain ⟨d, hd, -, rfl, rfl⟩ := h
  exact heuristic_le goal u hd

private theorem ended_dry (h : s.Formed goal) (hinv : Invariant (PathMove snapshot window) start None s.view)
    (hpop : popOpenNode s.openNodes = (none, rest)) : Ended snapshot window start goal .dry s := by
  have hnil := (popOpenNode_none (congrArg Prod.fst hpop)).1
  have hdry : s.view.queue = ∅ := by
    refine Set.eq_empty_of_forall_notMem ?_
    rintro e ⟨node, hnode, -⟩
    rw [hnil] at hnode
    cases hnode
  exact ⟨h, ⟨_, hinv⟩, (fun hg => nomatch hg), fun _ path c hwalk => hinv.found_of_dry hdry hwalk⟩

/-- The node that is popped says that its cell was found, at its cost or at a lower one. -/
private theorem cost_of_popped (h : s.Formed goal) (hinv : Invariant (PathMove snapshot window) start None s.view)
    (hpop : popOpenNode s.openNodes = (some current, rest)) :
    current.key = (PathCell.mk current.x current.y).key ∧
      ∃ known, s.view.cost ⟨current.x, current.y⟩ = some known ∧ known ≤ current.g ∧
        (s.stale current = true ↔ known < current.g) := by
  have hmem := (popOpenNode_perm (congrArg Prod.fst hpop)).mem_iff.1 List.mem_cons_self
  have hkey := h.named current hmem
  obtain ⟨known, hknown, hle⟩ := hinv.queued _ _ ⟨current, hmem, rfl⟩
  refine ⟨hkey, known, hknown, hle, ?_⟩
  unfold stale
  rw [hkey, show s.costs.lookup (PathCell.mk current.x current.y).key = some known from hknown]
  exact decide_eq_true_iff

private theorem ended_goal (h : s.Formed goal) (hinv : Invariant (PathMove snapshot window) start None s.view)
    (hpop : popOpenNode s.openNodes = (some current, rest)) (hfresh : ¬ s.stale current = true)
    (hgoal : current.key = goal.key) : Ended snapshot window start goal .goal { s with openNodes := rest } := by
  obtain ⟨hkey, known, hknown, hle, hstale⟩ := cost_of_popped h hinv hpop
  have hcell : PathCell.mk current.x current.y = goal := PathCell.key_inj.1 (hkey.symm.trans hgoal)
  obtain rfl : known = current.g := hle.antisymm (not_lt.1 fun hlt => hfresh (hstale.2 hlt))
  rw [hcell] at hknown
  refine ⟨h.pop hpop, ⟨_, hinv.pop (view_pop hpop)⟩, fun _ => ⟨current.g, hknown, fun path c hwalk => ?_⟩,
    (fun hd => nomatch hd)⟩
  refine hinv.le_of_popped (estimate_le goal) hknown ?_ hwalk
  rintro v d ⟨node, hnode, heq⟩
  obtain ⟨rfl, rfl⟩ := Prod.mk.injEq .. ▸ heq
  have hmem := (popOpenNode_perm (congrArg Prod.fst hpop)).mem_iff.1 List.mem_cons_self
  have hleast := popOpenNode_le h.ordered (congrArg Prod.fst hpop) hnode
  rw [h.estimated current hmem, h.estimated node hnode] at hleast
  have hgoal' : heuristic goal goal.x goal.y = heuristic goal current.x current.y := by rw [← hcell]
  rw [hgoal']
  exact hleast

private theorem run_ended {expansions : ℕ} {how : PathEnd} (h : s.Formed goal)
    (hinv : Invariant (PathMove snapshot window) start None s.view)
    (hrun : s.run snapshot window goal expansions = some (how, s')) : Ended snapshot window start goal how s' := by
  induction expansions generalizing s with
  | zero =>
    unfold run at hrun
    split at hrun
    · rename_i hpop
      cases hrun
      exact ended_dry h hinv hpop
    · cases hrun
      exact ⟨h, ⟨_, hinv⟩, (fun hg => nomatch hg), (fun hd => nomatch hd)⟩
  | succ expansions ih =>
    unfold run at hrun
    split at hrun
    · rename_i hpop
      cases hrun
      exact ended_dry h hinv hpop
    · rename_i current rest hpop
      obtain ⟨hkey, known, hknown, hle, hstale⟩ := cost_of_popped h hinv hpop
      have hpops := view_pop hpop
      dsimp only at hrun
      by_cases hold : s.stale current = true
      · rw [if_pos (show PathSearch.stale { s with openNodes := rest } current = true from hold)] at hrun
        exact ih (h.pop hpop) (hinv.pop_stale hpops ⟨known, hknown, hstale.1 hold⟩) hrun
      · rw [if_neg (show ¬PathSearch.stale { s with openNodes := rest } current = true from hold)] at hrun
        split at hrun
        · rename_i hgoal
          cases hrun
          exact ended_goal h hinv hpop hold hgoal
        · obtain ⟨next, hfold, hrun⟩ := Option.bind_eq_some_iff.1 hrun
          obtain rfl : known = current.g := hle.antisymm (not_lt.1 fun hlt => hold (hstale.2 hlt))
          have huntried : Invariant (PathMove snapshot window) start
              (Untried ⟨current.x, current.y⟩ directions) (PathSearch.view { s with openNodes := rest }) := by
            refine (hinv.pop hpops).forget ?_
            rintro v d x w - ⟨d', hd', -, rfl, rfl⟩ rfl
            exact .inl ⟨rfl, d', hd', rfl, rfl⟩
          obtain ⟨hformed, hinv'⟩ := foldlM_visit hkey directions (fun _ hd => hd) (h.pop hpop) huntried hknown hfold
          exact ih hformed hinv' hrun

private theorem start_formed (start goal : PathCell) : (PathSearch.start start goal).Formed goal := by
  have hmem : ∀ node ∈ (PathSearch.start start goal).openNodes,
      node = ⟨start.x, start.y, start.key, 0, heuristic goal start.x start.y⟩ := fun node hn =>
    List.mem_singleton.1 (pushOpenNode_perm.mem_iff.1 hn)
  refine ⟨fun node hn => ?_, fun node hn => ?_, pushOpenNode_ordered (ranked _) ordered_nil, fun cell hcell => ?_⟩
  · obtain rfl := hmem node hn
    rfl
  · obtain rfl := hmem node hn
    exact (zero_add _).symm
  · by_cases heq : cell.key = start.key
    · obtain rfl := PathCell.key_inj.1 heq
      exact AList.lookup_insert _
    · exact absurd (AList.lookup_insert_ne heq) hcell

private theorem view_start (start goal : PathCell) : (PathSearch.start start goal).view = BestFirst.initial start := by
  unfold view BestFirst.initial
  congr 1
  · funext x
    split
    · rename_i hx
      rw [hx]
      exact AList.lookup_insert _
    · rename_i hx
      exact AList.lookup_insert_ne fun hk => hx (PathCell.key_inj.1 hk)
  · funext x y
    exact propext ⟨(fun h => nomatch h), False.elim⟩
  · ext e
    constructor
    · rintro ⟨node, hnode, rfl⟩
      obtain rfl := List.mem_singleton.1 (pushOpenNode_perm.mem_iff.1 hnode)
      rfl
    · rintro rfl
      exact ⟨_, pushOpenNode_perm.mem_iff.2 List.mem_cons_self, rfl⟩

private theorem searchPath_ended {how : PathEnd} (h : searchPath snapshot window start goal = some (how, s)) :
    Ended snapshot window start goal how s :=
  run_ended (start_formed start goal) (by rw [view_start]; exact .initial) h

/-! ### The way back -/

private theorem backtrack_of_leads (h : s.Formed goal) {cell : PathCell} {path : List PathCell}
    (hleads : Leads s.view.parent start cell path) (hfound : ∀ x ∈ path, s.view.cost x ≠ none) {rounds : ℕ}
    (hrounds : path.length ≤ rounds) :
    s.backtrack start.key rounds cell.key = some (some path.reverse) := by
  induction hleads generalizing rounds with
  | nil =>
    unfold backtrack
    rw [if_pos rfl]
    rfl
  | @snoc u v path hleads hparent hne ih =>
    rw [List.length_append, List.length_singleton] at hrounds
    obtain ⟨rounds, rfl⟩ : ∃ k, rounds = k + 1 := ⟨rounds - 1, by omega⟩
    have hcell := h.placed v (hfound v (by simp))
    unfold backtrack
    rw [if_neg fun hk => hne (PathCell.key_inj.1 hk)]
    dsimp only
    rw [hcell, show s.parents.lookup v.key = some u.key from hparent]
    dsimp only
    rw [if_neg u.key_ne_empty, ih (fun x hx => hfound x (List.mem_append_left _ hx)) (by omega)]
    simp

/-- What was found is traced back, along a walk that costs no more. -/
private theorem cellPath_of_found (h : s.Formed goal) {Pending : PathCell → PathCell → PathCost → Prop}
    (hinv : Invariant (PathMove snapshot window) start Pending s.view) {d : PathCost}
    (hd : s.view.cost goal = some d) : ∃ path c, s.cellPath start goal = some (some path) ∧
      IsWalk (PathMove snapshot window) start path goal c ∧ c ≤ d := by
  obtain ⟨path, c, hwalk, hle, hleads, hnodup, hcosts⟩ := hinv.exists_chain move_pos hd
  have hparents : ∀ {v : PathCell} {path : List PathCell}, Leads s.view.parent start v path → ∀ x ∈ path,
      x.key ∈ s.parents.keys := by
    intro v path hl
    induction hl with
    | nil => exact fun x hx => absurd hx List.not_mem_nil
    | @snoc u v path hl hparent _ ih =>
      intro x hx
      rcases List.mem_append.1 hx with hx | hx
      · exact ih x hx
      · rw [List.mem_singleton.1 hx]
        refine AList.mem_keys.1 (AList.lookup_isSome.1 ?_)
        rw [show s.parents.lookup v.key = some u.key from hparent]
        rfl
  have hlength : path.length ≤ s.parents.keys.length := by
    have hkeys : (path.map PathCell.key).Nodup := hnodup.map fun _ _ => PathCell.key_inj.1
    have hsub : path.map PathCell.key ⊆ s.parents.keys := fun k hk => by
      obtain ⟨x, hx, rfl⟩ := List.mem_map.1 hk
      exact hparents hleads x hx
    have := (hkeys.subperm hsub).length_le
    rwa [List.length_map] at this
  refine ⟨path, c, ?_, hwalk, hle⟩
  unfold cellPath
  rw [backtrack_of_leads h hleads (fun x hx => ?_) hlength]
  · simp
  · obtain ⟨e, he, -⟩ := hcosts x hx
    rw [he]
    simp

end PathSearch

/-! ### The waypoints -/

section

variable {snapshot : PathSnapshot}

/-- The leg between two points is navigable. -/
def Leg (snapshot : PathSnapshot) (a b : NavigationPoint) : Prop := snapshot.navigable a b = some true

private theorem simplify_ne_nil {anchor furthest : NavigationPoint} {points waypoints : List NavigationPoint}
    (h : simplify snapshot anchor furthest points = some waypoints) : waypoints ≠ [] := by
  induction points generalizing anchor furthest waypoints with
  | nil =>
    cases h
    exact List.cons_ne_nil _ _
  | cons candidate points ih =>
    obtain ⟨clear, -, h⟩ := Option.bind_eq_some_iff.1 h
    cases clear with
    | true => exact ih h
    | false =>
      obtain ⟨more, -, h⟩ := Option.bind_eq_some_iff.1 h
      cases h
      exact List.cons_ne_nil _ _

/-- Where each point but the last is reached from the one before it, each waypoint but the last is reached from the one
before it, and the first one from the anchor if it was seen from there. -/
private theorem simplify_legs {anchor furthest : NavigationPoint} {points waypoints : List NavigationPoint}
    (hsteps : (furthest :: points).dropLast.IsChain (Leg snapshot))
    (h : simplify snapshot anchor furthest points = some waypoints) :
    waypoints.dropLast.IsChain (Leg snapshot) ∧
      ((points = [] ∨ Leg snapshot anchor furthest) → (anchor :: waypoints.dropLast).IsChain (Leg snapshot)) := by
  induction points generalizing anchor furthest waypoints with
  | nil =>
    cases h
    exact ⟨List.IsChain.nil, fun _ => List.IsChain.singleton _⟩
  | cons candidate points ih =>
    have hlater : (candidate :: points).dropLast.IsChain (Leg snapshot) := by
      rw [List.dropLast_cons_cons] at hsteps
      exact hsteps.tail
    obtain ⟨clear, hclear, h⟩ := Option.bind_eq_some_iff.1 h
    cases clear with
    | true =>
      obtain ⟨hlegs, hfirst⟩ := ih hlater h
      exact ⟨hlegs, fun _ => hfirst (.inr hclear)⟩
    | false =>
      obtain ⟨more, hmore, h⟩ := Option.bind_eq_some_iff.1 h
      cases h
      obtain ⟨-, hfirst⟩ := ih hlater hmore
      -- the next point is reached from this one, unless it is the last
      have hnext : points = [] ∨ Leg snapshot furthest candidate := by
        cases points with
        | nil => exact .inl rfl
        | cons second points =>
          rw [List.dropLast_cons_cons, List.dropLast_cons_cons] at hsteps
          exact .inr (List.isChain_cons_cons.1 hsteps).1
      have hlegs := hfirst hnext
      rw [List.dropLast_cons_of_ne_nil (simplify_ne_nil hmore)]
      refine ⟨hlegs, fun hanchor => List.isChain_cons_cons.2 ⟨hanchor.resolve_left (List.cons_ne_nil _ _), hlegs⟩⟩

/-- The moves of a walk are legs. -/
private theorem walk_legs {window : PathWindow} {u v : PathCell} {path : List PathCell} {c : PathCost}
    (h : IsWalk (PathMove snapshot window) u path v c) :
    (u.point :: path.map PathCell.point).IsChain (Leg snapshot) := by
  induction h with
  | nil v => exact List.IsChain.singleton _
  | cons move _ ih =>
    obtain ⟨d, -, hallowed, rfl, -⟩ := move
    exact List.isChain_cons_cons.2 ⟨hallowed.navigable, ih⟩

/-- What is made of a search that found the goal: the waypoints of the path that it traces back. -/
private theorem waypoints_of_path {startPoint goalPoint : NavigationPoint} {start goal : PathCell} {s : PathSearch}
    {path : List PathCell} (hfound : s.costs.lookup goal.key ≠ none)
    (hpath : s.cellPath start goal = some (some path)) {first : NavigationPoint} {rest : List NavigationPoint}
    (hpoints : path.map PathCell.point ++ [goalPoint] = first :: rest) :
    s.waypoints snapshot startPoint goalPoint start goal = simplify snapshot startPoint first rest := by
  unfold PathSearch.waypoints
  rw [if_neg hfound, hpath]
  simp only [Option.bind_eq_bind, Option.bind_some]
  rw [hpoints]

private theorem waypoints_legs {startPoint goalPoint : NavigationPoint} {window : PathWindow} {start goal : PathCell}
    {s : PathSearch} {how : PathEnd} (hended : s.Ended snapshot window start goal how) {points : List NavigationPoint}
    (h : s.waypoints snapshot startPoint goalPoint start goal = some points) :
    points.dropLast.IsChain (Leg snapshot) := by
  cases hfound : s.costs.lookup goal.key with
  | none =>
    unfold PathSearch.waypoints at h
    rw [if_pos hfound] at h
    cases h
    exact List.IsChain.nil
  | some d =>
    obtain ⟨Pending, hinv⟩ := hended.invariant
    obtain ⟨path, c, hpath, hwalk, -⟩ := PathSearch.cellPath_of_found hended.formed hinv hfound
    obtain ⟨first, rest, hpoints⟩ := List.exists_cons_of_ne_nil
      (List.append_ne_nil_of_right_ne_nil (path.map PathCell.point) (List.cons_ne_nil goalPoint []))
    rw [waypoints_of_path (by rw [hfound]; simp) hpath hpoints] at h
    refine (simplify_legs ?_ h).1
    rw [← hpoints, List.dropLast_concat]
    exact (walk_legs hwalk).tail

/-- The plan goes through a search, which ended. -/
structure Searches (hypot : ℚ → ℚ → ℚ) (snapshot : PathSnapshot) (startPoint goalPoint : NavigationPoint)
    (start goal : PathCell) (how : PathEnd) (search : PathSearch) : Prop where
  hidden : snapshot.navigable startPoint goalPoint = some false
  startCell : nearestOpenPathCell hypot snapshot startPoint = some start
  goalCell : nearestOpenPathCell hypot snapshot goalPoint = some goal
  ended : searchPath snapshot (.around hypot snapshot startPoint goalPoint) start goal = some (how, search)

private theorem Searches.plan {hypot : ℚ → ℚ → ℚ} {startPoint goalPoint : NavigationPoint} {start goal : PathCell}
    {how : PathEnd} {search : PathSearch} (h : Searches hypot snapshot startPoint goalPoint start goal how search) :
    planNavigationPath hypot snapshot startPoint goalPoint =
      search.waypoints snapshot startPoint goalPoint start goal := by
  unfold planNavigationPath
  rw [h.hidden, h.startCell, h.goalCell]
  simp only [Option.bind_eq_bind, Option.bind_some]
  rw [h.ended]
  rfl

/-- A search that pops the goal traces a path of moves back whose cost is least, and the waypoints are made of it; a
search that runs dry gives no path only if there is none; and every leg between waypoints but the last is navigable. -/
theorem planNavigationPath_spec (hypot : ℚ → ℚ → ℚ) (snapshot : PathSnapshot)
    (startPoint goalPoint : NavigationPoint) :
    (∀ start goal search, Searches hypot snapshot startPoint goalPoint start goal .goal search →
      ∃ path c, search.cellPath start goal = some (some path) ∧
        IsWalk (PathMove snapshot (.around hypot snapshot startPoint goalPoint)) start path goal c ∧
        (∀ path' c', IsWalk (PathMove snapshot (.around hypot snapshot startPoint goalPoint)) start path' goal c' →
          c ≤ c') ∧
        ∀ first rest, path.map PathCell.point ++ [goalPoint] = first :: rest →
          planNavigationPath hypot snapshot startPoint goalPoint = simplify snapshot startPoint first rest) ∧
    (∀ start goal search, Searches hypot snapshot startPoint goalPoint start goal .dry search →
      planNavigationPath hypot snapshot startPoint goalPoint = some [] → ∀ path c,
        ¬IsWalk (PathMove snapshot (.around hypot snapshot startPoint goalPoint)) start path goal c) ∧
    ∀ points, planNavigationPath hypot snapshot startPoint goalPoint = some points →
      points.dropLast.IsChain (Leg snapshot) := by
  refine ⟨fun start goal search h => ?_, fun start goal search h hnone path c hwalk => ?_, fun points h => ?_⟩
  · have hended := PathSearch.searchPath_ended h.ended
    obtain ⟨Pending, hinv⟩ := hended.invariant
    obtain ⟨g, hg, hleast⟩ := hended.least rfl
    obtain ⟨path, c, hpath, hwalk, hle⟩ := PathSearch.cellPath_of_found hended.formed hinv hg
    refine ⟨path, c, hpath, hwalk, fun path' c' hwalk' => hle.trans (hleast path' c' hwalk'),
      fun first rest hpoints => ?_⟩
    rw [h.plan]
    exact waypoints_of_path (by rw [show search.costs.lookup goal.key = some g from hg]; simp) hpath hpoints
  · have hended := PathSearch.searchPath_ended h.ended
    obtain ⟨Pending, hinv⟩ := hended.invariant
    obtain ⟨d, hd⟩ := Option.ne_none_iff_exists'.1 (hended.all rfl path c hwalk)
    obtain ⟨path', c', hpath, -⟩ := PathSearch.cellPath_of_found hended.formed hinv hd
    obtain ⟨first, rest, hpoints⟩ := List.exists_cons_of_ne_nil
      (List.append_ne_nil_of_right_ne_nil (path'.map PathCell.point) (List.cons_ne_nil goalPoint []))
    rw [h.plan, waypoints_of_path (by rw [show search.costs.lookup goal.key = some d from hd]; simp) hpath hpoints]
      at hnone
    exact simplify_ne_nil hnone rfl
  · unfold planNavigationPath at h
    obtain ⟨clear, hclear, h⟩ := Option.bind_eq_some_iff.1 h
    cases clear with
    | true =>
      cases h
      exact List.IsChain.nil
    | false =>
      cases hstart : nearestOpenPathCell hypot snapshot startPoint with
      | none =>
        rw [hstart] at h
        cases h
        exact List.IsChain.nil
      | some start =>
        cases hgoal : nearestOpenPathCell hypot snapshot goalPoint with
        | none =>
          rw [hstart, hgoal] at h
          cases h
          exact List.IsChain.nil
        | some goal =>
          rw [hstart, hgoal] at h
          obtain ⟨⟨how, search⟩, hsearch, h⟩ := Option.bind_eq_some_iff.1 h
          exact waypoints_legs (PathSearch.searchPath_ended hsearch) h

end

/-- One obstacle between two cells. -/
private def screen : PathSnapshot where
  obstacles := some [⟨.finite 25, .finite 20, .finite 1, .finite 1⟩]
  navigation := Option.none
  width := .finite 40
  height := .finite 40

private def sumOfSides (x y : ℚ) : ℚ := |x| + |y|

/-- The search around an obstacle pops the goal, and its path costs the least. -/
theorem planNavigationPath_screen : ∃ search path c,
    Searches sumOfSides screen ⟨20, 20⟩ ⟨30, 20⟩ ⟨2, 2⟩ ⟨3, 2⟩ .goal search ∧
      search.cellPath ⟨2, 2⟩ ⟨3, 2⟩ = some (some path) ∧
      IsWalk (PathMove screen (.around sumOfSides screen ⟨20, 20⟩ ⟨30, 20⟩)) ⟨2, 2⟩ path ⟨3, 2⟩ c ∧
      ∀ path' c', IsWalk (PathMove screen (.around sumOfSides screen ⟨20, 20⟩ ⟨30, 20⟩)) ⟨2, 2⟩ path' ⟨3, 2⟩ c' →
        c ≤ c' := by
  have hend : (searchPath screen (.around sumOfSides screen ⟨20, 20⟩ ⟨30, 20⟩) ⟨2, 2⟩ ⟨3, 2⟩).map Prod.fst =
      some .goal := by decide +kernel
  obtain ⟨⟨how, search⟩, hsearch, rfl⟩ := Option.map_eq_some_iff.1 hend
  have h : Searches sumOfSides screen ⟨20, 20⟩ ⟨30, 20⟩ ⟨2, 2⟩ ⟨3, 2⟩ .goal search :=
    ⟨by decide +kernel, by decide +kernel, by decide +kernel, hsearch⟩
  obtain ⟨path, c, hpath, hwalk, hleast, -⟩ :=
    (planNavigationPath_spec sumOfSides screen ⟨20, 20⟩ ⟨30, 20⟩).1 _ _ search h
  exact ⟨search, path, c, h, hpath, hwalk, hleast⟩

end Opsia
