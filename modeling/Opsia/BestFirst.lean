import Mathlib.Algebra.Order.Group.Defs
import Mathlib.Data.Finset.Card
import Mathlib.Data.Set.Finite.Basic
import Mathlib.Order.Basic

/-!
# Best-first search with lazy deletion

A search keeps the least cost found for each vertex, the vertex it was found from, and the queued pairs of a vertex and
the cost it was queued at; a pair whose vertex has a lower cost by now is stale and passed over.  `Invariant` says what
holds between the rounds and, up to the moves of the current vertex that are pending, within a round; it is kept by a
pop (`Invariant.pop_stale`, `Invariant.pop`) and by trying a move (`Invariant.relax`).  With a consistent estimate the
cost of the goal is least when a queued pair of it is popped (`Invariant.le_of_popped`); a search whose queue is empty
has found every vertex that a walk reaches (`Invariant.found_of_dry`); and the vertices lead back to the start without a
repetition along a walk that costs no more than what was found (`Invariant.exists_chain`).
-/

namespace Opsia.BestFirst

section

variable {V K : Type*} [AddCommGroup K]

/-- A walk from a vertex through a list of vertices to the last of them, with its cost. -/
inductive IsWalk (Move : V → V → K → Prop) : V → List V → V → K → Prop
  | nil (v : V) : IsWalk Move v [] v 0
  | cons {u v x : V} {w c : K} {path : List V} (move : Move u v w) (walk : IsWalk Move v path x c) :
    IsWalk Move u (v :: path) x (w + c)

variable {Move : V → V → K → Prop}

theorem IsWalk.snoc {u v x : V} {w c : K} {path : List V} (h : IsWalk Move u path v c) (move : Move v x w) :
    IsWalk Move u (path ++ [x]) x (c + w) := by
  induction h with
  | nil v =>
    have hwalk := IsWalk.cons move (.nil x)
    rwa [add_zero, ← zero_add w] at hwalk
  | cons first _ ih => exact add_assoc _ _ w ▸ .cons first (ih move)

/-- The list of vertices after the start that lead to a vertex, each found from the one before it. -/
inductive Leads (parent : V → V → Prop) (start : V) : V → List V → Prop
  | nil : Leads parent start start []
  | snoc {u v : V} {path : List V} (leads : Leads parent start u path) (found : parent v u) (ne : v ≠ start) :
    Leads parent start v (path ++ [v])

structure Search (V K : Type*) where
  cost : V → Option K
  /-- The second vertex is where the first one was found from. -/
  parent : V → V → Prop
  queue : Set (V × K)

namespace Search

variable [DecidableEq V]

/-- A vertex is found from another one, at a lower cost than before. -/
def improve (s : Search V K) (u v : V) (c : K) : Search V K where
  cost x := if x = v then some c else s.cost x
  parent x y := if x = v then y = u else s.parent x y
  queue := insert (v, c) s.queue

variable [LinearOrder K]

/-- The two ways of trying a move: the vertex has a cost that is as low, or it is found at a lower one. -/
inductive Relaxes (s : Search V K) (u v : V) (c : K) : Search V K → Prop
  | keep {e : K} (cost : s.cost v = some e) (le : e ≤ c) : Relaxes s u v c s
  | improve (lt : ∀ e, s.cost v = some e → c < e) : Relaxes s u v c (s.improve u v c)

omit [DecidableEq V] [AddCommGroup K] [LinearOrder K] in
/-- A pair is taken from the queue, at least once. -/
structure Pops (s s' : Search V K) (u : V) (g : K) : Prop where
  cost : s'.cost = s.cost
  parent : s'.parent = s.parent
  mem : (u, g) ∈ s.queue
  subset : s'.queue ⊆ s.queue
  others : ∀ e ∈ s.queue, e ≠ (u, g) → e ∈ s'.queue

end Search

/-- The search that has found the start only. -/
def initial [DecidableEq V] (start : V) : Search V K where
  cost v := if v = start then some 0 else none
  parent _ _ := False
  queue := {(start, 0)}

variable [LinearOrder K]

/-- What holds of a search, with moves that are still to be tried. -/
structure Invariant (Move : V → V → K → Prop) (start : V) (Pending : V → V → K → Prop) (s : Search V K) : Prop where
  origin : s.cost start = some 0
  nonneg : ∀ v d, s.cost v = some d → 0 ≤ d
  queued : ∀ v g, (v, g) ∈ s.queue → ∃ d, s.cost v = some d ∧ d ≤ g
  linked : ∀ v d, s.cost v = some d → v ≠ start →
    ∃ u d' w, s.parent v u ∧ s.cost u = some d' ∧ Move u v w ∧ d' + w ≤ d
  closed : ∀ v d, s.cost v = some d → (v, d) ∈ s.queue ∨
    ∀ x w, Move v x w → Pending v x w ∨ ∃ e, s.cost x = some e ∧ e ≤ d + w
  finite : {v | s.cost v ≠ none}.Finite

/-- No move is pending. -/
def None : V → V → K → Prop := fun _ _ _ => False

variable {start : V} {s s' : Search V K} {Pending : V → V → K → Prop} {u v : V} {g w : K}

theorem Invariant.initial [DecidableEq V] : Invariant Move start None (initial start) where
  origin := if_pos rfl
  nonneg v d h := by
    unfold BestFirst.initial at h
    dsimp only at h
    split at h
    · cases h
      exact le_rfl
    · cases h
  queued v g h := by
    obtain ⟨rfl, rfl⟩ := Prod.mk.injEq .. ▸ Set.mem_singleton_iff.1 h
    exact ⟨0, if_pos rfl, le_rfl⟩
  linked v d h hne := by
    unfold BestFirst.initial at h
    dsimp only at h
    rw [if_neg hne] at h
    cases h
  closed v d h := by
    unfold BestFirst.initial at h ⊢
    dsimp only at h ⊢
    split at h
    · rename_i hv
      cases h
      exact .inl (by rw [hv]; rfl)
    · cases h
  finite := by
    refine (Set.finite_singleton start).subset fun v hv => ?_
    by_contra hne
    exact hv (if_neg hne)

/-- A stale pair is passed over. -/
theorem Invariant.pop_stale (h : Invariant Move start None s) (hpop : s.Pops s' u g)
    (hstale : ∃ d, s.cost u = some d ∧ d < g) : Invariant Move start None s' := by
  obtain ⟨hcost, hparent, -, hsub, hothers⟩ := hpop
  obtain ⟨d₀, hd₀, hlt⟩ := hstale
  refine ⟨by rw [hcost]; exact h.origin, by rw [hcost]; exact h.nonneg, fun v g hv => ?_,
    by rw [hcost, hparent]; exact h.linked, fun v d hd => ?_, by rw [hcost]; exact h.finite⟩
  · rw [hcost]
    exact h.queued v g (hsub hv)
  · rw [hcost] at hd ⊢
    refine (h.closed v d hd).imp_left fun hv => hothers _ hv fun heq => ?_
    obtain ⟨rfl, rfl⟩ := Prod.mk.injEq .. ▸ heq
    rw [hd₀] at hd
    cases hd
    exact lt_irrefl _ hlt

/-- A pair that is not stale is popped, and all moves of its vertex are to be tried. -/
theorem Invariant.pop (h : Invariant Move start None s) (hpop : s.Pops s' u g) :
    Invariant Move start (fun a _ _ => a = u) s' := by
  obtain ⟨hcost, hparent, -, hsub, hothers⟩ := hpop
  refine ⟨by rw [hcost]; exact h.origin, by rw [hcost]; exact h.nonneg, fun v g hv => ?_,
    by rw [hcost, hparent]; exact h.linked, fun v d hd => ?_, by rw [hcost]; exact h.finite⟩
  · rw [hcost]
    exact h.queued v g (hsub hv)
  · rw [hcost] at hd ⊢
    by_cases hvu : v = u
    · exact .inr fun x w _ => .inl hvu
    · rcases h.closed v d hd with hv | hmoves
      · exact .inl (hothers _ hv fun heq => hvu (Prod.mk.injEq .. ▸ heq).1)
      · exact .inr fun x w hmove => .inr ((hmoves x w hmove).resolve_left id)

/-- A move that is not one, or was tried, need not be pending. -/
theorem Invariant.forget (h : Invariant Move start Pending s) {Fewer : V → V → K → Prop}
    (hfewer : ∀ v d x w, s.cost v = some d → Move v x w → Pending v x w →
      Fewer v x w ∨ ∃ e, s.cost x = some e ∧ e ≤ d + w) : Invariant Move start Fewer s where
  origin := h.origin
  nonneg := h.nonneg
  queued := h.queued
  linked := h.linked
  closed v d hd := (h.closed v d hd).imp_right fun hmoves x w hmove => by
    rcases hmoves x w hmove with hpending | hfound
    · exact hfewer v d x w hd hmove hpending
    · exact .inr hfound
  finite := h.finite

variable [DecidableEq V] [IsOrderedAddMonoid K]

/-- A vertex that is found at a lower cost is neither the start nor the vertex it is found from. -/
private theorem Invariant.improve (h : Invariant Move start Pending s) (hu : s.cost u = some g) (hmove : Move u v w)
    (hpos : 0 < w) (hlt : ∀ e, s.cost v = some e → g + w < e) :
    Invariant Move start Pending (s.improve u v (g + w)) := by
  have hg := h.nonneg u g hu
  have hstart : start ≠ v := by
    rintro rfl
    exact absurd (hlt 0 h.origin) (not_lt.2 (add_nonneg hg hpos.le))
  have huv : u ≠ v := by
    rintro rfl
    exact absurd (hlt g hu) (not_lt.2 (le_add_of_nonneg_right hpos.le))
  -- a cost that was found stays as low or becomes lower
  have hlower : ∀ x e, s.cost x = some e → ∃ e', (s.improve u v (g + w)).cost x = some e' ∧ e' ≤ e := by
    intro x e hx
    by_cases hxv : x = v
    · subst hxv
      exact ⟨g + w, if_pos rfl, (hlt e hx).le⟩
    · exact ⟨e, (if_neg hxv).trans hx, le_rfl⟩
  refine ⟨(if_neg hstart).trans h.origin, fun x d hx => ?_, fun x gx hx => ?_, fun x d hx hne => ?_,
    fun x d hx => ?_, ?_⟩
  · by_cases hxv : x = v
    · cases (if_pos hxv).symm.trans hx
      exact add_nonneg hg hpos.le
    · exact h.nonneg x d ((if_neg hxv).symm.trans hx)
  · rcases hx with heq | hx
    · obtain ⟨rfl, rfl⟩ := Prod.mk.injEq .. ▸ heq
      exact ⟨g + w, if_pos rfl, le_rfl⟩
    · obtain ⟨d, hd, hle⟩ := h.queued x gx hx
      obtain ⟨e, he, hed⟩ := hlower x d hd
      exact ⟨e, he, hed.trans hle⟩
  · by_cases hxv : x = v
    · cases (if_pos hxv).symm.trans hx
      subst hxv
      refine ⟨u, g, w, ?_, (if_neg huv).trans hu, hmove, le_rfl⟩
      unfold Search.improve
      dsimp only
      rw [if_pos rfl]
    · obtain ⟨y, d', w', hparent, hy, hmove', hle⟩ := h.linked x d ((if_neg hxv).symm.trans hx) hne
      obtain ⟨e, he, hed⟩ := hlower y d' hy
      refine ⟨y, e, w', ?_, he, hmove', (add_le_add_left hed w').trans hle⟩
      unfold Search.improve
      dsimp only
      rwa [if_neg hxv]
  · by_cases hxv : x = v
    · cases (if_pos hxv).symm.trans hx
      exact .inl (.inl (by rw [hxv]))
    · refine (h.closed x d ((if_neg hxv).symm.trans hx)).imp .inr fun hmoves y w' hmove' => ?_
      refine (hmoves y w' hmove').imp_right fun ⟨e, he, hle⟩ => ?_
      obtain ⟨e', he', hle'⟩ := hlower y e he
      exact ⟨e', he', hle'.trans hle⟩
  · refine (h.finite.insert v).subset fun x hx => ?_
    by_cases hxv : x = v
    · exact .inl hxv
    · exact .inr fun hnone => hx ((if_neg hxv).trans hnone)

/-- A move of the current vertex is tried: it is not pending any more, and the vertex keeps its cost. -/
theorem Invariant.relax (h : Invariant Move start Pending s) (hu : s.cost u = some g) (hmove : Move u v w)
    (hpos : 0 < w) (hrelax : s.Relaxes u v (g + w) s') :
    Invariant Move start (fun a x b => Pending a x b ∧ ¬(a = u ∧ x = v ∧ b = w)) s' ∧ s'.cost u = some g := by
  cases hrelax with
  | keep hcost hle =>
    refine ⟨h.forget fun a d x b hd _ hpending => ?_, hu⟩
    by_cases htried : a = u ∧ x = v ∧ b = w
    · obtain ⟨rfl, rfl, rfl⟩ := htried
      rw [hu] at hd
      cases hd
      exact .inr ⟨_, hcost, hle⟩
    · exact .inl ⟨hpending, htried⟩
  | improve hlt =>
    have huv : u ≠ v := by
      rintro rfl
      exact absurd (hlt g hu) (not_lt.2 (le_add_of_nonneg_right hpos.le))
    have hu' : (s.improve u v (g + w)).cost u = some g := (if_neg huv).trans hu
    refine ⟨(h.improve hu hmove hpos hlt).forget fun a d x b hd _ hpending => ?_, hu'⟩
    by_cases htried : a = u ∧ x = v ∧ b = w
    · obtain ⟨rfl, rfl, rfl⟩ := htried
      rw [hu'] at hd
      cases hd
      exact .inr ⟨g + b, if_pos rfl, le_rfl⟩
    · exact .inl ⟨hpending, htried⟩

/-! ### What a search has found -/

omit [DecidableEq V] in
/-- The vertices that led to a found vertex, back to the start: a walk that costs no more than what was found, without a
repetition. -/
theorem Invariant.exists_chain (h : Invariant Move start Pending s) (hmoves : ∀ u v w, Move u v w → 0 < w) {d : K}
    (hv : s.cost v = some d) :
    ∃ path c, IsWalk Move start path v c ∧ c ≤ d ∧ Leads s.parent start v path ∧ path.Nodup ∧
      ∀ x ∈ path, ∃ e, s.cost x = some e ∧ e ≤ d := by
  classical
  -- the induction is on the number of vertices that cost no more
  obtain ⟨n, hn⟩ : ∃ n, (h.finite.toFinset.filter fun x => ∃ e, s.cost x = some e ∧ e ≤ d).card = n := ⟨_, rfl⟩
  induction n using Nat.strongRecOn generalizing v d with
  | ind n ih =>
    by_cases hstart : v = start
    · subst hstart
      exact ⟨[], 0, .nil v, h.nonneg v d hv, .nil, List.nodup_nil, fun x hx => absurd hx List.not_mem_nil⟩
    · obtain ⟨u, d', w, hparent, hu, hmove, hle⟩ := h.linked v d hv hstart
      have hlt : d' < d := (lt_add_of_pos_right d' (hmoves u v w hmove)).trans_le hle
      have hfewer : (h.finite.toFinset.filter fun x => ∃ e, s.cost x = some e ∧ e ≤ d').card < n := by
        rw [← hn]
        refine Finset.card_lt_card ⟨fun x hx => ?_, fun hsub => ?_⟩
        · obtain ⟨hfound, e, he, hle'⟩ := Finset.mem_filter.1 hx
          exact Finset.mem_filter.2 ⟨hfound, e, he, hle'.trans hlt.le⟩
        · have hfound : v ∈ h.finite.toFinset := h.finite.mem_toFinset.2 fun hnone => by
            rw [hv] at hnone
            cases hnone
          obtain ⟨-, e, he, hle'⟩ := Finset.mem_filter.1 (hsub (Finset.mem_filter.2 ⟨hfound, d, hv, le_rfl⟩))
          rw [hv] at he
          cases he
          exact absurd hlt (not_lt.2 hle')
      obtain ⟨path, c, hwalk, hc, hleads, hnodup, hcosts⟩ := ih _ hfewer hu rfl
      refine ⟨path ++ [v], c + w, hwalk.snoc hmove, (add_le_add_left hc w).trans hle, hleads.snoc hparent hstart,
        hnodup.append (List.nodup_singleton v) fun x hx hx' => ?_, fun x hx => ?_⟩
      · obtain ⟨e, he, hle'⟩ := hcosts x hx
        rw [List.mem_singleton.1 hx', hv] at he
        cases he
        exact absurd hlt (not_lt.2 hle')
      · rcases List.mem_append.1 hx with hx | hx
        · obtain ⟨e, he, hle'⟩ := hcosts x hx
          exact ⟨e, he, hle'.trans hlt.le⟩
        · rw [List.mem_singleton.1 hx]
          exact ⟨d, hv, le_rfl⟩

omit [DecidableEq V] in
/-- When a pair of the goal is popped that is least by its estimate, its cost is least among all walks. -/
theorem Invariant.le_of_popped (h : Invariant Move start None s) {estimate : V → K}
    (hconsistent : ∀ u v w, Move u v w → estimate u ≤ w + estimate v) {goal : V} {g : K}
    (hgoal : s.cost goal = some g) (hleast : ∀ v d, (v, d) ∈ s.queue → g + estimate goal ≤ d + estimate v)
    {path : List V} {c : K} (hwalk : IsWalk Move start path goal c) : g ≤ c := by
  -- the estimate of a vertex is no more than the cost of a walk from it
  have hestimate : ∀ {u x : V} {path : List V} {c : K}, IsWalk Move u path x c → estimate u ≤ c + estimate x := by
    intro u x path c hw
    induction hw with
    | nil v => rw [zero_add]
    | cons move _ ih =>
      rw [add_assoc]
      exact (hconsistent _ _ _ move).trans (add_le_add_right ih _)
  have hfrom : ∀ {u x : V} {path : List V} {c d : K}, IsWalk Move u path x c → x = goal → s.cost u = some d →
      g ≤ d + c := by
    intro u x path c d hw hx hd
    induction hw generalizing d with
    | nil v =>
      subst hx
      rw [hgoal] at hd
      cases hd
      rw [add_zero]
    | @cons u v x w c path move walk ih =>
      rcases h.closed u d hd with hqueued | hclosed
      · subst hx
        have hle := hestimate (.cons move walk)
        refine le_of_add_le_add_right (a := estimate x) ?_
        calc g + estimate x ≤ d + estimate u := hleast u d hqueued
          _ ≤ d + (w + c + estimate x) := add_le_add_right hle d
          _ = d + (w + c) + estimate x := (add_assoc ..).symm
      · obtain ⟨e, he, hle⟩ := (hclosed v w move).resolve_left id
        calc g ≤ e + c := ih hx he
          _ ≤ d + w + c := add_le_add_left hle c
          _ = d + (w + c) := add_assoc ..
  have := hfrom hwalk rfl h.origin
  rwa [zero_add] at this

omit [DecidableEq V] [IsOrderedAddMonoid K] in
/-- When nothing is queued, every vertex that a walk reaches has been found. -/
theorem Invariant.found_of_dry (h : Invariant Move start None s) (hdry : s.queue = ∅) {path : List V} {c : K}
    (hwalk : IsWalk Move start path v c) : s.cost v ≠ none := by
  have hfrom : ∀ {u x : V} {path : List V} {c : K}, IsWalk Move u path x c → s.cost u ≠ none → s.cost x ≠ none := by
    intro u x path c hw hu
    induction hw with
    | nil v => exact hu
    | cons move _ ih =>
      obtain ⟨d, hd⟩ := Option.ne_none_iff_exists'.1 hu
      obtain ⟨e, he, -⟩ := (((h.closed _ d hd).resolve_left (by rw [hdry]; exact id)) _ _ move).resolve_left id
      exact ih (by rw [he]; simp)
  exact hfrom hwalk (by rw [h.origin]; simp)

end

end Opsia.BestFirst
