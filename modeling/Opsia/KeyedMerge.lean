import Mathlib.Data.List.Nodup
import Mathlib.Tactic.Common

/-!
# Merging lists by key

A `KeyedMerge` merges a list of patches into a list of entries: a patch is applied to the first entry that has its key,
and where there is none it makes an entry of its own, after the others.  A merge that leaves the entries as they are is
one whose patches all find their entry and change nothing in it (`KeyedMerge.merge_eq_self_iff`); a second merge of
patches with the same keys, which say the same fields, leaves nothing of the first (`KeyedMerge.merge_merge`).
-/

namespace Opsia

/-- How patches are merged into entries that have a key each. -/
structure KeyedMerge (α π κ : Type*) where
  key : α → κ
  patchKey : π → κ
  patch : π → α → α
  create : π → α
  key_patch : ∀ p x, key (patch p x) = key x
  key_create : ∀ p, key (create p) = patchKey p

namespace KeyedMerge

variable {α π κ : Type*} [DecidableEq κ] (m : KeyedMerge α π κ)

/-- The patch for a key. -/
def find (ps : List π) (k : κ) : Option π := ps.find? fun p => decide (m.patchKey p = k)

/-- The patches for the other keys. -/
def others (ps : List π) (k : κ) : List π := ps.filter fun p => decide (m.patchKey p ≠ k)

/-- Patches merged into a list. -/
def merge : List π → List α → List α
  | ps, [] => ps.map m.create
  | ps, x :: xs =>
    match m.find ps (m.key x) with
    | some p => m.patch p x :: merge (m.others ps (m.key x)) xs
    | none => x :: merge ps xs

variable {m} {ps qs : List π} {k : κ}

theorem find_eq_none : m.find ps k = none ↔ k ∉ ps.map m.patchKey := by
  unfold find
  rw [List.find?_eq_none, List.mem_map]
  constructor
  · rintro h ⟨p, hp, hk⟩
    exact h p hp (decide_eq_true hk)
  · intro h p hp hk
    exact h ⟨p, hp, of_decide_eq_true hk⟩

theorem find_some {p : π} (h : m.find ps k = some p) : p ∈ ps ∧ m.patchKey p = k := by
  unfold find at h
  have hkey := List.find?_some h
  exact ⟨List.mem_of_find?_eq_some h, of_decide_eq_true hkey⟩

theorem mem_others {p : π} : p ∈ m.others ps k ↔ p ∈ ps ∧ m.patchKey p ≠ k := by
  unfold others
  rw [List.mem_filter, decide_eq_true_iff]

theorem map_others (ps : List π) (k : κ) :
    (m.others ps k).map m.patchKey = (ps.map m.patchKey).filter fun l => decide (l ≠ k) := by
  unfold others
  rw [List.filter_map]
  rfl

theorem nodup_others (h : (ps.map m.patchKey).Nodup) : ((m.others ps k).map m.patchKey).Nodup := by
  rw [map_others]
  exact h.filter _

theorem merge_nil : m.merge ps [] = ps.map m.create := by
  rw [merge]

theorem merge_cons_some {x : α} {p : π} (h : m.find ps (m.key x) = some p) (xs : List α) :
    m.merge ps (x :: xs) = m.patch p x :: m.merge (m.others ps (m.key x)) xs := by
  rw [merge, h]

theorem merge_cons_none {x : α} (h : m.find ps (m.key x) = none) (xs : List α) :
    m.merge ps (x :: xs) = x :: m.merge ps xs := by
  rw [merge, h]

/-- A merge changes nothing just when every patch finds its entry and changes nothing in it. -/
theorem merge_eq_self_iff (hnodup : (ps.map m.patchKey).Nodup) (l : List α) :
    m.merge ps l = l ↔
      ∀ p ∈ ps, ∃ x, l.find? (fun x => decide (m.key x = m.patchKey p)) = some x ∧ m.patch p x = x := by
  induction l generalizing ps with
  | nil =>
    rw [merge_nil, List.map_eq_nil_iff]
    constructor
    · rintro rfl p hp
      cases hp
    · intro h
      refine List.eq_nil_iff_forall_not_mem.2 fun p hp => ?_
      obtain ⟨x, hx, -⟩ := h p hp
      cases hx
  | cons x xs ih =>
    cases hfind : m.find ps (m.key x) with
    | none =>
      rw [merge_cons_none hfind, List.cons.injEq, and_iff_right rfl, ih hnodup]
      refine forall₂_congr fun p hp => ?_
      have hne : m.key x ≠ m.patchKey p := by
        rintro heq
        exact find_eq_none.1 hfind (heq ▸ List.mem_map_of_mem hp)
      rw [List.find?_cons_of_neg (by simpa using hne)]
    | some p =>
      obtain ⟨hp, hkey⟩ := find_some hfind
      have hhead : (x :: xs).find? (fun y => decide (m.key y = m.patchKey p)) = some x :=
        List.find?_cons_of_pos (decide_eq_true hkey.symm)
      have hothers : ∀ q ∈ m.others ps (m.key x),
          (x :: xs).find? (fun y => decide (m.key y = m.patchKey q)) =
            xs.find? fun y => decide (m.key y = m.patchKey q) := by
        intro q hq
        have hne : m.patchKey q ≠ m.key x := (mem_others.1 hq).2
        exact List.find?_cons_of_neg (by simpa using Ne.symm hne)
      rw [merge_cons_some hfind, List.cons.injEq, ih (nodup_others hnodup)]
      constructor
      · rintro ⟨hpatch, hrest⟩ q hq
        by_cases hqk : m.patchKey q = m.key x
        · obtain rfl : q = p := List.inj_on_of_nodup_map hnodup hq hp (hqk.trans hkey.symm)
          exact ⟨x, hhead, hpatch⟩
        · have hmem : q ∈ m.others ps (m.key x) := mem_others.2 ⟨hq, hqk⟩
          rw [hothers q hmem]
          exact hrest q hmem
      · intro h
        refine ⟨?_, fun q hq => ?_⟩
        · obtain ⟨y, hy, hpatch⟩ := h p hp
          rw [hhead] at hy
          cases hy
          exact hpatch
        · obtain ⟨y, hy, hpatch⟩ := h q (mem_others.1 hq).1
          rw [hothers q hq] at hy
          exact ⟨y, hy, hpatch⟩

/-- Merged into what the same keys have made, patches make what they make alone. -/
private theorem merge_created (hkeys : ps.map m.patchKey = qs.map m.patchKey) (hnodup : (qs.map m.patchKey).Nodup)
    (hcreate : ∀ p ∈ ps, ∀ q ∈ qs, m.patchKey p = m.patchKey q → m.patch q (m.create p) = m.create q) :
    m.merge qs (ps.map m.create) = qs.map m.create := by
  induction ps generalizing qs with
  | nil =>
    obtain rfl : qs = [] := List.map_eq_nil_iff.1 hkeys.symm
    rfl
  | cons p ps ih =>
    cases qs with
    | nil => cases hkeys
    | cons q qs =>
      rw [List.map_cons, List.map_cons, List.cons.injEq] at hkeys
      obtain ⟨hkey, hkeys⟩ := hkeys
      rw [List.map_cons, List.nodup_cons] at hnodup
      have hfind : m.find (q :: qs) (m.key (m.create p)) = some q := by
        rw [m.key_create, hkey]
        exact List.find?_cons_of_pos (decide_eq_true rfl)
      have hothers : m.others (q :: qs) (m.key (m.create p)) = qs := by
        rw [m.key_create, hkey]
        unfold others
        rw [List.filter_cons_of_neg (by simp), List.filter_eq_self]
        intro r hr
        refine decide_eq_true fun heq => hnodup.1 ?_
        rw [← heq]
        exact List.mem_map_of_mem hr
      have hfirst : m.patch q (m.create p) = m.create q := hcreate p List.mem_cons_self q List.mem_cons_self hkey
      have hrest := ih hkeys hnodup.2 fun p' hp q' hq =>
        hcreate p' (List.mem_cons_of_mem p hp) q' (List.mem_cons_of_mem q hq)
      rw [List.map_cons, merge_cons_some hfind, hothers, hfirst, hrest, List.map_cons]

/-- Patches that say the same fields of the same keys leave nothing of the patches before them. -/
theorem merge_merge (hkeys : ps.map m.patchKey = qs.map m.patchKey) (hnodup : (qs.map m.patchKey).Nodup)
    (hpatch : ∀ p ∈ ps, ∀ q ∈ qs, ∀ x, m.patchKey p = m.patchKey q → m.patch q (m.patch p x) = m.patch q x)
    (hcreate : ∀ p ∈ ps, ∀ q ∈ qs, m.patchKey p = m.patchKey q → m.patch q (m.create p) = m.create q) (l : List α) :
    m.merge qs (m.merge ps l) = m.merge qs l := by
  induction l generalizing ps qs with
  | nil =>
    rw [merge_nil, merge_nil]
    exact merge_created hkeys hnodup hcreate
  | cons x xs ih =>
    cases hq : m.find qs (m.key x) with
    | none =>
      have hp : m.find ps (m.key x) = none := by
        rw [find_eq_none, hkeys]
        exact find_eq_none.1 hq
      rw [merge_cons_none hp, merge_cons_none hq, merge_cons_none hq, ih hkeys hnodup hpatch hcreate]
    | some q =>
      cases hp : m.find ps (m.key x) with
      | none =>
        have hnone := find_eq_none.1 hp
        rw [hkeys, ← find_eq_none, hq] at hnone
        cases hnone
      | some p =>
        have hkey : m.key (m.patch p x) = m.key x := m.key_patch p x
        have hsame : m.patchKey p = m.patchKey q := (find_some hp).2.trans (find_some hq).2.symm
        have hothers : (m.others ps (m.key x)).map m.patchKey = (m.others qs (m.key x)).map m.patchKey := by
          rw [map_others, map_others, hkeys]
        have hq' : m.find qs (m.key (m.patch p x)) = some q := by rw [hkey, hq]
        have hfirst : m.patch q (m.patch p x) = m.patch q x :=
          hpatch p (find_some hp).1 q (find_some hq).1 x hsame
        have hrest := ih hothers (nodup_others hnodup)
          (fun p' hp' q' hq' => hpatch p' (mem_others.1 hp').1 q' (mem_others.1 hq').1)
          fun p' hp' q' hq' => hcreate p' (mem_others.1 hp').1 q' (mem_others.1 hq').1
        rw [merge_cons_some hp, merge_cons_some hq', merge_cons_some hq, hkey, hfirst, hrest]

end KeyedMerge

end Opsia
