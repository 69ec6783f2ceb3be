import Mathlib.Data.List.Nodup
import Mathlib.Data.List.Perm.Basic
import Mathlib.Logic.Function.Basic

/-!
# Turnstiles

Work on one key is done one at a time, in the order in which it was asked for, when each who asks waits for the one who
asked before.  A ticket names the ticket of its key that was drawn before it, and its holder enters once that has been
released.  `InTurn` says what holds of the tickets that have not been released; drawing, entering and leaving keep it.
-/

namespace Opsia

structure Turnstile (κ : Type) where
  last : κ → Option Nat
  released : Nat → Bool
  next : Nat

namespace Turnstile

variable {κ : Type}

structure Ticket (κ : Type) where
  id : Nat
  key : κ
  previous : Option Nat
  entered : Bool

/-- The ticket that is drawn next. -/
def ticket (t : Turnstile κ) (key : κ) : Ticket κ := ⟨t.next, key, t.last key, false⟩

def mayEnter (t : Turnstile κ) (k : Ticket κ) : Bool := k.previous.all t.released

def Ticket.enter (k : Ticket κ) : Ticket κ := { k with entered := true }

/-- The tickets that are held: the first of a key is the only one that may have entered, every other names the one
before it. -/
structure InTurn (t : Turnstile κ) (held : List (Ticket κ)) : Prop where
  unused : ∀ id, t.next ≤ id → t.released id = false
  fresh : ∀ k ∈ held, k.id < t.next ∧ t.released k.id = false
  nodup : (held.map Ticket.id).Nodup
  chain : ∀ k ∈ held, ∀ k' ∈ held, k.key = k'.key → k.id < k'.id →
    ∃ p ∈ held, k'.previous = some p.id ∧ p.key = k.key ∧ k.id ≤ p.id
  first : ∀ k ∈ held, k.entered = true → ∀ k' ∈ held, k'.key = k.key → k.id ≤ k'.id
  last : ∀ k ∈ held, ∃ q ∈ held, t.last k.key = some q.id ∧ q.key = k.key ∧ k.id ≤ q.id

theorem inTurn_nil {t : Turnstile κ} (h : ∀ id, t.next ≤ id → t.released id = false) : t.InTurn [] := by
  refine ⟨h, ?_, List.nodup_nil, ?_, ?_, ?_⟩
  · exact fun k hk => absurd hk List.not_mem_nil
  · exact fun k hk => absurd hk List.not_mem_nil
  · exact fun k hk => absurd hk List.not_mem_nil
  · exact fun k hk => absurd hk List.not_mem_nil

theorem InTurn.perm {t : Turnstile κ} {held held' : List (Ticket κ)} (h : t.InTurn held) (hp : held.Perm held') :
    t.InTurn held' where
  unused := h.unused
  fresh := fun k hk => h.fresh k (hp.mem_iff.2 hk)
  nodup := (hp.map Ticket.id).nodup_iff.1 h.nodup
  chain := fun k hk k' hk' hkey hlt => by
    obtain ⟨p, hp', hrest⟩ := h.chain k (hp.mem_iff.2 hk) k' (hp.mem_iff.2 hk') hkey hlt
    exact ⟨p, hp.mem_iff.1 hp', hrest⟩
  first := fun k hk hentered k' hk' => h.first k (hp.mem_iff.2 hk) hentered k' (hp.mem_iff.2 hk')
  last := fun k hk => by
    obtain ⟨q, hq, hrest⟩ := h.last k (hp.mem_iff.2 hk)
    exact ⟨q, hp.mem_iff.1 hq, hrest⟩

theorem InTurn.eq_of_id {t : Turnstile κ} {held : List (Ticket κ)} (h : t.InTurn held) {k k' : Ticket κ}
    (hk : k ∈ held) (hk' : k' ∈ held) (hid : k.id = k'.id) : k = k' :=
  List.inj_on_of_nodup_map h.nodup hk hk' hid

/-- Two who have entered for one key are the same. -/
theorem InTurn.alone {t : Turnstile κ} {held : List (Ticket κ)} (h : t.InTurn held) {k k' : Ticket κ} (hk : k ∈ held)
    (hk' : k' ∈ held) (hentered : k.entered = true) (hentered' : k'.entered = true) (hkey : k.key = k'.key) :
    k = k' := by
  have hle := h.first k hk hentered k' hk' hkey.symm
  have hge := h.first k' hk' hentered' k hk hkey
  exact h.eq_of_id hk hk' (Nat.le_antisymm hle hge)

/-- Who has entered for a key is before the others who hold a ticket of it. -/
theorem InTurn.before {t : Turnstile κ} {k : Ticket κ} {rest : List (Ticket κ)} (h : t.InTurn (k :: rest))
    (hentered : k.entered = true) {k' : Ticket κ} (hk' : k' ∈ rest) (hkey : k'.key = k.key) :
    k.id < k'.id ∧ k'.entered = false := by
  have hmem : k' ∈ k :: rest := List.mem_cons_of_mem k hk'
  have hne : k.id ≠ k'.id := by
    intro hid
    have hnodup := h.nodup
    rw [List.map_cons, List.nodup_cons, hid] at hnodup
    exact hnodup.1 (List.mem_map_of_mem hk')
  refine ⟨Nat.lt_of_le_of_ne (h.first k List.mem_cons_self hentered k' hmem hkey) hne, ?_⟩
  rw [Bool.eq_false_iff]
  intro hentered'
  exact hne (congrArg Ticket.id (h.alone List.mem_cons_self hmem hentered hentered' hkey.symm))

theorem InTurn.enter {t : Turnstile κ} {k : Ticket κ} {rest : List (Ticket κ)} (h : t.InTurn (k :: rest))
    (hmay : t.mayEnter k = true) : t.InTurn (k.enter :: rest) := by
  have hmem : ∀ {p : Ticket κ}, p ∈ k :: rest → ∃ p' ∈ k.enter :: rest, p'.id = p.id ∧ p'.key = p.key := by
    intro p hp
    rcases List.mem_cons.1 hp with rfl | hp
    · exact ⟨p.enter, List.mem_cons_self, rfl, rfl⟩
    · exact ⟨p, List.mem_cons_of_mem _ hp, rfl, rfl⟩
  have hold : ∀ {p : Ticket κ}, p ∈ k.enter :: rest → ∃ p' ∈ k :: rest, p'.id = p.id ∧ p'.key = p.key ∧
      p'.previous = p.previous := by
    intro p hp
    rcases List.mem_cons.1 hp with rfl | hp
    · exact ⟨k, List.mem_cons_self, rfl, rfl, rfl⟩
    · exact ⟨p, List.mem_cons_of_mem _ hp, rfl, rfl, rfl⟩
  -- No ticket of the key was drawn before: the one before `k` has been released.
  have hfirst : ∀ k' ∈ k :: rest, k'.key = k.key → k.id ≤ k'.id := by
    intro k' hk' hkey
    refine Nat.le_of_not_lt fun hlt => ?_
    obtain ⟨p, hp, hprevious, -⟩ := h.chain k' hk' k List.mem_cons_self hkey hlt
    rw [mayEnter, hprevious, Option.all_some, (h.fresh p hp).2] at hmay
    cases hmay
  refine ⟨h.unused, fun p hp => ?_, h.nodup, fun p hp p' hp' hkey hlt => ?_, fun p hp hentered p' hp' hkey => ?_,
    fun p hp => ?_⟩
  · obtain ⟨q, hq, hid, -⟩ := hold hp
    rw [← hid]
    exact h.fresh q hq
  · obtain ⟨q, hq, hid, hqk, -⟩ := hold hp
    obtain ⟨q', hq', hid', hqk', hprevious⟩ := hold hp'
    rw [← hqk, ← hqk'] at hkey
    rw [← hid, ← hid'] at hlt
    obtain ⟨r, hr, hrp, hrk, hle⟩ := h.chain q hq q' hq' hkey hlt
    obtain ⟨r', hr', hrid, hrkey⟩ := hmem hr
    exact ⟨r', hr', by rw [← hprevious, hrp, hrid], by rw [hrkey, hrk, hqk], by rw [← hid, hrid]; exact hle⟩
  · obtain ⟨q', hq', hid', hqk', -⟩ := hold hp'
    rw [← hid']
    rcases List.mem_cons.1 hp with rfl | hp
    · exact hfirst q' hq' (hqk'.trans hkey)
    · exact h.first p (List.mem_cons_of_mem _ hp) hentered q' hq' (hqk'.trans hkey)
  · obtain ⟨q, hq, hid, hqk, -⟩ := hold hp
    obtain ⟨r, hr, hlast, hrk, hle⟩ := h.last q hq
    obtain ⟨r', hr', hrid, hrkey⟩ := hmem hr
    exact ⟨r', hr', by rw [← hqk, hlast, hrid], by rw [hrkey, hrk, hqk], by rw [← hid, hrid]; exact hle⟩

variable [DecidableEq κ]

def draw (t : Turnstile κ) (key : κ) : Turnstile κ :=
  { t with last := Function.update t.last key (some t.next), next := t.next + 1 }

def leave (t : Turnstile κ) (k : Ticket κ) : Turnstile κ :=
  { t with
    released := Function.update t.released k.id true
    last := if t.last k.key = some k.id then Function.update t.last k.key none else t.last }

theorem InTurn.draw {t : Turnstile κ} {held : List (Ticket κ)} (h : t.InTurn held) (key : κ) :
    (t.draw key).InTurn (t.ticket key :: held) := by
  have hlt : ∀ k ∈ held, k.id < t.next := fun k hk => (h.fresh k hk).1
  refine ⟨fun id hid => h.unused id (Nat.le_of_succ_le hid), fun k hk => ?_, ?_, fun k hk k' hk' hkey hid => ?_,
    fun k hk hentered k' hk' hkey => ?_, fun k hk => ?_⟩
  · rcases List.mem_cons.1 hk with rfl | hk
    · exact ⟨Nat.lt_succ_self _, h.unused t.next (Nat.le_refl _)⟩
    · exact ⟨Nat.lt_succ_of_lt (hlt k hk), (h.fresh k hk).2⟩
  · rw [List.map_cons, List.nodup_cons]
    refine ⟨fun hin => ?_, h.nodup⟩
    obtain ⟨k, hk, hid⟩ := List.mem_map.1 hin
    exact Nat.ne_of_lt (hlt k hk) hid
  · rcases List.mem_cons.1 hk with rfl | hk
    · rcases List.mem_cons.1 hk' with rfl | hk'
      · exact absurd hid (Nat.lt_irrefl _)
      · exact absurd hid (Nat.not_lt.2 (Nat.le_of_lt (hlt k' hk')))
    · rcases List.mem_cons.1 hk' with rfl | hk'
      · obtain ⟨q, hq, hlast, hqk, hle⟩ := h.last k hk
        refine ⟨q, List.mem_cons_of_mem _ hq, ?_, hqk, hle⟩
        rw [← hlast, hkey]
        rfl
      · obtain ⟨p, hp, hrest⟩ := h.chain k hk k' hk' hkey hid
        exact ⟨p, List.mem_cons_of_mem _ hp, hrest⟩
  · rcases List.mem_cons.1 hk with rfl | hk
    · cases hentered
    · rcases List.mem_cons.1 hk' with rfl | hk'
      · exact Nat.le_of_lt (hlt k hk)
      · exact h.first k hk hentered k' hk' hkey
  · by_cases hkey : k.key = key
    · refine ⟨t.ticket key, List.mem_cons_self, ?_, hkey.symm, ?_⟩
      · rw [hkey]
        exact Function.update_self ..
      · rcases List.mem_cons.1 hk with rfl | hk
        · exact Nat.le_refl _
        · exact Nat.le_of_lt (hlt k hk)
    · rcases List.mem_cons.1 hk with rfl | hk
      · exact absurd rfl hkey
      · obtain ⟨q, hq, hlast, hrest⟩ := h.last k hk
        exact ⟨q, List.mem_cons_of_mem _ hq, (Function.update_of_ne hkey _ _).trans hlast, hrest⟩

theorem InTurn.leave {t : Turnstile κ} {k : Ticket κ} {rest : List (Ticket κ)} (h : t.InTurn (k :: rest))
    (hentered : k.entered = true) : (t.leave k).InTurn rest := by
  have hmem : ∀ {p : Ticket κ}, p ∈ rest → p ∈ k :: rest := fun hp => List.mem_cons_of_mem k hp
  have hnodup := h.nodup
  rw [List.map_cons, List.nodup_cons] at hnodup
  have hne : ∀ p ∈ rest, p.id ≠ k.id := fun p hp hid => hnodup.1 (hid ▸ List.mem_map_of_mem hp)
  -- The ticket that leaves is before the others of its key, so none of them waits for it and is waited for.
  have hother : ∀ p ∈ rest, ∀ q ∈ k :: rest, q.key = p.key → p.id ≤ q.id → q ∈ rest := by
    intro p hp q hq hkey hle
    rcases List.mem_cons.1 hq with rfl | hq
    · exact absurd hle (Nat.not_le.2 (h.before hentered hp hkey.symm).1)
    · exact hq
  refine ⟨fun id hid => ?_, fun p hp => ?_, hnodup.2, fun p hp p' hp' hkey hlt => ?_,
    fun p hp he p' hp' hkey => ?_, fun p hp => ?_⟩
  · have hlt := (h.fresh k List.mem_cons_self).1
    exact (Function.update_of_ne (Nat.ne_of_gt (Nat.lt_of_lt_of_le hlt hid)) _ _).trans (h.unused id hid)
  · obtain ⟨hlt, hfree⟩ := h.fresh p (hmem hp)
    exact ⟨hlt, (Function.update_of_ne (hne p hp) _ _).trans hfree⟩
  · obtain ⟨q, hq, hprevious, hqk, hle⟩ := h.chain p (hmem hp) p' (hmem hp') hkey hlt
    exact ⟨q, hother p hp q hq hqk hle, hprevious, hqk, hle⟩
  · exact h.first p (hmem hp) he p' (hmem hp') hkey
  · obtain ⟨q, hq, hlast, hqk, hle⟩ := h.last p (hmem hp)
    have hqrest := hother p hp q hq hqk hle
    refine ⟨q, hqrest, ?_, hqk, hle⟩
    rw [← hlast]
    unfold Turnstile.leave
    dsimp only
    split
    · rename_i hk
      refine Function.update_of_ne (fun hkey => ?_) _ _
      rw [← hkey, hlast] at hk
      exact hne q hqrest (Option.some.inj hk)
    · rfl

end Turnstile

end Opsia
