import Mathlib.Data.List.Chain
import Mathlib.Order.Defs.Unbundled
import Mathlib.Tactic.Common

/-!
# Programs with a state

Judgments about a program that reads and writes a state: how the state before and the state behind it are related
(`Moves`), and what it gives besides, if it gives something (`Decides`).  The first is a class, with an instance for
each way programs are put together, so that it is found along the text of a program.  Where the relation says that
some part of the state is as it was, it is a frame rule.  A list of programs of which the first one that gives
something decides (`firstOf`) does what each of them does, for any relation that composes with giving nothing
(`firstOf_does`).
-/

namespace Opsia.Effects

variable {σ α β : Type} {R : σ → σ → Prop} {P : α → Prop}

/-- From every state the program comes to one that is related to it. -/
class Moves (R : σ → σ → Prop) (x : StateM σ α) : Prop where
  moves : ∀ s, R s (x s).2

/-- The program comes to a related state, and what it gives has the property. -/
structure Decides (R : σ → σ → Prop) (P : α → Prop) (x : StateM σ (Option α)) : Prop extends Moves R x where
  gives : ∀ s, ∀ a ∈ (x s).1, P a

/-- The first of the programs that gives something. -/
def firstOf : List (StateM σ (Option α)) → StateM σ (Option α)
  | [] => pure none
  | x :: rest => x >>= fun given => given.elim (firstOf rest) fun a => pure (some a)

@[simp] theorem bind_apply {x : StateM σ α} {f : α → StateM σ β} {s : σ} : (x >>= f) s = f (x s).1 (x s).2 := rfl

@[simp] theorem pure_apply {a : α} {s : σ} : (pure a : StateM σ α) s = (a, s) := rfl

/-! ### Frames -/

instance moves_pure [Std.Refl R] (a : α) : Moves R (pure a : StateM σ α) := ⟨fun s => refl s⟩

theorem Moves.bind [IsTrans σ R] {x : StateM σ α} {f : α → StateM σ β} (hx : Moves R x) (hf : ∀ a, Moves R (f a)) :
    Moves R (x >>= f) := ⟨fun s => Trans.trans (hx.moves s) ((hf (x s).1).moves (x s).2)⟩

instance moves_bind [IsTrans σ R] {x : StateM σ α} {f : α → StateM σ β} [hx : Moves R x] [hf : ∀ a, Moves R (f a)] :
    Moves R (x >>= f) := hx.bind hf

instance moves_ite {c : Prop} [Decidable c] {x y : StateM σ α} [hx : Moves R x] [hy : Moves R y] :
    Moves R (if c then x else y) := by
  split
  · exact hx
  · exact hy

instance moves_elim {given : Option β} {x : StateM σ α} {f : β → StateM σ α} [hx : Moves R x]
    [hf : ∀ b, Moves R (f b)] :
    Moves R (given.elim x f) := by
  cases given
  · exact hx
  · exact hf _

/-! ### What a program gives -/

theorem decides_none [Std.Refl R] : Decides R P (pure none) := ⟨moves_pure none, fun _ _ h => nomatch h⟩

/-- The second part need only do it for what the first one returns. -/
theorem decides_bind_fst [IsTrans σ R] {x : StateM σ β} {f : β → StateM σ (Option α)} (hx : Moves R x)
    (hf : ∀ s, Decides R P (f (x s).1)) : Decides R P (x >>= f) :=
  ⟨⟨fun s => Trans.trans (hx.moves s) ((hf s).moves (x s).2)⟩, fun s => (hf s).gives (x s).2⟩

theorem Decides.bind [IsTrans σ R] {x : StateM σ β} {f : β → StateM σ (Option α)} (hx : Moves R x)
    (hf : ∀ b, Decides R P (f b)) : Decides R P (x >>= f) := decides_bind_fst hx fun s => hf (x s).1

theorem decides_ite {c : Prop} [Decidable c] {x y : StateM σ (Option α)} (hx : Decides R P x) (hy : Decides R P y) :
    Decides R P (if c then x else y) := by
  split
  · exact hx
  · exact hy

theorem decides_elim {given : Option β} {x : StateM σ (Option α)} {f : β → StateM σ (Option α)} (hx : Decides R P x)
    (hf : ∀ b ∈ given, Decides R P (f b)) : Decides R P (given.elim x f) := by
  cases given
  · exact hx
  · exact hf _ rfl

/-! ### The first that gives something -/

/-- Where the first program gives nothing, the others do. -/
theorem firstOf_cons_none {x : StateM σ (Option α)} {rest : List (StateM σ (Option α))} {s t : σ}
    (h : x s = (none, t)) : firstOf (x :: rest) s = firstOf rest t := by
  change ((x s).1.elim (firstOf rest) fun a => pure (some a) : StateM σ (Option α)) (x s).2 = _
  rw [h]
  rfl

/-- Where the first program gives something, that is what is given. -/
theorem firstOf_cons_some {x : StateM σ (Option α)} {rest : List (StateM σ (Option α))} {s t : σ} {a : α}
    (h : x s = (some a, t)) : firstOf (x :: rest) s = (some a, t) := by
  change ((x s).1.elim (firstOf rest) fun a => pure (some a) : StateM σ (Option α)) (x s).2 = _
  rw [h]
  rfl

/-- What each program does, the first of them that gives something does. -/
theorem firstOf_does {D : σ → Option α → σ → Prop} (hrefl : ∀ s, D s none s)
    (htrans : ∀ {s t u o}, D s none t → D t o u → D s o u) {programs : List (StateM σ (Option α))}
    (h : ∀ x ∈ programs, ∀ s, D s (x s).1 (x s).2) (s : σ) : D s (firstOf programs s).1 (firstOf programs s).2 := by
  induction programs generalizing s with
  | nil => exact hrefl s
  | cons x rest ih =>
    have hx := h x (.head _) s
    cases hgiven : x s with
    | mk given t =>
      rw [hgiven] at hx
      cases given with
      | none =>
        rw [firstOf_cons_none hgiven]
        exact htrans hx (ih (fun y hy => h y (.tail _ hy)) t)
      | some a =>
        rw [firstOf_cons_some hgiven]
        exact hx

/-! ### Runs -/

variable {S : Type} {before after : S → σ}

/-- The part of a run from one step to a later one. -/
theorem chain_between {earlier later between : List S} {first last : S} {R : S → S → Prop}
    (h : (earlier ++ first :: (between ++ last :: later)).IsChain R) : (first :: (between ++ [last])).IsChain R := by
  have happend : first :: (between ++ last :: later) = first :: (between ++ [last]) ++ later := by simp
  have hsuffix := h.right_of_append
  rw [happend] at hsuffix
  exact hsuffix.left_of_append

/-- What holds behind one step and is kept by the steps in between holds before a later step. -/
theorem chain_kept (P : σ → Prop) {first last : S} {between : List S}
    (hchain : (first :: (between ++ [last])).IsChain fun step next => before next = after step)
    (hkept : ∀ step ∈ between, P (before step) → P (after step)) (hfirst : P (after first)) : P (before last) := by
  induction between generalizing first with
  | nil =>
    cases hchain with
    | cons_cons hnext => exact hnext ▸ hfirst
  | cons next between ih =>
    cases hchain with
    | cons_cons hnext hrest =>
      exact ih hrest (fun step hstep => hkept step (.tail _ hstep)) (hkept next (.head _) (hnext ▸ hfirst))

end Opsia.Effects
