import Mathlib.Tactic.Common

/-!
# Runs of a partial step function

A system is a step function `σ → α → Option σ`: what an action does in a state, or that it cannot happen there.  A run
is a list of actions.  `Throughout` says that a property holds in every state of a run, `EachStep` that every step of a
run meets a condition.  The rules turn one-step facts into facts about runs; `throughout_iff_eachStep` is the rule for a
property that one bad step breaks at once and good steps keep.
-/

namespace Opsia.Machine

variable {σ α : Type} (step : σ → α → Option σ)

/-- The state after a list of actions, if all of them can happen. -/
def runFrom (s : σ) : List α → Option σ
  | [] => some s
  | a :: as => (step s a).bind fun s' => runFrom s' as

/-- The property holds in every state of the run, the first one included. -/
def Throughout (Q : σ → Prop) (s : σ) : List α → Prop
  | [] => Q s
  | a :: as => Q s ∧ ∀ s', step s a = some s' → Throughout Q s' as

/-- Every step of the run that happens meets the condition on the state before it and the action. -/
def EachStep (P : σ → α → Prop) (s : σ) : List α → Prop
  | [] => True
  | a :: as => ∀ s', step s a = some s' → P s a ∧ EachStep P s' as

instance instDecidableThroughout {Q : σ → Prop} [DecidablePred Q] :
    (s : σ) → (as : List α) → Decidable (Throughout step Q s as)
  | s, [] => inferInstanceAs (Decidable (Q s))
  | s, a :: as =>
    match h : step s a with
    | none => decidable_of_iff (Q s) ⟨fun hq => ⟨hq, fun s' hs => by rw [h] at hs; cases hs⟩, fun hq => hq.1⟩
    | some t =>
      have := instDecidableThroughout (Q := Q) t as
      decidable_of_iff (Q s ∧ Throughout step Q t as)
        ⟨fun hq => ⟨hq.1, fun s' hs => by rw [h] at hs; cases hs; exact hq.2⟩, fun hq => ⟨hq.1, hq.2 t h⟩⟩

instance instDecidableEachStep {P : σ → α → Prop} [∀ s a, Decidable (P s a)] :
    (s : σ) → (as : List α) → Decidable (EachStep step P s as)
  | _, [] => isTrue trivial
  | s, a :: as =>
    match h : step s a with
    | none => isTrue fun s' hs => by rw [h] at hs; cases hs
    | some t =>
      have := instDecidableEachStep (P := P) t as
      decidable_of_iff (P s a ∧ EachStep step P t as)
        ⟨fun hp s' hs => by rw [h] at hs; cases hs; exact hp, fun hp => hp t h⟩

variable {step}

theorem runFrom_append (s : σ) (as bs : List α) :
    runFrom step s (as ++ bs) = (runFrom step s as).bind fun s' => runFrom step s' bs := by
  induction as generalizing s with
  | nil => rfl
  | cons a as ih =>
    rw [List.cons_append, runFrom, runFrom]
    cases h : step s a with
    | none => rfl
    | some s' => simpa [h] using ih s'

theorem runFrom_cons {s s' : σ} {a : α} (h : step s a = some s') (as : List α) :
    runFrom step s (a :: as) = runFrom step s' as := by
  rw [runFrom, h, Option.bind_some]

theorem Throughout.head {Q : σ → Prop} {s : σ} {as : List α} (h : Throughout step Q s as) : Q s := by
  cases as with
  | nil => exact h
  | cons a as => exact h.1

/-- What holds throughout a run holds in the state it ends in. -/
theorem Throughout.last {Q : σ → Prop} {s t : σ} {as : List α} (h : Throughout step Q s as)
    (hr : runFrom step s as = some t) : Q t := by
  induction as generalizing s with
  | nil =>
    cases hr
    exact h
  | cons a as ih =>
    rw [runFrom] at hr
    obtain ⟨s', hs, hr⟩ := Option.bind_eq_some_iff.1 hr
    exact ih (h.2 s' hs) hr

theorem Throughout.mono {Q R : σ → Prop} (hQR : ∀ s, Q s → R s) {s : σ} {as : List α} (h : Throughout step Q s as) :
    Throughout step R s as := by
  induction as generalizing s with
  | nil => exact hQR s h
  | cons a as ih => exact ⟨hQR s h.1, fun s' hs => ih (h.2 s' hs)⟩

theorem EachStep.mono {P R : σ → α → Prop} (hPR : ∀ s a, P s a → R s a) {s : σ} {as : List α}
    (h : EachStep step P s as) : EachStep step R s as := by
  induction as generalizing s with
  | nil => trivial
  | cons a as ih => exact fun s' hs => ⟨hPR s a (h s' hs).1, ih (h s' hs).2⟩

/-- What holds of every action of a list holds of every step. -/
theorem EachStep.and_mem {P : σ → α → Prop} {R : α → Prop} {s : σ} {as : List α} (h : EachStep step P s as)
    (hR : ∀ a ∈ as, R a) : EachStep step (fun s a => P s a ∧ R a) s as := by
  induction as generalizing s with
  | nil => trivial
  | cons a as ih =>
    intro s' hs
    obtain ⟨hp, hrest⟩ := h s' hs
    exact ⟨⟨hp, hR a List.mem_cons_self⟩, ih hrest fun b hb => hR b (List.mem_cons_of_mem a hb)⟩

/-- Under an invariant one condition on steps that happen gives another. -/
theorem EachStep.of_inv {Inv : σ → Prop} {P R : σ → α → Prop}
    (hstep : ∀ s a s', Inv s → P s a → step s a = some s' → R s a ∧ Inv s') {s : σ} {as : List α} (h0 : Inv s)
    (h : EachStep step P s as) : EachStep step R s as := by
  induction as generalizing s with
  | nil => trivial
  | cons a as ih =>
    intro s' hs
    obtain ⟨hp, hrest⟩ := h s' hs
    obtain ⟨hr, hinv⟩ := hstep s a s' h0 hp hs
    exact ⟨hr, ih hinv hrest⟩

/-- What an invariant gives for every step that happens, it gives for every step of a run. -/
theorem eachStep_of_inv {Inv : σ → Prop} {R : σ → α → Prop}
    (hstep : ∀ s a s', Inv s → step s a = some s' → R s a ∧ Inv s') {s : σ} (h0 : Inv s) (as : List α) :
    EachStep step R s as := by
  induction as generalizing s with
  | nil => trivial
  | cons a as ih =>
    intro s' hs
    obtain ⟨hr, hinv⟩ := hstep s a s' h0 hs
    exact ⟨hr, ih hinv⟩

/-- Conditions on steps that agree where an invariant holds agree on runs. -/
theorem eachStep_congr {Inv : σ → Prop} {P R : σ → α → Prop}
    (hstep : ∀ s a s', Inv s → step s a = some s' → Inv s') (hPR : ∀ s a, Inv s → (P s a ↔ R s a)) {s : σ} (h0 : Inv s)
    (as : List α) : EachStep step P s as ↔ EachStep step R s as := by
  induction as generalizing s with
  | nil => exact Iff.rfl
  | cons a as ih =>
    have hhead := hPR s a h0
    constructor
    · intro h s' hs
      exact ⟨hhead.1 (h s' hs).1, (ih (hstep s a s' h0 hs)).1 (h s' hs).2⟩
    · intro h s' hs
      exact ⟨hhead.2 (h s' hs).1, (ih (hstep s a s' h0 hs)).2 (h s' hs).2⟩

/-- The same for conditions that agree on the steps that happen. -/
theorem eachStep_congr_of_step {Inv : σ → Prop} {P R : σ → α → Prop}
    (hstep : ∀ s a s', Inv s → step s a = some s' → Inv s')
    (hPR : ∀ s a s', Inv s → step s a = some s' → (P s a ↔ R s a)) {s : σ} (h0 : Inv s) (as : List α) :
    EachStep step P s as ↔ EachStep step R s as := by
  induction as generalizing s with
  | nil => exact Iff.rfl
  | cons a as ih =>
    refine forall_congr' fun s' => imp_congr_right fun hs => ?_
    rw [hPR s a s' h0 hs, ih (hstep s a s' h0 hs)]

/-- An invariant that steps keep under a condition holds throughout every run whose steps meet it. -/
theorem throughout_of_eachStep {Inv : σ → Prop} {P : σ → α → Prop}
    (hstep : ∀ s a s', Inv s → P s a → step s a = some s' → Inv s') {s : σ} {as : List α} (h0 : Inv s)
    (h : EachStep step P s as) : Throughout step Inv s as := by
  induction as generalizing s with
  | nil => exact h0
  | cons a as ih =>
    refine ⟨h0, fun s' hs => ?_⟩
    obtain ⟨hp, hrest⟩ := h s' hs
    exact ih (hstep s a s' h0 hp hs) hrest

/-- An invariant that all steps keep holds throughout every run. -/
theorem throughout_of_step {Inv : σ → Prop} (hstep : ∀ s a s', Inv s → step s a = some s' → Inv s') {s : σ}
    (h0 : Inv s) (as : List α) : Throughout step Inv s as := by
  induction as generalizing s with
  | nil => exact h0
  | cons a as ih => exact ⟨h0, fun s' hs => ih (hstep s a s' h0 hs)⟩

/-- An invariant that all steps keep holds where a run ends. -/
theorem invariant_of_step {Inv : σ → Prop} (hstep : ∀ s a s', Inv s → step s a = some s' → Inv s') {s t : σ}
    (h0 : Inv s) {as : List α} (hr : runFrom step s as = some t) : Inv t :=
  (throughout_of_step hstep h0 as).last hr

/-- A property that follows from an invariant, which good steps keep, and that a bad step breaks at once: it holds
throughout a run just when every step is good. -/
theorem throughout_iff_eachStep {Inv Q : σ → Prop} {P : σ → α → Prop} (hQ : ∀ s, Inv s → Q s)
    (hgood : ∀ s a s', Inv s → P s a → step s a = some s' → Inv s')
    (hbad : ∀ s a s', Inv s → ¬P s a → step s a = some s' → ¬Q s') {s : σ} (h0 : Inv s) (as : List α) :
    Throughout step Q s as ↔ EachStep step P s as := by
  constructor
  · intro h
    induction as generalizing s with
    | nil => trivial
    | cons a as ih =>
      intro s' hs
      by_cases hp : P s a
      · exact ⟨hp, ih (hgood s a s' h0 hp hs) (h.2 s' hs)⟩
      · exact absurd (h.2 s' hs).head (hbad s a s' h0 hp hs)
  · intro h
    exact (throughout_of_eachStep hgood h0 h).mono hQ

/-- A rank that every step of a kind lowers bounds the runs made of such steps. -/
theorem length_le_of_rank {rank : σ → Nat} {P : α → Prop}
    (hrank : ∀ s a s', P a → step s a = some s' → rank s' < rank s) {s t : σ} {as : List α}
    (hr : runFrom step s as = some t) (hP : ∀ a ∈ as, P a) : as.length + rank t ≤ rank s := by
  induction as generalizing s with
  | nil =>
    cases hr
    simp
  | cons a as ih =>
    rw [runFrom] at hr
    obtain ⟨s', hs, hr⟩ := Option.bind_eq_some_iff.1 hr
    have hlt := hrank s a s' (hP a (List.mem_cons_self ..)) hs
    have hle := ih hr fun b hb => hP b (List.mem_cons_of_mem a hb)
    rw [List.length_cons]
    omega

end Opsia.Machine
