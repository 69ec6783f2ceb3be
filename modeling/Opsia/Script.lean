import Mathlib.Data.List.Induction
import Mathlib.Logic.Equiv.Defs
import Mathlib.Tactic.Common

/-!
# Programs that make calls

A `Script` is a program seen from outside: it is done with a result, or it makes a call and goes on with the answer.  A
`Procedure` is a script with variables and exceptions, in which the variables keep their values when an exception is
thrown, so that a handler finds them as they were.  `Obeys` is the weakest precondition of "every call is allowed by the
exchanges before it", and `ScriptExecution` a script that has been answered up to some point; `ScriptExecution.Obeying`
says that it has made allowed calls only and goes on doing so, whatever it is answered.
-/

namespace Opsia

/-- A call and its answer. -/
structure Exchange {Call : Type} (Answer : Call → Type) where
  call : Call
  answer : Answer call

/-- A program that is done or waits for the answer of a call. -/
inductive Script {Call : Type} (Answer : Call → Type) (α : Type)
  | done (result : α)
  | call (c : Call) (next : Answer c → Script Answer α)

namespace Script

variable {Call : Type} {Answer : Call → Type} {α β : Type}

def bind : Script Answer α → (α → Script Answer β) → Script Answer β
  | .done a, f => f a
  | .call c next, f => .call c fun answer => (next answer).bind f

instance : Monad (Script Answer) where
  pure := .done
  bind := bind

/-- From the exchanges so far, every call the script makes is allowed by those before it, and it is done only where the
postcondition holds. -/
def Obeys (allowed : List (Exchange Answer) → Call → Prop) :
    Script Answer α → (List (Exchange Answer) → α → Prop) → List (Exchange Answer) → Prop
  | .done a, post, log => post log a
  | .call c next, post, log =>
    allowed log c ∧ ∀ answer, (next answer).Obeys allowed post (log ++ [⟨c, answer⟩])

variable {allowed : List (Exchange Answer) → Call → Prop}

theorem Obeys.mono {script : Script Answer α} {post post' : List (Exchange Answer) → α → Prop}
    (hpost : ∀ log a, post log a → post' log a) {log : List (Exchange Answer)} (h : script.Obeys allowed post log) :
    script.Obeys allowed post' log := by
  induction script generalizing log with
  | done a => exact hpost log a h
  | call c next ih => exact ⟨h.1, fun answer => ih answer (h.2 answer)⟩

/-- Where everything is allowed and nothing asked for, every script obeys. -/
theorem obeys_trivially (script : Script Answer α) (log : List (Exchange Answer)) :
    script.Obeys (fun _ _ => True) (fun _ _ => True) log := by
  induction script generalizing log with
  | done a => trivial
  | call c next ih => exact ⟨trivial, fun answer => ih answer _⟩

theorem Obeys.bind {script : Script Answer α} {f : α → Script Answer β} {post : List (Exchange Answer) → β → Prop}
    {log : List (Exchange Answer)}
    (h : script.Obeys allowed (fun log' a => (f a).Obeys allowed post log') log) :
    (script.bind f).Obeys allowed post log := by
  induction script generalizing log with
  | done a => exact h
  | call c next ih => exact ⟨h.1, fun answer => ih answer (h.2 answer)⟩

theorem Obeys.of_bind {script : Script Answer α} {f : α → Script Answer β} {post : List (Exchange Answer) → β → Prop}
    {log : List (Exchange Answer)} (h : (script.bind f).Obeys allowed post log) :
    script.Obeys allowed (fun log' a => (f a).Obeys allowed post log') log := by
  induction script generalizing log with
  | done a => exact h
  | call c next ih => exact ⟨h.1, fun answer => ih answer (h.2 answer)⟩

end Script

/-! ### Scripts within scripts -/

namespace Script

variable {Call Call' : Type} {Answer : Call → Type} {Answer' : Call' → Type} {α : Type}

/-- The script, answered as in the list, goes on as the other one. -/
inductive Reaches : Script Answer α → List (Exchange Answer) → Script Answer α → Prop
  | refl (script : Script Answer α) : Reaches script [] script
  | call {c : Call} {next : Answer c → Script Answer α} {answer : Answer c} {log : List (Exchange Answer)}
      {rest : Script Answer α} (h : Reaches (next answer) log rest) : Reaches (.call c next) (⟨c, answer⟩ :: log) rest

/-- The script, answered as in the list, is done with the result. -/
def Runs (script : Script Answer α) (log : List (Exchange Answer)) (result : α) : Prop :=
  script.Reaches log (.done result)

/-- What a script obeys it still obeys after some answers. -/
theorem Obeys.reaches {allowed : List (Exchange Answer) → Call → Prop} {post : List (Exchange Answer) → α → Prop}
    {script rest : Script Answer α} {before log : List (Exchange Answer)} (h : script.Obeys allowed post before)
    (hreaches : script.Reaches log rest) : rest.Obeys allowed post (before ++ log) := by
  induction hreaches generalizing before with
  | refl script =>
    rw [List.append_nil]
    exact h
  | call hrest ih =>
    have hnext := ih (h.2 _)
    rwa [List.append_assoc] at hnext

theorem Obeys.runs {allowed : List (Exchange Answer) → Call → Prop} {post : List (Exchange Answer) → α → Prop}
    {script : Script Answer α} {log : List (Exchange Answer)} {result : α} (h : script.Obeys allowed post [])
    (hruns : script.Runs log result) : post log result := h.reaches hruns

/-- The script as a part of one that makes other calls. -/
def embed (f : Call → Call') (g : (c : Call) → Answer' (f c) ≃ Answer c) : Script Answer α → Script Answer' α
  | .done a => .done a
  | .call c next => .call (f c) fun answer => (next (g c answer)).embed f g

/-- Exchanges as exchanges of the other calls. -/
def embedLog (f : Call → Call') (g : (c : Call) → Answer' (f c) ≃ Answer c) (log : List (Exchange Answer)) :
    List (Exchange Answer') := log.map fun e => ⟨f e.call, (g e.call).symm e.answer⟩

/-- The rule for an embedded script: its calls are allowed wherever it may have got to, and the postcondition holds
wherever it may end. -/
theorem obeys_embed {f : Call → Call'} {g : (c : Call) → Answer' (f c) ≃ Answer c}
    {allowed : List (Exchange Answer') → Call' → Prop} {post : List (Exchange Answer') → α → Prop}
    {script : Script Answer α} {before : List (Exchange Answer')}
    (hcall : ∀ log c next, script.Reaches log (.call c next) →
      allowed (before ++ embedLog f g log) (f c))
    (hpost : ∀ log a, script.Runs log a → post (before ++ embedLog f g log) a) :
    (script.embed f g).Obeys allowed post before := by
  induction script generalizing before with
  | done a =>
    have hend := hpost [] a (.refl _)
    rwa [embedLog, List.map_nil, List.append_nil] at hend
  | call c next ih =>
    have hfirst := hcall [] c next (.refl _)
    rw [embedLog, List.map_nil, List.append_nil] at hfirst
    refine ⟨hfirst, fun answer => ih _ (fun log c' next' hreaches => ?_) fun log a hruns => ?_⟩
    · have hlater := hcall _ c' next' hreaches.call
      rw [embedLog, List.map_cons, Equiv.symm_apply_apply] at hlater
      rwa [List.append_assoc]
    · have hend := hpost _ a (Reaches.call hruns)
      rw [embedLog, List.map_cons, Equiv.symm_apply_apply] at hend
      rwa [List.append_assoc]

end Script

/-! ### Variables and exceptions -/

/-- A script with variables `σ` and exceptions `ε`, each call of which is answered by a result or an exception. -/
abbrev Procedure {Call : Type} (Result : Call → Type) (ε σ : Type) :=
  ExceptT ε (StateT σ (Script fun c : Call => Except ε (Result c)))

namespace Procedure

variable {Call : Type} {Result : Call → Type} {ε σ α β : Type}

/-- The exchanges of a procedure. -/
abbrev Log (Result : Call → Type) (ε : Type) := List (Exchange fun c : Call => Except ε (Result c))

/-- Make a call: its result, or its exception thrown on. -/
def perform (c : Call) : Procedure Result ε σ (Result c) :=
  ExceptT.mk fun vars => .call c fun answer => .done (answer, vars)

/-- The script of a procedure from given variables. -/
def script (x : Procedure Result ε σ α) (vars : σ) : Script (fun c : Call => Except ε (Result c)) (Except ε α × σ) :=
  x.run.run vars

/-- From the variables and the exchanges so far, every call is allowed by those before it; where the procedure returns
`post` holds, and where it throws `failed` does. -/
def Obeys (allowed : Log Result ε → Call → Prop) (x : Procedure Result ε σ α) (vars : σ) (log : Log Result ε)
    (post : Log Result ε → σ → α → Prop) (failed : Log Result ε → σ → ε → Prop) : Prop :=
  (x.script vars).Obeys allowed
    (fun log' result =>
      match result with
      | (.ok a, vars') => post log' vars' a
      | (.error e, vars') => failed log' vars' e)
    log

variable {allowed : Log Result ε → Call → Prop} {vars : σ} {log : Log Result ε}
  {post post' : Log Result ε → σ → α → Prop} {failed failed' : Log Result ε → σ → ε → Prop}

theorem Obeys.mono {x : Procedure Result ε σ α} (hpost : ∀ log s a, post log s a → post' log s a)
    (hfailed : ∀ log s e, failed log s e → failed' log s e) (h : x.Obeys allowed vars log post failed) :
    x.Obeys allowed vars log post' failed' := by
  refine Script.Obeys.mono (fun log' result hr => ?_) h
  rcases result with ⟨_ | _, _⟩
  · exact hfailed _ _ _ hr
  · exact hpost _ _ _ hr

/-- The rule for a procedure of which nothing is asked. -/
theorem obeys_skip {x : Procedure Result ε σ α} :
    x.Obeys (fun _ _ => True) vars log (fun _ _ _ => True) (fun _ _ _ => True) := by
  refine Script.Obeys.mono (fun log' result _ => ?_) (Script.obeys_trivially _ _)
  rcases result with ⟨_ | _, _⟩ <;> trivial

theorem obeys_pure {a : α} (h : post log vars a) :
    (pure a : Procedure Result ε σ α).Obeys allowed vars log post failed := h

theorem obeys_throw {e : ε} (h : failed log vars e) :
    (throw e : Procedure Result ε σ α).Obeys allowed vars log post failed := h

theorem obeys_get {post : Log Result ε → σ → σ → Prop} (h : post log vars vars) :
    (get : Procedure Result ε σ σ).Obeys allowed vars log post failed := h

theorem obeys_modify {post : Log Result ε → σ → PUnit → Prop} {f : σ → σ} (h : post log (f vars) ⟨⟩) :
    (modify f : Procedure Result ε σ PUnit).Obeys allowed vars log post failed := h

theorem obeys_perform {c : Call} {post : Log Result ε → σ → Result c → Prop} (hallowed : allowed log c)
    (hok : ∀ result, post (log ++ [⟨c, .ok result⟩]) vars result)
    (herror : ∀ e, failed (log ++ [⟨c, .error e⟩]) vars e) :
    (perform c : Procedure Result ε σ (Result c)).Obeys allowed vars log post failed := by
  refine ⟨hallowed, fun answer => ?_⟩
  cases answer with
  | ok result => exact hok result
  | error e => exact herror e

theorem obeys_bind {x : Procedure Result ε σ α} {f : α → Procedure Result ε σ β}
    {post : Log Result ε → σ → β → Prop}
    (h : x.Obeys allowed vars log (fun log' s a => (f a).Obeys allowed s log' post failed) failed) :
    (x >>= f).Obeys allowed vars log post failed := by
  refine Script.Obeys.bind (Script.Obeys.mono (fun log' result hr => ?_) h)
  rcases result with ⟨_ | _, _⟩ <;> exact hr

/-- A handler is entered with the variables as the exception left them. -/
theorem obeys_tryCatch {x : Procedure Result ε σ α} {handler : ε → Procedure Result ε σ α}
    (h : x.Obeys allowed vars log post fun log' s e => (handler e).Obeys allowed s log' post failed) :
    (tryCatch x handler).Obeys allowed vars log post failed := by
  refine Script.Obeys.bind (Script.Obeys.mono (fun log' result hr => ?_) h)
  rcases result with ⟨_ | _, _⟩ <;> exact hr

/-- The rule for a handler that is entered with a property of the variables that the body leaves behind. -/
theorem obeys_tryCatch_through (left : Log Result ε → σ → ε → Prop) {x : Procedure Result ε σ α}
    {handler : ε → Procedure Result ε σ α}
    (hhandler : ∀ log' s e, left log' s e → (handler e).Obeys allowed s log' post failed)
    (h : x.Obeys allowed vars log post left) : (tryCatch x handler).Obeys allowed vars log post failed :=
  obeys_tryCatch (h.mono (fun _ _ _ h => h) hhandler)

/-- What a procedure obeys holds where it has returned. -/
theorem Obeys.returned {x : Procedure Result ε σ α} {log' : Log Result ε} {a : α} {vars' : σ}
    (h : x.Obeys allowed vars [] post failed) (hruns : (x.script vars).Runs log' (.ok a, vars')) :
    post log' vars' a := by
  unfold Obeys at h
  exact h.runs hruns

variable {Call' : Type} {Result' : Call' → Type} {τ : Type}

/-- A procedure with variables of its own as a part of one that makes other calls. -/
def within (f : Call → Call') (g : (c : Call) → Except ε (Result' (f c)) ≃ Except ε (Result c))
    (x : Procedure Result ε τ α) (initial : τ) : Procedure Result' ε σ α :=
  ExceptT.mk fun vars => ((x.script initial).embed f g).bind fun result => .done (result.1, vars)

theorem obeys_within {f : Call → Call'} {g : (c : Call) → Except ε (Result' (f c)) ≃ Except ε (Result c)}
    {allowed : Log Result' ε → Call' → Prop} {x : Procedure Result ε τ α} {initial : τ} {vars : σ}
    {before : Log Result' ε} {post : Log Result' ε → σ → α → Prop} {failed : Log Result' ε → σ → ε → Prop}
    (hcall : ∀ log c next, (x.script initial).Reaches log (.call c next) →
      allowed (before ++ Script.embedLog f g log) (f c))
    (hpost : ∀ log a t, (x.script initial).Runs log (.ok a, t) →
      post (before ++ Script.embedLog f g log) vars a)
    (hfailed : ∀ log e t, (x.script initial).Runs log (.error e, t) →
      failed (before ++ Script.embedLog f g log) vars e) :
    (x.within f g initial).Obeys allowed vars before post failed := by
  refine Script.Obeys.bind (Script.obeys_embed hcall fun log result hruns => ?_)
  obtain ⟨result, t⟩ := result
  cases result with
  | ok a => exact hpost log a t hruns
  | error e => exact hfailed log e t hruns

end Procedure

/-! ### Calls that procedures serve -/

namespace Script

variable {Call Call' : Type} {Result : Call → Type} {Result' : Call' → Type} {ε τ α β γ : Type}

theorem bind_assoc {Answer : Call → Type} (script : Script Answer α) (f : α → Script Answer β)
    (g : β → Script Answer γ) : (script.bind f).bind g = script.bind fun a => (f a).bind g := by
  induction script with
  | done a => rfl
  | call c next ih => exact congrArg (Script.call c) (funext fun answer => ih answer)

/-- The script, each call of which is served by a procedure over other calls, with variables that last from one call
to the next. -/
def serve (methods : (c : Call) → Procedure Result' ε τ (Result c)) :
    Script (fun c : Call => Except ε (Result c)) α → τ → Script (fun c : Call' => Except ε (Result' c)) (α × τ)
  | .done a, kept => .done (a, kept)
  | .call c next, kept => ((methods c).script kept).bind fun result => (next result.1).serve methods result.2

theorem serve_bind (methods : (c : Call) → Procedure Result' ε τ (Result c))
    (script : Script (fun c : Call => Except ε (Result c)) α)
    (f : α → Script (fun c : Call => Except ε (Result c)) β) (kept : τ) :
    (script.bind f).serve methods kept =
      (script.serve methods kept).bind fun result => (f result.1).serve methods result.2 := by
  induction script generalizing kept with
  | done a => rfl
  | call c next ih =>
    have hnext : (fun result : Except ε (Result c) × τ => ((next result.1).bind f).serve methods result.2) =
        fun result => ((next result.1).serve methods result.2).bind fun r => (f r.1).serve methods r.2 :=
      funext fun result => ih result.1 result.2
    calc ((methods c).script kept).bind (fun result => ((next result.1).bind f).serve methods result.2)
        = ((methods c).script kept).bind
            (fun result => ((next result.1).serve methods result.2).bind fun r => (f r.1).serve methods r.2) := by
          rw [hnext]
      _ = _ := (bind_assoc _ _ _).symm

end Script

namespace Procedure

variable {Call Call' : Type} {Result : Call → Type} {Result' : Call' → Type} {ε σ τ α β : Type}

/-- A procedure over calls that other procedures serve; the variables of both are kept side by side. -/
def serve (methods : (c : Call) → Procedure Result' ε τ (Result c)) (x : Procedure Result ε σ α) :
    Procedure Result' ε (σ × τ) α :=
  ExceptT.mk fun vars =>
    ((x.script vars.1).serve methods vars.2).bind fun result => .done (result.1.1, (result.1.2, result.2))

variable {methods : (c : Call) → Procedure Result' ε τ (Result c)} {allowed : Log Result' ε → Call' → Prop}
  {vars : σ} {kept : τ} {log : Log Result' ε} {post : Log Result' ε → σ × τ → α → Prop}
  {failed : Log Result' ε → σ × τ → ε → Prop}

theorem obeys_serve_pure {a : α} (h : post log (vars, kept) a) :
    (serve methods (pure a : Procedure Result ε σ α)).Obeys allowed (vars, kept) log post failed := h

theorem obeys_serve_throw {e : ε} (h : failed log (vars, kept) e) :
    (serve methods (throw e : Procedure Result ε σ α)).Obeys allowed (vars, kept) log post failed := h

theorem obeys_serve_get {post : Log Result' ε → σ × τ → σ → Prop} (h : post log (vars, kept) vars) :
    (serve methods (get : Procedure Result ε σ σ)).Obeys allowed (vars, kept) log post failed := h

theorem obeys_serve_modify {post : Log Result' ε → σ × τ → PUnit → Prop} {f : σ → σ}
    (h : post log (f vars, kept) ⟨⟩) :
    (serve methods (modify f : Procedure Result ε σ PUnit)).Obeys allowed (vars, kept) log post failed := h

/-- A call is the procedure that serves it. -/
theorem obeys_serve_perform {c : Call} {post : Log Result' ε → σ × τ → Result c → Prop}
    (h : (methods c).Obeys allowed kept log (fun log' kept' result => post log' (vars, kept') result)
      fun log' kept' e => failed log' (vars, kept') e) :
    (serve methods (perform c : Procedure Result ε σ (Result c))).Obeys allowed (vars, kept) log post failed := by
  refine Script.Obeys.bind (Script.Obeys.bind (Script.Obeys.mono (fun log' result hr => ?_) h))
  rcases result with ⟨_ | _, _⟩ <;> exact hr

/-- A served procedure obeys just when its script does, served. -/
theorem obeys_serve_iff {x : Procedure Result ε σ α} :
    (serve methods x).Obeys allowed (vars, kept) log post failed ↔
      ((x.script vars).serve methods kept).Obeys allowed
        (fun log' result =>
          match result with
          | ((.ok a, vars'), kept') => post log' (vars', kept') a
          | ((.error e, vars'), kept') => failed log' (vars', kept') e) log := by
  constructor
  · intro h
    refine Script.Obeys.mono (fun log' result hr => ?_) (Script.Obeys.of_bind h)
    rcases result with ⟨⟨_ | _, _⟩, _⟩ <;> exact hr
  · intro h
    refine Script.Obeys.bind (Script.Obeys.mono (fun log' result hr => ?_) h)
    rcases result with ⟨⟨_ | _, _⟩, _⟩ <;> exact hr

theorem obeys_serve_bind {x : Procedure Result ε σ α} {f : α → Procedure Result ε σ β}
    {post : Log Result' ε → σ × τ → β → Prop}
    (h : (serve methods x).Obeys allowed (vars, kept) log
      (fun log' vars' a => (serve methods (f a)).Obeys allowed vars' log' post failed) failed) :
    (serve methods (x >>= f)).Obeys allowed (vars, kept) log post failed := by
  rw [obeys_serve_iff] at h
  refine obeys_serve_iff.2 (?_ : (Script.serve methods (Script.bind (x.script vars) _) kept).Obeys _ _ _)
  rw [Script.serve_bind]
  refine Script.Obeys.bind (Script.Obeys.mono (fun log' result hr => ?_) h)
  rcases result with ⟨⟨_ | _, _⟩, _⟩
  · exact hr
  · exact obeys_serve_iff.1 hr

theorem obeys_serve_tryCatch {x : Procedure Result ε σ α} {handler : ε → Procedure Result ε σ α}
    (h : (serve methods x).Obeys allowed (vars, kept) log post
      fun log' vars' e => (serve methods (handler e)).Obeys allowed vars' log' post failed) :
    (serve methods (tryCatch x handler)).Obeys allowed (vars, kept) log post failed := by
  rw [obeys_serve_iff] at h
  refine obeys_serve_iff.2 (?_ : (Script.serve methods (Script.bind (x.script vars) _) kept).Obeys _ _ _)
  rw [Script.serve_bind]
  refine Script.Obeys.bind (Script.Obeys.mono (fun log' result hr => ?_) h)
  rcases result with ⟨⟨_ | _, _⟩, _⟩
  · exact obeys_serve_iff.1 hr
  · exact hr

end Procedure

/-! ### Executions -/

/-- A script that has been answered up to some point. -/
structure ScriptExecution {Call : Type} (Answer : Call → Type) (α : Type) where
  log : List (Exchange Answer)
  rest : Script Answer α

namespace ScriptExecution

variable {Call : Type} {Answer : Call → Type} {α : Type}

def start (script : Script Answer α) : ScriptExecution Answer α := { log := [], rest := script }

/-- The call that waits for an answer. -/
def pending? (execution : ScriptExecution Answer α) : Option Call :=
  match execution.rest with
  | .done _ => none
  | .call c _ => some c

/-- The pending call is answered. -/
def resume (answers : (c : Call) → Answer c) (execution : ScriptExecution Answer α) : ScriptExecution Answer α :=
  match execution.rest with
  | .done _ => execution
  | .call c next => { log := execution.log ++ [⟨c, answers c⟩], rest := next (answers c) }

variable {allowed : List (Exchange Answer) → Call → Prop}

/-- A script that is answered one call after the other. -/
def after (script : Script Answer α) (answers : List ((c : Call) → Answer c)) : ScriptExecution Answer α :=
  answers.foldl (fun execution answer => execution.resume answer) (start script)

/-- Every call made so far, the pending one included, was allowed by the exchanges before it. -/
structure CallsAllowed (allowed : List (Exchange Answer) → Call → Prop) (execution : ScriptExecution Answer α) :
    Prop where
  answered : ∀ before e after, execution.log = before ++ e :: after → allowed before e.call
  pending : ∀ c, execution.pending? = some c → allowed execution.log c

/-- The answered calls were allowed and the rest makes allowed calls only. -/
structure Obeying (allowed : List (Exchange Answer) → Call → Prop) (execution : ScriptExecution Answer α) : Prop where
  answered : ∀ before e after, execution.log = before ++ e :: after → allowed before e.call
  rest : execution.rest.Obeys allowed (fun _ _ => True) execution.log

theorem Obeying.start {script : Script Answer α} (h : script.Obeys allowed (fun _ _ => True) []) :
    (ScriptExecution.start script).Obeying allowed := by
  refine ⟨fun before e after hlog => ?_, h⟩
  exact absurd (congrArg List.length hlog) (by simp [ScriptExecution.start])

theorem Obeying.resume {execution : ScriptExecution Answer α} (h : execution.Obeying allowed)
    (answers : (c : Call) → Answer c) : (execution.resume answers).Obeying allowed := by
  obtain ⟨log, rest⟩ := execution
  cases rest with
  | done a => exact h
  | call c next =>
    obtain ⟨hallowed, hnext⟩ : allowed log c ∧ _ := h.rest
    refine ⟨fun before e after hlog => ?_, hnext (answers c)⟩
    -- the last exchange is the new one, the others were there
    rcases List.eq_nil_or_concat after with rfl | ⟨after, last, rfl⟩
    · obtain ⟨rfl, he⟩ := List.append_inj' (hlog : log ++ [_] = before ++ [e]) rfl
      obtain rfl := List.singleton_inj.1 he
      exact hallowed
    · have hinit : log ++ [⟨c, answers c⟩] = (before ++ e :: after) ++ [last] := by
        simpa [ScriptExecution.resume] using hlog
      exact h.answered before e after (List.append_inj' hinit rfl).1

/-- However a script that obeys is answered, its calls are allowed and the postcondition holds where it is done. -/
theorem after_obeys {script : Script Answer α} {post : List (Exchange Answer) → α → Prop}
    (h : script.Obeys allowed post []) (answers : List ((c : Call) → Answer c)) :
    (after script answers).Obeying allowed ∧
      (after script answers).rest.Obeys allowed post (after script answers).log := by
  induction answers using List.reverseRecOn with
  | nil => exact ⟨Obeying.start (h.mono fun _ _ _ => trivial), h⟩
  | append_singleton answers answer ih =>
    have hafter : after script (answers ++ [answer]) = (after script answers).resume answer := by
      unfold after
      rw [List.foldl_append]
      rfl
    rw [hafter]
    refine ⟨ih.1.resume answer, ?_⟩
    have hrest := ih.2
    generalize after script answers = execution at hrest
    obtain ⟨log, rest⟩ := execution
    cases rest with
    | done a => exact hrest
    | call c next => exact hrest.2 _

theorem Obeying.callsAllowed {execution : ScriptExecution Answer α} (h : execution.Obeying allowed) :
    execution.CallsAllowed allowed := by
  refine ⟨h.answered, fun c hc => ?_⟩
  obtain ⟨log, rest⟩ := execution
  cases rest with
  | done a => cases hc
  | call c' next =>
    obtain rfl : c' = c := Option.some.inj hc
    exact h.rest.1

/-- The call was made after these exchanges; it may wait for its answer still. -/
def Made (execution : ScriptExecution Answer α) (before : List (Exchange Answer)) (c : Call) : Prop :=
  (execution.log = before ∧ execution.pending? = some c) ∨
    ∃ answer after, execution.log = before ++ ⟨c, answer⟩ :: after

theorem CallsAllowed.made {execution : ScriptExecution Answer α} (h : execution.CallsAllowed allowed)
    {before : List (Exchange Answer)} {c : Call} (hmade : execution.Made before c) : allowed before c := by
  rcases hmade with ⟨rfl, hpending⟩ | ⟨answer, after, hlog⟩
  · exact h.pending c hpending
  · exact h.answered before ⟨c, answer⟩ after hlog

/-- A call that is answered was made. -/
theorem Made.of_log {execution : ScriptExecution Answer α} {before after : List (Exchange Answer)} {c : Call}
    {answer : Answer c} (h : execution.log = before ++ ⟨c, answer⟩ :: after) : execution.Made before c :=
  Or.inr ⟨answer, after, h⟩

/-- Of two calls that were made, one came before the other, or they are one and the same. -/
theorem Made.compare {execution : ScriptExecution Answer α} {before before' : List (Exchange Answer)} {c c' : Call}
    (h : execution.Made before c) (h' : execution.Made before' c') :
    (before = before' ∧ c = c') ∨ (∃ answer, ⟨c, answer⟩ ∈ before') ∨ ∃ answer, ⟨c', answer⟩ ∈ before := by
  rcases h with ⟨rfl, hpending⟩ | ⟨answer, after, hlog⟩
  · rcases h' with ⟨rfl, hpending'⟩ | ⟨answer', after', hlog'⟩
    · exact Or.inl ⟨rfl, Option.some.inj (hpending.symm.trans hpending')⟩
    · exact Or.inr (Or.inr ⟨answer', by simp [hlog']⟩)
  · rcases h' with ⟨rfl, hpending'⟩ | ⟨answer', after', hlog'⟩
    · exact Or.inr (Or.inl ⟨answer, by simp [hlog]⟩)
    · rcases List.append_eq_append_iff.1 (hlog.symm.trans hlog') with ⟨between, rfl, htail⟩ | ⟨between, rfl, htail⟩
      · cases between with
        | nil =>
          obtain ⟨hhead, -⟩ := List.cons.inj htail
          exact Or.inl ⟨(List.append_nil _).symm, congrArg Exchange.call hhead⟩
        | cons e between =>
          obtain ⟨rfl, -⟩ := List.cons.inj htail
          exact Or.inr (Or.inl ⟨answer, by simp⟩)
      · cases between with
        | nil =>
          obtain ⟨hhead, -⟩ := List.cons.inj htail
          exact Or.inl ⟨List.append_nil _, (congrArg Exchange.call hhead).symm⟩
        | cons e between =>
          obtain ⟨rfl, -⟩ := List.cons.inj htail
          exact Or.inr (Or.inr ⟨answer', by simp⟩)

/-- What was made stays made. -/
theorem Made.resume {execution : ScriptExecution Answer α} {before : List (Exchange Answer)} {c : Call}
    (h : execution.Made before c) (answers : (c : Call) → Answer c) : (execution.resume answers).Made before c := by
  obtain ⟨log, rest⟩ := execution
  cases rest with
  | done a => exact h
  | call c' next =>
    rcases h with ⟨rfl, hpending⟩ | ⟨answer, after, hlog⟩
    · obtain rfl : c' = c := Option.some.inj hpending
      exact Or.inr ⟨answers c', [], rfl⟩
    · refine Or.inr ⟨answer, after ++ [⟨c', answers c'⟩], ?_⟩
      have hlog' : log = before ++ ⟨c, answer⟩ :: after := hlog
      simp [ScriptExecution.resume, hlog']

end ScriptExecution

end Opsia
