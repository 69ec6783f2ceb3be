import Opsia.Orchestrator.Publisher

/-!
# The outbox

`OutboxOperationEventTransport` persists an event locally, keeps it in `pending`, and relays what is pending in the
background.  `drain` relays the first entry until there is none, or until a relay fails, which arms a timer.  It has
finished before its `finally` callback runs, and what happens in between still finds `relayRunning` set; the callback
kicks the relay again.

The process replays the retained events before it serves anything; from then on each event has an id of its own.
`accepted` and `relayed` list what was accepted and what the relay has acknowledged; they are there for the statements
only.
-/

namespace Opsia

open Json

/-- A call of `drain`: it waits for the relay of an entry, or has returned. -/
inductive DrainStage
  | relaying (eventId : String) (event : GameOperationEvent)
  | returned

structure OperationEventOutbox where
  pending : Fields GameOperationEvent := []
  relayRunning : Bool := false
  relayError : Option String := none
  retryTimer : Bool := false
  retryDelayMs : Nat := 1000
  drains : List DrainStage := []
  persisting : List GameOperationEvent := []
  serving : Bool := false
  issued : List String := []
  accepted : List GameOperationEvent := []
  relayed : List GameOperationEvent := []

inductive OutboxEvent
  | replay (events : List GameOperationEvent)
  | persist (event : GameOperationEvent)
  | persisted (call : Nat) (answer : Except String Unit)
  | relaySucceeded (drain : Nat)
  | relayFailed (drain : Nat) (message : String)
  | drainFinally (drain : Nat)
  | retry

namespace OperationEventOutbox

def init : OperationEventOutbox := {}

/-- The loop of `drain`, up to its next wait. -/
def drainLoop (pending : Fields GameOperationEvent) : DrainStage :=
  match pending with
  | [] => .returned
  | (eventId, event) :: _ => .relaying eventId event

def kickRelay (outbox : OperationEventOutbox) : OperationEventOutbox :=
  if outbox.relayRunning || outbox.retryTimer || outbox.pending.isEmpty then outbox
  else { outbox with relayRunning := true, drains := outbox.drains ++ [drainLoop outbox.pending] }

/-- `pending.set` of an event that is durable. -/
def enqueue (outbox : OperationEventOutbox) (event : GameOperationEvent) : OperationEventOutbox :=
  { outbox with pending := outbox.pending.put event.eventId event, accepted := outbox.accepted ++ [event] }

/-- The retained events at startup; each of them has its own id. -/
def replay (outbox : OperationEventOutbox) (events : List GameOperationEvent) : Option OperationEventOutbox :=
  if outbox.serving = true ∨ ¬(events.map GameOperationEvent.eventId).Nodup then none
  else
    some (kickRelay (events.foldl enqueue
      { outbox with serving := true, issued := events.map GameOperationEvent.eventId }))

/-- `persist` of an event with a new id, up to its wait for the durable transport. -/
def persist (outbox : OperationEventOutbox) (event : GameOperationEvent) : Option OperationEventOutbox :=
  if outbox.serving = false ∨ event.eventId ∈ outbox.issued then none
  else
    some { outbox with
      persisting := outbox.persisting ++ [event], issued := event.eventId :: outbox.issued }

/-- The durable transport answers a call of `persist`. -/
def persisted (outbox : OperationEventOutbox) (call : Nat) (answer : Except String Unit) :
    Option OperationEventOutbox :=
  outbox.persisting[call]?.map fun event =>
    let settled := { outbox with persisting := outbox.persisting.eraseIdx call }
    match answer with
    | .error _ => settled
    | .ok _ => (settled.enqueue event).kickRelay

def relaySucceeded (outbox : OperationEventOutbox) (drain : Nat) : Option OperationEventOutbox :=
  match outbox.drains[drain]? with
  | some (.relaying eventId event) =>
    let pending := outbox.pending.remove eventId
    some { outbox with
      pending, relayError := none, retryDelayMs := 1000
      drains := outbox.drains.set drain (drainLoop pending)
      relayed := outbox.relayed ++ [event] }
  | _ => none

def relayFailed (outbox : OperationEventOutbox) (drain : Nat) (message : String) : Option OperationEventOutbox :=
  match outbox.drains[drain]? with
  | some (.relaying _ _) =>
    some { outbox with
      relayError := some message, retryDelayMs := min (outbox.retryDelayMs * 2) 30000, retryTimer := true
      drains := outbox.drains.set drain .returned }
  | _ => none

def drainFinally (outbox : OperationEventOutbox) (drain : Nat) : Option OperationEventOutbox :=
  match outbox.drains[drain]? with
  | some .returned =>
    some (kickRelay { outbox with drains := outbox.drains.eraseIdx drain, relayRunning := false })
  | _ => none

def retry (outbox : OperationEventOutbox) : Option OperationEventOutbox :=
  if outbox.retryTimer then some (kickRelay { outbox with retryTimer := false }) else none

def step (outbox : OperationEventOutbox) : OutboxEvent → Option OperationEventOutbox
  | .replay events => outbox.replay events
  | .persist event => outbox.persist event
  | .persisted call answer => outbox.persisted call answer
  | .relaySucceeded drain => outbox.relaySucceeded drain
  | .relayFailed drain message => outbox.relayFailed drain message
  | .drainFinally drain => outbox.drainFinally drain
  | .retry => outbox.retry

/-! ### Nothing is stranded -/

/-- What was accepted has been relayed or is pending, in this order; while something is pending a drain is there, which
relays or whose `finally` callback comes, or the timer is armed; and there is at most one drain, which relays the first
pending event. -/
structure NotStranded (outbox : OperationEventOutbox) : Prop where
  kept : outbox.accepted = outbox.relayed ++ outbox.pending.map Prod.snd
  progress : outbox.pending ≠ [] → outbox.drains ≠ [] ∨ outbox.retryTimer = true
  one : outbox.drains.length ≤ 1
  inOrder : ∀ (drain : Nat) (eventId : String) (event : GameOperationEvent),
    outbox.drains[drain]? = some (.relaying eventId event) → outbox.pending.head? = some (eventId, event)

/-- The invariant.  `relayRunning` says that there is a drain; the ids of the pending events and of those that are being
persisted are different ones. -/
structure Relaying (outbox : OperationEventOutbox) : Prop where
  kept : outbox.accepted = outbox.relayed ++ outbox.pending.map Prod.snd
  progress : outbox.pending ≠ [] → outbox.relayRunning = true ∨ outbox.retryTimer = true
  running : outbox.relayRunning = true → ∃ stage, outbox.drains = [stage] ∧
    ∀ eventId event, stage = .relaying eventId event → outbox.pending.head? = some (eventId, event)
  idle : outbox.relayRunning = false → outbox.drains = []
  distinct : (outbox.pending.keys ++ outbox.persisting.map GameOperationEvent.eventId).Nodup
  issued : ∀ eventId ∈ outbox.pending.keys ++ outbox.persisting.map GameOperationEvent.eventId,
    eventId ∈ outbox.issued
  starting : outbox.serving = false → outbox.pending = [] ∧ outbox.persisting = []

theorem Relaying.notStranded {outbox : OperationEventOutbox} (h : Relaying outbox) : NotStranded outbox where
  kept := h.kept
  progress hpending := by
    rcases h.progress hpending with hrunning | htimer
    · obtain ⟨stage, hdrains, -⟩ := h.running hrunning
      refine Or.inl ?_
      rw [hdrains]
      exact List.cons_ne_nil stage []
    · exact Or.inr htimer
  one := by
    by_cases hrunning : outbox.relayRunning = true
    · obtain ⟨stage, hdrains, -⟩ := h.running hrunning
      rw [hdrains]
      exact le_refl _
    · rw [h.idle (by simpa using hrunning)]
      exact Nat.zero_le _
  inOrder drain eventId event hdrain := by
    by_cases hrunning : outbox.relayRunning = true
    · obtain ⟨stage, hdrains, hhead⟩ := h.running hrunning
      rw [hdrains] at hdrain
      exact hhead eventId event (List.mem_singleton.1 (List.mem_of_getElem? hdrain)).symm
    · rw [h.idle (by simpa using hrunning)] at hdrain
      cases hdrain

private theorem relaying_init : Relaying init where
  kept := rfl
  progress h := absurd rfl h
  running h := nomatch h
  idle _ := rfl
  distinct := .nil
  issued _ h := nomatch h
  starting _ := ⟨rfl, rfl⟩

/-- What holds before a kick: the relay may be missing. -/
private theorem Relaying.kickRelay {outbox : OperationEventOutbox}
    (kept : outbox.accepted = outbox.relayed ++ outbox.pending.map Prod.snd)
    (running : outbox.relayRunning = true → ∃ stage, outbox.drains = [stage] ∧
      ∀ eventId event, stage = .relaying eventId event → outbox.pending.head? = some (eventId, event))
    (idle : outbox.relayRunning = false → outbox.drains = [])
    (distinct : (outbox.pending.keys ++ outbox.persisting.map GameOperationEvent.eventId).Nodup)
    (issued : ∀ eventId ∈ outbox.pending.keys ++ outbox.persisting.map GameOperationEvent.eventId,
      eventId ∈ outbox.issued)
    (starting : outbox.serving = false → outbox.pending = [] ∧ outbox.persisting = []) :
    Relaying outbox.kickRelay := by
  unfold OperationEventOutbox.kickRelay
  by_cases hrunning : outbox.relayRunning = true
  · rw [hrunning, Bool.true_or, Bool.true_or, if_pos rfl]
    exact ⟨kept, fun _ => Or.inl hrunning, running, idle, distinct, issued, starting⟩
  · have hstopped : outbox.relayRunning = false := by simpa using hrunning
    by_cases htimer : outbox.retryTimer = true
    · rw [htimer, Bool.or_true, Bool.true_or, if_pos rfl]
      exact ⟨kept, fun _ => Or.inr htimer, running, idle, distinct, issued, starting⟩
    · by_cases hempty : outbox.pending = []
      · rw [hempty, List.isEmpty_nil, Bool.or_true, if_pos rfl]
        exact ⟨kept, fun hne => absurd hempty hne, running, idle, distinct, issued, starting⟩
      · rw [if_neg (by simp [hstopped, htimer, hempty])]
        obtain ⟨⟨eventId, event⟩, rest, hpending⟩ := List.exists_cons_of_ne_nil hempty
        refine ⟨kept, fun _ => Or.inl rfl, fun _ => ⟨.relaying eventId event, ?_, ?_⟩, fun h => (nomatch h), distinct,
          issued, starting⟩
        · dsimp only
          rw [idle hstopped, hpending]
          rfl
        · intro eventId' event' heq
          cases heq
          dsimp only
          rw [hpending]
          rfl

private theorem put_of_new {fs : Fields GameOperationEvent} {key : String} (h : key ∉ fs.keys)
    (event : GameOperationEvent) : fs.put key event = fs ++ [(key, event)] := by
  unfold Fields.put
  rw [if_neg h]

private theorem enqueue_of_new {outbox : OperationEventOutbox} {event : GameOperationEvent}
    (h : event.eventId ∉ outbox.pending.keys) : outbox.enqueue event = { outbox with
      pending := outbox.pending ++ [(event.eventId, event)], accepted := outbox.accepted ++ [event] } := by
  unfold enqueue
  rw [put_of_new h]

/-- `replay` appends the events. -/
private theorem foldl_enqueue (events : List GameOperationEvent) (outbox : OperationEventOutbox)
    (h : (outbox.pending.keys ++ events.map GameOperationEvent.eventId).Nodup) :
    events.foldl enqueue outbox = { outbox with
      pending := outbox.pending ++ events.map fun event => (event.eventId, event)
      accepted := outbox.accepted ++ events } := by
  induction events generalizing outbox with
  | nil => simp
  | cons event events ih =>
    have hnew : event.eventId ∉ outbox.pending.keys := by
      intro hin
      rw [List.map_cons, List.nodup_append] at h
      exact h.2.2 _ hin _ (List.mem_cons_self ..) rfl
    rw [List.foldl_cons, enqueue_of_new hnew, ih]
    · simp
    · unfold Fields.keys
      rw [List.map_append, List.map_singleton, List.append_assoc, List.singleton_append]
      exact h

private theorem Relaying.replay {outbox next : OperationEventOutbox} (h : Relaying outbox)
    {events : List GameOperationEvent} (hs : outbox.replay events = some next) : Relaying next := by
  unfold OperationEventOutbox.replay at hs
  split at hs
  · cases hs
  · rename_i hfirst
    rw [not_or, not_not, Bool.not_eq_true] at hfirst
    obtain ⟨hserving, hnodup⟩ := hfirst
    obtain ⟨hpending, hpersisting⟩ := h.starting hserving
    cases hs
    have hids : (events.map fun event => (event.eventId, event)).map Prod.fst =
        events.map GameOperationEvent.eventId := by
      rw [List.map_map]
      rfl
    have hevents : (events.map fun event => (event.eventId, event)).map Prod.snd = events := by
      rw [List.map_map]
      exact List.map_id events
    rw [foldl_enqueue]
    · refine Relaying.kickRelay ?_ ?_ h.idle ?_ ?_ fun hfalse => nomatch hfalse
      · dsimp only
        rw [hpending, List.nil_append, hevents, h.kept, hpending, List.map_nil, List.append_nil]
      · intro hrunning
        obtain ⟨stage, hdrains, hhead⟩ := h.running hrunning
        refine ⟨stage, hdrains, fun eventId event heq => ?_⟩
        have hsome := hhead eventId event heq
        rw [hpending] at hsome
        cases hsome
      · dsimp only
        unfold Fields.keys
        rw [hpending, hpersisting, List.nil_append, hids, List.map_nil, List.append_nil]
        exact hnodup
      · intro eventId hin
        dsimp only at hin ⊢
        unfold Fields.keys at hin
        rw [hpending, hpersisting, List.nil_append, hids, List.map_nil, List.append_nil] at hin
        exact hin
    · dsimp only
      rw [hpending, Fields.keys_nil, List.nil_append]
      exact hnodup

private theorem Relaying.persist {outbox next : OperationEventOutbox} (h : Relaying outbox)
    {event : GameOperationEvent} (hs : outbox.persist event = some next) : Relaying next := by
  unfold OperationEventOutbox.persist at hs
  split at hs
  · cases hs
  · rename_i hnew
    rw [not_or, Bool.not_eq_false] at hnew
    obtain ⟨hserving, hnew⟩ := hnew
    cases hs
    refine ⟨h.kept, h.progress, h.running, h.idle, ?_, ?_, fun hfalse => ?_⟩
    · dsimp only
      rw [List.map_append, List.map_singleton, ← List.append_assoc, List.nodup_append]
      refine ⟨h.distinct, List.nodup_singleton _, ?_⟩
      intro eventId hin other hother heq
      rw [List.mem_singleton] at hother
      rw [heq, hother] at hin
      exact hnew (h.issued _ hin)
    · intro eventId hin
      dsimp only at hin ⊢
      rw [List.map_append, List.map_singleton, ← List.append_assoc, List.mem_append, List.mem_singleton] at hin
      rcases hin with hold | rfl
      · exact List.mem_cons_of_mem _ (h.issued eventId hold)
      · exact List.mem_cons_self ..
    · have hfalse : outbox.serving = false := hfalse
      rw [hserving] at hfalse
      cases hfalse

private theorem Relaying.persisted {outbox next : OperationEventOutbox} (h : Relaying outbox) {call : Nat}
    {answer : Except String Unit} (hs : outbox.persisted call answer = some next) : Relaying next := by
  unfold OperationEventOutbox.persisted at hs
  obtain ⟨event, hevent, hnext⟩ := Option.map_eq_some_iff.1 hs
  have hserving : outbox.serving = true := by
    by_contra hfalse
    rw [(h.starting (by simpa using hfalse)).2] at hevent
    cases hevent
  have hsub : (outbox.persisting.eraseIdx call).Sublist outbox.persisting := List.eraseIdx_sublist ..
  cases answer with
  | error message =>
    cases hnext
    have hids := (List.Sublist.refl outbox.pending.keys).append (hsub.map GameOperationEvent.eventId)
    refine ⟨h.kept, h.progress, h.running, h.idle, h.distinct.sublist hids,
      fun eventId hin => h.issued eventId (hids.subset hin), fun hfalse => ?_⟩
    have hfalse : outbox.serving = false := hfalse
    rw [hserving] at hfalse
    cases hfalse
  | ok _ =>
    cases hnext
    have hperm : (outbox.pending.keys ++ [event.eventId] ++
        (outbox.persisting.eraseIdx call).map GameOperationEvent.eventId).Perm
        (outbox.pending.keys ++ outbox.persisting.map GameOperationEvent.eventId) := by
      obtain ⟨hlt, heq⟩ := List.getElem?_eq_some_iff.1 hevent
      have herase := (List.getElem_cons_eraseIdx_perm hlt).map GameOperationEvent.eventId
      rw [heq, List.map_cons] at herase
      rw [List.append_assoc]
      exact herase.append_left _
    have hdistinct := hperm.nodup_iff.2 h.distinct
    have hnew : event.eventId ∉ outbox.pending.keys := by
      intro hin
      rw [List.append_assoc, List.nodup_append] at hdistinct
      exact hdistinct.2.2 _ hin _ (List.mem_append_left _ (List.mem_singleton_self _)) rfl
    have hkeys : (outbox.pending ++ [(event.eventId, event)]).map Prod.fst = outbox.pending.keys ++ [event.eventId] := by
      rw [List.map_append]
      rfl
    have henqueue := enqueue_of_new (show event.eventId ∉ ({ outbox with
      persisting := outbox.persisting.eraseIdx call } : OperationEventOutbox).pending.keys from hnew)
    dsimp only
    rw [henqueue]
    refine Relaying.kickRelay ?_ ?_ h.idle ?_ ?_ fun hfalse => ?_
    · dsimp only
      rw [List.map_append, List.map_singleton, ← List.append_assoc, ← h.kept]
    · intro hrunning
      obtain ⟨stage, hdrains, hhead⟩ := h.running hrunning
      refine ⟨stage, hdrains, fun eventId first heq => ?_⟩
      dsimp only
      rw [List.head?_append, hhead eventId first heq]
      rfl
    · dsimp only
      unfold Fields.keys at hdistinct hkeys ⊢
      rw [hkeys]
      exact hdistinct
    · intro eventId hin
      dsimp only at hin ⊢
      unfold Fields.keys at hin hkeys hperm
      rw [hkeys] at hin
      exact h.issued eventId (hperm.subset hin)
    · have hfalse : outbox.serving = false := hfalse
      rw [hserving] at hfalse
      cases hfalse

private theorem remove_head {eventId : String} {event : GameOperationEvent} {rest : Fields GameOperationEvent}
    (h : (Fields.keys ((eventId, event) :: rest)).Nodup) :
    Fields.remove ((eventId, event) :: rest) eventId = rest := by
  rw [Fields.keys_cons, List.nodup_cons] at h
  unfold Fields.remove
  rw [List.filter_cons_of_neg (by simp), List.filter_eq_self]
  intro entry hin
  refine decide_eq_true fun heq => h.1 ?_
  rw [← heq]
  exact List.mem_map_of_mem hin

private theorem head_drainLoop {pending : Fields GameOperationEvent} {eventId : String} {event : GameOperationEvent}
    (h : drainLoop pending = .relaying eventId event) : pending.head? = some (eventId, event) := by
  cases pending with
  | nil => cases h
  | cons entry rest =>
    cases h
    rfl

/-- A drain is the only one, and the relay is running. -/
private theorem Relaying.only {outbox : OperationEventOutbox} (h : Relaying outbox) {drain : Nat} {stage : DrainStage}
    (hdrain : outbox.drains[drain]? = some stage) :
    drain = 0 ∧ outbox.drains = [stage] ∧ outbox.relayRunning = true ∧
      ∀ eventId event, stage = .relaying eventId event → outbox.pending.head? = some (eventId, event) := by
  have hrunning : outbox.relayRunning = true := by
    by_contra hstopped
    rw [h.idle (by simpa using hstopped)] at hdrain
    cases hdrain
  obtain ⟨only, hdrains, hhead⟩ := h.running hrunning
  have hlt := (List.getElem?_eq_some_iff.1 hdrain).1
  rw [hdrains, List.length_singleton] at hlt
  have hzero : drain = 0 := by omega
  subst hzero
  rw [hdrains] at hdrain
  cases hdrain
  exact ⟨rfl, hdrains, hrunning, hhead⟩

private theorem Relaying.relaySucceeded {outbox next : OperationEventOutbox} (h : Relaying outbox) {drain : Nat}
    (hs : outbox.relaySucceeded drain = some next) : Relaying next := by
  unfold OperationEventOutbox.relaySucceeded at hs
  split at hs
  · rename_i eventId event hdrain
    cases hs
    obtain ⟨rfl, hdrains, hrunning, hhead⟩ := h.only hdrain
    obtain ⟨rest, hpending⟩ : ∃ rest, outbox.pending = (eventId, event) :: rest := by
      cases hlist : outbox.pending with
      | nil =>
        have hsome := hhead eventId event rfl
        rw [hlist] at hsome
        cases hsome
      | cons entry rest =>
        have hsome := hhead eventId event rfl
        rw [hlist] at hsome
        cases hsome
        exact ⟨rest, rfl⟩
    have hdistinct := h.distinct
    have hissued := h.issued
    rw [hpending] at hdistinct hissued
    have hremoved : outbox.pending.remove eventId = rest := by
      rw [hpending]
      exact remove_head (hdistinct.of_append_left)
    rw [hremoved]
    refine ⟨?_, fun _ => Or.inl hrunning, fun _ => ⟨drainLoop rest, ?_, ?_⟩, fun hstopped => ?_, ?_, ?_, ?_⟩
    · dsimp only
      rw [h.kept, hpending, List.map_cons, List.append_assoc]
      rfl
    · dsimp only
      rw [hdrains]
      rfl
    · intro eventId' event' heq
      exact head_drainLoop heq
    · have hstopped : outbox.relayRunning = false := hstopped
      rw [hrunning] at hstopped
      cases hstopped
    · rw [Fields.keys_cons, List.cons_append, List.nodup_cons] at hdistinct
      exact hdistinct.2
    · intro other hin
      exact hissued other (List.mem_cons_of_mem _ hin)
    · intro hserving
      have hempty := (h.starting hserving).1
      rw [hpending] at hempty
      cases hempty
  · cases hs

private theorem Relaying.relayFailed {outbox next : OperationEventOutbox} (h : Relaying outbox) {drain : Nat}
    {message : String} (hs : outbox.relayFailed drain message = some next) : Relaying next := by
  unfold OperationEventOutbox.relayFailed at hs
  split at hs
  · rename_i eventId event hdrain
    cases hs
    obtain ⟨rfl, hdrains, hrunning, -⟩ := h.only hdrain
    refine ⟨h.kept, fun _ => Or.inr rfl, fun _ => ⟨.returned, ?_, fun _ _ heq => (nomatch heq)⟩, fun hstopped => ?_,
      h.distinct, h.issued, h.starting⟩
    · dsimp only
      rw [hdrains]
      rfl
    · have hstopped : outbox.relayRunning = false := hstopped
      rw [hrunning] at hstopped
      cases hstopped
  · cases hs

private theorem Relaying.drainFinally {outbox next : OperationEventOutbox} (h : Relaying outbox) {drain : Nat}
    (hs : outbox.drainFinally drain = some next) : Relaying next := by
  unfold OperationEventOutbox.drainFinally at hs
  split at hs
  · rename_i hdrain
    cases hs
    obtain ⟨rfl, hdrains, -, -⟩ := h.only hdrain
    refine Relaying.kickRelay h.kept (fun hrunning => (nomatch hrunning)) (fun _ => ?_) h.distinct h.issued h.starting
    dsimp only
    rw [hdrains]
    rfl
  · cases hs

theorem Relaying.step {outbox next : OperationEventOutbox} {event : OutboxEvent} (h : Relaying outbox)
    (hs : outbox.step event = some next) : Relaying next := by
  cases event with
  | replay events => exact h.replay hs
  | persist event => exact h.persist hs
  | persisted call answer => exact h.persisted hs
  | relaySucceeded drain => exact h.relaySucceeded hs
  | relayFailed drain message => exact h.relayFailed hs
  | drainFinally drain => exact h.drainFinally hs
  | retry =>
    have hretry : outbox.retry = some next := hs
    unfold OperationEventOutbox.retry at hretry
    split at hretry
    · cases hretry
      exact Relaying.kickRelay h.kept h.running h.idle h.distinct h.issued h.starting
    · cases hretry

/-- In every run of the outbox, in every state, nothing that was accepted is stranded. -/
theorem outbox_not_stranded (events : List OutboxEvent) : Machine.Throughout step NotStranded init events :=
  (Machine.throughout_of_step (fun _ _ _ hrelaying hs => hrelaying.step hs) relaying_init events).mono
    fun _ => Relaying.notStranded

end OperationEventOutbox

end Opsia
