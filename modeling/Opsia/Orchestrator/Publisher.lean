import Opsia.Json.Value
import Opsia.Machine

/-!
# Publishing operation events

`OperationEventPublisher.publish` queues its calls: a call builds its event when the one before it is settled, reserves
the event's sequence number and its place in the causation chain, and waits for the transport.  The transport may accept
the event, fail, or accept it and lose the acknowledgement.  Listeners hear of an event when its acknowledgement comes.

`reserved` lists the events in the order in which they were built; it is there for the statements only.
-/

namespace Opsia

open Json

/-- `GAME_OPERATION_SUBJECTS` -/
inductive GameOperationSubject
  | gitRevisionObserved
  | manifestRendered
  | releasePolicyEvaluated
  | canaryScheduled
  | canaryReady
  | validationLoadStarted
  | metricGateEvaluated
  | promotionBlocked
  | promotionApproved
  | snapshotSaveStarted
  | snapshotSaveCompleted
  | snapshotSaveCoalesced
  | snapshotBacklogDetected
  | memoryPressureObserved
  | containerOOMKilled
  | evidenceBundleSealed
  | roomCandidateScheduled
  | roomCandidateReady
  | roomSnapshotSeeded
  | roomJournalCaughtUp
  | roomChecksumMatched
  | roomChecksumMismatched
  | roomEpochFenced
  | roomGatewayCutover
  | roomInputReplayCompleted
  | roomPostVerificationCompleted
  | roomOldPodDrained
  | roomHandoffFailed
  | safePrMerged
  | gitOpsRevisionObserved
  | rolloutWaveStarted
  | rolloutWaveCompleted
  | rolloutWaveBlocked
  | postVerificationCompleted
deriving DecidableEq, Repr

structure GameOperationEvent where
  eventId : String
  subject : GameOperationSubject
  source : String
  workspaceId : String
  correlationId : String
  causationId : Option String
  createdAt : String
  sequence : Nat
  payload : Fields JsValue

/-- The events of one operation. -/
def ofOperation (operationId : String) (events : List GameOperationEvent) : List GameOperationEvent :=
  events.filter fun event => event.correlationId = operationId

theorem ofOperation_cons (operationId : String) (event : GameOperationEvent) (events : List GameOperationEvent) :
    ofOperation operationId (event :: events) =
      if event.correlationId = operationId then event :: ofOperation operationId events
      else ofOperation operationId events := by
  unfold ofOperation
  by_cases h : event.correlationId = operationId
  · rw [List.filter_cons_of_pos (by simpa using h), if_pos h]
  · rw [List.filter_cons_of_neg (by simpa using h), if_neg h]

/-- The fields of a context that `publish` reads. -/
structure PublishContext where
  operationId : String
  workspaceId : String
  source : Option String := none

/-- A call of `publish`, and the state of its promise. -/
structure PublishCall where
  context : PublishContext
  subject : GameOperationSubject
  payload : Fields JsValue
  result : Option (Except String GameOperationEvent) := none

/-- What `transport.persist` is busy with; `accepted` says that the event is durable already. -/
structure PersistCall where
  call : Nat
  event : GameOperationEvent
  accepted : Bool := false

structure EventListener where
  subscribed : Bool := true
  received : List GameOperationEvent := []

structure OperationEventPublisher where
  sequenceByOperation : Fields Nat := []
  tailByOperation : Fields String := []
  calls : List PublishCall := []
  started : Nat := 0
  persisting : Option PersistCall := none
  listeners : List EventListener := []
  durable : List GameOperationEvent := []
  reserved : List GameOperationEvent := []

/-- `run` is the turn of the next call, with a new id and the clock's two readings; `accept` is the transport making the
event durable, `settle` its answer. -/
inductive PublisherEvent
  | publish (context : PublishContext) (subject : GameOperationSubject) (payload : Fields JsValue)
  | subscribe
  | unsubscribe (listener : Nat)
  | run (eventId createdAt observedAt : String)
  | accept
  | settle (answer : Except String Unit)

namespace OperationEventPublisher

def init : OperationEventPublisher := {}

/-- `payload.observed_at ?? observedAt` -/
def observedField (payload : Fields JsValue) (observedAt : String) : JsValue :=
  match payload.get? "observed_at" with
  | none | some .undefined | some .null => .str observedAt
  | some value => value

/-- The event that a call publishes. -/
def eventFor (publisher : OperationEventPublisher) (call : PublishCall) (eventId createdAt observedAt : String) :
    GameOperationEvent :=
  let operationId := call.context.operationId
  let sequence := (publisher.sequenceByOperation.get? operationId).getD 0 + 1
  { eventId
    subject := call.subject
    source := call.context.source.getD "demo-game/room-orchestrator"
    workspaceId := call.context.workspaceId
    correlationId := operationId
    causationId := publisher.tailByOperation.get? operationId
    createdAt
    sequence
    payload :=
      (((call.payload.assign "operation_id" (.str operationId)).assign "operation_sequence"
        (.num (.ofNat sequence))).assign "workspace_id" (.str call.context.workspaceId)).assign "observed_at"
          (observedField call.payload observedAt) }

/-- The next call builds its event and reserves its position, before any input or output. -/
def run (publisher : OperationEventPublisher) (eventId createdAt observedAt : String) :
    Option OperationEventPublisher :=
  match publisher.persisting, publisher.calls[publisher.started]? with
  | none, some call =>
    let event := publisher.eventFor call eventId createdAt observedAt
    some { publisher with
      sequenceByOperation := publisher.sequenceByOperation.assign event.correlationId event.sequence
      tailByOperation := publisher.tailByOperation.assign event.correlationId event.eventId
      started := publisher.started + 1
      persisting := some { call := publisher.started, event }
      reserved := publisher.reserved ++ [event] }
  | _, _ => none

def accept (publisher : OperationEventPublisher) : Option OperationEventPublisher :=
  match publisher.persisting with
  | some persist =>
    if persist.accepted then none
    else
      some { publisher with
        persisting := some { persist with accepted := true }, durable := publisher.durable ++ [persist.event] }
  | none => none

/-- `listener(event)`; an exception of a listener changes nothing here. -/
def EventListener.notify (event : GameOperationEvent) (listener : EventListener) : EventListener :=
  if listener.subscribed then { listener with received := listener.received ++ [event] } else listener

def setResult (publisher : OperationEventPublisher) (call : Nat) (result : Except String GameOperationEvent) :
    OperationEventPublisher :=
  { publisher with calls := publisher.calls.modify call fun c => { c with result := some result } }

/-- The transport answers: `persist` resolves only for an event that is durable. -/
def settle (publisher : OperationEventPublisher) (answer : Except String Unit) : Option OperationEventPublisher :=
  match publisher.persisting with
  | none => none
  | some persist =>
    let idle := { publisher with persisting := none }
    match answer with
    | .error message => some (idle.setResult persist.call (.error message))
    | .ok _ =>
      if persist.accepted then
        some ({ idle with listeners := idle.listeners.map (EventListener.notify persist.event) }.setResult persist.call
          (.ok persist.event))
      else none

def step (publisher : OperationEventPublisher) : PublisherEvent → Option OperationEventPublisher
  | .publish context subject payload =>
    some { publisher with calls := publisher.calls ++ [{ context, subject, payload }] }
  | .subscribe => some { publisher with listeners := publisher.listeners ++ [{}] }
  | .unsubscribe listener =>
    some { publisher with listeners := publisher.listeners.modify listener fun l => { l with subscribed := false } }
  | .run eventId createdAt observedAt => publisher.run eventId createdAt observedAt
  | .accept => publisher.accept
  | .settle answer => publisher.settle answer

/-! ### What is published -/

/-- The event before this position of its operation. -/
def predecessor (events : List GameOperationEvent) (position : Nat) (operationId : String) :
    Option GameOperationEvent := (ofOperation operationId (events.take position)).getLast?

/-- Events are persisted in the order of the calls; the sequence numbers of an operation increase strictly, over all
events built for it; each names its predecessor; and a listener has heard of durable events only, in their order. -/
structure Published (publisher : OperationEventPublisher) : Prop where
  callOrder : ∀ (n : Nat) (event : GameOperationEvent), publisher.reserved[n]? = some event →
    ∃ call, publisher.calls[n]? = some call ∧ call.context.operationId = event.correlationId ∧
      call.subject = event.subject
  durableOrder : publisher.durable.Sublist publisher.reserved
  increasing : ∀ operationId, (ofOperation operationId publisher.durable).Pairwise fun first second =>
    first.sequence < second.sequence
  neverReused : ∀ operationId, (ofOperation operationId publisher.reserved).Pairwise fun first second =>
    first.sequence < second.sequence
  caused : ∀ (n : Nat) (event : GameOperationEvent), publisher.reserved[n]? = some event →
    event.causationId = (predecessor publisher.reserved n event.correlationId).map GameOperationEvent.eventId
  heard : ∀ listener ∈ publisher.listeners, listener.received.Sublist publisher.durable

/-- The invariant: the maps hold the last position of each operation, and the event that is being persisted is the last
one, which is the last durable event as soon as it is accepted and has been heard of by nobody. -/
structure Reserving (publisher : OperationEventPublisher) : Prop where
  started : publisher.reserved.length = publisher.started
  calls : ∀ (n : Nat) (event : GameOperationEvent), publisher.reserved[n]? = some event →
    ∃ call, publisher.calls[n]? = some call ∧ call.context.operationId = event.correlationId ∧
      call.subject = event.subject
  sequences : ∀ event ∈ publisher.reserved,
    event.sequence ≤ (publisher.sequenceByOperation.get? event.correlationId).getD 0
  bounded : ∀ operationId, (publisher.sequenceByOperation.get? operationId).getD 0 ≤ publisher.started
  positive : ∀ event ∈ publisher.reserved, 1 ≤ event.sequence
  tails : ∀ operationId, publisher.tailByOperation.get? operationId =
    (ofOperation operationId publisher.reserved).getLast?.map GameOperationEvent.eventId
  increasing : ∀ operationId, (ofOperation operationId publisher.reserved).Pairwise fun first second =>
    first.sequence < second.sequence
  caused : ∀ (n : Nat) (event : GameOperationEvent), publisher.reserved[n]? = some event →
    event.causationId = (predecessor publisher.reserved n event.correlationId).map GameOperationEvent.eventId
  durable : publisher.durable.Sublist publisher.reserved
  heard : ∀ listener ∈ publisher.listeners, listener.received.Sublist publisher.durable
  persisting : ∀ persist, publisher.persisting = some persist →
    ∃ earlier, publisher.reserved = earlier ++ [persist.event] ∧
      (persist.accepted = false → publisher.durable.Sublist earlier) ∧
      (persist.accepted = true → ∃ before, publisher.durable = before ++ [persist.event] ∧
        ∀ listener ∈ publisher.listeners, listener.received.Sublist before)

theorem Reserving.published {publisher : OperationEventPublisher} (h : Reserving publisher) : Published publisher where
  callOrder := h.calls
  durableOrder := h.durable
  increasing operationId := (h.increasing operationId).sublist (h.durable.filter _)
  neverReused := h.increasing
  caused := h.caused
  heard := h.heard

private theorem reserving_init : Reserving init := by
  refine ⟨rfl, ?_, ?_, fun _ => Nat.zero_le _, ?_, fun _ => rfl, fun _ => .nil, ?_, .slnil, ?_, ?_⟩
  · intro n event h
    cases h
  · intro event h
    cases h
  · intro event h
    cases h
  · intro n event h
    cases h
  · intro listener h
    cases h
  · intro persist h
    cases h

private theorem ofOperation_append (operationId : String) (events : List GameOperationEvent)
    (event : GameOperationEvent) : ofOperation operationId (events ++ [event]) =
      if event.correlationId = operationId then ofOperation operationId events ++ [event]
      else ofOperation operationId events := by
  unfold ofOperation
  rw [List.filter_append]
  by_cases h : event.correlationId = operationId
  · simp [h]
  · simp [h]

private theorem getElem?_concat {α : Type} {xs : List α} {x y : α} {n : Nat} (h : (xs ++ [x])[n]? = some y) :
    (n < xs.length ∧ xs[n]? = some y) ∨ (n = xs.length ∧ y = x) := by
  by_cases hlt : n < xs.length
  · rw [List.getElem?_append_left hlt] at h
    exact Or.inl ⟨hlt, h⟩
  · have hle := (List.getElem?_eq_some_iff.1 h).1
    rw [List.length_append, List.length_singleton] at hle
    have heq : n = xs.length := by omega
    subst heq
    rw [List.getElem?_concat_length] at h
    cases h
    exact Or.inr ⟨rfl, rfl⟩

/-- The turn of a call: a new last event of its operation. -/
private theorem Reserving.run {publisher next : OperationEventPublisher} (h : Reserving publisher)
    {eventId createdAt observedAt : String} (hs : publisher.run eventId createdAt observedAt = some next) :
    Reserving next := by
  unfold OperationEventPublisher.run at hs
  split at hs
  · rename_i call hidle hcall
    cases hs
    have hsequence : (publisher.eventFor call eventId createdAt observedAt).sequence =
        (publisher.sequenceByOperation.get? call.context.operationId).getD 0 + 1 := rfl
    have hcause : (publisher.eventFor call eventId createdAt observedAt).causationId =
        publisher.tailByOperation.get? call.context.operationId := rfl
    have hcorrelation : (publisher.eventFor call eventId createdAt observedAt).correlationId =
        call.context.operationId := rfl
    have hsubject : (publisher.eventFor call eventId createdAt observedAt).subject = call.subject := rfl
    generalize hevent : publisher.eventFor call eventId createdAt observedAt = event at *
    refine ⟨?_, ?_, ?_, ?_, ?_, ?_, ?_, ?_, ?_, h.heard, ?_⟩
    · dsimp only
      rw [List.length_append, List.length_singleton, h.started]
    · intro n other hn
      rcases getElem?_concat hn with ⟨-, hthere⟩ | ⟨rfl, rfl⟩
      · exact h.calls n other hthere
      · exact ⟨call, by rw [h.started]; exact hcall, hcorrelation.symm, hsubject.symm⟩
    · intro other hin
      dsimp only
      rw [Fields.get?_assign]
      rw [List.mem_append, List.mem_singleton] at hin
      rcases hin with hthere | rfl
      · have hle := h.sequences other hthere
        by_cases hsame : other.correlationId = event.correlationId
        · rw [if_pos hsame]
          rw [hsame, hcorrelation] at hle
          rw [Option.getD_some]
          omega
        · rw [if_neg hsame]
          exact hle
      · rw [if_pos rfl]
        exact le_refl _
    · intro operationId
      have hle := h.bounded call.context.operationId
      dsimp only
      rw [Fields.get?_assign]
      by_cases hsame : operationId = event.correlationId
      · rw [if_pos hsame, Option.getD_some]
        omega
      · rw [if_neg hsame]
        exact (h.bounded operationId).trans (Nat.le_succ _)
    · intro other hin
      rw [List.mem_append, List.mem_singleton] at hin
      rcases hin with hthere | rfl
      · exact h.positive other hthere
      · omega
    · intro operationId
      dsimp only
      rw [Fields.get?_assign, ofOperation_append]
      by_cases hsame : event.correlationId = operationId
      · rw [if_pos hsame.symm, if_pos hsame, List.getLast?_concat]
        rfl
      · rw [if_neg fun heq => hsame heq.symm, if_neg hsame]
        exact h.tails operationId
    · intro operationId
      dsimp only
      rw [ofOperation_append]
      by_cases hsame : event.correlationId = operationId
      · rw [if_pos hsame, List.pairwise_append]
        refine ⟨h.increasing operationId, List.pairwise_singleton .., ?_⟩
        intro earlier hearlier last hlast
        rw [List.mem_singleton] at hlast
        subst hlast
        unfold ofOperation at hearlier
        obtain ⟨hin, hof⟩ := List.mem_filter.1 hearlier
        have hle := h.sequences earlier hin
        rw [of_decide_eq_true hof, ← hsame, hcorrelation] at hle
        omega
      · rw [if_neg hsame]
        exact h.increasing operationId
    · intro n other hn
      rcases getElem?_concat hn with ⟨hlt, hthere⟩ | ⟨rfl, rfl⟩
      · rw [h.caused n other hthere]
        unfold predecessor
        dsimp only
        rw [List.take_append_of_le_length (by omega)]
      · unfold predecessor
        dsimp only
        rw [List.take_left, hcause, hcorrelation]
        exact h.tails _
    · exact h.durable.trans (List.sublist_append_left ..)
    · intro persist hpersist
      cases hpersist
      exact ⟨publisher.reserved, rfl, fun _ => h.durable, fun hfalse => nomatch hfalse⟩
  · cases hs

private theorem Reserving.accept {publisher next : OperationEventPublisher} (h : Reserving publisher)
    (hs : publisher.accept = some next) : Reserving next := by
  unfold OperationEventPublisher.accept at hs
  split at hs
  · rename_i persist hpersist
    by_cases haccepted : persist.accepted = true
    · rw [if_pos haccepted] at hs
      cases hs
    · rw [if_neg haccepted] at hs
      cases hs
      obtain ⟨earlier, hreserved, hpending, -⟩ := h.persisting persist hpersist
      have hbefore := hpending (by simpa using haccepted)
      refine ⟨h.started, h.calls, h.sequences, h.bounded, h.positive, h.tails, h.increasing, h.caused, ?_, ?_, ?_⟩
      · dsimp only
        rw [hreserved]
        exact List.Sublist.append hbefore (List.Sublist.refl _)
      · intro listener hin
        exact (h.heard listener hin).trans (List.sublist_append_left ..)
      · intro other hother
        cases hother
        exact ⟨earlier, hreserved, fun hfalse => (nomatch hfalse), fun _ => ⟨publisher.durable, rfl, h.heard⟩⟩
  · cases hs

/-- Calls may be settled, and nothing is being persisted any more. -/
private theorem Reserving.idle {publisher next : OperationEventPublisher} (h : Reserving publisher)
    (hsequences : next.sequenceByOperation = publisher.sequenceByOperation)
    (htails : next.tailByOperation = publisher.tailByOperation) (hstarted : next.started = publisher.started)
    (hreserved : next.reserved = publisher.reserved) (hdurable : next.durable = publisher.durable)
    (hcalls : ∀ (n : Nat) (call : PublishCall), publisher.calls[n]? = some call → ∃ call', next.calls[n]? = some call' ∧
      call'.context = call.context ∧ call'.subject = call.subject)
    (hheard : ∀ listener ∈ next.listeners, listener.received.Sublist publisher.durable)
    (hpersisting : next.persisting = none) : Reserving next := by
  refine ⟨by rw [hreserved, hstarted, h.started], ?_, ?_, ?_, ?_, ?_, ?_, ?_, ?_, ?_, ?_⟩
  · intro n event hn
    rw [hreserved] at hn
    obtain ⟨call, hcall, hcontext, hsubject⟩ := h.calls n event hn
    obtain ⟨call', hcall', hcontext', hsubject'⟩ := hcalls n call hcall
    exact ⟨call', hcall', by rw [hcontext', hcontext], by rw [hsubject', hsubject]⟩
  · rw [hreserved, hsequences]
    exact h.sequences
  · rw [hsequences, hstarted]
    exact h.bounded
  · rw [hreserved]
    exact h.positive
  · rw [hreserved, htails]
    exact h.tails
  · rw [hreserved]
    exact h.increasing
  · rw [hreserved]
    exact h.caused
  · rw [hreserved, hdurable]
    exact h.durable
  · rw [hdurable]
    exact hheard
  · intro persist hsome
    rw [hpersisting] at hsome
    cases hsome

private theorem setResult_calls (publisher : OperationEventPublisher) (k : Nat)
    (result : Except String GameOperationEvent) (n : Nat) (call : PublishCall) (h : publisher.calls[n]? = some call) :
    ∃ call', (publisher.setResult k result).calls[n]? = some call' ∧ call'.context = call.context ∧
      call'.subject = call.subject := by
  unfold setResult
  dsimp only
  rw [List.getElem?_modify, h]
  refine ⟨_, rfl, ?_⟩
  dsimp only
  split
  · exact ⟨rfl, rfl⟩
  · exact ⟨rfl, rfl⟩

private theorem Reserving.settle {publisher next : OperationEventPublisher} (h : Reserving publisher)
    {answer : Except String Unit} (hs : publisher.settle answer = some next) : Reserving next := by
  unfold OperationEventPublisher.settle at hs
  split at hs
  · cases hs
  · rename_i persist hpersist
    cases answer with
    | error message =>
      cases hs
      exact h.idle rfl rfl rfl rfl rfl (fun n call => setResult_calls _ _ _ n call) h.heard rfl
    | ok _ =>
      dsimp only at hs
      by_cases haccepted : persist.accepted = true
      · rw [if_pos haccepted] at hs
        cases hs
        obtain ⟨-, -, -, hdone⟩ := h.persisting persist hpersist
        obtain ⟨before, hdurable, hheard⟩ := hdone haccepted
        refine h.idle rfl rfl rfl rfl rfl (fun n call => setResult_calls _ _ _ n call) ?_ rfl
        intro listener hin
        obtain ⟨earlier, hearlier, rfl⟩ := List.mem_map.1 hin
        unfold EventListener.notify
        by_cases hsubscribed : earlier.subscribed = true
        · rw [if_pos hsubscribed, hdurable]
          exact List.Sublist.append (hheard earlier hearlier) (List.Sublist.refl _)
        · rw [if_neg hsubscribed]
          exact h.heard earlier hearlier
      · rw [if_neg haccepted] at hs
        cases hs

theorem Reserving.step {publisher next : OperationEventPublisher} {event : PublisherEvent} (h : Reserving publisher)
    (hs : publisher.step event = some next) : Reserving next := by
  cases event with
  | publish context subject payload =>
    cases hs
    refine ⟨h.started, ?_, h.sequences, h.bounded, h.positive, h.tails, h.increasing, h.caused, h.durable, h.heard,
      h.persisting⟩
    intro n event hn
    obtain ⟨call, hcall, hrest⟩ := h.calls n event hn
    refine ⟨call, ?_, hrest⟩
    dsimp only
    rw [List.getElem?_append_left (List.getElem?_eq_some_iff.1 hcall).1]
    exact hcall
  | subscribe =>
    cases hs
    have hnew : ∀ (events : List GameOperationEvent), (∀ l ∈ publisher.listeners, l.received.Sublist events) →
        ∀ l ∈ publisher.listeners ++ [({} : EventListener)], l.received.Sublist events := by
      intro events hold l hin
      rw [List.mem_append, List.mem_singleton] at hin
      rcases hin with hthere | rfl
      · exact hold l hthere
      · exact List.nil_sublist _
    refine ⟨h.started, h.calls, h.sequences, h.bounded, h.positive, h.tails, h.increasing, h.caused, h.durable,
      hnew _ h.heard, ?_⟩
    intro persist hpersist
    obtain ⟨earlier, hreserved, hpending, hdone⟩ := h.persisting persist hpersist
    refine ⟨earlier, hreserved, hpending, fun haccepted => ?_⟩
    obtain ⟨before, hdurable, hheard⟩ := hdone haccepted
    exact ⟨before, hdurable, hnew before hheard⟩
  | unsubscribe k =>
    cases hs
    have hkept : ∀ (events : List GameOperationEvent), (∀ l ∈ publisher.listeners, l.received.Sublist events) →
        ∀ l ∈ publisher.listeners.modify k fun l => { l with subscribed := false }, l.received.Sublist events := by
      intro events hold l hin
      obtain ⟨n, hn⟩ := List.mem_iff_getElem?.1 hin
      rw [List.getElem?_modify] at hn
      obtain ⟨earlier, hearlier, rfl⟩ := Option.map_eq_some_iff.1 hn
      have hreceived := hold earlier (List.mem_of_getElem? hearlier)
      split
      · exact hreceived
      · exact hreceived
    refine ⟨h.started, h.calls, h.sequences, h.bounded, h.positive, h.tails, h.increasing, h.caused, h.durable,
      hkept _ h.heard, ?_⟩
    intro persist hpersist
    obtain ⟨earlier, hreserved, hpending, hdone⟩ := h.persisting persist hpersist
    refine ⟨earlier, hreserved, hpending, fun haccepted => ?_⟩
    obtain ⟨before, hdurable, hheard⟩ := hdone haccepted
    exact ⟨before, hdurable, hkept before hheard⟩
  | run eventId createdAt observedAt => exact h.run hs
  | accept => exact h.accept hs
  | settle answer => exact h.settle hs

/-- Where a run of the publisher ends the invariant holds. -/
theorem reserving_of_run {events : List PublisherEvent} {publisher : OperationEventPublisher}
    (h : Machine.runFrom step init events = some publisher) : Reserving publisher :=
  Machine.invariant_of_step (fun _ _ _ hreserving hs => hreserving.step hs) reserving_init h

/-- In every run of the publisher, in every state, the events are published in order. -/
theorem events_published_in_order (events : List PublisherEvent) :
    Machine.Throughout step Published init events :=
  (Machine.throughout_of_step (fun _ _ _ hreserving hs => hreserving.step hs) reserving_init events).mono
    fun _ => Reserving.published

/-! ### What an event carries -/

/-- What was asked to be published, in the order of the calls. -/
def requested (publisher : OperationEventPublisher) : List (PublishContext × GameOperationSubject × Fields JsValue) :=
  publisher.calls.map fun call => (call.context, call.subject, call.payload)

/-- The fields that the publisher sets itself. -/
def stampedKeys : List String := ["operation_id", "operation_sequence", "workspace_id", "observed_at"]

/-- An event carries the operation, the subject and the payload of a call, but for the fields that the publisher
sets. -/
def Carries (publisher : OperationEventPublisher) (event : GameOperationEvent) : Prop :=
  ∃ context payload, (context, event.subject, payload) ∈ publisher.requested ∧
    context.operationId = event.correlationId ∧ ∀ key ∉ stampedKeys, event.payload.get? key = payload.get? key

private theorem eventFor_carries {publisher : OperationEventPublisher} {call : PublishCall} (h : call ∈ publisher.calls)
    (eventId createdAt observedAt : String) :
    publisher.Carries (publisher.eventFor call eventId createdAt observedAt) := by
  refine ⟨call.context, call.payload, List.mem_map.2 ⟨call, h, rfl⟩, rfl, fun key hkey => ?_⟩
  simp only [stampedKeys, List.mem_cons, List.not_mem_nil, or_false, not_or] at hkey
  obtain ⟨hoperation, hsequence, hworkspace, hobserved⟩ := hkey
  unfold eventFor
  simp only [Fields.get?_assign, if_neg hoperation, if_neg hsequence, if_neg hworkspace, if_neg hobserved]

/-- Only a call of `publish` adds to what was asked. -/
theorem requested_step {publisher next : OperationEventPublisher} {event : PublisherEvent}
    (hs : publisher.step event = some next) :
    next.requested = publisher.requested ++
      match event with
      | .publish context subject payload => [(context, subject, payload)]
      | _ => [] := by
  have hresult : ∀ (p : OperationEventPublisher) (n : Nat) (result : Except String GameOperationEvent),
      (p.setResult n result).requested = p.requested := by
    intro p n result
    refine List.ext_getElem? fun m => ?_
    simp only [requested, setResult, List.getElem?_map, List.getElem?_modify]
    cases p.calls[m]? with
    | none => rfl
    | some call =>
      simp only [Option.map_some]
      split
      · rfl
      · rfl
  cases event with
  | publish context subject payload =>
    cases hs
    simp [requested]
  | subscribe =>
    cases hs
    exact (List.append_nil _).symm
  | unsubscribe listener =>
    cases hs
    exact (List.append_nil _).symm
  | run eventId createdAt observedAt =>
    simp only [step, run] at hs
    split at hs
    · cases hs
      exact (List.append_nil _).symm
    · cases hs
  | accept =>
    simp only [step, accept] at hs
    split at hs
    · split at hs
      · cases hs
      · cases hs
        exact (List.append_nil _).symm
    · cases hs
  | settle answer =>
    simp only [step, settle] at hs
    rw [List.append_nil]
    split at hs
    · cases hs
    · split at hs
      · cases hs
        exact hresult _ _ _
      · split at hs
        · cases hs
          exact hresult _ _ _
        · cases hs

/-- Only the turn of a call adds to the events that are built, and the new event carries what the call asked for. -/
private theorem reserved_step {publisher next : OperationEventPublisher} {event : PublisherEvent}
    (hs : publisher.step event = some next) :
    next.reserved = publisher.reserved ∨
      ∃ call ∈ publisher.calls, ∃ eventId createdAt observedAt,
        next.reserved = publisher.reserved ++ [publisher.eventFor call eventId createdAt observedAt] := by
  cases event with
  | run eventId createdAt observedAt =>
    simp only [step, run] at hs
    split at hs
    · rename_i call _ hcall
      cases hs
      exact Or.inr ⟨call, List.mem_of_getElem? hcall, eventId, createdAt, observedAt, rfl⟩
    · cases hs
  | publish context subject payload =>
    cases hs
    exact Or.inl rfl
  | subscribe =>
    cases hs
    exact Or.inl rfl
  | unsubscribe listener =>
    cases hs
    exact Or.inl rfl
  | accept =>
    simp only [step, accept] at hs
    split at hs
    · split at hs
      · cases hs
      · cases hs
        exact Or.inl rfl
    · cases hs
  | settle answer =>
    simp only [step, settle] at hs
    split at hs
    · cases hs
    · split at hs
      · cases hs
        exact Or.inl rfl
      · split at hs
        · cases hs
          exact Or.inl rfl
        · cases hs

/-- Every event that is built carries what a call asked for. -/
theorem carries_step {publisher next : OperationEventPublisher} {event : PublisherEvent}
    (h : ∀ e ∈ publisher.reserved, publisher.Carries e) (hs : publisher.step event = some next) :
    ∀ e ∈ next.reserved, next.Carries e := by
  have hkept : ∀ e, publisher.Carries e → next.Carries e := by
    rintro e ⟨context, payload, hrequest, hrest⟩
    refine ⟨context, payload, ?_, hrest⟩
    rw [requested_step hs]
    exact List.mem_append_left _ hrequest
  intro e he
  rcases reserved_step hs with hreserved | ⟨call, hcall, eventId, createdAt, observedAt, hreserved⟩
  · rw [hreserved] at he
    exact hkept e (h e he)
  · rw [hreserved] at he
    rcases List.mem_append.1 he with he | he
    · exact hkept e (h e he)
    · rw [List.mem_singleton.1 he]
      exact hkept _ (eventFor_carries hcall eventId createdAt observedAt)

end OperationEventPublisher

end Opsia
