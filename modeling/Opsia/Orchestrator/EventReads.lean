import Opsia.Orchestrator.Publisher
import Opsia.Paging

/-!
# Reading operation events

The event authority holds the log; a query selects the first `limit` events of an operation behind a cursor.  Two
endpoints serve the events of a room: they ask for a page of the operation, keep the events of the room, and return the
sequence number of the last one kept as the cursor of the next page.  A page without an event of the room returns its
own cursor, so a client that polls gets every event of the room just when fewer than `limit` other events of the
operation stand in a row in front of each of them (`polling_delivers_iff`).
-/

namespace Opsia

open Json Paging

/-- What the event authority holds: of each operation, which has a name, the sequence numbers increase strictly, from
one on and within the safe integers. -/
structure OperationEventLog where
  events : List GameOperationEvent
  increasing : ∀ operationId, (ofOperation operationId events).Pairwise fun first second =>
    first.sequence < second.sequence
  positive : ∀ event ∈ events, 1 ≤ event.sequence
  safe : ∀ event ∈ events, event.sequence ≤ 9007199254740991
  named : ∀ event ∈ events, event.correlationId ≠ ""

/-- What a publisher has persisted is such a log, if its calls name their operations and are not too many. -/
theorem OperationEventPublisher.durable_log {events : List PublisherEvent} {publisher : OperationEventPublisher}
    (h : Machine.runFrom OperationEventPublisher.step .init events = some publisher)
    (hnamed : ∀ call ∈ publisher.calls, call.context.operationId ≠ "")
    (hfew : publisher.calls.length ≤ 9007199254740991) :
    ∃ log : OperationEventLog, log.events = publisher.durable := by
  have hreserving := OperationEventPublisher.reserving_of_run h
  have hbuilt : ∀ event ∈ publisher.durable, event ∈ publisher.reserved :=
    fun event hin => hreserving.durable.subset hin
  have hcall : ∀ event ∈ publisher.durable, ∃ call ∈ publisher.calls,
      call.context.operationId = event.correlationId := by
    intro event hin
    obtain ⟨n, hn⟩ := List.mem_iff_getElem?.1 (hbuilt event hin)
    obtain ⟨call, hcall, hoperation, -⟩ := hreserving.calls n event hn
    exact ⟨call, List.mem_of_getElem? hcall, hoperation⟩
  have hstarted : publisher.started ≤ publisher.calls.length := by
    rw [← hreserving.started]
    by_contra hmore
    have hlast := List.getElem?_eq_getElem (show publisher.calls.length < publisher.reserved.length by omega)
    obtain ⟨call, hcall, -⟩ := hreserving.calls _ _ hlast
    rw [List.getElem?_eq_none (le_refl _)] at hcall
    cases hcall
  refine ⟨⟨publisher.durable, hreserving.published.increasing, fun event hin => hreserving.positive event (hbuilt event hin),
    fun event hin => ?_, fun event hin => ?_⟩, rfl⟩
  · have hle := hreserving.sequences event (hbuilt event hin)
    have hbound := hreserving.bounded event.correlationId
    omega
  · obtain ⟨call, hin, hoperation⟩ := hcall event hin
    rw [← hoperation]
    exact hnamed call hin

/-! ### Queries -/

structure OperationEventQuery where
  operationId : String := ""
  afterSequence : JsNumber := .ofNat 0
  limit : JsNumber := .ofNat 200

/-- `normalizeEventQuery`: the cursor and the limit of a query. -/
def normalizeEventQuery (query : OperationEventQuery) : Except String (Nat × Nat) :=
  match query.afterSequence.safeNat? with
  | none => .error "invalid_event_cursor"
  | some after =>
    match query.limit.safeNat? with
    | none => .error "invalid_event_limit"
    | some limit =>
      if limit.1 < 1 ∨ 500 < limit.1 then .error "invalid_event_limit" else .ok (after.1, limit.1)

def selectEvents (events : List GameOperationEvent) (query : OperationEventQuery) :
    Except String (List GameOperationEvent) :=
  match normalizeEventQuery query with
  | .error message => .error message
  | .ok (after, limit) =>
    .ok ((events.filter fun event =>
      (decide (query.operationId = "") || decide (event.correlationId = query.operationId)) &&
        decide (after < event.sequence)).take limit)

/-- `event.payload.room_id === roomId` -/
def isOfRoom (roomId : String) (event : GameOperationEvent) : Bool :=
  match event.payload.get? "room_id" with
  | some (.str room) => decide (room = roomId)
  | _ => false

/-- `latestPersistedHandoffForRoom`, and `latestPersistedCanaryOperation` for the canary's room. -/
def latestPersisted (events : List GameOperationEvent) (roomId : String) : Option String :=
  (events.filter (isOfRoom roomId)).getLast?.map GameOperationEvent.correlationId

/-! ### The endpoints -/

/-- The two endpoints, each with the operation that the process remembers. -/
inductive EventsEndpoint
  | handoff (roomId : String) (latestHandoff : Option String)
  | canary (activeCanaryOperation : Option String)

namespace EventsEndpoint

def room : EventsEndpoint → String
  | .handoff roomId _ => roomId
  | .canary _ => "canary-room"

def remembered : EventsEndpoint → Option String
  | .handoff _ latestHandoff => latestHandoff
  | .canary activeCanaryOperation => activeCanaryOperation

def notFound : EventsEndpoint → String
  | .handoff .. => "handoff_operation_not_found"
  | .canary _ => "canary_operation_not_found"

/-- The operation that a request is about. -/
def operation (endpoint : EventsEndpoint) (events : List GameOperationEvent) (requested : Option String) :
    Option String :=
  (requested.orElse fun _ => endpoint.remembered.orElse fun _ => latestPersisted events endpoint.room).filter
    fun operationId => decide (operationId ≠ "")

end EventsEndpoint

structure EventPage where
  operationId : String
  events : List GameOperationEvent
  nextCursor : JsNumber

/-- A request for a page of events. -/
def eventPage (endpoint : EventsEndpoint) (events : List GameOperationEvent) (requested : Option String)
    (afterSequence limit : JsNumber) : Except String EventPage :=
  match endpoint.operation events requested with
  | none => .error endpoint.notFound
  | some operationId =>
    match selectEvents events { operationId, afterSequence, limit } with
    | .error message => .error message
    | .ok selected =>
      let kept := selected.filter (isOfRoom endpoint.room)
      .ok {
        operationId
        events := kept
        nextCursor := (kept.getLast?.map fun event => JsNumber.ofNat event.sequence).getD afterSequence }

/-! ### A client that polls -/

structure EventReader where
  cursor : JsNumber := .ofNat 0
  received : List GameOperationEvent := []

/-- A poll; one that is refused changes nothing. -/
def EventReader.poll (endpoint : EventsEndpoint) (events : List GameOperationEvent) (requested : Option String)
    (limit : Nat) (reader : EventReader) : EventReader :=
  match eventPage endpoint events requested reader.cursor (.ofNat limit) with
  | .error _ => reader
  | .ok page => { cursor := page.nextCursor, received := reader.received ++ page.events }

def EventReader.after (endpoint : EventsEndpoint) (events : List GameOperationEvent) (requested : Option String)
    (limit : Nat) : Nat → EventReader
  | 0 => {}
  | n + 1 => (EventReader.after endpoint events requested limit n).poll endpoint events requested limit

/-- The events of the endpoint's operation that belong to its room. -/
def EventsEndpoint.roomEvents (endpoint : EventsEndpoint) (events : List GameOperationEvent)
    (requested : Option String) : List GameOperationEvent :=
  match endpoint.operation events requested with
  | none => []
  | some operationId => (ofOperation operationId events).filter (isOfRoom endpoint.room)

/-- The client receives the events of its room once and in order, and every poll brings new ones as long as there are
any. -/
def PollingDelivers (endpoint : EventsEndpoint) (events : List GameOperationEvent) (requested : Option String)
    (limit : Nat) : Prop :=
  ∀ n, (EventReader.after endpoint events requested limit n).received <+: endpoint.roomEvents events requested ∧
    ((EventReader.after endpoint events requested limit n).received.length <
        (endpoint.roomEvents events requested).length →
      (EventReader.after endpoint events requested limit n).received.length <
        (EventReader.after endpoint events requested limit (n + 1)).received.length)

/-- The limit is one that the authority takes, and fewer events than that stand in a row in front of each event of the
room that belong to the operation but not to the room. -/
def PagesReach (endpoint : EventsEndpoint) (events : List GameOperationEvent) (requested : Option String)
    (limit : Nat) : Prop :=
  endpoint.roomEvents events requested = [] ∨
    limit ≤ 500 ∧ ∀ operationId ∈ endpoint.operation events requested,
      GapsBelow (isOfRoom endpoint.room) limit 0 (ofOperation operationId events)

theorem selectEvents_ok (events : List GameOperationEvent) {operationId : String} (hnamed : operationId ≠ "")
    {after : Nat} (hafter : after ≤ 9007199254740991) {limit : Nat} (hpos : 1 ≤ limit) (hle : limit ≤ 500) :
    selectEvents events { operationId, afterSequence := .ofNat after, limit := .ofNat limit } =
      .ok (((ofOperation operationId events).filter fun event => decide (after < event.sequence)).take limit) := by
  unfold selectEvents normalizeEventQuery
  dsimp only
  rw [JsNumber.safeNat?_ofNat ⟨after, hafter⟩, JsNumber.safeNat?_ofNat ⟨limit, by omega⟩]
  dsimp only
  rw [if_neg (by omega)]
  unfold ofOperation
  rw [List.filter_filter]
  have hfilter : (fun event : GameOperationEvent =>
      (decide (operationId = "") || decide (event.correlationId = operationId)) && decide (after < event.sequence)) =
      fun event => decide (after < event.sequence) && decide (event.correlationId = operationId) := by
    funext event
    rw [decide_eq_false hnamed, Bool.false_or, Bool.and_comm]
  dsimp only
  rw [hfilter]

theorem selectEvents_refused (events : List GameOperationEvent) (operationId : String) (after : JsNumber) {limit : Nat}
    (hlimit : 500 < limit) :
    ∃ message, selectEvents events { operationId, afterSequence := after, limit := .ofNat limit } = .error message := by
  unfold selectEvents normalizeEventQuery
  dsimp only
  cases after.safeNat? with
  | none => exact ⟨_, rfl⟩
  | some after =>
    dsimp only
    cases hsafe : (JsNumber.ofNat limit).safeNat? with
    | none => exact ⟨_, rfl⟩
    | some limit' =>
      have heq := JsNumber.eq_of_safeNat?_ofNat hsafe
      dsimp only
      rw [if_pos (by omega)]
      exact ⟨_, rfl⟩

/-- A poll of a client that has come to some position of the operation: it reads the next page. -/
private theorem poll_eq {endpoint : EventsEndpoint} {log : OperationEventLog} {requested : Option String} {limit : Nat}
    {operationId : String} (hoperation : endpoint.operation log.events requested = some operationId) (hpos : 1 ≤ limit)
    (hle : limit ≤ 500) {reader : EventReader} {after : Nat} (hsafe : after ≤ 9007199254740991)
    (hcursor : reader.cursor = .ofNat after) {rest : List GameOperationEvent}
    (hrest : (ofOperation operationId log.events).filter (fun event => decide (after < event.sequence)) = rest) :
    let page := readPage (isOfRoom endpoint.room) limit rest
    (reader.poll endpoint log.events requested limit).received = reader.received ++ page.1 ∧
      ∃ next, next ≤ 9007199254740991 ∧ (reader.poll endpoint log.events requested limit).cursor = .ofNat next ∧
        (ofOperation operationId log.events).filter (fun event => decide (next < event.sequence)) = page.2 := by
  intro page
  have hnamed : operationId ≠ "" := by
    unfold EventsEndpoint.operation at hoperation
    exact of_decide_eq_true (Option.filter_eq_some_iff.1 hoperation).2
  have hpage : (rest.take limit).filter (isOfRoom endpoint.room) = page.1 := (readPage_take limit rest).symm
  unfold EventReader.poll eventPage
  rw [hoperation]
  dsimp only
  rw [hcursor, selectEvents_ok log.events hnamed hsafe hpos hle, hrest]
  dsimp only
  rw [hpage]
  refine ⟨rfl, ?_⟩
  cases hlast : page.1.getLast? with
  | none =>
    refine ⟨after, hsafe, rfl, ?_⟩
    rw [hrest]
    exact (readPage_stuck (List.getLast?_eq_none_iff.1 hlast)).symm
  | some last =>
    have hin : last ∈ rest := by
      have hkept := List.mem_of_getLast? hlast
      rw [← hpage] at hkept
      exact List.mem_of_mem_take (List.mem_of_mem_filter hkept)
    have hlater : after < last.sequence := by
      rw [← hrest] at hin
      exact of_decide_eq_true (List.mem_filter.1 hin).2
    have hlog : last ∈ log.events := by
      rw [← hrest] at hin
      exact List.mem_of_mem_filter (List.mem_of_mem_filter hin)
    refine ⟨last.sequence, log.safe last hlog, rfl, ?_⟩
    have hsorted : rest.Pairwise fun first second =>
        decide (first.sequence < second.sequence) = true ∧ decide (second.sequence < first.sequence) = false := by
      rw [← hrest]
      refine ((log.increasing operationId).filter _).imp fun hlt => ⟨decide_eq_true hlt, decide_eq_false ?_⟩
      omega
    rw [← readPage_after hsorted (fun event => decide_eq_false (lt_irrefl _)) hlast, ← hrest, List.filter_filter]
    refine List.filter_congr fun event _ => ?_
    by_cases hbehind : last.sequence < event.sequence
    · rw [decide_eq_true hbehind, decide_eq_true (show after < event.sequence by omega)]
      rfl
    · rw [decide_eq_false hbehind]
      rfl

/-- The client after a number of polls has received what stands in front of its position. -/
private theorem after_eq {endpoint : EventsEndpoint} {log : OperationEventLog} {requested : Option String} {limit : Nat}
    {operationId : String} (hoperation : endpoint.operation log.events requested = some operationId) (hpos : 1 ≤ limit)
    (hle : limit ≤ 500) (n : Nat) :
    let own := isOfRoom endpoint.room
    let left := remaining own limit (ofOperation operationId log.events) n
    (EventReader.after endpoint log.events requested limit n).received ++ left.filter own =
        (ofOperation operationId log.events).filter own ∧
      ∃ after, after ≤ 9007199254740991 ∧
        (EventReader.after endpoint log.events requested limit n).cursor = .ofNat after ∧
        (ofOperation operationId log.events).filter (fun event => decide (after < event.sequence)) = left := by
  induction n with
  | zero =>
    refine ⟨rfl, 0, by omega, rfl, ?_⟩
    rw [remaining, List.filter_eq_self]
    intro event hin
    exact decide_eq_true (log.positive event (List.mem_of_mem_filter hin))
  | succ n ih =>
    obtain ⟨hreceived, after, hsafe, hcursor, hrest⟩ := ih
    obtain ⟨hpage, hnext⟩ := poll_eq hoperation hpos hle hsafe hcursor hrest
    dsimp only
    rw [remaining_succ]
    refine ⟨?_, hnext⟩
    rw [← hreceived, EventReader.after, hpage, List.append_assoc, readPage_filter]

private theorem roomEvents_eq {endpoint : EventsEndpoint} {events : List GameOperationEvent} {requested : Option String}
    {operationId : String} (h : endpoint.operation events requested = some operationId) :
    endpoint.roomEvents events requested = (ofOperation operationId events).filter (isOfRoom endpoint.room) := by
  unfold EventsEndpoint.roomEvents
  rw [h]

/-- A client whose polls are all refused receives nothing. -/
private theorem received_of_refused {endpoint : EventsEndpoint} {events : List GameOperationEvent}
    {requested : Option String} {limit : Nat}
    (h : ∀ cursor, ∃ message, eventPage endpoint events requested cursor (.ofNat limit) = .error message) (n : Nat) :
    (EventReader.after endpoint events requested limit n).received = [] := by
  induction n with
  | zero => rfl
  | succ n ih =>
    rw [EventReader.after]
    unfold EventReader.poll
    obtain ⟨message, hmessage⟩ := h (EventReader.after endpoint events requested limit n).cursor
    rw [hmessage]
    exact ih

private theorem refused_delivers_iff {endpoint : EventsEndpoint} {events : List GameOperationEvent}
    {requested : Option String} {limit : Nat}
    (h : ∀ cursor, ∃ message, eventPage endpoint events requested cursor (.ofNat limit) = .error message) :
    PollingDelivers endpoint events requested limit ↔ endpoint.roomEvents events requested = [] := by
  constructor
  · intro hdelivers
    by_contra hne
    have hprogress := (hdelivers 0).2
    rw [received_of_refused h, received_of_refused h] at hprogress
    have := hprogress (List.length_pos_iff.2 hne)
    omega
  · intro hempty n
    rw [received_of_refused h, received_of_refused h, hempty]
    exact ⟨List.prefix_refl _, fun hlt => hlt⟩

/-- The client gets every event of its room once and in order, with progress on every poll, just when the limit is one
that is taken and fewer events than that stand in a row in front of each event of the room. -/
theorem polling_delivers_iff (endpoint : EventsEndpoint) (log : OperationEventLog) (requested : Option String)
    (limit : Nat) (hpos : 1 ≤ limit) :
    PollingDelivers endpoint log.events requested limit ↔ PagesReach endpoint log.events requested limit := by
  unfold PagesReach
  cases hoperation : endpoint.operation log.events requested with
  | none =>
    have hrefused : ∀ cursor, ∃ message,
        eventPage endpoint log.events requested cursor (.ofNat limit) = .error message := by
      intro cursor
      unfold eventPage
      rw [hoperation]
      exact ⟨_, rfl⟩
    have hempty : endpoint.roomEvents log.events requested = [] := by
      unfold EventsEndpoint.roomEvents
      rw [hoperation]
    rw [refused_delivers_iff hrefused]
    exact ⟨fun _ => Or.inl hempty, fun _ => hempty⟩
  | some operationId =>
    by_cases hle : limit ≤ 500
    · have hafter := after_eq hoperation hpos hle
      have hown := roomEvents_eq hoperation
      have hprogress : PollingDelivers endpoint log.events requested limit ↔
          GapsBelow (isOfRoom endpoint.room) limit 0 (ofOperation operationId log.events) := by
        rw [← progress_iff_gapsBelow]
        refine forall_congr' fun n => ?_
        obtain ⟨hreceived, -⟩ := hafter n
        obtain ⟨hnext, -⟩ := hafter (n + 1)
        rw [remaining_succ] at hnext
        generalize remaining (isOfRoom endpoint.room) limit (ofOperation operationId log.events) n = left at *
        have hpage : (readPage (isOfRoom endpoint.room) limit left).1 ++
            (readPage (isOfRoom endpoint.room) limit left).2.filter (isOfRoom endpoint.room) =
            left.filter (isOfRoom endpoint.room) := readPage_filter limit left
        have hlength := congrArg List.length hreceived
        have hlength' := congrArg List.length hnext
        have hlength'' := congrArg List.length hpage
        rw [List.length_append] at hlength hlength' hlength''
        rw [hown, ← List.length_pos_iff, ← List.length_pos_iff]
        constructor
        · intro hdelivers hleft
          have := hdelivers.2 (by omega)
          omega
        · intro hfinds
          refine ⟨⟨_, hreceived⟩, fun hlt => ?_⟩
          have := hfinds (by omega)
          omega
      rw [hprogress]
      constructor
      · intro hgaps
        refine Or.inr ⟨hle, fun other hother => ?_⟩
        cases hother
        exact hgaps
      · rintro (hempty | ⟨-, hgaps⟩)
        · rw [hown] at hempty
          exact gapsBelow_of_none hempty
        · exact hgaps operationId rfl
    · have hrefused : ∀ cursor, ∃ message,
          eventPage endpoint log.events requested cursor (.ofNat limit) = .error message := by
        intro cursor
        obtain ⟨message, hmessage⟩ := selectEvents_refused log.events operationId cursor (show 500 < limit by omega)
        unfold eventPage
        rw [hoperation]
        dsimp only
        rw [hmessage]
        exact ⟨_, rfl⟩
      rw [refused_delivers_iff hrefused]
      constructor
      · exact Or.inl
      · rintro (hempty | ⟨htaken, -⟩)
        · exact hempty
        · exact absurd htaken hle

/-! ### A rollout over two rooms -/

private def waveEvent (eventId roomId : String) (sequence : Nat) : GameOperationEvent where
  eventId := eventId
  subject := .rolloutWaveStarted
  source := "demo-game/room-orchestrator"
  workspaceId := "demo-game"
  correlationId := "op_1"
  causationId := none
  createdAt := "2026-01-01T00:00:00.000Z"
  sequence := sequence
  payload := [("room_id", .str roomId)]

/-- An event of each of two rooms in one operation. -/
private def twoRooms : OperationEventLog where
  events := [waveEvent "evt_1" "room-1" 1, waveEvent "evt_2" "room-2" 2]
  increasing operationId := by
    unfold ofOperation
    refine List.Pairwise.filter _ ?_
    simp [waveEvent]
  positive := by simp [waveEvent]
  safe := by simp [waveEvent]
  named := by simp [waveEvent]

theorem polling_delivers_pages_of_two : PollingDelivers (.handoff "room-2" none) twoRooms.events none 2 :=
  (polling_delivers_iff _ _ _ 2 (by decide)).2 (by
    unfold PagesReach
    decide +kernel)

/-- With pages of one event the client of the second room never gets past the event of the first. -/
theorem polling_stuck_on_other_room : ¬∀ (endpoint : EventsEndpoint) (log : OperationEventLog)
    (requested : Option String) (limit : Nat), 1 ≤ limit → PollingDelivers endpoint log.events requested limit := by
  intro h
  have hprogress := (h (.handoff "room-2" none) twoRooms none 1 (by decide) 0).2
  revert hprogress
  decide +kernel

end Opsia
