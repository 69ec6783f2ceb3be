import Opsia.Gateway.Buffer
import Opsia.Json.Compare

/-!
# What the buffer of inputs holds

`acknowledge` and `replayAfter` take any number: one that is not a safe integer acknowledges nothing, and one below or
beyond the numbers given out is tolerated.  An input is outstanding in the history of a buffer when it was pushed and no
later acknowledgement reaches its number; after any calls a buffer holds exactly the outstanding inputs, in the order
of the pushes (`buffer_holds_outstanding`).
-/

namespace Opsia

open Json

namespace BoundedGatewayInputBuffer

variable {limits : GatewayLimits}

/-- `acknowledge` with any number. -/
def acknowledgeNumber (buffer : BoundedGatewayInputBuffer limits) (sequence : JsNumber) :
    BoundedGatewayInputBuffer limits :=
  match sequence.safeInteger? with
  | some (.ofNat n) => buffer.acknowledge n
  -- a negative number is below every acknowledged one
  | some (.negSucc _) => buffer
  | none => buffer

/-- `replayAfter` with any number; its default is the acknowledged one. -/
def replayAfterNumber (buffer : BoundedGatewayInputBuffer limits) (sequence : Option JsNumber) :
    List BufferedGatewayInput :=
  let sequence := sequence.getD (.ofNat buffer.acknowledgedSequence)
  buffer.entries.filter fun entry => (JsNumber.ofNat entry.sequence).greater sequence

theorem replayAfterNumber_ofNat (buffer : BoundedGatewayInputBuffer limits) (n : Nat) :
    buffer.replayAfterNumber (some (.ofNat n)) = buffer.replayAfter n := by
  unfold replayAfterNumber replayAfter
  simp only [Option.getD_some, JsNumber.greater_ofNat]

theorem replayAfterNumber_none (buffer : BoundedGatewayInputBuffer limits) :
    buffer.replayAfterNumber none = buffer.entries :=
  (buffer.replayAfterNumber_ofNat buffer.acknowledgedSequence).trans buffer.replayAfter_acknowledged

/-! ### Calls and their history -/

inductive Call
  | push (payload : Payload)
  | acknowledge (sequence : JsNumber)

inductive Event
  | pushed (entry : BufferedGatewayInput)
  | refused (message : String)
  | acknowledged (sequence : JsNumber)

/-- One call: what it did, and the buffer after it. -/
def call (buffer : BoundedGatewayInputBuffer limits) : Call → Event × BoundedGatewayInputBuffer limits
  | .push payload =>
    match buffer.push payload with
    | .ok (entry, buffer) => (.pushed entry, buffer)
    | .error message => (.refused message, buffer)
  | .acknowledge sequence => (.acknowledged sequence, buffer.acknowledgeNumber sequence)

def runCalls (buffer : BoundedGatewayInputBuffer limits) : List Call → List Event × BoundedGatewayInputBuffer limits
  | [] => ([], buffer)
  | c :: cs =>
    let (event, buffer) := buffer.call c
    let (events, buffer) := buffer.runCalls cs
    (event :: events, buffer)

/-- The event is what may come of the call: an accepted push keeps the payload. -/
def Answers : Call → Event → Prop
  | .push payload, .pushed entry => entry.payload = payload
  | .push _, .refused _ => True
  | .acknowledge sequence, .acknowledged sequence' => sequence = sequence'
  | _, _ => False

/-- An acknowledgement that reaches the number of the entry. -/
def Event.acknowledges (entry : BufferedGatewayInput) : Event → Bool
  | .acknowledged sequence =>
    match sequence.safeInteger? with
    | some n => decide ((entry.sequence : Int) ≤ n)
    | none => false
  | _ => false

/-- The inputs that were pushed, in order. -/
def pushedInputs (events : List Event) : List BufferedGatewayInput :=
  events.filterMap fun
    | .pushed entry => some entry
    | _ => none

/-- The inputs that were pushed and that no later acknowledgement reaches, in order. -/
def outstanding : List Event → List BufferedGatewayInput
  | [] => []
  | .pushed entry :: later =>
    if later.any (Event.acknowledges entry) then outstanding later else entry :: outstanding later
  | _ :: later => outstanding later

private theorem outstanding_snoc (events : List Event) (event : Event) :
    outstanding (events ++ [event]) =
      (outstanding events).filter (fun entry => !event.acknowledges entry) ++ outstanding [event] := by
  induction events with
  | nil => rfl
  | cons first events ih =>
    cases first with
    | pushed entry =>
      have hany : (events ++ [event]).any (Event.acknowledges entry) =
          (events.any (Event.acknowledges entry) || event.acknowledges entry) := by
        rw [List.any_append]
        exact congrArg _ (Bool.or_false _)
      rw [List.cons_append, outstanding, outstanding, hany, ih]
      cases hgone : events.any (Event.acknowledges entry) with
      | true => rfl
      | false =>
        cases hnow : event.acknowledges entry with
        | true => simp [hnow]
        | false => simp [hnow]
    | refused message => exact ih
    | acknowledged number => exact ih

private theorem outstanding_snoc_quiet (events : List Event) {event : Event}
    (hquiet : ∀ entry, event.acknowledges entry = false) :
    outstanding (events ++ [event]) = outstanding events ++ outstanding [event] := by
  have hall : (outstanding events).filter (fun entry => !event.acknowledges entry) = outstanding events := by
    rw [List.filter_eq_self]
    intro entry _
    rw [hquiet entry]
    rfl
  rw [outstanding_snoc, hall]

/-! ### What an acknowledgement takes away -/

private theorem acknowledge_entries (buffer : BoundedGatewayInputBuffer limits) {n : Nat} (hn : n ≤ maxSafeInteger) :
    (buffer.acknowledge n).entries = buffer.entries.filter fun entry => !decide (entry.sequence ≤ n) := by
  by_cases hle : n ≤ buffer.acknowledgedSequence
  · have hsame : buffer.acknowledge n = buffer := by
      unfold acknowledge
      rw [dif_pos (Or.inr hle)]
    rw [hsame, eq_comm, List.filter_eq_self]
    intro entry he
    have hmem := mem_entries he
    simp only [Bool.not_eq_true', decide_eq_false_iff_not]
    omega
  · have hskip : ¬(maxSafeInteger < n ∨ n ≤ buffer.acknowledgedSequence) := by omega
    have hnext := buffer.next_eq
    obtain ⟨gone, left, hsplit, hgone, hleft, hlen, heq⟩ :=
      buffer.shifted (show _ ≤ min n (buffer.nextSequence - 1) by omega) (by omega)
    have hentries : (buffer.acknowledge n).entries = left := by
      unfold acknowledge
      rw [dif_neg hskip]
      exact congrArg Prod.fst heq
    have hout : gone.filter (fun entry => !decide (entry.sequence ≤ n)) = [] := by
      rw [List.filter_eq_nil_iff]
      intro entry he
      have hle := hgone entry he
      simp only [Bool.not_eq_true', decide_eq_false_iff_not]
      omega
    have hin : left.filter (fun entry => !decide (entry.sequence ≤ n)) = left := by
      rw [List.filter_eq_self]
      intro entry he
      have hmem := hleft.mem he
      simp only [Bool.not_eq_true', decide_eq_false_iff_not]
      omega
    rw [hentries, hsplit, List.filter_append, hout, hin, List.nil_append]

private theorem safeInteger_bound {sequence : JsNumber} {n : Nat} (h : sequence.safeInteger? = some (.ofNat n)) :
    n ≤ maxSafeInteger := by
  unfold JsNumber.safeInteger? at h
  cases sequence with
  | finite d =>
    dsimp only at h
    split at h
    · split at h
      · rename_i hle
        rw [Option.some.injEq] at h
        rw [h] at hle
        exact hle
      · cases h
    · cases h
  | negZero =>
    have h0 : n = 0 := by simpa [eq_comm] using h
    rw [h0]
    exact Nat.zero_le _
  | infinity neg => cases h
  | nan => cases h

private theorem acknowledges_safe {sequence : JsNumber} {n : Int} (hn : sequence.safeInteger? = some n)
    (entry : BufferedGatewayInput) :
    (Event.acknowledged sequence).acknowledges entry = decide ((entry.sequence : Int) ≤ n) := by
  simp only [Event.acknowledges, hn]

private theorem acknowledges_foreign {sequence : JsNumber} (hn : sequence.safeInteger? = none)
    (entry : BufferedGatewayInput) : (Event.acknowledged sequence).acknowledges entry = false := by
  simp only [Event.acknowledges, hn]

/-- An acknowledgement takes away the entries that it reaches, and no others. -/
theorem acknowledgeNumber_entries (buffer : BoundedGatewayInputBuffer limits) (sequence : JsNumber) :
    (buffer.acknowledgeNumber sequence).entries =
      buffer.entries.filter fun entry => !(Event.acknowledged sequence).acknowledges entry := by
  cases hn : sequence.safeInteger? with
  | none =>
    have hsame : buffer.acknowledgeNumber sequence = buffer := by
      unfold acknowledgeNumber
      rw [hn]
    rw [hsame, eq_comm, List.filter_eq_self]
    intro entry _
    rw [acknowledges_foreign hn]
    rfl
  | some n =>
    simp only [acknowledges_safe hn]
    unfold acknowledgeNumber
    rw [hn]
    cases n with
    | ofNat n =>
      have hcast : ∀ entry : BufferedGatewayInput, ((entry.sequence : Int) ≤ Int.ofNat n) = (entry.sequence ≤ n) :=
        fun entry => propext Int.ofNat_le
      simp only [hcast]
      exact acknowledge_entries buffer (safeInteger_bound hn)
    | negSucc n =>
      dsimp only
      rw [eq_comm, List.filter_eq_self]
      intro entry _
      rw [Bool.not_eq_true', decide_eq_false_iff_not]
      omega

theorem acknowledgeNumber_latest (buffer : BoundedGatewayInputBuffer limits) (sequence : JsNumber) :
    (buffer.acknowledgeNumber sequence).latestSequence = buffer.latestSequence := by
  unfold acknowledgeNumber
  split
  · rename_i n _
    exact congrArg (· - 1) (buffer.acknowledge_spec n).1
  · rfl
  · rfl

/-- An acknowledgement at or below the acknowledged number changes nothing. -/
theorem acknowledgeNumber_below (buffer : BoundedGatewayInputBuffer limits) {sequence : JsNumber} {n : Int}
    (hn : sequence.safeInteger? = some n) (hle : n ≤ buffer.acknowledgedSequence) :
    buffer.acknowledgeNumber sequence = buffer := by
  unfold acknowledgeNumber
  rw [hn]
  cases n with
  | ofNat n =>
    dsimp only
    unfold acknowledge
    rw [dif_pos (Or.inr (Int.ofNat_le.1 hle))]
  | negSucc n => rfl

/-! ### Every history -/

/-- What a buffer holds after the events. -/
structure Holds (events : List Event) (buffer : BoundedGatewayInputBuffer limits) : Prop where
  numbers : (pushedInputs events).map BufferedGatewayInput.sequence = List.range' 1 buffer.latestSequence
  entries : buffer.entries = outstanding events

private theorem Holds.call {events : List Event} {buffer : BoundedGatewayInputBuffer limits} (h : Holds events buffer)
    (c : Call) : Answers c (buffer.call c).1 ∧ Holds (events ++ [(buffer.call c).1]) (buffer.call c).2 := by
  cases c with
  | push payload =>
    cases hpush : buffer.push payload with
    | ok result =>
      obtain ⟨entry, buffer'⟩ := result
      have hcall : buffer.call (.push payload) = (.pushed entry, buffer') := by
        simp only [BoundedGatewayInputBuffer.call, hpush]
      rw [hcall]
      obtain ⟨rfl, hentries, -, hnext⟩ := push_ok hpush
      have hpos : 1 ≤ buffer.nextSequence := by
        have := buffer.next_eq
        omega
      have hlatest : buffer'.latestSequence = buffer.latestSequence + 1 := by
        unfold latestSequence
        omega
      refine ⟨rfl, ?_, ?_⟩
      · unfold pushedInputs
        dsimp only
        rw [List.filterMap_append, List.map_append, hlatest, List.range'_concat]
        refine congrArg₂ _ h.numbers ?_
        show [buffer.nextSequence] = [1 + 1 * (buffer.nextSequence - 1)]
        congr 1
        omega
      · rw [outstanding_snoc_quiet events fun _ => rfl, ← h.entries]
        exact hentries
    | error message =>
      have hcall : buffer.call (.push payload) = (.refused message, buffer) := by
        simp only [BoundedGatewayInputBuffer.call, hpush]
      rw [hcall]
      refine ⟨trivial, ?_, ?_⟩
      · unfold pushedInputs
        rw [List.filterMap_append]
        exact (congrArg _ (List.append_nil _)).trans h.numbers
      · rw [outstanding_snoc_quiet events fun _ => rfl, ← h.entries]
        exact (List.append_nil _).symm
  | acknowledge sequence =>
    refine ⟨rfl, ?_, ?_⟩
    · show (pushedInputs (events ++ [.acknowledged sequence])).map _ =
        List.range' 1 (buffer.acknowledgeNumber sequence).latestSequence
      unfold pushedInputs
      rw [List.filterMap_append, acknowledgeNumber_latest]
      exact (congrArg _ (List.append_nil _)).trans h.numbers
    · show (buffer.acknowledgeNumber sequence).entries = outstanding (events ++ [.acknowledged sequence])
      rw [acknowledgeNumber_entries, outstanding_snoc, ← h.entries]
      exact (List.append_nil _).symm

private theorem Holds.runCalls {events : List Event} {buffer : BoundedGatewayInputBuffer limits}
    (h : Holds events buffer) (cs : List Call) :
    List.Forall₂ Answers cs (buffer.runCalls cs).1 ∧ Holds (events ++ (buffer.runCalls cs).1) (buffer.runCalls cs).2 := by
  induction cs generalizing events buffer with
  | nil =>
    refine ⟨.nil, ?_⟩
    rw [show events ++ (buffer.runCalls []).1 = events from List.append_nil _]
    exact h
  | cons c cs ih =>
    obtain ⟨hanswer, hholds⟩ := h.call c
    obtain ⟨hanswers, hend⟩ := ih hholds
    rw [List.append_assoc] at hend
    exact ⟨.cons hanswer hanswers, hend⟩

/-- After any calls a buffer holds the inputs that were pushed and that no later acknowledgement reaches: it replays
those above any number in the order of the pushes, keeps their numbers without a gap up to the latest, and counts their
bytes within its bounds.  A refused push changes nothing; an acknowledgement takes away just what it reaches, and nothing
at or below the acknowledged number. -/
theorem buffer_holds_outstanding (limits : GatewayLimits) (cs : List Call) :
    let (events, buffer) := (empty : BoundedGatewayInputBuffer limits).runCalls cs
    List.Forall₂ Answers cs events ∧
      (pushedInputs events).map BufferedGatewayInput.sequence = List.range' 1 buffer.latestSequence ∧
      buffer.replayAfterNumber none = outstanding events ∧
      (∀ sequence, buffer.replayAfterNumber (some sequence) =
        (outstanding events).filter fun entry => (JsNumber.ofNat entry.sequence).greater sequence) ∧
      buffer.entries.map BufferedGatewayInput.sequence =
        List.range' (buffer.lastAcknowledgedSequence + 1) buffer.size ∧
      buffer.lastAcknowledgedSequence + buffer.size = buffer.latestSequence ∧
      buffer.bufferedBytes = BufferedGatewayInput.totalBytes buffer.entries ∧
      buffer.bufferedBytes ≤ limits.maxBytes ∧ buffer.size ≤ limits.maxMessages ∧
      (∀ payload message, (buffer.call (.push payload)).1 = .refused message →
        (buffer.call (.push payload)).2 = buffer) ∧
      ∀ sequence, (buffer.acknowledgeNumber sequence).entries =
          (buffer.entries.filter fun entry => !(Event.acknowledged sequence).acknowledges entry) ∧
        (buffer.acknowledgeNumber sequence).latestSequence = buffer.latestSequence ∧
        ∀ n, sequence.safeInteger? = some n → n ≤ buffer.lastAcknowledgedSequence →
          buffer.acknowledgeNumber sequence = buffer := by
  have hstart : Holds [] (empty : BoundedGatewayInputBuffer limits) := ⟨rfl, rfl⟩
  have hend := hstart.runCalls cs
  rw [List.nil_append] at hend
  revert hend
  rcases (empty : BoundedGatewayInputBuffer limits).runCalls cs with ⟨events, buffer⟩
  rintro ⟨hanswers, hholds⟩
  have hnext := buffer.next_eq
  refine ⟨hanswers, hholds.numbers, ?_, ?_, buffer.numbered, ?_, buffer.bytes_eq, buffer.bytes_le, buffer.length_le,
    ?_, ?_⟩
  · rw [replayAfterNumber_none]
    exact hholds.entries
  · intro sequence
    rw [← show buffer.entries = outstanding events from hholds.entries]
    rfl
  · unfold lastAcknowledgedSequence size latestSequence
    omega
  · intro payload message hrefused
    cases hpush : buffer.push payload with
    | ok result =>
      simp only [BoundedGatewayInputBuffer.call, hpush] at hrefused
      cases hrefused
    | error message => simp only [BoundedGatewayInputBuffer.call, hpush]
  · intro sequence
    exact ⟨acknowledgeNumber_entries buffer sequence, acknowledgeNumber_latest buffer sequence,
      fun n hn hle => acknowledgeNumber_below buffer hn hle⟩

end BoundedGatewayInputBuffer

end Opsia
