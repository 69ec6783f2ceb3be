import Opsia.Machine

/-!
# The release gate

`ReleaseOperationGate` lets one canary or handoff operation through at a time.  `reserve` waits for the calls before it,
checks the gate, and then waits for the durable check of its operation id; a reservation is given back by `release`,
which keeps the id reserved, or by `abort`, which frees it.  The two may come at any time, also while another call
waits.  A token is the position of its reservation.
-/

namespace Opsia

inductive ReleaseOperationKind
  | canary
  | handoff
deriving DecidableEq

/-- How a reservation was given back. -/
inductive ReservationEnd
  | released
  | aborted
deriving DecidableEq

structure ReleaseOperationReservation where
  kind : ReleaseOperationKind
  operationId : String
  settled : Option ReservationEnd := none
deriving DecidableEq

structure ActiveReservation where
  kind : ReleaseOperationKind
  operationId : String
  token : Nat
deriving DecidableEq

/-- A call of `reserve`, and what it returned. -/
structure ReserveCall where
  kind : ReleaseOperationKind
  operationId : String
  result : Option (Except String Nat) := none

/-- The gate, the calls of `reserve` in their order and the reservations.  `started` calls have begun; `running` is the
one whose durable check is under way. -/
structure ReleaseOperationGate where
  active : Option ActiveReservation := none
  knownOperationIds : List String := []
  calls : List ReserveCall := []
  started : Nat := 0
  running : Option Nat := none
  reservations : List ReleaseOperationReservation := []

inductive ReleaseGateEvent
  | reserve (kind : ReleaseOperationKind) (operationId : String)
  | run
  | persistedOperationExists (answer : Except String Bool)
  | finish (token : Nat) (ending : ReservationEnd)

namespace ReleaseOperationGate

def init : ReleaseOperationGate := {}

/-- The error of a call that finds a reservation. -/
def activeError (active : ActiveReservation) : String :=
  (match active.kind with
    | .canary => "canary_validation_already_running"
    | .handoff => "handoff_wave_already_running") ++ ":" ++ active.operationId

def setResult (gate : ReleaseOperationGate) (call : Nat) (result : Except String Nat) : ReleaseOperationGate :=
  { gate with calls := gate.calls.modify call fun c => { c with result := some result } }

/-- The next call begins when the one before it is settled; it ends here or waits for the durable check. -/
def run (gate : ReleaseOperationGate) : Option ReleaseOperationGate :=
  match gate.running, gate.calls[gate.started]? with
  | none, some call =>
    let begun := { gate with started := gate.started + 1 }
    match gate.active with
    | some active => some (begun.setResult gate.started (.error (activeError active)))
    | none =>
      if call.operationId ∈ gate.knownOperationIds then
        some (begun.setResult gate.started (.error "operation_id_already_exists"))
      else some { begun with running := some gate.started }
  | _, _ => none

/-- The call behind its durable check: a new reservation, unless the operation exists or the check failed. -/
def checked (gate : ReleaseOperationGate) (answer : Except String Bool) : Option ReleaseOperationGate :=
  match gate.running with
  | none => none
  | some n =>
    gate.calls[n]?.map fun call =>
      let idle := { gate with running := none }
      match answer with
      | .error message => idle.setResult n (.error message)
      | .ok true => idle.setResult n (.error "operation_id_already_exists")
      | .ok false =>
        { idle.setResult n (.ok gate.reservations.length) with
          active := some { kind := call.kind, operationId := call.operationId, token := gate.reservations.length }
          knownOperationIds := call.operationId :: gate.knownOperationIds
          reservations := gate.reservations ++ [{ kind := call.kind, operationId := call.operationId }] }

/-- `release` and `abort` of the reservation with this token. -/
def finish (gate : ReleaseOperationGate) (token : Nat) (ending : ReservationEnd) : ReleaseOperationGate :=
  match gate.reservations[token]? with
  | none => gate
  | some reservation =>
    if reservation.settled.isSome then gate
    else
      { gate with
        reservations := gate.reservations.set token { reservation with settled := some ending }
        active := if gate.active.any fun active => active.token = token then none else gate.active
        knownOperationIds :=
          match ending with
          | .released => gate.knownOperationIds
          | .aborted => gate.knownOperationIds.filter fun known => decide (known ≠ reservation.operationId) }

def step (gate : ReleaseOperationGate) : ReleaseGateEvent → Option ReleaseOperationGate
  | .reserve kind operationId => some { gate with calls := gate.calls ++ [{ kind, operationId }] }
  | .run => gate.run
  | .persistedOperationExists answer => gate.checked answer
  | .finish token ending => some (gate.finish token ending)

/-! ### What holds of the gate -/

/-- At most one reservation has not been given back; an operation id is granted again only after an abort; and giving
back a reservation that is not the current one changes nothing. -/
structure Exclusive (gate : ReleaseOperationGate) : Prop where
  one : ∀ (i j : Nat) (first second : ReleaseOperationReservation), gate.reservations[i]? = some first →
    gate.reservations[j]? = some second → first.settled = none → second.settled = none → i = j
  fresh : ∀ (i j : Nat) (first second : ReleaseOperationReservation), i < j → gate.reservations[i]? = some first →
    gate.reservations[j]? = some second → first.operationId = second.operationId → first.settled = some .aborted
  stale : ∀ (token : Nat) (ending : ReservationEnd),
    (∀ active, gate.active = some active → active.token ≠ token) → gate.finish token ending = gate

/-- The invariant: a reservation that has not been given back is the active one, the id of one that was not aborted is
known, and a call that waits has found the gate free and its id unknown. -/
structure Owned (gate : ReleaseOperationGate) : Prop where
  active : ∀ (token : Nat) (reservation : ReleaseOperationReservation), gate.reservations[token]? = some reservation →
    reservation.settled = none → ∃ active, gate.active = some active ∧ active.token = token
  known : ∀ reservation ∈ gate.reservations, reservation.settled ≠ some .aborted →
    reservation.operationId ∈ gate.knownOperationIds
  fresh : ∀ (i j : Nat) (first second : ReleaseOperationReservation), i < j → gate.reservations[i]? = some first →
    gate.reservations[j]? = some second → first.operationId = second.operationId → first.settled = some .aborted
  waiting : ∀ n, gate.running = some n → gate.active = none ∧
    ∃ call, gate.calls[n]? = some call ∧ call.operationId ∉ gate.knownOperationIds

theorem Owned.stale {gate : ReleaseOperationGate} (h : Owned gate) {token : Nat} (ending : ReservationEnd)
    (hstale : ∀ active, gate.active = some active → active.token ≠ token) : gate.finish token ending = gate := by
  unfold finish
  split
  · rfl
  · rename_i reservation hreservation
    by_cases hsettled : reservation.settled.isSome = true
    · rw [if_pos hsettled]
    · have hopen : reservation.settled = none := by simpa using hsettled
      obtain ⟨active, hactive, htoken⟩ := h.active token reservation hreservation hopen
      exact absurd htoken (hstale active hactive)

theorem Owned.exclusive {gate : ReleaseOperationGate} (h : Owned gate) : Exclusive gate where
  one i j first second hi hj hfirst hsecond := by
    obtain ⟨active, hactive, rfl⟩ := h.active i first hi hfirst
    obtain ⟨other, hother, rfl⟩ := h.active j second hj hsecond
    rw [hactive] at hother
    cases hother
    rfl
  fresh := h.fresh
  stale _ ending := h.stale ending

private theorem owned_init : Owned init := by
  refine ⟨?_, ?_, ?_, ?_⟩
  · intro token reservation h
    cases h
  · intro reservation h
    cases h
  · intro i j first second _ h
    cases h
  · intro n h
    cases h

/-- Only the calls differ, and no call that waits turns into another one. -/
private theorem Owned.of_calls {gate next : ReleaseOperationGate} (h : Owned gate) (hactive : next.active = gate.active)
    (hknown : next.knownOperationIds = gate.knownOperationIds) (hreservations : next.reservations = gate.reservations)
    (hwaiting : ∀ n, next.running = some n → gate.active = none ∧
      ∃ call, next.calls[n]? = some call ∧ call.operationId ∉ gate.knownOperationIds) : Owned next := by
  refine ⟨?_, ?_, ?_, ?_⟩
  · rw [hactive, hreservations]
    exact h.active
  · rw [hknown, hreservations]
    exact h.known
  · rw [hreservations]
    exact h.fresh
  · rw [hactive, hknown]
    exact hwaiting

private theorem Owned.run {gate next : ReleaseOperationGate} (h : Owned gate) (hs : gate.run = some next) :
    Owned next := by
  unfold ReleaseOperationGate.run at hs
  split at hs
  · rename_i call hidle hcall
    dsimp only at hs
    split at hs
    · cases hs
      refine h.of_calls rfl rfl rfl fun n hrunning => ?_
      have hnone : gate.running = some n := hrunning
      rw [hidle] at hnone
      cases hnone
    · rename_i hfree
      by_cases hknown : call.operationId ∈ gate.knownOperationIds
      · rw [if_pos hknown] at hs
        cases hs
        refine h.of_calls rfl rfl rfl fun n hrunning => ?_
        have hnone : gate.running = some n := hrunning
        rw [hidle] at hnone
        cases hnone
      · rw [if_neg hknown] at hs
        cases hs
        refine h.of_calls rfl rfl rfl fun n hrunning => ?_
        cases hrunning
        exact ⟨hfree, call, hcall, hknown⟩
  · cases hs

/-- A reservation is added for an id that is not known, while none is active. -/
private theorem Owned.grant {gate next : ReleaseOperationGate} (h : Owned gate) {kind : ReleaseOperationKind}
    {operationId : String} (hfree : gate.active = none) (hunknown : operationId ∉ gate.knownOperationIds)
    (hactive : next.active = some { kind, operationId, token := gate.reservations.length })
    (hknown : next.knownOperationIds = operationId :: gate.knownOperationIds)
    (hreservations : next.reservations = gate.reservations ++ [⟨kind, operationId, none⟩])
    (hrunning : next.running = none) : Owned next := by
  -- the reservations that were there are all given back, and those with this id were aborted
  have hold : ∀ (i : Nat) (reservation : ReleaseOperationReservation), gate.reservations[i]? = some reservation →
      reservation.settled ≠ none := by
    intro i reservation hi hopen
    obtain ⟨active, hsome, -⟩ := h.active i reservation hi hopen
    rw [hfree] at hsome
    cases hsome
  have haborted : ∀ reservation ∈ gate.reservations, reservation.operationId = operationId →
      reservation.settled = some .aborted := by
    intro reservation hin heq
    by_contra hne
    have hmem := h.known reservation hin hne
    rw [heq] at hmem
    exact hunknown hmem
  have hlookup : ∀ (i : Nat) (reservation : ReleaseOperationReservation), next.reservations[i]? = some reservation →
      gate.reservations[i]? = some reservation ∨
        (i = gate.reservations.length ∧ reservation = ⟨kind, operationId, none⟩) := by
    intro i reservation hi
    rw [hreservations] at hi
    by_cases hlt : i < gate.reservations.length
    · rw [List.getElem?_append_left hlt] at hi
      exact Or.inl hi
    · rw [List.getElem?_append_right (by omega)] at hi
      have hzero : i - gate.reservations.length = 0 := by
        by_contra hne
        rw [List.getElem?_eq_none (by simp only [List.length_singleton]; omega)] at hi
        cases hi
      rw [hzero] at hi
      cases hi
      exact Or.inr ⟨by omega, rfl⟩
  refine ⟨?_, ?_, ?_, ?_⟩
  · intro token reservation htoken hopen
    rcases hlookup token reservation htoken with hthere | ⟨hlast, -⟩
    · exact absurd hopen (hold token reservation hthere)
    · exact ⟨_, hactive, hlast.symm⟩
  · intro reservation hin hne
    rw [hreservations, List.mem_append, List.mem_singleton] at hin
    rw [hknown, List.mem_cons]
    rcases hin with hthere | rfl
    · exact Or.inr (h.known reservation hthere hne)
    · exact Or.inl rfl
  · intro i j first second hlt hi hj heq
    rcases hlookup j second hj with hsecond | ⟨hlast, rfl⟩
    · rcases hlookup i first hi with hfirst | ⟨hlast, -⟩
      · exact h.fresh i j first second hlt hfirst hsecond heq
      · have hlength := (List.getElem?_eq_some_iff.1 hsecond).1
        omega
    · rcases hlookup i first hi with hfirst | ⟨hlast', -⟩
      · exact haborted first (List.mem_of_getElem? hfirst) heq
      · omega
  · intro n hsome
    rw [hrunning] at hsome
    cases hsome

private theorem Owned.checked {gate next : ReleaseOperationGate} (h : Owned gate) {answer : Except String Bool}
    (hs : gate.checked answer = some next) : Owned next := by
  unfold ReleaseOperationGate.checked at hs
  split at hs
  · cases hs
  · rename_i n hrunning
    obtain ⟨call, hcall, hnext⟩ := Option.map_eq_some_iff.1 hs
    obtain ⟨hfree, other, hother, hunknown⟩ := h.waiting n hrunning
    have hsame : some call = some other := hcall.symm.trans hother
    cases hsame
    have hidle : ∀ result : Except String Nat, Owned ({ gate with running := none }.setResult n result) := by
      intro result
      refine h.of_calls rfl rfl rfl fun m hsome => ?_
      cases hsome
    cases answer with
    | error message =>
      cases hnext
      exact hidle _
    | ok found =>
      cases found with
      | true =>
        cases hnext
        exact hidle _
      | false =>
        cases hnext
        exact h.grant hfree hunknown rfl rfl rfl rfl

private theorem Owned.finish {gate : ReleaseOperationGate} (h : Owned gate) (token : Nat) (ending : ReservationEnd) :
    Owned (gate.finish token ending) := by
  unfold ReleaseOperationGate.finish
  split
  · exact h
  · rename_i reservation hreservation
    by_cases hsettled : reservation.settled.isSome = true
    · rw [if_pos hsettled]
      exact h
    · rw [if_neg hsettled]
      have hopen : reservation.settled = none := by simpa using hsettled
      obtain ⟨active, hactive, htoken⟩ := h.active token reservation hreservation hopen
      have hlength := (List.getElem?_eq_some_iff.1 hreservation).1
      have hlookup : ∀ i, (gate.reservations.set token { reservation with settled := some ending })[i]? =
          if i = token then some { reservation with settled := some ending } else gate.reservations[i]? := by
        intro i
        rw [List.getElem?_set]
        by_cases hi : token = i
        · rw [if_pos hi, if_pos hlength, if_pos hi.symm]
        · rw [if_neg hi, if_neg fun heq => hi heq.symm]
      -- an unsettled reservation is the active one, so the others are settled
      have hothers : ∀ (i : Nat) (other : ReleaseOperationReservation), i ≠ token →
          gate.reservations[i]? = some other → other.settled ≠ none := by
        intro i other hne hi hnone
        obtain ⟨active', hactive', htoken'⟩ := h.active i other hi hnone
        rw [hactive] at hactive'
        cases hactive'
        exact hne (htoken'.symm.trans htoken)
      refine ⟨?_, ?_, ?_, ?_⟩
      · intro i other hi hnone
        dsimp only at hi
        rw [hlookup] at hi
        by_cases heq : i = token
        · rw [if_pos heq] at hi
          cases hi
          cases hnone
        · rw [if_neg heq] at hi
          exact absurd hnone (hothers i other heq hi)
      · intro other hin hne
        obtain ⟨i, hi⟩ := List.mem_iff_getElem?.1 hin
        dsimp only at hi
        rw [hlookup] at hi
        by_cases heq : i = token
        · rw [if_pos heq] at hi
          cases hi
          cases ending with
          | released => exact h.known reservation (List.mem_of_getElem? hreservation) (by rw [hopen]; simp)
          | aborted => exact absurd rfl hne
        · rw [if_neg heq] at hi
          have hmem := h.known other (List.mem_of_getElem? hi) hne
          cases ending with
          | released => exact hmem
          | aborted =>
            rw [List.mem_filter]
            refine ⟨hmem, decide_eq_true fun hsame => ?_⟩
            -- two reservations of one id, neither of them aborted
            rcases Nat.lt_or_gt_of_ne heq with hlt | hlt
            · exact hne (h.fresh i token other reservation hlt hi hreservation hsame)
            · have haborted := h.fresh token i reservation other hlt hreservation hi hsame.symm
              rw [hopen] at haborted
              cases haborted
      · intro i j first second hlt hi hj hsame
        dsimp only at hi hj
        rw [hlookup] at hi hj
        have hsecond : ∃ other, gate.reservations[j]? = some other ∧ other.operationId = second.operationId := by
          by_cases heq : j = token
          · rw [if_pos heq] at hj
            cases hj
            exact ⟨reservation, by rw [heq]; exact hreservation, rfl⟩
          · rw [if_neg heq] at hj
            exact ⟨second, hj, rfl⟩
        obtain ⟨other, hother, hid⟩ := hsecond
        by_cases heq : i = token
        · rw [if_pos heq] at hi
          cases hi
          have haborted := h.fresh token j reservation other (by omega) hreservation hother (hsame.trans hid.symm)
          rw [hopen] at haborted
          cases haborted
        · rw [if_neg heq] at hi
          exact h.fresh i j first other hlt hi hother (hsame.trans hid.symm)
      · intro n hrunning
        have hfree := (h.waiting n hrunning).1
        rw [hactive] at hfree
        cases hfree

theorem Owned.step {gate next : ReleaseOperationGate} {event : ReleaseGateEvent} (h : Owned gate)
    (hs : gate.step event = some next) : Owned next := by
  cases event with
  | reserve kind operationId =>
    cases hs
    refine h.of_calls rfl rfl rfl fun n hrunning => ?_
    obtain ⟨hfree, call, hcall, hunknown⟩ := h.waiting n hrunning
    refine ⟨hfree, call, ?_, hunknown⟩
    rw [List.getElem?_append_left (List.getElem?_eq_some_iff.1 hcall).1]
    exact hcall
  | run => exact h.run hs
  | persistedOperationExists answer => exact h.checked hs
  | finish token ending =>
    cases hs
    exact h.finish token ending

/-- In every run of the gate, in every state: at most one reservation has not been given back, an operation id is
granted again only after an abort, and giving back a reservation that is not the current one changes nothing. -/
theorem gate_exclusive (events : List ReleaseGateEvent) :
    Machine.Throughout step Exclusive init events :=
  (Machine.throughout_of_step (fun _ _ _ howned hs => howned.step hs) owned_init events).mono
    fun _ => Owned.exclusive

end ReleaseOperationGate

end Opsia
