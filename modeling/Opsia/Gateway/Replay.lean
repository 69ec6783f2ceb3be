import Opsia.Gateway.Session
import Opsia.Machine

/-!
# What a cutover replays

A commit that goes through hands the new upstream the inputs that no room has acknowledged and, while verification is
active, those retained since the baseline.  Over any run of a session this is the union of the two, without duplicates
and in order, and it is loaded without an overflow, just when no unacknowledged input has been refused by the shadow and
the epoch fits the wire (`replays_union_iff`).  A refusal stops the session, but not a `prepare` that is under way.
-/

namespace Opsia

open Json BufferedGatewayInput

namespace GatewaySession

variable {limits : GatewayLimits}

/-! ### Events that leave the inputs alone -/

/-- The second session has the inputs of the first one, and is stopped if that is. -/
structure SameInputs (first second : GatewaySession limits) : Prop where
  inputs : second.inputs = first.inputs
  shadow : second.verificationShadow = first.verificationShadow
  bytes : second.verificationShadowBytes = first.verificationShadowBytes
  active : second.verificationActive = first.verificationActive
  stopped : first.stopped = true → second.stopped = true

namespace SameInputs

variable {first second third : GatewaySession limits}

theorem refl (session : GatewaySession limits) : SameInputs session session := ⟨rfl, rfl, rfl, rfl, id⟩

theorem trans (h : SameInputs first second) (h' : SameInputs second third) : SameInputs first third where
  inputs := h'.inputs.trans h.inputs
  shadow := h'.shadow.trans h.shadow
  bytes := h'.bytes.trans h.bytes
  active := h'.active.trans h.active
  stopped hs := h'.stopped (h.stopped hs)

theorem setUpstream (session : GatewaySession limits) (i : Nat) (connection : UpstreamConnection) :
    SameInputs session (session.setUpstream i connection) := ⟨rfl, rfl, rfl, rfl, id⟩

theorem endDownstream (session : GatewaySession limits) (code : Nat) (reason : String) :
    SameInputs session (session.endDownstream code reason) := ⟨rfl, rfl, rfl, rfl, id⟩

theorem closeUpstream (session : GatewaySession limits) (connection : Option Nat) :
    SameInputs session (session.closeUpstream connection) := by
  cases connection with
  | none => exact refl session
  | some i => exact ⟨rfl, rfl, rfl, rfl, id⟩

theorem stop (session : GatewaySession limits) : SameInputs session session.stop := by
  unfold GatewaySession.stop
  split
  · exact refl session
  · have hclose := (closeUpstream session session.current).trans (closeUpstream _ session.prepared)
    exact ⟨hclose.inputs, hclose.shadow, hclose.bytes, hclose.active, fun _ => rfl⟩

theorem flushInputs {session flushed : GatewaySession limits} {i : Nat} (h : session.flushInputs i = .ok flushed) :
    SameInputs session flushed := by
  unfold GatewaySession.flushInputs at h
  split at h
  · cases h
    exact refl session
  · dsimp only at h
    split at h
    · cases h
    · cases h
      exact setUpstream ..

theorem rejectOpening (session : GatewaySession limits) (i : Nat) (connection : UpstreamConnection) (reason : String) :
    SameInputs session (session.rejectOpening i connection reason) := by
  unfold GatewaySession.rejectOpening GatewaySession.startFailed
  dsimp only
  split
  · split
    · exact setUpstream ..
    · exact ((setUpstream ..).trans (endDownstream ..)).trans (stop _)
  · exact setUpstream ..

theorem opened (codec : GatewayJoinCodec) (session : GatewaySession limits) (i : Nat) (connection : UpstreamConnection) :
    SameInputs session (session.opened codec i connection) := by
  unfold GatewaySession.opened
  split
  · unfold GatewaySession.startOpened
    dsimp only
    split
    · exact rejectOpening ..
    · split
      · exact rejectOpening ..
      · rename_i hflush
        exact (setUpstream ..).trans (flushInputs hflush)
  · unfold GatewaySession.candidateOpened
    split
    · exact rejectOpening ..
    · split
      · exact rejectOpening ..
      · exact setUpstream ..

theorem closed (session : GatewaySession limits) (i : Nat) (connection : UpstreamConnection) :
    SameInputs session (session.closed i connection) := by
  unfold GatewaySession.closed
  dsimp only
  split
  · split
    · exact setUpstream ..
    · exact ((setUpstream ..).trans (endDownstream ..)).trans (stop _)
  · split
    · exact setUpstream ..
    · split
      · exact ((setUpstream ..).trans (endDownstream ..)).trans (stop _)
      · exact setUpstream ..

theorem prepare (session : GatewaySession limits) (route : RouteArgument) :
    SameInputs session (session.prepare route).1 := by
  unfold GatewaySession.prepare
  split
  · exact refl session
  split
  · exact refl session
  split
  · exact refl session
  split
  · split <;> exact refl session
  · exact ⟨rfl, rfl, rfl, rfl, id⟩

theorem abortPrepared (session : GatewaySession limits) : SameInputs session session.abortPrepared.1 := by
  have hclose := closeUpstream session session.prepared
  have hab : SameInputs session { session.closeUpstream session.prepared with prepared := none, frozen := false } :=
    ⟨hclose.inputs, hclose.shadow, hclose.bytes, hclose.active, hclose.stopped⟩
  unfold GatewaySession.abortPrepared
  dsimp only
  split
  · exact hab
  · split
    · exact hab
    · rename_i hflush
      exact hab.trans (flushInputs hflush)

end SameInputs

/-! ### Merging and loading -/

private theorem foldl_setEntry {all entries merged : List BufferedGatewayInput} (hall : Increasing all)
    (hsub : ∀ entry ∈ entries, entry ∈ all) (hmerged : ∀ entry ∈ merged, entry ∈ all)
    (hnodup : merged.Pairwise fun left right => left.sequence ≠ right.sequence) :
    (entries.foldl setEntry merged).Pairwise (fun left right => left.sequence ≠ right.sequence) ∧
      ∀ entry, entry ∈ entries.foldl setEntry merged ↔ entry ∈ merged ∨ entry ∈ entries := by
  induction entries generalizing merged with
  | nil => exact ⟨hnodup, fun entry => by simp⟩
  | cons entry entries ih =>
    rw [List.foldl_cons]
    have hentry := hsub entry (List.mem_cons_self ..)
    have hrest : ∀ e ∈ entries, e ∈ all := fun e he => hsub e (List.mem_cons_of_mem _ he)
    by_cases hany : merged.any fun other => other.sequence = entry.sequence
    · -- the entry that has the number is the entry itself
      have hsame : setEntry merged entry = merged := by
        unfold setEntry
        rw [if_pos hany]
        refine (List.map_congr_left fun other hother => ?_).trans (List.map_id _)
        split
        · rename_i heq
          exact hall.eq_of_sequence hentry (hmerged other hother) heq.symm
        · rfl
      obtain ⟨other, hother, heq⟩ := List.any_eq_true.1 hany
      have hin : entry ∈ merged := by
        rw [← hall.eq_of_sequence (hmerged other hother) hentry (of_decide_eq_true heq)]
        exact hother
      rw [hsame]
      obtain ⟨hpair, hmem⟩ := ih hrest hmerged hnodup
      refine ⟨hpair, fun e => ?_⟩
      rw [hmem e, List.mem_cons]
      constructor
      · rintro (h | h)
        · exact Or.inl h
        · exact Or.inr (Or.inr h)
      · rintro (h | rfl | h)
        · exact Or.inl h
        · exact Or.inl hin
        · exact Or.inr h
    · have hset : setEntry merged entry = merged ++ [entry] := by
        unfold setEntry
        rw [if_neg hany]
      have hnew : ∀ other ∈ merged, other.sequence ≠ entry.sequence := by
        intro other hother heq
        exact hany (List.any_eq_true.2 ⟨other, hother, decide_eq_true heq⟩)
      rw [hset]
      obtain ⟨hpair, hmem⟩ := ih hrest
        (by
          intro e he
          rcases List.mem_append.1 he with he | he
          · exact hmerged e he
          · rw [List.mem_singleton.1 he]
            exact hentry)
        (List.pairwise_append.2 ⟨hnodup, List.pairwise_singleton .., fun other hother e he => by
          rw [List.mem_singleton.1 he]
          exact hnew other hother⟩)
      refine ⟨hpair, fun e => ?_⟩
      rw [hmem e, List.mem_append, List.mem_singleton, List.mem_cons, or_assoc]

/-- The merge is the union of the two lists, in order. -/
theorem mergeRollbackInputs_spec {session : GatewaySession limits} {all unacked : List BufferedGatewayInput}
    (hall : Increasing all) (hshadow : ∀ entry ∈ session.verificationShadow, entry ∈ all)
    (hunacked : ∀ entry ∈ unacked, entry ∈ all) :
    Increasing (session.mergeRollbackInputs unacked) ∧
      ∀ entry, entry ∈ session.mergeRollbackInputs unacked ↔ entry ∈ session.verificationShadow ∨ entry ∈ unacked := by
  have hsub : ∀ entry ∈ session.verificationShadow ++ unacked, entry ∈ all := by
    intro entry he
    rcases List.mem_append.1 he with he | he
    · exact hshadow entry he
    · exact hunacked entry he
  obtain ⟨hpair, hmem⟩ := foldl_setEntry hall hsub (show ∀ entry ∈ [], entry ∈ all by simp) List.Pairwise.nil
  have hperm := List.perm_insertionSort (fun left right : BufferedGatewayInput => left.sequence ≤ right.sequence)
    ((session.verificationShadow ++ unacked).foldl setEntry [])
  constructor
  · have htotal : Std.Total fun left right : BufferedGatewayInput => left.sequence ≤ right.sequence :=
      ⟨fun left right => Nat.le_total ..⟩
    have htrans : IsTrans BufferedGatewayInput fun left right => left.sequence ≤ right.sequence :=
      ⟨fun _ _ _ => Nat.le_trans⟩
    have hle := List.pairwise_insertionSort (fun left right : BufferedGatewayInput => left.sequence ≤ right.sequence)
      ((session.verificationShadow ++ unacked).foldl setEntry [])
    have hne := hperm.symm.pairwise hpair fun h => Ne.symm h
    exact (hle.and hne).imp fun h => Nat.lt_of_le_of_ne h.1 h.2
  · intro entry
    unfold mergeRollbackInputs
    rw [List.mem_insertionSort, hmem, List.mem_append]
    simp

/-- Loading retains the entries one by one, up to the first that does not fit. -/
private theorem retainAll_spec (session : GatewaySession limits) (entries : List BufferedGatewayInput)
    (hnew : Increasing (session.verificationShadow ++ entries)) :
    ∃ loaded rest, entries = loaded ++ rest ∧
      (session.retainAll entries).1 = { session with
        verificationShadow := session.verificationShadow ++ loaded
        verificationShadowBytes := session.verificationShadowBytes + totalBytes loaded } ∧
      (loaded = [] ∨ (session.verificationShadow ++ loaded).length ≤ limits.maxMessages ∧
        session.verificationShadowBytes + totalBytes loaded ≤ limits.maxBytes) ∧
      (rest = [] ∧ (session.retainAll entries).2 = .ok () ∨
        ∃ entry later message, rest = entry :: later ∧ (session.retainAll entries).2 = .error message ∧
          (limits.maxMessages < (session.verificationShadow ++ loaded).length + 1 ∨
            limits.maxBytes < session.verificationShadowBytes + totalBytes loaded + entry.bytes)) := by
  induction entries generalizing session with
  | nil => exact ⟨[], [], rfl, by simp [retainAll], Or.inl rfl, Or.inl ⟨rfl, rfl⟩⟩
  | cons entry entries ih =>
    have hfresh : ¬session.verificationShadow.any fun candidate => candidate.sequence = entry.sequence := by
      intro hany
      obtain ⟨other, hother, heq⟩ := List.any_eq_true.1 hany
      have hlt := (List.pairwise_append.1 hnew).2.2 other hother entry (List.mem_cons_self ..)
      have := of_decide_eq_true heq
      omega
    rw [retainAll, retainForRollback, if_neg hfresh]
    by_cases hmessages : limits.maxMessages < session.verificationShadow.length + 1
    · rw [if_pos hmessages]
      exact ⟨[], entry :: entries, rfl, by simp, Or.inl rfl,
        Or.inr ⟨entry, entries, _, rfl, rfl, Or.inl (by simpa using hmessages)⟩⟩
    · rw [if_neg hmessages]
      by_cases hbytes : limits.maxBytes < session.verificationShadowBytes + entry.bytes
      · rw [if_pos hbytes]
        exact ⟨[], entry :: entries, rfl, by simp, Or.inl rfl,
          Or.inr ⟨entry, entries, _, rfl, rfl, Or.inr (by simpa using hbytes)⟩⟩
      · rw [if_neg hbytes]
        dsimp only
        obtain ⟨loaded, rest, rfl, hsession, hfits, hresult⟩ := ih
          { session with
            verificationShadow := session.verificationShadow ++ [entry]
            verificationShadowBytes := session.verificationShadowBytes + entry.bytes }
          (by simpa [Increasing] using hnew)
        refine ⟨entry :: loaded, rest, rfl, ?_, Or.inr ?_, ?_⟩
        · rw [hsession]
          simp [Nat.add_assoc]
        · rcases hfits with rfl | hfits
          · simp only [List.length_append, List.length_singleton, totalBytes_cons, totalBytes_nil]
            omega
          · simpa [Nat.add_assoc] using hfits
        · simpa [Nat.add_assoc] using hresult

/-- The inputs that a commit replays. -/
def replay (session : GatewaySession limits) : List BufferedGatewayInput :=
  session.mergeRollbackInputs session.inputs.entries

private theorem closeUpstream_length (session : GatewaySession limits) (connection : Option Nat) :
    ∃ upstreams, session.closeUpstream connection = { session with upstreams } ∧
      upstreams.length = session.upstreams.length := by
  cases connection with
  | none => exact ⟨session.upstreams, rfl, rfl⟩
  | some i => exact ⟨_, rfl, List.length_modify ..⟩

theorem switchTo_inputs (session : GatewaySession limits) (i : Nat) (candidate : UpstreamConnection) :
    SameInputs session (session.switchTo i candidate) ∧ (session.switchTo i candidate).stopped = session.stopped ∧
      (session.switchTo i candidate).current = some i ∧
      (session.switchTo i candidate).upstreams.length = session.upstreams.length := by
  obtain ⟨upstreams, hclose, hlength⟩ := closeUpstream_length
    { session.setUpstream i candidate with current := some i, prepared := none } session.current
  have hlength' : upstreams.length = session.upstreams.length := hlength.trans (List.length_set ..)
  unfold switchTo
  dsimp only
  rw [hclose]
  split
  · exact ⟨⟨rfl, rfl, rfl, rfl, id⟩, rfl, rfl, hlength'⟩
  · exact ⟨⟨rfl, rfl, rfl, rfl, id⟩, rfl, rfl, hlength'⟩

/-- What a replay does to the inputs: an epoch that does not fit the wire stops it before the loading, and the loading
stops at the first input that does not fit. -/
private theorem replayTo_inputs (session : GatewaySession limits) {i : Nat} (hi : i < session.upstreams.length)
    (hcurrent : session.current = some i) (candidate : UpstreamConnection) (hinc : Increasing session.replay) :
    (session.replayTo i candidate).1.inputs = session.inputs ∧
      (session.replayTo i candidate).1.stopped = session.stopped ∧
      (safeUint32 candidate.epoch = none ∧ session.replay ≠ [] ∧
          (∃ message, session.replayTo i candidate = (session, .error message)) ∨
        (safeUint32 candidate.epoch ≠ none ∨ session.replay = []) ∧
          ∃ loaded rest, session.replay = loaded ++ rest ∧
            (session.replayTo i candidate).1.verificationShadow = loaded ∧
            (session.replayTo i candidate).1.verificationShadowBytes = totalBytes loaded ∧
            (loaded = [] ∨ loaded.length ≤ limits.maxMessages ∧ totalBytes loaded ≤ limits.maxBytes) ∧
            (rest = [] ∧ (session.replayTo i candidate).2 = .ok session.replay.length ∧
                (session.replayTo i candidate).1.verificationActive = true ∧
                (∃ connection, (session.replayTo i candidate).1.currentUpstream = some connection ∧
                  (candidate.readyState = .opened →
                    connection.sent.map GatewayInputFrame.inputSequence =
                      candidate.sent.map GatewayInputFrame.inputSequence ++ loaded.map sequence)) ∨
              ∃ entry later message, rest = entry :: later ∧ (session.replayTo i candidate).2 = .error message ∧
                (session.replayTo i candidate).1.verificationActive = session.verificationActive ∧
                (limits.maxMessages < loaded.length + 1 ∨ limits.maxBytes < totalBytes loaded + entry.bytes))) := by
  have hreplay : session.mergeRollbackInputs (session.inputs.replayAfter session.inputs.acknowledgedSequence) =
      session.replay := by rw [BoundedGatewayInputBuffer.replayAfter_acknowledged, replay]
  unfold replayTo
  rw [hreplay]
  dsimp only
  cases hsend : candidate.sendInputs session.replay session.clientTick with
  | error message =>
    dsimp only
    have hnone : safeUint32 candidate.epoch = none := by
      cases hfits : safeUint32 candidate.epoch with
      | none => rfl
      | some epoch =>
        obtain ⟨_, hok⟩ := UpstreamConnection.sendInputs_of_fits hfits session.replay session.clientTick
        rw [hok] at hsend
        cases hsend
    refine ⟨rfl, rfl, Or.inl ⟨hnone, ?_, message, rfl⟩⟩
    intro hnil
    rw [hnil] at hsend
    cases hsend
  | ok sent =>
    have hfits : safeUint32 candidate.epoch ≠ none ∨ session.replay = [] := by
      by_cases hnil : session.replay = []
      · exact Or.inr hnil
      · refine Or.inl fun hnone => ?_
        obtain ⟨_, herror⟩ := UpstreamConnection.sendInputs_of_not_fits hnone hnil session.clientTick
        rw [herror] at hsend
        cases hsend
    obtain ⟨frames, rfl, hopen, -⟩ := UpstreamConnection.sendInputs_ok hsend
    obtain ⟨loaded, rest, hsplit, hloaded, hbound, hresult⟩ :=
      retainAll_spec { session.setUpstream i { candidate with sent := candidate.sent ++ frames } with
        verificationShadow := [], verificationShadowBytes := 0 } session.replay hinc
    dsimp only
    unfold setRollbackInputs
    simp only [List.nil_append, Nat.zero_add] at hloaded hbound hresult
    rcases hresult with ⟨rfl, hok⟩ | ⟨entry, later, message, rfl, herror, hfull⟩
    · rw [show GatewaySession.retainAll _ session.replay = (_, _) from Prod.ext hloaded hok]
      refine ⟨rfl, rfl, Or.inr ⟨hfits, loaded, [], hsplit, rfl, rfl, hbound, Or.inl ⟨rfl, rfl, rfl, ?_⟩⟩⟩
      refine ⟨{ candidate with
        sent := candidate.sent ++ frames
        sentThroughSequence := (session.replay.getLast?.map sequence).getD session.inputs.lastAcknowledgedSequence },
        ?_, fun ho => ?_⟩
      · unfold currentUpstream upstream setUpstream
        dsimp only
        rw [hcurrent, Option.bind_some, List.getElem?_set_self (by simpa using hi)]
      · rw [List.append_nil] at hsplit
        dsimp only
        rw [List.map_append, (hopen ho).1, hsplit]
    · rw [show GatewaySession.retainAll _ session.replay = (_, _) from Prod.ext hloaded herror]
      exact ⟨rfl, rfl, Or.inr ⟨hfits, loaded, _, hsplit, rfl, rfl, hbound,
        Or.inr ⟨entry, later, message, rfl, rfl, rfl, hfull⟩⟩⟩

/-! ### Events that change the inputs -/

private theorem sameInputs_overflow (s : GatewaySession limits) : SameInputs s s.overflow :=
  (SameInputs.endDownstream ..).trans (.stop _)

/-- Sending an input to the current upstream leaves the inputs as they are. -/
private theorem sameInputs_send (s : GatewaySession limits) (entry : BufferedGatewayInput) : SameInputs s
    (match s.frozen, s.current, s.currentUpstream with
    | false, some i, some connection =>
      if connection.readyState = .opened then
        match connection.sendInput entry.payload entry.sequence s.clientTick with
        | .error _ => s.overflow
        | .ok connection => s.setUpstream i { connection with sentThroughSequence := entry.sequence }
      else s
    | _, _, _ => s) := by
  split
  · split
    · split
      · exact sameInputs_overflow s
      · exact .setUpstream ..
    · exact .refl s
  · exact .refl s

/-- An input is refused by the buffer, or taken; and while verification is active it is retained as well, or refused
there, which stops the session. -/
private theorem receiveInput_inputs (session : GatewaySession limits) (payload : Payload) :
    SameInputs session (session.receiveInput payload) ∨
      ∃ entry inputs, session.inputs.push payload = .ok (entry, inputs) ∧
        (session.receiveInput payload).inputs = inputs ∧
        (session.receiveInput payload).verificationActive = session.verificationActive ∧
        (((session.verificationActive = true →
              session.verificationShadow.any (fun candidate => candidate.sequence = entry.sequence) = true) ∧
            (session.receiveInput payload).verificationShadow = session.verificationShadow ∧
            (session.receiveInput payload).verificationShadowBytes = session.verificationShadowBytes) ∨
          session.verificationActive = true ∧
            session.verificationShadow.length + 1 ≤ limits.maxMessages ∧
            session.verificationShadowBytes + entry.bytes ≤ limits.maxBytes ∧
            (session.receiveInput payload).verificationShadow = session.verificationShadow ++ [entry] ∧
            (session.receiveInput payload).verificationShadowBytes = session.verificationShadowBytes + entry.bytes ∨
          session.verificationActive = true ∧
            (limits.maxMessages < session.verificationShadow.length + 1 ∨
              limits.maxBytes < session.verificationShadowBytes + entry.bytes) ∧
            (session.receiveInput payload).verificationShadow = session.verificationShadow ∧
            (session.receiveInput payload).verificationShadowBytes = session.verificationShadowBytes ∧
            (session.receiveInput payload).stopped = true) := by
  have hstopped (s : GatewaySession limits) : s.overflow.stopped = true := by
    unfold overflow stop endDownstream
    split
    · assumption
    · rfl
  unfold receiveInput
  split
  · exact Or.inl (sameInputs_overflow session)
  · rename_i entry inputs hpush
    refine Or.inr ⟨entry, inputs, hpush, ?_⟩
    dsimp only
    by_cases hactive : session.verificationActive
    · rw [if_pos hactive]
      unfold retainForRollback
      dsimp only
      by_cases hany : session.verificationShadow.any fun candidate => candidate.sequence = entry.sequence
      · rw [if_pos hany]
        dsimp only
        have hsame := sameInputs_send { session with inputs, clientTick := (session.clientTick + 1) % 4294967296 } entry
        exact ⟨hsame.inputs, hsame.active, Or.inl ⟨fun _ => hany, hsame.shadow, hsame.bytes⟩⟩
      · rw [if_neg hany]
        by_cases hmessages : limits.maxMessages < session.verificationShadow.length + 1
        · rw [if_pos hmessages]
          dsimp only
          have hsame := sameInputs_overflow { session with inputs, clientTick := (session.clientTick + 1) % 4294967296 }
          exact ⟨hsame.inputs, hsame.active,
            Or.inr (Or.inr ⟨hactive, Or.inl hmessages, hsame.shadow, hsame.bytes, hstopped _⟩)⟩
        · rw [if_neg hmessages]
          by_cases hbytes : limits.maxBytes < session.verificationShadowBytes + entry.bytes
          · rw [if_pos hbytes]
            dsimp only
            have hsame := sameInputs_overflow { session with inputs, clientTick := (session.clientTick + 1) % 4294967296 }
            exact ⟨hsame.inputs, hsame.active,
              Or.inr (Or.inr ⟨hactive, Or.inr hbytes, hsame.shadow, hsame.bytes, hstopped _⟩)⟩
          · rw [if_neg hbytes]
            dsimp only
            have hsame := sameInputs_send { session with
              inputs, clientTick := (session.clientTick + 1) % 4294967296
              verificationShadow := session.verificationShadow ++ [entry]
              verificationShadowBytes := session.verificationShadowBytes + entry.bytes } entry
            exact ⟨hsame.inputs, hsame.active,
              Or.inr (Or.inl ⟨hactive, by omega, by omega, hsame.shadow, hsame.bytes⟩)⟩
    · rw [if_neg hactive]
      dsimp only
      have hsame := sameInputs_send { session with inputs, clientTick := (session.clientTick + 1) % 4294967296 } entry
      exact ⟨hsame.inputs, hsame.active, Or.inl ⟨fun h => absurd h hactive, hsame.shadow, hsame.bytes⟩⟩

/-- What an event does to the inputs: nothing, an acknowledgement, or an input of the browser. -/
private theorem socketStep_inputs {codec : GatewayJoinCodec} {session next : GatewaySession limits}
    {event : SocketEvent} (h : session.socketStep codec event = some next) :
    SameInputs session next ∨
      (∃ sequence, SameInputs { session with inputs := session.inputs.acknowledge sequence } next) ∨
      session.stopped = false ∧ ∃ payload, next = session.receiveInput payload := by
  cases event with
  | receive payload admitted =>
    cases h
    unfold receive
    split
    · exact Or.inl (.refl session)
    · rename_i hstop
      have hinput : session.stopped = false ∧ ∃ p, session.receiveInput payload = session.receiveInput p :=
        ⟨by simpa using hstop, payload, rfl⟩
      split
      · split
        · exact Or.inl (.refl session)
        · exact Or.inr (Or.inr hinput)
        · split
          · exact Or.inl ((SameInputs.endDownstream ..).trans (.stop _))
          · refine Or.inl ?_
            dsimp only
            split
            · split
              · split
                · exact ⟨rfl, rfl, rfl, rfl, id⟩
                · exact ⟨rfl, rfl, rfl, rfl, id⟩
              · exact ⟨rfl, rfl, rfl, rfl, id⟩
            · exact ⟨rfl, rfl, rfl, rfl, id⟩
      · exact Or.inr (Or.inr hinput)
  | matchFound call token =>
    simp only [socketStep] at h
    split at h
    · cases h
      exact Or.inl ⟨rfl, rfl, rfl, rfl, id⟩
    · cases h
  | matchFailed call reason =>
    simp only [socketStep] at h
    split at h
    · cases h
      exact Or.inl ⟨rfl, rfl, rfl, rfl, id⟩
    · cases h
  | opened i =>
    simp only [socketStep] at h
    split at h
    · split at h
      · cases h
        exact Or.inl (.opened ..)
      · cases h
    · cases h
  | openFailed i =>
    simp only [socketStep] at h
    split at h
    · split at h
      · cases h
        exact Or.inl (.rejectOpening ..)
      · cases h
    · cases h
  | openTimedOut i =>
    simp only [socketStep] at h
    split at h
    · split at h
      · cases h
        exact Or.inl (.rejectOpening ..)
      · cases h
    · cases h
  | frame i frame =>
    have hrefuse (reason : String) : SameInputs session (session.refuseFrame reason) :=
      (SameInputs.endDownstream ..).trans (.stop _)
    simp only [socketStep] at h
    split at h
    · rename_i connection _
      split at h
      · cases h
      · split at h
        · cases h
          unfold currentFrame
          split
          · exact Or.inl (.refl session)
          · split
            · exact Or.inl (hrefuse _)
            · exact Or.inl (hrefuse _)
            · split
              · exact Or.inr (Or.inl ⟨_, .refl _⟩)
              · exact Or.inl (.refl session)
            · exact Or.inl (hrefuse _)
            · split
              · exact Or.inl ⟨rfl, rfl, rfl, rfl, id⟩
              · exact Or.inl (hrefuse _)
        · split at h
          · cases h
            unfold candidateFrame
            split
            · exact Or.inl (.setUpstream ..)
            · exact Or.inl (.setUpstream ..)
            · split
              · exact Or.inr (Or.inl ⟨_, .refl _⟩)
              · exact Or.inl (.refl session)
            · exact Or.inl (.setUpstream ..)
            · split
              · exact Or.inl (.setUpstream ..)
              · dsimp only
                split
                · exact Or.inl ⟨rfl, rfl, rfl, rfl, id⟩
                · exact Or.inl (.setUpstream ..)
          · cases h
    · cases h
  | closed i =>
    simp only [socketStep] at h
    split at h
    · split at h
      · cases h
        exact Or.inl (.closed ..)
      · cases h
    · cases h
  | errored i =>
    simp only [socketStep] at h
    split at h
    · split at h
      · split at h
        · split at h
          · cases h
            unfold errored
            split
            · exact Or.inl (.refl session)
            · exact Or.inl (.setUpstream ..)
          · cases h
        · cases h
      · cases h
    · cases h
  | readyTimedOut i =>
    simp only [socketStep] at h
    split at h
    · split at h
      · cases h
        exact Or.inl (.setUpstream ..)
      · cases h
    · cases h

/-- What a commit that goes through does to the inputs. -/
theorem commitPrepared_inputs {session : GatewaySession limits} {route : GatewayRoomRoute}
    (h : session.GoesThrough route) (hinc : Increasing session.replay) :
    (0xffffffff < route.epoch ∧ session.replay ≠ [] ∧
        (∃ message, (session.commitPrepared route).2 = .error message) ∧
        SameInputs session (session.commitPrepared route).1) ∨
      (route.epoch ≤ 0xffffffff ∨ session.replay = []) ∧
        (session.commitPrepared route).1.inputs = session.inputs ∧
        (session.commitPrepared route).1.stopped = session.stopped ∧
        ∃ loaded rest, session.replay = loaded ++ rest ∧
          (session.commitPrepared route).1.verificationShadow = loaded ∧
          (session.commitPrepared route).1.verificationShadowBytes = totalBytes loaded ∧
          (loaded = [] ∨ loaded.length ≤ limits.maxMessages ∧ totalBytes loaded ≤ limits.maxBytes) ∧
          (rest = [] ∧ (session.commitPrepared route).2 = .ok session.replay.length ∧
              (session.commitPrepared route).1.verificationActive = true ∧
              (∃ candidate connection, session.preparedUpstream = some candidate ∧
                (session.commitPrepared route).1.currentUpstream = some connection ∧
                (candidate.readyState = .opened →
                  connection.sent.map GatewayInputFrame.inputSequence =
                    candidate.sent.map GatewayInputFrame.inputSequence ++ loaded.map sequence)) ∨
            ∃ entry later message, rest = entry :: later ∧ (session.commitPrepared route).2 = .error message ∧
              (session.commitPrepared route).1.verificationActive = session.verificationActive ∧
              (limits.maxMessages < loaded.length + 1 ∨ limits.maxBytes < totalBytes loaded + entry.bytes)) := by
  obtain ⟨i, candidate, -, hcandidate, hi, hepoch, heq⟩ := commitPrepared_of_goesThrough h
  obtain ⟨hsame, hstopped, hcurrent, hlength⟩ := switchTo_inputs session i candidate.commit
  have hreplay : (session.switchTo i candidate.commit).replay = session.replay := by
    unfold replay mergeRollbackInputs
    rw [hsame.inputs, hsame.shadow]
  have hfits : safeUint32 candidate.commit.epoch = if route.epoch ≤ 0xffffffff then some route.epoch else none := by
    rw [show candidate.commit.epoch = candidate.epoch from rfl, safeUint32_congr hepoch, safeUint32_ofNat]
  obtain ⟨hinputs, hstopped', hcases⟩ := replayTo_inputs (session.switchTo i candidate.commit) (i := i)
    (by rw [hlength]; exact hi) hcurrent candidate.commit (by rw [hreplay]; exact hinc)
  rw [heq]
  rcases hcases with ⟨hnone, hne, message, herror⟩ | ⟨hsome, loaded, rest, hsplit, hshadow, hbytes, hbound, hresult⟩
  · refine Or.inl ⟨?_, hreplay ▸ hne, ⟨message, by rw [herror]⟩, by rw [herror]; exact hsame⟩
    by_contra hle
    rw [hfits, if_pos (by omega)] at hnone
    cases hnone
  · refine Or.inr ⟨?_, hinputs.trans hsame.inputs, hstopped'.trans hstopped, loaded, rest, by rw [← hreplay, hsplit],
      hshadow, hbytes, hbound, ?_⟩
    · rcases hsome with hsome | hnil
      · refine Or.inl ?_
        by_contra hlt
        exact hsome (by rw [hfits, if_neg hlt])
      · exact Or.inr (hreplay ▸ hnil)
    · rcases hresult with ⟨hrest, hok, hactive, connection, hconn, hsent⟩ | ⟨entry, later, message, hrest, herror, hactive, hfull⟩
      · exact Or.inl ⟨hrest, by rw [hok, hreplay], hactive, candidate, connection, hcandidate, hconn, hsent⟩
      · exact Or.inr ⟨entry, later, message, hrest, herror, hactive.trans hsame.active, hfull⟩

end GatewaySession

/-! ### The record of a session -/

/-- A session with what its run has been: every input its buffer has taken, and the acknowledged sequence of the moment
when verification was last begun. -/
structure RecordedSession (limits : GatewayLimits) where
  session : GatewaySession limits
  accepted : List BufferedGatewayInput := []
  baseline : Nat := 0

namespace RecordedSession

open GatewaySession

variable {limits : GatewayLimits}

/-- The record goes on with the session as an event leaves it. -/
def observe (recorded : RecordedSession limits) (next : GatewaySession limits) : RecordedSession limits where
  session := next
  accepted := recorded.accepted ++
    next.inputs.entries.filter fun entry => recorded.session.inputs.nextSequence ≤ entry.sequence
  baseline :=
    if next.verificationActive && !recorded.session.verificationActive then
      recorded.session.inputs.acknowledgedSequence
    else recorded.baseline

def step (codec : GatewayJoinCodec) (recorded : RecordedSession limits) (event : GatewaySessionEvent) :
    Option (RecordedSession limits) :=
  (recorded.session.step codec event).map recorded.observe

/-- The inputs that were taken since the baseline. -/
def sinceBaseline (recorded : RecordedSession limits) : List BufferedGatewayInput :=
  recorded.accepted.filter fun entry => recorded.baseline < entry.sequence

/-- The last input does not fit the shadow. -/
def Refused (session : GatewaySession limits) (entry : BufferedGatewayInput) : Prop :=
  session.stopped = true ∧
    (limits.maxMessages < session.verificationShadow.length + 1 ∨
      limits.maxBytes < session.verificationShadowBytes + entry.bytes)

/-- The inputs are numbered as they came, the buffer holds the last ones, and while verification is active the shadow
holds those since the baseline, but for a last one that did not fit and stopped the session. -/
structure Retained (recorded : RecordedSession limits) : Prop where
  numbered : Numbered 0 recorded.accepted
  length : recorded.accepted.length + 1 = recorded.session.inputs.nextSequence
  entries : ∃ gone, recorded.accepted = gone ++ recorded.session.inputs.entries
  inactive : recorded.session.verificationActive = false → recorded.session.verificationShadow = []
  bytes : recorded.session.verificationShadowBytes = totalBytes recorded.session.verificationShadow
  length_le : recorded.session.verificationShadow.length ≤ limits.maxMessages
  bytes_le : recorded.session.verificationShadowBytes ≤ limits.maxBytes
  active : recorded.session.verificationActive = true →
    recorded.baseline ≤ recorded.session.inputs.acknowledgedSequence ∧
      (recorded.sinceBaseline = recorded.session.verificationShadow ∨
        ∃ entry, recorded.sinceBaseline = recorded.session.verificationShadow ++ [entry] ∧
          Refused recorded.session entry)

private theorem observe_of_nextSequence {recorded : RecordedSession limits} {next : GatewaySession limits}
    (h : next.inputs.nextSequence = recorded.session.inputs.nextSequence) :
    (recorded.observe next).accepted = recorded.accepted := by
  have hnil : (next.inputs.entries.filter fun entry => recorded.session.inputs.nextSequence ≤ entry.sequence) = [] := by
    rw [List.filter_eq_nil_iff]
    intro entry he
    have hlt := (BoundedGatewayInputBuffer.mem_entries he).2
    simpa using by omega
  unfold observe
  dsimp only
  rw [hnil, List.append_nil]

/-- Events that only acknowledge, or do not touch the inputs. -/
private theorem Retained.acknowledge {recorded : RecordedSession limits} (h : Retained recorded)
    {next : GatewaySession limits} (inputs : BoundedGatewayInputBuffer limits)
    (hnext : inputs.nextSequence = recorded.session.inputs.nextSequence)
    (hack : recorded.session.inputs.acknowledgedSequence ≤ inputs.acknowledgedSequence)
    (hgone : ∃ gone, recorded.session.inputs.entries = gone ++ inputs.entries)
    (hsame : SameInputs { recorded.session with inputs } next) : Retained (recorded.observe next) := by
  have hinputs : next.inputs = inputs := hsame.inputs
  have haccepted : (recorded.observe next).accepted = recorded.accepted :=
    observe_of_nextSequence (by rw [hinputs, hnext])
  have hactive : next.verificationActive = recorded.session.verificationActive := hsame.active
  have hshadow : next.verificationShadow = recorded.session.verificationShadow := hsame.shadow
  have hbytes : next.verificationShadowBytes = recorded.session.verificationShadowBytes := hsame.bytes
  have hbaseline : (recorded.observe next).baseline = recorded.baseline := by
    unfold observe
    dsimp only
    rw [hactive, Bool.and_not_self]
    rfl
  have hsince : (recorded.observe next).sinceBaseline = recorded.sinceBaseline := by
    unfold sinceBaseline
    rw [haccepted, hbaseline]
  have hsession : (recorded.observe next).session = next := rfl
  obtain ⟨gone, hentries⟩ := h.entries
  obtain ⟨gone', hentries'⟩ := hgone
  constructor
  · rw [haccepted]
    exact h.numbered
  · rw [haccepted, hsession, hinputs, hnext]
    exact h.length
  · rw [haccepted, hsession, hinputs]
    exact ⟨gone ++ gone', by rw [hentries, hentries', List.append_assoc]⟩
  · intro hoff
    rw [hsession, hshadow]
    exact h.inactive (by rw [← hactive]; exact hoff)
  · rw [hsession, hshadow, hbytes]
    exact h.bytes
  · rw [hsession, hshadow]
    exact h.length_le
  · rw [hsession, hbytes]
    exact h.bytes_le
  · intro hon
    obtain ⟨hle, hretained⟩ := h.active (by rw [← hactive]; exact hon)
    rw [hsince, hbaseline, hsession, hinputs, hshadow]
    refine ⟨hle.trans hack, ?_⟩
    rcases hretained with hall | ⟨entry, hall, hstop, hfull⟩
    · exact Or.inl hall
    · exact Or.inr ⟨entry, hall, hsame.stopped hstop, by rw [hshadow, hbytes]; exact hfull⟩

theorem Retained.mem_accepted {recorded : RecordedSession limits} (h : Retained recorded)
    {entry : BufferedGatewayInput} (he : entry ∈ recorded.session.verificationShadow) : entry ∈ recorded.accepted := by
  by_cases hon : recorded.session.verificationActive
  · have hmem : entry ∈ recorded.sinceBaseline := by
      rcases (h.active hon).2 with hall | ⟨last, hall, _⟩
      · rw [hall]
        exact he
      · rw [hall]
        exact List.mem_append_left _ he
    exact (List.mem_filter.1 hmem).1
  · rw [h.inactive (by simpa using hon)] at he
    cases he

private theorem Retained.receiveInput {recorded : RecordedSession limits} (h : Retained recorded)
    (hstop : recorded.session.stopped = false) (payload : Payload) :
    Retained (recorded.observe (recorded.session.receiveInput payload)) := by
  rcases receiveInput_inputs recorded.session payload with hsame | ⟨entry, inputs, hpush, hinputs, hactive, hshadow⟩
  · exact h.acknowledge recorded.session.inputs rfl (le_refl _) ⟨[], rfl⟩ hsame
  · obtain ⟨rfl, hentries, hack, hnext⟩ := BoundedGatewayInputBuffer.push_ok hpush
    have hlength := h.length
    have hbelow : ∀ other ∈ recorded.accepted, other.sequence < recorded.session.inputs.nextSequence := by
      intro other hother
      have := h.numbered.mem hother
      omega
    have haccepted : (recorded.observe (recorded.session.receiveInput payload)).accepted =
        recorded.accepted ++ [{ sequence := recorded.session.inputs.nextSequence, payload }] := by
      unfold observe
      dsimp only
      rw [hinputs, hentries, List.filter_append, List.filter_eq_nil_iff.2, List.nil_append,
        List.filter_eq_self.2]
      · intro other hother
        rw [List.mem_singleton.1 hother]
        exact decide_eq_true (le_refl _)
      · intro other hother
        have hlt := (BoundedGatewayInputBuffer.mem_entries hother).2
        simpa using by omega
    have hbaseline : (recorded.observe (recorded.session.receiveInput payload)).baseline = recorded.baseline := by
      unfold observe
      dsimp only
      rw [hactive, Bool.and_not_self]
      rfl
    have hsession : (recorded.observe (recorded.session.receiveInput payload)).session =
      recorded.session.receiveInput payload := rfl
    have hsince : recorded.session.verificationActive = true →
        (recorded.observe (recorded.session.receiveInput payload)).sinceBaseline =
          recorded.session.verificationShadow ++ [{ sequence := recorded.session.inputs.nextSequence, payload }] := by
      intro hon
      obtain ⟨hle, hall | ⟨_, _, hstop', _⟩⟩ := h.active hon
      · have hlt : recorded.baseline < recorded.session.inputs.nextSequence := by
          have := recorded.session.inputs.next_eq
          omega
        unfold sinceBaseline at hall ⊢
        rw [haccepted, hbaseline, List.filter_append, hall, List.filter_eq_self.2]
        intro other hother
        rw [List.mem_singleton.1 hother]
        exact decide_eq_true hlt
      · rw [hstop] at hstop'
        cases hstop'
    obtain ⟨gone, hgone⟩ := h.entries
    have hnumbered : Numbered 0 (recorded.observe (recorded.session.receiveInput payload)).accepted := by
      rw [haccepted]
      exact h.numbered.append (by dsimp only; omega)
    have hlen : (recorded.observe (recorded.session.receiveInput payload)).accepted.length + 1 =
        (recorded.session.receiveInput payload).inputs.nextSequence := by
      rw [haccepted, hinputs, hnext, List.length_append, List.length_singleton]
      omega
    have hsuffix : ∃ gone, (recorded.observe (recorded.session.receiveInput payload)).accepted =
        gone ++ (recorded.session.receiveInput payload).inputs.entries :=
      ⟨gone, by rw [haccepted, hinputs, hentries, hgone, List.append_assoc]⟩
    have hbase : recorded.session.verificationActive = true →
        (recorded.observe (recorded.session.receiveInput payload)).baseline ≤
          (recorded.session.receiveInput payload).inputs.acknowledgedSequence := by
      intro hon
      rw [hbaseline, hinputs, hack]
      exact (h.active hon).1
    rcases hshadow with ⟨hknown, hshadow, hbytes⟩ | ⟨hon, hmessages, hmax, hshadow, hbytes⟩ |
        ⟨hon, hfull, hshadow, hbytes, hstopped⟩
    · -- verification is off: a number of the shadow cannot come again
      have hoff : recorded.session.verificationActive = false := by
        by_contra hon
        obtain ⟨other, hother, heq⟩ := List.any_eq_true.1 (hknown (by simpa using hon))
        have hlt := hbelow other (h.mem_accepted hother)
        have := of_decide_eq_true heq
        dsimp only at this
        omega
      refine ⟨hnumbered, hlen, hsuffix, fun _ => ?_, ?_, ?_, ?_, fun hon => ?_⟩
      · rw [hsession, hshadow]
        exact h.inactive hoff
      · rw [hsession, hshadow, hbytes]
        exact h.bytes
      · rw [hsession, hshadow]
        exact h.length_le
      · rw [hsession, hbytes]
        exact h.bytes_le
      · rw [hsession, hactive, hoff] at hon
        cases hon
    · refine ⟨hnumbered, hlen, hsuffix, fun hoff => ?_, ?_, ?_, ?_, fun _ => ⟨hbase hon, Or.inl ?_⟩⟩
      · rw [hsession, hactive, hon] at hoff
        cases hoff
      · rw [hsession, hshadow, hbytes, h.bytes]
        simp
      · rw [hsession, hshadow, List.length_append, List.length_singleton]
        exact hmessages
      · rw [hsession, hbytes]
        exact hmax
      · rw [hsince hon, hsession, hshadow]
    · have hrefused : Refused (recorded.session.receiveInput payload)
          { sequence := recorded.session.inputs.nextSequence, payload } :=
        ⟨hstopped, by rw [hshadow, hbytes]; exact hfull⟩
      have hall := hsince hon
      rw [← hshadow] at hall
      refine ⟨hnumbered, hlen, hsuffix, fun hoff => ?_, ?_, ?_, ?_, fun _ => ⟨hbase hon, Or.inr ⟨_, hall, hrefused⟩⟩⟩
      · rw [hsession, hactive, hon] at hoff
        cases hoff
      · rw [hsession, hshadow, hbytes]
        exact h.bytes
      · rw [hsession, hshadow]
        exact h.length_le
      · rw [hsession, hbytes]
        exact h.bytes_le

private theorem Retained.finalize {recorded : RecordedSession limits} (h : Retained recorded) :
    Retained (recorded.observe recorded.session.finalizeVerification) := by
  have haccepted : (recorded.observe recorded.session.finalizeVerification).accepted = recorded.accepted :=
    observe_of_nextSequence rfl
  refine ⟨?_, ?_, ?_, fun _ => rfl, rfl, Nat.zero_le _, Nat.zero_le _, fun hon => by cases hon⟩
  · rw [haccepted]
    exact h.numbered
  · rw [haccepted]
    exact h.length
  · rw [haccepted]
    exact h.entries

/-- The unacknowledged inputs are the last ones that were taken. -/
private theorem Retained.mem_entries {recorded : RecordedSession limits} (h : Retained recorded)
    (entry : BufferedGatewayInput) : entry ∈ recorded.session.inputs.entries ↔
      entry ∈ recorded.accepted ∧ recorded.session.inputs.acknowledgedSequence < entry.sequence := by
  obtain ⟨gone, hgone⟩ := h.entries
  constructor
  · intro he
    exact ⟨by rw [hgone]; exact List.mem_append_right _ he, (BoundedGatewayInputBuffer.mem_entries he).1⟩
  · rintro ⟨he, hlt⟩
    have hnext := (h.numbered.mem he).2
    have hlength := h.length
    obtain ⟨other, hother, heq⟩ := BoundedGatewayInputBuffer.exists_entry hlt (by omega)
    have hin : other ∈ recorded.accepted := by
      rw [hgone]
      exact List.mem_append_right _ hother
    rwa [h.numbered.increasing.eq_of_sequence he hin heq.symm]

private theorem Retained.replay_spec {recorded : RecordedSession limits} (h : Retained recorded) :
    Increasing recorded.session.replay ∧ ∀ entry, entry ∈ recorded.session.replay ↔
      entry ∈ recorded.session.verificationShadow ∨ entry ∈ recorded.session.inputs.entries :=
  mergeRollbackInputs_spec h.numbered.increasing (fun _ => h.mem_accepted) fun entry he => ((h.mem_entries entry).1 he).1

private theorem Retained.increasing_since {recorded : RecordedSession limits} (h : Retained recorded) :
    Increasing recorded.sinceBaseline := h.numbered.increasing.filter _

/-- What is replayed: without verification the unacknowledged inputs; with it the shadow, and a refused input as well
if no room has acknowledged it. -/
private theorem Retained.replay_cases {recorded : RecordedSession limits} (h : Retained recorded) :
    recorded.session.verificationActive = false ∧ recorded.session.replay = recorded.session.inputs.entries ∨
      recorded.session.verificationActive = true ∧ recorded.session.replay = recorded.session.verificationShadow ∧
        (∀ entry ∈ recorded.session.inputs.entries, entry ∈ recorded.session.verificationShadow) ∨
      recorded.session.verificationActive = true ∧ ∃ entry,
        recorded.session.replay = recorded.session.verificationShadow ++ [entry] ∧
        recorded.sinceBaseline = recorded.session.verificationShadow ++ [entry] ∧
        entry ∈ recorded.session.inputs.entries ∧ entry ∉ recorded.session.verificationShadow ∧
        Refused recorded.session entry := by
  obtain ⟨hinc, hmem⟩ := h.replay_spec
  have hall := h.numbered.increasing
  by_cases hon : recorded.session.verificationActive
  · obtain ⟨hle, hsince⟩ := h.active hon
    have hin : ∀ entry ∈ recorded.session.inputs.entries, entry ∈ recorded.sinceBaseline := by
      intro entry he
      obtain ⟨hacc, hlt⟩ := (h.mem_entries entry).1 he
      exact List.mem_filter.2 ⟨hacc, decide_eq_true (by omega)⟩
    have hshadow (hsub : ∀ entry ∈ recorded.session.inputs.entries, entry ∈ recorded.session.verificationShadow)
        (hs : Increasing recorded.session.verificationShadow) :
        recorded.session.replay = recorded.session.verificationShadow := by
      refine hinc.eq_of_mem_iff hs fun entry => (hmem entry).trans ?_
      exact ⟨fun he => he.elim id (hsub entry), Or.inl⟩
    rcases hsince with hsince | ⟨last, hsince, hrefused⟩
    · have hsub : ∀ entry ∈ recorded.session.inputs.entries, entry ∈ recorded.session.verificationShadow := by
        rw [← hsince]
        exact hin
      exact Or.inr (Or.inl ⟨hon, hshadow hsub (hsince ▸ h.increasing_since), hsub⟩)
    · have hsplit := h.increasing_since
      rw [hsince] at hsplit
      obtain ⟨hs, -, hlt⟩ := List.pairwise_append.1 hsplit
      have hnew : last ∉ recorded.session.verificationShadow := by
        intro hlast
        have := hlt last hlast last (List.mem_singleton_self _)
        omega
      by_cases hlast : last ∈ recorded.session.inputs.entries
      · refine Or.inr (Or.inr ⟨hon, last, ?_, hsince, hlast, hnew, hrefused⟩)
        refine hinc.eq_of_mem_iff hsplit fun entry => (hmem entry).trans ?_
        rw [List.mem_append, List.mem_singleton]
        constructor
        · rintro (he | he)
          · exact Or.inl he
          · have := hin entry he
            rwa [hsince, List.mem_append, List.mem_singleton] at this
        · rintro (he | rfl)
          · exact Or.inl he
          · exact Or.inr hlast
      · have hsub : ∀ entry ∈ recorded.session.inputs.entries, entry ∈ recorded.session.verificationShadow := by
          intro entry he
          have hmem' := hin entry he
          rw [hsince, List.mem_append, List.mem_singleton] at hmem'
          rcases hmem' with hmem' | rfl
          · exact hmem'
          · exact absurd he hlast
        exact Or.inr (Or.inl ⟨hon, hshadow hsub hs, hsub⟩)
  · have hoff : recorded.session.verificationActive = false := by simpa using hon
    refine Or.inl ⟨hoff, hinc.eq_of_mem_iff recorded.session.inputs.numbered.increasing fun entry => ?_⟩
    rw [hmem, h.inactive hoff]
    simp

private theorem not_full {replay loaded later : List BufferedGatewayInput} {entry : BufferedGatewayInput}
    (hsplit : replay = loaded ++ entry :: later) (hlength : replay.length ≤ limits.maxMessages)
    (hbytes : totalBytes replay ≤ limits.maxBytes) :
    ¬(limits.maxMessages < loaded.length + 1 ∨ limits.maxBytes < totalBytes loaded + entry.bytes) := by
  subst hsplit
  rw [List.length_append, List.length_cons] at hlength
  rw [totalBytes_append, totalBytes_cons] at hbytes
  omega

private theorem Retained.replay_fits {recorded : RecordedSession limits} (h : Retained recorded)
    (hsub : recorded.session.verificationActive = true →
      ∀ entry ∈ recorded.session.inputs.entries, entry ∈ recorded.session.verificationShadow) :
    recorded.session.replay.length ≤ limits.maxMessages ∧ totalBytes recorded.session.replay ≤ limits.maxBytes := by
  rcases h.replay_cases with ⟨-, heq⟩ | ⟨-, heq, -⟩ | ⟨hon, entry, -, -, hentry, hnew, -⟩
  · have hbytes := recorded.session.inputs.bytes_le
    rw [recorded.session.inputs.bytes_eq] at hbytes
    rw [heq]
    exact ⟨recorded.session.inputs.length_le, hbytes⟩
  · have hbytes := h.bytes_le
    rw [h.bytes] at hbytes
    rw [heq]
    exact ⟨h.length_le, hbytes⟩
  · exact absurd (hsub hon entry hentry) hnew

/-- With a refused input in the replay the loading fails there. -/
private theorem full_of_refused {session : GatewaySession limits} {loaded rest : List BufferedGatewayInput}
    {entry : BufferedGatewayInput} (hrefused : Refused session entry)
    (hbytes : session.verificationShadowBytes = totalBytes session.verificationShadow)
    (hlength : session.verificationShadow.length ≤ limits.maxMessages)
    (hmax : session.verificationShadowBytes ≤ limits.maxBytes)
    (hsplit : session.verificationShadow ++ [entry] = loaded ++ rest)
    (hbound : loaded = [] ∨ loaded.length ≤ limits.maxMessages ∧ totalBytes loaded ≤ limits.maxBytes)
    (hrest : rest = [] ∨ ∃ next later, rest = next :: later ∧
      (limits.maxMessages < loaded.length + 1 ∨ limits.maxBytes < totalBytes loaded + next.bytes)) :
    loaded = session.verificationShadow ∧ rest = [entry] := by
  obtain ⟨-, hfull⟩ := hrefused
  rcases hrest with rfl | ⟨next, later, rfl, hnext⟩
  · rw [List.append_nil] at hsplit
    subst hsplit
    rcases hbound with hnil | ⟨hl, hb⟩
    · exact absurd hnil (by simp)
    · rw [List.length_append, List.length_singleton] at hl
      rw [totalBytes_append, totalBytes_cons, totalBytes_nil] at hb
      omega
  · rcases List.eq_nil_or_concat later with rfl | ⟨front, last, rfl⟩
    · obtain ⟨rfl, heq⟩ := List.append_inj' hsplit rfl
      exact ⟨rfl, heq.symm⟩
    · -- then the loading had failed within the shadow
      have hsplit' : session.verificationShadow ++ [entry] = (loaded ++ next :: front) ++ [last] := by
        rw [hsplit, List.concat_eq_append]
        simp
      obtain ⟨hshadow, -⟩ := List.append_inj' hsplit' rfl
      exact absurd hnext (not_full hshadow hlength (by rw [← hbytes]; exact hmax))

private theorem Retained.commitPrepared {recorded : RecordedSession limits} (h : Retained recorded)
    (route : GatewayRoomRoute) : Retained (recorded.observe (recorded.session.commitPrepared route).1) := by
  by_cases hthrough : recorded.session.GoesThrough route
  · rcases commitPrepared_inputs hthrough h.replay_spec.1 with ⟨-, -, -, hsame⟩ |
        ⟨-, hinputs, hstopped, loaded, rest, hsplit, hshadow, hbytes, hbound, hresult⟩
    · exact h.acknowledge recorded.session.inputs rfl (le_refl _) ⟨[], rfl⟩ hsame
    · have hobserved : (recorded.observe (recorded.session.commitPrepared route).1).session =
        (recorded.session.commitPrepared route).1 := rfl
      have haccepted : (recorded.observe (recorded.session.commitPrepared route).1).accepted = recorded.accepted :=
        observe_of_nextSequence (by rw [hinputs])
      have hnumbered : Numbered 0 (recorded.observe (recorded.session.commitPrepared route).1).accepted := by
        rw [haccepted]
        exact h.numbered
      have hlength : (recorded.observe (recorded.session.commitPrepared route).1).accepted.length + 1 =
          (recorded.session.commitPrepared route).1.inputs.nextSequence := by
        rw [haccepted, hinputs]
        exact h.length
      have hentries : ∃ gone, (recorded.observe (recorded.session.commitPrepared route).1).accepted =
          gone ++ (recorded.session.commitPrepared route).1.inputs.entries := by
        rw [haccepted, hinputs]
        exact h.entries
      rcases h.replay_cases with ⟨hoff, heq⟩ | ⟨hon, heq, hsub⟩ | ⟨hon, entry, heq, hsince, hentry, hnew, hrefused⟩
      · -- verification begins: the baseline is what is acknowledged now
        obtain ⟨hlen, htotal⟩ := h.replay_fits fun hon => by rw [hoff] at hon; cases hon
        rcases hresult with ⟨rfl, -, hactive, -⟩ | ⟨entry, later, message, rfl, -, -, hfull⟩
        · rw [List.append_nil] at hsplit
          subst hsplit
          have hbaseline : (recorded.observe (recorded.session.commitPrepared route).1).baseline =
              recorded.session.inputs.acknowledgedSequence := by
            unfold observe
            dsimp only
            rw [hactive, hoff]
            rfl
          refine ⟨hnumbered, hlength, hentries, fun h' => ?_, ?_, ?_, ?_, fun _ => ⟨?_, Or.inl ?_⟩⟩
          · rw [hobserved, hactive] at h'
            cases h'
          · rw [hobserved, hshadow, hbytes]
          · rw [hobserved, hshadow]
            exact hlen
          · rw [hobserved, hbytes]
            exact htotal
          · rw [hbaseline, hobserved, hinputs]
          · unfold sinceBaseline
            rw [haccepted, hbaseline, hobserved, hshadow, heq]
            refine (h.numbered.increasing.filter _).eq_of_mem_iff recorded.session.inputs.numbered.increasing
              fun other => ?_
            rw [h.mem_entries, List.mem_filter, decide_eq_true_eq]
        · exact absurd hfull (not_full hsplit hlen htotal)
      · obtain ⟨hlen, htotal⟩ := h.replay_fits fun _ => hsub
        rcases hresult with ⟨rfl, -, hactive, -⟩ | ⟨entry, later, message, rfl, -, -, hfull⟩
        · rw [List.append_nil] at hsplit
          subst hsplit
          refine h.acknowledge recorded.session.inputs rfl (le_refl _) ⟨[], rfl⟩
            ⟨hinputs, ?_, ?_, ?_, fun hs => by rw [hstopped]; exact hs⟩
          · rw [hshadow, heq]
          · rw [hbytes, heq, h.bytes]
          · rw [hactive, hon]
        · exact absurd hfull (not_full hsplit hlen htotal)
      · have hrest : rest = [] ∨ ∃ next later, rest = next :: later ∧
            (limits.maxMessages < loaded.length + 1 ∨ limits.maxBytes < totalBytes loaded + next.bytes) := by
          rcases hresult with ⟨hnil, -⟩ | ⟨next, later, message, hcons, -, -, hfull⟩
          · exact Or.inl hnil
          · exact Or.inr ⟨next, later, hcons, hfull⟩
        obtain ⟨rfl, rfl⟩ := full_of_refused hrefused h.bytes h.length_le h.bytes_le (heq ▸ hsplit) hbound hrest
        have hactive : (recorded.session.commitPrepared route).1.verificationActive =
            recorded.session.verificationActive := by
          rcases hresult with ⟨hnil, -⟩ | ⟨-, -, -, -, -, hactive, -⟩
          · cases hnil
          · exact hactive
        exact h.acknowledge recorded.session.inputs rfl (le_refl _) ⟨[], rfl⟩
          ⟨hinputs, hshadow, by rw [hbytes, h.bytes], hactive, fun hs => by rw [hstopped]; exact hs⟩
  · rw [commitPrepared_of_not hthrough]
    exact h.acknowledge recorded.session.inputs rfl (le_refl _) ⟨[], rfl⟩ (.refl _)

/-- Every event keeps the record. -/
theorem Retained.step {codec : GatewayJoinCodec} {recorded next : RecordedSession limits} {event : GatewaySessionEvent}
    (h : Retained recorded) (hs : recorded.step codec event = some next) : Retained next := by
  have hsame {session : GatewaySession limits} (hsame : SameInputs recorded.session session) :
      Retained (recorded.observe session) :=
    h.acknowledge recorded.session.inputs rfl (le_refl _) ⟨[], rfl⟩ hsame
  obtain ⟨session, hsession, rfl⟩ := Option.map_eq_some_iff.1 hs
  cases event with
  | socket event =>
    rcases socketStep_inputs hsession with hquiet | ⟨sequence, hack⟩ | ⟨hstop, payload, rfl⟩
    · exact hsame hquiet
    · obtain ⟨hnext, hle, -, gone, hgone, -⟩ := recorded.session.inputs.acknowledge_spec sequence
      exact h.acknowledge _ hnext hle ⟨gone, hgone⟩ hack
    · exact h.receiveInput hstop payload
  | prepare route =>
    cases hsession
    exact hsame (.prepare ..)
  | freeze =>
    cases hsession
    exact hsame ⟨rfl, rfl, rfl, rfl, id⟩
  | commitPrepared route =>
    cases hsession
    exact h.commitPrepared route
  | abortPrepared =>
    cases hsession
    exact hsame (.abortPrepared ..)
  | finalizeVerification =>
    cases hsession
    exact h.finalize
  | stop =>
    cases hsession
    exact hsame (.stop _)

/-! ### The replay -/

/-- A commit that goes through succeeds, and what it loads, in increasing order, is the unacknowledged inputs together
with the retained ones while verification is active.  In an open session the retained inputs are all that were taken
since the baseline; the unacknowledged ones are those taken behind the acknowledged sequence.  An open socket is sent
just these inputs. -/
def ReplaysUnion (recorded : RecordedSession limits) (event : GatewaySessionEvent) : Prop :=
  ∀ route, event = .commitPrepared route → recorded.session.GoesThrough route →
    let committed := recorded.session.commitPrepared route
    let loaded := committed.1.verificationShadow
    committed.2 = .ok loaded.length ∧ Increasing loaded ∧
      (∀ entry, entry ∈ loaded ↔ entry ∈ recorded.session.inputs.entries ∨
        recorded.session.verificationActive = true ∧ entry ∈ recorded.session.verificationShadow) ∧
      (∀ entry, entry ∈ recorded.session.inputs.entries ↔
        entry ∈ recorded.accepted ∧ recorded.session.inputs.acknowledgedSequence < entry.sequence) ∧
      (recorded.session.verificationActive = true → recorded.session.stopped = false →
        recorded.session.verificationShadow = recorded.sinceBaseline) ∧
      ∃ candidate connection, recorded.session.preparedUpstream = some candidate ∧
        committed.1.currentUpstream = some connection ∧
        (candidate.readyState = .opened → connection.sent.map GatewayInputFrame.inputSequence =
          candidate.sent.map GatewayInputFrame.inputSequence ++ loaded.map sequence)

/-- At a commit that goes through, the epoch fits the wire or there is nothing to replay, and while verification is
active no unacknowledged input has been refused by the shadow. -/
def Replayable (recorded : RecordedSession limits) (event : GatewaySessionEvent) : Prop :=
  ∀ route, event = .commitPrepared route → recorded.session.GoesThrough route →
    (route.epoch ≤ 0xffffffff ∨
      recorded.session.inputs.entries = [] ∧ recorded.session.verificationShadow = []) ∧
    (recorded.session.verificationActive = true →
      ∀ entry ∈ recorded.session.inputs.entries, entry ∈ recorded.session.verificationShadow)

private theorem Retained.replay_eq_nil {recorded : RecordedSession limits} (h : Retained recorded) :
    recorded.session.replay = [] ↔
      recorded.session.inputs.entries = [] ∧ recorded.session.verificationShadow = [] := by
  obtain ⟨-, hmem⟩ := h.replay_spec
  constructor
  · intro hnil
    constructor
    · exact List.eq_nil_iff_forall_not_mem.2 fun entry he => by simpa [hnil] using (hmem entry).2 (Or.inr he)
    · exact List.eq_nil_iff_forall_not_mem.2 fun entry he => by simpa [hnil] using (hmem entry).2 (Or.inl he)
  · rintro ⟨hentries, hshadow⟩
    refine List.eq_nil_iff_forall_not_mem.2 fun entry he => ?_
    rcases (hmem entry).1 he with he | he
    · rw [hshadow] at he
      cases he
    · rw [hentries] at he
      cases he

private theorem Retained.replaysUnion_iff {recorded : RecordedSession limits} (h : Retained recorded)
    (event : GatewaySessionEvent) : ReplaysUnion recorded event ↔ Replayable recorded event := by
  constructor
  · intro hunion route hevent hthrough
    obtain ⟨hok, -⟩ := hunion route hevent hthrough
    rcases commitPrepared_inputs hthrough h.replay_spec.1 with ⟨-, -, ⟨message, herror⟩, -⟩ |
        ⟨hfits, -, -, loaded, rest, hsplit, -, -, hbound, hresult⟩
    · rw [herror] at hok
      cases hok
    · refine ⟨hfits.imp id h.replay_eq_nil.1, fun hon entry hentry => ?_⟩
      rcases h.replay_cases with ⟨hoff, -⟩ | ⟨-, -, hsub⟩ | ⟨-, last, heq, -, -, -, -, hfull⟩
      · rw [hoff] at hon
        cases hon
      · exact hsub entry hentry
      · -- the refused input would have overflowed the shadow
        rcases hresult with ⟨rfl, -⟩ | ⟨_, _, message, -, herror, -⟩
        · rw [List.append_nil] at hsplit
          rcases hbound with rfl | ⟨hl, hb⟩
          · rw [heq] at hsplit
            exact absurd hsplit (by simp)
          · rw [← hsplit, heq, List.length_append, List.length_singleton] at hl
            rw [← hsplit, heq, totalBytes_append, totalBytes_cons, totalBytes_nil] at hb
            have hbytes := h.bytes
            omega
        · rw [herror] at hok
          cases hok
  · intro hable route hevent hthrough
    obtain ⟨hfits, hsub⟩ := hable route hevent hthrough
    obtain ⟨hinc, hmem⟩ := h.replay_spec
    obtain ⟨hlen, htotal⟩ := h.replay_fits hsub
    rcases commitPrepared_inputs hthrough hinc with ⟨hlt, hne, -⟩ | ⟨-, -, -, loaded, rest, hsplit, hshadow, -, -, hresult⟩
    · rcases hfits with hle | hnil
      · omega
      · exact absurd (h.replay_eq_nil.2 hnil) hne
    · rcases hresult with ⟨rfl, hok, -, candidate, connection, hcand, hconn, hsent⟩ | ⟨_, _, _, rfl, -, -, hfull⟩
      · rw [List.append_nil] at hsplit
        subst hsplit
        dsimp only
        rw [hshadow]
        refine ⟨hok, hinc, fun entry => (hmem entry).trans ?_, h.mem_entries, fun hon hopen => ?_,
          candidate, connection, hcand, hconn, hsent⟩
        · constructor
          · rintro (he | he)
            · by_cases hon : recorded.session.verificationActive
              · exact Or.inr ⟨hon, he⟩
              · rw [h.inactive (by simpa using hon)] at he
                cases he
            · exact Or.inl he
          · rintro (he | ⟨-, he⟩)
            · exact Or.inr he
            · exact Or.inl he
        · rcases (h.active hon).2 with hall | ⟨_, -, hstopped, -⟩
          · exact hall.symm
          · rw [hopen] at hstopped
            cases hstopped
      · exact absurd hfull (not_full hsplit hlen htotal)

/-- The record of a session that has been started. -/
def start (route : GatewayRoomRoute) : RecordedSession limits where
  session := .start route

theorem start_retained (route : GatewayRoomRoute) : Retained (start route : RecordedSession limits) where
  numbered := rfl
  length := rfl
  entries := ⟨[], rfl⟩
  inactive _ := rfl
  bytes := rfl
  length_le := Nat.zero_le _
  bytes_le := Nat.zero_le _
  active h := by cases h

/-- Every commit of a run replays the union just when every commit of the run is replayable. -/
theorem replays_union_iff (codec : GatewayJoinCodec) (route : GatewayRoomRoute) (events : List GatewaySessionEvent) :
    Machine.EachStep (RecordedSession.step codec) ReplaysUnion (start route : RecordedSession limits) events ↔
      Machine.EachStep (RecordedSession.step codec) Replayable (start route : RecordedSession limits) events :=
  Machine.eachStep_congr (fun _ _ _ h hs => h.step hs) (fun _ event h => h.replaysUnion_iff event)
    (start_retained route) events

/-! ### A commit that overflows -/

private def oneMessage : GatewayLimits where
  maxMessages := 1
  maxBytes := 1024
  one_le := le_refl _
  kilobyte_le := le_refl _

/-- A join message starts with a one, and a resumed one is the same. -/
private def plainCodec : GatewayJoinCodec where
  readGatewayJoin payload := .ok (if payload.head? = some 1 then some "token" else none)
  writeGatewayJoin join _ := .ok join

private def toEpoch (endpoint : String) (epoch : Nat) : GatewayRoomRoute :=
  { roomId := "room-1", endpoint, epoch, revision := none }

private def argument (endpoint : String) (epoch : Nat) : RouteArgument :=
  { roomId := "room-1", endpoint, epoch := .ofNat epoch }

/-- A second cutover begins before verification is finalized; while its match is looked for, an input overflows the
shadow. -/
private def overflowWhilePreparing : List GatewaySessionEvent :=
  [.socket (.receive [1] true), .socket (.opened 0),
    .freeze, .prepare (argument "http://b" 2), .socket (.matchFound 0 "t"), .socket (.opened 1),
    .socket (.frame 1 (.frame (.output 2 0 []))), .commitPrepared (toEpoch "http://b" 2),
    .socket (.receive [3] true), .socket (.frame 1 (.frame (.ack 2 1 0))),
    .freeze, .prepare (argument "http://c" 3), .socket (.receive [3] true),
    .socket (.matchFound 1 "t"), .socket (.opened 2), .socket (.frame 2 (.frame (.output 3 0 []))),
    .commitPrepared (toEpoch "http://c" 3)]

/-- A commit that goes through does not fail. -/
private def CommitSucceeds {limits : GatewayLimits} (recorded : RecordedSession limits) : GatewaySessionEvent → Bool
  | .commitPrepared route =>
    if recorded.session.boundTo route.endpoint (.ofNat route.epoch) then true
    else
      match recorded.session.preparedUpstream, (recorded.session.commitPrepared route).2 with
      | some candidate, .error _ =>
        !(candidate.epoch.strictEq (.ofNat route.epoch) && decide (candidate.endpoint = route.endpoint))
      | _, _ => true
  | _ => true

private theorem ReplaysUnion.commitSucceeds {limits : GatewayLimits} {recorded : RecordedSession limits}
    {event : GatewaySessionEvent} (h : ReplaysUnion recorded event) : CommitSucceeds recorded event = true := by
  unfold CommitSucceeds
  split
  · rename_i route
    split
    · rfl
    · rename_i hbound
      split
      · rename_i candidate message hcandidate herror
        by_contra hmatch
        have hthrough : recorded.session.GoesThrough route :=
          ⟨by simpa using hbound, candidate, hcandidate, by simpa using hmatch⟩
        rw [(h route rfl hthrough).1] at herror
        cases herror
      · rfl
  · rfl

/-- The commit switches the current upstream, and then the loading fails. -/
theorem overflows_after_switch : ¬∀ (limits : GatewayLimits) (codec : GatewayJoinCodec) (route : GatewayRoomRoute)
    (events : List GatewaySessionEvent), Machine.EachStep (RecordedSession.step codec) ReplaysUnion
      (start route : RecordedSession limits) events := by
  intro h
  have hrun := h oneMessage plainCodec (toEpoch "http://a" 1) overflowWhilePreparing
  exact absurd (hrun.mono fun _ _ => ReplaysUnion.commitSucceeds) (by decide +kernel)

end RecordedSession

end Opsia
