import Opsia.Gateway.Session
import Opsia.Machine

/-!
# The current upstream of a session

A session that is neither stopped nor frozen should have a current upstream that is open or connecting, and should
count as sent only what was handed to an open socket.  This holds throughout every run whose commits find an open
candidate with its listeners, whose aborts find an upstream that the flush reaches, and whose committed candidates send
well-formed frames (`no_zombie`).  A `close` that comes while the session is frozen is ignored, so an abort behind it
leaves a session on a closed socket.
-/

namespace Opsia

open Json BufferedGatewayInput

namespace UpstreamConnection

theorem close_cases (upstream : UpstreamConnection) :
    upstream.close = { upstream with readyState := upstream.close.readyState } ∧
      upstream.close.readyState ≠ .connecting ∧ upstream.close.readyState ≠ .opened := by
  unfold close
  split
  · exact ⟨rfl, by simp, by simp⟩
  · exact ⟨rfl, by simp, by simp⟩
  · rename_i h
    exact ⟨rfl, by simp [h], by simp [h]⟩
  · rename_i h
    exact ⟨rfl, by simp [h], by simp [h]⟩

/-- A connection whose wait for the socket is over: an open one, and a committed one, which has its listeners too. -/
structure Settled (upstream : UpstreamConnection) : Prop where
  opened : upstream.readyState = .opened → upstream.phase ≠ .opening
  committed : ∀ candidate, upstream.candidate = some candidate → candidate.committed = true →
    upstream.phase ≠ .opening ∧ candidate.listening = true

/-- The second connection is the first one later on: nothing that was sent is taken back. -/
structure Follows (first second : UpstreamConnection) : Prop where
  epoch : second.epoch = first.epoch
  through : second.sentThroughSequence = first.sentThroughSequence
  sent : ∀ frame ∈ first.sent, frame ∈ second.sent
  candidate : ∀ later, second.candidate = some later →
    ∃ candidate, first.candidate = some candidate ∧ later.committed = candidate.committed

theorem Follows.refl (upstream : UpstreamConnection) : Follows upstream upstream :=
  ⟨rfl, rfl, fun _ h => h, fun later h => ⟨later, h, rfl⟩⟩

theorem follows_close (upstream : UpstreamConnection) : Follows upstream upstream.close := by
  obtain ⟨heq, -⟩ := upstream.close_cases
  rw [heq]
  exact ⟨rfl, rfl, fun _ h => h, fun later h => ⟨later, h, rfl⟩⟩

theorem Settled.close {upstream : UpstreamConnection} (h : Settled upstream) : Settled upstream.close := by
  obtain ⟨heq, -, hopened⟩ := upstream.close_cases
  refine ⟨fun hopen => absurd hopen hopened, ?_⟩
  rw [heq]
  exact h.committed

theorem Settled.settle {upstream : UpstreamConnection} (h : Settled upstream) {phase : UpstreamPhase}
    (hphase : phase ≠ .opening) : Settled (upstream.settle phase) := by
  unfold UpstreamConnection.settle
  split
  · exact ⟨fun _ => hphase, fun candidate hcandidate hcommitted => ⟨hphase, (h.committed candidate hcandidate hcommitted).2⟩⟩
  · exact h

theorem follows_settle (upstream : UpstreamConnection) (phase : UpstreamPhase) :
    Follows upstream (upstream.settle phase) ∧ (upstream.settle phase).readyState = upstream.readyState ∧
      (upstream.settle phase).candidate = upstream.candidate := by
  unfold UpstreamConnection.settle
  split
  · exact ⟨⟨rfl, rfl, fun _ h => h, fun later h => ⟨later, h, rfl⟩⟩, rfl, rfl⟩
  · exact ⟨.refl upstream, rfl, rfl⟩

end UpstreamConnection

open UpstreamConnection

namespace GatewaySession

variable {limits : GatewayLimits}

/-- The input went out through the socket of some connection while it was open. -/
def Handed (session : GatewaySession limits) (sequence : Nat) : Prop :=
  ∃ connection ∈ session.upstreams, ∃ frame ∈ connection.sent, frame.inputSequence = sequence

/-- All inputs up to a number have been handed to an open socket. -/
def HandedThrough (session : GatewaySession limits) (last : Nat) : Prop :=
  ∀ sequence ≤ last, 1 ≤ sequence → session.Handed sequence

theorem handed_iff {session : GatewaySession limits} {sequence : Nat} : session.Handed sequence ↔
    ∃ i connection, session.upstream i = some connection ∧ ∃ frame ∈ connection.sent, frame.inputSequence = sequence := by
  constructor
  · rintro ⟨connection, hin, hframe⟩
    obtain ⟨i, hi⟩ := List.mem_iff_getElem?.1 hin
    exact ⟨i, connection, hi, hframe⟩
  · rintro ⟨i, connection, hi, hframe⟩
    exact ⟨connection, List.mem_iff_getElem?.2 ⟨i, hi⟩, hframe⟩

theorem HandedThrough.mono {session : GatewaySession limits} {first second : Nat} (h : session.HandedThrough second)
    (hle : first ≤ second) : session.HandedThrough first := fun sequence hlast => h sequence (hlast.trans hle)

/-- A session that is neither stopped nor frozen has a current upstream that is open or connecting, and no connection
counts as sent an input that was not handed to an open socket. -/
structure NoZombie (session : GatewaySession limits) : Prop where
  alive : session.stopped = false → session.frozen = false →
    ∃ connection, session.currentUpstream = some connection ∧
      (connection.readyState = .connecting ∨ connection.readyState = .opened)
  handed : ∀ i connection, session.upstream i = some connection → session.HandedThrough connection.sentThroughSequence

/-- What holds also between the steps of a method. -/
structure Sound (session : GatewaySession limits) : Prop where
  exists_current : session.stopped = false → ∃ i connection, session.current = some i ∧ session.upstream i = some connection
  in_range : ∀ i, session.current = some i → ∃ connection, session.upstream i = some connection
  handed : ∀ i connection, session.upstream i = some connection → session.HandedThrough connection.sentThroughSequence
  acknowledged : session.HandedThrough session.inputs.acknowledgedSequence
  shadow : ∀ entry ∈ session.verificationShadow, entry.sequence < session.inputs.nextSequence
  settled : ∀ i connection, session.upstream i = some connection → connection.Settled
  current : ∀ i connection candidate, session.current = some i → session.upstream i = some connection →
    connection.candidate = some candidate → candidate.committed = true
  prepared : ∀ i, session.prepared = some i → (∃ connection, session.upstream i = some connection) ∧ session.current ≠ some i

/-- The invariant: the session is sound, its current upstream is alive unless it is frozen, and nothing is held back
behind an open one. -/
structure Live (session : GatewaySession limits) : Prop extends Sound session where
  alive : session.stopped = false → session.frozen = false → ∀ i connection, session.current = some i →
    session.upstream i = some connection → connection.readyState = .connecting ∨ connection.readyState = .opened
  flushed : session.stopped = false → session.frozen = false → ∀ i connection, session.current = some i →
    session.upstream i = some connection → connection.readyState = .opened → safeUint32 connection.epoch ≠ none →
    session.HandedThrough session.inputs.latestSequence

theorem Live.noZombie {session : GatewaySession limits} (h : Live session) : NoZombie session where
  alive hstop hfrozen := by
    obtain ⟨i, connection, hi, hconn⟩ := h.exists_current hstop
    refine ⟨connection, ?_, h.alive hstop hfrozen i connection hi hconn⟩
    unfold currentUpstream
    rw [hi]
    exact hconn
  handed := h.handed

/-! ### Lookups -/

theorem upstream_setUpstream (session : GatewaySession limits) {i : Nat} {old : UpstreamConnection}
    (hold : session.upstream i = some old) (connection : UpstreamConnection) (j : Nat) :
    (session.setUpstream i connection).upstream j = if j = i then some connection else session.upstream j := by
  have hi : i < session.upstreams.length := (List.getElem?_eq_some_iff.1 hold).1
  unfold upstream setUpstream
  dsimp only
  rw [List.getElem?_set]
  by_cases hj : i = j
  · subst hj
    rw [if_pos rfl, if_pos hi, if_pos rfl]
  · rw [if_neg hj, if_neg fun h => hj h.symm]

theorem handed_setUpstream {session : GatewaySession limits} {i : Nat} {old connection : UpstreamConnection}
    (hold : session.upstream i = some old) (hsent : ∀ frame ∈ old.sent, frame ∈ connection.sent) {sequence : Nat}
    (h : session.Handed sequence) : (session.setUpstream i connection).Handed sequence := by
  obtain ⟨j, other, hother, frame, hframe, hseq⟩ := handed_iff.1 h
  rw [handed_iff]
  by_cases hj : j = i
  · subst hj
    rw [hold] at hother
    cases hother
    exact ⟨j, connection, by rw [upstream_setUpstream session hold, if_pos rfl], frame, hsent frame hframe, hseq⟩
  · exact ⟨j, other, by rw [upstream_setUpstream session hold, if_neg hj]; exact hother, frame, hframe, hseq⟩

/-- A connection goes on, and its sent-through sequence stays or is one that was handed. -/
theorem Sound.setUpstream {session : GatewaySession limits} (h : Sound session) {i : Nat}
    {old connection : UpstreamConnection} (hold : session.upstream i = some old)
    (hsent : ∀ frame ∈ old.sent, frame ∈ connection.sent)
    (hthrough : (session.setUpstream i connection).HandedThrough connection.sentThroughSequence)
    (hcandidate : ∀ later, connection.candidate = some later →
      ∃ candidate, old.candidate = some candidate ∧ later.committed = candidate.committed)
    (hsettled : connection.Settled) : Sound (session.setUpstream i connection) where
  exists_current hstop := by
    obtain ⟨j, other, hj, hother⟩ := h.exists_current hstop
    by_cases hji : j = i
    · exact ⟨j, connection, hj, by rw [upstream_setUpstream session hold, if_pos hji]⟩
    · exact ⟨j, other, hj, by rw [upstream_setUpstream session hold, if_neg hji]; exact hother⟩
  in_range j hj := by
    obtain ⟨other, hother⟩ := h.in_range j hj
    by_cases hji : j = i
    · exact ⟨connection, by rw [upstream_setUpstream session hold, if_pos hji]⟩
    · exact ⟨other, by rw [upstream_setUpstream session hold, if_neg hji]; exact hother⟩
  handed j other hother := by
    rw [upstream_setUpstream session hold] at hother
    split at hother
    · cases hother
      exact hthrough
    · exact fun sequence hle hpos => handed_setUpstream hold hsent (h.handed j other hother sequence hle hpos)
  acknowledged sequence hle hpos := handed_setUpstream hold hsent (h.acknowledged sequence hle hpos)
  shadow := h.shadow
  settled j other hother := by
    rw [upstream_setUpstream session hold] at hother
    split at hother
    · cases hother
      exact hsettled
    · exact h.settled j other hother
  current j other candidate hj hother hcand := by
    rw [upstream_setUpstream session hold] at hother
    split at hother
    · rename_i hji
      cases hother
      obtain ⟨earlier, hearlier, heq⟩ := hcandidate candidate hcand
      rw [heq]
      exact h.current i old earlier (by rw [← hji]; exact hj) hold hearlier
    · exact h.current j other candidate hj hother hcand
  prepared j hj := by
    obtain ⟨⟨other, hother⟩, hne⟩ := h.prepared j hj
    refine ⟨?_, hne⟩
    by_cases hji : j = i
    · exact ⟨connection, by rw [upstream_setUpstream session hold, if_pos hji]⟩
    · exact ⟨other, by rw [upstream_setUpstream session hold, if_neg hji]; exact hother⟩

theorem Sound.follow {session : GatewaySession limits} (h : Sound session) {i : Nat}
    {old connection : UpstreamConnection} (hold : session.upstream i = some old) (hfollows : Follows old connection)
    (hsettled : connection.Settled) : Sound (session.setUpstream i connection) := by
  refine h.setUpstream hold hfollows.sent ?_ hfollows.candidate hsettled
  rw [hfollows.through]
  exact fun sequence hle hpos => handed_setUpstream hold hfollows.sent (h.handed i old hold sequence hle hpos)

/-- The same for the invariant: the connection is not the current one, or it is as alive and as open as before. -/
theorem Live.follow {session : GatewaySession limits} (h : Live session) {i : Nat}
    {old connection : UpstreamConnection} (hold : session.upstream i = some old) (hfollows : Follows old connection)
    (hsettled : connection.Settled)
    (hcurrent : session.stopped = false → session.frozen = false → session.current = some i →
      connection.readyState = old.readyState) : Live (session.setUpstream i connection) where
  toSound := h.toSound.follow hold hfollows hsettled
  alive hstop hfrozen j other hj hother := by
    rw [upstream_setUpstream session hold] at hother
    split at hother
    · rename_i hji
      cases hother
      rw [hcurrent hstop hfrozen (by rw [← hji]; exact hj)]
      exact h.alive hstop hfrozen i old (by rw [← hji]; exact hj) hold
    · exact h.alive hstop hfrozen j other hj hother
  flushed hstop hfrozen j other hj hother hopened hepoch sequence hle hpos := by
    refine handed_setUpstream hold hfollows.sent ?_
    rw [upstream_setUpstream session hold] at hother
    split at hother
    · rename_i hji
      cases hother
      rw [hcurrent hstop hfrozen (by rw [← hji]; exact hj)] at hopened
      rw [hfollows.epoch] at hepoch
      exact h.flushed hstop hfrozen i old (by rw [← hji]; exact hj) hold hopened hepoch sequence hle hpos
    · exact h.flushed hstop hfrozen j other hj hother hopened hepoch sequence hle hpos

/-! ### Stopping -/

private theorem closeUpstream_eq {session : GatewaySession limits} {connection : Option Nat}
    (h : ∀ i, connection = some i → ∃ old, session.upstream i = some old) :
    session.closeUpstream connection = session ∨
      ∃ i old, session.upstream i = some old ∧ session.closeUpstream connection = session.setUpstream i old.close := by
  cases connection with
  | none => exact Or.inl rfl
  | some i =>
    obtain ⟨old, hold⟩ := h i rfl
    refine Or.inr ⟨i, old, hold, ?_⟩
    unfold closeUpstream setUpstream
    dsimp only
    rw [List.modify_eq_set_getElem?, show session.upstreams[i]? = some old from hold]
    rfl

theorem Sound.closeUpstream {session : GatewaySession limits} (h : Sound session) (connection : Option Nat)
    (hconnection : ∀ i, connection = some i → ∃ old, session.upstream i = some old) :
    Sound (session.closeUpstream connection) := by
  rcases closeUpstream_eq hconnection with heq | ⟨i, old, hold, heq⟩
  · rw [heq]
    exact h
  · rw [heq]
    exact h.follow hold (follows_close old) (h.settled i old hold).close

/-- Fields that the invariants do not look at may change. -/
private theorem Sound.congr {session next : GatewaySession limits} (h : Sound session)
    (hupstreams : next.upstreams = session.upstreams)
    (hacked : next.inputs.acknowledgedSequence = session.inputs.acknowledgedSequence)
    (hshadow : ∀ entry ∈ next.verificationShadow, entry.sequence < next.inputs.nextSequence)
    (hcurrent : next.current = session.current)
    (hprepared : next.prepared = session.prepared) (hstopped : next.stopped = session.stopped) : Sound next := by
  have hup (i : Nat) : next.upstream i = session.upstream i := by unfold upstream; rw [hupstreams]
  have hhanded (sequence : Nat) (hs : session.Handed sequence) : next.Handed sequence := by
    unfold Handed
    rw [hupstreams]
    exact hs
  refine ⟨?_, ?_, ?_, ?_, hshadow, ?_, ?_, ?_⟩
  · intro hstop
    rw [hcurrent]
    simp only [hup]
    exact h.exists_current (by rw [← hstopped]; exact hstop)
  · rw [hcurrent]
    simp only [hup]
    exact h.in_range
  · intro i connection hi sequence hle hpos
    rw [hup] at hi
    exact hhanded sequence (h.handed i connection hi sequence hle hpos)
  · rw [hacked]
    exact fun sequence hle hpos => hhanded sequence (h.acknowledged sequence hle hpos)
  · simp only [hup]
    exact h.settled
  · rw [hcurrent]
    simp only [hup]
    exact h.current
  · rw [hprepared, hcurrent]
    simp only [hup]
    exact h.prepared

private theorem Live.congr {session next : GatewaySession limits} (h : Live session)
    (hupstreams : next.upstreams = session.upstreams) (hinputs : next.inputs = session.inputs)
    (hshadow : next.verificationShadow = session.verificationShadow) (hcurrent : next.current = session.current)
    (hprepared : next.prepared = session.prepared) (hstopped : next.stopped = session.stopped)
    (hfrozen : next.frozen = false → session.frozen = false) : Live next := by
  have hup (i : Nat) : next.upstream i = session.upstream i := by unfold upstream; rw [hupstreams]
  refine ⟨h.toSound.congr hupstreams (by rw [hinputs]) (by rw [hinputs, hshadow]; exact h.shadow) hcurrent hprepared
    hstopped, ?_, ?_⟩
  · rw [hcurrent, hstopped]
    simp only [hup]
    exact fun hstop hf => h.alive hstop (hfrozen hf)
  · rw [hcurrent, hstopped, hinputs]
    simp only [hup]
    intro hstop hf i connection hi hconn hopened hepoch sequence hle hpos
    have hhanded := h.flushed hstop (hfrozen hf) i connection hi hconn hopened hepoch sequence hle hpos
    unfold Handed at hhanded ⊢
    rwa [hupstreams]

private theorem Sound.of_stopped {session : GatewaySession limits} (h : Sound session)
    (hstopped : session.stopped = true) : Live session where
  toSound := h
  alive hstop := by
    rw [hstopped] at hstop
    cases hstop
  flushed hstop := by
    rw [hstopped] at hstop
    cases hstop

/-- A sound session that stops keeps the invariant. -/
theorem Sound.stop {session : GatewaySession limits} (h : Sound session) : Live session.stop := by
  unfold GatewaySession.stop
  split
  · rename_i hstopped
    exact h.of_stopped hstopped
  · rename_i hrunning
    have hstop : session.stopped = false := by simpa using hrunning
    obtain ⟨i, old, hi, hold⟩ := h.exists_current hstop
    have hfirst := h.closeUpstream session.current fun j hj => by
      rw [hi] at hj
      cases hj
      exact ⟨old, hold⟩
    have hsecond := hfirst.closeUpstream session.prepared fun j hj => by
      obtain ⟨⟨other, hother⟩, hne⟩ := h.prepared j hj
      refine ⟨other, ?_⟩
      rw [hi] at hne ⊢
      unfold GatewaySession.closeUpstream upstream
      dsimp only
      rw [List.getElem?_modify_ne _ _ (fun hji => hne (by rw [hji]))]
      exact hother
    refine Sound.of_stopped ⟨?_, ?_, hsecond.handed, hsecond.acknowledged, hsecond.shadow, hsecond.settled, ?_, ?_⟩ rfl
    · intro hs
      cases hs
    · intro j hj
      cases hj
    · intro j connection candidate hj
      cases hj
    · intro j hj
      cases hj

/-- An ending that is told to the browser. -/
theorem Sound.end_stop {session : GatewaySession limits} (h : Sound session) (code : Nat) (reason : String) :
    Live (session.endDownstream code reason).stop := by
  have hend : Sound (session.endDownstream code reason) := h.congr rfl rfl h.shadow rfl rfl rfl
  exact hend.stop

/-! ### Sending -/

/-- The inputs are handed up to the last one, if those behind the acknowledged one that were not counted as sent went
out now. -/
private theorem Sound.handedThrough_latest {session : GatewaySession limits} (h : Sound session) {i through : Nat}
    {old connection : UpstreamConnection} (hold : session.upstream i = some old)
    (hsent : ∀ frame ∈ old.sent, frame ∈ connection.sent) (hthrough : session.HandedThrough through)
    (hnew : ∀ entry ∈ session.inputs.entries, through < entry.sequence →
      ∃ frame ∈ connection.sent, frame.inputSequence = entry.sequence) :
    (session.setUpstream i connection).HandedThrough session.inputs.latestSequence := by
  intro sequence hle hpos
  have hnext := session.inputs.next_eq
  unfold BoundedGatewayInputBuffer.latestSequence at hle
  by_cases hacked : sequence ≤ session.inputs.acknowledgedSequence
  · exact handed_setUpstream hold hsent (h.acknowledged sequence hacked hpos)
  · by_cases hcounted : sequence ≤ through
    · exact handed_setUpstream hold hsent (hthrough sequence hcounted hpos)
    · obtain ⟨entry, hentry, rfl⟩ := BoundedGatewayInputBuffer.exists_entry
        (show session.inputs.acknowledgedSequence < sequence by omega) (by omega)
      obtain ⟨frame, hframe, hseq⟩ := hnew entry hentry (by omega)
      exact handed_iff.2 ⟨i, connection, by rw [upstream_setUpstream session hold, if_pos rfl], frame, hframe, hseq⟩

/-- A flush to an open socket hands over what was held back; to another one it must have nothing to send. -/
private theorem Sound.flushInputs {session flushed : GatewaySession limits} (h : Sound session) {i : Nat}
    {old : UpstreamConnection} (hold : session.upstream i = some old)
    (hopen : old.readyState = .opened ∨ session.inputs.replayAfter old.sentThroughSequence = [])
    (hf : session.flushInputs i = .ok flushed) :
    ∃ connection, flushed = session.setUpstream i connection ∧ connection.readyState = old.readyState ∧
      connection.epoch = old.epoch ∧ Sound flushed ∧
      (old.readyState = .opened → flushed.HandedThrough session.inputs.latestSequence) := by
  unfold GatewaySession.flushInputs at hf
  rw [hold] at hf
  dsimp only at hf
  split at hf
  · cases hf
  · rename_i sent hsend
    obtain ⟨frames, rfl, hopened, -⟩ := sendInputs_ok hsend
    cases hf
    have hlatest (through : Nat) : old.readyState = .opened →
        (session.setUpstream i { old with sent := old.sent ++ frames, sentThroughSequence := through }).HandedThrough
          session.inputs.latestSequence := by
      intro ho
      refine h.handedThrough_latest hold (fun frame hframe => List.mem_append_left _ hframe) (h.handed i old hold)
        fun entry hentry hlt => ?_
      have hin : entry ∈ session.inputs.replayAfter old.sentThroughSequence :=
        List.mem_filter.2 ⟨hentry, decide_eq_true hlt⟩
      have hmem := List.mem_map_of_mem (f := sequence) hin
      rw [← (hopened ho).1] at hmem
      obtain ⟨frame, hframe, hseq⟩ := List.mem_map.1 hmem
      exact ⟨frame, List.mem_append_right _ hframe, hseq⟩
    have hsettled := h.settled i old hold
    refine ⟨_, rfl, rfl, rfl, ?_, hlatest _⟩
    refine h.setUpstream hold (fun frame hframe => List.mem_append_left _ hframe) ?_ (fun later hl => ⟨later, hl, rfl⟩)
      ⟨hsettled.opened, hsettled.committed⟩
    cases hlast : (session.inputs.replayAfter old.sentThroughSequence).getLast? with
    | none =>
      exact fun sequence hle hpos => handed_setUpstream hold (fun frame hframe => List.mem_append_left _ hframe)
        (h.handed i old hold sequence hle hpos)
    | some last =>
      have hin := List.mem_of_getLast? hlast
      have hmem := BoundedGatewayInputBuffer.mem_entries (List.mem_filter.1 hin).1
      rcases hopen with ho | hnil
      · refine (hlatest _ ho).mono ?_
        unfold BoundedGatewayInputBuffer.latestSequence
        dsimp only [Option.map_some, Option.getD_some]
        omega
      · rw [hnil] at hin
        cases hin

/-! ### Opening -/

/-- A candidate whose socket has not opened is not the current upstream. -/
private theorem Sound.not_current {session : GatewaySession limits} (h : Sound session) {i : Nat}
    {old : UpstreamConnection} {candidate : PreparedUpstream} (hold : session.upstream i = some old)
    (hphase : old.phase = .opening) (hcandidate : old.candidate = some candidate) : session.current ≠ some i := by
  intro hi
  have hcommitted := h.current i old candidate hi hold hcandidate
  exact ((h.settled i old hold).committed candidate hcandidate hcommitted).1 hphase

private theorem Live.rejectOpening {session : GatewaySession limits} (h : Live session) {i : Nat}
    {old connection : UpstreamConnection} (hold : session.upstream i = some old) (hphase : old.phase = .opening)
    (hfollows : Follows old connection) (hcandidate : connection.candidate = old.candidate) (reason : String) :
    Live (session.rejectOpening i connection reason) := by
  have hfollows' : Follows old { connection with phase := .failed reason } :=
    ⟨hfollows.epoch, hfollows.through, hfollows.sent, hfollows.candidate⟩
  have hsettled : Settled { connection with phase := .failed reason } := by
    refine ⟨fun _ => by simp, fun candidate hcand hcommitted => ⟨by simp, ?_⟩⟩
    exact ((h.settled i old hold).committed candidate (by rw [← hcandidate]; exact hcand) hcommitted).2
  unfold GatewaySession.rejectOpening GatewaySession.startFailed
  dsimp only
  split
  · have hsound := h.toSound.follow hold hfollows' hsettled
    split
    · rename_i hstopped
      exact hsound.of_stopped hstopped
    · exact hsound.end_stop ..
  · rename_i candidate hcand
    refine h.follow hold hfollows' hsettled fun _ _ hi => ?_
    exact absurd hi (h.toSound.not_current hold hphase (by rw [← hcandidate]; exact hcand))

private theorem Live.startOpened {session : GatewaySession limits} (h : Live session) {i : Nat}
    {old : UpstreamConnection} (hold : session.upstream i = some old) (hphase : old.phase = .opening)
    (hcandidate : old.candidate = none) :
    Live (session.startOpened i { old with readyState := .opened, phase := .ready }) := by
  have hopened : Follows old { old with readyState := .opened, phase := .ready } :=
    ⟨rfl, rfl, fun _ hf => hf, fun later hl => ⟨later, hl, rfl⟩⟩
  unfold GatewaySession.startOpened
  dsimp only
  split
  · exact h.rejectOpening hold hphase hopened rfl _
  · rename_i connection hjoined
    -- the join, if it went out
    have hconn : ∃ frames, connection = { old with
        readyState := .opened, phase := .ready, sent := old.sent ++ frames } := by
      split at hjoined
      · cases hjoined
        exact ⟨[], by simp⟩
      · obtain ⟨frames, rfl, -⟩ := sendInput_ok hjoined
        exact ⟨frames, rfl⟩
    obtain ⟨frames, rfl⟩ := hconn
    have hfollows : Follows old { old with readyState := .opened, phase := .ready, sent := old.sent ++ frames } :=
      ⟨rfl, rfl, fun _ hf => List.mem_append_left _ hf, fun later hl => ⟨later, hl, rfl⟩⟩
    split
    · exact h.rejectOpening hold hphase hfollows rfl _
    · rename_i flushed hflush
      have hsound := h.toSound.follow hold hfollows
        ⟨fun _ => by simp, fun candidate hcand => absurd (hcandidate.symm.trans hcand) (by simp)⟩
      have hget := upstream_setUpstream session hold
        { old with readyState := .opened, phase := .ready, sent := old.sent ++ frames }
      obtain ⟨last, rfl, hstate, -, hsound', hlatest⟩ :=
        hsound.flushInputs (by rw [hget, if_pos rfl]) (Or.inl rfl) hflush
      refine ⟨hsound', fun hstop hfrozen j other hj hother => ?_, fun _ _ _ _ _ _ _ _ => hlatest rfl⟩
      rw [upstream_setUpstream _ (by rw [hget, if_pos rfl])] at hother
      split at hother
      · cases hother
        exact Or.inr hstate
      · rename_i hne
        rw [hget, if_neg hne] at hother
        exact h.alive hstop hfrozen j other hj hother

private theorem Live.candidateOpened {session : GatewaySession limits} (h : Live session) (codec : GatewayJoinCodec)
    {i : Nat} {old : UpstreamConnection} {candidate : PreparedUpstream} (hold : session.upstream i = some old)
    (hphase : old.phase = .opening) (hcandidate : old.candidate = some candidate) :
    Live (session.candidateOpened codec i { old with readyState := .opened } candidate) := by
  have hopened : Follows old { old with readyState := .opened } :=
    ⟨rfl, rfl, fun _ hf => hf, fun later hl => ⟨later, hl, rfl⟩⟩
  unfold GatewaySession.candidateOpened
  split
  · exact h.rejectOpening hold hphase hopened rfl _
  · split
    · exact h.rejectOpening hold hphase hopened rfl _
    · rename_i connection hsend
      obtain ⟨frames, rfl, -⟩ := sendInput_ok hsend
      refine h.follow hold ⟨rfl, rfl, fun _ hf => List.mem_append_left _ hf, ?_⟩ ⟨fun _ => by simp, ?_⟩ ?_
      · intro later hl
        cases hl
        exact ⟨candidate, hcandidate, rfl⟩
      · intro later hl _
        cases hl
        exact ⟨by simp, rfl⟩
      · exact fun _ _ hi => absurd hi (h.toSound.not_current hold hphase hcandidate)

private theorem Live.opened {session : GatewaySession limits} (h : Live session) (codec : GatewayJoinCodec)
    {i : Nat} {old : UpstreamConnection} (hold : session.upstream i = some old) (hphase : old.phase = .opening) :
    Live (session.opened codec i old) := by
  unfold GatewaySession.opened
  split
  · rename_i hcandidate
    exact h.startOpened hold hphase hcandidate
  · rename_i candidate hcandidate
    exact h.candidateOpened codec hold hphase hcandidate

/-! ### What the browser sends -/

private theorem retainForRollback_shadow {session retained : GatewaySession limits} {entry : BufferedGatewayInput}
    (h : session.retainForRollback entry = .ok retained) :
    retained = session ∨ ∃ bytes, retained = { session with
      verificationShadow := session.verificationShadow ++ [entry], verificationShadowBytes := bytes } := by
  unfold retainForRollback at h
  split at h
  · cases h
    exact Or.inl rfl
  split at h
  · cases h
  split at h
  · cases h
  cases h
  exact Or.inr ⟨_, rfl⟩

/-- An input that has been taken goes out, unless the session is frozen or its upstream is not open. -/
private theorem Live.sendEntry {session taken : GatewaySession limits} (h : Live session) (entry : BufferedGatewayInput)
    (hsound : Sound taken) (hupstreams : taken.upstreams = session.upstreams) (hcurrent : taken.current = session.current)
    (hstopped : taken.stopped = session.stopped) (hfrozen : taken.frozen = session.frozen)
    (hrunning : session.stopped = false) (hentry : entry.sequence = session.inputs.nextSequence)
    (hnext : taken.inputs.nextSequence = session.inputs.nextSequence + 1) :
    Live (match taken.frozen, taken.current, taken.currentUpstream with
      | false, some i, some connection =>
        if connection.readyState = .opened then
          match connection.sendInput entry.payload entry.sequence taken.clientTick with
          | .error _ => taken.overflow
          | .ok connection => taken.setUpstream i { connection with sentThroughSequence := entry.sequence }
        else taken
      | _, _, _ => taken) := by
  have hup (i : Nat) : taken.upstream i = session.upstream i := by unfold upstream; rw [hupstreams]
  have hlatest : taken.inputs.latestSequence = entry.sequence := by
    unfold BoundedGatewayInputBuffer.latestSequence
    omega
  split
  · rename_i i connection hthawed hi hconn
    have hi' : taken.upstream i = some connection := by
      unfold currentUpstream at hconn
      rw [hi] at hconn
      exact hconn
    split
    · rename_i hopened
      split
      · exact hsound.end_stop ..
      · rename_i sent hsend
        have hfits := fits_of_sendInput hsend
        obtain ⟨frames, rfl, hframes, -⟩ := sendInput_ok hsend
        have hbefore : session.HandedThrough session.inputs.latestSequence :=
          h.flushed hrunning (by rw [← hfrozen]; exact hthawed) i connection (by rw [← hcurrent]; exact hi)
            (by rw [← hup]; exact hi') hopened hfits
        have hall : (taken.setUpstream i
            { connection with sent := connection.sent ++ frames, sentThroughSequence := entry.sequence }).HandedThrough
            entry.sequence := by
          intro sequence hle hpos
          by_cases hnew : sequence = entry.sequence
          · have hmem : sequence ∈ frames.map GatewayInputFrame.inputSequence := by
              rw [(hframes hopened).1, hnew]
              exact List.mem_singleton_self _
            obtain ⟨frame, hframe, hseq⟩ := List.mem_map.1 hmem
            exact handed_iff.2 ⟨i, _, by rw [upstream_setUpstream taken hi', if_pos rfl], frame,
              List.mem_append_right _ hframe, hseq⟩
          · have hhanded := hbefore sequence (by unfold BoundedGatewayInputBuffer.latestSequence; omega) hpos
            refine handed_setUpstream hi' (fun frame hframe => List.mem_append_left _ hframe) ?_
            unfold Handed at hhanded ⊢
            rwa [hupstreams]
        have hsettled := hsound.settled i connection hi'
        refine ⟨hsound.setUpstream hi' (fun frame hframe => List.mem_append_left _ hframe) hall
          (fun later hl => ⟨later, hl, rfl⟩) ⟨hsettled.opened, hsettled.committed⟩, ?_, ?_⟩
        · intro hstop hf j other hj hother
          rw [show (taken.setUpstream i _).current = taken.current from rfl, hi] at hj
          cases hj
          rw [upstream_setUpstream taken hi', if_pos rfl] at hother
          cases hother
          exact Or.inr hopened
        · intro _ _ _ _ _ _ _ _
          rw [show (taken.setUpstream i _).inputs = taken.inputs from rfl, hlatest]
          exact hall
    · rename_i hshut
      refine ⟨hsound, ?_, ?_⟩
      · intro hstop hf j other hj hother
        exact h.alive (by rw [← hstopped]; exact hstop) (by rw [← hfrozen]; exact hf) j other
          (by rw [← hcurrent]; exact hj) (by rw [← hup]; exact hother)
      · intro hstop hf j other hj hother hopened
        rw [hi] at hj
        cases hj
        rw [hi'] at hother
        cases hother
        exact absurd hopened hshut
  · rename_i hnone
    refine ⟨hsound, ?_, ?_⟩
    · intro hstop hf j other hj hother
      exact h.alive (by rw [← hstopped]; exact hstop) (by rw [← hfrozen]; exact hf) j other
        (by rw [← hcurrent]; exact hj) (by rw [← hup]; exact hother)
    · intro hstop hf j other hj hother
      refine absurd ?_ (hnone j other hf hj)
      unfold currentUpstream
      rw [hj]
      exact hother

private theorem Live.receiveInput {session : GatewaySession limits} (h : Live session) (hrunning : session.stopped = false)
    (payload : Payload) : Live (session.receiveInput payload) := by
  unfold GatewaySession.receiveInput
  split
  · exact h.toSound.end_stop ..
  · rename_i entry inputs hpush
    obtain ⟨rfl, -, hacked, hnext⟩ := BoundedGatewayInputBuffer.push_ok hpush
    have hshadow : ∀ e ∈ session.verificationShadow, e.sequence < inputs.nextSequence := by
      intro e he
      have := h.shadow e he
      omega
    have htaken : Sound { session with inputs, clientTick := (session.clientTick + 1) % 4294967296 } :=
      h.toSound.congr rfl hacked hshadow rfl rfl rfl
    dsimp only
    split
    · exact htaken.end_stop ..
    · rename_i retained hretained
      have hcases : retained = { session with inputs, clientTick := (session.clientTick + 1) % 4294967296 } ∨
          ∃ bytes, retained = { session with
            inputs, clientTick := (session.clientTick + 1) % 4294967296
            verificationShadow := session.verificationShadow ++
              [{ sequence := session.inputs.nextSequence, payload }], verificationShadowBytes := bytes } := by
        split at hretained
        · exact retainForRollback_shadow hretained
        · cases hretained
          exact Or.inl rfl
      rcases hcases with rfl | ⟨bytes, rfl⟩
      · exact h.sendEntry ⟨session.inputs.nextSequence, payload⟩ htaken rfl rfl rfl rfl hrunning rfl hnext
      · have hshadow' : ∀ e ∈ session.verificationShadow ++ [⟨session.inputs.nextSequence, payload⟩],
            e.sequence < inputs.nextSequence := by
          intro e he
          rcases List.mem_append.1 he with he | he
          · exact hshadow e he
          · rw [List.mem_singleton.1 he]
            dsimp only
            omega
        have hsound : Sound { session with
            inputs, clientTick := (session.clientTick + 1) % 4294967296
            verificationShadow := session.verificationShadow ++ [⟨session.inputs.nextSequence, payload⟩]
            verificationShadowBytes := bytes } := h.toSound.congr rfl hacked hshadow' rfl rfl rfl
        exact h.sendEntry ⟨session.inputs.nextSequence, payload⟩ hsound rfl rfl rfl rfl hrunning rfl hnext

private theorem Live.receive {session : GatewaySession limits} (h : Live session) (codec : GatewayJoinCodec)
    (payload : Payload) (admitted : Bool) : Live (session.receive codec payload admitted) := by
  unfold GatewaySession.receive
  split
  · exact h
  · rename_i hstopped
    have hrunning : session.stopped = false := by simpa using hstopped
    split
    · split
      · exact h
      · exact h.receiveInput hrunning payload
      · split
        · exact h.toSound.end_stop ..
        · have hjoined : Live { session with initialJoin := some payload } :=
            h.congr rfl rfl rfl rfl rfl rfl id
          dsimp only
          split
          · rename_i i connection hi hconn
            have hi' : session.upstream i = some connection := by
              unfold currentUpstream at hconn
              rw [hi] at hconn
              exact hconn
            split
            · split
              · exact hjoined
              · rename_i sent hsend
                obtain ⟨frames, rfl, -⟩ := sendInput_ok hsend
                have hsettled := h.settled i connection hi'
                exact hjoined.follow hi'
                  ⟨rfl, rfl, fun _ hf => List.mem_append_left _ hf, fun later hl => ⟨later, hl, rfl⟩⟩
                  ⟨hsettled.opened, hsettled.committed⟩ fun _ _ _ => rfl
            · exact hjoined
          · exact hjoined
    · exact h.receiveInput hrunning payload

/-! ### What the sockets do -/

/-- A frame that a connection may send: an acknowledgement, or an output of its epoch. -/
def FrameFits (connection : UpstreamConnection) : DecodedFrame → Prop
  | .frame (.ack ..) => True
  | .frame (.output roomEpoch _ _) => (JsNumber.ofNat roomEpoch).strictEq connection.epoch = true
  | _ => False

/-- An acknowledgement covers only inputs that were handed to an open socket. -/
def AckHanded (session : GatewaySession limits) : DecodedFrame → Prop
  | .frame (.ack _ lastAckInputSequence _) =>
    session.HandedThrough (min lastAckInputSequence session.inputs.latestSequence)
  | _ => True

private theorem Live.acknowledge {session : GatewaySession limits} (h : Live session) {sequence : Nat}
    (hack : session.HandedThrough (min sequence session.inputs.latestSequence)) :
    Live { session with inputs := session.inputs.acknowledge sequence } := by
  obtain ⟨hnext, -, hacked, -⟩ := session.inputs.acknowledge_spec sequence
  have hthrough : session.HandedThrough (session.inputs.acknowledge sequence).acknowledgedSequence := by
    rcases hacked with heq | heq
    · rw [heq]
      exact h.acknowledged
    · rw [heq]
      exact hack
  refine ⟨⟨h.exists_current, h.in_range, h.handed, hthrough, ?_, h.settled, h.current, h.prepared⟩, h.alive, ?_⟩
  · dsimp only
    rw [hnext]
    exact h.shadow
  · unfold BoundedGatewayInputBuffer.latestSequence
    dsimp only
    rw [hnext]
    exact h.flushed

private theorem Live.currentFrame {session : GatewaySession limits} (h : Live session) {i : Nat}
    {connection : UpstreamConnection} {frame : DecodedFrame} (hack : AckHanded session frame) :
    Live (session.currentFrame i connection frame) := by
  unfold GatewaySession.currentFrame
  split
  · exact h
  · split
    · exact h.toSound.end_stop ..
    · exact h.toSound.end_stop ..
    · split
      · exact h.acknowledge hack
      · exact h
    · exact h.toSound.end_stop ..
    · split
      · exact h.congr rfl rfl rfl rfl rfl rfl id
      · exact h.toSound.end_stop ..

private theorem Live.candidateFrame {session : GatewaySession limits} (h : Live session) {i : Nat}
    {connection : UpstreamConnection} {candidate : PreparedUpstream} {frame : DecodedFrame}
    (hconnection : session.upstream i = some connection) (hcandidate : connection.candidate = some candidate)
    (hack : AckHanded session frame)
    (hfits : session.stopped = false → session.frozen = false → session.current = some i → FrameFits connection frame) :
    Live (session.candidateFrame i connection candidate frame) := by
  have hsettled := h.settled i connection hconnection
  have hrefuse (reason : String) (hbad : ¬FrameFits connection frame) :
      Live (session.refuseCandidate i connection reason) := by
    obtain ⟨hfollows, -, hcand⟩ := follows_settle connection (.failed reason)
    have hclose := follows_close (connection.settle (.failed reason))
    refine h.follow hconnection ⟨hclose.epoch.trans hfollows.epoch, hclose.through.trans hfollows.through,
      fun f hf => hclose.sent f (hfollows.sent f hf), fun later hl => ?_⟩ (hsettled.settle (by simp)).close ?_
    · obtain ⟨middle, hmiddle, heq⟩ := hclose.candidate later hl
      obtain ⟨first, hfirst, heq'⟩ := hfollows.candidate middle hmiddle
      exact ⟨first, hfirst, heq.trans heq'⟩
    · exact fun hstop hfrozen hi => absurd (hfits hstop hfrozen hi) hbad
  unfold GatewaySession.candidateFrame
  split
  · exact hrefuse _ id
  · exact hrefuse _ id
  · split
    · exact h.acknowledge hack
    · exact h
  · exact hrefuse _ id
  · rename_i roomEpoch tick payload
    split
    · rename_i hepoch
      refine hrefuse _ fun hfit => ?_
      rw [show (JsNumber.ofNat roomEpoch).strictEq connection.epoch = true from hfit] at hepoch
      cases hepoch
    · obtain ⟨hfollows, hstate, -⟩ := follows_settle connection .ready
      have hkeep : (candidate.keep payload).committed = candidate.committed ∧
          (candidate.keep payload).listening = candidate.listening := by
        unfold PreparedUpstream.keep
        split
        · exact ⟨rfl, rfl⟩
        · exact ⟨rfl, rfl⟩
      have hready := hsettled.settle (show UpstreamPhase.ready ≠ .opening by simp)
      have hset : Live (session.setUpstream i
          { connection.settle .ready with candidate := some (candidate.keep payload) }) := by
        refine h.follow hconnection ⟨hfollows.epoch, hfollows.through, hfollows.sent, fun later hl => ?_⟩
          ⟨hready.opened, fun later hl hcommitted => ?_⟩ fun _ _ _ => hstate
        · cases hl
          exact ⟨candidate, hcandidate, hkeep.1⟩
        · cases hl
          rw [hkeep.1] at hcommitted
          obtain ⟨hphase, hlistening⟩ := hready.committed candidate (by
            rw [(follows_settle connection .ready).2.2]
            exact hcandidate) hcommitted
          exact ⟨hphase, hkeep.2.trans hlistening⟩
      dsimp only
      split
      · exact hset.congr rfl rfl rfl rfl rfl rfl id
      · exact hset

private theorem Live.closed {session : GatewaySession limits} (h : Live session) {i : Nat}
    {connection : UpstreamConnection} (hconnection : session.upstream i = some connection)
    (hphase : connection.phase ≠ .opening) : Live (session.closed i connection) := by
  have hsettled := h.settled i connection hconnection
  have hfollows : Follows connection { connection with readyState := .closed } :=
    ⟨rfl, rfl, fun _ hf => hf, fun later hl => ⟨later, hl, rfl⟩⟩
  have hclosed : Settled { connection with readyState := .closed } := ⟨fun _ => hphase, hsettled.committed⟩
  have hsound := h.toSound.follow hconnection hfollows hclosed
  unfold GatewaySession.closed
  dsimp only
  split
  · split
    · rename_i hignored
      refine h.follow hconnection hfollows hclosed fun hstop hfrozen hi => ?_
      rcases hignored with hs | hne | hf
      · rw [show session.stopped = true from hs] at hstop
        cases hstop
      · exact absurd hi hne
      · rw [show session.frozen = true from hf] at hfrozen
        cases hfrozen
    · exact hsound.end_stop ..
  · rename_i candidate hcandidate
    have hother (hcommitted : candidate.committed = false) : session.current ≠ some i := by
      intro hi
      rw [h.current i connection candidate hi hconnection hcandidate] at hcommitted
      cases hcommitted
    split
    · rename_i hlistening
      refine h.follow hconnection hfollows hclosed fun _ _ hi => absurd hi (hother ?_)
      by_contra hne
      rw [(hsettled.committed candidate hcandidate (by simpa using hne)).2] at hlistening
      cases hlistening
    · split
      · exact hsound.end_stop ..
      · rename_i hcommitted
        have hlast := follows_settle { connection with readyState := .closed }
          (.failed "gateway_candidate_closed_before_ready")
        refine h.follow hconnection ⟨hlast.1.epoch, hlast.1.through, hlast.1.sent, fun later hl => ?_⟩
          (hclosed.settle (by simp)) fun _ _ hi => absurd hi (hother (by simpa using hcommitted))
        obtain ⟨middle, hmiddle, heq⟩ := hlast.1.candidate later hl
        exact ⟨middle, hmiddle, heq⟩

/-- The promise of a wait is settled, and nothing else happens. -/
private theorem Live.settle {session : GatewaySession limits} (h : Live session) {i : Nat}
    {connection : UpstreamConnection} (hconnection : session.upstream i = some connection) (reason : String) :
    Live (session.setUpstream i (connection.settle (.failed reason))) := by
  obtain ⟨hfollows, hstate, -⟩ := follows_settle connection (.failed reason)
  exact h.follow hconnection hfollows ((h.settled i connection hconnection).settle (by simp)) fun _ _ _ => hstate

private theorem Live.connectCandidate {session : GatewaySession limits} (h : Live session) (call : Nat)
    (route : RouteArgument) (token : String) : Live (session.connectCandidate call route token) := by
  have hold (i : Nat) (connection : UpstreamConnection) (hi : session.upstream i = some connection) :
      (session.connectCandidate call route token).upstream i = some connection := by
    unfold upstream GatewaySession.connectCandidate
    dsimp only
    rw [List.getElem?_append_left (List.getElem?_eq_some_iff.1 hi).1]
    exact hi
  have hnew (i : Nat) (connection : UpstreamConnection)
      (hi : (session.connectCandidate call route token).upstream i = some connection) :
      session.upstream i = some connection ∨
        i = session.upstreams.length ∧
          connection = { endpoint := route.endpoint, epoch := route.epoch, candidate := some { token } } := by
    unfold upstream GatewaySession.connectCandidate at hi
    dsimp only at hi
    rw [List.getElem?_append] at hi
    split at hi
    · exact Or.inl hi
    · obtain ⟨hlt, rfl⟩ := List.getElem?_eq_some_iff.1 hi
      rw [List.length_singleton] at hlt
      exact Or.inr ⟨by omega, List.getElem_singleton ..⟩
  have hhanded (sequence : Nat) (hs : session.Handed sequence) :
      (session.connectCandidate call route token).Handed sequence := by
    obtain ⟨connection, hin, hframe⟩ := hs
    exact ⟨connection, List.mem_append_left _ hin, hframe⟩
  have hcurrent (i : Nat) (connection : UpstreamConnection) (hi : session.current = some i)
      (hc : (session.connectCandidate call route token).upstream i = some connection) :
      session.upstream i = some connection := by
    rcases hnew i connection hc with hc | ⟨rfl, -⟩
    · exact hc
    · obtain ⟨other, hother⟩ := h.in_range _ hi
      have := (List.getElem?_eq_some_iff.1 hother).1
      omega
  refine ⟨⟨?_, ?_, ?_, ?_, h.shadow, ?_, ?_, ?_⟩, ?_, ?_⟩
  · intro hstop
    obtain ⟨i, connection, hi, hc⟩ := h.exists_current hstop
    exact ⟨i, connection, hi, hold i connection hc⟩
  · intro i hi
    obtain ⟨connection, hc⟩ := h.in_range i hi
    exact ⟨connection, hold i connection hc⟩
  · intro i connection hi sequence hle hpos
    rcases hnew i connection hi with hi | ⟨-, rfl⟩
    · exact hhanded sequence (h.handed i connection hi sequence hle hpos)
    · dsimp only at hle
      omega
  · exact fun sequence hle hpos => hhanded sequence (h.acknowledged sequence hle hpos)
  · intro i connection hi
    rcases hnew i connection hi with hi | ⟨-, rfl⟩
    · exact h.settled i connection hi
    · refine ⟨by simp, fun candidate hcand hcommitted => ?_⟩
      cases hcand
      cases hcommitted
  · exact fun i connection candidate hi hc => h.current i connection candidate hi (hcurrent i connection hi hc)
  · intro i hi
    cases hi
    refine ⟨⟨{ endpoint := route.endpoint, epoch := route.epoch, candidate := some { token } }, ?_⟩, ?_⟩
    · unfold upstream GatewaySession.connectCandidate
      dsimp only
      rw [List.getElem?_append_right (le_refl _), Nat.sub_self]
      rfl
    · intro hi
      obtain ⟨other, hother⟩ := h.in_range _ hi
      have := (List.getElem?_eq_some_iff.1 hother).1
      omega
  · exact fun hstop hfrozen i connection hi hc => h.alive hstop hfrozen i connection hi (hcurrent i connection hi hc)
  · intro hstop hfrozen i connection hi hc hopened hepoch sequence hle hpos
    exact hhanded sequence
      (h.flushed hstop hfrozen i connection hi (hcurrent i connection hi hc) hopened hepoch sequence hle hpos)

/-! ### Aborting -/

/-- The current upstream is open, or there is nothing to flush to it and it still connects (or the session has been
stopped). -/
def FlushReaches (session : GatewaySession limits) : Prop :=
  ∀ connection ∈ session.currentUpstream, connection.readyState = .opened ∨
    session.inputs.replayAfter connection.sentThroughSequence = [] ∧
      (session.stopped = true ∨ connection.readyState = .connecting)

private theorem Live.abortPrepared {session : GatewaySession limits} (h : Live session)
    (hreaches : FlushReaches session) : Live session.abortPrepared.1 := by
  have hclosed := h.toSound.closeUpstream session.prepared fun i hi => (h.prepared i hi).1
  have hkept (i : Nat) (hi : session.current = some i) :
      (session.closeUpstream session.prepared).upstream i = session.upstream i := by
    cases hprepared : session.prepared with
    | none => rfl
    | some j =>
      have hne : j ≠ i := by
        rintro rfl
        exact (h.prepared j hprepared).2 hi
      exact List.getElem?_modify_ne _ _ hne
  have hcurrent : (session.closeUpstream session.prepared).current = session.current := by
    cases session.prepared <;> rfl
  have hstopped : (session.closeUpstream session.prepared).stopped = session.stopped := by
    cases session.prepared <;> rfl
  have hinputs : (session.closeUpstream session.prepared).inputs = session.inputs := by
    cases session.prepared <;> rfl
  have haborted : Sound { session.closeUpstream session.prepared with prepared := none, frozen := false } :=
    ⟨hclosed.exists_current, hclosed.in_range, hclosed.handed, hclosed.acknowledged, hclosed.shadow, hclosed.settled,
      hclosed.current, by intro i hi; cases hi⟩
  unfold GatewaySession.abortPrepared
  dsimp only
  split
  · rename_i hnone
    refine ⟨haborted, fun _ _ i connection hi => ?_, fun _ _ i connection hi => ?_⟩
    · exact absurd (hnone.symm.trans hi) (by simp)
    · exact absurd (hnone.symm.trans hi) (by simp)
  · rename_i i hi
    have hi' : session.current = some i := hcurrent.symm.trans hi
    obtain ⟨connection, hconnection⟩ := h.in_range i hi'
    have hnow := hreaches connection (by unfold currentUpstream; rw [hi']; exact hconnection)
    have hup : ({ session.closeUpstream session.prepared with prepared := none, frozen := false } :
        GatewaySession limits).upstream i = some connection := (hkept i hi').trans hconnection
    have halive : session.stopped = false →
        connection.readyState = .connecting ∨ connection.readyState = .opened := by
      intro hstop
      rcases hnow with hopened | ⟨-, hs | hconnecting⟩
      · exact Or.inr hopened
      · rw [hs] at hstop
        cases hstop
      · exact Or.inl hconnecting
    split
    · rename_i message herror
      refine ⟨haborted, fun hstop _ j other hj hother => ?_, fun _ _ j other hj hother _ hfits => ?_⟩
      · obtain rfl : j = i := Option.some.inj (hj.symm.trans hi)
        rw [hup] at hother
        cases hother
        exact halive (hstopped.symm.trans hstop)
      · -- the flush failed because the epoch does not fit
        obtain rfl : j = i := Option.some.inj (hj.symm.trans hi)
        rw [hup] at hother
        cases hother
        obtain ⟨epoch, hepoch⟩ := Option.ne_none_iff_exists'.1 hfits
        unfold GatewaySession.flushInputs at herror
        rw [hup] at herror
        dsimp only at herror
        split at herror
        · rename_i hsend
          obtain ⟨_, hok⟩ := sendInputs_of_fits hepoch
            ((session.closeUpstream session.prepared).inputs.replayAfter connection.sentThroughSequence)
            (session.closeUpstream session.prepared).clientTick
          rw [hok] at hsend
          cases hsend
        · cases herror
    · rename_i flushed hflush
      have hopen : connection.readyState = .opened ∨
          (session.closeUpstream session.prepared).inputs.replayAfter connection.sentThroughSequence = [] := by
        rw [hinputs]
        exact hnow.imp_right And.left
      obtain ⟨last, rfl, hstate, -, hsound, hlatest⟩ := haborted.flushInputs hup hopen hflush
      have hget := upstream_setUpstream _ hup last
      refine ⟨hsound, fun hstop _ j other hj hother => ?_, fun _ _ j other hj hother hopened _ => ?_⟩
      · obtain rfl : j = i := Option.some.inj (hj.symm.trans hi)
        rw [hget, if_pos rfl] at hother
        cases hother
        rw [hstate]
        exact halive (hstopped.symm.trans hstop)
      · obtain rfl : j = i := Option.some.inj (hj.symm.trans hi)
        rw [hget, if_pos rfl] at hother
        cases hother
        rw [hstate] at hopened
        exact hlatest hopened

/-! ### Committing -/

/-- A key keeps its place or is added. -/
private theorem map_setEntry (merged : List BufferedGatewayInput) (entry : BufferedGatewayInput) (number : Nat) :
    number ∈ (setEntry merged entry).map sequence ↔ number ∈ merged.map sequence ∨ number = entry.sequence := by
  unfold setEntry
  split
  · rename_i hany
    obtain ⟨other, hother, heq⟩ := List.any_eq_true.1 hany
    have hsame : (merged.map fun other => if other.sequence = entry.sequence then entry else other).map sequence =
        merged.map sequence := by
      rw [List.map_map]
      refine List.map_congr_left fun e _ => ?_
      dsimp only [Function.comp_apply]
      split
      · rename_i h
        exact h.symm
      · rfl
    rw [hsame]
    refine ⟨Or.inl, ?_⟩
    rintro (h | rfl)
    · exact h
    · exact List.mem_map.2 ⟨other, hother, of_decide_eq_true heq⟩
  · rw [List.map_append, List.mem_append, List.map_singleton, List.mem_singleton]

/-- The merge has the numbers of both lists, whatever the lists are. -/
private theorem map_mergeRollbackInputs (session : GatewaySession limits) (unacked : List BufferedGatewayInput)
    (number : Nat) : number ∈ (session.mergeRollbackInputs unacked).map sequence ↔
      number ∈ session.verificationShadow.map sequence ∨ number ∈ unacked.map sequence := by
  have hfold (entries merged : List BufferedGatewayInput) :
      number ∈ (entries.foldl setEntry merged).map sequence ↔
        number ∈ merged.map sequence ∨ number ∈ entries.map sequence := by
    induction entries generalizing merged with
    | nil => simp
    | cons entry entries ih =>
      rw [List.foldl_cons, ih, map_setEntry, List.map_cons, List.mem_cons, or_assoc]
  unfold mergeRollbackInputs
  rw [((List.perm_insertionSort _ _).map BufferedGatewayInput.sequence).mem_iff, hfold, List.map_append, List.mem_append]
  simp

theorem retainAll_shadow (session : GatewaySession limits) (entries : List BufferedGatewayInput) :
    ∃ shadow bytes, (session.retainAll entries).1 = { session with
        verificationShadow := shadow, verificationShadowBytes := bytes } ∧
      ∀ entry ∈ shadow, entry ∈ session.verificationShadow ∨ entry ∈ entries := by
  induction entries generalizing session with
  | nil => exact ⟨_, _, rfl, fun entry he => Or.inl he⟩
  | cons entry entries ih =>
    rw [retainAll]
    cases hretain : session.retainForRollback entry with
    | error message => exact ⟨_, _, rfl, fun entry he => Or.inl he⟩
    | ok retained =>
      dsimp only
      obtain ⟨shadow, bytes, heq, hmem⟩ := ih retained
      rcases retainForRollback_shadow hretain with rfl | ⟨bytes', rfl⟩
      · exact ⟨shadow, bytes, heq, fun e he => (hmem e he).imp_right (List.mem_cons_of_mem _)⟩
      · refine ⟨shadow, bytes, heq, fun e he => ?_⟩
        rcases hmem e he with he | he
        · rcases List.mem_append.1 he with he | he
          · exact Or.inl he
          · exact Or.inr (by rw [List.mem_singleton.1 he]; exact List.mem_cons_self ..)
        · exact Or.inr (List.mem_cons_of_mem _ he)

/-- The switch to an open candidate with its listeners: a sound session, with the candidate as its current upstream. -/
private theorem Sound.switchTo {session : GatewaySession limits} (h : Sound session) {i : Nat}
    {candidate : UpstreamConnection} (hprepared : session.prepared = some i)
    (hcandidate : session.upstream i = some candidate) (hopened : candidate.readyState = .opened)
    (hlistening : ∀ prepared ∈ candidate.candidate, prepared.listening = true) :
    Sound (session.switchTo i candidate.commit) ∧
      (session.switchTo i candidate.commit).upstream i = some candidate.commit ∧
      (session.switchTo i candidate.commit).current = some i ∧
      (session.switchTo i candidate.commit).inputs = session.inputs ∧
      (session.switchTo i candidate.commit).verificationShadow = session.verificationShadow := by
  have hne := (h.prepared i hprepared).2
  have hget := upstream_setUpstream session hcandidate candidate.commit
  have hsettled := h.settled i candidate hcandidate
  have hmono {sequence : Nat} (hs : session.Handed sequence) : (session.setUpstream i candidate.commit).Handed sequence :=
    handed_setUpstream hcandidate (show ∀ frame ∈ candidate.sent, frame ∈ candidate.commit.sent from fun _ hf => hf) hs
  have hmoved : Sound { session.setUpstream i candidate.commit with current := some i, prepared := none } := by
    refine ⟨fun _ => ⟨i, candidate.commit, rfl, (hget i).trans (if_pos rfl)⟩, ?_, ?_, ?_, h.shadow, ?_, ?_, ?_⟩
    · intro j hj
      cases hj
      exact ⟨candidate.commit, (hget i).trans (if_pos rfl)⟩
    · intro j connection hj sequence hle hpos
      have hj' := (hget j).symm.trans hj
      split at hj'
      · cases hj'
        exact hmono (h.handed i candidate hcandidate sequence hle hpos)
      · exact hmono (h.handed j connection hj' sequence hle hpos)
    · exact fun sequence hle hpos => hmono (h.acknowledged sequence hle hpos)
    · intro j connection hj
      have hj' := (hget j).symm.trans hj
      split at hj'
      · cases hj'
        refine ⟨fun _ => hsettled.opened hopened, fun later hl _ => ⟨hsettled.opened hopened, ?_⟩⟩
        obtain ⟨earlier, hearlier, rfl⟩ := Option.map_eq_some_iff.1 hl
        exact hlistening earlier hearlier
      · exact h.settled j connection hj'
    · intro j connection later hj hconnection hl
      cases hj
      have hj' := (hget i).symm.trans hconnection
      rw [if_pos rfl] at hj'
      cases hj'
      obtain ⟨earlier, hearlier, rfl⟩ := Option.map_eq_some_iff.1 hl
      rfl
    · intro j hj
      cases hj
  have hclosed := hmoved.closeUpstream session.current fun j hj => by
    obtain ⟨other, hother⟩ := h.in_range j hj
    refine ⟨other, (hget j).trans ?_⟩
    rw [if_neg fun hji => hne (by rw [← hji]; exact hj)]
    exact hother
  have hkept : (({ session.setUpstream i candidate.commit with current := some i, prepared := none } :
      GatewaySession limits).closeUpstream session.current).upstream i = some candidate.commit := by
    cases hcurrent : session.current with
    | none => exact (hget i).trans (if_pos rfl)
    | some j =>
      have hji : j ≠ i := by
        rintro rfl
        exact hne hcurrent
      exact (List.getElem?_modify_ne _ _ hji).trans ((hget i).trans (if_pos rfl))
  have hfields : (({ session.setUpstream i candidate.commit with current := some i, prepared := none } :
        GatewaySession limits).closeUpstream session.current).current = some i ∧
      (({ session.setUpstream i candidate.commit with current := some i, prepared := none } :
        GatewaySession limits).closeUpstream session.current).inputs = session.inputs ∧
      (({ session.setUpstream i candidate.commit with current := some i, prepared := none } :
        GatewaySession limits).closeUpstream session.current).verificationShadow = session.verificationShadow := by
    cases session.current <;> exact ⟨rfl, rfl, rfl⟩
  unfold GatewaySession.switchTo
  dsimp only
  split
  · exact ⟨hclosed, hkept, hfields⟩
  · exact ⟨hclosed.congr rfl rfl hclosed.shadow rfl rfl rfl, hkept, hfields⟩

private theorem Sound.replayTo {session : GatewaySession limits} (h : Sound session) {i : Nat}
    {candidate : UpstreamConnection} (hcurrent : session.current = some i)
    (hcandidate : session.upstream i = some candidate) (hopened : candidate.readyState = .opened) :
    Live (session.replayTo i candidate).1 := by
  have hsettled := h.settled i candidate hcandidate
  have hnext := session.inputs.next_eq
  unfold GatewaySession.replayTo
  rw [BoundedGatewayInputBuffer.replayAfter_acknowledged]
  dsimp only
  -- the numbers of the replay are those of inputs that were taken
  have hbelow : ∀ entry ∈ session.mergeRollbackInputs session.inputs.entries,
      entry.sequence < session.inputs.nextSequence := by
    intro entry he
    rcases (map_mergeRollbackInputs session _ _).1 (List.mem_map_of_mem he) with hin | hin
    · obtain ⟨other, hother, heq⟩ := List.mem_map.1 hin
      rw [← heq]
      exact h.shadow other hother
    · obtain ⟨other, hother, heq⟩ := List.mem_map.1 hin
      rw [← heq]
      exact (BoundedGatewayInputBuffer.mem_entries hother).2
  cases hsend : candidate.sendInputs (session.mergeRollbackInputs session.inputs.entries) session.clientTick with
  | error message =>
    refine ⟨h, fun _ _ j other hj hother => ?_, fun _ _ j other hj hother _ hfits => ?_⟩
    · obtain rfl : j = i := Option.some.inj (hj.symm.trans hcurrent)
      obtain rfl : other = candidate := Option.some.inj (hother.symm.trans hcandidate)
      exact Or.inr hopened
    · obtain rfl : j = i := Option.some.inj (hj.symm.trans hcurrent)
      obtain rfl : other = candidate := Option.some.inj (hother.symm.trans hcandidate)
      obtain ⟨epoch, hepoch⟩ := Option.ne_none_iff_exists'.1 hfits
      obtain ⟨_, hok⟩ := sendInputs_of_fits hepoch (session.mergeRollbackInputs session.inputs.entries) session.clientTick
      rw [hok] at hsend
      cases hsend
  | ok sent =>
    obtain ⟨frames, rfl, hframes, -⟩ := sendInputs_ok hsend
    dsimp only
    have hall (through : Nat) : (session.setUpstream i
        { candidate with sent := candidate.sent ++ frames, sentThroughSequence := through }).HandedThrough
        session.inputs.latestSequence := by
      refine h.handedThrough_latest hcandidate (fun _ hf => List.mem_append_left _ hf)
        (show session.HandedThrough 0 from fun sequence hle hpos => by omega) fun entry hentry _ => ?_
      have hin := (map_mergeRollbackInputs session session.inputs.entries entry.sequence).2
        (Or.inr (List.mem_map_of_mem hentry))
      rw [← (hframes hopened).1] at hin
      obtain ⟨frame, hframe, hseq⟩ := List.mem_map.1 hin
      exact ⟨frame, List.mem_append_right _ hframe, hseq⟩
    have hset (through : Nat) (hthrough : (session.setUpstream i { candidate with
        sent := candidate.sent ++ frames, sentThroughSequence := through }).HandedThrough through) :
        Sound (session.setUpstream i
          { candidate with sent := candidate.sent ++ frames, sentThroughSequence := through }) :=
      h.setUpstream hcandidate (fun _ hf => List.mem_append_left _ hf) hthrough
        (fun later hl => ⟨later, hl, rfl⟩) ⟨hsettled.opened, hsettled.committed⟩
    unfold setRollbackInputs
    obtain ⟨shadow, bytes, hloaded, hmem⟩ := retainAll_shadow
      { session.setUpstream i { candidate with sent := candidate.sent ++ frames } with
        verificationShadow := [], verificationShadowBytes := 0 }
      (session.mergeRollbackInputs session.inputs.entries)
    have hshadow : ∀ entry ∈ shadow, entry.sequence < session.inputs.nextSequence := by
      intro entry he
      rcases hmem entry he with hnil | hin
      · cases hnil
      · exact hbelow entry hin
    have hcount (through : Nat) : (session.setUpstream i
        { candidate with sent := candidate.sent ++ frames, sentThroughSequence := through }).upstream i =
        some { candidate with sent := candidate.sent ++ frames, sentThroughSequence := through } :=
      (upstream_setUpstream session hcandidate _ i).trans (if_pos rfl)
    cases hresult : GatewaySession.retainAll { session.setUpstream i { candidate with sent := candidate.sent ++ frames } with
        verificationShadow := [], verificationShadowBytes := 0 }
        (session.mergeRollbackInputs session.inputs.entries) with
    | mk loaded result =>
      rw [hresult] at hloaded
      dsimp only at hloaded
      subst hloaded
      cases result with
      | error message =>
        have hsound := hset candidate.sentThroughSequence fun sequence hle hpos =>
          handed_setUpstream hcandidate (fun _ hf => List.mem_append_left _ hf)
            (h.handed i candidate hcandidate sequence hle hpos)
        refine ⟨hsound.congr rfl rfl hshadow rfl rfl rfl, fun _ _ j other hj hother => ?_, fun _ _ _ _ _ _ _ _ => ?_⟩
        · obtain rfl : j = i := Option.some.inj (hj.symm.trans hcurrent)
          obtain rfl := Option.some.inj (hother.symm.trans (hcount candidate.sentThroughSequence))
          exact Or.inr hopened
        · exact hall candidate.sentThroughSequence
      | ok _ =>
        dsimp only
        -- the last number of the replay, or what has been acknowledged
        generalize hlast : (((session.mergeRollbackInputs session.inputs.entries).getLast?.map
          BufferedGatewayInput.sequence).getD _) = through
        have hthrough : (session.setUpstream i { candidate with
            sent := candidate.sent ++ frames, sentThroughSequence := through }).HandedThrough through := by
          refine (hall through).mono ?_
          rw [← hlast]
          unfold BoundedGatewayInputBuffer.latestSequence
          cases hentry : (session.mergeRollbackInputs session.inputs.entries).getLast? with
          | none =>
            show session.inputs.acknowledgedSequence ≤ session.inputs.nextSequence - 1
            omega
          | some entry =>
            have := hbelow entry (List.mem_of_getLast? hentry)
            show entry.sequence ≤ session.inputs.nextSequence - 1
            omega
        have hups : (session.upstreams.set i { candidate with sent := candidate.sent ++ frames }).set i
            { candidate with sent := candidate.sent ++ frames, sentThroughSequence := through } =
            session.upstreams.set i
              { candidate with sent := candidate.sent ++ frames, sentThroughSequence := through } := List.set_set ..
        refine ⟨(hset through hthrough).congr hups rfl hshadow rfl rfl rfl, fun _ _ j other hj hother => ?_,
          fun _ _ _ _ _ _ _ _ => ?_⟩
        · obtain rfl : j = i := Option.some.inj (hj.symm.trans hcurrent)
          have hother' : (session.setUpstream j { candidate with
              sent := candidate.sent ++ frames, sentThroughSequence := through }).upstream j = some other := by
            unfold upstream GatewaySession.setUpstream
            dsimp only
            rw [← hups]
            exact hother
          obtain rfl := Option.some.inj (hother'.symm.trans (hcount through))
          exact Or.inr hopened
        · intro sequence hle hpos
          have hhanded := hall through sequence hle hpos
          unfold Handed GatewaySession.setUpstream at hhanded ⊢
          dsimp only at hhanded ⊢
          rw [hups]
          exact hhanded

/-- The prepared upstream of a commit that goes through has opened and has its listeners. -/
def CandidateOpen (session : GatewaySession limits) (route : GatewayRoomRoute) : Prop :=
  session.GoesThrough route → ∀ candidate ∈ session.preparedUpstream,
    candidate.readyState = .opened ∧ ∀ prepared ∈ candidate.candidate, prepared.listening = true

private theorem Live.commitPrepared {session : GatewaySession limits} (h : Live session) {route : GatewayRoomRoute}
    (hopen : CandidateOpen session route) : Live (session.commitPrepared route).1 := by
  by_cases hthrough : session.GoesThrough route
  · obtain ⟨i, candidate, hprepared, hcandidate, -, -, heq⟩ := commitPrepared_of_goesThrough hthrough
    obtain ⟨hopened, hlistening⟩ := hopen hthrough candidate hcandidate
    have hi : session.upstream i = some candidate := by
      unfold preparedUpstream at hcandidate
      rw [hprepared] at hcandidate
      exact hcandidate
    obtain ⟨hsound, hup, hcurrent, -⟩ := h.toSound.switchTo hprepared hi hopened hlistening
    rw [heq]
    exact hsound.replayTo hcurrent hup hopened
  · rw [commitPrepared_of_not hthrough]
    exact h

/-! ### The runs -/

/-- What a step needs to keep the session alive: a commit needs an open candidate, an abort an upstream that the flush
reaches, and a frame of the current candidate has to be one it may send.  An acknowledgement covers only inputs that
were handed over. -/
def KeepsAlive (session : GatewaySession limits) : GatewaySessionEvent → Prop
  | .commitPrepared route => CandidateOpen session route
  | .abortPrepared => FlushReaches session
  | .socket (.frame i frame) => AckHanded session frame ∧
    (session.stopped = false → session.frozen = false → session.current = some i →
      ∀ connection ∈ session.upstream i, connection.candidate.isSome → FrameFits connection frame)
  | _ => True

private theorem Live.socketStep {codec : GatewayJoinCodec} {session next : GatewaySession limits} (h : Live session)
    {event : SocketEvent} (hkeeps : KeepsAlive session (.socket event))
    (hs : session.socketStep codec event = some next) : Live next := by
  cases event with
  | receive payload admitted =>
    cases hs
    exact h.receive ..
  | matchFound call token =>
    simp only [GatewaySession.socketStep] at hs
    split at hs
    · cases hs
      exact h.connectCandidate ..
    · cases hs
  | matchFailed call reason =>
    simp only [GatewaySession.socketStep] at hs
    split at hs
    · cases hs
      exact h.congr rfl rfl rfl rfl rfl rfl id
    · cases hs
  | opened i =>
    simp only [GatewaySession.socketStep] at hs
    split at hs
    · rename_i connection hconnection
      split at hs
      · rename_i hready
        cases hs
        exact h.opened codec hconnection hready.2
      · cases hs
    · cases hs
  | openFailed i =>
    simp only [GatewaySession.socketStep] at hs
    split at hs
    · rename_i connection hconnection
      split at hs
      · rename_i hready
        cases hs
        have hfollows : Follows connection { connection with readyState := .closed } :=
          ⟨rfl, rfl, fun _ hf => hf, fun later hl => ⟨later, hl, rfl⟩⟩
        exact h.rejectOpening hconnection hready.2 hfollows rfl _
      · cases hs
    · cases hs
  | openTimedOut i =>
    simp only [GatewaySession.socketStep] at hs
    split at hs
    · rename_i connection hconnection
      split at hs
      · rename_i hready
        cases hs
        refine h.rejectOpening hconnection hready (follows_close connection) ?_ _
        rw [connection.close_cases.1]
      · cases hs
    · cases hs
  | frame i frame =>
    obtain ⟨hack, hfits⟩ := hkeeps
    simp only [GatewaySession.socketStep] at hs
    split at hs
    · rename_i connection hconnection
      split at hs
      · cases hs
      · split at hs
        · cases hs
          exact h.currentFrame hack
        · rename_i candidate hcandidate
          split at hs
          · cases hs
            refine h.candidateFrame hconnection hcandidate hack fun hstop hfrozen hi => ?_
            exact hfits hstop hfrozen hi connection hconnection (by rw [hcandidate]; rfl)
          · cases hs
    · cases hs
  | closed i =>
    simp only [GatewaySession.socketStep] at hs
    split at hs
    · rename_i connection hconnection
      split at hs
      · rename_i hready
        cases hs
        exact h.closed hconnection hready.2
      · cases hs
    · cases hs
  | errored i =>
    simp only [GatewaySession.socketStep] at hs
    split at hs
    · rename_i connection hconnection
      split at hs
      · split at hs
        · split at hs
          · cases hs
            unfold GatewaySession.errored
            split
            · exact h
            · exact h.settle hconnection _
          · cases hs
        · cases hs
      · cases hs
    · cases hs
  | readyTimedOut i =>
    simp only [GatewaySession.socketStep] at hs
    split at hs
    · rename_i connection hconnection
      split at hs
      · cases hs
        exact h.settle hconnection _
      · cases hs
    · cases hs

private theorem Live.prepare {session : GatewaySession limits} (h : Live session) (route : RouteArgument) :
    Live (session.prepare route).1 := by
  unfold GatewaySession.prepare
  split
  · exact h
  split
  · exact h
  split
  · exact h
  split
  · split <;> exact h
  · exact h.congr rfl rfl rfl rfl rfl rfl id

theorem Live.step {codec : GatewayJoinCodec} {session next : GatewaySession limits} (h : Live session)
    {event : GatewaySessionEvent} (hkeeps : KeepsAlive session event) (hs : session.step codec event = some next) :
    Live next := by
  cases event with
  | socket event => exact h.socketStep hkeeps hs
  | prepare route =>
    cases hs
    exact h.prepare route
  | freeze =>
    cases hs
    exact h.congr rfl rfl rfl rfl rfl rfl (fun hthawed => by cases hthawed)
  | commitPrepared route =>
    cases hs
    exact h.commitPrepared hkeeps
  | abortPrepared =>
    cases hs
    exact h.abortPrepared hkeeps
  | finalizeVerification =>
    cases hs
    refine ⟨h.toSound.congr rfl rfl ?_ rfl rfl rfl, h.alive, h.flushed⟩
    intro entry he
    cases he
  | stop =>
    cases hs
    exact h.toSound.stop

theorem start_live (route : GatewayRoomRoute) : Live (start route : GatewaySession limits) := by
  have hget (i : Nat) (connection : UpstreamConnection)
      (hi : (start route : GatewaySession limits).upstream i = some connection) :
      connection = { endpoint := route.endpoint, epoch := .ofNat route.epoch } := by
    obtain ⟨hlt, rfl⟩ := List.getElem?_eq_some_iff.1 hi
    exact List.getElem_singleton ..
  refine ⟨⟨fun _ => ⟨0, _, rfl, rfl⟩, ?_, ?_, ?_, ?_, ?_, ?_, ?_⟩, ?_, ?_⟩
  · intro i hi
    cases hi
    exact ⟨_, rfl⟩
  · intro i connection hi sequence hle hpos
    rw [hget i connection hi] at hle
    dsimp only at hle
    omega
  · intro sequence hle hpos
    rw [show (start route : GatewaySession limits).inputs.acknowledgedSequence = 0 from rfl] at hle
    omega
  · intro entry he
    cases he
  · intro i connection hi
    rw [hget i connection hi]
    exact ⟨by simp, by simp⟩
  · intro i connection candidate _ hi hcandidate
    rw [hget i connection hi] at hcandidate
    cases hcandidate
  · intro i hi
    cases hi
  · intro _ _ i connection _ hi
    rw [hget i connection hi]
    exact Or.inl rfl
  · intro _ _ i connection _ hi hopened
    rw [hget i connection hi] at hopened
    cases hopened

instance (session : GatewaySession limits) (frame : DecodedFrame) : Decidable (AckHanded session frame) := by
  unfold AckHanded HandedThrough Handed
  split <;> infer_instance

instance (connection : UpstreamConnection) (frame : DecodedFrame) : Decidable (FrameFits connection frame) := by
  unfold FrameFits
  split <;> infer_instance

instance (session : GatewaySession limits) (event : GatewaySessionEvent) : Decidable (KeepsAlive session event) := by
  unfold KeepsAlive CandidateOpen FlushReaches GoesThrough
  split <;> infer_instance

private def smallLimits : GatewayLimits where
  maxMessages := 4
  maxBytes := 1024
  one_le := GatewayLimits.one_le_four
  kilobyte_le := GatewayLimits.kilobyte_le_kilobyte

/-- A join message starts with a one, and a resumed one is the same. -/
private def joinByOne : GatewayJoinCodec where
  readGatewayJoin payload := .ok (if payload.head? = some 1 then some "token" else none)
  writeGatewayJoin join _ := .ok join

private def roomRoute (endpoint : String) (epoch : Nat) : GatewayRoomRoute :=
  { roomId := "room-1", endpoint, epoch, revision := none }

/-- The upstream closes while the session is frozen, and the freeze is aborted. -/
private def closedWhileFrozen : List GatewaySessionEvent :=
  [.socket (.receive [1] true), .socket (.opened 0), .freeze, .socket (.receive [3] true), .socket (.closed 0),
    .abortPrepared]

end GatewaySession

end Opsia
