import Mathlib.Algebra.Order.Floor.Ring
import Mathlib.Algebra.Order.Group.Unbundled.Basic
import Mathlib.Data.Rat.Floor
import Opsia.BotBrain.ExactNumber
import Opsia.Machine
import Opsia.Orchestrator.Fleet
import Opsia.SlidingWindow

/-!
# The matchmaker

`findGame` runs up to the lookup of the rooms when it is called, and from its answer on in a later step.  The limit is
on the calls that come to the lookup: a call takes its slot before it (`Matchmaker.findGame`), and keeps it whatever
comes of the lookup.  Which calls are let in is said by the times of those that were (`matchmaker_spec`).  The metrics
that count requests, and the log, are left out.
-/

namespace Opsia

open SlidingWindow

inductive Rejection
  | rateLimited
  | directoryUnavailable
  | roomUnavailable
  | noRoom
deriving DecidableEq

def Rejection.reason : Rejection → String
  | .rateLimited => "rate_limited"
  | .directoryUnavailable => "directory_unavailable"
  | .roomUnavailable => "room_unavailable"
  | .noRoom => "no_room"

/-- The message of the error that a rejected call throws. -/
def Rejection.message (rejection : Rejection) : String := "find_game_rejected:" ++ rejection.reason

inductive Admission
  | waiting
  | accepted (room : RoomRegistryRecord)
  | rejected (rejection : Rejection)
deriving DecidableEq

/-- A call of `findGame` at a time, and what came of it so far. -/
structure FindGame where
  id : ℕ
  now : ℚ
  requestedRoomId : Option String
  admission : Admission
deriving DecidableEq

/-- The attempt of a call, for the failure ratio. -/
structure Attempt where
  call : ℕ
  «at» : ℚ
  failed : Bool
deriving DecidableEq

structure Matchmaker where
  attempts : List Attempt
  admittedAt : List ℚ
  failureRatio : ℚ
  /-- The calls so far, the earliest first. -/
  calls : List FindGame
deriving DecidableEq

/-! ### The choice of a room -/

/-- A room that can be joined. -/
def joinable (room : RoomRegistryRecord) : Bool :=
  decide (room.status = .running) && decide (room.joinLocked ≠ some true) &&
    decide (room.players < (room.spec.map RoomSpec.maxPlayers).getD 100)

/-- The requested room, or the one with the fewest players, if it can be joined. -/
def chooseRoom (requestedRoomId : Option String) (listed : List RoomRegistryRecord) :
    Except Rejection RoomRegistryRecord :=
  let requested := requestedRoomId.filter fun roomId => decide (roomId ≠ "")
  let rooms := listed.filter joinable
  let unavailable := if requested.isSome then Rejection.roomUnavailable else .noRoom
  if rooms.length = 0 then .error unavailable
  else
    let room := match requested with
      | some roomId => rooms.find? fun candidate => decide (candidate.roomId = roomId)
      | none => (rooms.mergeSort fun a b =>
          decide (a.players < b.players) || decide (a.players = b.players) && decide (a.ordinal ≤ b.ordinal)).head?
    match room with
    | some room => .ok room
    | none => .error unavailable

namespace FindGame

def rateLimited (call : FindGame) : Bool := decide (call.admission = .rejected .rateLimited)

/-- A call when it has come to the lookup, or to the limit. -/
def arriving (call : ℕ) (now : ℚ) (requestedRoomId : Option String) (limited : Bool) : FindGame :=
  ⟨call, now, requestedRoomId, if limited then .rejected .rateLimited else .waiting⟩

/-- The call, settled if it is the one with this id and waits. -/
def settle (call : ℕ) (admission : Admission) (c : FindGame) : FindGame :=
  if c.id = call ∧ c.admission = .waiting then { c with admission } else c

end FindGame

namespace Matchmaker

def empty : Matchmaker := ⟨[], [], 0, []⟩

def trimAttempts (s : Matchmaker) (now : ℚ) : Matchmaker :=
  { s with attempts := s.attempts.filter fun entry => decide (now - 1000 < entry.at) }

def updateFailureRatio (s : Matchmaker) : Matchmaker :=
  let total := s.attempts.length
  { s with failureRatio := if total = 0 then 0 else ((s.attempts.filter (·.failed)).length : ℚ) / total }

def refreshMetrics (s : Matchmaker) (now : ℚ) : Matchmaker := (s.trimAttempts now).updateFailureRatio

/-- The attempt of a rejected call has failed. -/
def markFailed (s : Matchmaker) (call : ℕ) : Matchmaker :=
  { s with attempts := s.attempts.map fun entry => if entry.call = call then { entry with failed := true } else entry }

/-- What comes of a call that waits for the rooms. -/
def settle (s : Matchmaker) (call : ℕ) (admission : Admission) : Matchmaker :=
  { s with calls := s.calls.map (FindGame.settle call admission) }

/-- `findGame` up to the lookup, or to a rejection before it. -/
def findGame (maxPerSecond : ExactNumber) (s : Matchmaker) (call : ℕ) (now : ℚ) (requestedRoomId : Option String) :
    Matchmaker :=
  let s : Matchmaker := { s with attempts := s.attempts ++ [⟨call, now, false⟩] }
  let s := (s.trimAttempts now).updateFailureRatio
  let recentAdmitted := recent 1000 s.admittedAt now
  let s : Matchmaker := { s with admittedAt := recentAdmitted }
  if maxPerSecond.le (.finite recentAdmitted.length) then
    { (s.markFailed call).updateFailureRatio with
      calls := s.calls ++ [⟨call, now, requestedRoomId, .rejected .rateLimited⟩] }
  else
    { s with
      admittedAt := s.admittedAt ++ [now]
      calls := s.calls ++ [⟨call, now, requestedRoomId, .waiting⟩] }

/-- `findGame` from the answer of the directory on; there is none when the lookup throws. -/
def listed (s : Matchmaker) (call : FindGame) (answer : Option (List RoomRegistryRecord)) : Matchmaker :=
  let outcome : Except Rejection RoomRegistryRecord := match answer with
    | none => .error .directoryUnavailable
    | some rooms => chooseRoom call.requestedRoomId rooms
  match outcome with
  | .ok room => s.settle call.id (.accepted room)
  | .error rejection => (s.markFailed call.id).updateFailureRatio.settle call.id (.rejected rejection)

inductive Event
  | call (call : ℕ) (now : ℚ) (requestedRoomId : Option String)
  | listed (call : ℕ) (answer : Option (List RoomRegistryRecord))
  | refreshMetrics (now : ℚ)

/-- A call comes at a time no earlier than the ones before it; the lookup of a call that waits is answered. -/
def step (maxPerSecond : ExactNumber) (s : Matchmaker) : Event → Option Matchmaker
  | .call call now requestedRoomId =>
    if (∀ c ∈ s.calls, c.id ≠ call) ∧ ∀ c ∈ s.calls, c.now ≤ now then
      some (s.findGame maxPerSecond call now requestedRoomId)
    else none
  | .listed call answer =>
    (s.calls.find? fun c => decide (c.id = call ∧ c.admission = .waiting)).map fun c => s.listed c answer
  | .refreshMetrics now => some (s.refreshMetrics now)

end Matchmaker

/-! ### The calls that are let in -/

/-- The times of the calls that come to the lookup. -/
def admittedTimes (calls : List FindGame) : List ℚ := (calls.filter fun c => !c.rateLimited).map FindGame.now

/-- The number of calls that were let in within the second that ends at a time. -/
def admittedWithin (calls : List FindGame) (t : ℚ) : ℕ := (inWindow 1000 (admittedTimes calls) t).length

namespace Matchmaker

/-- The call with this id was rejected by the limit. -/
def RateLimited (s : Matchmaker) (call : ℕ) : Prop := ∃ c ∈ s.calls, c.id = call ∧ c.rateLimited = true

instance (s : Matchmaker) (call : ℕ) : Decidable (s.RateLimited call) := by unfold RateLimited; infer_instance

variable {maxPerSecond : ExactNumber} {s s' t : Matchmaker}

/-- What a step does to the calls: one comes and is judged by the ones that were let in before, or an answer settles one
that waits. -/
private inductive Moves (maxPerSecond : ExactNumber) (s s' : Matchmaker) : Event → Prop
  | arrive {call : ℕ} {now : ℚ} {requestedRoomId : Option String} (limited : Bool)
      (fresh : ∀ other ∈ s.calls, other.id ≠ call) (late : ∀ other ∈ s.calls, other.now ≤ now)
      (calls : s'.calls = s.calls ++ [.arriving call now requestedRoomId limited])
      (judged : limited = maxPerSecond.le (.finite (recent 1000 s.admittedAt now).length))
      (kept : s'.admittedAt = if limited then recent 1000 s.admittedAt now
        else recent 1000 s.admittedAt now ++ [now]) :
      Moves maxPerSecond s s' (.call call now requestedRoomId)
  | settle {call : ℕ} {answer : Option (List RoomRegistryRecord)} (admission : Admission)
      (ne : admission ≠ .rejected .rateLimited)
      (calls : s'.calls = s.calls.map (FindGame.settle call admission))
      (kept : s'.admittedAt = s.admittedAt) : Moves maxPerSecond s s' (.listed call answer)
  | refresh {now : ℚ} (calls : s'.calls = s.calls) (kept : s'.admittedAt = s.admittedAt) :
      Moves maxPerSecond s s' (.refreshMetrics now)

private theorem chooseRoom_ne {requestedRoomId : Option String} {rooms : List RoomRegistryRecord} {rejection : Rejection}
    (h : chooseRoom requestedRoomId rooms = .error rejection) : rejection ≠ .rateLimited := by
  have hunavailable : ∀ b : Bool, (if b = true then Rejection.roomUnavailable else .noRoom) ≠ .rateLimited := by decide
  unfold chooseRoom at h
  dsimp only at h
  split at h
  · cases h
    exact hunavailable _
  · split at h
    · cases h
    · cases h
      exact hunavailable _

/-- The answer settles the call, never as one that the limit rejected. -/
private theorem listed_calls (c : FindGame) (answer : Option (List RoomRegistryRecord)) :
    ∃ admission, admission ≠ .rejected .rateLimited ∧ ∀ s : Matchmaker,
      (s.listed c answer).calls = s.calls.map (FindGame.settle c.id admission) ∧
        (s.listed c answer).admittedAt = s.admittedAt := by
  cases answer with
  | none => exact ⟨.rejected .directoryUnavailable, by decide, fun s => ⟨rfl, rfl⟩⟩
  | some rooms =>
    cases hroom : chooseRoom c.requestedRoomId rooms with
    | ok room =>
      refine ⟨.accepted room, (fun h => nomatch h), fun s => ?_⟩
      unfold listed
      dsimp only
      rw [hroom]
      exact ⟨rfl, rfl⟩
    | error rejection =>
      refine ⟨.rejected rejection, fun h => chooseRoom_ne hroom (Admission.rejected.inj h), fun s => ?_⟩
      unfold listed
      dsimp only
      rw [hroom]
      exact ⟨rfl, rfl⟩

private theorem moves_of_step {event : Event} (h : s.step maxPerSecond event = some s') :
    Moves maxPerSecond s s' event := by
  cases event with
  | call call now requestedRoomId =>
    unfold step at h
    dsimp only at h
    split at h
    · rename_i hguard
      cases h
      unfold findGame
      dsimp only
      split
      · rename_i hfull
        exact .arrive true hguard.1 hguard.2 rfl hfull.symm rfl
      · rename_i hfull
        exact .arrive false hguard.1 hguard.2 rfl (Bool.eq_false_iff.2 hfull).symm rfl
    · cases h
  | listed call answer =>
    unfold step at h
    obtain ⟨c, hc, rfl⟩ := Option.map_eq_some_iff.1 h
    have hid : c.id = call := (of_decide_eq_true (List.find?_some hc :)).1
    obtain ⟨admission, hne, hlisted⟩ := listed_calls c answer
    rw [hid] at hlisted
    exact .settle admission hne (hlisted s).1 (hlisted s).2
  | refreshMetrics now =>
    cases h
    exact .refresh rfl rfl

/-! ### The limit -/

private theorem arriving_rateLimited (call : ℕ) (now : ℚ) (requestedRoomId : Option String) (limited : Bool) :
    (FindGame.arriving call now requestedRoomId limited).rateLimited = limited := by
  cases limited <;> rfl

private theorem settle_rateLimited {admission : Admission} (hne : admission ≠ .rejected .rateLimited) (call : ℕ)
    (c : FindGame) : (c.settle call admission).rateLimited = c.rateLimited := by
  unfold FindGame.settle
  split
  · rename_i h
    unfold FindGame.rateLimited
    rw [h.2]
    exact decide_eq_false hne
  · rfl

private theorem settle_now (call : ℕ) (admission : Admission) (c : FindGame) :
    (c.settle call admission).now = c.now := by
  unfold FindGame.settle
  split <;> rfl

private theorem settle_id (call : ℕ) (admission : Admission) (c : FindGame) :
    (c.settle call admission).id = c.id := by
  unfold FindGame.settle
  split <;> rfl

private theorem admittedTimes_settle {admission : Admission} (hne : admission ≠ .rejected .rateLimited) (call : ℕ)
    (calls : List FindGame) : admittedTimes (calls.map (FindGame.settle call admission)) = admittedTimes calls := by
  unfold admittedTimes
  rw [List.filter_map, List.map_map]
  congr 1
  · funext c
    exact settle_now call admission c
  · refine List.filter_congr fun c _ => ?_
    rw [Function.comp_apply, settle_rateLimited hne]

private theorem admittedTimes_append (calls : List FindGame) (c : FindGame) :
    admittedTimes (calls ++ [c]) = if c.rateLimited then admittedTimes calls else admittedTimes calls ++ [c.now] := by
  unfold admittedTimes
  rw [List.filter_append, List.map_append]
  split
  · rename_i h
    rw [List.filter_cons_of_neg (by simp [h])]
    exact List.append_nil _
  · rename_i h
    rw [List.filter_cons_of_pos (by simpa using h)]
    rfl

private theorem mem_admittedTimes {calls : List FindGame} {time : ℚ} (h : time ∈ admittedTimes calls) :
    ∃ c ∈ calls, c.now = time := by
  obtain ⟨c, hc, rfl⟩ := List.mem_map.1 h
  exact ⟨c, List.mem_of_mem_filter hc, rfl⟩

/-- The times that are kept decide as the calls that were let in do, each call was judged by those before it, and no
second holds too many of them. -/
private structure Metered (maxPerSecond : ExactNumber) (s : Matchmaker) : Prop where
  keeps : ∀ now, (∀ c ∈ s.calls, c.now ≤ now) → Keeps 1000 s.admittedAt (admittedTimes s.calls) now
  judged : ∀ i c, s.calls[i]? = some c →
    c.rateLimited = maxPerSecond.le (.finite (admittedWithin (s.calls.take i) c.now))
  limited : ∀ m, maxPerSecond = .finite m → Limited 1000 (admittedTimes s.calls) ⌈m⌉₊

private theorem metered_empty : Metered maxPerSecond empty where
  keeps _ _ := Keeps.nil
  judged _ _ h := by cases h
  limited _ _ := Limited.nil _

private theorem Metered.step (h : Metered maxPerSecond s) {event : Event}
    (hstep : s.step maxPerSecond event = some s') : Metered maxPerSecond s' := by
  cases moves_of_step hstep with
  | @arrive call now requestedRoomId limited hfresh hlate hcalls hjudged hkept =>
    have hkeeps := h.keeps now hlate
    have hwithin : limited = maxPerSecond.le (.finite (admittedWithin s.calls now)) := by
      rw [hjudged, hkeeps.recent_eq le_rfl]
      rfl
    refine ⟨fun t ht => ?_, fun i d hd => ?_, fun m hm => ?_⟩
    · rw [hcalls] at ht
      have hnt : now ≤ t := ht (.arriving call now requestedRoomId limited) (by simp)
      rw [hcalls, hkept, admittedTimes_append, arriving_rateLimited]
      split
      · exact (hkeeps.refuse le_rfl).mono hnt
      · exact (hkeeps.letIn le_rfl).mono hnt
    · rw [hcalls] at hd ⊢
      rcases Nat.lt_or_ge i s.calls.length with hi | hi
      · rw [List.getElem?_append_left hi] at hd
        rw [List.take_append_of_le_length hi.le]
        exact h.judged i d hd
      · have hlast : i = s.calls.length := by
          have := (List.getElem?_eq_some_iff.1 hd).1
          rw [List.length_append, List.length_singleton] at this
          omega
        subst hlast
        rw [List.getElem?_append_right le_rfl, Nat.sub_self] at hd
        cases hd
        rw [List.take_left, arriving_rateLimited]
        exact hwithin
    · rw [hcalls, admittedTimes_append, arriving_rateLimited]
      split
      · exact h.limited m hm
      · rename_i hlet
        rw [hwithin, hm] at hlet
        have hroom : ((admittedWithin s.calls now : ℕ) : ℚ) < m := by
          simpa [ExactNumber.le] using hlet
        refine (h.limited m hm).letIn (fun time htime => ?_) (Nat.lt_ceil.2 hroom)
        obtain ⟨d, hd, rfl⟩ := mem_admittedTimes htime
        exact hlate d hd
  | @settle call answer admission hne hmap hkept =>
    refine ⟨fun t ht => ?_, fun i d hd => ?_, fun m hm => ?_⟩
    · rw [hmap, hkept, admittedTimes_settle hne]
      refine h.keeps t fun c hc => ?_
      rw [← settle_now call admission c]
      exact ht _ (by rw [hmap]; exact List.mem_map_of_mem hc)
    · rw [hmap, List.getElem?_map] at hd
      obtain ⟨c, hc, rfl⟩ := Option.map_eq_some_iff.1 hd
      rw [settle_rateLimited hne, settle_now, h.judged i c hc, hmap, ← List.map_take]
      unfold admittedWithin
      rw [admittedTimes_settle hne]
    · rw [hmap, admittedTimes_settle hne]
      exact h.limited m hm
  | refresh hcalls hkept =>
    refine ⟨?_, ?_, ?_⟩
    · rw [hcalls, hkept]
      exact h.keeps
    · rw [hcalls]
      exact h.judged
    · rw [hcalls]
      exact h.limited

/-! ### Without the rejected calls -/

/-- The event is not a call that the limit rejected. -/
def keepsEvent (s : Matchmaker) : Event → Bool
  | .call call _ _ => !decide (s.RateLimited call)
  | _ => true

/-- Once a call has come, it is settled whether the limit rejected it. -/
private theorem rateLimited_step {call : ℕ} {event : Event} (hcome : ∃ c ∈ s.calls, c.id = call)
    (h : s.step maxPerSecond event = some s') :
    (∃ c ∈ s'.calls, c.id = call) ∧ (s'.RateLimited call ↔ s.RateLimited call) := by
  obtain ⟨c, hc, hid⟩ := hcome
  cases moves_of_step h with
  | @arrive other now requestedRoomId limited hfresh _ hcalls _ _ =>
    refine ⟨⟨c, by rw [hcalls]; exact List.mem_append_left _ hc, hid⟩, ?_⟩
    unfold RateLimited
    rw [hcalls]
    constructor
    · rintro ⟨d, hd, hdid, hlimited⟩
      rcases List.mem_append.1 hd with hd | hd
      · exact ⟨d, hd, hdid, hlimited⟩
      · rw [List.mem_singleton.1 hd] at hdid
        exact absurd (hid.trans hdid.symm) (hfresh c hc)
    · rintro ⟨d, hd, hrest⟩
      exact ⟨d, List.mem_append_left _ hd, hrest⟩
  | @settle other answer admission hne hmap _ =>
    refine ⟨⟨_, by rw [hmap]; exact List.mem_map_of_mem hc, (settle_id ..).trans hid⟩, ?_⟩
    unfold RateLimited
    rw [hmap]
    constructor
    · rintro ⟨d, hd, hdid, hlimited⟩
      obtain ⟨e, he, rfl⟩ := List.mem_map.1 hd
      rw [settle_id] at hdid
      rw [settle_rateLimited hne] at hlimited
      exact ⟨e, he, hdid, hlimited⟩
    · rintro ⟨d, hd, hdid, hlimited⟩
      exact ⟨_, List.mem_map_of_mem hd, (settle_id ..).trans hdid, (settle_rateLimited hne ..).trans hlimited⟩
  | refresh hcalls _ =>
    unfold RateLimited
    rw [hcalls]
    exact ⟨⟨c, hc, hid⟩, Iff.rfl⟩

private theorem rateLimited_run {call : ℕ} {events : List Event} (hcome : ∃ c ∈ s.calls, c.id = call)
    (h : Machine.runFrom (step maxPerSecond) s events = some t) : t.RateLimited call ↔ s.RateLimited call := by
  let Inv := fun x : Matchmaker => (∃ c ∈ x.calls, c.id = call) ∧ (x.RateLimited call ↔ s.RateLimited call)
  have hstep : ∀ x event x', Inv x → x.step maxPerSecond event = some x' → Inv x' := by
    intro x event x' hx hstep
    obtain ⟨hcome', hiff⟩ := rateLimited_step hx.1 hstep
    exact ⟨hcome', hiff.trans hx.2⟩
  exact (Machine.invariant_of_step hstep ⟨hcome, Iff.rfl⟩ h).2

/-- The second matchmaker has had the calls that the limit let in, and no others. -/
private structure Erased (maxPerSecond : ExactNumber) (s r : Matchmaker) : Prop where
  calls : r.calls = s.calls.filter fun c => !c.rateLimited
  metered : Metered maxPerSecond s
  metered' : Metered maxPerSecond r

variable {r : Matchmaker}

private theorem Erased.subset (h : Erased maxPerSecond s r) {c : FindGame} (hc : c ∈ r.calls) : c ∈ s.calls := by
  rw [h.calls] at hc
  exact List.mem_of_mem_filter hc

private theorem Erased.admittedTimes (h : Erased maxPerSecond s r) : admittedTimes r.calls = admittedTimes s.calls := by
  unfold Opsia.admittedTimes
  rw [h.calls, List.filter_filter]
  congr 2
  funext c
  exact Bool.and_self _

private theorem Erased.call (h : Erased maxPerSecond s r) {call : ℕ} {now : ℚ} {requestedRoomId : Option String}
    (hstep : s.step maxPerSecond (.call call now requestedRoomId) = some s') :
    (s'.RateLimited call ∧ Erased maxPerSecond s' r) ∨ (¬s'.RateLimited call ∧
      ∃ r', r.step maxPerSecond (.call call now requestedRoomId) = some r' ∧ Erased maxPerSecond s' r') := by
  have hmetered := h.metered.step hstep
  cases moves_of_step hstep with
  | arrive limited hfresh hlate hcalls hjudged hkept =>
    cases limited with
    | true =>
      refine .inl ⟨⟨.arriving call now requestedRoomId true, by rw [hcalls]; simp, rfl, rfl⟩, ⟨?_, hmetered, h.metered'⟩⟩
      rw [hcalls, List.filter_append, h.calls]
      exact (List.append_nil _).symm
    | false =>
      refine .inr ⟨?_, ?_⟩
      · rintro ⟨c, hc, hid, hlimited⟩
        rw [hcalls] at hc
        rcases List.mem_append.1 hc with hc | hc
        · exact hfresh c hc hid
        · rw [List.mem_singleton.1 hc] at hlimited
          cases hlimited
      · have hr : r.step maxPerSecond (.call call now requestedRoomId) =
            some (r.findGame maxPerSecond call now requestedRoomId) :=
          if_pos ⟨fun c hc => hfresh c (h.subset hc), fun c hc => hlate c (h.subset hc)⟩
        refine ⟨_, hr, ?_, hmetered, h.metered'.step hr⟩
        cases moves_of_step hr with
        | arrive limited' _ hlate' hcalls' hjudged' _ =>
          -- both are judged by the calls that were let in, which are the same
          have hsame : limited' = false := by
            rw [hjudged', hjudged, (h.metered'.keeps now hlate').recent_eq le_rfl,
              (h.metered.keeps now hlate).recent_eq le_rfl, h.admittedTimes]
          rw [hcalls', hcalls, hsame, List.filter_append, h.calls]
          rfl

private theorem Erased.listed (h : Erased maxPerSecond s r) {call : ℕ} {answer : Option (List RoomRegistryRecord)}
    (hstep : s.step maxPerSecond (.listed call answer) = some s') :
    ∃ r', r.step maxPerSecond (.listed call answer) = some r' ∧ Erased maxPerSecond s' r' := by
  have hmetered := h.metered.step hstep
  obtain ⟨c, hc, rfl⟩ := Option.map_eq_some_iff.1 hstep
  have hfind : r.calls.find? (fun c => decide (c.id = call ∧ c.admission = .waiting)) = some c := by
    rw [h.calls, List.find?_filter, ← hc]
    congr 1
    funext d
    by_cases hd : d.id = call ∧ d.admission = .waiting
    · have hlimited : d.rateLimited = false := by
        unfold FindGame.rateLimited
        rw [hd.2]
        rfl
      simp [hd, hlimited]
    · simp [hd]
  have hr : r.step maxPerSecond (.listed call answer) = some (r.listed c answer) := by
    unfold Matchmaker.step
    dsimp only
    rw [hfind]
    rfl
  obtain ⟨admission, hne, hlisted⟩ := listed_calls c answer
  refine ⟨_, hr, ?_, hmetered, h.metered'.step hr⟩
  rw [(hlisted r).1, (hlisted s).1, h.calls, List.filter_map]
  congr 1
  refine List.filter_congr fun d _ => ?_
  rw [Function.comp_apply, settle_rateLimited hne]

/-- The run without the calls that the limit rejects is a run, in which the same comes of all other calls. -/
private theorem Erased.run (h : Erased maxPerSecond s r) {events : List Event}
    (hrun : Machine.runFrom (Matchmaker.step maxPerSecond) s events = some t) :
    ∃ r', Machine.runFrom (Matchmaker.step maxPerSecond) r (events.filter t.keepsEvent) = some r' ∧
      r'.calls = t.calls.filter fun c => !c.rateLimited := by
  induction events generalizing s r with
  | nil =>
    cases hrun
    exact ⟨r, rfl, h.calls⟩
  | cons event events ih =>
    obtain ⟨s', hstep, hrest⟩ := Option.bind_eq_some_iff.1 hrun
    have hgo : ∀ r₁, r.step maxPerSecond event = some r₁ → Erased maxPerSecond s' r₁ → t.keepsEvent event = true →
        ∃ r', Machine.runFrom (Matchmaker.step maxPerSecond) r ((event :: events).filter t.keepsEvent) = some r' ∧
          r'.calls = t.calls.filter fun c => !c.rateLimited := by
      intro r₁ hr₁ herased hkeeps
      obtain ⟨r', hr', hcalls⟩ := ih herased hrest
      refine ⟨r', ?_, hcalls⟩
      rw [List.filter_cons_of_pos hkeeps, Machine.runFrom_cons hr₁]
      exact hr'
    cases event with
    | call call now requestedRoomId =>
      have hcome : ∃ c ∈ s'.calls, c.id = call := by
        cases moves_of_step hstep with
        | arrive limited _ _ hcalls _ _ =>
          exact ⟨.arriving call now requestedRoomId limited, by rw [hcalls]; simp, rfl⟩
      have hlast := rateLimited_run hcome hrest
      rcases h.call hstep with ⟨hlimited, herased⟩ | ⟨hnot, r₁, hr₁, herased⟩
      · obtain ⟨r', hr', hcalls⟩ := ih herased hrest
        refine ⟨r', ?_, hcalls⟩
        rw [List.filter_cons_of_neg (by simp [keepsEvent, hlast.2 hlimited])]
        exact hr'
      · have hnot' : ¬t.RateLimited call := fun hl => hnot (hlast.1 hl)
        exact hgo r₁ hr₁ herased (by simp [keepsEvent, hnot'])
    | listed call answer =>
      obtain ⟨r₁, hr₁, herased⟩ := h.listed hstep
      exact hgo r₁ hr₁ herased rfl
    | refreshMetrics now =>
      have hmetered := h.metered.step hstep
      cases hstep
      have hr : r.step maxPerSecond (.refreshMetrics now) = some (r.refreshMetrics now) := rfl
      exact hgo _ hr ⟨h.calls, hmetered, h.metered'.step hr⟩ rfl

end Matchmaker

open Matchmaker

/-- In every run, in any interleaving with the lookups and whatever comes of them: no second that ends at any time holds
more calls that were let in than `maxPerSecond` rounded up; a call is rejected by the limit just when at least
`maxPerSecond` calls before it were let in within the second that ends with it; and without the calls that the limit
rejected, the same comes of all others. -/
theorem matchmaker_spec (maxPerSecond : ExactNumber) (events : List Event) (s : Matchmaker)
    (h : Machine.runFrom (Matchmaker.step maxPerSecond) empty events = some s) :
    (∀ t m, maxPerSecond = .finite m → admittedWithin s.calls t ≤ ⌈m⌉₊) ∧
    (∀ i c, s.calls[i]? = some c →
      (c.rateLimited = true ↔ maxPerSecond.le (.finite (admittedWithin (s.calls.take i) c.now)) = true)) ∧
    ∃ r, Machine.runFrom (Matchmaker.step maxPerSecond) empty (events.filter s.keepsEvent) = some r ∧
      r.calls = s.calls.filter fun c => !c.rateLimited := by
  have hmetered : Metered maxPerSecond s :=
    Machine.invariant_of_step (fun _ _ _ hx hstep => hx.step hstep) metered_empty h
  exact ⟨fun t m hm => hmetered.limited m hm t, fun i c hc => by rw [hmetered.judged i c hc],
    Erased.run ⟨rfl, metered_empty, metered_empty⟩ h⟩

/-- Three calls at once with room for two. -/
theorem matchmaker_two_of_three :
    ∃ s, Machine.runFrom (Matchmaker.step (.finite 2)) empty
        [.call 0 1000 none, .call 1 1000 none, .call 2 1000 none] = some s ∧
      admittedWithin s.calls 1000 ≤ 2 := by
  have hruns : (Machine.runFrom (Matchmaker.step (.finite 2)) empty
      [.call 0 1000 none, .call 1 1000 none, .call 2 1000 none]).isSome = true := by decide +kernel
  obtain ⟨s, hs⟩ := Option.isSome_iff_exists.1 hruns
  have hle := (matchmaker_spec (.finite 2) _ s hs).1 1000 2 rfl
  rw [Nat.ceil_ofNat] at hle
  exact ⟨s, hs, hle⟩

/-- A call for which there is no room is rejected and takes a slot all the same: the next one is rejected by the limit,
and would not be without it.  A limit that is not a whole number lets one more in. -/
theorem rejected_call_takes_slot :
    ((Machine.runFrom (Matchmaker.step (.finite 1)) empty
        [.call 0 0 none, .listed 0 (some []), .call 1 1 none]).map fun s => s.calls.map FindGame.admission) =
      some [.rejected .noRoom, .rejected .rateLimited] ∧
    ((Machine.runFrom (Matchmaker.step (.finite 1)) empty [.call 1 1 none]).map fun s =>
        s.calls.map FindGame.admission) = some [.waiting] ∧
    ((Machine.runFrom (Matchmaker.step (.finite (3 / 2))) empty [.call 0 0 none, .call 1 0 none]).map fun s =>
        admittedWithin s.calls 0) = some 2 := by
  decide +kernel

end Opsia
