import Mathlib.Algebra.Ring.Nat
import Mathlib.Data.List.Sort
import Mathlib.Data.List.Range
import Mathlib.Tactic.Common

/-!
# The buffer of unacknowledged inputs

`BoundedGatewayInputBuffer` numbers the inputs of a session and keeps those that no room has acknowledged.  A buffer
carries the facts that its methods rely on: its entries are numbered one after the other from the acknowledged sequence
up, their bytes are counted, and both bounds hold.
-/

namespace Opsia

abbrev Payload := List UInt8

/-- The bounds of a buffer, as its constructor accepts them. -/
structure GatewayLimits where
  maxMessages : Nat
  maxBytes : Nat
  one_le : 1 ≤ maxMessages
  kilobyte_le : 1024 ≤ maxBytes

/-! The bounds of the small limits that rooms are tried on. -/

theorem GatewayLimits.one_le_four : 1 ≤ 4 := by decide

theorem GatewayLimits.kilobyte_le_kilobyte : 1024 ≤ 1024 := le_refl _

structure BufferedGatewayInput where
  sequence : Nat
  payload : Payload
deriving DecidableEq

namespace BufferedGatewayInput

def bytes (entry : BufferedGatewayInput) : Nat := entry.payload.length

def totalBytes (entries : List BufferedGatewayInput) : Nat := (entries.map bytes).sum

@[simp] theorem totalBytes_nil : totalBytes [] = 0 := rfl

@[simp] theorem totalBytes_cons (entry : BufferedGatewayInput) (entries : List BufferedGatewayInput) :
    totalBytes (entry :: entries) = entry.bytes + totalBytes entries := by simp [totalBytes]

@[simp] theorem totalBytes_append (entries more : List BufferedGatewayInput) :
    totalBytes (entries ++ more) = totalBytes entries + totalBytes more := by simp [totalBytes]

/-- In increasing order of their numbers. -/
def Increasing (entries : List BufferedGatewayInput) : Prop :=
  entries.Pairwise fun left right => left.sequence < right.sequence

theorem Increasing.eq_of_mem_iff {entries more : List BufferedGatewayInput} (h : Increasing entries)
    (h' : Increasing more) (hmem : ∀ entry, entry ∈ entries ↔ entry ∈ more) : entries = more := by
  have hanti : Std.Antisymm fun left right : BufferedGatewayInput => left.sequence < right.sequence :=
    ⟨fun _ _ hlt hgt => absurd hlt (by omega)⟩
  have hirrefl : Std.Irrefl fun left right : BufferedGatewayInput => left.sequence < right.sequence :=
    ⟨fun _ => Nat.lt_irrefl _⟩
  exact List.Pairwise.eq_of_mem_iff h h' hmem

/-- Entries of one increasing list are told apart by their numbers. -/
theorem Increasing.eq_of_sequence {entries : List BufferedGatewayInput} (h : Increasing entries)
    {left right : BufferedGatewayInput} (hl : left ∈ entries) (hr : right ∈ entries)
    (heq : left.sequence = right.sequence) : left = right := by
  have hnodup : (entries.map sequence).Nodup := List.pairwise_map.2 (h.imp fun hlt => Nat.ne_of_lt hlt)
  exact List.inj_on_of_nodup_map hnodup hl hr heq

/-- The entries are numbered one after the other, the first one with the number after `start`. -/
def Numbered (start : Nat) (entries : List BufferedGatewayInput) : Prop :=
  entries.map sequence = List.range' (start + 1) entries.length

theorem Numbered.cons_iff {start : Nat} {entry : BufferedGatewayInput} {entries : List BufferedGatewayInput} :
    Numbered start (entry :: entries) ↔ entry.sequence = start + 1 ∧ Numbered (start + 1) entries := by
  unfold Numbered
  rw [List.map_cons, List.length_cons, List.range'_succ]
  exact List.cons_eq_cons

theorem Numbered.mem {start : Nat} {entries : List BufferedGatewayInput} (h : Numbered start entries)
    {entry : BufferedGatewayInput} (he : entry ∈ entries) :
    start < entry.sequence ∧ entry.sequence ≤ start + entries.length := by
  have hmem : entry.sequence ∈ List.range' (start + 1) entries.length := h ▸ List.mem_map_of_mem he
  rw [List.mem_range'_1] at hmem
  omega

theorem Numbered.increasing {start : Nat} {entries : List BufferedGatewayInput} (h : Numbered start entries) :
    Increasing entries := by
  have hlt : (entries.map sequence).Pairwise (· < ·) := by
    rw [show entries.map sequence = _ from h]
    exact List.pairwise_lt_range'
  exact List.pairwise_map.1 hlt

theorem Numbered.append {start : Nat} {entries : List BufferedGatewayInput} (h : Numbered start entries)
    {entry : BufferedGatewayInput} (he : entry.sequence = start + 1 + entries.length) :
    Numbered start (entries ++ [entry]) := by
  have hmap : entries.map sequence = _ := h
  unfold Numbered
  rw [List.map_append, List.map_singleton, hmap, List.length_append, List.length_singleton, List.range'_concat, he,
    Nat.one_mul]

end BufferedGatewayInput

open BufferedGatewayInput

structure BoundedGatewayInputBuffer (limits : GatewayLimits) where
  entries : List BufferedGatewayInput
  nextSequence : Nat
  acknowledgedSequence : Nat
  bufferedBytes : Nat
  numbered : Numbered acknowledgedSequence entries
  next_eq : nextSequence = acknowledgedSequence + 1 + entries.length
  bytes_eq : bufferedBytes = totalBytes entries
  length_le : entries.length ≤ limits.maxMessages
  bytes_le : bufferedBytes ≤ limits.maxBytes

/-- `Number.MAX_SAFE_INTEGER` -/
def maxSafeInteger : Nat := 9007199254740991

/-- The loop of `acknowledge`: drops acknowledged entries from the front and takes their bytes off. -/
def shiftAcknowledged (acknowledged : Nat) : List BufferedGatewayInput → Nat → List BufferedGatewayInput × Nat
  | [], bytes => ([], bytes)
  | entry :: entries, bytes =>
    if entry.sequence ≤ acknowledged then shiftAcknowledged acknowledged entries (bytes - entry.bytes)
    else (entry :: entries, bytes)

private theorem shiftAcknowledged_eq {acknowledged start : Nat} {entries : List BufferedGatewayInput}
    (h : Numbered start entries) (hle : start ≤ acknowledged) (hup : acknowledged ≤ start + entries.length) :
    ∃ gone left, entries = gone ++ left ∧ (∀ entry ∈ gone, entry.sequence ≤ acknowledged) ∧ Numbered acknowledged left ∧
      acknowledged + left.length = start + entries.length ∧
      shiftAcknowledged acknowledged entries (totalBytes entries) = (left, totalBytes left) := by
  induction entries generalizing start with
  | nil =>
    have heq : acknowledged = start := by rw [List.length_nil] at hup; omega
    subst heq
    exact ⟨[], [], rfl, by simp, h, rfl, rfl⟩
  | cons entry entries ih =>
    obtain ⟨hseq, hrest⟩ := Numbered.cons_iff.1 h
    by_cases hgone : entry.sequence ≤ acknowledged
    · rw [List.length_cons] at hup
      obtain ⟨gone, left, rfl, hgone', hleft, hlen, hshift⟩ := ih hrest (by omega) (by omega)
      refine ⟨entry :: gone, left, rfl, ?_, hleft, ?_, ?_⟩
      · intro e he
        rcases List.mem_cons.1 he with rfl | he
        · exact hgone
        · exact hgone' e he
      · rw [List.length_cons]
        omega
      · rw [shiftAcknowledged, if_pos hgone, totalBytes_cons, Nat.add_sub_cancel_left, hshift]
    · have heq : acknowledged = start := by omega
      subst heq
      exact ⟨[], entry :: entries, rfl, by simp, h, rfl, by rw [shiftAcknowledged, if_neg hgone]⟩

namespace BoundedGatewayInputBuffer

variable {limits : GatewayLimits}

def empty : BoundedGatewayInputBuffer limits where
  entries := []
  nextSequence := 1
  acknowledgedSequence := 0
  bufferedBytes := 0
  numbered := rfl
  next_eq := rfl
  bytes_eq := rfl
  length_le := Nat.zero_le _
  bytes_le := Nat.zero_le _

def push (buffer : BoundedGatewayInputBuffer limits) (payload : Payload) :
    Except String (BufferedGatewayInput × BoundedGatewayInputBuffer limits) :=
  if maxSafeInteger ≤ buffer.nextSequence then .error "gateway_input_buffer_overflow:sequence_exhausted"
  else if hlength : limits.maxMessages < buffer.entries.length + 1 then .error "gateway_input_buffer_overflow:message_limit"
  else if hbytes : limits.maxBytes < buffer.bufferedBytes + payload.length then
    .error "gateway_input_buffer_overflow:byte_limit"
  else
    let entry : BufferedGatewayInput := { sequence := buffer.nextSequence, payload }
    .ok (entry,
      { entries := buffer.entries ++ [entry]
        nextSequence := buffer.nextSequence + 1
        acknowledgedSequence := buffer.acknowledgedSequence
        bufferedBytes := buffer.bufferedBytes + entry.bytes
        numbered := buffer.numbered.append buffer.next_eq
        next_eq := by rw [buffer.next_eq, List.length_append, List.length_singleton, Nat.add_assoc]
        bytes_eq := by simp [buffer.bytes_eq]
        length_le := by rw [List.length_append, List.length_singleton]; omega
        bytes_le := by show buffer.bufferedBytes + payload.length ≤ _; omega })

/-- What `acknowledge` leaves, once the sequence is bounded by the numbers given out. -/
theorem shifted (buffer : BoundedGatewayInputBuffer limits) {acknowledged : Nat}
    (hle : buffer.acknowledgedSequence ≤ acknowledged) (hlt : acknowledged < buffer.nextSequence) :
    ∃ gone left, buffer.entries = gone ++ left ∧ (∀ entry ∈ gone, entry.sequence ≤ acknowledged) ∧
      Numbered acknowledged left ∧ acknowledged + left.length + 1 = buffer.nextSequence ∧
      shiftAcknowledged acknowledged buffer.entries buffer.bufferedBytes = (left, totalBytes left) := by
  have hnext := buffer.next_eq
  obtain ⟨gone, left, hsplit, hgone, hleft, hlen, hshift⟩ :=
    shiftAcknowledged_eq buffer.numbered hle (by omega)
  exact ⟨gone, left, hsplit, hgone, hleft, by omega, by rw [buffer.bytes_eq, hshift]⟩

def acknowledge (buffer : BoundedGatewayInputBuffer limits) (sequence : Nat) : BoundedGatewayInputBuffer limits :=
  if hskip : maxSafeInteger < sequence ∨ sequence ≤ buffer.acknowledgedSequence then buffer
  else
    let acknowledged := min sequence (buffer.nextSequence - 1)
    have hnext := buffer.next_eq
    have hshift := buffer.shifted (show buffer.acknowledgedSequence ≤ acknowledged by omega) (by omega)
    { entries := (shiftAcknowledged acknowledged buffer.entries buffer.bufferedBytes).1
      nextSequence := buffer.nextSequence
      acknowledgedSequence := acknowledged
      bufferedBytes := (shiftAcknowledged acknowledged buffer.entries buffer.bufferedBytes).2
      numbered := by
        obtain ⟨gone, left, -, -, hleft, -, heq⟩ := hshift
        rw [heq]
        exact hleft
      next_eq := by
        obtain ⟨gone, left, -, -, -, hlen, heq⟩ := hshift
        rw [heq]
        dsimp only
        omega
      bytes_eq := by
        obtain ⟨gone, left, -, -, -, -, heq⟩ := hshift
        rw [heq]
      length_le := by
        obtain ⟨gone, left, hsplit, -, -, -, heq⟩ := hshift
        have hle := buffer.length_le
        rw [hsplit, List.length_append] at hle
        rw [heq]
        dsimp only
        omega
      bytes_le := by
        obtain ⟨gone, left, hsplit, -, -, -, heq⟩ := hshift
        have hle := buffer.bytes_le
        rw [buffer.bytes_eq, hsplit, totalBytes_append] at hle
        rw [heq]
        dsimp only
        omega }

def replayAfter (buffer : BoundedGatewayInputBuffer limits) (sequence : Nat) : List BufferedGatewayInput :=
  buffer.entries.filter fun entry => sequence < entry.sequence

def latestSequence (buffer : BoundedGatewayInputBuffer limits) : Nat := buffer.nextSequence - 1

def lastAcknowledgedSequence (buffer : BoundedGatewayInputBuffer limits) : Nat := buffer.acknowledgedSequence

def size (buffer : BoundedGatewayInputBuffer limits) : Nat := buffer.entries.length

/-! ### What the methods do -/

theorem mem_entries {buffer : BoundedGatewayInputBuffer limits} {entry : BufferedGatewayInput}
    (h : entry ∈ buffer.entries) : buffer.acknowledgedSequence < entry.sequence ∧ entry.sequence < buffer.nextSequence := by
  have hmem := buffer.numbered.mem h
  have hnext := buffer.next_eq
  omega

/-- Every number between the acknowledged one and the next one belongs to an entry. -/
theorem exists_entry {buffer : BoundedGatewayInputBuffer limits} {sequence : Nat}
    (hlt : buffer.acknowledgedSequence < sequence) (hnext : sequence < buffer.nextSequence) :
    ∃ entry ∈ buffer.entries, entry.sequence = sequence := by
  have hnext' := buffer.next_eq
  have hmem : sequence ∈ buffer.entries.map BufferedGatewayInput.sequence := by
    rw [show buffer.entries.map BufferedGatewayInput.sequence = _ from buffer.numbered, List.mem_range'_1]
    omega
  exact List.mem_map.1 hmem

theorem replayAfter_acknowledged (buffer : BoundedGatewayInputBuffer limits) :
    buffer.replayAfter buffer.acknowledgedSequence = buffer.entries := by
  unfold replayAfter
  rw [List.filter_eq_self]
  intro entry he
  exact decide_eq_true (mem_entries he).1

theorem push_ok {buffer buffer' : BoundedGatewayInputBuffer limits} {payload : Payload} {entry : BufferedGatewayInput}
    (h : buffer.push payload = .ok (entry, buffer')) :
    entry = { sequence := buffer.nextSequence, payload } ∧ buffer'.entries = buffer.entries ++ [entry] ∧
      buffer'.acknowledgedSequence = buffer.acknowledgedSequence ∧ buffer'.nextSequence = buffer.nextSequence + 1 := by
  unfold push at h
  split at h
  · cases h
  split at h
  · cases h
  split at h
  · cases h
  cases h
  exact ⟨rfl, rfl, rfl, rfl⟩

theorem acknowledge_spec (buffer : BoundedGatewayInputBuffer limits) (sequence : Nat) :
    (buffer.acknowledge sequence).nextSequence = buffer.nextSequence ∧
      buffer.acknowledgedSequence ≤ (buffer.acknowledge sequence).acknowledgedSequence ∧
      ((buffer.acknowledge sequence).acknowledgedSequence = buffer.acknowledgedSequence ∨
        (buffer.acknowledge sequence).acknowledgedSequence = min sequence buffer.latestSequence) ∧
      (∃ gone, buffer.entries = gone ++ (buffer.acknowledge sequence).entries ∧
        ∀ entry ∈ gone, entry.sequence ≤ (buffer.acknowledge sequence).acknowledgedSequence) := by
  unfold acknowledge
  split
  · exact ⟨rfl, le_refl _, Or.inl rfl, [], rfl, by simp⟩
  · have hnext := buffer.next_eq
    dsimp only
    obtain ⟨gone, left, hsplit, hgone, -, -, heq⟩ :=
      buffer.shifted (show _ ≤ min sequence (buffer.nextSequence - 1) by omega) (by omega)
    exact ⟨rfl, by omega, Or.inr rfl, gone, by rw [heq, hsplit], hgone⟩

end BoundedGatewayInputBuffer

end Opsia
