import Mathlib.Data.List.Basic
import Mathlib.Data.Nat.Bitwise
import Mathlib.Tactic.Common

/-!
# Fields of bits in bytes

The bits of a list of bytes are numbered from the least significant bit of the first byte on (`bitAt`).  A field is a
list of bits at a place (`Holds`); fields that follow one another are one field (`holds_append`), and a field stays as
long as no bit of it is touched (`Holds.congr`).  The field of a number is its lowest bits (`bitsOf`).
-/

namespace Opsia.BitField

/-- A bit of a list of bytes; there are zeros behind its end. -/
def bitAt (bytes : List UInt8) (i : ℕ) : Bool := (bytes.getD (i / 8) 0).toBitVec.getLsbD (i % 8)

/-- The bits from a place on. -/
def Holds (bytes : List UInt8) (start : ℕ) (bits : List Bool) : Prop :=
  ∀ k b, bits[k]? = some b → bitAt bytes (start + k) = b

/-- The lowest bits of a number. -/
def bitsOf (count value : ℕ) : List Bool := (List.range count).map fun k => value.testBit k

variable {bytes bytes' : List UInt8} {start count value i : ℕ} {bits more : List Bool}

@[simp] theorem length_bitsOf (count value : ℕ) : (bitsOf count value).length = count := by
  unfold bitsOf
  rw [List.length_map, List.length_range]

theorem getElem?_bitsOf (count value k : ℕ) :
    (bitsOf count value)[k]? = if k < count then some (value.testBit k) else none := by
  unfold bitsOf
  rw [List.getElem?_map]
  split
  · rename_i h
    rw [List.getElem?_range h]
    rfl
  · rename_i h
    rw [List.getElem?_eq_none (by rw [List.length_range]; omega)]
    rfl

/-- A longer word has the same lowest bits. -/
theorem bitsOf_mod {width : ℕ} (value : ℕ) (h : count ≤ width) :
    bitsOf count (value % 2 ^ width) = bitsOf count value := by
  refine List.map_congr_left fun k hk => ?_
  have hlt := List.mem_range.1 hk
  simp [Nat.testBit_mod_two_pow, hlt.trans_le h]

theorem holds_nil (bytes : List UInt8) (start : ℕ) : Holds bytes start [] := fun _ _ h => nomatch h

/-- Fields that follow one another. -/
theorem holds_append :
    Holds bytes start (bits ++ more) ↔ Holds bytes start bits ∧ Holds bytes (start + bits.length) more := by
  constructor
  · intro h
    refine ⟨fun k b hk => h k b ?_, fun k b hk => ?_⟩
    · rw [List.getElem?_append_left (List.getElem?_eq_some_iff.1 hk).1, hk]
    · rw [Nat.add_assoc]
      refine h _ b ?_
      rw [List.getElem?_append_right (by omega), Nat.add_sub_cancel_left, hk]
  · rintro ⟨hbits, hmore⟩ k b hk
    rcases Nat.lt_or_ge k bits.length with hlt | hge
    · rw [List.getElem?_append_left hlt] at hk
      exact hbits k b hk
    · rw [List.getElem?_append_right hge] at hk
      have hrest := hmore _ b hk
      rwa [show start + bits.length + (k - bits.length) = start + k by omega] at hrest

/-- A field whose bits are as they were. -/
theorem Holds.congr (h : Holds bytes start bits)
    (hsame : ∀ j, start ≤ j → j < start + bits.length → bitAt bytes' j = bitAt bytes j) : Holds bytes' start bits := by
  intro k b hk
  have hlt := (List.getElem?_eq_some_iff.1 hk).1
  rw [hsame _ (by omega) (by omega)]
  exact h k b hk

theorem holds_bitsOf :
    Holds bytes start (bitsOf count value) ↔ ∀ k < count, bitAt bytes (start + k) = value.testBit k := by
  constructor
  · intro h k hk
    exact h k _ (by rw [getElem?_bitsOf, if_pos hk])
  · intro h k b hb
    rw [getElem?_bitsOf] at hb
    split at hb
    · cases hb
      exact h k ‹_›
    · cases hb

/-- The number whose field is at a place. -/
def valueAt (bytes : List UInt8) (start : ℕ) : (count : ℕ) → ℕ
  | 0 => 0
  | count + 1 => valueAt bytes start count + (bitAt bytes (start + count)).toNat * 2 ^ count

theorem valueAt_lt (bytes : List UInt8) (start count : ℕ) : valueAt bytes start count < 2 ^ count := by
  induction count with
  | zero => exact Nat.one_pos
  | succ count ih =>
    unfold valueAt
    rw [Nat.pow_succ]
    have hbit := Bool.toNat_le (bitAt bytes (start + count))
    have hle := Nat.mul_le_mul_right (2 ^ count) hbit
    omega

/-- Every place holds the field of its number. -/
theorem holds_valueAt (bytes : List UInt8) (start count : ℕ) :
    Holds bytes start (bitsOf count (valueAt bytes start count)) := by
  rw [holds_bitsOf]
  induction count with
  | zero => exact fun k hk => absurd hk (Nat.not_lt_zero k)
  | succ count ih =>
    intro k hk
    have hlt := valueAt_lt bytes start count
    unfold valueAt
    cases hbit : bitAt bytes (start + count) with
    | false =>
      rw [Bool.toNat_false, Nat.zero_mul, Nat.add_zero]
      rcases Nat.lt_or_ge k count with hk' | hk'
      · exact ih k hk'
      · obtain rfl : k = count := by omega
        rw [hbit, Nat.testBit_lt_two_pow hlt]
    | true =>
      rw [Bool.toNat_true, Nat.one_mul, Nat.add_comm (valueAt bytes start count)]
      rcases Nat.lt_or_ge k count with hk' | hk'
      · rw [ih k hk', Nat.testBit_two_pow_add_gt hk']
      · obtain rfl : k = count := by omega
        rw [hbit, Nat.testBit_two_pow_add_eq, Nat.testBit_lt_two_pow hlt]
        rfl

/-- A place holds the field of one number only. -/
theorem valueAt_eq (h : Holds bytes start (bitsOf count value)) (hvalue : value < 2 ^ count) :
    valueAt bytes start count = value := by
  refine Nat.eq_of_testBit_eq fun k => ?_
  rcases Nat.lt_or_ge k count with hk | hk
  · rw [← holds_bitsOf.1 (holds_valueAt bytes start count) k hk, holds_bitsOf.1 h k hk]
  · have hle : 2 ^ count ≤ 2 ^ k := Nat.pow_le_pow_right (by omega) hk
    rw [Nat.testBit_lt_two_pow ((valueAt_lt bytes start count).trans_le hle),
      Nat.testBit_lt_two_pow (hvalue.trans_le hle)]

/-- A byte that is set changes its own bits. -/
theorem bitAt_set (bytes : List UInt8) (n : ℕ) (byte : UInt8) (i : ℕ) (hn : n < bytes.length) :
    bitAt (bytes.set n byte) i = if i / 8 = n then byte.toBitVec.getLsbD (i % 8) else bitAt bytes i := by
  unfold bitAt
  rw [List.getD_eq_getElem?_getD, List.getD_eq_getElem?_getD]
  split
  · rename_i h
    rw [h, List.getElem?_set_self hn]
    rfl
  · rename_i h
    rw [List.getElem?_set_ne (Ne.symm h)]

/-- Bytes that are cut off behind a field leave it. -/
theorem bitAt_take (bytes : List UInt8) (n i : ℕ) (h : i < 8 * n) : bitAt (bytes.take n) i = bitAt bytes i := by
  unfold bitAt
  rw [List.getD_eq_getElem?_getD, List.getD_eq_getElem?_getD, List.getElem?_take_of_lt (by omega)]

end Opsia.BitField
