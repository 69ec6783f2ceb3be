import Mathlib.Data.List.TakeDrop
import Mathlib.Tactic.Ring

/-!
# Big-endian numbers

The bytes of a natural number, most significant first, and the number that bytes spell.  Writing and reading are
inverse in both directions, on numbers that fit the width and on all byte strings.
-/

namespace Opsia.BigEndian

/-- The number that the bytes spell. -/
def toNat : List UInt8 → Nat
  | [] => 0
  | byte :: bytes => byte.toNat * 256 ^ bytes.length + toNat bytes

/-- The last `width` bytes of a number. -/
def ofNat : Nat → Nat → List UInt8
  | 0, _ => []
  | width + 1, n => UInt8.ofNat (n / 256 ^ width) :: ofNat width n

@[simp] theorem length_ofNat (width n : Nat) : (ofNat width n).length = width := by
  induction width with
  | zero => rfl
  | succ width ih => rw [ofNat, List.length_cons, ih]

theorem toNat_lt (bytes : List UInt8) : toNat bytes < 256 ^ bytes.length := by
  induction bytes with
  | nil => exact Nat.one_pos
  | cons byte bytes ih =>
    have hbyte : byte.toNat < 256 := byte.toNat_lt
    have hmul : (byte.toNat + 1) * 256 ^ bytes.length ≤ 256 * 256 ^ bytes.length := Nat.mul_le_mul_right _ hbyte
    rw [Nat.add_mul, Nat.one_mul] at hmul
    rw [toNat, List.length_cons, pow_succ, Nat.mul_comm _ 256]
    omega

private theorem toNat_ofNat_mod (width n : Nat) : toNat (ofNat width n) = n % 256 ^ width := by
  induction width with
  | zero => rw [ofNat, toNat, pow_zero, Nat.mod_one]
  | succ width ih =>
    have hbyte : (UInt8.ofNat (n / 256 ^ width)).toNat = n / 256 ^ width % 256 := UInt8.toNat_ofNat'
    rw [ofNat, toNat, length_ofNat, ih, hbyte, pow_succ, Nat.mod_mul, Nat.mul_comm, Nat.add_comm]

theorem toNat_ofNat {width n : Nat} (h : n < 256 ^ width) : toNat (ofNat width n) = n := by
  rw [toNat_ofNat_mod, Nat.mod_eq_of_lt h]

/-- Only the last bytes count. -/
private theorem ofNat_add_mul (width n k : Nat) : ofNat width (n + k * 256 ^ width) = ofNat width n := by
  induction width generalizing k with
  | zero => rfl
  | succ width ih =>
    have hsplit : n + k * 256 ^ (width + 1) = n + k * 256 * 256 ^ width := by rw [pow_succ]; ring
    have hhead : (n + k * 256 * 256 ^ width) / 256 ^ width = n / 256 ^ width + k * 256 :=
      Nat.add_mul_div_right _ _ (Nat.pow_pos (by decide))
    have hbyte : UInt8.ofNat (n / 256 ^ width + k * 256) = UInt8.ofNat (n / 256 ^ width) := by
      apply UInt8.toNat_inj.1
      rw [UInt8.toNat_ofNat', UInt8.toNat_ofNat']
      omega
    rw [ofNat, ofNat, hsplit, hhead, hbyte, ih]

theorem ofNat_toNat (bytes : List UInt8) : ofNat bytes.length (toNat bytes) = bytes := by
  induction bytes with
  | nil => rfl
  | cons byte bytes ih =>
    have hdiv : (byte.toNat * 256 ^ bytes.length + toNat bytes) / 256 ^ bytes.length = byte.toNat := by
      rw [Nat.add_comm, Nat.add_mul_div_right _ _ (Nat.pow_pos (by decide)), Nat.div_eq_of_lt (toNat_lt bytes),
        Nat.zero_add]
    rw [toNat, List.length_cons, ofNat, hdiv, Nat.add_comm (byte.toNat * _), ofNat_add_mul, ih]
    congr 1
    exact UInt8.toNat_inj.1 (by rw [UInt8.toNat_ofNat', Nat.mod_eq_of_lt byte.toNat_lt])

/-- Bytes that spell a number are the bytes of that number. -/
theorem eq_ofNat_of_toNat {bytes : List UInt8} {width n : Nat} (hlength : bytes.length = width) (h : toNat bytes = n) :
    bytes = ofNat width n := by
  rw [← ofNat_toNat bytes, hlength, h]

end Opsia.BigEndian
