import Mathlib.Algebra.Ring.Nat
import Mathlib.Data.List.Basic
import Mathlib.Tactic.Common

/-!
# Little-endian numbers

A number as a string of bytes, the lowest first. Reading back what was written
gives the number modulo what the width can hold, whatever follows it.
-/

namespace LittleEndian

def bytes : Nat → Nat → List UInt8
  | 0, _ => []
  | width + 1, n => UInt8.ofNat n :: bytes width (n / 256)

def value : List UInt8 → Nat
  | [] => 0
  | b :: bs => b.toNat + 256 * value bs

@[simp] theorem length_bytes (width n : Nat) : (bytes width n).length = width := by
  induction width generalizing n with
  | zero => rfl
  | succ width ih => rw [bytes, List.length_cons, ih]

theorem value_bytes (width n : Nat) : value (bytes width n) = n % 256 ^ width := by
  induction width generalizing n with
  | zero => rw [bytes, value, Nat.pow_zero, Nat.mod_one]
  | succ width ih =>
    have hbyte : (UInt8.ofNat n).toNat = n % 256 := UInt8.toNat_ofNat'
    rw [bytes, value, ih, hbyte, Nat.pow_succ', Nat.mod_mul]

theorem value_lt (bs : List UInt8) : value bs < 256 ^ bs.length := by
  induction bs with
  | nil => exact Nat.one_pos
  | cons b bs ih =>
    have hb := b.toNat_lt
    rw [value, List.length_cons, Nat.pow_succ]
    omega

/-- What a field of `width` bytes can hold, also where it is cut short. -/
theorem value_field_lt (bs : List UInt8) (offset width : Nat) :
    value ((bs.drop offset).take width) < 256 ^ width :=
  calc value ((bs.drop offset).take width)
    _ < 256 ^ ((bs.drop offset).take width).length := value_lt _
    _ ≤ 256 ^ width := Nat.pow_le_pow_right (by decide) (List.length_take_le _ _)

theorem take_bytes {narrow width : Nat} (h : narrow ≤ width) (n : Nat) :
    (bytes width n).take narrow = bytes narrow n := by
  induction width generalizing narrow n with
  | zero =>
    rw [Nat.le_zero.mp h]
    rfl
  | succ width ih =>
    cases narrow with
    | zero => rfl
    | succ narrow =>
      rw [bytes, bytes, List.take_succ_cons, ih (Nat.le_of_succ_le_succ h)]

/-- What was written in a field is read from it, also in fewer bytes if they hold it. -/
theorem value_take_bytes {narrow width n : Nat} (hwidth : narrow ≤ width) (h : n < 256 ^ narrow)
    (rest : List UInt8) : value ((bytes width n ++ rest).take narrow) = n := by
  rw [List.take_append_of_le_length (by rw [length_bytes]; exact hwidth), take_bytes hwidth,
    value_bytes, Nat.mod_eq_of_lt h]

end LittleEndian
