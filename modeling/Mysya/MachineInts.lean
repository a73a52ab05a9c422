import Mathlib.Tactic.Common

/-!
# Conversions between machine integers

The implicit conversions of the source. Values are `Int` and `Nat`; a
conversion wraps where the target type is too small.
-/

namespace Mysya

/-- A property of bytes from its 256 cases. -/
theorem forall_byte {p : UInt8 → Prop} (h : ∀ n < 256, p (UInt8.ofNat n)) (b : UInt8) : p b := by
  have hb := h b.toNat b.toNat_lt
  rwa [UInt8.ofNat_toNat] at hb

/-- Conversion of an `int` to `size_t`. -/
def toSizeT (n : Int) : Nat := (n % 18446744073709551616).toNat

/-- Conversion to `uint32_t`. -/
def toUint32 (n : Int) : Nat := (n % 4294967296).toNat

/-- Narrowing to `int`. -/
def toInt32 (n : Int) : Int :=
  if toUint32 n < 2147483648 then toUint32 n else (toUint32 n : Int) - 4294967296

/-- Conversion to `uint16_t`. -/
def toUint16 (n : Int) : Nat := (n % 65536).toNat

/-- Narrowing to `int16_t`. -/
def toInt16 (n : Int) : Int :=
  if toUint16 n < 32768 then toUint16 n else (toUint16 n : Int) - 65536

/-- A value that an `int` holds. -/
def FitsInt32 (n : Int) : Prop := -2147483648 ≤ n ∧ n < 2147483648

instance (n : Int) : Decidable (FitsInt32 n) :=
  inferInstanceAs (Decidable (-2147483648 ≤ n ∧ n < 2147483648))

/-- A value that an `int64_t` holds. -/
def FitsInt64 (n : Int) : Prop := -9223372036854775808 ≤ n ∧ n < 9223372036854775808

instance (n : Int) : Decidable (FitsInt64 n) :=
  inferInstanceAs (Decidable (-9223372036854775808 ≤ n ∧ n < 9223372036854775808))

/-- What a sum, a difference or a product of `int64_t` is; an overflow is undefined. -/
def int64 (n : Int) : Option Int := if FitsInt64 n then some n else none

theorem toSizeT_natCast {n : Nat} (h : n < 18446744073709551616) : toSizeT n = n := by
  unfold toSizeT
  omega

theorem toInt32_of_lt {n : Nat} (h : n < 2147483648) : toInt32 n = n := by
  unfold toInt32 toUint32
  omega

theorem toInt16_of_lt {n : Nat} (h : n < 32768) : toInt16 n = n := by
  unfold toInt16 toUint16
  omega

theorem toUint32_of_lt {n : Nat} (h : n < 4294967296) : toUint32 n = n := by
  unfold toUint32
  omega

/-- An `int` comes back from its four bytes. -/
theorem toInt32_toUint32 {n : Int} (h : -2147483648 ≤ n ∧ n < 2147483648) :
    toInt32 (toUint32 n) = n := by
  unfold toInt32 toUint32
  omega

theorem toInt32_eq {n : Int} (h : -2147483648 ≤ n ∧ n < 2147483648) : toInt32 n = n := by
  unfold toInt32 toUint32
  omega

theorem toInt32_range (n : Int) : -2147483648 ≤ toInt32 n ∧ toInt32 n < 2147483648 := by
  unfold toInt32 toUint32
  omega

theorem toInt32_le (n : Nat) : toInt32 n ≤ n := by
  unfold toInt32 toUint32
  omega

end Mysya
