import Mathlib.Algebra.Order.Group.Nat
import Mathlib.Data.Nat.ModEq
import Mathlib.Tactic.Ring

/-!
# Mixed-radix counters

An odometer whose `i`-th digit runs below `radix i`. The weight of a digit is
the product of the radices below it, and a digit advances exactly when the
count becomes a multiple of its weight. The last part concerns a ring of
buckets driven by one digit: which bucket is current at a multiple of the
weight, and that within one revolution no two multiples share a bucket.
-/

namespace MixedRadix

variable (radix : Nat → Nat)

def weight : Nat → Nat
  | 0 => 1
  | i + 1 => weight i * radix i

def digit (i n : Nat) : Nat := n / weight radix i % radix i

variable {radix}

theorem weight_pos (positive : ∀ i, 0 < radix i) (i : Nat) : 0 < weight radix i := by
  induction i with
  | zero => exact Nat.one_pos
  | succ i ih => exact Nat.mul_pos ih (positive i)

theorem weight_dvd_succ (i : Nat) : weight radix i ∣ weight radix (i + 1) :=
  Dvd.intro _ rfl

theorem weight_dvd {i j : Nat} (h : i ≤ j) : weight radix i ∣ weight radix j := by
  induction h with
  | refl => exact Nat.dvd_refl _
  | step _ ih => exact Nat.dvd_trans ih (weight_dvd_succ _)

/-- The digits below `i` together hold the count modulo the weight of digit `i`. -/
theorem mod_weight_succ (i n : Nat) :
    n % weight radix (i + 1) = n % weight radix i + digit radix i n * weight radix i := by
  rw [weight, Nat.mod_mul, digit, Nat.mul_comm]

theorem digit_lt (positive : ∀ i, 0 < radix i) (i n : Nat) : digit radix i n < radix i :=
  Nat.mod_lt _ (positive i)

/-- A digit whose lower digits have all wrapped wraps itself exactly on a carry. -/
theorem digit_eq_zero_iff (positive : ∀ i, 0 < radix i) {i n : Nat}
    (h : weight radix i ∣ n) : digit radix i n = 0 ↔ weight radix (i + 1) ∣ n := by
  obtain ⟨m, rfl⟩ := h
  have hw := weight_pos positive i
  rw [digit, Nat.mul_div_cancel_left m hw, ← Nat.dvd_iff_mod_eq_zero, weight]
  exact (Nat.mul_dvd_mul_iff_left hw).symm

theorem digit_succ_of_dvd {i n : Nat} (h : weight radix i ∣ n + 1) :
    digit radix i (n + 1) = (digit radix i n + 1) % radix i := by
  rw [digit, digit, Nat.succ_div_of_dvd h, Nat.mod_add_mod]

theorem digit_succ_of_not_dvd {i n : Nat} (h : ¬ weight radix i ∣ n + 1) :
    digit radix i (n + 1) = digit radix i n := by
  rw [digit, digit, Nat.succ_div_of_not_dvd h]

/-- The slot of a ring of `r` that is emptied when the count reaches `k` turns. -/
def slot (r k : Nat) : Nat := (k + r - 1) % r

/-- Stepping a ring position forward empties the slot it leaves. -/
theorem slot_succ {r : Nat} (hr : 0 < r) (k : Nat) : slot r (k + 1) = k % r := by
  rw [slot, show k + 1 + r - 1 = k + r by omega, Nat.add_mod_right]

/-- Within one revolution a slot is emptied once. -/
theorem slot_injective {w r base a b : Nat} (hw : 0 < w) (hr : 0 < r)
    (ha : w ∣ a) (hb : w ∣ b) (hla : base ≤ a) (hlb : base ≤ b)
    (hua : a < base + r * w) (hub : b < base + r * w)
    (same : slot r (a / w) = slot r (b / w)) : a = b := by
  obtain ⟨x, rfl⟩ := ha
  obtain ⟨y, rfl⟩ := hb
  rw [Nat.mul_div_cancel_left x hw, Nat.mul_div_cancel_left y hw] at same
  have hcong : x + (r - 1) ≡ y + (r - 1) [MOD r] := by
    have hx : x + r - 1 = x + (r - 1) := by omega
    have hy : y + r - 1 = y + (r - 1) := by omega
    unfold slot at same
    rw [hx, hy] at same
    exact same
  have hxy : x ≡ y [MOD r] := Nat.ModEq.add_right_cancel' _ hcong
  have close : ∀ p q : Nat, p ≡ q [MOD r] → base ≤ w * p → w * q < base + r * w → q < p + r := by
    intro p q _ hp hq
    by_contra hge
    have hmul : w * (p + r) ≤ w * q := Nat.mul_le_mul_left w (by omega)
    rw [Nat.mul_add, Nat.mul_comm w r] at hmul
    omega
  have h1 := close x y hxy hla hub
  have h2 := close y x hxy.symm hlb hua
  have near : ∀ p q : Nat, p ≤ q → q < p + r → p ≡ q [MOD r] → p = q := by
    intro p q hle hlt hmod
    have hdvd : r ∣ q - p := (Nat.modEq_iff_dvd' hle).mp hmod
    have hzero := Nat.eq_zero_of_dvd_of_lt hdvd (by omega)
    omega
  rcases Nat.le_total x y with h | h
  · rw [near x y h h1 hxy]
  · rw [near y x h h2 hxy.symm]

end MixedRadix
