import Mathlib.Order.Basic
import Mathlib.Tactic.Common

/-!
# Timestamps

`util::Timestamp`: whole seconds and nanoseconds, both signed 64-bit integers
in the source and integers here. Division and remainder truncate toward zero,
as they do in C++.
-/

namespace Mysya

structure Timestamp where
  second : Int
  nanosecond : Int
  deriving DecidableEq, Repr

namespace Timestamp

/-- `operator<`. -/
def lt (t other : Timestamp) : Bool :=
  if t.second ≠ other.second then t.second < other.second
  else t.nanosecond < other.nanosecond

/-- `operator+=` with a count of milliseconds; `operator+` is the same on a copy. -/
def add (t : Timestamp) (millisecond : Int) : Timestamp :=
  let second := t.second + millisecond.tdiv 1000
  let nanosecond := t.nanosecond + millisecond.tmod 1000 * 1000000
  -- the source compares with `>`, so a sum of exactly one second is not carried
  if nanosecond > 1000000000 then ⟨second + 1, nanosecond - 1000000000⟩
  else ⟨second, nanosecond⟩

def distanceMillisecond (t other : Timestamp) : Int :=
  let bigger := if t.lt other then other else t
  let smaller := if t.lt other then t else other
  (bigger.second - smaller.second) * 1000 +
    (bigger.nanosecond - smaller.nanosecond).tdiv 1000000

def distanceNanoSecond (t other : Timestamp) : Int :=
  let bigger := if t.lt other then other else t
  let smaller := if t.lt other then t else other
  (bigger.second - smaller.second) * 1000000000 +
    (bigger.nanosecond - smaller.nanosecond)

/-- The time a timestamp stands for, in nanoseconds. -/
def ns (t : Timestamp) : Int := t.second * 1000000000 + t.nanosecond

/-- What `clock_gettime` fills in. -/
def Normalised (t : Timestamp) : Prop := 0 ≤ t.nanosecond ∧ t.nanosecond < 1000000000

instance (t : Timestamp) : Decidable t.Normalised :=
  inferInstanceAs (Decidable (0 ≤ t.nanosecond ∧ t.nanosecond < 1000000000))

theorem lt_iff {t other : Timestamp} (ht : t.Normalised) (hother : other.Normalised) :
    t.lt other = true ↔ t.ns < other.ns := by
  obtain ⟨_, _⟩ := ht
  obtain ⟨_, _⟩ := hother
  simp only [lt, ns]
  split
  · simp only [decide_eq_true_eq]
    omega
  · simp only [decide_eq_true_eq]
    omega

theorem distanceNanoSecond_eq {t other : Timestamp} (h : t.lt other = false) :
    t.distanceNanoSecond other = t.ns - other.ns := by
  simp only [distanceNanoSecond, h, ns]
  simp only [Bool.false_eq_true, if_false]
  omega

theorem ns_add (t : Timestamp) (millisecond : Int) :
    (t.add millisecond).ns = t.ns + millisecond * 1000000 := by
  have hsplit := Int.mul_tdiv_add_tmod millisecond 1000
  simp only [add]
  split
  · simp only [ns]
    omega
  · simp only [ns]
    omega

/-- A sum that is exactly one second over is not carried, but compares as if it were. -/
theorem lt_add_iff {t now : Timestamp} (ht : t.Normalised) (hnow : now.Normalised)
    {millisecond : Int} (h : 0 ≤ millisecond) :
    t.lt (now.add millisecond) = true ↔ t.ns < now.ns + millisecond * 1000000 := by
  rw [← ns_add]
  have hmod : 0 ≤ millisecond.tmod 1000 ∧ millisecond.tmod 1000 < 1000 :=
    ⟨Int.tmod_nonneg _ h, Int.tmod_lt_of_pos _ (by decide)⟩
  have hcarry : 0 ≤ (now.add millisecond).nanosecond ∧
      (now.add millisecond).nanosecond ≤ 1000000000 := by
    obtain ⟨_, _⟩ := hnow
    simp only [add]
    split
    · dsimp only
      omega
    · dsimp only
      omega
  obtain ⟨_, _⟩ := ht
  simp only [lt, ns]
  split
  · simp only [decide_eq_true_eq]
    omega
  · simp only [decide_eq_true_eq]
    omega

end Timestamp

end Mysya
