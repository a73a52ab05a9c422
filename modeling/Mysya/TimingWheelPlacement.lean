import Mysya.TimingWheel

/-!
# Where `AddWheel` puts a timer

The loop of `AddWheel` stops at the wheel whose weight brackets the tick
count. `putIn` is its effect there; `lowerTicks` is what the loop has
accumulated from the current buckets of the wheels below.
-/

namespace Mysya.TimingWheel

open MixedRadix

abbrev ringWeight : Nat → Nat := weight kTimingWheelBucketNum

theorem two_le_bucketNum (i : Nat) : 2 ≤ kTimingWheelBucketNum i := by
  cases i with
  | zero => decide
  | succ i => exact (by decide : 2 ≤ 64)

theorem bucketNum_pos (i : Nat) : 0 < kTimingWheelBucketNum i := by
  have := two_le_bucketNum i
  omega

theorem ringWeight_pos (i : Nat) : 0 < ringWeight i := weight_pos bucketNum_pos i

theorem ringWeight_succ (i : Nat) : ringWeight (i + 1) = ringWeight i * kTimingWheelBucketNum i :=
  rfl

/-- The five wheels together count to `2 ^ 32`. -/
theorem ringWeight_top : ringWeight kTimingWheelNum = 4294967296 := by decide

theorem ringWeight_le_top {i : Nat} (h : i < kTimingWheelNum) : ringWeight i ≤ 67108864 := by
  have hdvd : ringWeight i ∣ ringWeight 4 := weight_dvd (by unfold kTimingWheelNum at h; omega)
  exact Nat.le_of_dvd (by decide) hdvd

/-- The ticks the current buckets of the wheels below `k` stand for. -/
def lowerTicks (s : TimingWheel) : Nat → Nat
  | 0 => 0
  | k + 1 => lowerTicks s k + (s.wheels k).currentBucket * ringWeight k

def putIn (s : TimingWheel) (t : Timer) (k n : Nat) : TimingWheel × Timer :=
  let bucket := slot (kTimingWheelBucketNum k) ((s.wheels k).currentBucket + n / ringWeight k)
  (s.setBucket k bucket ((s.wheels k).buckets bucket ++ [t.id]),
    { t with wheel := k, bucket := bucket,
             undoTickCounts := lowerTicks s k + (n % ringWeight k : Nat) })

/-- The bucket choice of `Wheel::AddTimer`, with its wrap-around, is a ring slot. -/
theorem bucket_choice {r : Nat} (hr : 0 < r) (k : Nat) :
    (if 0 < k % r then k % r - 1 else r - 1) = slot r k := by
  have hk : r * (k / r) + k % r = k := Nat.div_add_mod k r
  have hlt : k % r < r := Nat.mod_lt k hr
  have hmod : ∀ q m, m < r → (r * q + m) % r = m := by
    intro q m hm
    rw [Nat.mul_add_mod, Nat.mod_eq_of_lt hm]
  unfold slot
  split
  · have he : k + r - 1 = r * (k / r + 1) + (k % r - 1) := by
      rw [Nat.mul_add, Nat.mul_one]; omega
    rw [he, hmod _ _ (by omega)]
  · have he : k + r - 1 = r * (k / r) + (r - 1) := by omega
    rw [he, hmod _ _ (by omega)]

theorem slot_add_mod (r a b : Nat) (hr : 0 < r) : slot r (a % r + b) = slot r (a + b) := by
  unfold slot
  rw [show a % r + b + r - 1 = a % r + (b + (r - 1)) by omega,
    show a + b + r - 1 = a + (b + (r - 1)) by omega, Nat.mod_add_mod]

/-- The loop of `AddWheel` for a positive count: it stops at the first wheel whose
span exceeds the count, having gathered what the lower wheels have already run. -/
theorem addWheelFrom_eq (s : TimingWheel) (t : Timer) {n : Nat} (m i : Nat)
    (low : ringWeight i ≤ n) (high : n < ringWeight (i + m))
    (small : n < 18446744073709551616) :
    ∃ k, i ≤ k ∧ k < i + m ∧ ringWeight k ≤ n ∧ n < ringWeight (k + 1) ∧
      s.addWheelFrom t n m i (lowerTicks s i) (ringWeight i) (ringWeight i) = s.putIn t k n := by
  induction m generalizing i with
  | zero => exact absurd low (by simpa using high)
  | succ m ih =>
    by_cases hstop : n < ringWeight (i + 1)
    · refine ⟨i, Nat.le_refl _, by omega, low, hstop, ?_⟩
      have hmax : (n : Int) < (ringWeight i : Int) * (kTimingWheelBucketNum i : Int) := by
        rw [ringWeight_succ] at hstop
        exact_mod_cast hstop
      have hmod : (n : Int).tmod (ringWeight i : Int) = ((n % ringWeight i : Nat) : Int) := by
        rw [Int.tmod_eq_emod_of_nonneg (by omega)]
        rfl
      simp only [addWheelFrom, hmax, if_true, wheelAddTimer, toSizeT_natCast small,
        bucket_choice (bucketNum_pos i), putIn, hmod,
        Nat.add_comm (n / weight kTimingWheelBucketNum i)]
    · have hmax : ¬ (n : Int) < (ringWeight i : Int) * (kTimingWheelBucketNum i : Int) := by
        rw [ringWeight_succ] at hstop
        exact_mod_cast hstop
      obtain ⟨k, hik, hkm, hlow, hhigh, heq⟩ := ih (i + 1) (by omega)
        (by rw [show i + 1 + m = i + (m + 1) by omega]; exact high)
      refine ⟨k, by omega, by omega, hlow, hhigh, ?_⟩
      simp only [addWheelFrom, hmax, if_false]
      rw [← heq]
      congr 1

/-- `AddWheel` with a positive count. -/
theorem addWheel_eq_putIn (s : TimingWheel) (t : Timer) {n : Nat} (hn : 0 < n)
    (hn' : n < 4294967296) :
    ∃ k, k < kTimingWheelNum ∧ ringWeight k ≤ n ∧ n < ringWeight (k + 1) ∧
      s.addWheel t n = s.putIn t k n := by
  obtain ⟨k, _, hk, hlow, hhigh, heq⟩ :=
    addWheelFrom_eq s t (n := n) kTimingWheelNum 0 hn
      (by rw [Nat.zero_add, ringWeight_top]; exact hn') (by omega)
  exact ⟨k, by omega, hlow, hhigh, heq⟩

/-- A count that is not positive goes into the first wheel with nothing left to undo. -/
theorem addWheel_nonpos (s : TimingWheel) (t : Timer) {n : Int} (hn : n ≤ 0) :
    ∃ b, b < kTimingWheelBucketNum 0 ∧ s.addWheel t n =
      (s.setBucket 0 b ((s.wheels 0).buckets b ++ [t.id]),
        { t with wheel := 0, bucket := b, undoTickCounts := 0 }) := by
  have hstop : n < 1 * (kTimingWheelBucketNum 0 : Int) := by
    have := bucketNum_pos 0
    omega
  refine ⟨_, ?_, by simp only [addWheel, kTimingWheelNum, addWheelFrom, hstop, if_true,
    wheelAddTimer, Int.tmod_one, Int.add_zero]; rfl⟩
  have hlt := Nat.mod_lt (toSizeT n / weight kTimingWheelBucketNum 0 +
    (s.wheels 0).currentBucket) (bucketNum_pos 0)
  split <;> omega

/-- A period that fits an `int` is a count of ticks the five wheels can hold. -/
theorem expireTickCounts_lt {tickMs expireMs : Int} (htick : 1 ≤ tickMs)
    (hms : expireMs < 2147483648) : expireTickCounts tickMs expireMs < 4294967296 := by
  have hdiv : expireMs.tdiv tickMs < 2147483648 := by
    rcases Int.lt_or_le expireMs 0 with hneg | hpos
    · have hle : 0 ≤ (-expireMs).tdiv tickMs :=
        Int.tdiv_nonneg (by omega) (Int.le_trans (by decide) htick)
      rw [Int.neg_tdiv] at hle
      omega
    · have hle := Int.tdiv_le_self tickMs hpos
      omega
  unfold expireTickCounts
  split <;> omega

theorem expireTickCounts_pos {tickMs expireMs : Int} (htick : 1 ≤ tickMs) (hms : 1 ≤ expireMs) :
    1 ≤ expireTickCounts tickMs expireMs := by
  have hdiv : 0 ≤ expireMs.tdiv tickMs := Int.tdiv_nonneg (by omega) (by omega)
  have hadd := Int.mul_tdiv_add_tmod expireMs tickMs
  unfold expireTickCounts
  split
  · omega
  · rename_i hrem
    by_contra hzero
    have : expireMs.tdiv tickMs = 0 := by omega
    rw [this, Int.mul_zero] at hadd
    omega

/-- `AddTimer` takes the next id, and where it succeeds places a new timer under it. -/
theorem addTimer_cases (s : TimingWheel) (now : Timestamp) (expireMs callTimes : Int) :
    (s.addTimer now expireMs callTimes).1 = { s with timerIds := s.timerIds + 1 } ∨
    (s.timers (s.timerIds + 1) = none ∧
      (s.addTimer now expireMs callTimes).1 =
        { s with timerIds := s.timerIds + 1 }.place
          ⟨s.timerIds + 1, now.add expireMs, expireTickCounts s.tickMs expireMs, callTimes, 0, 0, 0⟩
          (expireTickCounts s.tickMs expireMs)) := by
  unfold addTimer
  dsimp only
  split
  · exact Or.inl rfl
  · split
    · exact Or.inl rfl
    · rename_i hfresh
      exact Or.inr ⟨by simpa using hfresh, rfl⟩

/-- `AddTimer` that returns an id has placed a new timer under it. -/
theorem addTimer_added {s : TimingWheel} {now : Timestamp} {expireMs callTimes id : Int}
    (hid : (s.addTimer now expireMs callTimes).2 = id) (hpos : 0 < id) :
    s.timerIds + 1 = id ∧ (s.addTimer now expireMs callTimes).1 =
      { s with timerIds := s.timerIds + 1 }.place
        ⟨s.timerIds + 1, now.add expireMs, expireTickCounts s.tickMs expireMs, callTimes, 0, 0, 0⟩
        (expireTickCounts s.tickMs expireMs) := by
  unfold addTimer at hid ⊢
  dsimp only at hid ⊢
  split at hid
  · dsimp only at hid
    omega
  · rename_i hvalid
    rw [if_neg hvalid]
    split at hid
    · dsimp only at hid
      omega
    · rename_i hfresh
      rw [if_neg hfresh]
      exact ⟨hid, rfl⟩

/-- A placement rewrites the wheels and one timer object, whose place alone changes. -/
theorem place_shape (s : TimingWheel) (t : Timer) (n : Int) :
    ∃ wheels k b u, s.place t n = { s with
      wheels := wheels
      timers := Function.update s.timers t.id
        (some { t with wheel := k, bucket := b, undoTickCounts := u }) } := by
  have hfrom : ∀ m i undo maxTicks step, ∃ wheels k b u,
      s.addWheelFrom t n m i undo maxTicks step =
        ({ s with wheels := wheels }, { t with wheel := k, bucket := b, undoTickCounts := u }) := by
    intro m
    induction m with
    | zero =>
      intro i undo maxTicks step
      exact ⟨s.wheels, t.wheel, t.bucket, _, rfl⟩
    | succ m ih =>
      intro i undo maxTicks step
      simp only [addWheelFrom]
      split
      · exact ⟨_, _, _, _, rfl⟩
      · exact ih _ _ _ _
  obtain ⟨wheels, k, b, u, heq⟩ := hfrom kTimingWheelNum 0 0 1 1
  exact ⟨wheels, k, b, u, by simp only [place, addWheel, heq]; rfl⟩

theorem removeTimer_shape (s : TimingWheel) (id : Int) :
    ∃ wheels timers, s.removeTimer id = { s with wheels := wheels, timers := timers } := by
  simp only [removeTimer]
  split
  · exact ⟨s.wheels, s.timers, rfl⟩
  · simp only [removeWheel]
    split
    · exact ⟨_, _, rfl⟩
    · exact ⟨s.wheels, _, rfl⟩

theorem apply_shape (s : TimingWheel) (o : TimerOp) :
    ∃ wheels timers timerIds, s.apply o =
      { s with wheels := wheels, timers := timers, timerIds := timerIds } := by
  cases o with
  | addTimer now expireMs callTimes =>
    rcases addTimer_cases s now expireMs.toInt callTimes.toInt with heq | ⟨_, heq⟩
    · exact ⟨s.wheels, s.timers, s.timerIds + 1, heq⟩
    · obtain ⟨wheels, k, b, u, hplace⟩ := place_shape { s with timerIds := s.timerIds + 1 }
        ⟨s.timerIds + 1, now.add expireMs.toInt, expireTickCounts s.tickMs expireMs.toInt,
          callTimes.toInt, 0, 0, 0⟩ (expireTickCounts s.tickMs expireMs.toInt)
      exact ⟨wheels, _, s.timerIds + 1, heq.trans hplace⟩
  | removeTimer timerId =>
    obtain ⟨wheels, timers, heq⟩ := removeTimer_shape s timerId
    exact ⟨wheels, timers, s.timerIds, heq⟩

end Mysya.TimingWheel
