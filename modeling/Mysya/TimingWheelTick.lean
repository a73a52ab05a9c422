import Mysya.TimingWheelRegistry

/-!
# One tick, wheel by wheel

In tick `T` the wheels are emptied in order, wheel `i` only when `T` is a
multiple of its weight. `Odometer j` is the state of the counters when the
first `j` wheels have advanced. `TickRule` collects what a property must
satisfy to be kept by a whole tick; it is indexed by the number of wheels
that are done, and `TickRule.tick` is the induction.
-/

namespace Mysya.TimingWheel

open MixedRadix

abbrev ringDigit : Nat → Nat → Nat := digit kTimingWheelBucketNum

/-- The bucket of wheel `i` emptied in tick `n`, a multiple of the wheel's weight. -/
abbrev ringSlot (i n : Nat) : Nat := slot (kTimingWheelBucketNum i) (n / ringWeight i)

/-- Counters and tick count agree. -/
def SameClock (s s' : TimingWheel) : Prop :=
  s'.debugTickCounts = s.debugTickCounts ∧
    ∀ k, (s'.wheels k).currentBucket = (s.wheels k).currentBucket

theorem SameClock.trans {a b c : TimingWheel} (hab : SameClock a b) (hbc : SameClock b c) :
    SameClock a c :=
  ⟨hbc.1.trans hab.1, fun k => (hbc.2 k).trans (hab.2 k)⟩

theorem setBucket_sameClock (s : TimingWheel) (i b : Nat) (ids : List Int) :
    SameClock s (s.setBucket i b ids) :=
  ⟨rfl, fun k => setBucket_currentBucket s i b k ids⟩

theorem addWheelFrom_fst_sameClock (s : TimingWheel) (t : Timer) (n : Int) (m i : Nat)
    (undo maxTicks step : Int) :
    SameClock s (s.addWheelFrom t n m i undo maxTicks step).1 := by
  induction m generalizing i undo maxTicks step with
  | zero => exact ⟨rfl, fun _ => rfl⟩
  | succ m ih =>
    simp only [addWheelFrom]
    split
    · exact setBucket_sameClock s i _ _
    · exact ih _ _ _ _

theorem addWheel_sameClock (s : TimingWheel) (t : Timer) (n : Int) :
    SameClock s (s.addWheel t n).1 :=
  addWheelFrom_fst_sameClock s t n _ _ _ _ _

theorem place_sameClock (s : TimingWheel) (t : Timer) (n : Int) : SameClock s (s.place t n) :=
  ⟨(addWheel_sameClock s t n).1, (addWheel_sameClock s t n).2⟩

theorem removeTimer_sameClock (s : TimingWheel) (id : Int) : SameClock s (s.removeTimer id) := by
  unfold removeTimer
  split
  · exact ⟨rfl, fun _ => rfl⟩
  · unfold removeWheel
    split
    · exact setBucket_sameClock s _ _ _
    · exact ⟨rfl, fun _ => rfl⟩

theorem addTimer_sameClock (s : TimingWheel) (now : Timestamp) (expireMs callTimes : Int) :
    SameClock s (s.addTimer now expireMs callTimes).1 := by
  rcases addTimer_cases s now expireMs callTimes with heq | ⟨_, heq⟩
  · rw [heq]
    exact ⟨rfl, fun _ => rfl⟩
  · rw [heq]
    exact place_sameClock { s with timerIds := s.timerIds + 1 } _ _

theorem apply_sameClock (s : TimingWheel) (op : TimerOp) : SameClock s (s.apply op) := by
  cases op with
  | addTimer now expireMs callTimes => exact addTimer_sameClock s now _ _
  | removeTimer timerId => exact removeTimer_sameClock s timerId

theorem applyAll_sameClock (s : TimingWheel) (ops : List TimerOp) :
    SameClock s (ops.foldl apply s) := by
  induction ops generalizing s with
  | nil => exact ⟨rfl, fun _ => rfl⟩
  | cons op ops ih => exact (apply_sameClock s op).trans (ih _)

theorem callback_sameClock (s : TimingWheel) (cbs : Callbacks) (id : Int) :
    SameClock s (s.callback cbs id) :=
  applyAll_sameClock { s with calls := (s.debugTickCounts, id) :: s.calls } _

theorem visit_sameClock (s : TimingWheel) (cbs : Callbacks) (now : Timestamp) (t : Timer) :
    SameClock s (s.visit cbs now t) := by
  have checked : SameClock s { s with checks := s.checks ++ [(s.debugTickCounts, t.id)] } :=
    ⟨rfl, fun _ => rfl⟩
  unfold visit
  split
  · exact place_sameClock s _ _
  · dsimp only
    split
    · exact checked.trans (place_sameClock _ _ _)
    · refine (checked.trans ?_).trans (callback_sameClock _ cbs _)
      split
      · exact place_sameClock _ _ _
      · split
        · exact place_sameClock _ _ _
        · exact removeTimer_sameClock _ _

/-- The counters in tick `debugTickCounts` when the first `j` wheels have advanced. -/
structure Odometer (j : Nat) (s : TimingWheel) : Prop where
  advanced : ∀ k, k < j → k < kTimingWheelNum →
    (s.wheels k).currentBucket = ringDigit k s.debugTickCounts
  behind : ∀ k, j ≤ k → k < kTimingWheelNum →
    (s.wheels k).currentBucket = ringDigit k (s.debugTickCounts - 1)

theorem Odometer.of_sameClock {j : Nat} {s s' : TimingWheel} (o : Odometer j s)
    (h : SameClock s s') : Odometer j s' where
  advanced := fun k hj hk => by rw [h.2, h.1]; exact o.advanced k hj hk
  behind := fun k hj hk => by rw [h.2, h.1]; exact o.behind k hj hk

/-- What the lower wheels have run is the tick count modulo the weight. -/
theorem Odometer.lowerTicks_eq {j : Nat} {s : TimingWheel} (o : Odometer j s) {k : Nat}
    (hj : k ≤ j) (hk : k ≤ kTimingWheelNum) :
    lowerTicks s k = s.debugTickCounts % ringWeight k := by
  induction k with
  | zero => exact (Nat.mod_one _).symm
  | succ k ih =>
    rw [lowerTicks, ih (by omega) (by omega), o.advanced k (by omega) (by omega)]
    exact (mod_weight_succ k _).symm

/-- The states between ticks. -/
structure Good (s : TimingWheel) : Prop where
  registry : Registry none s
  odometer : Odometer kTimingWheelNum s

/-- The states while wheel `i` is emptied. -/
structure Draining (i : Nat) (s : TimingWheel) : Prop where
  registry : Registry none s
  odometer : Odometer (i + 1) s
  wheel_lt : i < kTimingWheelNum
  ticking : 0 < s.debugTickCounts
  carry : ringWeight i ∣ s.debugTickCounts

theorem Draining.visit {i : Nat} {s : TimingWheel} (d : Draining i s) {b : Nat} {id : Int}
    {rest : List Int} {t : Timer} (hbucket : (s.wheels i).buckets b = id :: rest)
    (ht : s.timers id = some t) (cbs : Callbacks) (now : Timestamp) :
    Draining i ((s.setBucket i b rest).visit cbs now t) := by
  have hclock := (setBucket_sameClock s i b rest).trans (visit_sameClock _ cbs now t)
  exact ⟨visit_registry (pop_registry d.registry hbucket) ht cbs now,
    d.odometer.of_sameClock hclock, d.wheel_lt, by rw [hclock.1]; exact d.ticking,
    by rw [hclock.1]; exact d.carry⟩

/-- What a property must satisfy to be kept by every tick. `P j` is the property
when `j` wheels are done; `P kTimingWheelNum` is the property between ticks. -/
structure TickRule (cbs : Callbacks) (now : Timestamp) (P : Nat → TimingWheel → Prop) : Prop where
  start : ∀ s, Good s → P kTimingWheelNum s →
    P 0 { s with debugTickCounts := s.debugTickCounts + 1 }
  enter : ∀ i s b, P i s → P i (s.setCurrentBucket i b)
  visit : ∀ i s id rest t, Draining i s →
    (s.wheels i).buckets (ringSlot i s.debugTickCounts) = id :: rest → s.timers id = some t →
    P i s → P i ((s.setBucket i (ringSlot i s.debugTickCounts) rest).visit cbs now t)
  leave : ∀ i s, Draining i s → (s.wheels i).buckets (ringSlot i s.debugTickCounts) = [] →
    P i s → P (i + 1) s
  stop : ∀ i s, Registry none s → ¬ ringWeight i ∣ s.debugTickCounts → P i s →
    P kTimingWheelNum s

variable {cbs : Callbacks} {now : Timestamp} {P : Nat → TimingWheel → Prop}

theorem TickRule.drain (rule : TickRule cbs now P) {i : Nat} (fuel : Nat) {s s' : TimingWheel}
    (d : Draining i s) (hP : P i s)
    (h : s.drain cbs now i (ringSlot i s.debugTickCounts) fuel = some s') :
    Draining i s' ∧ P (i + 1) s' := by
  induction fuel generalizing s with
  | zero =>
    unfold TimingWheel.drain at h
    split at h
    · rename_i hbucket
      cases h
      exact ⟨d, rule.leave i _ d hbucket hP⟩
    · cases h
    · rename_i hfuel
      cases hfuel
  | succ fuel ih =>
    unfold TimingWheel.drain at h
    split at h
    · rename_i hbucket
      cases h
      exact ⟨d, rule.leave i _ d hbucket hP⟩
    · rename_i hfuel
      cases hfuel
    · rename_i id rest fuel' hbucket hfuel
      cases hfuel
      split at h
      · cases h
      · rename_i t ht
        have hclock := (setBucket_sameClock s i (ringSlot i s.debugTickCounts) rest).trans
          (visit_sameClock _ cbs now t)
        refine ih (d.visit hbucket ht cbs now) (rule.visit i s id rest t d hbucket ht hP) ?_
        rw [hclock.1]
        exact h

/-- Advancing the counter of wheel `i` in a tick that reaches it. -/
theorem draining_enter {i : Nat} {s : TimingWheel} (r : Registry none s) (o : Odometer i s)
    (hi : i < kTimingWheelNum) (hpos : 0 < s.debugTickCounts)
    (carry : ringWeight i ∣ s.debugTickCounts) :
    Draining i (s.setCurrentBucket i (((s.wheels i).currentBucket + 1) %
      kTimingWheelBucketNum i)) ∧
      (s.wheels i).currentBucket = ringSlot i s.debugTickCounts := by
  obtain ⟨n, hn⟩ : ∃ n, s.debugTickCounts = n + 1 := ⟨s.debugTickCounts - 1, by omega⟩
  have hcur : (s.wheels i).currentBucket = ringDigit i n := by
    have := o.behind i (Nat.le_refl _) hi
    rwa [hn, Nat.add_sub_cancel] at this
  have hcounter : ∀ k, ((s.setCurrentBucket i (((s.wheels i).currentBucket + 1) %
      kTimingWheelBucketNum i)).wheels k).currentBucket =
        if k = i then ringDigit i s.debugTickCounts else (s.wheels k).currentBucket := by
    intro k
    by_cases hk : k = i
    · subst hk
      simp only [setCurrentBucket, setWheel, Function.update_self, if_true]
      rw [hcur, hn]
      exact (digit_succ_of_dvd (hn ▸ carry)).symm
    · simp [setCurrentBucket, setWheel, hk]
  have hbuckets : ∀ k, ((s.setCurrentBucket i (((s.wheels i).currentBucket + 1) %
      kTimingWheelBucketNum i)).wheels k).buckets = (s.wheels k).buckets := by
    intro k
    by_cases hk : k = i
    · subst hk; simp [setCurrentBucket, setWheel]
    · simp [setCurrentBucket, setWheel, hk]
  refine ⟨⟨?_, ?_, hi, hpos, carry⟩, ?_⟩
  · exact { r with
      ring := fun k => by
        rw [hcounter]
        split
        · rename_i hk
          subst hk
          exact digit_lt bucketNum_pos _ _
        · exact r.ring k
      nodup := fun k b => by rw [hbuckets]; exact r.nodup k b
      live := fun k b id hid => by rw [hbuckets] at hid; exact r.live k b id hid
      listed := fun id t ht hne => by rw [hbuckets]; exact r.listed id t ht hne }
  · constructor
    · intro k hk hk5
      rw [hcounter]
      split
      · rename_i hki
        rw [hki]; rfl
      · exact o.advanced k (by omega) hk5
    · intro k hk hk5
      rw [hcounter, if_neg (by omega)]
      exact o.behind k (by omega) hk5
  · have hdiv : s.debugTickCounts / ringWeight i = n / ringWeight i + 1 := by
      rw [hn]
      exact Nat.succ_div_of_dvd (hn ▸ carry)
    rw [hcur, ringSlot, hdiv, slot_succ (bucketNum_pos i)]
    rfl

/-- A tick that does not reach wheel `j` leaves its counter right. -/
theorem Odometer.complete {j : Nat} {s : TimingWheel} (o : Odometer j s)
    (hstop : ¬ ringWeight j ∣ s.debugTickCounts) : Odometer kTimingWheelNum s where
  advanced := by
    intro k _ hk
    rcases Nat.lt_or_ge k j with hlt | hge
    · exact o.advanced k hlt hk
    · have hne : ¬ ringWeight k ∣ s.debugTickCounts :=
        fun h => hstop (Nat.dvd_trans (weight_dvd hge) h)
      obtain ⟨n, hn⟩ : ∃ n, s.debugTickCounts = n + 1 := by
        refine ⟨s.debugTickCounts - 1, ?_⟩
        by_contra hz
        exact hstop (by rw [show s.debugTickCounts = 0 by omega]; exact Nat.dvd_zero _)
      rw [o.behind k hge hk, hn, Nat.add_sub_cancel]
      exact (digit_succ_of_not_dvd (hn ▸ hne)).symm
  behind := fun k hk hk5 => absurd hk (by omega)

theorem TickRule.tickFrom (rule : TickRule cbs now P) (fuel n i : Nat) (hin : i + n = kTimingWheelNum)
    {s s' : TimingWheel} (r : Registry none s) (o : Odometer i s) (hpos : 0 < s.debugTickCounts)
    (carry : ringWeight i ∣ s.debugTickCounts) (hP : P i s)
    (h : s.tickFrom cbs now fuel n i = some s') :
    Good s' ∧ P kTimingWheelNum s' := by
  induction n generalizing i s with
  | zero =>
    cases h
    obtain rfl : i = kTimingWheelNum := by omega
    exact ⟨⟨r, o⟩, hP⟩
  | succ n ih =>
    unfold TimingWheel.tickFrom at h
    split at h
    · cases h
    rename_i m hm
    obtain ⟨d, hbucket⟩ := draining_enter r o (by omega) hpos carry
    unfold wheelOnExpired at hm
    rw [hbucket] at hm d
    obtain ⟨d', hP'⟩ := rule.drain fuel d (rule.enter i s _ hP) hm
    have hdigit := d'.odometer.advanced i (by omega) d'.wheel_lt
    have hzero : ringDigit i m.debugTickCounts = 0 ↔ ringWeight (i + 1) ∣ m.debugTickCounts :=
      digit_eq_zero_iff bucketNum_pos d'.carry
    split at h
    · rename_i hstop
      cases h
      have hne : ¬ ringWeight (i + 1) ∣ s'.debugTickCounts := by
        intro hdvd
        have := hzero.mpr hdvd
        rw [hdigit] at hstop
        omega
      exact ⟨⟨d'.registry, d'.odometer.complete hne⟩, rule.stop (i + 1) s' d'.registry hne hP'⟩
    · rename_i hcont
      have hdvd : ringWeight (i + 1) ∣ m.debugTickCounts := by
        apply hzero.mp
        rw [hdigit] at hcont
        omega
      exact ih (i + 1) (by omega) d'.registry d'.odometer d'.ticking hdvd hP' h

end Mysya.TimingWheel
