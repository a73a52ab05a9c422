import Mysya.TimingWheelSound

/-!
# When a timer is due, step by step

A timer added inside a cascade may meet counters that lag behind, and is then
due too early but never too late (`place_awaits_early`). Once placed, it stays
due in the same tick through every step that does not take it off its bucket
(`Move.awaits`), and the step that does is one of four (`Move.front_expiry`).
-/

namespace Mysya

open GuardedRuns MixedRadix TimingWheel

namespace TimingWheel

/-- Counters that lag behind read less than the true count. -/
theorem lowerTicks_le {j : Nat} {s : TimingWheel} (o : Odometer j s)
    (ring : ∀ i, (s.wheels i).currentBucket < kTimingWheelBucketNum i)
    (hpos : 0 < s.debugTickCounts) {k : Nat} (hk : k ≤ kTimingWheelNum) :
    ringWeight k ∣ s.debugTickCounts ∨ lowerTicks s k ≤ s.debugTickCounts % ringWeight k := by
  induction k with
  | zero => exact Or.inl (Nat.one_dvd _)
  | succ k ih =>
    by_cases hcarry : ringWeight (k + 1) ∣ s.debugTickCounts
    · exact Or.inl hcarry
    refine Or.inr ?_
    have hsplit : s.debugTickCounts % ringWeight (k + 1) = s.debugTickCounts % ringWeight k +
        ringDigit k s.debugTickCounts * ringWeight k := mod_weight_succ k _
    rw [lowerTicks, hsplit]
    rcases Nat.lt_or_ge k j with hdone | hlags
    · rw [o.lowerTicks_eq (Nat.le_of_lt hdone) (by omega), o.advanced k hdone hk]
    · obtain ⟨n, hn⟩ : ∃ n, s.debugTickCounts = n + 1 := ⟨s.debugTickCounts - 1, by omega⟩
      have hcur : (s.wheels k).currentBucket = ringDigit k n := by
        rw [o.behind k hlags hk, hn, Nat.add_sub_cancel]
      rw [hcur, hn]
      rw [hn] at hcarry ih
      by_cases hdvd : ringWeight k ∣ n + 1
      · have hsucc : ringDigit k (n + 1) = (ringDigit k n + 1) % kTimingWheelBucketNum k :=
          digit_succ_of_dvd hdvd
        have hne : ¬ ringDigit k (n + 1) = 0 :=
          mt (digit_eq_zero_iff bucketNum_pos hdvd).mp hcarry
        have hlt : ringDigit k n < kTimingWheelBucketNum k := digit_lt bucketNum_pos k n
        have hdigit : ringDigit k (n + 1) = ringDigit k n + 1 := by
          rw [hsucc] at hne ⊢
          by_cases hwrap : ringDigit k n + 1 = kTimingWheelBucketNum k
          · exact absurd (by rw [hwrap, Nat.mod_self]) hne
          · exact Nat.mod_eq_of_lt (by omega)
        have hlow := lowerTicks_lt ring k
        rw [hdigit, Nat.add_mul, Nat.one_mul]
        omega
      · have hdigit : ringDigit k (n + 1) = ringDigit k n := digit_succ_of_not_dvd hdvd
        rw [hdigit]
        exact Nat.add_le_add_right ((ih (by omega)).resolve_left hdvd) _

/-- Wherever a cascade stands, a timer placed for `n` ticks is due at most `n` ticks later. -/
theorem place_awaits_early {j : Nat} {s : TimingWheel} (o : Odometer j s)
    (hj : j ≤ kTimingWheelNum)
    (ring : ∀ i, (s.wheels i).currentBucket < kTimingWheelBucketNum i)
    (hpos : 0 < s.debugTickCounts) (t : Timer) {n : Nat} (hn : 0 < n) (hn' : n < 4294967296) :
    ∃ D, D ≤ s.debugTickCounts + n ∧ Awaits j t.id D (s.place t n) := by
  obtain ⟨k, hk, hlow, hhigh, heq⟩ := addWheel_eq_putIn s t hn hn'
  rcases Nat.lt_or_ge k j with hdone | hlags
  · have hle : ringWeight (k + 1) ≤ ringWeight j :=
      Nat.le_of_dvd (ringWeight_pos j) (weight_dvd hdone)
    exact ⟨_, Nat.le_refl _, place_awaits o hj t hn (Nat.lt_of_lt_of_le hhigh hle)⟩
  have hw := ringWeight_pos k
  have hlower := lowerTicks_lt ring k
  have hcur := o.behind k hlags hk
  have hpast : ringWeight k * ((s.debugTickCounts - 1) / ringWeight k) +
      (s.debugTickCounts - 1) % ringWeight k = s.debugTickCounts - 1 := Nat.div_add_mod _ _
  have hpastLt : (s.debugTickCounts - 1) % ringWeight k < ringWeight k := Nat.mod_lt _ hw
  have hN : ringWeight k * (n / ringWeight k) + n % ringWeight k = n := Nat.div_add_mod _ _
  have hNm : n % ringWeight k < ringWeight k := Nat.mod_lt _ hw
  have hq1 : ringWeight k * 1 ≤ ringWeight k * (n / ringWeight k) :=
    Nat.mul_le_mul_left _ ((Nat.one_le_div_iff hw).mpr hlow)
  have hqr : n / ringWeight k < kTimingWheelBucketNum k :=
    Nat.div_lt_of_lt_mul (by rwa [ringWeight_succ] at hhigh)
  have hq2 : ringWeight k * (n / ringWeight k + 1) ≤ ringWeight k * kTimingWheelBucketNum k :=
    Nat.mul_le_mul_left _ hqr
  rw [Nat.mul_add, Nat.mul_one] at hq2
  -- the reading of the lagging counters is not ahead of the true count
  have hreading : ringWeight k * ((s.debugTickCounts - 1) / ringWeight k) + lowerTicks s k ≤
      s.debugTickCounts := by
    rcases lowerTicks_le o ring hpos (Nat.le_of_lt hk) with ⟨m, hm⟩ | hle
    · have hlt : (s.debugTickCounts - 1) / ringWeight k < m :=
        Nat.lt_of_mul_lt_mul_left (a := ringWeight k) (by omega)
      have hstep : ringWeight k * ((s.debugTickCounts - 1) / ringWeight k + 1) ≤
          ringWeight k * m := Nat.mul_le_mul_left _ hlt
      rw [Nat.mul_add, Nat.mul_one] at hstep
      omega
    · have hcount : ringWeight k * (s.debugTickCounts / ringWeight k) +
          s.debugTickCounts % ringWeight k = s.debugTickCounts := Nat.div_add_mod _ _
      have hmono : ringWeight k * ((s.debugTickCounts - 1) / ringWeight k) ≤
          ringWeight k * (s.debugTickCounts / ringWeight k) :=
        Nat.mul_le_mul_left _ (Nat.div_le_div_right (Nat.sub_le _ _))
      omega
  refine ⟨ringWeight k * ((s.debugTickCounts - 1) / ringWeight k + n / ringWeight k) +
    (lowerTicks s k + n % ringWeight k), by rw [Nat.mul_add]; omega, (s.putIn t k n).2,
    ringWeight k * ((s.debugTickCounts - 1) / ringWeight k + n / ringWeight k), ?_,
    Dvd.intro _ rfl, ?_, ?_⟩
  · simp [place, heq, store, putIn]
  · show slot _ _ = slot _ (_ / ringWeight k)
    rw [hcur, Nat.mul_div_cancel_left _ hw]
    exact slot_add_mod _ _ _ (bucketNum_pos k)
  · have hclock : (s.place t n).debugTickCounts = s.debugTickCounts := (place_sameClock s t n).1
    rw [hclock, Nat.mul_add]
    show _ ∧ (k < j → _) ∧ _ < _ + kTimingWheelBucketNum k * ringWeight k ∧
      _ = _ + ((lowerTicks s k : Int) + ((n % ringWeight k : Nat) : Int)) ∧
      ((lowerTicks s k : Int) + ((n % ringWeight k : Nat) : Int)) < 2 * (ringWeight k : Int)
    rw [Nat.mul_comm (kTimingWheelBucketNum k)]
    refine ⟨by omega, fun h => absurd h (Nat.not_lt.mpr hlags), by omega, by omega, by omega⟩

/-- A period is less than one tick longer than the time it stands for. -/
theorem expireTickCounts_mul_lt {tickMs expireMs : Int} (htick : 1 ≤ tickMs)
    (hms : 1 ≤ expireMs) : (expireTickCounts tickMs expireMs - 1) * tickMs < expireMs := by
  have hadd := Int.mul_tdiv_add_tmod expireMs tickMs
  have hrem : 0 ≤ expireMs.tmod tickMs := Int.tmod_nonneg _ (by omega)
  simp only [expireTickCounts]
  split
  · rw [Int.add_sub_cancel, Int.mul_comm]
    omega
  · rw [Int.sub_mul, Int.mul_comm (Int.tdiv _ _)]
    omega

theorem apply_timerIds_le (s : TimingWheel) (o : TimerOp) : s.timerIds ≤ (s.apply o).timerIds := by
  cases o with
  | addTimer now expireMs callTimes =>
    rcases addTimer_cases s now expireMs.toInt callTimes.toInt with heq | ⟨_, heq⟩
    · simp only [TimingWheel.apply, heq]
      omega
    · obtain ⟨wheels, k, b, u, hplace⟩ := place_shape { s with timerIds := s.timerIds + 1 }
        ⟨s.timerIds + 1, now.add expireMs.toInt, expireTickCounts s.tickMs expireMs.toInt,
          callTimes.toInt, 0, 0, 0⟩ (expireTickCounts s.tickMs expireMs.toInt)
      simp only [TimingWheel.apply, heq, hplace]
      omega
  | removeTimer timerId =>
    obtain ⟨wheels, timers, hshape⟩ := removeTimer_shape s timerId
    simp [TimingWheel.apply, hshape]

/-- Only ids that have been given out name timers. -/
theorem apply_issued {s : TimingWheel} (h : ∀ id t, s.timers id = some t → id ≤ s.timerIds)
    (o : TimerOp) (id : Int) (t : Timer) (ht : (s.apply o).timers id = some t) :
    id ≤ (s.apply o).timerIds := by
  by_contra hlate
  have hmono := apply_timerIds_le s o
  have absent : s.timers id = none := by
    cases hold : s.timers id with
    | none => rfl
    | some u => exact absurd (h id u hold) (by omega)
  cases o with
  | addTimer now expireMs callTimes =>
    rcases addTimer_cases s now expireMs.toInt callTimes.toInt with heq | ⟨_, heq⟩
    · simp only [TimingWheel.apply, heq] at ht
      rw [absent] at ht
      simp at ht
    · obtain ⟨wheels, k, b, u, hplace⟩ := place_shape { s with timerIds := s.timerIds + 1 }
        ⟨s.timerIds + 1, now.add expireMs.toInt, expireTickCounts s.tickMs expireMs.toInt,
          callTimes.toInt, 0, 0, 0⟩ (expireTickCounts s.tickMs expireMs.toInt)
      simp only [TimingWheel.apply, heq, hplace] at ht hlate
      rw [Function.update_of_ne (by omega), absent] at ht
      simp at ht
  | removeTimer timerId =>
    simp only [TimingWheel.apply] at ht
    by_cases hsame : id = timerId
    · subst hsame
      rw [removeTimer_none absent, absent] at ht
      simp at ht
    · rw [removeTimer_timers_other s hsame, absent] at ht
      simp at ht

end TimingWheel

namespace Phase

/-- How many wheels have been emptied in the tick in progress. -/
def emptied : Phase → Nat
  | idle => kTimingWheelNum
  | ticks _ => kTimingWheelNum
  | wheel _ i => i
  | draining _ i _ => i
  | callback _ i _ => i

end Phase

namespace WheelMachine

/-- The timer is the one that the next step takes off its bucket. -/
def Front (id : Int) (s : WheelMachine) : Prop :=
  ∃ left i b rest, s.phase = .draining left i b ∧ (s.wheel.wheels i).buckets b = id :: rest

theorem expireFront_timers_other (s : WheelMachine) (left i b : Nat) (rest : List Int) (t : Timer)
    {id : Int} (h : id ≠ t.id) :
    (s.expireFront left i b rest t).wheel.timers id = s.wheel.timers id := by
  obtain ⟨calls, hwheel⟩ := expireFront_wheel s left i b rest t
  rw [hwheel]
  exact expire_timers_other (s.wheel.setBucket i b rest) s.now t h

/-- A step that neither removes the timer nor takes it off its bucket leaves it alone. -/
theorem Move.keeps {s s' : WheelMachine} {a : Action} (h : Move s a s') (sound : s.Sound)
    {id : Int} {u : Timer} (hu : s.wheel.timers id = some u) (hkept : a ≠ .op (.removeTimer id))
    (hother : ¬ s.Front id) :
    s'.wheel.timers id = some u ∧ s'.firings id = s.firings id := by
  cases h with
  | op o hout =>
    refine ⟨applyAll_timers_of_some [o] ?_ hu, rfl⟩
    rw [List.mem_singleton]
    rintro rfl
    exact hkept rfl
  | front left i b id' rest t hphase hbucket ht =>
    have hne : id ≠ t.id := by
      rw [(sound.registry.sound id' t ht).named]
      rintro rfl
      exact hother ⟨left, i, b, rest, hphase, hbucket⟩
    exact ⟨(expireFront_timers_other s left i b rest t hne).trans hu,
      expireFront_firings_other s left i b rest t hne⟩
  | setTimestamp timestamp hout => exact ⟨hu, rfl⟩
  | onExpired now hphase => exact ⟨hu, rfl⟩
  | finish hphase => exact ⟨hu, rfl⟩
  | begin left hphase => exact ⟨hu, rfl⟩
  | wheel left i hphase hi => exact ⟨hu, rfl⟩
  | last left i hphase hi => exact ⟨hu, rfl⟩
  | stop left i b hphase hempty hstop => exact ⟨hu, rfl⟩
  | carry left i b hphase hempty hcont => exact ⟨hu, rfl⟩
  | ret left i b hphase => exact ⟨hu, rfl⟩

/-- What the end of the loop over a bucket says of the wheels above. -/
theorem Sound.stopped {s : WheelMachine} (sound : s.Sound) {left i b : Nat}
    (hphase : s.phase = .draining left i b) (hstop : (s.wheel.wheels i).currentBucket > 0) :
    ¬ ringWeight (i + 1) ∣ s.wheel.debugTickCounts := by
  obtain ⟨d, _⟩ := sound.draining hphase
  intro hdvd
  rw [d.odometer.advanced i (Nat.lt_succ_self i) d.wheel_lt] at hstop
  exact absurd ((digit_eq_zero_iff bucketNum_pos d.carry).mpr hdvd) (Nat.ne_of_gt hstop)

/-- Such a step leaves the timer due when it was due. -/
theorem Move.awaits {s s' : WheelMachine} {a : Action} (h : Move s a s') (sound : s.Sound)
    {id : Int} (hkept : a ≠ .op (.removeTimer id)) (hother : ¬ s.Front id) {D : Nat}
    (hdue : Awaits s.phase.emptied id D s.wheel) : Awaits s'.phase.emptied id D s'.wheel := by
  obtain ⟨u, v, hu, hrest⟩ := hdue
  have hkeeps := (h.keeps sound hu hkept hother).1
  have hdue : Awaits s.phase.emptied id D s.wheel := ⟨u, v, hu, hrest⟩
  cases h with
  | op o hout => exact hdue.congr (hkeeps.trans hu.symm) (apply_sameClock s.wheel o).1
  | setTimestamp timestamp hout => exact hdue
  | onExpired now hphase =>
    rw [hphase] at hdue
    exact hdue
  | finish hphase =>
    rw [hphase] at hdue
    exact hdue
  | begin left hphase =>
    rw [hphase] at hdue
    exact hdue.begin sound.registry
  | wheel left i hphase hi =>
    rw [hphase] at hdue
    exact hdue
  | last left i hphase hi =>
    have hlocated := sound.located
    rw [hphase] at hdue hlocated
    obtain rfl : i = kTimingWheelNum := Nat.le_antisymm hlocated.1 (Nat.le_of_not_lt hi)
    exact hdue
  | stop left i b hphase hempty hstop =>
    obtain ⟨d, hb⟩ := sound.draining hphase
    rw [hphase] at hdue
    exact (hdue.emptied d (hb ▸ hempty)).unreached (sound.stopped hphase hstop)
  | carry left i b hphase hempty hcont =>
    obtain ⟨d, hb⟩ := sound.draining hphase
    rw [hphase] at hdue
    exact hdue.emptied d (hb ▸ hempty)
  | front left i b id' rest t hphase hbucket ht =>
    obtain ⟨calls, hwheel⟩ := expireFront_wheel s left i b rest t
    have hclock := (setBucket_sameClock s.wheel i b rest).trans
      (expire_sameClock (s.wheel.setBucket i b rest) s.now t)
    have hticks : (s.expireFront left i b rest t).wheel.debugTickCounts =
        s.wheel.debugTickCounts := by
      rw [hwheel]
      exact hclock.1
    have hemptied : (s.expireFront left i b rest t).phase.emptied = s.phase.emptied := by
      rcases expireFront_phase s left i b rest t with hp | hp
      · rw [hp, hphase]
        rfl
      · rw [hp, hphase]
    rw [hemptied]
    exact hdue.congr (hkeeps.trans hu.symm) hticks
  | ret left i b hphase =>
    rw [hphase] at hdue
    exact hdue

/-- Ids are given out and never taken back. -/
theorem Move.timerIds_le {s s' : WheelMachine} {a : Action} (h : Move s a s') :
    s.wheel.timerIds ≤ s'.wheel.timerIds := by
  cases h with
  | op o hout => exact apply_timerIds_le s.wheel o
  | front left i b id' rest t hphase hbucket ht =>
    obtain ⟨calls, hwheel⟩ := expireFront_wheel s left i b rest t
    obtain ⟨wheels, timers, checks, hshape⟩ := expire_shape (s.wheel.setBucket i b rest) s.now t
    rw [hwheel, hshape]
    exact Int.le_refl _
  | setTimestamp timestamp hout => exact Int.le_refl _
  | onExpired now hphase => exact Int.le_refl _
  | finish hphase => exact Int.le_refl _
  | begin left hphase => exact Int.le_refl _
  | wheel left i hphase hi => exact Int.le_refl _
  | last left i hphase hi => exact Int.le_refl _
  | stop left i b hphase hempty hstop => exact Int.le_refl _
  | carry left i b hphase hempty hcont => exact Int.le_refl _
  | ret left i b hphase => exact Int.le_refl _

theorem expireFront_firings (s : WheelMachine) (left i b : Nat) (rest : List Int) (t : Timer)
    (id : Int) : ∃ l, (s.expireFront left i b rest t).firings id = l ++ s.firings id := by
  simp only [expireFront]
  split
  · by_cases hsame : t.id = id
    · exact ⟨[⟨s.now, s.wheel.debugTickCounts, t.id⟩], by simp [firings, hsame]⟩
    · exact ⟨[], by simp [firings, hsame]⟩
  · exact ⟨[], rfl⟩

/-- The log of callbacks only grows. -/
theorem Move.firings {s s' : WheelMachine} {a : Action} (h : Move s a s') (id : Int) :
    ∃ l, s'.firings id = l ++ s.firings id := by
  cases h with
  | front left i b id' rest t hphase hbucket ht => exact expireFront_firings s left i b rest t id
  | op o hout => exact ⟨[], rfl⟩
  | setTimestamp timestamp hout => exact ⟨[], rfl⟩
  | onExpired now hphase => exact ⟨[], rfl⟩
  | finish hphase => exact ⟨[], rfl⟩
  | begin left hphase => exact ⟨[], rfl⟩
  | wheel left i hphase hi => exact ⟨[], rfl⟩
  | last left i hphase hi => exact ⟨[], rfl⟩
  | stop left i b hphase hempty hstop => exact ⟨[], rfl⟩
  | carry left i b hphase hempty hcont => exact ⟨[], rfl⟩
  | ret left i b hphase => exact ⟨[], rfl⟩

/-- Placing the timer at the front again while wheel `i` is emptied. -/
theorem place_front_awaits {s : TimingWheel} {i : Nat} (o : Odometer (i + 1) s)
    (hi : i < kTimingWheelNum) (t : Timer) {n : Nat} (hn : 0 < n) (hlt : n < ringWeight (i + 1)) :
    Awaits i t.id (s.debugTickCounts + n) (s.place t n) :=
  (place_awaits o hi t hn hlt).mono (Nat.le_succ i)

theorem two_mul_ringWeight_le (i : Nat) : 2 * ringWeight i ≤ ringWeight (i + 1) := by
  rw [ringWeight_succ, Nat.mul_comm]
  exact Nat.mul_le_mul_left _ (two_le_bucketNum i)

/-- The only step from the head of a drain loop with a timer in front takes that timer. -/
theorem Move.front_expiry {s s' : WheelMachine} {a : Action} (h : Move s a s') {left i b : Nat}
    {id : Int} {rest : List Int} (hphase : s.phase = .draining left i b)
    (hbucket : (s.wheel.wheels i).buckets b = id :: rest) :
    ∃ t, s.wheel.timers id = some t ∧ Expiry s left i b rest t s' := by
  cases h with
  | front left' i' b' id' rest' t hphase' hbucket' ht =>
    rw [hphase] at hphase'
    cases hphase'
    rw [hbucket] at hbucket'
    cases hbucket'
    exact ⟨t, ht, expiry s left i b rest t⟩
  | op o hout => rw [hphase] at hout; exact hout.elim
  | setTimestamp timestamp hout => rw [hphase] at hout; exact hout.elim
  | onExpired now hphase' => simp [hphase] at hphase'
  | finish hphase' => simp [hphase] at hphase'
  | begin left' hphase' => simp [hphase] at hphase'
  | wheel left' i' hphase' hi => simp [hphase] at hphase'
  | last left' i' hphase' hi => simp [hphase] at hphase'
  | stop left' i' b' hphase' hempty hstop =>
    rw [hphase] at hphase'
    cases hphase'
    simp [hbucket] at hempty
  | carry left' i' b' hphase' hempty hcont =>
    rw [hphase] at hphase'
    cases hphase'
    simp [hbucket] at hempty
  | ret left' i' b' hphase' => simp [hphase] at hphase'

/-- Every id in use has been given out. -/
structure Issued (s : WheelMachine) : Prop where
  timers : ∀ id t, s.wheel.timers id = some t → id ≤ s.wheel.timerIds
  fired : ∀ f ∈ s.fired, f.timerId ≤ s.wheel.timerIds

theorem expireFront_issued {s : WheelMachine} (issued : s.Issued) {left i b : Nat}
    {rest : List Int} {id : Int} {t : Timer} (ht : s.wheel.timers id = some t) (hid : t.id = id) :
    (s.expireFront left i b rest t).Issued := by
  obtain ⟨calls, hwheel⟩ := expireFront_wheel s left i b rest t
  obtain ⟨wheels, timers, checks, hshape⟩ := expire_shape (s.wheel.setBucket i b rest) s.now t
  have hids : (s.expireFront left i b rest t).wheel.timerIds = s.wheel.timerIds := by
    rw [hwheel, hshape]
    rfl
  have hspent : t.id ≤ s.wheel.timerIds := hid ▸ issued.timers id t ht
  constructor
  · intro id' u hu
    rw [hids]
    by_cases hsame : id' = t.id
    · rw [hsame]
      exact hspent
    · rw [hwheel] at hu
      exact issued.timers id' u
        ((expire_timers_other (s.wheel.setBucket i b rest) _ _ hsame).symm.trans hu)
  · intro f hf
    rw [hids]
    simp only [expireFront] at hf
    split at hf
    · rcases List.mem_cons.mp hf with rfl | hold
      · exact hspent
      · exact issued.fired f hold
    · exact issued.fired f hf

theorem Move.issued {s s' : WheelMachine} {a : Action} (h : Move s a s')
    (registry : Registry none s.wheel) (issued : s.Issued) : s'.Issued := by
  obtain ⟨timers, fired⟩ := issued
  cases h with
  | op o hout =>
    exact ⟨apply_issued timers o,
      fun f hf => Int.le_trans (fired f hf) (apply_timerIds_le s.wheel o)⟩
  | setTimestamp timestamp hout => exact ⟨timers, fired⟩
  | onExpired now hphase => exact ⟨timers, fired⟩
  | finish hphase => exact ⟨timers, fired⟩
  | begin left hphase => exact ⟨timers, fired⟩
  | wheel left i hphase hi => exact ⟨timers, fired⟩
  | last left i hphase hi => exact ⟨timers, fired⟩
  | stop left i b hphase hempty hstop => exact ⟨timers, fired⟩
  | carry left i b hphase hempty hcont => exact ⟨timers, fired⟩
  | front left i b id rest t hphase hbucket ht =>
    exact expireFront_issued ⟨timers, fired⟩ ht (registry.sound id t ht).named
  | ret left i b hphase => exact ⟨timers, fired⟩

theorem step_issued {s s' : WheelMachine} (sound : s.Sound) (issued : s.Issued) {a : Action}
    (h : s.step a = some s') : s'.Issued :=
  (move_of_step h).issued sound.registry issued

end WheelMachine

end Mysya
