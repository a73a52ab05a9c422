import Mysya.TimingWheelTick

/-!
# A placed timer is checked on its tick

`Awaits j id D` says that timer `id` stands for the deadline `D`: its bucket
is next emptied in some tick `v`, and the ticks then left to undo reach `D`.
Read as an abstraction, it maps the wheels to a flat list of deadlines:
`AddWheel` adds one, a tick keeps those still ahead and checks those it meets.
-/

namespace Mysya.TimingWheel

open MixedRadix

/-- The tick of the first check of a timer in a log of checks. -/
def firstCheck (id : Int) (log : List (Nat × Int)) : Option Nat :=
  (log.find? (fun c => c.2 == id)).map Prod.fst

theorem firstCheck_append_none {id : Int} {log rest : List (Nat × Int)}
    (h : firstCheck id log = none) : firstCheck id (log ++ rest) = firstCheck id rest := by
  unfold firstCheck at *
  rw [Option.map_eq_none_iff] at h
  rw [List.find?_append, h, Option.none_or]

theorem firstCheck_append_some {id : Int} {log rest : List (Nat × Int)} {n : Nat}
    (h : firstCheck id log = some n) : firstCheck id (log ++ rest) = some n := by
  unfold firstCheck at *
  obtain ⟨c, hc, hn⟩ := Option.map_eq_some_iff.mp h
  rw [List.find?_append, hc, Option.some_or, Option.map_some, hn]

theorem firstCheck_other {id : Int} {n : Nat} {id' : Int} (h : id' ≠ id) :
    firstCheck id [(n, id')] = none := by
  simp [firstCheck, h]

theorem firstCheck_self (id : Int) (n : Nat) : firstCheck id [(n, id)] = some n := by
  simp [firstCheck]

/-- With `j` wheels done in this tick, timer `id` is due for its check in tick `D`. -/
def Awaits (j : Nat) (id : Int) (D : Nat) (s : TimingWheel) : Prop :=
  ∃ t v, s.timers id = some t ∧ ringWeight t.wheel ∣ v ∧ t.bucket = ringSlot t.wheel v ∧
    s.debugTickCounts ≤ v ∧ (t.wheel < j → s.debugTickCounts < v) ∧
    v < s.debugTickCounts + kTimingWheelBucketNum t.wheel * ringWeight t.wheel ∧
    (D : Int) = v + t.undoTickCounts ∧ t.undoTickCounts < 2 * ringWeight t.wheel

theorem Awaits.mono {j k : Nat} {id : Int} {D : Nat} {s : TimingWheel} (h : Awaits j id D s)
    (hkj : k ≤ j) : Awaits k id D s := by
  obtain ⟨t, v, ht, hdvd, hslot, hle, hlt, hub, hD, hu⟩ := h
  exact ⟨t, v, ht, hdvd, hslot, hle, fun hk => hlt (by omega), hub, hD, hu⟩

theorem Awaits.congr {j : Nat} {id : Int} {D : Nat} {s s' : TimingWheel} (h : Awaits j id D s)
    (htimers : s'.timers id = s.timers id) (hclock : s'.debugTickCounts = s.debugTickCounts) :
    Awaits j id D s' := by
  obtain ⟨t, v, ht, hrest⟩ := h
  exact ⟨t, v, htimers.trans ht, by rw [hclock]; exact hrest⟩

/-- A timer placed for `n` ticks in tick `T` stands for the deadline `T + n`. -/
theorem place_awaits {j : Nat} {s : TimingWheel} (o : Odometer j s) (hj : j ≤ kTimingWheelNum)
    (t : Timer) {n : Nat} (hn : 0 < n) (hlt : n < ringWeight j) :
    Awaits j t.id (s.debugTickCounts + n) (s.place t n) := by
  have htop : ringWeight j ≤ 4294967296 := by
    rw [← ringWeight_top]
    exact Nat.le_of_dvd (ringWeight_pos _) (weight_dvd hj)
  obtain ⟨k, hk, hlow, hhigh, heq⟩ := addWheel_eq_putIn s t hn (by omega)
  have hkj : k < j := by
    by_contra hge
    have hle := Nat.le_of_dvd (ringWeight_pos k) (weight_dvd
      (Nat.le_of_not_lt hge) : ringWeight j ∣ ringWeight k)
    have : ringWeight j ≤ ringWeight k := hle
    omega
  have hw := ringWeight_pos k
  have hT : ringWeight k * (s.debugTickCounts / ringWeight k) +
      s.debugTickCounts % ringWeight k = s.debugTickCounts := Nat.div_add_mod _ _
  have hN : ringWeight k * (n / ringWeight k) + n % ringWeight k = n := Nat.div_add_mod _ _
  have hTm : s.debugTickCounts % ringWeight k < ringWeight k := Nat.mod_lt _ hw
  have hNm : n % ringWeight k < ringWeight k := Nat.mod_lt _ hw
  have hq : 1 ≤ n / ringWeight k := (Nat.one_le_div_iff hw).mpr hlow
  have hqr : n / ringWeight k < kTimingWheelBucketNum k :=
    Nat.div_lt_of_lt_mul (by rwa [ringWeight_succ] at hhigh)
  have hq1 : ringWeight k * 1 ≤ ringWeight k * (n / ringWeight k) := Nat.mul_le_mul_left _ hq
  have hq2 : ringWeight k * (n / ringWeight k + 1) ≤ ringWeight k * kTimingWheelBucketNum k :=
    Nat.mul_le_mul_left _ hqr
  rw [Nat.mul_add, Nat.mul_one] at hq2
  have hcur : (s.wheels k).currentBucket = ringDigit k s.debugTickCounts :=
    o.advanced k hkj (by omega)
  have hlower := o.lowerTicks_eq (Nat.le_of_lt hkj) (Nat.le_of_lt hk)
  refine ⟨(s.putIn t k n).2,
    ringWeight k * (s.debugTickCounts / ringWeight k + n / ringWeight k), ?_, Dvd.intro _ rfl,
    ?_, ?_⟩
  · simp [place, heq, store, putIn]
  · show slot _ _ = slot _ (_ / ringWeight k)
    rw [hcur, Nat.mul_div_cancel_left _ hw]
    exact slot_add_mod _ _ _ (bucketNum_pos k)
  · have hclock : (s.place t n).debugTickCounts = s.debugTickCounts := (place_sameClock s t n).1
    rw [hclock, Nat.mul_add]
    show _ ∧ (k < j → _) ∧ _ < _ + kTimingWheelBucketNum k * ringWeight k ∧
      _ = _ + ((lowerTicks s k : Int) + ((n % ringWeight k : Nat) : Int)) ∧
      ((lowerTicks s k : Int) + ((n % ringWeight k : Nat) : Int)) < 2 * (ringWeight k : Int)
    rw [hlower, Nat.mul_comm (kTimingWheelBucketNum k)]
    refine ⟨by omega, fun _ => by omega, by omega, by omega, by omega⟩

theorem place_timers_other (s : TimingWheel) (t : Timer) (n : Int) {id : Int} (h : id ≠ t.id) :
    (s.place t n).timers id = s.timers id := by
  have hfrom : ∀ m i undo maxTicks step,
      (s.addWheelFrom t n m i undo maxTicks step).1.timers = s.timers ∧
      (s.addWheelFrom t n m i undo maxTicks step).2.id = t.id := by
    intro m
    induction m with
    | zero => intro i undo maxTicks step; exact ⟨rfl, rfl⟩
    | succ m ih =>
      intro i undo maxTicks step
      simp only [addWheelFrom]
      split
      · exact ⟨rfl, rfl⟩
      · exact ih _ _ _ _
  obtain ⟨htimers, hid⟩ := hfrom kTimingWheelNum 0 0 1 1
  show Function.update (s.addWheel t n).1.timers (s.addWheel t n).2.id _ id = _
  rw [addWheel, hid, Function.update_of_ne h, htimers]

theorem addTimer_timers_of_some {s : TimingWheel} (now : Timestamp) (expireMs callTimes : Int)
    {id : Int} {t : Timer} (h : s.timers id = some t) :
    (s.addTimer now expireMs callTimes).1.timers id = some t := by
  rcases addTimer_cases s now expireMs callTimes with heq | ⟨hnone, heq⟩
  · rw [heq]
    exact h
  · have hne : id ≠ s.timerIds + 1 := by
      intro hsame
      subst hsame
      rw [hnone] at h
      cases h
    rw [heq, place_timers_other _ _ _ hne]
    exact h

theorem removeTimer_timers_other (s : TimingWheel) {id removed : Int} (h : id ≠ removed) :
    (s.removeTimer removed).timers id = s.timers id := by
  unfold removeTimer
  split
  · rfl
  · show Function.update (s.removeWheel _).timers removed none id = _
    rw [Function.update_of_ne h]
    unfold removeWheel
    split <;> rfl

/-- Operations that do not remove the timer leave its object alone. -/
theorem applyAll_timers_of_some {s : TimingWheel} (ops : List TimerOp) {id : Int} {t : Timer}
    (spared : TimerOp.removeTimer id ∉ ops) (h : s.timers id = some t) :
    (ops.foldl apply s).timers id = some t := by
  induction ops generalizing s with
  | nil => exact h
  | cons op ops ih =>
    refine ih (fun hmem => spared (List.mem_cons_of_mem _ hmem)) ?_
    cases op with
    | addTimer now expireMs callTimes => exact addTimer_timers_of_some now _ _ h
    | removeTimer removed =>
      have hne : id ≠ removed := by
        intro hsame
        subst hsame
        exact spared List.mem_cons_self
      exact (removeTimer_timers_other s hne).trans h

/-- Nothing that runs inside a tick removes the timer. -/
def Spared (cbs : Callbacks) (id : Int) : Prop := ∀ calls, TimerOp.removeTimer id ∉ cbs calls

theorem visit_timers_other {s : TimingWheel} {cbs : Callbacks} {id : Int} {t u : Timer}
    (spared : Spared cbs id) (now : Timestamp) (hne : id ≠ u.id) (h : s.timers id = some t) :
    (s.visit cbs now u).timers id = some t := by
  have placed : ∀ (s' : TimingWheel) (u' : Timer) (n : Int), s'.timers = s.timers →
      u'.id = u.id → (s'.place u' n).timers id = some t := by
    intro s' u' n hs hu
    rw [place_timers_other s' u' n (hu ▸ hne), hs]
    exact h
  unfold visit
  split
  · exact placed _ _ _ rfl rfl
  · dsimp only
    split
    · exact placed _ _ _ rfl rfl
    · refine applyAll_timers_of_some _ (spared _) ?_
      show TimingWheel.timers (ite _ _ _) id = _
      split
      · exact placed _ _ _ rfl rfl
      · split
        · exact placed _ _ _ rfl rfl
        · exact (removeTimer_timers_other _ hne).trans h

theorem addWheelFrom_checks (s : TimingWheel) (t : Timer) (n : Int) (m i : Nat)
    (undo maxTicks step : Int) :
    (s.addWheelFrom t n m i undo maxTicks step).1.checks = s.checks := by
  induction m generalizing i undo maxTicks step with
  | zero => rfl
  | succ m ih =>
    simp only [addWheelFrom]
    split
    · rfl
    · exact ih _ _ _ _

theorem place_checks (s : TimingWheel) (t : Timer) (n : Int) : (s.place t n).checks = s.checks := by
  show (s.addWheel t n).1.checks = s.checks
  exact addWheelFrom_checks s t n _ _ _ _ _

theorem removeTimer_checks (s : TimingWheel) (id : Int) : (s.removeTimer id).checks = s.checks := by
  unfold removeTimer
  split
  · rfl
  · unfold removeWheel
    split <;> rfl

theorem apply_checks (s : TimingWheel) (op : TimerOp) : (s.apply op).checks = s.checks := by
  cases op with
  | addTimer now expireMs callTimes =>
    show (s.addTimer now expireMs.toInt callTimes.toInt).1.checks = s.checks
    rcases addTimer_cases s now expireMs.toInt callTimes.toInt with heq | ⟨_, heq⟩
    · rw [heq]
    · rw [heq, place_checks]
  | removeTimer timerId => exact removeTimer_checks s timerId

theorem applyAll_checks (s : TimingWheel) (ops : List TimerOp) :
    (ops.foldl apply s).checks = s.checks := by
  induction ops generalizing s with
  | nil => rfl
  | cons op ops ih => exact (ih _).trans (apply_checks s op)

/-- A visit logs a check exactly when nothing is left to undo. -/
theorem visit_checks (s : TimingWheel) (cbs : Callbacks) (now : Timestamp) (t : Timer) :
    (s.visit cbs now t).checks =
      s.checks ++ if t.undoTickCounts > 0 then [] else [(s.debugTickCounts, t.id)] := by
  unfold visit
  split
  · rw [place_checks, List.append_nil]
  · dsimp only
    split
    · rw [place_checks]
    · refine (applyAll_checks _ _).trans ?_
      show TimingWheel.checks (ite _ _ _) = _
      split
      · rw [place_checks]
      · split
        · rw [place_checks]
        · rw [removeTimer_checks]

/-- Since `base` was logged, timer `id` has either been checked, first in tick `D`,
or still awaits that tick. -/
def Tracked (base : List (Nat × Int)) (id : Int) (D j : Nat) (s : TimingWheel) : Prop :=
  ∃ log, s.checks = base ++ log ∧
    ((firstCheck id log = none ∧ Awaits j id D s) ∨
      (firstCheck id log = some D ∧ D ≤ s.debugTickCounts))

theorem awaits_visit_self {i : Nat} {s : TimingWheel} (d : Draining i s) {id : Int}
    {rest : List Int} {t : Timer}
    (hbucket : (s.wheels i).buckets (ringSlot i s.debugTickCounts) = id :: rest)
    (ht : s.timers id = some t) {D : Nat} (h : Awaits i id D s) :
    (D : Int) = s.debugTickCounts + t.undoTickCounts ∧
      t.undoTickCounts < 2 * ringWeight i := by
  obtain ⟨t', v, ht', hdvd, hslot, hle, _, hub, hD, hu⟩ := h
  rw [ht] at ht'
  cases ht'
  obtain ⟨_, t', ht', hw, hb⟩ := d.registry.live i _ id (by rw [hbucket]; exact List.mem_cons_self)
  rw [ht] at ht'
  cases ht'
  subst hw
  have hr := bucketNum_pos t.wheel
  have hpos : 0 < kTimingWheelBucketNum t.wheel * ringWeight t.wheel :=
    Nat.mul_pos hr (ringWeight_pos _)
  have hv : v = s.debugTickCounts := slot_injective (ringWeight_pos t.wheel) hr hdvd d.carry hle
    (Nat.le_refl _) hub (by omega) (hslot.symm.trans hb)
  subst hv
  exact ⟨hD, hu⟩

/-- A bucket that has been emptied holds no timer that is due in this tick. -/
theorem Awaits.emptied {i D : Nat} {s : TimingWheel} {id : Int} (h : Awaits i id D s)
    (d : Draining i s) (hempty : (s.wheels i).buckets (ringSlot i s.debugTickCounts) = []) :
    Awaits (i + 1) id D s := by
  obtain ⟨t, v, ht, hdvd, hslot, hle, hlt, hub, hD, hu⟩ := h
  refine ⟨t, v, ht, hdvd, hslot, hle, ?_, hub, hD, hu⟩
  intro hi
  rcases Nat.lt_or_ge t.wheel i with hlow | hhigh
  · exact hlt hlow
  · obtain rfl : t.wheel = i := by omega
    refine Nat.lt_of_le_of_ne hle ?_
    intro hnow
    have hmem := d.registry.listed id t ht (by simp)
    rw [hslot, ← hnow, hempty] at hmem
    simp at hmem

/-- In a tick that does not reach wheel `i`, nothing on it or above is due. -/
theorem Awaits.unreached {i D : Nat} {s : TimingWheel} {id : Int} (h : Awaits i id D s)
    (hstop : ¬ ringWeight i ∣ s.debugTickCounts) :
    Awaits kTimingWheelNum id D s := by
  obtain ⟨t, v, ht, hdvd, hslot, hle, hlt, hub, hD, hu⟩ := h
  refine ⟨t, v, ht, hdvd, hslot, hle, ?_, hub, hD, hu⟩
  intro _
  rcases Nat.lt_or_ge t.wheel i with hlow | hhigh
  · exact hlt hlow
  · refine Nat.lt_of_le_of_ne hle ?_
    intro hnow
    exact hstop (hnow ▸ Nat.dvd_trans (weight_dvd hhigh) hdvd)

/-- Between two ticks nothing is due before the next one. -/
theorem Awaits.begin {D : Nat} {s : TimingWheel} {id : Int}
    (h : Awaits kTimingWheelNum id D s) (registry : Registry none s) :
    Awaits 0 id D { s with debugTickCounts := s.debugTickCounts + 1 } := by
  obtain ⟨t, v, ht, hdvd, hslot, _, hlt, hub, hD, hu⟩ := h
  have hlater := hlt (registry.sound id t ht).wheel_lt
  refine ⟨t, v, ht, hdvd, hslot, hlater, fun hz => absurd hz (Nat.not_lt_zero _), ?_, hD, hu⟩
  show v < s.debugTickCounts + 1 + _
  omega

/-- The tick rule of a timer that is tracked: the heart of the refinement. -/
theorem tracked_rule {cbs : Callbacks} (now : Timestamp) (base : List (Nat × Int)) {id : Int}
    (spared : Spared cbs id) (D : Nat) : TickRule cbs now (Tracked base id D) where
  start := by
    rintro s good ⟨log, hlog, ⟨hnone, hdue⟩ | ⟨hsome, hD⟩⟩
    · exact ⟨log, hlog, Or.inl ⟨hnone, hdue.begin good.registry⟩⟩
    · exact ⟨log, hlog, Or.inr ⟨hsome, Nat.le_succ_of_le hD⟩⟩
  enter := by
    rintro i s b ⟨log, hlog, h⟩
    exact ⟨log, hlog, h⟩
  visit := by
    rintro i s id' rest t d hbucket ht ⟨log, hlog, h⟩
    have hid' := (d.registry.sound id' t ht).named
    have hclock := (setBucket_sameClock s i (ringSlot i s.debugTickCounts) rest).trans
      (visit_sameClock _ cbs now t)
    have hchecks := visit_checks (s.setBucket i (ringSlot i s.debugTickCounts) rest) cbs now t
    rw [setBucket_checks, setBucket_debugTickCounts, hid', hlog, List.append_assoc] at hchecks
    refine ⟨_, hchecks, ?_⟩
    rcases h with ⟨hnone, hawaits⟩ | ⟨hsome, hD⟩
    · by_cases hsame : id' = id
      · subst hsame
        obtain ⟨hD, hu⟩ := awaits_visit_self d hbucket ht hawaits
        by_cases hundo : t.undoTickCounts > 0
        · refine Or.inl ⟨by rw [if_pos hundo, List.append_nil]; exact hnone, ?_⟩
          obtain ⟨n, hn⟩ : ∃ n : Nat, t.undoTickCounts = n := ⟨t.undoTickCounts.toNat, by omega⟩
          have hspan : 2 * ringWeight i ≤ ringWeight (i + 1) := by
            rw [ringWeight_succ, Nat.mul_comm]
            exact Nat.mul_le_mul_left _ (two_le_bucketNum i)
          have hplaced := place_awaits (s := s.setBucket i (ringSlot i s.debugTickCounts) rest)
            (d.odometer.of_sameClock (setBucket_sameClock s i _ rest))
            d.wheel_lt t (n := n) (by omega) (by omega)
          have hvisit : (s.setBucket i (ringSlot i s.debugTickCounts) rest).visit cbs now t =
              (s.setBucket i (ringSlot i s.debugTickCounts) rest).place t n := by
            rw [visit, if_pos hundo, hn]
          rw [hvisit, show D = s.debugTickCounts + n by omega]
          rw [hid'] at hplaced
          exact hplaced.mono (Nat.le_succ i)
        · have hnow : D = s.debugTickCounts := by
            have := (d.registry.sound id' t ht).undo_nonneg
            omega
          refine Or.inr ⟨?_, by rw [hclock.1]; exact Nat.le_of_eq hnow⟩
          rw [if_neg hundo, firstCheck_append_none hnone, firstCheck_self, hnow]
      · refine Or.inl ⟨?_, ?_⟩
        · rw [firstCheck_append_none hnone]
          split
          · rfl
          · exact firstCheck_other hsame
        · obtain ⟨u, v, hu, hdue⟩ := hawaits
          refine Awaits.congr ⟨u, v, hu, hdue⟩ ?_ hclock.1
          rw [hu]
          exact visit_timers_other spared now (by rw [hid']; exact Ne.symm hsame) hu
    · exact Or.inr ⟨firstCheck_append_some hsome, by rw [hclock.1]; exact hD⟩
  leave := by
    rintro i s d hempty ⟨log, hlog, ⟨hnone, hdue⟩ | h⟩
    · exact ⟨log, hlog, Or.inl ⟨hnone, hdue.emptied d hempty⟩⟩
    · exact ⟨log, hlog, Or.inr h⟩
  stop := by
    rintro i s r hstop ⟨log, hlog, ⟨hnone, hdue⟩ | h⟩
    · exact ⟨log, hlog, Or.inl ⟨hnone, hdue.unreached hstop⟩⟩
    · exact ⟨log, hlog, Or.inr h⟩

end Mysya.TimingWheel
