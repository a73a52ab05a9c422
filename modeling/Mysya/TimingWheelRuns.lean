import Mysya.TimingWheelDeadline

/-!
# Runs of the timing wheel

`Reachable` covers every history of additions, removals and completed ticks.
The main theorem follows one timer from its placement: however long the run,
its first check falls in the tick the placement counted to. A tick completes
whenever no timer has a period of zero ticks, which is all that can keep a
bucket from draining.
-/

namespace Mysya.TimingWheel

open MixedRadix

theorem drain_debugTickCounts {cbs : Callbacks} {now : Timestamp} {i b : Nat} (fuel : Nat)
    {s s' : TimingWheel} (h : s.drain cbs now i b fuel = some s') :
    s'.debugTickCounts = s.debugTickCounts := by
  induction fuel generalizing s with
  | zero =>
    unfold drain at h
    split at h
    · cases h; rfl
    · cases h
    · rename_i hfuel; cases hfuel
  | succ fuel ih =>
    unfold drain at h
    split at h
    · cases h; rfl
    · rename_i hfuel; cases hfuel
    · rename_i hfuel
      cases hfuel
      split at h
      · cases h
      · exact (ih h).trans (visit_sameClock _ cbs now _).1

theorem tickFrom_debugTickCounts {cbs : Callbacks} {now : Timestamp} {fuel : Nat} (n i : Nat)
    {s s' : TimingWheel} (h : s.tickFrom cbs now fuel n i = some s') :
    s'.debugTickCounts = s.debugTickCounts := by
  induction n generalizing i s with
  | zero => cases h; rfl
  | succ n ih =>
    unfold tickFrom at h
    split at h
    · cases h
    · rename_i m hm
      unfold wheelOnExpired at hm
      have hdrain := drain_debugTickCounts fuel hm
      split at h
      · cases h; exact hdrain
      · exact (ih _ h).trans hdrain

theorem Ticked.debugTickCounts {cbs : Callbacks} {now : Timestamp} {s s' : TimingWheel}
    (h : Ticked cbs now s s') : s'.debugTickCounts = s.debugTickCounts + 1 := by
  obtain ⟨fuel, h⟩ := h
  exact tickFrom_debugTickCounts _ _ h

/-- The tick rule, used on a whole tick. -/
theorem TickRule.ticked {cbs : Callbacks} {now : Timestamp} {P : Nat → TimingWheel → Prop}
    (rule : TickRule cbs now P) {s s' : TimingWheel} (good : Good s) (hP : P kTimingWheelNum s)
    (h : Ticked cbs now s s') : Good s' ∧ P kTimingWheelNum s' := by
  obtain ⟨fuel, h⟩ := h
  refine rule.tickFrom (s := { s with debugTickCounts := s.debugTickCounts + 1 }) fuel
    kTimingWheelNum 0 (Nat.zero_add _) { good.registry with } ?_ (Nat.succ_pos _) (Nat.one_dvd _)
    (rule.start s good hP) h
  exact ⟨fun k hk => absurd hk (Nat.not_lt_zero k), fun k _ hk => good.odometer.advanced k hk hk⟩

theorem trivial_rule (cbs : Callbacks) (now : Timestamp) : TickRule cbs now (fun _ _ => True) :=
  ⟨fun _ _ _ => trivial, fun _ _ _ _ => trivial, fun _ _ _ _ _ _ _ _ _ => trivial,
    fun _ _ _ _ _ => trivial, fun _ _ _ _ _ => trivial⟩

/-- The between-tick states of every history; `clock` stands for the bookkeeping
of `SetTimestamp` and `OnExpired` around their ticks. -/
inductive Reachable : TimingWheel → Prop where
  | init (tickMs : Int) : 1 ≤ tickMs → Reachable (init tickMs)
  | op {s : TimingWheel} (o : TimerOp) : Reachable s → Reachable (s.apply o)
  | tick {s s' : TimingWheel} (cbs : Callbacks) (now : Timestamp) :
      Reachable s → Ticked cbs now s s' → Reachable s'
  | clock {s : TimingWheel} (undoNsec : Int) (timestamp : Timestamp) :
      Reachable s → Reachable { s with undoNsec := undoNsec, timestamp := timestamp }

theorem Good.apply {s : TimingWheel} (good : Good s) (o : TimerOp) : Good (s.apply o) :=
  ⟨apply_registry good.registry o, good.odometer.of_sameClock (apply_sameClock s o)⟩

theorem Reachable.good {s : TimingWheel} (h : Reachable s) : Good s := by
  induction h with
  | init tickMs hms =>
    refine ⟨init_registry hms, fun k _ _ => ?_, fun k hk hk5 => absurd hk (by omega)⟩
    show 0 = 0 / _ % _
    rw [Nat.zero_div, Nat.zero_mod]
  | op o _ ih => exact ih.apply o
  | tick cbs now _ hs ih => exact ((trivial_rule cbs now).ticked ih trivial hs).1
  | clock undoNsec timestamp _ ih =>
    exact ⟨{ ih.registry with }, ⟨ih.odometer.advanced, ih.odometer.behind⟩⟩

/-- What may happen after a timer is placed. -/
inductive TimerAction where
  | op (o : TimerOp)
  | tick (now : Timestamp)

def tickCount : List TimerAction → Nat
  | [] => 0
  | .op _ :: as => tickCount as
  | .tick _ :: as => tickCount as + 1

/-- The run of a list of actions in which every tick completes. -/
def Runs (cbs : Callbacks) : List TimerAction → TimingWheel → TimingWheel → Prop
  | [], s, s' => s' = s
  | .op o :: as, s, s' => Runs cbs as (s.apply o) s'
  | .tick now :: as, s, s' => ∃ m, Ticked cbs now s m ∧ Runs cbs as m s'

theorem applyAll_tracked {base : List (Nat × Int)} {id : Int} {D : Nat} {s : TimingWheel}
    {o : TimerOp} (spared : o ≠ .removeTimer id) (h : Tracked base id D kTimingWheelNum s) :
    Tracked base id D kTimingWheelNum (s.apply o) := by
  obtain ⟨log, hlog, h⟩ := h
  have hclock := (apply_sameClock s o).1
  refine ⟨log, (apply_checks s o).trans hlog, ?_⟩
  rcases h with ⟨hnone, t, v, ht, hdue⟩ | ⟨hsome, hD⟩
  · refine Or.inl ⟨hnone, Awaits.congr ⟨t, v, ht, hdue⟩ ?_ hclock⟩
    rw [ht]
    exact applyAll_timers_of_some [o] (by simpa using spared.symm) ht
  · exact Or.inr ⟨hsome, by rw [hclock]; exact hD⟩

theorem runs_tracked {cbs : Callbacks} {base : List (Nat × Int)} {id : Int} {D : Nat}
    (spared : Spared cbs id) (acts : List TimerAction)
    (kept : TimerAction.op (.removeTimer id) ∉ acts) {s s' : TimingWheel} (good : Good s)
    (h : Tracked base id D kTimingWheelNum s) (run : Runs cbs acts s s') :
    Good s' ∧ Tracked base id D kTimingWheelNum s' ∧
      s'.debugTickCounts = s.debugTickCounts + tickCount acts := by
  induction acts generalizing s with
  | nil => cases run; exact ⟨good, h, rfl⟩
  | cons a acts ih =>
    have kept' : TimerAction.op (.removeTimer id) ∉ acts :=
      fun hmem => kept (List.mem_cons_of_mem _ hmem)
    cases a with
    | op o =>
      have hne : o ≠ .removeTimer id := by
        intro hsame
        subst hsame
        exact kept List.mem_cons_self
      obtain ⟨hgood, htracked, hcount⟩ := ih kept' (good.apply o) (applyAll_tracked hne h) run
      exact ⟨hgood, htracked, by rw [hcount, (apply_sameClock s o).1]; rfl⟩
    | tick now =>
      obtain ⟨m, hm, run⟩ := run
      obtain ⟨hgood, htracked⟩ := (tracked_rule now base spared D).ticked good h hm
      obtain ⟨hgood', htracked', hcount⟩ := ih kept' hgood htracked run
      refine ⟨hgood', htracked', ?_⟩
      rw [hcount, hm.debugTickCounts, tickCount]
      omega

/-- The first check falls in tick `D`, and until then there is none. -/
theorem Tracked.firstCheck_eq {base : List (Nat × Int)} {id : Int} {D : Nat} {s : TimingWheel}
    (good : Good s) (h : Tracked base id D kTimingWheelNum s) :
    firstCheck id (s.checks.drop base.length) =
      if s.debugTickCounts < D then none else some D := by
  obtain ⟨log, hlog, ⟨hnone, t, v, ht, _, _, _, hlt, _, hD, _⟩ | ⟨hsome, hD⟩⟩ := h
  · have hsound := good.registry.sound id t ht
    have hv := hlt hsound.wheel_lt
    have hundo := hsound.undo_nonneg
    rw [hlog, List.drop_left, hnone, if_pos (by omega)]
  · rw [hlog, List.drop_left, hsome, if_neg (by omega)]

/-- No timer in memory has a period of zero ticks. -/
def Positive (s : TimingWheel) : Prop := ∀ id t, s.timers id = some t → 1 ≤ t.expireTickCounts

def PositiveOp : TimerOp → Prop
  | .addTimer _ expireMs _ => 1 ≤ expireMs.toInt
  | .removeTimer _ => True

/-- A positive number of ticks never leads to the bucket just passed. -/
theorem place_bucket {i b : Nat} {s : TimingWheel}
    (passed : b = slot (kTimingWheelBucketNum i) (s.wheels i).currentBucket)
    (t : Timer) {n : Int} (hn : 1 ≤ n) (hn' : n < 4294967296) :
    ((s.place t n).wheels i).buckets b = (s.wheels i).buckets b := by
  obtain ⟨c, rfl⟩ : ∃ c : Nat, n = c := ⟨n.toNat, by omega⟩
  obtain ⟨k, hk, hlow, hhigh, heq⟩ := addWheel_eq_putIn s t (n := c) (by omega) (by omega)
  have hplace : s.place t c = (s.putIn t k c).1.store (s.putIn t k c).2 := by
    rw [place, heq]
  rw [hplace]
  show ((s.setBucket k _ _).wheels i).buckets b = _
  rw [setBucket_buckets, if_neg]
  rintro ⟨rfl, hb⟩
  -- a positive number of turns below a full revolution never returns to the same slot
  have hq : 1 ≤ c / ringWeight i := (Nat.one_le_div_iff (ringWeight_pos i)).mpr hlow
  have hqr : c / ringWeight i < kTimingWheelBucketNum i :=
    Nat.div_lt_of_lt_mul (by rwa [ringWeight_succ] at hhigh)
  have hr := bucketNum_pos i
  have hsame : (s.wheels i).currentBucket = (s.wheels i).currentBucket + c / ringWeight i :=
    slot_injective Nat.one_pos hr (Nat.one_dvd _) (Nat.one_dvd _) (Nat.le_refl _)
      (Nat.le_add_right _ _) (by omega) (by omega)
      (by rw [Nat.div_one, Nat.div_one]; exact passed.symm.trans hb)
  omega

/-- While a bucket of wheel `i` is emptied: it is the one just passed, `n` bounds
what it still holds, and no operation can put anything into it. -/
structure Shrinking (i b n : Nat) (s : TimingWheel) : Prop where
  tickMs_pos : 1 ≤ s.tickMs
  passed : b = slot (kTimingWheelBucketNum i) (s.wheels i).currentBucket
  length_le : ((s.wheels i).buckets b).length ≤ n
  positive : Positive s

theorem place_shrinking {i b n : Nat} {s : TimingWheel} (h : Shrinking i b n s) (t : Timer)
    (hexpire : 1 ≤ t.expireTickCounts) {m : Int} (hm : 1 ≤ m) (hm' : m < 4294967296) :
    Shrinking i b n (s.place t m) := by
  obtain ⟨c, rfl⟩ : ∃ c : Nat, m = c := ⟨m.toNat, by omega⟩
  obtain ⟨k, hk, hlow, hhigh, heq⟩ := addWheel_eq_putIn s t (n := c) (by omega) (by omega)
  have hplace : s.place t c = (s.putIn t k c).1.store (s.putIn t k c).2 := by
    rw [place, heq]
  rw [hplace]
  refine ⟨h.tickMs_pos, ?_, ?_, ?_⟩
  · show b = slot _ (((s.setBucket k _ _).wheels i).currentBucket)
    rw [setBucket_currentBucket]
    exact h.passed
  · rw [← hplace, place_bucket h.passed t hm hm']
    exact h.length_le
  · intro id u hu
    have htimers : Function.update s.timers t.id (some (s.putIn t k c).2) id = some u := hu
    rw [Function.update_apply] at htimers
    split at htimers
    · cases htimers
      exact hexpire
    · exact h.positive id u htimers

theorem removeTimer_shrinking {i b n : Nat} {s : TimingWheel} (h : Shrinking i b n s)
    (id : Int) : Shrinking i b n (s.removeTimer id) := by
  unfold removeTimer
  split
  · exact h
  · rename_i t _
    have positive : ∀ id' u, Function.update s.timers id none id' = some u →
        1 ≤ u.expireTickCounts := by
      intro id' u hu
      rw [Function.update_apply] at hu
      split at hu
      · cases hu
      · exact h.positive id' u hu
    unfold removeWheel
    split
    · refine ⟨h.tickMs_pos, ?_, ?_, positive⟩
      · show b = slot _ (((s.setBucket _ _ _).wheels i).currentBucket)
        rw [setBucket_currentBucket]
        exact h.passed
      · show (((s.setBucket _ _ _).wheels i).buckets b).length ≤ n
        rw [setBucket_buckets]
        split
        · rename_i hib
          rw [← hib.1, ← hib.2]
          exact Nat.le_trans List.length_erase_le h.length_le
        · exact h.length_le
    · exact ⟨h.tickMs_pos, h.passed, h.length_le, positive⟩

theorem applyAll_shrinking {i b n : Nat} {s : TimingWheel} (h : Shrinking i b n s)
    (ops : List TimerOp) (positive : ∀ o ∈ ops, PositiveOp o) :
    Shrinking i b n (ops.foldl TimingWheel.apply s) := by
  induction ops generalizing s with
  | nil => exact h
  | cons o ops ih =>
    refine ih ?_ (fun o' ho' => positive o' (List.mem_cons_of_mem _ ho'))
    cases o with
    | addTimer now expireMs callTimes =>
      have hms : 1 ≤ expireMs.toInt := positive _ List.mem_cons_self
      have hlater : Shrinking i b n { s with timerIds := s.timerIds + 1 } :=
        ⟨h.tickMs_pos, h.passed, h.length_le, h.positive⟩
      have hpos := expireTickCounts_pos h.tickMs_pos hms
      have hlt := expireTickCounts_lt h.tickMs_pos (Int32.toInt_lt expireMs)
      show Shrinking i b n (s.addTimer now expireMs.toInt callTimes.toInt).1
      rcases addTimer_cases s now expireMs.toInt callTimes.toInt with heq | ⟨_, heq⟩
      · rw [heq]; exact hlater
      · rw [heq]; exact place_shrinking hlater _ hpos hpos hlt
    | removeTimer timerId => exact removeTimer_shrinking h timerId

theorem visit_shrinking {i b n : Nat} {s : TimingWheel} (h : Shrinking i b n s)
    {cbs : Callbacks} (positive : ∀ calls, ∀ o ∈ cbs calls, PositiveOp o) (now : Timestamp)
    (id : Int) {t : Timer} (ht : s.timers id = some t) (hsound : SoundTimer id t) :
    Shrinking i b n (s.visit cbs now t) := by
  have hexpire := h.positive id t ht
  have hchecked : Shrinking i b n { s with checks := s.checks ++ [(s.debugTickCounts, t.id)] } :=
    ⟨h.tickMs_pos, h.passed, h.length_le, h.positive⟩
  unfold visit
  split
  · exact place_shrinking h t hexpire (by omega) hsound.undo_lt
  · dsimp only
    split
    · exact place_shrinking hchecked { t with undoTickCounts := 1 } hexpire (by decide) (by decide)
    · refine applyAll_shrinking ?_ _ (positive _)
      have hcalled : ∀ m : TimingWheel, Shrinking i b n m → ∀ calls,
          Shrinking i b n { m with calls := calls } :=
        fun m hm calls => ⟨hm.tickMs_pos, hm.passed, hm.length_le, hm.positive⟩
      apply hcalled
      split
      · exact place_shrinking hchecked t hexpire hexpire hsound.expire_lt
      · split
        · exact place_shrinking hchecked { t with callTimes := t.callTimes - 1 } hexpire hexpire
            hsound.expire_lt
        · exact removeTimer_shrinking hchecked t.id

/-- Draining ends: as much fuel as the bucket holds timers is enough. -/
theorem drain_total {i b : Nat} (n : Nat) {s : TimingWheel} (d : Draining i s)
    (h : Shrinking i b n s) {cbs : Callbacks}
    (positive : ∀ calls, ∀ o ∈ cbs calls, PositiveOp o) (now : Timestamp) (fuel : Nat)
    (hfuel : n ≤ fuel) :
    ∃ s', s.drain cbs now i b fuel = some s' ∧ Draining i s' ∧ Positive s' := by
  induction n generalizing s fuel with
  | zero =>
    have hempty : (s.wheels i).buckets b = [] := List.length_eq_zero_iff.mp (by
      have := h.length_le; omega)
    refine ⟨s, ?_, d, h.positive⟩
    unfold drain
    rw [hempty]
  | succ n ih =>
    obtain ⟨fuel, rfl⟩ : ∃ f, fuel = f + 1 := ⟨fuel - 1, by omega⟩
    cases hbucket : (s.wheels i).buckets b with
    | nil =>
      refine ⟨s, ?_, d, h.positive⟩
      unfold drain
      rw [hbucket]
    | cons id rest =>
      obtain ⟨_, t, ht, _, _⟩ := d.registry.live i b id (by rw [hbucket]; exact List.mem_cons_self)
      have hpop : Shrinking i b n (s.setBucket i b rest) := by
        refine ⟨h.tickMs_pos, ?_, ?_, h.positive⟩
        · rw [setBucket_currentBucket]; exact h.passed
        · rw [setBucket_buckets, if_pos ⟨rfl, rfl⟩]
          have := h.length_le
          rw [hbucket, List.length_cons] at this
          omega
      have hvisit := visit_shrinking hpop positive now id ht (d.registry.sound id t ht)
      obtain ⟨s', hs', hdone⟩ := ih (d.visit hbucket ht cbs now) hvisit fuel (by omega)
      refine ⟨s', ?_, hdone⟩
      unfold drain
      simp only [hbucket, ht]
      exact hs'

theorem drain_mono {cbs : Callbacks} {now : Timestamp} {i b fuel : Nat} {s s' : TimingWheel}
    (h : s.drain cbs now i b fuel = some s') {fuel' : Nat} (hle : fuel ≤ fuel') :
    s.drain cbs now i b fuel' = some s' := by
  induction fuel generalizing s fuel' with
  | zero =>
    unfold drain at h
    split at h
    · rename_i hbucket
      unfold drain
      rw [hbucket]
      exact h
    · cases h
    · rename_i hfuel
      cases hfuel
  | succ fuel ih =>
    obtain ⟨fuel', rfl⟩ : ∃ f, fuel' = f + 1 := ⟨fuel' - 1, by omega⟩
    unfold drain at h ⊢
    cases hbucket : (s.wheels i).buckets b with
    | nil =>
      rw [hbucket] at h
      exact h
    | cons id rest =>
      simp only [hbucket] at h ⊢
      split at h
      · cases h
      · exact ih h (by omega)

theorem tickFrom_mono {cbs : Callbacks} {now : Timestamp} {fuel fuel' : Nat} (n i : Nat)
    {s s' : TimingWheel} (h : s.tickFrom cbs now fuel n i = some s') (hle : fuel ≤ fuel') :
    s.tickFrom cbs now fuel' n i = some s' := by
  induction n generalizing i s with
  | zero => exact h
  | succ n ih =>
    unfold tickFrom at h ⊢
    split at h
    · cases h
    · rename_i m hm
      have hm' : s.wheelOnExpired cbs now fuel' i = some m := drain_mono hm hle
      rw [hm']
      dsimp only
      split at h
      · rename_i hstop
        rw [if_pos hstop]
        exact h
      · rename_i hcont
        rw [if_neg hcont]
        exact ih (i + 1) h

theorem wheelOnExpired_total {i : Nat} {s : TimingWheel} (r : Registry none s) (o : Odometer i s)
    (hi : i < kTimingWheelNum) (hpos : 0 < s.debugTickCounts)
    (carry : ringWeight i ∣ s.debugTickCounts) (positive : Positive s) {cbs : Callbacks}
    (hcbs : ∀ calls, ∀ o ∈ cbs calls, PositiveOp o) (now : Timestamp) :
    ∃ fuel s', s.wheelOnExpired cbs now fuel i = some s' ∧ Draining i s' ∧ Positive s' := by
  obtain ⟨d, _⟩ := draining_enter r o hi hpos carry
  have hpassed : (s.wheels i).currentBucket = slot (kTimingWheelBucketNum i)
      (((s.wheels i).currentBucket + 1) % kTimingWheelBucketNum i) := by
    have hslot := slot_add_mod (kTimingWheelBucketNum i) ((s.wheels i).currentBucket + 1) 0
      (bucketNum_pos i)
    rw [Nat.add_zero, Nat.add_zero, slot_succ (bucketNum_pos i), Nat.mod_eq_of_lt (r.ring i)] at hslot
    exact hslot.symm
  have hshrinking : Shrinking i (s.wheels i).currentBucket
      ((s.wheels i).buckets (s.wheels i).currentBucket).length
      (s.setCurrentBucket i (((s.wheels i).currentBucket + 1) % kTimingWheelBucketNum i)) := by
    refine ⟨r.tickMs_pos, ?_, ?_, positive⟩
    · simpa [setCurrentBucket, setWheel] using hpassed
    · simp [setCurrentBucket, setWheel]
  obtain ⟨s', hs', hdone⟩ := drain_total _ d hshrinking hcbs now _ (Nat.le_refl _)
  exact ⟨_, s', hs', hdone⟩

theorem tickFrom_total {cbs : Callbacks} (hcbs : ∀ calls, ∀ o ∈ cbs calls, PositiveOp o)
    (now : Timestamp) (n i : Nat) (hin : i + n = kTimingWheelNum) {s : TimingWheel}
    (r : Registry none s) (o : Odometer i s) (hpos : 0 < s.debugTickCounts)
    (carry : ringWeight i ∣ s.debugTickCounts) (positive : Positive s) :
    ∃ fuel s', s.tickFrom cbs now fuel n i = some s' ∧ Positive s' := by
  induction n generalizing i s with
  | zero => exact ⟨0, s, rfl, positive⟩
  | succ n ih =>
    obtain ⟨fuel, m, hm, d, hpositive⟩ :=
      wheelOnExpired_total r o (by omega) hpos carry positive hcbs now
    have hdigit := d.odometer.advanced i (by omega) d.wheel_lt
    by_cases hstop : (m.wheels i).currentBucket > 0
    · refine ⟨fuel, m, ?_, hpositive⟩
      unfold tickFrom
      rw [hm]
      exact if_pos hstop
    · have hdvd : ringWeight (i + 1) ∣ m.debugTickCounts := by
        apply (digit_eq_zero_iff bucketNum_pos d.carry).mp
        rw [hdigit] at hstop
        exact Nat.eq_zero_of_not_pos hstop
      obtain ⟨fuel', s', hs', hdone⟩ := ih (i + 1) (by omega) d.registry d.odometer d.ticking hdvd
        hpositive
      refine ⟨max fuel fuel', s', ?_, hdone⟩
      have hm' : s.wheelOnExpired cbs now (max fuel fuel') i = some m :=
        drain_mono hm (Nat.le_max_left _ _)
      unfold tickFrom
      rw [hm']
      exact (if_neg hstop).trans (tickFrom_mono _ _ hs' (Nat.le_max_right _ _))

/-- A tick completes when no period is zero. -/
theorem tick_total {cbs : Callbacks} (hcbs : ∀ calls, ∀ o ∈ cbs calls, PositiveOp o)
    (now : Timestamp) {s : TimingWheel} (good : Good s) (positive : Positive s) :
    ∃ s', Ticked cbs now s s' ∧ Positive s' := by
  have odometer : Odometer 0 { s with debugTickCounts := s.debugTickCounts + 1 } :=
    ⟨fun k hk => absurd hk (Nat.not_lt_zero k), fun k _ hk => good.odometer.advanced k hk hk⟩
  obtain ⟨fuel, s', hs', hdone⟩ := tickFrom_total
    (s := { s with debugTickCounts := s.debugTickCounts + 1 }) hcbs now kTimingWheelNum 0
    (Nat.zero_add _) { good.registry with } odometer (Nat.succ_pos _) (Nat.one_dvd _) positive
  exact ⟨s', ⟨fuel, hs'⟩, hdone⟩

theorem ticks_runs {cbs : Callbacks} {now : Timestamp} {fuel : Nat} (n : Nat)
    {s s' : TimingWheel} (h : s.ticks cbs now fuel n = some s') :
    Runs cbs (List.replicate n (.tick now)) s s' := by
  induction n generalizing s with
  | zero => cases h; rfl
  | succ n ih =>
    unfold ticks at h
    split at h
    · cases h
    · rename_i m hm
      exact ⟨m, ⟨fuel, hm⟩, ih h⟩

theorem Reachable.runs {cbs : Callbacks} {acts : List TimerAction} {s s' : TimingWheel}
    (h : Reachable s) (run : Runs cbs acts s s') : Reachable s' := by
  induction acts generalizing s with
  | nil => cases run; exact h
  | cons a acts ih =>
    cases a with
    | op o => exact ih (h.op o) run
    | tick now =>
      obtain ⟨m, hm, run⟩ := run
      exact ih (h.tick cbs now hm) run

/-- The timer descriptor's handler stays within the reachable states. -/
theorem Reachable.onExpired {cbs : Callbacks} {now : Timestamp} {fuel : Nat}
    {s s' : TimingWheel} (h : Reachable s) (hs' : s.onExpired cbs now fuel = some s') :
    Reachable s' := by
  unfold TimingWheel.onExpired at hs'
  dsimp only at hs'
  split at hs'
  · cases hs'
  · rename_i m hm
    cases hs'
    exact ((h.clock _ s.timestamp).runs (ticks_runs _ hm)).clock m.undoNsec now

def PositiveAction : TimerAction → Prop
  | .op o => PositiveOp o
  | .tick _ => True

theorem apply_positive {s : TimingWheel} (good : Good s) (positive : Positive s) {o : TimerOp}
    (hop : PositiveOp o) : Positive (s.apply o) := by
  have hshrinking : Shrinking 0 (slot (kTimingWheelBucketNum 0) (s.wheels 0).currentBucket) _ s :=
    ⟨good.registry.tickMs_pos, rfl, Nat.le_refl _, positive⟩
  exact (applyAll_shrinking hshrinking [o] (by simpa using hop)).positive

theorem runs_total {cbs : Callbacks} (hcbs : ∀ calls, ∀ o ∈ cbs calls, PositiveOp o)
    {acts : List TimerAction} (hacts : ∀ a ∈ acts, PositiveAction a) {s : TimingWheel}
    (good : Good s) (positive : Positive s) : ∃ s', Runs cbs acts s s' := by
  induction acts generalizing s with
  | nil => exact ⟨s, rfl⟩
  | cons a acts ih =>
    have hlater : ∀ a ∈ acts, PositiveAction a := fun a ha => hacts a (List.mem_cons_of_mem _ ha)
    cases a with
    | op o =>
      have hop : PositiveOp o := hacts _ List.mem_cons_self
      exact ih hlater (good.apply o) (apply_positive good positive hop)
    | tick now =>
      obtain ⟨m, hm, hpositive⟩ := tick_total hcbs now good positive
      obtain ⟨s', hs'⟩ := ih hlater ((trivial_rule cbs now).ticked good trivial hm).1 hpositive
      exact ⟨s', m, hm, hs'⟩

/-- A timer placed for `N` ticks between two ticks is first checked in exactly the
`N`-th tick that follows, and with positive periods the run gets there. -/
theorem addWheel_refines_deadline {s : TimingWheel} (reachable : Reachable s) {t : Timer}
    (fresh : s.timers t.id = none) (fits : t.expireTickCounts < 2147483648) {N : Nat}
    (low : 1 ≤ N) (high : N ≤ 2147483647) {cbs : Callbacks} (spared : Spared cbs t.id)
    {acts : List TimerAction} (kept : TimerAction.op (.removeTimer t.id) ∉ acts) :
    (∀ s', Runs cbs acts (s.place t N) s' →
      firstCheck t.id (s'.checks.drop s.checks.length) =
        if tickCount acts < N then none else some (s.debugTickCounts + N)) ∧
    (Positive s → 1 ≤ t.expireTickCounts → (∀ calls, ∀ o ∈ cbs calls, PositiveOp o) →
      (∀ a ∈ acts, PositiveAction a) → ∃ s', Runs cbs acts (s.place t N) s') := by
  have good := reachable.good
  have rout : Registry (some t.id) s :=
    { good.registry with
      live := fun i b id hid => by
        refine ⟨?_, (good.registry.live i b id hid).2⟩
        intro hsame
        cases hsame
        exact good.registry.not_mem _ (Or.inl fresh) i b hid
      listed := fun id u hu _ => good.registry.listed id u hu (by simp) }
  have hclock := place_sameClock s t N
  have placed : Good (s.place t N) :=
    ⟨place_registry rout (by omega) (by omega), good.odometer.of_sameClock hclock⟩
  constructor
  · intro s' run
    have htop := ringWeight_top
    have hawaits := place_awaits good.odometer (Nat.le_refl _) t (n := N) low (by omega)
    obtain ⟨good', htracked, hcount⟩ := runs_tracked spared acts kept placed
      ⟨[], (place_checks s t N).trans (List.append_nil _).symm, Or.inl ⟨rfl, hawaits⟩⟩ run
    rw [htracked.firstCheck_eq good', hcount, hclock.1]
    by_cases hbefore : tickCount acts < N
    · rw [if_pos hbefore, if_pos (by omega)]
    · rw [if_neg hbefore, if_neg (by omega)]
  · intro positive hexpire hcbs hacts
    have hshrinking : Shrinking 0 (slot (kTimingWheelBucketNum 0) (s.wheels 0).currentBucket) _ s :=
      ⟨good.registry.tickMs_pos, rfl, Nat.le_refl _, positive⟩
    exact runs_total hcbs hacts placed
      (place_shrinking hshrinking t hexpire (by omega) (by omega)).positive

theorem addWheel_three_ticks :
    ∃ s', Runs (fun _ => []) (List.replicate 3 (.tick ⟨5, 0⟩))
        ((init 10).place ⟨1, ⟨0, 0⟩, 3, 1, 0, 0, 0⟩ 3) s' ∧ firstCheck 1 s'.checks = some 3 := by
  have spared : Spared (fun _ => []) 1 := fun _ h => by cases h
  have kept : TimerAction.op (.removeTimer 1) ∉ List.replicate 3 (.tick ⟨5, 0⟩) := by simp
  obtain ⟨hcheck, hrun⟩ := addWheel_refines_deadline (s := init 10)
    (t := ⟨1, ⟨0, 0⟩, 3, 1, 0, 0, 0⟩) (N := 3) (.init 10 (by decide)) rfl (by decide) (by decide)
    (by decide) spared kept
  obtain ⟨s', hs'⟩ := hrun (fun _ _ h => by cases h) (by decide) (fun _ _ h => by cases h)
    (fun a ha => by rw [List.eq_of_mem_replicate ha]; trivial)
  exact ⟨s', hs', hcheck s' hs'⟩

end Mysya.TimingWheel
