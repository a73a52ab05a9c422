import Mysya.TimingWheelSteps

/-!
# What every state of the wheel satisfies

`Sound` holds between calls, inside `OnExpired` and inside callbacks: the
registry is exact, and the counters are those of a tick in which a known
number of wheels has advanced. The registry theorem reads it at any moment,
and adds that the callback of a removed timer is never run again.
-/

namespace Mysya

open GuardedRuns MixedRadix TimingWheel

namespace TimingWheel

/-- A visit whose callback does nothing differs from `expire` in the log of calls only. -/
theorem visit_quiet (s : TimingWheel) (now : Timestamp) (t : Timer) :
    ∃ calls, s.visit (fun _ => []) now t = { (s.expire now t).1 with calls := calls } := by
  rw [visit_eq]
  split
  · exact ⟨_, rfl⟩
  · exact ⟨_, rfl⟩

theorem expire_registry {s : TimingWheel} {id : Int} {t : Timer} (r : Registry (some id) s)
    (ht : s.timers id = some t) (now : Timestamp) : Registry none (s.expire now t).1 := by
  obtain ⟨calls, hvisit⟩ := visit_quiet s now t
  have rvisit := visit_registry r ht (fun _ => []) now
  rw [hvisit] at rvisit
  exact { rvisit with }

theorem expire_sameClock (s : TimingWheel) (now : Timestamp) (t : Timer) :
    SameClock s (s.expire now t).1 := by
  obtain ⟨calls, hvisit⟩ := visit_quiet s now t
  have hclock := visit_sameClock s (fun _ => []) now t
  rw [hvisit] at hclock
  exact hclock

theorem expire_timers_other (s : TimingWheel) (now : Timestamp) (t : Timer) {id : Int}
    (h : id ≠ t.id) : (s.expire now t).1.timers id = s.timers id := by
  have placed : ∀ (u : Timer) (n : Int), u.id = t.id →
      ((s.logCheck t).place u n).timers id = s.timers id :=
    fun u n hu => place_timers_other (s.logCheck t) u n (hu ▸ h)
  simp only [expire]
  split
  · exact place_timers_other s t _ h
  · split
    · exact placed { t with undoTickCounts := 1 } 1 rfl
    · split
      · exact placed t t.expireTickCounts rfl
      · split
        · exact placed { t with callTimes := t.callTimes - 1 } t.expireTickCounts rfl
        · exact removeTimer_timers_other (s.logCheck t) h

/-- Up to the callback only the wheels, the timers and the log of checks change. -/
theorem expire_shape (s : TimingWheel) (now : Timestamp) (t : Timer) :
    ∃ wheels timers checks, (s.expire now t).1 =
      { s with wheels := wheels, timers := timers, checks := checks } := by
  have placed : ∀ (u : Timer) (n : Int), ∃ wheels timers checks, (s.logCheck t).place u n =
      { s with wheels := wheels, timers := timers, checks := checks } := by
    intro u n
    obtain ⟨wheels, k, b, v, heq⟩ := place_shape (s.logCheck t) u n
    exact ⟨wheels, _, _, heq⟩
  simp only [expire]
  split
  · obtain ⟨wheels, k, b, v, heq⟩ := place_shape s t t.undoTickCounts
    exact ⟨wheels, _, s.checks, heq⟩
  · split
    · exact placed { t with undoTickCounts := 1 } 1
    · split
      · exact placed t t.expireTickCounts
      · split
        · exact placed { t with callTimes := t.callTimes - 1 } t.expireTickCounts
        · obtain ⟨wheels, timers, heq⟩ := removeTimer_shape (s.logCheck t) t.id
          exact ⟨wheels, timers, _, heq⟩

/-- An operation gives out no id twice. -/
theorem apply_absent {s : TimingWheel} {id : Int} (absent : s.timers id = none)
    (spent : id ≤ s.timerIds) (o : TimerOp) :
    (s.apply o).timers id = none ∧ id ≤ (s.apply o).timerIds := by
  cases o with
  | addTimer now expireMs callTimes =>
    have hne : id ≠ s.timerIds + 1 := by omega
    rcases addTimer_cases s now expireMs.toInt callTimes.toInt with heq | ⟨_, heq⟩
    · simp only [TimingWheel.apply, heq]
      exact ⟨absent, by omega⟩
    · simp only [TimingWheel.apply, heq]
      obtain ⟨wheels, k, b, u, hplace⟩ := place_shape { s with timerIds := s.timerIds + 1 }
        ⟨s.timerIds + 1, now.add expireMs.toInt, expireTickCounts s.tickMs expireMs.toInt,
          callTimes.toInt, 0, 0, 0⟩ (expireTickCounts s.tickMs expireMs.toInt)
      rw [hplace]
      refine ⟨?_, by dsimp only; omega⟩
      simpa [Function.update_of_ne hne] using absent
  | removeTimer timerId =>
    obtain ⟨wheels, timers, hshape⟩ := removeTimer_shape s timerId
    simp only [TimingWheel.apply]
    refine ⟨?_, by rw [hshape]; exact spent⟩
    by_cases hsame : id = timerId
    · subst hsame
      rw [removeTimer_none absent]
      exact absent
    · rw [removeTimer_timers_other s hsame]
      exact absent

end TimingWheel

namespace WheelMachine

/-- What every state of every run satisfies. -/
structure Sound (s : WheelMachine) : Prop where
  registry : Registry none s.wheel
  odometer : Odometer s.phase.advanced s.wheel
  located : s.phase.Located s.wheel.debugTickCounts

theorem start_sound {tickMs : Int} (h : 1 ≤ tickMs) (timestamp : Timestamp) :
    (start tickMs timestamp).Sound := by
  have good := (Reachable.init tickMs h).good
  exact ⟨{ good.registry with }, ⟨good.odometer.advanced, good.odometer.behind⟩, trivial⟩

/-- The state of the drain loop, as the tick rules know it. -/
theorem Sound.draining {s : WheelMachine} (sound : s.Sound) {left i b : Nat}
    (hphase : s.phase = .draining left i b) :
    Draining i s.wheel ∧ b = ringSlot i s.wheel.debugTickCounts := by
  obtain ⟨registry, odometer, located⟩ := sound
  rw [hphase] at odometer located
  obtain ⟨hi, hpos, hcarry, hb⟩ := located
  exact ⟨⟨registry, odometer, hi, hpos, hcarry⟩, hb⟩

theorem Sound.op {s : WheelMachine} (sound : s.Sound) (o : TimerOp) (latest : Timestamp) :
    Sound { s with wheel := s.wheel.apply o, latest := latest } := by
  have hclock := apply_sameClock s.wheel o
  refine ⟨apply_registry sound.registry o, sound.odometer.of_sameClock hclock, ?_⟩
  show s.phase.Located (s.wheel.apply o).debugTickCounts
  rw [hclock.1]
  exact sound.located

/-- The fields of the front timer's round, whether its callback is run or not. -/
theorem expireFront_wheel (s : WheelMachine) (left i b : Nat) (rest : List Int) (t : Timer) :
    ∃ calls, (s.expireFront left i b rest t).wheel =
      { ((s.wheel.setBucket i b rest).expire s.now t).1 with calls := calls } := by
  simp only [expireFront]
  split
  · exact ⟨_, rfl⟩
  · exact ⟨_, rfl⟩

theorem expireFront_phase (s : WheelMachine) (left i b : Nat) (rest : List Int) (t : Timer) :
    (s.expireFront left i b rest t).phase = .callback left i b ∨
      (s.expireFront left i b rest t).phase = .draining left i b := by
  simp only [expireFront]
  split
  · exact Or.inl rfl
  · exact Or.inr rfl

theorem Sound.expireFront {s : WheelMachine} (sound : s.Sound) {left i b : Nat}
    (hphase : s.phase = .draining left i b) {id : Int} {rest : List Int} {t : Timer}
    (hbucket : (s.wheel.wheels i).buckets b = id :: rest) (ht : s.wheel.timers id = some t) :
    (s.expireFront left i b rest t).Sound := by
  obtain ⟨d, hb⟩ := sound.draining hphase
  obtain ⟨calls, hwheel⟩ := expireFront_wheel s left i b rest t
  have hclock := (setBucket_sameClock s.wheel i b rest).trans
    (expire_sameClock (s.wheel.setBucket i b rest) s.now t)
  have registry := expire_registry (pop_registry sound.registry hbucket) ht s.now
  have odometer := d.odometer.of_sameClock hclock
  have hticks : (s.expireFront left i b rest t).wheel.debugTickCounts =
      s.wheel.debugTickCounts := by
    rw [hwheel]
    exact hclock.1
  constructor
  · rw [hwheel]
    exact { registry with }
  · rw [hwheel]
    rcases expireFront_phase s left i b rest t with hp | hp
    · rw [hp]
      exact ⟨odometer.advanced, odometer.behind⟩
    · rw [hp]
      exact ⟨odometer.advanced, odometer.behind⟩
  · rw [hticks]
    rcases expireFront_phase s left i b rest t with hp | hp
    · rw [hp]
      exact ⟨d.wheel_lt, d.ticking, d.carry, hb⟩
    · rw [hp]
      exact ⟨d.wheel_lt, d.ticking, d.carry, hb⟩

theorem step_sound {s s' : WheelMachine} (sound : s.Sound) {a : Action}
    (h : s.step a = some s') : s'.Sound := by
  obtain ⟨registry, odometer, located⟩ := sound
  cases move_of_step h with
  | op o hout => exact Sound.op ⟨registry, odometer, located⟩ o _
  | setTimestamp timestamp hout =>
    exact ⟨{ registry with }, ⟨odometer.advanced, odometer.behind⟩, located⟩
  | onExpired now hphase =>
    rw [hphase] at odometer
    exact ⟨{ registry with }, ⟨odometer.advanced, odometer.behind⟩, trivial⟩
  | finish hphase =>
    rw [hphase] at odometer
    exact ⟨{ registry with }, ⟨odometer.advanced, odometer.behind⟩, trivial⟩
  | begin left hphase =>
    rw [hphase] at odometer
    refine ⟨{ registry with }, ⟨?_, ?_⟩, Nat.zero_le _, Nat.succ_pos _, Nat.one_dvd _⟩
    · exact fun k hk => absurd hk (Nat.not_lt_zero k)
    · exact fun k _ hk => odometer.advanced k hk hk
  | wheel left i hphase hi =>
    rw [hphase] at odometer located
    obtain ⟨_, hpos, hcarry⟩ := located
    obtain ⟨d, hb⟩ := draining_enter registry odometer hi hpos hcarry
    exact ⟨d.registry, d.odometer, d.wheel_lt, d.ticking, d.carry, hb⟩
  | last left i hphase hi =>
    rw [hphase] at odometer located
    obtain rfl : i = kTimingWheelNum := Nat.le_antisymm located.1 (Nat.le_of_not_lt hi)
    exact ⟨registry, odometer, trivial⟩
  | stop left i b hphase hempty hstop =>
    obtain ⟨d, _⟩ := Sound.draining ⟨registry, odometer, located⟩ hphase
    have hdigit := d.odometer.advanced i (Nat.lt_succ_self i) d.wheel_lt
    have hne : ¬ ringWeight (i + 1) ∣ s.wheel.debugTickCounts := by
      intro hdvd
      rw [hdigit] at hstop
      exact absurd ((digit_eq_zero_iff bucketNum_pos d.carry).mpr hdvd) (Nat.ne_of_gt hstop)
    exact ⟨registry, d.odometer.complete hne, trivial⟩
  | carry left i b hphase hempty hcont =>
    obtain ⟨d, _⟩ := Sound.draining ⟨registry, odometer, located⟩ hphase
    have hdigit := d.odometer.advanced i (Nat.lt_succ_self i) d.wheel_lt
    have hdvd : ringWeight (i + 1) ∣ s.wheel.debugTickCounts := by
      rw [hdigit] at hcont
      exact (digit_eq_zero_iff bucketNum_pos d.carry).mp (Nat.eq_zero_of_not_pos hcont)
    exact ⟨registry, d.odometer, d.wheel_lt, d.ticking, hdvd⟩
  | front left i b id rest t hphase hbucket ht =>
    exact Sound.expireFront ⟨registry, odometer, located⟩ hphase hbucket ht
  | ret left i b hphase =>
    rw [hphase] at odometer located
    exact ⟨registry, odometer, located⟩

theorem reaches_sound {guard : WheelMachine → Action → Prop} {s s' : WheelMachine}
    (h : Reaches step guard s s') (sound : s.Sound) : s'.Sound :=
  h.invariant sound (fun _ _ _ sound _ hstep => step_sound sound hstep)

/-- A removed timer: no object under its id, and no way for the id to come back. -/
structure Gone (id : Int) (firings : List Firing) (s : WheelMachine) : Prop where
  absent : s.wheel.timers id = none
  spent : id ≤ s.wheel.timerIds
  silent : s.firings id = firings

theorem expireFront_firings_other (s : WheelMachine) (left i b : Nat) (rest : List Int)
    (t : Timer) {id : Int} (h : id ≠ t.id) :
    (s.expireFront left i b rest t).firings id = s.firings id := by
  simp only [expireFront]
  split
  · simp [firings, Ne.symm h]
  · rfl

theorem Move.gone {s s' : WheelMachine} {a : Action} (h : Move s a s')
    (registry : Registry none s.wheel) {id : Int} {past : List Firing} (gone : Gone id past s) :
    Gone id past s' := by
  obtain ⟨absent, spent, silent⟩ := gone
  cases h with
  | op o hout =>
    obtain ⟨absent', spent'⟩ := apply_absent absent spent o
    exact ⟨absent', spent', silent⟩
  | setTimestamp timestamp hout => exact ⟨absent, spent, silent⟩
  | onExpired now hphase => exact ⟨absent, spent, silent⟩
  | finish hphase => exact ⟨absent, spent, silent⟩
  | begin left hphase => exact ⟨absent, spent, silent⟩
  | wheel left i hphase hi => exact ⟨absent, spent, silent⟩
  | last left i hphase hi => exact ⟨absent, spent, silent⟩
  | stop left i b hphase hempty hstop => exact ⟨absent, spent, silent⟩
  | carry left i b hphase hempty hcont => exact ⟨absent, spent, silent⟩
  | ret left i b hphase => exact ⟨absent, spent, silent⟩
  | front left i b id' rest t hphase hbucket ht =>
    have hne : id ≠ t.id := by
      intro hsame
      rw [(registry.sound id' t ht).named] at hsame
      rw [← hsame, absent] at ht
      simp at ht
    obtain ⟨calls, hwheel⟩ := expireFront_wheel s left i b rest t
    obtain ⟨wheels, timers, checks, hshape⟩ :=
      expire_shape (s.wheel.setBucket i b rest) s.now t
    constructor
    · rw [hwheel]
      exact (expire_timers_other _ _ _ hne).trans absent
    · rw [hwheel, hshape]
      exact spent
    · rw [expireFront_firings_other _ _ _ _ _ _ hne]
      exact silent

theorem step_gone {s s' : WheelMachine} (sound : s.Sound) {id : Int} {past : List Firing}
    (gone : Gone id past s) {a : Action} (h : s.step a = some s') : Gone id past s' :=
  (move_of_step h).gone sound.registry gone

/-- At every moment the lists hold exactly the timers of `timers_`, each where it says it is,
and a timer that has been given out and removed is never called back again. -/
theorem timer_registry {tickMs : Int} (h : 1 ≤ tickMs) (timestamp : Timestamp)
    {s : WheelMachine} (hs : Reaches step (fun _ _ => True) (start tickMs timestamp) s) :
    (∀ id, s.wheel.timers id ≠ none ↔ ∃ i b, id ∈ (s.wheel.wheels i).buckets b) ∧
    (∀ id t, s.wheel.timers id = some t → ∀ i b,
      ((s.wheel.wheels i).buckets b).count id = if i = t.wheel ∧ b = t.bucket then 1 else 0) ∧
    (∀ id removed, id ≤ s.wheel.timerIds → s.step (.op (.removeTimer id)) = some removed →
      ∀ later, Reaches step (fun _ _ => True) removed later →
        later.firings id = s.firings id) := by
  have sound : s.Sound := reaches_sound hs (start_sound h timestamp)
  have registry := sound.registry
  refine ⟨?_, ?_, ?_⟩
  · intro id
    constructor
    · intro hsome
      obtain ⟨t, ht⟩ := Option.ne_none_iff_exists'.mp hsome
      exact ⟨t.wheel, t.bucket, registry.listed id t ht (by simp)⟩
    · rintro ⟨i, b, hid⟩
      obtain ⟨_, t, ht, _, _⟩ := registry.live i b id hid
      simp [ht]
  · intro id t ht i b
    split
    · rename_i hib
      rw [hib.1, hib.2]
      exact List.count_eq_one_of_mem (registry.nodup _ _) (registry.listed id t ht (by simp))
    · rename_i hib
      rw [List.count_eq_zero]
      intro hid
      obtain ⟨_, t', ht', hw, hb⟩ := registry.live i b id hid
      rw [ht] at ht'
      cases ht'
      exact hib ⟨hw.symm, hb.symm⟩
  · intro id removed hspent hstep later hlater
    have removedSound := step_sound sound hstep
    simp only [step, Option.ite_none_right_eq_some, Option.some.injEq] at hstep
    obtain ⟨_, rfl⟩ := hstep
    have absent : (s.wheel.removeTimer id).timers id = none := by
      cases ht : s.wheel.timers id with
      | none => rw [removeTimer_none ht]; exact ht
      | some t =>
        rw [removeTimer_some ht (registry.sound id t ht).wheel_lt]
        exact Function.update_self _ _ _
    obtain ⟨wheels, timers, hshape⟩ := removeTimer_shape s.wheel id
    have spent : id ≤ (s.wheel.removeTimer id).timerIds := by
      rw [hshape]
      exact hspent
    have gone : Gone id (s.firings id)
        { s with wheel := s.wheel.apply (.removeTimer id), latest := s.latest } :=
      ⟨absent, spent, rfl⟩
    exact (hlater.invariant (I := fun m => m.Sound ∧ Gone id (s.firings id) m)
      ⟨removedSound, gone⟩
      (fun m a m' hm _ hnext => ⟨step_sound hm.1 hnext, step_gone hm.1 hm.2 hnext⟩)).2.silent

/-- Two timers, and the callback of the first. -/
def firstCallback : List Action :=
  [.op (.addTimer ⟨5, 0⟩ 10 (-1)), .op (.addTimer ⟨5, 0⟩ 20 (-1)), .onExpired ⟨5, 10000000⟩,
    .next, .next, .next]

/-- The rest of that tick, and the next one. -/
def secondCallback : List Action :=
  [.ret, .next, .next, .onExpired ⟨5, 20000000⟩, .next, .next, .next]

theorem timer_registry_in_callback :
    ∃ s removed later, run step firstCallback (start 10 ⟨5, 0⟩) = some s ∧
      ((s.wheel.wheels 0).buckets 1).count 2 = 1 ∧
      s.step (.op (.removeTimer 2)) = some removed ∧ run step secondCallback removed = some later ∧
      later.firings 2 = [] := by
  obtain ⟨s, hs, hrest⟩ := Option.map_eq_some_iff.mp
    (by decide +kernel : (run step firstCallback (start 10 ⟨5, 0⟩)).map (fun s =>
      ((s.wheel.timers 2).map fun t => (t.wheel, t.bucket), s.wheel.timerIds, s.firings 2,
        ((s.step (.op (.removeTimer 2))).bind (run step secondCallback)).isSome)) =
      some (some (0, 1), 2, [], true))
  simp only [Prod.mk.injEq] at hrest
  obtain ⟨hplace, hids, hsilent, hlater⟩ := hrest
  obtain ⟨t, ht, hwheel⟩ := Option.map_eq_some_iff.mp hplace
  obtain ⟨later, hlater⟩ := Option.isSome_iff_exists.mp hlater
  obtain ⟨removed, hremoved, hrun⟩ := Option.bind_eq_some_iff.mp hlater
  obtain ⟨_, hcount, hgone⟩ := timer_registry (by decide) ⟨5, 0⟩ (reaches_of_run hs)
  refine ⟨s, removed, later, hs, ?_, hremoved, hrun, ?_⟩
  · rw [hcount 2 t ht 0 1, if_pos]
    simp only [Prod.mk.injEq] at hwheel
    exact ⟨hwheel.1.symm, hwheel.2.symm⟩
  · rw [hgone 2 removed (by omega) hremoved later (reaches_of_run hrun), hsilent]

end WheelMachine

end Mysya
