import Mysya.TimingWheelDue

/-!
# Repeating timers

A callback is followed by the next one exactly a period later, unless the
timer is placed again from a wheel that has just wrapped, for a period that
reaches past that wheel: the wheel above still lags behind then, and the timer
is due too early, at worst in the tick that is being processed.
-/

namespace Mysya

open GuardedRuns MixedRadix TimingWheel

namespace Timestamp

theorem lt_eq_false_trans {a b c : Timestamp} (hab : b.lt a = false) (hbc : c.lt b = false) :
    c.lt a = false := by
  rw [← Bool.not_eq_true] at *
  simp only [lt] at *
  split at hab
  · split at hbc
    · split <;> simp only [decide_eq_true_eq] at * <;> omega
    · split <;> simp only [decide_eq_true_eq] at * <;> omega
  · split at hbc
    · split <;> simp only [decide_eq_true_eq] at * <;> omega
    · split <;> simp only [decide_eq_true_eq] at * <;> omega

end Timestamp

namespace WheelMachine

/-- If the next step calls back the timer, its period does not reach past the wheel it is on
while that wheel wraps. -/
def KeepsPeriod (id : Int) (s : WheelMachine) : Prop :=
  match s.phase with
  | .draining _ i b => ((s.wheel.wheels i).buckets b).head? = some id →
    ∀ t ∈ s.wheel.timers id, t.undoTickCounts ≤ 0 → s.now.lt t.expireTimestamp = false →
      t.expireTickCounts < ringWeight (i + 1) ∨ ¬ ringWeight (i + 1) ∣ s.wheel.debugTickCounts
  | _ => True

instance (id : Int) (s : WheelMachine) : Decidable (s.KeepsPeriod id) := by
  unfold KeepsPeriod
  split <;> infer_instance

/-- Timestamps of `OnExpired` do not go back. -/
def ForwardGuard (s : WheelMachine) : Action → Prop
  | .onExpired now => now.lt s.now = false
  | _ => True

instance (s : WheelMachine) : (a : Action) → Decidable (s.ForwardGuard a)
  | .op _ => .isTrue trivial
  | .setTimestamp _ => .isTrue trivial
  | .onExpired now => inferInstanceAs (Decidable (now.lt s.now = false))
  | .next => .isTrue trivial
  | .ret => .isTrue trivial

/-- Each callback is `n` ticks after the one before; the latest comes first. -/
def Spaced (n : Int) : List Firing → Prop :=
  List.IsChain fun later earlier => (later.tick : Int) = earlier.tick + n

/-- What the callbacks of a timer have been so far, and what the next one waits for. -/
structure Paced (id n : Int) (expire : Timestamp) (s : WheelMachine) : Prop where
  issued : id ≤ s.wheel.timerIds
  spaced : Spaced n (s.firings id)
  punctual : ∀ f ∈ s.firings id, f.now.lt expire = false
  timer : ∀ t, s.wheel.timers id = some t → t.expireTickCounts = n ∧ t.expireTimestamp = expire
  next : ∀ t f, s.wheel.timers id = some t → (s.firings id).head? = some f →
    s.now.lt expire = false ∧ ∃ D : Nat, (D : Int) = f.tick + n ∧ Awaits s.phase.emptied id D s.wheel

theorem Move.now_eq {s s' : WheelMachine} {a : Action} (h : Move s a s')
    (hcall : ∀ t, a ≠ .onExpired t) : s'.now = s.now := by
  cases h with
  | onExpired now hphase => exact absurd rfl (hcall now)
  | front left i b id rest t hphase hbucket ht =>
    simp only [expireFront]
    split <;> rfl
  | op o hout => rfl
  | setTimestamp timestamp hout => rfl
  | finish hphase => rfl
  | begin left hphase => rfl
  | wheel left i hphase hi => rfl
  | last left i hphase hi => rfl
  | stop left i b hphase hempty hstop => rfl
  | carry left i b hphase hempty hcont => rfl
  | ret left i b hphase => rfl

/-- Time that has come stays. -/
theorem Move.now_reached {s s' : WheelMachine} {a : Action} (h : Move s a s')
    (guarded : s.ForwardGuard a) {expire : Timestamp} (hreached : s.now.lt expire = false) :
    s'.now.lt expire = false := by
  by_cases hcall : ∃ now, a = .onExpired now
  · obtain ⟨now, rfl⟩ := hcall
    cases h with
    | onExpired _ hphase => exact Timestamp.lt_eq_false_trans hreached guarded
  · rw [h.now_eq (fun t ht => hcall ⟨t, ht⟩)]
    exact hreached

/-- A timer placed for its period by its own callback is due exactly a period later, unless the
wheel it is on has just wrapped and the period reaches past it. -/
theorem place_again_awaits {s : TimingWheel} {i : Nat} (o : Odometer (i + 1) s)
    (hi : i < kTimingWheelNum) (t : Timer) {n : Nat} (hn : 0 < n) (hn' : n < 4294967296)
    (kept : n < ringWeight (i + 1) ∨ ¬ ringWeight (i + 1) ∣ s.debugTickCounts) :
    Awaits i t.id (s.debugTickCounts + n) (s.place t n) := by
  rcases kept with hlow | hstop
  · exact place_front_awaits o hi t hn hlow
  · have hlt : n < ringWeight kTimingWheelNum := by rw [ringWeight_top]; exact hn'
    exact (place_awaits (o.complete hstop) (Nat.le_refl _) t hn hlt).mono (Nat.le_of_lt hi)

theorem Spaced.cons {n : Int} {l : List Firing} (h : Spaced n l) {f : Firing}
    (hhead : ∀ g, l.head? = some g → (f.tick : Int) = g.tick + n) : Spaced n (f :: l) := by
  cases l with
  | nil => exact .singleton f
  | cons g l => exact List.isChain_cons_cons.mpr ⟨hhead g rfl, h⟩

section Front

variable {s : WheelMachine} {id : Int} {n : Nat} {expire : Timestamp} {left i b : Nat}
  {rest : List Int} {t : Timer}

/-- What the last callback of the timer in front and the tick in progress have to do with each
other. -/
theorem Paced.last (h : Paced id n expire s) (sound : s.Sound)
    (hphase : s.phase = .draining left i b) (hbucket : (s.wheel.wheels i).buckets b = id :: rest)
    (ht : s.wheel.timers id = some t) {f : Firing} (hf : (s.firings id).head? = some f) :
    s.now.lt expire = false ∧ (f.tick : Int) + n = s.wheel.debugTickCounts + t.undoTickCounts ∧
      t.undoTickCounts < 2 * ringWeight i := by
  obtain ⟨d, hb⟩ := sound.draining hphase
  obtain ⟨hreached, D, hD, hawaits⟩ := h.next t f ht hf
  rw [hphase] at hawaits
  obtain ⟨hdue, hu⟩ := awaits_visit_self d (hb ▸ hbucket) ht hawaits
  exact ⟨hreached, hD.symm.trans hdue, hu⟩

/-- A callback in this tick keeps the spacing, if the timer had nothing to wait for. -/
theorem Paced.fires (h : Paced id n expire s) (sound : s.Sound)
    (hphase : s.phase = .draining left i b) (hbucket : (s.wheel.wheels i).buckets b = id :: rest)
    (ht : s.wheel.timers id = some t) (hnone : t.undoTickCounts ≤ 0)
    (hdue : s.now.lt t.expireTimestamp = false) {s' : WheelMachine}
    (hfirings : s'.firings id = ⟨s.now, s.wheel.debugTickCounts, t.id⟩ :: s.firings id) :
    Spaced n (s'.firings id) ∧ ∀ f ∈ s'.firings id, f.now.lt expire = false := by
  have hundo := (sound.registry.sound id t ht).undo_nonneg
  rw [hfirings]
  constructor
  · refine h.spaced.cons fun g hg => ?_
    have hprevious := (h.last sound hphase hbucket ht hg).2.1
    dsimp only
    omega
  · intro f hf
    rcases List.mem_cons.mp hf with rfl | hold
    · exact (h.timer t ht).2 ▸ hdue
    · exact h.punctual f hold

theorem firings_fired (s : WheelMachine) (wheel : TimingWheel) (phase : Phase) (hid : t.id = id) :
    WheelMachine.firings { s with
      wheel := wheel
      phase := phase
      fired := ⟨s.now, s.wheel.debugTickCounts, t.id⟩ :: s.fired } id =
        ⟨s.now, s.wheel.debugTickCounts, t.id⟩ :: s.firings id := by
  simp [WheelMachine.firings, hid]

/-- The timer is put off for the ticks it still has to wait. -/
theorem Paced.undone (h : Paced id n expire s) (sound : s.Sound)
    (hphase : s.phase = .draining left i b) (hbucket : (s.wheel.wheels i).buckets b = id :: rest)
    (ht : s.wheel.timers id = some t) (hundo : 0 < t.undoTickCounts)
    (hissued : id ≤ ((s.wheel.setBucket i b rest).place t t.undoTickCounts).timerIds) :
    Paced id n expire { s with
      wheel := (s.wheel.setBucket i b rest).place t t.undoTickCounts
      phase := .draining left i b } := by
  obtain ⟨d, _⟩ := sound.draining hphase
  have hid := (sound.registry.sound id t ht).named
  have odometer : Odometer (i + 1) (s.wheel.setBucket i b rest) :=
    d.odometer.of_sameClock (setBucket_sameClock _ _ _ _)
  have hspan := two_mul_ringWeight_le i
  obtain ⟨wheels, k, c, v, hshape⟩ := place_shape (s.wheel.setBucket i b rest) t t.undoTickCounts
  refine ⟨hissued, h.spaced, h.punctual, fun u hu => ?_, fun u f hu hf => ?_⟩
  · rw [hshape, hid] at hu
    simp only [Function.update_self, Option.some.injEq] at hu
    subst hu
    exact h.timer t ht
  · obtain ⟨hreached, hdue, hlow⟩ := h.last sound hphase hbucket ht hf
    obtain ⟨m, hm⟩ : ∃ m : Nat, t.undoTickCounts = m := ⟨t.undoTickCounts.toNat, by omega⟩
    refine ⟨hreached, s.wheel.debugTickCounts + m, by omega, ?_⟩
    have hplaced := place_front_awaits odometer d.wheel_lt t (n := m) (by omega) (by omega)
    show Awaits i id _ ((s.wheel.setBucket i b rest).place t t.undoTickCounts)
    rw [hm, ← hid]
    exact hplaced

/-- The timer is early, so it has not been called back. -/
theorem Paced.early (h : Paced id n expire s) (sound : s.Sound)
    (hphase : s.phase = .draining left i b) (hbucket : (s.wheel.wheels i).buckets b = id :: rest)
    (ht : s.wheel.timers id = some t) (hearly : s.now.lt t.expireTimestamp = true)
    (hissued : id ≤ (((s.wheel.setBucket i b rest).logCheck t).place
      { t with undoTickCounts := 1 } 1).timerIds) :
    Paced id n expire { s with
      wheel := ((s.wheel.setBucket i b rest).logCheck t).place { t with undoTickCounts := 1 } 1
      phase := .draining left i b } := by
  have hnever : ∀ f, (s.firings id).head? ≠ some f := by
    intro f hf
    obtain ⟨hreached, _⟩ := h.last sound hphase hbucket ht hf
    rw [(h.timer t ht).2, hreached] at hearly
    cases hearly
  have hid := (sound.registry.sound id t ht).named
  obtain ⟨wheels, k, c, v, hshape⟩ := place_shape ((s.wheel.setBucket i b rest).logCheck t)
    { t with undoTickCounts := 1 } 1
  refine ⟨hissued, h.spaced, h.punctual, fun u hu => ?_, fun u f hu hf => absurd hf (hnever f)⟩
  rw [hshape, hid] at hu
  simp only [Function.update_self, Option.some.injEq] at hu
  subst hu
  exact h.timer t ht

/-- The timer is called back and placed again for its period. -/
theorem Paced.again (h : Paced id n expire s) (sound : s.Sound) (hn : 0 < n)
    (hphase : s.phase = .draining left i b) (hbucket : (s.wheel.wheels i).buckets b = id :: rest)
    (ht : s.wheel.timers id = some t) (kept : s.KeepsPeriod id) {u : Timer}
    (hnone : t.undoTickCounts ≤ 0) (hdue : s.now.lt t.expireTimestamp = false)
    (hu : t.callTimes < 0 ∧ u = t ∨ 1 < t.callTimes ∧ u = { t with callTimes := t.callTimes - 1 })
    (hissued : id ≤ ((((s.wheel.setBucket i b rest).logCheck t).place u
      t.expireTickCounts).logCall t).timerIds) :
    Paced id n expire { s with
      wheel := (((s.wheel.setBucket i b rest).logCheck t).place u t.expireTickCounts).logCall t
      phase := .callback left i b
      fired := ⟨s.now, s.wheel.debugTickCounts, t.id⟩ :: s.fired } := by
  obtain ⟨d, _⟩ := sound.draining hphase
  have hsound := sound.registry.sound id t ht
  have hid := hsound.named
  have odometer : Odometer (i + 1) (s.wheel.setBucket i b rest) :=
    d.odometer.of_sameClock (setBucket_sameClock _ _ _ _)
  obtain ⟨hperiod, hexpire⟩ := h.timer t ht
  have hfirings := firings_fired (t := t) s
    ((((s.wheel.setBucket i b rest).logCheck t).place u t.expireTickCounts).logCall t)
    (.callback left i b) hid
  obtain ⟨hspaced, hpunctual⟩ := h.fires sound hphase hbucket ht hnone hdue hfirings
  have huid : u.id = id := by
    rcases hu with ⟨_, rfl⟩ | ⟨_, rfl⟩
    · exact hid
    · exact hid
  have hsame : u.expireTickCounts = n ∧ u.expireTimestamp = expire := by
    rcases hu with ⟨_, rfl⟩ | ⟨_, rfl⟩
    · exact ⟨hperiod, hexpire⟩
    · exact ⟨hperiod, hexpire⟩
  have hkeeps : n < ringWeight (i + 1) ∨ ¬ ringWeight (i + 1) ∣ s.wheel.debugTickCounts := by
    unfold KeepsPeriod at kept
    rw [hphase] at kept
    have hcase := kept (by rw [hbucket]; rfl) t (by rw [ht]; rfl) hnone hdue
    rw [hperiod] at hcase
    exact_mod_cast hcase
  obtain ⟨wheels, k, c, v, hshape⟩ := place_shape ((s.wheel.setBucket i b rest).logCheck t) u
    t.expireTickCounts
  refine ⟨hissued, hspaced, hpunctual, fun w hw => ?_, fun w f hw hf => ?_⟩
  · simp only [logCall, hshape, huid, Function.update_self, Option.some.injEq] at hw
    subst hw
    exact hsame
  · rw [hfirings] at hf
    simp only [List.head?_cons, Option.some.injEq] at hf
    subst hf
    refine ⟨hexpire ▸ hdue, s.wheel.debugTickCounts + n, by push_cast; rfl, ?_⟩
    have hplaced := place_again_awaits (s := (s.wheel.setBucket i b rest).logCheck t)
      ⟨odometer.advanced, odometer.behind⟩ d.wheel_lt u (n := n) hn
      (by have := hsound.expire_lt; omega) hkeeps
    rw [huid] at hplaced
    refine hplaced.congr ?_ ?_
    · rw [← hperiod]
      rfl
    · rw [← hperiod]
      rfl

/-- The timer is called back for the last time. -/
theorem Paced.ended (h : Paced id n expire s) (sound : s.Sound)
    (hphase : s.phase = .draining left i b) (hbucket : (s.wheel.wheels i).buckets b = id :: rest)
    (ht : s.wheel.timers id = some t) (hnone : t.undoTickCounts ≤ 0)
    (hdue : s.now.lt t.expireTimestamp = false)
    (hissued : id ≤ ((((s.wheel.setBucket i b rest).logCheck t).removeTimer t.id).logCall
      t).timerIds) :
    Paced id n expire { s with
      wheel := (((s.wheel.setBucket i b rest).logCheck t).removeTimer t.id).logCall t
      phase := .callback left i b
      fired := ⟨s.now, s.wheel.debugTickCounts, t.id⟩ :: s.fired } := by
  have hsound := sound.registry.sound id t ht
  have hid := hsound.named
  have hfirings := firings_fired (t := t) s
    ((((s.wheel.setBucket i b rest).logCheck t).removeTimer t.id).logCall t) (.callback left i b) hid
  obtain ⟨hspaced, hpunctual⟩ := h.fires sound hphase hbucket ht hnone hdue hfirings
  have habsent : (((s.wheel.setBucket i b rest).logCheck t).removeTimer t.id).timers id = none := by
    have hmem : ((s.wheel.setBucket i b rest).logCheck t).timers t.id = some t := hid ▸ ht
    rw [removeTimer_some hmem hsound.wheel_lt, hid]
    exact Function.update_self _ _ _
  exact ⟨hissued, hspaced, hpunctual, fun w hw => absurd (habsent.symm.trans hw) (by simp),
    fun w f hw => absurd (habsent.symm.trans hw) (by simp)⟩

/-- The round of the drain loop that takes the timer itself. -/
theorem front_paced {s' : WheelMachine} (sound : s.Sound) (hn : 0 < n) (h : Paced id n expire s)
    (hphase : s.phase = .draining left i b) (hbucket : (s.wheel.wheels i).buckets b = id :: rest)
    (ht : s.wheel.timers id = some t) (kept : s.KeepsPeriod id)
    (hids : s.wheel.timerIds ≤ s'.wheel.timerIds) (hs' : Expiry s left i b rest t s') :
    Paced id n expire s' := by
  have hissued := Int.le_trans h.issued hids
  cases hs' with
  | undone hundo => exact h.undone sound hphase hbucket ht hundo hissued
  | early _ hearly => exact h.early sound hphase hbucket ht hearly hissued
  | again u hnone hdue hu => exact h.again sound hn hphase hbucket ht kept hnone hdue hu hissued
  | ended hnone hdue _ _ => exact h.ended sound hphase hbucket ht hnone hdue hissued

end Front

theorem step_paced {s s' : WheelMachine} (sound : s.Sound) {id : Int} {n : Nat} (hn : 0 < n)
    {expire : Timestamp} (h : Paced id n expire s) {a : Action} (guarded : s.ForwardGuard a)
    (kept : s.KeepsPeriod id) (hstep : s.step a = some s') : Paced id n expire s' := by
  have hmove := move_of_step hstep
  have hids := hmove.timerIds_le
  cases ht : s.wheel.timers id with
  | none =>
    have gone := step_gone sound ⟨ht, h.issued, rfl⟩ hstep
    refine ⟨gone.spent, ?_, ?_, ?_, ?_⟩
    · rw [gone.silent]
      exact h.spaced
    · rw [gone.silent]
      exact h.punctual
    · intro t ht'
      exact absurd (gone.absent.symm.trans ht') (by simp)
    · intro t f ht'
      exact absurd (gone.absent.symm.trans ht') (by simp)
  | some t =>
    by_cases hfront : s.Front id
    · obtain ⟨left, i, b, rest, hphase, hbucket⟩ := hfront
      obtain ⟨u, hu, hexpiry⟩ := hmove.front_expiry hphase hbucket
      exact front_paced sound hn h hphase hbucket hu kept hids hexpiry
    · by_cases hremoved : a = .op (.removeTimer id)
      · subst hremoved
        cases hmove with
        | op _ hout =>
          have habsent : (s.wheel.removeTimer id).timers id = none := by
            rw [removeTimer_some ht (sound.registry.sound id t ht).wheel_lt]
            exact Function.update_self _ _ _
          refine ⟨Int.le_trans h.issued hids, h.spaced, h.punctual, ?_, ?_⟩
          · intro u hu
            exact absurd (habsent.symm.trans hu) (by simp)
          · intro u f hu
            exact absurd (habsent.symm.trans hu) (by simp)
      · obtain ⟨htimers, hfirings⟩ := hmove.keeps sound ht hremoved hfront
        refine ⟨Int.le_trans h.issued hids, ?_, ?_, ?_, ?_⟩
        · rw [hfirings]
          exact h.spaced
        · rw [hfirings]
          exact h.punctual
        · intro u hu
          rw [htimers] at hu
          exact h.timer u (ht.trans hu)
        · intro u f hu hf
          rw [hfirings] at hf
          obtain ⟨hreached, D, hD, hawaits⟩ := h.next t f ht hf
          exact ⟨hmove.now_reached guarded hreached, D, hD,
            hmove.awaits sound hremoved hfront hawaits⟩

/-- Every callback of a timer is exactly a period after the one before, and none comes before
its time, as long as the timer is not called back from a wheel that has just wrapped with a
period that reaches past it. -/
theorem timer_period {tickMs : Int} (h : 1 ≤ tickMs) (origin : Timestamp)
    {s added later : WheelMachine} (hs : Reaches step (fun _ _ => True) (start tickMs origin) s)
    {now : Timestamp} {expireMs callTimes : Int32}
    (hadd : s.step (.op (.addTimer now expireMs callTimes)) = some added) {id : Int}
    (hid : (s.wheel.addTimer now expireMs.toInt callTimes.toInt).2 = id) (hpos : 0 < id) {n : Nat}
    (hn : 1 ≤ n) (hperiod : expireTickCounts s.wheel.tickMs expireMs.toInt = n)
    (hlater : Reaches step (fun m a => m.ForwardGuard a ∧ m.KeepsPeriod id) added later) :
    Spaced n (later.firings id) ∧
      ∀ f ∈ later.firings id, f.now.lt (now.add expireMs.toInt) = false := by
  obtain ⟨sound, issued⟩ := hs.invariant (I := fun m => m.Sound ∧ m.Issued)
    ⟨start_sound h origin, fun _ _ ht => by simp [start, TimingWheel.init] at ht,
      fun _ hf => by cases hf⟩
    (fun _ _ _ hm _ hstep => ⟨step_sound hm.1 hstep, step_issued hm.1 hm.2 hstep⟩)
  have addedSound := step_sound sound hadd
  obtain ⟨hnext, happly⟩ := addTimer_added hid hpos
  have hfirst : Paced id n (now.add expireMs.toInt) added := by
    cases move_of_step hadd with
    | op _ hout =>
      have hsilent : s.firings id = [] := by
        simp only [firings, List.filter_eq_nil_iff, decide_eq_true_eq]
        intro f hf hsame
        have hspent := issued.fired f hf
        omega
      obtain ⟨wheels, k, b, u, hshape⟩ := place_shape
        { s.wheel with timerIds := s.wheel.timerIds + 1 }
        ⟨s.wheel.timerIds + 1, now.add expireMs.toInt,
          expireTickCounts s.wheel.tickMs expireMs.toInt, callTimes.toInt, 0, 0, 0⟩
        (expireTickCounts s.wheel.tickMs expireMs.toInt)
      have hwheel := happly.trans hshape
      refine ⟨?_, ?_, ?_, ?_, ?_⟩
      · have hids := congrArg TimingWheel.timerIds hwheel
        exact Int.le_of_eq (hnext.symm.trans hids.symm)
      · show Spaced n (s.firings id)
        rw [hsilent]
        exact .nil
      · intro f hf
        have hmem : f ∈ s.firings id := hf
        simp [hsilent] at hmem
      · intro t ht
        have hlive := (congrArg (fun w => w.timers id) hwheel).symm.trans ht
        simp only [hnext, Function.update_self, Option.some.injEq] at hlive
        subst hlive
        exact ⟨hperiod, rfl⟩
      · intro t f _ hf
        have hmem : (s.firings id).head? = some f := hf
        simp [hsilent] at hmem
  have paced := (hlater.invariant (I := fun m => m.Sound ∧ Paced id n (now.add expireMs.toInt) m)
    ⟨addedSound, hfirst⟩ (fun m a m' hm hguard hstep => ⟨step_sound hm.1 hstep,
      step_paced hm.1 hn hm.2 hguard.1 hguard.2 hstep⟩)).2
  exact ⟨paced.spaced, paced.punctual⟩

/-- Two callbacks, in the second and the fourth tick. -/
def twoPeriods : List Action :=
  .onExpired ⟨5, 20000000⟩ :: List.replicate 6 .next ++ .ret :: List.replicate 2 .next ++
    .onExpired ⟨5, 40000000⟩ :: List.replicate 6 .next

theorem timer_period_twice :
    ∃ added later, (start 10 ⟨5, 0⟩).step (.op (.addTimer ⟨5, 0⟩ 20 (-1))) = some added ∧
      run step twoPeriods added = some later ∧ later.firings 1 ≠ [] ∧
      Spaced 2 (later.firings 1) := by
  obtain ⟨added, hadded, hsome⟩ := Option.map_eq_some_iff.mp
    (by decide +kernel : ((start 10 ⟨5, 0⟩).step (.op (.addTimer ⟨5, 0⟩ 20 (-1)))).map
      (fun s => ((run step twoPeriods s).map fun m => (m.firings 1).map Firing.tick,
        decide (Guarded step (fun m a => m.ForwardGuard a ∧ m.KeepsPeriod 1) twoPeriods s))) =
          some (some [4, 2], true))
  simp only [Prod.mk.injEq, decide_eq_true_eq] at hsome
  obtain ⟨later, hlater, hticks⟩ := Option.map_eq_some_iff.mp hsome.1
  refine ⟨added, later, hadded, hlater, ?_, ?_⟩
  · intro hnil
    simp [hnil] at hticks
  · exact (timer_period (n := 2) (h := by decide) ⟨5, 0⟩ .refl hadded (by decide +kernel)
      (by decide) (by decide) (by decide +kernel) (Reaches.refl.run hsome.2 hlater)).1

/-- Ticks 1 to 255, a timer of 256 ticks, ticks 256 to 511, which end with a check that comes
half a millisecond early, and tick 512. -/
def wrappedPeriod : List Action :=
  .onExpired ⟨5, 255000000⟩ :: List.replicate 766 .next ++
    .op (.addTimer ⟨5, 255500000⟩ 256 (-1)) ::
    .onExpired ⟨5, 511000000⟩ :: List.replicate 773 .next ++
    .onExpired ⟨5, 512000000⟩ :: List.replicate 3 .next ++ .ret :: List.replicate 3 .next

/-- First called back in tick 512 from the first wheel, the timer is put into the bucket of the
second wheel that is emptied next, and called back in the same tick again. -/
theorem wrapped_timer_fires_twice :
    ¬ ∀ s, Reaches step ForwardGuard (start 1 ⟨5, 0⟩) s →
      ∀ id t, s.wheel.timers id = some t → Spaced t.expireTickCounts (s.firings id) := by
  intro hall
  obtain ⟨s, hs, hsome⟩ := Option.map_eq_some_iff.mp
    (by decide +kernel : (run step wrappedPeriod (start 1 ⟨5, 0⟩)).map (fun s =>
      ((s.wheel.timers 1).map Timer.expireTickCounts, (s.firings 1).map Firing.tick)) =
        some (some 256, [512, 512]))
  simp only [Prod.mk.injEq] at hsome
  obtain ⟨ht, hticks⟩ := hsome
  obtain ⟨t, ht, hperiod⟩ := Option.map_eq_some_iff.mp ht
  have hspaced := hall s (Reaches.refl.run (by decide +kernel) hs) 1 t ht
  obtain ⟨f, g, hfirings, hf, hg⟩ : ∃ f g, s.firings 1 = [f, g] ∧ f.tick = 512 ∧ g.tick = 512 := by
    rw [List.map_eq_cons_iff] at hticks
    obtain ⟨f, l, hl, hf, hrest⟩ := hticks
    rw [List.map_eq_cons_iff] at hrest
    obtain ⟨g, l', hl', hg, hnil⟩ := hrest
    rw [List.map_eq_nil_iff] at hnil
    exact ⟨f, g, by rw [hl, hl', hnil], hf, hg⟩
  rw [hfirings] at hspaced
  have hstep := (List.isChain_cons_cons.mp hspaced).1
  omega

end WheelMachine

end Mysya
