import Mysya.TickConservation
import Mysya.TimingWheelDue

/-!
# Timers are timely

A check that comes too early puts the timer off by one tick. Until its first
callback the timer is `DueBy` a limit: the tick it is due in begins before the
limit, which leaves time for one more tick after the moment the callback is
asked for. `Dated` is what the timestamps of a clock that never goes back, and
never jumps further than the accumulator holds, keep.
-/

namespace Mysya

open GuardedRuns MixedRadix TimingWheel

namespace WheelMachine

/-- The timestamps handed over are what a clock gives, never go back, and leave no gap that the
accumulator cannot hold. -/
def TimelyGuard (s : WheelMachine) : Action → Prop
  | .setTimestamp _ => False
  | .op (.addTimer now _ _) => now.Normalised ∧ s.latest.ns ≤ now.ns
  | .onExpired now =>
    now.Normalised ∧ s.latest.ns ≤ now.ns ∧ s.wheel.pendingNsec now < 2147483648
  | _ => True

instance (s : WheelMachine) (a : Action) : Decidable (s.TimelyGuard a) :=
  match a with
  | .setTimestamp _ => .isFalse id
  | .op (.addTimer now _ _) => inferInstanceAs (Decidable (now.Normalised ∧ _))
  | .op (.removeTimer _) => .isTrue trivial
  | .onExpired now => inferInstanceAs (Decidable (now.Normalised ∧ _ ∧ _))
  | .next => .isTrue trivial
  | .ret => .isTrue trivial

/-- What the runs of such timestamps keep. -/
structure Dated (tickMs : Int) (origin : Timestamp) (s : WheelMachine) : Prop where
  sound : s.Sound
  issued : s.Issued
  clock : Clock tickMs origin s
  now : s.now.Normalised
  latest : s.latest.Normalised
  ordered : s.now.ns ≤ s.latest.ns

theorem start_dated {tickMs : Int} (h : 1 ≤ tickMs) (htick : 0 < toInt32 (tickMs * 1000000))
    {origin : Timestamp} (normal : origin.Normalised) :
    Dated tickMs origin (start tickMs origin) where
  sound := start_sound h origin
  issued := ⟨fun _ _ ht => by simp [start, TimingWheel.init] at ht, fun _ hf => by cases hf⟩
  clock := start_clock htick origin
  now := normal
  latest := normal
  ordered := Int.le_refl _

theorem Dated.clockGuard {tickMs : Int} {origin now : Timestamp} {s : WheelMachine}
    (dated : Dated tickMs origin s) (hidle : s.phase = .idle)
    (guarded : s.TimelyGuard (.onExpired now)) : s.ClockGuard (.onExpired now) := by
  obtain ⟨hnormal, hlater, hfits⟩ := guarded
  have hstamp := dated.clock.timestamp hidle
  have hle : s.now.ns ≤ now.ns := Int.le_trans dated.ordered hlater
  have hlt : now.lt s.wheel.timestamp = false := by
    rw [hstamp, ← Bool.not_eq_true, Timestamp.lt_iff hnormal dated.now]
    omega
  have hdistance := Timestamp.distanceNanoSecond_eq hlt
  have hundo := dated.clock.undo_nonneg
  rw [hstamp] at hdistance
  refine ⟨hlt, ?_, hfits⟩
  rw [pendingNsec, hstamp, hdistance]
  omega

/-- The steps of `OnExpired` itself are handed no timestamp. -/
theorem Move.latest_eq {s s' : WheelMachine} {a : Action} (h : Move s a s')
    (hown : a = .next ∨ a = .ret) : s'.latest = s.latest := by
  cases h with
  | op o hout => simp at hown
  | setTimestamp timestamp hout => simp at hown
  | onExpired now hphase => simp at hown
  | front left i b id rest t hphase hbucket ht =>
    simp only [expireFront]
    split <;> rfl
  | finish hphase => rfl
  | begin left hphase => rfl
  | wheel left i hphase hi => rfl
  | last left i hphase hi => rfl
  | stop left i b hphase hempty hstop => rfl
  | carry left i b hphase hempty hcont => rfl
  | ret left i b hphase => rfl

theorem step_dated {tickMs : Int} {origin : Timestamp} {s s' : WheelMachine}
    (dated : Dated tickMs origin s) {a : Action} (guarded : s.TimelyGuard a)
    (h : s.step a = some s') : Dated tickMs origin s' := by
  have sound := step_sound dated.sound h
  have issued := step_issued dated.sound dated.issued h
  have hmove := move_of_step h
  have inside : (a = .next ∨ a = .ret) → Dated tickMs origin s' := by
    intro hown
    have hlatest := hmove.latest_eq hown
    have hsame := hmove.sameTime (by rintro t rfl; simp at hown) (by rintro t rfl; simp at hown)
    refine ⟨sound, issued, hsame.clock dated.clock, ?_, ?_, ?_⟩
    · rw [hsame.now]
      exact dated.now
    · rw [hlatest]
      exact dated.latest
    · rw [hsame.now, hlatest]
      exact dated.ordered
  cases a with
  | op o =>
    have clock := (hmove.sameTime (by simp) (by simp)).clock dated.clock
    cases hmove with
    | op _ hout =>
      cases o with
      | addTimer now expireMs callTimes =>
        exact ⟨sound, issued, clock, dated.now, guarded.1,
          Int.le_trans dated.ordered guarded.2⟩
      | removeTimer timerId =>
        exact ⟨sound, issued, clock, dated.now, dated.latest, dated.ordered⟩
  | setTimestamp timestamp => exact guarded.elim
  | onExpired now =>
    cases hmove with
    | onExpired _ hphase =>
      have hguard := dated.clockGuard hphase guarded
      exact ⟨sound, issued, enter_clock dated.clock hphase hguard.1 hguard.2, guarded.1, guarded.1,
        Int.le_refl _⟩
  | next => exact inside (Or.inl rfl)
  | ret => exact inside (Or.inr rfl)

/-- The timer has not been called back, and the tick it is due in begins before the limit. -/
structure DueBy (id : Int) (expire : Timestamp) (tickNs limit : Int) (s : WheelMachine) :
    Prop where
  silent : s.firings id = []
  due : ∃ t D, s.wheel.timers id = some t ∧ t.expireTimestamp = expire ∧
    Awaits s.phase.emptied id D s.wheel ∧ (D : Int) * tickNs < limit

/-- The first callback, once it has been run, was not early; until then the timer is due. -/
def Timely (id : Int) (expire : Timestamp) (tickNs limit : Int) (s : WheelMachine) : Prop :=
  DueBy id expire tickNs limit s ∨
    ∃ f, (s.firings id).getLast? = some f ∧ expire.ns ≤ f.now.ns

/-- A callback of a timer that had none before is its first. -/
theorem firings_first {s s' : WheelMachine} {id : Int} (hsilent : s.firings id = []) {f : Firing}
    (hfired : s'.fired = f :: s.fired) (hf : f.timerId = id) : s'.firings id = [f] := by
  have hnone : s.fired.filter (fun f => f.timerId = id) = [] := hsilent
  simp [firings, hfired, hf, hnone]

/-- The round of the drain loop that takes the timer itself. -/
theorem front_timely {tickMs : Int} {origin expire : Timestamp} {s s' : WheelMachine}
    (dated : Dated tickMs origin s) {id : Int}
    (h : DueBy id expire (toInt32 (tickMs * 1000000))
      (expire.ns - origin.ns + toInt32 (tickMs * 1000000)) s) {left i b : Nat} {rest : List Int}
    {t : Timer} (hphase : s.phase = .draining left i b)
    (hbucket : (s.wheel.wheels i).buckets b = id :: rest) (ht : s.wheel.timers id = some t)
    (hlt : s.now.lt expire = true ↔ s.now.ns < expire.ns) (hs' : Expiry s left i b rest t s') :
    Timely id expire (toInt32 (tickMs * 1000000))
      (expire.ns - origin.ns + toInt32 (tickMs * 1000000)) s' := by
  obtain ⟨d, hb⟩ := dated.sound.draining hphase
  obtain ⟨hsilent, t', D, ht', hexp, hawaits, hlimit⟩ := h
  rw [ht] at ht'
  obtain rfl := Option.some.inj ht'
  rw [hphase] at hawaits
  obtain ⟨hD, hu⟩ := awaits_visit_self d (hb ▸ hbucket) ht hawaits
  have hid := (dated.sound.registry.sound id t ht).named
  have odometer : Odometer (i + 1) (s.wheel.setBucket i b rest) :=
    d.odometer.of_sameClock (setBucket_sameClock _ _ _ _)
  have hspan := two_mul_ringWeight_le i
  cases hs' with
  | undone hundo =>
    obtain ⟨n, hn⟩ : ∃ n : Nat, t.undoTickCounts = n := ⟨t.undoTickCounts.toNat, by omega⟩
    have hplaced := place_front_awaits odometer d.wheel_lt t (n := n) (by omega) (by omega)
    obtain ⟨wheels, k, c, v, hshape⟩ :=
      place_shape (s.wheel.setBucket i b rest) t t.undoTickCounts
    refine Or.inl ⟨hsilent, { t with wheel := k, bucket := c, undoTickCounts := v }, D, ?_, hexp,
      ?_, hlimit⟩
    · rw [hshape, hid]
      exact Function.update_self _ _ _
    · have hdue : (s.wheel.setBucket i b rest).debugTickCounts + n = D := by
        rw [setBucket_debugTickCounts]
        omega
      show Awaits i id D ((s.wheel.setBucket i b rest).place t t.undoTickCounts)
      rw [← hid, ← hdue, hn]
      exact hplaced
  | early hnone hearly =>
    have hplaced := place_front_awaits (s := (s.wheel.setBucket i b rest).logCheck t)
      ⟨odometer.advanced, odometer.behind⟩ d.wheel_lt { t with undoTickCounts := 1 } Nat.one_pos
      (by have := ringWeight_pos i; omega)
    obtain ⟨wheels, k, c, v, hshape⟩ := place_shape ((s.wheel.setBucket i b rest).logCheck t)
      { t with undoTickCounts := 1 } 1
    refine Or.inl ⟨hsilent, { t with wheel := k, bucket := c, undoTickCounts := v },
      s.wheel.debugTickCounts + 1, ?_, hexp, ?_, ?_⟩
    · rw [hshape, hid]
      exact Function.update_self _ _ _
    · rw [← hid]
      exact hplaced
    · -- the tick being processed began before the time the callback is due
      have hbefore := hlt.mp (hexp ▸ hearly)
      have helapsed := dated.clock.elapsed
      have hundo := dated.clock.undo_nonneg
      have htick := dated.clock.undo_lt
      rw [hphase] at helapsed
      have hmono : (s.wheel.debugTickCounts : Int) * toInt32 (tickMs * 1000000) ≤
          ((s.wheel.debugTickCounts + left : Nat) : Int) * toInt32 (tickMs * 1000000) :=
        Int.mul_le_mul_of_nonneg_right (by omega) (by omega)
      simp only [Phase.left] at helapsed
      rw [Int.natCast_add, Int.natCast_one, Int.add_mul, Int.one_mul]
      omega
  | again u hnone hdue hu =>
    refine Or.inr ⟨⟨s.now, s.wheel.debugTickCounts, t.id⟩, ?_, ?_⟩
    · rw [firings_first hsilent rfl hid]
      rfl
    · rw [hexp, ← Bool.not_eq_true, hlt] at hdue
      exact Int.not_lt.mp hdue
  | ended hnone hdue hlow hhigh =>
    refine Or.inr ⟨⟨s.now, s.wheel.debugTickCounts, t.id⟩, ?_, ?_⟩
    · rw [firings_first hsilent rfl hid]
      rfl
    · rw [hexp, ← Bool.not_eq_true, hlt] at hdue
      exact Int.not_lt.mp hdue

theorem step_timely {tickMs : Int} {origin expire : Timestamp} {s s' : WheelMachine}
    (dated : Dated tickMs origin s) {id : Int}
    (h : Timely id expire (toInt32 (tickMs * 1000000))
      (expire.ns - origin.ns + toInt32 (tickMs * 1000000)) s)
    (hlt : ∀ t : Timestamp, t.Normalised → (t.lt expire = true ↔ t.ns < expire.ns)) {a : Action}
    (hkept : a ≠ .op (.removeTimer id)) (hstep : s.step a = some s') :
    Timely id expire (toInt32 (tickMs * 1000000))
      (expire.ns - origin.ns + toInt32 (tickMs * 1000000)) s' := by
  have hmove := move_of_step hstep
  rcases h with hdue | ⟨f, hlast, hf⟩
  · by_cases hfront : s.Front id
    · obtain ⟨left, i, b, rest, hphase, hbucket⟩ := hfront
      obtain ⟨t, ht, hexpiry⟩ := hmove.front_expiry hphase hbucket
      exact front_timely dated hdue hphase hbucket ht (hlt s.now dated.now) hexpiry
    · obtain ⟨hsilent, t, D, ht, hexp, hawaits, hlimit⟩ := hdue
      obtain ⟨htimers, hfirings⟩ := hmove.keeps dated.sound ht hkept hfront
      exact Or.inl ⟨hfirings.trans hsilent, t, D, htimers, hexp,
        hmove.awaits dated.sound hkept hfront hawaits, hlimit⟩
  · obtain ⟨l, hl⟩ := hmove.firings id
    refine Or.inr ⟨f, ?_, hf⟩
    rw [hl, List.getLast?_append, hlast]
    rfl

/-- A timer that has just been added is due in time. -/
theorem add_timely {tickMs : Int} (h : 1 ≤ tickMs) {origin : Timestamp} {s : WheelMachine}
    (dated : Dated tickMs origin s) {now : Timestamp} {expireMs callTimes : Int32}
    (hms : 1 ≤ expireMs.toInt) (hnow : s.latest.ns ≤ now.ns) (hout : s.phase.Outside) {id : Int}
    (hid : (s.wheel.addTimer now expireMs.toInt callTimes.toInt).2 = id) (hpos : 0 < id) :
    DueBy id (now.add expireMs.toInt) (toInt32 (tickMs * 1000000))
      ((now.add expireMs.toInt).ns - origin.ns + toInt32 (tickMs * 1000000))
      { s with wheel := s.wheel.apply (.addTimer now expireMs callTimes), latest := now } := by
  have hperiod := dated.clock.period
  have htick : 1 ≤ s.wheel.tickMs := hperiod ▸ h
  have hlow := expireTickCounts_pos htick hms
  have hhigh := expireTickCounts_lt htick (Int32.toInt_lt expireMs)
  obtain ⟨n, hn⟩ : ∃ n : Nat, expireTickCounts s.wheel.tickMs expireMs.toInt = n :=
    ⟨(expireTickCounts s.wheel.tickMs expireMs.toInt).toNat, by omega⟩
  obtain ⟨hnext, happly⟩ := addTimer_added hid hpos
  rw [hn] at happly
  have odometer : Odometer s.phase.advanced { s.wheel with timerIds := s.wheel.timerIds + 1 } :=
    ⟨dated.sound.odometer.advanced, dated.sound.odometer.behind⟩
  obtain ⟨D, hD, hawaits⟩ : ∃ D, D ≤ s.wheel.debugTickCounts + n ∧
      Awaits s.phase.emptied id D
        (s.wheel.addTimer now expireMs.toInt callTimes.toInt).1 := by
    rw [happly, ← hnext]
    cases hphase : s.phase with
    | idle =>
      rw [hphase] at odometer
      exact ⟨_, Nat.le_refl _, place_awaits odometer (Nat.le_refl _) _ (by omega)
        (by show n < ringWeight kTimingWheelNum; rw [ringWeight_top]; omega)⟩
    | callback left i b =>
      have hlocated := dated.sound.located
      rw [hphase] at hlocated odometer
      obtain ⟨D, hD, hawaits⟩ := place_awaits_early odometer hlocated.1
        dated.sound.registry.ring hlocated.2.1
        ⟨s.wheel.timerIds + 1, now.add expireMs.toInt, n, callTimes.toInt, 0, 0, 0⟩
        (n := n) (by omega) (by omega)
      exact ⟨D, hD, hawaits.mono (Nat.le_succ i)⟩
    | ticks left => rw [hphase] at hout; exact hout.elim
    | wheel left i => rw [hphase] at hout; exact hout.elim
    | draining left i b => rw [hphase] at hout; exact hout.elim
  obtain ⟨t, v, ht, hrest⟩ := hawaits
  refine ⟨?_, t, D, ht, ?_, ⟨t, v, ht, hrest⟩, ?_⟩
  · simp only [firings, List.filter_eq_nil_iff, decide_eq_true_eq]
    intro f hf hsame
    have hspent := dated.issued.fired f hf
    omega
  · obtain ⟨wheels, k, b, u, hshape⟩ := place_shape { s.wheel with timerIds := s.wheel.timerIds + 1 }
      ⟨s.wheel.timerIds + 1, now.add expireMs.toInt, n, callTimes.toInt, 0, 0, 0⟩ n
    rw [happly.trans hshape, ← hnext] at ht
    simp only [Function.update_self, Option.some.injEq] at ht
    rw [← ht]
  · have hbound := expireTickCounts_mul_lt htick hms
    have htickNs : toInt32 (tickMs * 1000000) ≤ tickMs * 1000000 := by
      obtain ⟨m, hm⟩ : ∃ m : Nat, tickMs * 1000000 = m := ⟨(tickMs * 1000000).toNat, by omega⟩
      rw [hm]
      exact toInt32_le m
    have hundo := dated.clock.undo_nonneg
    have hundoLt := dated.clock.undo_lt
    have helapsed := dated.clock.elapsed
    have hordered := dated.ordered
    have hleft : (s.wheel.debugTickCounts : Int) * toInt32 (tickMs * 1000000) ≤
        ((s.wheel.debugTickCounts + s.phase.left : Nat) : Int) * toInt32 (tickMs * 1000000) :=
      Int.mul_le_mul_of_nonneg_right (by omega) (by omega)
    have hlate : (D : Int) * toInt32 (tickMs * 1000000) ≤
        (s.wheel.debugTickCounts + n : Nat) * toInt32 (tickMs * 1000000) :=
      Int.mul_le_mul_of_nonneg_right (by omega) (by omega)
    have hspan : ((n : Int) - 1) * toInt32 (tickMs * 1000000) ≤
        ((n : Int) - 1) * (tickMs * 1000000) := Int.mul_le_mul_of_nonneg_left htickNs (by omega)
    rw [hn, hperiod] at hbound
    rw [Int.natCast_add, Int.add_mul] at hlate
    rw [← Int.mul_assoc] at hspan
    rw [Int.sub_mul, Int.one_mul] at hspan
    rw [Timestamp.ns_add]
    omega

/-- With a tick length that is positive as an `int`, the first callback of a timer is never
early, and has been run by the end of the first call one tick after it was due. -/
theorem timer_timely {tickMs : Int} (h : 1 ≤ tickMs) (htick : 0 < toInt32 (tickMs * 1000000))
    {origin : Timestamp} (normal : origin.Normalised) {s added later : WheelMachine}
    (hs : Reaches step TimelyGuard (start tickMs origin) s) {now : Timestamp}
    {expireMs callTimes : Int32} (hms : 1 ≤ expireMs.toInt)
    (guarded : s.TimelyGuard (.op (.addTimer now expireMs callTimes)))
    (hadd : s.step (.op (.addTimer now expireMs callTimes)) = some added) {id : Int}
    (hid : (s.wheel.addTimer now expireMs.toInt callTimes.toInt).2 = id) (hpos : 0 < id)
    (hlater : Reaches step (fun m a => m.TimelyGuard a ∧ a ≠ .op (.removeTimer id)) added later) :
    (∀ f, (later.firings id).getLast? = some f →
      now.ns + expireMs.toInt * 1000000 ≤ f.now.ns) ∧
    (later.phase = .idle →
      now.ns + expireMs.toInt * 1000000 + tickMs * 1000000 ≤ later.wheel.timestamp.ns →
        later.firings id ≠ []) := by
  have dated : Dated tickMs origin s := hs.invariant (start_dated h htick normal)
    (fun _ _ _ dated hguard hstep => step_dated dated hguard hstep)
  have datedAdded := step_dated dated guarded hadd
  have hlt : ∀ t : Timestamp, t.Normalised →
      (t.lt (now.add expireMs.toInt) = true ↔ t.ns < (now.add expireMs.toInt).ns) := by
    intro t ht
    rw [Timestamp.ns_add]
    exact Timestamp.lt_add_iff ht guarded.1 (by omega)
  have hfirst : Timely id (now.add expireMs.toInt) (toInt32 (tickMs * 1000000))
      ((now.add expireMs.toInt).ns - origin.ns + toInt32 (tickMs * 1000000)) added := by
    cases move_of_step hadd with
    | op _ hout => exact Or.inl (add_timely h dated hms guarded.2 hout hid hpos)
  obtain ⟨datedLater, htimely⟩ := hlater.invariant
    (I := fun m => Dated tickMs origin m ∧ Timely id (now.add expireMs.toInt)
      (toInt32 (tickMs * 1000000))
      ((now.add expireMs.toInt).ns - origin.ns + toInt32 (tickMs * 1000000)) m)
    ⟨datedAdded, hfirst⟩
    (fun m a m' hm hguard hstep => ⟨step_dated hm.1 hguard.1 hstep,
      step_timely hm.1 hm.2 hlt hguard.2 hstep⟩)
  rw [Timestamp.ns_add] at htimely
  rcases htimely with ⟨hsilent, t, D, ht, _, hawaits, hlimit⟩ | ⟨f, hlast, hf⟩
  · refine ⟨fun f hf => by simp [hsilent] at hf, fun hidle hend => ?_⟩
    rw [hidle] at hawaits
    obtain ⟨u, v, hu, _, _, _, hnext, _, hD, _⟩ := hawaits
    have hv := hnext (datedLater.sound.registry.sound id u hu).wheel_lt
    have hundo := (datedLater.sound.registry.sound id u hu).undo_nonneg
    have helapsed := datedLater.clock.elapsed
    have hrest := datedLater.clock.undo_lt
    have hstamp := datedLater.clock.timestamp hidle
    have htickNs : toInt32 (tickMs * 1000000) ≤ tickMs * 1000000 := by
      obtain ⟨m, hm⟩ : ∃ m : Nat, tickMs * 1000000 = m := ⟨(tickMs * 1000000).toNat, by omega⟩
      rw [hm]
      exact toInt32_le m
    have hlate : ((later.wheel.debugTickCounts + 1 : Nat) : Int) * toInt32 (tickMs * 1000000) ≤
        D * toInt32 (tickMs * 1000000) := Int.mul_le_mul_of_nonneg_right (by omega) (by omega)
    rw [Int.natCast_add, Int.natCast_one, Int.add_mul, Int.one_mul] at hlate
    rw [hidle] at helapsed
    simp only [Phase.left, Nat.add_zero] at helapsed
    rw [hstamp] at hend
    omega
  · rw [Timestamp.ns_add] at hf
    refine ⟨fun g hg => ?_, fun _ _ hsilent => ?_⟩
    · rw [hlast] at hg
      exact (Option.some.inj hg) ▸ hf
    · simp [hsilent] at hlast

/-- A check that comes three milliseconds early, and the callback one tick later. -/
def earlyCheck : List Action :=
  .onExpired ⟨5, 20000000⟩ :: List.replicate 8 .next ++
    .onExpired ⟨5, 40000000⟩ :: List.replicate 3 .next ++ .ret :: List.replicate 5 .next

theorem timer_timely_early_check :
    ∃ added later, (start 10 ⟨5, 0⟩).step (.op (.addTimer ⟨5, 3000000⟩ 20 1)) = some added ∧
      run step earlyCheck added = some later ∧ later.firings 1 ≠ [] ∧
      ∀ f, (later.firings 1).getLast? = some f → 5023000000 ≤ f.now.ns := by
  obtain ⟨added, hadded, hsome⟩ := Option.map_eq_some_iff.mp
    (by decide +kernel : ((start 10 ⟨5, 0⟩).step (.op (.addTimer ⟨5, 3000000⟩ 20 1))).map
      (fun s => ((run step earlyCheck s).map fun m => (m.phase, m.wheel.timestamp),
        decide (Guarded step (fun m a => m.TimelyGuard a ∧ a ≠ .op (.removeTimer 1))
          earlyCheck s))) = some (some (.idle, ⟨5, 40000000⟩), true))
  simp only [Prod.mk.injEq, decide_eq_true_eq] at hsome
  obtain ⟨later, hlater, hend⟩ := Option.map_eq_some_iff.mp hsome.1
  simp only [Prod.mk.injEq] at hend
  obtain ⟨hlow, hhigh⟩ := timer_timely (by decide : (1 : Int) ≤ 10) (by decide) (by decide) .refl
    (by decide) (by decide) hadded (by decide +kernel) (by decide)
    (Reaches.refl.run hsome.2 hlater)
  refine ⟨added, later, hadded, hlater, hhigh hend.1 ?_, fun f hf => hlow f hf⟩
  rw [hend.2]
  decide

/-- With a tick of 2148 ms the `int` tick length is negative: time passes and no tick comes. -/
theorem long_tick_never_comes :
    ¬ ∀ added later,
      (start 2148 ⟨5, 0⟩).step (.op (.addTimer ⟨5, 0⟩ 1 1)) = some added →
      Reaches step (fun m a => m.TimelyGuard a ∧ a ≠ .op (.removeTimer 1)) added later →
      later.phase = .idle →
      (⟨5, 0⟩ : Timestamp).ns + 1 * 1000000 + 2148 * 1000000 ≤ later.wheel.timestamp.ns →
      later.firings 1 ≠ [] := by
  intro hall
  obtain ⟨added, hadded, hsome⟩ := Option.map_eq_some_iff.mp
    (by decide +kernel : ((start 2148 ⟨5, 0⟩).step (.op (.addTimer ⟨5, 0⟩ 1 1))).map
      (fun s => ((run step [.onExpired ⟨6, 0⟩, .next, .onExpired ⟨7, 0⟩, .next,
          .onExpired ⟨7, 147000000⟩, .next, .onExpired ⟨7, 647000000⟩, .next] s).map
            fun m => (m.phase, m.wheel.timestamp, m.firings 1),
        decide (Guarded step (fun m a => m.TimelyGuard a ∧ a ≠ .op (.removeTimer 1))
          [.onExpired ⟨6, 0⟩, .next, .onExpired ⟨7, 0⟩, .next,
          .onExpired ⟨7, 147000000⟩, .next, .onExpired ⟨7, 647000000⟩, .next] s))) =
        some (some (.idle, ⟨7, 647000000⟩, []), true))
  simp only [Prod.mk.injEq, decide_eq_true_eq] at hsome
  obtain ⟨later, hlater, hend⟩ := Option.map_eq_some_iff.mp hsome.1
  simp only [Prod.mk.injEq] at hend
  refine hall added later hadded (Reaches.refl.run hsome.2 hlater) hend.1 ?_ hend.2.2
  rw [hend.2.1]
  decide

end WheelMachine

end Mysya
