import Mysya.TimingWheelSound

/-!
# Tick conservation

`OnExpired` turns the time since its last call into whole ticks and keeps the
rest in `undo_nsec_`. `Clock` says that ticks begun, ticks still to begin and
the rest account for all of the time since `SetTimestamp`, at every moment of
a run whose calls bring no more nanoseconds than the `int` accumulator holds.
A call that brings more breaks the account for good.
-/

namespace Mysya

open GuardedRuns TimingWheel

namespace TimingWheel

/-- The local `tick_ns` of `OnExpired`. -/
def tickNs (s : TimingWheel) : Int := toInt32 (s.tickMs * 1000000)

/-- The nanoseconds a call of `OnExpired` has to account for. -/
def pendingNsec (s : TimingWheel) (now : Timestamp) : Int :=
  s.undoNsec + now.distanceNanoSecond s.timestamp

/-- The accumulator holds what the call brings. -/
def Accumulates (s : TimingWheel) (now : Timestamp) : Prop :=
  0 ≤ s.pendingNsec now ∧ s.pendingNsec now < 2147483648

instance (s : TimingWheel) (now : Timestamp) : Decidable (s.Accumulates now) :=
  inferInstanceAs (Decidable (_ ∧ _))

/-- The ticks processed and the rest are the time since `origin`. -/
def Conserved (origin : Timestamp) (s : TimingWheel) : Prop :=
  s.debugTickCounts * (s.tickMs * 1000000) + s.undoNsec = s.timestamp.ns - origin.ns ∧
    0 ≤ s.undoNsec ∧ s.undoNsec < s.tickMs * 1000000

end TimingWheel

namespace WheelMachine

/-- `SetTimestamp` is not called again, and every call of `OnExpired` is for a timestamp that
is not earlier and brings what the accumulator holds. -/
def ClockGuard (s : WheelMachine) : Action → Prop
  | .setTimestamp _ => False
  | .onExpired now => now.lt s.wheel.timestamp = false ∧ s.wheel.Accumulates now
  | _ => True

instance (s : WheelMachine) (a : Action) : Decidable (s.ClockGuard a) := by
  cases a <;> unfold ClockGuard <;> infer_instance

/-- The steps inside a call. -/
def InCall (s : WheelMachine) : Action → Prop
  | .setTimestamp _ => False
  | _ => s.phase ≠ .idle

/-- What no step but a call of `OnExpired` or `SetTimestamp` changes. -/
structure SameTime (s s' : WheelMachine) : Prop where
  ticks : s'.wheel.debugTickCounts + s'.phase.left = s.wheel.debugTickCounts + s.phase.left
  undoNsec : s'.wheel.undoNsec = s.wheel.undoNsec
  tickMs : s'.wheel.tickMs = s.wheel.tickMs
  now : s'.now = s.now
  timestamp : s'.phase = .idle →
    s'.wheel.timestamp = s'.now ∨ s.phase = .idle ∧ s'.wheel.timestamp = s.wheel.timestamp

theorem expireFront_sameTime (s : WheelMachine) {left i b : Nat} (rest : List Int) (t : Timer)
    (hphase : s.phase = .draining left i b) : SameTime s (s.expireFront left i b rest t) := by
  obtain ⟨calls, hwheel⟩ := expireFront_wheel s left i b rest t
  obtain ⟨wheels, timers, checks, hshape⟩ := expire_shape (s.wheel.setBucket i b rest) s.now t
  rw [hshape] at hwheel
  have hnow : (s.expireFront left i b rest t).now = s.now := by
    simp only [expireFront]
    split <;> rfl
  rcases expireFront_phase s left i b rest t with hp | hp
  · constructor
    · simp [hwheel, hp, hphase, Phase.left]
    · rw [hwheel]; rfl
    · rw [hwheel]; rfl
    · exact hnow
    · simp [hp]
  · constructor
    · simp [hwheel, hp, hphase, Phase.left]
    · rw [hwheel]; rfl
    · rw [hwheel]; rfl
    · exact hnow
    · simp [hp]

theorem Move.sameTime {s s' : WheelMachine} {a : Action} (h : Move s a s')
    (hset : ∀ t, a ≠ .setTimestamp t) (hcall : ∀ t, a ≠ .onExpired t) : SameTime s s' := by
  cases h with
  | op o hout =>
    obtain ⟨wheels, timers, timerIds, hshape⟩ := apply_shape s.wheel o
    constructor
    · simp [hshape]
    · simp [hshape]
    · simp [hshape]
    · rfl
    · intro hidle
      exact Or.inr ⟨hidle, by simp [hshape]⟩
  | setTimestamp timestamp hout => exact absurd rfl (hset timestamp)
  | onExpired now hphase => exact absurd rfl (hcall now)
  | finish hphase => exact ⟨by simp [hphase, Phase.left], rfl, rfl, rfl, fun _ => Or.inl rfl⟩
  | begin left hphase =>
    refine ⟨?_, rfl, rfl, rfl, by simp⟩
    simp only [hphase, Phase.left]
    omega
  | wheel left i hphase hi => exact ⟨by rw [hphase]; rfl, rfl, rfl, rfl, by simp⟩
  | last left i hphase hi => exact ⟨by rw [hphase]; rfl, rfl, rfl, rfl, by simp⟩
  | stop left i b hphase hempty hstop => exact ⟨by rw [hphase]; rfl, rfl, rfl, rfl, by simp⟩
  | carry left i b hphase hempty hcont => exact ⟨by rw [hphase]; rfl, rfl, rfl, rfl, by simp⟩
  | front left i b id rest t hphase hbucket ht => exact expireFront_sameTime s rest t hphase
  | ret left i b hphase => exact ⟨by rw [hphase]; rfl, rfl, rfl, rfl, by simp⟩

/-- The account of the time since `origin`. -/
structure Clock (tickMs : Int) (origin : Timestamp) (s : WheelMachine) : Prop where
  period : s.wheel.tickMs = tickMs
  elapsed : (s.wheel.debugTickCounts + s.phase.left : Nat) * toInt32 (tickMs * 1000000) +
    s.wheel.undoNsec = s.now.ns - origin.ns
  undo_nonneg : 0 ≤ s.wheel.undoNsec
  undo_lt : s.wheel.undoNsec < toInt32 (tickMs * 1000000)
  timestamp : s.phase = .idle → s.wheel.timestamp = s.now

theorem start_clock {tickMs : Int} (h : 0 < toInt32 (tickMs * 1000000)) (origin : Timestamp) :
    Clock tickMs origin (start tickMs origin) := by
  refine ⟨rfl, ?_, Int.le_refl 0, h, fun _ => rfl⟩
  simp [start, TimingWheel.init, Phase.left]

theorem SameTime.clock {s s' : WheelMachine} (h : SameTime s s') {tickMs : Int}
    {origin : Timestamp} (clock : Clock tickMs origin s) : Clock tickMs origin s' := by
  constructor
  · rw [h.tickMs, clock.period]
  · rw [h.ticks, h.undoNsec, h.now]
    exact clock.elapsed
  · rw [h.undoNsec]
    exact clock.undo_nonneg
  · rw [h.undoNsec]
    exact clock.undo_lt
  · intro hidle
    rcases h.timestamp hidle with hnow | ⟨hold, hsame⟩
    · exact hnow
    · rw [hsame, clock.timestamp hold, h.now]

/-- Dividing by the tick length and keeping the rest loses nothing. -/
theorem ticks_account (n : Nat) {x k : Int} (hx : 0 ≤ x) (hk : 0 < k) :
    ((n + (x.tdiv k).toNat : Nat) : Int) * k + x.tmod k = n * k + x := by
  have hcount : 0 ≤ x.tdiv k := Int.tdiv_nonneg hx (Int.le_of_lt hk)
  calc ((n + (x.tdiv k).toNat : Nat) : Int) * k + x.tmod k
      = n * k + (k * x.tdiv k + x.tmod k) := by
        rw [Int.natCast_add, Int.toNat_of_nonneg hcount, Int.add_mul, Int.mul_comm (x.tdiv k),
          Int.add_assoc]
    _ = n * k + x := by rw [Int.mul_tdiv_add_tmod]

/-- A call that the accumulator holds keeps the account. -/
theorem enter_clock {s : WheelMachine} {tickMs : Int} {origin now : Timestamp}
    (clock : Clock tickMs origin s) (hidle : s.phase = .idle)
    (hlater : now.lt s.wheel.timestamp = false) (fits : s.wheel.Accumulates now) :
    Clock tickMs origin (s.enter now) := by
  obtain ⟨hms, helapsed, hnonneg, hlt, htimestamp⟩ := clock
  have hdistance := Timestamp.distanceNanoSecond_eq hlater
  have hpending : toInt32 (s.wheel.undoNsec + now.distanceNanoSecond s.wheel.timestamp) =
      s.wheel.pendingNsec now :=
    toInt32_eq ⟨Int.le_trans (by decide) fits.1, fits.2⟩
  have hpos : 0 < toInt32 (tickMs * 1000000) := by omega
  have haccount := ticks_account s.wheel.debugTickCounts fits.1 hpos
  rw [htimestamp hidle] at hdistance
  constructor
  · exact hms
  · simp only [enter, Phase.left, hpending, hms, haccount]
    simp only [hidle, Phase.left, Nat.add_zero] at helapsed
    rw [pendingNsec, htimestamp hidle, hdistance]
    omega
  · simp only [enter, hpending, hms]
    exact Int.tmod_nonneg _ fits.1
  · simp only [enter, hpending, hms]
    exact Int.tmod_lt_of_pos _ hpos
  · intro h
    simp [enter] at h

theorem reaches_clock {tickMs : Int} (h : 0 < toInt32 (tickMs * 1000000)) {origin : Timestamp}
    {s : WheelMachine} (hs : Reaches step ClockGuard (start tickMs origin) s) :
    Clock tickMs origin s := by
  refine hs.invariant (start_clock h origin) ?_
  intro s a s' clock guarded hstep
  have hmove := move_of_step hstep
  cases a with
  | op o => exact (hmove.sameTime (by simp) (by simp)).clock clock
  | setTimestamp timestamp => exact guarded.elim
  | onExpired now =>
    cases hmove with
    | onExpired _ hidle => exact enter_clock clock hidle guarded.1 guarded.2
  | next => exact (hmove.sameTime (by simp) (by simp)).clock clock
  | ret => exact (hmove.sameTime (by simp) (by simp)).clock clock

theorem SameTime.trans {a b c : WheelMachine} (hab : SameTime a b) (hbc : SameTime b c) :
    SameTime a c := by
  refine ⟨hbc.ticks.trans hab.ticks, hbc.undoNsec.trans hab.undoNsec, hbc.tickMs.trans hab.tickMs,
    hbc.now.trans hab.now, fun hidle => ?_⟩
  rcases hbc.timestamp hidle with hnow | ⟨hb, hsame⟩
  · exact Or.inl hnow
  · rcases hab.timestamp hb with hnow | ⟨ha, hsame'⟩
    · exact Or.inl (hsame.trans (hnow.trans hbc.now.symm))
    · exact Or.inr ⟨ha, hsame.trans hsame'⟩

theorem inCall_sameTime {s s' : WheelMachine} (h : Reaches step InCall s s') : SameTime s s' := by
  induction h with
  | refl => exact ⟨rfl, rfl, rfl, rfl, fun hidle => Or.inr ⟨hidle, rfl⟩⟩
  | snoc a _ hin hstep ih =>
    have hmove := move_of_step hstep
    refine ih.trans (hmove.sameTime ?_ ?_)
    · rintro t rfl
      exact hin
    · rintro t rfl
      cases hmove with
      | onExpired _ hidle => exact hin hidle

/-- A call that the accumulator does not hold breaks the account. -/
theorem accumulates_of_account {pending k : Int} {n : Nat} (hk : 0 < k)
    (haccount : ((n + ((toInt32 pending).tdiv k).toNat : Nat) : Int) * k +
      (toInt32 pending).tmod k = n * k + pending) (hrest : 0 ≤ (toInt32 pending).tmod k) :
    0 ≤ pending ∧ pending < 2147483648 := by
  have hrange := toInt32_range pending
  rcases Int.lt_or_le (toInt32 pending) 0 with hneg | hpos
  · have hquotient : ((toInt32 pending).tdiv k).toNat = 0 := by
      have hle : 0 ≤ (-toInt32 pending).tdiv k := Int.tdiv_nonneg (by omega) (Int.le_of_lt hk)
      rw [Int.neg_tdiv] at hle
      omega
    have hmod : 0 ≤ (-toInt32 pending).tmod k := Int.tmod_nonneg _ (by omega)
    rw [Int.neg_tmod] at hmod
    rw [hquotient, Nat.add_zero] at haccount
    have hzero : pending = 0 := by omega
    rw [hzero] at hneg
    exact absurd hneg (by decide)
  · rw [ticks_account n hpos hk] at haccount
    omega

/-- After a call, the account is right exactly when the accumulator held what it brought; so
it is right after every call of a run of such calls. -/
theorem tick_conservation {tickMs : Int} (h : 1 ≤ tickMs) (small : tickMs * 1000000 < 2147483648)
    (origin : Timestamp) {s : WheelMachine} (hs : Reaches step ClockGuard (start tickMs origin) s)
    (idle : s.phase = .idle) :
    s.wheel.Conserved origin ∧ ∀ now entered s', now.lt s.wheel.timestamp = false →
      s.step (.onExpired now) = some entered → Reaches step InCall entered s' →
      s'.phase = .idle → (s'.wheel.Conserved origin ↔ s.wheel.Accumulates now) := by
  have htick : toInt32 (tickMs * 1000000) = tickMs * 1000000 := toInt32_eq (by omega)
  have clock := reaches_clock (by rw [htick]; omega) hs
  have conserved : ∀ m : WheelMachine, Clock tickMs origin m → m.phase = .idle →
      m.wheel.Conserved origin := by
    intro m hm hidle
    obtain ⟨hms, helapsed, hnonneg, hlt, htimestamp⟩ := hm
    rw [htick] at helapsed hlt
    simp only [hidle, Phase.left, Nat.add_zero] at helapsed
    rw [TimingWheel.Conserved, hms, htimestamp hidle]
    exact ⟨helapsed, hnonneg, hlt⟩
  refine ⟨conserved s clock idle, ?_⟩
  intro now entered s' hlater hstep hcall hidle'
  have hsame := inCall_sameTime hcall
  cases move_of_step hstep with
  | onExpired _ _ =>
    constructor
    · intro hconserved
      obtain ⟨haccount, hrest, _⟩ := hconserved
      have hstamp : s'.wheel.timestamp = now := by
        rcases hsame.timestamp hidle' with hnow | ⟨hentered, _⟩
        · exact hnow.trans hsame.now
        · cases hentered
      have hticks : s'.wheel.debugTickCounts = s.wheel.debugTickCounts +
          ((toInt32 (s.wheel.pendingNsec now)).tdiv (tickMs * 1000000)).toNat := by
        have hcount := hsame.ticks
        rw [hidle'] at hcount
        rw [← htick, ← clock.period]
        exact hcount
      have hundo : s'.wheel.undoNsec =
          (toInt32 (s.wheel.pendingNsec now)).tmod (tickMs * 1000000) := by
        rw [hsame.undoNsec, ← htick, ← clock.period]
        rfl
      have hbefore := (conserved s clock idle).1
      have hdistance := Timestamp.distanceNanoSecond_eq hlater
      have hms : s'.wheel.tickMs = tickMs := hsame.tickMs.trans clock.period
      rw [clock.period] at hbefore
      rw [hticks, hundo, hstamp, hms] at haccount
      rw [hundo] at hrest
      refine accumulates_of_account (k := tickMs * 1000000) (n := s.wheel.debugTickCounts)
        (by omega) ?_ hrest
      rw [haccount, pendingNsec, hdistance]
      omega
    · intro fits
      exact conserved s' (hsame.clock (enter_clock clock idle hlater fits)) hidle'

theorem tick_conservation_second :
    ∃ s, run step (.onExpired ⟨5, 30000007⟩ :: List.replicate 10 .next) (start 10 ⟨5, 0⟩) = some s ∧
      s.wheel.undoNsec = 7 ∧ s.wheel.debugTickCounts = 3 ∧ s.wheel.Conserved ⟨5, 0⟩ := by
  obtain ⟨s, hs, hrest⟩ := Option.map_eq_some_iff.mp
    (by decide +kernel : (run step (.onExpired ⟨5, 30000007⟩ :: List.replicate 10 .next)
      (start 10 ⟨5, 0⟩)).map (fun s => (s.phase, s.wheel.undoNsec, s.wheel.debugTickCounts)) =
        some (.idle, 7, 3))
  simp only [Prod.mk.injEq] at hrest
  obtain ⟨hidle, hundo, hticks⟩ := hrest
  have reached : Reaches step ClockGuard (start 10 ⟨5, 0⟩) s :=
    Reaches.refl.run (by decide +kernel) hs
  exact ⟨s, hs, hundo, hticks, (tick_conservation (by decide) (by decide) ⟨5, 0⟩ reached hidle).1⟩

/-- A loop that stalls for three seconds: the accumulator wraps, and 300 ticks are lost. -/
theorem stall_loses_ticks :
    ¬ ∀ now s', now.lt ⟨5, 0⟩ = false → run step [.onExpired now, .next] (start 10 ⟨5, 0⟩) = some s' →
      s'.phase = .idle → s'.wheel.Conserved ⟨5, 0⟩ := by
  intro hall
  obtain ⟨s, hs, hrest⟩ := Option.map_eq_some_iff.mp
    (by decide +kernel : (run step [.onExpired ⟨8, 0⟩, .next] (start 10 ⟨5, 0⟩)).map
      (fun s => (s.phase, s.wheel.undoNsec, s.wheel.debugTickCounts)) = some (.idle, -4967296, 0))
  simp only [Prod.mk.injEq] at hrest
  obtain ⟨hidle, hundo, _⟩ := hrest
  have hrest := (hall ⟨8, 0⟩ s (by decide) hs hidle).2.1
  rw [hundo] at hrest
  exact absurd hrest (by decide)

end WheelMachine

end Mysya
