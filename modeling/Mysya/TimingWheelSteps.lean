import Mysya.TimingWheelRuns
import Mysya.GuardedRuns

/-!
# The timing wheel, one step at a time

`TimingWheel::OnExpired` cut at the heads of its loops and at the callbacks,
so that what a callback does is a choice of the run and not a parameter. A
completed call of `onExpired` is a run of these steps (`onExpired_reaches`);
the other direction is not needed, since a run may also stop inside a call.
`Move` lists what a step can do.
-/

namespace Mysya

open GuardedRuns MixedRadix TimingWheel

namespace TimingWheel

def logCheck (s : TimingWheel) (t : Timer) : TimingWheel :=
  { s with checks := s.checks ++ [(s.debugTickCounts, t.id)] }

def logCall (s : TimingWheel) (t : Timer) : TimingWheel :=
  { s with calls := (s.debugTickCounts, t.id) :: s.calls }

/-- The loop body of `Wheel::OnExpired` up to the callback, and whether that is run. -/
def expire (s : TimingWheel) (now : Timestamp) (t : Timer) : TimingWheel × Bool :=
  if t.undoTickCounts > 0 then (s.place t t.undoTickCounts, false)
  else if now.lt t.expireTimestamp then
    ((s.logCheck t).place { t with undoTickCounts := 1 } 1, false)
  else if t.callTimes < 0 then ((s.logCheck t).place t t.expireTickCounts, true)
  else if t.callTimes - 1 > 0 then
    ((s.logCheck t).place { t with callTimes := t.callTimes - 1 } t.expireTickCounts, true)
  else ((s.logCheck t).removeTimer t.id, true)

theorem visit_eq (s : TimingWheel) (cbs : Callbacks) (now : Timestamp) (t : Timer) :
    s.visit cbs now t = if (s.expire now t).2 then (s.expire now t).1.callback cbs t.id
      else (s.expire now t).1 := by
  simp only [visit, expire, logCheck]
  split
  · simp
  · split
    · simp
    · split
      · simp
      · split <;> simp

end TimingWheel

/-- Where the code of `TimingWheel::OnExpired` stands. -/
inductive Phase where
  | idle
  /-- At the head of the `while` loop, with `left` ticks to run. -/
  | ticks (left : Nat)
  /-- At the head of the `for` loop, about to call wheel `i`. -/
  | wheel (left i : Nat)
  /-- At the head of the loop that empties bucket `b` of wheel `i`. -/
  | draining (left i b : Nat)
  /-- In a callback called from there. -/
  | callback (left i b : Nat)
  deriving DecidableEq

namespace Phase

/-- The ticks that the call in progress has still to begin. -/
def left : Phase → Nat
  | idle => 0
  | ticks left => left
  | wheel left _ => left
  | draining left _ _ => left
  | callback left _ _ => left

/-- How many wheels have advanced in the tick in progress. -/
def advanced : Phase → Nat
  | idle => kTimingWheelNum
  | ticks _ => kTimingWheelNum
  | wheel _ i => i
  | draining _ i _ => i + 1
  | callback _ i _ => i + 1

/-- What the tick count says of the place in the loops. -/
def Located (n : Nat) : Phase → Prop
  | idle => True
  | ticks _ => True
  | wheel _ i => i ≤ kTimingWheelNum ∧ 0 < n ∧ ringWeight i ∣ n
  | draining _ i b => i < kTimingWheelNum ∧ 0 < n ∧ ringWeight i ∣ n ∧ b = ringSlot i n
  | callback _ i b => i < kTimingWheelNum ∧ 0 < n ∧ ringWeight i ∣ n ∧ b = ringSlot i n

/-- Where code outside the wheel runs. -/
def Outside : Phase → Prop
  | idle => True
  | callback _ _ _ => True
  | _ => False

instance : DecidablePred Outside
  | idle => .isTrue trivial
  | ticks _ => .isFalse id
  | wheel _ _ => .isFalse id
  | draining _ _ _ => .isFalse id
  | callback _ _ _ => .isTrue trivial

end Phase

/-- A callback that was run: in which call of `OnExpired`, in which tick, and whose. -/
structure Firing where
  now : Timestamp
  tick : Nat
  timerId : Int
  deriving DecidableEq

structure WheelMachine where
  wheel : TimingWheel
  phase : Phase
  /-- The argument of the latest `OnExpired`. -/
  now : Timestamp
  /-- Ghost: the latest timestamp that was handed to the wheel. -/
  latest : Timestamp
  /-- Ghost: every callback run, the latest first. -/
  fired : List Firing

namespace WheelMachine

inductive Action where
  | op (o : TimerOp)
  | setTimestamp (timestamp : Timestamp)
  | onExpired (nowTimestamp : Timestamp)
  /-- One step of `OnExpired` itself. -/
  | next
  /-- The callback in progress returns. -/
  | ret
  deriving DecidableEq

/-- The callbacks of one timer. -/
def firings (s : WheelMachine) (id : Int) : List Firing :=
  s.fired.filter fun f => f.timerId = id

/-- A new wheel after `SetTimestamp`. -/
def start (tickMs : Int) (timestamp : Timestamp) : WheelMachine where
  wheel := { TimingWheel.init tickMs with timestamp := timestamp }
  phase := .idle
  now := timestamp
  latest := timestamp
  fired := []

/-- `OnExpired` up to the head of its `while` loop. -/
def enter (s : WheelMachine) (now : Timestamp) : WheelMachine :=
  let tickNs := toInt32 (s.wheel.tickMs * 1000000)
  let distanceNs := now.distanceNanoSecond s.wheel.timestamp
  let undoNsec := toInt32 (s.wheel.undoNsec + distanceNs)
  let undoTickCounts := undoNsec.tdiv tickNs
  { s with
    wheel := { s.wheel with undoNsec := undoNsec.tmod tickNs }
    phase := .ticks undoTickCounts.toNat
    now := now
    latest := now }

/-- The latest timestamp given, after an operation that may give one. -/
def TimerOp.latest (latest : Timestamp) : TimerOp → Timestamp
  | .addTimer now _ _ => now
  | .removeTimer _ => latest

/-- The round of the drain loop that takes timer `t` off the bucket. -/
def expireFront (s : WheelMachine) (left i b : Nat) (rest : List Int) (t : Timer) : WheelMachine :=
  let (wheel, called) := (s.wheel.setBucket i b rest).expire s.now t
  if called then
    { s with
      wheel := wheel.logCall t
      phase := .callback left i b
      fired := ⟨s.now, s.wheel.debugTickCounts, t.id⟩ :: s.fired }
  else { s with wheel := wheel, phase := .draining left i b }

/-- The next step of `OnExpired`; it fails on a dangling pointer. -/
def advance (s : WheelMachine) : Option WheelMachine :=
  match s.phase with
  | .idle => none
  | .ticks 0 => some { s with wheel := { s.wheel with timestamp := s.now }, phase := .idle }
  | .ticks (left + 1) =>
    some { s with
      wheel := { s.wheel with debugTickCounts := s.wheel.debugTickCounts + 1 }
      phase := .wheel left 0 }
  | .wheel left i =>
    if i < kTimingWheelNum then
      let bucket := (s.wheel.wheels i).currentBucket
      some { s with
        wheel := s.wheel.setCurrentBucket i ((bucket + 1) % kTimingWheelBucketNum i)
        phase := .draining left i bucket }
    else some { s with phase := .ticks left }
  | .draining left i b =>
    match (s.wheel.wheels i).buckets b with
    | [] =>
      if (s.wheel.wheels i).currentBucket > 0 then some { s with phase := .ticks left }
      else some { s with phase := .wheel left (i + 1) }
    | id :: rest =>
      match s.wheel.timers id with
      | none => none
      | some t => some (s.expireFront left i b rest t)
  | .callback _ _ _ => none

def step (s : WheelMachine) : Action → Option WheelMachine
  | .op o =>
    if s.phase.Outside then
      some { s with wheel := s.wheel.apply o, latest := TimerOp.latest s.latest o }
    else none
  | .setTimestamp timestamp =>
    if s.phase.Outside then
      some { s with wheel := { s.wheel with timestamp := timestamp }, latest := timestamp }
    else none
  | .onExpired nowTimestamp => if s.phase = .idle then some (s.enter nowTimestamp) else none
  | .next => s.advance
  | .ret =>
    match s.phase with
    | .callback left i b => some { s with phase := .draining left i b }
    | _ => none

/-- Everything a step can do, with the place in the code it is done from. -/
inductive Move (s : WheelMachine) : Action → WheelMachine → Prop where
  | op (o : TimerOp) : s.phase.Outside →
      Move s (.op o) { s with wheel := s.wheel.apply o, latest := TimerOp.latest s.latest o }
  | setTimestamp (timestamp : Timestamp) : s.phase.Outside →
      Move s (.setTimestamp timestamp)
        { s with wheel := { s.wheel with timestamp := timestamp }, latest := timestamp }
  | onExpired (now : Timestamp) : s.phase = .idle → Move s (.onExpired now) (s.enter now)
  | finish : s.phase = .ticks 0 →
      Move s .next { s with wheel := { s.wheel with timestamp := s.now }, phase := .idle }
  | begin (left : Nat) : s.phase = .ticks (left + 1) →
      Move s .next { s with
        wheel := { s.wheel with debugTickCounts := s.wheel.debugTickCounts + 1 }
        phase := .wheel left 0 }
  | wheel (left i : Nat) : s.phase = .wheel left i → i < kTimingWheelNum →
      Move s .next { s with
        wheel := s.wheel.setCurrentBucket i
          (((s.wheel.wheels i).currentBucket + 1) % kTimingWheelBucketNum i)
        phase := .draining left i (s.wheel.wheels i).currentBucket }
  | last (left i : Nat) : s.phase = .wheel left i → ¬ i < kTimingWheelNum →
      Move s .next { s with phase := .ticks left }
  | stop (left i b : Nat) : s.phase = .draining left i b → (s.wheel.wheels i).buckets b = [] →
      (s.wheel.wheels i).currentBucket > 0 → Move s .next { s with phase := .ticks left }
  | carry (left i b : Nat) : s.phase = .draining left i b → (s.wheel.wheels i).buckets b = [] →
      ¬ (s.wheel.wheels i).currentBucket > 0 → Move s .next { s with phase := .wheel left (i + 1) }
  | front (left i b : Nat) (id : Int) (rest : List Int) (t : Timer) :
      s.phase = .draining left i b → (s.wheel.wheels i).buckets b = id :: rest →
      s.wheel.timers id = some t → Move s .next (s.expireFront left i b rest t)
  | ret (left i b : Nat) : s.phase = .callback left i b →
      Move s .ret { s with phase := .draining left i b }

theorem move_of_advance {s s' : WheelMachine} (h : s.advance = some s') : Move s .next s' := by
  unfold advance at h
  split at h
  · simp at h
  · rename_i hphase
    cases h
    exact .finish hphase
  · rename_i left hphase
    cases h
    exact .begin left hphase
  · rename_i left i hphase
    split at h
    · rename_i hi
      cases h
      exact .wheel left i hphase hi
    · rename_i hi
      cases h
      exact .last left i hphase hi
  · rename_i left i b hphase
    split at h
    · rename_i hbucket
      split at h
      · rename_i hstop
        cases h
        exact .stop left i b hphase hbucket hstop
      · rename_i hcont
        cases h
        exact .carry left i b hphase hbucket hcont
    · rename_i id rest hbucket
      split at h
      · simp at h
      · rename_i t ht
        cases h
        exact .front left i b id rest t hphase hbucket ht
  · simp at h

theorem move_of_step {s s' : WheelMachine} {a : Action} (h : s.step a = some s') :
    Move s a s' := by
  cases a with
  | op o =>
    simp only [step, Option.ite_none_right_eq_some, Option.some.injEq] at h
    obtain ⟨hout, rfl⟩ := h
    exact .op o hout
  | setTimestamp timestamp =>
    simp only [step, Option.ite_none_right_eq_some, Option.some.injEq] at h
    obtain ⟨hout, rfl⟩ := h
    exact .setTimestamp timestamp hout
  | onExpired now =>
    simp only [step, Option.ite_none_right_eq_some, Option.some.injEq] at h
    obtain ⟨hidle, rfl⟩ := h
    exact .onExpired now hidle
  | next => exact move_of_advance h
  | ret =>
    simp only [step] at h
    split at h
    · rename_i left i b hphase
      cases h
      exact .ret left i b hphase
    · simp at h

/-- What becomes of the timer at the front: put off, put off for being early, placed again
for its period, or done. -/
inductive Expiry (s : WheelMachine) (left i b : Nat) (rest : List Int) (t : Timer) :
    WheelMachine → Prop where
  | undone : 0 < t.undoTickCounts →
      Expiry s left i b rest t { s with
        wheel := (s.wheel.setBucket i b rest).place t t.undoTickCounts
        phase := .draining left i b }
  | early : t.undoTickCounts ≤ 0 → s.now.lt t.expireTimestamp = true →
      Expiry s left i b rest t { s with
        wheel := ((s.wheel.setBucket i b rest).logCheck t).place { t with undoTickCounts := 1 } 1
        phase := .draining left i b }
  | again (u : Timer) : t.undoTickCounts ≤ 0 → s.now.lt t.expireTimestamp = false →
      (t.callTimes < 0 ∧ u = t ∨
        1 < t.callTimes ∧ u = { t with callTimes := t.callTimes - 1 }) →
      Expiry s left i b rest t { s with
        wheel := (((s.wheel.setBucket i b rest).logCheck t).place u t.expireTickCounts).logCall t
        phase := .callback left i b
        fired := ⟨s.now, s.wheel.debugTickCounts, t.id⟩ :: s.fired }
  | ended : t.undoTickCounts ≤ 0 → s.now.lt t.expireTimestamp = false →
      0 ≤ t.callTimes → t.callTimes ≤ 1 →
      Expiry s left i b rest t { s with
        wheel := (((s.wheel.setBucket i b rest).logCheck t).removeTimer t.id).logCall t
        phase := .callback left i b
        fired := ⟨s.now, s.wheel.debugTickCounts, t.id⟩ :: s.fired }

theorem expiry (s : WheelMachine) (left i b : Nat) (rest : List Int) (t : Timer) :
    Expiry s left i b rest t (s.expireFront left i b rest t) := by
  by_cases hundo : 0 < t.undoTickCounts
  · have hfront : s.expireFront left i b rest t = { s with
        wheel := (s.wheel.setBucket i b rest).place t t.undoTickCounts
        phase := .draining left i b } := by
      simp [expireFront, expire, hundo]
    rw [hfront]
    exact .undone hundo
  have hnone : t.undoTickCounts ≤ 0 := Int.not_lt.mp hundo
  cases hearly : s.now.lt t.expireTimestamp with
  | true =>
    have hfront : s.expireFront left i b rest t = { s with
        wheel := ((s.wheel.setBucket i b rest).logCheck t).place { t with undoTickCounts := 1 } 1
        phase := .draining left i b } := by
      simp [expireFront, expire, hundo, hearly]
    rw [hfront]
    exact .early hnone hearly
  | false =>
    by_cases hforever : t.callTimes < 0
    · have hfront : s.expireFront left i b rest t = { s with
          wheel := (((s.wheel.setBucket i b rest).logCheck t).place t t.expireTickCounts).logCall t
          phase := .callback left i b
          fired := ⟨s.now, s.wheel.debugTickCounts, t.id⟩ :: s.fired } := by
        simp [expireFront, expire, hundo, hearly, hforever]
      rw [hfront]
      exact .again t hnone hearly (Or.inl ⟨hforever, rfl⟩)
    · by_cases hagain : 1 < t.callTimes
      · have hfront : s.expireFront left i b rest t = { s with
            wheel := (((s.wheel.setBucket i b rest).logCheck t).place
              { t with callTimes := t.callTimes - 1 } t.expireTickCounts).logCall t
            phase := .callback left i b
            fired := ⟨s.now, s.wheel.debugTickCounts, t.id⟩ :: s.fired } := by
          simp [expireFront, expire, hundo, hearly, hforever, hagain]
        rw [hfront]
        exact .again _ hnone hearly (Or.inr ⟨hagain, rfl⟩)
      · have hfront : s.expireFront left i b rest t = { s with
            wheel := (((s.wheel.setBucket i b rest).logCheck t).removeTimer t.id).logCall t
            phase := .callback left i b
            fired := ⟨s.now, s.wheel.debugTickCounts, t.id⟩ :: s.fired } := by
          simp [expireFront, expire, hundo, hearly, hforever, hagain]
        rw [hfront]
        exact .ended hnone hearly (Int.not_lt.mp hforever) (Int.not_lt.mp hagain)

/-! ## A completed call is a run -/

abbrev Steps : WheelMachine → WheelMachine → Prop := Reaches step (fun _ _ => True)

theorem Steps.trans {a b c : WheelMachine} (hab : Steps a b) (hbc : Steps b c) : Steps a c := by
  induction hbc with
  | refl => exact hab
  | snoc action _ _ hstep ih => exact .snoc action ih trivial hstep

theorem steps_one {s s' : WheelMachine} (a : Action) (h : s.step a = some s') : Steps s s' :=
  .snoc a .refl trivial h

/-- The operations of a callback, one by one. -/
theorem callback_steps (s : WheelMachine) {left i b : Nat} (hphase : s.phase = .callback left i b)
    (ops : List TimerOp) : ∃ s', Steps s s' ∧ s'.wheel = ops.foldl TimingWheel.apply s.wheel ∧
      s'.phase = .callback left i b ∧ s'.now = s.now := by
  induction ops generalizing s with
  | nil => exact ⟨s, .refl, rfl, hphase, rfl⟩
  | cons o ops ih =>
    have hstep : s.step (.op o) =
        some { s with wheel := s.wheel.apply o, latest := TimerOp.latest s.latest o } := by
      simp [step, hphase, Phase.Outside]
    obtain ⟨s', hsteps, hwheel, hphase', hnow⟩ :=
      ih { s with wheel := s.wheel.apply o, latest := TimerOp.latest s.latest o } hphase
    exact ⟨s', (steps_one _ hstep).trans hsteps, hwheel, hphase', hnow⟩

/-- One round of the drain loop, its callback included. -/
theorem visit_steps (s : WheelMachine) {left i b : Nat} (hphase : s.phase = .draining left i b)
    {id : Int} {rest : List Int} {t : Timer}
    (hbucket : (s.wheel.wheels i).buckets b = id :: rest) (ht : s.wheel.timers id = some t)
    (cbs : Callbacks) : ∃ s', Steps s s' ∧
      s'.wheel = (s.wheel.setBucket i b rest).visit cbs s.now t ∧
      s'.phase = .draining left i b ∧ s'.now = s.now := by
  have hfront : s.step .next = some (s.expireFront left i b rest t) := by
    simp [step, advance, hphase, hbucket, ht]
  by_cases hcalled : ((s.wheel.setBucket i b rest).expire s.now t).2 = true
  · have hcallback : (s.expireFront left i b rest t).phase = .callback left i b := by
      simp [expireFront, hcalled]
    obtain ⟨s', hsteps, hwheel, hphase', hnow⟩ := callback_steps _ hcallback
      (cbs (s.expireFront left i b rest t).wheel.calls)
    have hret : s'.step .ret = some { s' with phase := .draining left i b } := by
      simp [step, hphase']
    refine ⟨{ s' with phase := .draining left i b },
      ((steps_one _ hfront).trans hsteps).trans (steps_one _ hret), ?_, rfl, ?_⟩
    · simp [hwheel, visit_eq, hcalled, expireFront, callback, logCall]
    · simp [hnow, expireFront, hcalled]
  · refine ⟨_, steps_one _ hfront, ?_, ?_, ?_⟩
    · simp [expireFront, visit_eq, hcalled]
    · simp [expireFront, hcalled]
    · simp [expireFront, hcalled]

theorem drain_steps {cbs : Callbacks} {left i b : Nat} (fuel : Nat) {w w' : TimingWheel}
    (s : WheelMachine) (hwheel : s.wheel = w) (hphase : s.phase = .draining left i b)
    (h : w.drain cbs s.now i b fuel = some w') : ∃ s', Steps s s' ∧ s'.wheel = w' ∧
      s'.phase = .draining left i b ∧ s'.now = s.now ∧ (w'.wheels i).buckets b = [] := by
  induction fuel generalizing w s with
  | zero =>
    unfold TimingWheel.drain at h
    cases hbucket : (w.wheels i).buckets b with
    | nil =>
      simp only [hbucket, Option.some.injEq] at h
      subst h
      exact ⟨s, .refl, hwheel, hphase, rfl, hbucket⟩
    | cons id rest => simp [hbucket] at h
  | succ fuel ih =>
    unfold TimingWheel.drain at h
    cases hbucket : (w.wheels i).buckets b with
    | nil =>
      simp only [hbucket, Option.some.injEq] at h
      subst h
      exact ⟨s, .refl, hwheel, hphase, rfl, hbucket⟩
    | cons id rest =>
      simp only [hbucket] at h
      cases ht : w.timers id with
      | none => simp [ht] at h
      | some t =>
        simp only [ht] at h
        subst hwheel
        obtain ⟨m, hsteps, hm, hphase', hnow⟩ := visit_steps s hphase hbucket ht cbs
        obtain ⟨s', hsteps', hrest⟩ := ih m hm hphase' (by rw [hnow]; exact h)
        exact ⟨s', hsteps.trans hsteps', by simpa [hnow] using hrest⟩

theorem tickFrom_steps {cbs : Callbacks} {left fuel : Nat} (n i : Nat)
    (hin : i + n = kTimingWheelNum) {w w' : TimingWheel} (s : WheelMachine) (hwheel : s.wheel = w)
    (hphase : s.phase = .wheel left i) (h : w.tickFrom cbs s.now fuel n i = some w') :
    ∃ s', Steps s s' ∧ s'.wheel = w' ∧ s'.phase = .ticks left ∧ s'.now = s.now := by
  induction n generalizing i w s with
  | zero =>
    cases h
    have hstep : s.step .next = some { s with phase := .ticks left } := by
      simp [step, advance, hphase, show ¬ i < kTimingWheelNum by omega]
    exact ⟨_, steps_one _ hstep, hwheel, rfl, rfl⟩
  | succ n ih =>
    subst hwheel
    have hi : i < kTimingWheelNum := by omega
    obtain ⟨first, hfirst, hwheel, hphase', hnow⟩ : ∃ first, s.step .next = some first ∧
        first.wheel = s.wheel.setCurrentBucket i
          (((s.wheel.wheels i).currentBucket + 1) % kTimingWheelBucketNum i) ∧
        first.phase = .draining left i (s.wheel.wheels i).currentBucket ∧ first.now = s.now :=
      ⟨{ s with
          wheel := s.wheel.setCurrentBucket i
            (((s.wheel.wheels i).currentBucket + 1) % kTimingWheelBucketNum i)
          phase := .draining left i (s.wheel.wheels i).currentBucket },
        by simp [step, advance, hphase, hi], rfl, rfl, rfl⟩
    unfold TimingWheel.tickFrom at h
    split at h
    · simp at h
    rename_i m hm
    obtain ⟨d, hsteps, hd, hphase', hnow', hempty⟩ :=
      drain_steps fuel first hwheel hphase' (by rw [hnow]; exact hm)
    subst hd
    have hsame : d.now = s.now := hnow'.trans hnow
    have hreached := (steps_one _ hfirst).trans hsteps
    split at h
    · rename_i hstop
      cases h
      have hlast : d.step .next = some { d with phase := .ticks left } := by
        simp [step, advance, hphase', hempty, hstop]
      exact ⟨_, hreached.trans (steps_one _ hlast), rfl, rfl, hsame⟩
    · rename_i hcont
      have hlast : d.step .next = some { d with phase := .wheel left (i + 1) } := by
        simp [step, advance, hphase', hempty, hcont]
      obtain ⟨s', hsteps', hrest⟩ := ih (i + 1) (by omega) { d with phase := .wheel left (i + 1) }
        rfl rfl (by rw [hsame]; exact h)
      refine ⟨s', (hreached.trans (steps_one _ hlast)).trans hsteps', ?_⟩
      simpa [hsame] using hrest

theorem ticks_steps {cbs : Callbacks} {fuel : Nat} (n : Nat) {w w' : TimingWheel}
    (s : WheelMachine) (hwheel : s.wheel = w) (hphase : s.phase = .ticks n)
    (h : w.ticks cbs s.now fuel n = some w') :
    ∃ s', Steps s s' ∧ s'.wheel = w' ∧ s'.phase = .ticks 0 ∧ s'.now = s.now := by
  induction n generalizing w s with
  | zero => cases h; exact ⟨s, .refl, hwheel, hphase, rfl⟩
  | succ n ih =>
    subst hwheel
    unfold TimingWheel.ticks at h
    split at h
    · simp at h
    rename_i m hm
    obtain ⟨first, hfirst, hwheel, hphase', hnow⟩ : ∃ first, s.step .next = some first ∧
        first.wheel = { s.wheel with debugTickCounts := s.wheel.debugTickCounts + 1 } ∧
        first.phase = .wheel n 0 ∧ first.now = s.now :=
      ⟨{ s with
          wheel := { s.wheel with debugTickCounts := s.wheel.debugTickCounts + 1 }
          phase := .wheel n 0 }, by simp [step, advance, hphase], rfl, rfl, rfl⟩
    obtain ⟨d, hsteps, hd, hphase', hnow'⟩ := tickFrom_steps kTimingWheelNum 0 (Nat.zero_add _)
      first hwheel hphase' (by rw [hnow]; exact hm)
    have hsame : d.now = s.now := hnow'.trans hnow
    obtain ⟨s', hsteps', hrest⟩ := ih d hd hphase' (by rw [hsame]; exact h)
    refine ⟨s', ((steps_one _ hfirst).trans hsteps).trans hsteps', ?_⟩
    simpa [hsame] using hrest

/-- A call of `OnExpired` that completes is a run from between calls to between calls. -/
theorem onExpired_reaches {cbs : Callbacks} {now : Timestamp} {fuel : Nat} {w' : TimingWheel}
    (s : WheelMachine) (hphase : s.phase = .idle)
    (h : s.wheel.onExpired cbs now fuel = some w') :
    ∃ s', Steps s s' ∧ s'.wheel = w' ∧ s'.phase = .idle ∧ s'.now = now := by
  have hfirst : s.step (.onExpired now) = some (s.enter now) := by simp [step, hphase]
  unfold TimingWheel.onExpired at h
  dsimp only at h
  split at h
  · simp at h
  rename_i m hm
  cases h
  obtain ⟨d, hsteps, hd, hphase', hnow⟩ := ticks_steps _ (s.enter now) rfl rfl hm
  have hlast : d.step .next =
      some { d with wheel := { d.wheel with timestamp := d.now }, phase := .idle } := by
    simp [step, advance, hphase']
  refine ⟨_, ((steps_one _ hfirst).trans hsteps).trans (steps_one _ hlast), ?_, rfl, hnow⟩
  simp [hd, hnow, enter]

end WheelMachine

end Mysya
