import Mysya.MachineInts
import Mysya.MixedRadix
import Mysya.Timestamp
import Mathlib.Logic.Function.Basic

/-!
# The timing wheel

`ioevent::TimingWheel` with its five wheels. A `Timer` object is named by its
id, which is how the bucket lists and `timers_` refer to it: an id in a bucket
with no entry in `timers` is a pointer to a deleted object.

Draining a bucket is a loop that need not end (a repeating timer whose period
rounds to zero ticks is put back into the bucket being drained), so it carries
fuel, and `Ticked` says that some amount of fuel completes a tick. Callbacks
are arbitrary: `Callbacks` gives the operations the next callback performs
from the list of callbacks run so far.
-/

namespace Mysya

def kTimingWheelNum : Nat := 5

def kTimingWheelBucketNum : Nat → Nat
  | 0 => 256
  | _ => 64

structure Timer where
  id : Int
  expireTimestamp : Timestamp
  expireTickCounts : Int
  callTimes : Int
  undoTickCounts : Int
  wheel : Nat
  bucket : Nat
  deriving DecidableEq, Repr

structure Wheel where
  currentBucket : Nat
  buckets : Nat → List Int

structure TimingWheel where
  tickMs : Int
  undoNsec : Int
  timestamp : Timestamp
  timers : Int → Option Timer
  timerIds : Int
  wheels : Nat → Wheel
  debugTickCounts : Nat
  /-- Ghost: every entry into the zero-undo branch, as (tick, timer id). -/
  checks : List (Nat × Int)
  /-- Ghost: every callback run, as (tick, timer id), the latest first. -/
  calls : List (Nat × Int)

/-- What code outside the wheel may ask of it, a callback included. -/
inductive TimerOp where
  | addTimer (now : Timestamp) (expireMs callTimes : Int32)
  | removeTimer (timerId : Int)
  deriving DecidableEq

abbrev Callbacks := List (Nat × Int) → List TimerOp

namespace TimingWheel

def init (tickMs : Int) : TimingWheel where
  tickMs := tickMs
  undoNsec := 0
  timestamp := ⟨0, 0⟩
  timers := fun _ => none
  timerIds := 0
  wheels := fun _ => ⟨0, fun _ => []⟩
  debugTickCounts := 0
  checks := []
  calls := []

def setWheel (s : TimingWheel) (i : Nat) (w : Wheel) : TimingWheel :=
  { s with wheels := Function.update s.wheels i w }

def setBucket (s : TimingWheel) (i b : Nat) (ids : List Int) : TimingWheel :=
  s.setWheel i { s.wheels i with buckets := Function.update (s.wheels i).buckets b ids }

def setCurrentBucket (s : TimingWheel) (i b : Nat) : TimingWheel :=
  s.setWheel i { s.wheels i with currentBucket := b }

@[simp] theorem setBucket_timers (s : TimingWheel) (i b : Nat) (ids : List Int) :
    (s.setBucket i b ids).timers = s.timers := rfl

@[simp] theorem setBucket_timerIds (s : TimingWheel) (i b : Nat) (ids : List Int) :
    (s.setBucket i b ids).timerIds = s.timerIds := rfl

@[simp] theorem setBucket_debugTickCounts (s : TimingWheel) (i b : Nat) (ids : List Int) :
    (s.setBucket i b ids).debugTickCounts = s.debugTickCounts := rfl

@[simp] theorem setBucket_checks (s : TimingWheel) (i b : Nat) (ids : List Int) :
    (s.setBucket i b ids).checks = s.checks := rfl

@[simp] theorem setBucket_tickMs (s : TimingWheel) (i b : Nat) (ids : List Int) :
    (s.setBucket i b ids).tickMs = s.tickMs := rfl

@[simp] theorem setBucket_currentBucket (s : TimingWheel) (i b k : Nat) (ids : List Int) :
    ((s.setBucket i b ids).wheels k).currentBucket = (s.wheels k).currentBucket := by
  by_cases h : k = i
  · subst h; simp [setBucket, setWheel]
  · simp [setBucket, setWheel, h]

theorem setBucket_buckets (s : TimingWheel) (i b k c : Nat) (ids : List Int) :
    ((s.setBucket i b ids).wheels k).buckets c =
      if k = i ∧ c = b then ids else (s.wheels k).buckets c := by
  by_cases hk : k = i
  · subst hk
    by_cases hc : c = b
    · subst hc; simp [setBucket, setWheel]
    · simp [setBucket, setWheel, hc]
  · simp [setBucket, setWheel, hk]

/-- Write a `Timer` object back to the memory its id names. -/
def store (s : TimingWheel) (t : Timer) : TimingWheel :=
  { s with timers := Function.update s.timers t.id (some t) }

/-- `Wheel::AddTimer` of wheel `i`. -/
def wheelAddTimer (s : TimingWheel) (i : Nat) (t : Timer) (tickCounts : Nat) :
    TimingWheel × Timer :=
  let wheelStepTickCounts := MixedRadix.weight kTimingWheelBucketNum i
  let bucket := (tickCounts / wheelStepTickCounts + (s.wheels i).currentBucket) %
    kTimingWheelBucketNum i
  let bucket := if 0 < bucket then bucket - 1 else kTimingWheelBucketNum i - 1
  (s.setBucket i bucket ((s.wheels i).buckets bucket ++ [t.id]), { t with bucket := bucket })

/-- The loop of `AddWheel` from wheel `i` on, with `n` wheels left to try. -/
def addWheelFrom (s : TimingWheel) (t : Timer) (expireTickCounts : Int) :
    (n i : Nat) → (undo maxTicks step : Int) → TimingWheel × Timer
  | 0, _, undo, _, step =>
    (s, { t with undoTickCounts := undo + expireTickCounts.tmod step })
  | n + 1, i, undo, maxTicks, step =>
    let maxTicks := maxTicks * kTimingWheelBucketNum i
    if expireTickCounts < maxTicks then
      let (s, t) := s.wheelAddTimer i t (toSizeT expireTickCounts)
      (s, { t with wheel := i, undoTickCounts := undo + expireTickCounts.tmod step })
    else
      addWheelFrom s t expireTickCounts n (i + 1)
        (undo + (s.wheels i).currentBucket * step) maxTicks maxTicks

/-- `TimingWheel::AddWheel`: the new wheels, and the timer with its place written in. -/
def addWheel (s : TimingWheel) (t : Timer) (expireTickCounts : Int) : TimingWheel × Timer :=
  s.addWheelFrom t expireTickCounts kTimingWheelNum 0 0 1 1

/-- `AddWheel` on a timer object already in memory. -/
def place (s : TimingWheel) (t : Timer) (expireTickCounts : Int) : TimingWheel :=
  let (s, t) := s.addWheel t expireTickCounts
  s.store t

/-- The period of `AddTimer` in ticks, rounded up. -/
def expireTickCounts (tickMs expireMs : Int) : Int :=
  if expireMs.tmod tickMs > 0 then expireMs.tdiv tickMs + 1 else expireMs.tdiv tickMs

/-- `TimingWheel::AddTimer`; the id is the result, `-1` on failure. -/
def addTimer (s : TimingWheel) (now : Timestamp) (expireMs callTimes : Int) :
    TimingWheel × Int :=
  let n := expireTickCounts s.tickMs expireMs
  let timerId := s.timerIds + 1
  let s := { s with timerIds := timerId }
  if timerId ≤ 0 then (s, -1)
  else if (s.timers timerId).isSome then (s, -1)
  else
    let (s, timer) := s.addWheel ⟨timerId, now.add expireMs, n, callTimes, 0, 0, 0⟩ n
    (s.store timer, timerId)

/-- `RemoveWheel`, by way of `Wheel::RemoveTimer`: the first entry with the id goes. -/
def removeWheel (s : TimingWheel) (t : Timer) : TimingWheel :=
  if t.wheel < kTimingWheelNum then
    s.setBucket t.wheel t.bucket (((s.wheels t.wheel).buckets t.bucket).erase t.id)
  else s

/-- `TimingWheel::RemoveTimer`. -/
def removeTimer (s : TimingWheel) (timerId : Int) : TimingWheel :=
  match s.timers timerId with
  | none => s
  | some t =>
    let s := s.removeWheel t
    { s with timers := Function.update s.timers timerId none }

def apply (s : TimingWheel) : TimerOp → TimingWheel
  | .addTimer now expireMs callTimes => (s.addTimer now expireMs.toInt callTimes.toInt).1
  | .removeTimer timerId => s.removeTimer timerId

/-- Run the callback of a timer. -/
def callback (cbs : Callbacks) (s : TimingWheel) (timerId : Int) : TimingWheel :=
  let s := { s with calls := (s.debugTickCounts, timerId) :: s.calls }
  (cbs s.calls).foldl apply s

/-- The body of the loop of `Wheel::OnExpired`, on a timer just taken off its bucket. -/
def visit (cbs : Callbacks) (now : Timestamp) (s : TimingWheel) (t : Timer) : TimingWheel :=
  if t.undoTickCounts > 0 then
    s.place t t.undoTickCounts
  else
    let s := { s with checks := s.checks ++ [(s.debugTickCounts, t.id)] }
    if now.lt t.expireTimestamp then
      s.place { t with undoTickCounts := 1 } 1
    else
      let s :=
        if t.callTimes < 0 then s.place t t.expireTickCounts
        else if t.callTimes - 1 > 0 then
          s.place { t with callTimes := t.callTimes - 1 } t.expireTickCounts
        else s.removeTimer t.id
      s.callback cbs t.id

/-- Empty bucket `b` of wheel `i`. It fails on a dangling pointer and when the fuel runs out. -/
def drain (cbs : Callbacks) (now : Timestamp) (i b : Nat) : Nat → TimingWheel → Option TimingWheel
  | fuel, s =>
    match (s.wheels i).buckets b, fuel with
    | [], _ => some s
    | _ :: _, 0 => none
    | id :: rest, fuel + 1 =>
      match s.timers id with
      | none => none
      | some t => drain cbs now i b fuel ((s.setBucket i b rest).visit cbs now t)

/-- `Wheel::OnExpired` of wheel `i`; its result is the wheel's current bucket afterwards. -/
def wheelOnExpired (cbs : Callbacks) (now : Timestamp) (fuel i : Nat) (s : TimingWheel) :
    Option TimingWheel :=
  let bucket := (s.wheels i).currentBucket
  (s.setCurrentBucket i ((bucket + 1) % kTimingWheelBucketNum i)).drain cbs now i bucket fuel

/-- The `for` loop of one tick, from wheel `i` on with `n` wheels left. -/
def tickFrom (cbs : Callbacks) (now : Timestamp) (fuel : Nat) :
    (n i : Nat) → TimingWheel → Option TimingWheel
  | 0, _, s => some s
  | n + 1, i, s =>
    match s.wheelOnExpired cbs now fuel i with
    | none => none
    | some s =>
      if (s.wheels i).currentBucket > 0 then some s
      else tickFrom cbs now fuel n (i + 1) s

/-- One round of the `while` loop of `TimingWheel::OnExpired`. -/
def tick (cbs : Callbacks) (now : Timestamp) (fuel : Nat) (s : TimingWheel) :
    Option TimingWheel :=
  tickFrom cbs now fuel kTimingWheelNum 0 { s with debugTickCounts := s.debugTickCounts + 1 }

def ticks (cbs : Callbacks) (now : Timestamp) (fuel : Nat) : Nat → TimingWheel → Option TimingWheel
  | 0, s => some s
  | n + 1, s =>
    match s.tick cbs now fuel with
    | none => none
    | some s => ticks cbs now fuel n s

/-- `TimingWheel::OnExpired`: the elapsed nanoseconds as whole ticks, and those ticks. -/
def onExpired (cbs : Callbacks) (nowTimestamp : Timestamp) (fuel : Nat) (s : TimingWheel) :
    Option TimingWheel :=
  let tickNs := toInt32 (s.tickMs * 1000000)
  let distanceNs := nowTimestamp.distanceNanoSecond s.timestamp
  let undoNsec := toInt32 (s.undoNsec + distanceNs)
  let undoTickCounts := undoNsec.tdiv tickNs
  match { s with undoNsec := undoNsec.tmod tickNs }.ticks cbs nowTimestamp fuel
      undoTickCounts.toNat with
  | none => none
  | some s => some { s with timestamp := nowTimestamp }

/-- A completed tick: some amount of fuel carries it to its end. -/
def Ticked (cbs : Callbacks) (now : Timestamp) (s s' : TimingWheel) : Prop :=
  ∃ fuel, s.tick cbs now fuel = some s'

end TimingWheel

end Mysya
