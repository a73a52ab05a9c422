import Mathlib.Logic.Function.Basic

/-!
# Timers and what they call

The timing wheel as those see it who start and stop timers: ids only grow, and a timer
stays armed until it is stopped or has no call left. Which armed timer expires next is
left open. Who has a field for the id of a timer owns the timers that call it.
-/

namespace OwnedTimers

structure Timer (τ : Type) where
  callback : τ
  expireMs : Int
  /-- Negative for a timer that never ends. -/
  callTimes : Int

structure Timers (τ : Type) where
  ids : Int
  armed : Int → Option (Timer τ)

namespace Timers

variable {τ : Type}

/-- No timer yet; the first id is 1. -/
def none : Timers τ where
  ids := 0
  armed := fun _ => Option.none

def start (t : Timers τ) (expireMs : Int) (callback : τ) (callTimes : Int) : Int × Timers τ :=
  (t.ids + 1,
    { ids := t.ids + 1
      armed := Function.update t.armed (t.ids + 1) (some ⟨callback, expireMs, callTimes⟩) })

def stop (t : Timers τ) (id : Int) : Timers τ :=
  { t with armed := Function.update t.armed id Option.none }

/-- What is left armed of a timer when it calls back. -/
def Timer.again (timer : Timer τ) : Option (Timer τ) :=
  if timer.callTimes < 0 then some timer
  else if 0 < timer.callTimes - 1 then some { timer with callTimes := timer.callTimes - 1 }
  else Option.none

/-- The callback of an expired timer, and the timers as it finds them. -/
def expire (t : Timers τ) (id : Int) : Option (τ × Timers τ) :=
  (t.armed id).map fun timer =>
    (timer.callback, { t with armed := Function.update t.armed id (Timer.again timer) })

end Timers

end OwnedTimers
