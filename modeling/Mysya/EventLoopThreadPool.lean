import Mysya.FairRuns
import Mysya.WakeupLoop
import Mathlib.Order.RelClasses
import Mathlib.Tactic.IntervalCases

/-!
# Quitting a pool of event loops

`qservice::EventLoopThreadPool` from the moment its constructor has started the
threads: each runs `Loop` once, and `Quit` goes through them with `Wakeup`,
`EventLoop::Quit` and `Join`. Any thread may call `EventLoop::Quit` as well.
`Loop` sets `quit_` to false when it begins and looks at it only between two
rounds, so a `Quit` counts if it comes after the one and is followed by the
other. `quitAt` records how many rounds a loop had begun when it was first told
to quit. Every `EventLoop` owns a `TimingWheel` of 10 ms whose timerfd is in its
epoll instance, so that no `epoll_wait` lasts: `expired` tells whether the timer
of a loop has expired since its `epoll_wait` last returned.
-/

namespace Mysya

open GuardedRuns

namespace LoopPoint

variable {Callback : Type*}

def isReturned : LoopPoint Callback → Bool
  | .returned => true
  | _ => false

/-- How far the thread is from the condition of the loop, or from what it finds there. -/
def rank : LoopPoint Callback → Nat × Nat
  | .before => (4, 0)
  | .waiting => (3, 0)
  | .handling others wakeup => (2, others + wakeup.toNat)
  | .calling cbs => (1, 2 * cbs.length + 1)
  | .running cbs => (1, 2 * cbs.length + 2)
  | .testing => (0, 1)
  | .returned => (0, 0)

end LoopPoint

namespace WakeupLoop

variable {Callback : Type*}

/-- The loop has been told to quit and will look at it. -/
structure Leaving (s : WakeupLoop Callback) : Prop where
  quit : s.quit = true
  entered : s.point ≠ .before

@[simp] theorem writeEventfd_quit (s : WakeupLoop Callback) : s.writeEventfd.quit = s.quit := by
  unfold writeEventfd
  split
  · rfl
  · rfl

@[simp] theorem writeEventfd_rounds (s : WakeupLoop Callback) :
    s.writeEventfd.rounds = s.rounds := by
  unfold writeEventfd
  split
  · rfl
  · rfl

theorem Leaving.write {s : WakeupLoop Callback} (h : Leaving s) (pushing : Pusher → Bool) :
    Leaving { s.writeEventfd with pushing := pushing } := by
  refine ⟨?_, ?_⟩
  · simpa using h.quit
  · simpa using h.entered

/-- An action of the thread that runs the loop, as far as it goes on in `Loop`. -/
def Action.advances : Action Callback → Bool
  | .push _ _ => false
  | .pushWakeup _ => false
  | .wakeup => false
  | .quit => false
  | _ => true

/-- What a step of the thread does to a loop that is leaving. -/
theorem Leaving.advance {s s' : WakeupLoop Callback} {a : Action Callback} (h : Leaving s)
    (hreturned : a = .enter → s.point ≠ .returned) (hstep : s.advance a = some s') :
    Leaving s' ∧ s'.rounds = s.rounds ∧
      Prod.Lex (· < ·) (· < ·) s'.point.rank s.point.rank := by
  obtain ⟨hquit, hentered⟩ := h
  cases a with
  | enter =>
    simp only [WakeupLoop.advance] at hstep
    split at hstep
    · exact absurd ‹_› hentered
    · exact absurd ‹_› (hreturned rfl)
    · cases hstep
  | test =>
    simp only [WakeupLoop.advance] at hstep
    split at hstep
    · rename_i hpoint
      simp only [hquit, if_true] at hstep
      cases hstep
      refine ⟨⟨rfl, by simp⟩, rfl, ?_⟩
      simp [hpoint, LoopPoint.rank, Prod.lex_def]
    · cases hstep
  | wait others wakeup =>
    simp only [WakeupLoop.advance] at hstep
    split at hstep
    · rename_i hpoint
      split at hstep
      · cases hstep
        refine ⟨⟨hquit, by simp⟩, rfl, ?_⟩
        simp [hpoint, LoopPoint.rank, Prod.lex_def]
      · cases hstep
    · cases hstep
  | call =>
    simp only [WakeupLoop.advance] at hstep
    split at hstep
    · rename_i hpoint
      cases hstep
      refine ⟨⟨hquit, by simp⟩, rfl, ?_⟩
      simp only [hpoint, LoopPoint.rank, List.length_cons]
      exact Prod.Lex.right _ (by omega)
    · cases hstep
  | handle | onWakeupRead | ret | finish | swap | interrupted | failed =>
    simp only [WakeupLoop.advance] at hstep
    split at hstep
    · rename_i hpoint
      cases hstep
      refine ⟨⟨hquit, by simp⟩, rfl, ?_⟩
      simp [hpoint, LoopPoint.rank, Prod.lex_def]
    · cases hstep
  | push | pushWakeup | wakeup | quit => cases hstep

/-- A step of the loop's thread is one of `Loop`, and the others leave it where it is. -/
theorem step_point {s s' : WakeupLoop Callback} {a : Action Callback}
    (hstep : s.step a = some s') :
    a.advances = true ∧ s.advance a = some s' ∨ a.advances = false ∧ s'.point = s.point := by
  rcases step_cases hstep with hadvance | ⟨_, _, rfl, rfl⟩ | ⟨_, ha, rfl⟩ | ⟨rfl, rfl⟩
  · left
    cases a with
    | push | pushWakeup | wakeup | quit => cases hadvance
    | _ => exact ⟨rfl, hadvance⟩
  · exact Or.inr ⟨rfl, rfl⟩
  · refine Or.inr ⟨?_, writeEventfd_point s⟩
    rcases ha with ⟨_, rfl⟩ | rfl
    · rfl
    · rfl
  · exact Or.inr ⟨rfl, rfl⟩

/-- A loop that is leaving does so, and begins no round. -/
theorem Leaving.step {s s' : WakeupLoop Callback} {a : Action Callback} (h : Leaving s)
    (hreturned : a = .enter → s.point ≠ .returned) (hstep : s.step a = some s') :
    Leaving s' ∧ s'.rounds = s.rounds := by
  rcases step_cases hstep with hadvance | ⟨_, _, _, rfl⟩ | ⟨pushing, _, rfl⟩ | ⟨_, rfl⟩
  · obtain ⟨hleaving, hrounds, _⟩ := h.advance hreturned hadvance
    exact ⟨hleaving, hrounds⟩
  · exact ⟨⟨h.quit, h.entered⟩, rfl⟩
  · exact ⟨h.write pushing, writeEventfd_rounds s⟩
  · exact ⟨⟨rfl, h.entered⟩, rfl⟩

/-- A thread that has come out of `Loop` stays out of it. -/
theorem returned_stays {s s' : WakeupLoop Callback} {a : Action Callback}
    (hpoint : s.point = .returned) (ha : a ≠ .enter) (hstep : s.step a = some s') :
    s'.point = .returned := by
  rcases step_point hstep with ⟨hadvances, hadvance⟩ | ⟨_, hsame⟩
  · cases a with
    | enter => exact absurd rfl ha
    | push | pushWakeup | wakeup | quit => cases hadvances
    | _ => simp [WakeupLoop.advance, hpoint] at hadvance
  · exact hsame.trans hpoint

/-- The loop will see a `Quit` that is called now: it is past the line that sets `quit_` to
false. -/
def Heeding (s : WakeupLoop Callback) : Prop := s.point ≠ .before

theorem Heeding.leaving {s : WakeupLoop Callback} (h : Heeding s) :
    Leaving { s with quit := true } :=
  ⟨rfl, h⟩

/-- Otherwise `Loop` undoes the `Quit` and begins a round. -/
theorem unheeded {s : WakeupLoop Callback} (h : ¬s.Heeding) (hpushing : s.pushing .loop = false) :
    ∃ s', run step [.quit, .enter, .test] s = some s' ∧ s'.rounds = s.rounds + 1 := by
  have hbefore : s.point = .before := not_not.mp h
  simp [run, WakeupLoop.step, WakeupLoop.advance, hpushing, hbefore]

end WakeupLoop

inductive QuitPoint where
  | wakeup
  | quit
  | join
  deriving DecidableEq, Repr

/-- `quitting` is where a call of `Quit` has got to. -/
structure EventLoopThreadPool (Callback : Type*) where
  threads : Nat → WakeupLoop Callback
  expired : Nat → Bool
  threadNum : Nat
  quit : Bool
  quitting : Option (Nat × QuitPoint)
  quitAt : Nat → Option Nat

namespace EventLoopThreadPool

variable {Callback : Type*}

inductive Action (Callback : Type*) where
  | thread (i : Nat) (a : WakeupLoop.Action Callback)
  | expire (i : Nat)
  | callQuit
  | nextQuit
  deriving DecidableEq, Repr

def init (threadNum : Nat) : EventLoopThreadPool Callback where
  threads := fun _ => .init
  expired := fun _ => false
  threadNum := threadNum
  quit := false
  quitting := none
  quitAt := fun _ => none

def setThread (p : EventLoopThreadPool Callback) (i : Nat) (loop : WakeupLoop Callback) :
    EventLoopThreadPool Callback :=
  { p with threads := Function.update p.threads i loop }

/-- `EventLoop::Quit` of a thread's loop has been called. -/
def recordQuit (p : EventLoopThreadPool Callback) (i : Nat) : EventLoopThreadPool Callback :=
  let rounds := (p.quitAt i).getD (p.threads i).rounds
  { p with quitAt := Function.update p.quitAt i (some rounds) }

/-- A thread runs `Loop` once, and the event of its timer is one of those of other channels. -/
def stepThread (p : EventLoopThreadPool Callback) (i : Nat) :
    WakeupLoop.Action Callback → Option (EventLoopThreadPool Callback)
  | .enter =>
    if (p.threads i).point.isReturned then none
    else ((p.threads i).step .enter).map (p.setThread i)
  | .quit => ((p.threads i).step .quit).map ((p.recordQuit i).setThread i)
  | .wait others wakeup =>
    if p.expired i = true ∧ others = 0 then none
    else ((p.threads i).step (.wait others wakeup)).map fun loop =>
      { p.setThread i loop with expired := Function.update p.expired i false }
  | a => ((p.threads i).step a).map (p.setThread i)

def step (p : EventLoopThreadPool Callback) :
    Action Callback → Option (EventLoopThreadPool Callback)
  | .thread i a => if i < p.threadNum then p.stepThread i a else none
  | .expire i => some { p with expired := Function.update p.expired i true }
  | .callQuit =>
    match p.quitting with
    | some _ => none
    | none => some (if p.quit then p else { p with quitting := some (0, .wakeup) })
  | .nextQuit =>
    match p.quitting with
    | none => none
    | some (i, point) =>
      if i < p.threadNum then
        match point with
        | .wakeup => some { p.setThread i (p.threads i).writeEventfd with
            quitting := some (i, .quit) }
        | .quit => some { (p.recordQuit i).setThread i { p.threads i with quit := true } with
            quitting := some (i, .join) }
        | .join =>
          if (p.threads i).point.isReturned then some { p with quitting := some (i + 1, .wakeup) }
          else none
      else some { p with quit := true, quitting := none }

/-- The loop that an action tells to quit. -/
def quitOf (p : EventLoopThreadPool Callback) : Action Callback → Option Nat
  | .thread i .quit => some i
  | .nextQuit =>
    match p.quitting with
    | some (i, .quit) => some i
    | _ => none
  | _ => none

/-- A loop is told to quit only when it will see it. -/
def Prompt (p : EventLoopThreadPool Callback) (a : Action Callback) : Prop :=
  ∀ i, p.quitOf a = some i → (p.threads i).Heeding

/-! ## What one step does to the loops -/

/-- A step of a thread's loop, with the record of its `Quit`. -/
structure ThreadStep (p p' : EventLoopThreadPool Callback) (i : Nat)
    (b : WakeupLoop.Action Callback) (told : Option Nat) : Prop where
  inPool : i < p.threadNum
  once : b = .enter → (p.threads i).point ≠ .returned
  step : ∃ loop, (p.threads i).step b = some loop ∧
    p'.threads = Function.update p.threads i loop
  quitAt : b = .quit ∧ told = some i ∧ p'.quitAt = (p.recordQuit i).quitAt ∨
    b ≠ .quit ∧ p'.quitAt = p.quitAt

theorem threadStep_of_stepThread {p p' : EventLoopThreadPool Callback} {i : Nat}
    {b : WakeupLoop.Action Callback} (hi : i < p.threadNum) (hstep : p.stepThread i b = some p') :
    ThreadStep p p' i b (p.quitOf (.thread i b)) ∧ p'.threadNum = p.threadNum ∧
      p'.quit = p.quit ∧ p'.quitting = p.quitting := by
  cases b with
  | enter =>
    simp only [stepThread] at hstep
    split at hstep
    · cases hstep
    rename_i hreturned
    obtain ⟨loop, hloop, rfl⟩ := Option.map_eq_some_iff.mp hstep
    refine ⟨⟨hi, ?_, ⟨loop, hloop, rfl⟩, Or.inr ⟨by simp, rfl⟩⟩, rfl, rfl, rfl⟩
    intro _ hpoint
    exact hreturned (by rw [hpoint]; rfl)
  | quit =>
    simp only [stepThread] at hstep
    obtain ⟨loop, hloop, rfl⟩ := Option.map_eq_some_iff.mp hstep
    exact ⟨⟨hi, by simp, ⟨loop, hloop, rfl⟩, Or.inl ⟨rfl, rfl, rfl⟩⟩, rfl, rfl, rfl⟩
  | wait others wakeup =>
    simp only [stepThread] at hstep
    split at hstep
    · cases hstep
    obtain ⟨loop, hloop, rfl⟩ := Option.map_eq_some_iff.mp hstep
    exact ⟨⟨hi, by simp, ⟨loop, hloop, rfl⟩, Or.inr ⟨by simp, rfl⟩⟩, rfl, rfl, rfl⟩
  | _ =>
    simp only [stepThread] at hstep
    obtain ⟨loop, hloop, rfl⟩ := Option.map_eq_some_iff.mp hstep
    exact ⟨⟨hi, by simp, ⟨loop, hloop, rfl⟩, Or.inr ⟨by simp, rfl⟩⟩, rfl, rfl, rfl⟩

theorem thread_cases {p p' : EventLoopThreadPool Callback} {i : Nat}
    {b : WakeupLoop.Action Callback} (hstep : p.step (.thread i b) = some p') :
    ThreadStep p p' i b (p.quitOf (.thread i b)) ∧ p'.threadNum = p.threadNum ∧
      p'.quit = p.quit ∧ p'.quitting = p.quitting := by
  simp only [step] at hstep
  split at hstep
  · exact threadStep_of_stepThread ‹_› hstep
  · cases hstep

theorem expire_cases {p p' : EventLoopThreadPool Callback} {i : Nat}
    (hstep : p.step (.expire i) = some p') :
    p' = { p with expired := Function.update p.expired i true } :=
  (Option.some.inj hstep).symm

/-- Only one caller goes through the threads, and only before they have all been joined. -/
theorem callQuit_cases {p p' : EventLoopThreadPool Callback} (hstep : p.step .callQuit = some p') :
    p.quitting = none ∧ (p.quit = true ∧ p' = p ∨
      p.quit = false ∧ p' = { p with quitting := some (0, .wakeup) }) := by
  simp only [step] at hstep
  split at hstep
  · cases hstep
  rename_i hnone
  refine ⟨hnone, ?_⟩
  cases hquit : p.quit with
  | true =>
    simp only [hquit, if_true, Option.some.injEq] at hstep
    exact Or.inl ⟨rfl, hstep.symm⟩
  | false =>
    simp only [hquit, Bool.false_eq_true, if_false, Option.some.injEq] at hstep
    exact Or.inr ⟨rfl, hquit ▸ hstep.symm⟩

/-- A step of the caller of `Quit`, of where it has got to. -/
theorem nextQuit_cases {p p' : EventLoopThreadPool Callback} (hstep : p.step .nextQuit = some p') :
    p'.threadNum = p.threadNum ∧ ∃ i point, p.quitting = some (i, point) ∧
    (p.threadNum ≤ i ∧ p'.threads = p.threads ∧ p'.quitAt = p.quitAt ∧ p'.quit = true ∧
        p'.quitting = none ∨
      i < p.threadNum ∧ p'.quit = p.quit ∧
      (point = .wakeup ∧ ThreadStep p p' i .wakeup none ∧ p'.quitting = some (i, .quit) ∨
      point = .quit ∧ ThreadStep p p' i .quit (some i) ∧ p'.quitting = some (i, .join) ∨
      point = .join ∧ (p.threads i).point = .returned ∧ p'.threads = p.threads ∧
        p'.quitAt = p.quitAt ∧ p'.quitting = some (i + 1, .wakeup))) := by
  simp only [step] at hstep
  split at hstep
  · cases hstep
  rename_i i point hquitting
  split at hstep
  · rename_i hi
    cases point with
    | wakeup =>
      cases hstep
      refine ⟨rfl, i, _, hquitting, Or.inr ⟨hi, rfl, Or.inl ⟨rfl, ?_, rfl⟩⟩⟩
      exact ⟨hi, by simp, ⟨_, rfl, rfl⟩, Or.inr ⟨by simp, rfl⟩⟩
    | quit =>
      cases hstep
      refine ⟨rfl, i, _, hquitting, Or.inr ⟨hi, rfl, Or.inr (Or.inl ⟨rfl, ?_, rfl⟩)⟩⟩
      exact ⟨hi, by simp, ⟨_, rfl, rfl⟩, Or.inl ⟨rfl, rfl, rfl⟩⟩
    | join =>
      dsimp only at hstep
      split at hstep
      · rename_i hreturned
        cases hstep
        refine ⟨rfl, i, _, hquitting, Or.inr ⟨hi, rfl, Or.inr (Or.inr ⟨rfl, ?_, rfl, rfl, rfl⟩)⟩⟩
        cases hpoint : (p.threads i).point with
        | returned => rfl
        | _ =>
          rw [hpoint] at hreturned
          cases hreturned
      · cases hstep
  · rename_i hi
    cases hstep
    exact ⟨rfl, i, point, hquitting, Or.inl ⟨Nat.le_of_not_lt hi, rfl, rfl, rfl, rfl⟩⟩

theorem expired_nextQuit {p p' : EventLoopThreadPool Callback}
    (hstep : p.step .nextQuit = some p') : p'.expired = p.expired := by
  simp only [step] at hstep
  split at hstep
  · cases hstep
  rename_i i point _
  split at hstep
  · cases point with
    | wakeup | quit =>
      cases hstep
      rfl
    | join =>
      dsimp only at hstep
      split at hstep
      · cases hstep
        rfl
      · cases hstep
  · cases hstep
    rfl

/-- An action leaves the loops as they are, or makes a step of one. -/
theorem step_cases {p p' : EventLoopThreadPool Callback} {a : Action Callback}
    (hstep : p.step a = some p') :
    p'.threadNum = p.threadNum ∧
    ((p'.threads = p.threads ∧ p'.quitAt = p.quitAt ∧ ∀ i b, a ≠ .thread i b) ∨
      ∃ i b, ThreadStep p p' i b (p.quitOf a) ∧
        (a = .thread i b ∨ b.advances = false ∧ ∀ j c, a ≠ .thread j c)) := by
  cases a with
  | thread i b =>
    obtain ⟨hthread, hnum, _, _⟩ := thread_cases hstep
    exact ⟨hnum, Or.inr ⟨i, b, hthread, Or.inl rfl⟩⟩
  | expire i =>
    obtain rfl := expire_cases hstep
    exact ⟨rfl, Or.inl ⟨rfl, rfl, by simp⟩⟩
  | callQuit =>
    obtain ⟨_, ⟨_, rfl⟩ | ⟨_, rfl⟩⟩ := callQuit_cases hstep
    · exact ⟨rfl, Or.inl ⟨rfl, rfl, by simp⟩⟩
    · exact ⟨rfl, Or.inl ⟨rfl, rfl, by simp⟩⟩
  | nextQuit =>
    obtain ⟨hnum, i, point, hquitting, hcases⟩ := nextQuit_cases hstep
    refine ⟨hnum, ?_⟩
    rcases hcases with ⟨_, hthreads, hquitAt, _⟩ | ⟨hi, _, hpoint⟩
    · exact Or.inl ⟨hthreads, hquitAt, by simp⟩
    rcases hpoint with ⟨rfl, hthread, _⟩ | ⟨rfl, hthread, _⟩ | ⟨rfl, _, hthreads, hquitAt, _⟩
    · have hof : p.quitOf .nextQuit = none := by simp [quitOf, hquitting]
      rw [hof]
      exact Or.inr ⟨i, _, hthread, Or.inr ⟨rfl, by simp⟩⟩
    · have hof : p.quitOf .nextQuit = some i := by simp [quitOf, hquitting]
      rw [hof]
      exact Or.inr ⟨i, _, hthread, Or.inr ⟨rfl, by simp⟩⟩
    · exact Or.inl ⟨hthreads, hquitAt, by simp⟩

/-! ## Every step meets the condition -/

/-- A loop that was told to quit is leaving and has begun no round since, and the caller joins
only a thread whose loop was told. -/
structure Kept (p : EventLoopThreadPool Callback) : Prop where
  told : ∀ i q, p.quitAt i = some q →
    i < p.threadNum ∧ (p.threads i).Leaving ∧ (p.threads i).rounds = q
  joining : ∀ i, p.quitting = some (i, .join) → (p.quitAt i).isSome = true

theorem kept_init (threadNum : Nat) : Kept (init threadNum : EventLoopThreadPool Callback) := by
  refine ⟨?_, ?_⟩
  · intro i q h
    cases h
  · intro i h
    cases h

theorem quitAt_stays {p p' : EventLoopThreadPool Callback} {a : Action Callback}
    (hstep : p.step a = some p') {i : Nat} (hi : (p.quitAt i).isSome = true) :
    (p'.quitAt i).isSome = true := by
  obtain ⟨_, ⟨_, hquitAt, _⟩ | ⟨j, b, hthread, _⟩⟩ := step_cases hstep
  · rwa [hquitAt]
  · rcases hthread.quitAt with ⟨_, _, hquitAt⟩ | ⟨_, hquitAt⟩
    · rw [hquitAt]
      by_cases hij : i = j
      · subst hij
        simp [recordQuit]
      · simpa [recordQuit, hij] using hi
    · rwa [hquitAt]

theorem ThreadStep.told {p p' : EventLoopThreadPool Callback} {i : Nat}
    {b : WakeupLoop.Action Callback} {told : Option Nat} (h : ThreadStep p p' i b told)
    (hp : Kept p) (hheeding : told = some i → (p.threads i).Heeding)
    (hnum : p'.threadNum = p.threadNum) (j q : Nat) (hq : p'.quitAt j = some q) :
    j < p'.threadNum ∧ (p'.threads j).Leaving ∧ (p'.threads j).rounds = q := by
  obtain ⟨loop, hloop, hthreads⟩ := h.step
  rw [hnum, hthreads]
  by_cases hji : j = i
  · subst hji
    rw [Function.update_self]
    rcases h.quitAt with ⟨rfl, htold, hquitAt⟩ | ⟨_, hquitAt⟩
    · cases hloop
      refine ⟨h.inPool, (hheeding htold).leaving, ?_⟩
      rw [hquitAt] at hq
      simp only [recordQuit, Function.update_self, Option.some.injEq] at hq
      cases hbefore : p.quitAt j with
      | none => simpa [hbefore] using hq
      | some q' =>
        rw [hbefore] at hq
        exact (hp.told j q' hbefore).2.2.trans hq
    · rw [hquitAt] at hq
      obtain ⟨hin, hleaving, hrounds⟩ := hp.told j q hq
      obtain ⟨hleaving', hrounds'⟩ := hleaving.step h.once hloop
      exact ⟨hin, hleaving', hrounds'.trans hrounds⟩
  · rw [Function.update_of_ne hji]
    apply hp.told j q
    rcases h.quitAt with ⟨_, _, hquitAt⟩ | ⟨_, hquitAt⟩
    · rw [hquitAt] at hq
      simpa [recordQuit, hji] using hq
    · rwa [hquitAt] at hq

theorem Kept.step {p p' : EventLoopThreadPool Callback} {a : Action Callback} (h : Kept p)
    (hprompt : Prompt p a) (hstep : p.step a = some p') : Kept p' := by
  refine ⟨?_, ?_⟩
  · obtain ⟨hnum, ⟨hthreads, hquitAt, _⟩ | ⟨j, b, hthread, _⟩⟩ := step_cases hstep
    · rw [hthreads, hquitAt, hnum]
      exact h.told
    · exact hthread.told h (hprompt j) hnum
  · intro i hquitting
    cases a with
    | thread j b =>
      rw [(thread_cases hstep).2.2.2] at hquitting
      exact quitAt_stays hstep (h.joining i hquitting)
    | expire j =>
      obtain rfl := expire_cases hstep
      exact h.joining i hquitting
    | callQuit =>
      obtain ⟨hnone, ⟨_, rfl⟩ | ⟨_, rfl⟩⟩ := callQuit_cases hstep
      · rw [hnone] at hquitting
        cases hquitting
      · cases hquitting
    | nextQuit =>
      obtain ⟨_, j, point, _, ⟨_, _, _, _, hnone⟩ | ⟨_, _, hcases⟩⟩ := nextQuit_cases hstep
      · rw [hnone] at hquitting
        cases hquitting
      rcases hcases with ⟨_, _, hnext⟩ | ⟨_, hthread, hnext⟩ | ⟨_, _, _, _, hnext⟩
      · rw [hnext] at hquitting
        cases hquitting
      · rw [hnext] at hquitting
        cases hquitting
        rcases hthread.quitAt with ⟨_, _, hquitAt⟩ | ⟨hne, _⟩
        · rw [hquitAt]
          simp [recordQuit]
        · exact absurd rfl hne
      · rw [hnext] at hquitting
        cases hquitting

theorem Reaches.kept {threadNum : Nat} {p : EventLoopThreadPool Callback}
    (h : Reaches step Prompt (init threadNum) p) : Kept p :=
  h.invariant (kept_init threadNum) fun _ _ _ hp hprompt hstep => hp.step hprompt hstep

/-! ## The threads come to an end -/

/-- A step of a thread in `Loop`. -/
def Runs (i : Nat) (a : Action Callback) : Prop := ∃ b, a = .thread i b ∧ b.advances = true

/-- A thread that need not run: its loop has returned, or is in `epoll_wait` with nothing of the
wakeup descriptor or the timer to report. -/
def Rests (p : EventLoopThreadPool Callback) (i : Nat) : Prop :=
  (p.threads i).point = .returned ∨
    (p.threads i).point = .waiting ∧ (p.threads i).pending = false ∧ p.expired i = false

/-- The caller of `Quit` is in a `Join` of a thread that has not returned. -/
def JoinWaits (p : EventLoopThreadPool Callback) : Prop :=
  ∃ i, p.quitting = some (i, .join) ∧ (p.threads i).point ≠ .returned

/-- An infinite run in which a loop is told to quit only when it will see it, and in which the
timers expire again and again and a thread or a caller that can go on does so in time: callbacks
return, and the scheduler forgets nobody. -/
structure FairRun (threadNum : Nat) (state : Nat → EventLoopThreadPool Callback)
    (action : Nat → Action Callback) : Prop where
  start : state 0 = init threadNum
  next : ∀ n, (state n).step (action n) = some (state (n + 1))
  prompt : ∀ n, Prompt (state n) (action n)
  timers : ∀ i, i < threadNum → ∀ n, ∃ m, n ≤ m ∧ action m = .expire i
  threads : ∀ i, i < threadNum → ∀ n, ∃ m, n ≤ m ∧ (Runs i (action m) ∨ Rests (state m) i)
  caller : ∀ n, ∃ m, n ≤ m ∧
    (action m = .nextQuit ∨ (state m).quitting = none ∨ JoinWaits (state m))

section Fair

variable {threadNum : Nat} {state : Nat → EventLoopThreadPool Callback}
  {action : Nat → Action Callback}

theorem FairRun.kept (h : FairRun threadNum state action) (n : Nat) : Kept (state n) := by
  induction n with
  | zero =>
    rw [h.start]
    exact kept_init threadNum
  | succ n ih => exact ih.step (h.prompt n) (h.next n)

theorem FairRun.size (h : FairRun threadNum state action) (n : Nat) :
    (state n).threadNum = threadNum := by
  induction n with
  | zero =>
    rw [h.start]
    rfl
  | succ n ih => exact (step_cases (h.next n)).1.trans ih

/-- What a thread that has been told does in a step of the pool: its own steps bring it nearer to
the end, the others do not move it. -/
theorem Kept.rank {p p' : EventLoopThreadPool Callback} {a : Action Callback} {i : Nat}
    (hp : Kept p) (hi : (p.quitAt i).isSome = true) (hstep : p.step a = some p') :
    (Runs i a → Prod.Lex (· < ·) (· < ·) (p'.threads i).point.rank (p.threads i).point.rank) ∧
      (¬Runs i a → (p'.threads i).point.rank = (p.threads i).point.rank) := by
  obtain ⟨q, hq⟩ := Option.isSome_iff_exists.mp hi
  obtain ⟨_, hleaving, _⟩ := hp.told i q hq
  obtain ⟨_, ⟨hthreads, _, hne⟩ | ⟨j, b, hthread, ha⟩⟩ := step_cases hstep
  · rw [hthreads]
    refine ⟨?_, fun _ => rfl⟩
    rintro ⟨b, rfl, _⟩
    exact absurd rfl (hne i b)
  · obtain ⟨loop, hloop, hthreads⟩ := hthread.step
    rw [hthreads]
    by_cases hij : i = j
    · subst hij
      rw [Function.update_self]
      rcases WakeupLoop.step_point hloop with ⟨hadvances, hadvance⟩ | ⟨hadvances, hsame⟩
      · refine ⟨fun _ => (hleaving.advance hthread.once hadvance).2.2, fun hnot => ?_⟩
        rcases ha with rfl | ⟨hadvances', _⟩
        · exact absurd ⟨b, rfl, hadvances⟩ hnot
        · exact absurd (hadvances.symm.trans hadvances') (by decide)
      · refine ⟨?_, fun _ => by rw [hsame]⟩
        rintro ⟨c, rfl, hc⟩
        rcases ha with ha | ⟨_, hne⟩
        · cases ha
          exact absurd (hadvances.symm.trans hc) (by decide)
        · exact absurd rfl (hne i c)
    · rw [Function.update_of_ne hij]
      refine ⟨?_, fun _ => rfl⟩
      rintro ⟨c, rfl, _⟩
      rcases ha with ha | ⟨_, hne⟩
      · cases ha
        exact absurd rfl hij
      · exact absurd rfl (hne i c)

/-- What a timer has to report is reported to a step of its own thread. -/
theorem expired_stays {p p' : EventLoopThreadPool Callback} {a : Action Callback}
    (hstep : p.step a = some p') {i : Nat} (hidle : ¬Runs i a) (hi : p.expired i = true) :
    p'.expired i = true := by
  cases a with
  | thread j b =>
    simp only [step] at hstep
    split at hstep
    · cases b with
      | wait others wakeup =>
        simp only [stepThread] at hstep
        split at hstep
        · cases hstep
        obtain ⟨loop, _, rfl⟩ := Option.map_eq_some_iff.mp hstep
        have hij : i ≠ j := by
          rintro rfl
          exact hidle ⟨_, rfl, rfl⟩
        exact (Function.update_of_ne hij false p.expired).trans hi
      | enter =>
        simp only [stepThread] at hstep
        split at hstep
        · cases hstep
        obtain ⟨loop, _, rfl⟩ := Option.map_eq_some_iff.mp hstep
        exact hi
      | _ =>
        simp only [stepThread] at hstep
        obtain ⟨loop, _, rfl⟩ := Option.map_eq_some_iff.mp hstep
        exact hi
    · cases hstep
  | expire j =>
    obtain rfl := expire_cases hstep
    by_cases hij : i = j
    · subst hij
      exact Function.update_self i true p.expired
    · exact (Function.update_of_ne hij true p.expired).trans hi
  | callQuit =>
    obtain ⟨_, ⟨_, rfl⟩ | ⟨_, rfl⟩⟩ := callQuit_cases hstep
    · exact hi
    · exact hi
  | nextQuit => rwa [expired_nextQuit hstep]

/-- A thread that does not come out of `Loop` runs again and again: its timer ends every
`epoll_wait`. -/
theorem FairRun.runs (h : FairRun threadNum state action) {i : Nat} (hi : i < threadNum) (n : Nat) :
    ∃ m, n ≤ m ∧ (Runs i (action m) ∨ ((state m).threads i).point = .returned) := by
  by_contra hnever
  have hidle : ∀ k, n ≤ k → ¬Runs i (action k) := fun k hk hruns => hnever ⟨k, hk, Or.inl hruns⟩
  obtain ⟨m, hnm, hexpire⟩ := h.timers i hi n
  have hexpired : (state (m + 1)).expired i = true := by
    have hstep := h.next m
    rw [hexpire] at hstep
    rw [expire_cases hstep]
    exact Function.update_self i true (state m).expired
  obtain ⟨k, hmk, hruns | hreturned | ⟨_, _, hquiet⟩⟩ := h.threads i hi (m + 1)
  · exact hidle k (by omega) hruns
  · exact hnever ⟨k, by omega, Or.inr hreturned⟩
  · have hstays : ∀ d, (state (m + 1 + d)).expired i = true := by
      intro d
      induction d with
      | zero => exact hexpired
      | succ d ih => exact expired_stays (h.next (m + 1 + d)) (hidle _ (by omega)) ih
    obtain ⟨d, rfl⟩ := Nat.exists_eq_add_of_le hmk
    exact absurd (hquiet.symm.trans (hstays d)) (by decide)

/-- Once its loop has been told to quit, a thread comes out of `Loop`. -/
theorem FairRun.returns (h : FairRun threadNum state action) (i n : Nat)
    (hn : ((state n).quitAt i).isSome = true) :
    ∃ m, n ≤ m ∧ ((state m).threads i).point = .returned := by
  have wf : WellFounded (Prod.Lex (· < ·) (· < ·) : Nat × Nat → Nat × Nat → Prop) :=
    WellFounded.prod_lex Nat.lt_wfRel.wf Nat.lt_wfRel.wf
  refine FairRuns.eventually state action wf (fun p => (p.threads i).point.rank)
    (fun p => (p.quitAt i).isSome = true) (fun p => (p.threads i).point = .returned) (Runs i)
    ?_ ?_ ?_ ?_ n hn
  · intro n hn
    obtain ⟨q, hq⟩ := Option.isSome_iff_exists.mp hn
    have hi : i < threadNum := by
      rw [← h.size n]
      exact ((h.kept n).told i q hq).1
    exact h.runs hi n
  · exact fun n hn => quitAt_stays (h.next n) hn
  · exact fun n hn _ hown => ((h.kept n).rank hn (h.next n)).1 hown
  · exact fun n hn _ hown => ((h.kept n).rank hn (h.next n)).2 hown

theorem point_stays {p p' : EventLoopThreadPool Callback} {a : Action Callback}
    (hstep : p.step a = some p') {i : Nat} (hi : (p.threads i).point = .returned) :
    (p'.threads i).point = .returned := by
  obtain ⟨_, ⟨hthreads, _⟩ | ⟨j, b, hthread, _⟩⟩ := step_cases hstep
  · rwa [hthreads]
  · obtain ⟨loop, hloop, hthreads⟩ := hthread.step
    rw [hthreads]
    by_cases hij : i = j
    · subst hij
      rw [Function.update_self]
      exact WakeupLoop.returned_stays hi (fun henter => hthread.once henter hi) hloop
    · rwa [Function.update_of_ne hij]

/-- How much of the loop of `Quit` is left. -/
def quitRank (p : EventLoopThreadPool Callback) : Nat :=
  match p.quitting with
  | none => 0
  | some (i, .wakeup) => 3 * (p.threadNum - i) + 3
  | some (i, .quit) => 3 * (p.threadNum - i) + 2
  | some (i, .join) => 3 * (p.threadNum - i) + 1

theorem quitting_other {p p' : EventLoopThreadPool Callback} {a : Action Callback}
    (hstep : p.step a = some p') (ha : a ≠ .nextQuit) (hquitting : p.quitting ≠ none) :
    p'.quitting = p.quitting ∧ p'.quit = p.quit := by
  cases a with
  | thread i b =>
    obtain ⟨_, _, hquit, hsame⟩ := thread_cases hstep
    exact ⟨hsame, hquit⟩
  | expire i =>
    obtain rfl := expire_cases hstep
    exact ⟨rfl, rfl⟩
  | callQuit => exact absurd (callQuit_cases hstep).1 hquitting
  | nextQuit => exact absurd rfl ha

theorem quitRank_nextQuit {p p' : EventLoopThreadPool Callback}
    (hstep : p.step .nextQuit = some p') : p'.quitRank < p.quitRank := by
  obtain ⟨hnum, i, point, hquitting, ⟨_, _, _, _, hnone⟩ | ⟨hi, _, hcases⟩⟩ := nextQuit_cases hstep
  · cases point with
    | _ => simp [quitRank, hquitting, hnone]
  rcases hcases with ⟨rfl, _, hnext⟩ | ⟨rfl, _, hnext⟩ | ⟨rfl, _, _, _, hnext⟩
  · simp [quitRank, hquitting, hnext, hnum]
  · simp [quitRank, hquitting, hnext, hnum]
  · simp only [quitRank, hquitting, hnext, hnum]
    omega

/-- A call of `Quit` is under way, or one has come to its end. -/
def Called (p : EventLoopThreadPool Callback) : Prop := p.quitting ≠ none ∨ p.quit = true

theorem called_stays {p p' : EventLoopThreadPool Callback} {a : Action Callback}
    (hstep : p.step a = some p') (h : Called p) : Called p' := by
  cases a with
  | thread i b =>
    obtain ⟨_, _, hquit, hsame⟩ := thread_cases hstep
    unfold Called
    rwa [hsame, hquit]
  | expire i =>
    obtain rfl := expire_cases hstep
    exact h
  | callQuit =>
    obtain ⟨_, ⟨_, rfl⟩ | ⟨_, rfl⟩⟩ := callQuit_cases hstep
    · exact h
    · exact Or.inl (by simp)
  | nextQuit =>
    obtain ⟨_, i, point, _, ⟨_, _, _, hquit, _⟩ | ⟨_, _, hcases⟩⟩ := nextQuit_cases hstep
    · exact Or.inr hquit
    · left
      rcases hcases with ⟨_, _, hnext⟩ | ⟨_, _, hnext⟩ | ⟨_, _, _, _, hnext⟩
      · simp [hnext]
      · simp [hnext]
      · simp [hnext]

/-- Until the caller goes on, it is where it is. -/
theorem FairRun.same_quitting (h : FairRun threadNum state action) {n : Nat}
    (hn : Called (state n)) (hidle : ∀ k, n ≤ k → action k ≠ .nextQuit)
    (hopen : ∀ k, n ≤ k → (state k).quit ≠ true) {m : Nat} (hnm : n ≤ m) :
    (state m).quitting = (state n).quitting := by
  induction hnm with
  | refl => rfl
  | step hk ih =>
    rename_i k
    have hcalled : (state n).quitting ≠ none := hn.resolve_right (hopen n (Nat.le_refl n))
    have hk' : (state k).quitting ≠ none := by rwa [ih]
    exact (quitting_other (h.next k) (hidle k hk) hk').1.trans ih

/-- Every `Join` that is begun returns. -/
theorem FairRun.goes_on (h : FairRun threadNum state action) (n : Nat) (hn : Called (state n)) :
    ∃ m, n ≤ m ∧ (action m = .nextQuit ∨ (state m).quit = true) := by
  by_contra hnever
  have hidle : ∀ k, n ≤ k → action k ≠ .nextQuit :=
    fun k hk ha => hnever ⟨k, hk, Or.inl ha⟩
  have hopen : ∀ k, n ≤ k → (state k).quit ≠ true :=
    fun k hk hq => hnever ⟨k, hk, Or.inr hq⟩
  have hquitting : (state n).quitting ≠ none := hn.resolve_right (hopen n (Nat.le_refl n))
  obtain ⟨m, hnm, ha | hnone | ⟨i, hjoin, _⟩⟩ := h.caller n
  · exact hidle m hnm ha
  · rw [h.same_quitting hn hidle hopen hnm] at hnone
    exact hquitting hnone
  · obtain ⟨k, hmk, hreturned⟩ := h.returns i m ((h.kept m).joining i hjoin)
    obtain ⟨l, hkl, ha | hnone | ⟨j, hjoin', hrunning⟩⟩ := h.caller k
    · exact hidle l (by omega) ha
    · rw [h.same_quitting hn hidle hopen (by omega)] at hnone
      exact hquitting hnone
    · rw [h.same_quitting hn hidle hopen hnm] at hjoin
      rw [h.same_quitting hn hidle hopen (by omega), hjoin] at hjoin'
      cases hjoin'
      exact hrunning (FairRuns.stays state (fun p => (p.threads i).point = .returned)
        (fun k hk => point_stays (h.next k) hk) hkl hreturned)

/-- A call of `Quit` comes to its end: every thread has been joined. -/
theorem FairRun.quits (h : FairRun threadNum state action) (n : Nat) (hn : Called (state n)) :
    ∃ m, n ≤ m ∧ (state m).quit = true := by
  refine FairRuns.eventually state action Nat.lt_wfRel.wf quitRank Called (fun p => p.quit = true)
    (fun a => a = .nextQuit) ?_ ?_ ?_ ?_ n hn
  · exact fun n hn => h.goes_on n hn
  · exact fun n hn => called_stays (h.next n) hn
  · intro n _ _ ha
    have hstep := h.next n
    rw [ha] at hstep
    exact quitRank_nextQuit hstep
  · intro n hn hquit ha
    have hquitting := (quitting_other (h.next n) ha (hn.resolve_right hquit)).1
    simp only [quitRank, hquitting, (step_cases (h.next n)).1]

end Fair

/-- The threads before the one the caller has got to have been joined, and at the end all. -/
structure Joined (p : EventLoopThreadPool Callback) : Prop where
  before : ∀ i point, p.quitting = some (i, point) → ∀ j, j < i → j < p.threadNum →
    (p.threads j).point = .returned
  all : p.quit = true → ∀ j, j < p.threadNum → (p.threads j).point = .returned

theorem joined_init (threadNum : Nat) :
    Joined (init threadNum : EventLoopThreadPool Callback) := by
  refine ⟨?_, ?_⟩
  · intro i point h
    cases h
  · intro h
    cases h

theorem Joined.step {p p' : EventLoopThreadPool Callback} {a : Action Callback} (h : Joined p)
    (hstep : p.step a = some p') : Joined p' := by
  have hnum := (step_cases hstep).1
  have hstays : ∀ j, (p.threads j).point = .returned → (p'.threads j).point = .returned :=
    fun j hj => point_stays hstep hj
  cases a with
  | thread i b =>
    obtain ⟨_, _, hquit, hsame⟩ := thread_cases hstep
    refine ⟨?_, ?_⟩
    · rw [hsame, hnum]
      exact fun i point hquitting j hj hin => hstays j (h.before i point hquitting j hj hin)
    · rw [hquit, hnum]
      exact fun hover j hin => hstays j (h.all hover j hin)
  | expire i =>
    obtain rfl := expire_cases hstep
    exact ⟨h.before, h.all⟩
  | callQuit =>
    obtain ⟨_, ⟨_, rfl⟩ | ⟨_, rfl⟩⟩ := callQuit_cases hstep
    · exact h
    · refine ⟨?_, h.all⟩
      intro i point hquitting j hj _
      cases hquitting
      exact absurd hj (Nat.not_lt_zero j)
  | nextQuit =>
    obtain ⟨_, i, point, hquitting, ⟨hi, _, _, _, hnone⟩ | ⟨_, hquit, hcases⟩⟩ :=
      nextQuit_cases hstep
    · refine ⟨?_, ?_⟩
      · rw [hnone]
        intro k point' hk
        cases hk
      · rw [hnum]
        exact fun _ j hin => hstays j (h.before i point hquitting j (by omega) hin)
    · refine ⟨?_, ?_⟩
      · rw [hnum]
        intro k point' hk j hj hin
        rcases hcases with ⟨_, _, hnext⟩ | ⟨_, _, hnext⟩ | ⟨_, hreturned, _, _, hnext⟩
        · rw [hnext] at hk
          cases hk
          exact hstays j (h.before i point hquitting j hj hin)
        · rw [hnext] at hk
          cases hk
          exact hstays j (h.before i point hquitting j hj hin)
        · rw [hnext] at hk
          cases hk
          by_cases hji : j = i
          · subst hji
            exact hstays j hreturned
          · exact hstays j (h.before i point hquitting j (by omega) hin)
      · rw [hquit, hnum]
        exact fun hover j hin => hstays j (h.all hover j hin)

theorem FairRun.joined {threadNum : Nat} {state : Nat → EventLoopThreadPool Callback}
    {action : Nat → Action Callback} (h : FairRun threadNum state action) (n : Nat) :
    Joined (state n) := by
  induction n with
  | zero =>
    rw [h.start]
    exact joined_init threadNum
  | succ n ih => exact ih.step (h.next n)

/-- If every loop is told to quit only when it is past the first line of `Loop`, then in every
state reached no loop has begun a round since it was told, and in every fair run every thread that
was told returns and a call of `Quit` joins them all. -/
theorem quit_kept (threadNum : Nat) :
    (∀ p : EventLoopThreadPool Callback, Reaches step Prompt (init threadNum) p →
      ∀ i q, p.quitAt i = some q → (p.threads i).rounds = q) ∧
    ∀ (state : Nat → EventLoopThreadPool Callback) (action : Nat → Action Callback),
      FairRun threadNum state action →
        (∀ n i, ((state n).quitAt i).isSome = true →
          ∃ m, n ≤ m ∧ ((state m).threads i).point = .returned) ∧
        ∀ n, (state n).quitting ≠ none → ∃ m, n ≤ m ∧ (state m).quit = true ∧
          ∀ i, i < threadNum → ((state m).threads i).point = .returned := by
  refine ⟨?_, ?_⟩
  · intro p h i q hq
    exact ((Reaches.kept h).told i q hq).2.2
  · intro state action h
    refine ⟨fun n i hn => h.returns i n hn, ?_⟩
    intro n hn
    obtain ⟨m, hnm, hquit⟩ := h.quits n (Or.inl hn)
    refine ⟨m, hnm, hquit, ?_⟩
    rw [← h.size m]
    exact (h.joined m).all hquit

/-- One thread, told to quit after it has begun. -/
def quitActions : List (Action Nat) :=
  [.thread 0 .enter, .callQuit, .nextQuit, .nextQuit, .thread 0 .test, .nextQuit, .nextQuit,
    .expire 0]

/-- From the end on, the timer expires again and again, and nobody looks. -/
def quitAction (n : Nat) : Action Nat := quitActions.getD n (.expire 0)

def quitState (n : Nat) : EventLoopThreadPool Nat :=
  (run step (quitActions.take n) (init 1)).getD (init 1)

theorem quitState_end {n : Nat} (hn : 8 ≤ n) : quitState n = quitState 8 := by
  unfold quitState
  rw [List.take_of_length_le (show quitActions.length ≤ n from hn),
    List.take_of_length_le (show quitActions.length ≤ 8 from Nat.le_refl 8)]

theorem quitAction_end {n : Nat} (hn : 8 ≤ n) : quitAction n = .expire 0 := by
  unfold quitAction
  rw [List.getD_eq_getElem?_getD, List.getElem?_eq_none (show quitActions.length ≤ n from hn)]
  rfl

theorem quitState_expired : (quitState 8).step (.expire 0) = some (quitState 8) := by
  have hexpired : Function.update (quitState 8).expired 0 true = (quitState 8).expired :=
    Function.update_idem ..
  exact congrArg (fun expired => some { quitState 8 with expired := expired }) hexpired

theorem quitState_fair : FairRun 1 quitState quitAction where
  start := rfl
  next n := by
    by_cases hn : 8 ≤ n
    · rw [quitState_end hn, quitState_end (n := n + 1) (by omega), quitAction_end hn]
      exact quitState_expired
    · interval_cases n <;> rfl
  prompt n := by
    by_cases hn : 8 ≤ n
    · rw [quitAction_end hn]
      intro i hi
      cases hi
    · intro i hi
      interval_cases n
      case «3» =>
        cases hi
        intro hbefore
        cases hbefore
      all_goals cases hi
  timers i hi n := by
    obtain rfl : i = 0 := by omega
    exact ⟨n + 8, by omega, quitAction_end (by omega)⟩
  threads i hi n := by
    obtain rfl : i = 0 := by omega
    refine ⟨n + 8, by omega, Or.inr (Or.inl ?_)⟩
    rw [quitState_end (by omega)]
    rfl
  caller n := by
    refine ⟨n + 8, by omega, Or.inr (Or.inl ?_)⟩
    rw [quitState_end (by omega)]
    rfl

theorem quit_kept_one : ∃ m, 3 ≤ m ∧ (quitState m).quit = true ∧
    ∀ i, i < 1 → ((quitState m).threads i).point = .returned :=
  ((quit_kept 1).2 quitState quitAction quitState_fair).2 3 (by decide)

/-- The caller of `Quit` is in the `Join` of a thread that does not know of it. -/
structure Unknowing (p : EventLoopThreadPool Callback) : Prop where
  threadNum : p.threadNum = 1
  quitting : p.quitting = some (0, .join)
  quitAt : p.quitAt 0 = some 0
  point : (p.threads 0).point = .testing
  quit : (p.threads 0).quit = false
  pushing : (p.threads 0).pushing .loop = false
  pending : (p.threads 0).pending = false
  wakeupCbs : (p.threads 0).wakeupCbs = []

/-- One more round, begun by the timer. -/
def timerRound : List (Action Callback) :=
  [.thread 0 .test, .expire 0, .thread 0 (.wait 1 false), .thread 0 .handle, .thread 0 .swap,
    .thread 0 .finish]

theorem Unknowing.round {p : EventLoopThreadPool Callback} (h : Unknowing p) :
    ∃ p', run step timerRound p = some p' ∧ Unknowing p' ∧
      (p'.threads 0).rounds = (p.threads 0).rounds + 1 := by
  obtain ⟨hnum, hquitting, hquitAt, hpoint, hquit, hpushing, hpending, hcbs⟩ := h
  have hready : (p.threads 0).ready = true → (p.threads 0).eventfd = 0 := by
    simpa [WakeupLoop.pending] using hpending
  let loop : WakeupLoop Callback := { p.threads 0 with
    point := .testing, rounds := (p.threads 0).rounds + 1, swapped := (p.threads 0).pushed }
  have hrun : run step timerRound p = some { p.setThread 0 loop with
      expired := Function.update p.expired 0 false } := by
    simp [run, timerRound, step, stepThread, setThread, WakeupLoop.step, WakeupLoop.advance, hnum,
      hpoint, hquit, hpushing, hcbs, loop, WakeupLoop.Returns, WakeupLoop.pending,
      WakeupLoop.activeEvents, if_pos hready]
  refine ⟨_, hrun, ?_, ?_⟩
  · have hloop : Function.update p.threads 0 loop 0 = loop := Function.update_self 0 loop p.threads
    refine ⟨hnum, hquitting, hquitAt, ?_, ?_, ?_, ?_, ?_⟩
    all_goals dsimp only [setThread]; rw [hloop]
    · exact hquit
    · exact hpushing
    · exact hpending
    · exact hcbs
  · exact congrArg WakeupLoop.rounds (Function.update_self 0 loop p.threads)

/-- `Quit` of the pool before its thread has begun. -/
def earlyQuit : List (Action Nat) :=
  [.callQuit, .nextQuit, .nextQuit, .thread 0 .enter, .thread 0 .test, .thread 0 (.wait 0 true),
    .thread 0 (.onWakeupRead false), .thread 0 .swap, .thread 0 .finish]

/-- The thread begins a round with each event of its timer, and the caller stays in `Join`. -/
theorem quit_lost : ∃ p, run step earlyQuit (init 1) = some p ∧ p.quitAt 0 = some 0 ∧
    ∀ n : Nat, ∃ p', run step (List.replicate n timerRound).flatten p = some p' ∧
      (p'.threads 0).rounds = n + 1 ∧ p'.quitting = some (0, .join) := by
  obtain ⟨p, hearly, hp, hround⟩ : ∃ p, run step earlyQuit (init 1) = some p ∧ Unknowing p ∧
      (p.threads 0).rounds = 1 :=
    ⟨_, rfl, ⟨rfl, rfl, rfl, rfl, rfl, rfl, rfl, rfl⟩, rfl⟩
  have hrounds : ∀ n : Nat, ∃ p', run step (List.replicate n timerRound).flatten p = some p' ∧
      Unknowing p' ∧ (p'.threads 0).rounds = n + 1 := by
    intro n
    induction n with
    | zero => exact ⟨p, rfl, hp, hround⟩
    | succ n ih =>
      obtain ⟨p', hrun, hp', hn⟩ := ih
      obtain ⟨p'', hnext, hp'', hmore⟩ := hp'.round
      refine ⟨p'', ?_, hp'', by omega⟩
      rw [List.replicate_succ', List.flatten_append, List.flatten_singleton, run_append, hrun]
      exact hnext
  refine ⟨p, hearly, hp.quitAt, fun n => ?_⟩
  obtain ⟨p', hrun, hp', hn⟩ := hrounds n
  exact ⟨p', hrun, hn, hp'.quitting⟩

end EventLoopThreadPool

end Mysya
