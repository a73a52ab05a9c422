import Mysya.GuardedRuns
import Mathlib.Logic.Function.Basic

/-!
# Waking up the event loop

`ioevent::EventLoop` as the threads around it see it: the rounds of `Loop`, and
`PushWakeupCallback`, `Wakeup` and `Quit` called from anywhere. A step is what
happens under `wakeup_mutex_` at once, one system call, or one access of
`quit_`. The callbacks of other channels are known by their number only; they
and the wakeup callbacks may push. `pushed`, `executed` and `swapped` record
what has been pushed, what has been called, and what had been pushed when the
queue was last swapped out; `rounds` counts the calls of `epoll_wait`.
-/

namespace Mysya

open GuardedRuns

/-- Where the thread of the loop is. -/
inductive LoopPoint (Callback : Type*) where
  /-- `Loop` has not been called. -/
  | before
  /-- At the condition of the loop. -/
  | testing
  /-- In `epoll_wait`. -/
  | waiting
  /-- Running the callbacks of the events: those of other channels, and of the wakeup channel. -/
  | handling (others : Nat) (wakeup : Bool)
  /-- In `DoWakeupCallback`, between two callbacks. -/
  | calling (cbs : List Callback)
  /-- In a wakeup callback. -/
  | running (cbs : List Callback)
  | returned
  deriving DecidableEq, Repr

namespace LoopPoint

variable {Callback : Type*}

/-- What `DoWakeupCallback` has swapped out and not called yet. -/
def cbs : LoopPoint Callback → List Callback
  | .calling cbs => cbs
  | .running cbs => cbs
  | _ => []

def inDoWakeupCallback : LoopPoint Callback → Bool
  | .calling _ => true
  | .running _ => true
  | _ => false

/-- The round has yet to come to `DoWakeupCallback`. -/
def beforeSwap : LoopPoint Callback → Bool
  | .handling _ _ => true
  | _ => false

/-- The code of a callback is running on the thread of the loop. -/
def inCallback : LoopPoint Callback → Bool
  | .handling (_ + 1) _ => true
  | .running _ => true
  | _ => false

end LoopPoint

/-- A thread in `PushWakeupCallback`. -/
inductive Pusher where
  | loop
  | thread (id : Nat)
  deriving DecidableEq, Repr

/-- `eventfd` is its counter, `ready` tells whether the descriptor is on the ready list of the
epoll instance, and `pushing` who has pushed and not yet called `Wakeup`. -/
structure WakeupLoop (Callback : Type*) where
  point : LoopPoint Callback
  quit : Bool
  wakeupCbs : List Callback
  eventfd : Nat
  ready : Bool
  pushing : Pusher → Bool
  pushed : List Callback
  executed : List Callback
  swapped : List Callback
  rounds : Nat

namespace WakeupLoop

variable {Callback : Type*}

inductive Action (Callback : Type*) where
  | enter
  | test
  | wait (others : Nat) (wakeup : Bool)
  | interrupted
  | failed
  | handle
  | onWakeupRead (removed : Bool)
  | swap
  | call
  | ret
  | finish
  | push (pusher : Pusher) (cb : Callback)
  | pushWakeup (pusher : Pusher)
  | wakeup
  | quit
  deriving DecidableEq, Repr

def init : WakeupLoop Callback where
  point := .before
  quit := false
  wakeupCbs := []
  eventfd := 0
  ready := false
  pushing := fun _ => false
  pushed := []
  executed := []
  swapped := []
  rounds := 0

/-- The size of `active_events_`. -/
def activeEvents : Nat := 32

/-- The largest value of an eventfd. -/
def eventfdMax : Nat := 18446744073709551614

/-- `EventLoop::Wakeup`; a full counter answers `EAGAIN`. -/
def writeEventfd (s : WakeupLoop Callback) : WakeupLoop Callback :=
  if s.eventfd < eventfdMax then { s with eventfd := s.eventfd + 1, ready := true } else s

/-- `epoll_wait` has the wakeup descriptor to report. -/
def pending (s : WakeupLoop Callback) : Bool := s.ready && 0 < s.eventfd

/-- What `epoll_wait` may return: an event at least, of the wakeup channel only if there is one,
and with it left out only where the others fill `active_events_`. -/
def Returns (s : WakeupLoop Callback) (others : Nat) (wakeup : Bool) : Prop :=
  0 < others + wakeup.toNat ∧ others + wakeup.toNat ≤ activeEvents ∧
    (wakeup = true → s.pending = true) ∧
    (wakeup = false → s.pending = true → others = activeEvents)

instance (s : WakeupLoop Callback) (others : Nat) (wakeup : Bool) :
    Decidable (s.Returns others wakeup) := by
  unfold Returns
  infer_instance

/-- A step of the thread of the loop. -/
def advance (s : WakeupLoop Callback) : Action Callback → Option (WakeupLoop Callback)
  | .enter =>
    match s.point with
    | .before => some { s with quit := false, point := .testing }
    | .returned => some { s with quit := false, point := .testing }
    | _ => none
  | .test =>
    match s.point with
    | .testing =>
      some (if s.quit then { s with point := .returned }
        else { s with point := .waiting, rounds := s.rounds + 1 })
    | _ => none
  | .wait others wakeup =>
    match s.point with
    | .waiting =>
      if s.Returns others wakeup then
        some { s with point := .handling others wakeup
                      ready := if wakeup then false else s.ready }
      else none
    | _ => none
  | .interrupted =>
    match s.point with
    | .waiting => some { s with point := .testing }
    | _ => none
  | .failed =>
    match s.point with
    | .waiting => some { s with point := .returned }
    | _ => none
  | .handle =>
    match s.point with
    | .handling (others + 1) wakeup => some { s with point := .handling others wakeup }
    | _ => none
  | .onWakeupRead removed =>
    match s.point with
    | .handling others true =>
      some { s with point := .handling others false
                    eventfd := if removed then s.eventfd else 0 }
    | _ => none
  | .swap =>
    match s.point with
    | .handling 0 false =>
      some { s with point := .calling s.wakeupCbs, wakeupCbs := [], swapped := s.pushed }
    | _ => none
  | .call =>
    match s.point with
    | .calling (cb :: cbs) =>
      some { s with point := .running cbs, executed := s.executed ++ [cb] }
    | _ => none
  | .ret =>
    match s.point with
    | .running cbs => some { s with point := .calling cbs }
    | _ => none
  | .finish =>
    match s.point with
    | .calling [] => some { s with point := .testing }
    | _ => none
  | _ => none

/-- The thread of the loop goes on only once its own `PushWakeupCallback` has returned. -/
def step (s : WakeupLoop Callback) : Action Callback → Option (WakeupLoop Callback)
  | .push pusher cb =>
    if s.pushing pusher = true then none
    else if pusher = .loop ∧ s.point.inCallback = false then none
    else some { s with wakeupCbs := s.wakeupCbs ++ [cb]
                       pushed := s.pushed ++ [cb]
                       pushing := Function.update s.pushing pusher true }
  | .pushWakeup pusher =>
    if s.pushing pusher = true then
      some { s.writeEventfd with pushing := Function.update s.pushing pusher false }
    else none
  | .wakeup => some s.writeEventfd
  | .quit => some { s with quit := true }
  | a => if s.pushing .loop = true then none else s.advance a

/-! ## First in, first out -/

@[simp] theorem writeEventfd_point (s : WakeupLoop Callback) :
    s.writeEventfd.point = s.point := by
  unfold writeEventfd
  split
  · rfl
  · rfl

@[simp] theorem writeEventfd_queue (s : WakeupLoop Callback) :
    s.writeEventfd.wakeupCbs = s.wakeupCbs ∧ s.writeEventfd.pushed = s.pushed ∧
      s.writeEventfd.executed = s.executed ∧ s.writeEventfd.swapped = s.swapped ∧
      s.writeEventfd.pushing = s.pushing := by
  unfold writeEventfd
  split
  · exact ⟨rfl, rfl, rfl, rfl, rfl⟩
  · exact ⟨rfl, rfl, rfl, rfl, rfl⟩

theorem writeEventfd_readable (s : WakeupLoop Callback) : 0 < s.writeEventfd.eventfd := by
  unfold writeEventfd
  split
  · exact Nat.succ_pos _
  · rename_i h
    have hfull : eventfdMax ≤ s.eventfd := Nat.le_of_not_lt h
    exact Nat.lt_of_lt_of_le (by decide) hfull

/-- A step that leaves the callbacks where they are. -/
structure Quiet (s s' : WakeupLoop Callback) : Prop where
  wakeupCbs : s'.wakeupCbs = s.wakeupCbs
  pushed : s'.pushed = s.pushed
  executed : s'.executed = s.executed
  swapped : s'.swapped = s.swapped
  pushing : s'.pushing = s.pushing
  cbs : s'.point.cbs = s.point.cbs
  inside : s'.point.inDoWakeupCallback = true → s.point.inDoWakeupCallback = true
  readable : 0 < s.eventfd ∨ s.point.beforeSwap = true →
    0 < s'.eventfd ∨ s'.point.beforeSwap = true

/-- The thread of the loop moves a callback in two places only. -/
theorem advance_cases {s s' : WakeupLoop Callback} {a : Action Callback}
    (hstep : s.advance a = some s') :
    Quiet s s' ∨
    (a = .swap ∧ s.point = .handling 0 false ∧ s' =
      { s with point := .calling s.wakeupCbs, wakeupCbs := [], swapped := s.pushed }) ∨
    (∃ cb cbs, a = .call ∧ s.point = .calling (cb :: cbs) ∧
      s' = { s with point := .running cbs, executed := s.executed ++ [cb] }) := by
  cases a with
  | swap =>
    simp only [advance] at hstep
    split at hstep
    · rename_i hpoint
      cases hstep
      exact Or.inr (Or.inl ⟨rfl, hpoint, rfl⟩)
    · cases hstep
  | call =>
    simp only [advance] at hstep
    split at hstep
    · rename_i cb cbs hpoint
      cases hstep
      exact Or.inr (Or.inr ⟨cb, cbs, rfl, hpoint, rfl⟩)
    · cases hstep
  | test =>
    simp only [advance] at hstep
    split at hstep
    · rename_i hpoint
      left
      cases hquit : s.quit with
      | true =>
        simp only [hquit, if_true] at hstep
        cases hstep
        exact ⟨rfl, rfl, rfl, rfl, rfl, by simp [hpoint, LoopPoint.cbs],
          by simp [LoopPoint.inDoWakeupCallback], by simp [hpoint, LoopPoint.beforeSwap]⟩
      | false =>
        simp only [hquit, Bool.false_eq_true, if_false] at hstep
        cases hstep
        exact ⟨rfl, rfl, rfl, rfl, rfl, by simp [hpoint, LoopPoint.cbs],
          by simp [LoopPoint.inDoWakeupCallback], by simp [hpoint, LoopPoint.beforeSwap]⟩
    · cases hstep
  | wait others wakeup =>
    simp only [advance] at hstep
    split at hstep
    · rename_i hpoint
      split at hstep
      · cases hstep
        exact Or.inl ⟨rfl, rfl, rfl, rfl, rfl, by simp [hpoint, LoopPoint.cbs],
          by simp [LoopPoint.inDoWakeupCallback], by simp [LoopPoint.beforeSwap]⟩
      · cases hstep
    · cases hstep
  | handle | onWakeupRead removed =>
    simp only [advance] at hstep
    split at hstep
    · rename_i hpoint
      cases hstep
      exact Or.inl ⟨rfl, rfl, rfl, rfl, rfl, by simp [hpoint, LoopPoint.cbs],
        by simp [LoopPoint.inDoWakeupCallback], by simp [LoopPoint.beforeSwap]⟩
    · cases hstep
  | ret =>
    simp only [advance] at hstep
    split at hstep
    · rename_i hpoint
      cases hstep
      exact Or.inl ⟨rfl, rfl, rfl, rfl, rfl, by simp [hpoint, LoopPoint.cbs],
        by simp [hpoint, LoopPoint.inDoWakeupCallback], by simp [hpoint, LoopPoint.beforeSwap]⟩
    · cases hstep
  | enter | interrupted | failed | finish =>
    simp only [advance] at hstep
    split at hstep
    all_goals first
      | cases hstep; done
      | rename_i hpoint
        cases hstep
        exact Or.inl ⟨rfl, rfl, rfl, rfl, rfl, by simp [hpoint, LoopPoint.cbs],
          by simp [LoopPoint.inDoWakeupCallback], by simp [hpoint, LoopPoint.beforeSwap]⟩
  | push | pushWakeup | wakeup | quit => cases hstep

/-- A step is one of the loop's thread, a push, a write of the eventfd or a store of `quit_`. -/
theorem step_cases {s s' : WakeupLoop Callback} {a : Action Callback}
    (hstep : s.step a = some s') :
    s.advance a = some s' ∨
    (∃ pusher cb, a = .push pusher cb ∧ s' =
      { s with wakeupCbs := s.wakeupCbs ++ [cb]
               pushed := s.pushed ++ [cb]
               pushing := Function.update s.pushing pusher true }) ∨
    (∃ pushing, ((∃ pusher, a = .pushWakeup pusher) ∨ a = .wakeup) ∧
      s' = { s.writeEventfd with pushing := pushing }) ∨
    (a = .quit ∧ s' = { s with quit := true }) := by
  cases a with
  | push pusher cb =>
    simp only [step] at hstep
    split at hstep
    · cases hstep
    split at hstep
    · cases hstep
    cases hstep
    exact Or.inr (Or.inl ⟨pusher, cb, rfl, rfl⟩)
  | pushWakeup pusher =>
    simp only [step] at hstep
    split at hstep
    · cases hstep
      exact Or.inr (Or.inr (Or.inl ⟨_, Or.inl ⟨pusher, rfl⟩, rfl⟩))
    · cases hstep
  | wakeup =>
    cases hstep
    exact Or.inr (Or.inr (Or.inl ⟨_, Or.inr rfl, rfl⟩))
  | quit =>
    cases hstep
    exact Or.inr (Or.inr (Or.inr ⟨rfl, rfl⟩))
  | _ =>
    simp only [step] at hstep
    split at hstep
    · cases hstep
    · exact Or.inl hstep

/-- What is not called yet is on its way in order, and a queue that waits has somebody on the way
to it. -/
structure Queued (s : WakeupLoop Callback) : Prop where
  order : s.pushed = s.executed ++ s.point.cbs ++ s.wakeupCbs
  swapped : s.point.inDoWakeupCallback = true → s.swapped = s.executed ++ s.point.cbs
  readable : s.wakeupCbs ≠ [] →
    (∃ pusher, s.pushing pusher = true) ∨ 0 < s.eventfd ∨ s.point.beforeSwap = true

theorem queued_init : Queued (init : WakeupLoop Callback) := by
  refine ⟨rfl, ?_, ?_⟩
  · intro h
    cases h
  · intro h
    exact absurd rfl h

theorem Queued.quiet {s s' : WakeupLoop Callback} (h : Queued s) (hq : Quiet s s') :
    Queued s' := by
  refine ⟨?_, ?_, ?_⟩
  · rw [hq.pushed, hq.executed, hq.cbs, hq.wakeupCbs]
    exact h.order
  · intro hin
    rw [hq.swapped, hq.executed, hq.cbs]
    exact h.swapped (hq.inside hin)
  · intro hne
    rw [hq.wakeupCbs] at hne
    rw [hq.pushing]
    rcases h.readable hne with hpush | hread
    · exact Or.inl hpush
    · exact Or.inr (hq.readable hread)

theorem Queued.advance {s s' : WakeupLoop Callback} {a : Action Callback} (h : Queued s)
    (hstep : s.advance a = some s') : Queued s' := by
  rcases advance_cases hstep with hq | ⟨_, hpoint, rfl⟩ | ⟨cb, cbs, _, hpoint, rfl⟩
  · exact h.quiet hq
  · have horder := h.order
    rw [hpoint] at horder
    have hpushed : s.pushed = s.executed ++ s.wakeupCbs := by
      simpa [LoopPoint.cbs] using horder
    refine ⟨by simpa [LoopPoint.cbs] using hpushed, fun _ => hpushed, ?_⟩
    intro hne
    exact absurd rfl hne
  · have horder := h.order
    have hswapped := h.swapped
    rw [hpoint] at horder hswapped
    refine ⟨?_, ?_, ?_⟩
    · simpa [LoopPoint.cbs] using horder
    · intro _
      simpa [LoopPoint.cbs] using hswapped rfl
    · intro hne
      rcases h.readable hne with hpush | hread | hbefore
      · exact Or.inl hpush
      · exact Or.inr (Or.inl hread)
      · rw [hpoint] at hbefore
        cases hbefore

theorem Queued.write {s : WakeupLoop Callback} (h : Queued s) (pushing : Pusher → Bool) :
    Queued { s.writeEventfd with pushing := pushing } := by
  obtain ⟨hcbs, hpushed, hexecuted, hswapped, _⟩ := writeEventfd_queue s
  refine ⟨?_, ?_, fun _ => Or.inr (Or.inl (writeEventfd_readable s))⟩
  · simpa only [writeEventfd_point, hcbs, hpushed, hexecuted] using h.order
  · simpa only [writeEventfd_point, hexecuted, hswapped] using h.swapped

theorem Queued.step {s s' : WakeupLoop Callback} {a : Action Callback} (h : Queued s)
    (hstep : s.step a = some s') : Queued s' := by
  rcases step_cases hstep with hadvance | ⟨pusher, cb, rfl, rfl⟩ | ⟨pushing, _, rfl⟩ | ⟨_, rfl⟩
  · exact h.advance hadvance
  · refine ⟨?_, h.swapped, ?_⟩
    · simp [h.order]
    · intro _
      exact Or.inl ⟨pusher, Function.update_self _ _ _⟩
  · exact h.write pushing
  · exact ⟨h.order, h.swapped, h.readable⟩

theorem Reaches.queued {guard : WakeupLoop Callback → Action Callback → Prop}
    {s : WakeupLoop Callback} (h : Reaches step guard init s) : Queued s :=
  h.invariant queued_init fun _ _ _ hq _ hstep => hq.step hstep

/-- A round that comes to its end has called all that had been pushed when it swapped. -/
theorem Queued.finish {s s' : WakeupLoop Callback} (h : Queued s)
    (hstep : s.step .finish = some s') : s'.executed = s'.swapped ∧ s'.pushed = s.pushed := by
  simp only [WakeupLoop.step] at hstep
  split at hstep
  · cases hstep
  simp only [WakeupLoop.advance] at hstep
  split at hstep
  · rename_i hpoint
    cases hstep
    have hswapped := h.swapped
    rw [hpoint] at hswapped
    refine ⟨?_, rfl⟩
    simpa [LoopPoint.cbs] using (hswapped rfl).symm
  · cases hstep

/-- In every state of every interleaving: what has been called is what was pushed first, in its
order and once each; a round after which nothing more has been pushed has called everything; and
callbacks that wait for a round have a thread about to call `Wakeup`, a readable descriptor or a
round before its swap. -/
theorem wakeup_callbacks_fifo {s : WakeupLoop Callback}
    (h : Reaches step (fun _ _ => True) init s) :
    s.executed <+: s.pushed ∧
    (∀ s', s.step .finish = some s' →
      s'.executed = s'.swapped ∧ (s'.pushed = s'.swapped → s'.executed = s'.pushed)) ∧
    (s.executed ≠ s.pushed → s.point.inDoWakeupCallback = false →
      (∃ pusher, s.pushing pusher = true) ∨ 0 < s.eventfd ∨ s.point.beforeSwap = true) := by
  have hq := Reaches.queued h
  refine ⟨⟨s.point.cbs ++ s.wakeupCbs, ?_⟩, ?_, ?_⟩
  · rw [hq.order, List.append_assoc]
  · intro s' hstep
    have hfinish := (hq.finish hstep).1
    exact ⟨hfinish, fun hpushed => hfinish.trans hpushed.symm⟩
  · intro hleft hout
    apply hq.readable
    intro hempty
    have hnone : s.point.cbs = [] := by
      cases hpoint : s.point with
      | calling cbs =>
        rw [hpoint] at hout
        cases hout
      | running cbs =>
        rw [hpoint] at hout
        cases hout
      | _ => rfl
    refine hleft ?_
    rw [hq.order, hnone, hempty, List.append_nil, List.append_nil]

/-- A callback pushed by another thread, before that thread calls `Wakeup`. -/
theorem pushed_before_wakeup : ∃ s : WakeupLoop Nat,
    run step [.enter, .test, .push (.thread 0) 7] init = some s ∧ s.executed ≠ s.pushed ∧
      s.point.inDoWakeupCallback = false ∧ ¬(0 < s.eventfd ∨ s.point.beforeSwap = true) :=
  ⟨_, rfl, by decide, by decide, by decide⟩

theorem wakeup_callbacks_fifo_called : ∃ s : WakeupLoop Nat, s.pushed = [7, 8] ∧
    s.executed = [7] ∧ s.executed <+: s.pushed := by
  have hrun : (run step [.push (.thread 0) 7, .enter, .test, .pushWakeup (.thread 0), .wait 0 true,
      .onWakeupRead false, .swap, .call, .push .loop 8] init).isSome = true := by decide
  exact ⟨_, rfl, rfl,
    (wakeup_callbacks_fifo (reaches_of_run (Option.some_get hrun).symm)).1⟩

/-! ## An edge for every byte

The descriptor is registered edge-triggered, so that being readable does not end an `epoll_wait`
by itself. `OnWakeupRead` is left out only where the wakeup channel is taken for a removed one.
-/

/-- A readable descriptor has an event to come, or one in the round. -/
def Edged (s : WakeupLoop Callback) : Prop :=
  0 < s.eventfd → s.ready = true ∨ ∃ others, s.point = .handling others true

theorem writeEventfd_edged {s : WakeupLoop Callback} (h : Edged s) : Edged s.writeEventfd := by
  unfold writeEventfd
  split
  · exact fun _ => Or.inl rfl
  · exact h

theorem Edged.move {s s' : WakeupLoop Callback} (h : Edged s)
    (hpoint : ∀ others, s.point ≠ .handling others true) (heventfd : s'.eventfd = s.eventfd)
    (hready : s'.ready = s.ready) : Edged s' := by
  intro hpos
  rw [heventfd] at hpos
  rcases h hpos with hs | ⟨others, hothers⟩
  · exact Or.inl (hready.trans hs)
  · exact absurd hothers (hpoint others)

theorem Edged.advance {s s' : WakeupLoop Callback} {a : Action Callback} (h : Edged s)
    (hread : a ≠ .onWakeupRead true) (hstep : s.advance a = some s') : Edged s' := by
  cases a with
  | onWakeupRead removed =>
    cases removed with
    | true => exact absurd rfl hread
    | false =>
      simp only [WakeupLoop.advance] at hstep
      split at hstep
      · cases hstep
        exact fun hpos => absurd hpos (Nat.lt_irrefl 0)
      · cases hstep
  | wait others wakeup =>
    simp only [WakeupLoop.advance] at hstep
    split at hstep
    · rename_i hpoint
      split at hstep
      · cases hstep
        cases wakeup with
        | true => exact fun _ => Or.inr ⟨others, rfl⟩
        | false => exact h.move (by simp [hpoint]) rfl rfl
      · cases hstep
    · cases hstep
  | handle =>
    simp only [WakeupLoop.advance] at hstep
    split at hstep
    · rename_i others wakeup hpoint
      cases hstep
      cases wakeup with
      | true => exact fun _ => Or.inr ⟨others, rfl⟩
      | false => exact h.move (by simp [hpoint]) rfl rfl
    · cases hstep
  | test =>
    simp only [WakeupLoop.advance] at hstep
    split at hstep
    · rename_i hpoint
      cases hquit : s.quit with
      | true =>
        simp only [hquit, if_true] at hstep
        cases hstep
        exact h.move (by simp [hpoint]) rfl rfl
      | false =>
        simp only [hquit, Bool.false_eq_true, if_false] at hstep
        cases hstep
        exact h.move (by simp [hpoint]) rfl rfl
    · cases hstep
  | enter | interrupted | failed | swap | call | ret | finish =>
    simp only [WakeupLoop.advance] at hstep
    split at hstep
    all_goals first
      | cases hstep; done
      | rename_i hpoint
        cases hstep
        exact h.move (by simp [hpoint]) rfl rfl
  | push | pushWakeup | wakeup | quit => cases hstep

theorem Edged.step {s s' : WakeupLoop Callback} {a : Action Callback} (h : Edged s)
    (hread : a ≠ .onWakeupRead true) (hstep : s.step a = some s') : Edged s' := by
  rcases step_cases hstep with hadvance | ⟨_, _, _, rfl⟩ | ⟨_, _, rfl⟩ | ⟨_, rfl⟩
  · exact h.advance hread hadvance
  · exact h
  · exact writeEventfd_edged h
  · exact h

/-- A loop that waits while callbacks do, and nobody is about to call `Wakeup`, is woken. -/
theorem wakeup_returns {s : WakeupLoop Callback}
    (h : Reaches step (fun _ a => a ≠ .onWakeupRead true) init s) (hpoint : s.point = .waiting)
    (hleft : s.wakeupCbs ≠ []) (hpushing : ∀ pusher, s.pushing pusher = false) :
    s.Returns 0 true := by
  have hedged : Edged s :=
    h.invariant (fun hpos => absurd hpos (Nat.lt_irrefl 0)) fun _ _ _ he hread hstep =>
      he.step hread hstep
  have hreadable : 0 < s.eventfd := by
    rcases (Reaches.queued h).readable hleft with ⟨pusher, hpush⟩ | hpos | hbefore
    · exact absurd ((hpushing pusher).symm.trans hpush) (by decide)
    · exact hpos
    · rw [hpoint] at hbefore
      cases hbefore
  have hready : s.ready = true := by
    rcases hedged hreadable with hready | ⟨others, hothers⟩
    · exact hready
    · rw [hpoint] at hothers
      cases hothers
  refine ⟨by decide, by decide, fun _ => ?_, fun hf => absurd hf (by decide)⟩
  simp [pending, hready, hreadable]

end WakeupLoop

end Mysya
