import Mysya.AiApp
import Mysya.DeferredRemovals

/-!
# The event observer by itself

`EventObserver` with callbacks that add, remove and dispatch in any order. `Performs` says
which calls an activity makes and where they lead: a callback makes any calls, a dispatch
calls back each auto it finds, one after another, in the set as it is by then. Its
loop stands on an element of the set meanwhile, and goes on from there; a nested
dispatch that erases the element leaves it nowhere to go on from.
-/

open Std DeferredRemovals

namespace Mysya

/-- A call of `Add` or `Remove`, or the beginning or the end of a dispatch. -/
abbrev ObserverCall := Event (EntityKey × Int)

structure EventObserver where
  observers : EntityKey → ExtTreeSet Int
  dispatching : Bool
  pendingRemoves : List (EntityKey × Int)

namespace EventObserver

def idle (observers : EntityKey → ExtTreeSet Int) : EventObserver := ⟨observers, false, []⟩

def add (o : EventObserver) (combatId entityId autoId : Int) : EventObserver :=
  { o with
    observers := Function.update o.observers (combatId, entityId)
      ((o.observers (combatId, entityId)).insert autoId) }

def pendingRemove (o : EventObserver) (combatId entityId autoId : Int) : EventObserver :=
  { o with pendingRemoves := o.pendingRemoves ++ [((combatId, entityId), autoId)] }

def remove (o : EventObserver) (combatId entityId autoId : Int) : EventObserver :=
  if o.dispatching then o.pendingRemove combatId entityId autoId
  else
    { o with
      observers := Function.update o.observers (combatId, entityId)
        ((o.observers (combatId, entityId)).erase autoId) }

/-- `Dispatch` behind its loop. -/
def finishDispatch (o : EventObserver) : EventObserver :=
  let o := { o with dispatching := false }
  let o := o.pendingRemoves.foldl (fun o removal =>
    o.remove removal.1.1 removal.1.2 removal.2) o
  { o with pendingRemoves := [] }

/-- `++auto_iter`: the least auto of the set behind the last one. -/
def nextAuto (autos : ExtTreeSet Int) (last : Option Int) : Option Int :=
  autos.toList.find? fun autoId => last.all (· < autoId)

/-- The triples of a table. -/
def triples (table : EntityKey → ExtTreeSet Int) : Set (EntityKey × Int) :=
  {triple | triple.2 ∈ table triple.1}

def toState (o : EventObserver) : State (EntityKey × Int) :=
  ⟨triples o.observers, o.dispatching, o.pendingRemoves⟩

/-- None of the calls erases the auto from the set, be it to add it again. -/
def Keeps (o : EventObserver) (key : EntityKey) (autoId : Int) (calls : List ObserverCall) : Prop :=
  ∀ l, l <+: calls → (key, autoId) ∈ (o.toState.run l).present

inductive Activity
  | callback
  | dispatch (key : EntityKey)
  | loop (key : EntityKey) (last : Option Int)

/-- The activity can make these calls and then leaves the second observer. A loop goes on from an
auto that its callback has left in the set. -/
inductive Performs : Activity → EventObserver → List ObserverCall → EventObserver → Prop
  | done (o : EventObserver) : Performs .callback o [] o
  | add {o o' : EventObserver} {combatId entityId autoId : Int} {calls : List ObserverCall}
      (rest : Performs .callback (o.add combatId entityId autoId) calls o') :
      Performs .callback o (.add ((combatId, entityId), autoId) :: calls) o'
  | remove {o o' : EventObserver} {combatId entityId autoId : Int} {calls : List ObserverCall}
      (rest : Performs .callback (o.remove combatId entityId autoId) calls o') :
      Performs .callback o (.remove ((combatId, entityId), autoId) :: calls) o'
  | nested {o o₁ o₂ : EventObserver} {key : EntityKey} {inner calls : List ObserverCall}
      (first : Performs (.dispatch key) o inner o₁) (rest : Performs .callback o₁ calls o₂) :
      Performs .callback o (inner ++ calls) o₂
  | nobody {o : EventObserver} {key : EntityKey} (hnone : (o.observers key).isEmpty = true) :
      Performs (.dispatch key) o [] o
  | served {o o' : EventObserver} {key : EntityKey} {calls : List ObserverCall}
      (hsome : (o.observers key).isEmpty = false)
      (served : Performs (.loop key none) { o with dispatching := true } calls o') :
      Performs (.dispatch key) o (.enter :: (calls ++ [.leave])) o'.finishDispatch
  | last {o : EventObserver} {key : EntityKey} {last : Option Int}
      (hnext : nextAuto (o.observers key) last = none) : Performs (.loop key last) o [] o
  | visit {o o₁ o₂ : EventObserver} {key : EntityKey} {last : Option Int} {autoId : Int}
      {inner calls : List ObserverCall}
      (hnext : nextAuto (o.observers key) last = some autoId)
      (first : Performs .callback o inner o₁) (hkeeps : o.Keeps key autoId inner)
      (rest : Performs (.loop key (some autoId)) o₁ calls o₂) :
      Performs (.loop key last) o (inner ++ calls) o₂

/-- One call on a table that nobody dispatches to. -/
def applyCall (table : EntityKey → ExtTreeSet Int) : ObserverCall → EntityKey → ExtTreeSet Int
  | .add ((combatId, entityId), autoId) => ((idle table).add combatId entityId autoId).observers
  | .remove ((combatId, entityId), autoId) =>
    ((idle table).remove combatId entityId autoId).observers
  | _ => table

/-! ## The observer is a set with deferred removals -/

theorem triples_inj {table table' : EntityKey → ExtTreeSet Int}
    (h : triples table = triples table') : table = table' := by
  funext key
  refine ExtTreeSet.ext_mem fun autoId => ?_
  exact Set.ext_iff.mp h (key, autoId)

theorem triples_insert (table : EntityKey → ExtTreeSet Int) (key : EntityKey) (autoId : Int) :
    triples (Function.update table key ((table key).insert autoId)) =
      insert (key, autoId) (triples table) := by
  ext ⟨k, i⟩
  by_cases hk : k = key
  · subst hk
    simp [triples, ExtTreeSet.mem_insert, eq_comm (a := i)]
  · simp [triples, hk]

theorem triples_erase (table : EntityKey → ExtTreeSet Int) (key : EntityKey) (autoId : Int) :
    triples (Function.update table key ((table key).erase autoId)) =
      triples table \ {(key, autoId)} := by
  ext ⟨k, i⟩
  by_cases hk : k = key
  · subst hk
    simp [triples, ExtTreeSet.mem_erase, eq_comm (a := i), and_comm]
  · simp [triples, hk]

theorem toState_add (o : EventObserver) (combatId entityId autoId : Int) :
    (o.add combatId entityId autoId).toState =
      o.toState.step (.add ((combatId, entityId), autoId)) := by
  exact congrArg (State.mk · o.dispatching o.pendingRemoves) (triples_insert o.observers _ autoId)

theorem toState_remove (o : EventObserver) (combatId entityId autoId : Int) :
    (o.remove combatId entityId autoId).toState =
      o.toState.step (.remove ((combatId, entityId), autoId)) := by
  obtain ⟨table, dispatching, pending⟩ := o
  cases dispatching with
  | true => rfl
  | false =>
    exact congrArg (State.mk · false pending) (triples_erase table _ autoId)

theorem toState_removes (removes : List (EntityKey × Int)) (o : EventObserver) :
    (removes.foldl (fun o removal => o.remove removal.1.1 removal.1.2 removal.2) o).toState =
      removes.foldl (fun s removal => s.step (.remove removal)) o.toState := by
  induction removes generalizing o with
  | nil => rfl
  | cons removal removes ih =>
    rw [List.foldl_cons, List.foldl_cons, ih, toState_remove]

theorem toState_finishDispatch (o : EventObserver) :
    o.finishDispatch.toState = o.toState.settle := by
  have h := toState_removes o.pendingRemoves { o with dispatching := false }
  rw [State.foldl_remove o.pendingRemoves rfl, toState, State.mk.injEq] at h
  rw [State.settle, toState, State.mk.injEq]
  exact ⟨h.1, h.2.1, rfl⟩

/-- An observer that makes these calls is the set with deferred removals that does. -/
theorem Performs.toState {activity : Activity} {o o' : EventObserver} {calls : List ObserverCall}
    (h : Performs activity o calls o') : o'.toState = o.toState.run calls := by
  induction h with
  | done => rfl
  | add rest ih => rw [ih, toState_add]; rfl
  | remove rest ih => rw [ih, toState_remove]; rfl
  | nested first rest ih₁ ih₂ => rw [ih₂, ih₁, State.run_append]
  | nobody => rfl
  | served hsome served ih =>
    rw [toState_finishDispatch, ih, ← List.cons_append, run_snoc]
    rfl
  | last => rfl
  | visit hnext first hkeeps rest ih₁ ih₂ => rw [ih₂, ih₁, State.run_append]

/-- Removals wait while nothing but the dispatch of the loop is under way. -/
theorem keeps_of_flat {o : EventObserver} {key : EntityKey} {autoId : Int}
    {calls : List ObserverCall} (hdispatching : o.dispatching = true)
    (hleave : Event.leave ∉ calls) (hmem : autoId ∈ o.observers key) :
    o.Keeps key autoId calls := by
  intro l hl
  have hgrows := State.run_grows l (s := o.toState) hdispatching fun hin => hleave (hl.mem hin)
  rw [hgrows.2]
  exact Or.inl hmem

theorem Performs.append {o₁ o₂ o₃ : EventObserver} {calls calls' : List ObserverCall}
    (h : Performs .callback o₁ calls o₂) (h' : Performs .callback o₂ calls' o₃) :
    Performs .callback o₁ (calls ++ calls') o₃ := by
  generalize hactivity : Activity.callback = activity at h
  induction h with
  | done => exact h'
  | add rest ih => exact .add (ih h' rfl)
  | remove rest ih => exact .remove (ih h' rfl)
  | nested first rest ih₁ ih₂ =>
    rw [List.append_assoc]
    exact .nested first (ih₂ h' rfl)
  | nobody => cases hactivity
  | served => cases hactivity
  | last => cases hactivity
  | visit => cases hactivity

theorem nextAuto_suffix {autos : ExtTreeSet Int} {visited rest : List Int}
    (h : autos.toList = visited ++ rest) : nextAuto autos visited.getLast? = rest.head? := by
  have hsorted := autos.ordered_toList
  rw [h, List.pairwise_append] at hsorted
  obtain ⟨hvisited, -, hacross⟩ := hsorted
  rw [nextAuto, h, List.find?_append]
  have hnone : (visited.find? fun autoId => visited.getLast?.all (· < autoId)) = none := by
    rw [List.find?_eq_none]
    intro i hi
    obtain ⟨init, last, rfl⟩ : ∃ init last, visited = init ++ [last] := by
      rcases List.eq_nil_or_concat visited with rfl | ⟨init, last, rfl⟩
      · cases hi
      · exact ⟨init, last, List.concat_eq_append⟩
    rw [List.pairwise_append] at hvisited
    rcases List.mem_append.mp hi with hinit | hlast
    · have hlt := compare_lt_iff_lt.mp (hvisited.2.2 i hinit last (by simp))
      simp [hlt.le]
    · simp [List.mem_singleton.mp hlast]
  rw [hnone, Option.none_or]
  cases rest with
  | nil => rfl
  | cons i rest =>
    refine List.find?_cons_of_pos ?_
    rw [Option.all_eq_true]
    intro last hlast
    exact decide_eq_true (compare_lt_iff_lt.mp
      (hacross last (List.mem_of_getLast? hlast) i List.mem_cons_self))

theorem triples_inOrder (table : EntityKey → ExtTreeSet Int) (calls : List ObserverCall) :
    triples (calls.foldl applyCall table) = inOrder (triples table) calls := by
  induction calls generalizing table with
  | nil => rfl
  | cons call calls ih =>
    rw [List.foldl_cons, ih, inOrder, inOrder, List.foldl_cons]
    congr 1
    cases call with
    | enter => rfl
    | leave => rfl
    | add triple => exact triples_insert table triple.1 triple.2
    | remove triple => exact triples_erase table triple.1 triple.2

theorem Performs.settled {table : EntityKey → ExtTreeSet Int} {key : EntityKey}
    {calls : List ObserverCall} {o : EventObserver}
    (h : Performs (.dispatch key) (idle table) calls o) :
    o.toState = ((State.idle (triples table)).run calls).settle := by
  have hrun : o.toState = (State.idle (triples table)).run calls := h.toState
  rw [← hrun]
  cases h with
  | nobody => exact (State.settle_of_pending rfl rfl).symm
  | served hsome served =>
    rw [toState_finishDispatch]
    exact (State.settle_of_pending rfl rfl).symm

/-- Where no loop loses the auto it stands on, the outermost dispatch leaves what the calls make of
the table in their order exactly if no addition is overtaken by the removal before it. -/
theorem dispatch_inOrder {table : EntityKey → ExtTreeSet Int} {key : EntityKey}
    {calls : List ObserverCall} {o : EventObserver}
    (h : Performs (.dispatch key) (idle table) calls o) :
    o.observers = calls.foldl applyCall table ↔ ∀ triple, ¬ Overtaken triple calls := by
  rw [← settle_inOrder (triples table) calls, ← triples_inOrder, ← h.settled]
  exact ⟨fun heq => congrArg triples heq, triples_inj⟩

/-- An auto that observes itself. -/
def single : EntityKey → ExtTreeSet Int := Function.update (fun _ => ∅) (0, 4) {4}

theorem single_performs {calls : List ObserverCall} {o : EventObserver}
    (h : Performs .callback { idle single with dispatching := true } calls o)
    (hleave : Event.leave ∉ calls) (hobservers : o.observers (0, 4) = {4}) :
    Performs (.dispatch (0, 4)) (idle single) (.enter :: (calls ++ [.leave])) o.finishDispatch := by
  refine .served (by decide) ?_
  have hnext : nextAuto (single (0, 4)) none = some 4 := by decide
  have hlast : nextAuto (o.observers (0, 4)) (some 4) = none := by
    rw [hobservers]
    decide
  have hvisit := Performs.visit hnext h (keeps_of_flat rfl hleave (by decide)) (.last hlast)
  rwa [List.append_nil] at hvisit

theorem dispatch_inOrder_single :
    ((({ idle single with dispatching := true }.remove 0 4 4).finishDispatch).observers =
      [.enter, .remove ((0, 4), 4), .leave].foldl applyCall single) := by
  refine (dispatch_inOrder (single_performs (.remove (.done _)) (by simp) rfl)).mpr ?_
  rintro triple ⟨p, q, hcalls, -⟩
  have hmem : Event.add triple ∈ p ++ .add triple :: q := by simp
  rw [← hcalls] at hmem
  simp at hmem

/-- An auto that leaves a status and starts the next one removes and adds itself. -/
theorem rejoined_lost : ¬ ∀ (table : EntityKey → ExtTreeSet Int) (key : EntityKey)
    (calls : List ObserverCall) (o : EventObserver),
    Performs (.dispatch key) (idle table) calls o →
      o.observers = calls.foldl applyCall table := by
  intro h
  have hcallback : Performs .callback { idle single with dispatching := true }
      [.remove ((0, 4), 4), .add ((0, 4), 4)] _ := .remove (.add (.done _))
  have hlost := congrFun (h _ _ _ _ (single_performs hcallback (by simp) (by decide))) (0, 4)
  exact absurd (congrArg (ExtTreeSet.contains · 4) hlost) (by decide)

end EventObserver

namespace Apps

/-- The event observer of the AI. -/
def observer (a : Apps) : EventObserver := ⟨a.observers, a.dispatching, a.pendingRemoves⟩

theorem observer_remove (a : Apps) (combatId entityId autoId : Int) :
    (a.observerRemove combatId entityId autoId).observer =
      a.observer.remove combatId entityId autoId := by
  rw [observerRemove, EventObserver.remove]
  split
  · rename_i hdispatching
    rw [if_pos (show a.observer.dispatching = true from hdispatching)]
    rfl
  · rename_i hdispatching
    rw [if_neg (show ¬ a.observer.dispatching = true from hdispatching)]
    rfl

end Apps

end Mysya
