import Mysya.AutoEvents
import Mysya.EventObserver
import Mysya.SceneFrames

/-!
# What the handler of an auto leaves alone

A handler called with an auto changes no other auto, no position and no registry, and the
observers only by calls about the auto itself. So a dispatch of the AI is one of the event
observer: what the handlers add to the set they are called from is there already.
-/

open Std OwnedTimers DeferredRemovals

namespace Mysya

/-- A call about one auto. -/
def EventObserver.Own (autoId : Int) (call : ObserverCall) : Prop :=
  ∃ key : EntityKey, call = .add (key, autoId) ∨ call = .remove (key, autoId)

namespace Apps

open EventObserver

variable {a b c : Apps} {x y : Ptr} {m : CombatManagers}

/-- What a handler of the auto does to the AI. -/
structure Handled (x : Ptr) (a b : Apps) : Prop where
  autoes : b.autoes = a.autoes
  originPos : b.originPos = a.originPos
  live : (b.autoPool.objects x).isSome = (a.autoPool.objects x).isSome
  key : b.autoKey x = a.autoKey x
  others : ∀ y, y ≠ x → b.auto y = a.auto y
  calls : ∃ calls, Performs .callback a.observer calls b.observer ∧
    ∀ call ∈ calls, Own (a.autoKey x).2 call

theorem Handled.same (hautoes : b.autoes = a.autoes) (horiginPos : b.originPos = a.originPos)
    (hpool : b.autoPool = a.autoPool) (hobserver : b.observer = a.observer) : Handled x a b where
  autoes := hautoes
  originPos := horiginPos
  live := congrArg (fun pool => (pool.objects x).isSome) hpool
  key := congrArg (fun pool => (pool.read x).host.getD (0, 0)) hpool
  others := fun y _ => congrArg (PoolTemplate.read · y) hpool
  calls := ⟨[], hobserver ▸ .done _, by simp⟩

theorem Handled.refl (x : Ptr) (a : Apps) : Handled x a a := .same rfl rfl rfl rfl

theorem Handled.trans (h : Handled x a b) (h' : Handled x b c) : Handled x a c where
  autoes := h'.autoes.trans h.autoes
  originPos := h'.originPos.trans h.originPos
  live := h'.live.trans h.live
  key := h'.key.trans h.key
  others := fun y hy => (h'.others y hy).trans (h.others y hy)
  calls := by
    obtain ⟨calls, hcalls, hown⟩ := h.calls
    obtain ⟨calls', hcalls', hown'⟩ := h'.calls
    refine ⟨calls ++ calls', hcalls.append hcalls', fun call hcall => ?_⟩
    rcases List.mem_append.mp hcall with hfirst | hsecond
    · exact hown call hfirst
    · rw [← h.key]
      exact hown' call hsecond

theorem handled_modifyAuto (a : Apps) {change : Auto → Auto}
    (hhost : ∀ auto, (change auto).host = auto.host) : Handled x a (a.modifyAuto x change) where
  autoes := rfl
  originPos := rfl
  live := PoolTemplate.modify_isSome change
  key := by
    have hhosts := congrFun (modifyAuto_hosts (a := a) (x := x) hhost) x
    exact congrArg (Option.getD · (0, 0)) hhosts
  others := fun y hy => modifyAuto_other a hy change
  calls := ⟨[], .done _, by simp⟩

theorem handled_observerAdd (a : Apps) (combatId entityId : Int) :
    Handled x a (a.observerAdd combatId entityId (a.autoKey x).2) where
  autoes := rfl
  originPos := rfl
  live := rfl
  key := rfl
  others := fun _ _ => rfl
  calls := by
    refine ⟨[.add ((combatId, entityId), (a.autoKey x).2)], .add (.done _), fun call hcall => ?_⟩
    exact ⟨_, .inl (List.mem_singleton.mp hcall)⟩

theorem handled_observerRemove (a : Apps) (combatId entityId : Int) :
    Handled x a (a.observerRemove combatId entityId (a.autoKey x).2) := by
  have hpool := (beside_observerRemove a combatId entityId (a.autoKey x).2).autoPool
  refine ⟨(beside_observerRemove a _ _ _).autoes, ?_, ?_, ?_, ?_, ?_⟩
  · rw [observerRemove]
    split
    · rfl
    · rfl
  · exact congrArg (fun pool => (pool.objects x).isSome) hpool
  · exact congrArg (fun pool => (pool.read x).host.getD (0, 0)) hpool
  · exact fun y _ => congrArg (PoolTemplate.read · y) hpool
  · refine ⟨[.remove ((combatId, entityId), (a.autoKey x).2)], ?_, fun call hcall => ?_⟩
    · rw [observer_remove]
      exact .remove (.done _)
    · exact ⟨_, .inr (List.mem_singleton.mp hcall)⟩

/-! ## Targets and moves -/

theorem handled_setTarget (a : Apps) (x : Ptr) (type : CombatEntityType) (id : Int) :
    Handled x a (a.setTarget x type id) :=
  (handled_modifyAuto a fun _ => by rfl).trans (handled_observerAdd _ _ id)

theorem handled_resetTarget (a : Apps) (x : Ptr) : Handled x a (a.resetTarget x) := by
  rw [resetTarget]
  split
  · exact .refl x a
  · exact (handled_observerRemove a _ _).trans (handled_modifyAuto _ fun _ => by rfl)

theorem handled_moveReset (a : Apps) (w : Ptr) : Handled x a (a.moveReset w) := by
  rw [moveReset]
  split
  · exact .same rfl rfl rfl rfl
  · exact .same rfl rfl rfl rfl

theorem handled_moveStart (a : Apps) (w : Ptr) (destPos : Position) :
    Handled x a (a.moveStart w destPos) := by
  rw [moveStart]
  split
  · exact .refl x a
  · split
    · exact .refl x a
    · split
      · exact .refl x a
      · have hfinish : Handled x a (if (a.warrior w).movePaths.isEmpty then a
            else a.moveFinish w) := by
          split
          · exact .refl x a
          · exact handled_moveReset a w
        dsimp only
        generalize (if (a.warrior w).movePaths.isEmpty then a else a.moveFinish w) = b at hfinish ⊢
        split
        · exact hfinish
        · refine hfinish.trans ?_
          split
          · exact .same rfl rfl rfl rfl
          · exact .same rfl rfl rfl rfl

theorem handled_moveTarget (a : Apps) (x : Ptr) : Handled x a (a.moveTarget m x).2 := by
  rw [moveTarget]
  split
  · exact .refl x a
  · split
    · rw [onRequireSceneMove]
      split
      · exact .refl x a
      · split
        · exact .refl x a
        · split
          · exact .refl x a
          · exact handled_moveStart a _ _
    · exact .refl x a

/-! ## Statuses -/

theorem handled_changeTargetedNum (a : Apps) (x : Ptr) (increment : Int) :
    Handled x a (a.changeTargetedNum x increment) := by
  rw [changeTargetedNum]
  split
  · exact .refl x a
  · split
    · exact .refl x a
    · exact .same rfl rfl rfl rfl

theorem handled_stopTimer (a : Apps) (x : Ptr) (id : Int) : Handled x a (a.stopTimer id) :=
  .same rfl rfl rfl rfl

theorem handled_startTimer (a : Apps) (x : Ptr) (expireMs : Int) (callback : TimerCallback)
    (callTimes : Int) : Handled x a (a.startTimer expireMs callback callTimes).2 :=
  .same rfl rfl rfl rfl

theorem handled_resetAttackTimer (a : Apps) (x : Ptr) : Handled x a (a.resetAttackTimer x) := by
  rw [resetAttackTimer]
  split
  · exact .refl x a
  · exact (handled_stopTimer a x _).trans (handled_modifyAuto _ fun _ => by rfl)

theorem handled_stopStatus (a : Apps) (x : Ptr) (status : AutoStatus) :
    Handled x a (a.stopStatus x status) := by
  cases status with
  | search =>
    show Handled x a (a.stopSearch x)
    rw [stopSearch]
    split
    · exact .refl x a
    · exact (handled_stopTimer a x _).trans (handled_modifyAuto _ fun _ => by rfl)
  | chase =>
    show Handled x a (a.stopChase x)
    rw [stopChase]
    split
    · exact .refl x a
    · exact (handled_stopTimer a x _).trans (handled_modifyAuto _ fun _ => by rfl)
  | attack =>
    exact ((handled_changeTargetedNum a x (-1)).trans (handled_resetAttackTimer _ x)).trans
      (handled_resetTarget _ x)

theorem handled_stopPresentStatus (a : Apps) (x : Ptr) : Handled x a (a.stopPresentStatus x) := by
  rw [stopPresentStatus]
  split
  · exact .refl x a
  · rename_i present _
    have hstatus := handled_stopStatus a x present
    rw [← hstatus.key]
    exact hstatus.trans (handled_observerRemove _ _ _)

theorem handled_switchStatus (a : Apps) (x : Ptr) (status : AutoStatus) :
    Handled x a (a.switchStatus x status) :=
  ((handled_stopPresentStatus a x).trans (handled_modifyAuto _ fun _ => by rfl)).trans
    (handled_observerAdd _ _ _)

theorem handled_gotoSearch (a : Apps) (x : Ptr) : Handled x a (a.gotoSearch x) := by
  rw [gotoSearch, startSearch]
  exact ((handled_switchStatus a x .search).trans (handled_startTimer _ x _ _ _)).trans
    (handled_modifyAuto _ fun _ => by rfl)

theorem handled_gotoAttack (a : Apps) (x : Ptr) : Handled x a (a.gotoAttack m x) := by
  rw [gotoAttack, startAttack]
  have hlock : ∀ (b : Apps) (combatId warriorId : Int),
      Handled x b (b.onEventCombatLockTarget combatId warriorId) := by
    intro b combatId warriorId
    rw [onEventCombatLockTarget]
    split
    · exact .refl x b
    · split
      · exact .refl x b
      · exact handled_moveReset b _
  exact ((((handled_switchStatus a x .attack).trans (handled_startTimer _ x _ _ _)).trans
    (handled_modifyAuto _ fun _ => by rfl)).trans (hlock _ _ _)).trans
      (handled_changeTargetedNum _ x 1)

theorem handled_chase (a : Apps) (x : Ptr) : Handled x a (a.chase m x) := by
  rw [chase]
  split
  · exact handled_gotoAttack a x
  · have hmove := handled_moveTarget (m := m) a x
    split
    · rename_i hmoved
      rw [hmoved] at hmove
      exact hmove
    · rename_i hstayed
      rw [hstayed] at hmove
      exact hmove.trans (handled_gotoSearch _ x)

theorem handled_gotoChase (a : Apps) (x : Ptr) : Handled x a (a.gotoChase m x) :=
  (handled_switchStatus a x .chase).trans (handled_chase _ x)

/-! ## Handlers -/

theorem handled_onMoveStep (m : CombatManagers) (warriorId : Int) (a : Apps) (x : Ptr) :
    Handled x a (onMoveStep m warriorId a x) := by
  rw [onMoveStep]
  split
  · split
    · exact .refl x a
    · split
      · exact handled_gotoAttack a x
      · split
        · rw [setRefindPathTimer]
          exact (handled_startTimer a x _ _ _).trans (handled_modifyAuto _ fun _ => by rfl)
        · exact .refl x a
  · split
    · exact .refl x a
    · split
      · split
        · exact handled_gotoChase a x
        · exact .refl x a
      · exact .refl x a
  · exact .refl x a

theorem handled_onTargetLost (entity : CombatEntity) (a : Apps) (x : Ptr) :
    Handled x a (onTargetLost entity a x) := by
  rw [onTargetLost]
  split
  · exact .refl x a
  · exact .refl x a
  · split
    · exact .refl x a
    · exact handled_gotoSearch a x

theorem handled_onAttacked (m : CombatManagers) (hostId warriorId : Int) (a : Apps) (x : Ptr) :
    Handled x a (onAttacked m hostId warriorId a x) := by
  rw [onAttacked]
  split
  · split
    · exact .refl x a
    · exact (handled_setTarget a x _ _).trans (handled_gotoChase _ x)
  · exact .refl x a

/-! ## A dispatch -/

/-- One round of the loop of a dispatch. -/
def callAuto (combatId : Int) (handler : Apps → Ptr → Apps) (a : Apps) (autoId : Int) : Apps :=
  match a.autoes (combatId, autoId) with
  | none => a
  | some x => handler a x

def callAutos (combatId : Int) (handler : Apps → Ptr → Apps) (autoIds : List Int) (a : Apps) :
    Apps :=
  autoIds.foldl (callAuto combatId handler) a

/-- A dispatch behind its loop. -/
def finishDispatch (a : Apps) : Apps :=
  { a.pendingRemoves.foldl (fun a removal => a.observerRemove removal.1.1 removal.1.2 removal.2)
      { a with dispatching := false } with pendingRemoves := [] }

theorem dispatch_eq {combatId entityId : Int} (handler : Apps → Ptr → Apps)
    (hsome : (a.observers (combatId, entityId)).isEmpty = false) :
    a.dispatch combatId entityId handler =
      (callAutos combatId handler (a.observers (combatId, entityId)).toList
        { a with dispatching := true }).finishDispatch := by
  rw [dispatch, if_neg (by simp [hsome])]
  rfl

theorem observer_finishDispatch (a : Apps) :
    a.finishDispatch.observer = a.observer.finishDispatch := by
  have hremoves : ∀ (removes : List (EntityKey × Int)) (b : Apps),
      (removes.foldl (fun a removal => a.observerRemove removal.1.1 removal.1.2 removal.2)
        b).observer =
      removes.foldl (fun o removal => o.remove removal.1.1 removal.1.2 removal.2) b.observer := by
    intro removes
    induction removes with
    | nil => exact fun _ => rfl
    | cons removal removes ih =>
      intro b
      rw [List.foldl_cons, List.foldl_cons, ih, observer_remove]
  have h := hremoves a.pendingRemoves { a with dispatching := false }
  exact congrArg (fun o : EventObserver => { o with pendingRemoves := [] }) h

theorem finishDispatch_autoPool (a : Apps) : a.finishDispatch.autoPool = a.autoPool :=
  (Attempts.foldl_chain .refl .trans (f := fun (a : Apps) (removal : EntityKey × Int) =>
    a.observerRemove removal.1.1 removal.1.2 removal.2)
    (fun a _ => beside_observerRemove a _ _ _) a.pendingRemoves
    { a with dispatching := false }).autoPool

/-- The autos of a combat are registered under the warriors that host them. -/
def Keyed (combatId : Int) (a : Apps) : Prop :=
  ∀ autoId x, a.autoes (combatId, autoId) = some x → a.autoKey x = (combatId, autoId)

theorem Counting.keyed (h : a.Counting) (combatId : Int) : Keyed combatId a := by
  intro autoId x hx
  have hhost : (a.auto x).host = some (combatId, autoId) := (h.registered _ x hx).2
  rw [autoKey, hhost]
  rfl

theorem Handled.keyed {combatId : Int} (h : Handled x a b) (hkeyed : Keyed combatId a) :
    Keyed combatId b := by
  intro autoId y hy
  rw [h.autoes] at hy
  by_cases hyx : y = x
  · rw [hyx] at hy ⊢
    exact h.key.trans (hkeyed autoId x hy)
  · rw [autoKey, h.others y hyx]
    exact hkeyed autoId y hy

/-- What calling the autos of a list does to the AI. -/
structure Swept (combatId : Int) (autoIds : List Int) (a b : Apps) : Prop where
  keyed : Keyed combatId b
  autoes : b.autoes = a.autoes
  originPos : b.originPos = a.originPos
  others : ∀ y, (∀ autoId ∈ autoIds, a.autoes (combatId, autoId) ≠ some y) → b.auto y = a.auto y
  calls : ∃ calls, Performs .callback a.observer calls b.observer ∧
    ∀ call ∈ calls, ∃ autoId ∈ autoIds, Own autoId call

section Dispatch

variable {combatId entityId : Int} {handler : Apps → Ptr → Apps}

theorem Swept.callAuto (hhandler : ∀ a x, Handled x a (handler a x)) (hkeyed : Keyed combatId a)
    (autoId : Int) : Swept combatId [autoId] a (callAuto combatId handler a autoId) := by
  rw [Apps.callAuto]
  split
  · exact ⟨hkeyed, rfl, rfl, fun _ _ => rfl, [], .done _, by simp⟩
  · rename_i x hx
    have h := hhandler a x
    refine ⟨h.keyed hkeyed, h.autoes, h.originPos, fun y hy => h.others y ?_, ?_⟩
    · rintro rfl
      exact hy autoId (List.mem_singleton.mpr rfl) hx
    · obtain ⟨calls, hcalls, hown⟩ := h.calls
      refine ⟨calls, hcalls, fun call hcall => ⟨autoId, List.mem_singleton.mpr rfl, ?_⟩⟩
      have hcall := hown call hcall
      rwa [hkeyed autoId x hx] at hcall

theorem Swept.callAutos (hhandler : ∀ a x, Handled x a (handler a x)) (hkeyed : Keyed combatId a)
    (autoIds : List Int) : Swept combatId autoIds a (callAutos combatId handler autoIds a) := by
  induction autoIds generalizing a with
  | nil => exact ⟨hkeyed, rfl, rfl, fun _ _ => rfl, [], .done _, by simp⟩
  | cons autoId autoIds ih =>
    have hfirst := Swept.callAuto hhandler hkeyed autoId
    have hrest := ih hfirst.keyed
    refine ⟨hrest.keyed, hrest.autoes.trans hfirst.autoes, hrest.originPos.trans hfirst.originPos,
      fun y hy => ?_, ?_⟩
    · refine (hrest.others y fun i hi => ?_).trans (hfirst.others y fun i hi => ?_)
      · rw [hfirst.autoes]
        exact hy i (List.mem_cons_of_mem _ hi)
      · exact hy i (List.mem_cons.mpr (.inl (List.mem_singleton.mp hi)))
    · obtain ⟨calls, hcalls, hown⟩ := hfirst.calls
      obtain ⟨calls', hcalls', hown'⟩ := hrest.calls
      refine ⟨calls ++ calls', hcalls.append hcalls', fun call hcall => ?_⟩
      rcases List.mem_append.mp hcall with hmem | hmem
      · obtain ⟨i, hi, hi'⟩ := hown call hmem
        exact ⟨i, List.mem_cons.mpr (.inl (List.mem_singleton.mp hi)), hi'⟩
      · obtain ⟨i, hi, hi'⟩ := hown' call hmem
        exact ⟨i, List.mem_cons_of_mem _ hi, hi'⟩

theorem leave_not_mem {autoIds : List Int} {calls : List ObserverCall}
    (hown : ∀ call ∈ calls, ∃ autoId ∈ autoIds, Own autoId call) : Event.leave ∉ calls := by
  intro hmem
  obtain ⟨_, -, key, hadd | hremove⟩ := hown _ hmem
  · cases hadd
  · cases hremove

/-- During a dispatch nobody leaves, and who comes is called. -/
theorem Swept.observers {autoIds : List Int} (h : Swept combatId autoIds a b)
    (hdispatching : a.dispatching = true) :
    b.dispatching = true ∧ ∀ key autoId,
      (autoId ∈ a.observers key → autoId ∈ b.observers key) ∧
      (autoId ∈ b.observers key → autoId ∈ a.observers key ∨ autoId ∈ autoIds) := by
  obtain ⟨calls, hcalls, hown⟩ := h.calls
  have hleave := leave_not_mem hown
  obtain ⟨hserving, hpresent⟩ := State.run_grows calls (s := a.observer.toState) hdispatching hleave
  rw [← hcalls.toState] at hserving hpresent
  refine ⟨hserving, fun key autoId => ⟨fun hmem => ?_, fun hmem => ?_⟩⟩
  · have htriple : (key, autoId) ∈ a.observer.toState.present := hmem
    have hstays := Set.mem_union_left {triple | Event.add triple ∈ calls} htriple
    rw [← hpresent] at hstays
    exact hstays
  · have htriple : (key, autoId) ∈ b.observer.toState.present := hmem
    rw [hpresent] at htriple
    rcases htriple with hold | hnew
    · exact .inl hold
    · obtain ⟨i, hi, k, hadd | hremove⟩ := hown _ hnew
      · injection hadd with htriple
        rw [(Prod.mk.inj htriple).2]
        exact .inr hi
      · cases hremove

/-- The loop of a dispatch over the set it began with is the loop over the set as it is by
then. -/
theorem callAutos_performs (hhandler : ∀ a x, Handled x a (handler a x)) (rest : List Int) :
    ∀ (visited : List Int) (a : Apps), Keyed combatId a → a.dispatching = true →
      (a.observers (combatId, entityId)).toList = visited ++ rest →
      ∃ calls, Performs (.loop (combatId, entityId) visited.getLast?) a.observer calls
        (callAutos combatId handler rest a).observer := by
  induction rest with
  | nil =>
    intro visited a _ _ hlist
    exact ⟨[], .last (nextAuto_suffix hlist)⟩
  | cons autoId rest ih =>
    intro visited a hkeyed hdispatching hlist
    have hfirst := Swept.callAuto hhandler hkeyed autoId
    obtain ⟨hserving, hobservers⟩ := hfirst.observers hdispatching
    have hhere : autoId ∈ a.observers (combatId, entityId) := by
      rw [← ExtTreeSet.mem_toList, hlist]
      simp
    have hsame : (callAuto combatId handler a autoId).observers (combatId, entityId) =
        a.observers (combatId, entityId) := by
      refine ExtTreeSet.ext_mem fun i => ⟨fun hi => ?_, (hobservers _ i).1⟩
      rcases (hobservers _ i).2 hi with hold | hnew
      · exact hold
      · rwa [List.mem_singleton.mp hnew]
    obtain ⟨calls, hcalls, hown⟩ := hfirst.calls
    have hkeeps : a.observer.Keeps (combatId, entityId) autoId calls :=
      keeps_of_flat hdispatching (leave_not_mem hown) hhere
    obtain ⟨calls', hcalls'⟩ := ih (visited ++ [autoId]) _ hfirst.keyed hserving
      (by rw [hsame, hlist, List.append_assoc]; rfl)
    rw [List.getLast?_concat] at hcalls'
    exact ⟨calls ++ calls', .visit (nextAuto_suffix hlist) hcalls hkeeps hcalls'⟩

/-- A dispatch of the AI is a dispatch of the event observer. -/
theorem dispatch_performs (hhandler : ∀ a x, Handled x a (handler a x))
    (hkeyed : Keyed combatId a) :
    ∃ calls, Performs (.dispatch (combatId, entityId)) a.observer calls
      (a.dispatch combatId entityId handler).observer := by
  cases hsome : (a.observers (combatId, entityId)).isEmpty with
  | true =>
    rw [dispatch, if_pos hsome]
    exact ⟨[], .nobody hsome⟩
  | false =>
    rw [dispatch_eq handler hsome, observer_finishDispatch]
    have hlist : (({ a with dispatching := true } : Apps).observers (combatId, entityId)).toList =
        [] ++ (a.observers (combatId, entityId)).toList := rfl
    obtain ⟨calls, hcalls⟩ := callAutos_performs hhandler
      (a.observers (combatId, entityId)).toList [] { a with dispatching := true } hkeyed rfl hlist
    exact ⟨_, .served hsome hcalls⟩

/-- The three handlers that the AI dispatches change the observer by what they call. -/
theorem handlers_perform (hkeyed : Keyed combatId a) (entity : CombatEntity) (m : CombatManagers)
    (warriorId : Int) {handler : Apps → Ptr → Apps}
    (hhandler : handler = onTargetLost entity ∨ handler = onAttacked m entity.id warriorId ∨
      handler = onMoveStep m warriorId) :
    ∃ calls, Performs (.dispatch (combatId, entity.id)) a.observer calls
      (a.dispatch combatId entity.id handler).observer := by
  refine dispatch_performs (fun b x => ?_) hkeyed
  obtain rfl | rfl | rfl := hhandler
  · exact handled_onTargetLost entity b x
  · exact handled_onAttacked m entity.id warriorId b x
  · exact handled_onMoveStep m warriorId b x

end Dispatch

end Apps

end Mysya
