import Mysya.AutoHandlers
import Mysya.BuildingRecovery

/-!
# Attackers that lose their target

A warrior steps out of the range of an auto that attacks it. The auto goes to chase, but the
status it leaves resets the target that the chase is for. So it goes on to search.
-/

open Std OwnedTimers GuardedRuns DeferredRemovals

namespace Mysya

namespace Apps

open EventObserver

variable {a b : Apps} {x w : Ptr} {m : CombatManagers} {combatId autoId warriorId : Int}

/-- The auto chases or attacks the target, and is told about it. -/
structure KeepsTarget (combatId autoId : Int) (x : Ptr) (entity : CombatEntity) (a : Apps) :
    Prop where
  status : (a.auto x).presentStatus = some .chase ∨ (a.auto x).presentStatus = some .attack
  target : (a.auto x).target = entity
  observing : autoId ∈ a.observers (combatId, entity.id)

/-- The warrior that the auto attacks is out of its range. -/
structure SteppedOut (m : CombatManagers) (combatId autoId warriorId : Int) (x : Ptr) (a : Apps) :
    Prop where
  listed : a.autoes (combatId, autoId) = some x
  attacking : (a.auto x).presentStatus = some .attack
  target : (a.auto x).target = ⟨.warrior, warriorId⟩
  away : ∃ distance warrior, a.getTargetDistance m x = some distance ∧
    m.getWarrior combatId autoId = some warrior ∧ warrior.attackRange < distance

/-- The way from the warrior of the auto to its target. -/
def pathToTarget (m : CombatManagers) (a : Apps) (x : Ptr) : Option (List Position) :=
  (a.autoCombat m x).bind fun combat => (a.targetPos m x).bind fun pos =>
    (a.scenes combat.id).bind fun sc =>
      (a.scene sc).warriors[(a.autoKey x).2]?.bind fun w =>
        ((a.scene sc).searchPath a.searchFuel (a.warriorPos w) pos []).map Prod.snd

/-! ## The transition -/

theorem live_of_status (h : (a.auto x).presentStatus ≠ none) : (a.autoPool.objects x).isSome := by
  rw [auto, PoolTemplate.read] at h
  cases hobject : a.autoPool.objects x with
  | none =>
    rw [hobject] at h
    exact absurd rfl h
  | some auto => rfl

theorem resetTarget_target (hlive : (a.autoPool.objects x).isSome) :
    ((a.resetTarget x).auto x).target.id = 0 := by
  rw [resetTarget]
  split
  · assumption
  · have hremoved := handled_observerRemove (x := x) a (a.autoKey x).1 (a.auto x).target.id
    dsimp only
    rw [modifyAuto_self (hremoved.live.trans hlive)]

theorem switchStatus_status (hlive : (a.autoPool.objects x).isSome) (status : AutoStatus) :
    ((a.switchStatus x status).auto x).presentStatus = some status := by
  have hstop : ((a.stopPresentStatus x).autoPool.objects x).isSome :=
    (handled_stopPresentStatus a x).live.trans hlive
  show (((a.stopPresentStatus x).modifyAuto x fun auto =>
    { auto with presentStatus := some status }).auto x).presentStatus = some status
  rw [modifyAuto_self hstop]

/-- Leaving the attack resets the target. -/
theorem switchStatus_target (hattack : (a.auto x).presentStatus = some .attack)
    (status : AutoStatus) : ((a.switchStatus x status).auto x).target.id = 0 := by
  have hlive := live_of_status (a := a) (x := x) (by simp [hattack])
  have hreset : (((a.changeTargetedNum x (-1)).resetAttackTimer x).autoPool.objects x).isSome :=
    ((handled_changeTargetedNum a x (-1)).trans (handled_resetAttackTimer _ x)).live.trans hlive
  have hzero : ((a.stopPresentStatus x).auto x).target.id = 0 := by
    rw [stopPresentStatus, hattack]
    refine Eq.trans ?_ (resetTarget_target hreset)
    exact congrArg (fun pool => (pool.read x).target.id)
      (beside_observerRemove (a.stopAttack x) _ _ _).autoPool
  show (((a.stopPresentStatus x).modifyAuto x fun auto =>
    { auto with presentStatus := some status }).auto x).target.id = 0
  rw [modifyAuto_self ((handled_stopPresentStatus a x).live.trans hlive)]
  exact hzero

theorem gotoSearch_status (hlive : (a.autoPool.objects x).isSome) :
    ((a.gotoSearch x).auto x).presentStatus = some .search := by
  have hswitch : ((a.switchStatus x .search).autoPool.objects x).isSome :=
    (handled_switchStatus a x .search).live.trans hlive
  rw [gotoSearch, startSearch]
  dsimp only
  rw [modifyAuto_self ((handled_startTimer _ x 200 (.search x) (-1)).live.trans hswitch)]
  exact switchStatus_status hlive .search

/-- There is no way to a target that was reset. -/
theorem chase_of_reset (hzero : (a.auto x).target.id = 0) : a.chase m x = a.gotoSearch x := by
  rw [chase, checkTargetAttackReachable, getTargetDistance, if_pos hzero, moveTarget, if_pos hzero]
  rfl

theorem gotoChase_lost (hattack : (a.auto x).presentStatus = some .attack) :
    ((a.gotoChase m x).auto x).presentStatus = some .search := by
  have hlive := live_of_status (a := a) (x := x) (by simp [hattack])
  rw [gotoChase, chase_of_reset (switchStatus_target hattack .chase)]
  exact gotoSearch_status ((handled_switchStatus a x .chase).live.trans hlive)

theorem SteppedOut.onMoveStep (h : SteppedOut m combatId autoId warriorId x a)
    (hkeyed : Keyed combatId a) :
    ((onMoveStep m warriorId a x).auto x).presentStatus = some .search := by
  obtain ⟨distance, warrior, hdistance, hwarrior, haway⟩ := h.away
  have hkey := hkeyed autoId x h.listed
  rw [Apps.onMoveStep, h.attacking]
  dsimp only
  rw [if_neg (by simp [h.target]), hdistance, hkey, hwarrior]
  dsimp only
  rw [if_pos haway]
  exact gotoChase_lost h.attacking

/-! ## The dispatch -/

theorem SteppedOut.congr (h : SteppedOut m combatId autoId warriorId x a)
    (hautoes : b.autoes = a.autoes) (hauto : b.auto x = a.auto x)
    (horiginPos : b.originPos = a.originPos) : SteppedOut m combatId autoId warriorId x b where
  listed := by rw [hautoes]; exact h.listed
  attacking := by rw [hauto]; exact h.attacking
  target := by rw [hauto]; exact h.target
  away := by
    obtain ⟨distance, warrior, hdistance, haway⟩ := h.away
    refine ⟨distance, warrior, ?_, haway⟩
    rw [← hdistance]
    simp only [getTargetDistance, targetPos, autoCombat, autoKey, hauto, horiginPos]

theorem nodup_toList (autos : ExtTreeSet Int) : autos.toList.Nodup := by
  refine autos.ordered_toList.imp fun hlt heq => ?_
  rw [heq] at hlt
  exact absurd (compare_lt_iff_lt.mp hlt) (lt_irrefl _)

theorem KeepsTarget.not_search {entity : CombatEntity}
    (hsearch : (a.auto x).presentStatus = some .search) :
    ¬ KeepsTarget combatId autoId x entity a := by
  intro h
  rcases h.status with hstatus | hstatus
  · rw [hsearch] at hstatus
    cases hstatus
  · rw [hsearch] at hstatus
    cases hstatus

/-- An auto that is not told about the step does not begin to be. -/
theorem dispatch_unobserved (hkeyed : Keyed combatId a)
    (hout : autoId ∉ a.observers (combatId, warriorId)) :
    autoId ∉ (a.dispatch combatId warriorId (onMoveStep m warriorId)).observers
      (combatId, warriorId) := by
  cases hsome : (a.observers (combatId, warriorId)).isEmpty with
  | true =>
    rw [Apps.dispatch, if_pos hsome]
    exact hout
  | false =>
    rw [dispatch_eq _ hsome]
    intro hmem
    have hstart : Keyed combatId { a with dispatching := true } := hkeyed
    have hswept := Swept.callAutos (handled_onMoveStep m warriorId) hstart
      (a.observers (combatId, warriorId)).toList
    generalize callAutos combatId (onMoveStep m warriorId)
      (a.observers (combatId, warriorId)).toList { a with dispatching := true } = b at hmem hswept
    have hsettled :
        ((combatId, warriorId), autoId) ∈ b.finishDispatch.observer.toState.present := hmem
    rw [observer_finishDispatch, toState_finishDispatch] at hsettled
    rcases ((hswept.observers rfl).2 _ _).2 hsettled.1 with hold | hlisted
    · exact hout hold
    · exact hout (ExtTreeSet.mem_toList.mp hlisted)

/-- The round of the auto is the only one that changes it. -/
theorem SteppedOut.dispatch_status (h : SteppedOut m combatId autoId warriorId x a)
    (hkeyed : Keyed combatId a) (hin : autoId ∈ a.observers (combatId, warriorId)) :
    ((a.dispatch combatId warriorId (Apps.onMoveStep m warriorId)).auto x).presentStatus =
      some .search := by
  have hsome : (a.observers (combatId, warriorId)).isEmpty = false := by
    rw [ExtTreeSet.isEmpty_eq_false_iff]
    intro hempty
    rw [hempty] at hin
    exact ExtTreeSet.not_mem_empty hin
  rw [dispatch_eq _ hsome]
  obtain ⟨before, after, hlist⟩ := List.append_of_mem (ExtTreeSet.mem_toList.mpr hin)
  have hnodup := nodup_toList (a.observers (combatId, warriorId))
  rw [hlist] at hnodup ⊢
  obtain ⟨-, hafter, hapart⟩ := List.nodup_append.mp hnodup
  have hbefore : autoId ∉ before := fun hmem => hapart autoId hmem autoId List.mem_cons_self rfl
  have hafter : autoId ∉ after := (List.nodup_cons.mp hafter).1
  have hother : ∀ {b : Apps} {autoIds : List Int}, Keyed combatId b → b.autoes = a.autoes →
      autoId ∉ autoIds → ∀ i ∈ autoIds, b.autoes (combatId, i) ≠ some x := by
    intro b autoIds hb hautoes hnot i hi hx
    have hi' := hb i x hx
    have hx' := hb autoId x (by rw [hautoes]; exact h.listed)
    rw [hx'] at hi'
    obtain rfl : autoId = i := congrArg Prod.snd hi'
    exact hnot hi
  have hstart : Keyed combatId { a with dispatching := true } := hkeyed
  rw [callAutos, List.foldl_append, List.foldl_cons]
  have hfirst := Swept.callAutos (handled_onMoveStep m warriorId) hstart before
  have hout : SteppedOut m combatId autoId warriorId x _ :=
    h.congr hfirst.autoes (hfirst.others x (hother hstart rfl hbefore)) hfirst.originPos
  rw [callAutos] at hfirst hout
  generalize before.foldl (callAuto combatId (Apps.onMoveStep m warriorId))
    { a with dispatching := true } = b at hfirst hout ⊢
  have hround : callAuto combatId (Apps.onMoveStep m warriorId) b autoId =
      Apps.onMoveStep m warriorId b x := by
    rw [callAuto, hout.listed]
  have hsecond := Swept.callAuto (handled_onMoveStep m warriorId) hfirst.keyed autoId
  have hthird := Swept.callAutos (handled_onMoveStep m warriorId) hsecond.keyed after
  have hautoes := hsecond.autoes.trans hfirst.autoes
  have hkept := hthird.others x (hother hsecond.keyed hautoes hafter)
  rw [callAutos] at hkept
  have hfinish := congrArg (fun pool : PoolTemplate Auto => (pool.read x).presentStatus)
    (finishDispatch_autoPool (after.foldl (callAuto combatId (Apps.onMoveStep m warriorId))
      (callAuto combatId (Apps.onMoveStep m warriorId) b autoId)))
  refine hfinish.trans ((congrArg Auto.presentStatus hkept).trans ?_)
  rw [hround]
  exact hout.onMoveStep hfirst.keyed

theorem SteppedOut.dispatch (h : SteppedOut m combatId autoId warriorId x a)
    (hkeyed : Keyed combatId a) :
    ¬ KeepsTarget combatId autoId x ⟨.warrior, warriorId⟩
      (a.dispatch combatId warriorId (Apps.onMoveStep m warriorId)) := by
  by_cases hin : autoId ∈ a.observers (combatId, warriorId)
  · exact KeepsTarget.not_search (h.dispatch_status hkeyed hin)
  · exact fun hkeeps => dispatch_unobserved hkeyed hin hkeeps.observing

/-! ## The steps of a move -/

/-- What `MoveStep` is about to tell: the combat, the warrior, and the AI by then. -/
def moveStepEvent (a : Apps) (w : Ptr) : Option (Int × Int × Apps) :=
  match (a.warrior w).scene with
  | none => none
  | some sc =>
    match (a.scene sc).getGrid (a.warriorPos w) with
    | none => none
    | some i =>
      let nextPos := ((a.warrior w).movePaths[(a.warrior w).pathIndex.toNat]?).getD ⟨0, 0⟩
      let a := a.modifyWarrior w fun warrior => { warrior with pathIndex := warrior.pathIndex + 1 }
      match (a.scene sc).getGrid nextPos with
      | none => none
      | some j =>
        let a := a.stepTo sc w i j nextPos
        some ((a.scene sc).host.getD 0, (a.warriorEntity w).id, a)

theorem moveStep_of_event (h : a.moveStepEvent w = some (combatId, warriorId, b)) :
    a.moveStep m w = b.dispatch combatId warriorId (onMoveStep m warriorId) := by
  rw [moveStepEvent] at h
  split at h
  · cases h
  · rename_i sc hscene
    split at h
    · cases h
    · rename_i i hgrid
      dsimp only at h
      split at h
      · cases h
      · rename_i j hnext
        rw [Option.some.injEq, Prod.mk.injEq, Prod.mk.injEq] at h
        obtain ⟨rfl, rfl, rfl⟩ := h
        rw [moveStep, hscene]
        dsimp only
        rw [hgrid]
        dsimp only
        rw [hnext]

theorem moveStepEvent_autos (h : a.moveStepEvent w = some (combatId, warriorId, b)) :
    b.autoes = a.autoes ∧ b.autoPool = a.autoPool := by
  rw [moveStepEvent] at h
  split at h
  · cases h
  · split at h
    · cases h
    · dsimp only at h
      split at h
      · cases h
      · rw [Option.some.injEq, Prod.mk.injEq, Prod.mk.injEq] at h
        obtain ⟨-, -, rfl⟩ := h
        rw [stepTo]
        dsimp only
        split
        · exact ⟨(outside_moveReset _ w).autoes, (outside_moveReset _ w).autoPool⟩
        · exact ⟨rfl, rfl⟩

end Apps

namespace Server

open Apps

/-- The step of a move that a timer makes next, if it does. -/
def moveStepEvent (s : Server) (timerId : Int) : Option (Int × Int × Apps) :=
  match s.apps.timers.expire timerId with
  | some (.move w, timers) =>
    if s.bound (.move w) then { s.apps with timers := timers }.moveStepEvent w else none
  | _ => none

/-- The auto of a warrior whose target steps out of its range does not keep it, in no run. -/
theorem attacker_loses_target (configs : Configs) (memory : Memory) (s : Server)
    (hs : Reaches (fun s a => some (step s a)) (fun _ _ => True) (started configs memory) s)
    {timerId combatId warriorId autoId : Int} {x : Ptr} {a : Apps}
    (hevent : s.moveStepEvent timerId = some (combatId, warriorId, a))
    (hout : SteppedOut s.managers combatId autoId warriorId x a) :
    ¬ KeepsTarget combatId autoId x ⟨.warrior, warriorId⟩ (s.step (.expire timerId)).apps := by
  have htallies : s.Tallies :=
    hs.invariant (started_tallies configs memory) fun s action s' h _ hstep => by
      cases hstep
      exact h.step action
  rw [moveStepEvent] at hevent
  split at hevent
  · rename_i w timers hexpire
    split at hevent
    · rename_i hbound
      have hautos := moveStepEvent_autos hevent
      have hkeyed : Keyed combatId a := by
        intro i y hy
        rw [hautos.1] at hy
        have hkey := htallies.2.1.keyed combatId i y hy
        rw [autoKey, auto] at hkey ⊢
        rwa [hautos.2]
      have hstep : (s.step (.expire timerId)).apps =
          a.dispatch combatId warriorId (onMoveStep s.managers warriorId) := by
        rw [← moveStep_of_event hevent]
        show (s.expire timerId).apps = _
        rw [expire, hexpire]
        dsimp only
        rw [if_pos (by exact hbound)]
        rfl
      rw [hstep]
      exact hout.dispatch hkeyed
    · cases hevent
  · cases hevent

/-- Two roles with a building and a kind of warrior each. -/
def duel (attackRange posX : Int) : CombatInitialData where
  mapId := 1
  maxTime := 60
  camps := [
    { id := 1
      initFood := 10
      maxFood := 100
      initElixir := 10
      maxElixir := 100
      roles := [⟨7, "role", [⟨1, 1, 10, 20, 1, 1, 1, attackRange, 5, 1, 1⟩],
        [⟨1, 1, 50, 1, 0, 1, 5, 1, 1⟩]⟩]
      buildings := [] },
    { id := 2
      initFood := 10
      maxFood := 100
      initElixir := 10
      maxElixir := 100
      roles := [⟨8, "rival", [⟨1, 1, 10, 20, 1, 1, 1, attackRange, 5, 1, 1⟩],
        [⟨2, 1, 10, posX, 0, 1, 5, 1, 1⟩]⟩]
      buildings := [] }]

def meadow : Server :=
  .small (fun _ => some ⟨2, 4, ['0', '0', '0', '0', '0', '0', '0', '0']⟩) ⟨[some 0],
    [some 0, some 1], [true, true], [true, true], [some 0], [some 0, some 1], [some 0, some 1],
    [some 0, some 1], [some 0, some 1]⟩

/-- One warrior has found the other, which is sent away. -/
def engaged : Server :=
  ((((((meadow.step (.accept 0)).step (.deploy 0 5 (duel 2 3))).step (.begin 0 0)).step
    (.build 7 1 1)).step (.build 8 1 2)).step (.expire 4)).step (.move 8 [4] ⟨3, 1⟩)

theorem engaged_reached :
    Reaches (fun s a => some (step s a)) (fun _ _ => True) meadow engaged :=
  (((((((Reaches.refl.snoc (.accept 0) trivial rfl).snoc (.deploy 0 5 (duel 2 3)) trivial rfl).snoc
    (.begin 0 0) trivial rfl).snoc (.build 7 1 1) trivial rfl).snoc (.build 8 1 2) trivial rfl).snoc
    (.expire 4) trivial rfl).snoc (.move 8 [4] ⟨3, 1⟩) trivial rfl)

theorem engaged_event : ∃ a, engaged.moveStepEvent 7 = some (0, 4, a) ∧
    SteppedOut engaged.managers 0 3 4 0 a ∧
    ∃ paths, a.pathToTarget engaged.managers 0 = some paths ∧ paths ≠ [] := by
  have hfacts : ((engaged.moveStepEvent 7).map fun event => ((event.1, event.2.1),
        event.2.2.autoes (0, 3), (event.2.2.auto 0).presentStatus)) =
          some ((0, 4), some 0, some .attack) ∧
      ((engaged.moveStepEvent 7).map fun event => ((event.2.2.auto 0).target,
        event.2.2.getTargetDistance engaged.managers 0)) = some (⟨.warrior, 4⟩, some 3) ∧
      ((engaged.moveStepEvent 7).map fun event =>
        (event.2.2.pathToTarget engaged.managers 0).map List.length) = some (some 3) ∧
      (engaged.managers.getWarrior 0 3).map CombatWarriorField.attackRange = some 2 := by
    decide +kernel
  obtain ⟨hevent, htarget, hpath, hrange⟩ := hfacts
  obtain ⟨warrior, hwarrior, hrange⟩ := Option.map_eq_some_iff.mp hrange
  obtain ⟨⟨c, w, a⟩, hevent, hauto⟩ := Option.map_eq_some_iff.mp hevent
  rw [hevent, Option.map_some, Option.some.injEq] at htarget hpath
  simp only [Prod.mk.injEq] at hauto htarget
  obtain ⟨⟨rfl, rfl⟩, hlisted, hattacking⟩ := hauto
  obtain ⟨paths, hpaths, hlength⟩ := Option.map_eq_some_iff.mp hpath
  exact ⟨a, hevent, ⟨hlisted, hattacking, htarget.1, 3, warrior, htarget.2, hwarrior, by omega⟩,
    paths, hpaths, fun hnil => by simp [hnil] at hlength⟩

theorem attacker_loses_target_engaged : ∃ a, engaged.moveStepEvent 7 = some (0, 4, a) ∧
    ¬ KeepsTarget 0 3 0 ⟨.warrior, 4⟩ (engaged.step (.expire 7)).apps := by
  obtain ⟨a, hevent, hout, -⟩ := engaged_event
  exact ⟨a, hevent, attacker_loses_target _ _ engaged engaged_reached hevent hout⟩

/-- The other is a living enemy, and there is a way to it. -/
theorem target_lost_engaged : ¬ ∀ (configs : Configs) (memory : Memory) (s : Server),
    Reaches (fun s a => some (step s a)) (fun _ _ => True) (started configs memory) s →
    ∀ (timerId combatId warriorId autoId : Int) (x : Ptr) (a : Apps),
      s.moveStepEvent timerId = some (combatId, warriorId, a) →
      SteppedOut s.managers combatId autoId warriorId x a →
      (∃ warrior enemy, s.managers.getWarrior combatId autoId = some warrior ∧
        s.managers.getWarrior combatId warriorId = some enemy ∧
        enemy.campId ≠ warrior.campId ∧ 0 < enemy.hp) →
      (∃ paths, a.pathToTarget s.managers x = some paths ∧ paths ≠ []) →
      KeepsTarget combatId autoId x ⟨.warrior, warriorId⟩ (s.step (.expire timerId)).apps := by
  intro h
  obtain ⟨a, hevent, hout, hpath⟩ := engaged_event
  have hcamps : (engaged.managers.getWarrior 0 3).map CombatWarriorField.campId = some 1 ∧
      (engaged.managers.getWarrior 0 4).map (fun enemy => (enemy.campId, enemy.hp)) =
        some (2, 10) := by
    decide +kernel
  obtain ⟨warrior, hwarrior, hcamp⟩ := Option.map_eq_some_iff.mp hcamps.1
  obtain ⟨enemy, henemy, hother⟩ := Option.map_eq_some_iff.mp hcamps.2
  obtain ⟨hother, hhp⟩ := Prod.mk.inj hother
  have hkeeps := h _ _ engaged engaged_reached 7 0 4 3 0 a hevent hout
    ⟨warrior, enemy, hwarrior, henemy, by omega, by omega⟩ hpath
  have hsearch : ((engaged.step (.expire 7)).apps.auto 0).presentStatus = some .search := by
    decide +kernel
  exact KeepsTarget.not_search hsearch hkeeps

end Server

end Mysya
