import Mysya.SceneApp
import Mathlib.Data.Nat.Sqrt

/-!
# The AI of the combat server

`AutoManager` and `BuildingManager`, the three statuses of an `Auto`, and
`EventObserver`, which hands an event about an entity to the autos that observe it.
While it does, removals wait until the end. No handler of an event hands out another
event, and what one adds to the observers of the entity at hand is there already.
-/

open Std OwnedTimers

namespace Mysya.Apps

def auto (a : Apps) (x : Ptr) : Auto := a.autoPool.read x

def modifyAuto (a : Apps) (x : Ptr) (change : Auto → Auto) : Apps :=
  { a with autoPool := a.autoPool.modify x change }

/-- `GetGlobalId` of an auto: its combat id and its id. -/
def autoKey (a : Apps) (x : Ptr) : EntityKey := (a.auto x).host.getD (0, 0)

/-! ## Observers -/

def observerAdd (a : Apps) (combatId entityId autoId : Int) : Apps :=
  { a with
    observers := Function.update a.observers (combatId, entityId)
      ((a.observers (combatId, entityId)).insert autoId) }

def observerRemove (a : Apps) (combatId entityId autoId : Int) : Apps :=
  if a.dispatching then
    { a with pendingRemoves := a.pendingRemoves ++ [((combatId, entityId), autoId)] }
  else
    { a with
      observers := Function.update a.observers (combatId, entityId)
        ((a.observers (combatId, entityId)).erase autoId) }

/-- `EventObserver::Dispatch`, given what is called with each auto. -/
def dispatch (a : Apps) (combatId entityId : Int) (handler : Apps → Ptr → Apps) : Apps :=
  if (a.observers (combatId, entityId)).isEmpty then a
  else
    let a := (a.observers (combatId, entityId)).toList.foldl (fun a autoId =>
      match a.autoes (combatId, autoId) with
      | none => a
      | some x => handler a x) { a with dispatching := true }
    let a := { a with dispatching := false }
    let a := a.pendingRemoves.foldl (fun a removal =>
      a.observerRemove removal.1.1 removal.1.2 removal.2) a
    { a with pendingRemoves := [] }

/-- What the handler and the changes to the observers keep is kept by a dispatch. -/
theorem dispatch_rule {I : Apps → Prop} {a : Apps} {combatId entityId : Int}
    {handler : Apps → Ptr → Apps} (h : I a) (hbegin : I a → I { a with dispatching := true })
    (hcall : ∀ b autoId x, b.autoes (combatId, autoId) = some x → I b → I (handler b x))
    (hend : ∀ b, I b → I { b with dispatching := false })
    (hremove : ∀ b combatId entityId autoId, I b → I (b.observerRemove combatId entityId autoId))
    (hdone : ∀ b, I b → I { b with pendingRemoves := [] }) :
    I (a.dispatch combatId entityId handler) := by
  rw [dispatch]
  split
  · exact h
  · refine hdone _ (List.foldlRecOn _ _ (hend _ (List.foldlRecOn _ _ (hbegin h) ?_)) ?_)
    · intro b hb autoId _
      split
      · exact hb
      · rename_i x hx
        exact hcall b autoId x hx hb
    · intro b hb removal _
      exact hremove b _ _ _ hb

/-! ## Targets -/

def setTarget (a : Apps) (x : Ptr) (type : CombatEntityType) (id : Int) : Apps :=
  let a := a.modifyAuto x fun auto => { auto with target := ⟨type, id⟩ }
  a.observerAdd (a.autoKey x).1 id (a.autoKey x).2

def resetTarget (a : Apps) (x : Ptr) : Apps :=
  if (a.auto x).target.id = 0 then a
  else
    let a := a.observerRemove (a.autoKey x).1 (a.auto x).target.id (a.autoKey x).2
    a.modifyAuto x fun auto => { auto with target := { auto.target with id := 0 } }

/-- `GetHost()->GetRoleField()->GetCombatField()`. -/
def autoCombat (m : CombatManagers) (a : Apps) (x : Ptr) : Option CombatField :=
  (m.getWarrior (a.autoKey x).1 (a.autoKey x).2).bind fun warrior =>
    (m.role warrior.host).combatField.map m.combat

/-- Where the target of an auto is. -/
def targetPos (m : CombatManagers) (a : Apps) (x : Ptr) : Option Position :=
  (a.autoCombat m x).bind fun combat =>
    match (a.auto x).target.type with
    | .building => combat.buildings[(a.auto x).target.id]?.map fun building =>
        ⟨building.posX, building.posY⟩
    | .warrior => combat.warriors[(a.auto x).target.id]?.map fun _ =>
        a.originPos (combat.id, (a.auto x).target.id)

/-- `math::distance`: the square root of `n` to the nearest integer. -/
def distance (p q : Position) : Int :=
  let n := ((q.x - p.x) * (q.x - p.x) + (q.y - p.y) * (q.y - p.y)).toNat
  if n ≤ n.sqrt * n.sqrt + n.sqrt then n.sqrt else n.sqrt + 1

/-- `GetTargetDistance`, `none` for a negative one. -/
def getTargetDistance (m : CombatManagers) (a : Apps) (x : Ptr) : Option Int :=
  if (a.auto x).target.id = 0 then none
  else (a.targetPos m x).map fun pos => distance pos (a.originPos (a.autoKey x))

/-- `MoveTarget`. -/
def moveTarget (m : CombatManagers) (a : Apps) (x : Ptr) : Bool × Apps :=
  if (a.auto x).target.id = 0 then (false, a)
  else
    match a.autoCombat m x, a.targetPos m x with
    | some combat, some pos => a.onRequireSceneMove combat.id (a.autoKey x).2 pos
    | _, _ => (false, a)

/-- `SearchTarget`. -/
def searchTarget (m : CombatManagers) (a : Apps) (x : Ptr) : Bool × Apps :=
  match a.autoCombat m x, m.getWarrior (a.autoKey x).1 (a.autoKey x).2 with
  | some combat, some field =>
    match a.onRequireSceneFetch m combat.id field.campId (a.originPos (a.autoKey x))
        field.searchRange with
    | none => (false, a)
    | some (buildings, warriors) =>
      match warriors.find? combat.warriors.contains with
      | some warriorId => (true, a.setTarget x .warrior warriorId)
      | none =>
        match buildings.find? combat.buildings.contains with
        | some buildingId => (true, a.setTarget x .building buildingId)
        | none => (false, a)
  | _, _ => (false, a)

/-! ## Statuses -/

/-- `IncTargetedNum` or `DecTargetedNum` of the building that is the target. -/
def changeTargetedNum (a : Apps) (x : Ptr) (increment : Int) : Apps :=
  match (a.auto x).target.type with
  | .warrior => a
  | .building =>
    match a.buildings ((a.autoKey x).1, (a.auto x).target.id) with
    | none => a
    | some b => { a with buildingPool := a.buildingPool.modify b fun building =>
        { building with targetedNum := building.targetedNum + increment } }

def stopSearch (a : Apps) (x : Ptr) : Apps :=
  if (a.auto x).timerIdSearch = -1 then a
  else (a.stopTimer (a.auto x).timerIdSearch).modifyAuto x fun auto =>
    { auto with timerIdSearch := -1 }

def stopChase (a : Apps) (x : Ptr) : Apps :=
  if (a.auto x).timerIdRefindPath = -1 then a
  else (a.stopTimer (a.auto x).timerIdRefindPath).modifyAuto x fun auto =>
    { auto with timerIdRefindPath := -1, refindPath := false }

def resetAttackTimer (a : Apps) (x : Ptr) : Apps :=
  if (a.auto x).timerIdAttack = -1 then a
  else (a.stopTimer (a.auto x).timerIdAttack).modifyAuto x fun auto =>
    { auto with timerIdAttack := -1 }

def stopAttack (a : Apps) (x : Ptr) : Apps :=
  ((a.changeTargetedNum x (-1)).resetAttackTimer x).resetTarget x

/-- `present_status_->Stop()`. -/
def stopStatus (a : Apps) (x : Ptr) : AutoStatus → Apps
  | .search => a.stopSearch x
  | .chase => a.stopChase x
  | .attack => a.stopAttack x

/-- `StopPresentStatus`, where there is a present status. -/
def stopPresentStatus (a : Apps) (x : Ptr) : Apps :=
  match (a.auto x).presentStatus with
  | none => a
  | some status =>
    (a.stopStatus x status).observerRemove (a.autoKey x).1 (a.autoKey x).2 (a.autoKey x).2

/-- `AutoStatusSearch::Start`. -/
def startSearch (a : Apps) (x : Ptr) : Apps :=
  let (id, a) := a.startTimer 200 (.search x) (-1)
  a.modifyAuto x fun auto => { auto with timerIdSearch := id }

/-- `AutoStatusAttack::Start`. -/
def startAttack (m : CombatManagers) (a : Apps) (x : Ptr) : Apps :=
  let attackSpeed := match m.getWarrior (a.autoKey x).1 (a.autoKey x).2 with
    | none => 0
    | some warrior => warrior.attackSpeed
  let (id, a) := a.startTimer attackSpeed (.attack x) (-1)
  let a := a.modifyAuto x fun auto => { auto with timerIdAttack := id }
  let a := a.onEventCombatLockTarget (a.autoKey x).1 (a.autoKey x).2
  a.changeTargetedNum x 1

/-- The part of `GotoStatus` before the new status starts. -/
def switchStatus (a : Apps) (x : Ptr) (status : AutoStatus) : Apps :=
  let a := a.stopPresentStatus x
  let a := a.modifyAuto x fun auto => { auto with presentStatus := some status }
  a.observerAdd (a.autoKey x).1 (a.autoKey x).2 (a.autoKey x).2

def gotoSearch (a : Apps) (x : Ptr) : Apps := (a.switchStatus x .search).startSearch x

def gotoAttack (m : CombatManagers) (a : Apps) (x : Ptr) : Apps :=
  (a.switchStatus x .attack).startAttack m x

/-- `CheckTargetAttackReachable`. -/
def checkTargetAttackReachable (m : CombatManagers) (a : Apps) (x : Ptr) : Bool :=
  match a.getTargetDistance m x, m.getWarrior (a.autoKey x).1 (a.autoKey x).2 with
  | some targetDistance, some warrior => targetDistance ≤ warrior.attackRange
  | _, _ => false

/-- `AutoStatusChase::Start`, and what `OnTimerRefindPath` does after its resets. -/
def chase (m : CombatManagers) (a : Apps) (x : Ptr) : Apps :=
  if a.checkTargetAttackReachable m x then a.gotoAttack m x
  else
    match a.moveTarget m x with
    | (true, a) => a
    | (false, a) => a.gotoSearch x

def gotoChase (m : CombatManagers) (a : Apps) (x : Ptr) : Apps :=
  (a.switchStatus x .chase).chase m x

def setRefindPathTimer (a : Apps) (x : Ptr) : Apps :=
  let (id, a) := a.startTimer 600 (.refindPath x) 1
  a.modifyAuto x fun auto => { auto with timerIdRefindPath := id, refindPath := true }

/-! ## What the statuses do about events -/

/-- `EVENT_SCENE_MOVE_STEP`. -/
def onMoveStep (m : CombatManagers) (warriorId : Int) (a : Apps) (x : Ptr) : Apps :=
  match (a.auto x).presentStatus with
  | some .chase =>
    if (a.autoKey x).2 ≠ warriorId ∧ (a.auto x).target.id ≠ warriorId then a
    else if a.checkTargetAttackReachable m x then a.gotoAttack m x
    else if (a.auto x).target.id = warriorId ∧ (a.auto x).refindPath = false then
      a.setRefindPathTimer x
    else a
  | some .attack =>
    if (a.auto x).target ≠ ⟨.warrior, warriorId⟩ then a
    else
      match a.getTargetDistance m x, m.getWarrior (a.autoKey x).1 (a.autoKey x).2 with
      | some targetDistance, some warrior =>
        if warrior.attackRange < targetDistance then a.gotoChase m x else a
      | _, _ => a
  | _ => a

/-- `EVENT_COMBAT_DEATH` and `EVENT_COMBAT_CONVERT_CAMP` of the entity. -/
def onTargetLost (entity : CombatEntity) (a : Apps) (x : Ptr) : Apps :=
  match (a.auto x).presentStatus with
  | some .search => a
  | none => a
  | _ => if (a.auto x).target ≠ entity then a else a.gotoSearch x

/-- `EVENT_COMBAT_ATTACKED` of the host by a warrior. -/
def onAttacked (m : CombatManagers) (hostId warriorId : Int) (a : Apps) (x : Ptr) : Apps :=
  match (a.auto x).presentStatus with
  | some .search =>
    if hostId ≠ (a.autoKey x).2 then a
    else (a.setTarget x .warrior warriorId).gotoChase m x
  | _ => a

/-! ## Autos and buildings -/

/-- `Auto::Initialize`. -/
def initializeAuto (a : Apps) (x : Ptr) (key : EntityKey) : Apps :=
  let a := a.modifyAuto x fun auto => { auto with
    host := some key
    presentStatus := some .search
    target := ⟨.building, 0⟩ }
  (a.observerAdd key.1 key.2 key.2).startSearch x

/-- `Auto::Finalize`. -/
def finalizeAuto (a : Apps) (x : Ptr) : Apps :=
  let a := a.stopPresentStatus x
  let a := a.modifyAuto x fun auto => { auto with presentStatus := none }
  (a.resetTarget x).modifyAuto x fun auto => { auto with host := none }

def deallocateAuto (a : Apps) (x : Ptr) : Apps :=
  { a with autoPool := a.autoPool.deallocate x }

/-- Removing the auto of a warrior, `none` where there is none. -/
def dropAuto (a : Apps) (key : EntityKey) : Option Apps :=
  (a.autoes key).map fun x =>
    ({ a with autoes := Function.update a.autoes key none }.finalizeAuto x).deallocateAuto x

/-- One round of the loop of `OnEventCombatBegin`. -/
def raiseAiBuilding (combatId : Int) (a : Apps) (buildingId : Int) : Except Apps Apps :=
  match a.buildingPool.allocate with
  | (none, pool) => .error { a with buildingPool := pool }
  | (some b, pool) =>
    if (a.buildings (combatId, buildingId)).isSome then
      .error { a with buildingPool :=
        (pool.modify b fun _ => ⟨none, 0, none⟩).deallocate b }
    else .ok { a with
      buildingPool := pool.modify b fun _ => ⟨some (combatId, buildingId), 0, some .host⟩
      buildings := Function.update a.buildings (combatId, buildingId) (some b) }

/-- `OnEventCombatBegin` of the AI. -/
def onEventCombatBeginAi (m : CombatManagers) (a : Apps) (combatId : Int) : Apps :=
  match m.combats[combatId]? with
  | none => a
  | some p =>
    match (m.combat p).buildings.keys.foldlM (raiseAiBuilding combatId) a with
    | .error a => a
    | .ok a => a

/-- `OnEventCombatBuildAction` of the AI. -/
def onEventCombatBuildAction (m : CombatManagers) (a : Apps) (combatId warriorId : Int) : Apps :=
  if (m.getWarrior combatId warriorId).isNone then a
  else
    match a.autoPool.allocate with
    | (none, pool) => { a with autoPool := pool }
    | (some x, pool) =>
      let a := { a with autoPool := pool }.initializeAuto x (combatId, warriorId)
      if (a.autoes (combatId, warriorId)).isSome then (a.finalizeAuto x).deallocateAuto x
      else { a with autoes := Function.update a.autoes (combatId, warriorId) (some x) }

/-- `OnEventCombatDeath` of the AI. -/
def onEventCombatDeathAi (a : Apps) (combatId : Int) (target : CombatEntity) : Apps :=
  let a := a.dispatch combatId target.id (onTargetLost target)
  match target.type with
  | .building => a
  | .warrior => (a.dropAuto (combatId, target.id)).getD a

/-- `OnEventCombatConvertCamp` of the AI: a building in host status goes to retrieve. -/
def onEventCombatConvertCampAi (a : Apps) (combatId : Int) (host : CombatEntity) : Apps :=
  let a := a.dispatch combatId host.id (onTargetLost host)
  match host.type with
  | .warrior => a
  | .building =>
    match a.buildings (combatId, host.id) with
    | none => a
    | some b =>
      { a with buildingPool := a.buildingPool.modify b fun building =>
          if building.presentStatus = some .host ∧ building.host.map Prod.snd = some host.id then
            { building with presentStatus := some .retrieve }
          else building }

/-- `OnEventCombatAttacked` of the AI. -/
def onEventCombatAttacked (m : CombatManagers) (a : Apps) (combatId warriorId : Int)
    (host : CombatEntity) : Apps :=
  match host.type with
  | .building => a
  | .warrior => a.dispatch combatId host.id (onAttacked m host.id warriorId)

/-- The loop of `OnEventCombatSettle`, which ends at the first warrior without an auto. -/
def dropAutos (combatId : Int) (a : Apps) : List Int → Apps
  | [] => a
  | warriorId :: rest =>
    match a.dropAuto (combatId, warriorId) with
    | none => a
    | some a => a.dropAutos combatId rest

/-- `OnEventCombatSettle` of the AI. -/
def onEventCombatSettleAi (m : CombatManagers) (a : Apps) (combatId : Int) : Apps :=
  match m.combats[combatId]? with
  | none => a
  | some p => a.dropAutos combatId (m.combat p).warriors.keys

/-! ## Timers -/

def onTimerSearch (m : CombatManagers) (a : Apps) (x : Ptr) : Apps :=
  match a.searchTarget m x with
  | (true, a) => a.gotoChase m x
  | (false, a) => a

def onTimerRefindPath (m : CombatManagers) (a : Apps) (x : Ptr) : Apps :=
  (a.modifyAuto x fun auto => { auto with timerIdRefindPath := -1, refindPath := false }).chase m x

/-- `MoveStep` where the next grid is there: the warrior goes from one grid to the other. -/
def stepTo (a : Apps) (sc w : Ptr) (i j : Nat) (pos : Position) : Apps :=
  let a := a.modifyScene sc fun scene =>
    let left := scene.toBattleScene.setGrid i ((scene.grids i).removeWarrior w)
    { scene with toBattleScene := left.setGrid j (((left.grids j).addWarrior w).getD (left.grids j)) }
  let a := { a with
    originPos := Function.update a.originPos ((a.warrior w).host.getD (0, 0)) pos }
  if ((a.warrior w).movePaths.length : Int) ≤ (a.warrior w).pathIndex then a.moveReset w else a

/-- `MoveStep`, the callback of a move timer. -/
def moveStep (m : CombatManagers) (a : Apps) (w : Ptr) : Apps :=
  match (a.warrior w).scene with
  | none => a.moveFinish w
  | some sc =>
    match (a.scene sc).getGrid (a.warriorPos w) with
    | none => a.moveFinish w
    | some i =>
      let nextPos := ((a.warrior w).movePaths[(a.warrior w).pathIndex.toNat]?).getD ⟨0, 0⟩
      let a := a.modifyWarrior w fun warrior => { warrior with pathIndex := warrior.pathIndex + 1 }
      match (a.scene sc).getGrid nextPos with
      | none => a.moveFinish w
      | some j =>
        let a := a.stepTo sc w i j nextPos
        a.dispatch ((a.scene sc).host.getD 0) (a.warriorEntity w).id
          (onMoveStep m (a.warriorEntity w).id)

end Mysya.Apps
