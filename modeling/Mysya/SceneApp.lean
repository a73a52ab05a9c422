import Mysya.BattleScene
import Mysya.CombatFields
import Mysya.OwnedTimers

/-!
# The scenes of the combat server

`SceneManager`, the entities on the scenes and their moves. The field of a warrior or
a building is given by the id of its combat and its own, and where a warrior stands
(`origin_pos_x`, `origin_pos_y`) is kept here under them. `EntityBuilder` only calls
`new` and `delete`: that is a pool that keeps nothing. The AI lies beside the scenes
in `Apps`, since each calls the other, and beside them what was handed to `StartTimer`
and divided by until now.
-/

open Std OwnedTimers

namespace Mysya

inductive TimerCallback
  | settle (combat : Ptr)
  | resourceRecover (combat : Ptr)
  | printStatusImage (scene : Ptr)
  | move (warrior : Ptr)
  | search (auto : Ptr)
  | refindPath (auto : Ptr)
  | attack (auto : Ptr)
  deriving DecidableEq

/-- A combat id, and the id of a warrior or a building in that combat. -/
abbrev EntityKey := Int × Int

inductive CombatEntityType
  | building
  | warrior
  deriving DecidableEq

structure CombatEntity where
  type : CombatEntityType
  id : Int
  deriving DecidableEq

/-! ## Objects -/

structure TimedScene extends BattleScene where
  timerIdPrintStatusImage : Int

instance : Inhabited TimedScene where
  default := { BattleScene.new with timerIdPrintStatusImage := -1 }

/-- `scene::Building`. -/
structure SceneBuilding where
  host : Option EntityKey
  scene : Option Ptr

instance : Inhabited SceneBuilding where
  default := ⟨none, none⟩

/-- `scene::Warrior` with its `MoveAction`. -/
structure Warrior where
  host : Option EntityKey
  scene : Option Ptr
  movePaths : List Position
  pathIndex : Int
  moveMs : Int
  timerMoveToken : Int

instance : Inhabited Warrior where
  default :=
    { host := none
      scene := none
      movePaths := []
      pathIndex := 0
      moveMs := 0
      timerMoveToken := -1 }

inductive AutoStatus
  | search
  | chase
  | attack
  deriving DecidableEq

/-- `ai::Auto` with the fields of its three statuses. -/
structure Auto where
  host : Option EntityKey
  presentStatus : Option AutoStatus
  target : CombatEntity
  timerIdSearch : Int
  timerIdRefindPath : Int
  refindPath : Bool
  timerIdAttack : Int

instance : Inhabited Auto where
  default :=
    { host := none
      presentStatus := none
      target := ⟨.building, 0⟩
      timerIdSearch := -1
      timerIdRefindPath := -1
      refindPath := false
      timerIdAttack := -1 }

inductive BuildingStatus
  | host
  | retrieve
  deriving DecidableEq

/-- `ai::Building`. -/
structure AiBuilding where
  host : Option EntityKey
  targetedNum : Int
  presentStatus : Option BuildingStatus

instance : Inhabited AiBuilding where
  default := ⟨none, 0, none⟩

/-- The scenes, the AI and the timers. -/
structure Apps where
  timers : Timers TimerCallback
  /-- The periods of the timers that were started so far. -/
  periods : List Int
  /-- The move speeds that were divided by so far. -/
  divisors : List Int
  /-- The fuel of a path search. -/
  searchFuel : Nat
  sceneConfs : Int → Option SceneConf
  scenePool : PoolTemplate TimedScene
  scenes : Int → Option Ptr
  sceneBuildings : PoolTemplate SceneBuilding
  sceneWarriors : PoolTemplate Warrior
  originPos : EntityKey → Position
  autoPool : PoolTemplate Auto
  autoes : EntityKey → Option Ptr
  buildingPool : PoolTemplate AiBuilding
  buildings : EntityKey → Option Ptr
  observers : EntityKey → ExtTreeSet Int
  dispatching : Bool
  pendingRemoves : List (EntityKey × Int)

namespace Apps

def scene (a : Apps) (sc : Ptr) : TimedScene := a.scenePool.read sc

def warrior (a : Apps) (w : Ptr) : Warrior := a.sceneWarriors.read w

def modifyScene (a : Apps) (sc : Ptr) (change : TimedScene → TimedScene) : Apps :=
  { a with scenePool := a.scenePool.modify sc change }

def modifyWarrior (a : Apps) (w : Ptr) (change : Warrior → Warrior) : Apps :=
  { a with sceneWarriors := a.sceneWarriors.modify w change }

def startTimer (a : Apps) (expireMs : Int) (callback : TimerCallback) (callTimes : Int) :
    Int × Apps :=
  let (id, timers) := a.timers.start expireMs callback callTimes
  (id, { a with timers := timers, periods := a.periods ++ [expireMs] })

def stopTimer (a : Apps) (id : Int) : Apps := { a with timers := a.timers.stop id }

/-- `GetPos` of a warrior. -/
def warriorPos (a : Apps) (w : Ptr) : Position := a.originPos ((a.warrior w).host.getD (0, 0))

def warriorEntity (a : Apps) (w : Ptr) : Entity where
  ptr := w
  id := ((a.warrior w).host.getD (0, 0)).2
  pos := a.warriorPos w

def buildingEntity (m : CombatManagers) (a : Apps) (b : Ptr) : Entity :=
  let key := ((a.sceneBuildings.read b).host.getD (0, 0))
  { ptr := b
    id := key.2
    pos := match m.getBuilding key.1 key.2 with
      | none => ⟨0, 0⟩
      | some building => ⟨building.posX, building.posY⟩ }

/-! ## Moving -/

/-- `MoveAction::Reset`. -/
def moveReset (a : Apps) (w : Ptr) : Apps :=
  let a := if (a.warrior w).timerMoveToken = -1 then a
    else (a.stopTimer (a.warrior w).timerMoveToken).modifyWarrior w fun warrior =>
      { warrior with timerMoveToken := -1 }
  a.modifyWarrior w fun warrior => { warrior with pathIndex := 0, movePaths := [] }

/-- `MoveAction::Finish`; the event it sends changes nothing. -/
def moveFinish (a : Apps) (w : Ptr) : Apps := a.moveReset w

/-- `MoveAction::Start`. -/
def moveStart (a : Apps) (w : Ptr) (destPos : Position) : Apps :=
  if a.warriorPos w = destPos then a
  else
    match (a.warrior w).scene with
    | none => a
    | some sc =>
      if (a.scene sc).getWalkable destPos = false then a
      else
        let a := if (a.warrior w).movePaths.isEmpty then a else a.moveFinish w
        match (a.scene sc).searchPath a.searchFuel (a.warriorPos w) destPos
            (a.warrior w).movePaths with
        | none => a
        | some (scene, paths) =>
          let a := a.modifyScene sc fun old => { old with toBattleScene := scene }
          let a := a.modifyWarrior w fun warrior => { warrior with movePaths := paths }
          if paths.isEmpty then a
          else
            let (id, a) := a.startTimer (a.warrior w).moveMs (.move w) (-1)
            a.modifyWarrior w fun warrior => { warrior with timerMoveToken := id }

/-! ## Warriors -/

/-- `Warrior::Initialize`. -/
def initializeWarrior (a : Apps) (w : Ptr) (key : EntityKey) (sc : Ptr) (moveSpeed : Int) : Apps :=
  { a with divisors := a.divisors ++ [moveSpeed] }.modifyWarrior w fun warrior => { warrior with
    host := some key
    scene := some sc
    pathIndex := 0
    timerMoveToken := -1
    moveMs := (1000 : Int).tdiv moveSpeed }

/-- `Warrior::Finalize`. -/
def finalizeWarrior (a : Apps) (w : Ptr) : Apps :=
  (a.moveReset w).modifyWarrior w fun warrior => { warrior with host := none, scene := none }

/-- `delete warrior`, whose destructor resets the move. -/
def deallocateWarrior (a : Apps) (w : Ptr) : Apps :=
  let a := a.moveReset w
  { a with sceneWarriors := a.sceneWarriors.deallocate w }

theorem moveReset_scenePool (a : Apps) (w : Ptr) : (a.moveReset w).scenePool = a.scenePool := by
  rw [moveReset]
  split
  · rfl
  · rfl

theorem deallocateWarrior_scenePool (a : Apps) (w : Ptr) :
    (a.deallocateWarrior w).scenePool = a.scenePool :=
  moveReset_scenePool a w

def deallocateBuilding (a : Apps) (b : Ptr) : Apps :=
  { a with sceneBuildings := a.sceneBuildings.deallocate b }

/-! ## Scenes -/

/-- `SceneManager::Allocate`. It does not look at what `new` answers: on a configured map
`Scene::Allocate` then writes to `NULL`, and the process is gone (`none`). -/
def allocateScene (a : Apps) (mapId : Int) : Option (Option Ptr × Apps) :=
  match a.scenePool.allocate with
  | (none, pool) =>
    if (a.sceneConfs mapId).isSome then none else some (none, { a with scenePool := pool })
  | (some sc, pool) =>
    some (some sc, { a with scenePool := pool }.modifyScene sc fun scene =>
      { scene with toBattleScene := scene.allocate mapId (a.sceneConfs mapId) })

def deallocateScene (a : Apps) (sc : Ptr) : Apps :=
  { a with scenePool := { a.scenePool with list := a.scenePool.list ++ [sc] } }

/-- `Scene::Initialize`. -/
def initializeScene (a : Apps) (sc : Ptr) (combatId : Int) : Apps :=
  let (id, a) := a.startTimer 1000 (.printStatusImage sc) (-1)
  a.modifyScene sc fun scene =>
    { scene with host := some combatId, timerIdPrintStatusImage := id }

/-- `Scene::Finalize`. -/
def finalizeScene (a : Apps) (sc : Ptr) : Apps :=
  let scene := a.scene sc
  let a := if scene.timerIdPrintStatusImage = -1 then a
    else a.stopTimer scene.timerIdPrintStatusImage
  let a := scene.buildings.toList.foldl (fun a entry => a.deallocateBuilding entry.2) a
  let a := scene.warriors.toList.foldl (fun a entry => a.deallocateWarrior entry.2) a
  a.modifyScene sc fun scene => { scene with toBattleScene := scene.clear }

/-- What an exit of `OnEventCombatBegin` does about the scene. -/
def abandonScene (a : Apps) (sc : Ptr) : Apps := (a.finalizeScene sc).deallocateScene sc

/-- One round of the loop of `OnEventCombatBegin` over the buildings. -/
def placeBuilding (m : CombatManagers) (combatId : Int) (sc : Ptr) (a : Apps)
    (entry : Int × CombatBuildingField) : Except Apps Apps :=
  match a.sceneBuildings.allocate with
  | (none, pool) => .error ({ a with sceneBuildings := pool }.abandonScene sc)
  | (some b, pool) =>
    let a := { a with
      sceneBuildings := pool.modify b fun _ => ⟨some (combatId, entry.1), some sc⟩ }
    match (a.scene sc).addBuilding (a.buildingEntity m b) with
    | none => .error ((a.deallocateBuilding b).abandonScene sc)
    | some scene => .ok (a.modifyScene sc fun old => { old with toBattleScene := scene })

/-- `OnEventCombatBegin` of the scenes, behind `SceneManager::Allocate`. -/
def raiseScene (m : CombatManagers) (combat : CombatField) (sc : Ptr) (a : Apps) : Apps :=
  let a := a.initializeScene sc combat.id
  match combat.buildings.toList.foldlM (placeBuilding m combat.id sc) a with
  | .error a => a
  | .ok a =>
    if (a.scenes combat.id).isSome then a.abandonScene sc
    else { a with scenes := Function.update a.scenes combat.id (some sc) }

/-- `OnEventCombatBegin` of the scenes. -/
def onEventCombatBeginScene (m : CombatManagers) (a : Apps) (combatId : Int) : Option Apps :=
  match m.combats[combatId]? with
  | none => some a
  | some p =>
    match a.allocateScene (m.combat p).mapId with
    | none => none
    | some (none, a) => some a
    | some (some sc, a) => some (a.raiseScene m (m.combat p) sc)

/-- `OnEventCombatDeath` of the scenes. -/
def onEventCombatDeathScene (a : Apps) (combatId : Int) (target : CombatEntity) : Apps :=
  match a.scenes combatId with
  | none => a
  | some sc =>
    match target.type with
    | .building => a
    | .warrior =>
      match (a.scene sc).warriors[target.id]? with
      | none => a
      | some w =>
        let entity := a.warriorEntity w
        let a := a.modifyScene sc fun scene =>
          { scene with toBattleScene := scene.removeWarrior entity }
        (a.finalizeWarrior w).deallocateWarrior w

/-- `OnEventCombatLockTarget` of the scenes. -/
def onEventCombatLockTarget (a : Apps) (combatId warriorId : Int) : Apps :=
  match a.scenes combatId with
  | none => a
  | some sc =>
    match (a.scene sc).warriors[warriorId]? with
    | none => a
    | some w => a.moveFinish w

/-- `OnEventCombatSettle` of the scenes. -/
def onEventCombatSettleScene (a : Apps) (combatId : Int) : Apps :=
  match a.scenes combatId with
  | none => a
  | some sc =>
    { a with scenes := Function.update a.scenes combatId none }.abandonScene sc

/-! ## Requires -/

/-- `OnVoteCombatBuild`. -/
def onVoteCombatBuild (a : Apps) (combatId buildingId : Int) : Bool :=
  match a.buildings (combatId, buildingId) with
  | none => false
  | some b => (a.buildingPool.read b).presentStatus == some .host

/-- `OnVoteSceneMove`. -/
def onVoteSceneMove (a : Apps) (combatId warriorId : Int) : Bool :=
  match a.autoes (combatId, warriorId) with
  | none => false
  | some x => (a.autoPool.read x).presentStatus != some .attack

/-- The end of `OnRequireSceneBuild`, with a new `Warrior`. -/
def placeWarrior (m : CombatManagers) (a : Apps) (sc b w : Ptr) (key : EntityKey)
    (moveSpeed : Int) : Bool × Apps :=
  let a := a.initializeWarrior w key sc moveSpeed
  match (a.scene sc).getNearlyWalkablePos (a.buildingEntity m b).pos with
  | none => (false, a.deallocateWarrior w)
  | some pos =>
    let a := { a with originPos := Function.update a.originPos key pos }
    match (a.scene sc).addWarrior (a.warriorEntity w) with
    | none => (false, (a.finalizeWarrior w).deallocateWarrior w)
    | some scene => (true, a.modifyScene sc fun old => { old with toBattleScene := scene })

/-- `OnRequireSceneBuild`, with whether it returned 0. -/
def onRequireSceneBuild (m : CombatManagers) (a : Apps) (combatId buildingId warriorId : Int) :
    Bool × Apps :=
  if a.onVoteCombatBuild combatId buildingId = false then (false, a)
  else
    match a.scenes combatId with
    | none => (false, a)
    | some sc =>
      match (a.scene sc).buildings[buildingId]?, m.getWarrior combatId warriorId with
      | some b, some field =>
        match a.sceneWarriors.allocate with
        | (none, pool) => (false, { a with sceneWarriors := pool })
        | (some w, pool) =>
          { a with sceneWarriors := pool }.placeWarrior m sc b w (combatId, warriorId)
            field.moveSpeed
      | _, _ => (false, a)

/-- `OnRequireSceneMove`, with whether it returned 0. -/
def onRequireSceneMove (a : Apps) (combatId warriorId : Int) (destPos : Position) :
    Bool × Apps :=
  if a.onVoteSceneMove combatId warriorId = false then (false, a)
  else
    match a.scenes combatId with
    | none => (false, a)
    | some sc =>
      match (a.scene sc).warriors[warriorId]? with
      | none => (false, a)
      | some w => (true, a.moveStart w destPos)

/-- `OnRequireSceneFetch`: the buildings and the warriors around that are of another camp. Where
`GetNeighbors` does not return, nobody gets an answer. -/
def onRequireSceneFetch (m : CombatManagers) (a : Apps) (combatId exceptCampId : Int)
    (pos : Position) (range : Int) : Option (List Int × List Int) :=
  (a.scenes combatId).bind fun sc => ((a.scene sc).getNeighbors pos range).map fun around =>
    (around.1.filterMap fun b =>
      let key := (a.sceneBuildings.read b).host.getD (0, 0)
      match m.getBuilding key.1 key.2 with
      | none => none
      | some building => if building.campId = exceptCampId then none else some key.2,
    around.2.filterMap fun w =>
      let key := (a.warrior w).host.getD (0, 0)
      match m.getWarrior key.1 key.2 with
      | none => none
      | some warrior => if warrior.campId = exceptCampId then none else some key.2)

end Apps

end Mysya
