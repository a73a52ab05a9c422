import Mysya.MachineInts
import Mysya.PoolTemplate
import Mysya.Scene
import Std.Data.ExtTreeMap
import Std.Data.ExtTreeSet

/-!
# A scene with its grids

The rest of `Scene`: the grids that `Allocate` makes beside the search nodes, and
the buildings and warriors standing on them. Objects are addresses; all a scene
reads of one is its id and its position. `Deallocate` is never called, and
`PrintStatusImage` prints only.
-/

open Std

namespace Mysya

structure Grid where
  walkable : Bool
  buildings : ExtTreeSet Ptr
  warriors : ExtTreeSet Ptr

namespace Grid

/-- The constructor, and `SetWalkable`. -/
def new (walkable : Bool) : Grid where
  walkable := walkable
  buildings := ∅
  warriors := ∅

def getWalkable (grid : Grid) : Bool := grid.walkable && grid.buildings.isEmpty

/-- `AddBuilding`, with whether the building was inserted. -/
def addBuilding (grid : Grid) (building : Ptr) : Option Grid :=
  if grid.buildings.contains building then none
  else some { grid with buildings := grid.buildings.insert building }

def removeBuilding (grid : Grid) (building : Ptr) : Grid :=
  { grid with buildings := grid.buildings.erase building }

def addWarrior (grid : Grid) (warrior : Ptr) : Option Grid :=
  if grid.warriors.contains warrior then none
  else some { grid with warriors := grid.warriors.insert warrior }

def removeWarrior (grid : Grid) (warrior : Ptr) : Grid :=
  { grid with warriors := grid.warriors.erase warrior }

end Grid

structure SceneConf where
  height : Int
  width : Int
  blocks : List Char

/-- `blocks_[i] == '0'`. -/
def SceneConf.walkable (conf : SceneConf) (i : Nat) : Bool := conf.blocks[i]? == some '0'

/-- The number of nodes the two loops of `Scene::Allocate` push. -/
def SceneConf.cells (conf : SceneConf) : Nat := conf.height.toNat * conf.width.toNat

/-- A `Building` or a `Warrior` as the scene sees it: `GetId` and `GetPos`. -/
structure Entity where
  ptr : Ptr
  id : Int
  pos : Position

structure BattleScene extends Scene where
  mapId : Int
  /-- The id of `host_`. -/
  host : Option Int
  gridSize : Int
  grids : Nat → Grid
  /-- `nodes_.size()`. -/
  nodesSize : Nat
  buildings : ExtTreeMap Int Ptr
  warriors : ExtTreeMap Int Ptr

namespace BattleScene

/-- The constructor. What it leaves undefined is zero here. -/
def new : BattleScene where
  height := 0
  width := 0
  nodes := fun _ => ⟨⟨0, 0⟩, false, 0, 0, 0, 0, none⟩
  startNode := 0
  endNode := 0
  openList := fun _ => 0
  openListSize := 0
  mapId := 0
  host := none
  gridSize := 0
  grids := fun _ => Grid.new false
  nodesSize := 0
  buildings := ∅
  warriors := ∅

/-- The nodes are pushed behind those an earlier `Allocate` left. -/
def pushNodes (s : BattleScene) (conf : SceneConf) : NodePtr → Node := fun n =>
  if n < s.nodesSize then s.nodes n
  else { s.nodes n with
    pos := ⟨(n - s.nodesSize : Nat) % conf.width, (n - s.nodesSize : Nat) / conf.width⟩
    walkable := conf.walkable (n - s.nodesSize) }

/-- `Allocate(map_id)`, given what `GetSceneConf` finds. -/
def allocate (s : BattleScene) (mapId : Int) : Option SceneConf → BattleScene
  | none => s
  | some conf =>
    { s with
      grids := fun i => Grid.new (conf.walkable i)
      mapId := mapId
      height := conf.height
      width := conf.width
      gridSize := conf.height * conf.width
      nodes := s.pushNodes conf
      nodesSize := s.nodesSize + conf.cells }

/-- `GetGrid`, as the index of the grid. -/
def getGrid (s : BattleScene) (pos : Position) : Option Nat :=
  if s.inMap pos then some (pos.y * s.width + pos.x).toNat else none

def setGrid (s : BattleScene) (i : Nat) (grid : Grid) : BattleScene :=
  { s with grids := Function.update s.grids i grid }

def getWalkable (s : BattleScene) (pos : Position) : Bool :=
  match s.getGrid pos with
  | none => false
  | some i => (s.grids i).getWalkable

/-- `GetNearlyWalkablePos(pos, nearly_pos)`. -/
def getNearlyWalkablePos (s : BattleScene) (pos : Position) : Option Position :=
  let startX := Scene.stdMax (pos.x - 1) 0
  let endX := Scene.stdMin (pos.x + 1) (s.width - 1)
  let startY := Scene.stdMax (pos.y - 1) 0
  let endY := Scene.stdMin (pos.y + 1) (s.height - 1)
  ((Scene.loopRange startY endY).flatMap fun y =>
    (Scene.loopRange startX (endX - 1)).map fun x => (⟨x, y⟩ : Position)).find? s.getWalkable

def addBuilding (s : BattleScene) (building : Entity) : Option BattleScene :=
  if s.buildings.contains building.id then none
  else
    match s.getGrid building.pos with
    | none => none
    | some i =>
      match (s.grids i).addBuilding building.ptr with
      | none => none
      | some grid =>
        some { s.setGrid i grid with
          buildings := s.buildings.insert building.id building.ptr }

/-- `RemoveBuilding(building)`. -/
def removeBuilding (s : BattleScene) (building : Entity) : BattleScene :=
  match s.getGrid building.pos with
  | none => s
  | some i =>
    { s.setGrid i ((s.grids i).removeBuilding building.ptr) with
      buildings := s.buildings.erase building.id }

/-- `RemoveBuilding(id)`; `deref` is the building behind an address. -/
def removeBuildingById (s : BattleScene) (deref : Ptr → Entity) (id : Int) : BattleScene :=
  match s.buildings[id]? with
  | none => s
  | some building => s.removeBuilding (deref building)

def addWarrior (s : BattleScene) (warrior : Entity) : Option BattleScene :=
  if s.warriors.contains warrior.id then none
  else
    match s.getGrid warrior.pos with
    | none => none
    | some i =>
      match (s.grids i).addWarrior warrior.ptr with
      | none => none
      | some grid =>
        some { s.setGrid i grid with
          warriors := s.warriors.insert warrior.id warrior.ptr }

/-- `RemoveWarrior(warrior)`. -/
def removeWarrior (s : BattleScene) (warrior : Entity) : BattleScene :=
  match s.getGrid warrior.pos with
  | none => s
  | some i =>
    { s.setGrid i ((s.grids i).removeWarrior warrior.ptr) with
      warriors := s.warriors.erase warrior.id }

/-- The grids one round of the loop of `GetNeighbors` visits. -/
def gridsAround (s : BattleScene) (pos : Position) (i : Int) : List Nat :=
  let startX := Scene.stdMax (pos.x - i) 0
  let endX := Scene.stdMin (pos.x + i) (s.width - i)
  let startY := Scene.stdMax (pos.y - i) 0
  let endY := Scene.stdMin (pos.y + i) (s.height - i)
  (Scene.loopRange startY endY).flatMap fun y =>
    (Scene.loopRange startX endX).filterMap fun x => s.getGrid ⟨x, y⟩

/-- The loops of `GetNeighbors` come to their ends: a loop up to the greatest `int` does not, and a
sum or a difference that is no `int` has no value. The rows and cells of a round come to the
greatest `int` in the first one only, which reads up to the position or the edge of the map. -/
def LoopsEnd (s : BattleScene) (pos : Position) (range : Int) : Prop :=
  range < 2147483647 ∧ (0 ≤ range →
    (FitsInt32 (pos.x - range) ∧ FitsInt32 (pos.x + range) ∧ FitsInt32 (s.width - range)) ∧
    (FitsInt32 (pos.y - range) ∧ FitsInt32 (pos.y + range) ∧ FitsInt32 (s.height - range)) ∧
    Scene.stdMin pos.y s.height < 2147483647 ∧
    (0 ≤ pos.y ∧ pos.y ≤ s.height → Scene.stdMin pos.x s.width < 2147483647))

instance (s : BattleScene) (pos : Position) (range : Int) : Decidable (s.LoopsEnd pos range) := by
  unfold LoopsEnd
  infer_instance

/-- The buildings and the warriors of `GetNeighbors`, `none` where it does not return. -/
def getNeighbors (s : BattleScene) (pos : Position) (range : Int) :
    Option (List Ptr × List Ptr) :=
  if s.LoopsEnd pos range then
    let visited := (Scene.loopRange 0 range).flatMap (s.gridsAround pos)
    some (visited.flatMap fun i => (s.grids i).buildings.toList,
      visited.flatMap fun i => (s.grids i).warriors.toList)
  else none

/-- `SearchPath` appending to `paths`, `none` where the fuel is out. -/
def searchPath (fuel : Nat) (s : BattleScene) (beginPos endPos : Position)
    (paths : List Position) : Option (BattleScene × List Position) :=
  (s.toScene.searchPath fuel beginPos endPos paths).map fun r => ({ s with toScene := r.1 }, r.2)

/-- What `Finalize` clears of the scene itself. -/
def clear (s : BattleScene) : BattleScene :=
  { s with buildings := ∅, warriors := ∅, host := none }

end BattleScene

end Mysya
