import Mysya.BattleScene
import Mysya.GuardedRuns
import Mysya.SearchPath

/-!
# Walkable cells of a scene over its whole life

Whether a cell can be entered is stored twice, in the search node `SearchPath`
reads and in the grid `GetWalkable` reads. Both come from the map `Allocate` was
given, and only the grid learns of the buildings. So the two agree in a scene
object that served one map exactly while no building stands on an open cell.
-/

open Std GuardedRuns

namespace Mysya

/-! ## What a search returns and what it leaves -/

namespace Scene

variable {s s' : Scene} {beginPos endPos : Position} {fuel : Nat} {path : List Position}

theorem searchPath_cells (laid : s.Laid)
    (h : s.searchPath fuel beginPos endPos [] = some (s', path)) {pos : Position}
    (hpos : pos ∈ path) :
    s.inMap pos = true ∧ (s.nodes (s.getNode pos)).walkable = true := by
  have hne : path ≠ [] := List.ne_nil_of_mem hpos
  have hin : s.inMap beginPos = true ∧ s.inMap endPos = true := by
    by_contra hout
    rw [not_and_or, Bool.not_eq_true, Bool.not_eq_true] at hout
    simp only [searchPath] at h
    split_ifs at h <;> simp_all
  exact (searchPath_sound laid hin.1 hin.2 h hne).walkable pos hpos

end Scene

namespace BattleScene

inductive SceneAction
  | allocate (mapId : Int)
  | finalize
  | addBuilding (building : Entity)
  | removeBuilding (building : Entity)
  | removeBuildingById (deref : Ptr → Entity) (id : Int)
  | addWarrior (warrior : Entity)
  | removeWarrior (warrior : Entity)
  | searchPath (fuel : Nat) (beginPos endPos : Position)

/-- One call on a scene, over the maps of `scene_confs_`. -/
def step (confs : Int → Option SceneConf) (s : BattleScene) : SceneAction → Option BattleScene
  | .allocate mapId => some (s.allocate mapId (confs mapId))
  | .finalize => some s.clear
  | .addBuilding building => some ((s.addBuilding building).getD s)
  | .removeBuilding building => some (s.removeBuilding building)
  | .removeBuildingById deref id => some (s.removeBuildingById deref id)
  | .addWarrior warrior => some ((s.addWarrior warrior).getD s)
  | .removeWarrior warrior => some (s.removeWarrior warrior)
  | .searchPath fuel beginPos endPos =>
    (s.searchPath fuel beginPos endPos []).map Prod.fst

/-- A scene object that holds the nodes of a map is allocated for that map only. -/
def OneMap (s : BattleScene) : SceneAction → Prop
  | .allocate mapId => s.nodesSize = 0 ∨ mapId = s.mapId
  | _ => True

/-- `SearchPath` takes a cell for blocked where `GetNeighborNodes` leaves it out. -/
def Blocked (s : BattleScene) (pos : Position) : Prop :=
  (s.nodes (s.getNode pos)).walkable = false

structure RespectsWalkable (s : BattleScene) : Prop where
  paths : ∀ fuel beginPos endPos s' path,
    s.searchPath fuel beginPos endPos [] = some (s', path) →
      ∀ pos ∈ path, s.getWalkable pos = true
  blocked : ∀ pos, s.inMap pos = true → (s.Blocked pos ↔ s.getWalkable pos = false)

/-- No building stands on a cell that is open in the map. -/
def OpenCellsFree (s : BattleScene) : Prop :=
  ∀ pos i, s.getGrid pos = some i → (s.grids i).walkable = true →
    (s.grids i).buildings.isEmpty = true

/-! ## The cells of a map -/

/-- The scene shows a map: its nodes and the flags of its grids are the map's. -/
structure Shows (s : BattleScene) (conf : SceneConf) : Prop where
  height : s.height = conf.height
  width : s.width = conf.width
  pushed : conf.cells ≤ s.nodesSize
  pos : ∀ n, n < conf.cells → (s.nodes n).pos = ⟨n % conf.width, n / conf.width⟩
  node : ∀ n, n < conf.cells → (s.nodes n).walkable = conf.walkable n
  grid : ∀ i, (s.grids i).walkable = conf.walkable i

section Shows

variable {s s' : BattleScene} {conf : SceneConf} {pos : Position}

theorem getGrid_eq (s : BattleScene) (pos : Position) :
    s.getGrid pos = if s.inMap pos then some (s.getNode pos) else none := rfl

theorem Shows.getNode_lt (h : s.Shows conf) (hpos : s.inMap pos = true) :
    s.getNode pos < conf.cells := by
  rw [Scene.inMap_iff, h.width, h.height] at hpos
  obtain ⟨hx, hx', hy, hy'⟩ := hpos
  have hcells : ((conf.cells : Nat) : Int) = conf.height * conf.width := by
    simp [SceneConf.cells, hx.trans hx'.le, hy.trans hy'.le]
  have hlast : (pos.y + 1) * conf.width ≤ conf.height * conf.width :=
    Int.mul_le_mul_of_nonneg_right (by omega) (by omega)
  rw [Int.add_mul, Int.one_mul] at hlast
  have hfirst : 0 ≤ pos.y * conf.width := Int.mul_nonneg hy (by omega)
  rw [Scene.getNode, h.width]
  exact (Int.toNat_lt (by omega)).mpr (by omega)

theorem Shows.laid (h : s.Shows conf) : s.Laid := by
  intro pos hpos
  rw [h.pos _ (h.getNode_lt hpos)]
  have hlaid := Scene.allocate_laid s.toScene s.height s.width (fun _ => '0') pos hpos
  simpa [Scene.allocate, Scene.getNode, h.width] using hlaid

/-- The flag of a grid decides what the search takes for blocked. -/
theorem Shows.blocked_iff (h : s.Shows conf) (hpos : s.inMap pos = true) :
    s.Blocked pos ↔ (s.grids (s.getNode pos)).walkable = false := by
  rw [Blocked, h.node _ (h.getNode_lt hpos), h.grid]

theorem getWalkable_eq (hpos : s.inMap pos = true) :
    s.getWalkable pos = (s.grids (s.getNode pos)).getWalkable := by
  simp [getWalkable, getGrid_eq, hpos]

theorem Shows.respects_iff (h : s.Shows conf) : s.RespectsWalkable ↔ s.OpenCellsFree := by
  constructor
  · intro hrespects pos i hi hopen
    rw [getGrid_eq, Option.ite_none_right_eq_some] at hi
    obtain ⟨hpos, hi⟩ := hi
    obtain rfl : s.getNode pos = i := by simpa using hi
    by_contra hbuilding
    have hclosed : s.getWalkable pos = false := by
      rw [getWalkable_eq hpos, Grid.getWalkable, eq_false_of_ne_true hbuilding, Bool.and_false]
    have hblocked := (hrespects.blocked pos hpos).mpr hclosed
    rw [h.blocked_iff hpos, hopen] at hblocked
    exact absurd hblocked (by simp)
  · intro hfree
    have hagree : ∀ pos, s.inMap pos = true → (s.Blocked pos ↔ s.getWalkable pos = false) := by
      intro pos hpos
      rw [h.blocked_iff hpos, getWalkable_eq hpos, Grid.getWalkable]
      cases hopen : (s.grids (s.getNode pos)).walkable with
      | false => simp
      | true =>
        have hempty := hfree pos (s.getNode pos) (by simp [getGrid_eq, hpos]) hopen
        simp [hempty]
    constructor
    · intro fuel beginPos endPos s' path hsearch pos hmem
      obtain ⟨⟨scene, walk⟩, hscene, heq⟩ := Option.map_eq_some_iff.mp hsearch
      obtain rfl : walk = path := congrArg Prod.snd heq
      have hvalid := Scene.searchPath_cells h.laid hscene hmem
      by_contra hclosed
      rw [Bool.not_eq_true] at hclosed
      have hblocked := (hagree pos hvalid.1).mpr hclosed
      rw [Blocked, hvalid.2] at hblocked
      exact absurd hblocked (by simp)
    · exact hagree

end Shows

/-! ## A scene object over its life -/

/-- What every call but `Allocate` keeps. -/
structure SameMap (s s' : BattleScene) : Prop where
  height : s'.height = s.height
  width : s'.width = s.width
  nodesSize : s'.nodesSize = s.nodesSize
  mapId : s'.mapId = s.mapId
  pos : ∀ n, (s'.nodes n).pos = (s.nodes n).pos
  node : ∀ n, (s'.nodes n).walkable = (s.nodes n).walkable
  grid : ∀ i, (s'.grids i).walkable = (s.grids i).walkable

section SameMap

variable {s s' : BattleScene} {conf : SceneConf}

theorem SameMap.refl (s : BattleScene) : SameMap s s := by
  constructor <;> simp

theorem SameMap.shows (h : SameMap s s') (hs : s.Shows conf) : s'.Shows conf := by
  constructor
  · rw [h.height, hs.height]
  · rw [h.width, hs.width]
  · rw [h.nodesSize]
    exact hs.pushed
  · intro n hn
    rw [h.pos, hs.pos n hn]
  · intro n hn
    rw [h.node, hs.node n hn]
  · intro i
    rw [h.grid, hs.grid]

theorem sameMap_setGrid (s : BattleScene) (i : Nat) (grid : Grid)
    (same : grid.walkable = (s.grids i).walkable) : SameMap s (s.setGrid i grid) := by
  constructor
  case grid =>
    intro j
    by_cases hj : j = i
    · subst hj
      simpa [setGrid] using same
    · simp [setGrid, hj]
  all_goals simp [setGrid]

theorem Grid.addBuilding_walkable {grid grid' : Grid} {building : Ptr}
    (h : grid.addBuilding building = some grid') : grid'.walkable = grid.walkable := by
  rw [Grid.addBuilding, Option.ite_none_left_eq_some] at h
  rw [← Option.some.inj h.2]

theorem Grid.addWarrior_walkable {grid grid' : Grid} {warrior : Ptr}
    (h : grid.addWarrior warrior = some grid') : grid'.walkable = grid.walkable := by
  rw [Grid.addWarrior, Option.ite_none_left_eq_some] at h
  rw [← Option.some.inj h.2]

theorem addBuilding_sameMap {building : Entity} (h : s.addBuilding building = some s') :
    SameMap s s' := by
  simp only [addBuilding] at h
  split at h
  · simp at h
  · split at h
    · simp at h
    · rename_i i _
      split at h
      · simp at h
      · rename_i grid hgrid
        obtain rfl := Option.some.inj h
        exact { sameMap_setGrid s i grid (Grid.addBuilding_walkable hgrid) with }

theorem addWarrior_sameMap {warrior : Entity} (h : s.addWarrior warrior = some s') :
    SameMap s s' := by
  simp only [addWarrior] at h
  split at h
  · simp at h
  · split at h
    · simp at h
    · rename_i i _
      split at h
      · simp at h
      · rename_i grid hgrid
        obtain rfl := Option.some.inj h
        exact { sameMap_setGrid s i grid (Grid.addWarrior_walkable hgrid) with }

theorem removeBuilding_sameMap (s : BattleScene) (building : Entity) :
    SameMap s (s.removeBuilding building) := by
  simp only [removeBuilding]
  split
  · exact .refl s
  · rename_i i _
    exact { sameMap_setGrid s i ((s.grids i).removeBuilding building.ptr) rfl with }

theorem removeWarrior_sameMap (s : BattleScene) (warrior : Entity) :
    SameMap s (s.removeWarrior warrior) := by
  simp only [removeWarrior]
  split
  · exact .refl s
  · rename_i i _
    exact { sameMap_setGrid s i ((s.grids i).removeWarrior warrior.ptr) rfl with }

theorem searchPath_sameMap (laid : s.Laid) {fuel : Nat} {beginPos endPos : Position}
    {paths path : List Position}
    (h : s.searchPath fuel beginPos endPos paths = some (s', path)) : SameMap s s' := by
  obtain ⟨⟨scene, walk⟩, hscene, heq⟩ := Option.map_eq_some_iff.mp h
  obtain rfl : { s with toScene := scene } = s' := congrArg Prod.fst heq
  obtain ⟨hheight, hwidth, hpos, hnode⟩ := Scene.searchPath_keeps laid hscene
  constructor <;> simp [hheight, hwidth, hpos, hnode]

end SameMap

/-- The scene shows the map it was allocated for, or holds no nodes yet. -/
def Loaded (confs : Int → Option SceneConf) (s : BattleScene) : Prop :=
  ∃ conf, s.Shows conf ∧ (s.nodesSize = 0 ∨ confs s.mapId = some conf)

section Loaded

variable {confs : Int → Option SceneConf} {s s' : BattleScene}

theorem new_loaded : Loaded confs new := by
  refine ⟨⟨0, 0, []⟩, ?_, Or.inl rfl⟩
  constructor <;> simp [new, SceneConf.cells, SceneConf.walkable, Grid.new]

theorem SameMap.loaded (h : SameMap s s') (hs : Loaded confs s) : Loaded confs s' := by
  obtain ⟨conf, hshows, hmap⟩ := hs
  refine ⟨conf, h.shows hshows, ?_⟩
  rwa [h.nodesSize, h.mapId]

theorem Loaded.laid (h : Loaded confs s) : s.Laid := by
  obtain ⟨_, hshows, _⟩ := h
  exact hshows.laid

/-- Behind no nodes, or behind those of the same map, `Allocate` shows its map. -/
theorem Loaded.allocate (h : Loaded confs s) {mapId : Int}
    (one : s.OneMap (.allocate mapId)) : Loaded confs (s.allocate mapId (confs mapId)) := by
  obtain ⟨old, hshows, hmap⟩ := h
  cases hconf : confs mapId with
  | none => exact ⟨old, hshows, hmap⟩
  | some conf =>
    refine ⟨conf, ?_, Or.inr hconf⟩
    by_cases hfresh : s.nodesSize = 0
    · constructor <;> simp [BattleScene.allocate, pushNodes, hfresh, Grid.new]
    · obtain rfl := one.resolve_left hfresh
      obtain rfl : conf = old := by
        simpa [hconf] using hmap.resolve_left hfresh
      have hold : ∀ n, n < conf.cells → n < s.nodesSize := fun n hn => hn.trans_le hshows.pushed
      constructor
      · rfl
      · rfl
      · simp [BattleScene.allocate]
      · intro n hn
        simpa [BattleScene.allocate, pushNodes, hold n hn] using hshows.pos n hn
      · intro n hn
        simpa [BattleScene.allocate, pushNodes, hold n hn] using hshows.node n hn
      · intro i
        rfl

theorem Loaded.step {action : SceneAction} (h : Loaded confs s) (one : s.OneMap action)
    (hstep : step confs s action = some s') : Loaded confs s' := by
  cases action with
  | allocate mapId =>
    obtain rfl := Option.some.inj hstep
    exact h.allocate one
  | finalize =>
    obtain rfl := Option.some.inj hstep
    exact SameMap.loaded { SameMap.refl s with } h
  | addBuilding building =>
    obtain rfl := Option.some.inj hstep
    cases hadd : s.addBuilding building with
    | none => exact h
    | some s' => exact (addBuilding_sameMap hadd).loaded h
  | removeBuilding building =>
    obtain rfl := Option.some.inj hstep
    exact (removeBuilding_sameMap s building).loaded h
  | removeBuildingById deref id =>
    obtain rfl := Option.some.inj hstep
    simp only [removeBuildingById]
    split
    · exact h
    · exact (removeBuilding_sameMap s _).loaded h
  | addWarrior warrior =>
    obtain rfl := Option.some.inj hstep
    cases hadd : s.addWarrior warrior with
    | none => exact h
    | some s' => exact (addWarrior_sameMap hadd).loaded h
  | removeWarrior warrior =>
    obtain rfl := Option.some.inj hstep
    exact (removeWarrior_sameMap s warrior).loaded h
  | searchPath fuel beginPos endPos =>
    obtain ⟨⟨s'', path⟩, hsearch, rfl⟩ := Option.map_eq_some_iff.mp hstep
    exact (searchPath_sameMap h.laid hsearch).loaded h

end Loaded

/-- In a scene object that served one map only, `SearchPath` respects `GetWalkable`
exactly while the buildings stand on cells that are closed in the map. -/
theorem searchPath_walkable_iff (confs : Int → Option SceneConf) (s : BattleScene)
    (h : Reaches (step confs) OneMap new s) : s.RespectsWalkable ↔ s.OpenCellsFree := by
  obtain ⟨conf, hshows, _⟩ := h.invariant new_loaded fun _ _ _ hs one hstep => hs.step one hstep
  exact hshows.respects_iff

/-- A row of three cells, all open but the middle one if it is `'1'`. -/
def row (middle : Char) : SceneConf := ⟨1, 3, ['0', middle, '0']⟩

/-- A building in the middle of the row. -/
def builtRow (middle : Char) : BattleScene :=
  let s := new.allocate 1 (some (row middle))
  (s.addBuilding ⟨7, 1, ⟨1, 0⟩⟩).getD s

theorem builtRow_reached (middle : Char) :
    Reaches (step fun _ => some (row middle)) OneMap new (builtRow middle) := by
  have hnew : Reaches (step fun _ => some (row middle)) OneMap new new := .refl
  have hfresh : new.OneMap (.allocate 1) := Or.inl rfl
  exact (hnew.snoc _ hfresh rfl).snoc (.addBuilding ⟨7, 1, ⟨1, 0⟩⟩) trivial rfl

theorem searchPath_walkable_wall : (builtRow '1').RespectsWalkable := by
  rw [searchPath_walkable_iff _ _ (builtRow_reached '1')]
  intro pos i hi hopen
  by_cases hmiddle : i = 1
  · subst hmiddle
    exact absurd hopen (by decide)
  · have hgrid : (builtRow '1').grids i = Grid.new ((row '1').walkable i) := by
      simp [builtRow, addBuilding, getGrid, Scene.inMap, setGrid, new, allocate, row, Grid.addBuilding,
        Grid.new, hmiddle]
    rw [hgrid]
    rfl

theorem builtRow_first {path : List Position}
    (h : (builtRow '0').ValidPath ⟨0, 0⟩ ⟨2, 0⟩ path) : (⟨1, 0⟩ : Position) ∈ path := by
  cases path with
  | nil => simpa using h.ends
  | cons first rest =>
    have hstep : EightNeighbour ⟨0, 0⟩ first := h.steps.rel
    obtain ⟨hin, _⟩ := h.walkable first (by simp)
    rw [Scene.inMap_iff] at hin
    obtain ⟨hx, _, hy, hy'⟩ := hin
    obtain ⟨x, y⟩ := first
    have hheight : (builtRow '0').height = 1 := by decide
    simp only [EightNeighbour, ne_eq, Position.mk.injEq, hheight] at *
    obtain rfl : y = 0 := by omega
    obtain rfl : x = 1 := by omega
    simp

/-- With a building in the middle of an open row, the path runs through it. -/
theorem searchPath_walkable_row : ¬ ∀ (confs : Int → Option SceneConf) (s : BattleScene),
    Reaches (step confs) (fun _ _ => True) new s → s.RespectsWalkable := by
  intro hall
  have hreached := (builtRow_reached '0').mono fun _ _ _ => trivial
  have hlaid : (builtRow '0').Laid :=
    ((builtRow_reached '0').invariant new_loaded fun _ _ _ hs one hstep => hs.step one hstep).laid
  have hreachable : Relation.ReflTransGen (builtRow '0').StepTo ⟨0, 0⟩ ⟨2, 0⟩ :=
    (Relation.ReflTransGen.single (by decide : (builtRow '0').StepTo ⟨0, 0⟩ ⟨1, 0⟩)).tail
      (by decide)
  obtain ⟨enough, ⟨scene, path⟩, hsearch⟩ := Scene.searchPath_total hlaid ⟨0, 0⟩ ⟨2, 0⟩ []
  have hrun := hsearch enough le_rfl
  have hne : path ≠ [] :=
    Scene.searchPath_nonempty hlaid (by decide) (by decide) hreachable hrun
  have hvalid := Scene.searchPath_sound hlaid (by decide) (by decide) hrun hne
  have hpath : (builtRow '0').searchPath enough ⟨0, 0⟩ ⟨2, 0⟩ [] =
      some ({ builtRow '0' with toScene := scene }, path) := by
    simp [searchPath, hrun]
  have hwalkable := (hall _ _ hreached).paths enough ⟨0, 0⟩ ⟨2, 0⟩ _ path hpath ⟨1, 0⟩
    (builtRow_first hvalid)
  exact absurd hwalkable (by decide)

end BattleScene

end Mysya
