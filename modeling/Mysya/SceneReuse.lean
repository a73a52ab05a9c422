import Mysya.CombatServer
import Mysya.GuardedRuns

/-!
# Scenes from the pool

`SceneManager` hands out scenes that stood for other maps before. What `Allocate` returns is
right exactly when the map is configured and the scene brings no nodes along, since `nodes_` is
never cleared and what `Scene::Allocate` returns is not looked at.
-/

open Std GuardedRuns

namespace Mysya

/-- The scene stands for the map and nothing is on it. -/
structure BattleScene.Represents (s : BattleScene) (mapId : Int) (conf : SceneConf) : Prop where
  mapId : s.mapId = mapId
  height : s.height = conf.height
  width : s.width = conf.width
  gridSize : s.gridSize = conf.height * conf.width
  nodesSize : (s.nodesSize : Int) = conf.height * conf.width
  nodes : ∀ pos, s.inMap pos = true → (s.nodes (s.getNode pos)).pos = pos ∧
    (s.nodes (s.getNode pos)).walkable = conf.walkable (s.getNode pos)
  grids : ∀ pos i, s.getGrid pos = some i → s.grids i = Grid.new (conf.walkable i)
  buildings : s.buildings = ∅
  warriors : s.warriors = ∅

/-- What is done with scenes. -/
inductive SceneCall
  | allocateScene (mapId : Int)
  | initializeScene (sc : Ptr) (combatId : Int)
  | addBuilding (sc : Ptr) (building : Entity)
  | addWarrior (sc : Ptr) (warrior : Entity)
  | finalizeScene (sc : Ptr)
  | deallocateScene (sc : Ptr)

namespace BattleScene

/-- Nothing stands on the scene. -/
def cleared (s : BattleScene) : Bool := s.buildings.isEmpty && s.warriors.isEmpty

theorem cleared_iff {s : BattleScene} : s.cleared = true ↔ s.buildings = ∅ ∧ s.warriors = ∅ := by
  simp [cleared, ExtTreeMap.isEmpty_iff]

end BattleScene

namespace Apps

variable {a a' : Apps} {sc : Ptr}

/-- Whether a scene was handed out and is not back. -/
def sceneHeld (a : Apps) (sc : Ptr) : Bool :=
  (a.scenePool.objects sc).isSome && !a.scenePool.list.contains sc

theorem sceneHeld_iff : a.sceneHeld sc = true ↔ a.scenePool.Held sc := by
  simp [sceneHeld, PoolTemplate.Held]

/-- Calls are made on scenes that are handed out, and what was put on a scene is gone before
it goes back. -/
def sceneStep (a : Apps) : SceneCall → Option Apps
  | .allocateScene mapId => (a.allocateScene mapId).map Prod.snd
  | .initializeScene sc combatId =>
    if a.sceneHeld sc then some (a.initializeScene sc combatId) else none
  | .addBuilding sc building =>
    if a.sceneHeld sc then
      some (a.modifyScene sc fun scene =>
        { scene with toBattleScene := (scene.addBuilding building).getD scene.toBattleScene })
    else none
  | .addWarrior sc warrior =>
    if a.sceneHeld sc then
      some (a.modifyScene sc fun scene =>
        { scene with toBattleScene := (scene.addWarrior warrior).getD scene.toBattleScene })
    else none
  | .finalizeScene sc => if a.sceneHeld sc then some (a.finalizeScene sc) else none
  | .deallocateScene sc =>
    if a.sceneHeld sc && (a.scene sc).cleared then some (a.deallocateScene sc) else none

/-- No scene in the pool has anything on it. -/
structure ScenesIdle (a : Apps) : Prop where
  sound : a.scenePool.Sound
  cleared : ∀ p ∈ a.scenePool.list, (a.scene p).cleared = true

/-! ## What the calls leave of the pool -/

theorem scenePool_foldl {β : Type} (f : Apps → β → Apps)
    (hf : ∀ a b, (f a b).scenePool = a.scenePool) (l : List β) (a : Apps) :
    (l.foldl f a).scenePool = a.scenePool := by
  induction l generalizing a with
  | nil => rfl
  | cons b l ih => rw [List.foldl_cons, ih, hf]

theorem scenePool_finalizeScene (a : Apps) (sc : Ptr) :
    (a.finalizeScene sc).scenePool =
      a.scenePool.modify sc fun scene => { scene with toBattleScene := scene.clear } := by
  have hwarriors : ∀ (a : Apps) (entry : Int × Ptr),
      (a.deallocateWarrior entry.2).scenePool = a.scenePool :=
    fun a entry => deallocateWarrior_scenePool a entry.2
  have hbuildings : ∀ (a : Apps) (entry : Int × Ptr),
      (a.deallocateBuilding entry.2).scenePool = a.scenePool := fun _ _ => rfl
  simp only [finalizeScene, modifyScene]
  rw [scenePool_foldl _ hwarriors, scenePool_foldl _ hbuildings]
  split
  · rfl
  · rfl

theorem ScenesIdle.of_modify {change : TimedScene → TimedScene} (h : a.ScenesIdle)
    (hheld : a.scenePool.Held sc) (hpool : a'.scenePool = a.scenePool.modify sc change) :
    a'.ScenesIdle := by
  constructor
  · rw [hpool]
    exact h.sound.modify sc change
  · intro p hp
    rw [hpool, PoolTemplate.modify_list] at hp
    have hne : p ≠ sc := by
      rintro rfl
      exact hheld.2 hp
    have hsame : a'.scene p = a.scene p := by
      rw [scene, scene, hpool, PoolTemplate.read_modify_other _ hne]
    rw [hsame]
    exact h.cleared p hp

/-- The scene taken for an `Allocate`, and those left behind, have nothing on them. -/
theorem ScenesIdle.taken (h : a.ScenesIdle) {p : Ptr} {pool : PoolTemplate TimedScene}
    (hpool : a.scenePool.allocate = (some sc, pool)) (hp : p = sc ∨ p ∈ pool.list) :
    (pool.read p).cleared = true := by
  have hfilled := PoolTemplate.filled_grown h.sound
  rw [PoolTemplate.allocate_eq] at hpool
  split at hpool
  · cases hpool
  · rename_i q list hlist
    cases hpool
    have hlisted : p ∈ a.scenePool.filled.list := by
      rw [hlist]
      exact List.mem_cons.mpr hp
    show (a.scenePool.filled.read p).cleared = true
    rcases hfilled.objects p with hsame | ⟨hfree, hnew⟩
    · rcases hfilled.list p hlisted with hin | hfree
      · have hread : a.scenePool.filled.read p = a.scene p := by
          rw [PoolTemplate.read, hsame]
          rfl
        rw [hread]
        exact h.cleared p hin
      · have hlive := hfilled.sound.live p hlisted
        rw [hsame, hfree] at hlive
        cases hlive
    · rw [PoolTemplate.read, hnew]
      rfl

theorem ScenesIdle.allocateScene (h : a.ScenesIdle) {mapId : Int} {answer : Option Ptr}
    (hallocate : a.allocateScene mapId = some (answer, a')) : a'.ScenesIdle := by
  rw [Apps.allocateScene] at hallocate
  split at hallocate
  · rename_i pool hpool
    obtain ⟨_, ⟨⟩⟩ := Option.ite_none_left_eq_some.mp hallocate
    have hempty : pool.list = [] := by
      rw [PoolTemplate.allocate_eq] at hpool
      split at hpool
      · rename_i hlist
        cases hpool
        exact hlist
      · cases hpool
    refine ⟨(PoolTemplate.grown_of_allocate h.sound hpool).sound, fun p hp => ?_⟩
    rw [hempty] at hp
    cases hp
  · rename_i sc pool hpool
    cases hallocate
    have hgrown := PoolTemplate.grown_of_allocate h.sound hpool
    have hidle : { a with scenePool := pool }.ScenesIdle :=
      ⟨hgrown.sound, fun p hp => h.taken hpool (Or.inr hp)⟩
    exact hidle.of_modify (PoolTemplate.allocate_held h.sound hpool).1 rfl

theorem ScenesIdle.initializeScene (h : a.ScenesIdle) (hheld : a.scenePool.Held sc) (combatId : Int) :
    (a.initializeScene sc combatId).ScenesIdle :=
  h.of_modify hheld rfl

theorem ScenesIdle.finalizeScene (h : a.ScenesIdle) (hheld : a.scenePool.Held sc) :
    (a.finalizeScene sc).ScenesIdle :=
  h.of_modify hheld (scenePool_finalizeScene a sc)

theorem ScenesIdle.deallocateScene (h : a.ScenesIdle) (hheld : a.scenePool.Held sc)
    (hcleared : (a.scene sc).cleared = true) : (a.deallocateScene sc).ScenesIdle := by
  refine ⟨⟨?_, ?_⟩, ?_⟩
  · have hnodup := h.sound.nodup.concat hheld.2
    rwa [List.concat_eq_append] at hnodup
  · intro p hp
    rcases List.mem_append.mp hp with hp | hp
    · exact h.sound.live p hp
    · cases List.mem_singleton.mp hp
      exact hheld.1
  · intro p hp
    rcases List.mem_append.mp hp with hp | hp
    · exact h.cleared p hp
    · cases List.mem_singleton.mp hp
      exact hcleared

theorem ScenesIdle.step {call : SceneCall} (h : a.ScenesIdle) (hstep : a.sceneStep call = some a') :
    a'.ScenesIdle := by
  cases call with
  | allocateScene mapId =>
    obtain ⟨⟨answer, b⟩, hallocate, rfl⟩ := Option.map_eq_some_iff.mp hstep
    exact h.allocateScene hallocate
  | initializeScene sc combatId =>
    obtain ⟨hheld, ⟨⟩⟩ := Option.ite_none_right_eq_some.mp hstep
    exact h.initializeScene (sceneHeld_iff.mp hheld) combatId
  | addBuilding sc building =>
    obtain ⟨hheld, ⟨⟩⟩ := Option.ite_none_right_eq_some.mp hstep
    exact h.of_modify (sceneHeld_iff.mp hheld) rfl
  | addWarrior sc warrior =>
    obtain ⟨hheld, ⟨⟩⟩ := Option.ite_none_right_eq_some.mp hstep
    exact h.of_modify (sceneHeld_iff.mp hheld) rfl
  | finalizeScene sc =>
    obtain ⟨hheld, ⟨⟩⟩ := Option.ite_none_right_eq_some.mp hstep
    exact h.finalizeScene (sceneHeld_iff.mp hheld)
  | deallocateScene sc =>
    obtain ⟨hheld, ⟨⟩⟩ := Option.ite_none_right_eq_some.mp hstep
    rw [Bool.and_eq_true] at hheld
    exact h.deallocateScene (sceneHeld_iff.mp hheld.1) hheld.2

end Apps

/-! ## What an `Allocate` makes of a scene -/

namespace BattleScene

theorem inMap_iff {s : BattleScene} {pos : Position} : s.inMap pos = true ↔
    0 ≤ pos.x ∧ pos.x < s.width ∧ 0 ≤ pos.y ∧ pos.y < s.height := by
  simp [Scene.inMap]

/-- The row and the column of a cell from its index. -/
theorem index_split {x y w : Int} (hx : 0 ≤ x) (hw : x < w) :
    (y * w + x) % w = x ∧ (y * w + x) / w = y := by
  constructor
  · rw [Int.mul_add_emod_self_right, Int.emod_eq_of_lt hx hw]
  · rw [Int.mul_add_ediv_right _ _ (by omega), Int.ediv_eq_zero_of_lt hx hw, Int.add_zero]

/-- The nodes already there come first: the scene is right only if with them it has as many as
the map has cells. -/
theorem represents_allocate_iff {s : BattleScene} (hs : s.cleared = true) (mapId : Int)
    (conf : SceneConf) : (s.allocate mapId (some conf)).Represents mapId conf ↔
      (s.nodesSize : Int) + conf.cells = conf.height * conf.width := by
  obtain ⟨hbuildings, hwarriors⟩ := cleared_iff.mp hs
  constructor
  · intro h
    have hsize := h.nodesSize
    simpa [allocate] using hsize
  · intro hsize
    refine ⟨rfl, rfl, rfl, rfl, ?_, ?_, fun _ _ _ => rfl, hbuildings, hwarriors⟩
    · simpa [allocate] using hsize
    · intro pos hpos
      obtain ⟨hx, hwidth, hy, hheight⟩ := inMap_iff.mp hpos
      have hwidth' : pos.x < conf.width := hwidth
      have hheight' : pos.y < conf.height := hheight
      have hcells : (conf.cells : Int) = conf.height * conf.width := by
        rw [SceneConf.cells, Int.natCast_mul, Int.toNat_of_nonneg (by omega),
          Int.toNat_of_nonneg (by omega)]
      have hnone : s.nodesSize = 0 := by omega
      obtain ⟨hcolumn, hrow⟩ := index_split (y := pos.y) hx hwidth'
      have hnode : (((s.allocate mapId (some conf)).getNode pos : Nat) : Int) =
          pos.y * conf.width + pos.x := by
        have hnonneg : 0 ≤ pos.y * conf.width :=
          Int.mul_nonneg hy (by omega)
        have hindex : 0 ≤ pos.y * conf.width + pos.x := by omega
        exact Int.toNat_of_nonneg hindex
      show (s.pushNodes conf _).pos = pos ∧ (s.pushNodes conf _).walkable = _
      simp only [pushNodes, hnone, Nat.not_lt_zero, if_false, Nat.sub_zero, hnode, hcolumn, hrow,
        and_self]

end BattleScene

namespace Apps

variable {a : Apps}

/-- `Allocate(map_id)` returns, namely `NULL` or a scene for just that map. -/
def AllocatesRight (a : Apps) (mapId : Int) : Prop :=
  ∃ answer b, a.allocateScene mapId = some (answer, b) ∧ ∀ sc, answer = some sc →
    ∃ conf, a.sceneConfs mapId = some conf ∧ (b.scene sc).Represents mapId conf

/-- The scene `Allocate` takes from the pool or from `new`, before `Scene::Allocate`. -/
def nextScene (a : Apps) : Option TimedScene :=
  a.scenePool.allocate.1.map a.scenePool.allocate.2.read

/-- In every state reached by calls, the next `Allocate` is right exactly when there is a scene for
a configured map, and the nodes it brings along and those pushed are one for each cell. Without
a scene it returns only for a map that is not configured. -/
theorem allocatesRight_iff {configs : Server.Configs} {memory : Server.Memory}
    (h : Reaches sceneStep (fun _ _ => True) (Server.started configs memory).apps a) (mapId : Int) :
    a.AllocatesRight mapId ↔ (a.nextScene = none → a.sceneConfs mapId = none) ∧
      ∀ scene, a.nextScene = some scene → ∃ conf, a.sceneConfs mapId = some conf ∧
        (scene.nodesSize : Int) + conf.cells = conf.height * conf.width := by
  have hidle : a.ScenesIdle := by
    refine h.invariant ⟨?_, ?_⟩ fun _ _ _ hidle _ hstep => hidle.step hstep
    · exact (PoolTemplate.new_grown 0 1 memory.scenes).sound
    · intro p hp
      cases hp
  rcases hnext : a.scenePool.allocate with ⟨taken, pool⟩
  cases taken with
  | none =>
    have hbefore : a.nextScene = none := by simp [nextScene, hnext]
    constructor
    · rintro ⟨answer, b, hallocate, _⟩
      rw [allocateScene, hnext] at hallocate
      obtain ⟨hunknown, _⟩ := Option.ite_none_left_eq_some.mp hallocate
      refine ⟨fun _ => Option.not_isSome_iff_eq_none.mp hunknown, fun scene hscene => ?_⟩
      rw [hbefore] at hscene
      cases hscene
    · rintro ⟨hunknown, _⟩
      refine ⟨none, { a with scenePool := pool }, ?_, fun sc hsc => by cases hsc⟩
      rw [allocateScene, hnext, hunknown hbefore]
      rfl
  | some sc =>
    have hcleared := hidle.taken hnext (Or.inl rfl)
    have hlive := (PoolTemplate.allocate_held hidle.sound hnext).1.1
    have hbefore : a.nextScene = some (pool.read sc) := by simp [nextScene, hnext]
    obtain ⟨b, hallocate, hscene⟩ : ∃ b, a.allocateScene mapId = some (some sc, b) ∧
        b.scene sc = { pool.read sc with
          toBattleScene := (pool.read sc).allocate mapId (a.sceneConfs mapId) } := by
      rw [allocateScene, hnext]
      exact ⟨_, rfl, PoolTemplate.read_modify hlive _⟩
    constructor
    · rintro ⟨answer, b', hreturned, hright⟩
      cases hallocate.symm.trans hreturned
      obtain ⟨conf, hconf, hrep⟩ := hright sc rfl
      rw [hscene, hconf] at hrep
      refine ⟨fun hnone => ?_, fun scene hnextScene => ?_⟩
      · rw [hbefore] at hnone
        cases hnone
      · rw [hbefore] at hnextScene
        cases hnextScene
        exact ⟨conf, hconf, (BattleScene.represents_allocate_iff hcleared mapId conf).mp hrep⟩
    · rintro ⟨_, hgood⟩
      obtain ⟨conf, hconf, hsize⟩ := hgood _ hbefore
      refine ⟨some sc, b, hallocate, fun sc' hsc' => ⟨conf, hconf, ?_⟩⟩
      cases hsc'
      rw [hscene, hconf]
      exact (BattleScene.represents_allocate_iff hcleared mapId conf).mpr hsize

/-- Map 1 of one cell and map 2 of two, and memory for one scene. -/
def twoMaps : Apps :=
  (Server.small (fun mapId => if mapId = 1 then some ⟨1, 1, ['0']⟩ else
    if mapId = 2 then some ⟨2, 1, ['0', '0']⟩ else none) ⟨[], [], [], [], [some 5], [], [], [], []⟩).apps

/-- The scene is used for the first map and given back. -/
def firstMap : List SceneCall :=
  [.allocateScene 1, .initializeScene 5 9, .finalizeScene 5, .deallocateScene 5]

/-- The scene then comes back for the second map with three nodes. -/
theorem reused_scene_keeps_nodes :
    ∃ a, Reaches sceneStep (fun _ _ => True) twoMaps a ∧ ¬a.AllocatesRight 2 := by
  have hrun : (run sceneStep firstMap twoMaps).map (fun a =>
      ((a.allocateScene 2).map fun r => (r.1, (r.2.scene 5).nodesSize),
        (a.sceneConfs 2).map fun conf => conf.height * conf.width)) =
        some (some (some 5, 3), some 2) := by decide +kernel
  obtain ⟨a, ha, hvalues⟩ := Option.map_eq_some_iff.mp hrun
  obtain ⟨hvalues, hcells⟩ := Prod.mk.inj hvalues
  obtain ⟨r, hr, hvalues⟩ := Option.map_eq_some_iff.mp hvalues
  obtain ⟨hfirst, hsize⟩ := Prod.mk.inj hvalues
  refine ⟨a, reaches_of_run ha, ?_⟩
  rintro ⟨answer, b, hallocate, hright⟩
  cases hr.symm.trans hallocate
  obtain ⟨conf, hconf, hrep⟩ := hright 5 hfirst
  have hnodes := hrep.nodesSize
  simp only [hconf, Option.map_some, Option.some.injEq] at hcells
  rw [hsize, hcells] at hnodes
  cases hnodes

/-- A new scene for the first map. -/
theorem allocatesRight_first : twoMaps.AllocatesRight 1 := by
  have hempty : twoMaps.nextScene.map (fun scene => scene.nodesSize) = some 0 := by decide +kernel
  refine (allocatesRight_iff Reaches.refl 1).mpr ⟨fun hnone => ?_, fun scene hscene => ?_⟩
  · have hnone : twoMaps.nextScene = none := hnone
    rw [hnone] at hempty
    cases hempty
  refine ⟨⟨1, 1, ['0']⟩, rfl, ?_⟩
  have hnext : twoMaps.nextScene = some scene := hscene
  rw [hnext, Option.map_some, Option.some.injEq] at hempty
  rw [hempty]
  rfl

end Apps

end Mysya
