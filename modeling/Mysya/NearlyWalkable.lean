import Mysya.NeighborRange
import Mysya.WarriorAttributes

/-!
# A walkable cell beside a building

The inner loop of `GetNearlyWalkablePos` stops before the last column of its window, so a cell
there is never found. The other overload calls itself.
-/

open Std

namespace Mysya

namespace BattleScene

/-- `GetNearlyWalkablePos(x, y, nearly_pos)`, with as many calls as there is fuel for. -/
def getNearlyWalkablePosXY (s : BattleScene) : Nat → Int → Int → Option (Option Position)
  | 0, _, _ => none
  | fuel + 1, x, y => s.getNearlyWalkablePosXY fuel x y

/-- A walkable cell of the map, at a distance of at most 1. -/
structure WalkableNear (s : BattleScene) (pos cell : Position) : Prop where
  inMap : s.inMap cell = true
  near : chebyshev pos cell ≤ 1
  walkable : s.getWalkable cell = true

/-- The answer is a walkable cell nearby, if there is one. -/
structure AnswersNear (s : BattleScene) (pos : Position) (answer : Option Position) : Prop where
  found : answer.isSome ↔ ∃ cell, s.WalkableNear pos cell
  cell : ∀ cell, answer = some cell → s.WalkableNear pos cell

/-- Where a cell nearby is walkable, one is that is not in the last column of the window. -/
def WalkableBefore (s : BattleScene) (pos : Position) : Prop :=
  (∃ cell, s.WalkableNear pos cell) →
    ∃ cell, s.WalkableNear pos cell ∧ cell.x < Scene.stdMin (pos.x + 1) (s.width - 1)

section Window

variable {s : BattleScene} {pos cell : Position}

theorem getNearlyWalkablePosXY_none (s : BattleScene) (fuel : Nat) (x y : Int) :
    s.getNearlyWalkablePosXY fuel x y = none := by
  induction fuel with
  | zero => rfl
  | succ fuel ih => exact ih

/-- The cells that `GetNearlyWalkablePos` tries. -/
def cellsTried (s : BattleScene) (pos : Position) : List Position :=
  (Scene.loopRange (Scene.stdMax (pos.y - 1) 0) (Scene.stdMin (pos.y + 1) (s.height - 1))).flatMap
    fun y => (Scene.loopRange (Scene.stdMax (pos.x - 1) 0)
      (Scene.stdMin (pos.x + 1) (s.width - 1) - 1)).map fun x => ⟨x, y⟩

theorem mem_cellsTried : cell ∈ s.cellsTried pos ↔
    s.inMap cell = true ∧ chebyshev pos cell ≤ 1 ∧
      cell.x < Scene.stdMin (pos.x + 1) (s.width - 1) := by
  have hlast := Scene.le_stdMin_iff (pos.x + 1) (s.width - 1) (cell.x + 1)
  simp only [cellsTried, List.mem_flatMap, List.mem_map, Scene.mem_loopRange, Scene.stdMax_le_iff,
    Scene.inMap_iff, chebyshev]
  constructor
  · rintro ⟨y, ⟨hy, hy'⟩, x, ⟨hx, hx'⟩, rfl⟩
    rw [Scene.le_stdMin_iff] at hy'
    dsimp only at *
    have := hlast.mp (by omega)
    omega
  · rintro ⟨hmap, hnear, hx⟩
    have := hlast.mp (by omega)
    exact ⟨cell.y, ⟨by omega, (Scene.le_stdMin_iff _ _ _).mpr (by omega)⟩, cell.x, by omega, rfl⟩

theorem getNearlyWalkablePos_some (h : s.getNearlyWalkablePos pos = some cell) :
    s.WalkableNear pos cell ∧ cell.x < Scene.stdMin (pos.x + 1) (s.width - 1) := by
  have hfind : (s.cellsTried pos).find? s.getWalkable = some cell := h
  obtain ⟨hmap, hnear, hx⟩ := mem_cellsTried.mp (List.mem_of_find?_eq_some hfind)
  exact ⟨⟨hmap, hnear, List.find?_some hfind⟩, hx⟩

theorem getNearlyWalkablePos_none (h : s.getNearlyWalkablePos pos = none)
    (hcell : s.WalkableNear pos cell) : Scene.stdMin (pos.x + 1) (s.width - 1) ≤ cell.x := by
  have hfind : (s.cellsTried pos).find? s.getWalkable = none := h
  by_contra hx
  have htried := mem_cellsTried.mpr ⟨hcell.inMap, hcell.near, by omega⟩
  exact List.find?_eq_none.mp hfind cell htried hcell.walkable

theorem answersNear_iff (s : BattleScene) (pos : Position) :
    s.AnswersNear pos (s.getNearlyWalkablePos pos) ↔ s.WalkableBefore pos := by
  constructor
  · intro hanswer hnear
    obtain ⟨cell, hcell⟩ := Option.isSome_iff_exists.mp (hanswer.found.mpr hnear)
    exact ⟨cell, getNearlyWalkablePos_some hcell⟩
  · intro hbefore
    constructor
    · constructor
      · intro hsome
        obtain ⟨cell, hcell⟩ := Option.isSome_iff_exists.mp hsome
        exact ⟨cell, (getNearlyWalkablePos_some hcell).1⟩
      · intro hnear
        obtain ⟨cell, hcell, hx⟩ := hbefore hnear
        rw [Option.isSome_iff_ne_none]
        intro hnone
        have := getNearlyWalkablePos_none hnone hcell
        omega
    · exact fun cell hcell => (getNearlyWalkablePos_some hcell).1

end Window

end BattleScene

namespace Apps

/-- A new warrior finds no place, or the scene does not take it there. -/
theorem placeWarrior_fails {m : CombatManagers} {a : Apps} {sc b w : Ptr} {key : EntityKey}
    {moveSpeed : Int} (h : (a.placeWarrior m sc b w key moveSpeed).1 = false) :
    (a.scene sc).getNearlyWalkablePos (a.buildingEntity m b).pos = none ∨
      ∃ entity, entity.ptr = w ∧ (a.scene sc).addWarrior entity = none := by
  rw [placeWarrior] at h
  split at h
  · rename_i hnone
    exact Or.inl hnone
  · dsimp only at h
    split at h
    · rename_i hnone
      refine Or.inr ⟨_, ?_, hnone⟩
      rfl
    · cases h

end Apps

namespace Server

open BattleScene Apps

/-- Of the two overloads one never returns. The other answers exactly where some walkable cell
nearby, if there is any, is outside the last column of the window; then a building without a place
for a warrior is enclosed. -/
theorem nearly_walkable (s : BattleScene) (pos : Position) :
    (∀ fuel, s.getNearlyWalkablePosXY fuel pos.x pos.y = none) ∧
    (s.AnswersNear pos (s.getNearlyWalkablePos pos) ↔ s.WalkableBefore pos) ∧
    (s.WalkableBefore pos → ∀ (m : CombatManagers) (a : Apps) (sc b w : Ptr) (key : EntityKey)
      (moveSpeed : Int), (a.scene sc).toBattleScene = s → (a.buildingEntity m b).pos = pos →
      (a.placeWarrior m sc b w key moveSpeed).1 = false →
        (∀ cell, ¬ s.WalkableNear pos cell) ∨
          ∃ entity, entity.ptr = w ∧ s.addWarrior entity = none) := by
  refine ⟨fun fuel => s.getNearlyWalkablePosXY_none fuel pos.x pos.y, s.answersNear_iff pos, ?_⟩
  intro hbefore m a sc b w key moveSpeed hscene hbuilding hfails
  rcases placeWarrior_fails hfails with hnone | ⟨entity, hptr, hnone⟩
  · rw [hscene, hbuilding] at hnone
    refine Or.inl fun cell hcell => ?_
    obtain ⟨before, hnear, hx⟩ := hbefore ⟨cell, hcell⟩
    have := getNearlyWalkablePos_none hnone hnear
    omega
  · rw [hscene] at hnone
    exact Or.inr ⟨entity, hptr, hnone⟩

/-- One row of three cells, the first one blocked, with a building on the second. -/
def lastCellFree : Server :=
  (((small (fun _ => some ⟨1, 3, ['1', '0', '0']⟩) ⟨[some 0], [some 0], [true], [true], [some 0],
    [some 0], [some 0], [some 0], [some 0]⟩).step (.accept 0)).step
      (.deploy 0 5 (recruits 5 400))).step (.begin 0 0)

/-- The build fails although the building has a free cell on its right. -/
theorem nearly_walkable_missed :
    (lastCellFree.apps.scene 0).inMap ⟨1, 0⟩ = true ∧
    (lastCellFree.apps.scene 0).WalkableNear ⟨1, 0⟩ ⟨2, 0⟩ ∧
    (lastCellFree.apps.scene 0).getNearlyWalkablePos ⟨1, 0⟩ = none ∧
    ¬ (lastCellFree.apps.scene 0).AnswersNear ⟨1, 0⟩
      ((lastCellFree.apps.scene 0).getNearlyWalkablePos ⟨1, 0⟩) ∧
    (lastCellFree.doBuildAction 0 1 1).1 = false := by
  have hnone : (lastCellFree.apps.scene 0).getNearlyWalkablePos ⟨1, 0⟩ = none := by
    decide +kernel
  have hnear : (lastCellFree.apps.scene 0).WalkableNear ⟨1, 0⟩ ⟨2, 0⟩ :=
    ⟨by decide +kernel, by decide, by decide +kernel⟩
  refine ⟨by decide +kernel, hnear, hnone, ?_, by decide +kernel⟩
  intro hanswer
  have hsome := hanswer.found.mpr ⟨_, hnear⟩
  rw [hnone] at hsome
  cases hsome

end Server

end Mysya
