import Mathlib.Algebra.Ring.Nat
import Mysya.SceneApp
import Mysya.Walkability

/-!
# The range query of a scene

The loop of `GetNeighbors` over `i` reads the whole window of radius `i` each
time, not its rim, and cuts it at `width_ - i` and `height_ - i`. A cell at
Chebyshev distance `d` is so read once for every `i` from `d` to the range that
is not above its distance from the far edges.
-/

open Std

namespace Mysya

/-- The Chebyshev distance. -/
def chebyshev (a b : Position) : Int := (max (a.x - b.x).natAbs (a.y - b.y).natAbs : Nat)

theorem sum_indicator {α : Type*} (p : α → Bool) (l : List α) :
    (l.map fun a => if p a then 1 else 0).sum = l.countP p := by
  induction l with
  | nil => rfl
  | cons a l ih =>
    rw [List.map_cons, List.sum_cons, ih, List.countP_cons, Nat.add_comm]

namespace Scene

theorem nodup_loopRange (first last : Int) : (loopRange first last).Nodup := by
  rw [loopRange]
  apply List.Nodup.map
  · intro i j hij
    dsimp only at hij
    omega
  · exact List.nodup_range

/-- How many values of a loop lie between two bounds. -/
theorem countP_loopRange (last low high : Int) (hlow : 0 ≤ low) :
    (loopRange 0 last).countP (fun i => decide (low ≤ i ∧ i ≤ high)) =
      (min last high - low + 1).toNat := by
  have hcount : ∀ n : Nat, (List.range n).countP
      (fun k : Nat => decide (low ≤ 0 + (k : Int) ∧ 0 + (k : Int) ≤ high)) =
        (min ((n : Int) - 1) high - low + 1).toNat := by
    intro n
    induction n with
    | zero =>
      rw [List.range_zero, List.countP_nil]
      omega
    | succ n ih =>
      rw [List.range_succ, List.countP_append, ih, List.countP_singleton]
      split <;> rename_i hn <;> rw [decide_eq_true_eq] at hn <;> omega
  rw [loopRange, List.countP_map]
  refine (hcount (last - 0 + 1).toNat).trans ?_
  omega

theorem getNode_inj {s : Scene} {a b : Position} (ha : s.inMap a = true) (hb : s.inMap b = true)
    (h : s.getNode a = s.getNode b) : a = b := by
  obtain ⟨ha0, ha1, ha2, _⟩ := (s.inMap_iff a).mp ha
  obtain ⟨hb0, hb1, hb2, _⟩ := (s.inMap_iff b).mp hb
  have hna : 0 ≤ a.y * s.width := Int.mul_nonneg ha2 (by omega)
  have hnb : 0 ≤ b.y * s.width := Int.mul_nonneg hb2 (by omega)
  have hnodes : (a.y * s.width + a.x).toNat = (b.y * s.width + b.x).toNat := h
  have hindex : a.x + a.y * s.width = b.x + b.y * s.width := by omega
  have hx : (a.x + a.y * s.width) % s.width = (b.x + b.y * s.width) % s.width := by rw [hindex]
  rw [Int.add_mul_emod_self_right, Int.add_mul_emod_self_right, Int.emod_eq_of_lt ha0 ha1,
    Int.emod_eq_of_lt hb0 hb1] at hx
  have hrow : a.y * s.width = b.y * s.width := by omega
  have hy := Int.eq_of_mul_eq_mul_right (by omega) hrow
  obtain ⟨ax, ay⟩ := a
  obtain ⟨bx, by'⟩ := b
  rw [Position.mk.injEq]
  exact ⟨hx, hy⟩

end Scene

namespace BattleScene

section Window

variable (s : BattleScene) (pos : Position)

/-- The cells of one round of `GetNeighbors`. -/
def cellsAround (i : Int) : List Position :=
  (Scene.loopRange (Scene.stdMax (pos.y - i) 0) (Scene.stdMin (pos.y + i) (s.height - i))).flatMap
    fun y => (Scene.loopRange (Scene.stdMax (pos.x - i) 0)
      (Scene.stdMin (pos.x + i) (s.width - i))).map fun x => ⟨x, y⟩

theorem gridsAround_eq (i : Int) :
    s.gridsAround pos i = (s.cellsAround pos i).filterMap s.getGrid := by
  simp only [gridsAround, cellsAround, List.filterMap_flatMap, List.filterMap_map]
  rfl

theorem mem_cellsAround (i : Int) (cell : Position) : cell ∈ s.cellsAround pos i ↔
    chebyshev pos cell ≤ i ∧ 0 ≤ cell.x ∧ 0 ≤ cell.y ∧ i ≤ s.width - cell.x ∧
      i ≤ s.height - cell.y := by
  simp only [cellsAround, List.mem_flatMap, List.mem_map, Scene.mem_loopRange,
    Scene.stdMax_le_iff, Scene.le_stdMin_iff, chebyshev]
  constructor
  · rintro ⟨y, hy, x, hx, rfl⟩
    dsimp only
    omega
  · intro h
    exact ⟨cell.y, by omega, cell.x, by omega, rfl⟩

theorem nodup_cellsAround (i : Int) : (s.cellsAround pos i).Nodup := by
  rw [cellsAround, List.nodup_flatMap]
  constructor
  · intro y _
    apply (Scene.nodup_loopRange _ _).map
    intro x x' hxx
    exact (Position.mk.inj hxx).1
  · refine (Scene.nodup_loopRange _ _).imp ?_
    intro y y' hne cell hcell hcell'
    rw [List.mem_map] at hcell hcell'
    obtain ⟨x, _, rfl⟩ := hcell
    obtain ⟨x', _, heq⟩ := hcell'
    exact hne (Position.mk.inj heq).2.symm

theorem count_cellsAround (i : Int) (cell : Position) :
    (s.cellsAround pos i).count cell = if cell ∈ s.cellsAround pos i then 1 else 0 := by
  split
  · rename_i hmem
    exact List.count_eq_one_of_mem (s.nodup_cellsAround pos i) hmem
  · rename_i hmem
    exact List.count_eq_zero_of_not_mem hmem

/-- The cells `GetNeighbors` reads, in order. -/
def cellsRead (range : Int) : List Position :=
  (Scene.loopRange 0 range).flatMap (s.cellsAround pos)

/-- A cell of the map is read once for every radius from its distance on that fits. -/
theorem count_cellsRead (range : Int) {cell : Position} (h : s.inMap cell = true) :
    (s.cellsRead pos range).count cell =
      (min range (min (s.width - cell.x) (s.height - cell.y)) - chebyshev pos cell + 1).toNat := by
  have hin := (Scene.inMap_iff _ cell).mp h
  have hround : ∀ i ∈ Scene.loopRange 0 range, (s.cellsAround pos i).count cell =
      if decide (chebyshev pos cell ≤ i ∧ i ≤ min (s.width - cell.x) (s.height - cell.y))
        then 1 else 0 := by
    intro i _
    rw [count_cellsAround]
    apply if_congr _ rfl rfl
    rw [mem_cellsAround, decide_eq_true_eq]
    omega
  rw [cellsRead, List.count_flatMap, Function.comp_def, List.map_congr_left hround,
    sum_indicator]
  exact Scene.countP_loopRange range _ _ (by rw [chebyshev]; omega)

theorem mem_cellsRead {range : Int} {cell : Position} (h : cell ∈ s.cellsRead pos range) :
    chebyshev pos cell ≤ range := by
  rw [cellsRead, List.mem_flatMap] at h
  obtain ⟨i, hi, hcell⟩ := h
  rw [Scene.mem_loopRange] at hi
  exact ((s.mem_cellsAround pos i cell).mp hcell).1.trans hi.2

end Window

/-! ## The objects of one kind -/

section Objects

variable {s : BattleScene} {objects : Grid → ExtTreeSet Ptr} {p : Ptr} {cell : Position}

/-- The objects of the cells read. -/
def objectsRead (s : BattleScene) (objects : Grid → ExtTreeSet Ptr) (cells : List Position) :
    List Ptr :=
  (cells.filterMap s.getGrid).flatMap fun i => (objects (s.grids i)).toList

theorem getNeighbors_eq_some_iff (s : BattleScene) (pos : Position) (range : Int)
    (around : List Ptr × List Ptr) : s.getNeighbors pos range = some around ↔
      s.LoopsEnd pos range ∧ around = (s.objectsRead Grid.buildings (s.cellsRead pos range),
        s.objectsRead Grid.warriors (s.cellsRead pos range)) := by
  have hvisited : (Scene.loopRange 0 range).flatMap (s.gridsAround pos) =
      (s.cellsRead pos range).filterMap s.getGrid := by
    rw [cellsRead, List.filterMap_flatMap]
    congr 1
    funext i
    exact s.gridsAround_eq pos i
  rw [getNeighbors, hvisited, Option.ite_none_right_eq_some, Option.some.injEq]
  exact and_congr_right fun _ => eq_comm

/-- The grid at `cell` is the object's. -/
def StandsAt (s : BattleScene) (objects : Grid → ExtTreeSet Ptr) (cell : Position) (p : Ptr) :
    Prop :=
  s.inMap cell = true ∧ ∀ other, s.inMap other = true →
    (p ∈ objects (s.grids (s.getNode other)) ↔ other = cell)

theorem count_toList (t : ExtTreeSet Ptr) (p : Ptr) :
    t.toList.count p = if p ∈ t then 1 else 0 := by
  have hnodup : t.toList.Nodup := by
    refine t.distinct_toList.imp ?_
    intro a b hne heq
    exact hne (Std.compare_eq_iff_eq.mpr heq)
  split
  · rename_i hmem
    exact List.count_eq_one_of_mem hnodup (ExtTreeSet.mem_toList.mpr hmem)
  · rename_i hmem
    exact List.count_eq_zero_of_not_mem (mt ExtTreeSet.mem_toList.mp hmem)

theorem StandsAt.count_objectsRead (h : s.StandsAt objects cell p) (cells : List Position) :
    (s.objectsRead objects cells).count p = cells.count cell := by
  induction cells with
  | nil => rfl
  | cons q cells ih =>
    rw [objectsRead] at ih ⊢
    rw [List.count_cons, List.filterMap_cons, getGrid_eq]
    by_cases hq : s.inMap q = true
    · rw [if_pos hq]
      dsimp only
      rw [List.flatMap_cons, List.count_append, ih, count_toList, Nat.add_comm]
      congr 1
      apply if_congr _ rfl rfl
      rw [h.2 q hq, beq_iff_eq]
    · rw [if_neg hq]
      dsimp only
      rw [ih, if_neg, Nat.add_zero]
      rw [beq_iff_eq]
      rintro rfl
      exact hq h.1

/-- What is returned stands on a cell of the map in range. -/
theorem objectsRead_inRange {pos : Position} {range : Int}
    (h : p ∈ s.objectsRead objects (s.cellsRead pos range)) : ∃ cell, s.inMap cell = true ∧
      chebyshev pos cell ≤ range ∧ p ∈ objects (s.grids (s.getNode cell)) := by
  rw [objectsRead, List.mem_flatMap] at h
  obtain ⟨i, hi, hp⟩ := h
  obtain ⟨cell, hcell, hgrid⟩ := List.mem_filterMap.mp hi
  rw [getGrid_eq] at hgrid
  split at hgrid
  · rename_i hin
    rw [Option.some.injEq] at hgrid
    subst hgrid
    exact ⟨cell, hin, s.mem_cellsRead pos hcell, ExtTreeSet.mem_toList.mp hp⟩
  · cases hgrid

/-- Of the radii at which the cell is in range, its distance is the last one and fits. -/
def SeenOnce (s : BattleScene) (pos : Position) (range : Int) (cell : Position) : Prop :=
  chebyshev pos cell ≤ range →
    min range (min (s.width - cell.x) (s.height - cell.y)) = chebyshev pos cell

instance (s : BattleScene) (pos : Position) (range : Int) (cell : Position) :
    Decidable (s.SeenOnce pos range cell) :=
  inferInstanceAs (Decidable (_ → _))

theorem StandsAt.count_iff (h : s.StandsAt objects cell p) (pos : Position) (range : Int) :
    (s.objectsRead objects (s.cellsRead pos range)).count p =
        (if chebyshev pos cell ≤ range then 1 else 0) ↔ s.SeenOnce pos range cell := by
  have hin := (Scene.inMap_iff _ cell).mp h.1
  rw [h.count_objectsRead, s.count_cellsRead pos range h.1, SeenOnce]
  split <;> omega

end Objects

end BattleScene

/-! ## What the gateway is told -/

namespace Apps

/-- The id a building is reported by, unless its camp is the one left out. -/
def reportedBuilding (m : CombatManagers) (a : Apps) (exceptCampId : Int) (b : Ptr) : Option Int :=
  let key := (a.sceneBuildings.read b).host.getD (0, 0)
  match m.getBuilding key.1 key.2 with
  | none => none
  | some building => if building.campId = exceptCampId then none else some key.2

/-- The id a warrior is reported by. -/
def reportedWarrior (m : CombatManagers) (a : Apps) (exceptCampId : Int) (w : Ptr) : Option Int :=
  let key := (a.warrior w).host.getD (0, 0)
  match m.getWarrior key.1 key.2 with
  | none => none
  | some warrior => if warrior.campId = exceptCampId then none else some key.2

theorem onRequireSceneFetch_eq (m : CombatManagers) {a : Apps} {combatId : Int} {sc : Ptr}
    (hc : a.scenes combatId = some sc) (exceptCampId : Int) {pos : Position} {range : Int}
    {around : List Ptr × List Ptr} (haround : (a.scene sc).getNeighbors pos range = some around) :
    a.onRequireSceneFetch m combatId exceptCampId pos range =
      some (around.1.filterMap (a.reportedBuilding m exceptCampId),
        around.2.filterMap (a.reportedWarrior m exceptCampId)) := by
  rw [onRequireSceneFetch, hc, Option.bind_some, haround]
  rfl

theorem count_filterMap {α β : Type*} [DecidableEq α] [DecidableEq β] {f : α → Option β} {x : α}
    {y : β} (hx : f x = some y) (l : List α) (honly : ∀ z ∈ l, f z = some y → z = x) :
    (l.filterMap f).count y = l.count x := by
  induction l with
  | nil => rfl
  | cons z l ih =>
    have hrest := ih fun z' hz' => honly z' (List.mem_cons_of_mem _ hz')
    by_cases hz : z = x
    · rw [hz, List.filterMap_cons_some hx, List.count_cons_self, List.count_cons_self, hrest]
    · have hne : f z ≠ some y := fun heq => hz (honly z List.mem_cons_self heq)
      rw [List.count_cons_of_ne hz, ← hrest]
      cases hf : f z with
      | none => rw [List.filterMap_cons_none hf]
      | some y' =>
        rw [List.filterMap_cons_some hf, List.count_cons_of_ne]
        rintro rfl
        exact hne hf

/-- The ids of the fetch, where those of the objects around differ, each as often as its object is
found. -/
structure FetchedOnce (m : CombatManagers) (a : Apps) (sc : Ptr) (exceptCampId : Int)
    (pos : Position) (range : Int) (around : List Ptr × List Ptr) (buildings warriors : List Int) :
    Prop where
  building : ∀ p cell id, (a.scene sc).StandsAt Grid.buildings cell p →
    a.reportedBuilding m exceptCampId p = some id →
    (∀ q ∈ around.1, a.reportedBuilding m exceptCampId q = some id → q = p) →
    (buildings.count id = (if chebyshev pos cell ≤ range then 1 else 0) ↔
      (a.scene sc).SeenOnce pos range cell)
  warrior : ∀ p cell id, (a.scene sc).StandsAt Grid.warriors cell p →
    a.reportedWarrior m exceptCampId p = some id →
    (∀ q ∈ around.2, a.reportedWarrior m exceptCampId q = some id → q = p) →
    (warriors.count id = (if chebyshev pos cell ≤ range then 1 else 0) ↔
      (a.scene sc).SeenOnce pos range cell)

end Apps

namespace BattleScene

/-- What stands in range is found, once, exactly where the loops come to their ends and its
distance from the position is the last radius that reads its cell; nothing else is found, and a
fetch reports what is found. -/
theorem found_once_iff (s : BattleScene) (pos : Position) (range : Int) :
    (∀ p cell, s.StandsAt Grid.buildings cell p →
      ((∃ around, s.getNeighbors pos range = some around ∧
          around.1.count p = if chebyshev pos cell ≤ range then 1 else 0) ↔
        s.LoopsEnd pos range ∧ s.SeenOnce pos range cell)) ∧
      (∀ p cell, s.StandsAt Grid.warriors cell p →
        ((∃ around, s.getNeighbors pos range = some around ∧
            around.2.count p = if chebyshev pos cell ≤ range then 1 else 0) ↔
          s.LoopsEnd pos range ∧ s.SeenOnce pos range cell)) ∧
      (∀ around, s.getNeighbors pos range = some around →
        (∀ p ∈ around.1, ∃ cell, s.inMap cell = true ∧
          chebyshev pos cell ≤ range ∧ p ∈ (s.grids (s.getNode cell)).buildings) ∧
        ∀ p ∈ around.2, ∃ cell, s.inMap cell = true ∧
          chebyshev pos cell ≤ range ∧ p ∈ (s.grids (s.getNode cell)).warriors) ∧
      ∀ m a combatId sc exceptCampId around, Apps.scenes a combatId = some sc →
        (a.scene sc).toBattleScene = s → s.getNeighbors pos range = some around →
        ∃ buildings warriors, a.onRequireSceneFetch m combatId exceptCampId pos range =
          some (buildings, warriors) ∧
          a.FetchedOnce m sc exceptCampId pos range around buildings warriors := by
  refine ⟨?_, ?_, ?_, ?_⟩
  · intro p cell h
    simp only [getNeighbors_eq_some_iff, and_assoc, exists_and_left, exists_eq_left]
    exact and_congr_right fun _ => h.count_iff pos range
  · intro p cell h
    simp only [getNeighbors_eq_some_iff, and_assoc, exists_and_left, exists_eq_left]
    exact and_congr_right fun _ => h.count_iff pos range
  · intro around haround
    obtain ⟨_, rfl⟩ := (s.getNeighbors_eq_some_iff pos range around).mp haround
    exact ⟨fun p hp => objectsRead_inRange hp, fun p hp => objectsRead_inRange hp⟩
  · intro m a combatId sc exceptCampId around hc hs haround
    subst hs
    refine ⟨_, _, Apps.onRequireSceneFetch_eq m hc exceptCampId haround, ?_, ?_⟩
    · intro p cell id h hid honly
      rw [Apps.count_filterMap hid _ honly]
      obtain ⟨_, rfl⟩ := (getNeighbors_eq_some_iff _ pos range around).mp haround
      exact h.count_iff pos range
    · intro p cell id h hid honly
      rw [Apps.count_filterMap hid _ honly]
      obtain ⟨_, rfl⟩ := (getNeighbors_eq_some_iff _ pos range around).mp haround
      exact h.count_iff pos range

/-- Four by four cells with one building on each of two of them. -/
def twoBuildings : BattleScene :=
  { new with
    width := 4
    height := 4
    grids := fun i =>
      if i = 5 then { Grid.new true with buildings := (∅ : ExtTreeSet Ptr).insert 7 }
      else if i = 7 then { Grid.new true with buildings := (∅ : ExtTreeSet Ptr).insert 8 }
      else Grid.new true }

theorem twoBuildings_mem (i : Nat) : (7 ∈ (twoBuildings.grids i).buildings ↔ i = 5) ∧
    (8 ∈ (twoBuildings.grids i).buildings ↔ i = 7) := by
  simp only [twoBuildings]
  by_cases h5 : i = 5
  · subst h5
    decide
  by_cases h7 : i = 7
  · subst h7
    decide
  · rw [if_neg h5, if_neg h7]
    simp [h5, h7, Grid.new]

theorem twoBuildings_stand : twoBuildings.StandsAt Grid.buildings ⟨1, 1⟩ 7 ∧
    twoBuildings.StandsAt Grid.buildings ⟨3, 1⟩ 8 := by
  have hat : ∀ (cell : Position) {other : Position}, twoBuildings.inMap cell = true →
      twoBuildings.inMap other = true →
      (twoBuildings.getNode other = twoBuildings.getNode cell ↔ other = cell) := by
    intro cell other hcell hother
    exact ⟨Scene.getNode_inj hother hcell, fun h => by rw [h]⟩
  refine ⟨⟨by decide, fun other hother => ?_⟩, ⟨by decide, fun other hother => ?_⟩⟩
  · rw [(twoBuildings_mem _).1]
    exact hat ⟨1, 1⟩ (by decide) hother
  · rw [(twoBuildings_mem _).2]
    exact hat ⟨3, 1⟩ (by decide) hother

/-- From the first building and two cells around, it is found three times and the other, at the
far edge, not at all. -/
theorem twoBuildings_found :
    (twoBuildings.getNeighbors ⟨1, 1⟩ 2).map Prod.fst = some [7, 7, 7] ∧
    ¬ ∀ (s : BattleScene) (pos : Position) (range : Int), 0 ≤ range →
      ∀ p cell, s.StandsAt Grid.buildings cell p → ∃ around,
        s.getNeighbors pos range = some around ∧
          around.1.count p = if chebyshev pos cell ≤ range then 1 else 0 := by
  have hfound : (twoBuildings.getNeighbors ⟨1, 1⟩ 2).map Prod.fst = some [7, 7, 7] := by
    decide +kernel
  refine ⟨hfound, fun hexact => ?_⟩
  obtain ⟨around, haround, hcount⟩ :=
    hexact twoBuildings ⟨1, 1⟩ 2 (by decide) 7 ⟨1, 1⟩ twoBuildings_stand.1
  rw [haround, Option.map_some, Option.some.injEq] at hfound
  rw [hfound] at hcount
  exact absurd hcount (by decide)

/-- At range one of the cell beside it, the second building is found once. -/
theorem twoBuildings_once : ∃ around, twoBuildings.getNeighbors ⟨2, 1⟩ 1 = some around ∧
    around.1.count 8 = 1 :=
  ((found_once_iff twoBuildings ⟨2, 1⟩ 1).1 8 ⟨3, 1⟩ twoBuildings_stand.2).mpr (by decide)

end BattleScene

end Mysya
