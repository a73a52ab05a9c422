import Mysya.BestFirstCost
import Mysya.SceneOpenList
import Mathlib.Data.Finset.Dedup

/-!
# Path search as a best-first search

The fields a search writes in the nodes, seen as a `SearchTree`: `g_`,
`parent_`, and whether the two list positions are zero. One round of
`SearchPath` closes the root of the open list and considers its neighbours in
that tree, so its rules bound the loop, keep the parents sound and close every
cell that can be reached.
-/

namespace Mysya

/-- The eight cells around a cell. -/
def EightNeighbour (a b : Position) : Prop :=
  a ≠ b ∧ (a.x - b.x).natAbs ≤ 1 ∧ (a.y - b.y).natAbs ≤ 1

instance (a b : Position) : Decidable (EightNeighbour a b) :=
  inferInstanceAs (Decidable (_ ∧ _))

namespace Scene

/-! ## What a search does not write -/

structure Terrain where
  height : Int
  width : Int
  pos : NodePtr → Position
  walkable : NodePtr → Bool
  startNode : NodePtr
  endNode : NodePtr

def terrain (s : Scene) : Terrain where
  height := s.height
  width := s.width
  pos := fun n => (s.nodes n).pos
  walkable := fun n => (s.nodes n).walkable
  startNode := s.startNode
  endNode := s.endNode

/-- Every in-map position is that of the node `getNode` finds for it. -/
def Laid (s : Scene) : Prop :=
  ∀ pos, s.inMap pos = true → (s.nodes (s.getNode pos)).pos = pos

def Cell (s : Scene) (n : NodePtr) : Prop := ∃ pos, s.inMap pos = true ∧ s.getNode pos = n

def Adj (s : Scene) (u v : NodePtr) : Prop :=
  s.Cell v ∧ EightNeighbour (s.nodes u).pos (s.nodes v).pos ∧ (s.nodes v).walkable = true

def hScore (s : Scene) (n : NodePtr) : Int :=
  (s.nodes n).heursiticConstEstimate (s.nodes s.endNode)

def gCost (s : Scene) (u v : NodePtr) : Int := (s.nodes u).neighbroGCost (s.nodes v)

section Terrain

variable {s s₀ : Scene}

theorem terrain_eq_iff : s.terrain = s₀.terrain ↔ s.height = s₀.height ∧ s.width = s₀.width ∧
    (∀ n, (s.nodes n).pos = (s₀.nodes n).pos) ∧
    (∀ n, (s.nodes n).walkable = (s₀.nodes n).walkable) ∧
    s.startNode = s₀.startNode ∧ s.endNode = s₀.endNode := by
  simp only [terrain, Terrain.mk.injEq, funext_iff]

theorem inMap_congr (h : s.terrain = s₀.terrain) (pos : Position) :
    s.inMap pos = s₀.inMap pos := by
  obtain ⟨hh, hw, _⟩ := terrain_eq_iff.mp h
  simp [inMap, hh, hw]

theorem getNode_congr (h : s.terrain = s₀.terrain) (pos : Position) :
    s.getNode pos = s₀.getNode pos := by
  obtain ⟨_, hw, _⟩ := terrain_eq_iff.mp h
  simp [getNode, hw]

theorem getNeighborNodes_congr (h : s.terrain = s₀.terrain) (n : NodePtr) :
    s.getNeighborNodes n = s₀.getNeighborNodes n := by
  obtain ⟨hh, hw, hp, hk, _⟩ := terrain_eq_iff.mp h
  simp only [getNeighborNodes, getNode_congr h, hh, hw, hp, hk]

theorem hScore_congr (h : s.terrain = s₀.terrain) (n : NodePtr) :
    s.hScore n = s₀.hScore n := by
  obtain ⟨_, _, hp, _, _, he⟩ := terrain_eq_iff.mp h
  simp [hScore, Node.heursiticConstEstimate, hp, he]

theorem gCost_congr (h : s.terrain = s₀.terrain) (u v : NodePtr) :
    s.gCost u v = s₀.gCost u v := by
  obtain ⟨_, _, hp, _⟩ := terrain_eq_iff.mp h
  simp [gCost, Node.neighbroGCost, hp]

end Terrain

theorem mem_loopRange (first last i : Int) : i ∈ loopRange first last ↔ first ≤ i ∧ i ≤ last := by
  rw [loopRange, List.mem_map]
  constructor
  · rintro ⟨k, hk, rfl⟩
    rw [List.mem_range] at hk
    omega
  · rintro ⟨hlow, hhigh⟩
    exact ⟨(i - first).toNat, by rw [List.mem_range]; omega, by omega⟩

theorem inMap_iff (s : Scene) (pos : Position) : s.inMap pos = true ↔
    0 ≤ pos.x ∧ pos.x < s.width ∧ 0 ≤ pos.y ∧ pos.y < s.height := by
  simp [inMap]

theorem stdMax_le_iff (a b i : Int) : stdMax a b ≤ i ↔ a ≤ i ∧ b ≤ i := by
  rw [stdMax]
  split <;> omega

theorem le_stdMin_iff (a b i : Int) : i ≤ stdMin a b ↔ i ≤ a ∧ i ≤ b := by
  rw [stdMin]
  split <;> omega

/-- `GetNeighborNodes` finds the walkable ones of the eight cells, cut at the map's edges. -/
theorem mem_getNeighborNodes {s : Scene} (laid : s.Laid) {n : NodePtr} (hn : s.Cell n)
    (v : NodePtr) : v ∈ s.getNeighborNodes n ↔ s.Adj n v := by
  obtain ⟨pos, hpos, rfl⟩ := hn
  have hplace := laid pos hpos
  rw [inMap_iff] at hpos
  simp only [getNeighborNodes, hplace, List.mem_flatMap, List.mem_filterMap, mem_loopRange,
    stdMax_le_iff, le_stdMin_iff]
  constructor
  · rintro ⟨y, hy, x, hx, hv⟩
    split at hv
    · rename_i hne
      split at hv
      · rename_i hwalk
        obtain rfl : s.getNode ⟨x, y⟩ = v := by simpa using hv
        have hmap : s.inMap ⟨x, y⟩ = true := by
          rw [inMap_iff]
          simp only
          omega
        have hvpos := laid _ hmap
        refine ⟨⟨_, hmap, rfl⟩, ?_, hwalk⟩
        rw [hplace, hvpos]
        refine ⟨?_, by simp only; omega, by simp only; omega⟩
        intro heq
        rw [heq] at hne
        simp at hne
      · simp at hv
    · simp at hv
  · rintro ⟨⟨q, hq, rfl⟩, hnear, hwalk⟩
    rw [hplace, laid q hq] at hnear
    obtain ⟨hne, hx, hy⟩ := hnear
    rw [inMap_iff] at hq
    refine ⟨q.y, by omega, q.x, by omega, ?_⟩
    have hdiff : q.x ≠ pos.x ∨ q.y ≠ pos.y := by
      by_contra hboth
      apply hne
      rw [not_or, not_not, not_not] at hboth
      cases pos
      cases q
      simp_all
    rw [if_pos hdiff, if_pos hwalk]

theorem allocate_laid (s : Scene) (height width : Int) (blocks : Nat → Char) :
    (s.allocate height width blocks).Laid := by
  intro pos hpos
  rw [inMap_iff] at hpos
  obtain ⟨hx, hx', hy, _⟩ := hpos
  have hwidth : (s.allocate height width blocks).width = width := rfl
  rw [hwidth] at hx'
  have hnode : ((pos.y * width + pos.x).toNat : Int) = pos.y * width + pos.x := by
    apply Int.toNat_of_nonneg
    have := Int.mul_nonneg hy (hx.trans hx'.le)
    omega
  have hmod : (pos.y * width + pos.x) % width = pos.x := by
    rw [Int.mul_add_emod_self_right, Int.emod_eq_of_lt hx hx']
  have hdiv : (pos.y * width + pos.x) / width = pos.y := by
    rw [Int.add_comm, Int.add_mul_ediv_right _ _ (by omega), Int.ediv_eq_zero_of_lt hx hx',
      Int.zero_add]
  simp only [allocate, getNode, hnode, hmod, hdiv]

def cells (s : Scene) : Finset NodePtr :=
  ((loopRange 0 (s.height - 1)).flatMap fun y =>
    (loopRange 0 (s.width - 1)).map fun x => s.getNode ⟨x, y⟩).toFinset

theorem mem_cells {s : Scene} {n : NodePtr} (hn : s.Cell n) : n ∈ s.cells := by
  obtain ⟨pos, hpos, rfl⟩ := hn
  rw [inMap_iff] at hpos
  rw [cells, List.mem_toFinset, List.mem_flatMap]
  refine ⟨pos.y, ?_, ?_⟩
  · rw [mem_loopRange]
    omega
  · rw [List.mem_map]
    refine ⟨pos.x, ?_, rfl⟩
    rw [mem_loopRange]
    omega

/-! ## The tree in the nodes -/

def tree (s : Scene) : SearchTree NodePtr where
  cost := fun n => (s.nodes n).g
  parent := fun n => (s.nodes n).parent
  opened := fun n => (s.nodes n).openListPos ≠ 0
  closed := fun n => (s.nodes n).closeListPos ≠ 0

/-- A search under way on the terrain of `s₀`. -/
structure Searching (s₀ s : Scene) : Prop where
  terrain : s.terrain = s₀.terrain
  heap : IndexedHeap.Valid s.fScore s.heap
  priced : ∀ n, s.tree.Reached n → s.fScore n = s.tree.cost n + s₀.hScore n
  cell : ∀ n, s.tree.Reached n → s₀.Cell n
  sound : SearchTree.Sound s₀.Adj s₀.startNode s.tree

/-- A search at the head of the loop. -/
structure AtHead (s₀ s : Scene) : Prop extends Searching s₀ s where
  covers : SearchTree.Covers s₀.Adj none s.tree
  seeking : ¬ s.tree.closed s₀.endNode

section Writes

variable (s : Scene) (n : NodePtr) (change : Node → Node)

/-- A field of all the nodes after one node is written. -/
theorem modifyNode_field {β : Type} (field : Node → β) :
    (fun m => field ((s.modifyNode n change).nodes m)) =
      Function.update (fun m => field (s.nodes m)) n (field (change (s.nodes n))) := by
  funext m
  by_cases hm : m = n
  · subst hm
    simp [modifyNode]
  · simp [modifyNode, hm]

theorem modifyNode_field_same {β : Type} (field : Node → β)
    (keeps : ∀ node, field (change node) = field node) (m : NodePtr) :
    field ((s.modifyNode n change).nodes m) = field (s.nodes m) := by
  have hfield := congrFun (modifyNode_field s n change field) m
  rw [keeps, Function.update_eq_self] at hfield
  exact hfield

theorem terrain_modifyNode (pos : ∀ node, (change node).pos = node.pos)
    (walkable : ∀ node, (change node).walkable = node.walkable) :
    (s.modifyNode n change).terrain = s.terrain := by
  rw [terrain_eq_iff]
  exact ⟨rfl, rfl, modifyNode_field_same s n change Node.pos pos,
    modifyNode_field_same s n change Node.walkable walkable, rfl, rfl⟩

theorem heap_modifyNode (keeps : ∀ node, (change node).openListPos = node.openListPos) :
    (s.modifyNode n change).heap = s.heap := by
  simp only [heap]
  congr 1
  funext m
  exact modifyNode_field_same s n change Node.openListPos keeps m

@[simp] theorem terrain_withHeap (h : IndexedHeap NodePtr) :
    (s.withHeap h).terrain = s.terrain := rfl

end Writes

section SetCost

variable (s : Scene) (n : NodePtr) (g : Int)

theorem setCost_terrain : (s.setCost n g).terrain = s.terrain :=
  terrain_modifyNode s n _ (fun _ => rfl) (fun _ => rfl)

theorem setCost_heap : (s.setCost n g).heap = s.heap :=
  heap_modifyNode s n _ (fun _ => rfl)

theorem setCost_fScore :
    (s.setCost n g).fScore = Function.update s.fScore n (g + s.hScore n) :=
  modifyNode_field s n _ Node.f

theorem setCost_tree :
    (s.setCost n g).tree = { s.tree with cost := Function.update s.tree.cost n g } := by
  simp only [tree, setCost, modifyNode]
  congr 1 <;> funext m <;> by_cases hm : m = n <;> simp [hm]

end SetCost

theorem tree_withHeap (s : Scene) (h : IndexedHeap NodePtr) :
    (s.withHeap h).tree = { s.tree with opened := fun n => h.pos n ≠ 0 } := rfl

section InsertCloseList

variable (s : Scene) (n : NodePtr)

theorem insertCloseList_terrain : (s.insertCloseList n).terrain = s.terrain :=
  terrain_modifyNode s n _ (fun _ => rfl) (fun _ => rfl)

theorem insertCloseList_heap : (s.insertCloseList n).heap = s.heap :=
  heap_modifyNode s n _ (fun _ => rfl)

theorem insertCloseList_fScore : (s.insertCloseList n).fScore = s.fScore := by
  funext m
  exact modifyNode_field_same s n (fun node => { node with closeListPos := 1 }) Node.f
    (fun _ => rfl) m

theorem insertCloseList_tree : (s.insertCloseList n).tree =
    { s.tree with closed := fun m => m = n ∨ s.tree.closed m } := by
  simp only [tree, insertCloseList, modifyNode]
  congr 1 <;> funext m <;> by_cases hm : m = n <;> simp [hm]

end InsertCloseList

/-- What relaxing an edge writes before the open list is put in order. -/
def reprice (s : Scene) (u v : NodePtr) (g : Int) : Scene :=
  (s.modifyNode v fun node => { node with parent := some u }).setCost v g

section Reprice

variable (s : Scene) (u v : NodePtr) (g : Int)

theorem reprice_terrain : (s.reprice u v g).terrain = s.terrain :=
  (setCost_terrain _ v g).trans (terrain_modifyNode s v _ (fun _ => rfl) (fun _ => rfl))

theorem reprice_heap : (s.reprice u v g).heap = s.heap :=
  (setCost_heap _ v g).trans (heap_modifyNode s v _ (fun _ => rfl))

theorem reprice_fScore :
    (s.reprice u v g).fScore = Function.update s.fScore v (g + s.hScore v) := by
  have hterrain := terrain_modifyNode s v (fun node => { node with parent := some u })
    (fun _ => rfl) (fun _ => rfl)
  rw [reprice, setCost_fScore, hScore_congr hterrain]
  congr 1
  funext m
  exact modifyNode_field_same s v (fun node => { node with parent := some u }) Node.f
    (fun _ => rfl) m

theorem reprice_tree : (s.reprice u v g).tree =
    { s.tree with
      cost := Function.update s.tree.cost v g
      parent := Function.update s.tree.parent v (some u) } := by
  rw [reprice, setCost_tree]
  simp only [tree, modifyNode]
  congr 1 <;> funext m <;> by_cases hm : m = v <;> simp [hm]

end Reprice

/-! ## One neighbour -/

theorem gCost_pos (s : Scene) (u v : NodePtr) : 0 < s.gCost u v := by
  rw [gCost, Node.neighbroGCost]
  split <;> omega

namespace Searching

variable {s₀ s : Scene}

theorem opened_iff (hs : Searching s₀ s) (n : NodePtr) :
    s.tree.opened n ↔ s.heap.Holds n :=
  hs.heap.listed n

/-- A relaxed edge, once the open list is back in order with the neighbour in it. -/
theorem relaxed (hs : Searching s₀ s) {u v : NodePtr} (hu : s.tree.Reached u)
    (hadj : s₀.Adj u v) {g : Int} (dearer : s.tree.cost u < g)
    (better : ¬ s.tree.Reached v ∨ g < s.tree.cost v) {h : IndexedHeap NodePtr}
    (valid : IndexedHeap.Valid (s.reprice u v g).fScore h)
    (holds : ∀ n, h.Holds n ↔ n = v ∨ s.heap.Holds n) :
    ((s.reprice u v g).withHeap h).tree = s.tree.relax u v g ∧
      Searching s₀ ((s.reprice u v g).withHeap h) := by
  have htree : ((s.reprice u v g).withHeap h).tree = s.tree.relax u v g := by
    rw [tree_withHeap, reprice_tree]
    simp only [SearchTree.relax]
    congr 1
    funext n
    rw [valid.listed n, holds n, hs.opened_iff n]
  refine ⟨htree, ?_⟩
  constructor
  · exact (terrain_withHeap _ h).trans ((reprice_terrain s u v g).trans hs.terrain)
  · exact valid
  · intro n hn
    rw [htree, SearchTree.relax_reached] at hn
    rw [htree, fScore_withHeap, reprice_fScore, SearchTree.relax]
    by_cases hnv : n = v
    · subst hnv
      simp [hScore_congr hs.terrain]
    · simpa [hnv] using hs.priced n (hn.resolve_left hnv)
  · intro n hn
    rw [htree, SearchTree.relax_reached] at hn
    rcases hn with rfl | hn
    · exact hadj.1
    · exact hs.cell n hn
  · rw [htree]
    exact hs.sound.relax hu hadj dearer better

/-- What `InsertOpenList` finds when it is called for a neighbour. -/
theorem insert_ready (hs : Searching s₀ s) (u : NodePtr) {v : NodePtr} (g : Int)
    (fresh : ¬ s.tree.opened v) :
    IndexedHeap.Valid (s.reprice u v g).fScore s.heap ∧ s.heap.pos v = 0 := by
  refine ⟨?_, not_not.mp fresh⟩
  apply hs.heap.congr_key
  intro n hn
  have hne : n ≠ v := by
    rintro rfl
    exact fresh ((hs.opened_iff n).mpr hn)
  rw [reprice_fScore, Function.update_of_ne hne]

/-- What `ResortOpenList` finds when it is called for a neighbour. -/
theorem resort_ready (hs : Searching s₀ s) (u : NodePtr) {v : NodePtr} {g : Int}
    (lower : g < s.tree.cost v) (opened : s.tree.opened v) :
    s.heap.Holds v ∧ (∀ n, n ≠ v → (s.reprice u v g).fScore n = s.fScore n) ∧
      (s.reprice u v g).fScore v ≤ s.fScore v := by
  refine ⟨(hs.opened_iff v).mp opened, ?_, ?_⟩
  · intro n hn
    rw [reprice_fScore, Function.update_of_ne hn]
  · rw [reprice_fScore, Function.update_self, hs.priced v (Or.inl opened),
      hScore_congr hs.terrain]
    omega

theorem insert (hs : Searching s₀ s) {u v : NodePtr} (hu : s.tree.Reached u)
    (hadj : s₀.Adj u v) {g : Int} (dearer : s.tree.cost u < g)
    (better : ¬ s.tree.Reached v ∨ g < s.tree.cost v) (fresh : ¬ s.tree.opened v) :
    ((s.reprice u v g).insertOpenList v).tree = s.tree.relax u v g ∧
      Searching s₀ ((s.reprice u v g).insertOpenList v) := by
  obtain ⟨hvalid, hfree⟩ := hs.insert_ready u g fresh
  rw [insertOpenList_eq, reprice_heap]
  apply hs.relaxed hu hadj dearer better
  · exact hvalid.insert hfree
  · intro n
    exact hvalid.insert_holds v n

theorem resort (hs : Searching s₀ s) {u v : NodePtr} (hu : s.tree.Reached u)
    (hadj : s₀.Adj u v) {g : Int} (dearer : s.tree.cost u < g)
    (lower : g < s.tree.cost v) (opened : s.tree.opened v) :
    ((s.reprice u v g).resortOpenList v).tree = s.tree.relax u v g ∧
      Searching s₀ ((s.reprice u v g).resortOpenList v) := by
  obtain ⟨hheld, hsame, hlow⟩ := hs.resort_ready u lower opened
  obtain ⟨hvalid, hholds⟩ := hs.heap.resort hheld hsame hlow
  rw [resortOpenList_eq, reprice_heap]
  apply hs.relaxed hu hadj dearer (Or.inr lower)
  · exact hvalid
  · intro n
    rw [hholds n]
    constructor
    · exact Or.inr
    · rintro (rfl | hn)
      · exact hheld
      · exact hn

theorem considerNeighbor (hs : Searching s₀ s) {u v : NodePtr} (hu : s.tree.Reached u)
    (hadj : s₀.Adj u v) :
    SearchTree.Relaxes s₀.gCost u s.tree v (s.considerNeighbor u v).tree ∧
      Searching s₀ (s.considerNeighbor u v) := by
  have hcal : (s.nodes u).g + (s.nodes u).neighbroGCost (s.nodes v) =
      s.tree.cost u + s₀.gCost u v := by
    rw [← gCost_congr hs.terrain]
    rfl
  have hdear : s.tree.cost u < s.tree.cost u + s₀.gCost u v := by
    have := s₀.gCost_pos u v
    omega
  have hcost : (s.nodes v).g = s.tree.cost v := rfl
  have hopen : s.isInOpenList v = true ↔ s.tree.opened v := by simp [isInOpenList, tree]
  have hclosed : s.isInCloseList v = true ↔ s.tree.closed v := by simp [isInCloseList, tree]
  rw [Scene.considerNeighbor]
  simp only [hcal, hcost]
  split
  · rename_i hkeep
    exact ⟨.keep (Or.inr (hclosed.mp hkeep.1)) hkeep.2, hs⟩
  rename_i hkeep
  split
  · rename_i hrelax
    by_cases ho : s.tree.opened v
    · have hin : s.isInOpenList v = true := hopen.mpr ho
      have hlow := hrelax.resolve_left (by simp [hin])
      obtain ⟨htree, hnext⟩ := hs.resort hu hadj hdear hlow ho
      simp only [hin, Bool.true_eq_false, if_false]
      refine ⟨?_, hnext⟩
      have hstep : SearchTree.Relaxes s₀.gCost u s.tree v _ := .relax (Or.inr hlow)
      rw [← htree] at hstep
      exact hstep
    · have hout : s.isInOpenList v = false := by
        rw [← Bool.not_eq_true, hopen]
        exact ho
      have hbest : ¬ s.tree.Reached v ∨ s.tree.cost u + s₀.gCost u v < s.tree.cost v := by
        by_cases hc : s.tree.closed v
        · rw [not_and, not_le] at hkeep
          exact Or.inr (hkeep (hclosed.mpr hc))
        · exact Or.inl (fun hr => hr.elim ho hc)
      obtain ⟨htree, hnext⟩ := hs.insert hu hadj hdear hbest ho
      simp only [hout, if_true]
      refine ⟨?_, hnext⟩
      have hstep : SearchTree.Relaxes s₀.gCost u s.tree v _ := .relax hbest
      rw [← htree] at hstep
      exact hstep
  · rename_i hrelax
    rw [not_or, Bool.not_eq_false, not_lt] at hrelax
    exact ⟨.keep (Or.inl (hopen.mp hrelax.1)) hrelax.2, hs⟩

end Searching

/-! ## One round -/

namespace Searching

variable {s₀ s : Scene}

theorem min_opened (hs : Searching s₀ s) (nonempty : 1 < s.openListSize) :
    s.tree.opened (s.openList 1) :=
  (hs.opened_iff _).mpr (IndexedHeap.Placed.holds_slot Nat.one_pos nonempty)

/-- The state after `DeleteMinFScoreNodeInOpenList` and `InsertCloseList`. -/
theorem close (hs : Searching s₀ s) (nonempty : 1 < s.openListSize) :
    (s.deleteMinFScoreNodeInOpenList.insertCloseList (s.openList 1)).tree =
        s.tree.close (s.openList 1) ∧
      Searching s₀ (s.deleteMinFScoreNodeInOpenList.insertCloseList (s.openList 1)) := by
  have hvalid := hs.heap.deleteMin nonempty
  have hopen : ∀ n, (s.heap.deleteMin s.fScore).pos n ≠ 0 ↔
      s.tree.opened n ∧ n ≠ s.openList 1 := by
    intro n
    rw [hvalid.listed n, hs.heap.deleteMin_holds nonempty, hs.opened_iff n]
    rfl
  have htree : ((s.withHeap (s.heap.deleteMin s.fScore)).insertCloseList
      (s.openList 1)).tree = s.tree.close (s.openList 1) := by
    rw [insertCloseList_tree, tree_withHeap]
    simp only [SearchTree.close]
    congr 1
    funext n
    exact propext (hopen n)
  rw [deleteMinFScoreNodeInOpenList_eq s nonempty]
  refine ⟨htree, ?_⟩
  have hreached := SearchTree.close_reached (hs.min_opened nonempty)
  constructor
  · exact (insertCloseList_terrain _ _).trans hs.terrain
  · rw [insertCloseList_fScore, insertCloseList_heap]
    exact hvalid
  · intro n hn
    rw [htree] at hn
    rw [insertCloseList_fScore, htree]
    exact hs.priced n ((hreached n).mp hn)
  · intro n hn
    rw [htree] at hn
    exact hs.cell n ((hreached n).mp hn)
  · rw [htree]
    exact hs.sound.close (hs.min_opened nonempty)

theorem considerAll (hs : Searching s₀ s) {u : NodePtr} (hu : s.tree.Reached u)
    (vs : List NodePtr) (hadj : ∀ v ∈ vs, s₀.Adj u v) :
    SearchTree.RelaxesAll s₀.gCost u s.tree vs
        (vs.foldl (fun s v => s.considerNeighbor u v) s).tree ∧
      Searching s₀ (vs.foldl (fun s v => s.considerNeighbor u v) s) := by
  induction vs generalizing s with
  | nil => exact ⟨.nil, hs⟩
  | cons v rest ih =>
    obtain ⟨hstep, hnext⟩ := hs.considerNeighbor hu (hadj v List.mem_cons_self)
    obtain ⟨hsteps, hlast⟩ := ih hnext ((hstep.considers (s₀.gCost_pos u v)).mono hu)
      (fun w hw => hadj w (List.mem_cons_of_mem v hw))
    exact ⟨.cons hstep hsteps, hlast⟩

/-- A round closes the root of the open list and considers its neighbours. -/
theorem expand (laid : s₀.Laid) (hs : Searching s₀ s) (nonempty : 1 < s.openListSize) :
    SearchTree.RelaxesAll s₀.gCost (s.openList 1) (s.tree.close (s.openList 1))
        (s₀.getNeighborNodes (s.openList 1)) (s.expand (s.openList 1)).tree ∧
      Searching s₀ (s.expand (s.openList 1)) := by
  obtain ⟨htree, hnext⟩ := hs.close nonempty
  have hcell := hs.cell _ (Or.inl (hs.min_opened nonempty))
  rw [Scene.expand]
  rw [getNeighborNodes_congr hnext.terrain, ← htree]
  apply hnext.considerAll
  · rw [htree]
    exact Or.inr (Or.inl rfl)
  · intro v hv
    exact (mem_getNeighborNodes laid hcell v).mp hv

end Searching

namespace AtHead

variable {s₀ s : Scene}

theorem expand (laid : s₀.Laid) (hs : AtHead s₀ s) (nonempty : 1 < s.openListSize)
    (other : s.openList 1 ≠ s₀.endNode) : AtHead s₀ (s.expand (s.openList 1)) := by
  obtain ⟨hrelaxes, hnext⟩ := hs.toSearching.expand laid nonempty
  have hsteps := hrelaxes.considersAll (s₀.gCost_pos _)
  have hopen := hs.min_opened nonempty
  constructor
  · exact hnext
  · apply hsteps.covers (hs.covers.close hopen)
    intro v hv
    exact (mem_getNeighborNodes laid (hs.cell _ (Or.inl hopen)) v).mpr hv
  · rw [hsteps.closed]
    rintro (heq | hclosed)
    · exact other heq.symm
    · exact hs.seeking hclosed

theorem rank_expand (laid : s₀.Laid) (hs : AtHead s₀ s) (nonempty : 1 < s.openListSize) :
    (s.expand (s.openList 1)).tree.rank s₀.cells < s.tree.rank s₀.cells := by
  obtain ⟨hrelaxes, _⟩ := hs.toSearching.expand laid nonempty
  have hsteps := hrelaxes.considersAll (s₀.gCost_pos _)
  have hopen := hs.min_opened nonempty
  have hcell := hs.cell _ (Or.inl hopen)
  have hadj : ∀ v ∈ s₀.getNeighborNodes (s.openList 1), s₀.Adj (s.openList 1) v := by
    intro v hv
    exact (mem_getNeighborNodes laid hcell v).mp hv
  calc SearchTree.rank s₀.cells (s.expand (s.openList 1)).tree
      ≤ SearchTree.rank s₀.cells (s.tree.close (s.openList 1)) :=
        hsteps.rank_le (hs.sound.close hopen) (Or.inr (Or.inl rfl)) hadj
          (fun v hv => mem_cells (hadj v hv).1)
    _ < SearchTree.rank s₀.cells s.tree := SearchTree.rank_close hopen (mem_cells hcell)

end AtHead

end Scene

end Mysya
