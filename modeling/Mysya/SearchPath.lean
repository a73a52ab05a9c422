import Mysya.SceneSearch

/-!
# Paths found by the search

`Scene::SearchPath` returns on every grid. What it leaves in an empty output
is a path of walkable cells from beside the begin to the end, and it leaves
one whenever the end can be reached.
-/

namespace Mysya

namespace Scene

/-! ## Walking back along parents -/

theorem walkParents_eq (s : Scene) (fuel : Nat) (node : Option NodePtr)
    (result : List Position) : s.walkParents fuel node result =
      (SearchTree.trace s.tree.parent s.startNode fuel node).map fun l =>
        result ++ l.map fun n => (s.nodes n).pos := by
  induction fuel generalizing node result with
  | zero => rfl
  | succ fuel ih =>
    cases node with
    | none => simp [walkParents, SearchTree.trace]
    | some n =>
      by_cases hstart : n = s.startNode
      · simp [walkParents, SearchTree.trace, hstart]
      · have hparent : s.tree.parent n = (s.nodes n).parent := rfl
        simp only [walkParents, SearchTree.trace, hstart, if_false, ih, hparent,
          Option.map_map]
        congr 1
        funext l
        simp

theorem constructResultPath_eq (s : Scene) (fuel : Nat) (result : List Position) :
    s.constructResultPath fuel result =
      (SearchTree.trace s.tree.parent s.startNode fuel (some s.endNode)).map fun l =>
        (result ++ l.map fun n => (s.nodes n).pos).reverse := by
  rw [constructResultPath, walkParents_eq, Option.map_map]
  rfl

theorem walkParents_mono {s : Scene} {fuel more : Nat} {node : Option NodePtr}
    {result path : List Position} (h : s.walkParents fuel node result = some path)
    (hle : fuel ≤ more) : s.walkParents more node result = some path := by
  induction fuel generalizing more node result with
  | zero => simp [walkParents] at h
  | succ fuel ih =>
    obtain ⟨more, rfl⟩ : ∃ m, more = m + 1 := ⟨more - 1, by omega⟩
    cases node with
    | none => simpa [walkParents] using h
    | some n =>
      rw [walkParents] at h ⊢
      split
      · rename_i hstart
        simpa [hstart] using h
      · rename_i hstart
        rw [if_neg hstart] at h
        exact ih h (by omega)

theorem constructResultPath_mono {s : Scene} {fuel more : Nat} {result path : List Position}
    (h : s.constructResultPath fuel result = some path) (hle : fuel ≤ more) :
    s.constructResultPath more result = some path := by
  rw [constructResultPath, Option.map_eq_some_iff] at h ⊢
  obtain ⟨l, hl, rfl⟩ := h
  exact ⟨l, walkParents_mono hl hle, rfl⟩

theorem searchLoop_mono {fuel more : Nat} {s : Scene} {paths : List Position}
    {r : Scene × List Position} (h : searchLoop fuel s paths = some r) (hle : fuel ≤ more) :
    searchLoop more s paths = some r := by
  induction fuel generalizing more s with
  | zero => simp [searchLoop] at h
  | succ fuel ih =>
    obtain ⟨more, rfl⟩ : ∃ m, more = m + 1 := ⟨more - 1, by omega⟩
    cases hmin : s.getMinFScoreNodeInOpenList with
    | none => simpa [searchLoop, hmin] using h
    | some cur =>
      simp only [searchLoop, hmin] at h ⊢
      split
      · rename_i hend
        rw [if_pos hend, Option.map_eq_some_iff] at h
        obtain ⟨path, hpath, rfl⟩ := h
        rw [constructResultPath_mono hpath (by omega)]
        rfl
      · rename_i hend
        rw [if_neg hend] at h
        exact ih h (by omega)

/-! ## The loop -/

theorem getMin_cases (s : Scene) :
    s.openListSize ≤ 1 ∧ s.getMinFScoreNodeInOpenList = none ∨
      1 < s.openListSize ∧ s.getMinFScoreNodeInOpenList = some (s.openList 1) := by
  by_cases hempty : s.openListSize ≤ 1
  · exact Or.inl ⟨hempty, by simp [getMinFScoreNodeInOpenList, isOpenListEmpty, hempty]⟩
  · exact Or.inr ⟨by omega, by simp [getMinFScoreNodeInOpenList, isOpenListEmpty, hempty]⟩

/-- What every round keeps holds where the loop ends: with nothing left open, or by
the walk back from an end at the root. -/
theorem searchLoop_rule {P : Scene → Prop}
    (step : ∀ s, P s → 1 < s.openListSize → s.openList 1 ≠ s.endNode →
      P (s.expand (s.openList 1)))
    {s s' : Scene} (hs : P s) {fuel : Nat} {paths path : List Position}
    (h : searchLoop fuel s paths = some (s', path)) :
    P s' ∧ (s'.openListSize ≤ 1 ∧ path = paths ∨ ∃ more, 1 < s'.openListSize ∧
      s'.openList 1 = s'.endNode ∧ s'.constructResultPath more paths = some path) := by
  induction fuel generalizing s with
  | zero => simp [searchLoop] at h
  | succ fuel ih =>
    rcases s.getMin_cases with ⟨hempty, hmin⟩ | ⟨hsize, hmin⟩
    · simp only [searchLoop, hmin, Option.some.injEq, Prod.mk.injEq] at h
      obtain ⟨rfl, rfl⟩ := h
      exact ⟨hs, Or.inl ⟨hempty, rfl⟩⟩
    simp only [searchLoop, hmin] at h
    split at h
    · rename_i hend
      obtain ⟨p, hp, heq⟩ := Option.map_eq_some_iff.mp h
      obtain ⟨rfl, rfl⟩ := Prod.mk.inj heq
      exact ⟨hs, Or.inr ⟨fuel, hsize, hend, hp⟩⟩
    · rename_i hend
      exact ih (step s hs hsize hend) h

theorem Searching.startNode_eq {s₀ s : Scene} (hs : Searching s₀ s) :
    s.startNode = s₀.startNode :=
  (terrain_eq_iff.mp hs.terrain).2.2.2.2.1

theorem Searching.endNode_eq {s₀ s : Scene} (hs : Searching s₀ s) :
    s.endNode = s₀.endNode :=
  (terrain_eq_iff.mp hs.terrain).2.2.2.2.2

theorem Searching.constructResultPath_some {s₀ s : Scene} (hs : Searching s₀ s)
    (hend : s.tree.Reached s.endNode) (result : List Position) :
    ∃ fuel path, s.constructResultPath fuel result = some path := by
  obtain ⟨l, hl⟩ := hs.sound.trace_some ((s.tree.cost s.endNode).toNat + 1) s.endNode hend
    (by omega)
  refine ⟨(s.tree.cost s.endNode).toNat + 1, (result ++ l.map fun n => (s.nodes n).pos).reverse, ?_⟩
  rw [constructResultPath_eq, hs.startNode_eq, hl]
  rfl

namespace AtHead

variable {s₀ s : Scene}

theorem searchLoop_returns (laid : s₀.Laid) (hs : AtHead s₀ s) (paths : List Position) :
    ∃ fuel r, searchLoop fuel s paths = some r := by
  generalize hrank : s.tree.rank s₀.cells = r
  induction r using WellFoundedLT.induction generalizing s with
  | ind r ih =>
    rcases s.getMin_cases with ⟨_, hmin⟩ | ⟨hsize, hmin⟩
    · exact ⟨1, (s, paths), by simp [searchLoop, hmin]⟩
    by_cases hend : s.openList 1 = s.endNode
    · have hreached : s.tree.Reached s.endNode := by
        rw [← hend]
        exact Or.inl (hs.min_opened hsize)
      obtain ⟨fuel, path, hpath⟩ := hs.constructResultPath_some hreached paths
      exact ⟨fuel + 1, (s, path), by simp [searchLoop, hmin, hend, hpath]⟩
    · have hother : s.openList 1 ≠ s₀.endNode := by rwa [← hs.endNode_eq]
      obtain ⟨fuel, r, hr⟩ := ih _ (hrank ▸ hs.rank_expand laid hsize)
        (hs.expand laid hsize hother) rfl
      exact ⟨fuel + 1, r, by simp [searchLoop, hmin, hend, hr]⟩

theorem searchLoop_result (laid : s₀.Laid) (hs : AtHead s₀ s) {fuel : Nat} {s' : Scene}
    {paths path : List Position} (h : searchLoop fuel s paths = some (s', path)) :
    AtHead s₀ s' ∧ (s'.openListSize ≤ 1 ∧ path = paths ∨
      ∃ more, s'.tree.Reached s₀.endNode ∧ s'.constructResultPath more paths = some path) := by
  obtain ⟨hs', hresult⟩ := searchLoop_rule
    (fun s hs hsize hend => hs.expand laid hsize (by rwa [← hs.endNode_eq])) hs h
  refine ⟨hs', hresult.imp id ?_⟩
  rintro ⟨more, hsize, hend, hpath⟩
  refine ⟨more, ?_, hpath⟩
  rw [← hs'.endNode_eq, ← hend]
  exact Or.inl (hs'.min_opened hsize)

/-- Nothing left open means the end cannot be reached. -/
theorem unreachable (hs : AtHead s₀ s) (hempty : s.openListSize ≤ 1) :
    ¬ Relation.ReflTransGen s₀.Adj s₀.startNode s₀.endNode := by
  intro hreach
  apply hs.seeking
  apply hs.covers.closed_of_reachable hs.sound.root _ hreach
  intro n hn
  obtain ⟨i, hi, hi', _⟩ := (hs.opened_iff n).mp hn
  have hsize : s.heap.size = s.openListSize := rfl
  omega

end AtHead

/-! ## The search as called -/

section Begin

variable (s : Scene) (beginPos endPos : Position)

/-- The scene as reset, before the start is opened. -/
def cleared : Scene :=
  { s.resetNodes with
    startNode := s.getNode beginPos
    endNode := s.getNode endPos
    openListSize := 1 }

theorem beginSearch_eq : s.beginSearch beginPos endPos =
    ((s.cleared beginPos endPos).setCost (s.getNode beginPos) 0).insertOpenList
      (s.getNode beginPos) := rfl

theorem cleared_heap_empty (n : NodePtr) : ¬ (s.cleared beginPos endPos).heap.Holds n := by
  rintro ⟨i, hi, hi', _⟩
  have hsize : (s.cleared beginPos endPos).heap.size = 1 := rfl
  omega

theorem cleared_heap (key : NodePtr → Int) :
    IndexedHeap.Valid key (s.cleared beginPos endPos).heap := by
  have hsize : (s.cleared beginPos endPos).heap.size = 1 := rfl
  constructor
  · constructor
    · omega
    · rintro i ⟨hi, hi'⟩
      omega
    · intro n
      have hpos : (s.cleared beginPos endPos).heap.pos n = 0 := rfl
      simp [hpos, cleared_heap_empty]
    · intro i hi hi'
      omega
  · intro i hi hi'
    omega
  · intro i h0
    omega
  · intro hone
    omega

theorem beginSearch_terrain : (s.beginSearch beginPos endPos).terrain =
    { s.terrain with
      startNode := s.getNode beginPos
      endNode := s.getNode endPos } := by
  rw [beginSearch_eq, insertOpenList_eq, terrain_withHeap, setCost_terrain]
  rfl

theorem beginSearch_inMap (pos : Position) :
    (s.beginSearch beginPos endPos).inMap pos = s.inMap pos := by
  have hc : (s.cleared beginPos endPos).inMap pos = s.inMap pos := rfl
  rw [← hc]
  apply inMap_congr
  rw [beginSearch_terrain]
  rfl

theorem beginSearch_getNode (pos : Position) :
    (s.beginSearch beginPos endPos).getNode pos = s.getNode pos := by
  have hc : (s.cleared beginPos endPos).getNode pos = s.getNode pos := rfl
  rw [← hc]
  apply getNode_congr
  rw [beginSearch_terrain]
  rfl

theorem beginSearch_nodes (n : NodePtr) :
    ((s.beginSearch beginPos endPos).nodes n).pos = (s.nodes n).pos ∧
      ((s.beginSearch beginPos endPos).nodes n).walkable = (s.nodes n).walkable := by
  have hterrain := s.beginSearch_terrain beginPos endPos
  exact ⟨congrFun (congrArg Terrain.pos hterrain) n,
    congrFun (congrArg Terrain.walkable hterrain) n⟩

theorem beginSearch_ends :
    (s.beginSearch beginPos endPos).startNode = s.getNode beginPos ∧
      (s.beginSearch beginPos endPos).endNode = s.getNode endPos := by
  have hterrain := s.beginSearch_terrain beginPos endPos
  exact ⟨congrArg Terrain.startNode hterrain, congrArg Terrain.endNode hterrain⟩

variable {s beginPos endPos}

theorem beginSearch_laid (laid : s.Laid) (beginPos endPos : Position) :
    (s.beginSearch beginPos endPos).Laid := by
  intro pos hpos
  rw [beginSearch_inMap] at hpos
  rw [beginSearch_getNode, (s.beginSearch_nodes _ _ _).1]
  exact laid pos hpos

theorem beginSearch_tree : (s.beginSearch beginPos endPos).tree =
    SearchTree.init (s.getNode beginPos) (fun _ => 0) (fun _ => none) := by
  have hvalid := s.cleared_heap beginPos endPos
    ((s.cleared beginPos endPos).setCost (s.getNode beginPos) 0).fScore
  rw [beginSearch_eq, insertOpenList_eq, setCost_heap, tree_withHeap, setCost_tree]
  simp only [SearchTree.init]
  congr 1
  · exact Function.update_eq_self _ _
  · funext n
    rw [(hvalid.insert (a := s.getNode beginPos) rfl).listed n, hvalid.insert_holds]
    simp [cleared_heap_empty]
  · funext n
    simp [tree, cleared, resetNodes]

theorem beginSearch_atHead (hb : s.inMap beginPos = true) :
    AtHead (s.beginSearch beginPos endPos) (s.beginSearch beginPos endPos) := by
  have hvalid := s.cleared_heap beginPos endPos
    ((s.cleared beginPos endPos).setCost (s.getNode beginPos) 0).fScore
  have hstart := (s.beginSearch_ends beginPos endPos).1
  have honly : ∀ n, (s.beginSearch beginPos endPos).tree.Reached n → n = s.getNode beginPos := by
    rw [beginSearch_tree]
    rintro n (hn | hn)
    · exact hn
    · exact hn.elim
  constructor
  · constructor
    · rfl
    · rw [beginSearch_eq, insertOpenList_eq, setCost_heap, fScore_withHeap, heap_withHeap]
      exact hvalid.insert rfl
    · intro n hn
      obtain rfl := honly n hn
      have hcost : (s.beginSearch beginPos endPos).tree.cost (s.getNode beginPos) = 0 := by
        simp [beginSearch_tree, SearchTree.init]
      have hscore : (s.beginSearch beginPos endPos).hScore (s.getNode beginPos) =
          (s.cleared beginPos endPos).hScore (s.getNode beginPos) :=
        hScore_congr (by rw [beginSearch_terrain]; rfl) _
      rw [hcost, hscore, beginSearch_eq, insertOpenList_eq, fScore_withHeap, setCost_fScore,
        Function.update_self]
    · intro n hn
      rw [honly n hn]
      exact ⟨beginPos, by rw [beginSearch_inMap]; exact hb, beginSearch_getNode _ _ _ _⟩
    · rw [hstart, beginSearch_tree]
      exact SearchTree.Sound.init _ (by simp)
  · rw [beginSearch_tree]
    intro v hv
    exact hv.elim
  · rw [beginSearch_tree]
    exact fun hclosed => hclosed

end Begin

/-! ## What the search returns -/

/-- A path from `beginPos`, which it leaves out, over walkable cells. -/
structure ValidPath (s : Scene) (beginPos endPos : Position) (path : List Position) :
    Prop where
  steps : (beginPos :: path).IsChain EightNeighbour
  walkable : ∀ pos ∈ path,
    s.inMap pos = true ∧ (s.nodes (s.getNode pos)).walkable = true
  nodup : (beginPos :: path).Nodup
  ends : path.getLast? = some endPos

/-- One step of a walk over the grid. -/
def StepTo (s : Scene) (a b : Position) : Prop :=
  EightNeighbour a b ∧ s.inMap b = true ∧ (s.nodes (s.getNode b)).walkable = true

instance (s : Scene) (a b : Position) : Decidable (s.StepTo a b) :=
  inferInstanceAs (Decidable (EightNeighbour a b ∧ _))

theorem searchPath_eq {s : Scene} {beginPos endPos : Position}
    (hb : s.inMap beginPos = true) (he : s.inMap endPos = true) (fuel : Nat)
    (paths : List Position) : s.searchPath fuel beginPos endPos paths =
      searchLoop fuel (s.beginSearch beginPos endPos) paths := by
  simp [searchPath, hb, he]

theorem searchPath_returns {s : Scene} (laid : s.Laid) {beginPos endPos : Position}
    (hb : s.inMap beginPos = true) (he : s.inMap endPos = true) (paths : List Position) :
    ∃ enough r, ∀ fuel, enough ≤ fuel → s.searchPath fuel beginPos endPos paths = some r := by
  obtain ⟨enough, r, hr⟩ := (beginSearch_atHead hb).searchLoop_returns
    (beginSearch_laid laid beginPos endPos) paths
  refine ⟨enough, r, ?_⟩
  intro fuel hle
  rw [searchPath_eq hb he]
  exact searchLoop_mono hr hle

/-- A position off the grid is refused at once. -/
theorem searchPath_total {s : Scene} (laid : s.Laid) (beginPos endPos : Position)
    (paths : List Position) :
    ∃ enough r, ∀ fuel, enough ≤ fuel → s.searchPath fuel beginPos endPos paths = some r := by
  by_cases hb : s.inMap beginPos = true
  · by_cases he : s.inMap endPos = true
    · exact searchPath_returns laid hb he paths
    · exact ⟨0, (s, paths), fun fuel _ => by simp [searchPath, hb, he]⟩
  · exact ⟨0, (s, paths), fun fuel _ => by simp [searchPath, hb]⟩

/-- A search writes the costs and the lists only. -/
theorem searchPath_keeps {s s' : Scene} (laid : s.Laid) {beginPos endPos : Position} {fuel : Nat}
    {paths path : List Position}
    (h : s.searchPath fuel beginPos endPos paths = some (s', path)) :
    s'.height = s.height ∧ s'.width = s.width ∧ (∀ n, (s'.nodes n).pos = (s.nodes n).pos) ∧
      ∀ n, (s'.nodes n).walkable = (s.nodes n).walkable := by
  by_cases hin : s.inMap beginPos = true ∧ s.inMap endPos = true
  · rw [searchPath_eq hin.1 hin.2] at h
    have hlaid := beginSearch_laid laid beginPos endPos
    have hs := ((beginSearch_atHead hin.1).searchLoop_result hlaid h).1
    have hsame := hs.terrain.trans (beginSearch_terrain s beginPos endPos)
    exact ⟨congrArg Terrain.height hsame, congrArg Terrain.width hsame,
      congrFun (congrArg Terrain.pos hsame), congrFun (congrArg Terrain.walkable hsame)⟩
  · obtain rfl : s = s' := by
      rw [not_and_or, Bool.not_eq_true, Bool.not_eq_true] at hin
      simp only [searchPath] at h
      split_ifs at h <;> simp_all
    simp

/-- A search whose end is all that is next to its start returns in the second round. -/
theorem searchPath_beside {s : Scene} {beginPos endPos : Position}
    (hb : s.inMap beginPos = true) (he : s.inMap endPos = true)
    (hneighbors : s.getNeighborNodes (s.getNode beginPos) = [s.getNode endPos])
    (hne : s.getNode endPos ≠ s.getNode beginPos) (fuel : Nat) :
    (s.searchPath (fuel + 4) beginPos endPos []).isSome := by
  rw [searchPath_eq hb he]
  have hfirst : (s.beginSearch beginPos endPos).openListSize = 2 ∧
      (s.beginSearch beginPos endPos).openList 1 = s.getNode beginPos ∧
      ((s.beginSearch beginPos endPos).nodes (s.getNode endPos)).openListPos = 0 ∧
      ((s.beginSearch beginPos endPos).nodes (s.getNode endPos)).closeListPos = 0 := by
    have hinsert : ∀ t : Scene, t.openListSize = 1 →
        t.insertOpenList (s.getNode beginPos) = { t.setOpenListPos (s.getNode beginPos) 1 with
          openList := Function.update t.openList 1 (s.getNode beginPos)
          openListSize := 2 } := by
      intro t ht
      simp [insertOpenList, siftUpOpenList, setOpenListPos, modifyNode, ht]
    rw [beginSearch_eq, hinsert _ rfl]
    simp [setOpenListPos, modifyNode, setCost, cleared, resetNodes, Function.update_of_ne hne]
  obtain ⟨hstart, hend⟩ := s.beginSearch_ends beginPos endPos
  have hnear : ∀ t : Scene, t.terrain = (s.beginSearch beginPos endPos).terrain →
      t.getNeighborNodes (s.getNode beginPos) = [s.getNode endPos] := by
    intro t ht
    have hsame : t.terrain = (s.cleared beginPos endPos).terrain :=
      ht.trans (s.beginSearch_terrain beginPos endPos)
    exact (getNeighborNodes_congr hsame _).trans hneighbors
  generalize s.beginSearch beginPos endPos = t at *
  generalize s.getNode beginPos = b at *
  generalize s.getNode endPos = e at *
  obtain ⟨hsize, hroot, hopen, hclose⟩ := hfirst
  have hcells : (t.deleteMinFScoreNodeInOpenList.insertCloseList b).terrain = t.terrain := by
    rw [insertCloseList_terrain, deleteMinFScoreNodeInOpenList_eq t (by omega), terrain_withHeap]
  have hsecond : (t.expand b).openListSize = 2 ∧ (t.expand b).openList 1 = e ∧
      (t.expand b).startNode = b ∧ (t.expand b).endNode = e ∧
      ((t.expand b).nodes e).parent = some b := by
    rw [expand, hnear _ hcells, List.foldl_cons, List.foldl_nil]
    simp [deleteMinFScoreNodeInOpenList, isOpenListEmpty, siftDownOpenList, insertCloseList,
      considerNeighbor, setOpenListPos, modifyNode, isInOpenList, isInCloseList, setCost,
      insertOpenList, siftUpOpenList, Function.update_of_ne hne, hsize, hroot, hopen, hclose,
      hstart, hend]
  obtain ⟨hsize', hroot', hstart', hend', hparent⟩ := hsecond
  have hmin : t.getMinFScoreNodeInOpenList = some b := by
    simp [getMinFScoreNodeInOpenList, isOpenListEmpty, hsize, hroot]
  have hmin' : (t.expand b).getMinFScoreNodeInOpenList = some e := by
    simp [getMinFScoreNodeInOpenList, isOpenListEmpty, hsize', hroot']
  simp [searchLoop, hmin, hend, hne.symm, hmin', hend', constructResultPath, walkParents, hstart',
    hne, hparent]

section Traced

variable {s₀ s : Scene} {fuel : Nat} {l : List NodePtr}

/-- The vertices the walk back visits, the start at the end. -/
theorem Searching.traced (hs : Searching s₀ s) (hend : s.tree.Reached s₀.endNode)
    (hl : SearchTree.trace s.tree.parent s₀.startNode fuel (some s₀.endNode) = some l) :
    (∀ n ∈ l, s₀.Cell n ∧ (s₀.nodes n).walkable = true) ∧
      ((l ++ [s₀.startNode]).map fun n => (s₀.nodes n).pos).IsChain
        (fun a b => EightNeighbour b a) ∧
      (l ++ [s₀.startNode]).Nodup := by
  obtain ⟨_, hchain⟩ := hs.sound.trace_chain hend hl
  refine ⟨?_, ?_, ?_⟩
  · intro n hn
    obtain ⟨m, ⟨hcell, _, hwalk⟩, _⟩ := SearchTree.isChain_next hchain n hn
    exact ⟨hcell, hwalk⟩
  · rw [List.isChain_map]
    exact hchain.imp (fun a b hab => hab.1.2.1)
  · have hcost : (l ++ [s₀.startNode]).IsChain
        (fun a b => s.tree.cost b < s.tree.cost a) :=
      hchain.imp (fun a b hab => hab.2)
    have hmap : ((l ++ [s₀.startNode]).map s.tree.cost).IsChain (· > ·) := by
      rw [List.isChain_map]
      exact hcost
    have hnodup : ((l ++ [s₀.startNode]).map s.tree.cost).Nodup :=
      (List.isChain_iff_pairwise.mp hmap).imp (fun hgt => hgt.ne')
    exact hnodup.of_map

end Traced

theorem Cell.getNode_pos {s : Scene} (laid : s.Laid) {n : NodePtr} (hn : s.Cell n) :
    s.getNode (s.nodes n).pos = n ∧ s.inMap (s.nodes n).pos = true := by
  obtain ⟨pos, hpos, rfl⟩ := hn
  rw [laid pos hpos]
  exact ⟨rfl, hpos⟩

/-- What the walk back from a reached end leaves is a path. -/
theorem Searching.validPath {s₀ s : Scene} (laid : s₀.Laid) (hs : Searching s₀ s)
    (hend : s.tree.Reached s₀.endNode) {fuel : Nat} {path : List Position}
    (h : s.constructResultPath fuel [] = some path) (hne : path ≠ []) :
    ValidPath s₀ (s₀.nodes s₀.startNode).pos (s₀.nodes s₀.endNode).pos path := by
  rw [constructResultPath_eq, hs.startNode_eq, hs.endNode_eq, Option.map_eq_some_iff] at h
  obtain ⟨l, hl, rfl⟩ := h
  have hpos : ∀ n, (s.nodes n).pos = (s₀.nodes n).pos := (terrain_eq_iff.mp hs.terrain).2.2.1
  obtain ⟨hcells, hsteps, hnodup⟩ := hs.traced hend hl
  have hhead := (hs.sound.trace_chain hend hl).1
  have hfull : (s₀.nodes s₀.startNode).pos :: ([] ++ l.map fun n => (s.nodes n).pos).reverse =
      ((l ++ [s₀.startNode]).map fun n => (s₀.nodes n).pos).reverse := by
    simp [hpos]
  have hstart : s₀.Cell s₀.startNode := hs.cell _ hs.sound.root
  have hcell : ∀ n ∈ l ++ [s₀.startNode], s₀.Cell n := by
    intro n hn
    rcases List.mem_append.mp hn with hn | hn
    · exact (hcells n hn).1
    · rw [List.mem_singleton.mp hn]
      exact hstart
  constructor
  · rw [hfull, List.isChain_reverse]
    exact hsteps
  · intro pos hmem
    rw [List.nil_append, List.mem_reverse, List.mem_map] at hmem
    obtain ⟨n, hn, rfl⟩ := hmem
    obtain ⟨hc, hwalk⟩ := hcells n hn
    obtain ⟨hnode, hmap⟩ := hc.getNode_pos laid
    rw [hpos, hnode]
    exact ⟨hmap, hwalk⟩
  · rw [hfull, List.nodup_reverse]
    apply hnodup.map_on
    intro a ha b hb heq
    rw [← ((hcell a ha).getNode_pos laid).1, heq, ((hcell b hb).getNode_pos laid).1]
  · cases l with
    | nil => simp at hne
    | cons n rest =>
      obtain rfl : n = s₀.endNode := by simpa using hhead
      simp [hpos]

theorem searchPath_sound {s : Scene} (laid : s.Laid) {beginPos endPos : Position}
    (hb : s.inMap beginPos = true) (he : s.inMap endPos = true) {fuel : Nat} {s' : Scene}
    {path : List Position} (h : s.searchPath fuel beginPos endPos [] = some (s', path))
    (hne : path ≠ []) : ValidPath s beginPos endPos path := by
  rw [searchPath_eq hb he] at h
  have hlaid := beginSearch_laid laid beginPos endPos
  obtain ⟨hs, hresult⟩ := (beginSearch_atHead hb).searchLoop_result hlaid h
  rcases hresult with ⟨_, hempty⟩ | ⟨more, hend, hpath⟩
  · exact absurd hempty hne
  have hvalid := hs.toSearching.validPath hlaid hend hpath hne
  obtain ⟨hstart, hfinish⟩ := s.beginSearch_ends beginPos endPos
  rw [hstart, hfinish, (s.beginSearch_nodes _ _ _).1, (s.beginSearch_nodes _ _ _).1,
    laid _ hb, laid _ he] at hvalid
  refine ⟨hvalid.steps, ?_, hvalid.nodup, hvalid.ends⟩
  intro pos hpos
  have hwalk := hvalid.walkable pos hpos
  rwa [beginSearch_inMap, beginSearch_getNode, (s.beginSearch_nodes _ _ _).2] at hwalk

theorem adj_of_stepTo {s : Scene} (laid : s.Laid) (beginPos endPos : Position) {a b : Position}
    (ha : s.inMap a = true) (hab : s.StepTo a b) :
    (s.beginSearch beginPos endPos).Adj (s.getNode a) (s.getNode b) := by
  obtain ⟨hnear, hb, hwalk⟩ := hab
  refine ⟨⟨b, ?_, beginSearch_getNode _ _ _ _⟩, ?_, ?_⟩
  · rwa [beginSearch_inMap]
  · rwa [(s.beginSearch_nodes _ _ _).1, (s.beginSearch_nodes _ _ _).1, laid a ha, laid b hb]
  · rwa [(s.beginSearch_nodes _ _ _).2]

theorem reachable_nodes {s : Scene} (laid : s.Laid) {beginPos : Position}
    (endPos : Position) {pos : Position}
    (hb : s.inMap beginPos = true) (hpos : Relation.ReflTransGen s.StepTo beginPos pos) :
    s.inMap pos = true ∧ Relation.ReflTransGen (s.beginSearch beginPos endPos).Adj
      (s.getNode beginPos) (s.getNode pos) := by
  induction hpos with
  | refl => exact ⟨hb, .refl⟩
  | tail _ hstep ih => exact ⟨hstep.2.1, ih.2.tail (adj_of_stepTo laid beginPos endPos ih.1 hstep)⟩

theorem searchPath_nonempty {s : Scene} (laid : s.Laid) {beginPos endPos : Position}
    (hb : s.inMap beginPos = true) (hne : endPos ≠ beginPos)
    (reachable : Relation.ReflTransGen s.StepTo beginPos endPos) {fuel : Nat} {s' : Scene}
    {path : List Position} (h : s.searchPath fuel beginPos endPos [] = some (s', path)) :
    path ≠ [] := by
  obtain ⟨he, hreach⟩ := reachable_nodes laid endPos hb reachable
  obtain ⟨hstart, hfinish⟩ := s.beginSearch_ends beginPos endPos
  have hlaid := beginSearch_laid laid beginPos endPos
  rw [searchPath_eq hb he] at h
  obtain ⟨hs, hresult⟩ := (beginSearch_atHead hb).searchLoop_result hlaid h
  rcases hresult with ⟨hsize, _⟩ | ⟨more, hend, hpath⟩
  · rw [← hstart, ← hfinish] at hreach
    exact absurd hreach (hs.unreachable hsize)
  rw [constructResultPath_eq, hs.startNode_eq, hs.endNode_eq, Option.map_eq_some_iff] at hpath
  obtain ⟨l, hl, rfl⟩ := hpath
  have hhead := (hs.sound.trace_chain hend hl).1
  rintro hempty
  obtain rfl : l = [] := by simpa using hempty
  have hsame : s.getNode beginPos = s.getNode endPos := by
    rw [← hstart, ← hfinish]
    simpa using hhead
  apply hne
  rw [← laid endPos he, ← hsame, laid beginPos hb]

/-- On every grid the search returns, and what it leaves in an empty output, if
anything, is a path. -/
theorem searchPath_valid (s : Scene) (laid : s.Laid) (beginPos endPos : Position)
    (hb : s.inMap beginPos = true) (he : s.inMap endPos = true) :
    (∃ enough s' path, ∀ fuel, enough ≤ fuel →
        s.searchPath fuel beginPos endPos [] = some (s', path)) ∧
      ∀ fuel s' path, s.searchPath fuel beginPos endPos [] = some (s', path) →
        path ≠ [] → s.ValidPath beginPos endPos path := by
  constructor
  · obtain ⟨enough, ⟨s', path⟩, hr⟩ := searchPath_returns laid hb he []
    exact ⟨enough, s', path, hr⟩
  · intro fuel s' path h hne
    exact searchPath_sound laid hb he h hne

/-- Two rows of three cells with a wall in the middle of the first, every node and
slot still marked by an earlier search. -/
def walled : Scene :=
  allocate
    { height := 0
      width := 0
      nodes := fun _ => ⟨⟨0, 0⟩, false, 7, 7, 1, 1, some 0⟩
      startNode := 0
      endNode := 0
      openList := fun _ => 4
      openListSize := 3 }
    2 3 fun i => if i = 1 then '1' else '0'

theorem walled_laid : walled.Laid := allocate_laid _ _ _ _

theorem walled_reachable : Relation.ReflTransGen walled.StepTo ⟨0, 0⟩ ⟨2, 0⟩ :=
  (Relation.ReflTransGen.single (b := ⟨1, 1⟩) (by decide)).tail (by decide)

theorem searchPath_valid_walled : ∃ fuel s' path,
    walled.searchPath fuel ⟨0, 0⟩ ⟨2, 0⟩ [] = some (s', path) ∧ path ≠ [] ∧
      walled.ValidPath ⟨0, 0⟩ ⟨2, 0⟩ path := by
  obtain ⟨⟨enough, s', path, h⟩, hvalid⟩ :=
    searchPath_valid walled walled_laid ⟨0, 0⟩ ⟨2, 0⟩ (by decide) (by decide)
  have hrun := h enough le_rfl
  have hne := searchPath_nonempty walled_laid (by decide) (by decide) walled_reachable hrun
  exact ⟨enough, s', path, hrun, hne, hvalid enough s' path hrun hne⟩

/-- Whatever the nodes and the open list hold from before, an end that can be
reached is found. -/
theorem searchPath_complete (s : Scene) (laid : s.Laid) (beginPos endPos : Position)
    (hb : s.inMap beginPos = true) (hne : endPos ≠ beginPos)
    (reachable : Relation.ReflTransGen s.StepTo beginPos endPos) :
    ∃ enough s' path, path ≠ [] ∧ ∀ fuel, enough ≤ fuel →
      s.searchPath fuel beginPos endPos [] = some (s', path) := by
  have he := (reachable_nodes laid endPos hb reachable).1
  obtain ⟨enough, ⟨s', path⟩, hr⟩ := searchPath_returns laid hb he []
  exact ⟨enough, s', path, searchPath_nonempty laid hb hne reachable (hr enough le_rfl), hr⟩

theorem searchPath_complete_walled : ∃ enough s' path, path ≠ [] ∧ ∀ fuel, enough ≤ fuel →
    walled.searchPath fuel ⟨0, 0⟩ ⟨2, 0⟩ [] = some (s', path) :=
  searchPath_complete walled walled_laid ⟨0, 0⟩ ⟨2, 0⟩ (by decide) (by decide)
    walled_reachable

/-! ## Every loop stops -/

/-- The loop of `siftUpOpenList` round by round. -/
def siftUpLoop : Nat → Scene → Nat → Option Scene
  | 0, _, _ => none
  | fuel + 1, s, curIndex =>
    if curIndex / 2 = 0 then some s
    else if (s.nodes (s.openList (curIndex / 2))).less (s.nodes (s.openList curIndex)) then some s
    else siftUpLoop fuel (s.swapOpenList (curIndex / 2) curIndex) (curIndex / 2)

/-- The loop of `siftDownOpenList` round by round. -/
def siftDownLoop : Nat → Scene → Nat → Option Scene
  | 0, _, _ => none
  | fuel + 1, s, curIndex =>
    if s.openListSize ≤ curIndex * 2 then some s
    else if (s.nodes (s.openList curIndex)).less (s.nodes (s.openList (s.childIndex curIndex))) then
      some s
    else siftDownLoop fuel (s.swapOpenList curIndex (s.childIndex curIndex)) (s.childIndex curIndex)

/-- Whatever the list holds and wherever it starts, the index falls. -/
theorem siftUpLoop_returns (s : Scene) {fuel curIndex : Nat} (h : curIndex < fuel) :
    siftUpLoop fuel s curIndex = some (s.siftUpOpenList curIndex) := by
  induction fuel generalizing s curIndex with
  | zero => omega
  | succ fuel ih =>
    rw [siftUpLoop, siftUpOpenList]
    by_cases hroot : curIndex / 2 = 0
    · rw [if_pos hroot, if_pos hroot]
    rw [if_neg hroot, if_neg hroot]
    split
    · rfl
    · exact ih _ (by omega)

/-- On the way down it grows, and stops at the size of the list. -/
theorem siftDownLoop_returns (s : Scene) {fuel curIndex : Nat} (positive : 0 < curIndex)
    (h : s.openListSize ≤ curIndex + fuel) :
    siftDownLoop (fuel + 1) s curIndex = some (s.siftDownOpenList curIndex positive) := by
  induction fuel generalizing s curIndex with
  | zero => rw [siftDownLoop, siftDownOpenList, if_pos (by omega), if_pos (by omega)]
  | succ fuel ih =>
    rw [siftDownLoop, siftDownOpenList]
    by_cases hleaf : s.openListSize ≤ curIndex * 2
    · rw [if_pos hleaf, if_pos hleaf]
    rw [if_neg hleaf, if_neg hleaf]
    split
    · rfl
    · have hchild := s.childIndex_gt positive
      have hsize : (s.swapOpenList curIndex (s.childIndex curIndex)).openListSize =
          s.openListSize := rfl
      exact ih _ _ (by omega)

/-- The search returns between any two positions of any grid, and so does every loop over
the open list, from any index and whatever positions its nodes have recorded. -/
theorem searchPath_terminates (s : Scene) (laid : s.Laid) (beginPos endPos : Position)
    (paths : List Position) :
    (∃ enough r, ∀ fuel, enough ≤ fuel → s.searchPath fuel beginPos endPos paths = some r) ∧
      ∀ (list : Scene) (curIndex : Nat),
        (∃ enough, ∀ fuel, enough ≤ fuel →
          siftUpLoop fuel list curIndex = some (list.siftUpOpenList curIndex)) ∧
        ∀ positive : 0 < curIndex, ∃ enough, ∀ fuel, enough ≤ fuel →
          siftDownLoop fuel list curIndex = some (list.siftDownOpenList curIndex positive) := by
  constructor
  · exact searchPath_total laid beginPos endPos paths
  · intro list curIndex
    constructor
    · refine ⟨curIndex + 1, ?_⟩
      intro fuel hfuel
      exact siftUpLoop_returns list (by omega)
    · intro positive
      refine ⟨list.openListSize + 1, ?_⟩
      intro fuel hfuel
      obtain ⟨more, rfl⟩ : ∃ m, fuel = m + 1 := ⟨fuel - 1, by omega⟩
      exact siftDownLoop_returns list positive (by omega)

/-- The wall itself as the end, which nothing reaches. -/
theorem searchPath_terminates_walled : ∃ enough r, ∀ fuel, enough ≤ fuel →
    walled.searchPath fuel ⟨0, 0⟩ ⟨1, 0⟩ [] = some r :=
  (searchPath_terminates walled walled_laid ⟨0, 0⟩ ⟨1, 0⟩ []).1

end Scene

end Mysya
