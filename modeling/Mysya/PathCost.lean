import Mysya.SearchPath
import Mathlib.Algebra.Order.Ring.Abs
import Mathlib.Tactic.Linarith

/-!
# What the returned path costs

`HeursiticConstEstimate` is the straight-line distance, which exceeds the cost
of a long diagonal, so `SearchPath` need not return a cheapest path. What it
returns stays within the largest total of cost and estimate along any path, so
it is cheapest up to a factor of the square root of 50/49.
-/

namespace Mysya

def stepCost (a b : Position) : Int := if a.x = b.x ∨ a.y = b.y then 10 else 14

/-- The cost of a path from the position it leaves out. -/
abbrev pathCost (beginPos : Position) (path : List Position) : Int :=
  SearchTree.walkCost stepCost beginPos path

/-- `floor(10 * sqrt(dx^2 + dy^2))`. -/
def estimate (a b : Position) : Int :=
  Nat.sqrt (((a.x - b.x) * (a.x - b.x) + (a.y - b.y) * (a.y - b.y)).toNat * 100)

namespace Scene

/-- An 8-neighbour path over walkable cells. -/
structure Walk (s : Scene) (beginPos endPos : Position) (walk : List Position) : Prop where
  steps : (beginPos :: walk).IsChain s.StepTo
  ends : walk.getLastD beginPos = endPos

/-! ## The search against one walk -/

/-- A search whose closed cells are all within a bound. -/
structure Weighing (s₀ : Scene) (bound : Int) (s : Scene) : Prop extends AtHead s₀ s where
  weighed : SearchTree.Weighed s₀.Adj s₀.gCost s₀.startNode none s.tree
  within : ∀ n, s.tree.closed n → s.tree.cost n + s₀.hScore n ≤ bound

namespace Weighing

variable {s₀ s : Scene} {bound : Int} {walk : List NodePtr}

theorem root_within (hs : Weighing s₀ bound s) (chain : (s₀.startNode :: walk).IsChain s₀.Adj)
    (ends : walk.getLastD s₀.startNode = s₀.endNode)
    (within : SearchTree.Within s₀.gCost s₀.hScore s₀.startNode walk bound)
    (nonempty : 1 < s.openListSize) :
    s.tree.cost (s.openList 1) + s₀.hScore (s.openList 1) ≤ bound := by
  apply hs.weighed.least_within hs.sound.root hs.sound.root_cost chain _ within
  · intro a ha
    rw [← hs.priced _ (Or.inl (hs.min_opened nonempty)), ← hs.priced a (Or.inl ha)]
    exact hs.heap.root_le ((hs.opened_iff a).mp ha)
  · rw [ends]
    intro hclosed
    exact absurd hclosed hs.seeking

theorem expand (laid : s₀.Laid) (hs : Weighing s₀ bound s) (nonempty : 1 < s.openListSize)
    (other : s.openList 1 ≠ s₀.endNode)
    (root : s.tree.cost (s.openList 1) + s₀.hScore (s.openList 1) ≤ bound) :
    Weighing s₀ bound (s.expand (s.openList 1)) := by
  obtain ⟨hrelaxes, _⟩ := hs.toSearching.expand laid nonempty
  have hopen := hs.min_opened nonempty
  have hsteps := hrelaxes.considersAll (s₀.gCost_pos _)
  constructor
  · exact hs.toAtHead.expand laid nonempty other
  · apply (hs.weighed.close hopen).relaxesAll hrelaxes (Or.inl rfl) (s₀.gCost_pos _)
    intro a hadj
    exact Or.inl ((mem_getNeighborNodes laid (hs.cell _ (Or.inl hopen)) a).mpr hadj)
  · intro n hn
    rw [hsteps.closed] at hn
    have hclosed : (s.tree.close (s.openList 1)).Reached n := Or.inr hn
    have hcost : (s.tree.close (s.openList 1)).cost n + s₀.hScore n ≤ bound := by
      rcases hn with rfl | hn
      · exact root
      · exact hs.within n hn
    have hle := hrelaxes.cost_le (s₀.gCost_pos _) hclosed
    omega

end Weighing

theorem beginSearch_weighing {s : Scene} {beginPos endPos : Position}
    (hb : s.inMap beginPos = true) (bound : Int) :
    Weighing (s.beginSearch beginPos endPos) bound (s.beginSearch beginPos endPos) := by
  constructor
  · exact beginSearch_atHead hb
  · rw [(s.beginSearch_ends beginPos endPos).1, beginSearch_tree]
    exact SearchTree.Weighed.init _ _
  · rw [beginSearch_tree]
    intro n hn
    exact hn.elim

/-- What the walk back from an end within the bound leaves is within the bound. -/
theorem Weighing.path_within {s₀ s : Scene} {bound : Int} (hs : Weighing s₀ bound s)
    (hend : s.tree.Reached s₀.endNode)
    (root : s.tree.cost s₀.endNode + s₀.hScore s₀.endNode ≤ bound) {fuel : Nat}
    {path : List Position} (h : s.constructResultPath fuel [] = some path) :
    ∃ nodes : List NodePtr, path = nodes.map (fun n => (s₀.nodes n).pos) ∧
      SearchTree.Within s₀.gCost s₀.hScore s₀.startNode nodes bound := by
  rw [constructResultPath_eq, hs.startNode_eq, hs.endNode_eq, Option.map_eq_some_iff] at h
  obtain ⟨l, hl, rfl⟩ := h
  have hpos : ∀ n, (s.nodes n).pos = (s₀.nodes n).pos := (terrain_eq_iff.mp hs.terrain).2.2.1
  obtain ⟨_, hpre⟩ := hs.weighed.trace_cost hs.sound.root_cost hend hl
  refine ⟨l.reverse, by simp [hpos], ?_⟩
  intro pre hprefix
  obtain ⟨hcost, hat⟩ := hpre pre hprefix
  have hbound : s.tree.cost (pre.getLastD s₀.startNode) +
      s₀.hScore (pre.getLastD s₀.startNode) ≤ bound := by
    rcases hat with heq | hclosed
    · rw [heq]
      exact root
    · exact hs.within _ hclosed
  omega

/-! ## The search as called -/

theorem chain_nodes {s : Scene} (laid : s.Laid) (beginPos endPos : Position) {a : Position}
    {walk : List Position} (ha : s.inMap a = true) (steps : (a :: walk).IsChain s.StepTo) :
    (s.getNode a :: walk.map s.getNode).IsChain (s.beginSearch beginPos endPos).Adj ∧
      walk.map (fun p => (s.nodes (s.getNode p)).pos) = walk := by
  induction walk generalizing a with
  | nil => exact ⟨by simp, rfl⟩
  | cons b rest ih =>
    rw [List.isChain_cons_cons] at steps
    obtain ⟨hchain, hmap⟩ := ih steps.1.2.1 steps.2
    refine ⟨?_, ?_⟩
    · rw [List.map_cons, List.isChain_cons_cons]
      exact ⟨adj_of_stepTo laid beginPos endPos ha steps.1, hchain⟩
    · rw [List.map_cons, hmap, laid b steps.1.2.1]

/-- The returned path stays within every bound some path to the end stays within. -/
theorem searchPath_within {s : Scene} (laid : s.Laid) {beginPos endPos : Position}
    (hb : s.inMap beginPos = true) (he : s.inMap endPos = true) {fuel : Nat} {s' : Scene}
    {path : List Position} (h : s.searchPath fuel beginPos endPos [] = some (s', path))
    {walk : List Position} (hwalk : s.Walk beginPos endPos walk) {bound : Int}
    (within : SearchTree.Within stepCost (estimate · endPos) beginPos walk bound) :
    SearchTree.Within stepCost (estimate · endPos) beginPos path bound := by
  obtain ⟨hchain, hmap⟩ := chain_nodes laid beginPos endPos hb hwalk.steps
  obtain ⟨hstart, hfinish⟩ := s.beginSearch_ends beginPos endPos
  have hnodes := s.beginSearch_nodes beginPos endPos
  generalize hs₀ : s.beginSearch beginPos endPos = s₀ at hchain hstart hfinish hnodes
  have hbegin : (s₀.nodes s₀.startNode).pos = beginPos := by
    rw [(hnodes _).1, hstart, laid beginPos hb]
  have hend : (s₀.nodes s₀.endNode).pos = endPos := by
    rw [(hnodes _).1, hfinish, laid endPos he]
  -- the nodes' costs and estimates are those of their positions
  have hwithin : ∀ nodes : List NodePtr,
      SearchTree.Within s₀.gCost s₀.hScore s₀.startNode nodes bound ↔
        SearchTree.Within stepCost (estimate · endPos) beginPos
          (nodes.map fun n => (s₀.nodes n).pos) bound := by
    intro nodes
    have hmapped := SearchTree.within_map stepCost (fun n => (s₀.nodes n).pos)
      (estimate · endPos) s₀.startNode nodes bound
    rw [hbegin] at hmapped
    rw [hmapped, ← hend]
    rfl
  have hlist : (walk.map s.getNode).map (fun n => (s₀.nodes n).pos) = walk := by
    rw [List.map_map]
    simpa only [Function.comp_def, (hnodes _).1] using hmap
  have hlast : (walk.map s.getNode).getLastD s₀.startNode = s₀.endNode := by
    rw [hstart, hfinish, List.getLastD_map, hwalk.ends]
  rw [← hlist, ← hwithin] at within
  rw [← hstart] at hchain
  have hlaid := beginSearch_laid laid beginPos endPos
  have hat : Weighing (s.beginSearch beginPos endPos) bound _ := beginSearch_weighing hb bound
  rw [searchPath_eq hb he] at h
  rw [hs₀] at hlaid hat h
  have hround := fun s (hs : Weighing s₀ bound s) => hs.root_within hchain hlast within
  obtain ⟨hs', hresult⟩ := searchLoop_rule (fun s hs hsize hne => hs.expand hlaid hsize
    (by rwa [← hs.endNode_eq]) (hround s hs hsize)) hat h
  rcases hresult with ⟨_, rfl⟩ | ⟨more, hsize, hroot, hpath⟩
  · apply (hwithin []).mp
    intro pre hpre
    obtain rfl : pre = [] := by simpa using hpre
    exact within [] List.nil_prefix
  · have hbound := hround s' hs' hsize
    rw [hroot, hs'.endNode_eq] at hbound
    have hreached : s'.tree.Reached s₀.endNode := by
      rw [← hs'.endNode_eq, ← hroot]
      exact Or.inl (hs'.min_opened hsize)
    obtain ⟨nodes, rfl, hnodes⟩ := hs'.path_within hreached hbound hpath
    exact (hwithin nodes).mp hnodes

end Scene

/-! ## The estimate against the cost -/

section Estimate

variable {a b e : Position} {walk : List Position}

theorem estimate_nonneg (a b : Position) : 0 ≤ estimate a b := Int.natCast_nonneg _

theorem estimate_sq_le (a b : Position) :
    estimate a b ^ 2 ≤ 100 * ((a.x - b.x) ^ 2 + (a.y - b.y) ^ 2) := by
  have hsq : 0 ≤ (a.x - b.x) * (a.x - b.x) + (a.y - b.y) * (a.y - b.y) :=
    add_nonneg (mul_self_nonneg _) (mul_self_nonneg _)
  have hroot := Nat.sqrt_le'
    (((a.x - b.x) * (a.x - b.x) + (a.y - b.y) * (a.y - b.y)).toNat * 100)
  have hcast : estimate a b ^ 2 ≤
      ((((a.x - b.x) * (a.x - b.x) + (a.y - b.y) * (a.y - b.y)).toNat * 100 : Nat) : Int) := by
    rw [estimate]
    exact_mod_cast hroot
  rw [Nat.cast_mul, Int.toNat_of_nonneg hsq] at hcast
  push_cast at hcast
  nlinarith

/-- One step covers no more of a long and a short leg than it costs. -/
theorem legs_step (e : Position) (h : EightNeighbour a b) :
    -(10 * ((b.x - e.x).natAbs : Int) + 4 * (b.y - e.y).natAbs) ≤
        -(10 * ((a.x - e.x).natAbs : Int) + 4 * (a.y - e.y).natAbs) + stepCost a b ∧
      -(4 * ((b.x - e.x).natAbs : Int) + 10 * (b.y - e.y).natAbs) ≤
        -(4 * ((a.x - e.x).natAbs : Int) + 10 * (a.y - e.y).natAbs) + stepCost a b := by
  obtain ⟨_, hx, hy⟩ := h
  rw [stepCost]
  split
  · rename_i hstraight
    rcases hstraight with heq | heq <;> omega
  · omega

theorem legs_le_pathCost (chain : (a :: walk).IsChain EightNeighbour)
    (ends : walk.getLastD a = e) :
    10 * ((a.x - e.x).natAbs : Int) + 4 * (a.y - e.y).natAbs ≤ pathCost a walk ∧
      4 * ((a.x - e.x).natAbs : Int) + 10 * (a.y - e.y).natAbs ≤ pathCost a walk := by
  have hlong := SearchTree.potential_le_walkCost stepCost
    (fun p => -(10 * ((p.x - e.x).natAbs : Int) + 4 * (p.y - e.y).natAbs))
    (fun _ _ h => (legs_step e h).1) chain
  have hshort := SearchTree.potential_le_walkCost stepCost
    (fun p => -(4 * ((p.x - e.x).natAbs : Int) + 10 * (p.y - e.y).natAbs))
    (fun _ _ h => (legs_step e h).2) chain
  simp only [ends, sub_self, Int.natAbs_zero] at hlong hshort
  simp only [pathCost]
  constructor <;> omega

theorem pathCost_nonneg (a : Position) (walk : List Position) : 0 ≤ pathCost a walk := by
  induction walk generalizing a with
  | nil => simp
  | cons b rest ih =>
    have hrest := ih b
    have hstep : 0 ≤ stepCost a b := by
      rw [stepCost]
      split <;> omega
    rw [pathCost, SearchTree.walkCost_cons]
    exact Int.add_nonneg hstep hrest

theorem pathCost_even (a : Position) (walk : List Position) : 2 ∣ pathCost a walk := by
  induction walk generalizing a with
  | nil => simp
  | cons b rest ih =>
    have hstep : 2 ∣ stepCost a b := by
      rw [stepCost]
      split <;> omega
    rw [pathCost, SearchTree.walkCost_cons]
    exact dvd_add hstep (ih b)

/-- The legs of the way to the end, the longer first, against estimate and cost. -/
theorem estimate_legs (chain : (a :: walk).IsChain EightNeighbour)
    (ends : walk.getLastD a = e) : ∃ long short : Int, 0 ≤ short ∧ short ≤ long ∧
      10 * long + 4 * short ≤ pathCost a walk ∧
      estimate a e ^ 2 ≤ 100 * (long ^ 2 + short ^ 2) := by
  obtain ⟨hlong, hshort⟩ := legs_le_pathCost chain ends
  have hsq := estimate_sq_le a e
  rw [← Int.natAbs_sq (a.x - e.x), ← Int.natAbs_sq (a.y - e.y)] at hsq
  rcases Nat.le_total (a.y - e.y).natAbs (a.x - e.x).natAbs with hle | hle
  · exact ⟨(a.x - e.x).natAbs, (a.y - e.y).natAbs, Int.natCast_nonneg _, by omega, hlong, hsq⟩
  · exact ⟨(a.y - e.y).natAbs, (a.x - e.x).natAbs, Int.natCast_nonneg _, by omega, by omega,
      by linarith⟩

theorem estimate_ratio (chain : (a :: walk).IsChain EightNeighbour)
    (ends : walk.getLastD a = e) : 49 * estimate a e ^ 2 ≤ 50 * pathCost a walk ^ 2 := by
  obtain ⟨long, short, h0, hle, hcost, hsq⟩ := estimate_legs chain ends
  have hsquare : (10 * long + 4 * short) ^ 2 ≤ pathCost a walk ^ 2 :=
    pow_le_pow_left₀ (by omega) hcost 2
  have hlegs : 98 * (long ^ 2 + short ^ 2) ≤ (10 * long + 4 * short) ^ 2 := by
    have hmul : short * short ≤ long * short := mul_le_mul_of_nonneg_right hle h0
    have hsquares : short * short ≤ long * long := mul_le_mul hle hle h0 (h0.trans hle)
    linarith [sq long, sq short, sq (10 * long + 4 * short)]
  linarith

/-- A rest that costs less than fifteen diagonals is overestimated by one at most. -/
theorem estimate_le_succ (chain : (a :: walk).IsChain EightNeighbour)
    (ends : walk.getLastD a = e) (near : pathCost a walk < 210) :
    estimate a e ≤ pathCost a walk + 1 := by
  obtain ⟨long, short, h0, hle, hcost, hsq⟩ := estimate_legs chain ends
  have hshort : short ≤ 14 := by omega
  have hlt : estimate a e ^ 2 < (10 * long + 4 * short + 2) ^ 2 := by
    have hmul : short * short ≤ long * short := mul_le_mul_of_nonneg_right hle h0
    have hfour : short * short ≤ 14 * short := mul_le_mul_of_nonneg_right hshort h0
    linarith [sq long, sq short, sq (10 * long + 4 * short + 2)]
  have := lt_of_pow_lt_pow_left₀ 2 (by omega) hlt
  omega

end Estimate

namespace Scene

/-! ## The cost of the returned path -/

section Cost

variable {s : Scene} {beginPos endPos : Position} {walk path : List Position}

/-- The part of a walk after a prefix is a walk itself. -/
theorem Walk.after {pre post : List Position} (hw : s.Walk beginPos endPos (pre ++ post)) :
    (pre.getLastD beginPos :: post).IsChain EightNeighbour ∧
      post.getLastD (pre.getLastD beginPos) = endPos := by
  obtain ⟨hsteps, hends⟩ := hw
  induction pre generalizing beginPos with
  | nil => exact ⟨hsteps.imp (fun _ _ h => h.1), hends⟩
  | cons a rest ih =>
    rw [List.cons_append, List.isChain_cons_cons] at hsteps
    rw [List.cons_append, List.getLastD_cons] at hends
    rw [List.getLastD_cons]
    exact ih hsteps.2 hends

theorem cost_le_of_within {bound : Int}
    (h : SearchTree.Within stepCost (estimate · endPos) beginPos path bound) :
    pathCost beginPos path ≤ bound := by
  have hwhole := h path List.prefix_rfl
  have hest := estimate_nonneg (path.getLastD beginPos) endPos
  exact (le_add_of_nonneg_right hest).trans hwhole

theorem Walk.within_ratio (hw : s.Walk beginPos endPos walk) :
    SearchTree.Within stepCost (estimate · endPos) beginPos walk
      (Nat.sqrt (50 * (pathCost beginPos walk).natAbs ^ 2 / 49)) := by
  rintro pre ⟨post, rfl⟩
  obtain ⟨hchain, hends⟩ := hw.after
  have hratio := estimate_ratio hchain hends
  have hsplit := SearchTree.walkCost_append stepCost beginPos pre post
  have hpre := pathCost_nonneg beginPos pre
  have hpost := pathCost_nonneg (pre.getLastD beginPos) post
  have hest := estimate_nonneg (pre.getLastD beginPos) endPos
  simp only [pathCost] at hratio hpre hpost ⊢
  rw [hsplit]
  generalize SearchTree.walkCost stepCost beginPos pre = g at hpre ⊢
  generalize SearchTree.walkCost stepCost (pre.getLastD beginPos) post = r at hratio hpost ⊢
  generalize estimate (pre.getLastD beginPos) endPos = h at hratio hest ⊢
  have hlinear : 49 * h ≤ 50 * r := by
    apply le_of_pow_le_pow_left₀ two_ne_zero (by omega)
    linarith [mul_pow 49 h 2, mul_pow 50 r 2, sq_nonneg r]
  have hsq : 49 * (g + h) ^ 2 ≤ 50 * (g + r) ^ 2 := by
    have hcross : g * (49 * h) ≤ g * (50 * r) := mul_le_mul_of_nonneg_left hlinear hpre
    linarith [sq_nonneg g, add_sq g h, add_sq g r]
  have hnat : (g + h).natAbs ≤ Nat.sqrt (50 * (g + r).natAbs ^ 2 / 49) := by
    rw [Nat.le_sqrt', Nat.le_div_iff_mul_le (by omega)]
    zify
    rw [sq_abs, sq_abs]
    linarith
  omega

theorem Walk.within_succ (near : ∀ pre post, walk = pre ++ post →
      estimate (pre.getLastD beginPos) endPos ≤ pathCost (pre.getLastD beginPos) post + 1) :
    SearchTree.Within stepCost (estimate · endPos) beginPos walk
      (pathCost beginPos walk + 1) := by
  rintro pre ⟨post, rfl⟩
  have hnear := near pre post rfl
  have hsplit := SearchTree.walkCost_append stepCost beginPos pre post
  simp only [pathCost] at hnear ⊢
  omega

/-- The returned path costs at most the square root of 50/49 times any path to the
end, and no more than one along which the estimate never exceeds the rest by two,
such as one that costs less than fifteen diagonals. -/
theorem searchPath_cost (s : Scene) (laid : s.Laid) (beginPos endPos : Position)
    (hb : s.inMap beginPos = true) (he : s.inMap endPos = true) (fuel : Nat) (s' : Scene)
    (path : List Position) (h : s.searchPath fuel beginPos endPos [] = some (s', path))
    (walk : List Position) (hw : s.Walk beginPos endPos walk) :
    49 * pathCost beginPos path ^ 2 ≤ 50 * pathCost beginPos walk ^ 2 ∧
      ((∀ pre post, walk = pre ++ post →
          estimate (pre.getLastD beginPos) endPos ≤
            pathCost (pre.getLastD beginPos) post + 1) →
        pathCost beginPos path ≤ pathCost beginPos walk) ∧
      (pathCost beginPos walk < 210 → pathCost beginPos path ≤ pathCost beginPos walk) := by
  have hsucc : (∀ pre post, walk = pre ++ post →
      estimate (pre.getLastD beginPos) endPos ≤ pathCost (pre.getLastD beginPos) post + 1) →
      pathCost beginPos path ≤ pathCost beginPos walk := by
    intro near
    have hle := cost_le_of_within (searchPath_within laid hb he h hw (Walk.within_succ near))
    have := pathCost_even beginPos path
    have := pathCost_even beginPos walk
    omega
  refine ⟨?_, hsucc, ?_⟩
  · have hle := cost_le_of_within (searchPath_within laid hb he h hw hw.within_ratio)
    have hnat : (pathCost beginPos path).natAbs ≤
        Nat.sqrt (50 * (pathCost beginPos walk).natAbs ^ 2 / 49) := by
      have := pathCost_nonneg beginPos path
      omega
    rw [Nat.le_sqrt', Nat.le_div_iff_mul_le (by omega)] at hnat
    zify at hnat
    rw [sq_abs, sq_abs] at hnat
    linarith
  · intro hshort
    apply hsucc
    rintro pre post rfl
    obtain ⟨hchain, hends⟩ := hw.after
    apply estimate_le_succ hchain hends
    have hsplit := SearchTree.walkCost_append stepCost beginPos pre post
    have := pathCost_nonneg beginPos pre
    simp only [pathCost] at *
    omega

theorem Walk.reachable (hw : s.Walk beginPos endPos walk) :
    Relation.ReflTransGen s.StepTo beginPos endPos := by
  apply List.relationReflTransGen_of_exists_isChain_cons walk hw.steps
  rw [← hw.ends, List.getLast_eq_getLastD]

theorem ValidPath.isWalk (hpath : s.ValidPath beginPos endPos path) :
    s.Walk beginPos endPos path := by
  constructor
  · apply hpath.steps.imp_of_mem_tail_imp
    intro a b _ hb hnear
    exact ⟨hnear, hpath.walkable b hb⟩
  · rw [List.getLastD_eq_getLast?, hpath.ends]
    rfl

end Cost

/-! ## Where a dearer path is returned -/

/-- Away from the end, round `bend`, then down a diagonal of twenty-two cells. -/
def bentWay : List Position :=
  [⟨3, 0⟩, ⟨2, 0⟩, ⟨1, 0⟩, ⟨0, 1⟩] ++ (List.range 23).map fun k => ⟨k, k + 2⟩

/-- Down a diagonal as long, and back. -/
def dearWay : List Position :=
  (List.range 22).map (fun k => ⟨k + 5, k + 1⟩) ++ [⟨25, 23⟩, ⟨24, 24⟩, ⟨23, 25⟩, ⟨22, 24⟩]

def bend : Position := ⟨0, 2⟩

/-- The cells of the two ways and their begin. -/
def onFloor (p : Position) : Bool :=
  0 ≤ p.x ∧ 0 ≤ p.y ∧
    (p.y = 0 ∧ 1 ≤ p.x ∧ p.x ≤ 4 ∨ p.x = 0 ∧ p.y = 1 ∨ p.x = p.y - 2 ∧ p.x ≤ 22 ∨
      p.x = p.y + 4 ∧ p.y ≤ 22 ∨ p.x + p.y = 48 ∧ 23 ≤ p.x)

def twoWays : Scene :=
  walled.allocate 26 27 fun i => if onFloor ⟨i % 27, i / 27⟩ then '0' else '1'

theorem twoWays_laid : twoWays.Laid := allocate_laid _ _ _ _

theorem twoWays_bentWay : twoWays.Walk ⟨4, 0⟩ ⟨22, 24⟩ bentWay := by
  constructor
  · decide
  · decide

theorem twoWays_dearWay : twoWays.Walk ⟨4, 0⟩ ⟨22, 24⟩ dearWay := by
  constructor
  · decide
  · decide

theorem twoWays_stepTo {a b : Position} (h : twoWays.StepTo a b) : onFloor b = true ∧
    ∃ y ∈ List.range 26, ∃ x ∈ List.range 27, b = ⟨x, y⟩ ∧
      ∃ dx ∈ [-1, 0, 1], ∃ dy ∈ [-1, 0, 1], a = ⟨x + dx, y + dy⟩ := by
  obtain ⟨⟨_, hx, hy⟩, hmap, hwalk⟩ := h
  constructor
  · have hfloor : ∀ n, (twoWays.nodes n).walkable = true →
        onFloor (twoWays.nodes n).pos = true := by
      intro n
      simp [twoWays, allocate]
    rw [← twoWays_laid b hmap]
    exact hfloor _ hwalk
  · obtain ⟨hx0, hx27, hy0, hy26⟩ := (inMap_iff _ _).mp hmap
    have hw : twoWays.width = 27 := rfl
    have hh : twoWays.height = 26 := rfl
    refine ⟨b.y.toNat, by rw [List.mem_range]; omega, b.x.toNat, by rw [List.mem_range]; omega,
      ?_, a.x - b.x, by simp; omega, a.y - b.y, by simp; omega, ?_⟩
    · simp [Int.toNat_of_nonneg hx0, Int.toNat_of_nonneg hy0]
    · simp [Int.toNat_of_nonneg hx0, Int.toNat_of_nonneg hy0]

/-- What reaching a cell costs at least, up to the bend. -/
def toBend (p : Position) : Int :=
  if onFloor p = false then 1000
  else if p.x = p.y - 2 ∧ p.y < 25 then 54
  else if p.x < 4 ∧ p.y = 0 then 10 * (4 - p.x)
  else if p.x = 0 then 44
  else if p.y < 4 then 14 * p.y
  else 54

/-- What reaching a cell costs at least when the bend is left out. -/
def pastBend (p : Position) : Int :=
  if onFloor p = false then 1000
  else if p.x = p.y - 2 ∧ p.y < 25 then 364
  else if p.x < 4 then 0
  else 14 * p.y

/-- Neither bound goes up by more than a step costs, cell by cell. -/
theorem floor_steps : ∀ y ∈ List.range 26, ∀ x ∈ List.range 27, onFloor ⟨x, y⟩ = true →
    ∀ dx ∈ [-1, 0, 1], ∀ dy ∈ [-1, 0, 1],
      toBend ⟨x, y⟩ ≤ toBend ⟨x + dx, y + dy⟩ + stepCost ⟨x + dx, y + dy⟩ ⟨x, y⟩ ∧
      ((⟨x + dx, y + dy⟩ : Position) ≠ bend → (⟨x, y⟩ : Position) ≠ bend →
        pastBend ⟨x, y⟩ ≤ pastBend ⟨x + dx, y + dy⟩ + stepCost ⟨x + dx, y + dy⟩ ⟨x, y⟩) := by
  decide +kernel

theorem toBend_step {a b : Position} (h : twoWays.StepTo a b) :
    toBend b ≤ toBend a + stepCost a b := by
  obtain ⟨hfloor, y, hy, x, hx, rfl, dx, hdx, dy, hdy, rfl⟩ := twoWays_stepTo h
  exact (floor_steps y hy x hx hfloor dx hdx dy hdy).1

theorem pastBend_step {a b : Position} (h : twoWays.StepTo a b) (ha : a ≠ bend) (hb : b ≠ bend) :
    pastBend b ≤ pastBend a + stepCost a b := by
  obtain ⟨hfloor, y, hy, x, hx, rfl, dx, hdx, dy, hdy, rfl⟩ := twoWays_stepTo h
  exact (floor_steps y hy x hx hfloor dx hdx dy hdy).2 ha hb

/-- Within the bound of the dear way the bend is out of reach, and without it no path
is cheaper. -/
theorem dear_of_within {path : List Position} (hpath : twoWays.Walk ⟨4, 0⟩ ⟨22, 24⟩ path)
    (within : SearchTree.Within stepCost (estimate · ⟨22, 24⟩) ⟨4, 0⟩ path 364) :
    364 ≤ pathCost ⟨4, 0⟩ path := by
  have hround : bend ∉ path := by
    intro hmem
    obtain ⟨pre, post, rfl⟩ := List.append_of_mem hmem
    have hprefix := within (pre ++ [bend]) ⟨post, by simp⟩
    have hsteps : (⟨4, 0⟩ :: (pre ++ [bend])).IsChain twoWays.StepTo := by
      have := hpath.steps
      rw [List.append_cons, ← List.cons_append] at this
      exact this.left_of_append
    have hbend := SearchTree.potential_le_walkCost stepCost toBend
      (fun _ _ => toBend_step) hsteps
    rw [List.getLastD_concat] at hprefix hbend
    have h54 : toBend bend = 54 := by decide
    have h0 : toBend ⟨4, 0⟩ = 0 := by decide
    have h311 : estimate bend ⟨22, 24⟩ = 311 := by decide +kernel
    simp only [h311] at hprefix
    omega
  have hsteps : (⟨4, 0⟩ :: path).IsChain
      (fun a b => twoWays.StepTo a b ∧ a ≠ bend ∧ b ≠ bend) := by
    have havoid : ∀ p ∈ (⟨4, 0⟩ : Position) :: path, p ≠ bend := by
      rintro p hp rfl
      rcases List.mem_cons.mp hp with heq | hp
      · exact absurd heq (by decide)
      · exact hround hp
    exact hpath.steps.imp_of_mem_imp fun a b ha hb h => ⟨h, havoid a ha, havoid b hb⟩
  have hpast := SearchTree.potential_le_walkCost stepCost pastBend
    (fun _ _ h => pastBend_step h.1 h.2.1 h.2.2) hsteps
  have h364 : pastBend ⟨22, 24⟩ = 364 := by decide
  have h0 : pastBend ⟨4, 0⟩ = 0 := by decide
  rw [hpath.ends] at hpast
  simp only [pathCost]
  omega

theorem twoWays_within : SearchTree.Within stepCost (estimate · ⟨22, 24⟩) ⟨4, 0⟩ dearWay 364 := by
  have hall : ∀ pre ∈ dearWay.inits, pathCost ⟨4, 0⟩ pre +
      estimate (pre.getLastD ⟨4, 0⟩) ⟨22, 24⟩ ≤ 364 := by
    decide +kernel
  intro pre hpre
  exact hall pre ((List.mem_inits _ _).mpr hpre)

/-- The search returns the dear way, or one that costs as much. -/
theorem searchPath_twoWays : ¬ ∀ s : Scene, s.Laid → ∀ beginPos endPos,
    s.inMap beginPos = true → s.inMap endPos = true → ∀ fuel s' path,
    s.searchPath fuel beginPos endPos [] = some (s', path) → path ≠ [] →
    ∀ walk, s.Walk beginPos endPos walk →
      pathCost beginPos path ≤ pathCost beginPos walk := by
  intro hall
  obtain ⟨enough, ⟨s', path⟩, hrun⟩ :=
    searchPath_returns twoWays_laid (by decide : twoWays.inMap ⟨4, 0⟩ = true)
      (by decide : twoWays.inMap ⟨22, 24⟩ = true) []
  have h := hrun enough le_rfl
  have hne := searchPath_nonempty twoWays_laid (by decide) (by decide)
    twoWays_bentWay.reachable h
  have hpath := searchPath_sound twoWays_laid (by decide) (by decide) h hne
  have hcheap := hall twoWays twoWays_laid ⟨4, 0⟩ ⟨22, 24⟩ (by decide) (by decide) enough s' path h
    hne bentWay twoWays_bentWay
  have hdear := dear_of_within hpath.isWalk
    (searchPath_within twoWays_laid (by decide) (by decide) h twoWays_dearWay twoWays_within)
  have hcost : pathCost ⟨4, 0⟩ bentWay = 362 := by decide
  omega

theorem searchPath_cost_twoWays : ∃ fuel s' path,
    twoWays.searchPath fuel ⟨4, 0⟩ ⟨22, 24⟩ [] = some (s', path) ∧ path ≠ [] ∧
      49 * pathCost ⟨4, 0⟩ path ^ 2 ≤ 50 * pathCost ⟨4, 0⟩ bentWay ^ 2 := by
  obtain ⟨enough, ⟨s', path⟩, hrun⟩ :=
    searchPath_returns twoWays_laid (by decide : twoWays.inMap ⟨4, 0⟩ = true)
      (by decide : twoWays.inMap ⟨22, 24⟩ = true) []
  have h := hrun enough le_rfl
  have hne := searchPath_nonempty twoWays_laid (by decide) (by decide)
    twoWays_bentWay.reachable h
  exact ⟨enough, s', path, h, hne, (searchPath_cost twoWays twoWays_laid ⟨4, 0⟩ ⟨22, 24⟩
    (by decide) (by decide) enough s' path h bentWay twoWays_bentWay).1⟩

end Scene

end Mysya
