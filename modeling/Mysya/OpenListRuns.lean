import Mysya.SearchPath

/-!
# The open list over a search

Every call `SearchPath` makes of an open list operation, in order, with the
scene it is made in and the indices it gives `open_list_`. After
`DeleteMinFScoreNodeInOpenList` the node moved to the root still holds its old
`open_list_pos_` unless it sinks from there, and that is all that can be wrong
with the list.
-/

namespace Mysya

namespace Scene

/-! ## Calls of the open list -/

/-- The indices the loop of `siftUpOpenList` reads, each with the size of `open_list_`. -/
def siftUpIndices (s : Scene) (curIndex : Nat) : List (Nat × Nat) :=
  if curIndex / 2 = 0 then []
  else (curIndex / 2, s.openListSize) :: (curIndex, s.openListSize) ::
    if (s.nodes (s.openList (curIndex / 2))).less (s.nodes (s.openList curIndex)) then []
    else (s.swapOpenList (curIndex / 2) curIndex).siftUpIndices (curIndex / 2)
termination_by curIndex
decreasing_by omega

def childIndices (s : Scene) (curIndex : Nat) : List (Nat × Nat) :=
  if curIndex * 2 + 1 < s.openListSize then
    [(curIndex * 2 + 1, s.openListSize), (curIndex * 2, s.openListSize)]
  else []

def siftDownIndices (s : Scene) (curIndex : Nat) (positive : 0 < curIndex) : List (Nat × Nat) :=
  if s.openListSize ≤ curIndex * 2 then []
  else s.childIndices curIndex ++ (curIndex, s.openListSize) ::
    (s.childIndex curIndex, s.openListSize) ::
    if (s.nodes (s.openList curIndex)).less (s.nodes (s.openList (s.childIndex curIndex))) then []
    else (s.swapOpenList curIndex (s.childIndex curIndex)).siftDownIndices
      (s.childIndex curIndex) (Nat.lt_trans positive (s.childIndex_gt positive))
termination_by s.openListSize - curIndex
decreasing_by
  have hs : (s.swapOpenList curIndex (s.childIndex curIndex)).openListSize = s.openListSize := rfl
  have := s.childIndex_gt positive
  omega

/-- `push_back` and the position it is recorded at. -/
def pushOpenList (s : Scene) (n : NodePtr) : Scene :=
  { s with
    openList := Function.update s.openList s.openListSize n
    openListSize := s.openListSize + 1 }.setOpenListPos n s.openListSize

/-- The last node in the place of the first. -/
def popOpenList (s : Scene) : Scene :=
  let s := s.setOpenListPos (s.openList 1) 0
  { s with
    openList := Function.update s.openList 1 (s.openList (s.openListSize - 1))
    openListSize := s.openListSize - 1 }

inductive OpenListOp where
  | insert (n : NodePtr)
  | deleteMin
  | resort (n : NodePtr)
  deriving DecidableEq

namespace OpenListOp

def run (s : Scene) : OpenListOp → Scene
  | insert n => s.insertOpenList n
  | deleteMin => s.deleteMinFScoreNodeInOpenList
  | resort n => s.resortOpenList n

def indices (s : Scene) : OpenListOp → List (Nat × Nat)
  | insert n => (s.pushOpenList n).siftUpIndices s.openListSize
  | deleteMin =>
    if s.isOpenListEmpty then []
    else (1, s.openListSize) :: (s.openListSize - 1, s.openListSize) ::
      s.popOpenList.siftDownIndices 1 Nat.one_pos
  | resort n => s.siftUpIndices (s.nodes n).openListPos

end OpenListOp

structure OpenListCall where
  before : Scene
  op : OpenListOp

namespace OpenListCall

def after (c : OpenListCall) : Scene := c.op.run c.before

def indices (c : OpenListCall) : List (Nat × Nat) := c.op.indices c.before

end OpenListCall

def considerNeighborCalls (s : Scene) (curNode neighbor : NodePtr) : List OpenListCall :=
  let isInOpenList := s.isInOpenList neighbor
  let isInCloseList := s.isInCloseList neighbor
  let gCal := (s.nodes curNode).g + (s.nodes curNode).neighbroGCost (s.nodes neighbor)
  if isInCloseList ∧ (s.nodes neighbor).g ≤ gCal then []
  else if isInOpenList = false ∨ gCal < (s.nodes neighbor).g then
    let s := s.modifyNode neighbor fun node => { node with parent := some curNode }
    let s := s.setCost neighbor gCal
    if isInOpenList = false then [⟨s, .insert neighbor⟩] else [⟨s, .resort neighbor⟩]
  else []

def considerAllCalls (s : Scene) (curNode : NodePtr) : List NodePtr → List OpenListCall
  | [] => []
  | neighbor :: rest => s.considerNeighborCalls curNode neighbor ++
      (s.considerNeighbor curNode neighbor).considerAllCalls curNode rest

def expandCalls (s : Scene) (curNode : NodePtr) : List OpenListCall :=
  let closed := s.deleteMinFScoreNodeInOpenList.insertCloseList curNode
  ⟨s, .deleteMin⟩ :: closed.considerAllCalls curNode (closed.getNeighborNodes curNode)

/-- The calls of the first `fuel` rounds. -/
def searchLoopCalls : Nat → Scene → List OpenListCall
  | 0, _ => []
  | fuel + 1, s =>
    match s.getMinFScoreNodeInOpenList with
    | none => []
    | some curNode =>
      if curNode = s.endNode then []
      else s.expandCalls curNode ++ searchLoopCalls fuel (s.expand curNode)

def beginSearchCall (s : Scene) (beginPos endPos : Position) : OpenListCall where
  before := (s.cleared beginPos endPos).setCost (s.getNode beginPos) 0
  op := .insert (s.getNode beginPos)

def searchPathCalls (fuel : Nat) (s : Scene) (beginPos endPos : Position) :
    List OpenListCall :=
  if s.inMap beginPos = false then []
  else if s.inMap endPos = false then []
  else s.beginSearchCall beginPos endPos :: searchLoopCalls fuel (s.beginSearch beginPos endPos)

/-! ## What a call should leave -/

structure OpenListSound (s : Scene) : Prop where
  recorded : ∀ k, 1 ≤ k → k < s.openListSize → (s.nodes (s.openList k)).openListPos = k
  listed : ∀ n, (s.nodes n).openListPos = 0 ↔
    ∀ k, 1 ≤ k → k < s.openListSize → s.openList k ≠ n
  distinct : ∀ j k, 1 ≤ j → j < s.openListSize → 1 ≤ k → k < s.openListSize →
    s.openList j = s.openList k → j = k
  ordered : ∀ k, 2 ≤ k → k < s.openListSize →
    (s.nodes (s.openList (k / 2))).f ≤ (s.nodes (s.openList k)).f

def OpenListCall.Sound (c : OpenListCall) : Prop :=
  c.after.OpenListSound ∧ ∀ access ∈ c.indices, access.1 < access.2

/-- The list holds one node, or the last node is not below one of the two that
will be under it at the root. -/
def LastSinks (s : Scene) : Prop :=
  s.openListSize = 2 ∨ ∃ i ∈ [2, 3], i < s.openListSize - 1 ∧
    (s.nodes (s.openList (s.openListSize - 1))).less (s.nodes (s.openList i)) = false

instance (s : Scene) : Decidable s.LastSinks := inferInstanceAs (Decidable (_ ∨ _))

theorem lastSinks_iff (s : Scene) :
    s.LastSinks ↔ s.heap.size = 2 ∨ s.heap.LastSinks s.fScore := by
  have hless : ∀ i, (s.nodes (s.openList (s.openListSize - 1))).less (s.nodes (s.openList i)) =
      false ↔ s.fScore (s.openList i) ≤ s.fScore (s.openList (s.openListSize - 1)) := by
    intro i
    rw [← Bool.not_eq_true, less_iff, not_lt]
    rfl
  simp only [LastSinks, hless]
  apply or_congr Iff.rfl
  constructor
  · rintro ⟨i, hi, hi', hkey⟩
    exact ⟨i, by simp at hi; omega, hi', hkey⟩
  · rintro ⟨i, hi, hi', hkey⟩
    exact ⟨i, by simp; omega, hi', hkey⟩

theorem openListSound_iff {s : Scene} (valid : IndexedHeap.Valid s.fScore s.heap) :
    s.OpenListSound ↔ s.heap.Recorded := by
  constructor
  · intro hs hsize
    exact hs.recorded 1 le_rfl hsize
  · intro hr
    constructor
    · intro k hk hk'
      have hheld := IndexedHeap.Placed.holds_slot (h := s.heap) hk hk'
      obtain ⟨hslot, hpos, hlt⟩ := valid.toPlaced.pos_of_holds hr hheld
      exact valid.inj ⟨hpos, hlt⟩ ⟨hk, hk'⟩ hslot
    · intro n
      have hlisted := not_congr (valid.listed n)
      rw [not_not] at hlisted
      refine hlisted.trans ?_
      simp only [IndexedHeap.Holds, not_exists, not_and]
      rfl
    · intro j k hj hj' hk hk' heq
      exact valid.inj ⟨hj, hj'⟩ ⟨hk, hk'⟩ heq
    · intro k hk hk'
      exact valid.edge k hk hk' (by omega)

/-! ## Indices -/

theorem siftUpIndices_le (s : Scene) (curIndex : Nat) (access : Nat × Nat)
    (h : access ∈ s.siftUpIndices curIndex) :
    access.1 ≤ curIndex ∧ access.2 = s.openListSize := by
  fun_induction siftUpIndices s curIndex with
  | case1 => simp at h
  | case2 s curIndex h0 ih =>
    rw [List.mem_cons, List.mem_cons] at h
    rcases h with rfl | rfl | h
    · exact ⟨Nat.div_le_self _ _, rfl⟩
    · exact ⟨le_rfl, rfl⟩
    split at h
    · simp at h
    · obtain ⟨hle, hsize⟩ := ih h
      exact ⟨hle.trans (Nat.div_le_self _ _), hsize⟩

theorem childIndex_lt (s : Scene) {curIndex : Nat} (h : ¬ s.openListSize ≤ curIndex * 2) :
    s.childIndex curIndex < s.openListSize := by
  rw [childIndex]
  split <;> omega

theorem childIndices_lt (s : Scene) (curIndex : Nat) (access : Nat × Nat)
    (h : access ∈ s.childIndices curIndex) : access.1 < access.2 := by
  rw [childIndices] at h
  split at h
  · simp only [List.mem_cons, List.not_mem_nil, or_false] at h
    rcases h with rfl | rfl
    · assumption
    · simp only
      omega
  · simp at h

theorem siftDownIndices_lt (s : Scene) (curIndex : Nat) (positive : 0 < curIndex)
    (access : Nat × Nat) (h : access ∈ s.siftDownIndices curIndex positive) :
    access.1 < access.2 := by
  fun_induction siftDownIndices s curIndex positive with
  | case1 => simp at h
  | case2 s curIndex positive hend ih =>
    rw [List.mem_append, List.mem_cons, List.mem_cons] at h
    rcases h with h | rfl | rfl | h
    · exact s.childIndices_lt curIndex access h
    · simp only
      omega
    · exact s.childIndex_lt hend
    split at h
    · simp at h
    · exact ih h

/-! ## One call -/

namespace OpenListCall

/-- What a search brings to each of its calls. -/
inductive Ready : OpenListCall → Prop
  | insert {s : Scene} {n : NodePtr} (valid : IndexedHeap.Valid s.fScore s.heap)
      (fresh : s.heap.pos n = 0) : Ready ⟨s, .insert n⟩
  | deleteMin {s : Scene} (valid : IndexedHeap.Valid s.fScore s.heap)
      (nonempty : 1 < s.openListSize) : Ready ⟨s, .deleteMin⟩
  | resort {s : Scene} {n : NodePtr} {key : NodePtr → Int}
      (valid : IndexedHeap.Valid key s.heap) (held : s.heap.Holds n)
      (same : ∀ m, m ≠ n → s.fScore m = key m) (lower : s.fScore n ≤ key n) :
      Ready ⟨s, .resort n⟩

variable {c : OpenListCall}

theorem Ready.after_valid (hc : c.Ready) :
    IndexedHeap.Valid c.after.fScore c.after.heap := by
  cases hc with
  | insert valid fresh =>
    simp only [after, OpenListOp.run, insertOpenList_eq]
    exact valid.insert fresh
  | deleteMin valid nonempty =>
    simp only [after, OpenListOp.run, deleteMinFScoreNodeInOpenList_eq _ nonempty]
    exact valid.deleteMin nonempty
  | resort valid held same lower =>
    simp only [after, OpenListOp.run, resortOpenList_eq]
    exact (valid.resort held same lower).1

/-- Where the list was in order before, a call leaves it in order unless it deletes
from a list whose last node does not sink. -/
theorem Ready.sound_iff (hc : c.Ready) (hr : c.before.heap.Recorded) :
    c.Sound ↔ (c.op = .deleteMin → c.before.LastSinks) := by
  rw [Sound, openListSound_iff hc.after_valid]
  cases hc with
  | @insert s n valid fresh =>
    have hrec : (after ⟨s, .insert n⟩).heap.Recorded := by
      simp only [after, OpenListOp.run, insertOpenList_eq]
      exact valid.toPlaced.insert_recorded hr fresh
    refine iff_of_true ⟨hrec, ?_⟩ (by simp)
    intro access ha
    obtain ⟨hle, hsize⟩ := (s.pushOpenList n).siftUpIndices_le s.openListSize access ha
    have hpush : (s.pushOpenList n).openListSize = s.openListSize + 1 := rfl
    omega
  | @deleteMin s valid nonempty =>
    have hne : s.isOpenListEmpty = false := by simpa [isOpenListEmpty] using nonempty
    have hin : ∀ access ∈ indices ⟨s, .deleteMin⟩, access.1 < access.2 := by
      intro access ha
      simp only [indices, OpenListOp.indices, hne, Bool.false_eq_true, if_false,
        List.mem_cons] at ha
      rcases ha with rfl | rfl | ha
      · exact nonempty
      · simp only
        omega
      · exact siftDownIndices_lt _ _ _ access ha
    simp only [after, OpenListOp.run, deleteMinFScoreNodeInOpenList_eq s nonempty,
      heap_withHeap, forall_const]
    rw [lastSinks_iff, ← valid.deleteMin_recorded_iff nonempty]
    exact and_iff_left hin
  | @resort s n key valid held same lower =>
    have hrec : (after ⟨s, .resort n⟩).heap.Recorded := by
      simp only [after, OpenListOp.run, resortOpenList_eq]
      exact valid.toPlaced.resort_recorded hr held
    refine iff_of_true ⟨hrec, ?_⟩ (by simp)
    intro access ha
    obtain ⟨hle, hsize⟩ := s.siftUpIndices_le (s.heap.pos n) access ha
    have hlt : s.heap.pos n < s.openListSize := (valid.toPlaced.pos_of_holds hr held).2.2
    omega

end OpenListCall

/-! ## All the calls of a search -/

/-- Calls each of which finds the open list as the one before left it. -/
inductive CallRun : IndexedHeap NodePtr → List OpenListCall → IndexedHeap NodePtr → Prop
  | nil {h : IndexedHeap NodePtr} : CallRun h [] h
  | cons {c : OpenListCall} {rest : List OpenListCall} {h : IndexedHeap NodePtr}
      (ready : c.Ready) (tail : CallRun c.after.heap rest h) :
      CallRun c.before.heap (c :: rest) h

namespace CallRun

variable {h h' h'' : IndexedHeap NodePtr} {calls more : List OpenListCall}

theorem append (first : CallRun h calls h') (second : CallRun h' more h'') :
    CallRun h (calls ++ more) h'' := by
  induction first with
  | nil => exact second
  | cons ready _ ih => exact .cons ready (ih second)

theorem sound_iff (run : CallRun h calls h') (hr : h.Recorded) :
    (∀ c ∈ calls, c.Sound) ↔ ∀ c ∈ calls, c.op = .deleteMin → c.before.LastSinks := by
  induction run with
  | nil => simp
  | cons ready _ ih =>
    rw [List.forall_mem_cons, List.forall_mem_cons, ready.sound_iff hr]
    apply and_congr_right
    intro hsinks
    have hsound := (ready.sound_iff hr).mpr hsinks
    exact ih ((openListSound_iff ready.after_valid).mp hsound.1)

end CallRun

namespace Searching

variable {s₀ s : Scene}

theorem considerNeighbor_calls (hs : Searching s₀ s) (u v : NodePtr) :
    CallRun s.heap (s.considerNeighborCalls u v) (s.considerNeighbor u v).heap := by
  have hopen : s.isInOpenList v = true ↔ s.tree.opened v := by simp [isInOpenList, tree]
  rw [considerNeighborCalls, Scene.considerNeighbor]
  simp only
  split
  · exact .nil
  split
  · rename_i hrelax
    have hheap := s.reprice_heap u v
      ((s.nodes u).g + (s.nodes u).neighbroGCost (s.nodes v))
    by_cases ho : s.tree.opened v
    · have hin : s.isInOpenList v = true := hopen.mpr ho
      have hlow := hrelax.resolve_left (by simp [hin])
      obtain ⟨hheld, hsame, hlower⟩ := hs.resort_ready u hlow ho
      have hvalid := hs.heap
      simp only [hin, Bool.true_eq_false, if_false]
      rw [← hheap] at hvalid hheld ⊢
      exact .cons (.resort hvalid hheld hsame hlower) .nil
    · have hout : s.isInOpenList v = false := by
        rw [← Bool.not_eq_true, hopen]
        exact ho
      obtain ⟨hvalid, hfree⟩ := hs.insert_ready u
        ((s.nodes u).g + (s.nodes u).neighbroGCost (s.nodes v)) ho
      simp only [hout, if_true]
      rw [← hheap] at hvalid hfree ⊢
      exact .cons (.insert hvalid hfree) .nil
  · exact .nil

theorem considerAll_calls (hs : Searching s₀ s) {u : NodePtr} (hu : s.tree.Reached u)
    (vs : List NodePtr) (hadj : ∀ v ∈ vs, s₀.Adj u v) :
    CallRun s.heap (s.considerAllCalls u vs)
      (vs.foldl (fun s v => s.considerNeighbor u v) s).heap := by
  induction vs generalizing s with
  | nil => exact .nil
  | cons v rest ih =>
    obtain ⟨hstep, hnext⟩ := hs.considerNeighbor hu (hadj v List.mem_cons_self)
    exact (hs.considerNeighbor_calls u v).append
      (ih hnext ((hstep.considers (s₀.gCost_pos u v)).mono hu)
        (fun w hw => hadj w (List.mem_cons_of_mem v hw)))

theorem expand_calls (laid : s₀.Laid) (hs : Searching s₀ s) (nonempty : 1 < s.openListSize) :
    CallRun s.heap (s.expandCalls (s.openList 1)) (s.expand (s.openList 1)).heap := by
  obtain ⟨htree, hnext⟩ := hs.close nonempty
  have hcell := hs.cell _ (Or.inl (hs.min_opened nonempty))
  refine .cons (c := ⟨s, .deleteMin⟩) (.deleteMin hs.heap nonempty) ?_
  have hclosed := insertCloseList_heap s.deleteMinFScoreNodeInOpenList (s.openList 1)
  simp only [OpenListCall.after, OpenListOp.run]
  rw [← hclosed]
  apply hnext.considerAll_calls
  · rw [htree]
    exact Or.inr (Or.inl rfl)
  · intro v hv
    rw [getNeighborNodes_congr hnext.terrain] at hv
    exact (mem_getNeighborNodes laid hcell v).mp hv

end Searching

theorem AtHead.searchLoop_calls {s₀ s : Scene} (laid : s₀.Laid) (hs : AtHead s₀ s)
    (fuel : Nat) : ∃ h, CallRun s.heap (searchLoopCalls fuel s) h := by
  induction fuel generalizing s with
  | zero => exact ⟨_, .nil⟩
  | succ fuel ih =>
    rcases s.getMin_cases with ⟨_, hmin⟩ | ⟨hsize, hmin⟩
    · simp only [searchLoopCalls, hmin]
      exact ⟨_, .nil⟩
    simp only [searchLoopCalls, hmin]
    split
    · exact ⟨_, .nil⟩
    · rename_i hend
      obtain ⟨h, hrest⟩ := ih (hs.expand laid hsize (by rwa [← hs.endNode_eq]))
      exact ⟨h, (hs.expand_calls laid hsize).append hrest⟩

/-- Every call of a search leaves the open list sound, within its bounds, exactly when
every node moved to the root sinks from it. -/
theorem searchPathCalls_sound_iff (s : Scene) (laid : s.Laid) (beginPos endPos : Position)
    (fuel : Nat) :
    (∀ c ∈ s.searchPathCalls fuel beginPos endPos, c.Sound) ↔
      ∀ c ∈ s.searchPathCalls fuel beginPos endPos,
        c.op = .deleteMin → c.before.LastSinks := by
  rw [searchPathCalls]
  split
  · simp
  split
  · simp
  rename_i hb he
  rw [Bool.not_eq_false] at hb
  have hcleared := setCost_heap (s.cleared beginPos endPos) (s.getNode beginPos) 0
  have hvalid := s.cleared_heap beginPos endPos
    ((s.cleared beginPos endPos).setCost (s.getNode beginPos) 0).fScore
  have hat : AtHead (s.beginSearch beginPos endPos) _ := beginSearch_atHead hb
  obtain ⟨h, hrest⟩ := hat.searchLoop_calls (beginSearch_laid laid beginPos endPos) fuel
  have hrun : CallRun (s.beginSearchCall beginPos endPos).before.heap
      (s.beginSearchCall beginPos endPos :: searchLoopCalls fuel (s.beginSearch beginPos endPos))
      h := by
    refine .cons (.insert ?_ ?_) hrest
    · rw [hcleared]
      exact hvalid
    · rw [hcleared]
      rfl
  apply hrun.sound_iff
  have hsize : (s.beginSearchCall beginPos endPos).before.heap.size = 1 := rfl
  intro hone
  omega

/-- Four columns and three rows, all but five cells blocked. -/
def pocket : Scene :=
  walled.allocate 3 4 fun i => if i ∈ [0, 3, 4, 5, 8] then '0' else '1'

theorem pocket_laid : pocket.Laid := allocate_laid _ _ _ _

/-- From a corner of `pocket` a node is resorted at an index the list no longer has. -/
theorem searchPathCalls_pocket : ¬ ∀ s : Scene, s.Laid → ∀ beginPos endPos fuel,
    ∀ c ∈ s.searchPathCalls fuel beginPos endPos, c.Sound := by
  intro hall
  have hout : ∃ c ∈ pocket.searchPathCalls 4 ⟨0, 0⟩ ⟨3, 0⟩,
      ∃ access ∈ c.indices, access.2 ≤ access.1 := by
    decide +kernel
  obtain ⟨c, hc, access, ha, hle⟩ := hout
  have hlt := (hall pocket pocket_laid ⟨0, 0⟩ ⟨3, 0⟩ 4 c hc).2 access ha
  omega

/-- Three rows of five columns, nothing blocked. -/
def openRows : Scene :=
  walled.allocate 3 5 fun _ => '0'

/-- Along the middle of `openRows` three nodes are removed with others in the list. -/
theorem searchPathCalls_sound_openRows :
    (∀ c ∈ openRows.searchPathCalls 20 ⟨0, 1⟩ ⟨4, 1⟩, c.Sound) ∧
      (openRows.searchPathCalls 20 ⟨0, 1⟩ ⟨4, 1⟩).countP
        (fun c => c.op = .deleteMin ∧ 2 < c.before.openListSize) = 3 := by
  constructor
  · have hsinks : ∀ c ∈ openRows.searchPathCalls 20 ⟨0, 1⟩ ⟨4, 1⟩,
        c.op = .deleteMin → c.before.LastSinks := by
      decide +kernel
    exact (searchPathCalls_sound_iff openRows (allocate_laid _ _ _ _) ⟨0, 1⟩ ⟨4, 1⟩ 20).mpr hsinks
  · decide +kernel

end Scene

end Mysya
