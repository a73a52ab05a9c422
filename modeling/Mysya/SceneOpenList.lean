import Mysya.IndexedHeap
import Mysya.Scene

/-!
# The open list is an indexed heap

The slots of the open list together with the positions the nodes record, seen
as an `IndexedHeap` ordered by `f_`. Each operation of `Scene` on the open list
is the heap's operation on that view and leaves the rest of the scene alone.
-/

namespace Mysya

namespace Scene

/-- The open list and the positions its nodes record, as a heap. -/
def heap (s : Scene) : IndexedHeap NodePtr where
  slot := s.openList
  size := s.openListSize
  pos := fun n => (s.nodes n).openListPos

/-- The scene whose open list and recorded positions are those of the heap. -/
def withHeap (s : Scene) (h : IndexedHeap NodePtr) : Scene :=
  { s with
    openList := h.slot
    openListSize := h.size
    nodes := fun n => { s.nodes n with openListPos := h.pos n } }

/-- What the open list is ordered by: `f_`. -/
def fScore (s : Scene) (n : NodePtr) : Int := (s.nodes n).f

section View

variable (s : Scene) (h h' : IndexedHeap NodePtr)

@[simp] theorem heap_withHeap : (s.withHeap h).heap = h := rfl

@[simp] theorem withHeap_heap : s.withHeap s.heap = s := rfl

@[simp] theorem withHeap_withHeap : (s.withHeap h).withHeap h' = s.withHeap h' := rfl

@[simp] theorem fScore_withHeap : (s.withHeap h).fScore = s.fScore := rfl

end View

theorem less_iff (s : Scene) (i j : Nat) :
    (s.nodes (s.openList i)).less (s.nodes (s.openList j)) = true ↔
      s.fScore (s.heap.slot i) < s.fScore (s.heap.slot j) := by
  simp [Node.less, fScore, heap]

theorem setOpenListPos_eq (s : Scene) (n : NodePtr) (pos : Nat) :
    s.setOpenListPos n pos =
      s.withHeap { s.heap with pos := Function.update s.heap.pos n pos } := by
  simp only [setOpenListPos, modifyNode, withHeap, heap]
  congr 1
  funext m
  by_cases hm : m = n
  · subst hm
    simp
  · simp [hm]

/-- The exchange of a parent with a child, the two recorded positions included. -/
theorem swapOpenList_eq (s : Scene) (p c : Nat) :
    s.swapOpenList p c = s.withHeap (s.heap.swap p c) := by
  rw [swapOpenList, setOpenListPos_eq, setOpenListPos_eq]
  rfl

theorem siftUpOpenList_eq (s : Scene) (cur : Nat) :
    s.siftUpOpenList cur = s.withHeap (s.heap.siftUp s.fScore cur) := by
  fun_induction siftUpOpenList s cur with
  | case1 s cur h0 =>
    rw [IndexedHeap.siftUp]
    simp [h0]
  | case2 s cur h0 hlow =>
    rw [less_iff] at hlow
    rw [IndexedHeap.siftUp]
    simp [hlow]
  | case3 s cur h0 hlow ih =>
    rw [less_iff] at hlow
    rw [ih, IndexedHeap.siftUp_step h0 hlow, swapOpenList_eq]
    rfl

/-- Of two children with one `f_` both take the left. -/
theorem childIndex_eq (s : Scene) (cur : Nat) :
    s.childIndex cur = s.heap.smallerChild s.fScore cur := by
  rw [childIndex, IndexedHeap.smallerChild]
  simp only [less_iff]
  rfl

theorem siftDownOpenList_eq (s : Scene) (cur : Nat) (positive : 0 < cur) :
    s.siftDownOpenList cur positive =
      s.withHeap (s.heap.siftDown s.fScore cur positive) := by
  fun_induction siftDownOpenList s cur positive with
  | case1 s cur positive hend =>
    rw [IndexedHeap.siftDown]
    have hend' : s.heap.size ≤ cur * 2 := hend
    simp [hend']
  | case2 s cur positive hend hlow =>
    rw [less_iff, childIndex_eq] at hlow
    rw [IndexedHeap.siftDown]
    simp [hlow]
  | case3 s cur positive hend hlow ih =>
    have hend' : ¬ s.heap.size ≤ cur * 2 := hend
    rw [less_iff, childIndex_eq] at hlow
    rw [ih, IndexedHeap.siftDown_step hend' hlow]
    simp only [swapOpenList_eq, childIndex_eq]
    rfl

theorem insertOpenList_eq (s : Scene) (n : NodePtr) :
    s.insertOpenList n = s.withHeap (s.heap.insert s.fScore n) := by
  rw [insertOpenList, setOpenListPos_eq, siftUpOpenList_eq]
  rfl

theorem resortOpenList_eq (s : Scene) (n : NodePtr) :
    s.resortOpenList n = s.withHeap (s.heap.resort s.fScore n) :=
  siftUpOpenList_eq s _

/-- On an empty open list the source returns at once; the heap has no such test. -/
theorem deleteMinFScoreNodeInOpenList_eq (s : Scene) (nonempty : 1 < s.openListSize) :
    s.deleteMinFScoreNodeInOpenList = s.withHeap (s.heap.deleteMin s.fScore) := by
  have hne : s.isOpenListEmpty = false := by simpa [isOpenListEmpty] using nonempty
  rw [deleteMinFScoreNodeInOpenList, hne, setOpenListPos_eq, siftDownOpenList_eq]
  rfl

end Scene

end Mysya
