import Mathlib.Data.Nat.Sqrt
import Mathlib.Logic.Function.Basic

/-!
# Path search over a scene

`Scene::SearchPath` of the combat server and the open list under it. A `Node *`
is its offset in `nodes_`. The open list is a vector read one past its end, so
it is its slots and a size; slot 0, which holds `NULL`, is never read. The
search loop and the walk back along parents carry fuel.
-/

namespace Mysya

structure Position where
  x : Int
  y : Int
  deriving DecidableEq, Repr

abbrev NodePtr := Nat

structure Node where
  pos : Position
  walkable : Bool
  f : Int
  g : Int
  openListPos : Nat
  closeListPos : Nat
  parent : Option NodePtr
  deriving Repr

namespace Node

/-- `operator <`. -/
def less (node other : Node) : Bool := decide (node.f < other.f)

def neighbroGCost (node other : Node) : Int :=
  if node.pos.x = other.pos.x ∨ node.pos.y = other.pos.y then 10 else 14

/-- `(int)(sqrt(dx * dx + dy * dy) * 10)`. -/
def heursiticConstEstimate (node other : Node) : Int :=
  let dx := node.pos.x - other.pos.x
  let dy := node.pos.y - other.pos.y
  Nat.sqrt ((dx * dx + dy * dy).toNat * 100)

end Node

structure Scene where
  height : Int
  width : Int
  nodes : NodePtr → Node
  startNode : NodePtr
  endNode : NodePtr
  openList : Nat → NodePtr
  openListSize : Nat

namespace Scene

/-- The nodes `Allocate` pushes, row by row; the rest of a node is left as it was. -/
def allocate (s : Scene) (height width : Int) (blocks : Nat → Char) : Scene :=
  { s with
    height := height
    width := width
    nodes := fun n => { s.nodes n with
      pos := ⟨n % width, n / width⟩
      walkable := blocks n == '0' } }

def modifyNode (s : Scene) (n : NodePtr) (change : Node → Node) : Scene :=
  { s with nodes := Function.update s.nodes n (change (s.nodes n)) }

def getNode (s : Scene) (pos : Position) : NodePtr := (pos.y * s.width + pos.x).toNat

/-- The values of `for (int i = first; i <= last; ++i)`. -/
def loopRange (first last : Int) : List Int :=
  (List.range (last - first + 1).toNat).map fun (i : Nat) => first + i

/-- `std::max`. -/
def stdMax (a b : Int) : Int := if a < b then b else a

/-- `std::min`. -/
def stdMin (a b : Int) : Int := if b < a then b else a

def getNeighborNodes (s : Scene) (n : NodePtr) : List NodePtr :=
  let pos := (s.nodes n).pos
  let startX := stdMax (pos.x - 1) 0
  let endX := stdMin (pos.x + 1) (s.width - 1)
  let startY := stdMax (pos.y - 1) 0
  let endY := stdMin (pos.y + 1) (s.height - 1)
  (loopRange startY endY).flatMap fun y =>
    (loopRange startX endX).filterMap fun x =>
      if x ≠ pos.x ∨ y ≠ pos.y then
        let neighbor := s.getNode ⟨x, y⟩
        if (s.nodes neighbor).walkable then some neighbor else none
      else none

/-! ## The open list -/

def isInOpenList (s : Scene) (n : NodePtr) : Bool := (s.nodes n).openListPos ≠ 0

def isOpenListEmpty (s : Scene) : Bool := s.openListSize ≤ 1

/-- `node->open_list_pos_ = pos`. -/
def setOpenListPos (s : Scene) (n : NodePtr) (pos : Nat) : Scene :=
  s.modifyNode n fun node => { node with openListPos := pos }

/-- Two recorded positions and a `std::swap` of the slots. -/
def swapOpenList (s : Scene) (parentIndex curIndex : Nat) : Scene :=
  let s := s.setOpenListPos (s.openList parentIndex) curIndex
  let s := s.setOpenListPos (s.openList curIndex) parentIndex
  { s with
    openList := Function.update (Function.update s.openList parentIndex (s.openList curIndex))
      curIndex (s.openList parentIndex) }

/-- The loop `InsertOpenList` and `ResortOpenList` share. -/
def siftUpOpenList (s : Scene) (curIndex : Nat) : Scene :=
  if curIndex / 2 = 0 then s
  else if (s.nodes (s.openList (curIndex / 2))).less (s.nodes (s.openList curIndex)) then s
  else (s.swapOpenList (curIndex / 2) curIndex).siftUpOpenList (curIndex / 2)
termination_by curIndex
decreasing_by omega

def insertOpenList (s : Scene) (n : NodePtr) : Scene :=
  let curIndex := s.openListSize
  let s := { s with
    openList := Function.update s.openList curIndex n
    openListSize := curIndex + 1 }
  (s.setOpenListPos n curIndex).siftUpOpenList curIndex

def resortOpenList (s : Scene) (n : NodePtr) : Scene :=
  s.siftUpOpenList (s.nodes n).openListPos

def getMinFScoreNodeInOpenList (s : Scene) : Option NodePtr :=
  if s.isOpenListEmpty then none else some (s.openList 1)

/-- The child `DeleteMinFScoreNodeInOpenList` compares with. -/
def childIndex (s : Scene) (curIndex : Nat) : Nat :=
  if curIndex * 2 + 1 < s.openListSize ∧
      (s.nodes (s.openList (curIndex * 2 + 1))).less (s.nodes (s.openList (curIndex * 2))) then
    curIndex * 2 + 1
  else curIndex * 2

theorem childIndex_gt (s : Scene) {curIndex : Nat} (positive : 0 < curIndex) :
    curIndex < s.childIndex curIndex := by
  rw [childIndex]
  split <;> omega

def siftDownOpenList (s : Scene) (curIndex : Nat) (positive : 0 < curIndex) : Scene :=
  if s.openListSize ≤ curIndex * 2 then s
  else if (s.nodes (s.openList curIndex)).less (s.nodes (s.openList (s.childIndex curIndex))) then
    s
  else (s.swapOpenList curIndex (s.childIndex curIndex)).siftDownOpenList (s.childIndex curIndex)
    (Nat.lt_trans positive (s.childIndex_gt positive))
termination_by s.openListSize - curIndex
decreasing_by
  have hs : (s.swapOpenList curIndex (s.childIndex curIndex)).openListSize = s.openListSize := rfl
  have := s.childIndex_gt positive
  omega

def deleteMinFScoreNodeInOpenList (s : Scene) : Scene :=
  if s.isOpenListEmpty then s
  else
    let s := s.setOpenListPos (s.openList 1) 0
    let s := { s with
      openList := Function.update s.openList 1 (s.openList (s.openListSize - 1))
      openListSize := s.openListSize - 1 }
    s.siftDownOpenList 1 Nat.one_pos

def isInCloseList (s : Scene) (n : NodePtr) : Bool := (s.nodes n).closeListPos ≠ 0

def insertCloseList (s : Scene) (n : NodePtr) : Scene :=
  s.modifyNode n fun node => { node with closeListPos := 1 }

/-! ## The search -/

/-- The pushes of `ConstructResultPath`, before its `std::reverse`. -/
def walkParents (s : Scene) : Nat → Option NodePtr → List Position → Option (List Position)
  | 0, _, _ => none
  | _ + 1, none, result => some result
  | fuel + 1, some n, result =>
    if n = s.startNode then some result
    else s.walkParents fuel (s.nodes n).parent (result ++ [(s.nodes n).pos])

def constructResultPath (s : Scene) (fuel : Nat) (result : List Position) :
    Option (List Position) :=
  (s.walkParents fuel (some s.endNode) result).map List.reverse

/-- The new parent and costs of a neighbour. -/
def setCost (s : Scene) (n : NodePtr) (g : Int) : Scene :=
  s.modifyNode n fun node =>
    { node with g := g, f := g + node.heursiticConstEstimate (s.nodes s.endNode) }

def considerNeighbor (s : Scene) (curNode neighbor : NodePtr) : Scene :=
  let isInOpenList := s.isInOpenList neighbor
  let isInCloseList := s.isInCloseList neighbor
  let gCal := (s.nodes curNode).g + (s.nodes curNode).neighbroGCost (s.nodes neighbor)
  if isInCloseList ∧ (s.nodes neighbor).g ≤ gCal then s
  else if isInOpenList = false ∨ gCal < (s.nodes neighbor).g then
    let s := s.modifyNode neighbor fun node => { node with parent := some curNode }
    let s := s.setCost neighbor gCal
    if isInOpenList = false then s.insertOpenList neighbor else s.resortOpenList neighbor
  else s

/-- One round of the loop, for a node that is not the end. -/
def expand (s : Scene) (curNode : NodePtr) : Scene :=
  let s := s.deleteMinFScoreNodeInOpenList.insertCloseList curNode
  (s.getNeighborNodes curNode).foldl (fun s neighbor => s.considerNeighbor curNode neighbor) s

def searchLoop : Nat → Scene → List Position → Option (Scene × List Position)
  | 0, _, _ => none
  | fuel + 1, s, paths =>
    match s.getMinFScoreNodeInOpenList with
    | none => some (s, paths)
    | some curNode =>
      if curNode = s.endNode then (s.constructResultPath fuel paths).map fun p => (s, p)
      else searchLoop fuel (s.expand curNode) paths

def resetNodes (s : Scene) : Scene :=
  { s with nodes := fun n => { s.nodes n with
      f := 0, g := 0, openListPos := 0, closeListPos := 0, parent := none } }

/-- The state `SearchPath` enters its loop in. -/
def beginSearch (s : Scene) (beginPos endPos : Position) : Scene :=
  let s := s.resetNodes
  let s := { s with
    startNode := s.getNode beginPos
    endNode := s.getNode endPos
    openListSize := 1 }
  (s.setCost s.startNode 0).insertOpenList s.startNode

def inMap (s : Scene) (pos : Position) : Bool :=
  0 ≤ pos.x ∧ pos.x < s.width ∧ 0 ≤ pos.y ∧ pos.y < s.height

def searchPath (fuel : Nat) (s : Scene) (beginPos endPos : Position) (paths : List Position) :
    Option (Scene × List Position) :=
  if s.inMap beginPos = false then some (s, paths)
  else if s.inMap endPos = false then some (s, paths)
  else searchLoop fuel (s.beginSearch beginPos endPos) paths

end Scene

end Mysya
