import Mysya.SceneSteps
import Mysya.SpatialIndex

/-!
# The grids of a scene

The grids of a running scene index its warriors and its buildings: each is in the grid at its
position, and the grids hold nothing else.
-/

open Std OwnedTimers SpatialIndex

namespace Mysya

open CombatManagers

/-! ## One scene -/

namespace BattleScene

variable {s s' : BattleScene} {P : Int → Position} {Q : Int → Option Position} {e : Entity}

/-- The grids are an index of the warriors at `P` and of the buildings at `Q`. -/
structure Indexed (s : BattleScene) (P : Int → Position) (Q : Int → Option Position) : Prop where
  warriors : Charted (fun id : Int => s.warriors[id]?) (fun id => s.getGrid (P id))
    fun i w => w ∈ (s.grids i).warriors
  buildings : Charted (fun id : Int => s.buildings[id]?) (fun id => (Q id).bind s.getGrid)
    fun i b => b ∈ (s.grids i).buildings

theorem setGrid_grids (s : BattleScene) (i j : Nat) (grid : Grid) :
    (s.setGrid i grid).grids j = if j = i then grid else s.grids j :=
  Function.update_apply s.grids i grid j

theorem entry_insert {t : ExtTreeMap Int Ptr} (id id' : Int) (x : Ptr) :
    (t.insert id x)[id']? = if id' = id then some x else t[id']? := by
  rw [ExtTreeMap.getElem?_insert]
  by_cases heq : id' = id
  · rw [if_pos heq, if_pos (Std.compare_eq_iff_eq.mpr heq.symm)]
  · rw [if_neg heq, if_neg fun hcompare => heq (Std.compare_eq_iff_eq.mp hcompare).symm]

theorem entry_erase {t : ExtTreeMap Int Ptr} (id id' : Int) :
    (t.erase id)[id']? = if id' = id then none else t[id']? := by
  rw [ExtTreeMap.getElem?_erase]
  by_cases heq : id' = id
  · rw [if_pos heq, if_pos (Std.compare_eq_iff_eq.mpr heq.symm)]
  · rw [if_neg heq, if_neg fun hcompare => heq (Std.compare_eq_iff_eq.mp hcompare).symm]

theorem mem_insert_iff {t : ExtTreeSet Ptr} {x y : Ptr} : y ∈ t.insert x ↔ y = x ∨ y ∈ t := by
  rw [ExtTreeSet.mem_insert, Std.compare_eq_iff_eq, eq_comm]

theorem mem_erase_iff {t : ExtTreeSet Ptr} {x y : Ptr} : y ∈ t.erase x ↔ y ∈ t ∧ y ≠ x := by
  rw [ExtTreeSet.mem_erase, ne_eq, Std.compare_eq_iff_eq]
  constructor
  · rintro ⟨hne, hin⟩
    exact ⟨hin, fun heq => hne heq.symm⟩
  · rintro ⟨hin, hne⟩
    exact ⟨fun heq => hne heq.symm, hin⟩

/-! ### Adding -/

theorem addWarrior_some (h : s.addWarrior e = some s') :
    s.warriors[e.id]? = none ∧ ∃ i, s.getGrid e.pos = some i ∧
      s' = { s.setGrid i { s.grids i with warriors := (s.grids i).warriors.insert e.ptr } with
        warriors := s.warriors.insert e.id e.ptr } := by
  rw [addWarrior] at h
  split at h
  · cases h
  · rename_i hid
    have hfree : s.warriors[e.id]? = none := by
      rw [← Option.not_isSome_iff_eq_none, ← ExtTreeMap.contains_eq_isSome_getElem?]
      exact hid
    split at h
    · cases h
    · rename_i i hi
      split at h
      · cases h
      · rename_i grid hgrid
        rw [Grid.addWarrior] at hgrid
        split at hgrid
        · cases hgrid
        · cases hgrid
          cases h
          exact ⟨hfree, i, hi, rfl⟩

theorem addBuilding_some (h : s.addBuilding e = some s') :
    s.buildings[e.id]? = none ∧ ∃ i, s.getGrid e.pos = some i ∧
      s' = { s.setGrid i { s.grids i with buildings := (s.grids i).buildings.insert e.ptr } with
        buildings := s.buildings.insert e.id e.ptr } := by
  rw [addBuilding] at h
  split at h
  · cases h
  · rename_i hid
    have hfree : s.buildings[e.id]? = none := by
      rw [← Option.not_isSome_iff_eq_none, ← ExtTreeMap.contains_eq_isSome_getElem?]
      exact hid
    split at h
    · cases h
    · rename_i i hi
      split at h
      · cases h
      · rename_i grid hgrid
        rw [Grid.addBuilding] at hgrid
        split at hgrid
        · cases hgrid
        · cases hgrid
          cases h
          exact ⟨hfree, i, hi, rfl⟩

theorem Indexed.addWarrior (h : s.Indexed P Q) (hadd : s.addWarrior e = some s')
    (hnew : ∀ id : Int, s.warriors[id]? ≠ some e.ptr) (hpos : P e.id = e.pos) :
    s'.Indexed P Q := by
  obtain ⟨hfree, i, hi, rfl⟩ := addWarrior_some hadd
  constructor
  · refine h.warriors.add (k := e.id) (x := e.ptr) (i := i) hfree hnew ?_
      (fun id => entry_insert e.id id e.ptr) fun j w => ?_
    · show s.getGrid (P e.id) = some i
      rw [hpos, hi]
    · show w ∈ ((s.setGrid i _).grids j).warriors ↔ _
      rw [setGrid_grids]
      split
      · rename_i heq
        show w ∈ (s.grids i).warriors.insert e.ptr ↔ _
        rw [mem_insert_iff, heq]
        simp
      · rename_i hne
        simp [hne]
  · refine h.buildings.congr (fun _ => rfl) (fun _ _ _ => rfl) fun j b => ?_
    show b ∈ ((s.setGrid i _).grids j).buildings ↔ _
    rw [setGrid_grids]
    split
    · rename_i heq
      rw [heq]
    · rfl

theorem Indexed.addBuilding (h : s.Indexed P Q) (hadd : s.addBuilding e = some s')
    (hnew : ∀ id : Int, s.buildings[id]? ≠ some e.ptr) (hpos : Q e.id = some e.pos) :
    s'.Indexed P Q := by
  obtain ⟨hfree, i, hi, rfl⟩ := addBuilding_some hadd
  constructor
  · refine h.warriors.congr (fun _ => rfl) (fun _ _ _ => rfl) fun j w => ?_
    show w ∈ ((s.setGrid i _).grids j).warriors ↔ _
    rw [setGrid_grids]
    split
    · rename_i heq
      rw [heq]
    · rfl
  · refine h.buildings.add (k := e.id) (x := e.ptr) (i := i) hfree hnew ?_
      (fun id => entry_insert e.id id e.ptr) fun j b => ?_
    · show (Q e.id).bind s.getGrid = some i
      rw [hpos]
      exact hi
    · show b ∈ ((s.setGrid i _).grids j).buildings ↔ _
      rw [setGrid_grids]
      split
      · rename_i heq
        show b ∈ (s.grids i).buildings.insert e.ptr ↔ _
        rw [mem_insert_iff, heq]
        simp
      · rename_i hne
        simp [hne]

/-! ### Removing and moving -/

theorem Indexed.removeWarrior (h : s.Indexed P Q) (hw : s.warriors[e.id]? = some e.ptr)
    (hpos : P e.id = e.pos) : (s.removeWarrior e).Indexed P Q ∧
      (∀ id : Int, (s.removeWarrior e).warriors[id]? = if id = e.id then none else s.warriors[id]?) ∧
      (s.removeWarrior e).buildings = s.buildings ∧ (s.removeWarrior e).host = s.host := by
  obtain ⟨i, hi⟩ := Option.isSome_iff_exists.mp (h.warriors.placed e.id e.ptr hw)
  have hi : s.getGrid e.pos = some i := hpos ▸ hi
  rw [BattleScene.removeWarrior, hi]
  refine ⟨⟨?_, ?_⟩, fun id => entry_erase e.id id, rfl, rfl⟩
  · refine h.warriors.remove (k := e.id) (x := e.ptr) hw (fun id => entry_erase e.id id)
      fun j w => ?_
    show w ∈ ((s.setGrid i _).grids j).warriors ↔ _
    rw [setGrid_grids]
    split
    · rename_i heq
      rw [heq]
      exact mem_erase_iff
    · rename_i hne
      constructor
      · intro hin
        refine ⟨hin, ?_⟩
        rintro rfl
        have hj : s.getGrid (P e.id) = some j := (h.warriors.holds_registered hw).mp hin
        rw [hpos, hi] at hj
        exact hne (Option.some.inj hj).symm
      · exact And.left
  · refine h.buildings.congr (fun _ => rfl) (fun _ _ _ => rfl) fun j b => ?_
    show b ∈ ((s.setGrid i _).grids j).buildings ↔ _
    rw [setGrid_grids]
    split
    · rename_i heq
      rw [heq]
      rfl
    · rfl

/-- What `MoveStep` does to the grids. -/
theorem Indexed.move (h : s.Indexed P Q) {id : Int} {w : Ptr} (hw : s.warriors[id]? = some w)
    {i j : Nat} {pos : Position} (hi : s.getGrid (P id) = some i) (hj : s.getGrid pos = some j)
    {left : BattleScene} (hleft : left = s.setGrid i ((s.grids i).removeWarrior w)) :
    (left.setGrid j (((left.grids j).addWarrior w).getD (left.grids j))).Indexed
      (Function.update P id pos) Q := by
  have hgone : ∀ k, w ∉ (left.grids k).warriors := by
    intro k hin
    rw [hleft, setGrid_grids] at hin
    split at hin
    · exact (mem_erase_iff.mp hin).2 rfl
    · rename_i hne
      have hk : s.getGrid (P id) = some k := (h.warriors.holds_registered hw).mp hin
      rw [hi] at hk
      exact hne (Option.some.inj hk).symm
  have hadd : ((left.grids j).addWarrior w).getD (left.grids j) =
      { left.grids j with warriors := (left.grids j).warriors.insert w } := by
    rw [Grid.addWarrior, if_neg]
    · rfl
    · rw [ExtTreeSet.contains_iff_mem]
      exact hgone j
  have hregistry : (left.setGrid j { left.grids j with
      warriors := (left.grids j).warriors.insert w }).warriors = s.warriors := by
    rw [hleft]
    rfl
  rw [hadd]
  constructor
  · rw [hregistry]
    refine h.warriors.move (k := id) (x := w) (j := j) hw (fun id' => ?_) fun k y => ?_
    · have hgrid : ∀ pos, (left.setGrid j { left.grids j with
          warriors := (left.grids j).warriors.insert w }).getGrid pos = s.getGrid pos := by
        intro pos
        rw [hleft]
        rfl
      show BattleScene.getGrid _ _ = _
      rw [hgrid, Function.update_apply]
      split
      · exact hj
      · rfl
    · show y ∈ ((left.setGrid j _).grids k).warriors ↔ _
      rw [setGrid_grids]
      split
      · rename_i hk
        show y ∈ (left.grids j).warriors.insert w ↔ _
        rw [mem_insert_iff, hk]
        split
        · rename_i heq
          simp [heq]
        · rename_i hne
          rw [hleft, setGrid_grids]
          split
          · rename_i hji
            rw [hji]
            simp only [hne, false_or]
            rw [Grid.removeWarrior]
            exact mem_erase_iff.trans (and_iff_left hne)
          · simp [hne]
      · rename_i hk
        split
        · rename_i heq
          rw [heq]
          exact ⟨fun hin => absurd hin (hgone k), fun hkj => absurd hkj hk⟩
        · rename_i hne
          rw [hleft, setGrid_grids]
          split
          · rename_i hki
            rw [hki, Grid.removeWarrior]
            exact mem_erase_iff.trans (and_iff_left hne)
          · rfl
  · have hbuildings : ∀ k, ((left.setGrid j { left.grids j with
        warriors := (left.grids j).warriors.insert w }).grids k).buildings =
          (s.grids k).buildings := by
      intro k
      rw [setGrid_grids]
      have hkept : ∀ k, (left.grids k).buildings = (s.grids k).buildings := by
        intro k
        rw [hleft, setGrid_grids]
        split
        · rename_i heq
          rw [heq]
          rfl
        · rfl
      split
      · rename_i heq
        rw [heq]
        exact hkept j
      · exact hkept k
    subst hleft
    refine h.buildings.congr (fun _ => rfl) (fun _ _ _ => rfl) fun k b => ?_
    show b ∈ (BattleScene.grids _ k).buildings ↔ _
    rw [hbuildings]

end BattleScene

/-! ## Pools that keep nothing -/

namespace PoolTemplate

variable {E : Type} {pool pool' : PoolTemplate E} {p q : Ptr}

/-- `Allocate` is `new`, and `Deallocate` is `delete`. -/
structure Bare (pool : PoolTemplate E) : Prop where
  initialSize : pool.initialSize = 0
  extendSize : pool.extendSize = 1
  list : pool.list = []

theorem Bare.modify (h : pool.Bare) (p : Ptr) (change : E → E) : (pool.modify p change).Bare :=
  ⟨h.initialSize, h.extendSize, h.list⟩

theorem Bare.pushNew [Inhabited E] (h : pool.Bare) :
    (pool.pushNew.initialSize = 0 ∧ pool.pushNew.extendSize = 1) ∧
      (pool.pushNew.list = [] ∧ pool.pushNew.objects = pool.objects ∨
        ∃ p, pool.pushNew.list = [p] ∧ pool.objects p = none ∧
          pool.pushNew.objects = Function.update pool.objects p (some default)) := by
  rw [PoolTemplate.pushNew]
  split
  · rename_i p news _
    split
    · exact ⟨⟨h.initialSize, h.extendSize⟩, Or.inl ⟨h.list, rfl⟩⟩
    · rename_i hfree
      refine ⟨⟨h.initialSize, h.extendSize⟩, Or.inr ⟨p, ?_, ?_, rfl⟩⟩
      · show pool.list ++ [p] = [p]
        rw [h.list]
        rfl
      · exact Option.not_isSome_iff_eq_none.mp hfree
  · exact ⟨⟨h.initialSize, h.extendSize⟩, Or.inl ⟨h.list, rfl⟩⟩
  · exact ⟨⟨h.initialSize, h.extendSize⟩, Or.inl ⟨h.list, rfl⟩⟩

theorem Bare.allocate_eq [Inhabited E] (h : pool.Bare) : pool.allocate =
    match pool.pushNew.list with
    | [] => (none, pool.pushNew)
    | p :: list => (some p, { pool.pushNew with list := list }) := by
  have hfilled : pool.filled = pool.pushNew := by
    rw [filled, h.list, extend, h.extendSize]
    rfl
  have heq := PoolTemplate.allocate_eq pool
  rw [hfilled] at heq
  exact heq

theorem Bare.allocate_none [Inhabited E] (h : pool.Bare) (hp : pool.allocate = (none, pool')) :
    pool'.Bare ∧ pool'.objects = pool.objects := by
  obtain ⟨hsizes, ⟨hlist, hobjects⟩ | ⟨p, hlist, _⟩⟩ := h.pushNew
  · rw [h.allocate_eq, hlist] at hp
    cases hp
    exact ⟨⟨hsizes.1, hsizes.2, hlist⟩, hobjects⟩
  · rw [h.allocate_eq, hlist] at hp
    cases hp

theorem Bare.allocate_some [Inhabited E] (h : pool.Bare) (hp : pool.allocate = (some p, pool')) :
    pool'.Bare ∧ pool.objects p = none ∧
      pool'.objects = Function.update pool.objects p (some default) := by
  obtain ⟨hsizes, ⟨hlist, _⟩ | ⟨q, hlist, hfree, hobjects⟩⟩ := h.pushNew
  · rw [h.allocate_eq, hlist] at hp
    cases hp
  · rw [h.allocate_eq, hlist] at hp
    cases hp
    exact ⟨⟨hsizes.1, hsizes.2, rfl⟩, hfree, hobjects⟩

theorem Bare.deallocate_eq (h : pool.Bare) (p : Ptr) :
    pool.deallocate p = { pool with objects := Function.update pool.objects p none } := by
  obtain ⟨initialSize, extendSize, objects, list, news⟩ := pool
  obtain rfl : initialSize = 0 := h.initialSize
  obtain rfl : list = [] := h.list
  rfl

theorem Bare.deallocate (h : pool.Bare) (p : Ptr) : (pool.deallocate p).Bare := by
  rw [h.deallocate_eq]
  exact ⟨h.initialSize, h.extendSize, h.list⟩

end PoolTemplate

/-- Where a building of a registered combat is. -/
def CombatManagers.buildingPos (m : CombatManagers) (combatId buildingId : Int) : Option Position :=
  (m.getBuilding combatId buildingId).map fun b => ⟨b.posX, b.posY⟩

namespace Apps

variable {a a' : Apps} {m m' : CombatManagers} {r : Option Ptr} {c : Int} {p w sc : Ptr}

/-! ## All scenes -/

/-- The scene of the combat `c`, with all that is registered on it. -/
structure Standing (m : CombatManagers) (a : Apps) (c : Int) (sc : Ptr) : Prop where
  held : a.scenePool.Held sc
  host : (a.scene sc).host = some c
  indexed : (a.scene sc).Indexed (fun id => a.originPos (c, id)) (m.buildingPos c)
  warriors : ∀ (id : Int) w, (a.scene sc).warriors[id]? = some w →
    (a.sceneWarriors.objects w).isSome ∧ (a.warrior w).host = some (c, id) ∧
      (a.warrior w).scene = some sc
  buildings : ∀ (id : Int) b, (a.scene sc).buildings[id]? = some b →
    (a.sceneBuildings.objects b).isSome ∧ (a.sceneBuildings.read b).host = some (c, id) ∧
      (a.sceneBuildings.read b).scene = some sc

/-- The running scenes are indexed, all warriors are on them, and the other scenes are empty but
for the one at `r`, which is being set up. -/
structure Surveyed (m : CombatManagers) (r : Option Ptr) (a : Apps) : Prop where
  scenePool : a.scenePool.Sound
  warriorPool : a.sceneWarriors.Bare
  buildingPool : a.sceneBuildings.Bare
  standing : ∀ c sc, a.scenes c = some sc → Standing m a c sc
  given : ∀ c sc, a.scenes c = some sc → ∃ p, m.combats[c]? = some p ∧
    ∀ (id : Int) w, (a.scene sc).warriors[id]? = some w → id ≤ (m.combat p).idAlloctor
  posted : ∀ w sc, (a.warrior w).scene = some sc → (r = some sc ∨ ∃ c, a.scenes c = some sc) ∧
    ∃ id : Int, (a.scene sc).warriors[id]? = some w
  blank : ∀ sc, r ≠ some sc → (∀ c, a.scenes c ≠ some sc) →
    ∀ id : Int, (a.scene sc).buildings[id]? = none ∧ (a.scene sc).warriors[id]? = none

/-- The same scenes, with the same on them. -/
structure Alike (a a' : Apps) : Prop where
  scenes : a'.scenes = a.scenes
  list : a'.scenePool.list = a.scenePool.list
  live : ∀ sc, (a'.scenePool.objects sc).isSome = (a.scenePool.objects sc).isSome
  ground : ∀ sc, (a'.scene sc).ground = (a.scene sc).ground
  warriorPool : a.sceneWarriors.Bare → a'.sceneWarriors.Bare
  posts : ∀ w, (a'.sceneWarriors.objects w).map Warrior.post =
    (a.sceneWarriors.objects w).map Warrior.post
  buildingPool : a.sceneBuildings.Bare → a'.sceneBuildings.Bare
  buildings : a'.sceneBuildings.objects = a.sceneBuildings.objects
  originPos : ∀ c sc (id : Int) w, a.scenes c = some sc → (a.scene sc).warriors[id]? = some w →
    a'.originPos (c, id) = a.originPos (c, id)

theorem Alike.warrior (h : Alike a a') (w : Ptr) : (a'.warrior w).post = (a.warrior w).post := by
  have hposts := h.posts w
  rw [Apps.warrior, Apps.warrior, PoolTemplate.read, PoolTemplate.read]
  cases he : a.sceneWarriors.objects w with
  | none =>
    rw [he, Option.map_none, Option.map_eq_none_iff] at hposts
    rw [hposts]
  | some e =>
    rw [he, Option.map_some] at hposts
    obtain ⟨e', he', heq⟩ := Option.map_eq_some_iff.mp hposts
    rw [he']
    exact heq

theorem Alike.standing (h : Alike a a') (hs : Standing m a c sc) (hc : a.scenes c = some sc) :
    Standing m a' c sc := by
  obtain ⟨hwarriors, hbuildings, hgrids, hhost, hgrid⟩ := BattleScene.of_ground (h.ground sc)
  constructor
  · rw [PoolTemplate.Held, h.live, h.list]
    exact hs.held
  · rw [hhost]
    exact hs.host
  · constructor
    · refine hs.indexed.warriors.congr (fun id => ?_) (fun id w hw => ?_) fun i w => ?_
      · rw [hwarriors]
      · rw [h.originPos c sc id w hc hw, hgrid]
      · rw [hgrids]
    · refine hs.indexed.buildings.congr (fun id => ?_) (fun id b _ => ?_) fun i b => ?_
      · rw [hbuildings]
      · rw [funext hgrid]
      · rw [hgrids]
  · intro id w hw
    rw [hwarriors] at hw
    obtain ⟨hlive, hhost, hscene⟩ := hs.warriors id w hw
    have hpost := h.warrior w
    simp only [Warrior.post, Prod.mk.injEq] at hpost
    rw [hpost.1, hpost.2.1]
    refine ⟨?_, hhost, hscene⟩
    rw [← Option.isSome_map (f := Warrior.post), h.posts, Option.isSome_map]
    exact hlive
  · intro id b hb
    rw [hbuildings] at hb
    rw [PoolTemplate.read, h.buildings]
    exact hs.buildings id b hb

theorem Surveyed.alike (hs : Surveyed m r a) (h : Alike a a') : Surveyed m r a' := by
  have hwarriors : ∀ sc, (a'.scene sc).warriors = (a.scene sc).warriors :=
    fun sc => (BattleScene.of_ground (h.ground sc)).1
  constructor
  · constructor
    · rw [h.list]
      exact hs.scenePool.nodup
    · intro sc hin
      rw [h.live]
      rw [h.list] at hin
      exact hs.scenePool.live sc hin
  · exact h.warriorPool hs.warriorPool
  · exact h.buildingPool hs.buildingPool
  · intro c sc hc
    rw [h.scenes] at hc
    exact h.standing (hs.standing c sc hc) hc
  · intro c sc hc
    rw [h.scenes] at hc
    rw [hwarriors]
    exact hs.given c sc hc
  · intro w sc hscene
    have hpost := h.warrior w
    simp only [Warrior.post, Prod.mk.injEq] at hpost
    rw [hpost.2.1] at hscene
    rw [h.scenes, hwarriors]
    exact hs.posted w sc hscene
  · intro sc hr hout id
    rw [h.scenes] at hout
    rw [hwarriors, (BattleScene.of_ground (h.ground sc)).2.1]
    exact hs.blank sc hr hout id

theorem Calm.alike (h : Calm m a a') : Alike a a' where
  scenes := congrArg Board.scenes h.board
  list := congrArg (fun board => board.scenePool.list) h.board
  live := PoolTemplate.view_live (f := fun scene : TimedScene => scene.toBattleScene.ground)
    (congrArg Board.scenePool h.board)
  ground := ground_scene h.board
  warriorPool := fun hbare => by
    obtain ⟨hinitial, hextend, hlist⟩ := PoolTemplate.of_view
      (f := Warrior.post) (congrArg Board.sceneWarriors h.board)
    exact ⟨hinitial.trans hbare.initialSize, hextend.trans hbare.extendSize, hlist.trans hbare.list⟩
  posts := PoolTemplate.view_objects (congrArg Board.sceneWarriors h.board)
  buildingPool := fun hbare => by
    rw [show a'.sceneBuildings = a.sceneBuildings from congrArg Board.sceneBuildings h.board]
    exact hbare
  buildings := congrArg PoolTemplate.objects (congrArg Board.sceneBuildings h.board)
  originPos := fun c _ id _ _ _ => congrFun (congrArg Board.originPos h.board) (c, id)

/-- The combats may go on and others come, as long as those of running scenes stay. -/
theorem Surveyed.lasts (hs : Surveyed m r a) {ended : Option Int}
    (h : CombatManagers.Lasts ended m m') (hended : ∀ c, ended = some c → a.scenes c = none) :
    Surveyed m' r a := by
  have hkept : ∀ {c sc}, a.scenes c = some sc → ∃ p, m.combats[c]? = some p ∧
      m'.combats[c]? = some p ∧ (m.combat p).Continues (m'.combat p) := by
    intro c sc hc
    obtain ⟨p, hp, _⟩ := hs.given c sc hc
    have hne : ended ≠ some c := by
      intro heq
      rw [hended c heq] at hc
      cases hc
    exact ⟨p, hp, h c p hp hne⟩
  refine ⟨hs.scenePool, hs.warriorPool, hs.buildingPool, fun c sc hc => ?_, fun c sc hc => ?_,
    hs.posted, hs.blank⟩
  · obtain ⟨p, hp, hp', hcontinues⟩ := hkept hc
    have hstanding := hs.standing c sc hc
    have hpos : m'.buildingPos c = m.buildingPos c := by
      funext id
      have hsite := hcontinues.sites id
      rw [buildingPos, buildingPos, getBuilding, getBuilding, hp, hp', Option.bind_some,
        Option.bind_some]
      have hsites := congrArg (Option.map Prod.snd) hsite
      rw [Option.map_map, Option.map_map] at hsites
      exact hsites
    refine ⟨hstanding.held, hstanding.host, ?_, hstanding.warriors, hstanding.buildings⟩
    rw [hpos]
    exact hstanding.indexed
  · obtain ⟨p, hp, hp', hcontinues⟩ := hkept hc
    obtain ⟨p', hp'', hids⟩ := hs.given c sc hc
    obtain rfl : p = p' := Option.some.inj (hp.symm.trans hp'')
    exact ⟨p, hp', fun id w hw => Int.le_trans (hids id w hw) hcontinues.idAlloctor⟩

theorem modifyScene_scene (hlive : (a.scenePool.objects sc).isSome) (change : TimedScene → TimedScene)
    (sc' : Ptr) : (a.modifyScene sc change).scene sc' =
      if sc' = sc then change (a.scene sc) else a.scene sc' := by
  split
  · rename_i heq
    rw [heq]
    exact PoolTemplate.read_modify hlive change
  · rename_i hne
    exact PoolTemplate.read_modify_other _ hne change

theorem Surveyed.scenes_inj (hs : Surveyed m r a) {c' : Int} (hc : a.scenes c = some sc)
    (hc' : a.scenes c' = some sc) : c' = c := by
  have hhost := (hs.standing c sc hc).host
  rw [(hs.standing c' sc hc').host] at hhost
  exact Option.some.inj hhost

/-- What happens on one running scene leaves the others as they are. -/
theorem Surveyed.onScene (hs : Surveyed m r a) (hc : a.scenes c = some sc)
    (hscenes : a'.scenes = a.scenes) (hlist : a'.scenePool.list = a.scenePool.list)
    (hlive : ∀ sc', (a'.scenePool.objects sc').isSome = (a.scenePool.objects sc').isSome)
    (hothers : ∀ sc', sc' ≠ sc → a'.scene sc' = a.scene sc')
    (hpool : a'.sceneWarriors.Bare) (hbuildings : a'.sceneBuildings = a.sceneBuildings)
    (hwarriors : ∀ w c' (id : Int), c' ≠ c → (a.warrior w).host = some (c', id) →
      a'.sceneWarriors.objects w = a.sceneWarriors.objects w)
    (hpos : ∀ c' (id : Int), c' ≠ c → a'.originPos (c', id) = a.originPos (c', id))
    (hstanding : Standing m a' c sc)
    (hgiven : ∀ p, m.combats[c]? = some p → ∀ (id : Int) w, (a'.scene sc).warriors[id]? = some w →
      id ≤ (m.combat p).idAlloctor)
    (hposted : ∀ w sc', (a'.warrior w).scene = some sc' →
      (r = some sc' ∨ ∃ c, a'.scenes c = some sc') ∧
        ∃ id : Int, (a'.scene sc').warriors[id]? = some w) : Surveyed m r a' := by
  have hother : ∀ {c' sc'}, a.scenes c' = some sc' → c' ≠ c → sc' ≠ sc := by
    rintro c' sc' hc' hne rfl
    exact hne (hs.scenes_inj hc hc')
  constructor
  · constructor
    · rw [hlist]
      exact hs.scenePool.nodup
    · intro sc' hin
      rw [hlive]
      rw [hlist] at hin
      exact hs.scenePool.live sc' hin
  · exact hpool
  · rw [hbuildings]
    exact hs.buildingPool
  · intro c' sc' hc'
    rw [hscenes] at hc'
    by_cases heq : c' = c
    · subst heq
      obtain rfl : sc' = sc := Option.some.inj (hc'.symm.trans hc)
      exact hstanding
    · have hold := hs.standing c' sc' hc'
      have hscene := hothers sc' (hother hc' heq)
      refine ⟨?_, ?_, ?_, fun id w hw => ?_, fun id b hb => ?_⟩
      · rw [PoolTemplate.Held, hlive, hlist]
        exact hold.held
      · rw [hscene]
        exact hold.host
      · rw [hscene, show (fun id => a'.originPos (c', id)) = fun id => a.originPos (c', id) from
          funext fun id => hpos c' id heq]
        exact hold.indexed
      · rw [hscene] at hw
        obtain ⟨hw, hhost, hscene'⟩ := hold.warriors id w hw
        rw [warrior, PoolTemplate.read, hwarriors w c' id heq hhost]
        exact ⟨hw, hhost, hscene'⟩
      · rw [hscene] at hb
        rw [hbuildings]
        exact hold.buildings id b hb
  · intro c' sc' hc'
    rw [hscenes] at hc'
    by_cases heq : c' = c
    · subst heq
      obtain rfl : sc' = sc := Option.some.inj (hc'.symm.trans hc)
      obtain ⟨p, hp, _⟩ := hs.given c' sc' hc'
      exact ⟨p, hp, hgiven p hp⟩
    · rw [hothers sc' (hother hc' heq)]
      exact hs.given c' sc' hc'
  · exact hposted
  · intro sc' hr hout id
    rw [hscenes] at hout
    rw [hothers sc' fun heq => hout c (heq ▸ hc)]
    exact hs.blank sc' hr hout id

/-! ### Moving a warrior -/

theorem Surveyed.stepTo (hs : Surveyed m none a) (hscene : (a.warrior w).scene = some sc)
    {i j : Nat} {pos : Position} (hi : (a.scene sc).getGrid (a.warriorPos w) = some i)
    (hj : (a.scene sc).getGrid pos = some j) : Surveyed m none (a.stepTo sc w i j pos) := by
  obtain ⟨hrunning, id, hw⟩ := hs.posted w sc hscene
  obtain ⟨c, hc⟩ := hrunning.resolve_left nofun
  have hstanding := hs.standing c sc hc
  obtain ⟨hlive, hhost, _⟩ := hstanding.warriors id w hw
  have hkey : (a.warrior w).host.getD (0, 0) = (c, id) := by
    rw [hhost]
    rfl
  rw [warriorPos, hkey] at hi
  obtain ⟨change, hchange⟩ : ∃ change : TimedScene → TimedScene, ∀ scene, change scene =
      { scene with toBattleScene := (scene.toBattleScene.setGrid i
        ((scene.grids i).removeWarrior w)).setGrid j ((((scene.toBattleScene.setGrid i
          ((scene.grids i).removeWarrior w)).grids j).addWarrior w).getD
            ((scene.toBattleScene.setGrid i ((scene.grids i).removeWarrior w)).grids j)) } :=
    ⟨_, fun _ => rfl⟩
  have hread := modifyScene_scene hstanding.held.1 change
  have hmoved : Surveyed m none { a.modifyScene sc change with
      originPos := Function.update a.originPos (c, id) pos } := by
    refine hs.onScene hc rfl rfl (fun _ => PoolTemplate.modify_isSome change) (fun sc' hne => ?_)
      hs.warriorPool rfl (fun _ _ _ _ _ => rfl) (fun c' id' hne => ?_) ?_ (fun p hp id' w' hw' => ?_)
      fun w' sc' hw' => ?_
    · exact (hread sc').trans (if_neg hne)
    · exact Function.update_of_ne (fun heq => hne (congrArg Prod.fst heq)) _ _
    · have hself : (a.modifyScene sc change).scene sc = change (a.scene sc) := by
        rw [hread, if_pos rfl]
      refine ⟨(PoolTemplate.held_modify change).mpr hstanding.held, ?_, ?_, fun id' w' hw' => ?_,
        fun id' b hb => ?_⟩
      · show ((a.modifyScene sc change).scene sc).host = some c
        rw [hself, hchange]
        exact hstanding.host
      · show ((a.modifyScene sc change).scene sc).Indexed
          (fun id' => Function.update a.originPos (c, id) pos (c, id')) (m.buildingPos c)
        rw [hself, hchange]
        have hindexed := hstanding.indexed.move hw hi hj rfl
        refine ⟨hindexed.warriors.congr (fun _ => rfl) (fun id' _ _ => ?_) fun _ _ => Iff.rfl,
          hindexed.buildings⟩
        rw [Function.update_apply, Function.update_apply]
        simp only [Prod.mk.injEq, true_and]
      · have hw' : ((a.modifyScene sc change).scene sc).warriors[id']? = some w' := hw'
        rw [hself, hchange] at hw'
        exact hstanding.warriors id' w' hw'
      · have hb : ((a.modifyScene sc change).scene sc).buildings[id']? = some b := hb
        rw [hself, hchange] at hb
        exact hstanding.buildings id' b hb
    · have hw' : ((a.modifyScene sc change).scene sc).warriors[id']? = some w' := hw'
      rw [hread, if_pos rfl, hchange] at hw'
      obtain ⟨p', hp', hids⟩ := hs.given c sc hc
      obtain rfl : p = p' := Option.some.inj (hp.symm.trans hp')
      exact hids id' w' hw'
    · obtain ⟨hrunning, id', hw''⟩ := hs.posted w' sc' hw'
      refine ⟨hrunning, id', ?_⟩
      show ((a.modifyScene sc change).scene sc').warriors[id']? = some w'
      rw [hread]
      split
      · rename_i heq
        rw [hchange]
        rw [heq] at hw''
        exact hw''
      · exact hw''
  have heq : change = fun scene => { scene with toBattleScene := (scene.toBattleScene.setGrid i
        ((scene.grids i).removeWarrior w)).setGrid j ((((scene.toBattleScene.setGrid i
          ((scene.grids i).removeWarrior w)).grids j).addWarrior w).getD
            ((scene.toBattleScene.setGrid i ((scene.grids i).removeWarrior w)).grids j)) } :=
    funext hchange
  rw [heq] at hmoved
  rw [Apps.stepTo]
  dsimp only
  rw [show ((a.modifyScene sc _).warrior w).host.getD (0, 0) = (c, id) from hkey]
  split
  · exact hmoved.alike (calm_moveReset (m := m) _ w).alike
  · exact hmoved

/-! ### Warriors that come and go -/

/-- Nothing of the scenes changes but the warrior at `w`. -/
structure Touches (w : Ptr) (a a' : Apps) : Prop where
  scenes : a'.scenes = a.scenes
  scenePool : a'.scenePool = a.scenePool
  sceneConfs : a'.sceneConfs = a.sceneConfs
  buildings : a'.sceneBuildings = a.sceneBuildings
  originPos : a'.originPos = a.originPos
  pool : a.sceneWarriors.Bare → a'.sceneWarriors.Bare
  others : ∀ w', w' ≠ w → a'.sceneWarriors.objects w' = a.sceneWarriors.objects w'

theorem Touches.trans {a'' : Apps} (h : Touches w a a') (h' : Touches w a' a'') :
    Touches w a a'' where
  scenes := h'.scenes.trans h.scenes
  scenePool := h'.scenePool.trans h.scenePool
  sceneConfs := h'.sceneConfs.trans h.sceneConfs
  buildings := h'.buildings.trans h.buildings
  originPos := h'.originPos.trans h.originPos
  pool := fun hbare => h'.pool (h.pool hbare)
  others := fun w' hne => (h'.others w' hne).trans (h.others w' hne)

theorem touches_modifyWarrior (a : Apps) (w : Ptr) (change : Warrior → Warrior) :
    Touches w a (a.modifyWarrior w change) :=
  ⟨rfl, rfl, rfl, rfl, rfl, fun hbare => hbare.modify w change,
    fun _ hne => PoolTemplate.modify_other _ hne change⟩

theorem touches_moveReset (a : Apps) (w : Ptr) : Touches w a (a.moveReset w) := by
  rw [moveReset]
  split
  · exact touches_modifyWarrior a w _
  · have hstop : Touches w a (a.stopTimer (a.warrior w).timerMoveToken) :=
      ⟨rfl, rfl, rfl, rfl, rfl, id, fun _ _ => rfl⟩
    exact (hstop.trans (touches_modifyWarrior _ w _)).trans (touches_modifyWarrior _ w _)

theorem touches_finalizeWarrior (a : Apps) (w : Ptr) : Touches w a (a.finalizeWarrior w) :=
  (touches_moveReset a w).trans (touches_modifyWarrior _ w _)

theorem touches_deallocateWarrior (hbare : a.sceneWarriors.Bare) (w : Ptr) :
    Touches w a (a.deallocateWarrior w) ∧ (a.deallocateWarrior w).sceneWarriors.objects w = none := by
  have hreset := touches_moveReset a w
  have hpool : (a.deallocateWarrior w).sceneWarriors = { (a.moveReset w).sceneWarriors with
      objects := Function.update (a.moveReset w).sceneWarriors.objects w none } :=
    (hreset.pool hbare).deallocate_eq w
  refine ⟨⟨hreset.scenes, hreset.scenePool, hreset.sceneConfs, hreset.buildings, hreset.originPos,
    fun _ => ?_, fun w' hne => ?_⟩, ?_⟩
  · exact (hreset.pool hbare).deallocate w
  · rw [hpool]
    exact (Function.update_of_ne hne _ _).trans (hreset.others w' hne)
  · rw [hpool]
    exact Function.update_self ..

theorem warrior_of_none (h : a.sceneWarriors.objects w = none) : a.warrior w = default := by
  rw [warrior, PoolTemplate.read, h]
  rfl

/-- A warrior is taken off the scene, and is gone. -/
theorem Surveyed.taken (hs : Surveyed m r a) (hc : a.scenes c = some sc) {id : Int}
    (hw : (a.scene sc).warriors[id]? = some w) {entity : Entity}
    (hentity : entity = ⟨w, id, a.originPos (c, id)⟩) {b : Apps}
    (htouches : Touches w (a.modifyScene sc fun scene =>
      { scene with toBattleScene := scene.removeWarrior entity }) b)
    (hnone : b.sceneWarriors.objects w = none) : Surveyed m r b := by
  have hstanding := hs.standing c sc hc
  obtain ⟨hlive, hhost, _⟩ := hstanding.warriors id w hw
  obtain ⟨hindexed, hentries, hbuildings, hsceneHost⟩ :=
    hstanding.indexed.removeWarrior (e := entity) (by rw [hentity]; exact hw) (by rw [hentity])
  rw [show entity.id = id by rw [hentity]] at hentries
  obtain ⟨change, hchange⟩ : ∃ change : TimedScene → TimedScene, change =
      fun scene => { scene with toBattleScene := scene.removeWarrior entity } := ⟨_, rfl⟩
  rw [← hchange] at htouches
  have hread := modifyScene_scene hstanding.held.1 change
  have hself : (a.modifyScene sc change).scene sc = change (a.scene sc) := by
    rw [hread, if_pos rfl]
  have hscene : ∀ sc', b.scene sc' = (a.modifyScene sc change).scene sc' := by
    intro sc'
    rw [scene, htouches.scenePool]
    rfl
  have hwarriors : ∀ id' : Int, (b.scene sc).warriors[id']? =
      if id' = id then none else (a.scene sc).warriors[id']? := by
    intro id'
    rw [hscene, hself, hchange]
    exact hentries id'
  have hother : ∀ {w'}, w' ≠ w → b.warrior w' = a.warrior w' := by
    intro w' hne
    rw [warrior, PoolTemplate.read, htouches.others w' hne]
    rfl
  have hkept : ∀ {id' : Int} {w'}, (b.scene sc).warriors[id']? = some w' →
      (a.scene sc).warriors[id']? = some w' ∧ w' ≠ w := by
    intro id' w' hw'
    rw [hwarriors] at hw'
    split at hw'
    · cases hw'
    · rename_i hne
      refine ⟨hw', ?_⟩
      rintro rfl
      exact hne (hstanding.indexed.warriors.once id' id w' hw' hw)
  refine hs.onScene hc htouches.scenes (by rw [htouches.scenePool]; rfl) (fun sc' => ?_)
    (fun sc' hne => ?_) (htouches.pool hs.warriorPool) htouches.buildings
    (fun w' c' id' hne hhost' => ?_) (fun c' id' _ => by rw [htouches.originPos]; rfl) ?_
    (fun p hp id' w' hw' => ?_) fun w' sc' hw' => ?_
  · rw [htouches.scenePool]
    exact PoolTemplate.modify_isSome change
  · rw [hscene, hread, if_neg hne]
  · refine htouches.others w' ?_
    rintro rfl
    rw [hhost] at hhost'
    exact hne (congrArg Prod.fst (Option.some.inj hhost')).symm
  · refine ⟨?_, ?_, ?_, fun id' w' hw' => ?_, fun id' building hb => ?_⟩
    · rw [PoolTemplate.Held, htouches.scenePool]
      exact (PoolTemplate.held_modify change).mpr hstanding.held
    · rw [hscene, hself, hchange]
      exact hsceneHost.trans hstanding.host
    · rw [hscene, hself, hchange, htouches.originPos]
      exact hindexed
    · obtain ⟨hw', hne⟩ := hkept hw'
      rw [hother hne, htouches.others w' hne]
      exact hstanding.warriors id' w' hw'
    · rw [hscene, hself, hchange] at hb
      have hb : ((a.scene sc).toBattleScene.removeWarrior entity).buildings[id']? =
        some building := hb
      rw [hbuildings] at hb
      rw [htouches.buildings]
      exact hstanding.buildings id' building hb
  · obtain ⟨p', hp', hids⟩ := hs.given c sc hc
    obtain rfl : p = p' := Option.some.inj (hp.symm.trans hp')
    exact hids id' w' (hkept hw').1
  · have hne : w' ≠ w := by
      rintro rfl
      rw [warrior_of_none hnone] at hw'
      cases hw'
    rw [hother hne] at hw'
    obtain ⟨hrunning, id', hw''⟩ := hs.posted w' sc' hw'
    rw [htouches.scenes]
    refine ⟨hrunning, id', ?_⟩
    by_cases heq : sc' = sc
    · subst heq
      rw [hwarriors, if_neg, hw'']
      rintro rfl
      exact hne (Option.some.inj (hw''.symm.trans hw))
    · rw [hscene, hread, if_neg heq]
      exact hw''

theorem Surveyed.deathScene (hs : Surveyed m r a) (combatId : Int) (target : CombatEntity) :
    Surveyed m r (a.onEventCombatDeathScene combatId target) := by
  rw [onEventCombatDeathScene]
  split
  · exact hs
  · rename_i sc hc
    split
    · exact hs
    · split
      · exact hs
      · rename_i w hw
        have hhost := ((hs.standing combatId sc hc).warriors target.id w hw).2.1
        have hentity : a.warriorEntity w = ⟨w, target.id, a.originPos (combatId, target.id)⟩ := by
          rw [warriorEntity, warriorPos, hhost]
          rfl
        have hfinalize := touches_finalizeWarrior (a.modifyScene sc fun scene =>
          { scene with toBattleScene := scene.removeWarrior (a.warriorEntity w) }) w
        obtain ⟨hdeallocate, hnone⟩ := touches_deallocateWarrior
          (hfinalize.pool hs.warriorPool) w
        exact hs.taken hc hw hentity (hfinalize.trans hdeallocate) hnone

end Apps

end Mysya
