import Mysya.AiApp
import Mysya.Attempts

/-!
# What leaves the scenes alone

The AI, the timers and the moves that only start or stop change nothing of what stands where. They
start timers whose periods are constants or come from the attributes of a warrior.
-/

open Std OwnedTimers

namespace Mysya

/-- A pool with a part of what its objects hold. -/
def PoolTemplate.view {E V : Type} (f : E → V) (pool : PoolTemplate E) : PoolTemplate V where
  initialSize := pool.initialSize
  extendSize := pool.extendSize
  objects := fun p => (pool.objects p).map f
  list := pool.list
  news := pool.news

/-- A change that keeps the part is not seen in the view. -/
theorem PoolTemplate.view_modify {E V : Type} {f : E → V} {pool : PoolTemplate E} {p : Ptr}
    {change : E → E} (hchange : ∀ e, pool.objects p = some e → f (change e) = f e) :
    (pool.modify p change).view f = pool.view f := by
  have hobjects : ∀ q, ((pool.modify p change).objects q).map f = (pool.objects q).map f := by
    intro q
    by_cases hq : q = p
    · subst hq
      rw [modify_self, Option.map_map]
      cases he : pool.objects q with
      | none => rfl
      | some e => exact congrArg some (hchange e he)
    · rw [modify_other _ hq]
  simp only [view, hobjects]
  rfl

theorem PoolTemplate.of_view {E V : Type} {f : E → V} {pool pool' : PoolTemplate E}
    (h : pool'.view f = pool.view f) : pool'.initialSize = pool.initialSize ∧
      pool'.extendSize = pool.extendSize ∧ pool'.list = pool.list := by
  have hinitial : (pool'.view f).initialSize = (pool.view f).initialSize := by rw [h]
  have hextend : (pool'.view f).extendSize = (pool.view f).extendSize := by rw [h]
  have hlist : (pool'.view f).list = (pool.view f).list := by rw [h]
  exact ⟨hinitial, hextend, hlist⟩

theorem PoolTemplate.view_objects {E V : Type} {f : E → V} {pool pool' : PoolTemplate E}
    (h : pool'.view f = pool.view f) (p : Ptr) :
    (pool'.objects p).map f = (pool.objects p).map f :=
  congrFun (congrArg PoolTemplate.objects h) p

theorem PoolTemplate.view_live {E V : Type} {f : E → V} {pool pool' : PoolTemplate E}
    (h : pool'.view f = pool.view f) (p : Ptr) :
    (pool'.objects p).isSome = (pool.objects p).isSome := by
  have hobjects := view_objects h p
  rw [← Option.isSome_map (f := f), hobjects, Option.isSome_map]

/-- Two pools with one view read the same part, off the pool too. -/
theorem PoolTemplate.view_read {E V : Type} [Inhabited E] {f : E → V} {pool pool' : PoolTemplate E}
    (h : pool'.view f = pool.view f) (p : Ptr) : f (pool'.read p) = f (pool.read p) := by
  have hobjects := view_objects h p
  rw [read, read]
  cases he : pool.objects p with
  | none =>
    rw [he, Option.map_none, Option.map_eq_none_iff] at hobjects
    rw [hobjects]
  | some e =>
    rw [he, Option.map_some] at hobjects
    obtain ⟨e', he', heq⟩ := Option.map_eq_some_iff.mp hobjects
    rw [he']
    exact heq

/-! ## What a path search writes -/

namespace Scene

variable {s s' : Scene}

/-- The two fields of a scene that its search reads and never writes. -/
def size (s : Scene) : Int × Int := (s.height, s.width)

theorem siftUpOpenList_size (s : Scene) (curIndex : Nat) :
    (s.siftUpOpenList curIndex).size = s.size := by
  induction s, curIndex using siftUpOpenList.induct with
  | case1 s curIndex hroot =>
    rw [siftUpOpenList, if_pos hroot]
  | case2 s curIndex hroot hless =>
    rw [siftUpOpenList, if_neg hroot, if_pos hless]
  | case3 s curIndex hroot hless ih =>
    rw [siftUpOpenList, if_neg hroot, if_neg hless]
    exact ih

theorem siftDownOpenList_size (s : Scene) (curIndex : Nat) (positive : 0 < curIndex) :
    (s.siftDownOpenList curIndex positive).size = s.size := by
  induction s, curIndex, positive using siftDownOpenList.induct with
  | case1 s curIndex positive hleaf =>
    rw [siftDownOpenList, if_pos hleaf]
  | case2 s curIndex positive hleaf hless =>
    rw [siftDownOpenList, if_neg hleaf, if_pos hless]
  | case3 s curIndex positive hleaf hless ih =>
    rw [siftDownOpenList, if_neg hleaf, if_neg hless]
    exact ih

theorem insertOpenList_size (s : Scene) (n : NodePtr) : (s.insertOpenList n).size = s.size :=
  siftUpOpenList_size _ _

theorem deleteMin_size (s : Scene) : s.deleteMinFScoreNodeInOpenList.size = s.size := by
  rw [deleteMinFScoreNodeInOpenList]
  split
  · rfl
  · exact siftDownOpenList_size _ _ _

theorem considerNeighbor_size (s : Scene) (curNode neighbor : NodePtr) :
    (s.considerNeighbor curNode neighbor).size = s.size := by
  rw [considerNeighbor]
  dsimp only
  split
  · rfl
  · split
    · split
      · exact insertOpenList_size _ _
      · exact siftUpOpenList_size _ _
    · rfl

theorem expand_size (s : Scene) (curNode : NodePtr) : (s.expand curNode).size = s.size := by
  have hneighbors : ∀ (l : List NodePtr) (s : Scene),
      (l.foldl (fun s neighbor => s.considerNeighbor curNode neighbor) s).size = s.size := by
    intro l
    induction l with
    | nil => exact fun _ => rfl
    | cons n l ih =>
      intro s
      rw [List.foldl_cons, ih, considerNeighbor_size]
  rw [expand, hneighbors]
  exact deleteMin_size s

theorem searchLoop_size {fuel : Nat} {paths paths' : List Position}
    (h : searchLoop fuel s paths = some (s', paths')) : s'.size = s.size := by
  induction fuel generalizing s with
  | zero => cases h
  | succ fuel ih =>
    rw [searchLoop] at h
    split at h
    · cases h
      rfl
    · split at h
      · obtain ⟨_, _, heq⟩ := Option.map_eq_some_iff.mp h
        cases heq
        rfl
      · rw [ih h, expand_size]

/-- A search keeps the size of the map, whatever its result. -/
theorem searchPath_size {fuel : Nat} {beginPos endPos : Position} {paths paths' : List Position}
    (h : s.searchPath fuel beginPos endPos paths = some (s', paths')) : s'.size = s.size := by
  rw [searchPath] at h
  split at h
  · cases h
    rfl
  · split at h
    · cases h
      rfl
    · rw [searchLoop_size h]
      exact insertOpenList_size _ _

end Scene

/-- A scene without what a path search writes. -/
def BattleScene.ground (s : BattleScene) : BattleScene :=
  { s with nodes := BattleScene.new.nodes, startNode := 0, endNode := 0,
           openList := BattleScene.new.openList, openListSize := 0 }

/-- What the ground of a scene tells of it. -/
theorem BattleScene.of_ground {s s' : BattleScene} (h : s'.ground = s.ground) :
    s'.warriors = s.warriors ∧ s'.buildings = s.buildings ∧ s'.grids = s.grids ∧
      s'.host = s.host ∧ ∀ pos, s'.getGrid pos = s.getGrid pos := by
  have hwarriors : s'.ground.warriors = s.ground.warriors := by rw [h]
  have hbuildings : s'.ground.buildings = s.ground.buildings := by rw [h]
  have hgrids : s'.ground.grids = s.ground.grids := by rw [h]
  have hhost : s'.ground.host = s.ground.host := by rw [h]
  have hgrid : ∀ pos, s'.ground.getGrid pos = s.ground.getGrid pos := by
    intro pos
    rw [h]
  exact ⟨hwarriors, hbuildings, hgrids, hhost, hgrid⟩

/-- A search writes its nodes and its open list, and nothing else of the scene. -/
theorem searchPath_ground {s s' : BattleScene} {fuel : Nat} {beginPos endPos : Position}
    {paths paths' : List Position}
    (h : s.searchPath fuel beginPos endPos paths = some (s', paths')) : s'.ground = s.ground := by
  obtain ⟨r, hr, heq⟩ := Option.map_eq_some_iff.mp h
  cases heq
  obtain ⟨scene, path⟩ := r
  have hsize := Scene.searchPath_size hr
  simp only [Scene.size, Prod.mk.injEq] at hsize
  simp only [BattleScene.ground, hsize.1, hsize.2]

/-- A warrior without its move. -/
def Warrior.post (w : Warrior) : Option EntityKey × Option Ptr × Int := (w.host, w.scene, w.moveMs)

/-- What stands where, and on which scene. -/
structure Board where
  scenes : Int → Option Ptr
  scenePool : PoolTemplate BattleScene
  sceneConfs : Int → Option SceneConf
  sceneBuildings : PoolTemplate SceneBuilding
  sceneWarriors : PoolTemplate (Option EntityKey × Option Ptr × Int)
  originPos : EntityKey → Position
  divisors : List Int

namespace Apps

variable {a a' a'' : Apps} {m : CombatManagers} {x w sc : Ptr}

/-- What the frames below leave alone, as a value. -/
def board (a : Apps) : Board where
  scenes := a.scenes
  scenePool := a.scenePool.view fun scene => scene.toBattleScene.ground
  sceneConfs := a.sceneConfs
  sceneBuildings := a.sceneBuildings
  sceneWarriors := a.sceneWarriors.view Warrior.post
  originPos := a.originPos
  divisors := a.divisors

theorem post_warrior (h : a'.board = a.board) (w : Ptr) :
    (a'.warrior w).post = (a.warrior w).post :=
  PoolTemplate.view_read (congrArg Board.sceneWarriors h) w

theorem ground_scene (h : a'.board = a.board) (sc : Ptr) :
    (a'.scene sc).ground = (a.scene sc).ground :=
  PoolTemplate.view_read (f := fun scene : TimedScene => scene.toBattleScene.ground)
    (congrArg Board.scenePool h) sc

/-- A period of the AI, of a move or of an attack. -/
def Period (m : CombatManagers) (a : Apps) (ms : Int) : Prop :=
  ms = 200 ∨ ms = 600 ∨ (∃ w, (a.warrior w).scene.isSome ∧ ms = (a.warrior w).moveMs) ∨
    ∃ combatId warriorId field, m.getWarrior combatId warriorId = some field ∧
      ms = field.attackSpeed

/-- Periods come from the warriors on the board, so they outlive a step that keeps it. -/
theorem Period.same (h : a'.board = a.board) {ms : Int} (hperiod : Period m a' ms) :
    Period m a ms := by
  rcases hperiod with hsearch | hrefind | ⟨w, hscene, hms⟩ | hattack
  · exact Or.inl hsearch
  · exact Or.inr (Or.inl hrefind)
  · have hpost := post_warrior h w
    simp only [Warrior.post, Prod.mk.injEq] at hpost
    rw [hpost.2.1] at hscene
    rw [hpost.2.2] at hms
    exact Or.inr (Or.inr (Or.inl ⟨w, hscene, hms⟩))
  · exact Or.inr (Or.inr (Or.inr hattack))

/-- The board stays, and the timers that start have such periods. -/
structure Calm (m : CombatManagers) (a a' : Apps) : Prop where
  board : a'.board = a.board
  periods : ∀ ms ∈ a'.periods, ms ∈ a.periods ∨ Period m a ms

theorem Calm.refl (m : CombatManagers) (a : Apps) : Calm m a a := ⟨rfl, fun _ => Or.inl⟩

theorem Calm.trans (h : Calm m a a') (h' : Calm m a' a'') : Calm m a a'' where
  board := h'.board.trans h.board
  periods := fun ms hin => by
    rcases h'.periods ms hin with hold | hnew
    · exact h.periods ms hold
    · exact Or.inr (hnew.same h.board)

theorem Calm.same (hboard : a'.board = a.board) (hperiods : a'.periods = a.periods) :
    Calm m a a' := ⟨hboard, fun _ hin => Or.inl (hperiods ▸ hin)⟩

/-- A loop of calm rounds is calm. -/
theorem calm_foldl {α : Type} {f : Apps → α → Apps} (hf : ∀ a e, Calm m a (f a e)) (l : List α)
    (a : Apps) : Calm m a (l.foldl f a) :=
  Attempts.foldl_chain (.refl m) .trans hf l a

/-! ## Timers and moves -/

theorem calm_stopTimer (a : Apps) (id : Int) : Calm m a (a.stopTimer id) := .same rfl rfl

/-- A timer may start with any period the AI or a warrior has. -/
theorem calm_startTimer {ms : Int} (hms : Period m a ms) (callback : TimerCallback)
    (callTimes : Int) : Calm m a (a.startTimer ms callback callTimes).2 where
  board := rfl
  periods := fun ms' hin => by
    have hin : ms' ∈ a.periods ++ [ms] := hin
    rcases List.mem_append.mp hin with hold | hnew
    · exact Or.inl hold
    · rw [List.mem_singleton.mp hnew]
      exact Or.inr hms

/-- A move is not on the board. -/
theorem calm_modifyWarrior {change : Warrior → Warrior} (hchange : ∀ w, (change w).post = w.post) :
    Calm m a (a.modifyWarrior w change) := by
  refine .same ?_ rfl
  have hview : (a.sceneWarriors.modify w change).view Warrior.post =
      a.sceneWarriors.view Warrior.post :=
    PoolTemplate.view_modify fun e _ => hchange e
  simp only [board, modifyWarrior, hview]

/-- A search leaves the ground as it is. -/
theorem calm_searched {scene : BattleScene} (hscene : scene.ground = (a.scene sc).ground) :
    Calm m a (a.modifyScene sc fun old => { old with toBattleScene := scene }) := by
  refine .same ?_ rfl
  have hview : (a.scenePool.modify sc fun old => { old with toBattleScene := scene }).view
      (fun scene => scene.toBattleScene.ground) =
      a.scenePool.view fun scene => scene.toBattleScene.ground := by
    refine PoolTemplate.view_modify fun e he => ?_
    have hread : a.scene sc = e := by
      rw [Apps.scene, PoolTemplate.read, he]
      rfl
    rw [← hread]
    exact hscene
  simp only [board, modifyScene, hview]

theorem calm_moveReset (a : Apps) (w : Ptr) : Calm m a (a.moveReset w) := by
  rw [moveReset]
  have hclear : ∀ a : Apps, Calm m a (a.modifyWarrior w fun warrior =>
      { warrior with pathIndex := 0, movePaths := [] }) :=
    fun a => calm_modifyWarrior fun _ => rfl
  split
  · exact hclear a
  · have htoken : ∀ a : Apps, Calm m a (a.modifyWarrior w fun warrior =>
        { warrior with timerMoveToken := -1 }) :=
      fun a => calm_modifyWarrior fun _ => rfl
    exact ((calm_stopTimer a _).trans (htoken _)).trans (hclear _)

/-- The timer of a move has the period of its warrior, which has a scene by then. -/
theorem calm_moveStart (a : Apps) (w : Ptr) (destPos : Position) :
    Calm m a (a.moveStart w destPos) := by
  have hreset : Calm m a (if (a.warrior w).movePaths.isEmpty then a else a.moveFinish w) := by
    split
    · exact .refl m a
    · exact calm_moveReset a w
  rw [moveStart]
  split
  · exact .refl m a
  · split
    · exact .refl m a
    · rename_i sc hsc
      split
      · exact .refl m a
      · dsimp only
        generalize (if (a.warrior w).movePaths.isEmpty then a else a.moveFinish w) = b at hreset ⊢
        split
        · exact hreset
        · rename_i scene paths hsearch
          have hsearched :
              Calm m b (b.modifyScene sc fun old => { old with toBattleScene := scene }) :=
            calm_searched (searchPath_ground hsearch)
          have hpaths : ∀ c : Apps, Calm m c (c.modifyWarrior w fun warrior =>
              { warrior with movePaths := paths }) :=
            fun c => calm_modifyWarrior fun _ => rfl
          have hall := (hreset.trans hsearched).trans (hpaths _)
          split
          · exact hall
          · have hms : Period m ((b.modifyScene sc fun old => { old with
                toBattleScene := scene }).modifyWarrior w fun warrior =>
                  { warrior with movePaths := paths }) (((b.modifyScene sc fun old => { old with
                toBattleScene := scene }).modifyWarrior w fun warrior =>
                  { warrior with movePaths := paths }).warrior w).moveMs := by
              refine Or.inr (Or.inr (Or.inl ⟨w, ?_, rfl⟩))
              have hpost := post_warrior hall.board w
              simp only [Warrior.post, Prod.mk.injEq] at hpost
              rw [hpost.2.1, hsc]
              rfl
            have htoken : ∀ (c : Apps) (id : Int), Calm m c (c.modifyWarrior w fun warrior =>
                { warrior with timerMoveToken := id }) :=
              fun c id => calm_modifyWarrior fun _ => rfl
            exact (hall.trans (calm_startTimer hms (.move w) (-1))).trans (htoken _ _)

theorem calm_sceneMove (a : Apps) (combatId warriorId : Int) (destPos : Position) :
    Calm m a (a.onRequireSceneMove combatId warriorId destPos).2 := by
  rw [onRequireSceneMove]
  split
  · exact .refl m a
  · split
    · exact .refl m a
    · split
      · exact .refl m a
      · exact calm_moveStart a _ destPos

theorem calm_lockTarget (a : Apps) (combatId warriorId : Int) :
    Calm m a (a.onEventCombatLockTarget combatId warriorId) := by
  rw [onEventCombatLockTarget]
  split
  · exact .refl m a
  · split
    · exact .refl m a
    · exact calm_moveReset a _

/-! ## Observers and targets -/

theorem calm_observerAdd (a : Apps) (combatId entityId autoId : Int) :
    Calm m a (a.observerAdd combatId entityId autoId) := .same rfl rfl

theorem calm_observerRemove (a : Apps) (combatId entityId autoId : Int) :
    Calm m a (a.observerRemove combatId entityId autoId) := by
  rw [observerRemove]
  split
  · exact .same rfl rfl
  · exact .same rfl rfl

/-- The observers of a dispatch are off the board; only the handler counts. -/
theorem calm_dispatch {handler : Apps → Ptr → Apps} (hhandler : ∀ a x, Calm m a (handler a x))
    (a : Apps) (combatId entityId : Int) : Calm m a (a.dispatch combatId entityId handler) := by
  refine dispatch_rule (.refl m a) ?_ ?_ ?_ ?_ ?_
  · exact fun h => h.trans (.same rfl rfl)
  · exact fun b _ x _ hb => hb.trans (hhandler b x)
  · exact fun b hb => hb.trans (.same rfl rfl)
  · exact fun b _ _ _ hb => hb.trans (calm_observerRemove b _ _ _)
  · exact fun b hb => hb.trans (.same rfl rfl)

theorem calm_modifyAuto (a : Apps) (x : Ptr) (change : Auto → Auto) :
    Calm m a (a.modifyAuto x change) := .same rfl rfl

theorem calm_setTarget (a : Apps) (x : Ptr) (type : CombatEntityType) (id : Int) :
    Calm m a (a.setTarget x type id) :=
  (calm_modifyAuto a x _).trans (calm_observerAdd _ _ _ _)

theorem calm_resetTarget (a : Apps) (x : Ptr) : Calm m a (a.resetTarget x) := by
  rw [resetTarget]
  split
  · exact .refl m a
  · exact (calm_observerRemove a _ _ _).trans (calm_modifyAuto _ x _)

theorem calm_moveTarget (a : Apps) (x : Ptr) : Calm m a (a.moveTarget m x).2 := by
  rw [moveTarget]
  split
  · exact .refl m a
  · split
    · exact calm_sceneMove a _ _ _
    · exact .refl m a

theorem calm_searchTarget (a : Apps) (x : Ptr) : Calm m a (a.searchTarget m x).2 := by
  rw [searchTarget]
  split
  · split
    · exact .refl m a
    · split
      · exact calm_setTarget a x _ _
      · split
        · exact calm_setTarget a x _ _
        · exact .refl m a
  · exact .refl m a

/-! ## Leaving a status -/

theorem calm_changeTargetedNum (a : Apps) (x : Ptr) (increment : Int) :
    Calm m a (a.changeTargetedNum x increment) := by
  rw [changeTargetedNum]
  split
  · exact .refl m a
  · split
    · exact .refl m a
    · exact .same rfl rfl

theorem calm_stopSearch (a : Apps) (x : Ptr) : Calm m a (a.stopSearch x) := by
  rw [stopSearch]
  split
  · exact .refl m a
  · exact (calm_stopTimer a _).trans (calm_modifyAuto _ x _)

theorem calm_stopChase (a : Apps) (x : Ptr) : Calm m a (a.stopChase x) := by
  rw [stopChase]
  split
  · exact .refl m a
  · exact (calm_stopTimer a _).trans (calm_modifyAuto _ x _)

theorem calm_resetAttackTimer (a : Apps) (x : Ptr) : Calm m a (a.resetAttackTimer x) := by
  rw [resetAttackTimer]
  split
  · exact .refl m a
  · exact (calm_stopTimer a _).trans (calm_modifyAuto _ x _)

theorem calm_stopAttack (a : Apps) (x : Ptr) : Calm m a (a.stopAttack x) :=
  ((calm_changeTargetedNum a x (-1)).trans (calm_resetAttackTimer _ x)).trans (calm_resetTarget _ x)

theorem calm_stopPresentStatus (a : Apps) (x : Ptr) : Calm m a (a.stopPresentStatus x) := by
  rw [stopPresentStatus]
  split
  · exact .refl m a
  · rename_i status _
    refine Calm.trans ?_ (calm_observerRemove _ _ _ _)
    cases status with
    | search => exact calm_stopSearch a x
    | chase => exact calm_stopChase a x
    | attack => exact calm_stopAttack a x

theorem calm_switchStatus (a : Apps) (x : Ptr) (status : AutoStatus) :
    Calm m a (a.switchStatus x status) :=
  ((calm_stopPresentStatus a x).trans (calm_modifyAuto _ x _)).trans (calm_observerAdd _ _ _ _)

/-! ## The host of an auto -/

/-- The hosts of the autos. -/
def hosts (a : Apps) (x : Ptr) : Option EntityKey := (a.auto x).host

theorem modifyAuto_hosts {change : Auto → Auto} (hchange : ∀ auto, (change auto).host = auto.host) :
    (a.modifyAuto x change).hosts = a.hosts := by
  have hview : (a.autoPool.modify x change).view Auto.host = a.autoPool.view Auto.host :=
    PoolTemplate.view_modify fun auto _ => hchange auto
  exact funext fun y => PoolTemplate.view_read hview y

theorem observerRemove_hosts (a : Apps) (combatId entityId autoId : Int) :
    (a.observerRemove combatId entityId autoId).hosts = a.hosts := by
  rw [observerRemove]
  split
  · rfl
  · rfl

theorem resetTarget_hosts (a : Apps) (x : Ptr) : (a.resetTarget x).hosts = a.hosts := by
  rw [resetTarget]
  split
  · rfl
  · refine Eq.trans ?_ (observerRemove_hosts a (a.autoKey x).1 (a.auto x).target.id (a.autoKey x).2)
    exact modifyAuto_hosts fun _ => rfl

theorem changeTargetedNum_hosts (a : Apps) (x : Ptr) (increment : Int) :
    (a.changeTargetedNum x increment).hosts = a.hosts := by
  rw [changeTargetedNum]
  split
  · rfl
  · split
    · rfl
    · rfl

theorem stopStatus_hosts (a : Apps) (x : Ptr) (status : AutoStatus) :
    (a.stopStatus x status).hosts = a.hosts := by
  cases status with
  | search =>
    show (a.stopSearch x).hosts = a.hosts
    rw [stopSearch]
    split
    · rfl
    · exact modifyAuto_hosts fun _ => rfl
  | chase =>
    show (a.stopChase x).hosts = a.hosts
    rw [stopChase]
    split
    · rfl
    · exact modifyAuto_hosts fun _ => rfl
  | attack =>
    have hreset : ∀ b : Apps, (b.resetAttackTimer x).hosts = b.hosts := by
      intro b
      rw [resetAttackTimer]
      split
      · rfl
      · exact modifyAuto_hosts fun _ => rfl
    show (a.stopAttack x).hosts = a.hosts
    rw [stopAttack, resetTarget_hosts, hreset, changeTargetedNum_hosts]

/-- The statuses never write the host, so the key of an auto survives a switch. -/
theorem switchStatus_hosts (a : Apps) (x : Ptr) (status : AutoStatus) :
    (a.switchStatus x status).hosts = a.hosts := by
  have hstop : (a.stopPresentStatus x).hosts = a.hosts := by
    rw [stopPresentStatus]
    split
    · rfl
    · exact (observerRemove_hosts _ _ _ _).trans (stopStatus_hosts a x _)
  refine Eq.trans ?_ hstop
  show ((a.stopPresentStatus x).modifyAuto x fun auto =>
    { auto with presentStatus := some status }).hosts = _
  exact modifyAuto_hosts fun _ => rfl

/-! ## Entering a status -/

theorem calm_startSearch (a : Apps) (x : Ptr) : Calm m a (a.startSearch x) :=
  (calm_startTimer (Or.inl rfl) (.search x) (-1)).trans (calm_modifyAuto _ x _)

theorem calm_gotoSearch (a : Apps) (x : Ptr) : Calm m a (a.gotoSearch x) :=
  (calm_switchStatus a x .search).trans (calm_startSearch _ x)

theorem calm_setRefindPathTimer (a : Apps) (x : Ptr) : Calm m a (a.setRefindPathTimer x) :=
  (calm_startTimer (Or.inr (Or.inl rfl)) (.refindPath x) 1).trans (calm_modifyAuto _ x _)

theorem calm_startAttack {field : CombatWarriorField}
    (hfield : m.getWarrior (a.autoKey x).1 (a.autoKey x).2 = some field) :
    Calm m a (a.startAttack m x) := by
  have hperiod : Period m a field.attackSpeed :=
    Or.inr (Or.inr (Or.inr ⟨_, _, field, hfield, rfl⟩))
  have hstart := (calm_startTimer hperiod (.attack x) (-1)).trans
    (calm_modifyAuto (m := m) (a.startTimer field.attackSpeed (.attack x) (-1)).2 x fun auto =>
      { auto with timerIdAttack := (a.startTimer field.attackSpeed (.attack x) (-1)).1 })
  rw [startAttack, hfield]
  exact (hstart.trans (calm_lockTarget _ _ _)).trans (calm_changeTargetedNum _ x 1)

/-- An auto only attacks where it found its warrior. -/
theorem calm_gotoAttack {field : CombatWarriorField}
    (hfield : m.getWarrior (a.autoKey x).1 (a.autoKey x).2 = some field) :
    Calm m a (a.gotoAttack m x) := by
  have hkey : (a.switchStatus x .attack).autoKey x = a.autoKey x := by
    have hhost := congrFun (switchStatus_hosts a x .attack) x
    rw [autoKey, autoKey]
    exact congrArg (fun host => Option.getD host (0, 0)) hhost
  refine (calm_switchStatus a x .attack).trans (calm_startAttack (?_ : _ = some field))
  rw [hkey]
  exact hfield

/-- A target in reach was measured from the warrior of the auto. -/
theorem getWarrior_of_reachable (h : a.checkTargetAttackReachable m x = true) :
    ∃ field, m.getWarrior (a.autoKey x).1 (a.autoKey x).2 = some field := by
  rw [checkTargetAttackReachable] at h
  split at h
  · rename_i field _ hfield
    exact ⟨_, hfield⟩
  · cases h

/-- A chase ends in an attack, in a move, or in a new search when no move starts. -/
theorem calm_chase (a : Apps) (x : Ptr) : Calm m a (a.chase m x) := by
  rw [chase]
  split
  · rename_i hreachable
    obtain ⟨_, hfield⟩ := getWarrior_of_reachable hreachable
    exact calm_gotoAttack hfield
  · have hmove := calm_moveTarget (m := m) a x
    split
    · rename_i b hb
      rwa [hb] at hmove
    · rename_i b hb
      rw [hb] at hmove
      exact hmove.trans (calm_gotoSearch b x)

theorem calm_gotoChase (a : Apps) (x : Ptr) : Calm m a (a.gotoChase m x) :=
  (calm_switchStatus a x .chase).trans (calm_chase _ x)

/-! ## Events and timers of the AI -/

theorem calm_onMoveStep (warriorId : Int) (a : Apps) (x : Ptr) :
    Calm m a (onMoveStep m warriorId a x) := by
  rw [onMoveStep]
  split
  · split
    · exact .refl m a
    · split
      · rename_i hreachable
        obtain ⟨_, hfield⟩ := getWarrior_of_reachable hreachable
        exact calm_gotoAttack hfield
      · split
        · exact calm_setRefindPathTimer a x
        · exact .refl m a
  · split
    · exact .refl m a
    · split
      · split
        · exact calm_gotoChase a x
        · exact .refl m a
      · exact .refl m a
  · exact .refl m a

theorem calm_onTargetLost (entity : CombatEntity) (a : Apps) (x : Ptr) :
    Calm m a (onTargetLost entity a x) := by
  rw [onTargetLost]
  split
  · exact .refl m a
  · exact .refl m a
  · split
    · exact .refl m a
    · exact calm_gotoSearch a x

theorem calm_onAttacked (hostId warriorId : Int) (a : Apps) (x : Ptr) :
    Calm m a (onAttacked m hostId warriorId a x) := by
  rw [onAttacked]
  split
  · split
    · exact .refl m a
    · exact (calm_setTarget a x _ _).trans (calm_gotoChase _ x)
  · exact .refl m a

theorem calm_initializeAuto (a : Apps) (x : Ptr) (key : EntityKey) :
    Calm m a (a.initializeAuto x key) :=
  ((calm_modifyAuto a x _).trans (calm_observerAdd _ _ _ _)).trans (calm_startSearch _ x)

theorem calm_finalizeAuto (a : Apps) (x : Ptr) : Calm m a (a.finalizeAuto x) :=
  (((calm_stopPresentStatus a x).trans (calm_modifyAuto _ x _)).trans
    (calm_resetTarget _ x)).trans (calm_modifyAuto _ x _)

theorem calm_deallocateAuto (a : Apps) (x : Ptr) : Calm m a (a.deallocateAuto x) := .same rfl rfl

theorem calm_dropAuto {key : EntityKey} (h : a.dropAuto key = some a') : Calm m a a' := by
  obtain ⟨x, _, rfl⟩ := Option.map_eq_some_iff.mp h
  have hremove : Calm m a { a with autoes := Function.update a.autoes key none } := .same rfl rfl
  exact (hremove.trans (calm_finalizeAuto _ x)).trans (calm_deallocateAuto _ x)

/-- Every auto of the combat goes, or the loop stops at the first that is missing. -/
theorem calm_dropAutos (combatId : Int) (l : List Int) (a : Apps) :
    Calm m a (a.dropAutos combatId l) := by
  induction l generalizing a with
  | nil => exact .refl m a
  | cons warriorId rest ih =>
    rw [dropAutos]
    split
    · exact .refl m a
    · rename_i b hb
      exact (calm_dropAuto hb).trans (ih b)

/-- The buildings are raised one by one, and a refused one ends the loop early. -/
theorem calm_beginAi (a : Apps) (combatId : Int) :
    Calm m a (a.onEventCombatBeginAi m combatId) := by
  have hround : ∀ (a : Apps) (buildingId : Int),
      Attempts.Ends (Calm m a) (Calm m a) (raiseAiBuilding combatId a buildingId) := by
    intro a buildingId
    rw [raiseAiBuilding]
    split
    · exact .same rfl rfl
    · split
      · exact .same rfl rfl
      · exact .same rfl rfl
  have hloop : ∀ l : List Int,
      Attempts.Ends (Calm m a) (Calm m a) (l.foldlM (raiseAiBuilding combatId) a) := by
    intro l
    refine Attempts.ends_foldlM (I := fun _ => Calm m a) ?_ l (.refl m a)
    intro buildingId rest b hb
    exact (hround b buildingId).mono (fun _ => hb.trans) fun _ => hb.trans
  rw [onEventCombatBeginAi]
  split
  · exact .refl m a
  · split
    · rename_i b hb
      exact (hloop _).error hb
    · rename_i b hb
      exact (hloop _).ok hb

theorem calm_buildAction (a : Apps) (combatId warriorId : Int) :
    Calm m a (a.onEventCombatBuildAction m combatId warriorId) := by
  rw [onEventCombatBuildAction]
  split
  · exact .refl m a
  · split
    · exact .same rfl rfl
    · rename_i x pool _
      have hallocate : Calm m a { a with autoPool := pool } := .same rfl rfl
      have hinit := hallocate.trans (calm_initializeAuto _ x (combatId, warriorId))
      dsimp only
      split
      · exact (hinit.trans (calm_finalizeAuto _ x)).trans (calm_deallocateAuto _ x)
      · exact hinit.trans (.same rfl rfl)

theorem calm_deathAi (a : Apps) (combatId : Int) (target : CombatEntity) :
    Calm m a (a.onEventCombatDeathAi combatId target) := by
  have hdispatch := calm_dispatch (calm_onTargetLost (m := m) target) a combatId target.id
  rw [onEventCombatDeathAi]
  split
  · exact hdispatch
  · cases hdrop : (a.dispatch combatId target.id (onTargetLost target)).dropAuto
      (combatId, target.id) with
    | none => exact hdispatch
    | some b => exact hdispatch.trans (calm_dropAuto hdrop)

theorem calm_convertCampAi (a : Apps) (combatId : Int) (host : CombatEntity) :
    Calm m a (a.onEventCombatConvertCampAi combatId host) := by
  have hdispatch := calm_dispatch (calm_onTargetLost (m := m) host) a combatId host.id
  rw [onEventCombatConvertCampAi]
  split
  · exact hdispatch
  · split
    · exact hdispatch
    · exact hdispatch.trans (.same rfl rfl)

theorem calm_attacked (a : Apps) (combatId warriorId : Int) (host : CombatEntity) :
    Calm m a (a.onEventCombatAttacked m combatId warriorId host) := by
  rw [onEventCombatAttacked]
  split
  · exact .refl m a
  · exact calm_dispatch (calm_onAttacked host.id warriorId) a combatId host.id

theorem calm_settleAi (a : Apps) (combatId : Int) :
    Calm m a (a.onEventCombatSettleAi m combatId) := by
  rw [onEventCombatSettleAi]
  split
  · exact .refl m a
  · exact calm_dropAutos combatId _ a

theorem calm_onTimerSearch (a : Apps) (x : Ptr) : Calm m a (a.onTimerSearch m x) := by
  have hsearch := calm_searchTarget (m := m) a x
  rw [onTimerSearch]
  split
  · rename_i b hb
    rw [hb] at hsearch
    exact hsearch.trans (calm_gotoChase b x)
  · rename_i b hb
    rwa [hb] at hsearch

theorem calm_onTimerRefindPath (a : Apps) (x : Ptr) : Calm m a (a.onTimerRefindPath m x) :=
  (calm_modifyAuto a x _).trans (calm_chase _ x)

end Apps

end Mysya
