import Mysya.MoveTimers
import Mysya.SearchPath
import Mysya.WarriorAttributes

/-!
# The moves of warriors over runs

Warriors set out and go from grid to grid, and whoever meets them answers. Their ways stay sound
but for one stop: a combat stops its timers by ids that its fields keep in 32 bits, and after as
many timers as that the same bits are the id of a timer that moves a warrior of another combat.
-/

open Std OwnedTimers GuardedRuns

namespace Mysya

open CombatManagers Attempts

namespace Apps

variable {a a' : Apps} {m : CombatManagers} {w x : Ptr}

/-! ## Setting out -/

theorem Moving.moveStart (h : a.Moving) (w : Ptr) (destPos : Position) :
    (a.moveStart w destPos).Moving := by
  rw [Apps.moveStart]
  split
  · exact h
  · split
    · exact h
    · rename_i sc hsc
      have hlive : (a.sceneWarriors.objects w).isSome := by
        rw [Option.isSome_iff_ne_none]
        intro hnone
        rw [warrior_of_none hnone] at hsc
        cases hsc
      split
      · exact h
      · obtain ⟨b, hb⟩ : ∃ b, (if (a.warrior w).movePaths.isEmpty then a else a.moveFinish w) = b :=
          ⟨_, rfl⟩
        have hfinished : b.Moving ∧ (b.sceneWarriors.objects w).isSome ∧
            (b.warrior w).movePaths = [] := by
          rw [← hb]
          split
          · rename_i hempty
            exact ⟨h, hlive, List.isEmpty_iff.mp hempty⟩
          · have hparked := parked_moveReset a w
            exact ⟨hparked.quiet.moving h, (hparked.live w).trans hlive, hparked.way.1⟩
        obtain ⟨hmoving, hlive, hway⟩ := hfinished
        dsimp only
        rw [hb]
        split
        · exact hmoving
        · rename_i scene paths _
          have hscene : Quiet b (b.modifyScene sc fun old => { old with toBattleScene := scene }) :=
            quiet_setScene b sc fun _ => rfl
          split
          · rename_i hempty
            have hpaths : paths = [] := List.isEmpty_iff.mp hempty
            refine (hscene.trans (quiet_modifyWarrior _ w fun _ => ?_)).moving hmoving
            rw [hpaths, ← hway]
            rfl
          · rename_i hpaths
            exact (hscene.moving hmoving).setOut hlive hway
              (fun hnil => hpaths (List.isEmpty_iff.mpr hnil)) _

theorem Moving.sceneMove (h : a.Moving) (combatId warriorId : Int) (destPos : Position) :
    (a.onRequireSceneMove combatId warriorId destPos).2.Moving := by
  rw [onRequireSceneMove]
  split
  · exact h
  · split
    · exact h
    · split
      · exact h
      · exact h.moveStart _ destPos

theorem Moving.moveTarget (h : a.Moving) (x : Ptr) : (a.moveTarget m x).2.Moving := by
  rw [Apps.moveTarget]
  split
  · exact h
  · split
    · exact h.sceneMove _ _ _
    · exact h

theorem Moving.chase (h : a.Moving) (x : Ptr) : (a.chase m x).Moving := by
  have htarget := h.moveTarget (m := m) x
  rw [Apps.chase]
  split
  · exact (quiet_gotoAttack a x).moving h
  · split
    · rename_i b hb
      rwa [hb] at htarget
    · rename_i b hb
      rw [hb] at htarget
      exact (quiet_gotoSearch b x).moving htarget

theorem Moving.gotoChase (h : a.Moving) (x : Ptr) : (a.gotoChase m x).Moving :=
  ((quiet_switchStatus a x .chase).moving h).chase x

/-! ## Events -/

theorem Moving.onMoveStep (h : a.Moving) (warriorId : Int) (x : Ptr) :
    (onMoveStep m warriorId a x).Moving := by
  rw [Apps.onMoveStep]
  split
  · split
    · exact h
    · split
      · exact (quiet_gotoAttack a x).moving h
      · split
        · exact (quiet_setRefindPathTimer a x).moving h
        · exact h
  · split
    · exact h
    · split
      · split
        · exact h.gotoChase x
        · exact h
      · exact h
  · exact h

theorem Moving.onAttacked (h : a.Moving) (hostId warriorId : Int) (x : Ptr) :
    (onAttacked m hostId warriorId a x).Moving := by
  rw [Apps.onAttacked]
  split
  · split
    · exact h
    · exact ((quiet_setTarget a x .warrior warriorId).moving h).gotoChase x
  · exact h

theorem Moving.attacked (h : a.Moving) (combatId warriorId : Int) (host : CombatEntity) :
    (a.onEventCombatAttacked m combatId warriorId host).Moving := by
  rw [onEventCombatAttacked]
  split
  · exact h
  · exact dispatch_keeps (I := Moving) Quiet.moving
      (fun b x hb => hb.onAttacked host.id warriorId x) h combatId host.id

theorem Moving.onTimerSearch (h : a.Moving) (x : Ptr) : (a.onTimerSearch m x).Moving := by
  have hsearch := (quiet_searchTarget (m := m) a x).moving h
  rw [Apps.onTimerSearch]
  split
  · rename_i b hb
    rw [hb] at hsearch
    exact hsearch.gotoChase x
  · rename_i b hb
    rwa [hb] at hsearch

theorem Moving.onTimerRefindPath (h : a.Moving) (x : Ptr) : (a.onTimerRefindPath m x).Moving := by
  have hset : Quiet a (a.modifyAuto x fun auto =>
      { auto with timerIdRefindPath := -1, refindPath := false }) :=
    quiet_modifyAuto fun h auto i hi => by
      simp only [Auto.timerIds, List.mem_cons, List.not_mem_nil, or_false] at hi ⊢
      rcases hi with hi | hi | hi
      · exact Or.inl (Or.inl hi)
      · rw [hi]
        exact Or.inr h.1.foreign_none
      · exact Or.inl (Or.inr (Or.inr hi))
  exact (hset.moving h).chase x

/-! ## Steps -/

/-- A warrior is on its way, and maybe at the end of it. -/
structure Stepping (w : Ptr) (a : Apps) : Prop where
  timed : a.Timed
  others : ∀ v, v ≠ w → a.Indexed v
  index : 0 ≤ (a.warrior w).pathIndex
  way : (a.warrior w).movePaths ≠ []

theorem Stepping.moveReset (h : Stepping w a) : (a.moveReset w).Moving :=
  ⟨(parked_moveReset a w).timed h.timed, fun v => (parked_moveReset a w).indexed (h.others v)⟩

theorem Moving.stepping (h : a.Moving) (hway : (a.warrior w).movePaths ≠ []) :
    Stepping w (a.modifyWarrior w fun warrior =>
      { warrior with pathIndex := warrior.pathIndex + 1 }) := by
  obtain ⟨timer, harmed, hcallback⟩ := h.1.moving w hway
  have hlive := h.live ⟨timer, harmed, hcallback⟩
  have hself : (a.modifyWarrior w fun warrior =>
      { warrior with pathIndex := warrior.pathIndex + 1 }).warrior w =
        { a.warrior w with pathIndex := (a.warrior w).pathIndex + 1 } :=
    warrior_modifyWarrior_live hlive _
  have hothers : ∀ v, v ≠ w → (a.modifyWarrior w fun warrior =>
      { warrior with pathIndex := warrior.pathIndex + 1 }).warrior v = a.warrior v :=
    fun v hne => warrior_modifyWarrior_other a hne _
  constructor
  · refine h.1.keep (h.1.pool.modify w _) (fun v => ?_) (fun v => ?_) (fun id v hmove => ?_)
      h.1.timers (Int.le_refl _) (fun _ _ _ harmed _ => harmed) (fun _ _ _ harmed _ => harmed)
      fun _ => Or.inl
    · by_cases hne : v = w
      · rw [hne, hself]
      · rw [hothers v hne]
    · by_cases hne : v = w
      · rw [hne, hself]
      · rw [hothers v hne]
    · exact (PoolTemplate.modify_isSome _).trans (h.live hmove)
  · intro v hne
    rw [Indexed, hothers v hne]
    exact h.2 v
  · rw [hself]
    have hindex := (h.2 w).1
    exact Int.le_add_one hindex
  · rw [hself]
    exact hway

theorem Stepping.stepTo (h : Stepping w a) (sc : Ptr) (i j : Nat) (pos : Position) :
    (a.stepTo sc w i j pos).Moving := by
  obtain ⟨b, hb⟩ : ∃ b : Apps, b.sceneWarriors = a.sceneWarriors ∧ b.timers = a.timers ∧
      (∀ id, b.Stops id → a.Stops id) ∧ a.stepTo sc w i j pos =
        if ((b.warrior w).movePaths.length : Int) ≤ (b.warrior w).pathIndex then b.moveReset w
        else b := by
    refine ⟨_, ?_, ?_, ?_, rfl⟩
    · rfl
    · rfl
    · rintro id (hx | ⟨sc', hsc⟩)
      · exact Or.inl hx
      · refine Or.inr ⟨sc', hsc.trans ?_⟩
        rw [scene, scene]
        by_cases heq : sc' = sc
        · subst heq
          rw [PoolTemplate.read, PoolTemplate.read]
          show (((a.scenePool.modify sc' _).objects sc').getD default).timerIdPrintStatusImage = _
          rw [PoolTemplate.modify_self]
          cases a.scenePool.objects sc' with
          | none => rfl
          | some old => rfl
        · exact congrArg TimedScene.timerIdPrintStatusImage
            (PoolTemplate.read_modify_other _ heq _)
  obtain ⟨hwarriors, htimers, hstops, heq⟩ := hb
  have hwarrior : ∀ v, b.warrior v = a.warrior v := by
    intro v
    rw [warrior, hwarriors, warrior]
  have hstepping : Stepping w b := by
    constructor
    · refine h.timed.keep ?_ (fun v => by rw [hwarrior]) (fun v => by rw [hwarrior]) ?_ ?_ ?_ ?_ ?_
        fun id hid => Or.inl (hstops id hid)
      · rw [hwarriors]
        exact h.timed.pool
      · rintro id v ⟨timer, harmed, hcallback⟩
        rw [hwarriors]
        exact (h.timed.own id timer v harmed hcallback).2.1
      · rw [TimersSound, htimers]
        exact h.timed.timers
      · rw [htimers]
      · intro id timer v harmed _
        rwa [htimers] at harmed
      · intro id timer v harmed _
        rwa [htimers]
    · intro v hne
      rw [Indexed, hwarrior]
      exact h.others v hne
    · rw [hwarrior]
      exact h.index
    · rw [hwarrior]
      exact h.way
  rw [heq]
  split
  · exact hstepping.moveReset
  · rename_i hshort
    refine ⟨hstepping.timed, fun v => ?_⟩
    by_cases hne : v = w
    · rw [hne]
      exact ⟨hstepping.index, fun hway => absurd hway hstepping.way, fun _ => by omega⟩
    · exact hstepping.others v hne

theorem Moving.moveStep (h : a.Moving) (hway : (a.warrior w).movePaths ≠ []) :
    (a.moveStep m w).Moving := by
  have hstepping := h.stepping hway
  rw [Apps.moveStep]
  split
  · exact (quiet_moveReset a w).moving h
  · rename_i sc _
    split
    · exact (quiet_moveReset a w).moving h
    · rename_i i _
      dsimp only
      split
      · exact hstepping.moveReset
      · rename_i j _
        exact dispatch_keeps (I := Moving) Quiet.moving (fun b x hb => hb.onMoveStep _ x)
          (hstepping.stepTo sc i j _) _ _

end Apps

namespace Server

open Apps

variable {s : Server} {p q : Ptr} {combatId : Int}

/-! ## Settling and beginning -/

/-- A combat without camps. -/
def bare : CombatInitialData where
  mapId := 1
  maxTime := 60
  camps := []

/-- Three open cells in a row, and one that is not. -/
structure Row (t : Scene) : Prop where
  height : t.height = 1
  width : t.width = 4
  nodes : ∀ n : Nat, n < 4 → (t.nodes n).pos = ⟨n, 0⟩ ∧ (t.nodes n).walkable = decide (n ≠ 3)

/-- Role 7 is in combat 0, and combat 1 has nothing. -/
structure Quartered (m : CombatManagers) : Prop where
  role : m.roles[(7 : UInt64)]? = some 0 ∧ (m.role 0).combatField = some 0 ∧ (m.combat 0).id = 0
  combat : m.combats[(1 : Int)]? = some 1 ∧ (m.combatPool.objects 1).isSome ∧ (m.combat 1).id = 1
  bare : (m.combat 1).roles.toList = [] ∧ (m.combat 1).buildings.toList = [] ∧
    (m.combat 1).buildings.keys = [] ∧ (m.combat 1).warriors.keys = []

/-- Warrior 3 was sent `n` more times since. -/
structure Sent (n : Nat) (a : Apps) : Prop where
  ids : a.timers.ids = 7 + n
  fuel : a.searchFuel = 100
  vote : a.onVoteSceneMove 0 3 = true
  scenes : a.scenes 0 = some 0 ∧ a.scenes 1 = none
  pool : a.scenePool.list = [] ∧ a.scenePool.extendSize = 1 ∧ a.scenePool.news = [some 1] ∧
    (a.scenePool.objects 0).isSome ∧ a.scenePool.objects 1 = none
  row : Row (a.scene 0).toScene
  open1 : ((a.scene 0).grids 1).getWalkable = true
  warriors : (a.scene 0).warriors[(3 : Int)]? = some 1
  pos : a.originPos (0, 3) = ⟨2, 0⟩
  marching : (a.sceneWarriors.objects 0).isSome ∧ (a.warrior 0).movePaths.length = 2 ∧
    (a.warrior 0).timerMoveToken = 6
  sent : (a.sceneWarriors.objects 1).isSome ∧ (a.warrior 1).host = some (0, 3) ∧
    (a.warrior 1).scene = some 0 ∧ (a.warrior 1).movePaths ≠ [] ∧ (a.warrior 1).timerMoveToken ≠ -1

namespace Row

variable {t : Scene}

theorem getNode (t : Scene) (x : Int) : t.getNode ⟨x, 0⟩ = x.toNat := by
  simp [Scene.getNode]

theorem inMap_iff (h : Row t) {x y : Int} : t.inMap ⟨x, y⟩ = true ↔ 0 ≤ x ∧ x < 4 ∧ y = 0 := by
  rw [Scene.inMap, h.height, h.width, decide_eq_true_eq]
  dsimp only
  constructor
  · rintro ⟨hlow, hhigh, hrow, hrow'⟩
    exact ⟨hlow, hhigh, by omega⟩
  · rintro ⟨hlow, hhigh, rfl⟩
    exact ⟨hlow, hhigh, by decide⟩

theorem laid (h : Row t) : t.Laid := by
  rintro ⟨x, y⟩ hpos
  obtain ⟨hlow, hhigh, rfl⟩ := h.inMap_iff.mp hpos
  rw [getNode, (h.nodes x.toNat (by omega)).1, Int.toNat_of_nonneg hlow]

theorem neighbors (h : Row t) : t.getNeighborNodes 2 = [1] := by
  have hpos := (h.nodes 2 (by decide)).1
  have hclosed := (h.nodes 3 (by decide)).2
  have hopen := (h.nodes 1 (by decide)).2
  rw [Scene.getNeighborNodes, hpos, h.height, h.width]
  simp [Scene.loopRange, Scene.stdMax, Scene.stdMin, List.range_succ, getNode, hopen, hclosed]

/-- The next cell is found, whatever searches there were before. -/
theorem searchPath (h : Row t) : ∃ t' paths,
    t.searchPath 100 ⟨2, 0⟩ ⟨1, 0⟩ [] = some (t', paths) ∧ paths ≠ [] ∧ Row t' := by
  have hb : t.inMap ⟨2, 0⟩ = true := h.inMap_iff.mpr (by decide)
  have he : t.inMap ⟨1, 0⟩ = true := h.inMap_iff.mpr (by decide)
  have hreturns := Scene.searchPath_beside hb he
    (by rw [getNode, getNode]; exact h.neighbors) (by rw [getNode, getNode]; decide) 96
  obtain ⟨⟨t', paths⟩, hsearch⟩ := Option.isSome_iff_exists.mp hreturns
  obtain ⟨hheight, hwidth, hpos, hwalkable⟩ := Scene.searchPath_keeps h.laid hsearch
  refine ⟨t', paths, hsearch, ?_, hheight.trans h.height, hwidth.trans h.width, fun n hn => ?_⟩
  · refine Scene.searchPath_nonempty h.laid hb (by decide) (Relation.ReflTransGen.single ?_) hsearch
    refine ⟨by decide, he, ?_⟩
    rw [getNode]
    exact (h.nodes 1 (by decide)).2
  · rw [hpos, hwalkable]
    exact h.nodes n hn

end Row

/-- A warrior that is on its way starts anew. -/
theorem moveStart_again {a : Apps} {w sc : Ptr} {warrior : Warrior} {destPos : Position} {t : Scene}
    {paths : List Position} (hwarrior : a.sceneWarriors.objects w = some warrior)
    (hscene : warrior.scene = some sc) (hmoving : warrior.movePaths ≠ [])
    (htoken : warrior.timerMoveToken ≠ -1) (hne : a.warriorPos w ≠ destPos)
    (hwalkable : (a.scene sc).getWalkable destPos = true)
    (hsearch : (a.scene sc).toScene.searchPath a.searchFuel (a.warriorPos w) destPos [] =
      some (t, paths)) (hpaths : paths ≠ []) :
    (a.moveStart w destPos).timers.ids = a.timers.ids + 1 ∧
      (a.moveStart w destPos).sceneWarriors.objects w = some { warrior with
        pathIndex := 0, movePaths := paths, timerMoveToken := a.timers.ids + 1 } ∧
      (∀ v ≠ w, (a.moveStart w destPos).sceneWarriors.objects v = a.sceneWarriors.objects v) ∧
      (a.moveStart w destPos).scenePool = (a.scenePool.modify sc fun scene =>
        { scene with toBattleScene := { (a.scene sc).toBattleScene with toScene := t } }) ∧
      (a.moveStart w destPos).scenes = a.scenes ∧
      (a.moveStart w destPos).originPos = a.originPos ∧
      (a.moveStart w destPos).autoes = a.autoes ∧
      (a.moveStart w destPos).autoPool = a.autoPool ∧
      (a.moveStart w destPos).searchFuel = a.searchFuel := by
  have hread : a.warrior w = warrior := by
    rw [Apps.warrior, PoolTemplate.read, hwarrior]
    rfl
  obtain ⟨b, hb⟩ : ∃ b, a.moveFinish w = b := ⟨_, rfl⟩
  have hfinish : b = { a with
      timers := a.timers.stop warrior.timerMoveToken
      sceneWarriors := (a.sceneWarriors.modify w fun warrior =>
        { warrior with timerMoveToken := -1 }).modify w fun warrior =>
          { warrior with pathIndex := 0, movePaths := [] } } := by
    rw [← hb, moveFinish, moveReset, hread, if_neg htoken]
    rfl
  have hbread : b.warrior w =
      { warrior with timerMoveToken := -1, pathIndex := 0, movePaths := [] } := by
    rw [hfinish]
    simp [Apps.warrior, PoolTemplate.read, hwarrior]
  have hbpos : b.warriorPos w = a.warriorPos w := by
    rw [warriorPos, warriorPos, hbread, hread, hfinish]
  have hbsearch : (b.scene sc).searchPath b.searchFuel (b.warriorPos w) destPos
      (b.warrior w).movePaths =
        some ({ (a.scene sc).toBattleScene with toScene := t }, paths) := by
    have hscene : b.scene sc = a.scene sc := by rw [hfinish]; rfl
    have hfuel : b.searchFuel = a.searchFuel := by rw [hfinish]
    rw [hbpos, hbread, hscene, hfuel, BattleScene.searchPath, hsearch]
    rfl
  rw [moveStart, if_neg hne, hread, hscene]
  dsimp only
  rw [hwalkable, if_neg (by decide), hb, if_neg (by simpa using hmoving), hbsearch]
  dsimp only
  rw [if_neg (by simpa using hpaths)]
  subst hfinish
  refine ⟨rfl, ?_, fun v hv => ?_, rfl, rfl, rfl, rfl, rfl, rfl⟩
  · simp [modifyWarrior, Apps.startTimer, modifyScene, hwarrior, hscene, Timers.start, Timers.stop]
  · simp [modifyWarrior, Apps.startTimer, modifyScene, hv]

theorem Sent.move {n : Nat} (hquartered : Quartered s.managers) (h : Sent n s.apps) :
    Quartered (s.step (.move 7 [3] ⟨1, 0⟩)).managers ∧
      Sent (n + 1) (s.step (.move 7 [3] ⟨1, 0⟩)).apps := by
  have hstep : s.step (.move 7 [3] ⟨1, 0⟩) = { s with apps := s.apps.moveStart 1 ⟨1, 0⟩ } := by
    rw [step, hquartered.role.1]
    dsimp only
    rw [doMoveAction, hquartered.role.2.1]
    dsimp only
    rw [List.foldl_cons, List.foldl_nil, hquartered.role.2.2, onRequireSceneMove, h.vote,
      if_neg (by decide), h.scenes.1]
    dsimp only
    rw [h.warriors]
  obtain ⟨hlive, hhost, hscene, hmoving, htoken⟩ := h.sent
  obtain ⟨warrior, hwarrior⟩ := Option.isSome_iff_exists.mp hlive
  have hread : s.apps.warrior 1 = warrior := by
    rw [Apps.warrior, PoolTemplate.read, hwarrior]
    rfl
  have hpos : s.apps.warriorPos 1 = ⟨2, 0⟩ := by
    rw [warriorPos, hhost]
    exact h.pos
  rw [hread] at hhost hscene hmoving htoken
  have hgrid : (s.apps.scene 0).getWalkable ⟨1, 0⟩ = true := by
    have hin : (s.apps.scene 0).inMap ⟨1, 0⟩ = true := h.row.inMap_iff.mpr (by decide)
    rw [BattleScene.getWalkable, BattleScene.getGrid, hin]
    simpa using h.open1
  obtain ⟨t, paths, hsearch, hpaths, hrow⟩ := h.row.searchPath
  obtain ⟨hids, hself, hothers, hpool, hscenes, horigin, hautoes, hautoPool, hfuel⟩ :=
    moveStart_again hwarrior hscene hmoving htoken
      (by rw [hpos]; decide : s.apps.warriorPos 1 ≠ ⟨1, 0⟩) hgrid
      (by rw [hpos, h.fuel]; exact hsearch) hpaths
  rw [hstep]
  refine ⟨hquartered, ?_⟩
  dsimp only
  have hboard : (s.apps.moveStart 1 ⟨1, 0⟩).scene 0 =
      { s.apps.scene 0 with toScene := t } := by
    rw [Apps.scene, hpool]
    exact PoolTemplate.read_modify h.pool.2.2.2.1 _
  have hfirst : (s.apps.moveStart 1 ⟨1, 0⟩).warrior 0 = s.apps.warrior 0 := by
    rw [Apps.warrior, PoolTemplate.read, hothers 0 (by decide)]
    rfl
  have hsecond : (s.apps.moveStart 1 ⟨1, 0⟩).warrior 1 = { warrior with
      pathIndex := 0, movePaths := paths, timerMoveToken := s.apps.timers.ids + 1 } := by
    rw [Apps.warrior, PoolTemplate.read, hself]
    rfl
  constructor
  · rw [hids, h.ids]
    omega
  · rw [hfuel, h.fuel]
  · rw [onVoteSceneMove, hautoes, hautoPool]
    exact h.vote
  · rw [hscenes]
    exact h.scenes
  · rw [hpool]
    obtain ⟨hlist, hextend, hnews, hzero, hone⟩ := h.pool
    exact ⟨hlist, hextend, hnews, (PoolTemplate.modify_isSome _).trans hzero,
      (PoolTemplate.modify_other _ (by decide) _).trans hone⟩
  · rw [hboard]
    exact hrow
  · rw [hboard]
    exact h.open1
  · rw [hboard]
    exact h.warriors
  · rw [horigin, h.pos]
  · rw [hothers 0 (by decide), hfirst]
    exact h.marching
  · rw [hself, hsecond]
    refine ⟨rfl, hhost, hscene, hpaths, ?_⟩
    have hids := h.ids
    show s.apps.timers.ids + 1 ≠ -1
    omega

theorem Sent.replicate {k : Nat} (hquartered : Quartered s.managers) (h : Sent k s.apps) (n : Nat) :
    Quartered (run s (List.replicate n (.move 7 [3] ⟨1, 0⟩))).managers ∧
      Sent (k + n) (run s (List.replicate n (.move 7 [3] ⟨1, 0⟩))).apps := by
  induction n generalizing s k with
  | zero => exact ⟨hquartered, h⟩
  | succ n ih =>
    obtain ⟨hquartered', h'⟩ := h.move hquartered
    have hrest := ih hquartered' h'
    rw [Nat.add_right_comm] at hrest
    exact hrest

/-- Combat 1 is on a scene with nothing on it, and its recovery timer has the id `id`. -/
structure Held (id : Int) (s : Server) : Prop where
  combat : s.managers.combats[(1 : Int)]? = some 1 ∧ (s.managers.combatPool.objects 1).isSome ∧
    (s.managers.combat 1).id = 1
  bare : (s.managers.combat 1).warriors.keys = []
  kept : (s.managers.combat 1).timerIdResourceRecover = toInt32 id
  armed : (s.apps.timers.armed (id - 1)).map Timer.callback = some (.settle 1)
  scene : s.apps.scenes 1 = some 1 ∧ (s.apps.scene 1).warriors.toList = []
  marching : (s.apps.sceneWarriors.objects 0).isSome ∧ (s.apps.warrior 0).movePaths.length = 2 ∧
    (s.apps.warrior 0).timerMoveToken = 6

/-- Combat 1 has no role, so that nothing is allocated. -/
theorem Quartered.beginning {m : CombatManagers} {a : Apps} (h : Quartered m) :
    let s : Server := ⟨m, a⟩
    (s.beginning 1).managers.combats = m.combats ∧
      ((s.beginning 1).managers.combatPool.objects 1).isSome ∧
      (s.beginning 1).managers.combat 1 = { m.combat 1 with
        timerIdSettle := toInt32 (a.timers.ids + 1)
        timerIdResourceRecover := toInt32 (a.timers.ids + 1 + 1) } := by
  intro s
  have hfirst : (s.setSettleTimer 1).managers.combat 1 = { m.combat 1 with
      timerIdSettle := toInt32 (a.timers.ids + 1) } := modifyCombat_combat h.combat.2.1 _
  have hlive : ((s.setSettleTimer 1).managers.combatPool.objects 1).isSome :=
    (PoolTemplate.modify_isSome _).trans h.combat.2.1
  have hsecond : ((s.setSettleTimer 1).setResourceRecoverTimer 1).managers.combat 1 =
      { m.combat 1 with
        timerIdSettle := toInt32 (a.timers.ids + 1)
        timerIdResourceRecover := toInt32 (a.timers.ids + 1 + 1) } := by
    refine (modifyCombat_combat hlive _).trans ?_
    rw [hfirst]
    rfl
  have hsupply : (s.beginning 1).managers =
      ((s.setSettleTimer 1).setResourceRecoverTimer 1).managers := by
    show CombatManagers.allocateBuildingSupply _ 1 = _
    rw [allocateBuildingSupply, hsecond, h.bare.1]
    rfl
  rw [hsupply]
  exact ⟨rfl, (PoolTemplate.modify_isSome _).trans hlive, hsecond⟩

theorem Sent.begin {n : Nat} (hquartered : Quartered s.managers) (h : Sent n s.apps) :
    Held (9 + n) (s.step (.begin 0 1)) := by
  obtain ⟨hcombats, hlive, hcombat⟩ := hquartered.beginning (a := s.apps)
  have hids := h.ids
  obtain ⟨t, ht⟩ : ∃ t, s.beginning 1 = t := ⟨_, rfl⟩
  have htimers : t.apps.timers.ids = s.apps.timers.ids + 1 + 1 ∧
      (t.apps.timers.armed (s.apps.timers.ids + 1)).map Timer.callback = some (.settle 1) := by
    rw [← ht]
    refine ⟨rfl, ?_⟩
    show (Function.update (Function.update s.apps.timers.armed (s.apps.timers.ids + 1) _)
      (s.apps.timers.ids + 1 + 1) _ (s.apps.timers.ids + 1)).map _ = _
    rw [Function.update_of_ne (by omega), Function.update_self]
    rfl
  have happs : t.apps.scenes = s.apps.scenes ∧ t.apps.scenePool = s.apps.scenePool ∧
      t.apps.sceneWarriors = s.apps.sceneWarriors := by
    rw [← ht]
    exact ⟨rfl, rfl, rfl⟩
  rw [ht] at hcombats hlive hcombat
  have hfound : t.managers.combats[(1 : Int)]? = some 1 := hcombats ▸ hquartered.combat.1
  have hai : t.apps.onEventCombatBeginAi t.managers 1 = t.apps := by
    rw [onEventCombatBeginAi, hfound]
    dsimp only
    rw [hcombat, hquartered.bare.2.2.1]
    rfl
  obtain ⟨hlist, hextend, hnews, _, hfree⟩ := h.pool
  obtain ⟨c, hc, hcsame, hcscene⟩ : ∃ c,
      t.apps.allocateScene (t.managers.combat 1).mapId = some (some 1, c) ∧
      (c.timers = t.apps.timers ∧ c.scenes = t.apps.scenes ∧
        c.sceneWarriors = t.apps.sceneWarriors) ∧
      (c.scenePool.objects 1).map (fun scene => scene.warriors.toList) = some [] := by
    rw [allocateScene, happs.2.1, PoolTemplate.allocate_new hlist hextend hnews hfree]
    refine ⟨_, rfl, ⟨rfl, rfl, rfl⟩, ?_⟩
    simp only [modifyScene, PoolTemplate.modify_self, Function.update_self, Option.map_some]
    cases t.apps.sceneConfs (t.managers.combat 1).mapId with
    | none => rfl
    | some conf => rfl
  obtain ⟨b, hb, hbarmed, hbscenes, hbscene, hbwarriors⟩ : ∃ b,
      t.apps.onEventCombatBeginScene t.managers 1 = some b ∧
      b.timers.armed (s.apps.timers.ids + 1) = t.apps.timers.armed (s.apps.timers.ids + 1) ∧
      b.scenes 1 = some 1 ∧
      (b.scenePool.objects 1).map (fun scene => scene.warriors.toList) = some [] ∧
      b.sceneWarriors = t.apps.sceneWarriors := by
    have hid : (t.managers.combat 1).id = 1 := by
      rw [hcombat]
      exact hquartered.combat.2.2
    have hbuildings : (t.managers.combat 1).buildings.toList = [] := by
      rw [hcombat]
      exact hquartered.bare.2.1
    have hnone : (c.initializeScene 1 1).scenes 1 = none := by
      rw [show (c.initializeScene 1 1).scenes = c.scenes from rfl, hcsame.2.1, happs.1]
      exact h.scenes.2
    rw [onEventCombatBeginScene, hfound]
    dsimp only
    rw [hc]
    dsimp only
    rw [raiseScene, hbuildings, List.foldlM_nil, hid]
    dsimp only [Pure.pure, Except.pure]
    rw [hnone, if_neg (by decide)]
    refine ⟨_, rfl, ?_, ?_, ?_, hcsame.2.2⟩
    · show Function.update c.timers.armed (c.timers.ids + 1) _ _ = _
      rw [hcsame.1, htimers.1]
      exact Function.update_of_ne (by omega) ..
    · show Function.update c.scenes 1 (some 1) 1 = some 1
      rw [Function.update_self]
    · obtain ⟨scene, hscene, hempty⟩ := Option.map_eq_some_iff.mp hcscene
      show (Function.update c.scenePool.objects 1 ((c.scenePool.objects 1).map _) 1).map _ = _
      rw [Function.update_self, hscene]
      exact congrArg some hempty
  have hstep : s.step (.begin 0 1) =
      { managers := t.managers.send 0 (.beginResponse true 1), apps := b } := by
    rw [step, onMessageCombatBeginRequest, hquartered.combat.1]
    dsimp only
    rw [ht, hai, hb]
  rw [hstep]
  obtain ⟨scene, hscene, hempty⟩ := Option.map_eq_some_iff.mp hbscene
  have hnine : s.apps.timers.ids + 1 = 9 + n - 1 := by omega
  rw [hnine] at hbarmed htimers
  constructor
  · refine ⟨hfound, hlive, ?_⟩
    show (t.managers.combat 1).id = 1
    rw [hcombat]
    exact hquartered.combat.2.2
  · show (t.managers.combat 1).warriors.keys = []
    rw [hcombat]
    exact hquartered.bare.2.2.2
  · show (t.managers.combat 1).timerIdResourceRecover = toInt32 (9 + n)
    rw [hcombat]
    exact congrArg toInt32 (by omega)
  · rw [hbarmed]
    exact htimers.2
  · refine ⟨hbscenes, ?_⟩
    rw [Apps.scene, PoolTemplate.read, hscene]
    exact hempty
  · show (b.sceneWarriors.objects 0).isSome ∧ (b.sceneWarriors.read 0).movePaths.length = 2 ∧
      (b.sceneWarriors.read 0).timerMoveToken = 6
    rw [hbwarriors, happs.2.2]
    exact h.marching

theorem stopCombatTimer_armed (s : Server) {id : Int} (hid : id ≠ -1) :
    (s.stopCombatTimer id).apps.timers.armed id = none := by
  rw [stopCombatTimer, if_neg hid]
  exact Function.update_self id none s.apps.timers.armed

theorem stopCombatTimer_warriors (s : Server) (id : Int) :
    (s.stopCombatTimer id).apps.sceneWarriors = s.apps.sceneWarriors := by
  rw [stopCombatTimer]
  split
  · rfl
  · rfl

/-- A scene without warriors takes none along. -/
theorem abandonScene_warriors {a : Apps} {sc : Ptr} (h : (a.scene sc).warriors.toList = []) :
    (a.abandonScene sc).sceneWarriors = a.sceneWarriors := by
  have hbuildings : ∀ (l : List (Int × Ptr)) (b : Apps),
      (l.foldl (fun b entry => b.deallocateBuilding entry.2) b).sceneWarriors =
        b.sceneWarriors := by
    intro l
    induction l with
    | nil => exact fun _ => rfl
    | cons entry l ih => exact fun b => ih (b.deallocateBuilding entry.2)
  rw [abandonScene, finalizeScene]
  dsimp only
  rw [h, List.foldl_nil]
  refine (hbuildings _ _).trans ?_
  split
  · rfl
  · rfl

/-- Settling stops the timer that moves the warrior of combat 0, where its id has the bits that
the field of combat 1 keeps. -/
theorem Held.settle {id : Int} (h : Held id s) (hbits : toInt32 id = 6) :
    (s.step (.expire (id - 1))).apps.timers.armed 6 = none ∧
      (s.step (.expire (id - 1))).apps.sceneWarriors = s.apps.sceneWarriors := by
  obtain ⟨timer, harmed, hcallback⟩ := Option.map_eq_some_iff.mp h.armed
  obtain ⟨timers, hexpire⟩ : ∃ timers,
      s.apps.timers.expire (id - 1) = some (.settle 1, timers) := by
    rw [Timers.expire, harmed, ← hcallback]
    exact ⟨_, rfl⟩
  obtain ⟨u, hu⟩ : ∃ u : Server, { s with apps := { s.apps with timers := timers } } = u := ⟨_, rfl⟩
  have hmanagers : u.managers = s.managers := by rw [← hu]
  have hscenes : u.apps.scenes = s.apps.scenes ∧ u.apps.scene 1 = s.apps.scene 1 ∧
      u.apps.sceneWarriors = s.apps.sceneWarriors := by
    rw [← hu]
    exact ⟨rfl, rfl, rfl⟩
  have hcall : s.step (.expire (id - 1)) = (u.onRequireCombatSettle 1).2 := by
    have hbound : u.bound (.settle 1) = true := by
      rw [bound, hmanagers]
      exact h.combat.2.1
    rw [step, expire, hexpire]
    dsimp only
    rw [hu, if_pos hbound, call, hmanagers, h.combat.2.2]
  have hai : u.apps.onEventCombatSettleAi s.managers 1 = u.apps := by
    rw [onEventCombatSettleAi, h.combat.1]
    dsimp only
    rw [h.bare]
    rfl
  have hscene : (u.apps.onEventCombatSettleScene 1).sceneWarriors = s.apps.sceneWarriors := by
    rw [onEventCombatSettleScene, hscenes.1, h.scene.1]
    refine (abandonScene_warriors ?_).trans hscenes.2.2
    show (u.apps.scene 1).warriors.toList = []
    rw [hscenes.2.1]
    exact h.scene.2
  rw [hcall, onRequireCombatSettle, hmanagers, h.combat.1]
  dsimp only
  rw [hai, closeCombat]
  dsimp only
  rw [h.kept, hbits]
  constructor
  · exact stopCombatTimer_armed _ (by decide)
  · rw [stopCombatTimer_warriors, stopCombatTimer_warriors]
    exact hscene

end Server

end Mysya
