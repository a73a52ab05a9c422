import Mysya.LostTargets
import Mysya.MoveTimers
import Mysya.PathCost

/-!
# What becomes of a required move

`MoveAction::Start` returns without a word where there is no way, and `OnRequireSceneMove`
reports success all the same. The warrior moves exactly if it can.
-/

open Std OwnedTimers GuardedRuns

namespace Mysya

namespace Apps

variable {a : Apps} {w x sc : Ptr} {destPos : Position} {m : CombatManagers}

/-- The warrior of a combat's scene. -/
def sceneWarrior (a : Apps) (combatId warriorId : Int) : Option Ptr :=
  (a.scenes combatId).bind fun sc => (a.scene sc).warriors[warriorId]?

def withFuel (a : Apps) (fuel : Nat) : Apps := { a with searchFuel := fuel }

/-- The warrior has an armed move whose last cell is the destination. -/
structure OnTheWay (a : Apps) (w : Ptr) (destPos : Position) : Prop where
  armed : a.MoveTimer (a.warrior w).timerMoveToken w
  ends : (a.warrior w).movePaths.getLast? = some destPos

/-- The warrior stands on the destination, or is on the way to it. -/
def Moves (a : Apps) (w : Ptr) (destPos : Position) : Prop :=
  a.warriorPos w = destPos ∨ a.OnTheWay w destPos

/-- The warrior's scene is there, and the destination is walkable. -/
def Admits (a : Apps) (w : Ptr) (destPos : Position) : Prop :=
  ∃ sc, (a.warrior w).scene = some sc ∧ (a.scene sc).getWalkable destPos = true

/-- Walkable nodes lead from the warrior to the destination. -/
def Connected (a : Apps) (w : Ptr) (destPos : Position) : Prop :=
  ∃ sc, (a.warrior w).scene = some sc ∧ (a.scene sc).inMap (a.warriorPos w) = true ∧
    Relation.ReflTransGen (a.scene sc).StepTo (a.warriorPos w) destPos

/-- The nodes of the warrior's scene are those of its map. -/
def LaidOut (a : Apps) (w : Ptr) : Prop :=
  ∀ sc, (a.warrior w).scene = some sc → (a.scene sc).Laid

/-- The warrior need not move, or it can; or nothing becomes of the requirement, and the
warrior is on that way from before. -/
def CanMove (a : Apps) (w : Ptr) (destPos : Position) : Prop :=
  a.warriorPos w = destPos ∨ (a.Admits w destPos ∧ a.LaidOut w ∧ a.Connected w destPos) ∨
    (¬ a.Admits w destPos ∧ a.OnTheWay w destPos)

/-! ## The search -/

theorem inMap_of_getWalkable {s : BattleScene} (h : s.getWalkable destPos = true) :
    s.inMap destPos = true := by
  rw [BattleScene.getWalkable, BattleScene.getGrid] at h
  cases hmap : s.inMap destPos with
  | true => rfl
  | false => simp [hmap] at h

theorem searchPath_cases {s : BattleScene} (laid : s.Laid) {beginPos : Position}
    (hwalkable : s.getWalkable destPos = true) (hne : beginPos ≠ destPos) {fuel : Nat}
    {s' : BattleScene} {paths : List Position}
    (h : s.searchPath fuel beginPos destPos [] = some (s', paths)) :
    (paths ≠ [] ↔ s.inMap beginPos = true ∧ Relation.ReflTransGen s.StepTo beginPos destPos) ∧
      (paths ≠ [] → paths.getLast? = some destPos) := by
  obtain ⟨⟨t, path⟩, hsearch, heq⟩ := Option.map_eq_some_iff.mp h
  obtain ⟨rfl, rfl⟩ := Prod.mk.inj heq
  have he := inMap_of_getWalkable hwalkable
  by_cases hb : s.inMap beginPos = true
  · have hvalid := Scene.searchPath_sound laid hb he hsearch
    refine ⟨⟨fun hpath => ⟨hb, ?_⟩, fun hreach => ?_⟩, fun hpath => (hvalid hpath).ends⟩
    · exact (hvalid hpath).isWalk.reachable
    · exact Scene.searchPath_nonempty laid hb (Ne.symm hne) hreach.2 hsearch
  · have hnil : path = [] := by
      rw [Scene.searchPath, if_pos (by simpa using hb)] at hsearch
      exact ((Prod.mk.inj (Option.some.inj hsearch)).2).symm
    simp [hnil, hb]

/-! ## The start of a move -/

theorem live_of_scene (h : (a.warrior w).scene = some sc) : (a.sceneWarriors.objects w).isSome := by
  rw [warrior, PoolTemplate.read] at h
  cases hobject : a.sceneWarriors.objects w with
  | none =>
    rw [hobject] at h
    cases h
  | some warrior => rfl

theorem moveFinish_idle (hlive : (a.sceneWarriors.objects w).isSome) :
    ((a.moveFinish w).warrior w).movePaths = [] ∧
      (a.moveFinish w).warriorPos w = a.warriorPos w ∧
      ((a.moveFinish w).sceneWarriors.objects w).isSome := by
  rw [moveFinish, moveReset]
  split
  · refine ⟨?_, ?_, (PoolTemplate.modify_isSome _).trans hlive⟩
    · rw [warrior_modifyWarrior_live hlive]
    · rw [warriorPos, warrior_modifyWarrior_live hlive]
      rfl
  · have hstopped : (((a.stopTimer (a.warrior w).timerMoveToken).modifyWarrior w fun warrior =>
        { warrior with timerMoveToken := -1 }).sceneWarriors.objects w).isSome :=
      (PoolTemplate.modify_isSome _).trans hlive
    refine ⟨?_, ?_, (PoolTemplate.modify_isSome _).trans hstopped⟩
    · rw [warrior_modifyWarrior_live hstopped]
    · rw [warriorPos, warrior_modifyWarrior_live hstopped,
        warrior_modifyWarrior_live (by exact hlive)]
      rfl

theorem moveFinish_scene (a : Apps) (w sc : Ptr) :
    (a.moveFinish w).scene sc = a.scene sc ∧ (a.moveFinish w).searchFuel = a.searchFuel := by
  rw [moveFinish, moveReset]
  split
  · exact ⟨rfl, rfl⟩
  · exact ⟨rfl, rfl⟩

theorem startMove_armed {a : Apps} (hlive : (a.sceneWarriors.objects w).isSome) (expireMs : Int) :
    let started := a.startTimer expireMs (.move w) (-1)
    let b := started.2.modifyWarrior w fun warrior =>
      { warrior with timerMoveToken := started.1 }
    b.warriorPos w = a.warriorPos w ∧ (b.warrior w).movePaths = (a.warrior w).movePaths ∧
      b.MoveTimer (b.warrior w).timerMoveToken w := by
  intro started b
  have hb : b.warrior w = { a.warrior w with timerMoveToken := started.1 } :=
    warrior_modifyWarrior_live (a := started.2) hlive _
  refine ⟨?_, by rw [hb], ?_⟩
  · rw [warriorPos, hb]
    rfl
  · rw [hb]
    exact ⟨⟨.move w, expireMs, -1⟩, Function.update_self .., rfl⟩

/-- Where the search is called, its answer decides. -/
theorem moveStart_searched (hscene : (a.warrior w).scene = some sc)
    (hwalkable : (a.scene sc).getWalkable destPos = true) (hne : a.warriorPos w ≠ destPos)
    {scene : BattleScene} {paths : List Position}
    (hsearch : (a.scene sc).searchPath a.searchFuel (a.warriorPos w) destPos [] =
      some (scene, paths)) :
    (a.moveStart w destPos).warriorPos w = a.warriorPos w ∧
      ((a.moveStart w destPos).warrior w).movePaths = paths ∧
      (paths ≠ [] → (a.moveStart w destPos).MoveTimer
        ((a.moveStart w destPos).warrior w).timerMoveToken w) := by
  have hlive := live_of_scene hscene
  rw [moveStart, if_neg hne, hscene]
  dsimp only
  rw [if_neg (by simp [hwalkable])]
  obtain ⟨b, hb⟩ : ∃ b, (if (a.warrior w).movePaths.isEmpty then a else a.moveFinish w) = b :=
    ⟨_, rfl⟩
  have hidle : (b.warrior w).movePaths = [] ∧ b.warriorPos w = a.warriorPos w ∧
      (b.sceneWarriors.objects w).isSome := by
    rw [← hb]
    split
    · rename_i hempty
      exact ⟨List.isEmpty_iff.mp hempty, rfl, hlive⟩
    · exact moveFinish_idle hlive
  have hsame : b.scene sc = a.scene sc ∧ b.searchFuel = a.searchFuel := by
    rw [← hb]
    split
    · exact ⟨rfl, rfl⟩
    · exact moveFinish_scene a w sc
  obtain ⟨hnone, hpos, hlive⟩ := hidle
  rw [hb, hnone, hpos, hsame.1, hsame.2, hsearch]
  dsimp only
  obtain ⟨c, hc⟩ : ∃ c, (b.modifyScene sc fun old => { old with toBattleScene := scene }) = c :=
    ⟨_, rfl⟩
  have hcpos : c.warriorPos w = b.warriorPos w := by
    rw [← hc]
    rfl
  have hclive : (c.sceneWarriors.objects w).isSome := by
    rw [← hc]
    exact hlive
  rw [hc]
  have hset := warrior_modifyWarrior_live hclive fun warrior => { warrior with movePaths := paths }
  have hsetpos : (c.modifyWarrior w fun warrior =>
      { warrior with movePaths := paths }).warriorPos w = a.warriorPos w := by
    rw [warriorPos, hset]
    exact hcpos.trans hpos
  split
  · rename_i hempty
    refine ⟨hsetpos, by rw [hset], fun hpath => absurd (List.isEmpty_iff.mp hempty) hpath⟩
  · obtain ⟨hstartpos, hstartpaths, harmed⟩ := startMove_armed
      (a := c.modifyWarrior w fun warrior => { warrior with movePaths := paths })
      ((PoolTemplate.modify_isSome _).trans hclive)
      ((c.modifyWarrior w fun warrior => { warrior with movePaths := paths }).warrior w).moveMs
    exact ⟨hstartpos.trans hsetpos, hstartpaths.trans (by rw [hset]), fun _ => harmed⟩

theorem moveStart_refused (hne : a.warriorPos w ≠ destPos) (h : ¬ a.Admits w destPos) :
    a.moveStart w destPos = a := by
  rw [moveStart, if_neg hne]
  split
  · rfl
  · rename_i sc hscene
    rw [if_pos]
    cases hwalkable : (a.scene sc).getWalkable destPos with
    | false => rfl
    | true => exact absurd ⟨sc, hscene, hwalkable⟩ h

/-- What becomes of a move, with enough fuel for the search. -/
structure Outcome (a : Apps) (w : Ptr) (destPos : Position) (b : Apps) : Prop where
  moves : a.CanMove w destPos → b.Moves w destPos
  exact : a.LaidOut w → b.Moves w destPos → a.CanMove w destPos

theorem moveStart_outcome (a : Apps) (w : Ptr) (destPos : Position) :
    ∃ enough, ∀ fuel, enough ≤ fuel →
      Outcome a w destPos ((a.withFuel fuel).moveStart w destPos) := by
  by_cases hpos : a.warriorPos w = destPos
  · refine ⟨0, fun fuel _ => ⟨fun _ => ?_, fun _ _ => Or.inl hpos⟩⟩
    rw [moveStart, if_pos (by exact hpos)]
    exact Or.inl hpos
  by_cases hadmits : a.Admits w destPos
  · obtain ⟨sc, hscene, hwalkable⟩ := hadmits
    by_cases hlaid : (a.scene sc).Laid
    · obtain ⟨enough, ⟨scene, paths⟩, hsearch⟩ :=
        Scene.searchPath_total hlaid (a.warriorPos w) destPos []
      refine ⟨enough, fun fuel hle => ?_⟩
      have hfound : (a.scene sc).searchPath fuel (a.warriorPos w) destPos [] =
          some ({ (a.scene sc).toBattleScene with toScene := scene }, paths) := by
        rw [BattleScene.searchPath, hsearch fuel hle]
        rfl
      obtain ⟨hpaths, hends⟩ := searchPath_cases hlaid hwalkable hpos hfound
      obtain ⟨hsame, hmove, harmed⟩ :=
        moveStart_searched (a := a.withFuel fuel) hscene hwalkable hpos hfound
      constructor
      · rintro (hstands | ⟨-, -, sc', hscene', hmap, hreach⟩ | ⟨hnot, -⟩)
        · exact absurd hstands hpos
        · obtain rfl : sc = sc' := Option.some.inj (hscene.symm.trans hscene')
          have hsome := hpaths.mpr ⟨hmap, hreach⟩
          exact Or.inr ⟨harmed hsome, by rw [hmove]; exact hends hsome⟩
        · exact absurd ⟨sc, hscene, hwalkable⟩ hnot
      · rintro hall (hstands | hway)
        · exact absurd (hsame.symm.trans hstands) hpos
        · have hlast := hway.ends
          rw [hmove] at hlast
          have hsome : paths ≠ [] := by
            rintro rfl
            cases hlast
          obtain ⟨hmap, hreach⟩ := hpaths.mp hsome
          exact Or.inr (Or.inl ⟨⟨sc, hscene, hwalkable⟩, hall, sc, hscene, hmap, hreach⟩)
    · refine ⟨0, fun fuel _ => ⟨?_, fun hall _ => absurd (hall sc hscene) hlaid⟩⟩
      rintro (hstands | ⟨-, hall, -⟩ | ⟨hnot, -⟩)
      · exact absurd hstands hpos
      · exact absurd (hall sc hscene) hlaid
      · exact absurd ⟨sc, hscene, hwalkable⟩ hnot
  · refine ⟨0, fun fuel _ => ?_⟩
    rw [moveStart_refused (a := a.withFuel fuel) hpos hadmits]
    constructor
    · rintro (hstands | ⟨hyes, -⟩ | ⟨-, hway⟩)
      · exact absurd hstands hpos
      · exact absurd hyes hadmits
      · exact Or.inr ⟨hway.armed, hway.ends⟩
    · rintro - (hstands | hway)
      · exact absurd hstands hpos
      · exact Or.inr (Or.inr ⟨hadmits, hway.armed, hway.ends⟩)

/-! ## The requirement -/

theorem onRequireSceneMove_iff {combatId warriorId : Int} :
    (a.onRequireSceneMove combatId warriorId destPos).1 = true ↔
      a.onVoteSceneMove combatId warriorId = true ∧
        ∃ w, a.sceneWarrior combatId warriorId = some w := by
  rw [onRequireSceneMove, sceneWarrior]
  split
  · rename_i hvote
    simp [hvote]
  · rename_i hvote
    rw [Bool.not_eq_false] at hvote
    split
    · rename_i hscene
      simp [hscene]
    · rename_i sc hscene
      split
      · rename_i hwarrior
        simp [hscene, hwarrior]
      · rename_i w hwarrior
        simp [hscene, hwarrior, hvote]

/-- What is reported does not depend on the search. -/
theorem onRequireSceneMove_withFuel {combatId warriorId : Int} (fuel : Nat)
    (hzero : (a.onRequireSceneMove combatId warriorId destPos).1 = true) :
    ((a.withFuel fuel).onRequireSceneMove combatId warriorId destPos).1 = true := by
  have hzero := onRequireSceneMove_iff.mp hzero
  exact onRequireSceneMove_iff.mpr hzero

theorem onRequireSceneMove_started {combatId warriorId : Int}
    (hw : a.sceneWarrior combatId warriorId = some w)
    (hzero : (a.onRequireSceneMove combatId warriorId destPos).1 = true) :
    (a.onRequireSceneMove combatId warriorId destPos).2 = a.moveStart w destPos := by
  obtain ⟨sc, hsc, hwarrior⟩ := Option.bind_eq_some_iff.mp hw
  have hvote := (onRequireSceneMove_iff.mp hzero).1
  rw [onRequireSceneMove, if_neg (by simp [hvote]), hsc]
  dsimp only
  rw [hwarrior]

theorem moveTarget_required (hzero : (a.moveTarget m x).1 = true) :
    ∃ combat pos, a.autoCombat m x = some combat ∧ a.targetPos m x = some pos ∧
      a.moveTarget m x = a.onRequireSceneMove combat.id (a.autoKey x).2 pos := by
  rw [moveTarget] at hzero ⊢
  split
  · rename_i hnone
    rw [if_pos hnone] at hzero
    cases hzero
  · rename_i hsome
    rw [if_neg hsome] at hzero
    split at hzero
    · rename_i combat pos hcombat hpos
      exact ⟨combat, pos, hcombat, hpos, rfl⟩
    · cases hzero

/-- Success is reported in any case; the warrior stands on the destination or is on the way
to it exactly if it can. The same holds of what an auto moves its warrior to. -/
theorem required_move_outcome (a : Apps) :
    (∀ (combatId warriorId : Int) (destPos : Position) (w : Ptr),
      a.sceneWarrior combatId warriorId = some w → ∃ enough, ∀ fuel, enough ≤ fuel →
        ((a.withFuel fuel).onRequireSceneMove combatId warriorId destPos).1 = true →
          Outcome a w destPos
            ((a.withFuel fuel).onRequireSceneMove combatId warriorId destPos).2) ∧
      ∀ (m : CombatManagers) (x : Ptr), ∃ enough, ∀ fuel, enough ≤ fuel →
        ((a.withFuel fuel).moveTarget m x).1 = true → ∃ combat pos w,
          a.autoCombat m x = some combat ∧ a.targetPos m x = some pos ∧
            a.sceneWarrior combat.id (a.autoKey x).2 = some w ∧
              Outcome a w pos ((a.withFuel fuel).moveTarget m x).2 := by
  constructor
  · intro combatId warriorId destPos w hw
    obtain ⟨enough, houtcome⟩ := moveStart_outcome a w destPos
    refine ⟨enough, fun fuel hle hzero => ?_⟩
    rw [onRequireSceneMove_started (a := a.withFuel fuel) hw hzero]
    exact houtcome fuel hle
  · intro m x
    by_cases hthere : ∃ combat pos w, a.autoCombat m x = some combat ∧ a.targetPos m x = some pos ∧
        a.sceneWarrior combat.id (a.autoKey x).2 = some w
    · obtain ⟨combat, pos, w, hcombat, hpos, hw⟩ := hthere
      obtain ⟨enough, houtcome⟩ := moveStart_outcome a w pos
      refine ⟨enough, fun fuel hle hzero => ⟨combat, pos, w, hcombat, hpos, hw, ?_⟩⟩
      obtain ⟨combat', pos', hcombat', hpos', hmove⟩ := moveTarget_required hzero
      obtain rfl : combat = combat' := Option.some.inj (hcombat.symm.trans hcombat')
      obtain rfl : pos = pos' := Option.some.inj (hpos.symm.trans hpos')
      rw [hmove] at hzero ⊢
      have hstarted := onRequireSceneMove_started (a := a.withFuel fuel) hw hzero
      exact hstarted ▸ houtcome fuel hle
    · refine ⟨0, fun fuel _ hzero => absurd ?_ hthere⟩
      obtain ⟨combat, pos, hcombat, hpos, hmove⟩ := moveTarget_required hzero
      rw [hmove] at hzero
      obtain ⟨-, w, hw⟩ := onRequireSceneMove_iff.mp hzero
      exact ⟨combat, pos, w, hcombat, hpos, hw⟩

/-- A step to a walkable cell, on a map whose nodes were compared one by one. -/
theorem canMove_of_step {pos : Position} {width height : Nat}
    (hscene : (a.warrior w).scene = some sc) (hpos : a.warriorPos w = pos)
    (hwalkable : (a.scene sc).getWalkable destPos = true)
    (hsize : (a.scene sc).width = width ∧ (a.scene sc).height = height)
    (hnodes : ((List.range width).all fun x => (List.range height).all fun y =>
      ((a.scene sc).nodes ((a.scene sc).getNode ⟨x, y⟩)).pos = ⟨x, y⟩) = true)
    (hmap : (a.scene sc).inMap pos = true) (hstep : (a.scene sc).StepTo pos destPos) :
    a.CanMove w destPos := by
  refine Or.inr (Or.inl ⟨⟨sc, hscene, hwalkable⟩, ?_, sc, hscene, ?_, ?_⟩)
  · intro sc' hsc'
    obtain rfl : sc = sc' := Option.some.inj (hscene.symm.trans hsc')
    intro pos hmap
    obtain ⟨hx, hx', hy, hy'⟩ := (Scene.inMap_iff _ _).mp hmap
    rw [hsize.1] at hx'
    rw [hsize.2] at hy'
    have hcell := of_decide_eq_true (List.all_eq_true.mp (List.all_eq_true.mp hnodes pos.x.toNat
      (List.mem_range.mpr (by omega))) pos.y.toNat (List.mem_range.mpr (by omega)))
    rwa [Int.toNat_of_nonneg hx, Int.toNat_of_nonneg hy] at hcell
  · rw [hpos]
    exact hmap
  · rw [hpos]
    exact .single hstep

end Apps

namespace Server

open Apps

/-- The two warriors, before one is sent away. -/
def faced : Server :=
  (((((meadow.step (.accept 0)).step (.deploy 0 5 (duel 2 3))).step (.begin 0 0)).step
    (.build 7 1 1)).step (.build 8 1 2)).step (.expire 4)

theorem faced_canMove : faced.apps.CanMove 1 ⟨3, 1⟩ := by
  have hfacts : (faced.apps.warrior 1).scene = some 0 ∧ faced.apps.warriorPos 1 = ⟨2, 0⟩ ∧
      (faced.apps.scene 0).getWalkable ⟨3, 1⟩ = true ∧
      ((faced.apps.scene 0).width = 4 ∧ (faced.apps.scene 0).height = 2) ∧
      ((List.range 4).all fun x => (List.range 2).all fun y =>
        ((faced.apps.scene 0).nodes ((faced.apps.scene 0).getNode ⟨x, y⟩)).pos = ⟨x, y⟩) = true ∧
      (faced.apps.scene 0).inMap ⟨2, 0⟩ = true ∧
      (faced.apps.scene 0).StepTo ⟨2, 0⟩ ⟨3, 1⟩ := by
    decide +kernel
  obtain ⟨hscene, hpos, hwalkable, hsize, hnodes, hmap, hstep⟩ := hfacts
  exact canMove_of_step hscene hpos hwalkable hsize hnodes hmap hstep

theorem required_move_outcome_faced : ∃ enough, ∀ fuel, enough ≤ fuel →
    ((faced.apps.withFuel fuel).onRequireSceneMove 0 4 ⟨3, 1⟩).2.Moves 1 ⟨3, 1⟩ := by
  have hfacts : faced.apps.sceneWarrior 0 4 = some 1 ∧
      (faced.apps.onRequireSceneMove 0 4 ⟨3, 1⟩).1 = true := by
    decide +kernel
  obtain ⟨enough, houtcome⟩ := (required_move_outcome faced.apps).1 0 4 ⟨3, 1⟩ 1 hfacts.1
  refine ⟨enough, fun fuel hle => (houtcome fuel hle ?_).moves faced_canMove⟩
  exact onRequireSceneMove_withFuel fuel hfacts.2

/-- The warrior has found the other building, and chases it. -/
def stalled : Server :=
  ((((meadow.step (.accept 0)).step (.deploy 0 5 (duel 1 2))).step (.begin 0 0)).step
    (.build 7 1 1)).step (.expire 4)

theorem stalled_unmoved : ¬ ∀ (configs : Configs) (memory : Memory) (s : Server),
    Reaches (fun s a => some (step s a)) (fun _ _ => True) (started configs memory) s →
    ∀ (x w : Ptr) (pos : Position), (s.apps.auto x).presentStatus = some .chase →
      s.apps.targetPos s.managers x = some pos →
      s.apps.sceneWarrior (s.apps.autoKey x).1 (s.apps.autoKey x).2 = some w →
      (s.apps.moveTarget s.managers x).1 = true →
      (s.apps.moveTarget s.managers x).2.Moves w pos := by
  intro h
  have hreaches : Reaches (fun s a => some (step s a)) (fun _ _ => True) meadow stalled :=
    ((((Reaches.refl.snoc (.accept 0) trivial rfl).snoc (.deploy 0 5 (duel 1 2)) trivial rfl).snoc
      (.begin 0 0) trivial rfl).snoc (.build 7 1 1) trivial rfl).snoc (.expire 4) trivial rfl
  have hfacts : (stalled.apps.auto 0).presentStatus = some .chase ∧
      stalled.apps.targetPos stalled.managers 0 = some ⟨2, 0⟩ ∧
      stalled.apps.sceneWarrior (stalled.apps.autoKey 0).1 (stalled.apps.autoKey 0).2 = some 0 ∧
      (stalled.apps.moveTarget stalled.managers 0).1 = true ∧
      (stalled.apps.moveTarget stalled.managers 0).2.warriorPos 0 = ⟨0, 0⟩ ∧
      ((stalled.apps.moveTarget stalled.managers 0).2.warrior 0).movePaths = [] := by
    decide +kernel
  obtain ⟨hchase, htarget, hw, hzero, hpos, hpaths⟩ := hfacts
  rcases h _ _ stalled hreaches 0 0 ⟨2, 0⟩ hchase htarget hw hzero with hstands | hway
  · rw [hpos] at hstands
    cases hstands
  · have hends := hway.ends
    rw [hpaths] at hends
    cases hends

end Server

end Mysya
