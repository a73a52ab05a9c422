import Mysya.SceneReuse
import Mysya.SceneSteps

/-!
# The registry of the scenes

A registered scene is handed out, and no two combats have the same. A scene that is being raised is
handed out and not yet registered, so where it does not get ready it goes back to the pool alone.
-/

open Std OwnedTimers

namespace Mysya

open CombatManagers Attempts

namespace Apps

variable {a a' a'' b : Apps} {m m' : CombatManagers} {c : Int} {p w sc : Ptr}

/-! ## Steps that leave the registry and the pool -/

/-- The same scenes are registered, listed and there. -/
structure SameScenes (a a' : Apps) : Prop where
  scenes : a'.scenes = a.scenes
  list : a'.scenePool.list = a.scenePool.list
  live : ∀ sc, (a'.scenePool.objects sc).isSome = (a.scenePool.objects sc).isSome

theorem SameScenes.refl (a : Apps) : SameScenes a a := ⟨rfl, rfl, fun _ => rfl⟩

theorem SameScenes.same (hscenes : a'.scenes = a.scenes) (hpool : a'.scenePool = a.scenePool) :
    SameScenes a a' := ⟨hscenes, by rw [hpool], fun _ => by rw [hpool]⟩

theorem SameScenes.trans (h : SameScenes a a') (h' : SameScenes a' a'') : SameScenes a a'' where
  scenes := h'.scenes.trans h.scenes
  list := h'.list.trans h.list
  live := fun sc => (h'.live sc).trans (h.live sc)

theorem SameScenes.held (h : SameScenes a a') :
    a'.scenePool.Held sc ↔ a.scenePool.Held sc := by
  rw [PoolTemplate.Held, PoolTemplate.Held, h.live, h.list]

theorem SameScenes.sound (h : SameScenes a a') (hsound : a.scenePool.Sound) :
    a'.scenePool.Sound := by
  constructor
  · rw [h.list]
    exact hsound.nodup
  · intro sc hin
    rw [h.list] at hin
    rw [h.live]
    exact hsound.live sc hin

theorem sameScenes_of_calm (h : Calm m a a') : SameScenes a a' where
  scenes := congrArg Board.scenes h.board
  list := congrArg (fun board => board.scenePool.list) h.board
  live := PoolTemplate.view_live (f := fun scene : TimedScene => scene.toBattleScene.ground)
    (congrArg Board.scenePool h.board)

theorem sameScenes_modifyScene (a : Apps) (sc : Ptr) (change : TimedScene → TimedScene) :
    SameScenes a (a.modifyScene sc change) :=
  ⟨rfl, rfl, fun _ => PoolTemplate.modify_isSome change⟩

theorem sameScenes_foldl {α : Type} {f : Apps → α → Apps} (hf : ∀ a e, SameScenes a (f a e))
    (l : List α) (a : Apps) : SameScenes a (l.foldl f a) :=
  Attempts.foldl_chain .refl .trans hf l a

theorem sameScenes_moveReset (a : Apps) (w : Ptr) : SameScenes a (a.moveReset w) := by
  rw [moveReset]
  split
  · exact .same rfl rfl
  · exact .same rfl rfl

theorem sameScenes_deallocateWarrior (a : Apps) (w : Ptr) :
    SameScenes a (a.deallocateWarrior w) := by
  have hreset := sameScenes_moveReset a w
  exact ⟨hreset.scenes, hreset.list, hreset.live⟩

theorem sameScenes_finalizeWarrior (a : Apps) (w : Ptr) :
    SameScenes a (a.finalizeWarrior w) := by
  have hreset := sameScenes_moveReset a w
  exact ⟨hreset.scenes, hreset.list, hreset.live⟩

theorem sameScenes_finalizeScene (a : Apps) (sc : Ptr) : SameScenes a (a.finalizeScene sc) := by
  have hstop : SameScenes a (if (a.scene sc).timerIdPrintStatusImage = -1 then a
      else a.stopTimer (a.scene sc).timerIdPrintStatusImage) := by
    split
    · exact .refl a
    · exact .same rfl rfl
  have hbuildings : ∀ (a : Apps) (entry : Int × Ptr),
      SameScenes a (a.deallocateBuilding entry.2) := fun _ _ => .same rfl rfl
  have hwarriors : ∀ (a : Apps) (entry : Int × Ptr),
      SameScenes a (a.deallocateWarrior entry.2) :=
    fun a entry => sameScenes_deallocateWarrior a entry.2
  rw [finalizeScene]
  exact ((hstop.trans (sameScenes_foldl hbuildings _ _)).trans
    (sameScenes_foldl hwarriors _ _)).trans (sameScenes_modifyScene _ _ _)

theorem sameScenes_stepTo (a : Apps) (sc w : Ptr) (i j : Nat) (pos : Position) :
    SameScenes a (a.stepTo sc w i j pos) := by
  rw [stepTo]
  dsimp only
  split
  · refine .trans ?_ (sameScenes_moveReset _ w)
    exact ⟨rfl, rfl, fun _ => PoolTemplate.modify_isSome _⟩
  · exact ⟨rfl, rfl, fun _ => PoolTemplate.modify_isSome _⟩

theorem sameScenes_placeWarrior (a : Apps) (m : CombatManagers) (sc b w : Ptr) (key : EntityKey)
    (moveSpeed : Int) : SameScenes a (a.placeWarrior m sc b w key moveSpeed).2 := by
  have hset : SameScenes a (a.initializeWarrior w key sc moveSpeed) := .same rfl rfl
  rw [placeWarrior]
  dsimp only
  generalize a.initializeWarrior w key sc moveSpeed = d at *
  split
  · exact hset.trans (sameScenes_deallocateWarrior d w)
  · rename_i pos _
    have hpos : SameScenes a { d with originPos := Function.update d.originPos key pos } :=
      hset.trans (.same rfl rfl)
    split
    · exact (hpos.trans (sameScenes_finalizeWarrior _ w)).trans (sameScenes_deallocateWarrior _ w)
    · exact hpos.trans (sameScenes_modifyScene _ _ _)

theorem sameScenes_sceneBuild (a : Apps) (m : CombatManagers) (combatId buildingId warriorId : Int) :
    SameScenes a (a.onRequireSceneBuild m combatId buildingId warriorId).2 := by
  rw [onRequireSceneBuild]
  split
  · exact .refl a
  · split
    · exact .refl a
    · split
      · split
        · exact .same rfl rfl
        · rename_i w pool _
          have hpool : SameScenes a { a with sceneWarriors := pool } := .same rfl rfl
          exact hpool.trans (sameScenes_placeWarrior _ m _ _ w _ _)
      · exact .refl a

theorem sameScenes_deathScene (a : Apps) (combatId : Int) (target : CombatEntity) :
    SameScenes a (a.onEventCombatDeathScene combatId target) := by
  rw [onEventCombatDeathScene]
  split
  · exact .refl a
  · split
    · exact .refl a
    · split
      · exact .refl a
      · rename_i w _
        exact ((sameScenes_modifyScene a _ _).trans (sameScenes_finalizeWarrior _ w)).trans
          (sameScenes_deallocateWarrior _ w)

/-! ## Registered scenes -/

/-- The registered scenes are handed out, each to one registered combat. -/
structure Housed (m : CombatManagers) (a : Apps) : Prop where
  pool : a.scenePool.Sound
  held : ∀ c sc, a.scenes c = some sc → a.scenePool.Held sc
  once : ∀ c c' sc, a.scenes c = some sc → a.scenes c' = some sc → c = c'
  given : ∀ c sc, a.scenes c = some sc → (m.combats[c]?).isSome

theorem Housed.same (h : Housed m a) (hsame : SameScenes a a') : Housed m a' where
  pool := hsame.sound h.pool
  held := fun c sc hc => by
    rw [hsame.scenes] at hc
    exact hsame.held.mpr (h.held c sc hc)
  once := by
    rw [hsame.scenes]
    exact h.once
  given := by
    rw [hsame.scenes]
    exact h.given

theorem Housed.managers (h : Housed m a)
    (hmore : ∀ c : Int, (m.combats[c]?).isSome → (m'.combats[c]?).isSome) : Housed m' a :=
  ⟨h.pool, h.held, h.once, fun c sc hc => hmore c (h.given c sc hc)⟩

/-- The scene at `sc` is handed out and not registered. -/
structure Reserved (m : CombatManagers) (sc : Ptr) (a : Apps) : Prop where
  housed : Housed m a
  held : a.scenePool.Held sc
  out : ∀ c, a.scenes c ≠ some sc

theorem Reserved.same (h : Reserved m sc a) (hsame : SameScenes a a') : Reserved m sc a' where
  housed := h.housed.same hsame
  held := hsame.held.mpr h.held
  out := by
    rw [hsame.scenes]
    exact h.out

/-- A scene that is not registered goes back to the pool. -/
theorem Reserved.abandonScene (h : Reserved m sc a) : Housed m (a.abandonScene sc) := by
  have hfinal := h.same (sameScenes_finalizeScene a sc)
  rw [Apps.abandonScene]
  generalize a.finalizeScene sc = d at *
  have hlist : (d.deallocateScene sc).scenePool.list = d.scenePool.list ++ [sc] := rfl
  refine ⟨⟨?_, fun sc' hin => ?_⟩, fun c sc' hc => ⟨(hfinal.housed.held c sc' hc).1, ?_⟩,
    hfinal.housed.once, hfinal.housed.given⟩
  · have hnodup := hfinal.housed.pool.nodup.concat hfinal.held.2
    rwa [List.concat_eq_append] at hnodup
  · rw [hlist, List.mem_append, List.mem_singleton] at hin
    rcases hin with hin | rfl
    · exact hfinal.housed.pool.live sc' hin
    · exact hfinal.held.1
  · rw [hlist, List.mem_append, List.mem_singleton, not_or]
    refine ⟨(hfinal.housed.held c sc' hc).2, ?_⟩
    rintro rfl
    exact hfinal.out c hc

theorem abandonScene_scenes (a : Apps) (sc : Ptr) : (a.abandonScene sc).scenes = a.scenes :=
  (sameScenes_finalizeScene a sc).scenes

/-! ## Begins and settlements -/

theorem Reserved.placeBuilding (h : Reserved m sc a) (combatId : Int)
    (entry : Int × CombatBuildingField) :
    Ends (Reserved m sc) (Housed m) (Apps.placeBuilding m combatId sc a entry) := by
  rw [Apps.placeBuilding]
  split
  · rename_i pool _
    have hpool : Reserved m sc { a with sceneBuildings := pool } :=
      h.same (.same rfl rfl)
    exact hpool.abandonScene
  · rename_i x pool _
    have hset : Reserved m sc { a with
        sceneBuildings := pool.modify x fun _ => ⟨some (combatId, entry.1), some sc⟩ } :=
      h.same (.same rfl rfl)
    dsimp only
    generalize { a with
        sceneBuildings := pool.modify x fun _ => ⟨some (combatId, entry.1), some sc⟩ } = b at *
    split
    · have hback : Reserved m sc (b.deallocateBuilding x) := hset.same (.same rfl rfl)
      exact hback.abandonScene
    · exact hset.same (sameScenes_modifyScene _ _ _)

theorem Housed.raiseScene (h : Reserved m sc a) (hc : (m.combats[c]?).isSome) {combat : CombatField}
    (hid : combat.id = c) : Housed m (a.raiseScene m combat sc) := by
  have hset : Reserved m sc (a.initializeScene sc c) :=
    h.same ⟨rfl, rfl, fun _ => PoolTemplate.modify_isSome _⟩
  have hloop : Ends (Reserved m sc) (Housed m) (combat.buildings.toList.foldlM
      (Apps.placeBuilding m c sc) (a.initializeScene sc c)) :=
    ends_foldlM (I := fun _ => Reserved m sc) (fun entry _ _ hb => hb.placeBuilding c entry) _ hset
  rw [Apps.raiseScene, hid]
  split
  · rename_i b hb
    exact hloop.error hb
  · rename_i b hb
    have hready := hloop.ok hb
    split
    · exact hready.abandonScene
    · have hregistered : ∀ c' sc', Function.update b.scenes c (some sc) c' = some sc' →
          c' = c ∧ sc' = sc ∨ b.scenes c' = some sc' ∧ sc' ≠ sc := by
        intro c' sc' hc'
        by_cases heq : c' = c
        · rw [heq, Function.update_self] at hc'
          exact Or.inl ⟨heq, (Option.some.inj hc').symm⟩
        · rw [Function.update_of_ne heq] at hc'
          refine Or.inr ⟨hc', ?_⟩
          rintro rfl
          exact hready.out c' hc'
      refine ⟨hready.housed.pool, fun c' sc' hc' => ?_, fun c' c'' sc' hc' hc'' => ?_,
        fun c' sc' hc' => ?_⟩
      · rcases hregistered c' sc' hc' with ⟨_, rfl⟩ | ⟨hold, _⟩
        · exact hready.held
        · exact hready.housed.held c' sc' hold
      · rcases hregistered c' sc' hc' with ⟨rfl, rfl⟩ | ⟨hold, hne⟩
        · rcases hregistered c'' sc' hc'' with ⟨rfl, _⟩ | ⟨_, hne⟩
          · rfl
          · exact absurd rfl hne
        · rcases hregistered c'' sc' hc'' with ⟨_, heq⟩ | ⟨hold', _⟩
          · exact absurd heq hne
          · exact hready.housed.once c' c'' sc' hold hold'
      · rcases hregistered c' sc' hc' with ⟨rfl, _⟩ | ⟨hold, _⟩
        · exact hc
        · exact hready.housed.given c' sc' hold

/-- The pool hands out a scene that is not registered. -/
theorem Housed.allocateScene (h : Housed m a) {mapId : Int} {answer : Option Ptr}
    (hallocate : a.allocateScene mapId = some (answer, b)) :
    Housed m b ∧ ∀ sc, answer = some sc → Reserved m sc b := by
  rw [Apps.allocateScene] at hallocate
  split at hallocate
  · rename_i pool hpool
    obtain ⟨_, ⟨⟩⟩ := Option.ite_none_left_eq_some.mp hallocate
    have hgrown := PoolTemplate.grown_of_allocate h.pool hpool
    exact ⟨⟨hgrown.sound, fun c sc hc => hgrown.held (h.held c sc hc), h.once, h.given⟩,
      fun _ hnone => by cases hnone⟩
  · rename_i sc pool hpool
    obtain ⟨rfl, rfl⟩ := Prod.mk.inj (Option.some.inj hallocate)
    have hgrown := PoolTemplate.grown_of_allocate h.pool hpool
    obtain ⟨hheld, hnot⟩ := PoolTemplate.allocate_held h.pool hpool
    have hhoused : Housed m { a with scenePool := pool } :=
      ⟨hgrown.sound, fun c sc hc => hgrown.held (h.held c sc hc), h.once, h.given⟩
    have hreserved : Reserved m sc { a with scenePool := pool } :=
      ⟨hhoused, hheld, fun c hc => hnot (h.held c sc hc)⟩
    have hset := hreserved.same (sameScenes_modifyScene { a with scenePool := pool } sc
      fun scene => { scene with toBattleScene := scene.allocate mapId (a.sceneConfs mapId) })
    refine ⟨hset.housed, fun sc' heq => ?_⟩
    obtain rfl := Option.some.inj heq
    exact hset

theorem Housed.beginScene (h : Housed m a) (he : m.Enrolled) {c : Int}
    (hbegin : a.onEventCombatBeginScene m c = some b) : Housed m b := by
  rw [onEventCombatBeginScene] at hbegin
  split at hbegin
  · cases hbegin
    exact h
  · rename_i p hc
    split at hbegin
    · cases hbegin
    · rename_i hallocate
      cases hbegin
      exact (h.allocateScene hallocate).1
    · rename_i sc b hallocate
      cases hbegin
      exact .raiseScene ((h.allocateScene hallocate).2 sc rfl) (by rw [hc]; rfl)
        (he.combats c p hc).2

theorem settleScene_scenes (a : Apps) (c : Int) :
    (a.onEventCombatSettleScene c).scenes = Function.update a.scenes c none := by
  rw [onEventCombatSettleScene]
  split
  · rename_i hc
    rw [← hc, Function.update_eq_self]
  · exact abandonScene_scenes _ _

theorem Housed.settleScene (h : Housed m a) (c : Int) : Housed m (a.onEventCombatSettleScene c) := by
  rw [onEventCombatSettleScene]
  split
  · exact h
  · rename_i sc hc
    have hclosed : ∀ c' sc', Function.update a.scenes c none c' = some sc' →
        a.scenes c' = some sc' ∧ c' ≠ c := by
      intro c' sc' hc'
      by_cases heq : c' = c
      · rw [heq, Function.update_self] at hc'
        cases hc'
      · rw [Function.update_of_ne heq] at hc'
        exact ⟨hc', heq⟩
    have hhoused : Housed m { a with scenes := Function.update a.scenes c none } :=
      ⟨h.pool, fun c' sc' hc' => h.held c' sc' (hclosed c' sc' hc').1,
        fun c' c'' sc' hc' hc'' => h.once c' c'' sc' (hclosed c' sc' hc').1
          (hclosed c'' sc' hc'').1, fun c' sc' hc' => h.given c' sc' (hclosed c' sc' hc').1⟩
    have hreserved : Reserved m sc { a with scenes := Function.update a.scenes c none } := by
      refine ⟨hhoused, h.held c sc hc, fun c' hc' => ?_⟩
      obtain ⟨hold, hne⟩ := hclosed c' sc hc'
      exact hne (h.once c' c sc hold hc)
    exact hreserved.abandonScene

end Apps

open Apps

/-- The registered scenes stay handed out, whichever combats begin. -/
theorem housedRule : SceneRule Housed (fun _ _ _ => True) (fun _ => True) where
  calm := fun h hcalm => h.same (sameScenes_of_calm hcalm)
  goes := fun h _ hgoes => h.managers fun c hc => by rwa [hgoes.combats]
  deploy := fun session hostId data h he _ => by
    refine h.managers fun c hc => ?_
    obtain ⟨p, hp⟩ := Option.isSome_iff_exists.mp hc
    obtain ⟨_, hlasts, _⟩ := he.deploy session hostId data
    rw [(hlasts c p hp (fun h => by cases h)).1]
    rfl
  memory := fun memory h => ⟨⟨h.pool.nodup, h.pool.live⟩, h.held, h.once, h.given⟩
  timer := fun _ _ h => h.same (.same rfl rfl)
  settleTimer := fun h _ => h.same (.same rfl rfl)
  stepTo := fun h _ _ _ => h.same (sameScenes_stepTo _ _ _ _ _ _)
  build := fun h _ hgoes _ _ _ buildingId =>
    (h.managers fun c hc => by rwa [hgoes.combats]).same (sameScenes_sceneBuild _ _ _ _ _)
  death := fun combatId target h => h.same (sameScenes_deathScene _ combatId target)
  begins := fun _ _ _ => trivial
  begin := fun h he _ hbegin => h.beginScene he hbegin
  settle := fun {m a c p} h he hc => by
    have hsettled := h.settleScene c
    refine ⟨hsettled.pool, hsettled.held, hsettled.once, fun c' sc hc' => ?_⟩
    rw [settleScene_scenes] at hc'
    have hne : c' ≠ c := by
      rintro rfl
      rw [Function.update_self] at hc'
      cases hc'
    rw [Function.update_of_ne hne] at hc'
    obtain ⟨p', hp'⟩ := Option.isSome_iff_exists.mp (h.given c' sc hc')
    rw [((he.closeCombat hc).lasts c' p' hp' fun heq => hne (Option.some.inj heq).symm).1]
    rfl

/-- The scenes registered in `a` are all registered in `S`. -/
def Among (S : Int → Option Ptr) (a : Apps) : Prop :=
  ∀ c sc, a.scenes c = some sc → S c = some sc

theorem Among.same {S : Int → Option Ptr} {a a' : Apps} (h : Among S a)
    (hsame : SameScenes a a') : Among S a' := by
  rw [Among, hsame.scenes]
  exact h

/-- Where no combat begins, no scene is registered. -/
theorem amongRule (S : Int → Option Ptr) :
    SceneRule (fun _ a => Among S a) (fun _ _ _ => False) (fun _ => True) where
  calm := fun h hcalm => h.same (sameScenes_of_calm hcalm)
  goes := fun h _ _ => h
  deploy := fun _ _ _ h _ _ => h
  memory := fun _ h => h
  timer := fun _ _ h => h
  settleTimer := fun h _ => h
  stepTo := fun h _ _ _ => h.same (sameScenes_stepTo _ _ _ _ _ _)
  build := fun h _ _ _ _ _ _ => h.same (sameScenes_sceneBuild _ _ _ _ _)
  death := fun combatId target h => h.same (sameScenes_deathScene _ combatId target)
  begins := fun hbegins _ _ => hbegins
  begin := fun _ _ hfalse _ => hfalse.elim
  settle := fun {m a c p} h _ _ => by
    intro c' sc hc'
    rw [settleScene_scenes] at hc'
    by_cases heq : c' = c
    · rw [heq, Function.update_self] at hc'
      cases hc'
    · rw [Function.update_of_ne heq] at hc'
      exact h c' sc hc'

end Mysya
