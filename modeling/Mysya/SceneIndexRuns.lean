import Mysya.SceneIndex
import Mysya.SceneReuse
import Mysya.WarriorAttributes

/-!
# The grids of running scenes

A warrior that is built is put on its grid or leaves nothing behind, a scene that begins gets its
buildings on fresh grids, and a settled one is emptied. So the grids of the running scenes index
their warriors and buildings through all runs in which no scene is reused for a map without a
configuration.
-/

open Std OwnedTimers SpatialIndex GuardedRuns

namespace Mysya

open CombatManagers

/-- There is nothing in the grids. -/
def BattleScene.Vacant (s : BattleScene) : Prop :=
  ∀ i, (s.grids i).buildings = ∅ ∧ (s.grids i).warriors = ∅

namespace Apps

variable {a a' b : Apps} {m m' : CombatManagers} {r : Option Ptr} {c : Int} {p w sc : Ptr}

/-! ## Building a warrior -/

/-- The position of a new warrior does not matter while it is not on the scene. -/
theorem Touches.alike (h : Touches w a b) (hbefore : a.sceneWarriors.objects w = none)
    (hafter : b.sceneWarriors.objects w = none) : Alike a b where
  scenes := h.scenes
  list := by rw [h.scenePool]
  live := fun sc => by rw [h.scenePool]
  ground := fun sc => by rw [scene, h.scenePool, ← scene]
  warriorPool := h.pool
  posts := fun w' => by
    by_cases heq : w' = w
    · rw [heq, hbefore, hafter]
    · rw [h.others w' heq]
  buildingPool := fun hbare => by
    rw [h.buildings]
    exact hbare
  buildings := by rw [h.buildings]
  originPos := fun c _ id _ _ _ => by rw [h.originPos]

theorem touches_initializeWarrior (a : Apps) (w : Ptr) (key : EntityKey) (sc : Ptr)
    (moveSpeed : Int) : Touches w a (a.initializeWarrior w key sc moveSpeed) :=
  ⟨rfl, rfl, rfl, rfl, rfl, fun hbare => hbare.modify w _,
    fun _ hne => PoolTemplate.modify_other _ hne _⟩

theorem Alike.refl (a : Apps) : Alike a a :=
  ⟨rfl, rfl, fun _ => rfl, fun _ => rfl, id, fun _ => rfl, id, rfl, fun _ _ _ _ _ _ => rfl⟩

theorem alike_origin (a : Apps) (key : EntityKey) (pos : Position)
    (hfresh : ∀ sc, a.scenes key.1 = some sc → (a.scene sc).warriors[key.2]? = none) :
    Alike a { a with originPos := Function.update a.originPos key pos } where
  scenes := rfl
  list := rfl
  live := fun _ => rfl
  ground := fun _ => rfl
  warriorPool := id
  posts := fun _ => rfl
  buildingPool := id
  buildings := rfl
  originPos := fun c sc id w hc hw => by
    refine Function.update_of_ne ?_ pos a.originPos
    rintro rfl
    rw [hfresh sc hc] at hw
    cases hw

/-- `d` is `b` with another position of a warrior and one scene changed, and `b` is `a` but for its
warriors. -/
structure Placed (a b d : Apps) (sc : Ptr) (key : EntityKey) (pos : Position)
    (change : TimedScene → TimedScene) : Prop where
  scenes : d.scenes = a.scenes
  sceneWarriors : d.sceneWarriors = b.sceneWarriors
  sceneBuildings : d.sceneBuildings = a.sceneBuildings
  scenePool : d.scenePool = a.scenePool.modify sc change
  originPos : d.originPos = Function.update a.originPos key pos
  scene : ∀ sc', d.scene sc' = if sc' = sc then change (a.scene sc) else a.scene sc'

theorem Touches.placed (h : Touches w a b) (hlive : (a.scenePool.objects sc).isSome)
    (key : EntityKey) (pos : Position) (change : TimedScene → TimedScene) :
    Placed a b ({ b with originPos := Function.update b.originPos key pos }.modifyScene sc change)
      sc key pos change where
  scenes := h.scenes
  sceneWarriors := rfl
  sceneBuildings := h.buildings
  scenePool := by
    rw [← h.scenePool]
    rfl
  originPos := by
    rw [← h.originPos]
    rfl
  scene := fun sc' => by
    have hscene : ∀ sc', Apps.scene { b with originPos := Function.update b.originPos key pos } sc' =
        a.scene sc' := by
      intro sc'
      show b.scenePool.read sc' = a.scenePool.read sc'
      rw [h.scenePool]
    rw [modifyScene_scene, hscene, hscene]
    show (b.scenePool.objects sc).isSome
    rw [h.scenePool]
    exact hlive

/-- A new warrior is on the scene, at the grid where it stands. -/
theorem Surveyed.placed (hs : Surveyed m r a) (hc : a.scenes c = some sc) {id : Int} {pos : Position}
    (hnew : a.sceneWarriors.objects w = none) (hfree : (a.scene sc).warriors[id]? = none)
    (hgiven : ∀ p, m.combats[c]? = some p → id ≤ (m.combat p).idAlloctor)
    (htouches : Touches w a b) (hlive : (b.sceneWarriors.objects w).isSome)
    (hhost : (b.warrior w).host = some (c, id)) (hscene : (b.warrior w).scene = some sc)
    {scene : BattleScene} (hadd : (a.scene sc).addWarrior ⟨w, id, pos⟩ = some scene) :
    Surveyed m r ({ b with originPos := Function.update b.originPos (c, id) pos }.modifyScene sc
      fun old => { old with toBattleScene := scene }) := by
  have hstanding := hs.standing c sc hc
  have hunlisted : ∀ c' sc' (id' : Int), a.scenes c' = some sc' →
      (a.scene sc').warriors[id']? ≠ some w := by
    intro c' sc' id' hc' hw
    have hlive' := ((hs.standing c' sc' hc').warriors id' w hw).1
    rw [hnew] at hlive'
    cases hlive'
  have hindexed : (a.scene sc).Indexed
      (fun id' => Function.update a.originPos (c, id) pos (c, id')) (m.buildingPos c) := by
    refine ⟨hstanding.indexed.warriors.congr (fun _ => rfl) (fun id' w' hw' => ?_)
      fun _ _ => Iff.rfl, hstanding.indexed.buildings⟩
    rw [Function.update_of_ne]
    intro heq
    rw [(Prod.mk.inj heq).2, hfree] at hw'
    cases hw'
  have hbuilt := hindexed.addWarrior hadd (fun id' => hunlisted c sc id' hc)
    (Function.update_self ..)
  obtain ⟨_, i, _, rfl⟩ := BattleScene.addWarrior_some hadd
  obtain ⟨change, hchange⟩ : ∃ change : TimedScene → TimedScene, change =
      fun old => { old with toBattleScene := { (a.scene sc).toBattleScene.setGrid i
        { (a.scene sc).grids i with warriors := ((a.scene sc).grids i).warriors.insert w } with
          warriors := (a.scene sc).warriors.insert id w } } := ⟨_, rfl⟩
  rw [← hchange]
  have hplaced := htouches.placed hstanding.held.1 (c, id) pos change
  have hentries : ∀ id' : Int, (change (a.scene sc)).warriors[id']? =
      if id' = id then some w else (a.scene sc).warriors[id']? := by
    intro id'
    rw [hchange]
    exact BattleScene.entry_insert id id' w
  have hother : ∀ {w'}, w' ≠ w → b.warrior w' = a.warrior w' := by
    intro w' hne
    rw [warrior, PoolTemplate.read, htouches.others w' hne]
    rfl
  generalize { b with originPos := Function.update b.originPos (c, id) pos }.modifyScene sc
    change = d at *
  obtain ⟨hscenes, hwarriors, hbuildings, hpool, hpos, hread⟩ := hplaced
  have hself := (hread sc).trans (if_pos rfl)
  have hread' : ∀ w', d.warrior w' = b.warrior w' := by
    intro w'
    rw [warrior, hwarriors]
    rfl
  refine hs.onScene hc hscenes (by rw [hpool]; rfl) (fun sc' => ?_)
    (fun sc' hne => (hread sc').trans (if_neg hne)) ?_ hbuildings (fun w' c' id' hne hhost' => ?_)
    (fun c' id' hne => ?_) ?_ (fun p hp id' w' hw' => ?_) fun w' sc' hw' => ?_
  · rw [hpool]
    exact PoolTemplate.modify_isSome change
  · rw [hwarriors]
    exact htouches.pool hs.warriorPool
  · rw [hwarriors]
    refine htouches.others w' ?_
    rintro rfl
    rw [warrior_of_none hnew] at hhost'
    cases hhost'
  · rw [hpos]
    exact Function.update_of_ne (fun heq => hne (congrArg Prod.fst heq)) _ _
  · refine ⟨?_, ?_, ?_, fun id' w' hw' => ?_, fun id' building hb => ?_⟩
    · rw [hpool]
      exact (PoolTemplate.held_modify change).mpr hstanding.held
    · rw [hself, hchange]
      exact hstanding.host
    · rw [hself, hchange, hpos]
      exact hbuilt
    · rw [hself, hentries] at hw'
      rw [hwarriors, hread']
      split at hw'
      · rename_i heq
        obtain rfl := Option.some.inj hw'
        rw [heq]
        exact ⟨hlive, hhost, hscene⟩
      · have hne : w' ≠ w := by
          rintro rfl
          exact hunlisted c sc id' hc hw'
        rw [hother hne, htouches.others w' hne]
        exact hstanding.warriors id' w' hw'
    · rw [hself, hchange] at hb
      rw [hbuildings]
      exact hstanding.buildings id' building hb
  · rw [hself, hentries] at hw'
    split at hw'
    · rename_i heq
      rw [heq]
      exact hgiven p hp
    · obtain ⟨p', hp', hids⟩ := hs.given c sc hc
      obtain rfl : p = p' := Option.some.inj (hp.symm.trans hp')
      exact hids id' w' hw'
  · rw [hread'] at hw'
    rw [hscenes]
    by_cases heq : w' = w
    · subst heq
      obtain rfl := Option.some.inj (hscene.symm.trans hw')
      refine ⟨Or.inr ⟨c, hc⟩, id, ?_⟩
      rw [hself, hentries, if_pos rfl]
    · rw [hother heq] at hw'
      obtain ⟨hrunning, id', hw''⟩ := hs.posted w' sc' hw'
      refine ⟨hrunning, id', ?_⟩
      rw [hread]
      split
      · rename_i hsc
        rw [hsc] at hw''
        rw [hentries, if_neg, hw'']
        rintro rfl
        rw [hfree] at hw''
        cases hw''
      · exact hw''

theorem Surveyed.placeWarrior (hs : Surveyed m r a) (hc : a.scenes c = some sc) {id : Int}
    (hfree : (a.scene sc).warriors[id]? = none)
    (hgiven : ∀ p, m.combats[c]? = some p → id ≤ (m.combat p).idAlloctor)
    {pool : PoolTemplate Warrior} (hallocate : a.sceneWarriors.allocate = (some w, pool)) (x : Ptr)
    (moveSpeed : Int) : Surveyed m r
      (Apps.placeWarrior m { a with sceneWarriors := pool } sc x w (c, id) moveSpeed).2 := by
  obtain ⟨hbare, hnew, hobjects⟩ := hs.warriorPool.allocate_some hallocate
  have hcreated : Touches w a { a with sceneWarriors := pool } := by
    refine ⟨rfl, rfl, rfl, rfl, rfl, fun _ => hbare, fun w' hne => ?_⟩
    show pool.objects w' = _
    rw [hobjects, Function.update_of_ne hne]
  have hset := hcreated.trans
    (touches_initializeWarrior { a with sceneWarriors := pool } w (c, id) sc moveSpeed)
  have hmodified : (Apps.initializeWarrior { a with sceneWarriors := pool } w (c, id) sc
      moveSpeed).sceneWarriors.objects w = some { (default : Warrior) with
        host := some (c, id), scene := some sc, moveMs := (1000 : Int).tdiv moveSpeed } := by
    show (pool.modify w _).objects w = _
    rw [PoolTemplate.modify_self, hobjects, Function.update_self]
    rfl
  have hread : (Apps.initializeWarrior { a with sceneWarriors := pool } w (c, id) sc
      moveSpeed).warrior w = { (default : Warrior) with
        host := some (c, id), scene := some sc, moveMs := (1000 : Int).tdiv moveSpeed } := by
    rw [warrior, PoolTemplate.read, hmodified]
    rfl
  rw [Apps.placeWarrior]
  generalize Apps.initializeWarrior { a with sceneWarriors := pool } w (c, id) sc moveSpeed = b at *
  dsimp only
  have hscene : b.scene sc = a.scene sc := by
    rw [scene, hset.scenePool, ← scene]
  split
  · obtain ⟨hdeallocate, hnone⟩ := touches_deallocateWarrior (hset.pool hs.warriorPool) w
    exact hs.alike ((hset.trans hdeallocate).alike hnew hnone)
  · rename_i pos _
    have hentity : Apps.warriorEntity { b with originPos := Function.update b.originPos (c, id) pos } w =
        ⟨w, id, pos⟩ := by
      have hkey : (b.warrior w).host.getD (0, 0) = (c, id) := by
        rw [hread]
        rfl
      rw [warriorEntity, warriorPos, show (Apps.warrior
        { b with originPos := Function.update b.originPos (c, id) pos } w) = b.warrior w from rfl,
        hkey]
      exact congrArg (Entity.mk w id) (Function.update_self ..)
    rw [hentity, show (Apps.scene { b with originPos := Function.update b.originPos (c, id) pos } sc) =
      a.scene sc from hscene]
    split
    · have hmoved := hs.alike (alike_origin a (c, id) pos fun sc' hc' => by
        obtain rfl := Option.some.inj (hc.symm.trans hc')
        exact hfree)
      have hset' : Touches w { a with originPos := Function.update a.originPos (c, id) pos }
          { b with originPos := Function.update b.originPos (c, id) pos } := by
        refine ⟨hset.scenes, hset.scenePool, hset.sceneConfs, hset.buildings, ?_, hset.pool,
          hset.others⟩
        show Function.update b.originPos (c, id) pos = _
        rw [hset.originPos]
      have hfinalize := hset'.trans (touches_finalizeWarrior _ w)
      obtain ⟨hdeallocate, hnone⟩ := touches_deallocateWarrior (hfinalize.pool hs.warriorPool) w
      exact hmoved.alike ((hfinalize.trans hdeallocate).alike hnew hnone)
    · rename_i scene hadd
      exact hs.placed hc hnew hfree hgiven hset (by rw [hmodified]; rfl) (by rw [hread])
        (by rw [hread]) hadd

theorem Surveyed.sceneBuild (hs : Surveyed m r a) (hgoes : Goes m m')
    (hc : m.combats[c]? = some p) {id : Int} (hnew : (m.combat p).idAlloctor < id)
    (hgiven : id ≤ (m'.combat p).idAlloctor) (buildingId : Int) :
    Surveyed m' r (a.onRequireSceneBuild m' c buildingId id).2 := by
  have hs' : Surveyed m' r a := hs.lasts (hgoes.lasts none) (fun _ h => by cases h)
  rw [onRequireSceneBuild]
  split
  · exact hs'
  · split
    · exact hs'
    · rename_i sc hsc
      have hfree : (a.scene sc).warriors[id]? = none := by
        rw [Option.eq_none_iff_forall_not_mem]
        intro w hw
        obtain ⟨p', hp', hids⟩ := hs.given c sc hsc
        obtain rfl := Option.some.inj (hc.symm.trans hp')
        have := hids id w hw
        omega
      have hgiven' : ∀ p', m'.combats[c]? = some p' → id ≤ (m'.combat p').idAlloctor := by
        intro p' hp'
        obtain ⟨hp, _⟩ := hgoes.lasts none c p hc (fun h => by cases h)
        obtain rfl := Option.some.inj (hp.symm.trans hp')
        exact hgiven
      split
      · split
        · rename_i pool hallocate
          obtain ⟨hbare, hobjects⟩ := hs.warriorPool.allocate_none hallocate
          refine hs'.alike { Alike.refl a with warriorPool := fun _ => hbare, posts := fun w => ?_ }
          show (pool.objects w).map _ = _
          rw [hobjects]
        · rename_i w pool hallocate
          exact hs'.placeWarrior hsc hfree hgiven' hallocate _ _
      · exact hs'

/-! ## Giving a scene up -/

theorem deallocateBuildings_objects (l : List (Int × Ptr)) {a : Apps} (hbare : a.sceneBuildings.Bare) :
    ∃ pool : PoolTemplate SceneBuilding, pool.Bare ∧
      l.foldl (fun (a : Apps) entry => a.deallocateBuilding entry.2) a =
        { a with sceneBuildings := pool } ∧
      ∀ x, x ∉ l.map Prod.snd → pool.objects x = a.sceneBuildings.objects x := by
  induction l generalizing a with
  | nil => exact ⟨a.sceneBuildings, hbare, rfl, fun _ _ => rfl⟩
  | cons entry l ih =>
    have hdeallocate := hbare.deallocate entry.2
    obtain ⟨pool, hpool, hfold, hobjects⟩ := ih (a := a.deallocateBuilding entry.2) hdeallocate
    refine ⟨pool, hpool, hfold, fun x hx => ?_⟩
    rw [List.map_cons, List.mem_cons, not_or] at hx
    rw [hobjects x hx.2]
    show (a.sceneBuildings.deallocate entry.2).objects x = _
    rw [hbare.deallocate_eq]
    exact Function.update_of_ne hx.1 _ _

/-- The warriors of the list are gone, and nothing else of the scenes changed. -/
structure Emptied (l : List Ptr) (a a' : Apps) : Prop where
  scenes : a'.scenes = a.scenes
  scenePool : a'.scenePool = a.scenePool
  buildings : a'.sceneBuildings = a.sceneBuildings
  originPos : a'.originPos = a.originPos
  pool : a'.sceneWarriors.Bare
  gone : ∀ w ∈ l, a'.sceneWarriors.objects w = none
  others : ∀ w, w ∉ l → a'.sceneWarriors.objects w = a.sceneWarriors.objects w

theorem emptied_foldl (l : List (Int × Ptr)) {a : Apps} (hbare : a.sceneWarriors.Bare) :
    Emptied (l.map Prod.snd) a
      (l.foldl (fun (a : Apps) entry => a.deallocateWarrior entry.2) a) := by
  induction l generalizing a with
  | nil => exact ⟨rfl, rfl, rfl, rfl, hbare, nofun, fun _ _ => rfl⟩
  | cons entry l ih =>
    obtain ⟨htouches, hnone⟩ := touches_deallocateWarrior hbare entry.2
    have hrest := ih (htouches.pool hbare)
    refine ⟨hrest.scenes.trans htouches.scenes, hrest.scenePool.trans htouches.scenePool,
      hrest.buildings.trans htouches.buildings, hrest.originPos.trans htouches.originPos,
      hrest.pool, fun w hw => ?_, fun w hw => ?_⟩
    · by_cases hin : w ∈ l.map Prod.snd
      · exact hrest.gone w hin
      · rw [List.foldl_cons, hrest.others w hin]
        rcases List.mem_cons.mp hw with rfl | hin'
        · exact hnone
        · exact absurd hin' hin
    · rw [List.map_cons, List.mem_cons, not_or] at hw
      rw [List.foldl_cons, hrest.others w hw.2, htouches.others w hw.1]

theorem mem_entries {t : ExtTreeMap Int Ptr} {x : Ptr} :
    x ∈ t.toList.map Prod.snd ↔ ∃ id : Int, t[id]? = some x := by
  rw [List.mem_map]
  constructor
  · rintro ⟨⟨id, y⟩, hin, rfl⟩
    exact ⟨id, ExtTreeMap.mem_toList_iff_getElem?_eq_some.mp hin⟩
  · rintro ⟨id, hx⟩
    exact ⟨(id, x), ExtTreeMap.mem_toList_iff_getElem?_eq_some.mpr hx, rfl⟩

/-- What `Finalize` leaves of the scenes and of what was on the scene. -/
structure Finalized (sc : Ptr) (a a' : Apps) : Prop where
  scenes : a'.scenes = a.scenes
  scenePool : a'.scenePool =
    a.scenePool.modify sc fun scene => { scene with toBattleScene := scene.clear }
  originPos : a'.originPos = a.originPos
  buildingPool : a'.sceneBuildings.Bare
  buildings : ∀ x, (∀ id : Int, (a.scene sc).buildings[id]? ≠ some x) →
    a'.sceneBuildings.objects x = a.sceneBuildings.objects x
  warriorPool : a'.sceneWarriors.Bare
  gone : ∀ (id : Int) w, (a.scene sc).warriors[id]? = some w → a'.sceneWarriors.objects w = none
  others : ∀ w, (∀ id : Int, (a.scene sc).warriors[id]? ≠ some w) →
    a'.sceneWarriors.objects w = a.sceneWarriors.objects w

theorem finalized_finalizeScene (hwarriors : a.sceneWarriors.Bare)
    (hbuildings : a.sceneBuildings.Bare) (sc : Ptr) : Finalized sc a (a.finalizeScene sc) := by
  obtain ⟨b, hb⟩ : ∃ b, b = if (a.scene sc).timerIdPrintStatusImage = -1 then a
      else a.stopTimer (a.scene sc).timerIdPrintStatusImage := ⟨_, rfl⟩
  have hstop : b.scenes = a.scenes ∧ b.sceneBuildings = a.sceneBuildings ∧
      b.sceneWarriors = a.sceneWarriors ∧ b.originPos = a.originPos := by
    rw [hb]
    split
    · exact ⟨rfl, rfl, rfl, rfl⟩
    · exact ⟨rfl, rfl, rfl, rfl⟩
  have hscenePool := scenePool_finalizeScene a sc
  rw [finalizeScene] at hscenePool ⊢
  dsimp only at hscenePool ⊢
  rw [← hb] at hscenePool ⊢
  obtain ⟨pool, hpool, hfold, hobjects⟩ := deallocateBuildings_objects
    (a.scene sc).buildings.toList (a := b) (by rw [hstop.2.1]; exact hbuildings)
  rw [hfold] at hscenePool ⊢
  have hemptied := emptied_foldl (a.scene sc).warriors.toList
    (a := { b with sceneBuildings := pool }) (by rw [hstop.2.2.1]; exact hwarriors)
  generalize (a.scene sc).warriors.toList.foldl (fun (a : Apps) entry =>
    a.deallocateWarrior entry.2) { b with sceneBuildings := pool } = d at *
  refine ⟨hemptied.scenes.trans hstop.1, hscenePool, hemptied.originPos.trans hstop.2.2.2, ?_,
    fun x hx => ?_, hemptied.pool, fun id w hw => hemptied.gone w (mem_entries.mpr ⟨id, hw⟩),
    fun w hw => ?_⟩
  · show d.sceneBuildings.Bare
    rw [hemptied.buildings]
    exact hpool
  · show d.sceneBuildings.objects x = _
    rw [hemptied.buildings, ← hstop.2.1]
    refine hobjects x fun hin => ?_
    obtain ⟨id, hid⟩ := mem_entries.mp hin
    exact hx id hid
  · rw [← hstop.2.2.1]
    refine hemptied.others w fun hin => ?_
    obtain ⟨id, hid⟩ := mem_entries.mp hin
    exact hw id hid

/-- A scene that is not running is emptied and given back. -/
theorem Surveyed.abandonScene (hs : Surveyed m (some sc) a) (hout : ∀ c, a.scenes c ≠ some sc)
    (hheld : a.scenePool.Held sc)
    (hwarriors : ∀ (id : Int) w, (a.scene sc).warriors[id]? = some w →
      (a.warrior w).scene = some sc)
    (hbuildings : ∀ (id : Int) x, (a.scene sc).buildings[id]? = some x →
      (a.sceneBuildings.read x).scene = some sc) : Surveyed m none (a.abandonScene sc) := by
  have hfinal := finalized_finalizeScene hs.warriorPool hs.buildingPool sc
  rw [Apps.abandonScene]
  generalize a.finalizeScene sc = d at *
  have hlist : (d.deallocateScene sc).scenePool.list = a.scenePool.list ++ [sc] := by
    show d.scenePool.list ++ [sc] = _
    rw [hfinal.scenePool]
    rfl
  have hlive : ∀ sc', ((d.deallocateScene sc).scenePool.objects sc').isSome =
      (a.scenePool.objects sc').isSome := by
    intro sc'
    show (d.scenePool.objects sc').isSome = _
    rw [hfinal.scenePool]
    exact PoolTemplate.modify_isSome _
  have hself : (d.deallocateScene sc).scene sc =
      { a.scene sc with toBattleScene := (a.scene sc).clear } := by
    show d.scenePool.read sc = _
    rw [hfinal.scenePool]
    exact PoolTemplate.read_modify hheld.1 _
  have hother : ∀ {sc'}, sc' ≠ sc → (d.deallocateScene sc).scene sc' = a.scene sc' := by
    intro sc' hne
    show d.scenePool.read sc' = _
    rw [hfinal.scenePool]
    exact PoolTemplate.read_modify_other _ hne _
  have hscenes : (d.deallocateScene sc).scenes = a.scenes := hfinal.scenes
  have hrunning : ∀ {c sc'}, a.scenes c = some sc' → sc' ≠ sc := by
    rintro c sc' hc rfl
    exact hout c hc
  refine ⟨⟨?_, fun sc' hin => ?_⟩, hfinal.warriorPool, hfinal.buildingPool, fun c sc' hc => ?_,
    fun c sc' hc => ?_, fun w sc' hw => ?_, fun sc' _ hidle id => ?_⟩
  · rw [hlist]
    have hnodup := hs.scenePool.nodup.concat hheld.2
    rwa [List.concat_eq_append] at hnodup
  · rw [hlive]
    rw [hlist, List.mem_append, List.mem_singleton] at hin
    rcases hin with hin | rfl
    · exact hs.scenePool.live sc' hin
    · exact hheld.1
  · rw [hscenes] at hc
    have hold := hs.standing c sc' hc
    have hne := hrunning hc
    refine ⟨⟨?_, ?_⟩, ?_, ?_, fun id w hw => ?_, fun id x hx => ?_⟩
    · rw [hlive]
      exact hold.held.1
    · rw [hlist, List.mem_append, List.mem_singleton, not_or]
      exact ⟨hold.held.2, hne⟩
    · rw [hother hne]
      exact hold.host
    · rw [hother hne, show (d.deallocateScene sc).originPos = a.originPos from hfinal.originPos]
      exact hold.indexed
    · rw [hother hne] at hw
      have hwarrior := hold.warriors id w hw
      have hkept : (d.deallocateScene sc).sceneWarriors.objects w = a.sceneWarriors.objects w := by
        refine hfinal.others w fun id' hw' => ?_
        rw [hwarriors id' w hw'] at hwarrior
        exact hne (Option.some.inj hwarrior.2.2).symm
      rw [warrior, PoolTemplate.read, hkept]
      exact hwarrior
    · rw [hother hne] at hx
      have hbuilding := hold.buildings id x hx
      have hkept : (d.deallocateScene sc).sceneBuildings.objects x = a.sceneBuildings.objects x := by
        refine hfinal.buildings x fun id' hx' => ?_
        rw [hbuildings id' x hx'] at hbuilding
        exact hne (Option.some.inj hbuilding.2.2).symm
      rw [PoolTemplate.read, hkept]
      exact hbuilding
  · rw [hscenes] at hc
    rw [hother (hrunning hc)]
    exact hs.given c sc' hc
  · have hkept : ∀ id : Int, (a.scene sc).warriors[id]? ≠ some w := by
      intro id hw'
      rw [show (d.deallocateScene sc).warrior w = d.warrior w from rfl,
        warrior_of_none (hfinal.gone id w hw')] at hw
      cases hw
    rw [show (d.deallocateScene sc).warrior w = d.warrior w from rfl, warrior, PoolTemplate.read,
      hfinal.others w hkept] at hw
    obtain ⟨hrunning', id, hw'⟩ := hs.posted w sc' hw
    have hne : sc' ≠ sc := by
      rintro rfl
      exact hkept id hw'
    rw [hscenes, hother hne]
    exact ⟨Or.inr (hrunning'.resolve_left fun heq => hne (Option.some.inj heq).symm), id, hw'⟩
  · rw [hscenes] at hidle
    by_cases heq : sc' = sc
    · rw [heq, hself]
      exact ⟨ExtTreeMap.getElem?_empty, ExtTreeMap.getElem?_empty⟩
    · rw [hother heq]
      exact hs.blank sc' (fun hsome => heq (Option.some.inj hsome).symm) hidle id

theorem Surveyed.settleScene (hs : Surveyed m none a) (c : Int) :
    Surveyed m none (a.onEventCombatSettleScene c) ∧
      (a.onEventCombatSettleScene c).scenes c = none := by
  rw [onEventCombatSettleScene]
  split
  · rename_i hc
    exact ⟨hs, hc⟩
  · rename_i sc hc
    have hstanding := hs.standing c sc hc
    have hclosed : ∀ {c' sc'}, Function.update a.scenes c none c' = some sc' →
        a.scenes c' = some sc' ∧ sc' ≠ sc := by
      intro c' sc' hc'
      rw [Function.update_apply] at hc'
      split at hc'
      · cases hc'
      · rename_i hne
        refine ⟨hc', ?_⟩
        rintro rfl
        exact hne (hs.scenes_inj hc hc')
    have hout : ∀ c', Function.update a.scenes c none c' ≠ some sc :=
      fun c' hc' => (hclosed hc').2 rfl
    have hset : Surveyed m (some sc) { a with scenes := Function.update a.scenes c none } := by
      refine ⟨hs.scenePool, hs.warriorPool, hs.buildingPool, fun c' sc' hc' => ?_,
        fun c' sc' hc' => hs.given c' sc' (hclosed hc').1, fun w sc' hw => ?_,
        fun sc' hne hidle => hs.blank sc' (fun h => by cases h) fun c' hc' => ?_⟩
      · have hold := hs.standing c' sc' (hclosed hc').1
        exact ⟨hold.held, hold.host, hold.indexed, hold.warriors, hold.buildings⟩
      · obtain ⟨hrunning, hid⟩ := hs.posted w sc' hw
        obtain ⟨c', hc'⟩ := hrunning.resolve_left (fun h => by cases h)
        refine ⟨?_, hid⟩
        by_cases heq : c' = c
        · rw [heq, hc] at hc'
          exact Or.inl hc'
        · exact Or.inr ⟨c', (Function.update_of_ne heq none a.scenes).trans hc'⟩
      · have heq : c' ≠ c := by
          rintro rfl
          exact hne (hc.symm.trans hc')
        exact hidle c' ((Function.update_of_ne heq none a.scenes).trans hc')
    refine ⟨hset.abandonScene hout hstanding.held (fun id w hw => (hstanding.warriors id w hw).2.2)
      fun id x hx => (hstanding.buildings id x hx).2.2, ?_⟩
    have hfinal := finalized_finalizeScene
      (a := { a with scenes := Function.update a.scenes c none }) hs.warriorPool hs.buildingPool sc
    exact (congrFun hfinal.scenes c).trans (Function.update_self ..)

/-! ## Setting a scene up -/

/-- What happens on a scene that is not running leaves the others as they are. -/
theorem Surveyed.aside (hs : Surveyed m (some sc) a) (hout : ∀ c, a.scenes c ≠ some sc)
    (hscenes : a'.scenes = a.scenes) (hlist : a'.scenePool.list = a.scenePool.list)
    (hlive : ∀ sc', (a'.scenePool.objects sc').isSome = (a.scenePool.objects sc').isSome)
    (hothers : ∀ sc', sc' ≠ sc → a'.scene sc' = a.scene sc')
    (hsame : (a'.scene sc).warriors = (a.scene sc).warriors)
    (hwarriors : a'.sceneWarriors = a.sceneWarriors) (hpool : a'.sceneBuildings.Bare)
    (hobjects : ∀ x, (a.sceneBuildings.objects x).isSome →
      a'.sceneBuildings.objects x = a.sceneBuildings.objects x)
    (hpos : a'.originPos = a.originPos) : Surveyed m (some sc) a' := by
  have hrunning : ∀ {c sc'}, a.scenes c = some sc' → sc' ≠ sc := by
    rintro c sc' hc rfl
    exact hout c hc
  have hread : ∀ w, a'.warrior w = a.warrior w := by
    intro w
    rw [warrior, hwarriors]
    rfl
  have hentries : ∀ sc', (a'.scene sc').warriors = (a.scene sc').warriors := by
    intro sc'
    by_cases heq : sc' = sc
    · rw [heq, hsame]
    · rw [hothers sc' heq]
  refine ⟨⟨?_, fun sc' hin => ?_⟩, ?_, hpool, fun c sc' hc => ?_, fun c sc' hc => ?_,
    fun w sc' hw => ?_, fun sc' hne hidle => ?_⟩
  · rw [hlist]
    exact hs.scenePool.nodup
  · rw [hlive]
    rw [hlist] at hin
    exact hs.scenePool.live sc' hin
  · rw [hwarriors]
    exact hs.warriorPool
  · rw [hscenes] at hc
    have hold := hs.standing c sc' hc
    have hscene := hothers sc' (hrunning hc)
    refine ⟨?_, ?_, ?_, fun id w hw => ?_, fun id x hx => ?_⟩
    · rw [PoolTemplate.Held, hlive, hlist]
      exact hold.held
    · rw [hscene]
      exact hold.host
    · rw [hscene, hpos]
      exact hold.indexed
    · rw [hscene] at hw
      rw [hwarriors, hread]
      exact hold.warriors id w hw
    · rw [hscene] at hx
      have hbuilding := hold.buildings id x hx
      rw [PoolTemplate.read, hobjects x hbuilding.1]
      exact hbuilding
  · rw [hscenes] at hc
    rw [hentries]
    exact hs.given c sc' hc
  · rw [hread] at hw
    rw [hscenes, hentries]
    exact hs.posted w sc' hw
  · rw [hscenes] at hidle
    rw [hothers sc' fun heq => hne (congrArg some heq.symm)]
    exact hs.blank sc' hne hidle

/-- The scene at `sc` is set up for the combat `c`, and has no warriors yet. -/
structure Raising (m : CombatManagers) (c : Int) (sc : Ptr) (a : Apps) : Prop where
  surveyed : Surveyed m (some sc) a
  out : ∀ c', a.scenes c' ≠ some sc
  standing : Standing m a c sc
  warriors : ∀ id : Int, (a.scene sc).warriors[id]? = none

theorem Raising.abandonScene (h : Raising m c sc a) : Surveyed m none (a.abandonScene sc) :=
  h.surveyed.abandonScene h.out h.standing.held
    (fun id w hw => (h.standing.warriors id w hw).2.2)
    fun id x hx => (h.standing.buildings id x hx).2.2

/-- The scene runs from now on. -/
theorem Raising.register (h : Raising m c sc a) (hc : m.combats[c]? = some p)
    (hfree : a.scenes c = none) :
    Surveyed m none { a with scenes := Function.update a.scenes c (some sc) } := by
  have hopened : ∀ {c' sc'}, Function.update a.scenes c (some sc) c' = some sc' →
      c' = c ∧ sc' = sc ∨ a.scenes c' = some sc' := by
    intro c' sc' hc'
    rw [Function.update_apply] at hc'
    split at hc'
    · rename_i heq
      exact Or.inl ⟨heq, (Option.some.inj hc').symm⟩
    · exact Or.inr hc'
  have hs := h.surveyed
  refine ⟨hs.scenePool, hs.warriorPool, hs.buildingPool, fun c' sc' hc' => ?_,
    fun c' sc' hc' => ?_, fun w sc' hw => ?_, fun sc' _ hidle => hs.blank sc' ?_ fun c' hc' => ?_⟩
  · rcases hopened hc' with ⟨rfl, rfl⟩ | hold
    · have hnew := h.standing
      exact ⟨hnew.held, hnew.host, hnew.indexed, hnew.warriors, hnew.buildings⟩
    · have hold := hs.standing c' sc' hold
      exact ⟨hold.held, hold.host, hold.indexed, hold.warriors, hold.buildings⟩
  · rcases hopened hc' with ⟨rfl, rfl⟩ | hold
    · refine ⟨p, hc, fun id w hw => ?_⟩
      have hnone := h.warriors id
      rw [show (a.scene sc').warriors[id]? = some w from hw] at hnone
      cases hnone
    · exact hs.given c' sc' hold
  · obtain ⟨hrunning, id, hw'⟩ := hs.posted w sc' hw
    refine ⟨Or.inr ?_, id, hw'⟩
    rcases hrunning with heq | ⟨c', hc'⟩
    · rw [← heq]
      exact ⟨c, Function.update_self ..⟩
    · refine ⟨c', (Function.update_of_ne ?_ _ _).trans hc'⟩
      rintro rfl
      rw [hfree] at hc'
      cases hc'
  · rintro heq
    exact hidle c (heq ▸ Function.update_self ..)
  · refine hidle c' ((Function.update_of_ne ?_ _ _).trans hc')
    rintro rfl
    rw [hfree] at hc'
    cases hc'

/-- The pool of buildings may have handed out one that it has got back. -/
theorem Raising.samePosts (h : Raising m c sc a) {pool : PoolTemplate SceneBuilding}
    (hbare : pool.Bare) (hobjects : pool.objects = a.sceneBuildings.objects) :
    Raising m c sc { a with sceneBuildings := pool } := by
  refine ⟨h.surveyed.alike { Alike.refl a with buildingPool := fun _ => hbare, buildings := hobjects },
    h.out, ⟨h.standing.held, h.standing.host, h.standing.indexed, h.standing.warriors,
      fun id x hx => ?_⟩, h.warriors⟩
  rw [PoolTemplate.read, show PoolTemplate.objects pool = _ from hobjects]
  exact h.standing.buildings id x hx

/-- A building that was free is on the scene, at the grid where it stands. -/
theorem Raising.built (h : Raising m c sc a) {x : Ptr} {buildingId : Int} {pos : Position}
    {pool : PoolTemplate SceneBuilding} (hnew : a.sceneBuildings.objects x = none)
    (hbare : pool.Bare) (hself : pool.objects x = some ⟨some (c, buildingId), some sc⟩)
    (hothers : ∀ {x'}, x' ≠ x → pool.objects x' = a.sceneBuildings.objects x')
    (hpos : m.buildingPos c buildingId = some pos) {scene : BattleScene}
    (hadd : (a.scene sc).addBuilding ⟨x, buildingId, pos⟩ = some scene) :
    Raising m c sc (Apps.modifyScene { a with sceneBuildings := pool } sc fun old =>
      { old with toBattleScene := scene }) := by
  have hs := h.surveyed
  have hunlisted : ∀ id : Int, (a.scene sc).buildings[id]? ≠ some x := by
    intro id hx
    have hlive := (h.standing.buildings id x hx).1
    rw [hnew] at hlive
    cases hlive
  have hindexed := h.standing.indexed.addBuilding hadd hunlisted hpos
  obtain ⟨_, i, _, rfl⟩ := BattleScene.addBuilding_some hadd
  obtain ⟨change, hchange⟩ : ∃ change : TimedScene → TimedScene, change =
      fun old => { old with toBattleScene := { (a.scene sc).toBattleScene.setGrid i
        { (a.scene sc).grids i with buildings := ((a.scene sc).grids i).buildings.insert x } with
          buildings := (a.scene sc).buildings.insert buildingId x } } := ⟨_, rfl⟩
  rw [← hchange]
  have hread := modifyScene_scene (a := { a with sceneBuildings := pool })
    h.standing.held.1 change
  have hscene := (hread sc).trans (if_pos rfl)
  generalize hd : Apps.modifyScene { a with sceneBuildings := pool } sc change = d at *
  have hscenes : d.scenes = a.scenes := by
    rw [← hd]
    rfl
  have hpool : d.scenePool = a.scenePool.modify sc change := by
    rw [← hd]
    rfl
  have hbuildings : d.sceneBuildings = pool := by
    rw [← hd]
    rfl
  have hwarriors : d.sceneWarriors = a.sceneWarriors := by
    rw [← hd]
    rfl
  have horigin : d.originPos = a.originPos := by
    rw [← hd]
    rfl
  have hsame : (d.scene sc).warriors = (a.scene sc).warriors := by
    rw [hscene, hchange]
    rfl
  refine ⟨hs.aside h.out hscenes (by rw [hpool]; rfl) (fun sc' => ?_)
    (fun sc' hne => (hread sc').trans (if_neg hne)) hsame hwarriors (by rw [hbuildings]; exact
      hbare) (fun x' hx' => ?_) horigin, fun c' => ?_, ⟨?_, ?_, ?_, fun id w hw => ?_,
        fun id x' hx => ?_⟩, fun id => ?_⟩
  · rw [hpool]
    exact PoolTemplate.modify_isSome change
  · rw [hbuildings]
    refine hothers ?_
    rintro rfl
    rw [hnew] at hx'
    cases hx'
  · rw [hscenes]
    exact h.out c'
  · rw [hpool]
    exact (PoolTemplate.held_modify change).mpr h.standing.held
  · rw [hscene, hchange]
    exact h.standing.host
  · rw [hscene, hchange, horigin]
    exact hindexed
  · rw [hsame, h.warriors] at hw
    cases hw
  · rw [hscene, hchange] at hx
    have hin : ((a.scene sc).buildings.insert buildingId x)[id]? = some x' := hx
    rw [BattleScene.entry_insert] at hin
    rw [hbuildings, PoolTemplate.read]
    split at hin
    · rename_i heq
      obtain rfl := Option.some.inj hin
      rw [hself, heq]
      exact ⟨rfl, rfl, rfl⟩
    · have hne : x' ≠ x := by
        rintro rfl
        exact hunlisted id hin
      rw [hothers hne]
      exact h.standing.buildings id x' hin
  · rw [hsame]
    exact h.warriors id

/-- A building of the combat is put on its grid, or the scene is given up. -/
theorem Raising.placeBuilding (h : Raising m c sc a) (hc : m.combats[c]? = some p)
    {entry : Int × CombatBuildingField}
    (hentry : (m.combat p).buildings[entry.1]? = some entry.2) :
    Attempts.Ends (Raising m c sc) (Surveyed m none) (Apps.placeBuilding m c sc a entry) := by
  have hs := h.surveyed
  rw [Apps.placeBuilding]
  split
  · rename_i pool hallocate
    obtain ⟨hbare, hobjects⟩ := hs.buildingPool.allocate_none hallocate
    exact (h.samePosts hbare hobjects).abandonScene
  · rename_i x pool hallocate
    obtain ⟨hbare, hnew, hobjects⟩ := hs.buildingPool.allocate_some hallocate
    obtain ⟨building, hbuilding⟩ : ∃ building : SceneBuilding,
        building = ⟨some (c, entry.1), some sc⟩ := ⟨_, rfl⟩
    have hself : (pool.modify x fun _ => building).objects x = some building := by
      rw [PoolTemplate.modify_self, hobjects, Function.update_self]
      rfl
    have hothers : ∀ {x'}, x' ≠ x →
        (pool.modify x fun _ => building).objects x' = a.sceneBuildings.objects x' := by
      intro x' hne
      rw [PoolTemplate.modify_other _ hne, hobjects, Function.update_of_ne hne]
    rw [← hbuilding]
    have hmodified := hbare.modify x fun _ => building
    generalize (pool.modify x fun _ => building) = pool' at *
    have hpos : m.buildingPos c entry.1 = some ⟨entry.2.posX, entry.2.posY⟩ := by
      rw [buildingPos, getBuilding, hc, Option.bind_some, hentry]
      rfl
    have hentity : Apps.buildingEntity m { a with sceneBuildings := pool' } x =
        ⟨x, entry.1, ⟨entry.2.posX, entry.2.posY⟩⟩ := by
      have hread : pool'.read x = building := by
        rw [PoolTemplate.read, hself]
        rfl
      have hfield : m.getBuilding c entry.1 = some entry.2 := by
        rw [getBuilding, hc, Option.bind_some, hentry]
      rw [buildingEntity, show (Apps.sceneBuildings { a with sceneBuildings := pool' }).read x = _
        from hread, hbuilding]
      dsimp only [Option.getD_some]
      rw [hfield]
    dsimp only
    rw [hentity]
    split
    · have hgone : (pool'.deallocate x).objects = a.sceneBuildings.objects := by
        funext x'
        rw [hmodified.deallocate_eq]
        by_cases heq : x' = x
        · rw [heq, hnew]
          exact Function.update_self ..
        · exact (Function.update_of_ne heq _ _).trans (hothers heq)
      exact (h.samePosts (hmodified.deallocate x) hgone).abandonScene
    · rename_i scene hadd
      exact h.built hnew hmodified (hbuilding ▸ hself) hothers hpos hadd

/-- The pool of scenes may grow, and hand out one that is not running. -/
theorem Surveyed.pooled (hs : Surveyed m none a) {pool : PoolTemplate TimedScene}
    (hsound : pool.Sound) (hread : ∀ q, pool.read q = a.scenePool.read q)
    (hheld : ∀ q, a.scenePool.Held q → pool.Held q) (r : Option Ptr) :
    Surveyed m r { a with scenePool := pool } := by
  have hscene : ∀ q, Apps.scene { a with scenePool := pool } q = a.scene q := hread
  refine ⟨hsound, hs.warriorPool, hs.buildingPool, fun c sc hc => ?_, fun c sc hc => ?_,
    fun w sc hw => ?_, fun sc _ hidle => ?_⟩
  · have hold := hs.standing c sc hc
    refine ⟨hheld sc hold.held, ?_, ?_, fun id w hw => ?_, fun id x hx => ?_⟩
    · rw [hscene]
      exact hold.host
    · rw [hscene]
      exact hold.indexed
    · rw [hscene] at hw
      exact hold.warriors id w hw
    · rw [hscene] at hx
      exact hold.buildings id x hx
  · rw [hscene]
    exact hs.given c sc hc
  · obtain ⟨hrunning, hid⟩ := hs.posted w sc hw
    rw [hscene]
    exact ⟨Or.inr (hrunning.resolve_left (fun h => by cases h)), hid⟩
  · rw [hscene]
    exact hs.blank sc nofun hidle

/-- The map is configured, or the first scene in the pool has nothing in its grids. -/
def CleanGrids (a : Apps) (mapId : Int) : Prop :=
  (a.sceneConfs mapId).isSome ∨
    ∀ sc, a.scenePool.list.head? = some sc → (a.scene sc).Vacant

/-- A scene with nothing on it is initialized. -/
theorem Surveyed.initializeScene (hs : Surveyed m (some sc) a) (hout : ∀ c, a.scenes c ≠ some sc)
    (hheld : a.scenePool.Held sc)
    (hblank : ∀ id : Int, (a.scene sc).buildings[id]? = none ∧ (a.scene sc).warriors[id]? = none)
    (hvacant : (a.scene sc).Vacant) (c : Int) : Raising m c sc (a.initializeScene sc c) := by
  rw [Apps.initializeScene]
  dsimp only
  obtain ⟨change, hchange⟩ : ∃ change : TimedScene → TimedScene, change = fun scene =>
      { scene with
        host := some c
        timerIdPrintStatusImage := (a.startTimer 1000 (.printStatusImage sc) (-1)).1 } := ⟨_, rfl⟩
  rw [← hchange]
  have hread := modifyScene_scene (a := (a.startTimer 1000 (.printStatusImage sc) (-1)).2)
    hheld.1 change
  have hself := (hread sc).trans (if_pos rfl)
  have hscene : ((a.startTimer 1000 (.printStatusImage sc) (-1)).2.modifyScene sc change).scene sc =
      change (a.scene sc) := hself
  have hwarriors : ∀ id : Int, (change (a.scene sc)).warriors[id]? = none := by
    intro id
    rw [hchange]
    exact (hblank id).2
  have hbuildings : ∀ id : Int, (change (a.scene sc)).buildings[id]? = none := by
    intro id
    rw [hchange]
    exact (hblank id).1
  have hgrids : (change (a.scene sc)).grids = (a.scene sc).grids := by
    rw [hchange]
  refine ⟨hs.aside hout rfl rfl (fun _ => PoolTemplate.modify_isSome change)
    (fun sc' hne => (hread sc').trans (if_neg hne)) ?_ rfl hs.buildingPool (fun _ _ => rfl) rfl,
    hout, ⟨(PoolTemplate.held_modify change).mpr hheld, ?_, ⟨?_, ?_⟩, fun id w hw => ?_,
      fun id x hx => ?_⟩, fun id => ?_⟩
  · rw [hscene, hchange]
  · rw [hscene, hchange]
  · rw [hscene]
    refine charted_empty hwarriors fun i w hin => ?_
    rw [hgrids, (hvacant i).2] at hin
    exact ExtTreeSet.not_mem_empty hin
  · rw [hscene]
    refine charted_empty hbuildings fun i x hin => ?_
    rw [hgrids, (hvacant i).1] at hin
    exact ExtTreeSet.not_mem_empty hin
  · rw [hscene, hwarriors] at hw
    cases hw
  · rw [hscene, hbuildings] at hx
    cases hx
  · rw [hscene]
    exact hwarriors id

/-- The scene that a combat gets has clean grids and nothing on it. -/
theorem Surveyed.raising (hs : Surveyed m none a) {mapId : Int} (hclean : a.CleanGrids mapId)
    (hallocate : a.allocateScene mapId = some (some sc, b)) (c : Int) :
    Raising m c sc (b.initializeScene sc c) ∧ b.scenes = a.scenes := by
  rw [allocateScene] at hallocate
  split at hallocate
  · obtain ⟨_, ⟨⟩⟩ := Option.ite_none_left_eq_some.mp hallocate
  · rename_i sc' pool hpool
    obtain ⟨hsc, rfl⟩ := Prod.mk.inj (Option.some.inj hallocate)
    obtain rfl := Option.some.inj hsc
    have hgrown := PoolTemplate.grown_of_allocate hs.scenePool hpool
    obtain ⟨hheld, hnot⟩ := PoolTemplate.allocate_held hs.scenePool hpool
    have hread : ∀ q, pool.read q = a.scenePool.read q := by
      intro q
      have hallocated := allocate_read a.scenePool q
      rwa [hpool] at hallocated
    have hpooled := hs.pooled hgrown.sound hread (fun q hq => hgrown.held hq) (some sc')
    have hout : ∀ c, a.scenes c ≠ some sc' := fun c hc => hnot (hs.standing c sc' hc).held
    have hblank := hs.blank sc' (fun h => by cases h) hout
    have hvacant : ((a.scene sc').allocate mapId (a.sceneConfs mapId)).Vacant := by
      cases hconf : a.sceneConfs mapId with
      | some conf => exact fun i => ⟨rfl, rfl⟩
      | none =>
        rcases hclean with hconfigured | hfirst
        · rw [hconf] at hconfigured
          cases hconfigured
        · rcases PoolTemplate.allocate_first hs.scenePool hpool with hhead | hfree
          · exact hfirst sc' hhead
          · have hnew : a.scene sc' = default := by
              rw [scene, PoolTemplate.read, hfree]
              rfl
            rw [hnew]
            exact fun i => ⟨rfl, rfl⟩
    have hentries : ((a.scene sc').allocate mapId (a.sceneConfs mapId)).warriors =
        (a.scene sc').warriors ∧ ((a.scene sc').allocate mapId (a.sceneConfs mapId)).buildings =
          (a.scene sc').buildings := by
      cases a.sceneConfs mapId with
      | some conf => exact ⟨rfl, rfl⟩
      | none => exact ⟨rfl, rfl⟩
    obtain ⟨change, hchange⟩ : ∃ change : TimedScene → TimedScene, change = fun scene =>
        { scene with toBattleScene := scene.allocate mapId (a.sceneConfs mapId) } := ⟨_, rfl⟩
    rw [← hchange]
    have hscenes := modifyScene_scene (a := { a with scenePool := pool }) hheld.1 change
    have hself : (Apps.modifyScene { a with scenePool := pool } sc' change).scene sc' =
        { a.scene sc' with
          toBattleScene := (a.scene sc').allocate mapId (a.sceneConfs mapId) } := by
      rw [hscenes, if_pos rfl, hchange, show Apps.scene { a with scenePool := pool } sc' =
        a.scene sc' from hread sc']
    have hset : Surveyed m (some sc')
        (Apps.modifyScene { a with scenePool := pool } sc' change) := by
      refine hpooled.aside hout rfl rfl (fun _ => PoolTemplate.modify_isSome change)
        (fun sc hne => (hscenes sc).trans (if_neg hne)) ?_ rfl hs.buildingPool (fun _ _ => rfl) rfl
      rw [hself]
      exact hentries.1.trans (congrArg BattleScene.warriors
        (congrArg TimedScene.toBattleScene (hread sc').symm))
    refine ⟨hset.initializeScene hout ((PoolTemplate.held_modify change).mpr hheld)
      (fun id => ?_) ?_ c, rfl⟩
    · rw [hself]
      show ((a.scene sc').allocate mapId (a.sceneConfs mapId)).buildings[id]? = none ∧
        ((a.scene sc').allocate mapId (a.sceneConfs mapId)).warriors[id]? = none
      rw [hentries.1, hentries.2]
      exact hblank id
    · rw [hself]
      exact hvacant

/-- A combat that begins gets its scene with its buildings, or none. -/
theorem Surveyed.beginScene (hs : Surveyed m none a) (he : m.Enrolled)
    (hclean : ∀ p, m.combats[c]? = some p → a.CleanGrids (m.combat p).mapId)
    (hbegin : a.onEventCombatBeginScene m c = some b) : Surveyed m none b := by
  rw [onEventCombatBeginScene] at hbegin
  split at hbegin
  · cases hbegin
    exact hs
  · rename_i p hc
    split at hbegin
    · cases hbegin
    · rename_i hallocate
      cases hbegin
      rw [allocateScene] at hallocate
      split at hallocate
      · rename_i pool hpool
        obtain ⟨_, ⟨⟩⟩ := Option.ite_none_left_eq_some.mp hallocate
        refine hs.pooled (PoolTemplate.grown_of_allocate hs.scenePool hpool).sound (fun q => ?_)
          (fun q hq => (PoolTemplate.allocate_none_held hs.scenePool hpool).mpr hq) none
        have hread := allocate_read a.scenePool q
        rwa [hpool] at hread
      · cases hallocate
    · rename_i sc d hallocate
      cases hbegin
      have hid := (he.combats c p hc).2
      obtain ⟨hraising, hscenes⟩ := hs.raising (hclean p hc) hallocate c
      have hends : Attempts.Ends (fun d => (∀ entry ∈ ([] : List (Int × CombatBuildingField)),
            (m.combat p).buildings[entry.1]? = some entry.2) ∧ Raising m c sc d) (Surveyed m none)
          ((m.combat p).buildings.toList.foldlM (Apps.placeBuilding m c sc)
            (d.initializeScene sc c)) := by
        refine Attempts.ends_foldlM (I := fun (l : List (Int × CombatBuildingField)) (d : Apps) =>
          (∀ entry ∈ l, (m.combat p).buildings[entry.1]? = some entry.2) ∧ Raising m c sc d)
          ?_ _ ⟨fun entry hin => ExtTreeMap.mem_toList_iff_getElem?_eq_some.mp hin, hraising⟩
        rintro entry rest d ⟨hentries, hd⟩
        refine (hd.placeBuilding hc (hentries entry (List.mem_cons_self ..))).mono ?_ fun _ => id
        exact fun d' hd' => ⟨fun entry' hin => hentries entry' (List.mem_cons_of_mem _ hin), hd'⟩
      rw [raiseScene, hid]
      split
      · rename_i d' hfold
        exact hends.error hfold
      · rename_i d' hfold
        obtain ⟨_, hd'⟩ := hends.ok hfold
        split
        · exact hd'.abandonScene
        · rename_i hfree
          exact hd'.register hc (Option.not_isSome_iff_eq_none.mp hfree)

theorem CleanGrids.same (h : a.CleanGrids c) (hboard : a'.board = a.board) : a'.CleanGrids c := by
  rcases h with hconf | hfirst
  · left
    rw [show a'.sceneConfs = a.sceneConfs from congrArg Board.sceneConfs hboard]
    exact hconf
  · right
    intro sc hsc i
    rw [show a'.scenePool.list = a.scenePool.list from
      congrArg (fun board => board.scenePool.list) hboard] at hsc
    rw [(BattleScene.of_ground (ground_scene hboard sc)).2.2.1]
    exact hfirst sc hsc i

theorem alike_startTimer (a : Apps) (expireMs : Int) (callback : TimerCallback) (callTimes : Int) :
    Alike a (a.startTimer expireMs callback callTimes).2 :=
  ⟨rfl, rfl, fun _ => rfl, fun _ => rfl, id, fun _ => rfl, id, rfl, fun _ _ _ _ _ _ => rfl⟩

theorem alike_setMemory (s : Server) (memory : Server.Memory) :
    Alike s.apps (s.setMemory memory).apps :=
  ⟨rfl, rfl, fun _ => rfl, fun _ => rfl, fun h => ⟨h.initialSize, h.extendSize, h.list⟩,
    fun _ => rfl, fun h => ⟨h.initialSize, h.extendSize, h.list⟩, rfl, fun _ _ _ _ _ _ => rfl⟩

/-- What is on the scene at `sc` is in the one grid at its position, and nothing else is in the
grids. -/
structure GridsIndex (m : CombatManagers) (a : Apps) (sc : Ptr) : Prop where
  warriors : ∀ (id : Int) w, (a.scene sc).warriors[id]? = some w →
    ∃ i, (a.scene sc).getGrid (a.warriorPos w) = some i ∧
      ∀ j, w ∈ ((a.scene sc).grids j).warriors ↔ j = i
  buildings : ∀ (id : Int) x, (a.scene sc).buildings[id]? = some x →
    ∃ i, (a.scene sc).getGrid (a.buildingEntity m x).pos = some i ∧
      ∀ j, x ∈ ((a.scene sc).grids j).buildings ↔ j = i
  registeredWarriors : ∀ i, ∀ w ∈ ((a.scene sc).grids i).warriors,
    ∃ id : Int, (a.scene sc).warriors[id]? = some w
  registeredBuildings : ∀ i, ∀ x ∈ ((a.scene sc).grids i).buildings,
    ∃ id : Int, (a.scene sc).buildings[id]? = some x

theorem Standing.gridsIndex (h : Standing m a c sc) : GridsIndex m a sc := by
  refine ⟨fun id w hw => ?_, fun id x hx => ?_, fun i w hin => ?_, fun i x hin => ?_⟩
  · obtain ⟨i, hi⟩ := Option.isSome_iff_exists.mp (h.indexed.warriors.placed id w hw)
    have hpos : a.warriorPos w = a.originPos (c, id) := by
      rw [warriorPos, (h.warriors id w hw).2.1]
      rfl
    rw [hpos]
    refine ⟨i, hi, fun j => ?_⟩
    rw [h.indexed.warriors.holds_registered hw, hi, Option.some.injEq, eq_comm]
  · obtain ⟨i, hi⟩ := Option.isSome_iff_exists.mp (h.indexed.buildings.placed id x hx)
    obtain ⟨pos, hpos, hgrid⟩ := Option.bind_eq_some_iff.mp hi
    obtain ⟨building, hbuilding, rfl⟩ := Option.map_eq_some_iff.mp hpos
    have hentity : (a.buildingEntity m x).pos = ⟨building.posX, building.posY⟩ := by
      rw [buildingEntity, (h.buildings id x hx).2.1]
      dsimp only [Option.getD_some]
      rw [hbuilding]
    rw [hentity]
    refine ⟨i, hgrid, fun j => ?_⟩
    rw [h.indexed.buildings.holds_registered hx, hi, Option.some.injEq, eq_comm]
  · obtain ⟨id, hw, _⟩ := (h.indexed.warriors.holds_iff i w).mp hin
    exact ⟨id, hw⟩
  · obtain ⟨id, hx, _⟩ := (h.indexed.buildings.holds_iff i x).mp hin
    exact ⟨id, hx⟩

end Apps

namespace Server

open Apps

/-! ## Runs -/

/-- The combat is on a configured map, or the first scene in the pool has nothing in its grids. -/
def CleanBegin (m : CombatManagers) (a : Apps) (combatId : Int) : Prop :=
  ∀ p, m.combats[combatId]? = some p → a.CleanGrids (m.combat p).mapId

theorem surveyedRule : SceneRule (fun m a => Surveyed m none a) CleanBegin (fun _ => True) where
  calm := fun h hcalm => h.alike hcalm.alike
  goes := fun h _ hgoes => h.lasts (hgoes.lasts none) nofun
  deploy := fun session hostId data h he _ =>
    h.lasts (he.deploy session hostId data).2.1 nofun
  memory := fun {s} memory h => by
    have hgoes : Goes s.managers (s.setMemory memory).managers :=
      goes_outside _ _ _ _ _ _
    exact Surveyed.alike (h.lasts (hgoes.lasts none) nofun) (alike_setMemory s memory)
  timer := fun callback callTimes h => h.alike (alike_startTimer _ _ callback callTimes)
  settleTimer := fun h _ => h.alike (alike_startTimer _ _ _ _)
  stepTo := fun h hscene hi hj => h.stepTo hscene hi hj
  build := fun h _ hgoes hc hnew hgiven buildingId => h.sceneBuild hgoes hc hnew hgiven buildingId
  death := fun combatId target h => h.deathScene combatId target
  begins := fun {m m' a a' c} hbegins hgoes hboard p hc => by
    rw [hgoes.combats] at hc
    rw [(hgoes.combat p).mapId]
    exact (hbegins p hc).same hboard
  begin := fun h he hbegins hbegin => h.beginScene he hbegins hbegin
  settle := fun {m a c p} h he hc =>
    (h.settleScene c).1.lasts (he.closeCombat hc).lasts fun c' heq => by
      rw [← Option.some.inj heq]
      exact (h.settleScene c).2

/-- A combat that begins is on a configured map, or the first scene in the pool has nothing in its
grids. -/
def GridGuard (s : Server) (action : Action) : Prop :=
  ∀ session combatId, action = .begin session combatId → CleanBegin s.managers s.apps combatId

/-- In every state of a run of such combats the grids of the running scenes hold exactly the
warriors and the buildings on them, each where it is. -/
theorem grids_index (configs : Configs) (memory : Memory) (s : Server)
    (hs : Reaches (fun s a => some (step s a)) GridGuard (started configs memory) s)
    (combatId : Int) (sc : Ptr) (hrunning : s.apps.scenes combatId = some sc) :
    GridsIndex s.managers s.apps sc := by
  have hkeeps : s.Keeps fun m a => Surveyed m none a := by
    refine hs.invariant ?_ fun s a s' h hguard hstep => ?_
    · obtain ⟨henrolled, _⟩ := started_combats configs.combatInitialSize
        configs.combatExtendSize configs.combatRoleInitialSize configs.combatRoleExtendSize
        memory.combats memory.roles memory.buildingAnswers memory.warriorAnswers
      refine ⟨henrolled, ⟨⟨List.nodup_nil, nofun⟩, ⟨rfl, rfl, rfl⟩, ⟨rfl, rfl, rfl⟩, nofun, nofun,
        fun w sc hscene => ?_, fun sc _ _ id => ?_⟩⟩
      · have hnew : (started configs memory).apps.warrior w = default := rfl
        rw [hnew] at hscene
        cases hscene
      · have hnew : (started configs memory).apps.scene sc = default := rfl
        rw [hnew]
        exact ⟨ExtTreeMap.getElem?_empty, ExtTreeMap.getElem?_empty⟩
    · cases hstep
      exact surveyedRule.step h ⟨hguard, fun _ _ _ _ => trivial⟩
  exact (hkeeps.2.standing combatId sc hrunning).gridsIndex

/-- The warrior that marches is in the grid where it is, and so is the building. -/
theorem grids_index_marching : (marching 5 400).apps.scenes 0 = some 0 ∧
    GridsIndex (marching 5 400).managers (marching 5 400).apps 0 := by
  have hbegin : ∀ s : Server, (∀ mapId, (s.apps.sceneConfs mapId).isSome) →
      GridGuard s (.begin 0 0) := by
    intro s hconfs session combatId _ p _
    exact Or.inl (hconfs _)
  have hreaches : Reaches (fun s a => some (step s a)) GridGuard _ (marching 5 400) :=
    ((((Reaches.refl.snoc (.accept 0) nofun rfl).snoc (.deploy 0 5 (recruits 5 400)) nofun
      rfl).snoc (.begin 0 0) (hbegin _ fun _ => rfl) rfl).snoc (.build 7 1 1) nofun rfl).snoc
        (.move 7 [2] ⟨2, 0⟩) nofun rfl
  have hrunning : (marching 5 400).apps.scenes 0 = some 0 := by decide +kernel
  exact ⟨hrunning, grids_index _ _ (marching 5 400) hreaches 0 0 hrunning⟩

/-- A combat on map 1 is settled, and the next begins on a map without a configuration. -/
def haunted : Server :=
  ((((((small (fun mapId => if mapId = 1 then some ⟨1, 4, ['0', '0', '0', '0']⟩ else none)
    ⟨[some 0], [some 0], [true, true], [true], [some 0], [some 0, some 1], [some 0], [some 0],
      [some 0, some 1]⟩).step (.accept 0)).step (.deploy 0 5 (recruits 5 400))).step
        (.begin 0 0)).step (.expire 1)).step
          (.deploy 0 6 { recruits 5 400 with mapId := 2 })).step (.begin 0 1)

/-- The scene comes back with the building of the first combat in its grids. -/
theorem scene_haunted : ∃ configs memory, Reaches (fun s a => some (step s a)) (fun _ _ => True)
      (started configs memory) haunted ∧
    haunted.apps.scenes 1 = some 0 ∧ ¬ GridsIndex haunted.managers haunted.apps 0 := by
  refine ⟨_, _, (((((Reaches.refl.snoc (.accept 0) trivial rfl).snoc
    (.deploy 0 5 (recruits 5 400)) trivial rfl).snoc (.begin 0 0) trivial rfl).snoc
      (.expire 1) trivial rfl).snoc (.deploy 0 6 { recruits 5 400 with mapId := 2 }) trivial
        rfl).snoc (.begin 0 1) trivial rfl, by decide +kernel, fun h => ?_⟩
  have hghost : (0 : Ptr) ∈ ((haunted.apps.scene 0).grids 1).buildings := by decide +kernel
  obtain ⟨id, hid⟩ := h.registeredBuildings 1 0 hghost
  have hentries : ((haunted.apps.scene 0).buildings.toList).map Prod.snd = [1] := by
    decide +kernel
  have hin := mem_entries.mpr ⟨id, hid⟩
  rw [hentries] at hin
  cases List.mem_singleton.mp hin

end Server

end Mysya
