import Mysya.AutoRuns

/-!
# Who is observed

An auto observes entities of its own combat. What the handlers and the timers do for an auto adds
observers in that combat only, so in every run observers are of combats with a raised building. No
building goes, and one comes only when a combat begins.
-/

open Std OwnedTimers Attempts

namespace Mysya

namespace Apps

variable {a a' a'' : Apps} {m : CombatManagers} {c : Int} {x y w : Ptr}

/-- Observers come in `c` only, and the autos and buildings are those of before. -/
structure Watches (c : Int) (a a' : Apps) : Prop where
  autoes : a'.autoes = a.autoes
  buildings : a'.buildings = a.buildings
  hosts : ∀ y, (a'.auto y).host = (a.auto y).host
  observers : ∀ k id, k.1 ≠ c → id ∈ a'.observers k → id ∈ a.observers k

theorem Watches.same (hautoes : a'.autoes = a.autoes) (hbuildings : a'.buildings = a.buildings)
    (hautoPool : a'.autoPool = a.autoPool) (hobservers : a'.observers = a.observers) :
    Watches c a a' where
  autoes := hautoes
  buildings := hbuildings
  hosts := fun y => by rw [auto, auto, hautoPool]
  observers := fun _ _ _ => by
    rw [hobservers]
    exact id

theorem Watches.refl (a : Apps) : Watches c a a := .same rfl rfl rfl rfl

theorem Watches.trans (h : Watches c a a') (h' : Watches c a' a'') : Watches c a a'' where
  autoes := h'.autoes.trans h.autoes
  buildings := h'.buildings.trans h.buildings
  hosts := fun y => (h'.hosts y).trans (h.hosts y)
  observers := fun k id hk hid => h.observers k id hk (h'.observers k id hk hid)

/-- The combat of an auto stays the same. -/
theorem Watches.combat (h : Watches c a a') (hx : (a.autoKey x).1 = c) : (a'.autoKey x).1 = c := by
  rw [autoKey, h.hosts]
  exact hx

theorem Outside.watches (h : Outside a a') : Watches c a a' :=
  .same h.autoes h.buildings h.autoPool h.observers

/-! ## What an auto does -/

theorem watches_modifyAuto (a : Apps) (x : Ptr) {change : Auto → Auto}
    (hchange : ∀ auto, (change auto).host = auto.host) : Watches c a (a.modifyAuto x change) where
  autoes := rfl
  buildings := rfl
  hosts := fun y => by
    rw [auto, modifyAuto, auto]
    by_cases heq : y = x
    · rw [heq, PoolTemplate.read, PoolTemplate.modify_self, PoolTemplate.read]
      cases a.autoPool.objects x with
      | none => rfl
      | some old => exact hchange old
    · rw [PoolTemplate.read_modify_other _ heq]
  observers := fun _ _ _ => id

theorem watches_observerAdd (a : Apps) (entityId autoId : Int) :
    Watches c a (a.observerAdd c entityId autoId) where
  autoes := rfl
  buildings := rfl
  hosts := fun _ => rfl
  observers := fun k id hk hid => by
    have hid : id ∈ Function.update a.observers (c, entityId) _ k := hid
    rwa [Function.update_of_ne fun heq => hk (congrArg Prod.fst heq)] at hid

theorem observerRemove_observers (a : Apps) (combatId entityId autoId : Int) (k : EntityKey)
    (id : Int) (hid : id ∈ (a.observerRemove combatId entityId autoId).observers k) :
    id ∈ a.observers k := by
  rw [observerRemove] at hid
  split at hid
  · exact hid
  · have hid : id ∈ Function.update a.observers (combatId, entityId)
      ((a.observers (combatId, entityId)).erase autoId) k := hid
    by_cases heq : k = (combatId, entityId)
    · rw [heq, Function.update_self, ExtTreeSet.mem_erase] at hid
      rw [heq]
      exact hid.2
    · rwa [Function.update_of_ne heq] at hid

theorem watches_observerRemove (a : Apps) (combatId entityId autoId : Int) :
    Watches c a (a.observerRemove combatId entityId autoId) := by
  refine ⟨?_, ?_, ?_, fun k id _ hid => observerRemove_observers _ _ _ _ k id hid⟩
  · rw [observerRemove]
    split
    · rfl
    · rfl
  · rw [observerRemove]
    split
    · rfl
    · rfl
  · rw [observerRemove]
    split
    · exact fun _ => rfl
    · exact fun _ => rfl

theorem watches_stopTimer (a : Apps) (id : Int) : Watches c a (a.stopTimer id) :=
  (outside_stopTimer a id).watches

theorem watches_startTimer (a : Apps) (expireMs : Int) (callback : TimerCallback)
    (callTimes : Int) : Watches c a (a.startTimer expireMs callback callTimes).2 :=
  .same rfl rfl rfl rfl

theorem watches_setTarget (hx : (a.autoKey x).1 = c) (type : CombatEntityType) (id : Int) :
    Watches c a (a.setTarget x type id) := by
  have hset : Watches c a (a.modifyAuto x fun auto => { auto with target := ⟨type, id⟩ }) :=
    watches_modifyAuto a x fun _ => rfl
  rw [setTarget, hset.combat hx]
  exact hset.trans (watches_observerAdd _ _ _)

theorem watches_resetTarget (a : Apps) (x : Ptr) : Watches c a (a.resetTarget x) := by
  rw [resetTarget]
  split
  · exact .refl a
  · exact (watches_observerRemove a _ _ _).trans (watches_modifyAuto _ x fun _ => rfl)

theorem watches_changeTargetedNum (a : Apps) (x : Ptr) (increment : Int) :
    Watches c a (a.changeTargetedNum x increment) := by
  rw [changeTargetedNum]
  split
  · exact .refl a
  · split
    · exact .refl a
    · exact .same rfl rfl rfl rfl

theorem watches_stopStatus (a : Apps) (x : Ptr) (status : AutoStatus) :
    Watches c a (a.stopStatus x status) := by
  cases status with
  | search =>
    rw [stopStatus, stopSearch]
    split
    · exact .refl a
    · exact (watches_stopTimer a _).trans (watches_modifyAuto _ x fun _ => rfl)
  | chase =>
    rw [stopStatus, stopChase]
    split
    · exact .refl a
    · exact (watches_stopTimer a _).trans (watches_modifyAuto _ x fun _ => rfl)
  | attack =>
    rw [stopStatus, stopAttack]
    refine (watches_changeTargetedNum a x (-1)).trans (Watches.trans ?_ (watches_resetTarget _ x))
    rw [resetAttackTimer]
    split
    · exact .refl _
    · exact (watches_stopTimer _ _).trans (watches_modifyAuto _ x fun _ => rfl)

theorem watches_stopPresentStatus (a : Apps) (x : Ptr) : Watches c a (a.stopPresentStatus x) := by
  rw [stopPresentStatus]
  split
  · exact .refl a
  · rename_i status _
    exact (watches_stopStatus a x status).trans (watches_observerRemove _ _ _ _)

theorem watches_switchStatus (hx : (a.autoKey x).1 = c) (status : AutoStatus) :
    Watches c a (a.switchStatus x status) := by
  have hset : Watches c a ((a.stopPresentStatus x).modifyAuto x fun auto =>
      { auto with presentStatus := some status }) :=
    (watches_stopPresentStatus a x).trans (watches_modifyAuto _ x fun _ => rfl)
  rw [switchStatus, hset.combat hx]
  exact hset.trans (watches_observerAdd _ _ _)

theorem watches_startSearch (a : Apps) (x : Ptr) : Watches c a (a.startSearch x) :=
  (watches_startTimer a 200 (.search x) (-1)).trans (watches_modifyAuto _ x fun _ => rfl)

theorem watches_gotoSearch (hx : (a.autoKey x).1 = c) : Watches c a (a.gotoSearch x) :=
  (watches_switchStatus hx .search).trans (watches_startSearch _ x)

theorem watches_startAttack (m : CombatManagers) (a : Apps) (x : Ptr) :
    Watches c a (a.startAttack m x) := by
  have hlocked : ∀ {b : Apps}, Watches c a b → Watches c a
      ((b.onEventCombatLockTarget (b.autoKey x).1 (b.autoKey x).2).changeTargetedNum x 1) :=
    fun {b} hb => (hb.trans (outside_lockTarget b _ _).watches).trans
      (watches_changeTargetedNum _ x 1)
  rw [startAttack]
  refine hlocked ?_
  exact (watches_startTimer a _ (.attack x) (-1)).trans (watches_modifyAuto _ x fun _ => rfl)

theorem watches_gotoAttack (m : CombatManagers) (hx : (a.autoKey x).1 = c) :
    Watches c a (a.gotoAttack m x) :=
  (watches_switchStatus hx .attack).trans (watches_startAttack m _ x)

theorem watches_chase (m : CombatManagers) (hx : (a.autoKey x).1 = c) :
    Watches c a (a.chase m x) := by
  rw [Apps.chase]
  split
  · exact watches_gotoAttack m hx
  · have hmove : Watches c a (a.moveTarget m x).2 := (outside_moveTarget m a x).watches
    split
    · rename_i b hb
      rw [hb] at hmove
      exact hmove
    · rename_i b hb
      rw [hb] at hmove
      exact hmove.trans (watches_gotoSearch (hmove.combat hx))

theorem watches_gotoChase (m : CombatManagers) (hx : (a.autoKey x).1 = c) :
    Watches c a (a.gotoChase m x) :=
  (watches_switchStatus hx .chase).trans
    (watches_chase m ((watches_switchStatus hx .chase).combat hx))

theorem watches_setRefindPathTimer (a : Apps) (x : Ptr) : Watches c a (a.setRefindPathTimer x) :=
  (watches_startTimer a 600 (.refindPath x) 1).trans (watches_modifyAuto _ x fun _ => rfl)

/-! ## What an auto does about events -/

theorem watches_onMoveStep (m : CombatManagers) (warriorId : Int) (hx : (a.autoKey x).1 = c) :
    Watches c a (a.onMoveStep m warriorId x) := by
  rw [onMoveStep]
  split
  · split
    · exact .refl a
    · split
      · exact watches_gotoAttack m hx
      · split
        · exact watches_setRefindPathTimer a x
        · exact .refl a
  · split
    · exact .refl a
    · split
      · split
        · exact watches_gotoChase m hx
        · exact .refl a
      · exact .refl a
  · exact .refl a

theorem watches_onTargetLost (entity : CombatEntity) (hx : (a.autoKey x).1 = c) :
    Watches c a (onTargetLost entity a x) := by
  rw [onTargetLost]
  split
  · exact .refl a
  · exact .refl a
  · split
    · exact .refl a
    · exact watches_gotoSearch hx

theorem watches_onAttacked (m : CombatManagers) (hostId warriorId : Int)
    (hx : (a.autoKey x).1 = c) : Watches c a (onAttacked m hostId warriorId a x) := by
  rw [onAttacked]
  split
  · split
    · exact .refl a
    · have hset := watches_setTarget hx .warrior warriorId
      exact hset.trans (watches_gotoChase m (hset.combat hx))
  · exact .refl a

/-- The autos of a combat are called about an entity. -/
theorem watches_dispatch (h : a.Counting) (combatId entityId : Int) {handler : Apps → Ptr → Apps}
    (hhandler : ∀ b x, (b.autoKey x).1 = combatId → Watches combatId b (handler b x)) :
    Watches combatId a (a.dispatch combatId entityId handler) := by
  refine dispatch_rule (I := Watches combatId a) (.refl a) ?_ ?_ ?_ ?_ ?_
  · exact fun _ => .same rfl rfl rfl rfl
  · intro b autoId x hx hb
    refine hb.trans (hhandler b x (hb.combat ?_))
    rw [hb.autoes] at hx
    rw [autoKey, (h.registered (combatId, autoId) x hx).2]
    rfl
  · exact fun b hb => hb.trans (.same rfl rfl rfl rfl)
  · exact fun b _ _ _ hb => hb.trans (watches_observerRemove b _ _ _)
  · exact fun b hb => hb.trans (.same rfl rfl rfl rfl)

/-! ## Where observers are -/

/-- The buildings are those of `B`, and observers are of combats with a raised building. -/
structure Watched (B : EntityKey → Option Ptr) (a : Apps) : Prop where
  buildings : a.buildings = B
  raised : ∀ k id, id ∈ a.observers k → a.Raised k.1

variable {B : EntityKey → Option Ptr}

theorem Watched.fewer (h : Watched B a) (hbuildings : a'.buildings = a.buildings)
    (hobservers : ∀ k id, id ∈ a'.observers k → id ∈ a.observers k) : Watched B a' where
  buildings := hbuildings.trans h.buildings
  raised := fun k id hid => by
    rw [Raised, hbuildings]
    exact h.raised k id (hobservers k id hid)

theorem Watched.watches (h : Watched B a) (hw : Watches c a a') (hraised : a.Raised c) :
    Watched B a' where
  buildings := hw.buildings.trans h.buildings
  raised := fun k id hid => by
    rw [Raised, hw.buildings]
    by_cases hk : k.1 = c
    · rw [hk]
      exact hraised
    · exact h.raised k id (hw.observers k id hk hid)

theorem Watched.outside (h : Watched B a) (ho : Outside a a') : Watched B a' :=
  h.fewer ho.buildings fun k id hid => by rwa [ho.observers] at hid

/-- Where nobody observes, nothing is called. -/
theorem Watched.dispatch (h : Watched B a) (hcounting : a.Counting) (combatId entityId : Int)
    {handler : Apps → Ptr → Apps}
    (hhandler : ∀ b x, (b.autoKey x).1 = combatId → Watches combatId b (handler b x)) :
    Watched B (a.dispatch combatId entityId handler) := by
  by_cases hempty : ∃ id, id ∈ a.observers (combatId, entityId)
  · obtain ⟨id, hid⟩ := hempty
    exact h.watches (watches_dispatch hcounting combatId entityId hhandler) (h.raised _ id hid)
  · have hnone : (a.observers (combatId, entityId)).isEmpty := by
      rw [ExtTreeSet.isEmpty_iff, ExtTreeSet.eq_empty_iff_forall_not_mem]
      exact fun id hid => hempty ⟨id, hid⟩
    rw [Apps.dispatch, if_pos hnone]
    exact h

/-- The end of an auto takes observers away. -/
theorem Watched.finalizeAuto (h : Watched B a) (x : Ptr) : Watched B (a.finalizeAuto x) := by
  have hstop : ∀ c, Watches c a (((a.stopPresentStatus x).modifyAuto x fun auto =>
      { auto with presentStatus := none }).resetTarget x) := by
    intro c
    have hstatus : Watches c (a.stopPresentStatus x) ((a.stopPresentStatus x).modifyAuto x fun auto =>
        { auto with presentStatus := none }) := watches_modifyAuto _ x fun _ => rfl
    exact ((watches_stopPresentStatus a x).trans hstatus).trans (watches_resetTarget _ x)
  exact h.fewer (hstop 0).buildings
    fun k id hid => (hstop (k.1 + 1)).observers k id (by omega) hid

theorem Watched.dropAuto (h : Watched B a) {key : EntityKey} (hdrop : a.dropAuto key = some a') :
    Watched B a' := by
  rw [Apps.dropAuto, Option.map_eq_some_iff] at hdrop
  obtain ⟨x, _, rfl⟩ := hdrop
  have hunlisted : Watched B { a with autoes := Function.update a.autoes key none } :=
    ⟨h.buildings, h.raised⟩
  exact (hunlisted.finalizeAuto x).fewer rfl fun _ _ => id

/-- An auto that begins observes the host that it gets. -/
theorem Watched.initializeAuto (h : Watched B a) {key : EntityKey} (hraised : a.Raised key.1)
    (x : Ptr) : Watched B (a.initializeAuto x key) := by
  rw [Apps.initializeAuto]
  have hset : Watched B (a.modifyAuto x fun auto => { auto with
      host := some key, presentStatus := some .search, target := ⟨.building, 0⟩ }) :=
    ⟨h.buildings, h.raised⟩
  exact (hset.watches (watches_observerAdd _ key.2 key.2) hraised).watches
    (watches_startSearch _ x) hraised

/-! ## Events -/

theorem Watched.dropAutos (h : Watched B a) (combatId : Int) (l : List Int) :
    Watched B (a.dropAutos combatId l) := by
  induction l generalizing a with
  | nil => exact h
  | cons warriorId l ih =>
    rw [Apps.dropAutos]
    split
    · exact h
    · rename_i b hb
      exact ih (h.dropAuto hb)

theorem Watched.settleAi (h : Watched B a) (combatId : Int) :
    Watched B (a.onEventCombatSettleAi m combatId) := by
  rw [onEventCombatSettleAi]
  split
  · exact h
  · exact h.dropAutos combatId _

theorem Watched.raiseAiBuilding (h : Watched a.buildings a) (combatId buildingId : Int) :
    Ends (fun b => Watched b.buildings b) (fun b => Watched b.buildings b)
      (a.raiseAiBuilding combatId buildingId) := by
  rw [Apps.raiseAiBuilding]
  split
  · exact ⟨rfl, h.raised⟩
  · split
    · exact ⟨rfl, h.raised⟩
    · refine ⟨rfl, fun k id hid => ?_⟩
      obtain ⟨id', hid'⟩ := h.raised k id hid
      refine ⟨id', ?_⟩
      show (Function.update a.buildings (combatId, buildingId) _ (k.1, id')).isSome
      by_cases heq : (k.1, id') = (combatId, buildingId)
      · rw [heq, Function.update_self]
        rfl
      · rwa [Function.update_of_ne heq]

/-- A begin raises buildings. -/
theorem Watched.beginAi (h : Watched a.buildings a) (combatId : Int) :
    Watched (a.onEventCombatBeginAi m combatId).buildings (a.onEventCombatBeginAi m combatId) := by
  have hloop : ∀ l : List Int,
      Ends (fun b => Watched b.buildings b) (fun b => Watched b.buildings b)
        (l.foldlM (Apps.raiseAiBuilding combatId) a) := by
    intro l
    refine ends_foldlM (I := fun _ b => Watched b.buildings b) ?_ l h
    exact fun buildingId rest b hb => hb.raiseAiBuilding combatId buildingId
  rw [onEventCombatBeginAi]
  split
  · exact h
  · split
    · rename_i b hb
      exact (hloop _).error hb
    · rename_i b hb
      exact (hloop _).ok hb

theorem Watched.buildAction (h : Watched B a) {combatId : Int} (hraised : a.Raised combatId)
    (warriorId : Int) : Watched B (a.onEventCombatBuildAction m combatId warriorId) := by
  rw [onEventCombatBuildAction]
  split
  · exact h
  · split
    · exact ⟨h.buildings, h.raised⟩
    · rename_i x pool _
      have hpool : Watched B { a with autoPool := pool } := ⟨h.buildings, h.raised⟩
      have hraised : ({ a with autoPool := pool } : Apps).Raised (combatId, warriorId).1 := hraised
      have hbegun := hpool.initializeAuto hraised x
      dsimp only
      split
      · exact (hbegun.finalizeAuto x).fewer rfl fun _ _ => id
      · exact ⟨hbegun.buildings, hbegun.raised⟩

theorem Watched.attacked (h : Watched B a) (hcounting : a.Counting) (combatId warriorId : Int)
    (host : CombatEntity) : Watched B (a.onEventCombatAttacked m combatId warriorId host) := by
  rw [onEventCombatAttacked]
  split
  · exact h
  · exact h.dispatch hcounting combatId host.id
      fun _ _ hx => watches_onAttacked m host.id warriorId hx

theorem Watched.targetLost (h : Watched B a) (hcounting : a.Counting) (combatId : Int)
    (entity : CombatEntity) : Watched B (a.dispatch combatId entity.id (onTargetLost entity)) :=
  h.dispatch hcounting combatId entity.id fun _ _ hx => watches_onTargetLost entity hx

theorem Watched.deathAi (h : Watched B a) (hcounting : a.Counting) (combatId : Int)
    (target : CombatEntity) : Watched B (a.onEventCombatDeathAi combatId target) := by
  have hdispatch := h.targetLost hcounting combatId target
  rw [onEventCombatDeathAi]
  split
  · exact hdispatch
  · cases hdrop : (a.dispatch combatId target.id (onTargetLost target)).dropAuto
      (combatId, target.id) with
    | none => exact hdispatch
    | some b => exact hdispatch.dropAuto hdrop

theorem Watched.convertCampAi (h : Watched B a) (hcounting : a.Counting) (combatId : Int)
    (host : CombatEntity) : Watched B (a.onEventCombatConvertCampAi combatId host) := by
  have hdispatch := h.targetLost hcounting combatId host
  rw [onEventCombatConvertCampAi]
  split
  · exact hdispatch
  · split
    · exact hdispatch
    · exact ⟨hdispatch.buildings, hdispatch.raised⟩

/-! ## Timers -/

theorem Watched.moveStep (h : Watched B a) (hcounting : a.Counting) (w : Ptr) :
    Watched B (a.moveStep m w) := by
  rw [Apps.moveStep]
  split
  · exact h.outside (outside_moveReset a w)
  · split
    · exact h.outside (outside_moveReset a w)
    · dsimp only
      have hindex : Outside a (a.modifyWarrior w fun warrior =>
          { warrior with pathIndex := warrior.pathIndex + 1 }) := .same rfl rfl rfl rfl rfl rfl
      generalize (a.modifyWarrior w fun warrior =>
          { warrior with pathIndex := warrior.pathIndex + 1 }) = b at *
      split
      · exact h.outside (hindex.trans (outside_moveReset b w))
      · rename_i sc _ _ i _ _ j _
        have hstep : Outside b (b.stepTo sc w i j (((a.warrior w).movePaths[(a.warrior
            w).pathIndex.toNat]?).getD ⟨0, 0⟩)) := by
          rw [stepTo]
          dsimp only
          split
          · refine Outside.trans ?_ (outside_moveReset _ w)
            exact .same rfl rfl rfl rfl rfl rfl
          · exact .same rfl rfl rfl rfl rfl rfl
        have hmoved := hindex.trans hstep
        exact (h.outside hmoved).dispatch (hmoved.toBeside.counting hcounting) _ _
          fun _ _ hx => watches_onMoveStep m _ hx

/-- An auto of some status is of a combat with a raised building. -/
theorem Tallied.raised (h : Tallied m a) (hstatus : (a.auto x).presentStatus ≠ none) :
    a.Raised (a.autoKey x).1 := by
  obtain ⟨k, hk⟩ := h.1.listed hstatus
  rw [autoKey, (h.1.registered k x hk).2]
  exact h.2.autoes k.1 k.2 (by rw [hk]; rfl)

theorem Watched.onTimerSearch (h : Watched B a) (hraised : a.Raised (a.autoKey x).1) :
    Watched B (a.onTimerSearch m x) := by
  have hset : ∀ (type : CombatEntityType) (id : Int),
      Watched B ((a.setTarget x type id).gotoChase m x) := by
    intro type id
    have hset : Watches (a.autoKey x).1 a (a.setTarget x type id) := watches_setTarget rfl type id
    exact h.watches (hset.trans (watches_gotoChase m (hset.combat rfl))) hraised
  rw [Apps.onTimerSearch, searchTarget]
  grind

theorem Watched.onTimerRefindPath (h : Watched B a) (hraised : a.Raised (a.autoKey x).1) :
    Watched B (a.onTimerRefindPath m x) := by
  have hset : Watches (a.autoKey x).1 a (a.modifyAuto x fun auto =>
      { auto with timerIdRefindPath := -1, refindPath := false }) :=
    watches_modifyAuto a x fun _ => rfl
  exact h.watches (hset.trans (watches_chase m (hset.combat rfl))) hraised

/-- An auto that a timer of the AI is for has some status. -/
theorem Counting.status_of_timer (h : a.Counting) {id : Int} {callback : TimerCallback}
    {timers : Timers TimerCallback} (hexpire : a.timers.expire id = some (callback, timers))
    (hcallback : callback = .search x ∨ callback = .refindPath x) :
    (a.auto x).presentStatus ≠ none := by
  obtain ⟨old, hold, heq⟩ := Option.map_eq_some_iff.mp hexpire
  obtain rfl := (Prod.mk.inj heq).1
  rcases hcallback with hsearch | hrefind
  · rw [(h.search id old x hold hsearch).2.1]
    simp
  · rw [(h.refindPath id old x hold hrefind).2.1]
    simp

end Apps

open CombatManagers Apps

/-- Where no combat begins, the buildings of the AI stay. -/
theorem watchedRule (B : EntityKey → Option Ptr) :
    AiRule (fun m a => Tallied m a ∧ Watched B a) False where
  outside := fun h ho => ⟨talliedRule.outside h.1 ho, h.2.outside ho⟩
  managers := fun h hlasts hadmits hended =>
    ⟨talliedRule.managers h.1 hlasts hadmits hended, h.2⟩
  memory := fun memory h => ⟨talliedRule.memory memory h.1, h.2.buildings, h.2.raised⟩
  settle := fun combatId h => ⟨talliedRule.settle combatId h.1, h.2.settleAi combatId⟩
  begin := fun _ hfalse => hfalse.elim
  build := fun h hgoes hc hfresh hgiven ho hraised =>
    ⟨talliedRule.build h.1 hgoes hc hfresh hgiven ho hraised,
      (h.2.outside ho).buildAction hraised _⟩
  attacked := fun m' combatId warriorId host h =>
    ⟨talliedRule.attacked m' combatId warriorId host h.1, h.2.attacked h.1.1 combatId warriorId host⟩
  death := fun combatId target h =>
    ⟨talliedRule.death combatId target h.1, h.2.deathAi h.1.1 combatId target⟩
  convertCamp := fun combatId host h =>
    ⟨talliedRule.convertCamp combatId host h.1, h.2.convertCampAi h.1.1 combatId host⟩
  recovery := fun b _ h hchange =>
    ⟨talliedRule.recovery b h.1 hchange, h.2.buildings, h.2.raised⟩
  expired := fun h hexpire => ⟨talliedRule.expired h.1 hexpire, h.2.buildings, h.2.raised⟩
  search := fun {m a id x timers} h hexpire => by
    have hexpired : Watched B { a with timers := timers } := ⟨h.2.buildings, h.2.raised⟩
    have hstatus := h.1.1.status_of_timer (x := x) hexpire (Or.inl rfl)
    exact ⟨talliedRule.search h.1 hexpire, hexpired.onTimerSearch (h.1.raised hstatus)⟩
  refindPath := fun {m a id x timers} h hexpire => by
    have hexpired : Watched B { a with timers := timers } := ⟨h.2.buildings, h.2.raised⟩
    have hstatus := h.1.1.status_of_timer (x := x) hexpire (Or.inr rfl)
    exact ⟨talliedRule.refindPath h.1 hexpire, hexpired.onTimerRefindPath (h.1.raised hstatus)⟩
  move := fun w h => ⟨talliedRule.move w h.1, h.2.moveStep h.1.1 w⟩

/-- Observers stay where buildings are, also where combats begin. -/
def Observed (m : CombatManagers) (a : Apps) : Prop := Tallied m a ∧ Watched a.buildings a

theorem observed_of_watched {m : CombatManagers} {a : Apps} {B : EntityKey → Option Ptr}
    (h : Tallied m a ∧ Watched B a) : Observed m a := ⟨h.1, rfl, h.2.raised⟩

/-- Only begins raise buildings, so the rest of a rule is that of `watchedRule`. -/
theorem AiRule.of_watched {I : CombatManagers → Apps → Prop}
    (now : ∀ {m a}, I m a → Tallied m a ∧ Watched a.buildings a)
    (watched : ∀ {m a a'}, I m a → Tallied m a' ∧ Watched a.buildings a' → I m a')
    (managers : ∀ {m m' a} {ended : Option Int}, I m a → CombatManagers.Lasts ended m m' →
      CombatManagers.Admits m m' → (∀ c, ended = some c → m'.combats[c]? = none) → I m' a)
    (begin : ∀ {m a} combatId, I m a → I m (a.onEventCombatBeginAi m combatId)) :
    AiRule I True where
  outside := fun h ho => watched h ((watchedRule _).outside (now h) ho)
  managers := managers
  memory := fun memory h => watched h ((watchedRule _).memory memory (now h))
  settle := fun combatId h => watched h ((watchedRule _).settle combatId (now h))
  begin := fun combatId _ h => begin combatId h
  build := fun h hgoes hc hfresh hgiven ho hraised =>
    watched (managers h (hgoes.lasts none) hgoes.admits fun _ h => by cases h)
      ((watchedRule _).build (now h) hgoes hc hfresh hgiven ho hraised)
  attacked := fun m' combatId warriorId host h =>
    watched h ((watchedRule _).attacked m' combatId warriorId host (now h))
  death := fun combatId target h => watched h ((watchedRule _).death combatId target (now h))
  convertCamp := fun combatId host h =>
    watched h ((watchedRule _).convertCamp combatId host (now h))
  recovery := fun b _ h hchange => watched h ((watchedRule _).recovery b (now h) hchange)
  expired := fun h hexpire => watched h ((watchedRule _).expired (now h) hexpire)
  search := fun h hexpire => watched h ((watchedRule _).search (now h) hexpire)
  refindPath := fun h hexpire => watched h ((watchedRule _).refindPath (now h) hexpire)
  move := fun w h => watched h ((watchedRule _).move w (now h))

theorem observedRule : AiRule Observed True :=
  .of_watched id (fun _ => observed_of_watched)
    (fun h hlasts hadmits hended =>
      observed_of_watched ((watchedRule _).managers h hlasts hadmits hended))
    fun combatId h => ⟨talliedRule.begin combatId trivial h.1, h.2.beginAi combatId⟩

end Mysya
