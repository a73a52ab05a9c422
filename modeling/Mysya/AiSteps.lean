import Mysya.AutoEvents
import Mysya.SceneSteps
import Mysya.ServerSteps

/-!
# The AI under the steps of the server

What is true of the managers and the AI stays true if it survives the few things that the AI does:
its handlers of events, what its timers call, and what goes on outside it. Autos come only where a
building of the combat is raised.
-/

open Std OwnedTimers Attempts

namespace Mysya

open CombatManagers Apps

namespace CombatManagers

/-- A closed combat is not registered. -/
theorem closeCombat_combats (s : CombatManagers) (c : Int) (p : Ptr) :
    (s.closeCombat c p).combats[c]? = none := by
  have hcombats : (s.closeCombat c p).combats = (s.sendSettlement p).combats.erase c :=
    finalizeCombat_combats ((s.sendSettlement p).removeCombat c) p
  rw [hcombats, ExtTreeMap.getElem?_erase, if_pos (Std.compare_eq_iff_eq.mpr rfl)]

end CombatManagers

/-- Some building of the combat is raised. -/
def Apps.Raised (a : Apps) (c : Int) : Prop := ∃ id, (a.buildings (c, id)).isSome

/-- `I` survives what the AI does without telling its autos of anything, where a combat begins only
if `Begins` is true. -/
structure AiFrame (I : CombatManagers → Apps → Prop) (Begins : Prop) : Prop where
  outside : ∀ {m a a'}, I m a → Outside a a' → I m a'
  managers : ∀ {m m' a} {ended : Option Int}, I m a → CombatManagers.Lasts ended m m' →
    CombatManagers.Admits m m' → (∀ c, ended = some c → m'.combats[c]? = none) → I m' a
  memory : ∀ {s : Server} memory, I s.managers s.apps → I s.managers (s.setMemory memory).apps
  settle : ∀ {m a} combatId, I m a → I m (a.onEventCombatSettleAi m combatId)
  begin : ∀ {m a} combatId, Begins → I m a → I m (a.onEventCombatBeginAi m combatId)
  build : ∀ {m m' a a'} {combatId : Int} {p warriorId}, I m a → Goes m m' →
    m.combats[combatId]? = some p → (m.combat p).idAlloctor < warriorId →
    warriorId ≤ (m'.combat p).idAlloctor → Outside a a' → a'.Raised combatId →
    I m' (a'.onEventCombatBuildAction m' combatId warriorId)
  recovery : ∀ {m a} b {change : AiBuilding → AiBuilding}, I m a →
    (∀ building, (change building).host = building.host ∧
      (change building).targetedNum = building.targetedNum) →
    I m { a with buildingPool := a.buildingPool.modify b change }
  expired : ∀ {m a id callback timers}, I m a → a.timers.expire id = some (callback, timers) →
    I m { a with timers := timers }
  refindPath : ∀ {m a id x timers}, I m a → a.timers.expire id = some (.refindPath x, timers) →
    I m (Apps.onTimerRefindPath m { a with timers := timers } x)

/-- `I` survives all that the AI does. -/
structure AiRule (I : CombatManagers → Apps → Prop) (Begins : Prop) : Prop
    extends AiFrame I Begins where
  attacked : ∀ {m a} m' combatId warriorId host, I m a →
    I m (a.onEventCombatAttacked m' combatId warriorId host)
  death : ∀ {m a} combatId target, I m a → I m (a.onEventCombatDeathAi combatId target)
  convertCamp : ∀ {m a} combatId host, I m a → I m (a.onEventCombatConvertCampAi combatId host)
  search : ∀ {m a id x timers}, I m a → a.timers.expire id = some (.search x, timers) →
    I m (Apps.onTimerSearch m { a with timers := timers } x)
  move : ∀ {m a} w, I m a → I m (a.moveStep m w)

namespace AiRule

open Server

variable {s : Server} {p : Ptr} {combatId : Int}

/-! ## Settling -/

theorem stopCombatTimer_outside (s : Server) (id : Int) :
    Outside s.apps (s.stopCombatTimer id).apps := by
  rw [stopCombatTimer]
  split
  · exact .refl s.apps
  · exact outside_stopTimer s.apps id

/-- Settling takes the AI's part of the combat down, and the rest is outside the AI. -/
theorem settle_outside (s : Server) (hc : s.managers.combats[combatId]? = some p) :
    Outside (s.apps.onEventCombatSettleAi s.managers combatId)
      (s.onRequireCombatSettle combatId).2.apps := by
  rw [onRequireCombatSettle, hc]
  exact ((outside_settleScene _ combatId).trans (stopCombatTimer_outside ⟨s.managers, _⟩ _)).trans
    (stopCombatTimer_outside _ _)

theorem settle_managers (s : Server) (hc : s.managers.combats[combatId]? = some p) :
    (s.onRequireCombatSettle combatId).2.managers = s.managers.closeCombat combatId p := by
  rw [onRequireCombatSettle, hc]
  exact closeCombat_managers _ _ _

end AiRule

namespace AiFrame

open Server AiRule

variable {I : CombatManagers → Apps → Prop} {Begins : Prop} {s : Server} {m m' : CombatManagers}
  {a : Apps} {p q : Ptr} {combatId : Int}

theorem goes (rule : AiFrame I Begins) (h : I m a) (hgoes : Goes m m') : I m' a :=
  rule.managers h (hgoes.lasts none) hgoes.admits (fun _ h => by cases h)

theorem keeps_goes (rule : AiFrame I Begins) (he : m.Enrolled) (h : I m a) (hgoes : Goes m m') :
    Server.Keeps I ⟨m', a⟩ := ⟨hgoes.enrolled he, rule.goes h hgoes⟩

/-! ## Settling and beginning -/

theorem requireSettle (rule : AiFrame I Begins) (h : s.Keeps I) (combatId : Int) :
    (s.onRequireCombatSettle combatId).2.Keeps I := by
  cases hc : s.managers.combats[combatId]? with
  | none =>
    rw [onRequireCombatSettle, hc]
    exact h
  | some p =>
    have hsettled := rule.outside (rule.settle combatId h.2) (settle_outside s hc)
    rw [Server.Keeps, settle_managers s hc]
    refine ⟨(h.1.closeCombat hc).enrolled, rule.managers hsettled (h.1.closeCombat hc).lasts
      (closeCombat_admits s.managers combatId p) fun c heq => ?_⟩
    obtain rfl := Option.some.inj heq
    exact closeCombat_combats s.managers combatId p

theorem beginRequest (rule : AiFrame I Begins) (h : s.Keeps I) (hbegins : Begins)
    (session : SessionPtr) (combatId : Int) :
    (s.onMessageCombatBeginRequest session combatId).Keeps I := by
  rw [onMessageCombatBeginRequest]
  split
  · exact rule.keeps_goes h.1 h.2 (goes_send s.managers session (.beginResponse false combatId))
  · rename_i p hc
    have htimer : ∀ (m : CombatManagers) (id : Int),
        Goes m (m.modifyCombat p fun combat => { combat with timerIdSettle := toInt32 id }) :=
      fun m id => goes_beside ⟨rfl, rfl, rfl, Int.le_refl _, fun _ => rfl⟩ rfl rfl rfl
    have htimer' : ∀ (m : CombatManagers) (id : Int),
        Goes m (m.modifyCombat p fun combat =>
          { combat with timerIdResourceRecover := toInt32 id }) :=
      fun m id => goes_beside ⟨rfl, rfl, rfl, Int.le_refl _, fun _ => rfl⟩ rfl rfl rfl
    have hsettle : (s.setSettleTimer p).Keeps I := by
      have hstart := rule.outside h.2 (outside_startTimer s.apps
        (toInt32 ((s.managers.combat p).maxTime * 1000)) (.settle p) 1 fun y => by simp)
      exact rule.keeps_goes h.1 hstart (htimer s.managers _)
    have hrecover : ((s.setSettleTimer p).setResourceRecoverTimer p).Keeps I := by
      have hstart := rule.outside hsettle.2 (outside_startTimer (s.setSettleTimer p).apps
        1000 (.resourceRecover p) (-1) fun y => by simp)
      exact rule.keeps_goes hsettle.1 hstart (htimer' _ _)
    have hsupply : Goes ((s.setSettleTimer p).setResourceRecoverTimer p).managers
        (s.beginning p).managers := goes_allocateSupplies _ _ _
    dsimp only
    split
    · exact h
    · rename_i hb
      have hbegan := rule.outside (rule.begin combatId hbegins (rule.goes hrecover.2 hsupply))
        (outside_beginScene hb)
      exact rule.keeps_goes (hsupply.enrolled hrecover.1) hbegan
        (goes_send (s.beginning p).managers session (.beginResponse true combatId))

/-! ## Actions of a role -/

theorem raised_of_build {m : CombatManagers} {buildingId id : Int} {apps : Apps}
    (h : a.onRequireSceneBuild m combatId buildingId id = (true, apps)) : a.Raised combatId := by
  rw [onRequireSceneBuild] at h
  split at h
  · cases h
  · rename_i hvote
    rw [onVoteCombatBuild] at hvote
    split at hvote
    · exact absurd rfl hvote
    · rename_i b hb
      exact ⟨buildingId, by rw [hb]; rfl⟩

theorem buildWarrior (rule : AiFrame I Begins) (h : s.Keeps I)
    (hc : s.managers.combats[combatId]? = some p) (buildingId : Int) {confId : Int}
    {description : WarriorDescription}
    (hdescription : (s.managers.role q).warriorDescriptions[confId]? = some description) :
    (s.buildWarrior q p buildingId description).2.Keeps I := by
  rcases buildWarrior_outcome h.1 hc buildingId hdescription with
    ⟨m, hgoes, heq⟩ | ⟨id, m, m', hgoes, hfresh, hgiven, hrest, hbuilt⟩
  · rw [heq]
    exact rule.keeps_goes h.1 h.2 hgoes
  · have houtside := outside_sceneBuild m s.apps combatId buildingId id
    have hall := hgoes.trans hrest
    rcases hbuilt with ⟨_, heq⟩ | ⟨htrue, heq⟩
    · rw [heq]
      exact rule.keeps_goes h.1 (rule.outside h.2 houtside) hall
    · obtain ⟨id', hid'⟩ := raised_of_build (Prod.ext htrue rfl)
      have hraised : (s.apps.onRequireSceneBuild m combatId buildingId id).2.Raised combatId := by
        refine ⟨id', ?_⟩
        rw [houtside.buildings]
        exact hid'
      rw [heq]
      exact ⟨hall.enrolled h.1, rule.build h.2 hall hc hfresh
        (Int.le_trans hgiven (hrest.combat p).idAlloctor) houtside hraised⟩

theorem buildAction (rule : AiFrame I Begins) (h : s.Keeps I) (q : Ptr)
    (warriorConfId buildingId : Int) : (s.doBuildAction q warriorConfId buildingId).2.Keeps I := by
  rw [doBuildAction]
  split
  · rename_i description p hdescription _
    split
    · exact h
    · rename_i building hbuilding
      have hc := (h.1.buildings p buildingId building hbuilding).2
      split
      · exact h
      · split
        · exact h
        · split
          · exact h
          · exact rule.buildWarrior h hc buildingId hdescription
  · exact h

theorem moveAction (rule : AiFrame I Begins) (h : s.Keeps I) (q : Ptr) (warriorIds : List Int)
    (pos : Position) : (s.doMoveAction q warriorIds pos).Keeps I := by
  rw [doMoveAction]
  split
  · exact h
  · rename_i p _
    exact ⟨h.1, rule.outside h.2 (outside_foldl (f := fun (a : Apps) (id : Int) =>
      (a.onRequireSceneMove (s.managers.combat p).id id pos).2)
        (fun a id => outside_sceneMove a _ id pos) warriorIds s.apps)⟩

/-! ## Attacks -/

theorem frame (rule : AiFrame I Begins) : ServerFrame I where
  goes := fun h _ hgoes => rule.goes h hgoes
  recovery := fun b _ h hchange => rule.recovery b h hchange
  settle := fun h combatId => rule.requireSettle h combatId

/-- An attack, given what becomes of `I` where the autos are told of it. -/
theorem formulaAttack (rule : AiFrame I Begins) (h : s.Keeps I) (combatId warriorId : Int)
    (target : CombatEntity)
    (hattacked : ∀ hp, s.struck combatId warriorId target = some hp → ∀ m', I m' s.apps →
      I m' (s.apps.onEventCombatAttacked m' combatId warriorId target))
    (hlost : ∀ hp, s.struck combatId warriorId target = some hp → hp ≤ 0 → ∀ m' a,
      a = s.apps.onEventCombatAttacked m' combatId warriorId target → ∀ m, I m a →
        I m (a.onEventCombatDeathAi combatId target) ∧
        I m (a.onEventCombatConvertCampAi combatId target)) :
    (s.onRequireFormulaAttack combatId warriorId target).Keeps I := by
  refine rule.frame.formulaAttack h combatId warriorId target hattacked ?_
  intro hp hhp hzero m' a ha m hm
  obtain ⟨hdead, hconverted⟩ := hlost hp hhp hzero m' a ha m hm
  exact ⟨rule.outside hdead (outside_deathScene _ combatId target), hconverted⟩

/-! ## Steps -/

theorem expire (rule : AiFrame I Begins) (h : s.Keeps I) (timerId : Int)
    (hmove : ∀ w timers, s.apps.timers.expire timerId = some (.move w, timers) →
      s.bound (.move w) → I s.managers (Apps.moveStep s.managers { s.apps with timers := timers } w))
    (hsearch : ∀ x timers, s.apps.timers.expire timerId = some (.search x, timers) →
      s.bound (.search x) →
      I s.managers (Apps.onTimerSearch s.managers { s.apps with timers := timers } x))
    (hattack : ∀ x timers, s.apps.timers.expire timerId = some (.attack x, timers) →
      s.bound (.attack x) →
      (Server.call ⟨s.managers, { s.apps with timers := timers }⟩ (.attack x)).Keeps I) :
    (s.expire timerId).Keeps I := by
  rw [Server.expire]
  split
  · exact h
  · rename_i callback timers hexpire
    have hset : Server.Keeps I ⟨s.managers, { s.apps with timers := timers }⟩ :=
      ⟨h.1, rule.expired h.2 hexpire⟩
    dsimp only
    split
    · rename_i hbound
      cases callback with
      | settle p => exact rule.requireSettle hset _
      | resourceRecover p => exact rule.frame.resourceRecover hset _
      | printStatusImage sc => exact hset
      | move w => exact ⟨hset.1, hmove w timers hexpire hbound⟩
      | search x => exact ⟨hset.1, hsearch x timers hexpire hbound⟩
      | refindPath x => exact ⟨hset.1, rule.refindPath h.2 hexpire⟩
      | attack x => exact hattack x timers hexpire hbound
    · exact hset

theorem step (rule : AiFrame I Begins) (h : s.Keeps I) {action : Action}
    (hbegins : ∀ session combatId, action = .begin session combatId → Begins)
    (hattack : ∀ combatId warriorId target, action = .attack combatId warriorId target →
      (s.onRequireFormulaAttack combatId warriorId target).Keeps I)
    (hexpire : ∀ timerId, action = .expire timerId → (s.expire timerId).Keeps I) :
    (s.step action).Keeps I := by
  cases action with
  | memory memory =>
    have hgoes : Goes s.managers (s.setMemory memory).managers :=
      goes_outside _ _ _ _ _ _
    exact rule.keeps_goes h.1 (rule.memory memory h.2) hgoes
  | accept session => exact rule.keeps_goes h.1 h.2 (goes_accept s.managers session)
  | close session => exact rule.keeps_goes h.1 h.2 (goes_closeSession s.managers session)
  | deploy session hostId data =>
    obtain ⟨henrolled, hlasts, _, hadmits⟩ := h.1.deploy session hostId data
    exact ⟨henrolled, rule.managers h.2 hlasts hadmits (fun _ h => by cases h)⟩
  | connectArgent session roleArgentId combatId =>
    exact rule.keeps_goes h.1 h.2 (goes_connectArgent s.managers session roleArgentId combatId)
  | reconnect session roleArgentId combatId =>
    exact rule.keeps_goes h.1 h.2 (goes_reconnect s.managers session roleArgentId combatId)
  | begin session combatId =>
    exact rule.beginRequest h (hbegins session combatId rfl) session combatId
  | build roleArgentId warriorConfId buildingId =>
    rw [Server.step]
    split
    · exact h
    · exact rule.buildAction h _ _ _
  | move roleArgentId warriorIds pos =>
    rw [Server.step]
    split
    · exact h
    · exact rule.moveAction h _ _ _
  | attack combatId warriorId target => exact hattack combatId warriorId target rfl
  | expire timerId => exact hexpire timerId rfl

end AiFrame

namespace AiRule

open Server

variable {I : CombatManagers → Apps → Prop} {Begins : Prop} {s : Server} {p : Ptr}

theorem formulaAttack (rule : AiRule I Begins) (h : s.Keeps I) (combatId warriorId : Int)
    (target : CombatEntity) : (s.onRequireFormulaAttack combatId warriorId target).Keeps I :=
  rule.toAiFrame.formulaAttack h combatId warriorId target
    (fun _ _ m' ha => rule.attacked m' combatId warriorId target ha)
    fun _ _ _ _ _ _ _ ha =>
      ⟨rule.death combatId target ha, rule.convertCamp combatId target ha⟩

theorem expire (rule : AiRule I Begins) (h : s.Keeps I) (timerId : Int) :
    (s.expire timerId).Keeps I := by
  refine rule.toAiFrame.expire h timerId (fun w timers hexpire _ => rule.move w ?_)
    (fun x timers hexpire _ => rule.search h.2 hexpire) fun x timers hexpire _ => ?_
  · exact rule.expired h.2 hexpire
  · have hset : Server.Keeps I ⟨s.managers, { s.apps with timers := timers }⟩ :=
      ⟨h.1, rule.expired h.2 hexpire⟩
    rw [Server.call]
    split
    · exact hset
    · exact rule.formulaAttack hset _ _ _

theorem step (rule : AiRule I Begins) (h : s.Keeps I) {action : Action}
    (hbegins : ∀ session combatId, action = .begin session combatId → Begins) :
    (s.step action).Keeps I :=
  rule.toAiFrame.step h hbegins (fun _ _ _ _ => rule.formulaAttack h _ _ _)
    fun timerId _ => rule.expire h timerId

end AiRule

end Mysya
