import Mysya.AiApp
import Mysya.CombatDeploy
import Mysya.MachineInts

/-!
# The combat server

The managers with the scenes and the AI: what the messages, the requires and the
timers do. The handlers of an event come in the order in which they are attached, the
server's own, the AI's, the scenes'. An action of the environment says which message
comes next, which timer expires, or what memory there is from now on.
-/

open Std OwnedTimers

namespace Mysya

namespace CombatManagers

/-! ## The managers' part -/

/-- The `settlement` of `MessageCombatSettlementSync`. -/
def settlement (s : CombatManagers) (p : Ptr) : List SettlementRole :=
  (s.combat p).roles.toList.filterMap fun r =>
    s.roles[r]?.map fun q => ⟨(s.role q).argentId, (s.role q).name, (s.role q).campId,
      (s.role q).buildingNum⟩

def sendSettlement (s : CombatManagers) (p : Ptr) : CombatManagers :=
  match (s.combat p).appSession with
  | none => s
  | some session => s.send session (.settlementSync (s.combat p).id (s.settlement p))

/-- The end of `OnRequireCombatSettle`, but for the combat's timers. -/
def closeCombat (s : CombatManagers) (combatId : Int) (p : Ptr) : CombatManagers :=
  (((s.sendSettlement p).removeCombat combatId).finalizeCombat p).deallocateCombat p

/-- `CombatRoleField::SetAppSession`. -/
def setAppSession (s : CombatManagers) (q : Ptr) (session : SessionPtr) : CombatManagers :=
  let s := s.modifyRole q fun role => { role with appSession := some session }
  s.modifySession session fun session =>
    { session with connectedRoles := session.connectedRoles.insert q }

/-- `OnMessageCombatConnectArgentRequest`. -/
def onMessageCombatConnectArgentRequest (s : CombatManagers) (session : SessionPtr)
    (roleArgentId : UInt64) (combatId : Int) : CombatManagers :=
  match s.roles[roleArgentId]? with
  | none => s.send session (.connectArgentResponse false roleArgentId combatId)
  | some q =>
    (s.setAppSession q session).send session (.connectArgentResponse true roleArgentId combatId)

/-- `OnMessageCombatReconnectRequest`. -/
def onMessageCombatReconnectRequest (s : CombatManagers) (session : SessionPtr)
    (roleArgentId : UInt64) (combatId : Int) : CombatManagers :=
  match s.roles[roleArgentId]?, s.combats[combatId]? with
  | some q, some _ =>
    (s.setAppSession q session).send session (.reconnectResponse roleArgentId combatId)
  | _, _ => s

/-- The destructor of a session. -/
def closeSession (s : CombatManagers) (session : SessionPtr) : CombatManagers :=
  match s.sessions session with
  | none => s
  | some x =>
    let s := x.connectedCombats.toList.foldl (fun s p =>
      s.modifyCombat p fun combat => { combat with appSession := none }) s
    let s := x.connectedRoles.toList.foldl (fun s q =>
      s.modifyRole q fun role => { role with appSession := none }) s
    { s with sessions := Function.update s.sessions session none }

/-- What an `int32` field of an event makes of an argent id. -/
def eventHostId (id : UInt64) : UInt64 := UInt64.ofInt (toInt32 id.toNat)

/-- `OnEventCombatDeath` of the server, for a warrior. -/
def refund (s : CombatManagers) (p : Ptr) (warriorId : Int) : CombatManagers :=
  match (s.combat p).warriors[warriorId]? with
  | none => s
  | some warrior => s.modifyRole warrior.host fun role => role.incSupply (0 - warrior.supplyNeed)

/-- `OnEventCombatConvertCamp` of the server, for a building. -/
def onEventCombatConvertCamp (s : CombatManagers) (p : Ptr) (originalHostId hostId : UInt64) :
    CombatManagers :=
  match s.roles[eventHostId hostId]?, s.roles[eventHostId originalHostId]? with
  | some q, some original =>
    let s := s.modifyRole q fun role => role.incBuildingNum 1
    let s := s.modifyRole original fun role => role.incBuildingNum (-1)
    s.allocateBuildingSupply p
  | _, _ => s

/-- The hit points that a hit leaves. -/
def hit (damage hp : Int) : Int :=
  let damage := if damage < 1 then 1 else damage
  if damage < hp then hp - damage else 0

/-- The roles' part of `OnEventCombatResourceRecover`. -/
def recoverRoles (s : CombatManagers) (combat : CombatField) : List UInt64 → CombatManagers
  | [] => s
  | r :: rest =>
    match s.roles[r]? with
    | none => s
    | some q =>
      match combat.campSum CombatBuildingField.foodAdd (s.role q).campId,
          combat.campSum CombatBuildingField.elixirAdd (s.role q).campId with
      | some food, some elixir =>
        (s.modifyRole q fun role => (role.incFood food).incElixir elixir).recoverRoles combat rest
      | _, _ => s

section Keeps

variable {P : CombatManagers → Prop} {s : CombatManagers} {combat : CombatField} {l : List UInt64}

/-- `AllocateBuildingSupply` keeps what it keeps to serve one role of the list. -/
theorem keeps_allocateSupplies
    (hP : ∀ s, P s → ∀ r ∈ l, ∀ q, s.roles[r]? = some q → ∀ n,
      P (s.modifyRole q fun role => { role with supplyMax := n })) (h : P s) :
    P (s.allocateSupplies combat l) := by
  induction l generalizing s with
  | nil => exact h
  | cons r rest ih =>
    rw [allocateSupplies]
    split
    · exact h
    · rename_i q hq
      split
      · exact h
      · exact ih (fun s hs r' hr' => hP s hs r' (List.mem_cons_of_mem r hr'))
          (hP s h r List.mem_cons_self q hq _)

theorem keeps_recoverRoles
    (hP : ∀ s, P s → ∀ r ∈ l, ∀ q, s.roles[r]? = some q → ∀ food elixir,
      P (s.modifyRole q fun role => (role.incFood food).incElixir elixir)) (h : P s) :
    P (s.recoverRoles combat l) := by
  induction l generalizing s with
  | nil => exact h
  | cons r rest ih =>
    rw [recoverRoles]
    split
    · exact h
    · rename_i q hq
      split
      · exact ih (fun s hs r' hr' => hP s hs r' (List.mem_cons_of_mem r hr'))
          (hP s h r List.mem_cons_self q hq _ _)
      · exact h

theorem keeps_convertCamp {p : Ptr} {originalHostId hostId : UInt64}
    (hnumber : ∀ s, P s → ∀ q n, P (s.modifyRole q fun role => role.incBuildingNum n))
    (hsupply : ∀ s, P s → ∀ q n, P (s.modifyRole q fun role => { role with supplyMax := n }))
    (h : P s) : P (s.onEventCombatConvertCamp p originalHostId hostId) := by
  rw [onEventCombatConvertCamp]
  split
  · exact keeps_allocateSupplies (fun s hs _ _ q _ n => hsupply s hs q n)
      (hnumber _ (hnumber s h _ 1) _ (-1))
  · exact h

end Keeps

end CombatManagers

structure Server where
  managers : CombatManagers
  apps : Apps

namespace Server

/-! ## Settling -/

/-- `StopTimer` with an id of the field of a combat. -/
def stopCombatTimer (s : Server) (id : Int) : Server :=
  if id = -1 then s else { s with apps := s.apps.stopTimer id }

/-- The end of `OnRequireCombatSettle`. -/
def closeCombat (s : Server) (combatId : Int) (p : Ptr) : Server :=
  let combat := s.managers.combat p
  let s := (s.stopCombatTimer combat.timerIdSettle).stopCombatTimer combat.timerIdResourceRecover
  { s with managers := s.managers.closeCombat combatId p }

/-- `OnRequireCombatSettle`, with whether it returned 0. -/
def onRequireCombatSettle (s : Server) (combatId : Int) : Bool × Server :=
  match s.managers.combats[combatId]? with
  | none => (false, s)
  | some p =>
    let apps := s.apps.onEventCombatSettleAi s.managers combatId
    let apps := apps.onEventCombatSettleScene combatId
    (true, { s with apps := apps }.closeCombat combatId p)

/-! ## Beginning -/

def setSettleTimer (s : Server) (p : Ptr) : Server :=
  let (id, apps) := s.apps.startTimer (toInt32 ((s.managers.combat p).maxTime * 1000))
    (.settle p) 1
  { managers := s.managers.modifyCombat p fun combat => { combat with timerIdSettle := toInt32 id }
    apps := apps }

def setResourceRecoverTimer (s : Server) (p : Ptr) : Server :=
  let (id, apps) := s.apps.startTimer 1000 (.resourceRecover p) (-1)
  { managers := s.managers.modifyCombat p fun combat =>
      { combat with timerIdResourceRecover := toInt32 id }
    apps := apps }

/-- The state in which `EVENT_COMBAT_BEGIN` is dispatched. -/
def beginning (s : Server) (p : Ptr) : Server :=
  let s := (s.setSettleTimer p).setResourceRecoverTimer p
  { s with managers := s.managers.allocateBuildingSupply p }

/-- `OnMessageCombatBeginRequest`. A run does not go past a request at which the process is gone:
such a request is left out of it. -/
def onMessageCombatBeginRequest (s : Server) (session : SessionPtr) (combatId : Int) : Server :=
  match s.managers.combats[combatId]? with
  | none => { s with managers := s.managers.send session (.beginResponse false combatId) }
  | some p =>
    let dispatched := s.beginning p
    let apps := dispatched.apps.onEventCombatBeginAi dispatched.managers combatId
    match apps.onEventCombatBeginScene dispatched.managers combatId with
    | none => s
    | some apps =>
      { managers := dispatched.managers.send session (.beginResponse true combatId), apps := apps }

/-! ## Actions of a role -/

/-- `DoBuildAction` from `CombatWarriorFieldPool::Allocate` on. -/
def buildWarrior (s : Server) (q p : Ptr) (buildingId : Int) (description : WarriorDescription) :
    Bool × Server :=
  match s.managers.allocateWarrior with
  | (false, m) => (false, { s with managers := m })
  | (true, m) =>
    let (id, m) := m.allocateId p
    let m := m.modifyCombat p fun combat =>
      combat.addWarrior (.initializeWarrior id q (m.role q) description)
    match s.apps.onRequireSceneBuild m (m.combat p).id buildingId id with
    | (false, apps) =>
      (false, { managers := m.modifyCombat p fun combat => combat.removeWarrior id, apps := apps })
    | (true, apps) =>
      let m := m.modifyRole q fun role =>
        (role.incSupply description.supplyNeed).incFood (0 - description.foodNeed)
      (true, { managers := m, apps := apps.onEventCombatBuildAction m (m.combat p).id id })

/-- `DoBuildAction`. -/
def doBuildAction (s : Server) (q : Ptr) (warriorConfId buildingId : Int) : Bool × Server :=
  let role := s.managers.role q
  match role.warriorDescriptions[warriorConfId]?, role.combatField with
  | some description, some p =>
    match (s.managers.combat p).buildings[buildingId]? with
    | none => (false, s)
    | some building =>
      if role.food < description.foodNeed then (false, s)
      else if role.supplyMax - role.supply < description.supplyNeed then (false, s)
      else if building.hostId ≠ role.argentId then (false, s)
      else s.buildWarrior q p buildingId description
  | _, _ => (false, s)

/-- `DoMoveAction`. -/
def doMoveAction (s : Server) (q : Ptr) (warriorIds : List Int) (pos : Position) : Server :=
  match (s.managers.role q).combatField with
  | none => s
  | some p =>
    { s with apps := warriorIds.foldl (fun a id =>
        (a.onRequireSceneMove (s.managers.combat p).id id pos).2) s.apps }

/-! ## Attacks -/

/-- `OnRequireFormulaAttack` on a warrior. -/
def attackWarrior (s : Server) (combatId warriorId : Int) (p : Ptr) (active : CombatWarriorField)
    (target : CombatEntity) (passive : CombatWarriorField) : Server :=
  let hp := CombatManagers.hit (toInt32 (active.attack - passive.defence)) passive.hp
  let m := s.managers.modifyCombat p fun combat =>
    { combat with warriors := combat.warriors.insert target.id { passive with hp := hp } }
  let apps := s.apps.onEventCombatAttacked m combatId warriorId target
  if 0 < hp then { managers := m, apps := apps }
  else
    let m := m.refund p target.id
    let apps := (apps.onEventCombatDeathAi combatId target).onEventCombatDeathScene combatId target
    { managers := m.modifyCombat p fun combat => combat.removeWarrior target.id, apps := apps }

/-- `OnRequireFormulaAttack` on a building. -/
def attackBuilding (s : Server) (combatId warriorId : Int) (p : Ptr) (active : CombatWarriorField)
    (target : CombatEntity) (passive : CombatBuildingField) : Server :=
  let hp := CombatManagers.hit active.attack passive.hp
  let m := s.managers.modifyCombat p fun combat =>
    { combat with buildings := combat.buildings.insert target.id { passive with hp := hp } }
  let apps := s.apps.onEventCombatAttacked m combatId warriorId target
  if 0 < hp then { managers := m, apps := apps }
  else
    let m := m.modifyCombat p fun combat => { combat with
      buildings := combat.buildings.insert target.id
        { passive with hp := hp, campId := active.campId, hostId := active.hostId } }
    let m := m.onEventCombatConvertCamp p passive.hostId active.hostId
    let s := { managers := m, apps := apps.onEventCombatConvertCampAi combatId target }
    if ((m.combat p).buildings.toList.map fun entry => entry.2.campId).dedup.length = 1 then
      (s.onRequireCombatSettle (m.combat p).id).2
    else s

/-- `OnRequireFormulaAttack`. -/
def onRequireFormulaAttack (s : Server) (combatId warriorId : Int) (target : CombatEntity) :
    Server :=
  match s.managers.combats[combatId]? with
  | none => s
  | some p =>
    match (s.managers.combat p).warriors[warriorId]? with
    | none => s
    | some active =>
      match target.type with
      | .warrior =>
        match (s.managers.combat p).warriors[target.id]? with
        | none => s
        | some passive => s.attackWarrior combatId warriorId p active target passive
      | .building =>
        match (s.managers.combat p).buildings[target.id]? with
        | none => s
        | some passive => s.attackBuilding combatId warriorId p active target passive

/-! ## Resources -/

/-- `RecoveryHp` and `OnRecoverHp` of the building at `b`, for a sum that is an `int32_t`. -/
def recoveryHp (s : Server) (p : Ptr) (b : Ptr) (building : CombatBuildingField) : Server :=
  let sum := building.hp + building.hpRecovery
  let hp := if building.maxHp < sum then building.maxHp else sum
  { managers := s.managers.modifyCombat p fun combat =>
      { combat with buildings := combat.buildings.insert building.id { building with hp := hp } }
    apps := { s.apps with buildingPool := s.apps.buildingPool.modify b fun old =>
        if old.presentStatus = some .retrieve ∧ building.maxHp ≤ hp then
          { old with presentStatus := some .host }
        else old } }

/-- One round of the first loop of `OnEventCombatResourceRecover`. -/
def recoverBuilding (combatId : Int) (p : Ptr) (s : Server)
    (entry : Int × CombatBuildingField) : Except Server Server :=
  match s.apps.buildings (combatId, entry.1) with
  | none => .error s
  | some b =>
    if (s.apps.buildingPool.read b).targetedNum ≤ 0 then .ok (s.recoveryHp p b entry.2)
    else .ok s

/-- `OnEventCombatResourceRecover`. -/
def onEventCombatResourceRecover (s : Server) (combatId : Int) : Server :=
  match s.managers.combats[combatId]? with
  | none => s
  | some p =>
    match (s.managers.combat p).buildings.toList.foldlM (recoverBuilding combatId p) s with
    | .error s => s
    | .ok s =>
      { s with managers :=
          s.managers.recoverRoles (s.managers.combat p) (s.managers.combat p).roles.toList }

/-! ## Timers -/

/-- Whether the object a callback is bound to is there. Calling one that was deleted has no
defined behaviour; such a call is left out. -/
def bound (s : Server) : TimerCallback → Bool
  | .settle p => (s.managers.combatPool.objects p).isSome
  | .resourceRecover p => (s.managers.combatPool.objects p).isSome
  | .printStatusImage sc => (s.apps.scenePool.objects sc).isSome
  | .move w => (s.apps.sceneWarriors.objects w).isSome
  | .search x => (s.apps.autoPool.objects x).isSome
  | .refindPath x => (s.apps.autoPool.objects x).isSome
  | .attack x => (s.apps.autoPool.objects x).isSome

def call (s : Server) : TimerCallback → Server
  | .settle p => (s.onRequireCombatSettle (s.managers.combat p).id).2
  | .resourceRecover p => s.onEventCombatResourceRecover (s.managers.combat p).id
  | .printStatusImage _ => s
  | .move w => { s with apps := s.apps.moveStep s.managers w }
  | .search x => { s with apps := s.apps.onTimerSearch s.managers x }
  | .refindPath x => { s with apps := s.apps.onTimerRefindPath s.managers x }
  | .attack x =>
    match s.apps.autoCombat s.managers x with
    | none => s
    | some combat => s.onRequireFormulaAttack combat.id (s.apps.autoKey x).2 (s.apps.auto x).target

def expire (s : Server) (timerId : Int) : Server :=
  match s.apps.timers.expire timerId with
  | none => s
  | some (callback, timers) =>
    let s := { s with apps := { s.apps with timers := timers } }
    if s.bound callback then s.call callback else s

/-! ## Runs -/

/-- What `new` and the pools of fields will answer. -/
structure Memory where
  combats : List (Option Ptr)
  roles : List (Option Ptr)
  buildingAnswers : List Bool
  warriorAnswers : List Bool
  scenes : List (Option Ptr)
  sceneBuildings : List (Option Ptr)
  sceneWarriors : List (Option Ptr)
  autos : List (Option Ptr)
  aiBuildings : List (Option Ptr)

structure Configs where
  combatInitialSize : Nat
  combatExtendSize : Nat
  combatRoleInitialSize : Nat
  combatRoleExtendSize : Nat
  combatWarriorInitialSize : Nat
  combatWarriorExtendSize : Nat
  combatBuildingInitialSize : Nat
  combatBuildingExtendSize : Nat
  sceneConfs : Int → Option SceneConf
  searchFuel : Nat

/-- A server that was just started. -/
def started (configs : Configs) (memory : Memory) : Server where
  managers := .started
    (.new configs.combatInitialSize configs.combatExtendSize memory.combats)
    (.new configs.combatRoleInitialSize configs.combatRoleExtendSize memory.roles)
    memory.buildingAnswers memory.warriorAnswers
  apps :=
    { timers := .none
      periods := []
      divisors := []
      searchFuel := configs.searchFuel
      sceneConfs := configs.sceneConfs
      scenePool := .new 0 1 memory.scenes
      scenes := fun _ => none
      sceneBuildings := .new 0 1 memory.sceneBuildings
      sceneWarriors := .new 0 1 memory.sceneWarriors
      originPos := fun _ => ⟨0, 0⟩
      autoPool := .new configs.combatWarriorInitialSize configs.combatWarriorExtendSize
        memory.autos
      autoes := fun _ => none
      buildingPool := .new configs.combatBuildingInitialSize configs.combatBuildingExtendSize
        memory.aiBuildings
      buildings := fun _ => none
      observers := fun _ => ∅
      dispatching := false
      pendingRemoves := [] }

def setMemory (s : Server) (memory : Memory) : Server where
  managers := { s.managers with
    combatPool := { s.managers.combatPool with news := memory.combats }
    rolePool := { s.managers.rolePool with news := memory.roles }
    buildingAnswers := memory.buildingAnswers
    warriorAnswers := memory.warriorAnswers }
  apps := { s.apps with
    scenePool := { s.apps.scenePool with news := memory.scenes }
    sceneBuildings := { s.apps.sceneBuildings with news := memory.sceneBuildings }
    sceneWarriors := { s.apps.sceneWarriors with news := memory.sceneWarriors }
    autoPool := { s.apps.autoPool with news := memory.autos }
    buildingPool := { s.apps.buildingPool with news := memory.aiBuildings } }

inductive Action
  | memory (memory : Memory)
  | accept (session : SessionPtr)
  | close (session : SessionPtr)
  | deploy (session : SessionPtr) (hostId : Int) (data : CombatInitialData)
  | connectArgent (session : SessionPtr) (roleArgentId : UInt64) (combatId : Int)
  | reconnect (session : SessionPtr) (roleArgentId : UInt64) (combatId : Int)
  | begin (session : SessionPtr) (combatId : Int)
  | build (roleArgentId : UInt64) (warriorConfId buildingId : Int)
  | move (roleArgentId : UInt64) (warriorIds : List Int) (pos : Position)
  | attack (combatId warriorId : Int) (target : CombatEntity)
  | expire (timerId : Int)

def withManagers (s : Server) (change : CombatManagers → CombatManagers) : Server :=
  { s with managers := change s.managers }

def step (s : Server) : Action → Server
  | .memory memory => s.setMemory memory
  | .accept session => s.withManagers fun m => m.accept session
  | .close session => s.withManagers fun m => m.closeSession session
  | .deploy session hostId data => s.withManagers fun m =>
      m.onMessageCombatDeployRequest session hostId data
  | .connectArgent session roleArgentId combatId => s.withManagers fun m =>
      m.onMessageCombatConnectArgentRequest session roleArgentId combatId
  | .reconnect session roleArgentId combatId => s.withManagers fun m =>
      m.onMessageCombatReconnectRequest session roleArgentId combatId
  | .begin session combatId => s.onMessageCombatBeginRequest session combatId
  | .build roleArgentId warriorConfId buildingId =>
    match s.managers.roles[roleArgentId]? with
    | none => s
    | some q => (s.doBuildAction q warriorConfId buildingId).2
  | .move roleArgentId warriorIds pos =>
    match s.managers.roles[roleArgentId]? with
    | none => s
    | some q => s.doMoveAction q warriorIds pos
  | .attack combatId warriorId target => s.onRequireFormulaAttack combatId warriorId target
  | .expire timerId => s.expire timerId

def run (s : Server) (actions : List Action) : Server := actions.foldl step s

/-- A server with one object in each pool. -/
def small (sceneConfs : Int → Option SceneConf) (memory : Memory) : Server :=
  started
    { combatInitialSize := 1
      combatExtendSize := 1
      combatRoleInitialSize := 1
      combatRoleExtendSize := 1
      combatWarriorInitialSize := 1
      combatWarriorExtendSize := 1
      combatBuildingInitialSize := 1
      combatBuildingExtendSize := 1
      sceneConfs := sceneConfs
      searchFuel := 100 } memory

end Server

end Mysya
