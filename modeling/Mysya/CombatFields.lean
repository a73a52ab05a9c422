import Mathlib.Algebra.Ring.Int.Defs
import Mysya.MachineInts
import Mysya.PoolTemplate
import Std.Data.ExtTreeMap
import Std.Data.ExtTreeSet

/-!
# The fields of a combat

`CombatField`, `CombatRoleField`, `CombatWarriorField` and `CombatBuildingField`,
with the managers and the sessions that point to them. Combats and roles are
objects of their pools. The fields of a warrior or a building lie in their combat
under their id, and their pools only answer whether there is one left. Amounts are
unbounded integers but for the scaling of a warrior's fields; argent ids have their
64 bits. The recorded actions, the time stamps and the messages about them are left out.
-/

open Std

namespace Mysya

abbrev SessionPtr := Nat

/-! ## Messages -/

structure WarriorDescription where
  id : Int
  type : Int
  maxHp : Int
  attack : Int
  defence : Int
  moveSpeed : Int
  attackSpeed : Int
  attackRange : Int
  searchRange : Int
  foodNeed : Int
  supplyNeed : Int
  deriving DecidableEq

structure BuildingDescription where
  id : Int
  type : Int
  hp : Int
  posX : Int
  posY : Int
  foodAdd : Int
  supply : Int
  elixirAdd : Int
  hpRecovery : Int
  deriving DecidableEq

structure CombatRoleData where
  argentId : UInt64
  name : String
  warriors : List WarriorDescription
  buildings : List BuildingDescription

structure CombatCampData where
  id : Int
  initFood : Int
  maxFood : Int
  initElixir : Int
  maxElixir : Int
  roles : List CombatRoleData
  buildings : List BuildingDescription

structure CombatInitialData where
  mapId : Int
  maxTime : Int
  camps : List CombatCampData

inductive DeployResult
  | complete
  | failure
  deriving DecidableEq

structure SettlementRole where
  id : UInt64
  name : String
  campId : Int
  buildingNum : Int
  deriving DecidableEq

inductive CombatMessage
  | deployResponse (hostId : Int) (result : DeployResult) (combatId : Option Int)
  | connectArgentResponse (complete : Bool) (roleArgentId : UInt64) (combatId : Int)
  | reconnectResponse (roleArgentId : UInt64) (combatId : Int)
  | beginResponse (success : Bool) (combatId : Int)
  | settlementSync (combatId : Int) (roles : List SettlementRole)
  deriving DecidableEq

/-! ## Roles -/

structure CombatRoleField where
  argentId : UInt64
  campId : Int
  food : Int
  foodMax : Int
  supply : Int
  supplyMax : Int
  elixir : Int
  elixirMax : Int
  buildingNum : Int
  name : String
  combatField : Option Ptr
  warriorDescriptions : ExtTreeMap Int WarriorDescription
  appSession : Option SessionPtr

namespace CombatRoleField

/-- The constructor. -/
instance : Inhabited CombatRoleField where
  default :=
    { argentId := 0
      campId := 0
      food := 0
      foodMax := 0
      supply := 0
      supplyMax := 0
      elixir := 0
      elixirMax := 0
      buildingNum := 0
      name := ""
      combatField := none
      warriorDescriptions := ∅
      appSession := none }

def initializeRole (role : CombatRoleField) (argentId : UInt64) (name : String) : CombatRoleField :=
  { role with argentId := argentId, name := name, appSession := none, buildingNum := 0 }

/-- `Finalize`, after the role left its session. -/
def finalize (role : CombatRoleField) : CombatRoleField :=
  { role with
    warriorDescriptions := ∅
    combatField := none
    argentId := 0
    campId := 0
    food := 0
    foodMax := 0
    supply := 0
    supplyMax := 0
    elixir := 0
    elixirMax := 0 }

def setFood (role : CombatRoleField) (value : Int) : CombatRoleField :=
  { role with food := if role.foodMax < value then role.foodMax else value }

def incFood (role : CombatRoleField) (increment : Int) : CombatRoleField :=
  role.setFood (role.food + increment)

def setElixir (role : CombatRoleField) (value : Int) : CombatRoleField :=
  { role with elixir := if role.elixirMax < value then role.elixirMax else value }

def incElixir (role : CombatRoleField) (increment : Int) : CombatRoleField :=
  role.setElixir (role.elixir + increment)

def incSupply (role : CombatRoleField) (increment : Int) : CombatRoleField :=
  { role with supply := role.supply + increment }

def incBuildingNum (role : CombatRoleField) (increment : Int) : CombatRoleField :=
  { role with buildingNum := role.buildingNum + increment }

/-- `std::map::insert` keeps a description that is there. -/
def addWarriorDescription (role : CombatRoleField) (description : WarriorDescription) :
    CombatRoleField :=
  { role with
    warriorDescriptions := role.warriorDescriptions.insertIfNew description.id description }

/-- What `OnMessageCombatDeployRequest` sets from the camp. -/
def setCamp (role : CombatRoleField) (camp : CombatCampData) : CombatRoleField :=
  let role := { role with campId := camp.id, foodMax := camp.maxFood }
  let role := { role.setFood camp.initFood with elixirMax := camp.maxElixir }
  role.setElixir camp.initElixir

@[simp] theorem setCamp_argentId (role : CombatRoleField) (camp : CombatCampData) :
    (role.setCamp camp).argentId = role.argentId := rfl

@[simp] theorem setCamp_appSession (role : CombatRoleField) (camp : CombatCampData) :
    (role.setCamp camp).appSession = role.appSession := rfl

/-- Adding descriptions changes the descriptions only. -/
theorem addWarriorDescriptions_eq (descriptions : List WarriorDescription)
    (role : CombatRoleField) :
    descriptions.foldl addWarriorDescription role = { role with
      warriorDescriptions := descriptions.foldl (fun known description =>
        known.insertIfNew description.id description) role.warriorDescriptions } := by
  induction descriptions generalizing role with
  | nil => rfl
  | cons description descriptions ih =>
    rw [List.foldl_cons, ih]
    rfl

end CombatRoleField

/-! ## Warriors and buildings -/

structure CombatWarriorServerFields where
  maxHpAddValue : Int := 0
  maxHpAddPer : Int := 0
  attackAddValue : Int := 0
  attackAddPer : Int := 0
  defenceAddValue : Int := 0
  defenceAddPer : Int := 0
  moveSpeedAddValue : Int := 0
  moveSpeedAddPer : Int := 0
  attackSpeedAddValue : Int := 0
  attackSpeedAddPer : Int := 0

/-- `origin_pos_x` and `origin_pos_y` are kept with the scene. -/
structure CombatWarriorField where
  id : Int
  confId : Int
  type : Int
  hostId : UInt64
  campId : Int
  hp : Int
  maxHp : Int
  attack : Int
  defence : Int
  attackSpeed : Int
  attackRange : Int
  moveSpeed : Int
  searchRange : Int
  foodNeed : Int
  supplyNeed : Int
  server : CombatWarriorServerFields
  host : Ptr

namespace CombatWarriorField

/-- `GENERATE_COMBAT_FIELD`, in `int32`. -/
def generateField (base add per : Int) : Int :=
  (toInt32 (toInt32 (base + add) * toInt32 (10000 + per))).tdiv 10000

def generateFields (warrior : CombatWarriorField) (role : CombatRoleField) : CombatWarriorField :=
  match role.warriorDescriptions[warrior.confId]? with
  | none => warrior
  | some description =>
    { warrior with
      maxHp := generateField description.maxHp
        warrior.server.maxHpAddValue warrior.server.maxHpAddPer
      attack := generateField description.attack
        warrior.server.attackAddValue warrior.server.attackAddPer
      defence := generateField description.defence
        warrior.server.defenceAddValue warrior.server.defenceAddPer
      attackSpeed := generateField description.attackSpeed
        warrior.server.moveSpeedAddValue warrior.server.moveSpeedAddPer
      moveSpeed := generateField description.moveSpeed
        warrior.server.attackSpeedAddValue warrior.server.attackSpeedAddPer }

/-- `Initialize(id, host, description)`. -/
def initializeWarrior (id : Int) (host : Ptr) (role : CombatRoleField)
    (description : WarriorDescription) : CombatWarriorField :=
  generateFields
    { id := id
      confId := description.id
      type := description.type
      hostId := role.argentId
      campId := role.campId
      hp := description.maxHp
      maxHp := description.maxHp
      attack := description.attack
      defence := description.defence
      attackSpeed := description.attackSpeed
      attackRange := description.attackRange
      moveSpeed := description.moveSpeed
      searchRange := description.searchRange
      foodNeed := description.foodNeed
      supplyNeed := description.supplyNeed
      server := {}
      host := host }
    role

end CombatWarriorField

structure CombatBuildingField where
  id : Int
  confId : Int
  type : Int
  hostId : UInt64
  campId : Int
  hp : Int
  maxHp : Int
  posX : Int
  posY : Int
  foodAdd : Int
  supply : Int
  elixirAdd : Int
  hpRecovery : Int

/-- `Initialize(id, host_combat, role_argent_id, camp_id, description)`. -/
def CombatBuildingField.initializeBuilding (id : Int) (roleArgentId : UInt64) (campId : Int)
    (description : BuildingDescription) : CombatBuildingField where
  id := id
  confId := description.id
  type := description.type
  hostId := roleArgentId
  campId := campId
  hp := description.hp
  maxHp := description.hp
  posX := description.posX
  posY := description.posY
  foodAdd := description.foodAdd
  supply := description.supply
  elixirAdd := description.elixirAdd
  hpRecovery := description.hpRecovery

/-! ## Combats -/

structure CombatField where
  id : Int
  mapId : Int
  idAlloctor : Int
  maxTime : Int
  timerIdSettle : Int
  timerIdResourceRecover : Int
  roles : ExtTreeSet UInt64
  buildings : ExtTreeMap Int CombatBuildingField
  warriors : ExtTreeMap Int CombatWarriorField
  appSession : Option SessionPtr

namespace CombatField

/-- The constructor. -/
instance : Inhabited CombatField where
  default :=
    { id := 0
      mapId := 0
      idAlloctor := 0
      maxTime := 0
      timerIdSettle := -1
      timerIdResourceRecover := -1
      roles := ∅
      buildings := ∅
      warriors := ∅
      appSession := none }

/-- `Initialize`, but for `app_session_->Add(this)`. -/
def initializeCombat (combat : CombatField) (mapId maxTime : Int) (session : SessionPtr) :
    CombatField :=
  { combat with
    appSession := some session
    idAlloctor := 0
    mapId := mapId
    maxTime := maxTime
    timerIdSettle := -1
    timerIdResourceRecover := -1 }

/-- What `Finalize` writes in the combat itself. -/
def clear (combat : CombatField) : CombatField :=
  { combat with
    timerIdSettle := -1
    timerIdResourceRecover := -1
    roles := ∅
    buildings := ∅
    warriors := ∅
    appSession := none }

def addBuilding (combat : CombatField) (building : CombatBuildingField) : CombatField :=
  { combat with buildings := combat.buildings.insertIfNew building.id building }

def addWarrior (combat : CombatField) (warrior : CombatWarriorField) : CombatField :=
  { combat with warriors := combat.warriors.insertIfNew warrior.id warrior }

def removeWarrior (combat : CombatField) (warriorId : Int) : CombatField :=
  { combat with warriors := combat.warriors.erase warriorId }

/-- The amounts of a camp's buildings added up: `none` for a camp that has no building. -/
def campSum (combat : CombatField) (amount : CombatBuildingField → Int) (campId : Int) :
    Option Int :=
  let owned := combat.buildings.toList.filter fun entry => entry.2.campId == campId
  if owned.isEmpty then none else some (owned.map fun entry => amount entry.2).sum

end CombatField

structure AppSession where
  connectedCombats : ExtTreeSet Ptr
  connectedRoles : ExtTreeSet Ptr

/-- The managers of combats and roles, and the sessions. -/
structure CombatManagers where
  combatPool : PoolTemplate CombatField
  combatIds : Int
  combats : ExtTreeMap Int Ptr
  rolePool : PoolTemplate CombatRoleField
  roles : ExtTreeMap UInt64 Ptr
  /-- The next answers of `CombatBuildingFieldPool::Allocate`; at the end it is `NULL`. -/
  buildingAnswers : List Bool
  /-- The next answers of `CombatWarriorFieldPool::Allocate`. -/
  warriorAnswers : List Bool
  sessions : SessionPtr → Option AppSession
  sent : List (SessionPtr × CombatMessage)

namespace CombatManagers

/-- The managers of a server that was just started. -/
def started (combatPool : PoolTemplate CombatField) (rolePool : PoolTemplate CombatRoleField)
    (buildingAnswers warriorAnswers : List Bool) : CombatManagers where
  combatPool := combatPool
  combatIds := 0
  combats := ∅
  rolePool := rolePool
  roles := ∅
  buildingAnswers := buildingAnswers
  warriorAnswers := warriorAnswers
  sessions := fun _ => none
  sent := []

/-- A new session, where there is none. -/
def accept (s : CombatManagers) (session : SessionPtr) : CombatManagers :=
  if (s.sessions session).isSome then s
  else { s with sessions := Function.update s.sessions session (some ⟨∅, ∅⟩) }

def combat (s : CombatManagers) (p : Ptr) : CombatField := s.combatPool.read p

def role (s : CombatManagers) (q : Ptr) : CombatRoleField := s.rolePool.read q

def modifyCombat (s : CombatManagers) (p : Ptr) (change : CombatField → CombatField) :
    CombatManagers :=
  { s with combatPool := s.combatPool.modify p change }

def modifyRole (s : CombatManagers) (q : Ptr) (change : CombatRoleField → CombatRoleField) :
    CombatManagers :=
  { s with rolePool := s.rolePool.modify q change }

def modifySession (s : CombatManagers) (session : SessionPtr)
    (change : AppSession → AppSession) : CombatManagers :=
  { s with sessions := Function.update s.sessions session ((s.sessions session).map change) }

theorem modifyCombat_combat {s : CombatManagers} {p : Ptr}
    (hlive : (s.combatPool.objects p).isSome) (change : CombatField → CombatField) :
    (s.modifyCombat p change).combat p = change (s.combat p) :=
  PoolTemplate.read_modify hlive change

theorem modifyRole_role {s : CombatManagers} {q : Ptr} (hlive : (s.rolePool.objects q).isSome)
    (change : CombatRoleField → CombatRoleField) :
    (s.modifyRole q change).role q = change (s.role q) :=
  PoolTemplate.read_modify hlive change

/-- `SendMessage` of a session that is still there. -/
def send (s : CombatManagers) (session : SessionPtr) (message : CombatMessage) : CombatManagers :=
  { s with sent := s.sent ++ [(session, message)] }

def getWarrior (s : CombatManagers) (combatId warriorId : Int) : Option CombatWarriorField :=
  s.combats[combatId]?.bind fun p => (s.combat p).warriors[warriorId]?

def getBuilding (s : CombatManagers) (combatId buildingId : Int) : Option CombatBuildingField :=
  s.combats[combatId]?.bind fun p => (s.combat p).buildings[buildingId]?

/-! ### Allocation -/

/-- `CombatFieldManager::Allocate`. -/
def allocateCombat (s : CombatManagers) : Option Ptr × CombatManagers :=
  match s.combatPool.allocate with
  | (none, pool) => (none, { s with combatPool := pool })
  | (some p, pool) =>
    (some p, { s with
      combatPool := pool.modify p fun combat => { combat with id := s.combatIds }
      combatIds := s.combatIds + 1 })

def deallocateCombat (s : CombatManagers) (p : Ptr) : CombatManagers :=
  { s with combatPool := s.combatPool.deallocate p }

def allocateRole (s : CombatManagers) : Option Ptr × CombatManagers :=
  ((s.rolePool.allocate).1, { s with rolePool := (s.rolePool.allocate).2 })

def deallocateRole (s : CombatManagers) (q : Ptr) : CombatManagers :=
  { s with rolePool := s.rolePool.deallocate q }

/-- `CombatBuildingFieldPool::Allocate`. -/
def allocateBuilding (s : CombatManagers) : Bool × CombatManagers :=
  (s.buildingAnswers.headD false, { s with buildingAnswers := s.buildingAnswers.tail })

/-- `CombatWarriorFieldPool::Allocate`. -/
def allocateWarrior (s : CombatManagers) : Bool × CombatManagers :=
  (s.warriorAnswers.headD false, { s with warriorAnswers := s.warriorAnswers.tail })

/-- `CombatField::AllocateId`. -/
def allocateId (s : CombatManagers) (p : Ptr) : Int × CombatManagers :=
  let id := (s.combat p).idAlloctor + 1
  (id, s.modifyCombat p fun combat => { combat with idAlloctor := id })

/-! ### Registration -/

/-- `CombatFieldManager::Add`. -/
def addCombat (s : CombatManagers) (p : Ptr) : Option CombatManagers :=
  if s.combats.contains (s.combat p).id then none
  else some { s with combats := s.combats.insert (s.combat p).id p }

def removeCombat (s : CombatManagers) (combatId : Int) : CombatManagers :=
  { s with combats := s.combats.erase combatId }

/-- `CombatRoleFieldManager::Add`. -/
def addRole (s : CombatManagers) (q : Ptr) : Option CombatManagers :=
  if s.roles.contains (s.role q).argentId then none
  else some { s with roles := s.roles.insert (s.role q).argentId q }

theorem addRole_taken {s : CombatManagers} {q : Ptr} (h : (s.role q).argentId ∈ s.roles) :
    s.addRole q = none := by
  simp [addRole, h]

theorem addRole_free {s : CombatManagers} {q : Ptr} (h : (s.role q).argentId ∉ s.roles) :
    s.addRole q = some { s with roles := s.roles.insert (s.role q).argentId q } := by
  simp [addRole, h]

/-- `CombatField::AddRole(role_argent_id)`. -/
def joinRole (s : CombatManagers) (p : Ptr) (argentId : UInt64) : CombatManagers :=
  match s.roles[argentId]? with
  | none => s
  | some q =>
    let s := s.modifyCombat p fun combat => { combat with roles := combat.roles.insert argentId }
    s.modifyRole q fun role => { role with combatField := some p }

/-- `CombatField::Initialize`. -/
def initializeCombat (s : CombatManagers) (p : Ptr) (data : CombatInitialData)
    (session : SessionPtr) : CombatManagers :=
  let s := s.modifySession session fun session =>
    { session with connectedCombats := session.connectedCombats.insert p }
  s.modifyCombat p fun combat => combat.initializeCombat data.mapId data.maxTime session

/-! ### Teardown -/

/-- `app_session_->Remove(this)` of a role, `NULL` checked. -/
def disconnectRole (s : CombatManagers) (q : Ptr) : CombatManagers :=
  match (s.role q).appSession with
  | none => s
  | some session => s.modifySession session fun session =>
    { session with connectedRoles := session.connectedRoles.erase q }

/-- `CombatRoleField::Finalize`. -/
def finalizeRole (s : CombatManagers) (q : Ptr) : CombatManagers :=
  (s.disconnectRole q).modifyRole q CombatRoleField.finalize

/-- `app_session_->Remove(this)` of a combat, `NULL` checked. -/
def disconnectCombat (s : CombatManagers) (p : Ptr) : CombatManagers :=
  match (s.combat p).appSession with
  | none => s
  | some session => s.modifySession session fun session =>
    { session with connectedCombats := session.connectedCombats.erase p }

/-- One round of the loop over the roles in `CombatField::Finalize`. -/
def dropRole (s : CombatManagers) (argentId : UInt64) : CombatManagers :=
  match s.roles[argentId]? with
  | none => s
  | some q => { s with roles := s.roles.erase argentId }.deallocateRole q

/-- `CombatField::Finalize`; its timers are stopped by whoever holds the wheel. -/
def finalizeCombat (s : CombatManagers) (p : Ptr) : CombatManagers :=
  let s := s.disconnectCombat p
  let s := (s.combat p).roles.toList.foldl dropRole s
  s.modifyCombat p CombatField.clear

/-! ### Supply -/

/-- `AllocateBuildingSupply`, which ends at the first role it cannot serve and adds in `int32_t`. -/
def allocateSupplies (s : CombatManagers) (combat : CombatField) :
    List UInt64 → CombatManagers
  | [] => s
  | argentId :: rest =>
    match s.roles[argentId]? with
    | none => s
    | some q =>
      match combat.campSum CombatBuildingField.supply (s.role q).campId with
      | none => s
      | some supply =>
        (s.modifyRole q fun role =>
          { role with supplyMax := toInt32 supply }).allocateSupplies combat rest

def allocateBuildingSupply (s : CombatManagers) (p : Ptr) : CombatManagers :=
  s.allocateSupplies (s.combat p) (s.combat p).roles.toList

end CombatManagers

end Mysya
