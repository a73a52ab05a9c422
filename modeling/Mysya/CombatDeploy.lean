import Mysya.CombatFields

/-!
# Deploying a combat

`OnMessageCombatDeployRequest` with its three nested loops. A failure exit is an
error that carries the state after the exit's own undo list. The `Initialize` of
a combat, a role or a building cannot fail, so the exits behind them are left out;
a combat that is being deployed has no timer yet.
-/

namespace Mysya.CombatManagers

/-- What every exit does about the combat. -/
def abandonCombat (s : CombatManagers) (p : Ptr) : CombatManagers :=
  ((s.removeCombat (s.combat p).id).finalizeCombat p).deallocateCombat p

/-- What an exit does about the role at hand. -/
def abandonRole (s : CombatManagers) (q : Ptr) : CombatManagers :=
  (s.finalizeRole q).deallocateRole q

/-- `CombatBuildingField::Initialize` with `CombatField::AddBuilding`. -/
def raiseBuilding (s : CombatManagers) (p : Ptr) (hostId : UInt64) (campId : Int)
    (description : BuildingDescription) : CombatManagers :=
  let (id, s) := s.allocateId p
  s.modifyCombat p fun combat =>
    combat.addBuilding (CombatBuildingField.initializeBuilding id hostId campId description)

theorem raiseBuilding_combat {s : CombatManagers} {p : Ptr}
    (hlive : (s.combatPool.objects p).isSome) (hostId : UInt64) (campId : Int)
    (description : BuildingDescription) :
    (s.raiseBuilding p hostId campId description).combat p =
      { s.combat p with idAlloctor := (s.combat p).idAlloctor + 1 }.addBuilding
        (.initializeBuilding ((s.combat p).idAlloctor + 1) hostId campId description) := by
  simp only [raiseBuilding, allocateId]
  rw [modifyCombat_combat, modifyCombat_combat hlive]
  simpa [modifyCombat, PoolTemplate.modify_isSome] using hlive

def deployRoleBuilding (p q : Ptr) (campId : Int) (s : CombatManagers)
    (description : BuildingDescription) : Except CombatManagers CombatManagers :=
  match s.allocateBuilding with
  | (false, s) => .error ((s.abandonRole q).abandonCombat p)
  | (true, s) =>
    let s := s.raiseBuilding p (s.role q).argentId campId description
    .ok (s.modifyRole q fun role => role.incBuildingNum 1)

/-- The role up to its warriors. -/
def registerRole (p : Ptr) (camp : CombatCampData) (s : CombatManagers)
    (data : CombatRoleData) : Except CombatManagers (Ptr × CombatManagers) :=
  match s.allocateRole with
  | (none, s) => .error (s.abandonCombat p)
  | (some q, s) =>
    let s := s.modifyRole q fun role => (role.initializeRole data.argentId data.name).setCamp camp
    match s.addRole q with
    | none => .error ((s.abandonRole q).abandonCombat p)
    | some s => .ok (q, s.modifyRole q fun role =>
        data.warriors.foldl CombatRoleField.addWarriorDescription role)

def deployRole (p : Ptr) (camp : CombatCampData) (s : CombatManagers)
    (data : CombatRoleData) : Except CombatManagers CombatManagers := do
  let (q, s) ← s.registerRole p camp data
  let s ← data.buildings.foldlM (deployRoleBuilding p q camp.id) s
  return s.joinRole p (s.role q).argentId

def deployCampBuilding (p : Ptr) (campId : Int) (s : CombatManagers)
    (description : BuildingDescription) : Except CombatManagers CombatManagers :=
  match s.allocateBuilding with
  | (false, s) => .error (s.abandonCombat p)
  | (true, s) => .ok (s.raiseBuilding p 0 campId description)

def deployCamp (p : Ptr) (s : CombatManagers) (camp : CombatCampData) :
    Except CombatManagers CombatManagers := do
  let s ← camp.roles.foldlM (deployRole p camp) s
  camp.buildings.foldlM (deployCampBuilding p camp.id) s

/-- The request up to its answer, with the combat it deployed. -/
def deployCombat (s : CombatManagers) (session : SessionPtr) (data : CombatInitialData) :
    Except CombatManagers (Ptr × CombatManagers) :=
  match s.allocateCombat with
  | (none, s) => .error s
  | (some p, s) =>
    let s := s.initializeCombat p data session
    match s.addCombat p with
    | none => .error ((s.finalizeCombat p).deallocateCombat p)
    | some s => do
      let s ← data.camps.foldlM (deployCamp p) s
      return (p, s)

/-- `OnMessageCombatDeployRequest`. -/
def onMessageCombatDeployRequest (s : CombatManagers) (session : SessionPtr) (hostId : Int)
    (data : CombatInitialData) : CombatManagers :=
  match s.deployCombat session data with
  | .error s => s.send session (.deployResponse hostId .failure none)
  | .ok (p, s) => s.send session (.deployResponse hostId .complete (some (s.combat p).id))

end Mysya.CombatManagers
