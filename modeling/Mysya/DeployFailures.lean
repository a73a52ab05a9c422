import Mysya.DeployItems
import Mysya.Garrisons

/-!
# What a refused deploy request leaves behind

A request fails at the first thing it is refused: a combat, an object or a free
argent id for a role, or a building. Every exit undoes what was done so far, but for
one: a role whose building is refused goes back to the pool and stays registered.
-/

open Std Attempts GuardedRuns

namespace Mysya

/-! ## Where a request fails -/

def DeployItem.isRoleBuilding : DeployItem → Bool
  | .roleBuilding _ _ => true
  | _ => false

/-- A pool without what its objects hold. -/
def PoolTemplate.shape {E : Type} (pool : PoolTemplate E) : PoolTemplate Unit where
  initialSize := pool.initialSize
  extendSize := pool.extendSize
  objects := fun p => (pool.objects p).map fun _ => ()
  list := pool.list
  news := pool.news

namespace PoolTemplate

variable {E : Type}

@[simp] theorem shape_modify (pool : PoolTemplate E) (p : Ptr) (change : E → E) :
    (pool.modify p change).shape = pool.shape := by
  have hobjects : ∀ q, ((pool.modify p change).objects q).map (fun _ => ()) =
      (pool.objects q).map fun _ => () := by
    intro q
    by_cases hqp : q = p
    · simp [hqp, Function.comp_def]
    · simp [hqp]
  simp only [shape, hobjects]
  rfl

variable [Inhabited E]

theorem shape_pushNew (pool : PoolTemplate E) : pool.pushNew.shape = pool.shape.pushNew := by
  have hobjects : ∀ p, (fun q => (Function.update pool.objects p (some default) q).map
      fun _ => ()) = Function.update (fun q => (pool.objects q).map fun _ => ()) p (some ()) := by
    intro p
    ext1 q
    by_cases hqp : q = p
    · simp [hqp]
    · simp [hqp]
  simp only [pushNew, shape]
  split
  · by_cases hlive : (pool.objects ‹Ptr›).isSome
    · simp [hlive]
    · simp [hlive, hobjects]
  · rfl
  · rfl

theorem shape_filled (pool : PoolTemplate E) : pool.filled.shape = pool.shape.filled := by
  have hiter : ∀ n, (pushNew^[n] pool).shape = pushNew^[n] pool.shape := by
    intro n
    induction n with
    | zero => rfl
    | succ n ih => rw [Function.iterate_succ_apply', Function.iterate_succ_apply', shape_pushNew, ih]
  simp only [filled, extend]
  split
  · rw [if_pos (by assumption)]
    exact hiter _
  · rw [if_neg (by assumption)]

theorem shape_allocate (pool : PoolTemplate E) :
    pool.shape.allocate = (pool.allocate.1, pool.allocate.2.shape) := by
  rw [allocate_eq, allocate_eq, ← shape_filled]
  cases hlist : pool.filled.list with
  | nil => simp [shape, hlist]
  | cons p list => simp [shape, hlist]

end PoolTemplate

/-- What can be refused: the argent ids in use, the role objects and the buildings left. -/
structure Supplies where
  taken : UInt64 → Bool
  roles : PoolTemplate Unit
  buildings : List Bool

def Supplies.firstRefused (supplies : Supplies) : List DeployItem → Option DeployItem
  | [] => none
  | .role camp data :: rest =>
    match supplies.roles.allocate with
    | (none, _) => some (.role camp data)
    | (some _, pool) =>
      if supplies.taken data.argentId then some (.role camp data)
      else firstRefused { supplies with
        taken := Function.update supplies.taken data.argentId true
        roles := pool } rest
  | .joinRole :: rest => firstRefused supplies rest
  | item :: rest =>
    if supplies.buildings.headD false then
      firstRefused { supplies with buildings := supplies.buildings.tail } rest
    else some item

namespace CombatManagers

def supplies (s : CombatManagers) : Supplies where
  taken := s.roles.contains
  roles := s.rolePool.shape
  buildings := s.buildingAnswers

/-- The request gets its combat, and the first thing it is refused is a role's building. -/
def refusesRoleBuilding (s : CombatManagers) (data : CombatInitialData) : Bool :=
  s.combatPool.allocate.1.isSome && !s.combats.contains s.combatIds &&
    (s.supplies.firstRefused data.items).any DeployItem.isRoleBuilding

/-- A request left no trace: the managers and the session are as before, and every
registered role was handed out. -/
structure NoTrace (s s' : CombatManagers) (session : SessionPtr) : Prop where
  combats : s'.combats = s.combats
  roles : s'.roles = s.roles
  held : ∀ (r : UInt64) (q : Ptr), s'.roles[r]? = some q → s'.rolePool.Held q
  session : s'.sessions session = s.sessions session

/-! ## What holds on the way -/

/-- Taking the combat at `p` down now would leave the managers and the session as they were
in `s₀`, but for the roles, which would be those of `base`. -/
structure Deploying (s₀ : CombatManagers) (session : SessionPtr) (p : Ptr)
    (base : ExtTreeMap UInt64 Ptr) (s : CombatManagers) : Prop where
  live : (s.combatPool.objects p).isSome
  appSession : (s.combat p).appSession = some session
  combats : s.combats.erase (s.combat p).id = s₀.combats
  sessions : ((s.sessions session).map fun x =>
    { x with connectedCombats := x.connectedCombats.erase p }) = s₀.sessions session
  joined : ∀ r ∈ (s.combat p).roles, r ∈ s.roles
  base : ∀ r : UInt64, (if r ∈ (s.combat p).roles then none else s.roles[r]?) = base[r]?

/-- The roles can be taken down with the combat at `p`. -/
structure Removable (s : CombatManagers) (p : Ptr) : Prop extends s.Registered where
  alone : ∀ r ∈ (s.combat p).roles, s.Alone r

variable {s₀ s : CombatManagers} {session : SessionPtr} {p q : Ptr}
  {base : ExtTreeMap UInt64 Ptr}

theorem Deploying.abandonCombat_roles (h : Deploying s₀ session p base s) :
    (s.abandonCombat p).roles = base := by
  ext1 r
  rw [← h.base r]
  exact finalizeCombat_roles _ p r

theorem Deploying.abandonCombat (h : Deploying s₀ session p s₀.roles s) (hr : s.Removable p) :
    NoTrace s₀ (s.abandonCombat p) session := by
  have hgone := h.abandonCombat_roles
  have hregistered : (s.abandonCombat p).Registered := by
    have hfinal : ((s.removeCombat (s.combat p).id).finalizeCombat p).Registered :=
      finalizeCombat_registered ⟨hr.sound, hr.held⟩ hr.alone
    exact ⟨hfinal.sound, hfinal.held⟩
  constructor
  · exact (finalizeCombat_combats _ p).trans h.combats
  · exact hgone
  · exact hregistered.held
  · exact (finalizeCombat_sessions (s := s.removeCombat (s.combat p).id) h.appSession).trans
      h.sessions

/-- While the role at `q` is being deployed it is registered, and not yet in the combat. -/
structure Pending (s₀ : CombatManagers) (session : SessionPtr) (p q : Ptr) (s : CombatManagers) :
    Prop extends s.Removable p where
  deploying : Deploying s₀ session p (s₀.roles.insert (s.role q).argentId q) s
  fresh : s₀.roles[(s.role q).argentId]? = none
  unjoined : (s.role q).argentId ∉ (s.combat p).roles
  single : s.Alone (s.role q).argentId
  unconnected : (s.role q).appSession = none

theorem Deploying.changeRoles (h : Deploying s₀ session p base s)
    (pool : PoolTemplate CombatRoleField) :
    Deploying s₀ session p base { s with rolePool := pool } :=
  ⟨h.live, h.appSession, h.combats, h.sessions, h.joined, h.base⟩

theorem Removable.changeRoles (h : s.Removable p) {pool : PoolTemplate CombatRoleField}
    (hsound : pool.Sound)
    (hheld : ∀ (r : UInt64) (q : Ptr), s.roles[r]? = some q → pool.Held q) :
    Removable { s with rolePool := pool } p :=
  ⟨⟨hsound, hheld⟩, h.alone⟩

theorem Removable.modifyRole (h : s.Removable p) (q : Ptr)
    (change : CombatRoleField → CombatRoleField) : (s.modifyRole q change).Removable p :=
  h.changeRoles (h.sound.modify q change) fun r q' hq' =>
    (PoolTemplate.held_modify change).mpr (h.held r q' hq')

theorem Deploying.raiseBuilding (h : Deploying s₀ session p base s) (hostId : UInt64)
    (campId : Int) (description : BuildingDescription) :
    Deploying s₀ session p base (s.raiseBuilding p hostId campId description) := by
  have hcombat := raiseBuilding_combat h.live hostId campId description
  constructor
  · simpa [CombatManagers.raiseBuilding, allocateId, modifyCombat, PoolTemplate.modify_isSome]
      using h.live
  · rw [hcombat]
    exact h.appSession
  · rw [hcombat]
    exact h.combats
  · exact h.sessions
  · rw [hcombat]
    exact h.joined
  · rw [hcombat]
    exact h.base

theorem Removable.raiseBuilding (hlive : (s.combatPool.objects p).isSome) (h : s.Removable p)
    (hostId : UInt64) (campId : Int) (description : BuildingDescription) :
    (s.raiseBuilding p hostId campId description).Removable p := by
  have hcombat := raiseBuilding_combat hlive hostId campId description
  refine ⟨⟨h.sound, h.held⟩, ?_⟩
  rw [hcombat]
  exact h.alone

theorem abandonRole_eq (h : (s.role q).appSession = none) : s.abandonRole q =
    { s with rolePool := (s.rolePool.modify q CombatRoleField.finalize).deallocate q } := by
  simp only [abandonRole, finalizeRole, disconnectRole, h]
  rfl

/-- A role that is set up and not registered yet. -/
structure Candidate (s₀ : CombatManagers) (session : SessionPtr) (p q : Ptr) (s : CombatManagers) :
    Prop extends s.Removable p where
  deploying : Deploying s₀ session p s₀.roles s
  handedOut : s.rolePool.Held q
  free : ∀ r : UInt64, s.roles[r]? ≠ some q
  unconnected : (s.role q).appSession = none

theorem Candidate.abandonRole (h : Candidate s₀ session p q s) :
    NoTrace s₀ ((s.abandonRole q).abandonCombat p) session := by
  have hsound := h.sound.modify q CombatRoleField.finalize
  have hheld : (s.rolePool.modify q CombatRoleField.finalize).Held q :=
    (PoolTemplate.held_modify _).mpr h.handedOut
  rw [abandonRole_eq h.unconnected]
  apply (h.deploying.changeRoles _).abandonCombat
  apply h.toRemovable.changeRoles
  · exact (PoolTemplate.deallocate_reduced hsound hheld).sound
  · intro r q' hq'
    refine PoolTemplate.deallocate_held hsound hheld ((PoolTemplate.held_modify _).mpr
      (h.held r q' hq')) ?_
    rintro rfl
    exact h.free r hq'

/-- Registering a role under a free argent id. -/
theorem Candidate.addRole (h : Candidate s₀ session p q s)
    (hnew : (s.role q).argentId ∉ s.roles) :
    Pending s₀ session p q { s with roles := s.roles.insert (s.role q).argentId q } := by
  have hd := h.deploying
  have hunjoined : (s.role q).argentId ∉ (s.combat p).roles := fun hin => hnew (hd.joined _ hin)
  have hlookup : ∀ r : UInt64, (s.roles.insert (s.role q).argentId q)[r]? =
      if r = (s.role q).argentId then some q else s.roles[r]? := by grind
  have hfree := h.free
  constructor
  · constructor
    · constructor
      · exact h.sound
      · intro r q' hq'
        rw [hlookup] at hq'
        split at hq'
        · obtain rfl := Option.some.inj hq'
          exact h.handedOut
        · exact h.held r q' hq'
    · intro r hr r' q' hq hq'
      have hne : r ≠ (s.role q).argentId := fun heq => hunjoined (heq ▸ hr)
      rw [hlookup, if_neg hne] at hq
      rw [hlookup] at hq'
      split at hq'
      · obtain rfl := Option.some.inj hq'
        exact absurd hq (hfree r)
      · exact h.alone r hr r' q' hq hq'
  · constructor
    · exact hd.live
    · exact hd.appSession
    · exact hd.combats
    · exact hd.sessions
    · intro r hr
      exact ExtTreeMap.mem_insert.mpr (Or.inr (hd.joined r hr))
    · intro r
      have hbase := hd.base r
      have hboth : (if r ∈ (s.combat p).roles then none
          else (s.roles.insert (s.role q).argentId q)[r]?) =
          (s₀.roles.insert (s.role q).argentId q)[r]? := by grind
      exact hboth
  · have hbase := hd.base (s.role q).argentId
    rw [if_neg hunjoined] at hbase
    have hfresh : s₀.roles[(s.role q).argentId]? = none := by grind
    exact hfresh
  · exact hunjoined
  · intro r' q' hq hq'
    have hq : (s.roles.insert (s.role q).argentId q)[(s.role q).argentId]? = some q' := hq
    have hq' : (s.roles.insert (s.role q).argentId q)[r']? = some q' := hq'
    grind
  · exact h.unconnected

/-! ## The steps -/

/-- The invariant between two roles, when the request will be refused `verdict`. -/
structure Idle (s₀ : CombatManagers) (session : SessionPtr) (p : Ptr)
    (verdict : Option DeployItem) (items : List DeployItem) (s : CombatManagers) : Prop where
  deploying : Deploying s₀ session p s₀.roles s
  removable : s.Removable p
  refused : s.supplies.firstRefused items = verdict

/-- What an exit should have come to. -/
def Failed (s₀ : CombatManagers) (session : SessionPtr) (verdict : Option DeployItem)
    (s : CombatManagers) : Prop :=
  NoTrace s₀ s session ↔ verdict.any DeployItem.isRoleBuilding = false

variable {verdict : Option DeployItem} {items : List DeployItem}

theorem Idle.campBuilding {campId : Int} {description : BuildingDescription}
    (h : Idle s₀ session p verdict (.campBuilding campId description :: items) s) :
    Ends (Idle s₀ session p verdict items) (Failed s₀ session verdict)
      (deployCampBuilding p campId s description) := by
  have hrefused := h.refused
  have hdeploying : Deploying s₀ session p s₀.roles
      { s with buildingAnswers := s.buildingAnswers.tail } :=
    ⟨h.deploying.live, h.deploying.appSession, h.deploying.combats, h.deploying.sessions,
      h.deploying.joined, h.deploying.base⟩
  have hremovable : Removable { s with buildingAnswers := s.buildingAnswers.tail } p :=
    ⟨⟨h.removable.sound, h.removable.held⟩, h.removable.alone⟩
  simp only [Supplies.firstRefused, supplies] at hrefused
  simp only [deployCampBuilding, allocateBuilding]
  cases hanswer : s.buildingAnswers.headD false with
  | false =>
    simp only [hanswer] at hrefused
    subst hrefused
    simp only [Ends, Failed]
    constructor
    · simp [DeployItem.isRoleBuilding]
    · intro _
      exact hdeploying.abandonCombat hremovable
  | true =>
    simp only [hanswer] at hrefused
    constructor
    · exact hdeploying.raiseBuilding 0 campId description
    · exact hremovable.raiseBuilding hdeploying.live 0 campId description
    · exact hrefused

theorem Pending.registered (h : Pending s₀ session p q s) :
    s.roles[(s.role q).argentId]? = some q := by
  have hbase := h.deploying.base (s.role q).argentId
  rw [if_neg h.unjoined] at hbase
  rw [hbase]
  simp

theorem Pending.raiseBuilding (h : Pending s₀ session p q s) (hostId : UInt64) (campId : Int)
    (description : BuildingDescription) :
    Pending s₀ session p q (s.raiseBuilding p hostId campId description) := by
  have hlive := h.deploying.live
  have hcombat := raiseBuilding_combat hlive hostId campId description
  constructor
  · exact h.toRemovable.raiseBuilding hlive hostId campId description
  · exact h.deploying.raiseBuilding hostId campId description
  · exact h.fresh
  · rw [hcombat]
    exact h.unjoined
  · exact h.single
  · exact h.unconnected

theorem Pending.modifyRole (h : Pending s₀ session p q s)
    {change : CombatRoleField → CombatRoleField}
    (hargentId : (change (s.role q)).argentId = (s.role q).argentId)
    (happSession : (change (s.role q)).appSession = (s.role q).appSession) :
    Pending s₀ session p q (s.modifyRole q change) := by
  have hrole := modifyRole_role (h.held _ q h.registered).1 change
  constructor
  · exact h.toRemovable.modifyRole q change
  · rw [hrole, hargentId]
    exact h.deploying.changeRoles _
  · rw [hrole, hargentId]
    exact h.fresh
  · rw [hrole, hargentId]
    exact h.unjoined
  · rw [hrole, hargentId]
    exact h.single
  · rw [hrole, happSession]
    exact h.unconnected

@[simp] theorem supplies_modifyRole (s : CombatManagers) (q : Ptr)
    (change : CombatRoleField → CombatRoleField) :
    (s.modifyRole q change).supplies = s.supplies := by
  simp [supplies, CombatManagers.modifyRole]

theorem Pending.roleBuilding {campId : Int} {description : BuildingDescription}
    (h : Pending s₀ session p q s ∧
      s.supplies.firstRefused (.roleBuilding campId description :: items) = verdict) :
    Ends (fun s' => Pending s₀ session p q s' ∧ s'.supplies.firstRefused items = verdict)
      (Failed s₀ session verdict) (deployRoleBuilding p q campId s description) := by
  obtain ⟨hpending, hrefused⟩ := h
  have hanswered : Pending s₀ session p q { s with buildingAnswers := s.buildingAnswers.tail } := by
    have hd := hpending.deploying
    exact ⟨⟨⟨hpending.sound, hpending.held⟩, hpending.alone⟩,
      ⟨hd.live, hd.appSession, hd.combats, hd.sessions, hd.joined, hd.base⟩,
      hpending.fresh, hpending.unjoined, hpending.single, hpending.unconnected⟩
  simp only [Supplies.firstRefused, supplies] at hrefused
  simp only [deployRoleBuilding, allocateBuilding]
  cases hanswer : s.buildingAnswers.headD false with
  | false =>
    simp only [hanswer] at hrefused
    subst hrefused
    have hkept : (({ s with buildingAnswers := s.buildingAnswers.tail }.abandonRole q).abandonCombat
        p).roles = s₀.roles.insert (s.role q).argentId q := by
      rw [abandonRole_eq hanswered.unconnected]
      exact (hanswered.deploying.changeRoles _).abandonCombat_roles
    simp only [Ends, Failed]
    constructor
    · intro htrace
      have hroles := hkept.symm.trans htrace.roles
      have hfresh := hpending.fresh
      rw [← hroles] at hfresh
      simp at hfresh
    · simp [DeployItem.isRoleBuilding]
  | true =>
    simp only [hanswer] at hrefused
    constructor
    · exact (hanswered.raiseBuilding _ campId description).modifyRole rfl rfl
    · rw [supplies_modifyRole]
      exact hrefused

theorem Pending.joinRole (h : Pending s₀ session p q s ∧
      s.supplies.firstRefused (.joinRole :: items) = verdict) :
    Idle s₀ session p verdict items (s.joinRole p (s.role q).argentId) := by
  obtain ⟨hpending, hrefused⟩ := h
  have hd := hpending.deploying
  have hcombat := modifyCombat_combat hd.live fun combat =>
    { combat with roles := combat.roles.insert (s.role q).argentId }
  have hjoin : s.joinRole p (s.role q).argentId = (s.modifyCombat p fun combat =>
      { combat with roles := combat.roles.insert (s.role q).argentId }).modifyRole q
        fun role => { role with combatField := some p } := by
    simp only [CombatManagers.joinRole, hpending.registered]
  rw [hjoin]
  constructor
  · refine Deploying.changeRoles ?_ _
    constructor
    · simpa [modifyCombat, PoolTemplate.modify_isSome] using hd.live
    · rw [hcombat]
      exact hd.appSession
    · rw [hcombat]
      exact hd.combats
    · exact hd.sessions
    · rw [hcombat]
      intro r hr
      have hregistered := hpending.registered
      have hjoined := hd.joined r
      simp only [modifyCombat]
      grind
    · rw [hcombat]
      intro r
      have hbase := hd.base r
      have hfresh := hpending.fresh
      simp only [modifyCombat]
      grind
  · apply Removable.modifyRole
    refine ⟨⟨hpending.sound, hpending.held⟩, ?_⟩
    rw [hcombat]
    intro r hr
    rcases ExtTreeSet.mem_insert.mp hr with heq | hin
    · rw [← compare_eq_iff_eq.mp heq]
      exact hpending.single
    · exact hpending.alone r hin
  · rw [supplies_modifyRole]
    exact hrefused

theorem Idle.registerRole {camp : CombatCampData} {data : CombatRoleData}
    (h : Idle s₀ session p verdict (.role camp data :: items) s) :
    Ends (fun r => Pending s₀ session p r.1 r.2 ∧ r.2.supplies.firstRefused items = verdict)
      (Failed s₀ session verdict) (s.registerRole p camp data) := by
  have hrefused := h.refused
  have hremovable := h.removable
  have hgrown := PoolTemplate.allocate_grown hremovable.sound
  simp only [Supplies.firstRefused, supplies, PoolTemplate.shape_allocate] at hrefused
  obtain ⟨answer, pool, hanswer⟩ : ∃ answer pool, s.rolePool.allocate = (answer, pool) :=
    ⟨_, _, rfl⟩
  rw [hanswer] at hgrown hrefused
  have hdeploying := h.deploying.changeRoles pool
  have hchanged : Removable { s with rolePool := pool } p :=
    hremovable.changeRoles hgrown.sound fun r q hq => hgrown.held (hremovable.held r q hq)
  simp only [CombatManagers.registerRole, allocateRole, hanswer]
  cases answer with
  | none =>
    simp only at hrefused
    subst hrefused
    simp only [Ends, Failed]
    constructor
    · simp [DeployItem.isRoleBuilding]
    · intro _
      exact hdeploying.abandonCombat hchanged
  | some q =>
    obtain ⟨hheld, hnew⟩ := PoolTemplate.allocate_held hremovable.sound hanswer
    have hfree : ∀ r : UInt64, s.roles[r]? ≠ some q := fun r hr => hnew (hremovable.held r q hr)
    have hrole := modifyRole_role (s := { s with rolePool := pool }) hheld.1 fun role =>
      (role.initializeRole data.argentId data.name).setCamp camp
    simp only at hrefused ⊢
    obtain ⟨set, hset⟩ : ∃ set, ({ s with rolePool := pool }.modifyRole q fun role =>
      (role.initializeRole data.argentId data.name).setCamp camp) = set := ⟨_, rfl⟩
    have hcandidate : Candidate s₀ session p q set := by
      subst hset
      constructor
      · exact hchanged.modifyRole q _
      · exact hdeploying.changeRoles _
      · exact (PoolTemplate.held_modify _).mpr hheld
      · exact fun r hr => hnew (hremovable.held r q hr)
      · rw [hrole]
        rfl
    have hargentId : (set.role q).argentId = data.argentId := by
      subst hset
      rw [hrole]
      rfl
    have hroles : set.roles = s.roles := by
      subst hset
      rfl
    have hsupplies : set.supplies = { s.supplies with roles := pool.shape } := by
      subst hset
      rw [supplies_modifyRole]
      rfl
    rw [hset]
    by_cases htaken : data.argentId ∈ s.roles
    · rw [addRole_taken (by rw [hargentId, hroles]; exact htaken)]
      simp only [ExtTreeMap.contains_iff_mem, htaken, if_true] at hrefused
      subst hrefused
      simp only [Ends, Failed]
      constructor
      · simp [DeployItem.isRoleBuilding]
      · intro _
        exact hcandidate.abandonRole
    · have hfree : (set.role q).argentId ∉ set.roles := by
        rw [hargentId, hroles]
        exact htaken
      rw [addRole_free hfree]
      simp only [ExtTreeMap.contains_iff_mem, htaken, if_false] at hrefused
      constructor
      · apply (hcandidate.addRole hfree).modifyRole
        · rw [CombatRoleField.addWarriorDescriptions_eq]
        · rw [CombatRoleField.addWarriorDescriptions_eq]
      · have htaken' : ∀ r, (s.roles.insert data.argentId q).contains r =
            Function.update (fun r => s.roles.contains r) data.argentId true r := by
          intro r
          by_cases hr : r = data.argentId
          · simp [hr]
          · have hne : compare data.argentId r ≠ .eq := fun heq => hr (compare_eq_iff_eq.mp heq).symm
            simp [hr, hne, ExtTreeMap.contains_insert]
        rw [supplies_modifyRole, ← hrefused]
        congr 1
        simp only [supplies, Supplies.mk.injEq] at hsupplies ⊢
        refine ⟨?_, hsupplies.2.1, hsupplies.2.2⟩
        rw [hargentId, hroles]
        exact funext htaken'

theorem deployRule (s₀ : CombatManagers) (session : SessionPtr) (p : Ptr)
    (verdict : Option DeployItem) :
    DeployRule p (Idle s₀ session p verdict)
      (fun q items s => Pending s₀ session p q s ∧ s.supplies.firstRefused items = verdict)
      (Failed s₀ session verdict) := by
  constructor
  · intro camp data items s h
    exact h.registerRole
  · intro q campId description items s h
    exact Pending.roleBuilding h
  · intro q items s h
    exact Pending.joinRole h
  · intro campId description items s h
    exact h.campBuilding

/-! ## The request -/

theorem OpenedEmpty.idle {opened : CombatManagers} {data : CombatInitialData}
    (h : OpenedEmpty s session p opened) (horderly : s.Orderly) (hid : s.combatIds ∉ s.combats) :
    Idle s session p (s.supplies.firstRefused data.items) data.items
      { opened with combats := s.combats.insert s.combatIds p } := by
  constructor
  · constructor
    · exact h.live
    · exact h.appSession
    · have hcombats : (s.combats.insert s.combatIds p).erase (opened.combat p).id = s.combats := by
        rw [h.id]
        ext1 c
        grind
      exact hcombats
    · exact h.sessions
    · have hempty : ∀ r ∈ (opened.combat p).roles, r ∈ opened.roles := by simp [h.empty]
      exact hempty
    · have hbase : ∀ r : UInt64, (if r ∈ (opened.combat p).roles then none
          else opened.roles[r]?) = s.roles[r]? := by simp [h.empty, h.roles]
      exact hbase
  · have hregistered := h.registered horderly
    have halone : ∀ r ∈ (opened.combat p).roles, opened.Alone r := by simp [h.empty]
    exact ⟨⟨hregistered.sound, hregistered.held⟩, halone⟩
  · simp only [supplies, h.roles, h.rolePool, h.buildingAnswers]

theorem deployCombat_noTrace_iff {s s' : CombatManagers} {session : SessionPtr}
    {data : CombatInitialData} (horderly : s.Orderly)
    (hfailed : s.deployCombat session data = .error s') :
    NoTrace s s' session ↔ s.refusesRoleBuilding data = false := by
  obtain ⟨answer, pool, hanswer⟩ : ∃ answer pool, s.combatPool.allocate = (answer, pool) :=
    ⟨_, _, rfl⟩
  have hgrown := PoolTemplate.allocate_grown horderly.combatPool
  simp only [refusesRoleBuilding, hanswer]
  rw [hanswer] at hgrown
  cases answer with
  | none =>
    rw [deployCombat_none hanswer] at hfailed
    cases hfailed
    simp only [Option.isSome_none, Bool.false_and, iff_true]
    exact ⟨rfl, rfl, horderly.held, rfl⟩
  | some p =>
    obtain ⟨opened, hopened⟩ : ∃ opened, s.openCombat p pool data session = opened := ⟨_, rfl⟩
    have h : OpenedEmpty s session p opened := hopened ▸ openedEmpty_openCombat horderly hanswer
    by_cases hid : s.combatIds ∈ s.combats
    · have hadd : opened.addCombat p = none := by
        simp [addCombat, h.id, h.combats, hid]
      rw [← hopened] at hadd
      rw [deployCombat_taken hanswer hadd, hopened] at hfailed
      cases hfailed
      have hcontains : s.combats.contains s.combatIds = true := ExtTreeMap.contains_iff_mem.mpr hid
      simp only [hcontains, Bool.not_true, Bool.and_false, Bool.false_and, iff_true]
      have hroles : (opened.finalizeCombat p).roles = s.roles := by
        ext1 r
        rw [finalizeCombat_roles, h.empty, h.roles]
        simp
      have hregistered : (opened.finalizeCombat p).Registered :=
        finalizeCombat_registered (h.registered horderly) (by simp [h.empty])
      constructor
      · exact (finalizeCombat_combats opened p).trans h.combats
      · exact hroles
      · exact hregistered.held
      · exact (finalizeCombat_sessions h.appSession).trans h.sessions
    · have hadd : opened.addCombat p =
          some { opened with combats := opened.combats.insert (opened.combat p).id p } := by
        simp [addCombat, h.id, h.combats, hid]
      have hcontains : s.combats.contains s.combatIds = false :=
        Bool.eq_false_iff.mpr fun hin => hid (ExtTreeMap.contains_iff_mem.mp hin)
      have hidle : Idle s session p (s.supplies.firstRefused data.items) data.items
          { opened with combats := opened.combats.insert (opened.combat p).id p } := by
        rw [h.combats, h.id]
        exact h.idle horderly hid
      have hends := (deployRule s session p _).ends_deployCamps hidle
      rw [deployCombat_added hanswer ((congrArg (addCombat · p) hopened).trans hadd)] at hfailed
      simp only [hcontains, Option.isSome_some, Bool.not_false, Bool.and_self, Bool.true_and]
      refine hends.error ?_
      cases hloop : data.camps.foldlM (deployCamp p)
          { opened with combats := opened.combats.insert (opened.combat p).id p } with
      | ok s₁ => simp [hloop, bind, Except.bind, pure, Except.pure] at hfailed
      | error e =>
        simp only [hloop, bind, Except.bind, Except.error.injEq] at hfailed
        rw [hfailed]

/-- A registered role that is in the pool stays there, whatever the request comes to. -/
theorem NoTrace.held_before {s s' : CombatManagers} {session : SessionPtr}
    {data : CombatInitialData} (h : NoTrace s s' session) (hs : s.Garrisoned)
    (hfailed : s.deployCombat session data = .error s') (r : UInt64) (q : Ptr)
    (hq : s.roles[r]? = some q) : s.rolePool.Held q := by
  have hdisbanded := (hs.ends_deploy session data).error hfailed
  refine hdisbanded.2 q (h.held r q ?_)
  rw [h.roles, hq]

/-- In every state of the server a failed deploy leaves no trace if and only if there was none of
an earlier one and the first thing refused is not a role's building. -/
theorem onMessageCombatDeployRequest_noTrace_iff (configs : Server.Configs)
    (memory : Server.Memory) (s : Server)
    (hs : Reaches (fun s a => some (Server.step s a)) (fun _ _ => True)
      (Server.started configs memory) s) {session : SessionPtr} {hostId : Int}
    {data : CombatInitialData}
    (hfailed : (s.managers.onMessageCombatDeployRequest session hostId data).sent.getLast? =
      some (session, .deployResponse hostId .failure none)) :
    NoTrace s.managers (s.managers.onMessageCombatDeployRequest session hostId data) session ↔
      (∀ (r : UInt64) (q : Ptr), s.managers.roles[r]? = some q → s.managers.rolePool.Held q) ∧
        s.managers.refusesRoleBuilding data = false := by
  have hgarrisoned := Server.reaches_garrisoned hs
  cases hdeploy : s.managers.deployCombat session data with
  | ok r =>
    simp [onMessageCombatDeployRequest, hdeploy, send] at hfailed
  | error s' =>
    have hsent : NoTrace s.managers (s'.send session (.deployResponse hostId .failure none))
        session ↔ NoTrace s.managers s' session :=
      ⟨fun h => ⟨h.combats, h.roles, h.held, h.session⟩,
        fun h => ⟨h.combats, h.roles, h.held, h.session⟩⟩
    have hanswer : s.managers.onMessageCombatDeployRequest session hostId data =
        s'.send session (.deployResponse hostId .failure none) := by
      simp only [onMessageCombatDeployRequest, hdeploy]
    rw [hanswer, hsent]
    constructor
    · intro h
      have hheld := h.held_before hgarrisoned hdeploy
      exact ⟨hheld, (deployCombat_noTrace_iff (hgarrisoned.orderly hheld) hdeploy).mp h⟩
    · rintro ⟨hheld, hrefused⟩
      exact (deployCombat_noTrace_iff (hgarrisoned.orderly hheld) hdeploy).mpr hrefused

/-- One role with one building, and one building of the camp. -/
def smallRequest : CombatInitialData where
  mapId := 1
  maxTime := 60
  camps := [
    { id := 1
      initFood := 10
      maxFood := 100
      initElixir := 10
      maxElixir := 100
      roles := [⟨7, "role", [], [⟨1, 1, 50, 0, 0, 1, 5, 1, 1⟩]⟩]
      buildings := [⟨2, 1, 50, 3, 3, 1, 5, 1, 1⟩] }]

/-- A server with one combat and one role object, and some buildings. -/
def smallServer (buildingAnswers : List Bool) : Server :=
  (Server.small (fun _ => none) ⟨[some 0], [some 0], buildingAnswers, [], [], [], [], [], []⟩).step
    (.accept 0)

/-- Without a building for the camp the request leaves no trace. -/
theorem onMessageCombatDeployRequest_noTrace_camp :
    NoTrace (smallServer [true]).managers
      ((smallServer [true]).managers.onMessageCombatDeployRequest 0 5 smallRequest) 0 := by
  refine (onMessageCombatDeployRequest_noTrace_iff _ _ (smallServer [true])
    (Reaches.refl.snoc (.accept 0) trivial rfl) (by decide)).mpr ⟨fun r q hq => ?_, by decide⟩
  have hempty : (smallServer [true]).managers.roles = ∅ := rfl
  rw [hempty] at hq
  simp at hq

/-- Without a building for the role, the role stays registered. -/
theorem onMessageCombatDeployRequest_trace :
    ((smallServer []).managers.onMessageCombatDeployRequest 0 5 smallRequest).sent.getLast? =
      some (0, .deployResponse 5 .failure none) ∧
    ¬ NoTrace (smallServer []).managers
      ((smallServer []).managers.onMessageCombatDeployRequest 0 5 smallRequest) 0 := by
  refine ⟨by decide, ?_⟩
  intro h
  have hroles := congrArg (·.contains 7) h.roles
  revert hroles
  decide

end CombatManagers

end Mysya
