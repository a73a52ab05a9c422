import Mysya.Attempts
import Mysya.CombatTeardown

/-!
# A deploy request step by step

The three loops of a deploy request do one thing after the other. `items` lists what
is still to be done, and an invariant that says what holds with that much to do is
carried through the loops by one rule.
-/

open Attempts

namespace Mysya

inductive DeployItem
  | role (camp : CombatCampData) (data : CombatRoleData)
  | roleBuilding (campId : Int) (description : BuildingDescription)
  | joinRole
  | campBuilding (campId : Int) (description : BuildingDescription)

/-- What is left of a role once it is registered. -/
def CombatRoleData.afterRole (camp : CombatCampData) (data : CombatRoleData) : List DeployItem :=
  data.buildings.map (.roleBuilding camp.id) ++ [.joinRole]

def CombatRoleData.items (camp : CombatCampData) (data : CombatRoleData) : List DeployItem :=
  .role camp data :: data.afterRole camp

def CombatCampData.items (camp : CombatCampData) : List DeployItem :=
  camp.roles.flatMap (CombatRoleData.items camp) ++ camp.buildings.map (.campBuilding camp.id)

def CombatInitialData.items (data : CombatInitialData) : List DeployItem :=
  data.camps.flatMap CombatCampData.items

namespace CombatManagers

/-! ## The combat -/

/-- The state in which the combat at `p` was taken from the pool and initialized. -/
def openCombat (s : CombatManagers) (p : Ptr) (pool : PoolTemplate CombatField)
    (data : CombatInitialData) (session : SessionPtr) : CombatManagers :=
  { s with
    combatPool := pool.modify p fun combat => { combat with id := s.combatIds }
    combatIds := s.combatIds + 1 }.initializeCombat p data session

/-- A deploy that gets no combat changes the pool and nothing else. -/
theorem deployCombat_none {s : CombatManagers} {pool : PoolTemplate CombatField}
    (hanswer : s.combatPool.allocate = (none, pool)) (session : SessionPtr)
    (data : CombatInitialData) :
    s.deployCombat session data = .error { s with combatPool := pool } := by
  rw [deployCombat, allocateCombat, hanswer]

/-- A deploy whose id is taken gives its combat back. -/
theorem deployCombat_taken {s : CombatManagers} {p : Ptr} {pool : PoolTemplate CombatField}
    {data : CombatInitialData} {session : SessionPtr}
    (hanswer : s.combatPool.allocate = (some p, pool))
    (htaken : (s.openCombat p pool data session).addCombat p = none) :
    s.deployCombat session data =
      .error (((s.openCombat p pool data session).finalizeCombat p).deallocateCombat p) := by
  rw [openCombat] at htaken
  rw [deployCombat, allocateCombat, hanswer]
  dsimp only
  rw [htaken]
  rfl

/-- Any other deploy goes through the loops. -/
theorem deployCombat_added {s added : CombatManagers} {p : Ptr} {pool : PoolTemplate CombatField}
    {data : CombatInitialData} {session : SessionPtr}
    (hanswer : s.combatPool.allocate = (some p, pool))
    (hadded : (s.openCombat p pool data session).addCombat p = some added) :
    s.deployCombat session data = (do
      let s ← data.camps.foldlM (deployCamp p) added
      return (p, s)) := by
  rw [openCombat] at hadded
  rw [deployCombat, allocateCombat, hanswer]
  dsimp only
  rw [hadded]

/-- What is known of that state. -/
structure Opened (s : CombatManagers) (session : SessionPtr) (p : Ptr) (s' : CombatManagers) :
    Prop where
  live : (s'.combatPool.objects p).isSome
  fresh : ¬ s.combatPool.Held p
  id : (s'.combat p).id = s.combatIds
  appSession : (s'.combat p).appSession = some session
  combats : s'.combats = s.combats
  roles : s'.roles = s.roles
  rolePool : s'.rolePool = s.rolePool
  buildingAnswers : s'.buildingAnswers = s.buildingAnswers

/-- Where the managers were orderly, the combat brings no roles and no session. -/
structure OpenedEmpty (s : CombatManagers) (session : SessionPtr) (p : Ptr) (s' : CombatManagers) :
    Prop extends Opened s session p s' where
  empty : (s'.combat p).roles = ∅
  sessions : ((s'.sessions session).map fun x =>
    { x with connectedCombats := x.connectedCombats.erase p }) = s.sessions session

theorem openCombat_combat {s : CombatManagers} {p : Ptr} {pool : PoolTemplate CombatField}
    (hlive : (pool.objects p).isSome) (data : CombatInitialData) (session : SessionPtr) :
    (s.openCombat p pool data session).combat p =
      { pool.read p with id := s.combatIds }.initializeCombat data.mapId data.maxTime session := by
  rw [← PoolTemplate.read_modify hlive fun combat => { combat with id := s.combatIds }]
  exact PoolTemplate.read_modify ((PoolTemplate.modify_isSome _).trans hlive) _

theorem opened_openCombat {s : CombatManagers} {p : Ptr} {pool : PoolTemplate CombatField}
    {data : CombatInitialData} {session : SessionPtr} (h : s.combatPool.Sound)
    (hanswer : s.combatPool.allocate = (some p, pool)) :
    Opened s session p (s.openCombat p pool data session) := by
  obtain ⟨hheld, hnew⟩ := PoolTemplate.allocate_held h hanswer
  have hcombat := openCombat_combat (s := s) hheld.1 data session
  constructor
  · exact (PoolTemplate.modify_isSome _).trans ((PoolTemplate.modify_isSome _).trans hheld.1)
  · exact hnew
  · rw [hcombat]
    rfl
  · rw [hcombat]
    rfl
  · rfl
  · rfl
  · rfl
  · rfl

theorem openedEmpty_openCombat {s : CombatManagers} {p : Ptr} {pool : PoolTemplate CombatField}
    {data : CombatInitialData} {session : SessionPtr} (h : s.Orderly)
    (hanswer : s.combatPool.allocate = (some p, pool)) :
    OpenedEmpty s session p (s.openCombat p pool data session) := by
  obtain ⟨hheld, hnew⟩ := PoolTemplate.allocate_held h.combatPool hanswer
  have hgrown := PoolTemplate.allocate_grown h.combatPool
  rw [hanswer] at hgrown
  have hempty : (pool.read p).roles = ∅ := by
    have hcleared := h.cleared p hnew
    rcases hgrown.objects p with hsame | ⟨_, hdefault⟩
    · rwa [PoolTemplate.read, hsame]
    · rw [PoolTemplate.read, hdefault]
      rfl
  refine ⟨opened_openCombat h.combatPool hanswer, ?_, ?_⟩
  · rw [openCombat_combat hheld.1]
    exact hempty
  · have hsessions : (s.openCombat p pool data session).sessions session =
        (s.sessions session).map fun x =>
          { x with connectedCombats := x.connectedCombats.insert p } := by
      simp [openCombat, initializeCombat, modifySession, modifyCombat]
    rw [hsessions]
    cases hx : s.sessions session with
    | none => rfl
    | some x =>
      have hout : p ∉ x.connectedCombats := fun hin => hnew (h.connected session x p hx hin)
      have herase : (x.connectedCombats.insert p).erase p = x.connectedCombats := by
        ext1 p'
        grind
      simp [herase]

theorem Opened.registered {s s' : CombatManagers} {session : SessionPtr} {p : Ptr}
    (h : Opened s session p s') (horderly : s.Orderly) : s'.Registered := by
  constructor
  · rw [h.rolePool]
    exact horderly.sound
  · rw [h.roles, h.rolePool]
    exact horderly.held

/-- A request that succeeds opens a combat, registers it and goes through the loops. -/
theorem deployCombat_ok {s s' : CombatManagers} {session : SessionPtr} {p : Ptr}
    {data : CombatInitialData} (hsound : s.combatPool.Sound)
    (h : s.deployCombat session data = .ok (p, s')) :
    ∃ opened, Opened s session p opened ∧ s.combatIds ∉ s.combats ∧
      data.camps.foldlM (deployCamp p)
        { opened with combats := opened.combats.insert s.combatIds p } = .ok s' := by
  obtain ⟨answer, pool, hanswer⟩ : ∃ answer pool, s.combatPool.allocate = (answer, pool) :=
    ⟨_, _, rfl⟩
  cases answer with
  | none =>
    rw [deployCombat_none hanswer] at h
    cases h
  | some p' =>
    have hopened : Opened s session p' (s.openCombat p' pool data session) :=
      opened_openCombat hsound hanswer
    cases hadd : (s.openCombat p' pool data session).addCombat p' with
    | none =>
      rw [deployCombat_taken hanswer hadd] at h
      cases h
    | some added =>
      rw [deployCombat_added hanswer hadd] at h
      simp only [addCombat, hopened.id, hopened.combats] at hadd
      split at hadd
      · cases hadd
      · rename_i hid
        obtain rfl := Option.some.inj hadd
        cases hloop : data.camps.foldlM (deployCamp p')
            { s.openCombat p' pool data session with combats := s.combats.insert s.combatIds p' } with
        | error e => simp [hloop, bind, Except.bind] at h
        | ok s₁ =>
          simp only [hloop, bind, Except.bind, pure, Except.pure, Except.ok.injEq,
            Prod.mk.injEq] at h
          obtain ⟨rfl, rfl⟩ := h
          refine ⟨_, hopened, by simpa using hid, ?_⟩
          rw [hopened.combats]
          exact hloop

/-! ## The loops -/

/-- What each step keeps: `Idle` between two roles, `Pending q` while the role at `q` is
being deployed. -/
structure DeployRule (p : Ptr) (Idle : List DeployItem → CombatManagers → Prop)
    (Pending : Ptr → List DeployItem → CombatManagers → Prop) (Failed : CombatManagers → Prop) :
    Prop where
  role : ∀ camp data rest s, Idle (data.items camp ++ rest) s →
    Ends (fun r => Pending r.1 (data.afterRole camp ++ rest) r.2) Failed
      (s.registerRole p camp data)
  roleBuilding : ∀ q campId description rest s,
    Pending q (.roleBuilding campId description :: rest) s →
      Ends (Pending q rest) Failed (deployRoleBuilding p q campId s description)
  joinRole : ∀ q rest s, Pending q (.joinRole :: rest) s →
    Idle rest (s.joinRole p (s.role q).argentId)
  campBuilding : ∀ campId description rest s, Idle (.campBuilding campId description :: rest) s →
    Ends (Idle rest) Failed (deployCampBuilding p campId s description)

namespace DeployRule

variable {p : Ptr} {Idle : List DeployItem → CombatManagers → Prop}
  {Pending : Ptr → List DeployItem → CombatManagers → Prop} {Failed : CombatManagers → Prop}

theorem ends_deployRole (rule : DeployRule p Idle Pending Failed) {camp : CombatCampData}
    {data : CombatRoleData} {rest : List DeployItem} {s : CombatManagers}
    (h : Idle (data.items camp ++ rest) s) :
    Ends (Idle rest) Failed (deployRole p camp s data) := by
  refine Ends.bind (rule.role camp data rest s h) ?_
  rintro ⟨q, s₁⟩ h₁
  simp only [CombatRoleData.afterRole, List.append_assoc, List.singleton_append] at h₁
  refine Ends.bind (G := Pending q (.joinRole :: rest)) ?_ ?_
  · refine ends_foldlM
      (I := fun l => Pending q (l.map (.roleBuilding camp.id) ++ .joinRole :: rest)) ?_ _ h₁
    intro description l s₂ h₂
    exact rule.roleBuilding q camp.id description _ s₂ h₂
  · intro s₂ h₂
    exact rule.joinRole q rest s₂ h₂

theorem ends_deployCamp (rule : DeployRule p Idle Pending Failed) {camp : CombatCampData}
    {rest : List DeployItem} {s : CombatManagers} (h : Idle (camp.items ++ rest) s) :
    Ends (Idle rest) Failed (deployCamp p s camp) := by
  simp only [CombatCampData.items, List.append_assoc] at h
  refine Ends.bind (G := Idle (camp.buildings.map (.campBuilding camp.id) ++ rest)) ?_ ?_
  · refine ends_foldlM (I := fun l => Idle (l.flatMap (CombatRoleData.items camp) ++
      (camp.buildings.map (.campBuilding camp.id) ++ rest))) ?_ _ h
    intro data l s₁ h₁
    simp only [List.flatMap_cons, List.append_assoc] at h₁
    exact rule.ends_deployRole h₁
  · intro s₁ h₁
    refine ends_foldlM
      (I := fun l => Idle (l.map (.campBuilding camp.id) ++ rest)) ?_ _ h₁
    intro description l s₂ h₂
    exact rule.campBuilding camp.id description _ s₂ h₂

theorem ends_deployCamps (rule : DeployRule p Idle Pending Failed) {data : CombatInitialData}
    {s : CombatManagers} (h : Idle data.items s) :
    Ends (Idle []) Failed (data.camps.foldlM (deployCamp p) s) := by
  refine ends_foldlM (I := fun l => Idle (l.flatMap CombatCampData.items)) ?_ _ h
  intro camp l s₁ h₁
  exact rule.ends_deployCamp h₁

end DeployRule

end CombatManagers

end Mysya
