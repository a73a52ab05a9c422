import Mysya.DeployItems
import Mysya.Garrisons

/-!
# What a new combat starts with

A role of a new combat is built on whatever object the pool hands out. `Initialize`
and the deploy handler set most of its fields, but supply, its maximum and the
warrior descriptions stay from the role that had the object before, unless that
role was finalized. So the new roles are what the message asks for if and only if
the objects handed out bring nothing of their own.
-/

open Std Attempts GuardedRuns

namespace Mysya

/-- The warrior descriptions of a message: of two with one id the first. -/
def descriptions (warriors : List WarriorDescription) : ExtTreeMap Int WarriorDescription :=
  warriors.foldl (fun known description => known.insertIfNew description.id description) ∅

def CombatInitialData.roles (data : CombatInitialData) : List (CombatCampData × CombatRoleData) :=
  data.camps.flatMap fun camp => camp.roles.map fun role => (camp, role)

/-- The role that a message asks for. -/
def CombatRoleData.asked (camp : CombatCampData) (data : CombatRoleData) (p : Ptr) :
    CombatRoleField where
  argentId := data.argentId
  campId := camp.id
  food := if camp.maxFood < camp.initFood then camp.maxFood else camp.initFood
  foodMax := camp.maxFood
  supply := 0
  supplyMax := 0
  elixir := if camp.maxElixir < camp.initElixir then camp.maxElixir else camp.initElixir
  elixirMax := camp.maxElixir
  buildingNum := data.buildings.length
  name := data.name
  combatField := some p
  warriorDescriptions := descriptions data.warriors
  appSession := none

/-- What an object may bring from the role that had it before. -/
structure CombatRoleField.Clean (role : CombatRoleField) (data : CombatRoleData) : Prop where
  supply : role.supply = 0
  supplyMax : role.supplyMax = 0
  descriptions : ∀ (id : Int) (description : WarriorDescription),
    role.warriorDescriptions[id]? = some description →
      (descriptions data.warriors)[id]? = some description

/-- What is made of an object. -/
def CombatRoleData.made (camp : CombatCampData) (data : CombatRoleData) (p : Ptr)
    (role : CombatRoleField) : CombatRoleField :=
  { data.warriors.foldl CombatRoleField.addWarriorDescription
      ((role.initializeRole data.argentId data.name).setCamp camp) with
    buildingNum := data.buildings.length
    combatField := some p }

theorem foldl_insertIfNew (warriors : List WarriorDescription)
    (known : ExtTreeMap Int WarriorDescription) (id : Int) :
    (warriors.foldl (fun known description => known.insertIfNew description.id description)
      known)[id]? = known[id]?.or (descriptions warriors)[id]? := by
  induction warriors generalizing known with
  | nil => simp [descriptions]
  | cons description warriors ih =>
    have hinsert : (known.insertIfNew description.id description)[id]? =
        known[id]?.or
          ((∅ : ExtTreeMap Int WarriorDescription).insertIfNew description.id description)[id]? := by
      cases hknown : known[id]? <;> grind
    rw [descriptions, List.foldl_cons, List.foldl_cons, ih, ih, hinsert, Option.or_assoc]

theorem made_eq_asked_iff (camp : CombatCampData) (data : CombatRoleData) (p : Ptr)
    (role : CombatRoleField) : data.made camp p role = data.asked camp p ↔ role.Clean data := by
  have hmade : data.made camp p role = { data.asked camp p with
      supply := role.supply
      supplyMax := role.supplyMax
      warriorDescriptions := data.warriors.foldl (fun known description =>
        known.insertIfNew description.id description) role.warriorDescriptions } := by
    rw [CombatRoleData.made, CombatRoleField.addWarriorDescriptions_eq]
    rfl
  rw [hmade]
  constructor
  · intro h
    simp only [CombatRoleData.asked, CombatRoleField.mk.injEq, true_and, and_true] at h
    obtain ⟨hsupply, hsupplyMax, hdescriptions⟩ := h
    refine ⟨hsupply, hsupplyMax, ?_⟩
    intro id description hknown
    rw [← hdescriptions, foldl_insertIfNew, hknown]
    rfl
  · intro h
    have hdescriptions : data.warriors.foldl (fun known description =>
        known.insertIfNew description.id description) role.warriorDescriptions =
        descriptions data.warriors := by
      ext1 id
      rw [foldl_insertIfNew]
      cases hknown : role.warriorDescriptions[id]? with
      | none => rfl
      | some description => rw [h.descriptions id description hknown, Option.or_self]
    rw [h.supply, h.supplyMax, hdescriptions]
    rfl

namespace CombatManagers

/-- The roles of the new combat at `p` are those of the message. -/
def StartsClean (s : CombatManagers) (p : Ptr) (data : CombatInitialData) : Prop :=
  ∀ x ∈ data.roles, ∃ q, s.roles[x.2.argentId]? = some q ∧ s.role q = x.2.asked x.1 p

/-! ## What holds on the way -/

/-- A role of the message with what the object brought that it was built on. -/
abbrev Built := (CombatCampData × CombatRoleData) × CombatRoleField

/-- The object at `q` holds the role. -/
structure Seat (s : CombatManagers) (p q : Ptr) (x : Built) : Prop where
  registered : s.roles[x.1.2.argentId]? = some q
  held : s.rolePool.Held q
  role : s.role q = x.1.2.made x.1.1 p x.2

def Seated (s : CombatManagers) (p : Ptr) (x : Built) : Prop := ∃ q, s.Seat p q x

end CombatManagers

def DeployItem.role? : DeployItem → Option (CombatCampData × CombatRoleData)
  | .role camp data => some (camp, data)
  | _ => none

/-- The number of buildings to come before the role at hand joins the combat. -/
def pendingBuildings : List DeployItem → Nat
  | .roleBuilding _ _ :: rest => pendingBuildings rest + 1
  | _ => 0

theorem pendingBuildings_append (campId : Int) (buildings : List BuildingDescription)
    (rest : List DeployItem) :
    pendingBuildings (buildings.map (.roleBuilding campId) ++ .joinRole :: rest) =
      buildings.length := by
  induction buildings with
  | nil => rfl
  | cons description buildings ih => simp [pendingBuildings, ih]

theorem filterMap_afterRole (camp : CombatCampData) (data : CombatRoleData) :
    (data.afterRole camp).filterMap DeployItem.role? = [] := by
  simp [CombatRoleData.afterRole, DeployItem.role?, List.filterMap_map, Function.comp_def]

theorem filterMap_items (data : CombatInitialData) :
    data.items.filterMap DeployItem.role? = data.roles := by
  have hcamp : ∀ camp : CombatCampData, camp.items.filterMap DeployItem.role? =
      camp.roles.map fun role => (camp, role) := by
    intro camp
    have hroles : ∀ roles : List CombatRoleData,
        (roles.flatMap (CombatRoleData.items camp)).filterMap DeployItem.role? =
          roles.map fun role => (camp, role) := by
      intro roles
      induction roles with
      | nil => rfl
      | cons role roles ih =>
        simp [CombatRoleData.items, filterMap_afterRole, DeployItem.role?, ih]
    simp [CombatCampData.items, hroles, DeployItem.role?, List.filterMap_map, Function.comp_def]
  simp only [CombatInitialData.items, CombatInitialData.roles]
  induction data.camps with
  | nil => rfl
  | cons camp camps ih => simp [hcamp, ih]

namespace CombatManagers

/-- The roles of `done` are deployed, those of `todo` will get the next objects. -/
structure Progress (s₀ : CombatManagers) (data : CombatInitialData) (p : Ptr) (done : List Built)
    (todo : List (CombatCampData × CombatRoleData)) (s : CombatManagers) : Prop where
  sound : s.rolePool.Sound
  roles : data.roles = done.map Prod.fst ++ todo
  objects : data.roles.zip (s₀.rolePool.handedOut data.roles.length) =
    done ++ todo.zip (s.rolePool.handedOut todo.length)
  seated : ∀ x ∈ done, s.Seated p x

/-- The role `x` at `q` is being deployed, with `k` buildings so far. -/
structure Underway (s₀ : CombatManagers) (data : CombatInitialData) (p q : Ptr) (done : List Built)
    (x : Built) (k : Nat) (todo : List (CombatCampData × CombatRoleData)) (s : CombatManagers) :
    Prop where
  sound : s.rolePool.Sound
  roles : data.roles = done.map Prod.fst ++ x.1 :: todo
  objects : data.roles.zip (s₀.rolePool.handedOut data.roles.length) =
    done ++ x :: todo.zip (s.rolePool.handedOut todo.length)
  seated : ∀ y ∈ done, ∃ q', s.Seat p q' y ∧ q' ≠ q
  registered : s.roles[x.1.2.argentId]? = some q
  held : s.rolePool.Held q
  role : ∃ c, s.role q = { x.1.2.made x.1.1 p x.2 with buildingNum := k, combatField := c }

variable {s₀ s s' : CombatManagers} {data : CombatInitialData} {p q q' : Ptr} {done : List Built}
  {x : Built} {k : Nat} {todo : List (CombatCampData × CombatRoleData)}

theorem Seat.change (h : s.Seat p q x) (hregistered : s'.roles[x.1.2.argentId]? = some q)
    (hheld : s'.rolePool.Held q) (hobject : s'.rolePool.objects q = s.rolePool.objects q) :
    s'.Seat p q x := by
  have hrole : s'.role q = s.role q := by simp only [CombatManagers.role, PoolTemplate.read, hobject]
  exact ⟨hregistered, hheld, hrole.trans h.role⟩

/-- Changing the role at hand. -/
theorem Underway.modifyRole (h : Underway s₀ data p q done x k todo s)
    {change : CombatRoleField → CombatRoleField} {k' : Nat}
    (hrole : ∃ c, change (s.role q) =
      { x.1.2.made x.1.1 p x.2 with buildingNum := k', combatField := c }) :
    Underway s₀ data p q done x k' todo (s.modifyRole q change) := by
  constructor
  · exact h.sound.modify q change
  · exact h.roles
  · rw [h.objects]
    exact congrArg (fun l => done ++ x :: todo.zip l)
      (PoolTemplate.handedOut_modify h.sound h.held change todo.length).symm
  · intro y hy
    obtain ⟨q', hseat, hne⟩ := h.seated y hy
    refine ⟨q', hseat.change hseat.registered ?_ ?_, hne⟩
    · exact (PoolTemplate.held_modify change).mpr hseat.held
    · exact PoolTemplate.modify_other _ hne change
  · exact h.registered
  · exact (PoolTemplate.held_modify change).mpr h.held
  · rw [modifyRole_role h.held.1]
    exact hrole

theorem Underway.roleBuilding {campId : Int} {description : BuildingDescription}
    (h : Underway s₀ data p q done x k todo s) :
    Ends (Underway s₀ data p q done x (k + 1) todo) (fun _ => True)
      (deployRoleBuilding p q campId s description) := by
  simp only [deployRoleBuilding, allocateBuilding]
  cases s.buildingAnswers.headD false with
  | false => trivial
  | true =>
    have hraised : Underway s₀ data p q done x k todo
        ({ s with buildingAnswers := s.buildingAnswers.tail }.raiseBuilding p
          (s.role q).argentId campId description) := by
      refine ⟨h.sound, h.roles, h.objects, ?_, h.registered, h.held, h.role⟩
      intro y hy
      obtain ⟨q', hseat, hne⟩ := h.seated y hy
      exact ⟨q', hseat.change hseat.registered hseat.held rfl, hne⟩
    obtain ⟨c, hrole⟩ := hraised.role
    refine hraised.modifyRole ⟨c, ?_⟩
    rw [hrole]
    rfl

theorem Underway.joinRole (h : Underway s₀ data p q done x x.1.2.buildings.length todo s) :
    Progress s₀ data p (done ++ [x]) todo (s.joinRole p (s.role q).argentId) := by
  obtain ⟨c, hrole⟩ := h.role
  have hargentId : (s.role q).argentId = x.1.2.argentId := by
    rw [hrole, CombatRoleData.made, CombatRoleField.addWarriorDescriptions_eq]
    rfl
  have hjoin : s.joinRole p (s.role q).argentId = (s.modifyCombat p fun combat =>
      { combat with roles := combat.roles.insert x.1.2.argentId }).modifyRole q
        fun role => { role with combatField := some p } := by
    simp only [CombatManagers.joinRole, hargentId, h.registered]
  have hunjoined : Underway s₀ data p q done x x.1.2.buildings.length todo (s.modifyCombat p
      fun combat => { combat with roles := combat.roles.insert x.1.2.argentId }) := by
    refine ⟨h.sound, h.roles, h.objects, ?_, h.registered, h.held, h.role⟩
    intro y hy
    obtain ⟨q', hseat, hne⟩ := h.seated y hy
    exact ⟨q', hseat.change hseat.registered hseat.held rfl, hne⟩
  have hjoined : Underway s₀ data p q done x x.1.2.buildings.length todo ((s.modifyCombat p
      fun combat => { combat with roles := combat.roles.insert x.1.2.argentId }).modifyRole q
        fun role => { role with combatField := some p }) := by
    refine hunjoined.modifyRole ⟨some p, ?_⟩
    obtain ⟨c, hrole⟩ := hunjoined.role
    rw [hrole]
  rw [hjoin]
  constructor
  · exact hjoined.sound
  · rw [hjoined.roles]
    simp
  · rw [hjoined.objects]
    simp
  · intro y hy
    rcases List.mem_append.mp hy with hin | hlast
    · obtain ⟨q', hseat, _⟩ := hjoined.seated y hin
      exact ⟨q', hseat⟩
    · obtain rfl := List.mem_singleton.mp hlast
      refine ⟨q, hjoined.registered, hjoined.held, ?_⟩
      rw [modifyRole_role hunjoined.held.1]
      obtain ⟨c, hrole⟩ := hunjoined.role
      rw [hrole]
      rfl

theorem Progress.registerRole {camp : CombatCampData} {role : CombatRoleData}
    (h : Progress s₀ data p done ((camp, role) :: todo) s) :
    Ends (fun r => ∃ object, Underway s₀ data p r.1 done ((camp, role), object) 0 todo r.2)
      (fun _ => True) (s.registerRole p camp role) := by
  obtain ⟨answer, pool, hanswer⟩ : ∃ answer pool, s.rolePool.allocate = (answer, pool) :=
    ⟨_, _, rfl⟩
  have hgrown := PoolTemplate.allocate_grown h.sound
  rw [hanswer] at hgrown
  simp only [CombatManagers.registerRole, allocateRole, hanswer]
  cases answer with
  | none => trivial
  | some q =>
    obtain ⟨hheld, hnew⟩ := PoolTemplate.allocate_held h.sound hanswer
    have hrole := modifyRole_role (s := { s with rolePool := pool }) hheld.1 fun object =>
      (object.initializeRole role.argentId role.name).setCamp camp
    obtain ⟨set, hset⟩ : ∃ set, ({ s with rolePool := pool }.modifyRole q fun object =>
      (object.initializeRole role.argentId role.name).setCamp camp) = set := ⟨_, rfl⟩
    rw [hset] at hrole
    have hargentId : (set.role q).argentId = role.argentId := by
      rw [hrole]
      rfl
    simp only [hset]
    by_cases htaken : (set.role q).argentId ∈ set.roles
    · rw [addRole_taken htaken]
      trivial
    · rw [addRole_free htaken]
      refine ⟨pool.read q, ?_⟩
      have hroles : set.roles = s.roles := by rw [← hset]; rfl
      have hpool : set.rolePool = pool.modify q fun object =>
          (object.initializeRole role.argentId role.name).setCamp camp := by rw [← hset]; rfl
      have hheld' : set.rolePool.Sound ∧ set.rolePool.Held q := by
        rw [hpool]
        exact ⟨hgrown.sound.modify q _, (PoolTemplate.held_modify _).mpr hheld⟩
      rw [hargentId, hroles] at htaken
      constructor
      · exact hheld'.1.modify q _
      · exact h.roles
      · have hhanded : s.rolePool.handedOut (todo.length + 1) =
            pool.read q :: pool.handedOut todo.length := by
          simp only [PoolTemplate.handedOut, hanswer]
        have hsame : (set.rolePool.modify q fun object =>
            role.warriors.foldl CombatRoleField.addWarriorDescription object).handedOut
              todo.length = pool.handedOut todo.length := by
          rw [PoolTemplate.handedOut_modify hheld'.1 hheld'.2, hpool,
            PoolTemplate.handedOut_modify hgrown.sound hheld]
        rw [h.objects, List.length_cons, hhanded]
        exact congrArg (fun l => done ++ ((camp, role), pool.read q) :: todo.zip l) hsame.symm
      · intro y hy
        obtain ⟨q', hseat⟩ := h.seated y hy
        have hne : q' ≠ q := fun heq => hnew (heq ▸ hseat.held)
        refine ⟨q', hseat.change ?_ ?_ ?_, hne⟩
        · have hregistered := hseat.registered
          have hinsert : (set.roles.insert (set.role q).argentId q)[y.1.2.argentId]? = some q' := by
            rw [hargentId, hroles]
            grind
          exact hinsert
        · refine (PoolTemplate.held_modify _).mpr ?_
          have hkept : set.rolePool.Held q' := by
            rw [hpool]
            exact (PoolTemplate.held_modify _).mpr (hgrown.held hseat.held)
          exact hkept
        · obtain ⟨e, he⟩ := Option.isSome_iff_exists.mp hseat.held.1
          refine (PoolTemplate.modify_other _ hne _).trans ?_
          refine (congrArg (fun pool => pool.objects q') hpool).trans ?_
          rw [PoolTemplate.modify_other _ hne, hgrown.some he, he]
      · have hinsert : (set.roles.insert (set.role q).argentId q)[role.argentId]? = some q := by
          rw [hargentId]
          simp
        exact hinsert
      · exact (PoolTemplate.held_modify _).mpr hheld'.2
      · refine ⟨(pool.read q).combatField, ?_⟩
        have hrole' : (role.warriors.foldl CombatRoleField.addWarriorDescription (set.role q)) =
            { role.made camp p (pool.read q) with
              buildingNum := 0
              combatField := (pool.read q).combatField } := by
          rw [hrole, CombatRoleData.made, CombatRoleField.addWarriorDescriptions_eq,
            CombatRoleField.addWarriorDescriptions_eq]
          rfl
        exact (PoolTemplate.read_modify hheld'.2.1 _).trans hrole'

/-! ## The request -/

theorem cleanRule (s₀ : CombatManagers) (data : CombatInitialData) (p : Ptr) :
    DeployRule p
      (fun items s => ∃ done, Progress s₀ data p done (items.filterMap DeployItem.role?) s)
      (fun q items s => ∃ done x k, k + pendingBuildings items = x.1.2.buildings.length ∧
        Underway s₀ data p q done x k (items.filterMap DeployItem.role?) s)
      (fun _ => True) := by
  constructor
  · rintro camp role rest s ⟨done, h⟩
    simp only [CombatRoleData.items, List.cons_append, List.filterMap_cons, DeployItem.role?,
      List.filterMap_append, filterMap_afterRole, List.nil_append] at h
    refine h.registerRole.mono ?_ fun _ h => h
    rintro ⟨q, s'⟩ ⟨object, h'⟩
    refine ⟨done, ((camp, role), object), 0, ?_, ?_⟩
    · simp [CombatRoleData.afterRole, pendingBuildings_append]
    · simpa [List.filterMap_append, filterMap_afterRole] using h'
  · rintro q campId description rest s ⟨done, x, k, hk, h⟩
    refine h.roleBuilding.mono ?_ fun _ h => h
    intro s' h'
    refine ⟨done, x, k + 1, ?_, h'⟩
    simp only [pendingBuildings] at hk
    omega
  · rintro q rest s ⟨done, x, k, hk, h⟩
    obtain rfl : k = x.1.2.buildings.length := hk
    exact ⟨done ++ [x], h.joinRole⟩
  · rintro campId description rest s ⟨done, h⟩
    simp only [deployCampBuilding, allocateBuilding]
    cases s.buildingAnswers.headD false with
    | false => trivial
    | true =>
      refine ⟨done, h.sound, h.roles, h.objects, ?_⟩
      intro x hx
      obtain ⟨q, hseat⟩ := h.seated x hx
      exact ⟨q, hseat.change hseat.registered hseat.held rfl⟩

theorem Garrisoned.startsClean_iff {s s' : CombatManagers} {session : SessionPtr} {p : Ptr}
    {data : CombatInitialData} (h : s.Garrisoned)
    (hdeployed : s.deployCombat session data = .ok (p, s')) :
    s'.StartsClean p data ↔ ∀ x ∈ data.roles.zip (s.rolePool.handedOut data.roles.length),
      x.2.Clean x.1.2 := by
  obtain ⟨opened, hopened, _, hloop⟩ := deployCombat_ok h.combatPool hdeployed
  have hstart : Progress s data p [] (data.items.filterMap DeployItem.role?)
      { opened with combats := opened.combats.insert s.combatIds p } := by
    rw [filterMap_items]
    constructor
    · rw [hopened.rolePool]
      exact h.rolePool
    · rfl
    · rw [hopened.rolePool]
      rfl
    · simp
  obtain ⟨done, hdone⟩ := ((cleanRule s data p).ends_deployCamps ⟨[], hstart⟩).ok hloop
  have hroles := hdone.roles
  have hobjects := hdone.objects
  simp only [List.filterMap_nil, List.append_nil, List.zip_nil_left] at hroles hobjects
  rw [hobjects]
  constructor
  · intro hclean x hx
    obtain ⟨q, hseat⟩ := hdone.seated x hx
    obtain ⟨q', hregistered, hrole⟩ := hclean x.1 (by
      rw [hroles]
      exact List.mem_map_of_mem hx)
    obtain rfl : q = q' := Option.some.inj (hseat.registered.symm.trans hregistered)
    rw [← made_eq_asked_iff x.1.1 x.1.2 p, ← hseat.role, hrole]
  · intro hclean y hy
    rw [hroles] at hy
    obtain ⟨x, hx, rfl⟩ := List.mem_map.mp hy
    obtain ⟨q, hseat⟩ := hdone.seated x hx
    refine ⟨q, hseat.registered, ?_⟩
    rw [hseat.role]
    exact (made_eq_asked_iff x.1.1 x.1.2 p x.2).mpr (hclean x hx)

/-- In every state of the server the roles of a new combat are those of its message if and only
if the objects that the pool hands out for them are clean. -/
theorem deployCombat_startsClean_iff (configs : Server.Configs) (memory : Server.Memory)
    (s : Server)
    (hs : Reaches (fun s a => some (Server.step s a)) (fun _ _ => True)
      (Server.started configs memory) s) {s' : CombatManagers} {session : SessionPtr} {p : Ptr}
    {data : CombatInitialData} (hdeployed : s.managers.deployCombat session data = .ok (p, s')) :
    s'.StartsClean p data ↔
      ∀ x ∈ data.roles.zip (s.managers.rolePool.handedOut data.roles.length), x.2.Clean x.1.2 :=
  (Server.reaches_garrisoned hs).startsClean_iff hdeployed

/-- One role with one building of this supply and one kind of warriors, which has the given
attack. -/
def suppliedRequest (attack supply : Int) : CombatInitialData where
  mapId := 1
  maxTime := 60
  camps := [
    { id := 1
      initFood := 10
      maxFood := 100
      initElixir := 10
      maxElixir := 100
      roles := [⟨7, "role", [⟨1, 1, 10, attack, 0, 1, 1, 1, 1, 0, 0⟩],
        [⟨1, 1, 50, 0, 0, 1, supply, 1, 1⟩]⟩]
      buildings := [] }]

def attackRequest (attack : Int) : CombatInitialData := suppliedRequest attack 5

def reuseServer : Server :=
  .small (fun _ => none) ⟨[some 0], [some 0], [true, true], [], [some 0], [], [], [], [some 0]⟩

/-- A combat without supply was deployed, begun and settled. -/
def settledOnce : Server :=
  (((reuseServer.step (.accept 0)).step (.deploy 0 5 (suppliedRequest 20 0))).step
    (.begin 0 0)).step (.expire 1)

/-- Its role comes back, and brings nothing that the next request does not ask for. -/
theorem deployCombat_startsClean_settledOnce : ∃ p s',
    settledOnce.managers.deployCombat 0 (suppliedRequest 20 0) = .ok (p, s') ∧
      s'.StartsClean p (suppliedRequest 20 0) := by
  have hreaches : Reaches (fun s a => some (Server.step s a)) (fun _ _ => True) reuseServer
      settledOnce :=
    (((Reaches.refl.snoc (.accept 0) trivial rfl).snoc (.deploy 0 5 (suppliedRequest 20 0)) trivial
      rfl).snoc (.begin 0 0) trivial rfl).snoc (.expire 1) trivial rfl
  cases h : settledOnce.managers.deployCombat 0 (suppliedRequest 20 0) with
  | error s' =>
    have hok : (settledOnce.managers.deployCombat 0 (suppliedRequest 20 0)).toOption.isSome := by
      decide
    simp [h, Except.toOption] at hok
  | ok r =>
    refine ⟨r.1, r.2, rfl, (deployCombat_startsClean_iff _ _ _ hreaches h).mpr ?_⟩
    have hhanded : settledOnce.managers.rolePool.handedOut (suppliedRequest 20 0).roles.length =
      [settledOnce.managers.role 0] := rfl
    rw [hhanded]
    intro x hx
    have hx1 : x.1.2 = ⟨7, "role", [⟨1, 1, 10, 20, 0, 1, 1, 1, 1, 0, 0⟩],
        [⟨1, 1, 50, 0, 0, 1, 0, 1, 1⟩]⟩ :=
      congrArg Prod.snd (List.mem_singleton.mp (List.of_mem_zip hx).1)
    have hx2 : x.2 = settledOnce.managers.role 0 := List.mem_singleton.mp (List.of_mem_zip hx).2
    rw [hx1, hx2]
    constructor
    · decide
    · decide
    · intro id description hknown
      have hsame : (settledOnce.managers.role 0).warriorDescriptions =
          descriptions [⟨1, 1, 10, 20, 0, 1, 1, 1, 1, 0, 0⟩] := rfl
      rwa [hsame] at hknown

/-- The supply maximum of role 7 and the attack of its warriors once the request succeeded. -/
def startOf (s : Server) : Option (Option (Int × Option Int)) :=
  (s.managers.deployCombat 0 (attackRequest 20)).toOption.map fun r =>
    r.2.roles[(7 : UInt64)]?.map fun q =>
      ((r.2.role q).supplyMax, (r.2.role q).warriorDescriptions[(1 : Int)]?.map (·.attack))

/-- After two histories one request starts two different roles. -/
theorem deployCombat_startsClean_reused :
    startOf (reuseServer.run [.accept 0]) = some (some (0, some 20)) ∧
    startOf (reuseServer.run [.accept 0, .deploy 0 5 (attackRequest 10), .begin 0 0, .expire 1]) =
      some (some (5, some 10)) := by
  constructor
  · decide
  · decide

end CombatManagers

end Mysya
