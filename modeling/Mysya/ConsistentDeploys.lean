import Mysya.CleanStart
import Mysya.ConsistentCombats
import Mysya.DeployFailures
import Mysya.MapSums

/-!
# Deploying keeps the combats consistent

A deploy request only works on objects that were not handed out, and after each of its
steps the managers are consistent but for the role at hand. A combat that is deployed
has no warriors yet, and each of its roles knows the number of its buildings.
-/

open Std Attempts MapSums

namespace Mysya

/-- The number of buildings of a combat whose host is the role. -/
def CombatField.buildingsOf (combat : CombatField) (r : UInt64) : Int :=
  total (fun building => if building.hostId = r then 1 else 0) combat.buildings

/-- No role has the argent id of the host of a camp's own buildings. -/
def CombatInitialData.Unmixed (data : CombatInitialData) : Prop :=
  (∀ camp ∈ data.camps, camp.buildings = []) ∨ ∀ x ∈ data.roles, x.2.argentId ≠ 0

instance (data : CombatInitialData) : Decidable data.Unmixed :=
  inferInstanceAs (Decidable ((∀ camp ∈ data.camps, camp.buildings = []) ∨
    ∀ x ∈ data.roles, x.2.argentId ≠ 0))

namespace CombatManagers

variable {s₀ s s' : CombatManagers} {p q : Ptr} {r : UInt64} {pending : Option UInt64}

/-! ## Frames -/

/-- What was handed out in `s` is in `s'` as it was. -/
structure Kept (s s' : CombatManagers) : Prop where
  combat : ∀ p, s.combatPool.Held p →
    s'.combatPool.Held p ∧ s'.combatPool.objects p = s.combatPool.objects p
  role : ∀ q, s.rolePool.Held q →
    s'.rolePool.Held q ∧ s'.rolePool.objects q = s.rolePool.objects q

theorem Kept.refl (s : CombatManagers) : Kept s s :=
  ⟨fun _ hp => ⟨hp, rfl⟩, fun _ hq => ⟨hq, rfl⟩⟩

theorem Kept.combat_eq (h : Kept s s') (hp : s.combatPool.Held p) : s'.combat p = s.combat p := by
  simp only [CombatManagers.combat, PoolTemplate.read, (h.combat p hp).2]

theorem Kept.role_eq (h : Kept s s') (hq : s.rolePool.Held q) : s'.role q = s.role q := by
  simp only [CombatManagers.role, PoolTemplate.read, (h.role q hq).2]

theorem Kept.modifyCombat (h : Kept s₀ s) (hp : ¬ s₀.combatPool.Held p)
    (change : CombatField → CombatField) : Kept s₀ (s.modifyCombat p change) := by
  refine ⟨?_, h.role⟩
  intro p' hp'
  have hne : p' ≠ p := by
    rintro rfl
    exact hp hp'
  obtain ⟨hheld, hsame⟩ := h.combat p' hp'
  exact ⟨(PoolTemplate.held_modify change).mpr hheld,
    (PoolTemplate.modify_other _ hne change).trans hsame⟩

theorem Kept.modifyRole (h : Kept s₀ s) (hq : ¬ s₀.rolePool.Held q)
    (change : CombatRoleField → CombatRoleField) : Kept s₀ (s.modifyRole q change) := by
  refine ⟨h.combat, ?_⟩
  intro q' hq'
  have hne : q' ≠ q := by
    rintro rfl
    exact hq hq'
  obtain ⟨hheld, hsame⟩ := h.role q' hq'
  exact ⟨(PoolTemplate.held_modify change).mpr hheld,
    (PoolTemplate.modify_other _ hne change).trans hsame⟩

theorem Kept.grown {pool : PoolTemplate CombatRoleField} (h : Kept s₀ s)
    (hgrown : PoolTemplate.Grown s.rolePool pool) : Kept s₀ { s with rolePool := pool } := by
  refine ⟨h.combat, ?_⟩
  intro q hq
  obtain ⟨hheld, hsame⟩ := h.role q hq
  refine ⟨hgrown.held hheld, ?_⟩
  obtain ⟨e, he⟩ := Option.isSome_iff_exists.mp hheld.1
  rw [← hsame, he]
  exact hgrown.some he

/-- Taking down a combat whose roles are all new. -/
theorem Kept.takenDown {c : Int} (h : Kept s₀ s) (ht : TakenDown s c p s')
    (hp : ¬ s₀.combatPool.Held p)
    (hfresh : ∀ (r : UInt64) (q : Ptr), r ∈ (s.combat p).roles → s.roles[r]? = some q →
      ¬ s₀.rolePool.Held q) : Kept s₀ s' := by
  constructor
  · intro p' hp'
    have hne : p' ≠ p := by
      rintro rfl
      exact hp hp'
    obtain ⟨hheld, hsame⟩ := h.combat p' hp'
    obtain ⟨hheld', hsame'⟩ := ht.combat p' hheld hne
    exact ⟨hheld', hsame'.trans hsame⟩
  · intro q hq
    obtain ⟨hheld, hsame⟩ := h.role q hq
    obtain ⟨hheld', hsame'⟩ := ht.role q hheld fun r hr hq' => hfresh r q hr hq' hq
    exact ⟨hheld', hsame'.trans hsame⟩

/-! ## The steps keep the managers consistent -/

theorem Consistent.grown {pool : PoolTemplate CombatRoleField} (h : s.Consistent pending)
    (hgrown : PoolTemplate.Grown s.rolePool pool) :
    ({ s with rolePool := pool } : CombatManagers).Consistent pending := by
  have hkept := (Kept.refl s).grown hgrown
  refine h.alike ?_ fun c p hc => (h.fielded c p hc).same rfl rfl
  constructor
  · exact id
  · exact fun p => Iff.rfl
  · exact fun _ => hgrown.sound
  · exact fun _ q _ hq => (hkept.role q hq).1
  · rfl
  · rfl
  · rfl
  · exact fun session x p hx hp => ⟨x, hx, hp⟩
  · exact fun session x p _ _ => rfl
  · exact fun p => ⟨rfl, rfl⟩
  · intro _ q _ hq
    rw [hkept.role_eq hq]
    exact ⟨rfl, rfl, id⟩
  · exact fun p _ => rfl

/-- Giving back a role that is not registered. -/
theorem Consistent.abandonRole (h : s.Consistent pending) (hq : s.rolePool.Held q)
    (hfree : ∀ r : UInt64, s.roles[r]? ≠ some q) (hunconnected : (s.role q).appSession = none) :
    (s.abandonRole q).Consistent pending := by
  have hsound := h.sound.modify q CombatRoleField.finalize
  have hheld : (s.rolePool.modify q CombatRoleField.finalize).Held q :=
    (PoolTemplate.held_modify _).mpr hq
  have hother : ∀ (r : UInt64) (q' : Ptr), s.roles[r]? = some q' → q' ≠ q := by
    rintro r q' hq' rfl
    exact hfree r hq'
  rw [abandonRole_eq hunconnected]
  refine h.alike ?_ fun c p hc => (h.fielded c p hc).same rfl rfl
  constructor
  · exact id
  · exact fun p => Iff.rfl
  · exact fun _ => (PoolTemplate.deallocate_reduced hsound hheld).sound
  · intro r q' hreg hq'
    exact PoolTemplate.deallocate_held hsound hheld ((PoolTemplate.held_modify _).mpr hq')
      (hother r q' hreg)
  · rfl
  · rfl
  · rfl
  · exact fun session x p hx hp => ⟨x, hx, hp⟩
  · exact fun session x p _ _ => rfl
  · exact fun p => ⟨rfl, rfl⟩
  · intro r q' hreg hq'
    have hne := hother r q' hreg
    have hkept : (s.rolePool.modify q CombatRoleField.finalize).Held q' :=
      (PoolTemplate.held_modify _).mpr hq'
    have hobject : ((s.rolePool.modify q CombatRoleField.finalize).deallocate q).objects q' =
        s.rolePool.objects q' := by
      rw [PoolTemplate.deallocate_objects hsound hheld hkept.2 hne,
        PoolTemplate.modify_other _ hne]
    have hsame : ({ s with rolePool := (s.rolePool.modify q CombatRoleField.finalize).deallocate q }
        : CombatManagers).role q' = s.role q' := by
      simp only [CombatManagers.role, PoolTemplate.read, hobject]
    rw [hsame]
    exact ⟨rfl, rfl, id⟩
  · exact fun p _ => rfl

theorem Kept.abandonRole (h : Kept s₀ s) (hsound : s.rolePool.Sound) (hq : s.rolePool.Held q)
    (hnew : ¬ s₀.rolePool.Held q) (hunconnected : (s.role q).appSession = none) :
    Kept s₀ (s.abandonRole q) := by
  rw [abandonRole_eq hunconnected]
  refine ⟨h.combat, ?_⟩
  intro q' hq'
  have hne : q' ≠ q := by
    rintro rfl
    exact hnew hq'
  obtain ⟨hheld, hsame⟩ := h.role q' hq'
  have hheld' : (s.rolePool.modify q CombatRoleField.finalize).Held q' :=
    (PoolTemplate.held_modify _).mpr hheld
  have hback : (s.rolePool.modify q CombatRoleField.finalize).Held q :=
    (PoolTemplate.held_modify _).mpr hq
  refine ⟨PoolTemplate.deallocate_held (hsound.modify q _) hback hheld' hne, ?_⟩
  rw [← hsame]
  exact (PoolTemplate.deallocate_objects (hsound.modify q _) hback hheld'.2 hne).trans
    (PoolTemplate.modify_other _ hne _)

/-- Registering a role. -/
theorem Consistent.register (h : s.Consistent none) (hq : s.rolePool.Held q)
    (hnew : (s.role q).argentId ∉ s.roles)
    (hfood : (s.role q).food ≤ (s.role q).foodMax) :
    ({ s with roles := s.roles.insert (s.role q).argentId q } : CombatManagers).Consistent
      (some (s.role q).argentId) := by
  have hlookup : ∀ r : UInt64, (s.roles.insert (s.role q).argentId q)[r]? =
      if r = (s.role q).argentId then some q else s.roles[r]? := by grind
  have hkept : ∀ {r : UInt64} {q' : Ptr}, s.roles[r]? = some q' →
      (s.roles.insert (s.role q).argentId q)[r]? = some q' := by
    intro r q' hq'
    have hne : r ≠ (s.role q).argentId := by
      rintro rfl
      exact hnew (ExtTreeMap.mem_iff_isSome_getElem?.mpr (by simp [hq']))
    rw [hlookup, if_neg hne, hq']
  constructor
  · constructor
    · constructor
      · exact h.sound
      · intro r q' hq'
        rw [hlookup] at hq'
        split at hq'
        · obtain rfl := Option.some.inj hq'
          exact hq
        · exact h.held r q' hq'
    · exact h.combatPool
    · exact h.connected
    · exact h.cleared
  · exact h.combats
  · intro c p hc
    have hfielded := h.fielded c p hc
    constructor
    · intro id w hw
      obtain ⟨hid, hhost, hrole⟩ := hfielded.warriors id w hw
      exact ⟨hid, hhost, hkept hrole⟩
    · exact hfielded.buildings
  · intro c p r hc hr
    obtain ⟨q', hq', hcombat⟩ := h.members c p r hc hr
    exact ⟨q', hkept hq', hcombat⟩
  · intro r q' hq'
    rw [hlookup] at hq'
    split at hq'
    · rename_i heq
      obtain rfl := Option.some.inj hq'
      exact ⟨heq.symm, hfood⟩
    · exact h.roles r q' hq'
  · intro r q' hq'
    rw [hlookup] at hq'
    split at hq'
    · rename_i heq
      exact Or.inl (congrArg some heq.symm)
    · rcases h.joined r q' hq' with hnone | hin
      · cases hnone
      · exact Or.inr hin
  · intro r c p hpending hc hr
    obtain rfl := Option.some.inj hpending
    obtain ⟨q', hq', _⟩ := h.members c p _ hc hr
    exact hnew (ExtTreeMap.mem_iff_isSome_getElem?.mpr (by simp [hq']))
  · exact h.emptied
  · exact h.linked

/-- The next id of a combat. -/
theorem Consistent.allocateId {c : Int} (h : s.Consistent pending) (hc : s.combats[c]? = some p) :
    (s.allocateId p).2.Consistent pending := by
  refine h.modifyCombat hc rfl rfl rfl fun hfielded => ?_
  have hcombat := modifyCombat_combat (h.combats c p hc).1.1 fun combat =>
    { combat with idAlloctor := (s.combat p).idAlloctor + 1 }
  constructor
  · rw [hcombat]
    intro id w hw
    obtain ⟨hid, hhost⟩ := hfielded.warriors id w hw
    exact ⟨Int.le_add_one hid, hhost⟩
  · rw [hcombat]
    intro id b hb
    obtain ⟨hid, hbuilding⟩ := hfielded.buildings id b hb
    exact ⟨Int.le_add_one hid, hbuilding⟩

theorem Consistent.raiseBuilding {c : Int} (h : s.Consistent pending)
    (hc : s.combats[c]? = some p) (hostId : UInt64) (campId : Int)
    (description : BuildingDescription) :
    (s.raiseBuilding p hostId campId description).Consistent pending := by
  have hlive := (h.combats c p hc).1.1
  have hnext := modifyCombat_combat hlive fun combat =>
    { combat with idAlloctor := (s.combat p).idAlloctor + 1 }
  have hlive' : ((s.allocateId p).2.combatPool.objects p).isSome :=
    (PoolTemplate.modify_isSome _).trans hlive
  refine (h.allocateId hc).modifyCombat (c := c) hc rfl rfl rfl fun hfielded => ?_
  have hcombat := modifyCombat_combat hlive' fun combat => combat.addBuilding
    (.initializeBuilding ((s.combat p).idAlloctor + 1) hostId campId description)
  constructor
  · rw [hcombat]
    exact hfielded.warriors
  · rw [hcombat]
    intro id b hb
    simp only [CombatField.addBuilding, CombatBuildingField.initializeBuilding,
      ExtTreeMap.getElem?_insertIfNew] at hb
    split at hb
    · rename_i hid
      obtain rfl := Option.some.inj hb
      obtain rfl := Std.compare_eq_iff_eq.mp hid.1
      refine ⟨?_, rfl⟩
      simp only [CombatField.addBuilding, CombatManagers.allocateId]
      refine Int.le_of_eq ?_
      rw [hnext]
    · exact hfielded.buildings id b hb

/-- The role at hand joins the combat that is being deployed. -/
theorem Consistent.joinRole {c : Int} (h : s.Consistent (some r)) (hc : s.combats[c]? = some p)
    (hq : s.roles[r]? = some q) : (s.joinRole p r).Consistent none := by
  have hlive := (h.combats c p hc).1.1
  have hjoin : s.joinRole p r = (s.modifyCombat p fun combat =>
      { combat with roles := combat.roles.insert r }).modifyRole q
        fun role => { role with combatField := some p } := by
    simp only [CombatManagers.joinRole, hq]
  have hcombat := modifyCombat_combat hlive fun combat =>
    { combat with roles := combat.roles.insert r }
  have hself : (s.joinRole p r).combat p =
      { s.combat p with roles := (s.combat p).roles.insert r } := by
    rw [hjoin]
    exact hcombat
  have hother : ∀ {p' : Ptr}, p' ≠ p → (s.joinRole p r).combat p' = s.combat p' := by
    intro p' hne
    rw [hjoin]
    exact PoolTemplate.read_modify_other _ hne _
  have hmember : ∀ (p' : Ptr) (r' : UInt64), r' ∈ ((s.joinRole p r).combat p').roles ↔
      r' ∈ (s.combat p').roles ∨ p' = p ∧ r' = r := by
    intro p' r'
    by_cases hne : p' = p
    · rw [hne, hself, ExtTreeSet.mem_insert, Std.compare_eq_iff_eq, or_comm, eq_comm (a := r)]
      simp
    · rw [hother hne]
      simp [hne]
  have hrole : ∀ q', (s.joinRole p r).role q' =
      { s.role q' with combatField := if q' = q then some p else (s.role q').combatField } := by
    intro q'
    rw [hjoin]
    by_cases hne : q' = q
    · rw [if_pos hne, hne]
      exact modifyRole_role (s := s.modifyCombat p _) (h.held r q hq).1 _
    · rw [if_neg hne]
      exact PoolTemplate.read_modify_other _ hne _
  have hheld : ∀ {q'}, s.rolePool.Held q' → (s.joinRole p r).rolePool.Held q' := by
    intro q' hq'
    rw [hjoin]
    exact (PoolTemplate.held_modify _).mpr hq'
  have hcombats : (s.joinRole p r).combats = s.combats := by rw [hjoin]; rfl
  have hroles : (s.joinRole p r).roles = s.roles := by rw [hjoin]; rfl
  have hsessions : (s.joinRole p r).sessions = s.sessions := by rw [hjoin]; rfl
  have hcheld : ∀ {p'}, (s.joinRole p r).combatPool.Held p' ↔ s.combatPool.Held p' := by
    intro p'
    rw [hjoin]
    exact PoolTemplate.held_modify _
  have hfree : ∀ {p'}, ¬ (s.joinRole p r).combatPool.Held p' → p' ≠ p := by
    rintro p' hp' rfl
    exact hp' (hcheld.mpr (h.combats c p' hc).1)
  constructor
  · constructor
    · constructor
      · rw [hjoin]
        exact h.sound.modify q _
      · intro r' q' hq'
        rw [hroles] at hq'
        exact hheld (h.held r' q' hq')
    · rw [hjoin]
      exact h.combatPool.modify p _
    · intro session x p' hx hp'
      rw [hsessions] at hx
      exact hcheld.mpr (h.connected session x p' hx hp')
    · intro p' hp'
      rw [hother (hfree hp')]
      exact h.cleared p' fun hin => hp' (hcheld.mpr hin)
  · intro c' p' hc'
    rw [hcombats] at hc'
    obtain ⟨hin, hid, hlt⟩ := h.combats c' p' hc'
    refine ⟨hcheld.mpr hin, ?_, ?_⟩
    · by_cases hne : p' = p
      · rw [hne] at hid ⊢
        rw [hself]
        exact hid
      · rw [hother hne]
        exact hid
    · rw [hjoin]
      exact hlt
  · intro c' p' hc'
    rw [hcombats] at hc'
    have hfielded := h.fielded c' p' hc'
    by_cases hne : p' = p
    · subst hne
      constructor
      · rw [hroles, hself]
        intro id w hw
        obtain ⟨hid, hhost, hlead⟩ := hfielded.warriors id w hw
        exact ⟨hid, ExtTreeSet.mem_insert.mpr (Or.inr hhost), hlead⟩
      · rw [hself]
        exact hfielded.buildings
    · exact hfielded.same (hother hne) hroles
  · intro c' p' r' hc' hr'
    rw [hcombats] at hc'
    rw [hroles]
    rcases (hmember p' r').mp hr' with hin | ⟨rfl, rfl⟩
    · obtain ⟨q', hq', hfield⟩ := h.members c' p' r' hc' hin
      refine ⟨q', hq', ?_⟩
      have hne : q' ≠ q := by
        rintro rfl
        have heq := h.alone r r' q' hq hq'
        exact h.apart r c' p' rfl hc' (heq ▸ hin)
      rw [hrole, if_neg hne]
      exact hfield
    · refine ⟨q, hq, ?_⟩
      rw [hrole, if_pos rfl]
  · intro r' q' hq'
    rw [hroles] at hq'
    rw [hrole]
    exact h.roles r' q' hq'
  · intro r' q' hq'
    rw [hroles] at hq'
    refine Or.inr ?_
    rw [hcombats]
    rcases h.joined r' q' hq' with hpending | ⟨c', p', hc', hin⟩
    · exact ⟨c, p, hc, (hmember p r').mpr (Or.inr ⟨rfl, (Option.some.inj hpending).symm⟩)⟩
    · exact ⟨c', p', hc', (hmember p' r').mpr (Or.inl hin)⟩
  · simp
  · intro p' hp'
    rw [hother (hfree hp')]
    exact h.emptied p' fun hin => hp' (hcheld.mpr hin)
  · intro session x p' hx hp'
    rw [hsessions] at hx
    have happ := h.linked session x p' hx hp'
    by_cases hne : p' = p
    · rw [hne] at happ ⊢
      rw [hself]
      exact happ
    · rw [hother hne]
      exact happ

/-! ## The new combat -/

/-- The new combat at `p` when it is registered. -/
def registerCombat (s : CombatManagers) (p : Ptr) (pool : PoolTemplate CombatField)
    (data : CombatInitialData) (session : SessionPtr) : CombatManagers :=
  { s.openCombat p pool data session with combats := s.combats.insert s.combatIds p }

/-- It has nothing yet. -/
structure Bare (combat : CombatField) : Prop where
  roles : combat.roles = ∅
  warriors : combat.warriors = ∅
  buildings : combat.buildings = ∅
  timerIdSettle : combat.timerIdSettle = -1
  timerIdResourceRecover : combat.timerIdResourceRecover = -1

section Register

variable {pool : PoolTemplate CombatField} {data : CombatInitialData} {session : SessionPtr}

variable (data session) in
theorem registerCombat_combat (h : s.Consistent none)
    (hanswer : s.combatPool.allocate = (some p, pool)) :
    ((s.registerCombat p pool data session).combat p).id = s.combatIds ∧
      ((s.registerCombat p pool data session).combat p).appSession = some session ∧
      Bare ((s.registerCombat p pool data session).combat p) := by
  obtain ⟨hheld, hnew⟩ := PoolTemplate.allocate_held h.combatPool hanswer
  have hgrown := PoolTemplate.grown_of_allocate h.combatPool hanswer
  have hread : (pool.read p).roles = ∅ ∧ (pool.read p).warriors = ∅ ∧
      (pool.read p).buildings = ∅ := by
    rcases hgrown.objects p with hsame | ⟨_, hdefault⟩
    · have hread : pool.read p = s.combat p := by
        simp only [PoolTemplate.read, hsame, CombatManagers.combat]
      rw [hread]
      exact ⟨h.cleared p hnew, h.emptied p hnew⟩
    · simp only [PoolTemplate.read, hdefault]
      exact ⟨rfl, rfl, rfl⟩
  have hlive : ((pool.modify p fun combat => { combat with id := s.combatIds }).objects
      p).isSome := (PoolTemplate.modify_isSome _).trans hheld.1
  have hcombat : (s.registerCombat p pool data session).combat p =
      { pool.read p with id := s.combatIds }.initializeCombat data.mapId data.maxTime session := by
    rw [← PoolTemplate.read_modify hheld.1 fun combat => { combat with id := s.combatIds }]
    exact PoolTemplate.read_modify hlive _
  rw [hcombat]
  exact ⟨rfl, rfl, hread.1, hread.2.1, hread.2.2, rfl, rfl⟩

theorem registerCombat_pool : (s.registerCombat p pool data session).combatPool =
    (pool.modify p fun combat => { combat with id := s.combatIds }).modify p
      fun combat => combat.initializeCombat data.mapId data.maxTime session := rfl

variable (data session) in
theorem registerCombat_kept (h : s.Consistent none)
    (hanswer : s.combatPool.allocate = (some p, pool)) :
    Kept s (s.registerCombat p pool data session) := by
  have hnew := (PoolTemplate.allocate_held h.combatPool hanswer).2
  have hgrown := PoolTemplate.grown_of_allocate h.combatPool hanswer
  refine ⟨?_, fun q hq => ⟨hq, rfl⟩⟩
  intro p' hp'
  have hne : p' ≠ p := by
    rintro rfl
    exact hnew hp'
  obtain ⟨e, he⟩ := Option.isSome_iff_exists.mp hp'.1
  rw [registerCombat_pool, PoolTemplate.held_modify, PoolTemplate.held_modify,
    PoolTemplate.modify_other _ hne, PoolTemplate.modify_other _ hne, he]
  exact ⟨hgrown.held hp', hgrown.some he⟩

variable (data session) in
/-- Another combat is as it was or new and empty. -/
theorem registerCombat_other (h : s.Consistent none)
    (hanswer : s.combatPool.allocate = (some p, pool)) {p' : Ptr} (hne : p' ≠ p) :
    (s.registerCombat p pool data session).combat p' = s.combat p' ∨
      (s.registerCombat p pool data session).combat p' = default := by
  have hgrown := PoolTemplate.grown_of_allocate h.combatPool hanswer
  have hread : (s.registerCombat p pool data session).combat p' = pool.read p' := by
    simp only [CombatManagers.combat, registerCombat_pool,
      PoolTemplate.read_modify_other _ hne]
  rw [hread]
  rcases hgrown.objects p' with hsame | ⟨_, hdefault⟩
  · exact Or.inl (by simp only [PoolTemplate.read, hsame, CombatManagers.combat])
  · exact Or.inr (by simp [PoolTemplate.read, hdefault])

theorem registerCombat_consistent (h : s.Consistent none)
    (hanswer : s.combatPool.allocate = (some p, pool)) :
    (s.registerCombat p pool data session).Consistent none := by
  obtain ⟨hheld, hnew⟩ := PoolTemplate.allocate_held h.combatPool hanswer
  have hgrown := PoolTemplate.grown_of_allocate h.combatPool hanswer
  obtain ⟨hid, happ, hbare⟩ := registerCombat_combat data session h hanswer
  have hkept := registerCombat_kept data session h hanswer
  have hother : ∀ {p' : Ptr}, p' ≠ p →
      (s.registerCombat p pool data session).combat p' = s.combat p' ∨
        (s.registerCombat p pool data session).combat p' = default :=
    fun hne => registerCombat_other data session h hanswer hne
  have hcheld : ∀ {p'}, (s.registerCombat p pool data session).combatPool.Held p' ↔
      pool.Held p' := by
    intro p'
    rw [registerCombat_pool, PoolTemplate.held_modify, PoolTemplate.held_modify]
  have hcombats : ∀ (c : Int) (p' : Ptr),
      (s.registerCombat p pool data session).combats[c]? = some p' →
        c = s.combatIds ∧ p' = p ∨ s.combats[c]? = some p' ∧ p' ≠ p := by
    intro c p' hc
    have hinsert : (s.combats.insert s.combatIds p)[c]? = some p' := hc
    rw [ExtTreeMap.getElem?_insert] at hinsert
    split at hinsert
    · rename_i hid
      exact Or.inl ⟨(Std.compare_eq_iff_eq.mp hid).symm, (Option.some.inj hinsert).symm⟩
    · refine Or.inr ⟨hinsert, ?_⟩
      rintro rfl
      exact hnew (h.combats c p' hinsert).1
  have hold : ∀ {c : Int} {p' : Ptr}, s.combats[c]? = some p' →
      (s.registerCombat p pool data session).combats[c]? = some p' := by
    intro c p' hc
    have hlt := (h.combats c p' hc).2.2
    have hinsert : (s.combats.insert s.combatIds p)[c]? = some p' := by
      rw [ExtTreeMap.getElem?_insert, if_neg, hc]
      rw [Std.compare_eq_iff_eq]
      omega
    exact hinsert
  have hsame : ∀ {c : Int} {p' : Ptr}, s.combats[c]? = some p' →
      (s.registerCombat p pool data session).combat p' = s.combat p' :=
    fun hc => hkept.combat_eq (h.combats _ _ hc).1
  have hempty : ∀ p', ¬ (s.registerCombat p pool data session).combatPool.Held p' →
      ((s.registerCombat p pool data session).combat p').roles = ∅ ∧
      ((s.registerCombat p pool data session).combat p').warriors = ∅ ∧
      ((s.registerCombat p pool data session).combat p').buildings = ∅ := by
    intro p' hp'
    have hne : p' ≠ p := by
      rintro rfl
      exact hp' (hcheld.mpr hheld)
    have hout : ¬ s.combatPool.Held p' := fun hin => hp' (hcheld.mpr (hgrown.held hin))
    rcases hother hne with heq | heq
    · rw [heq]
      exact ⟨h.cleared p' hout, h.emptied p' hout⟩
    · rw [heq]
      exact ⟨rfl, rfl, rfl⟩
  have hsessions : ∀ session' x p',
      (s.registerCombat p pool data session).sessions session' = some x →
      p' ∈ x.connectedCombats → session' = session ∧ p' = p ∨
        p' ≠ p ∧ ∃ y, s.sessions session' = some y ∧ p' ∈ y.connectedCombats := by
    intro session' x p' hx hp'
    have hx : Function.update s.sessions session ((s.sessions session).map fun x =>
        { x with connectedCombats := x.connectedCombats.insert p }) session' = some x := hx
    have hconnected : ∀ {y}, s.sessions session' = some y → p' ∈ y.connectedCombats → p' ≠ p := by
      rintro y hy hin rfl
      exact hnew (h.connected session' y p' hy hin)
    by_cases hsession : session' = session
    · subst hsession
      rw [Function.update_self, Option.map_eq_some_iff] at hx
      obtain ⟨y, hy, rfl⟩ := hx
      rcases ExtTreeSet.mem_insert.mp hp' with heq | hin
      · exact Or.inl ⟨rfl, (Std.compare_eq_iff_eq.mp heq).symm⟩
      · exact Or.inr ⟨hconnected hy hin, y, hy, hin⟩
    · rw [Function.update_of_ne hsession] at hx
      exact Or.inr ⟨hconnected hx hp', x, hx, hp'⟩
  constructor
  · constructor
    · exact ⟨h.sound, h.held⟩
    · exact (hgrown.sound.modify p _).modify p _
    · intro session' x p' hx hp'
      rcases hsessions session' x p' hx hp' with ⟨_, rfl⟩ | ⟨_, y, hy, hin⟩
      · exact hcheld.mpr hheld
      · exact hcheld.mpr (hgrown.held (h.connected session' y p' hy hin))
    · exact fun p' hp' => (hempty p' hp').1
  · intro c p' hc
    rcases hcombats c p' hc with ⟨rfl, rfl⟩ | ⟨hc', _⟩
    · exact ⟨hcheld.mpr hheld, hid, Int.lt_add_one_of_le (Int.le_refl _)⟩
    · obtain ⟨hin, hid', hlt⟩ := h.combats c p' hc'
      rw [hsame hc']
      exact ⟨hcheld.mpr (hgrown.held hin), hid', Int.lt_add_one_of_le (Int.le_of_lt hlt)⟩
  · intro c p' hc
    rcases hcombats c p' hc with ⟨rfl, rfl⟩ | ⟨hc', _⟩
    · constructor
      · rw [hbare.warriors]
        simp
      · rw [hbare.buildings]
        simp
    · exact (h.fielded c p' hc').same (hsame hc') rfl
  · intro c p' r hc hr
    rcases hcombats c p' hc with ⟨rfl, rfl⟩ | ⟨hc', _⟩
    · rw [hbare.roles] at hr
      simp at hr
    · rw [hsame hc'] at hr
      exact h.members c p' r hc' hr
  · exact h.roles
  · intro r q hq
    rcases h.joined r q hq with hnone | ⟨c, p', hc, hin⟩
    · cases hnone
    · refine Or.inr ⟨c, p', hold hc, ?_⟩
      rw [hsame hc]
      exact hin
  · simp
  · exact fun p' hp' => (hempty p' hp').2
  · intro session' x p' hx hp'
    rcases hsessions session' x p' hx hp' with ⟨rfl, rfl⟩ | ⟨hne, y, hy, hin⟩
    · exact happ
    · rw [hkept.combat_eq (h.connected session' y p' hy hin)]
      exact h.linked session' y p' hy hin

end Register

/-! ## What holds on the way -/

/-- The role is in the combat at `p` or about to join it. -/
def Serves (s : CombatManagers) (p : Ptr) (pending : Option UInt64) (r : UInt64) : Prop :=
  r ∈ (s.combat p).roles ∨ pending = some r

/-- The combat at `p` is being deployed, in managers that were as `s₀` before. -/
structure Based (s₀ : CombatManagers) (data : CombatInitialData) (p : Ptr)
    (pending : Option UInt64) (s : CombatManagers) : Prop extends s.Consistent pending where
  registered : s.combats = s₀.combats.insert s₀.combatIds p
  combatIds : s.combatIds = s₀.combatIds + 1
  kept : Kept s₀ s
  new : ¬ s₀.combatPool.Held p
  newRoles : ∀ (r : UInt64) (q : Ptr), s.Serves p pending r → s.roles[r]? = some q →
    ¬ s₀.rolePool.Held q
  named : ∀ r, s.Serves p pending r → ∃ x ∈ data.roles, x.2.argentId = r
  warriors : (s.combat p).warriors = ∅
  timerIdSettle : (s.combat p).timerIdSettle = -1
  timerIdResourceRecover : (s.combat p).timerIdResourceRecover = -1

/-- The roles know the number of their buildings. -/
structure Laying (s₀ : CombatManagers) (data : CombatInitialData) (p : Ptr)
    (pending : Option UInt64) (s : CombatManagers) : Prop extends Based s₀ data p pending s where
  owned : data.Unmixed → ∀ (r : UInt64) (q : Ptr), s.Serves p pending r → s.roles[r]? = some q →
    (s.combat p).buildingsOf r = (s.role q).buildingNum
  unowned : ∀ r, ¬ s.Serves p pending r → (s.combat p).buildingsOf r = 0 ∨
    r = 0 ∧ ∃ camp ∈ data.camps, camp.buildings ≠ []

section Laying

variable {data : CombatInitialData}

theorem Based.at (h : Based s₀ data p pending s) : s.combats[s₀.combatIds]? = some p := by
  rw [h.registered]
  simp

theorem Based.live (h : Based s₀ data p pending s) : (s.combatPool.objects p).isSome :=
  (h.combats _ p h.at).1.1

theorem Laying.answered (h : Laying s₀ data p pending s) (buildingAnswers : List Bool) :
    Laying s₀ data p pending { s with buildingAnswers := buildingAnswers } :=
  ⟨⟨h.toConsistent.outside _ _ _ _ _, h.registered, h.combatIds, ⟨h.kept.combat, h.kept.role⟩,
    h.new, h.newRoles, h.named, h.warriors, h.timerIdSettle, h.timerIdResourceRecover⟩,
    h.owned, h.unowned⟩

/-- A new building counts for its host. -/
theorem buildingsOf_raiseBuilding {c : Int} (h : s.Consistent pending)
    (hc : s.combats[c]? = some p) (hostId : UInt64) (campId : Int)
    (description : BuildingDescription) (r : UInt64) :
    ((s.raiseBuilding p hostId campId description).combat p).buildingsOf r =
      (s.combat p).buildingsOf r + if hostId = r then 1 else 0 := by
  have habsent : (s.combat p).buildings[(s.combat p).idAlloctor + 1]? = none := by
    cases hb : (s.combat p).buildings[(s.combat p).idAlloctor + 1]? with
    | none => rfl
    | some b =>
      have hle := ((h.fielded c p hc).buildings _ b hb).1
      omega
  rw [raiseBuilding_combat (h.combats c p hc).1.1]
  exact total_insertIfNew habsent _

theorem serves_raiseBuilding (hlive : (s.combatPool.objects p).isSome) (hostId : UInt64)
    (campId : Int) (description : BuildingDescription) :
    (s.raiseBuilding p hostId campId description).Serves p pending r ↔ s.Serves p pending r := by
  simp only [Serves, raiseBuilding_combat hlive, CombatField.addBuilding]

theorem Based.raiseBuilding (h : Based s₀ data p pending s) (hostId : UInt64) (campId : Int)
    (description : BuildingDescription) :
    Based s₀ data p pending (s.raiseBuilding p hostId campId description) := by
  have hcombat := raiseBuilding_combat h.live hostId campId description
  constructor
  · exact h.toConsistent.raiseBuilding h.at hostId campId description
  · exact h.registered
  · exact h.combatIds
  · exact (h.kept.modifyCombat h.new _).modifyCombat h.new _
  · exact h.new
  · intro r q hr hq
    exact h.newRoles r q ((serves_raiseBuilding h.live hostId campId description).mp hr) hq
  · intro r hr
    exact h.named r ((serves_raiseBuilding h.live hostId campId description).mp hr)
  · rw [hcombat]
    exact h.warriors
  · rw [hcombat]
    exact h.timerIdSettle
  · rw [hcombat]
    exact h.timerIdResourceRecover

/-- Changing the role at hand. -/
theorem Based.modifyRole (h : Based s₀ data p (some r) s) (hq : s.roles[r]? = some q)
    {change : CombatRoleField → CombatRoleField}
    (hargentId : (change (s.role q)).argentId = (s.role q).argentId)
    (hcombatField : (change (s.role q)).combatField = (s.role q).combatField)
    (hfood : (s.role q).food ≤ (s.role q).foodMax →
      (change (s.role q)).food ≤ (change (s.role q)).foodMax) :
    Based s₀ data p (some r) (s.modifyRole q change) := by
  constructor
  · exact h.toConsistent.modifyRole hargentId hcombatField hfood
  · exact h.registered
  · exact h.combatIds
  · exact h.kept.modifyRole (h.newRoles r q (Or.inr rfl) hq) change
  · exact h.new
  · exact h.newRoles
  · exact h.named
  · exact h.warriors
  · exact h.timerIdSettle
  · exact h.timerIdResourceRecover

theorem Laying.modifyRole (h : Laying s₀ data p (some r) s) (hq : s.roles[r]? = some q)
    {change : CombatRoleField → CombatRoleField}
    (hargentId : (change (s.role q)).argentId = (s.role q).argentId)
    (hcombatField : (change (s.role q)).combatField = (s.role q).combatField)
    (hfood : (s.role q).food ≤ (s.role q).foodMax →
      (change (s.role q)).food ≤ (change (s.role q)).foodMax)
    (hbuildingNum : (change (s.role q)).buildingNum = (s.role q).buildingNum) :
    Laying s₀ data p (some r) (s.modifyRole q change) := by
  refine ⟨h.toBased.modifyRole hq hargentId hcombatField hfood, ?_, h.unowned⟩
  intro hunmixed r' q' hr' hq'
  refine (h.owned hunmixed r' q' hr' hq').trans ?_
  rcases modifyRole_or s q q' change with hsame | ⟨rfl, hchanged⟩
  · rw [hsame]
  · rw [hchanged, hbuildingNum]

/-- A building for the role at hand. -/
theorem Laying.roleBuilding (h : Laying s₀ data p (some r) s) (hq : s.roles[r]? = some q)
    (campId : Int) (description : BuildingDescription) :
    Laying s₀ data p (some r) ((s.raiseBuilding p (s.role q).argentId campId description).modifyRole
      q fun role => role.incBuildingNum 1) := by
  have hargentId := (h.roles r q hq).1
  have hcount := buildingsOf_raiseBuilding h.toConsistent h.at (s.role q).argentId campId
    description
  have hserves : ∀ r', (s.raiseBuilding p (s.role q).argentId campId description).Serves p (some r)
      r' ↔ s.Serves p (some r) r' :=
    fun _ => serves_raiseBuilding h.live (s.role q).argentId campId description
  refine ⟨(h.toBased.raiseBuilding _ campId description).modifyRole hq rfl rfl id, ?_, ?_⟩
  · intro hunmixed r' q' hr' hq'
    refine (hcount r').trans ?_
    rw [h.owned hunmixed r' q' ((hserves r').mp hr') hq', hargentId]
    by_cases heq : r = r'
    · subst heq
      obtain rfl : q = q' := Option.some.inj (hq.symm.trans hq')
      rw [if_pos rfl]
      exact (congrArg CombatRoleField.buildingNum
        (modifyRole_role (s := s.raiseBuilding p r campId description) (h.held r q hq).1
          fun role => role.incBuildingNum 1)).symm
    · have hne : q' ≠ q := by
        rintro rfl
        exact heq ((h.alone r' r q' hq' hq))
      rw [if_neg heq, Int.add_zero]
      exact congrArg CombatRoleField.buildingNum (PoolTemplate.read_modify_other _ hne _).symm
  · intro r' hr'
    have hne : r ≠ r' := by
      rintro rfl
      exact hr' (Or.inr rfl)
    have hsame := hcount r'
    rw [if_neg fun heq => hne (hargentId.symm.trans heq), Int.add_zero] at hsame
    rcases h.unowned r' fun hr => hr' ((hserves r').mpr hr) with hzero | hneutral
    · exact Or.inl (hsame.trans hzero)
    · exact Or.inr hneutral

/-- A building of a camp. -/
theorem Laying.campBuilding (h : Laying s₀ data p none s) {camp : CombatCampData}
    (hcamp : camp ∈ data.camps) (hbuildings : camp.buildings ≠ []) (campId : Int)
    (description : BuildingDescription) :
    Laying s₀ data p none (s.raiseBuilding p 0 campId description) := by
  have hcount := buildingsOf_raiseBuilding h.toConsistent h.at 0 campId description
  have hserves : ∀ r, (s.raiseBuilding p 0 campId description).Serves p none r ↔
      s.Serves p none r :=
    fun _ => serves_raiseBuilding h.live 0 campId description
  refine ⟨h.toBased.raiseBuilding 0 campId description, ?_, ?_⟩
  · intro hunmixed r q hr hq
    have hne : 0 ≠ r := by
      rintro rfl
      obtain ⟨x, hx, hargentId⟩ := h.named 0 ((hserves 0).mp hr)
      rcases hunmixed with hnone | hnonzero
      · exact hbuildings (hnone camp hcamp)
      · exact hnonzero x hx hargentId
    rw [hcount, if_neg hne, Int.add_zero]
    exact h.owned hunmixed r q ((hserves r).mp hr) hq
  · intro r hr
    by_cases hzero : 0 = r
    · exact Or.inr ⟨hzero.symm, camp, hcamp, hbuildings⟩
    · rw [hcount, if_neg hzero, Int.add_zero]
      exact h.unowned r fun hr' => hr ((hserves r).mpr hr')

theorem Laying.joinRole (h : Laying s₀ data p (some r) s) (hq : s.roles[r]? = some q) :
    Laying s₀ data p none (s.joinRole p r) := by
  have hjoin : s.joinRole p r = (s.modifyCombat p fun combat =>
      { combat with roles := combat.roles.insert r }).modifyRole q
        fun role => { role with combatField := some p } := by
    simp only [CombatManagers.joinRole, hq]
  have hcombat : (s.joinRole p r).combat p =
      { s.combat p with roles := (s.combat p).roles.insert r } := by
    rw [hjoin]
    exact modifyCombat_combat h.live _
  have hserves : ∀ r', (s.joinRole p r).Serves p none r' ↔ s.Serves p (some r) r' := by
    intro r'
    simp only [Serves, hcombat, ExtTreeSet.mem_insert, Std.compare_eq_iff_eq]
    simp [or_comm]
  have hnew := h.newRoles r q (Or.inr rfl) hq
  have hbuildingNum : ∀ q', ((s.joinRole p r).role q').buildingNum = (s.role q').buildingNum := by
    intro q'
    rw [hjoin]
    rcases modifyRole_or (s.modifyCombat p fun combat =>
      { combat with roles := combat.roles.insert r }) q q'
      (fun role => { role with combatField := some p }) with hsame | ⟨rfl, hchanged⟩
    · rw [hsame]
      rfl
    · rw [hchanged]
      rfl
  have hroles : (s.joinRole p r).roles = s.roles := by rw [hjoin]; rfl
  constructor
  · constructor
    · exact h.toConsistent.joinRole h.at hq
    · rw [hjoin]
      exact h.registered
    · rw [hjoin]
      exact h.combatIds
    · rw [hjoin]
      exact (h.kept.modifyCombat h.new _).modifyRole hnew _
    · exact h.new
    · intro r' q' hr' hq'
      rw [hroles] at hq'
      exact h.newRoles r' q' ((hserves r').mp hr') hq'
    · exact fun r' hr' => h.named r' ((hserves r').mp hr')
    · rw [hcombat]
      exact h.warriors
    · rw [hcombat]
      exact h.timerIdSettle
    · rw [hcombat]
      exact h.timerIdResourceRecover
  · intro hunmixed r' q' hr' hq'
    rw [hroles] at hq'
    rw [hbuildingNum, hcombat]
    exact h.owned hunmixed r' q' ((hserves r').mp hr') hq'
  · intro r' hr'
    rw [hcombat]
    exact h.unowned r' fun hr => hr' ((hserves r').mpr hr)

/-- What a failed request leaves. -/
structure Abandoned (s₀ s : CombatManagers) : Prop extends s.Consistent none where
  kept : Kept s₀ s
  combatIds : s.combatIds = s₀.combatIds + 1

theorem Based.abandonCombat (h : Based s₀ data p none s) : Abandoned s₀ (s.abandonCombat p) := by
  have ht := h.takenDown h.at
  constructor
  · exact ht.consistent h.toConsistent h.at
  · exact h.kept.takenDown ht h.new fun r q hr => h.newRoles r q (Or.inl hr)
  · exact ht.combatIds.trans h.combatIds

/-- Only the role objects that are not registered change. -/
theorem Based.freeRoles (h : Based s₀ data p none s) {pool : PoolTemplate CombatRoleField}
    (hconsistent : ({ s with rolePool := pool } : CombatManagers).Consistent none)
    (hkept : Kept s₀ { s with rolePool := pool }) :
    Based s₀ data p none { s with rolePool := pool } :=
  ⟨hconsistent, h.registered, h.combatIds, hkept, h.new, h.newRoles, h.named, h.warriors,
    h.timerIdSettle, h.timerIdResourceRecover⟩

/-- The role at hand is registered, with no building yet. -/
theorem Laying.register {set : CombatManagers} (h : Laying s₀ data p none s)
    (hbased : Based s₀ data p none set) (hkept : Kept s set) (hroles : set.roles = s.roles)
    (hcombat : set.combat p = s.combat p) (hheld : set.rolePool.Held q)
    (hnew : ¬ s.rolePool.Held q) (hargentId : (set.role q).argentId = r) (hfree : r ∉ set.roles)
    (hfood : (set.role q).food ≤ (set.role q).foodMax) (hbuildingNum : (set.role q).buildingNum = 0)
    (hnamed : ∃ x ∈ data.roles, x.2.argentId = r) :
    Laying s₀ data p (some r) { set with roles := set.roles.insert r q } := by
  have hlookup : ∀ r' : UInt64, (set.roles.insert r q)[r']? =
      if r' = r then some q else s.roles[r']? := by grind
  have hout : r ∉ (s.combat p).roles := by
    intro hin
    obtain ⟨q', hq', _⟩ := h.members _ p r h.at hin
    rw [hroles, ExtTreeMap.mem_iff_isSome_getElem?, hq'] at hfree
    exact hfree rfl
  have hserves : ∀ r', ({ set with roles := set.roles.insert r q } : CombatManagers).Serves p
      (some r) r' ↔ r' ∈ (s.combat p).roles ∨ r' = r := by
    intro r'
    simp only [Serves, Option.some.injEq, eq_comm (a := r), ← hcombat]
    rfl
  have hregister := hbased.toConsistent.register hheld (hargentId ▸ hfree) hfood
  rw [hargentId] at hregister
  constructor
  · constructor
    · exact hregister
    · exact hbased.registered
    · exact hbased.combatIds
    · exact ⟨hbased.kept.combat, hbased.kept.role⟩
    · exact h.new
    · intro r' q' hr' hq'
      have hq' : (set.roles.insert r q)[r']? = some q' := hq'
      rw [hlookup] at hq'
      rcases (hserves r').mp hr' with hin | rfl
      · have hne : r' ≠ r := fun heq => hout (heq ▸ hin)
        rw [if_neg hne] at hq'
        exact h.newRoles r' q' (Or.inl hin) hq'
      · rw [if_pos rfl] at hq'
        obtain rfl := Option.some.inj hq'
        exact fun hin => hnew (h.kept.role q hin).1
    · intro r' hr'
      rcases (hserves r').mp hr' with hin | rfl
      · exact h.named r' (Or.inl hin)
      · exact hnamed
    · exact hbased.warriors
    · exact hbased.timerIdSettle
    · exact hbased.timerIdResourceRecover
  · intro hunmixed r' q' hr' hq'
    have hq' : (set.roles.insert r q)[r']? = some q' := hq'
    rw [hlookup] at hq'
    have hgoal : (s.combat p).buildingsOf r' = (set.role q').buildingNum := by
      rcases (hserves r').mp hr' with hin | rfl
      · have hne : r' ≠ r := fun heq => hout (heq ▸ hin)
        rw [if_neg hne] at hq'
        rw [hkept.role_eq (h.held r' q' hq')]
        exact h.owned hunmixed r' q' (Or.inl hin) hq'
      · rw [if_pos rfl] at hq'
        obtain rfl := Option.some.inj hq'
        rw [hbuildingNum]
        rcases h.unowned r' fun hr => hr.elim hout (by simp) with hzero | ⟨rfl, camp, hcamp, hin⟩
        · exact hzero
        · obtain ⟨x, hx, hzero⟩ := hnamed
          rcases hunmixed with hnone | hnonzero
          · exact absurd (hnone camp hcamp) hin
          · exact absurd hzero (hnonzero x hx)
    rw [← hcombat] at hgoal
    exact hgoal
  · intro r' hr'
    have hunowned := h.unowned r' fun hr => hr' ((hserves r').mpr (Or.inl (hr.elim id (by simp))))
    rw [← hcombat] at hunowned
    exact hunowned

theorem Laying.registerRole (h : Laying s₀ data p none s) {camp : CombatCampData}
    {role : CombatRoleData} (hrole : (camp, role) ∈ data.roles) :
    Ends (fun r => Laying s₀ data p (some role.argentId) r.2 ∧
      r.2.roles[role.argentId]? = some r.1) (Abandoned s₀) (s.registerRole p camp role) := by
  obtain ⟨answer, pool, hanswer⟩ : ∃ answer pool, s.rolePool.allocate = (answer, pool) :=
    ⟨_, _, rfl⟩
  have hgrown := PoolTemplate.grown_of_allocate h.sound hanswer
  have hbased : Based s₀ data p none { s with rolePool := pool } :=
    h.toBased.freeRoles (h.toConsistent.grown hgrown) (h.kept.grown hgrown)
  simp only [CombatManagers.registerRole, allocateRole, hanswer]
  cases answer with
  | none => exact hbased.abandonCombat
  | some q =>
    obtain ⟨hheld, hnew⟩ := PoolTemplate.allocate_held h.sound hanswer
    have hfree : ∀ r : UInt64, s.roles[r]? ≠ some q := fun r hr => hnew (h.held r q hr)
    have hnew₀ : ¬ s₀.rolePool.Held q := fun hin => hnew (h.kept.role q hin).1
    have hset := modifyRole_role (s := { s with rolePool := pool }) hheld.1 fun object =>
      (object.initializeRole role.argentId role.name).setCamp camp
    have hbased' : Based s₀ data p none ({ s with rolePool := pool }.modifyRole q fun object =>
        (object.initializeRole role.argentId role.name).setCamp camp) :=
      hbased.freeRoles (hbased.toConsistent.modifyFree hfree _) (hbased.kept.modifyRole hnew₀ _)
    obtain ⟨set, hdef⟩ : ∃ set, ({ s with rolePool := pool }.modifyRole q fun object =>
      (object.initializeRole role.argentId role.name).setCamp camp) = set := ⟨_, rfl⟩
    have hheld' : set.rolePool.Held q := by
      rw [← hdef]
      exact (PoolTemplate.held_modify _).mpr hheld
    have hroles : set.roles = s.roles := by rw [← hdef]; rfl
    have hcombat : set.combat p = s.combat p := by rw [← hdef]; rfl
    rw [hdef] at hset hbased'
    have hargentId : (set.role q).argentId = role.argentId := by rw [hset]; rfl
    have hfree' : ∀ r : UInt64, set.roles[r]? ≠ some q := by rw [hroles]; exact hfree
    simp only [hdef]
    by_cases htaken : (set.role q).argentId ∈ set.roles
    · rw [addRole_taken htaken]
      have hunconnected : (set.role q).appSession = none := by rw [hset]; rfl
      have habandoned : Based s₀ data p none (set.abandonRole q) := by
        have hconsistent := hbased'.toConsistent.abandonRole hheld' hfree' hunconnected
        have hkept := hbased'.kept.abandonRole hbased'.sound hheld' hnew₀ hunconnected
        rw [abandonRole_eq hunconnected] at hconsistent hkept ⊢
        exact hbased'.freeRoles hconsistent hkept
      exact habandoned.abandonCombat
    · rw [addRole_free htaken]
      have hkept : Kept s set := by
        rw [← hdef]
        exact ((Kept.refl s).grown hgrown).modifyRole hnew _
      have hfood : (set.role q).food ≤ (set.role q).foodMax := by
        rw [hset]
        simp only [CombatRoleField.setCamp, CombatRoleField.setFood, CombatRoleField.setElixir]
        split
        · exact Int.le_refl _
        · omega
      have hlaying := h.register hbased' hkept hroles hcombat hheld' hnew hargentId
        (hargentId ▸ htaken) hfood (by rw [hset]; rfl) ⟨_, hrole, rfl⟩
      have hq : (set.roles.insert role.argentId q)[role.argentId]? = some q := by simp
      rw [hargentId]
      refine ⟨hlaying.modifyRole hq ?_ ?_ ?_ ?_, hq⟩
      · rw [CombatRoleField.addWarriorDescriptions_eq]
      · rw [CombatRoleField.addWarriorDescriptions_eq]
      · rw [CombatRoleField.addWarriorDescriptions_eq]
        exact id
      · rw [CombatRoleField.addWarriorDescriptions_eq]

end Laying

/-! ## The request -/

section Request

variable {data : CombatInitialData} {session : SessionPtr} {verdict : Option DeployItem}
  {pool : PoolTemplate CombatField}

theorem role_mem_of_items {camp : CombatCampData} {role : CombatRoleData}
    (h : .role camp role ∈ data.items) : (camp, role) ∈ data.roles := by
  rw [← filterMap_items, List.mem_filterMap]
  exact ⟨_, h, rfl⟩

theorem camp_of_campBuilding {campId : Int} {description : BuildingDescription}
    (h : .campBuilding campId description ∈ data.items) :
    ∃ camp ∈ data.camps, camp.buildings ≠ [] := by
  simp only [CombatInitialData.items, List.mem_flatMap] at h
  obtain ⟨camp, hcamp, hin⟩ := h
  refine ⟨camp, hcamp, ?_⟩
  intro hnil
  simp [CombatCampData.items, CombatRoleData.items, CombatRoleData.afterRole, hnil] at hin

variable (data) in
/-- What holds on the way when the request will not be refused a role's building. -/
theorem layingRule (s₀ : CombatManagers) (session : SessionPtr) (p : Ptr)
    (hverdict : verdict.any DeployItem.isRoleBuilding = false) :
    DeployRule p
      (fun items s => Idle s₀ session p verdict items s ∧ Laying s₀ data p none s ∧
        items ⊆ data.items)
      (fun q items s => (Pending s₀ session p q s ∧ s.supplies.firstRefused items = verdict) ∧
        (∃ r, Laying s₀ data p (some r) s ∧ s.roles[r]? = some q) ∧ items ⊆ data.items)
      (fun s => Failed s₀ session verdict s ∧ Abandoned s₀ s) := by
  have hrule := deployRule s₀ session p verdict
  constructor
  · rintro camp role rest s ⟨hidle, hlaying, hitems⟩
    have hrole : (camp, role) ∈ data.roles :=
      role_mem_of_items (hitems (by simp [CombatRoleData.items]))
    refine ((hrule.role camp role rest s hidle).and (hlaying.registerRole hrole)).mono ?_
      fun _ h => h
    rintro ⟨q, s'⟩ ⟨hpending, hlaying', hq⟩
    refine ⟨hpending, ⟨role.argentId, hlaying', hq⟩, fun item hin => hitems ?_⟩
    simp only [CombatRoleData.items, List.cons_append, List.mem_cons]
    exact Or.inr hin
  · rintro q campId description rest s ⟨hpending, ⟨r, hlaying, hq⟩, hitems⟩
    have hends := hrule.roleBuilding q campId description rest s hpending
    have hrefused := hpending.2
    simp only [Supplies.firstRefused, supplies] at hrefused
    simp only [deployRoleBuilding, allocateBuilding] at hends ⊢
    cases hanswer : s.buildingAnswers.headD false with
    | false =>
      simp only [hanswer] at hrefused
      subst hrefused
      cases hverdict
    | true =>
      simp only [hanswer] at hends
      have hlaying' := (hlaying.answered s.buildingAnswers.tail).roleBuilding hq campId description
      exact ⟨hends, ⟨r, hlaying', hq⟩, fun item hin => hitems (List.mem_cons_of_mem _ hin)⟩
  · rintro q rest s ⟨hpending, ⟨r, hlaying, hq⟩, hitems⟩
    refine ⟨hrule.joinRole q rest s hpending, ?_, fun item hin =>
      hitems (List.mem_cons_of_mem _ hin)⟩
    rw [(hlaying.roles r q hq).1]
    exact hlaying.joinRole hq
  · rintro campId description rest s ⟨hidle, hlaying, hitems⟩
    have hends := hrule.campBuilding campId description rest s hidle
    obtain ⟨camp, hcamp, hbuildings⟩ : ∃ camp ∈ data.camps, camp.buildings ≠ [] :=
      camp_of_campBuilding (hitems (List.mem_cons_self ..))
    simp only [deployCampBuilding, allocateBuilding] at hends ⊢
    cases hanswer : s.buildingAnswers.headD false with
    | false =>
      simp only [hanswer] at hends
      exact ⟨hends, (hlaying.answered s.buildingAnswers.tail).abandonCombat⟩
    | true =>
      simp only [hanswer] at hends
      exact ⟨hends, (hlaying.answered s.buildingAnswers.tail).campBuilding hcamp hbuildings campId
        description, fun item hin => hitems (List.mem_cons_of_mem _ hin)⟩

/-- The managers once a request was granted: the combat at `p` is new. -/
structure Deployed (s₀ : CombatManagers) (data : CombatInitialData) (p : Ptr)
    (s : CombatManagers) : Prop extends s.Consistent none where
  registered : s.combats = s₀.combats.insert s₀.combatIds p
  combatIds : s.combatIds = s₀.combatIds + 1
  kept : Kept s₀ s
  rolesKept : ∀ (r : UInt64) (q : Ptr), s₀.roles[r]? = some q → s.roles[r]? = some q
  new : ¬ s₀.combatPool.Held p
  warriors : (s.combat p).warriors = ∅
  timerIdSettle : (s.combat p).timerIdSettle = -1
  timerIdResourceRecover : (s.combat p).timerIdResourceRecover = -1
  owned : data.Unmixed → ∀ (r : UInt64) (q : Ptr), r ∈ (s.combat p).roles →
    s.roles[r]? = some q → (s.combat p).buildingsOf r = (s.role q).buildingNum

/-- The managers once a request was refused. -/
structure Refused (s₀ s : CombatManagers) : Prop extends s.Consistent none where
  registered : s.combats = s₀.combats
  combatIds : s₀.combatIds ≤ s.combatIds
  kept : Kept s₀ s
  registeredRoles : s.roles = s₀.roles

/-- Nothing is handed out where the pool of combats is empty. -/
theorem refused_empty (h : s.Consistent none) (hanswer : s.combatPool.allocate = (none, pool)) :
    Refused s { s with combatPool := pool } := by
  have hgrown := PoolTemplate.grown_of_allocate h.combatPool hanswer
  have hheld : ∀ p, pool.Held p ↔ s.combatPool.Held p :=
    fun p => PoolTemplate.allocate_none_held h.combatPool hanswer
  have hread : ∀ p, ({ s with combatPool := pool } : CombatManagers).combat p = s.combat p := by
    intro p
    rcases hgrown.objects p with hsame | ⟨hnone, hdefault⟩
    · simp only [CombatManagers.combat, PoolTemplate.read, hsame]
    · simp [CombatManagers.combat, PoolTemplate.read, hnone, hdefault]
  constructor
  · refine h.alike ?_ fun c p hc => (h.fielded c p hc).same (hread p) rfl
    constructor
    · exact fun _ => hgrown.sound
    · exact hheld
    · exact id
    · exact fun _ q _ => id
    · rfl
    · rfl
    · rfl
    · exact fun session x p hx hp => ⟨x, hx, hp⟩
    · intro session x p _ _
      rw [hread]
    · intro p
      rw [hread]
      exact ⟨rfl, rfl⟩
    · exact fun _ q _ _ => ⟨rfl, rfl, id⟩
    · exact fun p _ => hread p
  · rfl
  · exact Int.le_refl _
  · refine ⟨?_, fun q hq => ⟨hq, rfl⟩⟩
    intro p hp
    obtain ⟨e, he⟩ := Option.isSome_iff_exists.mp hp.1
    exact ⟨hgrown.held hp, (hgrown.some he).trans he.symm⟩
  · rfl

theorem laying_start (h : s.Consistent none)
    (hanswer : s.combatPool.allocate = (some p, pool)) :
    Laying s data p none (s.registerCombat p pool data session) := by
  obtain ⟨_, _, hbare⟩ := registerCombat_combat data session h hanswer
  have hserves : ∀ r, ¬ (s.registerCombat p pool data session).Serves p none r := by
    simp [Serves, hbare.roles]
  constructor
  · constructor
    · exact registerCombat_consistent h hanswer
    · rfl
    · rfl
    · exact registerCombat_kept data session h hanswer
    · exact (PoolTemplate.allocate_held h.combatPool hanswer).2
    · exact fun r q hr => absurd hr (hserves r)
    · exact fun r hr => absurd hr (hserves r)
    · exact hbare.warriors
    · exact hbare.timerIdSettle
    · exact hbare.timerIdResourceRecover
  · exact fun _ r q hr => absurd hr (hserves r)
  · intro r _
    refine Or.inl ?_
    rw [CombatField.buildingsOf, hbare.buildings]
    exact total_empty _

theorem Consistent.fresh_combatId (h : s.Consistent none) : s.combatIds ∉ s.combats := by
  intro hin
  obtain ⟨p, hp⟩ := Option.isSome_iff_exists.mp (ExtTreeMap.mem_iff_isSome_getElem?.mp hin)
  exact absurd (h.combats _ p hp).2.2 (Int.lt_irrefl _)

variable (data session) in
/-- A request that gets its combat goes through the loops. -/
theorem deployCombat_eq (h : s.Consistent none) (hanswer : s.combatPool.allocate = (some p, pool)) :
    s.deployCombat session data = (do
      let s ← data.camps.foldlM (deployCamp p) (s.registerCombat p pool data session)
      return (p, s)) := by
  have hopened : OpenedEmpty s session p (s.openCombat p pool data session) :=
    openedEmpty_openCombat h.toOrderly hanswer
  have hadd : (s.openCombat p pool data session).addCombat p =
      some (s.registerCombat p pool data session) := by
    simp [addCombat, hopened.id, hopened.combats, h.fresh_combatId, registerCombat]
  exact deployCombat_added hanswer hadd

variable (session) in
/-- What the loops of a request that is not refused a role's building start from. -/
theorem idle_start (h : s.Consistent none) (hanswer : s.combatPool.allocate = (some p, pool))
    (hrefused : s.refusesRoleBuilding data = false) :
    (s.supplies.firstRefused data.items).any DeployItem.isRoleBuilding = false ∧
      Idle s session p (s.supplies.firstRefused data.items) data.items
        (s.registerCombat p pool data session) ∧
      Laying s data p none (s.registerCombat p pool data session) ∧ data.items ⊆ data.items := by
  have hopened : OpenedEmpty s session p (s.openCombat p pool data session) :=
    openedEmpty_openCombat h.toOrderly hanswer
  have hcontains : s.combats.contains s.combatIds = false :=
    Bool.eq_false_iff.mpr fun hin => h.fresh_combatId (ExtTreeMap.contains_iff_mem.mp hin)
  refine ⟨?_, hopened.idle h.toOrderly h.fresh_combatId, laying_start h hanswer, fun _ hin => hin⟩
  simpa [refusesRoleBuilding, hanswer, hcontains] using hrefused

/-- A request that is not refused a role's building. -/
theorem ends_deployCombat (h : s.Consistent none) (hrefused : s.refusesRoleBuilding data = false) :
    Ends (fun r => Deployed s data r.1 r.2) (Refused s) (s.deployCombat session data) := by
  obtain ⟨answer, pool, hanswer⟩ : ∃ answer pool, s.combatPool.allocate = (answer, pool) :=
    ⟨_, _, rfl⟩
  cases answer with
  | none =>
    rw [deployCombat_none hanswer]
    exact refused_empty h hanswer
  | some p =>
    obtain ⟨hverdict, hstart⟩ := idle_start session h hanswer hrefused
    have hends := (layingRule data s session p hverdict).ends_deployCamps hstart
    rw [deployCombat_eq data session h hanswer]
    refine Ends.bind (hends.mono (fun _ h => h) ?_) ?_
    · rintro e ⟨hfailed, habandoned⟩
      have htrace := hfailed.mpr hverdict
      refine ⟨habandoned.toConsistent, htrace.combats, ?_, habandoned.kept, htrace.roles⟩
      rw [habandoned.combatIds]
      exact Int.le_add_one (Int.le_refl _)
    · rintro s' ⟨hidle, hlaying, _⟩
      refine ⟨hlaying.toConsistent, hlaying.registered, hlaying.combatIds, hlaying.kept, ?_,
        hlaying.new, hlaying.warriors, hlaying.timerIdSettle, hlaying.timerIdResourceRecover, ?_⟩
      · intro r q hq
        have hbase := hidle.deploying.base r
        rw [hq] at hbase
        split at hbase
        · cases hbase
        · exact hbase
      · exact fun hunmixed r q hr hq => hlaying.owned hunmixed r q (Or.inl hr) hq

end Request

end CombatManagers

end Mysya
