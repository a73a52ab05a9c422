import Mysya.CombatServer
import Mysya.ConsistentCombats
import Mysya.DeployItems

/-!
# The combats that are registered

A registered combat is handed out under its own id, and only registered combats have buildings.
That lasts through every message, call and timer, also where roles are left behind. While a combat
is registered its buildings stay where they are and its ids grow. The attributes of warriors are
followed along: as long as requests have none out of bounds, no field has.
-/

open Std

namespace Mysya

/-- The id of a building and where it stands. -/
def CombatBuildingField.site (b : CombatBuildingField) : Int × Position := (b.id, ⟨b.posX, b.posY⟩)

/-- The attributes that give timers their periods are in bounds. -/
def WarriorDescription.Paced (d : WarriorDescription) : Prop :=
  1 ≤ d.moveSpeed ∧ d.moveSpeed ≤ 1000 ∧ 1 ≤ d.attackSpeed ∧ d.attackSpeed ≤ 214748

instance (d : WarriorDescription) : Decidable d.Paced := inferInstanceAs (Decidable (_ ∧ _))

def CombatWarriorField.Paced (w : CombatWarriorField) : Prop :=
  1 ≤ w.moveSpeed ∧ w.moveSpeed ≤ 1000 ∧ 1 ≤ w.attackSpeed

/-- The time of a combat is positive, and still is in milliseconds. -/
def PacedTime (maxTime : Int) : Prop := 1 ≤ maxTime ∧ maxTime ≤ 2147483

instance (maxTime : Int) : Decidable (PacedTime maxTime) := inferInstanceAs (Decidable (_ ∧ _))

def CombatInitialData.Paced (data : CombatInitialData) : Prop :=
  PacedTime data.maxTime ∧
    ∀ camp ∈ data.camps, ∀ role ∈ camp.roles, ∀ d ∈ role.warriors, d.Paced

/-- A combat goes on as another: the same but for its roles, its warriors, its session, its timers
and what becomes of its buildings. -/
structure CombatField.Continues (x y : CombatField) : Prop where
  id : y.id = x.id
  mapId : y.mapId = x.mapId
  maxTime : y.maxTime = x.maxTime
  idAlloctor : x.idAlloctor ≤ y.idAlloctor
  sites : ∀ id : Int, (y.buildings[id]?).map CombatBuildingField.site =
    (x.buildings[id]?).map CombatBuildingField.site

namespace CombatField.Continues

variable {x y z : CombatField}

theorem refl (x : CombatField) : x.Continues x := ⟨rfl, rfl, rfl, Int.le_refl _, fun _ => rfl⟩

theorem trans (h : x.Continues y) (h' : y.Continues z) : x.Continues z where
  id := h'.id.trans h.id
  mapId := h'.mapId.trans h.mapId
  maxTime := h'.maxTime.trans h.maxTime
  idAlloctor := Int.le_trans h.idAlloctor h'.idAlloctor
  sites := fun id => (h'.sites id).trans (h.sites id)

/-- A building that is there was there, with the same site. -/
theorem building (h : x.Continues y) {id : Int} {b : CombatBuildingField}
    (hb : y.buildings[id]? = some b) :
    ∃ b', x.buildings[id]? = some b' ∧ b'.site = b.site := by
  have hsite := h.sites id
  rw [hb, Option.map_some] at hsite
  exact Option.map_eq_some_iff.mp hsite.symm

theorem keeps_building (h : x.Continues y) {id : Int} {b : CombatBuildingField}
    (hb : x.buildings[id]? = some b) :
    ∃ b', y.buildings[id]? = some b' ∧ b'.site = b.site := by
  have hsite := h.sites id
  rw [hb, Option.map_some] at hsite
  exact Option.map_eq_some_iff.mp hsite

end CombatField.Continues

namespace CombatManagers

variable {s s' s'' t : CombatManagers} {p p' q : Ptr} {c : Int} {data : CombatInitialData}

/-- What is registered was handed out under its own id, and has all buildings there are. -/
structure Enrolled (s : CombatManagers) : Prop where
  pool : s.combatPool.Sound
  combats : ∀ c p, s.combats[c]? = some p → s.combatPool.Held p ∧ (s.combat p).id = c
  buildings : ∀ p (id : Int) b, (s.combat p).buildings[id]? = some b →
    b.id = id ∧ s.combats[(s.combat p).id]? = some p

/-- The warriors and the descriptions of warriors are in bounds. -/
structure PacedFields (s : CombatManagers) : Prop where
  warriors : ∀ p (id : Int) w, (s.combat p).warriors[id]? = some w → w.Paced
  descriptions : ∀ q (id : Int) d, (s.role q).warriorDescriptions[id]? = some d → d.Paced

/-- And so are the times of the combats. -/
structure Paced (s : CombatManagers) : Prop extends s.PacedFields where
  times : ∀ (c : Int) p, s.combats[c]? = some p → PacedTime (s.combat p).maxTime

/-- The combats that a session has know the session. -/
def Acquainted (s : CombatManagers) : Prop :=
  ∀ session x p, s.sessions session = some x → p ∈ x.connectedCombats →
    (s.combat p).appSession = some session

/-- No combat and no role is registered, taken or given back, no role joins a combat and no combat
a session, and all combats go on. -/
structure GoesOn (s s' : CombatManagers) : Prop where
  combats : s'.combats = s.combats
  combatIds : s'.combatIds = s.combatIds
  list : s'.combatPool.list = s.combatPool.list
  live : ∀ p, (s'.combatPool.objects p).isSome = (s.combatPool.objects p).isSome
  combat : ∀ p, (s.combat p).Continues (s'.combat p)
  paced : s.PacedFields → s'.PacedFields
  roles : s'.roles = s.roles
  roleList : s'.rolePool.list = s.rolePool.list
  roleLive : ∀ q, (s'.rolePool.objects q).isSome = (s.rolePool.objects q).isSome
  members : ∀ p, (s'.combat p).roles = (s.combat p).roles
  connected : ∀ session x p, s'.sessions session = some x → p ∈ x.connectedCombats →
    ∃ y, s.sessions session = some y ∧ p ∈ y.connectedCombats

/-- Besides, the combats know their sessions as before. -/
structure Goes (s s' : CombatManagers) : Prop extends GoesOn s s' where
  acquainted : s.Acquainted → s'.Acquainted

theorem GoesOn.trans (h : GoesOn s s') (h' : GoesOn s' s'') : GoesOn s s'' where
  combats := h'.combats.trans h.combats
  combatIds := h'.combatIds.trans h.combatIds
  list := h'.list.trans h.list
  live := fun p => (h'.live p).trans (h.live p)
  combat := fun p => (h.combat p).trans (h'.combat p)
  paced := fun hp => h'.paced (h.paced hp)
  roles := h'.roles.trans h.roles
  roleList := h'.roleList.trans h.roleList
  roleLive := fun q => (h'.roleLive q).trans (h.roleLive q)
  members := fun p => (h'.members p).trans (h.members p)
  connected := fun session x p hx hp => by
    obtain ⟨y, hy, hin⟩ := h'.connected session x p hx hp
    exact h.connected session y p hy hin

theorem Goes.trans (h : Goes s s') (h' : Goes s' s'') : Goes s s'' :=
  ⟨h.toGoesOn.trans h'.toGoesOn, fun ha => h'.acquainted (h.acquainted ha)⟩

theorem Goes.held (h : Goes s s') : s'.combatPool.Held p ↔ s.combatPool.Held p := by
  rw [PoolTemplate.Held, PoolTemplate.Held, h.live, h.list]

theorem Goes.enrolled (h : Goes s s') (he : s.Enrolled) : s'.Enrolled := by
  constructor
  · constructor
    · rw [h.list]
      exact he.pool.nodup
    · intro p hp
      rw [h.live]
      rw [h.list] at hp
      exact he.pool.live p hp
  · intro c p hc
    rw [h.combats] at hc
    obtain ⟨hheld, hid⟩ := he.combats c p hc
    exact ⟨h.held.mpr hheld, (h.combat p).id.trans hid⟩
  · intro p id b hb
    obtain ⟨b', hb', hsite⟩ := (h.combat p).building hb
    obtain ⟨hid, hreg⟩ := he.buildings p id b' hb'
    constructor
    · rw [← hid]
      exact (congrArg Prod.fst hsite).symm
    · rw [h.combats, (h.combat p).id]
      exact hreg

theorem Goes.keepsPace (h : Goes s s') (hp : s.Paced) : s'.Paced := by
  refine ⟨h.paced hp.toPacedFields, fun c p hc => ?_⟩
  rw [h.combats] at hc
  rw [(h.combat p).maxTime]
  exact hp.times c p hc

/-! ## Changes of an object -/

/-- The sessions change, and none gets a combat. -/
theorem goes_setSessions {sessions : SessionPtr → Option AppSession}
    (hsessions : ∀ session x p, sessions session = some x → p ∈ x.connectedCombats →
      ∃ y, s.sessions session = some y ∧ p ∈ y.connectedCombats) :
    Goes s { s with sessions := sessions } where
  combats := rfl
  combatIds := rfl
  list := rfl
  live := fun _ => rfl
  combat := fun _ => .refl _
  paced := fun h => ⟨h.warriors, h.descriptions⟩
  roles := rfl
  roleList := rfl
  roleLive := fun _ => rfl
  members := fun _ => rfl
  connected := hsessions
  acquainted := fun h session x p hx hp => by
    obtain ⟨y, hy, hin⟩ := hsessions session x p hx hp
    exact h session y p hy hin

theorem goes_outside (s : CombatManagers) (combatNews roleNews : List (Option Ptr))
    (buildingAnswers warriorAnswers : List Bool) (sent : List (SessionPtr × CombatMessage)) :
    Goes s { s with
      combatPool := { s.combatPool with news := combatNews }
      rolePool := { s.rolePool with news := roleNews }
      buildingAnswers := buildingAnswers
      warriorAnswers := warriorAnswers
      sent := sent } where
  combats := rfl
  combatIds := rfl
  list := rfl
  live := fun _ => rfl
  combat := fun _ => .refl _
  paced := fun h => ⟨h.warriors, h.descriptions⟩
  roles := rfl
  roleList := rfl
  roleLive := fun _ => rfl
  members := fun _ => rfl
  connected := fun _ x _ hx hp => ⟨x, hx, hp⟩
  acquainted := fun h => h

theorem Goes.refl (s : CombatManagers) : Goes s s :=
  goes_setSessions fun _ x _ hx hp => ⟨x, hx, hp⟩

theorem goes_modifyRole {change : CombatRoleField → CombatRoleField}
    (hchange : (change (s.role q)).warriorDescriptions = (s.role q).warriorDescriptions) :
    Goes s (s.modifyRole q change) where
  combats := rfl
  combatIds := rfl
  list := rfl
  live := fun _ => rfl
  combat := fun _ => .refl _
  paced := fun h => by
    refine ⟨h.warriors, fun q' id d hd => ?_⟩
    rcases modifyRole_or s q q' change with hsame | ⟨rfl, hchanged⟩
    · rw [hsame] at hd
      exact h.descriptions q' id d hd
    · rw [hchanged, hchange] at hd
      exact h.descriptions q' id d hd
  roles := rfl
  roleList := rfl
  roleLive := fun _ => PoolTemplate.modify_isSome change
  members := fun _ => rfl
  connected := fun _ x _ hx hp => ⟨x, hx, hp⟩
  acquainted := fun h => h

theorem goesOn_modifyCombat {change : CombatField → CombatField}
    (hcontinues : (s.combat p).Continues (change (s.combat p)))
    (hroles : (change (s.combat p)).roles = (s.combat p).roles)
    (hpaced : s.PacedFields → ∀ (id : Int) w, (change (s.combat p)).warriors[id]? = some w →
      w.Paced) : GoesOn s (s.modifyCombat p change) where
  combats := rfl
  combatIds := rfl
  list := rfl
  live := fun _ => PoolTemplate.modify_isSome change
  combat := fun p' => by
    rcases modifyCombat_or s p p' change with hsame | ⟨rfl, hchanged⟩
    · rw [hsame]
      exact .refl _
    · rw [hchanged]
      exact hcontinues
  paced := fun h => by
    constructor
    · intro p' id w hw
      rcases modifyCombat_or s p p' change with hsame | ⟨rfl, hchanged⟩
      · rw [hsame] at hw
        exact h.warriors p' id w hw
      · rw [hchanged] at hw
        exact hpaced h id w hw
    · exact h.descriptions
  roles := rfl
  roleList := rfl
  roleLive := fun _ => rfl
  members := fun p' => by
    rcases modifyCombat_or s p p' change with hsame | ⟨rfl, hchanged⟩
    · rw [hsame]
    · rw [hchanged, hroles]
  connected := fun _ x _ hx hp => ⟨x, hx, hp⟩

theorem goes_modifyCombat {change : CombatField → CombatField}
    (hcontinues : (s.combat p).Continues (change (s.combat p)))
    (hroles : (change (s.combat p)).roles = (s.combat p).roles)
    (happSession : (change (s.combat p)).appSession = (s.combat p).appSession)
    (hpaced : s.PacedFields → ∀ (id : Int) w, (change (s.combat p)).warriors[id]? = some w →
      w.Paced) : Goes s (s.modifyCombat p change) where
  toGoesOn := goesOn_modifyCombat hcontinues hroles hpaced
  acquainted := fun h session x p' hx hp => by
    rcases modifyCombat_or s p p' change with hsame | ⟨rfl, hchanged⟩
    · rw [hsame]
      exact h session x p' hx hp
    · rw [hchanged, happSession]
      exact h session x p' hx hp

/-- A combat changes but for what lasts, its warriors, its roles and its session. -/
theorem goes_beside {change : CombatField → CombatField}
    (hcontinues : (s.combat p).Continues (change (s.combat p)))
    (hwarriors : (change (s.combat p)).warriors = (s.combat p).warriors)
    (hroles : (change (s.combat p)).roles = (s.combat p).roles)
    (happSession : (change (s.combat p)).appSession = (s.combat p).appSession) :
    Goes s (s.modifyCombat p change) := by
  refine goes_modifyCombat hcontinues hroles happSession fun h id w hw => ?_
  rw [hwarriors] at hw
  exact h.warriors p id w hw

theorem goes_send (s : CombatManagers) (session : SessionPtr) (message : CombatMessage) :
    Goes s (s.send session message) := goes_outside s _ _ _ _ _

/-- A building takes the place of one with the same site. -/
theorem goes_setBuilding {id : Int} {b d : CombatBuildingField}
    (hb : (s.combat p).buildings[id]? = some b) (hsite : d.site = b.site) :
    Goes s (s.modifyCombat p fun combat =>
      { combat with buildings := combat.buildings.insert id d }) := by
  refine goes_beside ⟨rfl, rfl, rfl, Int.le_refl _, fun id' => ?_⟩ rfl rfl rfl
  rw [ExtTreeMap.getElem?_insert]
  split
  · rename_i heq
    obtain rfl := Std.compare_eq_iff_eq.mp heq
    rw [hb, Option.map_some, Option.map_some, hsite]
  · rfl

/-- A warrior takes the place of one with the same speeds. -/
theorem goes_setWarrior {id : Int} {w w' : CombatWarriorField}
    (hw : (s.combat p).warriors[id]? = some w)
    (hspeeds : w'.moveSpeed = w.moveSpeed ∧ w'.attackSpeed = w.attackSpeed) :
    Goes s (s.modifyCombat p fun combat =>
      { combat with warriors := combat.warriors.insert id w' }) := by
  refine goes_modifyCombat ⟨rfl, rfl, rfl, Int.le_refl _, fun _ => rfl⟩ rfl rfl fun h id' x hx => ?_
  rw [ExtTreeMap.getElem?_insert] at hx
  split at hx
  · obtain rfl := Option.some.inj hx
    rw [CombatWarriorField.Paced, hspeeds.1, hspeeds.2]
    exact h.warriors p id w hw
  · exact h.warriors p id' x hx

theorem goes_removeWarrior (s : CombatManagers) (p : Ptr) (id : Int) :
    Goes s (s.modifyCombat p fun combat => combat.removeWarrior id) := by
  refine goes_modifyCombat ⟨rfl, rfl, rfl, Int.le_refl _, fun _ => rfl⟩ rfl rfl fun h id' x hx => ?_
  rw [CombatField.removeWarrior, ExtTreeMap.getElem?_erase] at hx
  split at hx
  · cases hx
  · exact h.warriors p id' x hx

theorem goes_allocateId (s : CombatManagers) (p : Ptr) : Goes s (s.allocateId p).2 :=
  goes_beside ⟨rfl, rfl, rfl, Int.le_add_one (Int.le_refl _), fun _ => rfl⟩ rfl rfl rfl

/-! ## Supply, resources and buildings that change hands -/

theorem goes_allocateSupplies (combat : CombatField) (l : List UInt64) (s : CombatManagers) :
    Goes s (s.allocateSupplies combat l) :=
  keeps_allocateSupplies (fun _ h _ _ _ _ _ => h.trans (goes_modifyRole rfl)) (.refl s)

theorem goes_recoverRoles (combat : CombatField) (l : List UInt64) (s : CombatManagers) :
    Goes s (s.recoverRoles combat l) :=
  keeps_recoverRoles (fun _ h _ _ _ _ _ _ => h.trans (goes_modifyRole rfl)) (.refl s)

theorem goes_refund (s : CombatManagers) (p : Ptr) (warriorId : Int) :
    Goes s (s.refund p warriorId) := by
  rw [refund]
  split
  · exact .refl s
  · exact goes_modifyRole rfl

theorem goes_convertCamp (s : CombatManagers) (p : Ptr) (originalHostId hostId : UInt64) :
    Goes s (s.onEventCombatConvertCamp p originalHostId hostId) :=
  keeps_convertCamp (fun _ h _ _ => h.trans (goes_modifyRole rfl))
    (fun _ h _ _ => h.trans (goes_modifyRole rfl)) (.refl s)

/-! ## Sessions -/

theorem goes_setAppSession (s : CombatManagers) (q : Ptr) (session : SessionPtr) :
    Goes s (s.setAppSession q session) := by
  have hrole : Goes s (s.modifyRole q fun role => { role with appSession := some session }) :=
    goes_modifyRole rfl
  refine hrole.trans (goes_setSessions fun session' x p hx hp => ?_)
  by_cases heq : session' = session
  · rw [heq, Function.update_self, Option.map_eq_some_iff] at hx
    obtain ⟨y, hy, rfl⟩ := hx
    exact ⟨y, heq ▸ hy, hp⟩
  · rw [Function.update_of_ne heq] at hx
    exact ⟨x, hx, hp⟩

theorem goes_connectArgent (s : CombatManagers) (session : SessionPtr) (r : UInt64)
    (combatId : Int) : Goes s (s.onMessageCombatConnectArgentRequest session r combatId) := by
  rw [onMessageCombatConnectArgentRequest]
  split
  · exact goes_send s _ _
  · exact (goes_setAppSession s _ _).trans (goes_send _ _ _)

theorem goes_reconnect (s : CombatManagers) (session : SessionPtr) (r : UInt64)
    (combatId : Int) : Goes s (s.onMessageCombatReconnectRequest session r combatId) := by
  rw [onMessageCombatReconnectRequest]
  split
  · exact (goes_setAppSession s _ _).trans (goes_send _ _ _)
  · exact .refl s

theorem goes_accept (s : CombatManagers) (session : SessionPtr) : Goes s (s.accept session) := by
  rw [accept]
  split
  · exact .refl s
  · refine goes_setSessions fun session' x p hx hp => ?_
    by_cases heq : session' = session
    · rw [heq, Function.update_self] at hx
      obtain rfl := Option.some.inj hx
      simp at hp
    · rw [Function.update_of_ne heq] at hx
      exact ⟨x, hx, hp⟩

theorem goes_closeSession (s : CombatManagers) (session : SessionPtr) :
    Goes s (s.closeSession session) := by
  -- The combats let go of their session before it goes, so only both together keep what is known.
  have hcombats : ∀ (l : List Ptr) (s : CombatManagers),
      GoesOn s (l.foldl (fun s p => s.modifyCombat p fun combat =>
        { combat with appSession := none }) s) ∧
      (∀ p, p ∉ l → (l.foldl (fun s p => s.modifyCombat p fun combat =>
        { combat with appSession := none }) s).combat p = s.combat p) ∧
      (l.foldl (fun s p => s.modifyCombat p fun combat =>
        { combat with appSession := none }) s).sessions = s.sessions := by
    intro l
    induction l with
    | nil => exact fun s => ⟨(Goes.refl s).toGoesOn, fun _ _ => rfl, rfl⟩
    | cons p l ih =>
      intro s
      obtain ⟨hstays, hsame, hsessions⟩ := ih (s.modifyCombat p fun combat =>
        { combat with appSession := none })
      refine ⟨(goesOn_modifyCombat ⟨rfl, rfl, rfl, Int.le_refl _, fun _ => rfl⟩ rfl
        fun h => h.warriors p).trans hstays, fun p' hp' => ?_, hsessions⟩
      have hne : p' ≠ p := by
        rintro rfl
        exact hp' (List.mem_cons_self ..)
      refine (hsame p' fun hin => hp' (List.mem_cons_of_mem _ hin)).trans ?_
      exact PoolTemplate.read_modify_other _ hne _
  have hroles : ∀ (l : List Ptr) (s : CombatManagers),
      GoesOn s (l.foldl (fun s q => s.modifyRole q fun role => { role with appSession := none }) s) ∧
      (l.foldl (fun s q => s.modifyRole q fun role =>
        { role with appSession := none }) s).combatPool = s.combatPool ∧
      (l.foldl (fun s q => s.modifyRole q fun role =>
        { role with appSession := none }) s).sessions = s.sessions := by
    intro l
    induction l with
    | nil => exact fun s => ⟨(Goes.refl s).toGoesOn, rfl, rfl⟩
    | cons q l ih =>
      intro s
      obtain ⟨hstays, hpool, hsessions⟩ := ih (s.modifyRole q fun role =>
        { role with appSession := none })
      exact ⟨GoesOn.trans (goes_modifyRole rfl).toGoesOn hstays, hpool, hsessions⟩
  rw [closeSession]
  split
  · exact .refl s
  · rename_i x hx
    obtain ⟨hstays, hothers, hsessions⟩ := hcombats x.connectedCombats.toList s
    obtain ⟨hstays', hpool, hsessions'⟩ := hroles x.connectedRoles.toList
      (x.connectedCombats.toList.foldl (fun s p => s.modifyCombat p fun combat =>
        { combat with appSession := none }) s)
    have hleft : ∀ session' y, Function.update s.sessions session none session' = some y →
        session' ≠ session ∧ s.sessions session' = some y := by
      intro session' y hy
      by_cases heq : session' = session
      · rw [heq, Function.update_self] at hy
        cases hy
      · rw [Function.update_of_ne heq] at hy
        exact ⟨heq, hy⟩
    dsimp only
    rw [hsessions', hsessions]
    constructor
    · refine (hstays.trans hstays').trans (goes_setSessions fun session' y p hy hp => ?_).toGoesOn
      rw [hsessions', hsessions]
      exact ⟨y, (hleft session' y hy).2, hp⟩
    · intro h session' y p hy hp
      obtain ⟨hne, hold⟩ := hleft session' y hy
      have happSession := h session' y p hold hp
      have hout : p ∉ x.connectedCombats.toList := by
        intro hin
        rw [h session x p hx (ExtTreeSet.mem_toList.mp hin)] at happSession
        exact hne (Option.some.inj happSession).symm
      rw [← happSession, ← hothers p hout]
      exact congrArg (fun pool : PoolTemplate CombatField => (pool.read p).appSession) hpool

theorem goes_sendSettlement (s : CombatManagers) (p : Ptr) : Goes s (s.sendSettlement p) := by
  rw [sendSettlement]
  split
  · exact .refl s
  · exact goes_send s _ _

/-! ## A new warrior -/

/-- Where nothing overflows, the scaling of a field changes nothing. -/
theorem generateField_eq {n : Int} (h : 0 ≤ n ∧ n ≤ 214748) :
    CombatWarriorField.generateField n 0 0 = n := by
  have hbase : toInt32 (n + 0) = n := by
    rw [Int.add_zero]
    exact toInt32_eq (by omega)
  have hper : toInt32 (10000 + 0) = 10000 := toInt32_eq (by omega)
  rw [CombatWarriorField.generateField, hbase, hper, toInt32_eq (by omega)]
  exact Int.mul_tdiv_cancel n (by omega)

theorem PacedFields.initializeWarrior (h : s.PacedFields) {d : WarriorDescription} (hd : d.Paced)
    (id : Int) (q q' : Ptr) : (CombatWarriorField.initializeWarrior id q (s.role q') d).Paced := by
  rw [CombatWarriorField.initializeWarrior, CombatWarriorField.generateFields]
  split
  · exact ⟨hd.1, hd.2.1, hd.2.2.1⟩
  · rename_i d' hd'
    obtain ⟨hlower, hupper, hattack, hattack'⟩ := h.descriptions q' _ d' hd'
    have hmove : CombatWarriorField.generateField d'.moveSpeed 0 0 = d'.moveSpeed :=
      generateField_eq (by omega)
    have hspeed : CombatWarriorField.generateField d'.attackSpeed 0 0 = d'.attackSpeed :=
      generateField_eq (by omega)
    refine ⟨?_, ?_, ?_⟩
    · show 1 ≤ CombatWarriorField.generateField d'.moveSpeed 0 0
      rw [hmove]
      exact hlower
    · show CombatWarriorField.generateField d'.moveSpeed 0 0 ≤ 1000
      rw [hmove]
      exact hupper
    · show 1 ≤ CombatWarriorField.generateField d'.attackSpeed 0 0
      rw [hspeed]
      exact hattack

theorem goes_addWarrior {d : WarriorDescription} (hd : s.PacedFields → d.Paced) (id : Int) :
    Goes s (s.modifyCombat p fun combat =>
      combat.addWarrior (.initializeWarrior id q (s.role q) d)) := by
  refine goes_modifyCombat ⟨rfl, rfl, rfl, Int.le_refl _, fun _ => rfl⟩ rfl rfl fun h id' x hx => ?_
  rw [CombatField.addWarrior, ExtTreeMap.getElem?_insertIfNew] at hx
  split at hx
  · obtain rfl := Option.some.inj hx
    exact h.initializeWarrior (hd h) id q q
  · exact h.warriors p id' x hx

/-! ## What a new object holds -/

theorem clear_buildings (x : CombatField) (id : Int) : x.clear.buildings[id]? = none := by
  rw [CombatField.clear]
  simp

theorem clear_warriors (x : CombatField) (id : Int) : x.clear.warriors[id]? = none := by
  rw [CombatField.clear]
  simp

theorem new_buildings (id : Int) : ((default : CombatField).buildings)[id]? = none := by
  show (∅ : ExtTreeMap Int CombatBuildingField)[id]? = none
  simp

theorem new_warriors (id : Int) : ((default : CombatField).warriors)[id]? = none := by
  show (∅ : ExtTreeMap Int CombatWarriorField)[id]? = none
  simp

theorem new_descriptions (id : Int) :
    ((default : CombatRoleField).warriorDescriptions)[id]? = none := by
  show (∅ : ExtTreeMap Int WarriorDescription)[id]? = none
  simp

/-! ## Combats that end -/

/-- The combats but the one that ends stay and go on. -/
def Lasts (ended : Option Int) (s s' : CombatManagers) : Prop :=
  ∀ c p, s.combats[c]? = some p → ended ≠ some c →
    s'.combats[c]? = some p ∧ (s.combat p).Continues (s'.combat p)

theorem Goes.lasts (h : Goes s s') (ended : Option Int) : Lasts ended s s' :=
  fun c p hc _ => ⟨by rw [h.combats, hc], h.combat p⟩

theorem Lasts.trans {ended : Option Int} (h : Lasts ended s s') (h' : Lasts ended s' s'') :
    Lasts ended s s'' := by
  intro c p hc hne
  obtain ⟨hc', hcontinues⟩ := h c p hc hne
  obtain ⟨hc'', hcontinues'⟩ := h' c p hc' hne
  exact ⟨hc'', hcontinues.trans hcontinues'⟩

/-- The combats but the one that ends stay as they are. -/
def Untouched (ended : Option Int) (s s' : CombatManagers) : Prop :=
  ∀ c p, s.combats[c]? = some p → ended ≠ some c →
    s'.combats[c]? = some p ∧ s'.combat p = s.combat p

theorem Untouched.lasts {ended : Option Int} (h : Untouched ended s s') : Lasts ended s s' := by
  intro c p hc hne
  obtain ⟨hc', hsame⟩ := h c p hc hne
  rw [hsame]
  exact ⟨hc', .refl _⟩

theorem Untouched.trans {ended : Option Int} (h : Untouched ended s s')
    (h' : Untouched ended s' s'') : Untouched ended s s'' := by
  intro c p hc hne
  obtain ⟨hc', hsame⟩ := h c p hc hne
  obtain ⟨hc'', hsame'⟩ := h' c p hc' hne
  exact ⟨hc'', hsame'.trans hsame⟩

/-- The combats that come have ids that were not given before. -/
def Admits (s s' : CombatManagers) : Prop :=
  s.combatIds ≤ s'.combatIds ∧ ∀ (c : Int) p, s'.combats[c]? = some p →
    s.combats[c]? = some p ∨ s.combatIds ≤ c ∧ c < s'.combatIds

theorem Admits.same (hcombats : s'.combats = s.combats) (hids : s'.combatIds = s.combatIds) :
    Admits s s' := by
  refine ⟨Int.le_of_eq hids.symm, fun c p hc => ?_⟩
  rw [hcombats] at hc
  exact Or.inl hc

theorem Admits.trans (h : Admits s s') (h' : Admits s' s'') : Admits s s'' := by
  refine ⟨Int.le_trans h.1 h'.1, fun c p hc => ?_⟩
  rcases h'.2 c p hc with hold | hnew
  · rcases h.2 c p hold with hold | hnew
    · exact Or.inl hold
    · exact Or.inr ⟨hnew.1, Int.lt_of_lt_of_le hnew.2 h'.1⟩
  · exact Or.inr ⟨Int.le_trans h.1 hnew.1, hnew.2⟩

theorem Goes.admits (h : Goes s s') : Admits s s' := .same h.combats h.combatIds

theorem finalizeCombat_combatIds (s : CombatManagers) (p : Ptr) :
    (s.finalizeCombat p).combatIds = s.combatIds := by
  rw [finalizeCombat_eq]

/-- A combat that ends makes room for none. -/
theorem takenDown_admits (s : CombatManagers) (c : Int) (p : Ptr) :
    Admits s (((s.removeCombat c).finalizeCombat p).deallocateCombat p) := by
  have hcombats : (((s.removeCombat c).finalizeCombat p).deallocateCombat p).combats =
      s.combats.erase c := finalizeCombat_combats (s.removeCombat c) p
  refine ⟨Int.le_of_eq (finalizeCombat_combatIds (s.removeCombat c) p).symm, fun c' p' hc => ?_⟩
  rw [hcombats, ExtTreeMap.getElem?_erase] at hc
  split at hc
  · cases hc
  · exact Or.inl hc

/-- A combat that no id leads to is finalized and given back. -/
theorem Enrolled.giveBack (hpool : s.combatPool.Sound) (hp : s.combatPool.Held p)
    (hcombats : ∀ (c : Int) p', s.combats[c]? = some p' →
      p' ≠ p ∧ s.combatPool.Held p' ∧ (s.combat p').id = c)
    (hbuildings : ∀ p' (id : Int) b, p' ≠ p → (s.combat p').buildings[id]? = some b →
      b.id = id ∧ s.combats[(s.combat p').id]? = some p') :
    ((s.finalizeCombat p).deallocateCombat p).Enrolled ∧
      ((s.finalizeCombat p).deallocateCombat p).combats = s.combats ∧
      (∀ (c : Int) p', s.combats[c]? = some p' →
        ((s.finalizeCombat p).deallocateCombat p).combat p' = s.combat p') ∧
      (s.PacedFields → ((s.finalizeCombat p).deallocateCombat p).PacedFields) := by
  have hcleared := hpool.modify p CombatField.clear
  have hheld : (s.combatPool.modify p CombatField.clear).Held p :=
    (PoolTemplate.held_modify _).mpr hp
  have hpoolEq : ((s.finalizeCombat p).deallocateCombat p).combatPool =
      (s.combatPool.modify p CombatField.clear).deallocate p := by
    rw [finalizeCombat_eq]
    rfl
  have hread : ∀ p', ((s.finalizeCombat p).deallocateCombat p).combat p' =
        (s.combatPool.modify p CombatField.clear).read p' ∨
      ((s.finalizeCombat p).deallocateCombat p).combat p' = default := by
    intro p'
    rw [combat, hpoolEq]
    exact PoolTemplate.deallocate_read_or _ p p'
  have hmodified : ∀ p', (s.combatPool.modify p CombatField.clear).read p' =
      if p' = p then (s.combat p).clear else s.combat p' := by
    intro p'
    split
    · rename_i heq
      rw [heq]
      exact PoolTemplate.read_modify hp.1 _
    · rename_i hne
      exact PoolTemplate.read_modify_other _ hne _
  have hkept : ∀ (c : Int) p', s.combats[c]? = some p' →
      ((s.finalizeCombat p).deallocateCombat p).combat p' = s.combat p' := by
    intro c p' hc
    obtain ⟨hne, hheld', _⟩ := hcombats c p' hc
    rw [combat, hpoolEq, PoolTemplate.read,
      PoolTemplate.deallocate_objects hcleared hheld hheld'.2 hne]
    exact PoolTemplate.read_modify_other _ hne _
  refine ⟨?_, by rw [finalizeCombat_eq]; rfl, hkept, ?_⟩
  · constructor
    · rw [finalizeCombat_eq]
      exact (PoolTemplate.deallocate_reduced hcleared hheld).sound
    · intro c p' hc
      have hc : s.combats[c]? = some p' := by rwa [finalizeCombat_eq] at hc
      obtain ⟨hne, hheld', hid⟩ := hcombats c p' hc
      constructor
      · rw [finalizeCombat_eq]
        exact PoolTemplate.deallocate_held hcleared hheld
          ((PoolTemplate.held_modify _).mpr hheld') hne
      · rw [hkept c p' hc]
        exact hid
    · intro p' id b hb
      rcases hread p' with hsame | hnew
      · rw [hsame, hmodified] at hb ⊢
        split at hb
        · rw [clear_buildings] at hb
          cases hb
        · rename_i hne
          rw [if_neg hne, finalizeCombat_eq]
          exact hbuildings p' id b hne hb
      · rw [hnew] at hb
        rw [new_buildings] at hb
        cases hb
  · intro h
    constructor
    · intro p' id w hw
      rcases hread p' with hsame | hnew
      · rw [hsame, hmodified] at hw
        split at hw
        · rw [clear_warriors] at hw
          cases hw
        · exact h.warriors p' id w hw
      · rw [hnew] at hw
        rw [new_warriors] at hw
        cases hw
    · intro q id d hd
      rw [finalizeCombat_eq] at hd
      rcases foldl_dropRole_role (s.combat p).roles.toList s q with hsame | hnew
      · have hd : ((List.foldl dropRole s (s.combat p).roles.toList).role q).warriorDescriptions[id]? =
            some d := hd
        rw [hsame] at hd
        exact h.descriptions q id d hd
      · have hd : ((List.foldl dropRole s (s.combat p).roles.toList).role q).warriorDescriptions[id]? =
            some d := hd
        rw [hnew] at hd
        rw [new_descriptions] at hd
        cases hd

/-- What a change leaves of the combats: all but `ended` last, and nothing gets out of bounds. -/
structure Outlives (ended : Option Int) (s s' : CombatManagers) : Prop where
  enrolled : s'.Enrolled
  lasts : Lasts ended s s'
  paced : s.Paced → s'.Paced

/-- A registered combat is removed, finalized and given back. -/
theorem Enrolled.takenDown (h : s.Enrolled) (hc : s.combats[c]? = some p) :
    Outlives (some c) s (((s.removeCombat c).finalizeCombat p).deallocateCombat p) ∧
      Untouched (some c) s (((s.removeCombat c).finalizeCombat p).deallocateCombat p) := by
  obtain ⟨hheld, hid⟩ := h.combats c p hc
  have herased : ∀ c' : Int, (s.removeCombat c).combats[c']? =
      if c' = c then none else s.combats[c']? := by
    intro c'
    rw [removeCombat, ExtTreeMap.getElem?_erase]
    by_cases heq : c' = c
    · rw [if_pos heq, if_pos (Std.compare_eq_iff_eq.mpr heq.symm)]
    · rw [if_neg heq, if_neg fun hcompare => heq (Std.compare_eq_iff_eq.mp hcompare).symm]
  have hcombats : ∀ (c' : Int) p', (s.removeCombat c).combats[c']? = some p' →
      p' ≠ p ∧ s.combatPool.Held p' ∧ (s.combat p').id = c' := by
    intro c' p' hc'
    rw [herased] at hc'
    split at hc'
    · cases hc'
    · rename_i hne
      obtain ⟨hheld', hid'⟩ := h.combats c' p' hc'
      refine ⟨?_, hheld', hid'⟩
      rintro rfl
      exact hne (hid'.symm.trans hid)
  obtain ⟨henrolled, hcombats', hsame, hpaced⟩ := Enrolled.giveBack (s := s.removeCombat c) h.pool
    hheld hcombats fun p' id b hne hb => by
      obtain ⟨hbid, hreg⟩ := h.buildings p' id b hb
      refine ⟨hbid, ?_⟩
      show (s.removeCombat c).combats[(s.combat p').id]? = some p'
      rw [herased, if_neg, hreg]
      intro heq
      rw [heq, hc] at hreg
      exact hne (Option.some.inj hreg).symm
  have huntouched : Untouched (some c) s
      (((s.removeCombat c).finalizeCombat p).deallocateCombat p) := by
    intro c' p' hc' hne
    have hstays : (s.removeCombat c).combats[c']? = some p' := by
      rw [herased, if_neg, hc']
      rintro rfl
      exact hne rfl
    rw [hcombats', hsame c' p' hstays]
    exact ⟨hstays, rfl⟩
  refine ⟨⟨henrolled, huntouched.lasts, fun hp => ?_⟩, huntouched⟩
  refine ⟨hpaced ⟨hp.warriors, hp.descriptions⟩, fun c' p' hc' => ?_⟩
  rw [hcombats'] at hc'
  rw [hsame c' p' hc']
  rw [herased] at hc'
  split at hc'
  · cases hc'
  · exact hp.times c' p' hc'

theorem Goes.outlives (h : Goes s s') (he : s.Enrolled) (ended : Option Int) :
    Outlives ended s s' := ⟨h.enrolled he, h.lasts ended, h.keepsPace⟩

theorem Outlives.trans {ended : Option Int} (h : Outlives ended s s')
    (h' : Outlives ended s' s'') : Outlives ended s s'' :=
  ⟨h'.enrolled, h.lasts.trans h'.lasts, fun hp => h'.paced (h.paced hp)⟩

theorem Enrolled.closeCombat (h : s.Enrolled) (hc : s.combats[c]? = some p) :
    Outlives (some c) s (s.closeCombat c p) := by
  have hsend := goes_sendSettlement s p
  have hc' : (s.sendSettlement p).combats[c]? = some p := by rw [hsend.combats, hc]
  exact (hsend.outlives h _).trans ((hsend.enrolled h).takenDown hc').1

theorem Enrolled.closeCombat_untouched (h : s.Enrolled) (hc : s.combats[c]? = some p) :
    Untouched (some c) s (s.closeCombat c p) := by
  have hsend := goes_sendSettlement s p
  have hc' : (s.sendSettlement p).combats[c]? = some p := by rw [hsend.combats, hc]
  have hsent : Untouched (some c) s (s.sendSettlement p) := by
    intro c' p' hc' _
    refine ⟨by rw [hsend.combats, hc'], ?_⟩
    rw [sendSettlement]
    split
    · rfl
    · rfl
  exact hsent.trans ((hsend.enrolled h).takenDown hc').2

theorem closeCombat_admits (s : CombatManagers) (c : Int) (p : Ptr) :
    Admits s (s.closeCombat c p) :=
  (goes_sendSettlement s p).admits.trans (takenDown_admits (s.sendSettlement p) c p)

/-! ## Deploying -/

def PacedDescriptions (s : CombatManagers) : Prop :=
  ∀ q (id : Int) d, (s.role q).warriorDescriptions[id]? = some d → d.Paced

/-- What goes on between the start and the end of a request that deploys the combat at `p`. -/
structure Deploys (data : CombatInitialData) (p : Ptr) (s s' : CombatManagers) : Prop where
  combats : s'.combats = s.combats
  combatIds : s'.combatIds = s.combatIds
  list : s'.combatPool.list = s.combatPool.list
  live : ∀ p', (s'.combatPool.objects p').isSome = (s.combatPool.objects p').isSome
  others : ∀ p', p' ≠ p → s'.combat p' = s.combat p'
  combat : (s'.combat p).id = (s.combat p).id ∧ (s'.combat p).maxTime = (s.combat p).maxTime ∧
    (s'.combat p).warriors = (s.combat p).warriors
  keyed : (∀ (id : Int) b, (s.combat p).buildings[id]? = some b → b.id = id) →
    ∀ (id : Int) b, (s'.combat p).buildings[id]? = some b → b.id = id
  descriptions : data.Paced → s.PacedDescriptions → s'.PacedDescriptions

theorem Deploys.refl (data : CombatInitialData) (p : Ptr) (s : CombatManagers) :
    Deploys data p s s :=
  ⟨rfl, rfl, rfl, fun _ => rfl, fun _ _ => rfl, ⟨rfl, rfl, rfl⟩, id, fun _ => id⟩

theorem Deploys.trans (h : Deploys data p s s') (h' : Deploys data p s' s'') :
    Deploys data p s s'' where
  combats := h'.combats.trans h.combats
  combatIds := h'.combatIds.trans h.combatIds
  list := h'.list.trans h.list
  live := fun p' => (h'.live p').trans (h.live p')
  others := fun p' hne => (h'.others p' hne).trans (h.others p' hne)
  combat := ⟨h'.combat.1.trans h.combat.1, h'.combat.2.1.trans h.combat.2.1,
    h'.combat.2.2.trans h.combat.2.2⟩
  keyed := fun hkeyed => h'.keyed (h.keyed hkeyed)
  descriptions := fun hdata hs => h'.descriptions hdata (h.descriptions hdata hs)

theorem deploys_roles (hcombats : s'.combats = s.combats) (hids : s'.combatIds = s.combatIds)
    (hpool : s'.combatPool = s.combatPool)
    (hdescriptions : data.Paced → s.PacedDescriptions → s'.PacedDescriptions) :
    Deploys data p s s' := by
  have hcombat : ∀ p, s'.combat p = s.combat p := by
    intro p
    rw [CombatManagers.combat, CombatManagers.combat, hpool]
  constructor
  · exact hcombats
  · exact hids
  · rw [hpool]
  · intro p'
    rw [hpool]
  · intro p' _
    exact hcombat p'
  · rw [hcombat]
    exact ⟨rfl, rfl, rfl⟩
  · intro h
    rw [hcombat]
    exact h
  · exact hdescriptions

theorem deploys_modifyRole {change : CombatRoleField → CombatRoleField}
    (hchange : ∀ role, (∀ (id : Int) d, role.warriorDescriptions[id]? = some d → d.Paced) →
      data.Paced → ∀ (id : Int) d, (change role).warriorDescriptions[id]? = some d → d.Paced) :
    Deploys data p s (s.modifyRole q change) := by
  refine deploys_roles rfl rfl rfl fun hdata hs q' => ?_
  rcases modifyRole_or s q q' change with hsame | ⟨rfl, hchanged⟩
  · rw [hsame]
    exact hs q'
  · rw [hchanged]
    exact hchange _ (hs q') hdata

theorem deploys_modifyCombat {change : CombatField → CombatField}
    (hchange : (change (s.combat p)).id = (s.combat p).id ∧
      (change (s.combat p)).maxTime = (s.combat p).maxTime ∧
      (change (s.combat p)).warriors = (s.combat p).warriors)
    (hkeyed : (∀ (id : Int) b, (s.combat p).buildings[id]? = some b → b.id = id) →
      ∀ (id : Int) b, (change (s.combat p)).buildings[id]? = some b → b.id = id) :
    Deploys data p s (s.modifyCombat p change) where
  combats := rfl
  combatIds := rfl
  list := rfl
  live := fun _ => PoolTemplate.modify_isSome change
  others := fun p' hne => PoolTemplate.read_modify_other _ hne change
  combat := by
    rcases modifyCombat_or s p p change with hsame | ⟨_, hchanged⟩
    · rw [hsame]
      exact ⟨rfl, rfl, rfl⟩
    · rw [hchanged]
      exact hchange
  keyed := by
    rcases modifyCombat_or s p p change with hsame | ⟨_, hchanged⟩
    · rw [hsame]
      exact id
    · rw [hchanged]
      exact hkeyed
  descriptions := fun _ => id

theorem deploys_abandonRole (s : CombatManagers) (q : Ptr) :
    Deploys data p s (s.abandonRole q) := by
  have hdisconnect : Deploys data p s (s.disconnectRole q) := by
    rw [disconnectRole]
    split
    · exact .refl data p s
    · exact deploys_roles rfl rfl rfl fun _ => id
  have hfinalize : Deploys data p (s.disconnectRole q) (s.finalizeRole q) := by
    refine deploys_modifyRole fun role _ _ id d hd => ?_
    have hempty : (role.finalize.warriorDescriptions)[id]? = none := by
      rw [CombatRoleField.finalize]
      simp
    rw [hempty] at hd
    cases hd
  refine (hdisconnect.trans hfinalize).trans (deploys_roles rfl rfl rfl fun _ hs q' id d hd => ?_)
  rcases PoolTemplate.deallocate_read_or (s.finalizeRole q).rolePool q q' with hsame | hnew
  · refine hs q' id d ?_
    rw [role, ← hsame]
    exact hd
  · have hd : (PoolTemplate.read ((s.finalizeRole q).rolePool.deallocate q)
        q').warriorDescriptions[id]? = some d := hd
    rw [hnew] at hd
    rw [new_descriptions] at hd
    cases hd

theorem deploys_raiseBuilding (s : CombatManagers) (hostId : UInt64) (campId : Int)
    (description : BuildingDescription) :
    Deploys data p s (s.raiseBuilding p hostId campId description) := by
  have hid : Deploys data p s (s.allocateId p).2 :=
    deploys_modifyCombat ⟨rfl, rfl, rfl⟩ fun h => h
  refine hid.trans (deploys_modifyCombat ⟨rfl, rfl, rfl⟩ fun h id b hb => ?_)
  rw [CombatField.addBuilding, ExtTreeMap.getElem?_insertIfNew] at hb
  split at hb
  · rename_i heq
    rw [← Option.some.inj hb]
    exact Std.compare_eq_iff_eq.mp heq.1
  · exact h id b hb

theorem deploys_joinRole (s : CombatManagers) (r : UInt64) :
    Deploys data p s (s.joinRole p r) := by
  rw [joinRole]
  split
  · exact .refl data p s
  · exact (deploys_modifyCombat ⟨rfl, rfl, rfl⟩ fun h => h).trans
      (deploys_modifyRole fun _ h _ => h)

/-- New objects read as free addresses do. -/
theorem allocate_read {E : Type} [Inhabited E] (pool : PoolTemplate E) (q : Ptr) :
    pool.allocate.2.read q = pool.read q := by
  have hpush : ∀ pool : PoolTemplate E, pool.pushNew.read q = pool.read q := by
    intro pool
    rw [PoolTemplate.pushNew]
    split
    · rename_i p news _
      split
      · rfl
      · rename_i hfree
        rw [PoolTemplate.read, PoolTemplate.read]
        by_cases heq : q = p
        · rw [heq]
          simp [Option.not_isSome_iff_eq_none.mp hfree]
        · simp [heq]
    · rfl
    · rfl
  have hpushes : ∀ (n : Nat) (pool : PoolTemplate E),
      (PoolTemplate.pushNew^[n] pool).read q = pool.read q := by
    intro n
    induction n with
    | zero => exact fun _ => rfl
    | succ n ih =>
      intro pool
      rw [Function.iterate_succ_apply, ih, hpush]
  have hfilled : pool.filled.read q = pool.read q := by
    rw [PoolTemplate.filled]
    split
    · exact hpushes _ _
    · rfl
  rw [PoolTemplate.allocate_eq, ← hfilled]
  split
  · rfl
  · rfl

theorem mem_addWarriorDescriptions {l : List WarriorDescription} {role : CombatRoleField}
    {id : Int} {d : WarriorDescription}
    (hd : (l.foldl CombatRoleField.addWarriorDescription role).warriorDescriptions[id]? = some d) :
    role.warriorDescriptions[id]? = some d ∨ d ∈ l := by
  induction l generalizing role with
  | nil => exact Or.inl hd
  | cons x l ih =>
    rw [List.foldl_cons] at hd
    rcases ih hd with hold | hin
    · rw [CombatRoleField.addWarriorDescription, ExtTreeMap.getElem?_insertIfNew] at hold
      split at hold
      · rw [← Option.some.inj hold]
        exact Or.inr (List.mem_cons_self ..)
      · exact Or.inl hold
    · exact Or.inr (List.mem_cons_of_mem _ hin)

theorem role_of_items {camp : CombatCampData} {role : CombatRoleData}
    (h : DeployItem.role camp role ∈ data.items) : ∃ camp ∈ data.camps, role ∈ camp.roles := by
  simp only [CombatInitialData.items, CombatCampData.items, CombatRoleData.items,
    CombatRoleData.afterRole, List.mem_flatMap, List.mem_append, List.mem_cons, List.mem_map,
    List.not_mem_nil, or_false, reduceCtorEq, and_false, exists_false, DeployItem.role.injEq] at h
  obtain ⟨camp', hcamp, role', hrole, -, heq⟩ := h
  exact ⟨camp', hcamp, heq ▸ hrole⟩

/-- Every item of the request leaves it a deploy, and every exit gives the combat back. -/
theorem deploysRule (data : CombatInitialData) (s : CombatManagers) (p : Ptr) :
    DeployRule p (fun l t => (∀ item ∈ l, item ∈ data.items) ∧ Deploys data p s t)
      (fun _ l t => (∀ item ∈ l, item ∈ data.items) ∧ Deploys data p s t)
      (fun t => ∃ u, Deploys data p s u ∧ t = u.abandonCombat p) where
  role := by
    rintro camp role rest t ⟨hitems, ht⟩
    have hrole : DeployItem.role camp role ∈ data.items := by
      refine hitems _ ?_
      rw [CombatRoleData.items]
      exact List.mem_append_left _ (List.mem_cons_self ..)
    have hrest : ∀ item ∈ role.afterRole camp ++ rest, item ∈ data.items := by
      intro item hin
      refine hitems item ?_
      rw [CombatRoleData.items]
      exact List.mem_cons_of_mem _ hin
    have hallocate : Deploys data p t t.allocateRole.2 := by
      refine deploys_roles rfl rfl rfl fun _ hs q id d hd => hs q id d ?_
      rw [CombatManagers.role, ← allocate_read]
      exact hd
    rw [registerRole]
    split
    · rename_i u hu
      obtain rfl : t.allocateRole.2 = u := congrArg Prod.snd hu
      exact ⟨_, ht.trans hallocate, rfl⟩
    · rename_i q u hu
      obtain rfl : t.allocateRole.2 = u := congrArg Prod.snd hu
      have hinit : Deploys data p t.allocateRole.2 (t.allocateRole.2.modifyRole q fun x =>
          (x.initializeRole role.argentId role.name).setCamp camp) :=
        deploys_modifyRole fun _ h _ => h
      have hall := (ht.trans hallocate).trans hinit
      have hregister : ∀ (u : CombatManagers) (roles : ExtTreeMap UInt64 Ptr),
          Deploys data p u { u with roles := roles } :=
        fun _ _ => deploys_roles rfl rfl rfl fun _ => id
      have hdescribe : ∀ u : CombatManagers, Deploys data p u (u.modifyRole q fun x =>
          role.warriors.foldl CombatRoleField.addWarriorDescription x) := by
        intro u
        refine deploys_modifyRole fun x hx hdata id d hd => ?_
        rcases mem_addWarriorDescriptions hd with hold | hin
        · exact hx id d hold
        · obtain ⟨camp', hcamp, hin'⟩ := role_of_items hrole
          exact hdata.2 camp' hcamp role hin' d hin
      dsimp only
      split
      · exact ⟨_, hall.trans (deploys_abandonRole _ q), rfl⟩
      · rename_i added hadded
        rw [addRole] at hadded
        split at hadded
        · cases hadded
        · obtain rfl := Option.some.inj hadded
          exact ⟨hrest, (hall.trans (hregister _ _)).trans (hdescribe _)⟩
  roleBuilding := by
    rintro q campId description rest t ⟨hitems, ht⟩
    have hanswer : Deploys data p t t.allocateBuilding.2 := deploys_roles rfl rfl rfl fun _ => id
    rw [deployRoleBuilding]
    split
    · rename_i u hu
      obtain rfl : t.allocateBuilding.2 = u := congrArg Prod.snd hu
      exact ⟨_, (ht.trans hanswer).trans (deploys_abandonRole _ q), rfl⟩
    · rename_i u hu
      obtain rfl : t.allocateBuilding.2 = u := congrArg Prod.snd hu
      exact ⟨fun item hin => hitems item (List.mem_cons_of_mem _ hin),
        ((ht.trans hanswer).trans (deploys_raiseBuilding _ _ _ _)).trans
          (deploys_modifyRole fun _ h _ => h)⟩
  joinRole := by
    rintro q rest t ⟨hitems, ht⟩
    exact ⟨fun item hin => hitems item (List.mem_cons_of_mem _ hin),
      ht.trans (deploys_joinRole t _)⟩
  campBuilding := by
    rintro campId description rest t ⟨hitems, ht⟩
    have hanswer : Deploys data p t t.allocateBuilding.2 := deploys_roles rfl rfl rfl fun _ => id
    rw [deployCampBuilding]
    split
    · rename_i u hu
      obtain rfl : t.allocateBuilding.2 = u := congrArg Prod.snd hu
      exact ⟨_, ht.trans hanswer, rfl⟩
    · rename_i u hu
      obtain rfl : t.allocateBuilding.2 = u := congrArg Prod.snd hu
      exact ⟨fun item hin => hitems item (List.mem_cons_of_mem _ hin),
        (ht.trans hanswer).trans (deploys_raiseBuilding _ _ _ _)⟩

theorem Deploys.held (h : Deploys data p s s') :
    s'.combatPool.Held p' ↔ s.combatPool.Held p' := by
  rw [PoolTemplate.Held, PoolTemplate.Held, h.live, h.list]

theorem Deploys.enrolled (h : Deploys data p s s') (he : s.Enrolled)
    (hreg : s.combats[(s.combat p).id]? = some p) : s'.Enrolled := by
  constructor
  · constructor
    · rw [h.list]
      exact he.pool.nodup
    · intro p' hp
      rw [h.live]
      rw [h.list] at hp
      exact he.pool.live p' hp
  · intro c p' hc
    rw [h.combats] at hc
    obtain ⟨hheld, hid⟩ := he.combats c p' hc
    refine ⟨h.held.mpr hheld, ?_⟩
    by_cases heq : p' = p
    · rw [heq, h.combat.1, ← heq]
      exact hid
    · rw [h.others p' heq]
      exact hid
  · intro p' id b hb
    rw [h.combats]
    by_cases heq : p' = p
    · subst heq
      rw [h.combat.1]
      exact ⟨h.keyed (fun id b hb => (he.buildings p' id b hb).1) id b hb, hreg⟩
    · rw [h.others p' heq] at hb ⊢
      exact he.buildings p' id b hb

theorem Deploys.paced (h : Deploys data p s s') (hdata : data.Paced) (hs : s.Paced) :
    s'.Paced := by
  constructor
  · constructor
    · intro p' id w hw
      by_cases heq : p' = p
      · rw [heq, h.combat.2.2] at hw
        exact hs.warriors p id w hw
      · rw [h.others p' heq] at hw
        exact hs.warriors p' id w hw
    · exact h.descriptions hdata hs.descriptions
  · intro c p' hc
    rw [h.combats] at hc
    by_cases heq : p' = p
    · rw [heq, h.combat.2.1, ← heq]
      exact hs.times c p' hc
    · rw [h.others p' heq]
      exact hs.times c p' hc

/-- The combat that a request opens: it has neither buildings nor an id that leads to it. -/
theorem Enrolled.opened (h : s.Enrolled) {pool : PoolTemplate CombatField}
    (hanswer : s.combatPool.allocate = (some p, pool)) (data : CombatInitialData)
    (session : SessionPtr) :
    (s.openCombat p pool data session).combatPool.Sound ∧
      (s.openCombat p pool data session).combatPool.Held p ∧
      (∀ (c : Int) p', s.combats[c]? = some p' → p' ≠ p ∧
        (s.openCombat p pool data session).combatPool.Held p') ∧
      (∀ p', p' ≠ p → (s.openCombat p pool data session).combat p' = s.combat p') ∧
      ((s.openCombat p pool data session).combat p).id = s.combatIds ∧
      ((s.openCombat p pool data session).combat p).maxTime = data.maxTime ∧
      ((s.openCombat p pool data session).combat p).warriors = (s.combat p).warriors ∧
      ∀ (id : Int) b, ((s.openCombat p pool data session).combat p).buildings[id]? ≠ some b := by
  obtain ⟨hheld, hnew⟩ := PoolTemplate.allocate_held h.pool hanswer
  have hgrown := PoolTemplate.grown_of_allocate h.pool hanswer
  have hread : ∀ p', pool.read p' = s.combat p' := by
    intro p'
    have hsame := allocate_read s.combatPool p'
    rwa [hanswer] at hsame
  obtain ⟨opened, hopened⟩ : ∃ change : CombatField → CombatField, ∀ combat, change combat =
      ({ combat with id := s.combatIds }.initializeCombat data.mapId data.maxTime session) :=
    ⟨_, fun _ => rfl⟩
  have hlive : ((pool.modify p fun combat => { combat with id := s.combatIds }).objects p).isSome := by
    rw [PoolTemplate.modify_isSome]
    exact hheld.1
  have hcombat : (s.openCombat p pool data session).combat p = opened (s.combat p) := by
    rw [hopened, ← hread, ← PoolTemplate.read_modify hheld.1 fun combat => { combat with
      id := s.combatIds }]
    exact PoolTemplate.read_modify hlive _
  refine ⟨(hgrown.sound.modify p _).modify p _, ?_, fun c p' hc => ⟨?_, ?_⟩, fun p' hne => ?_, ?_⟩
  · exact (PoolTemplate.held_modify _).mpr ((PoolTemplate.held_modify _).mpr hheld)
  · rintro rfl
    exact hnew (h.combats c p' hc).1
  · exact (PoolTemplate.held_modify _).mpr ((PoolTemplate.held_modify _).mpr
      (hgrown.held (h.combats c p' hc).1))
  · have hother : ((pool.modify p fun combat => { combat with id := s.combatIds }).read p') =
        s.combat p' := by
      rw [PoolTemplate.read_modify_other _ hne, hread]
    exact (PoolTemplate.read_modify_other _ hne _).trans hother
  · rw [hcombat, hopened]
    refine ⟨rfl, rfl, rfl, fun id b hb => ?_⟩
    exact hnew (h.combats _ p (h.buildings p id b hb).2).1

/-- The id that is given next leads to the combat that a request opens. -/
def enrollCombat (s : CombatManagers) (p : Ptr) (pool : PoolTemplate CombatField)
    (data : CombatInitialData) (session : SessionPtr) : CombatManagers :=
  { s.openCombat p pool data session with combats := s.combats.insert s.combatIds p }

theorem Enrolled.enrollCombat (h : s.Enrolled) {pool : PoolTemplate CombatField}
    (hanswer : s.combatPool.allocate = (some p, pool)) (hid : s.combatIds ∉ s.combats)
    (data : CombatInitialData) (session : SessionPtr) :
    (s.enrollCombat p pool data session).Enrolled ∧
      Untouched none s (s.enrollCombat p pool data session) ∧
      (data.Paced → s.Paced → (s.enrollCombat p pool data session).Paced) ∧
      (s.enrollCombat p pool data session).combats[s.combatIds]? = some p := by
  obtain ⟨hsound, hheld, hcombats, hothers, hcombatId, hmaxTime, hwarriors, hempty⟩ :=
    h.opened hanswer data session
  have hentry : ∀ c : Int, (s.enrollCombat p pool data session).combats[c]? =
      if c = s.combatIds then some p else s.combats[c]? := by
    intro c
    rw [CombatManagers.enrollCombat, ExtTreeMap.getElem?_insert]
    by_cases heq : c = s.combatIds
    · rw [if_pos heq, if_pos (Std.compare_eq_iff_eq.mpr heq.symm)]
    · rw [if_neg heq, if_neg fun hcompare => heq (Std.compare_eq_iff_eq.mp hcompare).symm]
  have hother : ∀ c p', s.combats[c]? = some p' → c ≠ s.combatIds := by
    rintro c p' hc rfl
    rw [ExtTreeMap.mem_iff_isSome_getElem?, hc] at hid
    exact hid rfl
  refine ⟨⟨hsound, fun c p' hc => ?_, fun p' id b hb => ?_⟩, fun c p' hc _ => ?_, ?_, ?_⟩
  · rw [hentry] at hc
    split at hc
    · rename_i heq
      obtain rfl := Option.some.inj hc
      exact ⟨hheld, hcombatId.trans heq.symm⟩
    · obtain ⟨hne, hheld'⟩ := hcombats c p' hc
      exact ⟨hheld', (congrArg CombatField.id (hothers p' hne)).trans (h.combats c p' hc).2⟩
  · by_cases hne : p' = p
    · rw [hne] at hb
      exact absurd hb (hempty id b)
    · have hsame := hothers p' hne
      have hb : (s.combat p').buildings[id]? = some b := by
        rw [← hsame]
        exact hb
      obtain ⟨hbid, hreg⟩ := h.buildings p' id b hb
      refine ⟨hbid, ?_⟩
      rw [show ((s.enrollCombat p pool data session).combat p').id = (s.combat p').id from
        congrArg CombatField.id hsame, hentry, if_neg (hother _ p' hreg), hreg]
  · rw [hentry, if_neg (hother c p' hc)]
    exact ⟨hc, hothers p' (hcombats c p' hc).1⟩
  · intro hdata hs
    refine ⟨⟨fun p' id w hw => ?_, hs.descriptions⟩, fun c p' hc => ?_⟩
    · by_cases hne : p' = p
      · have hw : ((s.openCombat p pool data session).combat p).warriors[id]? = some w := hne ▸ hw
        rw [hwarriors] at hw
        exact hs.warriors p id w hw
      · have hw : ((s.openCombat p pool data session).combat p').warriors[id]? = some w := hw
        rw [hothers p' hne] at hw
        exact hs.warriors p' id w hw
    · rw [hentry] at hc
      split at hc
      · obtain rfl := Option.some.inj hc
        show PacedTime ((s.openCombat p pool data session).combat p).maxTime
        rw [hmaxTime]
        exact hdata.1
      · show PacedTime ((s.openCombat p pool data session).combat p').maxTime
        rw [hothers p' (hcombats c p' hc).1]
        exact hs.times c p' hc
  · rw [hentry, if_pos rfl]

theorem Enrolled.ends_deploy (h : s.Enrolled) (session : SessionPtr) (data : CombatInitialData) :
    Attempts.Ends
      (fun r => r.2.Enrolled ∧ Untouched none s r.2 ∧ (data.Paced → s.Paced → r.2.Paced) ∧
        Admits s r.2)
      (fun t => t.Enrolled ∧ Untouched none s t ∧ (data.Paced → s.Paced → t.Paced) ∧ Admits s t)
      (s.deployCombat session data) := by
  obtain ⟨answer, pool, hanswer⟩ : ∃ answer pool, s.combatPool.allocate = (answer, pool) :=
    ⟨_, _, rfl⟩
  cases answer with
  | none =>
    have hgrown := PoolTemplate.grown_of_allocate h.pool hanswer
    have hcombat : ∀ p, ({ s with combatPool := pool } : CombatManagers).combat p = s.combat p := by
      intro p
      have hsame := allocate_read s.combatPool p
      rwa [hanswer] at hsame
    rw [deployCombat_none hanswer]
    refine ⟨⟨hgrown.sound, fun c p hc => ?_, fun p id b hb => ?_⟩, fun c p hc _ => ?_, ?_⟩
    · obtain ⟨hheld, hid⟩ := h.combats c p hc
      rw [hcombat]
      exact ⟨hgrown.held hheld, hid⟩
    · rw [hcombat] at hb ⊢
      exact h.buildings p id b hb
    · exact ⟨hc, hcombat p⟩
    · refine ⟨fun _ hs => ?_, .same rfl rfl⟩
      refine ⟨⟨fun p id w hw => ?_, hs.descriptions⟩, fun c p hc => ?_⟩
      · rw [hcombat] at hw
        exact hs.warriors p id w hw
      · rw [hcombat]
        exact hs.times c p hc
  | some p =>
    obtain ⟨hsound, hheld, hcombats, hothers, hcombatId, hmaxTime, hwarriors, hempty⟩ :=
      h.opened hanswer data session
    have hadd : (s.openCombat p pool data session).addCombat p =
        if s.combats.contains s.combatIds then none
        else some (s.enrollCombat p pool data session) := by
      rw [addCombat, hcombatId]
      rfl
    by_cases hid : s.combats.contains s.combatIds
    · rw [deployCombat_taken hanswer (hadd.trans (if_pos hid))]
      obtain ⟨henrolled, hsame, hkept, hpaced⟩ := Enrolled.giveBack
        (s := s.openCombat p pool data session) hsound hheld
        (fun c p' hc => by
          obtain ⟨hne, hheld'⟩ := hcombats c p' hc
          rw [hothers p' hne]
          exact ⟨hne, hheld', (h.combats c p' hc).2⟩)
        fun p' id b hne hb => by
          rw [hothers p' hne] at hb ⊢
          exact h.buildings p' id b hb
      refine ⟨henrolled, fun c p' hc _ => ?_, fun _ hs => ?_, ?_⟩
      · rw [hsame, hkept c p' hc]
        exact ⟨hc, hothers p' (hcombats c p' hc).1⟩
      · refine ⟨hpaced ⟨fun p' id w hw => ?_, hs.descriptions⟩, fun c p' hc => ?_⟩
        · by_cases hne : p' = p
          · rw [hne, hwarriors] at hw
            exact hs.warriors p id w hw
          · rw [hothers p' hne] at hw
            exact hs.warriors p' id w hw
        · rw [hsame] at hc
          rw [hkept c p' hc, hothers p' (hcombats c p' hc).1]
          exact hs.times c p' hc
      · refine ⟨?_, fun c p' hc => ?_⟩
        · have hids : (((s.openCombat p pool data session).finalizeCombat p).deallocateCombat
              p).combatIds = s.combatIds + 1 := finalizeCombat_combatIds _ p
          omega
        · rw [hsame] at hc
          exact Or.inl hc
    · rw [deployCombat_added hanswer (hadd.trans (if_neg hid))]
      obtain ⟨henrolled, hlasts, hpaced, hreg⟩ := h.enrollCombat hanswer
        (fun hin => hid (ExtTreeMap.contains_iff_mem.mpr hin)) data session
      have hids : ((s.enrollCombat p pool data session).combat p).id = s.combatIds :=
        (henrolled.combats _ p hreg).2
      have hloop := (deploysRule data (s.enrollCombat p pool data session) p).ends_deployCamps
        ⟨fun item hin => hin, Deploys.refl data p _⟩
      have hkept : ∀ {t : CombatManagers}, Deploys data p (s.enrollCombat p pool data session) t →
          t.Enrolled ∧ Untouched none s t ∧ (data.Paced → s.Paced → t.Paced) ∧ Admits s t := by
        intro t ht
        have hnext : t.combatIds = s.combatIds + 1 := ht.combatIds
        refine ⟨ht.enrolled henrolled (by rw [hids, hreg]), fun c p' hc hne => ?_,
          fun hdata hs => ht.paced hdata (hpaced hdata hs), by omega, fun c p' hc => ?_⟩
        · obtain ⟨hc', hstays⟩ := hlasts c p' hc hne
          rw [ht.combats, ht.others p' (hcombats c p' hc).1]
          exact ⟨hc', hstays⟩
        · rw [ht.combats, CombatManagers.enrollCombat, ExtTreeMap.getElem?_insert] at hc
          split at hc
          · rename_i heq
            have hc' := Std.compare_eq_iff_eq.mp heq
            exact Or.inr ⟨by omega, by omega⟩
          · exact Or.inl hc
      refine Attempts.Ends.bind (hloop.mono (fun _ h => h) ?_) ?_
      · rintro t ⟨u, hu, rfl⟩
        obtain ⟨hue, hul, hup, hua⟩ := hkept hu
        have hreg' : u.combats[s.combatIds]? = some p := by rw [hu.combats, hreg]
        obtain ⟨hdown, huntouched⟩ := hue.takenDown hreg'
        rw [abandonCombat, hu.combat.1, hids]
        refine ⟨hdown.enrolled, fun c p' hc hne => ?_, fun hdata hs => hdown.paced (hup hdata hs),
          hua.trans (takenDown_admits u s.combatIds p)⟩
        obtain ⟨hc', hstays⟩ := hul c p' hc hne
        have hother : some s.combatIds ≠ some c := by
          intro heq
          rw [Option.some.inj heq] at hreg'
          rw [hc'] at hreg'
          exact (hcombats c p' hc).1 (Option.some.inj hreg')
        obtain ⟨hc'', hstays'⟩ := huntouched c p' hc' hother
        exact ⟨hc'', hstays'.trans hstays⟩
      · rintro t ⟨_, ht⟩
        exact hkept ht

/-- A request to deploy, whatever becomes of it. -/
theorem Enrolled.deploy (h : s.Enrolled) (session : SessionPtr) (hostId : Int)
    (data : CombatInitialData) :
    (s.onMessageCombatDeployRequest session hostId data).Enrolled ∧
      Lasts none s (s.onMessageCombatDeployRequest session hostId data) ∧
      (data.Paced → s.Paced → (s.onMessageCombatDeployRequest session hostId data).Paced) ∧
      Admits s (s.onMessageCombatDeployRequest session hostId data) := by
  have hsent : ∀ {t : CombatManagers} (message : CombatMessage),
      (t.Enrolled ∧ Untouched none s t ∧ (data.Paced → s.Paced → t.Paced) ∧ Admits s t) →
      (t.send session message).Enrolled ∧ Lasts none s (t.send session message) ∧
        (data.Paced → s.Paced → (t.send session message).Paced) ∧
          Admits s (t.send session message) := by
    rintro t message ⟨ht, hlasts, hpaced, hadmits⟩
    have hsend := goes_send t session message
    exact ⟨hsend.enrolled ht, hlasts.lasts.trans (hsend.lasts _),
      fun hdata hs => hsend.keepsPace (hpaced hdata hs), hadmits.trans hsend.admits⟩
  have hends := h.ends_deploy session data
  rw [onMessageCombatDeployRequest]
  split
  · rename_i t ht
    exact hsent _ (hends.error ht)
  · rename_i p t ht
    exact hsent _ (hends.ok ht)

theorem Enrolled.deploy_untouched (h : s.Enrolled) (session : SessionPtr) (hostId : Int)
    (data : CombatInitialData) :
    Untouched none s (s.onMessageCombatDeployRequest session hostId data) := by
  have hends := h.ends_deploy session data
  rw [onMessageCombatDeployRequest]
  split
  · rename_i t ht
    exact (hends.error ht).2.1
  · rename_i p t ht
    exact (hends.ok ht).2.1

/-! ## The start -/

/-- All combats of a server that was just started are new. -/
theorem started_combat (combatSize combatExtend : Nat) (combatNews : List (Option Ptr))
    (rolePool : PoolTemplate CombatRoleField) (buildingAnswers warriorAnswers : List Bool)
    (p : Ptr) : (started (.new combatSize combatExtend combatNews) rolePool buildingAnswers
      warriorAnswers).combat p = default := by
  rcases (PoolTemplate.new_grown (E := CombatField) combatSize combatExtend combatNews).objects p
    with hnone | ⟨_, hnew⟩
  · rw [combat, started, PoolTemplate.read, hnone]
    rfl
  · rw [combat, started, PoolTemplate.read, hnew]
    rfl

theorem started_role (combatPool : PoolTemplate CombatField) (roleSize roleExtend : Nat)
    (roleNews : List (Option Ptr)) (buildingAnswers warriorAnswers : List Bool) (q : Ptr) :
    (started combatPool (.new roleSize roleExtend roleNews) buildingAnswers
      warriorAnswers).role q = default := by
  rcases (PoolTemplate.new_grown (E := CombatRoleField) roleSize roleExtend roleNews).objects q
    with hnone | ⟨_, hnew⟩
  · rw [role, started, PoolTemplate.read, hnone]
    rfl
  · rw [role, started, PoolTemplate.read, hnew]
    rfl

theorem started_combats (combatSize combatExtend roleSize roleExtend : Nat)
    (combatNews roleNews : List (Option Ptr)) (buildingAnswers warriorAnswers : List Bool) :
    (started (.new combatSize combatExtend combatNews) (.new roleSize roleExtend roleNews)
      buildingAnswers warriorAnswers).Enrolled ∧
    (started (.new combatSize combatExtend combatNews) (.new roleSize roleExtend roleNews)
      buildingAnswers warriorAnswers).Paced := by
  obtain ⟨m, hm⟩ : ∃ m, started (.new combatSize combatExtend combatNews)
    (.new roleSize roleExtend roleNews) buildingAnswers warriorAnswers = m := ⟨_, rfl⟩
  have hcombat : ∀ p, m.combat p = default := hm ▸ started_combat _ _ _ _ _ _
  have hrole : ∀ q, m.role q = default := hm ▸ started_role _ _ _ _ _ _
  have hcombats : ∀ c : Int, m.combats[c]? = none := by
    intro c
    subst hm
    show (∅ : ExtTreeMap Int Ptr)[c]? = none
    simp
  rw [hm]
  refine ⟨⟨?_, fun c p hc => ?_, fun p id b hb => ?_⟩, ⟨fun p id w hw => ?_, fun q id d hd => ?_⟩,
    fun c p hc => ?_⟩
  · subst hm
    exact (PoolTemplate.new_grown combatSize combatExtend combatNews).sound
  · rw [hcombats] at hc
    cases hc
  · rw [hcombat] at hb
    rw [new_buildings] at hb
    cases hb
  · rw [hcombat] at hw
    rw [new_warriors] at hw
    cases hw
  · rw [hrole] at hd
    rw [new_descriptions] at hd
    cases hd
  · rw [hcombats] at hc
    cases hc

end CombatManagers

end Mysya
